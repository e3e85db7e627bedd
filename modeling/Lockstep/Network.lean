import Lockstep.Address
import Lockstep.Bytes
import Lockstep.SystemError

/-!
# Networks

The sockets of one host and the datagrams that leave it.  A socket is known by the address it is
bound to.  Two sockets cannot share a port if one of them would get what is meant for the other.
Datagrams leave in the order in which they were sent; whether they arrive anywhere is not decided
here.
-/

namespace Lockstep

structure Datagram where
  time : Nat
  source : SocketAddress
  destination : SocketAddress
  payload : Bytes
deriving DecidableEq, Repr

/-- A failure that is going to hit the next send, of one socket or of any. -/
structure SendFault where
  socket : Option SocketAddress
  error : SystemError
deriving DecidableEq, Repr

structure Network where
  sockets : List SocketAddress := []
  /-- The first port that a socket without a wish for a port is offered. -/
  nextPort : Nat := 50000
  faults : List SendFault := []
  /-- What was sent and has not left yet, the oldest first. -/
  outbox : List Datagram := []

namespace Ip

/-- The address of the host in its own network. -/
def ownAddress : Family → Ip
  | .four => .v4 10 0 0 1
  | .six => .v6 #v[0xFD00, 0, 0, 0, 0, 0, 0, 1]

/-- Sockets can be bound to the address. -/
def isLocal (ip : Ip) : Bool :=
  ip.isUnspecified || ip.isLoopback ||
    match ip with
    | .v4 first _ _ _ => first = 10
    | .v6 groups => groups.toList.head? = some 0xFD00

end Ip

namespace SocketAddress

/-- Two sockets with these addresses could both be meant by one datagram. -/
def overlaps (first second : SocketAddress) : Bool :=
  first.port = second.port && first.ip.family = second.ip.family &&
    (first.ip = second.ip || first.ip.isUnspecified || second.ip.isUnspecified)

/-- The address that a datagram to `destination` comes from. -/
def sourceFor (socket destination : SocketAddress) : SocketAddress :=
  if socket.ip.isUnspecified then
    let ip :=
      if destination.ip.isLoopback then Ip.localhost socket.ip.family
      else Ip.ownAddress socket.ip.family
    { socket with ip }
  else socket

end SocketAddress

namespace Network

def isTaken (network : Network) (address : SocketAddress) : Bool :=
  network.sockets.any (·.overlaps address)

/-- The first free port from `port` on; the last argument bounds the search. -/
def freePort (network : Network) (ip : Ip) (port : Nat) : Nat → Nat
  | 0 => port
  | tries + 1 =>
    if network.isTaken ⟨ip, UInt16.ofNat port, 0⟩ then network.freePort ip (port + 1) tries
    else port

/-- Opens a socket.  Port zero leaves the choice of the port to the host. -/
def bind (network : Network) (address : SocketAddress) :
    Except SystemError SocketAddress × Network :=
  if !address.ip.isLocal then (.error .addressNotAvailable, network)
  else if address.port = 0 then
    let port := network.freePort address.ip network.nextPort (network.sockets.length + 1)
    let socket := { address with port := UInt16.ofNat port }
    (.ok socket, { network with sockets := network.sockets ++ [socket], nextPort := port + 1 })
  else if network.isTaken address then (.error .addressInUse, network)
  else (.ok address, { network with sockets := network.sockets ++ [address] })

def close (network : Network) (socket : SocketAddress) : Network :=
  { network with sockets := network.sockets.filter (· ≠ socket) }

/-- The failure that a send from `socket` runs into, and those that stay. -/
def takeFault? (socket : SocketAddress) : List SendFault → Option (SystemError × List SendFault)
  | [] => none
  | fault :: rest =>
    if fault.socket.all (· = socket) then some (fault.error, rest)
    else (takeFault? socket rest).map fun (error, kept) => (error, fault :: kept)

def send (network : Network) (now : Nat) (socket destination : SocketAddress)
    (payload : Bytes) : Except SystemError Unit × Network :=
  match takeFault? socket network.faults with
  | some (error, faults) => (.error error, { network with faults })
  | none =>
    if socket.ip.family ≠ destination.ip.family then (.error .familyNotSupported, network)
    else if payload.length > maxDatagramSize then (.error .messageTooLong, network)
    else
      let datagram := ⟨now, socket.sourceFor destination, destination, payload⟩
      (.ok (), { network with outbox := network.outbox ++ [datagram] })

/-- The socket that gets a datagram for `destination`. -/
def receiverOf? (network : Network) (destination : SocketAddress) : Option SocketAddress :=
  let isGeneral (socket : SocketAddress) :=
    socket.ip.isUnspecified && socket.ip.family = destination.ip.family
      && socket.port = destination.port
  (network.sockets.find? (· = destination)).or (network.sockets.find? isGeneral)

end Network

end Lockstep
