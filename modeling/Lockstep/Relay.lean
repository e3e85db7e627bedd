import Lockstep.Alteration.Queue
import Lockstep.Server

/-!
# Relays

A relay stands between one client and a server.  It has one socket for each side, and deals with
one datagram after the other.  It learns where the client and the server's side of the transfer
are from the datagrams themselves, and it sends everything on as it is unless the first alteration
in its queue is meant for it.

While an alteration makes the relay wait, everything else waits with it, in the order in which it
came in on its side.  After a datagram was dropped the next one from its side is let through as it
is, whatever the queue says.
-/

namespace Lockstep

structure RelayConfig where
  listenAddress : String := "0.0.0.0:2300"
  serverAddress : SocketAddress := { ip := Ip.localhost .four, port := 6900 }
  /-- The most that is taken of one datagram. -/
  buffer : Nat := 1500

/-- What a socket has to offer to its next receive. -/
inductive Reception where
  | datagram (source : SocketAddress) (payload : Bytes)
  | error (error : SystemError)
deriving DecidableEq, Repr

/-- How a datagram leaves the relay. -/
inductive Emission where
  /-- Through the socket of the side it is meant for. -/
  | forward (direction : Direction) (payload : Bytes) (destination : SocketAddress)
  /-- Through a socket that is opened for it alone. -/
  | disguised (alteration : Alteration) (direction : Direction) (payload : Bytes)
      (destination : SocketAddress)
deriving DecidableEq, Repr

namespace Relay

/-- An altered datagram on its way. -/
structure Job where
  alteration : Alteration
  direction : Direction
  payload : Bytes
  destination : SocketAddress
deriving DecidableEq, Repr

inductive Phase where
  /-- For whatever comes next. -/
  | listening
  /-- Until a delayed datagram may go on. -/
  | delaying (deadline : Nat) (job : Job)
  /-- For the datagram that takes the place of a dropped one. -/
  | replacing (direction : Direction)
  /-- Until a datagram is sent for the second time. -/
  | repeating (deadline : Nat) (job : Job)
deriving DecidableEq, Repr

end Relay

structure Relay where
  clientSocket : SocketAddress
  serverSocket : SocketAddress
  serverAddress : SocketAddress
  buffer : Nat
  queue : AlterationQueue
  client : Option SocketAddress := none
  /-- The server's side of the transfer. -/
  serverTid : Option SocketAddress := none
  /-- What has come in from each side and was not dealt with yet. -/
  fromClient : List Reception := []
  fromServer : List Reception := []
  /-- What the relay waits for. -/
  phase : Relay.Phase := .listening
  isStopping : Bool := false
  /-- The running number of the wait. -/
  since : Nat := 0
deriving DecidableEq, Repr

namespace Relay

/-- Learns from where a datagram came, and tells where it goes. -/
def route (relay : Relay) (direction : Direction) (source : SocketAddress) (datagram : Bytes) :
    Relay × Option SocketAddress :=
  match direction with
  | .clientToServer =>
    if Target.ofDatagram? datagram = some .request then
      ({ relay with client := some source, serverTid := none }, some relay.serverAddress)
    else
      ({ relay with client := some (relay.client.getD source) },
        some (relay.serverTid.getD relay.serverAddress))
  | .serverToClient => ({ relay with serverTid := some source }, relay.client)

def Job.emission (job : Job) : Emission :=
  if job.alteration.tid.isNone && job.alteration.address.isNone then
    .forward job.direction job.payload job.destination
  else .disguised job.alteration job.direction job.payload job.destination

/-- The delay of a datagram, if there is one, is over. -/
def dispose (relay : Relay) (job : Job) (now since : Nat) : Relay × List Emission :=
  if job.alteration.drop then ({ relay with phase := .replacing job.direction }, [])
  else match job.alteration.duplicate with
    | some gap => ({ relay with phase := .repeating (now + gap) job, since }, [job.emission])
    | none => ({ relay with phase := .listening }, [job.emission])

/-- Deals with a datagram. -/
def relay (relay : Relay) (direction : Direction) (source : SocketAddress) (datagram : Bytes)
    (now since : Nat) : Relay × List Emission :=
  match relay.route direction source datagram with
  | (relay, none) => (relay, [])
  | (relay, some destination) =>
    match relay.queue.take? direction datagram with
    | none => (relay, [.forward direction datagram destination])
    | some (alteration, queue) =>
      let relay := { relay with queue }
      let job := ⟨alteration, direction, alteration.apply datagram, destination⟩
      match alteration.delay with
      | some delay => ({ relay with phase := .delaying (now + delay) job, since }, [])
      | none => relay.dispose job now since

/-- Deals with a datagram that takes the place of a dropped one. -/
def replace (relay : Relay) (direction : Direction) (source : SocketAddress) (datagram : Bytes) :
    Relay × List Emission :=
  match relay.route direction source datagram with
  | (relay, none) => ({ relay with phase := .listening }, [])
  | (relay, some destination) =>
    ({ relay with phase := .listening }, [.forward direction datagram destination])

/-- The next thing that the relay does without waiting. -/
inductive Step where
  | waits
  | stops (outcome : Except Failure Unit)
  | goesOn (relay : Relay) (emissions : List Emission)

/-- Receives on one side, and hands a datagram on. -/
def receive (relay : Relay) (reception : Reception)
    (next : Relay → SocketAddress → Bytes → Relay × List Emission) : Step :=
  match reception with
  | .datagram source payload =>
    let (relay, emissions) := next relay source (payload.take relay.buffer)
    .goesOn relay emissions
  | .error error =>
    if error.isBounce then .goesOn relay []
    else .stops (.error (.ofSystem "Relay receive failed" error))

/-- The next reception of one side, and the relay without it. -/
def nextFrom? (relay : Relay) (direction : Direction) : Option (Reception × Relay) :=
  match direction with
  | .clientToServer =>
    match relay.fromClient with
    | [] => none
    | first :: rest => some (first, { relay with fromClient := rest })
  | .serverToClient =>
    match relay.fromServer with
    | [] => none
    | first :: rest => some (first, { relay with fromServer := rest })

def step (relay : Relay) (now since : Nat) : Step :=
  match relay.phase with
  | .listening =>
    if relay.isStopping then .stops (.ok ())
    else match relay.nextFrom? .clientToServer with
      | some (reception, relay) =>
        relay.receive reception fun relay source datagram =>
          relay.relay .clientToServer source datagram now since
      | none =>
        match relay.nextFrom? .serverToClient with
        | some (reception, relay) =>
          relay.receive reception fun relay source datagram =>
            relay.relay .serverToClient source datagram now since
        | none => .waits
  | .delaying deadline job =>
    if deadline ≤ now then
      let (relay, emissions) := relay.dispose job now since
      .goesOn relay emissions
    else .waits
  | .replacing direction =>
    if relay.isStopping then .stops (.ok ())
    else match relay.nextFrom? direction with
      | some (reception, relay) =>
        relay.receive reception fun relay source datagram =>
          relay.replace direction source datagram
      | none => .waits
  | .repeating deadline job =>
    if deadline ≤ now then .goesOn { relay with phase := .listening } [job.emission]
    else .waits

/-- How many steps a phase can lead to without anything being received. -/
def Phase.weight : Phase → Nat
  | .delaying .. => 2
  | .repeating .. => 1
  | .listening | .replacing _ => 0

/-- More steps than the relay can take without waiting. -/
def work (relay : Relay) : Nat :=
  3 * (relay.fromClient.length + relay.fromServer.length) + relay.phase.weight + 1

/-- What the relay has come to when it waits again. -/
inductive Rest where
  | waiting (relay : Relay)
  | stopped (queue : AlterationQueue) (outcome : Except Failure Unit)

/-- Steps until the relay waits or stops, but no more than `fuel` of them. -/
def advance (relay : Relay) (now since : Nat) : Nat → Rest × List Emission
  | 0 => (.waiting relay, [])
  | fuel + 1 =>
    match relay.step now since with
    | .waits => (.waiting relay, [])
    | .stops outcome => (.stopped relay.queue outcome, [])
    | .goesOn relay emissions =>
      let (rest, later) := relay.advance now since fuel
      (rest, emissions ++ later)

/-- Does everything that can be done without waiting. -/
def proceed (relay : Relay) (now since : Nat) : Rest × List Emission :=
  relay.advance now since relay.work

/-- When the relay goes on by itself. -/
def deadline? (relay : Relay) : Option Nat :=
  match relay.phase with
  | .delaying deadline _ | .repeating deadline _ => some deadline
  | .listening | .replacing _ => none

/-- Something has come in at one of the sockets. -/
def enqueue (relay : Relay) (socket : SocketAddress) (reception : Reception) : Relay :=
  if socket = relay.clientSocket then
    { relay with fromClient := relay.fromClient ++ [reception] }
  else { relay with fromServer := relay.fromServer ++ [reception] }

/-! ## On a host -/

/-- The socket that datagrams of a direction leave through. -/
def outbound (relay : Relay) : Direction → SocketAddress
  | .clientToServer => relay.serverSocket
  | .serverToClient => relay.clientSocket

/-- Lets a datagram out.  A datagram that cannot be sent is lost. -/
def emit (relay : Relay) (emission : Emission) : Program Unit := do
  match emission with
  | .forward direction payload destination =>
    let _ ← Program.call (.send (relay.outbound direction) destination payload)
  | .disguised alteration direction payload destination =>
    let ip := alteration.address.getD (relay.outbound direction).ip
    match ← Program.call (.bind ⟨ip, alteration.tid.getD 0, 0⟩) with
    | .error _ => return
    | .ok socket =>
      let _ ← Program.call (.send socket destination payload)
      Program.call (.close socket)

def emitAll (relay : Relay) : List Emission → Program Unit
  | [] => return
  | emission :: rest => do
    relay.emit emission
    relay.emitAll rest

/-- Closes both sockets. -/
def close (relay : Relay) : Program Unit := do
  Program.call (.close relay.clientSocket)
  Program.call (.close relay.serverSocket)

/-- Opens both sockets. -/
def bind (config : RelayConfig) (queue : AlterationQueue) : Program (Except Failure Relay) := do
  match ← bindText config.listenAddress with
  | .error error =>
    return .error (.ofSystem s!"Failed to bind error simulator to {config.listenAddress}" error)
  | .ok clientSocket =>
    let ip := Ip.unspecified config.serverAddress.ip.family
    match ← Program.call (.bind ⟨ip, 0, 0⟩) with
    | .error error =>
      Program.call (.close clientSocket)
      return .error (.ofSystem "Failed to bind server-side relay socket" error)
    | .ok serverSocket =>
      return .ok
        { clientSocket, serverSocket, serverAddress := config.serverAddress,
          buffer := config.buffer, queue }

/-- Does everything that can be done without waiting, and closes the sockets if that is the
end. -/
def run (relay : Relay) (now since : Nat) : Program Rest := do
  let (rest, emissions) := relay.proceed now since
  relay.emitAll emissions
  match rest with
  | .waiting _ => return rest
  | .stopped .. =>
    relay.close
    return rest

end Relay

end Lockstep
