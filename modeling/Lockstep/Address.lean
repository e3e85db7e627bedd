/-!
# Internet addresses

Addresses of hosts in both families, and of the sockets on them.  Only the classes of addresses
that decide how a socket can be bound and from where it sends are named here.
-/

namespace Lockstep

/-- The address of a host. -/
inductive Ip where
  /-- Four bytes, as in `127.0.0.1`. -/
  | v4 (first second third fourth : UInt8)
  /-- Eight groups of sixteen bits, as in `fd00:0:0:0:0:0:0:1`. -/
  | v6 (groups : Vector UInt16 8)
deriving DecidableEq, Repr

namespace Ip

inductive Family where
  | four
  | six
deriving DecidableEq, Repr

def family : Ip → Family
  | .v4 .. => .four
  | .v6 _ => .six

/-- The address that stands for all addresses of its family. -/
def unspecified : Family → Ip
  | .four => .v4 0 0 0 0
  | .six => .v6 #v[0, 0, 0, 0, 0, 0, 0, 0]

def isUnspecified (ip : Ip) : Bool :=
  ip = unspecified ip.family

/-- The usual address of the host itself. -/
def localhost : Family → Ip
  | .four => .v4 127 0 0 1
  | .six => .v6 #v[0, 0, 0, 0, 0, 0, 0, 1]

def isLoopback : Ip → Bool
  | .v4 first _ _ _ => first = 127
  | .v6 groups => Ip.v6 groups = localhost .six

end Ip

/-- The address of a socket. -/
structure SocketAddress where
  ip : Ip
  port : UInt16
  /-- The interface that an address of the second family is meant on; zero if it is left open. -/
  scope : UInt32 := 0
deriving DecidableEq, Repr

/-- Another port of the same host; the interface is left open. -/
def SocketAddress.withPort (address : SocketAddress) (port : UInt16) : SocketAddress :=
  ⟨address.ip, port, 0⟩

end Lockstep
