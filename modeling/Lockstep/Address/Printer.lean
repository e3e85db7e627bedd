import Lockstep.Address

/-!
# Written addresses

The canonical text of an address.  In the second family the longest run of at least two zero
groups, the first of several equally long ones, is written as two colons, and an address that
embeds one of the first family shows it.
-/

namespace Lockstep

namespace Ip

/-- Lower-case hexadecimal digits without leading zeros. -/
def groupText (group : UInt16) : String :=
  String.ofList (Nat.toDigits 16 group.toNat)

def v4Text (first second third fourth : UInt8) : String :=
  s!"{first.toNat}.{second.toNat}.{third.toNat}.{fourth.toNat}"

/-- How many groups from the front are zero. -/
def zeroRun (groups : List UInt16) : Nat :=
  (groups.takeWhile (· == 0)).length

/-- Start and length of the first longest run of zero groups, where `start` groups were passed. -/
def longestZeroRun : Nat → List UInt16 → Nat × Nat
  | _, [] => (0, 0)
  | start, group :: rest =>
    let here := zeroRun (group :: rest)
    let later := longestZeroRun (start + 1) rest
    if here ≥ later.2 then (start, here) else later

def joinGroups (groups : List UInt16) : String :=
  ":".intercalate (groups.map groupText)

def v6Text (groups : List UInt16) : String :=
  match groups with
  | [0, 0, 0, 0, 0, 0xFFFF, high, low] =>
    let (high, low) := (high.toNat, low.toNat)
    s!"::ffff:{high / 256}.{high % 256}.{low / 256}.{low % 256}"
  | _ =>
    let (start, length) := longestZeroRun 0 groups
    if length ≥ 2 then
      s!"{joinGroups (groups.take start)}::{joinGroups (groups.drop (start + length))}"
    else joinGroups groups

def text : Ip → String
  | .v4 first second third fourth => v4Text first second third fourth
  | .v6 groups => v6Text groups.toList

end Ip

namespace SocketAddress

def text (address : SocketAddress) : String :=
  match address.ip with
  | .v4 .. => s!"{address.ip.text}:{address.port.toNat}"
  | .v6 _ =>
    if address.scope = 0 then s!"[{address.ip.text}]:{address.port.toNat}"
    else s!"[{address.ip.text}%{address.scope.toNat}]:{address.port.toNat}"

end SocketAddress

end Lockstep
