import Lockstep.Address

/-!
# Reading addresses

The texts that denote addresses.  Each reader takes what it needs from the front of a text and
hands back the rest; an address is read only if nothing is left over.
-/

namespace Lockstep

namespace Ip

/-- A reader of the front of a text. -/
abbrev Reader (Value : Type) := List Char → Option (Value × List Char)

def digitValue? (radix : Nat) (character : Char) : Option Nat :=
  let value? :=
    if character.isDigit then some (character.toNat - '0'.toNat)
    else if 'a' ≤ character ∧ character ≤ 'f' then some (character.toNat - 'a'.toNat + 10)
    else if 'A' ≤ character ∧ character ≤ 'F' then some (character.toNat - 'A'.toNat + 10)
    else none
  value?.filter (· < radix)

/-- How a number may be written. -/
structure NumberForm where
  radix : Nat
  /-- The numbers that are admitted are below this one. -/
  limit : Nat
  maxDigits : Option Nat := none
  leadingZeros : Bool := true

/-- All digits at the front, which must be a number of the given form. -/
def readNumber (form : NumberForm) : Reader Nat := fun characters =>
  let digits := characters.takeWhile fun character => (digitValue? form.radix character).isSome
  let value := digits.foldl
    (fun value digit => value * form.radix + (digitValue? form.radix digit).getD 0) 0
  if digits.isEmpty || form.maxDigits.any (digits.length > ·)
      || (!form.leadingZeros && digits.length > 1 && digits.head? == some '0')
      || value ≥ form.limit then none
  else some (value, characters.drop digits.length)

def readChar (expected : Char) : Reader Unit
  | character :: rest => if character = expected then some ((), rest) else none
  | [] => none

def readByte : Reader UInt8 := fun characters => do
  let (value, rest) ← readNumber
    { radix := 10, limit := 256, maxDigits := some 3, leadingZeros := false } characters
  return (UInt8.ofNat value, rest)

def readV4 : Reader (UInt8 × UInt8 × UInt8 × UInt8) := fun characters => do
  let (first, rest) ← readByte characters
  let (_, rest) ← readChar '.' rest
  let (second, rest) ← readByte rest
  let (_, rest) ← readChar '.' rest
  let (third, rest) ← readByte rest
  let (_, rest) ← readChar '.' rest
  let (fourth, rest) ← readByte rest
  return ((first, second, third, fourth), rest)

/-- A colon, except in front of the first group. -/
def readSeparator (isFirst : Bool) (characters : List Char) : Option (List Char) :=
  if isFirst then some characters else (readChar ':' characters).map (·.2)

/-- Up to `slots` groups; an embedded address of the first family fills two slots and is the last
thing read.  The flag tells whether there was one. -/
def readGroups (slots : Nat) (isFirst : Bool) (characters : List Char) :
    List UInt16 × Bool × List Char :=
  match slots with
  | 0 => ([], false, characters)
  | slots + 1 =>
    let embedded? := if slots = 0 then none else readSeparator isFirst characters >>= readV4
    match embedded? with
    | some ((first, second, third, fourth), rest) =>
      ([UInt16.ofNat (first.toNat * 256 + second.toNat),
        UInt16.ofNat (third.toNat * 256 + fourth.toNat)], true, rest)
    | none =>
      match readSeparator isFirst characters
          >>= readNumber { radix := 16, limit := 65536, maxDigits := some 4 } with
      | none => ([], false, characters)
      | some (group, rest) =>
        let (groups, hasEmbedded, rest) := readGroups slots false rest
        (UInt16.ofNat group :: groups, hasEmbedded, rest)

def ofGroups (groups : List UInt16) : Ip :=
  .v6 (Vector.ofFn fun index => groups.getD index 0)

def readV6 : Reader Ip := fun characters => do
  let (front, hasEmbedded, rest) := readGroups 8 true characters
  if front.length = 8 then return (ofGroups front, rest)
  if hasEmbedded then none
  let (_, rest) ← readChar ':' rest
  let (_, rest) ← readChar ':' rest
  let (back, _, rest) := readGroups (7 - front.length) true rest
  return (ofGroups (front ++ List.replicate (8 - front.length - back.length) 0 ++ back), rest)

def readIp : Reader Ip := fun characters =>
  match readV4 characters with
  | some ((first, second, third, fourth), rest) => some (.v4 first second third fourth, rest)
  | none => readV6 characters

def ofText? (text : String) : Option Ip :=
  match readIp text.toList with
  | some (ip, []) => some ip
  | _ => none

end Ip

namespace SocketAddress

open Ip

def readPort : Reader UInt16 := fun characters => do
  let (_, rest) ← readChar ':' characters
  let (port, rest) ← readNumber { radix := 10, limit := 65536 } rest
  return (UInt16.ofNat port, rest)

/-- A percent sign and a number, or nothing. -/
def readScope (characters : List Char) : UInt32 × List Char :=
  match readChar '%' characters >>= fun (_, rest) =>
      readNumber { radix := 10, limit := 4294967296 } rest with
  | some (scope, rest) => (UInt32.ofNat scope, rest)
  | none => (0, characters)

def readAddress : Reader SocketAddress := fun characters =>
  match readV4 characters with
  | some ((first, second, third, fourth), rest) => do
    let (port, rest) ← readPort rest
    return (⟨.v4 first second third fourth, port, 0⟩, rest)
  | none => do
    let (_, rest) ← readChar '[' characters
    let (ip, rest) ← readV6 rest
    let (scope, rest) := readScope rest
    let (_, rest) ← readChar ']' rest
    let (port, rest) ← readPort rest
    return (⟨ip, port, scope⟩, rest)

def ofText? (text : String) : Option SocketAddress :=
  match readAddress text.toList with
  | some (address, []) => some address
  | _ => none

end SocketAddress

end Lockstep
