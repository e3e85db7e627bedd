/-!
# Unsigned decimals

The written form of a natural number below some limit: an optional plus sign and at least one
decimal digit.  Leading zeros are harmless.  A text with two faults is reported for the one that a
reader going from left to right meets first.
-/

namespace Lockstep.Text

inductive UnsignedError where
  | empty
  | invalidDigit
  | tooLarge
deriving DecidableEq, Repr

def UnsignedError.message : UnsignedError → String
  | .empty => "cannot parse integer from empty string"
  | .invalidDigit => "invalid digit found in string"
  | .tooLarge => "number too large to fit in target type"

/-- Continues the number `value` with further digits. -/
def readDigits (limit : Nat) : Nat → List Char → Except UnsignedError Nat
  | value, [] => .ok value
  | value, digit :: rest =>
    if digit.isDigit then
      let extended := value * 10 + (digit.toNat - '0'.toNat)
      if extended < limit then readDigits limit extended rest else .error .tooLarge
    else .error .invalidDigit

/-- The number below `limit` that a text is a written form of. -/
def readUnsigned (limit : Nat) : List Char → Except UnsignedError Nat
  | [] => .error .empty
  | ['+'] => .error .invalidDigit
  | '+' :: digits => readDigits limit 0 digits
  | digits => readDigits limit 0 digits

def readUnsigned? (limit : Nat) (characters : List Char) : Option Nat :=
  (readUnsigned limit characters).toOption

end Lockstep.Text
