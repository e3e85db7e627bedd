/-!
# Byte strings

A datagram is a list of bytes.  This module fixes how the fields of a datagram are laid out in
one: numbers take two bytes, the more significant first, and texts end at the first zero byte.
Nothing here knows what a field means.
-/

namespace Lockstep

abbrev Bytes := List UInt8

namespace Bytes

/-- Two bytes, the more significant first. -/
def ofWord (word : UInt16) : Bytes :=
  [UInt8.ofNat (word.toNat / 256), UInt8.ofNat (word.toNat % 256)]

def word (high low : UInt8) : UInt16 :=
  UInt16.ofNat (high.toNat * 256 + low.toNat)

@[simp]
theorem length_ofWord (number : UInt16) : (ofWord number).length = 2 := rfl

theorem word_ofWord (number : UInt16) :
    word (UInt8.ofNat (number.toNat / 256)) (UInt8.ofNat (number.toNat % 256)) = number := by
  apply UInt16.toNat_inj.mp
  have bound := number.toNat_lt
  simp only [word, UInt8.toNat_ofNat', UInt16.toNat_ofNat']
  omega

theorem ofWord_word (high low : UInt8) : ofWord (word high low) = [high, low] := by
  have highBound := high.toNat_lt
  have lowBound := low.toNat_lt
  simp only [ofWord, word, UInt16.toNat_ofNat', List.cons.injEq, and_true]
  refine ⟨UInt8.toNat_inj.mp ?_, UInt8.toNat_inj.mp ?_⟩ <;>
    simp only [UInt8.toNat_ofNat'] <;> omega

/-- The number in the first two bytes. -/
def firstWord? : Bytes → Option UInt16
  | high :: low :: _ => some (word high low)
  | _ => none

/-- The number in the third and fourth byte. -/
def secondWord? (bytes : Bytes) : Option UInt16 :=
  firstWord? (bytes.drop 2)

/-- The bytes before the first zero and those after it. -/
def splitAtZero? : Bytes → Option (Bytes × Bytes)
  | [] => none
  | byte :: rest =>
    if byte = 0 then some ([], rest)
    else (splitAtZero? rest).map fun (before, after) => (byte :: before, after)

/-- The position of the first zero at or after `start`. -/
def zeroFrom? (bytes : Bytes) (start : Nat) : Option Nat :=
  ((bytes.drop start).findIdx? (· == 0)).map (start + ·)

/-- The first `length` bytes, filled up with zeros. -/
def resize (bytes : Bytes) (length : Nat) : Bytes :=
  bytes.take length ++ List.replicate (length - bytes.length) 0

/-- Filled up with zeros to `length` bytes, if there are fewer. -/
def extend (bytes : Bytes) (length : Nat) : Bytes :=
  bytes ++ List.replicate (length - bytes.length) 0

end Bytes

end Lockstep
