import Lockstep.Proofs.Naming
import Lockstep.Text.Unsigned
import Mathlib.Data.List.TakeWhile

/-!
# Tokens

What is written without blanks around it and without separators in it is found again, and a numeral
that is found is read as its number. In the other direction, what is found between separators and
freed of the blanks around it has neither, and a number that is read is below its limit.
-/

namespace Lockstep.Text

variable {separator : Char} {characters front back : List Char}

/-! ## Separators -/

theorem splitFirst?_append_cons (h : separator ∉ front) (back : List Char) :
    splitFirst? separator (front ++ separator :: back) = some (front, back) := by
  induction front with
  | nil => simp [splitFirst?]
  | cons character rest ih =>
    obtain ⟨different, absent⟩ := not_or.mp (mt List.mem_cons.mpr h)
    simp [splitFirst?, Ne.symm different, ih absent]

theorem eq_of_splitFirst? (h : splitFirst? separator characters = some (front, back)) :
    characters = front ++ separator :: back := by
  induction characters generalizing front with
  | nil => cases h
  | cons character rest ih =>
    rw [splitFirst?] at h
    split at h
    · next same =>
      cases h
      rw [same, List.nil_append]
    · obtain ⟨⟨before, after⟩, found, pair⟩ := Option.map_eq_some_iff.mp h
      cases pair
      rw [ih found, List.cons_append]

theorem splitFirst?_eq_none_iff : splitFirst? separator characters = none ↔
    separator ∉ characters := by
  constructor
  · intro h mem
    obtain ⟨before, after, rfl, absent⟩ := List.eq_append_cons_of_mem mem
    rw [splitFirst?_append_cons absent] at h
    cases h
  · intro absent
    cases found : splitFirst? separator characters with
    | none => rfl
    | some pair =>
      rw [eq_of_splitFirst? found] at absent
      exact absurd (List.mem_append_right _ List.mem_cons_self) absent

/-- The separator that divides a text is the first one in it. -/
theorem not_mem_of_splitFirst? (h : splitFirst? separator characters = some (front, back)) :
    separator ∉ front := by
  have mem : separator ∈ characters := by
    rw [eq_of_splitFirst? h]
    exact List.mem_append_right _ List.mem_cons_self
  obtain ⟨before, after, rfl, absent⟩ := List.eq_append_cons_of_mem mem
  rw [splitFirst?_append_cons absent] at h
  cases h
  exact absent

/-! ## Blanks -/

/-- There are no blanks around the text. -/
structure IsTrimmed (characters : List Char) : Prop where
  head : ∀ character ∈ characters.head?, isBlank character = false
  last : ∀ character ∈ characters.getLast?, isBlank character = false

theorem dropWhile_isBlank_eq_self (h : ∀ character ∈ characters.head?, isBlank character = false) :
    characters.dropWhile isBlank = characters := by
  cases characters with
  | nil => rfl
  | cons character rest =>
    rw [List.dropWhile_cons_of_neg]
    rw [h character rfl]
    exact Bool.false_ne_true

theorem trim_eq_self (h : IsTrimmed characters) : trim characters = characters := by
  have last : ∀ character ∈ characters.reverse.head?, isBlank character = false := by
    rw [List.head?_reverse]
    exact h.last
  rw [trim, dropWhile_isBlank_eq_self h.head, dropWhile_isBlank_eq_self last, List.reverse_reverse]

theorem isTrimmed_of_forall (h : ∀ character ∈ characters, isBlank character = false) :
    IsTrimmed characters where
  head character found := h character (List.mem_of_mem_head? found)
  last character found := h character (List.mem_of_getLast? found)

theorem not_isBlank_of_mem_head?_dropWhile {character : Char}
    (h : character ∈ (characters.dropWhile isBlank).head?) : isBlank character = false := by
  have dropped := List.head?_dropWhile_not isBlank characters
  rw [Option.mem_def.mp h] at dropped
  exact dropped

theorem not_isBlank_of_mem_getLast?_trim {character : Char}
    (h : character ∈ (trim characters).getLast?) : isBlank character = false := by
  rw [trim, List.getLast?_reverse] at h
  exact not_isBlank_of_mem_head?_dropWhile h

theorem mem_of_mem_trim {character : Char} (h : character ∈ trim characters) :
    character ∈ characters := by
  rw [trim, List.mem_reverse] at h
  have kept := (List.dropWhile_sublist isBlank).subset h
  exact (List.dropWhile_sublist isBlank).subset (List.mem_reverse.mp kept)

/-- Something is left if there was anything but blanks. -/
theorem trim_ne_nil {character : Char} (h : character ∈ characters)
    (visible : isBlank character = false) : trim characters ≠ [] := by
  intro empty
  rw [trim, List.reverse_eq_nil_iff, List.dropWhile_eq_nil_iff] at empty
  cases dropped : characters.dropWhile isBlank with
  | nil =>
    have blank := List.dropWhile_eq_nil_iff.mp dropped character h
    exact absurd (visible.symm.trans blank) Bool.false_ne_true
  | cons first rest =>
    have kept : first ∈ (characters.dropWhile isBlank).head? := by
      rw [dropped]
      rfl
    have blank : isBlank first = true :=
      empty first (List.mem_reverse.mpr (List.mem_of_mem_head? kept))
    exact absurd ((not_isBlank_of_mem_head?_dropWhile kept).symm.trans blank) Bool.false_ne_true

/-! ## Numerals -/

variable {base number limit : Nat}

theorem toDigits_mul_add (large : 1 < base) (positive : 0 < number) {digit : Nat}
    (h : digit < base) :
    Nat.toDigits base (base * number + digit) = Nat.toDigits base number ++ [digit.digitChar] := by
  rw [← Nat.toDigits_append_toDigits large positive h, Nat.toDigits_of_lt_base h]

/-- A numeral is made of the digits of its base. -/
theorem exists_digitChar_of_mem_toDigits (large : 1 < base) :
    ∀ character ∈ Nat.toDigits base number, ∃ digit < base, character = digit.digitChar := by
  induction number using Nat.base_induction base large with
  | single number bound =>
    rw [Nat.toDigits_of_lt_base bound]
    intro character h
    exact ⟨number, bound, List.mem_singleton.mp h⟩
  | digit number digit bound positive ih =>
    rw [toDigits_mul_add large positive bound]
    intro character h
    rcases List.mem_append.mp h with h | h
    · exact ih character h
    · exact ⟨digit, bound, List.mem_singleton.mp h⟩

theorem not_mem_toDigits (large : 1 < base) {character : Char}
    (h : ∀ digit < base, character ≠ digit.digitChar) : character ∉ Nat.toDigits base number := by
  intro mem
  obtain ⟨digit, bound, same⟩ := exists_digitChar_of_mem_toDigits large character mem
  exact h digit bound same

theorem not_isBlank_of_mem_toDigits (large : 1 < base) (small : base ≤ 16) :
    ∀ character ∈ Nat.toDigits base number, isBlank character = false := by
  have visible : ∀ digit < 16, isBlank digit.digitChar = false := by decide
  intro character mem
  obtain ⟨digit, bound, rfl⟩ := exists_digitChar_of_mem_toDigits large character mem
  exact visible digit (Nat.lt_of_lt_of_le bound small)

theorem le_ofDigitChars (digits : List Char) (value : Nat) :
    value ≤ Nat.ofDigitChars 10 digits value := by
  rw [Nat.ofDigitChars_eq_ofDigitChars_zero]
  have scaled : value ≤ 10 ^ digits.length * value :=
    Nat.le_mul_of_pos_left value (Nat.pow_pos (by decide))
  exact Nat.le_add_right_of_le scaled

theorem readDigits_eq {digits : List Char} (h : ∀ digit ∈ digits, digit.isDigit = true) {value : Nat}
    (bound : Nat.ofDigitChars 10 digits value < limit) :
    readDigits limit value digits = .ok (Nat.ofDigitChars 10 digits value) := by
  induction digits generalizing value with
  | nil => rfl
  | cons digit rest ih =>
    rw [Nat.ofDigitChars_cons, Nat.mul_comm] at bound ⊢
    have small := Nat.lt_of_le_of_lt (le_ofDigitChars rest _) bound
    rw [readDigits, if_pos (h digit List.mem_cons_self)]
    dsimp only
    rw [if_pos small, ih (fun other mem ↦ h other (List.mem_cons_of_mem _ mem)) bound]

/-- A number below the limit is read back from its numeral. -/
theorem readUnsigned?_toDigits (h : number < limit) :
    readUnsigned? limit (Nat.toDigits 10 number) = some number := by
  have digits : ∀ digit ∈ Nat.toDigits 10 number, digit.isDigit = true := fun _ mem ↦
    Nat.isDigit_of_mem_toDigits (by decide) (by decide) mem
  have value : Nat.ofDigitChars 10 (Nat.toDigits 10 number) 0 = number :=
    Nat.ofDigitChars_ten_toDigits
  have read : readDigits limit 0 (Nat.toDigits 10 number) = .ok number := by
    rw [readDigits_eq digits (Nat.lt_of_le_of_lt (Nat.le_of_eq value) h), value]
  have unsigned : readUnsigned limit (Nat.toDigits 10 number) =
      readDigits limit 0 (Nat.toDigits 10 number) := by
    unfold readUnsigned
    split
    · next empty => exact absurd empty Nat.toDigits_ne_nil
    · next plus =>
      rw [plus] at digits
      exact absurd (digits '+' List.mem_cons_self) (by decide)
    · next plus =>
      rw [plus] at digits
      exact absurd (digits '+' List.mem_cons_self) (by decide)
    · rfl
  rw [readUnsigned?, unsigned, read]
  rfl

theorem readDigits_lt {digits : List Char} {value : Nat} (small : value < limit)
    (h : readDigits limit value digits = .ok number) : number < limit := by
  induction digits generalizing value with
  | nil =>
    cases h
    exact small
  | cons digit rest ih =>
    rw [readDigits] at h
    dsimp only at h
    split at h
    · split at h
      · next extended => exact ih extended h
      · cases h
    · cases h

/-- Whatever is read is below the limit. -/
theorem readUnsigned?_lt (positive : 0 < limit)
    (h : readUnsigned? limit characters = some number) : number < limit := by
  have read : readUnsigned limit characters = .ok number := by
    cases hread : readUnsigned limit characters with
    | error error =>
      rw [readUnsigned?, hread] at h
      cases h
    | ok value =>
      rw [readUnsigned?, hread] at h
      cases h
      rfl
  unfold readUnsigned at read
  split at read
  · cases read
  · cases read
  · exact readDigits_lt positive read
  · exact readDigits_lt positive read

/-! ## Items -/

/-- The text can stand in a list with commas and blanks between the items. -/
structure IsListable (characters : List Char) : Prop where
  comma : ',' ∉ characters
  last : ∀ character ∈ characters.getLast?, isBlank character = false

namespace IsListable

theorem of_forall (h : ∀ character ∈ characters, character ≠ ',' ∧ isBlank character = false) :
    IsListable characters where
  comma mem := (h ',' mem).1 rfl
  last character found := (h character (List.mem_of_getLast? found)).2

theorem nil : IsListable [] := of_forall fun _ mem ↦ absurd mem List.not_mem_nil

theorem append_cons (h : IsListable back) (comma : ',' ∉ front) (different : separator ≠ ',')
    (visible : isBlank separator = false) : IsListable (front ++ separator :: back) where
  comma := by
    simp only [List.mem_append, List.mem_cons, not_or]
    exact ⟨comma, different.symm, h.comma⟩
  last character found := by
    rw [List.getLast?_append, List.getLast?_cons, Option.some_or] at found
    cases last : back.getLast? with
    | none =>
      rw [last] at found
      cases found
      exact visible
    | some other =>
      rw [last] at found
      cases found
      exact h.last other last

/-- What stands behind a separator is no less fit for a list. -/
theorem of_append_cons (h : IsListable (front ++ separator :: back)) : IsListable back where
  comma mem := h.comma (List.mem_append_right _ (List.mem_cons_of_mem _ mem))
  last character found := by
    apply h.last
    rw [List.getLast?_append, List.getLast?_cons, Option.some_or, Option.mem_def.mp found]
    rfl

theorem toDigits (number : Nat) : IsListable (Nat.toDigits 10 number) :=
  of_forall fun character mem ↦ by
    refine ⟨?_, not_isBlank_of_mem_toDigits (by decide) (by decide) character mem⟩
    rintro rfl
    exact not_mem_toDigits (by decide) (by decide) mem

end IsListable

end Lockstep.Text
