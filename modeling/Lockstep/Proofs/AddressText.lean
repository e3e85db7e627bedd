import Lockstep.Address.Parser
import Lockstep.Address.Printer
import Lockstep.Proofs.Tokens

/-!
# Addresses and their texts

Every address is read back from its text. A reader takes a number as far as digits go, so what
matters is that no number is followed by a digit, and that an address of the second family is not
taken for one of the first: without a dot it cannot be one, and with an embedded one it begins with
a colon. The two colons stand for exactly the zero groups that were left out, because the number of
groups is fixed.
-/

namespace Lockstep

namespace Ip

/-! ## Numbers -/

section

variable {radix number digit : Nat} {form : NumberForm} {characters rest : List Char}

theorem digitValue?_digitChar (h : digit < radix) (small : radix ≤ 16) :
    digitValue? radix digit.digitChar = some digit := by
  have value : ∀ digit < 16, digitValue? 16 digit.digitChar = some digit := by decide
  have found := value digit (Nat.lt_of_lt_of_le h small)
  unfold digitValue? at found ⊢
  obtain ⟨found, -⟩ := Option.filter_eq_some_iff.mp found
  exact Option.filter_eq_some_iff.mpr ⟨found, decide_eq_true h⟩

/-- No digit stands in front. -/
def EndsNumber (radix : Nat) (characters : List Char) : Prop :=
  ∀ character ∈ characters.head?, digitValue? radix character = none

theorem endsNumber_nil : EndsNumber radix [] := fun _ h ↦ by cases h

theorem endsNumber_cons {character : Char} (h : digitValue? radix character = none)
    (rest : List Char) : EndsNumber radix (character :: rest) := fun _ found ↦ by
  cases found
  exact h

theorem EndsNumber.takeWhile_eq_nil (ends : EndsNumber radix characters) :
    (characters.takeWhile fun character ↦ (digitValue? radix character).isSome) = [] := by
  cases characters with
  | nil => rfl
  | cons character rest => simp [ends character rfl]

theorem takeWhile_toDigits_append (large : 1 < radix) (small : radix ≤ 16)
    (ends : EndsNumber radix rest) :
    ((Nat.toDigits radix number ++ rest).takeWhile fun character ↦
      (digitValue? radix character).isSome) = Nat.toDigits radix number := by
  rw [List.takeWhile_append_of_pos, ends.takeWhile_eq_nil, List.append_nil]
  intro character h
  obtain ⟨digit, bound, rfl⟩ := Text.exists_digitChar_of_mem_toDigits large character h
  rw [digitValue?_digitChar bound small]
  rfl

theorem value_toDigits (large : 1 < radix) (small : radix ≤ 16) :
    (Nat.toDigits radix number).foldl
      (fun value digit ↦ value * radix + (digitValue? radix digit).getD 0) 0 = number := by
  induction number using Nat.base_induction radix large with
  | single number bound =>
    rw [Nat.toDigits_of_lt_base bound, List.foldl_cons, List.foldl_nil,
      digitValue?_digitChar bound small, Nat.zero_mul, Nat.zero_add]
    rfl
  | digit number digit bound positive ih =>
    rw [Text.toDigits_mul_add large positive bound, List.foldl_append, ih, List.foldl_cons,
      List.foldl_nil, digitValue?_digitChar bound small, Nat.mul_comm]
    rfl

/-- Only zero has a numeral that begins with a zero. -/
theorem head?_toDigits_ne (large : 1 < radix) (positive : 0 < number) :
    (Nat.toDigits radix number).head? ≠ some '0' := by
  induction number using Nat.base_induction radix large with
  | single number bound =>
    rw [Nat.toDigits_of_lt_base bound, List.head?_cons, ne_eq, Option.some_inj,
      Nat.digitChar_eq_zero]
    exact Nat.ne_of_gt positive
  | digit number digit bound nonzero ih =>
    rw [Text.toDigits_mul_add large nonzero bound, List.head?_append]
    intro h
    rcases Option.or_eq_some_iff.mp h with first | ⟨empty, -⟩
    · exact ih nonzero first
    · exact Nat.toDigits_ne_nil (List.head?_eq_none_iff.mp empty)

theorem length_toDigits_le_one_or (large : 1 < radix) :
    (Nat.toDigits radix number).length ≤ 1 ∨ (Nat.toDigits radix number).head? ≠ some '0' := by
  rcases Nat.eq_zero_or_pos number with rfl | positive
  · rw [Nat.toDigits_zero]
    exact .inl (Nat.le_refl 1)
  · exact .inr (head?_toDigits_ne large positive)

/-- The numbers that are written in a form, the shortest way, so that they can be read in it. -/
structure NumberForm.Admits (form : NumberForm) (number : Nat) : Prop where
  large : 1 < form.radix
  small : form.radix ≤ 16
  lt : number < form.limit
  length : ∀ most ∈ form.maxDigits, (Nat.toDigits form.radix number).length ≤ most

theorem readNumber_toDigits (admits : form.Admits number) (ends : EndsNumber form.radix rest) :
    readNumber form (Nat.toDigits form.radix number ++ rest) = some (number, rest) := by
  have present : Nat.toDigits form.radix number ≠ [] := Nat.toDigits_ne_nil
  have short : form.maxDigits.any ((Nat.toDigits form.radix number).length > ·) = false := by
    cases h : form.maxDigits with
    | none => rfl
    | some most => exact decide_eq_false (Nat.not_lt.mpr (admits.length most h))
  have first : ((Nat.toDigits form.radix number).length > 1 &&
      (Nat.toDigits form.radix number).head? == some '0') = false := by
    rw [Bool.and_eq_false_iff, decide_eq_false_iff_not, Nat.not_lt, beq_eq_false_iff_ne]
    exact length_toDigits_le_one_or admits.large
  unfold readNumber
  dsimp only
  rw [takeWhile_toDigits_append admits.large admits.small ends,
    value_toDigits admits.large admits.small, List.drop_left, if_neg]
  simp [present, short, first, admits.lt, Bool.and_assoc]

theorem readNumber_eq_none (ends : EndsNumber form.radix characters) :
    readNumber form characters = none := by
  unfold readNumber
  dsimp only
  rw [ends.takeWhile_eq_nil]
  rfl

theorem not_mem_of_readNumber {value : Nat} {character : Char}
    (read : readNumber form characters = some (value, rest)) (h : character ∉ characters) :
    character ∉ rest := by
  unfold readNumber at read
  dsimp only at read
  split at read
  · cases read
  · cases read
    exact fun kept ↦ h (List.mem_of_mem_drop kept)

end

/-! ## The first family -/

section

variable {first second third fourth : Nat} {characters rest : List Char}

theorem readByte_toDigits (h : first < 256) (ends : EndsNumber 10 rest) :
    readByte (Nat.toDigits 10 first ++ rest) = some (UInt8.ofNat first, rest) := by
  let form : NumberForm :=
    { radix := 10, limit := 256, maxDigits := some 3, leadingZeros := false }
  have admits : form.Admits first := {
    large := by decide
    small := by decide
    lt := h
    length := by
      rintro _ ⟨⟩
      exact (Nat.length_toDigits_le_iff (by decide) (by decide)).mpr (Nat.lt_trans h (by decide)) }
  have read : readNumber form (Nat.toDigits 10 first ++ rest) = some (first, rest) :=
    readNumber_toDigits admits ends
  rw [readByte, read]
  rfl

/-- Four numbers with dots between them. -/
def dotted (first second third fourth : Nat) : List Char :=
  Nat.toDigits 10 first ++ '.' :: (Nat.toDigits 10 second ++ '.' ::
    (Nat.toDigits 10 third ++ '.' :: Nat.toDigits 10 fourth))

theorem readV4_dotted (hfirst : first < 256) (hsecond : second < 256) (hthird : third < 256)
    (hfourth : fourth < 256) :
    readV4 (dotted first second third fourth) =
      some ((UInt8.ofNat first, UInt8.ofNat second, UInt8.ofNat third, UInt8.ofNat fourth), []) := by
  have dot (rest : List Char) : EndsNumber 10 ('.' :: rest) := endsNumber_cons (by decide) rest
  have last := readByte_toDigits hfourth endsNumber_nil
  rw [List.append_nil] at last
  unfold readV4 dotted
  simp [readByte_toDigits hfirst (dot _), readByte_toDigits hsecond (dot _),
    readByte_toDigits hthird (dot _), last, readChar]

theorem readV4_eq_none_of_ends (ends : EndsNumber 10 characters) : readV4 characters = none := by
  unfold readV4 readByte
  rw [readNumber_eq_none ends]
  rfl

theorem readV4_eq_none_of_dotless (h : '.' ∉ characters) : readV4 characters = none := by
  unfold readV4 readByte
  cases read : readNumber
      { radix := 10, limit := 256, maxDigits := some 3, leadingZeros := false } characters with
  | none => rfl
  | some result =>
    obtain ⟨value, rest⟩ := result
    have dotless := not_mem_of_readNumber read h
    have stuck : readChar '.' rest = none := by
      cases rest with
      | nil => rfl
      | cons character rest =>
        rw [readChar, if_neg]
        rintro rfl
        exact dotless List.mem_cons_self
    simp [stuck]

end

/-! ## The second family -/

section

variable {slots : Nat} {isFirst : Bool} {group : UInt16} {groups front back : List UInt16}
  {characters rest : List Char}

/-- A number to the base ten is one to the base sixteen. -/
theorem EndsNumber.ten (ends : EndsNumber 16 characters) : EndsNumber 10 characters := by
  intro character h
  have unread := ends character h
  unfold digitValue? at unread ⊢
  rw [Option.filter_eq_none_iff] at unread ⊢
  intro value found
  have large := unread value found
  simp only [decide_eq_true_eq] at large ⊢
  omega

/-- Groups with a colon in front of each. -/
def further (groups : List UInt16) : List Char :=
  groups.flatMap fun group ↦ ':' :: Nat.toDigits 16 group.toNat

/-- Groups with colons between them. -/
def joined : List UInt16 → List Char
  | [] => []
  | group :: groups => Nat.toDigits 16 group.toNat ++ further groups

theorem toList_joinGroups (groups : List UInt16) : (joinGroups groups).toList = joined groups := by
  have colon : ":".toList = [':'] := rfl
  rw [joinGroups, String.toList_intercalate, List.map_map, colon]
  induction groups with
  | nil => rfl
  | cons group groups ih =>
    cases groups with
    | nil => simp [joined, further, groupText]
    | cons next groups =>
      rw [List.map_cons, List.map_cons, List.intercalate_cons_cons, ← List.map_cons, ih]
      simp [joined, further, groupText]

/-- No group follows, with or without a colon in front of it. -/
def Halts (characters : List Char) : Prop :=
  ∀ isFirst front, readSeparator isFirst characters = some front → EndsNumber 16 front

theorem halts_nil : Halts [] := by
  intro isFirst front h
  cases isFirst with
  | false => cases h
  | true =>
    cases h
    exact endsNumber_nil

theorem halts_colons (characters : List Char) : Halts (':' :: ':' :: characters) := by
  intro isFirst front h
  cases isFirst <;> cases h <;> exact endsNumber_cons (by decide) _

theorem readGroups_of_halts (halts : Halts rest) (slots : Nat) (isFirst : Bool) :
    readGroups slots isFirst rest = ([], false, rest) := by
  cases slots with
  | zero => rfl
  | succ slots =>
    -- The first family is tried before a group, so it has to fail as well.
    have embedded : readSeparator isFirst rest >>= readV4 = none := by
      cases h : readSeparator isFirst rest with
      | none => rfl
      | some front => exact readV4_eq_none_of_ends (halts isFirst front h).ten
    have group : readSeparator isFirst rest >>=
        readNumber { radix := 16, limit := 65536, maxDigits := some 4 } = none := by
      cases h : readSeparator isFirst rest with
      | none => rfl
      | some front => exact readNumber_eq_none (halts isFirst front h)
    rw [readGroups, embedded, group]
    simp

/-- A colon, except in front of the first group. -/
def separator (isFirst : Bool) : List Char :=
  if isFirst then [] else [':']

theorem readSeparator_separator (isFirst : Bool) (characters : List Char) :
    readSeparator isFirst (separator isFirst ++ characters) = some characters := by
  cases isFirst <;> rfl

theorem readGroup_toDigits (group : UInt16) (ends : EndsNumber 16 rest) :
    readNumber { radix := 16, limit := 65536, maxDigits := some 4 }
      (Nat.toDigits 16 group.toNat ++ rest) = some (group.toNat, rest) := by
  let form : NumberForm := { radix := 16, limit := 65536, maxDigits := some 4 }
  have bound : group.toNat < 65536 := group.toNat_lt
  have admits : form.Admits group.toNat := {
    large := by decide
    small := by decide
    lt := bound
    length := by
      rintro _ ⟨⟩
      exact (Nat.length_toDigits_le_iff (by decide) (by decide)).mpr
        (Nat.lt_of_lt_of_le bound (by decide)) }
  have read : readNumber form (Nat.toDigits 16 group.toNat ++ rest) = some (group.toNat, rest) :=
    readNumber_toDigits admits ends
  exact read

theorem readGroups_group (slots : Nat) (isFirst : Bool) (group : UInt16)
    (unembedded : readV4 (Nat.toDigits 16 group.toNat ++ rest) = none) (ends : EndsNumber 16 rest) :
    readGroups (slots + 1) isFirst (separator isFirst ++ (Nat.toDigits 16 group.toNat ++ rest)) =
      (group :: (readGroups slots false rest).1, (readGroups slots false rest).2) := by
  rw [readGroups, readSeparator_separator, Option.bind_eq_bind, Option.bind_some,
    Option.bind_eq_bind, Option.bind_some, unembedded, readGroup_toDigits group ends]
  simp

theorem dot_not_mem_toDigits (number : Nat) : '.' ∉ Nat.toDigits 16 number :=
  Text.not_mem_toDigits (by decide) (by decide)

theorem dot_not_mem_further (groups : List UInt16) : '.' ∉ further groups := by
  intro h
  obtain ⟨group, -, found⟩ := List.mem_flatMap.mp h
  rcases List.mem_cons.mp found with dot | found
  · exact absurd dot (by decide)
  · exact dot_not_mem_toDigits _ found

theorem dot_not_mem_joined (groups : List UInt16) : '.' ∉ joined groups := by
  cases groups with
  | nil => exact List.not_mem_nil
  | cons group groups =>
    rw [joined, List.mem_append, not_or]
    exact ⟨dot_not_mem_toDigits _, dot_not_mem_further groups⟩

theorem readV4_group_append (dotless : '.' ∉ rest) (group : UInt16) (groups : List UInt16) :
    readV4 (Nat.toDigits 16 group.toNat ++ (further groups ++ rest)) = none := by
  apply readV4_eq_none_of_dotless
  simp only [List.mem_append, not_or]
  exact ⟨dot_not_mem_toDigits _, dot_not_mem_further groups, dotless⟩

theorem endsNumber_further_append (halts : Halts rest) (groups : List UInt16) :
    EndsNumber 16 (further groups ++ rest) := by
  cases groups with
  | nil => exact halts true rest rfl
  | cons group groups => exact endsNumber_cons (by decide) _

/-- If there is room for all groups, they are read up to where no group follows. -/
theorem readGroups_further (room : groups.length ≤ slots) (dotless : '.' ∉ rest)
    (halts : Halts rest) :
    readGroups slots false (further groups ++ rest) = (groups, false, rest) := by
  induction groups generalizing slots with
  | nil => exact readGroups_of_halts halts slots false
  | cons group groups ih =>
    obtain ⟨slots, rfl⟩ := Nat.exists_eq_succ_of_ne_zero (Nat.ne_of_gt (Nat.zero_lt_of_lt room))
    have read := readGroups_group slots false group (readV4_group_append dotless group groups)
      (endsNumber_further_append halts groups)
    rw [ih (Nat.le_of_succ_le_succ room)] at read
    rw [← read]
    simp [further, separator]

theorem readGroups_joined (room : groups.length ≤ slots) (dotless : '.' ∉ rest)
    (halts : Halts rest) :
    readGroups slots true (joined groups ++ rest) = (groups, false, rest) := by
  cases groups with
  | nil => exact readGroups_of_halts halts slots true
  | cons group groups =>
    obtain ⟨slots, rfl⟩ := Nat.exists_eq_succ_of_ne_zero (Nat.ne_of_gt (Nat.zero_lt_of_lt room))
    have read := readGroups_group slots true group (readV4_group_append dotless group groups)
      (endsNumber_further_append halts groups)
    rw [readGroups_further (Nat.le_of_succ_le_succ room) dotless halts] at read
    rw [← read]
    simp [joined, separator]

/-! ## Left out groups -/

theorem ofGroups_toList (groups : Vector UInt16 8) : ofGroups groups.toList = .v6 groups := by
  unfold ofGroups
  congr 1
  ext index bound
  simp [List.getD_eq_getElem?_getD]

theorem exists_eq_replicate_zeroRun (groups : List UInt16) :
    ∃ back, groups = List.replicate (zeroRun groups) 0 ++ back := by
  have zeros : groups.takeWhile (· == 0) = List.replicate (zeroRun groups) 0 := by
    apply List.eq_replicate_of_mem
    intro group h
    exact eq_of_beq (List.all_eq_true.mp List.all_takeWhile group h)
  refine ⟨groups.dropWhile (· == 0), ?_⟩
  rw [← zeros, List.takeWhile_append_dropWhile]

/-- What is said to be the longest run of zero groups is a run of zero groups. -/
theorem exists_eq_longestZeroRun (start : Nat) (groups : List UInt16)
    (h : 0 < (longestZeroRun start groups).2) :
    ∃ front back, groups = front ++ List.replicate (longestZeroRun start groups).2 0 ++ back ∧
      (longestZeroRun start groups).1 = start + front.length := by
  induction groups generalizing start with
  | nil => exact absurd h (Nat.lt_irrefl 0)
  | cons group groups ih =>
    rw [longestZeroRun] at h ⊢
    split
    · obtain ⟨back, zeros⟩ := exists_eq_replicate_zeroRun (group :: groups)
      exact ⟨[], back, zeros, rfl⟩
    · next shorter =>
      rw [if_neg shorter] at h
      obtain ⟨front, back, found, first⟩ := ih (start + 1) h
      refine ⟨group :: front, back, ?_, ?_⟩
      · rw [List.cons_append, List.cons_append, ← found]
      · rw [first, List.length_cons]
        omega

theorem append_longestZeroRun (groups : List UInt16) (h : 0 < (longestZeroRun 0 groups).2) :
    groups.take (longestZeroRun 0 groups).1 ++ List.replicate (longestZeroRun 0 groups).2 0 ++
      groups.drop ((longestZeroRun 0 groups).1 + (longestZeroRun 0 groups).2) = groups := by
  obtain ⟨front, back, found, first⟩ := exists_eq_longestZeroRun 0 groups h
  generalize longestZeroRun 0 groups = run at found first ⊢
  rw [Nat.zero_add] at first
  have before : groups.take run.1 = front := by
    rw [found, first, List.append_assoc, List.take_left]
  have after : groups.drop (run.1 + run.2) = back := by
    rw [found, first, List.drop_left']
    rw [List.length_append, List.length_replicate]
  rw [before, after, ← found]

theorem readV6_joined (h : groups.length = 8) :
    readV6 (joined groups) = some (ofGroups groups, []) := by
  have read := readGroups_joined (Nat.le_of_eq h) List.not_mem_nil halts_nil
  rw [List.append_nil] at read
  unfold readV6
  rw [read]
  simp [h]

/-- The two colons stand for the zero groups that are missing. -/
theorem readV6_colons (h : front.length + back.length < 8) :
    readV6 (joined front ++ ':' :: ':' :: joined back) =
      some (ofGroups
        (front ++ List.replicate (8 - front.length - back.length) 0 ++ back), []) := by
  have dotless : '.' ∉ ':' :: ':' :: joined back := by
    simp [dot_not_mem_joined]
  have readFront : readGroups 8 true (joined front ++ ':' :: ':' :: joined back) =
      (front, false, ':' :: ':' :: joined back) :=
    readGroups_joined (by omega) dotless (halts_colons _)
  have readBack : readGroups (7 - front.length) true (joined back) = (back, false, []) := by
    have room : back.length ≤ 7 - front.length := by omega
    have read := readGroups_joined room List.not_mem_nil halts_nil
    rwa [List.append_nil] at read
  -- At least one group is missing, so the two colons are looked for.
  have missing : front.length ≠ 8 := by omega
  unfold readV6
  rw [readFront]
  simp [missing, readChar, readBack]

end

/-! ## Texts -/

theorem toList_v4Text (first second third fourth : UInt8) :
    (v4Text first second third fourth).toList =
      dotted first.toNat second.toNat third.toNat fourth.toNat := by
  simp [v4Text, dotted, toString, Nat.toList_repr]

/-- The four bytes of two groups, with dots between them. -/
def dottedGroups (high low : UInt16) : List Char :=
  dotted (high.toNat / 256) (high.toNat % 256) (low.toNat / 256) (low.toNat % 256)

/-- Two groups as an address of the first family, behind what marks it as one. -/
def embedded (high low : UInt16) : List Char :=
  ':' :: ':' :: (Nat.toDigits 16 65535 ++ ':' :: dottedGroups high low)

theorem readGroups_dottedGroups (slots : Nat) (high low : UInt16) :
    readGroups (slots + 2) false (':' :: dottedGroups high low) = ([high, low], true, []) := by
  have quotient (number : UInt16) : number.toNat / 256 < 256 :=
    Nat.div_lt_of_lt_mul number.toNat_lt
  have remainder (number : UInt16) : number.toNat % 256 < 256 :=
    Nat.mod_lt _ (by decide)
  have address := readV4_dotted (quotient high) (remainder high) (quotient low) (remainder low)
  have word (number : UInt16) := Bytes.word_ofWord number
  unfold Bytes.word at word
  have read : readSeparator false (':' :: dottedGroups high low) >>= readV4 =
      readV4 (dottedGroups high low) := by
    have separated : readSeparator false (':' :: dottedGroups high low) =
        some (dottedGroups high low) := readSeparator_separator false _
    rw [separated]
    rfl
  rw [readGroups, if_neg (Nat.succ_ne_zero slots), read, dottedGroups, address]
  dsimp only
  rw [word, word]

theorem readV6_embedded (high low : UInt16) :
    readV6 (embedded high low) = some (ofGroups [0, 0, 0, 0, 0, 65535, high, low], []) := by
  have unembedded : readV4 (Nat.toDigits 16 65535 ++ ':' :: dottedGroups high low) = none :=
    readV4_eq_none_of_ends (endsNumber_cons (by decide) _)
  have read := readGroups_group 6 true 65535 unembedded (endsNumber_cons (by decide) _)
  have readBack : readGroups 7 true (Nat.toDigits 16 65535 ++ ':' :: dottedGroups high low) =
      ([65535, high, low], true, []) := by
    rw [readGroups_dottedGroups 4] at read
    exact read
  unfold readV6 embedded
  rw [readGroups_of_halts (halts_colons _)]
  simp [readChar, readBack]

/-- An address of the second family is written with an embedded address, with two colons for a run of
zero groups, or with all its groups. -/
theorem toList_v6Text (groups : Vector UInt16 8) :
    (∃ high low, groups.toList = [0, 0, 0, 0, 0, 65535, high, low] ∧
      (v6Text groups.toList).toList = embedded high low) ∨
    (∃ front back, (v6Text groups.toList).toList = joined front ++ ':' :: ':' :: joined back ∧
      front.length + back.length < 8 ∧
      groups.toList = front ++ List.replicate (8 - front.length - back.length) 0 ++ back) ∨
    (v6Text groups.toList).toList = joined groups.toList := by
  have length : groups.toList.length = 8 := groups.length_toList
  unfold v6Text
  split
  · next high low same =>
    left
    refine ⟨high, low, same, ?_⟩
    have marked : Nat.toDigits 16 65535 = ['f', 'f', 'f', 'f'] := by decide
    simp [embedded, dottedGroups, dotted, marked, toString, Nat.toList_repr]
  · right
    by_cases long : (longestZeroRun 0 groups.toList).2 ≥ 2
    · left
      have whole := append_longestZeroRun groups.toList (Nat.lt_of_succ_lt long)
      generalize longestZeroRun 0 groups.toList = run at long whole
      obtain ⟨start, count⟩ := run
      dsimp only at long whole ⊢
      have total := congrArg List.length whole
      rw [List.length_append, List.length_append, List.length_replicate, length] at total
      have missing : 8 - (groups.toList.take start).length -
          (groups.toList.drop (start + count)).length = count := by omega
      refine ⟨groups.toList.take start, groups.toList.drop (start + count), ?_, by omega, ?_⟩
      · rw [if_pos long]
        simp [toString, toList_joinGroups]
      · rw [missing, whole]
    · right
      dsimp only
      rw [if_neg long, toList_joinGroups]

/-- Every address is read back from its text. -/
theorem ofText?_text (ip : Ip) : ofText? ip.text = some ip := by
  have whole {characters : List Char} (read : readIp characters = some (ip, []))
      (same : ip.text.toList = characters) : ofText? ip.text = some ip := by
    unfold ofText?
    rw [same, read]
  cases ip with
  | v4 first second third fourth =>
    have read := readV4_dotted first.toNat_lt second.toNat_lt third.toNat_lt fourth.toNat_lt
    apply whole _ (toList_v4Text first second third fourth)
    rw [readIp, read]
    simp
  | v6 groups =>
    have second {characters : List Char} {found : List UInt16} (unread : readV4 characters = none)
        (read : readV6 characters = some (ofGroups found, [])) (same : groups.toList = found) :
        readIp characters = some (.v6 groups, []) := by
      have address : Ip.v6 groups = ofGroups found := by
        rw [← same, ofGroups_toList]
      rw [address, readIp, unread]
      exact read
    have length : groups.toList.length = 8 := groups.length_toList
    rcases toList_v6Text groups with ⟨high, low, found, text⟩ | ⟨front, back, text, room, found⟩ | text
    · apply whole _ text
      apply second _ (readV6_embedded high low) found
      exact readV4_eq_none_of_ends (endsNumber_cons (by decide) _)
    · apply whole _ text
      apply second _ (readV6_colons room) found
      apply readV4_eq_none_of_dotless
      simp [dot_not_mem_joined]
    · apply whole _ text
      apply second _ (readV6_joined length) rfl
      exact readV4_eq_none_of_dotless (dot_not_mem_joined _)

/-- The characters that addresses are written with. -/
def IsAddressChar (character : Char) : Prop :=
  (∃ digit < 16, character = digit.digitChar) ∨ character = ':' ∨ character = '.'

theorem IsAddressChar.not_isBlank {character : Char} (h : IsAddressChar character) :
    Text.isBlank character = false := by
  obtain ⟨digit, bound, rfl⟩ | rfl | rfl := h
  · revert digit
    decide
  · decide
  · decide

theorem not_isAddressChar_comma : ¬ IsAddressChar ',' := by
  rintro (⟨digit, bound, comma⟩ | comma | comma)
  · revert digit
    decide
  · exact absurd comma (by decide)
  · exact absurd comma (by decide)

theorem isAddressChar_of_mem_toDigits {radix number : Nat} (large : 1 < radix) (small : radix ≤ 16) :
    ∀ character ∈ Nat.toDigits radix number, IsAddressChar character := by
  intro character h
  obtain ⟨digit, bound, same⟩ := Text.exists_digitChar_of_mem_toDigits large character h
  exact .inl ⟨digit, Nat.lt_of_lt_of_le bound small, same⟩

theorem isAddressChar_of_mem_dotted {first second third fourth : Nat} :
    ∀ character ∈ dotted first second third fourth, IsAddressChar character := by
  have digits (number : Nat) : ∀ character ∈ Nat.toDigits 10 number, IsAddressChar character :=
    isAddressChar_of_mem_toDigits (by decide) (by decide)
  have dot : IsAddressChar '.' := .inr (.inr rfl)
  simp only [dotted, List.forall_mem_append, List.forall_mem_cons]
  exact ⟨digits _, dot, digits _, dot, digits _, dot, digits _⟩

theorem isAddressChar_of_mem_joined (groups : List UInt16) :
    ∀ character ∈ joined groups, IsAddressChar character := by
  have digits (number : Nat) : ∀ character ∈ Nat.toDigits 16 number, IsAddressChar character :=
    isAddressChar_of_mem_toDigits (by decide) (by decide)
  cases groups with
  | nil => exact List.forall_mem_nil _
  | cons group groups =>
    rw [joined, List.forall_mem_append]
    refine ⟨digits _, fun character h ↦ ?_⟩
    obtain ⟨group, -, found⟩ := List.mem_flatMap.mp h
    rcases List.mem_cons.mp found with rfl | found
    · exact .inr (.inl rfl)
    · exact digits _ character found

theorem isAddressChar_of_mem_text (ip : Ip) :
    ∀ character ∈ ip.text.toList, IsAddressChar character := by
  have colon : IsAddressChar ':' := .inr (.inl rfl)
  cases ip with
  | v4 first second third fourth =>
    rw [text, toList_v4Text]
    exact isAddressChar_of_mem_dotted
  | v6 groups =>
    rw [text]
    rcases toList_v6Text groups with ⟨high, low, -, text⟩ | ⟨front, back, text, -⟩ | text
    · simp only [text, embedded, List.forall_mem_append, List.forall_mem_cons]
      exact ⟨colon, colon, isAddressChar_of_mem_toDigits (by decide) (by decide), colon,
        isAddressChar_of_mem_dotted⟩
    · simp only [text, List.forall_mem_append, List.forall_mem_cons]
      exact ⟨isAddressChar_of_mem_joined front, colon, colon, isAddressChar_of_mem_joined back⟩
    · rw [text]
      exact isAddressChar_of_mem_joined _

end Ip

end Lockstep
