import Lockstep.Alteration

/-!
# What an alteration makes of each byte

A byte of an altered datagram comes from the operation that reaches it last, and from the datagram
where none does; beyond the end of the datagram there are zeros. So the length and every byte of the
result can be told without going through the operations one after the other. Every write finds its
place, and nothing grows beyond the largest datagram.

The text operations are left out here: they move what stands behind them.
-/

namespace Lockstep

namespace Bytes

variable (bytes : Bytes) (length place : Nat)

/-! ## Filling up and cutting off -/

@[simp]
theorem length_extend : (bytes.extend length).length = max bytes.length length := by
  simp only [extend, List.length_append, List.length_replicate]
  omega

@[simp]
theorem length_resize : (bytes.resize length).length = length := by
  simp only [resize, List.length_append, List.length_take, List.length_replicate]
  omega

/-- Behind its end a byte string reads like zeros, so it cannot be seen that it was filled up. -/
@[simp]
theorem getD_extend : (bytes.extend length).getD place 0 = bytes.getD place 0 := by
  simp only [extend, List.getD_eq_getElem?_getD, List.getElem?_append, List.getElem?_replicate]
  grind

theorem getD_resize :
    (bytes.resize length).getD place 0 = if place < length then bytes.getD place 0 else 0 := by
  simp only [resize, List.getD_eq_getElem?_getD, List.getElem?_append, List.getElem?_take,
    List.getElem?_replicate, List.length_take]
  grind

/-! ## Overwriting -/

/-- The bytes from `start` on are replaced, and all of them must be there. -/
def overwrite? (start : Nat) (replacement bytes : Bytes) : Option Bytes :=
  if start + replacement.length ≤ bytes.length then
    some (bytes.take start ++ replacement ++ bytes.drop (start + replacement.length))
  else none

end Bytes

namespace Alteration

variable (alteration : Alteration) (datagram : Bytes) (place : Nat)

/-! ## Single operations -/

section

variable (index : Nat) (value : UInt8) (number : UInt16)

theorem length_putByte :
    (putByte index value datagram).length =
      if index < maxDatagramSize then max datagram.length (index + 1) else datagram.length := by
  unfold putByte
  split <;> simp

theorem length_putBlock : (putBlock number datagram).length = max datagram.length 4 := by
  simp only [putBlock, List.length_append, List.length_take, List.length_drop, Bytes.length_ofWord,
    Bytes.length_extend]
  omega

theorem length_putOpcode : (putOpcode number datagram).length = max datagram.length 2 := by
  simp only [putOpcode, List.length_append, List.length_drop, Bytes.length_ofWord,
    Bytes.length_extend]
  omega

theorem getD_putByte :
    (putByte index value datagram).getD place 0 =
      if index < maxDatagramSize ∧ place = index then value else datagram.getD place 0 := by
  unfold putByte
  by_cases inside : index < maxDatagramSize
  · have found : index < (datagram.extend (index + 1)).length := by
      rw [Bytes.length_extend]
      omega
    rw [if_pos inside]
    by_cases here : place = index
    · rw [if_pos ⟨inside, here⟩, here, List.getD_eq_getElem?_getD,
        List.getElem?_set_self found, Option.getD_some]
    · rw [if_neg fun h ↦ here h.2, List.getD_eq_getElem?_getD, List.getElem?_set_ne (Ne.symm here),
        ← List.getD_eq_getElem?_getD, Bytes.getD_extend]
  · rw [if_neg inside, if_neg fun h ↦ inside h.1]

theorem getD_putBlock :
    (putBlock number datagram).getD place 0 =
      if 2 ≤ place ∧ place < 4 then (Bytes.ofWord number).getD (place - 2) 0
      else datagram.getD place 0 := by
  rw [← Bytes.getD_extend datagram 4 place]
  have long : 4 ≤ (datagram.extend 4).length := by
    rw [Bytes.length_extend]
    exact Nat.le_max_right _ _
  simp only [putBlock, List.getD_eq_getElem?_getD, List.getElem?_append, List.length_append,
    List.length_take, List.getElem?_take, List.getElem?_drop, Bytes.length_ofWord]
  grind

theorem getD_putOpcode :
    (putOpcode number datagram).getD place 0 =
      if place < 2 then (Bytes.ofWord number).getD place 0 else datagram.getD place 0 := by
  rw [← Bytes.getD_extend datagram 2 place]
  simp only [putOpcode, List.getD_eq_getElem?_getD, List.getElem?_append, List.getElem?_drop,
    Bytes.length_ofWord]
  grind

end

/-! ## Operations that may be missing -/

/-- The byte that a number, written from `start` on, puts at this place. -/
def wordByte? (start : Nat) (number? : Option UInt16) (place : Nat) : Option UInt8 :=
  number?.bind fun number ↦
    if start ≤ place then (Bytes.ofWord number)[place - start]? else none

section

variable (byte? : Option (Nat × UInt8)) (number? : Option UInt16)

theorem length_optionally_putByte :
    (optionally (fun (index, value) ↦ putByte index value) byte? datagram).length =
      max datagram.length
        ((byte?.filter (·.1 < maxDatagramSize)).elim 0 (·.1 + 1)) := by
  cases byte? with
  | none => simp [optionally]
  | some patch =>
    simp only [optionally, length_putByte, Option.filter_some, decide_eq_true_eq]
    split <;> simp

theorem length_optionally_putBlock :
    (optionally putBlock number? datagram).length =
      max datagram.length (if number?.isSome then 4 else 0) := by
  cases number? <;> simp [optionally, length_putBlock]

theorem length_optionally_putOpcode :
    (optionally putOpcode number? datagram).length =
      max datagram.length (if number?.isSome then 2 else 0) := by
  cases number? <;> simp [optionally, length_putOpcode]

theorem getD_optionally_putByte :
    (optionally (fun (index, value) ↦ putByte index value) byte? datagram).getD place 0 =
      (((byte?.filter (·.1 < maxDatagramSize)).filter (·.1 = place)).map (·.2)).getD
        (datagram.getD place 0) := by
  cases byte? with
  | none => rfl
  | some patch =>
    simp only [optionally, getD_putByte, Option.filter_some, decide_eq_true_eq]
    grind

theorem getD_optionally_putBlock :
    (optionally putBlock number? datagram).getD place 0 =
      (wordByte? 2 number? place).getD (datagram.getD place 0) := by
  cases number? with
  | none => rfl
  | some number =>
    have length := Bytes.length_ofWord number
    rw [optionally, getD_putBlock, wordByte?, Option.bind_some]
    simp only [List.getD_eq_getElem?_getD]
    grind

theorem getD_optionally_putOpcode :
    (optionally putOpcode number? datagram).getD place 0 =
      (wordByte? 0 number? place).getD (datagram.getD place 0) := by
  cases number? with
  | none => rfl
  | some number =>
    have length := Bytes.length_ofWord number
    rw [optionally, getD_putOpcode, wordByte?, Option.bind_some]
    simp only [List.getD_eq_getElem?_getD]
    grind

end

/-! ## All operations -/

/-- The byte that is overwritten; one beyond the largest datagram is left alone. -/
def patch? : Option (Nat × UInt8) :=
  alteration.byte.filter (·.1 < maxDatagramSize)

/-- How long a datagram must be for what is written into it. -/
def reach : Nat :=
  max (alteration.patch?.elim 0 (·.1 + 1))
    (max (if alteration.block.isSome then 4 else 0) (if alteration.opcode.isSome then 2 else 0))

/-- The length of the altered datagram. -/
def lengthOf : Nat :=
  match alteration.size with
  | some length => min length maxDatagramSize
  | none => max datagram.length alteration.reach

/-- The byte at this place of the altered datagram, if `patch?` is what is overwritten. -/
def byteOf (patch? : Option (Nat × UInt8)) : UInt8 :=
  (wordByte? 0 alteration.opcode place).getD <|
  (wordByte? 2 alteration.block place).getD <|
  ((patch?.filter (·.1 = place)).map (·.2)).getD <|
  datagram.getD place 0

/-- The datagram as it is before it is cut off or filled up. -/
def written : Bytes :=
  optionally putOpcode alteration.opcode <|
  optionally putBlock alteration.block <|
  optionally (fun (index, value) ↦ putByte index value) alteration.byte datagram

theorem length_written :
    (alteration.written datagram).length = max datagram.length alteration.reach := by
  rw [written, length_optionally_putOpcode, length_optionally_putBlock, length_optionally_putByte,
    reach, patch?, Nat.max_assoc, Nat.max_assoc]

theorem getD_written :
    (alteration.written datagram).getD place 0 =
      alteration.byteOf datagram place alteration.patch? := by
  rw [written, getD_optionally_putOpcode, getD_optionally_putBlock, getD_optionally_putByte,
    byteOf, patch?]

/-- What is written lies within the largest datagram. -/
theorem reach_le : alteration.reach ≤ maxDatagramSize := by
  have patch : alteration.patch?.elim 0 (·.1 + 1) ≤ maxDatagramSize := by
    cases h : alteration.patch? with
    | none => exact Nat.zero_le _
    | some patch =>
      exact of_decide_eq_true (Option.filter_eq_some_iff.mp h).2
  unfold reach maxDatagramSize at *
  split <;> split <;> omega

/-! ## Writing -/

/-- The datagram with the replacement from `start` on, filled up so that it fits in. -/
def replace? (start : Nat) (replacement datagram : Bytes) : Option Bytes :=
  Bytes.overwrite? start replacement (datagram.extend (start + replacement.length))

/-- What is written over the bytes of a datagram, and from where on. -/
def replacements : List (Nat × Bytes) :=
  (alteration.patch?.map fun (index, value) ↦ (index, [value])).toList
    ++ (alteration.block.map fun number ↦ (2, Bytes.ofWord number)).toList
    ++ (alteration.opcode.map fun number ↦ (0, Bytes.ofWord number)).toList

/-- The datagram with one replacement after the other. -/
def replaceAll? (replacements : List (Nat × Bytes)) (datagram : Bytes) : Option Bytes :=
  replacements.foldlM (fun datagram (start, replacement) ↦ replace? start replacement datagram)
    datagram

/-- The datagram after all operations, if each of them finds the bytes that it replaces. -/
def attempt? : Option Bytes :=
  (replaceAll? alteration.replacements datagram).map fun written ↦
    optionally cut alteration.size <|
    optionally putFilename alteration.filename <|
    optionally putMode alteration.mode written

theorem replace?_eq (start : Nat) (replacement : Bytes) :
    replace? start replacement datagram =
      some ((datagram.extend (start + replacement.length)).take start ++ replacement ++
        (datagram.extend (start + replacement.length)).drop (start + replacement.length)) := by
  have found : start + replacement.length ≤
      (datagram.extend (start + replacement.length)).length := by
    rw [Bytes.length_extend]
    exact Nat.le_max_right _ _
  rw [replace?, Bytes.overwrite?, if_pos found]

theorem replace?_byte {index : Nat} (inside : index < maxDatagramSize) (value : UInt8) :
    replace? index [value] datagram = some (putByte index value datagram) := by
  have found : index < (datagram.extend (index + 1)).length := by
    rw [Bytes.length_extend]
    omega
  rw [replace?_eq, putByte, if_pos inside, List.set_eq_take_append_cons_drop, if_pos found]
  simp

theorem replaceAll?_append (first second : List (Nat × Bytes)) :
    replaceAll? (first ++ second) datagram =
      (replaceAll? first datagram).bind (replaceAll? second) :=
  List.foldlM_append

theorem replaceAll?_byte (byte? : Option (Nat × UInt8)) :
    replaceAll? (((byte?.filter (·.1 < maxDatagramSize)).map
      fun (index, value) ↦ (index, [value])).toList) datagram =
      some (optionally (fun (index, value) ↦ putByte index value) byte? datagram) := by
  cases byte? with
  | none => rfl
  | some patch =>
    by_cases inside : patch.1 < maxDatagramSize
    · simp [replaceAll?, Option.filter_some, inside, replace?_byte, optionally]
    · simp [replaceAll?, Option.filter_some, inside, optionally, putByte]

theorem replaceAll?_block (number? : Option UInt16) :
    replaceAll? (number?.map fun number ↦ (2, Bytes.ofWord number)).toList datagram =
      some (optionally putBlock number? datagram) := by
  cases number? <;> simp [replaceAll?, replace?_eq, optionally, putBlock]

theorem replaceAll?_opcode (number? : Option UInt16) :
    replaceAll? (number?.map fun number ↦ (0, Bytes.ofWord number)).toList datagram =
      some (optionally putOpcode number? datagram) := by
  cases number? <;> simp [replaceAll?, replace?_eq, optionally, putOpcode]

/-- Every operation finds the bytes that it replaces. -/
theorem attempt?_eq : alteration.attempt? datagram = some (alteration.apply datagram) := by
  rw [attempt?, replacements, patch?, replaceAll?_append, replaceAll?_append, replaceAll?_byte,
    Option.bind_some, replaceAll?_block, Option.bind_some, replaceAll?_opcode]
  rfl

/-- `result` is, byte for byte, what is to be made of the datagram if `patch?` is what is
overwritten. -/
structure Yields (patch? : Option (Nat × UInt8)) (result : Bytes) : Prop where
  length : result.length = alteration.lengthOf datagram
  byte : ∀ place < result.length, result[place]? = some (alteration.byteOf datagram place patch?)

variable {alteration datagram}

/-- If neither texts nor the way of sending matter, the altered datagram is known byte by byte,
every byte was there when it was overwritten, and the datagram has not outgrown the largest one. -/
theorem apply_bytewise (mode : alteration.mode = none) (filename : alteration.filename = none) :
    alteration.Yields datagram alteration.patch? (alteration.apply datagram) ∧
      alteration.attempt? datagram = some (alteration.apply datagram) ∧
      (alteration.apply datagram).length ≤ max datagram.length maxDatagramSize := by
  have applied : alteration.apply datagram =
      optionally cut alteration.size (alteration.written datagram) := by
    rw [apply, mode, filename]
    rfl
  have length : (alteration.apply datagram).length = alteration.lengthOf datagram := by
    rw [applied, lengthOf]
    cases alteration.size with
    | none => exact alteration.length_written datagram
    | some size => exact Bytes.length_resize _ _
  have reading (place : Nat) (inside : place < (alteration.apply datagram).length) :
      (alteration.apply datagram).getD place 0 =
        alteration.byteOf datagram place alteration.patch? := by
    rw [← getD_written, applied]
    rw [length, lengthOf] at inside
    cases hsize : alteration.size with
    | none => rfl
    | some size =>
      rw [hsize] at inside
      exact (Bytes.getD_resize _ _ _).trans (if_pos inside)
  refine ⟨⟨length, fun place inside ↦ ?_⟩, alteration.attempt?_eq datagram, ?_⟩
  · rw [← reading place inside, List.getD_eq_getElem?_getD, List.getElem?_eq_getElem inside,
      Option.getD_some]
  · rw [length, lengthOf]
    have reach := alteration.reach_le
    split <;> omega

/-- An acknowledgment gets another opcode and another block number, and a byte behind its end. -/
theorem apply_bytewise_acknowledgment :
    let alteration : Alteration :=
      { direction := .serverToClient, target := .block 1, byte := some (5, 255),
        block := some 258, opcode := some 6 }
    alteration.mode = none ∧ alteration.filename = none ∧
      alteration.Yields [0, 4, 0, 1] alteration.patch? [0, 6, 1, 2, 0, 255] ∧
      alteration.attempt? [0, 4, 0, 1] = some [0, 6, 1, 2, 0, 255] ∧
      [0, 6, 1, 2, 0, 255].length ≤ max [0, 4, 0, 1].length maxDatagramSize :=
  ⟨rfl, rfl, @apply_bytewise
    { direction := .serverToClient, target := .block 1, byte := some (5, 255),
      block := some 258, opcode := some 6 } [0, 4, 0, 1] rfl rfl⟩

/-- A datagram that is longer than the largest one has a byte that no operation changes. -/
theorem not_yields_beyond_largest :
    let alteration : Alteration :=
      { direction := .clientToServer, target := .block 1, byte := some (maxDatagramSize, 1) }
    let datagram : Bytes := List.replicate (maxDatagramSize + 1) 0
    alteration.mode = none ∧ alteration.filename = none ∧
      ¬ alteration.Yields datagram alteration.byte (alteration.apply datagram) := by
  intro alteration datagram
  refine ⟨rfl, rfl, fun yields ↦ ?_⟩
  have applied : alteration.apply datagram = datagram := by
    change putByte maxDatagramSize 1 datagram = datagram
    rw [putByte, if_neg (Nat.lt_irrefl _)]
  have inside : maxDatagramSize < datagram.length := by
    rw [List.length_replicate]
    exact Nat.lt_succ_self _
  have read := yields.byte maxDatagramSize (applied ▸ inside)
  rw [applied, List.getElem?_replicate, if_pos (Nat.lt_succ_self _)] at read
  exact absurd read (by decide)

end Alteration

end Lockstep
