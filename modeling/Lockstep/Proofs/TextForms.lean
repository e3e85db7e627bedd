import Lockstep.Alteration.TextForm
import Lockstep.Proofs.AddressText
import Lockstep.Proofs.Operations

/-!
# Alterations with a text form

An alteration is read back from its text exactly if it does something and none of its operations is
beyond what can be written: a text in it must not end the operation early, and a number must be one
that the reader takes. What is read from a text, however it was put, has operations of this kind
only, so it is among the alterations that are read back. The way from a text to an alteration thus
forgets the order, the repetitions and the blanks, and nothing else.
-/

namespace Lockstep

/-! ## Single operations -/

namespace Operation

/-- What an operation is called. -/
def name : Operation → String
  | .byte _ _ => "byte"
  | .block _ => "block"
  | .opcode _ => "opcode"
  | .mode _ => "mode"
  | .filename _ => "filename"
  | .size _ => "size"
  | .tid _ => "tid"
  | .address _ => "addr"
  | .delay _ => "delay"
  | .duplicate _ => "duplicate"
  | .drop => "drop"

/-- What stands behind the name of an operation. -/
def value? : Operation → Option (List Char)
  | .byte index value => some (Nat.toDigits 10 index ++ '/' :: Nat.toDigits 10 value.toNat)
  | .block number | .opcode number | .tid number => some (Nat.toDigits 10 number.toNat)
  | .mode text | .filename text => some text.toList
  | .size number | .delay number | .duplicate number => some (Nat.toDigits 10 number)
  | .address ip => some ip.text.toList
  | .drop => none

theorem toList_text (operation : Operation) :
    operation.text.toList = operation.name.toList ++ operation.value?.elim [] ('=' :: ·) := by
  cases operation <;> simp [text, name, value?, toString, Nat.toList_repr]

/-- The operation is within what can be written. -/
def IsWritable : Operation → Prop
  | .byte index _ => index < maxDatagramSize
  | .mode text | .filename text => Text.IsListable text.toList
  | .size length => length ≤ maxDatagramSize
  | .delay milliseconds | .duplicate milliseconds => milliseconds < 18446744073709551616
  | .block _ | .opcode _ | .tid _ | .address _ | .drop => True

variable {operation : Operation} {characters value : List Char}

theorem readWord?_toDigits (number : UInt16) :
    readWord? (Nat.toDigits 10 number.toNat) = some number := by
  rw [readWord?, Text.readUnsigned?_toDigits number.toNat_lt, Option.map_some,
    UInt16.ofNat_toNat]

theorem readPatch?_toDigits {index : Nat} (h : index < maxDatagramSize) (value : UInt8) :
    readPatch? (Nat.toDigits 10 index ++ '/' :: Nat.toDigits 10 value.toNat) =
      some (.byte index value) := by
  have slash : '/' ∉ Nat.toDigits 10 index := Text.not_mem_toDigits (by decide) (by decide)
  rw [readPatch?, Text.splitFirst?_append_cons slash]
  simp [Text.readUnsigned?_toDigits h, Text.readUnsigned?_toDigits value.toNat_lt]

/-- No separator and no blank is part of a name. -/
theorem visible_of_mem_name (operation : Operation) :
    ∀ character ∈ operation.name.toList,
      character ≠ '=' ∧ character ≠ ',' ∧ Text.isBlank character = false := by
  cases operation <;> simp [name, Text.isBlank]

theorem splitFirst?_name (operation : Operation) (value : List Char) :
    Text.splitFirst? '=' (operation.name.toList ++ '=' :: value) =
      some (operation.name.toList, value) := by
  apply Text.splitFirst?_append_cons
  exact fun mem ↦ (visible_of_mem_name operation '=' mem).1 rfl

/-- A writable operation is read back. -/
theorem ofText_text (h : operation.IsWritable) : ofText operation.text.toList = .ok operation := by
  rw [toList_text]
  cases operation with
  | byte index value =>
    rw [value?, Option.elim_some, ofText, splitFirst?_name]
    simp [name, ofValue?, readPatch?_toDigits h]
  | block number | opcode number | tid number =>
    rw [value?, Option.elim_some, ofText, splitFirst?_name]
    simp [name, ofValue?, readWord?_toDigits]
  | mode text | filename text =>
    rw [value?, Option.elim_some, ofText, splitFirst?_name]
    simp [name]
  | size length =>
    have bound : length < maxDatagramSize + 1 := Nat.lt_succ_of_le h
    rw [value?, Option.elim_some, ofText, splitFirst?_name]
    simp [name, ofValue?, Text.readUnsigned?_toDigits bound]
  | address ip =>
    rw [value?, Option.elim_some, ofText, splitFirst?_name]
    simp [name, ofValue?, Ip.ofText?_text]
  | delay milliseconds | duplicate milliseconds =>
    have read : readMilliseconds? (Nat.toDigits 10 milliseconds) = some milliseconds :=
      Text.readUnsigned?_toDigits h
    rw [value?, Option.elim_some, ofText, splitFirst?_name]
    simp [name, ofValue?, read]
  | drop => rfl

theorem isListable_value (h : operation.IsWritable) :
    ∀ value ∈ operation.value?, Text.IsListable value := by
  intro value found
  cases operation with
  | byte index patch =>
    cases found
    exact (Text.IsListable.toDigits _).append_cons (Text.IsListable.toDigits index).comma (by decide)
      (by decide)
  | block number | opcode number | tid number | size number | delay number | duplicate number =>
    cases found
    exact Text.IsListable.toDigits _
  | mode text | filename text =>
    cases found
    exact h
  | address ip =>
    cases found
    refine Text.IsListable.of_forall fun character mem ↦ ?_
    have plain := ip.isAddressChar_of_mem_text character mem
    refine ⟨?_, plain.not_isBlank⟩
    rintro rfl
    exact Ip.not_isAddressChar_comma plain
  | drop => cases found

theorem isListable_text (h : operation.IsWritable) : Text.IsListable operation.text.toList := by
  have visible := visible_of_mem_name operation
  rw [toList_text]
  cases value : operation.value? with
  | none =>
    rw [Option.elim_none, List.append_nil]
    exact Text.IsListable.of_forall fun character mem ↦ (visible character mem).2
  | some value =>
    have comma : ',' ∉ operation.name.toList := fun mem ↦ (visible ',' mem).2.1 rfl
    exact (isListable_value h _ ‹_›).append_cons comma (by decide) (by decide)

/-- An operation begins with a letter. -/
theorem exists_text_eq_cons (operation : Operation) :
    ∃ first rest, operation.text.toList = first :: rest ∧ Text.isBlank first = false := by
  have visible := visible_of_mem_name operation
  rw [toList_text]
  cases name : operation.name.toList with
  | nil =>
    have named : operation.name.toList ≠ [] := by
      cases operation <;> dsimp only [Operation.name] <;> decide
    exact absurd name named
  | cons first rest =>
    rw [name] at visible
    exact ⟨first, _, List.cons_append, (visible first List.mem_cons_self).2.2⟩

theorem isTrimmed_text (h : operation.IsWritable) : Text.IsTrimmed operation.text.toList where
  head character found := by
    obtain ⟨first, rest, text, visible⟩ := exists_text_eq_cons operation
    rw [text] at found
    cases found
    exact visible
  last := (isListable_text h).last

/-! ## Reading -/

theorem eq_some_of_ofValue? {name : String} {operation? : Option Operation}
    (h : ofValue? name value operation? = .ok operation) : operation? = some operation := by
  cases operation? with
  | none => cases h
  | some other =>
    cases h
    rfl

theorem isListable_of_splitFirst? (h : Text.IsListable characters) :
    Text.IsListable ((Text.splitFirst? '=' characters).getD (characters, [])).2 := by
  cases found : Text.splitFirst? '=' characters with
  | none => exact Text.IsListable.nil
  | some parts =>
    rw [Text.eq_of_splitFirst? found] at h
    exact h.of_append_cons

theorem isWritable_of_readPatch? (h : readPatch? value = some operation) :
    operation.IsWritable := by
  unfold readPatch? at h
  obtain ⟨parts, -, h⟩ := Option.bind_eq_some_iff.mp h
  obtain ⟨index, read, h⟩ := Option.bind_eq_some_iff.mp h
  obtain ⟨patch, -, h⟩ := Option.bind_eq_some_iff.mp h
  cases h
  exact Text.readUnsigned?_lt (by decide) read

/-- What is read from an item of a list can be written into one. -/
theorem isWritable_of_ofText (listable : Text.IsListable characters)
    (h : ofText characters = .ok operation) : operation.IsWritable := by
  have value := isListable_of_splitFirst? listable
  have timely {text : List Char} {milliseconds : Nat}
      (read : readMilliseconds? text = some milliseconds) :
      milliseconds < 18446744073709551616 := Text.readUnsigned?_lt (by decide) read
  unfold ofText at h
  dsimp only at h
  -- The cases are numbered in the order in which the reader goes through the names.
  split at h
  case h_1 =>
    cases h
    trivial
  case h_2 | h_3 =>
    obtain ⟨milliseconds, read, rfl⟩ := Option.map_eq_some_iff.mp (eq_some_of_ofValue? h)
    exact timely read
  case h_6 =>
    obtain ⟨length, read, rfl⟩ := Option.map_eq_some_iff.mp (eq_some_of_ofValue? h)
    exact Nat.le_of_lt_succ (Text.readUnsigned?_lt (Nat.succ_pos _) read)
  case h_4 | h_5 | h_7 | h_8 =>
    obtain ⟨argument, -, rfl⟩ := Option.map_eq_some_iff.mp (eq_some_of_ofValue? h)
    trivial
  case h_9 | h_10 =>
    cases h
    rw [IsWritable, String.toList_ofList]
    exact value
  case h_11 => exact isWritable_of_readPatch? (eq_some_of_ofValue? h)
  case h_12 => cases h

end Operation

namespace Alteration

variable {alteration : Alteration}

/-! ## Text forms -/

/-- The alteration does something, and none of its operations is beyond what can be written. -/
structure HasTextForm (alteration : Alteration) : Prop where
  operations : alteration.operations ≠ []
  mode : ∀ text ∈ alteration.mode, Text.IsListable text.toList
  filename : ∀ text ∈ alteration.filename, Text.IsListable text.toList
  byte : ∀ patch ∈ alteration.byte, patch.1 < maxDatagramSize
  size : ∀ length ∈ alteration.size, length ≤ maxDatagramSize

/-- The times fit into eight bytes. -/
structure IsTimely (alteration : Alteration) : Prop where
  delay : ∀ milliseconds ∈ alteration.delay, milliseconds < 18446744073709551616
  duplicate : ∀ milliseconds ∈ alteration.duplicate, milliseconds < 18446744073709551616

theorem hasTextForm_and_isTimely_iff :
    alteration.HasTextForm ∧ alteration.IsTimely ↔
      alteration.operations ≠ [] ∧ ∀ operation ∈ alteration.operations, operation.IsWritable := by
  constructor
  · rintro ⟨form, timely⟩
    refine ⟨form.operations, fun operation mem ↦ ?_⟩
    have does := mem_operations_iff.mp mem
    cases operation with
    | byte index value => exact form.byte _ does
    | mode text => exact form.mode text does
    | filename text => exact form.filename text does
    | size length => exact form.size length does
    | delay milliseconds => exact timely.delay milliseconds does
    | duplicate milliseconds => exact timely.duplicate milliseconds does
    | block | opcode | tid | address | drop => trivial
  · rintro ⟨busy, writable⟩
    have writable (operation : Operation) (does : alteration.Does operation) :
        operation.IsWritable := writable operation (mem_operations_iff.mpr does)
    exact ⟨{
      operations := busy
      mode := fun text does ↦ writable (.mode text) does
      filename := fun text does ↦ writable (.filename text) does
      byte := fun patch does ↦ writable (.byte patch.1 patch.2) does
      size := fun length does ↦ writable (.size length) does }, {
      delay := fun milliseconds does ↦ writable (.delay milliseconds) does
      duplicate := fun milliseconds does ↦ writable (.duplicate milliseconds) does }⟩

/-- The third part of a text form. -/
def listed (alteration : Alteration) : List Char :=
  List.intercalate [','] (alteration.operations.map fun operation ↦ operation.text.toList)

theorem toList_text (alteration : Alteration) :
    alteration.text.toList = alteration.direction.name.toList ++ ':' ::
      (alteration.target.text.toList ++ ':' :: alteration.listed) := by
  have comma : ",".toList = [','] := rfl
  simp [text, listed, toString, String.toList_intercalate, comma, Function.comp_def]

theorem splitParts?_append_cons {first second : List Char} (hfirst : ':' ∉ first)
    (hsecond : ':' ∉ second) (third : List Char) :
    splitParts? (first ++ ':' :: (second ++ ':' :: third)) = some (first, second, third) := by
  simp [splitParts?, Text.splitFirst?_append_cons hfirst, Text.splitFirst?_append_cons hsecond]

end Alteration

namespace Direction

theorem colon_not_mem_name (direction : Direction) : ':' ∉ direction.name.toList := by
  cases direction <;> dsimp only [name] <;> decide

theorem ofText_trim_name (direction : Direction) :
    ofText (Text.trim direction.name.toList) = .ok direction := by
  cases direction <;> rfl

end Direction

namespace Target

theorem toList_text_block (number : BlockNumber) :
    (Target.block number).text.toList = Nat.toDigits 10 number.toNat := by
  simp [text, toString, Nat.toList_repr]

theorem colon_not_mem_text (target : Target) : ':' ∉ target.text.toList := by
  cases target with
  | request => exact of_decide_eq_true rfl
  | block number =>
    rw [toList_text_block]
    exact Text.not_mem_toDigits (by decide) (by decide)

theorem ofText_trim_text (target : Target) : ofText (Text.trim target.text.toList) = .ok target := by
  cases target with
  | request => rfl
  | block number =>
    have trimmed : Text.IsTrimmed (Nat.toDigits 10 number.toNat) :=
      Text.isTrimmed_of_forall (Text.not_isBlank_of_mem_toDigits (by decide) (by decide))
    have letter : 'r' ∉ Nat.toDigits 10 number.toNat :=
      Text.not_mem_toDigits (by decide) (by decide)
    have sign : '-' ∉ Nat.toDigits 10 number.toNat :=
      Text.not_mem_toDigits (by decide) (by decide)
    rw [toList_text_block, Text.trim_eq_self trimmed, ofText, if_neg,
      Text.readUnsigned?_toDigits number.toNat_lt]
    · simp
    · simp only [Bool.or_eq_true, decide_eq_true_eq]
      rintro ((request | request) | request)
      · exact letter (request ▸ of_decide_eq_true rfl)
      · exact letter (request ▸ of_decide_eq_true rfl)
      · exact sign (request ▸ of_decide_eq_true rfl)

end Target

namespace Alteration

variable {alteration : Alteration}

/-! ## Reading back -/

section

variable {Item Result Error : Type}

theorem exists_of_bind_eq_ok {computation : Except Error Item} {next : Item → Except Error Result}
    {result : Result} (h : computation >>= next = .ok result) :
    ∃ item, computation = .ok item ∧ next item = .ok result := by
  cases computation with
  | error error => cases h
  | ok item => exact ⟨item, rfl, h⟩

variable {read : Item → Except Error Result}

theorem mapM_map_eq_ok {write : Result → Item} {results : List Result}
    (h : ∀ result ∈ results, read (write result) = .ok result) :
    (results.map write).mapM read = .ok results := by
  induction results with
  | nil => rfl
  | cons result rest ih =>
    rw [List.map_cons, List.mapM_cons, h result List.mem_cons_self,
      ih fun other mem ↦ h other (List.mem_cons_of_mem _ mem)]
    rfl

theorem exists_of_mapM_eq_ok {items : List Item} {results : List Result}
    (h : items.mapM read = .ok results) :
    results.length = items.length ∧
      ∀ result ∈ results, ∃ item ∈ items, read item = .ok result := by
  induction items generalizing results with
  | nil =>
    cases h
    exact ⟨rfl, List.forall_mem_nil _⟩
  | cons item rest ih =>
    rw [List.mapM_cons] at h
    obtain ⟨result, first, h⟩ := exists_of_bind_eq_ok h
    obtain ⟨others, behind, h⟩ := exists_of_bind_eq_ok h
    cases h
    obtain ⟨length, found⟩ := ih behind
    refine ⟨congrArg Nat.succ length, List.forall_mem_cons.mpr ⟨?_, ?_⟩⟩
    · exact ⟨item, List.mem_cons_self, first⟩
    · intro other mem
      obtain ⟨source, within, readSource⟩ := found other mem
      exact ⟨source, List.mem_cons_of_mem _ within, readSource⟩

end

theorem trim_listed_ne_nil (busy : alteration.operations ≠ []) :
    Text.trim alteration.listed ≠ [] := by
  obtain ⟨operation, rest, operations⟩ := List.exists_cons_of_ne_nil busy
  obtain ⟨first, others, text, visible⟩ := operation.exists_text_eq_cons
  have mem : first ∈ alteration.listed := by
    rw [listed, operations, List.map_cons, text]
    cases rest with
    | nil => exact List.mem_cons_self
    | cons next rest => simp [List.intercalate_cons_cons]
  exact Text.trim_ne_nil mem visible

/-- An alteration that can be written is read back from its text. -/
theorem ofText_text (busy : alteration.operations ≠ [])
    (writable : ∀ operation ∈ alteration.operations, operation.IsWritable) :
    ofText alteration.text = .ok alteration := by
  have parts : splitParts? alteration.text.toList = some (alteration.direction.name.toList,
      alteration.target.text.toList, alteration.listed) := by
    rw [toList_text]
    exact splitParts?_append_cons alteration.direction.colon_not_mem_name
      alteration.target.colon_not_mem_text _
  have items : Text.splitOn ',' alteration.listed =
      alteration.operations.map fun operation ↦ operation.text.toList := by
    apply Text.splitOn_intercalate (mt List.map_eq_nil_iff.mp busy)
    intro piece mem
    obtain ⟨operation, within, rfl⟩ := List.mem_map.mp mem
    exact (Operation.isListable_text (writable operation within)).comma
  have read : (alteration.operations.map fun operation ↦ operation.text.toList).mapM
      (fun characters ↦ Operation.ofText (Text.trim characters)) = .ok alteration.operations := by
    apply mapM_map_eq_ok
    intro operation mem
    have writable := writable operation mem
    rw [Text.trim_eq_self (Operation.isTrimmed_text writable), Operation.ofText_text writable]
  unfold ofText
  rw [parts]
  dsimp only
  rw [if_neg (mt List.isEmpty_iff.mp (trim_listed_ne_nil busy)), Direction.ofText_trim_name,
    Target.ofText_trim_text, items, read]
  exact congrArg Except.ok alteration.ofOperations_operations

/-- A text is read as the alteration that is made of what its items are read as. -/
theorem exists_of_ofText {text : String} (h : ofText text = .ok alteration) :
    ∃ direction target listed operations,
      (Text.splitOn ',' listed).mapM (fun item ↦ Operation.ofText (Text.trim item)) =
        .ok operations ∧ alteration = ofOperations direction target operations := by
  unfold ofText at h
  split at h
  · cases h
  · next direction target listed parts =>
    split at h
    · cases h
    · obtain ⟨direction, -, h⟩ := exists_of_bind_eq_ok h
      obtain ⟨target, -, h⟩ := exists_of_bind_eq_ok h
      obtain ⟨operations, read, h⟩ := exists_of_bind_eq_ok h
      cases h
      exact ⟨direction, target, listed, operations, read, rfl⟩

/-- Whatever is read from a text does something that can be written. -/
theorem writable_of_ofText {text : String} (h : ofText text = .ok alteration) :
    alteration.operations ≠ [] ∧ ∀ operation ∈ alteration.operations, operation.IsWritable := by
  obtain ⟨direction, target, listed, operations, read, rfl⟩ := exists_of_ofText h
  obtain ⟨length, found⟩ := exists_of_mapM_eq_ok read
  have busy : operations ≠ [] := by
    rw [← List.length_pos_iff, length, List.length_pos_iff]
    exact Text.splitOn_ne_nil ',' listed
  refine ⟨operations_ofOperations_ne_nil busy, fun operation mem ↦ ?_⟩
  -- What the alteration does was read from an item, whichever of several items that was.
  obtain ⟨item, within, readItem⟩ := found operation (mem_of_mem_operations_ofOperations mem)
  refine Operation.isWritable_of_ofText ?_ readItem
  exact {
    comma := fun comma ↦ Text.not_mem_of_mem_splitOn within (Text.mem_of_mem_trim comma)
    last := fun character ↦ Text.not_isBlank_of_mem_getLast?_trim }

/-- The alterations with a text form are those that are read back from their texts, and no text is
read as anything else. -/
theorem text_forms :
    (∀ alteration : Alteration,
      ofText alteration.text = .ok alteration ↔ alteration.HasTextForm ∧ alteration.IsTimely) ∧
    ∀ (text : String) (alteration : Alteration), ofText text = .ok alteration →
      (alteration.HasTextForm ∧ alteration.IsTimely) ∧
        ofText alteration.text = .ok alteration := by
  have back (alteration : Alteration) (form : alteration.HasTextForm ∧ alteration.IsTimely) :
      ofText alteration.text = .ok alteration := by
    obtain ⟨busy, writable⟩ := hasTextForm_and_isTimely_iff.mp form
    exact ofText_text busy writable
  have forth (text : String) (alteration : Alteration) (read : ofText text = .ok alteration) :
      alteration.HasTextForm ∧ alteration.IsTimely :=
    hasTextForm_and_isTimely_iff.mpr (writable_of_ofText read)
  refine ⟨fun alteration ↦ ⟨forth alteration.text alteration, back alteration⟩, ?_⟩
  intro text alteration read
  exact ⟨forth text alteration read, back alteration (forth text alteration read)⟩

/-- A text with other names, other blanks, another order and repetitions is read as what the
alteration that comes out of it is written as. -/
theorem text_forms_loose :
    let loose := " CLIENT : -1 : duplicate=0, filename=a b:c=/d , byte=+1/+007,delay=5,delay=+30," ++
      "addr=::FFFF:1.2.3.4,drop , drop"
    let alteration : Alteration := {
      direction := .clientToServer, target := .request, byte := some (1, 7),
      filename := some "a b:c=/d", address := some (.v6 #v[0, 0, 0, 0, 0, 65535, 258, 772]),
      delay := some 30, duplicate := some 0, drop := true }
    ofText loose = .ok alteration ∧ (alteration.HasTextForm ∧ alteration.IsTimely) ∧
      ofText alteration.text = .ok alteration ∧
      alteration.text =
        "c2s:req:byte=1/7,filename=a b:c=/d,addr=::ffff:1.2.3.4,delay=30,duplicate=0,drop" := by
  intro loose alteration
  have read : ofText loose = .ok alteration := by decide
  obtain ⟨form, back⟩ := text_forms.2 loose alteration read
  exact ⟨read, form, back, by decide⟩

end Alteration

end Lockstep
