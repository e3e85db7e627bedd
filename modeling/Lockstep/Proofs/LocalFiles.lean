import Lockstep.Proofs.Intake

/-!
# Files that do not fail

What it takes for a reader to yield a whole file and for a writer to store all that it is given,
although both work through a buffer. The file that is read can be read to its end, and what is
written fits on the device. Neither touches any other file.
-/

namespace Lockstep

open FileSystem

namespace Contents

theorem length_toBytes (contents : Contents) : contents.toBytes.length = contents.size := by
  obtain ⟨pieces⟩ := contents
  rw [toBytes_eq_flatten, size, List.map_reverse, List.length_flatten, List.map_reverse,
    List.sum_reverse]
  induction pieces with
  | nil => rfl
  | cons piece rest ih =>
    rw [List.map_cons, List.map_cons, List.sum_cons, ih, List.foldr_cons, Array.length_toList]
    rfl

theorem slice_eq (contents : Contents) (offset count : Nat) :
    contents.slice offset count = (contents.toBytes.drop offset).take count := by
  simp only [slice, toBytes, ByteArray.data_extract, Array.toList_extract, List.extract,
    Nat.add_sub_cancel_left]

end Contents

/-! ## Reading -/

namespace FileSystem

/-- The file can be read to its end, and this is what is in it. -/
def Offers (files : FileSystem) (handle : Handle) (content : Bytes) : Prop :=
  files.readRest handle 0 = .ok content

namespace Offers

variable {files : FileSystem} {handle : Handle} {content : Bytes}

/-- There is nothing in the file, or it is stored and not broken anywhere. -/
theorem cases (h : files.Offers handle content) :
    ∃ id, handle = .file id ∧ (files.file? id = none ∧ content = [] ∨
      ∃ file, files.file? id = some file ∧ file.contents.toBytes = content ∧
        file.brokenFrom.all (content.length < ·)) := by
  unfold Offers readRest at h
  cases handle with
  | directory => cases h
  | file id =>
    refine ⟨id, rfl, ?_⟩
    dsimp only at h
    cases hfile : files.file? id with
    | none =>
      rw [hfile] at h
      cases h
      exact .inl ⟨rfl, rfl⟩
    | some file =>
      rw [hfile] at h
      dsimp only at h
      split at h
      · cases h
      · next unbroken =>
        rw [Contents.slice_eq, List.drop_zero, ← Contents.length_toBytes, List.take_length] at h
        cases h
        refine .inr ⟨file, rfl, rfl, ?_⟩
        rw [Contents.length_toBytes]
        cases hbroken : file.brokenFrom with
        | none => rfl
        | some limit =>
          rw [hbroken, Option.any_some, decide_eq_true_eq] at unbroken
          rw [Option.all_some, decide_eq_true_eq]
          omega

theorem of_stored {id : FileId} {file : StoredFile} (hfile : files.file? id = some file)
    (unbroken : file.brokenFrom = none) : files.Offers (.file id) file.contents.toBytes := by
  unfold Offers readRest
  simp only [hfile, unbroken, Option.any_none, Bool.false_eq_true, if_false, Contents.slice_eq,
    List.drop_zero, ← Contents.length_toBytes, List.take_length]

/-- Whoever leaves the file alone leaves what can be read from it. -/
theorem congr {after : FileSystem} (h : files.Offers handle content)
    (same : ∀ id, handle = .file id → after.file? id = files.file? id) :
    after.Offers handle content := by
  unfold Offers readRest at h ⊢
  cases handle with
  | directory => cases h
  | file id =>
    dsimp only at h ⊢
    rw [same id rfl]
    exact h

theorem readRest_eq (h : files.Offers handle content) (offset : Nat) :
    files.readRest handle offset = .ok (content.drop offset) := by
  obtain ⟨id, rfl, ⟨hfile, rfl⟩ | ⟨file, hfile, rfl, unbroken⟩⟩ := h.cases
  · simp only [readRest, hfile, List.drop_nil]
  · have hnot : file.brokenFrom.any (· ≤ file.contents.size) = false := by
      cases hbroken : file.brokenFrom with
      | none => rfl
      | some limit =>
        rw [hbroken, Option.all_some, decide_eq_true_eq, Contents.length_toBytes] at unbroken
        rw [Option.any_some, decide_eq_false_iff_not]
        omega
    have hwhole : (file.contents.toBytes.drop offset).take file.contents.size =
        file.contents.toBytes.drop offset := by
      apply List.take_of_length_le
      rw [List.length_drop, Contents.length_toBytes]
      exact Nat.sub_le _ _
    simp only [readRest, hfile, hnot, Bool.false_eq_true, if_false, Contents.slice_eq, hwhole]

/-- One read yields the beginning of what is left, and nothing only at the end. -/
theorem readFile_eq (h : files.Offers handle content) {offset count : Nat}
    (hoffset : offset ≤ content.length) (hpos : 0 < count) :
    ∃ yielded, 0 < yielded ∧
      files.readFile handle offset count = .ok ((content.drop offset).take yielded) := by
  obtain ⟨id, rfl, ⟨hfile, rfl⟩ | ⟨file, hfile, rfl, unbroken⟩⟩ := h.cases
  · exact ⟨count, hpos, by simp only [readFile, hfile, List.drop_nil, List.take_nil]⟩
  · cases hbroken : file.brokenFrom with
    | none => exact ⟨count, hpos, by simp only [readFile, hfile, hbroken, Contents.slice_eq]⟩
    | some limit =>
      rw [hbroken, Option.all_some, decide_eq_true_eq] at unbroken
      refine ⟨min count (limit - offset), by omega, ?_⟩
      have hbefore : ¬ limit ≤ offset := by omega
      simp only [readFile, hfile, hbroken, ge_iff_le, hbefore, if_false, Contents.slice_eq]

end Offers

end FileSystem

namespace FileReader

/-- The reader is going to yield these bytes, the buffered ones first. -/
def Yields (reader : FileReader) (files : FileSystem) (rest : Bytes) : Prop :=
  ∃ content, files.Offers reader.handle content ∧ reader.offset ≤ content.length ∧
    reader.buffer ++ content.drop reader.offset = rest

variable {reader : FileReader} {machine : Machine} {rest : Bytes}

theorem yields_of_offers {files : FileSystem} {handle : Handle} {content : Bytes}
    (h : files.Offers handle content) : FileReader.Yields { handle } files content :=
  ⟨content, h, Nat.zero_le _, rfl⟩

theorem Yields.congr {files after : FileSystem} (h : reader.Yields files rest)
    (same : ∀ id, reader.handle = .file id → after.file? id = files.file? id) :
    reader.Yields after rest := by
  obtain ⟨content, offers, hoffset, hrest⟩ := h
  exact ⟨content, offers.congr same, hoffset, hrest⟩

/-- The reads that are allowed suffice: each but the first finds an empty buffer behind it, and each
but the last fills it. -/
theorem run_fillWithin {count fuel : Nat} (h : reader.Yields machine.files rest)
    (enough : count ≤ fuel) (buffered : reader.buffer ≠ [] ∨ count < fuel) :
    ∃ after, after.handle = reader.handle ∧ after.Yields machine.files (rest.drop count) ∧
      machine.run (reader.fillWithin count fuel) = ((.ok (rest.take count), after), machine) := by
  induction fuel generalizing reader count rest with
  | zero =>
    obtain rfl : count = 0 := by omega
    exact ⟨reader, rfl, h, rfl⟩
  | succ fuel ih =>
    obtain ⟨content, offers, hoffset, hrest⟩ := h
    rw [fillWithin]
    by_cases hready : (reader.buffer.take count).length = count
    · have hcount : count ≤ reader.buffer.length := by
        rw [List.length_take] at hready
        omega
      refine ⟨{ reader with buffer := reader.buffer.drop count }, rfl,
        ⟨content, offers, hoffset, ?_⟩, ?_⟩
      · rw [← hrest, List.drop_append_of_le_length hcount]
      · rw [if_pos hready, ← hrest, List.take_append_of_le_length hcount]
        rfl
    · have hshort : reader.buffer.length < count := by
        rw [List.length_take] at hready
        omega
      have hbuffer : reader.buffer.take count = reader.buffer :=
        List.take_of_length_le (Nat.le_of_lt hshort)
      obtain ⟨yielded, hpos, hread⟩ := offers.readFile_eq hoffset (by decide : 0 < bufferSize)
      have hcall : machine.run (Program.call (.readFile reader.handle reader.offset bufferSize)) =
          (.ok ((content.drop reader.offset).take yielded), machine) := by
        rw [Machine.run_call, Machine.answer, hread]
      rw [if_neg hready, Machine.run_bind, hcall, hbuffer]
      cases hchunk : (content.drop reader.offset).take yielded with
      | nil =>
        have hend : content.drop reader.offset = [] := by
          rcases List.take_eq_nil_iff.mp hchunk with hzero | hnil
          · omega
          · exact hnil
        rw [hend, List.append_nil] at hrest
        refine ⟨{ reader with buffer := [] }, rfl, ⟨content, offers, hoffset, ?_⟩, ?_⟩
        · rw [← hrest, List.drop_of_length_le (Nat.le_of_lt hshort), hend]
          rfl
        · rw [← hrest, hbuffer]
          rfl
      | cons first others =>
        have hprefix : first :: others <+: content.drop reader.offset :=
          hchunk ▸ List.take_prefix _ _
        have hlength := hprefix.length_le
        have hsplit := List.prefix_iff_eq_append.mp hprefix
        rw [List.length_drop] at hlength
        rw [List.drop_drop] at hsplit
        have hyields : FileReader.Yields { reader with
              offset := reader.offset + (first :: others).length, buffer := first :: others }
            machine.files (content.drop reader.offset) :=
          ⟨content, offers, show reader.offset + (first :: others).length ≤ _ by omega, hsplit⟩
        obtain ⟨after, hhandle, hafter, hrun⟩ := ih hyields
          (show count - reader.buffer.length ≤ fuel by
            rcases buffered with hnonempty | hless
            · have hpositive := List.length_pos_iff.mpr hnonempty
              omega
            · omega)
          (.inl (List.cons_ne_nil _ _))
        refine ⟨after, hhandle, ?_, ?_⟩
        · rw [← hrest, List.drop_append, List.drop_of_length_le (Nat.le_of_lt hshort)]
          exact hafter
        · dsimp only
          rw [Machine.run_bind, hrun, ← hrest, List.take_append, hbuffer]
          rfl

/-- Filling takes the next bytes of the file, fewer only at its end. -/
theorem run_fill (h : reader.Yields machine.files rest) (count : Nat) :
    ∃ after, after.handle = reader.handle ∧ after.Yields machine.files (rest.drop count) ∧
      machine.run (reader.fill count) = ((.ok (rest.take count), after), machine) :=
  run_fillWithin h (Nat.le_succ _) (.inr (Nat.lt_succ_self _))

theorem run_drain (h : reader.Yields machine.files rest) :
    ∃ after, after.handle = reader.handle ∧ after.Yields machine.files [] ∧
      machine.run reader.drain = ((.ok rest, after), machine) := by
  obtain ⟨content, offers, hoffset, hrest⟩ := h
  have hlength : (content.drop reader.offset).length = content.length - reader.offset :=
    List.length_drop
  refine ⟨{ reader with
    buffer := [], offset := reader.offset + (content.drop reader.offset).length }, rfl,
    ⟨content, offers, ?_, ?_⟩, ?_⟩
  · rw [hlength]
    exact Nat.le_of_eq (Nat.add_sub_of_le hoffset)
  · apply List.drop_of_length_le
    change content.length ≤ reader.offset + (content.drop reader.offset).length
    omega
  · rw [drain, Machine.run_bind, Machine.run_call, Machine.answer, offers.readRest_eq, ← hrest]
    rfl

end FileReader

/-! ## Writing -/

namespace FileSystem

variable {system : FileSystem} {bytes : Bytes}

/-- What fits on the device is written. -/
theorem appendFile_of_room (id : FileId) (room : system.free.all (bytes.length ≤ ·)) :
    (system.appendFile id bytes).1 = .ok () ∧
      (system.appendFile id bytes).2.free = system.free.map (· - bytes.length) := by
  have hfitting : (system.free.map (min bytes.length ·)).getD bytes.length = bytes.length := by
    cases hfree : system.free with
    | none => rfl
    | some free =>
      rw [hfree, Option.all_some, decide_eq_true_eq] at room
      rw [Option.map_some, Option.getD_some, Nat.min_eq_left room]
  unfold appendFile
  dsimp only
  rw [hfitting, if_neg (Nat.lt_irrefl _)]
  exact ⟨rfl, rfl⟩

end FileSystem

namespace FileWriter

/-- A new file, and behind it the buffer, hold the bytes, and so many more still fit on the
device. -/
structure Grows (writer : FileWriter) (files : FileSystem) (bytes : Bytes) (more : Nat) : Prop where
  held : ∃ contents, files.file? writer.file = some { contents, isOpen := true } ∧
    contents.toBytes ++ writer.buffer = bytes
  room : files.free.all (writer.buffer.length + more ≤ ·)

variable {writer : FileWriter} {machine : Machine} {bytes : Bytes} {more : Nat}

/-- Bytes that fit are written at the end of the file. -/
theorem run_append {id : FileId} {contents : Contents} {chunk : Bytes}
    (hfile : machine.files.file? id = some { contents, isOpen := true })
    (room : machine.files.free.all (chunk.length + more ≤ ·)) :
    ∃ files, machine.run (Program.call (.appendFile id chunk)) =
        (.ok (), { machine with files }) ∧
      files.file? id = some { contents := contents.append chunk, isOpen := true } ∧
      files.free.all (more ≤ ·) := by
  have hfits : machine.files.free.all (chunk.length ≤ ·) := by
    cases hfree : machine.files.free with
    | none => rfl
    | some free =>
      rw [hfree, Option.all_some, decide_eq_true_eq] at room
      rw [Option.all_some, decide_eq_true_eq]
      omega
  obtain ⟨hok, hfree⟩ := appendFile_of_room id hfits
  refine ⟨(machine.files.appendFile id chunk).2, ?_, ?_, ?_⟩
  · rw [Machine.run_call, Machine.answer, Machine.withFiles, hok]
  · rw [file?_appendFile hok, hfile]
    rfl
  · rw [hfree]
    cases hbefore : machine.files.free with
    | none => rfl
    | some free =>
      rw [hbefore, Option.all_some, decide_eq_true_eq] at room
      rw [Option.map_some, Option.all_some, decide_eq_true_eq]
      omega

/-- A file that was just made grows from nothing. -/
theorem grows_of_new {files : FileSystem} {id : FileId}
    (hfile : files.file? id = some { contents := {}, isOpen := true })
    (room : files.free.all (more ≤ ·)) : FileWriter.Grows { file := id } files [] more where
  held := ⟨{}, hfile, rfl⟩
  room := by
    rw [List.length_nil, Nat.zero_add]
    exact room

/-- Emptying the buffer puts everything into the file. -/
theorem Grows.empty (h : writer.Grows machine.files bytes more) :
    ∃ files, machine.run writer.empty =
        ((.ok (), { writer with buffer := [] }), { machine with files }) ∧
      FileWriter.Grows { writer with buffer := [] } files bytes more := by
  obtain ⟨⟨contents, hfile, hbytes⟩, room⟩ := h
  unfold FileWriter.empty
  by_cases hbuffer : writer.buffer.isEmpty = true
  · obtain ⟨file, buffer⟩ := writer
    obtain rfl : buffer = [] := List.isEmpty_iff.mp hbuffer
    exact ⟨machine.files, rfl, ⟨contents, hfile, hbytes⟩, room⟩
  · obtain ⟨files, hrun, hgrown, hroom⟩ := run_append hfile room
    refine ⟨files, ?_, ⟨_, hgrown, ?_⟩, ?_⟩
    · rw [if_neg hbuffer, Machine.run_bind, hrun]
      rfl
    · rw [Contents.toBytes_append, List.append_nil]
      exact hbytes
    · rw [List.length_nil, Nat.zero_add]
      exact hroom

/-- Bytes that fit are taken. -/
theorem Grows.write {chunk : Bytes} (h : writer.Grows machine.files bytes (chunk.length + more)) :
    ∃ after files, machine.run (writer.write chunk) =
        ((.ok (), after), { machine with files }) ∧
      after.file = writer.file ∧ after.Grows files (bytes ++ chunk) more := by
  unfold FileWriter.write
  split
  · obtain ⟨⟨contents, hfile, hbytes⟩, room⟩ := h
    refine ⟨{ writer with buffer := writer.buffer ++ chunk }, machine.files, rfl, rfl,
      ⟨contents, hfile, ?_⟩, ?_⟩
    · rw [← List.append_assoc, hbytes]
    · rw [List.length_append, Nat.add_assoc]
      exact room
  · obtain ⟨files, hrun, ⟨contents, hfile, hbytes⟩, room⟩ := h.empty
    rw [Machine.run_bind, hrun]
    dsimp only at room ⊢
    rw [List.append_nil] at hbytes
    rw [List.length_nil, Nat.zero_add] at room
    split
    · exact ⟨{ writer with buffer := chunk }, files, rfl, rfl,
        ⟨contents, hfile, congrArg (· ++ chunk) hbytes⟩, room⟩
    · have hfile' : { machine with files : Machine }.files.file? writer.file =
          some { contents, isOpen := true } := hfile
      obtain ⟨files', hrun', hgrown, hroom⟩ := run_append hfile' room
      refine ⟨{ writer with buffer := [] }, files', ?_, rfl, ⟨_, hgrown, ?_⟩, ?_⟩
      · rw [Machine.run_bind, hrun']
        rfl
      · rw [Contents.toBytes_append, List.append_nil, hbytes]
      · rw [List.length_nil, Nat.zero_add]
        exact hroom

end FileWriter

end Lockstep
