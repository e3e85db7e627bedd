import Lockstep.Stream.Scripted

/-!
# Streams that do not fail

What it takes for a scripted source to yield all its bytes and for a scripted sink to take all that
it is given, however small the pieces are in which they move them. Neither is asked to behave in
one call: the calls that a session makes are those that go on until enough was moved.
-/

namespace Lockstep

namespace Contents

theorem foldl_append_toList (pieces : List ByteArray) (start : ByteArray) :
    (pieces.foldl (· ++ ·) start).data.toList =
      start.data.toList ++ (pieces.map (·.data.toList)).flatten := by
  induction pieces generalizing start with
  | nil => simp
  | cons piece rest ih =>
    simp only [List.foldl_cons, ih, ByteArray.toList_data_append, List.map_cons,
      List.flatten_cons, List.append_assoc]

theorem toBytes_eq_flatten (contents : Contents) :
    contents.toBytes = (contents.pieces.reverse.map (·.data.toList)).flatten := by
  obtain ⟨pieces⟩ := contents
  have hfold := foldl_append_toList pieces.reverse ByteArray.empty
  match pieces with
  | [piece] => simp [toBytes, toByteArray]
  | [] => rfl
  | _ :: _ :: _ => exact hfold

@[simp]
theorem toBytes_append (contents : Contents) (bytes : Bytes) :
    (contents.append bytes).toBytes = contents.toBytes ++ bytes := by
  cases bytes with
  | nil => simp [append]
  | cons first others =>
    rw [toBytes_eq_flatten, toBytes_eq_flatten, append]
    simp

end Contents

namespace Sink

/-- The sink takes `count` more bytes, and it can store them. -/
def HasRoom (sink : Sink) (count : Nat) : Prop :=
  sink.accepted count = count ∧ sink.flushFailure = none

theorem accepted_eq_iff (sink : Sink) (count : Nat) :
    sink.accepted count = count ↔
      count = 0 ∨ sink.piece ≠ some 0 ∧ sink.capacity.all (sink.size + count ≤ ·) := by
  unfold accepted
  split
  · next h =>
    simp only [h, ne_eq, not_true_eq_false, false_and, or_false]
    exact eq_comm
  · next h =>
    cases hcapacity : sink.capacity with
    | none => simp [h]
    | some capacity =>
      simp only [Option.all_some, decide_eq_true_eq]
      constructor
      · intro heq
        have hle : count ≤ capacity - sink.size := by omega
        rcases Nat.eq_zero_or_pos count with hzero | hpos
        · exact .inl hzero
        · exact .inr ⟨h, by omega⟩
      · rintro (rfl | ⟨-, hle⟩) <;> omega

theorem HasRoom.mono {sink : Sink} {count less : Nat} (h : sink.HasRoom count) (hle : less ≤ count) :
    sink.HasRoom less := by
  refine ⟨(accepted_eq_iff sink less).mpr ?_, h.2⟩
  rcases (accepted_eq_iff sink count).mp h.1 with hzero | ⟨hpiece, hcapacity⟩
  · exact .inl (by omega)
  · refine .inr ⟨hpiece, ?_⟩
    cases hc : sink.capacity with
    | none => rfl
    | some capacity =>
      simp only [hc, Option.all_some, decide_eq_true_eq] at hcapacity ⊢
      omega

/-- The sink after a write that it takes in full. -/
def after (sink : Sink) (chunk : Bytes) : Sink :=
  { sink with written := sink.written.append chunk, size := sink.size + chunk.length }

theorem write_of_hasRoom {sink : Sink} {chunk : Bytes} (h : sink.HasRoom chunk.length) :
    sink.write chunk = (.ok (), sink.after chunk) := by
  simp only [write, h.1, List.take_length, Nat.lt_irrefl, if_false, after]

theorem flush_of_hasRoom {sink : Sink} {count : Nat} (h : sink.HasRoom count) :
    sink.flush = (.ok (), { sink with flushes := sink.flushes + 1 }) := by
  simp only [flush, h.2]

theorem HasRoom.after {sink : Sink} {chunk : Bytes} {count : Nat}
    (h : sink.HasRoom (chunk.length + count)) : (sink.after chunk).HasRoom count := by
  refine ⟨(accepted_eq_iff _ count).mpr ?_, h.2⟩
  rcases (accepted_eq_iff sink _).mp h.1 with hzero | ⟨hpiece, hcapacity⟩
  · exact .inl (by omega)
  · refine .inr ⟨hpiece, ?_⟩
    simpa only [Sink.after, Nat.add_assoc] using hcapacity

@[simp]
theorem written_after (sink : Sink) (chunk : Bytes) :
    (sink.after chunk).written.toBytes = sink.written.toBytes ++ chunk :=
  Contents.toBytes_append _ _

end Sink

namespace Source

/-- What the source has not yielded yet. -/
def rest (source : Source) : Bytes :=
  source.data.data.toList.drop source.offset

/-- Every call on the source succeeds, and yields something before the end. -/
def IsReliable (source : Source) : Prop :=
  source.piece ≠ some 0 ∧ source.offset ≤ source.data.size ∧
    source.brokenFrom.all (source.data.size < ·)

theorem length_rest (source : Source) : source.rest.length = source.data.size - source.offset := by
  simp only [rest, List.length_drop, Array.length_toList, ByteArray.size]

/-- The source after `count` bytes of what is left. -/
def skip (source : Source) (count : Nat) : Source :=
  { source with offset := source.offset + min count source.rest.length }

@[simp]
theorem skip_zero (source : Source) : source.skip 0 = source := by
  simp [skip]

theorem rest_skip (source : Source) (count : Nat) :
    (source.skip count).rest = source.rest.drop count := by
  simp only [skip, rest, List.drop_drop]
  rcases Nat.le_total count (source.data.data.toList.drop source.offset).length with h | h
  · rw [Nat.min_eq_left h]
  · rw [Nat.min_eq_right h]
    simp only [List.length_drop] at h ⊢
    rw [List.drop_of_length_le (by omega), List.drop_of_length_le (by omega)]

theorem IsReliable.skip {source : Source} (h : source.IsReliable) (count : Nat) :
    (source.skip count).IsReliable := by
  refine ⟨h.1, ?_, h.2.2⟩
  have hoffset := h.2.1
  simp only [Source.skip, length_rest]
  omega

theorem skip_skip (source : Source) {first second : Nat} (h : first ≤ source.rest.length) :
    (source.skip first).skip second = source.skip (first + second) := by
  have hrest : (source.skip first).rest.length = source.rest.length - first := by
    rw [rest_skip, List.length_drop]
  unfold skip at hrest ⊢
  simp only [hrest, Source.mk.injEq, and_true, true_and]
  omega

/-- One call that does not fail yields the beginning of what is left; it yields nothing only at the
end. -/
theorem read_of_unbroken {source : Source} (hpiece : source.piece ≠ some 0)
    (hnot : source.isBroken = false) {count : Nat}
    (hpos : 0 < count) : ∃ yielded, yielded ≤ count ∧ yielded ≤ source.rest.length ∧
      (yielded = 0 → source.rest = []) ∧
      source.read count = (.ok (source.rest.take yielded), source.skip yielded) := by
  have hlength := length_rest source
  have hyield : source.yield count ≤ count ∧ source.yield count ≤ source.rest.length ∧
      (source.yield count = 0 → source.rest.length = 0) := by
    unfold isBroken at hnot
    unfold yield
    cases hp : source.piece with
    | none =>
      cases hb : source.brokenFrom with
      | none =>
        simp only [Option.map_none, Option.getD_none]
        omega
      | some limit =>
        simp only [hb, Option.any_some, decide_eq_false_iff_not] at hnot
        simp only [Option.map_none, Option.getD_none, Option.map_some, Option.getD_some]
        omega
    | some piece =>
      have hpos : piece ≠ 0 := by
        rintro rfl
        exact hpiece hp
      cases hb : source.brokenFrom with
      | none =>
        simp only [Option.map_none, Option.getD_none, Option.map_some, Option.getD_some]
        omega
      | some limit =>
        simp only [hb, Option.any_some, decide_eq_false_iff_not] at hnot
        simp only [Option.map_some, Option.getD_some]
        omega
  refine ⟨source.yield count, hyield.1, hyield.2.1,
    fun hzero ↦ List.eq_nil_of_length_eq_zero (hyield.2.2 hzero), ?_⟩
  simp only [read, hnot, Bool.false_eq_true, if_false, skip, Nat.min_eq_left hyield.2.1,
    Prod.mk.injEq, and_true, Except.ok.injEq]
  simp only [ByteArray.data_extract, Array.toList_extract, List.extract, rest]
  congr 1
  omega

theorem read_of_isReliable {source : Source} (h : source.IsReliable) {count : Nat}
    (hpos : 0 < count) : ∃ yielded, yielded ≤ count ∧ yielded ≤ source.rest.length ∧
      (yielded = 0 → source.rest = []) ∧
      source.read count = (.ok (source.rest.take yielded), source.skip yielded) := by
  obtain ⟨hpiece, hoffset, hbroken⟩ := h
  have hnot : source.isBroken = false := by
    cases hb : source.brokenFrom with
    | none => simp [isBroken, hb]
    | some limit =>
      simp only [hb, Option.all_some, decide_eq_true_eq] at hbroken
      simp only [isBroken, hb, Option.any_some, decide_eq_false_iff_not]
      omega
  exact read_of_unbroken hpiece hnot hpos

/-- As many calls as it takes yield as much as there is. -/
theorem readFully_of_isReliable {source : Source} (h : source.IsReliable) {count fuel : Nat}
    (hfuel : count ≤ fuel) :
    source.readFully count fuel = (.ok (source.rest.take count), source.skip count) := by
  induction fuel generalizing source count with
  | zero =>
    obtain rfl : count = 0 := by omega
    simp [readFully]
  | succ fuel ih =>
    rcases Nat.eq_zero_or_pos count with rfl | hpos
    · simp [readFully]
    · obtain ⟨yielded, hle, hrest, hend, hread⟩ := read_of_isReliable h hpos
      rw [readFully, if_neg (by omega), hread]
      cases hchunk : source.rest.take yielded with
      | nil =>
        have hnil : source.rest = [] := by
          rcases List.take_eq_nil_iff.mp hchunk with hzero | hnil
          · exact hend hzero
          · exact hnil
        simp [hnil, skip]
      | cons first others =>
        have hlength : (first :: others).length = yielded := by
          rw [← hchunk, List.length_take, Nat.min_eq_left hrest]
        have hyielded : 0 < yielded := by
          rw [← hlength]
          exact Nat.succ_pos _
        simp only [hlength]
        rw [ih (h.skip yielded) (by omega), skip_skip source hrest, rest_skip, ← hchunk]
        simp only [Except.map, Nat.add_sub_cancel' hle, Prod.mk.injEq, and_true, Except.ok.injEq]
        rw [← List.take_add, Nat.add_sub_cancel' hle]

theorem fill_of_isReliable {source : Source} (h : source.IsReliable) (count : Nat) :
    source.fill count = (.ok (source.rest.take count), source.skip count) :=
  readFully_of_isReliable h (Nat.le_refl _)

theorem drain_of_isReliable {source : Source} (h : source.IsReliable) :
    source.drain = (.ok source.rest, source.skip (source.data.size - source.offset + 1)) := by
  rw [drain, readFully_of_isReliable h (Nat.le_refl _), List.take_of_length_le]
  rw [length_rest]
  omega

end Source

end Lockstep
