import Lockstep.Heap
import Mathlib.Logic.Equiv.Basic
import Mathlib.Order.Nat

/-!
# Heaps are in order

An entry that stands too low rises, and one that stands too high sinks. While it is on its way all
the others are in order, also across the place where it stands, and when it has come to rest the
whole row is. So whatever is put into a heap and taken out of it, the greatest entry is taken first.
-/

namespace Lockstep

instance {Entry : Type} [Ord Entry] [Std.TransOrd Entry] : Std.TransOrd (Reverse Entry) where
  eq_swap {first second} := by
    change compare second.entry first.entry = (compare first.entry second.entry).swap
    exact Std.OrientedOrd.eq_swap
  isLE_trans {first second third} h h' := by
    change (compare third.entry first.entry).isLE = true
    exact Std.TransOrd.isLE_trans h' h

namespace Heap

variable {Entry : Type} [Ord Entry] {count place upper lower : Nat} {row : Vector Entry count}
  {heap rest : Heap Entry} {greatest entry : Entry}

/-! ## Order -/

/-- The first entry is not greater than the second one. -/
def AtMost (first second : Entry) : Prop :=
  (compare first second).isLE = true

section

variable [Std.TransOrd Entry] {first second third : Entry}

theorem AtMost.refl (entry : Entry) : AtMost entry entry := by
  unfold AtMost
  rw [Std.ReflOrd.compare_self]
  rfl

theorem AtMost.trans (h : AtMost first second) (h' : AtMost second third) : AtMost first third :=
  Std.TransOrd.isLE_trans h h'

theorem AtMost.of_not (h : ¬ AtMost first second) : AtMost second first := by
  unfold AtMost at h ⊢
  rw [Std.OrientedOrd.eq_swap, Ordering.isLE_swap]
  cases hcompare : compare first second <;> simp_all

end

/-- The first place is right below the second one. -/
def Below (lower upper : Nat) : Prop :=
  lower = 2 * upper + 1 ∨ lower = 2 * upper + 2

theorem Below.lt (h : Below lower upper) : upper < lower := by
  unfold Below at h
  omega

theorem Below.unique {other : Nat} (h : Below lower upper) (h' : Below lower other) :
    upper = other := by
  unfold Below at h h'
  omega

theorem below_succ (place : Nat) : Below (place + 1) (place / 2) := by
  unfold Below
  omega

/-- What stands at the first place is not greater than what stands at the second one. -/
def Fits (row : Vector Entry count) (lower upper : Nat) : Prop :=
  ∀ (hlower : lower < count) (hupper : upper < count), AtMost row[lower] row[upper]

theorem Fits.trans [Std.TransOrd Entry] {middle : Nat} (h : Fits row lower middle)
    (h' : Fits row middle upper) (hmiddle : middle < count) : Fits row lower upper :=
  fun hlower hupper ↦ (h hlower hmiddle).trans (h' hmiddle hupper)

theorem fits_swap {first second : Nat} (hfirst : first < count) (hsecond : second < count) :
    Fits (row.swap first second) lower upper ↔
      Fits row (Equiv.swap first second lower) (Equiv.swap first second upper) := by
  have bound (place : Nat) : Equiv.swap first second place < count ↔ place < count := by
    rw [Equiv.swap_apply_def]
    repeat' split
    all_goals omega
  have value (place : Nat) (h : place < count) (h' : Equiv.swap first second place < count) :
      (row.swap first second)[place] = row[Equiv.swap first second place] := by
    rw [Vector.getElem_swap]
    by_cases hone : place = first
    · simp only [hone, if_true, Equiv.swap_apply_left]
    by_cases htwo : place = second
    · subst htwo
      simp only [if_neg hone, if_true, Equiv.swap_apply_right]
    · simp only [if_neg hone, if_neg htwo, Equiv.swap_apply_of_ne_of_ne hone htwo]
  constructor
  · intro h hlower hupper
    rw [← value lower ((bound lower).mp hlower), ← value upper ((bound upper).mp hupper)]
    exact h _ _
  · intro h hlower hupper
    rw [value lower hlower ((bound lower).mpr hlower),
      value upper hupper ((bound upper).mpr hupper)]
    exact h _ _

/-- No entry is greater than the one above it. -/
def IsOrdered (row : Vector Entry count) : Prop :=
  ∀ lower upper, Below lower upper → Fits row lower upper

theorem IsOrdered.root [Std.TransOrd Entry] (h : IsOrdered row) (place : Nat) :
    Fits row place 0 := by
  induction place using Nat.strongRecOn with
  | ind place ih =>
    cases place with
    | zero => exact fun hlower _ ↦ .refl row[0]
    | succ place =>
      intro hlower hupper
      have hmiddle : place / 2 < count := (below_succ place).lt.trans hlower
      have above := ih (place / 2) (below_succ place).lt
      exact (h _ _ (below_succ place)).trans above hmiddle hlower hupper

/-! ## Rising and sinking -/

/-- Only the entry at this place may be greater than the one above it. -/
structure Rising (row : Vector Entry count) (place : Nat) : Prop where
  others {lower upper : Nat} : Below lower upper → lower ≠ place → Fits row lower upper
  across {lower upper : Nat} : Below lower place → Below place upper → Fits row lower upper

/-- Only the entry at this place may be greater than the one above it or less than one below it. -/
structure Sinking (row : Vector Entry count) (place : Nat) : Prop where
  others {lower upper : Nat} :
    Below lower upper → lower ≠ place → upper ≠ place → Fits row lower upper
  across {lower upper : Nat} : Below lower place → Below place upper → Fits row lower upper

theorem Rising.swap [Std.TransOrd Entry] (h : Rising row place) (below : Below place upper)
    (hplace : place < count) (greater : Fits row upper place) :
    Rising (row.swap place upper hplace (below.lt.trans hplace)) upper := by
  have hupper : upper < count := below.lt.trans hplace
  constructor
  · intro lower' upper' below' hne
    rw [fits_swap]
    by_cases hlower : lower' = place
    · subst hlower
      obtain rfl := below.unique below'
      rw [Equiv.swap_apply_left, Equiv.swap_apply_right]
      exact greater
    rw [Equiv.swap_apply_of_ne_of_ne hlower hne]
    by_cases heq : upper' = upper
    · subst heq
      rw [Equiv.swap_apply_right]
      exact (h.others below' hlower).trans greater hupper
    by_cases hunder : upper' = place
    · subst hunder
      rw [Equiv.swap_apply_left]
      exact h.across below' below
    · rw [Equiv.swap_apply_of_ne_of_ne hunder heq]
      exact h.others below' hlower
  · intro lower' upper' below' above'
    have fits : Fits row upper upper' := h.others above' below.lt.ne
    rw [fits_swap, Equiv.swap_apply_of_ne_of_ne (above'.lt.trans below.lt).ne above'.lt.ne]
    by_cases hlower : lower' = place
    · rw [hlower, Equiv.swap_apply_left]
      exact fits
    · rw [Equiv.swap_apply_of_ne_of_ne hlower below'.lt.ne']
      exact (h.others below' hlower).trans fits hupper

theorem Rising.isOrdered (h : Rising row place)
    (stops : ∀ {upper}, Below place upper → Fits row place upper) : IsOrdered row := by
  intro lower upper below
  by_cases heq : lower = place
  · exact heq ▸ stops (heq ▸ below)
  · exact h.others below heq

theorem isOrdered_siftUp [Std.TransOrd Entry] (h : Rising row place) (hplace : place < count) :
    IsOrdered (siftUp row place hplace) := by
  fun_induction siftUp row place hplace with
  | case1 row hplace => exact h.isOrdered fun below ↦ absurd below.lt (Nat.not_lt_zero _)
  | case2 row below hplace stops =>
    apply h.isOrdered
    intro upper above
    obtain rfl := above.unique (below_succ below)
    exact fun _ _ ↦ stops
  | case3 row below hplace goesOn _ ih =>
    exact ih (h.swap (below_succ below) hplace fun _ _ ↦ .of_not goesOn)

theorem Sinking.swap (h : Sinking row place) (below : Below lower place) (hplace : place < count)
    (hlower : lower < count) (greatest : ∀ {other}, Below other place → Fits row other lower) :
    Sinking (row.swap place lower) lower := by
  constructor
  · intro lower' upper' below' hne hne'
    rw [fits_swap]
    by_cases heq : lower' = place
    · subst heq
      rw [Equiv.swap_apply_left, Equiv.swap_apply_of_ne_of_ne below'.lt.ne hne']
      exact h.across below below'
    rw [Equiv.swap_apply_of_ne_of_ne heq hne]
    by_cases hunder : upper' = place
    · subst hunder
      rw [Equiv.swap_apply_left]
      exact greatest below'
    · rw [Equiv.swap_apply_of_ne_of_ne hunder hne']
      exact h.others below' heq hunder
  · intro lower' upper' below' above'
    obtain rfl := below.unique above'
    rw [fits_swap, Equiv.swap_apply_left,
      Equiv.swap_apply_of_ne_of_ne (below.lt.trans below'.lt).ne' below'.lt.ne']
    exact h.others below' (below.lt.trans below'.lt).ne' below.lt.ne'

/-- An entry that has nothing below it has sunk to the end. -/
theorem Sinking.rising (h : Sinking row place) (lowest : count ≤ 2 * place + 1) :
    Rising row place where
  others {lower upper} below hne := by
    by_cases heq : upper = place
    · intro hlower
      unfold Below at below
      omega
    · exact h.others below hne heq
  across := h.across

theorem isOrdered_siftDown [Std.TransOrd Entry] (h : Sinking row place) (hplace : place < count) :
    IsOrdered (siftDown row place hplace) := by
  fun_induction siftDown row place hplace with
  | case1 row place hplace both second ih =>
    refine ih (h.swap (.inr rfl) hplace both ?_)
    rintro other (rfl | rfl)
    · exact fun _ _ ↦ second
    · exact fun _ _ ↦ .refl _
  | case2 row place hplace both first ih =>
    refine ih (h.swap (.inl rfl) hplace (by omega) ?_)
    rintro other (rfl | rfl)
    · exact fun _ _ ↦ .refl _
    · exact fun _ _ ↦ .of_not first
  | case3 row place hplace single one =>
    have last : Sinking (row.swap place (2 * place + 1)) (2 * place + 1) := by
      refine h.swap (.inl rfl) hplace one ?_
      rintro other (rfl | rfl)
      · exact fun _ _ ↦ .refl _
      · exact fun hother ↦ absurd hother single
    exact isOrdered_siftUp (last.rising (by omega)) one
  | case4 row place hplace single none =>
    exact isOrdered_siftUp (h.rising (Nat.not_lt.mp none)) hplace

theorem siftUp_perm (hplace : place < count) : (siftUp row place hplace).Perm row := by
  fun_induction siftUp row place hplace with
  | case1 => exact .rfl
  | case2 => exact .rfl
  | case3 row below hplace goesOn _ ih => exact ih.trans (Vector.swap_perm _ _)

theorem siftDown_perm (hplace : place < count) : (siftDown row place hplace).Perm row := by
  fun_induction siftDown row place hplace with
  | case1 row place hplace both second ih => exact ih.trans (Vector.swap_perm _ _)
  | case2 row place hplace both first ih => exact ih.trans (Vector.swap_perm _ _)
  | case3 row place hplace single one => exact (siftUp_perm one).trans (Vector.swap_perm _ _)
  | case4 row place hplace single none => exact siftUp_perm hplace

/-! ## Heaps -/

/-- The entries of a heap, in no particular order. -/
def entries (heap : Heap Entry) : List Entry :=
  heap.row.toList

/-- The row of the heap is in order. -/
def IsHeap (heap : Heap Entry) : Prop :=
  IsOrdered heap.row.toVector

theorem isHeap_empty : IsHeap ({} : Heap Entry) :=
  fun _ _ _ hlower ↦ absurd hlower (Nat.not_lt_zero _)

theorem entries_push (heap : Heap Entry) (entry : Entry) :
    (heap.push entry).entries.Perm (entry :: heap.entries) := by
  have hrow : (heap.row.toVector.push entry).toList = heap.entries ++ [entry] := by
    simp [entries]
  calc
    List.Perm (heap.push entry).entries (heap.row.toVector.push entry).toList :=
      (siftUp_perm _).toList
    List.Perm _ (entry :: heap.entries) := hrow ▸ List.perm_append_singleton _ _

theorem IsOrdered.isHeap (h : IsOrdered row) : IsHeap ⟨row.toArray⟩ := by
  obtain ⟨row, rfl⟩ := row
  exact h

theorem IsHeap.push [Std.TransOrd Entry] (h : heap.IsHeap) (entry : Entry) :
    (heap.push entry).IsHeap := by
  have rising : Rising (heap.row.toVector.push entry) heap.row.size := by
    constructor
    · intro lower upper below hne hlower hupper
      have hlast : lower < heap.row.size := by omega
      rw [Vector.getElem_push_lt hlast, Vector.getElem_push_lt (below.lt.trans hlast)]
      exact h _ _ below hlast (below.lt.trans hlast)
    · intro lower upper below above hlower
      have := below.lt
      omega
  exact (isOrdered_siftUp rising _).isHeap

theorem exchange_perm (row : Array Entry) (entry : Entry) :
    ((exchange row entry).1 :: (exchange row entry).2.entries).Perm (entry :: row.toList) := by
  unfold exchange
  split
  · next hpos =>
    obtain ⟨_ | ⟨first, others⟩⟩ := row
    · cases hpos
    · let placed := (Array.mk (first :: others)).toVector.set 0 entry
      calc
        List.Perm (first :: (siftDown placed 0 hpos).toList) (first :: entry :: others) :=
          (siftDown_perm hpos).toList.cons first
        List.Perm _ (entry :: first :: others) := .swap _ _ _
  · exact .refl _

theorem IsHeap.exchange [Std.TransOrd Entry] {row : Array Entry} (h : IsHeap ⟨row⟩)
    (entry : Entry) : (exchange row entry).2.IsHeap := by
  unfold Heap.exchange
  split
  · next hpos =>
    have sinking : Sinking (row.toVector.set 0 entry) 0 := by
      constructor
      · intro lower upper below hne hne' hlower hupper
        rw [Vector.getElem_set_ne _ _ hne.symm, Vector.getElem_set_ne _ _ hne'.symm]
        exact h _ _ below hlower hupper
      · intro lower upper below above
        exact absurd above.lt (Nat.not_lt_zero _)
    exact (isOrdered_siftDown sinking hpos).isHeap
  · exact h

theorem entries_of_pop? (h : heap.pop? = some (greatest, rest)) :
    (greatest :: rest.entries).Perm heap.entries := by
  obtain ⟨row, last, hpush, hexchange⟩ := pop?_eq_some_iff.mp h
  have perm : (greatest :: rest.entries).Perm (last :: row.toList) := by
    have := exchange_perm row last
    rwa [hexchange] at this
  calc
    List.Perm (greatest :: rest.entries) (row.toList ++ [last]) :=
      perm.trans (List.perm_append_singleton _ _).symm
    _ = heap.entries := by rw [entries, hpush, Array.toList_push]

theorem IsHeap.of_pop? [Std.TransOrd Entry] (hheap : heap.IsHeap)
    (h : heap.pop? = some (greatest, rest)) : rest.IsHeap := by
  obtain ⟨row, last, hpush, hexchange⟩ := pop?_eq_some_iff.mp h
  have hrow : IsHeap ⟨row⟩ := by
    intro lower upper below hlower hupper
    have hlast {place : Nat} (hplace : place < row.size) : place < heap.row.size := by
      rw [hpush, Array.size_push]
      exact Nat.lt_succ_of_lt hplace
    have := hheap _ _ below (hlast hlower) (hlast hupper)
    simpa [hpush, Array.getElem_push_lt hlower, Array.getElem_push_lt hupper] using this
  have := hrow.exchange last
  rwa [hexchange] at this

theorem IsHeap.atMost_of_pop? [Std.TransOrd Entry] (hheap : heap.IsHeap)
    (h : heap.pop? = some (greatest, rest)) (hentry : entry ∈ heap.entries) :
    AtMost entry greatest := by
  have hfirst : heap.row[0]? = some greatest := by
    change heap.peek? = some greatest
    rw [peek?_eq_map_pop?, h]
    rfl
  obtain ⟨hpos, rfl⟩ := Array.getElem?_eq_some_iff.mp hfirst
  obtain ⟨place, hplace, rfl⟩ := List.getElem_of_mem hentry
  exact IsOrdered.root hheap place hplace hpos

/-! ## The order in which a heap is emptied -/

theorem drained_perm (heap : Heap Entry) : heap.drained.Perm heap.entries := by
  fun_induction drained heap with
  | case1 heap hnone => rw [entries, pop?_eq_none_iff.mp hnone]
  | case2 heap greatest rest hsome ih => exact (ih.cons greatest).trans (entries_of_pop? hsome)

theorem IsHeap.sorted_drained [Std.TransOrd Entry] (h : heap.IsHeap) :
    heap.drained.Pairwise fun first second ↦ AtMost second first := by
  fun_induction drained heap with
  | case1 => exact .nil
  | case2 heap greatest rest hsome ih =>
    refine List.pairwise_cons.mpr ⟨?_, ih (h.of_pop? hsome)⟩
    intro entry hentry
    apply h.atMost_of_pop? hsome
    have := rest.drained_perm.mem_iff.mp hentry
    exact (entries_of_pop? hsome).mem_iff.mp (List.mem_cons_of_mem greatest this)

end Heap

end Lockstep
