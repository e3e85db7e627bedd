/-!
# Heaps

A heap keeps entries in a row. Above place `n + 1` of the row is place `n / 2`, and no entry is
greater than the one above it, so the greatest one stands in front. An entry that is put in rises
from the end of the row to where it belongs. When the greatest one is taken out, the last one takes
its place, sinks to the end, and rises from there.
-/

namespace Lockstep

/-- An entry that counts as the greater, the less it is. -/
structure Reverse (Entry : Type) where
  entry : Entry
deriving DecidableEq, Repr

instance {Entry : Type} [Ord Entry] : Ord (Reverse Entry) where
  compare first second := compare second.entry first.entry

structure Heap (Entry : Type) where
  row : Array Entry := #[]
deriving DecidableEq, Repr

namespace Heap

variable {Entry : Type}

def size (heap : Heap Entry) : Nat :=
  heap.row.size

def isEmpty (heap : Heap Entry) : Bool :=
  heap.row.isEmpty

/-- The greatest entry. -/
def peek? (heap : Heap Entry) : Option Entry :=
  heap.row[0]?

variable [Ord Entry] {count : Nat}

/-- Moves an entry up past all that are less. -/
def siftUp (row : Vector Entry count) : (place : Nat) → place < count → Vector Entry count
  | 0, _ => row
  | below + 1, h =>
    if (compare row[below + 1] row[below / 2]).isLE then row
    else siftUp (row.swap (below + 1) (below / 2)) (below / 2) (by omega)
termination_by place => place

/-- Moves an entry down to the end of the row, each time past the greater one of those below it,
and then up again past all that are less. -/
def siftDown (row : Vector Entry count) (place : Nat) (h : place < count) : Vector Entry count :=
  if both : 2 * place + 2 < count then
    if (compare row[2 * place + 1] row[2 * place + 2]).isLE then
      siftDown (row.swap place (2 * place + 2)) (2 * place + 2) both
    else siftDown (row.swap place (2 * place + 1)) (2 * place + 1) (by omega)
  else if one : 2 * place + 1 < count then
    siftUp (row.swap place (2 * place + 1)) (2 * place + 1) one
  else siftUp row place h
termination_by count - place

def push (heap : Heap Entry) (entry : Entry) : Heap Entry :=
  ⟨(siftUp (heap.row.toVector.push entry) heap.row.size (Nat.lt_succ_self _)).toArray⟩

/-- Puts an entry into a row and takes the first one of the others out, if there are others. -/
def exchange (row : Array Entry) (entry : Entry) : Entry × Heap Entry :=
  if h : 0 < row.size then (row[0], ⟨(siftDown (row.toVector.set 0 entry) 0 h).toArray⟩)
  else (entry, ⟨row⟩)

/-- The greatest entry, and the heap without it. -/
def pop? (heap : Heap Entry) : Option (Entry × Heap Entry) :=
  heap.row.back?.map (exchange heap.row.pop)

theorem pop?_eq_none_iff {heap : Heap Entry} : heap.pop? = none ↔ heap.row = #[] := by
  simp [pop?]

theorem pop?_eq_some_iff {heap : Heap Entry} {taken : Entry × Heap Entry} :
    heap.pop? = some taken ↔ ∃ row last, heap.row = row.push last ∧ exchange row last = taken := by
  unfold pop?
  constructor
  · intro h
    obtain ⟨last, hlast, hexchange⟩ := Option.map_eq_some_iff.mp h
    have hrow : heap.row ≠ #[] := by
      rintro hempty
      rw [hempty] at hlast
      cases hlast
    obtain ⟨row, last', hpush⟩ := Array.exists_push_of_ne_empty hrow
    rw [hpush, Array.back?_push] at hlast
    rw [hpush, Array.pop_push] at hexchange
    cases hlast
    exact ⟨row, last, hpush, hexchange⟩
  · rintro ⟨row, last, hpush, hexchange⟩
    rw [hpush, Array.back?_push, Array.pop_push, Option.map_some, hexchange]

theorem size_exchange (row : Array Entry) (entry : Entry) :
    (exchange row entry).2.size = row.size := by
  unfold exchange
  split
  · exact Vector.size_toArray _
  · rfl

theorem size_lt_of_pop? {heap rest : Heap Entry} {greatest : Entry}
    (h : heap.pop? = some (greatest, rest)) : rest.size < heap.size := by
  obtain ⟨row, last, hpush, hexchange⟩ := pop?_eq_some_iff.mp h
  calc
    rest.size = (exchange row last).2.size := by rw [hexchange]
    _ = row.size := size_exchange row last
    _ < (row.push last).size := by rw [Array.size_push]; exact Nat.lt_succ_self _
    _ = heap.size := by rw [← hpush]; rfl

theorem peek?_eq_map_pop? (heap : Heap Entry) : heap.peek? = heap.pop?.map Prod.fst := by
  unfold peek?
  cases hpop : heap.pop? with
  | none =>
    rw [pop?_eq_none_iff.mp hpop]
    rfl
  | some taken =>
    obtain ⟨row, last, hpush, hexchange⟩ := pop?_eq_some_iff.mp hpop
    rw [hpush, ← hexchange, Array.getElem?_push, Option.map_some, exchange]
    split
    · next hzero => rw [dif_neg (by omega)]
    · next hzero =>
      have hpos : 0 < row.size := by omega
      rw [dif_pos hpos, Array.getElem?_eq_getElem hpos]

/-- All entries, from the greatest one to the least one. -/
def drained (heap : Heap Entry) : List Entry :=
  match _ : heap.pop? with
  | none => []
  | some (greatest, rest) => greatest :: rest.drained
termination_by heap.size
decreasing_by exact size_lt_of_pop? ‹_›

theorem drained_of_none {heap : Heap Entry} (h : heap.pop? = none) : heap.drained = [] := by
  unfold drained
  split
  · rfl
  · next hsome => cases h.symm.trans hsome

theorem drained_of_some {heap rest : Heap Entry} {greatest : Entry}
    (h : heap.pop? = some (greatest, rest)) : heap.drained = greatest :: rest.drained := by
  rw [drained]
  split
  · next hnone => cases h.symm.trans hnone
  · next hsome =>
    cases h.symm.trans hsome
    rfl

theorem head?_drained (heap : Heap Entry) : heap.drained.head? = heap.peek? := by
  rw [peek?_eq_map_pop?]
  cases h : heap.pop? with
  | none => rw [drained_of_none h]; rfl
  | some taken => rw [drained_of_some h]; rfl

end Heap

end Lockstep
