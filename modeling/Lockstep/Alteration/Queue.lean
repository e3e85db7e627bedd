import Lockstep.Alteration
import Lockstep.Heap

/-!
# Queues of alterations

Alterations that wait for their packets, ordered by target and among equal targets by arrival.
Only the first one is ever held against a packet.
-/

namespace Lockstep

namespace AlterationQueue

/-- An alteration with the number of its arrival. -/
structure Entry where
  number : UInt64
  alteration : Alteration
deriving DecidableEq, Repr

instance : Ord Entry where
  compare := compareLex (compareOn (·.alteration.target)) (compareOn (·.number))

end AlterationQueue

structure AlterationQueue where
  /-- The waiting entries. The least one counts as the greatest. -/
  heap : Heap (Reverse AlterationQueue.Entry) := {}
  nextNumber : UInt64 := 0
deriving DecidableEq, Repr

namespace AlterationQueue

def push (queue : AlterationQueue) (alteration : Alteration) : AlterationQueue where
  heap := queue.heap.push ⟨⟨queue.nextNumber, alteration⟩⟩
  nextNumber := queue.nextNumber + 1

def extend (queue : AlterationQueue) (alterations : List Alteration) : AlterationQueue :=
  alterations.foldl push queue

def ofList (alterations : List Alteration) : AlterationQueue :=
  extend {} alterations

def size (queue : AlterationQueue) : Nat :=
  queue.heap.size

def isEmpty (queue : AlterationQueue) : Bool :=
  queue.heap.isEmpty

def head? (queue : AlterationQueue) : Option Alteration :=
  queue.heap.peek?.map (·.entry.alteration)

/-- The first alteration is meant for this datagram. -/
def fires (queue : AlterationQueue) (direction : Direction) (datagram : Bytes) : Bool :=
  queue.head?.any (·.fitsOn direction datagram)

/-- Takes the first alteration if it is meant for this datagram. -/
def take? (queue : AlterationQueue) (direction : Direction) (datagram : Bytes) :
    Option (Alteration × AlterationQueue) :=
  if queue.fires direction datagram then
    queue.heap.pop?.map fun (first, heap) => (first.entry.alteration, { queue with heap })
  else none

/-- The waiting alterations, in the order in which they are used. -/
def waiting (queue : AlterationQueue) : List Alteration :=
  queue.heap.drained.map (·.entry.alteration)

variable {queue rest : AlterationQueue} {direction : Direction} {datagram : Bytes}
  {alteration : Alteration}

theorem ofList_singleton (alteration : Alteration) :
    ofList [alteration] = ⟨⟨#[⟨⟨0, alteration⟩⟩]⟩, 1⟩ := by
  simp [ofList, extend, push, Heap.push, Heap.siftUp]

theorem head?_waiting (queue : AlterationQueue) : queue.waiting.head? = queue.head? := by
  rw [waiting, head?, List.head?_map, Heap.head?_drained]

theorem fires_iff :
    queue.fires direction datagram = true ↔
      ∃ first ∈ queue.waiting.head?, first.fitsOn direction datagram = true := by
  rw [fires, head?_waiting, Option.any_eq_true]
  rfl

/-- What is taken is what the heap gives out. -/
theorem pop?_of_take? (h : queue.take? direction datagram = some (alteration, rest)) :
    queue.fires direction datagram = true ∧ rest.nextNumber = queue.nextNumber ∧
      ∃ number, queue.heap.pop? = some (⟨⟨number, alteration⟩⟩, rest.heap) := by
  unfold take? at h
  split at h
  · next hfires =>
    obtain ⟨⟨first, heap⟩, hpop, htaken⟩ := Option.map_eq_some_iff.mp h
    cases htaken
    exact ⟨hfires, rfl, first.entry.number, hpop⟩
  · cases h

/-- The first alteration that waits is taken, and the others go on waiting. -/
theorem waiting_of_take? (h : queue.take? direction datagram = some (alteration, rest)) :
    queue.waiting = alteration :: rest.waiting ∧
      alteration.fitsOn direction datagram = true := by
  obtain ⟨hfires, -, number, hpop⟩ := pop?_of_take? h
  have hwaiting : queue.waiting = alteration :: rest.waiting :=
    congrArg (List.map _) (Heap.drained_of_some hpop)
  obtain ⟨first, hfirst, fits⟩ := fires_iff.mp hfires
  rw [hwaiting] at hfirst
  cases hfirst
  exact ⟨hwaiting, fits⟩

theorem isSome_take? (h : queue.fires direction datagram = true) :
    (queue.take? direction datagram).isSome = true := by
  unfold take?
  rw [if_pos h, Option.isSome_map]
  cases hpop : queue.heap.pop? with
  | none =>
    obtain ⟨first, hfirst, -⟩ := fires_iff.mp h
    rw [waiting, Heap.drained_of_none hpop] at hfirst
    cases hfirst
  | some taken => rfl

theorem take?_eq_none_iff :
    queue.take? direction datagram = none ↔
      ∀ alteration ∈ queue.waiting.head?, alteration.fitsOn direction datagram = false := by
  constructor
  · intro hnone alteration hfirst
    cases fits : alteration.fitsOn direction datagram with
    | false => rfl
    | true =>
      have := isSome_take? (fires_iff.mpr ⟨alteration, hfirst, fits⟩)
      rw [hnone] at this
      cases this
  · intro unfit
    have hfires : ¬ queue.fires direction datagram = true := by
      intro h
      obtain ⟨first, hfirst, fits⟩ := fires_iff.mp h
      rw [unfit first hfirst] at fits
      cases fits
    exact if_neg hfires

/-- If the first alteration that waits is meant for this datagram, it is taken. -/
theorem exists_take?_eq_some {later : List Alteration}
    (first : queue.waiting = alteration :: later)
    (fits : alteration.fitsOn direction datagram = true) :
    ∃ rest, queue.take? direction datagram = some (alteration, rest) ∧ rest.waiting = later := by
  have hfires : queue.fires direction datagram = true :=
    fires_iff.mpr ⟨alteration, by rw [first]; rfl, fits⟩
  obtain ⟨⟨taken, rest⟩, htake⟩ := Option.isSome_iff_exists.mp (isSome_take? hfires)
  obtain ⟨heq, rfl⟩ := List.cons.inj (first.symm.trans (waiting_of_take? htake).1)
  exact ⟨rest, heq ▸ htake, rfl⟩

end AlterationQueue

end Lockstep
