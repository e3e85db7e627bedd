import Lockstep.Alteration.Queue
import Lockstep.Proofs.Heaps
import Mathlib.Data.List.Nodup
import Mathlib.Data.List.Sort

/-!
# Tickets

An alteration that waits in a queue holds a ticket with the number of its arrival. Of two tickets
the one with the lower target comes first, and of two with the same target the one with the lower
number. The entries of a queue lie in a heap, and the heap gives the tickets out in this order. So
a new alteration is put where it would be put into a list that is kept in order: behind all that do
not come after it.
-/

namespace Lockstep

namespace Target

/-- The place of a target among all targets: the request first, then the blocks by number. -/
def rank : Target → Nat
  | .request => 0
  | .block number => number.toNat + 1

theorem compare_eq (first second : Target) :
    compare first second = compare first.rank second.rank := by
  cases first with
  | request => cases second <;> rfl
  | block number =>
    cases second with
    | request => rfl
    | block other =>
      calc
        compare (block number) (block other) = (compare number other).then .eq := rfl
        _ = compareOfLessAndEq number other := Ordering.then_eq
        _ = compareOfLessAndEq (number.toNat + 1) (other.toNat + 1) := by
          simp [compareOfLessAndEq, UInt16.lt_iff_toNat_lt, ← UInt16.toNat_inj]

theorem precedes_iff {first second : Target} :
    first.precedes second = true ↔ first.rank < second.rank := by
  rw [precedes, compare_eq, Ordering.isLT_iff_eq_lt, Std.compare_eq_lt]

theorem rank_inj {first second : Target} : first.rank = second.rank ↔ first = second := by
  cases first <;> cases second <;> simp [rank, UInt16.toNat_inj]

instance : Std.TransOrd Target := by
  have h : (compare : Target → Target → Ordering) = compareOn rank := by
    funext first second
    exact compare_eq first second
  unfold Std.TransOrd
  rw [h]
  infer_instance

end Target

namespace AlterationQueue

/-! ## The order of tickets -/

/-- An alteration and the number of its arrival. -/
abbrev Ticket := Alteration × Nat

/-- Puts an alteration behind those that do not come after it. -/
def insert (alteration : Alteration) : List Alteration → List Alteration
  | [] => [alteration]
  | first :: rest =>
    if alteration.target.precedes first.target then alteration :: first :: rest
    else first :: insert alteration rest

namespace Ticket

/-- The first ticket is used before the second one. -/
def Ahead (first second : Ticket) : Prop :=
  first.1.target.rank < second.1.target.rank ∨
    first.1.target = second.1.target ∧ first.2 < second.2

theorem Ahead.trans {first second third : Ticket} (h : first.Ahead second)
    (h' : second.Ahead third) : first.Ahead third := by
  rcases h with hrank | ⟨htarget, hnumber⟩
  · rcases h' with hrank' | ⟨htarget', -⟩
    · exact .inl (hrank.trans hrank')
    · exact .inl (htarget' ▸ hrank)
  · rcases h' with hrank' | ⟨htarget', hnumber'⟩
    · exact .inl (htarget ▸ hrank')
    · exact .inr ⟨htarget.trans htarget', hnumber.trans hnumber'⟩

theorem Ahead.asymm {first second : Ticket} (h : first.Ahead second) : ¬ second.Ahead first := by
  unfold Ahead at h ⊢
  grind

/-- Tickets can stand in their order in one way only. -/
theorem eq_of_perm {tickets others : List Ticket} (sorted : tickets.Pairwise Ahead)
    (sorted' : others.Pairwise Ahead) (perm : tickets.Perm others) : tickets = others :=
  perm.eq_of_pairwise (fun _ _ _ _ h h' ↦ absurd h' h.asymm) sorted sorted'

/-- A new ticket finds its place behind all that do not come after it. -/
theorem exists_insert (alteration : Alteration) {number : Nat} {waiting : List Ticket}
    (sorted : waiting.Pairwise Ahead) (earlier : ∀ ticket ∈ waiting, ticket.2 < number) :
    ∃ after : List Ticket, after.Perm ((alteration, number) :: waiting) ∧ after.Pairwise Ahead ∧
      after.map Prod.fst = insert alteration (waiting.map Prod.fst) := by
  induction waiting with
  | nil => exact ⟨[(alteration, number)], .refl _, List.pairwise_singleton _ _, rfl⟩
  | cons first rest ih =>
    obtain ⟨hfirst, hrest⟩ := List.pairwise_cons.mp sorted
    rw [List.map_cons, insert]
    split
    · next hprecedes =>
      have ahead : Ahead (alteration, number) first := .inl (Target.precedes_iff.mp hprecedes)
      refine ⟨_, .refl _, List.pairwise_cons.mpr ⟨?_, sorted⟩, rfl⟩
      intro ticket hticket
      rcases List.mem_cons.mp hticket with rfl | hticket
      · exact ahead
      · exact ahead.trans (hfirst ticket hticket)
    · next hprecedes =>
      obtain ⟨after, perm, hafter, map_eq⟩ :=
        ih hrest fun ticket hticket ↦ earlier ticket (List.mem_cons_of_mem _ hticket)
      have behind : Ahead first (alteration, number) := by
        have hrank : first.1.target.rank ≤ alteration.target.rank :=
          Nat.not_lt.mp fun hlt ↦ hprecedes (Target.precedes_iff.mpr hlt)
        rcases Nat.lt_or_eq_of_le hrank with hlt | heq
        · exact .inl hlt
        · exact .inr ⟨Target.rank_inj.mp heq, earlier first List.mem_cons_self⟩
      refine ⟨first :: after, (perm.cons first).trans (.swap _ _ _),
        List.pairwise_cons.mpr ⟨?_, hafter⟩, by rw [List.map_cons, map_eq]⟩
      intro ticket hticket
      rcases List.mem_cons.mp (perm.mem_iff.mp hticket) with rfl | hticket
      · exact behind
      · exact hfirst ticket hticket

end Ticket

/-- The target of the first alteration does not come after that of the second one. -/
def notAfter (first second : Alteration) : Bool :=
  first.target.rank ≤ second.target.rank

/-- All tickets in their order are the stable sort of the alterations by target. -/
theorem map_eq_mergeSort {alterations : List Alteration} {tickets : List Ticket}
    (perm : tickets.Perm alterations.zipIdx) (sorted : tickets.Pairwise Ticket.Ahead) :
    tickets.map Prod.fst = alterations.mergeSort notAfter := by
  have trans : ∀ first second third, notAfter first second = true → notAfter second third = true →
      notAfter first third = true := by
    intro first second third h h'
    exact decide_eq_true ((of_decide_eq_true h).trans (of_decide_eq_true h'))
  have total : ∀ first second, (notAfter first second || notAfter second first) = true := by
    intro first second
    simp only [notAfter, Bool.or_eq_true, decide_eq_true_eq]
    exact Nat.le_total _ _
  have hperm := perm.trans (List.mergeSort_perm alterations.zipIdx (List.zipIdxLE notAfter)).symm
  have hpairwise := List.pairwise_mergeSort (List.zipIdxLE_trans trans) (List.zipIdxLE_total total)
    alterations.zipIdx
  rw [← List.mergeSort_zipIdx]
  congr 1
  refine List.Perm.eq_of_pairwise ?_
    (sorted.imp fun {first second} ahead ↦ ?_) hpairwise hperm
  · intro first second hfirst hsecond hle hge
    have hnumber : first.2 = second.2 := by
      unfold List.zipIdxLE at hle hge
      grind
    have hnodup : (tickets.map Prod.snd).Nodup := by
      rw [(perm.map Prod.snd).nodup_iff, List.zipIdx_map_snd]
      exact List.nodup_range'
    exact List.inj_on_of_nodup_map hnodup hfirst (hperm.mem_iff.mpr hsecond) hnumber
  · unfold Ticket.Ahead at ahead
    unfold List.zipIdxLE notAfter
    grind

/-! ## The tickets of a queue -/

namespace Entry

def ticket (entry : Entry) : Ticket :=
  (entry.alteration, entry.number.toNat)

instance : Std.TransOrd Entry :=
  inferInstanceAs (Std.TransCmp (compareLex
    (compareOn (fun entry : Entry ↦ entry.alteration.target))
    (compareOn (fun entry : Entry ↦ entry.number))))

theorem ahead_of_isLE_compare {first second : Entry} (h : (compare first second).isLE = true)
    (hnumber : first.ticket.2 ≠ second.ticket.2) : first.ticket.Ahead second.ticket := by
  have lex : compare first second =
      (compare first.alteration.target second.alteration.target).then
        (compare first.number second.number) := rfl
  rw [lex, Ordering.isLE_then_iff_or, Target.compare_eq, Std.compare_eq_lt, Std.isLE_compare,
    compare_eq_iff_eq, Target.rank_inj] at h
  rcases h with hrank | ⟨htarget, hle⟩
  · exact .inl hrank
  · exact .inr ⟨htarget, Nat.lt_of_le_of_ne (UInt64.le_iff_toNat_le.mp hle) hnumber⟩

end Entry

variable {queue rest : AlterationQueue} {alteration : Alteration} {direction : Direction}
  {datagram : Bytes}

/-- The tickets of all that wait, in the order in which they are used. -/
def tickets (queue : AlterationQueue) : List Ticket :=
  queue.heap.drained.map (·.entry.ticket)

theorem map_fst_tickets (queue : AlterationQueue) : queue.tickets.map Prod.fst = queue.waiting :=
  List.map_map

theorem tickets_perm (queue : AlterationQueue) :
    queue.tickets.Perm (queue.heap.entries.map (·.entry.ticket)) :=
  queue.heap.drained_perm.map _

theorem tickets_push (queue : AlterationQueue) (alteration : Alteration) :
    (queue.push alteration).tickets.Perm
      ((alteration, queue.nextNumber.toNat) :: queue.tickets) := by
  calc
    List.Perm (queue.push alteration).tickets
        ((queue.push alteration).heap.entries.map (·.entry.ticket)) := tickets_perm _
    List.Perm _ ((alteration, queue.nextNumber.toNat) ::
        queue.heap.entries.map (·.entry.ticket)) := (queue.heap.entries_push _).map _
    List.Perm _ _ := queue.tickets_perm.symm.cons _

theorem tickets_of_take? (h : queue.take? direction datagram = some (alteration, rest)) :
    ∃ number, queue.tickets = (alteration, number) :: rest.tickets := by
  obtain ⟨-, -, number, hpop⟩ := pop?_of_take? h
  exact ⟨number.toNat, congrArg (List.map _) (Heap.drained_of_some hpop)⟩

theorem sorted_tickets (hheap : queue.heap.IsHeap)
    (nodup : (queue.tickets.map Prod.snd).Nodup) : queue.tickets.Pairwise Ticket.Ahead := by
  have distinct : queue.heap.drained.Pairwise fun first second ↦
      first.entry.ticket.2 ≠ second.entry.ticket.2 := by
    rw [tickets, List.map_map] at nodup
    exact List.pairwise_map.mp nodup
  refine List.pairwise_map.mpr ((hheap.sorted_drained.and distinct).imp ?_)
  rintro first second ⟨hle, hnumber⟩
  exact Entry.ahead_of_isLE_compare hle hnumber

theorem waiting_push (sorted : queue.tickets.Pairwise Ticket.Ahead)
    (sorted' : (queue.push alteration).tickets.Pairwise Ticket.Ahead)
    (earlier : ∀ ticket ∈ queue.tickets, ticket.2 < queue.nextNumber.toNat) :
    (queue.push alteration).waiting = insert alteration queue.waiting := by
  obtain ⟨after, perm, hafter, map_eq⟩ := Ticket.exists_insert alteration sorted earlier
  have heq : (queue.push alteration).tickets = after :=
    Ticket.eq_of_perm sorted' hafter ((queue.tickets_push alteration).trans perm.symm)
  rw [← map_fst_tickets, heq, map_eq, map_fst_tickets]

end AlterationQueue

end Lockstep
