import Lockstep.Proofs.Tickets
import Mathlib.Algebra.Group.Nat.Defs
import Mathlib.Data.List.Induction
import Mathlib.Data.Multiset.AddSub

/-!
# The order of a queue of alterations

Whatever is done with a queue, as long as its numbers last it behaves as a list that is kept in
order: a new alteration is put behind all that do not come after it, and only the first one is ever
taken. The tickets that wait and those that are gone are all that were given out. If everything is
put in before anything is taken, the alterations are taken in the order of a stable sort.
-/

namespace Lockstep

namespace AlterationQueue

/-! ## Histories -/

/-- What can be done with a queue. -/
inductive Use where
  | push (alteration : Alteration)
  | extend (alterations : List Alteration)
  | check (direction : Direction) (datagram : Bytes)
  | take (direction : Direction) (datagram : Bytes)

namespace Use

/-- What is put in. -/
def pushed : Use → List Alteration
  | .push alteration => [alteration]
  | .extend alterations => alterations
  | .check _ _ | .take _ _ => []

/-- What is taken out, and the queue afterwards. -/
def outcome (queue : AlterationQueue) : Use → Option Alteration × AlterationQueue
  | .push alteration => (none, queue.push alteration)
  | .extend alterations => (none, queue.extend alterations)
  | .check _ _ => (none, queue)
  | .take direction datagram =>
    match queue.take? direction datagram with
    | some (alteration, rest) => (some alteration, rest)
    | none => (none, queue)

/-- A datagram takes the first ticket if it is meant for it, and otherwise nothing. -/
theorem take_cases (queue : AlterationQueue) (direction : Direction) (datagram : Bytes) :
    (∃ first rest, queue.tickets = first :: rest.tickets ∧ first.1.direction = direction ∧
        Target.ofDatagram? datagram = some first.1.target ∧
        (Use.take direction datagram).outcome queue = (some first.1, rest)) ∨
      (∀ first ∈ queue.tickets.head?, ¬ (first.1.direction = direction ∧
        Target.ofDatagram? datagram = some first.1.target)) ∧
        (Use.take direction datagram).outcome queue = (none, queue) := by
  cases htake : queue.take? direction datagram with
  | some taken =>
    obtain ⟨alteration, rest⟩ := taken
    obtain ⟨number, htickets⟩ := tickets_of_take? htake
    obtain ⟨hdirection, htarget⟩ := Alteration.fitsOn_iff.mp (waiting_of_take? htake).2
    exact .inl ⟨_, rest, htickets, hdirection, htarget, by rw [outcome, htake]⟩
  | none =>
    refine .inr ⟨?_, by rw [outcome, htake]⟩
    intro first hfirst
    have hhead : first.1 ∈ queue.waiting.head? := by
      rw [← map_fst_tickets, List.head?_map]
      exact Option.mem_map_of_mem Prod.fst hfirst
    rw [← Alteration.fitsOn_iff, take?_eq_none_iff.mp htake first.1 hhead]
    exact Bool.false_ne_true

end Use

/-- A queue, with everything that was ever put in and taken out. -/
structure History where
  queue : AlterationQueue := {}
  pushed : List Alteration := []
  taken : List Alteration := []

/-- Alterations that are kept in order, with all that were ever taken from the front. -/
structure Lineup where
  waiting : List Alteration := []
  taken : List Alteration := []

namespace Lineup

def add (lineup : Lineup) : Use → Lineup
  | .push alteration => { lineup with waiting := insert alteration lineup.waiting }
  | .extend alterations =>
    { lineup with
      waiting := alterations.foldl (fun waiting alteration ↦ insert alteration waiting)
        lineup.waiting }
  | .check _ _ => lineup
  | .take direction datagram =>
    match lineup.waiting with
    | [] => lineup
    | first :: rest =>
      if first.fitsOn direction datagram then ⟨rest, lineup.taken ++ [first]⟩ else lineup

/-- What becomes of an empty list. -/
def ofUses (uses : List Use) : Lineup :=
  uses.foldl add {}

end Lineup

namespace History

variable {history : History}

def add (history : History) (use : Use) : History where
  queue := (use.outcome history.queue).2
  pushed := history.pushed ++ use.pushed
  taken := history.taken ++ (use.outcome history.queue).1.toList

/-- What a queue that was empty at first has gone through. -/
def ofUses (uses : List Use) : History :=
  uses.foldl add {}

/-- What is seen of a queue from outside. -/
def lineup (history : History) : Lineup :=
  ⟨history.queue.waiting, history.taken⟩

theorem pushed_ofUses (uses : List Use) : (ofUses uses).pushed = uses.flatMap Use.pushed := by
  unfold ofUses
  induction uses using List.reverseRecOn with
  | nil => rfl
  | append_singleton uses use ih =>
    rw [List.foldl_append, List.flatMap_append, List.flatMap_singleton, ← ih]
    rfl

theorem add_check (history : History) (direction : Direction) (datagram : Bytes) :
    history.add (.check direction datagram) = history := by
  simp only [add, Use.outcome, Use.pushed, Option.toList_none, List.append_nil]

theorem add_take_of_none {direction : Direction} {datagram : Bytes}
    (htake : history.queue.take? direction datagram = none) :
    history.add (.take direction datagram) = history := by
  simp only [add, Use.outcome, Use.pushed, htake, Option.toList_none, List.append_nil]

theorem add_take_of_some {direction : Direction} {datagram : Bytes} {alteration : Alteration}
    {rest : AlterationQueue}
    (htake : history.queue.take? direction datagram = some (alteration, rest)) :
    history.add (.take direction datagram) =
      ⟨rest, history.pushed, history.taken ++ [alteration]⟩ := by
  simp only [add, Use.outcome, Use.pushed, htake, Option.toList_some, List.append_nil]

theorem add_extend_nil (history : History) : history.add (.extend []) = history := by
  simp only [add, Use.outcome, Use.pushed, extend, List.foldl_nil, Option.toList_none,
    List.append_nil]

theorem add_extend_cons (history : History) (alteration : Alteration)
    (rest : List Alteration) :
    history.add (.extend (alteration :: rest)) =
      (history.add (.push alteration)).add (.extend rest) := by
  simp only [add, Use.outcome, Use.pushed, extend, List.foldl_cons, List.append_assoc,
    List.singleton_append, Option.toList_none, List.append_nil]

/-! ## Accounts -/

/-- The tickets that wait and those that are gone are all that were given out. -/
structure Accounts (history : History) (gone : List Ticket) : Prop where
  isHeap : history.queue.heap.IsHeap
  next_eq : history.queue.nextNumber = UInt64.ofNat history.pushed.length
  all : (gone ++ history.queue.tickets).Perm history.pushed.zipIdx
  taken_eq : history.taken = gone.map Prod.fst

namespace Accounts

variable {gone : List Ticket}

theorem sorted (h : history.Accounts gone) : history.queue.tickets.Pairwise Ticket.Ahead := by
  have nodup : ((gone ++ history.queue.tickets).map Prod.snd).Nodup := by
    rw [(h.all.map Prod.snd).nodup_iff, List.zipIdx_map_snd]
    exact List.nodup_range'
  rw [List.map_append] at nodup
  exact sorted_tickets h.isHeap nodup.of_append_right

theorem lt_length (h : history.Accounts gone) {ticket : Ticket}
    (hticket : ticket ∈ history.queue.tickets) : ticket.2 < history.pushed.length :=
  List.snd_lt_of_mem_zipIdx (h.all.mem_iff.mp (List.mem_append_right gone hticket))

theorem toNat_next (h : history.Accounts gone) (few : history.pushed.length < 2 ^ 64) :
    history.queue.nextNumber.toNat = history.pushed.length := by
  rw [h.next_eq, UInt64.toNat_ofNat_of_lt' few]

theorem push (h : history.Accounts gone) (few : history.pushed.length < 2 ^ 64)
    (alteration : Alteration) : (history.add (.push alteration)).Accounts gone where
  isHeap := h.isHeap.push _
  next_eq := by
    change history.queue.nextNumber + 1 = UInt64.ofNat (history.pushed ++ [alteration]).length
    rw [h.next_eq, List.length_append, UInt64.ofNat_add]
    rfl
  all := by
    have hnew : (history.pushed ++ [alteration]).zipIdx =
        history.pushed.zipIdx ++ [(alteration, history.pushed.length)] := by
      rw [List.zipIdx_append, Nat.zero_add]
      rfl
    have hpush := history.queue.tickets_push alteration
    rw [h.toNat_next few] at hpush
    change (gone ++ (history.queue.push alteration).tickets).Perm
      (history.pushed ++ [alteration]).zipIdx
    rw [hnew]
    calc
      List.Perm (gone ++ (history.queue.push alteration).tickets)
          (gone ++ (alteration, history.pushed.length) :: history.queue.tickets) :=
        hpush.append_left gone
      List.Perm _ ((alteration, history.pushed.length) :: (gone ++ history.queue.tickets)) :=
        List.perm_middle
      List.Perm _ ((gone ++ history.queue.tickets) ++ [(alteration, history.pushed.length)]) :=
        (List.perm_append_singleton _ _).symm
      List.Perm _ (history.pushed.zipIdx ++ [(alteration, history.pushed.length)]) :=
        h.all.append_right _
  taken_eq := by
    rw [← h.taken_eq]
    exact List.append_nil _

theorem lineup_push (h : history.Accounts gone) (few : history.pushed.length < 2 ^ 64)
    (alteration : Alteration) :
    (history.add (.push alteration)).lineup = history.lineup.add (.push alteration) := by
  have earlier : ∀ ticket ∈ history.queue.tickets, ticket.2 < history.queue.nextNumber.toNat := by
    intro ticket hticket
    rw [h.toNat_next few]
    exact h.lt_length hticket
  have hwaiting := waiting_push h.sorted (h.push few alteration).sorted earlier
  exact congrArg₂ Lineup.mk hwaiting (List.append_nil _)

/-- Alterations that are put in together are put in one after the other. -/
theorem extend (h : history.Accounts gone) {alterations : List Alteration}
    (few : history.pushed.length + alterations.length ≤ 2 ^ 64) :
    (history.add (.extend alterations)).Accounts gone ∧
      (history.add (.extend alterations)).lineup = history.lineup.add (.extend alterations) := by
  induction alterations generalizing history with
  | nil =>
    rw [add_extend_nil]
    exact ⟨h, rfl⟩
  | cons alteration rest ih =>
    rw [List.length_cons] at few
    have hfew : history.pushed.length < 2 ^ 64 := by omega
    have hrest : (history.add (.push alteration)).pushed.length + rest.length ≤ 2 ^ 64 := by
      change (history.pushed ++ [alteration]).length + rest.length ≤ 2 ^ 64
      rw [List.length_append, List.length_singleton]
      omega
    obtain ⟨accounts, lineup_eq⟩ := ih (h.push hfew alteration) hrest
    rw [add_extend_cons]
    refine ⟨accounts, lineup_eq.trans ?_⟩
    rw [h.lineup_push hfew]
    rfl

theorem take (h : history.Accounts gone) (direction : Direction) (datagram : Bytes) :
    (∃ gone, (history.add (.take direction datagram)).Accounts gone) ∧
      (history.add (.take direction datagram)).lineup =
        history.lineup.add (.take direction datagram) := by
  cases htake : history.queue.take? direction datagram with
  | none =>
    have unfit := take?_eq_none_iff.mp htake
    rw [add_take_of_none htake, lineup, Lineup.add]
    refine ⟨⟨gone, h⟩, ?_⟩
    cases hwaiting : history.queue.waiting with
    | nil => rfl
    | cons first rest =>
      rw [hwaiting] at unfit
      simp only [unfit first rfl, Bool.false_eq_true, if_false]
  | some taken =>
    obtain ⟨alteration, rest⟩ := taken
    obtain ⟨-, next_eq, _, hpop⟩ := pop?_of_take? htake
    obtain ⟨number, htickets⟩ := tickets_of_take? htake
    obtain ⟨hwaiting, fits⟩ := waiting_of_take? htake
    rw [add_take_of_some htake]
    constructor
    · refine ⟨gone ++ [(alteration, number)], h.isHeap.of_pop? hpop, next_eq.trans h.next_eq, ?_,
        ?_⟩
      · have := h.all
        rwa [htickets, ← List.singleton_append, ← List.append_assoc] at this
      · rw [h.taken_eq, List.map_append]
        rfl
    · simp only [lineup, Lineup.add, hwaiting, fits, if_true]

/-- Whatever is done with a queue, the accounts are kept, and the same becomes of a list that is
kept in order. -/
theorem add (h : history.Accounts gone) {use : Use}
    (few : history.pushed.length + use.pushed.length ≤ 2 ^ 64) :
    (∃ gone, (history.add use).Accounts gone) ∧
      (history.add use).lineup = history.lineup.add use := by
  cases use with
  | push alteration =>
    exact ⟨⟨gone, h.push few alteration⟩, h.lineup_push few alteration⟩
  | extend alterations => exact ⟨⟨gone, (h.extend few).1⟩, (h.extend few).2⟩
  | check direction datagram =>
    rw [add_check]
    exact ⟨⟨gone, h⟩, rfl⟩
  | take direction datagram => exact h.take direction datagram

end Accounts

theorem exists_accounts {uses : List Use} (few : (uses.flatMap Use.pushed).length < 2 ^ 64) :
    (∃ gone, (ofUses uses).Accounts gone) ∧ (ofUses uses).lineup = .ofUses uses := by
  induction uses using List.reverseRecOn with
  | nil =>
    have empty : ({} : AlterationQueue).tickets = [] :=
      List.map_eq_nil_iff.mpr (Heap.drained_of_none rfl)
    refine ⟨⟨[], Heap.isHeap_empty, rfl, ?_, rfl⟩, ?_⟩
    · change List.Perm ({} : AlterationQueue).tickets []
      rw [empty]
    · exact congrArg (Lineup.mk · []) ((map_fst_tickets _).symm.trans (congrArg _ empty))
  | append_singleton uses use ih =>
    rw [List.flatMap_append, List.flatMap_singleton, List.length_append] at few
    obtain ⟨⟨gone, accounts⟩, lineup_eq⟩ := ih (by omega)
    rw [← pushed_ofUses] at few
    have step := accounts.add few.le
    rw [lineup_eq] at step
    rw [ofUses, Lineup.ofUses, List.foldl_append, List.foldl_append]
    exact step

/-! ## Everything put in before anything is taken -/

theorem taken_foldl_of_none (history : History) {uses : List Use}
    (hnone : ∀ direction datagram, Use.take direction datagram ∉ uses) :
    (uses.foldl add history).taken = history.taken := by
  induction uses generalizing history with
  | nil => rfl
  | cons use rest ih =>
    have hrest : ∀ direction datagram, Use.take direction datagram ∉ rest :=
      fun direction datagram hmem ↦ hnone direction datagram (List.mem_cons_of_mem _ hmem)
    have huse : (history.add use).taken = history.taken := by
      cases use with
      | take direction datagram => exact absurd List.mem_cons_self (hnone direction datagram)
      | push _ => exact List.append_nil _
      | extend _ => exact List.append_nil _
      | check _ _ => exact List.append_nil _
    rw [List.foldl_cons, ih (history.add use) hrest, huse]

/-- As long as nothing is put in, what was taken and what waits make up the same row. -/
theorem row_foldl_of_none (history : History) {uses : List Use}
    (hnone : ∀ use ∈ uses, use.pushed = []) :
    (uses.foldl add history).taken ++ (uses.foldl add history).queue.waiting =
      history.taken ++ history.queue.waiting := by
  induction uses generalizing history with
  | nil => rfl
  | cons use rest ih =>
    rw [List.foldl_cons, ih _ fun other hother ↦ hnone other (List.mem_cons_of_mem _ hother)]
    have huse := hnone use List.mem_cons_self
    cases use with
    | push alteration => cases huse
    | extend alterations =>
      obtain rfl : alterations = [] := huse
      rw [add_extend_nil]
    | check direction datagram => rw [add_check]
    | take direction datagram =>
      cases htake : history.queue.take? direction datagram with
      | none => rw [add_take_of_none htake]
      | some taken =>
        rw [add_take_of_some htake, (waiting_of_take? htake).1]
        exact List.append_assoc _ _ _

theorem taken_prefix_mergeSort {before after : List Use}
    (few : (before.flatMap Use.pushed).length < 2 ^ 64)
    (fills : ∀ direction datagram, Use.take direction datagram ∉ before)
    (drains : ∀ use ∈ after, use.pushed = []) :
    (ofUses (before ++ after)).taken <+: (before.flatMap Use.pushed).mergeSort notAfter := by
  obtain ⟨⟨gone, accounts⟩, -⟩ := exists_accounts few
  have hnone : (ofUses before).taken = [] := taken_foldl_of_none {} fills
  have hgone : gone = [] := List.map_eq_nil_iff.mp (accounts.taken_eq.symm.trans hnone)
  have hall := accounts.all
  rw [hgone, List.nil_append, pushed_ofUses] at hall
  rw [← map_eq_mergeSort hall accounts.sorted, map_fst_tickets]
  have hrow := row_foldl_of_none (ofUses before) drains
  rw [hnone, List.nil_append, ofUses, ← List.foldl_append] at hrow
  exact ⟨_, hrow⟩

/-! ## The queue refines a stable sort -/

namespace Accounts

variable {gone : List Ticket}

/-- What waits, as a multiset. -/
theorem balance (h : history.Accounts gone) :
    (history.queue.waiting : Multiset Alteration) = history.pushed - history.taken := by
  have hperm := (List.perm_append_comm.trans h.all).map Prod.fst
  rw [List.map_append, List.zipIdx_map_fst, map_fst_tickets, ← h.taken_eq] at hperm
  exact Multiset.eq_sub_of_add_eq (Multiset.coe_eq_coe.mpr hperm)

/-- The first ticket is the one that is ahead of all others. -/
theorem head?_eq_some_iff (h : history.Accounts gone) {alteration : Alteration} :
    history.queue.head? = some alteration ↔
      ∃ number, (alteration, number) ∈ history.queue.tickets ∧
        ∀ other ∈ history.queue.tickets, other ≠ (alteration, number) →
          Ticket.Ahead (alteration, number) other := by
  have sorted := h.sorted
  rw [← head?_waiting, ← map_fst_tickets]
  cases hwaiting : history.queue.tickets with
  | nil => simp
  | cons first rest =>
    rw [hwaiting] at sorted
    have hrest := (List.pairwise_cons.mp sorted).1
    rw [List.map_cons, List.head?_cons, Option.some.injEq]
    constructor
    · rintro rfl
      refine ⟨first.2, List.mem_cons_self, ?_⟩
      intro other hother hne
      exact hrest other ((List.mem_cons.mp hother).resolve_left hne)
    · rintro ⟨number, hmem, ahead⟩
      by_contra hne
      have hfirst : first ≠ (alteration, number) := by
        rintro rfl
        exact hne rfl
      have hback := hrest _ ((List.mem_cons.mp hmem).resolve_left hfirst.symm)
      exact hback.asymm (ahead first List.mem_cons_self hfirst)

end Accounts

/-- What has become of a queue is what becomes of a list that is kept in a stable order. -/
structure IsStable (uses : List Use) : Prop where
  /-- The same alterations wait, in the same order, and the same ones were taken. -/
  lineup_eq : (ofUses uses).lineup = .ofUses uses
  head?_eq : (ofUses uses).queue.head? = (Lineup.ofUses uses).waiting.head?
  /-- The tickets are those of the entries in the heap. -/
  tickets_perm : (ofUses uses).queue.tickets.Perm
    ((ofUses uses).queue.heap.entries.map (·.entry.ticket))
  /-- Those that wait and those that are gone are all that were given out. -/
  exists_gone : ∃ gone : List Ticket, (ofUses uses).taken = gone.map Prod.fst ∧
    (gone ++ (ofUses uses).queue.tickets).Perm (uses.flatMap Use.pushed).zipIdx
  /-- What waits was put in and not taken. -/
  balance : ((ofUses uses).queue.waiting : Multiset Alteration) =
    uses.flatMap Use.pushed - (ofUses uses).taken
  /-- The first alteration has the least target, and of those the earliest arrival. -/
  head?_eq_some_iff (alteration : Alteration) :
    (ofUses uses).queue.head? = some alteration ↔
      ∃ number, (alteration, number) ∈ (ofUses uses).queue.tickets ∧
        ∀ other ∈ (ofUses uses).queue.tickets, other ≠ (alteration, number) →
          Ticket.Ahead (alteration, number) other
  fires_iff (direction : Direction) (datagram : Bytes) :
    (ofUses uses).queue.fires direction datagram = true ↔
      ∃ first ∈ (ofUses uses).queue.head?, first.direction = direction ∧
        Target.ofDatagram? datagram = some first.target
  /-- A datagram takes the first ticket alone, if it is meant for it, and otherwise nothing. -/
  take_cases (direction : Direction) (datagram : Bytes) :
    (∃ first rest, (ofUses uses).queue.tickets = first :: rest.tickets ∧
        first.1.direction = direction ∧ Target.ofDatagram? datagram = some first.1.target ∧
        (Use.take direction datagram).outcome (ofUses uses).queue = (some first.1, rest)) ∨
      (∀ first ∈ (ofUses uses).queue.tickets.head?, ¬ (first.1.direction = direction ∧
        Target.ofDatagram? datagram = some first.1.target)) ∧
        (Use.take direction datagram).outcome (ofUses uses).queue = (none, (ofUses uses).queue)
  /-- If everything was put in before anything was taken, what was taken stands in the order of a
  stable sort by target. -/
  taken_prefix {before after : List Use} :
    uses = before ++ after → (∀ direction datagram, Use.take direction datagram ∉ before) →
      (∀ use ∈ after, use.pushed = []) →
      (ofUses uses).taken <+: (before.flatMap Use.pushed).mergeSort notAfter

theorem refines_stable_sort {uses : List Use}
    (few : (uses.flatMap Use.pushed).length < 2 ^ 64) : IsStable uses := by
  obtain ⟨⟨gone, accounts⟩, lineup_eq⟩ := exists_accounts few
  have hpushed := pushed_ofUses uses
  exact {
    lineup_eq
    head?_eq := by rw [← lineup_eq, ← head?_waiting, lineup]
    tickets_perm := (ofUses uses).queue.tickets_perm
    exists_gone := ⟨gone, accounts.taken_eq, hpushed ▸ accounts.all⟩
    balance := hpushed ▸ accounts.balance
    head?_eq_some_iff := fun alteration ↦ accounts.head?_eq_some_iff
    fires_iff := by
      intro direction datagram
      rw [fires_iff, head?_waiting]
      simp only [Alteration.fitsOn_iff]
    take_cases := Use.take_cases (ofUses uses).queue
    taken_prefix := by
      rintro before after rfl fills drains
      rw [List.flatMap_append, List.length_append] at few
      exact taken_prefix_mergeSort (by omega) fills drains }

/-- Two alterations of one block wait behind one of an earlier block, and behind a request that
arrives after them. -/
theorem refines_stable_sort_mixed :
    let opcode : Alteration :=
      { direction := .serverToClient, target := .block 4, opcode := some 9 }
    let drop : Alteration := { direction := .clientToServer, target := .block 4, drop := true }
    let delay : Alteration := { direction := .clientToServer, target := .block 2, delay := some 50 }
    let mode : Alteration :=
      { direction := .clientToServer, target := .request, mode := some "bogus" }
    let uses : List Use := [
      .push opcode, .extend [drop, delay], .check .clientToServer (Packet.encodeAck 2),
      .take .clientToServer (Packet.encodeAck 4), .take .clientToServer (Packet.encodeAck 2),
      .push mode, .take .serverToClient [0, 3, 0, 4], .take .clientToServer [0, 1],
      .take .clientToServer (Packet.encodeAck 4), .take .serverToClient [0, 3, 0, 4]]
    (uses.flatMap Use.pushed).length < 2 ^ 64 ∧
      (ofUses uses).taken = [delay, mode, opcode] ∧ (ofUses uses).queue.waiting = [drop] ∧
        IsStable uses := by
  intro opcode drop delay mode uses
  exact ⟨by decide, by decide +kernel, by decide +kernel, refines_stable_sort (by decide)⟩

end History

end AlterationQueue

end Lockstep
