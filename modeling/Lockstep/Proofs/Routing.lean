import Lockstep.Proofs.Accounts
import Mathlib.Data.List.DropRight

/-!
# Where a relay sends what the client says

A relay has to find out who serves its client. It asks at the address for requests, and from then on
it takes whoever was heard last on the server's side for the other end of the transfer, until the
next request of the client. So a transfer stays with the one who has replied as long as nobody else
is heard there, and whatever reaches the socket of that side from elsewhere leads the client's
datagrams astray.

The histories here are all that a relay can have. Datagrams may be too long for its buffer, and to
send one or to open a socket may fail.
-/

namespace Lockstep

namespace Emission

def direction : Emission → Direction
  | .forward direction _ _ => direction
  | .disguised _ direction _ _ => direction

def destination : Emission → SocketAddress
  | .forward _ _ destination => destination
  | .disguised _ _ _ destination => destination

end Emission

namespace Relay

open Dialogue

/-! ## Who was heard -/

namespace Arrival

/-- The client asks for a transfer. -/
def IsRequest (arrival : Arrival) : Prop :=
  arrival.direction = .clientToServer ∧ Target.ofDatagram? arrival.payload = some .request

instance : DecidablePred IsRequest := fun _ ↦ inferInstanceAs (Decidable (_ ∧ _))

end Arrival

/-- Who was heard on the server's side since the last request of the client, one after the other. -/
def repliers (dealt : List Arrival) : List SocketAddress :=
  (ofSide .serverToClient (dealt.rtakeWhile fun arrival ↦ ¬ arrival.IsRequest)).map Arrival.source

section

variable {dealt : List Arrival} {arrival : Arrival}

theorem repliers_snoc_request (h : arrival.IsRequest) : repliers (dealt ++ [arrival]) = [] := by
  unfold repliers
  rw [List.rtakeWhile_concat_neg _ _ _ (by simpa using h)]
  rfl

theorem repliers_snoc (h : ¬ arrival.IsRequest) :
    repliers (dealt ++ [arrival]) =
      repliers dealt ++ (ofSide .serverToClient [arrival]).map Arrival.source := by
  unfold repliers
  rw [List.rtakeWhile_concat_pos _ _ _ (by simpa using h), ofSide_append, List.map_append]

end

namespace Standing

variable {standing : Standing} {arrival : Arrival}

theorem serverTid_learn_request (h : arrival.IsRequest) :
    (standing.learn arrival).serverTid = none := by
  obtain ⟨direction, target⟩ := h
  unfold learn
  rw [direction]
  dsimp only
  rw [if_pos target]

theorem serverTid_learn (h : ¬ arrival.IsRequest) :
    (standing.learn arrival).serverTid =
      ((ofSide .serverToClient [arrival]).map Arrival.source).getLast?.or standing.serverTid := by
  unfold learn ofSide
  cases hdirection : arrival.direction with
  | clientToServer =>
    have target : Target.ofDatagram? arrival.payload ≠ some .request := fun h' ↦ h ⟨hdirection, h'⟩
    simp [hdirection, target]
  | serverToClient => simp [hdirection]

end Standing

variable {start relay : Relay} {received : List Arrival} {sent : List Departure} {rest : Rest}
  {record : List Handling} {serverAddress : SocketAddress} {standing next first last : Standing}
  {arrival : Arrival} {taken : Option Alteration} {emissions : List Emission}
  {now since : Nat} {talk : Talk}

theorem Treats.serverTid_eq
    (treats : Treats serverAddress standing arrival taken emissions next) :
    next.serverTid = (standing.learn arrival).serverTid := by
  cases treats <;> rfl

/-- The books tell whom a relay takes for the server's side of the transfer. -/
theorem Books.serverTid_eq (books : Books serverAddress first record last)
    (ignorant : first.serverTid = none) :
    last.serverTid = (repliers (record.map Handling.arrival)).getLast? := by
  induction books with
  | opened => exact ignorant
  | @entered record standing next arrival taken emissions books treats ih =>
    rw [treats.serverTid_eq, List.map_append, List.map_singleton]
    by_cases request : arrival.IsRequest
    · rw [Standing.serverTid_learn_request request, repliers_snoc_request request]
      rfl
    · rw [Standing.serverTid_learn request, repliers_snoc request, List.getLast?_append, ih]

/-- Every entry is about how a datagram was treated by what was known at that time. -/
theorem Books.exists_treats {entry : Handling} {earlier later : List Handling}
    (books : Books serverAddress first (earlier ++ entry :: later) last) :
    ∃ standing next, Books serverAddress first earlier standing ∧
      Treats serverAddress standing entry.arrival entry.taken entry.emissions next := by
  generalize hrecord : earlier ++ entry :: later = record at books
  induction books generalizing later with
  | opened => exact absurd hrecord (List.append_ne_nil_of_right_ne_nil _ (List.cons_ne_nil _ _))
  | entered books treats ih =>
    rcases List.eq_nil_or_concat later with rfl | ⟨front, final, rfl⟩
    · obtain ⟨rfl, hentry⟩ := List.append_inj' hrecord rfl
      cases hentry
      exact ⟨_, _, books, treats⟩
    · rw [List.concat_eq_append, ← List.cons_append, ← List.append_assoc] at hrecord
      exact ih (List.append_inj' hrecord rfl).1

/-! ## Where it goes -/

@[simp]
theorem Job.direction_emission (job : Job) : job.emission.direction = job.direction := by
  unfold Job.emission
  split <;> rfl

@[simp]
theorem Job.destination_emission (job : Job) : job.emission.destination = job.destination := by
  unfold Job.emission
  split <;> rfl

/-- The datagram of the entry is sent to the address, as it is or altered, unless it is lost on
purpose. -/
structure Handling.GoesTo (entry : Handling) (address : SocketAddress) : Prop where
  destination : ∀ emission ∈ entry.emissions,
    emission.direction = entry.arrival.direction ∧ emission.destination = address
  untouched : entry.taken = none →
    entry.emissions = [.forward entry.arrival.direction entry.arrival.payload address]
  lost : entry.emissions = [] ↔ ∃ alteration ∈ entry.taken, alteration.drop = true

/-- A datagram that has somewhere to go goes there. -/
theorem Treats.goesTo {destination : SocketAddress}
    (treats : Treats serverAddress standing arrival taken emissions next)
    (routed : (standing.learn arrival).destination? serverAddress arrival.direction =
      some destination) :
    Handling.GoesTo ⟨arrival, taken, emissions⟩ destination := by
  have unchanged {address : SocketAddress}
      (h : (standing.learn arrival).destination? serverAddress arrival.direction = some address) :
      Handling.GoesTo
        ⟨arrival, none, [.forward arrival.direction arrival.payload address]⟩ destination := by
    obtain rfl := Option.some.inj (h.symm.trans routed)
    refine ⟨?_, fun _ ↦ rfl, by simp⟩
    intro emission h
    cases List.mem_singleton.mp h
    exact ⟨rfl, rfl⟩
  cases treats with
  | unrouted calm unrouted => cases unrouted.symm.trans routed
  | untouched calm routed' unfit => exact unchanged routed'
  | replacement missing routed' => exact unchanged routed'
  | altered calm routed' first fits kept =>
    obtain rfl := Option.some.inj (routed'.symm.trans routed)
    refine ⟨?_, nofun, ?_⟩
    · intro emission h
      cases (List.mem_replicate.mp h).2
      exact ⟨Job.direction_emission _, Job.destination_emission _⟩
    · dsimp only
      split <;> simp [kept]
  | dropped calm routed' first fits gone => exact ⟨by simp, nofun, by simp [gone]⟩

/-- Where a datagram from the client's side goes, after these have been dealt with. -/
structure IsRouted (serverAddress : SocketAddress) (before : List Arrival) (entry : Handling) :
    Prop where
  /-- A request goes to the address for requests. -/
  request : entry.arrival.IsRequest → entry.GoesTo serverAddress
  /-- So does everything as long as nobody has replied. -/
  unanswered : repliers before = [] → entry.GoesTo serverAddress
  /-- The transfer stays with whoever has replied as long as nobody else is heard. -/
  kept : ∀ tid, repliers before ≠ [] → (∀ replier ∈ repliers before, replier = tid) →
    ¬ entry.arrival.IsRequest → entry.GoesTo tid
  /-- Whoever was heard last takes it over. -/
  latest : ∀ tid ∈ (repliers before).getLast?, ¬ entry.arrival.IsRequest → entry.GoesTo tid

theorem Books.isRouted {entry : Handling} {earlier later : List Handling}
    (books : Books serverAddress first (earlier ++ entry :: later) last)
    (ignorant : first.serverTid = none) (side : entry.arrival.direction = .clientToServer) :
    IsRouted serverAddress (earlier.map Handling.arrival) entry := by
  obtain ⟨standing, next, before, treats⟩ := books.exists_treats
  have known := before.serverTid_eq ignorant
  have goes : entry.GoesTo ((standing.learn entry.arrival).serverTid.getD serverAddress) :=
    treats.goesTo (by rw [side]; rfl)
  have silent : ofSide .serverToClient [entry.arrival] = [] :=
    List.filter_cons_of_neg (by simp [side])
  have learned (h : ¬ entry.arrival.IsRequest) :
      (standing.learn entry.arrival).serverTid =
        (repliers (earlier.map Handling.arrival)).getLast? := by
    rw [Standing.serverTid_learn h, silent, known]
    rfl
  have latest : ∀ tid ∈ (repliers (earlier.map Handling.arrival)).getLast?,
      ¬ entry.arrival.IsRequest → entry.GoesTo tid := by
    intro tid htid h
    rwa [learned h, Option.mem_def.mp htid] at goes
  have request : entry.arrival.IsRequest → entry.GoesTo serverAddress := by
    intro h
    rwa [Standing.serverTid_learn_request h] at goes
  refine ⟨request, ?_, ?_, latest⟩
  · intro unheard
    by_cases h : entry.arrival.IsRequest
    · exact request h
    · rwa [learned h, unheard] at goes
  · intro tid heard same h
    apply latest tid _ h
    rw [Option.mem_def, List.getLast?_eq_some_getLast heard]
    exact congrArg _ (same _ (List.getLast_mem heard))

/-! ## Histories -/

/-- Beginning as `start` the relay has come to `rest`, when these datagrams had come in and these
had been handed to the network, which may not have sent them. -/
inductive Histories (start : Relay) : List Arrival → List Departure → Rest → Prop
  | begun : Histories start [] [] (.waiting start)
  | arrives {received : List Arrival} {sent : List Departure} {relay : Relay}
      (history : Histories start received sent (.waiting relay))
      (socket source : SocketAddress) (payload : Bytes) :
      Histories start (received ++ [⟨relay.side socket, source, payload⟩]) sent
        (.waiting (relay.enqueue socket (.datagram source payload)))
  | errs {received : List Arrival} {sent : List Departure} {relay : Relay}
      (history : Histories start received sent (.waiting relay)) (socket : SocketAddress)
      (error : SystemError) :
      Histories start received sent (.waiting (relay.enqueue socket (.error error)))
  | told {received : List Arrival} {sent : List Departure} {relay : Relay}
      (history : Histories start received sent (.waiting relay)) (isStopping : Bool) :
      Histories start received sent (.waiting { relay with isStopping })
  | moves {received : List Arrival} {sent : List Departure} {relay next : Relay}
      {emissions : List Emission} {now since : Nat} {talk : Talk}
      (history : Histories start received sent (.waiting relay))
      (move : relay.Moves now since (.goesOn next emissions))
      (leads : (relay.emitAll emissions).Leads talk ()) :
      Histories start received (sent ++ departures talk) (.waiting next)
  | stops {received : List Arrival} {sent : List Departure} {relay : Relay}
      {outcome : Except Failure Unit} {now since : Nat}
      (history : Histories start received sent (.waiting relay))
      (move : relay.Moves now since (.stops outcome)) :
      Histories start received sent (.stopped relay.queue outcome)

/-- The books explain what has come in and what was sent. -/
structure Explained (start : Relay) (received : List Arrival) (sent : List Departure)
    (relay : Relay) (record : List Handling) : Prop where
  setup : relay.setup = start.setup
  books : Books start.serverAddress start.standing record relay.standing
  /-- Each side was dealt with in order, and nothing was passed over. Of each datagram was taken
  what fits into the buffer. -/
  in_order : ∃ dealt, record.map Handling.arrival = dealt.map (Arrival.cut start.buffer) ∧
    ∀ direction, ofSide direction received = ofSide direction dealt ++ relay.unread direction
  /-- What was sent are emissions of the entries in their order. One that is missing could not be
  disguised, or it is still owed. -/
  sends : ∃ emitted carried, emitted ++ relay.phase.owed = record.flatMap Handling.emissions ∧
    carried.Sublist emitted ∧ List.Forall₂ start.Carries carried sent

/-- An emission is sent once at most. -/
theorem exists_carried {emission : Emission} (leads : (relay.emit emission).Leads talk ()) :
    ∃ carried, carried.Sublist [emission] ∧ List.Forall₂ relay.Carries carried (departures talk) := by
  cases emission with
  | forward direction payload destination =>
    obtain ⟨_, _, rfl, hdone⟩ := leads_ask_iff.mp leads
    obtain ⟨rfl, -⟩ := leads_done_iff.mp hdone
    exact ⟨_, List.Sublist.refl _, .cons (.forward direction payload destination) .nil⟩
  | disguised alteration direction payload destination =>
    obtain ⟨bound, _, rfl, hbound⟩ := leads_ask_iff.mp leads
    cases bound with
    | error error =>
      obtain ⟨rfl, -⟩ := leads_done_iff.mp hbound
      exact ⟨[], List.nil_sublist _, .nil⟩
    | ok socket =>
      obtain ⟨_, _, rfl, hsent⟩ := leads_ask_iff.mp hbound
      obtain ⟨_, _, rfl, hclosed⟩ := leads_ask_iff.mp hsent
      obtain ⟨rfl, -⟩ := leads_done_iff.mp hclosed
      exact ⟨_, List.Sublist.refl _,
        .cons (.disguised alteration direction payload destination socket) .nil⟩

theorem exists_carried_of_emitAll (leads : (relay.emitAll emissions).Leads talk ()) :
    ∃ carried, carried.Sublist emissions ∧ List.Forall₂ relay.Carries carried (departures talk) := by
  induction emissions generalizing talk with
  | nil =>
    obtain ⟨rfl, -⟩ := leads_done_iff.mp leads
    exact ⟨[], List.Sublist.refl _, .nil⟩
  | cons emission others ih =>
    obtain ⟨front, _, back, rfl, hfront, hback⟩ := leads_bind_iff.mp leads
    obtain ⟨now, hnow, carries⟩ := exists_carried hfront
    obtain ⟨later, hlater, carries'⟩ := ih hback
    rw [departures_append]
    exact ⟨now ++ later, hnow.append hlater, List.rel_append carries carries'⟩

namespace Explained

/-- What comes in waits behind what came in from its side before. -/
theorem enqueue (explained : Explained start received sent relay record) (socket : SocketAddress)
    (reception : Reception) :
    Explained start (received ++ (arrival? (relay.side socket) reception).toList) sent
      (relay.enqueue socket reception) record where
  setup := by
    rw [enqueue_eq, setup_withInbox]
    exact explained.setup
  books := by
    rw [enqueue_eq, standing_withInbox]
    exact explained.books
  in_order := by
    obtain ⟨dealt, hcut, horder⟩ := explained.in_order
    refine ⟨dealt, hcut, fun direction ↦ ?_⟩
    rw [ofSide_append, horder, unread_enqueue, List.append_assoc]
  sends := by
    rw [enqueue_eq, phase_withInbox]
    exact explained.sends

/-- The books are continued by what a move deals with. -/
theorem move {next : Relay} (explained : Explained start received sent relay record)
    (calm : start.standing.missing = none) (move : relay.Moves now since (.goesOn next emissions))
    (leads : (relay.emitAll emissions).Leads talk ()) :
    ∃ record, Explained start received (sent ++ departures talk) next record := by
  have haddress : relay.serverAddress = start.serverAddress :=
    congrArg Setup.serverAddress explained.setup
  have hbuffer : relay.buffer = start.buffer := congrArg Setup.buffer explained.setup
  obtain ⟨dealt, added, enters⟩ := move.exists_enters (by
    rw [haddress]
    exact fun _ ↦ explained.books.isSome_destination? calm)
  have books := enters.books
  rw [haddress] at books
  obtain ⟨before, hcut, horder⟩ := explained.in_order
  obtain ⟨emitted, carried, howed, hcarried, carries⟩ := explained.sends
  obtain ⟨now, hnow, carries'⟩ := exists_carried_of_emitAll leads
  rw [carries_congr explained.setup] at carries'
  refine ⟨record ++ added, move.setup_eq.trans explained.setup, explained.books.append books,
    ⟨before ++ dealt, ?_, fun direction ↦ ?_⟩,
    ⟨emitted ++ emissions, carried ++ now, ?_, hcarried.append hnow,
      List.rel_append carries carries'⟩⟩
  · rw [List.map_append, List.map_append, hcut, enters.taken, hbuffer]
  · rw [horder, enters.in_order, ofSide_append, List.append_assoc]
  · calc emitted ++ emissions ++ next.phase.owed
      _ = emitted ++ (relay.phase.owed ++ added.flatMap Handling.emissions) := by
        rw [List.append_assoc, enters.sends]
      _ = record.flatMap Handling.emissions ++ added.flatMap Handling.emissions := by
        rw [← List.append_assoc, howed]
      _ = (record ++ added).flatMap Handling.emissions := List.flatMap_append.symm

end Explained

namespace Histories

theorem exists_explained (fresh : start.IsFresh) (history : Histories start received sent rest) :
    ∃ relay record, rest.ComesFrom relay ∧ Explained start received sent relay record := by
  induction history with
  | begun =>
    refine ⟨start, [], rfl, rfl, .opened, ⟨[], rfl, fun direction ↦ ?_⟩,
      ⟨[], [], ?_, List.Sublist.refl _, .nil⟩⟩
    · rw [unread, fresh.inbox]
      rfl
    · rw [fresh.phase]
      rfl
  | arrives history socket source payload ih =>
    obtain ⟨_, record, rfl, explained⟩ := ih
    exact ⟨_, record, rfl, explained.enqueue socket (.datagram source payload)⟩
  | @errs received sent relay history socket error ih =>
    obtain ⟨_, record, rfl, explained⟩ := ih
    have := explained.enqueue socket (.error error)
    rw [arrival?, Option.toList_none, List.append_nil] at this
    exact ⟨_, record, rfl, this⟩
  | told history isStopping ih =>
    obtain ⟨_, record, rfl, explained⟩ := ih
    exact ⟨_, record, rfl, explained.setup, explained.books, explained.in_order, explained.sends⟩
  | moves history move leads ih =>
    obtain ⟨_, record, rfl, explained⟩ := ih
    obtain ⟨record, explained⟩ :=
      explained.move (congrArg Phase.missing fresh.phase) move leads
    exact ⟨_, record, rfl, explained⟩
  | stops history move ih =>
    obtain ⟨_, record, rfl, explained⟩ := ih
    exact ⟨_, record, ⟨rfl, owed_of_stops move⟩, explained⟩

theorem movesTo {after : Rest} (history : Histories start received sent (.waiting relay))
    (onward : MovesTo now since relay emissions after)
    (leads : (relay.emitAll emissions).Leads talk ()) :
    Histories start received (sent ++ departures talk) after := by
  induction onward generalizing sent talk with
  | rests relay =>
    obtain ⟨rfl, -⟩ := leads_done_iff.mp leads
    rwa [departures_nil, List.append_nil]
  | stops move =>
    obtain ⟨rfl, -⟩ := leads_done_iff.mp leads
    rw [departures_nil, List.append_nil]
    exact .stops history move
  | goesOn move onward ih =>
    obtain ⟨first, second, rfl, hfirst, hsecond⟩ := exists_leads_of_append leads
    rw [departures_append, ← List.append_assoc]
    apply ih (history.moves move hfirst)
    rwa [emitAll_congr move.setup_eq]

theorem run {after : Rest} (history : Histories start received sent (.waiting relay))
    (leads : (relay.run now since).Leads talk after) :
    Histories start received (sent ++ departures talk) after := by
  obtain ⟨emissions, front, onward, hfront, -, hsent, -⟩ := exists_movesTo_of_run leads
  rw [hsent]
  exact history.movesTo onward hfront

end Histories

/-- In every history of a relay, what was dealt with before tells where a datagram from the client's
side goes, and so it does on a host. -/
theorem isRouted_of_histories (fresh : start.IsFresh)
    (history : Histories start received sent rest) :
    (∃ relay record, rest.ComesFrom relay ∧ Explained start received sent relay record ∧
      ∀ earlier entry later, record = earlier ++ entry :: later →
        entry.arrival.direction = .clientToServer →
        IsRouted start.serverAddress (earlier.map Handling.arrival) entry) ∧
    ∀ relay, rest = .waiting relay → ∀ now since talk after,
      (relay.run now since).Leads talk after →
      Histories start received (sent ++ departures talk) after := by
  constructor
  · obtain ⟨relay, record, comes, explained⟩ := history.exists_explained fresh
    refine ⟨relay, record, comes, explained, ?_⟩
    rintro earlier entry later rfl side
    exact explained.books.isRouted fresh.serverTid side
  · rintro relay rfl now since talk after leads
    exact history.run leads

/-- The client asks for a file, acknowledges the first block, and is heard where the block has come
from. -/
theorem isRouted_of_acknowledgment :
    let start : Relay := {
      clientSocket := { ip := .localhost .four, port := 2300 }
      serverSocket := { ip := .localhost .four, port := 2301 }
      serverAddress := { ip := .localhost .four, port := 6900 }
      buffer := 1500
      queue := {} }
    let client : SocketAddress := { ip := .localhost .four, port := 5000 }
    let tid : SocketAddress := { ip := .localhost .four, port := 7001 }
    let request : Bytes := [0, 1, 97, 0, 111, 99, 116, 101, 116, 0]
    let received : List Arrival :=
      [⟨.clientToServer, client, request⟩, ⟨.serverToClient, tid, Packet.encodeData 1 [7]⟩,
        ⟨.clientToServer, client, Packet.encodeAck 1⟩]
    let sent : List Departure :=
      [⟨start.serverSocket, start.serverAddress, request⟩,
        ⟨start.clientSocket, client, Packet.encodeData 1 [7]⟩,
        ⟨start.serverSocket, tid, Packet.encodeAck 1⟩]
    start.IsFresh ∧ ∃ rest, Histories start received sent rest ∧
      ∃ relay record, rest.ComesFrom relay ∧ Explained start received sent relay record ∧
        ∀ earlier entry later, record = earlier ++ entry :: later →
          entry.arrival.direction = .clientToServer →
          IsRouted start.serverAddress (earlier.map Handling.arrival) entry := by
  intro start client tid request received sent
  let asked : Relay := { start with client := some client }
  let served : Relay := { asked with serverTid := some tid }
  have fresh : start.IsFresh := ⟨rfl, rfl, fun direction ↦ by cases direction <;> rfl, rfl⟩
  -- The relay deals with each of the three at once.
  have forwards {relay next : Relay} {socket source destination through : SocketAddress}
      {payload : Bytes} {received : List Arrival} {sent : List Departure}
      (history : Histories start received sent (.waiting relay))
      (leads : ((relay.enqueue socket (.datagram source payload)).run 0 0).Leads
        [⟨.send through destination payload, .ok ()⟩] (.waiting next)) :
      Histories start (received ++ [⟨relay.side socket, source, payload⟩])
        (sent ++ [⟨through, destination, payload⟩]) (.waiting next) :=
    (history.arrives socket source payload).run leads
  have asking : Histories start (received.take 1) (sent.take 1) (.waiting asked) := by
    refine @forwards start asked start.clientSocket _ _ _ _ [] [] .begun ?_
    exact leads_ask_iff.mpr ⟨_, _, rfl, leads_done_iff.mpr ⟨rfl, rfl⟩⟩
  have replied : Histories start (received.take 2) (sent.take 2) (.waiting served) := by
    refine @forwards asked served start.serverSocket _ _ _ _ _ _ asking ?_
    exact leads_ask_iff.mpr ⟨_, _, rfl, leads_done_iff.mpr ⟨rfl, rfl⟩⟩
  have history : Histories start received sent (.waiting served) := by
    refine @forwards served served start.clientSocket _ _ _ _ _ _ replied ?_
    exact leads_ask_iff.mpr ⟨_, _, rfl, leads_done_iff.mpr ⟨rfl, rfl⟩⟩
  exact ⟨fresh, _, history, (isRouted_of_histories fresh history).1⟩

end Relay

end Lockstep
