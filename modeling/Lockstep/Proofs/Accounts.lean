import Lockstep.Proofs.Books
import Mathlib.Data.List.Forall2

/-!
# Accounts of a relay

Whatever a relay does about a datagram is what is to be done about it, so every run of a relay has
books. They explain everything that was sent and what is left of the queue: what was sent are the
emissions of the entries, one after the other, and what was taken from the queue are the
alterations that the entries used up.
-/

namespace Lockstep

namespace Relay

open Dialogue

variable {relay next : Relay} {direction : Direction} {source destination : SocketAddress}
  {payload datagram : Bytes} {emissions : List Emission} {now since : Nat} {job : Job}
  {alteration : Alteration}

/-! ## Where a relay stands -/

namespace Job

/-- What is sent for an altered datagram. -/
def copies (job : Job) : List Emission :=
  if job.alteration.drop then []
  else List.replicate (if job.alteration.duplicate.isSome then 2 else 1) job.emission

/-- The side whose next datagram takes the place of this one. -/
def missing (job : Job) : Option Direction :=
  if job.alteration.drop then some job.direction else none

end Job

namespace Phase

/-- What is still to be sent for the datagram that was dealt with last. -/
def owed : Phase → List Emission
  | .delaying _ job => job.copies
  | .repeating _ job => [job.emission]
  | .listening | .replacing _ => []

def missing : Phase → Option Direction
  | .delaying _ job => job.missing
  | .replacing direction => some direction
  | .listening | .repeating .. => none

end Phase

def standing (relay : Relay) : Standing :=
  ⟨relay.client, relay.serverTid, relay.queue.waiting, relay.phase.missing⟩

@[simp]
theorem standing_withInbox (receptions : List Reception) :
    (relay.withInbox receptions direction).standing = relay.standing := by
  cases direction <;> rfl

section

variable (relay direction source datagram)

@[simp]
theorem phase_route : (relay.route direction source datagram).1.phase = relay.phase := by
  unfold route
  repeat' split
  all_goals rfl

theorem standing_route :
    (relay.route direction source datagram).1.standing =
      relay.standing.learn ⟨direction, source, datagram⟩ := by
  unfold route Standing.learn
  cases direction with
  | clientToServer =>
    dsimp only
    split
    · rfl
    · cases hclient : relay.client <;> simp [standing, hclient]
  | serverToClient => rfl

theorem route_snd :
    (relay.route direction source datagram).2 =
      (relay.standing.learn ⟨direction, source, datagram⟩).destination? relay.serverAddress
        direction := by
  unfold route Standing.learn
  cases direction with
  | clientToServer =>
    dsimp only
    split <;> rfl
  | serverToClient => rfl

end

/-- What is sent for an altered datagram when its delay is over, at once and later. -/
theorem dispose_owed :
    (relay.dispose job now since).2 ++ (relay.dispose job now since).1.phase.owed = job.copies := by
  unfold dispose Job.copies
  split
  · rfl
  · split
    · next hduplicate => rw [hduplicate]; rfl
    · next hduplicate => rw [hduplicate]; rfl

theorem standing_dispose :
    (relay.dispose job now since).1.standing = { relay.standing with missing := job.missing } := by
  unfold dispose Job.missing
  split
  · rfl
  · split <;> rfl

/-! ## What a relay does about a datagram -/

section

variable {knowing : Relay} {queue : AlterationQueue}

theorem relay_of_unrouted (hroute : relay.route direction source datagram = (knowing, none)) :
    relay.relay direction source datagram now since = (knowing, []) := by
  rw [Relay.relay, hroute]

theorem relay_of_unfit
    (hroute : relay.route direction source datagram = (knowing, some destination))
    (htake : knowing.queue.take? direction datagram = none) :
    relay.relay direction source datagram now since =
      (knowing, [.forward direction datagram destination]) := by
  rw [Relay.relay, hroute]
  dsimp only
  rw [htake]

/-- With and without a delay the same is sent for an altered datagram in the end. -/
theorem relay_of_fit
    (hroute : relay.route direction source datagram = (knowing, some destination))
    (htake : knowing.queue.take? direction datagram = some (alteration, queue)) (now since : Nat) :
    let job : Job := ⟨alteration, direction, alteration.apply datagram, destination⟩
    let result := relay.relay direction source datagram now since
    result.2 ++ result.1.phase.owed = job.copies ∧
      result.1.standing =
        { knowing.standing with queue := queue.waiting, missing := job.missing } := by
  rw [Relay.relay, hroute]
  dsimp only
  rw [htake]
  dsimp only
  split
  · exact ⟨rfl, rfl⟩
  · exact ⟨dispose_owed, standing_dispose⟩

end

theorem treats_copies {serverAddress : SocketAddress} {standing : Standing} {arrival : Arrival}
    {queue : List Alteration} (calm : standing.missing = none)
    (routed : (standing.learn arrival).destination? serverAddress arrival.direction =
      some destination)
    (first : standing.queue = alteration :: queue)
    (fits : alteration.fitsOn arrival.direction arrival.payload = true) :
    let job : Job :=
      ⟨alteration, arrival.direction, alteration.apply arrival.payload, destination⟩
    Treats serverAddress standing arrival (some alteration) job.copies
      { standing.learn arrival with queue, missing := job.missing } := by
  intro job
  cases hdrop : alteration.drop with
  | true =>
    have hcopies : job.copies = [] := if_pos hdrop
    have hmissing : job.missing = some arrival.direction := if_pos hdrop
    rw [hcopies, hmissing]
    exact .dropped calm routed first fits hdrop
  | false =>
    have hkept : ¬ alteration.drop = true := by
      rw [hdrop]
      exact Bool.false_ne_true
    have hmissing : job.missing = (standing.learn arrival).missing := by
      rw [Standing.missing_learn, calm]
      exact if_neg hkept
    rw [Job.copies, if_neg hkept, hmissing]
    exact .altered calm routed first fits hdrop

/-- What the relay does about a datagram while it listens is what is to be done about it. -/
theorem treats_relay (phase : relay.phase = .listening) (arrival : Arrival) (now since : Nat) :
    let result := relay.relay arrival.direction arrival.source arrival.payload now since
    ∃ taken, Treats relay.serverAddress relay.standing arrival taken
      (result.2 ++ result.1.phase.owed) result.1.standing := by
  have calm : relay.standing.missing = none := congrArg Phase.missing phase
  cases hroute : relay.route arrival.direction arrival.source arrival.payload with
  | mk knowing destination? =>
    have learned : knowing.standing = relay.standing.learn arrival := by
      rw [← standing_route, hroute]
    have routed : (relay.standing.learn arrival).destination? relay.serverAddress
        arrival.direction = destination? := by
      rw [← route_snd, hroute]
    have listening : knowing.phase = .listening := calc
      knowing.phase = (relay.route arrival.direction arrival.source arrival.payload).1.phase := by
        rw [hroute]
      _ = .listening := (phase_route ..).trans phase
    cases destination? with
    | none =>
      refine ⟨none, ?_⟩
      rw [relay_of_unrouted hroute, listening, learned]
      exact .unrouted calm routed
    | some destination =>
      have hqueue : knowing.queue.waiting = relay.standing.queue :=
        (congrArg Standing.queue learned).trans Standing.queue_learn
      cases htake : knowing.queue.take? arrival.direction arrival.payload with
      | none =>
        refine ⟨none, ?_⟩
        rw [relay_of_unfit hroute htake, listening, learned]
        apply Treats.untouched calm routed
        rw [← hqueue]
        exact AlterationQueue.take?_eq_none_iff.mp htake
      | some used =>
        obtain ⟨first, fits⟩ := AlterationQueue.waiting_of_take? htake
        obtain ⟨hcopies, hstanding⟩ := relay_of_fit hroute htake now since
        refine ⟨some used.1, ?_⟩
        rw [hcopies, hstanding, learned]
        exact treats_copies calm routed (hqueue ▸ first) fits

theorem replace_snd (hroute : (relay.route direction source datagram).2 = some destination) :
    (relay.replace direction source datagram).2 =
      [.forward direction datagram destination] := by
  unfold replace
  split
  · next h =>
    rw [h] at hroute
    cases hroute
  · next h =>
    rw [h] at hroute
    cases hroute
    rfl

/-- So is what it does about a datagram that takes the place of a dropped one. -/
theorem treats_replace (arrival : Arrival) (phase : relay.phase = .replacing arrival.direction)
    (known : (relay.standing.destination? relay.serverAddress arrival.direction).isSome) :
    let result := relay.replace arrival.direction arrival.source arrival.payload
    Treats relay.serverAddress relay.standing arrival none (result.2 ++ result.1.phase.owed)
      result.1.standing := by
  intro result
  have missing : relay.standing.missing = some arrival.direction := congrArg Phase.missing phase
  obtain ⟨destination, routed⟩ :=
    Option.isSome_iff_exists.mp (Standing.isSome_destination?_learn known)
  have hsent : result.2 = [.forward arrival.direction arrival.payload destination] :=
    replace_snd ((route_snd ..).trans routed)
  have hstanding : result.1.standing = { relay.standing.learn arrival with missing := none } := by
    rw [← standing_route]
    exact congrArg standing (replace_fst ..)
  have howed : result.1.phase.owed = [] := congrArg (fun relay ↦ relay.phase.owed) (replace_fst ..)
  rw [hsent, hstanding, howed, List.append_nil]
  exact .replacement missing routed

/-! ## What a move does -/

/-- A datagram, if it is one, as it came in on a side. -/
def arrival? (direction : Direction) : Reception → Option Arrival
  | .datagram source payload => some ⟨direction, source, payload⟩
  | .error _ => none

/-- What a relay takes of it with such a buffer. -/
def Arrival.cut (buffer : Nat) (arrival : Arrival) : Arrival :=
  { arrival with payload := arrival.payload.take buffer }

/-- The datagrams of one side that were not dealt with yet. -/
def unread (relay : Relay) (direction : Direction) : List Arrival :=
  (relay.inbox direction).filterMap (arrival? direction)

def ofSide (direction : Direction) (arrivals : List Arrival) : List Arrival :=
  arrivals.filter (·.direction = direction)

/-- No datagram that has come in is longer than what the relay takes of it. -/
def IsShort (relay : Relay) : Prop :=
  ∀ direction, ∀ arrival ∈ relay.unread direction, arrival.payload.length ≤ relay.buffer

@[simp]
theorem ofSide_append (front back : List Arrival) :
    ofSide direction (front ++ back) = ofSide direction front ++ ofSide direction back :=
  List.filter_append ..

theorem unread_eq {reception : Reception} {others : List Reception}
    (first : relay.inbox direction = reception :: others)
    (rest : next.inbox = (relay.withInbox others direction).inbox) (side : Direction) :
    relay.unread side =
      ofSide side (arrival? direction reception).toList ++ next.unread side := by
  unfold unread
  rw [rest, inbox_withInbox]
  split
  · next hside =>
    rw [hside, first]
    cases reception with
    | datagram source payload => simp [arrival?, ofSide]
    | error error => exact List.filterMap_cons_none rfl
  · next hside =>
    cases reception with
    | datagram source payload => simp [arrival?, ofSide, Ne.symm hside]
    | error error => simp [arrival?, ofSide]

theorem unread_enqueue (socket : SocketAddress) (reception : Reception) (side : Direction) :
    (relay.enqueue socket reception).unread side =
      relay.unread side ++ ofSide side (arrival? (relay.side socket) reception).toList := by
  unfold unread
  rw [enqueue_eq, inbox_withInbox]
  split
  · next hside =>
    rw [hside, List.filterMap_append]
    cases reception with
    | datagram source payload => simp [arrival?, ofSide]
    | error error => rfl
  · next hside =>
    cases reception with
    | datagram source payload => simp [arrival?, ofSide, Ne.symm hside]
    | error error => exact (List.append_nil _).symm

theorem owed_of_awaits (awaits : relay.Awaits direction) : relay.phase.owed = [] := by
  rcases awaits with phase | phase
  · rw [phase]
    rfl
  · rw [phase]
    rfl

/-- What is entered into the books for a move: the datagrams that it deals with are treated as they
should be, what it sends and what it leaves to be sent is what is entered for them, and they were the
next ones of their sides. Of each the relay has taken what fits into its buffer. -/
structure Enters (relay next : Relay) (emissions : List Emission) (dealt : List Arrival)
    (record : List Handling) : Prop where
  books : Books relay.serverAddress relay.standing record next.standing
  taken : record.map Handling.arrival = dealt.map (Arrival.cut relay.buffer)
  sends : emissions ++ next.phase.owed = relay.phase.owed ++ record.flatMap Handling.emissions
  in_order : ∀ direction,
    relay.unread direction = ofSide direction dealt ++ next.unread direction

theorem enters_of_treats {arrival : Arrival} {taken : Option Alteration} {others : List Reception}
    (treats : Treats relay.serverAddress relay.standing (arrival.cut relay.buffer) taken
      (emissions ++ next.phase.owed) next.standing)
    (awaits : relay.Awaits arrival.direction)
    (first : relay.inbox arrival.direction = .datagram arrival.source arrival.payload :: others)
    (rest : next.inbox = (relay.withInbox others arrival.direction).inbox) :
    relay.Enters next emissions [arrival]
      [⟨arrival.cut relay.buffer, taken, emissions ++ next.phase.owed⟩] where
  books := .entered .opened treats
  taken := rfl
  sends := by rw [owed_of_awaits awaits, List.nil_append, List.flatMap_singleton]
  in_order := unread_eq first rest

theorem Moves.exists_enters (move : relay.Moves now since (.goesOn next emissions))
    (known : ∀ direction, relay.standing.missing = some direction →
      (relay.standing.destination? relay.serverAddress direction).isSome) :
    ∃ dealt record, relay.Enters next emissions dealt record := by
  cases move with
  | @ignores direction error others awaits first bounce =>
    refine ⟨[], [], ?_, rfl, ?_, unread_eq first rfl⟩
    · rw [standing_withInbox]
      exact .opened
    · rw [phase_withInbox, owed_of_awaits awaits]
      rfl
  | @relays direction source payload others phase first =>
    obtain ⟨taken, treats⟩ := treats_relay ((phase_withInbox others).trans phase)
      (Arrival.cut relay.buffer ⟨direction, source, payload⟩) now since
    rw [serverAddress_withInbox, standing_withInbox] at treats
    exact ⟨_, _, enters_of_treats treats (.inl phase) first (keeps_relay ..).inbox⟩
  | @replaces direction source payload others phase first =>
    -- A replacement is never without a destination: the dropped datagram had one.
    have routed := known direction (congrArg Phase.missing phase)
    rw [← serverAddress_withInbox others, ← standing_withInbox others] at routed
    have treats := treats_replace (Arrival.cut relay.buffer ⟨direction, source, payload⟩)
      ((phase_withInbox others).trans phase) routed
    rw [serverAddress_withInbox, standing_withInbox] at treats
    exact ⟨_, _, enters_of_treats treats (.inr phase) first (keeps_replace ..).inbox⟩
  | @disposes deadline job phase due =>
    have hmissing : job.missing = relay.standing.missing := (congrArg Phase.missing phase).symm
    refine ⟨[], [], ?_, rfl, ?_, ?_⟩
    · rw [standing_dispose, hmissing]
      exact .opened
    · rw [dispose_owed, phase]
      exact (List.append_nil _).symm
    · intro direction
      rw [unread, unread, (keeps_dispose ..).inbox]
      rfl
  | repeats phase due =>
    have hmissing : relay.standing.missing = none := congrArg Phase.missing phase
    refine ⟨[], [], ?_, rfl, ?_, ?_⟩
    · change Books _ _ _ ⟨relay.client, relay.serverTid, relay.queue.waiting, none⟩
      rw [← hmissing]
      exact .opened
    · rw [phase]
      rfl
    · intro direction
      rfl

/-- Short datagrams are entered as they came in. -/
theorem Enters.map_arrival {dealt : List Arrival} {record : List Handling}
    (enters : relay.Enters next emissions dealt record) (short : relay.IsShort) :
    record.map Handling.arrival = dealt := by
  have hcut : ∀ arrival ∈ dealt, arrival.cut relay.buffer = id arrival := by
    intro arrival h
    have hunread : arrival ∈ relay.unread arrival.direction := by
      rw [enters.in_order]
      exact List.mem_append_left _ (List.mem_filter.mpr ⟨h, decide_eq_true rfl⟩)
    unfold Arrival.cut
    rw [List.take_of_length_le (short _ arrival hunread)]
    rfl
  rw [enters.taken, List.map_congr_left hcut, List.map_id]

/-! ## What is sent -/

/-- The departure is how this emission leaves the relay: through the socket of its side, or through
one that was opened for it. -/
inductive Carries (relay : Relay) : Emission → Departure → Prop
  | forward (direction : Direction) (payload : Bytes) (destination : SocketAddress) :
      Carries relay (.forward direction payload destination)
        ⟨relay.outbound direction, destination, payload⟩
  | disguised (alteration : Alteration) (direction : Direction) (payload : Bytes)
      (destination socket : SocketAddress) :
      Carries relay (.disguised alteration direction payload destination)
        ⟨socket, destination, payload⟩

theorem carries_congr (h : next.setup = relay.setup) : next.Carries = relay.Carries := by
  funext emission departure
  apply propext
  constructor
  · intro carries
    cases carries with
    | forward => exact outbound_eq_of_setup h ▸ .forward ..
    | disguised => exact .disguised ..
  · intro carries
    cases carries with
    | forward => exact outbound_eq_of_setup h ▸ .forward ..
    | disguised => exact .disguised ..

variable {talk : Talk}

/-- If nothing fails, an emission is sent exactly once. -/
theorem exists_departure {emission : Emission} (leads : (relay.emit emission).Leads talk ())
    (flawless : ∀ exchange ∈ talk, IsFlawless exchange) :
    ∃ departure, departures talk = [departure] ∧ relay.Carries emission departure := by
  cases emission with
  | forward direction payload destination =>
    obtain ⟨_, _, rfl, hdone⟩ := leads_ask_iff.mp leads
    obtain ⟨rfl, -⟩ := leads_done_iff.mp hdone
    exact ⟨_, rfl, .forward direction payload destination⟩
  | disguised alteration direction payload destination =>
    obtain ⟨bound, _, rfl, hbound⟩ := leads_ask_iff.mp leads
    cases bound with
    | error error =>
      have hfails := flawless _ List.mem_cons_self
      cases hfails
    | ok socket =>
      obtain ⟨_, _, rfl, hsent⟩ := leads_ask_iff.mp hbound
      obtain ⟨_, _, rfl, hclosed⟩ := leads_ask_iff.mp hsent
      obtain ⟨rfl, -⟩ := leads_done_iff.mp hclosed
      exact ⟨_, rfl, .disguised alteration direction payload destination socket⟩

theorem carries_departures (leads : (relay.emitAll emissions).Leads talk ())
    (flawless : ∀ exchange ∈ talk, IsFlawless exchange) :
    List.Forall₂ relay.Carries emissions (departures talk) := by
  induction emissions generalizing talk with
  | nil =>
    obtain ⟨rfl, -⟩ := leads_done_iff.mp leads
    exact .nil
  | cons emission others ih =>
    obtain ⟨front, _, back, rfl, hfront, hback⟩ := leads_bind_iff.mp leads
    obtain ⟨departure, hdeparture, carries⟩ := exists_departure hfront
      fun exchange hexchange ↦ flawless exchange (List.mem_append_left _ hexchange)
    rw [departures_append, hdeparture]
    apply List.Forall₂.cons carries
    apply ih hback
    intro exchange hexchange
    exact flawless exchange (List.mem_append_right _ hexchange)

/-! ## Runs -/

variable {start : Relay} {received : List Arrival} {sent : List Departure} {rest : Rest}
  {record : List Handling}

/-- The books explain what has come in and what was sent. -/
structure Accounted (start : Relay) (received : List Arrival) (sent : List Departure)
    (relay : Relay) (record : List Handling) : Prop where
  setup : relay.setup = start.setup
  books : Books start.serverAddress start.standing record relay.standing
  /-- Each side was dealt with in order, and nothing was passed over. -/
  in_order : ∀ direction, ofSide direction received =
    ofSide direction (record.map Handling.arrival) ++ relay.unread direction
  /-- Everything that was to be sent was sent, in the order of the books, but for what is still
  owed. -/
  sends : ∃ emitted, emitted ++ relay.phase.owed = record.flatMap Handling.emissions ∧
    List.Forall₂ start.Carries emitted sent

namespace Rest

/-- The relay as it is, or as it was when it stopped. -/
def ComesFrom (relay : Relay) : Rest → Prop
  | .waiting next => next = relay
  | .stopped queue _ => queue = relay.queue ∧ relay.phase.owed = []

/-- The alterations that were not used up. -/
def unused : Rest → List Alteration
  | .waiting relay => relay.queue.waiting
  | .stopped queue _ => queue.waiting

theorem ComesFrom.unused_eq (h : rest.ComesFrom relay) : rest.unused = relay.queue.waiting := by
  cases rest with
  | waiting next => exact congrArg (fun relay ↦ relay.queue.waiting) h
  | stopped queue outcome => exact congrArg AlterationQueue.waiting h.1

end Rest

theorem Runs.short (run : Runs start received sent rest) :
    ∀ arrival ∈ received, arrival.payload.length ≤ start.buffer := by
  induction run with
  | begun => exact fun arrival h ↦ absurd h List.not_mem_nil
  | arrives run socket source short ih =>
    intro arrival h
    rcases List.mem_append.mp h with h | h
    · exact ih arrival h
    · cases List.mem_singleton.mp h
      exact short
  | errs run socket error ih => exact ih
  | told run isStopping ih => exact ih
  | moves run move leads flawless ih => exact ih
  | stops run move ih => exact ih

theorem IsFresh.accounted (fresh : start.IsFresh) : Accounted start [] [] start [] where
  setup := rfl
  books := .opened
  in_order := by
    intro direction
    rw [unread, fresh.inbox]
    rfl
  sends := by
    refine ⟨[], ?_, .nil⟩
    rw [fresh.phase]
    rfl

namespace Accounted

theorem isShort (accounted : Accounted start received sent relay record)
    (short : ∀ arrival ∈ received, arrival.payload.length ≤ start.buffer) : relay.IsShort := by
  intro direction arrival h
  have hside : arrival ∈ ofSide direction received := by
    rw [accounted.in_order]
    exact List.mem_append_right _ h
  have hbuffer : relay.buffer = start.buffer := congrArg Setup.buffer accounted.setup
  rw [hbuffer]
  exact short arrival (List.mem_of_mem_filter hside)

/-- What comes in waits behind what came in from its side before. -/
theorem enqueue (accounted : Accounted start received sent relay record) (socket : SocketAddress)
    (reception : Reception) :
    Accounted start (received ++ (arrival? (relay.side socket) reception).toList) sent
      (relay.enqueue socket reception) record where
  setup := by
    rw [enqueue_eq, setup_withInbox]
    exact accounted.setup
  books := by
    rw [enqueue_eq, standing_withInbox]
    exact accounted.books
  in_order := by
    intro direction
    rw [ofSide_append, accounted.in_order, unread_enqueue, List.append_assoc]
  sends := by
    rw [enqueue_eq, phase_withInbox]
    exact accounted.sends

/-- The books are continued by what a move deals with. -/
theorem move (accounted : Accounted start received sent relay record)
    (calm : start.standing.missing = none)
    (short : ∀ arrival ∈ received, arrival.payload.length ≤ start.buffer)
    (move : relay.Moves now since (.goesOn next emissions))
    (leads : (relay.emitAll emissions).Leads talk ())
    (flawless : ∀ exchange ∈ talk, IsFlawless exchange) :
    ∃ record, Accounted start received (sent ++ departures talk) next record := by
  have haddress : relay.serverAddress = start.serverAddress :=
    congrArg Setup.serverAddress accounted.setup
  obtain ⟨dealt, added, enters⟩ := move.exists_enters (by
    rw [haddress]
    exact fun _ ↦ accounted.books.isSome_destination? calm)
  have hread := enters.in_order
  rw [← enters.map_arrival (accounted.isShort short)] at hread
  have books := enters.books
  rw [haddress] at books
  refine ⟨record ++ added, move.setup_eq.trans accounted.setup, accounted.books.append books,
    ?_, ?_⟩
  · intro direction
    rw [accounted.in_order, hread, List.map_append, ofSide_append, List.append_assoc]
  · obtain ⟨emitted, howed, hsent⟩ := accounted.sends
    refine ⟨emitted ++ emissions, ?_, ?_⟩
    · calc emitted ++ emissions ++ next.phase.owed
        _ = emitted ++ (relay.phase.owed ++ added.flatMap Handling.emissions) := by
          rw [List.append_assoc, enters.sends]
        _ = record.flatMap Handling.emissions ++ added.flatMap Handling.emissions := by
          rw [← List.append_assoc, howed]
        _ = (record ++ added).flatMap Handling.emissions := List.flatMap_append.symm
    · apply List.rel_append hsent
      rw [← carries_congr accounted.setup]
      exact carries_departures leads flawless

end Accounted

theorem owed_of_stops {outcome : Except Failure Unit}
    (move : relay.Moves now since (.stops outcome)) : relay.phase.owed = [] := by
  cases move with
  | stops awaits told => exact owed_of_awaits awaits
  | fails awaits first fatal => exact owed_of_awaits awaits

theorem Runs.exists_accounted (fresh : start.IsFresh) (run : Runs start received sent rest) :
    ∃ relay record, rest.ComesFrom relay ∧ Accounted start received sent relay record := by
  induction run with
  | begun => exact ⟨start, [], rfl, fresh.accounted⟩
  | arrives run socket source short ih =>
    obtain ⟨_, record, rfl, accounted⟩ := ih
    exact ⟨_, record, rfl, accounted.enqueue socket (.datagram source _)⟩
  | @errs received sent relay run socket error ih =>
    obtain ⟨_, record, rfl, accounted⟩ := ih
    have := accounted.enqueue socket (.error error)
    rw [arrival?, Option.toList_none, List.append_nil] at this
    exact ⟨_, record, rfl, this⟩
  | told run isStopping ih =>
    obtain ⟨_, record, rfl, accounted⟩ := ih
    exact ⟨_, record, rfl, accounted.setup, accounted.books, accounted.in_order, accounted.sends⟩
  | moves run move leads flawless ih =>
    obtain ⟨_, record, rfl, accounted⟩ := ih
    obtain ⟨record, accounted⟩ := accounted.move (congrArg Phase.missing fresh.phase) run.short move
      leads flawless
    exact ⟨_, record, rfl, accounted⟩
  | stops run move ih =>
    obtain ⟨_, record, rfl, accounted⟩ := ih
    exact ⟨_, record, ⟨rfl, owed_of_stops move⟩, accounted⟩

/-- Whichever side a relay turns to first, its books explain what it has sent and what is left of
its queue, and what it does on a host is explained by them as well, up to where it has to wait. -/
theorem accounts_of_runs (fresh : start.IsFresh) (run : Runs start received sent rest) :
    (∃ relay record, rest.ComesFrom relay ∧ Accounted start received sent relay record ∧
      start.queue.waiting = record.filterMap Handling.taken ++ rest.unused) ∧
    ∀ relay, rest = .waiting relay → ∀ now since talk after,
      (relay.run now since).Leads talk after → (∀ exchange ∈ talk, IsFlawless exchange) →
      Runs start received (sent ++ departures talk) after ∧ after.IsSettled now since := by
  constructor
  · obtain ⟨relay, record, comes, accounted⟩ := run.exists_accounted fresh
    refine ⟨relay, record, comes, accounted, ?_⟩
    rw [comes.unused_eq]
    exact accounted.books.queue_eq
  · rintro relay rfl now since talk after leads flawless
    exact run.run leads flawless

/-- An acknowledgment is dropped, and when it is repeated it goes through. -/
theorem accounts_of_runs_drop :
    let start : Relay := {
      clientSocket := { ip := .localhost .four, port := 2300 }
      serverSocket := { ip := .localhost .four, port := 2301 }
      serverAddress := { ip := .localhost .four, port := 6900 }
      buffer := 1500
      queue := .ofList [{ direction := .clientToServer, target := .block 1, drop := true }] }
    let arrival : Arrival :=
      ⟨.clientToServer, { ip := .localhost .four, port := 5000 }, Packet.encodeAck 1⟩
    let departure : Departure :=
      ⟨start.serverSocket, start.serverAddress, Packet.encodeAck 1⟩
    start.IsFresh ∧ ∃ rest, Runs start [arrival, arrival] [departure] rest ∧
      ∃ relay record, rest.ComesFrom relay ∧
        Accounted start [arrival, arrival] [departure] relay record ∧
        start.queue.waiting = record.filterMap Handling.taken ++ rest.unused := by
  rw [AlterationQueue.ofList_singleton]
  intro start arrival departure
  let dropping : Relay :=
    { start with
      queue := { nextNumber := 1 }
      client := some arrival.source
      phase := .replacing .clientToServer }
  have fresh : start.IsFresh := ⟨rfl, rfl, fun direction ↦ by cases direction <;> rfl, rfl⟩
  have short : arrival.payload.length ≤ start.buffer := by decide
  -- Nothing is sent about the first one.
  have loses :
      ((start.enqueue start.clientSocket (.datagram arrival.source arrival.payload)).run 0 0).Leads
        [] (.waiting dropping) :=
    leads_done_iff.mpr ⟨rfl, rfl⟩
  have dropped : Runs start [arrival] [] (.waiting dropping) := by
    apply And.left
    exact (Runs.arrives .begun start.clientSocket arrival.source short).run loses (by simp)
  have repeats :
      ((dropping.enqueue start.clientSocket (.datagram arrival.source arrival.payload)).run 0
        0).Leads [⟨.send departure.socket departure.destination departure.payload, .ok ()⟩]
        (.waiting { dropping with phase := .listening }) :=
    leads_ask_iff.mpr ⟨_, _, rfl, leads_done_iff.mpr ⟨rfl, rfl⟩⟩
  have repeated : Runs start [arrival, arrival] [departure]
      (.waiting { dropping with phase := .listening }) := by
    apply And.left
    apply (dropped.arrives start.clientSocket arrival.source short).run repeats
    simp [IsFlawless, Except.isOk, Except.toBool]
  exact ⟨fresh, _, repeated, (accounts_of_runs fresh repeated).1⟩

end Relay

end Lockstep
