import Lockstep.Proofs.Histories
import Lockstep.Relay

/-!
# Runs of a relay

A relay can have something to receive on both sides at once, and it may then begin with either of
them. A run takes one possible move after the other, while datagrams and errors come in and somebody
may tell the relay to stop. What the relay does on a host, where it always begins with the client,
is a run as well, and it waits only when there is nothing that it could do.
-/

namespace Lockstep.Relay

open Dialogue

variable {relay next rest : Relay} {direction : Direction} {reception : Reception}
  {emissions : List Emission} {now since : Nat}

/-! ## Traffic -/

/-- A datagram that came in at the socket of one side. -/
structure Arrival where
  direction : Direction
  source : SocketAddress
  payload : Bytes
deriving DecidableEq, Repr

/-- A datagram that was sent. -/
structure Departure where
  socket : SocketAddress
  destination : SocketAddress
  payload : Bytes
deriving DecidableEq, Repr

/-- What a relay asked of its host, with the answers. -/
abbrev Talk := List (Sigma Call.Reply)

/-- Sending and opening a socket succeed. -/
def IsFlawless : Sigma Call.Reply → Prop
  | ⟨.send _ _ _, reply⟩ => reply.isOk
  | ⟨.bind _, reply⟩ => reply.isOk
  | _ => True

def departure? : Sigma Call.Reply → Option Departure
  | ⟨.send socket destination payload, _⟩ => some ⟨socket, destination, payload⟩
  | _ => none

def departures (talk : Talk) : List Departure :=
  talk.filterMap departure?

@[simp]
theorem departures_nil : departures [] = [] :=
  rfl

@[simp]
theorem departures_append (front back : Talk) :
    departures (front ++ back) = departures front ++ departures back :=
  List.filterMap_append

/-! ## Both sides -/

/-- What has come in from one side and was not dealt with yet. -/
def inbox (relay : Relay) : Direction → List Reception
  | .clientToServer => relay.fromClient
  | .serverToClient => relay.fromServer

def withInbox (relay : Relay) (receptions : List Reception) : Direction → Relay
  | .clientToServer => { relay with fromClient := receptions }
  | .serverToClient => { relay with fromServer := receptions }

/-- The side that a socket belongs to. -/
def side (relay : Relay) (socket : SocketAddress) : Direction :=
  if socket = relay.clientSocket then .clientToServer else .serverToClient

/-- What never changes about a relay. -/
structure Setup where
  clientSocket : SocketAddress
  serverSocket : SocketAddress
  serverAddress : SocketAddress
  buffer : Nat

def setup (relay : Relay) : Setup :=
  ⟨relay.clientSocket, relay.serverSocket, relay.serverAddress, relay.buffer⟩

theorem outbound_eq_of_setup (h : next.setup = relay.setup) : next.outbound = relay.outbound := by
  obtain ⟨hclient, hserver, -, -⟩ := Setup.mk.inj h
  funext direction
  cases direction with
  | clientToServer => exact hserver
  | serverToClient => exact hclient

@[simp]
theorem inbox_withInbox (receptions : List Reception) (side : Direction) :
    (relay.withInbox receptions direction).inbox side =
      if side = direction then receptions else relay.inbox side := by
  cases direction <;> cases side <;> rfl

@[simp]
theorem setup_withInbox (receptions : List Reception) :
    (relay.withInbox receptions direction).setup = relay.setup := by
  cases direction <;> rfl

@[simp]
theorem buffer_withInbox (receptions : List Reception) :
    (relay.withInbox receptions direction).buffer = relay.buffer := by
  cases direction <;> rfl

@[simp]
theorem serverAddress_withInbox (receptions : List Reception) :
    (relay.withInbox receptions direction).serverAddress = relay.serverAddress := by
  cases direction <;> rfl

@[simp]
theorem phase_withInbox (receptions : List Reception) :
    (relay.withInbox receptions direction).phase = relay.phase := by
  cases direction <;> rfl

theorem enqueue_eq (socket : SocketAddress) :
    relay.enqueue socket reception =
      relay.withInbox (relay.inbox (relay.side socket) ++ [reception]) (relay.side socket) := by
  unfold enqueue side
  split <;> rfl

theorem nextFrom?_eq_some_iff :
    relay.nextFrom? direction = some (reception, rest) ↔
      ∃ others, relay.inbox direction = reception :: others ∧
        rest = relay.withInbox others direction := by
  cases direction with
  | clientToServer =>
    cases hinbox : relay.fromClient with
    | nil => simp [nextFrom?, inbox, hinbox]
    | cons first others => simp [nextFrom?, inbox, withInbox, hinbox, and_assoc, eq_comm]
  | serverToClient =>
    cases hinbox : relay.fromServer with
    | nil => simp [nextFrom?, inbox, hinbox]
    | cons first others => simp [nextFrom?, inbox, withInbox, hinbox, and_assoc, eq_comm]

/-! ## One datagram -/

/-- Nothing has changed but what the relay knows, what it is to alter and what it waits for. -/
structure Keeps (relay next : Relay) : Prop where
  setup : next.setup = relay.setup
  inbox : next.inbox = relay.inbox

theorem Keeps.trans {middle : Relay} (first : relay.Keeps middle) (second : middle.Keeps next) :
    relay.Keeps next where
  setup := second.setup.trans first.setup
  inbox := second.inbox.trans first.inbox

section

variable (relay : Relay) (direction : Direction) (source : SocketAddress) (datagram : Bytes)
  (job : Job) (now since : Nat)

theorem keeps_route : relay.Keeps (relay.route direction source datagram).1 := by
  unfold route
  repeat' split
  all_goals exact ⟨rfl, rfl⟩

theorem keeps_dispose : relay.Keeps (relay.dispose job now since).1 := by
  unfold dispose
  repeat' split
  all_goals exact ⟨rfl, rfl⟩

theorem keeps_relay : relay.Keeps (relay.relay direction source datagram now since).1 := by
  have learned := keeps_route relay direction source datagram
  unfold Relay.relay
  split
  · next hroute =>
    rw [hroute] at learned
    exact learned
  · next knowing destination hroute =>
    rw [hroute] at learned
    split
    · exact learned
    · next alteration queue htake =>
      have altering : relay.Keeps { knowing with queue } := ⟨learned.setup, learned.inbox⟩
      split
      · exact ⟨altering.setup, altering.inbox⟩
      · exact altering.trans (keeps_dispose ..)

theorem replace_fst :
    (relay.replace direction source datagram).1 =
      { (relay.route direction source datagram).1 with phase := .listening } := by
  unfold replace
  split
  · next hroute => rw [hroute]
  · next hroute => rw [hroute]

theorem keeps_replace : relay.Keeps (relay.replace direction source datagram).1 := by
  have learned := keeps_route relay direction source datagram
  rw [replace_fst]
  exact ⟨learned.setup, learned.inbox⟩

end

/-! ## Moves -/

/-- The relay waits for what comes next from this side. -/
def Awaits (relay : Relay) (direction : Direction) : Prop :=
  relay.phase = .listening ∨ relay.phase = .replacing direction

/-- What a relay can do at a time. While it listens it can begin with either side, and it may
overlook for a while that it was told to stop. -/
inductive Moves (now since : Nat) (relay : Relay) : Step → Prop
  | stops {direction : Direction} (awaits : relay.Awaits direction)
      (told : relay.isStopping = true) : Moves now since relay (.stops (.ok ()))
  | fails {direction : Direction} {error : SystemError} {others : List Reception}
      (awaits : relay.Awaits direction) (first : relay.inbox direction = .error error :: others)
      (fatal : error.isBounce = false) :
      Moves now since relay (.stops (.error (.ofSystem "Relay receive failed" error)))
  | ignores {direction : Direction} {error : SystemError} {others : List Reception}
      (awaits : relay.Awaits direction) (first : relay.inbox direction = .error error :: others)
      (bounce : error.isBounce = true) :
      Moves now since relay (.goesOn (relay.withInbox others direction) [])
  | relays {direction : Direction} {source : SocketAddress} {payload : Bytes}
      {others : List Reception} (phase : relay.phase = .listening)
      (first : relay.inbox direction = .datagram source payload :: others) :
      Moves now since relay (.goesOn
        ((relay.withInbox others direction).relay direction source (payload.take relay.buffer)
          now since).1
        ((relay.withInbox others direction).relay direction source (payload.take relay.buffer)
          now since).2)
  | replaces {direction : Direction} {source : SocketAddress} {payload : Bytes}
      {others : List Reception} (phase : relay.phase = .replacing direction)
      (first : relay.inbox direction = .datagram source payload :: others) :
      Moves now since relay (.goesOn
        ((relay.withInbox others direction).replace direction source
          (payload.take relay.buffer)).1
        ((relay.withInbox others direction).replace direction source
          (payload.take relay.buffer)).2)
  | disposes {deadline : Nat} {job : Job} (phase : relay.phase = .delaying deadline job)
      (due : deadline ≤ now) :
      Moves now since relay
        (.goesOn (relay.dispose job now since).1 (relay.dispose job now since).2)
  | repeats {deadline : Nat} {job : Job} (phase : relay.phase = .repeating deadline job)
      (due : deadline ≤ now) :
      Moves now since relay (.goesOn { relay with phase := .listening } [job.emission])

/-- To receive is a move if what is done about a datagram is one. -/
theorem moves_receive (awaits : relay.Awaits direction)
    (first : relay.nextFrom? direction = some (reception, rest))
    {handle : Relay → SocketAddress → Bytes → Relay × List Emission}
    (handles : ∀ {source payload others},
      relay.inbox direction = .datagram source payload :: others →
      relay.Moves now since (.goesOn
        (handle (relay.withInbox others direction) source (payload.take relay.buffer)).1
        (handle (relay.withInbox others direction) source (payload.take relay.buffer)).2)) :
    relay.Moves now since (rest.receive reception handle) := by
  obtain ⟨others, hinbox, rfl⟩ := nextFrom?_eq_some_iff.mp first
  cases reception with
  | datagram source payload =>
    rw [receive, buffer_withInbox]
    exact handles hinbox
  | error error =>
    cases hbounce : error.isBounce with
    | true =>
      rw [receive, if_pos hbounce]
      exact .ignores awaits hinbox hbounce
    | false =>
      rw [receive, hbounce, if_neg Bool.false_ne_true]
      exact .fails awaits hinbox hbounce

/-- A relay on a host makes one of its moves, if there is one to make. -/
theorem moves_step (relay : Relay) (now since : Nat) :
    relay.step now since = .waits ∨ relay.Moves now since (relay.step now since) := by
  have takes {direction reception rest} (phase : relay.phase = .listening)
      (first : relay.nextFrom? direction = some (reception, rest)) :
      relay.Moves now since (rest.receive reception fun relay source datagram ↦
        relay.relay direction source datagram now since) :=
    moves_receive (.inl phase) first (.relays phase)
  unfold step
  split
  · next phase =>
    split
    · next told =>
      have awaits : relay.Awaits .clientToServer := .inl phase
      exact .inr (.stops awaits told)
    · split
      · next first => exact .inr (takes phase first)
      · split
        · next first => exact .inr (takes phase first)
        · exact .inl rfl
  · next phase =>
    split
    · next due => exact .inr (.disposes phase due)
    · exact .inl rfl
  · next phase =>
    split
    · next told => exact .inr (.stops (.inr phase) told)
    · split
      · next first => exact .inr (moves_receive (.inr phase) first (.replaces phase))
      · exact .inl rfl
  · next phase =>
    split
    · next due => exact .inr (.repeats phase due)
    · exact .inl rfl

/-! ## Progress -/

theorem work_eq (relay : Relay) :
    relay.work = 3 * ((relay.inbox .clientToServer).length + (relay.inbox .serverToClient).length)
      + relay.phase.weight + 1 :=
  rfl

theorem Phase.weight_le (phase : Phase) : phase.weight ≤ 2 := by
  cases phase <;> simp [weight]

theorem weight_dispose_le {job : Job} : (relay.dispose job now since).1.phase.weight ≤ 1 := by
  unfold dispose
  repeat' split
  all_goals simp [Phase.weight]

/-- Every move that goes on leaves less to do. -/
theorem Moves.work_lt (move : relay.Moves now since (.goesOn next emissions)) :
    next.work < relay.work := by
  -- One reception less outweighs any phase that it may lead to.
  have takes {direction reception others} (first : relay.inbox direction = reception :: others)
      (rest : next.inbox = (relay.withInbox others direction).inbox) :
      next.work < relay.work := by
    have hweight := next.phase.weight_le
    rw [work_eq, work_eq, rest]
    cases direction <;> simp [first] <;> omega
  cases move with
  | ignores awaits first bounce => exact takes first rfl
  | relays phase first => exact takes first (keeps_relay ..).inbox
  | replaces phase first => exact takes first (keeps_replace ..).inbox
  | disposes phase due =>
    rw [work_eq, work_eq, (keeps_dispose ..).inbox, phase]
    exact Nat.succ_lt_succ (Nat.add_lt_add_left (Nat.lt_succ_of_le weight_dispose_le) _)
  | repeats phase due =>
    rw [work_eq, work_eq, phase]
    exact Nat.lt_succ_self _

theorem Moves.setup_eq (move : relay.Moves now since (.goesOn next emissions)) :
    next.setup = relay.setup := by
  cases move with
  | ignores awaits first bounce => exact setup_withInbox _
  | relays phase first => exact (keeps_relay ..).setup.trans (setup_withInbox _)
  | replaces phase first => exact (keeps_replace ..).setup.trans (setup_withInbox _)
  | disposes phase due => exact (keeps_dispose ..).setup
  | repeats phase due => rfl

/-- The relay has stopped, or it has to wait. -/
def Rest.IsSettled (now since : Nat) : Rest → Prop
  | .waiting relay => relay.step now since = .waits
  | .stopped .. => True

theorem isSettled_advance {fuel : Nat} (enough : relay.work ≤ fuel) :
    (relay.advance now since fuel).1.IsSettled now since := by
  induction fuel generalizing relay with
  | zero => exact absurd enough (Nat.not_succ_le_zero _)
  | succ fuel ih =>
    rw [advance]
    split
    · next waits => exact waits
    · exact trivial
    · next next emissions goesOn =>
      apply ih
      have move := moves_step relay now since
      rw [goesOn] at move
      have less := (move.resolve_left Step.noConfusion).work_lt
      exact Nat.le_of_lt_succ (Nat.lt_of_lt_of_le less enough)

/-- By one move after the other the relay can come to `rest`, and these are the datagrams that it
then has to send. -/
inductive MovesTo (now since : Nat) : Relay → List Emission → Rest → Prop
  | rests (relay : Relay) : MovesTo now since relay [] (.waiting relay)
  | stops {relay : Relay} {outcome : Except Failure Unit}
      (move : relay.Moves now since (.stops outcome)) :
      MovesTo now since relay [] (.stopped relay.queue outcome)
  | goesOn {relay next : Relay} {emissions later : List Emission} {rest : Rest}
      (move : relay.Moves now since (.goesOn next emissions))
      (onward : MovesTo now since next later rest) :
      MovesTo now since relay (emissions ++ later) rest

/-- The steps that a relay takes one after the other on a host are such moves. -/
theorem movesTo_advance (fuel : Nat) :
    MovesTo now since relay (relay.advance now since fuel).2 (relay.advance now since fuel).1 := by
  induction fuel generalizing relay with
  | zero => exact .rests relay
  | succ fuel ih =>
    have move := moves_step relay now since
    rw [advance]
    split
    · exact .rests relay
    · next outcome stops =>
      rw [stops] at move
      exact .stops (move.resolve_left Step.noConfusion)
    · next next emissions goesOn =>
      rw [goesOn] at move
      exact .goesOn (move.resolve_left Step.noConfusion) ih

/-! ## Runs -/

/-- Beginning as `start` the relay has come to `rest`, when these datagrams had come in and these
had been sent. -/
inductive Runs (start : Relay) : List Arrival → List Departure → Rest → Prop
  | begun : Runs start [] [] (.waiting start)
  | arrives {received : List Arrival} {sent : List Departure} {relay : Relay}
      (run : Runs start received sent (.waiting relay)) (socket source : SocketAddress)
      {payload : Bytes} (short : payload.length ≤ start.buffer) :
      Runs start (received ++ [⟨relay.side socket, source, payload⟩]) sent
        (.waiting (relay.enqueue socket (.datagram source payload)))
  | errs {received : List Arrival} {sent : List Departure} {relay : Relay}
      (run : Runs start received sent (.waiting relay)) (socket : SocketAddress)
      (error : SystemError) :
      Runs start received sent (.waiting (relay.enqueue socket (.error error)))
  | told {received : List Arrival} {sent : List Departure} {relay : Relay}
      (run : Runs start received sent (.waiting relay)) (isStopping : Bool) :
      Runs start received sent (.waiting { relay with isStopping })
  | moves {received : List Arrival} {sent : List Departure} {relay next : Relay}
      {emissions : List Emission} {now since : Nat} {talk : Talk}
      (run : Runs start received sent (.waiting relay))
      (move : relay.Moves now since (.goesOn next emissions))
      (leads : (relay.emitAll emissions).Leads talk ())
      (flawless : ∀ exchange ∈ talk, IsFlawless exchange) :
      Runs start received (sent ++ departures talk) (.waiting next)
  | stops {received : List Arrival} {sent : List Departure} {relay : Relay}
      {outcome : Except Failure Unit} {now since : Nat}
      (run : Runs start received sent (.waiting relay))
      (move : relay.Moves now since (.stops outcome)) :
      Runs start received sent (.stopped relay.queue outcome)

/-- A relay as it is when its sockets have been opened. -/
structure IsFresh (relay : Relay) : Prop where
  client : relay.client = none
  serverTid : relay.serverTid = none
  inbox : ∀ direction, relay.inbox direction = []
  phase : relay.phase = .listening

theorem isFresh_of_bind {config : RelayConfig} {queue : AlterationQueue} {talk : Talk}
    (leads : (bind config queue).Leads talk (.ok relay)) :
    relay.IsFresh ∧ relay.queue = queue ∧ relay.serverAddress = config.serverAddress ∧
      relay.buffer = config.buffer := by
  obtain ⟨_, listening, _, -, -, leads⟩ := leads_bind_iff.mp leads
  cases listening with
  | error error => cases (leads_done_iff.mp leads).2
  | ok clientSocket =>
    obtain ⟨_, opened, _, -, -, leads⟩ := leads_bind_iff.mp leads
    cases opened with
    | error error =>
      obtain ⟨_, _, _, -, -, leads⟩ := leads_bind_iff.mp leads
      cases (leads_done_iff.mp leads).2
    | ok serverSocket =>
      obtain ⟨-, h⟩ := leads_done_iff.mp leads
      cases h
      refine ⟨⟨rfl, rfl, ?_, rfl⟩, rfl, rfl, rfl⟩
      intro direction
      cases direction <;> rfl

variable {start : Relay} {received : List Arrival} {sent : List Departure} {talk : Talk}

theorem emit_congr (h : next.setup = relay.setup) (emission : Emission) :
    next.emit emission = relay.emit emission := by
  unfold emit
  rw [outbound_eq_of_setup h]

theorem emitAll_congr (h : next.setup = relay.setup) (emissions : List Emission) :
    next.emitAll emissions = relay.emitAll emissions := by
  induction emissions with
  | nil => rfl
  | cons emission others ih => rw [emitAll, emitAll, emit_congr h, ih]

theorem exists_leads_of_append {front back : List Emission}
    (leads : (relay.emitAll (front ++ back)).Leads talk ()) :
    ∃ first second, talk = first ++ second ∧ (relay.emitAll front).Leads first () ∧
      (relay.emitAll back).Leads second () := by
  induction front generalizing talk with
  | nil => exact ⟨[], talk, rfl, .done (), leads⟩
  | cons emission others ih =>
    obtain ⟨one, _, rest, rfl, hone, hrest⟩ := leads_bind_iff.mp leads
    obtain ⟨first, second, rfl, hfirst, hsecond⟩ := ih hrest
    refine ⟨one ++ first, second, (List.append_assoc ..).symm, ?_, hsecond⟩
    exact leads_bind_iff.mpr ⟨one, (), first, rfl, hone, hfirst⟩

theorem departures_of_close {rest after : Rest}
    (leads : (do relay.close; return rest : Program Rest).Leads talk after) :
    departures talk = [] ∧ after = rest := by
  obtain ⟨_, _, rfl, hserver⟩ := leads_ask_iff.mp leads
  obtain ⟨_, _, rfl, hdone⟩ := leads_ask_iff.mp hserver
  obtain ⟨rfl, rfl⟩ := leads_done_iff.mp hdone
  exact ⟨rfl, rfl⟩

/-- What a relay does on a host are moves, after which it has stopped or has to wait, and it sends
what it has to send after them. -/
theorem exists_movesTo_of_run {after : Rest} (leads : (relay.run now since).Leads talk after) :
    ∃ emissions front, MovesTo now since relay emissions after ∧
      (relay.emitAll emissions).Leads front () ∧ front ⊆ talk ∧
      departures talk = departures front ∧ after.IsSettled now since := by
  have onward : MovesTo now since relay (relay.proceed now since).2 (relay.proceed now since).1 :=
    movesTo_advance _
  have settled : (relay.proceed now since).1.IsSettled now since :=
    isSettled_advance (Nat.le_refl _)
  rw [Relay.run] at leads
  cases hproceed : relay.proceed now since with
  | mk rest emissions =>
    rw [hproceed] at leads settled onward
    obtain ⟨front, _, back, rfl, hfront, hback⟩ := leads_bind_iff.mp leads
    have hback : departures back = [] ∧ after = rest := by
      cases rest with
      | waiting next =>
        obtain ⟨rfl, rfl⟩ := leads_done_iff.mp hback
        exact ⟨rfl, rfl⟩
      | stopped queue outcome => exact departures_of_close hback
    obtain ⟨hnone, rfl⟩ := hback
    refine ⟨emissions, front, onward, hfront, List.subset_append_left front back, ?_, settled⟩
    rw [departures_append, hnone, List.append_nil]

/-- Moves that a relay makes one after the other continue its run. -/
theorem Runs.movesTo {after : Rest} (run : Runs start received sent (.waiting relay))
    (onward : MovesTo now since relay emissions after)
    (leads : (relay.emitAll emissions).Leads talk ())
    (flawless : ∀ exchange ∈ talk, IsFlawless exchange) :
    Runs start received (sent ++ departures talk) after := by
  induction onward generalizing sent talk with
  | rests relay =>
    obtain ⟨rfl, -⟩ := leads_done_iff.mp leads
    rwa [departures_nil, List.append_nil]
  | stops move =>
    obtain ⟨rfl, -⟩ := leads_done_iff.mp leads
    rw [departures_nil, List.append_nil]
    exact .stops run move
  | goesOn move onward ih =>
    -- What this move sends comes first, and the rest is sent by the later ones.
    obtain ⟨first, second, rfl, hfirst, hsecond⟩ := exists_leads_of_append leads
    rw [departures_append, ← List.append_assoc]
    apply ih
    · apply run.moves move hfirst
      intro exchange hexchange
      exact flawless exchange (List.mem_append_left _ hexchange)
    · rwa [emitAll_congr move.setup_eq]
    · intro exchange hexchange
      exact flawless exchange (List.mem_append_right _ hexchange)

/-- What a relay does on a host continues its run, and leaves nothing undone that it could do
without waiting. -/
theorem Runs.run {after : Rest} (run : Runs start received sent (.waiting relay))
    (leads : (relay.run now since).Leads talk after)
    (flawless : ∀ exchange ∈ talk, IsFlawless exchange) :
    Runs start received (sent ++ departures talk) after ∧ after.IsSettled now since := by
  obtain ⟨emissions, front, onward, hfront, said, hsent, settled⟩ := exists_movesTo_of_run leads
  rw [hsent]
  exact ⟨run.movesTo onward hfront fun exchange h ↦ flawless exchange (said h), settled⟩

end Lockstep.Relay
