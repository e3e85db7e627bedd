import Lockstep.Proofs.Retirement

/-!
# The end of a server

The keeper of a server tells it to stop, or lets go of the means to tell it anything. From then on
nobody new is served, and the call that runs the server comes back as soon as the last handler has
ended and no sooner.
-/

namespace Lockstep

open FileSystem

/-- What can come to an activity from outside: something reaches one of its sockets, its keeper uses
the means he has, or the program is interrupted. -/
inductive Occurrence where
  | stimulus (socket : SocketAddress) (stimulus : Stimulus)
  | signal (value : Option Bool)
  | interruption
deriving DecidableEq, Repr

/-- What an activity does about it. -/
def Activity.meet (activity : Activity) (occurrence : Occurrence) (now since : Nat) :
    Program Aftermath :=
  match occurrence with
  | .stimulus socket stimulus => activity.react socket stimulus now since
  | .signal value => activity.signal value now since
  | .interruption => activity.interrupt now since

namespace Keeper

/-- This tells a server with such a keeper to stop: a handle is used, the channel carries the order or
is closed, or a program on the command line is interrupted. -/
def stops : Keeper → Occurrence → Bool
  | .handle false, .signal _ => true
  | .channel, .signal (some isStopping) => isStopping
  | .channel, .signal Option.none => true
  | .terminal, .interruption => true
  | _, _ => false

/-- Who can end the server afterwards. -/
def next : Keeper → Occurrence → Keeper
  | .handle false, .signal _ => .handle true
  | .channel, .signal Option.none => .none
  | keeper, _ => keeper

end Keeper

/-- A server at work, and who can end it. -/
structure Tenure where
  service : Service
  keeper : Keeper

namespace Tenure

def server (tenure : Tenure) : Server :=
  tenure.service.server

def activity (tenure : Tenure) (id : String) : Activity :=
  ⟨id, .serving tenure.server tenure.keeper⟩

/-- The server after something has come to it. -/
def next (tenure : Tenure) (occurrence : Occurrence) (now since : Nat) : Tenure where
  service :=
    match occurrence with
    | .stimulus socket stimulus => tenure.service.react socket stimulus now since
    | .signal _ | .interruption =>
      if tenure.keeper.stops occurrence then tenure.service.stop else tenure.service
  keeper := tenure.keeper.next occurrence

/-- What the server does about something that has come to it. -/
def program (tenure : Tenure) (occurrence : Occurrence) (now since : Nat) : Program Server :=
  match occurrence with
  | .stimulus socket stimulus => tenure.service.reaction socket stimulus now since
  | .signal _ | .interruption =>
    if tenure.keeper.stops occurrence then tenure.server.stop else pure tenure.server

/-- The activity has come to its end exactly if the server holds no socket any more: its port is
closed, and no handler is at work. -/
def aftermath (tenure : Tenure) (id : String) : Activity.Aftermath :=
  if tenure.server.sockets = [] then
    Activity.concludeService id tenure.keeper tenure.server.outcome
      (.serviceEnded tenure.server.outcome)
  else .goesOn id (.serving tenure.server tenure.keeper)

/-- What can happen next to a server that has not finished. In between the clock, the network and the
room on the device change as they like, only the sockets of the server stay open. -/
inductive Step (tenure : Tenure) : Tenure → Prop
  | meets (occurrence : Occurrence) (now since : Nat) (unfinished : tenure.server.sockets ≠ [])
      (port : tenure.service.HasPort) :
    Step tenure (tenure.next occurrence now since)
  | passes (now : Nat) (network : Network) (free : Option Nat)
      (kept : ∀ socket ∈ tenure.server.sockets, socket ∈ network.sockets) :
    Step tenure { tenure with
      service := { tenure.service with
        machine := { now, network, files := { tenure.service.files with free } } } }

/-- A server that has just been started. -/
def start (config : ServerConfig) (listener : SocketAddress) (machine : Machine)
    (keeper : Keeper) : Tenure where
  service := .start config listener machine
  keeper := keeper

variable {tenure later : Tenure}

theorem aftermath_eq (tenure : Tenure) (id : String) :
    tenure.aftermath id = Activity.followServer id tenure.keeper tenure.server := by
  unfold aftermath Activity.followServer
  by_cases h : tenure.server.sockets = []
  · rw [if_pos h, if_pos (Server.hasFinished_iff.mpr h)]
  · rw [if_neg h, if_neg fun hfinished ↦ h (Server.hasFinished_iff.mp hfinished)]

/-- The activity does what the server does about it, and then sees whether that was the end. -/
theorem meet_eq (id : String) (occurrence : Occurrence) (now since : Nat)
    (unfinished : tenure.server.sockets ≠ []) :
    (tenure.activity id).meet occurrence now since = (do
      return Activity.followServer id (tenure.keeper.next occurrence)
        (← tenure.program occurrence now since)) := by
  have idle : ∀ keeper, Activity.followServer id keeper tenure.server =
      .goesOn id (.serving tenure.server keeper) := by
    intro keeper
    unfold Activity.followServer
    rw [if_neg fun hfinished ↦ unfinished (Server.hasFinished_iff.mp hfinished)]
  obtain ⟨service, keeper⟩ := tenure
  cases occurrence with
  | stimulus socket stimulus =>
    cases keeper with
    | handle isAwaited => cases isAwaited <;> rfl
    | _ => rfl
  | interruption =>
    cases keeper with
    | terminal => rfl
    | handle isAwaited => cases isAwaited <;> exact congrArg pure (idle _).symm
    | _ => exact congrArg pure (idle _).symm
  | signal value =>
    cases keeper with
    | none | terminal => exact congrArg pure (idle _).symm
    | handle isAwaited =>
      cases isAwaited with
      | true => exact congrArg pure (idle _).symm
      | false => rfl
    | channel =>
      cases value with
      | none => rfl
      | some isStopping =>
        cases isStopping with
        | true => rfl
        | false => exact congrArg pure (idle _).symm

theorem server_next (tenure : Tenure) (occurrence : Occurrence) (now since : Nat) :
    (tenure.next occurrence now since).server =
        (tenure.service.machine.run (tenure.program occurrence now since)).1 ∧
      (tenure.next occurrence now since).service.machine =
        (tenure.service.machine.run (tenure.program occurrence now since)).2 := by
  cases occurrence with
  | stimulus socket stimulus => exact ⟨rfl, rfl⟩
  | signal value =>
    unfold server next program
    dsimp only
    split <;> exact ⟨rfl, rfl⟩
  | interruption =>
    unfold server next program
    dsimp only
    split <;> exact ⟨rfl, rfl⟩

/-- What the activity does is what is said of the server. -/
theorem run_meet (id : String) (occurrence : Occurrence) (now since : Nat)
    (unfinished : tenure.server.sockets ≠ []) :
    tenure.service.machine.run ((tenure.activity id).meet occurrence now since) =
        ((tenure.next occurrence now since).aftermath id,
          (tenure.next occurrence now since).service.machine) ∧
      tenure.service.machine.log ((tenure.activity id).meet occurrence now since) =
        tenure.service.machine.log (tenure.program occurrence now since) := by
  obtain ⟨hserver, hmachine⟩ := tenure.server_next occurrence now since
  rw [meet_eq id occurrence now since unfinished, aftermath_eq, hserver, hmachine,
    Machine.run_bind, Machine.log_bind]
  exact ⟨rfl, List.append_nil _⟩

end Tenure

/-! ## What is done for one client -/

namespace Service

variable {service : Service} {client listener : SocketAddress} {datagram : Bytes} {now since : Nat}

/-- A datagram is given to one new handler. It gets one socket, which nobody on the host has, uses no
other one, and when it has ended at once the socket is closed again. The handler ends without having
done anything if the host does not have the address that it wants a socket at. -/
inductive Hires (service : Service) (client : SocketAddress) (after : Service)
    (log : List (Machine × Call)) : Prop
  | starts {socket : SocketAddress} {handler? : Option Handler} {work : List (Machine × Call)}
      (ip_eq : socket.ip = (Handler.address client service.server.config).ip)
      (free : service.machine.network.isTaken socket = false)
      (answer_eq : (service.machine.answer
        (.bind (Handler.address client service.server.config))).1 = .ok socket)
      (log_eq : log =
        (service.machine, .bind (Handler.address client service.server.config)) :: work)
      (own : ∀ entry ∈ work, entry.2.IsAt socket)
      (server_eq : after.server = { service.server with
        handlers := service.server.handlers ++ handler?.toList })
      (is_for : ∀ handler ∈ handler?, handler.IsFor client socket)
      (sockets_eq : after.machine.network.sockets =
        service.machine.network.sockets ++ if handler?.isSome then [socket] else [])
  | lacks (away : (Handler.address client service.server.config).ip.isLocal = false)
      (log_eq : log =
        [(service.machine, .bind (Handler.address client service.server.config))])
      (server_eq : after.server = service.server) (machine_eq : after.machine = service.machine)

theorem hires (port : service.HasPort) (hlistener : service.server.listener = some listener)
    (client : SocketAddress) (datagram : Bytes) (now since : Nat) :
    let stimulus := Stimulus.reception (.datagram client datagram)
    service.Hires client (service.react listener stimulus now since)
      (service.machine.log (service.reaction listener stimulus now since)) := by
  cases service.reacts listener (.reception (.datagram client datagram)) now since with
  | closes at_port stimulus_eq => cases stimulus_eq
  | handles at_handler => exact absurd hlistener (not_listener_of_handlerAt? at_handler).1
  | ignores nobody unasked => exact absurd rfl (unasked hlistener client datagram)
  | opens at_port stimulus_eq server_eq machine_eq log_eq =>
    cases stimulus_eq
    unfold opening at server_eq machine_eq log_eq
    rcases Handler.open?_cases port client (datagram.take requestBuffer) service.server.root
        service.server.config now since with
      ⟨away, error, -, hrun, hlog⟩ | ⟨socket, nextPort, hip, free, hanswer, hrun, hlog⟩
    · rw [hrun] at server_eq machine_eq
      refine .lacks away (log_eq.trans hlog) (server_eq.trans ?_) machine_eq
      rw [Option.toList_none, List.append_nil]
    · have serves := Handler.serves_attend socket client (datagram.take requestBuffer)
        service.server.root service.server.config now since
      have hsockets := serves.sockets (service.machine.opened socket nextPort)
      rw [hrun] at server_eq machine_eq
      rw [← machine_eq] at hsockets
      refine .starts hip free (congrArg Prod.fst hanswer) (log_eq.trans hlog) ?_ server_eq
        (Machine.returns_of_meets serves.meets _) ?_
      · exact fun entry hentry ↦ Machine.log_of_meets serves.meets hentry
      · have hopened : (service.machine.opened socket nextPort).network.sockets =
            service.machine.network.sockets ++ [socket] := rfl
        rw [hsockets, hopened]
        split
        · rfl
        · have hnew := Network.not_mem_of_free free
          have hkept : service.machine.network.sockets.filter (· ≠ socket) =
              service.machine.network.sockets :=
            List.filter_eq_self.mpr fun other hother ↦
              decide_eq_true fun heq ↦ hnew (heq ▸ hother)
          rw [List.filter_append, hkept]
          simp

/-- A handler does what its own program says and nothing else. If it goes on it keeps its socket, and
when it has ended its socket is closed. -/
structure Works (service : Service) (handler : Handler) (stimulus : Stimulus) (now since : Nat)
    (after : Service) (log : List (Machine × Call)) : Prop where
  machine_eq : after.machine =
    (service.machine.run (handler.react stimulus.event now since)).2
  log_eq : log = service.machine.log (handler.react stimulus.event now since)
  own : ∀ entry ∈ log, entry.2.IsAt handler.transfer.socket
  goesOn : ∀ handler', (service.machine.run (handler.react stimulus.event now since)).1 =
    some handler' → handler' ∈ after.server.handlers ∧
      handler'.IsFor handler.client handler.transfer.socket
  ended : (service.machine.run (handler.react stimulus.event now since)).1 = none →
    handler.transfer.socket ∉ after.server.sockets ∧
      handler.transfer.socket ∉ after.machine.network.sockets

theorem Wired.works (h : service.Wired) {handler : Handler}
    (hmem : handler ∈ service.server.handlers) (stimulus : Stimulus) (now since : Nat) :
    service.Works handler stimulus now since
      (service.react handler.transfer.socket stimulus now since)
      (service.machine.log (service.reaction handler.transfer.socket stimulus now since)) := by
  obtain ⟨front, back, hhandlers, hserver, hmachine, hlog⟩ :=
    exists_handles (h.handlerAt?_eq hmem) stimulus now since
  have serves := handler.serves_react stimulus.event now since
  refine ⟨hmachine, hlog, ?_, ?_, ?_⟩
  · rw [hlog]
    exact fun entry hentry ↦ Machine.log_of_meets serves.meets hentry
  · intro handler' hreact
    refine ⟨?_, Machine.returns_of_meets serves.meets _ handler' hreact⟩
    rw [hserver, hreact]
    exact List.mem_append_left _ (List.mem_append_right _ List.mem_cons_self)
  · intro hreact
    have distinct := h.distinct
    rw [Server.sockets, hhandlers, List.map_append, List.map_cons, ← List.append_assoc,
      List.nodup_middle, List.nodup_cons, List.append_assoc] at distinct
    refine ⟨?_, ?_⟩
    · rw [hserver, hreact]
      simpa [Server.sockets] using distinct.1
    · rw [hmachine, serves.sockets, hreact]
      simp

end Service

namespace Tenure

variable {tenure later : Tenure}

/-! ## Order is kept -/

theorem orderly_next (h : tenure.service.Orderly) (port : tenure.service.HasPort)
    (occurrence : Occurrence) (now since : Nat) :
    (tenure.next occurrence now since).service.Orderly := by
  unfold next
  cases occurrence with
  | stimulus socket stimulus => exact h.react port socket stimulus now since
  | signal value =>
    dsimp only
    split
    · exact h.stop
    · exact h
  | interruption =>
    dsimp only
    split
    · exact h.stop
    · exact h

theorem Step.orderly (step : tenure.Step later) (h : tenure.service.Orderly) :
    later.service.Orderly := by
  cases step with
  | meets occurrence now since unfinished port => exact orderly_next h port occurrence now since
  | passes now network free kept => exact h.passes now network free kept

theorem orderly_of_steps (h : tenure.service.Orderly)
    (steps : Relation.ReflTransGen Step tenure later) : later.service.Orderly := by
  induction steps with
  | refl => exact h
  | tail _ step ih => exact step.orderly ih

/-! ## After the port is closed -/

/-- Only handlers that are there already have a socket, and nobody asks for another one. -/
structure Retired (tenure later : Tenure) : Prop where
  closed : later.server.listener = none
  held : later.server.sockets.Sublist tenure.server.sockets
  unbound : ∀ occurrence now since,
    ∀ entry ∈ later.service.machine.log (later.program occurrence now since),
      ∀ address, entry.2 ≠ .bind address

theorem unbound_of_closed (closed : tenure.server.listener = none) (occurrence : Occurrence)
    (now since : Nat) :
    ∀ entry ∈ tenure.service.machine.log (tenure.program occurrence now since),
      ∀ address, entry.2 ≠ .bind address := by
  have idle : ∀ occurrence : Occurrence, tenure.service.machine.log
      (if tenure.keeper.stops occurrence then tenure.server.stop else pure tenure.server) = [] := by
    intro occurrence
    split
    · exact (Service.run_stop_of_none closed tenure.service.machine).2
    · rfl
  cases occurrence with
  | signal value =>
    intro entry hentry
    rw [program, idle] at hentry
    exact absurd hentry List.not_mem_nil
  | interruption =>
    intro entry hentry
    rw [program, idle] at hentry
    exact absurd hentry List.not_mem_nil
  | stimulus socket stimulus =>
    intro entry hentry address
    rw [program] at hentry
    cases tenure.service.reacts socket stimulus now since with
    | opens at_port => exact absurd (closed.symm.trans at_port) nofun
    | closes at_port => exact absurd (closed.symm.trans at_port) nofun
    | ignores nobody unasked server_eq machine_eq log_eq =>
      rw [log_eq] at hentry
      exact absurd hentry List.not_mem_nil
    | @handles handler front back at_handler handlers_eq server_eq machine_eq log_eq =>
      rw [log_eq] at hentry
      have serves := handler.serves_react stimulus.event now since
      exact (Machine.log_of_meets serves.meets hentry).ne_bind

theorem sublist_next (closed : tenure.server.listener = none) (occurrence : Occurrence)
    (now since : Nat) :
    (tenure.next occurrence now since).server.listener = none ∧
      (tenure.next occurrence now since).server.sockets.Sublist tenure.server.sockets := by
  have idle : ∀ occurrence : Occurrence,
      (if tenure.keeper.stops occurrence then tenure.service.stop else tenure.service).server =
        tenure.server := by
    intro occurrence
    split
    · exact congrArg Prod.fst (Service.run_stop_of_none closed tenure.service.machine).1
    · rfl
  have unchanged : ∀ {after : Server}, after = tenure.server →
      after.listener = none ∧ after.sockets.Sublist tenure.server.sockets := by
    rintro _ rfl
    exact ⟨closed, .refl _⟩
  cases occurrence with
  | signal value => exact unchanged (idle _)
  | interruption => exact unchanged (idle _)
  | stimulus socket stimulus =>
    cases tenure.service.reacts socket stimulus now since with
    | opens at_port => exact absurd (closed.symm.trans at_port) nofun
    | closes at_port => exact absurd (closed.symm.trans at_port) nofun
    | ignores nobody unasked server_eq => exact unchanged server_eq
    | @handles handler front back at_handler handlers_eq server_eq =>
      have hserver : (tenure.next (.stimulus socket stimulus) now since).server = _ := server_eq
      have serves := handler.serves_react stimulus.event now since
      have hreturns := Machine.returns_of_meets serves.meets tenure.service.machine
      have hrest : ((tenure.service.machine.run
          (handler.react stimulus.event now since)).1.toList.map (·.transfer.socket)).Sublist
            [handler.transfer.socket] := by
        cases hreact : (tenure.service.machine.run (handler.react stimulus.event now since)).1 with
        | none => exact List.nil_sublist _
        | some handler' =>
          rw [Option.toList_some, List.map_singleton, (hreturns handler' hreact).2]
      have hheld : tenure.server.sockets = tenure.server.listener.toList ++
          (front.map (·.transfer.socket) ++ [handler.transfer.socket] ++
            back.map (·.transfer.socket)) := by
        rw [Server.sockets]
        change _ ++ tenure.service.server.handlers.map _ = _
        rw [handlers_eq]
        simp
      rw [hserver, hheld]
      refine ⟨closed, (List.Sublist.refl _).append ?_⟩
      rw [List.map_append, List.map_append]
      exact ((List.Sublist.refl _).append hrest).append (.refl _)

theorem retired_of_steps (closed : tenure.server.listener = none)
    (steps : Relation.ReflTransGen Step tenure later) : tenure.Retired later := by
  have held : later.server.listener = none ∧
      later.server.sockets.Sublist tenure.server.sockets := by
    induction steps with
    | refl => exact ⟨closed, .refl _⟩
    | tail _ step ih =>
      cases step with
      | passes now network free kept => exact ih
      | meets occurrence now since =>
        obtain ⟨hclosed, hsublist⟩ := sublist_next ih.1 occurrence now since
        exact ⟨hclosed, hsublist.trans ih.2⟩
  exact ⟨held.1, held.2, unbound_of_closed held.1⟩

/-! ## The whole -/

/-- A handler stays as it is unless something reaches its own socket. -/
theorem mem_next {handler : Handler} (hmem : handler ∈ tenure.server.handlers)
    {occurrence : Occurrence}
    (elsewhere : ∀ stimulus, occurrence ≠ .stimulus handler.transfer.socket stimulus)
    (now since : Nat) : handler ∈ (tenure.next occurrence now since).server.handlers := by
  have idle : ∀ occurrence : Occurrence, handler ∈ (if tenure.keeper.stops occurrence
      then tenure.service.stop else tenure.service).server.handlers := by
    intro occurrence
    split
    · exact (Service.files_stop tenure.server tenure.service.machine).1 ▸ hmem
    · exact hmem
  cases occurrence with
  | signal value => exact idle _
  | interruption => exact idle _
  | stimulus socket stimulus =>
    change handler ∈ (tenure.service.react socket stimulus now since).server.handlers
    cases tenure.service.reacts socket stimulus now since with
    | opens at_port stimulus_eq server_eq =>
      rw [server_eq]
      exact List.mem_append_left _ hmem
    | closes at_port stimulus_eq failed server_eq =>
      rw [server_eq]
      exact hmem
    | ignores nobody unasked server_eq =>
      rw [server_eq]
      exact hmem
    | @handles other front back at_handler handlers_eq server_eq =>
      have hne : handler ≠ other := by
        rintro rfl
        rw [Service.socket_of_handlerAt? at_handler] at elsewhere
        exact elsewhere stimulus rfl
      change handler ∈ tenure.service.server.handlers at hmem
      rw [server_eq]
      rw [handlers_eq, List.mem_append, List.mem_cons, or_iff_right hne] at hmem
      rcases hmem with hfront | hback
      · exact List.mem_append_left _ (List.mem_append_left _ hfront)
      · exact List.mem_append_right _ hback

/-- How a server works and how it ends. -/
structure Graceful (tenure : Tenure) : Prop where
  /-- A datagram at the port is given to one new handler with a socket of its own. -/
  starts : ∀ listener, tenure.server.listener = some listener → tenure.service.HasPort →
    ∀ client datagram now since, tenure.service.Hires client
      (tenure.service.react listener (.reception (.datagram client datagram)) now since)
      (tenure.service.machine.log
        (tenure.service.reaction listener (.reception (.datagram client datagram)) now since))
  /-- Each handler does its own work. -/
  works : ∀ handler ∈ tenure.server.handlers, ∀ stimulus now since,
    tenure.service.Works handler stimulus now since
      (tenure.service.react handler.transfer.socket stimulus now since)
      (tenure.service.machine.log
        (tenure.service.reaction handler.transfer.socket stimulus now since))
  /-- Nothing that comes to the server elsewhere touches the handler, an order to stop least of all. -/
  stays : ∀ handler ∈ tenure.server.handlers, ∀ occurrence : Occurrence,
    (∀ stimulus, occurrence ≠ .stimulus handler.transfer.socket stimulus) →
      ∀ now since, handler ∈ (tenure.next occurrence now since).server.handlers
  /-- All that an order to stop leads to is that the port is closed at once. -/
  stops : ∀ listener, tenure.server.listener = some listener → ∀ occurrence,
    tenure.keeper.stops occurrence = true → ∀ now since,
      (tenure.next occurrence now since).server = { tenure.server with listener := none } ∧
      (tenure.next occurrence now since).service.machine = { tenure.service.machine with
        network := tenure.service.machine.network.close listener } ∧
      tenure.service.machine.log (tenure.program occurrence now since) =
        [(tenure.service.machine, .close listener)]
  /-- No handler is made any more once the port is closed. -/
  retires : tenure.server.listener = none →
    ∀ later, Relation.ReflTransGen Step tenure later → tenure.Retired later
  /-- The handlers that are at work do not notice whether the server has been stopped. -/
  undisturbed : ∀ later,
    tenure.service.Throughout (fun service _ ↦ service.HasPort) later →
    ((∀ incident ∈ later, tenure.server.listener ≠ some incident.socket) ∨
      tenure.service.Throughout Service.HasRoom later) →
    (tenure.service.stop.run later).server.handlers <+:
        (tenure.service.run later).server.handlers ∧
      (tenure.service.stop.effects later).Forall₂ (fun first second ↦ ∀ effect,
        first = some effect → second = some effect) (tenure.service.effects later)
  /-- The call that runs the server comes back when there is neither port nor handler any more, and
  goes on until then. -/
  returns : ∀ id occurrence now since, tenure.server.sockets ≠ [] →
    tenure.service.machine.run ((tenure.activity id).meet occurrence now since) =
      ((tenure.next occurrence now since).aftermath id,
        (tenure.next occurrence now since).service.machine)

theorem graceful_of_orderly (h : tenure.service.Orderly) : tenure.Graceful where
  starts listener hlistener port client datagram now since :=
    Service.hires port hlistener client datagram now since
  works handler hmem stimulus now since := h.wired.works hmem stimulus now since
  stays handler hmem occurrence elsewhere now since := mem_next hmem elsewhere now since
  stops listener hlistener occurrence hstops now since := by
    obtain ⟨hrun, hlog⟩ := Service.run_stop hlistener tenure.service.machine
    obtain ⟨hserver, hmachine⟩ := tenure.server_next occurrence now since
    have hprogram : tenure.program occurrence now since = tenure.server.stop := by
      cases occurrence with
      | stimulus socket stimulus =>
        obtain ⟨service, keeper⟩ := tenure
        cases keeper with
        | handle isAwaited => cases isAwaited <;> cases hstops
        | _ => cases hstops
      | signal value => exact if_pos hstops
      | interruption => exact if_pos hstops
    rw [hserver, hmachine, hprogram, hrun]
    exact ⟨rfl, rfl, hlog⟩
  retires closed _ steps := retired_of_steps closed steps
  undisturbed later ports room := h.undisturbed later ports room
  returns id occurrence now since unfinished :=
    (run_meet id occurrence now since unfinished).1

/-- Whatever comes to a server from its start on, and in whichever order. -/
theorem graceful_of_steps (config : ServerConfig) (listener : SocketAddress) {machine : Machine}
    (sound : machine.files.Sound) (opened : listener ∈ machine.network.sockets) (keeper : Keeper)
    (steps : Relation.ReflTransGen Step (start config listener machine keeper) tenure) :
    tenure.Graceful :=
  graceful_of_orderly
    (orderly_of_steps (Service.Orderly.start config listener sound opened) steps)

/-- A server with an empty root that is ended over a channel, before anything has happened. -/
def small : Tenure :=
  start { root := ['/', 's'] } ⟨.localhost .four, 69, 0⟩
    { files := ({} : FileSystem).install [['s']] (.directory true true)
      network := { sockets := [⟨.localhost .four, 69, 0⟩] } } .channel

/-- The server after a request has reached it. -/
def busy : Tenure :=
  small.next (.stimulus ⟨.localhost .four, 69, 0⟩ Server.smallStimulus) 0 0

/-- Something is asked for, and then nobody holds the other end of the channel any more. -/
theorem graceful_of_request :
    small.service.files.Sound ∧
      ⟨.localhost .four, 69, 0⟩ ∈ small.service.machine.network.sockets ∧
      Relation.ReflTransGen Step small (busy.next (.signal none) 1 1) ∧
      (busy.next (.signal none) 1 1).Graceful := by
  have sound : small.service.files.Sound :=
    FileSystem.Sound.empty.install [['s']] (.directory true true)
  have port : small.service.HasPort := by
    unfold Service.HasPort
    decide
  have request : small.Step busy := .meets _ 0 0 (List.cons_ne_nil _ _) port
  obtain ⟨unfinished, port'⟩ : busy.server.sockets ≠ [] ∧ busy.service.HasPort := by
    unfold Service.HasPort
    cases Service.hires port rfl ⟨.localhost .four, 1069, 0⟩
        (Packet.encodeRequest .writeRequest ⟨"a", "octet"⟩) 0 0 with
    | starts ip_eq free answer_eq log_eq own server_eq is_for sockets_eq =>
      have hserver : busy.server = _ := server_eq
      have hsockets : busy.service.machine.network.sockets = _ := sockets_eq
      rw [hserver, hsockets, List.length_append]
      have hlength : small.service.machine.network.sockets.length = 1 := rfl
      refine ⟨List.cons_ne_nil _ _, ?_⟩
      rw [hlength]
      split
      · rw [List.length_singleton]
        omega
      · rw [List.length_nil]
        omega
    | lacks away => cases away
  have steps : Relation.ReflTransGen Step small (busy.next (.signal none) 1 1) :=
    .tail (.single request) (.meets (.signal none) 1 1 unfinished port')
  exact ⟨sound, List.mem_singleton_self _, steps,
    graceful_of_steps _ _ sound (List.mem_singleton_self _) _ steps⟩

end Tenure

end Lockstep
