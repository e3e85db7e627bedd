import Lockstep.Proofs.Beginnings
import Lockstep.Proofs.Encounters
import Lockstep.Proofs.Retirement

/-!
# What happens to the clients of a server

A client asks a server for something, and from then on things happen to the handler that works for it:
datagrams come in, alarms go off and sends fail. The handler writes to its client, and to strangers who
have written to it, and to nobody else.
-/

namespace Lockstep

open Dialogue

/-! ## Who is written to -/

/-- If the question is one to send something, it goes to such an address. -/
def Session.Question.GoesTo (isAddressee : SocketAddress → Prop) (question : Session.Question) :
    Prop :=
  ∀ destination packet, question = .send destination packet → isAddressee destination

/-- If the call sends anything, it goes to such an address. -/
def Call.GoesTo (isAddressee : SocketAddress → Prop) (call : Call) : Prop :=
  ∀ origin destination packet, call = .send origin destination packet → isAddressee destination

theorem Call.IsSilent.goesTo {isAddressee : SocketAddress → Prop} {call : Call}
    (h : call.IsSilent) : call.GoesTo isAddressee :=
  fun origin destination packet heq ↦ absurd heq (h origin destination packet)

theorem Call.PutsAway.goesTo {isAddressee : SocketAddress → Prop} {call : Call}
    (h : call.PutsAway) : call.GoesTo isAddressee := by
  rintro _ _ _ rfl
  exact h.elim

theorem Machine.goesTo_of_meets {Result : Type} {isAddressee : SocketAddress → Prop}
    {program : Program Result} {returns : Result → Prop}
    (h : program.Meets (Call.GoesTo isAddressee) returns) {machine : Machine}
    (nothing : machine.network.outbox = []) :
    ∀ datagram ∈ (machine.run program).2.network.outbox, isAddressee datagram.destination := by
  intro datagram hmem
  have hposts := (machine.outbox_run program).subset hmem
  rw [nothing, List.nil_append] at hposts
  obtain ⟨entry, hentry, socket, hcall, -⟩ := exists_of_mem_posts hposts
  exact log_of_meets h hentry _ _ _ hcall

/-- A session with a peer keeps it. What it sends goes to the peer, or to somebody who has just written
to it. -/
theorem Session.goesTo_react {session : Session} (bound : session.bound = true)
    (exchange : Exchange) (event : Event) (now : Nat) :
    (session.react exchange event now).Meets
      (Question.GoesTo fun destination ↦
        destination = session.peer ∨ ∃ datagram, event = .arrival destination datagram)
      fun progress ↦ progress.session.peer = session.peer ∧ progress.session.bound = true := by
  by_cases foreign : session.IsForeign event
  · cases event with
    | arrival source datagram =>
      rw [arrive_of_stranger foreign]
      refine ⟨?_, fun _ ↦ ⟨rfl, bound⟩⟩
      rintro _ _ ⟨⟩
      exact .inr ⟨datagram, rfl⟩
    | receiveError error =>
      have hturn : session.react exchange (.receiveError error) now = session.await exchange :=
        if_pos foreign
      rw [hturn]
      exact ⟨rfl, bound⟩
    | expiry => exact foreign.elim
  · obtain ⟨served, kept, heeds⟩ := exists_heeds foreign
    obtain ⟨hpeer, hbound⟩ := kept bound
    refine Meets.mono heeds ?_ ?_
    · intro question hsend destination packet heq
      exact .inl ((hsend destination packet heq).trans hpeer)
    · rintro progress ⟨hpeer', hbound'⟩
      exact ⟨hpeer'.trans hpeer, hbound'.trans hbound⟩

theorem Stream.goesTo_converse {Result : Type} {isAddressee : SocketAddress → Prop}
    {returns : Result → Prop} {turn : Session.Turn Result}
    (h : turn.Meets (Session.Question.GoesTo isAddressee) returns) (socket : SocketAddress)
    (stream : Stream) :
    (stream.converse socket turn).Meets (Call.GoesTo isAddressee) fun result ↦ returns result.1 := by
  have hturn : turn.MeetsIf (fun _ _ ↦ True) (Session.Question.GoesTo isAddressee) returns := h.meetsIf
  refine meets_converse (fun stream question goes ↦ ?_) hturn stream
  refine (stream.answer_meets socket question).mono ?_ fun _ _ ↦ trivial
  intro call hcall origin destination packet heq
  exact goes destination packet (hcall.2 origin destination packet heq)

namespace Handler

/-- The handler works for the client and has it for its peer. -/
structure IsBoundTo (client : SocketAddress) (handler : Handler) : Prop where
  client_eq : handler.client = client
  peer : handler.transfer.session.peer = client
  bound : handler.transfer.session.bound = true

variable {handler : Handler} {socket client : SocketAddress} {config : TransferConfig}
  {now since : Nat}

theorem goesTo_takeTurn {isAddressee : SocketAddress → Prop} {turn : Session.Turn Session.Progress}
    (h : turn.Meets (Session.Question.GoesTo isAddressee) fun progress ↦
      progress.session.peer = client ∧ progress.session.bound = true)
    (socket : SocketAddress) (upload : Option Upload) (stream : Stream) (since : Nat) :
    (Transfer.takeTurn socket stream turn since >>= follow socket client upload).Meets
      (Call.GoesTo isAddressee) fun handler? ↦ ∀ handler ∈ handler?, handler.IsBoundTo client := by
  have hturn := meets_follow (fun _ h ↦ h.goesTo) (stream.goesTo_converse h socket) client upload since
  refine hturn.mono (fun _ h ↦ h) fun handler? hresult handler hmem ↦ ?_
  obtain ⟨client_eq, -, peer, bound⟩ := hresult handler hmem
  exact ⟨client_eq, peer, bound⟩

/-- A handler with a peer writes to it, or to somebody who has just written to the handler. -/
theorem IsBoundTo.goesTo_react (h : handler.IsBoundTo client) (event : Session.Event)
    (now since : Nat) :
    (handler.react event now since).Meets
      (Call.GoesTo fun destination ↦
        destination = client ∨ ∃ datagram, event = .arrival destination datagram)
      fun handler? ↦ ∀ handler' ∈ handler?, handler'.IsBoundTo client := by
  have hturn := Session.goesTo_react h.bound handler.transfer.exchange (Transfer.received event) now
  rw [h.peer, ← h.client_eq] at hturn
  rw [← h.client_eq]
  refine (goesTo_takeTurn hturn _ _ _ _).mono ?_ fun _ h ↦ h
  intro call hcall origin destination packet heq
  rcases hcall origin destination packet heq with hclient | ⟨datagram, hreceived⟩
  · exact .inl hclient
  · cases event with
    | arrival source payload =>
      cases hreceived
      exact .inr ⟨payload, rfl⟩
    | receiveError error => cases hreceived
    | expiry => cases hreceived

/-- A handler that goes on works for the same client. -/
theorem IsBoundTo.react (h : handler.IsBoundTo client) (event : Session.Event) (now since : Nat)
    (machine : Machine) :
    ∀ handler' ∈ (machine.run (handler.react event now since)).1, handler'.IsBoundTo client :=
  Machine.returns_of_meets (h.goesTo_react event now since) machine

/-- The session of a request writes to the client from its first turn on. -/
theorem goesTo_begin {mode : Mode} {turn : Session.Turn Session.Progress}
    (begins : (Session.accepted client mode config).Begins now turn) (socket : SocketAddress)
    (upload : Option Upload) (stream : Stream) (since : Nat) :
    (Transfer.takeTurn socket stream turn since >>= follow socket client upload).Meets
      (Call.GoesTo (· = client)) fun handler? ↦ ∀ handler ∈ handler?, handler.IsBoundTo client :=
  goesTo_takeTurn begins.heeds socket upload stream since

/-- A request is answered to the client. -/
theorem goesTo_open? (client : SocketAddress) (datagram : Bytes) (root : Path)
    (config : TransferConfig) (now since : Nat) :
    (open? client datagram root config now since).Meets (Call.GoesTo (· = client))
      fun handler? ↦ ∀ handler ∈ handler?, handler.IsBoundTo client := by
  have nobody : ∀ handler ∈ (none : Option Handler), handler.IsBoundTo client :=
    fun handler hmem ↦ (Option.not_mem_none handler hmem).elim
  apply meets_open? (fun _ h ↦ h.goesTo) nobody
  intro socket
  apply meets_attend (fun _ h ↦ h.goesTo)
  · intro notice _
    apply meets_reject (fun _ h ↦ h.goesTo) _ nobody
    rintro _ _ _ ⟨⟩
    rfl
  · exact fun mode stream ↦ goesTo_begin (.send none) _ _ _ _
  · exact fun mode stream upload ↦ goesTo_begin (.receive _) _ _ _ _

end Handler

/-! ## Devices without a limit -/

/-- Nothing runs out of space on a device without a limit. -/
theorem Machine.hasRoom_of_unlimited {Result : Type} {machine : Machine} (program : Program Result)
    (h : machine.files.free = none) : machine.HasRoom program := by
  induction program generalizing machine with
  | done result => exact hasRoom_pure machine result
  | ask call next ih =>
    have hcall : call.Fits machine := by
      cases call with
      | appendFile id bytes =>
        apply FileSystem.appendFile_eq_ok_iff.mpr
        intro room hroom
        cases h.symm.trans hroom
      | _ => exact trivial
    have hnext := ih (machine.answer call).1 ((machine.spends_answer call).unlimited h)
    exact List.forall_mem_cons.mpr ⟨hcall, hnext⟩

/-! ## What happens to clients -/

/-- What a client asks for: a datagram that it sends to the well-known port. -/
structure Inquiry where
  client : SocketAddress
  datagram : Bytes

/-- A client asks for something, or something happens to the handler that works for it. -/
inductive Matter where
  | request (datagram : Bytes)
  | stimulus (stimulus : Stimulus)

/-- Something that happens to a client of a server. -/
structure Occasion where
  client : SocketAddress
  matter : Matter
  now : Nat
  since : Nat
  /-- The failures that the sends to come run into. -/
  faults : List SystemError

namespace Occasion

def inquiry? (occasion : Occasion) : Option Inquiry :=
  match occasion.matter with
  | .request datagram => some ⟨occasion.client, datagram⟩
  | .stimulus _ => none

/-- All that is asked for, one after the other. -/
def inquiries (occasions : List Occasion) : List Inquiry :=
  occasions.filterMap (·.inquiry?)

theorem inquiries_cons (occasion : Occasion) (rest : List Occasion) :
    inquiries (occasion :: rest) = occasion.inquiry?.toList ++ inquiries rest := by
  rw [inquiries, List.filterMap_cons]
  cases occasion.inquiry? <;> rfl

/-- What happens to the client, if nothing happened to anybody else. -/
def concerning (client : SocketAddress) (occasions : List Occasion) : List Occasion :=
  occasions.filter (·.client = client)

theorem concerning_cons_self (occasion : Occasion) (rest : List Occasion) :
    concerning occasion.client (occasion :: rest) =
      occasion :: concerning occasion.client rest := by
  rw [concerning, List.filter_cons, if_pos (decide_eq_true rfl), concerning]

theorem concerning_cons_of_ne {client : SocketAddress} {occasion : Occasion}
    (hne : occasion.client ≠ client) (rest : List Occasion) :
    concerning client (occasion :: rest) = concerning client rest := by
  rw [concerning, List.filter_cons, if_neg (fun heq ↦ hne (of_decide_eq_true heq)), concerning]

/-- If a datagram comes to the handler it is from the client, or from nobody who asks for anything. -/
def IsDirect (occasion : Occasion) (others : List Inquiry) : Prop :=
  ∀ source payload, occasion.matter = .stimulus (.reception (.datagram source payload)) →
    source = occasion.client ∨ ∀ inquiry ∈ others, inquiry.client ≠ source

theorem client_of_inquiry? {occasion : Occasion} {inquiry : Inquiry}
    (h : inquiry ∈ occasion.inquiry?) : inquiry.client = occasion.client := by
  unfold inquiry? at h
  split at h
  · cases h
    rfl
  · cases h

end Occasion

/-- The datagram without the port that it comes from. -/
def Datagram.fromHost (datagram : Datagram) : Datagram :=
  { datagram with source := datagram.source.host }

namespace Service

variable {service : Service} {occasion : Occasion}

def handlerOf? (service : Service) (client : SocketAddress) : Option Handler :=
  service.server.handlers.find? (·.client = client)

/-- What reaches the host: a request comes to the well-known port, and everything else to the handler
of the client. If there is none, nobody takes any notice. -/
def incident? (service : Service) (occasion : Occasion) : Option Incident :=
  match occasion.matter with
  | .request datagram => service.server.listener.map fun listener ↦
    ⟨listener, .reception (.datagram occasion.client datagram), occasion.now, occasion.since,
      occasion.faults⟩
  | .stimulus stimulus => (service.handlerOf? occasion.client).map fun handler ↦
    ⟨handler.transfer.socket, stimulus, occasion.now, occasion.since, occasion.faults⟩

def hear (service : Service) (occasion : Occasion) : Service :=
  match service.incident? occasion with
  | none => service
  | some incident => service.attend incident

def hearAll (service : Service) (occasions : List Occasion) : Service :=
  occasions.foldl hear service

/-- The datagrams that leave on the occasion. -/
def sent (service : Service) (occasion : Occasion) : List Datagram :=
  match service.incident? occasion with
  | none => []
  | some incident => (service.attend incident).machine.network.outbox

/-- The machine when it happens. -/
def machineAt (service : Service) (occasion : Occasion) : Machine :=
  service.machine.facing occasion.now occasion.faults

theorem files_machineAt (service : Service) (occasion : Occasion) :
    (service.machineAt occasion).files = service.files := rfl

/-- The end of the request of the client, if it comes to one on the occasion. -/
def ending? (service : Service) (occasion : Occasion) : Option Ending :=
  match occasion.matter with
  | .request datagram => service.server.listener.bind fun _ ↦
    Handler.openingEnd? occasion.client (datagram.take requestBuffer) service.server.root
      service.server.config occasion.now occasion.since (service.machineAt occasion)
  | .stimulus stimulus => (service.handlerOf? occasion.client).bind fun handler ↦
    ((service.machineAt occasion).run (handler.transfer.react stimulus.event occasion.now
      occasion.since)).1.result?.map .transferred

/-- What the client is sent on the occasion, without the ports that it comes from. -/
def repliesTo (service : Service) (client : SocketAddress) (occasion : Occasion) : List Datagram :=
  ((service.sent occasion).filter (·.destination = client)).map (·.fromHost)

/-- All that the client is sent. -/
def replies (service : Service) (client : SocketAddress) : List Occasion → List Datagram
  | [] => []
  | occasion :: rest =>
    service.repliesTo client occasion ++ (service.hear occasion).replies client rest

/-- How the request of the client ends. -/
def endings (service : Service) (client : SocketAddress) : List Occasion → List Ending
  | [] => []
  | occasion :: rest =>
    (if occasion.client = client then (service.ending? occasion).toList else []) ++
      (service.hear occasion).endings client rest

/-- The host has what it takes: a port for another socket if there is a request, and room for everything
that is written. -/
structure Suffices (service : Service) (occasion : Occasion) : Prop where
  port : occasion.inquiry?.isSome → service.HasPort
  room : ∀ incident ∈ service.incident? occasion, service.HasRoom incident

/-- The condition holds on each of the occasions. -/
def Always (condition : Service → Occasion → Prop) (service : Service) : List Occasion → Prop
  | [] => True
  | occasion :: rest => condition service occasion ∧ (service.hear occasion).Always condition rest

/-- All that can come of an occasion: nobody takes any notice, a handler is made for the request, or the
handler of the client does its work. -/
inductive Hears (service : Service) (occasion : Occasion) : Prop
  | ignored (nobody : service.incident? occasion = none) (hear_eq : service.hear occasion = service)
      (sent_eq : service.sent occasion = [])
  | opens {datagram : Bytes} {listener : SocketAddress}
      (matter_eq : occasion.matter = .request datagram)
      (listens : service.server.listener = some listener)
      (server_eq : (service.hear occasion).server = { service.server with
        handlers := service.server.handlers ++ ((service.machineAt occasion).run
          (service.opening occasion.client datagram occasion.now occasion.since)).1.toList })
      (machine_eq : (service.hear occasion).machine = ((service.machineAt occasion).run
        (service.opening occasion.client datagram occasion.now occasion.since)).2)
      (sent_eq : service.sent occasion = (service.hear occasion).machine.network.outbox)
      (room : service.Suffices occasion → (service.machineAt occasion).HasRoom
        (service.opening occasion.client datagram occasion.now occasion.since))
  | works {stimulus : Stimulus} {handler : Handler} {front back : List Handler}
      (matter_eq : occasion.matter = .stimulus stimulus)
      (found : service.handlerOf? occasion.client = some handler)
      (handlers_eq : service.server.handlers = front ++ handler :: back)
      (server_eq : (service.hear occasion).server = { service.server with
        handlers := front ++ ((service.machineAt occasion).run
          (handler.react stimulus.event occasion.now occasion.since)).1.toList ++ back })
      (machine_eq : (service.hear occasion).machine = ((service.machineAt occasion).run
        (handler.react stimulus.event occasion.now occasion.since)).2)
      (sent_eq : service.sent occasion = (service.hear occasion).machine.network.outbox)
      (room : service.Suffices occasion → (service.machineAt occasion).HasRoom
        (handler.react stimulus.event occasion.now occasion.since))

/-- A new handler works for the client that has asked for it. -/
theorem isBoundTo_opening (service : Service) (client : SocketAddress) (datagram : Bytes)
    (now since : Nat) (machine : Machine) :
    ∀ handler ∈ (machine.run (service.opening client datagram now since)).1,
      handler.IsBoundTo client :=
  Machine.returns_of_meets (Handler.goesTo_open? _ _ _ _ _ _) machine

theorem mem_of_handlerOf? {client : SocketAddress} {handler : Handler}
    (h : service.handlerOf? client = some handler) :
    handler ∈ service.server.handlers ∧ handler.client = client :=
  ⟨List.mem_of_find?_eq_some h, by simpa using List.find?_some h⟩

theorem hears_of_none (h : service.incident? occasion = none) : service.Hears occasion := by
  apply Hears.ignored h
  · rw [hear, h]
  · rw [sent, h]

theorem hears (wired : service.Wired) (occasion : Occasion) : service.Hears occasion := by
  cases hincident : service.incident? occasion with
  | none => exact hears_of_none hincident
  | some incident =>
    have hhear : service.hear occasion = service.attend incident := by rw [hear, hincident]
    have hsent : service.sent occasion = (service.hear occasion).machine.network.outbox := by
      rw [hhear, sent, hincident]
    have hroom : service.Suffices occasion → service.HasRoom incident :=
      fun enough ↦ enough.room incident hincident
    unfold incident? at hincident
    cases hmatter : occasion.matter with
    | request datagram =>
      rw [hmatter] at hincident
      obtain ⟨listener, listens, rfl⟩ := Option.map_eq_some_iff.mp hincident
      have hreacts := (service.facing occasion.now occasion.faults).reacts listener
        (.reception (.datagram occasion.client datagram)) occasion.now occasion.since
      cases hreacts with
      | opens at_port stimulus_eq server_eq machine_eq log_eq =>
        cases stimulus_eq
        refine .opens hmatter listens ?_ ?_ hsent ?_
        · rw [hhear]
          exact server_eq
        · rw [hhear]
          exact machine_eq
        · intro enough entry hentry
          exact hroom enough entry (log_eq ▸ hentry)
      | closes at_port stimulus_eq => cases stimulus_eq
      | handles at_handler => exact absurd listens (not_listener_of_handlerAt? at_handler).1
      | ignores nobody unasked => exact absurd rfl (unasked listens _ _)
    | stimulus stimulus =>
      rw [hmatter] at hincident
      obtain ⟨handler, found, rfl⟩ := Option.map_eq_some_iff.mp hincident
      have at_handler := (wired.facing occasion.now occasion.faults).handlerAt?_eq
        (mem_of_handlerOf? found).1
      obtain ⟨front, back, handlers_eq, server_eq, machine_eq, log_eq⟩ :=
        exists_handles at_handler stimulus occasion.now occasion.since
      refine .works hmatter found handlers_eq ?_ ?_ hsent ?_
      · rw [hhear]
        exact server_eq
      · rw [hhear]
        exact machine_eq
      · intro enough entry hentry
        exact hroom enough entry (log_eq ▸ hentry)

theorem spends_hear (service : Service) (occasion : Occasion) :
    service.files.Spends (service.hear occasion).files := by
  unfold hear
  cases service.incident? occasion with
  | none => exact .refl _
  | some incident =>
    change (service.machine.facing incident.now incident.faults).files.Spends _
    exact Machine.spends_run _ _

/-- A server keeps to what it has to, as long as there is a port for each request. -/
theorem Orderly.hear (h : service.Orderly) (port : occasion.inquiry?.isSome → service.HasPort) :
    (service.hear occasion).Orderly := by
  have facing := h.wired.facing occasion.now occasion.faults
  have hwired : (service.hear occasion).Wired := by
    cases service.hears h.wired occasion with
    | ignored nobody hear_eq =>
      rw [hear_eq]
      exact h.wired
    | opens matter_eq listens server_eq machine_eq =>
      have isRequest : occasion.inquiry?.isSome := by
        rw [Occasion.inquiry?, matter_eq]
        rfl
      exact facing.of_opens (port isRequest) server_eq machine_eq
    | works matter_eq found handlers_eq server_eq machine_eq =>
      exact facing.of_handles handlers_eq server_eq machine_eq
  cases hincident : service.incident? occasion with
  | none =>
    rw [Service.hear, hincident]
    exact h
  | some incident =>
    have hhear : service.hear occasion = service.attend incident := by
      rw [Service.hear, hincident]
    have numbered : (service.facing incident.now incident.faults).IsNumbered := h.numbered
    rw [hhear] at hwired ⊢
    exact ⟨(h.invariant.facing _ _).of_react _ _ _ _, hwired,
      numbered.react h.invariant.sound _ _ _ _⟩

/-- Whatever leaves on an occasion is for its client, or for somebody who has just written to the
handler. -/
theorem addressee_of_mem_sent (wired : service.Wired)
    (bound : ∀ handler ∈ service.server.handlers, handler.IsBoundTo handler.client)
    {datagram : Datagram} (h : datagram ∈ service.sent occasion) :
    datagram.destination = occasion.client ∨
      ∃ payload, occasion.matter = .stimulus (.reception (.datagram datagram.destination payload)) := by
  cases service.hears wired occasion with
  | ignored nobody hear_eq sent_eq =>
    rw [sent_eq] at h
    exact absurd h List.not_mem_nil
  | opens matter_eq listens server_eq machine_eq sent_eq =>
    rw [sent_eq, machine_eq] at h
    exact .inl (Machine.goesTo_of_meets (Handler.goesTo_open? _ _ _ _ _ _) rfl datagram h)
  | @works stimulus handler front back matter_eq found handlers_eq server_eq machine_eq sent_eq =>
    obtain ⟨hmem, hclient⟩ := mem_of_handlerOf? found
    have meets := (bound handler hmem).goesTo_react stimulus.event occasion.now occasion.since
    rw [sent_eq, machine_eq] at h
    rcases Machine.goesTo_of_meets meets rfl datagram h with hpeer | ⟨payload, hevent⟩
    · exact .inl (hpeer.trans hclient)
    · right
      refine ⟨payload, matter_eq.trans ?_⟩
      cases stimulus with
      | alarm => cases hevent
      | reception reception =>
        cases reception with
        | error error => cases hevent
        | datagram source received =>
          cases hevent
          rfl

/-! ### Hosts with enough of everything -/

/-- At most one more socket is open afterwards. -/
theorem length_sockets_hear (wired : service.Wired) (port : service.HasPort) (occasion : Occasion) :
    (service.hear occasion).machine.network.sockets.length ≤
      service.machine.network.sockets.length + 1 := by
  have shorter {sockets : List SocketAddress} {kept : Bool} {socket : SocketAddress} :
      (if kept then sockets else sockets.filter (· ≠ socket)).length ≤ sockets.length := by
    split
    · exact Nat.le_refl _
    · exact List.length_filter_le _ _
  cases service.hears wired occasion with
  | ignored nobody hear_eq =>
    rw [hear_eq]
    exact Nat.le_succ _
  | @opens datagram listener matter_eq listens server_eq machine_eq =>
    have port_at : (service.machineAt occasion).network.sockets.length < 65536 := port
    rw [machine_eq]
    rcases Handler.open?_cases port_at occasion.client (datagram.take requestBuffer)
        service.server.root service.server.config occasion.now occasion.since with
      ⟨-, error, -, hrun, -⟩ | ⟨fresh, nextPort, -, -, -, hrun, -⟩
    · rw [opening, hrun]
      exact Nat.le_succ _
    · have serves := Handler.serves_attend fresh occasion.client (datagram.take requestBuffer)
        service.server.root service.server.config occasion.now occasion.since
      have hlength : ((service.machineAt occasion).opened fresh nextPort).network.sockets.length =
          service.machine.network.sockets.length + 1 := List.length_append
      rw [opening, hrun, serves.sockets, ← hlength]
      exact shorter
  | @works stimulus handler front back matter_eq found handlers_eq server_eq machine_eq =>
    have serves := handler.serves_react stimulus.event occasion.now occasion.since
    rw [machine_eq, serves.sockets]
    exact Nat.le_succ_of_le shorter

/-- A host with a port for each request and a device without a limit has what it takes. -/
theorem Orderly.always_suffices (h : service.Orderly) (unlimited : service.files.free = none)
    (occasions : List Occasion)
    (ports : service.machine.network.sockets.length + occasions.length ≤ 65536) :
    service.Always Suffices occasions := by
  induction occasions generalizing service with
  | nil => trivial
  | cons occasion rest ih =>
    rw [List.length_cons] at ports
    have port : service.HasPort := by
      unfold HasPort
      omega
    have more := length_sockets_hear h.wired port occasion
    refine ⟨⟨fun _ ↦ port, fun incident _ ↦ ?_⟩, ih (h.hear fun _ ↦ port) ?_ ?_⟩
    · exact Machine.hasRoom_of_unlimited _ unlimited
    · exact (service.spends_hear occasion).unlimited unlimited
    · omega

end Service

end Lockstep
