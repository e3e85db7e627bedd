import Lockstep.Proofs.Isolation
import Lockstep.Proofs.Openings
import Lockstep.Proofs.Refusals

/-!
# Encounters of a client and a server

A client has a stream to send, and a server serves it and anybody else. What the server sends reaches
the client late, out of order, several times or not at all. As long as nobody has answered the client,
the answer to a repeated request can end its call: the file that the first request has made is in its
own way. Once a handler has answered it, nothing that the server ever sends can do that any more.
-/

namespace Lockstep

open Dialogue

/-! ## What is sent -/

/-- The datagram that leaves if the call is one to send. -/
def Call.post? (machine : Machine) : Call → Option Datagram
  | .send socket destination packet =>
    some ⟨machine.now, socket.sourceFor destination, destination, packet⟩
  | _ => none

/-- The datagrams that a program has sent, whether they leave or not. -/
def Machine.posts {Result : Type} (machine : Machine) (program : Program Result) : List Datagram :=
  (machine.log program).filterMap fun entry ↦ entry.2.post? entry.1

theorem SocketAddress.port_sourceFor (socket destination : SocketAddress) :
    (socket.sourceFor destination).port = socket.port := by
  unfold sourceFor
  split <;> rfl

theorem Call.exists_of_post? {machine : Machine} {call : Call} {datagram : Datagram}
    (h : call.post? machine = some datagram) :
    ∃ socket, call = .send socket datagram.destination datagram.payload ∧
      datagram.source.port = socket.port := by
  cases call with
  | send socket destination packet =>
    cases h
    exact ⟨socket, rfl, socket.port_sourceFor destination⟩
  | _ => cases h

namespace Machine

variable {Result : Type} {machine : Machine} {program : Program Result} {datagram : Datagram}

theorem exists_of_mem_posts (h : datagram ∈ machine.posts program) :
    ∃ entry ∈ machine.log program, ∃ socket,
      entry.2 = .send socket datagram.destination datagram.payload ∧
        datagram.source.port = socket.port := by
  obtain ⟨entry, hentry, hpost⟩ := List.mem_filterMap.mp h
  exact ⟨entry, hentry, Call.exists_of_post? hpost⟩

/-- What leaves was sent. -/
theorem outbox_run (program : Program Result) (machine : Machine) :
    (machine.run program).2.network.outbox.Sublist
      (machine.network.outbox ++ machine.posts program) := by
  induction program generalizing machine with
  | done result => exact List.sublist_append_left _ _
  | ask call next ih =>
    have hcall : (machine.answer call).2.network.outbox.Sublist
        (machine.network.outbox ++ (call.post? machine).toList) := by
      cases call with
      | send socket destination packet =>
        change (machine.network.send machine.now socket destination packet).2.outbox.Sublist _
        rcases machine.network.send_cases machine.now socket destination packet with
          ⟨error, faults, hsend⟩ | hsend
        · rw [hsend]
          exact List.sublist_append_left _ _
        · rw [hsend]
          exact List.Sublist.refl _
      | bind address =>
        change (machine.network.bind address).2.outbox.Sublist _
        unfold Network.bind
        dsimp only
        repeat' split
        all_goals exact List.sublist_append_left _ _
      | createFile path =>
        simp only [answer]
        cases machine.files.createFile path <;> exact List.sublist_append_left _ _
      | removeFile path =>
        simp only [answer]
        cases machine.files.removeFile path <;> exact List.sublist_append_left _ _
      | _ => exact List.sublist_append_left _ _
    have hposts : machine.posts (.ask call next) =
        (call.post? machine).toList ++ (machine.answer call).2.posts (next (machine.answer call).1) := by
      change List.filterMap _ ((machine, call) :: (machine.answer call).2.log _) = _
      rw [List.filterMap_cons]
      cases call.post? machine <;> rfl
    rw [hposts, ← List.append_assoc]
    exact (ih _ _).trans (hcall.append_right _)

end Machine

/-! ## The client -/

namespace Session

variable {session : Session} {exchange : Exchange} {event : Event} {now : Nat}

/-- A session keeps its peer, unless a datagram reaches it from the one that it binds. -/
theorem keeps_or_binds (session : Session) (exchange : Exchange) (event : Event) (now : Nat) :
    (session.react exchange event now).Meets (fun _ ↦ True) fun progress ↦
      (progress.session.peer = session.peer ∧ progress.session.bound = session.bound) ∨
        ∃ source datagram, event = .arrival source datagram ∧ ¬ session.IsStranger source ∧
          progress.session.peer = source ∧ progress.session.bound = true := by
  have replies := replies allows_anything session exchange trivial event now
  generalize session.react exchange event now = turn at replies
  cases replies with
  | disowns stranger => exact ⟨trivial, fun _ ↦ .inl ⟨rfl, rfl⟩⟩
  | believes native decoded code => exact .inr ⟨_, _, rfl, native, rfl, rfl⟩
  | answers native tells =>
    exact tells.heeds.mono (fun _ _ ↦ trivial) fun _ kept ↦
      .inr ⟨_, _, rfl, native, kept.1, kept.2⟩
  | goesOn unheard tells => exact tells.heeds.mono (fun _ _ ↦ trivial) fun _ kept ↦ .inl kept

end Session

/-- The progress that the session of a transfer makes on a machine. -/
def Transfer.progress (transfer : Transfer) (event : Session.Event) (now : Nat)
    (machine : Machine) : Session.Progress :=
  ((transfer.session.react transfer.exchange (received event) now).run
    (Stream.reply transfer.socket) (transfer.stream, machine)).1

namespace Client

variable {transfer : Transfer} {event : Session.Event} {now since : Nat} {machine : Machine}

theorem run_settle (socket : SocketAddress) (course : Course) (machine : Machine) :
    (machine.run (settle socket course)).1 = course := by
  cases course <;> rfl

theorem exists_course_react (transfer : Transfer) (event : Session.Event) (now since : Nat)
    (machine : Machine) :
    ∃ stream, (machine.run (react transfer event now since)).1 =
      (transfer.progress event now machine).course transfer.socket since stream := by
  refine ⟨((transfer.session.react transfer.exchange (Transfer.received event) now).run
    (Stream.reply transfer.socket) (transfer.stream, machine)).2.1, ?_⟩
  unfold react
  rw [Machine.run_bind, run_settle, Transfer.run_react, Transfer.run_takeTurn]
  rfl

/-- What every turn comes to, whatever it is told. -/
theorem progress_of_meets (machine : Machine) {returns : Session.Progress → Prop}
    (h : (transfer.session.react transfer.exchange (Transfer.received event) now).Meets
      (fun _ ↦ True) returns) : returns (transfer.progress event now machine) :=
  h.returns_of_run _ _

theorem progress_of_running {later : Transfer}
    (running : (machine.run (react transfer event now since)).1 = .running later) :
    transfer.progress event now machine = .waiting later.session later.exchange := by
  obtain ⟨stream, hcourse⟩ := exists_course_react transfer event now since machine
  rw [hcourse] at running
  cases hprogress : transfer.progress event now machine with
  | waiting session exchange =>
    rw [hprogress] at running
    cases running
    rfl
  | ended session result =>
    rw [hprogress] at running
    cases running

theorem progress_of_ended {session : Session} {stream : Stream}
    {result : Except TransferError Summary}
    (ended : (machine.run (react transfer event now since)).1 = .ended session stream result) :
    transfer.progress event now machine = .ended session result := by
  obtain ⟨rest, hcourse⟩ := exists_course_react transfer event now since machine
  rw [hcourse] at ended
  cases hprogress : transfer.progress event now machine with
  | waiting session exchange =>
    rw [hprogress] at ended
    cases ended
  | ended session result =>
    rw [hprogress] at ended
    cases ended
    rfl

/-- A call that goes on keeps its peer, unless a datagram reaches it from the one that it binds. -/
theorem keeps_or_binds {later : Transfer}
    (running : (machine.run (react transfer event now since)).1 = .running later) :
    (later.session.peer = transfer.session.peer ∧ later.session.bound = transfer.session.bound) ∨
      ∃ source payload, event = .arrival source payload ∧ ¬ transfer.session.IsStranger source ∧
        later.session.peer = source ∧ later.session.bound = true := by
  have keeps := progress_of_meets machine
    (transfer.session.keeps_or_binds transfer.exchange (Transfer.received event) now)
  rw [progress_of_running running] at keeps
  refine keeps.imp_right ?_
  rintro ⟨source, datagram, hevent, native, hpeer, hbound⟩
  cases event with
  | arrival origin payload =>
    cases hevent
    exact ⟨source, payload, rfl, native, hpeer, hbound⟩
  | receiveError error => cases hevent
  | expiry => cases hevent

/-- Nobody has answered a call that has just begun. -/
theorem unanswered_start (config : ClientConfig) (remote : String) (stream : Stream)
    (now since : Nat) (machine : Machine)
    (running : (machine.run (start config .sender remote stream now since)).1 = .running transfer) :
    transfer.session.bound = false := by
  unfold start at running
  rw [Machine.run_bind] at running
  generalize machine.run (bindEphemeral config.server config.transfer.localBind) = answered
    at running
  obtain ⟨answer, machine⟩ := answered
  cases answer with
  | error error => cases running
  | ok socket =>
    let session := Session.requesting config.server config.mode config.transfer
    let turn := session.send (some (Packet.writeRequest (.inMode remote config.mode)).encode) now
    have heeds : session.Heeds turn := (Session.Begins.send _).heeds
    have kept := heeds.returns_of_run (Stream.reply socket) (stream, machine)
    dsimp only at running
    rw [Machine.run_bind, run_settle, Transfer.run_takeTurn] at running
    change (turn.run _ _).1.course _ _ _ = _ at running
    cases hprogress : (turn.run (Stream.reply socket) (stream, machine)).1 with
    | ended session result =>
      rw [hprogress] at running
      cases running
    | waiting session exchange =>
      rw [hprogress] at running kept
      cases running
      exact kept.2

end Client

/-- The call of the client has been told that the file exists already. -/
def Course.IsRefused (course : Course) : Prop :=
  ∃ session stream notice, course = .ended session stream (.error (.peer notice)) ∧
    notice.code = .fileAlreadyExists

/-- A call that was answered is refused by its peer only. -/
theorem Client.refuses_of_isRefused {transfer : Transfer} {event : Session.Event}
    {now since : Nat} {machine : Machine} (bound : transfer.session.bound = true)
    (refused : (machine.run (react transfer event now since)).1.IsRefused) :
    ∃ payload, event = .arrival transfer.session.peer payload ∧ Packet.Refuses payload := by
  obtain ⟨session, rest, notice, hended, hcode⟩ := refused
  have hprogress := progress_of_ended hended
  have hturn : Session.Courteous False
      (transfer.session.react transfer.exchange (Transfer.received event) now) ∨ _ :=
    Session.courteous_or_dismissed False.elim (Transfer.received event) now
  rcases hturn with hcourteous | ⟨source, datagram, found, hevent, native, hdecode, -, hturn⟩
  · -- A courteous turn does not end the call like this.
    have fine : Session.Progress.IsFine False (transfer.progress event now machine) :=
      (hcourteous.trace (fun _ _ hfalse ↦ hfalse.elim) (transfer.stream, machine)).2
    rw [hprogress] at fine
    exact absurd rfl (fine notice)
  · have hfound : transfer.progress event now machine =
        .ended { transfer.session.boundTo source with stage := .failed }
          (.error (.peer found)) := by
      unfold Transfer.progress
      rw [hturn]
      rfl
    obtain ⟨-, hresult⟩ := Session.Progress.ended.inj (hprogress.symm.trans hfound)
    cases hresult
    have hsource : source = transfer.session.peer := by
      rwa [Session.isStranger_iff_of_bound bound, Decidable.not_not] at native
    cases event with
    | arrival origin payload =>
      cases hevent
      exact ⟨payload, by rw [hsource], notice, by unfold Packet.notice?; rw [hdecode], hcode⟩
    | receiveError error => cases hevent
    | expiry => cases hevent

/-! ## Encounters -/

/-- The port of the handler that is made for the stimulus, if there is one. -/
def Service.port? (service : Service) (socket : SocketAddress) (stimulus : Stimulus) :
    Option UInt16 :=
  match stimulus with
  | .reception (.datagram client _) =>
    if service.server.listener = some socket then
      (service.machine.answer (.bind (Handler.address client service.server.config))).1.toOption.map
        (·.port)
    else none
  | _ => none

/-- Whoever asks for a file that is being received is refused, from the socket that was opened for
the request. -/
theorem Service.Invariant.exists_refusal {service : Service} (invariant : service.Invariant)
    {upload : Upload} (hupload : upload ∈ service.server.uploads) {listener client : SocketAddress}
    (hlistener : service.server.listener = some listener) {datagram : Bytes}
    {admission : Admission}
    (admitted : Admission.ofDatagram (datagram.take requestBuffer) = .ok admission)
    (role_eq : admission.role = .receiver)
    (resolves : (service.machine.run (Server.resolve service.server.root
      admission.request.filename)).1 = .ok upload.path)
    {socket : SocketAddress}
    (opened : (service.machine.run
      (bindEphemeral client service.server.config.localBind)).1 = .ok socket) (now since : Nat) :
    service.port? listener (.reception (.datagram client datagram)) = some socket.port ∧
      ∃ post ∈ service.machine.posts
          (service.reaction listener (.reception (.datagram client datagram)) now since),
        post.source.port = socket.port ∧ post.payload = Handler.occupied := by
  have hport : service.port? listener (.reception (.datagram client datagram)) =
      some socket.port := by
    change (if _ then _ else _) = _
    rw [if_pos hlistener]
    exact congrArg (fun answer ↦ (Except.toOption answer).map SocketAddress.port) opened
  obtain ⟨-, -, hsends⟩ := invariant.declined hupload hlistener admitted role_eq resolves now since
  obtain ⟨found, hfound⟩ := (hsends socket client Handler.occupied).mpr ⟨opened, rfl, rfl⟩
  refine ⟨hport, ⟨found.now, socket.sourceFor client, client, Handler.occupied⟩, ?_,
    socket.port_sourceFor client, rfl⟩
  exact List.mem_filterMap.mpr ⟨_, hfound, rfl⟩

/-- A client that sends a stream, a server, and what the server has sent so far. -/
structure Encounter where
  client : Course
  service : Service
  posts : List Datagram := []
  /-- The ports that handlers have had. -/
  ports : List UInt16 := []

namespace Encounter

/-- The event can happen to a client that has been sent these datagrams: if a datagram arrives it is
one of them, from the same port. On its way the host may have got another address. -/
def Possible (posts : List Datagram) (event : Session.Event) : Prop :=
  ∀ source payload, event = .arrival source payload →
    ∃ post ∈ posts, post.source.port = source.port ∧ post.payload = payload

/-- What can happen next. The client and the server are on machines of their own, and no port is
given to two handlers. -/
inductive Step (encounter : Encounter) : Encounter → Prop
  | client {transfer : Transfer} (running : encounter.client = .running transfer)
      (event : Session.Event) (possible : Possible encounter.posts event) (machine : Machine)
      (now since : Nat) :
    Step encounter { encounter with
      client := (machine.run (Client.react transfer event now since)).1 }
  | server (socket : SocketAddress) (stimulus : Stimulus) (now since : Nat)
      (fresh : ∀ port ∈ encounter.service.port? socket stimulus, port ∉ encounter.ports) :
    Step encounter { encounter with
      service := encounter.service.react socket stimulus now since
      posts := encounter.posts ++
        encounter.service.machine.posts (encounter.service.reaction socket stimulus now since)
      ports := encounter.ports ++ (encounter.service.port? socket stimulus).toList }
  | stops : Step encounter { encounter with service := encounter.service.stop }
  | passes (now : Nat) (network : Network) (free : Option Nat) :
    Step encounter { encounter with
      service := { encounter.service with
        machine := { now, network, files := { encounter.service.files with free } } } }

/-- A client on one machine sends its request, and a server on another one has been started. -/
def start (client : ClientConfig) (remote : String) (stream : Stream) (host : Machine)
    (server : ServerConfig) (listener : SocketAddress) (machine : Machine) (now since : Nat) :
    Encounter where
  client := (host.run (Client.start client .sender remote stream now since)).1
  service := Service.start server listener machine

/-- What keeps a client that was answered from being refused. -/
structure Sound (encounter : Encounter) : Prop where
  /-- Every datagram comes from a port that a handler has had. -/
  known : ∀ post ∈ encounter.posts, post.source.port ∈ encounter.ports
  /-- Whoever has refused somebody has only ever turned somebody away. -/
  apart : ∀ post ∈ encounter.posts, Packet.Refuses post.payload → ∀ other ∈ encounter.posts,
    other.source.port = post.source.port → Packet.Dismisses other.payload
  handlers : ∀ handler ∈ encounter.service.server.handlers, handler.IsCivil ∧
    handler.transfer.socket.port ∈ encounter.ports ∧
      ∀ post ∈ encounter.posts, post.source.port = handler.transfer.socket.port →
        ¬ Packet.Refuses post.payload
  /-- The peer of a client that was answered has sent it something to go on with. -/
  answered : ∀ transfer, encounter.client = .running transfer → transfer.session.bound = true →
    ∃ post ∈ encounter.posts, post.source.port = transfer.session.peer.port ∧
      ¬ Packet.Dismisses post.payload

variable {encounter later : Encounter}

/-! ### The client -/

theorem Sound.client (h : encounter.Sound) {transfer : Transfer}
    (running : encounter.client = .running transfer) {event : Session.Event}
    (possible : Possible encounter.posts event) (machine : Machine) (now since : Nat) :
    Sound { encounter with
      client := (machine.run (Client.react transfer event now since)).1 } where
  known := h.known
  apart := h.apart
  handlers := h.handlers
  answered transfer' running' bound := by
    rcases Client.keeps_or_binds running' with
      ⟨hpeer, hbound⟩ | ⟨source, payload, rfl, native, hpeer, -⟩
    · obtain ⟨post, hpost, hport, hgoes⟩ := h.answered transfer running (hbound.symm.trans bound)
      exact ⟨post, hpost, hport.trans (congrArg _ hpeer.symm), hgoes⟩
    · obtain ⟨post, hpost, hport, rfl⟩ := possible _ _ rfl
      refine ⟨post, hpost, hport.trans (congrArg _ hpeer.symm), ?_⟩
      -- The call would be over if this had not been something to go on with.
      intro dismisses
      have ends : (transfer.session.react transfer.exchange
          (Transfer.received (.arrival source post.payload)) now).Meets (fun _ ↦ True)
            fun progress ↦ ∃ last result, progress = .ended last result :=
        Session.ended_of_dismisses native dismisses
      obtain ⟨last, result, hended⟩ := Client.progress_of_meets machine ends
      cases (Client.progress_of_running running').symm.trans hended

/-! ### The server -/

/-- A handler that works for somebody sends from a port that has refused nobody. -/
theorem Sound.works (h : encounter.Sound) {service : Service} {new : List Datagram}
    {ports : List UInt16} {port : UInt16} (held : port ∈ ports)
    (kept : ∀ port ∈ encounter.ports, port ∈ ports)
    (unrefused : ∀ post ∈ encounter.posts, post.source.port = port → ¬ Packet.Refuses post.payload)
    (civil : ∀ post ∈ new, post.source.port = port ∧ ¬ Packet.Refuses post.payload)
    (handlers : ∀ handler ∈ service.server.handlers, handler ∈ encounter.service.server.handlers ∨
      handler.IsCivil ∧ handler.transfer.socket.port = port) :
    Sound ⟨encounter.client, service, encounter.posts ++ new, ports⟩ where
  known := by
    refine List.forall_mem_append.mpr ⟨fun post hpost ↦ kept _ (h.known post hpost), ?_⟩
    intro post hpost
    rw [(civil post hpost).1]
    exact held
  apart := by
    refine List.forall_mem_append.mpr ⟨?_, fun post hpost refuses ↦
      absurd refuses (civil post hpost).2⟩
    intro post hpost refuses
    refine List.forall_mem_append.mpr ⟨h.apart post hpost refuses, ?_⟩
    intro other hother hport
    exact absurd refuses (unrefused post hpost (hport.symm.trans (civil other hother).1))
  handlers := by
    intro handler hmem
    rcases handlers handler hmem with hold | ⟨hcivil, hport⟩
    · obtain ⟨hcivil, hheld, hposts⟩ := h.handlers handler hold
      refine ⟨hcivil, kept _ hheld, List.forall_mem_append.mpr ⟨hposts, ?_⟩⟩
      exact fun post hpost _ ↦ (civil post hpost).2
    · refine ⟨hcivil, hport ▸ held, List.forall_mem_append.mpr ⟨?_, ?_⟩⟩
      · exact fun post hpost heq ↦ unrefused post hpost (heq.trans hport)
      · exact fun post hpost _ ↦ (civil post hpost).2
  answered transfer running bound := by
    obtain ⟨post, hpost, hanswers⟩ := h.answered transfer running bound
    exact ⟨post, List.mem_append_left _ hpost, hanswers⟩

/-- Somebody is turned away from a new port. -/
theorem Sound.dismisses (h : encounter.Sound) {service : Service} {new : List Datagram}
    {port : UInt16} (fresh : port ∉ encounter.ports)
    (dismissed : ∀ post ∈ new, post.source.port = port ∧ Packet.Dismisses post.payload)
    (handlers : service.server.handlers = encounter.service.server.handlers) :
    Sound ⟨encounter.client, service, encounter.posts ++ new, encounter.ports ++ [port]⟩ where
  known := by
    refine List.forall_mem_append.mpr ⟨fun post hpost ↦
      List.mem_append_left _ (h.known post hpost), ?_⟩
    intro post hpost
    rw [(dismissed post hpost).1]
    exact List.mem_append_right _ (List.mem_singleton_self port)
  apart := by
    refine List.forall_mem_append.mpr ⟨?_, ?_⟩
    · intro post hpost refuses
      refine List.forall_mem_append.mpr ⟨h.apart post hpost refuses, ?_⟩
      exact fun other hother _ ↦ (dismissed other hother).2
    · intro post hpost _
      refine List.forall_mem_append.mpr ⟨?_, fun other hother _ ↦ (dismissed other hother).2⟩
      intro other hother hport
      rw [(dismissed post hpost).1] at hport
      exact absurd (hport ▸ h.known other hother) fresh
  handlers := by
    intro handler hmem
    rw [handlers] at hmem
    obtain ⟨hcivil, hheld, hposts⟩ := h.handlers handler hmem
    refine ⟨hcivil, List.mem_append_left _ hheld, List.forall_mem_append.mpr ⟨hposts, ?_⟩⟩
    intro post hpost hport
    rw [(dismissed post hpost).1] at hport
    exact absurd (hport ▸ hheld) fresh
  answered transfer running bound := by
    obtain ⟨post, hpost, hanswers⟩ := h.answered transfer running bound
    exact ⟨post, List.mem_append_left _ hpost, hanswers⟩

/-- Nothing is sent and nobody is taken on. -/
theorem Sound.of_handlers (h : encounter.Sound) {service : Service}
    (handlers : service.server.handlers = encounter.service.server.handlers) :
    Sound { encounter with service } where
  known := h.known
  apart := h.apart
  handlers handler hmem := h.handlers handler (handlers ▸ hmem)
  answered := h.answered

/-- A handler is made for a datagram. -/
theorem Sound.opens (h : encounter.Sound) {client : SocketAddress} {datagram : Bytes}
    {now since : Nat} {port? : Option UInt16} {service : Service}
    (port_eq : port? = (encounter.service.machine.answer (.bind
      (Handler.address client encounter.service.server.config))).1.toOption.map (·.port))
    (fresh : ∀ port ∈ port?, port ∉ encounter.ports)
    (server_eq : service.server = { encounter.service.server with
      handlers := encounter.service.server.handlers ++
        (encounter.service.machine.run
          (encounter.service.opening client datagram now since)).1.toList }) :
    Sound ⟨encounter.client, service, encounter.posts ++ encounter.service.machine.posts
      (encounter.service.opening client datagram now since), encounter.ports ++ port?.toList⟩ := by
  unfold Service.opening at server_eq ⊢
  unfold Machine.posts
  rw [Handler.open?_eq, Machine.run_bind, Machine.run_call] at server_eq
  rw [Handler.open?_eq, Machine.log_bind, Machine.run_call, Machine.log_call, List.singleton_append,
    List.filterMap_cons_none rfl]
  generalize encounter.service.machine.answer (.bind
    (Handler.address client encounter.service.server.config)) = answered at port_eq server_eq ⊢
  obtain ⟨answer, machine⟩ := answered
  cases answer with
  | error error =>
    subst port_eq
    have same : service.server.handlers = encounter.service.server.handlers := by
      rw [server_eq]
      exact List.append_nil _
    change Sound ⟨encounter.client, service, encounter.posts ++ [], encounter.ports ++ []⟩
    rw [List.append_nil, List.append_nil]
    exact h.of_handlers same
  | ok socket =>
    subst port_eq
    have fresh : socket.port ∉ encounter.ports := fresh _ rfl
    dsimp only at server_eq ⊢
    cases Handler.settles_attend machine socket client (datagram.take requestBuffer)
        encounter.service.server.root encounter.service.server.config now since with
    | works calls handlers =>
      apply h.works (List.mem_append_right _ (List.mem_singleton_self socket.port))
        fun port hport ↦ List.mem_append_left _ hport
      · exact fun post hpost hport ↦ absurd (hport ▸ h.known post hpost) fresh
      · intro post hpost
        obtain ⟨entry, hentry, origin, hcall, hport⟩ := Machine.exists_of_mem_posts hpost
        obtain ⟨rfl, hcivil⟩ := calls entry hentry _ _ _ hcall
        exact ⟨hport, hcivil⟩
      · rw [server_eq]
        refine List.forall_mem_append.mpr ⟨fun handler hmem ↦ .inl hmem, ?_⟩
        intro handler hnew
        obtain ⟨hcivil, hsocket⟩ := handlers handler (Option.mem_toList.mp hnew)
        exact .inr ⟨hcivil, congrArg _ hsocket⟩
    | dismisses calls nobody =>
      apply h.dismisses fresh
      · intro post hpost
        obtain ⟨entry, hentry, origin, hcall, hport⟩ := Machine.exists_of_mem_posts hpost
        obtain ⟨rfl, hdismisses⟩ := calls entry hentry _ _ _ hcall
        exact ⟨hport, hdismisses⟩
      · rw [server_eq, nobody]
        exact List.append_nil _

/-- Something happens to a handler. -/
theorem Sound.handles (h : encounter.Sound) {handler : Handler} {front back : List Handler}
    {event : Session.Event} {now since : Nat} {service : Service}
    (handlers_eq : encounter.service.server.handlers = front ++ handler :: back)
    (server_eq : service.server = { encounter.service.server with
      handlers := front ++
        (encounter.service.machine.run (handler.react event now since)).1.toList ++ back }) :
    Sound ⟨encounter.client, service, encounter.posts ++
      encounter.service.machine.posts (handler.react event now since), encounter.ports⟩ := by
  have hmem : handler ∈ encounter.service.server.handlers := by
    rw [handlers_eq]
    exact List.mem_append_right _ List.mem_cons_self
  obtain ⟨civil, held, unrefused⟩ := h.handlers handler hmem
  obtain ⟨calls, handlers⟩ := (civil.react event now since).trace
    (fun call machine ↦ Machine.honest call machine) encounter.service.machine
  apply h.works held (fun _ hport ↦ hport) unrefused
  · intro post hpost
    obtain ⟨entry, hentry, origin, hcall, hport⟩ := Machine.exists_of_mem_posts hpost
    obtain ⟨rfl, hcivil⟩ := calls entry hentry _ _ _ hcall
    exact ⟨hport, hcivil⟩
  · intro other hother
    rw [server_eq, List.mem_append, List.mem_append] at hother
    rcases hother with (hfront | hnew) | hback
    · left
      rw [handlers_eq]
      exact List.mem_append_left _ hfront
    · obtain ⟨hcivil, hsocket⟩ := handlers other (Option.mem_toList.mp hnew)
      exact .inr ⟨hcivil, congrArg _ hsocket⟩
    · left
      rw [handlers_eq]
      exact List.mem_append_right _ (List.mem_cons_of_mem _ hback)

theorem Sound.server (h : encounter.Sound) (socket : SocketAddress) (stimulus : Stimulus)
    (now since : Nat)
    (fresh : ∀ port ∈ encounter.service.port? socket stimulus, port ∉ encounter.ports) :
    Sound { encounter with
      service := encounter.service.react socket stimulus now since
      posts := encounter.posts ++
        encounter.service.machine.posts (encounter.service.reaction socket stimulus now since)
      ports := encounter.ports ++ (encounter.service.port? socket stimulus).toList } := by
  have none_of (unasked : encounter.service.server.listener = some socket →
      ∀ client datagram, stimulus ≠ .reception (.datagram client datagram)) :
      encounter.service.port? socket stimulus = none := by
    unfold Service.port?
    split
    · next client datagram =>
      split
      · next hlistener => exact absurd rfl (unasked hlistener client datagram)
      · rfl
    · rfl
  have posts_eq {program : Program (Option Handler)}
      (hlog : encounter.service.machine.log (encounter.service.reaction socket stimulus now since) =
        encounter.service.machine.log program) :
      encounter.service.machine.posts (encounter.service.reaction socket stimulus now since) =
        encounter.service.machine.posts program := congrArg (List.filterMap _) hlog
  cases encounter.service.reacts socket stimulus now since with
  | opens at_port stimulus_eq server_eq machine_eq log_eq =>
    rw [posts_eq log_eq]
    refine h.opens ?_ fresh server_eq
    rw [stimulus_eq]
    exact if_pos at_port
  | closes at_port stimulus_eq failed server_eq machine_eq log_eq =>
    have hposts : encounter.service.machine.posts
        (encounter.service.reaction socket stimulus now since) = [] :=
      congrArg (List.filterMap _) log_eq
    have hport := none_of fun _ client datagram heq ↦ by
      cases stimulus_eq.symm.trans heq
    rw [hposts, hport, Option.toList_none, List.append_nil, List.append_nil]
    exact h.of_handlers (by rw [server_eq])
  | handles at_handler handlers_eq server_eq machine_eq log_eq =>
    have hport := none_of fun hlistener ↦
      absurd hlistener (Service.not_listener_of_handlerAt? at_handler).1
    rw [posts_eq log_eq, hport, Option.toList_none, List.append_nil]
    exact h.handles handlers_eq server_eq
  | ignores nobody unasked server_eq machine_eq log_eq =>
    have hposts : encounter.service.machine.posts
        (encounter.service.reaction socket stimulus now since) = [] :=
      congrArg (List.filterMap _) log_eq
    rw [hposts, none_of unasked, Option.toList_none, List.append_nil, List.append_nil]
    exact h.of_handlers (by rw [server_eq])

/-! ### All that can happen -/

theorem Sound.step (h : encounter.Sound) (hstep : encounter.Step later) : later.Sound := by
  cases hstep with
  | client running event possible machine now since =>
    exact h.client running possible machine now since
  | server socket stimulus now since fresh => exact h.server socket stimulus now since fresh
  | stops => exact h.of_handlers (Service.files_stop _ _).1
  | passes now network free => exact h.of_handlers rfl

/-- The call goes on with a peer that has answered it, or it has ended without being refused. -/
def IsSpared (course : Course) : Prop :=
  (∀ transfer, course = .running transfer → transfer.session.bound = true) ∧ ¬ course.IsRefused

/-- What was sent so far does not refuse a client that was answered. -/
theorem Sound.spared (h : encounter.Sound) (spared : IsSpared encounter.client)
    (hstep : encounter.Step later) : IsSpared later.client := by
  cases hstep with
  | server => exact spared
  | stops => exact spared
  | passes => exact spared
  | @client transfer running event possible machine now since =>
    have bound := spared.1 transfer running
    refine ⟨fun transfer' running' ↦ ?_, fun refused ↦ ?_⟩
    · rcases Client.keeps_or_binds running' with ⟨-, hbound⟩ | ⟨-, -, -, -, -, hbound⟩
      · exact hbound.trans bound
      · exact hbound
    · obtain ⟨payload, rfl, refuses⟩ := Client.refuses_of_isRefused bound refused
      obtain ⟨post, hpost, hport, rfl⟩ := possible _ _ rfl
      -- The peer has sent something to go on with, and from such a port nobody is refused.
      obtain ⟨answer, hanswer, hpeer, hgoes⟩ := h.answered transfer running bound
      exact hgoes (h.apart post hpost refuses answer hanswer (hpeer.trans hport.symm))

theorem sound_start (client : ClientConfig) (remote : String) (stream : Stream) (host : Machine)
    (server : ServerConfig) (listener : SocketAddress) (machine : Machine) (now since : Nat) :
    (start client remote stream host server listener machine now since).Sound where
  known _ hmem := absurd hmem List.not_mem_nil
  apart _ hmem := absurd hmem List.not_mem_nil
  handlers _ hmem := absurd hmem List.not_mem_nil
  answered transfer running bound := by
    have unanswered := Client.unanswered_start client remote stream now since host running
    exact absurd (bound.symm.trans unanswered) Bool.noConfusion

theorem Sound.run (h : encounter.Sound) (steps : Relation.ReflTransGen Step encounter later) :
    later.Sound := by
  induction steps with
  | refl => exact h
  | tail _ hstep ih => exact ih.step hstep

/-- An upload whose request was answered is never refused because its file exists already, whatever
the server sends and whatever becomes of it. -/
theorem not_refused_of_answered (client : ClientConfig) (remote : String) (stream : Stream)
    (host : Machine) (server : ServerConfig) (listener : SocketAddress) (machine : Machine)
    (now since : Nat)
    (reached : Relation.ReflTransGen Step
      (start client remote stream host server listener machine now since) encounter)
    {transfer : Transfer} (running : encounter.client = .running transfer)
    (answered : transfer.session.bound = true)
    (steps : Relation.ReflTransGen Step encounter later) : ¬ later.client.IsRefused := by
  have sound := (sound_start client remote stream host server listener machine now since).run reached
  have spared : IsSpared encounter.client := by
    rw [running]
    refine ⟨?_, ?_⟩
    · rintro _ ⟨⟩
      exact answered
    · rintro ⟨_, _, _, heq, -⟩
      cases heq
  suffices later.Sound ∧ IsSpared later.client from this.2.2
  induction steps with
  | refl => exact ⟨sound, spared⟩
  | tail _ hstep ih => exact ⟨ih.1.step hstep, ih.1.spared ih.2 hstep⟩

/-- A client asks a server on the same host whether it may send three bytes. -/
def small : Encounter :=
  start { server := ⟨.localhost .four, 69, 0⟩ } "a" (.source { data := ⟨#[1, 2, 3]⟩ }) {}
    { root := ['/', 's'] } ⟨.localhost .four, 69, 0⟩ { files := Server.smallTree } 0 0

/-- The request reaches the server, for the first time or again. -/
def asked (encounter : Encounter) : Encounter := { encounter with
  service := encounter.service.react ⟨.localhost .four, 69, 0⟩ Server.smallStimulus 0 0
  posts := encounter.posts ++ encounter.service.machine.posts
    (encounter.service.reaction ⟨.localhost .four, 69, 0⟩ Server.smallStimulus 0 0)
  ports := encounter.ports ++
    (encounter.service.port? ⟨.localhost .four, 69, 0⟩ Server.smallStimulus).toList }

/-- A datagram from a port of the server's host reaches the client, whose transfer this is. -/
def told (encounter : Encounter) (transfer : Transfer) (port : UInt16) (payload : Bytes) :
    Encounter := { encounter with
  client := (({} : Machine).run
    (Client.react transfer (.arrival ⟨.localhost .four, port, 0⟩ payload) 0 1)).1 }

/-- What the request makes of the tree. -/
def filledTree : FileSystem :=
  (Server.smallTree.addFile [['s'], ['a']] { contents := {}, isOpen := true }).1

theorem reaches_filledTree : filledTree.Reaches
    [(['s'], .directory true true [(['a'], .file 1), (['b'], .file 0)])] := by
  have hname : Path.IsName ['s'] := Path.isName_singleton (by decide) (by decide)
  exact ⟨.step .root rfl rfl hname (by decide) fun _ ↦ Node.noConfusion, _, _, _, rfl⟩

theorem run_resolve_filledTree (machine : Machine) (h : machine.files = filledTree) :
    machine.run (Server.resolve ['/', 's'] "a") = (.ok ['/', 's', '/', 'a'], machine) := by
  have hname : Path.IsName ['a'] := Path.isName_singleton (by decide) (by decide)
  have file : filledTree.Reaches [(['a'], .file 1),
      (['s'], .directory true true [(['a'], .file 1), (['b'], .file 0)])] :=
    ⟨.step reaches_filledTree.passes rfl rfl hname (by decide) fun _ ↦ Node.noConfusion,
      reaches_filledTree.root⟩
  have rootAt : machine.files.canonicalize ['/', 's'] = .ok [['s']] := by
    rw [h]
    exact reaches_filledTree.canonicalize_path rfl
  have canonical : machine.files.canonicalize
      (Path.push (Location.path [['s']]) (Path.ofText "a")) = .ok [['s'], ['a']] := by
    rw [h]
    exact file.canonicalize_path rfl
  exact Server.run_resolve_of_found rootAt canonical

/-- The request is taken by a handler, which makes the file and answers. The next request would be
answered from the next port. -/
theorem exists_handler :
    ∃ handler, small.asked.service.server = { small.service.server with handlers := [handler] } ∧
      handler.upload = some { path := ['/', 's', '/', 'a'], file := 1 } ∧
      small.asked.service.machine.files = filledTree ∧
      (small.asked.service.machine.run (bindEphemeral ⟨.localhost .four, 1069, 0⟩
        small.service.server.config.localBind)).1 = .ok ⟨.localhost .four, 50001, 0⟩ ∧
      ∃ post ∈ small.asked.posts,
        post.source.port = 50000 ∧ post.payload = Packet.encodeAck 0 := by
  let machine : Machine := { files := Server.smallTree }
  let network := (machine.network.bind ⟨.localhost .four, 0, 0⟩).2
  let client : SocketAddress := ⟨.localhost .four, 1069, 0⟩
  let opening := small.service.opening client
    (Packet.encodeRequest .writeRequest ⟨"a", "octet"⟩) 0 0
  have hname : Path.IsName ['a'] := Path.isName_singleton (by decide) (by decide)
  have hcreate : Server.smallTree.createFile ['/', 's', '/', 'a'] = .ok (filledTree, 1) :=
    (Server.reaches_smallTree.createFile_path_append hname rfl).trans rfl
  have hserve : Machine.run { machine with network } (Handler.serve ⟨.localhost .four, 50000, 0⟩
      client ['/', 's'] small.service.server.config ⟨.receiver, .inMode "a" .octet, .octet⟩ 0 0) =
        (some _, _) :=
    Handler.run_serve_write (Server.run_resolve_smallTree { machine with network } rfl) hcreate rfl
  have hopening : machine.run opening = (some _, _) :=
    (Handler.run_open? rfl rfl rfl).trans hserve
  have houtbox : ⟨0, ⟨.localhost .four, 50000, 0⟩, client, Packet.encodeAck 0⟩ ∈
      (machine.run opening).2.network.outbox := by
    rw [hopening]
    exact List.mem_singleton_self _
  have hpost := (Machine.outbox_run opening machine).subset houtbox
  cases small.service.reacts ⟨.localhost .four, 69, 0⟩ Server.smallStimulus 0 0 with
  | opens at_port stimulus_eq server_eq machine_eq log_eq =>
    cases stimulus_eq
    have hposts : small.asked.posts = machine.posts opening := congrArg (List.filterMap _) log_eq
    have hserver : small.asked.service.server = { small.service.server with
        handlers := (machine.run opening).1.toList } := server_eq
    have hmachine : small.asked.service.machine = (machine.run opening).2 := machine_eq
    rw [hposts, hserver, hmachine, hopening]
    exact ⟨_, rfl, rfl, rfl, rfl, _, hpost, rfl, rfl⟩
  | closes at_port stimulus_eq => cases stimulus_eq
  | handles at_handler handlers_eq => cases at_handler
  | ignores nobody unasked => exact absurd rfl (unasked rfl _ _)

/-- When the request comes again, another handler refuses it. -/
theorem exists_second_refusal :
    small.asked.service.port? ⟨.localhost .four, 69, 0⟩ Server.smallStimulus = some 50001 ∧
      ∃ post ∈ small.asked.service.machine.posts
          (small.asked.service.reaction ⟨.localhost .four, 69, 0⟩ Server.smallStimulus 0 0),
        post.source.port = 50001 ∧ post.payload = Handler.occupied := by
  obtain ⟨handler, hserver, hupload, hfiles, hbind, -⟩ := exists_handler
  have sound : Server.smallTree.Sound :=
    (FileSystem.Sound.empty.install [['s']] (.directory true true)).addFile [['s'], ['b']]
      { contents := {} }
  have invariant : small.asked.service.Invariant :=
    (Service.invariant_start { root := ['/', 's'] } ⟨.localhost .four, 69, 0⟩ sound).run
      (.single (.reacts ⟨.localhost .four, 69, 0⟩ Server.smallStimulus 0 0))
  have uploads : { path := ['/', 's', '/', 'a'], file := 1 } ∈
      small.asked.service.server.uploads := by
    rw [hserver, Server.uploads, List.filterMap_cons_some hupload]
    exact List.mem_cons_self
  have listens : small.asked.service.server.listener = some ⟨.localhost .four, 69, 0⟩ := by
    rw [hserver]
    rfl
  have admitted : Admission.ofDatagram ((Packet.encodeRequest .writeRequest
      ⟨"a", "octet"⟩).take requestBuffer) = .ok ⟨.receiver, .inMode "a" .octet, .octet⟩ := rfl
  have resolves : (small.asked.service.machine.run
      (Server.resolve small.asked.service.server.root "a")).1 = .ok ['/', 's', '/', 'a'] := by
    rw [hserver]
    exact congrArg Prod.fst (run_resolve_filledTree _ hfiles)
  have opened : (small.asked.service.machine.run (bindEphemeral ⟨.localhost .four, 1069, 0⟩
      small.asked.service.server.config.localBind)).1 = .ok ⟨.localhost .four, 50001, 0⟩ := by
    rw [hserver]
    exact hbind
  exact invariant.exists_refusal uploads listens admitted rfl resolves opened 0 0

/-- The client before it has been answered. -/
def asking : Transfer where
  socket := ⟨.unspecified .four, 50000, 0⟩
  stream := .source { data := ⟨#[1, 2, 3]⟩ }
  session := { Session.requesting ⟨.localhost .four, 69, 0⟩ .octet {} with stage := .requestSent }
  exchange :=
    { outstanding := (Packet.writeRequest (.inMode "a" .octet)).encode
      deadline := 1500
      summary := {}
      awaited := .acceptance }
  since := 0

/-- The server's answer reaches the client. -/
def answered : Encounter :=
  small.asked.told asking 50000 (Packet.encodeAck 0)

/-- The request comes again after it was answered, and the refusal of the handler that is made for it
reaches the client, which goes on. -/
theorem not_refused_of_acceptance :
    ∃ transfer : Transfer, Relation.ReflTransGen Step small answered ∧
      answered.client = .running transfer ∧ transfer.session.bound = true ∧
      Relation.ReflTransGen Step answered (answered.asked.told transfer 50001 Handler.occupied) ∧
      ¬ (answered.asked.told transfer 50001 Handler.occupied).client.IsRefused := by
  obtain ⟨-, -, -, -, -, acceptance, haccepts, hsource, hpayload⟩ := exists_handler
  obtain ⟨hport, refusal, hrefuses, hsource', hpayload'⟩ := exists_second_refusal
  have request : small.Step small.asked := by
    apply Step.server
    exact fun port _ ↦ List.not_mem_nil
  have accepts : Possible small.asked.posts
      (.arrival ⟨.localhost .four, 50000, 0⟩ (Packet.encodeAck 0)) := by
    rintro _ _ ⟨⟩
    exact ⟨acceptance, haccepts, hsource, hpayload⟩
  have answers : small.asked.Step answered := .client rfl _ accepts {} 0 1
  have steps : Relation.ReflTransGen Step small answered := .tail (.single request) answers
  have again : answered.Step answered.asked := by
    apply Step.server
    rintro port hmem
    cases hport.symm.trans hmem
    change _ ∉ [(50000 : UInt16)]
    decide
  have refuses : Possible answered.asked.posts
      (.arrival ⟨.localhost .four, 50001, 0⟩ Handler.occupied) := by
    rintro _ _ ⟨⟩
    exact ⟨refusal, List.mem_append_right _ hrefuses, hsource', hpayload'⟩
  have running : answered.client = .running _ := rfl
  have goesOn : answered.asked.client = .running _ := running
  have turnsAway : answered.asked.Step (answered.asked.told _ 50001 Handler.occupied) :=
    .client goesOn _ refuses {} 0 1
  have further := Relation.ReflTransGen.tail (.single again) turnsAway
  exact ⟨_, steps, running, rfl, further,
    not_refused_of_answered _ _ _ _ _ _ _ _ _ steps running rfl further⟩

theorem decode_occupied :
    Packet.decode (Handler.occupied.take sessionBuffer) =
      .ok (.error (Notice.ofCode .fileAlreadyExists)) := by
  decide +kernel

/-- A client that nobody has answered is refused by the second handler of its own request: if the
request is repeated while the first handler is at work, nothing but a refusal is sent, and when that is
the first to arrive the call is over. -/
theorem exists_refused (invariant : encounter.service.Invariant) {upload : Upload}
    (hupload : upload ∈ encounter.service.server.uploads) {listener client : SocketAddress}
    (hlistener : encounter.service.server.listener = some listener) {datagram : Bytes}
    {admission : Admission}
    (admitted : Admission.ofDatagram (datagram.take requestBuffer) = .ok admission)
    (role_eq : admission.role = .receiver)
    (resolves : (encounter.service.machine.run (Server.resolve encounter.service.server.root
      admission.request.filename)).1 = .ok upload.path)
    {socket : SocketAddress}
    (opened : (encounter.service.machine.run
      (bindEphemeral client encounter.service.server.config.localBind)).1 = .ok socket)
    (fresh : socket.port ∉ encounter.ports) {transfer : Transfer}
    (running : encounter.client = .running transfer) (unanswered : transfer.session.bound = false) :
    ∃ later, Relation.ReflTransGen Step encounter later ∧ later.client.IsRefused := by
  let stimulus : Stimulus := .reception (.datagram client datagram)
  obtain ⟨hport, post, hpost, hsource, hpayload⟩ :=
    invariant.exists_refusal hupload hlistener admitted role_eq resolves opened 0 0
  let asked : Encounter := { encounter with
    service := encounter.service.react listener stimulus 0 0
    posts := encounter.posts ++
      encounter.service.machine.posts (encounter.service.reaction listener stimulus 0 0)
    ports := encounter.ports ++ (encounter.service.port? listener stimulus).toList }
  have request : encounter.Step asked := by
    apply Step.server
    rw [hport]
    rintro _ ⟨⟩
    exact fresh
  let source : SocketAddress := ⟨transfer.session.peer.ip, socket.port, 0⟩
  have possible : Possible asked.posts (.arrival source Handler.occupied) := by
    rintro _ _ ⟨⟩
    exact ⟨post, List.mem_append_right _ hpost, hsource, hpayload⟩
  have running : asked.client = .running transfer := running
  have arrives : asked.Step _ := .client running _ possible {} 0 0
  refine ⟨_, .tail (.single request) arrives, ?_⟩
  obtain ⟨stream, hcourse⟩ := Client.exists_course_react transfer (.arrival source Handler.occupied)
    0 0 {}
  have native : ¬ transfer.session.IsStranger source :=
    fun stranger ↦ (Session.isStranger_iff_of_unbound unanswered).mp stranger rfl
  have hprogress : transfer.progress (.arrival source Handler.occupied) 0 {} =
      .ended { transfer.session.boundTo source with stage := .failed }
        (.error (.peer (Notice.ofCode .fileAlreadyExists))) := by
    unfold Transfer.progress Transfer.received
    dsimp only
    rw [Session.arrive_of_peer native, Session.read, decode_occupied]
    rfl
  rw [hprogress] at hcourse
  exact ⟨_, _, _, hcourse, rfl⟩

end Encounter

end Lockstep
