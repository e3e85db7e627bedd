import Lockstep.Proofs.AllOrNothing
import Lockstep.Proofs.Sockets

/-!
# The sockets of a server

A server holds its well-known port until it is told to stop, and one socket for each of its handlers.
A handler uses no socket but its own, and its socket is closed when it has ended. A datagram at the
well-known port leads to one handler with a socket that nobody else on the host has.
-/

namespace Lockstep

open Dialogue FileSystem

/-! ## Programs at one socket -/

/-- The call is one of a handler at the socket that goes on: it opens and closes no socket. -/
def Call.IsWorkAt (socket : SocketAddress) : Call → Prop
  | .bind _ | .close _ => False
  | .send origin _ _ => origin = socket
  | _ => True

/-- The call uses no other socket, and opens none. -/
def Call.IsAt (socket : SocketAddress) (call : Call) : Prop :=
  call.IsWorkAt socket ∨ call = .close socket

theorem Stream.Permits.isWorkAt {socket : SocketAddress} {stream : Stream} {call : Call}
    (h : stream.Permits socket call) : call.IsWorkAt socket := by
  cases call <;> first | exact trivial | exact h

theorem Call.IsAt.ne_bind {socket address : SocketAddress} {call : Call} (h : call.IsAt socket) :
    call ≠ .bind address := by
  rintro rfl
  rcases h with h | h
  · exact h
  · cases h

/-- Work leaves all sockets as they are. -/
theorem Machine.sockets_of_work {Result : Type} {program : Program Result}
    {socket : SocketAddress} {returns : Result → Prop}
    (h : program.Meets (Call.IsWorkAt socket) returns) (machine : Machine) :
    (machine.run program).2.network.sockets = machine.network.sockets := by
  apply Machine.run_of_meets h (fun before after ↦ after.network.sockets = before.network.sockets)
  · exact fun _ ↦ rfl
  · exact fun h h' ↦ h'.trans h
  · intro call machine hcall
    cases call with
    | bind address => exact hcall.elim
    | close socket => exact hcall.elim
    | send origin destination packet =>
      change (machine.network.send machine.now origin destination packet).2.sockets = _
      rcases machine.network.send_cases machine.now origin destination packet with
        ⟨error, faults, hsend⟩ | hsend
      · rw [hsend]
      · rw [hsend]
    | createFile path =>
      simp only [Machine.answer]
      cases machine.files.createFile path <;> rfl
    | removeFile path =>
      simp only [Machine.answer]
      cases machine.files.removeFile path <;> rfl
    | canonicalize path => rfl
    | isRegularFile path => rfl
    | openFile path => rfl
    | makeDirectories path => rfl
    | readFile handle offset count => rfl
    | readRest handle offset => rfl
    | appendFile id bytes => rfl
    | closeFile id => rfl

namespace Handler

/-- The handler is at work for the client at the socket. -/
def IsFor (client socket : SocketAddress) (handler : Handler) : Prop :=
  handler.client = client ∧ handler.transfer.socket = socket

/-- What a handler of the client at the socket does: it uses no other socket, and closes its own one
exactly if it comes to its end. -/
structure Serves (socket client : SocketAddress) (program : Program (Option Handler)) : Prop where
  meets : program.Meets (Call.IsAt socket) fun handler? ↦ ∀ handler ∈ handler?,
    handler.IsFor client socket
  sockets : ∀ machine : Machine, (machine.run program).2.network.sockets =
    if (machine.run program).1.isSome then machine.network.sockets
    else machine.network.sockets.filter (· ≠ socket)

variable {socket client : SocketAddress}

theorem Serves.bind {First : Type} {first : Program First}
    {next : First → Program (Option Handler)} {returns : First → Prop}
    (work : first.Meets (Call.IsWorkAt socket) returns)
    (h : ∀ result, returns result → Serves socket client (next result)) :
    Serves socket client (first >>= next) where
  meets := (work.mono (fun _ hcall ↦ .inl hcall) fun _ hresult ↦ hresult).bind
    fun result hresult ↦ (h result hresult).meets
  sockets machine := by
    have hnext := h _ (Machine.returns_of_meets work machine)
    rw [Machine.run_bind, hnext.sockets, Machine.sockets_of_work work]

theorem serves_close : Serves socket client (do Program.call (.close socket); return none) where
  meets := ⟨.inr rfl, fun _ handler h ↦ (Option.not_mem_none handler h).elim⟩
  sockets _ := rfl

theorem serves_reject (notice : Notice) : Serves socket client (reject socket client notice) := by
  have hsend : (Program.call (.send socket client (Packet.error notice).encode)).Meets
      (Call.IsWorkAt socket) fun _ ↦ True := meets_question rfl
  exact .bind hsend fun _ _ ↦ serves_close

theorem conclude_isWorkAt (upload : Option Upload) (result : Except TransferError Summary) :
    (Upload.conclude upload result).Meets (Call.IsWorkAt socket) fun _ ↦ True := by
  cases upload with
  | none => exact meets_pure trivial
  | some upload =>
    have hclose : (Program.call (.closeFile upload.file)).Meets (Call.IsWorkAt socket)
        fun _ ↦ True := meets_question trivial
    refine hclose.bind fun _ _ ↦ ?_
    cases result with
    | ok summary => exact meets_pure trivial
    | error error =>
      have hremove : (Program.call (.removeFile upload.path)).Meets (Call.IsWorkAt socket)
          fun _ ↦ True := meets_question trivial
      exact hremove.bind fun _ _ ↦ meets_pure trivial

theorem serves_follow (upload : Option Upload) {course : Course}
    (at_socket : ∀ transfer, course = .running transfer → transfer.socket = socket) :
    Serves socket client (follow socket client upload course) := by
  cases course with
  | running transfer =>
    constructor
    · rintro _ ⟨⟩
      exact ⟨rfl, at_socket transfer rfl⟩
    · exact fun machine ↦ rfl
  | ended session stream result =>
    exact .bind (conclude_isWorkAt upload result) fun _ _ ↦ serves_close

theorem takeTurn_isWorkAt (stream : Stream) (turn : Session.Turn Session.Progress)
    (since : Nat) :
    (Transfer.takeTurn socket stream turn since).Meets (Call.IsWorkAt socket) fun course ↦
      ∀ transfer, course = .running transfer → transfer.socket = socket := by
  refine ((stream.converse_meets socket turn).mono (fun _ h ↦ h.isWorkAt) fun _ h ↦ h).bind
    fun result _ ↦ ?_
  obtain ⟨progress, stream'⟩ := result
  cases progress with
  | waiting session exchange =>
    rintro transfer ⟨⟩
    rfl
  | ended session result =>
    rintro transfer ⟨⟩

/-- A turn of a transfer and what follows it. -/
theorem serves_takeTurn (upload : Option Upload) (stream : Stream)
    (turn : Session.Turn Session.Progress) (since : Nat) :
    Serves socket client
      (Transfer.takeTurn socket stream turn since >>= follow socket client upload) :=
  .bind (takeTurn_isWorkAt stream turn since) fun _ at_socket ↦ serves_follow upload at_socket

theorem serves_react (handler : Handler) (event : Session.Event) (now since : Nat) :
    Serves handler.transfer.socket handler.client (handler.react event now since) :=
  serves_takeTurn _ _ _ _

/-! ## Requests -/

variable {path : Path} {mode : Mode} {config : TransferConfig} {now since : Nat}

theorem serves_serveRead :
    Serves socket client (serveRead socket client path mode config now since) := by
  have hopen : (Server.openToRead path).Meets (Call.IsWorkAt socket) fun _ ↦ True := by
    have hlook : (Program.call (.isRegularFile path)).Meets (Call.IsWorkAt socket)
        fun _ ↦ True := meets_question trivial
    refine hlook.bind fun answer _ ↦ ?_
    split
    · exact meets_pure trivial
    · exact meets_pure trivial
    · have hopen : (Program.call (.openFile path)).Meets (Call.IsWorkAt socket)
          fun _ ↦ True := meets_question trivial
      refine hopen.bind fun answer _ ↦ ?_
      split <;> exact meets_pure trivial
  apply Serves.bind hopen
  intro answer _
  cases answer with
  | error notice => exact serves_reject notice
  | ok handle => exact serves_takeTurn _ _ _ _

theorem serves_serveWrite :
    Serves socket client (serveWrite socket client path mode config now since) := by
  have hopen : (Server.openToWrite path).Meets (Call.IsWorkAt socket) fun _ ↦ True := by
    have hcreate : (Program.call (.createFile path)).Meets (Call.IsWorkAt socket)
        fun _ ↦ True := meets_question trivial
    refine hcreate.bind fun answer _ ↦ ?_
    split <;> exact meets_pure trivial
  apply Serves.bind hopen
  intro answer _
  cases answer with
  | error notice => exact serves_reject notice
  | ok file => exact serves_takeTurn _ _ _ _

/-- What a handler does about the datagram that it was made for, once it has its socket. -/
def attend (socket client : SocketAddress) (datagram : Bytes) (root : Path)
    (config : TransferConfig) (now since : Nat) : Program (Option Handler) :=
  match Admission.ofDatagram datagram with
  | .error refusal => reject socket client refusal.notice
  | .ok admission => serve socket client root config admission now since

theorem serves_attend (socket client : SocketAddress) (datagram : Bytes) (root : Path)
    (config : TransferConfig) (now since : Nat) :
    Serves socket client (attend socket client datagram root config now since) := by
  unfold attend
  split
  · exact serves_reject _
  · next admission _ =>
    have hresolve : (Server.resolve root admission.request.filename).Meets
        (Call.IsWorkAt socket) fun _ ↦ True := by
      refine (Server.resolve_meets root admission.request.filename).mono ?_ fun _ h ↦ h
      rintro _ ⟨path, rfl⟩
      exact trivial
    apply Serves.bind hresolve
    intro answer _
    cases answer with
    | error notice => exact serves_reject notice
    | ok path =>
      dsimp only
      split
      · exact serves_serveRead
      · exact serves_serveWrite

end Handler

/-- A socket on any port is opened at a free one, unless the host does not have the address. -/
theorem Network.bind_ephemeral_cases {network : Network} (room : network.sockets.length < 65536)
    (ip : Ip) :
    (ip.isLocal = false ∧ ∃ error, network.bind ⟨ip, 0, 0⟩ = (.error error, network)) ∨
      ∃ socket nextPort, socket.ip = ip ∧ network.isTaken socket = false ∧
        network.bind ⟨ip, 0, 0⟩ = (.ok socket, network.opened socket nextPort) := by
  cases hlocal : ip.isLocal with
  | true => exact .inr (bind_ephemeral hlocal room)
  | false =>
    left
    rw [bind, hlocal]
    exact ⟨rfl, _, rfl⟩

/-- The machine when one more socket is open. -/
def Machine.opened (machine : Machine) (socket : SocketAddress) (nextPort : Nat) : Machine :=
  { machine with network := machine.network.opened socket nextPort }

namespace Handler

/-- The address that a handler asks the host to open a socket at. -/
def address (client : SocketAddress) (config : TransferConfig) : SocketAddress :=
  ⟨config.localBind.getD (Ip.unspecified client.ip.family), 0, 0⟩

theorem open?_eq (client : SocketAddress) (datagram : Bytes) (root : Path)
    (config : TransferConfig) (now since : Nat) :
    open? client datagram root config now since =
      (Program.call (.bind (address client config)) >>= fun
        | .error _ => pure none
        | .ok socket => attend socket client datagram root config now since) := by
  unfold open? bindEphemeral attend
  congr 1
  funext bound
  cases bound <;> rfl

/-- A datagram is answered from a new socket, or not at all if there is none. -/
theorem open?_cases {machine : Machine} (room : machine.network.sockets.length < 65536)
    (client : SocketAddress) (datagram : Bytes) (root : Path) (config : TransferConfig)
    (now since : Nat) :
    ((address client config).ip.isLocal = false ∧
      ∃ error, machine.answer (.bind (address client config)) = (.error error, machine) ∧
      machine.run (open? client datagram root config now since) = (none, machine) ∧
      machine.log (open? client datagram root config now since) =
        [(machine, .bind (address client config))]) ∨
    ∃ socket nextPort, socket.ip = (address client config).ip ∧
      machine.network.isTaken socket = false ∧
      machine.answer (.bind (address client config)) = (.ok socket, machine.opened socket nextPort) ∧
      machine.run (open? client datagram root config now since) =
        (machine.opened socket nextPort).run
          (attend socket client datagram root config now since) ∧
      machine.log (open? client datagram root config now since) =
        (machine, .bind (address client config)) ::
          (machine.opened socket nextPort).log
            (attend socket client datagram root config now since) := by
  rw [open?_eq, Machine.run_bind, Machine.log_bind, Machine.run_call, Machine.log_call]
  rcases Network.bind_ephemeral_cases room (address client config).ip with
    ⟨away, error, hbind⟩ | ⟨socket, nextPort, hip, free, hbind⟩
  · have hanswer : machine.answer (.bind (address client config)) = (.error error, machine) := by
      change machine.withNetwork (machine.network.bind (address client config)) = _
      exact congrArg machine.withNetwork hbind
    left
    rw [hanswer]
    exact ⟨away, error, rfl, rfl, rfl⟩
  · have hanswer : machine.answer (.bind (address client config)) =
        (.ok socket, machine.opened socket nextPort) := by
      change machine.withNetwork (machine.network.bind (address client config)) = _
      exact congrArg machine.withNetwork hbind
    right
    rw [hanswer]
    exact ⟨socket, nextPort, hip, free, rfl, rfl, rfl⟩

end Handler

/-! ## Sockets that are held -/

/-- The sockets that a server holds: its well-known port, and one for each handler. -/
def Server.sockets (server : Server) : List SocketAddress :=
  server.listener.toList ++ server.handlers.map (·.transfer.socket)

theorem Server.hasFinished_iff {server : Server} : server.hasFinished = true ↔ server.sockets = [] := by
  unfold hasFinished sockets
  cases server.listener <;> cases server.handlers <;> simp

/-- Nothing is done at a socket where nobody is. -/
theorem Server.log_go_of_find?_none {handlers : List Handler} {socket : SocketAddress}
    (machine : Machine) (event : Session.Event) (now since : Nat)
    (h : handlers.find? (·.transfer.socket = socket) = none) :
    machine.log (react.go socket event now since handlers) = [] := by
  induction handlers with
  | nil => rfl
  | cons handler rest ih =>
    rw [List.find?_cons] at h
    split at h
    · cases h
    · next hne =>
      have hsocket : handler.transfer.socket ≠ socket := of_decide_eq_false hne
      rw [react.go, if_neg hsocket, Machine.log_bind, ih h]
      rfl

namespace Service

variable {service : Service} {socket : SocketAddress} {stimulus : Stimulus} {now since : Nat}

/-- The sockets that the server holds are open, and no two of them are the same. -/
structure Wired (service : Service) : Prop where
  opened : ∀ socket ∈ service.server.sockets, socket ∈ service.machine.network.sockets
  distinct : service.server.sockets.Nodup

/-! ### What each stimulus makes of the server -/

/-- The program of the handler that is made for a datagram at the well-known port. -/
def opening (service : Service) (client : SocketAddress) (datagram : Bytes) (now since : Nat) :
    Program (Option Handler) :=
  Handler.open? client (datagram.take requestBuffer) service.server.root service.server.config now
    since

/-- All that can come of a stimulus: a handler is made for a datagram at the well-known port, the
port fails and is closed, the handler at the socket does its work, or nobody takes any notice. -/
inductive Reacts (service : Service) (socket : SocketAddress) (stimulus : Stimulus)
    (now since : Nat) (after : Service) (log : List (Machine × Call)) : Prop
  | opens {client : SocketAddress} {datagram : Bytes}
      (at_port : service.server.listener = some socket)
      (stimulus_eq : stimulus = .reception (.datagram client datagram))
      (server_eq : after.server = { service.server with
        handlers := service.server.handlers ++
          (service.machine.run (service.opening client datagram now since)).1.toList })
      (machine_eq : after.machine =
        (service.machine.run (service.opening client datagram now since)).2)
      (log_eq : log = service.machine.log (service.opening client datagram now since))
  | closes {error : SystemError} (at_port : service.server.listener = some socket)
      (stimulus_eq : stimulus = .reception (.error error)) (failed : error.isBounce = false)
      (server_eq : after.server = { service.server with
        listener := none
        outcome := .error (.ofSystem "TFTP listener receive failed" error) })
      (machine_eq : after.machine =
        { service.machine with network := service.machine.network.close socket })
      (log_eq : log = [(service.machine, .close socket)])
  | handles {handler : Handler} {front back : List Handler}
      (at_handler : service.server.handlerAt? socket = some handler)
      (handlers_eq : service.server.handlers = front ++ handler :: back)
      (server_eq : after.server = { service.server with
        handlers := front ++
          (service.machine.run (handler.react stimulus.event now since)).1.toList ++ back })
      (machine_eq : after.machine =
        (service.machine.run (handler.react stimulus.event now since)).2)
      (log_eq : log = service.machine.log (handler.react stimulus.event now since))
  | ignores (nobody : service.server.handlerAt? socket = none)
      (unasked : service.server.listener = some socket →
        ∀ client datagram, stimulus ≠ .reception (.datagram client datagram))
      (server_eq : after.server = service.server) (machine_eq : after.machine = service.machine)
      (log_eq : log = [])

/-- The well-known port is closed at once, and that is all. -/
theorem run_stop {server : Server} {listener : SocketAddress} (h : server.listener = some listener)
    (machine : Machine) :
    machine.run server.stop = ({ server with listener := none },
        { machine with network := machine.network.close listener }) ∧
      machine.log server.stop = [(machine, .close listener)] := by
  unfold Server.stop
  rw [h]
  exact ⟨rfl, rfl⟩

theorem run_stop_of_none {server : Server} (h : server.listener = none) (machine : Machine) :
    machine.run server.stop = (server, machine) ∧ machine.log server.stop = [] := by
  unfold Server.stop
  rw [h]
  exact ⟨rfl, rfl⟩

/-- At the port a datagram is given to a new handler; an error closes it unless it only tells that a
datagram found nobody. -/
theorem reacts_of_listener (h : service.server.listener = some socket) (stimulus : Stimulus)
    (now since : Nat) :
    service.Reacts socket stimulus now since (service.react socket stimulus now since)
      (service.machine.log (service.reaction socket stimulus now since)) := by
  have nobody : service.server.handlerAt? socket = none := if_pos h
  have unasked : ∀ error client datagram,
      Stimulus.reception (.error error) ≠ .reception (.datagram client datagram) := by
    intro error client datagram heq
    cases heq
  unfold react reaction Activity.reactServer
  rw [if_pos h]
  cases stimulus with
  | alarm => exact .ignores nobody (fun _ _ _ ↦ Stimulus.noConfusion) rfl rfl rfl
  | reception reception =>
    cases reception with
    | datagram client datagram =>
      dsimp only
      rw [Server.dispatch, Machine.run_bind, Machine.log_bind]
      exact .opens h rfl rfl rfl (List.append_nil _)
    | error error =>
      dsimp only
      unfold Server.trip
      split
      · exact .ignores nobody (fun _ ↦ unasked error) rfl rfl rfl
      · next hbounce =>
        let tripped : Server := { service.server with
          outcome := .error (.ofSystem "TFTP listener receive failed" error) }
        have hlistener : tripped.listener = some socket := h
        obtain ⟨hrun, hlog⟩ := run_stop hlistener service.machine
        have failed := Bool.eq_false_iff.mpr hbounce
        exact .closes h rfl failed (congrArg Prod.fst hrun) (congrArg Prod.snd hrun) hlog

theorem reacts (service : Service) (socket : SocketAddress) (stimulus : Stimulus)
    (now since : Nat) :
    service.Reacts socket stimulus now since (service.react socket stimulus now since)
      (service.machine.log (service.reaction socket stimulus now since)) := by
  by_cases hlistener : service.server.listener = some socket
  · exact reacts_of_listener hlistener stimulus now since
  · have hreaction : service.reaction socket stimulus now since =
        service.server.react socket stimulus.event now since :=
      reaction_of_not_listener hlistener
    unfold react
    rw [hreaction, Server.react, Machine.run_bind, Machine.log_bind]
    cases hat : service.server.handlerAt? socket with
    | none =>
      have hfind : service.server.handlers.find? (·.transfer.socket = socket) = none := by
        unfold Server.handlerAt? at hat
        rwa [if_neg hlistener] at hat
      rw [Server.go_of_find?_none service.machine stimulus.event now since hfind,
        Server.log_go_of_find?_none service.machine stimulus.event now since hfind]
      exact .ignores hat (fun h ↦ absurd h hlistener) rfl rfl rfl
    | some handler =>
      have hfind := (not_listener_of_handlerAt? hat).2
      obtain ⟨front, back, hhandlers, hrun, hlog⟩ :=
        Server.go_of_find? service.machine stimulus.event now since hfind
      rw [hrun, hlog]
      exact .handles hat hhandlers rfl rfl (List.append_nil _)

theorem exists_handles {handler : Handler} (h : service.server.handlerAt? socket = some handler)
    (stimulus : Stimulus) (now since : Nat) :
    ∃ front back, service.server.handlers = front ++ handler :: back ∧
      (service.react socket stimulus now since).server = { service.server with
        handlers := front ++
          (service.machine.run (handler.react stimulus.event now since)).1.toList ++ back } ∧
      (service.react socket stimulus now since).machine =
        (service.machine.run (handler.react stimulus.event now since)).2 ∧
      service.machine.log (service.reaction socket stimulus now since) =
        service.machine.log (handler.react stimulus.event now since) := by
  have hlistener := (not_listener_of_handlerAt? h).1
  cases service.reacts socket stimulus now since with
  | opens at_port => exact absurd at_port hlistener
  | closes at_port => exact absurd at_port hlistener
  | ignores nobody => exact absurd (nobody.symm.trans h) nofun
  | handles at_handler handlers_eq server_eq machine_eq log_eq =>
    cases h.symm.trans at_handler
    exact ⟨_, _, handlers_eq, server_eq, machine_eq, log_eq⟩

/-! ### Sockets stay in order -/

namespace Wired

theorem of_machine (h : service.Wired) {after : Service}
    (server_eq : after.server.sockets = service.server.sockets)
    (kept : ∀ socket ∈ service.server.sockets, socket ∈ after.machine.network.sockets) :
    after.Wired where
  opened := server_eq ▸ kept
  distinct := server_eq ▸ h.distinct

/-- One of the sockets is closed and held no longer. -/
theorem of_closed (h : service.Wired) {after : Service} (front back : List SocketAddress)
    (held : service.server.sockets = front ++ socket :: back)
    (held' : after.server.sockets = front ++ back)
    (closed : after.machine.network.sockets =
      service.machine.network.sockets.filter (· ≠ socket)) : after.Wired := by
  have distinct := h.distinct
  rw [held, List.nodup_middle] at distinct
  obtain ⟨hnot, hrest⟩ := List.nodup_cons.mp distinct
  constructor
  · intro other hother
    rw [held'] at hother
    rw [closed, List.mem_filter]
    refine ⟨h.opened other ?_, decide_eq_true fun heq ↦ hnot (heq ▸ hother)⟩
    rw [held]
    rcases List.mem_append.mp hother with hfront | hback
    · exact List.mem_append_left _ hfront
    · exact List.mem_append_right _ (List.mem_cons_of_mem _ hback)
  · rw [held']
    exact hrest

theorem listener_not_mem (h : service.Wired) {listener : SocketAddress}
    (hlistener : service.server.listener = some listener) :
    listener ∉ service.server.handlers.map (·.transfer.socket) := by
  have distinct := h.distinct
  unfold Server.sockets at distinct
  rw [hlistener, Option.toList_some, List.singleton_append] at distinct
  exact (List.nodup_cons.mp distinct).1

/-- No two handlers have one socket. -/
theorem handlerAt?_eq (h : service.Wired) {handler : Handler}
    (hmem : handler ∈ service.server.handlers) :
    service.server.handlerAt? handler.transfer.socket = some handler := by
  have hne : service.server.listener ≠ some handler.transfer.socket :=
    fun hlistener ↦ h.listener_not_mem hlistener (List.mem_map_of_mem hmem)
  unfold Server.handlerAt?
  rw [if_neg hne]
  have hsome : (service.server.handlers.find?
      (·.transfer.socket = handler.transfer.socket)).isSome :=
    List.find?_isSome.mpr ⟨handler, hmem, decide_eq_true rfl⟩
  obtain ⟨found, hfound⟩ := Option.isSome_iff_exists.mp hsome
  have hsocket : found.transfer.socket = handler.transfer.socket := by
    simpa using List.find?_some hfound
  rw [hfound]
  exact congrArg some (List.inj_on_of_nodup_map (List.nodup_append.mp h.distinct).2.1
    (List.mem_of_find?_eq_some hfound) hmem hsocket)

theorem of_handles (h : service.Wired) {after : Service} {handler : Handler}
    {front back : List Handler} {event : Session.Event}
    (handlers_eq : service.server.handlers = front ++ handler :: back)
    (server_eq : after.server = { service.server with
      handlers := front ++ (service.machine.run (handler.react event now since)).1.toList ++ back })
    (machine_eq : after.machine = (service.machine.run (handler.react event now since)).2) :
    after.Wired := by
  have serves := handler.serves_react event now since
  have hsockets := serves.sockets service.machine
  have hreturns := Machine.returns_of_meets serves.meets service.machine
  rw [← machine_eq] at hsockets
  have held : service.server.sockets =
      (service.server.listener.toList ++ front.map (·.transfer.socket)) ++
        handler.transfer.socket :: back.map (·.transfer.socket) := by
    rw [Server.sockets, handlers_eq, List.map_append, List.map_cons, List.append_assoc]
  cases hreact : (service.machine.run (handler.react event now since)).1 with
  | none =>
    rw [hreact] at server_eq hsockets
    apply h.of_closed _ _ held _ hsockets
    rw [server_eq]
    simp [Server.sockets]
  | some handler' =>
    have hsocket := (hreturns handler' hreact).2
    rw [hreact] at server_eq hsockets
    apply h.of_machine
    · rw [server_eq, held]
      simp [Server.sockets, hsocket]
    · intro other hother
      rw [hsockets]
      exact h.opened other hother

theorem of_opens (h : service.Wired) (room : service.machine.network.sockets.length < 65536)
    {after : Service} {client : SocketAddress} {datagram : Bytes}
    (server_eq : after.server = { service.server with
      handlers := service.server.handlers ++
        (service.machine.run (service.opening client datagram now since)).1.toList })
    (machine_eq : after.machine =
      (service.machine.run (service.opening client datagram now since)).2) : after.Wired := by
  unfold opening at server_eq machine_eq
  rcases Handler.open?_cases room client (datagram.take requestBuffer) service.server.root
      service.server.config now since with
    ⟨-, error, -, hrun, -⟩ | ⟨fresh, nextPort, -, free, -, hrun, -⟩
  · rw [hrun] at server_eq machine_eq
    apply h.of_machine
    · rw [server_eq]
      simp [Server.sockets]
    · rw [machine_eq]
      exact h.opened
  · have serves := Handler.serves_attend fresh client (datagram.take requestBuffer)
      service.server.root service.server.config now since
    have hsockets := serves.sockets (service.machine.opened fresh nextPort)
    have hreturns := Machine.returns_of_meets serves.meets (service.machine.opened fresh nextPort)
    have hnew := Network.not_mem_of_free free
    have hheld : fresh ∉ service.server.sockets := fun hmem ↦ hnew (h.opened fresh hmem)
    have hopened : (service.machine.opened fresh nextPort).network.sockets =
        service.machine.network.sockets ++ [fresh] := rfl
    rw [hrun] at server_eq machine_eq
    rw [← machine_eq, hopened] at hsockets
    cases hattend : ((service.machine.opened fresh nextPort).run
        (Handler.attend fresh client (datagram.take requestBuffer) service.server.root
          service.server.config now since)).1 with
    | none =>
      rw [hattend] at server_eq hsockets
      apply h.of_machine
      · rw [server_eq]
        simp [Server.sockets]
      · intro other hother
        have hne : other ≠ fresh := fun heq ↦ hheld (heq ▸ hother)
        rw [hsockets]
        simp [h.opened other hother, hne]
    | some handler =>
      have hsocket := (hreturns handler hattend).2
      rw [hattend] at server_eq hsockets
      have hheld' : after.server.sockets = service.server.sockets ++ [fresh] := by
        rw [server_eq]
        simp [Server.sockets, hsocket]
      constructor
      · intro other hother
        rw [hheld'] at hother
        rw [hsockets]
        rcases List.mem_append.mp hother with hold | hnew
        · exact List.mem_append_left _ (h.opened other hold)
        · exact List.mem_append_right _ hnew
      · rw [hheld', List.nodup_append]
        refine ⟨h.distinct, List.nodup_singleton fresh, ?_⟩
        rintro other hother _ hmem rfl
        exact hheld (List.mem_singleton.mp hmem ▸ hother)

/-- Whatever reaches the server. -/
theorem react (h : service.Wired) (room : service.machine.network.sockets.length < 65536)
    (socket : SocketAddress) (stimulus : Stimulus) (now since : Nat) :
    (service.react socket stimulus now since).Wired := by
  cases service.reacts socket stimulus now since with
  | opens at_port stimulus_eq server_eq machine_eq log_eq =>
    exact h.of_opens room server_eq machine_eq
  | closes at_port stimulus_eq failed server_eq machine_eq log_eq =>
    apply h.of_closed [] (service.server.handlers.map (·.transfer.socket))
    · rw [Server.sockets, at_port]
      rfl
    · rw [server_eq]
      rfl
    · rw [machine_eq]
      rfl
  | handles at_handler handlers_eq server_eq machine_eq log_eq =>
    exact h.of_handles handlers_eq server_eq machine_eq
  | ignores nobody unasked server_eq machine_eq log_eq =>
    exact h.of_machine (by rw [server_eq]) (by rw [machine_eq]; exact h.opened)

theorem stop (h : service.Wired) : service.stop.Wired := by
  cases hlistener : service.server.listener with
  | none =>
    have hrun := (run_stop_of_none hlistener service.machine).1
    unfold Service.stop
    rw [hrun]
    exact h
  | some listener =>
    have hrun := (run_stop hlistener service.machine).1
    apply h.of_closed [] (service.server.handlers.map (·.transfer.socket))
    · rw [Server.sockets, hlistener]
      rfl
    · unfold Service.stop
      rw [hrun]
      rfl
    · unfold Service.stop
      rw [hrun]
      rfl

end Wired

end Service

end Lockstep
