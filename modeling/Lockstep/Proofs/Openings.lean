import Lockstep.Proofs.Confinement
import Lockstep.Proofs.Vacancies
import Lockstep.Proofs.Scenes

/-!
# How transfers begin

What the two parties do before the first data packet is on its way. A call opens a socket and sends
its request to the well-known port; the server opens a socket of its own, looks for the file that
the request names and answers from there. A call that sends a file begins with it when it is told that
the request was taken, and a call that receives one waits for the first block.
-/

namespace Lockstep

open Session FileSystem Activity

/-! ## Asking -/

/-- The answer may come from any port of the server. -/
theorem Endpoint.admits_requesting (endpoint : Endpoint) {server : SocketAddress}
    (h : endpoint.peer.ip = server.ip) :
    endpoint.Admits (Session.requesting server endpoint.mode endpoint.config) :=
  ⟨by simp only [Session.admit?, requesting, Bool.false_eq_true, if_false, h, if_true], rfl, rfl⟩

/-- The transfer has asked whether it may send the file. -/
structure Asking (endpoint : Endpoint) (handle : Handle) (transfer : Transfer) : Prop where
  socket_eq : transfer.socket = endpoint.socket
  stream : transfer.stream = .reader { handle }
  admits : endpoint.Admits transfer.session
  block : transfer.session.block = 1
  awaited : transfer.exchange.awaited = .acceptance

namespace Asking

variable {endpoint : Endpoint} {handle : Handle} {transfer : Transfer} {machine : Machine}

theorem run_send (endpoint : Endpoint) (handle : Handle) {server : SocketAddress}
    (h : endpoint.peer.ip = server.ip) (machine : Machine) (request : Bytes) (now since : Nat) :
    ∃ next, Asking endpoint handle next ∧
      next.exchange.deadline = now + endpoint.config.timeout ∧
      Endpoint.Posts { endpoint with peer := server } machine request (.running next)
        (machine.run (Transfer.takeTurn endpoint.socket (.reader { handle })
          ((Session.requesting server endpoint.mode endpoint.config).send (some request) now)
          since)) := by
  let session : Session :=
    { Session.requesting server endpoint.mode endpoint.config with stage := .requestSent }
  let exchange : Exchange :=
    { outstanding := request, deadline := session.deadlineFrom now, summary := {},
      awaited := .acceptance }
  have admits := endpoint.admits_requesting h
  have hbinds : session.admit? endpoint.peer =
      some { session with peer := endpoint.peer, bound := true } := by
    simp only [Session.admit?, session, requesting, Bool.false_eq_true, if_false, h, if_true]
  exact ⟨⟨endpoint.socket, .reader { handle }, session, exchange, since⟩,
    ⟨rfl, rfl, ⟨hbinds, admits.mode, admits.config⟩, rfl, rfl⟩, rfl,
    Endpoint.posts_sendToPeer rfl machine request (.waiting session exchange) _ since⟩

/-- The session that has been answered begins like one whose request was taken. -/
theorem react_accepted (h : Asking endpoint handle transfer) (now : Nat) :
    transfer.session.react transfer.exchange (.arrival endpoint.peer (ackPacket 0)) now =
      endpoint.session.send none now := by
  let answered : Session := { transfer.session with peer := endpoint.peer, bound := true }
  have hanswered : answered = { endpoint.session with stage := transfer.session.stage } := by
    have hmode := h.admits.mode
    have hconfig := h.admits.config
    have hblock := h.block
    obtain ⟨socket, stream, ⟨peer, bound, mode, config, block, stage⟩, exchange, since⟩ := transfer
    cases hmode
    cases hconfig
    cases hblock
    rfl
  calc
    _ = answered.read transfer.exchange (ackPacket 0) now := by
      simp only [Session.react, arrive, h.admits.binds, answered]
    _ = answered.beginSending now := by
      rw [ackPacket, read_encodeAck]
      simp only [take, h.awaited, takeAck]
      exact if_pos rfl
    _ = endpoint.session.send none now := by
      rw [hanswered]
      rfl

/-- When the request is taken the first block leaves. -/
theorem run_accepted (h : Asking endpoint handle transfer) {content : Bytes}
    (offers : machine.files.Offers handle content) (free : endpoint.IsFree machine.network)
    (now since : Nat) :
    ∃ next, Serving endpoint handle (endpoint.mode.wire content) 0 machine.files next ∧
      next.exchange.deadline = now + endpoint.config.timeout ∧
      machine.run (transfer.react (.arrival endpoint.peer (ackPacket 0)) now since) =
        (.running next, machine.posting
          (endpoint.datagram machine.now (dataPacket (endpoint.mode.wire content) 0))) := by
  rw [Transfer.run_react, received_ackPacket, h.react_accepted, h.socket_eq, h.stream]
  exact Serving.run_start offers free now since

end Asking

/-! ## Calls -/

/-- The address that the sockets of a client are opened at. -/
def ClientConfig.ip (config : ClientConfig) : Ip :=
  config.transfer.localBind.getD (Ip.unspecified config.server.ip.family)

namespace Client

variable {config : ClientConfig} {role : Role} {remote : String} {stream : Stream}
  {machine after : Machine} {network : Network} {socket : SocketAddress} {transfer : Transfer}
  {now since : Nat}

theorem run_start (hbind : machine.network.bind ⟨config.ip, 0, 0⟩ = (.ok socket, network))
    (hrun : Machine.run { machine with network } (Transfer.takeTurn socket stream
      (opening role (.requesting config.server config.mode config.transfer) remote config.mode now)
      since) = (.running transfer, after)) :
    machine.run (start config role remote stream now since) = (.running transfer, after) := by
  have hanswer : machine.answer (.bind ⟨config.ip, 0, 0⟩) =
      (.ok socket, { machine with network }) := by
    rw [Machine.answer, hbind]
    rfl
  rw [ClientConfig.ip] at hanswer
  unfold start bindEphemeral
  rw [Machine.run_bind, Machine.run_call, hanswer]
  dsimp only
  rw [Machine.run_bind, hrun]
  rfl

/-- A call that sends a local file goes on with a transfer from it. -/
theorem run_startWriteFile (id : String) {path : Path} {handle : Handle}
    (hopen : machine.files.openFile path = .ok handle)
    (hstart : machine.run (start config .sender remote (.reader { handle }) now since) =
      (.running transfer, after)) :
    ∃ call : FileCall, call.upload = none ∧
      machine.run (startWriteFile id config path remote false now since) =
        ({ activity := some ((Party.caller id call).activity transfer) }, after) := by
  refine ⟨⟨?context, none⟩, rfl, ?run⟩
  case run =>
    unfold startWriteFile writeFile
    rw [Machine.run_bind, Machine.run_bind, Machine.run_call, Machine.answer_openFile, hopen]
    dsimp only
    rw [Machine.run_bind, hstart]
    rfl

/-- A call that receives a local file goes on with a transfer into the file that it made. -/
theorem run_startReadFile (id : String) {path : Path} {files : FileSystem} {file : FileId}
    (hcreate : machine.files.createFile path = .ok (files, file))
    (hstart : Machine.run { machine with files } (start config .receiver remote
      (.writer { file }) now since) = (.running transfer, after)) :
    ∃ call : FileCall, call.upload = some { path, file } ∧
      machine.run (startReadFile id config remote path false now since) =
        ({ activity := some ((Party.caller id call).activity transfer) }, after) := by
  have hlocal : machine.run (LocalFile.create path) =
      (.ok (file, path), { machine with files }) := by
    have hanswer : machine.answer (.createFile path) = (.ok file, { machine with files }) := by
      rw [Machine.answer, hcreate]
      rfl
    change machine.run (LocalFile.createFrom path path 1 (999 + 1)) = _
    rw [LocalFile.createFrom, Machine.run_bind, Machine.run_call, hanswer]
    rfl
  refine ⟨⟨?context, some { path, file }⟩, rfl, ?run⟩
  case run =>
    unfold startReadFile readFile
    rw [Machine.run_bind, Machine.run_bind, hlocal]
    dsimp only
    rw [Machine.run_bind, hstart]
    rfl

end Client

/-! ## The answer of the server -/

namespace Handler

variable {machine after : Machine} {network : Network} {socket client : SocketAddress}
  {root path : Path} {config : TransferConfig} {transfer : Transfer} {now since : Nat}

/-- A request that is admitted is served from a new socket. -/
theorem run_open? {ip : Ip} (localBind : config.localBind = some ip)
    (hbind : machine.network.bind ⟨ip, 0, 0⟩ = (.ok socket, network)) {datagram : Bytes}
    {admission : Admission} (admitted : Admission.ofDatagram datagram = .ok admission) :
    machine.run (open? client datagram root config now since) =
      Machine.run { machine with network }
        (serve socket client root config admission now since) := by
  have hanswer : machine.answer (.bind ⟨ip, 0, 0⟩) = (.ok socket, { machine with network }) := by
    rw [Machine.answer, hbind]
    rfl
  unfold open? bindEphemeral
  rw [localBind, Option.getD_some, Machine.run_bind, Machine.run_call, hanswer]
  simp only [admitted]

theorem run_serve_write {filename : String} {mode : Mode}
    (hresolve : machine.run (Server.resolve root filename) = (.ok path, machine))
    {files : FileSystem} {file : FileId}
    (hcreate : machine.files.createFile path = .ok (files, file))
    (hrun : Machine.run { machine with files } (Transfer.takeTurn socket (.writer { file })
      ((Session.accepted client mode config).receive (ackPacket 0) now) since) =
        (.running transfer, after)) :
    machine.run (serve socket client root config
        ⟨.receiver, .inMode filename mode, mode⟩ now since) =
      (some { client, transfer, upload := some { path, file } }, after) := by
  have hanswer : machine.answer (.createFile path) = (.ok file, { machine with files }) := by
    rw [Machine.answer, hcreate]
    rfl
  have hmade : machine.run (Server.openToWrite path) = (.ok file, { machine with files }) := by
    rw [Server.openToWrite, Machine.run_bind, Machine.run_call, hanswer]
    rfl
  unfold serve
  dsimp only [FileRequest.inMode]
  rw [Machine.run_bind, hresolve]
  dsimp only
  unfold serveWrite
  rw [Machine.run_bind, hmade]
  dsimp only
  rw [Machine.run_bind, show Packet.encodeAck 0 = ackPacket 0 from rfl, hrun]
  rfl

theorem run_serve_read {filename : String} {mode : Mode}
    (hresolve : machine.run (Server.resolve root filename) = (.ok path, machine))
    (hregular : machine.files.isRegularFile path = .ok true) {handle : Handle}
    (hopen : machine.files.openFile path = .ok handle)
    (hrun : machine.run (Transfer.takeTurn socket (.reader { handle })
      ((Session.accepted client mode config).send none now) since) = (.running transfer, after)) :
    machine.run (serve socket client root config
        ⟨.sender, .inMode filename mode, mode⟩ now since) =
      (some { client, transfer, upload := none }, after) := by
  have hopened : machine.run (Server.openToRead path) = (.ok handle, machine) := by
    rw [Server.openToRead, Machine.run_bind, Machine.run_call, Machine.answer_isRegularFile,
      hregular]
    dsimp only
    rw [Machine.run_bind, Machine.run_call, Machine.answer_openFile, hopen]
    rfl
  unfold serve
  dsimp only [FileRequest.inMode]
  rw [Machine.run_bind, hresolve]
  dsimp only
  unfold serveRead
  rw [Machine.run_bind, hopened]
  dsimp only
  rw [Machine.run_bind, hrun]
  rfl

end Handler

/-- A server that serves nobody opens a handler for a datagram at the well-known port. -/
theorem Station.run_react (station : Station) {machine after : Machine} {client : SocketAddress}
    {datagram : Bytes} {now since : Nat} {handler : Handler}
    (hrun : machine.run (Handler.open? client (datagram.take requestBuffer) station.server.root
      station.server.config now since) = (some handler, after)) :
    machine.run (station.activity.react station.listener
        (.reception (.datagram client datagram)) now since) =
      ({ activity := some (station.serving handler) }, after) := by
  dsimp only [Station.activity, Activity.react]
  rw [Machine.run_bind]
  unfold reactServer
  rw [if_pos station.isOpen]
  dsimp only
  rw [Server.dispatch, Machine.run_bind, hrun, station.isIdle]
  exact congrArg (·, after) (station.followServer_eq [handler])

/-- The request of a call reaches the server, which begins to serve it. -/
theorem World.IsCalm.steps_request {world : World} {role : Role} {station : Station}
    {other : Option Activity} {datagram : Datagram} {handler : Handler} {after : Machine}
    (calm : world.IsCalm) (h : world.activities = role.seats (some station.activity) other)
    (houtbox : world.machine.network.outbox = [datagram])
    (destination : datagram.destination = station.listener)
    (listens : station.listener ∈ world.machine.network.sockets)
    (apart : ∀ activity ∈ other, station.listener ∉ activity.body.sockets)
    (hrun : (world.departed datagram).machine.run (Handler.open? datagram.source
      (datagram.payload.take requestBuffer) station.server.root station.server.config world.now
        world.waits) = (some handler, after)) :
    world.Steps ((world.departed datagram).pass ({}, after)
      (role.seats (some (station.serving handler)) other)) := by
  have hreceiver : world.machine.network.receiverOf? datagram.destination =
      some station.listener := by
    rw [destination]
    exact Network.receiverOf?_of_mem listens
  have mine : station.listener ∈ station.activity.body.sockets := by
    rw [station.sockets_activity]
    exact List.mem_singleton_self _
  have hsteps := calm.steps_of_seats h houtbox hreceiver mine apart
  rw [station.run_react hrun] at hsteps
  exact hsteps

end Lockstep
