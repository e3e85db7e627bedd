import Lockstep.Proofs.Meetings

/-!
# Calls that move a file

A call that sends a file to a server or receives one from it, from its start to its end. When it has
ended the file that was made holds what the other one holds, the call tells what was moved, and the
server listens as before.
-/

namespace Lockstep

open Session FileSystem Activity

/-- The call `id` has moved a file: the server listens as before, and nothing else has changed but
what the file holds. -/
structure World.Moved (station : Station) (id : String) (stream : Bytes) (files : FileSystem)
    (file : FileId) (content : Bytes) (spare : Nat) (before after : World) : Prop where
  hosts : after.Hosts station
  now : after.now = before.now
  reports : after.reports = ⟨id, before.now,
    .fileCallEnded (.ok ⟨blockCount stream, stream.length⟩)⟩ :: before.reports
  files : files.SameBut after.machine.files file
  stored : ∃ contents, after.machine.files.file? file = some { contents } ∧
    contents.toBytes = content
  room : after.machine.files.free.all (spare ≤ ·)

namespace Meeting

variable (meeting : Meeting)

/-- The request that the call sends to the well-known port. -/
def request (role : Role) (remote : String) : Datagram :=
  ⟨meeting.world.now, meeting.near.sourceFor meeting.station.listener, meeting.station.listener,
    (role.request (.inMode remote meeting.config.mode)).encode⟩

/-- The call has been started, and its request is on its way. -/
structure Asked (role : Role) (remote : String) (files : FileSystem) (party : Party)
    (transfer : Transfer) (world : World) : Prop where
  activities : world.activities = [meeting.station.activity, party.activity transfer]
  machine : world.machine =
    Machine.posting { meeting.world.machine with files, network := meeting.asked }
      (meeting.request role remote)
  reports : world.reports = meeting.world.reports
  ports : party.ports = []
  socket : transfer.socket = meeting.near
  deadline : meeting.world.now < transfer.exchange.deadline

variable {meeting} {role : Role} {remote : String} {files : FileSystem} {party : Party}
  {transfer : Transfer} {world : World}

theorem Asked.now_eq (h : meeting.Asked role remote files party transfer world) :
    world.now = meeting.world.now := by
  rw [World.now, h.machine]
  rfl

theorem Asked.isCalm (h : meeting.Asked role remote files party transfer world) :
    world.IsCalm := by
  have hseats : world.activities = Role.receiver.seats (some meeting.station.activity)
      (some (party.activity transfer)) := h.activities
  refine World.isCalm_of_seats hseats ?_ (party.deadline_of_mem (h.now_eq ▸ h.deadline))
  intro activity hactivity alarm halarm
  cases hactivity
  rw [meeting.station.alarms_activity] at halarm
  exact absurd halarm List.not_mem_nil

/-- The request reaches the server. -/
theorem Asked.exists_steps (h : meeting.Asked role remote files party transfer world)
    {handler : Handler} {after : Machine}
    (hrun : Machine.run { meeting.world.machine with files, network := meeting.asked }
      (Handler.open? (meeting.request role remote).source
        ((meeting.request role remote).payload.take requestBuffer) meeting.station.server.root
        meeting.station.server.config meeting.world.now world.waits) = (some handler, after)) :
    ∃ next, world.Steps next ∧
      next.activities = [meeting.station.serving handler, party.activity transfer] ∧
      next.machine = after ∧ next.reports = meeting.world.reports := by
  have hempty : (Machine.mk meeting.world.machine.now files meeting.asked).network.outbox = [] :=
    meeting.hosts.outbox
  have houtbox : world.machine.network.outbox = [meeting.request role remote] := by
    rw [h.machine]
    exact Machine.outbox_posting hempty _
  have listens : meeting.station.listener ∈ world.machine.network.sockets := by
    rw [h.machine]
    exact meeting.listens
  have apart : ∀ activity ∈ some (party.activity transfer),
      meeting.station.listener ∉ activity.body.sockets := by
    apply Party.not_mem_sockets
    · rw [h.ports]
      exact List.not_mem_nil
    · rw [h.socket]
      exact meeting.near_ne_listener.symm
  have hseats : world.activities = Role.receiver.seats (some meeting.station.activity)
      (some (party.activity transfer)) := h.activities
  rw [← World.machine_departed_posting h.machine hempty, ← h.now_eq] at hrun
  exact ⟨_, h.isCalm.steps_request hseats houtbox rfl listens apart hrun, rfl, rfl, h.reports⟩

theorem client_peer_ip (meeting : Meeting) : meeting.client.peer.ip = meeting.config.server.ip := by
  rw [meeting.fits.server]
  exact meeting.farIp

/-- A request for a name that fits into a directory can leave. -/
theorem request_isFree (meeting : Meeting) (files : FileSystem) {remote : String}
    (short : textLength remote.toList ≤ maxNameLength) (role : Role) {course : Course}
    {outcome : Course × Machine}
    (posts : Endpoint.Posts { meeting.client with peer := meeting.config.server }
      { meeting.world.machine with files, network := meeting.asked }
      (role.request (.inMode remote meeting.config.mode)).encode course outcome) :
    outcome = (course, Machine.posting
      { meeting.world.machine with files, network := meeting.asked }
      (meeting.request role remote)) := by
  have free : Endpoint.IsFree { meeting.client with peer := meeting.config.server }
      meeting.asked := by
    refine ⟨meeting.hosts.faults, ?_⟩
    rw [meeting.fits.server]
    exact meeting.near_family
  have hlength := length_request_le short role meeting.config.mode
  have houtcome := Endpoint.IsFree.posts free posts (Nat.le_trans hlength (by decide))
  rw [meeting.fits.server] at houtcome
  exact houtcome

/-- A call that sends a file asks for it. -/
theorem exists_asked_write (meeting : Meeting) {path : Path} {handle : Handle}
    (hopen : meeting.world.machine.files.openFile path = .ok handle) {remote : String}
    (short : textLength remote.toList ≤ maxNameLength) (id : String) :
    ∃ call transfer, call.upload = none ∧ Asking meeting.client handle transfer ∧
      meeting.Asked .sender remote meeting.world.machine.files (.caller id call) transfer
        (meeting.world.start (startWriteFile id meeting.config path remote false)) := by
  obtain ⟨transfer, asking, hdeadline, posts⟩ := Asking.run_send meeting.client handle
    meeting.client_peer_ip { meeting.world.machine with network := meeting.asked }
    (Role.sender.request (.inMode remote meeting.config.mode)).encode meeting.world.now
    meeting.world.waits
  have houtcome := meeting.request_isFree meeting.world.machine.files short .sender posts
  obtain ⟨call, hcall, hrun⟩ := Client.run_startWriteFile id hopen
    (Client.run_start meeting.bindNear houtcome)
  refine ⟨call, transfer, hcall, asking, ?_⟩
  rw [World.start_eq, hrun]
  refine ⟨?_, rfl, rfl, rfl, asking.socket_eq, ?_⟩
  · rw [meeting.hosts.activities]
    rfl
  · rw [hdeadline]
    exact Nat.lt_add_of_pos_right meeting.fits.isPatient

/-- A call that receives a file makes it and waits for the first block. -/
theorem exists_asked_read (meeting : Meeting) {path : Path} {files : FileSystem} {file : FileId}
    (hcreate : meeting.world.machine.files.createFile path = .ok (files, file)) {content : Bytes}
    {spare : Nat} (grows : FileWriter.Grows { file } files [] (content.length + spare))
    {remote : String} (short : textLength remote.toList ≤ maxNameLength) (id : String) :
    ∃ call transfer, call.upload = some { path, file } ∧
      Storing meeting.client file content spare 0 files transfer ∧
      meeting.Asked .receiver remote files (.caller id call) transfer
        (meeting.world.start (startReadFile id meeting.config remote path false)) := by
  obtain ⟨transfer, storing, hdeadline, posts⟩ := Storing.run_receive
    (meeting.client.admits_requesting meeting.client_peer_ip) rfl
    (show FileWriter.Grows { file } (Machine.files
      { meeting.world.machine with files, network := meeting.asked }) []
        (content.length + spare) from grows)
    (Role.receiver.request (.inMode remote meeting.config.mode)).encode meeting.world.now
    meeting.world.waits
  have houtcome := meeting.request_isFree files short .receiver posts
  obtain ⟨call, hcall, hrun⟩ := Client.run_startReadFile id hcreate
    (Client.run_start meeting.bindNear houtcome)
  refine ⟨call, transfer, hcall, storing, ?_⟩
  rw [World.start_eq, hrun]
  refine ⟨?_, rfl, rfl, rfl, storing.socket_eq, ?_⟩
  · rw [meeting.hosts.activities]
    rfl
  · rw [hdeadline]
    exact Nat.lt_add_of_pos_right meeting.fits.isPatient

/-! ## The answer -/

/-- The server takes the name for the path. -/
def Resolves (meeting : Meeting) (files : FileSystem) (remote : String) (path : Path) : Prop :=
  Machine.run { meeting.world.machine with files, network := meeting.answered }
      (Server.resolve meeting.station.server.root remote) =
    (.ok path, { meeting.world.machine with files, network := meeting.answered })

/-- The server opens its socket and serves the request. -/
theorem run_open? (meeting : Meeting) (files : FileSystem) {remote : String}
    (accepted : Filename.check remote = .ok ()) (short : textLength remote.toList ≤ maxNameLength)
    (role : Role) (since : Nat) :
    Machine.run { meeting.world.machine with files, network := meeting.asked }
        (Handler.open? (meeting.request role remote).source
          ((meeting.request role remote).payload.take requestBuffer) meeting.station.server.root
          meeting.station.server.config meeting.world.now since) =
      Machine.run { meeting.world.machine with files, network := meeting.answered }
        (Handler.serve meeting.far meeting.handler.peer meeting.station.server.root
          meeting.station.server.config
          ⟨role.opposite, .inMode remote meeting.config.mode, meeting.config.mode⟩
          meeting.world.now since) := by
  have hlength := length_request_le short role meeting.config.mode
  have hwhole : (meeting.request role remote).payload.take requestBuffer =
      (role.request (.inMode remote meeting.config.mode)).encode :=
    List.take_of_length_le (Nat.le_trans hlength (by decide))
  have admitted := Admission.ofDatagram_request accepted role meeting.config.mode
  rw [← hwhole] at admitted
  exact Handler.run_open? meeting.station.localBind meeting.bindFar admitted

theorem handler_isFree (meeting : Meeting) : meeting.handler.IsFree meeting.answered :=
  ⟨meeting.hosts.faults, meeting.handler_reaches.family⟩

/-- A request to write is answered when the file is made. -/
theorem exists_taken_write (meeting : Meeting) (files : FileSystem) {remote : String}
    (accepted : Filename.check remote = .ok ()) (short : textLength remote.toList ≤ maxNameLength)
    {path : Path} (resolves : meeting.Resolves files remote path)
    {made : FileSystem} {file : FileId} (hcreate : files.createFile path = .ok (made, file))
    {content : Bytes} {spare : Nat}
    (grows : FileWriter.Grows { file } made [] (content.length + spare)) (since : Nat) :
    ∃ transfer, Storing meeting.handler file content spare 0 made transfer ∧
      meeting.world.now < transfer.exchange.deadline ∧
      Machine.run { meeting.world.machine with files, network := meeting.asked }
          (Handler.open? (meeting.request .sender remote).source
            ((meeting.request .sender remote).payload.take requestBuffer)
            meeting.station.server.root meeting.station.server.config meeting.world.now since) =
        (some { client := meeting.handler.peer, transfer, upload := some { path, file } },
          Machine.posting { meeting.world.machine with files := made, network := meeting.answered }
            (meeting.handler.datagram meeting.world.now (ackPacket 0))) := by
  obtain ⟨transfer, storing, hdeadline, posts⟩ := Storing.run_receive
    meeting.handler.admits_session rfl
    (show FileWriter.Grows { file } (Machine.files
      { meeting.world.machine with files := made, network := meeting.answered }) []
        (content.length + spare) from grows)
    (ackPacket 0) meeting.world.now since
  have houtcome := Endpoint.IsFree.posts meeting.handler_isFree posts
    (length_ackPacket_le 0)
  refine ⟨transfer, storing, ?_, ?_⟩
  · rw [hdeadline]
    exact Nat.lt_add_of_pos_right meeting.station.isPatient
  · rw [meeting.run_open? files accepted short]
    exact Handler.run_serve_write resolves hcreate houtcome

/-- A request to read is answered with the first block. -/
theorem exists_taken_read (meeting : Meeting) (files : FileSystem) {remote : String}
    (accepted : Filename.check remote = .ok ()) (short : textLength remote.toList ≤ maxNameLength)
    {path : Path} (resolves : meeting.Resolves files remote path)
    (hregular : files.isRegularFile path = .ok true) {handle : Handle}
    (hopen : files.openFile path = .ok handle) {content : Bytes}
    (offers : files.Offers handle content) (since : Nat) :
    ∃ transfer,
      Serving meeting.handler handle (meeting.config.mode.wire content) 0 files transfer ∧
      meeting.world.now < transfer.exchange.deadline ∧
      Machine.run { meeting.world.machine with files, network := meeting.asked }
          (Handler.open? (meeting.request .receiver remote).source
            ((meeting.request .receiver remote).payload.take requestBuffer)
            meeting.station.server.root meeting.station.server.config meeting.world.now since) =
        (some { client := meeting.handler.peer, transfer, upload := none },
          Machine.posting { meeting.world.machine with files, network := meeting.answered }
            (meeting.handler.datagram meeting.world.now
              (dataPacket (meeting.config.mode.wire content) 0))) := by
  obtain ⟨transfer, serving, hdeadline, hrun⟩ := Serving.run_start
    (show (Machine.files { meeting.world.machine with files, network := meeting.answered }).Offers
      handle content from offers)
    meeting.handler_isFree meeting.world.now since
  refine ⟨transfer, serving, ?_, ?_⟩
  · rw [hdeadline]
    exact Nat.lt_add_of_pos_right meeting.station.isPatient
  · rw [meeting.run_open? files accepted short]
    exact Handler.run_serve_read resolves hregular hopen hrun

/-! ## Calls from the start to the end -/

/-- When the transfer between the two sockets has ended the world is ready for another one. -/
theorem moved_of_ends (meeting : Meeting) {scene : Scene} {spare : Nat} {id : String}
    {before last : World} (ends : scene.Ends spare before last)
    (now : before.now = meeting.world.now) (reports : before.reports = meeting.world.reports)
    (activities : scene.role.seats scene.sending.rest scene.receiving.rest =
      [meeting.station.activity])
    (sockets : last.machine.network.sockets = meeting.world.machine.network.sockets)
    (news : scene.receiving.news scene.summary ++ scene.sending.news scene.summary =
      [(id, .fileCallEnded (.ok scene.summary))]) :
    World.Moved meeting.station id scene.wire before.machine.files scene.file scene.content spare
      meeting.world last where
  hosts :=
    { activities := ends.activities.trans activities
      listens := sockets ▸ meeting.hosts.listens
      room := sockets ▸ meeting.hosts.room
      faults := ends.faults
      outbox := ends.outbox }
  now := ends.now.trans now
  reports := by
    rw [ends.reports, news, ← now, ← reports]
    rfl
  files := ends.files
  stored := ends.stored
  room := ends.room

/-- A file is sent to the server. -/
def uploadScene (meeting : Meeting) (id : String) {call : Client.FileCall}
    (hcall : call.upload = none) (upload : Upload) {handle : Handle} (content : Bytes)
    (untouched : handle ≠ .file upload.file) : Scene where
  role := .sender
  sender := meeting.client
  receiver := meeting.handler
  sending := .caller id call
  receiving := .handler meeting.station meeting.handler.peer (some upload)
  handle
  file := upload.file
  content
  toReceiver := meeting.client_reaches
  toSender := meeting.handler_reaches
  apart := meeting.near_ne_far
  senderPorts hmem := meeting.near_ne_listener (List.mem_singleton.mp hmem)
  receiverPorts hmem := meeting.far_ne_listener (List.mem_singleton.mp hmem)
  sends := hcall
  receives := rfl
  untouched

/-- A file is received from the server. -/
def downloadScene (meeting : Meeting) (id : String) {call : Client.FileCall} {upload : Upload}
    (hcall : call.upload = some upload) {handle : Handle} (content : Bytes)
    (untouched : handle ≠ .file upload.file) : Scene where
  role := .receiver
  sender := meeting.handler
  receiver := meeting.client
  sending := .handler meeting.station meeting.handler.peer none
  receiving := .caller id call
  handle
  file := upload.file
  content
  toReceiver := meeting.handler_reaches
  toSender := meeting.client_reaches
  apart := meeting.near_ne_far.symm
  senderPorts hmem := meeting.far_ne_listener (List.mem_singleton.mp hmem)
  receiverPorts hmem := meeting.near_ne_listener (List.mem_singleton.mp hmem)
  sends := rfl
  receives := by
    rw [Party.upload, hcall]
    rfl
  untouched

/-- The server has taken the request to write, and the call begins with the file. -/
theorem exists_begun (meeting : Meeting) {id : String} {call : Client.FileCall}
    (hcall : call.upload = none) {upload : Upload} {handle : Handle} {content : Bytes} {spare : Nat}
    (untouched : handle ≠ .file upload.file) {files : FileSystem} {asking storing : Transfer}
    (hasking : Asking meeting.client handle asking)
    (hstoring : Storing meeting.handler upload.file content spare 0 files storing)
    (patient : meeting.world.now < asking.exchange.deadline)
    (patient' : meeting.world.now < storing.exchange.deadline)
    (offers : files.Offers handle content) {world : World}
    (hactivities : world.activities =
      [meeting.station.serving
          { client := meeting.handler.peer, transfer := storing, upload := some upload },
        (Party.caller id call).activity asking])
    (hmachine : world.machine = Machine.posting
      { meeting.world.machine with files, network := meeting.answered }
      (meeting.handler.datagram meeting.world.now (ackPacket 0)))
    (hreports : world.reports = meeting.world.reports) :
    ∃ next, world.Steps next ∧
      (meeting.uploadScene id hcall upload content untouched).Underway spare 0 0 meeting.client
        (dataPacket (meeting.config.mode.wire content) 0) next ∧
      next.now = meeting.world.now ∧ next.reports = meeting.world.reports ∧
      next.machine.files = files ∧ next.machine.network.sockets = meeting.answered.sockets := by
  let scene := meeting.uploadScene id hcall upload content untouched
  let machine : Machine := { meeting.world.machine with files, network := meeting.answered }
  have hnow : world.now = meeting.world.now := by
    rw [World.now, hmachine]
    rfl
  have hseats : world.activities = Role.sender.seats (some (scene.sending.activity asking))
      (some (scene.receiving.activity storing)) := hactivities
  have calm : world.IsCalm := World.isCalm_of_seats hseats
    (scene.sending.deadline_of_mem (hnow ▸ patient))
    (scene.receiving.deadline_of_mem (hnow ▸ patient'))
  have hempty : machine.network.outbox = [] := meeting.hosts.outbox
  have houtbox : world.machine.network.outbox =
      [meeting.handler.datagram meeting.world.now (ackPacket 0)] := by
    rw [hmachine]
    exact Machine.outbox_posting hempty _
  have hreceiver : world.machine.network.receiverOf? meeting.handler.peer =
      some meeting.near := by
    rw [hmachine]
    exact meeting.near_hasAlone.receiverOf?_sourceFor _
  have hport : meeting.near ∉ scene.sending.ports := scene.sender_ports.1
  have apart : ∀ activity ∈ some (scene.receiving.activity storing),
      meeting.near ∉ activity.body.sockets := scene.sender_not_mem hstoring.socket_eq
  rw [show meeting.near = asking.socket from hasking.socket_eq.symm] at hport apart hreceiver
  have free : meeting.client.IsFree machine.network :=
    ⟨meeting.hosts.faults, meeting.client_reaches.family⟩
  obtain ⟨serving, hserving, hdeadline, hrun⟩ :=
    hasking.run_accepted (show machine.files.Offers handle content from offers) free world.now
      world.waits
  rw [← meeting.handler_reaches.source] at hrun
  have hdeparted := World.machine_departed_posting hmachine hempty
  have hsteps := calm.steps_running hseats houtbox hreceiver hport apart
    ((congrArg (Machine.run · _) hdeparted).trans hrun)
  refine ⟨_, hsteps, ⟨⟨meeting.hosts.faults, meeting.near_hasAlone.congr rfl,
    meeting.far_hasAlone.congr rfl⟩, ?_, serving, storing, rfl, hserving, hstoring, ?_, patient'⟩,
    rfl, hreports, rfl, rfl⟩
  · exact Machine.outbox_posting hempty _
  · rw [hdeadline, hnow]
    exact Nat.lt_add_of_pos_right meeting.fits.isPatient

/-- A call that sends a file leaves the server with the same file. -/
theorem exists_uploaded (meeting : Meeting) (id : String) {path : Path} {handle : Handle}
    (hopen : meeting.world.machine.files.openFile path = .ok handle) {content : Bytes}
    (offers : meeting.world.machine.files.Offers handle content) {remote : String}
    (accepted : Filename.check remote = .ok ()) (short : textLength remote.toList ≤ maxNameLength)
    {requested : Path}
    (resolves : meeting.Resolves meeting.world.machine.files remote requested)
    {made : FileSystem} {file : FileId} {location : Location}
    (hcreate : meeting.world.machine.files.createFile requested = .ok (made, file))
    (makes : meeting.world.machine.files.MakesAt made location file)
    (untouched : handle ≠ .file file) {spare : Nat}
    (room : meeting.world.machine.files.free.all (content.length + spare ≤ ·)) :
    ∃ last, World.Comes
        (meeting.world.start (startWriteFile id meeting.config path remote false)) last ∧
      World.Moved meeting.station id (meeting.config.mode.wire content) made file content spare
        meeting.world last := by
  obtain ⟨call, asking, hcall, hasking, asked⟩ := meeting.exists_asked_write hopen short id
  have grows : FileWriter.Grows { file } made [] (content.length + spare) :=
    FileWriter.grows_of_new makes.file (makes.free ▸ room)
  obtain ⟨storing, hstoring, patient, hrun⟩ := meeting.exists_taken_write
    meeting.world.machine.files accepted short resolves hcreate grows
    (meeting.world.start (startWriteFile id meeting.config path remote false)).waits
  obtain ⟨taken, hrequest, hactivities, hmachine, hreports⟩ := asked.exists_steps hrun
  have offers' : made.Offers handle content := by
    refine offers.congr ?_
    intro other hother
    exact makes.agrees.files other fun heq ↦ untouched (heq ▸ hother)
  obtain ⟨begun, hanswer, underway, hnow, hreports', hfiles, hsockets⟩ :=
    meeting.exists_begun hcall untouched hasking hstoring asked.deadline patient offers' hactivities
      hmachine hreports
  obtain ⟨last, hcomes, ends⟩ := underway.exists_ends
  have hclosed : last.machine.network.sockets = meeting.world.machine.network.sockets := by
    rw [ends.sockets, hsockets]
    exact meeting.filter_answered
  have moved := meeting.moved_of_ends ends hnow hreports' rfl hclosed rfl
  rw [hfiles] at moved
  exact ⟨last, .head hrequest (.head hanswer hcomes), moved⟩

/-- A call that receives a file leaves a local file that is the same as the one of the server. -/
theorem exists_downloaded (meeting : Meeting) (id : String) {path : Path} {made : FileSystem}
    {file : FileId} {location : Location}
    (hcreate : meeting.world.machine.files.createFile path = .ok (made, file))
    (makes : meeting.world.machine.files.MakesAt made location file) {remote : String}
    (accepted : Filename.check remote = .ok ()) (short : textLength remote.toList ≤ maxNameLength)
    {requested : Path} (resolves : meeting.Resolves made remote requested)
    (hregular : made.isRegularFile requested = .ok true) {handle : Handle}
    (hopen : made.openFile requested = .ok handle) {content : Bytes}
    (offers : made.Offers handle content) (untouched : handle ≠ .file file) {spare : Nat}
    (room : meeting.world.machine.files.free.all (content.length + spare ≤ ·)) :
    ∃ last, World.Comes
        (meeting.world.start (startReadFile id meeting.config remote path false)) last ∧
      World.Moved meeting.station id (meeting.config.mode.wire content) made file content spare
        meeting.world last := by
  have grows : FileWriter.Grows { file } made [] (content.length + spare) :=
    FileWriter.grows_of_new makes.file (makes.free ▸ room)
  obtain ⟨call, storing, hcall, hstoring, asked⟩ :=
    meeting.exists_asked_read hcreate grows short id
  obtain ⟨serving, hserving, patient, hrun⟩ := meeting.exists_taken_read made accepted short
    resolves hregular hopen offers
    (meeting.world.start (startReadFile id meeting.config remote path false)).waits
  obtain ⟨begun, hrequest, hactivities, hmachine, hreports⟩ := asked.exists_steps hrun
  have hnow : begun.now = meeting.world.now := by
    rw [World.now, hmachine]
    rfl
  let scene := meeting.downloadScene id hcall content untouched
  have underway : scene.Underway spare 0 0 meeting.handler
      (dataPacket (meeting.config.mode.wire content) 0) begun := by
    refine ⟨?_, ?_, serving, storing, hactivities, ?_, ?_, hnow ▸ patient, hnow ▸ asked.deadline⟩
    · rw [hmachine]
      exact ⟨meeting.hosts.faults, meeting.far_hasAlone.congr rfl, meeting.near_hasAlone.congr rfl⟩
    · rw [hnow, hmachine]
      exact Machine.outbox_posting meeting.hosts.outbox _
    · rw [hmachine]
      exact hserving
    · rw [hmachine]
      exact hstoring
  obtain ⟨last, hcomes, ends⟩ := underway.exists_ends
  have hclosed : last.machine.network.sockets = meeting.world.machine.network.sockets := by
    rw [ends.sockets, hmachine, List.filter_comm]
    exact meeting.filter_answered
  have moved := meeting.moved_of_ends ends hnow hreports rfl hclosed rfl
  rw [hmachine] at moved
  exact ⟨last, .head hrequest hcomes, moved⟩

end Meeting

end Lockstep
