import Lockstep.Proofs.Uploads

/-!
# Requests to a server

What a datagram at the well-known port does to the file system. At most one file is made, where
nothing stood, and it is gone again unless the transfer has begun. A request to write a file that
exists is turned down with a notice that says so.
-/

namespace Lockstep

open FileSystem

/-- Between the two file systems a file was made at the path, and nothing else happened. -/
structure FileSystem.Makes (before after : FileSystem) (path : Path) (id : FileId) : Prop where
  id_eq : id = before.nextId
  vacant : before.labelAt? (Location.ofPath path) = none
  stands : ∃ directory name, after.Stands path id directory name
  empty : after.Stores id []
  agree : before.AgreesBut after (Location.ofPath path) id

/-- A file that is made for a name can be removed again. -/
theorem Server.Resolved.makes {before after : FileSystem} {root name path : Path} {id : FileId}
    (h : Resolved before root name path) (hname : name.IsName)
    (hcreate : before.createFile path = .ok (after, id)) : before.Makes after path id := by
  obtain ⟨rootLocation, rootAt, hpath, vacant, hresult⟩ := h.made hname hcreate
  obtain ⟨rootTrail, -, hroot, rfl⟩ := exists_reaches_of_canonicalize rootAt
  rw [hpath] at hcreate
  obtain ⟨isSearchable, isWritable, entries, above⟩ :=
    hroot.exists_directory_of_createFile hname hcreate
  obtain ⟨rfl, rfl, hshort, husable, -, -⟩ := hroot.of_createFile hname above hcreate
  have passable := hroot.passable above
  have hdirectory := hasDirectory_of_labelAt? passable.writable
  have stands := passable.stands_addFile hname hshort husable vacant
    { contents := {}, isOpen := true }
  have hlocation : Location.ofPath path = rootTrail.location ++ [name] := by
    rw [hpath]
    exact stands.ofPath
  cases hresult
  refine ⟨rfl, ?_, ⟨_, _, hpath ▸ stands⟩, ?_, ?_⟩
  · rw [hlocation]
    exact labelAt?_eq_none_iff.mpr vacant
  · refine ⟨{ contents := {}, isOpen := true }, ?_, rfl⟩
    exact (file?_addFile _ _ _ _).trans (if_pos rfl)
  · rw [hlocation]
    exact .addFile hdirectory vacant _

namespace Server

variable {machine : Machine} {path : Path}

theorem run_openToWrite_of_error {error : SystemError}
    (h : machine.files.createFile path = .error error) :
    machine.run (openToWrite path) = (.error (Notice.ofCode (error.code .writing)), machine) := by
  unfold openToWrite
  rw [Machine.run_bind, Machine.run_call]
  change (Machine.tryFiles machine ((machine.files.createFile path).map _)).2.run _ = _
  simp only [Machine.answer, h]
  rfl

theorem run_openToWrite_of_ok {files : FileSystem} {id : FileId}
    (h : machine.files.createFile path = .ok (files, id)) :
    machine.run (openToWrite path) = (.ok id, { machine with files }) := by
  unfold openToWrite
  rw [Machine.run_bind, Machine.run_call]
  simp only [Machine.answer, h]
  rfl

end Server

namespace Handler

/-- What a datagram at the well-known port leads to: no file is made; or one is made where nothing
stood, which is received or taken away at once. -/
inductive Opens (datagram : Bytes) (before : FileSystem) : Option Handler → FileSystem → Prop
  | refused : Opens datagram before none before
  | reads {handler : Handler} (upload_eq : handler.upload = none)
      (file?_eq : handler.transfer.stream.file? = none) :
    Opens datagram before (some handler) before
  | writes {handler : Handler} {upload : Upload} {admission : Admission} {after : FileSystem}
      (admitted : Admission.ofDatagram datagram = .ok admission)
      (role_eq : admission.role = .receiver) (upload_eq : handler.upload = some upload)
      (mode_eq : handler.transfer.session.mode = admission.mode)
      (file_eq : upload.file = before.nextId) (vacant : before.labelAt? upload.location = none)
      (agree : before.AgreesBut after upload.location before.nextId)
      (tends : handler.Tends upload [] after) :
    Opens datagram before (some handler) after
  | undone {location : Location} {after : FileSystem}
      (vacant : before.labelAt? location = none) (gone : after.labelAt? location = none)
      (agree : before.AgreesBut after location before.nextId) :
    Opens datagram before none after

variable {machine : Machine} {socket client : SocketAddress} {path : Path} {mode : Mode}
  {config : TransferConfig} {now since : Nat}

/-- A session begins to receive into a file that is still empty, or it fails. -/
theorem run_takeTurn_receive (machine : Machine) (socket : SocketAddress) (now since : Nat)
    {session : Session} (bound : session.bound = true) {id : FileId}
    (hempty : machine.files.Stores id []) (packet : Bytes) :
    let result := machine.run
      (Transfer.takeTurn socket (.writer { file := id }) (session.receive packet now) since)
    result.2.files = machine.files ∧
      ((∃ failed rest error, result.1 = .ended failed rest (.error error)) ∨
        ∃ transfer : Transfer, result.1 = .running transfer ∧
          transfer.session.mode = session.mode ∧ transfer.Receives id [] machine.files) := by
  intro result
  obtain ⟨file, hfile, hcontents⟩ := hempty
  have hresult : result = _ := Transfer.run_takeTurn _ _ _ _ _
  rw [hresult, Session.receive, Session.sendToPeer, Dialogue.run, Stream.reply_send]
  cases (machine.network.send machine.now socket session.peer packet).1 with
  | error error => exact ⟨rfl, .inl ⟨_, _, _, rfl⟩⟩
  | ok _ =>
    refine ⟨rfl, .inr ⟨_, rfl, rfl, bound, ?_, { file := id }, rfl, rfl, file, hfile, ?_⟩⟩
    · rw [Mode.read_nil]
    · rw [Mode.read_nil, hcontents]
      rfl

/-- The first turn after a file was made. -/
theorem opens_follow {before : FileSystem} {datagram : Bytes} {admission : Admission} {id : FileId}
    {course : Course} (admitted : Admission.ofDatagram datagram = .ok admission)
    (role_eq : admission.role = .receiver) (makes : before.Makes machine.files path id)
    (hcourse : (∃ failed rest error, course = .ended failed rest (.error error)) ∨
      ∃ transfer : Transfer, course = .running transfer ∧
        transfer.session.mode = admission.mode ∧ transfer.Receives id [] machine.files) :
    Opens datagram before
      (machine.run (follow socket client (some { path, file := id }) course)).1
      (machine.run (follow socket client (some { path, file := id }) course)).2.files := by
  obtain ⟨directory, name, stands⟩ := makes.stands
  rcases hcourse with ⟨failed, rest, error, rfl⟩ | ⟨transfer, rfl, mode_eq, receives⟩
  · have stands' : machine.files.Stands (Upload.path { path, file := id })
        (Upload.file { path, file := id }) directory name := stands
    obtain ⟨hnone, hafter⟩ := run_follow_failed stands' error
    obtain ⟨agree, gone⟩ := stands.discard
    rw [hnone, hafter]
    rw [← stands.ofPath] at agree gone ⊢
    refine .undone makes.vacant gone ?_
    rw [← makes.id_eq]
    exact makes.agree.trans agree
  · refine .writes admitted role_eq rfl mode_eq makes.id_eq makes.vacant ?_
      ⟨makes.stands, receives⟩
    rw [← makes.id_eq]
    exact makes.agree

theorem opens_serveWrite {root name : Path} {datagram : Bytes} {admission : Admission}
    (admitted : Admission.ofDatagram datagram = .ok admission) (role_eq : admission.role = .receiver)
    (resolved : Server.Resolved machine.files root name path) (hname : name.IsName) :
    Opens datagram machine.files
      (machine.run (serveWrite socket client path admission.mode config now since)).1
      (machine.run (serveWrite socket client path admission.mode config now since)).2.files := by
  unfold serveWrite
  rw [Machine.run_bind]
  cases hcreate : machine.files.createFile path with
  | error error =>
    rw [Server.run_openToWrite_of_error hcreate]
    exact .refused
  | ok created =>
    obtain ⟨files, id⟩ := created
    rw [Server.run_openToWrite_of_ok hcreate]
    have makes := resolved.makes hname hcreate
    have bound : (Session.accepted client admission.mode config).bound = true := rfl
    obtain ⟨hsame, hcourse⟩ := run_takeTurn_receive { machine with files } socket now since bound
      makes.empty (Packet.encodeAck 0)
    dsimp only
    rw [Machine.run_bind]
    apply opens_follow admitted role_eq
    · rw [hsame]
      exact makes
    · rw [hsame]
      exact hcourse

/-- As long as the file system stays there is at most a handler that reads. -/
theorem opens_of_files_eq {datagram : Bytes} {before : FileSystem} {result : Option Handler × Machine}
    (files_eq : result.2.files = before) (reads : ∀ handler, result.1 = some handler →
      handler.upload = none ∧ handler.transfer.stream.file? = none) :
    Opens datagram before result.1 result.2.files := by
  rw [files_eq]
  cases hresult : result.1 with
  | none => exact .refused
  | some handler =>
    obtain ⟨upload_eq, file?_eq⟩ := reads handler hresult
    exact .reads upload_eq file?_eq

theorem opens_reject {datagram : Bytes} (notice : Notice) :
    Opens datagram machine.files (machine.run (reject socket client notice)).1
      (machine.run (reject socket client notice)).2.files :=
  .refused

theorem run_openToRead (machine : Machine) (path : Path) :
    (machine.run (Server.openToRead path)).2 = machine := by
  unfold Server.openToRead
  rw [Machine.run_bind, Machine.run_call, Machine.answer_isRegularFile]
  cases machine.files.isRegularFile path with
  | error error => rfl
  | ok isRegular =>
    cases isRegular with
    | false => rfl
    | true =>
      dsimp only
      rw [Machine.run_bind, Machine.run_call, Machine.answer_openFile]
      cases machine.files.openFile path <;> rfl

theorem opens_serveRead {datagram : Bytes} :
    Opens datagram machine.files
      (machine.run (serveRead socket client path mode config now since)).1
      (machine.run (serveRead socket client path mode config now since)).2.files := by
  unfold serveRead
  rw [Machine.run_bind, run_openToRead]
  cases (machine.run (Server.openToRead path)).1 with
  | error notice => exact opens_reject notice
  | ok handle =>
    have hnone : (Stream.reader { handle }).file? = none := rfl
    obtain ⟨files_eq, reads⟩ := files_follow_takeTurn socket client hnone
      ((Session.accepted client mode config).send none now) since machine
    exact opens_of_files_eq files_eq reads

theorem opens_serve {root : Path} {datagram : Bytes} {admission : Admission}
    (admitted : Admission.ofDatagram datagram = .ok admission) :
    Opens datagram machine.files
      (machine.run (serve socket client root config admission now since)).1
      (machine.run (serve socket client root config admission now since)).2.files := by
  unfold serve
  rw [Machine.run_bind]
  obtain ⟨result, hrun, hresolved⟩ :=
    Server.run_resolve machine root admission.request.filename
  rw [hrun]
  cases result with
  | error notice => exact opens_reject notice
  | ok path =>
    have resolved := hresolved path rfl
    cases hrole : admission.role with
    | sender =>
      dsimp only
      exact opens_serveRead
    | receiver =>
      dsimp only
      exact opens_serveWrite admitted hrole resolved (Admission.isName_of_ofDatagram admitted)

/-- What any datagram at the well-known port leads to. -/
theorem opens_open? (machine : Machine) (client : SocketAddress) (datagram : Bytes) (root : Path)
    (config : TransferConfig) (now since : Nat) :
    Opens datagram machine.files
      (machine.run (open? client datagram root config now since)).1
      (machine.run (open? client datagram root config now since)).2.files := by
  unfold open? bindEphemeral
  rw [Machine.run_bind, Machine.run_call]
  have hfiles : ∀ address, (machine.answer (.bind address)).2.files = machine.files :=
    fun _ ↦ rfl
  rw [← hfiles ⟨config.localBind.getD (Ip.unspecified client.ip.family), 0, 0⟩]
  generalize machine.answer (.bind _) = answered
  obtain ⟨bound, after⟩ := answered
  cases bound with
  | error error => exact .refused
  | ok socket =>
    cases hadmission : Admission.ofDatagram datagram with
    | error refusal =>
      dsimp only
      exact opens_reject refusal.notice
    | ok admission =>
      dsimp only
      exact opens_serve hadmission

/-! ## Occupied paths -/

/-- The notice that a file exists already. -/
def occupied : Bytes :=
  (Packet.error (Notice.ofCode .fileAlreadyExists)).encode

/-- The program makes no handler and changes no file, and all that it sends is the notice to the
client that the file exists already. -/
structure Declines (machine : Machine) (isOrigin : SocketAddress → Prop) (client : SocketAddress)
    (program : Program (Option Handler)) : Prop where
  result_eq : (machine.run program).1 = none
  files_eq : (machine.run program).2.files = machine.files
  sends_iff : ∀ origin destination packet,
    (∃ found, (found, Call.send origin destination packet) ∈ machine.log program) ↔
      isOrigin origin ∧ destination = client ∧ packet = occupied

theorem Declines.bind {isOrigin : SocketAddress → Prop} {First : Type} {first : Program First}
    {next : First → Program (Option Handler)}
    (h : Declines (machine.run first).2 isOrigin client (next (machine.run first).1))
    (files_eq : (machine.run first).2.files = machine.files)
    (quiet : ∀ found origin destination packet,
      (found, Call.send origin destination packet) ∉ machine.log first) :
    Declines machine isOrigin client (first >>= next) := by
  constructor
  · rw [Machine.run_bind]
    exact h.result_eq
  · rw [Machine.run_bind]
    exact h.files_eq.trans files_eq
  · intro origin destination packet
    rw [← h.sends_iff, Machine.log_bind]
    apply exists_congr
    intro found
    rw [List.mem_append, or_iff_right (quiet found origin destination packet)]

theorem declines_reject :
    Declines machine (· = socket) client
      (reject socket client (Notice.ofCode .fileAlreadyExists)) := by
  refine ⟨rfl, rfl, ?_⟩
  intro origin destination packet
  have hlog : machine.log (reject socket client (Notice.ofCode .fileAlreadyExists)) =
      [(machine, .send socket client occupied),
        ((machine.answer (.send socket client occupied)).2, .close socket)] := rfl
  rw [hlog]
  simp

/-- No file is made where one stands. -/
theorem declines_serveWrite (occupies : machine.files.createFile path = .error .fileExists) :
    Declines machine (· = socket) client (serveWrite socket client path mode config now since) := by
  have hopen := Server.run_openToWrite_of_error occupies
  apply Declines.bind
  · rw [hopen]
    exact declines_reject
  · rw [hopen]
  · intro found origin destination packet hmem
    unfold Server.openToWrite at hmem
    rw [Machine.log_bind, Machine.log_call] at hmem
    rcases List.mem_append.mp hmem with hcreate | hend
    · cases List.mem_singleton.mp hcreate
    · split at hend <;> exact absurd hend List.not_mem_nil

theorem declines_serve {root : Path} {admission : Admission} (role_eq : admission.role = .receiver)
    (resolves : (machine.run (Server.resolve root admission.request.filename)).1 = .ok path)
    (occupies : machine.files.createFile path = .error .fileExists) :
    Declines machine (· = socket) client
      (serve socket client root config admission now since) := by
  obtain ⟨result, hrun, -⟩ := Server.run_resolve machine root admission.request.filename
  rw [hrun] at resolves
  dsimp only at resolves
  subst resolves
  apply Declines.bind
  · rw [hrun]
    simp only [role_eq]
    exact declines_serveWrite occupies
  · rw [hrun]
  · intro found origin destination packet hmem
    obtain ⟨looked, hlook⟩ := Machine.log_of_meets (Server.resolve_meets _ _) hmem
    cases hlook

/-- A request to write a file that exists is declined from the socket that was opened for it. -/
theorem declines_open? (client : SocketAddress) (config : TransferConfig) (now since : Nat)
    {root : Path} {admission : Admission} {datagram : Bytes}
    (admitted : Admission.ofDatagram datagram = .ok admission) (role_eq : admission.role = .receiver)
    (resolves : (machine.run (Server.resolve root admission.request.filename)).1 = .ok path)
    (occupies : machine.files.createFile path = .error .fileExists) :
    Declines machine
      (fun origin ↦ (machine.run (bindEphemeral client config.localBind)).1 = .ok origin) client
      (open? client datagram root config now since) := by
  unfold open?
  have hfiles : (machine.run (bindEphemeral client config.localBind)).2.files = machine.files := rfl
  have hresolves := Server.run_resolve_congr hfiles root admission.request.filename
  apply Declines.bind _ hfiles
  · intro found origin destination packet hmem
    cases List.mem_singleton.mp hmem
  · rw [resolves] at hresolves
    rw [← hfiles] at occupies
    generalize machine.run (bindEphemeral client config.localBind) = bound at *
    obtain ⟨answer, after⟩ := bound
    cases answer with
    | error error =>
      refine ⟨rfl, rfl, ?_⟩
      intro origin destination packet
      simp
    | ok socket =>
      have horigin : (fun origin ↦ (.ok socket : Except SystemError SocketAddress) = .ok origin) =
          (· = socket) := by
        funext origin
        rw [Except.ok.injEq]
        exact propext eq_comm
      dsimp only
      rw [horigin]
      simp only [admitted]
      exact declines_serve role_eq hresolves occupies

end Handler

end Lockstep
