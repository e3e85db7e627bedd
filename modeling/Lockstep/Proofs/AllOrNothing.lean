import Lockstep.Proofs.Service

/-!
# All or nothing

Uploads exclude each other, and each of them leaves the whole file or no trace. In every state that a
server can reach each upload that goes on has a file of its own, which stands where nothing stood when
it was asked for. Whatever reaches the server then touches at most this one file; the other uploads,
and everything that existed before, stay as they are.
-/

namespace Lockstep

open FileSystem

/-- Whatever exists in the first file system is the same in the two others. -/
structure FileSystem.Spares (origin before after : FileSystem) : Prop where
  labels : ∀ location, origin.labelAt? location ≠ none →
    after.labelAt? location = before.labelAt? location
  files : ∀ id, origin.file? id ≠ none → after.file? id = before.file? id

/-- What concerns only a place and a file that did not exist spares all that did. -/
theorem FileSystem.AgreesBut.spares {origin before after : FileSystem} {location : Location}
    {id : FileId} (h : before.AgreesBut after location id) (vacant : origin.labelAt? location = none)
    (new : origin.file? id = none) : origin.Spares before after where
  labels other hother := by
    apply h.labels
    rintro rfl
    exact hother vacant
  files other hother := by
    apply h.files
    rintro rfl
    exact hother new

namespace Service

variable {service : Service} {socket : SocketAddress}

/-! ## The invariant -/

/-- What holds between two stimuli. -/
structure Invariant (service : Service) : Prop where
  sound : service.files.Sound
  proceeds : ∀ handler ∈ service.server.handlers, handler.Proceeds service.journal service.files
  apart : service.server.handlers.Pairwise Handler.Apart

theorem Invariant.of_handler (h : service.Invariant) {handler : Handler}
    (hat : service.server.handlerAt? socket = some handler) (stimulus : Stimulus) (now since : Nat) :
    (service.react socket stimulus now since).Invariant := by
  obtain ⟨⟨front, back, hhandlers, hafter⟩, hfiles, hjournal, -⟩ :=
    react_of_handler hat stimulus now since
  have hmem : handler ∈ service.server.handlers := by
    rw [hhandlers]
    exact List.mem_append_right _ List.mem_cons_self
  have proceeds := h.proceeds handler hmem
  have apart := h.apart
  rw [hhandlers] at apart
  refine ⟨Machine.sound_run _ h.sound, ?_, ?_⟩
  · intro other hother
    rw [hafter] at hother
    rw [hfiles, hjournal]
    have hrest : other ∈ front ∨ other ∈ back → other.Proceeds
        (handler.note stimulus.event service.journal)
        (service.machine.run (handler.react stimulus.event now since)).2.files := by
      intro hside
      have hold : other ∈ service.server.handlers := by
        rw [hhandlers, List.mem_append, List.mem_cons]
        exact hside.imp_right .inr
      exact (h.proceeds other hold).react_other proceeds (Handler.apart_of_pairwise apart hside)
    rcases List.mem_append.mp hother with hother | hback
    · rcases List.mem_append.mp hother with hfront | hnew
      · exact hrest (.inl hfront)
      · exact (proceeds.react (Option.mem_toList.mp hnew)).2
    · exact hrest (.inr hback)
  · rw [hafter]
    exact Handler.pairwise_replace apart fun handler' hreact ↦ (proceeds.react hreact).1

/-- What is noted about a new file does not matter to the handlers that are there. -/
theorem Invariant.noted (h : service.Invariant) (record : Record) {handler : Handler}
    (hmem : handler ∈ service.server.handlers) :
    handler.Proceeds (Function.update service.journal service.files.nextId record)
      service.files := by
  have proceeds := h.proceeds handler hmem
  apply proceeds.of_noted
  intro upload hupload
  exact Function.update_of_ne (proceeds.nextId_ne h.sound hupload).symm _ _

/-- Nor does the file. -/
theorem Invariant.beside (h : service.Invariant) (record : Record) {handler : Handler}
    (hmem : handler ∈ service.server.handlers) {location : Location}
    (vacant : service.files.labelAt? location = none) {after : FileSystem}
    (agree : service.files.AgreesBut after location service.files.nextId) :
    handler.Proceeds (Function.update service.journal service.files.nextId record) after := by
  apply (h.noted record hmem).of_agreesBut agree _ (.inl vacant)
  intro upload hupload
  exact (h.proceeds handler hmem).nextId_ne h.sound hupload

/-- A new handler stands beside the others. -/
theorem Invariant.of_opens {after : Service} {datagram : Bytes} {handler? : Option Handler}
    {request? : Option Admission} (h : service.Invariant) (sound : after.files.Sound)
    (opens : service.Opens after datagram handler? request?) : after.Invariant := by
  obtain ⟨hopens, hhandlers, hjournal, hrequest⟩ := opens
  generalize hfiles : after.files = files at hopens
  cases hopens with
  | refused =>
    rw [Option.toList_none, List.append_nil] at hhandlers
    refine ⟨sound, ?_, hhandlers ▸ h.apart⟩
    rw [hhandlers, hfiles, hjournal]
    exact fun handler hmem ↦ h.noted _ hmem
  | @reads handler upload_eq file?_eq =>
    rw [Option.toList_some] at hhandlers
    refine ⟨sound, ?_, ?_⟩
    · rw [hhandlers, hfiles, hjournal, List.forall_mem_append, List.forall_mem_singleton]
      exact ⟨fun other hmem ↦ h.noted _ hmem, .of_reads upload_eq file?_eq⟩
    · rw [hhandlers]
      apply Handler.pairwise_append_singleton h.apart
      intro first hfirst upload hupload other hother
      cases upload_eq.symm.trans hother
  | @writes handler upload admission _ admitted role_eq upload_eq mode_eq file_eq vacant agree
      tends =>
    rw [Option.toList_some] at hhandlers
    have noted : after.journal upload.file = { origin := service.files, request? } := by
      rw [hjournal, file_eq, Function.update_self]
    refine ⟨sound, ?_, ?_⟩
    · rw [hhandlers, hfiles, List.forall_mem_append, List.forall_mem_singleton]
      refine ⟨?_, .of_tends upload_eq ?_ ?_⟩
      · rw [hjournal]
        exact fun other hmem ↦ h.beside _ hmem vacant agree
      · rw [noted]
        exact tends
      · rw [noted]
        exact ⟨vacant, file_eq ▸ h.sound.file?_nextId, admission, hrequest admission admitted,
          role_eq, mode_eq⟩
    · rw [hhandlers]
      apply Handler.pairwise_append_singleton h.apart
      intro first hfirst other hother upload' hupload
      cases hupload.symm.trans upload_eq
      rw [file_eq]
      exact ((h.proceeds first hfirst).nextId_ne h.sound hother).symm
  | undone vacant gone agree =>
    rw [Option.toList_none, List.append_nil] at hhandlers
    refine ⟨sound, ?_, hhandlers ▸ h.apart⟩
    rw [hhandlers, hfiles, hjournal]
    exact fun handler hmem ↦ h.beside _ hmem vacant agree

theorem Invariant.of_react (h : service.Invariant) (socket : SocketAddress) (stimulus : Stimulus)
    (now since : Nat) : (service.react socket stimulus now since).Invariant := by
  by_cases hlistener : service.server.listener = some socket
  · obtain ⟨datagram, handler?, opens⟩ := exists_opens hlistener stimulus now since
    exact h.of_opens (Machine.sound_run _ h.sound) opens
  · cases hat : service.server.handlerAt? socket with
    | none =>
      rw [react_of_nobody hlistener hat]
      exact h
    | some handler => exact h.of_handler hat stimulus now since

theorem Invariant.of_stop (h : service.Invariant) : service.stop.Invariant := by
  have hhandlers : service.stop.server.handlers = service.server.handlers :=
    (files_stop service.server service.machine).1
  have hfiles : service.stop.files = service.files := (files_stop service.server service.machine).2
  refine ⟨?_, ?_, ?_⟩
  · rw [hfiles]
    exact h.sound
  · rw [hhandlers, hfiles]
    exact h.proceeds
  · rw [hhandlers]
    exact h.apart

theorem Invariant.of_passes (h : service.Invariant) (now : Nat) (network : Network)
    (free : Option Nat) :
    Invariant { service with machine := { now, network, files := { service.files with free } } } where
  sound := ⟨h.sound.nodes, h.sound.files⟩
  proceeds handler hmem :=
    let proceeds := h.proceeds handler hmem
    { reads := proceeds.reads
      tends := fun upload hupload ↦ (proceeds.tends upload hupload).of_labels (fun _ _ ↦ rfl) rfl
      fits := proceeds.fits }
  apart := h.apart

theorem Invariant.step (h : service.Invariant) {next : Service} (hstep : service.Step next) :
    next.Invariant := by
  cases hstep with
  | reacts socket stimulus now since => exact h.of_react socket stimulus now since
  | stops => exact h.of_stop
  | passes now network free => exact h.of_passes now network free

theorem invariant_start (config : ServerConfig) (listener : SocketAddress) {machine : Machine}
    (sound : machine.files.Sound) : (start config listener machine).Invariant where
  sound := sound
  proceeds _ hmem := absurd hmem List.not_mem_nil
  apart := .nil

theorem Invariant.run (h : service.Invariant) {last : Service}
    (hrun : Relation.ReflTransGen Step service last) : last.Invariant := by
  induction hrun with
  | refl => exact h
  | tail _ hstep ih => exact ih.step hstep

/-! ## What a stimulus does -/

/-- What happens to the file system when something reaches the well-known port: nothing; or the file
of an upload that begins is made where nothing stood; or such a file is gone again. -/
inductive Admits (before after : Service) (request? : Option Admission) : Prop
  | nothing (uploads_eq : after.server.uploads = before.server.uploads)
      (files_eq : after.files = before.files)
  | begins (upload : Upload) (uploads_eq : after.server.uploads = before.server.uploads ++ [upload])
      (vacant : before.files.labelAt? upload.location = none)
      (new : before.files.file? upload.file = none)
      (stands : after.files.labelAt? upload.location = some (.file upload.file))
      (agree : before.files.AgreesBut after.files upload.location upload.file)
      (noted : after.journal upload.file = { origin := before.files, request? })
  | withdrawn (uploads_eq : after.server.uploads = before.server.uploads)
      (labels : ∀ location, after.files.labelAt? location = before.files.labelAt? location)
      (files : ∀ id, before.files.file? id ≠ none → after.files.file? id = before.files.file? id)

/-- What is promised of the uploads when a stimulus turns the service into another. -/
structure AllOrNothing (service after : Service) (socket : SocketAddress) (stimulus : Stimulus)
    (now since : Nat) : Prop where
  /-- Each upload has a path and a file of its own. -/
  distinct : service.server.uploads.Pairwise fun first second ↦
    first.path ≠ second.path ∧ first.file ≠ second.file
  /-- The file stands at the path. -/
  owned : ∀ upload ∈ service.server.uploads,
    service.files.labelAt? upload.location = some (.file upload.file)
  /-- A request to write to the path of an upload gets the notice that the file exists, and no file
  is touched. -/
  declined : ∀ upload ∈ service.server.uploads, ∀ client datagram admission,
    service.server.listener = some socket → stimulus = .reception (.datagram client datagram) →
    Admission.ofDatagram (datagram.take requestBuffer) = .ok admission →
    admission.role = .receiver →
    (service.machine.run
      (Server.resolve service.server.root admission.request.filename)).1 = .ok upload.path →
    after.server = service.server ∧ after.files = service.files ∧
      ∀ origin destination packet,
        (∃ found, (found, Call.send origin destination packet) ∈
          service.machine.log (service.reaction socket stimulus now since)) ↔
        (service.machine.run (bindEphemeral client service.server.config.localBind)).1 =
            .ok origin ∧
          destination = client ∧ packet = Handler.occupied
  /-- What exists when a request is handled is not touched by it, -/
  request : service.server.listener = some socket →
    service.files.Spares service.files after.files ∧ service.Admits after stimulus.request?
  /-- nor later by the upload, which touches nothing but its own file. -/
  upkeep : ∀ handler upload, service.server.handlerAt? socket = some handler →
    handler.upload = some upload →
    (service.journal upload.file).origin.Spares service.files after.files ∧
      service.files.AgreesBut after.files upload.location upload.file
  /-- Nothing else touches any file. -/
  rest : service.server.listener ≠ some socket →
    (∀ handler, service.server.handlerAt? socket = some handler → handler.upload = none) →
    after.files = service.files
  /-- The journal notes what an upload accepts, -/
  noted : ∀ handler upload, service.server.handlerAt? socket = some handler →
    handler.upload = some upload → after.journal upload.file =
      (service.journal upload.file).add (handler.transfer.accepted? stimulus.event)
  /-- and keeps what it tells of the other uploads. -/
  kept : ∀ upload ∈ service.server.uploads,
    (∀ handler, service.server.handlerAt? socket = some handler → handler.upload ≠ some upload) →
    after.journal upload.file = service.journal upload.file
  /-- An upload that ends well leaves what was sent in the mode that was asked for, and everything
  was in the file before the last block was acknowledged. -/
  completed : ∀ handler upload last rest summary,
    service.server.handlerAt? socket = some handler → handler.upload = some upload →
    (service.machine.run (handler.transfer.react stimulus.event now since)).1 =
      .ended last rest (.ok summary) →
    ∃ admission content, (after.journal upload.file).request? = some admission ∧
      admission.role = .receiver ∧
      content = admission.mode.decode (after.journal upload.file).accepted.flatten ∧
      after.files.labelAt? upload.location = some (.file upload.file) ∧
      after.files.Stores upload.file content ∧
      (∃ found, (found, Call.send handler.transfer.socket handler.transfer.session.peer
          (Packet.encodeAck handler.transfer.session.block)) ∈
        service.machine.log (service.reaction socket stimulus now since)) ∧
      ∀ found origin destination packet,
        (found, Call.send origin destination packet) ∈
            service.machine.log (service.reaction socket stimulus now since) →
          destination = handler.transfer.session.peer ∧
            packet = Packet.encodeAck handler.transfer.session.block ∧
            found.files.Stores upload.file content
  /-- An upload that fails leaves nothing. -/
  failed : ∀ handler upload last rest error,
    service.server.handlerAt? socket = some handler → handler.upload = some upload →
    (service.machine.run (handler.transfer.react stimulus.event now since)).1 =
      .ended last rest (.error error) →
    after.files.labelAt? upload.location = none

theorem Invariant.exists_handler (h : service.Invariant) {upload : Upload}
    (hupload : upload ∈ service.server.uploads) :
    ∃ handler ∈ service.server.handlers, handler.upload = some upload ∧
      handler.Tends upload (service.journal upload.file).stream service.files := by
  obtain ⟨handler, hmem, hsome⟩ := List.mem_filterMap.mp hupload
  exact ⟨handler, hmem, hsome, (h.proceeds handler hmem).tends upload hsome⟩

theorem Invariant.distinct (h : service.Invariant) :
    service.server.uploads.Pairwise fun first second ↦
      first.path ≠ second.path ∧ first.file ≠ second.file := by
  apply List.pairwise_filterMap.mpr
  apply h.apart.imp_of_mem
  intro first second hfirst hsecond apart upload hupload other hother
  have hne := apart upload hupload other hother
  refine ⟨fun hpath ↦ hne ?_, hne⟩
  obtain ⟨directory, name, stands⟩ := ((h.proceeds first hfirst).tends upload hupload).stands
  obtain ⟨directory', name', stands'⟩ := ((h.proceeds second hsecond).tends other hother).stands
  rw [hpath] at stands
  exact stands.id_eq stands'

theorem Invariant.declined (h : service.Invariant) {upload : Upload}
    (hupload : upload ∈ service.server.uploads) {client : SocketAddress} {datagram : Bytes}
    {admission : Admission} (hlistener : service.server.listener = some socket)
    (admitted : Admission.ofDatagram (datagram.take requestBuffer) = .ok admission)
    (role_eq : admission.role = .receiver)
    (resolves : (service.machine.run
      (Server.resolve service.server.root admission.request.filename)).1 = .ok upload.path)
    (now since : Nat) :
    let stimulus := Stimulus.reception (.datagram client datagram)
    let after := service.react socket stimulus now since
    after.server = service.server ∧ after.files = service.files ∧
      ∀ origin destination packet,
        (∃ found, (found, Call.send origin destination packet) ∈
          service.machine.log (service.reaction socket stimulus now since)) ↔
        (service.machine.run (bindEphemeral client service.server.config.localBind)).1 =
            .ok origin ∧
          destination = client ∧ packet = Handler.occupied := by
  obtain ⟨handler, -, -, tends⟩ := h.exists_handler hupload
  obtain ⟨directory, name, stands⟩ := tends.stands
  obtain ⟨hserver, hfiles, hlog⟩ := react_of_request hlistener client datagram now since
  obtain ⟨hresult, hsame, hsends⟩ := Handler.declines_open? client service.server.config now since
    admitted role_eq resolves stands.createFile
  refine ⟨?_, hfiles.trans hsame, ?_⟩
  · rw [hserver, hresult, Option.toList_none, List.append_nil]
  · intro origin destination packet
    rw [hlog]
    exact hsends origin destination packet

/-- A request makes at most one file, where nothing stood. -/
theorem Invariant.admits (h : service.Invariant) {after : Service} {datagram : Bytes}
    {handler? : Option Handler} {request? : Option Admission}
    (opens : service.Opens after datagram handler? request?) :
    service.files.Spares service.files after.files ∧ service.Admits after request? := by
  have huploads := opens.uploads_eq
  obtain ⟨hopens, -, hjournal, -⟩ := opens
  have unused := h.sound.file?_nextId
  generalize hfiles : after.files = files at hopens
  cases hopens with
  | refused =>
    refine ⟨⟨fun _ _ ↦ rfl, fun _ _ ↦ rfl⟩, .nothing ?_ hfiles⟩
    rw [huploads]
    exact List.append_nil _
  | @reads handler upload_eq file?_eq =>
    refine ⟨⟨fun _ _ ↦ rfl, fun _ _ ↦ rfl⟩, .nothing ?_ hfiles⟩
    rw [huploads, Option.bind_some, upload_eq]
    exact List.append_nil _
  | @writes handler upload admission _ admitted role_eq upload_eq mode_eq file_eq vacant agree
      tends =>
    have noted : after.journal upload.file = { origin := service.files, request? } := by
      rw [hjournal, file_eq, Function.update_self]
    refine ⟨agree.spares vacant unused, .begins upload ?_ vacant ?_ ?_ ?_ noted⟩
    · rw [huploads, Option.bind_some, upload_eq]
      rfl
    · rw [file_eq]
      exact unused
    · rw [hfiles]
      exact tends.labelAt?_location
    · rw [hfiles, file_eq]
      exact agree
  | @undone location _ vacant gone agree =>
    have spares := agree.spares vacant unused
    refine ⟨spares, .withdrawn ?_ ?_ ?_⟩
    · rw [huploads]
      exact List.append_nil _
    · intro other
      rw [hfiles]
      by_cases hother : other = location
      · rw [hother, gone, vacant]
      · exact agree.labels other hother
    · rw [hfiles]
      exact spares.files

theorem Invariant.proceeds_of_handlerAt? (h : service.Invariant) {handler : Handler}
    (hat : service.server.handlerAt? socket = some handler) :
    handler.Proceeds service.journal service.files :=
  h.proceeds handler (List.mem_of_find?_eq_some (not_listener_of_handlerAt? hat).2)

/-- The journal tells the same of the uploads that nothing reached. -/
theorem Invariant.kept (h : service.Invariant) {upload : Upload}
    (hupload : upload ∈ service.server.uploads)
    (hother : ∀ handler, service.server.handlerAt? socket = some handler →
      handler.upload ≠ some upload) (stimulus : Stimulus) (now since : Nat) :
    (service.react socket stimulus now since).journal upload.file =
      service.journal upload.file := by
  obtain ⟨owner, howner, hsome, -⟩ := h.exists_handler hupload
  by_cases hlistener : service.server.listener = some socket
  · obtain ⟨datagram, handler?, opens⟩ := exists_opens hlistener stimulus now since
    rw [opens.journal_eq]
    exact Function.update_of_ne ((h.proceeds owner howner).nextId_ne h.sound hsome).symm _ _
  · cases hat : service.server.handlerAt? socket with
    | none => rw [react_of_nobody hlistener hat]
    | some handler =>
      obtain ⟨⟨front, back, hhandlers, -⟩, -, hjournal, -⟩ :=
        react_of_handler hat stimulus now since
      rw [hjournal]
      have apart := h.apart
      rw [hhandlers] at apart howner
      have hbeside : owner ∈ front ∨ owner ∈ back := by
        rcases List.mem_append.mp howner with hfront | hrest
        · exact .inl hfront
        · rcases List.mem_cons.mp hrest with rfl | hback
          · exact absurd hsome (hother owner hat)
          · exact .inr hback
      cases hreads : handler.upload with
      | none => rw [Handler.note_of_reads hreads]
      | some own =>
        apply Handler.note_of_ne hreads
        exact (Handler.apart_of_pairwise apart hbeside own hreads upload hsome).symm

/-- Whatever reaches the server, each upload leaves the whole file or nothing, and nothing else is
touched. -/
theorem Invariant.allOrNothing (h : service.Invariant) (socket : SocketAddress)
    (stimulus : Stimulus) (now since : Nat) :
    service.AllOrNothing (service.react socket stimulus now since) socket stimulus now since where
  distinct := h.distinct
  owned upload hupload := by
    obtain ⟨handler, -, -, tends⟩ := h.exists_handler hupload
    exact tends.labelAt?_location
  declined upload hupload client datagram admission hlistener hstimulus admitted role_eq resolves := by
    subst hstimulus
    exact h.declined hupload hlistener admitted role_eq resolves now since
  request hlistener := by
    obtain ⟨datagram, handler?, opens⟩ := exists_opens hlistener stimulus now since
    exact h.admits opens
  upkeep handler upload hat hupload := by
    have proceeds := h.proceeds_of_handlerAt? hat
    have agree := (proceeds.tends upload hupload).agreesBut_react hupload stimulus.event now since
    rw [(react_of_handler hat stimulus now since).2.1]
    have fits := proceeds.fits upload hupload
    exact ⟨agree.spares fits.vacant fits.new, agree⟩
  rest hlistener hreads := by
    cases hat : service.server.handlerAt? socket with
    | none => rw [react_of_nobody hlistener hat]
    | some handler =>
      have hupload := hreads handler hat
      have hfile := (h.proceeds_of_handlerAt? hat).reads hupload
      rw [(react_of_handler hat stimulus now since).2.1]
      exact (Handler.files_react_of_reads hupload hfile stimulus.event now since
        service.machine).1
  noted handler upload hat hupload := by
    rw [(react_of_handler hat stimulus now since).2.2.1]
    exact Handler.note_self hupload
  kept upload hupload hother := h.kept hupload hother stimulus now since
  completed handler upload last rest summary hat hupload hcourse := by
    have proceeds := h.proceeds_of_handlerAt? hat
    obtain ⟨-, -, admission, hrequest, hrole, hmode⟩ := proceeds.fits upload hupload
    obtain ⟨-, hfiles, hjournal, hlog⟩ := react_of_handler hat stimulus now since
    have hadvances := (proceeds.tends upload hupload).react hupload stimulus.event now since
    have hnoted : handler.note stimulus.event service.journal upload.file = _ :=
      Handler.note_self hupload
    rw [hcourse] at hadvances
    rw [hfiles, hjournal, hlog, hnoted]
    generalize (service.machine.run (handler.react stimulus.event now since)).1 = handler' at hadvances
    cases hadvances with
    | completed stands stored acknowledged before =>
      rw [← Record.stream_add, hmode] at stored before
      exact ⟨admission, _, hrequest, hrole, rfl, stands, stored, acknowledged, before⟩
  failed handler upload last rest error hat hupload hcourse := by
    have proceeds := h.proceeds_of_handlerAt? hat
    have hadvances := (proceeds.tends upload hupload).react hupload stimulus.event now since
    rw [hcourse] at hadvances
    rw [(react_of_handler hat stimulus now since).2.1]
    generalize (service.machine.run (handler.react stimulus.event now since)).1 = handler' at hadvances
    cases hadvances with
    | failed gone => exact gone

/-- In every state that a server can reach from its start, whatever happens next. -/
theorem allOrNothing_of_steps (config : ServerConfig) (listener : SocketAddress) {machine : Machine}
    (sound : machine.files.Sound) {service : Service}
    (steps : Relation.ReflTransGen Step (start config listener machine) service)
    (socket : SocketAddress) (stimulus : Stimulus) (now since : Nat) :
    service.AllOrNothing (service.react socket stimulus now since) socket stimulus now since :=
  ((invariant_start config listener sound).run steps).allOrNothing socket stimulus now since

/-- A server with an empty root, before anything has happened. -/
def small : Service :=
  start { root := ['/', 's'] } ⟨.localhost .four, 69, 0⟩
    { files := ({} : FileSystem).install [['s']] (.directory true true) }

/-- The same file is asked for twice. -/
theorem allOrNothing_of_requests :
    small.files.Sound ∧
      small.Step (small.react ⟨.localhost .four, 69, 0⟩ Server.smallStimulus 0 0) ∧
      (small.react ⟨.localhost .four, 69, 0⟩ Server.smallStimulus 0 0).AllOrNothing
        ((small.react ⟨.localhost .four, 69, 0⟩ Server.smallStimulus 0 0).react
          ⟨.localhost .four, 69, 0⟩ Server.smallStimulus 1 1)
        ⟨.localhost .four, 69, 0⟩ Server.smallStimulus 1 1 := by
  have sound : small.files.Sound := FileSystem.Sound.empty.install [['s']] (.directory true true)
  have step : small.Step _ := .reacts ⟨.localhost .four, 69, 0⟩ Server.smallStimulus 0 0
  refine ⟨sound, step, ?_⟩
  exact allOrNothing_of_steps _ _ sound (.single step) _ _ _ _

end Service

end Lockstep
