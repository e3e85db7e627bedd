import Lockstep.Proofs.Occasions

/-!
# What a server finds for a request

Clients have asked a server for this and that. The files that it has made for them stand where their
requests put them, and everything else is as it was when the server was started. So a request that keeps
out of the way of the others finds what it would have found at the start.
-/

namespace Lockstep

open FileSystem

/-! ## Files that have been made since -/

namespace FileSystem

/-- What is changed at a place and in the file that stands there is no matter elsewhere. -/
theorem AgreesBut.fileAt?_eq {before after : FileSystem} {place other : Location} {id : FileId}
    (h : before.AgreesBut after place id) (hne : other ≠ place)
    (own : ∀ location, before.labelAt? location = some (.file id) → location = place) :
    after.fileAt? other = before.fileAt? other := by
  rw [fileAt?, fileAt?, h.labels other hne]
  cases hlabel : before.labelAt? other with
  | none => rfl
  | some label =>
    cases label with
    | file found => exact h.files found fun heq ↦ hne (own other (heq ▸ hlabel))
    | directory isSearchable isWritable => rfl
    | link target => rfl

/-- Files have been made at places where nothing stood, each of them at one place, and everything else
has stayed. -/
structure Grown (origin : FileSystem) (made : Location → Prop) (files : FileSystem) : Prop where
  numbers : origin.nextId ≤ files.nextId
  vacant : ∀ location, made location → origin.labelAt? location = none
  labels : ∀ location, ¬ made location → files.labelAt? location = origin.labelAt? location
  stored : ∀ id < origin.nextId, files.file? id = origin.file? id
  single : ∀ id, origin.nextId ≤ id → ∀ location, files.labelAt? location = some (.file id) →
    ∀ other, files.labelAt? other = some (.file id) → other = location

namespace Grown

variable {origin files after : FileSystem} {made made' : Location → Prop} {location : Location}
  {id : FileId}

theorem refl (sound : origin.Sound) : origin.Grown (fun _ ↦ False) origin where
  numbers := Nat.le_refl _
  vacant _ h := h.elim
  labels _ _ := rfl
  stored _ _ := rfl
  single id hid location hlabel := absurd (sound.nodes location id hlabel) (Nat.not_lt_of_le hid)

theorem mono (h : origin.Grown made files) (more : ∀ location, made location → made' location)
    (vacant : ∀ location, made' location → origin.labelAt? location = none) :
    origin.Grown made' files where
  numbers := h.numbers
  vacant := vacant
  labels location hmade := h.labels location fun hold ↦ hmade (more location hold)
  stored := h.stored
  single := h.single

theorem grows (h : origin.Grown made files) : origin.Extends files := by
  intro location label hlabel
  rw [h.labels location, hlabel]
  intro hmade
  cases hlabel.symm.trans (h.vacant location hmade)

/-- A file of its own is changed, or taken away, at the place where it stands. -/
theorem change (h : origin.Grown made files) (agree : files.AgreesBut after location id)
    (numbers : files.nextId ≤ after.nextId) (new : origin.nextId ≤ id) (hmade : made location)
    (own : ∀ other, files.labelAt? other = some (.file id) → other = location)
    (label : after.labelAt? location = none ∨ after.labelAt? location = some (.file id)) :
    origin.Grown made after where
  numbers := Nat.le_trans h.numbers numbers
  vacant := h.vacant
  labels other hother :=
    (agree.labels other fun heq ↦ hother (heq ▸ hmade)).trans (h.labels other hother)
  stored other hother :=
    (agree.files other (Nat.ne_of_lt (Nat.lt_of_lt_of_le hother new))).trans (h.stored other hother)
  single other hother := by
    have stays : ∀ place, after.labelAt? place = some (.file other) →
        place = location ∧ other = id ∨ files.labelAt? place = some (.file other) := by
      intro place hlabel
      by_cases hplace : place = location
      · left
        rw [hplace] at hlabel
        rcases label with hnone | hfile
        · cases hnone.symm.trans hlabel
        · cases hfile.symm.trans hlabel
          exact ⟨hplace, rfl⟩
      · exact .inr ((agree.labels place hplace).symm.trans hlabel)
    intro first hfirst second hsecond
    rcases stays first hfirst with ⟨rfl, rfl⟩ | hold
    · rcases stays second hsecond with ⟨rfl, -⟩ | hold'
      · rfl
      · exact own second hold'
    · rcases stays second hsecond with ⟨rfl, rfl⟩ | hold'
      · exact (own first hold).symm
      · exact h.single other hother first hold second hold'

/-- A file that was made is gone again. -/
theorem of_labels (h : origin.Grown made files)
    (labels : ∀ location, after.labelAt? location = files.labelAt? location)
    (stored : ∀ id < origin.nextId, after.file? id = files.file? id)
    (numbers : files.nextId ≤ after.nextId) : origin.Grown made after where
  numbers := Nat.le_trans h.numbers numbers
  vacant := h.vacant
  labels location hmade := (labels location).trans (h.labels location hmade)
  stored id hid := (stored id hid).trans (h.stored id hid)
  single id hid location hlabel other hother := by
    rw [labels] at hlabel hother
    exact h.single id hid location hlabel other hother

end Grown

end FileSystem

/-! ## Requests side by side -/

/-- The path that a name means is the one of a place. -/
theorem Server.Means.path_ofPath {system : FileSystem} {root path : Path} {filename : String}
    (h : Means system root filename path) (hname : (Path.ofText filename).IsName) :
    (Location.ofPath path).path = path := by
  have hplace {location : Location} (hproper : location.IsProper) :
      (Location.ofPath location.path).path = location.path :=
    congrArg Location.path (Location.filter_pieces_path hproper)
  cases h.resolved with
  | found rootAt canonical under =>
    obtain ⟨trail, -, reaches, rfl⟩ := exists_reaches_of_canonicalize canonical
    exact hplace reaches.passes.isProper
  | missing rootAt canonical =>
    obtain ⟨trail, -, reaches, rfl⟩ := exists_reaches_of_canonicalize rootAt
    rw [Location.path_push reaches.passes.isProper hname]
    exact hplace (reaches.passes.isProper.append hname)

namespace Inquiry

/-- In the server as it is, the request is one to write the file at the path, which can be made. -/
def Writes (inquiry : Inquiry) (service : Service) (path : Path) : Prop :=
  Server.Writes service.files service.server.root (inquiry.datagram.take requestBuffer) path

/-- The name in the request means the path. -/
def Names (inquiry : Inquiry) (service : Service) (path : Path) : Prop :=
  ∃ admission, Admission.ofDatagram (inquiry.datagram.take requestBuffer) = .ok admission ∧
    Server.Means service.files service.server.root admission.request.filename path

/-- The look-up of the name comes to nothing at the place. -/
def Misses (inquiry : Inquiry) (service : Service) (place : Location) : Prop :=
  ∃ admission root, Admission.ofDatagram (inquiry.datagram.take requestBuffer) = .ok admission ∧
    service.files.canonicalize service.server.root = .ok root ∧
    service.files.missingAt? (root.path.push (Path.ofText admission.request.filename)) = some place

/-- The file of the request is at the place. -/
def Fills (inquiry : Inquiry) (service : Service) (location : Location) : Prop :=
  ∃ path, inquiry.Writes service path ∧ Location.ofPath path = location

/-- The path that the first request writes is not the one that the second means, nor is it where the
look-up of the second comes to nothing. -/
structure Avoids (first second : Inquiry) (service : Service) : Prop where
  path : ∀ path, first.Writes service path → ¬ second.Names service path
  place : ∀ path, first.Writes service path → ¬ second.Misses service (Location.ofPath path)

variable {inquiry : Inquiry} {service : Service} {path : Path}

theorem Writes.path_ofPath (h : inquiry.Writes service path) :
    (Location.ofPath path).path = path := by
  obtain ⟨admission, admitted, -, means⟩ := h.requested
  exact means.path_ofPath (Admission.isName_of_ofDatagram admitted)

theorem Fills.vacant {location : Location} (h : inquiry.Fills service location) :
    service.files.labelAt? location = none := by
  obtain ⟨path, writes, rfl⟩ := h
  exact writes.vacant

variable {first second : Inquiry} {admission : Admission}

theorem not_writes_of_sender
    (admitted : Admission.ofDatagram (inquiry.datagram.take requestBuffer) = .ok admission)
    (role_eq : admission.role = .sender) : ¬ inquiry.Writes service path := by
  intro writes
  obtain ⟨other, admitted', role_eq', -⟩ := writes.requested
  cases admitted.symm.trans admitted'
  cases role_eq.symm.trans role_eq'

/-- A request to read is in nobody's way. -/
theorem avoids_of_sender
    (admitted : Admission.ofDatagram (first.datagram.take requestBuffer) = .ok admission)
    (role_eq : admission.role = .sender) : first.Avoids second service where
  path _ writes := absurd writes (not_writes_of_sender admitted role_eq)
  place _ writes := absurd writes (not_writes_of_sender admitted role_eq)

/-- Nobody is in the way of a request for something that is there already. -/
theorem avoids_of_found {rootLocation location : Location}
    (admitted : Admission.ofDatagram (second.datagram.take requestBuffer) = .ok admission)
    (rootAt : service.files.canonicalize service.server.root = .ok rootLocation)
    (canonical : service.files.canonicalize
      (rootLocation.path.push (Path.ofText admission.request.filename)) = .ok location) :
    first.Avoids second service where
  path path writes := by
    rintro ⟨other, admitted', means⟩
    cases admitted.symm.trans admitted'
    cases means.resolved with
    | missing rootAt' canonical' =>
      cases rootAt.symm.trans rootAt'
      cases canonical.symm.trans canonical'
    | found rootAt' canonical' under =>
      obtain ⟨trail, -, reaches, rfl⟩ := exists_reaches_of_canonicalize canonical'
      have vacant := writes.vacant
      rw [Location.ofPath, Location.filter_pieces_path reaches.passes.isProper, labelAt?,
        reaches.passes.node?] at vacant
      cases vacant
  place path writes := by
    rintro ⟨other, root, admitted', rootAt', misses⟩
    cases admitted.symm.trans admitted'
    cases rootAt.symm.trans rootAt'
    rw [missingAt?_of_canonicalize canonical] at misses
    cases misses

end Inquiry

/-! ## Handlers of requests -/

namespace Handler

variable {socket client : SocketAddress} {datagram : Bytes} {root : Path} {config : TransferConfig}
  {now since : Nat} {machine : Machine}

/-- A request is served with a file that was found and opened, or with one that was made. -/
theorem exists_of_commence {upload? : Option Upload} {course : Course}
    (h : (machine.run (commence socket client datagram root config now since)).1 =
      .ok (upload?, course)) :
    ∃ admission path, Admission.ofDatagram datagram = .ok admission ∧
      Server.Means machine.files root admission.request.filename path ∧
      ((∃ handle, upload? = none ∧ machine.files.openFile path = .ok handle ∧
          (Stream.reader { handle }).Continues course.stream) ∨
        ∃ file result, upload? = some { path, file } ∧ admission.role = .receiver ∧
          machine.files.createFile path = .ok result ∧
          (Stream.writer { file }).Continues course.stream) := by
  unfold commence at h
  cases admitted : Admission.ofDatagram datagram with
  | error refusal =>
    rw [admitted] at h
    cases h
  | ok admission =>
    rw [admitted] at h
    obtain ⟨result, hrun, -⟩ := Server.run_resolve machine root admission.request.filename
    dsimp only at h
    rw [Machine.run_bind, hrun] at h
    cases result with
    | error notice => cases h
    | ok path =>
      refine ⟨admission, path, rfl, Server.means_of_run hrun, ?_⟩
      cases hrole : admission.role with
      | sender =>
        simp only [hrole] at h
        unfold commenceRead at h
        rw [Machine.run_bind, run_openToRead] at h
        cases hopen : (machine.run (Server.openToRead path)).1 with
        | error notice =>
          rw [hopen] at h
          cases h
        | ok handle =>
          rw [hopen] at h
          dsimp only at h
          rw [Machine.run_bind] at h
          cases h
          exact .inl ⟨handle, rfl, (Server.openToRead_eq_ok_iff.mp hopen).2,
            Machine.returns_of_meets (Transfer.takeTurn_meets _ _ _ _) machine⟩
      | receiver =>
        simp only [hrole] at h
        unfold commenceWrite at h
        rw [Machine.run_bind] at h
        cases hmake : machine.files.createFile path with
        | error error =>
          rw [Server.run_openToWrite_of_error hmake] at h
          cases h
        | ok result =>
          obtain ⟨files, file⟩ := result
          rw [Server.run_openToWrite_of_ok hmake] at h
          dsimp only at h
          rw [Machine.run_bind] at h
          cases h
          exact .inr ⟨file, _, rfl, rfl, rfl,
            Machine.returns_of_meets (Transfer.takeTurn_meets _ _ _ _) _⟩

theorem exists_of_carryOn {first : Commencement} {handler : Handler}
    (h : handler ∈ (machine.run (carryOn socket client first)).1) :
    first = .ok (handler.upload, .running handler.transfer) := by
  cases first with
  | error notice => exact (Option.not_mem_none handler h).elim
  | ok begun =>
    obtain ⟨upload?, course⟩ := begun
    cases course with
    | running transfer =>
      cases h
      rfl
    | ended session stream result =>
      have hnone : (machine.run (follow socket client upload? (.ended session stream result))).1 =
          none := (run_follow_ended machine socket client upload? session stream result).1
      rw [carryOn, hnone] at h
      exact (Option.not_mem_none handler h).elim

/-- A new handler reads a file that its client has named, or it receives one that its client has asked
to write. -/
theorem exists_of_open? {handler : Handler}
    (h : handler ∈ (machine.run (open? client datagram root config now since)).1) :
    (handler.upload = none ∧ ∀ id, handler.transfer.stream.Uses id →
        ∃ admission path, Admission.ofDatagram datagram = .ok admission ∧
          Server.Means machine.files root admission.request.filename path ∧
          machine.files.openFile path = .ok (.file id)) ∨
      ∃ upload, handler.upload = some upload ∧
        Server.Writes machine.files root datagram upload.path ∧
        ∀ id, handler.transfer.stream.Uses id → id = upload.file := by
  rw [open?_eq, Machine.run_bind, Machine.run_call] at h
  have hfiles : (machine.answer (.bind (address client config))).2.files = machine.files := rfl
  rw [← hfiles]
  generalize machine.answer (.bind (address client config)) = answered at h
  obtain ⟨bound, machine⟩ := answered
  cases bound with
  | error error => exact (Option.not_mem_none handler h).elim
  | ok socket =>
    dsimp only at h
    rw [attend_eq, Machine.run_bind] at h
    obtain ⟨admission, path, admitted, means, hcases⟩ := exists_of_commence (exists_of_carryOn h)
    rcases hcases with ⟨handle, hnone, hopen, continues⟩ |
      ⟨file, result, hupload, hrole, hmake, continues⟩
    · refine .inl ⟨hnone, fun id huses ↦ ?_⟩
      rcases (continues.uses_iff id).mp huses with hhandle | hfile
      · cases hhandle
        exact ⟨admission, path, admitted, means, hopen⟩
      · cases hfile
    · refine .inr ⟨_, hupload, ⟨⟨admission, admitted, hrole, means⟩, result, hmake⟩,
        fun id huses ↦ ?_⟩
      rcases (continues.uses_iff id).mp huses with hhandle | hfile
      · cases hhandle
      · cases hfile
        rfl

/-- What a handler that works for one of the requests since the server was started is bound to. -/
structure IsHosted (first : Service) (handled : List Inquiry) (handler : Handler) : Prop where
  bound : handler.IsBoundTo handler.client
  asked : ∃ inquiry ∈ handled, inquiry.client = handler.client ∧
    ∀ upload, handler.upload = some upload → inquiry.Writes first upload.path
  new : ∀ upload, handler.upload = some upload → first.files.nextId ≤ upload.file
  uses : ∀ id, handler.transfer.stream.Uses id → id < first.files.nextId ∨
    ∃ upload, handler.upload = some upload ∧ upload.file = id

theorem IsHosted.mono {first : Service} {handled more : List Inquiry} {handler : Handler}
    (h : handler.IsHosted first handled) (hmore : ∀ inquiry ∈ handled, inquiry ∈ more) :
    handler.IsHosted first more where
  bound := h.bound
  asked := by
    obtain ⟨inquiry, hmem, hasked⟩ := h.asked
    exact ⟨inquiry, hmore inquiry hmem, hasked⟩
  new := h.new
  uses := h.uses

/-- A handler that goes on is still bound to the same. -/
theorem IsHosted.react {first : Service} {handled : List Inquiry} {handler : Handler}
    (h : handler.IsHosted first handled) {journal : FileId → Record}
    (proceeds : handler.Proceeds journal machine.files) (event : Session.Event) (now since : Nat) :
    ∀ handler' ∈ (machine.run (handler.react event now since)).1,
      handler'.IsHosted first handled ∧ handler'.client = handler.client := by
  intro handler' hreact
  have bound := h.bound.react event now since machine handler' hreact
  have continues := continues_react handler machine event now since handler' hreact
  have upload_eq := (proceeds.react hreact).1
  have client_eq := bound.client_eq
  refine ⟨⟨client_eq ▸ bound, ?_, ?_, ?_⟩, client_eq⟩
  · rw [client_eq, upload_eq]
    exact h.asked
  · rw [upload_eq]
    exact h.new
  · intro id huses
    rw [upload_eq]
    exact h.uses id ((continues.uses_iff id).mp huses)

/-- After a handler has done its work its file stands where it stood, or nothing does. -/
theorem Proceeds.labelAt?_react {handler : Handler} {journal : FileId → Record}
    (h : handler.Proceeds journal machine.files) {upload : Upload}
    (hupload : handler.upload = some upload) (event : Session.Event) (now since : Nat) :
    (machine.run (handler.react event now since)).2.files.labelAt? upload.location = none ∨
      (machine.run (handler.react event now since)).2.files.labelAt? upload.location =
        some (.file upload.file) := by
  have hadvances := (h.tends upload hupload).react hupload event now since
  generalize (machine.run (handler.transfer.react event now since)).1 = course at hadvances
  generalize (machine.run (handler.react event now since)).1 = handler? at hadvances
  cases hadvances with
  | goesOn socket_eq mode_eq tends => exact .inr tends.labelAt?_location
  | completed stands => exact .inr stands
  | failed gone => exact .inl gone

end Handler

/-! ## The server since it was started -/

namespace Service

/-- A place where the file of one of the requests is put. -/
def Filled (first : Service) (handled : List Inquiry) (location : Location) : Prop :=
  ∃ inquiry ∈ handled, inquiry.Fills first location

/-- The server since it was started, when these requests have been made. -/
structure Hosts (first : Service) (handled : List Inquiry) (service : Service) : Prop where
  sound : first.files.Sound
  orderly : service.Orderly
  root_eq : service.server.root = first.server.root
  config_eq : service.server.config = first.server.config
  listener_eq : service.server.listener = first.server.listener
  grown : first.files.Grown (first.Filled handled) service.files
  hosted : ∀ handler ∈ service.server.handlers, handler.IsHosted first handled
  distinct : (service.server.handlers.map (·.client)).Nodup

namespace Hosts

variable {first service : Service} {handled : List Inquiry} {occasion : Occasion} {inquiry : Inquiry}
  {client : SocketAddress} {handler : Handler} {location : Location}

theorem start (orderly : first.Orderly) (nobody : first.server.handlers = []) :
    Hosts first [] first where
  sound := orderly.invariant.sound
  orderly := orderly
  root_eq := rfl
  config_eq := rfl
  listener_eq := rfl
  grown := (FileSystem.Grown.refl orderly.invariant.sound).mono (fun _ h ↦ h.elim)
    fun _ ⟨_, hmem, _⟩ ↦ absurd hmem List.not_mem_nil
  hosted := by
    rw [nobody]
    exact fun _ hmem ↦ absurd hmem List.not_mem_nil
  distinct := by
    rw [nobody]
    exact .nil

theorem hears (h : Hosts first handled service) (occasion : Occasion) : service.Hears occasion :=
  Service.hears h.orderly.wired occasion

/-- A request that keeps out of the way of the others finds what it would have found at the start. -/
theorem findsAlike (h : Hosts first handled service)
    (avoids : ∀ other ∈ handled, other.Avoids inquiry first) {admission : Admission}
    (admitted : Admission.ofDatagram (inquiry.datagram.take requestBuffer) = .ok admission) :
    Server.FindsAlike first.files service.files first.server.root admission.request.filename := by
  have hname := Admission.isName_of_ofDatagram admitted
  apply Server.findsAlike_of_extends h.grown.grows
  · exact fun location id hlabel ↦ h.grown.stored id (h.sound.nodes location id hlabel)
  · -- If the root could not be found at the start then no request has made anything.
    intro place hplace
    rw [h.grown.labels place, labelAt?_of_missingAt? hplace]
    rintro ⟨other, -, path, writes, -⟩
    obtain ⟨admission', -, -, means⟩ := writes.requested
    obtain ⟨root, rootAt⟩ : ∃ root, first.files.canonicalize first.server.root = .ok root := by
      cases means.resolved with
      | found rootAt canonical under => exact ⟨_, rootAt⟩
      | missing rootAt canonical => exact ⟨_, rootAt⟩
    rw [missingAt?_of_canonicalize rootAt] at hplace
    exact (Option.not_mem_none place hplace).elim
  · intro root rootAt place hplace
    rw [h.grown.labels place, labelAt?_of_missingAt? hplace]
    rintro ⟨other, hmem, path, writes, rfl⟩
    exact (avoids other hmem).place path writes ⟨admission, root, admitted, rootAt, hplace⟩
  · intro path means
    apply h.grown.labels
    rintro ⟨other, hmem, path', writes, hlocation⟩
    have hpath : path' = path := by
      rw [← writes.path_ofPath, ← means.path_ofPath hname, hlocation]
    exact (avoids other hmem).path path' writes ⟨admission, admitted, hpath ▸ means⟩
  · exact hname

theorem more (h : Hosts first handled service) (others : List Inquiry) :
    Hosts first (handled ++ others) service where
  sound := h.sound
  orderly := h.orderly
  root_eq := h.root_eq
  config_eq := h.config_eq
  listener_eq := h.listener_eq
  grown := h.grown.mono (fun _ ⟨inquiry, hmem, fills⟩ ↦ ⟨inquiry, List.mem_append_left _ hmem, fills⟩)
    fun _ ⟨_, _, fills⟩ ↦ fills.vacant
  hosted handler hmem :=
    (h.hosted handler hmem).mono fun _ hinquiry ↦ List.mem_append_left _ hinquiry
  distinct := h.distinct

theorem proceeds (h : Hosts first handled service) (hmem : handler ∈ service.server.handlers) :
    handler.Proceeds service.journal service.files :=
  h.orderly.invariant.proceeds handler hmem

theorem labelAt?_location (h : Hosts first handled service) (hmem : handler ∈ service.server.handlers)
    {upload : Upload} (hupload : handler.upload = some upload) :
    service.files.labelAt? upload.location = some (.file upload.file) :=
  ((h.proceeds hmem).tends upload hupload).labelAt?_location

/-- The file of a handler stands nowhere else. -/
theorem eq_location (h : Hosts first handled service) (hmem : handler ∈ service.server.handlers)
    {upload : Upload} (hupload : handler.upload = some upload)
    (hlabel : service.files.labelAt? location = some (.file upload.file)) :
    location = upload.location :=
  h.grown.single upload.file ((h.hosted handler hmem).new upload hupload) upload.location
    (h.labelAt?_location hmem hupload) location hlabel

/-! ### A handler at work -/

section

variable {event : Session.Event} {now since : Nat} {machine : Machine}

/-- The file of a handler that does its work is the only one that changes. -/
theorem grown_of_works (h : Hosts first handled service) (hmem : handler ∈ service.server.handlers)
    (files_eq : machine.files = service.files) (event : Session.Event) (now since : Nat) :
    first.files.Grown (first.Filled handled)
      (machine.run (handler.react event now since)).2.files := by
  have proceeds := h.proceeds hmem
  have spends := Machine.spends_run (handler.react event now since) machine
  rw [← files_eq] at proceeds
  cases hupload : handler.upload with
  | none =>
    rw [(Handler.files_react_of_reads hupload (proceeds.reads hupload) event now since machine).1,
      files_eq]
    exact h.grown
  | some upload =>
    obtain ⟨inquiry, hinquiry, -, writes⟩ := (h.hosted handler hmem).asked
    have agree := (proceeds.tends upload hupload).agreesBut_react hupload event now since
    rw [files_eq] at agree spends
    exact h.grown.change agree spends.numbers ((h.hosted handler hmem).new upload hupload)
      ⟨inquiry, hinquiry, upload.path, writes upload hupload, rfl⟩
      (fun _ hlabel ↦ h.eq_location hmem hupload hlabel)
      (proceeds.labelAt?_react hupload event now since)

/-- Other places do not notice. -/
theorem fileAt?_of_works (h : Hosts first handled service) (hmem : handler ∈ service.server.handlers)
    (files_eq : machine.files = service.files)
    (hne : ∀ upload, handler.upload = some upload → location ≠ upload.location) :
    (machine.run (handler.react event now since)).2.files.fileAt? location =
      service.files.fileAt? location := by
  have proceeds := h.proceeds hmem
  rw [← files_eq] at proceeds
  cases hupload : handler.upload with
  | none =>
    rw [(Handler.files_react_of_reads hupload (proceeds.reads hupload) event now since machine).1,
      files_eq]
  | some upload =>
    have agree := (proceeds.tends upload hupload).agreesBut_react hupload event now since
    rw [files_eq] at agree
    exact agree.fileAt?_eq (hne upload hupload) fun _ hlabel ↦ h.eq_location hmem hupload hlabel

/-- Nor do other handlers. -/
theorem file?_of_works (h : Hosts first handled service) {front back : List Handler}
    (handlers_eq : service.server.handlers = front ++ handler :: back)
    (files_eq : machine.files = service.files) {other : Handler}
    (hother : other ∈ front ∨ other ∈ back) {id : FileId} (huses : other.transfer.stream.Uses id) :
    (machine.run (handler.react event now since)).2.files.file? id = service.files.file? id := by
  have hmem : handler ∈ service.server.handlers := by
    rw [handlers_eq]
    exact List.mem_append_right _ List.mem_cons_self
  have hmem' : other ∈ service.server.handlers := by
    rw [handlers_eq, List.mem_append, List.mem_cons]
    exact hother.imp_right .inr
  have proceeds := h.proceeds hmem
  have apart := h.orderly.invariant.apart
  rw [handlers_eq] at apart
  rw [← files_eq] at proceeds ⊢
  apply proceeds.file?_react
  rintro upload hupload rfl
  rcases (h.hosted other hmem').uses _ huses with hold | ⟨upload', hupload', hfile⟩
  · exact absurd ((h.hosted handler hmem).new upload hupload) (Nat.not_le_of_lt hold)
  · exact Handler.apart_of_pairwise apart hother upload hupload upload' hupload' hfile.symm

end

/-! ### A new handler -/

/-- What a new handler receives goes where the request puts it. -/
theorem writes_of_opens (h : Hosts first handled service) {datagram : Bytes}
    (avoids : ∀ other ∈ handled, other.Avoids ⟨client, datagram⟩ first) {machine : Machine}
    (files_eq : machine.files = service.files) (now since : Nat) :
    ∀ handler ∈ (machine.run (service.opening client datagram now since)).1,
      ∀ upload, handler.upload = some upload →
        (⟨client, datagram⟩ : Inquiry).Writes first upload.path := by
  intro handler hnew upload hupload
  have hcases := Handler.exists_of_open? hnew
  rw [h.root_eq, files_eq] at hcases
  rcases hcases with ⟨hnone, -⟩ | ⟨upload', hupload', writes, -⟩
  · cases hnone.symm.trans hupload
  · cases hupload.symm.trans hupload'
    exact writes.of_findsAlike fun admission admitted ↦ h.findsAlike avoids admitted

theorem hosted_of_opens (h : Hosts first handled service) {datagram : Bytes}
    (avoids : ∀ other ∈ handled, other.Avoids ⟨client, datagram⟩ first) {machine : Machine}
    (files_eq : machine.files = service.files) (now since : Nat) :
    ∀ handler ∈ (machine.run (service.opening client datagram now since)).1,
      handler.IsHosted first (handled ++ [⟨client, datagram⟩]) ∧ handler.client = client := by
  intro handler hnew
  have bound := service.isBoundTo_opening client datagram now since machine handler hnew
  have opens := Handler.opens_open? machine client (datagram.take requestBuffer)
    service.server.root service.server.config now since
  rw [show (machine.run (Handler.open? client (datagram.take requestBuffer) service.server.root
    service.server.config now since)).1 = some handler from hnew] at opens
  have hcases := Handler.exists_of_open? hnew
  rw [h.root_eq, files_eq] at hcases
  refine ⟨⟨bound.client_eq.symm ▸ bound, ⟨⟨client, datagram⟩,
    List.mem_append_right _ (List.mem_singleton_self _), bound.client_eq.symm,
    h.writes_of_opens avoids files_eq now since handler hnew⟩, ?_, ?_⟩, bound.client_eq⟩
  · intro upload hupload
    rw [opens.upload_file hupload, files_eq]
    exact h.grown.numbers
  · intro id huses
    rcases hcases with ⟨-, reads⟩ | ⟨upload, hupload, -, uses⟩
    · obtain ⟨admission, path, admitted, means, hopen⟩ := reads id huses
      have finds := h.findsAlike avoids admitted
      rw [finds.opened path (finds.symm.means means)] at hopen
      obtain ⟨location, hlabel⟩ := exists_label_of_openFile hopen
      exact .inl (h.sound.nodes location id hlabel)
    · exact .inr ⟨upload, hupload, (uses id huses).symm⟩

/-- A file is made where the request puts it, or none. -/
theorem grown_of_opens (h : Hosts first handled service) {datagram : Bytes}
    (avoids : ∀ other ∈ handled, other.Avoids ⟨client, datagram⟩ first) {machine : Machine}
    (files_eq : machine.files = service.files) (now since : Nat) :
    let after := (machine.run (service.opening client datagram now since)).2.files
    first.files.Grown (first.Filled (handled ++ [⟨client, datagram⟩])) after ∧
      ∀ location, ¬ (⟨client, datagram⟩ : Inquiry).Fills first location →
        after.fileAt? location = service.files.fileAt? location := by
  have writes := h.writes_of_opens avoids files_eq now since
  have grown := (h.more [⟨client, datagram⟩]).grown
  have spends := Machine.spends_run (service.opening client datagram now since) machine
  have opens := Handler.opens_open? machine client (datagram.take requestBuffer)
    service.server.root service.server.config now since
  rw [files_eq] at spends opens
  have numbers := spends.numbers
  unfold opening at *
  generalize machine.run (Handler.open? client (datagram.take requestBuffer) service.server.root
    service.server.config now since) = outcome at *
  obtain ⟨handler?, after⟩ := outcome
  have unused (location : Location) :
      service.files.labelAt? location ≠ some (.file service.files.nextId) :=
    fun hlabel ↦ absurd (h.orderly.invariant.sound.nodes location _ hlabel) (Nat.lt_irrefl _)
  dsimp only at *
  generalize hafter : after.files = files at *
  cases opens with
  | refused => exact ⟨grown, fun _ _ ↦ rfl⟩
  | reads => exact ⟨grown, fun _ _ ↦ rfl⟩
  | @writes handler upload _ _ _ _ upload_eq mode_eq file_eq vacant agree tends =>
    have fills : (⟨client, datagram⟩ : Inquiry).Fills first upload.location :=
      ⟨upload.path, writes handler rfl upload upload_eq, rfl⟩
    have own (other : Location) (hlabel : service.files.labelAt? other =
        some (.file service.files.nextId)) : other = upload.location := absurd hlabel (unused other)
    refine ⟨grown.change agree numbers h.grown.numbers
      ⟨_, List.mem_append_right _ (List.mem_singleton_self _), fills⟩ own (.inr ?_), ?_⟩
    · rw [← file_eq]
      exact tends.labelAt?_location
    · exact fun location hlocation ↦ agree.fileAt?_eq (fun heq ↦ hlocation (heq ▸ fills)) own
  | @undone place _ vacant gone agree =>
    have labels (location : Location) :
        files.labelAt? location = service.files.labelAt? location := by
      by_cases hlocation : location = place
      · rw [hlocation, gone, vacant]
      · exact agree.labels location hlocation
    have stored (id : FileId) (hid : id < first.files.nextId) :
        files.file? id = service.files.file? id :=
      agree.files id (Nat.ne_of_lt (Nat.lt_of_lt_of_le hid h.grown.numbers))
    refine ⟨grown.of_labels labels stored numbers, ?_⟩
    intro location _
    by_cases hlocation : location = place
    · rw [hlocation, fileAt?_of_none gone, fileAt?_of_none vacant]
    · exact agree.fileAt?_eq hlocation fun other hlabel ↦ absurd hlabel (unused other)

/-! ### Whatever happens -/

theorem of_handlers (h : Hosts first handled service) {more : List Inquiry} {after : Service}
    {handlers : List Handler} (server_eq : after.server = { service.server with handlers })
    (orderly : after.Orderly) (grown : first.files.Grown (first.Filled more) after.files)
    (hosted : ∀ handler ∈ handlers, handler.IsHosted first more)
    (distinct : (handlers.map (·.client)).Nodup) : Hosts first more after where
  sound := h.sound
  orderly := orderly
  root_eq := by rw [server_eq]; exact h.root_eq
  config_eq := by rw [server_eq]; exact h.config_eq
  listener_eq := by rw [server_eq]; exact h.listener_eq
  grown := grown
  hosted := by rw [server_eq]; exact hosted
  distinct := by rw [server_eq]; exact distinct

/-- A handler is replaced by one of the same client, or left out. -/
theorem nodup_replace {front back : List Handler} {handler? : Option Handler}
    (h : ((front ++ handler :: back).map (·.client)).Nodup)
    (same : ∀ handler' ∈ handler?, handler'.client = handler.client) :
    ((front ++ handler?.toList ++ back).map (·.client)).Nodup := by
  cases handler? with
  | none =>
    rw [Option.toList_none, List.append_nil]
    exact h.sublist (((List.sublist_cons_self handler back).append_left front).map _)
  | some handler' =>
    have hclient := same handler' rfl
    simpa [hclient] using h

theorem hear (h : Hosts first handled service) (occasion : Occasion)
    (port : occasion.inquiry?.isSome → service.HasPort)
    (fresh : ∀ inquiry ∈ occasion.inquiry?, ∀ other ∈ handled, other.client ≠ inquiry.client)
    (avoids : ∀ inquiry ∈ occasion.inquiry?, ∀ other ∈ handled, other.Avoids inquiry first) :
    Hosts first (handled ++ occasion.inquiry?.toList) (service.hear occasion) := by
  have orderly := h.orderly.hear port
  have files_at := service.files_machineAt occasion
  cases h.hears occasion with
  | ignored nobody hear_eq =>
    rw [hear_eq]
    exact h.more _
  | @opens datagram listener matter_eq listens server_eq machine_eq =>
    have hinquiry : occasion.inquiry? = some ⟨occasion.client, datagram⟩ := by
      rw [Occasion.inquiry?, matter_eq]
    have avoids := avoids _ hinquiry
    have files_eq : (service.hear occasion).files = _ := congrArg Machine.files machine_eq
    have hosted := h.hosted_of_opens avoids files_at occasion.now occasion.since
    have grown := (h.grown_of_opens avoids files_at occasion.now occasion.since).1
    rw [← files_eq] at grown
    rw [hinquiry, Option.toList_some]
    refine h.of_handlers server_eq orderly grown
      (List.forall_mem_append.mpr ⟨(h.more _).hosted, fun handler hnew ↦ ?_⟩) ?_
    · exact (hosted handler (Option.mem_toList.mp hnew)).1
    · rw [List.map_append]
      refine List.nodup_append.mpr ⟨h.distinct, ?_, ?_⟩
      · generalize ((service.machineAt occasion).run _).1 = handler?
        cases handler? with
        | none => exact .nil
        | some handler => exact List.nodup_singleton _
      · rintro _ hold _ hnew rfl
        obtain ⟨old, hmem, hclient⟩ := List.mem_map.mp hold
        obtain ⟨new, hmem', hclient'⟩ := List.mem_map.mp hnew
        obtain ⟨other, hother, hasked, -⟩ := (h.hosted old hmem).asked
        apply fresh _ hinquiry other hother
        rw [hasked, hclient, ← hclient', (hosted new (Option.mem_toList.mp hmem')).2]
  | @works stimulus handler front back matter_eq found handlers_eq server_eq machine_eq =>
    have hinquiry : occasion.inquiry? = none := by
      rw [Occasion.inquiry?, matter_eq]
    have hmem := (mem_of_handlerOf? found).1
    have files_eq : (service.hear occasion).files = _ := congrArg Machine.files machine_eq
    have hosted := (h.hosted handler hmem).react (files_at ▸ h.proceeds hmem) stimulus.event
      occasion.now occasion.since
    have grown := h.grown_of_works hmem files_at stimulus.event occasion.now occasion.since
    have others := h.hosted
    have distinct := h.distinct
    rw [handlers_eq, List.forall_mem_append, List.forall_mem_cons] at others
    rw [handlers_eq] at distinct
    rw [hinquiry, Option.toList_none, List.append_nil]
    refine h.of_handlers server_eq orderly (files_eq ▸ grown) (List.forall_mem_append.mpr
      ⟨List.forall_mem_append.mpr ⟨others.1, fun new hnew ↦ ?_⟩, others.2.2⟩) ?_
    · exact (hosted new (Option.mem_toList.mp hnew)).1
    · exact nodup_replace distinct fun new hnew ↦ (hosted new hnew).2

/-! ### Other clients -/

/-- A handler of somebody else is passed by. -/
theorem find?_of_ne {front back : List Handler} {handler? : Option Handler}
    (hne : ∀ handler ∈ handler?, handler.client ≠ client) :
    (front ++ handler?.toList ++ back).find? (·.client = client) =
      (front ++ back).find? (·.client = client) := by
  cases handler? with
  | none => rw [Option.toList_none, List.append_nil]
  | some handler => simp [hne handler rfl]

theorem handlerOf?_of_ne (h : Hosts first handled service) (occasion : Occasion)
    (hne : occasion.client ≠ client) :
    (service.hear occasion).handlerOf? client = service.handlerOf? client := by
  cases h.hears occasion with
  | ignored nobody hear_eq => rw [hear_eq]
  | @opens datagram listener matter_eq listens server_eq =>
    have bound := service.isBoundTo_opening occasion.client datagram occasion.now occasion.since
      (service.machineAt occasion)
    have hfind := @find?_of_ne client service.server.handlers [] _ fun handler hnew ↦
      (bound handler hnew).client_eq ▸ hne
    rw [List.append_nil, List.append_nil] at hfind
    rw [handlerOf?, server_eq]
    exact hfind
  | @works stimulus handler front back matter_eq found handlers_eq server_eq =>
    obtain ⟨hmem, hclient⟩ := mem_of_handlerOf? found
    have bound := (h.hosted handler hmem).bound.react stimulus.event occasion.now occasion.since
      (service.machineAt occasion)
    rw [handlerOf?, server_eq, handlerOf?, handlers_eq]
    have hold := @find?_of_ne client front back (some handler) fun _ heq ↦ by
      cases heq
      exact hclient ▸ hne
    rw [Option.toList_some, List.append_assoc, List.singleton_append] at hold
    rw [hold]
    exact find?_of_ne fun handler' hnew ↦ (bound handler' hnew).client_eq ▸ hclient ▸ hne

/-- The files of the other handlers stay as they are. -/
theorem file?_of_ne (h : Hosts first handled service) (occasion : Occasion)
    (hmem : handler ∈ service.server.handlers) (hne : occasion.client ≠ handler.client) {id : FileId}
    (huses : handler.transfer.stream.Uses id) :
    (service.hear occasion).files.file? id = service.files.file? id := by
  cases h.hears occasion with
  | ignored nobody hear_eq => rw [hear_eq]
  | @opens datagram listener matter_eq listens server_eq machine_eq =>
    have uses : handler.transfer.stream.UsesBelow service.files.nextId :=
      h.orderly.numbered handler hmem
    have opens := Handler.opens_open? (service.machineAt occasion) occasion.client
      (datagram.take requestBuffer) service.server.root service.server.config occasion.now occasion.since
    rw [files, machine_eq]
    exact opens.file?_eq (uses.below id huses)
  | @works stimulus other front back matter_eq found handlers_eq server_eq machine_eq =>
    have hother : handler ∈ front ∨ handler ∈ back := by
      rw [handlers_eq, List.mem_append, List.mem_cons] at hmem
      refine hmem.imp_right fun hrest ↦ hrest.resolve_left ?_
      rintro rfl
      exact hne (mem_of_handlerOf? found).2.symm
    rw [files, machine_eq]
    exact h.file?_of_works handlers_eq (service.files_machineAt occasion) hother huses

/-- A request leaves all places but its own as they are. -/
theorem fileAt?_of_request (h : Hosts first handled service) {datagram : Bytes}
    (matter_eq : occasion.matter = .request datagram)
    (avoids : ∀ other ∈ handled, other.Avoids ⟨occasion.client, datagram⟩ first)
    (apart : ¬ (⟨occasion.client, datagram⟩ : Inquiry).Fills first location) :
    (service.hear occasion).files.fileAt? location = service.files.fileAt? location := by
  cases h.hears occasion with
  | ignored nobody hear_eq => rw [hear_eq]
  | works matter_eq' => cases matter_eq.symm.trans matter_eq'
  | opens matter_eq' listens server_eq machine_eq =>
    cases matter_eq.symm.trans matter_eq'
    rw [files, machine_eq]
    exact (h.grown_of_opens avoids (service.files_machineAt occasion) occasion.now
      occasion.since).2 location apart

/-- The places that the requests of the client do not concern stay as they are. -/
theorem fileAt?_of_hear (h : Hosts first handled service) (occasion : Occasion)
    (avoids : ∀ inquiry ∈ occasion.inquiry?, ∀ other ∈ handled, other.Avoids inquiry first)
    (hne : ∀ inquiry ∈ handled ++ occasion.inquiry?.toList, inquiry.client = occasion.client →
      ¬ inquiry.Fills first location) :
    (service.hear occasion).files.fileAt? location = service.files.fileAt? location := by
  cases h.hears occasion with
  | ignored nobody hear_eq => rw [hear_eq]
  | @opens datagram listener matter_eq =>
    have hinquiry : occasion.inquiry? = some ⟨occasion.client, datagram⟩ := by
      rw [Occasion.inquiry?, matter_eq]
    apply h.fileAt?_of_request matter_eq (avoids _ hinquiry)
    rw [hinquiry] at hne
    exact hne _ (List.mem_append_right _ (List.mem_singleton_self _)) rfl
  | works matter_eq found handlers_eq server_eq machine_eq =>
    obtain ⟨hmem, hclient⟩ := mem_of_handlerOf? found
    obtain ⟨inquiry, hinquiry, hasked, writes⟩ := (h.hosted _ hmem).asked
    rw [files, machine_eq]
    apply h.fileAt?_of_works hmem (service.files_machineAt occasion)
    rintro upload hupload rfl
    exact hne inquiry (List.mem_append_left _ hinquiry) (hasked.trans hclient)
      ⟨upload.path, writes upload hupload, rfl⟩

/-! ### The client itself -/

theorem find?_self {front back : List Handler} {handler? : Option Handler}
    (others : ∀ handler ∈ front ++ back, handler.client ≠ client)
    (own : ∀ handler ∈ handler?, handler.client = client) :
    (front ++ handler?.toList ++ back).find? (·.client = client) = handler? := by
  have hnone : (front ++ back).find? (·.client = client) = none :=
    List.find?_eq_none.mpr fun handler hmem ↦ by simpa using others handler hmem
  cases handler? with
  | none => rwa [Option.toList_none, List.append_nil]
  | some handler =>
    rw [List.find?_append, Option.or_eq_none_iff] at hnone
    simp [hnone.1, own handler rfl]

/-- The handler that is made for a request is the one of the client. -/
theorem handlerOf?_of_opens (h : Hosts first handled service) {datagram : Bytes} {now since : Nat}
    {machine : Machine} {after : Service} (fresh : ∀ other ∈ handled, other.client ≠ client)
    (server_eq : after.server = { service.server with
      handlers := service.server.handlers ++
        (machine.run (service.opening client datagram now since)).1.toList }) :
    after.handlerOf? client = (machine.run (service.opening client datagram now since)).1 := by
  have bound := service.isBoundTo_opening client datagram now since machine
  have hfind := @find?_self client service.server.handlers [] _ (fun handler hmem ↦ ?_)
    fun handler hnew ↦ (bound handler hnew).client_eq
  · rw [List.append_nil] at hfind
    rw [handlerOf?, server_eq]
    exact hfind
  · rw [List.append_nil] at hmem
    obtain ⟨other, hother, hasked, -⟩ := (h.hosted handler hmem).asked
    exact hasked ▸ fresh other hother

/-- What becomes of a handler becomes of the one of the client. -/
theorem handlerOf?_of_works (h : Hosts first handled service) {front back : List Handler}
    {event : Session.Event} {now since : Nat} {machine : Machine} {after : Service}
    (handlers_eq : service.server.handlers = front ++ handler :: back)
    (server_eq : after.server = { service.server with
      handlers := front ++ (machine.run (handler.react event now since)).1.toList ++ back }) :
    after.handlerOf? handler.client = (machine.run (handler.react event now since)).1 := by
  have hmem : handler ∈ service.server.handlers := by
    rw [handlers_eq]
    exact List.mem_append_right _ List.mem_cons_self
  have bound := (h.hosted handler hmem).bound.react event now since machine
  have distinct := h.distinct
  rw [handlers_eq, List.map_append, List.map_cons, List.nodup_middle, ← List.map_append] at distinct
  rw [handlerOf?, server_eq]
  apply find?_self
  · intro other hother heq
    exact (List.nodup_cons.mp distinct).1 (heq ▸ List.mem_map_of_mem hother)
  · exact fun handler' hnew ↦ (bound handler' hnew).client_eq

end Hosts

end Service

end Lockstep
