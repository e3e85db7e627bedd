import Lockstep.Proofs.Numbers
import Lockstep.Proofs.Requests
import Mathlib.Logic.Function.Basic
import Mathlib.Logic.Relation

/-!
# Servers at work

Stimuli reach the sockets of a server in any order and at any time, and in between the network, the
clock and the room that is left on the device change as they like. Beside the server a journal is kept
of the files that it was asked to make, which nothing depends on. Each stimulus reaches one handler or
makes a new one, and the handlers beside it do not notice.
-/

namespace Lockstep

open FileSystem

/-- What is noted about a file that a server is asked to make. -/
structure Record where
  /-- The file system in which the request was handled. -/
  origin : FileSystem := {}
  /-- The request, if it was admitted. -/
  request? : Option Admission := none
  /-- The payloads of the blocks that were accepted, the first one first. -/
  accepted : List Bytes := []

namespace Record

/-- The stream of blocks so far. -/
def stream (record : Record) : Bytes :=
  record.accepted.flatten

def add (record : Record) (payload? : Option Bytes) : Record :=
  { record with accepted := record.accepted ++ payload?.toList }

theorem stream_add (record : Record) (payload? : Option Bytes) :
    (record.add payload?).stream = record.stream ++ payload?.getD [] := by
  unfold stream add
  rw [List.flatten_append]
  cases payload? with
  | none => rfl
  | some payload => rw [Option.toList_some, List.flatten_singleton, Option.getD_some]

end Record

/-- The request that reaches a server with the stimulus, if it is admitted. -/
def Stimulus.request? : Stimulus → Option Admission
  | .reception (.datagram _ datagram) =>
    (Admission.ofDatagram (datagram.take requestBuffer)).toOption
  | .reception (.error _) | .alarm => none

/-- The journal after something has happened to the handler. -/
def Handler.note (handler : Handler) (event : Session.Event) (journal : FileId → Record) :
    FileId → Record :=
  match handler.upload with
  | none => journal
  | some upload =>
    Function.update journal upload.file
      ((journal upload.file).add (handler.transfer.accepted? event))

namespace Server

/-- The handler that a stimulus at the socket reaches. -/
def handlerAt? (server : Server) (socket : SocketAddress) : Option Handler :=
  if server.listener = some socket then none
  else server.handlers.find? (·.transfer.socket = socket)

/-- The uploads that go on. -/
def uploads (server : Server) : List Upload :=
  server.handlers.filterMap (·.upload)

end Server

/-- A server at work on a machine, and the journal of the files that it was asked to make. -/
structure Service where
  server : Server
  machine : Machine
  journal : FileId → Record := fun _ ↦ {}

namespace Service

def files (service : Service) : FileSystem :=
  service.machine.files

/-- The journal after a stimulus. A file that is made for a request gets the next number. -/
def note (service : Service) (socket : SocketAddress) (stimulus : Stimulus) : FileId → Record :=
  if service.server.listener = some socket then
    Function.update service.journal service.files.nextId
      { origin := service.files, request? := stimulus.request? }
  else
    match service.server.handlerAt? socket with
    | none => service.journal
    | some handler => handler.note stimulus.event service.journal

/-- The program that deals with a stimulus. -/
def reaction (service : Service) (socket : SocketAddress) (stimulus : Stimulus) (now since : Nat) :
    Program Server :=
  Activity.reactServer service.server socket stimulus now since

def react (service : Service) (socket : SocketAddress) (stimulus : Stimulus) (now since : Nat) :
    Service where
  server := (service.machine.run (service.reaction socket stimulus now since)).1
  machine := (service.machine.run (service.reaction socket stimulus now since)).2
  journal := service.note socket stimulus

/-- The server is told to stop. -/
def stop (service : Service) : Service where
  server := (service.machine.run service.server.stop).1
  machine := (service.machine.run service.server.stop).2
  journal := service.journal

/-- What can happen next. Nobody else changes the file system. -/
inductive Step (service : Service) : Service → Prop
  | reacts (socket : SocketAddress) (stimulus : Stimulus) (now since : Nat) :
    Step service (service.react socket stimulus now since)
  | stops : Step service service.stop
  | passes (now : Nat) (network : Network) (free : Option Nat) :
    Step service { service with
      machine := { now, network, files := { service.files with free } } }

/-- A server that has just been started. -/
def start (config : ServerConfig) (listener : SocketAddress) (machine : Machine) : Service where
  server := Server.start config listener
  machine := machine

end Service

/-! ## Handlers side by side -/

namespace Handler

/-- The upload of the handler is what the record tells: nothing was there when it was asked for, and
it is received in the mode that was asked for. -/
structure Fits (handler : Handler) (upload : Upload) (record : Record) : Prop where
  vacant : record.origin.labelAt? upload.location = none
  new : record.origin.file? upload.file = none
  requested : ∃ admission, record.request? = some admission ∧ admission.role = .receiver ∧
    handler.transfer.session.mode = admission.mode

/-- What holds of a handler between two stimuli. -/
structure Proceeds (handler : Handler) (journal : FileId → Record) (files : FileSystem) : Prop where
  reads : handler.upload = none → handler.transfer.stream.file? = none
  tends : ∀ upload, handler.upload = some upload →
    handler.Tends upload (journal upload.file).stream files
  fits : ∀ upload, handler.upload = some upload → handler.Fits upload (journal upload.file)

/-- The two do not receive the same file. -/
def Apart (first second : Handler) : Prop :=
  ∀ upload, first.upload = some upload → ∀ other, second.upload = some other →
    upload.file ≠ other.file

variable {handler : Handler} {upload : Upload} {before after : FileSystem} {stream : Bytes}
  {journal journal' : FileId → Record} {location : Location} {id : FileId}

theorem Apart.symm {first second : Handler} (h : first.Apart second) : second.Apart first :=
  fun upload hupload other hother heq ↦ h other hother upload hupload heq.symm

/-- A handler without an upload has nothing to answer for. -/
theorem Proceeds.of_reads (hupload : handler.upload = none)
    (file?_eq : handler.transfer.stream.file? = none) : handler.Proceeds journal before where
  reads _ := file?_eq
  tends _ hsome := absurd (hupload.symm.trans hsome) nofun
  fits _ hsome := absurd (hupload.symm.trans hsome) nofun

/-- A handler with an upload that is well. -/
theorem Proceeds.of_tends (hupload : handler.upload = some upload)
    (tends : handler.Tends upload (journal upload.file).stream before)
    (fits : handler.Fits upload (journal upload.file)) : handler.Proceeds journal before := by
  have same : ∀ other, handler.upload = some other → other = upload :=
    fun other hother ↦ Option.some.inj (hother.symm.trans hupload)
  refine ⟨fun hnone ↦ absurd (hnone.symm.trans hupload) nofun, ?_, ?_⟩
  · intro other hother
    rw [same other hother]
    exact tends
  · intro other hother
    rw [same other hother]
    exact fits

/-- A file that is made or changed for somebody else does not matter. -/
theorem Proceeds.of_agreesBut (h : handler.Proceeds journal before)
    (agree : before.AgreesBut after location id)
    (hne : ∀ upload, handler.upload = some upload → id ≠ upload.file)
    (apart : before.labelAt? location = none ∨ before.labelAt? location = some (.file id)) :
    handler.Proceeds journal after where
  reads := h.reads
  tends upload hupload := (h.tends upload hupload).of_agreesBut agree (hne upload hupload) apart
  fits := h.fits

/-- What is noted about other files does not matter. -/
theorem Proceeds.of_noted (h : handler.Proceeds journal before)
    (noted : ∀ upload, handler.upload = some upload → journal' upload.file = journal upload.file) :
    handler.Proceeds journal' before where
  reads := h.reads
  tends upload hupload := by
    rw [noted upload hupload]
    exact h.tends upload hupload
  fits upload hupload := by
    rw [noted upload hupload]
    exact h.fits upload hupload

/-- The next file that is made is no file of an upload. -/
theorem Proceeds.nextId_ne (h : handler.Proceeds journal before) (sound : before.Sound)
    (hupload : handler.upload = some upload) : before.nextId ≠ upload.file := by
  obtain ⟨file, hfile⟩ := (h.tends upload hupload).exists_file
  have hlt := sound.files upload.file (by rw [hfile]; rfl)
  exact (Nat.ne_of_lt hlt).symm

/-! ## Stimuli to a handler -/

section

variable {machine : Machine} {event : Session.Event} {now since : Nat}

theorem note_of_ne (hupload : handler.upload = some upload) (hne : id ≠ upload.file) :
    handler.note event journal id = journal id := by
  unfold note
  rw [hupload]
  exact Function.update_of_ne hne _ _

theorem note_self (hupload : handler.upload = some upload) :
    handler.note event journal upload.file =
      (journal upload.file).add (handler.transfer.accepted? event) := by
  unfold note
  rw [hupload]
  exact Function.update_self _ _ _

theorem note_of_reads (hupload : handler.upload = none) : handler.note event journal = journal := by
  unfold note
  rw [hupload]

/-- A handler that goes on keeps its upload. -/
theorem Proceeds.react (h : handler.Proceeds journal machine.files) {handler' : Handler}
    (hreact : (machine.run (handler.react event now since)).1 = some handler') :
    handler'.upload = handler.upload ∧ handler'.Proceeds (handler.note event journal)
      (machine.run (handler.react event now since)).2.files := by
  cases hupload : handler.upload with
  | none =>
    obtain ⟨-, reads⟩ := files_react_of_reads hupload (h.reads hupload) event now since machine
    obtain ⟨hnone, hfile⟩ := reads handler' hreact
    exact ⟨hnone, .of_reads hnone hfile⟩
  | some upload =>
    have hadvances := (h.tends upload hupload).react hupload event now since
    rw [hreact] at hadvances
    generalize (machine.run (handler.transfer.react event now since)).1 = course at hadvances
    cases hadvances with
    | goesOn socket_eq mode_eq tends =>
      obtain ⟨vacant, new, admission, hrequest, hrole, hmode⟩ := h.fits upload hupload
      refine ⟨hupload, .of_tends hupload ?_ ?_⟩
      · rw [note_self hupload, Record.stream_add]
        exact tends
      · rw [note_self hupload]
        exact ⟨vacant, new, admission, hrequest, hrole, mode_eq.trans hmode⟩

/-- The other handlers do not notice. -/
theorem Proceeds.react_other {other : Handler} (h : other.Proceeds journal machine.files)
    (hhandler : handler.Proceeds journal machine.files) (apart : handler.Apart other) :
    other.Proceeds (handler.note event journal)
      (machine.run (handler.react event now since)).2.files := by
  cases hupload : handler.upload with
  | none =>
    rw [note_of_reads hupload,
      (files_react_of_reads hupload (hhandler.reads hupload) event now since machine).1]
    exact h
  | some upload =>
    have tends := hhandler.tends upload hupload
    have hother := h.of_agreesBut (tends.agreesBut_react hupload event now since)
      (apart upload hupload) (.inr tends.labelAt?_location)
    apply hother.of_noted
    intro upload' hupload'
    exact note_of_ne hupload (apart upload hupload upload' hupload').symm

end

/-- A handler can be put at the end of a row if it is apart from all that are there. -/
theorem pairwise_append_singleton {handlers : List Handler} (h : handlers.Pairwise Apart)
    (apart : ∀ first ∈ handlers, first.Apart handler) :
    (handlers ++ [handler]).Pairwise Apart := by
  refine List.pairwise_append.mpr ⟨h, List.pairwise_singleton _ _, ?_⟩
  intro first hfirst second hsecond
  rw [List.mem_singleton.mp hsecond]
  exact apart first hfirst

/-- A handler in a row can be replaced by one with the same upload, or left out. -/
theorem pairwise_replace {front back : List Handler} {handler : Handler}
    (h : (front ++ handler :: back).Pairwise Apart) {handler? : Option Handler}
    (same : ∀ handler', handler? = some handler' → handler'.upload = handler.upload) :
    (front ++ handler?.toList ++ back).Pairwise Apart := by
  cases handler? with
  | none =>
    rw [Option.toList_none, List.append_nil]
    exact h.sublist ((List.Sublist.refl front).append (List.sublist_cons_self handler back))
  | some handler' =>
    have hupload := same handler' rfl
    rw [Option.toList_some, List.append_assoc, List.singleton_append]
    obtain ⟨hfront, hrest, hcross⟩ := List.pairwise_append.mp h
    obtain ⟨hhandler, hback⟩ := List.pairwise_cons.mp hrest
    refine List.pairwise_append.mpr ⟨hfront, List.pairwise_cons.mpr ⟨?_, hback⟩, ?_⟩
    · intro other hother upload hsome
      rw [hupload] at hsome
      exact hhandler other hother upload hsome
    · intro first hfirst other hother
      rcases List.mem_cons.mp hother with rfl | hother
      · intro upload hsome upload' hsome'
        rw [hupload] at hsome'
        exact hcross first hfirst handler List.mem_cons_self upload hsome upload' hsome'
      · exact hcross first hfirst other (List.mem_cons_of_mem _ hother)

theorem apart_of_pairwise {front back : List Handler} {handler other : Handler}
    (h : (front ++ handler :: back).Pairwise Apart) (hother : other ∈ front ∨ other ∈ back) :
    handler.Apart other := by
  obtain ⟨hfront, hrest, hcross⟩ := List.pairwise_append.mp h
  rcases hother with hother | hother
  · exact (hcross other hother handler List.mem_cons_self).symm
  · exact (List.pairwise_cons.mp hrest).1 other hother

end Handler

namespace Server

variable {socket : SocketAddress} {handlers : List Handler}

theorem go_of_find?_none (machine : Machine) (event : Session.Event) (now since : Nat)
    (h : handlers.find? (·.transfer.socket = socket) = none) :
    machine.run (react.go socket event now since handlers) = (handlers, machine) := by
  induction handlers with
  | nil => rfl
  | cons handler rest ih =>
    rw [List.find?_cons] at h
    split at h
    · cases h
    · next hne =>
      have hsocket : handler.transfer.socket ≠ socket := of_decide_eq_false hne
      rw [react.go, if_neg hsocket, Machine.run_bind, ih h]
      rfl

/-- A stimulus is dealt with by the first handler at its socket; the others stay as they are. -/
theorem go_of_find? (machine : Machine) (event : Session.Event) (now since : Nat)
    {handler : Handler} (h : handlers.find? (·.transfer.socket = socket) = some handler) :
    ∃ front back, handlers = front ++ handler :: back ∧
      machine.run (react.go socket event now since handlers) =
        (front ++ (machine.run (handler.react event now since)).1.toList ++ back,
          (machine.run (handler.react event now since)).2) ∧
      machine.log (react.go socket event now since handlers) =
        machine.log (handler.react event now since) := by
  induction handlers with
  | nil => cases h
  | cons first rest ih =>
    rw [List.find?_cons] at h
    split at h
    · next heq =>
      cases h
      have hsocket : handler.transfer.socket = socket := of_decide_eq_true heq
      refine ⟨[], rest, rfl, ?_, ?_⟩
      · rw [react.go, if_pos hsocket, Machine.run_bind]
        rfl
      · rw [react.go, if_pos hsocket, Machine.log_bind]
        exact List.append_nil _
    · next hne =>
      have hsocket : first.transfer.socket ≠ socket := of_decide_eq_false hne
      obtain ⟨front, back, rfl, hrun, hlog⟩ := ih h
      refine ⟨first :: front, back, rfl, ?_, ?_⟩
      · rw [react.go, if_neg hsocket, Machine.run_bind, hrun]
        rfl
      · rw [react.go, if_neg hsocket, Machine.log_bind, hlog]
        exact List.append_nil _

end Server

namespace Service

/-! ## Reactions of the whole server -/

variable {service : Service} {socket : SocketAddress} {stimulus : Stimulus} {now since : Nat}

theorem not_listener_of_handlerAt? {handler : Handler}
    (h : service.server.handlerAt? socket = some handler) :
    service.server.listener ≠ some socket ∧
      service.server.handlers.find? (·.transfer.socket = socket) = some handler := by
  unfold Server.handlerAt? at h
  split at h
  · cases h
  · next hlistener => exact ⟨hlistener, h⟩

theorem reaction_of_not_listener (h : service.server.listener ≠ some socket) :
    service.reaction socket stimulus now since =
      service.server.react socket stimulus.event now since := by
  unfold reaction Activity.reactServer
  rw [if_neg h]

/-- A stimulus at the socket of a handler. -/
theorem react_of_handler {handler : Handler}
    (h : service.server.handlerAt? socket = some handler) (stimulus : Stimulus) (now since : Nat) :
    let reacted := service.machine.run (handler.react stimulus.event now since)
    let after := service.react socket stimulus now since
    (∃ front back, service.server.handlers = front ++ handler :: back ∧
      after.server.handlers = front ++ reacted.1.toList ++ back) ∧
      after.files = reacted.2.files ∧
      after.journal = handler.note stimulus.event service.journal ∧
      service.machine.log (service.reaction socket stimulus now since) =
        service.machine.log (handler.react stimulus.event now since) := by
  obtain ⟨hlistener, hfind⟩ := not_listener_of_handlerAt? h
  obtain ⟨front, back, hhandlers, hrun, hlog⟩ :=
    Server.go_of_find? service.machine stimulus.event now since hfind
  dsimp only
  unfold react files
  rw [reaction_of_not_listener hlistener, Server.react, Machine.run_bind, hrun, Machine.log_bind,
    hlog]
  refine ⟨⟨front, back, hhandlers, rfl⟩, rfl, ?_, List.append_nil _⟩
  unfold note
  rw [if_neg hlistener, h]

/-- A stimulus at a socket where nobody is. -/
theorem react_of_nobody (hlistener : service.server.listener ≠ some socket)
    (h : service.server.handlerAt? socket = none) (stimulus : Stimulus) (now since : Nat) :
    service.react socket stimulus now since = service := by
  have hfind : service.server.handlers.find? (·.transfer.socket = socket) = none := by
    unfold Server.handlerAt? at h
    rwa [if_neg hlistener] at h
  unfold react note
  rw [reaction_of_not_listener hlistener, Server.react, Machine.run_bind,
    Server.go_of_find?_none service.machine stimulus.event now since hfind, if_neg hlistener, h]
  rfl

/-- A datagram at the well-known port. -/
theorem react_of_request (h : service.server.listener = some socket) (client : SocketAddress)
    (datagram : Bytes) (now since : Nat) :
    let opening := Handler.open? client (datagram.take requestBuffer) service.server.root
      service.server.config now since
    let after := service.react socket (.reception (.datagram client datagram)) now since
    after.server = { service.server with
        handlers := service.server.handlers ++ (service.machine.run opening).1.toList } ∧
      after.files = (service.machine.run opening).2.files ∧
      service.machine.log (service.reaction socket (.reception (.datagram client datagram)) now
        since) = service.machine.log opening := by
  have hreaction : service.reaction socket (.reception (.datagram client datagram)) now since =
      service.server.dispatch client datagram now since := by
    unfold reaction Activity.reactServer
    rw [if_pos h]
  dsimp only
  unfold react files
  rw [hreaction, Server.dispatch, Machine.run_bind, Machine.log_bind]
  exact ⟨rfl, rfl, List.append_nil _⟩

theorem files_stop (server : Server) (machine : Machine) :
    (machine.run server.stop).1.handlers = server.handlers ∧
      (machine.run server.stop).2.files = machine.files := by
  unfold Server.stop
  cases server.listener with
  | none => exact ⟨rfl, rfl⟩
  | some listener => exact ⟨rfl, rfl⟩

/-- Anything else at the well-known port. -/
theorem react_of_listener (h : service.server.listener = some socket)
    (hstimulus : ∀ client datagram, stimulus ≠ .reception (.datagram client datagram))
    (now since : Nat) :
    (service.react socket stimulus now since).server.handlers = service.server.handlers ∧
      (service.react socket stimulus now since).files = service.files := by
  unfold react files reaction Activity.reactServer
  rw [if_pos h]
  cases stimulus with
  | alarm => exact ⟨rfl, rfl⟩
  | reception reception =>
    cases reception with
    | datagram client datagram => exact absurd rfl (hstimulus client datagram)
    | error error =>
      dsimp only
      unfold Server.trip
      split
      · exact ⟨rfl, rfl⟩
      · exact files_stop _ _

/-- From the one service to the other a datagram has opened at most one handler, and the file that was
made for it is noted. -/
structure Opens (before after : Service) (datagram : Bytes) (handler? : Option Handler)
    (request? : Option Admission) : Prop where
  files : Handler.Opens datagram before.files handler? after.files
  handlers_eq : after.server.handlers = before.server.handlers ++ handler?.toList
  journal_eq : after.journal = Function.update before.journal before.files.nextId
    { origin := before.files, request? }
  requested : ∀ admission, Admission.ofDatagram datagram = .ok admission →
    request? = some admission

theorem Opens.uploads_eq {after : Service} {datagram : Bytes} {handler? : Option Handler}
    {request? : Option Admission} (h : service.Opens after datagram handler? request?) :
    after.server.uploads =
      service.server.uploads ++ (handler?.bind (·.upload)).toList := by
  unfold Server.uploads
  rw [h.handlers_eq, List.filterMap_append]
  cases handler? with
  | none => rfl
  | some handler =>
    cases hupload : handler.upload with
    | none => simp [hupload]
    | some upload => simp [hupload]

/-- What reaches the well-known port opens at most one handler; what is no datagram opens none. -/
theorem exists_opens (hlistener : service.server.listener = some socket) (stimulus : Stimulus)
    (now since : Nat) :
    ∃ datagram handler?, service.Opens (service.react socket stimulus now since) datagram handler?
      stimulus.request? := by
  have hjournal : (service.react socket stimulus now since).journal =
      Function.update service.journal service.files.nextId
        { origin := service.files, request? := stimulus.request? } := if_pos hlistener
  by_cases hstimulus : ∃ client datagram, stimulus = .reception (.datagram client datagram)
  · obtain ⟨client, datagram, rfl⟩ := hstimulus
    obtain ⟨hserver, hfiles, -⟩ := react_of_request hlistener client datagram now since
    refine ⟨datagram.take requestBuffer, _, ?_, by rw [hserver], hjournal, ?_⟩
    · rw [hfiles]
      exact Handler.opens_open? service.machine client (datagram.take requestBuffer)
        service.server.root service.server.config now since
    · intro admission admitted
      rw [Stimulus.request?, admitted]
      rfl
  · have hother : ∀ client datagram, stimulus ≠ .reception (.datagram client datagram) :=
      fun client datagram heq ↦ hstimulus ⟨client, datagram, heq⟩
    obtain ⟨hhandlers, hfiles⟩ := react_of_listener hlistener hother now since
    refine ⟨[], none, ?_, ?_, hjournal, nofun⟩
    · rw [hfiles]
      exact .refused
    · rw [hhandlers, Option.toList_none, List.append_nil]

end Service

end Lockstep
