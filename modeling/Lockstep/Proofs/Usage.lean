import Lockstep.Proofs.Tenancy
import Lockstep.Proofs.Twins
import Lockstep.Proofs.Vacancies

/-!
# What programs use

A handler uses the files that it began with, and the number of a file that somebody uses is one that
was given out. Numbers of files and room on the device are only ever used up.
-/

namespace Lockstep

open Dialogue FileSystem

/-! ## Files in use -/

/-- The stream is one of a file. -/
def Stream.IsFiled (stream : Stream) : Prop :=
  stream.handle?.isSome ∨ stream.file?.isSome

theorem Stream.IsFiled.continues {stream later : Stream} (h : stream.IsFiled)
    (continues : stream.Continues later) : later.IsFiled := by
  unfold IsFiled
  rw [continues.1, continues.2]
  exact h

/-- The stream is one of a file, and the number of the file is below the given one. -/
structure Stream.UsesBelow (stream : Stream) (bound : FileId) : Prop where
  filed : stream.IsFiled
  below : ∀ id, stream.Uses id → id < bound

namespace Stream.UsesBelow

variable {stream : Stream} {bound bound' : FileId}

theorem mono (h : stream.UsesBelow bound) (hle : bound ≤ bound') : stream.UsesBelow bound' :=
  ⟨h.filed, fun id huses ↦ Nat.lt_of_lt_of_le (h.below id huses) hle⟩

theorem continues (h : stream.UsesBelow bound) {later : Stream} (continues : stream.Continues later) :
    later.UsesBelow bound where
  filed := h.filed.continues continues
  below id huses := h.below id ((continues.uses_iff id).mp huses)

end Stream.UsesBelow

namespace Handler

/-- What a turn of a transfer and what follows it leads to uses the same files. -/
theorem continues_takeTurn (socket client : SocketAddress) (upload : Option Upload)
    (stream : Stream) (turn : Session.Turn Session.Progress) (since : Nat) :
    (Transfer.takeTurn socket stream turn since >>= follow socket client upload).Meets
      (fun _ ↦ True) fun handler? ↦ ∀ handler ∈ handler?,
        stream.Continues handler.transfer.stream := by
  refine ((Transfer.takeTurn_meets socket stream turn since).mono (fun _ _ ↦ trivial)
    fun _ h ↦ h).bind fun course continues ↦ ?_
  cases course with
  | running transfer =>
    rintro _ ⟨⟩
    exact continues
  | ended session rest result =>
    refine ((Upload.conclude_meets upload result).mono (fun _ _ ↦ trivial) fun _ h ↦ h).bind
      fun _ _ ↦ ⟨trivial, fun _ handler h ↦ (Option.not_mem_none handler h).elim⟩

/-- The file that the handler uses has a number below the given one. -/
def UsesBelow (handler : Handler) (bound : FileId) : Prop :=
  handler.transfer.stream.UsesBelow bound

theorem continues_react (handler : Handler) (machine : Machine) (event : Session.Event)
    (now since : Nat) :
    ∀ handler' ∈ (machine.run (handler.react event now since)).1,
      handler.transfer.stream.Continues handler'.transfer.stream := by
  rw [run_react, Transfer.run_react, ← Machine.run_bind]
  exact Machine.returns_of_meets (continues_takeTurn _ _ _ _ _ _) machine

theorem usesBelow_react (handler : Handler) (machine : Machine) (event : Session.Event)
    (now since : Nat) {bound : FileId} (h : handler.UsesBelow bound) :
    ∀ handler' ∈ (machine.run (handler.react event now since)).1, handler'.UsesBelow bound :=
  fun handler' hreact ↦ h.continues (continues_react handler machine event now since handler' hreact)

end Handler

/-! ## What is used up -/

namespace FileSystem

/-- Numbers of files and room on the device are at most used up. -/
structure Spends (before after : FileSystem) : Prop where
  numbers : before.nextId ≤ after.nextId
  room : after.Affords False before
  unlimited : before.free = none → after.free = none

namespace Spends

variable {before middle after : FileSystem} {path : Path}

theorem of_eq (numbers : after.nextId = before.nextId) (free : after.free = before.free) :
    before.Spends after where
  numbers := Nat.le_of_eq numbers.symm
  room := (Affords.refl False before).of_free_eq free
  unlimited := free.trans

theorem refl (system : FileSystem) : system.Spends system := of_eq rfl rfl

theorem trans (h : before.Spends middle) (h' : middle.Spends after) : before.Spends after where
  numbers := Nat.le_trans h.numbers h'.numbers
  room := h.room.of_less id h'.room
  unlimited := h'.unlimited ∘ h.unlimited

theorem createFile {result : FileSystem × FileId} (h : before.createFile path = .ok result) :
    before.Spends result.1 := by
  obtain ⟨place, rfl⟩ := exists_eq_addFile h
  exact ⟨Nat.le_succ _, (Affords.refl False before).of_free_eq rfl, id⟩

theorem removeFile (h : before.removeFile path = .ok after) : before.Spends after := by
  obtain ⟨place, rfl⟩ := exists_eq_removeNode h
  exact of_eq rfl rfl

theorem makeDirectory (h : before.makeDirectory path = .ok after) : before.Spends after := by
  obtain ⟨place, rfl⟩ := exists_eq_setNode h
  exact of_eq rfl rfl

theorem makeDirectories (system : FileSystem) (levels : Nat) (path : Path) :
    system.Spends (system.makeDirectories levels path).2 :=
  keeps_makeDirectories Spends refl trans makeDirectory system levels path

theorem appendFile (system : FileSystem) (id : FileId) (bytes : Bytes) :
    system.Spends (system.appendFile id bytes).2 := by
  refine ⟨Nat.le_refl _, ⟨False.elim, fun room hroom ↦ ?_⟩, fun unlimited ↦ ?_⟩
  · exact ⟨_, Nat.sub_le _ _, by rw [free_appendFile, hroom]; rfl⟩
  · rw [free_appendFile, unlimited]
    rfl

end Spends

end FileSystem

namespace Machine

theorem spends_answer (call : Call) (machine : Machine) :
    machine.files.Spends (machine.answer call).2.files := by
  cases call with
  | createFile path =>
    cases hcreate : machine.files.createFile path with
    | error error =>
      rw [answer, hcreate]
      exact .refl _
    | ok result =>
      rw [answer, hcreate]
      exact .createFile hcreate
  | removeFile path =>
    cases hremove : machine.files.removeFile path with
    | error error =>
      rw [answer, hremove]
      exact .refl _
    | ok after =>
      rw [answer, hremove]
      exact .removeFile hremove
  | makeDirectories path => exact .makeDirectories _ _ path
  | appendFile id bytes => exact .appendFile _ id bytes
  | closeFile id => exact .of_eq rfl rfl
  | bind address => exact .refl _
  | close socket => exact .refl _
  | send socket destination packet => exact .refl _
  | canonicalize path => exact .refl _
  | isRegularFile path => exact .refl _
  | openFile path => exact .refl _
  | readFile handle offset count => exact .refl _
  | readRest handle offset => exact .refl _

/-- No program gives anything back. -/
theorem spends_run {Result : Type} (program : Program Result) (machine : Machine) :
    machine.files.Spends (machine.run program).2.files := by
  induction program generalizing machine with
  | done result => exact .refl _
  | ask call next ih => exact (spends_answer call machine).trans (ih _ _)

end Machine

/-! ## Files of new handlers -/

/-- What is read was opened, and it is a regular file. -/
theorem Server.openToRead_eq_ok_iff {machine : Machine} {path : Path}
    {handle : FileSystem.Handle} :
    (machine.run (openToRead path)).1 = .ok handle ↔
      machine.files.isRegularFile path = .ok true ∧ machine.files.openFile path = .ok handle := by
  unfold openToRead
  rw [Machine.run_bind, Machine.run_call, Machine.answer_isRegularFile]
  cases machine.files.isRegularFile path with
  | error error => exact iff_of_false (fun h ↦ nomatch h) fun h ↦ nomatch h.1
  | ok isRegular =>
    cases isRegular with
    | false => exact iff_of_false (fun h ↦ nomatch h) fun h ↦ nomatch h.1
    | true =>
      dsimp only
      rw [Machine.run_bind, Machine.run_call, Machine.answer_openFile]
      cases machine.files.openFile path with
      | error error => exact iff_of_false (fun h ↦ nomatch h) fun h ↦ nomatch h.2
      | ok opened =>
        change (Except.ok opened : Except Notice FileSystem.Handle) = .ok handle ↔ _
        simp

namespace Handler

variable {machine : Machine} {socket client : SocketAddress} {path : Path} {mode : Mode}
  {config : TransferConfig} {now since : Nat}

/-- The first turn of a transfer uses the files of its stream. -/
theorem usesBelow_takeTurn {upload : Option Upload} {stream : Stream}
    {turn : Session.Turn Session.Progress} {bound : FileId}
    (below : stream.UsesBelow bound) :
    ∀ handler ∈ (machine.run (Transfer.takeTurn socket stream turn since >>=
      follow socket client upload)).1, handler.UsesBelow bound := by
  intro handler hmem
  exact below.continues (Machine.returns_of_meets
    (continues_takeTurn socket client upload stream turn since) machine handler hmem)

theorem usesBelow_serveRead (sound : machine.files.Sound) :
    ∀ handler ∈ (machine.run (serveRead socket client path mode config now since)).1,
      handler.UsesBelow machine.files.nextId := by
  unfold serveRead
  rw [Machine.run_bind, run_openToRead]
  cases hopen : (machine.run (Server.openToRead path)).1 with
  | error notice => exact fun handler h ↦ (Option.not_mem_none handler h).elim
  | ok handle =>
    apply usesBelow_takeTurn
    refine ⟨.inl rfl, ?_⟩
    rintro id (hhandle | hfile)
    · have hhandle : handle = .file id := Option.some.inj hhandle
      have hopened := (Server.openToRead_eq_ok_iff.mp hopen).2
      rw [hhandle] at hopened
      obtain ⟨location, hlabel⟩ := exists_label_of_openFile hopened
      exact sound.nodes location id hlabel
    · cases hfile

theorem usesBelow_serveWrite :
    ∀ handler ∈ (machine.run (serveWrite socket client path mode config now since)).1,
      handler.UsesBelow
        (machine.run (serveWrite socket client path mode config now since)).2.files.nextId := by
  unfold serveWrite
  rw [Machine.run_bind]
  cases hcreate : machine.files.createFile path with
  | error error =>
    rw [Server.run_openToWrite_of_error hcreate]
    exact fun handler h ↦ (Option.not_mem_none handler h).elim
  | ok created =>
    obtain ⟨files, id⟩ := created
    rw [Server.run_openToWrite_of_ok hcreate]
    have hid : id < files.nextId := by
      obtain ⟨place, hresult⟩ := exists_eq_addFile hcreate
      cases hresult
      exact Nat.lt_succ_self _
    intro handler hmem
    have hbelow : (Stream.writer { file := id }).UsesBelow files.nextId := by
      refine ⟨.inr rfl, ?_⟩
      rintro other (hhandle | hfile)
      · cases hhandle
      · cases hfile
        exact hid
    exact (usesBelow_takeTurn hbelow handler hmem).mono
      (Machine.spends_run _ { machine with files }).numbers

theorem usesBelow_attend (sound : machine.files.Sound) (datagram : Bytes) (root : Path) :
    ∀ handler ∈ (machine.run (attend socket client datagram root config now since)).1,
      handler.UsesBelow
        (machine.run (attend socket client datagram root config now since)).2.files.nextId := by
  unfold attend
  cases Admission.ofDatagram datagram with
  | error refusal => exact fun handler h ↦ (Option.not_mem_none handler h).elim
  | ok admission =>
    dsimp only
    unfold serve
    rw [Machine.run_bind]
    obtain ⟨result, hrun, -⟩ := Server.run_resolve machine root admission.request.filename
    rw [hrun]
    cases result with
    | error notice => exact fun handler h ↦ (Option.not_mem_none handler h).elim
    | ok path =>
      dsimp only
      cases admission.role with
      | sender =>
        intro handler hmem
        exact (usesBelow_serveRead sound handler hmem).mono (Machine.spends_run _ _).numbers
      | receiver => exact usesBelow_serveWrite

theorem usesBelow_open? (sound : machine.files.Sound) (client : SocketAddress) (datagram : Bytes)
    (root : Path) (config : TransferConfig) (now since : Nat) :
    ∀ handler ∈ (machine.run (open? client datagram root config now since)).1,
      handler.UsesBelow
        (machine.run (open? client datagram root config now since)).2.files.nextId := by
  rw [open?_eq, Machine.run_bind, Machine.run_call]
  have hfiles : (machine.answer (.bind (address client config))).2.files = machine.files := rfl
  rw [← hfiles] at sound
  generalize machine.answer (.bind (address client config)) = answered at sound
  obtain ⟨bound, machine⟩ := answered
  cases bound with
  | error error => exact fun handler h ↦ (Option.not_mem_none handler h).elim
  | ok socket => exact usesBelow_attend sound datagram root

end Handler

namespace Service

variable {service : Service}

/-- Every file that a handler uses has a number that was given out. -/
def IsNumbered (service : Service) : Prop :=
  ∀ handler ∈ service.server.handlers, handler.UsesBelow service.files.nextId

theorem IsNumbered.react (h : service.IsNumbered) (sound : service.files.Sound)
    (socket : SocketAddress) (stimulus : Stimulus) (now since : Nat) :
    (service.react socket stimulus now since).IsNumbered := by
  have spends : service.files.Spends (service.react socket stimulus now since).files :=
    Machine.spends_run _ _
  have kept : ∀ handler ∈ service.server.handlers,
      handler.UsesBelow (service.react socket stimulus now since).files.nextId :=
    fun handler hmem ↦ (h handler hmem).mono spends.numbers
  unfold IsNumbered
  cases service.reacts socket stimulus now since with
  | @opens client datagram at_port stimulus_eq server_eq machine_eq log_eq =>
    rw [server_eq]
    apply List.forall_mem_append.mpr ⟨kept, _⟩
    intro handler hnew
    have below := Handler.usesBelow_open? sound client (datagram.take requestBuffer)
      service.server.root service.server.config now since handler (Option.mem_toList.mp hnew)
    rw [files, machine_eq]
    exact below
  | closes at_port stimulus_eq failed server_eq machine_eq log_eq =>
    rw [server_eq]
    exact kept
  | @handles handler front back at_handler handlers_eq server_eq machine_eq log_eq =>
    have below := h handler (by rw [handlers_eq]; exact List.mem_append_right _ List.mem_cons_self)
    rw [handlers_eq, List.forall_mem_append, List.forall_mem_cons] at kept
    rw [server_eq]
    refine List.forall_mem_append.mpr ⟨List.forall_mem_append.mpr ⟨kept.1, ?_⟩, kept.2.2⟩
    intro handler' hnew
    exact (handler.usesBelow_react service.machine stimulus.event now since below handler'
      (Option.mem_toList.mp hnew)).mono spends.numbers
  | ignores nobody unasked server_eq machine_eq log_eq =>
    rw [server_eq]
    exact kept

theorem IsNumbered.stop (h : service.IsNumbered) : service.stop.IsNumbered := by
  intro handler hmem
  have hhandlers : service.stop.server.handlers = service.server.handlers :=
    (files_stop service.server service.machine).1
  have hfiles : service.stop.files = service.files := (files_stop service.server service.machine).2
  rw [hhandlers] at hmem
  rw [hfiles]
  exact h handler hmem

end Service

end Lockstep
