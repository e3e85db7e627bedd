import Lockstep.Proofs.Confinement
import Lockstep.Proofs.Intake
import Lockstep.Proofs.Ownership

/-!
# Uploads

What a handler that receives a file does to the file system, from the request on until the transfer
has ended. Only the file that was made for the request is ever touched. It stands where it was made
while the transfer goes on; a transfer that ends well leaves the whole file there, and one that fails
leaves nothing.
-/

namespace Lockstep

open FileSystem

/-- Where the file of the upload stands. -/
def Upload.location (upload : Upload) : Location :=
  Location.ofPath upload.path

namespace Handler

/-- The upload goes on: its file stands where it was made, and what was accepted is stored. -/
structure Tends (handler : Handler) (upload : Upload) (stream : Bytes) (files : FileSystem) :
    Prop where
  stands : ∃ directory name, files.Stands upload.path upload.file directory name
  receives : handler.transfer.Receives upload.file stream files

/-! ## The end of a transfer -/

variable {socket client : SocketAddress} {upload : Upload} {machine : Machine} {session : Session}
  {rest : Stream}

theorem run_follow_completed (summary : Summary) :
    (machine.run (follow socket client (some upload) (.ended session rest (.ok summary)))).1 =
        none ∧
      (machine.run (follow socket client (some upload) (.ended session rest (.ok summary)))).2.files =
        machine.files.closeFile upload.file :=
  ⟨rfl, rfl⟩

theorem run_follow_failed {directory : Location} {name : Path}
    (stands : machine.files.Stands upload.path upload.file directory name) (error : TransferError) :
    (machine.run (follow socket client (some upload) (.ended session rest (.error error)))).1 =
        none ∧
      (machine.run (follow socket client (some upload) (.ended session rest (.error error)))).2.files =
        (machine.files.closeFile upload.file).removeNode (directory ++ [name]) := by
  have hremove := (stands.of_sameBut (.closeFile machine.files upload.file)).removeFile
  refine ⟨rfl, ?_⟩
  change (Machine.tryFiles _ (((machine.files.closeFile upload.file).removeFile upload.path).map
    _)).2.files = _
  rw [hremove]
  rfl

/-- Nothing is sent any more when the transfer has ended. -/
theorem send_not_mem_log_follow {found : Machine} {origin destination : SocketAddress}
    {packet : Bytes} {upload : Option Upload} {course : Course} :
    (found, Call.send origin destination packet) ∉
      machine.log (follow socket client upload course) :=
  fun hmem ↦ Machine.log_of_meets (follow_meets socket client upload course) hmem

/-! ## Reactions -/

variable {handler : Handler} {event : Session.Event} {now since : Nat} {stream : Bytes}

theorem run_react (handler : Handler) (event : Session.Event) (now since : Nat)
    (machine : Machine) :
    machine.run (handler.react event now since) =
      (machine.run (handler.transfer.react event now since)).2.run
        (follow handler.transfer.socket handler.client handler.upload
          (machine.run (handler.transfer.react event now since)).1) :=
  Machine.run_bind _ _ _

theorem log_react (handler : Handler) (event : Session.Event) (now since : Nat)
    (machine : Machine) :
    machine.log (handler.react event now since) =
      machine.log (handler.transfer.react event now since) ++
        (machine.run (handler.transfer.react event now since)).2.log
          (follow handler.transfer.socket handler.client handler.upload
            (machine.run (handler.transfer.react event now since)).1) :=
  Machine.log_bind _ _ _

/-- What a stimulus does to a handler that receives a file, by the course that its transfer takes:
the handler goes on, or the file stands there complete and was so before the last acknowledgment was
sent, or there is no file any more. -/
inductive Advances (handler : Handler) (upload : Upload) (stream : Bytes)
    (log : List (Machine × Call)) (files : FileSystem) : Course → Option Handler → Prop
  | goesOn {transfer : Transfer} (socket_eq : transfer.socket = handler.transfer.socket)
      (mode_eq : transfer.session.mode = handler.transfer.session.mode)
      (tends : Tends { handler with transfer } upload stream files) :
    Advances handler upload stream log files (.running transfer) (some { handler with transfer })
  | completed {session : Session} {rest : Stream} {summary : Summary}
      (stands : files.labelAt? upload.location = some (.file upload.file))
      (stored : files.Stores upload.file (handler.transfer.session.mode.decode stream))
      (acknowledged : ∃ found, (found, Call.send handler.transfer.socket
        handler.transfer.session.peer (Packet.encodeAck handler.transfer.session.block)) ∈ log)
      (before : ∀ found origin destination packet,
        (found, Call.send origin destination packet) ∈ log →
          destination = handler.transfer.session.peer ∧
            packet = Packet.encodeAck handler.transfer.session.block ∧
            found.files.Stores upload.file (handler.transfer.session.mode.decode stream)) :
    Advances handler upload stream log files (.ended session rest (.ok summary)) none
  | failed {session : Session} {rest : Stream} {error : TransferError}
      (gone : files.labelAt? upload.location = none) :
    Advances handler upload stream log files (.ended session rest (.error error)) none

theorem Tends.labelAt?_location {files : FileSystem} (h : handler.Tends upload stream files) :
    files.labelAt? upload.location = some (.file upload.file) := by
  obtain ⟨directory, name, stands⟩ := h.stands
  rw [Upload.location, stands.ofPath]
  exact stands.leaf

theorem Tends.exists_file {files : FileSystem} (h : handler.Tends upload stream files) :
    ∃ file, files.file? upload.file = some file := by
  obtain ⟨writer, -, hid, file, hfile, -⟩ := h.receives.held
  exact ⟨file, hid ▸ hfile⟩

/-- What happens away from the upload does not matter to it. -/
theorem Tends.of_labels {before after : FileSystem} (h : handler.Tends upload stream before)
    (labels : ∀ place, place <+: upload.location → after.labelAt? place = before.labelAt? place)
    (same : after.file? upload.file = before.file? upload.file) :
    handler.Tends upload stream after := by
  obtain ⟨directory, name, stands⟩ := h.stands
  obtain ⟨writer, hstream, hid, file, hfile, hbytes⟩ := h.receives.held
  rw [Upload.location, stands.ofPath] at labels
  refine ⟨⟨directory, name, stands.of_labels labels⟩, h.receives.bound, h.receives.awaited, ?_⟩
  refine ⟨writer, hstream, hid, file, ?_, hbytes⟩
  rw [hid, same, ← hid]
  exact hfile

theorem Tends.of_agreesBut {before after : FileSystem} {location : Location} {id : FileId}
    (h : handler.Tends upload stream before) (agree : before.AgreesBut after location id)
    (hne : id ≠ upload.file)
    (apart : before.labelAt? location = none ∨ before.labelAt? location = some (.file id)) :
    handler.Tends upload stream after := by
  obtain ⟨directory, name, stands⟩ := h.stands
  apply h.of_labels
  · intro place hplace
    rw [Upload.location, stands.ofPath] at hplace
    exact stands.labels_of_agreesBut agree hne apart hplace
  · exact agree.files _ hne.symm

theorem Tends.file?_eq (h : handler.Tends upload stream machine.files) :
    handler.transfer.stream.file? = some upload.file := by
  obtain ⟨writer, hstream, hid, -⟩ := h.receives.held
  rw [hstream]
  exact congrArg some hid

/-- While the transfer takes its turn only the contents of its own file change. -/
theorem Tends.sameBut (h : handler.Tends upload stream machine.files) (event : Session.Event)
    (now since : Nat) :
    machine.files.SameBut (machine.run (handler.transfer.react event now since)).2.files
      upload.file := by
  rw [Transfer.run_react]
  exact Transfer.sameBut_takeTurn h.file?_eq _ _ _

/-- A stimulus touches nothing but the file of the upload. -/
theorem Tends.agreesBut_react (h : handler.Tends upload stream machine.files)
    (hupload : handler.upload = some upload) (event : Session.Event) (now since : Nat) :
    machine.files.AgreesBut (machine.run (handler.react event now since)).2.files upload.location
      upload.file := by
  obtain ⟨directory, name, stands⟩ := h.stands
  have same := h.sameBut event now since
  have agree := AgreesBut.of_sameBut same upload.location
  rw [run_react, hupload]
  cases (machine.run (handler.transfer.react event now since)).1 with
  | running transfer => exact agree
  | ended session rest result =>
    cases result with
    | ok summary =>
      rw [(run_follow_completed summary).2]
      exact .of_sameBut (same.trans (.closeFile _ upload.file)) _
    | error error =>
      have stands' := stands.of_sameBut same
      rw [(run_follow_failed stands' error).2]
      have discarded := stands'.discard.1
      rw [← stands.ofPath] at discarded ⊢
      exact agree.trans discarded

/-- What a stimulus leads to. -/
theorem Tends.react (h : handler.Tends upload stream machine.files)
    (hupload : handler.upload = some upload) (event : Session.Event) (now since : Nat) :
    handler.Advances upload (stream ++ (handler.transfer.accepted? event).getD [])
      (machine.log (handler.react event now since))
      (machine.run (handler.react event now since)).2.files
      (machine.run (handler.transfer.react event now since)).1
      (machine.run (handler.react event now since)).1 := by
  obtain ⟨directory, name, stands⟩ := h.stands
  have stands' := stands.of_sameBut (h.sameBut event now since)
  have hsettles := h.receives.react event now since
  have hlog : ∀ found origin destination packet,
      (found, Call.send origin destination packet) ∈ machine.log (handler.react event now since) ↔
        (found, Call.send origin destination packet) ∈
          machine.log (handler.transfer.react event now since) := by
    intro found origin destination packet
    rw [log_react, List.mem_append, or_iff_left send_not_mem_log_follow]
  rw [run_react, hupload]
  generalize (machine.run (handler.transfer.react event now since)).1 = course at hsettles ⊢
  cases hsettles with
  | failed =>
    apply Advances.failed
    rw [(run_follow_failed stands' _).2, Upload.location, stands.ofPath]
    exact stands'.discard.2
  | running socket_eq mode_eq receives =>
    rw [← hupload]
    exact .goesOn socket_eq mode_eq ⟨⟨directory, name, stands'⟩, receives⟩
  | completed stored acknowledged before =>
    apply Advances.completed
    · rw [(run_follow_completed _).2, (SameBut.closeFile _ _).labelAt?, Upload.location,
        stands.ofPath]
      exact stands'.leaf
    · exact stored.closeFile
    · obtain ⟨⟨current, found⟩, hfound⟩ := acknowledged
      refine ⟨found, (hlog _ _ _ _).mpr ?_⟩
      exact Transfer.send_mem_log_react.mpr ⟨rfl, current, hfound⟩
    · intro found origin destination packet hmem
      obtain ⟨-, current, hcurrent⟩ := Transfer.send_mem_log_react.mp ((hlog _ _ _ _).mp hmem)
      exact before _ _ _ hcurrent

/-! ## Handlers that read -/

/-- A transfer that does not write a file leaves the file system alone, and so does its handler. -/
theorem files_follow_takeTurn (socket client : SocketAddress) {stream : Stream}
    (hnone : stream.file? = none) (turn : Session.Turn Session.Progress) (since : Nat)
    (machine : Machine) :
    let result := machine.run (Transfer.takeTurn socket stream turn since >>=
      follow socket client none)
    result.2.files = machine.files ∧ ∀ handler, result.1 = some handler →
      handler.upload = none ∧ handler.transfer.stream.file? = none := by
  have hfiles : (machine.run (Transfer.takeTurn socket stream turn since)).2.files =
      machine.files := Transfer.files_takeTurn hnone turn since machine
  have hstream := Machine.returns_of_meets (Transfer.takeTurn_meets socket stream turn since)
    machine
  rw [Machine.run_bind]
  generalize machine.run (Transfer.takeTurn socket stream turn since) = taken at hfiles hstream ⊢
  obtain ⟨course, after⟩ := taken
  cases course with
  | running transfer =>
    refine ⟨hfiles, ?_⟩
    rintro handler ⟨⟩
    exact ⟨rfl, hstream.2.trans hnone⟩
  | ended session rest result =>
    refine ⟨hfiles, ?_⟩
    rintro handler ⟨⟩

/-- A stimulus to a handler that reads. -/
theorem files_react_of_reads (hupload : handler.upload = none)
    (hnone : handler.transfer.stream.file? = none) (event : Session.Event) (now since : Nat)
    (machine : Machine) :
    let result := machine.run (handler.react event now since)
    result.2.files = machine.files ∧ ∀ handler', result.1 = some handler' →
      handler'.upload = none ∧ handler'.transfer.stream.file? = none := by
  rw [run_react, Transfer.run_react, hupload, ← Machine.run_bind]
  exact files_follow_takeTurn _ _ hnone _ _ _

end Handler

end Lockstep
