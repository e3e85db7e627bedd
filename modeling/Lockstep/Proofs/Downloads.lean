import Lockstep.Proofs.Additions
import Lockstep.Proofs.Emissions

/-!
# Calls that receive a local file

A call makes a file under the first free name, asks the server for what is to be in it and receives
that. Whatever the server and the network do, nothing that was there before is touched. A call that
fails leaves the file system as it was, and a call that ends well leaves one file more, which holds what
was received.
-/

namespace Lockstep

open Dialogue FileSystem

/-! ## Turns that only send -/

namespace Session

/-- The question is one to send something. -/
def Question.IsSend : Question → Prop
  | .send _ _ => True
  | _ => False

/-- The session waits for the same as before, or it has failed. -/
inductive Progress.Awaits (mode : Mode) (awaited : Awaited) : Progress → Prop
  | waits {session : Session} {exchange : Exchange} (mode_eq : session.mode = mode)
      (awaited_eq : exchange.awaited = awaited) : Awaits mode awaited (.waiting session exchange)
  | fails {session : Session} {error : TransferError} :
    Awaits mode awaited (.ended session (.error error))

variable {session : Session} {exchange : Exchange} {event : Event} {now : Nat}

theorem awaits_sendToPeer {mode : Mode} {awaited : Awaited} {next : Turn Progress}
    (packet : Bytes) (h : next.Meets Question.IsSend (Progress.Awaits mode awaited)) :
    (session.sendToPeer packet next).Meets Question.IsSend (Progress.Awaits mode awaited) := by
  refine ⟨trivial, fun answer ↦ ?_⟩
  cases answer with
  | ok _ => exact h
  | error error => exact .fails

/-- A session that is about to receive waits for the first block. -/
theorem awaits_receive (session : Session) (opening : Bytes) (now : Nat) :
    (session.receive opening now).Meets Question.IsSend
      (Progress.Awaits session.mode (.data {})) := by
  apply awaits_sendToPeer
  exact .waits rfl rfl

/-- What does not come from the peer changes nothing but deadlines. -/
theorem awaits_react (away : ∀ source datagram, event = .arrival source datagram →
      session.IsStranger source) :
    (session.react exchange event now).Meets Question.IsSend
      (Progress.Awaits session.mode exchange.awaited) := by
  cases event with
  | arrival source datagram =>
    rw [arrive_of_stranger (away source datagram rfl)]
    exact ⟨trivial, fun _ ↦ .waits rfl rfl⟩
  | receiveError error =>
    unfold react trip
    dsimp only
    split
    · exact .waits rfl rfl
    · exact .fails
  | expiry =>
    unfold react expire
    dsimp only
    split
    · exact .fails
    · apply awaits_sendToPeer
      exact .waits rfl rfl

theorem accepted?_of_away (away : ∀ source datagram, event = .arrival source datagram →
      session.IsStranger source) : session.accepted? exchange event = none := by
  cases event with
  | arrival source datagram =>
    unfold accepted?
    dsimp only
    rw [admit?_of_stranger (away source datagram rfl)]
    split
    · exact if_neg fun hboth ↦ Bool.false_ne_true hboth.1
    · rfl
  | receiveError error => rfl
  | expiry => rfl

/-- The block that the first peer to answer sends is accepted like any other. -/
theorem accepted?_boundTo {source : SocketAddress} (native : ¬ session.IsStranger source)
    (datagram : Bytes) :
    session.accepted? exchange (.arrival source datagram) =
      (session.boundTo source).accepted? exchange (.arrival source datagram) := by
  have admits : (session.boundTo source).admit? source = some (session.boundTo source) := by
    unfold admit? boundTo
    rw [if_pos rfl, if_pos rfl]
  unfold accepted?
  dsimp only
  rw [admit?_of_peer native, admits]
  rfl

end Session

/-- A turn that only sends leaves the stream and the files as they are. -/
theorem Stream.run_of_sends {Result : Type} {turn : Session.Turn Result} {returns : Result → Prop}
    (h : turn.Meets Session.Question.IsSend returns) (socket : SocketAddress) (stream : Stream)
    (machine : Machine) :
    (turn.run (reply socket) (stream, machine)).2.1 = stream ∧
      (turn.run (reply socket) (stream, machine)).2.2.files = machine.files := by
  induction turn generalizing machine with
  | done result => exact ⟨rfl, rfl⟩
  | ask question next ih =>
    obtain ⟨hsend, hnext⟩ := h
    cases question with
    | send destination packet => exact ih _ (hnext _) _
    | _ => exact hsend.elim

/-! ## Transfers -/

/-- The transfer receives into the file, which holds what the stream so far settles, whether its peer
has answered or not. -/
structure Transfer.Collects (transfer : Transfer) (mode : Mode) (id : FileId) (stream : Bytes)
    (files : FileSystem) : Prop where
  mode_eq : transfer.session.mode = mode
  awaited : transfer.exchange.awaited = .data (mode.read stream).2
  held : ∃ writer, transfer.stream = .writer writer ∧ writer.file = id ∧
    writer.Holds files (mode.read stream).1

/-- What a turn of a transfer into a file comes to: it fails, it waits for the rest of the stream, or
the whole stream is in the file. -/
inductive Course.Collects (mode : Mode) (id : FileId) (stream : Bytes) (files : FileSystem) :
    Course → Prop
  | fails {session : Session} {rest : Stream} {error : TransferError} :
    Collects mode id stream files (.ended session rest (.error error))
  | goesOn {transfer : Transfer} (collects : transfer.Collects mode id stream files) :
    Collects mode id stream files (.running transfer)
  | completes {session : Session} {rest : Stream} {summary : Summary}
      (stored : files.Stores id (mode.decode stream)) :
    Collects mode id stream files (.ended session rest (.ok summary))

theorem Course.Settles.collects {socket : SocketAddress} {session : Session} {id : FileId}
    {stream : Bytes} {trace : List ((Stream × Machine) × Session.Question)} {files : FileSystem}
    {course : Course} (h : course.Settles socket session id stream trace files) :
    course.Collects session.mode id stream files := by
  cases h with
  | failed => exact .fails
  | running socket_eq mode_eq receives =>
    refine .goesOn ⟨mode_eq, mode_eq ▸ receives.awaited, ?_⟩
    rw [← mode_eq]
    exact receives.held
  | completed stored acknowledged before => exact .completes stored

namespace Transfer

variable {mode : Mode} {id : FileId} {stream : Bytes} {machine : Machine} {writer : FileWriter}

/-- A turn that only sends leaves what was collected. -/
theorem collects_of_awaits {turn : Session.Turn Session.Progress}
    (h : turn.Meets Session.Question.IsSend
      (Session.Progress.Awaits mode (.data (mode.read stream).2)))
    (hid : writer.file = id) (holds : writer.Holds machine.files (mode.read stream).1)
    (socket : SocketAddress) (since : Nat) :
    (machine.run (takeTurn socket (.writer writer) turn since)).1.Collects mode id stream
      (machine.run (takeTurn socket (.writer writer) turn since)).2.files := by
  obtain ⟨stream_eq, files_eq⟩ := Stream.run_of_sends h socket (.writer writer) machine
  have awaits := h.returns_of_run (Stream.reply socket) (.writer writer, machine)
  rw [run_takeTurn, files_eq, stream_eq]
  generalize (turn.run (Stream.reply socket) (.writer writer, machine)).1 = progress at awaits
  cases awaits with
  | waits mode_eq awaited_eq => exact .goesOn ⟨mode_eq, awaited_eq, writer, rfl, hid, holds⟩
  | fails => exact .fails

/-- Whatever happens to the transfer, it fails or collects what it accepts. -/
theorem Collects.react {transfer : Transfer} (h : transfer.Collects mode id stream machine.files)
    (event : Session.Event) (now since : Nat) :
    (machine.run (transfer.react event now since)).1.Collects mode id
      (stream ++ (transfer.accepted? event).getD [])
      (machine.run (transfer.react event now since)).2.files := by
  obtain ⟨mode_eq, awaited, writer, hstream, hid, holds⟩ := h
  rw [run_react, hstream, accepted?]
  generalize received event = event
  by_cases away : ∀ source datagram, event = .arrival source datagram →
      transfer.session.IsStranger source
  · rw [Session.accepted?_of_away away, Option.getD_none, List.append_nil]
    have awaits := @Session.awaits_react transfer.session transfer.exchange event now away
    rw [mode_eq, awaited] at awaits
    exact collects_of_awaits awaits hid holds _ _
  · simp only [not_forall] at away
    obtain ⟨source, datagram, rfl, native⟩ := away
    rw [Session.accepted?_boundTo native, Session.arrive_of_peer native, run_takeTurn]
    subst mode_eq
    let answered := transfer.session.boundTo source
    have awaited : transfer.exchange.awaited = .data (answered.mode.read stream).2 := awaited
    have holds : writer.Holds machine.files (answered.mode.read stream).1 := holds
    have settles : Session.Settles transfer.socket since answered id _
        (answered.read transfer.exchange datagram now) (.writer writer, machine) :=
      Session.settles_read rfl awaited hid holds datagram
    exact @Course.Settles.collects _ answered _ _ _ _ _ settles

end Transfer

/-! ## Calls -/

namespace Client

variable {config : ClientConfig} {remote : String} {path : Path} {mode : Mode} {id : FileId}
  {stream : Bytes} {machine : Machine} {now since : Nat}

/-- The socket of a transfer that has ended is closed, and no file is touched. -/
theorem run_settle_files (socket : SocketAddress) (course : Course) (machine : Machine) :
    (machine.run (settle socket course)).2.files = machine.files := by
  cases course <;> rfl

theorem collects_settle {socket : SocketAddress} {course : Course}
    (h : course.Collects mode id stream machine.files) :
    (machine.run (settle socket course)).1.Collects mode id stream
      (machine.run (settle socket course)).2.files := by
  rw [run_settle, run_settle_files]
  exact h

/-- Nothing but the file that the call receives into is touched. -/
theorem sameBut_start (config : ClientConfig) (remote : String) (now since : Nat)
    (machine : Machine) (id : FileId) :
    machine.files.SameBut
      (machine.run (start config .receiver remote (.writer { file := id }) now since)).2.files id := by
  unfold start
  rw [Machine.run_bind]
  have hfiles : (machine.run (bindEphemeral config.server config.transfer.localBind)).2.files =
      machine.files := rfl
  generalize machine.run (bindEphemeral config.server config.transfer.localBind) = answered
    at hfiles
  obtain ⟨answer, machine'⟩ := answered
  rw [← hfiles]
  cases answer with
  | error error => exact .refl _ id
  | ok socket =>
    dsimp only
    rw [Machine.run_bind, run_settle_files]
    exact Transfer.sameBut_takeTurn rfl _ _ _

theorem sameBut_react {transfer : Transfer} (h : transfer.Collects mode id stream machine.files)
    (event : Session.Event) (now since : Nat) :
    machine.files.SameBut (machine.run (react transfer event now since)).2.files id := by
  obtain ⟨writer, hstream, hid, -⟩ := h.held
  have file?_eq : transfer.stream.file? = some id := by
    rw [hstream]
    exact congrArg some hid
  unfold react
  rw [Machine.run_bind, run_settle_files, Transfer.run_react]
  exact Transfer.sameBut_takeTurn file?_eq _ _ _

/-- A call that has just been started has failed or waits for the first block of its file. -/
theorem collects_start (config : ClientConfig) (remote : String) (now since : Nat)
    (stores : machine.files.Stores id []) :
    (machine.run (start config .receiver remote (.writer { file := id }) now since)).1.Collects
      config.mode id []
      (machine.run (start config .receiver remote (.writer { file := id }) now since)).2.files := by
  unfold start
  rw [Machine.run_bind]
  have hfiles : (machine.run (bindEphemeral config.server config.transfer.localBind)).2.files =
      machine.files := rfl
  generalize machine.run (bindEphemeral config.server config.transfer.localBind) = answered
    at hfiles
  obtain ⟨answer, machine'⟩ := answered
  cases answer with
  | error error => exact .fails
  | ok socket =>
    dsimp only at hfiles ⊢
    rw [← hfiles] at stores
    rw [Machine.run_bind]
    apply collects_settle
    apply Transfer.collects_of_awaits
    · have hread : (config.mode.read []).2 = {} := by cases config.mode <;> rfl
      rw [hread]
      exact Session.awaits_receive _ _ now
    · rfl
    · obtain ⟨file, hfile, hbytes⟩ := stores
      refine ⟨file, hfile, ?_⟩
      rw [List.append_nil, hbytes]
      cases config.mode <;> rfl

/-- What a stimulus makes of a call. -/
theorem collects_react {transfer : Transfer}
    (h : transfer.Collects mode id stream machine.files) (event : Session.Event) (now since : Nat) :
    (machine.run (react transfer event now since)).1.Collects mode id
      (stream ++ (transfer.accepted? event).getD [])
      (machine.run (react transfer event now since)).2.files := by
  unfold react
  rw [Machine.run_bind]
  exact collects_settle (h.react event now since)

/-! ## Calls with a local file -/

/-- How a call fares that began in the one file system and has come to the other: it goes on with its
file, it has failed and nothing is left of the file, or its file holds what was received. -/
inductive FileCourse.Fares (before after : FileSystem) (path : Path) (mode : Mode)
    (stream : Bytes) : FileCourse → Prop
  | goesOn {call : FileCall} {transfer : Transfer} {number : Nat} {upload : Upload}
      {location : Location} (free : LocalFile.IsFirstFree before path number)
      (upload_eq : call.upload = some upload) (path_eq : upload.path = path.candidate number)
      (adds : before.Adds after upload.path location upload.file)
      (collects : transfer.Collects mode upload.file stream after) :
    Fares before after path mode stream (.running call transfer)
  | fails {failure : Failure} (restores : before.Restores after) :
    Fares before after path mode stream (.ended (.error failure))
  | completes {summary : Summary} {number : Nat} {location : Location} {id : FileId}
      (free : LocalFile.IsFirstFree before path number)
      (gains : before.Gains after (path.candidate number) location id (mode.decode stream)) :
    Fares before after path mode stream (.ended (.ok summary))

/-- A transfer that has ended is followed by the end of the call: its file is closed, and taken away if
the transfer has failed. -/
theorem fares_follow {before : FileSystem} {call : FileCall} {number : Nat} {upload : Upload}
    {location : Location} {course : Course} (free : LocalFile.IsFirstFree before path number)
    (upload_eq : call.upload = some upload) (path_eq : upload.path = path.candidate number)
    (adds : before.Adds machine.files upload.path location upload.file)
    (collects : course.Collects mode upload.file stream machine.files) :
    (machine.run (call.follow course)).1.Fares before (machine.run (call.follow course)).2.files path
      mode stream := by
  have closed := adds.of_sameBut (.closeFile machine.files upload.file)
  unfold FileCall.follow
  rw [upload_eq]
  cases collects with
  | goesOn collects => exact .goesOn free upload_eq path_eq adds collects
  | completes stored =>
    have gains := closed.gains stored.closeFile
    rw [path_eq] at gains
    exact .completes free gains
  | fails =>
    obtain ⟨last, hremove, restores⟩ := closed.exists_removeFile
    apply FileCourse.Fares.fails
    change before.Restores (Machine.tryFiles _ (((machine.files.closeFile upload.file).removeFile
      upload.path).map _)).2.files
    rw [hremove]
    exact restores

/-- A call makes its file under the first free name and asks the server, or it fails. -/
theorem fares_readFile (config : ClientConfig) (remote : String) (path : Path) (now since : Nat)
    (machine : Machine) :
    (machine.run (readFile config remote path now since)).1.Fares machine.files
      (machine.run (readFile config remote path now since)).2.files path config.mode [] := by
  have search := LocalFile.searches_createFrom machine path 0 LocalFile.maxAttempts
  unfold readFile
  rw [Machine.run_bind]
  change LocalFile.Searches machine path 0 LocalFile.maxAttempts
    (machine.run (LocalFile.create path)) at search
  generalize machine.run (LocalFile.create path) = found at search
  cases search with
  | fails le lt failed free => exact .fails (.refl _)
  | exhausts taken => exact .fails (.refl _)
  | @makes number files id le lt taken made =>
    have free : LocalFile.IsFirstFree machine.files path number :=
      ⟨by omega, fun earlier hlt ↦ taken earlier (Nat.zero_le _) hlt, _, made⟩
    obtain ⟨location, adds⟩ := exists_adds_of_createFile made
    have stores : files.Stores id [] := ⟨_, (file?_of_createFile made).1, rfl⟩
    dsimp only
    rw [Machine.run_bind]
    apply fares_follow free rfl rfl
    · exact adds.of_sameBut (sameBut_start config remote now since { machine with files } id)
    · exact @collects_start id { machine with files } config remote now since stores

theorem FileCourse.Fares.react {before : FileSystem} {call : FileCall} {transfer : Transfer}
    (h : (FileCourse.running call transfer).Fares before machine.files path mode stream)
    (event : Session.Event) (now since : Nat) :
    (machine.run (call.react transfer event now since)).1.Fares before
      (machine.run (call.react transfer event now since)).2.files path mode
      (stream ++ (transfer.accepted? event).getD []) := by
  cases h with
  | goesOn free upload_eq path_eq adds collects =>
    unfold FileCall.react
    rw [Machine.run_bind]
    apply fares_follow free upload_eq path_eq
    · exact adds.of_sameBut (sameBut_react collects event now since)
    · exact collects_react collects event now since

/-- How much room is left on the device does not matter. -/
theorem FileCourse.Fares.of_free {before after : FileSystem} {course : FileCourse}
    (h : course.Fares before after path mode stream) (free : Option Nat) :
    course.Fares before { after with free } path mode stream := by
  cases h with
  | goesOn first upload_eq path_eq adds collects =>
    obtain ⟨mode_eq, awaited, held⟩ := collects
    exact .goesOn first upload_eq path_eq (adds.of_sameBut (.of_free after free _))
      ⟨mode_eq, awaited, held⟩
  | fails restores => exact .fails (restores.of_free free)
  | completes first gains => exact .completes first (gains.of_free free)

end Client

/-! ## From the start on -/

/-- A call that receives a local file, the machine that it runs on, and the payloads of the blocks that
it has accepted. -/
structure Download where
  course : Client.FileCourse
  machine : Machine
  accepted : List Bytes := []

namespace Download

def files (download : Download) : FileSystem :=
  download.machine.files

/-- The call is made. -/
def start (config : ClientConfig) (remote : String) (path : Path) (now since : Nat)
    (machine : Machine) : Download where
  course := (machine.run (Client.readFile config remote path now since)).1
  machine := (machine.run (Client.readFile config remote path now since)).2

/-- What can happen next: anything happens to the socket of the call, or time passes and the network
and the room on the device change. Nobody else changes the file system. -/
inductive Step (download : Download) : Download → Prop
  | reacts {call : Client.FileCall} {transfer : Transfer}
      (running : download.course = .running call transfer) (event : Session.Event)
      (now since : Nat) :
    Step download
      { course := (download.machine.run (call.react transfer event now since)).1
        machine := (download.machine.run (call.react transfer event now since)).2
        accepted := download.accepted ++ (transfer.accepted? event).toList }
  | passes (now : Nat) (network : Network) (free : Option Nat) :
    Step download { download with
      machine := { now, network, files := { download.files with free } } }

/-- The call has done no harm: what was there is there, a call that has failed has left nothing, and one
that has ended well has left one file, under the first free name, with what was received. -/
structure Spares (before : FileSystem) (path : Path) (mode : Mode) (download : Download) : Prop where
  keeps : before.Keeps download.files
  failed : ∀ failure, download.course = .ended (.error failure) → before.Restores download.files
  completed : ∀ summary, download.course = .ended (.ok summary) →
    ∃ number location id, LocalFile.IsFirstFree before path number ∧
      before.Gains download.files (path.candidate number) location id
        (mode.decode download.accepted.flatten)

variable {download : Download} {before : FileSystem} {path : Path} {mode : Mode}

theorem spares_of_fares
    (h : download.course.Fares before download.files path mode download.accepted.flatten) :
    download.Spares before path mode := by
  obtain ⟨course, machine, accepted⟩ := download
  cases h with
  | goesOn free upload_eq path_eq adds collects =>
    exact ⟨adds.keeps, fun _ heq ↦ (nomatch heq), fun _ heq ↦ (nomatch heq)⟩
  | fails restores =>
    exact ⟨restores.keeps, fun _ _ ↦ restores, fun _ heq ↦ (nomatch heq)⟩
  | completes free gains =>
    exact ⟨gains.keeps, fun _ heq ↦ (nomatch heq), fun _ _ ↦ ⟨_, _, _, free, gains⟩⟩

theorem fares_step {later : Download}
    (h : download.course.Fares before download.files path mode download.accepted.flatten)
    (hstep : download.Step later) :
    later.course.Fares before later.files path mode later.accepted.flatten := by
  cases hstep with
  | @reacts call transfer running event now since =>
    rw [running] at h
    have fares := h.react event now since
    rw [List.flatten_append]
    cases haccepted : transfer.accepted? event with
    | none =>
      rw [haccepted] at fares
      exact fares
    | some payload =>
      rw [haccepted] at fares
      rw [Option.toList_some, List.flatten_singleton]
      exact fares
  | passes now network free => exact h.of_free free

theorem fares_of_steps {first : Download}
    (h : first.course.Fares before first.files path mode first.accepted.flatten)
    (steps : Relation.ReflTransGen Step first download) :
    download.course.Fares before download.files path mode download.accepted.flatten := by
  induction steps with
  | refl => exact h
  | tail _ hstep ih => exact fares_step ih hstep

end Download

namespace Client

variable {path : Path} {machine : Machine}

/-- If all names are taken the call fails at once: it changes nothing, opens no socket and sends
nothing. -/
theorem exists_failure_of_taken (config : ClientConfig) (remote : String) (now since : Nat)
    (taken : ∀ number < LocalFile.maxAttempts,
      LocalFile.IsTaken machine.files (path.candidate number)) :
    (∃ failure, machine.run (readFile config remote path now since) =
      (.ended (.error failure), machine)) ∧
      machine.posts (readFile config remote path now since) = [] := by
  have search := LocalFile.searches_createFrom machine path 0 LocalFile.maxAttempts
  change LocalFile.Searches machine path 0 LocalFile.maxAttempts
    (machine.run (LocalFile.create path)) at search
  have hrun : machine.run (LocalFile.create path) =
      (.error (LocalFile.noFreeName path), machine) := by
    generalize machine.run (LocalFile.create path) = found at search
    cases search with
    | exhausts _ => rfl
    | @makes number files id le lt _ made =>
      obtain ⟨error, hfail, -⟩ := taken number (by omega)
      rw [made] at hfail
      cases hfail
    | @fails number error le lt failed free =>
      obtain ⟨error, hfail, hkind⟩ := taken number (by omega)
      rw [failed] at hfail
      cases hfail
      exact absurd hkind free
  have silent : machine.posts (LocalFile.create path) = [] :=
    Machine.posts_of_silent (LocalFile.silent_createFrom path path 1 LocalFile.maxAttempts) machine
  unfold readFile
  rw [Machine.run_bind, Machine.posts_bind, hrun, silent]
  exact ⟨⟨_, rfl⟩, rfl⟩

/-- A call that receives a local file never damages anything, and it sends nothing unless it has made a
file. -/
structure ReadsSafely (config : ClientConfig) (remote : String) (path : Path) (now since : Nat)
    (machine : Machine) : Prop where
  spares : ∀ download,
    Relation.ReflTransGen Download.Step (.start config remote path now since machine) download →
      download.Spares machine.files path config.mode
  exhausted : (∀ number < LocalFile.maxAttempts,
      LocalFile.IsTaken machine.files (path.candidate number)) →
    (∃ failure, machine.run (readFile config remote path now since) =
      (.ended (.error failure), machine)) ∧
      machine.posts (readFile config remote path now since) = []

/-- Whatever the files, the server and the network are like. -/
theorem readsSafely (config : ClientConfig) (remote : String) (path : Path) (now since : Nat)
    (machine : Machine) : ReadsSafely config remote path now since machine where
  spares _ steps := by
    have begins : (Download.start config remote path now since machine).course.Fares machine.files
        (Download.start config remote path now since machine).files path config.mode [] :=
      fares_readFile config remote path now since machine
    exact Download.spares_of_fares (Download.fares_of_steps begins steps)
  exhausted := exists_failure_of_taken config remote now since

end Client

end Lockstep
