import Lockstep.Proofs.Conduct
import Lockstep.Proofs.FileTable
import Lockstep.Proofs.Reactions
import Lockstep.Proofs.Streams

/-!
# Receiving into a file

What stands in the file that a session receives into, from one wait to the next: together with the
buffer in front of it, it holds what the blocks that were accepted so far settle. A session that
ends well has stored everything before it sends anything in its last turn, and however it ends, no
other file was touched.
-/

namespace Lockstep

open FileSystem

namespace Mode

/-- The file that a stream of blocks becomes. -/
def decode (mode : Mode) (stream : Bytes) : Bytes :=
  match mode with
  | .octet => stream
  | .netascii => Netascii.decode stream

theorem decode_eq (mode : Mode) (stream : Bytes) :
    mode.decode stream = (mode.read stream).1 ++ (mode.read stream).2.finish.1 := by
  cases mode with
  | octet => exact (List.append_nil stream).symm
  | netascii => rfl

end Mode

/-! ## Writers -/

namespace FileWriter

/-- The file, and behind it the buffer, hold the bytes. -/
def Holds (writer : FileWriter) (files : FileSystem) (bytes : Bytes) : Prop :=
  ∃ file, files.file? writer.file = some file ∧ file.contents.toBytes ++ writer.buffer = bytes

variable {writer : FileWriter} {machine : Machine} {bytes : Bytes}

/-- A write that does not fail puts the bytes behind those that are in the file. -/
theorem exists_file_of_append {files : FileSystem} {id : FileId} {file : StoredFile} {chunk : Bytes}
    (hfile : files.file? id = some file) (hok : (files.appendFile id chunk).1 = .ok ()) :
    ∃ grown, (files.appendFile id chunk).2.file? id = some grown ∧
      grown.contents.toBytes = file.contents.toBytes ++ chunk := by
  refine ⟨{ file with contents := file.contents.append chunk }, ?_, Contents.toBytes_append _ _⟩
  rw [file?_appendFile hok, hfile]
  rfl

/-- After the buffer was emptied everything is in the file. -/
theorem Holds.empty (h : writer.Holds machine.files bytes)
    (hok : (machine.run writer.empty).1.1 = .ok ()) :
    (machine.run writer.empty).1.2 = { writer with buffer := [] } ∧
      FileWriter.Holds { writer with buffer := [] } (machine.run writer.empty).2.files bytes := by
  obtain ⟨file, hfile, hbytes⟩ := h
  unfold FileWriter.empty at hok ⊢
  by_cases hbuffer : writer.buffer.isEmpty = true
  · rw [if_pos hbuffer]
    have hnil : writer.buffer = [] := List.isEmpty_iff.mp hbuffer
    have hwriter : writer = { writer with buffer := [] } := by
      cases writer
      cases hnil
      rfl
    refine ⟨hwriter, file, hfile, ?_⟩
    rw [← hbytes, hnil]
  · rw [if_neg hbuffer] at hok ⊢
    rw [Machine.run_bind] at hok ⊢
    obtain ⟨grown, hgrown, hcontents⟩ := exists_file_of_append hfile hok
    refine ⟨rfl, grown, hgrown, ?_⟩
    change grown.contents.toBytes ++ [] = bytes
    rw [hcontents, List.append_nil, hbytes]

/-- A write that does not fail adds what is written. -/
theorem Holds.write (h : writer.Holds machine.files bytes) {chunk : Bytes}
    (hok : (machine.run (writer.write chunk)).1.1 = .ok ()) :
    (machine.run (writer.write chunk)).1.2.Holds (machine.run (writer.write chunk)).2.files
      (bytes ++ chunk) := by
  unfold FileWriter.write at hok ⊢
  split at hok
  · next hfits =>
    rw [if_pos hfits]
    obtain ⟨file, hfile, hbytes⟩ := h
    refine ⟨file, hfile, ?_⟩
    change file.contents.toBytes ++ (writer.buffer ++ chunk) = bytes ++ chunk
    rw [← List.append_assoc, hbytes]
  · next hfull =>
    rw [if_neg hfull]
    rw [Machine.run_bind] at hok ⊢
    cases hemptied : (machine.run writer.empty).1.1 with
    | error error =>
      have hpair : (machine.run writer.empty).1 = (.error error, (machine.run writer.empty).1.2) :=
        Prod.ext hemptied rfl
      rw [hpair] at hok
      cases hok
    | ok _ =>
      obtain ⟨hwriter, file, hfile, hbytes⟩ := h.empty hemptied
      have hpair : (machine.run writer.empty).1 = (.ok (), { writer with buffer := [] }) :=
        Prod.ext hemptied hwriter
      change file.contents.toBytes ++ [] = bytes at hbytes
      rw [List.append_nil] at hbytes
      rw [hpair] at hok ⊢
      dsimp only at hok ⊢
      split at hok
      · next hshort =>
        rw [if_pos hshort]
        exact ⟨file, hfile, congrArg (· ++ chunk) hbytes⟩
      · next hlong =>
        rw [if_neg hlong]
        rw [Machine.run_bind] at hok ⊢
        obtain ⟨grown, hgrown, hcontents⟩ := exists_file_of_append hfile hok
        refine ⟨grown, hgrown, ?_⟩
        change grown.contents.toBytes ++ [] = bytes ++ chunk
        rw [List.append_nil, hcontents, hbytes]

end FileWriter

/-! ## Sessions -/

namespace Session

/-- The payload of the block that the session accepts in this event. -/
def accepted? (session : Session) (exchange : Exchange) (event : Event) : Option Bytes :=
  match event with
  | .arrival source datagram =>
    match exchange.awaited, Packet.decode datagram with
    | .data _, .ok (.data block payload) =>
      if (session.admit? source).isSome ∧ block = session.block then some payload else none
    | _, _ => none
  | .receiveError _ | .expiry => none

end Session

namespace Transfer

/-- The transfer receives into the file, which holds what the stream so far settles. -/
structure Receives (transfer : Transfer) (id : FileId) (stream : Bytes) (files : FileSystem) :
    Prop where
  bound : transfer.session.bound = true
  awaited : transfer.exchange.awaited = .data (transfer.session.mode.read stream).2
  held : ∃ writer, transfer.stream = .writer writer ∧ writer.file = id ∧
    writer.Holds files (transfer.session.mode.read stream).1

end Transfer

/-- What a turn of a session that receives into a file can come to: it fails, it waits for the rest
of the stream, or the whole stream was stored before its last block was acknowledged. -/
inductive Course.Settles (socket : SocketAddress) (session : Session) (id : FileId) (stream : Bytes)
    (trace : List ((Stream × Machine) × Session.Question)) (files : FileSystem) : Course → Prop
  | failed {last : Session} {rest : Stream} {error : TransferError} :
    Settles socket session id stream trace files (.ended last rest (.error error))
  | running {transfer : Transfer} (socket_eq : transfer.socket = socket)
      (mode_eq : transfer.session.mode = session.mode)
      (receives : transfer.Receives id stream files) :
    Settles socket session id stream trace files (.running transfer)
  | completed {last : Session} {rest : Stream} {summary : Summary}
      (stored : files.Stores id (session.mode.decode stream))
      (acknowledged : ∃ state,
        (state, .send session.peer (Packet.encodeAck session.block)) ∈ trace)
      (before : ∀ state destination packet, (state, .send destination packet) ∈ trace →
        destination = session.peer ∧ packet = Packet.encodeAck session.block ∧
          state.2.files.Stores id (session.mode.decode stream)) :
    Settles socket session id stream trace files (.ended last rest (.ok summary))

/-- What is not sent does not come in between. -/
theorem Course.Settles.cons {socket : SocketAddress} {session : Session} {id : FileId}
    {stream : Bytes} {trace : List ((Stream × Machine) × Session.Question)} {files : FileSystem}
    {course : Course} (h : course.Settles socket session id stream trace files)
    {question : Session.Question}
    (quiet : ∀ destination packet, question ≠ .send destination packet) (state : Stream × Machine) :
    course.Settles socket session id stream ((state, question) :: trace) files := by
  cases h with
  | failed => exact .failed
  | running socket_eq mode_eq receives => exact .running socket_eq mode_eq receives
  | completed stored acknowledged before =>
    obtain ⟨found, hfound⟩ := acknowledged
    apply Course.Settles.completed stored ⟨found, List.mem_cons_of_mem _ hfound⟩
    intro found destination packet hmem
    rcases List.mem_cons.mp hmem with hnow | hlater
    · cases hnow
      exact absurd rfl (quiet destination packet)
    · exact before found destination packet hlater

namespace Session

/-- The turn comes to one of these. -/
def Settles (socket : SocketAddress) (since : Nat) (session : Session) (id : FileId)
    (stream : Bytes) (turn : Turn Progress) (state : Stream × Machine) : Prop :=
  Course.Settles socket session id stream (turn.trace (Stream.reply socket) state)
    (turn.run (Stream.reply socket) state).2.2.files
    ((turn.run (Stream.reply socket) state).1.course socket since
      (turn.run (Stream.reply socket) state).2.1)

variable {session : Session} {exchange : Exchange} {socket : SocketAddress} {since now : Nat}
  {id : FileId} {stream : Bytes} {state : Stream × Machine} {next : Turn Progress}
  {writer : FileWriter} {machine : Machine} {bytes : Bytes}

theorem settles_fail (error : TransferError) :
    Settles socket since session id stream (session.fail error) state := .failed

theorem settles_reject (reason : String) :
    Settles socket since session id stream (session.reject reason) state := .failed

theorem settles_abandon (use : SystemError.Use) (error : SystemError) :
    Settles socket since session id stream (session.abandon use error) state := .failed

theorem Settles.ask {question : Question} {next : Answer question → Turn Progress}
    (h : Settles socket since session id stream (next (Stream.reply socket question state).1)
      (Stream.reply socket question state).2)
    (quiet : ∀ destination packet, question ≠ .send destination packet) :
    Settles socket since session id stream (.ask question next) state :=
  Course.Settles.cons h quiet state

/-- A write that fails ends the session; otherwise the writer holds more. -/
theorem settles_store {chunk : Bytes} (holds : writer.Holds machine.files bytes)
    (hnext : ∀ writer' machine', writer'.file = writer.file →
      writer'.Holds machine'.files (bytes ++ chunk) →
      Settles socket since session id stream next (.writer writer', machine')) :
    Settles socket since session id stream (session.store chunk next) (.writer writer, machine) := by
  apply Settles.ask
  · rw [Stream.reply_write_writer]
    cases hresult : (machine.run (writer.write chunk)).1.1 with
    | error error => exact settles_abandon .writing error
    | ok _ =>
      have hfile := Machine.returns_of_meets (writer.write_meets chunk) machine
      exact hnext _ _ hfile (holds.write hresult)
  · intro destination packet hsend
    cases hsend

/-- A flush that does not fail leaves everything in the file. -/
theorem settles_flush (holds : writer.Holds machine.files bytes)
    (hnext : ∀ writer' machine', machine'.files.Stores writer.file bytes →
      Settles socket since session id stream next (.writer writer', machine')) :
    Settles socket since session id stream (session.flush next) (.writer writer, machine) := by
  apply Settles.ask
  · rw [Stream.reply_flush_writer]
    cases hresult : (machine.run writer.empty).1.1 with
    | error error => exact settles_abandon .writing error
    | ok _ =>
      obtain ⟨-, file, hfile, hbytes⟩ := holds.empty hresult
      apply hnext
      refine ⟨file, hfile, ?_⟩
      rw [← hbytes]
      exact (List.append_nil _).symm
  · intro destination packet hsend
    cases hsend

/-- The last acknowledgment is sent when everything is in the file. -/
theorem settles_acknowledge_last {length : Nat} (hlast : length < blockSize)
    (decoder : Netascii.Decoder) (summary : Summary)
    (stored : state.2.files.Stores id (session.mode.decode stream)) :
    Settles socket since session id stream (session.acknowledge length decoder summary now) state := by
  unfold acknowledge sendToPeer Settles
  rw [Dialogue.run, Dialogue.trace]
  obtain ⟨current, machine⟩ := state
  rw [Stream.reply_send]
  cases hsent : (machine.network.send machine.now socket session.peer
      (Packet.encodeAck session.block)).1 with
  | error error => exact .failed
  | ok _ =>
    dsimp only
    rw [if_pos hlast]
    apply Course.Settles.completed stored ⟨_, List.mem_cons_self⟩
    intro found destination packet hmem
    rcases List.mem_cons.mp hmem with hnow | hlater
    · cases hnow
      exact ⟨rfl, rfl, stored⟩
    · exact absurd hlater List.not_mem_nil

theorem settles_acknowledge_full {length : Nat} (hfull : ¬ length < blockSize) (summary : Summary)
    (bound : session.bound = true) (hid : writer.file = id)
    (holds : writer.Holds machine.files (session.mode.read stream).1) :
    Settles socket since session id stream
      (session.acknowledge length (session.mode.read stream).2 summary now)
      (.writer writer, machine) := by
  unfold acknowledge sendToPeer Settles
  rw [Dialogue.run, Dialogue.trace, Stream.reply_send]
  cases hsent : (machine.network.send machine.now socket session.peer
      (Packet.encodeAck session.block)).1 with
  | error error => exact .failed
  | ok _ =>
    dsimp only
    rw [if_neg hfull]
    exact .running rfl rfl ⟨bound, rfl, writer, rfl, hid, holds⟩

/-- A block that is accepted is stored before it is acknowledged. -/
theorem settles_takePayload (payload : Bytes) (summary : Summary) (bound : session.bound = true)
    (hid : writer.file = id) (holds : writer.Holds machine.files (session.mode.read stream).1) :
    Settles socket since session id (stream ++ payload)
      (session.takePayload payload (session.mode.read stream).2 summary now)
      (.writer writer, machine) := by
  have hread := session.mode.read_append stream payload
  have hsettled : (session.mode.read (stream ++ payload)).1 = (session.mode.read stream).1 ++
      (session.mode.readMore (session.mode.read stream).2 payload).1 := by rw [hread]
  have hdecoder : (session.mode.read (stream ++ payload)).2 =
      (session.mode.readMore (session.mode.read stream).2 payload).2 := by rw [hread]
  rw [takePayload_eq]
  dsimp only
  rw [← hdecoder]
  apply settles_store holds
  intro writer' machine' hfile' holds'
  rw [← hsettled] at holds'
  split
  · next hlast =>
    apply settles_store holds'
    intro writer'' machine'' hfile'' holds''
    rw [← Mode.decode_eq] at holds''
    apply settles_flush holds''
    intro last last' stored
    rw [hfile'', hfile', hid] at stored
    exact settles_acknowledge_last (of_decide_eq_true hlast) _ _ stored
  · next hfull =>
    have hfull' : ¬ payload.length < blockSize := fun hlt ↦ hfull (decide_eq_true hlt)
    exact settles_acknowledge_full hfull' _ bound (hfile'.trans hid) holds'

/-! ## Reactions -/

section

variable (bound : session.bound = true)
  (awaited : exchange.awaited = .data (session.mode.read stream).2) (hid : writer.file = id)
  (holds : writer.Holds machine.files (session.mode.read stream).1)

include bound awaited hid holds

theorem settles_await :
    Settles socket since session id stream (session.await exchange)
      (.writer writer, machine) :=
  .running rfl rfl ⟨bound, awaited, writer, rfl, hid, holds⟩

theorem settles_notify (destination : SocketAddress) (code : ErrorCode) (message : String) :
    Settles socket since session id stream
      (notify destination code message (session.await exchange)) (.writer writer, machine) :=
  .running rfl rfl ⟨bound, awaited, writer, rfl, hid, holds⟩

theorem settles_resend (packet : Bytes) :
    Settles socket since session id stream
      (session.sendToPeer packet (session.await exchange)) (.writer writer, machine) := by
  unfold sendToPeer Settles
  rw [Dialogue.run, Dialogue.trace, Stream.reply_send]
  cases hsent : (machine.network.send machine.now socket session.peer packet).1 with
  | error error => exact .failed
  | ok _ => exact .running rfl rfl ⟨bound, awaited, writer, rfl, hid, holds⟩

theorem settles_expire :
    Settles socket since session id stream (session.expire exchange now)
      (.writer writer, machine) := by
  unfold expire
  dsimp only
  split
  · exact settles_fail _
  · apply settles_resend bound _ hid holds
    exact awaited

theorem settles_trip (error : SystemError) :
    Settles socket since session id stream (session.trip exchange error)
      (.writer writer, machine) := by
  unfold trip
  split
  · exact settles_await bound awaited hid holds
  · exact settles_fail _

/-- A datagram of the peer is stored if it is the awaited block. -/
theorem settles_read (datagram : Bytes) :
    Settles socket since session id
      (stream ++ (session.accepted? exchange (.arrival session.peer datagram)).getD [])
      (session.read exchange datagram now) (.writer writer, machine) := by
  have admits : (session.admit? session.peer).isSome := by
    rw [admit?, if_pos bound, if_pos rfl]
    rfl
  unfold read accepted?
  rw [awaited]
  cases hdecode : Packet.decode datagram with
  | error error => exact settles_reject _
  | ok packet =>
    cases packet with
    | readRequest request =>
      unfold take
      rw [awaited]
      exact settles_reject _
    | writeRequest request =>
      unfold take
      rw [awaited]
      exact settles_reject _
    | ack block =>
      unfold take
      rw [awaited]
      exact settles_reject _
    | error notice =>
      simp only [hdecode, Option.getD_none, List.append_nil]
      split
      · exact settles_await bound awaited hid holds
      · exact settles_fail _
    | data block payload =>
      unfold take
      simp only [hdecode, awaited, takeData]
      by_cases hblock : block = session.block
      · rw [if_pos ⟨admits, hblock⟩, if_pos hblock, Option.getD_some]
        exact settles_takePayload payload _ bound hid holds
      · rw [if_neg fun hboth ↦ hblock hboth.2, if_neg hblock, Option.getD_none, List.append_nil]
        split
        · exact settles_resend bound awaited hid holds _
        · exact settles_reject _

/-- Whatever happens, the session fails or everything that it accepted is stored. -/
theorem settles_react (event : Event) :
    Settles socket since session id
      (stream ++ (session.accepted? exchange event).getD []) (session.react exchange event now)
      (.writer writer, machine) := by
  have hnone : ∀ event, session.accepted? exchange event = none →
      stream ++ (session.accepted? exchange event).getD [] = stream := by
    intro event hevent
    rw [hevent, Option.getD_none, List.append_nil]
  cases event with
  | arrival source datagram =>
    by_cases hsource : source = session.peer
    · subst hsource
      rw [react_peer bound]
      exact settles_read bound awaited hid holds datagram
    · have hstranger : session.accepted? exchange (.arrival source datagram) = none := by
        have admits : session.admit? source = none := by
          rw [admit?, if_pos bound, if_neg hsource]
        unfold accepted?
        rw [awaited]
        dsimp only
        rw [admits]
        split
        · exact if_neg fun hboth ↦ Bool.false_ne_true hboth.1
        · rfl
      rw [hnone _ hstranger, react_stranger bound hsource]
      exact settles_notify bound awaited hid holds _ _ _
  | receiveError error =>
    rw [hnone _ rfl]
    exact settles_trip bound awaited hid holds error
  | expiry =>
    rw [hnone _ rfl]
    exact settles_expire bound awaited hid holds

end

end Session

namespace Transfer

/-- What the transfer accepts of a datagram that reaches it. -/
def accepted? (transfer : Transfer) (event : Session.Event) : Option Bytes :=
  transfer.session.accepted? transfer.exchange (received event)

/-- What leaves in a reaction is what the session asks to be sent. -/
theorem send_mem_log_react {transfer : Transfer} {event : Session.Event} {now since : Nat}
    {machine found : Machine} {origin destination : SocketAddress} {packet : Bytes} :
    (found, Call.send origin destination packet) ∈
        machine.log (transfer.react event now since) ↔
      origin = transfer.socket ∧ ∃ current,
        ((current, found), Session.Question.send destination packet) ∈
          (transfer.session.react transfer.exchange (received event) now).trace
            (Stream.reply transfer.socket) (transfer.stream, machine) := by
  have hlog : machine.log (transfer.react event now since) = machine.log
      (takeTurn transfer.socket transfer.stream
        (transfer.session.react transfer.exchange (received event) now) since) := by
    cases event <;> rfl
  rw [hlog, takeTurn, Machine.log_bind, List.mem_append, or_iff_left]
  · exact Stream.send_mem_log_converse
  · intro hend
    split at hend <;> exact absurd hend List.not_mem_nil

/-- A transfer that receives into a file fails, or waits with everything stored that it accepted, or
has stored the whole file before it sent anything. -/
theorem Receives.react {transfer : Transfer} {id : FileId} {stream : Bytes} {machine : Machine}
    (h : transfer.Receives id stream machine.files) (event : Session.Event) (now since : Nat) :
    (machine.run (transfer.react event now since)).1.Settles transfer.socket transfer.session id
      (stream ++ (transfer.accepted? event).getD [])
      ((transfer.session.react transfer.exchange (received event) now).trace
        (Stream.reply transfer.socket) (transfer.stream, machine))
      (machine.run (transfer.react event now since)).2.files := by
  obtain ⟨writer, hstream, hid, holds⟩ := h.held
  rw [run_react, run_takeTurn, hstream]
  exact Session.settles_react h.bound h.awaited hid holds (received event)

end Transfer

/-! ## Other files -/

/-- A stream that is no file to be written leaves the file system alone. -/
theorem Stream.Permits.files_eq {socket : SocketAddress} {stream : Stream} {call : Call}
    (h : stream.Permits socket call) (hnone : stream.file? = none) (machine : Machine) :
    (machine.answer call).2.files = machine.files := by
  cases call with
  | send origin destination packet => rfl
  | readFile handle offset count => rfl
  | readRest handle offset => rfl
  | appendFile id bytes =>
    have hsome : stream.file? = some id := h
    rw [hnone] at hsome
    cases hsome
  | _ => exact h.elim

/-- A stream that writes a file leaves the others alone. -/
theorem Stream.Permits.sameBut {socket : SocketAddress} {stream : Stream} {call : Call}
    (h : stream.Permits socket call) {id : FileId} (hid : stream.file? = some id)
    (machine : Machine) : machine.files.SameBut (machine.answer call).2.files id := by
  cases call with
  | send origin destination packet => exact .refl _ id
  | readFile handle offset count => exact .refl _ id
  | readRest handle offset => exact .refl _ id
  | appendFile other bytes =>
    have hother : stream.file? = some other := h
    rw [hid] at hother
    cases hother
    exact .appendFile _ _ _
  | _ => exact h.elim

namespace Transfer

variable {socket : SocketAddress} {stream : Stream}

theorem files_takeTurn (hnone : stream.file? = none) (turn : Session.Turn Session.Progress)
    (since : Nat) (machine : Machine) :
    (machine.run (takeTurn socket stream turn since)).2.files = machine.files :=
  Machine.run_of_meets (takeTurn_meets socket stream turn since)
    (fun before after ↦ after.files = before.files) (fun _ ↦ rfl)
    (fun first second ↦ second.trans first)
    (fun _ found hcall ↦ hcall.files_eq hnone found) machine

theorem sameBut_takeTurn {id : FileId} (hid : stream.file? = some id)
    (turn : Session.Turn Session.Progress) (since : Nat) (machine : Machine) :
    machine.files.SameBut (machine.run (takeTurn socket stream turn since)).2.files id :=
  Machine.run_of_meets (takeTurn_meets socket stream turn since)
    (fun before after ↦ before.files.SameBut after.files id) (fun _ ↦ .refl _ id)
    (fun first second ↦ first.trans second)
    (fun _ found hcall ↦ hcall.sameBut hid found) machine

end Transfer

end Lockstep
