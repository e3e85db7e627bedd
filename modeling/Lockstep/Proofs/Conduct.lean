import Lockstep.Proofs.Endpoint

/-!
# What programs may ask

Which calls a transfer, a handler and a server can make at all, whatever the answers are. A transfer
uses its socket and its own file. Only a server that gets a datagram at its well-known port opens or
makes anything.
-/

namespace Lockstep

open Dialogue

namespace Stream

/-- The file that is read. -/
def handle? : Stream → Option FileSystem.Handle
  | .reader file => some file.handle
  | .sink _ | .source _ | .writer _ => none

/-- The file that is written. -/
def file? : Stream → Option FileId
  | .writer file => some file.file
  | .sink _ | .source _ | .reader _ => none

/-- The calls that the conversation of a session at `socket` with the stream can lead to. -/
def Permits (socket : SocketAddress) (stream : Stream) : Call → Prop
  | .send origin _ _ => origin = socket
  | .readFile handle _ _ | .readRest handle _ => stream.handle? = some handle
  | .appendFile id _ => stream.file? = some id
  | _ => False

/-- Those that a single question can lead to: only a question to send makes the stream send. -/
def Answers (socket : SocketAddress) (stream : Stream) (question : Session.Question)
    (call : Call) : Prop :=
  stream.Permits socket call ∧ ∀ origin destination packet,
    call = .send origin destination packet → question = .send destination packet

/-- The two streams use the same file. -/
def Continues (first second : Stream) : Prop :=
  second.handle? = first.handle? ∧ second.file? = first.file?

theorem Continues.refl (stream : Stream) : stream.Continues stream := ⟨rfl, rfl⟩

theorem Continues.permits {first second : Stream} (h : first.Continues second)
    (socket : SocketAddress) : second.Permits socket = first.Permits socket := by
  funext call
  cases call <;> simp only [Permits, h.1, h.2]

theorem Continues.trans {first second third : Stream} (h : first.Continues second)
    (h' : second.Continues third) : first.Continues third :=
  ⟨h'.1.trans h.1, h'.2.trans h.2⟩

end Stream

namespace FileReader

theorem fillWithin_meets (reader : FileReader) (count fuel : Nat) :
    (reader.fillWithin count fuel).Meets
      (fun call ↦ ∃ offset length, call = .readFile reader.handle offset length)
      fun result ↦ result.2.handle = reader.handle := by
  induction fuel generalizing reader count with
  | zero => exact meets_pure rfl
  | succ fuel ih =>
    simp only [fillWithin]
    split
    · exact meets_pure rfl
    · refine (meets_question ⟨_, _, rfl⟩).bind fun answer _ ↦ ?_
      rcases answer with error | chunk
      · exact meets_pure rfl
      · cases chunk with
        | nil => exact meets_pure rfl
        | cons first others =>
          have hrest := ih
            { reader with
              offset := reader.offset + (first :: others).length, buffer := first :: others }
            (count - (reader.buffer.take count).length)
          exact hrest.bind fun result hresult ↦ meets_pure hresult

theorem drain_meets (reader : FileReader) :
    reader.drain.Meets (fun call ↦ ∃ offset, call = .readRest reader.handle offset)
      fun result ↦ result.2.handle = reader.handle := by
  refine (meets_question ⟨_, rfl⟩).bind fun answer _ ↦ ?_
  rcases answer with error | rest
  · exact meets_pure rfl
  · exact meets_pure rfl

end FileReader

namespace FileWriter

theorem empty_meets (writer : FileWriter) :
    writer.empty.Meets (fun call ↦ ∃ bytes, call = .appendFile writer.file bytes)
      fun result ↦ result.2.file = writer.file := by
  unfold empty
  split
  · exact meets_pure rfl
  · exact (meets_question ⟨_, rfl⟩).bind fun _ _ ↦ meets_pure rfl

theorem write_meets (writer : FileWriter) (chunk : Bytes) :
    (writer.write chunk).Meets (fun call ↦ ∃ bytes, call = .appendFile writer.file bytes)
      fun result ↦ result.2.file = writer.file := by
  unfold write
  split
  · exact meets_pure rfl
  · refine writer.empty_meets.bind fun result hresult ↦ ?_
    obtain ⟨answer, emptied⟩ := result
    change emptied.file = writer.file at hresult
    rcases answer with error | _
    · exact meets_pure hresult
    · dsimp only
      split
      · exact meets_pure hresult
      · exact (meets_question ⟨_, by rw [hresult]⟩).bind fun _ _ ↦ meets_pure hresult

end FileWriter

namespace Stream

/-- Answering a question of the session uses what the stream permits, and the stream goes on. -/
theorem answer_meets (socket : SocketAddress) (stream : Stream) (question : Session.Question) :
    (stream.answer socket question).Meets (stream.Answers socket question)
      fun result ↦ stream.Continues result.2 := by
  cases question with
  | send destination packet =>
    have hcall : (Program.call (.send socket destination packet)).Meets
        (stream.Answers socket (.send destination packet)) fun _ ↦ True := by
      apply meets_question
      refine ⟨rfl, ?_⟩
      rintro origin _ _ ⟨⟩
      rfl
    exact hcall.bind fun _ _ ↦ meets_pure (Continues.refl stream)
  | write chunk =>
    cases stream with
    | sink sink => exact meets_pure ⟨rfl, rfl⟩
    | source source => exact meets_pure ⟨rfl, rfl⟩
    | reader reader => exact meets_pure ⟨rfl, rfl⟩
    | writer writer =>
      refine ((writer.write_meets chunk).mono ?_ fun _ h ↦ h).bind fun result hresult ↦
        meets_pure ⟨rfl, congrArg some hresult⟩
      rintro _ ⟨bytes, rfl⟩
      exact ⟨rfl, fun _ _ _ hsend ↦ nomatch hsend⟩
  | flush =>
    cases stream with
    | sink sink => exact meets_pure ⟨rfl, rfl⟩
    | source source => exact meets_pure ⟨rfl, rfl⟩
    | reader reader => exact meets_pure ⟨rfl, rfl⟩
    | writer writer =>
      refine (writer.empty_meets.mono ?_ fun _ h ↦ h).bind fun result hresult ↦
        meets_pure ⟨rfl, congrArg some hresult⟩
      rintro _ ⟨bytes, rfl⟩
      exact ⟨rfl, fun _ _ _ hsend ↦ nomatch hsend⟩
  | fill count =>
    cases stream with
    | sink sink => exact meets_pure ⟨rfl, rfl⟩
    | source source => exact meets_pure ⟨rfl, rfl⟩
    | reader reader =>
      refine ((reader.fillWithin_meets count (count + 1)).mono ?_ fun _ h ↦ h).bind
        fun result hresult ↦ meets_pure ⟨congrArg some hresult, rfl⟩
      rintro _ ⟨offset, length, rfl⟩
      exact ⟨rfl, fun _ _ _ hsend ↦ nomatch hsend⟩
    | writer writer => exact meets_pure ⟨rfl, rfl⟩
  | drain =>
    cases stream with
    | sink sink => exact meets_pure ⟨rfl, rfl⟩
    | source source => exact meets_pure ⟨rfl, rfl⟩
    | reader reader =>
      refine (reader.drain_meets.mono ?_ fun _ h ↦ h).bind
        fun result hresult ↦ meets_pure ⟨congrArg some hresult, rfl⟩
      rintro _ ⟨offset, rfl⟩
      exact ⟨rfl, fun _ _ _ hsend ↦ nomatch hsend⟩
    | writer writer => exact meets_pure ⟨rfl, rfl⟩

/-- What holds of every answer of a stream carries over to its conversation with a session. -/
theorem meetsIf_converse {Result : Type} {socket : SocketAddress} {Fits : Stream → Prop}
    {granted : (call : Call) → call.Reply → Prop} {calls : Call → Prop}
    {given : (question : Session.Question) → Session.Answer question → Prop}
    {asks : Session.Question → Prop} {returns : Result → Prop}
    (answers : ∀ stream question, Fits stream → asks question →
      (stream.answer socket question).MeetsIf granted calls fun result ↦
        given question result.1 ∧ Fits result.2)
    {turn : Session.Turn Result} (h : turn.MeetsIf given asks returns) {stream : Stream}
    (fits : Fits stream) :
    (stream.converse socket turn).MeetsIf granted calls fun result ↦
      returns result.1 ∧ Fits result.2 := by
  induction turn generalizing stream with
  | done result => exact ⟨h, fits⟩
  | ask question next ih =>
    exact (answers stream question fits h.1).bind fun result hresult ↦
      ih result.1 (h.2 result.1 hresult.1) hresult.2

theorem meets_converse {Result : Type} {socket : SocketAddress} {calls : Call → Prop}
    {given : (question : Session.Question) → Session.Answer question → Prop}
    {asks : Session.Question → Prop} {returns : Result → Prop}
    (answers : ∀ (stream : Stream) question, asks question →
      (stream.answer socket question).Meets calls fun result ↦ given question result.1)
    {turn : Session.Turn Result} (h : turn.MeetsIf given asks returns) (stream : Stream) :
    (stream.converse socket turn).Meets calls fun result ↦ returns result.1 := by
  have fit : ∀ stream : Stream, ∀ question, True → asks question →
      (stream.answer socket question).MeetsIf (fun _ _ ↦ True) calls fun result ↦
        given question result.1 ∧ True := fun stream question _ asked ↦
    ((answers stream question asked).mono (fun _ h ↦ h) fun _ h ↦ ⟨h, trivial⟩).meetsIf
  exact ((meetsIf_converse fit h trivial).meets fun _ _ ↦ trivial).mono (fun _ h ↦ h) fun _ h ↦ h.1

theorem converse_meets {Result : Type} (socket : SocketAddress) (turn : Session.Turn Result)
    (stream : Stream) :
    (stream.converse socket turn).Meets (stream.Permits socket)
      fun result ↦ stream.Continues result.2 := by
  induction turn generalizing stream with
  | done result => exact meets_pure (Continues.refl _)
  | ask question next ih =>
    have hanswer := (stream.answer_meets socket question).mono (fun call hcall ↦ hcall.1)
      fun _ h ↦ h
    refine hanswer.bind fun result hresult ↦ ?_
    refine (ih result.1 result.2).mono ?_ fun _ h ↦ hresult.trans h
    intro call hcall
    rwa [hresult.permits] at hcall

theorem send_mem_log_answer {socket origin destination : SocketAddress} {stream : Stream}
    {question : Session.Question} {machine found : Machine} {packet : Bytes} :
    (found, Call.send origin destination packet) ∈ machine.log (stream.answer socket question) ↔
      origin = socket ∧ question = .send destination packet ∧ found = machine := by
  have hlog : machine.log (stream.answer socket (.send destination packet)) =
      [(machine, .send socket destination packet)] := rfl
  constructor
  · intro hmem
    have hquestion := (Machine.log_of_meets (stream.answer_meets socket question) hmem).2
      origin destination packet rfl
    subst hquestion
    rw [hlog] at hmem
    cases List.mem_singleton.mp hmem
    exact ⟨rfl, rfl, rfl⟩
  · rintro ⟨rfl, rfl, rfl⟩
    rw [hlog]
    exact List.mem_singleton_self _

/-- What leaves during a conversation is what the session asks to be sent. -/
theorem send_mem_log_converse {Result : Type} {socket origin destination : SocketAddress}
    {turn : Session.Turn Result} {stream : Stream} {machine found : Machine} {packet : Bytes} :
    (found, Call.send origin destination packet) ∈ machine.log (stream.converse socket turn) ↔
      origin = socket ∧ ∃ current, ((current, found), Session.Question.send destination packet) ∈
        turn.trace (reply socket) (stream, machine) := by
  induction turn generalizing stream machine with
  | done result =>
    constructor
    · intro hmem
      exact absurd hmem List.not_mem_nil
    · rintro ⟨-, current, hmem⟩
      exact absurd hmem List.not_mem_nil
  | ask question next ih =>
    rw [converse, Machine.log_bind, List.mem_append, send_mem_log_answer, Dialogue.trace]
    simp only [List.mem_cons, Prod.mk.injEq, exists_or, and_or_left]
    refine or_congr ?_ (ih _)
    constructor
    · rintro ⟨rfl, rfl, rfl⟩
      exact ⟨rfl, stream, ⟨rfl, rfl⟩, rfl⟩
    · rintro ⟨rfl, current, ⟨-, rfl⟩, rfl⟩
      exact ⟨rfl, rfl, rfl⟩

end Stream

namespace Transfer

/-- A turn of a transfer makes the calls that its stream permits, and the stream stays. -/
theorem takeTurn_meets (socket : SocketAddress) (stream : Stream)
    (turn : Session.Turn Session.Progress) (since : Nat) :
    (takeTurn socket stream turn since).Meets (stream.Permits socket)
      fun course ↦ stream.Continues course.stream := by
  refine (stream.converse_meets socket turn).bind fun result hresult ↦ ?_
  obtain ⟨progress, stream'⟩ := result
  cases progress with
  | waiting session exchange => exact meets_pure hresult
  | ended session result => exact meets_pure hresult

end Transfer

/-! ## Handlers -/

/-- The call can neither open nor make a file or a directory. -/
def Call.OpensNothing : Call → Prop
  | .openFile _ | .createFile _ | .makeDirectories _ => False
  | _ => True

theorem Stream.Permits.opensNothing {socket : SocketAddress} {stream : Stream} {call : Call}
    (h : stream.Permits socket call) : call.OpensNothing := by
  cases call <;> first | exact trivial | exact h.elim

/-- The call puts something away that is not needed any more. -/
def Call.PutsAway : Call → Prop
  | .close _ | .closeFile _ | .removeFile _ => True
  | _ => False

theorem Call.PutsAway.opensNothing {call : Call} (h : call.PutsAway) : call.OpensNothing := by
  cases call <;> first | exact trivial | exact h.elim

theorem Upload.conclude_meets (upload : Option Upload) (result : Except TransferError Summary) :
    (Upload.conclude upload result).Meets Call.PutsAway fun _ ↦ True := by
  cases upload with
  | none => exact meets_pure trivial
  | some upload =>
    have hclose : (Program.call (.closeFile upload.file)).Meets Call.PutsAway fun _ ↦ True :=
      meets_question trivial
    have hremove : (Program.call (.removeFile upload.path)).Meets Call.PutsAway fun _ ↦ True :=
      meets_question trivial
    refine hclose.bind fun _ _ ↦ ?_
    cases result with
    | ok summary => exact meets_pure trivial
    | error error => exact hremove.bind fun _ _ ↦ meets_pure trivial

namespace Handler

theorem close_meets (socket : SocketAddress) :
    (Program.call (.close socket)).Meets Call.PutsAway fun _ ↦ True :=
  meets_question trivial

theorem reject_meets (socket client : SocketAddress) (notice : Notice) :
    (reject socket client notice).Meets Call.OpensNothing fun _ ↦ True := by
  have hsend : (Program.call (.send socket client (Packet.error notice).encode)).Meets
      Call.OpensNothing fun _ ↦ True := meets_question trivial
  have hclose := (close_meets socket).mono (fun _ h ↦ h.opensNothing) fun _ h ↦ h
  exact hsend.bind fun _ _ ↦ hclose.bind fun _ _ ↦ meets_pure trivial

theorem follow_meets (socket client : SocketAddress) (upload : Option Upload) (course : Course) :
    (follow socket client upload course).Meets Call.PutsAway fun _ ↦ True := by
  cases course with
  | running transfer => exact meets_pure trivial
  | ended session stream result =>
    exact (Upload.conclude_meets upload result).bind fun _ _ ↦
      (close_meets socket).bind fun _ _ ↦ meets_pure trivial

/-- A turn of a transfer and what follows it open nothing. -/
theorem follow_takeTurn_meets (socket client : SocketAddress) (upload : Option Upload)
    (stream : Stream) (turn : Session.Turn Session.Progress) (since : Nat) :
    (Transfer.takeTurn socket stream turn since >>= follow socket client upload).Meets
      Call.OpensNothing fun _ ↦ True := by
  have hturn := (Transfer.takeTurn_meets socket stream turn since).mono
    (fun _ h ↦ h.opensNothing) fun _ h ↦ h
  have hfollow := fun course ↦
    (follow_meets socket client upload course).mono (fun _ h ↦ h.opensNothing) fun _ h ↦ h
  exact hturn.bind fun course _ ↦ hfollow course

theorem react_meets (handler : Handler) (event : Session.Event) (now since : Nat) :
    (handler.react event now since).Meets Call.OpensNothing fun _ ↦ True :=
  follow_takeTurn_meets _ _ _ _ _ _

end Handler

namespace Server

theorem go_meets (socket : SocketAddress) (event : Session.Event) (now since : Nat)
    (handlers : List Handler) :
    (react.go socket event now since handlers).Meets Call.OpensNothing fun _ ↦ True := by
  induction handlers with
  | nil => exact meets_pure trivial
  | cons handler rest ih =>
    unfold react.go
    split
    · exact (handler.react_meets event now since).bind fun _ _ ↦ meets_pure trivial
    · exact ih.bind fun _ _ ↦ meets_pure trivial

theorem react_meets (server : Server) (socket : SocketAddress) (event : Session.Event)
    (now since : Nat) :
    (server.react socket event now since).Meets Call.OpensNothing fun _ ↦ True :=
  (go_meets socket event now since server.handlers).bind fun _ _ ↦ meets_pure trivial

theorem stop_meets (server : Server) :
    server.stop.Meets Call.OpensNothing fun _ ↦ True := by
  unfold stop
  cases server.listener with
  | none => exact meets_pure trivial
  | some listener =>
    have hclose := (Handler.close_meets listener).mono (fun _ h ↦ h.opensNothing) fun _ h ↦ h
    exact hclose.bind fun _ _ ↦ meets_pure trivial

theorem trip_meets (server : Server) (error : SystemError) :
    (server.trip error).Meets Call.OpensNothing fun _ ↦ True := by
  unfold trip
  split
  · exact meets_pure trivial
  · exact stop_meets _

end Server

end Lockstep
