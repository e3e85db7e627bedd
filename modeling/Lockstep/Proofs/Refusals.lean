import Lockstep.Proofs.Courtesy
import Lockstep.Proofs.Usage

/-!
# Handlers that refuse and handlers that work

A handler refuses a request with a single notice from a socket that is closed at once, or it works on
the request, and then nothing that it ever sends says that a file exists already.
-/

namespace Lockstep

open Dialogue

/-- The reply does not say that a file that is in use exists already. -/
def Call.Honest : (call : Call) → call.Reply → Prop
  | .appendFile _ _, .error error | .readFile _ _ _, .error error
  | .readRest _ _, .error error => error.kind ≠ .alreadyExists
  | _, _ => True

theorem Machine.honest (call : Call) (machine : Machine) : call.Honest (machine.answer call).1 := by
  have other : SystemError.Kind.other ≠ .alreadyExists := SystemError.Kind.noConfusion
  cases call with
  | appendFile id bytes =>
    simp only [answer, withFiles, FileSystem.appendFile]
    split
    · exact other
    · exact trivial
  | readFile handle offset count =>
    simp only [answer, FileSystem.readFile]
    repeat' split
    all_goals first | exact other | exact trivial
  | readRest handle offset =>
    simp only [answer, FileSystem.readRest]
    repeat' split
    all_goals first | exact other | exact trivial
  | _ => trivial

/-- If the call sends anything it does so from the socket, and it is no refusal. -/
def Call.IsCivilAt (socket : SocketAddress) (call : Call) : Prop :=
  ∀ origin destination packet, call = .send origin destination packet →
    origin = socket ∧ ¬ Packet.Refuses packet

/-- If the call sends anything it does so from the socket, and whoever receives it gives up. -/
def Call.DismissesAt (socket : SocketAddress) (call : Call) : Prop :=
  ∀ origin destination packet, call = .send origin destination packet →
    origin = socket ∧ Packet.Dismisses packet

/-! ## Streams -/

/-- The result is no failure of the kind that a file exists already. -/
def Honest {Value : Type} (result : Except SystemError Value) : Prop :=
  ∀ error, result = .error error → error.kind ≠ .alreadyExists

theorem honest_ok {Value : Type} (value : Value) : Honest (.ok value) :=
  fun _ heq ↦ nomatch heq

theorem honest_error {Value : Type} {error : SystemError} (h : error.kind ≠ .alreadyExists) :
    Honest (.error error : Except SystemError Value) := by
  rintro _ ⟨⟩
  exact h

namespace FileReader

theorem honest_fillWithin (reader : FileReader) (count fuel : Nat) :
    (reader.fillWithin count fuel).MeetsIf Call.Honest (fun _ ↦ True) fun result ↦
      Honest result.1 := by
  induction fuel generalizing reader count with
  | zero => exact honest_ok _
  | succ fuel ih =>
    unfold fillWithin
    dsimp only
    split
    · exact honest_ok _
    · refine (meetsIf_question trivial).bind fun answer hgiven ↦ ?_
      cases answer with
      | error error => exact honest_error hgiven
      | ok chunk =>
        cases chunk with
        | nil => exact honest_ok _
        | cons first others =>
          refine (ih _ _).bind fun result hresult ↦ ?_
          obtain ⟨rest, reader⟩ := result
          cases rest with
          | error error => exact honest_error (hresult error rfl)
          | ok rest => exact honest_ok _

theorem honest_drain (reader : FileReader) :
    reader.drain.MeetsIf Call.Honest (fun _ ↦ True) fun result ↦ Honest result.1 := by
  refine (meetsIf_question trivial).bind fun answer hgiven ↦ ?_
  cases answer with
  | error error => exact honest_error hgiven
  | ok rest => exact honest_ok _

end FileReader

namespace FileWriter

theorem honest_append (writer : FileWriter) (bytes : Bytes) :
    (Program.call (.appendFile writer.file bytes)).MeetsIf Call.Honest (fun _ ↦ True) Honest := by
  refine ⟨trivial, fun answer hgiven ↦ ?_⟩
  cases answer with
  | error error => exact honest_error hgiven
  | ok _ => exact honest_ok _

theorem honest_empty (writer : FileWriter) :
    writer.empty.MeetsIf Call.Honest (fun _ ↦ True) fun result ↦ Honest result.1 := by
  unfold empty
  split
  · exact honest_ok _
  · exact (writer.honest_append _).bind fun _ hresult ↦ hresult

theorem honest_write (writer : FileWriter) (chunk : Bytes) :
    (writer.write chunk).MeetsIf Call.Honest (fun _ ↦ True) fun result ↦ Honest result.1 := by
  unfold write
  split
  · exact honest_ok _
  · refine writer.honest_empty.bind fun result hresult ↦ ?_
    obtain ⟨answer, emptied⟩ := result
    cases answer with
    | error error => exact hresult
    | ok _ =>
      dsimp only
      split
      · exact honest_ok _
      · exact (emptied.honest_append _).bind fun _ hresult ↦ hresult

end FileWriter

namespace Stream

variable {stream : Stream} {socket : SocketAddress}

theorem honest_answer (filed : stream.IsFiled) (question : Session.Question) :
    (stream.answer socket question).MeetsIf Call.Honest (fun _ ↦ True) fun result ↦
      ∀ error, Session.failure? question result.1 = some error → error.kind ≠ .alreadyExists := by
  cases stream with
  | sink sink => rcases filed with h | h <;> cases h
  | source source => rcases filed with h | h <;> cases h
  | reader reader =>
    cases question with
    | send destination packet => exact (meetsIf_question trivial).bind fun _ _ _ heq ↦ nomatch heq
    | write chunk => exact fun _ heq ↦ nomatch heq
    | flush => exact fun _ heq ↦ nomatch heq
    | fill count =>
      refine (reader.honest_fillWithin count (count + 1)).bind fun result hresult ↦ ?_
      obtain ⟨answer, reader⟩ := result
      cases answer with
      | error error => exact fun _ heq ↦ Option.some.inj heq ▸ hresult error rfl
      | ok chunk => exact fun _ heq ↦ nomatch heq
    | drain =>
      refine reader.honest_drain.bind fun result hresult ↦ ?_
      obtain ⟨answer, reader⟩ := result
      cases answer with
      | error error => exact fun _ heq ↦ Option.some.inj heq ▸ hresult error rfl
      | ok rest => exact fun _ heq ↦ nomatch heq
  | writer writer =>
    cases question with
    | send destination packet => exact (meetsIf_question trivial).bind fun _ _ _ heq ↦ nomatch heq
    | fill count => exact fun _ heq ↦ nomatch heq
    | drain => exact fun _ heq ↦ nomatch heq
    | write chunk =>
      refine (writer.honest_write chunk).bind fun result hresult ↦ ?_
      obtain ⟨answer, writer⟩ := result
      cases answer with
      | error error => exact fun _ heq ↦ Option.some.inj heq ▸ hresult error rfl
      | ok _ => exact fun _ heq ↦ nomatch heq
    | flush =>
      refine writer.honest_empty.bind fun result hresult ↦ ?_
      obtain ⟨answer, writer⟩ := result
      cases answer with
      | error error => exact fun _ heq ↦ Option.some.inj heq ▸ hresult error rfl
      | ok _ => exact fun _ heq ↦ nomatch heq

/-- A civil turn that is led with a file. -/
theorem civil_converse (filed : stream.IsFiled) {turn : Session.Turn Session.Progress}
    (civil : Session.Civil turn) :
    (stream.converse socket turn).MeetsIf Call.Honest (Call.IsCivilAt socket) fun result ↦
      (∀ session exchange, result.1 = .waiting session exchange →
        ¬ Packet.Refuses exchange.outstanding) ∧ stream.Continues result.2 := by
  refine (meetsIf_converse ?_ civil (Continues.refl stream)).mono (fun _ h ↦ h) ?_
  · intro later question continues asked
    have hanswer := (later.answer_meets socket question).meetsIf.and
      (honest_answer (filed.continues continues) question)
    refine hanswer.mono ?_ fun result h ↦ ⟨h.2, continues.trans h.1⟩
    rintro _ ⟨⟨hpermits, hquestion⟩, -⟩ origin destination packet rfl
    exact ⟨hpermits, asked destination packet (hquestion origin destination packet rfl)⟩
  · exact fun _ h ↦ h

end Stream

/-! ## Handlers at work -/

theorem Call.PutsAway.isCivilAt {call : Call} (h : call.PutsAway) (socket : SocketAddress) :
    call.IsCivilAt socket := by
  rintro _ _ _ rfl
  exact h.elim

namespace Handler

variable {socket client : SocketAddress}

/-- The handler works on a file, and what it keeps to send it again is no refusal. -/
structure IsCivil (handler : Handler) : Prop where
  filed : handler.transfer.stream.IsFiled
  outstanding : ¬ Packet.Refuses handler.transfer.exchange.outstanding

/-- A turn of a handler comes to what the conversation comes to: what follows it only puts things
away. -/
theorem meetsIf_follow {given : (call : Call) → call.Reply → Prop} {asks : Call → Prop}
    (quiet : ∀ call : Call, call.PutsAway → asks call) {stream : Stream}
    {turn : Session.Turn Session.Progress} {returns : Session.Progress × Stream → Prop}
    (h : (stream.converse socket turn).MeetsIf given asks returns) (client : SocketAddress)
    (upload : Option Upload) (since : Nat) :
    (Transfer.takeTurn socket stream turn since >>= follow socket client upload).MeetsIf given asks
      fun handler? ↦ ∀ handler ∈ handler?,
        handler.client = client ∧ handler.transfer.socket = socket ∧
          returns (.waiting handler.transfer.session handler.transfer.exchange,
            handler.transfer.stream) := by
  have hturn : (Transfer.takeTurn socket stream turn since).MeetsIf given asks fun course ↦
      ∀ transfer, course = .running transfer → transfer.socket = socket ∧
        returns (.waiting transfer.session transfer.exchange, transfer.stream) := by
    refine h.bind fun result hresult ↦ ?_
    obtain ⟨progress, later⟩ := result
    cases progress with
    | ended session result => exact fun _ heq ↦ nomatch heq
    | waiting session exchange =>
      rintro _ ⟨⟩
      exact ⟨rfl, hresult⟩
  refine hturn.bind fun course hcourse ↦ ?_
  cases course with
  | running transfer =>
    rintro _ ⟨⟩
    exact ⟨rfl, hcourse transfer rfl⟩
  | ended session rest result =>
    have hconclude : (Upload.conclude upload result).MeetsIf given asks _ :=
      (Upload.conclude_meets upload result).meetsIf.mono quiet fun _ h ↦ h
    have hclose : (Program.call (.close socket)).MeetsIf given asks _ :=
      (close_meets socket).meetsIf.mono quiet fun _ h ↦ h
    exact hconclude.bind fun _ _ ↦ hclose.bind fun _ _ handler hmem ↦
      (Option.not_mem_none handler hmem).elim

theorem meets_follow {asks : Call → Prop} (quiet : ∀ call : Call, call.PutsAway → asks call)
    {stream : Stream} {turn : Session.Turn Session.Progress}
    {returns : Session.Progress × Stream → Prop}
    (h : (stream.converse socket turn).Meets asks returns) (client : SocketAddress)
    (upload : Option Upload) (since : Nat) :
    (Transfer.takeTurn socket stream turn since >>= follow socket client upload).Meets asks
      fun handler? ↦ ∀ handler ∈ handler?,
        handler.client = client ∧ handler.transfer.socket = socket ∧
          returns (.waiting handler.transfer.session handler.transfer.exchange,
            handler.transfer.stream) :=
  MeetsIf.meets (meetsIf_follow quiet (h.meetsIf : MeetsIf (fun _ _ ↦ True) _ _ _) client upload since)
    fun _ _ ↦ trivial

/-- A turn of a handler, and what follows it. -/
theorem civil_follow {stream : Stream} (filed : stream.IsFiled)
    {turn : Session.Turn Session.Progress} (civil : Session.Civil turn) (client : SocketAddress)
    (upload : Option Upload) (since : Nat) :
    (Transfer.takeTurn socket stream turn since >>= follow socket client upload).MeetsIf Call.Honest
      (Call.IsCivilAt socket) fun handler? ↦ ∀ handler ∈ handler?,
        handler.IsCivil ∧ handler.transfer.socket = socket := by
  have hturn := meetsIf_follow (fun _ h ↦ h.isCivilAt socket) (Stream.civil_converse filed civil)
    client upload since
  refine hturn.mono (fun _ h ↦ h) fun handler? hresult handler hmem ↦ ?_
  obtain ⟨-, at_socket, outstanding, continues⟩ := hresult handler hmem
  exact ⟨⟨filed.continues continues, outstanding _ _ rfl⟩, at_socket⟩

theorem IsCivil.react {handler : Handler} (h : handler.IsCivil) (event : Session.Event)
    (now since : Nat) :
    (handler.react event now since).MeetsIf Call.Honest (Call.IsCivilAt handler.transfer.socket)
      fun handler? ↦ ∀ handler' ∈ handler?,
        handler'.IsCivil ∧ handler'.transfer.socket = handler.transfer.socket :=
  civil_follow h.filed (Session.civil_react h.outstanding _ now) _ _ _

/-! ## Requests -/

end Handler

/-- The call sends nothing. -/
def Call.IsSilent (call : Call) : Prop :=
  ∀ origin destination packet, call ≠ .send origin destination packet

namespace Server

/-- What a server tells a client whose request it takes but cannot serve. -/
inductive IsExplanation : Notice → Prop
  | rootUnavailable : IsExplanation rootUnavailable
  | outsideRoot : IsExplanation outsideRoot
  | notRegular : IsExplanation notRegular
  | ofSystem (error : SystemError) (use : SystemError.Use) :
      IsExplanation (Notice.ofCode (error.code use))

/-- If there is no other answer, there is an explanation. -/
def Explains {Value : Type} (answer : Except Notice Value) : Prop :=
  ∀ notice, answer = .error notice → IsExplanation notice

theorem explains_ok {Value : Type} (value : Value) : Explains (.ok value) :=
  fun _ heq ↦ nomatch heq

theorem explains_error {Value : Type} {notice : Notice} (h : IsExplanation notice) :
    Explains (.error notice : Except Notice Value) := by
  rintro _ ⟨⟩
  exact h

theorem explains_openToRead (path : Path) : (openToRead path).Meets Call.IsSilent Explains := by
  refine (meets_question fun _ _ _ heq ↦ nomatch heq).bind fun answer _ ↦ ?_
  split
  · exact explains_error (.ofSystem _ _)
  · exact explains_error .notRegular
  · refine (meets_question fun _ _ _ heq ↦ nomatch heq).bind fun answer _ ↦ ?_
    split
    · exact explains_error (.ofSystem _ _)
    · exact explains_ok _

theorem explains_openToWrite (path : Path) : (openToWrite path).Meets Call.IsSilent Explains := by
  refine (meets_question fun _ _ _ heq ↦ nomatch heq).bind fun answer _ ↦ ?_
  split
  · exact explains_error (.ofSystem _ _)
  · exact explains_ok _

theorem explains_resolve (root : Path) (filename : String) :
    (resolve root filename).Meets Call.IsSilent Explains := by
  refine (meets_question fun _ _ _ heq ↦ nomatch heq).bind fun answer _ ↦ ?_
  split
  · exact explains_error .rootUnavailable
  · refine (meets_question fun _ _ _ heq ↦ nomatch heq).bind fun answer _ ↦ ?_
    split
    · split
      · exact explains_ok _
      · exact explains_error .outsideRoot
    · split
      · exact explains_ok _
      · exact explains_error (.ofSystem _ _)

/-- Why a server turns the datagram down: it does not admit it, or it cannot serve it. -/
inductive IsRejection (datagram : Bytes) : Notice → Prop
  | refused {refusal : Refusal} (h : Admission.ofDatagram datagram = .error refusal) :
    IsRejection datagram refusal.notice
  | explained {notice : Notice} (h : IsExplanation notice) : IsRejection datagram notice

/-- An explanation is heeded. -/
theorem IsExplanation.code_ne {notice : Notice} (h : IsExplanation notice) :
    notice.code ≠ .unknownTransferId := by
  cases h with
  | ofSystem error use =>
    change error.code use ≠ _
    unfold SystemError.code
    cases error.kind <;> cases use <;> exact ErrorCode.noConfusion
  | _ => exact ErrorCode.noConfusion

end Server

namespace Handler

variable {socket client : SocketAddress}

/-! ### Rules for requests -/

section

variable {asks : Call → Prop} {returns : Option Handler → Prop} {datagram : Bytes} {root : Path}
  {config : TransferConfig} {now since : Nat}

/-- A handler looks for the file and sends nothing, and then it turns the client away or takes the
first turn of a transfer. -/
theorem meets_attend (silent : ∀ call : Call, call.IsSilent → asks call)
    (rejects : ∀ notice, Server.IsRejection datagram notice →
      (reject socket client notice).Meets asks returns)
    (reads : ∀ mode stream, (Transfer.takeTurn socket stream
      ((Session.accepted client mode config).send none now) since >>=
        follow socket client none).Meets asks returns)
    (writes : ∀ mode stream upload, (Transfer.takeTurn socket stream
      ((Session.accepted client mode config).receive (Packet.encodeAck 0) now) since >>=
        follow socket client upload).Meets asks returns) :
    (attend socket client datagram root config now since).Meets asks returns := by
  unfold attend
  split
  · next refused => exact rejects _ (.refused refused)
  · next admission _ =>
    have hresolve := (Server.explains_resolve root admission.request.filename).mono silent
      fun _ h ↦ h
    refine hresolve.bind fun answer hanswer ↦ ?_
    cases answer with
    | error notice => exact rejects notice (.explained (hanswer notice rfl))
    | ok path =>
      dsimp only
      split
      · refine ((Server.explains_openToRead path).mono silent fun _ h ↦ h).bind fun answer hanswer ↦ ?_
        cases answer with
        | error notice => exact rejects notice (.explained (hanswer notice rfl))
        | ok handle => exact reads _ _
      · refine ((Server.explains_openToWrite path).mono silent fun _ h ↦ h).bind fun answer hanswer ↦ ?_
        cases answer with
        | error notice => exact rejects notice (.explained (hanswer notice rfl))
        | ok file => exact writes _ _ _

theorem meets_open? (silent : ∀ call : Call, call.IsSilent → asks call) (nobody : returns none)
    (attends : ∀ socket, (attend socket client datagram root config now since).Meets asks returns) :
    (open? client datagram root config now since).Meets asks returns := by
  rw [open?_eq]
  have hbind : (Program.call (.bind (address client config))).Meets asks fun _ ↦ True :=
    meets_question (silent _ fun _ _ _ heq ↦ nomatch heq)
  refine hbind.bind fun answer _ ↦ ?_
  cases answer with
  | error error => exact nobody
  | ok socket => exact attends socket

theorem meets_reject {notice : Notice} (silent : ∀ call : Call, call.IsSilent → asks call)
    (send : asks (.send socket client (Packet.error notice).encode)) (nobody : returns none) :
    (reject socket client notice).Meets asks returns := by
  have hsend : (Program.call (.send socket client (Packet.error notice).encode)).Meets asks
      fun _ ↦ True := meets_question send
  have hclose : (Program.call (.close socket)).Meets asks fun _ ↦ True :=
    meets_question (silent _ fun _ _ _ heq ↦ nomatch heq)
  exact hsend.bind fun _ _ ↦ hclose.bind fun _ _ ↦ nobody

end

/-! ### Requests that are settled -/

/-- What a program for a client at a socket comes to: it works on a file, or it turns the client away
and is over. -/
inductive Settles (socket : SocketAddress) (machine : Machine) (program : Program (Option Handler)) :
    Prop
  | works (calls : ∀ entry ∈ machine.log program, entry.2.IsCivilAt socket)
      (handlers : ∀ handler ∈ (machine.run program).1,
        handler.IsCivil ∧ handler.transfer.socket = socket)
  | dismisses (calls : ∀ entry ∈ machine.log program, entry.2.DismissesAt socket)
      (nobody : (machine.run program).1 = none)

theorem settles_of_meetsIf {machine : Machine} {program : Program (Option Handler)}
    (h : program.MeetsIf Call.Honest (Call.IsCivilAt socket) fun handler? ↦
      ∀ handler ∈ handler?, handler.IsCivil ∧ handler.transfer.socket = socket) :
    Settles socket machine program :=
  have traced := h.trace (fun call machine ↦ Machine.honest call machine) machine
  .works traced.1 traced.2

/-- What sends nothing does not matter. -/
theorem Settles.bind {First : Type} {first : Program First}
    {next : First → Program (Option Handler)} {returns : First → Prop}
    (silent : first.Meets Call.IsSilent returns)
    (machine : Machine)
    (h : ∀ result, returns result → ∀ machine, Settles socket machine (next result)) :
    Settles socket machine (first >>= next) := by
  have hlog : ∀ entry ∈ machine.log first, ∀ origin destination packet,
      entry.2 ≠ .send origin destination packet :=
    fun entry hentry ↦ Machine.log_of_meets silent hentry
  have hnext := h _ (Machine.returns_of_meets silent machine) (machine.run first).2
  have hrun := Machine.run_bind machine first next
  cases hnext with
  | works calls handlers =>
    apply Settles.works
    · rw [Machine.log_bind, List.forall_mem_append]
      exact ⟨fun entry hentry _ _ _ heq ↦ absurd heq (hlog entry hentry _ _ _), calls⟩
    · rw [hrun]
      exact handlers
  | dismisses calls nobody =>
    apply Settles.dismisses
    · rw [Machine.log_bind, List.forall_mem_append]
      exact ⟨fun entry hentry _ _ _ heq ↦ absurd heq (hlog entry hentry _ _ _), calls⟩
    · rw [hrun]
      exact nobody

theorem settles_reject {notice : Notice} (h : notice.code ≠ .unknownTransferId)
    (machine : Machine) (client : SocketAddress) :
    Settles socket machine (reject socket client notice) := by
  apply Settles.dismisses
  · intro entry hentry
    rcases List.mem_cons.mp hentry with rfl | hrest
    · rintro _ _ _ ⟨⟩
      exact ⟨rfl, Packet.dismisses_encodeError h _⟩
    · cases List.mem_singleton.mp hrest
      exact fun _ _ _ heq ↦ nomatch heq
  · rfl

variable {path : Path} {mode : Mode} {config : TransferConfig} {now since : Nat}

theorem settles_serveRead (machine : Machine) :
    Settles socket machine (serveRead socket client path mode config now since) := by
  apply Settles.bind (Server.explains_openToRead path)
  intro answer hanswer machine
  cases answer with
  | error notice => exact settles_reject (hanswer notice rfl).code_ne machine client
  | ok handle =>
    exact settles_of_meetsIf (civil_follow (.inl rfl)
      (Session.courteous_beginSending _ now).civil client none since)

theorem settles_serveWrite (machine : Machine) :
    Settles socket machine (serveWrite socket client path mode config now since) := by
  apply Settles.bind (Server.explains_openToWrite path)
  intro answer hanswer machine
  cases answer with
  | error notice => exact settles_reject (hanswer notice rfl).code_ne machine client
  | ok file =>
    have courteous : Session.Courteous True
        ((Session.accepted client mode config).receive (Packet.encodeAck 0) now) :=
      Session.courteous_receive _ (fun _ ↦ Packet.not_refuses_encodeAck 0) now
    exact settles_of_meetsIf (civil_follow (.inr rfl) courteous.civil client _ since)

theorem settles_attend (machine : Machine) (socket client : SocketAddress) (datagram : Bytes)
    (root : Path) (config : TransferConfig) (now since : Nat) :
    Settles socket machine (attend socket client datagram root config now since) := by
  unfold attend
  split
  · exact settles_reject ErrorCode.noConfusion machine client
  · next admission _ =>
    apply Settles.bind (Server.explains_resolve root admission.request.filename)
    intro answer hanswer machine
    cases answer with
    | error notice => exact settles_reject (hanswer notice rfl).code_ne machine client
    | ok path =>
      dsimp only
      split
      · exact settles_serveRead machine
      · exact settles_serveWrite machine

end Handler

end Lockstep
