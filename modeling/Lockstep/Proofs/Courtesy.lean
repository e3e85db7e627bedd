import Lockstep.Proofs.Speech
import Lockstep.Proofs.WireFormat

/-!
# Notices about files that exist already

Whoever asks for a new file where there is one already is told so, and a client that is told so gives
up. Nobody who is at work on a file says it: the streams of a server do not fail in that way, and a
session makes up no such notice by itself.
-/

namespace Lockstep

/-! ## Packets -/

namespace Packet

/-- The notice that a session finds in a datagram. -/
def notice? (packet : Bytes) : Option Notice :=
  match decode (packet.take sessionBuffer) with
  | .ok (.error notice) => some notice
  | _ => none

/-- Whoever receives the packet is told that the file exists already. -/
def Refuses (packet : Bytes) : Prop :=
  ∃ notice, notice? packet = some notice ∧ notice.code = .fileAlreadyExists

/-- Whoever receives the packet gives up: it cannot be read, or it is a notice that is heeded. -/
def Dismisses (packet : Bytes) : Prop :=
  ∀ found, decode (packet.take sessionBuffer) = .ok found →
    ∃ notice, found = .error notice ∧ notice.code ≠ .unknownTransferId

/-- Only an error packet is read as a notice, and only part of its text can be lost. -/
theorem exists_of_notice? {opcode : Opcode} {body : Bytes} {notice : Notice}
    (h : notice? (Bytes.ofWord opcode.number ++ body) = some notice) :
    opcode = .error ∧ decodeError (body.take 1498) = .ok (.error notice) := by
  have htake : (Bytes.ofWord opcode.number ++ body).take sessionBuffer =
      Bytes.ofWord opcode.number ++ body.take 1498 := rfl
  unfold notice? at h
  rw [htake, decode_ofWord] at h
  cases hbody : decodeBody opcode (body.take 1498) with
  | error defect =>
    rw [hbody] at h
    cases h
  | ok packet =>
    rw [hbody] at h
    cases packet with
    | error found =>
      cases h
      cases opcode with
      | error => exact ⟨rfl, hbody⟩
      | data =>
        obtain ⟨block, payload, hpacket, -⟩ := decodeData_eq_ok_iff.mp hbody
        cases hpacket
      | acknowledgment =>
        obtain ⟨block, hpacket, -⟩ := decodeAck_eq_ok_iff.mp hbody
        cases hpacket
      | readRequest | writeRequest =>
        unfold decodeBody at hbody
        cases hrequest : decodeRequest (body.take 1498) <;> rw [hrequest] at hbody <;> cases hbody
    | _ => cases h

theorem not_refuses_encodeAck (block : BlockNumber) : ¬ Refuses (encodeAck block) := by
  rintro ⟨notice, hnotice, -⟩
  have hopcode : Opcode.acknowledgment = .error := (exists_of_notice? hnotice).1
  cases hopcode

theorem not_refuses_encodeData (block : BlockNumber) (payload : Bytes) :
    ¬ Refuses (encodeData block payload) := by
  rintro ⟨notice, hnotice, -⟩
  rw [encodeData, List.append_assoc] at hnotice
  have hopcode : Opcode.data = .error := (exists_of_notice? hnotice).1
  cases hopcode

theorem code_of_notice? {code : ErrorCode} {message : String} {notice : Notice}
    (h : notice? (encodeError code.number message) = some notice) : notice.code = code := by
  rw [encodeError, List.append_assoc, List.append_assoc] at h
  have hread : decodeError (Bytes.ofWord code.number ++
      (Bytes.ofText message ++ [0]).take 1496) = .ok (.error notice) :=
    (exists_of_notice? h).2
  obtain ⟨high, low, text, back, hbody, -, hnotice⟩ := decodeError_eq_ok_iff.mp hread
  obtain ⟨-, rfl, -⟩ : _ = high ∧ UInt8.ofNat (code.number.toNat % 256) = low ∧
      _ = text ++ 0 :: back := by
    simpa [Bytes.ofWord] using hbody
  cases hnotice
  rw [ofNumber?_lowByte]
  rfl

theorem not_refuses_encodeError {code : ErrorCode} (h : code ≠ .fileAlreadyExists)
    {message : String} : ¬ Refuses (encodeError code.number message) :=
  fun ⟨_, hnotice, hcode⟩ ↦ h ((code_of_notice? hnotice).symm.trans hcode)

theorem dismisses_encodeError {code : ErrorCode} (h : code ≠ .unknownTransferId)
    (message : String) : Dismisses (encodeError code.number message) := by
  intro found hfound
  have htake : (encodeError code.number message).take sessionBuffer =
      Bytes.ofWord Opcode.error.number ++ (Bytes.ofWord code.number ++
        (Bytes.ofText message ++ [0]).take 1496) := by
    rw [encodeError, List.append_assoc, List.append_assoc]
    rfl
  obtain ⟨notice, rfl⟩ : ∃ notice, found = .error notice := by
    rw [htake, decode_ofWord] at hfound
    cases hbody : decodeBody .error (Bytes.ofWord code.number ++
        (Bytes.ofText message ++ [0]).take 1496) with
    | error defect =>
      rw [hbody] at hfound
      cases hfound
    | ok packet =>
      rw [hbody] at hfound
      cases hfound
      have hread : decodeError (Bytes.ofWord code.number ++
        (Bytes.ofText message ++ [0]).take 1496) = .ok found := hbody
      obtain ⟨high, low, text, back, -, -, hpacket⟩ := decodeError_eq_ok_iff.mp hread
      exact ⟨_, hpacket⟩
  have hnotice : notice? (encodeError code.number message) = some notice := by
    unfold notice?
    rw [hfound]
  exact ⟨notice, rfl, code_of_notice? hnotice ▸ h⟩

end Packet

/-! ## Turns -/

namespace Session

/-- The session does not end because its peer gave up, and what it keeps to send it again is no
refusal. The latter counts only where it is asked for. -/
def Progress.IsFine (strict : Prop) : Progress → Prop
  | .waiting _ exchange => strict → ¬ Packet.Refuses exchange.outstanding
  | .ended _ result => ∀ notice, result ≠ .error (.peer notice)

/-- The turn does not end because the peer gave up. If it is asked for, the turn sends no refusal
either, unless the stream fails because a file exists already. -/
def Courteous (strict : Prop) (turn : Turn Progress) : Prop :=
  turn.MeetsIf
    (fun question answer ↦ strict → ∀ error, failure? question answer = some error →
      error.kind ≠ .alreadyExists)
    (fun question ↦ strict → ∀ destination packet, question = .send destination packet →
      ¬ Packet.Refuses packet)
    (Progress.IsFine strict)

section

variable {strict : Prop} {session : Session} {exchange : Exchange} {turn : Turn Progress}

/-- Of all that a session makes up only the failure of its stream can be a refusal. -/
theorem allows_courtesy (strict : Prop) :
    Allows
      (fun question answer ↦ strict → ∀ error, failure? question answer = some error →
        error.kind ≠ .alreadyExists)
      fun packet ↦ strict → ¬ Packet.Refuses packet where
  acknowledgment block _ := Packet.not_refuses_encodeAck block
  block block payload _ _ := Packet.not_refuses_encodeData block payload
  filled block payload _ _ := Packet.not_refuses_encodeData block payload
  rejection _ _ := Packet.not_refuses_encodeError ErrorCode.noConfusion
  failure := by
    intro question answer error hgiven failed use hstrict
    have hkind := hgiven hstrict error failed
    apply Packet.not_refuses_encodeError
    unfold SystemError.code
    cases hcase : error.kind <;> cases use <;>
      first | exact absurd hcase hkind | exact ErrorCode.noConfusion

theorem Tells.courteous
    (h : session.Tells
      (fun question answer ↦ strict → ∀ error, failure? question answer = some error →
        error.kind ≠ .alreadyExists)
      (fun packet ↦ strict → ¬ Packet.Refuses packet) turn) : Courteous strict turn := by
  refine h.mono (fun question sends hstrict destination packet heq ↦ ?_) fun progress keeps ↦ ?_
  · exact (sends destination packet heq).2 hstrict
  · cases progress with
    | waiting later exchange => exact keeps.outstanding rfl
    | ended later result =>
      rintro notice rfl
      exact keeps.undismissed rfl

theorem courteous_beginSending (session : Session) (now : Nat) :
    Courteous strict (session.beginSending now) :=
  (tells_beginSending (allows_courtesy strict) session now).courteous

theorem courteous_receive (session : Session) {opening : Bytes}
    (h : strict → ¬ Packet.Refuses opening) (now : Nat) :
    Courteous strict (session.receive opening now) :=
  (tells_receive session h now).courteous

/-- Only a notice of its peer makes a session do anything else. -/
theorem courteous_or_dismissed (outstanding : strict → ¬ Packet.Refuses exchange.outstanding)
    (event : Event) (now : Nat) :
    Courteous strict (session.react exchange event now) ∨
      ∃ source datagram notice, event = .arrival source datagram ∧ ¬ session.IsStranger source ∧
        Packet.decode datagram = .ok (.error notice) ∧ notice.code ≠ .unknownTransferId ∧
        session.react exchange event now = (session.boundTo source).fail (.peer notice) := by
  have replies := replies (allows_courtesy strict) session exchange outstanding event now
  generalize session.react exchange event now = turn at replies
  cases replies with
  | disowns stranger =>
    refine .inl ⟨?_, fun _ _ ↦ outstanding⟩
    rintro _ _ _ ⟨⟩
    exact Packet.not_refuses_encodeError ErrorCode.noConfusion
  | believes native decoded code => exact .inr ⟨_, _, _, rfl, native, decoded, code, rfl⟩
  | answers native tells => exact .inl tells.courteous
  | goesOn unheard tells => exact .inl tells.courteous

end

/-- The turn sends no refusal and keeps none to be sent later, unless the stream fails because a file
exists already. -/
def Civil (turn : Turn Progress) : Prop :=
  turn.MeetsIf
    (fun question answer ↦ ∀ error, failure? question answer = some error →
      error.kind ≠ .alreadyExists)
    (fun question ↦ ∀ destination packet, question = .send destination packet →
      ¬ Packet.Refuses packet)
    fun progress ↦ ∀ session exchange, progress = .waiting session exchange →
      ¬ Packet.Refuses exchange.outstanding

theorem Courteous.civil {turn : Turn Progress} (h : Courteous True turn) : Civil turn := by
  unfold Civil
  unfold Courteous at h
  simp only [true_imp_iff] at h
  refine h.mono (fun _ hasks ↦ hasks) ?_
  rintro _ hfine session exchange rfl
  exact hfine trivial

theorem civil_react {session : Session} {exchange : Exchange}
    (outstanding : ¬ Packet.Refuses exchange.outstanding) (event : Event) (now : Nat) :
    Civil (session.react exchange event now) := by
  have hturn : Courteous True (session.react exchange event now) ∨ _ :=
    courteous_or_dismissed (fun _ ↦ outstanding) event now
  rcases hturn with h | ⟨source, datagram, notice, -, -, -, -, hturn⟩
  · exact h.civil
  · rw [hturn]
    exact fun _ _ heq ↦ nomatch heq

/-! ## Peers -/

/-- A session that its peer tells to give up does so. -/
theorem ended_of_dismisses {session : Session} {exchange : Exchange} {source : SocketAddress}
    {packet : Bytes} {now : Nat} (native : ¬ session.IsStranger source)
    (dismisses : Packet.Dismisses packet) :
    (session.react exchange (.arrival source (packet.take sessionBuffer)) now).Meets
      (fun _ ↦ True) fun progress ↦ ∃ later result, progress = .ended later result := by
  rw [arrive_of_peer native]
  unfold read
  split
  · exact ⟨trivial, fun _ ↦ ⟨_, _, rfl⟩⟩
  · next notice hdecode =>
    obtain ⟨_, ⟨⟩, hcode⟩ := dismisses _ hdecode
    rw [if_neg hcode]
    exact ⟨_, _, rfl⟩
  · next packet hother hdecode =>
    obtain ⟨notice, rfl, -⟩ := dismisses _ hdecode
    exact absurd rfl (hother notice)

end Session

end Lockstep
