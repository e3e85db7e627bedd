import Lockstep.Proofs.Histories

/-!
# What a session says

A session has few things to say: that it has a block, a block, that it cannot go on, and what it has
said before. All of it is for its peer, except that a stranger is told that it is one. So whatever
holds of each of these packets holds of everything that a session sends, and of everything that it
keeps to send it again. It may matter how the stream answers: a block is as long as the stream makes
it, and a failure of the stream is what the peer is told about.
-/

namespace Lockstep

open Dialogue

/-! ## Texts without a zero character -/

/-- The text can be written into a field. -/
def FitsField (text : String) : Prop :=
  '\x00' ∉ text.toList

instance : DecidablePred FitsField := fun text ↦
  inferInstanceAs (Decidable ('\x00' ∉ text.toList))

theorem FitsField.append {first second : String} (h : FitsField first) (h' : FitsField second) :
    FitsField (first ++ second) := by
  unfold FitsField
  rw [String.toList_append, List.mem_append, not_or]
  exact ⟨h, h'⟩

theorem fitsField_number (number : Nat) : FitsField (toString number) := by
  intro hzero
  rw [Nat.toString_eq_repr, Nat.toList_repr] at hzero
  have hdigit := Nat.isDigit_of_mem_toDigits (by decide) (by decide) hzero
  exact absurd hdigit (by decide)

theorem Opcode.fitsField_name (opcode : Opcode) : FitsField opcode.name := by
  cases opcode <;> decide

theorem DecodeError.fitsField_message (error : DecodeError) : FitsField error.message := by
  cases error with
  | unknownOpcode number =>
    have hbegin : FitsField "unknown opcode " := by decide +kernel
    exact hbegin.append (fitsField_number _)
  | malformed defect =>
    have hbegin : FitsField "malformed packet: " := by decide +kernel
    have hdefect : FitsField defect.message := by
      cases defect <;> decide +kernel
    exact hbegin.append hdefect

namespace Session

/-! ## Packets -/

/-- The failure of the stream that the answer reports. -/
def failure? : (question : Question) → Answer question → Option SystemError
  | .write _, .error error | .flush, .error error | .fill _, .error error
  | .drain, .error error => some error
  | _, _ => none

/-- The packets that a session makes up are allowed, if its stream answers as given. -/
structure Allows (given : (question : Question) → Answer question → Prop)
    (allowed : Bytes → Prop) : Prop where
  acknowledgment : ∀ block, allowed (Packet.encodeAck block)
  block : ∀ block {payload}, payload.length ≤ blockSize → allowed (Packet.encodeData block payload)
  filled : ∀ block {payload}, given (.fill blockSize) (.ok payload) →
    allowed (Packet.encodeData block payload)
  rejection : ∀ {reason}, FitsField reason →
    allowed (Packet.encodeError ErrorCode.illegalOperation.number reason)
  failure : ∀ {question answer error}, given question answer →
    failure? question answer = some error → ∀ use,
      allowed (Packet.encodeError (error.code use).number (error.code use).defaultMessage)

/-- The session has kept its peer, and if it waits it has something to send again that is allowed. It
has not ended because the peer gave up. -/
structure Progress.Keeps (session : Session) (allowed : Bytes → Prop) (progress : Progress) :
    Prop where
  peer_eq : progress.session.peer = session.peer
  bound_eq : progress.session.bound = session.bound
  outstanding : ∀ {later exchange}, progress = .waiting later exchange → allowed exchange.outstanding
  undismissed : ∀ {later notice}, progress ≠ .ended later (.error (.peer notice))

/-- If the stream answers as given, all that is said in the turn is allowed and is said to the peer. -/
def Tells (given : (question : Question) → Answer question → Prop) (allowed : Bytes → Prop)
    (session : Session) (turn : Turn Progress) : Prop :=
  turn.MeetsIf given
    (fun question ↦ ∀ destination packet, question = .send destination packet →
      destination = session.peer ∧ allowed packet)
    (Progress.Keeps session allowed)

section

variable {given : (question : Question) → Answer question → Prop} {allowed : Bytes → Prop}
  {session : Session} {exchange : Exchange} {next : Turn Progress} {packet : Bytes} {now : Nat}

/-- It matters only who the peer is. -/
theorem Tells.of_peer {served : Session} {turn : Turn Progress}
    (h : served.Tells given allowed turn) (peer_eq : served.peer = session.peer)
    (bound_eq : served.bound = session.bound) : session.Tells given allowed turn := by
  refine h.mono (fun question sends destination packet heq ↦ ?_) fun progress keeps ↦ ?_
  · rw [← peer_eq]
    exact sends destination packet heq
  · exact ⟨keeps.peer_eq.trans peer_eq, keeps.bound_eq.trans bound_eq, keeps.outstanding,
      keeps.undismissed⟩

/-! ## Parts of turns -/

theorem tells_await (h : allowed exchange.outstanding) :
    session.Tells given allowed (session.await exchange) where
  peer_eq := rfl
  bound_eq := rfl
  outstanding := by
    rintro _ _ ⟨⟩
    exact h
  undismissed := nofun

theorem tells_complete (summary : Summary) :
    session.Tells given allowed (session.complete summary) where
  peer_eq := rfl
  bound_eq := rfl
  outstanding := nofun
  undismissed := nofun

theorem tells_fail {error : TransferError} (h : ∀ notice, error ≠ .peer notice) :
    session.Tells given allowed (session.fail error) where
  peer_eq := rfl
  bound_eq := rfl
  outstanding := nofun
  undismissed := by
    rintro _ notice ⟨⟩
    exact h notice rfl

theorem tells_sendToPeer (h : allowed packet) (hnext : session.Tells given allowed next) :
    session.Tells given allowed (session.sendToPeer packet next) := by
  constructor
  · rintro _ _ ⟨⟩
    exact ⟨rfl, h⟩
  · intro answer _
    cases answer with
    | ok _ => exact hnext
    | error error => exact tells_fail nofun

theorem tells_notify {code : ErrorCode} {message : String}
    (h : allowed (Packet.encodeError code.number message))
    (hnext : session.Tells given allowed next) :
    session.Tells given allowed (notify session.peer code message next) := by
  refine ⟨?_, fun _ _ ↦ hnext⟩
  rintro _ _ ⟨⟩
  exact ⟨rfl, h⟩

/-- A stream is asked something. If it fails, so does the session. -/
theorem tells_ask {question : Question} {turn : Answer question → Turn Progress}
    (unsent : ∀ destination packet, question ≠ .send destination packet)
    (h : ∀ answer, given question answer → session.Tells given allowed (turn answer)) :
    session.Tells given allowed (.ask question turn) :=
  ⟨fun destination packet heq ↦ absurd heq (unsent destination packet), h⟩

variable (allows : Allows given allowed)
include allows

theorem tells_reject {reason : String} (h : FitsField reason) :
    session.Tells given allowed (session.reject reason) :=
  tells_notify (allows.rejection h) (tells_fail nofun)

theorem tells_abandon {question : Question} {answer : Answer question} {error : SystemError}
    (hgiven : given question answer) (failed : failure? question answer = some error)
    (use : SystemError.Use) : session.Tells given allowed (session.abandon use error) :=
  tells_notify (allows.failure hgiven failed use) (tells_fail nofun)

theorem tells_store (chunk : Bytes) (hnext : session.Tells given allowed next) :
    session.Tells given allowed (session.store chunk next) := by
  refine tells_ask nofun fun answer hgiven ↦ ?_
  cases answer with
  | ok _ => exact hnext
  | error error => exact tells_abandon allows hgiven rfl .writing

theorem tells_flush (hnext : session.Tells given allowed next) :
    session.Tells given allowed (session.flush next) := by
  refine tells_ask nofun fun answer hgiven ↦ ?_
  cases answer with
  | ok _ => exact hnext
  | error error => exact tells_abandon allows hgiven rfl .writing

/-! ### Sending -/

omit allows in
theorem tells_awaitAck (awaited : Awaited) (summary : Summary) (h : allowed packet) :
    session.Tells given allowed (session.awaitAck packet awaited summary now) :=
  tells_sendToPeer h (tells_await h)

theorem tells_sendBlock (session : Session) (supply : Supply) (summary : Summary) (now : Nat) :
    session.Tells given allowed (session.sendBlock supply summary now) := by
  cases supply with
  | text rest => exact tells_awaitAck _ _ (allows.block _ (List.length_take_le _ _))
  | stream =>
    refine tells_ask nofun fun answer hgiven ↦ ?_
    cases answer with
    | ok payload => exact tells_awaitAck _ _ (allows.filled _ hgiven)
    | error error => exact tells_abandon allows hgiven rfl .reading

theorem tells_beginSending (session : Session) (now : Nat) :
    session.Tells given allowed (session.beginSending now) := by
  have hblock (supply : Supply) : session.Tells given allowed
      ({ session with stage := .transferring }.sendBlock supply {} now) :=
    (tells_sendBlock allows _ supply {} now).of_peer rfl rfl
  unfold beginSending
  dsimp only
  split
  · exact hblock .stream
  · refine tells_ask nofun fun answer hgiven ↦ ?_
    cases answer with
    | ok raw => exact hblock _
    | error error => exact (tells_abandon allows hgiven rfl .reading).of_peer rfl rfl

theorem tells_advance (length : Nat) (supply : Supply) (summary : Summary) (now : Nat) :
    session.Tells given allowed (session.advance length supply summary now) := by
  unfold advance
  split
  · exact tells_complete _
  · exact (tells_sendBlock allows _ supply _ now).of_peer rfl rfl

theorem tells_takeAck (outstanding : allowed exchange.outstanding) (expected : BlockNumber)
    (packet : Packet) (hnext : session.Tells given allowed next) :
    session.Tells given allowed (session.takeAck exchange expected packet next) := by
  have hexpected : FitsField "expected ACK #" := by decide +kernel
  have hblock := hexpected.append (fitsField_number expected.toNat)
  have hother (other : Packet) : session.Tells given allowed
      (session.reject s!"expected ACK #{expected.toNat}, got {other.opcode.name}") := by
    have hgot : FitsField ", got " := by decide +kernel
    exact tells_reject allows ((hblock.append hgot).append other.opcode.fitsField_name)
  cases packet with
  | ack block =>
    have hgot : FitsField ", got #" := by decide +kernel
    unfold takeAck
    dsimp only
    split
    · exact hnext
    · split
      · exact tells_await outstanding
      · exact tells_reject allows ((hblock.append hgot).append (fitsField_number block.toNat))
  | _ => exact hother _

/-! ### Receiving -/

theorem tells_acknowledge (length : Nat) (decoder : Netascii.Decoder) (summary : Summary)
    (now : Nat) : session.Tells given allowed (session.acknowledge length decoder summary now) := by
  apply tells_sendToPeer (allows.acknowledgment _)
  dsimp only
  split
  · exact (tells_complete _).of_peer rfl rfl
  · exact (tells_await (allows.acknowledgment _)).of_peer rfl rfl

theorem tells_takePayload (payload : Bytes) (decoder : Netascii.Decoder) (summary : Summary)
    (now : Nat) : session.Tells given allowed (session.takePayload payload decoder summary now) := by
  rw [takePayload_eq]
  apply tells_store allows
  split
  · exact tells_store allows _ (tells_flush allows (tells_acknowledge allows _ _ _ _))
  · exact tells_acknowledge allows _ _ _ _

theorem tells_unexpectedData (session : Session) (packet : Packet) :
    session.Tells given allowed (session.unexpectedData packet) := by
  have hexpected : FitsField "expected DATA #" := by decide +kernel
  have hblock := hexpected.append (fitsField_number session.block.toNat)
  have hother (other : Packet) : session.Tells given allowed
      (session.reject s!"expected DATA #{session.block.toNat}, got {other.opcode.name}") := by
    have hgot : FitsField ", got " := by decide +kernel
    exact tells_reject allows ((hblock.append hgot).append other.opcode.fitsField_name)
  cases packet with
  | data block payload =>
    have hgot : FitsField ", got #" := by decide +kernel
    exact tells_reject allows ((hblock.append hgot).append (fitsField_number block.toNat))
  | _ => exact hother _

theorem tells_takeData (outstanding : allowed exchange.outstanding) (decoder : Netascii.Decoder)
    (packet : Packet) (now : Nat) :
    session.Tells given allowed (session.takeData exchange decoder packet now) := by
  have hother := tells_unexpectedData allows session packet
  cases packet with
  | data block payload =>
    unfold takeData
    dsimp only
    split
    · exact tells_takePayload allows _ _ _ _
    · split
      · exact tells_sendToPeer outstanding (tells_await outstanding)
      · exact hother
  | _ => exact hother

/-! ## Turns -/

theorem tells_take (outstanding : allowed exchange.outstanding) (packet : Packet) (now : Nat) :
    session.Tells given allowed (session.take exchange packet now) := by
  unfold take
  split
  · exact tells_takeData allows outstanding _ packet now
  · exact tells_takeAck allows outstanding 0 packet (tells_beginSending allows session now)
  · exact tells_takeAck allows outstanding _ packet (tells_advance allows _ _ _ now)

omit allows in
theorem tells_receive (session : Session) {opening : Bytes} (h : allowed opening) (now : Nat) :
    session.Tells given allowed (session.receive opening now) :=
  tells_sendToPeer h ((tells_await h).of_peer rfl rfl)

theorem tells_send (session : Session) (opening? : Option Bytes)
    (h : ∀ opening ∈ opening?, allowed opening) (now : Nat) :
    session.Tells given allowed (session.send opening? now) := by
  cases opening? with
  | none => exact tells_beginSending allows session now
  | some opening => exact (tells_awaitAck _ _ (h opening rfl)).of_peer rfl rfl

/-- What a session does about an event. A stranger is told that it is one, and a peer that gives up
is believed. About anything else there is something to say to the peer. -/
inductive Replies (given : (question : Question) → Answer question → Prop)
    (allowed : Bytes → Prop) (session : Session) (exchange : Exchange) :
    Event → Turn Progress → Prop
  | disowns {source : SocketAddress} {datagram : Bytes} (stranger : session.IsStranger source) :
    Replies given allowed session exchange (.arrival source datagram)
      (notify source .unknownTransferId ErrorCode.unknownTransferId.defaultMessage
        (session.await exchange))
  | believes {source : SocketAddress} {datagram : Bytes} {notice : Notice}
      (native : ¬ session.IsStranger source)
      (decoded : Packet.decode datagram = .ok (.error notice))
      (code : notice.code ≠ .unknownTransferId) :
    Replies given allowed session exchange (.arrival source datagram)
      ((session.boundTo source).fail (.peer notice))
  | answers {source : SocketAddress} {datagram : Bytes} {turn : Turn Progress}
      (native : ¬ session.IsStranger source)
      (tells : (session.boundTo source).Tells given allowed turn) :
    Replies given allowed session exchange (.arrival source datagram) turn
  | goesOn {event : Event} {turn : Turn Progress}
      (unheard : ∀ source datagram, event ≠ .arrival source datagram)
      (tells : session.Tells given allowed turn) :
    Replies given allowed session exchange event turn

theorem replies (session : Session) (exchange : Exchange)
    (outstanding : allowed exchange.outstanding) (event : Event) (now : Nat) :
    session.Replies given allowed exchange event (session.react exchange event now) := by
  cases event with
  | arrival source datagram =>
    by_cases stranger : session.IsStranger source
    · rw [arrive_of_stranger stranger]
      exact .disowns stranger
    · rw [arrive_of_peer stranger]
      unfold read
      split
      · next error _ => exact .answers stranger (tells_reject allows error.fitsField_message)
      · next notice decoded =>
        by_cases code : notice.code = .unknownTransferId
        · rw [if_pos code]
          exact .answers stranger (tells_await outstanding)
        · rw [if_neg code]
          exact .believes stranger decoded code
      · exact .answers stranger (tells_take allows outstanding _ now)
  | receiveError error =>
    refine .goesOn nofun ?_
    unfold react trip
    dsimp only
    split
    · exact tells_await outstanding
    · exact tells_fail nofun
  | expiry =>
    refine .goesOn nofun ?_
    unfold react expire
    dsimp only
    split
    · exact tells_fail nofun
    · exact tells_sendToPeer outstanding (tells_await outstanding)

end

end Session

end Lockstep
