import Lockstep.Proofs.Speech
import Lockstep.Proofs.WireFormat

/-!
# Legible packets

A datagram is legible if it was written from a packet and whoever reads it finds that very packet.
Everything that a session sends is legible, whatever it receives: its texts are its own and have no
zero character, its blocks are no longer than what it asked its source for, and what it sends again it
has sent before. The answer to a request may repeat a text of the client, but that text comes from a
field, and there is no zero character in it either.
-/

namespace Lockstep

/-! ## Texts that fit into a field -/

theorem ErrorCode.fitsField_defaultMessage (code : ErrorCode) : FitsField code.defaultMessage := by
  cases code <;> decide +kernel

namespace Admission

theorem fitsField_of_ofRequest {role : Role} {request : FileRequest} {refusal : Refusal}
    (hmode : FitsField request.modeText) (h : ofRequest role request = .error refusal) :
    FitsField refusal.message := by
  unfold ofRequest at h
  split at h
  · cases h
    have hbegin : FitsField "Unsupported transfer mode '" := by decide +kernel
    have hend : FitsField "'" := by decide
    exact (hbegin.append hmode).append hend
  · split at h
    · next fault _ =>
      cases h
      cases fault <;> decide +kernel
    · cases h

/-- Whatever a client has sent, the reason why it is turned down fits into a field. -/
theorem fitsField_of_refused {datagram : Bytes} {refusal : Refusal}
    (h : ofDatagram datagram = .error refusal) : FitsField refusal.message := by
  have hread := @Packet.isFaithful_of_decode datagram
  unfold ofDatagram at h
  split at h
  · next error _ =>
    cases h
    exact error.fitsField_message
  · next request hdecode => exact fitsField_of_ofRequest (hread hdecode).1.2 h
  · next request hdecode => exact fitsField_of_ofRequest (hread hdecode).1.2 h
  · next packet _ _ _ =>
    cases h
    have hbegin : FitsField "Expected RRQ or WRQ, got " := by decide +kernel
    exact hbegin.append packet.opcode.fitsField_name

end Admission

/-! ## Short texts -/

theorem length_ofText_append (first second : String) :
    (Bytes.ofText (first ++ second)).length =
      (Bytes.ofText first).length + (Bytes.ofText second).length := by
  unfold Bytes.ofText
  rw [String.toList_append, List.flatMap_append, List.length_append]

theorem length_ofText_digits {text : String}
    (h : ∀ character ∈ text.toList, character.isDigit = true) :
    (Bytes.ofText text).length = text.length := by
  unfold Bytes.ofText
  rw [← String.length_toList]
  generalize text.toList = characters at h ⊢
  induction characters with
  | nil => rfl
  | cons first rest ih =>
    obtain ⟨hfirst, hrest⟩ := List.forall_mem_cons.mp h
    have hone : first.utf8Size = 1 := by
      simp only [Char.isDigit, Bool.and_eq_true, decide_eq_true_eq] at hfirst
      exact Char.utf8Size_eq_one_iff.mpr (UInt32.le_trans hfirst.2 (by decide))
    rw [List.flatMap_cons, List.length_append, ih hrest, String.length_utf8EncodeChar, hone,
      List.length_cons, Nat.add_comm]

theorem length_ofText_number (number : UInt16) :
    (Bytes.ofText (toString number.toNat)).length ≤ 5 := by
  have hlist : (toString number.toNat).toList = Nat.toDigits 10 number.toNat := by
    rw [Nat.toString_eq_repr, Nat.toList_repr]
  rw [length_ofText_digits, ← String.length_toList, hlist]
  · have hsmall : number.toNat < 10 ^ 5 := Nat.lt_of_lt_of_le number.toNat_lt (by decide)
    exact (Nat.length_toDigits_le_iff (by decide) (by decide)).mpr hsmall
  · rw [hlist]
    exact fun character ↦ Nat.isDigit_of_mem_toDigits (by decide) (by decide)

theorem DecodeError.length_message_le (error : DecodeError) :
    (Bytes.ofText error.message).length ≤ 60 := by
  cases error with
  | unknownOpcode number =>
    have hbegin : (Bytes.ofText "unknown opcode ").length = 15 := by decide +kernel
    have hnumber := length_ofText_number number
    change (Bytes.ofText ("unknown opcode " ++ toString number.toNat)).length ≤ 60
    rw [length_ofText_append, hbegin]
    omega
  | malformed defect => cases defect <;> decide +kernel

namespace Admission

theorem length_of_ofRequest {role : Role} {request : FileRequest} {refusal : Refusal}
    (h : ofRequest role request = .error refusal) :
    (Bytes.ofText refusal.message).length ≤ (Bytes.ofText request.modeText).length + 60 := by
  unfold ofRequest at h
  split at h
  · cases h
    have hbegin : (Bytes.ofText "Unsupported transfer mode '").length = 27 := by decide +kernel
    have hend : (Bytes.ofText "'").length = 1 := by decide +kernel
    change (Bytes.ofText ("Unsupported transfer mode '" ++ request.modeText ++ "'")).length ≤ _
    rw [length_ofText_append, length_ofText_append, hbegin, hend]
    omega
  · split at h
    · next fault _ =>
      cases h
      apply Nat.le_trans _ (Nat.le_add_left _ _)
      cases fault <;> decide +kernel
    · cases h

theorem length_modeText_le {datagram : Bytes} {role : Role} {request : FileRequest}
    (h : Packet.decode datagram = .ok (role.request request)) :
    (Bytes.ofText request.modeText).length ≤ datagram.length := by
  have hwritten : (role.request request).encode = datagram := by
    apply (Packet.isFaithful_of_decode h).2
    cases role <;> exact Opcode.noConfusion
  rw [← hwritten, Packet.length_request, Bytes.length_ofText]
  omega

/-- The reason is not much longer than the datagram. -/
theorem length_of_refused {datagram : Bytes} {refusal : Refusal}
    (h : ofDatagram datagram = .error refusal) :
    (Bytes.ofText refusal.message).length ≤ datagram.length + 60 := by
  unfold ofDatagram at h
  split at h
  · next error _ =>
    cases h
    exact Nat.le_trans error.length_message_le (Nat.le_add_left _ _)
  · next request hdecode =>
    have hmode := @length_modeText_le datagram .receiver request hdecode
    have := length_of_ofRequest h
    omega
  · next request hdecode =>
    have hmode := @length_modeText_le datagram .sender request hdecode
    have := length_of_ofRequest h
    omega
  · next packet _ _ _ =>
    cases h
    apply Nat.le_trans _ (Nat.le_add_left _ _)
    generalize packet.opcode = opcode
    cases opcode <;> decide +kernel

end Admission

/-! ## Packets -/

namespace Packet

/-- The datagram was written from a packet, and whoever reads it finds what it was written from. -/
structure IsLegible (datagram : Bytes) : Prop where
  written : ∃ packet : Packet, packet.encode = datagram
  read : ∀ packet : Packet, packet.encode = datagram → decode datagram = .ok packet

variable {packet other : Packet}

theorem exists_encode_eq (packet : Packet) :
    ∃ body, packet.encode = Bytes.ofWord packet.opcode.number ++ body := by
  cases packet with
  | readRequest request => exact ⟨_, List.append_assoc ..⟩
  | writeRequest request => exact ⟨_, List.append_assoc ..⟩
  | data block payload => exact ⟨_, List.append_assoc ..⟩
  | ack block => exact ⟨_, rfl⟩
  | error notice => exact ⟨_, by rw [encode, encodeError, List.append_assoc, List.append_assoc]; rfl⟩

theorem opcode_eq_of_encode_eq (h : packet.encode = other.encode) :
    packet.opcode = other.opcode := by
  have hword : Bytes.ofWord packet.opcode.number = Bytes.ofWord other.opcode.number := by
    obtain ⟨body, hbody⟩ := packet.exists_encode_eq
    obtain ⟨body', hbody'⟩ := other.exists_encode_eq
    rw [hbody, hbody'] at h
    exact (List.append_inj h rfl).1
  generalize packet.opcode = opcode at hword ⊢
  generalize other.opcode = opcode' at hword ⊢
  revert hword
  cases opcode <;> cases opcode' <;> decide

theorem fitsField_of_zero_not_mem {text : String} (h : 0 ∉ Bytes.ofText text) : FitsField text :=
  fun hzero ↦ h (Bytes.zero_mem_ofText hzero)

/-- A request that fills two fields has no zero character in it if there are but two fields. -/
theorem fitsField_of_encodeRequest_eq {opcode : Opcode} {request request' : FileRequest}
    (h : encodeRequest opcode request = encodeRequest opcode request')
    (hfilename : FitsField request'.filename) (hmode : FitsField request'.modeText) :
    FitsField request.filename ∧ FitsField request.modeText := by
  have hcount := congrArg (List.count 0) h
  have hfilename : (Bytes.ofText request'.filename).count 0 = 0 :=
    List.count_eq_zero.mpr (Bytes.zero_not_mem_ofText hfilename)
  have hmode : (Bytes.ofText request'.modeText).count 0 = 0 :=
    List.count_eq_zero.mpr (Bytes.zero_not_mem_ofText hmode)
  simp only [encodeRequest, List.count_append, List.count_cons_self, hfilename, hmode] at hcount
  constructor
  · apply fitsField_of_zero_not_mem
    apply List.count_eq_zero.mp
    omega
  · apply fitsField_of_zero_not_mem
    apply List.count_eq_zero.mp
    omega

theorem isFaithful_of_encode_eq (h : packet.encode = other.encode) (faithful : other.IsFaithful) :
    packet.IsFaithful := by
  have hopcode := opcode_eq_of_encode_eq h
  cases packet with
  | readRequest request =>
    cases other with
    | readRequest request' => exact fitsField_of_encodeRequest_eq h faithful.1 faithful.2
    | _ => cases hopcode
  | writeRequest request =>
    cases other with
    | writeRequest request' => exact fitsField_of_encodeRequest_eq h faithful.1 faithful.2
    | _ => cases hopcode
  | data block payload =>
    cases other with
    | data block' payload' =>
      have hlength := congrArg List.length h
      simp only [encode, encodeData, List.length_append, Bytes.length_ofWord] at hlength
      have hpayload : payload'.length ≤ blockSize := faithful
      exact (show payload.length ≤ blockSize by omega)
    | _ => cases hopcode
  | ack block => exact trivial
  | error notice =>
    cases other with
    | error notice' =>
      have hmessage : Bytes.ofText notice.message = Bytes.ofText notice'.message :=
        (List.append_inj (List.append_inj' h rfl).1 rfl).2
      apply fitsField_of_zero_not_mem
      rw [hmessage]
      exact Bytes.zero_not_mem_ofText faithful
    | _ => cases hopcode

/-- A packet that comes back as it was written is written like no other. -/
theorem eq_of_encode_eq (h : packet.encode = other.encode) (faithful : other.IsFaithful) :
    packet = other := by
  have hread := (isFaithful_of_encode_eq h faithful).decode_encode
  rw [h, faithful.decode_encode] at hread
  exact (Except.ok.inj hread).symm

theorem IsFaithful.isLegible (faithful : packet.IsFaithful) : IsLegible packet.encode where
  written := ⟨packet, rfl⟩
  read := by
    intro other h
    rw [eq_of_encode_eq h faithful]
    exact faithful.decode_encode

theorem isLegible_encodeAck (block : BlockNumber) : IsLegible (encodeAck block) :=
  @IsFaithful.isLegible (.ack block) trivial

theorem isLegible_encodeData (block : BlockNumber) {payload : Bytes}
    (h : payload.length ≤ blockSize) : IsLegible (encodeData block payload) :=
  @IsFaithful.isLegible (.data block payload) h

theorem isLegible_encodeError (code : ErrorCode) {message : String} (h : FitsField message) :
    IsLegible (encodeError code.number message) :=
  @IsFaithful.isLegible (.error ⟨code, message⟩) h

end Packet

/-! ## Turns -/

namespace Session

/-- A source hands over no more than it was asked for. -/
def Measured : (question : Question) → Answer question → Prop
  | .fill count, .ok chunk => chunk.length ≤ count
  | _, _ => True

/-- If something is sent, it is legible. -/
def Question.IsLegible : Question → Prop
  | .send _ packet => Packet.IsLegible packet
  | _ => True

/-- What the session may have to send again is legible. -/
def Progress.IsLegible : Progress → Prop
  | .waiting _ exchange => Packet.IsLegible exchange.outstanding
  | .ended .. => True

/-- All that the turn sends is legible, and so is what it leaves to be sent again. -/
def Legible (turn : Turn Progress) : Prop :=
  turn.MeetsIf Measured Question.IsLegible Progress.IsLegible

variable {session : Session} {exchange : Exchange}

theorem allows_legible : Allows Measured Packet.IsLegible where
  acknowledgment := Packet.isLegible_encodeAck
  block block _ := Packet.isLegible_encodeData block
  filled block _ := Packet.isLegible_encodeData block
  rejection := Packet.isLegible_encodeError _
  failure _ _ _ := Packet.isLegible_encodeError _ (ErrorCode.fitsField_defaultMessage _)

theorem Tells.legible {turn : Turn Progress} (h : session.Tells Measured Packet.IsLegible turn) :
    Legible turn := by
  refine h.mono (fun question sends ↦ ?_) fun progress keeps ↦ ?_
  · cases question with
    | send destination packet => exact (sends destination packet rfl).2
    | _ => exact trivial
  · cases progress with
    | waiting later exchange => exact keeps.outstanding rfl
    | ended later result => exact trivial

theorem legible_beginSending (session : Session) (now : Nat) :
    Legible (session.beginSending now) :=
  (tells_beginSending allows_legible session now).legible

theorem legible_receive (session : Session) {opening : Bytes} (h : Packet.IsLegible opening)
    (now : Nat) : Legible (session.receive opening now) :=
  (tells_receive session h now).legible

/-- Whatever happens to a session, it sends nothing that cannot be read as it was meant. -/
theorem legible_react (outstanding : Packet.IsLegible exchange.outstanding) (event : Event)
    (now : Nat) : Legible (session.react exchange event now) := by
  have replies := replies allows_legible session exchange outstanding event now
  generalize session.react exchange event now = turn at replies
  cases replies with
  | disowns stranger =>
    exact ⟨Packet.isLegible_encodeError _ (ErrorCode.fitsField_defaultMessage _),
      fun _ _ ↦ outstanding⟩
  | believes native decoded code => exact trivial
  | answers native tells => exact tells.legible
  | goesOn unheard tells => exact tells.legible

end Session

end Lockstep
