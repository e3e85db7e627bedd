import Lockstep.Packet.Codec

/-!
# Reading what was written

The packets of a transfer are read back as they were written, and so are the codes of error
notices.
-/

namespace Lockstep.Packet

/-- A body behind a known opcode is read for what it is. -/
theorem decode_ofWord (opcode : Opcode) (body : Bytes) :
    decode (Bytes.ofWord opcode.number ++ body) = (decodeBody opcode body).mapError .malformed := by
  simp only [Bytes.ofWord, List.cons_append, List.nil_append, decode, Bytes.word_ofWord,
    Opcode.ofNumber?_number]

theorem decode_encodeData {block : BlockNumber} {payload : Bytes}
    (h : payload.length ≤ blockSize) :
    decode (encodeData block payload) = .ok (.data block payload) := by
  rw [encodeData, List.append_assoc, decode_ofWord]
  simp only [decodeBody, Bytes.ofWord, List.cons_append, List.nil_append, decodeData,
    Nat.not_lt.mpr h, if_false, Bytes.word_ofWord]
  rfl

theorem length_le_of_decodeData {body payload : Bytes} {block : BlockNumber}
    (h : decodeData body = .ok (.data block payload)) : payload.length ≤ blockSize := by
  unfold decodeData at h
  split at h
  · split at h
    · cases h
    · next hlength =>
      cases h
      exact Nat.le_of_not_lt hlength
  · cases h

/-- No block that is read is longer than a full one. -/
theorem length_le_of_decode {datagram payload : Bytes} {block : BlockNumber}
    (h : decode datagram = .ok (.data block payload)) : payload.length ≤ blockSize := by
  unfold decode at h
  split at h
  · next high low body =>
    cases hopcode : Opcode.ofNumber? (Bytes.word high low) with
    | none =>
      rw [hopcode] at h
      cases h
    | some opcode =>
      rw [hopcode] at h
      dsimp only at h
      cases hbody : decodeBody opcode body with
      | error defect =>
        rw [hbody] at h
        cases h
      | ok packet =>
        rw [hbody] at h
        cases h
        cases opcode with
        | data => exact length_le_of_decodeData hbody
        | readRequest | writeRequest =>
          unfold decodeBody at hbody
          cases hrequest : decodeRequest body <;> rw [hrequest] at hbody <;> cases hbody
        | acknowledgment =>
          unfold decodeBody decodeAck at hbody
          dsimp only at hbody
          split at hbody <;> cases hbody
        | error =>
          unfold decodeBody decodeError at hbody
          dsimp only at hbody
          split at hbody
          · split at hbody <;> cases hbody
          · cases hbody
  · cases h

theorem decode_encodeAck (block : BlockNumber) : decode (encodeAck block) = .ok (.ack block) := by
  rw [encodeAck, decode_ofWord]
  simp only [decodeBody, Bytes.ofWord, decodeAck, Bytes.word_ofWord]
  rfl

theorem splitAtZero?_append_zero (text : Bytes) :
    ∃ before after, Bytes.splitAtZero? (text ++ [0]) = some (before, after) := by
  induction text with
  | nil => exact ⟨[], [], rfl⟩
  | cons byte rest ih =>
    obtain ⟨before, after, hsplit⟩ := ih
    by_cases hzero : byte = 0
    · exact ⟨[], rest ++ [0], by simp [Bytes.splitAtZero?, hzero]⟩
    · exact ⟨byte :: before, after, by simp [Bytes.splitAtZero?, hzero, hsplit]⟩

theorem ofNumber?_lowByte (code : ErrorCode) :
    ErrorCode.ofNumber? (UInt8.ofNat (code.number.toNat % 256)).toUInt16 = some code := by
  cases code <;> rfl

/-- An error notice is read with its code, whatever its text is. -/
theorem decode_encodeError (code : ErrorCode) (message : String) :
    ∃ text, decode (encodeError code.number message) = .ok (.error ⟨code, text⟩) := by
  obtain ⟨before, after, hsplit⟩ := splitAtZero?_append_zero (Bytes.ofText message)
  refine ⟨Bytes.lenientText before, ?_⟩
  rw [encodeError, List.append_assoc, List.append_assoc, decode_ofWord]
  simp only [decodeBody, Bytes.ofWord, List.cons_append, List.nil_append, decodeError, hsplit,
    ofNumber?_lowByte]
  rfl

theorem length_encodeData (block : BlockNumber) (payload : Bytes) :
    (encodeData block payload).length = headerSize + payload.length := by
  simp only [encodeData, List.length_append, Bytes.length_ofWord, headerSize]

theorem length_encodeAck (block : BlockNumber) : (encodeAck block).length = headerSize := rfl

end Lockstep.Packet
