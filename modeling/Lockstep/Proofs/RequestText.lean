import Lockstep.Proofs.Reading
import Lockstep.FileSystem.Resolve
import Lockstep.Server.Admission

/-!
# Requests as they travel

A request for a filename that a server accepts is read for what it is. Such a name has no zero byte
in it, so the end of the name in the datagram is where it was put, and a name that is short enough
for a directory leaves the datagram short enough for the well-known port.
-/

namespace Lockstep

namespace Bytes

theorem text?_ofText (text : String) : text? (ofText text) = some text := by
  have hbytes : (ofText text).toByteArray = text.toByteArray := by
    rw [← @String.ofList_toList text, String.toByteArray_ofList, ofText,
      String.toList_ofList]
    rfl
  have hvalid : (ofText text).toByteArray.IsValidUTF8 := by
    rw [hbytes]
    exact text.isValidUTF8
  rw [text?, String.fromUTF8?, dif_pos hvalid, Option.some.injEq, ← String.toByteArray_inj]
  exact hbytes

theorem length_ofText (text : String) :
    (ofText text).length = FileSystem.textLength text.toList := by
  rw [ofText, FileSystem.textLength]
  induction text.toList with
  | nil => rfl
  | cons character rest ih =>
    rw [List.flatMap_cons, List.length_append, ih, String.length_utf8EncodeChar, List.foldr_cons]

/-- Only the zero character is written with a zero byte. -/
theorem eq_zero_of_mem_utf8EncodeChar {character : Char}
    (h : 0 ∈ String.utf8EncodeChar character) : character = '\x00' := by
  have hbyte : ∀ number, (0 : UInt8) = UInt8.ofNat number → number % 256 = 0 := by
    intro number heq
    have hnat := congrArg UInt8.toNat heq
    rw [UInt8.toNat_ofNat'] at hnat
    exact hnat.symm
  have hzero : character.val.toNat = 0 := by
    unfold String.utf8EncodeChar at h
    dsimp only at h
    split at h
    · next hone =>
      have hfirst := hbyte _ (List.mem_singleton.mp h)
      omega
    · split at h
      · simp only [List.mem_cons, List.not_mem_nil, or_false] at h
        rcases h with h | h <;> have := hbyte _ h <;> omega
      · split at h
        · simp only [List.mem_cons, List.not_mem_nil, or_false] at h
          rcases h with h | h | h <;> have := hbyte _ h <;> omega
        · simp only [List.mem_cons, List.not_mem_nil, or_false] at h
          rcases h with h | h | h | h <;> have := hbyte _ h <;> omega
  apply Char.ext
  apply UInt32.toNat_inj.mp
  exact hzero

theorem zero_not_mem_ofText {text : String} (h : '\x00' ∉ text.toList) : 0 ∉ ofText text := by
  intro hmem
  obtain ⟨character, hcharacter, hzero⟩ := List.mem_flatMap.mp hmem
  exact h (eq_zero_of_mem_utf8EncodeChar hzero ▸ hcharacter)

theorem splitAtZero?_append_cons {front : Bytes} (h : 0 ∉ front) (back : Bytes) :
    splitAtZero? (front ++ 0 :: back) = some (front, back) := by
  induction front with
  | nil => rfl
  | cons byte rest ih =>
    have hbyte : byte ≠ 0 := fun heq ↦ h (heq ▸ List.mem_cons_self)
    have hrest := ih fun hmem ↦ h (List.mem_cons_of_mem _ hmem)
    rw [List.cons_append, splitAtZero?, if_neg hbyte, hrest]
    rfl

end Bytes

namespace Mode

theorem ofName?_name (mode : Mode) : ofName? mode.name = some mode := by
  cases mode <;> decide

theorem zero_not_mem_name (mode : Mode) : '\x00' ∉ mode.name.toList := by
  cases mode <;> decide

end Mode

namespace Role

/-- The packet with which a client asks to play its role. -/
def request (role : Role) (request : FileRequest) : Packet :=
  match role with
  | .receiver => .readRequest request
  | .sender => .writeRequest request

/-- The role of the other side. -/
def opposite : Role → Role
  | .sender => .receiver
  | .receiver => .sender

end Role

namespace Packet

theorem decodeRequest_append {filename modeText : String} (hfilename : '\x00' ∉ filename.toList)
    (hmode : '\x00' ∉ modeText.toList) :
    decodeRequest (Bytes.ofText filename ++ 0 :: (Bytes.ofText modeText ++ [0])) =
      .ok ⟨filename, modeText⟩ := by
  simp only [decodeRequest,
    Bytes.splitAtZero?_append_cons (Bytes.zero_not_mem_ofText hfilename), Bytes.text?_ofText,
    Bytes.splitAtZero?_append_cons (Bytes.zero_not_mem_ofText hmode), List.isEmpty_nil, if_true]

theorem decode_request (role : Role) {request : FileRequest}
    (hfilename : '\x00' ∉ request.filename.toList) (hmode : '\x00' ∉ request.modeText.toList) :
    decode (role.request request).encode = .ok (role.request request) := by
  have hbody := decodeRequest_append hfilename hmode
  cases role with
  | receiver =>
    rw [Role.request, encode, encodeRequest, List.append_assoc, decode_ofWord, decodeBody, hbody]
    rfl
  | sender =>
    rw [Role.request, encode, encodeRequest, List.append_assoc, decode_ofWord, decodeBody, hbody]
    rfl

theorem length_request (role : Role) (request : FileRequest) :
    (role.request request).encode.length =
      FileSystem.textLength request.filename.toList +
        FileSystem.textLength request.modeText.toList + 4 := by
  have hlength : ∀ opcode, (encodeRequest opcode request).length =
      FileSystem.textLength request.filename.toList +
        FileSystem.textLength request.modeText.toList + 4 := by
    intro opcode
    simp only [encodeRequest, List.length_append, List.length_cons, List.length_nil,
      Bytes.length_ofWord, Bytes.length_ofText]
    omega
  cases role <;> exact hlength _

end Packet

namespace Filename

/-- The zero character is a control character. -/
theorem zero_not_mem_of_check {filename : String} (h : check filename = .ok ()) :
    '\x00' ∉ filename.toList := by
  intro hzero
  have hcontrol : filename.toList.any Text.isControl = true :=
    List.any_eq_true.mpr ⟨'\x00', hzero, rfl⟩
  unfold check at h
  rw [hcontrol] at h
  split at h
  · cases h
  · split at h
    · cases h
    · split at h <;> cases h

end Filename

/-- A server takes the request for a name that it accepts, and plays the other role. -/
theorem Admission.ofDatagram_request {filename : String} (h : Filename.check filename = .ok ())
    (role : Role) (mode : Mode) :
    ofDatagram (role.request (.inMode filename mode)).encode =
      .ok ⟨role.opposite, .inMode filename mode, mode⟩ := by
  have hdecode : Packet.decode (role.request (.inMode filename mode)).encode =
      .ok (role.request (.inMode filename mode)) :=
    Packet.decode_request role (Filename.zero_not_mem_of_check h) mode.zero_not_mem_name
  have hrequest : ∀ role, ofRequest role (.inMode filename mode) =
      .ok ⟨role, .inMode filename mode, mode⟩ := by
    intro role
    have hmode : FileRequest.mode? (.inMode filename mode) = some mode := mode.ofName?_name
    have hname : Filename.check (FileRequest.inMode filename mode).filename = .ok () := h
    simp only [ofRequest, hmode, hname]
  rw [ofDatagram, hdecode]
  cases role <;> exact hrequest _

/-- The request for a name that fits into a directory fits into the buffer of the well-known
port. -/
theorem length_request_le {filename : String}
    (h : FileSystem.textLength filename.toList ≤ FileSystem.maxNameLength) (role : Role)
    (mode : Mode) : (role.request (.inMode filename mode)).encode.length ≤ 300 := by
  have hmode : FileSystem.textLength mode.name.toList ≤ 8 := by
    cases mode <;> decide
  have hlength := Packet.length_request role (.inMode filename mode)
  simp only [FileRequest.inMode, FileSystem.maxNameLength] at h hlength ⊢
  omega

end Lockstep
