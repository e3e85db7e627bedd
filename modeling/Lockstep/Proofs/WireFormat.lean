import Lockstep.Proofs.Texts

/-!
# The wire format

Which datagrams are packets, and which packets survive the way through a datagram. A packet comes
back as it was written if its texts have no zero character and its payload fits into a block; these
are also all the packets that are ever read. Reading accepts exactly the datagrams of the format.
There is one datagram for each packet that is read, except for error notices: of those the reading
forgets the more significant byte of the code, unknown codes, broken text and what follows the text,
and it forgets them all at once.
-/

namespace Lockstep

namespace Opcode

theorem number_of_ofNumber? {number : UInt16} {opcode : Opcode}
    (h : ofNumber? number = some opcode) : opcode.number = number := by
  unfold ofNumber? at h
  repeat' split at h
  all_goals
    cases h
    try exact Eq.symm ‹_›

theorem ofNumber?_eq_none_iff {number : UInt16} :
    ofNumber? number = none ↔ number.toNat < 1 ∨ 5 < number.toNat := by
  simp only [ofNumber?, ← UInt16.toNat_inj]
  repeat' split
  all_goals simp_all
  all_goals omega

end Opcode

namespace Packet

variable {datagram body : Bytes} {packet : Packet}

/-! ## Bodies -/

theorem decodeRequest_eq_ok_iff {request : FileRequest} :
    decodeRequest body = .ok request ↔
      ('\x00' ∉ request.filename.toList ∧ '\x00' ∉ request.modeText.toList) ∧
        body = Bytes.ofText request.filename ++ 0 :: (Bytes.ofText request.modeText ++ [0]) := by
  constructor
  · intro h
    unfold decodeRequest at h
    repeat' split at h
    all_goals try cases h
    next filenameBytes rest hfirst _ filename hfilename _ modeBytes trailing hsecond _ modeText hmode
      hempty =>
      obtain ⟨hbody, hfront⟩ := Bytes.eq_of_splitAtZero? hfirst
      obtain ⟨hrest, hmiddle⟩ := Bytes.eq_of_splitAtZero? hsecond
      have hfilenameBytes := Bytes.ofText_eq_of_text? hfilename
      have hmodeBytes := Bytes.ofText_eq_of_text? hmode
      refine ⟨⟨?_, ?_⟩, ?_⟩
      · intro hzero
        exact hfront (hfilenameBytes ▸ Bytes.zero_mem_ofText hzero)
      · intro hzero
        exact hmiddle (hmodeBytes ▸ Bytes.zero_mem_ofText hzero)
      · calc
          body = filenameBytes ++ 0 :: (modeBytes ++ 0 :: trailing) := by rw [hbody, hrest]
          _ = _ := by rw [hfilenameBytes, hmodeBytes, List.isEmpty_iff.mp hempty]
  · rintro ⟨⟨hfilename, hmode⟩, rfl⟩
    exact decodeRequest_append hfilename hmode

theorem decodeData_eq_ok_iff :
    decodeData body = .ok packet ↔ ∃ block payload,
      packet = .data block payload ∧ payload.length ≤ blockSize ∧
        body = Bytes.ofWord block ++ payload := by
  constructor
  · intro h
    unfold decodeData at h
    repeat' split at h
    all_goals cases h
    next high low payload hlength =>
      refine ⟨Bytes.word high low, payload, rfl, Nat.le_of_not_lt hlength, ?_⟩
      rw [Bytes.ofWord_word, List.cons_append, List.cons_append, List.nil_append]
  · rintro ⟨block, payload, rfl, hlength, rfl⟩
    simp only [Bytes.ofWord, List.cons_append, List.nil_append, decodeData, gt_iff_lt,
      Nat.not_lt.mpr hlength, if_false, Bytes.word_ofWord]

theorem decodeAck_eq_ok_iff :
    decodeAck body = .ok packet ↔ ∃ block, packet = .ack block ∧ body = Bytes.ofWord block := by
  constructor
  · intro h
    unfold decodeAck at h
    split at h
    all_goals cases h
    next high low => exact ⟨Bytes.word high low, rfl, (Bytes.ofWord_word high low).symm⟩
  · rintro ⟨block, rfl, rfl⟩
    simp only [Bytes.ofWord, decodeAck, Bytes.word_ofWord]

theorem decodeError_eq_ok_iff :
    decodeError body = .ok packet ↔ ∃ high low text back,
      body = high :: low :: (text ++ 0 :: back) ∧ 0 ∉ text ∧
        packet = .error ⟨(ErrorCode.ofNumber? low.toUInt16).getD .notDefined,
          Bytes.lenientText text⟩ := by
  constructor
  · intro h
    unfold decodeError at h
    repeat' split at h
    all_goals cases h
    next high low rest _ text back hsplit =>
      obtain ⟨hrest, htext⟩ := Bytes.eq_of_splitAtZero? hsplit
      exact ⟨high, low, text, back, by rw [hrest], htext, rfl⟩
  · rintro ⟨high, low, text, back, rfl, htext, rfl⟩
    simp only [decodeError, Bytes.splitAtZero?_append_cons htext]

/-- A datagram is read by its opcode. -/
theorem decode_eq_ok_iff :
    decode datagram = .ok packet ↔ ∃ opcode body,
      datagram = Bytes.ofWord opcode.number ++ body ∧ decodeBody opcode body = .ok packet := by
  constructor
  · intro h
    unfold decode at h
    split at h
    · next high low body =>
      split at h
      · cases h
      · next opcode hopcode =>
        refine ⟨opcode, body, ?_, ?_⟩
        · rw [Opcode.number_of_ofNumber? hopcode, Bytes.ofWord_word, List.cons_append,
            List.cons_append, List.nil_append]
        · cases hbody : decodeBody opcode body with
          | error defect =>
            rw [hbody] at h
            cases h
          | ok read =>
            rw [hbody] at h
            cases h
            rfl
    · cases h
  · rintro ⟨opcode, body, rfl, hbody⟩
    rw [decode_ofWord, hbody]
    rfl

/-! ## Round trips -/

/-- The packet comes back as it was written. -/
def IsFaithful : Packet → Prop
  | .readRequest request | .writeRequest request =>
    '\x00' ∉ request.filename.toList ∧ '\x00' ∉ request.modeText.toList
  | .data _ payload => payload.length ≤ blockSize
  | .ack _ => True
  | .error notice => '\x00' ∉ notice.message.toList

theorem IsFaithful.decode_encode (h : packet.IsFaithful) : decode packet.encode = .ok packet := by
  cases packet with
  | readRequest request => exact decode_request .receiver h.1 h.2
  | writeRequest request => exact decode_request .sender h.1 h.2
  | data block payload => exact decode_encodeData h
  | ack block => exact decode_encodeAck block
  | error notice =>
    have hmessage : 0 ∉ Bytes.ofText notice.message := Bytes.zero_not_mem_ofText h
    apply decode_eq_ok_iff.mpr
    refine ⟨.error, Bytes.ofWord notice.code.number ++ (Bytes.ofText notice.message ++ [0]), ?_, ?_⟩
    · rw [encode, encodeError, List.append_assoc, List.append_assoc]
    · rw [decodeBody, decodeError_eq_ok_iff]
      refine ⟨_, _, Bytes.ofText notice.message, [], rfl, hmessage, ?_⟩
      rw [ofNumber?_lowByte, Bytes.lenientText_ofText, Option.getD_some]

/-- A request is written in the one way in which it can be read. -/
theorem isFaithful_of_decodeRequest (make : FileRequest → Packet) {opcode : Opcode}
    (encodes : ∀ request, (make request).encode = encodeRequest opcode request)
    (faithful : ∀ request : FileRequest,
      '\x00' ∉ request.filename.toList ∧ '\x00' ∉ request.modeText.toList →
        (make request).IsFaithful)
    (h : (decodeRequest body).map make = .ok packet) :
    packet.IsFaithful ∧ packet.encode = Bytes.ofWord opcode.number ++ body := by
  cases hread : decodeRequest body with
  | error defect =>
    rw [hread] at h
    cases h
  | ok request =>
    rw [hread] at h
    cases h
    obtain ⟨htexts, hbody⟩ := decodeRequest_eq_ok_iff.mp hread
    refine ⟨faithful request htexts, ?_⟩
    rw [encodes, encodeRequest, hbody, List.append_assoc]

/-- What is read comes back when it is written, and but for error notices it is written in the one
way in which it can be read. -/
theorem isFaithful_of_decode (h : decode datagram = .ok packet) :
    packet.IsFaithful ∧ (packet.opcode ≠ .error → packet.encode = datagram) := by
  obtain ⟨opcode, body, rfl, hbody⟩ := decode_eq_ok_iff.mp h
  cases opcode with
  | readRequest =>
    have hread := isFaithful_of_decodeRequest .readRequest (fun _ ↦ rfl) (fun _ htexts ↦ htexts) hbody
    exact ⟨hread.1, fun _ ↦ hread.2⟩
  | writeRequest =>
    have hread := isFaithful_of_decodeRequest .writeRequest (fun _ ↦ rfl) (fun _ htexts ↦ htexts) hbody
    exact ⟨hread.1, fun _ ↦ hread.2⟩
  | data =>
    obtain ⟨block, payload, rfl, hlength, rfl⟩ := decodeData_eq_ok_iff.mp hbody
    refine ⟨hlength, ?_⟩
    intro _
    rw [encode, encodeData, List.append_assoc]
  | acknowledgment =>
    obtain ⟨block, rfl, rfl⟩ := decodeAck_eq_ok_iff.mp hbody
    refine ⟨trivial, ?_⟩
    intro _
    rw [encode, encodeAck]
  | error =>
    obtain ⟨high, low, text, back, rfl, htext, rfl⟩ := decodeError_eq_ok_iff.mp hbody
    refine ⟨Bytes.zero_not_mem_lenientText htext, ?_⟩
    intro hopcode
    exact absurd rfl hopcode

/-- Exactly the packets without a zero character in a text and without an overlong payload come back
as they were written. -/
theorem decode_encode_iff (packet : Packet) :
    decode packet.encode = .ok packet ↔ packet.IsFaithful :=
  ⟨fun h ↦ (isFaithful_of_decode h).1, IsFaithful.decode_encode⟩

/-! ## The language -/

/-- A byte string that can stand as a text in a request. -/
structure IsField (bytes : Bytes) : Prop where
  valid : bytes.toByteArray.IsValidUTF8
  zero_free : 0 ∉ bytes

/-- The datagrams of the format, given by their bytes. -/
inductive IsWellFormed : Bytes → Prop
  | request {opcode : UInt8} (isRequest : opcode = 1 ∨ opcode = 2) {filename modeText : Bytes}
      (hfilename : IsField filename) (hmodeText : IsField modeText) :
      IsWellFormed (0 :: opcode :: (filename ++ 0 :: (modeText ++ [0])))
  | data {body : Bytes} (least : 4 ≤ (0 :: 3 :: body).length)
      (greatest : (0 :: 3 :: body).length ≤ 516) : IsWellFormed (0 :: 3 :: body)
  | ack {body : Bytes} (length : (0 :: 4 :: body).length = 4) : IsWellFormed (0 :: 4 :: body)
  | error {body : Bytes} (least : 5 ≤ (0 :: 5 :: body).length)
      (terminated : ∃ offset, 4 ≤ offset ∧ (0 :: 5 :: body)[offset]? = some 0) :
      IsWellFormed (0 :: 5 :: body)

/-- The first two bytes are a number that is no opcode. -/
def BeginsUnknown (number : UInt16) (datagram : Bytes) : Prop :=
  (number.toNat < 1 ∨ 5 < number.toNat) ∧ ∃ high low body,
    datagram = high :: low :: body ∧ number.toNat = 256 * high.toNat + low.toNat

theorem isField_ofText {text : String} (h : '\x00' ∉ text.toList) : IsField (Bytes.ofText text) where
  valid := Bytes.exists_text?_iff.mp ⟨text, Bytes.text?_ofText text⟩
  zero_free := Bytes.zero_not_mem_ofText h

theorem IsField.exists_text {bytes : Bytes} (h : IsField bytes) :
    ∃ text, '\x00' ∉ text.toList ∧ Bytes.ofText text = bytes := by
  obtain ⟨text, htext⟩ := Bytes.exists_text?_iff.mpr h.valid
  have hbytes := Bytes.ofText_eq_of_text? htext
  refine ⟨text, ?_, hbytes⟩
  intro hzero
  exact h.zero_free (hbytes ▸ Bytes.zero_mem_ofText hzero)

theorem exists_decodeRequest_iff :
    (∃ request, decodeRequest body = .ok request) ↔ ∃ filename modeText,
      IsField filename ∧ IsField modeText ∧ body = filename ++ 0 :: (modeText ++ [0]) := by
  constructor
  · rintro ⟨request, h⟩
    obtain ⟨⟨hfilename, hmode⟩, hbody⟩ := decodeRequest_eq_ok_iff.mp h
    exact ⟨_, _, isField_ofText hfilename, isField_ofText hmode, hbody⟩
  · rintro ⟨filenameBytes, modeBytes, hfirst, hsecond, rfl⟩
    obtain ⟨filename, hfilename, rfl⟩ := hfirst.exists_text
    obtain ⟨modeText, hmode, rfl⟩ := hsecond.exists_text
    exact ⟨⟨filename, modeText⟩, decodeRequest_append hfilename hmode⟩

theorem exists_decodeData_iff :
    (∃ packet, decodeData body = .ok packet) ↔ 2 ≤ body.length ∧ body.length ≤ 514 := by
  constructor
  · rintro ⟨packet, h⟩
    obtain ⟨block, payload, -, hlength, rfl⟩ := decodeData_eq_ok_iff.mp h
    rw [List.length_append, Bytes.length_ofWord]
    unfold blockSize at hlength
    omega
  · rintro ⟨hleast, hgreatest⟩
    match body, hleast, hgreatest with
    | high :: low :: payload, _, hgreatest =>
      refine ⟨.data (Bytes.word high low) payload, decodeData_eq_ok_iff.mpr ⟨_, _, rfl, ?_, ?_⟩⟩
      · simp only [List.length_cons] at hgreatest
        unfold blockSize
        omega
      · rw [Bytes.ofWord_word, List.cons_append, List.cons_append, List.nil_append]

theorem exists_decodeAck_iff :
    (∃ packet, decodeAck body = .ok packet) ↔ body.length = 2 := by
  constructor
  · rintro ⟨packet, h⟩
    obtain ⟨block, -, rfl⟩ := decodeAck_eq_ok_iff.mp h
    exact Bytes.length_ofWord block
  · intro hlength
    match body, hlength with
    | [high, low], _ =>
      exact ⟨.ack (Bytes.word high low),
        decodeAck_eq_ok_iff.mpr ⟨_, rfl, (Bytes.ofWord_word high low).symm⟩⟩

theorem exists_decodeError_iff :
    (∃ packet, decodeError body = .ok packet) ↔ ∃ offset, 2 ≤ offset ∧ body[offset]? = some 0 := by
  constructor
  · rintro ⟨packet, h⟩
    obtain ⟨high, low, text, back, rfl, -, -⟩ := decodeError_eq_ok_iff.mp h
    refine ⟨text.length + 2, Nat.le_add_left _ _, ?_⟩
    rw [List.getElem?_cons_succ, List.getElem?_cons_succ, List.getElem?_append_right (Nat.le_refl _),
      Nat.sub_self, List.getElem?_cons_zero]
  · rintro ⟨offset, hoffset, hzero⟩
    match body, offset, hoffset, hzero with
    | high :: low :: rest, offset + 2, _, hzero =>
      rw [List.getElem?_cons_succ, List.getElem?_cons_succ] at hzero
      have hmem : 0 ∈ rest := List.mem_of_getElem? hzero
      cases hsplit : Bytes.splitAtZero? rest with
      | none => exact absurd hmem (Bytes.splitAtZero?_eq_none_iff.mp hsplit)
      | some parts =>
        obtain ⟨hrest, htext⟩ := Bytes.eq_of_splitAtZero? hsplit
        exact ⟨_, decodeError_eq_ok_iff.mpr ⟨high, low, _, _, by rw [hrest], htext, rfl⟩⟩
    | [high], offset + 2, _, hzero => cases hzero

theorem exists_map_decodeRequest_iff {make : FileRequest → Packet} :
    (∃ packet, (decodeRequest body).map make = .ok packet) ↔
      ∃ request, decodeRequest body = .ok request := by
  cases decodeRequest body with
  | error defect => simp [Except.map]
  | ok request => simp [Except.map]

/-- Exactly the datagrams of the format are read. -/
theorem exists_decode_iff :
    (∃ packet, decode datagram = .ok packet) ↔ IsWellFormed datagram := by
  constructor
  · rintro ⟨packet, h⟩
    obtain ⟨opcode, body, rfl, hbody⟩ := decode_eq_ok_iff.mp h
    cases opcode with
    | readRequest =>
      obtain ⟨filename, modeText, hfilename, hmode, rfl⟩ :=
        exists_decodeRequest_iff.mp (exists_map_decodeRequest_iff.mp ⟨packet, hbody⟩)
      exact .request (.inl rfl) hfilename hmode
    | writeRequest =>
      obtain ⟨filename, modeText, hfilename, hmode, rfl⟩ :=
        exists_decodeRequest_iff.mp (exists_map_decodeRequest_iff.mp ⟨packet, hbody⟩)
      exact .request (.inr rfl) hfilename hmode
    | data =>
      obtain ⟨hleast, hgreatest⟩ := exists_decodeData_iff.mp ⟨packet, hbody⟩
      exact .data (Nat.add_le_add_right hleast 2) (Nat.add_le_add_right hgreatest 2)
    | acknowledgment =>
      exact .ack (congrArg (· + 2) (exists_decodeAck_iff.mp ⟨packet, hbody⟩))
    | error =>
      obtain ⟨offset, hoffset, hzero⟩ := exists_decodeError_iff.mp ⟨packet, hbody⟩
      have hlength : offset < body.length := (List.getElem?_eq_some_iff.mp hzero).1
      have hleast : 5 ≤ body.length + 2 := by omega
      exact .error hleast ⟨offset + 2, Nat.add_le_add_right hoffset 2, hzero⟩
  · intro h
    have hread : ∀ (opcode : Opcode) (body : Bytes),
        (∃ packet, decodeBody opcode body = .ok packet) →
          ∃ packet, decode (Bytes.ofWord opcode.number ++ body) = .ok packet :=
      fun opcode body ⟨packet, hbody⟩ ↦ ⟨packet, decode_eq_ok_iff.mpr ⟨opcode, body, rfl, hbody⟩⟩
    cases h with
    | request isRequest hfilename hmode =>
      have hbody := exists_decodeRequest_iff.mpr ⟨_, _, hfilename, hmode, rfl⟩
      rcases isRequest with rfl | rfl
      · exact hread .readRequest _ (exists_map_decodeRequest_iff.mpr hbody)
      · exact hread .writeRequest _ (exists_map_decodeRequest_iff.mpr hbody)
    | data least greatest =>
      simp only [List.length_cons] at least greatest
      apply hread .data
      exact exists_decodeData_iff.mpr ⟨by omega, by omega⟩
    | ack length =>
      simp only [List.length_cons] at length
      apply hread .acknowledgment
      exact exists_decodeAck_iff.mpr (by omega)
    | error least terminated =>
      obtain ⟨offset, hoffset, hzero⟩ := terminated
      apply hread .error
      apply exists_decodeError_iff.mpr
      match offset, hoffset, hzero with
      | offset + 2, hoffset, hzero => exact ⟨offset, by omega, hzero⟩

theorem toNat_word (high low : UInt8) :
    (Bytes.word high low).toNat = 256 * high.toNat + low.toNat := by
  have hhigh := high.toNat_lt
  have hlow := low.toNat_lt
  rw [Bytes.word, UInt16.toNat_ofNat', Nat.mod_eq_of_lt (by omega), Nat.mul_comm]

theorem decode_eq_unknownOpcode_iff {number : UInt16} :
    decode datagram = .error (.unknownOpcode number) ↔ BeginsUnknown number datagram := by
  constructor
  · intro h
    unfold decode at h
    repeat' split at h
    next high low body _ hopcode =>
      cases h
      exact ⟨Opcode.ofNumber?_eq_none_iff.mp hopcode, high, low, body, rfl, toNat_word high low⟩
    next high low body _ opcode hopcode =>
      cases hbody : decodeBody opcode body with
      | error defect =>
        rw [hbody] at h
        cases h
      | ok packet =>
        rw [hbody] at h
        cases h
    next => cases h
  · rintro ⟨hnumber, high, low, body, rfl, hword⟩
    have hnumber' : Bytes.word high low = number :=
      UInt16.toNat_inj.mp ((toNat_word high low).trans hword.symm)
    have hopcode := Opcode.ofNumber?_eq_none_iff.mpr hnumber
    simp only [decode, hnumber', hopcode]

theorem exists_malformed_iff :
    (∃ defect, decode datagram = .error (.malformed defect)) ↔
      ¬ IsWellFormed datagram ∧ ∀ number, ¬ BeginsUnknown number datagram := by
  simp only [← exists_decode_iff, ← decode_eq_unknownOpcode_iff]
  rcases decode datagram with (number | defect) | packet
  · simp
  · simp
  · simp

/-- Every byte string begins with an unknown opcode, or it is a datagram of the format, or it is
malformed. What is read is written in the same way again, except for an error notice, which is read
again as it was. -/
theorem decode_trichotomy (datagram : Bytes) :
    (∀ number, decode datagram = .error (.unknownOpcode number) ↔
      BeginsUnknown number datagram) ∧
    ((∃ packet, decode datagram = .ok packet) ↔ IsWellFormed datagram) ∧
    ((∃ defect, decode datagram = .error (.malformed defect)) ↔
      ¬ IsWellFormed datagram ∧ ∀ number, ¬ BeginsUnknown number datagram) ∧
    ∀ packet, decode datagram = .ok packet →
      (packet.opcode ≠ .error → packet.encode = datagram) ∧
        (packet.opcode = .error → decode packet.encode = .ok packet) := by
  refine ⟨fun _ ↦ decode_eq_unknownOpcode_iff, exists_decode_iff, exists_malformed_iff, ?_⟩
  intro packet h
  obtain ⟨faithful, canonical⟩ := isFaithful_of_decode h
  exact ⟨canonical, fun _ ↦ faithful.decode_encode⟩

end Packet

end Lockstep
