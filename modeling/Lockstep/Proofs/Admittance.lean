import Lockstep.Proofs.Legibility
import Mathlib.Data.List.Forall2

/-!
# What a server admits

A datagram is admitted as a request exactly if it was written from one: from a request to read, if
the server is to send, and from one to write, if it is to receive. The mode must be spelled like one
of the two modes, in letters of any case, and the filename must be a plain name. Whatever else
arrives is called an illegal operation, in words that whoever receives them reads as they were
written.
-/

namespace Lockstep

/-! ## Letters of any case -/

theorem toNat_toLower (character : Char) : character.toLower.toNat =
    if 65 ≤ character.toNat ∧ character.toNat ≤ 90 then character.toNat + 32
    else character.toNat := by
  have hcapital : (character.val ≥ 'A'.val ∧ character.val ≤ 'Z'.val) ↔
      65 ≤ character.toNat ∧ character.toNat ≤ 90 := Iff.rfl
  unfold Char.toLower
  by_cases h : 65 ≤ character.toNat ∧ character.toNat ≤ 90
  · rw [dif_pos (hcapital.mpr h), if_pos h]
    change (character.val + 32).toNat = character.toNat + 32
    rw [UInt32.toNat_add]
    exact Nat.mod_eq_of_lt (Nat.lt_of_le_of_lt (Nat.add_le_add_right h.2 32) (by decide))
  · rw [dif_neg (mt hcapital.mp h), if_neg h]

theorem toNat_toUpper (character : Char) : character.toUpper.toNat =
    if 97 ≤ character.toNat ∧ character.toNat ≤ 122 then character.toNat - 32
    else character.toNat := by
  have hsmall : ('a'.val ≤ character.val ∧ character.val ≤ 'z'.val) ↔
      97 ≤ character.toNat ∧ character.toNat ≤ 122 := Iff.rfl
  unfold Char.toUpper
  by_cases h : 97 ≤ character.toNat ∧ character.toNat ≤ 122
  · rw [dif_pos (hsmall.mpr h), if_pos h]
    -- the distance of the capitals is added in 32 bits, where it stands for a subtraction
    have hdistance : ('A'.val - 'a'.val).toNat = 2 ^ 32 - 32 := by decide
    change (character.val + ('A'.val - 'a'.val)).toNat = character.val.toNat - 32
    change 97 ≤ character.val.toNat ∧ character.val.toNat ≤ 122 at h
    rw [UInt32.toNat_add, hdistance]
    omega
  · rw [dif_neg (mt hsmall.mp h), if_neg h]

theorem toLower_eq_iff {letter : Char} (small : 'a' ≤ letter ∧ letter ≤ 'z') (character : Char) :
    character.toLower = letter ↔ character = letter ∨ character = letter.toUpper := by
  have hsmall : 97 ≤ letter.toNat ∧ letter.toNat ≤ 122 := small
  simp only [← Char.toNat_inj, toNat_toLower, toNat_toUpper]
  split <;> omega

namespace Mode

/-- The text is the name of the mode, but that any of its letters may be a capital. -/
def IsSpelled (mode : Mode) (text : String) : Prop :=
  List.Forall₂ (fun character letter ↦ character = letter ∨ character = letter.toUpper)
    text.toList mode.name.toList

theorem small_of_mem_name (mode : Mode) :
    ∀ letter ∈ mode.name.toList, 'a' ≤ letter ∧ letter ≤ 'z' := by
  cases mode <;> simp [name]

theorem isSpelled_iff {mode : Mode} {text : String} :
    mode.IsSpelled text ↔ text.toList.map Char.toLower = mode.name.toList := by
  unfold IsSpelled
  rw [← List.forall₂_eq_eq_eq, List.forall₂_map_left_iff, List.forall₂_iff_zip,
    List.forall₂_iff_zip]
  refine and_congr_right fun _ ↦ forall_congr' fun character ↦ forall_congr' fun letter ↦ ?_
  refine imp_congr_right fun hmem ↦ ?_
  exact (toLower_eq_iff (mode.small_of_mem_name letter (List.of_mem_zip hmem).2) character).symm

theorem ofName?_eq_some_iff {text : String} {mode : Mode} :
    ofName? text = some mode ↔ mode.IsSpelled text := by
  have distinct : "octet".toList ≠ "netascii".toList := by decide
  rw [isSpelled_iff]
  unfold ofName?
  generalize text.toList.map Char.toLower = lowered
  constructor
  · intro h
    dsimp only at h
    split at h
    · next hoctet =>
      cases h
      exact hoctet
    · split at h
      · next hnetascii =>
        cases h
        exact hnetascii
      · cases h
  · rintro rfl
    cases mode with
    | octet => rfl
    | netascii => exact (if_neg distinct.symm).trans (if_pos rfl)

end Mode

/-! ## Plain names -/

namespace Filename

/-- The filename is the name of something in a directory, and shows as what it is. -/
structure IsPlain (filename : String) : Prop where
  ne_empty : filename ≠ ""
  ne_dot : filename ≠ "."
  ne_dotDot : filename ≠ ".."
  unreserved : ∀ character ∈ filename.toList, character ∉ reservedCharacters
  /-- No character is a control character: those are the ones below the blank and the ones from the
  deletion character on to below the blank that allows no break. -/
  uncontrolled : ∀ character ∈ filename.toList,
    0x20 ≤ character.toNat ∧ (character.toNat < 0x7F ∨ 0xA0 ≤ character.toNat)

theorem isControl_eq_false_iff {character : Char} : Text.isControl character = false ↔
    0x20 ≤ character.toNat ∧ (character.toNat < 0x7F ∨ 0xA0 ≤ character.toNat) := by
  unfold Text.isControl
  simp only [Bool.or_eq_false_iff, Bool.and_eq_false_iff, decide_eq_false_iff_not, Nat.not_lt,
    Nat.not_le]

theorem check_eq_ok_iff {filename : String} : check filename = .ok () ↔ IsPlain filename := by
  have hreserved : filename.toList.any isReserved = true ↔
      ∃ character ∈ filename.toList, character ∈ reservedCharacters := by
    simp only [List.any_eq_true, isReserved, List.contains_iff_mem]
  have hcontrol : filename.toList.any Text.isControl = true ↔
      ∃ character ∈ filename.toList, Text.isControl character = true := List.any_eq_true
  constructor
  · intro h
    unfold check at h
    repeat' split at h
    all_goals try cases h
    next nonempty noTraversal noReserved noControl =>
      rw [Bool.or_eq_true, decide_eq_true_eq, decide_eq_true_eq, not_or] at noTraversal
      exact {
        ne_empty := fun hempty ↦ nonempty (String.isEmpty_iff.mpr hempty)
        ne_dot := noTraversal.1
        ne_dotDot := noTraversal.2
        unreserved := fun character hmem reserved ↦
          noReserved (hreserved.mpr ⟨character, hmem, reserved⟩)
        uncontrolled := fun character hmem ↦ isControl_eq_false_iff.mp <|
          Bool.eq_false_iff.mpr fun control ↦
            noControl (hcontrol.mpr ⟨character, hmem, control⟩) }
  · rintro ⟨nonempty, noDot, noDotDot, unreserved, uncontrolled⟩
    unfold check
    rw [if_neg, if_neg, if_neg, if_neg]
    · rw [hcontrol]
      rintro ⟨character, hmem, control⟩
      rw [isControl_eq_false_iff.mpr (uncontrolled character hmem)] at control
      cases control
    · rw [hreserved]
      rintro ⟨character, hmem, reserved⟩
      exact unreserved character hmem reserved
    · rw [Bool.or_eq_true, decide_eq_true_eq, decide_eq_true_eq, not_or]
      exact ⟨noDot, noDotDot⟩
    · exact fun hempty ↦ nonempty (String.isEmpty_iff.mp hempty)

end Filename

/-! ## Requests -/

namespace Admission

/-- The datagram was written from the request, and the request is one that a server answers. -/
structure IsFor (admission : Admission) (datagram : Bytes) : Prop where
  /-- It is a request to read if the server sends, and one to write if the server receives. -/
  written : datagram = match admission.role with
    | .sender => (Packet.readRequest admission.request).encode
    | .receiver => (Packet.writeRequest admission.request).encode
  spelled : admission.mode.IsSpelled admission.request.modeText
  plain : Filename.IsPlain admission.request.filename

theorem ofRequest_eq_ok_iff {role : Role} {request : FileRequest} {admission : Admission} :
    ofRequest role request = .ok admission ↔
      (admission.role = role ∧ admission.request = request) ∧
        admission.mode.IsSpelled request.modeText ∧ Filename.IsPlain request.filename := by
  rw [← Mode.ofName?_eq_some_iff, ← Filename.check_eq_ok_iff]
  unfold ofRequest FileRequest.mode?
  constructor
  · intro h
    split at h
    · cases h
    · next mode hmode =>
      split at h
      · cases h
      · next hcheck =>
        cases h
        exact ⟨⟨rfl, rfl⟩, hmode, hcheck⟩
  · obtain ⟨role', request', mode⟩ := admission
    rintro ⟨⟨rfl, rfl⟩, hmode, hcheck⟩
    simp only [hmode, hcheck]

/-- The texts of a request that a server answers have no zero character. -/
theorem IsFor.zero_not_mem {admission : Admission} {datagram : Bytes}
    (h : admission.IsFor datagram) :
    '\x00' ∉ admission.request.filename.toList ∧ '\x00' ∉ admission.request.modeText.toList := by
  have hchecked := Filename.zero_not_mem_of_check (Filename.check_eq_ok_iff.mpr h.plain)
  refine ⟨hchecked, fun hzero ↦ ?_⟩
  have hname : '\x00' ∈ admission.mode.name.toList := by
    rw [← Mode.isSpelled_iff.mp h.spelled]
    exact List.mem_map_of_mem (f := Char.toLower) hzero
  exact admission.mode.zero_not_mem_name hname

theorem ofDatagram_eq_ok_iff {datagram : Bytes} {admission : Admission} :
    ofDatagram datagram = .ok admission ↔ admission.IsFor datagram := by
  constructor
  · intro h
    have hwritten := @Packet.isFaithful_of_decode datagram
    unfold ofDatagram at h
    split at h
    · cases h
    · next request hdecode =>
      obtain ⟨⟨hrole, rfl⟩, spelled, plain⟩ := ofRequest_eq_ok_iff.mp h
      refine ⟨?_, spelled, plain⟩
      rw [hrole]
      exact ((hwritten hdecode).2 nofun).symm
    · next request hdecode =>
      obtain ⟨⟨hrole, rfl⟩, spelled, plain⟩ := ofRequest_eq_ok_iff.mp h
      refine ⟨?_, spelled, plain⟩
      rw [hrole]
      exact ((hwritten hdecode).2 nofun).symm
    · cases h
  · intro h
    have htexts := h.zero_not_mem
    have hrequest := ofRequest_eq_ok_iff.mpr ⟨⟨rfl, rfl⟩, h.spelled, h.plain⟩
    obtain ⟨role, request, mode⟩ := admission
    have hwritten := h.written
    cases role with
    | sender =>
      have faithful : (Packet.readRequest request).IsFaithful := htexts
      have hdecode : Packet.decode datagram = .ok (.readRequest request) :=
        hwritten ▸ faithful.decode_encode
      rw [ofDatagram, hdecode]
      exact hrequest
    | receiver =>
      have faithful : (Packet.writeRequest request).IsFaithful := htexts
      have hdecode : Packet.decode datagram = .ok (.writeRequest request) :=
        hwritten ▸ faithful.decode_encode
      rw [ofDatagram, hdecode]
      exact hrequest

/-- A server admits exactly the requests that it answers, and says to all others, legibly, that they
are illegal. -/
theorem admits_exactly (datagram : Bytes) :
    (∀ admission, ofDatagram datagram = .ok admission ↔ admission.IsFor datagram) ∧
      ((∀ admission : Admission, ¬ admission.IsFor datagram) →
        ∃ refusal, ofDatagram datagram = .error refusal ∧
          refusal.notice.code = .illegalOperation ∧
            Packet.decode (Packet.error refusal.notice).encode = .ok (.error refusal.notice)) := by
  refine ⟨fun admission ↦ ofDatagram_eq_ok_iff, fun other ↦ ?_⟩
  cases hdatagram : ofDatagram datagram with
  | ok admission => exact absurd (ofDatagram_eq_ok_iff.mp hdatagram) (other admission)
  | error refusal =>
    have faithful : (Packet.error refusal.notice).IsFaithful := fitsField_of_refused hdatagram
    exact ⟨refusal, rfl, rfl, faithful.decode_encode⟩

end Admission

end Lockstep
