import Lockstep.Alteration
import Lockstep.Proofs.Texts

/-!
# Altered requests

The operations on the opcode, the mode and the filename of a request each replace one field and
leave the others as they are, although each of them has to find its field again in what the others
have made of the datagram. This rests on the filename ending at the first zero byte: the mode is
rewritten behind a filename that has none, and the new filename, which may have some, comes last.

A new filename can be put into anything. The first two bytes stay, and so does whatever stands behind
the first zero byte after them, whether or not it belongs to a request.
-/

namespace Lockstep

namespace Bytes

/-- A field ends at the first zero byte. -/
theorem splitAtZero?_eq (bytes : Bytes) :
    splitAtZero? bytes =
      (bytes.findIdx? (· == 0)).map fun place ↦ (bytes.take place, bytes.drop (place + 1)) := by
  induction bytes with
  | nil => rfl
  | cons byte rest ih =>
    by_cases zero : byte = 0
    · simp [splitAtZero?, List.findIdx?_cons, zero]
    · simp only [splitAtZero?, List.findIdx?_cons, zero, if_false, ih, beq_iff_eq, Option.map_map]
      rfl

/-- What stands behind the first zero byte at or after `start`; nothing if there is none. -/
def behindZero (bytes : Bytes) (start : Nat) : Bytes :=
  (bytes.zeroFrom? start).elim [] fun place ↦ bytes.drop (place + 1)

end Bytes

namespace Alteration

/-! ## Fields -/

/-- A request, or what has become of one: a number, a filename, and what stands behind its end. -/
def frame (number : UInt16) (filename : String) (rest : Bytes) : Bytes :=
  Bytes.ofWord number ++ Bytes.ofText filename ++ 0 :: rest

section

variable (number other : UInt16) (filename text : String) (rest datagram : Bytes)

theorem putOpcode_frame :
    putOpcode other (frame number filename rest) = frame other filename rest := by
  simp [putOpcode, frame, Bytes.extend, Bytes.ofWord]

theorem header_frame : header (frame number filename rest) = Bytes.ofWord number := by
  simp [header, frame, Bytes.extend, Bytes.ofWord]

variable {filename} in
theorem splitFilename_frame (h : '\x00' ∉ filename.toList) :
    splitFilename (frame number filename rest) = (Bytes.ofText filename, some rest) := by
  have body : (frame number filename rest).drop 2 = Bytes.ofText filename ++ 0 :: rest := by
    rw [frame, List.append_assoc]
    exact List.drop_left' (Bytes.length_ofWord number)
  unfold splitFilename
  dsimp only
  rw [body, Bytes.splitAtZero?_append_cons (Bytes.zero_not_mem_ofText h)]

variable {filename} in
theorem putMode_frame (h : '\x00' ∉ filename.toList) :
    putMode text (frame number filename rest) =
      frame number filename (Bytes.ofText text ++ [0]) := by
  rw [putMode, header_frame, splitFilename_frame number rest h, frame]

variable {filename} in
theorem putFilename_frame (h : '\x00' ∉ filename.toList) :
    putFilename text (frame number filename rest) = frame number text rest := by
  rw [putFilename, header_frame, splitFilename_frame number rest h, frame]
  rfl

end

/-! ## Anything else -/

theorem header_eq (datagram : Bytes) :
    header datagram = [datagram.getD 0 0, datagram.getD 1 0] := by
  match datagram with
  | [] | [_] | _ :: _ :: _ => rfl

theorem rest_splitFilename (datagram : Bytes) :
    (splitFilename datagram).2.getD [] = datagram.behindZero 2 := by
  unfold splitFilename Bytes.behindZero Bytes.zeroFrom?
  dsimp only
  rw [Bytes.splitAtZero?_eq]
  cases List.findIdx? (· == 0) (List.drop 2 datagram) with
  | none => rfl
  | some place => simp [Nat.add_assoc]

theorem putFilename_eq (text : String) (datagram : Bytes) :
    putFilename text datagram =
      [datagram.getD 0 0, datagram.getD 1 0] ++ Bytes.ofText text ++ 0 :: datagram.behindZero 2 := by
  rw [putFilename, header_eq, rest_splitFilename]

/-! ## All operations -/

variable (alteration : Alteration)

/-- Of the operations that change bytes, there are at most those on the fields of a request. -/
structure OnlyRewrites : Prop where
  byte : alteration.byte = none
  block : alteration.block = none
  size : alteration.size = none

/-- The request with the new texts in the place of the old ones. -/
def rewritten (request : FileRequest) : FileRequest :=
  ⟨alteration.filename.getD request.filename, alteration.mode.getD request.modeText⟩

variable {alteration}

theorem OnlyRewrites.apply_eq (only : alteration.OnlyRewrites) (datagram : Bytes) :
    alteration.apply datagram =
      optionally putFilename alteration.filename
        (optionally putMode alteration.mode (optionally putOpcode alteration.opcode datagram)) := by
  rw [apply, only.byte, only.block, only.size]
  rfl

theorem apply_frame (only : alteration.OnlyRewrites) {filename : String}
    (h : '\x00' ∉ filename.toList) (number : UInt16) (modeText : String) :
    alteration.apply (frame number filename (Bytes.ofText modeText ++ [0])) =
      frame (alteration.opcode.getD number) (alteration.filename.getD filename)
        (Bytes.ofText (alteration.mode.getD modeText) ++ [0]) := by
  have coded : optionally putOpcode alteration.opcode
      (frame number filename (Bytes.ofText modeText ++ [0])) =
        frame (alteration.opcode.getD number) filename (Bytes.ofText modeText ++ [0]) := by
    cases alteration.opcode with
    | none => rfl
    | some other => exact putOpcode_frame ..
  have translated (number : UInt16) : optionally putMode alteration.mode
      (frame number filename (Bytes.ofText modeText ++ [0])) =
        frame number filename (Bytes.ofText (alteration.mode.getD modeText) ++ [0]) := by
    cases alteration.mode with
    | none => rfl
    | some text => exact putMode_frame number text _ h
  have renamed (number : UInt16) (rest : Bytes) :
      optionally putFilename alteration.filename (frame number filename rest) =
        frame number (alteration.filename.getD filename) rest := by
    cases alteration.filename with
    | none => rfl
    | some text => exact putFilename_frame number text rest h
  rw [only.apply_eq, coded, translated, renamed]

theorem encode_request (role : Role) (request : FileRequest) :
    (role.request request).encode =
      frame (role.request request).opcode.number request.filename
        (Bytes.ofText request.modeText ++ [0]) := by
  cases role <;> rfl

/-- A new filename is put between the first two bytes of whatever the other operations have made of
the datagram, and what stands behind the first zero byte there. -/
theorem apply_filename (filename : alteration.filename = none) (size : alteration.size = none)
    (text : String) (datagram : Bytes) :
    { alteration with filename := some text }.apply datagram =
      [(alteration.apply datagram).getD 0 0, (alteration.apply datagram).getD 1 0] ++
        Bytes.ofText text ++ 0 :: (alteration.apply datagram).behindZero 2 := by
  rw [← putFilename_eq]
  unfold apply
  rw [filename, size]
  rfl

/-- A request is altered field by field, and if it still is a request it is read as the one with the
new fields. A filename can be put into every datagram. -/
theorem rewrites_fields :
    (∀ (alteration : Alteration) (role : Role) (request : FileRequest),
      alteration.OnlyRewrites → '\x00' ∉ request.filename.toList →
        alteration.apply (role.request request).encode =
          Bytes.ofWord (alteration.opcode.getD (role.request request).opcode.number) ++
            Bytes.ofText (alteration.filename.getD request.filename) ++
            0 :: (Bytes.ofText (alteration.mode.getD request.modeText) ++ [0]) ∧
        ∀ next : Role,
          alteration.opcode.getD (role.request request).opcode.number =
            (next.request (alteration.rewritten request)).opcode.number →
          '\x00' ∉ (alteration.rewritten request).filename.toList →
          '\x00' ∉ (alteration.rewritten request).modeText.toList →
          Packet.decode (alteration.apply (role.request request).encode) =
            .ok (next.request (alteration.rewritten request))) ∧
    ∀ (alteration : Alteration) (text : String) (datagram : Bytes),
      alteration.filename = none → alteration.size = none →
        { alteration with filename := some text }.apply datagram =
          [(alteration.apply datagram).getD 0 0, (alteration.apply datagram).getD 1 0] ++
            Bytes.ofText text ++ 0 :: (alteration.apply datagram).behindZero 2 := by
  refine ⟨fun alteration role request only terminated ↦ ?_,
    fun _ text datagram filename size ↦ apply_filename filename size text datagram⟩
  have applied : alteration.apply (role.request request).encode =
      frame (alteration.opcode.getD (role.request request).opcode.number)
        (alteration.filename.getD request.filename)
        (Bytes.ofText (alteration.mode.getD request.modeText) ++ [0]) := by
    rw [encode_request, apply_frame only terminated]
  refine ⟨applied, fun next number filename modeText ↦ ?_⟩
  calc Packet.decode (alteration.apply (role.request request).encode)
    _ = Packet.decode (next.request (alteration.rewritten request)).encode := by
      rw [applied, encode_request, ← number]
      rfl
    _ = .ok (next.request (alteration.rewritten request)) :=
      Packet.decode_request next filename modeText

/-- A request to read becomes one to write another file in another mode, and a single byte becomes
the beginning of a request. -/
theorem rewrites_fields_small :
    let alteration : Alteration :=
      { direction := .clientToServer, target := .request, opcode := some 2, mode := some "mail" }
    let renamer : Alteration := { alteration with filename := some "b" }
    renamer.OnlyRewrites ∧
      renamer.apply (Packet.readRequest ⟨"a", "octet"⟩).encode =
        [0, 2, 98, 0, 109, 97, 105, 108, 0] ∧
      Packet.decode (renamer.apply (Packet.readRequest ⟨"a", "octet"⟩).encode) =
        .ok (.writeRequest ⟨"b", "mail"⟩) ∧
      alteration.filename = none ∧ alteration.size = none ∧
      renamer.apply [7] = [0, 2, 98, 0, 109, 97, 105, 108, 0] := by
  intro alteration renamer
  have only : renamer.OnlyRewrites := ⟨rfl, rfl, rfl⟩
  obtain ⟨applied, read⟩ := rewrites_fields.1 renamer .receiver ⟨"a", "octet"⟩ only (by decide)
  refine ⟨only, applied.trans (by decide), ?_, rfl, rfl, ?_⟩
  · exact read .sender (by decide) (by decide) (by decide)
  · exact (rewrites_fields.2 alteration "b" [7] rfl rfl).trans (by decide)

end Alteration

end Lockstep
