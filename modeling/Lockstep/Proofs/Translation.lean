import Lockstep.Netascii
import Lockstep.Packet

/-!
# Translation between a file and its stream

What a mode makes of a file on its way into a stream of blocks, and what the reader at the other
end makes of the stream again. The reader may be stopped anywhere: what it has settled by then is
the beginning of what it settles in the end, whatever follows.
-/

namespace Lockstep

namespace Netascii

namespace Decoder

/-- A stream that comes in two pieces is read like the whole. -/
theorem feed_append (decoder : Decoder) (first second : Bytes) :
    decoder.feed (first ++ second) =
      ((decoder.feed first).1 ++ ((decoder.feed first).2.feed second).1,
        ((decoder.feed first).2.feed second).2) := by
  induction first generalizing decoder with
  | nil => rfl
  | cons byte rest ih => simp only [List.cons_append, feed, ih, List.append_assoc]

/-- A byte that was written is read back, and nothing is held back behind it. -/
theorem feed_encodeByte (byte : UInt8) : feed {} (encodeByte byte) = ([byte], {}) := by
  by_cases hreturn : byte = carriageReturn
  · subst hreturn
    rfl
  · by_cases hfeed : byte = lineFeed
    · subst hfeed
      rfl
    · simp [encodeByte, hreturn, hfeed, feed, step]

theorem feed_encode (bytes : Bytes) : feed {} (encode bytes) = (bytes, {}) := by
  induction bytes with
  | nil => rfl
  | cons byte rest ih =>
    rw [encode, List.flatMap_cons, feed_append, feed_encodeByte]
    change ([byte] ++ (feed {} (encode rest)).1, (feed {} (encode rest)).2) = _
    rw [ih]
    rfl

end Decoder

end Netascii

namespace Mode

open Netascii

/-- The stream that a file becomes. -/
def wire (mode : Mode) (content : Bytes) : Bytes :=
  match mode with
  | .octet => content
  | .netascii => Netascii.encode content

/-- What the reader has settled after the beginning of a stream, and the reader itself. -/
def read (mode : Mode) (stream : Bytes) : Bytes × Decoder :=
  match mode with
  | .octet => (stream, {})
  | .netascii => Decoder.feed {} stream

/-- What a further piece of the stream settles. -/
def readMore (mode : Mode) (decoder : Decoder) (piece : Bytes) : Bytes × Decoder :=
  match mode with
  | .octet => (piece, decoder)
  | .netascii => decoder.feed piece

theorem read_nil (mode : Mode) : mode.read [] = ([], {}) := by
  cases mode <;> rfl

theorem read_append (mode : Mode) (first second : Bytes) :
    mode.read (first ++ second) =
      ((mode.read first).1 ++ (mode.readMore (mode.read first).2 second).1,
        (mode.readMore (mode.read first).2 second).2) := by
  cases mode with
  | octet => rfl
  | netascii => exact Decoder.feed_append _ _ _

theorem read_wire (mode : Mode) (content : Bytes) : mode.read (mode.wire content) = (content, {}) := by
  cases mode with
  | octet => rfl
  | netascii => exact Decoder.feed_encode content

/-- What is settled at any time is the beginning of the file. -/
theorem read_take_prefix (mode : Mode) (content : Bytes) (count : Nat) :
    (mode.read ((mode.wire content).take count)).1 <+: content := by
  have hwhole := read_wire mode content
  rw [← List.take_append_drop count (mode.wire content), read_append] at hwhole
  exact ⟨_, congrArg Prod.fst hwhole⟩

end Mode

end Lockstep
