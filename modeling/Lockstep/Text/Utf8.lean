import Lockstep.Bytes

/-!
# Text in byte strings

Texts travel as UTF-8.  There is one way to write a text and there are two ways to read one: the
strict reading refuses every byte string that is not the encoding of a text, the lenient reading
always succeeds and puts U+FFFD in the place of each longest run of bytes that begins like a
character and does not end like it.
-/

namespace Lockstep.Bytes

def ofText (text : String) : Bytes :=
  text.toList.flatMap String.utf8EncodeChar

/-- The text that a byte string is the encoding of. -/
def text? (bytes : Bytes) : Option String :=
  String.fromUTF8? bytes.toByteArray

/-- The character whose encoding begins a byte string. -/
def leadingChar? (bytes : Bytes) : Option Char :=
  (bytes.take 4).toByteArray.utf8DecodeChar? 0

/-- The second bytes that can follow `first` in the encoding of a character. -/
def secondByteRange (first : UInt8) : UInt8 × UInt8 :=
  if first = 0xE0 then (0xA0, 0xBF)
  else if first = 0xED then (0x80, 0x9F)
  else if first = 0xF0 then (0x90, 0xBF)
  else if first = 0xF4 then (0x80, 0x8F)
  else (0x80, 0xBF)

/-- How many bytes the encodings that begin with `first` have; one if there are none. -/
def announcedLength (first : UInt8) : Nat :=
  if 0xC2 ≤ first ∧ first ≤ 0xDF then 2
  else if 0xE0 ≤ first ∧ first ≤ 0xEF then 3
  else if 0xF0 ≤ first ∧ first ≤ 0xF4 then 4
  else 1

/-- How many bytes a beginning that leads to no character spans: at least one, and beyond it those
that could still belong to the character its first byte announces. -/
def brokenLength : Bytes → Nat
  | first :: second :: rest =>
    let (least, greatest) := secondByteRange first
    if 2 ≤ announcedLength first ∧ least ≤ second ∧ second ≤ greatest then
      2 + ((rest.take (announcedLength first - 3)).takeWhile
        fun byte => 0x80 ≤ byte && byte ≤ 0xBF).length
    else 1
  | _ => 1

/-- The characters of the lenient reading; each round uses up at least one byte. -/
def lenientChars (bytes : Bytes) : List Char :=
  match bytes with
  | [] => []
  | first :: rest =>
    match leadingChar? (first :: rest) with
    | some character => character :: lenientChars (rest.drop (character.utf8Size - 1))
    | none => '\uFFFD' :: lenientChars (rest.drop (brokenLength (first :: rest) - 1))
termination_by bytes.length
decreasing_by all_goals simp only [List.length_drop, List.length_cons]; omega

def lenientText (bytes : Bytes) : String :=
  String.ofList (lenientChars bytes)

end Lockstep.Bytes
