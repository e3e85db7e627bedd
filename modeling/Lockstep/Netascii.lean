import Lockstep.Bytes

/-!
# Netascii

In the text mode a line feed travels as carriage return and line feed, and a carriage return as
carriage return and zero.  Writing is total and needs no state.  Reading accepts every byte string:
a carriage return before any other byte stands for itself.  Since a transfer cuts the stream at
arbitrary places, the reader keeps back a carriage return that ends a piece until it sees the next
byte.
-/

namespace Lockstep.Netascii

def lineFeed : UInt8 := 10

def carriageReturn : UInt8 := 13

def encodeByte (byte : UInt8) : Bytes :=
  if byte = carriageReturn then [carriageReturn, 0]
  else if byte = lineFeed then [carriageReturn, lineFeed]
  else [byte]

def encode (bytes : Bytes) : Bytes :=
  bytes.flatMap encodeByte

/-- A reader between two pieces of the stream. -/
structure Decoder where
  /-- The last byte was a carriage return whose meaning is still open. -/
  heldReturn : Bool := false
deriving DecidableEq, Repr

namespace Decoder

/-- What one more byte settles. -/
def step (decoder : Decoder) (byte : UInt8) : Bytes × Decoder :=
  if decoder.heldReturn then
    if byte = lineFeed then ([lineFeed], ⟨false⟩)
    else if byte = 0 then ([carriageReturn], ⟨false⟩)
    else if byte = carriageReturn then ([carriageReturn], ⟨true⟩)
    else ([carriageReturn, byte], ⟨false⟩)
  else if byte = carriageReturn then ([], ⟨true⟩)
  else ([byte], ⟨false⟩)

/-- What a further piece of the stream settles. -/
def feed (decoder : Decoder) : Bytes → Bytes × Decoder
  | [] => ([], decoder)
  | byte :: rest =>
    let (settled, next) := decoder.step byte
    let (others, last) := next.feed rest
    (settled ++ others, last)

/-- What the end of the stream settles. -/
def finish (decoder : Decoder) : Bytes × Decoder :=
  (if decoder.heldReturn then [carriageReturn] else [], ⟨false⟩)

end Decoder

/-- The reading of a whole stream. -/
def decode (bytes : Bytes) : Bytes :=
  let (settled, decoder) := Decoder.feed {} bytes
  settled ++ decoder.finish.1

end Lockstep.Netascii
