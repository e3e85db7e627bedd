import Lockstep.Bytes

/-!
# Contents

The bytes of a file or a stream that grows at its end.  They are kept in the pieces in which they
came, so that adding a piece is cheap; what counts is the list of all bytes.
-/

namespace Lockstep

structure Contents where
  /-- The pieces, the newest first. -/
  pieces : List ByteArray := []

namespace Contents

/-- The pieces put together. -/
def toByteArray (contents : Contents) : ByteArray :=
  match contents.pieces with
  | [piece] => piece
  | pieces => pieces.reverse.foldl (· ++ ·) ByteArray.empty

def toBytes (contents : Contents) : Bytes :=
  contents.toByteArray.data.toList

def size (contents : Contents) : Nat :=
  contents.pieces.foldr (fun piece total => piece.size + total) 0

def ofByteArray (bytes : ByteArray) : Contents :=
  ⟨[bytes]⟩

def append (contents : Contents) (bytes : Bytes) : Contents :=
  if bytes.isEmpty then contents else ⟨bytes.toByteArray :: contents.pieces⟩

/-- The same bytes in one piece. -/
def pack (contents : Contents) : Contents :=
  ⟨[contents.toByteArray]⟩

/-- Up to `count` bytes from `offset` on. -/
def slice (contents : Contents) (offset count : Nat) : Bytes :=
  (contents.toByteArray.extract offset (offset + count)).data.toList

end Contents

end Lockstep
