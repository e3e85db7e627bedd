import Lockstep.Contents
import Lockstep.SystemError

/-!
# Scripted streams

Sources and sinks in memory that misbehave on demand: they move their bytes in small pieces and
fail at a given place.
-/

namespace Lockstep

/-- A sink that keeps what it is given. -/
structure Sink where
  written : Contents := {}
  size : Nat := 0
  flushes : Nat := 0
  /-- No more bytes than these are taken. -/
  capacity : Option Nat := none
  /-- How many bytes one call takes at most. -/
  piece : Option Nat := none
  failure : SystemError := .wroteNothing
  flushFailure : Option SystemError := none

namespace Sink

/-- How many of `count` bytes the sink takes before it fails. -/
def accepted (sink : Sink) (count : Nat) : Nat :=
  if sink.piece = some 0 then 0
  else match sink.capacity with
    | none => count
    | some capacity => min count (capacity - sink.size)

/-- Why the sink takes no more: because it is full, or because it never takes anything. -/
def refusal (sink : Sink) : SystemError :=
  if sink.capacity.isSome then sink.failure else .wroteNothing

def write (sink : Sink) (chunk : Bytes) : Except SystemError Unit × Sink :=
  let count := sink.accepted chunk.length
  let sink :=
    { sink with written := sink.written.append (chunk.take count), size := sink.size + count }
  (if count < chunk.length then .error sink.refusal else .ok (), sink)

def flush (sink : Sink) : Except SystemError Unit × Sink :=
  (match sink.flushFailure with
    | some error => .error error
    | none => .ok (),
   { sink with flushes := sink.flushes + 1 })

end Sink

/-- A source that yields given bytes. -/
structure Source where
  data : ByteArray := ByteArray.empty
  /-- How many bytes were taken. -/
  offset : Nat := 0
  /-- How many bytes one call yields at most. -/
  piece : Option Nat := none
  /-- Calls fail from this offset on. -/
  brokenFrom : Option Nat := none
  failure : SystemError := ⟨.other, "source failed"⟩

namespace Source

/-- How many of `count` bytes the next call yields; none at the end. -/
def yield (source : Source) (count : Nat) : Nat :=
  let left := min count (source.data.size - source.offset)
  let left := (source.piece.map (min left ·)).getD left
  (source.brokenFrom.map fun limit => min left (limit - source.offset)).getD left

def isBroken (source : Source) : Bool :=
  source.brokenFrom.any (source.offset ≥ ·)

/-- One call. -/
def read (source : Source) (count : Nat) : Except SystemError Bytes × Source :=
  if source.isBroken then (.error source.failure, source)
  else
    let count := source.yield count
    (.ok (source.data.extract source.offset (source.offset + count)).data.toList,
      { source with offset := source.offset + count })

/-- As many calls as it takes to get `count` bytes, or to reach the end.  Each call that does not
end the search yields something, so no more than `fuel` calls are made. -/
def readFully (source : Source) (count : Nat) : Nat → Except SystemError Bytes × Source
  | 0 => (.ok [], source)
  | fuel + 1 =>
    if count = 0 then (.ok [], source)
    else match source.read count with
      | (.error error, source) => (.error error, source)
      | (.ok [], source) => (.ok [], source)
      | (.ok (first :: others), source) =>
        let chunk := first :: others
        let (rest, source) := source.readFully (count - chunk.length) fuel
        (rest.map (chunk ++ ·), source)

def fill (source : Source) (count : Nat) : Except SystemError Bytes × Source :=
  source.readFully count count

def drain (source : Source) : Except SystemError Bytes × Source :=
  let count := source.data.size - source.offset + 1
  source.readFully count count

end Source

end Lockstep
