import Lockstep.Machine
import Lockstep.Session.Turn
import Lockstep.Stream.Scripted

/-!
# Streams

The local end of a transfer: a file that is read, a file that is written, or a scripted stream.
Files are read and written through buffers of 8192 bytes, so a file that cannot be stored may show
it only when it is flushed.
-/

namespace Lockstep

def bufferSize : Nat := 8192

/-- A file that is read. -/
structure FileReader where
  handle : FileSystem.Handle
  /-- Where the next read of the file starts. -/
  offset : Nat := 0
  /-- Bytes that were read and not taken yet. -/
  buffer : Bytes := []

/-- A file that is written. -/
structure FileWriter where
  file : FileId
  /-- Bytes that were taken and not written yet. -/
  buffer : Bytes := []

inductive Stream where
  | sink (sink : Sink)
  | source (source : Source)
  | reader (reader : FileReader)
  | writer (writer : FileWriter)

namespace FileReader

/-- Takes `count` bytes, or what is left of the file.  Each read of the file that does not end it
yields something, so no more than `fuel` of them are made. -/
def fillWithin (reader : FileReader) (count : Nat) :
    Nat → Program (Except SystemError Bytes × FileReader)
  | 0 => return (.ok (reader.buffer.take count),
      { reader with buffer := reader.buffer.drop count })
  | fuel + 1 =>
    let ready := reader.buffer.take count
    if ready.length = count then
      return (.ok ready, { reader with buffer := reader.buffer.drop count })
    else do
      match ← Program.call (.readFile reader.handle reader.offset bufferSize) with
      | .error error => return (.error error, { reader with buffer := [] })
      | .ok [] => return (.ok ready, { reader with buffer := [] })
      | .ok chunk =>
        let reader := { reader with offset := reader.offset + chunk.length, buffer := chunk }
        let (rest, reader) ← reader.fillWithin (count - ready.length) fuel
        return (rest.map (ready ++ ·), reader)

def fill (reader : FileReader) (count : Nat) :
    Program (Except SystemError Bytes × FileReader) :=
  reader.fillWithin count (count + 1)

def drain (reader : FileReader) : Program (Except SystemError Bytes × FileReader) := do
  match ← Program.call (.readRest reader.handle reader.offset) with
  | .error error => return (.error error, { reader with buffer := [] })
  | .ok rest =>
    return (.ok (reader.buffer ++ rest),
      { reader with buffer := [], offset := reader.offset + rest.length })

end FileReader

namespace FileWriter

/-- Writes what is in the buffer; the buffer is empty afterwards. -/
def empty (writer : FileWriter) : Program (Except SystemError Unit × FileWriter) := do
  if writer.buffer.isEmpty then return (.ok (), writer)
  else
    let result ← Program.call (.appendFile writer.file writer.buffer)
    return (result, { writer with buffer := [] })

/-- Takes bytes into the buffer, which is emptied if they do not fit. -/
def write (writer : FileWriter) (chunk : Bytes) :
    Program (Except SystemError Unit × FileWriter) := do
  if writer.buffer.length + chunk.length ≤ bufferSize then
    return (.ok (), { writer with buffer := writer.buffer ++ chunk })
  else
    match ← writer.empty with
    | (.error error, writer) => return (.error error, writer)
    | (.ok (), writer) =>
      if chunk.length < bufferSize then return (.ok (), { writer with buffer := chunk })
      else return (← Program.call (.appendFile writer.file chunk), writer)

end FileWriter

namespace Stream

/-- Answers a question of a session whose socket is `socket`.  A stream is only ever asked what it
is there for; other questions come to nothing. -/
def answer (socket : SocketAddress) (stream : Stream) (question : Session.Question) :
    Program (Session.Answer question × Stream) :=
  match question, stream with
  | .send destination packet, stream => do
    return (← Program.call (.send socket destination packet), stream)
  | .write chunk, .sink scripted =>
    let (result, scripted) := scripted.write chunk
    return (result, .sink scripted)
  | .write chunk, .writer file => do
    let (result, file) ← file.write chunk
    return (result, .writer file)
  | .write _, stream => return (.ok (), stream)
  | .flush, .sink scripted =>
    let (result, scripted) := scripted.flush
    return (result, .sink scripted)
  | .flush, .writer file => do
    let (result, file) ← file.empty
    return (result, .writer file)
  | .flush, stream => return (.ok (), stream)
  | .fill count, .source scripted =>
    let (result, scripted) := scripted.fill count
    return (result, .source scripted)
  | .fill count, .reader file => do
    let (result, file) ← file.fill count
    return (result, .reader file)
  | .fill _, stream => return (.ok [], stream)
  | .drain, .source scripted =>
    let (result, scripted) := scripted.drain
    return (result, .source scripted)
  | .drain, .reader file => do
    let (result, file) ← file.drain
    return (result, .reader file)
  | .drain, stream => return (.ok [], stream)

/-- Leads the dialogue of a session whose socket is `socket`. -/
def converse {Result : Type} (socket : SocketAddress) :
    Session.Turn Result → Stream → Program (Result × Stream)
  | .done result, stream => return (result, stream)
  | .ask question next, stream => do
    let (reply, stream) ← stream.answer socket question
    converse socket (next reply) stream

end Stream

end Lockstep
