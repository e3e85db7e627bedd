import Lockstep.Packet.Codec
import Lockstep.Session
import Lockstep.Text.Blank

/-!
# Admission

Which datagrams a server takes for a request.  It must be a request, its mode must be one of the
two, and its filename must be a plain name: nothing that a path could be made of, and no control
characters.  Whoever sent anything else is told why it was turned down.
-/

namespace Lockstep

namespace Filename

inductive Fault where
  | empty
  | traversal
  | reservedCharacter
  | controlCharacter
deriving DecidableEq, Repr

def Fault.message : Fault → String
  | .empty => "Empty filename"
  | .traversal => "Path traversal attempt detected"
  | .reservedCharacter => "Filename contains a reserved character"
  | .controlCharacter => "Filename contains a control character"

def reservedCharacters : List Char :=
  ['/', '\\', '<', '>', ':', '"', '|', '?', '*']

def isReserved (character : Char) : Bool :=
  reservedCharacters.contains character

def check (filename : String) : Except Fault Unit :=
  if filename.isEmpty then .error .empty
  else if filename = "." || filename = ".." then .error .traversal
  else if filename.toList.any isReserved then .error .reservedCharacter
  else if filename.toList.any Text.isControl then .error .controlCharacter
  else .ok ()

end Filename

/-- Why a datagram is turned down. -/
inductive Refusal where
  | undecodable (error : DecodeError)
  | notRequest (opcode : Opcode)
  | unsupportedMode (text : String)
  | badFilename (fault : Filename.Fault)
deriving DecidableEq, Repr

namespace Refusal

def message : Refusal → String
  | .undecodable error => error.message
  | .notRequest opcode => s!"Expected RRQ or WRQ, got {opcode.name}"
  | .unsupportedMode text => s!"Unsupported transfer mode '{text}'"
  | .badFilename fault => fault.message

def notice (refusal : Refusal) : Notice :=
  ⟨.illegalOperation, refusal.message⟩

end Refusal

/-- A request that a server takes. -/
structure Admission where
  /-- The side that the server plays: it sends the file if the request is to read. -/
  role : Role
  request : FileRequest
  mode : Mode
deriving DecidableEq, Repr

namespace Admission

def ofRequest (role : Role) (request : FileRequest) : Except Refusal Admission :=
  match request.mode? with
  | none => .error (.unsupportedMode request.modeText)
  | some mode =>
    match Filename.check request.filename with
    | .error fault => .error (.badFilename fault)
    | .ok () => .ok ⟨role, request, mode⟩

def ofDatagram (datagram : Bytes) : Except Refusal Admission :=
  match Packet.decode datagram with
  | .error error => .error (.undecodable error)
  | .ok (.readRequest request) => ofRequest .sender request
  | .ok (.writeRequest request) => ofRequest .receiver request
  | .ok packet => .error (.notRequest packet.opcode)

end Admission

end Lockstep
