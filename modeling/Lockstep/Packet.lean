import Lockstep.Bytes
import Lockstep.BlockNumber

/-!
# Packets

The five kinds of packets of the Trivial File Transfer Protocol, RFC 1350: a request to read or to
write a file, a block of data, its acknowledgment, and an error notice.  How packets are laid out
in datagrams is the business of `Lockstep.Packet.Codec`.
-/

namespace Lockstep

/-- The number of payload bytes in every block but the last one. -/
def blockSize : Nat := 512

/-- The bytes in front of the payload of a block: opcode and block number. -/
def headerSize : Nat := 4

/-- The length of a datagram that carries a full block. -/
def maxPacketSize : Nat := headerSize + blockSize

/-- The most that any datagram can carry. -/
def maxDatagramSize : Nat := 65507

inductive Opcode where
  | readRequest
  | writeRequest
  | data
  | acknowledgment
  | error
deriving DecidableEq, Repr

namespace Opcode

def number : Opcode → UInt16
  | .readRequest => 1
  | .writeRequest => 2
  | .data => 3
  | .acknowledgment => 4
  | .error => 5

def ofNumber? (number : UInt16) : Option Opcode :=
  if number = 1 then some .readRequest
  else if number = 2 then some .writeRequest
  else if number = 3 then some .data
  else if number = 4 then some .acknowledgment
  else if number = 5 then some .error
  else none

theorem ofNumber?_number (opcode : Opcode) : ofNumber? opcode.number = some opcode := by
  cases opcode <;> rfl

def name : Opcode → String
  | .readRequest => "RRQ"
  | .writeRequest => "WRQ"
  | .data => "DATA"
  | .acknowledgment => "ACK"
  | .error => "ERROR"

/-- The opcode opens a transfer. -/
def isRequest : Opcode → Bool
  | .readRequest | .writeRequest => true
  | _ => false

end Opcode

inductive ErrorCode where
  | notDefined
  | fileNotFound
  | accessViolation
  | diskFull
  | illegalOperation
  | unknownTransferId
  | fileAlreadyExists
  | noSuchUser
deriving DecidableEq, Repr

namespace ErrorCode

def number : ErrorCode → UInt16
  | .notDefined => 0
  | .fileNotFound => 1
  | .accessViolation => 2
  | .diskFull => 3
  | .illegalOperation => 4
  | .unknownTransferId => 5
  | .fileAlreadyExists => 6
  | .noSuchUser => 7

def ofNumber? (number : UInt16) : Option ErrorCode :=
  if number = 0 then some .notDefined
  else if number = 1 then some .fileNotFound
  else if number = 2 then some .accessViolation
  else if number = 3 then some .diskFull
  else if number = 4 then some .illegalOperation
  else if number = 5 then some .unknownTransferId
  else if number = 6 then some .fileAlreadyExists
  else if number = 7 then some .noSuchUser
  else none

/-- The text that accompanies the code where nothing more is known. -/
def defaultMessage : ErrorCode → String
  | .notDefined => "Undefined error"
  | .fileNotFound => "File not found"
  | .accessViolation => "Access violation"
  | .diskFull => "Disk full or allocation exceeded"
  | .illegalOperation => "Illegal TFTP operation"
  | .unknownTransferId => "Unknown transfer ID"
  | .fileAlreadyExists => "File already exists"
  | .noSuchUser => "No such user"

def display (code : ErrorCode) : String :=
  s!"{code.defaultMessage} ({code.number.toNat})"

end ErrorCode

/-- How the bytes of a file travel. -/
inductive Mode where
  /-- As they are. -/
  | octet
  /-- As netascii text. -/
  | netascii
deriving DecidableEq, Repr

namespace Mode

def name : Mode → String
  | .octet => "octet"
  | .netascii => "netascii"

/-- The mode with this name, in upper or lower case. -/
def ofName? (text : String) : Option Mode :=
  let lowered := text.toList.map Char.toLower
  if lowered = "octet".toList then some .octet
  else if lowered = "netascii".toList then some .netascii
  else none

def unsupportedMessage (text : String) : String :=
  s!"Unsupported transfer mode: {text}"

end Mode

/-- What a request says.  The mode is kept as it was written: whether it is one of the modes is
decided by whoever answers the request. -/
structure FileRequest where
  filename : String
  modeText : String
deriving DecidableEq, Repr

namespace FileRequest

def inMode (filename : String) (mode : Mode) : FileRequest :=
  ⟨filename, mode.name⟩

def mode? (request : FileRequest) : Option Mode :=
  Mode.ofName? request.modeText

end FileRequest

/-- What an error packet says. -/
structure Notice where
  code : ErrorCode
  message : String
deriving DecidableEq, Repr

namespace Notice

def ofCode (code : ErrorCode) : Notice :=
  ⟨code, code.defaultMessage⟩

def display (notice : Notice) : String :=
  s!"{notice.code.display}: {notice.message}"

end Notice

inductive Packet where
  | readRequest (request : FileRequest)
  | writeRequest (request : FileRequest)
  | data (block : BlockNumber) (payload : Bytes)
  | ack (block : BlockNumber)
  | error (notice : Notice)
deriving DecidableEq, Repr

namespace Packet

def opcode : Packet → Opcode
  | .readRequest _ => .readRequest
  | .writeRequest _ => .writeRequest
  | .data _ _ => .data
  | .ack _ => .acknowledgment
  | .error _ => .error

/-- A payload that is not full ends the transfer. -/
def isLastPayload (payload : Bytes) : Bool :=
  payload.length < blockSize

def display : Packet → String
  | .readRequest request => s!"RRQ '{request.filename}' ({request.modeText})"
  | .writeRequest request => s!"WRQ '{request.filename}' ({request.modeText})"
  | .data block payload => s!"DATA #{block.toNat} ({payload.length} bytes)"
  | .ack block => s!"ACK #{block.toNat}"
  | .error notice => s!"ERROR {notice.display}"

end Packet

end Lockstep
