import Lockstep.Packet
import Lockstep.Text.Utf8

/-!
# Packets in datagrams

Writing a packet never fails, and it checks nothing: a zero byte in a filename or a payload beyond
the block size ends up in the datagram.  Reading is strict except for error notices, of which an
unknown code, a broken text and bytes behind the text are overlooked.
-/

namespace Lockstep

/-- What is wrong with a datagram whose opcode is known. -/
inductive Defect where
  | tooShort
  | filenameNotTerminated
  | filenameNotText
  | modeNotTerminated
  | modeNotText
  | trailingBytes
  | dataTooShort
  | payloadTooLong
  | ackTooShort
  | ackTooLong
  | errorTooShort
  | messageNotTerminated
deriving DecidableEq, Repr

def Defect.message : Defect → String
  | .tooShort => "packet too short"
  | .filenameNotTerminated => "filename not terminated"
  | .filenameNotText => "filename is not valid UTF-8"
  | .modeNotTerminated => "mode not terminated"
  | .modeNotText => "mode is not valid UTF-8"
  | .trailingBytes => "trailing bytes after mode"
  | .dataTooShort => "DATA too short"
  | .payloadTooLong => "DATA payload exceeds 512 bytes"
  | .ackTooShort => "ACK too short"
  | .ackTooLong => "ACK has trailing bytes"
  | .errorTooShort => "ERROR too short"
  | .messageNotTerminated => "error message not terminated"

inductive DecodeError where
  | unknownOpcode (number : UInt16)
  | malformed (defect : Defect)
deriving DecidableEq, Repr

def DecodeError.message : DecodeError → String
  | .unknownOpcode number => s!"unknown opcode {number.toNat}"
  | .malformed defect => s!"malformed packet: {defect.message}"

namespace Packet

/-! ## Writing -/

def encodeRequest (opcode : Opcode) (request : FileRequest) : Bytes :=
  Bytes.ofWord opcode.number ++ Bytes.ofText request.filename ++ 0
    :: (Bytes.ofText request.modeText ++ [0])

def encodeData (block : BlockNumber) (payload : Bytes) : Bytes :=
  Bytes.ofWord Opcode.data.number ++ Bytes.ofWord block ++ payload

def encodeAck (block : BlockNumber) : Bytes :=
  Bytes.ofWord Opcode.acknowledgment.number ++ Bytes.ofWord block

/-- An error packet with any number for a code. -/
def encodeError (code : UInt16) (message : String) : Bytes :=
  Bytes.ofWord Opcode.error.number ++ Bytes.ofWord code ++ Bytes.ofText message ++ [0]

def encode : Packet → Bytes
  | .readRequest request => encodeRequest .readRequest request
  | .writeRequest request => encodeRequest .writeRequest request
  | .data block payload => encodeData block payload
  | .ack block => encodeAck block
  | .error notice => encodeError notice.code.number notice.message

/-! ## Reading -/

/-- The opcode at the start of a datagram, if it is one of the five. -/
def leadingOpcode? (datagram : Bytes) : Option Opcode :=
  datagram.firstWord?.bind Opcode.ofNumber?

/-- The filename and the mode of a request, behind its opcode. -/
def decodeRequest (body : Bytes) : Except Defect FileRequest :=
  match Bytes.splitAtZero? body with
  | none => .error .filenameNotTerminated
  | some (filenameBytes, rest) =>
    match Bytes.text? filenameBytes with
    | none => .error .filenameNotText
    | some filename =>
      match Bytes.splitAtZero? rest with
      | none => .error .modeNotTerminated
      | some (modeBytes, trailing) =>
        match Bytes.text? modeBytes with
        | none => .error .modeNotText
        | some modeText =>
          if trailing.isEmpty then .ok ⟨filename, modeText⟩ else .error .trailingBytes

def decodeData : Bytes → Except Defect Packet
  | high :: low :: payload =>
    if payload.length > blockSize then .error .payloadTooLong
    else .ok (.data (Bytes.word high low) payload)
  | _ => .error .dataTooShort

def decodeAck : Bytes → Except Defect Packet
  | [high, low] => .ok (.ack (Bytes.word high low))
  | _ :: _ :: _ => .error .ackTooLong
  | _ => .error .ackTooShort

/-- Of the code only the second byte counts. -/
def decodeError : Bytes → Except Defect Packet
  | _ :: low :: rest =>
    match Bytes.splitAtZero? rest with
    | none => .error .messageNotTerminated
    | some (messageBytes, _) =>
      let code := (ErrorCode.ofNumber? low.toUInt16).getD .notDefined
      .ok (.error ⟨code, Bytes.lenientText messageBytes⟩)
  | _ => .error .errorTooShort

def decodeBody (opcode : Opcode) (body : Bytes) : Except Defect Packet :=
  match opcode with
  | .readRequest => (decodeRequest body).map .readRequest
  | .writeRequest => (decodeRequest body).map .writeRequest
  | .data => decodeData body
  | .acknowledgment => decodeAck body
  | .error => decodeError body

def decode : Bytes → Except DecodeError Packet
  | high :: low :: body =>
    match Opcode.ofNumber? (Bytes.word high low) with
    | none => .error (.unknownOpcode (Bytes.word high low))
    | some opcode => (decodeBody opcode body).mapError .malformed
  | _ => .error (.malformed .tooShort)

end Packet

end Lockstep
