import Lockstep.Address.Parser
import Lockstep.Address.Printer
import Lockstep.Alteration
import Lockstep.Text.Blank
import Lockstep.Text.Unsigned

/-!
# The text form of alterations

An alteration is written as direction, target and operations, with colons between these three and
commas between the operations.  The printer writes each operation once and in a fixed order.  The
reader takes them in any order, lets the last one of a kind count and overlooks blanks around
everything.  A text that holds a comma, or blanks at its end, has no written form.
-/

namespace Lockstep

/-- Why a text is not an alteration. -/
inductive AlterationError where
  | format (text : String)
  | direction (text : String)
  | target (text : String)
  | operation (text : String)
  | value (name text : String)
deriving DecidableEq, Repr

def AlterationError.message : AlterationError → String
  | .format text => s!"expected <direction>:<target>:<op>[,<op>...], got '{text}'"
  | .direction text => s!"unknown direction '{text}' (use c2s or s2c)"
  | .target text => s!"invalid target '{text}' (use req, -1 or a block number)"
  | .operation text => s!"unknown operation '{text}'"
  | .value name text => s!"invalid value '{text}' for {name}"

namespace Direction

def ofText (characters : List Char) : Except AlterationError Direction :=
  let lowered := characters.map Char.toLower
  if lowered = "c2s".toList || lowered = "client".toList then .ok .clientToServer
  else if lowered = "s2c".toList || lowered = "server".toList then .ok .serverToClient
  else .error (.direction (String.ofList characters))

end Direction

namespace Target

def text : Target → String
  | .request => "req"
  | .block number => toString number.toNat

def ofText (characters : List Char) : Except AlterationError Target :=
  if characters = "req".toList || characters = "request".toList || characters = "-1".toList then
    .ok .request
  else match Text.readUnsigned? 65536 characters with
    | some number => .ok (.block (UInt16.ofNat number))
    | none => .error (.target (String.ofList characters))

end Target

namespace Operation

/-! ## Writing -/

def text : Operation → String
  | .byte index value => s!"byte={index}/{value.toNat}"
  | .block number => s!"block={number.toNat}"
  | .opcode number => s!"opcode={number.toNat}"
  | .mode text => s!"mode={text}"
  | .filename text => s!"filename={text}"
  | .size length => s!"size={length}"
  | .tid port => s!"tid={port.toNat}"
  | .address ip => s!"addr={ip.text}"
  | .delay milliseconds => s!"delay={milliseconds}"
  | .duplicate milliseconds => s!"duplicate={milliseconds}"
  | .drop => "drop"

/-! ## Reading -/

/-- The operation that a value stands for, or the complaint about the value. -/
def ofValue? (name : String) (value : List Char) (operation? : Option Operation) :
    Except AlterationError Operation :=
  match operation? with
  | some operation => .ok operation
  | none => .error (.value name (String.ofList value))

def readWord? (value : List Char) : Option UInt16 :=
  (Text.readUnsigned? 65536 value).map UInt16.ofNat

def readMilliseconds? (value : List Char) : Option Nat :=
  Text.readUnsigned? 18446744073709551616 value

def readPatch? (value : List Char) : Option Operation := do
  let (indexText, byteText) ← Text.splitFirst? '/' value
  let index ← Text.readUnsigned? maxDatagramSize indexText
  let patch ← Text.readUnsigned? 256 byteText
  return .byte index (UInt8.ofNat patch)

/-- An operation without blanks around it. -/
def ofText (characters : List Char) : Except AlterationError Operation :=
  let (name, value) := (Text.splitFirst? '=' characters).getD (characters, [])
  match String.ofList name with
  | "drop" => .ok .drop
  | "delay" => ofValue? "delay" value ((readMilliseconds? value).map .delay)
  | "duplicate" => ofValue? "duplicate" value ((readMilliseconds? value).map .duplicate)
  | "block" => ofValue? "block" value ((readWord? value).map .block)
  | "opcode" => ofValue? "opcode" value ((readWord? value).map .opcode)
  | "size" =>
    ofValue? "size" value ((Text.readUnsigned? (maxDatagramSize + 1) value).map .size)
  | "tid" => ofValue? "tid" value ((readWord? value).map .tid)
  | "addr" => ofValue? "addr" value ((Ip.ofText? (String.ofList value)).map .address)
  | "mode" => .ok (.mode (String.ofList value))
  | "filename" => .ok (.filename (String.ofList value))
  | "byte" => ofValue? "byte" value (readPatch? value)
  | _ => .error (.operation (String.ofList characters))

end Operation

namespace Alteration

def text (alteration : Alteration) : String :=
  s!"{alteration.direction.name}:{alteration.target.text}:"
    ++ ",".intercalate (alteration.operations.map Operation.text)

/-- The three parts of a text form. -/
def splitParts? (characters : List Char) : Option (List Char × List Char × List Char) := do
  let (direction, rest) ← Text.splitFirst? ':' characters
  let (target, operations) ← Text.splitFirst? ':' rest
  return (direction, target, operations)

def ofText (text : String) : Except AlterationError Alteration :=
  match splitParts? text.toList with
  | none => .error (.format text)
  | some (direction, target, operations) =>
    if (Text.trim operations).isEmpty then .error (.format text)
    else do
      let direction ← Direction.ofText (Text.trim direction)
      let target ← Target.ofText (Text.trim target)
      let operations ← (Text.splitOn ',' operations).mapM
        fun characters => Operation.ofText (Text.trim characters)
      return ofOperations direction target operations

end Alteration

end Lockstep
