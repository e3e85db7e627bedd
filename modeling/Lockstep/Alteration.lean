import Lockstep.Address
import Lockstep.Packet.Codec

/-!
# Alterations

What a relay does to one chosen packet on its way.  An alteration names a direction and a target,
and any number of operations: some change bytes, the others change how the packet is sent on.  Those
that change bytes are applied in a fixed order, whatever order they were given in, and without a
check whether the result still is a packet.
-/

namespace Lockstep

inductive Direction where
  | clientToServer
  | serverToClient
deriving DecidableEq, Repr

namespace Direction

def name : Direction → String
  | .clientToServer => "c2s"
  | .serverToClient => "s2c"

def display : Direction → String
  | .clientToServer => "client->server"
  | .serverToClient => "server->client"

end Direction

/-- The packet that an alteration is meant for. Requests come before all blocks. -/
inductive Target where
  | request
  /-- The data or the acknowledgment of this block. -/
  | block (number : BlockNumber)
deriving DecidableEq, Ord, Repr

namespace Target

/-- What a datagram can be targeted as.  Error notices and broken datagrams cannot. -/
def ofDatagram? (datagram : Bytes) : Option Target :=
  match Packet.leadingOpcode? datagram with
  | some .readRequest | some .writeRequest => some .request
  | some .data | some .acknowledgment => datagram.secondWord?.map .block
  | some .error | none => none

def precedes (first second : Target) : Bool :=
  (compare first second).isLT

end Target

/-- One thing that an alteration does. -/
inductive Operation where
  /-- Overwrite one byte. -/
  | byte (index : Nat) (value : UInt8)
  /-- Overwrite the block number. -/
  | block (number : UInt16)
  /-- Overwrite the opcode. -/
  | opcode (number : UInt16)
  /-- Overwrite the mode of a request, and cut off what stands behind it. -/
  | mode (text : String)
  /-- Overwrite the filename of a request. -/
  | filename (text : String)
  /-- Cut off or fill up with zeros. -/
  | size (length : Nat)
  /-- Send from this port. -/
  | tid (port : UInt16)
  /-- Send from this address. -/
  | address (ip : Ip)
  /-- Send so many milliseconds later. -/
  | delay (milliseconds : Nat)
  /-- Send a second time so many milliseconds later. -/
  | duplicate (milliseconds : Nat)
  /-- Do not send. -/
  | drop
deriving DecidableEq, Repr

structure Alteration where
  direction : Direction
  target : Target
  byte : Option (Nat × UInt8) := none
  block : Option UInt16 := none
  opcode : Option UInt16 := none
  mode : Option String := none
  filename : Option String := none
  size : Option Nat := none
  tid : Option UInt16 := none
  address : Option Ip := none
  delay : Option Nat := none
  duplicate : Option Nat := none
  drop : Bool := false
deriving DecidableEq, Repr

namespace Alteration

/-- The alteration with one more operation; of two of one kind the later one counts. -/
def add (alteration : Alteration) : Operation → Alteration
  | .byte index value => { alteration with byte := some (index, value) }
  | .block number => { alteration with block := some number }
  | .opcode number => { alteration with opcode := some number }
  | .mode text => { alteration with mode := some text }
  | .filename text => { alteration with filename := some text }
  | .size length => { alteration with size := some length }
  | .tid port => { alteration with tid := some port }
  | .address ip => { alteration with address := some ip }
  | .delay milliseconds => { alteration with delay := some milliseconds }
  | .duplicate milliseconds => { alteration with duplicate := some milliseconds }
  | .drop => { alteration with drop := true }

def ofOperations (direction : Direction) (target : Target) (operations : List Operation) :
    Alteration :=
  operations.foldl add { direction, target }

/-- The operations, each kind once and in a fixed order. -/
def operations (alteration : Alteration) : List Operation :=
  (alteration.byte.map fun (index, value) => .byte index value).toList
    ++ (alteration.block.map .block).toList
    ++ (alteration.opcode.map .opcode).toList
    ++ (alteration.mode.map .mode).toList
    ++ (alteration.filename.map .filename).toList
    ++ (alteration.size.map .size).toList
    ++ (alteration.tid.map .tid).toList
    ++ (alteration.address.map .address).toList
    ++ (alteration.delay.map .delay).toList
    ++ (alteration.duplicate.map .duplicate).toList
    ++ if alteration.drop then [.drop] else []

/-- The alteration is meant for this datagram. -/
def fitsOn (alteration : Alteration) (direction : Direction) (datagram : Bytes) : Bool :=
  alteration.direction = direction && Target.ofDatagram? datagram = some alteration.target

theorem fitsOn_iff {alteration : Alteration} {direction : Direction} {datagram : Bytes} :
    alteration.fitsOn direction datagram = true ↔
      alteration.direction = direction ∧ Target.ofDatagram? datagram = some alteration.target := by
  simp only [fitsOn, Bool.and_eq_true, decide_eq_true_eq]

/-! ## Changing bytes -/

/-- A byte that would lie beyond the largest datagram is left alone. -/
def putByte (index : Nat) (value : UInt8) (datagram : Bytes) : Bytes :=
  if index < maxDatagramSize then (datagram.extend (index + 1)).set index value else datagram

def putBlock (number : UInt16) (datagram : Bytes) : Bytes :=
  let extended := datagram.extend 4
  extended.take 2 ++ Bytes.ofWord number ++ extended.drop 4

def putOpcode (number : UInt16) (datagram : Bytes) : Bytes :=
  Bytes.ofWord number ++ (datagram.extend 2).drop 2

/-- The first two bytes. -/
def header (datagram : Bytes) : Bytes :=
  Bytes.extend (datagram.take 2) 2

/-- The filename of a request, and what stands behind the zero at its end if there is one. -/
def splitFilename (datagram : Bytes) : Bytes × Option Bytes :=
  let body : Bytes := datagram.drop 2
  match Bytes.splitAtZero? body with
  | some (filename, rest) => (filename, some rest)
  | none => (body, none)

def putMode (text : String) (datagram : Bytes) : Bytes :=
  header datagram ++ (splitFilename datagram).1 ++ 0 :: (Bytes.ofText text ++ [0])

def putFilename (text : String) (datagram : Bytes) : Bytes :=
  header datagram ++ Bytes.ofText text ++ 0 :: (splitFilename datagram).2.getD []

def cut (length : Nat) (datagram : Bytes) : Bytes :=
  datagram.resize (min length maxDatagramSize)

/-- Makes a change if its argument is given. -/
def optionally {Argument : Type} (change : Argument → Bytes → Bytes)
    (argument : Option Argument) (datagram : Bytes) : Bytes :=
  match argument with
  | some argument => change argument datagram
  | none => datagram

/-- The datagram after all operations that change bytes. -/
def apply (alteration : Alteration) (datagram : Bytes) : Bytes :=
  optionally cut alteration.size <|
  optionally putFilename alteration.filename <|
  optionally putMode alteration.mode <|
  optionally putOpcode alteration.opcode <|
  optionally putBlock alteration.block <|
  optionally (fun (index, value) => putByte index value) alteration.byte datagram

end Alteration

end Lockstep
