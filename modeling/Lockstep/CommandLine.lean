import Lockstep.Alteration.TextForm
import Lockstep.Client
import Lockstep.Relay
import Lockstep.Server

/-!
# Command lines

What the arguments of the program ask for.  A switch for the log comes first, then one of four
subcommands with its options and positional arguments in any order.  Options take their value from
the next argument.  Behind two dashes everything is positional.  The first fault from the left is
reported.  A request for help is granted if there is no fault, and an option behind it is one; that
a positional argument is missing does not matter then.
-/

namespace Lockstep.CommandLine

inductive UsageError where
  | unrecognized (argument : String)
  | missingValue (option : String)
  | badValue (option value reason : String)
  | missingPositional (name : String)
  | missingSubcommand
  | optionAfterHelp
deriving DecidableEq, Repr

def subcommandNames : List String :=
  ["server", "read", "write", "errsim"]

/-- One name on each line. -/
def listing (names : List String) : String :=
  String.join (names.map fun name => s!"    {name}\n")

def UsageError.message : UsageError → String
  | .unrecognized argument => s!"Unrecognized argument: {argument}\n"
  | .missingValue option => s!"No value provided for option '{option}'.\n"
  | .badValue option value reason =>
    s!"Error parsing option '{option}' with value '{value}': {reason}\n"
  | .missingPositional name =>
    "Required positional arguments not provided:\n" ++ listing [name]
  | .missingSubcommand =>
    "One of the following subcommands must be present:\n" ++ listing ("help" :: subcommandNames)
  | .optionAfterHelp => "Trailing arguments are not allowed after `help`."

inductive Command where
  | server (config : ServerConfig)
  | read (config : ClientConfig) (remote : String) (path : Path)
  | write (config : ClientConfig) (path : Path) (remote : Option String)
  | relay (config : RelayConfig) (alterations : List Alteration)

structure Invocation where
  isVerbose : Bool
  command : Command

/-- Why there is nothing to carry out. -/
inductive Refusal where
  | help
  | usage (error : UsageError)
deriving DecidableEq, Repr

/-- The arguments of a subcommand as far as they were read. -/
structure Draft where
  bind : Option String := none
  root : Option String := none
  localIp : Option Ip := none
  timeout : Option Nat := none
  server : Option SocketAddress := none
  mode : Option Mode := none
  listen : Option String := none
  viaRelay : Bool := false
  alterations : List Alteration := []
  positionals : List String := []

/-! ## Values -/

def readText (value : String) : Except String String :=
  .ok value

def readIp (value : String) : Except String Ip :=
  match Ip.ofText? value with
  | some ip => .ok ip
  | none => .error "invalid IP address syntax"

def readAddress (value : String) : Except String SocketAddress :=
  match SocketAddress.ofText? value with
  | some address => .ok address
  | none => .error "invalid socket address syntax"

def readMilliseconds (value : String) : Except String Nat :=
  (Text.readUnsigned 18446744073709551616 value.toList).mapError Text.UnsignedError.message

def readMode (value : String) : Except String Mode :=
  match Mode.ofName? value with
  | some mode => .ok mode
  | none => .error (Mode.unsupportedMessage value)

def readAlteration (value : String) : Except String Alteration :=
  (Alteration.ofText value).mapError AlterationError.message

/-- Most options can be given only once. -/
def once {Value : Type} (current : Option Value) (read : String → Except String Value)
    (value : String) : Except String (Option Value) :=
  if current.isSome then .error "duplicate values provided" else (read value).map some

/-! ## Options -/

inductive Effect where
  | switch (set : Draft → Draft)
  | value (set : Draft → String → Except String Draft)

structure Setting where
  names : List String
  effect : Effect

def bindSetting : Setting :=
  ⟨["--bind", "-b"], .value fun draft value => do
    return { draft with bind := ← once draft.bind readText value }⟩

def rootSetting : Setting :=
  ⟨["--root", "-r"], .value fun draft value => do
    return { draft with root := ← once draft.root readText value }⟩

def localIpSetting : Setting :=
  ⟨["--local-ip"], .value fun draft value => do
    return { draft with localIp := ← once draft.localIp readIp value }⟩

def timeoutSetting : Setting :=
  ⟨["--timeout-ms"], .value fun draft value => do
    return { draft with timeout := ← once draft.timeout readMilliseconds value }⟩

def serverSetting : Setting :=
  ⟨["--server", "-s"], .value fun draft value => do
    return { draft with server := ← once draft.server readAddress value }⟩

def modeSetting : Setting :=
  ⟨["--mode", "-m"], .value fun draft value => do
    return { draft with mode := ← once draft.mode readMode value }⟩

def listenSetting : Setting :=
  ⟨["--listen", "-l"], .value fun draft value => do
    return { draft with listen := ← once draft.listen readText value }⟩

def viaRelaySetting : Setting :=
  ⟨["--via-errsim"], .switch fun draft => { draft with viaRelay := true }⟩

def alterationSetting : Setting :=
  ⟨["--alter", "-a"], .value fun draft value => do
    let alteration ← readAlteration value
    return { draft with alterations := draft.alterations ++ [alteration] }⟩

/-! ## Subcommands -/

structure Subcommand where
  name : String
  settings : List Setting
  /-- The names of the positional arguments that must be there. -/
  required : List String := []
  /-- How many positional arguments there can be besides. -/
  optional : Nat := 0
  command : Draft → Command

/-- The port that a relay listens at. -/
def relayPort : UInt16 := 2300

def clientConfig (draft : Draft) : ClientConfig :=
  let plain : ClientConfig := {}
  let server := draft.server.getD plain.server
  { server := if draft.viaRelay then server.withPort relayPort else server
    mode := draft.mode.getD plain.mode
    transfer := { timeout := draft.timeout.getD plain.transfer.timeout } }

def serverSubcommand : Subcommand :=
  { name := "server"
    settings := [bindSetting, rootSetting, localIpSetting, timeoutSetting]
    command := fun draft =>
      let plain : ServerConfig := {}
      .server
        { bindAddress := draft.bind.getD plain.bindAddress
          root := (draft.root.map Path.ofText).getD plain.root
          transfer :=
            { timeout := draft.timeout.getD plain.transfer.timeout, localBind := draft.localIp } } }

def readSubcommand : Subcommand :=
  { name := "read"
    settings := [serverSetting, modeSetting, viaRelaySetting, timeoutSetting]
    required := ["remote"]
    optional := 1
    command := fun draft =>
      let remote := draft.positionals.getD 0 ""
      let path := Path.ofText ((draft.positionals[1]?).getD remote)
      .read (clientConfig draft) remote path }

def writeSubcommand : Subcommand :=
  { name := "write"
    settings := [serverSetting, modeSetting, viaRelaySetting, timeoutSetting]
    required := ["local"]
    optional := 1
    command := fun draft =>
      .write (clientConfig draft) (Path.ofText (draft.positionals.getD 0 ""))
        draft.positionals[1]? }

def relaySubcommand : Subcommand :=
  { name := "errsim"
    settings := [listenSetting, serverSetting, alterationSetting]
    command := fun draft =>
      let plain : RelayConfig := {}
      .relay
        { plain with
          listenAddress := draft.listen.getD plain.listenAddress
          serverAddress := draft.server.getD plain.serverAddress }
        draft.alterations }

def subcommands : List Subcommand :=
  [serverSubcommand, readSubcommand, writeSubcommand, relaySubcommand]

/-! ## Reading -/

def isHelp (argument : String) : Bool :=
  argument = "--help" || argument = "help"

def isOption (argument : String) : Bool :=
  argument.startsWith "-"

namespace Subcommand

def capacity (subcommand : Subcommand) : Nat :=
  subcommand.required.length + subcommand.optional

def setting? (subcommand : Subcommand) (name : String) : Option Setting :=
  subcommand.settings.find? (·.names.contains name)

def addPositional (subcommand : Subcommand) (draft : Draft) (argument : String) :
    Except Refusal Draft :=
  if draft.positionals.length < subcommand.capacity then
    .ok { draft with positionals := draft.positionals ++ [argument] }
  else .error (.usage (.unrecognized argument))

/-- Reads arguments from the left.  `wantsHelp` tells that help was asked for before them, and
`hasEnded` that they stand behind two dashes. -/
def readArguments (subcommand : Subcommand) (wantsHelp hasEnded : Bool) (draft : Draft) :
    List String → Except Refusal Draft
  | [] => if wantsHelp then .error .help else .ok draft
  | argument :: rest =>
    if !hasEnded && isHelp argument then subcommand.readArguments true hasEnded draft rest
    else if !hasEnded && argument = "--" then subcommand.readArguments wantsHelp true draft rest
    else if !hasEnded && isOption argument then
      if wantsHelp then .error (.usage .optionAfterHelp)
      else match subcommand.setting? argument with
        | none => .error (.usage (.unrecognized argument))
        | some setting =>
          match setting.effect, rest with
          | .switch set, rest => subcommand.readArguments wantsHelp hasEnded (set draft) rest
          | .value _, [] => .error (.usage (.missingValue argument))
          | .value set, value :: rest =>
            match set draft value with
            | .error reason => .error (.usage (.badValue argument value reason))
            | .ok draft => subcommand.readArguments wantsHelp hasEnded draft rest
    else do
      let draft ← subcommand.addPositional draft argument
      subcommand.readArguments wantsHelp hasEnded draft rest

def read (subcommand : Subcommand) (wantsHelp : Bool) (arguments : List String) :
    Except Refusal Command := do
  let draft ← subcommand.readArguments wantsHelp false {} arguments
  match subcommand.required[draft.positionals.length]? with
  | some name => .error (.usage (.missingPositional name))
  | none => .ok (subcommand.command draft)

end Subcommand

/-- Reads the arguments of the program from the left; the flags tell what was found before them. -/
def parseFrom (isVerbose wantsHelp hasEnded : Bool) : List String → Except Refusal Invocation
  | [] => .error (if wantsHelp then .help else .usage .missingSubcommand)
  | argument :: rest =>
    if !hasEnded && isHelp argument then parseFrom isVerbose true hasEnded rest
    else if !hasEnded && argument = "--" then parseFrom isVerbose wantsHelp true rest
    else if !hasEnded && isOption argument then
      if wantsHelp then .error (.usage .optionAfterHelp)
      else if argument = "-v" || argument = "--verbose" then
        parseFrom true wantsHelp hasEnded rest
      else .error (.usage (.unrecognized argument))
    else match subcommands.find? (·.name = argument) with
      | none => .error (.usage (.unrecognized argument))
      | some subcommand => do
        let command ← subcommand.read wantsHelp rest
        return { isVerbose, command }

def parse (arguments : List String) : Except Refusal Invocation :=
  parseFrom false false false arguments

/-! ## Help -/

/-- One line for each name of an option, and for each positional argument that must be there. -/
def Subcommand.summary (subcommand : Subcommand) : String :=
  let words := subcommand.required ++ subcommand.settings.map fun setting =>
    "[" ++ " | ".intercalate setting.names ++ "]"
  " ".intercalate (subcommand.name :: words)

/-- What the program can be asked for. -/
def help : String :=
  "Usage: [-v] <command> [<args>]\n\nCommands:\n" ++ listing (subcommands.map (·.summary))

end Lockstep.CommandLine
