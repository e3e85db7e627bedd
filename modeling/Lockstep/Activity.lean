import Lockstep.Client
import Lockstep.CommandLine
import Lockstep.Relay
import Lockstep.Server

/-!
# Activities

What runs on a host: sessions, calls of clients, servers and relays, each between two of its waits.
An activity is started, it reacts at once to what happens at its sockets and to its alarms, and it
tells what becomes known of it until it ends.  Everything here is a program that does not wait, so
whoever leads the activities decides what happens to them and when.
-/

namespace Lockstep

/-! ## Activities -/

/-- One use of a session. -/
inductive Run where
  | receive (opening : Bytes) (sink : Sink)
  | send (opening : Option Bytes) (source : Source)

/-- Who can end a service. -/
inductive Keeper where
  /-- Nobody. -/
  | none
  /-- Whoever holds the other end of a channel. -/
  | channel
  /-- The holder of a handle, who may be waiting for the end already. -/
  | handle (isAwaited : Bool)
  /-- Somebody who interrupts the program. -/
  | terminal
deriving DecidableEq, Repr

inductive Activity.Body where
  /-- A session that is used several times, one use after the other. -/
  | trial (transfer : Transfer) (rest : List Run)
  /-- A call of a client that moves a stream. -/
  | clientCall (transfer : Transfer)
  /-- A call of a client that moves a local file, made by a program or from the command line. -/
  | fileCall (call : Client.FileCall) (transfer : Transfer) (isCommand : Bool)
  | serving (server : Server) (keeper : Keeper)
  | relaying (relay : Relay) (keeper : Keeper)
  /-- A service that has ended while nobody was waiting for it. -/
  | remains (outcome : Except Failure Unit)

structure Activity where
  id : String
  body : Activity.Body

/-- How a command line ends. -/
inductive Exit where
  | help
  | usage (message : String)
  | success
  | failure (message : String)
deriving DecidableEq, Repr

/-- What becomes known of an activity. -/
inductive News where
  | created (session : Session) (socket : SocketAddress)
  | runEnded (result : Except TransferError Summary) (stream : Stream) (session : Session)
      (socket : SocketAddress)
  | notBound (error : SystemError)
  | callEnded (result : Except TransferError Summary) (stream : Stream)
  | fileCallEnded (result : Except Failure Summary)
  | bound (address : SocketAddress)
  /-- The addresses before, at and after the opening of a port. -/
  | prepared (earlier : Option SocketAddress) (bound : SocketAddress)
      (later : Option SocketAddress)
  | serviceEnded (result : Except Failure Unit)
  | relayEnded (result : Except Failure Unit) (unused : List Alteration)
  | exited (exit : Exit)

namespace Exit

def ofResult {Value : Type} : Except Failure Value → Exit
  | .ok _ => .success
  | .error reason => .failure reason.message

end Exit

/-- When a wait ends by itself. -/
structure Alarm where
  deadline : Nat
  /-- The running number of the wait. -/
  since : Nat
  socket : SocketAddress

namespace Alarm

/-- Of two alarms at one time the one of the longer wait goes off first. -/
def precedes (first second : Alarm) : Bool :=
  first.deadline < second.deadline
    || (first.deadline = second.deadline && first.since < second.since)

def ofTransfer (transfer : Transfer) : Alarm :=
  ⟨transfer.exchange.deadline, transfer.since, transfer.socket⟩

def earlier? (first second : Option Alarm) : Option Alarm :=
  match first, second with
  | none, alarm | alarm, none => alarm
  | some first, some second => if second.precedes first then some second else some first

def earliest? (alarms : List Alarm) : Option Alarm :=
  alarms.foldl (fun earliest alarm => earlier? earliest (some alarm)) none

end Alarm

/-- What can happen to an activity. -/
inductive Stimulus where
  | reception (reception : Reception)
  | alarm
deriving DecidableEq, Repr

namespace Stimulus

/-- What it is for a session. -/
def event : Stimulus → Session.Event
  | .reception (.datagram source payload) => .arrival source payload
  | .reception (.error error) => .receiveError error
  | .alarm => .expiry

end Stimulus

namespace Activity

namespace Body

def alarms : Body → List Alarm
  | .trial transfer _ | .clientCall transfer | .fileCall _ transfer _ => [.ofTransfer transfer]
  | .serving server _ => server.handlers.map fun handler => .ofTransfer handler.transfer
  | .relaying relay _ =>
    (relay.deadline?.map fun deadline => ⟨deadline, relay.since, relay.clientSocket⟩).toList
  | .remains _ => []

def sockets : Body → List SocketAddress
  | .trial transfer _ | .clientCall transfer | .fileCall _ transfer _ => [transfer.socket]
  | .serving server _ =>
    server.listener.toList ++ server.handlers.map fun handler => handler.transfer.socket
  | .relaying relay _ => [relay.clientSocket, relay.serverSocket]
  | .remains _ => []

/-- The names under which an activity that has not ended is known. -/
def pendingName? (id : String) : Body → Option String
  | .trial .. | .clientCall .. | .fileCall .. => some id
  | .serving _ keeper | .relaying _ keeper =>
    match keeper with
    | .handle true => some s!"{id}.shutdown"
    | .handle false => none
    | .none | .channel | .terminal => some id
  | .remains _ => none

end Body

/-- What a reaction leads to: news, and the activity if it goes on. -/
structure Aftermath where
  news : List (String × News) := []
  activity : Option Activity := none

namespace Aftermath

def ended (id : String) (news : News) : Aftermath :=
  { news := [(id, news)] }

def goesOn (id : String) (body : Body) : Aftermath :=
  { activity := some ⟨id, body⟩ }

def after (news : List (String × News)) (aftermath : Aftermath) : Aftermath :=
  { aftermath with news := news ++ aftermath.news }

end Aftermath

/-! ## Sessions -/

def Run.start (run : Run) (socket : SocketAddress) (session : Session) (now since : Nat) :
    Program Course :=
  match run with
  | .receive opening sink =>
    Transfer.takeTurn socket (.sink sink) (session.receive opening now) since
  | .send opening source =>
    Transfer.takeTurn socket (.source source) (session.send opening now) since

/-- Uses a session again and again; the socket closes after the last use. -/
def startRuns (id : String) (socket : SocketAddress) (session : Session) (now since : Nat) :
    List Run → Program Aftermath
  | [] => do
    Program.call (.close socket)
    return {}
  | run :: rest => do
    match ← Run.start run socket session now since with
    | .running transfer => return .goesOn id (.trial transfer rest)
    | .ended session stream result =>
      return (← startRuns id socket session now since rest).after
        [(id, .runEnded result stream session socket)]

/-- Opens a socket at an address in written form and uses a session there. -/
def startTrial (id address : String) (session : Session) (runs : List Run)
    (now since : Nat) : Program Aftermath := do
  match ← bindText address with
  | .error error => return .ended id (.notBound error)
  | .ok socket =>
    return (← startRuns id socket session now since runs).after [(id, .created session socket)]

def followTrial (id : String) (socket : SocketAddress) (rest : List Run) (course : Course)
    (now since : Nat) : Program Aftermath := do
  match course with
  | .running transfer => return .goesOn id (.trial transfer rest)
  | .ended session stream result =>
    return (← startRuns id socket session now since rest).after
      [(id, .runEnded result stream session socket)]

/-! ## Clients -/

def followCall (id : String) : Course → Aftermath
  | .running transfer => .goesOn id (.clientCall transfer)
  | .ended _ stream result => .ended id (.callEnded result stream)

def followFileCall (id : String) (isCommand : Bool) : Client.FileCourse → Aftermath
  | .running call transfer => .goesOn id (.fileCall call transfer isCommand)
  | .ended result =>
    .ended id (if isCommand then .exited (.ofResult result) else .fileCallEnded result)

/-! ## Services -/

/-- A service has ended. -/
def concludeService (id : String) (keeper : Keeper) (outcome : Except Failure Unit)
    (news : News) : Aftermath :=
  match keeper with
  | .none | .channel => .ended id news
  | .terminal => .ended id (.exited (.ofResult outcome))
  | .handle true => .ended s!"{id}.shutdown" (.serviceEnded outcome)
  | .handle false => .goesOn id (.remains outcome)

def followServer (id : String) (keeper : Keeper) (server : Server) : Aftermath :=
  if server.hasFinished then
    concludeService id keeper server.outcome (.serviceEnded server.outcome)
  else .goesOn id (.serving server keeper)

def followRelay (id : String) (keeper : Keeper) (rest : Relay.Rest) : Aftermath :=
  match rest with
  | .waiting relay => .goesOn id (.relaying relay keeper)
  | .stopped queue outcome =>
    concludeService id keeper outcome (.relayEnded outcome queue.waiting)

/-- What a server does about a stimulus at one of its sockets. -/
def reactServer (server : Server) (socket : SocketAddress) (stimulus : Stimulus)
    (now since : Nat) : Program Server :=
  if server.listener = some socket then
    match stimulus with
    | .reception (.datagram source payload) => server.dispatch source payload now since
    | .reception (.error error) => server.trip error
    | .alarm => return server
  else server.react socket stimulus.event now since

def reactRelay (relay : Relay) (socket : SocketAddress) (stimulus : Stimulus)
    (now since : Nat) : Program Relay.Rest :=
  match stimulus with
  | .reception reception => (relay.enqueue socket reception).run now since
  | .alarm => relay.run now since

/-- What an activity does about a stimulus at one of its sockets. -/
def react (activity : Activity) (socket : SocketAddress) (stimulus : Stimulus)
    (now since : Nat) : Program Aftermath := do
  let id := activity.id
  match activity.body with
  | .trial transfer rest =>
    followTrial id transfer.socket rest (← transfer.react stimulus.event now since) now since
  | .clientCall transfer =>
    return followCall id (← Client.react transfer stimulus.event now since)
  | .fileCall call transfer isCommand =>
    return followFileCall id isCommand (← call.react transfer stimulus.event now since)
  | .serving server keeper =>
    return followServer id keeper (← reactServer server socket stimulus now since)
  | .relaying relay keeper =>
    return followRelay id keeper (← reactRelay relay socket stimulus now since)
  | .remains outcome => return .goesOn id (.remains outcome)

/-! ## Ends of services -/

/-- Tells a service that it is to stop, or that it is not. -/
def setStopping (activity : Activity) (isStopping : Bool) (now since : Nat) :
    Program Aftermath := do
  let id := activity.id
  match activity.body with
  | .serving server keeper =>
    if isStopping then return followServer id keeper (← server.stop)
    else return .goesOn id (.serving server keeper)
  | .relaying relay keeper =>
    return followRelay id keeper (← { relay with isStopping }.run now since)
  | body => return .goesOn id body

/-- Uses the means that the keeper of a service has to end it.  Over a channel a value can be
sent; without a value the channel is closed, and nothing can be sent any more. -/
def signal (activity : Activity) (value : Option Bool) (now since : Nat) : Program Aftermath :=
  let id := activity.id
  match activity.body, value with
  | .serving server (.handle false), _ =>
    setStopping ⟨id, .serving server (.handle true)⟩ true now since
  | .relaying relay (.handle false), _ =>
    setStopping ⟨id, .relaying relay (.handle true)⟩ true now since
  | .serving _ .channel, some isStopping | .relaying _ .channel, some isStopping =>
    activity.setStopping isStopping now since
  | .serving server .channel, none =>
    setStopping ⟨id, .serving server .none⟩ true now since
  | .relaying relay .channel, none =>
    setStopping ⟨id, .relaying relay .none⟩ true now since
  | .remains outcome, _ => return .ended s!"{id}.shutdown" (.serviceEnded outcome)
  | body, _ => return .goesOn id body

/-- The program is interrupted; only services on the command line take notice. -/
def interrupt (activity : Activity) (now since : Nat) : Program Aftermath :=
  match activity.body with
  | .serving _ .terminal | .relaying _ .terminal => activity.setStopping true now since
  | body => return .goesOn activity.id body

/-! ## Starts -/

/-- Has a client move the file `remote` and a stream. -/
def startCall (id : String) (config : ClientConfig) (role : Role) (remote : String)
    (stream : Stream) (now since : Nat) : Program Aftermath := do
  return followCall id (← Client.start config role remote stream now since)

/-- Has a client receive a local file. -/
def startReadFile (id : String) (config : ClientConfig) (remote : String) (path : Path)
    (isCommand : Bool) (now since : Nat) : Program Aftermath := do
  return followFileCall id isCommand (← Client.readFile config remote path now since)

/-- Has a client send a local file. -/
def startWriteFile (id : String) (config : ClientConfig) (path : Path) (remote : String)
    (isCommand : Bool) (now since : Nat) : Program Aftermath := do
  return followFileCall id isCommand (← Client.writeFile config path remote now since)

/-- What is told about a port that was opened. -/
def openingNews (id : String) (keeper : Keeper) (isPrepared : Bool) (address : SocketAddress) :
    List (String × News) :=
  match keeper with
  | .handle _ => [(id, .bound address)]
  | _ => if isPrepared then [(id, .prepared none address (some address))] else []

/-- Starts a server; `isPrepared` tells that its port is opened beforehand. -/
def startServer (id : String) (config : ServerConfig) (keeper : Keeper) (isPrepared : Bool)
    (_now _since : Nat) : Program Aftermath := do
  match ← Server.bind config with
  | .error failure =>
    return .ended id
      (if keeper = .terminal then .exited (.failure failure.message)
       else .serviceEnded (.error failure))
  | .ok listener =>
    return (Aftermath.goesOn id (.serving (Server.start config listener) keeper)).after
      (openingNews id keeper isPrepared listener)

/-- Starts a relay; `isPrepared` tells that its ports are opened beforehand. -/
def startRelay (id : String) (config : RelayConfig) (queue : AlterationQueue) (keeper : Keeper)
    (isPrepared : Bool) (_now _since : Nat) : Program Aftermath := do
  match ← Relay.bind config queue with
  | .error failure =>
    let result := .error failure
    return .ended id
      (match keeper with
       | .terminal => .exited (.failure failure.message)
       | .handle _ => .serviceEnded result
       | .none | .channel =>
        if isPrepared then .serviceEnded result else .relayEnded result queue.waiting)
  | .ok relay =>
    return (Aftermath.goesOn id (.relaying relay keeper)).after
      (openingNews id keeper isPrepared relay.clientSocket)

/-- A command that fails before it has begun. -/
def refuseCommand (id : String) (failure : Failure) : Aftermath :=
  .ended id (.exited (.failure failure.message))

/-- Carries out a command. -/
def startCommand (id : String) (command : CommandLine.Command) (now since : Nat) :
    Program Aftermath := do
  match command with
  | .server config =>
    match ← Program.call (.makeDirectories config.root) with
    | .error error =>
      return refuseCommand id
        (.ofSystem s!"Failed to create root directory {config.root.text}" error)
    | .ok () => startServer id config .terminal false now since
  | .read config remote path => startReadFile id config remote path true now since
  | .write config path remote? =>
    match remote?.or (path.fileName?.map Path.text) with
    | none =>
      return refuseCommand id ⟨[], .other s!"Cannot derive a remote name from {path.text}"⟩
    | some remote => startWriteFile id config path remote true now since
  | .relay config alterations =>
    startRelay id config (.ofList alterations) .terminal false now since

end Activity

end Lockstep
