import Lockstep.Activity
import Lockstep.FileSystem.Changes

/-!
# Worlds

Activities that run side by side on one machine, with everything that they can wait for under
control: the clock moves only when it is told to, and datagrams come in one at a time.  An activity
reacts at once to what happens to it.  When nothing can react any more, the oldest datagram that
was sent is delivered, to a socket of the same world or to nobody.
-/

namespace Lockstep

/-- What became known, and when. -/
structure Report where
  id : String
  time : Nat
  news : News

structure World where
  machine : Machine := {}
  activities : List Activity := []
  /-- The running number of the next wait. -/
  waits : Nat := 0
  isInterrupted : Bool := false
  /-- Whether the command line asked for a log of everything. -/
  isVerbose : Option Bool := none
  /-- What has left since the last look, the newest first. -/
  sent : List Datagram := []
  /-- What became known since the last look, the newest first. -/
  reports : List Report := []

namespace World

def now (world : World) : Nat :=
  world.machine.now

/-- Runs a program, which gets the time and the next running number. -/
def perform {Result : Type} (world : World) (program : Nat → Nat → Program Result) :
    Result × World :=
  let (result, machine) := world.machine.run (program world.now world.waits)
  (result, { world with machine, waits := world.waits + 1 })

def record (world : World) (news : List (String × News)) : World :=
  let reports := news.map fun (id, news) => ⟨id, world.now, news⟩
  { world with reports := reports.reverse ++ world.reports }

/-- Starts an activity. -/
def start (world : World) (program : Nat → Nat → Program Activity.Aftermath) : World :=
  let (aftermath, world) := world.perform program
  let world := world.record aftermath.news
  { world with activities := world.activities ++ aftermath.activity.toList }

/-- Has the activities react that satisfy a condition, one after the other. -/
def affect (world : World) (isMeant : Activity → Bool)
    (reaction : Activity → Nat → Nat → Program Activity.Aftermath) : World :=
  let (activities, world) := go world world.activities
  { world with activities }
where
  go (world : World) : List Activity → List Activity × World
    | [] => ([], world)
    | activity :: rest =>
      if isMeant activity then
        let (aftermath, world) := world.perform (reaction activity)
        let (others, world) := go (world.record aftermath.news) rest
        (aftermath.activity.toList ++ others, world)
      else
        let (others, world) := go world rest
        (activity :: others, world)

/-- Something happens at a socket. -/
def stimulate (world : World) (socket : SocketAddress) (stimulus : Stimulus) : World :=
  world.affect (·.body.sockets.contains socket) fun activity now since =>
    activity.react socket stimulus now since

/-- Hands a reception to the socket that a datagram for `destination` is delivered to, and tells
whether there is one. -/
def deliver (world : World) (destination : SocketAddress) (reception : Reception) :
    Bool × World :=
  match world.machine.network.receiverOf? destination with
  | none => (false, world)
  | some socket => (true, world.stimulate socket (.reception reception))

/-- The alarm that goes off first. -/
def nextAlarm? (world : World) : Option Alarm :=
  Alarm.earliest? (world.activities.flatMap (·.body.alarms))

/-- The next thing that happens without anything from outside. -/
def step? (world : World) : Option World :=
  match world.nextAlarm?.filter (·.deadline ≤ world.now) with
  | some alarm => some (world.stimulate alarm.socket .alarm)
  | none =>
    match world.machine.network.outbox with
    | [] => none
    | datagram :: outbox =>
      let network := { world.machine.network with outbox }
      let world :=
        { world with
          machine := { world.machine with network }
          sent := datagram :: world.sent }
      some (world.deliver datagram.destination (.datagram datagram.source datagram.payload)).2

/-- Lets things happen until nothing can happen any more, but no more than `fuel` of them. -/
def settle (world : World) : Nat → World
  | 0 => world
  | fuel + 1 =>
    match world.step? with
    | none => world
    | some world => world.settle fuel

def setClock (world : World) (time : Nat) : World :=
  { world with machine := { world.machine with now := time } }

/-- Moves the clock from alarm to alarm, as long as they are not later than `limit`. -/
def runUntil (world : World) (limit : Option Nat) (fuel : Nat) : Nat → World
  | 0 => world
  | jumps + 1 =>
    match world.nextAlarm?.filter fun alarm => limit.all (alarm.deadline ≤ ·) with
    | none => world
    | some alarm =>
      ((world.setClock (max world.now alarm.deadline)).settle fuel).runUntil limit fuel jumps

/-- Lets some time pass. -/
def advance (world : World) (duration fuel : Nat) : World :=
  let target := world.now + duration
  (world.runUntil (some target) fuel fuel).setClock target

/-- Lets time pass until nobody waits for it. -/
def run (world : World) (fuel : Nat) : World :=
  world.runUntil none fuel fuel

/-! ## What is done from outside -/

/-- Interrupts all services that were started on the command line. -/
def interruptAll (world : World) : World :=
  world.affect (fun _ => true) Activity.interrupt

/-- From now on the program is interrupted. -/
def interrupt (world : World) : World :=
  { world with isInterrupted := true }.interruptAll

def heedInterrupt (world : World) : World :=
  if world.isInterrupted then world.interruptAll else world

/-- Runs the program with these arguments. -/
def startProgram (world : World) (id : String) (arguments : List String) : World :=
  match CommandLine.parse arguments with
  | .error .help => world.record [(id, .exited .help)]
  | .error (.usage error) => world.record [(id, .exited (.usage error.message))]
  | .ok invocation =>
    ({ world with isVerbose := some invocation.isVerbose }.start
      (Activity.startCommand id invocation.command)).heedInterrupt

/-- Uses the means to end the service with this name. -/
def signal (world : World) (id : String) (value : Option Bool) : World :=
  world.affect (·.id = id) fun activity now since => activity.signal value now since

/-- The names of all activities that have not ended. -/
def pending (world : World) : List String :=
  world.activities.filterMap fun activity => activity.body.pendingName? activity.id

/-- What has happened since the last look: what was sent and what became known, in the order of
time and name. -/
def collect (world : World) : List Datagram × List Report × World :=
  let inOrder (first second : Report) : Bool :=
    first.time < second.time || (first.time = second.time && first.id ≤ second.id)
  (world.sent.reverse, world.reports.reverse.mergeSort inOrder,
    { world with sent := [], reports := [] })

end World

end Lockstep
