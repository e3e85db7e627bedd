import Lockstep.Activity
import Lockstep.Host
import Std.Async.Signal
import Std.Async.Timer
import Std.Sync.CancellationToken

/-!
# The program

Carries out one command on this host.  The loop below only waits: what the activity does about an
event is described in `Lockstep.Activity`, and `Lockstep.Host` does it.
-/

namespace Lockstep

open Std.Async

/-- What the program waits for. -/
inductive Happening where
  | stimulus (socket : SocketAddress) (stimulus : Stimulus)
  | interrupt

/-- The largest datagram that is received. -/
def receiveSize : UInt64 := 65536

/-- Something comes in at a socket. -/
def Happening.arrival (address : SocketAddress) (socket : UDP.Socket) : Selectable Happening :=
  .case (socket.recvSelector receiveSize) fun (data, source?) =>
    let source := (source?.map SocketAddress.ofNet).getD address
    return .stimulus address (.reception (.datagram source data.data.toList))

/-- Waits for the next thing that happens to an activity. -/
def Host.next (host : Host) (activity : Activity) (interrupt : Option Std.CancellationToken) :
    IO Happening := do
  let sockets := (← host.sockets.get).filter fun (address, _) =>
    activity.body.sockets.contains address
  let now ← IO.monoMsNow
  let alarm? ← (Alarm.earliest? activity.body.alarms).mapM fun alarm => do
    return (alarm, ← (Selector.sleep (.ofNat (alarm.deadline - now))).block)
  let events := sockets.map (fun (address, socket) => Happening.arrival address socket)
    ++ (alarm?.map fun (alarm, sleep) =>
      Selectable.case sleep fun _ => return .stimulus alarm.socket .alarm).toList
    ++ (interrupt.map fun token =>
      Selectable.case token.selector fun _ => return .interrupt).toList
  (Selectable.one events.toArray).block

/-- Leads an activity to its end.  Only the first interrupt counts. -/
partial def Host.lead (host : Host) (activity : Activity) (interrupt : Option Std.CancellationToken)
    (since : Nat) : IO (List (String × News)) := do
  let happening ← host.next activity interrupt
  let now ← IO.monoMsNow
  let (aftermath, interrupt) ← match happening with
    | .stimulus socket stimulus => do
      let aftermath ← host.run (activity.react socket stimulus now since)
      pure (aftermath, interrupt)
    | .interrupt => do
      let aftermath ← host.run (activity.interrupt now since)
      pure (aftermath, none)
  match aftermath.activity with
  | some activity => host.lead activity interrupt (since + 1)
  | none => return aftermath.news

/-- A token that is cancelled when the program is interrupted. -/
def interruption : IO Std.CancellationToken := do
  let token ← Std.CancellationToken.new
  let waiter ← Signal.Waiter.mk .sigint false
  let _ ← (← waiter.wait).mapIO fun _ => do
    token.cancel
    discard waiter.wait
  return token

/-- Carries out a command. -/
def Host.execute (host : Host) (command : CommandLine.Command) : IO (List (String × News)) := do
  let now ← IO.monoMsNow
  let aftermath ← host.run (Activity.startCommand "" command now 0)
  match aftermath.activity with
  | none => return aftermath.news
  | some activity =>
    let interrupt ← match activity.body with
      | .serving .. | .relaying .. => some <$> interruption
      | _ => pure none
    host.lead activity interrupt 1

/-- Shows how the command ended, and yields the exit code. -/
def Exit.report : Exit → IO UInt32
  | .success => return 0
  | .help => do
    IO.print CommandLine.help
    return 0
  | .usage message => do
    IO.eprint message
    return 1
  | .failure message => do
    IO.eprintln s!"Error: {message}"
    return 1

end Lockstep

open Lockstep in
def main (arguments : List String) : IO UInt32 := do
  match CommandLine.parse arguments with
  | .error .help => Exit.help.report
  | .error (.usage error) => (Exit.usage error.message).report
  | .ok invocation =>
    let host ← Host.new invocation.isVerbose
    match ← host.execute invocation.command with
    | [(_, .exited exit)] => exit.report
    | _ => return 0
