import Lockstep.Proofs.Happenings
import Lockstep.Proofs.RequestText

/-!
# Parties of a transfer

A transfer is carried on by somebody: by a server that serves one request, or by a call that moves a
local file. Either goes on as its transfer does, and when the transfer is completed it closes what
it had open: the server listens as before, and the call has ended and tells what was moved. Two of
them in one world take their turns without knowing of each other.
-/

namespace Lockstep

open Activity

/-- A server that serves nobody. It listens at an address of its host, and its handlers use the same
address. -/
structure Station where
  id : String
  server : Server
  keeper : Keeper
  listener : SocketAddress
  isOpen : server.listener = some listener
  isIdle : server.handlers = []
  isLocal : listener.ip.isLocal = true
  isSpecific : listener.ip.isUnspecified = false
  localBind : server.config.localBind = some listener.ip
  -- Who waits for no time at all gives up before anything can arrive.
  isPatient : 0 < server.config.timeout

namespace Station

/-- A server that has just been started at an address of its own. -/
def started (id : String) (config : ServerConfig) (listener : SocketAddress) (keeper : Keeper)
    (isLocal : listener.ip.isLocal = true) (isSpecific : listener.ip.isUnspecified = false)
    (unbound : config.transfer.localBind = none) (isPatient : 0 < config.transfer.timeout) :
    Station where
  id
  server := Server.start config listener
  keeper
  listener
  isOpen := rfl
  isIdle := rfl
  isLocal
  isSpecific
  localBind := by
    simp only [Server.start, unbound, isSpecific, Option.isNone_none, Bool.not_false, Bool.and_self,
      if_true]
  isPatient

def activity (station : Station) : Activity :=
  ⟨station.id, .serving station.server station.keeper⟩

/-- The server while it serves one request. -/
def serving (station : Station) (handler : Handler) : Activity :=
  ⟨station.id, .serving { station.server with handlers := [handler] } station.keeper⟩

theorem sockets_activity (station : Station) :
    station.activity.body.sockets = [station.listener] := by
  simp only [activity, Body.sockets, station.isOpen, station.isIdle, Option.toList_some,
    List.map_nil, List.append_nil]

theorem sockets_serving (station : Station) (handler : Handler) :
    (station.serving handler).body.sockets = [station.listener, handler.transfer.socket] := by
  simp only [serving, Body.sockets, station.isOpen, Option.toList_some, List.map_cons,
    List.map_nil, List.cons_append, List.nil_append]

theorem alarms_activity (station : Station) : station.activity.body.alarms = [] := by
  simp only [activity, Body.alarms, station.isIdle, List.map_nil]

/-- A server that listens goes on, whatever has become of its handlers. -/
theorem followServer_eq (station : Station) (handlers : List Handler) :
    followServer station.id station.keeper { station.server with handlers } =
      .goesOn station.id (.serving { station.server with handlers } station.keeper) := by
  rw [followServer, Server.hasFinished, station.isOpen]
  rfl

theorem serving_eq (station : Station) (handler? : Option Handler) :
    (⟨station.id, .serving { station.server with handlers := handler?.toList } station.keeper⟩ :
        Activity) = handler?.elim station.activity station.serving := by
  obtain ⟨id, server, keeper, listener, isOpen, isIdle, -, -, -, -⟩ := station
  cases handler? with
  | none =>
    obtain ⟨root, config, listener?, handlers, outcome⟩ := server
    cases isIdle
    rfl
  | some handler => rfl

end Station

/-- Whoever carries on one end of a transfer. -/
inductive Party where
  | handler (station : Station) (client : SocketAddress) (upload : Option Upload)
  | caller (name : String) (call : Client.FileCall)

/-- A machine after a transfer is over: the file that was received is closed, and so is the
socket. -/
def Machine.parting (machine : Machine) (upload : Option Upload) (socket : SocketAddress) :
    Machine :=
  { machine with
    files := upload.elim machine.files fun upload ↦ machine.files.closeFile upload.file
    network := machine.network.close socket }

namespace Party

/-- The party while the transfer goes on. -/
def activity (party : Party) (transfer : Transfer) : Activity :=
  match party with
  | .handler station client upload => station.serving { client, transfer, upload }
  | .caller name call => ⟨name, .fileCall call transfer false⟩

/-- What is left of the party when the transfer is over. -/
def rest : Party → Option Activity
  | .handler station _ _ => some station.activity
  | .caller _ _ => none

/-- The sockets that the party has besides that of the transfer. -/
def ports : Party → List SocketAddress
  | .handler station _ _ => [station.listener]
  | .caller _ _ => []

/-- The file that the party receives. -/
def upload : Party → Option Upload
  | .handler _ _ upload => upload
  | .caller _ call => call.upload

/-- What the party tells about a transfer that is completed. -/
def news (party : Party) (summary : Summary) : List (String × News) :=
  match party with
  | .handler .. => []
  | .caller name _ => [(name, .fileCallEnded (.ok summary))]

variable {party : Party} {transfer next : Transfer} {machine after : Machine} {stimulus : Stimulus}
  {now since : Nat}

theorem sockets_activity (party : Party) (transfer : Transfer) :
    (party.activity transfer).body.sockets = party.ports ++ [transfer.socket] := by
  cases party with
  | handler station client upload => exact station.sockets_serving _
  | caller name call => rfl

theorem alarms_activity (party : Party) (transfer : Transfer) :
    (party.activity transfer).body.alarms = [.ofTransfer transfer] := by
  cases party <;> rfl

theorem sockets_of_mem_rest (party : Party) {activity : Activity} (h : activity ∈ party.rest) :
    activity.body.sockets = party.ports := by
  cases party with
  | handler station client upload =>
    cases h
    exact station.sockets_activity
  | caller name call => cases h

theorem alarms_of_mem_rest (party : Party) {activity : Activity} (h : activity ∈ party.rest) :
    activity.body.alarms = [] := by
  cases party with
  | handler station client upload =>
    cases h
    exact station.alarms_activity
  | caller name call => cases h

/-- A party waits as long as its transfer does. -/
theorem deadline_of_mem (party : Party) {time : Nat} (h : time < transfer.exchange.deadline) :
    ∀ activity ∈ some (party.activity transfer), ∀ alarm ∈ activity.body.alarms,
      time < alarm.deadline := by
  intro activity hactivity alarm halarm
  cases hactivity
  rw [party.alarms_activity, List.mem_singleton] at halarm
  subst halarm
  exact h

theorem not_mem_sockets {socket : SocketAddress} (hports : socket ∉ party.ports)
    (hne : socket ≠ transfer.socket) :
    ∀ activity ∈ some (party.activity transfer), socket ∉ activity.body.sockets := by
  intro activity hactivity
  cases hactivity
  rw [party.sockets_activity]
  intro hmem
  rcases List.mem_append.mp hmem with hport | hsocket
  · exact hports hport
  · exact hne (List.mem_singleton.mp hsocket)

/-- A server hands a stimulus to the handler that has the socket. -/
theorem run_react_handler (station : Station) (handler : Handler)
    (hport : station.listener ≠ handler.transfer.socket) :
    machine.run ((station.serving handler).react handler.transfer.socket stimulus now since) =
      let outcome := machine.run (handler.react stimulus.event now since)
      ({ activity := some (outcome.1.elim station.activity station.serving) }, outcome.2) := by
  have hlistener : station.server.listener ≠ some handler.transfer.socket := by
    rw [station.isOpen]
    exact fun heq ↦ hport (Option.some.inj heq)
  have hserver : machine.run (reactServer { station.server with handlers := [handler] }
        handler.transfer.socket stimulus now since) =
      let outcome := machine.run (handler.react stimulus.event now since)
      ({ station.server with handlers := outcome.1.toList }, outcome.2) := by
    unfold reactServer
    rw [if_neg hlistener, Server.react, Machine.run_bind, Server.react.go, if_pos rfl,
      Machine.run_bind]
    change (({ station.server with handlers := _ ++ [] } : Server), _) = _
    rw [List.append_nil]
    rfl
  dsimp only [Station.serving, Activity.react]
  rw [Machine.run_bind, hserver]
  dsimp only
  rw [station.followServer_eq]
  rw [← station.serving_eq]
  rfl

/-- The party goes on as the transfer does. -/
theorem run_react (hport : transfer.socket ∉ party.ports)
    (hrun : machine.run (transfer.react stimulus.event now since) = (.running next, after)) :
    machine.run ((party.activity transfer).react transfer.socket stimulus now since) =
      ({ activity := some (party.activity next) }, after) := by
  cases party with
  | handler station client upload =>
    have hne : station.listener ≠ transfer.socket := fun heq ↦
      hport (heq ▸ List.mem_singleton_self _)
    have hhandler : machine.run (Handler.react { client, transfer, upload } stimulus.event now
        since) = (some { client, transfer := next, upload }, after) := by
      rw [Handler.react, Machine.run_bind, hrun]
      rfl
    exact (run_react_handler station { client, transfer, upload } hne).trans (by rw [hhandler]; rfl)
  | caller name call =>
    dsimp only [activity, Activity.react]
    rw [Machine.run_bind, Client.FileCall.react, Machine.run_bind, Client.react, Machine.run_bind,
      hrun]
    rfl

/-- When the transfer is completed the party closes what it had open. -/
theorem run_react_completed {session : Session} {stream : Stream} {summary : Summary}
    (hport : transfer.socket ∉ party.ports)
    (hrun : machine.run (transfer.react stimulus.event now since) =
      (.ended session stream (.ok summary), after)) :
    machine.run ((party.activity transfer).react transfer.socket stimulus now since) =
      ({ news := party.news summary, activity := party.rest },
        after.parting party.upload transfer.socket) := by
  cases party with
  | handler station client upload =>
    have hne : station.listener ≠ transfer.socket := fun heq ↦
      hport (heq ▸ List.mem_singleton_self _)
    have hhandler : machine.run (Handler.react { client, transfer, upload } stimulus.event now
        since) = (none, after.parting upload transfer.socket) := by
      rw [Handler.react, Machine.run_bind, hrun]
      cases upload <;> rfl
    exact (run_react_handler station { client, transfer, upload } hne).trans (by rw [hhandler]; rfl)
  | caller name call =>
    obtain ⟨context, upload⟩ := call
    dsimp only [activity, Activity.react]
    rw [Machine.run_bind, Client.FileCall.react, Machine.run_bind, Client.react, Machine.run_bind,
      hrun]
    cases upload <;> rfl

end Party

/-! ## Two parties in one world -/

/-- The server comes first in a world, and the call that plays the given role second. -/
def Role.seats (role : Role) (sender receiver : Option Activity) : List Activity :=
  match role with
  | .sender => receiver.toList ++ sender.toList
  | .receiver => sender.toList ++ receiver.toList

theorem Role.seats_opposite (role : Role) (sender receiver : Option Activity) :
    role.opposite.seats receiver sender = role.seats sender receiver := by
  cases role <;> rfl

theorem Role.mem_seats {role : Role} {sender receiver : Option Activity} {activity : Activity}
    (h : activity ∈ role.seats sender receiver) : activity ∈ sender ∨ activity ∈ receiver := by
  cases role with
  | sender => simpa [seats, or_comm] using h
  | receiver => simpa [seats] using h

namespace World

variable {world : World} {role : Role} {other : Option Activity} {datagram : Datagram}
  {socket : SocketAddress}

/-- Nobody is late. -/
theorem isCalm_of_seats {sending receiving : Option Activity}
    (h : world.activities = role.seats sending receiving)
    (hsending : ∀ activity ∈ sending, ∀ alarm ∈ activity.body.alarms, world.now < alarm.deadline)
    (hreceiving : ∀ activity ∈ receiving, ∀ alarm ∈ activity.body.alarms,
      world.now < alarm.deadline) : world.IsCalm := by
  intro activity hactivity alarm halarm
  rw [h] at hactivity
  rcases Role.mem_seats hactivity with hmem | hmem
  · exact hsending activity hmem alarm halarm
  · exact hreceiving activity hmem alarm halarm

/-- One of two activities reacts to the only datagram that was sent. -/
theorem IsCalm.steps_of_seats (calm : world.IsCalm) {activity : Activity}
    (h : world.activities = role.seats (some activity) other)
    (houtbox : world.machine.network.outbox = [datagram])
    (receiver : world.machine.network.receiverOf? datagram.destination = some socket)
    (mine : socket ∈ activity.body.sockets)
    (apart : ∀ activity ∈ other, socket ∉ activity.body.sockets) :
    let outcome := (world.departed datagram).machine.run (activity.react socket
      (.reception (.datagram datagram.source datagram.payload)) world.now world.waits)
    world.Steps ((world.departed datagram).pass outcome
      (role.seats outcome.1.activity other)) := by
  intro outcome
  have hapart : ∀ activity ∈ other.toList, socket ∉ activity.body.sockets := fun activity hmem ↦
    apart activity (Option.mem_toList.mp hmem)
  have hsteps := calm.steps houtbox receiver
  cases role with
  | sender =>
    have hfront : (world.departed datagram).activities = other.toList ++ activity :: [] := h
    rw [stimulate_of_unique hfront mine (by rw [List.append_nil]; exact hapart),
      List.append_nil] at hsteps
    exact hsteps
  | receiver =>
    have hfront : (world.departed datagram).activities = [] ++ activity :: other.toList := h
    rw [stimulate_of_unique hfront mine hapart] at hsteps
    exact hsteps

variable {party : Party} {transfer next : Transfer} {after : Machine}

theorem IsCalm.steps_running (calm : world.IsCalm)
    (h : world.activities = role.seats (some (party.activity transfer)) other)
    (houtbox : world.machine.network.outbox = [datagram])
    (receiver : world.machine.network.receiverOf? datagram.destination = some transfer.socket)
    (hport : transfer.socket ∉ party.ports)
    (apart : ∀ activity ∈ other, transfer.socket ∉ activity.body.sockets)
    (hrun : (world.departed datagram).machine.run (transfer.react
      (.arrival datagram.source datagram.payload) world.now world.waits) =
        (.running next, after)) :
    world.Steps ((world.departed datagram).pass ({}, after)
      (role.seats (some (party.activity next)) other)) := by
  have mine : transfer.socket ∈ (party.activity transfer).body.sockets := by
    rw [party.sockets_activity]
    exact List.mem_append_right _ (List.mem_singleton_self _)
  have hsteps := calm.steps_of_seats h houtbox receiver mine apart
  rw [Party.run_react hport hrun] at hsteps
  exact hsteps

theorem IsCalm.steps_completed (calm : world.IsCalm) {session : Session} {stream : Stream}
    {summary : Summary} (h : world.activities = role.seats (some (party.activity transfer)) other)
    (houtbox : world.machine.network.outbox = [datagram])
    (receiver : world.machine.network.receiverOf? datagram.destination = some transfer.socket)
    (hport : transfer.socket ∉ party.ports)
    (apart : ∀ activity ∈ other, transfer.socket ∉ activity.body.sockets)
    (hrun : (world.departed datagram).machine.run (transfer.react
      (.arrival datagram.source datagram.payload) world.now world.waits) =
        (.ended session stream (.ok summary), after)) :
    world.Steps ((world.departed datagram).pass
      ({ news := party.news summary }, after.parting party.upload transfer.socket)
      (role.seats party.rest other)) := by
  have mine : transfer.socket ∈ (party.activity transfer).body.sockets := by
    rw [party.sockets_activity]
    exact List.mem_append_right _ (List.mem_singleton_self _)
  have hsteps := calm.steps_of_seats h houtbox receiver mine apart
  rw [Party.run_react_completed hport hrun] at hsteps
  exact hsteps

end World

end Lockstep
