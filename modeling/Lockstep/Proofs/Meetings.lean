import Lockstep.Proofs.Openings

/-!
# Calls and servers that meet

A call and a server in one world, and the two sockets that a transfer between them uses. The call
opens its socket first, and the server answers from the other one. Each side sees the other one
under the address that the other one sends from, and when both sockets are closed the network is as
it was.
-/

namespace Lockstep

open Session FileSystem Activity

/-- The server is all there is in the world, and nothing is lost. -/
structure World.Hosts (world : World) (station : Station) : Prop where
  activities : world.activities = [station.activity]
  listens : station.listener ∈ world.machine.network.sockets
  room : world.machine.network.sockets.length + 1 < 65536
  faults : world.machine.network.faults = []
  outbox : world.machine.network.outbox = []

/-- The client addresses the server, and its own sockets can be opened and used for that. -/
structure ClientConfig.Fits (config : ClientConfig) (station : Station) : Prop where
  server : config.server = station.listener
  localBind : config.transfer.localBind.all fun ip ↦
    ip.isLocal && ip.family = station.listener.ip.family
  isPatient : 0 < config.transfer.timeout

theorem ClientConfig.Fits.ip {config : ClientConfig} {station : Station} (h : config.Fits station) :
    config.ip.isLocal = true ∧ config.ip.family = station.listener.ip.family := by
  have hbind := h.localBind
  unfold ClientConfig.ip
  cases hlocal : config.transfer.localBind with
  | none =>
    rw [Option.getD_none, h.server]
    exact ⟨Ip.isLocal_unspecified _, Ip.family_unspecified _⟩
  | some ip =>
    rw [hlocal, Option.all_some, Bool.and_eq_true, decide_eq_true_eq] at hbind
    exact hbind

/-- A call of a client and a server in one world, with the sockets that they are going to open. -/
structure Meeting where
  world : World
  station : Station
  config : ClientConfig
  near : SocketAddress
  far : SocketAddress
  nearPort : Nat
  farPort : Nat
  hosts : world.Hosts station
  fits : config.Fits station
  nearIp : near.ip = config.ip
  farIp : far.ip = station.listener.ip
  nearFree : world.machine.network.isTaken near = false
  farFree : (world.machine.network.opened near nearPort).isTaken far = false
  bindNear : world.machine.network.bind ⟨config.ip, 0, 0⟩ =
    (.ok near, world.machine.network.opened near nearPort)
  bindFar : (world.machine.network.opened near nearPort).bind ⟨station.listener.ip, 0, 0⟩ =
    (.ok far, (world.machine.network.opened near nearPort).opened far farPort)

theorem exists_meeting {world : World} {station : Station} {config : ClientConfig}
    (hosts : world.Hosts station) (fits : config.Fits station) :
    ∃ meeting : Meeting, meeting.world = world ∧ meeting.station = station ∧
      meeting.config = config := by
  obtain ⟨near, nearPort, nearIp, nearFree, bindNear⟩ :=
    Network.bind_ephemeral fits.ip.1 (Nat.lt_of_succ_lt hosts.room)
  have hroom : (world.machine.network.opened near nearPort).sockets.length < 65536 := by
    have hroom := hosts.room
    simp only [Network.opened, List.length_append, List.length_singleton]
    exact hroom
  obtain ⟨far, farPort, farIp, farFree, bindFar⟩ :=
    Network.bind_ephemeral station.isLocal hroom
  exact ⟨⟨world, station, config, near, far, nearPort, farPort, hosts, fits, nearIp, farIp,
    nearFree, farFree, bindNear, bindFar⟩, rfl, rfl, rfl⟩

namespace Meeting

variable (meeting : Meeting)

/-- The network when the call has opened its socket. -/
def asked : Network :=
  meeting.world.machine.network.opened meeting.near meeting.nearPort

/-- The network when the server has opened its socket too. -/
def answered : Network :=
  meeting.asked.opened meeting.far meeting.farPort

/-- The end of the call. -/
def client : Endpoint :=
  ⟨meeting.near, meeting.far, meeting.config.mode, meeting.config.transfer⟩

/-- The end of the server. -/
def handler : Endpoint :=
  ⟨meeting.far, meeting.near.sourceFor meeting.station.listener, meeting.config.mode,
    meeting.station.server.config⟩

theorem far_isSpecific : meeting.far.ip.isUnspecified = false := by
  rw [meeting.farIp]
  exact meeting.station.isSpecific

theorem near_family : meeting.near.ip.family = meeting.station.listener.ip.family := by
  rw [meeting.nearIp]
  exact meeting.fits.ip.2

theorem client_reaches : meeting.client.Reaches meeting.handler where
  source := SocketAddress.sourceFor_congr meeting.farIp
  family := by
    change meeting.near.ip.family = meeting.far.ip.family
    rw [meeting.near_family, meeting.farIp]
  isPatient := meeting.fits.isPatient

theorem handler_reaches : meeting.handler.Reaches meeting.client where
  source := SocketAddress.sourceFor_of_specific meeting.far_isSpecific
  family := by
    change meeting.far.ip.family = (meeting.near.sourceFor meeting.station.listener).ip.family
    rw [SocketAddress.family_sourceFor, meeting.near_family, meeting.farIp]
  isPatient := meeting.station.isPatient

theorem near_not_mem : meeting.near ∉ meeting.world.machine.network.sockets :=
  Network.not_mem_of_free meeting.nearFree

theorem far_not_mem : meeting.far ∉ meeting.asked.sockets :=
  Network.not_mem_of_free meeting.farFree

theorem near_ne_far : meeting.near ≠ meeting.far := by
  intro heq
  apply meeting.far_not_mem
  rw [← heq]
  exact List.mem_append_right _ (List.mem_singleton_self _)

theorem listens : meeting.station.listener ∈ meeting.asked.sockets :=
  List.mem_append_left _ meeting.hosts.listens

theorem near_ne_listener : meeting.near ≠ meeting.station.listener := fun heq ↦
  meeting.near_not_mem (heq ▸ meeting.hosts.listens)

theorem far_ne_listener : meeting.far ≠ meeting.station.listener := fun heq ↦
  meeting.far_not_mem (heq ▸ meeting.listens)

theorem near_hasAlone : meeting.answered.HasAlone meeting.near :=
  (Network.hasAlone_of_bind meeting.nearFree rfl).of_bind meeting.farFree rfl

theorem far_hasAlone : meeting.answered.HasAlone meeting.far :=
  Network.hasAlone_of_bind meeting.farFree rfl

/-- When both sockets are closed those are open that were before. -/
theorem filter_answered :
    (meeting.answered.sockets.filter (· ≠ meeting.far)).filter (· ≠ meeting.near) =
      meeting.world.machine.network.sockets := by
  have hsame : ∀ {sockets : List SocketAddress} {socket : SocketAddress}, socket ∉ sockets →
      (sockets ++ [socket]).filter (· ≠ socket) = sockets := by
    intro sockets socket hmem
    have hsockets : sockets.filter (· ≠ socket) = sockets :=
      List.filter_eq_self.mpr fun other hother ↦
        decide_eq_true fun heq ↦ hmem (heq ▸ hother)
    rw [List.filter_append, hsockets]
    simp
  change (((meeting.asked.sockets ++ [meeting.far]).filter _).filter _) = _
  rw [hsame meeting.far_not_mem]
  exact hsame meeting.near_not_mem

end Meeting

/-- What has just been sent leaves. -/
theorem World.machine_departed_posting {world : World} {machine : Machine} {datagram : Datagram}
    (h : world.machine = machine.posting datagram) (houtbox : machine.network.outbox = []) :
    (world.departed datagram).machine = machine := by
  obtain ⟨now, files, ⟨sockets, nextPort, faults, outbox⟩⟩ := machine
  cases houtbox
  rw [departed, h]
  rfl

end Lockstep
