import Lockstep.Proofs.FileTransfers
import Lockstep.Proofs.Parties
import Lockstep.Proofs.Sockets

/-!
# Transfers in one world

Two parties in one world that move a file from the one to the other. Each data packet reaches the
receiving end, each acknowledgment reaches the sending end, and nothing else happens, so the
transfer advances block by block and comes to its end before any time has passed. Then the file that
was received holds what the other one holds, and the sockets of the transfer are closed.
-/

namespace Lockstep

open Session FileSystem

/-- What this end sends to its peer comes from where the other end awaits its own peer, and this
end waits for some time. -/
structure Endpoint.Reaches (near far : Endpoint) : Prop where
  source : near.socket.sourceFor near.peer = far.peer
  family : near.socket.ip.family = near.peer.ip.family
  isPatient : 0 < near.config.timeout

/-- A file and two parties in one world of which one sends it to the other. The call among them
plays the role. -/
structure Scene where
  role : Role
  sender : Endpoint
  receiver : Endpoint
  sending : Party
  receiving : Party
  handle : Handle
  file : FileId
  content : Bytes
  toReceiver : sender.Reaches receiver
  toSender : receiver.Reaches sender
  apart : sender.socket ≠ receiver.socket
  senderPorts : sender.socket ∉ sending.ports ++ receiving.ports
  receiverPorts : receiver.socket ∉ sending.ports ++ receiving.ports
  sends : sending.upload = none
  receives : receiving.upload.map (·.file) = some file
  untouched : handle ≠ .file file

namespace Scene

variable {scene : Scene} {network : Network} {world before middle after : World}
  {spare index acknowledged stored : Nat}

/-- The stream that is moved. -/
def wire (scene : Scene) : Bytes :=
  scene.receiver.mode.wire scene.content

/-- Both sockets are open, and datagrams leave them. -/
structure Connected (scene : Scene) (network : Network) : Prop where
  faults : network.faults = []
  sender : network.HasAlone scene.sender.socket
  receiver : network.HasAlone scene.receiver.socket

theorem Connected.congr (h : scene.Connected network) {after : Network}
    (sockets : after.sockets = network.sockets) (faults : after.faults = network.faults) :
    scene.Connected after :=
  ⟨faults.trans h.faults, h.sender.congr sockets, h.receiver.congr sockets⟩

theorem receiverOf?_sender_peer (scene : Scene) (h : network.HasAlone scene.receiver.socket) :
    network.receiverOf? scene.sender.peer = some scene.receiver.socket := by
  rw [← scene.toSender.source]
  exact h.receiverOf?_sourceFor _

theorem receiverOf?_receiver_peer (scene : Scene) (h : network.HasAlone scene.sender.socket) :
    network.receiverOf? scene.receiver.peer = some scene.sender.socket := by
  rw [← scene.toReceiver.source]
  exact h.receiverOf?_sourceFor _

theorem sender_ports (scene : Scene) :
    scene.sender.socket ∉ scene.sending.ports ∧ scene.sender.socket ∉ scene.receiving.ports := by
  have hports := scene.senderPorts
  rw [List.mem_append, not_or] at hports
  exact hports

theorem receiver_ports (scene : Scene) :
    scene.receiver.socket ∉ scene.sending.ports ∧
      scene.receiver.socket ∉ scene.receiving.ports := by
  have hports := scene.receiverPorts
  rw [List.mem_append, not_or] at hports
  exact hports

/-- The sending party does not have the socket of the other one. -/
theorem receiver_not_mem (scene : Scene) {sending : Transfer}
    (h : sending.socket = scene.sender.socket) :
    ∀ activity ∈ some (scene.sending.activity sending),
      scene.receiver.socket ∉ activity.body.sockets :=
  Party.not_mem_sockets scene.receiver_ports.1 (h ▸ scene.apart.symm)

/-- Nor does the receiving party. -/
theorem sender_not_mem (scene : Scene) {receiving : Transfer}
    (h : receiving.socket = scene.receiver.socket) :
    ∀ activity ∈ some (scene.receiving.activity receiving),
      scene.sender.socket ∉ activity.body.sockets :=
  Party.not_mem_sockets scene.sender_ports.2 (h ▸ scene.apart)

/-- What a transfer leaves as it is. -/
structure Leaves (scene : Scene) (before after : World) : Prop where
  now : after.now = before.now
  sockets : after.machine.network.sockets = before.machine.network.sockets
  reports : after.reports = before.reports
  files : before.machine.files.SameBut after.machine.files scene.file

theorem Leaves.refl (scene : Scene) (world : World) : scene.Leaves world world :=
  ⟨rfl, rfl, rfl, .refl _ _⟩

theorem Leaves.trans (h : scene.Leaves before middle) (h' : scene.Leaves middle after) :
    scene.Leaves before after where
  now := h'.now.trans h.now
  sockets := h'.sockets.trans h.sockets
  reports := h'.reports.trans h.reports
  files := h.files.trans h'.files

/-- The file is being moved: so many blocks are acknowledged and so many are stored, and the packet
of the near end is on its way. -/
structure Underway (scene : Scene) (spare acknowledged stored : Nat) (near : Endpoint)
    (packet : Bytes) (world : World) : Prop where
  connected : scene.Connected world.machine.network
  outbox : world.machine.network.outbox = [near.datagram world.now packet]
  transfers : ∃ sending receiving,
    world.activities = scene.role.seats (some (scene.sending.activity sending))
      (some (scene.receiving.activity receiving)) ∧
    Serving scene.sender scene.handle scene.wire acknowledged world.machine.files sending ∧
    Storing scene.receiver scene.file scene.content spare stored world.machine.files receiving ∧
    world.now < sending.exchange.deadline ∧ world.now < receiving.exchange.deadline

theorem Underway.isCalm {near : Endpoint} {packet : Bytes}
    (h : scene.Underway spare acknowledged stored near packet world) : world.IsCalm := by
  obtain ⟨-, -, sending, receiving, hactivities, -, -, hsending, hreceiving⟩ := h
  exact World.isCalm_of_seats hactivities (scene.sending.deadline_of_mem hsending)
    (scene.receiving.deadline_of_mem hreceiving)

/-- A data packet that is not the last one is stored and acknowledged. -/
theorem Underway.step_data (h : scene.Underway spare index index scene.sender
      (dataPacket scene.wire index) world) (hmore : index + 1 < blockCount scene.wire) :
    ∃ next, world.Steps next ∧ scene.Leaves world next ∧
      scene.Underway spare index (index + 1) scene.receiver (ackPacket (index + 1)) next := by
  have calm := h.isCalm
  obtain ⟨connected, houtbox, sending, receiving, hactivities, serving, storing, hsending, -⟩ := h
  let departed := world.departed (scene.sender.datagram world.now (dataPacket scene.wire index))
  have free : scene.receiver.IsFree departed.machine.network :=
    ⟨connected.faults, scene.toSender.family⟩
  have storing' : Storing scene.receiver scene.file scene.content spare index
    departed.machine.files receiving := storing
  obtain ⟨next, files, stored, same, hdeadline, hrun⟩ :=
    storing'.run_current free hmore world.now world.waits
  rw [← scene.toReceiver.source] at hrun
  rw [← Role.seats_opposite] at hactivities
  have hport := scene.receiver_ports.2
  have apart := scene.receiver_not_mem serving.socket_eq
  have hreceiver := scene.receiverOf?_sender_peer connected.receiver
  rw [← storing.socket_eq] at hport apart hreceiver
  refine ⟨_, calm.steps_running hactivities houtbox hreceiver hport apart hrun,
    ⟨rfl, rfl, rfl, same⟩,
    ⟨connected.congr rfl rfl, rfl, sending, next,
      Role.seats_opposite _ _ _, serving.congr ?_, stored, hsending, ?_⟩⟩
  · intro id hid
    exact same.others id fun heq ↦ scene.untouched (heq ▸ hid)
  · rw [hdeadline]
    exact Nat.lt_add_of_pos_right scene.toSender.isPatient

/-- An acknowledgment that is not the last one has the next block sent. -/
theorem Underway.step_ack (h : scene.Underway spare index (index + 1) scene.receiver
      (ackPacket (index + 1)) world) (hmore : index + 1 < blockCount scene.wire) :
    ∃ next, world.Steps next ∧ scene.Leaves world next ∧
      scene.Underway spare (index + 1) (index + 1) scene.sender
        (dataPacket scene.wire (index + 1)) next := by
  have calm := h.isCalm
  obtain ⟨connected, houtbox, sending, receiving, hactivities, serving, storing, -, hreceiving⟩ := h
  let departed := world.departed (scene.receiver.datagram world.now (ackPacket (index + 1)))
  have free : scene.sender.IsFree departed.machine.network :=
    ⟨connected.faults, scene.toReceiver.family⟩
  have serving' : Serving scene.sender scene.handle scene.wire index departed.machine.files
    sending := serving
  obtain ⟨next, served, hdeadline, hrun⟩ :=
    serving'.run_acknowledged free hmore world.now world.waits
  rw [← scene.toSender.source] at hrun
  have hport := scene.sender_ports.1
  have apart := scene.sender_not_mem storing.socket_eq
  have hreceiver := scene.receiverOf?_receiver_peer connected.sender
  rw [← serving.socket_eq] at hport apart hreceiver
  refine ⟨_, calm.steps_running hactivities houtbox hreceiver hport apart hrun,
    ⟨rfl, rfl, rfl, .refl _ _⟩,
    ⟨connected.congr rfl rfl, rfl, next, receiving,
      rfl, served, storing, ?_, hreceiving⟩⟩
  rw [hdeadline]
  exact Nat.lt_add_of_pos_right scene.toReceiver.isPatient

/-- The transfer advances by one block. -/
theorem Underway.advance (h : scene.Underway spare index index scene.sender
      (dataPacket scene.wire index) world) (hmore : index + 1 < blockCount scene.wire) :
    ∃ next, World.Comes world next ∧ scene.Leaves world next ∧
      scene.Underway spare (index + 1) (index + 1) scene.sender
        (dataPacket scene.wire (index + 1)) next := by
  obtain ⟨middle, hdata, leaves, answered⟩ := h.step_data hmore
  obtain ⟨next, hack, leaves', underway⟩ := answered.step_ack hmore
  exact ⟨next, .head hdata (.single hack), leaves.trans leaves', underway⟩

/-- It comes to every block that there is. -/
theorem Underway.exists_comes (h : scene.Underway spare 0 0 scene.sender
      (dataPacket scene.wire 0) world) (hindex : index < blockCount scene.wire) :
    ∃ next, World.Comes world next ∧ scene.Leaves world next ∧
      scene.Underway spare index index scene.sender (dataPacket scene.wire index) next := by
  induction index with
  | zero => exact ⟨world, .refl, .refl scene world, h⟩
  | succ index ih =>
    obtain ⟨middle, hcomes, leaves, underway⟩ := ih (Nat.lt_of_succ_lt hindex)
    obtain ⟨next, hcomes', leaves', underway'⟩ := underway.advance hindex
    exact ⟨next, hcomes.trans hcomes', leaves.trans leaves', underway'⟩

/-! ## The end -/

def summary (scene : Scene) : Summary :=
  ⟨blockCount scene.wire, scene.wire.length⟩

/-- The whole file is stored, and its last acknowledgment is on its way. -/
structure Received (scene : Scene) (spare : Nat) (before after : World) : Prop where
  faults : after.machine.network.faults = []
  sender : after.machine.network.HasAlone scene.sender.socket
  outbox : after.machine.network.outbox =
    [scene.receiver.datagram after.now (ackPacket (blockCount scene.wire))]
  transfers : ∃ index sending, index + 1 = blockCount scene.wire ∧
    after.activities = scene.role.seats (some (scene.sending.activity sending))
      scene.receiving.rest ∧
    Serving scene.sender scene.handle scene.wire index after.machine.files sending ∧
    after.now < sending.exchange.deadline
  now : after.now = before.now
  sockets : after.machine.network.sockets =
    before.machine.network.sockets.filter (· ≠ scene.receiver.socket)
  reports : after.reports = (before.record (scene.receiving.news scene.summary)).reports
  files : before.machine.files.SameBut after.machine.files scene.file
  stored : ∃ contents, after.machine.files.file? scene.file = some { contents } ∧
    contents.toBytes = scene.content
  room : after.machine.files.free.all (spare ≤ ·)

/-- The last data packet completes the file. -/
theorem Underway.step_data_last (h : scene.Underway spare index index scene.sender
      (dataPacket scene.wire index) world) (hlast : index + 1 = blockCount scene.wire) :
    ∃ next, world.Steps next ∧ scene.Received spare world next := by
  have calm := h.isCalm
  obtain ⟨connected, houtbox, sending, receiving, hactivities, serving, storing, hsending, -⟩ := h
  let departed := world.departed (scene.sender.datagram world.now (dataPacket scene.wire index))
  have free : scene.receiver.IsFree departed.machine.network :=
    ⟨connected.faults, scene.toSender.family⟩
  have storing' : Storing scene.receiver scene.file scene.content spare index
    departed.machine.files receiving := storing
  obtain ⟨session, stream, files, contents, hfile, hbytes, room, same, hrun⟩ :=
    storing'.run_current_last free hlast world.now world.waits
  rw [← scene.toReceiver.source] at hrun
  rw [← Role.seats_opposite] at hactivities
  have hport := scene.receiver_ports.2
  have apart := scene.receiver_not_mem serving.socket_eq
  have hreceiver := scene.receiverOf?_sender_peer connected.receiver
  have hsocket := storing.socket_eq
  rw [← hsocket] at hport apart hreceiver
  have hsteps := calm.steps_completed hactivities houtbox hreceiver hport apart hrun
  obtain ⟨upload, hupload, hid⟩ := Option.map_eq_some_iff.mp scene.receives
  rw [hupload, hsocket] at hsteps
  have same' : world.machine.files.SameBut (files.closeFile upload.file) scene.file := by
    rw [hid]
    exact same.trans (.closeFile files scene.file)
  have hstored : (files.closeFile upload.file).file? scene.file =
      some { contents := contents.pack } := by
    rw [hid, file?_closeFile, hfile]
    rfl
  refine ⟨_, hsteps, ⟨connected.faults, ?_, ?_, ⟨index, sending, hlast, ?_, ?_, hsending⟩, rfl, rfl,
    rfl, same', ⟨contents.pack, hstored, hbytes⟩, room⟩⟩
  · exact (connected.sender.close scene.apart).congr rfl
  · rw [← hlast]
    rfl
  · exact Role.seats_opposite _ _ _
  · refine serving.congr ?_
    intro id hid
    exact same'.others id fun heq ↦ scene.untouched (heq ▸ hid)

/-- Nothing of the transfer is left but the file that was received and what is told about it. -/
structure Ends (scene : Scene) (spare : Nat) (before after : World) : Prop where
  activities : after.activities = scene.role.seats scene.sending.rest scene.receiving.rest
  now : after.now = before.now
  outbox : after.machine.network.outbox = []
  faults : after.machine.network.faults = []
  sockets : after.machine.network.sockets =
    (before.machine.network.sockets.filter (· ≠ scene.receiver.socket)).filter
      (· ≠ scene.sender.socket)
  reports : after.reports = (before.record
    (scene.receiving.news scene.summary ++ scene.sending.news scene.summary)).reports
  files : before.machine.files.SameBut after.machine.files scene.file
  stored : ∃ contents, after.machine.files.file? scene.file = some { contents } ∧
    contents.toBytes = scene.content
  room : after.machine.files.free.all (spare ≤ ·)

theorem Ends.of_leaves (h : scene.Ends spare middle world) (leaves : scene.Leaves before middle) :
    scene.Ends spare before world where
  activities := h.activities
  now := h.now.trans leaves.now
  outbox := h.outbox
  faults := h.faults
  sockets := by rw [h.sockets, leaves.sockets]
  reports := h.reports.trans (World.reports_record_congr leaves.now leaves.reports _)
  files := leaves.files.trans h.files
  stored := h.stored
  room := h.room

/-- The last acknowledgment completes the transfer. -/
theorem Received.step_ack (h : scene.Received spare before world) :
    ∃ next, world.Steps next ∧ scene.Ends spare before next := by
  obtain ⟨hfaults, halone, houtbox, ⟨index, sending, hlast, hactivities, serving, hsending⟩, hnow,
    hsockets, hreports, same, stored, room⟩ := h
  have calm : world.IsCalm := by
    refine World.isCalm_of_seats hactivities (scene.sending.deadline_of_mem hsending) ?_
    intro activity hactivity alarm halarm
    rw [scene.receiving.alarms_of_mem_rest hactivity] at halarm
    exact absurd halarm List.not_mem_nil
  rw [← hlast] at houtbox
  let departed := world.departed (scene.receiver.datagram world.now (ackPacket (index + 1)))
  have serving' : Serving scene.sender scene.handle scene.wire index departed.machine.files
    sending := serving
  obtain ⟨session, stream, hrun⟩ := serving'.run_acknowledged_last hlast world.now world.waits
  rw [← scene.toSender.source] at hrun
  have hport := scene.sender_ports.1
  have hreceiver := scene.receiverOf?_receiver_peer halone
  have apart : ∀ activity ∈ scene.receiving.rest,
      scene.sender.socket ∉ activity.body.sockets := by
    intro activity hactivity
    rw [scene.receiving.sockets_of_mem_rest hactivity]
    exact scene.sender_ports.2
  have hsocket := serving.socket_eq
  rw [← hsocket] at hport apart hreceiver
  have hsteps := calm.steps_completed hactivities houtbox hreceiver hport apart hrun
  rw [scene.sends, hsocket] at hsteps
  refine ⟨_, hsteps, ⟨rfl, hnow, rfl, hfaults, ?_, ?_, same, stored, room⟩⟩
  · rw [← hsockets]
    rfl
  · rw [World.record_append]
    have hnow' : world.now = (before.record (scene.receiving.news scene.summary)).now := hnow
    exact World.reports_record_congr hnow' hreports _

/-- A transfer that has begun comes to its end. -/
theorem Underway.exists_ends (h : scene.Underway spare 0 0 scene.sender
      (dataPacket scene.wire 0) world) :
    ∃ last, World.Comes world last ∧ scene.Ends spare world last := by
  have hcount : blockCount scene.wire - 1 + 1 = blockCount scene.wire :=
    Nat.succ_pred_eq_of_pos (Nat.succ_pos _)
  obtain ⟨before, hcomes, leaves, underway⟩ := h.exists_comes (Nat.le_of_eq hcount)
  obtain ⟨received, hdata, hreceived⟩ := underway.step_data_last hcount
  obtain ⟨last, hack, ends⟩ := hreceived.step_ack
  exact ⟨last, hcomes.trans (.head hdata (.single hack)), ends.of_leaves leaves⟩

end Scene

end Lockstep
