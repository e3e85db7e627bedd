import Lockstep.Proofs.Reactions
import Lockstep.Proofs.Streams

/-!
# Ends of a transfer

What stays the same at one end of a transfer from its start on, and the two ways in which a turn
that sends one packet can end: the packet leaves and the transfer has become what the turn made of
it, or it does not leave and the transfer has failed with the error of the socket.
-/

namespace Lockstep

namespace Course

/-- How far the session has come. -/
def stage : Course → Stage
  | .running transfer => transfer.session.stage
  | .ended session _ _ => session.stage

def stream : Course → Stream
  | .running transfer => transfer.stream
  | .ended _ stream _ => stream

/-- The blocks that have been acknowledged or stored so far. -/
def blocks : Course → Nat
  | .running transfer => transfer.exchange.summary.blocks
  | .ended _ _ (.ok summary) => summary.blocks
  | .ended _ _ (.error _) => 0

end Course

/-- The transfer at another point of its wait. -/
def Transfer.retimed (transfer : Transfer) (attempts deadline since : Nat) : Transfer :=
  { transfer with exchange := { transfer.exchange with attempts, deadline }, since }

/-- The acknowledgment of a block whose number is counted without a bound. -/
def ackPacket (number : Nat) : Bytes :=
  Packet.encodeAck (UInt16.ofNat number)

theorem Transfer.received_of_length_le {source : SocketAddress} {datagram : Bytes}
    (h : datagram.length ≤ sessionBuffer) :
    received (.arrival source datagram) = .arrival source datagram := by
  rw [received, List.take_of_length_le h]

theorem Transfer.received_encodeData {source : SocketAddress} {block : BlockNumber}
    {payload : Bytes} (h : payload.length ≤ blockSize) :
    received (.arrival source (Packet.encodeData block payload)) =
      .arrival source (Packet.encodeData block payload) := by
  apply received_of_length_le
  rw [Packet.length_encodeData]
  simp only [headerSize, blockSize, sessionBuffer] at h ⊢
  omega

@[simp]
theorem Transfer.received_expiry : received .expiry = .expiry := rfl

theorem received_ackPacket (source : SocketAddress) (number : Nat) :
    Transfer.received (.arrival source (ackPacket number)) = .arrival source (ackPacket number) :=
  rfl

/-- What is fixed at one end of a transfer. -/
structure Endpoint where
  socket : SocketAddress
  peer : SocketAddress
  mode : Mode
  config : TransferConfig

namespace Endpoint

/-- The session is one of this end, and it is at work. -/
structure Drives (endpoint : Endpoint) (session : Session) : Prop where
  peer : session.peer = endpoint.peer
  bound : session.bound = true
  mode : session.mode = endpoint.mode
  config : session.config = endpoint.config
  stage : session.stage = .transferring

/-- The transfer is one of this end, and its session is at work. -/
structure Owns (endpoint : Endpoint) (transfer : Transfer) : Prop where
  socket : transfer.socket = endpoint.socket
  drives : endpoint.Drives transfer.session

/-- The session that an accepted request begins with at this end. -/
def session (endpoint : Endpoint) : Session :=
  Session.accepted endpoint.peer endpoint.mode endpoint.config

/-- The turn that led to `outcome` sent one packet to the peer and went on to `course`, unless the
packet could not leave. -/
def Posts (endpoint : Endpoint) (machine : Machine) (packet : Bytes) (course : Course)
    (outcome : Course × Machine) : Prop :=
  let reply := machine.network.send machine.now endpoint.socket endpoint.peer packet
  outcome.2 = { machine with network := reply.2 } ∧
    match reply.1 with
    | .ok () => outcome.1 = course
    | .error error => ∃ session, session.stage = .failed ∧
      outcome.1 = .ended session course.stream (.error (.socket error))

/-- The datagram that takes a packet to the peer. -/
def datagram (endpoint : Endpoint) (now : Nat) (packet : Bytes) : Datagram :=
  ⟨now, endpoint.socket.sourceFor endpoint.peer, endpoint.peer, packet⟩

/-- The machine after a notice to a stranger. -/
def notified (endpoint : Endpoint) (machine : Machine) (source : SocketAddress) : Machine :=
  { machine with network := (machine.network.send machine.now endpoint.socket source
    (Packet.error (Notice.ofCode .unknownTransferId)).encode).2 }

theorem posts_sendToPeer {endpoint : Endpoint} {session : Session}
    (hpeer : session.peer = endpoint.peer) (machine : Machine) (packet : Bytes)
    (progress : Session.Progress) (stream : Stream) (since : Nat) :
    endpoint.Posts machine packet (progress.course endpoint.socket since stream)
      (machine.run (Transfer.takeTurn endpoint.socket stream
        (session.sendToPeer packet (.done progress)) since)) := by
  have hstream : (progress.course endpoint.socket since stream).stream = stream := by
    cases progress <;> rfl
  simp only [Posts, Transfer.run_takeTurn, Session.sendToPeer, Dialogue.run, Stream.reply_send,
    hpeer, hstream]
  rcases (machine.network.send machine.now endpoint.socket endpoint.peer packet).1 with _ | _
  · exact ⟨rfl, _, rfl, rfl⟩
  · exact ⟨rfl, rfl⟩

/-- What a turn that sends one packet leaves in an empty outbox, and what it leads to. -/
theorem Posts.cases {endpoint : Endpoint} {machine : Machine} {packet : Bytes} {course : Course}
    {outcome : Course × Machine} (h : endpoint.Posts machine packet course outcome)
    (hempty : machine.network.outbox = []) :
    (outcome.1 = course ∧
      outcome.2.network.outbox = [endpoint.datagram machine.now packet]) ∨
    (∃ session error, session.stage = .failed ∧
      outcome.1 = .ended session course.stream (.error (.socket error)) ∧
      outcome.2.network.outbox = []) := by
  obtain ⟨hmachine, hcourse⟩ := h
  rcases machine.network.send_cases machine.now endpoint.socket endpoint.peer packet with
    ⟨error, faults, hsend⟩ | hsend
  · rw [hsend] at hmachine hcourse
    obtain ⟨session, hstage, houtcome⟩ := hcourse
    exact .inr ⟨session, error, hstage, houtcome, by rw [hmachine]; exact hempty⟩
  · rw [hsend] at hmachine hcourse
    refine .inl ⟨hcourse, ?_⟩
    rw [hmachine]
    simp only [hempty, List.nil_append]
    rfl

/-- A packet always leaves a machine that nothing is wrong with. -/
theorem Posts.of_clear {endpoint : Endpoint} {machine : Machine} {packet : Bytes} {course : Course}
    {outcome : Course × Machine} (h : endpoint.Posts machine packet course outcome)
    (hfaults : machine.network.faults = [])
    (hfamily : endpoint.socket.ip.family = endpoint.peer.ip.family)
    (hlength : packet.length ≤ maxDatagramSize) :
    outcome = (course, { machine with
      network := { machine.network with
        outbox := machine.network.outbox ++ [endpoint.datagram machine.now packet] } }) := by
  obtain ⟨hmachine, hcourse⟩ := h
  rw [Network.send_of_clear hfaults hfamily hlength] at hmachine hcourse
  exact Prod.ext hcourse hmachine

namespace Owns

variable {endpoint : Endpoint} {transfer : Transfer}

/-- A timeout beyond the budget ends the transfer. -/
theorem run_expiry_last (h : endpoint.Owns transfer)
    (hbudget : endpoint.config.maxRetries ≤ transfer.exchange.attempts + 1) (machine : Machine)
    (now since : Nat) :
    ∃ session, session.stage = .failed ∧
      machine.run (transfer.react .expiry now since) =
        (.ended session transfer.stream (.error (.timeout (transfer.exchange.attempts + 1))),
          machine) := by
  have hturn : transfer.session.react transfer.exchange .expiry now =
      transfer.session.fail (.timeout (transfer.exchange.attempts + 1)) := by
    simp only [Session.react, Session.expire, Session.retryBudget, h.drives.bound,
      h.drives.config, if_true, ge_iff_le, hbudget]
  refine ⟨{ transfer.session with stage := .failed }, rfl, ?_⟩
  rw [Transfer.run_react, Transfer.received_expiry, hturn]
  rfl

/-- A timeout within the budget repeats the packet that was sent last. -/
theorem run_expiry (h : endpoint.Owns transfer)
    (hbudget : transfer.exchange.attempts + 1 < endpoint.config.maxRetries) (machine : Machine)
    (now since : Nat) :
    endpoint.Posts machine transfer.exchange.outstanding
      (.running (transfer.retimed (transfer.exchange.attempts + 1)
        (now + endpoint.config.timeout) since))
      (machine.run (transfer.react .expiry now since)) := by
  have hturn : transfer.session.react transfer.exchange .expiry now =
      transfer.session.sendToPeer transfer.exchange.outstanding
        (transfer.session.await { transfer.exchange with
          attempts := transfer.exchange.attempts + 1
          deadline := now + endpoint.config.timeout }) := by
    simp only [Session.react, Session.expire, Session.retryBudget, h.drives.bound,
      h.drives.config, if_true, ge_iff_le, Nat.not_le.mpr hbudget, if_false,
      Session.deadlineFrom]
  rw [Transfer.run_react, Transfer.received_expiry, hturn, h.socket]
  have hcourse : Course.running (transfer.retimed (transfer.exchange.attempts + 1)
        (now + endpoint.config.timeout) since) =
      (Session.Progress.waiting transfer.session { transfer.exchange with
        attempts := transfer.exchange.attempts + 1
        deadline := now + endpoint.config.timeout }).course endpoint.socket since
          transfer.stream := by
    rw [← h.socket]
    rfl
  rw [hcourse]
  exact posts_sendToPeer h.drives.peer machine _ _ _ _

/-- A receive error either goes by or ends the transfer with an error of the socket. -/
theorem run_receiveError (transfer : Transfer) (error : SystemError) (machine : Machine)
    (now since : Nat) :
    machine.run (transfer.react (.receiveError error) now since) =
        (.running { transfer with since }, machine) ∨
    ∃ session, session.stage = .failed ∧
      machine.run (transfer.react (.receiveError error) now since) =
        (.ended session transfer.stream (.error (.socket error)), machine) := by
  rw [Transfer.run_react, Transfer.run_takeTurn]
  simp only [Transfer.received, Session.react, Session.trip]
  cases error.isBounce with
  | true => exact .inl rfl
  | false => exact .inr ⟨{ transfer.session with stage := .failed }, rfl, rfl⟩

/-- A stranger gets a notice and changes nothing. -/
theorem run_stranger (h : endpoint.Owns transfer) {source : SocketAddress}
    (hsource : source ≠ endpoint.peer) (datagram : Bytes) (machine : Machine) (now since : Nat) :
    machine.run (transfer.react (.arrival source datagram) now since) =
      (.running { transfer with since }, endpoint.notified machine source) := by
  have hne : source ≠ transfer.session.peer := by
    rw [h.drives.peer]
    exact hsource
  rw [Transfer.run_react, Transfer.received, Session.react_stranger h.drives.bound hne,
    Transfer.run_takeTurn, h.socket]
  simp only [Session.notify, Session.await, Dialogue.run, Stream.reply_send,
    Session.Progress.course, notified, ← h.socket]
  rfl

end Owns

end Endpoint

end Lockstep
