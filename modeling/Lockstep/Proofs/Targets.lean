import Lockstep.Proofs.Routing
import Lockstep.Proofs.WireFormat

/-!
# Targets and packets

What a datagram can be targeted as is told from its first four bytes, and what it is read as from
all of them. The two agree on everything that is read, and error notices are no targets. They do not
agree on all that is not read: of a request only the opcode is looked at, and of a block or an
acknowledgment that is too long only what stands in front of the surplus. So what a relay alters, or
takes for the request of a client, is a packet of that kind or has one of these defects, and one that
has such a defect is altered and taken for a request like any other.
-/

namespace Lockstep

namespace Packet

/-- What a packet can be targeted as. -/
def target? : Packet → Option Target
  | .readRequest _ | .writeRequest _ => some .request
  | .data block _ | .ack block => some (.block block)
  | .error _ => none

end Packet

namespace Defect

/-- The opcode is that of a request, and something is wrong behind it. -/
def IsOfRequest (defect : Defect) : Prop :=
  defect ∈ [filenameNotTerminated, filenameNotText, modeNotTerminated, modeNotText, trailingBytes]

/-- The block number is there, and so is more than there should be. -/
def IsOfLength (defect : Defect) : Prop :=
  defect ∈ [payloadTooLong, ackTooLong]

instance : DecidablePred IsOfRequest := fun _ ↦ inferInstanceAs (Decidable (_ ∈ _))

instance : DecidablePred IsOfLength := fun _ ↦ inferInstanceAs (Decidable (_ ∈ _))

theorem not_isOfLength {defect : Defect} (h : defect.IsOfRequest) : ¬ defect.IsOfLength := by
  cases defect <;> revert h <;> decide

end Defect

/-- The datagram is not read, but its first four bytes do not show why. -/
def DecodeError.IsOverlooked : DecodeError → Prop
  | .unknownOpcode _ => False
  | .malformed defect => defect.IsOfRequest ∨ defect.IsOfLength

namespace Packet

variable {datagram body : Bytes} {defect : Defect}

/-! ## Defects -/

theorem isOfRequest_of_decodeRequest (h : decodeRequest body = .error defect) :
    defect.IsOfRequest := by
  unfold decodeRequest at h
  repeat' split at h
  all_goals cases h
  all_goals decide

/-- What the reading of a datagram tells about its target. -/
def readTarget? (datagram : Bytes) : Except DecodeError Packet → Option Target
  | .ok packet => packet.target?
  | .error (.unknownOpcode _) => none
  | .error (.malformed defect) =>
    if defect.IsOfRequest then some .request
    else if defect.IsOfLength then datagram.secondWord?.map .block
    else none

/-- The reading of a datagram tells its target. -/
theorem ofDatagram?_eq (datagram : Bytes) :
    Target.ofDatagram? datagram = readTarget? datagram (decode datagram) := by
  rcases datagram with _ | ⟨high, _ | ⟨low, body⟩⟩
  · rfl
  · rfl
  · unfold Target.ofDatagram? leadingOpcode? decode
    rw [Bytes.firstWord?, Option.bind_some]
    -- Behind the opcode the two go different ways: one looks at a word, the other reads the body.
    dsimp only
    cases Opcode.ofNumber? (Bytes.word high low) with
    | none => rfl
    | some opcode =>
      cases opcode with
      | readRequest | writeRequest =>
        dsimp only [decodeBody]
        cases hbody : decodeRequest body with
        | error defect => exact (if_pos (isOfRequest_of_decodeRequest hbody)).symm
        | ok request => rfl
      | data =>
        dsimp only [decodeBody]
        rcases body with _ | ⟨first, _ | ⟨second, payload⟩⟩
        · rfl
        · rfl
        · by_cases long : payload.length > blockSize
          · rw [decodeData, if_pos long]
            rfl
          · rw [decodeData, if_neg long]
            rfl
      | acknowledgment =>
        rcases body with _ | ⟨first, _ | ⟨second, _ | ⟨surplus, rest⟩⟩⟩ <;> rfl
      | error =>
        dsimp only [decodeBody]
        rcases body with _ | ⟨first, _ | ⟨second, rest⟩⟩
        · rfl
        · rfl
        · unfold decodeError
          dsimp only
          cases Bytes.splitAtZero? rest <;> rfl

theorem target?_eq_request_iff {packet : Packet} :
    packet.target? = some .request ↔
      ∃ request, packet = .readRequest request ∨ packet = .writeRequest request := by
  cases packet <;> simp [target?]

theorem target?_eq_block_iff {packet : Packet} {number : BlockNumber} :
    packet.target? = some (.block number) ↔
      (∃ payload, packet = .data number payload) ∨ packet = .ack number := by
  cases packet <;> simp [target?, eq_comm]

theorem target?_eq_none_iff {packet : Packet} :
    packet.target? = none ↔ ∃ notice, packet = .error notice := by
  cases packet <;> simp [target?]

theorem two_le_length_of_decodeBody {opcode : Opcode}
    (h : decodeBody opcode body = .error defect) (length : defect.IsOfLength) :
    2 ≤ body.length := by
  cases opcode with
  | readRequest | writeRequest =>
    dsimp only [decodeBody] at h
    cases hbody : decodeRequest body with
    | error other =>
      rw [hbody] at h
      cases h
      exact absurd length (Defect.not_isOfLength (isOfRequest_of_decodeRequest hbody))
    | ok request =>
      rw [hbody] at h
      cases h
  | data | acknowledgment | error =>
    rcases body with _ | ⟨first, _ | ⟨second, rest⟩⟩
    · cases h
      exact absurd length (by decide)
    · cases h
      exact absurd length (by decide)
    · simp

/-- A datagram that is too long has a block number. -/
theorem isSome_secondWord? (h : decode datagram = .error (.malformed defect))
    (length : defect.IsOfLength) : datagram.secondWord?.isSome := by
  rcases datagram with _ | ⟨high, _ | ⟨low, body⟩⟩
  · cases h
    exact absurd length (by decide)
  · cases h
    exact absurd length (by decide)
  · rw [decode] at h
    cases hopcode : Opcode.ofNumber? (Bytes.word high low) with
    | none =>
      rw [hopcode] at h
      cases h
    | some opcode =>
      rw [hopcode] at h
      dsimp only at h
      cases hbody : decodeBody opcode body with
      | ok packet =>
        rw [hbody] at h
        cases h
      | error other =>
        rw [hbody] at h
        cases h
        have long := two_le_length_of_decodeBody hbody length
        rcases body with _ | ⟨first, _ | ⟨second, rest⟩⟩
        · cases long
        · cases Nat.le_of_succ_le_succ long
        · rfl

end Packet

namespace Target

/-- What a datagram can be targeted as is what it is read as, or what its beginning looks like. -/
structure Agrees (datagram : Bytes) : Prop where
  request : ofDatagram? datagram = some .request ↔
    (∃ request, Packet.decode datagram = .ok (.readRequest request) ∨
      Packet.decode datagram = .ok (.writeRequest request)) ∨
    ∃ defect : Defect, defect.IsOfRequest ∧
      Packet.decode datagram = .error (.malformed defect)
  block : ∀ number, ofDatagram? datagram = some (.block number) ↔
    ((∃ payload, Packet.decode datagram = .ok (.data number payload)) ∨
      Packet.decode datagram = .ok (.ack number)) ∨
    ∃ defect : Defect, defect.IsOfLength ∧
      Packet.decode datagram = .error (.malformed defect) ∧ datagram.secondWord? = some number
  none : ofDatagram? datagram = none ↔
    (∃ notice, Packet.decode datagram = .ok (.error notice)) ∨
    ∃ error, Packet.decode datagram = .error error ∧ ¬ error.IsOverlooked

theorem agrees (datagram : Bytes) : Agrees datagram := by
  have target := Packet.ofDatagram?_eq datagram
  cases h : Packet.decode datagram with
  | ok packet =>
    have target : ofDatagram? datagram = packet.target? := by rw [target, h]; rfl
    constructor
    · simp [target, h, Packet.target?_eq_request_iff]
    · simp [target, h, Packet.target?_eq_block_iff]
    · simp [target, h, Packet.target?_eq_none_iff]
  | error error =>
    cases error with
    | unknownOpcode number =>
      have target : ofDatagram? datagram = Option.none := by rw [target, h]; rfl
      constructor <;> simp [target, h, DecodeError.IsOverlooked]
    | malformed defect =>
      have overlooked : (DecodeError.malformed defect).IsOverlooked ↔
          defect.IsOfRequest ∨ defect.IsOfLength := Iff.rfl
      have target : ofDatagram? datagram =
          if defect.IsOfRequest then some .request
          else if defect.IsOfLength then datagram.secondWord?.map .block
          else Option.none := by
        rw [target, h]
        rfl
      by_cases request : defect.IsOfRequest
      · have long : ¬ defect.IsOfLength := Defect.not_isOfLength request
        constructor <;> simp [target, h, request, long, overlooked]
      · by_cases long : defect.IsOfLength
        · obtain ⟨number, found⟩ := Option.isSome_iff_exists.mp (Packet.isSome_secondWord? h long)
          constructor <;> simp [target, h, request, long, overlooked, found]
        · constructor <;> simp [target, h, request, long, overlooked]

theorem ofDatagram?_of_decode {datagram : Bytes} {packet : Packet}
    (h : Packet.decode datagram = .ok packet) : ofDatagram? datagram = packet.target? := by
  rw [Packet.ofDatagram?_eq, h]
  rfl

end Target

namespace Relay

open Dialogue

variable {serverAddress : SocketAddress} {standing next : Standing} {arrival : Arrival}
  {taken : Option Alteration} {emissions : List Emission}

/-! ## Relays -/

/-- The datagram is altered, and taken for the request of a client, only for what it is read as, and
not at all if its beginning shows that it cannot be read. -/
structure Handling.IsMeant (entry : Handling) : Prop where
  altered : ∀ packet, Packet.decode entry.arrival.payload = .ok packet →
    ∀ alteration ∈ entry.taken,
      alteration.direction = entry.arrival.direction ∧ packet.target? = some alteration.target
  asks : ∀ packet, Packet.decode entry.arrival.payload = .ok packet →
    (entry.arrival.IsRequest ↔
      entry.arrival.direction = .clientToServer ∧ packet.opcode.isRequest = true)
  broken : ∀ error, Packet.decode entry.arrival.payload = .error error → ¬ error.IsOverlooked →
    ¬ entry.arrival.IsRequest ∧ entry.taken = none ∧
      ∀ emission ∈ entry.emissions, ∃ destination,
        emission = .forward entry.arrival.direction entry.arrival.payload destination

/-- An alteration is used up by a datagram that it is meant for. -/
theorem Treats.fits {alteration : Alteration}
    (treats : Treats serverAddress standing arrival (some alteration) emissions next) :
    alteration.fitsOn arrival.direction arrival.payload = true := by
  cases treats with
  | altered calm routed first fits kept => exact fits
  | dropped calm routed first fits gone => exact fits

/-- Without an alteration a datagram is sent as it is. -/
theorem Treats.unaltered (treats : Treats serverAddress standing arrival none emissions next) :
    ∀ emission ∈ emissions, ∃ destination,
      emission = .forward arrival.direction arrival.payload destination := by
  intro emission h
  cases treats with
  | unrouted calm unrouted => cases h
  | untouched calm routed unfit => exact ⟨_, List.mem_singleton.mp h⟩
  | replacement missing routed => exact ⟨_, List.mem_singleton.mp h⟩

theorem Treats.isMeant (treats : Treats serverAddress standing arrival taken emissions next) :
    Handling.IsMeant ⟨arrival, taken, emissions⟩ where
  altered := by
    rintro packet read alteration rfl
    have fits := Alteration.fitsOn_iff.mp treats.fits
    exact ⟨fits.1, (Target.ofDatagram?_of_decode read).symm.trans fits.2⟩
  asks := by
    intro packet read
    have target := Target.ofDatagram?_of_decode read
    unfold Arrival.IsRequest
    dsimp only at target ⊢
    rw [target]
    cases packet <;> simp [Packet.target?, Packet.opcode, Opcode.isRequest]
  broken := by
    intro error unread seen
    have target : Target.ofDatagram? arrival.payload = none :=
      (Target.agrees arrival.payload).none.mpr (.inr ⟨error, unread, seen⟩)
    have untaken : taken = none := by
      cases taken with
      | none => rfl
      | some alteration =>
        have fits := Alteration.fitsOn_iff.mp treats.fits
        cases target.symm.trans fits.2
    subst untaken
    refine ⟨fun asks ↦ ?_, rfl, treats.unaltered⟩
    cases target.symm.trans asks.2

variable {start : Relay} {received : List Arrival} {sent : List Departure} {rest : Rest}

/-- The target of a datagram is that of the packet which it is read as, unless it is not read for a
reason that its beginning does not show. In every history of a relay this decides what is altered
and what is taken for the request of a client. -/
theorem targets_of_histories (fresh : start.IsFresh)
    (history : Histories start received sent rest) :
    (∀ datagram, Target.Agrees datagram) ∧
      ∃ relay record, rest.ComesFrom relay ∧ Explained start received sent relay record ∧
        ∀ entry ∈ record, entry.IsMeant := by
  refine ⟨Target.agrees, ?_⟩
  obtain ⟨relay, record, comes, explained⟩ := history.exists_explained fresh
  refine ⟨relay, record, comes, explained, fun entry h ↦ ?_⟩
  obtain ⟨earlier, later, rfl⟩ := List.append_of_mem h
  obtain ⟨_, _, -, treats⟩ := explained.books.exists_treats
  exact treats.isMeant

/-- An acknowledgment that is too short cannot be altered, and is sent on as it is. -/
theorem targets_of_acknowledgment :
    let start : Relay := {
      clientSocket := { ip := .localhost .four, port := 2300 }
      serverSocket := { ip := .localhost .four, port := 2301 }
      serverAddress := { ip := .localhost .four, port := 6900 }
      buffer := 1500
      queue := .ofList [{ direction := .clientToServer, target := .block 0, drop := true }] }
    let client : SocketAddress := { ip := .localhost .four, port := 5000 }
    let received : List Arrival := [⟨.clientToServer, client, [0, 4, 0]⟩]
    let sent : List Departure := [⟨start.serverSocket, start.serverAddress, [0, 4, 0]⟩]
    start.IsFresh ∧ ∃ rest, Histories start received sent rest ∧
      (∀ datagram, Target.Agrees datagram) ∧
        ∃ relay record, rest.ComesFrom relay ∧ Explained start received sent relay record ∧
          ∀ entry ∈ record, entry.IsMeant := by
  rw [AlterationQueue.ofList_singleton]
  intro start client received sent
  have fresh : start.IsFresh := ⟨rfl, rfl, fun direction ↦ by cases direction <;> rfl, rfl⟩
  have forwards :
      ((start.enqueue start.clientSocket (.datagram client [0, 4, 0])).run 0 0).Leads
        [⟨.send start.serverSocket start.serverAddress [0, 4, 0], .ok ()⟩]
        (.waiting { start with client := some client }) :=
    leads_ask_iff.mpr ⟨_, _, rfl, leads_done_iff.mpr ⟨rfl, rfl⟩⟩
  have history : Histories start received sent (.waiting { start with client := some client }) :=
    (Histories.begun.arrives start.clientSocket client [0, 4, 0]).run forwards
  exact ⟨fresh, _, history, targets_of_histories fresh history⟩

/-- A request that is broken behind its opcode makes a relay forget whom it has served so far, and
uses up an alteration that is meant for requests. -/
theorem misled_by_request {datagram : Bytes} {defect : Defect}
    (broken : Packet.decode datagram = .error (.malformed defect)) (request : defect.IsOfRequest)
    (relay : Relay) (source : SocketAddress) :
    relay.route .clientToServer source datagram =
        ({ relay with client := some source, serverTid := none }, some relay.serverAddress) ∧
      ∀ alteration later, relay.queue.waiting = alteration :: later →
        alteration.direction = .clientToServer → alteration.target = .request →
        ∃ rest, relay.queue.take? .clientToServer datagram = some (alteration, rest) ∧
          rest.waiting = later := by
  have target : Target.ofDatagram? datagram = some .request :=
    (Target.agrees datagram).request.mpr (.inr ⟨defect, request, broken⟩)
  refine ⟨if_pos target, fun alteration later first direction meant ↦ ?_⟩
  apply AlterationQueue.exists_take?_eq_some first
  refine Alteration.fitsOn_iff.mpr ⟨direction, ?_⟩
  rw [target, meant]

end Relay

end Lockstep
