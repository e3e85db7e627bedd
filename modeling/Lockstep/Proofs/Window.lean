import Lockstep.Proofs.Outcomes

/-!
# The window of block numbers

Blocks are counted without end, and a packet carries sixteen bits of the count. From these bits a
session tells whether a packet is the awaited one, lies behind it or ahead of it. It is right about
every packet that is fewer than half of all numbers behind and no more than that ahead, however
often the numbers have begun anew.
-/

namespace Lockstep

namespace BlockNumber

/-- How a received number stands to the expected one: it is the same, behind it, or else ahead. -/
def standing (received expected : BlockNumber) : Ordering :=
  if received = expected then .eq else if received.isStale expected then .lt else .gt

theorem isStale_ofNat_iff {received expected : Nat} (behind : expected < received + 32768)
    (ahead : received ≤ expected + 32768) :
    isStale (UInt16.ofNat received) (UInt16.ofNat expected) = true ↔ received < expected := by
  rw [isStale_ofNat behind ahead, decide_eq_true_eq]

/-- Within the window the wrapped numbers stand to each other as the unwrapped ones do. -/
theorem standing_ofNat {received expected : Nat} (behind : expected < received + 32768)
    (ahead : received ≤ expected + 32768) :
    standing (UInt16.ofNat received) (UInt16.ofNat expected) = compare received expected := by
  have same := ofNat_eq_iff behind ahead
  have stale := isStale_ofNat_iff behind ahead
  unfold standing
  rcases Nat.lt_trichotomy received expected with less | equal | greater
  · rw [if_neg (mt same.mp (Nat.ne_of_lt less)), if_pos (stale.mpr less),
      compare_lt_iff_lt.mpr less]
  · rw [if_pos (same.mpr equal), compare_eq_iff_eq.mpr equal]
  · rw [if_neg (mt same.mp (Nat.ne_of_gt greater)), if_neg (mt stale.mp (Nat.lt_asymm greater)),
      compare_gt_iff_gt.mpr greater]

end BlockNumber

namespace Session

variable {session : Session} {exchange : Exchange} {source : SocketAddress} {datagram : Bytes}
  {now : Nat}

/-- What a session does about a block of its peer that stands like this to the awaited one. -/
def meetBlock (session : Session) (exchange : Exchange) (decoder : Netascii.Decoder)
    (block : BlockNumber) (payload : Bytes) (now : Nat) : Ordering → Turn Progress
  | .lt => session.sendToPeer exchange.outstanding (session.await exchange)
  | .eq => session.takePayload payload decoder exchange.summary now
  | .gt => session.reject s!"expected DATA #{session.block.toNat}, got #{block.toNat}"

/-- What it does about an acknowledgment that stands like this to the awaited one. -/
def meetAcknowledgment (session : Session) (exchange : Exchange) (expected block : BlockNumber)
    (now : Nat) : Ordering → Turn Progress
  | .lt => session.await exchange
  | .eq => session.proceed exchange now
  | .gt => session.reject s!"expected ACK #{expected.toNat}, got #{block.toNat}"

theorem takeData_data (session : Session) (exchange : Exchange) (decoder : Netascii.Decoder)
    (block : BlockNumber) (payload : Bytes) (now : Nat) :
    session.takeData exchange decoder (.data block payload) now =
      session.meetBlock exchange decoder block payload now (block.standing session.block) := by
  unfold takeData BlockNumber.standing
  dsimp only
  split
  · rfl
  · split <;> rfl

theorem takeAck_ack (session : Session) (exchange : Exchange) (expected block : BlockNumber)
    (now : Nat) :
    session.takeAck exchange expected (.ack block) (session.proceed exchange now) =
      session.meetAcknowledgment exchange expected block now (block.standing expected) := by
  unfold takeAck BlockNumber.standing
  dsimp only
  split
  · rfl
  · split <;> rfl

theorem react_of_data {decoder : Netascii.Decoder} {block : BlockNumber} {payload : Bytes}
    (awaited : exchange.awaited = .data decoder) (peer : ¬ session.IsStranger source)
    (decoded : Packet.decode datagram = .ok (.data block payload)) :
    session.react exchange (.arrival source datagram) now =
      (session.boundTo source).meetBlock exchange decoder block payload now
        (block.standing session.block) := by
  rw [arrive_of_peer peer, read, decoded]
  dsimp only
  rw [take, awaited]
  exact takeData_data _ _ _ _ _ _

theorem react_of_ack {expected block : BlockNumber}
    (awaited : session.expected? exchange = some expected) (peer : ¬ session.IsStranger source)
    (decoded : Packet.decode datagram = .ok (.ack block)) :
    session.react exchange (.arrival source datagram) now =
      (session.boundTo source).meetAcknowledgment exchange expected block now
        (block.standing expected) := by
  have awaited' : (session.boundTo source).expected? exchange = some expected := awaited
  rw [arrive_of_peer peer, read, decoded]
  dsimp only
  rw [take_eq_takeAck awaited']
  exact takeAck_ack _ _ _ _ _

/-- Packet number `received` is told apart from packet number `expected` although both numbers
are wrapped. -/
structure Discerns (received expected : Nat) : Prop where
  stale_iff : BlockNumber.isStale (UInt16.ofNat received) (UInt16.ofNat expected) = true ↔
    received < expected
  standing : BlockNumber.standing (UInt16.ofNat received) (UInt16.ofNat expected) =
    compare received expected
  /-- A session that awaits the block with the one number gets the block with the other one. -/
  block : ∀ {session : Session} {exchange : Exchange} {decoder : Netascii.Decoder}
    {source : SocketAddress} {datagram payload : Bytes} {now : Nat},
    exchange.awaited = .data decoder → session.block = UInt16.ofNat expected →
      ¬ session.IsStranger source →
      Packet.decode datagram = .ok (.data (UInt16.ofNat received) payload) →
        session.react exchange (.arrival source datagram) now =
          (session.boundTo source).meetBlock exchange decoder (UInt16.ofNat received) payload now
            (compare received expected)
  /-- A session that awaits the acknowledgment of the one gets the acknowledgment of the other. -/
  acknowledgment : ∀ {session : Session} {exchange : Exchange} {source : SocketAddress}
    {datagram : Bytes} {now : Nat},
    session.expected? exchange = some (UInt16.ofNat expected) → ¬ session.IsStranger source →
      Packet.decode datagram = .ok (.ack (UInt16.ofNat received)) →
        session.react exchange (.arrival source datagram) now =
          (session.boundTo source).meetAcknowledgment exchange (UInt16.ofNat expected)
            (UInt16.ofNat received) now (compare received expected)

/-- A packet is the awaited one, behind it or ahead of it exactly as its unwrapped number is. -/
theorem discerns_of_window {received expected : Nat} (behind : expected < received + 32768)
    (ahead : received ≤ expected + 32768) : Discerns received expected where
  stale_iff := BlockNumber.isStale_ofNat_iff behind ahead
  standing := BlockNumber.standing_ofNat behind ahead
  block awaited current peer decoded := by
    rw [react_of_data awaited peer decoded, current, BlockNumber.standing_ofNat behind ahead]
  acknowledgment awaited peer decoded := by
    rw [react_of_ack awaited peer decoded, BlockNumber.standing_ofNat behind ahead]

/-- The oldest packet that is known as old, in the second round of the numbers. -/
theorem discerns_oldest : 131071 < 98304 + 32768 ∧ 98304 ≤ 131071 + 32768 ∧
    Discerns 98304 131071 :=
  ⟨by decide, by decide, discerns_of_window (by decide) (by decide)⟩

end Session

end Lockstep
