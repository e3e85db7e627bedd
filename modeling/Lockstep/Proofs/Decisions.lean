import Lockstep.Proofs.Delivery
import Lockstep.Proofs.Speech

/-!
# Decisions of a session

What a session that waits decides to do about an event, case by case, with the turn that follows.
Whatever is to hold of all that a session does is proved of these cases, and not of the packets and
waits that lead to them.
-/

namespace Lockstep

namespace Session

/-- What a session that waits does about an event. -/
inductive Decides (session : Session) (exchange : Exchange) (now : Nat) :
    Event → Turn Progress → Prop
  /-- A stranger is told that it is one. -/
  | disown {source : SocketAddress} {datagram : Bytes} (stranger : session.IsStranger source) :
    Decides session exchange now (.arrival source datagram)
      (notify source .unknownTransferId ErrorCode.unknownTransferId.defaultMessage
        (session.await exchange))
  /-- The peer has sent nothing that can be read, or nothing that it may send now. -/
  | reject {source : SocketAddress} {datagram : Bytes} (peer : ¬ session.IsStranger source)
      (reason : String) :
    Decides session exchange now (.arrival source datagram)
      ((session.boundTo source).reject reason)
  /-- The peer gives up. -/
  | believe {source : SocketAddress} {datagram : Bytes} {notice : Notice}
      (peer : ¬ session.IsStranger source)
      (decoded : Packet.decode datagram = .ok (.error notice))
      (serious : notice.code ≠ .unknownTransferId) :
    Decides session exchange now (.arrival source datagram)
      ((session.boundTo source).fail (.peer notice))
  /-- The peer disavows the transfer. -/
  | disregard {source : SocketAddress} {datagram : Bytes} {notice : Notice}
      (peer : ¬ session.IsStranger source)
      (decoded : Packet.decode datagram = .ok (.error notice))
      (disavowal : notice.code = .unknownTransferId) :
    Decides session exchange now (.arrival source datagram)
      ((session.boundTo source).await exchange)
  /-- The peer acknowledges what is behind the awaited acknowledgment. -/
  | overlook {source : SocketAddress} {datagram : Bytes} {block expected : BlockNumber}
      (awaited : session.expected? exchange = some expected) (peer : ¬ session.IsStranger source)
      (decoded : Packet.decode datagram = .ok (.ack block)) (stale : block.isStale expected) :
    Decides session exchange now (.arrival source datagram)
      ((session.boundTo source).await exchange)
  /-- The peer sends what is behind the awaited block. -/
  | resend {source : SocketAddress} {datagram payload : Bytes} {block : BlockNumber}
      {decoder : Netascii.Decoder} (awaited : exchange.awaited = .data decoder)
      (peer : ¬ session.IsStranger source)
      (decoded : Packet.decode datagram = .ok (.data block payload))
      (stale : block.isStale session.block) :
    Decides session exchange now (.arrival source datagram)
      ((session.boundTo source).sendToPeer exchange.outstanding
        ((session.boundTo source).await exchange))
  /-- The awaited block is there. -/
  | store {source : SocketAddress} {datagram payload : Bytes} {decoder : Netascii.Decoder}
      (awaited : exchange.awaited = .data decoder) (peer : ¬ session.IsStranger source)
      (decoded : Packet.decode datagram = .ok (.data session.block payload)) :
    Decides session exchange now (.arrival source datagram)
      ((session.boundTo source).takePayload payload decoder exchange.summary now)
  /-- The request is accepted. -/
  | begin {source : SocketAddress} {datagram : Bytes} (awaited : exchange.awaited = .acceptance)
      (peer : ¬ session.IsStranger source) (decoded : Packet.decode datagram = .ok (.ack 0)) :
    Decides session exchange now (.arrival source datagram)
      ((session.boundTo source).beginSending now)
  /-- The block is acknowledged. -/
  | advance {source : SocketAddress} {datagram : Bytes} {length : Nat} {supply : Supply}
      (awaited : exchange.awaited = .ack length supply) (peer : ¬ session.IsStranger source)
      (decoded : Packet.decode datagram = .ok (.ack session.block)) :
    Decides session exchange now (.arrival source datagram)
      ((session.boundTo source).advance length supply exchange.summary now)
  /-- An earlier datagram found nobody. -/
  | shrug {error : SystemError} (bounce : error.isBounce = true) :
    Decides session exchange now (.receiveError error) (session.await exchange)
  | trip {error : SystemError} (serious : error.isBounce = false) :
    Decides session exchange now (.receiveError error) (session.fail (.socket error))
  /-- There were timeouts enough. -/
  | despair (enough : session.retryBudget ≤ exchange.attempts + 1) :
    Decides session exchange now .expiry (session.fail (.timeout (exchange.attempts + 1)))
  | retry (more : exchange.attempts + 1 < session.retryBudget) :
    Decides session exchange now .expiry (session.sendToPeer exchange.outstanding (session.await
      { exchange with
        attempts := exchange.attempts + 1, deadline := session.deadlineFrom now }))

section

variable {session : Session} {exchange : Exchange} {now : Nat} {source : SocketAddress}
  {datagram : Bytes}

theorem decides_takeData {packet : Packet} {decoder : Netascii.Decoder}
    (awaited : exchange.awaited = .data decoder) (peer : ¬ session.IsStranger source)
    (decoded : Packet.decode datagram = .ok packet) :
    session.Decides exchange now (.arrival source datagram)
      ((session.boundTo source).takeData exchange decoder packet now) := by
  have unexpected : session.Decides exchange now (.arrival source datagram)
      ((session.boundTo source).unexpectedData packet) := by
    unfold unexpectedData
    split <;> exact .reject peer _
  unfold takeData
  split
  · next block payload =>
    split
    · next hblock =>
      obtain rfl : block = session.block := hblock
      exact .store awaited peer decoded
    · split
      · next stale => exact .resend awaited peer decoded stale
      · exact unexpected
  · exact unexpected

theorem decides_takeAck {packet : Packet} {expected : BlockNumber} {next : Turn Progress}
    (awaited : session.expected? exchange = some expected) (peer : ¬ session.IsStranger source)
    (decoded : Packet.decode datagram = .ok packet)
    (taken : packet = .ack expected →
      session.Decides exchange now (.arrival source datagram) next) :
    session.Decides exchange now (.arrival source datagram)
      ((session.boundTo source).takeAck exchange expected packet next) := by
  unfold takeAck
  split
  · next block =>
    split
    · next hblock => exact taken (congrArg Packet.ack hblock)
    · split
      · next stale => exact .overlook awaited peer decoded stale
      · exact .reject peer _
  · exact .reject peer _

theorem decides_take {packet : Packet} (peer : ¬ session.IsStranger source)
    (decoded : Packet.decode datagram = .ok packet) :
    session.Decides exchange now (.arrival source datagram)
      ((session.boundTo source).take exchange packet now) := by
  unfold take
  split
  · next decoder awaited => exact decides_takeData awaited peer decoded
  · next awaited =>
    have expected : session.expected? exchange = some 0 := by rw [expected?, awaited]
    refine decides_takeAck expected peer decoded ?_
    rintro rfl
    exact .begin awaited peer decoded
  · next length supply awaited =>
    have expected : session.expected? exchange = some session.block := by rw [expected?, awaited]
    refine decides_takeAck expected peer decoded ?_
    rintro rfl
    exact .advance awaited peer decoded

/-- Whatever happens, the session does one of these things about it. -/
theorem decides (session : Session) (exchange : Exchange) (event : Event) (now : Nat) :
    session.Decides exchange now event (session.react exchange event now) := by
  cases event with
  | arrival source datagram =>
    by_cases stranger : session.IsStranger source
    · rw [arrive_of_stranger stranger]
      exact .disown stranger
    · rw [arrive_of_peer stranger]
      unfold read
      split
      · exact .reject stranger _
      · next notice decoded =>
        split
        · next disavowal => exact .disregard stranger decoded disavowal
        · next serious => exact .believe stranger decoded serious
      · next packet _ decoded => exact decides_take stranger decoded
  | receiveError error =>
    unfold react trip
    dsimp only
    split
    · next bounce => exact .shrug bounce
    · next serious => exact .trip (Bool.eq_false_iff.mpr serious)
  | expiry =>
    unfold react expire
    dsimp only
    split
    · next enough => exact .despair enough
    · next more => exact .retry (Nat.lt_of_not_le more)

end

end Session

end Lockstep
