import Lockstep.Proofs.Isolation

/-!
# Disavowals

Somebody may tell a session that they know nothing of its transfer. From a bound peer that is no
reason to give up: the session overlooks such a disavowal, and all other reactions of its history are
the same whether it came in or not, down to the packets, the deadlines, the use of the stream and
the result.

As long as the port of the peer is open, a disavowal from the host of the peer binds the port that
it came from, as any other datagram from there does. Nothing else is done about it, and if that port
is the one that answers next, it has made no difference. But an answer from any other port of that
host is then the word of a stranger.
-/

namespace Lockstep.Session

/-- The datagram is the notice of somebody who knows nothing of the transfer. -/
def IsDisavowal (datagram : Bytes) : Prop :=
  ∃ notice, Packet.decode datagram = .ok (.error notice) ∧ notice.code = .unknownTransferId

instance : DecidablePred IsDisavowal := fun datagram ↦
  match h : Packet.decode datagram with
  | .ok (.error notice) =>
    decidable_of_iff (notice.code = .unknownTransferId)
      ⟨fun code ↦ ⟨notice, h, code⟩, fun ⟨_, h', code⟩ ↦ by cases h.symm.trans h'; exact code⟩
  | .error _ | .ok (.readRequest _) | .ok (.writeRequest _) | .ok (.data ..) | .ok (.ack _) =>
    isFalse fun ⟨_, h', _⟩ ↦ nomatch h.symm.trans h'

/-- The bound peer disavows the transfer. -/
def IsDisavowed (session : Session) : Event → Prop
  | .arrival source datagram =>
    session.bound = true ∧ source = session.peer ∧ IsDisavowal datagram
  | .receiveError _ | .expiry => False

instance (session : Session) : DecidablePred session.IsDisavowed := fun event ↦
  match event with
  | .arrival source datagram =>
    inferInstanceAs
      (Decidable (session.bound = true ∧ source = session.peer ∧ IsDisavowal datagram))
  | .receiveError _ | .expiry => inferInstanceAs (Decidable False)

def Reaction.IsDisavowed (reaction : Reaction) : Prop :=
  reaction.session.IsDisavowed reaction.event

instance : DecidablePred Reaction.IsDisavowed := fun reaction ↦
  inferInstanceAs (Decidable (reaction.session.IsDisavowed reaction.event))

/-- The reaction of a session to a disavowal of its peer, about which nothing is done. -/
structure Reaction.Overlooks (reaction : Reaction) (session : Session) (exchange : Exchange) :
    Prop where
  session_eq : reaction.session = session
  exchange_eq : reaction.exchange = exchange
  disavowed : session.IsDisavowed reaction.event
  silent : reaction.talk = []
  progress_eq : reaction.progress = .waiting session exchange

/-- A disavowal that comes while the port of the peer is open. -/
def premature (session : Session) (exchange : Exchange) (source : SocketAddress) (word : Bytes)
    (now : Nat) : Reaction where
  session := session
  exchange := exchange
  event := .arrival source word
  now := now
  talk := []
  progress := .waiting (session.boundTo source) exchange

/-- What disavowals can do to a session that began with a turn and has such a history. -/
structure Steadfast (turn : Turn Progress) (first : Talk) (record : List Reaction)
    (progress : Progress) : Prop where
  /-- Without those of a bound peer the session reacts to everything else in the same way, at the
  same times and with the same deadlines, and comes to the same. -/
  without : Runs turn first (record.filter fun reaction ↦ ¬ reaction.IsDisavowed) progress
  /-- Nothing was done about them. -/
  overlooked : ∀ reaction ∈ record, reaction.IsDisavowed →
    reaction.Overlooks reaction.session reaction.exchange
  /-- Any number of them may have come in between at any time. -/
  inserted : ∀ {earlier later : List Reaction} {session : Session} {exchange : Exchange},
    earlier ++ later = record → Runs turn first earlier (.waiting session exchange) →
    ∀ disavowals : List Reaction, (∀ reaction ∈ disavowals, reaction.Overlooks session exchange) →
      Runs turn first (earlier ++ disavowals ++ later) progress
  /-- As long as the port of the peer is open, one that comes from its host does nothing but bind
  the port that it comes from. -/
  binds : ∀ reaction ∈ record, ∀ {source word}, reaction.event = .arrival source word →
    ¬ reaction.session.IsStranger source → IsDisavowal word →
      reaction = premature reaction.session reaction.exchange source word reaction.now
  /-- If it comes from the port that answers next, it might as well not have come. -/
  foretold : ∀ {earlier later : List Reaction} {answer : Reaction} {source datagram},
    earlier ++ answer :: later = record → answer.event = .arrival source datagram →
    ¬ answer.session.IsStranger source → ∀ {word}, IsDisavowal word → ∀ now,
      Runs turn first
        (earlier ++ premature answer.session answer.exchange source word now ::
          { answer with session := answer.session.boundTo source } :: later) progress

variable {session : Session} {exchange : Exchange} {event : Event} {now : Nat} {talk : Talk}
  {progress : Progress} {source : SocketAddress} {word : Bytes}

/-! ## One disavowal -/

theorem boundTo_peer (bound : session.bound = true) : session.boundTo session.peer = session := by
  unfold boundTo
  rw [← bound]

@[simp]
theorem boundTo_boundTo : (session.boundTo source).boundTo source = session.boundTo source :=
  rfl

theorem not_isStranger_boundTo : ¬ (session.boundTo source).IsStranger source :=
  fun h ↦ h rfl

/-- Nothing is done about a disavowal, but that its source is the peer. -/
theorem leads_disavowal_iff (peer : ¬ session.IsStranger source) (disavowal : IsDisavowal word) :
    (session.react exchange (.arrival source word) now).Leads talk progress ↔
      talk = [] ∧ progress = .waiting (session.boundTo source) exchange := by
  obtain ⟨notice, decoded, code⟩ := disavowal
  have hread : (session.boundTo source).read exchange word now =
      (session.boundTo source).await exchange := by
    unfold read
    rw [decoded]
    exact if_pos code
  rw [arrive_of_peer peer, hread, leads_await_iff]

theorem leads_disavowed_iff (disavowed : session.IsDisavowed event) :
    (session.react exchange event now).Leads talk progress ↔
      talk = [] ∧ progress = .waiting session exchange := by
  cases event with
  | arrival source word =>
    obtain ⟨bound, rfl, disavowal⟩ := disavowed
    have peer : ¬ session.IsStranger session.peer :=
      fun stranger ↦ (isStranger_iff_of_bound bound).mp stranger rfl
    rw [leads_disavowal_iff peer disavowal, boundTo_peer bound]
  | receiveError error => exact disavowed.elim
  | expiry => exact disavowed.elim

/-- To the port that it has bound just now a session reacts as it would have before. -/
theorem react_boundTo (peer : ¬ session.IsStranger source) (datagram : Bytes) :
    (session.boundTo source).react exchange (.arrival source datagram) now =
      session.react exchange (.arrival source datagram) now := by
  rw [arrive_of_peer peer, arrive_of_peer not_isStranger_boundTo, boundTo_boundTo]

/-! ## Histories -/

variable {turn : Turn Progress} {first : Talk} {record earlier later : List Reaction}
  {reaction : Reaction}

theorem overlooks_of_leads (disavowed : reaction.IsDisavowed)
    (leads : (reaction.session.react reaction.exchange reaction.event reaction.now).Leads
      reaction.talk reaction.progress) :
    reaction.Overlooks reaction.session reaction.exchange := by
  obtain ⟨silent, hprogress⟩ := (leads_disavowed_iff disavowed).mp leads
  exact ⟨rfl, rfl, disavowed, silent, hprogress⟩

theorem Runs.append_disavowals (run : Runs turn first earlier (.waiting session exchange))
    (disavowals : List Reaction)
    (overlooks : ∀ reaction ∈ disavowals, reaction.Overlooks session exchange) :
    Runs turn first (earlier ++ disavowals) (.waiting session exchange) := by
  apply run.append_idle
  intro reaction hmem
  obtain ⟨hsession, hexchange, disavowed, silent, hprogress⟩ := overlooks reaction hmem
  exact ⟨hsession, hexchange, hprogress, (leads_disavowed_iff disavowed).mpr ⟨silent, rfl⟩⟩

theorem eq_premature_of_leads
    (leads : (reaction.session.react reaction.exchange reaction.event reaction.now).Leads
      reaction.talk reaction.progress)
    (arrived : reaction.event = .arrival source word) (peer : ¬ reaction.session.IsStranger source)
    (disavowal : IsDisavowal word) :
    reaction = premature reaction.session reaction.exchange source word reaction.now := by
  rw [arrived, leads_disavowal_iff peer disavowal] at leads
  obtain ⟨silent, hprogress⟩ := leads
  unfold premature
  rw [← arrived, ← silent, ← hprogress]

theorem Runs.snoc_premature (run : Runs turn first earlier (.waiting session exchange))
    (peer : ¬ session.IsStranger source) (disavowal : IsDisavowal word) (now : Nat) :
    Runs turn first (earlier ++ [premature session exchange source word now])
      (.waiting (session.boundTo source) exchange) :=
  run.reacted _ now ((leads_disavowal_iff peer disavowal).mpr ⟨rfl, rfl⟩)

/-- A disavowal from the port that answers next changes nothing. -/
theorem Runs.insert_premature {answer : Reaction} {datagram : Bytes}
    (run : Runs turn first (earlier ++ answer :: later) progress)
    (arrived : answer.event = .arrival source datagram)
    (peer : ¬ answer.session.IsStranger source) (disavowal : IsDisavowal word) (now : Nat) :
    Runs turn first
      (earlier ++ premature answer.session answer.exchange source word now ::
        { answer with session := answer.session.boundTo source } :: later) progress := by
  obtain ⟨reached, leads⟩ := run.split
  have unwarned := reached.snoc leads
  have bound := reached.snoc_premature peer disavowal now
  rw [arrived, ← react_boundTo peer, ← arrived] at leads
  have warned := bound.reacted answer.event answer.now leads
  rw [List.append_cons] at run
  simpa using run.resume unwarned warned

/-- Once a peer is bound, its disavowals change nothing, and before that they bind it and do no more
than that. -/
theorem steadfast_of_runs (run : Runs turn first record progress) :
    Steadfast turn first record progress where
  without := run.filter_idle fun _ hmem disavowed ↦
    (overlooks_of_leads disavowed (run.leads_of_mem hmem)).progress_eq
  overlooked := fun _ hmem disavowed ↦
    overlooks_of_leads disavowed (run.leads_of_mem hmem)
  inserted := fun hrecord reached disavowals overlooks ↦
    (hrecord ▸ run).resume reached (reached.append_disavowals disavowals overlooks)
  binds := fun _ hmem _ _ arrived peer disavowal ↦
    eq_premature_of_leads (run.leads_of_mem hmem) arrived peer disavowal
  foretold := fun hrecord arrived peer _ disavowal now ↦
    (hrecord ▸ run).insert_premature arrived peer disavowal now

/-- The peer of the local session disavows the transfer before it sends the block that is due. -/
def disavowal : Reaction where
  session := localReceiver
  exchange := localWait
  event := .arrival ⟨.localhost .four, 1069, 0⟩ unknownTransfer
  now := 900
  talk := []
  progress := .waiting localReceiver localWait

theorem isDisavowal_unknownTransfer : IsDisavowal unknownTransfer :=
  ⟨Notice.ofCode .unknownTransferId, by decide +kernel, rfl⟩

theorem steadfast_after_disavowal :
    Runs (localReceiver.receive (Packet.encodeAck 0) 0)
        [⟨.send ⟨.localhost .four, 1069, 0⟩ (Packet.encodeAck 0), .ok ()⟩]
        [disavowal, localArrival] localArrival.progress ∧
      disavowal.IsDisavowed ∧
      Steadfast (localReceiver.receive (Packet.encodeAck 0) 0)
        [⟨.send ⟨.localhost .four, 1069, 0⟩ (Packet.encodeAck 0), .ok ()⟩]
        [disavowal, localArrival] localArrival.progress := by
  have disavowed : disavowal.IsDisavowed := ⟨rfl, rfl, isDisavowal_unknownTransfer⟩
  have overlooks : disavowal.Overlooks localReceiver localWait :=
    ⟨rfl, rfl, disavowed, rfl, rfl⟩
  have waiting := local_runs.append_disavowals [disavowal] (by simpa using overlooks)
  have run := Runs.reacted waiting localArrival.event 1000 localArrival_leads
  exact ⟨run, disavowed, steadfast_of_runs run⟩

/-- A disavowal from a port of the host of the peer makes a stranger of every other port there,
although each of them could have been the peer. -/
theorem Runs.strands (run : Runs turn first earlier (.waiting session exchange))
    {wrong right : SocketAddress} (unbound : session.bound = false)
    (wrong_ip : wrong.ip = session.peer.ip) (right_ip : right.ip = session.peer.ip)
    (distinct : right ≠ wrong) (disavowal : IsDisavowal word) (datagram : Bytes)
    (answer : Except SystemError Unit) (before now : Nat) :
    ¬ session.IsStranger right ∧
      Runs turn first
        (earlier ++ [premature session exchange wrong word before,
          ⟨session.boundTo wrong, exchange, .arrival right datagram, now,
            [⟨.send right unknownTransfer, answer⟩],
            .waiting (session.boundTo wrong) exchange⟩])
        (.waiting (session.boundTo wrong) exchange) := by
  have peer {source : SocketAddress} (ip : source.ip = session.peer.ip) :
      ¬ session.IsStranger source :=
    fun stranger ↦ (isStranger_iff_of_unbound unbound).mp stranger ip
  refine ⟨peer right_ip, ?_⟩
  have stranger : (session.boundTo wrong).IsForeign (.arrival right datagram) := distinct
  have bound := run.snoc_premature (peer wrong_ip) disavowal before
  have refused : ((session.boundTo wrong).react exchange (.arrival right datagram) now).Leads
      [⟨.send right unknownTransfer, answer⟩] (.waiting (session.boundTo wrong) exchange) :=
    (leads_foreign_iff stranger).mpr ⟨.stranger right datagram answer, rfl⟩
  simpa using bound.reacted (.arrival right datagram) now refused

end Lockstep.Session
