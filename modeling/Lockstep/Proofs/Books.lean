import Lockstep.Proofs.Relaying

/-!
# Books of a relay

The books of a relay have one entry for each datagram that it has dealt with, in the order in which
it did so: which alteration the datagram used up, and what was sent for it. How a datagram is to be
treated follows from what was known at that time and from the datagram as it came in.
-/

namespace Lockstep.Relay

variable {direction : Direction} {emissions : List Emission}

/-! ## Entries -/

/-- What matters about a relay for the datagrams to come. -/
structure Standing where
  client : Option SocketAddress
  /-- The server's side of the transfer. -/
  serverTid : Option SocketAddress
  queue : List Alteration
  /-- The side of which a datagram was dropped that nothing has taken the place of yet. -/
  missing : Option Direction
deriving DecidableEq, Repr

namespace Standing

/-- What is known when a datagram has come in. -/
def learn (standing : Standing) (arrival : Arrival) : Standing :=
  match arrival.direction with
  | .clientToServer =>
    if Target.ofDatagram? arrival.payload = some .request then
      { standing with client := some arrival.source, serverTid := none }
    else { standing with client := standing.client.or (some arrival.source) }
  | .serverToClient => { standing with serverTid := some arrival.source }

/-- Where a datagram goes, by what is known since it has come in. -/
def destination? (standing : Standing) (serverAddress : SocketAddress) :
    Direction → Option SocketAddress
  | .clientToServer => some (standing.serverTid.getD serverAddress)
  | .serverToClient => standing.client

end Standing

/-- An entry in the books. -/
structure Handling where
  arrival : Arrival
  /-- The alteration that was used up. -/
  taken : Option Alteration
  emissions : List Emission
deriving DecidableEq, Repr

/-- How a datagram is to be treated, and what the next one finds. -/
inductive Treats (serverAddress : SocketAddress) (standing : Standing) (arrival : Arrival) :
    Option Alteration → List Emission → Standing → Prop
  /-- There is nowhere to send it. -/
  | unrouted (calm : standing.missing = none)
      (unrouted : (standing.learn arrival).destination? serverAddress arrival.direction = none) :
      Treats serverAddress standing arrival none [] (standing.learn arrival)
  /-- The first alteration is not meant for it. -/
  | untouched (calm : standing.missing = none) {destination : SocketAddress}
      (routed : (standing.learn arrival).destination? serverAddress arrival.direction =
        some destination)
      (unfit : ∀ alteration ∈ standing.queue.head?,
        alteration.fitsOn arrival.direction arrival.payload = false) :
      Treats serverAddress standing arrival none
        [.forward arrival.direction arrival.payload destination] (standing.learn arrival)
  /-- It is sent altered, and once more if there is to be a duplicate. -/
  | altered (calm : standing.missing = none) {destination : SocketAddress}
      (routed : (standing.learn arrival).destination? serverAddress arrival.direction =
        some destination)
      {alteration : Alteration} {queue : List Alteration}
      (first : standing.queue = alteration :: queue)
      (fits : alteration.fitsOn arrival.direction arrival.payload = true)
      (kept : alteration.drop = false) :
      Treats serverAddress standing arrival (some alteration)
        (List.replicate (if alteration.duplicate.isSome then 2 else 1)
          (Job.emission ⟨alteration, arrival.direction, alteration.apply arrival.payload,
            destination⟩))
        { standing.learn arrival with queue }
  /-- It is dropped, and the next one from its side takes its place. -/
  | dropped (calm : standing.missing = none) {destination : SocketAddress}
      (routed : (standing.learn arrival).destination? serverAddress arrival.direction =
        some destination)
      {alteration : Alteration} {queue : List Alteration}
      (first : standing.queue = alteration :: queue)
      (fits : alteration.fitsOn arrival.direction arrival.payload = true)
      (gone : alteration.drop = true) :
      Treats serverAddress standing arrival (some alteration) []
        { standing.learn arrival with queue, missing := some arrival.direction }
  /-- It takes the place of one that was dropped. -/
  | replacement (missing : standing.missing = some arrival.direction) {destination : SocketAddress}
      (routed : (standing.learn arrival).destination? serverAddress arrival.direction =
        some destination) :
      Treats serverAddress standing arrival none
        [.forward arrival.direction arrival.payload destination]
        { standing.learn arrival with missing := none }

/-- Every datagram was treated as it should be, one after the other. -/
inductive Books (serverAddress : SocketAddress) (first : Standing) :
    List Handling → Standing → Prop
  | opened : Books serverAddress first [] first
  | entered {record : List Handling} {standing next : Standing} {arrival : Arrival}
      {taken : Option Alteration} {emissions : List Emission}
      (books : Books serverAddress first record standing)
      (treats : Treats serverAddress standing arrival taken emissions next) :
      Books serverAddress first (record ++ [⟨arrival, taken, emissions⟩]) next

/-! ## What the books say -/

namespace Standing

variable {standing : Standing} {serverAddress : SocketAddress} {arrival : Arrival}

@[simp]
theorem queue_learn : (standing.learn arrival).queue = standing.queue := by
  unfold learn
  repeat' split
  all_goals rfl

@[simp]
theorem missing_learn : (standing.learn arrival).missing = standing.missing := by
  unfold learn
  repeat' split
  all_goals rfl

/-- Nothing that was learned is forgotten so far that there would be nowhere to send to. -/
theorem isSome_destination?_learn
    (routed : (standing.destination? serverAddress arrival.direction).isSome) :
    ((standing.learn arrival).destination? serverAddress arrival.direction).isSome := by
  cases hdirection : arrival.direction with
  | clientToServer => rfl
  | serverToClient =>
    rw [hdirection] at routed
    simpa [learn, hdirection, destination?] using routed

end Standing

namespace Treats

variable {standing next : Standing} {serverAddress : SocketAddress} {arrival : Arrival}
  {taken : Option Alteration}

theorem queue_eq (treats : Treats serverAddress standing arrival taken emissions next) :
    standing.queue = taken.toList ++ next.queue := by
  cases treats with
  | altered _ _ first => exact first
  | dropped _ _ first => exact first
  | unrouted => exact Standing.queue_learn.symm
  | untouched => exact Standing.queue_learn.symm
  | replacement => exact Standing.queue_learn.symm

/-- Only a datagram that had somewhere to go is dropped. -/
theorem isSome_destination? (treats : Treats serverAddress standing arrival taken emissions next)
    (missing : next.missing = some direction) :
    (next.destination? serverAddress direction).isSome := by
  have learned (calm : standing.missing = none) :
      (standing.learn arrival).missing ≠ some direction := by
    rw [Standing.missing_learn, calm]
    exact (Option.some_ne_none direction).symm
  cases treats with
  | unrouted calm => exact absurd missing (learned calm)
  | untouched calm => exact absurd missing (learned calm)
  | altered calm => exact absurd missing (learned calm)
  | dropped _ routed =>
    cases missing
    exact Option.isSome_of_eq_some routed
  | replacement => cases missing

end Treats

namespace Books

variable {serverAddress : SocketAddress} {first middle last : Standing}
  {record earlier later : List Handling}

theorem append (front : Books serverAddress first earlier middle)
    (back : Books serverAddress middle later last) :
    Books serverAddress first (earlier ++ later) last := by
  induction back with
  | opened => rwa [List.append_nil]
  | entered books treats ih =>
    rw [← List.append_assoc]
    exact .entered ih treats

/-- The alterations that were used up are the first ones of the queue. -/
theorem queue_eq (books : Books serverAddress first record last) :
    first.queue = record.filterMap Handling.taken ++ last.queue := by
  induction books with
  | opened => rfl
  | @entered record standing next arrival taken emissions books treats ih =>
    have hentry : [Handling.mk arrival taken emissions].filterMap Handling.taken = taken.toList := by
      cases taken <;> rfl
    rw [ih, treats.queue_eq, List.filterMap_append, hentry, List.append_assoc]

/-- A datagram from a side of which one was dropped has somewhere to go. -/
theorem isSome_destination? (books : Books serverAddress first record last)
    (calm : first.missing = none) (missing : last.missing = some direction) :
    (last.destination? serverAddress direction).isSome := by
  cases books with
  | opened =>
    rw [calm] at missing
    cases missing
  | entered books treats => exact treats.isSome_destination? missing

end Books

end Lockstep.Relay
