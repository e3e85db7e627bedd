import Lockstep.World
import Lockstep.Proofs.Execution
import Mathlib.Logic.Relation

/-!
# Things that happen in a world

As long as no alarm is due a world does one thing after the other: the oldest datagram that was sent
is handed to the socket it is meant for, and the activity that has this socket reacts. The others
stay as they are. What happens from one world to another in this way is what letting it settle does,
if it is given time enough and nothing is left to be done in the end.
-/

namespace Lockstep

open Activity

namespace Alarm

theorem mem_of_earlier? {first second : Option Alarm} {alarm : Alarm}
    (h : earlier? first second = some alarm) : first = some alarm ∨ second = some alarm := by
  cases first with
  | none => exact .inr h
  | some first =>
    cases second with
    | none => exact .inl h
    | some second =>
      rw [earlier?] at h
      split at h
      · exact .inr h
      · exact .inl h

/-- The alarm that goes off first is one of those there are. -/
theorem mem_of_earliest? {alarms : List Alarm} {alarm : Alarm}
    (h : earliest? alarms = some alarm) : alarm ∈ alarms := by
  have hfold : ∀ (alarms : List Alarm) (start : Option Alarm),
      alarms.foldl (fun earliest alarm ↦ earlier? earliest (some alarm)) start = some alarm →
        start = some alarm ∨ alarm ∈ alarms := by
    intro alarms
    induction alarms with
    | nil => exact fun start h ↦ .inl h
    | cons first rest ih =>
      intro start h
      rcases ih _ h with hearlier | hmem
      · rcases mem_of_earlier? hearlier with hstart | hfirst
        · exact .inl hstart
        · exact .inr (Option.some.inj hfirst ▸ List.mem_cons_self)
      · exact .inr (List.mem_cons_of_mem _ hmem)
  rcases hfold alarms none h with hnone | hmem
  · cases hnone
  · exact hmem

end Alarm

namespace World

variable {world last : World}

/-! ## Settling -/

/-- One thing happens. -/
def Steps (before after : World) : Prop :=
  before.step? = some after

/-- Some things happen, one after the other. -/
abbrev Comes : World → World → Prop :=
  Relation.ReflTransGen Steps

/-- Nothing can happen any more. -/
def IsSettled (world : World) : Prop :=
  world.step? = none

/-- The world is the other one when it is given time enough to settle. -/
def SettlesAt (world last : World) : Prop :=
  ∃ least, ∀ fuel, least ≤ fuel → world.settle fuel = last

theorem settle_of_isSettled (h : world.IsSettled) (fuel : Nat) : world.settle fuel = world := by
  cases fuel with
  | zero => rfl
  | succ fuel =>
    have hstep : world.step? = none := h
    rw [settle, hstep]

/-- With time enough a world settles where it comes to. -/
theorem Comes.settlesAt (h : Comes world last) (settled : last.IsSettled) :
    world.SettlesAt last := by
  induction h using Relation.ReflTransGen.head_induction_on with
  | refl => exact ⟨0, fun fuel _ ↦ settle_of_isSettled settled fuel⟩
  | @head world next step rest ih =>
    obtain ⟨least, hleast⟩ := ih
    refine ⟨least + 1, ?_⟩
    intro fuel hfuel
    obtain ⟨fuel, rfl⟩ : ∃ less, fuel = less + 1 := ⟨fuel - 1, by omega⟩
    have hstep : world.step? = some next := step
    rw [settle, hstep]
    exact hleast fuel (by omega)

/-! ## Deliveries -/

/-- No alarm is due. -/
def IsCalm (world : World) : Prop :=
  ∀ activity ∈ world.activities, ∀ alarm ∈ activity.body.alarms, world.now < alarm.deadline

theorem IsCalm.nextAlarm? (h : world.IsCalm) :
    world.nextAlarm?.filter (·.deadline ≤ world.now) = none := by
  cases hnext : world.nextAlarm? with
  | none => rfl
  | some alarm =>
    obtain ⟨activity, hactivity, halarm⟩ := List.mem_flatMap.mp (Alarm.mem_of_earliest? hnext)
    have hlater := h activity hactivity alarm halarm
    rw [Option.filter_some, decide_eq_false (Nat.not_le.mpr hlater)]
    rfl

theorem IsCalm.isSettled (h : world.IsCalm) (houtbox : world.machine.network.outbox = []) :
    world.IsSettled := by
  rw [IsSettled, step?, h.nextAlarm?]
  dsimp only
  rw [houtbox]

/-- The world when the only datagram that was sent has left. -/
def departed (world : World) (datagram : Datagram) : World :=
  { world with
    machine :=
      { world.machine with network := { world.machine.network with outbox := [] } }
    sent := datagram :: world.sent }

/-- The only datagram that was sent is handed to the socket that it is meant for. -/
theorem IsCalm.steps (h : world.IsCalm) {datagram : Datagram} {socket : SocketAddress}
    (houtbox : world.machine.network.outbox = [datagram])
    (receiver : world.machine.network.receiverOf? datagram.destination = some socket) :
    world.Steps ((world.departed datagram).stimulate socket
      (.reception (.datagram datagram.source datagram.payload))) := by
  have hreceiver : (world.departed datagram).machine.network.receiverOf? datagram.destination =
      some socket := receiver
  rw [Steps, step?, h.nextAlarm?]
  dsimp only
  rw [houtbox]
  dsimp only
  rw [Option.some.injEq]
  change ((world.departed datagram).deliver datagram.destination _).2 = _
  rw [deliver, hreceiver]

/-! ## Reactions -/

/-- The world when one activity has run, and which activities there are then. -/
def pass (world : World) (outcome : Aftermath × Machine) (activities : List Activity) : World :=
  { ({ world with machine := outcome.2, waits := world.waits + 1 } : World).record
      outcome.1.news with activities }

theorem record_append (world : World) (first second : List (String × News)) :
    world.record (first ++ second) = (world.record first).record second := by
  simp only [record, List.map_append, List.reverse_append, List.append_assoc]
  rfl

/-- What is told depends on the time. -/
theorem reports_record_congr {other : World} (now : other.now = world.now)
    (reports : other.reports = world.reports) (news : List (String × News)) :
    (other.record news).reports = (world.record news).reports := by
  simp only [record, now, reports]

theorem start_eq (world : World) (program : Nat → Nat → Program Aftermath) :
    let outcome := world.machine.run (program world.now world.waits)
    world.start program = world.pass outcome (world.activities ++ outcome.1.activity.toList) := rfl

section

variable {isMeant : Activity → Bool} {reaction : Activity → Nat → Nat → Program Aftermath}

theorem go_of_none (world : World) {activities : List Activity}
    (others : ∀ other ∈ activities, isMeant other = false) :
    affect.go isMeant reaction world activities = (activities, world) := by
  induction activities with
  | nil => rfl
  | cons first rest ih =>
    have hfirst := others first List.mem_cons_self
    have hrest := ih fun other hother ↦ others other (List.mem_cons_of_mem _ hother)
    rw [affect.go, hfirst, if_neg Bool.false_ne_true, hrest]

theorem affect_of_unique {front back : List Activity} {activity : Activity}
    (h : world.activities = front ++ activity :: back) (mine : isMeant activity = true)
    (others : ∀ other ∈ front ++ back, isMeant other = false) :
    let outcome := world.machine.run (reaction activity world.now world.waits)
    world.affect isMeant reaction =
      world.pass outcome (front ++ outcome.1.activity.toList ++ back) := by
  have hgo : ∀ front : List Activity, (∀ other ∈ front, isMeant other = false) →
      affect.go isMeant reaction world (front ++ activity :: back) =
        let outcome := world.machine.run (reaction activity world.now world.waits)
        (front ++ outcome.1.activity.toList ++ back,
          ({ world with machine := outcome.2, waits := world.waits + 1 } : World).record
            outcome.1.news) := by
    intro front hfront
    induction front with
    | nil =>
      rw [List.nil_append, affect.go, mine, if_pos rfl]
      dsimp only
      rw [go_of_none _ fun other hother ↦ others other (List.mem_append_right _ hother)]
      rfl
    | cons first rest ih =>
      have hfirst := hfront first List.mem_cons_self
      have hrest := ih fun other hother ↦ hfront other (List.mem_cons_of_mem _ hother)
      rw [List.cons_append, affect.go, hfirst, if_neg Bool.false_ne_true, hrest]
      rfl
  intro outcome
  rw [affect, h, hgo front fun other hother ↦ others other (List.mem_append_left _ hother)]
  rfl

end

/-- What happens at a socket concerns the activity that has it. -/
theorem stimulate_of_unique {front back : List Activity} {activity : Activity}
    {socket : SocketAddress} (h : world.activities = front ++ activity :: back)
    (mine : socket ∈ activity.body.sockets)
    (others : ∀ other ∈ front ++ back, socket ∉ other.body.sockets) (stimulus : Stimulus) :
    let outcome := world.machine.run (activity.react socket stimulus world.now world.waits)
    world.stimulate socket stimulus =
      world.pass outcome (front ++ outcome.1.activity.toList ++ back) :=
  affect_of_unique h (List.contains_iff_mem.mpr mine) fun other hother ↦
    Bool.eq_false_iff.mpr fun hcontains ↦
      others other hother (List.contains_iff_mem.mp hcontains)

end World

end Lockstep
