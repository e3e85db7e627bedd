import Lockstep.Alteration

/-!
# What an alteration does

An alteration is determined by where it is meant for and by what it does. It does the operations that
it is made of, except for those that a later one of the same kind has replaced; operations that are
all done by one alteration are of different kinds or the same, so none of them is lost.
-/

namespace Lockstep

namespace Alteration

variable {alteration : Alteration} {operation new : Operation}

/-! ## Single operations -/

/-- The alteration does this. -/
def Does (alteration : Alteration) : Operation → Prop
  | .byte index value => alteration.byte = some (index, value)
  | .block number => alteration.block = some number
  | .opcode number => alteration.opcode = some number
  | .mode text => alteration.mode = some text
  | .filename text => alteration.filename = some text
  | .size length => alteration.size = some length
  | .tid port => alteration.tid = some port
  | .address ip => alteration.address = some ip
  | .delay milliseconds => alteration.delay = some milliseconds
  | .duplicate milliseconds => alteration.duplicate = some milliseconds
  | .drop => alteration.drop = true

theorem mem_operations_iff : operation ∈ alteration.operations ↔ alteration.Does operation := by
  cases operation <;> simp [operations, Does]

theorem does_add (alteration : Alteration) (operation : Operation) :
    (alteration.add operation).Does operation := by
  cases operation <;> rfl

theorem does_of_does_add (h : (alteration.add new).Does operation) :
    operation = new ∨ alteration.Does operation := by
  cases new <;> cases operation <;> first | exact .inr h | (cases h; exact .inl rfl)

theorem eq_of_does {other : Alteration} (direction : alteration.direction = other.direction)
    (target : alteration.target = other.target)
    (does : ∀ operation, alteration.Does operation ↔ other.Does operation) :
    alteration = other := by
  cases alteration
  cases other
  simp only [mk.injEq]
  exact ⟨direction, target,
    Option.ext fun patch ↦ does (.byte patch.1 patch.2),
    Option.ext fun number ↦ does (.block number),
    Option.ext fun number ↦ does (.opcode number),
    Option.ext fun text ↦ does (.mode text),
    Option.ext fun text ↦ does (.filename text),
    Option.ext fun length ↦ does (.size length),
    Option.ext fun port ↦ does (.tid port),
    Option.ext fun ip ↦ does (.address ip),
    Option.ext fun milliseconds ↦ does (.delay milliseconds),
    Option.ext fun milliseconds ↦ does (.duplicate milliseconds),
    Bool.eq_iff_iff.mpr (does .drop)⟩

/-- Of two things that one alteration does, the later one does not replace the earlier one. -/
theorem Does.add {other : Alteration} (h : other.Does operation)
    (does : alteration.Does operation) (doesNew : alteration.Does new) :
    (other.add new).Does operation := by
  -- Two operations of one kind that one alteration does are in the same field, so they are equal.
  cases new <;> cases operation <;> first | exact h | exact doesNew.symm.trans does

/-! ## Lists of operations -/

theorem does_of_does_foldl_add {operations : List Operation}
    (h : (operations.foldl add alteration).Does operation) :
    operation ∈ operations ∨ alteration.Does operation := by
  induction operations generalizing alteration with
  | nil => exact .inr h
  | cons first rest ih =>
    rcases ih h with mem | does
    · exact .inl (List.mem_cons_of_mem _ mem)
    · rcases does_of_does_add does with rfl | does
      · exact .inl List.mem_cons_self
      · exact .inr does

/-- Operations that are all those of one alteration do not get in each other's way. -/
theorem does_foldl_add {start : Alteration} {operations : List Operation}
    (does : ∀ operation ∈ operations, alteration.Does operation)
    (h : alteration.Does operation) (found : operation ∈ operations ∨ start.Does operation) :
    (operations.foldl add start).Does operation := by
  induction operations generalizing start with
  | nil => exact found.resolve_left List.not_mem_nil
  | cons first rest ih =>
    apply ih fun other mem ↦ does other (List.mem_cons_of_mem _ mem)
    rcases found with mem | found
    · rcases List.mem_cons.mp mem with rfl | mem
      · exact .inr (does_add start operation)
      · exact .inl mem
    · exact .inr (found.add h (does first List.mem_cons_self))

theorem aim_foldl_add (operations : List Operation) (start : Alteration) :
    (operations.foldl add start).direction = start.direction ∧
      (operations.foldl add start).target = start.target := by
  induction operations generalizing start with
  | nil => exact ⟨rfl, rfl⟩
  | cons first rest ih =>
    obtain ⟨direction, target⟩ := ih (start.add first)
    constructor
    · rw [List.foldl_cons, direction]
      cases first <;> rfl
    · rw [List.foldl_cons, target]
      cases first <;> rfl

variable {direction : Direction} {target : Target} {operations : List Operation}

theorem not_does_bare : ¬ ({ direction, target } : Alteration).Does operation := by
  intro h
  cases operation <;> cases h

/-- An alteration is made of its operations. -/
theorem ofOperations_operations (alteration : Alteration) :
    ofOperations alteration.direction alteration.target alteration.operations = alteration := by
  obtain ⟨direction, target⟩ := aim_foldl_add alteration.operations
    { direction := alteration.direction, target := alteration.target }
  refine eq_of_does direction target fun operation ↦ ⟨fun h ↦ ?_, fun h ↦ ?_⟩
  · exact mem_operations_iff.mp ((does_of_does_foldl_add h).resolve_right not_does_bare)
  · apply does_foldl_add (fun _ mem ↦ mem_operations_iff.mp mem) h
    exact .inl (mem_operations_iff.mpr h)

theorem mem_of_mem_operations_ofOperations
    (h : operation ∈ (ofOperations direction target operations).operations) :
    operation ∈ operations :=
  (does_of_does_foldl_add (mem_operations_iff.mp h)).resolve_right not_does_bare

theorem operations_ofOperations_ne_nil (h : operations ≠ []) :
    (ofOperations direction target operations).operations ≠ [] := by
  obtain ⟨front, last, rfl⟩ := (List.eq_nil_or_concat operations).resolve_left h
  rw [List.concat_eq_append, ofOperations, List.foldl_append]
  exact List.ne_nil_of_mem (mem_operations_iff.mpr (does_add _ last))

end Alteration

end Lockstep
