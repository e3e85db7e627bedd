import Lockstep.FileSystem.Changes

/-!
# What stands where

The tree seen as a map from locations to labels, where the label of a directory does not tell what
is in it. Putting something into a directory and taking something away changes the labels at that
location and below it, and no others.
-/

namespace Lockstep

/-- What a node is, apart from what is below it. -/
inductive Label where
  | directory (isSearchable isWritable : Bool)
  | file (id : FileId)
  | link (target : Path)
deriving DecidableEq, Repr

namespace Node

def label : Node → Label
  | .directory isSearchable isWritable _ => .directory isSearchable isWritable
  | .file id => .file id
  | .link target => .link target

/-! ## Entries -/

theorem lookup_cons_eq (first : Path) (node : Node) (rest : List (Path × Node)) (other : Path) :
    ((first, node) :: rest).lookup other = if other = first then some node else rest.lookup other := by
  by_cases hother : other = first
  · subst hother
    rw [List.lookup_cons_self, if_pos rfl]
  · have hbeq : (other == first) = false := beq_eq_false_iff_ne.mpr hother
    rw [List.lookup_cons, hbeq, if_neg hother]

theorem lookup_map_replace (name : Path) (node : Node) (entries : List (Path × Node)) (other : Path) :
    (entries.map fun entry ↦ if entry.1 = name then (name, node) else entry).lookup other =
      if other = name then (entries.lookup name).map fun _ ↦ node else entries.lookup other := by
  induction entries with
  | nil => simp
  | cons entry rest ih =>
    obtain ⟨first, old⟩ := entry
    rw [List.map_cons]
    by_cases hfirst : first = name
    · subst hfirst
      rw [if_pos rfl, lookup_cons_eq, lookup_cons_eq, lookup_cons_eq, ih]
      split <;> simp
    · have hne : name ≠ first := fun heq ↦ hfirst heq.symm
      rw [if_neg hfirst, lookup_cons_eq, lookup_cons_eq, lookup_cons_eq, ih, if_neg hne]
      split
      · next hother =>
        subst hother
        rw [if_neg hfirst]
      · rfl

theorem lookup_putEntry (name : Path) (node : Node) (entries : List (Path × Node)) (other : Path) :
    (putEntry name node entries).lookup other =
      if other = name then some node else entries.lookup other := by
  unfold putEntry
  split
  · next hsome =>
    obtain ⟨old, hold⟩ := Option.isSome_iff_exists.mp hsome
    rw [lookup_map_replace, hold, Option.map_some]
  · exact lookup_cons_eq name node entries other

theorem lookup_filter_ne (name : Path) (entries : List (Path × Node)) (other : Path) :
    (entries.filter (·.1 ≠ name)).lookup other =
      if other = name then none else entries.lookup other := by
  induction entries with
  | nil => simp
  | cons entry rest ih =>
    obtain ⟨first, node⟩ := entry
    by_cases hfirst : first = name
    · subst hfirst
      rw [List.filter_cons_of_neg (by simp), ih, lookup_cons_eq]
      split <;> rfl
    · rw [List.filter_cons_of_pos (by simp [hfirst]), lookup_cons_eq, ih, lookup_cons_eq]
      split
      · next hother =>
        subst hother
        rw [if_neg hfirst]
      · rfl

/-! ## Children -/

variable {node : Node} {name : Path}

/-- Only a directory has anything in it. -/
theorem exists_directory_of_child? {child : Node} (h : node.child? name = some child) :
    ∃ isSearchable isWritable entries, node = .directory isSearchable isWritable entries := by
  cases node with
  | directory isSearchable isWritable entries => exact ⟨_, _, _, rfl⟩
  | file id => cases h
  | link target => cases h

theorem child?_withChild (isSearchable isWritable : Bool) (entries : List (Path × Node))
    (name : Path) (child : Node) (other : Path) :
    ((directory isSearchable isWritable entries).withChild name child).child? other =
      if other = name then some child
      else (directory isSearchable isWritable entries).child? other :=
  lookup_putEntry name child entries other

theorem child?_withoutChild (isSearchable isWritable : Bool) (entries : List (Path × Node))
    (name other : Path) :
    ((directory isSearchable isWritable entries).withoutChild name).child? other =
      if other = name then none else (directory isSearchable isWritable entries).child? other :=
  lookup_filter_ne name entries other

theorem label_withChild (node : Node) (name : Path) (child : Node) :
    (node.withChild name child).label = node.label := by
  cases node <;> rfl

theorem label_withoutChild (node : Node) (name : Path) :
    (node.withoutChild name).label = node.label := by
  cases node <;> rfl

@[simp]
theorem at?_nil (node : Node) : node.at? [] = some node := by
  cases node <;> rfl

theorem at?_cons (node : Node) (name : Path) (rest : Location) :
    node.at? (name :: rest) = (node.child? name).bind (·.at? rest) := by
  cases node <;> rfl

/-! ## Changes -/

/-- The node at the location is a directory. -/
def HasDirectory (node : Node) (location : Location) : Prop :=
  ∃ isSearchable isWritable entries,
    node.at? location = some (.directory isSearchable isWritable entries)

theorem HasDirectory.below {rest : Location} (h : node.HasDirectory (name :: rest)) :
    ∃ isSearchable isWritable entries child,
      node = .directory isSearchable isWritable entries ∧ node.child? name = some child ∧
        child.HasDirectory rest := by
  obtain ⟨isSearchable, isWritable, entries, hat⟩ := h
  rw [at?_cons] at hat
  obtain ⟨child, hchild, hbelow⟩ := Option.bind_eq_some_iff.mp hat
  obtain ⟨isSearchable', isWritable', entries', rfl⟩ := exists_directory_of_child? hchild
  exact ⟨_, _, _, child, rfl, hchild, _, _, _, hbelow⟩

/-- A child that is replaced by one with the same labels leaves all labels as they are. -/
theorem label_at?_withChild {isSearchable isWritable : Bool} {entries : List (Path × Node)}
    {front : Path} {child replacement : Node}
    (hchild : (directory isSearchable isWritable entries).child? front = some child)
    {location : Location} (same : ∀ rest, location = front :: rest →
      (replacement.at? rest).map label = (child.at? rest).map label) :
    (((directory isSearchable isWritable entries).withChild front replacement).at? location).map
        label =
      ((directory isSearchable isWritable entries).at? location).map label := by
  cases location with
  | nil => rw [at?_nil, at?_nil, Option.map_some, Option.map_some, label_withChild]
  | cons first rest =>
    rw [at?_cons, child?_withChild, at?_cons]
    by_cases hfirst : first = front
    · subst hfirst
      rw [if_pos rfl, hchild]
      exact same rest rfl
    · rw [if_neg hfirst]

/-- What is put into a directory stands there afterwards. -/
theorem at?_put {parent : Location} (h : node.HasDirectory parent) (name : Path) (new : Node)
    (below : Location) :
    (node.put (parent ++ [name]) new).at? (parent ++ name :: below) = new.at? below := by
  induction parent generalizing node with
  | nil =>
    obtain ⟨isSearchable, isWritable, entries, hat⟩ := h
    rw [at?_nil, Option.some.injEq] at hat
    subst hat
    calc
      _ = (((directory isSearchable isWritable entries).withChild name new).child? name).bind
            (·.at? below) := by
        rw [List.nil_append, List.nil_append, put, put, at?_cons]
      _ = (some new).bind (·.at? below) := by rw [child?_withChild, if_pos rfl]
      _ = new.at? below := rfl
  | cons first others ih =>
    obtain ⟨isSearchable, isWritable, entries, child, rfl, hchild, hothers⟩ := h.below
    rw [List.cons_append, List.cons_append, put, at?_cons, child?_withChild, if_pos rfl, hchild]
    exact ih hothers

/-- Elsewhere nothing changes. -/
theorem label_put {parent : Location} (h : node.HasDirectory parent) (name : Path) (new : Node)
    {location : Location} (helse : ¬ parent ++ [name] <+: location) :
    ((node.put (parent ++ [name]) new).at? location).map label = (node.at? location).map label := by
  induction parent generalizing node location with
  | nil =>
    obtain ⟨isSearchable, isWritable, entries, hat⟩ := h
    rw [at?_nil, Option.some.injEq] at hat
    subst hat
    cases location with
    | nil => rw [at?_nil, at?_nil, Option.map_some, Option.map_some, List.nil_append, put,
        label_withChild]
    | cons first rest =>
      have hne : first ≠ name := by
        rintro rfl
        exact helse ⟨rest, rfl⟩
      rw [List.nil_append, put, at?_cons, child?_withChild, if_neg hne, at?_cons]
  | cons front others ih =>
    obtain ⟨isSearchable, isWritable, entries, child, rfl, hchild, hothers⟩ := h.below
    rw [List.cons_append, put, hchild]
    apply label_at?_withChild hchild
    rintro rest rfl
    exact ih hothers fun hprefix ↦ helse (List.cons_prefix_cons.mpr ⟨rfl, hprefix⟩)

theorem remove_singleton (node : Node) (name : Path) :
    node.remove [name] = node.withoutChild name := by
  cases node <;> rfl

theorem remove_cons_append {first : Path} {child : Node} (hchild : node.child? first = some child)
    (others : Location) (name : Path) :
    node.remove (first :: (others ++ [name])) =
      node.withChild first (child.remove (others ++ [name])) := by
  have hne : (others ++ [name]).isEmpty = false := by
    cases others <;> rfl
  cases node <;> simp only [remove, hne, Bool.false_eq_true, if_false, hchild]

/-- What is taken away is gone. -/
theorem at?_remove {parent : Location} (h : node.HasDirectory parent) (name : Path)
    (below : Location) :
    (node.remove (parent ++ [name])).at? (parent ++ name :: below) = none := by
  induction parent generalizing node with
  | nil =>
    obtain ⟨isSearchable, isWritable, entries, hat⟩ := h
    rw [at?_nil, Option.some.injEq] at hat
    subst hat
    rw [List.nil_append, List.nil_append, remove_singleton, at?_cons, child?_withoutChild,
      if_pos rfl]
    rfl
  | cons first others ih =>
    obtain ⟨isSearchable, isWritable, entries, child, rfl, hchild, hothers⟩ := h.below
    rw [List.cons_append, List.cons_append, remove_cons_append hchild, at?_cons, child?_withChild,
      if_pos rfl]
    exact ih hothers

theorem label_remove {parent : Location} (h : node.HasDirectory parent) (name : Path)
    {location : Location} (helse : ¬ parent ++ [name] <+: location) :
    ((node.remove (parent ++ [name])).at? location).map label = (node.at? location).map label := by
  induction parent generalizing node location with
  | nil =>
    obtain ⟨isSearchable, isWritable, entries, hat⟩ := h
    rw [at?_nil, Option.some.injEq] at hat
    subst hat
    cases location with
    | nil => rw [at?_nil, at?_nil, Option.map_some, Option.map_some, List.nil_append,
        remove_singleton, label_withoutChild]
    | cons first rest =>
      have hne : first ≠ name := by
        rintro rfl
        exact helse ⟨rest, rfl⟩
      rw [List.nil_append, remove_singleton, at?_cons, child?_withoutChild, if_neg hne, at?_cons]
  | cons front others ih =>
    obtain ⟨isSearchable, isWritable, entries, child, rfl, hchild, hothers⟩ := h.below
    rw [List.cons_append, remove_cons_append hchild]
    apply label_at?_withChild hchild
    rintro rest rfl
    exact ih hothers fun hprefix ↦ helse (List.cons_prefix_cons.mpr ⟨rfl, hprefix⟩)

/-- The number of a file that stands in the tree after something was put there was there before, or
it belongs to what was put there. -/
theorem file_of_put {location : Location} {new : Node} {place : Location} {id : FileId}
    (h : ((node.put location new).at? place).map label = some (.file id)) :
    (∃ old, (node.at? old).map label = some (.file id)) ∨
      ∃ below, (new.at? below).map label = some (.file id) := by
  induction location generalizing node place with
  | nil => exact .inr ⟨place, h⟩
  | cons front rest ih =>
    rw [put] at h
    cases node with
    | file id => exact .inl ⟨place, h⟩
    | link target => exact .inl ⟨place, h⟩
    | directory isSearchable isWritable entries =>
      cases place with
      | nil => cases h
      | cons first below =>
        rw [at?_cons, child?_withChild] at h
        split at h
        · rcases ih h with ⟨old, hold⟩ | hnew
          · cases hchild : (directory isSearchable isWritable entries).child? front with
            | none =>
              rw [hchild] at hold
              cases old <;> cases hold
            | some child =>
              rw [hchild] at hold
              refine .inl ⟨front :: old, ?_⟩
              rw [at?_cons, hchild]
              exact hold
          · exact .inr hnew
        · refine .inl ⟨first :: below, ?_⟩
          rw [at?_cons]
          exact h

/-- So it was if something was taken away. -/
theorem file_of_remove {location place : Location} {id : FileId}
    (h : ((node.remove location).at? place).map label = some (.file id)) :
    ∃ old, (node.at? old).map label = some (.file id) := by
  induction location generalizing node place with
  | nil => exact ⟨place, h⟩
  | cons front rest ih =>
    rw [remove] at h
    split at h
    · cases node with
      | file id => exact ⟨place, h⟩
      | link target => exact ⟨place, h⟩
      | directory isSearchable isWritable entries =>
        cases place with
        | nil => cases h
        | cons first below =>
          rw [at?_cons, child?_withoutChild] at h
          split at h
          · cases h
          · exact ⟨first :: below, by rw [at?_cons]; exact h⟩
    · split at h
      · exact ⟨place, h⟩
      · next child hchild =>
        obtain ⟨isSearchable, isWritable, entries, rfl⟩ := exists_directory_of_child? hchild
        cases place with
        | nil => cases h
        | cons first below =>
          rw [at?_cons, child?_withChild] at h
          split at h
          · obtain ⟨old, hold⟩ := ih h
            exact ⟨front :: old, by rw [at?_cons, hchild]; exact hold⟩
          · exact ⟨first :: below, by rw [at?_cons]; exact h⟩

end Node

end Lockstep
