import Lockstep.Proofs.Naming

/-!
# Ways through a tree

What a way that was found is like: every name on it is a proper one, stands in a directory that may
be searched, and is not the name of a link. Such a way is found again from the names on it alone,
however it was found first, so canonical locations are stable. What one name does is said once: it
leads on from the end of a way, or it leads nowhere for a reason that shows there.
-/

namespace Lockstep.FileSystem

namespace Trail

/-- Every node of the way is found under its name in the node above, which may be searched. -/
inductive Passes (root : Node) : Trail → Prop where
  | root : Passes root []
  | step {trail : Trail} {name : Path} {node : Node} {isWritable : Bool}
      {entries : List (Path × Node)} (passes : Passes root trail)
      (above : trail.node root = .directory true isWritable entries)
      (found : entries.lookup name = some node) (isName : name.IsName)
      (short : textLength name ≤ maxNameLength) (noLink : ∀ target, node ≠ .link target) :
      Passes root ((name, node) :: trail)

variable {root : Node} {trail : Trail}

@[simp]
theorem location_nil : location [] = [] := rfl

@[simp]
theorem location_cons (name : Path) (node : Node) (trail : Trail) :
    location ((name, node) :: trail) = trail.location ++ [name] := by
  simp only [location, List.map_cons, List.reverse_cons]

theorem Passes.tail (h : Passes root trail) : Passes root trail.tail := by
  cases h with
  | root => exact .root
  | step passes above found isName short noLink => exact passes

theorem Passes.isProper (h : Passes root trail) : trail.location.IsProper := by
  induction h with
  | root => exact Location.isProper_nil
  | step passes above found isName short noLink ih =>
    rw [location_cons]
    exact ih.append isName

end Trail

theorem at?_append (node : Node) (front back : Location) :
    node.at? (front ++ back) = (node.at? front).bind (·.at? back) := by
  induction front generalizing node with
  | nil => rfl
  | cons name rest ih =>
    simp only [List.cons_append, Node.at?, ih]
    cases node.child? name <;> rfl

theorem at?_singleton (node : Node) (name : Path) : node.at? [name] = node.child? name := by
  simp only [Node.at?]
  cases node.child? name <;> rfl

variable {system : FileSystem} {trail : Trail}

/-- What a way leads to stands at its location. -/
theorem Trail.Passes.node? (h : Trail.Passes system.root trail) :
    system.node? trail.location = some (trail.node system.root) := by
  induction h with
  | root => rfl
  | step passes above found isName short noLink ih =>
    rw [FileSystem.node?] at ih ⊢
    rw [Trail.location_cons, at?_append, ih, Option.bind_some, at?_singleton, above]
    exact found

/-! ## One name after another -/

/-- The name asks for an entry of a directory, and there can be one of this name. -/
structure IsEntry (name : Path) : Prop where
  ne_nil : name ≠ []
  ne_dot : name ≠ Path.dot
  ne_dotDot : name ≠ Path.dotDot
  short : textLength name ≤ maxNameLength

namespace IsEntry

variable {name : Path}

theorem isName (h : IsEntry name) (slashFree : '/' ∉ name) : name.IsName :=
  ⟨h.ne_nil, slashFree, h.ne_dot, h.ne_dotDot⟩

theorem isEmpty (h : IsEntry name) : name.isEmpty = false := by
  simpa using h.ne_nil

theorem not_long (h : IsEntry name) : ¬ textLength name > maxNameLength := Nat.not_lt.mpr h.short

end IsEntry

/-- Where a name leads from the end of a way, and what is left to be followed from there. -/
inductive Moves (system : FileSystem) (trail : Trail) (name : Path) (rest : List Path) :
    Nat → Nat → Trail → List Path → Prop
  | stays {links : Nat} {isSearchable isWritable : Bool} {entries : List (Path × Node)}
      (above : trail.node system.root = .directory isSearchable isWritable entries)
      (here : name = [] ∨ isSearchable = true ∧ name = Path.dot) :
      Moves system trail name rest links links trail rest
  | rises {links : Nat} {isWritable : Bool} {entries : List (Path × Node)}
      (above : trail.node system.root = .directory true isWritable entries)
      (up : name = Path.dotDot) : Moves system trail name rest links links trail.tail rest
  | turns {links : Nat} {isWritable : Bool} {entries : List (Path × Node)} {target : Path}
      (above : trail.node system.root = .directory true isWritable entries)
      (entry : IsEntry name) (found : entries.lookup name = some (.link target)) :
      Moves system trail name rest (links + 1) links (if target.isAbsolute then [] else trail)
        (steps target ++ rest)
  | enters {links : Nat} {isWritable : Bool} {entries : List (Path × Node)} {node : Node}
      (above : trail.node system.root = .directory true isWritable entries)
      (entry : IsEntry name) (found : entries.lookup name = some node)
      (noLink : ∀ target, node ≠ .link target) :
      Moves system trail name rest links links ((name, node) :: trail) rest

/-- Why a name leads nowhere from the end of a way, and the place where nothing stands if that is the
reason. -/
inductive Halts (system : FileSystem) (trail : Trail) (name : Path) :
    Nat → SystemError → Option Location → Prop
  | leaf {links : Nat} (leaf : ∀ isSearchable isWritable entries,
      trail.node system.root ≠ .directory isSearchable isWritable entries) :
      Halts system trail name links .notDirectory none
  | barred {links : Nat} {isWritable : Bool} {entries : List (Path × Node)}
      (above : trail.node system.root = .directory false isWritable entries)
      (ne_nil : name ≠ []) : Halts system trail name links .permissionDenied none
  | long {links : Nat} {isWritable : Bool} {entries : List (Path × Node)}
      (above : trail.node system.root = .directory true isWritable entries)
      (ne_nil : name ≠ []) (ne_dot : name ≠ Path.dot) (ne_dotDot : name ≠ Path.dotDot)
      (long : maxNameLength < textLength name) : Halts system trail name links .nameTooLong none
  | absent {links : Nat} {isWritable : Bool} {entries : List (Path × Node)}
      (above : trail.node system.root = .directory true isWritable entries)
      (entry : IsEntry name) (absent : entries.lookup name = none) :
      Halts system trail name links .notFound (some (trail.location ++ [name]))
  | exhausted {isWritable : Bool} {entries : List (Path × Node)} {target : Path}
      (above : trail.node system.root = .directory true isWritable entries)
      (entry : IsEntry name) (found : entries.lookup name = some (.link target)) :
      Halts system trail name 0 .tooManyLinks none

/-- Names are followed one by one until there are none left or one leads nowhere. -/
theorem follow_induction (system : FileSystem) {motive : Nat → Trail → List Path → Prop}
    (arrives : ∀ links trail, motive links trail [])
    (moves : ∀ links links' trail trail' name rest todo,
      Moves system trail name rest links links' trail' todo → motive links' trail' todo →
        motive links trail (name :: rest))
    (halts : ∀ links trail name rest error place?, Halts system trail name links error place? →
      motive links trail (name :: rest))
    (links : Nat) (trail : Trail) (todo : List Path) : motive links trail todo := by
  have entry {name : Path} (nonempty : ¬ name.isEmpty) (ne_dot : name ≠ Path.dot)
      (ne_dotDot : name ≠ Path.dotDot) (short : ¬ textLength name > maxNameLength) :
      IsEntry name :=
    ⟨fun heq ↦ nonempty (List.isEmpty_iff.mpr heq), ne_dot, ne_dotDot, Nat.le_of_not_lt short⟩
  fun_induction follow system links trail todo with
  | case1 links trail => exact arrives links trail
  | case2 links trail name rest isSearchable isWritable entries above empty ih =>
    exact moves _ _ _ _ _ _ _ (.stays above (.inl (List.isEmpty_iff.mp empty))) ih
  | case3 links trail name rest isSearchable isWritable entries above nonempty unsearchable =>
    obtain rfl : isSearchable = false := by simpa using unsearchable
    exact halts _ _ _ _ _ _ (.barred above fun heq ↦ nonempty (List.isEmpty_iff.mpr heq))
  | case4 links trail rest isSearchable isWritable entries above searchable nonempty ih =>
    exact moves _ _ _ _ _ _ _ (.stays above (.inr ⟨by simpa using searchable, rfl⟩)) ih
  | case5 links trail rest isSearchable isWritable entries above searchable nonempty ne_dot ih =>
    obtain rfl : isSearchable = true := by simpa using searchable
    exact moves _ _ _ _ _ _ _ (.rises above rfl) ih
  | case6 links trail name rest isSearchable isWritable entries above nonempty searchable ne_dot
      ne_dotDot long =>
    obtain rfl : isSearchable = true := by simpa using searchable
    exact halts _ _ _ _ _ _ (.long above (fun heq ↦ nonempty (List.isEmpty_iff.mpr heq)) ne_dot
      ne_dotDot long)
  | case7 links trail name rest isSearchable isWritable entries above nonempty searchable ne_dot
      ne_dotDot short absent =>
    obtain rfl : isSearchable = true := by simpa using searchable
    exact halts _ _ _ _ _ _ (.absent above (entry nonempty ne_dot ne_dotDot short) absent)
  | case8 trail name rest isSearchable isWritable entries above nonempty searchable ne_dot
      ne_dotDot short target found =>
    obtain rfl : isSearchable = true := by simpa using searchable
    exact halts _ _ _ _ _ _ (.exhausted above (entry nonempty ne_dot ne_dotDot short) found)
  | case9 trail name rest isSearchable isWritable entries above nonempty searchable ne_dot
      ne_dotDot short target found links ih =>
    obtain rfl : isSearchable = true := by simpa using searchable
    exact moves _ _ _ _ _ _ _ (.turns above (entry nonempty ne_dot ne_dotDot short) found) ih
  | case10 links trail name rest isSearchable isWritable entries above nonempty searchable ne_dot
      ne_dotDot short node noLink found ih =>
    obtain rfl : isSearchable = true := by simpa using searchable
    exact moves _ _ _ _ _ _ _ (.enters above (entry nonempty ne_dot ne_dotDot short) found noLink)
      ih
  | case11 links trail name rest leaf => exact halts _ _ _ _ _ _ (.leaf leaf)

section

variable {links links' : Nat} {trail' : Trail} {name : Path} {rest todo : List Path}
  {error : SystemError} {place? : Option Location}

namespace Moves

theorem follow_eq (h : Moves system trail name rest links links' trail' todo) :
    system.follow links trail (name :: rest) = system.follow links' trail' todo := by
  rw [follow]
  cases h with
  | stays above here => rcases here with rfl | ⟨rfl, rfl⟩ <;> simp [above, Path.dot]
  | rises above up => simp [above, up, Path.dot, Path.dotDot]
  | turns above entry found =>
    simp [above, entry.isEmpty, entry.ne_dot, entry.ne_dotDot, entry.not_long, found]
  | enters above entry found noLink =>
    simp [above, entry.isEmpty, entry.ne_dot, entry.ne_dotDot, entry.not_long, found]

/-- More names are followed from there. -/
theorem append (h : Moves system trail name rest links links' trail' todo) (more : List Path) :
    Moves system trail name (rest ++ more) links links' trail' (todo ++ more) := by
  cases h with
  | stays above here => exact .stays above here
  | rises above up => exact .rises above up
  | turns above entry found =>
    rw [List.append_assoc]
    exact .turns above entry found
  | enters above entry found noLink => exact .enters above entry found noLink

theorem slashFree (h : Moves system trail name rest links links' trail' todo)
    (slashFree : ∀ other ∈ name :: rest, '/' ∉ other) : ∀ other ∈ todo, '/' ∉ other := by
  have hrest := (List.forall_mem_cons.mp slashFree).2
  cases h with
  | stays => exact hrest
  | rises => exact hrest
  | enters => exact hrest
  | turns =>
    exact List.forall_mem_append.mpr ⟨fun _ hmem ↦ slash_free_of_mem_steps hmem, hrest⟩

theorem passes (h : Moves system trail name rest links links' trail' todo)
    (passes : Trail.Passes system.root trail) (slashFree : '/' ∉ name) :
    Trail.Passes system.root trail' := by
  cases h with
  | stays => exact passes
  | rises => exact passes.tail
  | turns above entry found =>
    split
    · exact .root
    · exact passes
  | enters above entry found noLink =>
    exact .step passes above found (entry.isName slashFree) entry.short noLink

end Moves

theorem Halts.follow_eq (h : Halts system trail name links error place?) (rest : List Path) :
    system.follow links trail (name :: rest) = .error error := by
  rw [follow]
  cases h with
  | leaf leaf => cases hnode : trail.node system.root with
    | directory isSearchable isWritable entries => exact absurd hnode (leaf _ _ _)
    | file id => rfl
    | link target => rfl
  | barred above ne_nil => simp [above, ne_nil]
  | long above ne_nil ne_dot ne_dotDot long => simp [above, ne_nil, ne_dot, ne_dotDot, long]
  | absent above entry absent =>
    simp [above, entry.isEmpty, entry.ne_dot, entry.ne_dotDot, entry.not_long, absent]
  | exhausted above entry found =>
    simp [above, entry.isEmpty, entry.ne_dot, entry.ne_dotDot, entry.not_long, found]

end

/-- Following steps only ever passes what is there, whatever links were met. -/
theorem Trail.Passes.follow {links : Nat} {todo : List Path} {last : Trail}
    (h : Trail.Passes system.root trail) (slashFree : ∀ name ∈ todo, '/' ∉ name)
    (hfollow : system.follow links trail todo = .ok last) : Trail.Passes system.root last := by
  induction links, trail, todo using follow_induction system with
  | arrives =>
    rw [FileSystem.follow] at hfollow
    cases hfollow
    exact h
  | moves _ _ _ _ _ _ _ moves ih =>
    exact ih (moves.passes h (slashFree _ List.mem_cons_self)) (moves.slashFree slashFree)
      (moves.follow_eq.symm.trans hfollow)
  | halts _ _ _ _ _ _ halts => cases (halts.follow_eq _).symm.trans hfollow

/-- One more name is passed. -/
theorem follow_name {links : Nat} {name : Path} {node : Node} {isWritable : Bool}
    {entries : List (Path × Node)}
    (above : trail.node system.root = .directory true isWritable entries)
    (found : entries.lookup name = some node) (isName : name.IsName)
    (short : textLength name ≤ maxNameLength) (noLink : ∀ target, node ≠ .link target)
    (todo : List Path) :
    system.follow links trail (name :: todo) = system.follow links ((name, node) :: trail) todo :=
  (Moves.enters above ⟨isName.ne_nil, isName.ne_dot, isName.ne_dotDot, short⟩ found noLink).follow_eq

/-- The names on a way lead along the way, and no links are met. -/
theorem Trail.Passes.follow_append (h : Trail.Passes system.root trail) (links : Nat)
    (todo : List Path) :
    system.follow links [] (trail.location ++ todo) = system.follow links trail todo := by
  induction h generalizing todo with
  | root => rfl
  | step passes above found isName short noLink ih =>
    rw [location_cons, List.append_assoc, List.singleton_append, ih,
      follow_name above found isName short noLink]

theorem Trail.Passes.follow_location (h : Trail.Passes system.root trail) (links : Nat) :
    system.follow links [] trail.location = .ok trail := by
  have hfollow := h.follow_append links []
  rwa [List.append_nil, FileSystem.follow] at hfollow

/-! ## Canonical locations -/

/-- The way was found from the root on. -/
structure Reaches (system : FileSystem) (trail : Trail) : Prop where
  passes : Trail.Passes system.root trail
  root : ∃ isSearchable isWritable entries, system.root = .directory isSearchable isWritable entries

/-- Nothing is found below something that is not a directory. -/
theorem exists_directory_of_follow {links : Nat} {name : Path} {todo : List Path} {last : Trail}
    (h : system.follow links trail (name :: todo) = .ok last) :
    ∃ isSearchable isWritable entries,
      trail.node system.root = .directory isSearchable isWritable entries := by
  cases hnode : trail.node system.root with
  | directory isSearchable isWritable entries => exact ⟨_, _, _, rfl⟩
  | file id =>
    rw [follow] at h
    simp only [hnode] at h
    cases h
  | link target =>
    rw [follow] at h
    simp only [hnode] at h
    cases h

theorem walk_eq (system : FileSystem) (path : Path) :
    system.walk path = (checkPath path).bind fun _ ↦ system.follow maxLinks [] (steps path) := rfl

theorem reaches_of_walk {path : Path} (h : system.walk path = .ok trail) :
    system.Reaches trail := by
  rw [walk_eq] at h
  cases hcheck : checkPath path with
  | error error =>
    rw [hcheck] at h
    cases h
  | ok _ =>
    rw [hcheck] at h
    change system.follow maxLinks [] (steps path) = .ok trail at h
    refine ⟨Trail.Passes.root.follow (fun name hname ↦ slash_free_of_mem_steps hname) h, ?_⟩
    obtain ⟨name, todo, hsteps⟩ := List.exists_cons_of_ne_nil (steps_ne_nil path)
    rw [hsteps] at h
    exact exists_directory_of_follow h

/-- A canonical location is the location of a way that was found. -/
theorem exists_reaches_of_canonicalize {path : Path} {location : Location}
    (h : system.canonicalize path = .ok location) :
    ∃ trail, system.walk path = .ok trail ∧ system.Reaches trail ∧ trail.location = location := by
  rw [canonicalize] at h
  cases hwalk : system.walk path with
  | error error =>
    rw [hwalk] at h
    cases h
  | ok trail =>
    rw [hwalk] at h
    cases h
    exact ⟨trail, rfl, reaches_of_walk hwalk, rfl⟩

/-- The canonical path of something leads to it again, if it can be used as a path at all. -/
theorem Reaches.walk_path (h : system.Reaches trail) :
    system.walk trail.location.path = (checkPath trail.location.path).map fun _ ↦ trail := by
  rw [walk_eq]
  cases hcheck : checkPath trail.location.path with
  | error error => rfl
  | ok _ =>
    change system.follow maxLinks [] (steps trail.location.path) = .ok trail
    rw [Location.steps_path h.passes.isProper]
    by_cases hnil : trail.location = []
    · obtain ⟨isSearchable, isWritable, entries, hroot⟩ := h.root
      have htrail : trail = [] := by
        rw [Trail.location, List.reverse_eq_nil_iff, List.map_eq_nil_iff] at hnil
        exact hnil
      rw [if_pos hnil, htrail, follow]
      simp only [Trail.node, hroot, List.isEmpty_nil, if_true]
      rw [follow]
    · rw [if_neg hnil]
      exact h.passes.follow_location maxLinks

end Lockstep.FileSystem
