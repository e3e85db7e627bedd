import Lockstep.Proofs.Ownership

/-!
# Trees that grow

When something is put where nothing stood, every path still leads where it led before, whatever
links it follows.
-/

namespace Lockstep

theorem Node.eq_file_of_label {node : Node} {id : FileId} (h : node.label = (Node.file id).label) :
    node = .file id := by
  cases node with
  | directory isSearchable isWritable entries => cases h
  | file other =>
    cases h
    rfl
  | link target => cases h

theorem Node.eq_link_of_label {node : Node} {target : Path}
    (h : node.label = (Node.link target).label) : node = .link target := by
  cases node with
  | directory isSearchable isWritable entries => cases h
  | file id => cases h
  | link other =>
    cases h
    rfl

namespace FileSystem

variable {before middle after : FileSystem}

/-- Whatever stands somewhere in the one file system stands there in the other. -/
def Extends (before after : FileSystem) : Prop :=
  ∀ location label, before.labelAt? location = some label → after.labelAt? location = some label

namespace Extends

theorem trans (h : before.Extends middle) (h' : middle.Extends after) : before.Extends after :=
  fun location label hlabel ↦ h' location label (h location label hlabel)

theorem of_root_eq (h : after.root = before.root) : before.Extends after := by
  intro location label hlabel
  rw [labelAt?, node?, h]
  exact hlabel

theorem of_agreesBut {location : Location} {id : FileId}
    (vacant : before.labelAt? location = none) (agree : before.AgreesBut after location id) :
    before.Extends after := by
  intro other label hlabel
  rw [agree.labels other, hlabel]
  rintro rfl
  rw [vacant] at hlabel
  cases hlabel

end Extends

/-! ## Ways in both trees -/

namespace Trail

/-- The two ways go by the same names, each in its own tree. -/
structure Corresponds (before after : FileSystem) (first second : Trail) : Prop where
  passes : Passes before.root first
  passes' : Passes after.root second
  location_eq : second.location = first.location

theorem location_tail (trail : Trail) : location trail.tail = trail.location.dropLast := by
  cases trail with
  | nil => rfl
  | cons entry rest =>
    obtain ⟨name, node⟩ := entry
    rw [location_cons, List.dropLast_concat]
    rfl

namespace Corresponds

variable {first second : Trail}

theorem root : Corresponds before after [] [] := ⟨.root, .root, rfl⟩

theorem tail (h : Corresponds before after first second) :
    Corresponds before after first.tail second.tail := by
  refine ⟨h.passes.tail, h.passes'.tail, ?_⟩
  rw [location_tail, location_tail, h.location_eq]

/-- What stands at the end of the one way stands at the end of the other. -/
theorem label_eq (h : Corresponds before after first second) (grows : before.Extends after) :
    (second.node after.root).label = (first.node before.root).label := by
  have hfirst : before.labelAt? first.location = some (first.node before.root).label := by
    rw [labelAt?, h.passes.node?, Option.map_some]
  have hsecond := grows _ _ hfirst
  rw [← h.location_eq, labelAt?, h.passes'.node?, Option.map_some, Option.some.injEq] at hsecond
  exact hsecond

theorem exists_directory (h : Corresponds before after first second)
    (grows : before.Extends after) {isSearchable isWritable : Bool} {entries : List (Path × Node)}
    (above : first.node before.root = .directory isSearchable isWritable entries) :
    ∃ entries', second.node after.root = .directory isSearchable isWritable entries' := by
  have hlabel := h.label_eq grows
  rw [above] at hlabel
  cases hnode : second.node after.root with
  | directory isSearchable' isWritable' entries' =>
    rw [hnode] at hlabel
    cases hlabel
    exact ⟨entries', rfl⟩
  | file id =>
    rw [hnode] at hlabel
    cases hlabel
  | link target =>
    rw [hnode] at hlabel
    cases hlabel

/-- What is found under a name in the one directory is found in the other. -/
theorem exists_found (h : Corresponds before after first second) (grows : before.Extends after)
    {isSearchable isWritable : Bool} {entries entries' : List (Path × Node)}
    (above : first.node before.root = .directory isSearchable isWritable entries)
    (above' : second.node after.root = .directory isSearchable isWritable entries')
    {name : Path} {node : Node} (found : entries.lookup name = some node) :
    ∃ node', entries'.lookup name = some node' ∧ node'.label = node.label := by
  have hchild : before.labelAt? (first.location ++ [name]) = some node.label := by
    rw [labelAt?, node?_append, h.passes.node?, above, Option.bind_some, at?_singleton,
      Node.child?, Node.entries, found, Option.map_some]
  have hchild' := grows _ _ hchild
  rw [← h.location_eq, labelAt?, node?_append, h.passes'.node?, above', Option.bind_some,
    at?_singleton, Node.child?, Node.entries] at hchild'
  exact Option.map_eq_some_iff.mp hchild'

end Corresponds

end Trail

open Trail

/-- The name leads there in a tree that has grown, too. -/
theorem Moves.grow {links links' : Nat} {trail trail' other : Trail} {name : Path}
    {rest todo : List Path} (h : Moves before trail name rest links links' trail' todo)
    (same : Corresponds before after trail other) (grows : before.Extends after)
    (slashFree : '/' ∉ name) : ∃ other', Moves after other name rest links links' other' todo ∧
      Corresponds before after trail' other' := by
  cases h with
  | stays above here =>
    obtain ⟨entries', above'⟩ := same.exists_directory grows above
    exact ⟨other, .stays above' here, same⟩
  | rises above up =>
    obtain ⟨entries', above'⟩ := same.exists_directory grows above
    exact ⟨other.tail, .rises above' up, same.tail⟩
  | turns above entry found =>
    obtain ⟨entries', above'⟩ := same.exists_directory grows above
    obtain ⟨node', found', hlabel⟩ := same.exists_found grows above above' found
    obtain rfl := Node.eq_link_of_label hlabel
    refine ⟨_, .turns above' entry found', ?_⟩
    split
    · exact .root
    · exact same
  | @enters _ _ _ node above entry found noLink =>
    obtain ⟨entries', above'⟩ := same.exists_directory grows above
    obtain ⟨node', found', hlabel⟩ := same.exists_found grows above above' found
    have noLink' : ∀ target, node' ≠ .link target := by
      rintro target rfl
      exact noLink target (Node.eq_link_of_label hlabel.symm)
    have isName := entry.isName slashFree
    refine ⟨(name, node') :: other, .enters above' entry found' noLink', ?_⟩
    refine ⟨.step same.passes above found isName entry.short noLink,
      .step same.passes' above' found' isName entry.short noLink', ?_⟩
    rw [location_cons, location_cons, same.location_eq]

/-- Steps that lead somewhere still lead there in a tree that has grown. -/
theorem Extends.follow (grows : before.Extends after) {links : Nat} {todo : List Path}
    {trail last trail' : Trail} (same : Corresponds before after trail trail')
    (slashFree : ∀ name ∈ todo, '/' ∉ name)
    (hfollow : before.follow links trail todo = .ok last) :
    ∃ last', after.follow links trail' todo = .ok last' ∧ Corresponds before after last last' := by
  induction links, trail, todo using follow_induction before generalizing trail' with
  | arrives =>
    rw [FileSystem.follow] at hfollow ⊢
    cases hfollow
    exact ⟨trail', rfl, same⟩
  | moves _ _ _ _ _ _ _ moves ih =>
    obtain ⟨other, moves', same'⟩ := moves.grow same grows (slashFree _ List.mem_cons_self)
    rw [moves'.follow_eq]
    exact ih same' (moves.slashFree slashFree) (moves.follow_eq.symm.trans hfollow)
  | halts _ _ _ _ _ _ halts => cases (halts.follow_eq _).symm.trans hfollow

/-! ## Paths -/

/-- A path leads where it led. -/
theorem Extends.walk (grows : before.Extends after) {path : Path} {trail : Trail}
    (h : before.walk path = .ok trail) :
    ∃ trail', after.walk path = .ok trail' ∧ Corresponds before after trail trail' := by
  rw [walk_eq] at h ⊢
  cases hcheck : checkPath path with
  | error error =>
    rw [hcheck] at h
    cases h
  | ok _ =>
    rw [hcheck] at h
    exact grows.follow .root (fun name hname ↦ slash_free_of_mem_steps hname) h

theorem Extends.canonicalize (grows : before.Extends after) {path : Path} {location : Location}
    (h : before.canonicalize path = .ok location) : after.canonicalize path = .ok location := by
  obtain ⟨trail, hwalk, -, rfl⟩ := exists_reaches_of_canonicalize h
  obtain ⟨trail', hwalk', same⟩ := grows.walk hwalk
  rw [FileSystem.canonicalize, hwalk', ← same.location_eq]
  rfl

theorem Extends.nodeAt (grows : before.Extends after) {path : Path} {id : FileId}
    (h : before.nodeAt path = .ok (.file id)) : after.nodeAt path = .ok (.file id) := by
  rw [FileSystem.nodeAt] at h ⊢
  cases hwalk : before.walk path with
  | error error =>
    rw [hwalk] at h
    cases h
  | ok trail =>
    rw [hwalk] at h
    have hnode : trail.node before.root = .file id := Except.ok.inj h
    obtain ⟨trail', hwalk', same⟩ := grows.walk hwalk
    have hlabel := same.label_eq grows
    rw [hnode] at hlabel
    rw [hwalk']
    exact congrArg Except.ok (Node.eq_file_of_label hlabel)
end FileSystem

end Lockstep
