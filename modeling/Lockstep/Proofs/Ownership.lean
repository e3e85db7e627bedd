import Lockstep.Proofs.FileTable
import Mathlib.Data.List.Induction

/-!
# Files that can be removed again

When a file was made, its path leads to the directory it stands in, and that directory can be
written to. All this shows in the labels on the way, so it lasts as long as nobody changes these
labels. Whoever only touches another file leaves them as they are.
-/

namespace Lockstep.FileSystem

/-! ## Differences -/

/-- The two file systems differ at most in what stands at one location and in what is stored in one
file. -/
structure AgreesBut (before after : FileSystem) (location : Location) (id : FileId) : Prop where
  labels : ∀ other, other ≠ location → after.labelAt? other = before.labelAt? other
  files : ∀ other, other ≠ id → after.file? other = before.file? other

namespace AgreesBut

variable {before middle after : FileSystem} {location : Location} {id : FileId}

theorem trans (h : before.AgreesBut middle location id) (h' : middle.AgreesBut after location id) :
    before.AgreesBut after location id where
  labels other hother := (h'.labels other hother).trans (h.labels other hother)
  files other hother := (h'.files other hother).trans (h.files other hother)

theorem of_sameBut (h : before.SameBut after id) (location : Location) :
    before.AgreesBut after location id where
  labels other _ := h.labelAt? other
  files := h.others

variable {system : FileSystem} {parent : Location} {name : Path}

theorem addFile (directory : system.root.HasDirectory parent)
    (vacant : system.node? (parent ++ [name]) = none) (file : StoredFile) :
    system.AgreesBut (system.addFile (parent ++ [name]) file).1 (parent ++ [name])
      system.nextId where
  labels other hother := by rw [labelAt?_addFile directory vacant, if_neg hother]
  files other hother := by rw [file?_addFile, if_neg hother]

theorem removeNode (directory : system.root.HasDirectory parent)
    (leaf : system.labelAt? (parent ++ [name]) = some (.file id)) :
    system.AgreesBut (system.removeNode (parent ++ [name])) (parent ++ [name]) id where
  labels other hother := by rw [labelAt?_removeNode directory leaf, if_neg hother]
  files _ _ := rfl

end AgreesBut

/-! ## Directories on the way -/

/-- The names lead through directories that can be searched to one that can also be written to. -/
structure Passable (system : FileSystem) (directory : Location) : Prop where
  names : ∀ name ∈ directory, name.IsName ∧ textLength name ≤ maxNameLength
  above : ∀ front, front <+: directory →
    ∃ isWritable, system.labelAt? front = some (.directory true isWritable)
  writable : system.labelAt? directory = some (.directory true true)

variable {system : FileSystem} {directory : Location}

theorem node?_of_labelAt? {location : Location} {isSearchable isWritable : Bool}
    (h : system.labelAt? location = some (.directory isSearchable isWritable)) :
    ∃ entries, system.node? location = some (.directory isSearchable isWritable entries) := by
  obtain ⟨node, hnode, hlabel⟩ := Option.map_eq_some_iff.mp h
  cases node with
  | directory isSearchable isWritable entries =>
    cases hlabel
    exact ⟨entries, hnode⟩
  | file id => cases hlabel
  | link target => cases hlabel

/-- Such names are a way that is found. -/
theorem exists_passes (names : ∀ name ∈ directory, name.IsName ∧ textLength name ≤ maxNameLength)
    (above : ∀ front, front <+: directory →
      ∃ isWritable, system.labelAt? front = some (.directory true isWritable)) :
    ∃ trail, Trail.Passes system.root trail ∧ trail.location = directory := by
  induction directory using List.reverseRecOn with
  | nil => exact ⟨[], .root, rfl⟩
  | append_singleton front name ih =>
    obtain ⟨trail, passes, rfl⟩ := ih
      (fun other hother ↦ names other (List.mem_append_left _ hother))
      fun other hother ↦ above other (hother.trans (List.prefix_append _ _))
    obtain ⟨isWritable, hfront⟩ := above trail.location (List.prefix_append _ _)
    obtain ⟨isWritable', hwhole⟩ := above (trail.location ++ [name]) (List.prefix_refl _)
    obtain ⟨entries, hnode⟩ := node?_of_labelAt? hfront
    obtain ⟨entries', hnode'⟩ := node?_of_labelAt? hwhole
    have hend : trail.node system.root = .directory true isWritable entries := by
      rw [passes.node?] at hnode
      exact Option.some.inj hnode
    have found : entries.lookup name = some (.directory true isWritable' entries') := by
      rw [node?_append, hnode, Option.bind_some, at?_singleton] at hnode'
      exact hnode'
    obtain ⟨isName, short⟩ := names name (List.mem_append_right _ (List.mem_singleton_self name))
    refine ⟨_, passes.step hend found isName short ?_, Trail.location_cons _ _ _⟩
    intro target hlink
    cases hlink

theorem Passable.exists_reaches (h : system.Passable directory) :
    ∃ trail entries, system.Reaches trail ∧ trail.location = directory ∧
      trail.node system.root = .directory true true entries := by
  obtain ⟨trail, passes, rfl⟩ := exists_passes h.names h.above
  obtain ⟨entries, hnode⟩ := node?_of_labelAt? h.writable
  obtain ⟨isWritable, hroot⟩ := h.above [] List.nil_prefix
  obtain ⟨rootEntries, hrootNode⟩ := node?_of_labelAt? hroot
  refine ⟨trail, entries, ⟨passes, true, isWritable, rootEntries, ?_⟩, rfl, ?_⟩
  · exact Option.some.inj hrootNode
  · rw [passes.node?] at hnode
    exact Option.some.inj hnode

theorem labels_of_passes {trail : Trail} (h : Trail.Passes system.root trail) :
    (∀ name ∈ trail.location, name.IsName ∧ textLength name ≤ maxNameLength) ∧
      ∀ front, front <+: trail.location → front ≠ trail.location →
        ∃ isWritable, system.labelAt? front = some (.directory true isWritable) := by
  induction h with
  | root =>
    refine ⟨fun name hname ↦ absurd hname List.not_mem_nil, ?_⟩
    intro front hprefix hne
    exact absurd (List.prefix_nil.mp hprefix) hne
  | @step trail name node isWritable entries passes above found isName short noLink ih =>
    rw [Trail.location_cons]
    constructor
    · intro other hother
      rcases List.mem_append.mp hother with hother | hother
      · exact ih.1 other hother
      · rw [List.mem_singleton.mp hother]
        exact ⟨isName, short⟩
    · intro front hprefix hne
      have hfront : front <+: trail.location := by
        rcases List.prefix_concat_iff.mp hprefix with hwhole | hfront
        · exact absurd hwhole hne
        · exact hfront
      by_cases hend : front = trail.location
      · refine ⟨isWritable, ?_⟩
        rw [hend, labelAt?, passes.node?, above]
        rfl
      · exact ih.2 front hfront hend

theorem Reaches.passable {trail : Trail} {entries : List (Path × Node)} (h : system.Reaches trail)
    (writable : trail.node system.root = .directory true true entries) :
    system.Passable trail.location := by
  obtain ⟨names, above⟩ := labels_of_passes h.passes
  have hend : system.labelAt? trail.location = some (.directory true true) := by
    rw [labelAt?, h.passes.node?, writable]
    rfl
  refine ⟨names, ?_, hend⟩
  intro front hprefix
  by_cases hfront : front = trail.location
  · exact ⟨true, hfront ▸ hend⟩
  · exact above front hprefix hfront

/-! ## Files that stand -/

/-- The file stands under the name in the directory, the path means this place, and the file can be
removed from it. -/
structure Stands (system : FileSystem) (path : Path) (id : FileId) (directory : Location)
    (name : Path) : Prop where
  path_eq : path = Location.path (directory ++ [name])
  usable : checkPath path = .ok ()
  isName : name.IsName
  short : textLength name ≤ maxNameLength
  passable : system.Passable directory
  leaf : system.labelAt? (directory ++ [name]) = some (.file id)

namespace Stands

variable {path name : Path} {id : FileId}

theorem isProper (h : system.Stands path id directory name) :
    Location.IsProper (directory ++ [name]) := by
  intro other hother
  rcases List.mem_append.mp hother with hother | hother
  · exact (h.passable.names other hother).1
  · rw [List.mem_singleton.mp hother]
    exact h.isName

theorem ofPath (h : system.Stands path id directory name) :
    Location.ofPath path = directory ++ [name] := by
  rw [h.path_eq]
  exact Location.filter_pieces_path h.isProper

theorem hasDirectory (h : system.Stands path id directory name) :
    system.root.HasDirectory directory :=
  hasDirectory_of_labelAt? h.passable.writable

/-- The file itself or a directory stands at every step of the way to the file. -/
theorem label_of_prefix (h : system.Stands path id directory name) {place : Location}
    (hplace : place <+: directory ++ [name]) :
    system.labelAt? place = some (.file id) ∨
      ∃ isWritable, system.labelAt? place = some (.directory true isWritable) := by
  rcases List.prefix_concat_iff.mp hplace with rfl | hfront
  · exact .inl h.leaf
  · exact .inr (h.passable.above place hfront)

/-- It stands as long as the labels on the way to it stay. -/
theorem of_labels {after : FileSystem} (h : system.Stands path id directory name)
    (same : ∀ place, place <+: directory ++ [name] →
      after.labelAt? place = system.labelAt? place) : after.Stands path id directory name where
  path_eq := h.path_eq
  usable := h.usable
  isName := h.isName
  short := h.short
  passable :=
    { names := h.passable.names
      above := by
        intro front hfront
        rw [same front (hfront.trans (List.prefix_append _ _))]
        exact h.passable.above front hfront
      writable := by
        rw [same directory (List.prefix_append _ _)]
        exact h.passable.writable }
  leaf := by
    rw [same _ (List.prefix_refl _)]
    exact h.leaf

theorem of_sameBut {after : FileSystem} {other : FileId} (h : system.Stands path id directory name)
    (same : system.SameBut after other) : after.Stands path id directory name :=
  h.of_labels fun place _ ↦ same.labelAt? place

/-- Whatever happens to another file leaves the labels on the way. -/
theorem labels_of_agreesBut {after : FileSystem} {location : Location} {other : FileId}
    (h : system.Stands path id directory name) (agree : system.AgreesBut after location other)
    (hne : other ≠ id) (apart : system.labelAt? location = none ∨
      system.labelAt? location = some (.file other)) {place : Location}
    (hplace : place <+: directory ++ [name]) :
    after.labelAt? place = system.labelAt? place := by
  apply agree.labels
  rintro rfl
  rcases h.label_of_prefix hplace with hfile | ⟨isWritable, hdirectory⟩
  · rw [hfile] at apart
    rcases apart with hnone | hother
    · cases hnone
    · cases hother
      exact hne rfl
  · rw [hdirectory] at apart
    rcases apart with hnone | hother
    · cases hnone
    · cases hother

theorem exists_node? (h : system.Stands path id directory name) :
    system.node? (directory ++ [name]) = some (.file id) := by
  obtain ⟨node, hnode, hlabel⟩ := Option.map_eq_some_iff.mp h.leaf
  cases node with
  | directory isSearchable isWritable entries => cases hlabel
  | file id' =>
    cases hlabel
    exact hnode
  | link target => cases hlabel

/-- Removing it succeeds. -/
theorem removeFile (h : system.Stands path id directory name) :
    system.removeFile path = .ok (system.removeNode (directory ++ [name])) := by
  obtain ⟨trail, entries, reaches, rfl, above⟩ := h.passable.exists_reaches
  have hcheck := h.usable
  rw [h.path_eq] at hcheck ⊢
  rw [reaches.removeFile_path_append h.isName above, hcheck, h.exists_node?]
  rfl

/-- Nothing else can be made in its place. -/
theorem createFile (h : system.Stands path id directory name) :
    system.createFile path = .error .fileExists := by
  obtain ⟨trail, entries, reaches, rfl, above⟩ := h.passable.exists_reaches
  have hcheck := h.usable
  rw [h.path_eq] at hcheck ⊢
  have hfound : (system.node? (trail.location ++ [name])).isSome := by
    rw [h.exists_node?]
    rfl
  have hoccupied : system.checkVacant ⟨trail.location, true, name⟩ = .error .fileExists := by
    rw [checkVacant, if_neg (Nat.not_lt.mpr h.short)]
    exact if_pos hfound
  rw [reaches.createFile_path_append h.isName above, hcheck]
  change ((system.checkVacant ⟨trail.location, true, name⟩).map fun _ ↦ _) = _
  rw [hoccupied]
  rfl

/-- Two files that stand do so at different paths. -/
theorem id_eq {directory' : Location} {name' : Path} {other : FileId}
    (h : system.Stands path id directory name) (h' : system.Stands path other directory' name') :
    id = other := by
  have hleaf := h.leaf
  rw [← h.ofPath, h'.ofPath, h'.leaf] at hleaf
  cases hleaf
  rfl

end Stands

/-- What is left when a file that stands is closed and removed. -/
theorem Stands.discard {path name : Path} {id : FileId} (h : system.Stands path id directory name) :
    let after := (system.closeFile id).removeNode (directory ++ [name])
    system.AgreesBut after (directory ++ [name]) id ∧
      after.labelAt? (directory ++ [name]) = none := by
  have closed := SameBut.closeFile system id
  have hclosed := h.of_sameBut closed
  constructor
  · exact (AgreesBut.of_sameBut closed _).trans (.removeNode hclosed.hasDirectory hclosed.leaf)
  · rw [labelAt?_removeNode hclosed.hasDirectory hclosed.leaf, if_pos rfl]

/-- A new file in a directory that can be passed can be removed again. -/
theorem Passable.stands_addFile (h : system.Passable directory) {name : Path} (isName : name.IsName)
    (short : textLength name ≤ maxNameLength)
    (usable : checkPath (Location.path (directory ++ [name])) = .ok ())
    (vacant : system.node? (directory ++ [name]) = none) (file : StoredFile) :
    (system.addFile (directory ++ [name]) file).1.Stands (Location.path (directory ++ [name]))
      system.nextId directory name := by
  have hadd := labelAt?_addFile (hasDirectory_of_labelAt? h.writable) vacant file
  have hbefore : ∀ front, front <+: directory → front ≠ directory ++ [name] := by
    rintro front hfront rfl
    have hlength := hfront.length_le
    rw [List.length_append, List.length_singleton] at hlength
    omega
  refine ⟨rfl, usable, isName, short, ⟨h.names, ?_, ?_⟩, ?_⟩
  · intro front hfront
    rw [hadd, if_neg (hbefore front hfront)]
    exact h.above front hfront
  · rw [hadd, if_neg (hbefore directory (List.prefix_refl _))]
    exact h.writable
  · rw [hadd, if_pos rfl]

end Lockstep.FileSystem
