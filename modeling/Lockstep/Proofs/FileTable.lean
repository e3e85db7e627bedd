import Lockstep.FileSystem
import Lockstep.Proofs.Labels
import Lockstep.Proofs.Places

/-!
# Changes of a file system

What each call that changes a file system leaves at every location and in every file. What is put
into a directory changes one label, and what is written into a file changes no other file.
-/

namespace Lockstep.FileSystem

variable {system : FileSystem}

/-- The label at a location. -/
def labelAt? (system : FileSystem) (location : Location) : Option Label :=
  (system.node? location).map Node.label

theorem labelAt?_eq_none_iff {location : Location} :
    system.labelAt? location = none ↔ system.node? location = none :=
  Option.map_eq_none_iff

theorem node?_append (system : FileSystem) (front back : Location) :
    system.node? (front ++ back) = (system.node? front).bind (·.at? back) :=
  at?_append system.root front back

/-- Something has a label only in a directory. -/
theorem labelAt?_front {front back : Location} {label : Label} (hback : back ≠ [])
    (h : system.labelAt? (front ++ back) = some label) :
    ∃ isSearchable isWritable, system.labelAt? front = some (.directory isSearchable isWritable) := by
  obtain ⟨node, hnode, -⟩ := Option.map_eq_some_iff.mp h
  rw [node?_append] at hnode
  obtain ⟨above, habove, hbelow⟩ := Option.bind_eq_some_iff.mp hnode
  obtain ⟨name, rest, rfl⟩ := List.exists_cons_of_ne_nil hback
  rw [Node.at?_cons] at hbelow
  obtain ⟨child, hchild, -⟩ := Option.bind_eq_some_iff.mp hbelow
  obtain ⟨isSearchable, isWritable, entries, rfl⟩ := Node.exists_directory_of_child? hchild
  exact ⟨isSearchable, isWritable, by rw [labelAt?, habove]; rfl⟩

theorem hasDirectory_of_labelAt? {location : Location} {isSearchable isWritable : Bool}
    (h : system.labelAt? location = some (.directory isSearchable isWritable)) :
    system.root.HasDirectory location := by
  obtain ⟨node, hnode, hlabel⟩ := Option.map_eq_some_iff.mp h
  cases node with
  | directory isSearchable isWritable entries => exact ⟨_, _, entries, hnode⟩
  | file id => cases hlabel
  | link target => cases hlabel

/-! ## The table of files -/

theorem file?_updateFile (system : FileSystem) (id : FileId) (update : StoredFile → StoredFile)
    (other : FileId) :
    (system.updateFile id update).file? other =
      if other = id then (system.file? id).map update else system.file? other := by
  unfold updateFile file?
  dsimp only
  induction system.files with
  | nil => split <;> rfl
  | cons entry rest ih =>
    obtain ⟨first, file⟩ := entry
    rw [List.map_cons]
    by_cases hfirst : first = id
    · subst hfirst
      by_cases hother : other = first
      · subst hother
        simp
      · have hne : first ≠ other := fun heq ↦ hother heq.symm
        simpa [hother, hne] using ih
    · by_cases hother : other = id
      · subst hother
        simpa [hfirst] using ih
      · by_cases hsame : first = other
        · subst hsame
          simp [hfirst]
        · simpa [hfirst, hother, hsame] using ih

theorem file?_addFile (system : FileSystem) (location : Location) (file : StoredFile)
    (other : FileId) :
    (system.addFile location file).1.file? other =
      if other = system.nextId then some file else system.file? other := by
  unfold addFile setNode file?
  dsimp only
  by_cases hother : other = system.nextId
  · subst hother
    simp
  · have hne : system.nextId ≠ other := fun heq ↦ hother heq.symm
    simp [hother, hne]

/-! ## The tree -/

/-- A file that is added in a directory where nothing stood is the only new thing. -/
theorem labelAt?_addFile {parent : Location} (h : system.root.HasDirectory parent) {name : Path}
    (vacant : system.node? (parent ++ [name]) = none) (file : StoredFile) (location : Location) :
    (system.addFile (parent ++ [name]) file).1.labelAt? location =
      if location = parent ++ [name] then some (.file system.nextId)
      else system.labelAt? location := by
  change ((system.root.put (parent ++ [name]) (.file system.nextId)).at? location).map Node.label = _
  by_cases hprefix : parent ++ [name] <+: location
  · obtain ⟨below, rfl⟩ := hprefix
    have hput : (system.root.put (parent ++ [name]) (.file system.nextId)).at?
        (parent ++ [name] ++ below) = (Node.file system.nextId).at? below := by
      rw [List.append_assoc]
      exact Node.at?_put h name _ below
    rw [hput]
    cases below with
    | nil => rw [List.append_nil, if_pos rfl, Node.at?_nil]; rfl
    | cons first rest =>
      rw [if_neg (by simp), labelAt?, node?_append, vacant]
      rfl
  · have hne : location ≠ parent ++ [name] := fun heq ↦ hprefix (heq ▸ List.prefix_refl _)
    rw [if_neg hne, Node.label_put h name _ hprefix]
    rfl

/-- A file that is taken away is the only thing that is gone. -/
theorem labelAt?_removeNode {parent : Location} (h : system.root.HasDirectory parent) {name : Path}
    {id : FileId} (leaf : system.labelAt? (parent ++ [name]) = some (.file id))
    (location : Location) :
    (system.removeNode (parent ++ [name])).labelAt? location =
      if location = parent ++ [name] then none else system.labelAt? location := by
  change ((system.root.remove (parent ++ [name])).at? location).map Node.label = _
  by_cases hprefix : parent ++ [name] <+: location
  · obtain ⟨below, rfl⟩ := hprefix
    have hremove : (system.root.remove (parent ++ [name])).at? (parent ++ [name] ++ below) = none := by
      rw [List.append_assoc]
      exact Node.at?_remove h name below
    rw [hremove]
    cases below with
    | nil => rw [List.append_nil, if_pos rfl]; rfl
    | cons first rest =>
      rw [if_neg (by simp)]
      cases hbelow : system.labelAt? (parent ++ [name] ++ first :: rest) with
      | none => rfl
      | some label =>
        obtain ⟨isSearchable, isWritable, hdirectory⟩ :=
          labelAt?_front (List.cons_ne_nil _ _) hbelow
        rw [leaf] at hdirectory
        cases hdirectory
  · have hne : location ≠ parent ++ [name] := fun heq ↦ hprefix (heq ▸ List.prefix_refl _)
    rw [if_neg hne, Node.label_remove h name hprefix]
    rfl

/-! ## Calls -/

/-- A file that is made gets the next number. -/
theorem exists_eq_addFile {path : Path} {result : FileSystem × FileId}
    (h : system.createFile path = .ok result) :
    ∃ place, result = system.addFile place { contents := {}, isOpen := true } := by
  unfold createFile at h
  simp only [bind, Except.bind] at h
  split at h
  · cases h
  · split at h
    · cases h
    · split at h
      · cases h
      · cases h
        exact ⟨_, rfl⟩

theorem exists_eq_removeNode {path : Path} {after : FileSystem}
    (h : system.removeFile path = .ok after) : ∃ place, after = system.removeNode place := by
  unfold removeFile at h
  simp only [bind, Except.bind] at h
  split at h
  · cases h
  · split at h
    · cases h
    · cases h
    · split at h
      · cases h
        exact ⟨_, rfl⟩
      · cases h

theorem exists_eq_setNode {path : Path} {after : FileSystem}
    (h : system.makeDirectory path = .ok after) : ∃ place, after = system.setNode place .plain := by
  unfold makeDirectory at h
  simp only [bind, Except.bind] at h
  split at h
  · cases h
  · split at h
    · cases h
    · cases h
      exact ⟨_, rfl⟩

/-- What every single directory that is made leaves as it is, all that are made at once leave as it
is. -/
theorem keeps_makeDirectories (Keeps : FileSystem → FileSystem → Prop)
    (refl : ∀ system, Keeps system system)
    (trans : ∀ {first second third}, Keeps first second → Keeps second third → Keeps first third)
    (make : ∀ {before after path}, before.makeDirectory path = .ok after → Keeps before after)
    (system : FileSystem) (levels : Nat) (path : Path) :
    Keeps system (system.makeDirectories levels path).2 := by
  induction levels generalizing path with
  | zero => exact refl system
  | succ levels ih =>
    unfold makeDirectories
    split
    · exact refl system
    · cases hmake : system.makeDirectory path with
      | ok made => exact make hmake
      | error error =>
        dsimp only
        split
        · cases path.parent? with
          | none => exact refl system
          | some parent =>
            have above := ih parent
            dsimp only
            generalize system.makeDirectories levels parent = made at above
            obtain ⟨answer, after⟩ := made
            cases answer with
            | error error => exact above
            | ok _ =>
              dsimp only
              cases hagain : after.makeDirectory path with
              | ok made => exact trans above (make hagain)
              | error error => exact above
        · exact refl system

/-! ## Open files -/

/-- The two file systems differ only in what is stored in one file. -/
structure SameBut (before after : FileSystem) (id : FileId) : Prop where
  root : after.root = before.root
  nextId : after.nextId = before.nextId
  others : ∀ other, other ≠ id → after.file? other = before.file? other
  isSome : (after.file? id).isSome = (before.file? id).isSome

namespace SameBut

variable {before middle after : FileSystem} {id : FileId}

theorem refl (system : FileSystem) (id : FileId) : system.SameBut system id :=
  ⟨rfl, rfl, fun _ _ ↦ rfl, rfl⟩

theorem trans (h : before.SameBut middle id) (h' : middle.SameBut after id) :
    before.SameBut after id where
  root := h'.root.trans h.root
  nextId := h'.nextId.trans h.nextId
  others other hother := (h'.others other hother).trans (h.others other hother)
  isSome := h'.isSome.trans h.isSome

theorem labelAt? (h : before.SameBut after id) (location : Location) :
    after.labelAt? location = before.labelAt? location := by
  rw [FileSystem.labelAt?, FileSystem.labelAt?, node?, node?, h.root]

theorem updateFile (system : FileSystem) (id : FileId) (update : StoredFile → StoredFile)
    (free : Option Nat) : system.SameBut { system.updateFile id update with free } id where
  root := rfl
  nextId := rfl
  others other hother := by
    change (system.updateFile id update).file? other = _
    rw [file?_updateFile, if_neg hother]
  isSome := by
    change ((system.updateFile id update).file? id).isSome = _
    rw [file?_updateFile, if_pos rfl, Option.isSome_map]

theorem closeFile (system : FileSystem) (id : FileId) : system.SameBut (system.closeFile id) id :=
  updateFile system id (fun file ↦ { file with isOpen := false, contents := file.contents.pack })
    system.free

theorem appendFile (system : FileSystem) (id : FileId) (bytes : Bytes) :
    system.SameBut (system.appendFile id bytes).2 id :=
  updateFile system id _ _

end SameBut

/-- A write that does not fail adds all that it is given. -/
theorem file?_appendFile {id : FileId} {bytes : Bytes} (h : (system.appendFile id bytes).1 = .ok ()) :
    (system.appendFile id bytes).2.file? id =
      (system.file? id).map fun file ↦ { file with contents := file.contents.append bytes } := by
  unfold appendFile at h ⊢
  dsimp only at h ⊢
  split at h
  · cases h
  · next hfits =>
    have hall : bytes.take ((system.free.map (min bytes.length ·)).getD bytes.length) = bytes :=
      List.take_of_length_le (Nat.le_of_not_lt hfits)
    rw [hall]
    have hupdate := file?_updateFile system id
      (fun file ↦ { file with contents := file.contents.append bytes }) id
    rwa [if_pos rfl] at hupdate

theorem file?_closeFile (system : FileSystem) (id : FileId) :
    (system.closeFile id).file? id = (system.file? id).map fun file ↦
      { file with isOpen := false, contents := file.contents.pack } := by
  rw [closeFile, file?_updateFile, if_pos rfl]

/-- The file holds exactly the bytes. -/
def Stores (system : FileSystem) (id : FileId) (bytes : Bytes) : Prop :=
  ∃ file, system.file? id = some file ∧ file.contents.toBytes = bytes

/-- Closing a file does not change what it holds. -/
theorem Stores.closeFile {id : FileId} {bytes : Bytes} (h : system.Stores id bytes) :
    (system.closeFile id).Stores id bytes := by
  obtain ⟨file, hfile, hbytes⟩ := h
  refine ⟨{ file with isOpen := false, contents := file.contents.pack }, ?_, ?_⟩
  · rw [file?_closeFile, hfile]
    rfl
  · exact hbytes

end Lockstep.FileSystem
