import Lockstep.Proofs.Trails

/-!
# Places below directories that were found

What the calls that make and remove files do at the path of a name in a directory that was found.
They mean this name in this directory and nothing else, whatever links there are in the tree. A file
is only made where nothing stands, not even a link that leads nowhere.
-/

namespace Lockstep.FileSystem

variable {system : FileSystem} {trail : Trail} {name : Path} {isSearchable isWritable : Bool}
  {entries : List (Path × Node)}

/-- The path of a name in a directory that was reached leads through the directory. -/
theorem Reaches.walk_path_append (h : system.Reaches trail) {name : Path} (hname : name.IsName) :
    system.walk (trail.location ++ [name]).path =
      (checkPath (trail.location ++ [name]).path).bind fun _ ↦
        system.follow maxLinks trail [name] := by
  have hne : trail.location ++ [name] ≠ [] :=
    List.append_ne_nil_of_right_ne_nil _ (List.cons_ne_nil _ _)
  rw [walk_eq, Location.steps_path (h.passes.isProper.append hname), if_neg hne,
    h.passes.follow_append]

/-- The place that such a path means. -/
theorem Reaches.placeOf_path_append (h : system.Reaches trail) {name : Path}
    (hname : name.IsName) {isSearchable isWritable : Bool} {entries : List (Path × Node)}
    (above : trail.node system.root = .directory isSearchable isWritable entries) :
    system.placeOf (trail.location ++ [name]).path =
      (checkPath (trail.location ++ [name]).path).bind fun _ ↦
        if isSearchable then .ok ⟨trail.location, isWritable, name⟩
        else .error .permissionDenied := by
  have hpieces := Location.filter_pieces_path (h.passes.isProper.append hname)
  rw [placeOf, hpieces, List.reverse_append, List.reverse_singleton, List.singleton_append]
  simp only [List.reverse_reverse, h.passes.follow_location]
  cases hcheck : checkPath (trail.location ++ [name]).path with
  | error error => rfl
  | ok _ =>
    cases isSearchable <;>
      simp [Except.bind, above, hname.ne_dot, hname.ne_dotDot, bind]

/-- What making a file means there. -/
theorem Reaches.createFile_path_append (h : system.Reaches trail) (hname : name.IsName)
    (above : trail.node system.root = .directory isSearchable isWritable entries) :
    system.createFile (trail.location ++ [name]).path =
      (checkPath (trail.location ++ [name]).path).bind fun _ ↦
        if isSearchable then
          (system.checkVacant ⟨trail.location, isWritable, name⟩).map fun _ ↦
            system.addFile (trail.location ++ [name]) { contents := {}, isOpen := true }
        else .error .permissionDenied := by
  rw [createFile, h.placeOf_path_append hname above]
  cases checkPath (trail.location ++ [name]).path with
  | error error => rfl
  | ok _ =>
    cases isSearchable with
    | false => rfl
    | true =>
      change (if endsWithSlash (trail.location ++ [name]).path then _ else _) = _
      rw [Location.endsWithSlash_path_append hname, if_neg Bool.false_ne_true]
      rfl

/-- What removing a file means there. -/
theorem Reaches.removeFile_path_append (h : system.Reaches trail) (hname : name.IsName)
    (above : trail.node system.root = .directory isSearchable isWritable entries) :
    system.removeFile (trail.location ++ [name]).path =
      (checkPath (trail.location ++ [name]).path).bind fun _ ↦
        if isSearchable then
          match system.node? (trail.location ++ [name]) with
          | none => .error .notFound
          | some (.directory ..) => .error .isDirectory
          | some _ =>
            if isWritable then .ok (system.removeNode (trail.location ++ [name]))
            else .error .permissionDenied
        else .error .permissionDenied := by
  rw [removeFile, h.placeOf_path_append hname above]
  cases checkPath (trail.location ++ [name]).path with
  | error error => rfl
  | ok _ => cases isSearchable <;> rfl

theorem checkVacant_ok_iff {place : Place} :
    system.checkVacant place = .ok () ↔
      textLength place.name ≤ maxNameLength ∧ system.node? place.location = none ∧
        place.isWritable = true := by
  unfold checkVacant
  by_cases hlong : textLength place.name > maxNameLength
  · have hnot : ¬ textLength place.name ≤ maxNameLength := Nat.not_le.mpr hlong
    simp [hlong, hnot]
  · have hshort : textLength place.name ≤ maxNameLength := Nat.not_lt.mp hlong
    cases hnode : system.node? place.location <;> cases hwritable : place.isWritable <;>
      simp [hlong, hshort]

/-- Something that is not a directory has nothing made in it. -/
theorem Reaches.exists_directory_of_createFile (h : system.Reaches trail) (hname : name.IsName)
    {result : FileSystem × FileId}
    (hcreate : system.createFile (trail.location ++ [name]).path = .ok result) :
    ∃ isSearchable isWritable entries,
      trail.node system.root = .directory isSearchable isWritable entries := by
  have hpieces := Location.filter_pieces_path (h.passes.isProper.append hname)
  rw [createFile, placeOf, hpieces, List.reverse_append, List.reverse_singleton,
    List.singleton_append] at hcreate
  simp only [List.reverse_reverse, h.passes.follow_location] at hcreate
  cases hcheck : checkPath (trail.location ++ [name]).path with
  | error error =>
    rw [hcheck] at hcreate
    cases hcreate
  | ok _ =>
    rw [hcheck] at hcreate
    cases hnode : trail.node system.root with
    | directory isSearchable isWritable entries => exact ⟨_, _, _, rfl⟩
    | file id =>
      simp only [hnode, bind, Except.bind] at hcreate
      cases hcreate
    | link target =>
      simp only [hnode, bind, Except.bind] at hcreate
      cases hcreate

/-- A file that was made there stands where there was nothing. -/
theorem Reaches.of_createFile (h : system.Reaches trail) (hname : name.IsName)
    (above : trail.node system.root = .directory isSearchable isWritable entries)
    {result : FileSystem × FileId}
    (hcreate : system.createFile (trail.location ++ [name]).path = .ok result) :
    isSearchable = true ∧ isWritable = true ∧ textLength name ≤ maxNameLength ∧
      checkPath (trail.location ++ [name]).path = .ok () ∧
      system.node? (trail.location ++ [name]) = none ∧
      result = system.addFile (trail.location ++ [name]) { contents := {}, isOpen := true } := by
  rw [h.createFile_path_append hname above] at hcreate
  cases hcheck : checkPath (trail.location ++ [name]).path with
  | error error =>
    rw [hcheck] at hcreate
    cases hcreate
  | ok _ =>
    rw [hcheck] at hcreate
    cases isSearchable with
    | false => cases hcreate
    | true =>
      cases hvacant : system.checkVacant ⟨trail.location, isWritable, name⟩ with
      | error error =>
        simp only [Except.bind, if_true, hvacant] at hcreate
        cases hcreate
      | ok _ =>
        simp only [Except.bind, if_true, hvacant] at hcreate
        obtain ⟨hshort, hnone, hwritable⟩ := checkVacant_ok_iff.mp hvacant
        cases hcreate
        exact ⟨rfl, hwritable, hshort, rfl, hnone, rfl⟩

/-- Nothing is made at the canonical path of something that exists. -/
theorem Reaches.createFile_path_ne_ok (h : system.Reaches trail) (result : FileSystem × FileId) :
    system.createFile trail.location.path ≠ .ok result := by
  intro hcreate
  obtain ⟨passes, root⟩ := h
  cases passes with
  | root =>
    have hpieces := Location.filter_pieces_path Location.isProper_nil
    rw [createFile, placeOf, Trail.location_nil, hpieces] at hcreate
    cases hcreate
  | @step trail name node isWritable entries passes above found isName short noLink =>
    rw [Trail.location_cons] at hcreate
    obtain ⟨-, -, -, -, hnone, -⟩ :=
      Reaches.of_createFile ⟨passes, root⟩ isName above hcreate
    have hnode := (Trail.Passes.step passes above found isName short noLink).node?
    rw [Trail.location_cons, hnone] at hnode
    cases hnode

end Lockstep.FileSystem
