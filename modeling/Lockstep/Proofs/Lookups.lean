import Lockstep.Proofs.Confinement
import Lockstep.Proofs.Vacancies

/-!
# Paths that lead nowhere

Why a path leads nowhere shows in what stands on the way, or it is that nothing stands at one place.
As long as nothing is put at this place the path leads nowhere for the same reason, whatever else the
tree is made to hold.
-/

namespace Lockstep

open FileSystem FileSystem.Trail

namespace FileSystem

/-! ## Where a path comes to nothing -/

/-- The place where the steps come to nothing, if they lead nowhere because nothing stands there. -/
def missing? (system : FileSystem) (links : Nat) (trail : Trail) (todo : List Path) :
    Option Location :=
  match todo with
  | [] => none
  | name :: rest =>
    match trail.node system.root with
    | .directory isSearchable _ entries =>
      if name.isEmpty then system.missing? links trail rest
      else if !isSearchable then none
      else if name = Path.dot then system.missing? links trail rest
      else if name = Path.dotDot then system.missing? links trail.tail rest
      else if textLength name > maxNameLength then none
      else match entries.lookup name with
        | none => some (trail.location ++ [name])
        | some (.link target) =>
          match links with
          | 0 => none
          | links + 1 =>
            system.missing? links (if target.isAbsolute then [] else trail) (steps target ++ rest)
        | some node => system.missing? links ((name, node) :: trail) rest
    | _ => none
termination_by (links, todo.length)

/-- The place where a path comes to nothing. -/
def missingAt? (system : FileSystem) (path : Path) : Option Location :=
  system.missing? maxLinks [] (steps path)

variable {system before after : FileSystem} {links links' : Nat} {trail trail' other : Trail}
  {name : Path} {rest todo : List Path} {error : SystemError} {place? : Option Location}

theorem Moves.missing?_eq (h : Moves system trail name rest links links' trail' todo) :
    system.missing? links trail (name :: rest) = system.missing? links' trail' todo := by
  rw [missing?]
  cases h with
  | stays above here => rcases here with rfl | ⟨rfl, rfl⟩ <;> simp [above, Path.dot]
  | rises above up => simp [above, up, Path.dot, Path.dotDot]
  | turns above entry found =>
    simp [above, entry.isEmpty, entry.ne_dot, entry.ne_dotDot, entry.not_long, found]
  | enters above entry found noLink =>
    simp [above, entry.isEmpty, entry.ne_dot, entry.ne_dotDot, entry.not_long, found]

/-- What is no directory at the end of the one way is none at the end of the other. -/
theorem Trail.Corresponds.leaf {trail trail' : Trail} (h : Corresponds before after trail trail')
    (grows : before.Extends after) (leaf : ∀ isSearchable isWritable entries,
      trail.node before.root ≠ .directory isSearchable isWritable entries)
    (isSearchable isWritable : Bool) (entries : List (Path × Node)) :
    trail'.node after.root ≠ .directory isSearchable isWritable entries := by
  intro hnode'
  have hlabel := h.label_eq grows
  rw [hnode'] at hlabel
  cases hnode : trail.node before.root with
  | directory isSearchable isWritable entries => exact leaf _ _ _ hnode
  | file id =>
    rw [hnode] at hlabel
    cases hlabel
  | link target =>
    rw [hnode] at hlabel
    cases hlabel

namespace Halts

theorem missing?_eq (h : Halts system trail name links error place?) (rest : List Path) :
    system.missing? links trail (name :: rest) = place? := by
  rw [missing?]
  cases h with
  | leaf leaf => cases hnode : trail.node system.root with
    | directory isSearchable isWritable entries => exact absurd hnode (leaf _ _ _)
    | file id => rfl
    | link target => rfl
  | barred above ne_nil => simp [above, ne_nil]
  | long above ne_nil ne_dot ne_dotDot long => simp [above, ne_nil, ne_dot, ne_dotDot, long]
  | absent above entry absent =>
    simp [above, entry.isEmpty, entry.ne_dot, entry.ne_dotDot, entry.not_long, absent]
  | exhausted above entry found =>
    simp [above, entry.isEmpty, entry.ne_dot, entry.ne_dotDot, entry.not_long, found]

theorem vacant (h : Halts system trail name links error place?) (passes : Passes system.root trail) :
    ∀ place ∈ place?, system.labelAt? place = none := by
  rintro place hplace
  cases h with
  | absent above entry absent =>
    cases hplace
    rw [labelAt?_eq_none_iff, node?_append, passes.node?, above, Option.bind_some, at?_singleton]
    exact absent
  | leaf => cases hplace
  | barred => cases hplace
  | long => cases hplace
  | exhausted => cases hplace

/-- The name leads nowhere in a tree that has grown, either, unless something was put there. -/
theorem grow (h : Halts before trail name links error place?)
    (same : Corresponds before after trail other) (grows : before.Extends after)
    (nothing : ∀ place ∈ place?, after.labelAt? place = none) :
    Halts after other name links error place? := by
  cases h with
  | leaf leaf => exact .leaf (same.leaf grows leaf)
  | barred above ne_nil =>
    obtain ⟨entries', above'⟩ := same.exists_directory grows above
    exact .barred above' ne_nil
  | long above ne_nil ne_dot ne_dotDot long =>
    obtain ⟨entries', above'⟩ := same.exists_directory grows above
    exact .long above' ne_nil ne_dot ne_dotDot long
  | absent above entry absent =>
    obtain ⟨entries', above'⟩ := same.exists_directory grows above
    have vacant := nothing _ rfl
    rw [← same.location_eq, labelAt?_eq_none_iff, node?_append, same.passes'.node?, above',
      Option.bind_some, at?_singleton] at vacant
    rw [← same.location_eq]
    exact .absent above' entry vacant
  | exhausted above entry found =>
    obtain ⟨entries', above'⟩ := same.exists_directory grows above
    obtain ⟨node', found', hlabel⟩ := same.exists_found grows above above' found
    obtain rfl := Node.eq_link_of_label hlabel
    exact .exhausted above' entry found'

end Halts

/-- Steps that lead somewhere come to nothing nowhere. -/
theorem missing?_of_follow {last : Trail} (h : system.follow links trail todo = .ok last) :
    system.missing? links trail todo = none := by
  induction links, trail, todo using follow_induction system with
  | arrives => rw [missing?]
  | moves _ _ _ _ _ _ _ moves ih =>
    rw [moves.missing?_eq]
    exact ih (moves.follow_eq.symm.trans h)
  | halts _ _ _ _ _ _ halts => cases (halts.follow_eq _).symm.trans h

/-- Nothing stands where steps come to nothing. -/
theorem labelAt?_of_missing? (passes : Passes system.root trail)
    (slashFree : ∀ name ∈ todo, '/' ∉ name) {place : Location}
    (h : system.missing? links trail todo = some place) : system.labelAt? place = none := by
  induction links, trail, todo using follow_induction system with
  | arrives =>
    rw [missing?] at h
    cases h
  | moves _ _ _ _ _ _ _ moves ih =>
    exact ih (moves.passes passes (slashFree _ List.mem_cons_self)) (moves.slashFree slashFree)
      (moves.missing?_eq.symm.trans h)
  | halts _ _ _ _ _ _ halts => exact halts.vacant passes place ((halts.missing?_eq _).symm.trans h)

theorem missingAt?_of_canonicalize {system : FileSystem} {path : Path} {location : Location}
    (h : system.canonicalize path = .ok location) : system.missingAt? path = none := by
  obtain ⟨trail, hwalk, -, -⟩ := exists_reaches_of_canonicalize h
  rw [walk_eq] at hwalk
  cases hcheck : checkPath path with
  | error error =>
    rw [hcheck] at hwalk
    cases hwalk
  | ok _ =>
    rw [hcheck] at hwalk
    exact missing?_of_follow hwalk

theorem labelAt?_of_missingAt? {system : FileSystem} {path : Path} {place : Location}
    (h : system.missingAt? path = some place) : system.labelAt? place = none :=
  labelAt?_of_missing? .root (fun _ hname ↦ slash_free_of_mem_steps hname) h

/-- Steps that lead nowhere still lead nowhere, for the same reason, in a tree that has grown, unless
something was put where they came to nothing. -/
theorem Extends.follow_error (grows : before.Extends after)
    (same : Corresponds before after trail other) (slashFree : ∀ name ∈ todo, '/' ∉ name)
    (hfollow : before.follow links trail todo = .error error)
    (nothing : ∀ place ∈ before.missing? links trail todo, after.labelAt? place = none) :
    after.follow links other todo = .error error := by
  induction links, trail, todo using follow_induction before generalizing other with
  | arrives =>
    rw [FileSystem.follow] at hfollow
    cases hfollow
  | moves _ _ _ _ _ _ _ moves ih =>
    obtain ⟨other', moves', same'⟩ := moves.grow same grows (slashFree _ List.mem_cons_self)
    rw [moves.missing?_eq] at nothing
    rw [moves'.follow_eq]
    exact ih same' (moves.slashFree slashFree) (moves.follow_eq.symm.trans hfollow) nothing
  | halts _ _ _ _ _ _ halts =>
    cases (halts.follow_eq _).symm.trans hfollow
    rw [halts.missing?_eq] at nothing
    exact (halts.grow same grows nothing).follow_eq _

/-! ## Paths in both trees -/

/-- The path leads to the same place in both file systems, or it leads nowhere for the same reason. -/
inductive LeadsAlike (before after : FileSystem) (path : Path) : Prop
  | leads {trail trail' : Trail} (hwalk : before.walk path = .ok trail)
      (hwalk' : after.walk path = .ok trail') (same : Corresponds before after trail trail')
  | fails {error : SystemError} (hwalk : before.walk path = .error error)
      (hwalk' : after.walk path = .error error)

theorem Extends.leadsAlike (grows : before.Extends after) {path : Path}
    (nothing : ∀ place ∈ before.missingAt? path, after.labelAt? place = none) :
    LeadsAlike before after path := by
  cases hwalk : before.walk path with
  | ok trail =>
    obtain ⟨trail', hwalk', same⟩ := grows.walk hwalk
    exact .leads hwalk hwalk' same
  | error error =>
    refine .fails hwalk ?_
    rw [walk_eq] at hwalk ⊢
    cases hcheck : checkPath path with
    | error other =>
      rw [hcheck] at hwalk
      exact hwalk
    | ok _ =>
      rw [hcheck] at hwalk
      exact grows.follow_error .root (fun name hname ↦ slash_free_of_mem_steps hname) hwalk nothing

/-- A way that was found is found in the larger tree, too. -/
theorem Reaches.exists_corresponds {trail : Trail} (h : before.Reaches trail)
    (grows : before.Extends after) :
    ∃ trail', after.Reaches trail' ∧ Corresponds before after trail trail' := by
  obtain ⟨isSearchable, isWritable, entries, hroot⟩ := h.root
  obtain ⟨entries', hroot'⟩ := Corresponds.root.exists_directory grows hroot
  have slashFree : ∀ name ∈ trail.location, '/' ∉ name :=
    fun name hname ↦ (h.passes.isProper name hname).slash_free
  obtain ⟨trail', -, same⟩ := grows.follow .root slashFree (h.passes.follow_location maxLinks)
  exact ⟨trail', ⟨same.passes', _, _, _, hroot'⟩, same⟩

/-- The canonical path of something that was found leads to it in both. -/
theorem Reaches.leadsAlike {trail : Trail} (h : before.Reaches trail)
    (grows : before.Extends after) : LeadsAlike before after trail.location.path := by
  obtain ⟨trail', h', same⟩ := h.exists_corresponds grows
  have hwalk := h.walk_path
  have hwalk' := h'.walk_path
  rw [same.location_eq] at hwalk'
  cases hcheck : checkPath trail.location.path with
  | error error =>
    rw [hcheck] at hwalk hwalk'
    exact .fails hwalk hwalk'
  | ok _ =>
    rw [hcheck] at hwalk hwalk'
    exact .leads hwalk hwalk' same

namespace LeadsAlike

variable {path : Path}

theorem canonicalize_eq (h : LeadsAlike before after path) :
    after.canonicalize path = before.canonicalize path := by
  rw [canonicalize, canonicalize]
  cases h with
  | leads hwalk hwalk' same =>
    rw [hwalk, hwalk']
    exact congrArg Except.ok same.location_eq
  | fails hwalk hwalk' => rw [hwalk, hwalk']

theorem isRegularFile_eq (h : LeadsAlike before after path) (grows : before.Extends after) :
    after.isRegularFile path = before.isRegularFile path := by
  rw [isRegularFile, isRegularFile, nodeAt, nodeAt]
  cases h with
  | fails hwalk hwalk' =>
    rw [hwalk, hwalk']
    rfl
  | @leads trail trail' hwalk hwalk' same =>
    have hlabel := same.label_eq grows
    rw [hwalk, hwalk']
    simp only [bind, Except.bind, pure, Except.pure]
    generalize trail'.node after.root = node' at hlabel
    generalize trail.node before.root = node at hlabel
    cases node <;> cases node' <;> first | rfl | cases hlabel

/-- A file that is stored alike can be opened in both or in neither. -/
theorem openFile_eq (h : LeadsAlike before after path) (grows : before.Extends after)
    (stored : ∀ location id, before.labelAt? location = some (.file id) →
      after.file? id = before.file? id) : after.openFile path = before.openFile path := by
  rw [openFile, openFile, nodeAt, nodeAt]
  cases h with
  | fails hwalk hwalk' =>
    rw [hwalk, hwalk']
    rfl
  | @leads trail trail' hwalk hwalk' same =>
    have hlabel := same.label_eq grows
    have hat : before.labelAt? trail.location = some (trail.node before.root).label := by
      rw [labelAt?, same.passes.node?, Option.map_some]
    rw [hwalk, hwalk']
    simp only [bind, Except.bind, pure, Except.pure]
    generalize trail'.node after.root = node' at hlabel
    generalize trail.node before.root = node at hlabel hat
    cases node with
    | file id =>
      rw [Node.eq_file_of_label hlabel]
      simp only [stored _ id hat]
    | directory isSearchable isWritable entries =>
      cases node' <;> first | rfl | cases hlabel
    | link target =>
      cases node' <;> first | rfl | cases hlabel

end LeadsAlike

/-! ## Files that are made -/

/-- Where something was found nothing can be made. -/
theorem Reaches.createFile_path {system : FileSystem} {trail : Trail} (h : system.Reaches trail) :
    system.createFile trail.location.path =
      (checkPath trail.location.path).bind fun _ ↦ .error .fileExists := by
  obtain ⟨passes, root⟩ := h
  cases passes with
  | root =>
    rw [createFile, placeOf, location_nil, Location.filter_pieces_path Location.isProper_nil]
    rfl
  | @step trail name node isWritable entries passes above found isName short noLink =>
    have occupied : (system.node? (trail.location ++ [name])).isSome := by
      have hnode := (Passes.step passes above found isName short noLink).node?
      rw [location_cons] at hnode
      rw [hnode]
      rfl
    have vacant : system.checkVacant ⟨trail.location, isWritable, name⟩ = .error .fileExists := by
      rw [checkVacant, if_neg (Nat.not_lt.mpr short)]
      exact if_pos occupied
    rw [location_cons, Reaches.createFile_path_append ⟨passes, root⟩ isName above, vacant]
    rfl

/-- Nothing can be made in something that is no directory. -/
theorem Reaches.createFile_path_append_of_leaf {system : FileSystem} {trail : Trail} {name : Path}
    (h : system.Reaches trail) (hname : name.IsName) (leaf : ∀ isSearchable isWritable entries,
      trail.node system.root ≠ .directory isSearchable isWritable entries) :
    system.createFile (trail.location ++ [name]).path =
      (checkPath (trail.location ++ [name]).path).bind fun _ ↦ .error .notDirectory := by
  have hpieces := Location.filter_pieces_path (h.passes.isProper.append hname)
  rw [createFile, placeOf, hpieces, List.reverse_append, List.reverse_singleton,
    List.singleton_append]
  simp only [List.reverse_reverse, h.passes.follow_location]
  cases checkPath (trail.location ++ [name]).path with
  | error error => rfl
  | ok _ =>
    cases hnode : trail.node system.root with
    | directory isSearchable isWritable entries => exact absurd hnode (leaf _ _ _)
    | file id => simp only [hnode, bind, Except.bind]
    | link target => simp only [hnode, bind, Except.bind]

/-- Whether a file can be made under a name in a directory that was found, and why not, depends on what
stands there and on nothing else. -/
theorem Reaches.createFile_path_append_congr {trail : Trail} {name : Path} (h : before.Reaches trail)
    (hname : name.IsName) (grows : before.Extends after)
    (label : after.labelAt? (trail.location ++ [name]) =
      before.labelAt? (trail.location ++ [name])) :
    (after.createFile (trail.location ++ [name]).path).map (fun _ ↦ ()) =
      (before.createFile (trail.location ++ [name]).path).map fun _ ↦ () := by
  obtain ⟨trail', h', same⟩ := h.exists_corresponds grows
  by_cases hdirectory : ∃ isSearchable isWritable entries,
      trail.node before.root = .directory isSearchable isWritable entries
  · obtain ⟨isSearchable, isWritable, entries, hnode⟩ := hdirectory
    obtain ⟨entries', hnode'⟩ := same.exists_directory grows hnode
    have hmake := h.createFile_path_append hname hnode
    have hmake' := h'.createFile_path_append hname hnode'
    have occupied : (after.node? (trail.location ++ [name])).isSome =
        (before.node? (trail.location ++ [name])).isSome := by
      have hsome := congrArg Option.isSome label
      rwa [labelAt?, labelAt?, Option.isSome_map, Option.isSome_map] at hsome
    have vacant : after.checkVacant ⟨trail.location, isWritable, name⟩ =
        before.checkVacant ⟨trail.location, isWritable, name⟩ := by
      unfold checkVacant Place.location
      rw [occupied]
    rw [same.location_eq, vacant] at hmake'
    rw [hmake, hmake']
    cases checkPath (trail.location ++ [name]).path with
    | error error => rfl
    | ok _ =>
      cases isSearchable with
      | false => rfl
      | true => cases before.checkVacant ⟨trail.location, isWritable, name⟩ <;> rfl
  · have leaf : ∀ isSearchable isWritable entries,
        trail.node before.root ≠ .directory isSearchable isWritable entries :=
      fun _ _ _ hnode ↦ hdirectory ⟨_, _, _, hnode⟩
    have hmake' := h'.createFile_path_append_of_leaf hname (same.leaf grows leaf)
    rw [same.location_eq] at hmake'
    rw [h.createFile_path_append_of_leaf hname leaf, hmake']

end FileSystem

/-! ## Requests -/

namespace Server

/-- The name means the path in a server with this root. -/
def Means (system : FileSystem) (root : Path) (filename : String) (path : Path) : Prop :=
  (Machine.run { files := system } (resolve root filename)).1 = .ok path

/-- The file that a name means is found, opened and made alike in the two file systems, if it is at
all. -/
structure FindsAlike (before after : FileSystem) (root : Path) (filename : String) : Prop where
  resolve : (Machine.run { files := after } (resolve root filename)).1 =
    (Machine.run { files := before } (resolve root filename)).1
  regular : ∀ path, Means before root filename path →
    after.isRegularFile path = before.isRegularFile path
  opened : ∀ path, Means before root filename path → after.openFile path = before.openFile path
  stored : ∀ path id, Means before root filename path → before.openFile path = .ok (.file id) →
    after.file? id = before.file? id
  makes : ∀ path, Means before root filename path →
    (after.createFile path).map (fun _ ↦ ()) = (before.createFile path).map fun _ ↦ ()

variable {before after : FileSystem} {root path : Path} {filename : String}

theorem Means.resolved (h : Means before root filename path) :
    Resolved before root (Path.ofText filename) path := by
  obtain ⟨result, hrun, hresolved⟩ := run_resolve { files := before } root filename
  rw [Means, hrun] at h
  exact hresolved path h

/-- A name means the same as long as nothing is put where the look-up came to nothing. -/
theorem run_resolve_of_extends (grows : before.Extends after)
    (rootMissing : ∀ place ∈ before.missingAt? root, after.labelAt? place = none)
    (missing : ∀ rootLocation, before.canonicalize root = .ok rootLocation →
      ∀ place ∈ before.missingAt? (rootLocation.path.push (Path.ofText filename)),
        after.labelAt? place = none) :
    (Machine.run { files := after } (resolve root filename)).1 =
      (Machine.run { files := before } (resolve root filename)).1 := by
  have rootAlike := (grows.leadsAlike rootMissing).canonicalize_eq
  cases rootAt : before.canonicalize root with
  | error error =>
    have rootAt' := rootAlike.trans rootAt
    rw [run_resolve_of_unavailable rootAt', run_resolve_of_unavailable rootAt]
  | ok rootLocation =>
    have rootAt' := rootAlike.trans rootAt
    have alike := (grows.leadsAlike (missing rootLocation rootAt)).canonicalize_eq
    cases canonical : before.canonicalize (rootLocation.path.push (Path.ofText filename)) with
    | error error =>
      have canonical' := alike.trans canonical
      rw [run_resolve_of_missing rootAt' canonical', run_resolve_of_missing rootAt canonical]
    | ok location =>
      have canonical' := alike.trans canonical
      rw [run_resolve_of_found rootAt' canonical', run_resolve_of_found rootAt canonical]

/-- Neither do the files that are put elsewhere matter to what is done about the name. -/
theorem findsAlike_of_extends (grows : before.Extends after)
    (stored : ∀ location id, before.labelAt? location = some (.file id) →
      after.file? id = before.file? id)
    (rootMissing : ∀ place ∈ before.missingAt? root, after.labelAt? place = none)
    (missing : ∀ rootLocation, before.canonicalize root = .ok rootLocation →
      ∀ place ∈ before.missingAt? (rootLocation.path.push (Path.ofText filename)),
        after.labelAt? place = none)
    (label : ∀ path, Means before root filename path →
      after.labelAt? (Location.ofPath path) = before.labelAt? (Location.ofPath path))
    (hname : (Path.ofText filename).IsName) : FindsAlike before after root filename := by
  have alike : ∀ path, Means before root filename path → LeadsAlike before after path := by
    intro path hpath
    cases hpath.resolved with
    | found rootAt canonical under =>
      obtain ⟨trail, -, reaches, rfl⟩ := exists_reaches_of_canonicalize canonical
      exact reaches.leadsAlike grows
    | missing rootAt canonical => exact grows.leadsAlike (missing _ rootAt)
  refine ⟨run_resolve_of_extends grows rootMissing missing, ?_, ?_, ?_, ?_⟩
  · exact fun path hpath ↦ (alike path hpath).isRegularFile_eq grows
  · exact fun path hpath ↦ (alike path hpath).openFile_eq grows stored
  · intro path id hpath hopen
    obtain ⟨location, hlabel⟩ := exists_label_of_openFile hopen
    exact stored location id hlabel
  · intro path hpath
    cases hpath.resolved with
    | found rootAt canonical under =>
      obtain ⟨trail, -, reaches, rfl⟩ := exists_reaches_of_canonicalize canonical
      obtain ⟨trail', reaches', same⟩ := reaches.exists_corresponds grows
      have hmake' := reaches'.createFile_path
      rw [same.location_eq] at hmake'
      rw [hmake', reaches.createFile_path]
    | missing rootAt canonical =>
      obtain ⟨trail, -, reaches, rfl⟩ := exists_reaches_of_canonicalize rootAt
      have hproper := reaches.passes.isProper
      have hlabel := label _ hpath
      rw [Location.path_push hproper hname] at hlabel ⊢
      rw [Location.ofPath, Location.filter_pieces_path (hproper.append hname)] at hlabel
      exact reaches.createFile_path_append_congr hname grows hlabel

end Server

end Lockstep
