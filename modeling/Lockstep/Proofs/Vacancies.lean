import Lockstep.Proofs.Growth
import Lockstep.Proofs.Numbers

/-!
# Files that are made

A file can be made under a name in a directory in which nothing has this name. Then its path leads
to the file, and so it does in every larger tree. Whoever makes a file in another place leaves the
places free where files could be made.
-/

namespace Lockstep

/-- The last piece is empty only behind a separator. -/
theorem Text.eq_nil_or_getLast?_of_splitOn {separator : Char} {text : List Char}
    (h : (splitOn separator text).getLast? = some []) :
    text = [] ∨ text.getLast? = some separator := by
  induction text with
  | nil => exact .inl rfl
  | cons character rest ih =>
    right
    by_cases hcharacter : character = separator
    · rw [splitOn, if_pos hcharacter, List.getLast?_cons_of_ne_nil (splitOn_ne_nil _ _)] at h
      rcases ih h with rfl | hrest
      · rw [hcharacter]
        rfl
      · have hne : rest ≠ [] := by
          rintro rfl
          cases hrest
        rw [List.getLast?_cons_of_ne_nil hne, hrest]
    · obtain ⟨piece, pieces, hpieces, hsplit⟩ := splitOn_cons_of_ne hcharacter rest
      rw [hsplit] at h
      rw [hpieces] at ih
      cases pieces with
      | nil => cases h
      | cons second others =>
        rw [List.getLast?_cons_of_ne_nil (List.cons_ne_nil _ _)] at h ih
        rcases ih h with rfl | hrest
        · cases hpieces
        · have hne : rest ≠ [] := by
            rintro rfl
            cases hrest
          rw [List.getLast?_cons_of_ne_nil hne, hrest]
namespace FileSystem

variable {before after : FileSystem} {trail : Trail}

/-! ## Paths -/

/-- More steps than these are followed from where these lead. -/
theorem follow_append {system : FileSystem} {links : Nat} {trail last : Trail} {front : List Path}
    (h : system.follow links trail front = .ok last) :
    ∃ fewer, ∀ todo, system.follow links trail (front ++ todo) = system.follow fewer last todo := by
  induction links, trail, front using follow_induction system with
  | arrives links trail =>
    rw [FileSystem.follow] at h
    cases h
    exact ⟨links, fun todo ↦ rfl⟩
  | moves _ _ _ _ _ _ _ moves ih =>
    obtain ⟨fewer, hfewer⟩ := ih (moves.follow_eq.symm.trans h)
    refine ⟨fewer, fun todo ↦ ?_⟩
    rw [← hfewer, List.cons_append, (moves.append todo).follow_eq]
  | halts _ _ _ _ _ _ halts => cases (halts.follow_eq _).symm.trans h

/-- A path that does not end with a slash asks for no directory. -/
theorem steps_of_not_endsWithSlash {path : Path} (h : endsWithSlash path = false)
    (hnames : path.pieces.filter (!·.isEmpty) ≠ []) :
    steps path = path.pieces.filter (!·.isEmpty) := by
  rw [steps, if_neg]
  intro hlast
  rw [endsWithSlash, decide_eq_false_iff_not] at h
  by_cases habsolute : path.isAbsolute = true
  · cases path with
    | nil => cases habsolute
    | cons first body =>
      rw [Path.pieces, if_pos habsolute, List.drop_one, List.tail_cons] at hlast hnames
      rcases Text.eq_nil_or_getLast?_of_splitOn hlast with rfl | hbody
      · exact hnames rfl
      · have hne : body ≠ [] := by
          rintro rfl
          cases hbody
        rw [List.getLast?_cons_of_ne_nil hne] at h
        exact h hbody
  · rw [Path.pieces, if_neg habsolute] at hlast hnames
    rcases Text.eq_nil_or_getLast?_of_splitOn hlast with rfl | hbody
    · exact hnames rfl
    · exact h hbody

/-! ## Files that stand somewhere -/

/-- What can be opened and read stands somewhere. -/
theorem exists_label_of_openFile {path : Path} {id : FileId}
    (h : before.openFile path = .ok (.file id)) :
    ∃ location, before.labelAt? location = some (.file id) := by
  rw [openFile, nodeAt] at h
  cases hwalk : before.walk path with
  | error error =>
    rw [hwalk] at h
    cases h
  | ok trail =>
    refine ⟨trail.location, ?_⟩
    rw [labelAt?, (reaches_of_walk hwalk).passes.node?, Option.map_some]
    simp only [hwalk, bind, Except.bind, pure, Except.pure] at h
    cases hnode : trail.node before.root with
    | directory isSearchable isWritable entries =>
      rw [hnode] at h
      cases h
    | link target =>
      rw [hnode] at h
      cases h
    | file other =>
      simp only [hnode] at h
      split at h
      · cases h
      · cases h
        rfl

/-- The canonical path of something leads to it, if it can be used as a path at all. -/
theorem Reaches.canonicalize_path (h : before.Reaches trail)
    (usable : checkPath trail.location.path = .ok ()) :
    before.canonicalize trail.location.path = .ok trail.location := by
  rw [FileSystem.canonicalize, h.walk_path, usable]
  rfl

theorem Reaches.nodeAt_path (h : before.Reaches trail)
    (usable : checkPath trail.location.path = .ok ()) :
    before.nodeAt trail.location.path = .ok (trail.node before.root) := by
  rw [FileSystem.nodeAt, h.walk_path, usable]
  rfl

theorem isRegularFile_of_nodeAt {path : Path} {id : FileId}
    (h : before.nodeAt path = .ok (.file id)) : before.isRegularFile path = .ok true := by
  rw [isRegularFile, h]
  rfl

theorem openFile_of_nodeAt {path : Path} {id : FileId} (h : before.nodeAt path = .ok (.file id))
    {contents : Contents} (hfile : before.file? id = some { contents }) :
    before.openFile path = .ok (.file id) := by
  rw [openFile, h]
  simp only [bind, Except.bind, hfile, Option.any_some, Bool.false_eq_true, if_false]

/-! ## Files that can be made -/

/-- A file can be made at the path: under a name in the directory at the end of a way, where nothing
stands. -/
structure Vacant (system : FileSystem) (path : Path) (trail : Trail) (name : Path) : Prop where
  usable : checkPath path = .ok ()
  slashless : endsWithSlash path = false
  leads : ∃ front, path.pieces.filter (!·.isEmpty) = front ++ [name] ∧
    system.follow maxLinks [] front = .ok trail
  above : ∃ entries, trail.node system.root = .directory true true entries
  isName : name.IsName
  short : textLength name ≤ maxNameLength
  nothing : system.node? (trail.location ++ [name]) = none

theorem exists_of_placeOf {path : Path} {place : Place} (h : before.placeOf path = .ok place) :
    ∃ front trail entries, checkPath path = .ok () ∧
      path.pieces.filter (!·.isEmpty) = front ++ [place.name] ∧
      before.follow maxLinks [] front = .ok trail ∧ trail.location = place.directory ∧
      trail.node before.root = .directory true place.isWritable entries ∧ place.name.IsName := by
  rw [placeOf] at h
  cases hcheck : checkPath path with
  | error error =>
    rw [hcheck] at h
    cases h
  | ok _ =>
    cases hreversed : (path.pieces.filter (!·.isEmpty)).reverse with
    | nil =>
      simp only [hcheck, hreversed, bind, Except.bind] at h
      cases h
    | cons name front =>
      have hpieces : path.pieces.filter (!·.isEmpty) = front.reverse ++ [name] := by
        rw [← List.reverse_cons, ← hreversed, List.reverse_reverse]
      have hmem : name ∈ path.pieces.filter (!·.isEmpty) := by
        rw [hpieces]
        exact List.mem_append_right _ (List.mem_singleton_self name)
      obtain ⟨hpiece, hnonempty⟩ := List.mem_filter.mp hmem
      cases hfollow : before.follow maxLinks [] front.reverse with
      | error error =>
        simp only [hcheck, hreversed, hfollow, bind, Except.bind] at h
        cases h
      | ok trail =>
        simp only [hcheck, hreversed, hfollow, bind, Except.bind] at h
        split at h
        · next isSearchable isWritable entries above =>
          split at h
          · cases h
          · next searchable =>
            split at h
            · cases h
            · next noStep =>
              cases h
              obtain rfl : isSearchable = true := by simpa using searchable
              rw [Bool.or_eq_true, decide_eq_true_eq, decide_eq_true_eq, not_or] at noStep
              refine ⟨front.reverse, trail, entries, rfl, hpieces, hfollow, rfl, above, ?_,
                Path.slash_free_of_mem_pieces hpiece, noStep.1, noStep.2⟩
              rintro rfl
              exact Bool.false_ne_true hnonempty
        · cases h

/-- An empty file has been made, which is open for writing, and nothing else has changed. -/
structure MakesAt (before after : FileSystem) (location : Location) (id : FileId) : Prop where
  fresh : id = before.nextId
  nextId : after.nextId = before.nextId + 1
  file : after.file? id = some { contents := {}, isOpen := true }
  leaf : after.labelAt? location = some (.file id)
  agrees : before.AgreesBut after location id
  grows : before.Extends after
  free : after.free = before.free

theorem MakesAt.sound {location : Location} {id : FileId} (h : before.MakesAt after location id)
    (sound : before.Sound) : after.Sound where
  nodes other found hlabel := by
    rw [h.nextId]
    by_cases hother : other = location
    · rw [hother, h.leaf, Option.some.injEq] at hlabel
      cases hlabel
      rw [h.fresh]
      exact Nat.lt_succ_self _
    · rw [h.agrees.labels other hother] at hlabel
      exact Nat.lt_succ_of_lt (sound.nodes other found hlabel)
  files other hsome := by
    rw [h.nextId]
    by_cases hother : other = id
    · rw [hother, h.fresh]
      exact Nat.lt_succ_self _
    · rw [h.agrees.files other hother] at hsome
      exact Nat.lt_succ_of_lt (sound.files other hsome)

namespace Vacant

variable {path name : Path} {trail : Trail}

/-- The way to the directory, step by step. -/
theorem exists_front (h : before.Vacant path trail name) :
    ∃ front, path.pieces.filter (!·.isEmpty) = front ++ [name] ∧
      before.follow maxLinks [] front = .ok trail ∧ ∀ other ∈ front, '/' ∉ other := by
  obtain ⟨front, hpieces, hfollow⟩ := h.leads
  refine ⟨front, hpieces, hfollow, ?_⟩
  intro other hother
  have hmem : other ∈ path.pieces.filter (!·.isEmpty) := by
    rw [hpieces]
    exact List.mem_append_left _ hother
  exact Path.slash_free_of_mem_pieces (List.mem_filter.mp hmem).1

/-- The path means this place in every larger tree. -/
theorem placeOf_of_extends (h : before.Vacant path trail name) (grows : before.Extends after) :
    after.placeOf path = .ok ⟨trail.location, true, name⟩ := by
  obtain ⟨front, hpieces, hfollow, slashFree⟩ := h.exists_front
  obtain ⟨entries, above⟩ := h.above
  obtain ⟨trail', hfollow', same⟩ := grows.follow .root slashFree hfollow
  obtain ⟨entries', above'⟩ := same.exists_directory grows above
  rw [placeOf, h.usable, hpieces, List.reverse_append, List.reverse_singleton,
    List.singleton_append]
  simp only [List.reverse_reverse, hfollow', bind, Except.bind, above', h.isName.ne_dot,
    h.isName.ne_dotDot, decide_false, Bool.or_self, Bool.not_true, Bool.false_eq_true, if_false,
    same.location_eq]

theorem createFile (h : before.Vacant path trail name) :
    before.createFile path =
      .ok (before.addFile (trail.location ++ [name]) { contents := {}, isOpen := true }) := by
  have hvacant : before.checkVacant ⟨trail.location, true, name⟩ = .ok () :=
    checkVacant_ok_iff.mpr ⟨h.short, h.nothing, rfl⟩
  rw [FileSystem.createFile, h.placeOf_of_extends (.of_root_eq rfl)]
  simp only [h.slashless, bind, Except.bind, hvacant, Bool.false_eq_true, if_false]
  rfl

theorem passes (h : before.Vacant path trail name) : Trail.Passes before.root trail := by
  obtain ⟨front, -, hfollow, slashFree⟩ := h.exists_front
  exact Trail.Passes.root.follow slashFree hfollow

theorem hasDirectory (h : before.Vacant path trail name) :
    before.root.HasDirectory trail.location := by
  obtain ⟨entries, above⟩ := h.above
  have hnode := h.passes.node?
  rw [above] at hnode
  exact ⟨true, true, entries, hnode⟩

theorem makes (h : before.Vacant path trail name) :
    before.MakesAt (before.addFile (trail.location ++ [name]) { contents := {}, isOpen := true }).1
      (trail.location ++ [name]) before.nextId where
  fresh := rfl
  nextId := rfl
  file := by rw [file?_addFile, if_pos rfl]
  leaf := by rw [labelAt?_addFile h.hasDirectory h.nothing, if_pos rfl]
  agrees := .addFile h.hasDirectory h.nothing _
  grows := .of_agreesBut (labelAt?_eq_none_iff.mpr h.nothing) (.addFile h.hasDirectory h.nothing _)
  free := rfl

/-- It can also be made in a larger tree in which still nothing stands there. -/
theorem of_extends (h : before.Vacant path trail name) (grows : before.Extends after)
    (nothing : after.node? (trail.location ++ [name]) = none) :
    ∃ trail', after.Vacant path trail' name ∧ trail'.location = trail.location := by
  obtain ⟨front, hpieces, hfollow, slashFree⟩ := h.exists_front
  obtain ⟨entries, above⟩ := h.above
  obtain ⟨trail', hfollow', same⟩ := grows.follow .root slashFree hfollow
  refine ⟨trail', ⟨h.usable, h.slashless, ⟨front, hpieces, hfollow'⟩,
    same.exists_directory grows above, h.isName, h.short, ?_⟩, same.location_eq⟩
  rw [same.location_eq]
  exact nothing

/-- All that the path asks for. -/
theorem walk_eq (h : before.Vacant path trail name) {system : FileSystem} {front : List Path}
    (hpieces : path.pieces.filter (!·.isEmpty) = front ++ [name]) :
    system.walk path = system.follow maxLinks [] (front ++ [name]) := by
  have hsteps := steps_of_not_endsWithSlash h.slashless
    (by rw [hpieces]; exact List.append_ne_nil_of_right_ne_nil _ (List.cons_ne_nil _ _))
  rw [FileSystem.walk_eq, h.usable, hsteps, hpieces]
  rfl

/-- As long as nothing stands there the path leads nowhere. -/
theorem canonicalize_eq (h : before.Vacant path trail name) :
    before.canonicalize path = .error .notFound := by
  obtain ⟨front, hpieces, hfollow⟩ := h.leads
  obtain ⟨entries, above⟩ := h.above
  obtain ⟨fewer, hfewer⟩ := follow_append hfollow
  have hnone : entries.lookup name = none := by
    have hnothing := h.nothing
    rw [node?_append, h.passes.node?, above, Option.bind_some, at?_singleton] at hnothing
    exact hnothing
  have hempty : name.isEmpty = false := by
    cases hname : name with
    | nil => exact absurd hname h.isName.ne_nil
    | cons character rest => rfl
  have hmissing : before.follow fewer trail [name] = .error .notFound := by
    rw [FileSystem.follow]
    simp only [above, hempty, Bool.false_eq_true, if_false, Bool.not_true, h.isName.ne_dot,
      h.isName.ne_dotDot, gt_iff_lt, Nat.not_lt.mpr h.short, hnone]
  rw [FileSystem.canonicalize, h.walk_eq hpieces, hfewer, hmissing]
  rfl

/-- In a larger tree the path leads to the file that stands there. -/
theorem of_leaf (h : before.Vacant path trail name) (grows : before.Extends after) {id : FileId}
    (leaf : after.labelAt? (trail.location ++ [name]) = some (.file id)) :
    after.canonicalize path = .ok (trail.location ++ [name]) ∧
      after.nodeAt path = .ok (.file id) := by
  obtain ⟨front, hpieces, hfollow, slashFree⟩ := h.exists_front
  obtain ⟨entries, above⟩ := h.above
  obtain ⟨trail', hfollow', same⟩ := grows.follow .root slashFree hfollow
  obtain ⟨entries', above'⟩ := same.exists_directory grows above
  obtain ⟨fewer, hfewer⟩ := follow_append hfollow'
  have found : entries'.lookup name = some (.file id) := by
    obtain ⟨node, hnode, hlabel⟩ := Option.map_eq_some_iff.mp leaf
    rw [← same.location_eq, node?_append, same.passes'.node?, above', Option.bind_some,
      at?_singleton] at hnode
    rw [Node.eq_file_of_label hlabel] at hnode
    exact hnode
  have hwalk : after.walk path = .ok ((name, .file id) :: trail') := by
    rw [h.walk_eq hpieces, hfewer, follow_name above' found h.isName h.short nofun,
      FileSystem.follow]
  refine ⟨?_, ?_⟩
  · rw [FileSystem.canonicalize, hwalk, ← same.location_eq, ← Trail.location_cons]
    rfl
  · rw [nodeAt, hwalk]
    rfl

/-- In a larger tree the file that stands there can be taken away. -/
theorem removeFile (h : before.Vacant path trail name) (grows : before.Extends after) {id : FileId}
    (leaf : after.labelAt? (trail.location ++ [name]) = some (.file id)) :
    after.removeFile path = .ok (after.removeNode (trail.location ++ [name])) := by
  obtain ⟨node, hnode, hlabel⟩ := Option.map_eq_some_iff.mp leaf
  rw [Node.eq_file_of_label hlabel] at hnode
  rw [FileSystem.removeFile, h.placeOf_of_extends grows]
  simp only [bind, Except.bind, Place.location, hnode, if_true]
  rfl

/-- A file that can be made under a name in a directory that was found stands in this directory. -/
theorem of_push {root other : Path} {directory : Location}
    (found : before.canonicalize root = .ok directory) (isName : other.IsName)
    (h : before.Vacant (directory.path.push other) trail name) :
    name = other ∧ trail.location = directory ∧
      directory.path.push other = Location.path (directory ++ [other]) := by
  obtain ⟨front, hpieces, hfollow⟩ := h.leads
  obtain ⟨rootTrail, -, reaches, rfl⟩ := exists_reaches_of_canonicalize found
  have hpath := Location.path_push reaches.passes.isProper isName
  rw [hpath, Location.filter_pieces_path (reaches.passes.isProper.append isName)] at hpieces
  obtain ⟨rfl, hname⟩ := List.append_inj' hpieces rfl
  rw [reaches.passes.follow_location] at hfollow
  cases hfollow
  cases hname
  exact ⟨rfl, rfl, hpath⟩

end Vacant

/-- A file is made where one can be made. -/
theorem exists_makesAt_of_createFile {path : Path} {id : FileId}
    (h : before.createFile path = .ok (after, id)) :
    ∃ trail name, before.Vacant path trail name ∧
      before.MakesAt after (trail.location ++ [name]) id := by
  rw [createFile] at h
  cases hplace : before.placeOf path with
  | error error =>
    rw [hplace] at h
    cases h
  | ok place =>
    simp only [hplace, bind, Except.bind] at h
    split at h
    · cases h
    · next slashless =>
      cases hchecked : before.checkVacant place with
      | error error =>
        rw [hchecked] at h
        cases h
      | ok _ =>
        obtain ⟨front, trail, entries, usable, hpieces, hfollow, hlocation, above, isName⟩ :=
          exists_of_placeOf hplace
        obtain ⟨short, nothing, hwritable⟩ := checkVacant_ok_iff.mp hchecked
        rw [hwritable] at above
        rw [Place.location, ← hlocation] at nothing
        have vacant : before.Vacant path trail place.name :=
          ⟨usable, Bool.eq_false_iff.mpr slashless, ⟨front, hpieces, hfollow⟩, ⟨entries, above⟩,
            isName, short, nothing⟩
        rw [hchecked, Place.location, ← hlocation] at h
        cases h
        exact ⟨trail, place.name, vacant, vacant.makes⟩
end FileSystem

end Lockstep
