import Lockstep.FileSystem.Resolve

/-!
# Names, locations and paths

A location whose names are proper ones is read back from its absolute path, so distinct locations
have distinct paths. The names that a path asks for never contain a slash, wherever the path came
from.
-/

namespace Lockstep

namespace Text

variable {separator : Char}

theorem splitOn_ne_nil (separator : Char) (text : List Char) : splitOn separator text ≠ [] := by
  cases text with
  | nil => exact List.cons_ne_nil _ _
  | cons character rest =>
    unfold splitOn
    split
    · exact List.cons_ne_nil _ _
    · split <;> exact List.cons_ne_nil _ _

/-- The first character belongs to the first piece, unless it is a separator. -/
theorem splitOn_cons_of_ne {character : Char} (hne : character ≠ separator) (rest : List Char) :
    ∃ piece pieces, splitOn separator rest = piece :: pieces ∧
      splitOn separator (character :: rest) = (character :: piece) :: pieces := by
  obtain ⟨piece, pieces, hrest⟩ := List.exists_cons_of_ne_nil (splitOn_ne_nil separator rest)
  exact ⟨piece, pieces, hrest, by rw [splitOn, if_neg hne, hrest]⟩

theorem splitOn_of_not_mem {text : List Char} (h : separator ∉ text) :
    splitOn separator text = [text] := by
  induction text with
  | nil => rfl
  | cons character rest ih =>
    have hne : character ≠ separator := fun heq ↦ h (heq ▸ List.mem_cons_self)
    obtain ⟨piece, pieces, hrest, hsplit⟩ := splitOn_cons_of_ne hne rest
    rw [ih fun hmem ↦ h (List.mem_cons_of_mem _ hmem)] at hrest
    cases hrest
    exact hsplit

theorem splitOn_append_cons {first : List Char} (h : separator ∉ first) (rest : List Char) :
    splitOn separator (first ++ separator :: rest) = first :: splitOn separator rest := by
  induction first with
  | nil => rw [List.nil_append, splitOn, if_pos rfl]
  | cons character others ih =>
    have hne : character ≠ separator := fun heq ↦ h (heq ▸ List.mem_cons_self)
    have hothers := ih fun hmem ↦ h (List.mem_cons_of_mem _ hmem)
    rw [List.cons_append, splitOn, if_neg hne, hothers]

theorem not_mem_of_mem_splitOn {text piece : List Char} (h : piece ∈ splitOn separator text) :
    separator ∉ piece := by
  induction text generalizing piece with
  | nil =>
    rw [List.mem_singleton.mp h]
    exact List.not_mem_nil
  | cons character rest ih =>
    by_cases heq : character = separator
    · rw [splitOn, if_pos heq] at h
      rcases List.mem_cons.mp h with rfl | hmem
      · exact List.not_mem_nil
      · exact ih hmem
    · obtain ⟨first, others, hrest, hsplit⟩ := splitOn_cons_of_ne heq rest
      rw [hsplit] at h
      rcases List.mem_cons.mp h with rfl | hmem
      · intro hmem
        rcases List.mem_cons.mp hmem with hsame | hmem
        · exact heq hsame.symm
        · exact ih (hrest ▸ List.mem_cons_self) hmem
      · exact ih (hrest ▸ List.mem_cons_of_mem _ hmem)

/-- Pieces that do not contain the separator are found again. -/
theorem splitOn_intercalate {pieces : List (List Char)} (hne : pieces ≠ [])
    (h : ∀ piece ∈ pieces, separator ∉ piece) :
    splitOn separator (List.intercalate [separator] pieces) = pieces := by
  induction pieces with
  | nil => exact absurd rfl hne
  | cons first others ih =>
    have hfirst := h first List.mem_cons_self
    cases others with
    | nil => rw [List.intercalate_singleton, splitOn_of_not_mem hfirst]
    | cons second rest =>
      have hothers := ih (List.cons_ne_nil _ _) fun piece hmem ↦
        h piece (List.mem_cons_of_mem _ hmem)
      rw [List.intercalate_cons_cons, List.append_assoc, List.singleton_append,
        splitOn_append_cons hfirst, hothers]

end Text

namespace Path

/-- A name that something can stand under in a directory and be asked for. -/
structure IsName (name : Path) : Prop where
  ne_nil : name ≠ []
  slash_free : '/' ∉ name
  ne_dot : name ≠ dot
  ne_dotDot : name ≠ dotDot

theorem isName_singleton {character : Char} (hslash : character ≠ '/')
    (hdot : character ≠ '.') : IsName [character] where
  ne_nil := List.cons_ne_nil _ _
  slash_free hmem := hslash (List.mem_singleton.mp hmem).symm
  ne_dot heq := hdot (List.singleton_inj.mp heq)
  ne_dotDot heq := by cases heq

theorem slash_free_of_mem_pieces {path piece : Path} (h : piece ∈ path.pieces) : '/' ∉ piece :=
  Text.not_mem_of_mem_splitOn h

theorem isAbsolute_of_slash_free {path : Path} (h : '/' ∉ path) : path.isAbsolute = false := by
  cases path with
  | nil => rfl
  | cons character rest =>
    have hne : character ≠ '/' := fun heq ↦ h (heq ▸ List.mem_cons_self)
    simp [isAbsolute, hne]

end Path

namespace Location

variable {location : Location}

/-- All names of the location are proper ones. -/
def IsProper (location : Location) : Prop :=
  ∀ name ∈ location, Path.IsName name

theorem isProper_nil : IsProper [] := fun _ h ↦ absurd h List.not_mem_nil

theorem IsProper.append {name : Path} (h : location.IsProper) (hname : name.IsName) :
    IsProper (location ++ [name]) := by
  intro other hother
  rcases List.mem_append.mp hother with hother | hother
  · exact h other hother
  · exact List.mem_singleton.mp hother ▸ hname

theorem path_eq (location : Location) : location.path = '/' :: List.intercalate ['/'] location :=
  rfl

theorem pieces_path (hne : location ≠ []) (h : location.IsProper) :
    location.path.pieces = location := by
  have hsplit := Text.splitOn_intercalate hne fun name hname ↦ (h name hname).slash_free
  exact hsplit

/-- The names of a location are read back from its path. -/
theorem filter_pieces_path (h : location.IsProper) :
    location.path.pieces.filter (!·.isEmpty) = location := by
  by_cases hne : location = []
  · rw [hne]
    rfl
  · rw [pieces_path hne h, List.filter_eq_self]
    intro name hname
    have hname := (h name hname).ne_nil
    cases name with
    | nil => exact absurd rfl hname
    | cons character rest => rfl

theorem intercalate_append_singleton (hne : location ≠ []) (name : Path) :
    List.intercalate ['/'] (location ++ [name]) =
      List.intercalate ['/'] location ++ '/' :: name := by
  induction location with
  | nil => exact absurd rfl hne
  | cons first others ih =>
    cases others with
    | nil => simp [List.intercalate_cons_cons]
    | cons second rest =>
      have hothers := ih (List.cons_ne_nil _ _)
      calc
        _ = first ++ ['/'] ++ List.intercalate ['/'] (second :: rest ++ [name]) :=
          List.intercalate_cons_cons
        _ = first ++ ['/'] ++ (List.intercalate ['/'] (second :: rest) ++ '/' :: name) := by
          rw [hothers]
        _ = first ++ ['/'] ++ List.intercalate ['/'] (second :: rest) ++ '/' :: name :=
          (List.append_assoc _ _ _).symm
        _ = _ := by rw [List.intercalate_cons_cons]

theorem path_append_singleton (hne : location ≠ []) (name : Path) :
    (location ++ [name]).path = location.path ++ '/' :: name := by
  rw [path_eq, intercalate_append_singleton hne, path_eq, List.cons_append]

/-- The path of something in a directory ends with its name. -/
theorem exists_path_append (location : Location) (name : Path) :
    ∃ front, (location ++ [name]).path = front ++ '/' :: name := by
  by_cases hne : location = []
  · exact ⟨[], by rw [hne, List.nil_append, path_eq, List.intercalate_singleton, List.nil_append]⟩
  · exact ⟨location.path, path_append_singleton hne name⟩

theorem getLast?_path_append {name : Path} (hname : name.IsName) (location : Location) :
    (location ++ [name]).path.getLast? = name.getLast? := by
  obtain ⟨front, hpath⟩ := exists_path_append location name
  rw [hpath, List.getLast?_append, List.getLast?_cons_of_ne_nil hname.ne_nil,
    List.getLast?_eq_some_getLast hname.ne_nil, Option.some_or]

/-- A path of a location other than the root does not end with a slash. -/
theorem endsWithSlash_path_append {name : Path} (hname : name.IsName) (location : Location) :
    FileSystem.endsWithSlash (location ++ [name]).path = false := by
  rw [FileSystem.endsWithSlash, getLast?_path_append hname,
    List.getLast?_eq_some_getLast hname.ne_nil, decide_eq_false_iff_not, Option.some.injEq]
  intro heq
  exact hname.slash_free (heq ▸ List.getLast_mem hname.ne_nil)

/-- A name that is pushed behind the path of a directory gives the path of what has this name
there. -/
theorem path_push (h : location.IsProper) {name : Path} (hname : name.IsName) :
    location.path.push name = (location ++ [name]).path := by
  rw [Path.push, Path.isAbsolute_of_slash_free hname.slash_free, if_neg Bool.false_ne_true]
  rcases List.eq_nil_or_concat location with rfl | ⟨front, last, rfl⟩
  · rw [if_pos (by rfl), List.nil_append, path_eq, path_eq, List.intercalate_singleton]
    rfl
  · rw [List.concat_eq_append] at h ⊢
    have hlast : last.IsName := h last (List.mem_append_right _ (List.mem_singleton_self _))
    have hslash := endsWithSlash_path_append hlast front
    rw [FileSystem.endsWithSlash, decide_eq_false_iff_not] at hslash
    rw [path_append_singleton (List.append_ne_nil_of_right_ne_nil _ (List.cons_ne_nil _ _)),
      if_neg]
    rw [Bool.or_eq_true, decide_eq_true_eq, not_or]
    refine ⟨?_, hslash⟩
    rw [path_eq]
    exact Bool.false_ne_true

/-- The steps that the path of a location asks for are its names; the path of the root asks for a
directory. -/
theorem steps_path (h : location.IsProper) :
    FileSystem.steps location.path = if location = [] then [[]] else location := by
  by_cases hne : location = []
  · rw [if_pos hne, hne]
    rfl
  · rw [if_neg hne, FileSystem.steps, filter_pieces_path h, pieces_path hne h, if_neg]
    intro hlast
    exact (h _ (List.mem_of_getLast? hlast)).ne_nil rfl

end Location

namespace FileSystem

/-- No step that a path asks for contains a slash. -/
theorem slash_free_of_mem_steps {path name : Path} (h : name ∈ steps path) : '/' ∉ name := by
  have hfilter : ∀ name ∈ path.pieces.filter (!·.isEmpty), '/' ∉ name := fun name hname ↦
    Path.slash_free_of_mem_pieces (List.mem_filter.mp hname).1
  simp only [steps] at h
  split at h
  · rcases List.mem_append.mp h with hname | hname
    · exact hfilter name hname
    · rw [List.mem_singleton.mp hname]
      exact List.not_mem_nil
  · exact hfilter name h

/-- Every path asks for at least one step. -/
theorem steps_ne_nil (path : Path) : steps path ≠ [] := by
  simp only [steps]
  split
  · exact List.append_ne_nil_of_right_ne_nil _ (List.cons_ne_nil _ _)
  · next hlast =>
    intro hnil
    rw [List.filter_eq_nil_iff] at hnil
    have hne : path.pieces ≠ [] := Text.splitOn_ne_nil _ _
    have hmem := path.pieces.getLast_mem hne
    have hempty := hnil _ hmem
    rw [List.getLast?_eq_some_getLast hne] at hlast
    cases hname : path.pieces.getLast hne with
    | nil => exact hlast (congrArg some hname)
    | cons character rest =>
      rw [hname] at hempty
      exact hempty rfl

end FileSystem

end Lockstep
