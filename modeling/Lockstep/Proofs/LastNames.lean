import Lockstep.Proofs.Tokens

/-!
# Last names of paths

What stands in front of the last name of a path stays the same when another name takes its place,
whatever slashes and dots there are in the path. The last dot of a name divides it into stem and
extension unless it stands at the front, and a stem that becomes longer without a dot leaves the
extension as it is.
-/

namespace Lockstep.Path

variable {path name other : Path} {isAbsolute : Bool} {front : List Path}

/-! ## In front of the last name -/

theorem IsName.not_isFiller (h : name.IsName) : isFiller name = false := by
  rw [isFiller, Bool.or_eq_false_iff, List.isEmpty_eq_false_iff, decide_eq_false_iff_not]
  exact ⟨h.ne_nil, h.ne_dot⟩

theorem ne_nil_of_not_isFiller {piece : Path} (h : isFiller piece = false) : piece ≠ [] := by
  rintro rfl
  cases h

theorem dropWhile_reverse_snoc {last : Path} (counts : isFiller last = false) (init : List Path) :
    (init ++ [last]).reverse.dropWhile isFiller = last :: init.reverse := by
  rw [List.reverse_append, List.reverse_singleton, List.singleton_append,
    List.dropWhile_cons_of_neg]
  rw [counts]
  exact Bool.false_ne_true

theorem exists_join_append (isAbsolute : Bool) (init : List Path) (last : Path) :
    ∃ before, joinPieces isAbsolute (init ++ [last]) = before ++ last := by
  have hbody : ∃ before, List.intercalate ['/'] (init ++ [last]) = before ++ last := by
    by_cases hinit : init = []
    · exact ⟨[], by rw [hinit, List.nil_append, List.intercalate_singleton, List.nil_append]⟩
    · refine ⟨List.intercalate ['/'] init ++ ['/'], ?_⟩
      rw [Location.intercalate_append_singleton hinit, List.append_assoc, List.singleton_append]
  obtain ⟨before, hbefore⟩ := hbody
  cases isAbsolute with
  | true => exact ⟨'/' :: before, congrArg ('/' :: ·) hbefore⟩
  | false => exact ⟨before, hbefore⟩

/-- The pieces can be all that counts in front of a name. They end with a piece that counts; a dot
counts only at the front of a relative path, and a relative path does not begin with a slash. -/
structure IsFront (isAbsolute : Bool) (front : List Path) : Prop where
  slash_free : ∀ piece ∈ front, '/' ∉ piece
  head : isAbsolute = false → ∀ piece ∈ front.head?, piece ≠ []
  last : ∀ piece ∈ front.getLast?, isFiller piece = false ∨ isAbsolute = false ∧ front = [dot]

namespace IsFront

theorem dot : IsFront false [Path.dot] where
  slash_free piece h := by
    rw [List.mem_singleton.mp h]
    decide
  head _ piece h := by
    cases h
    exact List.cons_ne_nil _ _
  last _ _ := .inr ⟨rfl, rfl⟩

variable (h : IsFront isAbsolute front)

include h

theorem slash_free_snoc (hname : name.IsName) : ∀ piece ∈ front ++ [name], '/' ∉ piece := by
  intro piece hpiece
  rcases List.mem_append.mp hpiece with hpiece | hpiece
  · exact h.slash_free piece hpiece
  · exact List.mem_singleton.mp hpiece ▸ hname.slash_free

/-- In a relative path a character of a name comes first. -/
theorem exists_snoc_eq_cons (hname : name.IsName) (relative : isAbsolute = false) :
    ∃ character piece rest, front ++ [name] = (character :: piece) :: rest := by
  cases front with
  | nil =>
    obtain ⟨character, rest, rfl⟩ := List.exists_cons_of_ne_nil hname.ne_nil
    exact ⟨character, rest, [], rfl⟩
  | cons first others =>
    obtain ⟨character, rest, rfl⟩ := List.exists_cons_of_ne_nil (h.head relative first rfl)
    exact ⟨character, rest, others ++ [name], rfl⟩

theorem isAbsolute_join (hname : name.IsName) :
    (joinPieces isAbsolute (front ++ [name])).isAbsolute = isAbsolute := by
  cases isAbsolute with
  | true => rfl
  | false =>
    obtain ⟨character, piece, rest, hpieces⟩ := h.exists_snoc_eq_cons hname rfl
    have hslash : '/' ∉ character :: piece := by
      apply h.slash_free_snoc hname
      rw [hpieces]
      exact List.mem_cons_self
    have hne : character ≠ '/' := fun heq ↦ hslash (heq ▸ List.mem_cons_self)
    rw [hpieces]
    cases rest <;>
      simp [joinPieces, Path.isAbsolute, List.intercalate_singleton, List.intercalate_cons_cons,
        hne]

theorem pieces_join (hname : name.IsName) :
    (joinPieces isAbsolute (front ++ [name])).pieces = front ++ [name] := by
  have hsplit := Text.splitOn_intercalate (List.append_ne_nil_of_right_ne_nil front
    (List.cons_ne_nil name [])) (h.slash_free_snoc hname)
  have habsolute := h.isAbsolute_join hname
  unfold pieces
  cases isAbsolute with
  | true => exact hsplit
  | false =>
    rw [habsolute]
    exact hsplit

/-- The name is the last piece that counts. -/
theorem trimmedPieces_join (hname : name.IsName) :
    (joinPieces isAbsolute (front ++ [name])).trimmedPieces = name :: front.reverse := by
  simp only [trimmedPieces, h.pieces_join hname, dropWhile_reverse_snoc hname.not_isFiller]
  rfl

theorem fileName?_join (hname : name.IsName) :
    (joinPieces isAbsolute (front ++ [name])).fileName? = some name := by
  unfold fileName?
  rw [h.trimmedPieces_join hname]
  simp [hname.ne_dot, hname.ne_dotDot]

theorem parent?_join (hname : name.IsName) :
    (joinPieces isAbsolute (front ++ [name])).parent? = some (joinPieces isAbsolute front) := by
  unfold parent?
  rw [h.trimmedPieces_join hname, h.pieces_join hname, h.isAbsolute_join hname]
  rcases List.eq_nil_or_concat front with rfl | ⟨init, last, rfl⟩
  · cases isAbsolute <;> rfl
  · rw [List.concat_eq_append] at h ⊢
    rcases h.last last List.getLast?_concat with counts | ⟨rfl, hdot⟩
    · dsimp only
      rw [dropWhile_reverse_snoc counts]
      simp
    · rw [hdot]
      rfl

theorem last_ne_nil {piece : Path} (hpiece : piece ∈ front.getLast?) : piece ≠ [] := by
  rcases h.last piece hpiece with counts | ⟨-, rfl⟩
  · exact ne_nil_of_not_isFiller counts
  · cases hpiece
    exact List.cons_ne_nil _ _

/-- A name that is pushed behind what stands in front becomes the last piece. -/
theorem push_join (hname : name.IsName) :
    (joinPieces isAbsolute front).push name = joinPieces isAbsolute (front ++ [name]) := by
  rw [push, isAbsolute_of_slash_free hname.slash_free, if_neg Bool.false_ne_true]
  rcases List.eq_nil_or_concat front with rfl | ⟨init, last, rfl⟩
  · cases isAbsolute <;> simp [joinPieces, List.intercalate_singleton]
  · rw [List.concat_eq_append] at h ⊢
    have hlast : last ≠ [] := h.last_ne_nil List.getLast?_concat
    have hslash : '/' ∉ last :=
      h.slash_free last (List.mem_append_right _ (List.mem_singleton_self _))
    obtain ⟨before, hbefore⟩ := exists_join_append isAbsolute init last
    have hnot : ¬ ((joinPieces isAbsolute (init ++ [last])).isEmpty ||
        (joinPieces isAbsolute (init ++ [last])).getLast? = some '/') = true := by
      rw [hbefore, List.getLast?_append, List.getLast?_eq_some_getLast hlast, Option.some_or,
        Bool.or_eq_true, not_or, List.isEmpty_iff, decide_eq_true_eq, Option.some.injEq]
      refine ⟨List.append_ne_nil_of_right_ne_nil _ hlast, fun hends ↦ ?_⟩
      exact hslash (hends ▸ List.getLast_mem hlast)
    rw [if_neg hnot]
    have hjoin := Location.intercalate_append_singleton
      (List.append_ne_nil_of_right_ne_nil init (List.cons_ne_nil last [])) name
    cases isAbsolute with
    | true => exact congrArg ('/' :: ·) hjoin.symm
    | false => exact hjoin.symm

end IsFront

/-- A relative path does not begin with a slash. -/
theorem ne_nil_of_mem_head?_pieces (hpath : path ≠ []) (relative : path.isAbsolute = false)
    {piece : Path} (hpiece : piece ∈ path.pieces.head?) : piece ≠ [] := by
  obtain ⟨character, rest, rfl⟩ := List.exists_cons_of_ne_nil hpath
  have hne : character ≠ '/' := by
    rintro rfl
    cases relative
  obtain ⟨first, others, -, hsplit⟩ := Text.splitOn_cons_of_ne hne rest
  rw [pieces, relative, if_neg Bool.false_ne_true, hsplit] at hpiece
  cases hpiece
  exact List.cons_ne_nil _ _

theorem isFront_of_suffix {kept : List Path} (hpath : path ≠ [])
    (hsuffix : kept <:+ path.pieces.reverse)
    (counts : ∀ piece ∈ kept.head?, isFiller piece = false) :
    IsFront path.isAbsolute kept.reverse := by
  obtain ⟨before, hbefore⟩ := hsuffix
  have hpieces : path.pieces = kept.reverse ++ before.reverse := by
    rw [← List.reverse_append, hbefore, List.reverse_reverse]
  refine ⟨fun piece hpiece ↦ ?_, fun relative piece hpiece ↦ ?_, fun piece hpiece ↦ ?_⟩
  · apply slash_free_of_mem_pieces
    rw [hpieces]
    exact List.mem_append_left _ hpiece
  · apply ne_nil_of_mem_head?_pieces hpath relative
    rw [hpieces, List.head?_append, Option.mem_def.mp hpiece]
    rfl
  · rw [List.getLast?_reverse] at hpiece
    exact .inl (counts piece hpiece)

theorem counts_of_mem_head?_dropWhile {pieces : List Path} {piece : Path}
    (h : piece ∈ (pieces.dropWhile isFiller).head?) : isFiller piece = false := by
  have dropped := List.head?_dropWhile_not isFiller pieces
  rw [Option.mem_def.mp h] at dropped
  exact dropped

/-- The last name is the last piece that counts. -/
theorem exists_dropWhile_of_fileName? (h : path.fileName? = some name) :
    ∃ rest, path.trimmedPieces = name :: rest ∧
      path.pieces.reverse.dropWhile isFiller = name :: rest ∧ name ≠ dot ∧ name ≠ dotDot := by
  unfold fileName? at h
  cases htrimmed : path.trimmedPieces with
  | nil =>
    rw [htrimmed] at h
    cases h
  | cons last rest =>
    rw [htrimmed] at h
    dsimp only at h
    split at h
    · cases h
    · next hsteps =>
      cases h
      rw [Bool.or_eq_true, decide_eq_true_eq, decide_eq_true_eq, not_or] at hsteps
      refine ⟨rest, rfl, ?_, hsteps⟩
      dsimp only [trimmedPieces] at htrimmed
      split at htrimmed
      · cases htrimmed
        exact absurd rfl hsteps.1
      · exact htrimmed

theorem isName_of_fileName? (h : path.fileName? = some name) : name.IsName := by
  obtain ⟨rest, -, hkept, hdot, hdotDot⟩ := exists_dropWhile_of_fileName? h
  have hmem : name ∈ path.pieces.reverse := by
    apply (List.dropWhile_sublist isFiller).subset
    rw [hkept]
    exact List.mem_cons_self
  have counts : isFiller name = false := by
    apply counts_of_mem_head?_dropWhile
    rw [hkept]
    rfl
  exact ⟨ne_nil_of_not_isFiller counts, slash_free_of_mem_pieces (List.mem_reverse.mp hmem), hdot,
    hdotDot⟩

/-- A path with a last name has a front, which makes up its parent. -/
theorem exists_front (h : path.fileName? = some name) :
    ∃ front, IsFront path.isAbsolute front ∧
      path.parent? = some (joinPieces path.isAbsolute front) := by
  obtain ⟨rest, htrimmed, hkept, -⟩ := exists_dropWhile_of_fileName? h
  have hpath : path ≠ [] := by
    rintro rfl
    cases hkept
  dsimp only [parent?]
  rw [htrimmed]
  dsimp only
  split
  · next hfront =>
    have relative : path.isAbsolute = false := by
      simp only [Bool.and_eq_true, Bool.not_eq_true'] at hfront
      exact hfront.1.1.2
    rw [relative]
    exact ⟨[dot], .dot, rfl⟩
  · have hname : name :: rest <:+ path.pieces.reverse := hkept ▸ List.dropWhile_suffix isFiller
    have hrest : rest.dropWhile isFiller <:+ path.pieces.reverse :=
      (List.dropWhile_suffix isFiller).trans ((List.suffix_cons name rest).trans hname)
    have isFront := isFront_of_suffix hpath hrest fun _ hpiece ↦
      counts_of_mem_head?_dropWhile hpiece
    exact ⟨_, isFront, rfl⟩

theorem exists_withFileName_eq (h : path.fileName? = some name) (hother : other.IsName) :
    ∃ front, IsFront path.isAbsolute front ∧
      path.parent? = some (joinPieces path.isAbsolute front) ∧
        path.withFileName other = joinPieces path.isAbsolute (front ++ [other]) := by
  obtain ⟨front, isFront, hparent⟩ := exists_front h
  refine ⟨front, isFront, hparent, ?_⟩
  rw [withFileName, h]
  dsimp only
  rw [hparent, Option.getD_some, isFront.push_join hother]

/-- Another last name leaves the parent as it is. -/
theorem parent?_withFileName (h : path.fileName? = some name) (hother : other.IsName) :
    (path.withFileName other).parent? = path.parent? := by
  obtain ⟨front, isFront, hparent, hpath⟩ := exists_withFileName_eq h hother
  rw [hpath, isFront.parent?_join hother, hparent]

theorem fileName?_withFileName (h : path.fileName? = some name) (hother : other.IsName) :
    (path.withFileName other).fileName? = some other := by
  obtain ⟨front, isFront, -, hpath⟩ := exists_withFileName_eq h hother
  rw [hpath, isFront.fileName?_join hother]

/-! ## Stems and extensions -/

/-- The end of a name that has this extension. -/
def ending (extension? : Option Path) : Path :=
  (extension?.map ('.' :: ·)).getD []

/-- The last dot divides a name into these two, or there is none but one at the front. -/
inductive Divides : Path → Option Path → Prop
  | whole {stem : Path} (dotless : '.' ∉ stem.tail) : Divides stem none
  | parts {stem extension : Path} (ne_nil : stem ≠ []) (dotless : '.' ∉ extension) :
    Divides stem (some extension)

/-- A name that is put together from two such parts is divided into them. -/
theorem Divides.splitExtension_append {stem : Path} {extension? : Option Path}
    (h : Divides stem extension?) :
    splitExtension (stem ++ ending extension?) = (stem, extension?) := by
  cases h with
  | @parts extension ne_nil dotless =>
    have found : Text.splitFirst? '.' (stem ++ '.' :: extension).reverse =
        some (extension.reverse, stem.reverse) := by
      rw [List.reverse_append, List.reverse_cons, List.append_assoc, List.singleton_append]
      exact Text.splitFirst?_append_cons (mt List.mem_reverse.mp dotless) _
    have notEmpty : ¬ stem.reverse.isEmpty = true := by
      rw [List.isEmpty_iff, List.reverse_eq_nil_iff]
      exact ne_nil
    change splitExtension (stem ++ '.' :: extension) = _
    unfold splitExtension
    rw [found]
    dsimp only
    rw [if_neg notEmpty, List.reverse_reverse, List.reverse_reverse]
  | whole dotless =>
    change splitExtension (stem ++ []) = _
    rw [List.append_nil]
    unfold splitExtension
    by_cases mem : '.' ∈ stem
    · -- the only dot is the one at the front
      obtain ⟨character, rest, rfl⟩ := List.exists_cons_of_ne_nil (List.ne_nil_of_mem mem)
      obtain rfl := (List.mem_cons.mp mem).resolve_right dotless
      have absent : '.' ∉ rest.reverse := mt List.mem_reverse.mp dotless
      rw [List.reverse_cons, Text.splitFirst?_append_cons absent]
      rfl
    · rw [Text.splitFirst?_eq_none_iff.mpr (mt List.mem_reverse.mp mem)]

/-- Every name is put together from its parts. -/
theorem divides_splitExtension (name : Path) :
    Divides (splitExtension name).1 (splitExtension name).2 ∧
      name = (splitExtension name).1 ++ ending (splitExtension name).2 := by
  unfold splitExtension
  split
  · next extension stem found =>
    have hname : name = stem.reverse ++ '.' :: extension.reverse := by
      rw [← List.reverse_reverse name, Text.eq_of_splitFirst? found]
      simp
    have dotless : '.' ∉ extension.reverse :=
      mt List.mem_reverse.mp (Text.not_mem_of_splitFirst? found)
    split
    · next hstem =>
      rw [List.isEmpty_iff.mp hstem, List.reverse_nil, List.nil_append] at hname
      refine ⟨.whole ?_, (List.append_nil name).symm⟩
      rw [hname]
      exact dotless
    · next hstem =>
      refine ⟨.parts ?_ dotless, hname⟩
      rw [Ne, List.reverse_eq_nil_iff, ← List.isEmpty_iff]
      exact hstem
  · next absent =>
    have dotless := mt List.mem_reverse.mpr (Text.splitFirst?_eq_none_iff.mp absent)
    exact ⟨.whole (mt List.mem_of_mem_tail dotless), (List.append_nil name).symm⟩

/-- A stem without a dot behind its front may become longer by anything else without one. -/
theorem Divides.append {stem more : Path} {extension? : Option Path} (h : Divides stem extension?)
    (dotless : '.' ∉ more) : Divides (stem ++ more) extension? := by
  cases h with
  | parts ne_nil others => exact .parts (List.append_ne_nil_of_left_ne_nil ne_nil _) others
  | whole others =>
    refine .whole fun mem ↦ ?_
    cases stem with
    | nil => exact dotless (List.mem_of_mem_tail mem)
    | cons character rest =>
      rcases List.mem_append.mp mem with mem | mem
      · exact others mem
      · exact dotless mem

end Lockstep.Path
