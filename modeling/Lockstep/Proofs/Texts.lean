import Lockstep.Proofs.RequestText

/-!
# Texts in fields

A field of a datagram ends at the first zero byte, and it is read as text in one of two ways. Both
give back a text that was written. The strict reading accepts the encodings of texts and nothing
else; the lenient reading accepts everything, and neither makes a zero character out of a field
without a zero byte, so what was read can be written into a field again.
-/

namespace Lockstep.Bytes

variable {bytes : Bytes}

/-! ## Fields -/

theorem splitAtZero?_eq_none_iff : splitAtZero? bytes = none ↔ 0 ∉ bytes := by
  induction bytes with
  | nil => simp [splitAtZero?]
  | cons byte rest ih =>
    by_cases hbyte : byte = 0
    · simp [splitAtZero?, hbyte]
    · simp [splitAtZero?, hbyte, ih, Ne.symm hbyte]

/-- A field is what stands before the first zero byte. -/
theorem eq_of_splitAtZero? {front back : Bytes} (h : splitAtZero? bytes = some (front, back)) :
    bytes = front ++ 0 :: back ∧ 0 ∉ front := by
  induction bytes generalizing front with
  | nil => simp [splitAtZero?] at h
  | cons byte rest ih =>
    rw [splitAtZero?] at h
    split at h
    · next hbyte =>
      simp only [Option.some.injEq, Prod.mk.injEq] at h
      obtain ⟨rfl, rfl⟩ := h
      exact ⟨by rw [hbyte, List.nil_append], List.not_mem_nil⟩
    · next hbyte =>
      obtain ⟨⟨before, after⟩, hsplit, hpair⟩ := Option.map_eq_some_iff.mp h
      simp only [Prod.mk.injEq] at hpair
      obtain ⟨rfl, rfl⟩ := hpair
      obtain ⟨hrest, hbefore⟩ := ih hsplit
      refine ⟨by rw [hrest, List.cons_append], ?_⟩
      apply List.not_mem_cons_of_ne_of_not_mem
      · exact Ne.symm hbyte
      · exact hbefore

/-! ## The strict reading -/

theorem ofText_eq_of_text? {text : String} (h : text? bytes = some text) :
    ofText text = bytes := by
  rw [text?, String.fromUTF8?] at h
  split at h
  · next hvalid =>
    have htext : String.fromUTF8 bytes.toByteArray hvalid = text := Option.some.inj h
    apply List.toByteArray_inj.mp
    calc
      (ofText text).toByteArray = (String.ofList text.toList).toByteArray :=
        String.toByteArray_ofList.symm
      _ = text.toByteArray := by rw [String.ofList_toList]
      _ = bytes.toByteArray := by rw [← htext, String.fromUTF8]
  · cases h

/-- The strict reading accepts what is valid UTF-8. -/
theorem exists_text?_iff : (∃ text, text? bytes = some text) ↔ bytes.toByteArray.IsValidUTF8 := by
  by_cases hvalid : bytes.toByteArray.IsValidUTF8
  · simp [text?, String.fromUTF8?, hvalid]
  · simp [text?, String.fromUTF8?, hvalid]

theorem zero_mem_ofText {text : String} (h : '\x00' ∈ text.toList) : 0 ∈ ofText text := by
  apply List.mem_flatMap.mpr
  exact ⟨'\x00', h, by decide⟩

/-! ## The lenient reading -/

theorem leadingChar?_append (character : Char) (rest : Bytes) :
    leadingChar? (String.utf8EncodeChar character ++ rest) = some character := by
  have hlength : (String.utf8EncodeChar character).length ≤ 4 := by
    rw [String.length_utf8EncodeChar]
    exact character.utf8Size_le_four
  rw [leadingChar?, List.take_append, List.take_of_length_le hlength, List.toByteArray_append]
  exact ByteArray.utf8DecodeChar?_utf8EncodeChar_append

theorem mem_of_leadingChar? {character : Char} (h : leadingChar? bytes = some character) :
    ∀ byte ∈ String.utf8EncodeChar character, byte ∈ bytes := by
  intro byte hbyte
  have htake := ByteArray.eq_of_utf8DecodeChar?_eq_some h
  have hlist := congrArg (fun array : ByteArray ↦ array.data.toList) htake
  simp only [List.data_toByteArray, ByteArray.toList_data_append] at hlist
  apply List.mem_of_mem_take (i := 4)
  rw [hlist]
  exact List.mem_append_left _ hbyte

/-- Neither reading changes a text that was written. -/
theorem lenientChars_flatMap (characters : List Char) :
    lenientChars (characters.flatMap String.utf8EncodeChar) = characters := by
  induction characters with
  | nil => rw [List.flatMap_nil, lenientChars]
  | cons character others ih =>
    have hlength : (String.utf8EncodeChar character).length = character.utf8Size :=
      String.length_utf8EncodeChar character
    have hpos : 0 < character.utf8Size := character.utf8Size_pos
    rw [List.flatMap_cons]
    obtain ⟨first, rest, hencoded⟩ : ∃ first rest, String.utf8EncodeChar character = first :: rest :=
      List.exists_cons_of_length_pos (hlength ▸ hpos)
    have hrest : rest.length = character.utf8Size - 1 := by
      rw [hencoded, List.length_cons] at hlength
      omega
    have hleading := leadingChar?_append character (others.flatMap String.utf8EncodeChar)
    rw [hencoded, List.cons_append] at hleading ⊢
    rw [lenientChars, hleading]
    dsimp only
    rw [← hrest, List.drop_left, ih]

theorem lenientText_ofText (text : String) : lenientText (ofText text) = text := by
  rw [lenientText, ofText, lenientChars_flatMap, String.ofList_toList]

theorem zero_not_mem_lenientChars (h : 0 ∉ bytes) : '\x00' ∉ lenientChars bytes := by
  fun_induction lenientChars bytes with
  | case1 => exact List.not_mem_nil
  | case2 first rest character hleading ih =>
    have hdropped : 0 ∉ rest.drop (character.utf8Size - 1) := fun hmem ↦
      h (List.mem_cons_of_mem _ (List.mem_of_mem_drop hmem))
    apply List.not_mem_cons_of_ne_of_not_mem
    · rintro rfl
      exact h (mem_of_leadingChar? hleading 0 (by decide))
    · exact ih hdropped
  | case3 first rest hleading ih =>
    have hdropped : 0 ∉ rest.drop (brokenLength (first :: rest) - 1) := fun hmem ↦
      h (List.mem_cons_of_mem _ (List.mem_of_mem_drop hmem))
    apply List.not_mem_cons_of_ne_of_not_mem
    · decide
    · exact ih hdropped

/-- What is read out of a field fits into a field. -/
theorem zero_not_mem_lenientText (h : 0 ∉ bytes) : '\x00' ∉ (lenientText bytes).toList := by
  rw [lenientText, String.toList_ofList]
  exact zero_not_mem_lenientChars h

end Lockstep.Bytes
