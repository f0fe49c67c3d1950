import ConnectClients.Proofs.Identifier.Paths
import ConnectClients.Proofs.Text.Raising

/-!
# Identifiers from plain segments

A plain segment starts with an ASCII letter and has ASCII letters, digits and underscores. In
Pascal case it is an identifier: the underscores are gone, the first of the words between them is
not empty, and no change of case makes anything but a letter of a letter.
-/

namespace ConnectClients.Identifier

open Text

variable {segment stem : List Char} {path : String}

/-- An ASCII letter, and behind it ASCII letters and digits. -/
def IsIdentifier (name : List Char) : Prop :=
  (∃ c ∈ name.head?, c.isAlpha = true) ∧ ∀ c ∈ name, c.isAlphanum = true

/-- An ASCII letter, and behind it ASCII letters, digits and underscores. -/
def IsPlain (segment : List Char) : Prop :=
  (∃ c ∈ segment.head?, c.isAlpha = true) ∧ ∀ c ∈ segment, isAsciiWord c = true

instance (segment : List Char) : Decidable (IsPlain segment) :=
  decidable_of_iff (segment.head?.any Char.isAlpha = true ∧ segment.all isAsciiWord = true) <| by
    rw [Option.any_eq_true, List.all_eq_true]
    rfl

theorem IsIdentifier.append {name more : List Char} (h : IsIdentifier name)
    (hmore : ∀ c ∈ more, c.isAlphanum = true) : IsIdentifier (name ++ more) := by
  obtain ⟨⟨c, hc, halpha⟩, hall⟩ := h
  refine ⟨⟨c, ?_, halpha⟩, List.forall_mem_append.mpr ⟨hall, hmore⟩⟩
  rw [List.head?_append, Option.mem_def.mp hc]
  rfl

/-! ## Letters and digits -/

theorem ascii_of_isAlphanum {c : Char} (h : c.isAlphanum = true) : c.val < 128 := by
  change (decide (c.val ≥ 'A'.val ∧ c.val ≤ 'Z'.val) ||
    (decide (c.val ≥ 'a'.val) && decide (c.val ≤ 'z'.val)) ||
      (decide (c.val ≥ '0'.val) && decide (c.val ≤ '9'.val))) = true at h
  simp only [Bool.or_eq_true, Bool.and_eq_true, decide_eq_true_eq, ge_iff_le,
    UInt32.le_iff_toNat_le] at h
  have hlast : 'Z'.val.toNat = 90 ∧ 'z'.val.toNat = 122 ∧ '9'.val.toNat = 57 := ⟨rfl, rfl, rfl⟩
  rw [UInt32.lt_iff_toNat_lt]
  change _ < 128
  omega

/-- Neither case makes anything but letters and digits of these, and a letter has a letter for its
capital. -/
theorem case_of_isAlphanum {c : Char} (h : c.isAlphanum = true) :
    c.toUpper.isAlphanum = true ∧ c.toLower.isAlphanum = true ∧
      (c.isAlpha = true → c.toUpper.isAlpha = true) := by
  have hall : ∀ n < 128, (Char.ofNat n).isAlphanum = true →
      (Char.ofNat n).toUpper.isAlphanum = true ∧ (Char.ofNat n).toLower.isAlphanum = true ∧
        ((Char.ofNat n).isAlpha = true → (Char.ofNat n).toUpper.isAlpha = true) := by
    decide +kernel
  have hc := hall c.toNat (UInt32.lt_iff_toNat_lt.mp (ascii_of_isAlphanum h))
  rw [Char.ofNat_toNat] at hc
  exact hc h

/-! ## Pascal case -/

/-- A segment stays as it is, or it gets a capital and small letters. -/
theorem canonicalSegment_of_isAlphanum {c : Char} {rest : List Char}
    (h : ∀ d ∈ c :: rest, d.isAlphanum = true) : canonicalSegment (c :: rest) = c :: rest ∨
      canonicalSegment (c :: rest) = c.toUpper :: rest.map Char.toLower := by
  rw [List.forall_mem_cons] at h
  rw [canonicalSegment]
  split
  · exact Or.inl rfl
  · right
    rw [upperOf, if_pos (ascii_of_isAlphanum h.1), lower,
      lowerAfter_of_ascii fun d hd => ascii_of_isAlphanum (h.2 d hd)]
    rfl

theorem isAlphanum_of_mem_canonicalSegment (h : ∀ c ∈ segment, c.isAlphanum = true) :
    ∀ c ∈ canonicalSegment segment, c.isAlphanum = true := by
  cases segment with
  | nil => exact List.forall_mem_nil _
  | cons c rest =>
      rcases canonicalSegment_of_isAlphanum h with heq | heq
      · rwa [heq]
      · rw [List.forall_mem_cons] at h
        rw [heq, List.forall_mem_cons, List.forall_mem_map]
        exact ⟨(case_of_isAlphanum h.1).1, fun d hd => (case_of_isAlphanum (h.2 d hd)).2.1⟩

theorem head?_canonicalSegment {c : Char} {rest : List Char}
    (h : ∀ d ∈ c :: rest, d.isAlphanum = true) (hc : c.isAlpha = true) :
    ∃ d ∈ (canonicalSegment (c :: rest)).head?, d.isAlpha = true := by
  rcases canonicalSegment_of_isAlphanum h with heq | heq
  · exact ⟨c, by rw [heq]; rfl, hc⟩
  · exact ⟨c.toUpper, by rw [heq]; rfl, (case_of_isAlphanum (h c List.mem_cons_self)).2.2 hc⟩

/-- The words between the underscores have letters and digits only. -/
theorem isAlphanum_of_mem_splitOn (h : ∀ c ∈ segment, isAsciiWord c = true) {word : List Char}
    (hword : word ∈ splitOn '_' segment) : ∀ c ∈ word, c.isAlphanum = true := by
  intro c hc
  have hplain := h c (mem_of_mem_splitOn hword hc)
  have hmark : c ≠ '_' := by
    rintro rfl
    exact sep_not_mem_of_mem_splitOn hword hc
  simpa [isAsciiWord, hmark] using hplain

/-- **A plain segment in Pascal case is an identifier.** -/
theorem isIdentifier_canonicalCaseChars (h : IsPlain segment) :
    IsIdentifier (canonicalCaseChars segment) := by
  obtain ⟨⟨c, hc, halpha⟩, hall⟩ := h
  obtain ⟨rest, rfl⟩ := List.head?_eq_some_iff.mp hc
  have hwords : ∀ word ∈ splitOn '_' (c :: rest), ∀ d ∈ word, d.isAlphanum = true :=
    fun word hword => isAlphanum_of_mem_splitOn hall hword
  constructor
  · -- the first word is not empty, as the segment does not start with an underscore
    have hmark : c ≠ '_' := by
      rintro rfl
      exact absurd halpha (by decide)
    have hfirst : ∃ word pieces, splitOn '_' (c :: rest) = (c :: word) :: pieces := by
      rw [splitOn, if_neg hmark]
      split
      · exact ⟨[], [], rfl⟩
      · exact ⟨_, _, rfl⟩
    obtain ⟨word, pieces, hsplit⟩ := hfirst
    obtain ⟨d, hd, hletter⟩ := head?_canonicalSegment
      (hwords (c :: word) (by rw [hsplit]; exact List.mem_cons_self)) halpha
    refine ⟨d, ?_, hletter⟩
    rw [canonicalCaseChars, hsplit, List.flatMap_cons, List.head?_append, Option.mem_def.mp hd]
    rfl
  · intro d hd
    obtain ⟨word, hword, hmem⟩ := List.mem_flatMap.mp hd
    exact isAlphanum_of_mem_canonicalSegment (hwords word hword) d hmem

/-! ## Names of paths -/

/-- A plain stem without the mark of generated files is plain: the mark cannot be all of it. -/
theorem IsPlain.dropGeneratedMark (h : IsPlain stem) : IsPlain (dropGeneratedMark stem) := by
  obtain ⟨⟨c, hc, halpha⟩, hall⟩ := h
  rw [Identifier.dropGeneratedMark]
  split
  · rename_i rest hrest
    have hstem := dropSuffix?_eq_some_iff.mp hrest
    subst hstem
    cases rest with
    | nil =>
        cases hc
        exact absurd halpha (by decide)
    | cons d rest => exact ⟨⟨c, hc, halpha⟩, fun e he => hall e (List.mem_append_left _ he)⟩
  · split
    · rename_i rest hrest
      rw [dropSuffix?_eq_some_iff.mp hrest] at hall
      exact absurd (hall '\n' (by simp)) (by decide)
    · exact ⟨⟨c, hc, halpha⟩, hall⟩

theorem isIdentifier_typeName (h : ∀ segment ∈ segments path, IsPlain segment) :
    IsIdentifier (typeName path).toList := by
  have hlast : (segments path).getLastD [] ∈ segments path := by
    have hne : segments path ≠ [] := splitOn_ne_nil _ _
    rw [List.getLastD_eq_getLast?, List.getLast?_eq_some_getLast hne]
    exact List.getLast_mem hne
  rw [typeName, String.toList_ofList]
  exact isIdentifier_canonicalCaseChars (h _ hlast).dropGeneratedMark

/-- The key of a module is a segment of its path, if there is one. -/
theorem moduleKey_mem (path : String) :
    moduleKey path = "" ∨ (moduleKey path).toList ∈ segments path := by
  rw [moduleKey]
  split
  · rename_i dir hdir
    rw [String.toList_ofList]
    exact Or.inr (List.dropLast_subset _ (beforeVersion?_mem hdir))
  · split
    · rw [String.toList_ofList]
      have hne : segments path ≠ [] := splitOn_ne_nil _ _
      obtain ⟨first, rest, hpath⟩ := List.exists_cons_of_ne_nil hne
      rw [hpath]
      exact Or.inr List.mem_cons_self
    · exact Or.inl rfl

/-- The Pascal-case form of a path's key is empty or an identifier. -/
theorem canonicalCase_moduleKey (h : ∀ segment ∈ segments path, IsPlain segment) :
    moduleKey path = "" ∨ IsIdentifier (canonicalCase (moduleKey path)).toList := by
  refine (moduleKey_mem path).imp_right fun hmem => ?_
  rw [canonicalCase, String.toList_ofList]
  exact isIdentifier_canonicalCaseChars (h _ hmem)

/-- An alias is an identifier with an underscore in front. -/
theorem importAlias_eq (h : ∀ segment ∈ segments path, IsPlain segment) :
    ∃ name : String, importAlias path = "_" ++ name ∧ IsIdentifier name.toList := by
  have htype := isIdentifier_typeName h
  rcases canonicalCase_moduleKey h with hnone | hkey
  · refine ⟨typeName path, ?_, htype⟩
    rw [importAlias, hnone]
    rfl
  · refine ⟨canonicalCase (moduleKey path) ++ typeName path, ?_, ?_⟩
    · rw [importAlias, String.append_assoc]
    · rw [String.toList_append]
      exact hkey.append htype.2

end ConnectClients.Identifier
