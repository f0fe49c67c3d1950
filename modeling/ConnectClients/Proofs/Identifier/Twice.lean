import ConnectClients.Proofs.Files.Path
import ConnectClients.Proofs.Identifier.PascalCase
import ConnectClients.Proofs.Text.Raising

/-!
# Pascal case of Pascal case

A word that is capitalised and has a small letter is in Pascal case and stays as it is. The
Pascal-case form of a token is one word, as it has no underscore, but it need not be such a word:
the words of a token may have one letter each, and of them only capitals are left, which taken for
one word become a capital and small letters.
-/

namespace ConnectClients.Identifier

open Text

variable {token word rest tail : List Char} {c d : Char}

/-! ## Words -/

/-- A word is capitalised and has a small letter. -/
def IsPascal (word : List Char) : Prop :=
  (∃ c ∈ word.head?, isUpper c = true) ∧ ∃ c ∈ word, isLower c = true

instance (word : List Char) : Decidable (IsPascal word) :=
  decidable_of_iff (word.head?.any isUpper = true ∧ word.any isLower = true) <| by
    rw [Option.any_eq_true, List.any_eq_true]
    rfl

theorem canonicalSegment_of_pascal (h : IsPascal word) : canonicalSegment word = word := by
  obtain ⟨⟨c, hc, hupper⟩, hlower⟩ := h
  obtain ⟨rest, rfl⟩ := List.head?_eq_some_iff.mp hc
  rw [canonicalSegment, hupper, List.any_eq_true.mpr hlower]
  rfl

theorem canonicalSegment_cons_of_not_pascal (h : ¬ IsPascal (c :: rest)) :
    canonicalSegment (c :: rest) = upperOf c ++ lower rest := by
  rw [canonicalSegment, if_neg]
  rw [Bool.and_eq_true, List.any_eq_true]
  exact fun hboth => h ⟨⟨c, rfl, hboth.1⟩, hboth.2⟩

/-- A word that begins with its own upper case stays as it is exactly if it is in Pascal case, or
has nothing behind its first character that lower case changes. -/
theorem canonicalSegment_eq_self_iff (hd : upperOf d = [d]) :
    canonicalSegment (d :: tail) = d :: tail ↔
      IsPascal (d :: tail) ∨ ∀ c ∈ tail, lowerOf c = [c] := by
  by_cases hpascal : IsPascal (d :: tail)
  · exact iff_of_true (canonicalSegment_of_pascal hpascal) (Or.inl hpascal)
  · rw [canonicalSegment_cons_of_not_pascal hpascal, hd, List.singleton_append, List.cons_inj_right,
      or_iff_right hpascal]
    exact lowerAfter_eq_self_iff

/-! ## Tokens -/

theorem canonicalCaseChars_of_not_mem (h : '_' ∉ token) :
    canonicalCaseChars token = canonicalSegment token := by
  rw [canonicalCaseChars, Path.splitOn_of_not_mem h, List.flatMap_singleton]

/-- What comes of words begins with its own upper case, unless it is in Pascal case. -/
theorem upperOf_head_flatMap {segments : List (List Char)}
    (h : segments.flatMap canonicalSegment = d :: tail) (hpascal : ¬ IsPascal (d :: tail)) :
    upperOf d = [d] := by
  induction segments with
  | nil => exact absurd h (List.cons_ne_nil _ _).symm
  | cons segment segments ih =>
      rw [List.flatMap_cons] at h
      cases segment with
      | nil => exact ih h
      | cons c rest =>
          have hword : ¬ IsPascal (c :: rest) := by
            intro hword
            rw [canonicalSegment_of_pascal hword, List.cons_append] at h
            obtain ⟨rfl, rfl⟩ := List.cons.inj h
            obtain ⟨⟨_, hc, hupper⟩, x, hx, hlower⟩ := hword
            exact hpascal ⟨⟨_, hc, hupper⟩, x, List.mem_append_left _ hx, hlower⟩
          obtain ⟨e, more, hc, he⟩ := exists_upperOf_eq c
          rw [canonicalSegment_cons_of_not_pascal hword, hc] at h
          obtain ⟨rfl, -⟩ := List.cons.inj h
          exact he

theorem canonicalCaseChars_twice_iff (token : List Char) :
    canonicalCaseChars (canonicalCaseChars token) = canonicalCaseChars token ↔
      IsPascal (canonicalCaseChars token) ∨
        ∀ c ∈ (canonicalCaseChars token).tail, lowerOf c = [c] := by
  rw [canonicalCaseChars_of_not_mem (underscore_not_mem_canonicalCaseChars token)]
  cases hform : canonicalCaseChars token with
  | nil => exact iff_of_true rfl (Or.inr (List.forall_mem_nil _))
  | cons d tail =>
      by_cases hpascal : IsPascal (d :: tail)
      · exact iff_of_true (canonicalSegment_of_pascal hpascal) (Or.inl hpascal)
      · exact canonicalSegment_eq_self_iff (upperOf_head_flatMap hform hpascal)

/-! ## Tokens of ASCII words -/

/-- The words of a token, between its underscores. -/
def words (token : List Char) : List (List Char) := (splitOn '_' token).filter (· ≠ [])

theorem flatMap_words (token : List Char) :
    (words token).flatMap canonicalSegment = canonicalCaseChars token := by
  unfold words canonicalCaseChars
  induction splitOn '_' token with
  | nil => rfl
  | cons segment segments ih =>
      cases segment with
      | nil => exact ih
      | cons c rest =>
          rw [List.filter_cons_of_pos (by simp), List.flatMap_cons, List.flatMap_cons, ih]

/-- An ASCII word that starts with a letter. -/
def IsLettered (word : List Char) : Prop :=
  (∀ c ∈ word, c.val < 128) ∧ ∃ c ∈ word.head?, c.isAlpha = true

/-- A word has a letter behind its first character. -/
def HasMoreLetters (word : List Char) : Prop := ∃ c ∈ word.tail, c.isAlpha = true

instance (word : List Char) : Decidable (IsLettered word) :=
  decidable_of_iff (word.all (·.val < 128) = true ∧ word.head?.any Char.isAlpha = true) <| by
    simp only [List.all_eq_true, decide_eq_true_eq, Option.any_eq_true]
    rfl

instance (word : List Char) : Decidable (HasMoreLetters word) :=
  decidable_of_iff (word.tail.any Char.isAlpha = true) List.any_eq_true

/-- What becomes of an ASCII word that starts with a letter: a capital, and behind it small letters
exactly if the word has more letters. -/
theorem canonicalSegment_lettered (h : IsLettered word) : ∃ d tail,
    canonicalSegment word = d :: tail ∧ isUpper d = true ∧ isLower d = false ∧ lowerOf d ≠ [d] ∧
      ((∃ c ∈ tail, isLower c = true) ↔ HasMoreLetters word) ∧
      (¬ HasMoreLetters word → ∀ c ∈ tail, lowerOf c = [c]) := by
  obtain ⟨hascii, c, hc, halpha⟩ := h
  obtain ⟨rest, rfl⟩ := List.head?_eq_some_iff.mp hc
  rw [List.forall_mem_cons] at hascii
  have hcase := asciiCase hascii.1
  have hrest : ∀ x ∈ rest, AsciiCase x := fun x hx => asciiCase (hascii.2 x hx)
  obtain ⟨hupper, hnotLower, hlowerOf⟩ := hcase.capital halpha
  refine ⟨c.toUpper, ?_⟩
  by_cases hpascal : IsPascal (c :: rest)
  · obtain ⟨⟨e, he, heupper⟩, x, hx, hlower⟩ := id hpascal
    obtain rfl := Option.some.inj he
    rw [hcase.upper heupper] at hupper hnotLower hlowerOf ⊢
    have hmem : x ∈ rest := by
      rcases List.mem_cons.mp hx with rfl | hmem
      · exact absurd hlower (Bool.not_eq_true _ ▸ hnotLower)
      · exact hmem
    have hmore : HasMoreLetters (c :: rest) := ⟨x, hmem, (hrest x hmem).letter hlower⟩
    exact ⟨rest, canonicalSegment_of_pascal hpascal, hupper, hnotLower, hlowerOf,
      iff_of_true ⟨x, hmem, hlower⟩ hmore, fun hno => absurd hmore hno⟩
  · refine ⟨rest.map Char.toLower, ?_, hupper, hnotLower, hlowerOf, ?_, ?_⟩
    · rw [canonicalSegment_cons_of_not_pascal hpascal, upperOf, if_pos hascii.1, lower,
        lowerAfter_of_ascii hascii.2]
      rfl
    · simp only [List.mem_map, exists_exists_and_eq_and]
      refine exists_congr fun x => and_congr_right fun hx => ?_
      rw [(hrest x hx).small]
    · intro hno
      rw [List.forall_mem_map]
      intro x hx
      have hother : x.isAlpha = false := by
        by_contra hletter
        exact hno ⟨x, hx, Bool.not_eq_false _ ▸ hletter⟩
      obtain ⟨hsame, hlower⟩ := (hrest x hx).other hother
      rw [hsame, hlower]

theorem exists_isLower_iff {segments : List (List Char)} (h : ∀ word ∈ segments, IsLettered word) :
    (∃ c ∈ segments.flatMap canonicalSegment, isLower c = true) ↔
      ∃ word ∈ segments, HasMoreLetters word := by
  have hword : ∀ word ∈ segments,
      ((∃ c ∈ canonicalSegment word, isLower c = true) ↔ HasMoreLetters word) := by
    intro word hmem
    obtain ⟨d, tail, hform, -, hd, -, hmore, -⟩ := canonicalSegment_lettered (h word hmem)
    rw [hform, List.exists_mem_cons_iff, hd, hmore]
    exact or_iff_right Bool.false_ne_true
  constructor
  · rintro ⟨c, hc, hlower⟩
    obtain ⟨word, hmem, hin⟩ := List.mem_flatMap.mp hc
    exact ⟨word, hmem, (hword word hmem).mp ⟨c, hin, hlower⟩⟩
  · rintro ⟨word, hmem, hmore⟩
    obtain ⟨c, hin, hlower⟩ := (hword word hmem).mpr hmore
    exact ⟨c, List.mem_flatMap.mpr ⟨word, hmem, hin⟩, hlower⟩

/-- What comes of words that each start with a letter stays as it is exactly if there are not
several of them, or one has more letters: all others leave several capitals and no small letter. -/
theorem lettered_twice_iff {segments : List (List Char)} (h : ∀ word ∈ segments, IsLettered word) :
    (IsPascal (segments.flatMap canonicalSegment) ∨
        ∀ c ∈ (segments.flatMap canonicalSegment).tail, lowerOf c = [c]) ↔
      segments.length ≤ 1 ∨ ∃ word ∈ segments, HasMoreLetters word := by
  have hlower := exists_isLower_iff h
  cases segments with
  | nil => exact iff_of_true (Or.inr (List.forall_mem_nil _)) (Or.inl (Nat.zero_le _))
  | cons word others =>
      rw [List.forall_mem_cons] at h
      obtain ⟨d, tail, hform, hd, -, -, -, htail⟩ := canonicalSegment_lettered h.1
      rw [List.flatMap_cons, hform, List.cons_append] at hlower ⊢
      rw [List.tail_cons]
      have hpascal : IsPascal (d :: (tail ++ others.flatMap canonicalSegment)) ↔
          ∃ w ∈ word :: others, HasMoreLetters w := by
        have hhead : ∃ c ∈ (d :: (tail ++ others.flatMap canonicalSegment)).head?,
            isUpper c = true := ⟨d, rfl, hd⟩
        rw [← hlower]
        exact and_iff_right hhead
      by_cases hmore : ∃ w ∈ word :: others, HasMoreLetters w
      · exact iff_of_true (Or.inl (hpascal.mpr hmore)) (Or.inr hmore)
      · rw [or_iff_right (mt hpascal.mp hmore), or_iff_left hmore]
        cases others with
        | nil =>
            have hword := htail fun hword => hmore ⟨word, List.mem_cons_self, hword⟩
            refine iff_of_true ?_ (Nat.le_refl _)
            rwa [List.flatMap_nil, List.append_nil]
        | cons second more =>
            obtain ⟨e, _, hsecond, -, -, he, -⟩ := canonicalSegment_lettered
              (h.2 second List.mem_cons_self)
            refine iff_of_false (fun hall => he (hall e ?_)) (by simp)
            rw [List.flatMap_cons, hsecond]
            exact List.mem_append_right _ List.mem_cons_self

/-! ## The form of a form -/

/-- **When the Pascal-case form of a token is its own.** It is exactly if it is capitalised and has
a small letter, or has nothing behind its first character that lower case changes. For ASCII words
that each start with a letter, this is so exactly if there is at most one word, or some word has a
letter behind its first character. -/
theorem canonicalCase_twice_iff (token : String) :
    (canonicalCase (canonicalCase token) = canonicalCase token ↔
      IsPascal (canonicalCase token).toList ∨
        ∀ c ∈ (canonicalCase token).toList.tail, lowerOf c = [c]) ∧
      ((∀ word ∈ words token.toList, IsLettered word) →
        (canonicalCase (canonicalCase token) = canonicalCase token ↔
          (words token.toList).length ≤ 1 ∨ ∃ word ∈ words token.toList, HasMoreLetters word)) := by
  have htwice : canonicalCase (canonicalCase token) = canonicalCase token ↔
      IsPascal (canonicalCase token).toList ∨
        ∀ c ∈ (canonicalCase token).toList.tail, lowerOf c = [c] := by
    rw [← String.toList_inj]
    simp only [canonicalCase, String.toList_ofList]
    exact canonicalCaseChars_twice_iff token.toList
  refine ⟨htwice, fun h => ?_⟩
  rw [htwice, canonicalCase, String.toList_ofList, ← flatMap_words]
  exact lettered_twice_iff h

/-- Of two words of one letter each only capitals are left, and then only one of these. -/
theorem twoLetters_twice : (∀ word ∈ words "a_b".toList, IsLettered word) ∧
    canonicalCase "a_b" = "AB" ∧ canonicalCase "AB" = "Ab" ∧
    canonicalCase (canonicalCase "a_b") ≠ canonicalCase "a_b" := by
  have hwords : ∀ word ∈ words "a_b".toList, IsLettered word := by decide
  refine ⟨hwords, by decide, by decide, fun htwice => ?_⟩
  exact absurd (((canonicalCase_twice_iff "a_b").2 hwords).mp htwice) (by decide)

-- One character that becomes two capitals is enough.
example : canonicalCase "ß" = "SS" ∧ canonicalCase "SS" = "Ss" := by decide +kernel

end ConnectClients.Identifier
