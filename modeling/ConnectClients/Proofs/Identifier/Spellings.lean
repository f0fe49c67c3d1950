import ConnectClients.Proofs.Identifier.Plain
import ConnectClients.Proofs.Identifier.Twice
import ConnectClients.Proofs.Text.Lines

/-!
# Spellings of a token

A token of small letters, digits and underscores may also be written in capitals, or with every word
between its underscores capitalised. The three have one Pascal-case form: each word of it starts
with a capital and goes on with the small letters of the token, whether the word was kept, as it was
capitalised already, or its case was changed.
-/

namespace ConnectClients

/-! ## Cutting what was changed -/

namespace Text

variable {sep : Char}

/-- The upper-case form of a text. -/
def upper (cs : List Char) : List Char := cs.flatMap upperOf

/-- What stands in front of the first cut becomes part of the first piece. -/
theorem splitOn_append_of_not_mem {front : List Char} (h : sep ∉ front) {cs piece : List Char}
    {pieces : List (List Char)} (hcut : splitOn sep cs = piece :: pieces) :
    splitOn sep (front ++ cs) = (front ++ piece) :: pieces := by
  induction front with
  | nil => exact hcut
  | cons c front ih =>
      rw [List.mem_cons, not_or] at h
      rw [List.cons_append, splitOn, if_neg (Ne.symm h.1), ih h.2]
      rfl

/-- The pieces of a text whose characters are replaced, without cutting it anywhere else, are the
pieces of the text with their characters replaced. -/
theorem splitOn_flatMap {f : Char → List Char} (hsep : f sep = [sep])
    (hother : ∀ c, sep ∈ f c → c = sep) (cs : List Char) :
    splitOn sep (cs.flatMap f) = (splitOn sep cs).map (List.flatMap f) := by
  induction cs with
  | nil => rfl
  | cons c rest ih =>
      rw [List.flatMap_cons, splitOn]
      by_cases hc : c = sep
      · rw [hc, hsep, List.singleton_append, splitOn, if_pos rfl, ih, if_pos rfl]
        rfl
      · obtain ⟨piece, pieces, hcut⟩ := List.exists_cons_of_ne_nil (splitOn_ne_nil sep rest)
        rw [hcut, List.map_cons] at ih
        rw [splitOn_append_of_not_mem (fun hmem => hc (hother c hmem)) ih, if_neg hc, hcut]
        rfl

/-- Pieces that are joined are the pieces again, if the character is in none of them. -/
theorem splitOn_joinWith {pieces : List (List Char)} (hne : pieces ≠ [])
    (h : ∀ piece ∈ pieces, sep ∉ piece) : splitOn sep (joinWith [sep] pieces) = pieces := by
  induction pieces with
  | nil => exact absurd rfl hne
  | cons piece rest ih =>
      rw [List.forall_mem_cons] at h
      cases rest with
      | nil => exact Path.splitOn_of_not_mem h.1
      | cons second more =>
          rw [joinWith, List.append_assoc, List.singleton_append, splitOn_append_sep h.1,
            ih (List.cons_ne_nil _ _) h.2]
          exact List.cons_ne_nil _ _

end Text

namespace Identifier

open Text

variable {word rest : List Char} {c : Char}

/-! ## Spellings -/

/-- The word with a capital in front and small letters behind it. -/
def capitalize : List Char → List Char
  | [] => []
  | c :: rest => upperOf c ++ lower rest

/-- The token with each of its words capitalised. -/
def capitalizeWords (token : List Char) : List Char :=
  joinWith ['_'] ((splitOn '_' token).map capitalize)

/-- A small ASCII letter or a digit. -/
def IsSmall (c : Char) : Prop := c.isLower = true ∨ c.isDigit = true

instance : DecidablePred IsSmall := fun c =>
  inferInstanceAs (Decidable (c.isLower = true ∨ c.isDigit = true))

/-- Small letters and digits, with underscores between them or at the ends. -/
def IsSmallToken (token : List Char) : Prop := ∀ c ∈ token, IsSmall c ∨ c = '_'

instance (token : List Char) : Decidable (IsSmallToken token) :=
  List.decidableBAll (fun c => IsSmall c ∨ c = '_') token

/-! ## Characters -/

/-- How a character changes its case that is a small letter or a digit. -/
structure SmallCase (c : Char) : Prop where
  ascii : c.val < 128
  isUpper : isUpper c = false
  upperOf : upperOf c = [c.toUpper]
  upperOf_toUpper : Text.upperOf c.toUpper = [c.toUpper]
  isLower_toUpper : isLower c.toUpper = false
  ascii_toUpper : c.toUpper.val < 128
  toLower : c.toLower = c
  toLower_toUpper : c.toUpper.toLower = c
  ne_mark : c ≠ '_' ∧ c.toUpper ≠ '_'

instance (c : Char) : Decidable (SmallCase c) :=
  decidable_of_iff
    (c.val < 128 ∧ isUpper c = false ∧ upperOf c = [c.toUpper] ∧
      upperOf c.toUpper = [c.toUpper] ∧ isLower c.toUpper = false ∧ c.toUpper.val < 128 ∧
      c.toLower = c ∧ c.toUpper.toLower = c ∧ c ≠ '_' ∧ c.toUpper ≠ '_')
    ⟨fun ⟨h₁, h₂, h₃, h₄, h₅, h₆, h₇, h₈, h₉⟩ => ⟨h₁, h₂, h₃, h₄, h₅, h₆, h₇, h₈, h₉⟩,
      fun h => ⟨h.ascii, h.isUpper, h.upperOf, h.upperOf_toUpper, h.isLower_toUpper,
        h.ascii_toUpper, h.toLower, h.toLower_toUpper, h.ne_mark⟩⟩

theorem smallCase (h : IsSmall c) : SmallCase c := by
  have hword : c.isAlphanum = true := by
    show (c.isUpper || c.isLower || c.isDigit) = true
    rcases h with h | h
    · rw [h, Bool.or_true, Bool.true_or]
    · rw [h, Bool.or_true]
  exact forall_ascii (p := fun c => IsSmall c → SmallCase c) (by decide +kernel)
    (ascii_of_isAlphanum hword) h

theorem lower_of_small (h : ∀ x ∈ word, IsSmall x) : lower word = word := by
  rw [lower, lowerAfter_of_ascii fun x hx => (smallCase (h x hx)).ascii]
  exact (List.map_congr_left fun x hx => (smallCase (h x hx)).toLower).trans (List.map_id word)

theorem upper_of_small (h : ∀ x ∈ word, IsSmall x) : upper word = word.map Char.toUpper := by
  rw [upper, List.map_eq_flatMap]
  exact List.flatMap_congr fun x hx => (smallCase (h x hx)).upperOf

theorem lower_upper_of_small (h : ∀ x ∈ word, IsSmall x) : lower (word.map Char.toUpper) = word := by
  rw [lower, lowerAfter_of_ascii, List.map_map]
  · exact (List.map_congr_left fun x hx => (smallCase (h x hx)).toLower_toUpper).trans
      (List.map_id word)
  · rw [List.forall_mem_map]
    exact fun x hx => (smallCase (h x hx)).ascii_toUpper

/-! ## Words -/

/-- What a word becomes, if it is that already whenever it is kept. -/
theorem canonicalSegment_eq {d capital : Char} {more : List Char} (hd : upperOf d = [capital])
    (hmore : lower more = rest) (hkept : IsPascal (d :: more) → d = capital ∧ more = rest) :
    canonicalSegment (d :: more) = capital :: rest := by
  by_cases hpascal : IsPascal (d :: more)
  · obtain ⟨rfl, rfl⟩ := hkept hpascal
    exact canonicalSegment_of_pascal hpascal
  · rw [canonicalSegment_cons_of_not_pascal hpascal, hd, hmore]
    rfl

theorem capitalize_small (h : ∀ x ∈ c :: rest, IsSmall x) :
    capitalize (c :: rest) = c.toUpper :: rest := by
  rw [List.forall_mem_cons] at h
  rw [capitalize, (smallCase h.1).upperOf, lower_of_small h.2]
  rfl

/-- A word in small letters is not kept, as it has no capital in front. -/
theorem canonicalSegment_small (h : ∀ x ∈ c :: rest, IsSmall x) :
    canonicalSegment (c :: rest) = c.toUpper :: rest := by
  rw [List.forall_mem_cons] at h
  refine canonicalSegment_eq (smallCase h.1).upperOf (lower_of_small h.2) fun hpascal => ?_
  obtain ⟨⟨d, hd, hupper⟩, -⟩ := hpascal
  obtain rfl := Option.some.inj hd
  exact absurd hupper (Bool.not_eq_true _ ▸ (smallCase h.1).isUpper)

/-- A word in capitals is not kept, as it has no small letter. -/
theorem canonicalSegment_upper (h : ∀ x ∈ word, IsSmall x) :
    canonicalSegment (upper word) = canonicalSegment word := by
  rw [upper_of_small h]
  cases word with
  | nil => rfl
  | cons c rest =>
      have hall := h
      rw [List.forall_mem_cons] at h
      rw [canonicalSegment_small hall, List.map_cons]
      refine canonicalSegment_eq (smallCase h.1).upperOf_toUpper (lower_upper_of_small h.2)
        fun hpascal => ?_
      obtain ⟨-, x, hx, hlower⟩ := hpascal
      rw [← List.map_cons] at hx
      obtain ⟨y, hy, rfl⟩ := List.mem_map.mp hx
      exact absurd hlower (Bool.not_eq_true _ ▸ (smallCase (hall y hy)).isLower_toUpper)

/-- A capitalised word is what it becomes, so that it does not matter whether it is kept. -/
theorem canonicalSegment_capitalize (h : ∀ x ∈ word, IsSmall x) :
    canonicalSegment (capitalize word) = canonicalSegment word := by
  cases word with
  | nil => rfl
  | cons c rest =>
      rw [capitalize_small h, canonicalSegment_small h]
      rw [List.forall_mem_cons] at h
      exact canonicalSegment_eq (smallCase h.1).upperOf_toUpper (lower_of_small h.2)
        fun _ => ⟨rfl, rfl⟩

/-! ## Tokens -/

variable {token : List Char}

theorem small_of_mem_splitOn (h : IsSmallToken token) :
    ∀ word ∈ splitOn '_' token, ∀ x ∈ word, IsSmall x := by
  intro word hword x hx
  refine (h x (mem_of_mem_splitOn hword hx)).resolve_right ?_
  rintro rfl
  exact sep_not_mem_of_mem_splitOn hword hx

theorem underscore_not_mem_capitalize (h : ∀ x ∈ word, IsSmall x) : '_' ∉ capitalize word := by
  cases word with
  | nil => exact List.not_mem_nil
  | cons c rest =>
      rw [capitalize_small h, List.mem_cons, not_or]
      rw [List.forall_mem_cons] at h
      exact ⟨(smallCase h.1).ne_mark.2.symm, fun hmem => (smallCase (h.2 _ hmem)).ne_mark.1 rfl⟩

theorem canonicalCaseChars_upper (h : IsSmallToken token) :
    canonicalCaseChars (upper token) = canonicalCaseChars token := by
  have hcut : splitOn '_' (upper token) = (splitOn '_' token).map upper :=
    splitOn_flatMap (by decide) (fun _ => eq_of_mark_mem_upperOf underscore_isMark) token
  rw [canonicalCaseChars, hcut, List.flatMap_map]
  exact List.flatMap_congr fun word hword => canonicalSegment_upper (small_of_mem_splitOn h word hword)

theorem canonicalCaseChars_capitalizeWords (h : IsSmallToken token) :
    canonicalCaseChars (capitalizeWords token) = canonicalCaseChars token := by
  have hwords := small_of_mem_splitOn h
  have hcut : splitOn '_' (capitalizeWords token) = (splitOn '_' token).map capitalize := by
    refine splitOn_joinWith ?_ ?_
    · exact fun hnil => splitOn_ne_nil _ _ (List.map_eq_nil_iff.mp hnil)
    · rw [List.forall_mem_map]
      exact fun word hword => underscore_not_mem_capitalize (hwords word hword)
  rw [canonicalCaseChars, hcut, List.flatMap_map]
  exact List.flatMap_congr fun word hword => canonicalSegment_capitalize (hwords word hword)

/-- **The case that a token is written in does not matter.** A token of small letters, digits and
underscores has the same Pascal-case form in capitals, and with every word capitalised. No
Pascal-case form at all has an underscore. -/
theorem canonicalCase_spellings :
    (∀ token : String, IsSmallToken token.toList →
      canonicalCase (String.ofList (upper token.toList)) = canonicalCase token ∧
        canonicalCase (String.ofList (capitalizeWords token.toList)) = canonicalCase token) ∧
      ∀ text : String, '_' ∉ (canonicalCase text).toList := by
  refine ⟨fun token h => ⟨?_, ?_⟩, underscore_not_mem_canonicalCase⟩
  · rw [canonicalCase, canonicalCase, String.toList_ofList, canonicalCaseChars_upper h]
  · rw [canonicalCase, canonicalCase, String.toList_ofList, canonicalCaseChars_capitalizeWords h]

/-- Words of several letters, of one, of none, and one that begins with a digit. -/
theorem orderReward_spellings : IsSmallToken "order_reward__x_1st_".toList ∧
    canonicalCase "ORDER_REWARD__X_1ST_" = "OrderRewardX1st" ∧
    canonicalCase "Order_Reward__X_1st_" = "OrderRewardX1st" ∧
    '_' ∉ (canonicalCase "order_reward__x_1st_").toList := by
  have hsmall : IsSmallToken "order_reward__x_1st_".toList := by decide
  have hform : canonicalCase "order_reward__x_1st_" = "OrderRewardX1st" := by decide +kernel
  obtain ⟨hupper, hcapital⟩ := canonicalCase_spellings.1 _ hsmall
  have hwritten : String.ofList (upper "order_reward__x_1st_".toList) = "ORDER_REWARD__X_1ST_" ∧
      String.ofList (capitalizeWords "order_reward__x_1st_".toList) = "Order_Reward__X_1st_" := by
    decide +kernel
  rw [hwritten.1, hform] at hupper
  rw [hwritten.2, hform] at hcapital
  exact ⟨hsmall, hupper, hcapital, canonicalCase_spellings.2 _⟩

end Identifier

end ConnectClients
