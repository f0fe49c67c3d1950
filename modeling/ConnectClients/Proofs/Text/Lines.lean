import ConnectClients.Text.Split

/-!
# Lines put together

A text that ends every line with a newline holds each of its lines as it stands, and
is nothing but its lines, each closed by a newline. A suffix is taken away if the text
ends in it.
-/

namespace ConnectClients.Text

/-! ## Suffixes -/

theorem dropSuffix?_eq_some_iff {suffix cs rest : List Char} :
    dropSuffix? suffix cs = some rest ↔ cs = rest ++ suffix := by
  rw [dropSuffix?, Option.ite_none_right_eq_some, List.isSuffixOf_iff_suffix]
  constructor
  · rintro ⟨⟨front, rfl⟩, htake⟩
    rw [List.length_append, Nat.add_sub_cancel, List.take_left, Option.some_inj] at htake
    rw [htake]
  · rintro rfl
    refine ⟨List.suffix_append _ _, ?_⟩
    rw [List.length_append, Nat.add_sub_cancel, List.take_left]

theorem dropSuffix?_append (cs suffix : List Char) :
    dropSuffix? suffix (cs ++ suffix) = some cs :=
  dropSuffix?_eq_some_iff.mpr rfl

theorem dropSuffix?_subset {suffix cs rest : List Char} (h : dropSuffix? suffix cs = some rest) :
    rest ⊆ cs := by
  rw [dropSuffix?_eq_some_iff.mp h]
  exact List.subset_append_left _ _

/-! ## Lines -/

theorem unlines_cons_of_ne_nil (line : String) {lines : List String} (h : lines ≠ []) :
    unlines (line :: lines) = line ++ "\n" ++ unlines lines := by
  rw [unlines, String.intercalate_cons_of_ne_nil h, unlines, String.append_assoc]

theorem exists_unlines_of_mem {line : String} : ∀ {lines : List String}, line ∈ lines →
    ∃ before after, unlines lines = before ++ line ++ "\n" ++ after := by
  intro lines
  induction lines with
  | nil => simp
  | cons l rest ih =>
      intro h
      by_cases hrest : rest = []
      · subst hrest
        rw [List.mem_singleton] at h
        subst h
        exact ⟨"", "", by simp [unlines]⟩
      · rw [unlines_cons_of_ne_nil l hrest]
        rcases List.mem_cons.mp h with rfl | h
        · exact ⟨"", unlines rest, by simp⟩
        · obtain ⟨before, after, heq⟩ := ih h
          refine ⟨l ++ "\n" ++ before, after, ?_⟩
          rw [heq]
          simp only [String.append_assoc]

/-- A line with the newline that ends it. -/
def closed (line : String) : List Char := line.toList ++ ['\n']

theorem closed_append (a b : String) : closed (a ++ b) = a.toList ++ closed b := by
  simp [closed]

theorem toList_unlines : ∀ {lines : List String}, lines ≠ [] →
    (unlines lines).toList = lines.flatMap closed := by
  intro lines
  induction lines with
  | nil => exact fun h => absurd rfl h
  | cons line rest ih =>
      intro _
      by_cases hrest : rest = []
      · subst hrest
        simp [unlines, closed]
      · rw [unlines_cons_of_ne_nil line hrest, List.flatMap_cons, ← ih hrest]
        simp [closed]

/-- Cutting gives the first piece back if the character is not in it. -/
theorem splitOn_append_sep {sep : Char} {piece : List Char} (h : sep ∉ piece) (rest : List Char) :
    splitOn sep (piece ++ sep :: rest) = piece :: splitOn sep rest := by
  induction piece with
  | nil => simp [splitOn]
  | cons c piece ih =>
      rw [List.mem_cons, not_or] at h
      rw [List.cons_append, splitOn, if_neg (Ne.symm h.1), ih h.2]

theorem splitOn_unlines {lines : List String} (hne : lines ≠ [])
    (h : ∀ line ∈ lines, '\n' ∉ line.toList) :
    splitOn '\n' (unlines lines).toList = lines.map String.toList ++ [[]] := by
  rw [toList_unlines hne]
  clear hne
  induction lines with
  | nil => rfl
  | cons line rest ih =>
      have hrest := ih fun l hl => h l (List.mem_cons_of_mem _ hl)
      rw [List.flatMap_cons, closed, List.append_assoc, List.singleton_append,
        splitOn_append_sep (h line List.mem_cons_self), hrest, List.map_cons, List.cons_append]

theorem splitOn_ne_nil (sep : Char) (cs : List Char) : splitOn sep cs ≠ [] := by
  cases cs with
  | nil => exact List.cons_ne_nil _ _
  | cons c rest =>
      rw [splitOn]
      split
      · exact List.cons_ne_nil _ _
      · split <;> exact List.cons_ne_nil _ _

theorem splitOn_append (sep : Char) (first rest : List Char) :
    splitOn sep (first ++ sep :: rest) = splitOn sep first ++ splitOn sep rest := by
  induction first with
  | nil => simp [splitOn]
  | cons c first ih =>
      rw [List.cons_append, splitOn, splitOn, ih]
      by_cases hc : c = sep
      · rw [if_pos hc, if_pos hc, List.cons_append]
      · rw [if_neg hc, if_neg hc]
        obtain ⟨piece, pieces, hpieces⟩ := List.exists_cons_of_ne_nil (splitOn_ne_nil sep first)
        rw [hpieces]
        rfl

/-- The lines of a text. -/
def textLines (text : String) : List String := (splitOn '\n' text.toList).map String.ofList

theorem textLines_unlines {lines : List String} (hne : lines ≠ [])
    (h : ∀ line ∈ lines, '\n' ∉ line.toList) : textLines (unlines lines) = lines ++ [""] := by
  rw [textLines, splitOn_unlines hne h, List.map_append, List.map_map]
  have hsame : lines.map (String.ofList ∘ String.toList) = lines :=
    (List.map_congr_left fun line _ => String.ofList_toList).trans (List.map_id lines)
  rw [hsame]
  rfl

/-- A line without a newline is a line of the text, whatever the other ones are. -/
theorem mem_textLines_unlines {line : String} {lines : List String} (h : line ∈ lines)
    (hline : '\n' ∉ line.toList) : line ∈ textLines (unlines lines) := by
  obtain ⟨before, after, rfl⟩ := List.append_of_mem h
  have hpiece : line.toList ∈ splitOn '\n' ((before ++ line :: after).flatMap closed) := by
    rw [List.flatMap_append, List.flatMap_cons, closed, List.append_assoc, List.singleton_append]
    induction before with
    | nil =>
        rw [List.flatMap_nil, List.nil_append, splitOn_append_sep hline]
        exact List.mem_cons_self
    | cons other before ih =>
        rw [List.flatMap_cons, closed, List.append_assoc, List.append_assoc, List.singleton_append,
          splitOn_append]
        exact List.mem_append_right _ (ih (by simp))
  rw [textLines, toList_unlines (by simp)]
  exact List.mem_map.mpr ⟨line.toList, hpiece, String.ofList_toList⟩

/-- Whether a line starts with a lead. -/
def isLed (lead line : String) : Bool := lead.toList.isPrefixOf line.toList

theorem isLed_append (lead rest : String) : isLed lead (lead ++ rest) = true := by
  rw [isLed, String.toList_append, List.isPrefixOf_iff_prefix]
  exact List.prefix_append _ _

/-- A line that starts otherwise is not led, however it goes on. -/
theorem isLed_eq_false {lead first : String} (hlead : ¬ lead.toList <+: first.toList)
    (hfirst : ¬ first.toList <+: lead.toList) (rest : String) : isLed lead (first ++ rest) = false := by
  rw [isLed, ← Bool.not_eq_true, String.toList_append, List.isPrefixOf_iff_prefix]
  intro h
  rcases List.prefix_or_prefix_of_prefix h (List.prefix_append _ _) with hp | hp
  · exact hlead hp
  · exact hfirst hp

end ConnectClients.Text
