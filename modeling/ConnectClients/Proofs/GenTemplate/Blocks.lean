import ConnectClients.GenTemplate.Printer
import ConnectClients.GenTemplate.Reader
import ConnectClients.Proofs.Text.Lines
import ConnectClients.Proofs.Text.Scan

/-!
# Sections and their blocks

What is written is a row of sections, an empty line before each but the first. The
reader cuts the text back into these lines and finds the block of a section by its
key: the lines of the sections before it do not start with the key, and the block ends
at the first line of the section behind it, apart from the empty line in between.
-/

namespace ConnectClients.GenTemplate

open Text

/-! ## Lines read back -/

theorem linesOf_append {line : List Char} (rest : List Char) (h : '\n' ∉ line) :
    linesOf (line ++ '\n' :: rest) = (line ++ ['\n']) :: linesOf rest := by
  induction line with
  | nil => rfl
  | cons c cs ih =>
      rw [List.mem_cons, not_or] at h
      rw [List.cons_append, linesOf, if_neg (Ne.symm h.1), ih h.2]
      rfl

theorem linesOf_flatMap_closed {lines : List String} (h : ∀ line ∈ lines, '\n' ∉ line.toList) :
    linesOf (lines.flatMap closed) = lines.map closed := by
  induction lines with
  | nil => rfl
  | cons line rest ih =>
      have hline : '\n' ∉ line.toList := h line List.mem_cons_self
      have hrest := ih fun l hl => h l (List.mem_cons_of_mem _ hl)
      rw [List.flatMap_cons, closed, List.append_assoc, List.singleton_append,
        linesOf_append _ hline, hrest]
      rfl

/-- The lines of sections with empty lines before each of them. -/
def spaced (gap : Nat) (rows : List (List String)) : List String :=
  rows.flatMap fun lines => List.replicate gap "" ++ lines

/-- The text of sections with empty lines between them. -/
def sectionsText (gap : Nat) (rows : List (List String)) : String :=
  (String.ofList (List.replicate (gap + 1) '\n')).intercalate
    (rows.map fun lines => "\n".intercalate lines) ++ "\n"

theorem flatMap_closed_empty (gap : Nat) :
    (List.replicate gap "").flatMap closed = List.replicate gap '\n' := by
  induction gap with
  | zero => rfl
  | succ gap ih =>
      rw [List.replicate_succ, List.flatMap_cons, ih, List.replicate_succ]
      rfl

theorem gap_sectionsText (gap : Nat) : ∀ {rows : List (List String)}, rows ≠ [] →
    (∀ lines ∈ rows, lines ≠ []) →
    List.replicate gap '\n' ++ (sectionsText gap rows).toList =
      (spaced gap rows).flatMap closed := by
  intro rows
  induction rows with
  | nil => exact fun h => absurd rfl h
  | cons lines rest ih =>
      intro _ hne
      have hlines : (unlines lines).toList = lines.flatMap closed :=
        toList_unlines (hne lines List.mem_cons_self)
      have hfirst : spaced gap (lines :: rest) =
          List.replicate gap "" ++ lines ++ spaced gap rest := rfl
      rw [hfirst, List.flatMap_append, List.flatMap_append, flatMap_closed_empty, ← hlines]
      by_cases hrest : rest = []
      · subst hrest
        simp [sectionsText, spaced, unlines]
      · have hmap : rest.map (fun lines => "\n".intercalate lines) ≠ [] := by
          simpa using hrest
        have htail := ih hrest fun l hl => hne l (List.mem_cons_of_mem _ hl)
        rw [← htail, sectionsText, List.map_cons, String.intercalate_cons_of_ne_nil hmap]
        simp [sectionsText, unlines, List.replicate_succ]

theorem newline_render_sections {rows : List (List String)} (hrows : rows ≠ [])
    (hne : ∀ lines ∈ rows, lines ≠ []) :
    '\n' :: ("\n\n".intercalate (rows.map fun lines => "\n".intercalate lines) ++ "\n").toList =
      (spaced 1 rows).flatMap closed :=
  gap_sectionsText 1 hrows hne

theorem readLines_gap (gap : Nat) (lines : List (List Char)) :
    readLines (List.replicate gap ['\n'] ++ lines) = readLines lines := by
  induction gap with
  | zero => rfl
  | succ gap ih =>
      have hversion : valueAtStart? "version:" ['\n'] = none := by decide
      rw [← ih, List.replicate_succ, List.cons_append]
      simp only [readLines, List.findSome?_cons, hversion, section?, findBlock]
      rfl

theorem linesOf_gap (gap : Nat) (cs : List Char) :
    linesOf (List.replicate gap '\n' ++ cs) = List.replicate gap ['\n'] ++ linesOf cs := by
  induction gap with
  | zero => rfl
  | succ gap ih =>
      rw [List.replicate_succ, List.cons_append, linesOf, if_pos rfl, ih, List.replicate_succ,
        List.cons_append]

/-- What is written is read section by section. -/
theorem read_sectionsText {gap : Nat} {rows : List (List String)} (hne : ∀ lines ∈ rows, lines ≠ [])
    (hlines : ∀ lines ∈ rows, ∀ line ∈ lines, '\n' ∉ line.toList) :
    read (sectionsText gap rows) = readLines ((spaced gap rows).map closed) := by
  by_cases hempty : rows = []
  · subst hempty
    rw [read, sectionsText, List.map_nil, String.intercalate_nil]
    exact readLines_gap 1 []
  · have hclosed : ∀ line ∈ spaced gap rows, '\n' ∉ line.toList := by
      intro line hline
      obtain ⟨lines, hmem, hin⟩ := List.mem_flatMap.mp hline
      rcases List.mem_append.mp hin with hin | hin
      · rw [List.eq_of_mem_replicate hin]
        simp
      · exact hlines lines hmem line hin
    have htext := gap_sectionsText gap hempty hne
    rw [← linesOf_flatMap_closed hclosed, ← htext, linesOf_gap, readLines_gap, read]

/-! ## Blocks found by their key -/

/-- Whether a line opens the block of a key. -/
def opens (indented : Bool) (key : String) (line : List Char) : Bool :=
  let indent := if indented then line.takeWhile isIndent else []
  (literal? (key ++ ":") (line.drop indent.length)).isSome

theorem findBlock_append {indented : Bool} {key : String} {before : List (List Char)}
    (h : ∀ line ∈ before, opens indented key line = false) (rest : List (List Char)) :
    findBlock indented key (before ++ rest) = findBlock indented key rest := by
  induction before with
  | nil => rfl
  | cons line lines ih =>
      have hline := h line List.mem_cons_self
      rw [opens] at hline
      rw [List.cons_append, findBlock]
      simp only [hline, Bool.false_eq_true, if_false]
      exact ih fun l hl => h l (List.mem_cons_of_mem _ hl)

theorem findBlock_eq_none {indented : Bool} {key : String} {lines : List (List Char)}
    (h : ∀ line ∈ lines, opens indented key line = false) :
    findBlock indented key lines = none := by
  have happ := findBlock_append h []
  rw [List.append_nil] at happ
  exact happ

theorem findBlock_cons {indented : Bool} {key : String} {line : List Char}
    (h : opens indented key line = true) (lines : List (List Char)) :
    findBlock indented key (line :: lines) =
      some (lines.takeWhile (inBlock (if indented then line.takeWhile isIndent else []))) := by
  rw [opens] at h
  rw [findBlock]
  simp only [h, if_true]

theorem nested?_eq_none {key : String} {lines : List (List Char)}
    (h : ∀ line ∈ lines, opens true key line = false) : nested? key lines = none :=
  findBlock_eq_none h

/-- The block of a key inside a section has the lines that were written for it, and those
behind them that are deeper than the key. -/
theorem nested?_append {key : String} {before own : List (List Char)}
    {line indent : List Char} (hbefore : ∀ l ∈ before, opens true key l = false)
    (hline : opens true key line = true) (hindent : line.takeWhile isIndent = indent)
    (hown : ∀ l ∈ own, inBlock indent l = true) (behind : List (List Char)) :
    nested? key (before ++ line :: (own ++ behind)) =
      some (own ++ behind.takeWhile (inBlock indent)) := by
  rw [nested?, findBlock_append hbefore, findBlock_cons hline, if_pos rfl, hindent,
    List.takeWhile_append_of_pos hown]

/-! ## Indented lines -/

/-- Blanks that count as indentation. -/
def IsIndent (blanks : List Char) : Prop := ∀ c ∈ blanks, isIndent c = true

section indented

variable {base blanks rest : List Char} {c : Char}

theorem IsIndent.append (h : IsIndent base) (h' : IsIndent blanks) : IsIndent (base ++ blanks) :=
  List.forall_mem_append.mpr ⟨h, h'⟩

theorem IsIndent.takeWhile (h : IsIndent blanks) (hc : isIndent c = false) :
    (blanks ++ c :: rest).takeWhile isIndent = blanks := by
  rw [List.takeWhile_append_of_pos h, List.takeWhile_cons_of_neg (by simp [hc]), List.append_nil]

theorem IsIndent.dropWhile (h : IsIndent blanks) (hc : isIndent c = false) :
    (blanks ++ c :: rest).dropWhile isIndent = c :: rest := by
  rw [List.dropWhile_append_of_pos h, List.dropWhile_cons_of_neg (by simp [hc])]

theorem IsIndent.opens (h : IsIndent blanks) (hc : isIndent c = false) (key : String) :
    opens true key (blanks ++ c :: rest) = (literal? (key ++ ":") (c :: rest)).isSome := by
  rw [GenTemplate.opens, if_pos rfl, h.takeWhile hc, List.drop_left]

theorem inBlock_append (hc : (isIndent c || c == '-') = true) :
    inBlock base (base ++ c :: rest) = true := by
  rw [inBlock, isPrefixOf?_eq_some_iff.mpr rfl, Bool.or_eq_true]
  exact Or.inl hc

/-- A line with further indentation is in the block of a key, and so is one with a dash, also if
the dash is flush with the key. -/
theorem IsIndent.inBlock (h : IsIndent blanks) (hc : (isIndent c || c == '-') = true) :
    inBlock base (base ++ (blanks ++ c :: rest)) = true := by
  cases blanks with
  | nil => exact inBlock_append hc
  | cons b bs =>
      rw [List.cons_append]
      exact inBlock_append (by rw [h b List.mem_cons_self]; rfl)

theorem IsIndent.newline_not_mem (h : IsIndent blanks) : '\n' ∉ blanks :=
  fun hmem => absurd (h '\n' hmem) (by decide)

/-- Indentation shows no key. -/
theorem IsIndent.clear {k : Char} {key : List Char} (hk : isIndent k = false) (h : IsIndent blanks) :
    Clear (k :: key) blanks := by
  apply clear_of_not_mem
  intro hmem
  rw [h k hmem] at hk
  exact Bool.noConfusion hk

end indented

/-! ## Gaps -/

/-- Lines of a gap between two sections. -/
def IsGap (gap : List (List Char)) : Prop := ∀ line ∈ gap, line = ['\n']

theorem IsGap.clear {gap : List (List Char)} (h : IsGap gap) {key : List Char}
    (hkey : Clear key ['\n']) : Clear key gap.flatten := by
  induction gap with
  | nil => trivial
  | cons line rest ih =>
      rw [List.flatten_cons, h line List.mem_cons_self]
      exact hkey.append (ih fun l hl => h l (List.mem_cons_of_mem _ hl))

theorem IsGap.opens {gap : List (List Char)} (h : IsGap gap) {indented : Bool} {key : String}
    (hkey : opens indented key ['\n'] = false) : ∀ line ∈ gap, opens indented key line = false := by
  intro line hline
  rw [h line hline]
  exact hkey

/-! ## Sections found by their key -/

/-- The keys of the sections. -/
def keys : List String := ["version", "managed", "inputs", "plugins"]

/-- A section starts with its key, and its other lines belong to its block. -/
structure IsSection (key : String) (lines : List String) : Prop where
  key_mem : key ∈ keys
  shape : ∃ tail body, lines = (key ++ ":" ++ tail) :: body ∧
    ∀ line ∈ body, inBlock [] (closed line) = true

theorem keys_apart : ∀ key ∈ keys, ∀ other ∈ keys, key ≠ other →
    ¬ (key ++ ":").toList <+: (other ++ ":").toList := by
  decide +kernel

theorem keys_start : ∀ key ∈ keys, (key ++ ":").toList.head?.all (fun c =>
    !isIndent c && c != '-' && c != '\n') = true := by
  decide +kernel

theorem opens_false_iff {key : String} {line : List Char} :
    opens false key line = false ↔ ¬ (key ++ ":").toList <+: line := by
  rw [← literal?_eq_none_iff]
  simp [opens]

/-- The key of a section does not start a line of a block. -/
theorem opens_of_inBlock {key : String} (hkey : key ∈ keys) {line : List Char}
    (h : inBlock [] line = true) : opens false key line = false := by
  rw [opens_false_iff]
  rintro ⟨rest, rfl⟩
  have hstart := keys_start key hkey
  cases hcs : (key ++ ":").toList with
  | nil => simp at hcs
  | cons c cs =>
      rw [hcs, List.head?_cons, Option.all_some] at hstart
      simp only [Bool.and_eq_true, Bool.not_eq_true', bne_iff_ne] at hstart
      obtain ⟨⟨hindent, hdash⟩, hnewline⟩ := hstart
      have hopen : [].isPrefixOf? (c :: (cs ++ rest)) = some (c :: (cs ++ rest)) :=
        isPrefixOf?_eq_some_iff.mpr rfl
      rw [hcs, List.cons_append, inBlock, isEmptyLine, List.dropWhile_cons_of_neg (by simp [hindent]),
        hopen] at h
      simp [hindent, hdash, hnewline] at h

theorem IsSection.opens_ne {key other : String} {lines : List String} (h : IsSection other lines)
    (hkey : key ∈ keys) (hne : key ≠ other) :
    ∀ line ∈ lines, opens false key (closed line) = false := by
  obtain ⟨hother, tail, body, rfl, hbody⟩ := h
  intro line hline
  rcases List.mem_cons.mp hline with rfl | hline
  · rw [opens_false_iff, closed_append]
    intro hp
    rcases List.prefix_or_prefix_of_prefix hp (List.prefix_append _ _) with hk | hk
    · exact keys_apart key hkey other hother hne hk
    · exact keys_apart other hother key hkey hne.symm hk
  · exact opens_of_inBlock hkey (hbody line hline)

/-- Sections of other keys. -/
def Others (key : String) (rows : List (List String)) : Prop :=
  ∀ lines ∈ rows, ∃ other, key ≠ other ∧ IsSection other lines

theorem Others.append {key : String} {first second : List (List String)} (h : Others key first)
    (h' : Others key second) : Others key (first ++ second) :=
  List.forall_mem_append.mpr ⟨h, h'⟩

theorem mem_spaced {gap : Nat} {rows : List (List String)} {line : String}
    (h : line ∈ spaced gap rows) : line = "" ∨ ∃ lines ∈ rows, line ∈ lines := by
  obtain ⟨lines, hmem, hin⟩ := List.mem_flatMap.mp h
  rcases List.mem_append.mp hin with hin | hin
  · exact Or.inl (List.eq_of_mem_replicate hin)
  · exact Or.inr ⟨lines, hmem, hin⟩

theorem spaced_opens {gap : Nat} {key : String} (hkey : key ∈ keys) {rows : List (List String)}
    (h : Others key rows) :
    ∀ line ∈ (spaced gap rows).map closed, opens false key line = false := by
  intro line hline
  obtain ⟨l, hl, rfl⟩ := List.mem_map.mp hline
  rcases mem_spaced hl with rfl | ⟨lines, hmem, hin⟩
  · exact opens_of_inBlock hkey rfl
  · obtain ⟨other, hne, hsection⟩ := h lines hmem
    exact hsection.opens_ne hkey hne l hin

theorem section?_eq_none {gap : Nat} {key : String} (hkey : key ∈ keys) {rows : List (List String)}
    (h : Others key rows) :
    (section? key ((spaced gap rows).map closed)) = none :=
  findBlock_eq_none (spaced_opens hkey h)

theorem isGap_replicate (gap : Nat) : IsGap (List.replicate gap ['\n']) :=
  fun _ hline => List.eq_of_mem_replicate hline

theorem IsGap.inBlock {gap : List (List Char)} (h : IsGap gap) (indent : List Char) :
    ∀ line ∈ gap, inBlock indent line = true := by
  intro line hline
  rw [h line hline, GenTemplate.inBlock, Bool.or_eq_true]
  exact Or.inr rfl

theorem takeWhile_inBlock_spaced {gap : Nat} {key : String} {rows : List (List String)}
    (h : Others key rows) :
    IsGap (((spaced gap rows).map closed).takeWhile (inBlock [])) := by
  cases rows with
  | nil => exact fun _ h => absurd h List.not_mem_nil
  | cons lines rest =>
      obtain ⟨other, -, hother, tail, body, rfl, -⟩ := h lines List.mem_cons_self
      have hhead : ¬ inBlock [] (closed (other ++ ":" ++ tail)) = true := by
        intro hin
        have hopens := opens_of_inBlock hother hin
        rw [opens_false_iff, closed_append] at hopens
        exact hopens (List.prefix_append _ _)
      have hspaced : (spaced gap (((other ++ ":" ++ tail) :: body) :: rest)).map closed =
          List.replicate gap ['\n'] ++
            closed (other ++ ":" ++ tail) :: (body ++ spaced gap rest).map closed := by
        simp [spaced, closed]
      rw [hspaced, List.takeWhile_append_of_pos ((isGap_replicate gap).inBlock []),
        List.takeWhile_cons_of_neg hhead, List.append_nil]
      exact isGap_replicate gap

/-- The block of a section is found among the others, with a gap at its end. -/
theorem section?_eq_some {gap : Nat} {key head : String} {body : List String}
    {before behind : List (List String)} (hkey : key ∈ keys)
    (hbefore : Others key before) (hbehind : Others key behind)
    (hhead : opens false key (closed head) = true)
    (hbody : ∀ line ∈ body, inBlock [] (closed line) = true) :
    ∃ rest, IsGap rest ∧
      (section? key ((spaced gap (before ++ (head :: body) :: behind)).map closed)) =
        some (body.map closed ++ rest) := by
  refine ⟨_, @takeWhile_inBlock_spaced gap key behind hbehind, ?_⟩
  have hspaced : (spaced gap (before ++ (head :: body) :: behind)).map closed =
      (spaced gap before).map closed ++ List.replicate gap ['\n'] ++
        closed head :: (body.map closed ++ (spaced gap behind).map closed) := by
    simp [spaced, closed]
  have hpass : ∀ line ∈ (spaced gap before).map closed ++ List.replicate gap ['\n'],
      opens false key line = false := by
    intro line hline
    rcases List.mem_append.mp hline with hline | hline
    · exact spaced_opens hkey hbefore line hline
    · exact opens_of_inBlock hkey ((isGap_replicate gap).inBlock [] line hline)
  have hall : ∀ line ∈ body.map closed, inBlock [] line = true := by
    intro line hline
    obtain ⟨l, hl, rfl⟩ := List.mem_map.mp hline
    exact hbody l hl
  rw [hspaced, section?, findBlock_append hpass, findBlock_cons hhead, if_neg Bool.false_ne_true,
    List.takeWhile_append_of_pos hall]

end ConnectClients.GenTemplate
