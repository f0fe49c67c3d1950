import Mathlib.Data.List.Basic
import ConnectClients.Proofs.GenTemplate.Values

/-!
# Plugins read back

A block is cut at every dash, also at those of the options, and a cut that is indented
deeper than the first is put back to the item before it. So an item is a plugin with
everything up to the next one: its own lines, and the comment that was written for the
next plugin, in which no reader finds anything.
-/

namespace ConnectClients

open Text GenTemplate

/-! ## Items -/

namespace GenTemplate

/-- Lines that no dash starts. -/
def isPlain (line : List Char) : Bool := (dropBullet? line).isNone

theorem cutAtBullets_dropWhile (lines : List (List Char)) :
    cutAtBullets (lines.dropWhile isPlain) = cutAtBullets lines := by
  cases lines with
  | nil => rfl
  | cons line rest =>
      by_cases h : isPlain line = true
      · have hsome : (dropBullet? line).isSome = false := by
          rw [← Option.not_isNone]
          exact congrArg not h
        rw [List.dropWhile_cons_of_pos h]
        conv_rhs => rw [cutAtBullets]
        simp only [hsome, Bool.false_eq_true, if_false]
        rfl
      · rw [List.dropWhile_cons_of_neg h]

theorem cutAtBullets_plain {line : List Char} (h : isPlain line = true)
    (lines : List (List Char)) : cutAtBullets (line :: lines) = cutAtBullets lines := by
  rw [← cutAtBullets_dropWhile, List.dropWhile_cons_of_pos h, cutAtBullets_dropWhile]

theorem cutAtBullets_bullet {line : List Char} (h : isPlain line = false)
    (lines : List (List Char)) :
    cutAtBullets (line :: lines) = (line :: lines.takeWhile isPlain) :: cutAtBullets lines := by
  have hsome : (dropBullet? line).isSome = true := by
    rw [← Option.not_isNone]
    exact congrArg not h
  rw [cutAtBullets, if_pos hsome, ← cutAtBullets_dropWhile lines]
  rfl

/-- Lines that start with an item of some width, or no lines at all. -/
def StartsItem (width : Nat) (lines : List (List Char)) : Prop :=
  ∀ line ∈ lines.head?, isPlain line = false ∧ indentWidth line = width

theorem takeWhile_isPlain_append {width : Nat} {own rest : List (List Char)}
    (hrest : StartsItem width rest) :
    (own ++ rest).takeWhile isPlain = own.takeWhile isPlain := by
  induction own with
  | nil =>
      cases rest with
      | nil => rfl
      | cons line lines =>
          have hline := (hrest line rfl).1
          rw [List.nil_append, List.takeWhile_cons_of_neg (by simp [hline]), List.takeWhile_nil]
  | cons line lines ih =>
      rw [List.cons_append, List.takeWhile_cons, List.takeWhile_cons, ih]

theorem cutAtBullets_append {width : Nat} {own rest : List (List Char)}
    (hrest : StartsItem width rest) :
    cutAtBullets (own ++ rest) = cutAtBullets own ++ cutAtBullets rest := by
  induction own with
  | nil => simp [cutAtBullets]
  | cons line lines ih =>
      cases h : isPlain line with
      | true => rw [List.cons_append, cutAtBullets_plain h, cutAtBullets_plain h, ih]
      | false =>
          rw [List.cons_append, cutAtBullets_bullet h, cutAtBullets_bullet h, ih,
            takeWhile_isPlain_append hrest, List.cons_append]

theorem flatten_cutAtBullets (lines : List (List Char)) :
    (cutAtBullets lines).flatten = lines.dropWhile isPlain := by
  induction lines with
  | nil => simp [cutAtBullets]
  | cons line lines ih =>
      cases h : isPlain line with
      | true => rw [cutAtBullets_plain h, List.dropWhile_cons_of_pos h, ih]
      | false =>
          rw [cutAtBullets_bullet h, List.dropWhile_cons_of_neg (by simp [h]), List.flatten_cons,
            ih, List.cons_append, List.takeWhile_append_dropWhile]

/-- A cut starts with a line that a dash starts. -/
theorem headD_of_mem_cutAtBullets {lines : List (List Char)} {cut : List (List Char)}
    (h : cut ∈ cutAtBullets lines) : cut.headD [] ∈ lines ∧ isPlain (cut.headD []) = false := by
  induction lines with
  | nil => simp [cutAtBullets] at h
  | cons line lines ih =>
      cases hline : isPlain line with
      | true =>
          rw [cutAtBullets_plain hline] at h
          obtain ⟨hmem, hplain⟩ := ih h
          exact ⟨List.mem_cons_of_mem _ hmem, hplain⟩
      | false =>
          rw [cutAtBullets_bullet hline] at h
          rcases List.mem_cons.mp h with rfl | h
          · exact ⟨List.mem_cons_self, hline⟩
          · obtain ⟨hmem, hplain⟩ := ih h
            exact ⟨List.mem_cons_of_mem _ hmem, hplain⟩

/-- An item takes all lines up to the next item. -/
theorem joinItems_cutAtBullets {width : Nat} {first dropped : List Char}
    {own rest : List (List Char)} (hfirst : dropBullet? first = some dropped)
    (hown : ∀ line ∈ own, isPlain line = false → indentWidth line ≠ width)
    (hrest : StartsItem width rest) :
    joinItems width (cutAtBullets (first :: (own ++ rest))) =
      (dropped :: own) :: joinItems width (cutAtBullets rest) := by
  have hplain : isPlain first = false := by
    rw [isPlain, hfirst]
    rfl
  have hdeeper : ∀ cut ∈ cutAtBullets own,
      (fun c : List (List Char) => indentWidth (c.headD []) != width) cut = true := by
    intro cut hcut
    obtain ⟨hmem, hbullet⟩ := headD_of_mem_cutAtBullets hcut
    exact bne_iff_ne.mpr (hown _ hmem hbullet)
  have hnext : (cutAtBullets rest).takeWhile
        (fun c : List (List Char) => indentWidth (c.headD []) != width) = [] ∧
      (cutAtBullets rest).dropWhile
        (fun c : List (List Char) => indentWidth (c.headD []) != width) = cutAtBullets rest := by
    cases rest with
    | nil => simp [cutAtBullets]
    | cons line lines =>
        obtain ⟨hbullet, hwidth⟩ := hrest line rfl
        rw [cutAtBullets_bullet hbullet]
        have hneg : ¬ (indentWidth ((line :: lines.takeWhile isPlain).headD []) != width) = true := by
          simp [hwidth]
        exact ⟨List.takeWhile_cons_of_neg hneg, List.dropWhile_cons_of_neg hneg⟩
  rw [cutAtBullets_bullet hplain, takeWhile_isPlain_append hrest, cutAtBullets_append hrest,
    joinItems, List.takeWhile_append_of_pos hdeeper, List.dropWhile_append_of_pos hdeeper,
    hnext.1, hnext.2, List.append_nil, flatten_cutAtBullets]
  simp [hfirst]

end GenTemplate

/-! ## The lines of a plugin -/

/-- A plugin is either local or remote, and all texts are tokens. -/
structure Plugin.IsTidy (plugin : Plugin) : Prop where
  source : (∃ name, IsToken name ∧ plugin.localName = some name ∧ plugin.remoteName = none) ∨
    ∃ name, IsToken name ∧ plugin.localName = none ∧ plugin.remoteName = some name
  out : IsToken plugin.out
  opt : ∀ options ∈ plugin.opt, options ≠ [] ∧ ∀ option ∈ options, IsToken option

/-- The comment before the plugin that generates the modules. -/
def Plugin.note : String :=
  "  # Generate types and Connect-RPC service definitions using protoc-gen-es v2"

def Plugin.noteLines (notes : Bool) (plugin : Plugin) : List String :=
  if notes ∧ plugin.localName = some esPlugin then [Plugin.note] else []

/-- The source of a plugin, behind its dash. -/
def Plugin.source (plugin : Plugin) : String :=
  match plugin.remoteName with
  | some name => "remote:" ++ " " ++ name
  | none => "local:" ++ " " ++ plugin.localName.getD Plugin.unnamed

/-! The dash of a plugin is indented by `indent`, and the dashes of its options are indented by
`indent` from their key. -/

def Plugin.optLines (indent : String) (plugin : Plugin) : List String :=
  match plugin.opt with
  | none | some [] => []
  | some options =>
    (indent ++ "  opt:") :: options.map fun option => indent ++ "  " ++ indent ++ "- " ++ option

def Plugin.ownLines (indent : String) (plugin : Plugin) : List String :=
  (indent ++ "  out: " ++ plugin.out) :: plugin.optLines indent

/-- The lines of a plugin, with the comment where it has one. -/
def Plugin.linesIn (indent : String) (notes : Bool) (plugin : Plugin) : List String :=
  plugin.noteLines notes ++ (indent ++ "- " ++ plugin.source) :: plugin.ownLines indent

theorem Plugin.lines_eq (plugin : Plugin) : plugin.lines = plugin.linesIn "  " true := by
  have hremote : "  - remote: " = "  " ++ "- " ++ ("remote:" ++ " ") := by decide
  have hlocal : "  - local: " = "  " ++ "- " ++ ("local:" ++ " ") := by decide
  have hout : "  " ++ "  out: " = "    out: " := by decide
  have hopt : "  " ++ "  opt:" = "    opt:" := by decide
  have hoption : "  " ++ "  " ++ "  " ++ "- " = "      - " := by decide
  rw [Plugin.lines, Plugin.linesIn, Plugin.ownLines, Plugin.optLines, Plugin.source, hout, hopt,
    hoption]
  cases plugin.remoteName with
  | none =>
      simp only [hlocal, String.append_assoc, List.append_assoc, List.singleton_append,
        Plugin.noteLines, true_and]
      rfl
  | some name =>
      simp only [hremote, String.append_assoc, List.append_assoc, List.singleton_append,
        Plugin.noteLines, true_and]
      rfl

section

variable {indent : String} {notes : Bool} {plugin : Plugin} {line : String}

theorem Plugin.mem_optLines (h : line ∈ plugin.optLines indent) :
    line = indent ++ "  opt:" ∨ ∃ options ∈ plugin.opt, ∃ option ∈ options,
      line = indent ++ "  " ++ indent ++ "- " ++ option := by
  rw [Plugin.optLines] at h
  split at h
  · exact absurd h List.not_mem_nil
  · exact absurd h List.not_mem_nil
  · rename_i options _ hopt
    rcases List.mem_cons.mp h with rfl | h
    · exact Or.inl rfl
    · obtain ⟨option, hoption, rfl⟩ := List.mem_map.mp h
      exact Or.inr ⟨options, hopt, option, hoption, rfl⟩

theorem Plugin.mem_linesIn (h : line ∈ plugin.linesIn indent notes) :
    line = Plugin.note ∨ line = indent ++ "- " ++ plugin.source ∨
      line = indent ++ "  out: " ++ plugin.out ∨ line ∈ plugin.optLines indent := by
  rcases List.mem_append.mp h with h | h
  · rw [Plugin.noteLines] at h
    split at h
    · exact Or.inl (List.mem_singleton.mp h)
    · exact absurd h List.not_mem_nil
  · rcases List.mem_cons.mp h with rfl | h
    · exact Or.inr (Or.inl rfl)
    · exact Or.inr (Or.inr (List.mem_cons.mp h))

theorem Plugin.inBlock_of_mem_linesIn (hindent : IsIndent indent.toList)
    (h : line ∈ plugin.linesIn indent notes) : inBlock [] (closed line) = true := by
  rcases Plugin.mem_linesIn h with rfl | rfl | rfl | h
  · decide
  · simp only [closed_append, String.toList_append, List.append_assoc]
    exact hindent.inBlock rfl
  · simp only [closed_append, String.toList_append, List.append_assoc]
    exact hindent.inBlock rfl
  · rcases Plugin.mem_optLines h with rfl | ⟨options, -, option, -, rfl⟩
    · rw [closed_append]
      exact hindent.inBlock rfl
    · simp only [closed_append, String.toList_append, List.append_assoc]
      exact hindent.inBlock rfl

theorem Plugin.IsTidy.newline_not_mem_source (h : plugin.IsTidy) :
    '\n' ∉ plugin.source.toList := by
  rw [Plugin.source]
  rcases h.source with ⟨name, htoken, hlocal, hremote⟩ | ⟨name, htoken, hlocal, hremote⟩
  · rw [hremote, hlocal]
    simp [htoken.newline_not_mem]
  · rw [hremote]
    simp [htoken.newline_not_mem]

theorem Plugin.IsTidy.newline_not_mem (h : plugin.IsTidy) (hindent : IsIndent indent.toList) :
    ∀ line ∈ plugin.linesIn indent notes, '\n' ∉ line.toList := by
  have hblank := hindent.newline_not_mem
  intro line hline
  rcases Plugin.mem_linesIn hline with rfl | rfl | rfl | hline
  · decide
  · simp [hblank, h.newline_not_mem_source]
  · simp [hblank, h.out.newline_not_mem]
  · rcases Plugin.mem_optLines hline with rfl | ⟨options, hopt, option, hoption, rfl⟩
    · simp [hblank]
    · simp [hblank, ((h.opt options hopt).2 option hoption).newline_not_mem]

end

namespace GenTemplate

/-- Lines that belong to no plugin: a comment or the gap behind the section. -/
def IsIdle (line : List Char) : Prop := line = closed Plugin.note ∨ line = ['\n']

theorem isPlain_of_isIdle {line : List Char} (h : IsIdle line) : isPlain line = true := by
  rcases h with rfl | rfl <;> decide

theorem isIdle_of_mem_noteLines {notes : Bool} {plugin : Plugin} :
    ∀ line ∈ (plugin.noteLines notes).map closed, IsIdle line := by
  intro line hline
  obtain ⟨l, hl, rfl⟩ := List.mem_map.mp hline
  rw [Plugin.noteLines] at hl
  split at hl
  · rw [List.mem_singleton.mp hl]
    exact Or.inl rfl
  · exact absurd hl List.not_mem_nil

/-- The source of a plugin starts with the key of one of the two sources. -/
theorem exists_closed_source (plugin : Plugin) : ∃ rest,
    closed plugin.source = 'l' :: 'o' :: rest ∨ closed plugin.source = 'r' :: 'e' :: rest := by
  rw [Plugin.source]
  split
  · rw [String.append_assoc, closed_append]
    exact ⟨_, Or.inr rfl⟩
  · rw [String.append_assoc, closed_append]
    exact ⟨_, Or.inl rfl⟩

section indent

variable {indent : String} {notes : Bool}

theorem isIndent_twoBlanks_append (hindent : IsIndent indent.toList) :
    IsIndent (indent.toList ++ "  ".toList) :=
  hindent.append (List.all_eq_true.mp (by decide))

theorem dropBullet?_source (hindent : IsIndent indent.toList) (plugin : Plugin) :
    dropBullet? (closed (indent ++ "- " ++ plugin.source)) = some (closed plugin.source) := by
  have hdash : closed (indent ++ "- " ++ plugin.source) =
      indent.toList ++ '-' :: ' ' :: closed plugin.source := by
    simp only [closed_append, String.toList_append, List.append_assoc]
    rfl
  have hsource : (closed plugin.source).dropWhile isIndent = closed plugin.source := by
    rcases exists_closed_source plugin with ⟨rest, hrest | hrest⟩
    · rw [hrest]
      rfl
    · rw [hrest]
      rfl
  rw [hdash, dropBullet?, hindent.dropWhile rfl]
  show some ((closed plugin.source).dropWhile isIndent) = _
  rw [hsource]

theorem indentWidth_source (hindent : IsIndent indent.toList) (plugin : Plugin) :
    indentWidth (closed (indent ++ "- " ++ plugin.source)) = indent.toList.length := by
  simp only [closed_append, String.toList_append, List.append_assoc]
  exact congrArg List.length (hindent.takeWhile rfl)

theorem indentWidth_of_mem_own (hindent : IsIndent indent.toList) {plugin : Plugin} :
    ∀ line ∈ (plugin.ownLines indent).map closed,
      isPlain line = false → indentWidth line ≠ indent.toList.length := by
  have hblanks := isIndent_twoBlanks_append hindent
  -- all of them are indented further by two blanks
  have hdeeper : ∀ text : String, indentWidth (closed (indent ++ "  " ++ text)) ≠
      indent.toList.length := by
    intro text
    rw [closed_append, String.toList_append, indentWidth, List.takeWhile_append_of_pos hblanks]
    simp only [List.length_append]
    show _ + 2 + _ ≠ _
    omega
  have hout : indent ++ "  out: " = indent ++ "  " ++ "out: " := by rw [String.append_assoc]; rfl
  have hopt : indent ++ "  opt:" = indent ++ "  " ++ "opt:" := by rw [String.append_assoc]; rfl
  intro line hline _
  obtain ⟨l, hl, rfl⟩ := List.mem_map.mp hline
  rcases List.mem_cons.mp hl with rfl | hl
  · rw [hout, String.append_assoc]
    exact hdeeper _
  · rcases Plugin.mem_optLines hl with rfl | ⟨options, -, option, -, rfl⟩
    · rw [hopt]
      exact hdeeper _
    · rw [String.append_assoc, String.append_assoc]
      exact hdeeper _

/-! ## One plugin -/

theorem readSource?_source {plugin : Plugin} (h : plugin.IsTidy) :
    readSource? (closed plugin.source) =
      some (plugin.localName.isSome, (plugin.localName.or plugin.remoteName).getD "") := by
  rcases h.source with ⟨name, htoken, hlocal, hremote⟩ | ⟨name, htoken, hlocal, hremote⟩
  · rw [Plugin.source, hremote, hlocal]
    show readSource? (closed ("local:" ++ " " ++ name)) = some (true, name)
    rw [readSource?, valueAtStart?_eq "local:" htoken]
  · have hother : valueAtStart? "local:" (closed ("remote:" ++ " " ++ name)) = none := by
      rw [String.append_assoc, closed_append]
      rfl
    rw [Plugin.source, hremote, hlocal]
    show readSource? (closed ("remote:" ++ " " ++ name)) = some (false, name)
    rw [readSource?, hother, valueAtStart?_eq "remote:" htoken]
    rfl

theorem readOut_source (plugin : Plugin) :
    valueAtStart? "out:" ((closed plugin.source).dropWhile isIndent) = none := by
  rcases exists_closed_source plugin with ⟨rest, hrest | hrest⟩
  · rw [hrest]
    rfl
  · rw [hrest]
    rfl

theorem closed_outLine (indent : String) (plugin : Plugin) :
    closed (indent ++ "  out: " ++ plugin.out) =
      indent.toList ++ "  ".toList ++ 'o' :: ("ut: ".toList ++ closed plugin.out) := by
  simp only [closed_append, String.toList_append, List.append_assoc]
  rfl

theorem readOut_out (hindent : IsIndent indent.toList) {plugin : Plugin} (h : plugin.IsTidy) :
    valueAtStart? "out:" ((closed (indent ++ "  out: " ++ plugin.out)).dropWhile isIndent) =
      some plugin.out := by
  have hvalue : closed ("out:" ++ " " ++ plugin.out) =
      'o' :: ("ut: ".toList ++ closed plugin.out) := by
    simp only [closed_append, String.toList_append, List.append_assoc]
    rfl
  rw [closed_outLine, (isIndent_twoBlanks_append hindent).dropWhile rfl, ← hvalue,
    valueAtStart?_eq "out:" h.out]

theorem opens_opt_source (plugin : Plugin) :
    opens true "opt" (closed plugin.source) = false := by
  rcases exists_closed_source plugin with ⟨rest, hrest | hrest⟩
  · rw [hrest]
    rfl
  · rw [hrest]
    rfl

theorem opens_opt_out (hindent : IsIndent indent.toList) (plugin : Plugin) :
    opens true "opt" (closed (indent ++ "  out: " ++ plugin.out)) = false := by
  rw [closed_outLine, (isIndent_twoBlanks_append hindent).opens rfl]
  rfl

theorem opens_opt_of_isIdle {line : List Char} (h : IsIdle line) : opens true "opt" line = false := by
  rcases h with rfl | rfl <;> decide

theorem readOption?_option (hindent : IsIndent indent.toList) {option : String}
    (h : IsToken option) :
    readOption? (closed (indent ++ "  " ++ indent ++ "- " ++ option)) = some option := by
  have hline : closed (indent ++ "  " ++ indent ++ "- " ++ option) =
      indent.toList ++ "  ".toList ++ indent.toList ++ '-' :: ' ' :: (option.toList ++ ['\n']) := by
    simp only [closed_append, String.toList_append, List.append_assoc]
    rfl
  have hblank : (' ' :: (option.toList ++ ['\n'])).dropWhile isIndent = option.toList ++ ['\n'] := by
    rw [List.dropWhile_cons_of_pos rfl, h.dropWhile_isIndent]
  rw [hline, readOption?, ((isIndent_twoBlanks_append hindent).append hindent).dropWhile rfl]
  show (Text.run? _ ((' ' :: (option.toList ++ ['\n'])).dropWhile isIndent)).map _ = _
  rw [hblank, h.run? []]
  simp

theorem readOption?_of_isIdle {line : List Char} (h : IsIdle line) : readOption? line = none := by
  rcases h with rfl | rfl <;> decide

/-- The options are read from their lines, whatever idle lines stand behind them. -/
theorem filterMap_readOption?_eq (hindent : IsIndent indent.toList) {options : List String}
    (h : ∀ o ∈ options, IsToken o) {idle : List (List Char)} (hidle : ∀ line ∈ idle, IsIdle line) :
    ((options.map fun o => indent ++ "  " ++ indent ++ "- " ++ o).map closed ++ idle).filterMap
      readOption? = options := by
  have hsome : ∀ o ∈ options,
      (readOption? ∘ (closed ∘ fun o => indent ++ "  " ++ indent ++ "- " ++ o)) o = some o :=
    fun o ho => readOption?_option hindent (h o ho)
  have hnothing : idle.filterMap readOption? = [] := by
    apply List.filterMap_eq_nil_iff.mpr
    intro line hline
    exact readOption?_of_isIdle (hidle line hline)
  rw [List.filterMap_append, hnothing, List.append_nil, List.map_map, List.filterMap_map,
    List.filterMap_congr hsome, List.filterMap_some]

theorem inBlock_of_mem_options (hindent : IsIndent indent.toList) (options : List String) :
    ∀ line ∈ (options.map fun o => indent ++ "  " ++ indent ++ "- " ++ o).map closed,
      inBlock (indent.toList ++ "  ".toList) line = true := by
  intro line hline
  obtain ⟨l, hl, rfl⟩ := List.mem_map.mp hline
  obtain ⟨o, -, rfl⟩ := List.mem_map.mp hl
  have hsplit : closed (indent ++ "  " ++ indent ++ "- " ++ o) =
      indent.toList ++ "  ".toList ++ (indent.toList ++ ("- ".toList ++ closed o)) := by
    simp only [closed_append, String.toList_append, List.append_assoc]
  rw [hsplit]
  exact hindent.inBlock rfl

/-- Behind lines that do not open them, the options of a plugin are read back. -/
theorem readOptions_eq (hindent : IsIndent indent.toList) {plugin : Plugin} (h : plugin.IsTidy)
    {before idle : List (List Char)} (hbefore : ∀ line ∈ before, opens true "opt" line = false)
    (hidle : ∀ line ∈ idle, IsIdle line) :
    (nested? "opt" (before ++ ((plugin.optLines indent).map closed ++ idle))).map (fun lines =>
      lines.filterMap readOption?) = plugin.opt := by
  unfold Plugin.optLines
  cases hopt : plugin.opt with
  | none =>
      have hnone : ∀ line ∈ before ++ idle, opens true "opt" line = false := by
        intro line hline
        rcases List.mem_append.mp hline with hline | hline
        · exact hbefore line hline
        · exact opens_opt_of_isIdle (hidle line hline)
      show (nested? "opt" (before ++ idle)).map _ = none
      rw [nested?_eq_none hnone]
      rfl
  | some options =>
      obtain ⟨hne, htokens⟩ := h.opt options hopt
      cases options with
      | nil => exact absurd rfl hne
      | cons option rest =>
          have hblanks := isIndent_twoBlanks_append hindent
          have hline : closed (indent ++ "  opt:") =
              indent.toList ++ "  ".toList ++ 'o' :: "pt:\n".toList := by
            rw [closed_append, List.append_assoc]
            rfl
          have hopens : opens true "opt" (closed (indent ++ "  opt:")) = true := by
            rw [hline, hblanks.opens rfl]
            decide
          have hkey : (closed (indent ++ "  opt:")).takeWhile isIndent =
              indent.toList ++ "  ".toList := by
            rw [hline, hblanks.takeWhile rfl]
          have hblock := nested?_append hbefore hopens hkey
            (inBlock_of_mem_options hindent (option :: rest)) idle
          have hdeeper : ∀ line ∈ idle.takeWhile (inBlock (indent.toList ++ "  ".toList)),
              IsIdle line :=
            fun line hline => hidle line ((List.takeWhile_prefix _).subset hline)
          show (nested? "opt" (before ++ closed (indent ++ "  opt:") ::
            (((option :: rest).map fun o => indent ++ "  " ++ indent ++ "- " ++ o).map closed ++
              idle))).map _ = some (option :: rest)
          rw [hblock, Option.map_some, filterMap_readOption?_eq hindent htokens hdeeper]

/-- An item is read back as the plugin it was written for. -/
theorem readPlugin?_eq (hindent : IsIndent indent.toList) {plugin : Plugin} (h : plugin.IsTidy)
    {idle : List (List Char)} (hidle : ∀ line ∈ idle, IsIdle line) :
    readPlugin? (closed plugin.source :: ((plugin.ownLines indent).map closed ++ idle)) =
      some plugin := by
  have hpass : ∀ line ∈ [closed plugin.source, closed (indent ++ "  out: " ++ plugin.out)],
      opens true "opt" line = false := by
    intro line hline
    rcases List.mem_pair.mp hline with rfl | rfl
    · exact opens_opt_source plugin
    · exact opens_opt_out hindent plugin
  have hopt : (nested? "opt" (closed plugin.source ::
        ((plugin.ownLines indent).map closed ++ idle))).map
          (fun lines => lines.filterMap readOption?) = plugin.opt :=
    readOptions_eq hindent h hpass hidle
  have hout : (closed plugin.source :: ((plugin.ownLines indent).map closed ++ idle)).findSome?
      (fun line => valueAtStart? "out:" (line.dropWhile isIndent)) = some plugin.out := by
    rw [List.findSome?_cons, readOut_source, Plugin.ownLines, List.map_cons, List.cons_append,
      List.findSome?_cons, readOut_out hindent h]
  rw [readPlugin?, List.findSome?_cons, readSource?_source h, hopt, hout]
  obtain ⟨localName, remoteName, out, opt⟩ := plugin
  rcases h.source with ⟨name, -, hlocal, hremote⟩ | ⟨name, -, hlocal, hremote⟩
  · simp only at hlocal hremote
    subst hlocal hremote
    rfl
  · simp only at hlocal hremote
    subst hlocal hremote
    rfl

/-! ## All plugins -/

theorem indentWidth_of_mem_item (hindent : IsIndent indent.toList) (plugin : Plugin)
    {idle : List (List Char)} (hidle : ∀ line ∈ idle, IsIdle line) :
    ∀ line ∈ (plugin.ownLines indent).map closed ++ idle,
      isPlain line = false → indentWidth line ≠ indent.toList.length := by
  intro line hline hplain
  rcases List.mem_append.mp hline with hline | hline
  · exact indentWidth_of_mem_own hindent line hline hplain
  · rw [isPlain_of_isIdle (hidle line hline)] at hplain
    exact Bool.noConfusion hplain

/-- Behind the dash of a plugin, the plugin and those after it are read back. -/
theorem readItems_eq (hindent : IsIndent indent.toList) {plugin : Plugin} (h : plugin.IsTidy)
    {rest : List Plugin} (hrest : ∀ other ∈ rest, other.IsTidy) {gap : List (List Char)}
    (hgap : IsGap gap) :
    (joinItems indent.toList.length (cutAtBullets (closed (indent ++ "- " ++ plugin.source) ::
      ((plugin.ownLines indent).map closed ++
        ((rest.flatMap (Plugin.linesIn indent notes)).map closed ++ gap))))).filterMap readPlugin? =
      plugin :: rest := by
  induction rest generalizing plugin with
  | nil =>
      have hidle : ∀ line ∈ gap, IsIdle line := fun line hline => Or.inr (hgap line hline)
      have hstarts : StartsItem indent.toList.length [] := by simp [StartsItem]
      have hitem := joinItems_cutAtBullets (dropBullet?_source hindent plugin)
        (indentWidth_of_mem_item hindent plugin hidle) hstarts
      rw [List.append_nil] at hitem
      rw [List.flatMap_nil, List.map_nil, List.nil_append, hitem,
        List.filterMap_cons_some (readPlugin?_eq hindent h hidle)]
      simp [cutAtBullets, joinItems]
  | cons next rest ih =>
      -- the notes above the next dash are cut off with this item, and are idle there
      have hnext := hrest next List.mem_cons_self
      have htail := ih hnext fun other ho => hrest other (List.mem_cons_of_mem _ ho)
      have hlines : (plugin.ownLines indent).map closed ++
            (((next :: rest).flatMap (Plugin.linesIn indent notes)).map closed ++ gap) =
          ((plugin.ownLines indent).map closed ++ (next.noteLines notes).map closed) ++
            (closed (indent ++ "- " ++ next.source) :: ((next.ownLines indent).map closed ++
              ((rest.flatMap (Plugin.linesIn indent notes)).map closed ++ gap))) := by
        rw [List.flatMap_cons, Plugin.linesIn]
        simp only [List.map_append, List.map_cons, List.append_assoc, List.cons_append]
      have hstarts : StartsItem indent.toList.length (closed (indent ++ "- " ++ next.source) ::
          ((next.ownLines indent).map closed ++
            ((rest.flatMap (Plugin.linesIn indent notes)).map closed ++ gap))) := by
        intro line hline
        obtain rfl := Option.some.inj hline
        refine ⟨?_, indentWidth_source hindent next⟩
        rw [isPlain, dropBullet?_source hindent]
        rfl
      rw [hlines, joinItems_cutAtBullets (dropBullet?_source hindent plugin)
          (indentWidth_of_mem_item hindent plugin isIdle_of_mem_noteLines) hstarts,
        List.filterMap_cons_some (readPlugin?_eq hindent h isIdle_of_mem_noteLines), htail]

theorem cutAtBullets_idle {idle : List (List Char)} (h : ∀ line ∈ idle, IsIdle line)
    (lines : List (List Char)) : cutAtBullets (idle ++ lines) = cutAtBullets lines := by
  induction idle with
  | nil => rfl
  | cons line rest ih =>
      have hline := isPlain_of_isIdle (h line List.mem_cons_self)
      rw [List.cons_append, cutAtBullets_plain hline,
        ih fun l hl => h l (List.mem_cons_of_mem _ hl)]

/-- The block of the plugins is read back. -/
theorem readPlugins_eq (hindent : IsIndent indent.toList) {plugins : List Plugin}
    (hne : plugins ≠ []) (h : ∀ plugin ∈ plugins, plugin.IsTidy) {gap : List (List Char)}
    (hgap : IsGap gap) :
    readPlugins ((plugins.flatMap (Plugin.linesIn indent notes)).map closed ++ gap) = plugins := by
  cases plugins with
  | nil => exact absurd rfl hne
  | cons plugin rest =>
      have hlines : ((plugin :: rest).flatMap (Plugin.linesIn indent notes)).map closed ++ gap =
          (plugin.noteLines notes).map closed ++ (closed (indent ++ "- " ++ plugin.source) ::
            ((plugin.ownLines indent).map closed ++
              ((rest.flatMap (Plugin.linesIn indent notes)).map closed ++ gap))) := by
        rw [List.flatMap_cons, Plugin.linesIn]
        simp only [List.map_append, List.map_cons, List.append_assoc, List.cons_append]
      have hplain : isPlain (closed (indent ++ "- " ++ plugin.source)) = false := by
        rw [isPlain, dropBullet?_source hindent]
        rfl
      have hitems := @readItems_eq indent notes hindent plugin (h plugin List.mem_cons_self) rest
        (fun other ho => h other (List.mem_cons_of_mem _ ho)) gap hgap
      have hwidth := indentWidth_source hindent plugin
      rw [readPlugins, listItems, hlines, cutAtBullets_idle isIdle_of_mem_noteLines]
      rw [cutAtBullets_bullet hplain] at hitems ⊢
      simp only [List.headD_cons, hwidth]
      exact hitems

end indent

end GenTemplate

end ConnectClients
