import ConnectClients.Proofs.GenTemplate.Documents
import ConnectClients.Proofs.GenTemplate.Inputs
import ConnectClients.Proofs.GenTemplate.Plugins
import ConnectClients.Proofs.Text.Stops
import Mathlib.Data.List.Infix

/-!
# What is read stands in the text

The reader takes any text and makes nothing up. Every string of the template that it reads is a
token that stands in the text: the blocks in which it looks are stretches of the lines of the text,
the lines of an item are what the lines of its block end in, and a value is what a line, or a
stretch of lines, has behind a key. Each input names one source and so does each plugin.
-/

namespace ConnectClients

open Text GenTemplate

/-! ## The strings of a template -/

def ManagedOverride.texts (o : ManagedOverride) : List String := [o.fileOption, o.value]

def Managed.texts (managed : Managed) : List String :=
  managed.disabled.getD [] ++ (managed.overrides.getD []).flatMap ManagedOverride.texts

def TemplateInput.texts (input : TemplateInput) : List String :=
  input.directory.toList ++ input.moduleName.toList

def Plugin.texts (plugin : Plugin) : List String :=
  plugin.localName.toList ++ (plugin.remoteName.toList ++ plugin.out :: plugin.opt.getD [])

namespace GenTemplate

/-- All strings of a template. -/
def texts (t : GenTemplate) : List String :=
  t.version.toList ++ (t.managed.toList.flatMap Managed.texts ++
    ((t.inputs.getD []).flatMap TemplateInput.texts ++ (t.plugins.getD []).flatMap Plugin.texts))

/-! ## Excerpts -/

/-- A token that stands in a text. -/
structure IsExcerpt (cs : List Char) (s : String) : Prop where
  token : IsToken s
  inside : s.toList <:+: cs

variable {α : Type} {cs ds taken rest line : List Char} {key s : String}
  {lines block item : List (List Char)}

theorem IsExcerpt.mono (h : IsExcerpt cs s) (hin : cs <:+: ds) : IsExcerpt ds s :=
  ⟨h.token, h.inside.trans hin⟩

theorem IsExcerpt.of_mem (h : IsExcerpt line s) (hline : line ∈ lines) :
    IsExcerpt lines.flatten s :=
  h.mono (List.infix_of_mem_flatten hline)

theorem isExcerpt_run (h : run? (fun c => !isBlank c) cs = some (taken, rest)) :
    IsExcerpt cs (String.ofList taken) := by
  obtain ⟨rfl, hne, htaken⟩ := run?_eq_some h
  refine ⟨⟨by simpa using hne, by simpa using htaken⟩, ?_⟩
  rw [String.toList_ofList]
  exact (List.prefix_append taken rest).isInfix

theorem isExcerpt_readValue (h : readValue key cs = some (taken, rest)) :
    IsExcerpt cs (String.ofList taken) ∧ rest <:+ cs := by
  rw [readValue, Option.bind_eq_bind, Option.bind_eq_some_iff] at h
  obtain ⟨behind, hkey, hrun⟩ := h
  have hbehind : behind.dropWhile isIndent <:+ cs :=
    (List.dropWhile_suffix isIndent).trans (literal?_suffix hkey)
  exact ⟨(isExcerpt_run hrun).mono hbehind.isInfix, (run?_suffix hrun).trans hbehind⟩

theorem isExcerpt_valueAtStart? (h : valueAtStart? key line = some s) : IsExcerpt line s := by
  obtain ⟨⟨taken, rest⟩, hread, rfl⟩ := Option.map_eq_some_iff.mp h
  exact (isExcerpt_readValue hread).1

/-! ## Scans -/

theorem isExcerpt_of_mem_valuesOf (h : s ∈ valuesOf key cs) : IsExcerpt cs s := by
  obtain ⟨taken, hscan, rfl⟩ := List.mem_map.mp h
  obtain ⟨start, rest, hstart, hread⟩ :=
    exists_suffix_of_mem_scanAll (fun _ _ _ hread => (isExcerpt_readValue hread).2) hscan
  exact (isExcerpt_readValue hread).1.mono hstart.isInfix

theorem skipToNextLine?_suffix (h : skipToNextLine? cs = some rest) : rest <:+ cs := by
  rw [skipToNextLine?] at h
  split at h
  · cases h
    exact skipBlanks_suffix cs
  · cases h

theorem isExcerpt_readOverride {o : ManagedOverride} (h : readOverride cs = some (o, rest)) :
    (∀ s ∈ o.texts, IsExcerpt cs s) ∧ rest <:+ cs := by
  simp only [readOverride, Option.bind_eq_bind, Option.bind_eq_some_iff, Prod.exists] at h
  obtain ⟨option, behind, hoption, next, hskip, value, more, hvalue, hmade⟩ := h
  cases hmade
  obtain ⟨hfirst, hbehind⟩ := isExcerpt_readValue hoption
  obtain ⟨hsecond, hrest⟩ := isExcerpt_readValue hvalue
  have hnext : next <:+ cs := (skipToNextLine?_suffix hskip).trans hbehind
  refine ⟨?_, hrest.trans hnext⟩
  intro s hs
  rcases List.mem_pair.mp hs with rfl | rfl
  · exact hfirst
  · exact hsecond.mono hnext.isInfix

theorem isExcerpt_of_mem_overrides {o : ManagedOverride} (h : o ∈ scanAll readOverride cs) :
    ∀ s ∈ o.texts, IsExcerpt cs s := by
  obtain ⟨start, rest, hstart, hread⟩ :=
    exists_suffix_of_mem_scanAll (fun _ _ _ hread => (isExcerpt_readOverride hread).2) h
  exact fun s hs => ((isExcerpt_readOverride hread).1 s hs).mono hstart.isInfix

/-! ## Blocks and items -/

theorem flatten_linesOf (cs : List Char) : (linesOf cs).flatten = cs := by
  induction cs with
  | nil => rfl
  | cons c cs ih =>
      rw [linesOf]
      split
      · rw [List.flatten_cons, ih, List.singleton_append]
      · split
        · rename_i hnil
          rw [hnil] at ih
          rw [← ih]
          rfl
        · rename_i hlines
          rw [hlines, List.flatten_cons] at ih
          rw [List.flatten_cons, List.cons_append, ih]

theorem infix_of_findBlock {indented : Bool} (h : findBlock indented key lines = some block) :
    block <:+: lines := by
  induction lines with
  | nil => cases h
  | cons line lines ih =>
      have hlater : lines <:+: line :: lines := (List.suffix_cons line lines).isInfix
      cases hline : opens indented key line with
      | true =>
          rw [findBlock_cons hline] at h
          cases h
          exact (List.takeWhile_prefix _).isInfix.trans hlater
      | false =>
          have hskip := findBlock_append (List.forall_mem_singleton.mpr hline) lines
          rw [List.singleton_append] at hskip
          exact (ih (hskip.symm.trans h)).trans hlater

theorem dropBullet?_suffix (h : dropBullet? line = some rest) : rest <:+ line := by
  rw [dropBullet?] at h
  split at h
  · rename_i c more hline
    split at h
    · cases h
      have hmore : more <:+ line.dropWhile isIndent :=
        hline ▸ (List.suffix_cons c more).trans (List.suffix_cons '-' (c :: more))
      exact (List.dropWhile_suffix isIndent).trans
        (hmore.trans (List.dropWhile_suffix isIndent))
    · cases h
  · cases h

/-- A line of an item is what is left of a line of the cuts. -/
theorem exists_of_mem_joinItems {width : Nat} {cuts : List (List (List Char))}
    (h : item ∈ joinItems width cuts) (hline : line ∈ item) :
    ∃ l ∈ cuts.flatten, line <:+ l := by
  induction cuts using joinItems.induct width with
  | case1 => simp [joinItems] at h
  | case2 cut cuts rest ih =>
      rw [joinItems.eq_def] at h
      rcases List.mem_cons.mp h with rfl | h
      · rcases List.mem_append.mp hline with hown | hdeeper
        · cases cut with
          | nil => cases hown
          | cons first others =>
              rcases List.mem_cons.mp hown with rfl | hothers
              · refine ⟨first, by simp, ?_⟩
                cases hdrop : dropBullet? first with
                | none => exact List.suffix_rfl
                | some dropped => exact dropBullet?_suffix hdrop
              · exact ⟨line, by simp [hothers], List.suffix_rfl⟩
        · refine ⟨line, ?_, List.suffix_rfl⟩
          rw [List.flatten_cons]
          exact List.mem_append_right _
            ((List.takeWhile_prefix _).flatten.subset hdeeper)
      · obtain ⟨l, hl, hsuffix⟩ := ih h
        refine ⟨l, ?_, hsuffix⟩
        rw [List.flatten_cons]
        exact List.mem_append_right _ ((List.dropWhile_suffix _).flatten.subset hl)

theorem exists_of_mem_listItems (h : item ∈ listItems block) (hline : line ∈ item) :
    ∃ l ∈ block, line <:+ l := by
  obtain ⟨l, hl, hsuffix⟩ := exists_of_mem_joinItems h hline
  rw [flatten_cutAtBullets] at hl
  exact ⟨l, (List.dropWhile_suffix _).subset hl, hsuffix⟩

/-! ## Sections -/

/-- What is read of a section, or of the block of a key, is what is read of its lines. -/
theorem exists_of_mem_block {indented : Bool} {f : List (List Char) → α} {a : α}
    (h : a ∈ (findBlock indented key lines).map f) :
    ∃ block, block.flatten <:+: lines.flatten ∧ f block = a := by
  obtain ⟨block, hblock, hf⟩ := Option.map_eq_some_iff.mp h
  exact ⟨block, (infix_of_findBlock hblock).flatten, hf⟩

theorem mem_getD_nil_iff {o : Option (List α)} {a : α} :
    a ∈ o.getD [] ↔ ∃ xs ∈ o, a ∈ xs := by
  cases o <;> simp

theorem isExcerpt_readManaged (h : s ∈ (readManaged block).texts) : IsExcerpt block.flatten s := by
  rcases List.mem_append.mp h with hdisabled | hoverrides
  · obtain ⟨names, hnames, hs⟩ := mem_getD_nil_iff.mp hdisabled
    obtain ⟨lines, hlines, rfl⟩ := exists_of_mem_block hnames
    exact (isExcerpt_of_mem_valuesOf hs).mono hlines
  · obtain ⟨o, ho, hs⟩ := List.mem_flatMap.mp hoverrides
    obtain ⟨entries, hentries, hmem⟩ := mem_getD_nil_iff.mp ho
    obtain ⟨lines, hlines, rfl⟩ := exists_of_mem_block hentries
    exact (isExcerpt_of_mem_overrides hmem s hs).mono hlines

/-- An input that is read is a directory or a module. -/
theorem mem_readInputs {input : TemplateInput} (h : input ∈ readInputs block) :
    ∃ s, IsExcerpt block.flatten s ∧ (input = .ofDirectory s ∨ input = .ofModule s) := by
  rcases List.mem_append.mp h with h | h
  · obtain ⟨dir, hdir, rfl⟩ := List.mem_map.mp h
    exact ⟨dir, isExcerpt_of_mem_valuesOf hdir, Or.inl rfl⟩
  · obtain ⟨name, hname, rfl⟩ := List.mem_map.mp h
    exact ⟨name, isExcerpt_of_mem_valuesOf hname, Or.inr rfl⟩

theorem isExcerpt_readSource? {here : Bool} (h : readSource? line = some (here, s)) :
    IsExcerpt line s := by
  rw [readSource?] at h
  split at h
  · rename_i name hname
    cases h
    exact isExcerpt_valueAtStart? hname
  · obtain ⟨name, hname, hpair⟩ := Option.map_eq_some_iff.mp h
    cases hpair
    exact isExcerpt_valueAtStart? hname

theorem isExcerpt_readOption? (h : readOption? line = some s) : IsExcerpt line s := by
  rw [readOption?] at h
  split at h
  · rename_i more hline
    obtain ⟨⟨taken, rest⟩, hrun, rfl⟩ := Option.map_eq_some_iff.mp h
    have hmore : more.dropWhile isIndent <:+ line :=
      (List.dropWhile_suffix isIndent).trans
        (((List.suffix_cons '-' more).trans (hline ▸ List.suffix_rfl)).trans
          (List.dropWhile_suffix isIndent))
    exact (isExcerpt_run hrun).mono hmore.isInfix
  · cases h

/-- A plugin that is read has one source, and all its strings stand in the lines of its item. -/
theorem readPlugin?_of_some {plugin : Plugin} (h : readPlugin? item = some plugin) :
    (∀ s ∈ plugin.texts, ∃ line ∈ item, IsExcerpt line s) ∧
      plugin.localName.isSome ≠ plugin.remoteName.isSome := by
  simp only [readPlugin?, Option.bind_eq_bind, Option.bind_eq_some_iff, Prod.exists] at h
  obtain ⟨here, name, hsource, out, hout, hmade⟩ := h
  obtain ⟨sourceLine, hsourceLine, hname⟩ := List.exists_of_findSome?_eq_some hsource
  obtain ⟨outLine, houtLine, hvalue⟩ := List.exists_of_findSome?_eq_some hout
  have hsourceText : ∃ line ∈ item, IsExcerpt line name :=
    ⟨sourceLine, hsourceLine, isExcerpt_readSource? hname⟩
  have houtText : ∃ line ∈ item, IsExcerpt line out :=
    ⟨outLine, houtLine, (isExcerpt_valueAtStart? hvalue).mono (List.dropWhile_suffix _).isInfix⟩
  have hopt : ∀ s ∈ ((nested? "opt" item).map fun lines => lines.filterMap readOption?).getD [],
      ∃ line ∈ item, IsExcerpt line s := by
    intro s hs
    obtain ⟨options, hoptions, hs⟩ := mem_getD_nil_iff.mp hs
    obtain ⟨lines, hlines, rfl⟩ := Option.map_eq_some_iff.mp hoptions
    obtain ⟨line, hline, hread⟩ := List.mem_filterMap.mp hs
    exact ⟨line, (infix_of_findBlock hlines).subset hline, isExcerpt_readOption? hread⟩
  have htexts : ∀ s ∈ name :: out ::
      ((nested? "opt" item).map fun lines => lines.filterMap readOption?).getD [],
      ∃ line ∈ item, IsExcerpt line s :=
    List.forall_mem_cons.mpr ⟨hsourceText, List.forall_mem_cons.mpr ⟨houtText, hopt⟩⟩
  cases here with
  | true =>
      cases hmade
      exact ⟨htexts, by simp⟩
  | false =>
      cases hmade
      exact ⟨htexts, by simp⟩

theorem mem_readPlugins {plugin : Plugin} (h : plugin ∈ readPlugins block) :
    (∀ s ∈ plugin.texts, IsExcerpt block.flatten s) ∧
      plugin.localName.isSome ≠ plugin.remoteName.isSome := by
  obtain ⟨item, hitem, hread⟩ := List.mem_filterMap.mp h
  obtain ⟨htexts, hsource⟩ := readPlugin?_of_some hread
  refine ⟨fun s hs => ?_, hsource⟩
  obtain ⟨line, hline, hexcerpt⟩ := htexts s hs
  obtain ⟨l, hl, hsuffix⟩ := exists_of_mem_listItems hitem hline
  exact (hexcerpt.mono hsuffix.isInfix).of_mem hl

/-! ## The whole template -/

theorem isExcerpt_read {content : String} (h : s ∈ (read content).texts) :
    IsExcerpt content.toList s := by
  rw [← flatten_linesOf content.toList]
  rcases List.mem_append.mp h with hversion | h
  · obtain ⟨line, hline, hvalue⟩ :=
      List.exists_of_findSome?_eq_some (Option.mem_toList.mp hversion)
    exact (isExcerpt_valueAtStart? hvalue).of_mem hline
  rcases List.mem_append.mp h with hmanaged | h
  · obtain ⟨managed, hmem, hs⟩ := List.mem_flatMap.mp hmanaged
    obtain ⟨block, hblock, rfl⟩ := exists_of_mem_block (Option.mem_toList.mp hmem)
    exact (isExcerpt_readManaged hs).mono hblock
  rcases List.mem_append.mp h with hinputs | hplugins
  · obtain ⟨input, hinput, hs⟩ := List.mem_flatMap.mp hinputs
    obtain ⟨inputs, hread, hmem⟩ := mem_getD_nil_iff.mp hinput
    obtain ⟨block, hblock, rfl⟩ := exists_of_mem_block hread
    obtain ⟨name, hname, rfl | rfl⟩ := mem_readInputs hmem
    · obtain rfl := List.mem_singleton.mp hs
      exact hname.mono hblock
    · obtain rfl := List.mem_singleton.mp hs
      exact hname.mono hblock
  · obtain ⟨plugin, hplugin, hs⟩ := List.mem_flatMap.mp hplugins
    obtain ⟨plugins, hread, hmem⟩ := mem_getD_nil_iff.mp hplugin
    obtain ⟨block, hblock, rfl⟩ := exists_of_mem_block hread
    exact ((mem_readPlugins hmem).1 s hs).mono hblock

/-- **Any text is read, and nothing in the template is made up.** No check refuses what was found,
so that nothing is told of the text; every string of the template is a token that stands in the
text; every input names one of a directory and a module, and every plugin a local or a remote
source. -/
theorem readDocument_excerpts (content : String) :
    readDocument (some content) = (read content, []) ∧
      (∀ s ∈ (read content).texts, IsToken s ∧ s.toList <:+: content.toList) ∧
      (∀ inputs ∈ (read content).inputs, ∀ input ∈ inputs,
        input.directory.isSome ≠ input.moduleName.isSome) ∧
      ∀ plugins ∈ (read content).plugins, ∀ plugin ∈ plugins,
        plugin.localName.isSome ≠ plugin.remoteName.isSome := by
  refine ⟨readDocument_text content, ?_, ?_, ?_⟩
  · intro s hs
    have hexcerpt := isExcerpt_read hs
    exact ⟨hexcerpt.token, hexcerpt.inside⟩
  · intro inputs hinputs input hinput
    obtain ⟨block, -, rfl⟩ := exists_of_mem_block hinputs
    obtain ⟨name, -, rfl | rfl⟩ := mem_readInputs hinput
    · simp [TemplateInput.ofDirectory]
    · simp [TemplateInput.ofModule]
  · intro plugins hplugins plugin hplugin
    obtain ⟨block, -, rfl⟩ := exists_of_mem_block hplugins
    exact (mem_readPlugins hplugin).2

/-- A text with a section that holds nothing and items that are no plugins. -/
def torn : String :=
  unlines ["inputs:", " - directory: module: m", "managed: ]", "\tenabled:true1", "plugins:", "",
    "-\tlocal: a", "  out:b c", "  opt:", "  - x", "- out: d", "- remote: e", "-"]

def tornTemplate : GenTemplate where
  managed := some ⟨false, none, none⟩
  inputs := some [.ofDirectory "module:", .ofModule "m"]
  plugins := some [⟨some "a", none, "b", some ["x"]⟩]

/-- The key of a module is read as a directory, and the module behind it as a module. -/
theorem torn_excerpts :
    readDocument (some torn) = (tornTemplate, []) ∧
      IsToken "module:" ∧ "module:".toList <:+: torn.toList := by
  have hread : read torn = tornTemplate := by decide +kernel
  obtain ⟨hdocument, htexts, -⟩ := readDocument_excerpts torn
  rw [hread] at hdocument htexts
  exact ⟨hdocument, htexts "module:" (by decide)⟩

end GenTemplate

end ConnectClients
