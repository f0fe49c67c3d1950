import ConnectClients.Proofs.GenTemplate.Managed
import ConnectClients.Proofs.Yaml.PlainValues

/-!
# Templates as lines of YAML

The template for one directory, as lines of a YAML document. Its text is that of the lines, and if
what is pasted into it can be written as plain scalars, the lines are read as a tree of the same
shape, each pasted value standing where it was put.
-/

namespace ConnectClients.GenTemplate

open Text (closed)
open Yaml (Line Note Node IsPlain IsName AllFit linesText notesOf columnOf Entries Items)
open Yaml.Parse (plainNode)
open Yaml.Node (fieldsNode)

/-! ## Pasted values -/

/-- What is pasted into the template for a directory. -/
def pasted (outputDir inputDir : String) (deps : List String) (goPrefix : Option String) :
    List String :=
  outputDir :: inputDir :: (deps ++ goPrefix.toList)

/-- A token that is one plain scalar behind its key: YAML allows its characters, it starts like a
plain scalar, and it does not end like a key. -/
structure IsPlainToken (s : String) : Prop where
  token : IsToken s
  allowed : ∀ c ∈ s.toList, Yaml.isAllowed c = true
  starts : Yaml.Scan.startsPlain { rest := s.toList } false = true
  ends : s.toList.getLast? ≠ some ':'

instance (s : String) : Decidable (IsToken s) :=
  decidable_of_iff (s ≠ "" ∧ (s.toList.all fun c => !Text.isBlank c) = true) (by simp [IsToken])

instance (s : String) : Decidable (IsPlainToken s) :=
  decidable_of_iff
    (IsToken s ∧ s.toList.all Yaml.isAllowed = true ∧
      Yaml.Scan.startsPlain { rest := s.toList } false = true ∧ s.toList.getLast? ≠ some ':')
    ⟨fun ⟨ht, ha, hs, he⟩ => ⟨ht, List.all_eq_true.mp ha, hs, he⟩,
      fun ⟨ht, ha, hs, he⟩ => ⟨ht, List.all_eq_true.mpr ha, hs, he⟩⟩

theorem unblank_of_isBlank {c : Char} (h : Text.isBlank c = false) :
    Yaml.isBreak c = false ∧ c ≠ ' ' ∧ c ≠ '\t' := by
  have hother : ∀ d, Text.isBlank d = true → c ≠ d := by
    rintro d hd rfl
    rw [h] at hd
    cases hd
  have hcode : ∀ n : Nat, Text.isBlank (Char.ofNat n) = true → c.toNat ≠ n := by
    rintro n hn rfl
    rw [Char.ofNat_toNat, h] at hn
    cases hn
  refine ⟨?_, hother ' ' (by decide), hother '\t' (by decide)⟩
  simp only [Yaml.isBreak, Bool.or_eq_false_iff, beq_eq_false_iff_ne]
  exact ⟨⟨⟨⟨hother '\n' (by decide), hother '\r' (by decide)⟩, hcode 0x85 (by decide)⟩,
    hcode 0x2028 (by decide)⟩, hcode 0x2029 (by decide)⟩

theorem IsPlainToken.isPlain {s : String} (h : IsPlainToken s) : IsPlain s.toList where
  allowed := h.allowed
  unblank c hc := unblank_of_isBlank (h.token.2 c hc)
  starts := h.starts
  ends := h.ends

/-! ## Lines -/

/-- A module, behind a dash. -/
def moduleLine (column : Nat) (name : String) : Line :=
  ⟨column, .pair true "module".toList name.toList, []⟩

def disableLines : List String → List Line
  | [] => []
  | deps => ⟨2, .key false "disable".toList, []⟩ :: deps.map (moduleLine 4)

def overrideLines : Option String → List Line
  | none => []
  | some value =>
    [⟨2, .key false "override".toList, []⟩,
      ⟨4, .pair true "file_option".toList goPackagePrefix.toList, []⟩,
      ⟨6, .pair false "value".toList value.toList, []⟩]

/-- Managed mode, behind an empty line. -/
def managedLines (deps : List String) (goPrefix : Option String) : List Line :=
  ⟨0, .key false "managed".toList, [{}]⟩ :: ⟨2, .pair false "enabled".toList "true".toList, []⟩ ::
    (disableLines deps ++ overrideLines goPrefix)

def inputLines (inputDir : String) (deps : List String) : List Line :=
  ⟨0, .key false "inputs".toList, [{}]⟩ ::
    ⟨2, .pair true "directory".toList inputDir.toList, []⟩ :: deps.map (moduleLine 2)

/-- The comment in front of the plugin. -/
def pluginNote : Note :=
  ⟨2, some " Generate types and Connect-RPC service definitions using protoc-gen-es v2".toList⟩

def pluginLines (outputDir : String) : List Line :=
  [⟨0, .key false "plugins".toList, [{}]⟩,
    ⟨2, .pair true "local".toList esPlugin.toList, [pluginNote]⟩,
    ⟨4, .pair false "out".toList outputDir.toList, []⟩,
    ⟨4, .key false "opt".toList, []⟩,
    ⟨6, .item "target=ts".toList, []⟩,
    ⟨6, .item "import_extension=none".toList, []⟩]

def versionLine : Line := ⟨0, .pair false "version".toList currentVersion.toList, []⟩

/-- The lines of the template for a directory. -/
def templateLines (outputDir inputDir : String) (deps : List String) (goPrefix : Option String) :
    List Line :=
  versionLine ::
    (managedLines deps goPrefix ++ (inputLines inputDir deps ++ pluginLines outputDir))

/-! ## Their text -/

variable {outputDir inputDir : String} {deps : List String} {goPrefix : Option String}

/-- A line that is written with a value behind its key. -/
theorem closed_pair {lead : String} {column : Nat} {dash : Bool} {name : List Char}
    (h : lead.toList =
      List.replicate column ' ' ++ (Line.dashText dash ++ (name ++ [':', ' ']))) (value : String) :
    closed (lead ++ value) = Line.written ⟨column, .pair dash name value.toList, []⟩ := by
  rw [closed, String.toList_append, h]
  simp [Line.written, Line.text, Yaml.gapText]

/-- Lines of text that are written as lines of a document. -/
def Writes (lines : List String) (written : List Line) : Prop :=
  List.Forall₂ (fun line l => closed line = Line.written l) lines written

theorem Writes.text {lines : List String} {written : List Line} (h : Writes lines written) :
    lines.flatMap closed = linesText written := by
  induction h with
  | nil => rfl
  | cons hline _ ih =>
      rw [List.flatMap_cons, hline, ih]
      rfl

theorem writes_modules {lead : String} {column : Nat}
    (h : lead.toList =
      List.replicate column ' ' ++ (Line.dashText true ++ ("module".toList ++ [':', ' '])))
    (deps : List String) : Writes (deps.map (lead ++ ·)) (deps.map (moduleLine column)) := by
  rw [Writes, List.forall₂_map_left_iff, List.forall₂_map_right_iff, List.forall₂_same]
  exact fun name _ => closed_pair h name

/-- The mode that the template for a directory has. -/
def builtManaged (deps : List String) (goPrefix : Option String) : Managed where
  enabled := true
  disabled := nonempty? deps
  overrides := match goPrefix with
    | some value => if value.isEmpty then none else some [⟨goPackagePrefix, value⟩]
    | none => none

theorem writes_disabledLines (deps : List String) (goPrefix : Option String) :
    Writes ((builtManaged deps goPrefix).disabledLines "  ") (disableLines deps) := by
  cases deps with
  | nil => exact .nil
  | cons dep rest => exact .cons (by decide) (writes_modules (by decide) (dep :: rest))

theorem writes_overrideLines (hgo : ∀ value ∈ goPrefix, value ≠ "") (deps : List String) :
    Writes ((builtManaged deps goPrefix).overrideLines "  ") (overrideLines goPrefix) := by
  cases goPrefix with
  | none => exact .nil
  | some value =>
      have hne : ¬ value.isEmpty = true := by
        rw [String.isEmpty_iff]
        exact hgo value rfl
      rw [Managed.overrideLines, builtManaged]
      dsimp only
      rw [if_neg hne]
      exact .cons (by decide) (.cons (closed_pair (by decide) goPackagePrefix)
        (.cons (closed_pair (by decide) value) .nil))

theorem closed_managed (hgo : ∀ value ∈ goPrefix, value ≠ "") :
    ("" :: (builtManaged deps goPrefix).lines).flatMap closed =
      linesText (managedLines deps goPrefix) := by
  have hkey : closed "" ++ closed "managed:" =
      Line.written ⟨0, .key false "managed".toList, [{}]⟩ := by decide
  have henabled : closed (builtManaged deps goPrefix).enabledLine =
      Line.written ⟨2, .pair false "enabled".toList "true".toList, []⟩ :=
    closed_pair (by decide) "true"
  rw [Managed.lines_eq, Managed.bodyLines, List.flatMap_cons, List.flatMap_cons, List.flatMap_cons,
    List.flatMap_append, ← List.append_assoc, hkey, henabled, (writes_disabledLines _ _).text,
    (writes_overrideLines hgo deps).text]
  simp only [managedLines, linesText, List.flatMap_cons, List.flatMap_append]

theorem closed_inputs (inputDir : String) (deps : List String) :
    ("" :: "inputs:" :: (TemplateInput.mk (some inputDir) none ::
      deps.map fun dep => ⟨none, some dep⟩).flatMap TemplateInput.lines).flatMap closed =
      linesText (inputLines inputDir deps) := by
  have hkey : closed "" ++ closed "inputs:" =
      Line.written ⟨0, .key false "inputs".toList, [{}]⟩ := by decide
  have hbody : Writes (("  - directory: " ++ inputDir) :: deps.map ("  - module: " ++ ·))
      (⟨2, .pair true "directory".toList inputDir.toList, []⟩ :: deps.map (moduleLine 2)) :=
    .cons (closed_pair (by decide) inputDir) (writes_modules (by decide) deps)
  have hlines : (TemplateInput.mk (some inputDir) none ::
      deps.map fun dep => ⟨none, some dep⟩).flatMap TemplateInput.lines =
      ("  - directory: " ++ inputDir) :: deps.map ("  - module: " ++ ·) := by
    rw [List.flatMap_cons, List.flatMap_map, List.map_eq_flatMap]
    rfl
  rw [hlines, List.flatMap_cons, List.flatMap_cons, ← List.append_assoc, hkey, hbody.text]
  rfl

theorem closed_plugins (outputDir : String) :
    ("" :: "plugins:" :: [Plugin.mk (some esPlugin) none outputDir
      (some esPluginOptions)].flatMap Plugin.lines).flatMap closed =
      linesText (pluginLines outputDir) := by
  have hhead : ["", "plugins:",
      "  # Generate types and Connect-RPC service definitions using protoc-gen-es v2",
      "  - local: protoc-gen-es"].flatMap closed = linesText ((pluginLines outputDir).take 2) := by
    show _ = linesText [⟨0, .key false "plugins".toList, [{}]⟩,
      ⟨2, .pair true "local".toList esPlugin.toList, [pluginNote]⟩]
    decide
  have hrest : Writes ["    out: " ++ outputDir, "    opt:", "      - target=ts",
      "      - import_extension=none"] ((pluginLines outputDir).drop 2) :=
    .cons (closed_pair (by decide) outputDir)
      (.cons (by decide) (.cons (by decide) (.cons (by decide) .nil)))
  have hlines : "" :: "plugins:" :: [Plugin.mk (some esPlugin) none outputDir
      (some esPluginOptions)].flatMap Plugin.lines =
      ["", "plugins:",
        "  # Generate types and Connect-RPC service definitions using protoc-gen-es v2",
        "  - local: protoc-gen-es"] ++ ["    out: " ++ outputDir, "    opt:",
        "      - target=ts", "      - import_extension=none"] := by
    simp [Plugin.lines, esPlugin, esPluginOptions]
  rw [hlines, List.flatMap_append, hhead, hrest.text, linesText, linesText, ← List.flatMap_append,
    List.take_append_drop]
  rfl

/-- **The text of the template** for a directory is that of its lines. -/
theorem toList_render_build (hgo : ∀ value ∈ goPrefix, value ≠ "") :
    (build outputDir inputDir deps goPrefix).render.toList =
      linesText (templateLines outputDir inputDir deps goPrefix) := by
  have hsections : (build outputDir inputDir deps goPrefix).sections =
      [["version: " ++ currentVersion], (builtManaged deps goPrefix).lines,
        "inputs:" :: (TemplateInput.mk (some inputDir) none ::
          deps.map fun dep => ⟨none, some dep⟩).flatMap TemplateInput.lines,
        "plugins:" :: [Plugin.mk (some esPlugin) none outputDir
          (some esPluginOptions)].flatMap Plugin.lines] := rfl
  have htext := @newline_render_sections (build outputDir inputDir deps goPrefix).sections
    (by simp [hsections]) (by simp [hsections, Managed.lines_eq])
  have hversion : ["", "version: " ++ currentVersion].flatMap closed =
      '\n' :: Line.written versionLine := by decide
  have hspaced : (spaced 1 (build outputDir inputDir deps goPrefix).sections).flatMap closed =
      '\n' :: linesText (templateLines outputDir inputDir deps goPrefix) := by
    have hrows : ∀ a b c d : List String,
        spaced 1 [a, b, c, d] = "" :: a ++ ("" :: b ++ ("" :: c ++ "" :: d)) := by
      intro a b c d
      simp [spaced]
    rw [hsections, hrows, List.flatMap_append, List.flatMap_append, List.flatMap_append, hversion,
      closed_managed hgo, closed_inputs, closed_plugins]
    simp only [templateLines, linesText, List.flatMap_cons, List.flatMap_append, List.cons_append]
  exact (List.cons.inj (htext.trans hspaced)).2

/-! ## Their tokens -/

/-- Lines that a value up to a column can be written in front of. -/
structure FitsBehind (column : Nat) (lines : List Line) : Prop where
  fit : AllFit lines
  notes : ∀ note ∈ notesOf lines, note.IsBlank
  column_le : columnOf lines ≤ column

section fits

variable {column : Nat} {notes : List Note} {lines : List Line}

theorem FitsBehind.mono {n : Nat} (h : FitsBehind column lines) (hle : column ≤ n) :
    FitsBehind n lines := ⟨h.fit, h.notes, Nat.le_trans h.column_le hle⟩

theorem fitsBehind_nil : FitsBehind column [] := ⟨trivial, by simp [notesOf], Nat.zero_le column⟩

theorem isBlank_empty : ∀ note ∈ [({} : Note)], note.IsBlank := by
  simp [Note.IsBlank]

theorem fitsBehind_pair (c : Nat) (dash : Bool) (name value : String)
    (hname : IsName name.toList) (hvalue : IsPlain value.toList)
    (h : FitsBehind (cond dash (c + 2) c) lines) :
    FitsBehind c (⟨c, .pair dash name.toList value.toList, []⟩ :: lines) := by
  have hcolumn : columnOf lines ≤ Line.keyColumn ⟨c, .pair dash name.toList value.toList, []⟩ dash := by
    cases dash with
    | true => exact h.column_le
    | false => exact h.column_le
  exact ⟨⟨⟨hname, hvalue, h.notes, hcolumn⟩, h.fit⟩, by simp [notesOf], Nat.le_refl c⟩

theorem fitsBehind_item (c : Nat) (value : String) (hvalue : IsPlain value.toList)
    (h : FitsBehind c lines) : FitsBehind c (⟨c, .item value.toList, []⟩ :: lines) :=
  ⟨⟨⟨hvalue, h.notes, h.column_le⟩, h.fit⟩, by simp [notesOf], Nat.le_refl c⟩

theorem fitsBehind_key (c : Nat) (name : String) (hname : IsName name.toList)
    (hnotes : ∀ note ∈ notes, note.IsBlank) (h : AllFit lines)
    (hlines : ∀ note ∈ notesOf lines, note.IsLine) :
    FitsBehind c (⟨c, .key false name.toList, notes⟩ :: lines) :=
  ⟨⟨⟨hname, hlines⟩, h⟩, hnotes, Nat.le_refl c⟩

theorem fitsBehind_modules (hdeps : ∀ dep ∈ deps, IsPlain dep.toList)
    (h : FitsBehind (column + 2) lines) :
    FitsBehind (column + 2) (deps.map (moduleLine column) ++ lines) := by
  induction deps with
  | nil => exact h
  | cons dep rest ih =>
      obtain ⟨hdep, hrest⟩ := List.forall_mem_cons.mp hdeps
      exact (fitsBehind_pair column true "module" dep (by decide) hdep (ih hrest)).mono
        (Nat.le_add_right column 2)

theorem fitsBehind_disable (hdeps : ∀ dep ∈ deps, IsPlain dep.toList) (h : FitsBehind 2 lines) :
    FitsBehind 2 (disableLines deps ++ lines) := by
  cases deps with
  | nil => exact h
  | cons dep rest =>
      have hmodules : FitsBehind 6 ((dep :: rest).map (moduleLine 4) ++ lines) :=
        fitsBehind_modules hdeps (h.mono (by decide))
      exact fitsBehind_key 2 "disable" (by decide) (by simp) hmodules.fit
        (by simp [notesOf, moduleLine])

theorem fitsBehind_override (hgo : ∀ value ∈ goPrefix, IsPlain value.toList)
    (h : FitsBehind 2 lines) : FitsBehind 2 (overrideLines goPrefix ++ lines) := by
  cases goPrefix with
  | none => exact h
  | some value =>
      have hvalue := fitsBehind_pair 6 false "value" value (by decide) (hgo value rfl)
        (h.mono (by decide))
      have hoption := fitsBehind_pair 4 true "file_option" goPackagePrefix (by decide) (by decide)
        hvalue
      exact fitsBehind_key 2 "override" (by decide) (by simp) hoption.fit (by simp [notesOf])

theorem pluginNote_isLine : pluginNote.IsLine := by
  intro cs hcs c hc
  have hall : (pluginNote.comment.all fun cs =>
      cs.all fun c => !Yaml.isBreak c && Yaml.isAllowed c) = true := by decide
  rw [Option.mem_def.mp hcs, Option.all_some, List.all_eq_true] at hall
  simpa using hall c hc

theorem fitsBehind_plugins (hout : IsPlain outputDir.toList) :
    FitsBehind 0 (pluginLines outputDir) := by
  have hoptions := fitsBehind_item 6 "target=ts" (by decide)
    (fitsBehind_item 6 "import_extension=none" (by decide) fitsBehind_nil)
  have hopt := @fitsBehind_key [] _ 4 "opt" (by decide) (by simp) hoptions.fit (by simp [notesOf])
  have hlocal := fitsBehind_pair 4 false "out" outputDir (by decide) hout hopt
  -- the comment in front of the plugin is no empty line, but only a key stands in front of it
  refine fitsBehind_key 0 "plugins" (by decide) isBlank_empty
    ⟨⟨by decide, by decide, hlocal.notes, hlocal.column_le⟩, hlocal.fit⟩ ?_
  intro note hnote
  rw [List.mem_singleton.mp hnote]
  exact pluginNote_isLine

theorem fitsBehind_inputs (hin : IsPlain inputDir.toList)
    (hdeps : ∀ dep ∈ deps, IsPlain dep.toList) (h : FitsBehind 0 lines) :
    FitsBehind 0 (inputLines inputDir deps ++ lines) := by
  have hmodules : FitsBehind 4 (deps.map (moduleLine 2) ++ lines) :=
    fitsBehind_modules hdeps (h.mono (Nat.zero_le 4))
  have hinput := fitsBehind_pair 2 true "directory" inputDir (by decide) hin hmodules
  exact fitsBehind_key 0 "inputs" (by decide) isBlank_empty hinput.fit (by simp [notesOf])

theorem fitsBehind_managed (hdeps : ∀ dep ∈ deps, IsPlain dep.toList)
    (hgo : ∀ value ∈ goPrefix, IsPlain value.toList) (h : FitsBehind 0 lines) :
    FitsBehind 0 (managedLines deps goPrefix ++ lines) := by
  have hsettings := fitsBehind_disable hdeps
    (fitsBehind_override hgo (h.mono (Nat.zero_le 2)))
  rw [← List.append_assoc] at hsettings
  have henabled := fitsBehind_pair 2 false "enabled" "true" (by decide) (by decide) hsettings
  exact fitsBehind_key 0 "managed" (by decide) isBlank_empty henabled.fit (by simp [notesOf])

end fits

theorem allFit_template (h : ∀ s ∈ pasted outputDir inputDir deps goPrefix, IsPlain s.toList) :
    AllFit (templateLines outputDir inputDir deps goPrefix) := by
  simp only [pasted, List.forall_mem_cons, List.forall_mem_append, Option.mem_toList] at h
  obtain ⟨hout, hin, hdeps, hgo⟩ := h
  have hmanaged := fitsBehind_managed hdeps hgo
    (fitsBehind_inputs hin hdeps (fitsBehind_plugins hout))
  exact (fitsBehind_pair 0 false "version" currentVersion (by decide) (by decide) hmanaged).fit

/-! ## Their tree -/

def moduleNode (name : String) : Node := fieldsNode [("module", plainNode name.toList)]

def disableFields : List String → List (String × Node)
  | [] => []
  | deps => [("disable", .sequence .seq (deps.map moduleNode))]

def overrideFields : Option String → List (String × Node)
  | none => []
  | some value =>
    [("override", .sequence .seq [fieldsNode
      [("file_option", plainNode goPackagePrefix.toList), ("value", plainNode value.toList)]])]

def managedNode (deps : List String) (goPrefix : Option String) : Node :=
  fieldsNode (("enabled", plainNode "true".toList) :: (disableFields deps ++ overrideFields goPrefix))

def inputNodes (inputDir : String) (deps : List String) : List Node :=
  fieldsNode [("directory", plainNode inputDir.toList)] :: deps.map moduleNode

def pluginNode (outputDir : String) : Node :=
  fieldsNode
    [("local", plainNode esPlugin.toList), ("out", plainNode outputDir.toList),
      ("opt", .sequence .seq (esPluginOptions.map fun option => plainNode option.toList))]

/-- What the template for a directory is read as, each pasted value being a plain scalar. -/
def templateFields (outputDir inputDir : String) (deps : List String) (goPrefix : Option String) :
    List (String × Node) :=
  [("version", plainNode currentVersion.toList), ("managed", managedNode deps goPrefix),
    ("inputs", .sequence .seq (inputNodes inputDir deps)),
    ("plugins", .sequence .seq [pluginNode outputDir])]

/-- Lines that are read as the fields of a mapping. -/
def FieldLines (column : Nat) (lines : List Line) (fields : List (String × Node)) : Prop :=
  Entries column lines (fields.map fun f => (plainNode f.1.toList, f.2))

theorem FieldLines.append {column : Nat} {lines lines' : List Line}
    {fields fields' : List (String × Node)} (h : FieldLines column lines fields)
    (h' : FieldLines column lines' fields') :
    FieldLines column (lines ++ lines') (fields ++ fields') := by
  rw [FieldLines, List.map_append]
  exact Entries.append h h'

theorem items_modules {column : Nat} {lines : List Line} {items : List Node}
    (h : Items column lines items) (deps : List String) :
    Items column (lines ++ deps.map (moduleLine column)) (items ++ deps.map moduleNode) :=
  h.append_map fun _ _ => Items.mapping Entries.pair

theorem fieldLines_disable {lines : List Line} {fields : List (String × Node)}
    (h : FieldLines 2 lines fields) (deps : List String) :
    FieldLines 2 (lines ++ disableLines deps) (fields ++ disableFields deps) := by
  cases deps with
  | nil => simpa [disableLines, disableFields] using h
  | cons dep rest =>
      have hfirst : Items 4 [moduleLine 4 dep] [moduleNode dep] := Items.mapping Entries.pair
      exact h.append (Entries.sequence (by decide) (items_modules hfirst rest))

theorem fieldLines_override {lines : List Line} {fields : List (String × Node)}
    (h : FieldLines 2 lines fields) (goPrefix : Option String) :
    FieldLines 2 (lines ++ overrideLines goPrefix) (fields ++ overrideFields goPrefix) := by
  cases goPrefix with
  | none => simpa [overrideLines, overrideFields] using h
  | some value =>
      have hoption : FieldLines 6 [⟨6, .pair false "file_option".toList goPackagePrefix.toList, []⟩]
          [("file_option", plainNode goPackagePrefix.toList)] := Entries.pair
      have hvalue : FieldLines 6 [⟨6, .pair false "value".toList value.toList, []⟩]
          [("value", plainNode value.toList)] := Entries.pair
      exact h.append (Entries.sequence (by decide) (Items.mapping (hoption.append hvalue)))

theorem fieldLines_managed (deps : List String) (goPrefix : Option String) :
    FieldLines 0 (managedLines deps goPrefix) [("managed", managedNode deps goPrefix)] := by
  have henabled : FieldLines 2 [⟨2, .pair false "enabled".toList "true".toList, []⟩]
      [("enabled", plainNode "true".toList)] := Entries.pair
  have hsettings := fieldLines_override (fieldLines_disable henabled deps) goPrefix
  rw [List.append_assoc, List.append_assoc] at hsettings
  exact Entries.mapping (by decide) hsettings

theorem fieldLines_inputs (inputDir : String) (deps : List String) :
    FieldLines 0 (inputLines inputDir deps)
      [("inputs", .sequence .seq (inputNodes inputDir deps))] := by
  have hfirst : Items 2 [⟨2, .pair true "directory".toList inputDir.toList, []⟩]
      [fieldsNode [("directory", plainNode inputDir.toList)]] := Items.mapping Entries.pair
  exact Entries.sequence (by decide) (items_modules hfirst deps)

theorem fieldLines_plugins (outputDir : String) :
    FieldLines 0 (pluginLines outputDir) [("plugins", .sequence .seq [pluginNode outputDir])] := by
  have hlocal : FieldLines 4 [⟨4, .pair false "local".toList esPlugin.toList, []⟩]
      [("local", plainNode esPlugin.toList)] := Entries.pair
  have hout : FieldLines 4 [⟨4, .pair false "out".toList outputDir.toList, []⟩]
      [("out", plainNode outputDir.toList)] := Entries.pair
  have hoptions : Items 6 [⟨6, .item "target=ts".toList, []⟩,
      ⟨6, .item "import_extension=none".toList, []⟩]
      (esPluginOptions.map fun option => plainNode option.toList) :=
    Items.append Items.item Items.item
  have hopt : FieldLines 4 (⟨4, .key false "opt".toList, []⟩ :: _) [("opt", .sequence .seq
      (esPluginOptions.map fun option => plainNode option.toList))] :=
    Entries.sequence (by decide) hoptions
  exact Entries.sequence (by decide) (Items.mapping (hlocal.append (hout.append hopt)))

/-- The template for a directory is read as its fields, whatever is pasted into it. -/
theorem fieldLines_template (outputDir inputDir : String) (deps : List String)
    (goPrefix : Option String) :
    FieldLines 0 (templateLines outputDir inputDir deps goPrefix)
      (templateFields outputDir inputDir deps goPrefix) := by
  have hversion : FieldLines 0 [versionLine] [("version", plainNode currentVersion.toList)] :=
    Entries.pair
  exact hversion.append ((fieldLines_managed deps goPrefix).append
    ((fieldLines_inputs inputDir deps).append (fieldLines_plugins outputDir)))

/-- **The tree of the template** for a directory, if what is pasted into it is plain. -/
theorem ofText?_render_build
    (h : ∀ s ∈ pasted outputDir inputDir deps goPrefix, IsPlainToken s) :
    Node.ofText? (build outputDir inputDir deps goPrefix).render.toList =
      .ok (some (fieldsNode (templateFields outputDir inputDir deps goPrefix))) := by
  have hgo : ∀ value ∈ goPrefix, value ≠ "" := by
    intro value hvalue
    exact (h value (by simp [pasted, Option.mem_def.mp hvalue])).token.1
  rw [toList_render_build hgo]
  exact Yaml.ofText?_linesText (allFit_template fun s hs => (h s hs).isPlain) ⟨rfl, rfl⟩
    (fieldLines_template outputDir inputDir deps goPrefix)

end ConnectClients.GenTemplate
