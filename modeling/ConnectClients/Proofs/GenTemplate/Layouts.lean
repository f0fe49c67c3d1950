import ConnectClients.Proofs.GenTemplate.Managed
import ConnectClients.Proofs.GenTemplate.Inputs
import ConnectClients.Proofs.GenTemplate.Plugins

/-!
# Templates in any layout

A template may be written with the items of its lists indented from their keys or flush with them,
with or without the comment of a plugin, and with any number of empty lines between its sections. A
template is legible if no list in it is empty, no value has blanks, and directories and modules do
not contain each other's keys. It is read back from its text in every layout, section by section,
with its inputs sorted: the directories come first.
-/

namespace ConnectClients.GenTemplate

open Text

/-- A template that can be read back up to the order of its inputs. -/
structure IsLegible (t : GenTemplate) : Prop where
  version : ∀ v ∈ t.version, IsToken v
  managed : ∀ managed ∈ t.managed, managed.IsTidy
  inputs : ∀ inputs ∈ t.inputs, inputs ≠ [] ∧ ∀ input ∈ inputs, input.IsTidy
  plugins : ∀ plugins ∈ t.plugins, plugins ≠ [] ∧ ∀ plugin ∈ plugins, plugin.IsTidy

/-- The template with its directories before its modules. -/
def directoriesFirst (t : GenTemplate) : GenTemplate :=
  { t with inputs := t.inputs.map TemplateInput.directoriesFirst }

/-! ## Layouts -/

/-- How a template is laid out. -/
structure Layout where
  /-- What stands before the dash of an item, beyond the indentation of its key. -/
  indent : String
  blank : IsIndent indent.toList
  /-- Whether the plugin that generates the modules has its comment. -/
  notes : Bool
  /-- The number of empty lines between two sections. -/
  gap : Nat

/-- The layout in which templates are printed. -/
def Layout.printed : Layout := ⟨"  ", isIndent_twoBlanks, true, 1⟩

/-- The layout with the items of a list flush with its key. -/
def Layout.compact : Layout := ⟨"", List.forall_mem_nil _, false, 0⟩

section sections

variable (layout : Layout) (t : GenTemplate)

def versionRows : List (List String) :=
  t.version.toList.map fun v => ["version: " ++ v]

def managedRows : List (List String) :=
  t.managed.toList.map fun managed => "managed:" :: managed.bodyLines layout.indent

def inputRows : List (List String) :=
  match t.inputs with
  | none | some [] => []
  | some inputs => ["inputs:" :: inputs.flatMap (TemplateInput.linesIn layout.indent)]

def pluginRows : List (List String) :=
  match t.plugins with
  | none | some [] => []
  | some plugins => ["plugins:" :: plugins.flatMap (Plugin.linesIn layout.indent layout.notes)]

/-- The sections of a template in a layout. -/
def sectionsIn : List (List String) :=
  t.versionRows ++ (managedRows layout t ++ (inputRows layout t ++ pluginRows layout t))

/-- The text of a template in a layout. -/
def textIn : String := sectionsText layout.gap (sectionsIn layout t)

end sections

theorem sections_eq (t : GenTemplate) : t.sections = sectionsIn .printed t := by
  rw [sections, sectionsIn, managedRows, inputRows, pluginRows, Layout.printed,
    ← funext Managed.lines_eq, ← funext TemplateInput.lines_eq, ← funext Plugin.lines_eq,
    List.append_assoc, List.append_assoc]
  rfl

theorem render_eq (t : GenTemplate) : t.render = textIn .printed t := by
  rw [render, textIn, ← sections_eq]
  rfl

variable {layout : Layout} {t : GenTemplate} {lines : List String}

theorem mem_versionRows (h : lines ∈ t.versionRows) :
    ∃ v ∈ t.version, lines = ["version: " ++ v] := by
  obtain ⟨v, hv, rfl⟩ := List.mem_map.mp h
  exact ⟨v, Option.mem_toList.mp hv, rfl⟩

theorem mem_managedRows (h : lines ∈ managedRows layout t) :
    ∃ managed ∈ t.managed, lines = "managed:" :: managed.bodyLines layout.indent := by
  obtain ⟨managed, hmanaged, rfl⟩ := List.mem_map.mp h
  exact ⟨managed, Option.mem_toList.mp hmanaged, rfl⟩

theorem mem_inputRows (h : lines ∈ inputRows layout t) : ∃ inputs ∈ t.inputs,
    lines = "inputs:" :: inputs.flatMap (TemplateInput.linesIn layout.indent) := by
  rw [inputRows] at h
  split at h
  · exact absurd h List.not_mem_nil
  · exact absurd h List.not_mem_nil
  · rename_i inputs _ hinputs
    exact ⟨inputs, hinputs, List.mem_singleton.mp h⟩

theorem mem_pluginRows (h : lines ∈ pluginRows layout t) : ∃ plugins ∈ t.plugins,
    lines = "plugins:" :: plugins.flatMap (Plugin.linesIn layout.indent layout.notes) := by
  rw [pluginRows] at h
  split at h
  · exact absurd h List.not_mem_nil
  · exact absurd h List.not_mem_nil
  · rename_i plugins _ hplugins
    exact ⟨plugins, hplugins, List.mem_singleton.mp h⟩

theorem isSection_version (h : lines ∈ t.versionRows) : IsSection "version" lines := by
  obtain ⟨v, -, rfl⟩ := mem_versionRows h
  have hhead : "version: " = "version" ++ ":" ++ " " := by decide
  exact ⟨by decide, " " ++ v, [], by rw [hhead, String.append_assoc], by simp⟩

theorem isSection_managed (h : lines ∈ managedRows layout t) : IsSection "managed" lines := by
  obtain ⟨managed, -, rfl⟩ := mem_managedRows h
  exact ⟨by decide, "", _, rfl, fun line => Managed.inBlock_of_mem⟩

theorem isSection_inputs (h : lines ∈ inputRows layout t) : IsSection "inputs" lines := by
  obtain ⟨inputs, -, rfl⟩ := mem_inputRows h
  refine ⟨by decide, "", _, rfl, ?_⟩
  intro line hline
  obtain ⟨input, -, hline⟩ := List.mem_flatMap.mp hline
  exact TemplateInput.inBlock_of_mem_linesIn layout.blank hline

theorem isSection_plugins (h : lines ∈ pluginRows layout t) : IsSection "plugins" lines := by
  obtain ⟨plugins, -, rfl⟩ := mem_pluginRows h
  refine ⟨by decide, "", _, rfl, ?_⟩
  intro line hline
  obtain ⟨plugin, -, hline⟩ := List.mem_flatMap.mp hline
  exact Plugin.inBlock_of_mem_linesIn layout.blank hline

theorem others_version {key : String} (h : key ≠ "version") : Others key t.versionRows :=
  fun _ hlines => ⟨_, h, isSection_version hlines⟩

theorem others_managed {key : String} (h : key ≠ "managed") : Others key (managedRows layout t) :=
  fun _ hlines => ⟨_, h, isSection_managed hlines⟩

theorem others_inputs {key : String}
    (h : key ≠ "inputs") : Others key (inputRows layout t) :=
  fun _ hlines => ⟨_, h, isSection_inputs hlines⟩

theorem others_plugins {key : String}
    (h : key ≠ "plugins") : Others key (pluginRows layout t) :=
  fun _ hlines => ⟨_, h, isSection_plugins hlines⟩

theorem ne_nil_of_mem_sectionsIn (h : lines ∈ sectionsIn layout t) : lines ≠ [] := by
  rcases List.mem_append.mp h with h | h
  · obtain ⟨v, -, rfl⟩ := mem_versionRows h
    exact List.cons_ne_nil _ _
  rcases List.mem_append.mp h with h | h
  · obtain ⟨managed, -, rfl⟩ := mem_managedRows h
    exact List.cons_ne_nil _ _
  rcases List.mem_append.mp h with h | h
  · obtain ⟨inputs, -, rfl⟩ := mem_inputRows h
    exact List.cons_ne_nil _ _
  · obtain ⟨plugins, -, rfl⟩ := mem_pluginRows h
    exact List.cons_ne_nil _ _

theorem IsLegible.newline_not_mem (h : t.IsLegible)
    (hlines : lines ∈ sectionsIn layout t) : ∀ line ∈ lines, '\n' ∉ line.toList := by
  intro line hline
  rcases List.mem_append.mp hlines with hlines | hlines
  · obtain ⟨v, hv, rfl⟩ := mem_versionRows hlines
    rw [List.mem_singleton.mp hline]
    simp [(h.version v hv).newline_not_mem]
  rcases List.mem_append.mp hlines with hlines | hlines
  · obtain ⟨managed, hmanaged, rfl⟩ := mem_managedRows hlines
    rcases List.mem_cons.mp hline with rfl | hline
    · decide
    · exact (h.managed managed hmanaged).newline_not_mem layout.blank line hline
  rcases List.mem_append.mp hlines with hlines | hlines
  · obtain ⟨inputs, hinputs, rfl⟩ := mem_inputRows hlines
    rcases List.mem_cons.mp hline with rfl | hline
    · decide
    · obtain ⟨input, hinput, hline⟩ := List.mem_flatMap.mp hline
      exact ((h.inputs inputs hinputs).2 input hinput).newline_not_mem layout.blank line hline
  · obtain ⟨plugins, hplugins, rfl⟩ := mem_pluginRows hlines
    rcases List.mem_cons.mp hline with rfl | hline
    · decide
    · obtain ⟨plugin, hplugin, hline⟩ := List.mem_flatMap.mp hline
      exact ((h.plugins plugins hplugins).2 plugin hplugin).newline_not_mem layout.blank line hline

/-! ## Each section read back -/

/-- The lines of a template, with the empty ones before each section. -/
def linesIn (layout : Layout) (t : GenTemplate) : List (List Char) :=
  (spaced layout.gap (sectionsIn layout t)).map closed

theorem readVersion_eq (h : t.IsLegible) :
    (linesIn layout t).findSome? (valueAtStart? "version:") = t.version := by
  rw [linesIn, sectionsIn, versionRows]
  cases hversion : t.version with
  | none =>
      have hothers : Others "version"
          (managedRows layout t ++ (inputRows layout t ++ pluginRows layout t)) :=
        (others_managed (by decide)).append
          ((others_inputs (by decide)).append (others_plugins (by decide)))
      rw [Option.toList_none, List.map_nil, List.nil_append]
      apply List.findSome?_eq_none_iff.mpr
      intro line hline
      have hopens := spaced_opens (by decide) hothers line hline
      exact valueAtStart?_eq_none (opens_false_iff.mp hopens)
  | some v =>
      have hhead : "version: " = "version:" ++ " " := by decide
      have hgap : (List.replicate layout.gap ['\n']).findSome?
          (valueAtStart? "version:") = none := by
        apply List.findSome?_eq_none_iff.mpr
        intro line hline
        rw [List.eq_of_mem_replicate hline]
        decide
      have hvalue := valueAtStart?_eq "version:" (h.version v hversion)
      rw [Option.toList_some, List.map_singleton, List.singleton_append, spaced, List.flatMap_cons,
        List.map_append, List.map_append, List.map_replicate, List.append_assoc, hhead]
      show (List.replicate layout.gap ['\n'] ++ (closed ("version:" ++ " " ++ v) ::
        _)).findSome? _ = _
      rw [List.findSome?_append, hgap, Option.none_or, List.findSome?_cons, hvalue]

theorem readManaged_section (h : t.IsLegible) :
    (section? "managed" (linesIn layout t)).map readManaged = t.managed := by
  have hbefore : Others "managed" t.versionRows := others_version (by decide)
  have hbehind : Others "managed" (inputRows layout t ++ pluginRows layout t) :=
    (others_inputs (by decide)).append (others_plugins (by decide))
  rw [linesIn, sectionsIn, managedRows]
  cases hmanaged : t.managed with
  | none =>
      have hnone := @section?_eq_none layout.gap _ (by decide) _ (hbefore.append hbehind)
      rw [Option.toList_none, List.map_nil, List.nil_append, hnone, Option.map_none]
  | some managed =>
      have hopens : opens false "managed" (closed "managed:") = true := by decide
      have hbody : ∀ line ∈ managed.bodyLines layout.indent, inBlock [] (closed line) = true :=
        fun line => Managed.inBlock_of_mem
      obtain ⟨rest, hrest, hblock⟩ :=
        @section?_eq_some layout.gap _ _ _ _ _ (by decide) hbefore hbehind hopens hbody
      rw [Option.toList_some, List.map_singleton, List.singleton_append, hblock,
        Option.map_some, readManaged_eq layout.blank (h.managed managed hmanaged) hrest]

theorem readInputs_section (h : t.IsLegible) :
    (section? "inputs" (linesIn layout t)).map readInputs = t.directoriesFirst.inputs := by
  have hbefore : Others "inputs" (t.versionRows ++ managedRows layout t) :=
    (others_version (by decide)).append (others_managed (by decide))
  have hbehind : Others "inputs" (pluginRows layout t) := others_plugins (by decide)
  rw [linesIn, sectionsIn, ← List.append_assoc, inputRows, directoriesFirst]
  dsimp only
  cases hinputs : t.inputs with
  | none =>
      rw [List.nil_append, @section?_eq_none layout.gap _ (by decide) _ (hbefore.append hbehind)]
      rfl
  | some inputs =>
      obtain ⟨hne, htidy⟩ := h.inputs inputs hinputs
      cases inputs with
      | nil => exact absurd rfl hne
      | cons input rest =>
          have hopens : opens false "inputs" (closed "inputs:") = true := by decide
          have hbody : ∀ line ∈ (input :: rest).flatMap (TemplateInput.linesIn layout.indent),
              inBlock [] (closed line) = true := by
            intro line hline
            obtain ⟨i, -, hline⟩ := List.mem_flatMap.mp hline
            exact TemplateInput.inBlock_of_mem_linesIn layout.blank hline
          obtain ⟨gap, hgap, hblock⟩ :=
            @section?_eq_some layout.gap _ _ _ _ _ (by decide) hbefore hbehind hopens hbody
          rw [List.singleton_append, hblock, Option.map_some, readInputs_eq layout.blank htidy hgap,
            Option.map_some]

theorem readPlugins_section (h : t.IsLegible) :
    (section? "plugins" (linesIn layout t)).map readPlugins = t.plugins := by
  have hbefore : Others "plugins"
      (t.versionRows ++ (managedRows layout t ++ inputRows layout t)) :=
    (others_version (by decide)).append
      ((others_managed (by decide)).append (others_inputs (by decide)))
  have hbehind : Others "plugins" [] := fun _ hlines => absurd hlines List.not_mem_nil
  rw [linesIn, sectionsIn, ← List.append_assoc (managedRows layout t), ← List.append_assoc,
    pluginRows]
  cases hplugins : t.plugins with
  | none =>
      rw [@section?_eq_none layout.gap _ (by decide) _ (hbefore.append hbehind), Option.map_none]
  | some plugins =>
      obtain ⟨hne, htidy⟩ := h.plugins plugins hplugins
      cases plugins with
      | nil => exact absurd rfl hne
      | cons plugin rest =>
          have hopens : opens false "plugins" (closed "plugins:") = true := by decide
          have hbody : ∀ line ∈
              (plugin :: rest).flatMap (Plugin.linesIn layout.indent layout.notes),
              inBlock [] (closed line) = true := by
            intro line hline
            obtain ⟨p, -, hline⟩ := List.mem_flatMap.mp hline
            exact Plugin.inBlock_of_mem_linesIn layout.blank hline
          obtain ⟨gap, hgap, hblock⟩ :=
            @section?_eq_some layout.gap _ _ _ _ _ (by decide) hbefore hbehind hopens hbody
          rw [hblock, Option.map_some, readPlugins_eq layout.blank hne htidy hgap]

/-- A legible template is read back from its text in every layout, with its directories first. -/
theorem read_textIn (h : t.IsLegible) :
    read (textIn layout t) = t.directoriesFirst := by
  have hread : read (textIn layout t) = readLines (linesIn layout t) :=
    read_sectionsText (fun _ hlines => ne_nil_of_mem_sectionsIn hlines)
      fun _ hlines => h.newline_not_mem hlines
  rw [hread, readLines, readVersion_eq h, readManaged_section h,
    readInputs_section h, readPlugins_section h]
  rfl

end ConnectClients.GenTemplate
