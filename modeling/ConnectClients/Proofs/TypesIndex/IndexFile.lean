import ConnectClients.Proofs.TypesIndex.Lines

/-!
# The types index as a whole

The groups and the lines of the index are about the same paths. Every path is imported by one
line, under the alias of its entry, and exported by one line, in the block of its group.
-/

namespace ConnectClients.TypesIndex

open Assoc (FirstSeen distinct)
open Text

variable {paths : List String} {g : NamespaceGroup} {e : TypeEntry}

/-! ## Its lines -/

/-- The lines before those that import. -/
def fixedLines : List String := header ++ usage ++ [""]

theorem fixedLines_plain : ∀ line ∈ fixedLines, isBinding line = false ∧ '\n' ∉ line.toList := by
  decide +kernel

theorem isLed_openLead_of_not_isBinding {line : String} (h : isBinding line = false) :
    isLed openLead line = false := by
  rw [isBinding, Bool.or_eq_false_iff, Bool.or_eq_false_iff] at h
  exact h.1.2

/-- The lines of the index of some paths. -/
def indexLines (paths : List String) : List String :=
  fixedLines ++ ((distinct paths).map (importLine (group paths)) ++
    "" :: namespaceLines (group paths))

theorem newline_not_mem_namespaceLines {groups : List NamespaceGroup}
    (h : ∀ g ∈ groups, ∀ line ∈ groupLines g, '\n' ∉ line.toList) :
    ∀ line ∈ namespaceLines groups, '\n' ∉ line.toList := by
  match groups with
  | [] => exact fun line hline => absurd hline List.not_mem_nil
  | [g] => exact h g List.mem_cons_self
  | g :: g' :: rest =>
    intro line hline
    rw [namespaceLines_cons_cons, List.mem_append, List.mem_cons] at hline
    rcases hline with hline | rfl | hline
    · exact h g List.mem_cons_self line hline
    · exact List.not_mem_nil
    · exact newline_not_mem_namespaceLines
        (fun g'' hg'' => h g'' (List.mem_cons_of_mem _ hg'')) line hline

theorem mem_entries {paths : List String} {g : NamespaceGroup} {e : TypeEntry}
    (hg : g ∈ group paths) (he : e ∈ g.entries) : e ∈ (group paths).flatMap (·.entries) :=
  List.mem_flatMap.mpr ⟨g, hg, he⟩

/-- A path is imported under the alias of its entry. -/
theorem importedAlias_of_mem_group (hg : g ∈ group paths) (he : e ∈ g.entries) :
    importedAlias (group paths) e.filePath = e.aliasName :=
  importedAlias_of_mem ((group_paths_perm paths).nodup_iff.mpr (Assoc.distinct_nodup paths))
    (mem_entries hg he)

theorem newline_not_mem_importLine (hpaths : ∀ path ∈ paths, '\n' ∉ path.toList) {path : String}
    (hpath : path ∈ distinct paths) :
    '\n' ∉ (importLine (group paths) path).toList := by
  obtain ⟨e, he, halias⟩ := List.mem_map.mp
    ((importedAliases_perm paths).mem_iff.mp (List.mem_map_of_mem hpath))
  have hname : '\n' ∉ (importedAlias (group paths) path).toList := by
    rw [← halias]
    exact (newline_not_mem_entry hpaths he).2
  have hlead : '\n' ∉ "import * as ".toList := by decide
  have hfrom : '\n' ∉ " from '".toList := by decide
  have hdir : '\n' ∉ generatedDir.toList := by decide
  have hslash : '\n' ∉ "/".toList := by decide
  have hquote : '\n' ∉ "'".toList := by decide
  rw [importLine_eq]
  simp only [String.toList_append, List.mem_append, not_or]
  exact ⟨⟨⟨⟨⟨⟨hlead, hname⟩, hfrom⟩, hdir⟩, hslash⟩, hpaths path (Assoc.mem_distinct.mp hpath)⟩, hquote⟩

theorem newline_not_mem_groupLines (hpaths : ∀ path ∈ paths, '\n' ∉ path.toList)
    (hg : g ∈ group paths) : ∀ line ∈ groupLines g, '\n' ∉ line.toList := by
  intro line hline
  rw [groupLines, List.cons_append, List.mem_cons, List.mem_append, List.mem_singleton] at hline
  rcases hline with rfl | hline | rfl
  · have hlead : '\n' ∉ openLead.toList := by decide
    have hbrace : '\n' ∉ " \x7b".toList := by decide
    rw [openLine, String.toList_append, String.toList_append]
    simp only [List.mem_append, not_or]
    exact ⟨⟨hlead, newline_not_mem_namespaceName hpaths hg⟩, hbrace⟩
  · obtain ⟨e, he, rfl⟩ := List.mem_map.mp hline
    obtain ⟨hexport, halias⟩ := newline_not_mem_entry hpaths (mem_entries hg he)
    have hlead : '\n' ∉ memberLead.toList := by decide
    have hequals : '\n' ∉ " = ".toList := by decide
    rw [exportLine_led]
    simp only [String.toList_append, List.mem_append, not_or]
    exact ⟨hlead, ⟨hexport, hequals⟩, halias⟩
  · decide

/-- The index is made of its lines, each without a newline. -/
theorem textLines_render (hne : paths ≠ []) (hpaths : ∀ path ∈ paths, '\n' ∉ path.toList) :
    textLines (render paths) = indexLines paths ++ [""] := by
  have hrender : render paths = unlines (indexLines paths) := by
    rw [render_eq hne, indexLines, fixedLines]
    simp only [List.append_assoc]
  rw [hrender]
  refine textLines_unlines (by simp [indexLines, fixedLines, header]) ?_
  intro line hline
  rw [indexLines, List.mem_append, List.mem_append, List.mem_cons] at hline
  rcases hline with hline | hline | rfl | hline
  · exact (fixedLines_plain line hline).2
  · obtain ⟨path, hpath, rfl⟩ := List.mem_map.mp hline
    exact newline_not_mem_importLine hpaths hpath
  · exact List.not_mem_nil
  · exact newline_not_mem_namespaceLines (fun g hg => newline_not_mem_groupLines hpaths hg) line hline

theorem filter_indexLines (paths : List String) :
    (indexLines paths ++ [""]).filter isBinding =
      (distinct paths).map (importLine (group paths)) ++
        (group paths).flatMap fun g => openLine g :: g.entries.map exportLine := by
  have hfixed : fixedLines.filter isBinding = [] := by
    rw [List.filter_eq_nil_iff]
    exact fun line hline => Bool.not_eq_true _ ▸ (fixedLines_plain line hline).1
  have himports : ((distinct paths).map (importLine (group paths))).filter isBinding =
      (distinct paths).map (importLine (group paths)) := by
    rw [List.filter_eq_self, List.forall_mem_map]
    exact fun path _ => isBinding_importLine _ path
  have hempty : ¬ isBinding "" = true := by decide
  have hlast : [""].filter isBinding = [] := by decide
  rw [indexLines, List.filter_append, List.filter_append, List.filter_append, hfixed, himports,
    List.filter_cons_of_neg hempty, filter_namespaceLines, hlast, List.append_nil, List.nil_append]

theorem namespacesIn_indexLines (paths : List String) :
    namespacesIn (indexLines paths ++ [""]) =
      (group paths).map fun g => (openLine g, g.entries.map exportLine) := by
  have hfixed : ∀ line ∈ fixedLines, isLed openLead line = false :=
    fun line hline => isLed_openLead_of_not_isBinding (fixedLines_plain line hline).1
  have himports : ∀ line ∈ (distinct paths).map (importLine (group paths)) ++ [""],
      isLed openLead line = false := by
    intro line hline
    rcases List.mem_append.mp hline with hline | hline
    · obtain ⟨path, -, rfl⟩ := List.mem_map.mp hline
      exact isLed_openLead_importLine _ path
    · rw [List.mem_singleton.mp hline]
      decide
  have hlines : indexLines paths ++ [""] =
      fixedLines ++ (((distinct paths).map (importLine (group paths)) ++ [""]) ++
        (namespaceLines (group paths) ++ [""])) := by
    simp [indexLines]
  rw [hlines, namespacesIn_append hfixed, namespacesIn_append himports, namespacesIn_namespaceLines]

/-- Groups of paths by their module keys. Groups and the entries in them stand in the order in
which their keys and paths are first seen, and every path has one entry in all. -/
structure GroupsByKey (paths : List String) (groups : List NamespaceGroup) : Prop where
  keys : FirstSeen (paths.map Identifier.moduleKey) (groups.map (·.moduleKey))
  entries : ∀ g ∈ groups, FirstSeen
    (paths.filter fun path => Identifier.moduleKey path == g.moduleKey)
    (g.entries.map (·.filePath))
  entryKeys : ∀ g ∈ groups, ∀ e ∈ g.entries,
    e.moduleKey = g.moduleKey ∧ Identifier.moduleKey e.filePath = g.moduleKey
  once : ((groups.flatMap (·.entries)).map (·.filePath)).Perm (distinct paths)

/-- A text whose lines import every path once and have a namespace for each group. What its
imports bind is what the namespaces export, each alias once. -/
structure BindsGroups (paths : List String) (groups : List NamespaceGroup) (text : String) :
    Prop where
  bindings : (textLines text).filter isBinding =
    (distinct paths).map (fun path =>
      importLead ++ importedAlias groups path ++ " from '" ++ generatedDir ++ "/" ++ path ++ "'") ++
    groups.flatMap fun g => openLine g :: g.entries.map exportLine
  namespaces : namespacesIn (textLines text) =
    groups.map fun g => (openLine g, g.entries.map exportLine)
  aliases_nodup : ((distinct paths).map (importedAlias groups)).Nodup
  exported : ((groups.flatMap (·.entries)).map (·.aliasName)).Perm
    ((distinct paths).map (importedAlias groups))
  wired : ∀ e ∈ groups.flatMap (·.entries), importedAlias groups e.filePath = e.aliasName

theorem group_groupsByKey (paths : List String) : GroupsByKey paths (group paths) where
  keys := group_keys_firstSeen paths
  entries := fun _ hg => group_entries_firstSeen hg
  entryKeys := fun _ hg _ he => moduleKey_of_mem_group hg he
  once := group_paths_perm paths

/-- **The index covers its paths.** The groups split the distinct paths by their module keys in
the order of first appearance, and the lines of the index import each path once and export what
it is imported as once, from the namespace of its group. -/
theorem index_covers_paths (paths : List String) (hne : paths ≠ []) :
    FirstSeen paths (distinct paths) ∧ GroupsByKey paths (group paths) ∧
      ((∀ path ∈ paths, '\n' ∉ path.toList) → BindsGroups paths (group paths) (render paths)) := by
  refine ⟨Assoc.distinct_firstSeen paths, group_groupsByKey paths, fun hpaths => ?_⟩
  have hexported := (importedAliases_perm paths).symm
  exact
    { bindings := by
        rw [textLines_render hne hpaths, filter_indexLines]
        rfl
      namespaces := by rw [textLines_render hne hpaths, namespacesIn_indexLines]
      aliases_nodup := hexported.nodup_iff.mp (group_aliases_nodup paths)
      exported := hexported
      wired := by
        intro e he
        obtain ⟨g, hg, heg⟩ := List.mem_flatMap.mp he
        exact importedAlias_of_mem_group hg heg }

/-- Two modules of one key with a module of another between them, and one of them twice. -/
def interleavedPaths : List String :=
  ["shop/v1/order_pb", "user/v1/user_pb", "shop/v1/item_pb", "shop/v1/order_pb"]

theorem index_covers_interleavedPaths :
    interleavedPaths ≠ [] ∧ (∀ path ∈ interleavedPaths, '\n' ∉ path.toList) ∧
      BindsGroups interleavedPaths (group interleavedPaths) (render interleavedPaths) ∧
      (group interleavedPaths).map (fun g => (g.moduleKey, g.entries.map (·.filePath))) =
        [("shop", ["shop/v1/order_pb", "shop/v1/item_pb"]), ("user", ["user/v1/user_pb"])] := by
  have hne : interleavedPaths ≠ [] := List.cons_ne_nil _ _
  have hlines : ∀ path ∈ interleavedPaths, '\n' ∉ path.toList := by decide
  exact ⟨hne, hlines, (index_covers_paths interleavedPaths hne).2.2 hlines, by decide +kernel⟩

end ConnectClients.TypesIndex
