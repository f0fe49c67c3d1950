import ConnectClients.Proofs.Identifier.Paths
import ConnectClients.Proofs.Text.Lines
import ConnectClients.Proofs.TypesIndex.Groups

/-!
# Lines of the types index

Every name in the index comes from a path and from numbers, so that no line of it has a
newline unless a path has one. What a line binds shows in how it starts: an import, the
opening of a namespace, or a member of one.
-/

namespace ConnectClients.TypesIndex

open Assoc (FirstSeen distinct)
open Text

/-! ## Names without newlines -/

theorem newline_isMark : IsMark '\n' := by decide

theorem newline_not_mem_toString (n : Nat) : '\n' ∉ (toString n).toList :=
  fun h => absurd (isDigit_of_mem_toString h) (by decide)

theorem newline_not_mem_freeName {taken : List String} {name : String}
    (h : '\n' ∉ name.toList) : '\n' ∉ (freeName taken name).toList :=
  not_mem_freeName (by decide) h

theorem newline_not_mem_occurrenceSuffix (b : Builder) (key type : String) :
    '\n' ∉ (b.occurrenceSuffix key type).toList := by
  rw [Builder.occurrenceSuffix]
  split
  · exact List.not_mem_nil
  · exact newline_not_mem_toString _

/-- The names of an entry come from its path and from numbers. -/
theorem newline_not_mem_entryOf (b : Builder) {path : String} (h : '\n' ∉ path.toList) :
    '\n' ∉ (b.entryOf path).exportName.toList ∧ '\n' ∉ (b.entryOf path).aliasName.toList := by
  have htype : '\n' ∉ (Identifier.typeName path).toList :=
    fun hmem => h (Identifier.mem_of_mark_mem_typeName newline_isMark hmem)
  have hkey : '\n' ∉ (Identifier.canonicalCase (Identifier.moduleKey path)).toList := by
    rw [Identifier.canonicalCase, String.toList_ofList]
    intro hmem
    exact h (Identifier.mem_of_mem_moduleKey
      (Identifier.mem_of_mark_mem_canonicalCaseChars newline_isMark hmem))
  have hsuffix := newline_not_mem_occurrenceSuffix b (Identifier.moduleKey path)
    (Identifier.typeName path)
  constructor
  · apply newline_not_mem_freeName
    rw [String.toList_append, List.mem_append, not_or]
    exact ⟨htype, hsuffix⟩
  · have hmark : '\n' ∉ "_".toList := by decide
    apply newline_not_mem_freeName
    simp only [Identifier.importAlias, String.toList_append, List.mem_append, not_or]
    exact ⟨⟨⟨hmark, hkey⟩, htype⟩, hsuffix⟩

theorem exists_entryOf_of_mem {e : TypeEntry} {paths : List String} {b : Builder}
    (he : e ∈ (paths.foldl Builder.add b).entries) :
    e ∈ b.entries ∨ ∃ b' : Builder, ∃ path ∈ paths, e = b'.entryOf path := by
  induction paths generalizing b with
  | nil => exact Or.inl he
  | cons path rest ih =>
      rcases ih he with hb | ⟨b', path', hpath', rfl⟩
      · rcases List.mem_cons.mp ((b.entries_add path).mem_iff.mp hb) with rfl | hb
        · exact Or.inr ⟨b, path, List.mem_cons_self, rfl⟩
        · exact Or.inl hb
      · exact Or.inr ⟨b', path', List.mem_cons_of_mem _ hpath', rfl⟩

variable {paths : List String} {g : NamespaceGroup} {e : TypeEntry}

theorem newline_not_mem_entry (hpaths : ∀ path ∈ paths, '\n' ∉ path.toList)
    (he : e ∈ (group paths).flatMap (·.entries)) :
    '\n' ∉ e.exportName.toList ∧ '\n' ∉ e.aliasName.toList := by
  rw [group_entries] at he
  rcases exists_entryOf_of_mem he with hnone | ⟨b, path, hpath, rfl⟩
  · exact absurd hnone List.not_mem_nil
  · exact newline_not_mem_entryOf b (hpaths path (Assoc.mem_distinct.mp hpath))

theorem namespaceName_eq {taken : List String} {groups : List (String × List TypeEntry)}
    (hg : g ∈ nameGroups taken groups) :
    ∃ taken', g.namespaceName = freeName taken' (namespaceOf g.moduleKey) := by
  induction groups generalizing taken with
  | nil => exact absurd hg List.not_mem_nil
  | cons p rest ih =>
      rw [nameGroups] at hg
      rcases List.mem_cons.mp hg with rfl | hg
      · exact ⟨taken, rfl⟩
      · exact ih hg

theorem newline_not_mem_namespaceName (hpaths : ∀ path ∈ paths, '\n' ∉ path.toList)
    (hg : g ∈ group paths) : '\n' ∉ g.namespaceName.toList := by
  obtain ⟨taken, hname⟩ := namespaceName_eq hg
  obtain ⟨path, hpath, hkey⟩ := List.mem_map.mp
    ((group_keys_firstSeen paths).mem_iff.mp (List.mem_map_of_mem hg))
  rw [hname]
  apply newline_not_mem_freeName
  rw [namespaceOf]
  split
  · decide
  · rw [Identifier.canonicalCase, String.toList_ofList, ← hkey]
    intro hmem
    exact hpaths path hpath (Identifier.mem_of_mem_moduleKey
      (Identifier.mem_of_mark_mem_canonicalCaseChars newline_isMark hmem))

/-! ## The lines of the index -/

/-- What the lines start with that import a module, open a namespace, and export a member. -/
def importLead : String := "import * as "

def openLead : String := "export namespace "

def memberLead : String := "  export import "

def openLine (g : NamespaceGroup) : String := openLead ++ g.namespaceName ++ " \x7b"

/-- Whether a line imports, opens a namespace, or exports a member. -/
def isBinding (line : String) : Bool :=
  isLed importLead line || isLed openLead line || isLed memberLead line

/-- The namespaces in lines: the line that opens one, and the lines up to its closing
brace. -/
def namespacesIn : List String → List (String × List String)
  | [] => []
  | line :: rest =>
    if isLed openLead line then (line, rest.takeWhile (· != "\x7d")) :: namespacesIn rest
    else namespacesIn rest

/-- The lines of a namespace. -/
def groupLines (g : NamespaceGroup) : List String :=
  openLine g :: g.entries.map exportLine ++ ["\x7d"]

/-- The lines of namespaces, with an empty line between each and the next. -/
def namespaceLines : List NamespaceGroup → List String
  | [] => []
  | [g] => groupLines g
  | g :: rest => groupLines g ++ "" :: namespaceLines rest

theorem namespaceLines_cons_cons (g g' : NamespaceGroup) (rest : List NamespaceGroup) :
    namespaceLines (g :: g' :: rest) = groupLines g ++ "" :: namespaceLines (g' :: rest) := rfl

theorem groupLines_ne_nil (g : NamespaceGroup) : groupLines g ≠ [] := List.cons_ne_nil _ _

theorem namespaceLines_ne_nil {groups : List NamespaceGroup} (h : groups ≠ []) :
    namespaceLines groups ≠ [] := by
  match groups with
  | [g] => exact groupLines_ne_nil g
  | g :: g' :: rest => exact List.append_ne_nil_of_left_ne_nil (groupLines_ne_nil g) _

theorem renderGroup_eq (g : NamespaceGroup) : renderGroup g = "\n".intercalate (groupLines g) := rfl

theorem intercalate_renderGroup : ∀ groups : List NamespaceGroup,
    "\n\n".intercalate (groups.map renderGroup) = "\n".intercalate (namespaceLines groups)
  | [] => by simp [namespaceLines]
  | [g] => by simp [namespaceLines, renderGroup_eq]
  | g :: g' :: rest => by
    have hrest := namespaceLines_ne_nil (List.cons_ne_nil g' rest)
    rw [List.map_cons, List.map_cons, String.intercalate_cons_cons, ← List.map_cons,
      intercalate_renderGroup (g' :: rest), namespaceLines_cons_cons,
      String.intercalate_append_of_ne_nil (groupLines_ne_nil g) (List.cons_ne_nil _ _),
      String.intercalate_cons_of_ne_nil hrest, renderGroup_eq]
    have hempty : "\n\n" = "\n" ++ "" ++ "\n" := rfl
    rw [hempty]
    simp only [String.append_assoc]

theorem group_ne_nil (hne : paths ≠ []) : group paths ≠ [] := by
  obtain ⟨path, rest, rfl⟩ := List.exists_cons_of_ne_nil hne
  intro hnil
  have hkey := (group_keys_firstSeen (path :: rest)).mem_iff.mpr
    (List.mem_map_of_mem List.mem_cons_self)
  rw [hnil] at hkey
  exact absurd hkey List.not_mem_nil

theorem render_eq (hne : paths ≠ []) :
    render paths = unlines (header ++ usage ++ [""] ++
      (distinct paths).map (importLine (group paths)) ++ "" :: namespaceLines (group paths)) := by
  have hlines := namespaceLines_ne_nil (group_ne_nil hne)
  rw [render, if_neg (by simpa using hne)]
  simp only [unlines]
  rw [String.intercalate_append_of_ne_nil (by simp [header]) (List.cons_ne_nil _ _),
    String.intercalate_append_of_ne_nil (by simp [header]) (List.cons_ne_nil _ _),
    String.intercalate_cons_of_ne_nil hlines, String.intercalate_cons_of_ne_nil (by simp),
    String.intercalate_singleton, intercalate_renderGroup]

/-! ## What a reader of the lines finds -/

theorem importLine_led (groups : List NamespaceGroup) (path : String) :
    importLine groups path =
      importLead ++ (importedAlias groups path ++ " from '" ++ generatedDir ++ "/" ++ path ++ "'") := by
  simp only [importLine_eq, importLead, String.append_assoc]

theorem openLine_led (g : NamespaceGroup) :
    openLine g = openLead ++ (g.namespaceName ++ " \x7b") := by
  rw [openLine, String.append_assoc]

theorem exportLine_led (e : TypeEntry) :
    exportLine e = memberLead ++ (e.exportName ++ " = " ++ e.aliasName) := by
  unfold exportLine memberLead
  simp only [String.append_assoc]

theorem isBinding_importLine (groups : List NamespaceGroup) (path : String) :
    isBinding (importLine groups path) = true := by
  rw [isBinding, importLine_led, isLed_append, Bool.true_or, Bool.true_or]

theorem isBinding_openLine (g : NamespaceGroup) : isBinding (openLine g) = true := by
  rw [isBinding, openLine_led, isLed_append, Bool.or_true, Bool.true_or]

theorem isBinding_exportLine (e : TypeEntry) : isBinding (exportLine e) = true := by
  rw [isBinding, exportLine_led, isLed_append, Bool.or_true]

theorem isLed_openLead_importLine (groups : List NamespaceGroup) (path : String) :
    isLed openLead (importLine groups path) = false := by
  rw [importLine_led]
  exact isLed_eq_false (by decide) (by decide) _

theorem isLed_openLead_exportLine (e : TypeEntry) : isLed openLead (exportLine e) = false := by
  rw [exportLine_led]
  exact isLed_eq_false (by decide) (by decide) _

theorem exportLine_ne_brace (e : TypeEntry) : exportLine e ≠ "\x7d" := by
  intro h
  have hled := isBinding_exportLine e
  rw [h] at hled
  exact absurd hled (by decide)

theorem filter_groupLines (g : NamespaceGroup) :
    (groupLines g).filter isBinding = openLine g :: g.entries.map exportLine := by
  have hexports : (g.entries.map exportLine).filter isBinding = g.entries.map exportLine := by
    rw [List.filter_eq_self, List.forall_mem_map]
    exact fun e _ => isBinding_exportLine e
  have hbrace : ["\x7d"].filter isBinding = [] := by decide
  rw [groupLines, List.cons_append, List.filter_cons_of_pos (isBinding_openLine g),
    List.filter_append, hexports, hbrace, List.append_nil]

theorem filter_namespaceLines : ∀ groups : List NamespaceGroup,
    (namespaceLines groups).filter isBinding =
      groups.flatMap fun g => openLine g :: g.entries.map exportLine
  | [] => rfl
  | [g] => by rw [namespaceLines, filter_groupLines, List.flatMap_singleton]
  | g :: g' :: rest => by
    have hempty : isBinding "" = false := by decide
    rw [namespaceLines_cons_cons, List.filter_append, filter_groupLines,
      List.filter_cons_of_neg (Bool.not_eq_true _ ▸ hempty), filter_namespaceLines (g' :: rest)]
    rfl

theorem namespacesIn_append {before : List String}
    (h : ∀ line ∈ before, isLed openLead line = false) (after : List String) :
    namespacesIn (before ++ after) = namespacesIn after := by
  induction before with
  | nil => rfl
  | cons line rest ih =>
      have hline := h line List.mem_cons_self
      rw [List.cons_append, namespacesIn, hline, if_neg Bool.false_ne_true]
      exact ih fun l hl => h l (List.mem_cons_of_mem _ hl)

theorem namespacesIn_groupLines (g : NamespaceGroup) (after : List String) :
    namespacesIn (groupLines g ++ after) =
      (openLine g, g.entries.map exportLine) :: namespacesIn after := by
  have hopen : isLed openLead (openLine g) = true := by rw [openLine_led, isLed_append]
  have hstop : (g.entries.map exportLine ++ "\x7d" :: after).takeWhile (· != "\x7d") =
      g.entries.map exportLine := by
    rw [List.takeWhile_append_of_pos, List.takeWhile_cons_of_neg (by simp), List.append_nil]
    intro line hline
    obtain ⟨e, -, rfl⟩ := List.mem_map.mp hline
    exact bne_iff_ne.mpr (exportLine_ne_brace e)
  have hinner : ∀ line ∈ g.entries.map exportLine ++ ["\x7d"], isLed openLead line = false := by
    intro line hline
    rcases List.mem_append.mp hline with hline | hline
    · obtain ⟨e, -, rfl⟩ := List.mem_map.mp hline
      exact isLed_openLead_exportLine e
    · rw [List.mem_singleton.mp hline]
      decide
  rw [groupLines, List.cons_append, List.cons_append, namespacesIn, if_pos hopen,
    namespacesIn_append hinner, List.append_assoc, List.singleton_append, hstop]

theorem namespacesIn_namespaceLines : ∀ groups : List NamespaceGroup,
    namespacesIn (namespaceLines groups ++ [""]) =
      groups.map fun g => (openLine g, g.entries.map exportLine)
  | [] => by decide
  | [g] => by
    rw [namespaceLines, namespacesIn_groupLines, List.map_singleton]
    rfl
  | g :: g' :: rest => by
    have hempty : ∀ line ∈ [""], isLed openLead line = false := by decide
    rw [namespaceLines_cons_cons, List.append_assoc, namespacesIn_groupLines, List.map_cons,
      ← namespacesIn_namespaceLines (g' :: rest)]
    exact congrArg _ (namespacesIn_append hempty _)

end ConnectClients.TypesIndex
