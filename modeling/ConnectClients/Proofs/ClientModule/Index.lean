import ConnectClients.Proofs.ClientModule.Names
import ConnectClients.Proofs.Text.Lines

/-!
# The services index

The index has one line for each client that exports it, in the order of the clients. No
other line of it is of that kind.
-/

namespace ConnectClients

open Text

namespace ClientModule

/-- What a line that exports a client starts with. -/
def exportLead : List Char := "export \x7b ".toList

/-- The lines of a text that export clients. -/
def exportsOf (text : String) : List (List Char) :=
  (splitOn '\n' text.toList).filter exportLead.isPrefixOf

theorem exportLine_lead (entry : ClientEntry) :
    exportLead.isPrefixOf (exportLine entry).toList = true := by
  unfold exportLine
  rw [List.isPrefixOf_iff_prefix]
  simp only [String.append_assoc, String.toList_append]
  exact List.prefix_append _ _

theorem newline_not_mem_exportLine {serviceName : String}
    (h : ∀ c ∈ serviceName.toList, isWord c = true) :
    '\n' ∉ (exportLine (ClientEntry.ofService serviceName)).toList := by
  have hcamel : '\n' ∉ (ClientEntry.ofService serviceName).camelName.toList :=
    ClientEntry.mark_not_mem_camelName h (by decide) (by decide)
  have hname : '\n' ∉ (ClientEntry.ofService serviceName).name.toList := by
    intro hmem
    exact absurd (h _ (Identifier.mem_of_mem_clientName hmem)) (by decide)
  have hlead : '\n' ∉ "export \x7b ".toList := by decide
  have htype : '\n' ∉ "Client, type ".toList := by decide
  have hfrom : '\n' ∉ "Client \x7d from './".toList := by decide
  have hending : '\n' ∉ ".client'".toList := by decide
  unfold exportLine
  simp only [String.toList_append, List.mem_append, not_or]
  exact ⟨⟨⟨⟨⟨⟨hlead, hcamel⟩, htype⟩, hname⟩, hfrom⟩, hcamel⟩, hending⟩

/-- The lines of the index before those of the clients. -/
def indexHead (entries : List ClientEntry) (moduleName : Option String) : List String :=
  ["// Services Index - Auto-generated exports", doNotEdit] ++
    (match moduleName with
      | some name => if name.isEmpty then [] else ["// Module: " ++ name]
      | none => []) ++ [""] ++ (if entries.isEmpty then ["export \x7b\x7d"] else [])

def indexTail : List String :=
  ["",
   "// Export types namespace for IDE auto-completion",
   "// Usage: pimService.types.ProductFilter, pimService.types.Product, etc.",
   "export * as types from '../types'"]

variable {entries : List ClientEntry} {moduleName : Option String}

theorem renderIndex_eq (entries : List ClientEntry) (moduleName : Option String) :
    renderIndex entries moduleName =
      unlines (indexHead entries moduleName ++ entries.map exportLine ++ indexTail) := by
  unfold renderIndex indexHead
  cases moduleName <;> cases entries <;> simp [indexTail]

/-- The lines around those of the clients that are the same in every index. -/
def fixedLines : List String :=
  ["// Services Index - Auto-generated exports", doNotEdit, "export \x7b\x7d"] ++ indexTail

/-- What stands around the lines of the clients. -/
theorem mem_around {line : String} (h : line ∈ indexHead entries moduleName ∨ line ∈ indexTail) :
    line ∈ fixedLines ∨ ∃ name ∈ moduleName, line = "// Module: " ++ name := by
  rcases h with h | h
  · unfold indexHead at h
    simp only [List.mem_append] at h
    rcases h with ((h | h) | h) | h
    · rcases List.mem_pair.mp h with rfl | rfl <;> simp [fixedLines]
    · cases moduleName with
      | none => exact absurd h List.not_mem_nil
      | some name =>
          simp only at h
          split at h
          · exact absurd h List.not_mem_nil
          · exact Or.inr ⟨name, rfl, List.mem_singleton.mp h⟩
    · simp [List.mem_singleton.mp h, fixedLines, indexTail]
    · split at h
      · simp [List.mem_singleton.mp h, fixedLines]
      · exact absurd h List.not_mem_nil
  · exact Or.inl (List.mem_append_right _ h)

theorem fixedLines_plain : ∀ line ∈ fixedLines,
    exportLead.isPrefixOf line.toList = false ∧ '\n' ∉ line.toList := by decide +kernel

theorem not_export_around (entries : List ClientEntry) (moduleName : Option String) {line : String}
    (h : line ∈ indexHead entries moduleName ∨ line ∈ indexTail) :
    exportLead.isPrefixOf line.toList = false := by
  rcases mem_around h with h | ⟨name, -, rfl⟩
  · exact (fixedLines_plain line h).1
  · have hslash : "// Module: ".toList = '/' :: "/ Module: ".toList := by decide
    have hlead : exportLead = 'e' :: "xport \x7b ".toList := by decide
    rw [String.toList_append, hslash, hlead, List.cons_append, List.isPrefixOf_cons_cons]
    rfl

theorem newline_not_mem_around (entries : List ClientEntry)
    (hmodule : ∀ name ∈ moduleName, '\n' ∉ name.toList) {line : String}
    (h : line ∈ indexHead entries moduleName ∨ line ∈ indexTail) : '\n' ∉ line.toList := by
  rcases mem_around h with h | ⟨name, hname, rfl⟩
  · exact (fixedLines_plain line h).2
  · have hmark : '\n' ∉ "// Module: ".toList := by decide
    rw [String.toList_append, List.mem_append, not_or]
    exact ⟨hmark, hmodule name hname⟩

theorem filter_exports_eq_nil {lines : List String}
    (h : ∀ line ∈ lines, exportLead.isPrefixOf line.toList = false) :
    (lines.map String.toList).filter exportLead.isPrefixOf = [] := by
  rw [List.filter_eq_nil_iff]
  intro cs hcs
  obtain ⟨line, hline, rfl⟩ := List.mem_map.mp hcs
  rw [h line hline]
  exact Bool.false_ne_true

theorem filter_exports_eq_self (entries : List ClientEntry) :
    ((entries.map exportLine).map String.toList).filter exportLead.isPrefixOf =
      (entries.map exportLine).map String.toList := by
  rw [List.filter_eq_self]
  intro cs hcs
  obtain ⟨line, hline, rfl⟩ := List.mem_map.mp hcs
  obtain ⟨entry, -, rfl⟩ := List.mem_map.mp hline
  exact exportLine_lead entry

/-- The index exports the clients in their order, and nothing else that is a client. A
name of a module that has a newline could bring in lines of its own. -/
theorem exportsOf_renderIndex
    (hentries : ∀ entry ∈ entries, '\n' ∉ (exportLine entry).toList)
    (hmodule : ∀ name ∈ moduleName, '\n' ∉ name.toList) :
    exportsOf (renderIndex entries moduleName) =
      (entries.map exportLine).map String.toList := by
  have hlines : ∀ line ∈ indexHead entries moduleName ++ entries.map exportLine ++ indexTail,
      '\n' ∉ line.toList := by
    intro line hline
    rw [List.mem_append, List.mem_append] at hline
    rcases hline with (hline | hline) | hline
    · exact newline_not_mem_around entries hmodule (Or.inl hline)
    · obtain ⟨entry, hentry, rfl⟩ := List.mem_map.mp hline
      exact hentries entry hentry
    · exact newline_not_mem_around entries hmodule (Or.inr hline)
  have hhead := filter_exports_eq_nil fun line hline =>
    not_export_around entries moduleName (Or.inl hline)
  have htail := filter_exports_eq_nil fun line hline =>
    not_export_around entries moduleName (Or.inr hline)
  have hlast : [[]].filter exportLead.isPrefixOf = [] := by decide
  rw [exportsOf, renderIndex_eq, splitOn_unlines (by simp [indexTail]) hlines, List.map_append,
    List.map_append, List.filter_append, List.filter_append, List.filter_append, hhead, htail,
    hlast, filter_exports_eq_self, List.nil_append, List.append_nil, List.append_nil]

end ClientModule

end ConnectClients
