import Mathlib.Data.List.Basic
import ConnectClients.Proofs.GenTemplate.Values

/-!
# Inputs read back

Directories and modules are read in two scans of the same lines, one for each key. The scans keep
the order within each kind only: what is read are the directories and then the modules, so that the
inputs are read back as they are exactly if the directories stand first. No name may contain the key
of the other kind.
-/

namespace ConnectClients

open Text GenTemplate

namespace TemplateInput

def ofDirectory (dir : String) : TemplateInput := ⟨some dir, none⟩

def ofModule (name : String) : TemplateInput := ⟨none, some name⟩

/-- An input is a directory or a module, named by a token without the key of the other. -/
inductive IsTidy : TemplateInput → Prop
  | directory {dir : String} (token : IsToken dir) (apart : ¬ "module:".toList <:+: dir.toList) :
      IsTidy (.ofDirectory dir)
  | moduleName {name : String} (token : IsToken name)
      (apart : ¬ "directory:".toList <:+: name.toList) : IsTidy (.ofModule name)

/-! ## The order of inputs -/

/-- Directories stand before modules. -/
def Ordered (inputs : List TemplateInput) : Prop :=
  inputs.Pairwise fun first second => second.directory.isSome → first.directory.isSome

/-- The directories, and then all other inputs. -/
def directoriesFirst (inputs : List TemplateInput) : List TemplateInput :=
  (inputs.filter fun i => i.directory.isSome) ++ inputs.filter fun i => !i.directory.isSome

variable {inputs : List TemplateInput}

theorem ordered_directoriesFirst (inputs : List TemplateInput) :
    Ordered (directoriesFirst inputs) := by
  have hfirst : ∀ i ∈ inputs.filter (fun i => i.directory.isSome), i.directory.isSome = true :=
    fun i hi => (List.mem_filter.mp hi).2
  have hlast : ∀ i ∈ inputs.filter (fun i => !i.directory.isSome), ¬ i.directory.isSome = true :=
    fun i hi => by simpa using (List.mem_filter.mp hi).2
  refine List.pairwise_append.mpr ⟨?_, ?_, ?_⟩
  · exact List.pairwise_of_forall_mem_list fun i hi _ _ _ => hfirst i hi
  · exact List.pairwise_of_forall_mem_list fun _ _ j hj hsome => absurd hsome (hlast j hj)
  · exact fun i hi j hj hsome => absurd hsome (hlast j hj)

theorem directoriesFirst_of_ordered (h : Ordered inputs) : directoriesFirst inputs = inputs := by
  induction inputs with
  | nil => rfl
  | cons i rest ih =>
      obtain ⟨hfirst, hrest⟩ := List.pairwise_cons.mp h
      cases hi : i.directory.isSome with
      | true =>
          have hnot : ¬ (!i.directory.isSome) = true := by simp [hi]
          rw [directoriesFirst,
            List.filter_cons_of_pos (p := fun i : TemplateInput => i.directory.isSome) hi,
            List.filter_cons_of_neg (p := fun i : TemplateInput => !i.directory.isSome) hnot,
            List.cons_append]
          exact congrArg _ (ih hrest)
      | false =>
          -- behind a module there is no directory
          have hnone : ∀ j ∈ i :: rest, j.directory.isSome = false := by
            refine List.forall_mem_cons.mpr ⟨hi, fun j hj => ?_⟩
            exact Bool.eq_false_iff.mpr fun hsome => absurd (hfirst j hj hsome) (by simp [hi])
          rw [directoriesFirst, List.filter_eq_nil_iff.mpr fun j hj => by simp [hnone j hj],
            List.filter_eq_self.mpr fun j hj => by simp [hnone j hj], List.nil_append]

theorem directoriesFirst_eq_self_iff : directoriesFirst inputs = inputs ↔ Ordered inputs := by
  constructor
  · intro h
    rw [← h]
    exact ordered_directoriesFirst inputs
  · exact directoriesFirst_of_ordered

/-- Inputs that are all named by one of the two are sorted by their names. -/
theorem directoriesFirst_eq_names (h : ∀ i ∈ inputs, i.IsTidy) :
    directoriesFirst inputs = (inputs.filterMap directory).map ofDirectory ++
      (inputs.filterMap moduleName).map ofModule := by
  have hboth : (inputs.filter fun i => i.directory.isSome) =
        (inputs.filterMap directory).map ofDirectory ∧
      (inputs.filter fun i => !i.directory.isSome) =
        (inputs.filterMap moduleName).map ofModule := by
    induction inputs with
    | nil => exact ⟨rfl, rfl⟩
    | cons i rest ih =>
        obtain ⟨hi, hrest⟩ := List.forall_mem_cons.mp h
        obtain ⟨hdirs, hmodules⟩ := ih hrest
        cases hi with
        | directory => exact ⟨congrArg _ hdirs, hmodules⟩
        | moduleName => exact ⟨hdirs, congrArg _ hmodules⟩
  rw [directoriesFirst, hboth.1, hboth.2]

/-! ## The lines of inputs -/

/-- The line of an input behind some indentation. -/
def linesIn (indent : String) (input : TemplateInput) : List String :=
  match input.directory, input.moduleName with
  | some dir, _ => [indent ++ "- directory: " ++ dir]
  | none, some name => [indent ++ "- module: " ++ name]
  | none, none => []

theorem lines_eq (input : TemplateInput) : input.lines = input.linesIn "  " := by
  have hdirectory : "  " ++ "- directory: " = "  - directory: " := by decide
  have hmodule : "  " ++ "- module: " = "  - module: " := by decide
  rw [linesIn, hdirectory, hmodule]
  rfl

variable {indent : String} {input : TemplateInput} {line : String}

theorem mem_linesIn (h : line ∈ input.linesIn indent) :
    (∃ dir ∈ input.directory, line = indent ++ "- directory: " ++ dir) ∨
      ∃ name ∈ input.moduleName, line = indent ++ "- module: " ++ name := by
  rw [linesIn] at h
  split at h
  · rename_i dir hdir
    exact Or.inl ⟨dir, hdir, List.mem_singleton.mp h⟩
  · rename_i name _ hname
    exact Or.inr ⟨name, hname, List.mem_singleton.mp h⟩
  · exact absurd h List.not_mem_nil

theorem inBlock_of_mem_linesIn (hindent : IsIndent indent.toList)
    (h : line ∈ input.linesIn indent) : inBlock [] (closed line) = true := by
  rcases mem_linesIn h with ⟨dir, -, rfl⟩ | ⟨name, -, rfl⟩
  · simp only [closed_append, String.toList_append, List.append_assoc]
    exact hindent.inBlock rfl
  · simp only [closed_append, String.toList_append, List.append_assoc]
    exact hindent.inBlock rfl

theorem IsTidy.newline_not_mem (h : input.IsTidy) (hindent : IsIndent indent.toList) :
    ∀ line ∈ input.linesIn indent, '\n' ∉ line.toList := by
  have hblank := hindent.newline_not_mem
  intro line hline
  cases h with
  | directory token _ =>
      rw [List.mem_singleton.mp hline]
      simp [hblank, token.newline_not_mem]
  | moduleName token _ =>
      rw [List.mem_singleton.mp hline]
      simp [hblank, token.newline_not_mem]

end TemplateInput

namespace GenTemplate

variable {indent : String} {inputs : List TemplateInput}

/-- An entry under one key does not show another key if its value does not. -/
theorem clear_entry {key lead value : String} (hstop : '\n' ∉ key.toList)
    (hlead : Clear key.toList lead.toList) (hvalue : ¬ key.toList <:+: value.toList) :
    Clear key.toList (closed (lead ++ value)) := by
  rw [closed_append]
  exact hlead.append (clear_closed hstop hvalue)

/-- A scan reads the inputs one after the other if it reads each of them. -/
theorem valuesOf_inputs {key : String} {pick : TemplateInput → Option String}
    (h : ∀ i ∈ inputs, ∀ rest, valuesOf key ((i.linesIn indent).flatMap closed ++ rest) =
      (pick i).toList ++ valuesOf key rest) (rest : List Char) :
    valuesOf key ((inputs.flatMap (TemplateInput.linesIn indent)).flatMap closed ++ rest) =
      inputs.filterMap pick ++ valuesOf key rest := by
  induction inputs with
  | nil => rfl
  | cons i others ih =>
      obtain ⟨hi, hothers⟩ := List.forall_mem_cons.mp h
      rw [List.flatMap_cons, List.flatMap_append, List.append_assoc, hi, ih hothers]
      cases hpick : pick i with
      | none => rw [List.filterMap_cons_none hpick, Option.toList_none, List.nil_append]
      | some value =>
          rw [List.filterMap_cons_some hpick, Option.toList_some, List.singleton_append,
            List.cons_append]

/-- The line of an input is read by the scan for its own key, and passed over by the other. -/
theorem valuesOf_input (hindent : IsIndent indent.toList) {input : TemplateInput}
    (h : input.IsTidy) (rest : List Char) :
    valuesOf "directory:" ((input.linesIn indent).flatMap closed ++ rest) =
        input.directory.toList ++ valuesOf "directory:" rest ∧
      valuesOf "module:" ((input.linesIn indent).flatMap closed ++ rest) =
        input.moduleName.toList ++ valuesOf "module:" rest := by
  have hdirectoryKey : indent ++ "- directory: " = indent ++ "- " ++ "directory:" ++ " " := by
    simp only [String.append_assoc]
    rfl
  have hmoduleKey : indent ++ "- module: " = indent ++ "- " ++ "module:" ++ " " := by
    simp only [String.append_assoc]
    rfl
  have hlead : ∀ text key : String, Clear key.toList text.toList →
      Clear key.toList indent.toList → Clear key.toList (indent ++ text).toList := by
    intro text key htext hclear
    rw [String.toList_append]
    exact hclear.append htext
  have hdirectory : Clear "directory:".toList indent.toList := hindent.clear rfl
  have hmodule : Clear "module:".toList indent.toList := hindent.clear rfl
  cases h with
  | @directory dir token apart =>
      have hline : (TemplateInput.linesIn indent (.ofDirectory dir)).flatMap closed =
          closed (indent ++ "- directory: " ++ dir) := List.append_nil _
      rw [hline]
      constructor
      · have hvalues := valuesOf_entries (hlead "- " "directory:" (by decide) hdirectory) (by decide)
          (List.forall_mem_singleton.mpr token) rest
        rwa [List.flatMap_singleton, ← hdirectoryKey] at hvalues
      · exact valuesOf_clear (clear_entry (by decide)
          (hlead "- directory: " "module:" (by decide) hmodule) apart) rest
  | @moduleName name token apart =>
      have hline : (TemplateInput.linesIn indent (.ofModule name)).flatMap closed =
          closed (indent ++ "- module: " ++ name) := List.append_nil _
      rw [hline]
      constructor
      · exact valuesOf_clear (clear_entry (by decide)
          (hlead "- module: " "directory:" (by decide) hdirectory) apart) rest
      · have hvalues := valuesOf_entries (hlead "- " "module:" (by decide) hmodule) (by decide)
          (List.forall_mem_singleton.mpr token) rest
        rwa [List.flatMap_singleton, ← hmoduleKey] at hvalues

/-- The block of the inputs is read back with the directories first. -/
theorem readInputs_eq (hindent : IsIndent indent.toList) (htidy : ∀ i ∈ inputs, i.IsTidy)
    {gap : List (List Char)} (hgap : IsGap gap) :
    readInputs ((inputs.flatMap (TemplateInput.linesIn indent)).map closed ++ gap) =
      TemplateInput.directoriesFirst inputs := by
  have hdirectories := @valuesOf_inputs indent inputs "directory:" TemplateInput.directory
    (fun i hi rest => (valuesOf_input hindent (htidy i hi) rest).1) gap.flatten
  have hmodules := @valuesOf_inputs indent inputs "module:" TemplateInput.moduleName
    (fun i hi rest => (valuesOf_input hindent (htidy i hi) rest).2) gap.flatten
  rw [valuesOf_eq_nil (hgap.clear (by decide)), List.append_nil] at hdirectories hmodules
  rw [readInputs, List.flatten_append, ← List.flatMap_def, hdirectories, hmodules,
    TemplateInput.directoriesFirst_eq_names htidy]
  rfl

end GenTemplate

end ConnectClients
