import Mathlib.Data.List.Nodup
import ConnectClients.Discovery
import ConnectClients.Proofs.Files.Listing
import ConnectClients.Proofs.Files.Path
import ConnectClients.Proofs.Text.Lines

/-!
# Which modules are listed

A generated module is listed by its path below the directory, without the suffix that its name
ends in. Names of files have no slashes, so that the path gives the module back: the list names
every module of ours once.
-/

namespace ConnectClients

namespace Path

/-! ## Paths as texts -/

theorem slashed_cons {name : String} {m : List String} (h : m ≠ []) :
    (slashed (name :: m)).toList = name.toList ++ '/' :: (slashed m).toList := by
  rw [slashed, String.intercalate_cons_of_ne_nil h, String.toList_append, String.toList_append,
    List.append_assoc]
  rfl

/-- The text of a path ends in its last name. -/
theorem suffix_slashed {m : List String} {name : String} (h : m.getLast? = some name) :
    name.toList <:+ (slashed m).toList := by
  induction m with
  | nil => cases h
  | cons first rest ih =>
      by_cases hrest : rest = []
      · subst hrest
        obtain rfl : first = name := Option.some.inj h
        have htext : slashed [first] = first := String.intercalate_singleton
        exact htext.symm ▸ List.suffix_refl _
      · rw [List.getLast?_cons_of_ne_nil hrest] at h
        rw [slashed_cons hrest]
        exact (ih h).trans ((List.suffix_cons _ _).trans (List.suffix_append _ _))

/-- Cutting at slashes gives the names back. -/
theorem splitOn_slashed {m : List String} (hne : m ≠ []) (h : ∀ name ∈ m, '/' ∉ name.toList) :
    Text.splitOn '/' (slashed m).toList = m.map String.toList := by
  induction m with
  | nil => exact absurd rfl hne
  | cons name rest ih =>
      have hname := h name List.mem_cons_self
      by_cases hrest : rest = []
      · subst hrest
        rw [slashed, String.intercalate_singleton, splitOn_of_not_mem hname]
        rfl
      · rw [slashed_cons hrest, Text.splitOn_append_sep hname, List.map_cons,
          ih hrest fun other hother => h other (List.mem_cons_of_mem _ hother)]

theorem eq_of_slashed_eq {m m' : List String} (hne : m ≠ []) (hne' : m' ≠ [])
    (h : ∀ name ∈ m, '/' ∉ name.toList) (h' : ∀ name ∈ m', '/' ∉ name.toList)
    (heq : slashed m = slashed m') : m = m' := by
  have hnames : m.map String.toList = m'.map String.toList := by
    rw [← splitOn_slashed hne h, ← splitOn_slashed hne' h', heq]
  exact List.map_injective_iff.mpr (fun _ _ => String.toList_inj.mp) hnames

end Path

namespace Discovery

/-! ## Modules without their suffix -/

/-- The name of a generated module. -/
def NamesModule (m : List String) : Prop :=
  ∃ name ∈ m.getLast?, moduleEnding.toList <:+ name.toList

theorem NamesModule.ne_nil {m : List String} (h : NamesModule m) : m ≠ [] := by
  rintro rfl
  obtain ⟨name, hname, -⟩ := h
  cases hname

theorem slashed_eq_withoutSuffix {m : List String} (h : NamesModule m) :
    Path.slashed m = withoutSuffix m ++ ".ts" := by
  obtain ⟨name, hlast, hending⟩ := h
  have hts : ".ts".toList <:+ moduleEnding.toList := by decide
  obtain ⟨stem, hstem⟩ := (hts.trans hending).trans (Path.suffix_slashed hlast)
  rw [← String.toList_inj, String.toList_append, withoutSuffix, ← hstem, Text.dropSuffix?_append]
  simp

theorem withoutSuffix_eq_iff {m : List String} {p : String} (h : NamesModule m) :
    withoutSuffix m = p ↔ Path.slashed m = p ++ ".ts" := by
  rw [slashed_eq_withoutSuffix h, String.append_left_inj]

theorem eq_of_withoutSuffix_eq {m m' : List String} (h : NamesModule m) (h' : NamesModule m')
    (hnames : ∀ name ∈ m, '/' ∉ name.toList) (hnames' : ∀ name ∈ m', '/' ∉ name.toList)
    (heq : withoutSuffix m = withoutSuffix m') : m = m' := by
  apply Path.eq_of_slashed_eq h.ne_nil h'.ne_nil hnames hnames'
  rw [slashed_eq_withoutSuffix h, slashed_eq_withoutSuffix h', heq]

theorem isThirdParty_eq_false_iff {m : List String} :
    isThirdParty m = false ↔ ∀ dir ∈ m.dropLast, dir ∉ thirdPartyDirs := by
  simp [isThirdParty, List.any_eq_false]

/-! ## The list -/

variable {t : FileTree} {here : Location} {dir : Path}

theorem mem_modules_iff {m : List String} : m ∈ modules t here dir ↔
    t.pathIsDirectory here dir = true ∧
      (∃ octets, t.get? (Location.resolve here dir ++ m) = some (.file octets)) ∧ NamesModule m := by
  rw [modules, FileTree.mem_listFiles_iff]
  constructor
  · rintro ⟨hdir, -, hfile, hname⟩
    exact ⟨hdir, hfile, hname⟩
  · rintro ⟨hdir, hfile, hname⟩
    exact ⟨hdir, NamesModule.ne_nil hname, hfile, hname⟩

theorem mem_typeFiles_iff {p : String} : p ∈ typeFiles t here dir ↔
    ∃ m ∈ modules t here dir, isThirdParty m = false ∧ withoutSuffix m = p := by
  rw [typeFiles, Text.mem_sortTexts, List.mem_map]
  simp only [List.mem_filter, Bool.not_eq_true', and_assoc]

/-- Where files have names without slashes, the list is in strict order. -/
theorem typeFiles_increasing
    (hnames : ∀ m ∈ modules t here dir, ∀ name ∈ m, '/' ∉ name.toList) :
    (typeFiles t here dir).Pairwise (· < ·) := by
  apply Text.pairwise_sortTexts
  refine List.Nodup.map_on ?_ ((FileTree.listFiles_sorted t here dir moduleEnding).1.filter _)
  intro m hm m' hm' heq
  obtain ⟨hm, -⟩ := List.mem_filter.mp hm
  obtain ⟨hm', -⟩ := List.mem_filter.mp hm'
  exact eq_of_withoutSuffix_eq (mem_modules_iff.mp hm).2.2 (mem_modules_iff.mp hm').2.2
    (hnames m hm) (hnames m' hm') heq

end Discovery

end ConnectClients
