import Mathlib.Data.List.Basic
import ConnectClients.Files.Tree

/-!
# What is where in a file tree

Every change of a tree is given by what it does to each location. A closed tree is one
where whatever is there stands in a directory, all the way up; below a location with
nothing at it there is nothing.
-/

namespace ConnectClients.FileTree

/-! ## The view of a changed tree -/

theorem get?_nil (t : FileTree) : t.get? [] = some .directory := if_pos rfl

/-- The root is no file. -/
theorem ne_nil_of_file {t : FileTree} {l : Location} {octets : List UInt8}
    (h : t.get? l = some (.file octets)) : l ≠ [] := by
  rintro rfl
  rw [get?_nil] at h
  cases h

theorem get?_of_ne_nil (t : FileTree) {l : Location} (h : l ≠ []) :
    t.get? l = t.items.lookup l := if_neg h

theorem lookup_filter (keep : Location → Bool) (l : Location) : ∀ items : List (Location × Item),
    (items.filter fun e => keep e.1).lookup l = if keep l then items.lookup l else none := by
  intro items
  induction items with
  | nil => simp
  | cons e rest ih =>
      obtain ⟨l', item⟩ := e
      by_cases hkeep : keep l' = true
      · rw [List.filter_cons, if_pos hkeep, List.lookup_cons, List.lookup_cons, ih]
        by_cases heq : l = l'
        · subst heq
          simp [hkeep]
        · simp [beq_false_of_ne heq]
      · rw [List.filter_cons, if_neg hkeep, List.lookup_cons, ih]
        by_cases heq : l = l'
        · subst heq
          simp [hkeep]
        · simp [beq_false_of_ne heq]

theorem get?_restrict (keep : Location → Bool) (t : FileTree) {l : Location} (h : l ≠ []) :
    (t.restrict keep).get? l = if keep l then t.get? l else none := by
  rw [get?_of_ne_nil _ h, get?_of_ne_nil _ h]
  exact lookup_filter keep l t.items

theorem get?_put_self {l : Location} (h : l ≠ []) (item : Item) (t : FileTree) :
    (t.put l item).get? l = some item := by
  rw [get?_of_ne_nil _ h]
  exact List.lookup_cons_self

theorem get?_put_of_ne {l l' : Location} (h : l' ≠ l) (item : Item) (t : FileTree) :
    (t.put l item).get? l' = t.get? l' := by
  by_cases hnil : l' = []
  · rw [hnil, get?_nil, get?_nil]
  · have hput : (t.put l item).get? l' = (t.restrict (· != l)).get? l' := by
      rw [get?_of_ne_nil _ hnil, get?_of_ne_nil _ hnil]
      show ((l, item) :: _).lookup l' = _
      rw [List.lookup_cons, beq_false_of_ne h]
    rw [hput, get?_restrict _ _ hnil, if_pos (bne_iff_ne.mpr h)]

theorem isBelow_iff {top l : Location} : isBelow top l = true ↔ top <+: l ∧ l ≠ top := by
  rw [isBelow, Bool.and_eq_true, List.isPrefixOf_iff_prefix, bne_iff_ne]

theorem isBelow_append {top rest : Location} (h : rest ≠ []) : isBelow top (top ++ rest) = true :=
  isBelow_iff.mpr ⟨List.prefix_append top rest, by simpa using h⟩

theorem exists_of_isBelow {top l : Location} (h : isBelow top l = true) :
    ∃ rest, rest ≠ [] ∧ l = top ++ rest := by
  obtain ⟨⟨rest, rfl⟩, hne⟩ := isBelow_iff.mp h
  exact ⟨rest, fun hnil => hne (by rw [hnil, List.append_nil]), rfl⟩

theorem not_isBelow_concat {top l : Location} {name : String} (h : ¬ top <+: l) :
    ¬ isBelow top (l ++ [name]) = true := by
  intro hbelow
  obtain ⟨hle, hne⟩ := isBelow_iff.mp hbelow
  rcases List.prefix_concat_iff.mp hle with heq | hle
  · exact hne heq.symm
  · exact h hle

theorem isBelow_trans {first second third : Location} (h : isBelow first second = true)
    (h' : isBelow second third = true) : isBelow first third = true := by
  obtain ⟨hle, hne⟩ := isBelow_iff.mp h
  obtain ⟨hle', -⟩ := isBelow_iff.mp h'
  refine isBelow_iff.mpr ⟨hle.trans hle', ?_⟩
  rintro rfl
  exact hne (hle.eq_of_length_le hle'.length_le).symm

theorem get?_erase_of_ne {l l' : Location} (h : l' ≠ l) (t : FileTree) :
    (t.erase l).get? l' = t.get? l' := by
  by_cases hnil : l' = []
  · rw [hnil, get?_nil, get?_nil]
  · rw [erase, get?_restrict _ _ hnil, if_pos (bne_iff_ne.mpr h)]

theorem get?_erase_self {l : Location} (h : l ≠ []) (t : FileTree) : (t.erase l).get? l = none := by
  rw [erase, get?_restrict _ _ h, if_neg (by simp)]

theorem get?_clear_below {top l : Location} (h : isBelow top l = true) (t : FileTree) :
    (t.clear top).get? l = none := by
  obtain ⟨hlead, hne⟩ := isBelow_iff.mp h
  have hnil : l ≠ [] := by
    rintro rfl
    exact hne (List.prefix_nil.mp hlead).symm
  rw [clear, get?_restrict _ _ hnil, if_neg (by simp [h])]

theorem get?_clear_of_not {top l : Location} (h : ¬ isBelow top l = true) (t : FileTree) :
    (t.clear top).get? l = t.get? l := by
  by_cases hnil : l = []
  · rw [hnil, get?_nil, get?_nil]
  · rw [clear, get?_restrict _ _ hnil, if_pos (by simpa using h)]

/-! ## Closed trees -/

/-- What is there stands in a directory. -/
def Closed (t : FileTree) : Prop :=
  ∀ l s, t.get? (l ++ [s]) ≠ none → t.get? l = some .directory

theorem Closed.nothing_below {t : FileTree} (hc : t.Closed) {l : Location}
    (h : t.get? l ≠ some .directory) {rest : List String} (hrest : rest ≠ []) :
    t.get? (l ++ rest) = none := by
  induction rest generalizing l with
  | nil => exact absurd rfl hrest
  | cons s rest ih =>
      have hchild : t.get? (l ++ [s]) = none := by
        by_contra hne
        exact h (hc l s hne)
      by_cases hnil : rest = []
      · subst hnil
        exact hchild
      · rw [List.append_cons]
        exact ih (by simp [hchild]) hnil

theorem Closed.directory_above {t : FileTree} (hc : t.Closed) {l l' : Location}
    (hbelow : isBelow l l' = true) (h : t.get? l' ≠ none) : t.get? l = some .directory := by
  obtain ⟨rest, hrest, rfl⟩ := exists_of_isBelow hbelow
  by_contra hno
  exact h (hc.nothing_below hno hrest)

/-- A tree is closed if each of its items is in a directory. -/
theorem closed_of_items {t : FileTree}
    (h : ∀ e ∈ t.items, t.get? e.1.dropLast = some .directory) : t.Closed := by
  intro l s hsome
  have hne : l ++ [s] ≠ [] := by simp
  rw [get?_of_ne_nil _ hne] at hsome
  obtain ⟨item, hitem⟩ := Option.ne_none_iff_exists'.mp hsome
  obtain ⟨before, after, heq, -⟩ := List.lookup_eq_some_iff.mp hitem
  have hdir := h (l ++ [s], item) (by rw [heq]; simp)
  rw [List.dropLast_concat] at hdir
  exact hdir

end ConnectClients.FileTree
