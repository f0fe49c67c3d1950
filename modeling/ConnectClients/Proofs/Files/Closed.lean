import Mathlib.Data.List.Induction
import ConnectClients.Proofs.Files.Operation

/-!
# Closed trees stay closed

What operations add stands in directories, and what they take away they take away with
all that is below. So an operation that succeeds on a closed tree leaves a closed tree,
provided that its path starts at a directory.
-/

namespace ConnectClients.FileTree

open Location (along start resolve Through)

/-! ## Changing one location -/

theorem Closed.put {t : FileTree} (hc : t.Closed) {l : Location} {item : Item}
    (habove : l ≠ [] → t.get? l.dropLast = some .directory)
    (hthere : t.get? l ≠ some .directory ∨ item = .directory) : (t.put l item).Closed := by
  intro l' s hsome
  by_cases hchild : l' ++ [s] = l
  · have hdir := habove (by rw [← hchild]; simp)
    rw [← hchild, List.dropLast_concat] at hdir
    have hne : l' ≠ l := by
      rintro rfl
      exact absurd hchild (by simp)
    rw [get?_put_of_ne hne]
    exact hdir
  · rw [get?_put_of_ne hchild] at hsome
    have hdir := hc l' s hsome
    by_cases hself : l' = l
    · subst hself
      by_cases hnil : l' = []
      · rw [hnil, get?_nil]
      · rcases hthere with hno | rfl
        · exact absurd hdir hno
        · exact get?_put_self hnil _ t
    · rw [get?_put_of_ne hself]
      exact hdir

theorem Closed.clear {t : FileTree} (hc : t.Closed) (top : Location) : (t.clear top).Closed := by
  intro l s hsome
  have hchild : ¬ isBelow top (l ++ [s]) = true := fun hbelow =>
    hsome (get?_clear_below hbelow t)
  rw [get?_clear_of_not hchild] at hsome
  have hself : ¬ isBelow top l = true := by
    intro hbelow
    obtain ⟨hlead, -⟩ := isBelow_iff.mp hbelow
    refine hchild (isBelow_iff.mpr ⟨hlead.trans (List.prefix_append l [s]), ?_⟩)
    rintro rfl
    have hlen := hlead.length_le
    simp only [List.length_append, List.length_singleton] at hlen
    omega
  rw [get?_clear_of_not hself]
  exact hc l s hsome

theorem Closed.erase {t : FileTree} (hc : t.Closed) {l : Location}
    (hempty : ∀ s, t.get? (l ++ [s]) = none) : (t.erase l).Closed := by
  intro l' s hsome
  have hchild : t.get? (l' ++ [s]) ≠ none := by
    intro hnone
    by_cases heq : l' ++ [s] = l
    · exact hsome (by rw [heq]; exact get?_erase_self (by rw [← heq]; simp) t)
    · exact hsome (by rw [get?_erase_of_ne heq]; exact hnone)
  have hne : l' ≠ l := by
    rintro rfl
    exact hchild (hempty s)
  rw [get?_erase_of_ne hne]
  exact hc l' s hchild

theorem Closed.cleared {t : FileTree} (hc : t.Closed) (top : Location) :
    (FileTree.cleared t top).Closed := by
  refine (hc.clear top).erase ?_
  intro s
  exact get?_clear_below (isBelow_append (by simp)) t

/-! ## Following a path -/

theorem Closed.directory_dropLast {t : FileTree} (hc : t.Closed) {l : Location}
    (h : t.get? l ≠ none) : t.get? l.dropLast = some .directory := by
  rcases List.eq_nil_or_concat l with rfl | ⟨above, s, rfl⟩
  · exact get?_nil t
  · rw [List.concat_eq_append] at h ⊢
    rw [List.dropLast_concat]
    exact hc above s h

/-- A path that passes leads to a location in a directory, whether or not something is
there. -/
theorem Closed.directory_of_passes {t : FileTree} (hc : t.Closed) {l : Location}
    {segments : List String} (hl : t.get? l = some .directory) (hp : t.Passes l segments) :
    t.get? (along l segments).dropLast = some .directory := by
  have hthere : t.get? l ≠ none := by simp [hl]
  rcases List.eq_nil_or_concat segments with rfl | ⟨lead, s, rfl⟩
  · exact hc.directory_dropLast hthere
  · rw [List.concat_eq_append, passes_append] at hp
    have hdir := hp.2.1
    rw [List.concat_eq_append, Location.along_append]
    by_cases hup : s = Path.up
    · rw [hup, Location.along_up]
      have habove := hc.directory_dropLast (l := along l lead) (by simp [hdir])
      exact hc.directory_dropLast (by simp [habove])
    · rw [Location.along_name _ hup, List.dropLast_concat]
      exact hdir

/-! ## Operations -/

variable {here : Location} {p : Path} {t t' : FileTree} {u : Unit}

/-- If a path passes in a tree, then everything above its way is a directory there, as
long as everything above its start is. -/
theorem directory_above_way {l : Location} {segments : List String} (hp : t.Passes l segments)
    (hstart : ∀ above, isBelow above l = true → t.get? above = some .directory)
    {lead rest : List String} (hsegments : segments = lead ++ rest) {above : Location}
    (habove : isBelow above (along l lead) = true) : t.get? above = some .directory := by
  induction lead using List.reverseRecOn generalizing rest above with
  | nil => exact hstart above habove
  | append_singleton lead s ih =>
      have hlead : segments = lead ++ s :: rest := by simp [hsegments]
      have hdir : t.get? (along l lead) = some .directory := by
        rw [hlead, passes_append] at hp
        exact hp.2.1
      obtain ⟨hle, hne⟩ := isBelow_iff.mp habove
      rw [Location.along_append] at hle hne
      by_cases hself : above = along l lead
      · rw [hself]
        exact hdir
      · refine ih hlead (isBelow_iff.mpr ⟨?_, Ne.symm hself⟩)
        by_cases hup : s = Path.up
        · rw [hup, Location.along_up] at hle
          exact hle.trans (List.dropLast_prefix _)
        · rw [Location.along_name _ hup] at hle hne
          rcases List.prefix_concat_iff.mp hle with heq | hle
          · exact absurd heq.symm hne
          · exact hle

/-- Directories that were added on the way to one that is there now are in directories. -/
theorem Grown.closed (h : Grown (OnWay here p) t t') (hc : t.Closed)
    (hstart : t.get? (start here p) = some .directory)
    (hdir : t'.pathIsDirectory here p = true) : t'.Closed := by
  intro l s hsome
  rcases h (l ++ [s]) with heq | ⟨-, -, lead, rest, hsegments, hway⟩
  · rw [heq] at hsome
    exact h.directory (hc l s hsome)
  · apply directory_above_way (pathIsDirectory_iff.mp hdir).1 _ hsegments
    · rw [← hway]
      exact isBelow_append (by simp)
    · intro above habove
      exact h.directory (hc.directory_above habove (by simp [hstart]))

namespace Operation

theorem writeText_closed {text : String} (hc : t.Closed)
    (hstart : t.get? (start here p) = some .directory) (h : writeText here p text t = .ok u t') :
    t'.Closed := by
  obtain ⟨hpasses, hno, rfl⟩ := writeText_eq_ok_iff.mp h
  apply hc.put _ (Or.inl hno)
  intro _
  exact hc.directory_of_passes hstart hpasses

theorem makeDirectories_closed (hc : t.Closed)
    (hstart : t.get? (start here p) = some .directory)
    (h : makeDirectories here p t = .ok u t') : t'.Closed := by
  obtain ⟨hgrown, hdir⟩ := makeDirectories_grown h
  exact hgrown.closed hc hstart hdir

/-- The start of the path must not be in what is removed. -/
theorem resetDirectory_closed (hc : t.Closed)
    (hstart : t.get? (start here p) = some .directory)
    (hout : ¬ resolve here p <+: start here p)
    (h : resetDirectory here p t = .ok u t') : t'.Closed := by
  obtain ⟨hdir, ⟨-, -, -, hgrown⟩ | ⟨-, hgrown⟩⟩ := resetDirectory_of_ok h
  · refine hgrown.closed (hc.cleared _) ?_ hdir
    rw [get?_cleared_apart hout]
    exact hstart
  · exact hgrown.closed hc hstart hdir

end Operation

end ConnectClients.FileTree
