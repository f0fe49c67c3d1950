import Mathlib.Data.List.Perm.Subperm
import ConnectClients.TypesIndex

/-!
# Free names

A free name is looked for among the name itself and the name with the numbers
from two on behind it. These candidates are pairwise different, and there is one
more of them than names that are taken, so one of them is free.
-/

namespace ConnectClients.TypesIndex

/-! ## Numbers behind a name -/

theorem toString_injective {i j : Nat} (h : toString i = toString j) : i = j := by
  have hdigits : Nat.toDigits 10 i = Nat.toDigits 10 j := by
    have hlist := congrArg String.toList h
    rwa [Nat.toString_eq_repr, Nat.toString_eq_repr, Nat.toList_repr, Nat.toList_repr] at hlist
  have hvalue := congrArg (fun ds => Nat.ofDigitChars 10 ds 0) hdigits
  simpa only [Nat.ofDigitChars_ten_toDigits] using hvalue

theorem isDigit_of_mem_toString {n : Nat} {c : Char} (h : c ∈ (toString n).toList) :
    c.isDigit = true := by
  rw [Nat.toString_eq_repr, Nat.toList_repr] at h
  exact Nat.isDigit_of_mem_toDigits (by decide) (by decide) h

theorem toString_ne_empty (n : Nat) : toString n ≠ "" := by
  intro h
  have hlist := congrArg String.toList h
  rw [Nat.toString_eq_repr, Nat.toList_repr] at hlist
  exact Nat.toDigits_ne_nil hlist

/-! ## Candidates -/

theorem length_candidates (name : String) (count : Nat) :
    (candidates name count).length = count + 1 := by
  simp [candidates]

/-- No two candidates are alike. -/
theorem candidates_nodup (name : String) (count : Nat) : (candidates name count).Nodup := by
  rw [candidates, List.nodup_cons]
  constructor
  · intro h
    obtain ⟨i, -, hi⟩ := List.mem_map.mp h
    rw [String.append_eq_left_iff] at hi
    exact toString_ne_empty _ hi
  · refine List.Pairwise.map _ ?_ List.nodup_range
    intro i j hij heq
    have hnumber := toString_injective ((String.append_right_inj name).mp heq)
    omega

theorem freeName_find?_isSome (taken : List String) (name : String) :
    ((candidates name taken.length).find? fun c => !taken.contains c).isSome = true := by
  rw [Option.isSome_iff_ne_none]
  intro hnone
  -- if every candidate were taken, there would be as many of them as names taken
  have hsub : candidates name taken.length ⊆ taken := by
    intro c hc
    have htaken := List.find?_eq_none.mp hnone c hc
    simpa using htaken
  have hle := (List.subperm_of_subset (candidates_nodup name taken.length) hsub).length_le
  rw [length_candidates] at hle
  omega

/-- **The free name is not taken.** -/
theorem freeName_not_mem (taken : List String) (name : String) :
    freeName taken name ∉ taken := by
  obtain ⟨c, hc⟩ := Option.isSome_iff_exists.mp (freeName_find?_isSome taken name)
  have hfree := List.find?_some hc
  rw [freeName, hc, Option.getD_some]
  simpa using hfree

/-- The free name is the name itself, or the name with a number behind it. -/
theorem freeName_eq (taken : List String) (name : String) :
    freeName taken name = name ∨ ∃ n, freeName taken name = name ++ toString (n + 2) := by
  obtain ⟨c, hc⟩ := Option.isSome_iff_exists.mp (freeName_find?_isSome taken name)
  have hmem := List.mem_of_find?_eq_some hc
  rw [freeName, hc, Option.getD_some]
  rw [candidates, List.mem_cons, List.mem_map] at hmem
  rcases hmem with rfl | ⟨n, -, rfl⟩
  · exact Or.inl rfl
  · exact Or.inr ⟨n, rfl⟩

/-- A free name has no character, digits apart, that the name asked for does not have. -/
theorem not_mem_freeName {taken : List String} {name : String} {c : Char}
    (hc : c.isDigit = false) (h : c ∉ name.toList) : c ∉ (freeName taken name).toList := by
  rcases freeName_eq taken name with heq | ⟨n, heq⟩
  · rw [heq]
    exact h
  · rw [heq, String.toList_append, List.mem_append]
    rintro (hmem | hmem)
    · exact h hmem
    · exact absurd (isDigit_of_mem_toString hmem) (Bool.not_eq_true _ ▸ hc)

end ConnectClients.TypesIndex
