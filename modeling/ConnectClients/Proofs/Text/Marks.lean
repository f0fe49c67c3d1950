import ConnectClients.Text.Case
import ConnectClients.Text.Split

/-!
# Marks and case

A mark is an ASCII character that is no letter, such as the underscore or the
slash. Full case mapping may turn one character into several, and characters
from far beyond ASCII into ASCII letters; it never makes a mark out of anything
else. The pieces of a text that is cut at a mark therefore stay free of it when
their case changes.
-/

namespace ConnectClients.Text

/-- An ASCII character, not the null one, that is no letter. -/
def IsMark (c : Char) : Prop :=
  0 < c.toNat ∧ c.toNat < 128 ∧ c.isAlpha = false

instance : DecidablePred IsMark := fun c =>
  inferInstanceAs (Decidable (0 < c.toNat ∧ c.toNat < 128 ∧ c.isAlpha = false))

theorem toNat_eq_of_ofNat_eq {n : Nat} {d : Char} (hd : IsMark d)
    (h : Char.ofNat n = d) : n = d.toNat := by
  subst h
  have hpos := hd.1
  by_cases hn : n.isValidChar
  · rw [Char.ofNat, dif_pos hn]
    rfl
  · rw [Char.ofNat, dif_neg hn] at hpos
    exact absurd hpos (by decide)

/-! ## ASCII letters -/

theorem eq_of_toUpper_eq_mark {c d : Char} (hd : IsMark d) (h : c.toUpper = d) :
    c = d := by
  have hmark := hd.2.2
  rw [← h] at hmark ⊢
  unfold Char.toUpper at hmark ⊢
  split
  · rename_i hlow
    rw [dif_pos hlow] at hmark
    obtain ⟨h1, h2⟩ := hlow
    unfold Char.isAlpha Char.isUpper Char.isLower at hmark
    simp only [UInt32.le_iff_toNat_le, UInt32.toNat_add, UInt32.toNat_sub] at hmark h1 h2
    simp at hmark h1 h2
    omega
  · rfl

theorem eq_of_toLower_eq_mark {c d : Char} (hd : IsMark d) (h : c.toLower = d) :
    c = d := by
  have hmark := hd.2.2
  rw [← h] at hmark ⊢
  unfold Char.toLower at hmark ⊢
  split
  · rename_i hup
    rw [dif_pos hup] at hmark
    obtain ⟨h1, h2⟩ := hup
    unfold Char.isAlpha Char.isUpper Char.isLower at hmark
    simp only [ge_iff_le, UInt32.le_iff_toNat_le, UInt32.toNat_add, UInt32.toNat_sub] at hmark h1 h2
    simp at hmark h1 h2
    omega
  · rfl

/-! ## The tables -/

/-- A code point beyond ASCII, or that of an ASCII letter. -/
def isWide (code : Nat) : Bool :=
  decide (128 ≤ code) || (Char.ofNat code).isAlpha

/-- Whether a run maps to wide code points only: one that reaches ASCII maps a
single code point. -/
def runIsWide (run : Nat × Nat × Nat × Nat × Nat) : Bool :=
  decide (run.2.2.2.2 + 128 ≤ run.1 + run.2.2.2.1) ||
    (run.1 == run.2.1 && (Char.ofNat (run.1 + run.2.2.2.1 - run.2.2.2.2)).isAlpha)

theorem toUpperRuns_wide : toUpperRuns.all runIsWide = true := by decide +kernel

theorem toLowerRuns_wide : toLowerRuns.all runIsWide = true := by decide +kernel

theorem toUpperSequences_wide :
    toUpperSequences.all (fun entry => entry.2.all isWide) = true := by decide +kernel

theorem isWide_mapByRuns {runs : List (Nat × Nat × Nat × Nat × Nat)} {code : Nat}
    (hruns : runs.all runIsWide = true) (hcode : 128 ≤ code) :
    isWide (mapByRuns runs code) = true := by
  unfold mapByRuns
  split
  · rename_i first last stride up down hfind
    have hin := List.find?_some hfind
    have hrun := List.all_eq_true.mp hruns _ (List.mem_of_find?_eq_some hfind)
    simp only [Bool.and_eq_true, decide_eq_true_eq] at hin
    simp only [runIsWide, Bool.or_eq_true, Bool.and_eq_true, decide_eq_true_eq,
      beq_iff_eq] at hrun
    rcases hrun with hrun | ⟨heq, halpha⟩
    · have hwide : 128 ≤ code + up - down := by omega
      simp [isWide, hwide]
    · have hsame : code = first := by omega
      simp [isWide, hsame, halpha]
  · simp [isWide, hcode]

theorem not_isWide_of_mark {d : Char} (hd : IsMark d) : isWide d.toNat = false := by
  obtain ⟨-, hlt, halpha⟩ := hd
  simp [isWide, Char.ofNat_toNat, halpha]
  omega

/-- No wide code point is that of a mark. -/
theorem ofNat_ne_mark {code : Nat} {d : Char} (hd : IsMark d)
    (hwide : isWide code = true) : Char.ofNat code ≠ d := by
  intro h
  rw [toNat_eq_of_ofNat_eq hd h, not_isWide_of_mark hd] at hwide
  exact Bool.noConfusion hwide

/-! ## Case mapping -/

theorem eq_of_mark_mem_upperOf {c d : Char} (hd : IsMark d) (h : d ∈ upperOf c) :
    c = d := by
  unfold upperOf at h
  split at h
  · exact eq_of_toUpper_eq_mark hd (List.mem_singleton.mp h).symm
  · rename_i hascii
    have hcode : 128 ≤ c.toNat := by
      simpa [UInt32.lt_iff_toNat_lt] using hascii
    split at h
    · rename_i codes hlookup
      obtain ⟨code, hmem, hcode⟩ := List.mem_map.mp h
      obtain ⟨before, after, hsplit, -⟩ := List.lookup_eq_some_iff.mp hlookup
      have hall := List.all_eq_true.mp toUpperSequences_wide (c.toNat, codes)
        (by rw [hsplit]; simp)
      exact absurd hcode (ofNat_ne_mark hd (List.all_eq_true.mp hall code hmem))
    · have hwide := isWide_mapByRuns toUpperRuns_wide hcode
      exact absurd (List.mem_singleton.mp h).symm (ofNat_ne_mark hd hwide)

theorem eq_of_mark_mem_lowerOf {c d : Char} (hd : IsMark d) (h : d ∈ lowerOf c) :
    c = d := by
  unfold lowerOf at h
  split at h
  · exact eq_of_toLower_eq_mark hd (List.mem_singleton.mp h).symm
  · rename_i hascii
    have hcode : 128 ≤ c.toNat := by
      simpa [UInt32.lt_iff_toNat_lt] using hascii
    split at h
    · simp only [List.mem_cons, List.not_mem_nil, or_false] at h
      rcases h with rfl | rfl
      · exact absurd hd (by decide)
      · exact absurd hd (by decide)
    · have hwide := isWide_mapByRuns toLowerRuns_wide hcode
      exact absurd (List.mem_singleton.mp h).symm (ofNat_ne_mark hd hwide)

theorem mem_of_mark_mem_lowerAfter {d : Char} (hd : IsMark d) :
    ∀ (before cs : List Char), d ∈ lowerAfter before cs → d ∈ cs := by
  intro before cs
  induction cs generalizing before with
  | nil =>
      intro h
      exact h
  | cons c rest ih =>
      intro h
      rw [lowerAfter, List.mem_append] at h
      rcases h with h | h
      · split at h
        · -- the final sigma is no mark
          exact absurd hd (by rw [List.mem_singleton.mp h]; decide)
        · rw [eq_of_mark_mem_lowerOf hd h]
          exact List.mem_cons_self
      · exact List.mem_cons_of_mem _ (ih _ h)

/-- **Lower case makes no marks.** -/
theorem mem_of_mark_mem_lower {d : Char} (hd : IsMark d) {cs : List Char}
    (h : d ∈ lower cs) : d ∈ cs :=
  mem_of_mark_mem_lowerAfter hd [] cs h

/-! ## Cutting -/

theorem sep_not_mem_of_mem_splitOn {sep : Char} :
    ∀ {cs piece : List Char}, piece ∈ splitOn sep cs → sep ∉ piece := by
  intro cs
  induction cs with
  | nil =>
      intro piece h
      rw [splitOn, List.mem_singleton] at h
      simp [h]
  | cons c rest ih =>
      intro piece h
      rw [splitOn] at h
      by_cases hc : c = sep
      · rw [if_pos hc, List.mem_cons] at h
        rcases h with rfl | h
        · simp
        · exact ih h
      · rw [if_neg hc] at h
        split at h
        · rw [List.mem_singleton] at h
          simp [h, Ne.symm hc]
        · rename_i first pieces hrest
          rw [List.mem_cons] at h
          rcases h with rfl | h
          · have hfirst : sep ∉ first := ih (by rw [hrest]; exact List.mem_cons_self)
            simp [hfirst, Ne.symm hc]
          · exact ih (by rw [hrest]; exact List.mem_cons_of_mem _ h)

theorem mem_of_mem_splitOn {sep c : Char} : ∀ {cs piece : List Char}, piece ∈ splitOn sep cs →
    c ∈ piece → c ∈ cs := by
  intro cs
  induction cs with
  | nil =>
      intro piece hpiece hc
      rw [splitOn, List.mem_singleton] at hpiece
      rw [hpiece] at hc
      exact hc
  | cons b rest ih =>
      intro piece hpiece hc
      rw [splitOn] at hpiece
      split at hpiece
      · rcases List.mem_cons.mp hpiece with rfl | hpiece
        · exact absurd hc List.not_mem_nil
        · exact List.mem_cons_of_mem _ (ih hpiece hc)
      · split at hpiece
        · rw [List.mem_singleton.mp hpiece] at hc
          rw [List.mem_singleton.mp hc]
          exact List.mem_cons_self
        · rename_i first pieces hrest
          rcases List.mem_cons.mp hpiece with rfl | hpiece
          · rcases List.mem_cons.mp hc with rfl | hc
            · exact List.mem_cons_self
            · exact List.mem_cons_of_mem _ (ih (by rw [hrest]; exact List.mem_cons_self) hc)
          · exact List.mem_cons_of_mem _
              (ih (by rw [hrest]; exact List.mem_cons_of_mem _ hpiece) hc)

end ConnectClients.Text
