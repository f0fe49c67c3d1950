import Mathlib.Data.List.Basic
import Mathlib.Data.String.Basic
import ConnectClients.Text.Order

/-!
# Lists of texts in order

The order of lists of texts is total and transitive, so that sorting brings every list
of them in order.
-/

namespace ConnectClients.Text

theorem wordsLE_total (a b : List String) : (wordsLE a b || wordsLE b a) = true := by
  induction a generalizing b with
  | nil => simp [wordsLE]
  | cons x as ih =>
      cases b with
      | nil => simp [wordsLE]
      | cons y bs =>
          rw [wordsLE, wordsLE]
          by_cases heq : x = y
          · subst heq
            simpa using ih bs
          · rw [if_neg heq, if_neg (Ne.symm heq), Bool.or_eq_true, decide_eq_true_eq,
              decide_eq_true_eq]
            exact lt_or_gt_of_ne heq

theorem wordsLE_trans (a b c : List String) (hab : wordsLE a b = true)
    (hbc : wordsLE b c = true) : wordsLE a c = true := by
  induction a generalizing b c with
  | nil => simp [wordsLE]
  | cons x as ih =>
      cases b with
      | nil => exact absurd hab (by simp [wordsLE])
      | cons y bs =>
          cases c with
          | nil => exact absurd hbc (by simp [wordsLE])
          | cons z cs =>
              rw [wordsLE] at hab hbc ⊢
              by_cases hxy : x = y
              · subst hxy
                by_cases hxz : x = z
                · subst hxz
                  simp only [if_true] at hab hbc ⊢
                  exact ih bs cs hab hbc
                · rw [if_neg hxz] at hbc ⊢
                  exact hbc
              · rw [if_neg hxy] at hab
                have hlt := of_decide_eq_true hab
                by_cases hyz : y = z
                · subst hyz
                  rw [if_neg hxy, hab]
                · rw [if_neg hyz] at hbc
                  have hlast := hlt.trans (of_decide_eq_true hbc)
                  rw [if_neg hlast.ne, decide_eq_true hlast]

theorem wordsLE_antisymm {a b : List String} (hab : wordsLE a b = true)
    (hba : wordsLE b a = true) : a = b := by
  induction a generalizing b with
  | nil =>
      cases b with
      | nil => rfl
      | cons y bs => exact absurd hba (by simp [wordsLE])
  | cons x as ih =>
      cases b with
      | nil => exact absurd hab (by simp [wordsLE])
      | cons y bs =>
          rw [wordsLE] at hab hba
          by_cases heq : x = y
          · subst heq
            rw [if_pos rfl] at hab hba
            rw [ih hab hba]
          · rw [if_neg heq] at hab
            rw [if_neg (Ne.symm heq)] at hba
            exact absurd (of_decide_eq_true hab) (lt_asymm (of_decide_eq_true hba))

/-- The order is that of a dictionary: no list stands before one that is a start of it, or that has
the lesser text where the two first differ. -/
theorem wordsLE_iff (a b : List String) : wordsLE a b = true ↔ ¬ List.Lex (· < ·) b a := by
  induction a generalizing b with
  | nil => simp [wordsLE]
  | cons x as ih =>
      cases b with
      | nil =>
          simp only [wordsLE, Bool.false_eq_true, false_iff, not_not]
          exact List.Lex.nil
      | cons y bs =>
          rw [wordsLE, List.cons_lex_cons_iff]
          by_cases heq : x = y
          · subst heq
            simpa using ih bs
          · rw [if_neg heq, decide_eq_true_eq, not_or, not_and]
            constructor
            · intro hlt
              exact ⟨lt_asymm hlt, fun h => absurd h.symm heq⟩
            · rintro ⟨hlt, -⟩
              exact lt_of_le_of_ne (not_lt.mp hlt) heq

theorem sortTexts_perm (texts : List String) : (sortTexts texts).Perm texts :=
  List.mergeSort_perm texts _

theorem mem_sortTexts {a : String} {texts : List String} : a ∈ sortTexts texts ↔ a ∈ texts :=
  (sortTexts_perm texts).mem_iff

/-- Texts that are all different stand in strict order when sorted. -/
theorem pairwise_sortTexts {texts : List String} (h : texts.Nodup) :
    (sortTexts texts).Pairwise (· < ·) := by
  have hsorted : (sortTexts texts).Pairwise fun a b => (!decide (b < a)) = true := by
    apply List.pairwise_mergeSort
    · intro a b c hab hbc
      simp only [Bool.not_eq_true', decide_eq_false_iff_not, not_lt] at hab hbc ⊢
      exact hab.trans hbc
    · intro a b
      simp only [Bool.or_eq_true, Bool.not_eq_true', decide_eq_false_iff_not, not_lt]
      exact le_total a b
  have hnodup := (sortTexts_perm texts).nodup_iff.mpr h
  refine (hsorted.and hnodup).imp fun ⟨hle, hne⟩ => ?_
  simp only [Bool.not_eq_true', decide_eq_false_iff_not, not_lt] at hle
  exact lt_of_le_of_ne hle hne

theorem sortWords_perm (words : List (List String)) : (sortWords words).Perm words :=
  List.mergeSort_perm words wordsLE

theorem mem_sortWords {a : List String} {words : List (List String)} :
    a ∈ sortWords words ↔ a ∈ words :=
  (sortWords_perm words).mem_iff

/-- There is one way only to bring lists of texts in order. -/
theorem eq_of_perm {words words' : List (List String)}
    (h : words.Pairwise fun a b => wordsLE a b = true)
    (h' : words'.Pairwise fun a b => wordsLE a b = true) (hperm : words.Perm words') :
    words = words' :=
  List.Perm.eq_of_pairwise (fun _ _ _ _ => wordsLE_antisymm) h h' hperm

theorem pairwise_sortWords (words : List (List String)) :
    (sortWords words).Pairwise fun a b => wordsLE a b = true :=
  List.pairwise_mergeSort wordsLE_trans wordsLE_total words

end ConnectClients.Text
