import ConnectClients.Proofs.GenTemplate.Blocks

/-!
# Values behind their keys

A value without blanks is read as a whole, because the newline that ends its line ends
it. A scan for a key finds the values of the lines that were written with the key and
no others: the other lines, and what stands before the key, are clear of it.
-/

namespace ConnectClients.GenTemplate

open Text

/-- A text that is not empty and has no blanks. -/
def IsToken (s : String) : Prop := s ≠ "" ∧ ∀ c ∈ s.toList, isBlank c = false

theorem isBlank_of_isIndent {c : Char} (h : isIndent c = true) : isBlank c = true := by
  rw [isIndent, Bool.or_eq_true, beq_iff_eq, beq_iff_eq] at h
  rcases h with rfl | rfl <;> decide

theorem IsToken.newline_not_mem {s : String} (h : IsToken s) : '\n' ∉ s.toList := by
  intro hmem
  have hblank := h.2 '\n' hmem
  exact absurd hblank (by decide)

theorem IsToken.toList_ne_nil {s : String} (h : IsToken s) : s.toList ≠ [] := by
  intro hnil
  exact h.1 (String.toList_eq_nil_iff.mp hnil)

theorem IsToken.dropWhile_isIndent {s : String} (h : IsToken s) (rest : List Char) :
    (s.toList ++ rest).dropWhile isIndent = s.toList ++ rest := by
  cases hs : s.toList with
  | nil => exact absurd hs h.toList_ne_nil
  | cons c cs =>
      have hc : isBlank c = false := h.2 c (by rw [hs]; exact List.mem_cons_self)
      have hindent : ¬ isIndent c = true := by
        intro hi
        rw [isBlank_of_isIndent hi] at hc
        exact Bool.noConfusion hc
      exact List.dropWhile_cons_of_neg hindent

theorem IsToken.run? {s : String} (h : IsToken s) (rest : List Char) :
    Text.run? (fun c => !isBlank c) (s.toList ++ '\n' :: rest) = some (s.toList, '\n' :: rest) := by
  apply run?_append h.toList_ne_nil
  · intro c hc
    simp [h.2 c hc]
  · intro c hc
    rw [List.head?_cons, Option.mem_some_iff] at hc
    subst hc
    decide

/-! ## One value -/

theorem readValue_eq (key : String) {s : String} (h : IsToken s) (rest : List Char) :
    readValue key (key.toList ++ ' ' :: (s.toList ++ '\n' :: rest)) =
      some (s.toList, '\n' :: rest) := by
  have hindent : (' ' :: (s.toList ++ '\n' :: rest)).dropWhile isIndent = s.toList ++ '\n' :: rest := by
    rw [List.dropWhile_cons_of_pos rfl, h.dropWhile_isIndent]
  rw [readValue, literal?_append]
  show Text.run? _ ((' ' :: (s.toList ++ '\n' :: rest)).dropWhile isIndent) = _
  rw [hindent, h.run?]

theorem readValue_keyed (key : String) : Keyed key.toList (readValue key) := by
  intro cs h
  rw [readValue, literal?_eq_none_iff.mpr h]
  rfl

theorem valueAtStart?_eq (key : String) {s : String} (h : IsToken s) :
    valueAtStart? key (closed (key ++ " " ++ s)) = some s := by
  have hline : closed (key ++ " " ++ s) = key.toList ++ ' ' :: (s.toList ++ ['\n']) := by
    simp [closed]
  rw [valueAtStart?, hline, readValue_eq key h []]
  simp

theorem valueAtStart?_eq_none {key : String} {line : List Char} (h : ¬ key.toList <+: line) :
    valueAtStart? key line = none := by
  rw [valueAtStart?, readValue_keyed key line h]
  rfl

/-! ## All values -/

theorem valuesOf_clear {key : String} {cs : List Char} (h : Clear key.toList cs)
    (rest : List Char) : valuesOf key (cs ++ rest) = valuesOf key rest := by
  rw [valuesOf, scanAll_clear (readValue_keyed key) h, valuesOf]

theorem valuesOf_eq_nil {key : String} {cs : List Char} (h : Clear key.toList cs) :
    valuesOf key cs = [] := by
  rw [valuesOf, scanAll_eq_nil (readValue_keyed key) h]
  rfl

/-- The values of lines written with the key. -/
theorem valuesOf_entries {key lead : String} (hlead : Clear key.toList lead.toList)
    (hstop : Clear key.toList ['\n']) {values : List String} (h : ∀ s ∈ values, IsToken s)
    (rest : List Char) :
    valuesOf key (values.flatMap (fun s => closed (lead ++ key ++ " " ++ s)) ++ rest) =
      values ++ valuesOf key rest := by
  have hentries : scanAll (readValue key)
        (values.flatMap (fun s => closed (lead ++ key ++ " " ++ s)) ++ rest) =
      values.map String.toList ++ scanAll (readValue key) rest := by
    apply scanAll_entries (readValue_keyed key)
      (fun s => key.toList ++ ' ' :: (s.toList ++ ['\n'])) hlead hstop
    · intro s _
      simp [closed]
    · intro s _
      simp only [List.length_append, List.length_cons, List.length_nil]
      omega
    · intro s hs rest
      have hvalue := readValue_eq key (h s hs) rest
      simpa using hvalue
  rw [valuesOf, hentries, List.map_append, List.map_map, valuesOf]
  simp

theorem clear_closed {key line : String} (hstop : '\n' ∉ key.toList)
    (h : ¬ key.toList <:+: line.toList) : Clear key.toList (closed line) :=
  clear_append_singleton hstop h

end ConnectClients.GenTemplate
