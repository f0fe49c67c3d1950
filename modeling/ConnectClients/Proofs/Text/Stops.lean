import ConnectClients.Proofs.Text.Scan

/-!
# Readers that stop at a character

A reader does not reach over a character that it never takes. In front of such a character it reads
what it would read if the text ended there, and leaves the rest as it is.
-/

namespace ConnectClients.Text

variable {α : Type} {c : Char}

/-! ## Fixed texts, blanks and runs -/

theorem isPrefixOf?_append_cons {expected : List Char} (hc : c ∉ expected) (cs rest : List Char) :
    expected.isPrefixOf? (cs ++ c :: rest) = (expected.isPrefixOf? cs).map (· ++ c :: rest) := by
  induction expected generalizing cs with
  | nil => rfl
  | cons e es ih =>
      rw [List.mem_cons, not_or] at hc
      cases cs with
      | nil => exact if_neg (by simpa using Ne.symm hc.1)
      | cons d ds =>
          have hstep : ∀ cs, (e :: es).isPrefixOf? (d :: cs) =
              if e == d then es.isPrefixOf? cs else none := fun _ => rfl
          rw [List.cons_append, hstep, hstep, ih hc.2]
          split
          · rfl
          · rfl

theorem literal?_append_cons {expected : String} (hc : c ∉ expected.toList) (cs rest : List Char) :
    literal? expected (cs ++ c :: rest) = (literal? expected cs).map (· ++ c :: rest) :=
  isPrefixOf?_append_cons hc cs rest

theorem skipBlanks_append_cons (hc : isBlank c = false) (cs rest : List Char) :
    skipBlanks (cs ++ c :: rest) = skipBlanks cs ++ c :: rest :=
  skipBlanks_append_of_head fun _ hd => Option.some.inj hd ▸ hc

theorem blanks?_append_cons (hc : isBlank c = false) (cs rest : List Char) :
    blanks? (cs ++ c :: rest) = (blanks? cs).map (· ++ c :: rest) := by
  cases cs with
  | nil => exact if_neg (by simp [hc])
  | cons d ds =>
      rw [List.cons_append, blanks?, blanks?, skipBlanks_append_cons hc]
      split
      · rfl
      · rfl

theorem takeWhile_append_cons {p : Char → Bool} (hc : p c = false) (cs rest : List Char) :
    (cs ++ c :: rest).takeWhile p = cs.takeWhile p := by
  rw [List.takeWhile_append, List.takeWhile_cons_of_neg (by simp [hc]), List.append_nil]
  split
  · rename_i hall
    exact ((List.takeWhile_prefix p).eq_of_length hall).symm
  · rfl

theorem dropWhile_append_cons {p : Char → Bool} (hc : p c = false) (cs rest : List Char) :
    (cs ++ c :: rest).dropWhile p = cs.dropWhile p ++ c :: rest := by
  rw [List.dropWhile_append]
  split
  · rename_i hempty
    rw [List.isEmpty_iff.mp hempty, List.dropWhile_cons_of_neg (by simp [hc])]
    rfl
  · rfl

theorem run?_append_cons {p : Char → Bool} (hc : p c = false) (cs rest : List Char) :
    run? p (cs ++ c :: rest) =
      (run? p cs).map fun (taken, more) => (taken, more ++ c :: rest) := by
  cases cs with
  | nil => exact if_neg (by simp [hc])
  | cons d ds =>
      rw [List.cons_append, run?, run?, takeWhile_append_cons hc, dropWhile_append_cons hc]
      split
      · rfl
      · rfl

/-! ## What is left of a text -/

theorem literal?_suffix {expected : String} {cs rest : List Char}
    (h : literal? expected cs = some rest) : rest <:+ cs :=
  literal?_eq_some_iff.mp h ▸ List.suffix_append _ _

theorem skipBlanks_suffix (cs : List Char) : skipBlanks cs <:+ cs :=
  List.dropWhile_suffix isBlank

theorem blanks?_suffix {cs rest : List Char} (h : blanks? cs = some rest) : rest <:+ cs := by
  cases cs with
  | nil => cases h
  | cons c cs =>
      rw [blanks?] at h
      split at h
      · cases h
        exact (skipBlanks_suffix cs).trans (List.suffix_cons c cs)
      · cases h

theorem run?_suffix {p : Char → Bool} {cs taken rest : List Char}
    (h : run? p cs = some (taken, rest)) : rest <:+ cs :=
  run?_rest h ▸ List.dropWhile_suffix p

/-- What a scan finds, its reader reads somewhere in the text. -/
theorem exists_suffix_of_mem_scanAll {read : List Char → Option (α × List Char)} {a : α}
    (hread : ∀ start a rest, read start = some (a, rest) → rest <:+ start)
    {cs : List Char} (h : a ∈ scanAll read cs) :
    ∃ start rest, start <:+ cs ∧ read start = some (a, rest) := by
  induction cs using scanAll.induct read with
  | case1 => simp [scanAll] at h
  | case2 c cs found rest hfound hle ih =>
      rw [scanAll, hfound] at h
      simp only [hle, if_true, List.mem_cons] at h
      rcases h with rfl | h
      · exact ⟨_, _, List.suffix_rfl, hfound⟩
      · obtain ⟨start, more, hstart, hmore⟩ := ih h
        exact ⟨start, more, hstart.trans (hread _ _ _ hfound), hmore⟩
  | case3 c cs found rest hfound hgt ih =>
      rw [scanAll, hfound] at h
      simp only [hgt, if_false, List.mem_cons] at h
      rcases h with rfl | h
      · exact ⟨_, _, List.suffix_rfl, hfound⟩
      · obtain ⟨start, more, hstart, hmore⟩ := ih h
        exact ⟨start, more, hstart.trans (List.suffix_cons c cs), hmore⟩
  | case4 c cs hfound ih =>
      rw [scanAll, hfound] at h
      obtain ⟨start, more, hstart, hmore⟩ := ih h
      exact ⟨start, more, hstart.trans (List.suffix_cons c cs), hmore⟩

/-! ## Readers -/

/-- A reader that never takes a character: up to there it reads as if the text ended there. -/
def ReadsUpTo (c : Char) (read : List Char → Option (α × List Char)) : Prop :=
  ∀ cs rest, read (cs ++ c :: rest) = (read cs).map fun (a, more) => (a, more ++ c :: rest)

section readers

variable {read : List Char → Option (α × List Char)}

theorem readsUpTo_pure (a : α) : ReadsUpTo c fun cs => some (a, cs) :=
  fun _ _ => rfl

theorem ReadsUpTo.literal {expected : String} (hc : c ∉ expected.toList) (h : ReadsUpTo c read) :
    ReadsUpTo c fun cs => (literal? expected cs).bind read := by
  intro cs rest
  dsimp only
  rw [literal?_append_cons hc]
  cases literal? expected cs with
  | none => rfl
  | some cs => exact h cs rest

theorem ReadsUpTo.skipBlanks (hc : isBlank c = false) (h : ReadsUpTo c read) :
    ReadsUpTo c fun cs => read (skipBlanks cs) := by
  intro cs rest
  dsimp only
  rw [skipBlanks_append_cons hc, h]

theorem ReadsUpTo.blanks (hc : isBlank c = false) (h : ReadsUpTo c read) :
    ReadsUpTo c fun cs => (blanks? cs).bind read := by
  intro cs rest
  dsimp only
  rw [blanks?_append_cons hc]
  cases blanks? cs with
  | none => rfl
  | some cs => exact h cs rest

theorem ReadsUpTo.run {p : Char → Bool} {readBehind : List Char → List Char → Option (α × List Char)}
    (hc : p c = false) (h : ∀ taken, ReadsUpTo c (readBehind taken)) :
    ReadsUpTo c fun cs => (run? p cs).bind fun (taken, cs) => readBehind taken cs := by
  intro cs rest
  dsimp only
  rw [run?_append_cons hc]
  cases run? p cs with
  | none => rfl
  | some found => exact h found.1 found.2 rest

theorem ReadsUpTo.cons_eq_none (h : ReadsUpTo c read) (hnil : read [] = none) (rest : List Char) :
    read (c :: rest) = none := by
  have hstop := h [] rest
  rwa [hnil] at hstop

/-- The first thing that a reader finds in a text with a stop in it is in front of the stop or
behind it. -/
theorem scanFirst?_append_cons (h : ReadsUpTo c read) (hnil : read [] = none)
    (cs rest : List Char) : scanFirst? read (cs ++ c :: rest) =
      ((scanFirst? read cs).map fun (a, more) => (a, more ++ c :: rest)).or
        (scanFirst? read rest) := by
  induction cs with
  | nil =>
      have hempty : scanFirst? read [] = none := rfl
      rw [List.nil_append, hempty, scanFirst?, h.cons_eq_none hnil]
      rfl
  | cons d ds ih =>
      have hstop := h (d :: ds) rest
      rw [List.cons_append] at hstop
      rw [List.cons_append, scanFirst?, scanFirst?, hstop]
      cases read (d :: ds) with
      | some found => rfl
      | none => exact ih

end readers

end ConnectClients.Text
