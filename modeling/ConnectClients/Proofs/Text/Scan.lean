import ConnectClients.Text.Scan

/-!
# What readers read

A fixed text is read exactly off the texts that start with it, and a run is the
longest piece of its class. A scan passes over every stretch of text in which its
reader finds nothing; a stretch is clear of a key if no occurrence of the key
starts in it, however the text goes on behind it.
-/

namespace ConnectClients.Text

/-! ## Fixed texts and runs -/

theorem isPrefixOf?_eq_some_iff {expected : List Char} : ∀ {cs rest : List Char},
    expected.isPrefixOf? cs = some rest ↔ cs = expected ++ rest := by
  induction expected with
  | nil =>
      intro cs rest
      rw [List.nil_append]
      exact Option.some_inj
  | cons e es ih =>
      intro cs rest
      cases cs with
      | nil =>
          constructor
          · intro h
            cases h
          · intro h
            cases h
      | cons c cs =>
          have hstep : (e :: es).isPrefixOf? (c :: cs) =
              if e == c then es.isPrefixOf? cs else none := rfl
          rw [hstep, List.cons_append, List.cons_eq_cons]
          by_cases h : e = c
          · subst h
            simp [ih]
          · simp [h, Ne.symm h]

theorem literal?_eq_some_iff {expected : String} {cs rest : List Char} :
    literal? expected cs = some rest ↔ cs = expected.toList ++ rest :=
  isPrefixOf?_eq_some_iff

theorem literal?_append (expected : String) (rest : List Char) :
    literal? expected (expected.toList ++ rest) = some rest :=
  literal?_eq_some_iff.mpr rfl

theorem literal?_eq_none_iff {expected : String} {cs : List Char} :
    literal? expected cs = none ↔ ¬ expected.toList <+: cs := by
  rw [Option.eq_none_iff_forall_ne_some]
  constructor
  · rintro h ⟨rest, rfl⟩
    exact h rest (literal?_append expected rest)
  · intro h rest hrest
    exact h ⟨rest, (literal?_eq_some_iff.mp hrest).symm⟩

theorem run?_eq_some {p : Char → Bool} {cs taken rest : List Char}
    (h : run? p cs = some (taken, rest)) :
    cs = taken ++ rest ∧ taken ≠ [] ∧ ∀ c ∈ taken, p c = true := by
  cases cs with
  | nil => simp [run?] at h
  | cons c cs =>
      rw [run?] at h
      split at h
      · rename_i hc
        simp only [Option.some.injEq, Prod.mk.injEq] at h
        obtain ⟨rfl, rfl⟩ := h
        refine ⟨by simp, by simp, ?_⟩
        intro d hd
        rcases List.mem_cons.mp hd with rfl | hd
        · exact hc
        · exact List.all_eq_true.mp List.all_takeWhile d hd
      · simp at h

/-- A run ends where its class ends. -/
theorem run?_append {p : Char → Bool} {taken rest : List Char} (hne : taken ≠ [])
    (htaken : ∀ c ∈ taken, p c = true) (hrest : ∀ c ∈ rest.head?, p c = false) :
    run? p (taken ++ rest) = some (taken, rest) := by
  cases taken with
  | nil => exact absurd rfl hne
  | cons c cs =>
      have hcs : ∀ d ∈ cs, p d = true := fun d hd => htaken d (List.mem_cons_of_mem _ hd)
      have hend : rest.takeWhile p = [] ∧ rest.dropWhile p = rest := by
        cases rest with
        | nil => exact ⟨rfl, rfl⟩
        | cons d ds =>
            have hd := hrest d rfl
            exact ⟨List.takeWhile_cons_of_neg (by simp [hd]),
              List.dropWhile_cons_of_neg (by simp [hd])⟩
      rw [List.cons_append, run?, if_pos (htaken c List.mem_cons_self),
        List.takeWhile_append_of_pos hcs, List.dropWhile_append_of_pos hcs, hend.1, hend.2,
        List.append_nil]

theorem run?_rest {p : Char → Bool} {cs taken rest : List Char}
    (h : run? p cs = some (taken, rest)) : rest = cs.dropWhile p := by
  cases cs with
  | nil => simp [run?] at h
  | cons c cs =>
      rw [run?] at h
      split at h
      · rename_i hc
        simp only [Option.some.injEq, Prod.mk.injEq] at h
        rw [List.dropWhile_cons_of_pos hc, h.2]
      · simp at h

/-! ## Blanks -/

theorem ascii_apart :
    (List.range 128).all (fun n => !(isBlank (Char.ofNat n) && isWord (Char.ofNat n))) = true := by
  decide +kernel

theorem wideBlanks_apart : wideBlanks.all (fun n => !inRanges letterNumberRanges n) = true := by
  decide +kernel

/-- No blank is a word character. -/
theorem isWord_of_isBlank {c : Char} (h : isBlank c = true) : isWord c = false := by
  by_cases hascii : c.val < 128
  · have hsmall : c.toNat < 128 := hascii
    have hboth := List.all_eq_true.mp ascii_apart c.toNat (List.mem_range.mpr hsmall)
    rw [Char.ofNat_toNat, h, Bool.true_and, Bool.not_eq_true'] at hboth
    exact hboth
  · rw [isBlank, if_neg hascii] at h
    rw [isWord, if_neg hascii]
    have hwide := List.all_eq_true.mp wideBlanks_apart c.toNat (List.contains_iff_mem.mp h)
    simpa using hwide

theorem isBlank_of_isWord {c : Char} (h : isWord c = true) : isBlank c = false := by
  cases hblank : isBlank c with
  | false => rfl
  | true => exact absurd (isWord_of_isBlank hblank) (by simp [h])

/-- Blanks end where something else stands. -/
theorem skipBlanks_append (bs : List Char) {rest : List Char} (hbs : ∀ c ∈ bs, isBlank c = true)
    (hrest : ∀ c ∈ rest.head?, isBlank c = false) : skipBlanks (bs ++ rest) = rest := by
  rw [skipBlanks, List.dropWhile_append_of_pos hbs]
  cases rest with
  | nil => rfl
  | cons c cs => exact List.dropWhile_cons_of_neg (by simp [hrest c rfl])

/-- A character is not what comes after the blanks if something else, and no blank, stands
before its first occurrence. -/
theorem head?_skipBlanks_ne {cs : List Char} {c d : Char} (hc : c ∉ cs) (hd : isBlank d = false)
    (hne : d ≠ c) (rest : List Char) : (skipBlanks (cs ++ d :: rest)).head? ≠ some c := by
  induction cs with
  | nil =>
      rw [List.nil_append, skipBlanks, List.dropWhile_cons_of_neg (by simp [hd])]
      simpa using hne
  | cons b bs ih =>
      rw [List.mem_cons, not_or] at hc
      rw [List.cons_append, skipBlanks]
      cases hb : isBlank b with
      | true =>
          rw [List.dropWhile_cons_of_pos hb]
          exact ih hc.2
      | false =>
          rw [List.dropWhile_cons_of_neg (by simp [hb])]
          simpa using Ne.symm hc.1

theorem skipBlanks_append_of_head {cs rest : List Char}
    (h : ∀ c ∈ rest.head?, isBlank c = false) : skipBlanks (cs ++ rest) = skipBlanks cs ++ rest := by
  rw [skipBlanks, List.dropWhile_append]
  split
  · rename_i hempty
    rw [skipBlanks, List.isEmpty_iff.mp hempty]
    exact skipBlanks_append [] (by simp) h
  · rfl

/-- A space and something else behind it. -/
theorem skipBlanks_space {cs : List Char} (h : ∀ c ∈ cs.head?, isBlank c = false) :
    skipBlanks (' ' :: cs) = cs :=
  skipBlanks_append [' '] (List.all_eq_true.mp (by decide)) h

/-! ## Scans -/

theorem mem_scanAll {α : Type} {read : List Char → Option (α × List Char)} {a : α} :
    ∀ {cs : List Char}, a ∈ scanAll read cs → ∃ start rest, read start = some (a, rest) := by
  intro cs
  induction cs using scanAll.induct read with
  | case1 => simp [scanAll]
  | case2 c cs a' rest hread hle ih =>
      rw [scanAll, hread]
      simp only [hle, if_true, List.mem_cons]
      rintro (rfl | hmem)
      · exact ⟨_, _, hread⟩
      · exact ih hmem
  | case3 c cs a' rest hread hgt ih =>
      rw [scanAll, hread]
      simp only [hgt, if_false, List.mem_cons]
      rintro (rfl | hmem)
      · exact ⟨_, _, hread⟩
      · exact ih hmem
  | case4 c cs hread ih =>
      rw [scanAll, hread]
      exact ih

theorem scanAll_cons_of_none {α : Type} {read : List Char → Option (α × List Char)} {c : Char}
    {cs : List Char} (h : read (c :: cs) = none) :
    scanAll read (c :: cs) = scanAll read cs := by
  rw [scanAll, h]

theorem scanAll_of_some {α : Type} {read : List Char → Option (α × List Char)} {a : α}
    {cs rest : List Char} (h : read cs = some (a, rest)) (hlt : rest.length < cs.length) :
    scanAll read cs = a :: scanAll read rest := by
  cases cs with
  | nil => exact absurd hlt (Nat.not_lt_zero _)
  | cons c cs =>
      rw [scanAll, h]
      exact if_pos (Nat.le_of_lt_succ hlt)

/-! ## Stretches without a key -/

/-- No occurrence of `key` starts in the text, whatever follows the text. -/
def Clear (key : List Char) : List Char → Prop
  | [] => True
  | c :: cs => (¬ c :: cs <+: key ∧ ¬ key <+: c :: cs) ∧ Clear key cs

instance decidableClear (key : List Char) : (cs : List Char) → Decidable (Clear key cs)
  | [] => inferInstanceAs (Decidable True)
  | c :: cs =>
    have := decidableClear key cs
    inferInstanceAs (Decidable ((¬ c :: cs <+: key ∧ ¬ key <+: c :: cs) ∧ Clear key cs))

theorem Clear.append {key a b : List Char} (ha : Clear key a) (hb : Clear key b) :
    Clear key (a ++ b) := by
  induction a with
  | nil => exact hb
  | cons c cs ih =>
      obtain ⟨⟨hshort, hlong⟩, hcs⟩ := ha
      refine ⟨⟨?_, ?_⟩, ih hcs⟩
      · exact fun h => hshort ((List.prefix_append (c :: cs) b).trans h)
      · intro h
        rcases List.prefix_or_prefix_of_prefix h (List.prefix_append (c :: cs) b) with hp | hp
        · exact hlong hp
        · exact hshort hp

theorem Clear.right {key a b : List Char} (h : Clear key (a ++ b)) : Clear key b := by
  induction a with
  | nil => exact h
  | cons c cs ih => exact ih h.2

/-- A stretch is clear of a key if it does not have the key's first character. -/
theorem clear_of_not_mem {k : Char} (key : List Char) {cs : List Char} (h : k ∉ cs) :
    Clear (k :: key) cs := by
  induction cs with
  | nil => trivial
  | cons c cs ih =>
      rw [List.mem_cons, not_or] at h
      refine ⟨⟨?_, ?_⟩, ih h.2⟩
      · exact fun hp => h.1 (List.cons_prefix_cons.mp hp).1.symm
      · exact fun hp => h.1 (List.cons_prefix_cons.mp hp).1

/-- A stretch that ends in a character outside of the key is clear if it does not
contain the key. -/
theorem clear_append_singleton {key cs : List Char} {stop : Char} (hstop : stop ∉ key)
    (h : ¬ key <:+: cs) : Clear key (cs ++ [stop]) := by
  induction cs with
  | nil =>
      refine ⟨⟨?_, ?_⟩, trivial⟩
      · exact fun hp => hstop (hp.subset List.mem_cons_self)
      · intro hp
        rcases List.prefix_cons_iff.mp hp with hnil | ⟨t, ht, -⟩
        · subst hnil
          exact h List.nil_infix
        · exact hstop (by rw [ht]; exact List.mem_cons_self)
  | cons c cs ih =>
      refine ⟨⟨?_, ?_⟩, ih fun hin => h (hin.trans (List.suffix_cons c cs).isInfix)⟩
      · exact fun hp => hstop (hp.subset (by simp))
      · intro hp
        have hp' : key <+: (c :: cs) ++ [stop] := hp
        rcases List.prefix_concat_iff.mp hp' with heq | hp
        · exact hstop (by rw [heq]; simp)
        · exact h hp.isInfix

/-- A key that starts in front of a lead ends in front of it, if the lead stands nowhere in the
key, not in part either. -/
theorem prefix_of_clear {key lead : List Char} (hclear : Clear lead key) {cs rest : List Char}
    (h : key <+: cs ++ (lead ++ rest)) : key <+: cs := by
  rcases List.prefix_or_prefix_of_prefix h (List.prefix_append cs _) with hkey | ⟨t, rfl⟩
  · exact hkey
  · rw [List.prefix_append_right_inj] at h
    cases t with
    | nil => simp
    | cons c t =>
        have hapart := hclear.right.1
        rcases List.prefix_or_prefix_of_prefix h (List.prefix_append lead rest) with hp | hp
        · exact absurd hp hapart.1
        · exact absurd hp hapart.2

theorem infix_of_clear {key a b : List Char} (hclear : Clear key a) (h : key <:+: a ++ b) :
    key <:+: b := by
  induction a with
  | nil => exact h
  | cons c cs ih =>
      rcases List.infix_cons_iff.mp h with hp | hin
      · exfalso
        rcases List.prefix_or_prefix_of_prefix hp (List.prefix_append (c :: cs) b) with hk | hk
        · exact hclear.1.2 hk
        · exact hclear.1.1 hk
      · exact ih hclear.2 hin

/-- A reader finds nothing where its key does not stand. -/
def Keyed {α : Type} (key : List Char) (read : List Char → Option (α × List Char)) : Prop :=
  ∀ cs, ¬ key <+: cs → read cs = none

theorem Keyed.none_of_clear {α : Type} {key : List Char}
    {read : List Char → Option (α × List Char)} (hread : Keyed key read) {c : Char}
    {cs : List Char} (h : Clear key (c :: cs)) (rest : List Char) :
    read (c :: cs ++ rest) = none := by
  apply hread
  intro hp
  rcases List.prefix_or_prefix_of_prefix hp (List.prefix_append (c :: cs) rest) with hk | hk
  · exact h.1.2 hk
  · exact h.1.1 hk

theorem scanAll_clear {α : Type} {key : List Char} {read : List Char → Option (α × List Char)}
    (hread : Keyed key read) {cs : List Char} (h : Clear key cs) (rest : List Char) :
    scanAll read (cs ++ rest) = scanAll read rest := by
  induction cs with
  | nil => rfl
  | cons c cs ih =>
      have hnone := hread.none_of_clear h rest
      rw [List.cons_append] at hnone ⊢
      rw [scanAll_cons_of_none hnone, ih h.2]

theorem scanFirst?_clear {α : Type} {key : List Char} {read : List Char → Option (α × List Char)}
    (hread : Keyed key read) {cs : List Char} (h : Clear key cs) (rest : List Char) :
    scanFirst? read (cs ++ rest) = scanFirst? read rest := by
  induction cs with
  | nil => rfl
  | cons c cs ih =>
      have hnone := hread.none_of_clear h rest
      rw [List.cons_append] at hnone ⊢
      rw [scanFirst?, hnone]
      exact ih h.2

theorem scanAll_eq_nil {α : Type} {key : List Char} {read : List Char → Option (α × List Char)}
    (hread : Keyed key read) {cs : List Char} (h : Clear key cs) : scanAll read cs = [] := by
  have hclear := scanAll_clear hread h []
  rw [List.append_nil, scanAll] at hclear
  exact hclear

/-- A scan finds all entries that stand one after the other, if what leads to an entry and
what stops it are clear of the key. -/
theorem scanAll_entries {α β : Type} {key : List Char} {read : List Char → Option (α × List Char)}
    (hread : Keyed key read) {entry : β → List Char} (body : β → List Char) {value : β → α}
    {lead stop : List Char} (hlead : Clear key lead) (hstop : Clear key stop) {bs : List β}
    (hentry : ∀ b ∈ bs, entry b = lead ++ body b)
    (hlength : ∀ b ∈ bs, stop.length < (body b).length)
    (hbody : ∀ b ∈ bs, ∀ rest, read (body b ++ rest) = some (value b, stop ++ rest))
    (rest : List Char) :
    scanAll read (bs.flatMap entry ++ rest) = bs.map value ++ scanAll read rest := by
  induction bs with
  | nil => rfl
  | cons b bs ih =>
      have hb : b ∈ b :: bs := List.mem_cons_self
      have hlt : (stop ++ (bs.flatMap entry ++ rest)).length <
          (body b ++ (bs.flatMap entry ++ rest)).length := by
        have hshort := hlength b hb
        simp only [List.length_append]
        omega
      have htail : ∀ b' ∈ bs, b' ∈ b :: bs := fun b' h => List.mem_cons_of_mem _ h
      rw [List.flatMap_cons, hentry b hb, List.append_assoc, List.append_assoc,
        scanAll_clear hread hlead, scanAll_of_some (hbody b hb _) hlt, scanAll_clear hread hstop,
        ih (fun b' h => hentry b' (htail b' h)) (fun b' h => hlength b' (htail b' h))
          (fun b' h => hbody b' (htail b' h)), List.map_cons, List.cons_append]

end ConnectClients.Text
