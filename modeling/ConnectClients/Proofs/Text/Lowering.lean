import ConnectClients.Proofs.Text.Marks
import ConnectClients.Proofs.Text.Scan

/-!
# Lower case is lower case

What the lower case of a character begins with is a character that is its own lower case: the
table of the mapping sends no code point to one that it maps. Nor does it make a blank of anything
else.
-/

namespace ConnectClients.Text

/-! ## The table -/

/-- A code point is in a run. -/
def Holds (run : Nat × Nat × Nat × Nat × Nat) (code : Nat) : Prop :=
  run.1 ≤ code ∧ code ≤ run.2.1 ∧ (code - run.1) % run.2.2.1 = 0

/-- Where a run maps its first code point, and where its last. -/
def firstImage (run : Nat × Nat × Nat × Nat × Nat) : Nat := run.1 + run.2.2.2.1 - run.2.2.2.2

def lastImage (run : Nat × Nat × Nat × Nat × Nat) : Nat := run.2.1 + run.2.2.2.1 - run.2.2.2.2

/-- Whether no code point that one run maps to is in another run. The runs are apart, or the
first one lands between the code points of the other: it maps a single one, or its stride is a
multiple of the other's. -/
def runMisses (run other : Nat × Nat × Nat × Nat × Nat) : Bool :=
  Nat.blt (lastImage run) other.1 || Nat.blt other.2.1 (firstImage run) ||
    (Nat.ble other.1 (firstImage run) && (run.1 == run.2.1 || run.2.2.1 % other.2.2.1 == 0) &&
      (firstImage run - other.1) % other.2.2.1 != 0)

/-- The capital I with a dot, which becomes two characters, and the blanks beyond ASCII. -/
def unmapped : List Nat := 0x130 :: wideBlanks

/-- Whether a run maps to code points only that no run holds and that are not of those above. If it
reaches ASCII, it maps a single code point, to the small k. -/
def runSettles (runs : List (Nat × Nat × Nat × Nat × Nat))
    (run : Nat × Nat × Nat × Nat × Nat) : Bool :=
  Nat.ble run.2.2.2.2 (run.1 + run.2.2.2.1) &&
    (Nat.ble 128 (firstImage run) || (run.1 == run.2.1 && firstImage run == 0x6b)) &&
    runs.all (runMisses run) &&
    unmapped.all fun n => Nat.blt (lastImage run) n || Nat.blt n (firstImage run)

theorem toLowerRuns_settle : toLowerRuns.all (runSettles toLowerRuns) = true := by decide +kernel

variable {runs : List (Nat × Nat × Nat × Nat × Nat)} {code : Nat}

/-- A code point is mapped by a run that holds it, or it stays what it is. -/
theorem mapByRuns_cases (runs : List (Nat × Nat × Nat × Nat × Nat)) (code : Nat) :
    mapByRuns runs code = code ∨
      ∃ run ∈ runs, Holds run code ∧ mapByRuns runs code = code + run.2.2.2.1 - run.2.2.2.2 := by
  unfold mapByRuns
  split
  · rename_i first last stride up down hfind
    have hin := List.find?_some hfind
    simp only [Bool.and_eq_true, decide_eq_true_eq, beq_iff_eq] at hin
    exact Or.inr ⟨_, List.mem_of_find?_eq_some hfind, ⟨hin.1.1, hin.1.2, hin.2⟩, rfl⟩
  · exact Or.inl rfl

/-- The steps of a run are steps of another stride, of which its own is a multiple. -/
theorem dvd_of_multiple {first last stride other : Nat} (h : first = last ∨ stride % other = 0)
    (hfirst : first ≤ code) (hlast : code ≤ last) (hstride : (code - first) % stride = 0) :
    other ∣ code - first := by
  rcases h with hsingle | hmultiple
  · have hnone : code - first = 0 := by omega
    exact hnone ▸ Nat.dvd_zero _
  · exact Nat.dvd_trans (Nat.dvd_of_mod_eq_zero hmultiple) (Nat.dvd_of_mod_eq_zero hstride)

/-- What one run maps to, a run that it misses does not hold. -/
theorem not_holds_of_runMisses {run other : Nat × Nat × Nat × Nat × Nat}
    (hdown : run.2.2.2.2 ≤ run.1 + run.2.2.2.1) (hmisses : runMisses run other = true)
    (h : Holds run code) : ¬ Holds other (code + run.2.2.2.1 - run.2.2.2.2) := by
  obtain ⟨hfirst, hlast, hstride⟩ := h
  rintro ⟨hfirst', hlast', hstride'⟩
  simp only [runMisses, firstImage, lastImage, Bool.or_eq_true, Bool.and_eq_true, Nat.blt_eq,
    Nat.ble_eq, beq_iff_eq, bne_iff_ne] at hmisses
  rcases hmisses with (hmisses | hmisses) | ⟨⟨hle, hmultiple⟩, hbetween⟩
  · omega
  · omega
  · have hsteps := dvd_of_multiple hmultiple hfirst hlast hstride
    have hsplit : code + run.2.2.2.1 - run.2.2.2.2 - other.1 =
        (run.1 + run.2.2.2.1 - run.2.2.2.2 - other.1) + (code - run.1) := by
      omega
    rw [hsplit] at hstride'
    have hdvd := (Nat.dvd_add_iff_left hsteps).mpr (Nat.dvd_of_mod_eq_zero hstride')
    exact hbetween (Nat.mod_eq_zero_of_dvd hdvd)

section settled

variable (hruns : runs.all (runSettles runs) = true)

include hruns

/-- What is mapped is not mapped again. -/
theorem mapByRuns_mapByRuns (code : Nat) :
    mapByRuns runs (mapByRuns runs code) = mapByRuns runs code := by
  rcases mapByRuns_cases runs code with heq | ⟨run, hmem, hholds, heq⟩
  · rw [heq, heq]
  · have hsettles := List.all_eq_true.mp hruns _ hmem
    simp only [runSettles, Bool.and_eq_true, Nat.ble_eq] at hsettles
    obtain ⟨⟨⟨hdown, -⟩, hmisses⟩, -⟩ := hsettles
    rcases mapByRuns_cases runs (mapByRuns runs code) with hsame | ⟨other, hmem', hholds', -⟩
    · exact hsame
    · rw [heq] at hholds'
      have hmisses' := List.all_eq_true.mp hmisses _ hmem'
      exact absurd hholds' (not_holds_of_runMisses hdown hmisses' hholds)

theorem mapByRuns_ne {n : Nat} (hn : n ∈ unmapped) (hcode : code ≠ n) :
    mapByRuns runs code ≠ n := by
  rcases mapByRuns_cases runs code with heq | ⟨run, hmem, hholds, heq⟩
  · rwa [heq]
  · have hsettles := List.all_eq_true.mp hruns _ hmem
    simp only [runSettles, Bool.and_eq_true, Nat.ble_eq] at hsettles
    obtain ⟨⟨⟨hdown, -⟩, -⟩, hunmapped⟩ := hsettles
    have hapart := List.all_eq_true.mp hunmapped _ hn
    rw [Bool.or_eq_true, Nat.blt_eq, Nat.blt_eq, firstImage, lastImage] at hapart
    obtain ⟨hfirst, hlast, -⟩ := hholds
    omega

/-- A code point beyond ASCII stays there, or is mapped to the small k. -/
theorem mapByRuns_wide (hcode : 128 ≤ code) :
    128 ≤ mapByRuns runs code ∨ mapByRuns runs code = 0x6b := by
  rcases mapByRuns_cases runs code with heq | ⟨run, hmem, ⟨hfirst, hlast, -⟩, heq⟩
  · exact Or.inl (Nat.le_trans hcode (Nat.le_of_eq heq.symm))
  · have hsettles := List.all_eq_true.mp hruns _ hmem
    simp only [runSettles, firstImage, Bool.and_eq_true, Bool.or_eq_true, Nat.ble_eq,
      beq_iff_eq] at hsettles
    obtain ⟨⟨⟨hdown, hwide | ⟨hsingle, hsmall⟩⟩, -⟩, -⟩ := hsettles
    · left
      omega
    · right
      omega

end settled

/-! ## One character -/

theorem lowerOf_toLower_of_ascii : ∀ n < 128,
    lowerOf (Char.ofNat n).toLower = [(Char.ofNat n).toLower] ∧
      (isBlank (Char.ofNat n) = false → isBlank (Char.ofNat n).toLower = false) := by
  decide +kernel

/-- A character by itself is no capital sigma at the end of a word. -/
theorem lower_singleton (c : Char) : lower [c] = lowerOf c := by
  have hsees : seesCased [] = false := rfl
  simp [lower, lowerAfter, hsees]

/-- The lower case of a character is one character, or it is the dotted i and its dot. -/
theorem lowerOf_cases (c : Char) : (∃ d, lowerOf c = [d]) ∨ lowerOf c = ['i', Char.ofNat 0x307] := by
  unfold lowerOf
  split
  · exact Or.inl ⟨_, rfl⟩
  · split
    · exact Or.inr rfl
    · exact Or.inl ⟨_, rfl⟩

section wide

variable {code : Nat}

/-- A character beyond ASCII has a code point beyond ASCII, unless there is no such character. -/
theorem wide_ofNat (hcode : 128 ≤ code) : Char.ofNat code = Char.ofNat 0 ∨
    ((Char.ofNat code).toNat = code ∧ ¬ (Char.ofNat code).val < 128) := by
  by_cases hvalid : code.isValidChar
  · have htoNat : (Char.ofNat code).toNat = code := by
      rw [Char.ofNat, dif_pos hvalid]
      rfl
    refine Or.inr ⟨htoNat, ?_⟩
    rw [UInt32.lt_iff_toNat_lt]
    exact Nat.not_lt.mpr (Nat.le_trans hcode (Nat.le_of_eq htoNat.symm))
  · left
    rw [Char.ofNat, dif_neg hvalid]
    rfl

/-- A code point that the mapping leaves alone is that of a character that is its own lower case. -/
theorem lowerOf_ofNat (hcode : 128 ≤ code) (hsame : mapByRuns toLowerRuns code = code)
    (hdotted : code ≠ 0x130) : lowerOf (Char.ofNat code) = [Char.ofNat code] := by
  rcases wide_ofNat hcode with heq | ⟨htoNat, hwide⟩
  · rw [heq]
    decide
  · rw [lowerOf, if_neg hwide, htoNat, if_neg (by simpa using hdotted), hsame]

theorem isBlank_ofNat (hcode : 128 ≤ code) (h : code ∉ wideBlanks) :
    isBlank (Char.ofNat code) = false := by
  rcases wide_ofNat hcode with heq | ⟨htoNat, hwide⟩
  · rw [heq]
    decide
  · rw [isBlank, if_neg hwide, htoNat]
    simpa using h

end wide

/-- **The lower case of a character begins with a character that is its own lower case**, and
with a blank only if the character is one. -/
theorem lowerOf_head {c d : Char} {rest : List Char} (h : lowerOf c = d :: rest) :
    lowerOf d = [d] ∧ (isBlank c = false → isBlank d = false) := by
  unfold lowerOf at h
  split at h
  · rename_i hascii
    obtain ⟨rfl, -⟩ := List.cons.inj h
    have hcode : c.toNat < 128 := UInt32.lt_iff_toNat_lt.mp hascii
    rw [← Char.ofNat_toNat c]
    exact lowerOf_toLower_of_ascii c.toNat hcode
  · rename_i hascii
    have hcode : 128 ≤ c.toNat := by
      simpa [UInt32.lt_iff_toNat_lt] using hascii
    split at h
    · obtain ⟨rfl, -⟩ := List.cons.inj h
      exact ⟨by decide, fun _ => by decide⟩
    · rename_i hdotted
      obtain ⟨rfl, -⟩ := List.cons.inj h
      rcases mapByRuns_wide toLowerRuns_settle hcode with hwide | hsmall
      · refine ⟨lowerOf_ofNat hwide (mapByRuns_mapByRuns toLowerRuns_settle _) ?_, fun hblank => ?_⟩
        · exact mapByRuns_ne toLowerRuns_settle List.mem_cons_self (by simpa using hdotted)
        · apply isBlank_ofNat hwide
          intro hmapped
          have hin : c.toNat ∉ wideBlanks := by
            rw [isBlank, if_neg hascii] at hblank
            simpa using hblank
          refine mapByRuns_ne toLowerRuns_settle (List.mem_cons_of_mem _ hmapped) ?_ rfl
          exact fun heq => hin (heq ▸ hmapped)
      · rw [hsmall]
        exact ⟨by decide, fun _ => by decide⟩

theorem lowerOf_ne_nil (c : Char) : lowerOf c ≠ [] := by
  rcases lowerOf_cases c with ⟨d, h⟩ | h <;> simp [h]

/-- The lower case of a character that is no blank has no blank. -/
theorem not_blank_of_mem_lowerOf {c d : Char} (hc : isBlank c = false) (hd : d ∈ lowerOf c) :
    isBlank d = false := by
  rcases lowerOf_cases c with ⟨e, h⟩ | h
  · rw [h, List.mem_singleton] at hd
    exact hd ▸ (lowerOf_head h).2 hc
  · rw [h] at hd
    rcases List.mem_cons.mp hd with rfl | hd
    · decide
    · rw [List.mem_singleton.mp hd]
      decide

/-- **Lower case changes a text exactly if it changes a character of it**, whatever stands beside
the characters. -/
theorem lowerAfter_eq_self_iff {before cs : List Char} :
    lowerAfter before cs = cs ↔ ∀ c ∈ cs, lowerOf c = [c] := by
  induction cs generalizing before with
  | nil => simp [lowerAfter]
  | cons c rest ih =>
      rw [lowerAfter, List.forall_mem_cons]
      constructor
      · intro h
        split at h
        · -- a capital sigma has become the final one
          rename_i hsigma
          obtain ⟨rfl, -⟩ := List.cons.inj h
          exact absurd hsigma (by simp)
        · rcases lowerOf_cases c with ⟨d, hd⟩ | hdotted
          · rw [hd] at h
            obtain ⟨rfl, hrest⟩ := List.cons.inj h
            exact ⟨hd, ih.mp hrest⟩
          · rw [hdotted] at h
            obtain ⟨rfl, -⟩ := List.cons.inj h
            exact absurd hdotted (by decide)
      · rintro ⟨hc, hrest⟩
        have hsigma : ¬ c.toNat = 0x3a3 := by
          intro hcode
          rw [← Char.ofNat_toNat c, hcode] at hc
          exact absurd hc (by decide)
        rw [if_neg (by simp [hsigma]), hc, ih.mpr hrest, List.singleton_append]

/-- Beyond ASCII only characters that become a k have an ASCII letter for their lower case. -/
theorem lowerOf_ne {c d : Char} (hc : ¬ c.val < 128) (hd : d.val < 128) (hnull : d ≠ Char.ofNat 0)
    (hk : d ≠ 'k') : lowerOf c ≠ [d] := by
  have hcode : 128 ≤ c.toNat := by
    simpa [UInt32.lt_iff_toNat_lt] using hc
  intro h
  rw [lowerOf, if_neg hc] at h
  split at h
  · cases h
  · obtain ⟨rfl, -⟩ := List.cons.inj h
    rcases mapByRuns_wide toLowerRuns_settle hcode with hwide | hsmall
    · rcases wide_ofNat hwide with heq | ⟨-, hno⟩
      · exact hnull heq
      · exact hno hd
    · exact hk (congrArg Char.ofNat hsmall)

end ConnectClients.Text
