import ConnectClients.Proofs.Text.Lowering

/-!
# Upper case is upper case

What the upper case of a character begins with is a character that is its own upper case, whether
the character becomes one or several. The table of the mapping sends no code point to one that it
maps, and none to one that becomes several.
-/

namespace ConnectClients.Text

/-! ## The table -/

/-- Whether no code point that one run maps to is in another run: the first one misses the other,
or it lands between the code points of the other from below its first one. -/
def runPasses (run other : Nat × Nat × Nat × Nat × Nat) : Bool :=
  runMisses run other ||
    (Nat.ble (firstImage run) other.1 && (run.1 == run.2.1 || run.2.2.1 % other.2.2.1 == 0) &&
      (other.1 - firstImage run) % other.2.2.1 != 0)

/-- The run that holds one code point. -/
def singleRun (code : Nat) : Nat × Nat × Nat × Nat × Nat := (code, code, 1, 0, 0)

/-- Whether a run maps to code points only that no run holds and that do not become several. If it
reaches ASCII, it maps a single code point, to that of a capital. -/
def runRaises (run : Nat × Nat × Nat × Nat × Nat) : Bool :=
  Nat.ble run.2.2.2.2 (run.1 + run.2.2.2.1) &&
    (Nat.ble 128 (firstImage run) ||
      (run.1 == run.2.1 && (Char.ofNat (firstImage run)).isUpper && Nat.blt (firstImage run) 128)) &&
    toUpperRuns.all (runPasses run) &&
    toUpperSequences.all fun e => runMisses run (singleRun e.1)

theorem toUpperRuns_raise : toUpperRuns.all runRaises = true := by decide +kernel

theorem toUpperSequences_head : toUpperSequences.all (fun e => e.2.head?.any fun code =>
    upperOf (Char.ofNat code) == [Char.ofNat code]) = true := by
  decide +kernel

variable {run other : Nat × Nat × Nat × Nat × Nat} {code : Nat}

theorem not_holds_of_runPasses (hdown : run.2.2.2.2 ≤ run.1 + run.2.2.2.1)
    (hpasses : runPasses run other = true) (h : Holds run code) :
    ¬ Holds other (code + run.2.2.2.1 - run.2.2.2.2) := by
  unfold runPasses at hpasses
  rcases (Bool.or_eq_true_iff.mp hpasses) with hmisses | hbelow
  · exact not_holds_of_runMisses hdown hmisses h
  · obtain ⟨hfirst, hlast, hstride⟩ := h
    rintro ⟨hfirst', -, hstride'⟩
    simp only [firstImage, Bool.and_eq_true, Bool.or_eq_true, Nat.ble_eq, beq_iff_eq,
      bne_iff_ne] at hbelow
    obtain ⟨⟨hle, hmultiple⟩, hbetween⟩ := hbelow
    have hsteps := dvd_of_multiple hmultiple hfirst hlast hstride
    have hsplit : other.1 - (run.1 + run.2.2.2.1 - run.2.2.2.2) =
        (code - run.1) - (code + run.2.2.2.1 - run.2.2.2.2 - other.1) := by
      omega
    rw [hsplit] at hbetween
    exact hbetween (Nat.mod_eq_zero_of_dvd
      (Nat.dvd_sub hsteps (Nat.dvd_of_mod_eq_zero hstride')))

theorem lookup_toUpperSequences (h : ∀ e ∈ toUpperSequences, ¬ Holds (singleRun e.1) code) :
    toUpperSequences.lookup code = none := by
  rw [List.lookup_eq_none_iff]
  intro e he
  rw [bne_iff_ne]
  rintro rfl
  exact h e he ⟨Nat.le_refl _, Nat.le_refl _, Nat.mod_one _⟩

/-! ## One character -/

theorem upperOf_toUpper_of_ascii : ∀ n < 128,
    upperOf (Char.ofNat n).toUpper = [(Char.ofNat n).toUpper] ∧
      ((Char.ofNat n).isUpper = true → upperOf (Char.ofNat n) = [Char.ofNat n]) := by
  decide +kernel

/-- A code point that neither mapping holds is that of a character that is its own upper case. -/
theorem upperOf_ofNat (hcode : 128 ≤ code) (hsame : mapByRuns toUpperRuns code = code)
    (hone : toUpperSequences.lookup code = none) : upperOf (Char.ofNat code) = [Char.ofNat code] := by
  rcases wide_ofNat hcode with heq | ⟨htoNat, hwide⟩
  · rw [heq]
    decide
  · rw [upperOf, if_neg hwide, htoNat, hone]
    dsimp only
    rw [hsame]

/-- A code point beyond ASCII that becomes one is mapped to that of a character that is its own
upper case. -/
theorem upperOf_mapByRuns (hcode : 128 ≤ code) (hone : toUpperSequences.lookup code = none) :
    upperOf (Char.ofNat (mapByRuns toUpperRuns code)) =
      [Char.ofNat (mapByRuns toUpperRuns code)] := by
  rcases mapByRuns_cases toUpperRuns code with heq | ⟨run, hmem, hholds, heq⟩
  · rw [heq]
    exact upperOf_ofNat hcode heq hone
  · have hraises := List.all_eq_true.mp toUpperRuns_raise _ hmem
    simp only [runRaises, Bool.and_eq_true, Bool.or_eq_true, Nat.ble_eq, Nat.blt_eq,
      beq_iff_eq] at hraises
    obtain ⟨⟨⟨hdown, hreach⟩, hpasses⟩, hsequences⟩ := hraises
    have himage : firstImage run ≤ code + run.2.2.2.1 - run.2.2.2.2 := by
      have hfirst := hholds.1
      unfold firstImage
      omega
    rw [heq]
    rcases hreach with hwide | ⟨⟨hsingle, hcapital⟩, hascii⟩
    · refine upperOf_ofNat (Nat.le_trans hwide himage) ?_ ?_
      · rcases mapByRuns_cases toUpperRuns (code + run.2.2.2.1 - run.2.2.2.2) with
          hsame | ⟨other, hmem', hholds', -⟩
        · exact hsame
        · have hpasses' := List.all_eq_true.mp hpasses _ hmem'
          exact absurd hholds' (not_holds_of_runPasses hdown hpasses' hholds)
      · apply lookup_toUpperSequences
        intro e he
        exact not_holds_of_runMisses hdown (List.all_eq_true.mp hsequences e he) hholds
    · have hself : code + run.2.2.2.1 - run.2.2.2.2 = firstImage run := by
        obtain ⟨hfirst, hlast, -⟩ := hholds
        unfold firstImage
        omega
      rw [hself]
      exact (upperOf_toUpper_of_ascii _ hascii).2 hcapital

/-- **The upper case of a character begins with a character that is its own upper case.** -/
theorem exists_upperOf_eq (c : Char) : ∃ d rest, upperOf c = d :: rest ∧ upperOf d = [d] := by
  rw [upperOf]
  split
  · rename_i hascii
    have hupper := (upperOf_toUpper_of_ascii c.toNat (UInt32.lt_iff_toNat_lt.mp hascii)).1
    rw [Char.ofNat_toNat] at hupper
    exact ⟨_, _, rfl, hupper⟩
  · rename_i hascii
    have hcode : 128 ≤ c.toNat := by
      simpa [UInt32.lt_iff_toNat_lt] using hascii
    split
    · rename_i codes hlookup
      obtain ⟨before, after, hsplit, -⟩ := List.lookup_eq_some_iff.mp hlookup
      have hhead := List.all_eq_true.mp toUpperSequences_head (c.toNat, codes)
        (by rw [hsplit]; simp)
      cases codes with
      | nil => exact absurd hhead Bool.false_ne_true
      | cons code codes => exact ⟨_, _, rfl, eq_of_beq hhead⟩
    · rename_i hone
      exact ⟨_, _, rfl, upperOf_mapByRuns hcode hone⟩

/-! ## ASCII letters -/

/-- What holds of the ASCII characters one by one. -/
theorem forall_ascii {p : Char → Prop} (h : ∀ n < 128, p (Char.ofNat n)) {c : Char}
    (hc : c.val < 128) : p c := by
  have hcode := h c.toNat (UInt32.lt_iff_toNat_lt.mp hc)
  rwa [Char.ofNat_toNat] at hcode

/-- How an ASCII letter and its capital look, and every other ASCII character. -/
structure AsciiCase (c : Char) : Prop where
  capital : c.isAlpha = true → isUpper c.toUpper = true ∧ isLower c.toUpper = false ∧
    lowerOf c.toUpper ≠ [c.toUpper]
  small : isLower c.toLower = c.isAlpha
  letter : isLower c = true → c.isAlpha = true
  upper : isUpper c = true → c.toUpper = c
  other : c.isAlpha = false → c.toLower = c ∧ lowerOf c = [c]

instance (c : Char) : Decidable (AsciiCase c) :=
  decidable_of_iff
    ((c.isAlpha = true → isUpper c.toUpper = true ∧ isLower c.toUpper = false ∧
        lowerOf c.toUpper ≠ [c.toUpper]) ∧
      isLower c.toLower = c.isAlpha ∧ (isLower c = true → c.isAlpha = true) ∧
      (isUpper c = true → c.toUpper = c) ∧
      (c.isAlpha = false → c.toLower = c ∧ lowerOf c = [c]))
    ⟨fun ⟨h₁, h₂, h₃, h₄, h₅⟩ => ⟨h₁, h₂, h₃, h₄, h₅⟩,
      fun h => ⟨h.capital, h.small, h.letter, h.upper, h.other⟩⟩

theorem asciiCase {c : Char} (hc : c.val < 128) : AsciiCase c :=
  forall_ascii (by decide +kernel) hc

/-- There is no capital sigma in ASCII. -/
theorem lowerAfter_of_ascii {before cs : List Char} (h : ∀ c ∈ cs, c.val < 128) :
    lowerAfter before cs = cs.map Char.toLower := by
  induction cs generalizing before with
  | nil => rfl
  | cons c rest ih =>
      rw [List.forall_mem_cons] at h
      have hcode : c.toNat < 128 := UInt32.lt_iff_toNat_lt.mp h.1
      have hsigma : c.toNat ≠ 0x3a3 := by omega
      rw [lowerAfter, if_neg (by simp [hsigma]), lowerOf, if_pos h.1, ih h.2]
      rfl

end ConnectClients.Text
