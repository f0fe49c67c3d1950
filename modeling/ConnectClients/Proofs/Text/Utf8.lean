import Mathlib.Data.List.Basic
import ConnectClients.Text.Utf8

/-!
# Text that is written and read again

The octets of a text decode to the text, and reading changes nothing in it but the ends of its
lines. So a text without carriage returns is read as it was written.
-/

namespace ConnectClients.Text

/-! ## One character -/

section octets

variable {position : Nat} {p : PartialChar} {n : Nat} {rest : List UInt8}

theorem toNat_ofNat (h : n < 256) : (UInt8.ofNat n).toNat = n := by
  exact UInt8.toNat_ofNat_of_lt' h

/-- An octet that more octets of the same character follow. -/
theorem decodeFrom_next (hleast : p.least ≤ n) (hmost : n ≤ p.most) (hn : n < 256)
    (hmissing : 1 < p.missing) : decodeFrom position (some p) (.ofNat n :: rest) =
      decodeFrom (position + 1) (some ⟨p.position, p.octet, p.read + 1, p.missing - 1, 0x80, 0xbf,
        p.code * 64 + (n - 0x80)⟩) rest := by
  rw [decodeFrom, toNat_ofNat hn, if_pos ⟨hleast, hmost⟩]
  exact if_neg (Nat.not_le.mpr hmissing)

/-- The last octet of a character. -/
theorem decodeFrom_last (hleast : p.least ≤ n) (hmost : n ≤ p.most) (hn : n < 256)
    (hmissing : p.missing ≤ 1) : decodeFrom position (some p) (.ofNat n :: rest) =
      (decodeFrom (position + 1) none rest).map
        (Char.ofNat (p.code * 64 + (n - 0x80)) :: ·) := by
  rw [decodeFrom, toNat_ofNat hn, if_pos ⟨hleast, hmost⟩]
  exact if_pos hmissing

/-- The first octet of a character with several. -/
theorem decodeFrom_lead (hn : n < 256) (hwide : 0x80 ≤ n)
    (hlead : PartialChar.ofLead? position (.ofNat n) = some p) :
    decodeFrom position none (.ofNat n :: rest) = decodeFrom (position + 1) (some p) rest := by
  rw [decodeFrom, toNat_ofNat hn, if_neg (Nat.not_lt.mpr hwide), hlead]

/-! The octets of a code decode to its character, by how many there are. -/

theorem decodeFrom_one (h : n < 0x80) : decodeFrom position none (.ofNat n :: rest) =
    (decodeFrom (position + 1) none rest).map (Char.ofNat n :: ·) := by
  rw [decodeFrom, toNat_ofNat (by omega), if_pos h]

theorem decodeFrom_two (hleast : 0x80 ≤ n) (hmost : n < 0x800) :
    decodeFrom position none (.ofNat (0xc0 + n / 64) :: .ofNat (0x80 + n % 64) :: rest) =
      (decodeFrom (position + 2) none rest).map (Char.ofNat n :: ·) := by
  have hlead : PartialChar.ofLead? position (.ofNat (0xc0 + n / 64)) =
      some ⟨position, .ofNat (0xc0 + n / 64), 1, 1, 0x80, 0xbf, n / 64⟩ := by
    rw [PartialChar.ofLead?, toNat_ofNat (by omega)]
    rw [if_neg (by omega), if_pos (by omega), Nat.add_sub_cancel_left]
  have hcode : n / 64 * 64 + (0x80 + n % 64 - 0x80) = n := by omega
  rw [decodeFrom_lead (by omega) (by omega) hlead,
    decodeFrom_last (by dsimp only; omega) (by dsimp only; omega) (by omega) (Nat.le_refl 1)]
  dsimp only
  rw [hcode]

theorem decodeFrom_three (hleast : 0x800 ≤ n) (hmost : n < 0x10000)
    (hvalid : n < 0xd800 ∨ 0xdfff < n) :
    decodeFrom position none (.ofNat (0xe0 + n / 4096) :: .ofNat (0x80 + n / 64 % 64) ::
        .ofNat (0x80 + n % 64) :: rest) =
      (decodeFrom (position + 3) none rest).map (Char.ofNat n :: ·) := by
  have hlead : PartialChar.ofLead? position (.ofNat (0xe0 + n / 4096)) =
      some ⟨position, .ofNat (0xe0 + n / 4096), 1, 2,
        if 0xe0 + n / 4096 = 0xe0 then 0xa0 else 0x80,
        if 0xe0 + n / 4096 = 0xed then 0x9f else 0xbf, n / 4096⟩ := by
    rw [PartialChar.ofLead?, toNat_ofNat (by omega)]
    rw [if_neg (by omega), if_neg (by omega), if_pos (by omega), Nat.add_sub_cancel_left]
  have hcode : (n / 4096 * 64 + (0x80 + n / 64 % 64 - 0x80)) * 64 + (0x80 + n % 64 - 0x80) = n := by
    omega
  -- the bounds of the second octet leave out what has a shorter form, and halves of pairs
  have hsecond : (if 0xe0 + n / 4096 = 0xe0 then 0xa0 else 0x80) ≤ 0x80 + n / 64 % 64 := by
    split <;> omega
  have hsecond' : 0x80 + n / 64 % 64 ≤ if 0xe0 + n / 4096 = 0xed then 0x9f else 0xbf := by
    split <;> omega
  rw [decodeFrom_lead (by omega) (by omega) hlead,
    decodeFrom_next hsecond hsecond' (by omega) (by decide : 1 < 2),
    decodeFrom_last (by dsimp only; omega) (by dsimp only; omega) (by omega) (Nat.le_refl 1)]
  dsimp only
  rw [hcode]

theorem decodeFrom_four (hleast : 0x10000 ≤ n) (hmost : n < 0x110000) :
    decodeFrom position none (.ofNat (0xf0 + n / 262144) :: .ofNat (0x80 + n / 4096 % 64) ::
        .ofNat (0x80 + n / 64 % 64) :: .ofNat (0x80 + n % 64) :: rest) =
      (decodeFrom (position + 4) none rest).map (Char.ofNat n :: ·) := by
  have hlead : PartialChar.ofLead? position (.ofNat (0xf0 + n / 262144)) =
      some ⟨position, .ofNat (0xf0 + n / 262144), 1, 3,
        if 0xf0 + n / 262144 = 0xf0 then 0x90 else 0x80,
        if 0xf0 + n / 262144 = 0xf4 then 0x8f else 0xbf, n / 262144⟩ := by
    rw [PartialChar.ofLead?, toNat_ofNat (by omega)]
    rw [if_neg (by omega), if_neg (by omega), if_neg (by omega), if_pos (by omega),
      Nat.add_sub_cancel_left]
  have hcode : ((n / 262144 * 64 + (0x80 + n / 4096 % 64 - 0x80)) * 64 +
      (0x80 + n / 64 % 64 - 0x80)) * 64 + (0x80 + n % 64 - 0x80) = n := by
    omega
  -- the bounds of the second octet leave out what has a shorter form, and what is no character
  have hsecond : (if 0xf0 + n / 262144 = 0xf0 then 0x90 else 0x80) ≤ 0x80 + n / 4096 % 64 := by
    split <;> omega
  have hsecond' : 0x80 + n / 4096 % 64 ≤ if 0xf0 + n / 262144 = 0xf4 then 0x8f else 0xbf := by
    split <;> omega
  rw [decodeFrom_lead (by omega) (by omega) hlead,
    decodeFrom_next hsecond hsecond' (by omega) (by decide : 1 < 3),
    decodeFrom_next (by dsimp only; omega) (by dsimp only; omega) (by omega) (by decide : 1 < 2),
    decodeFrom_last (by dsimp only; omega) (by dsimp only; omega) (by omega) (Nat.le_refl 1)]
  dsimp only
  rw [hcode]

end octets

/-- The octets of a character decode to the character. -/
theorem decodeFrom_encodeChar (position : Nat) (c : Char) (rest : List UInt8) :
    decodeFrom position none (encodeChar c ++ rest) =
      (decodeFrom (position + (encodeChar c).length) none rest).map (c :: ·) := by
  have hvalid : c.toNat < 0xd800 ∨ (0xdfff < c.toNat ∧ c.toNat < 0x110000) := c.valid
  have hself : Char.ofNat c.toNat = c := Char.ofNat_toNat c
  rw [encodeChar]
  generalize c.toNat = n at hvalid hself
  subst hself
  by_cases h₁ : n < 0x80
  · rw [if_pos h₁]
    exact decodeFrom_one h₁
  rw [if_neg h₁]
  by_cases h₂ : n < 0x800
  · rw [if_pos h₂]
    exact decodeFrom_two (by omega) h₂
  rw [if_neg h₂]
  by_cases h₃ : n < 0x10000
  · rw [if_pos h₃]
    exact decodeFrom_three (by omega) h₃ (by omega)
  · rw [if_neg h₃]
    exact decodeFrom_four (by omega) (by omega)

/-! ## Texts -/

theorem decodeFrom_encode (position : Nat) (cs : List Char) :
    decodeFrom position none (cs.flatMap encodeChar) = .ok cs := by
  induction cs generalizing position with
  | nil => rfl
  | cons c cs ih =>
      rw [List.flatMap_cons, decodeFrom_encodeChar, ih]
      rfl

theorem decode_encode (text : String) : decode (encode text) = .ok text := by
  rw [decode, encode, decodeFrom_encode, Except.map, String.ofList_toList]

/-! ## Ends of lines -/

theorem return_not_mem_unifyNewlines (cs : List Char) : '\r' ∉ unifyNewlines cs := by
  induction cs using unifyNewlines.induct with
  | case1 => exact List.not_mem_nil
  | case2 rest ih =>
      rw [unifyNewlines, List.mem_cons, not_or]
      exact ⟨by decide, ih⟩
  | case3 rest hnext ih =>
      rw [unifyNewlines, List.mem_cons, not_or]
      · exact ⟨by decide, ih⟩
      · exact hnext
  | case4 c rest hpair hreturn ih =>
      rw [unifyNewlines, List.mem_cons, not_or]
      · exact ⟨fun heq => hreturn heq.symm, ih⟩
      · exact hpair
      · exact hreturn

theorem unifyNewlines_eq_self {cs : List Char} (h : '\r' ∉ cs) : unifyNewlines cs = cs := by
  induction cs with
  | nil => rfl
  | cons c rest ih =>
      rw [List.mem_cons, not_or] at h
      rw [unifyNewlines, ih h.2]
      · rintro _ rfl
        exact absurd rfl h.1
      · rintro rfl
        exact absurd rfl h.1

end ConnectClients.Text
