import ConnectClients.FieldRename
import ConnectClients.Proofs.Assoc
import ConnectClients.Proofs.Identifier.Plain

/-!
# The property that a field becomes

In a generated module every underscore of a field's name is dropped, whatever stands behind it, and
the character behind it becomes a capital. Camel case drops an underscore only before a small
letter. So the two names are one exactly if a small letter stands behind every underscore: any other
underscore is kept by camel case, and no property has one.
-/

namespace ConnectClients

open Text

namespace Identifier

/-! ## Names of properties -/

/-- The name read from left to right: an underscore is dropped and asks for a capital, a digit is
kept and takes that back, and any other character is the capital that was asked for. -/
def propertyChars : (capital : Bool) → List Char → List Char
  | _, [] => []
  | capital, c :: rest =>
    if c = '_' then propertyChars true rest
    else if c.isDigit then c :: propertyChars false rest
    else (if capital then upperOf c else [c]) ++ propertyChars false rest

/-- The name of the property that a field becomes in a generated module. -/
def propertyName (name : String) : String :=
  String.ofList (propertyChars false name.toList)

theorem underscore_not_mem_propertyChars (capital : Bool) (name : List Char) :
    '_' ∉ propertyChars capital name := by
  induction name generalizing capital with
  | nil => exact List.not_mem_nil
  | cons c rest ih =>
      rw [propertyChars]
      split
      · exact ih true
      · rename_i hc
        split
        · rw [List.mem_cons, not_or]
          exact ⟨Ne.symm hc, ih false⟩
        · rw [List.mem_append, not_or]
          refine ⟨fun hmem => ?_, ih false⟩
          split at hmem
          · exact hc (eq_of_mark_mem_upperOf (by decide) hmem)
          · exact hc (List.mem_singleton.mp hmem).symm

/-! ## Underscores before small letters -/

/-- A small letter stands behind every underscore. -/
def LettersFollow (name : List Char) : Prop :=
  ∀ before rest, name = before ++ '_' :: rest → ∃ c ∈ rest.head?, c.isLower = true

theorem lettersFollow_cons_iff {c : Char} {rest : List Char} :
    LettersFollow (c :: rest) ↔
      (c = '_' → ∃ d ∈ rest.head?, d.isLower = true) ∧ LettersFollow rest := by
  constructor
  · intro h
    refine ⟨?_, fun before tail hrest => h (c :: before) tail (by rw [hrest, List.cons_append])⟩
    rintro rfl
    exact h [] rest rfl
  · rintro ⟨hc, hrest⟩ before tail heq
    cases before with
    | nil =>
        obtain ⟨rfl, rfl⟩ := List.cons.inj heq
        exact hc rfl
    | cons b before => exact hrest before tail (List.cons.inj heq).2

theorem ne_underscore_of_isLower {c : Char} (h : c.isLower = true) : c ≠ '_' := by
  rintro rfl
  exact absurd h (by decide)

/-- A small letter behind an underscore becomes the same capital in both readings. -/
theorem propertyChars_capital {c : Char} (h : c.isLower = true) (rest : List Char) :
    propertyChars true (c :: rest) = c.toUpper :: propertyChars false rest := by
  have halphanum : c.isAlphanum = true := by
    show (c.isUpper || c.isLower || c.isDigit) = true
    rw [h, Bool.or_true, Bool.true_or]
  have hascii : c.val < 128 := ascii_of_isAlphanum halphanum
  have hdigit : c.isDigit = false :=
    forall_ascii (p := fun c => c.isLower = true → c.isDigit = false) (by decide +kernel) hascii h
  rw [propertyChars, if_neg (ne_underscore_of_isLower h), hdigit, upperOf, if_pos hascii]
  rfl

theorem propertyChars_of_ne {c : Char} (h : c ≠ '_') (rest : List Char) :
    propertyChars false (c :: rest) = c :: propertyChars false rest := by
  rw [propertyChars, if_neg h, ite_eq_left_iff]
  exact fun _ => rfl

theorem camelCaseChars_of_ne {c : Char} (h : c ≠ '_') (rest : List Char) :
    camelCaseChars (c :: rest) = c :: camelCaseChars rest := by
  rw [camelCaseChars]
  rintro d tail rfl
  exact absurd rfl h

theorem propertyChars_of_lettersFollow {name : List Char} (h : LettersFollow name) :
    propertyChars false name = camelCaseChars name := by
  induction name using camelCaseChars.induct with
  | case1 c rest hlower ih =>
      have hrest := (lettersFollow_cons_iff.mp (lettersFollow_cons_iff.mp h).2).2
      rw [propertyChars, if_pos rfl, propertyChars_capital hlower, ih hrest, camelCaseChars,
        if_pos hlower]
  | case2 c rest hlower ih =>
      obtain ⟨d, hd, hd'⟩ := (lettersFollow_cons_iff.mp h).1 rfl
      obtain rfl := Option.some.inj hd
      exact absurd hd' hlower
  | case3 c rest hcons ih =>
      obtain ⟨hfollow, hrest⟩ := lettersFollow_cons_iff.mp h
      have hc : c ≠ '_' := by
        intro hc
        obtain ⟨d, hd, -⟩ := hfollow hc
        obtain ⟨tail, rfl⟩ := List.head?_eq_some_iff.mp hd
        exact hcons d tail hc rfl
      rw [propertyChars_of_ne hc, camelCaseChars_of_ne hc, ih hrest]
  | case4 => rfl

/-- An underscore that no small letter follows is kept. -/
theorem lettersFollow_of_not_mem {name : List Char} (h : '_' ∉ camelCaseChars name) :
    LettersFollow name := by
  induction name using camelCaseChars.induct with
  | case1 c rest hlower ih =>
      rw [camelCaseChars, if_pos hlower, List.mem_cons, not_or] at h
      have hrest : LettersFollow (c :: rest) :=
        lettersFollow_cons_iff.mpr
          ⟨fun hc => absurd hc (ne_underscore_of_isLower hlower), ih h.2⟩
      exact lettersFollow_cons_iff.mpr ⟨fun _ => ⟨c, rfl, hlower⟩, hrest⟩
  | case2 c rest hlower ih =>
      rw [camelCaseChars, if_neg hlower] at h
      exact absurd List.mem_cons_self h
  | case3 c rest hcons ih =>
      have hc : c ≠ '_' := by
        rintro rfl
        cases rest with
        | nil => exact h (by decide)
        | cons d tail => exact hcons d tail rfl rfl
      rw [camelCaseChars_of_ne hc, List.mem_cons, not_or] at h
      exact lettersFollow_cons_iff.mpr ⟨fun h' => absurd h' hc, ih h.2⟩
  | case4 => exact fun before rest heq => absurd heq (by simp)

theorem camelCaseChars_eq_propertyChars_iff {name : List Char} :
    camelCaseChars name = propertyChars false name ↔ LettersFollow name := by
  constructor
  · intro h
    apply lettersFollow_of_not_mem
    rw [h]
    exact underscore_not_mem_propertyChars false name
  · exact fun h => (propertyChars_of_lettersFollow h).symm

end Identifier

/-! ## The names that are looked for -/

namespace FieldRename

open Identifier

/-- The JSON names that a schema declares, by the property that the field becomes. -/
def byProperty (source : String) : List (String × String) :=
  Assoc.ofList <| (scanAll readField source.toList).map fun (field, name) =>
    (String.ofList (propertyChars false field), String.ofList name)

/-- The fields of a schema are looked for under the names of their properties exactly if a small
letter stands behind every underscore of their names. -/
theorem ofSchema_eq_byProperty_iff (source : String) :
    ofSchema source = byProperty source ↔
      ∀ found ∈ scanAll readField source.toList, LettersFollow found.1 := by
  unfold ofSchema byProperty
  constructor
  · intro h found hfound
    by_contra hfollow
    -- its key has an underscore, and no property has one
    have hunderscore : '_' ∈ camelCaseChars found.1 := by
      by_contra hnot
      exact hfollow (lettersFollow_of_not_mem hnot)
    have hlookup := congrArg (List.lookup (String.ofList (camelCaseChars found.1))) h
    rw [Assoc.lookup_ofList, Assoc.lookup_ofList] at hlookup
    have hnone : (((scanAll readField source.toList).map fun (field, name) =>
        (String.ofList (propertyChars false field), String.ofList name)).reverse.lookup
          (String.ofList (camelCaseChars found.1))) = none := by
      rw [List.lookup_eq_none_iff]
      intro entry hentry
      obtain ⟨other, -, rfl⟩ := List.mem_map.mp (List.mem_reverse.mp hentry)
      rw [bne_iff_ne]
      intro hsame
      rw [String.ofList_inj] at hsame
      exact underscore_not_mem_propertyChars false other.1 (hsame ▸ hunderscore)
    rw [hnone, List.lookup_eq_none_iff] at hlookup
    have hkey := hlookup _ (List.mem_reverse.mpr (List.mem_map.mpr ⟨found, hfound, rfl⟩))
    exact absurd rfl (bne_iff_ne.mp hkey)
  · intro h
    refine congrArg _ (List.map_congr_left fun found hfound => ?_)
    dsimp only
    rw [camelCaseChars_eq_propertyChars_iff.mpr (h found hfound)]

end FieldRename

namespace Identifier

open FieldRename

/-- **When the camel case of a field is the property that it becomes.** It is exactly if a small
letter stands behind every underscore of its name, and exactly the schemas whose fields are all
named so have their JSON names collected under the properties that there are. -/
theorem camelCase_eq_propertyName_iff (name source : String) :
    (camelCase name = propertyName name ↔ LettersFollow name.toList) ∧
      (ofSchema source = byProperty source ↔
        ∀ found ∈ scanAll readField source.toList, LettersFollow found.1) := by
  refine ⟨?_, ofSchema_eq_byProperty_iff source⟩
  rw [camelCase, propertyName, String.ofList_inj]
  exact camelCaseChars_eq_propertyChars_iff

/-- A field with a digit behind an underscore, and a JSON name. -/
def lineOne : String := "string line_1 = 1 [json_name = \"first\"];\n"

theorem lineOne_not_property :
    camelCase "line_1" = "line_1" ∧ propertyName "line_1" = "line1" ∧
      ofSchema lineOne = [("line_1", "first")] ∧ byProperty lineOne = [("line1", "first")] ∧
      ¬ LettersFollow "line_1".toList := by
  refine ⟨by decide, by decide, by decide +kernel, by decide +kernel, fun hfollow => ?_⟩
  have hiff := (camelCase_eq_propertyName_iff "line_1" lineOne).1
  exact absurd (hiff.mpr hfollow) (by decide)

end Identifier

end ConnectClients
