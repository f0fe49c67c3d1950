import ConnectClients.Proofs.Assoc
import ConnectClients.Proofs.FieldRename.SchemaFields

/-!
# JSON names taken by other fields

A field among whose options no JSON name is read takes the next one that is read on its line, and the
field that this name was declared for is left without one. If no field does so, and what is read
among the options of each field is its JSON name, then what is collected from a schema is what its
fields declare; otherwise it is not, unless two fields have one name in generated code.
-/

namespace ConnectClients.FieldRename

open Text

/-! ## What is declared and what is collected -/

/-- The JSON names of all fields that have one. -/
def declared (ds : List FieldDeclaration) : List (String × String) :=
  ds.filterMap fun d => d.jsonName?.map d.entry

/-- The first JSON name that is read on the rest of the line, and the fields behind it. -/
def nextOnLine : List FieldDeclaration → Option (List Char × List FieldDeclaration)
  | [] => none
  | d :: ds =>
    if '\n' ∈ d.lead then none else (d.readName?.map fun name => (name, ds)).or (nextOnLine ds)

/-- The JSON name that a field with options takes, from these or from further on its line, and the
fields behind it. -/
def FieldDeclaration.taken (d : FieldDeclaration) (ds : List FieldDeclaration) :
    Option (List Char × List FieldDeclaration) :=
  match d.options with
  | [] => none
  | _ :: _ => (d.readName?.map fun name => (name, ds)).or (nextOnLine ds)

theorem nextOnLine_suffix {ds rest : List FieldDeclaration} {name : List Char}
    (h : nextOnLine ds = some (name, rest)) : rest <:+ ds := by
  induction ds with
  | nil => cases h
  | cons d ds ih =>
      rw [nextOnLine] at h
      split at h
      · cases h
      · rcases Option.or_eq_some_iff.mp h with hown | ⟨-, hnext⟩
        · obtain ⟨_, -, heq⟩ := Option.map_eq_some_iff.mp hown
          cases heq
          exact List.suffix_cons d _
        · exact (ih hnext).trans (List.suffix_cons d ds)

theorem FieldDeclaration.taken_suffix {d : FieldDeclaration} {ds rest : List FieldDeclaration}
    {name : List Char} (h : d.taken ds = some (name, rest)) : rest <:+ ds := by
  unfold taken at h
  split at h
  · cases h
  · rcases Option.or_eq_some_iff.mp h with hown | ⟨-, hnext⟩
    · obtain ⟨_, -, heq⟩ := Option.map_eq_some_iff.mp hown
      cases heq
      exact List.suffix_rfl
    · exact nextOnLine_suffix hnext

/-- The fields that take a JSON name, with the name that each of them takes. -/
def collected : List FieldDeclaration → List (String × String)
  | [] => []
  | d :: ds =>
    match _ : d.taken ds with
    | some (name, rest) => d.entry name :: collected rest
    | none => collected ds
termination_by ds => ds.length
decreasing_by
  · exact Nat.lt_succ_of_le (FieldDeclaration.taken_suffix ‹_›).length_le
  · exact Nat.lt_succ_self _

/-- No JSON name is read among the options of a field, but one further on its line. -/
def FieldDeclaration.Strays (d : FieldDeclaration) (ds : List FieldDeclaration) : Prop :=
  d.options ≠ [] ∧ d.readName? = none ∧ nextOnLine ds ≠ none

/-- One of the fields takes the JSON name of another one. -/
def Strays (ds : List FieldDeclaration) : Prop :=
  ∃ d rest, d :: rest <:+ ds ∧ d.Strays rest

/-- What is read among the options of each field is its JSON name, and no field takes the JSON name
of another one. -/
structure KeepsOwnNames (ds : List FieldDeclaration) : Prop where
  own : ∀ d ∈ ds, d.readName? = d.jsonName?
  apart : ¬ Strays ds

/-! ## Reading the text of a schema -/

section schema

variable {ds : List FieldDeclaration} {trail : List Char}

theorem schemaText_cons (d : FieldDeclaration) (ds : List FieldDeclaration) (trail : List Char) :
    schemaText (d :: ds) trail = d.text ++ schemaText ds trail := by
  rw [schemaText, List.flatMap_cons, List.append_assoc, schemaText]

theorem findJsonName_schemaText (htrail : ∀ c ∈ trail, isBlank c = true)
    (ds : List FieldDeclaration) : findJsonName (schemaText ds trail) =
      (nextOnLine ds).map fun (name, rest) => (name, schemaText rest trail) := by
  induction ds with
  | nil =>
      have hend := findJsonName_blanks htrail []
      rw [List.append_nil] at hend
      rw [schemaText, List.flatMap_nil, List.nil_append, hend]
      split <;> rfl
  | cons d ds ih =>
      rw [schemaText_cons, d.findJsonName_text, ih, nextOnLine]
      split
      · rfl
      · cases d.readName? <;> rfl

theorem scanAll_schemaText_cons (htrail : ∀ c ∈ trail, isBlank c = true) (d : FieldDeclaration)
    (ds : List FieldDeclaration) : scanAll readField (schemaText (d :: ds) trail) =
      match d.taken ds with
      | some (name, rest) => (d.name, name) :: scanAll readField (schemaText rest trail)
      | none => scanAll readField (schemaText ds trail) := by
  rw [schemaText_cons, d.scanAll_text, findJsonName_schemaText htrail, FieldDeclaration.taken]
  cases d.options with
  | nil => rfl
  | cons o os =>
      cases d.readName? with
      | some name => rfl
      | none => cases nextOnLine ds <;> rfl

theorem collected_cons (d : FieldDeclaration) (ds : List FieldDeclaration) :
    collected (d :: ds) =
      match d.taken ds with
      | some (name, rest) => d.entry name :: collected rest
      | none => collected ds := by
  rw [collected]
  split
  · rename_i h
    rw [h]
  · rename_i h
    rw [h]

/-- The scan goes from field to field as the fields take their names. -/
theorem ofSchema_schemaText (htrail : ∀ c ∈ trail, isBlank c = true) (ds : List FieldDeclaration) :
    ofSchema (String.ofList (schemaText ds trail)) = Assoc.ofList (collected ds) := by
  rw [ofSchema, String.toList_ofList]
  congr 1
  induction ds using collected.induct with
  | case1 =>
      have hend := scanAll_readField_blanks htrail []
      rw [List.append_nil, scanAll] at hend
      rw [schemaText, List.flatMap_nil, List.nil_append, hend, collected]
      rfl
  | case2 d ds name rest htaken ih =>
      rw [scanAll_schemaText_cons htrail, collected_cons, htaken]
      exact congrArg (d.entry name :: ·) ih
  | case3 d ds htaken ih =>
      rw [scanAll_schemaText_cons htrail, collected_cons, htaken]
      exact ih

end schema

/-! ## Fields that take the JSON name of another one -/

section strays

variable {d : FieldDeclaration} {ds : List FieldDeclaration}

theorem strays_cons : Strays (d :: ds) ↔ d.Strays ds ∨ Strays ds := by
  constructor
  · rintro ⟨d', rest, hsuffix, hstrays⟩
    rcases List.suffix_cons_iff.mp hsuffix with heq | hsuffix
    · cases heq
      exact Or.inl hstrays
    · exact Or.inr ⟨d', rest, hsuffix, hstrays⟩
  · rintro (hstrays | ⟨d', rest, hsuffix, hstrays⟩)
    · exact ⟨d, ds, List.suffix_rfl, hstrays⟩
    · exact ⟨d', rest, hsuffix.trans (List.suffix_cons d ds), hstrays⟩

theorem keepsOwnNames_cons : KeepsOwnNames (d :: ds) ↔
    d.readName? = d.jsonName? ∧ ¬ d.Strays ds ∧ KeepsOwnNames ds := by
  constructor
  · rintro ⟨hown, happart⟩
    rw [List.forall_mem_cons] at hown
    rw [strays_cons, not_or] at happart
    exact ⟨hown.1, happart.1, hown.2, happart.2⟩
  · rintro ⟨hfirst, hstays, hown, happart⟩
    refine ⟨List.forall_mem_cons.mpr ⟨hfirst, hown⟩, ?_⟩
    rw [strays_cons, not_or]
    exact ⟨hstays, happart⟩

theorem isNameText_of_nextOnLine {name : List Char} {rest : List FieldDeclaration}
    (h : nextOnLine ds = some (name, rest)) : IsNameText name := by
  induction ds with
  | nil => cases h
  | cons d ds ih =>
      rw [nextOnLine] at h
      split at h
      · cases h
      · rcases Option.or_eq_some_iff.mp h with hown | ⟨-, hnext⟩
        · obtain ⟨_, hread, heq⟩ := Option.map_eq_some_iff.mp hown
          cases heq
          exact d.isNameText_of_readName? hread
        · exact ih hnext

/-- A field takes the JSON name that is read among its options, or that of another field, or none. -/
theorem taken_cases (d : FieldDeclaration) (ds : List FieldDeclaration) :
    (∃ name, d.readName? = some name ∧ d.taken ds = some (name, ds)) ∨
      (d.readName? = none ∧ d.Strays ds ∧
        ∃ name rest, IsNameText name ∧ d.taken ds = some (name, rest)) ∨
      (d.readName? = none ∧ ¬ d.Strays ds ∧ d.taken ds = none) := by
  unfold FieldDeclaration.taken FieldDeclaration.Strays FieldDeclaration.readName?
  cases d.options with
  | nil => exact Or.inr (Or.inr ⟨rfl, fun h => h.1 rfl, rfl⟩)
  | cons o os =>
      cases jsonNameIn (optionsText (o :: os)) with
      | some name => exact Or.inl ⟨name, rfl, rfl⟩
      | none =>
          cases hnext : nextOnLine ds with
          | some found =>
              exact Or.inr (Or.inl ⟨rfl, ⟨List.cons_ne_nil o os, rfl, Option.some_ne_none found⟩,
                found.1, found.2, isNameText_of_nextOnLine hnext, rfl⟩)
          | none => exact Or.inr (Or.inr ⟨rfl, fun h => h.2.2 rfl, rfl⟩)

theorem declared_cons (d : FieldDeclaration) (ds : List FieldDeclaration) :
    declared (d :: ds) = (d.jsonName?.map d.entry).toList ++ declared ds := by
  rw [declared, List.filterMap_cons]
  cases d.jsonName? <;> rfl

theorem collected_eq_declared (h : KeepsOwnNames ds) : collected ds = declared ds := by
  induction ds with
  | nil => rw [collected]; rfl
  | cons d ds ih =>
      obtain ⟨hown, hstays, hrest⟩ := keepsOwnNames_cons.mp h
      rw [collected_cons, declared_cons, ← hown, ← ih hrest]
      rcases taken_cases d ds with ⟨name, hread, htaken⟩ | ⟨-, hstrays, -⟩ | ⟨hread, -, htaken⟩
      · rw [htaken, hread]
        rfl
      · exact absurd hstrays hstays
      · rw [htaken, hread]
        rfl

theorem declared_keys_sublist (ds : List FieldDeclaration) :
    ((declared ds).map Prod.fst).Sublist (ds.map FieldDeclaration.generatedName) := by
  induction ds with
  | nil => exact List.Sublist.slnil
  | cons d ds ih =>
      rw [declared_cons, List.map_append, List.map_cons]
      cases d.jsonName? with
      | none => exact ih.cons _
      | some name => exact ih.cons_cons _

theorem collected_keys_sublist (ds : List FieldDeclaration) :
    ((collected ds).map Prod.fst).Sublist (ds.map FieldDeclaration.generatedName) := by
  induction ds using collected.induct with
  | case1 => rw [collected]; exact List.Sublist.slnil
  | case2 d ds name rest htaken ih =>
      have hrest := (FieldDeclaration.taken_suffix htaken).sublist.map FieldDeclaration.generatedName
      rw [collected_cons, htaken, List.map_cons, List.map_cons]
      exact (ih.trans hrest).cons_cons _
  | case3 d ds htaken ih =>
      rw [collected_cons, htaken, List.map_cons]
      exact ih.cons _

/-- A first entry that a field has is declared for it, if no other field has its name. -/
theorem declared_of_cons_eq {name : List Char} {more : List (String × String)}
    (hnew : d.generatedName ∉ ds.map FieldDeclaration.generatedName)
    (h : d.entry name :: more = declared (d :: ds)) :
    d.jsonName? = some name ∧ more = declared ds := by
  rw [declared_cons] at h
  cases hjson : d.jsonName? with
  | none =>
      rw [hjson] at h
      have heq : d.entry name :: more = declared ds := h
      have hmem : d.entry name ∈ declared ds := heq ▸ List.mem_cons_self
      exact absurd ((declared_keys_sublist ds).subset (List.mem_map.mpr ⟨_, hmem, rfl⟩)) hnew
  | some own =>
      rw [hjson] at h
      obtain ⟨hentry, hmore⟩ := List.cons.inj h
      have hname : own = name := String.ofList_injective (Prod.mk.inj hentry).2.symm
      exact ⟨congrArg some hname, hmore⟩

/-- If no two fields have one name, only fields that keep their own JSON names have the entries that
are declared for them. -/
theorem keepsOwnNames_of_eq (hnames : (ds.map FieldDeclaration.generatedName).Nodup)
    (h : collected ds = declared ds) : KeepsOwnNames ds := by
  induction ds with
  | nil =>
      refine ⟨List.forall_mem_nil _, ?_⟩
      rintro ⟨d, rest, hsuffix, -⟩
      exact absurd (List.suffix_nil.mp hsuffix) (List.cons_ne_nil d rest)
  | cons d ds ih =>
      rw [List.map_cons, List.nodup_cons] at hnames
      rw [collected_cons] at h
      rw [keepsOwnNames_cons]
      rcases taken_cases d ds with ⟨name, hread, htaken⟩ |
        ⟨hread, -, name, rest, hname, htaken⟩ | ⟨hread, hstays, htaken⟩
      · rw [htaken] at h
        obtain ⟨hjson, hrest⟩ := declared_of_cons_eq hnames.1 h
        refine ⟨hread.trans hjson.symm, fun hstrays => ?_, ih hnames.2 hrest⟩
        exact absurd (hread.symm.trans hstrays.2.1) (Option.some_ne_none name)
      · -- The name that the field takes would be its own, which is read, being of word characters.
        rw [htaken] at h
        obtain ⟨hjson, -⟩ := declared_of_cons_eq hnames.1 h
        exact absurd hread (d.readName?_ne_none hjson hname)
      · rw [htaken, declared_cons] at h
        cases hjson : d.jsonName? with
        | none =>
            rw [hjson] at h
            exact ⟨hread, hstays, ih hnames.2 h⟩
        | some own =>
            rw [hjson] at h
            have heq : collected ds = d.entry own :: declared ds := h
            have hmem : d.entry own ∈ collected ds := heq ▸ List.mem_cons_self
            exact absurd ((collected_keys_sublist ds).subset (List.mem_map.mpr ⟨_, hmem, rfl⟩))
              hnames.1

/-- **Whose JSON name an option gives.** What is collected from a schema are the JSON names that its
fields take. These are the declared ones if the fields keep their own JSON names, and, where no two
fields have one name in generated code, only then. -/
theorem ofSchema_fields (ds : List FieldDeclaration) {trail : List Char}
    (htrail : ∀ c ∈ trail, isBlank c = true) :
    ofSchema (String.ofList (schemaText ds trail)) = Assoc.ofList (collected ds) ∧
      (KeepsOwnNames ds →
        ofSchema (String.ofList (schemaText ds trail)) = Assoc.ofList (declared ds)) ∧
      ((ds.map FieldDeclaration.generatedName).Nodup →
        ofSchema (String.ofList (schemaText ds trail)) = Assoc.ofList (declared ds) →
          KeepsOwnNames ds) := by
  rw [ofSchema_schemaText htrail]
  refine ⟨rfl, fun hkeeps => by rw [collected_eq_declared hkeeps], fun hnames heq => ?_⟩
  rw [Assoc.ofList_of_nodup ((collected_keys_sublist ds).nodup hnames),
    Assoc.ofList_of_nodup ((declared_keys_sublist ds).nodup hnames)] at heq
  exact keepsOwnNames_of_eq hnames heq

/-- Two fields on one line, the first with an option, the second with a JSON name. -/
def oneLine : List FieldDeclaration :=
  [{ lead := [], scope := [], type := "string".toList, name := "a".toList, number := 1,
     options := [⟨[], .other "deprecated".toList "true".toList (by decide)
       (List.all_iff_forall_prop.mp (by decide)), List.forall_mem_nil _, List.not_mem_nil⟩],
     blank := List.forall_mem_nil _, isScope := List.forall_mem_nil _, isType := by decide,
     isName := by decide },
   { lead := [' '], scope := [], type := "string".toList, name := "b".toList, number := 2,
     options := [⟨[], .jsonName "x".toList (List.all_iff_forall_prop.mp (by decide)),
       List.forall_mem_nil _, List.not_mem_nil⟩],
     blank := List.all_eq_true.mp (by decide), isScope := List.forall_mem_nil _,
     isType := by decide, isName := by decide }]

/-- The first field takes the JSON name of the second one. -/
theorem oneLine_taken : (∀ c ∈ ['\n'], isBlank c = true) ∧
    ofSchema "string a = 1 [deprecated = true]; string b = 2 [json_name = \"x\"];\n" =
      [("a", "x")] ∧ Assoc.ofList (declared oneLine) = [("b", "x")] ∧
    (oneLine.map FieldDeclaration.generatedName).Nodup ∧ ¬ KeepsOwnNames oneLine := by
  have htrail : ∀ c ∈ ['\n'], isBlank c = true := List.all_eq_true.mp (by decide)
  have hnames : (oneLine.map FieldDeclaration.generatedName).Nodup := by decide
  have htext : String.ofList (schemaText oneLine ['\n']) =
      "string a = 1 [deprecated = true]; string b = 2 [json_name = \"x\"];\n" := by decide +kernel
  have hcollected : Assoc.ofList (collected oneLine) = [("a", "x")] := by decide +kernel
  have hdeclared : Assoc.ofList (declared oneLine) = [("b", "x")] := by decide +kernel
  have hstrays : Strays oneLine := ⟨_, _, List.suffix_rfl, by decide, by decide, by decide⟩
  obtain ⟨hread, -, -⟩ := ofSchema_fields oneLine htrail
  rw [htext, hcollected] at hread
  exact ⟨htrail, hread, hdeclared, hnames, fun hkeeps => hkeeps.apart hstrays⟩

end strays

end ConnectClients.FieldRename
