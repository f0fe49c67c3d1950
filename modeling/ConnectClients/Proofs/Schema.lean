import ConnectClients.Schema

/-!
# What schemas ask for

A value fits a schema if nothing is found wrong with it. Each rule is given by the values it has
nothing to say against, so that a schema can be read as the list of what its rules ask for. A rule
about one kind of value has nothing to say against the others, which is why a schema for mappings
names the kind as well.
-/

namespace ConnectClients

open Value (lookup?)

/-- Nothing is wrong with a value under a schema. -/
def Value.Fits (v : Value) (schema : Schema) : Prop := schemaViolations v schema = []

instance (v : Value) (schema : Schema) : Decidable (v.Fits schema) :=
  decidable_of_iff ((schemaViolations v schema).isEmpty = true) List.isEmpty_iff

variable {v : Value}

@[simp] theorem fits_nil : v.Fits [] := by
  rw [Value.Fits, schemaViolations]

theorem fits_cons {rule : Rule} {rules : List Rule} :
    v.Fits (rule :: rules) ↔ rule.violations v = [] ∧ v.Fits rules := by
  simp only [Value.Fits, schemaViolations, List.append_eq_nil_iff]

/-! ## Kinds of values -/

theorem content_ne_cycle (v w : Value) : v.content ≠ .cycle w := by
  induction v using Value.content.induct with
  | case1 content ih => exact ih
  | case2 v hv =>
      intro h
      rw [Value.content] at h
      · exact hv w h
      · exact hv

theorem kind_content (v : Value) : v.content.kind = v.kind := by
  induction v using Value.content.induct with
  | case1 content ih => exact ih
  | case2 v hv =>
      rw [Value.content]
      exact hv

theorem kind_eq_bool_iff : v.kind = .bool ↔ ∃ b, v.content = .bool b := by
  have hcycle := content_ne_cycle v
  rw [← kind_content v]
  cases h : v.content <;> simp_all [Value.kind]

theorem kind_eq_str_iff :
    v.kind = .str ↔ (∃ s, v.content = .str s) ∨ ∃ codes, v.content = .brokenStr codes := by
  have hcycle := content_ne_cycle v
  rw [← kind_content v]
  cases h : v.content <;> simp_all [Value.kind]

theorem kind_eq_list_iff : v.kind = .list ↔ ∃ items, v.items? = some items := by
  have hcycle := content_ne_cycle v
  rw [← kind_content v, Value.items?]
  cases h : v.content <;> simp_all [Value.kind]

theorem kind_eq_dict_iff : v.kind = .dict ↔ ∃ entries, v.entries? = some entries := by
  have hcycle := content_ne_cycle v
  rw [← kind_content v, Value.entries?]
  cases h : v.content <;> simp_all [Value.kind]

/-! ## Rules -/

-- the equations of the rules, which all of the lemmas below are about
attribute [local simp] Rule.violations

theorem type_violations_iff {t : SchemaType} :
    (Rule.type t).violations v = [] ↔ v.kind = t.kind := by
  rw [Rule.violations]
  split
  · simp_all
  · simp_all

theorem const_violations_iff {text : String} :
    (Rule.const text).violations v = [] ↔ v.content = .str text := by
  unfold Rule.violations
  split
  · rename_i s hs
    rw [hs]
    by_cases h : s = text
    · simp [h]
    · simp [h]
  · rename_i hother
    simp only [List.cons_ne_nil, false_iff]
    exact hother text

theorem required_violations_iff {names : List String} :
    (Rule.required names).violations v = [] ↔
      ∀ entries, v.entries? = some entries → ∀ name ∈ names, ∃ w, lookup? name entries = some w := by
  rw [Rule.violations]
  cases v.entries? with
  | none => simp
  | some entries =>
      simp only [List.map_eq_nil_iff, List.filter_eq_nil_iff, Option.isNone_iff_eq_none,
        ← ne_eq, Option.ne_none_iff_exists', Option.some.injEq, forall_eq']

theorem propertyViolations_eq_nil_iff {entries : List (Value × Value)}
    {parts : List (String × List Rule)} :
    propertyViolations entries parts = [] ↔
      ∀ part ∈ parts, ∀ w, lookup? part.1 entries = some w → w.Fits part.2 := by
  induction parts with
  | nil => simp [propertyViolations]
  | cons part parts ih =>
      obtain ⟨name, rules⟩ := part
      rw [propertyViolations, List.append_eq_nil_iff, ih, List.forall_mem_cons]
      refine and_congr ?_ Iff.rfl
      cases lookup? name entries with
      | none => simp
      | some w => simp [Value.Fits]

theorem properties_violations_iff {parts : List (String × List Rule)} :
    (Rule.properties parts).violations v = [] ↔
      ∀ entries, v.entries? = some entries →
        ∀ part ∈ parts, ∀ w, lookup? part.1 entries = some w → w.Fits part.2 := by
  rw [Rule.violations]
  cases v.entries? with
  | none => simp
  | some entries => simp [propertyViolations_eq_nil_iff]

/-- The keys of a mapping that are texts among given ones. -/
theorem otherKeys_eq_nil_iff {names : List String} {entries : List (Value × Value)} :
    Value.otherKeys names entries = [] ↔
      ∀ entry ∈ entries, ∃ name ∈ names, entry.1 = .str name := by
  simp only [Value.otherKeys, List.eq_nil_iff_forall_not_mem, List.mem_mergeSort, List.mem_filter,
    not_and, List.forall_mem_map]
  refine forall₂_congr fun entry _ => ?_
  split
  · rename_i s hs
    simp [hs]
  · rename_i hother
    simp only [not_true_eq_false, false_iff, not_exists, not_and]
    intro name _
    exact hother name

theorem onlyKeys_violations_iff {names : List String} :
    (Rule.onlyKeys names).violations v = [] ↔
      ∀ entries, v.entries? = some entries →
        ∀ entry ∈ entries, ∃ name ∈ names, entry.1 = .str name := by
  rw [Rule.violations]
  cases v.entries? with
  | none => simp
  | some entries =>
      simp only [Option.some.injEq, forall_eq', ← otherKeys_eq_nil_iff]
      cases Value.otherKeys names entries with
      | nil => simp
      | cons key keys => simp

theorem nonempty_violations_iff {t : SchemaType} :
    (Rule.nonempty t).violations v = [] ↔ v.isEmptyOf t = false := by
  rw [Rule.violations]
  cases v.isEmptyOf t with
  | true => simp
  | false => simp

theorem items_violations_iff {rules : List Rule} :
    (Rule.items rules).violations v = [] ↔
      ∀ items, v.items? = some items → ∀ item ∈ items, item.Fits rules := by
  rw [Rule.violations]
  cases v.items? with
  | none => simp
  | some items =>
      simp only [List.flatMap_eq_nil_iff, List.map_eq_nil_iff, Option.some.injEq, forall_eq']
      constructor
      · intro h item hitem
        obtain ⟨i, hi, rfl⟩ := List.getElem_of_mem hitem
        exact h (items[i], i) (List.mem_zipIdx_iff_getElem?.mpr (List.getElem?_eq_getElem hi))
      · intro h item hitem
        exact h item.1 (List.mem_of_getElem? (List.mem_zipIdx_iff_getElem?.mp hitem))

theorem fittingSchemas_eq (v : Value) (schemas : List (List Rule)) :
    fittingSchemas v schemas = schemas.filter fun schema => decide (v.Fits schema) := by
  induction schemas with
  | nil => rw [fittingSchemas, List.filter_nil]
  | cons schema schemas ih =>
      rw [fittingSchemas, ih]
      by_cases h : v.Fits schema
      · rw [List.filter_cons_of_pos (by simpa using h), if_pos (List.isEmpty_iff.mpr h)]
      · rw [List.filter_cons_of_neg (by simpa using h), if_neg (mt List.isEmpty_iff.mp h)]

theorem oneOf_violations_iff {schemas : List (List Rule)} :
    (Rule.oneOf schemas).violations v = [] ↔
      ∃ schema, (schemas.filter fun schema => decide (v.Fits schema)) = [schema] := by
  rw [Rule.violations, fittingSchemas_eq]
  generalize schemas.filter (fun schema => decide (v.Fits schema)) = fitting
  match fitting with
  | [] => simp
  | [schema] => simp
  | first :: second :: rest => simp

theorem anyOf_violations_iff {schemas : List (List Rule)} :
    (Rule.anyOf schemas).violations v = [] ↔ ∃ schema ∈ schemas, v.Fits schema := by
  rw [Rule.violations, fittingSchemas_eq]
  split
  · rename_i hfitting
    simpa using hfitting
  · rename_i fitting hfitting
    simpa [List.filter_eq_nil_iff] using hfitting

end ConnectClients
