import ConnectClients.GenTemplate.Verification
import ConnectClients.Proofs.Schema
import ConnectClients.Proofs.Text.Order

/-!
# What verified templates are

A template passes verification exactly if it is what the documentation of templates describes: a
mapping of the known keys, with a version, plugins that have one source each, and optional parts of
their own forms. The forms are written down here by themselves, as conditions on the entries of
mappings, and each schema is shown to ask for its form. What is wrong with a template is told in
the order of the paths.
-/

namespace ConnectClients.GenTemplate

open Value (lookup?)

/-! ## Forms -/

/-- A string that is not empty. -/
def IsText (v : Value) : Prop :=
  (∃ s, v.content = .str s ∧ s ≠ "") ∨ ∃ codes, v.content = .brokenStr codes ∧ codes ≠ []

def IsSwitch (v : Value) : Prop := ∃ b, v.content = .bool b

/-- A mapping whose entries have a form. -/
def IsMapping (Form : List (Value × Value) → Prop) (v : Value) : Prop :=
  ∃ entries, v.entries? = some entries ∧ Form entries

/-- A list whose items have a form. -/
def IsListOf (Form : Value → Prop) (v : Value) : Prop :=
  ∃ items, v.items? = some items ∧ ∀ item ∈ items, Form item

/-- A list with an item at least. -/
def IsFilledListOf (Form : Value → Prop) (v : Value) : Prop :=
  v.items? ≠ some [] ∧ IsListOf Form v

/-- There is an entry under a name, and its value has a form. -/
def Has (name : String) (Form : Value → Prop) (entries : List (Value × Value)) : Prop :=
  ∃ v, lookup? name entries = some v ∧ Form v

/-- If there is an entry under a name, its value has a form. -/
def MayHave (name : String) (Form : Value → Prop) (entries : List (Value × Value)) : Prop :=
  ∀ v, lookup? name entries = some v → Form v

/-- All keys are among some names. -/
def KeysAmong (names : List String) (entries : List (Value × Value)) : Prop :=
  ∀ entry ∈ entries, ∃ name ∈ names, entry.1 = .str name

structure IsOverride (entries : List (Value × Value)) : Prop where
  value : Has "value" (fun _ => True) entries
  fileOption : MayHave "file_option" IsText entries
  fieldOption : MayHave "field_option" IsText entries

structure IsManaged (entries : List (Value × Value)) : Prop where
  enabled : Has "enabled" IsSwitch entries
  disable : MayHave "disable" (IsListOf (IsMapping fun _ => True)) entries
  override : MayHave "override" (IsListOf (IsMapping IsOverride)) entries
  keys : KeysAmong ["enabled", "disable", "override"] entries

structure IsInput (entries : List (Value × Value)) : Prop where
  nonempty : entries ≠ []
  directory : MayHave "directory" IsText entries
  module : MayHave "module" IsText entries

/-- The keys that name where a plugin comes from. -/
def sourceKeys : List String := ["local", "remote", "protoc_builtin"]

structure IsPlugin (entries : List (Value × Value)) : Prop where
  out : Has "out" IsText entries
  source : ∃ key ∈ sourceKeys, Has key IsText entries ∧
    ∀ other ∈ sourceKeys, other ≠ key → lookup? other entries = none
  opt : MayHave "opt" (fun v => IsText v ∨ IsListOf IsText v) entries

structure IsTemplate (entries : List (Value × Value)) : Prop where
  version : Has "version" (fun v => v.content = .str "v2") entries
  clean : MayHave "clean" IsSwitch entries
  managed : MayHave "managed" (IsMapping IsManaged) entries
  inputs : MayHave "inputs" (IsFilledListOf (IsMapping IsInput)) entries
  plugins : Has "plugins" (IsFilledListOf (IsMapping IsPlugin)) entries
  keys : KeysAmong ["version", "clean", "managed", "inputs", "plugins"] entries

/-! ## Forms that schemas ask for -/

variable {v : Value} {entries : List (Value × Value)} {name : String} {Form : Value → Prop}

theorem has_iff : Has name Form entries ↔
    (∃ v, lookup? name entries = some v) ∧ MayHave name Form entries := by
  constructor
  · rintro ⟨v, hv, hform⟩
    refine ⟨⟨v, hv⟩, fun w hw => ?_⟩
    obtain rfl : v = w := Option.some.inj (hv.symm.trans hw)
    exact hform
  · rintro ⟨⟨v, hv⟩, hform⟩
    exact ⟨v, hv, hform v hv⟩

/-- A schema that asks for a mapping, and then for rules about its entries. -/
theorem fits_object_iff {rules : List Rule} {Form : List (Value × Value) → Prop}
    (h : ∀ entries, v.entries? = some entries → (v.Fits rules ↔ Form entries)) :
    v.Fits (.type .object :: rules) ↔ IsMapping Form v := by
  rw [fits_cons, type_violations_iff, SchemaType.kind, kind_eq_dict_iff]
  constructor
  · rintro ⟨⟨entries, hentries⟩, hfits⟩
    exact ⟨entries, hentries, (h entries hentries).mp hfits⟩
  · rintro ⟨entries, hentries, hform⟩
    exact ⟨⟨entries, hentries⟩, (h entries hentries).mpr hform⟩

theorem fits_array_iff {rules : List Rule} (h : ∀ item : Value, item.Fits rules ↔ Form item) :
    v.Fits [.type .array, .items rules] ↔ IsListOf Form v := by
  simp only [fits_cons, type_violations_iff, SchemaType.kind, kind_eq_list_iff,
    items_violations_iff, h, fits_nil, and_true]
  constructor
  · rintro ⟨⟨items, hitems⟩, hform⟩
    exact ⟨items, hitems, hform items hitems⟩
  · rintro ⟨items, hitems, hform⟩
    refine ⟨⟨items, hitems⟩, fun items' hitems' => ?_⟩
    obtain rfl : items = items' := Option.some.inj (hitems.symm.trans hitems')
    exact hform

theorem isEmptyOf_array_iff : v.isEmptyOf .array = false ↔ v.items? ≠ some [] := by
  unfold Value.isEmptyOf Value.items?
  cases v.content with
  | list items => cases items <;> simp
  | _ => simp

theorem isEmptyOf_object_iff (h : v.entries? = some entries) :
    v.isEmptyOf .object = false ↔ entries ≠ [] := by
  unfold Value.entries? at h
  unfold Value.isEmptyOf
  split at h
  · rename_i own hcontent
    obtain rfl : own = entries := Option.some.inj h
    rw [hcontent]
    cases own <;> simp
  · cases h

theorem fits_filledArray_iff {rules : List Rule}
    (h : ∀ item : Value, item.Fits rules ↔ Form item) :
    v.Fits [.type .array, .nonempty .array, .items rules] ↔ IsFilledListOf Form v := by
  rw [IsFilledListOf, ← fits_array_iff h, ← isEmptyOf_array_iff]
  simp only [fits_cons, nonempty_violations_iff]
  exact and_left_comm

@[simp] theorem fits_nonemptyText_iff : v.Fits nonemptyText ↔ IsText v := by
  simp only [nonemptyText, fits_cons, type_violations_iff, SchemaType.kind, kind_eq_str_iff,
    nonempty_violations_iff, fits_nil, and_true, Value.isEmptyOf, IsText]
  cases v.content with
  | str s => simp
  | brokenStr codes => simp
  | _ => simp

@[simp] theorem fits_boolean_iff : v.Fits [.type .boolean] ↔ IsSwitch v := by
  rw [fits_cons, type_violations_iff, SchemaType.kind, kind_eq_bool_iff]
  simp [IsSwitch]

@[simp] theorem fits_object : v.Fits [.type .object] ↔ IsMapping (fun _ => True) v :=
  fits_object_iff fun _ _ => by simp

/-- A mapping's properties, each of which may be missing. -/
theorem properties_iff {parts : List (String × List Rule)} (h : v.entries? = some entries) :
    (Rule.properties parts).violations v = [] ↔
      ∀ part ∈ parts, MayHave part.1 (fun w => w.Fits part.2) entries := by
  rw [properties_violations_iff]
  simp only [h, Option.some.injEq, forall_eq', MayHave]

theorem required_iff {names : List String} (h : v.entries? = some entries) :
    (Rule.required names).violations v = [] ↔
      ∀ name ∈ names, ∃ w, lookup? name entries = some w := by
  rw [required_violations_iff]
  simp only [h, Option.some.injEq, forall_eq']

theorem onlyKeys_iff {names : List String} (h : v.entries? = some entries) :
    (Rule.onlyKeys names).violations v = [] ↔ KeysAmong names entries := by
  rw [onlyKeys_violations_iff]
  simp only [h, Option.some.injEq, forall_eq', KeysAmong]

/-- Only one of the sources is there. -/
theorem oneSource_iff (h : v.entries? = some entries) :
    (Rule.oneOf [[.required ["local"]], [.required ["remote"]],
      [.required ["protoc_builtin"]]]).violations v = [] ↔
      ∃ key ∈ sourceKeys, (∃ w, lookup? key entries = some w) ∧
        ∀ other ∈ sourceKeys, other ≠ key → lookup? other entries = none := by
  have hfits : ∀ key, decide (v.Fits [.required [key]]) = (lookup? key entries).isSome := by
    intro key
    rw [Bool.eq_iff_iff, decide_eq_true_iff, fits_cons, required_iff h, Option.isSome_iff_exists]
    simp
  rw [oneOf_violations_iff]
  simp only [List.filter_cons, List.filter_nil, hfits, sourceKeys,
    List.mem_cons, List.not_mem_nil, or_false, exists_eq_or_imp, exists_eq_left,
    forall_eq_or_imp, forall_eq]
  cases lookup? "local" entries <;> cases lookup? "remote" entries <;>
    cases lookup? "protoc_builtin" entries <;> simp

/-! ## The schemas -/

@[simp] theorem fits_override_iff :
    v.Fits [.type .object, .required ["value"],
      .properties [("file_option", nonemptyText), ("field_option", nonemptyText)]] ↔
      IsMapping IsOverride v := by
  refine fits_object_iff fun entries hentries => ?_
  rw [fits_cons, fits_cons, required_iff hentries, properties_iff hentries]
  simp only [List.forall_mem_cons, List.not_mem_nil, false_implies, implies_true, and_true,
    fits_nil, fits_nonemptyText_iff]
  constructor
  · rintro ⟨hvalue, hfile, hfield⟩
    exact ⟨has_iff.mpr ⟨hvalue, fun _ _ => trivial⟩, hfile, hfield⟩
  · intro h
    exact ⟨(has_iff.mp h.value).1, h.fileOption, h.fieldOption⟩

@[simp] theorem fits_managedSchema_iff : v.Fits managedSchema ↔ IsMapping IsManaged v := by
  refine fits_object_iff fun entries hentries => ?_
  rw [fits_cons, fits_cons, fits_cons, required_iff hentries, properties_iff hentries,
    onlyKeys_iff hentries]
  simp only [List.forall_mem_cons, List.not_mem_nil, false_implies, implies_true, and_true,
    fits_nil, fits_boolean_iff, fits_array_iff (fun _ => fits_object),
    fits_array_iff (fun _ => fits_override_iff)]
  constructor
  · rintro ⟨henabled, ⟨hswitch, hdisable, hoverride⟩, hkeys⟩
    exact ⟨has_iff.mpr ⟨henabled, hswitch⟩, hdisable, hoverride, hkeys⟩
  · intro h
    obtain ⟨henabled, hswitch⟩ := has_iff.mp h.enabled
    exact ⟨henabled, ⟨hswitch, h.disable, h.override⟩, h.keys⟩

theorem fits_inputSchema_iff : v.Fits inputSchema ↔ IsMapping IsInput v := by
  refine fits_object_iff fun entries hentries => ?_
  rw [fits_cons, fits_cons, nonempty_violations_iff, isEmptyOf_object_iff hentries,
    properties_iff hentries]
  simp only [List.forall_mem_cons, List.not_mem_nil, false_implies, implies_true, and_true,
    fits_nil, fits_nonemptyText_iff]
  constructor
  · rintro ⟨hnonempty, hdirectory, hmodule⟩
    exact ⟨hnonempty, hdirectory, hmodule⟩
  · intro h
    exact ⟨h.nonempty, h.directory, h.module⟩

theorem fits_optSchema_iff :
    v.Fits [.anyOf [nonemptyText, [.type .array, .items nonemptyText]]] ↔
      IsText v ∨ IsListOf IsText v := by
  rw [fits_cons, anyOf_violations_iff]
  simp only [List.mem_cons, List.not_mem_nil, or_false, exists_eq_or_imp, exists_eq_left,
    fits_nil, and_true, fits_nonemptyText_iff, fits_array_iff (fun _ => fits_nonemptyText_iff)]

theorem fits_pluginSchema_iff : v.Fits pluginSchema ↔ IsMapping IsPlugin v := by
  refine fits_object_iff fun entries hentries => ?_
  rw [fits_cons, fits_cons, fits_cons, required_iff hentries, oneSource_iff hentries,
    properties_iff hentries]
  simp only [List.forall_mem_cons, List.not_mem_nil, false_implies, implies_true, and_true,
    fits_nil, fits_nonemptyText_iff, fits_optSchema_iff]
  constructor
  · rintro ⟨hout, ⟨key, hkey, hthere, honly⟩, hlocal, hremote, hbuiltin, htext, hopt⟩
    refine ⟨has_iff.mpr ⟨hout, htext⟩, ⟨key, hkey, has_iff.mpr ⟨hthere, ?_⟩, honly⟩, hopt⟩
    simp only [sourceKeys, List.mem_cons, List.not_mem_nil, or_false] at hkey
    rcases hkey with rfl | rfl | rfl
    · exact hlocal
    · exact hremote
    · exact hbuiltin
  · rintro ⟨hout, ⟨key, hkey, hsource, honly⟩, hopt⟩
    obtain ⟨hthere, htext⟩ := has_iff.mp hsource
    -- the other sources are missing, so that nothing is asked of their values
    have hsources : ∀ other ∈ sourceKeys, MayHave other IsText entries := by
      intro other hother
      by_cases h : other = key
      · rw [h]
        exact htext
      · intro w hw
        rw [honly other hother h] at hw
        cases hw
    exact ⟨(has_iff.mp hout).1, ⟨key, hkey, hthere, honly⟩, hsources "local" (by decide),
      hsources "remote" (by decide), hsources "protoc_builtin" (by decide),
      (has_iff.mp hout).2, hopt⟩

theorem fits_version_iff : v.Fits [.const currentVersion] ↔ v.content = .str "v2" := by
  rw [fits_cons, const_violations_iff, currentVersion]
  simp

theorem fits_schema_iff : v.Fits schema ↔ IsMapping IsTemplate v := by
  refine fits_object_iff fun entries hentries => ?_
  rw [fits_cons, fits_cons, fits_cons, required_iff hentries, properties_iff hentries,
    onlyKeys_iff hentries]
  simp only [List.forall_mem_cons, List.not_mem_nil, false_implies, implies_true, and_true,
    fits_nil, fits_version_iff, fits_boolean_iff, fits_managedSchema_iff,
    fits_filledArray_iff (fun _ => fits_inputSchema_iff),
    fits_filledArray_iff (fun _ => fits_pluginSchema_iff)]
  constructor
  · rintro ⟨⟨hversion, hplugins⟩, ⟨hv2, hclean, hmanaged, hinputs, hsources⟩, hkeys⟩
    exact ⟨has_iff.mpr ⟨hversion, hv2⟩, hclean, hmanaged, hinputs,
      has_iff.mpr ⟨hplugins, hsources⟩, hkeys⟩
  · intro h
    obtain ⟨hversion, hv2⟩ := has_iff.mp h.version
    obtain ⟨hplugins, hsources⟩ := has_iff.mp h.plugins
    exact ⟨⟨hversion, hplugins⟩, ⟨hv2, h.clean, h.managed, h.inputs, hsources⟩, h.keys⟩

/-! ## Reports -/

/-- The texts of the steps to a finding. -/
def pathTexts (f : Finding) : List String := f.path.map PathStep.text

theorem sortFindings_perm (findings : List Finding) : (sortFindings findings).Perm findings :=
  List.mergeSort_perm _ _

/-- No finding stands behind one whose path is greater. -/
theorem pairwise_sortFindings (findings : List Finding) :
    (sortFindings findings).Pairwise fun a b =>
      ¬ List.Lex (· < ·) (pathTexts b) (pathTexts a) := by
  have hsorted : (sortFindings findings).Pairwise fun a b =>
      Text.wordsLE (pathTexts a) (pathTexts b) = true :=
    List.pairwise_mergeSort
      (fun a b c => Text.wordsLE_trans (pathTexts a) (pathTexts b) (pathTexts c))
      (fun a b => Text.wordsLE_total (pathTexts a) (pathTexts b)) findings
  exact hsorted.imp fun h => (Text.wordsLE_iff _ _).mp h

theorem verify_of_load {content : String} (h : Yaml.load content.toList = .ok v) :
    verify content =
      .ok ((verifyValue v).map fun f => ⟨PathStep.pathText f.path, f.violation.message⟩) := by
  rw [verify, h]

/-- A document passes exactly if it is a template, and otherwise its problems, which are those its
schema finds, are told in the order of their paths. -/
theorem verify_iff_isTemplate {content : String} (h : Yaml.load content.toList = .ok v) :
    (verify content = .ok [] ↔ IsMapping IsTemplate v) ∧
      ∃ findings : List Finding,
        verify content =
          .ok (findings.map fun f => ⟨PathStep.pathText f.path, f.violation.message⟩) ∧
        findings.Perm (schemaViolations v schema) ∧
        findings.Pairwise fun a b => ¬ List.Lex (· < ·) (pathTexts b) (pathTexts a) := by
  have hverify := verify_of_load h
  have hperm := sortFindings_perm (schemaViolations v schema)
  refine ⟨?_, verifyValue v, hverify, hperm, pairwise_sortFindings _⟩
  rw [hverify, Except.ok.injEq, List.map_eq_nil_iff, ← fits_schema_iff]
  constructor
  · intro hnil
    rw [verifyValue] at hnil
    rw [hnil] at hperm
    exact List.perm_nil.mp hperm.symm
  · intro hfits
    rw [Value.Fits] at hfits
    rw [verifyValue, hfits]
    exact List.perm_nil.mp (sortFindings_perm [])

/-- A template whose plugin has one source. -/
def oneSource : String := "version: v2\nplugins: [\x7blocal: es, out: gen\x7d]\n"

/-- A template whose plugin has two sources. -/
def twoSources : String := "version: v2\nplugins: [\x7blocal: es, remote: es, out: gen\x7d]\n"

theorem sources_verify :
    (∃ v, Yaml.load oneSource.toList = .ok v ∧ IsMapping IsTemplate v) ∧
      ∃ v, Yaml.load twoSources.toList = .ok v ∧ ¬ IsMapping IsTemplate v := by
  have hload : ∀ content : String, (Yaml.load content.toList).toOption.isSome = true →
      ∃ v, Yaml.load content.toList = .ok v := by
    intro content hsome
    cases h : Yaml.load content.toList with
    | ok v => exact ⟨v, rfl⟩
    | error e =>
        rw [h] at hsome
        cases hsome
  obtain ⟨v, hv⟩ := hload oneSource (by decide +kernel)
  obtain ⟨w, hw⟩ := hload twoSources (by decide +kernel)
  have hone : verify oneSource = .ok [] := by decide +kernel
  have htwo : verify twoSources ≠ .ok [] := by decide +kernel
  exact ⟨⟨v, hv, (verify_iff_isTemplate hv).1.mp hone⟩,
    w, hw, fun h => htwo ((verify_iff_isTemplate hw).1.mpr h)⟩

end ConnectClients.GenTemplate
