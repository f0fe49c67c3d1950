import ConnectClients.Proofs.GenTemplate.Verification
import ConnectClients.Proofs.Yaml.PlainValues
import ConnectClients.GenTemplate.Form

/-!
# Templates as documents

The mapping of a template's sections, read back as a template, is the template it was made from.
-/

namespace ConnectClients

open Value (fieldsValue lookup?)

/-! ## Fields -/

variable {α : Type} {name other : String} {value : Value} {fields : List (String × Value)}

/-- The value under a name, among the fields of a mapping. -/
def field? (name : String) (fields : List (String × Value)) : Option Value :=
  lookup? name (Fields.named fields)

@[simp] theorem field?_nil : field? name [] = none := rfl

@[simp] theorem field?_cons : field? name ((other, value) :: fields) =
    if other = name then some value else field? name fields := by
  simp [field?, Fields.named, lookup?]

@[simp] theorem field?_optional {o : Option Value} : field? name (optionalField other o ++ fields) =
    if other = name then o.or (field? name fields) else field? name fields := by
  cases o with
  | none => simp [optionalField]
  | some v =>
      show field? name ((other, v) :: fields) = _
      rw [field?_cons, Option.some_or]

@[simp] theorem field?_optional_last {o : Option Value} : field? name (optionalField other o) =
    if other = name then o else none := by
  have h := @field?_optional name other [] o
  rw [List.append_nil, field?_nil, Option.or_none] at h
  exact h

theorem optional_eq_ok {check : Value → Checked α} {toValue : α → Value} {o : Option α}
    (hfield : field? name fields = o.map toValue)
    (hcheck : ∀ a ∈ o, check (toValue a) = .ok a ∧ toValue a ≠ .null) :
    (Fields.named fields).optional name check = .ok o := by
  rw [Fields.optional, Fields.withDefault]
  rw [field?] at hfield
  rw [hfield]
  cases o with
  | none => rfl
  | some a =>
      obtain ⟨hok, hnull⟩ := hcheck a rfl
      have hvalue : Value.orNull check (toValue a) = .ok (some a) := by
        rw [Value.orNull, hok]
        · rfl
        · exact hnull
      show (Value.orNull check (toValue a)).under (.field name) = _
      rw [hvalue]
      rfl

theorem required_eq_ok {check : Value → Checked α} (value : Value) (a : α)
    (hfield : field? name fields = some value) (hcheck : check value = .ok a) :
    (Fields.named fields).required name check = .ok a := by
  rw [Fields.required]
  rw [field?] at hfield
  rw [hfield]
  show (check value).under (.field name) = _
  rw [hcheck]
  rfl

theorem asList_eq_ok {check : Value → Checked α} {toValue : α → Value} {xs : List α}
    (h : ∀ x ∈ xs, check (toValue x) = .ok x) :
    Value.asList check (.list (xs.map toValue)) = .ok xs := by
  have hitems : ∀ i, Value.checkItems check i (xs.map toValue) = .ok xs := by
    induction xs with
    | nil => exact fun _ => rfl
    | cons x xs ih =>
        obtain ⟨hx, hrest⟩ := List.forall_mem_cons.mp h
        intro i
        rw [List.map_cons, Value.checkItems, hx, ih hrest]
        rfl
  exact hitems 0

/-! ## Documents read back -/

open Value (asText asSwitch asList asForm)

/-- A mapping is checked by its fields. -/
theorem asForm_fields {form : Fields → Checked α} :
    asForm form (fieldsValue fields) = form (Fields.named fields) := rfl

theorem optional_text (o : Option String) (h : field? name fields = o.map .str) :
    (Fields.named fields).optional name asText = .ok o :=
  optional_eq_ok h fun _ _ => ⟨rfl, by simp⟩

theorem optional_list {check : Value → Checked α} {toValue : α → Value} (o : Option (List α))
    (h : field? name fields = o.map fun xs => .list (xs.map toValue))
    (hcheck : ∀ x, check (toValue x) = .ok x) :
    (Fields.named fields).optional name (asList check) = .ok o :=
  optional_eq_ok h fun _ _ => ⟨asList_eq_ok fun x _ => hcheck x, by simp⟩

theorem asForm_module (name : String) :
    asForm (Fields.required "module" asText) (moduleValue name) = .ok name := by
  rw [moduleValue, asForm_fields]
  exact required_eq_ok (.str name) name rfl rfl

theorem asForm_override (o : ManagedOverride) :
    asForm ManagedOverride.ofFields o.document = .ok o := by
  obtain ⟨option, value⟩ := o
  rw [ManagedOverride.document, asForm_fields, ManagedOverride.ofFields,
    required_eq_ok (.str option) option rfl rfl, required_eq_ok (.str value) value rfl rfl]
  rfl

theorem asForm_managed (managed : Managed) :
    asForm Managed.ofFields managed.document = .ok managed := by
  obtain ⟨enabled, disabled, overrides⟩ := managed
  rw [Managed.document, asForm_fields, Managed.ofFields,
    required_eq_ok (.bool enabled) enabled rfl rfl,
    optional_list disabled (by simp) asForm_module,
    optional_list overrides (by simp) asForm_override]
  rfl

theorem asForm_input (input : TemplateInput) :
    asForm TemplateInput.ofFields input.document = .ok input := by
  obtain ⟨directory, moduleName⟩ := input
  rw [TemplateInput.document, asForm_fields, TemplateInput.ofFields,
    optional_text directory (by simp), optional_text moduleName (by simp)]
  rfl

theorem asForm_plugin (plugin : Plugin) :
    asForm Plugin.ofFields plugin.document = .ok plugin := by
  obtain ⟨localName, remoteName, out, opt⟩ := plugin
  rw [Plugin.document, asForm_fields, Plugin.ofFields, optional_text localName (by simp),
    optional_text remoteName (by simp), required_eq_ok (.str out) out (by simp) rfl,
    @optional_list _ _ _ asText .str opt (by simp) fun _ => rfl]
  rfl

/-- **The document of a template** is read as that template. -/
theorem GenTemplate.ofValue_document (t : GenTemplate) : ofValue t.document = .ok t := by
  obtain ⟨version, managed, inputs, plugins⟩ := t
  have hmanaged : ∀ m ∈ managed, asForm Managed.ofFields m.document = .ok m ∧ m.document ≠ .null :=
    fun m _ => ⟨asForm_managed m, by simp [Managed.document, fieldsValue]⟩
  rw [ofValue, document, asForm_fields, ofFields, optional_text version (by simp),
    optional_eq_ok (by simp) hmanaged, optional_list inputs (by simp) asForm_input,
    optional_list plugins (by simp) asForm_plugin]
  rfl

/-! ## Sections found in a text -/

namespace GenTemplate

/-- The sections of a template as they stand in its document. -/
def sectionValues (t : GenTemplate) : List (String × Option Value) :=
  [("version", t.version.map .str), ("managed", t.managed.map Managed.document),
    ("inputs", t.inputs.map fun inputs => .list (inputs.map TemplateInput.document)),
    ("plugins", t.plugins.map fun plugins => .list (plugins.map Plugin.document))]

theorem document_eq (t : GenTemplate) :
    t.document = fieldsValue (t.sectionValues.flatMap fun s => optionalField s.1 s.2) := by
  simp [document, sectionValues]

theorem made_eq_ok {check : Value → Checked α} {toValue : α → Value} {found : α}
    (h : check (toValue found) = .ok found) : made check toValue found = .ok (toValue found) := by
  rw [made, h]
  rfl

/-- Sections that are made of what was found are the sections of its document. -/
theorem foundSections_eq (found : GenTemplate) :
    foundSections found = found.sectionValues.map fun s => (s.1, s.2.map .ok) := by
  have hmanaged : made (asForm Managed.ofFields) Managed.document =
      fun managed => .ok managed.document := funext fun managed => made_eq_ok (asForm_managed managed)
  have hinputs : (made (asList (asForm TemplateInput.ofFields)) fun inputs =>
        .list (inputs.map TemplateInput.document)) =
      fun inputs => .ok (.list (inputs.map TemplateInput.document)) :=
    funext fun _ => made_eq_ok (asList_eq_ok fun input _ => asForm_input input)
  have hplugins : (made (asList (asForm Plugin.ofFields)) fun plugins =>
        .list (plugins.map Plugin.document)) =
      fun plugins => .ok (.list (plugins.map Plugin.document)) :=
    funext fun _ => made_eq_ok (asList_eq_ok fun plugin _ => asForm_plugin plugin)
  rw [foundSections, hmanaged, hinputs, hplugins]
  simp [sectionValues, Function.comp_def]

theorem gather_ok (sections : List (String × Option Value)) :
    gather (sections.map fun s => (s.1, s.2.map .ok)) =
      (Fields.named (sections.flatMap fun s => optionalField s.1 s.2), []) := by
  induction sections with
  | nil => rfl
  | cons first rest ih =>
      obtain ⟨name, _ | v⟩ := first
      · exact ih
      · show ((Value.str name, v) :: (gather _).1, (gather _).2) = _
        rw [ih]
        rfl

theorem ofSections_of_ok {fields : Fields} {t : GenTemplate} (h : ofFields fields = .ok t) :
    ofSections fields = (t, []) := by
  rw [ofSections, h]

/-- Nothing that is found in a text is refused, and nothing is told of it. -/
theorem readDocument_text (content : String) : readDocument (some content) = (read content, []) := by
  have hsections : documentSections (some content) =
      (Fields.named ((read content).sectionValues.flatMap fun s => optionalField s.1 s.2), []) := by
    rw [documentSections, foundSections_eq, gather_ok]
  have hform := (read content).ofValue_document
  rw [document_eq, ofValue, asForm_fields] at hform
  rw [readDocument, hsections]
  dsimp only
  rw [ofSections_of_ok hform]
  rfl

end GenTemplate

/-! ## Documents that pass -/

namespace GenTemplate

variable {Form : Value → Prop} {names : List String}

theorem isText_str {s : String} (h : s ≠ "") : IsText (.str s) := Or.inl ⟨s, rfl, h⟩

theorem isListOf_map {toValue : α → Value} {xs : List α} (h : ∀ x ∈ xs, Form (toValue x)) :
    IsListOf Form (.list (xs.map toValue)) :=
  ⟨_, rfl, List.forall_mem_map.mpr h⟩

theorem has_of_field (v : Value) (h : field? name fields = some v) (hform : Form v) :
    Has name Form (Fields.named fields) := ⟨v, h, hform⟩

theorem mayHave_of_field (toValue : α → Value) (o : Option α)
    (h : field? name fields = o.map toValue) (hform : ∀ a ∈ o, Form (toValue a)) :
    MayHave name Form (Fields.named fields) := by
  intro v hv
  rw [field?] at h
  obtain ⟨a, ha, rfl⟩ := Option.map_eq_some_iff.mp (h.symm.trans hv)
  exact hform a ha

theorem mayHave_of_missing (h : field? name fields = none) :
    MayHave name Form (Fields.named fields) := by
  intro v hv
  rw [← field?, h] at hv
  cases hv

theorem mayHave_text (o : Option String) (h : field? name fields = o.map .str)
    (hne : ∀ s ∈ o, s ≠ "") : MayHave name IsText (Fields.named fields) :=
  mayHave_of_field .str o h fun s hs => isText_str (hne s hs)

theorem mayHave_list (toValue : α → Value) (o : Option (List α))
    (h : field? name fields = o.map fun xs => .list (xs.map toValue))
    (hform : ∀ xs ∈ o, ∀ x ∈ xs, Form (toValue x)) :
    MayHave name (IsListOf Form) (Fields.named fields) :=
  mayHave_of_field _ o h fun xs hxs => isListOf_map (hform xs hxs)

theorem keysAmong_named (h : ∀ f ∈ fields, f.1 ∈ names) : KeysAmong names (Fields.named fields) := by
  intro entry hentry
  obtain ⟨f, hf, rfl⟩ := List.mem_map.mp hentry
  exact ⟨f.1, h f hf, rfl⟩

theorem isMapping_fields_iff {Form : List (Value × Value) → Prop} :
    IsMapping Form (fieldsValue fields) ↔ Form (Fields.named fields) := by
  constructor
  · rintro ⟨_, ⟨⟩, h⟩
    exact h
  · exact fun h => ⟨_, rfl, h⟩

theorem isMapping_fields {Form : List (Value × Value) → Prop} (h : Form (Fields.named fields)) :
    IsMapping Form (fieldsValue fields) := isMapping_fields_iff.mpr h

theorem isFilledListOf_map {toValue : α → Value} {xs : List α} (hne : xs ≠ [])
    (h : ∀ x ∈ xs, Form (toValue x)) : IsFilledListOf Form (.list (xs.map toValue)) :=
  ⟨fun hnil => hne (List.map_eq_nil_iff.mp (Option.some.inj hnil)), isListOf_map h⟩

theorem isOverride_document {o : ManagedOverride} (h : o.fileOption ≠ "") :
    IsMapping IsOverride o.document := by
  refine isMapping_fields ⟨has_of_field (.str o.value) (by simp) trivial, ?_, ?_⟩
  · exact mayHave_text (some o.fileOption) (by simp) (by simpa using h)
  · exact mayHave_of_missing (by simp)

theorem isManaged_document {managed : Managed}
    (h : ∀ os ∈ managed.overrides, ∀ o ∈ os, o.fileOption ≠ "") :
    IsMapping IsManaged managed.document := by
  refine isMapping_fields ⟨?_, ?_, ?_, ?_⟩
  · exact has_of_field (.bool managed.enabled) (by simp) ⟨_, rfl⟩
  · exact mayHave_list moduleValue managed.disabled (by simp) fun _ _ _ _ =>
      isMapping_fields trivial
  · exact mayHave_list ManagedOverride.document managed.overrides (by simp) fun os hos o ho =>
      isOverride_document (h os hos o ho)
  · refine keysAmong_named ?_
    cases managed.disabled <;> cases managed.overrides <;> simp [optionalField]

theorem isInput_document {input : TemplateInput}
    (hsource : input.directory.isSome ∨ input.moduleName.isSome)
    (hdirectory : ∀ s ∈ input.directory, s ≠ "") (hmodule : ∀ s ∈ input.moduleName, s ≠ "") :
    IsMapping IsInput input.document := by
  refine isMapping_fields ⟨?_, ?_, ?_⟩
  · cases hdir : input.directory with
    | some s => simp [optionalField, Fields.named]
    | none =>
        cases hmod : input.moduleName with
        | some s => simp [optionalField, Fields.named]
        | none => simp [hdir, hmod] at hsource
  · exact mayHave_text input.directory (by simp) hdirectory
  · exact mayHave_text input.moduleName (by simp) hmodule

/-- A plugin that is run from a local program. -/
theorem isPlugin_document {plugin : Plugin} {source : String}
    (hlocal : plugin.localName = some source) (hremote : plugin.remoteName = none)
    (hsource : source ≠ "") (hout : plugin.out ≠ "")
    (hopt : ∀ options ∈ plugin.opt, ∀ option ∈ options, option ≠ "") :
    IsMapping IsPlugin plugin.document := by
  refine isMapping_fields ⟨?_, ⟨"local", by decide, ?_, ?_⟩, ?_⟩
  · exact has_of_field (.str plugin.out) (by simp) (isText_str hout)
  · exact has_of_field (.str source) (by simp [hlocal]) (isText_str hsource)
  · intro other hother hne
    simp only [sourceKeys, List.mem_cons, List.not_mem_nil, or_false] at hother
    rcases hother with rfl | rfl | rfl
    · exact absurd rfl hne
    · show field? "remote" _ = none
      simp [hremote]
    · show field? "protoc_builtin" _ = none
      simp
  · exact mayHave_of_field _ plugin.opt (by simp) fun options hoptions =>
      Or.inr (isListOf_map fun option hoption => isText_str (hopt options hoptions option hoption))

/-- A template's document is one if its parts' documents are. -/
theorem isTemplate_document {t : GenTemplate} {plugins : List Plugin}
    (hversion : t.version = some currentVersion)
    (hmanaged : ∀ managed ∈ t.managed, IsMapping IsManaged managed.document)
    (hinputs : ∀ inputs ∈ t.inputs, inputs ≠ [] ∧ ∀ input ∈ inputs, IsMapping IsInput input.document)
    (hsome : t.plugins = some plugins) (hne : plugins ≠ [])
    (hplugins : ∀ plugin ∈ plugins, IsMapping IsPlugin plugin.document) :
    IsMapping IsTemplate t.document := by
  refine isMapping_fields ⟨?_, ?_, ?_, ?_, ?_, ?_⟩
  · exact has_of_field (.str currentVersion) (by simp [hversion]) rfl
  · exact mayHave_of_missing (by simp)
  · exact mayHave_of_field Managed.document t.managed (by simp) hmanaged
  · exact mayHave_of_field _ t.inputs (by simp) fun inputs h =>
      isFilledListOf_map (hinputs inputs h).1 (hinputs inputs h).2
  · exact has_of_field (.list (plugins.map Plugin.document)) (by simp [hsome])
      (isFilledListOf_map hne hplugins)
  · refine keysAmong_named ?_
    cases t.version <;> cases t.managed <;> cases t.inputs <;> cases t.plugins <;>
      simp [optionalField]

end GenTemplate

end ConnectClients
