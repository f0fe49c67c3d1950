import ConnectClients.Proofs.GenTemplate.TemplateLines
import ConnectClients.Proofs.GenTemplate.Documents

/-!
# Templates loaded from their text

A template is the mapping of its sections, as a document has it. The text of the template for a
directory is loaded as that mapping exactly if every pasted value is loaded as a string: a value
that YAML takes for a number, a switch, a time or nothing is not what was pasted.
-/

namespace ConnectClients

open Yaml (resolve)
open Yaml.Parse (plainNode)
open Yaml.Node (AreKeys LoadAs resolve_of_build build_fields_eq_ok_iff build_sequence_eq_ok_iff
  loadAs_nil loadAs_cons_iff loadAs_append_iff fieldsNode build_fields_iff build_sequence_iff build_plain_iff)
open Value (fieldsValue)

namespace GenTemplate

/-! ## What the trees are loaded as -/

section build

variable {level : Nat} {outputDir inputDir : String} {deps : List String} {goPrefix : Option String}

theorem build_module_iff {name : String} :
    (moduleNode name).build level = .ok (moduleValue name) ↔ resolve name.toList = .str := by
  have hkeys : AreKeys ["module"] := ⟨by decide, by decide⟩
  refine (build_fields_iff (by exact hkeys)).trans ?_
  rw [loadAs_cons_iff, build_plain_iff, and_iff_left loadAs_nil]

theorem build_modules_iff :
    List.Forall₂ (fun n v => n.build level = .ok v) (deps.map moduleNode) (deps.map moduleValue) ↔
      ∀ dep ∈ deps, resolve dep.toList = .str := by
  rw [List.forall₂_map_left_iff, List.forall₂_map_right_iff, List.forall₂_same]
  simp only [build_module_iff]

theorem build_override_iff {value : String} :
    (fieldsNode [("file_option", plainNode goPackagePrefix.toList),
      ("value", plainNode value.toList)]).build level =
        .ok (ManagedOverride.document ⟨goPackagePrefix, value⟩) ↔ resolve value.toList = .str := by
  have hkeys : AreKeys ["file_option", "value"] := ⟨by decide, by decide⟩
  have hoption : resolve goPackagePrefix.toList = .str := by decide
  refine (build_fields_iff (by exact hkeys)).trans ?_
  rw [loadAs_cons_iff, loadAs_cons_iff, build_plain_iff, build_plain_iff,
    and_iff_left loadAs_nil, and_iff_right hoption]

theorem disable_loadAs_iff :
    LoadAs level (disableFields deps) (optionalField "disable"
      ((nonempty? deps).map fun names => .list (names.map moduleValue))) ↔
      ∀ dep ∈ deps, resolve dep.toList = .str := by
  cases deps with
  | nil => simp [disableFields, nonempty?, optionalField, loadAs_nil]
  | cons dep rest =>
      show LoadAs level [("disable", .sequence .seq ((dep :: rest).map moduleNode))]
        [("disable", .list ((dep :: rest).map moduleValue))] ↔ _
      rw [loadAs_cons_iff, build_sequence_iff, build_modules_iff, and_iff_left loadAs_nil]

theorem override_loadAs_iff (hgo : ∀ value ∈ goPrefix, value ≠ "") :
    LoadAs level (overrideFields goPrefix) (optionalField "override"
      ((builtManaged deps goPrefix).overrides.map fun os =>
        .list (os.map ManagedOverride.document))) ↔
      ∀ value ∈ goPrefix, resolve value.toList = .str := by
  cases goPrefix with
  | none => simp [overrideFields, builtManaged, optionalField, loadAs_nil]
  | some value =>
      have hne : ¬ value.isEmpty = true := by
        rw [String.isEmpty_iff]
        exact hgo value rfl
      rw [builtManaged]
      dsimp only
      rw [if_neg hne]
      show LoadAs level [("override", .sequence .seq [_])] [("override", .list [_])] ↔ _
      rw [loadAs_cons_iff, build_sequence_iff, and_iff_left loadAs_nil, List.forall₂_cons,
        build_override_iff, and_iff_left List.Forall₂.nil]
      simp

theorem build_managed_iff (hgo : ∀ value ∈ goPrefix, value ≠ "") :
    (managedNode deps goPrefix).build level = .ok (builtManaged deps goPrefix).document ↔
      (∀ dep ∈ deps, resolve dep.toList = .str) ∧
        ∀ value ∈ goPrefix, resolve value.toList = .str := by
  have hkeys : AreKeys ["enabled", "disable", "override"] := ⟨by decide, by decide⟩
  have henabled : (plainNode "true".toList).build (level + 1) = .ok (.bool true) := rfl
  have hsub : List.Sublist ((("enabled", plainNode "true".toList) ::
      (disableFields deps ++ overrideFields goPrefix)).map Prod.fst)
      ["enabled", "disable", "override"] := by
    cases deps <;> cases goPrefix <;> simp [disableFields, overrideFields]
  have hlength : (disableFields deps).length = (optionalField "disable"
      ((nonempty? deps).map fun names => .list (names.map moduleValue))).length := by
    cases deps <;> rfl
  rw [managedNode, Managed.document, build_fields_iff (hkeys.sublist hsub), loadAs_cons_iff]
  show _ ∧ LoadAs _ _ (optionalField "disable" ((nonempty? deps).map _) ++ _) ↔ _
  rw [loadAs_append_iff hlength, disable_loadAs_iff, override_loadAs_iff hgo]
  exact and_iff_right henabled

theorem build_inputs_iff :
    (Yaml.Node.sequence .seq (inputNodes inputDir deps)).build level =
      .ok (.list ((TemplateInput.mk (some inputDir) none ::
        deps.map fun dep => ⟨none, some dep⟩).map TemplateInput.document)) ↔
      resolve inputDir.toList = .str ∧ ∀ dep ∈ deps, resolve dep.toList = .str := by
  have hkeys : AreKeys ["directory"] := ⟨by decide, by decide⟩
  have hmodules : (deps.map fun dep => TemplateInput.mk none (some dep)).map
      TemplateInput.document = deps.map moduleValue := by
    rw [List.map_map]
    rfl
  rw [build_sequence_iff, inputNodes, List.map_cons, hmodules, List.forall₂_cons,
    build_modules_iff]
  show (fieldsNode [("directory", plainNode inputDir.toList)]).build (level + 1) =
    .ok (fieldsValue [("directory", .str inputDir)]) ∧ _ ↔ _
  rw [and_congr_left_iff]
  intro _
  refine (build_fields_iff (by exact hkeys)).trans ?_
  rw [loadAs_cons_iff, build_plain_iff, and_iff_left loadAs_nil]

theorem build_plugins_iff :
    (Yaml.Node.sequence .seq [pluginNode outputDir]).build level =
      .ok (.list ([Plugin.mk (some esPlugin) none outputDir (some esPluginOptions)].map
        Plugin.document)) ↔ resolve outputDir.toList = .str := by
  have hkeys : AreKeys ["local", "out", "opt"] := ⟨by decide, by decide⟩
  have hlocal : resolve esPlugin.toList = .str := by decide
  have hoptions : List.Forall₂ (fun n v => n.build (level + 3) = .ok v)
      (esPluginOptions.map fun option => plainNode option.toList) (esPluginOptions.map .str) := by
    rw [List.forall₂_map_left_iff, List.forall₂_map_right_iff, List.forall₂_same]
    intro option hoption
    rw [build_plain_iff]
    revert option
    decide
  rw [build_sequence_iff, List.map_singleton, List.forall₂_cons, and_iff_left List.Forall₂.nil]
  show (fieldsNode [("local", plainNode esPlugin.toList), ("out", plainNode outputDir.toList),
    ("opt", .sequence .seq (esPluginOptions.map fun option => plainNode option.toList))]).build
      (level + 1) = .ok (fieldsValue [("local", .str esPlugin), ("out", .str outputDir),
    ("opt", .list (esPluginOptions.map .str))]) ↔ _
  refine (build_fields_iff (by exact hkeys)).trans ?_
  rw [loadAs_cons_iff, loadAs_cons_iff, loadAs_cons_iff, build_plain_iff, build_plain_iff,
    build_sequence_iff, and_iff_left loadAs_nil, and_iff_left hoptions, and_iff_right hlocal]

theorem build_template_iff (hgo : ∀ value ∈ goPrefix, value ≠ "") :
    (fieldsNode (templateFields outputDir inputDir deps goPrefix)).build level =
      .ok (build outputDir inputDir deps goPrefix).document ↔
      ∀ s ∈ pasted outputDir inputDir deps goPrefix, resolve s.toList = .str := by
  have hkeys : AreKeys ["version", "managed", "inputs", "plugins"] := ⟨by decide, by decide⟩
  have hversion : resolve currentVersion.toList = .str := by decide
  show (fieldsNode (templateFields outputDir inputDir deps goPrefix)).build level =
    .ok (fieldsValue [("version", .str currentVersion),
      ("managed", (builtManaged deps goPrefix).document),
      ("inputs", .list ((TemplateInput.mk (some inputDir) none ::
        deps.map fun dep => ⟨none, some dep⟩).map TemplateInput.document)),
      ("plugins", .list ([Plugin.mk (some esPlugin) none outputDir (some esPluginOptions)].map
        Plugin.document))]) ↔ _
  refine (build_fields_iff (by exact hkeys)).trans ?_
  rw [templateFields, loadAs_cons_iff, loadAs_cons_iff, loadAs_cons_iff, loadAs_cons_iff,
    build_plain_iff, build_managed_iff hgo, build_inputs_iff, build_plugins_iff,
    and_iff_left loadAs_nil, and_iff_right hversion]
  simp only [pasted, List.forall_mem_cons, List.forall_mem_append, Option.mem_toList]
  -- the modules are pasted twice, and count once
  tauto

end build

/-! ## The template for a directory -/

variable {outputDir inputDir : String} {deps : List String} {goPrefix : Option String}

theorem ne_empty_of_pasted
    (h : ∀ s ∈ pasted outputDir inputDir deps goPrefix, IsPlainToken s) :
    outputDir ≠ "" ∧ inputDir ≠ "" ∧ (∀ dep ∈ deps, dep ≠ "") ∧ ∀ value ∈ goPrefix, value ≠ "" := by
  simp only [pasted, List.forall_mem_cons, List.forall_mem_append, Option.mem_toList] at h
  obtain ⟨hout, hin, hdeps, hgo⟩ := h
  exact ⟨hout.token.1, hin.token.1, fun dep hdep => (hdeps dep hdep).token.1,
    fun value hvalue => (hgo value hvalue).token.1⟩

/-- The document of the template for a directory follows the schema. -/
theorem isTemplate_build
    (h : ∀ s ∈ pasted outputDir inputDir deps goPrefix, IsPlainToken s) :
    IsMapping IsTemplate (build outputDir inputDir deps goPrefix).document := by
  obtain ⟨hout, hin, hdeps, hgo⟩ := ne_empty_of_pasted h
  refine isTemplate_document rfl ?_ ?_ rfl (List.cons_ne_nil _ _) ?_
  · intro managed hmanaged
    obtain rfl := Option.some.inj hmanaged
    refine isManaged_document ?_
    intro os hos o ho
    cases goPrefix with
    | none => cases hos
    | some value =>
        have hne := hgo value rfl
        obtain rfl : [⟨goPackagePrefix, value⟩] = os := by simpa [hne] using hos
        rw [List.mem_singleton.mp ho]
        show goPackagePrefix ≠ ""
        decide
  · intro inputs hinputs
    obtain rfl := Option.some.inj hinputs
    refine ⟨List.cons_ne_nil _ _, List.forall_mem_cons.mpr ⟨?_, ?_⟩⟩
    · exact isInput_document (Or.inl rfl) (by simpa using hin) (by simp)
    · intro input hinput
      obtain ⟨dep, hdep, rfl⟩ := List.mem_map.mp hinput
      exact isInput_document (Or.inr rfl) (by simp) (by simpa using hdeps dep hdep)
  · intro plugin hplugin
    obtain rfl := List.mem_singleton.mp hplugin
    refine isPlugin_document rfl rfl (by decide) hout ?_
    intro options hoptions
    obtain rfl := Option.some.inj hoptions
    decide

theorem load_build
    (h : ∀ s ∈ pasted outputDir inputDir deps goPrefix, IsPlainToken s) :
    Yaml.load (build outputDir inputDir deps goPrefix).render.toList =
      ((fieldsNode (templateFields outputDir inputDir deps goPrefix)).build 0).toExcept := by
  rw [Yaml.load, ofText?_render_build h]

theorem toExcept_eq_ok_iff {α : Type} {b : Yaml.Built α} {a : α} :
    b.toExcept = .ok a ↔ b = .ok a := by
  cases b <;> simp [Yaml.Built.toExcept]

/-! ## What passes -/

section passes

variable {level : Nat}

theorem resolve_of_isText {text : List Char} {v : Value}
    (h : (plainNode text).build level = .ok v) (htext : IsText v) : resolve text = .str := by
  refine resolve_of_build h (kind_eq_str_iff.mpr ?_)
  rcases htext with ⟨s, hs, -⟩ | ⟨codes, hcodes, -⟩
  · exact Or.inl ⟨s, hs⟩
  · exact Or.inr ⟨codes, hcodes⟩

/-- The items of a list that is asked for a form have that form. -/
theorem exists_item {items : List Yaml.Node} {v : Value} {Form : Value → Prop}
    (h : (Yaml.Node.sequence .seq items).build level = .ok v) (hform : IsListOf Form v) :
    ∀ n ∈ items, ∃ w, n.build (level + 1) = .ok w ∧ Form w := by
  obtain ⟨values, rfl, hvalues⟩ := build_sequence_eq_ok_iff.mp h
  obtain ⟨_, ⟨⟩, hall⟩ := hform
  clear h
  induction hvalues with
  | nil => exact fun n hn => absurd hn List.not_mem_nil
  | cons hw _ ih =>
      obtain ⟨hfirst, hrest⟩ := List.forall_mem_cons.mp hall
      exact List.forall_mem_cons.mpr ⟨⟨_, hw, hfirst⟩, ih hrest⟩

/-- The value of the only field of an input is a string. -/
theorem resolve_of_input {key name : String} {v : Value}
    (hkeys : AreKeys [key]) (hkey : key = "directory" ∨ key = "module")
    (h : (fieldsNode [(key, plainNode name.toList)]).build level = .ok v)
    (hform : IsMapping IsInput v) : resolve name.toList = .str := by
  obtain ⟨values, rfl, hvalues⟩ := (build_fields_eq_ok_iff (by exact hkeys)).mp h
  obtain ⟨w, _, rfl, hw, hnil⟩ := hvalues.exists_cons
  have hinput := isMapping_fields_iff.mp hform
  refine resolve_of_isText hw ?_
  rcases hkey with rfl | rfl
  · exact hinput.directory w rfl
  · exact hinput.module w rfl

theorem resolve_of_plugin {v : Value} (h : (pluginNode outputDir).build level = .ok v)
    (hform : IsMapping IsPlugin v) : resolve outputDir.toList = .str := by
  have hkeys : AreKeys ["local", "out", "opt"] := ⟨by decide, by decide⟩
  obtain ⟨values, rfl, hvalues⟩ := (build_fields_eq_ok_iff (by exact hkeys)).mp h
  obtain ⟨_, _, rfl, -, hvalues⟩ := hvalues.exists_cons
  obtain ⟨w, _, rfl, hw, -⟩ := hvalues.exists_cons
  obtain ⟨_, ⟨⟩, htext⟩ := (isMapping_fields_iff.mp hform).out
  exact resolve_of_isText hw htext

/-- The directories and the modules of a tree that is loaded as a template are strings. -/
theorem strings_of_isTemplate {v : Value}
    (h : (fieldsNode (templateFields outputDir inputDir deps goPrefix)).build level = .ok v)
    (hform : IsMapping IsTemplate v) :
    ∀ s ∈ outputDir :: inputDir :: deps, resolve s.toList = .str := by
  have hkeys : AreKeys ["version", "managed", "inputs", "plugins"] := ⟨by decide, by decide⟩
  obtain ⟨values, rfl, hvalues⟩ := (build_fields_eq_ok_iff (by exact hkeys)).mp h
  obtain ⟨_, _, rfl, -, hvalues⟩ := hvalues.exists_cons
  obtain ⟨_, _, rfl, -, hvalues⟩ := hvalues.exists_cons
  obtain ⟨inputs, _, rfl, hinputs, hvalues⟩ := hvalues.exists_cons
  obtain ⟨plugins, _, rfl, hplugins, -⟩ := hvalues.exists_cons
  have htemplate := isMapping_fields_iff.mp hform
  have hinput := exists_item hinputs (htemplate.inputs inputs rfl).2
  obtain ⟨_, ⟨⟩, hfilled⟩ := htemplate.plugins
  obtain ⟨w, hw, hplugin⟩ := exists_item hplugins hfilled.2 _ (List.mem_singleton_self _)
  rw [inputNodes, List.forall_mem_cons, List.forall_mem_map] at hinput
  obtain ⟨⟨d, hd, hdirectory⟩, hmodules⟩ := hinput
  rw [List.forall_mem_cons, List.forall_mem_cons]
  refine ⟨resolve_of_plugin hw hplugin, ?_, fun dep hdep => ?_⟩
  · exact resolve_of_input ⟨by decide, by decide⟩ (Or.inl rfl) hd hdirectory
  · obtain ⟨m, hm, hmodule⟩ := hmodules dep hdep
    exact resolve_of_input ⟨by decide, by decide⟩ (Or.inr rfl) hm hmodule

end passes

theorem verify_eq_nil_iff {content : String} :
    verify content = .ok [] ↔ ∃ v, Yaml.load content.toList = .ok v ∧ IsMapping IsTemplate v := by
  have hsort : ∀ findings, sortFindings findings = [] ↔ findings = [] := by
    intro findings
    have hperm := sortFindings_perm findings
    constructor
    · intro hnil
      rw [hnil] at hperm
      exact List.perm_nil.mp hperm.symm
    · rintro rfl
      exact List.perm_nil.mp hperm
  cases hload : Yaml.load content.toList with
  | error e =>
      rw [verify, hload]
      cases e <;> simp
  | ok v =>
      rw [verify_of_load hload, Except.ok.injEq, List.map_eq_nil_iff, verifyValue, hsort,
        ← Value.Fits, fits_schema_iff]
      simp

/-- **What is written for a directory is loaded as it was meant** exactly if every pasted value is a
string for YAML. Then it passes verification, and nothing passes whose directories and modules are
not strings. -/
theorem load_render_build_iff
    (h : ∀ s ∈ pasted outputDir inputDir deps goPrefix, IsPlainToken s) :
    (Yaml.load (build outputDir inputDir deps goPrefix).render.toList =
        .ok (build outputDir inputDir deps goPrefix).document ↔
      ∀ s ∈ pasted outputDir inputDir deps goPrefix, resolve s.toList = .str) ∧
    ((∀ s ∈ pasted outputDir inputDir deps goPrefix, resolve s.toList = .str) →
      verify (build outputDir inputDir deps goPrefix).render = .ok []) ∧
    (verify (build outputDir inputDir deps goPrefix).render = .ok [] →
      ∀ s ∈ outputDir :: inputDir :: deps, resolve s.toList = .str) := by
  have hiff : Yaml.load (build outputDir inputDir deps goPrefix).render.toList =
      .ok (build outputDir inputDir deps goPrefix).document ↔
      ∀ s ∈ pasted outputDir inputDir deps goPrefix, resolve s.toList = .str := by
    rw [load_build h, toExcept_eq_ok_iff, build_template_iff (ne_empty_of_pasted h).2.2.2]
  refine ⟨hiff, fun hstrings => ?_, fun hverify => ?_⟩
  · exact verify_eq_nil_iff.mpr ⟨_, hiff.mpr hstrings, isTemplate_build h⟩
  · obtain ⟨v, hv, hform⟩ := verify_eq_nil_iff.mp hverify
    rw [load_build h, toExcept_eq_ok_iff] at hv
    exact strings_of_isTemplate hv hform

theorem ping_load_render_build :
    Yaml.load (build "src/gen" "proto" ["buf.build/acme/ping"] (some "acme/gen")).render.toList =
        .ok (build "src/gen" "proto" ["buf.build/acme/ping"] (some "acme/gen")).document ∧
      verify (build "src/gen" "proto" ["buf.build/acme/ping"] (some "acme/gen")).render = .ok [] := by
  have hstrings : ∀ s ∈ pasted "src/gen" "proto" ["buf.build/acme/ping"] (some "acme/gen"),
      resolve s.toList = .str := by decide
  have hping := @load_render_build_iff "src/gen" "proto" ["buf.build/acme/ping"] (some "acme/gen")
    (by decide)
  exact ⟨hping.1.mpr hstrings, hping.2.1 hstrings⟩

/-- A directory with a number as its name is read as the number. -/
example : resolve "123".toList = .int ∧ verify (build "123" "proto" [] none).render =
    .ok [⟨"$.plugins[0].out", "123 is not of type 'string'"⟩] := by decide +kernel

end GenTemplate

end ConnectClients
