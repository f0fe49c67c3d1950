import ConnectClients.Proofs.GenTemplate.Layouts

/-!
# What is written is read back

A tidy template is one whose text says all of it: no list is empty, no value has
blanks, and directories and modules do not contain each other's keys. Such a template
is read back from its text, section by section. The templates that are made from
directories and modules are tidy.
-/

namespace ConnectClients.GenTemplate

open Text

/-- A template whose text says all of it. -/
structure IsTidy (t : GenTemplate) : Prop where
  version : ∀ v ∈ t.version, IsToken v
  managed : ∀ managed ∈ t.managed, managed.IsTidy
  inputs : ∀ inputs ∈ t.inputs,
    inputs ≠ [] ∧ (∀ input ∈ inputs, input.IsTidy) ∧ TemplateInput.Ordered inputs
  plugins : ∀ plugins ∈ t.plugins, plugins ≠ [] ∧ ∀ plugin ∈ plugins, plugin.IsTidy

variable {t : GenTemplate}

theorem IsTidy.isLegible (h : t.IsTidy) : t.IsLegible where
  version := h.version
  managed := h.managed
  inputs inputs hinputs := ⟨(h.inputs inputs hinputs).1, (h.inputs inputs hinputs).2.1⟩
  plugins := h.plugins

theorem IsTidy.directoriesFirst_eq (h : t.IsTidy) : t.directoriesFirst = t := by
  obtain ⟨version, managed, inputs, plugins⟩ := t
  cases inputs with
  | none => rfl
  | some inputs =>
      have hordered := (h.inputs inputs rfl).2.2
      rw [directoriesFirst, Option.map_some, TemplateInput.directoriesFirst_of_ordered hordered]

theorem read_textIn_of_isTidy (h : t.IsTidy) (layout : Layout) : read (textIn layout t) = t := by
  rw [read_textIn h.isLegible, h.directoriesFirst_eq]

theorem read_render_of_isTidy (h : t.IsTidy) : read t.render = t := by
  rw [render_eq]
  exact read_textIn_of_isTidy h .printed

/-! ## Templates made from directories and modules -/

theorem nonempty?_eq_some {α : Type} {xs ys : List α} (h : nonempty? xs = some ys) :
    ys ≠ [] ∧ ys = xs := by
  rw [nonempty?] at h
  split at h
  · exact absurd h (by simp)
  · rename_i hne
    obtain rfl := Option.some.inj h
    exact ⟨fun hnil => hne (by rw [hnil]; rfl), rfl⟩

theorem isToken_const {s : String}
    (h : (s != "" && s.toList.all fun c => !isBlank c) = true) : IsToken s := by
  rw [Bool.and_eq_true, bne_iff_ne, List.all_eq_true] at h
  exact ⟨h.1, fun c hc => by simpa using h.2 c hc⟩

variable {outputDir inputDir : String} {deps : List String} {goPrefix : Option String}

/-- What a template is made from: directories and modules that do not contain each other's
keys, and a prefix that may be missing or empty. -/
structure Buildable (outputDir inputDir : String) (deps : List String)
    (goPrefix : Option String) : Prop where
  output : IsToken outputDir
  input : IsToken inputDir
  input_apart : ¬ "module:".toList <:+: inputDir.toList
  deps : ∀ dep ∈ deps, IsToken dep ∧ ¬ "directory:".toList <:+: dep.toList
  goPrefix : ∀ value ∈ goPrefix, value = "" ∨ IsToken value

theorem build_managed_isTidy (h : Buildable outputDir inputDir deps goPrefix) :
    ∀ managed ∈ (build outputDir inputDir deps goPrefix).managed, managed.IsTidy := by
  intro managed hmanaged
  obtain rfl := Option.some.inj hmanaged
  constructor
  · intro names hnames
    obtain ⟨hne, rfl⟩ := nonempty?_eq_some hnames
    exact ⟨hne, fun name hname => (h.deps name hname).1⟩
  · intro entries hentries
    cases hgo : goPrefix with
    | none => simp [hgo] at hentries
    | some value =>
        simp only [hgo] at hentries
        split at hentries
        · exact absurd hentries (by simp)
        · rename_i hvalue
          obtain rfl := Option.some.inj hentries
          refine ⟨List.cons_ne_nil _ _, ?_⟩
          intro o ho
          have hoption : IsToken goPackagePrefix := isToken_const (by decide)
          rw [List.mem_singleton.mp ho]
          refine ⟨hoption, ?_⟩
          rcases h.goPrefix value hgo with rfl | htoken
          · exact absurd rfl hvalue
          · exact htoken

theorem build_inputs_isTidy (h : Buildable outputDir inputDir deps goPrefix) :
    ∀ inputs ∈ (build outputDir inputDir deps goPrefix).inputs,
      inputs ≠ [] ∧ (∀ input ∈ inputs, input.IsTidy) ∧ TemplateInput.Ordered inputs := by
  intro inputs hinputs
  obtain rfl := Option.some.inj hinputs
  refine ⟨List.cons_ne_nil _ _, ?_, ?_⟩
  · intro input hinput
    rcases List.mem_cons.mp hinput with rfl | hinput
    · exact .directory h.input h.input_apart
    · obtain ⟨dep, hdep, rfl⟩ := List.mem_map.mp hinput
      exact .moduleName (h.deps dep hdep).1 (h.deps dep hdep).2
  · apply List.pairwise_cons.mpr
    refine ⟨fun _ _ _ => rfl, ?_⟩
    apply List.pairwise_map.mpr
    exact List.pairwise_of_forall fun _ _ hsome => absurd hsome (by simp)

theorem build_plugins_isTidy (h : Buildable outputDir inputDir deps goPrefix) :
    ∀ plugins ∈ (build outputDir inputDir deps goPrefix).plugins,
      plugins ≠ [] ∧ ∀ plugin ∈ plugins, plugin.IsTidy := by
  intro plugins hplugins
  obtain rfl := Option.some.inj hplugins
  refine ⟨List.cons_ne_nil _ _, ?_⟩
  intro plugin hplugin
  rw [List.mem_singleton.mp hplugin]
  refine ⟨Or.inl ⟨esPlugin, isToken_const (by decide), rfl, rfl⟩, h.output, ?_⟩
  intro options hoptions
  obtain rfl := Option.some.inj hoptions
  refine ⟨List.cons_ne_nil _ _, ?_⟩
  intro option hoption
  rcases List.mem_pair.mp hoption with rfl | rfl
  · exact isToken_const (by decide)
  · exact isToken_const (by decide)

theorem build_isTidy (h : Buildable outputDir inputDir deps goPrefix) :
    (build outputDir inputDir deps goPrefix).IsTidy where
  version v hv := by
    obtain rfl := Option.some.inj hv
    exact isToken_const (by decide)
  managed := build_managed_isTidy h
  inputs := build_inputs_isTidy h
  plugins := build_plugins_isTidy h

/-- **A tidy template is read back from its text**, and so is every template made from
directories and modules. -/
theorem read_render :
    (∀ t : GenTemplate, t.IsTidy → read t.render = t) ∧
      ∀ outputDir inputDir deps goPrefix, Buildable outputDir inputDir deps goPrefix →
        read (build outputDir inputDir deps goPrefix).render =
          build outputDir inputDir deps goPrefix :=
  ⟨fun _ h => read_render_of_isTidy h, fun _ _ _ _ h => read_render_of_isTidy (build_isTidy h)⟩

/-- A template with a remote plugin before the one that writes a comment. -/
def twoPlugins : GenTemplate where
  version := some currentVersion
  managed := some ⟨false, some ["buf.build/acme/ping"], some [⟨"java_package", "com.acme"⟩]⟩
  inputs := some [.ofDirectory "proto", .ofModule "buf.build/acme/ping"]
  plugins := some [⟨none, some "buf.build/bufbuild/es", "gen", some ["-", "target=ts"]⟩,
    ⟨some esPlugin, none, "src/gen", none⟩]

theorem twoPlugins_isTidy : twoPlugins.IsTidy where
  version v hv := by
    obtain rfl := Option.some.inj hv
    exact isToken_const (by decide +kernel)
  managed managed hmanaged := by
    obtain rfl := Option.some.inj hmanaged
    constructor
    · intro names hnames
      obtain rfl := Option.some.inj hnames
      exact ⟨by simp, List.forall_mem_singleton.mpr (isToken_const (by decide +kernel))⟩
    · intro entries hentries
      obtain rfl := Option.some.inj hentries
      exact ⟨by simp, List.forall_mem_singleton.mpr
        ⟨isToken_const (by decide +kernel), isToken_const (by decide +kernel)⟩⟩
  inputs inputs hinputs := by
    obtain rfl := Option.some.inj hinputs
    refine ⟨by simp, ?_, by simp [TemplateInput.Ordered, TemplateInput.ofDirectory]⟩
    intro input hinput
    rcases List.mem_pair.mp hinput with rfl | rfl
    · exact .directory (isToken_const (by decide +kernel)) (by decide +kernel)
    · exact .moduleName (isToken_const (by decide +kernel)) (by decide +kernel)
  plugins plugins hplugins := by
    obtain rfl := Option.some.inj hplugins
    refine ⟨by simp, ?_⟩
    intro plugin hplugin
    rcases List.mem_pair.mp hplugin with rfl | rfl
    · refine ⟨Or.inr ⟨_, isToken_const (by decide +kernel), rfl, rfl⟩, isToken_const (by decide +kernel), ?_⟩
      intro options hoptions
      obtain rfl := Option.some.inj hoptions
      refine ⟨by simp, ?_⟩
      intro option hoption
      rcases List.mem_pair.mp hoption with rfl | rfl
      · exact isToken_const (by decide +kernel)
      · exact isToken_const (by decide +kernel)
    · refine ⟨Or.inl ⟨_, isToken_const (by decide +kernel), rfl, rfl⟩, isToken_const (by decide +kernel), ?_⟩
      intro options hoptions
      exact absurd hoptions (by simp)

theorem buildable_ping : Buildable "src/gen" "proto" ["buf.build/acme/ping"] (some "acme/gen") where
  output := isToken_const (by decide +kernel)
  input := isToken_const (by decide +kernel)
  input_apart := by decide +kernel
  deps := List.forall_mem_singleton.mpr ⟨isToken_const (by decide +kernel), by decide +kernel⟩
  goPrefix value hvalue := by
    obtain rfl := Option.some.inj hvalue
    exact Or.inr (isToken_const (by decide +kernel))

theorem twoPlugins_read_render :
    read twoPlugins.render = twoPlugins ∧
      read (build "src/gen" "proto" ["buf.build/acme/ping"] (some "acme/gen")).render =
        build "src/gen" "proto" ["buf.build/acme/ping"] (some "acme/gen") :=
  ⟨read_render.1 twoPlugins twoPlugins_isTidy, read_render.2 _ _ _ _ buildable_ping⟩

/-! ## Other layouts -/

/-- **A tidy template is read back from every layout of its text**, from the one with the items of
its lists flush with their keys as from the printed one. -/
theorem read_anyLayout (t : GenTemplate) (h : t.IsTidy) :
    read (textIn .compact t) = t ∧ ∀ layout : Layout, read (textIn layout t) = t :=
  ⟨read_textIn_of_isTidy h .compact, read_textIn_of_isTidy h⟩

/-- A layout with tabs, and no comment. -/
def tabbed : Layout := ⟨"\t", List.all_eq_true.mp (by decide), false, 2⟩

/-- The options of the first plugin are told from the second one by nothing but their
indentation. -/
theorem twoPlugins_anyLayout :
    read (textIn .compact twoPlugins) = twoPlugins ∧ read (textIn tabbed twoPlugins) = twoPlugins :=
  ⟨(read_anyLayout twoPlugins twoPlugins_isTidy).1,
    (read_anyLayout twoPlugins twoPlugins_isTidy).2 tabbed⟩

example : textIn .compact twoPlugins = unlines ["version: v2",
    "managed:", "  enabled: false",
    "  disable:", "  - module: buf.build/acme/ping",
    "  override:", "  - file_option: java_package", "    value: com.acme",
    "inputs:", "- directory: proto", "- module: buf.build/acme/ping",
    "plugins:",
    "- remote: buf.build/bufbuild/es", "  out: gen", "  opt:", "  - -", "  - target=ts",
    "- local: protoc-gen-es", "  out: src/gen"] := by
  decide +kernel

/-! ## Inputs in any order -/

/-- **Inputs are read back with the directories first**: in their order exactly if no module stands
before a directory. -/
theorem read_render_inputs_iff (inputs : List TemplateInput) (hne : inputs ≠ [])
    (h : ∀ input ∈ inputs, input.IsTidy) :
    read (render { inputs := some inputs }) =
        { inputs := some (TemplateInput.directoriesFirst inputs) } ∧
      ((read (render { inputs := some inputs })).inputs = some inputs ↔
        TemplateInput.Ordered inputs) := by
  have hlegible : IsLegible { inputs := some inputs } :=
    ⟨by simp, by simp, by simpa using ⟨hne, h⟩, by simp⟩
  have hread : read (render { inputs := some inputs }) =
      { inputs := some (TemplateInput.directoriesFirst inputs) } := by
    rw [render_eq]
    exact read_textIn hlegible
  refine ⟨hread, ?_⟩
  rw [hread, Option.some_inj]
  exact TemplateInput.directoriesFirst_eq_self_iff

/-- A module in front of a directory. -/
def moduleFirst : List TemplateInput := [.ofModule "buf.build/acme/ping", .ofDirectory "proto"]

theorem moduleFirst_read_render :
    (read (render { inputs := some moduleFirst })).inputs = some moduleFirst.reverse ∧
      (read (render { inputs := some moduleFirst })).inputs ≠ some moduleFirst := by
  have htidy : ∀ input ∈ moduleFirst, input.IsTidy := by
    intro input hinput
    rcases List.mem_pair.mp hinput with rfl | rfl
    · exact .moduleName (isToken_const (by decide +kernel)) (by decide +kernel)
    · exact .directory (isToken_const (by decide +kernel)) (by decide +kernel)
  have hunordered : ¬ TemplateInput.Ordered moduleFirst := by
    simp [TemplateInput.Ordered, moduleFirst, TemplateInput.ofModule, TemplateInput.ofDirectory]
  obtain ⟨hread, hiff⟩ := read_render_inputs_iff moduleFirst (List.cons_ne_nil _ _) htidy
  exact ⟨congrArg inputs hread, fun h => hunordered (hiff.mp h)⟩

end ConnectClients.GenTemplate
