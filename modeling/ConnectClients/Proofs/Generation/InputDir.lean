import ConnectClients.Proofs.BufModule.SchemaDir
import ConnectClients.Proofs.Generation.Template
import ConnectClients.Proofs.RelativePaths

/-!
# The directory that buf reads

A file of a module may list several modules, of which one has the schemas that were asked for. The
template names the directory of the first one that has a path, whichever was asked for. So buf reads
the schemas exactly if they are in that one, or if its path has two dots, as then the whole
workspace is read.
-/

namespace ConnectClients

open Runs
open Location (LeadsInto along resolve)

namespace Location

variable {here : Location} {p : Path} {s : String}

theorem mem_along {l : Location} {segments : List String} (h : s ∈ along l segments) :
    s ∈ l ∨ s ∈ segments := by
  induction segments generalizing l with
  | nil => exact Or.inl h
  | cons name rest ih =>
      rw [along] at h
      split at h
      · rcases ih h with hmem | hmem
        · exact Or.inl (List.dropLast_subset l hmem)
        · exact Or.inr (List.mem_cons_of_mem _ hmem)
      · rcases ih h with hmem | hmem
        · rcases List.mem_append.mp hmem with hmem | hmem
          · exact Or.inl hmem
          · exact Or.inr (List.mem_singleton.mp hmem ▸ List.mem_cons_self)
        · exact Or.inr (List.mem_cons_of_mem _ hmem)

/-- A path to a location whose names are those of the current one and of a path is one that can be
read. -/
theorem isTidy_path {root : Location} (hhere : ∀ s ∈ here, Path.IsName s) (hp : p.IsTidy)
    (h : root <+: resolve here p) : root.path.IsTidy := by
  have hnames : ∀ s ∈ root, Path.isSegment s.toList = true ∧ '/' ∉ s.toList := by
    intro s hs
    have hmem := h.subset hs
    rw [resolve] at hmem
    rcases mem_along hmem with hstart | hsegment
    · split at hstart
      · exact ⟨(hhere s hstart).isSegment, (hhere s hstart).no_slash⟩
      · exact absurd hstart List.not_mem_nil
    · exact ⟨hp.isSegment s hsegment, hp.no_slash s hsegment⟩
  exact ⟨Or.inr (Or.inl rfl), fun s hs => (hnames s hs).1, fun s hs => (hnames s hs).2⟩

theorem isTidy_join {root : Location} (hroot : root.path.IsTidy) (hp : p.IsTidy) :
    (root.path.join p).IsTidy := by
  rw [Path.join]
  split
  · refine ⟨hroot.isRoot, fun s hs => ?_, fun s hs => ?_⟩
    · exact (List.mem_append.mp hs).elim (hroot.isSegment s) (hp.isSegment s)
    · exact (List.mem_append.mp hs).elim (hroot.no_slash s) (hp.no_slash s)
  · exact hp

/-- A path that is joined to that of a location leads to where it leads from there. -/
theorem resolve_join {root : Location} (hup : Path.up ∉ root) (p : Path) :
    resolve here (root.path.join p) = resolve root p := by
  by_cases hroot : p.root = ""
  · have hempty : p.root.isEmpty = true := by simp [hroot]
    rw [Path.join, if_pos hempty, resolve, resolve, hempty]
    show along [] (root ++ p.segments) = along root p.segments
    rw [along_append, along_of_no_up [] hup, List.nil_append]
  · have hempty : ¬ p.root.isEmpty = true := by simpa using hroot
    rw [Path.join, if_neg hempty]
    exact resolve_of_root hroot here root

theorem resolve_path {root : Location} (hup : Path.up ∉ root) : resolve here root.path = root := by
  show along [] root = root
  rw [along_of_no_up [] hup, List.nil_append]

end Location

namespace BufModule

/-- The paths of the modules that a file lists. -/
def modulePaths (fields : Fields) : List String :=
  (listOf (Value.lookup? "modules" fields)).filterMap fun m =>
    (Value.lookup? "path" (fieldsOf (some m))).bind textOf?

/-- The paths of the modules that the file of a directory lists, if it holds a mapping. -/
def listedPaths (t : FileTree) (here root : Location) : List String :=
  match Yaml.loadFile t here (root.path.child fileName) with
  | .ok (.dict fields) => modulePaths fields
  | _ => []

theorem exists_dict_of_listedPaths {t : FileTree} {here root : Location} {first : String}
    {rest : List String} (h : listedPaths t here root = first :: rest) :
    ∃ fields, Yaml.loadFile t here (root.path.child fileName) = .ok (.dict fields) ∧
      modulePaths fields = first :: rest := by
  unfold listedPaths at h
  split at h
  case h_1 fields hload => exact ⟨fields, hload, h⟩
  case h_2 => cases h

theorem named?_of_modulePaths {fields : Fields} {first : String} {rest : List String}
    (h : modulePaths fields = first :: rest) : named? fields = some (Path.ofString first) := by
  have hfirst : (listOf (Value.lookup? "modules" fields)).findSome? (fun m =>
      (Value.lookup? "path" (fieldsOf (some m))).bind textOf?) = some first := by
    rw [← List.head?_filterMap]
    exact congrArg List.head? h
  unfold named? namedPath?
  simp only [hfirst]
  rfl

variable {here root : Location} {fields : Fields} {w : Workspace}

theorem not_scalar_of_loaded {t : FileTree} {p : Path} {v : Value}
    (h : Yaml.loadFile t here p = .ok v) (fault : Yaml.ScalarFault) :
    Yaml.loadFile t here p ≠ .error (.scalar fault) := by
  rw [h]
  exact nofun

theorem document_of_dict {p : Path} (h : Yaml.loadFile w.tree here p = .ok (.dict fields)) :
    document here p w = .ok fields w := by
  rw [document, Action.tree_bind_eq, h]
  rfl

/-- The module whose file holds a mapping is found. -/
theorem find?_of_dict {dir : Path} (hroot : rootAbove? w.tree (resolve here dir) = some root)
    (hload : Yaml.loadFile w.tree here (root.path.child fileName) = .ok (.dict fields)) :
    ∃ m w₁, find? here dir w = .ok (some m) w₁ ∧ w₁.tree = w.tree ∧ m.root = root ∧
      m.schemaDir = schemaDirOf root (named? fields) := by
  obtain ⟨m, w₁, hfound, htree, rfl, -⟩ :=
    find?_of_not_scalar hroot (not_scalar_of_loaded hload)
  obtain ⟨-, fields', w₂, hdocument, hschemaDir⟩ := find?_of_ok hfound
  rw [document_of_dict hload] at hdocument
  cases hdocument
  exact ⟨m, w₁, hfound, htree, rfl, hschemaDir⟩

/-- Where the schemas of a module are read: from the directory that its file names, or from the whole
module, if the path has two dots. -/
theorem inputDir_of_named {m : BufModule} {p : Path}
    (h : m.schemaDir = schemaDirOf m.root (some p)) :
    m.inputDir = if Path.up ∈ p.segments then m.root.path else m.root.path.join p := by
  rw [inputDir, h]
  by_cases hup : Path.up ∈ p.segments <;> simp [schemaDirOf, Option.filter, hup]

end BufModule

namespace Generation

open BufModule (fileName listedPaths named? rootAbove? schemaDirOf)

variable {here root : Location} {schemaDir file : Path} {outputDir : String}
variable {modules : List String} {goPrefix : Option String} {fields : Fields} {w : Workspace}

/-- A template has an input that a directory is in. -/
def Covers (template : GenTemplate) (here : Location) (dir : Path) : Prop :=
  ∃ inputs ∈ template.inputs, ∃ input ∈ inputs, ∃ text ∈ input.directory,
    LeadsInto here dir (resolve here (Path.ofString text))

/-- Of the inputs of a template that is built, only the first one is a directory. -/
theorem covers_build_iff {inputDir : String} {deps : List String} {dir : Path} :
    Covers (GenTemplate.build outputDir inputDir deps goPrefix) here dir ↔
      LeadsInto here dir (resolve here (Path.ofString inputDir)) := by
  unfold Covers GenTemplate.build
  constructor
  · rintro ⟨inputs, hinputs, input, hinput, text, htext, hleads⟩
    obtain rfl := Option.some.inj hinputs
    rcases List.mem_cons.mp hinput with rfl | hdep
    · obtain rfl := Option.some.inj htext
      exact hleads
    · obtain ⟨dep, -, rfl⟩ := List.mem_map.mp hdep
      cases htext
  · intro hleads
    exact ⟨_, rfl, _, List.mem_cons_self, _, rfl, hleads⟩

/-- In a module whose file holds a mapping, the template is built for the directory that the file
names, and is then written. -/
theorem writeTemplate_of_dict (outputDir : String) (file : Path) (modules : List String)
    (goPrefix : Option String) (hroot : rootAbove? w.tree (resolve here schemaDir) = some root)
    (hload : Yaml.loadFile w.tree here (root.path.child fileName) = .ok (.dict fields)) :
    ∃ (m : BufModule) (template : GenTemplate) (deps : List String) (w₁ : Workspace),
      w₁.tree = w.tree ∧ m.root = root ∧ m.schemaDir = schemaDirOf root (named? fields) ∧
      template = GenTemplate.build outputDir m.inputDir.toString deps goPrefix ∧
      writeTemplate here schemaDir outputDir file modules goPrefix w =
        (Output.writeText here file template.render >>= fun _ => pure template.render) w₁ := by
  obtain ⟨m, w₁, hfound, htree, rfl, hschemaDir⟩ := BufModule.find?_of_dict hroot hload
  have hsecond : Yaml.loadFile w₁.tree here (m.root.path.child fileName) = .ok (.dict fields) := by
    rw [htree, hload]
  obtain ⟨deps, w₂, hdeps, hsame, -⟩ :=
    BufModule.dependencies_of_not_scalar (BufModule.not_scalar_of_loaded hsecond)
  let w₃ : Workspace := { w₂ with log := w₂.log ++ [.info ("Using buf module " ++
    m.inputDir.toString ++ " with " ++ toString deps.length ++ " dependencies")] }
  refine ⟨m, _, addModules deps modules, w₃, hsame.trans htree, rfl, hschemaDir, rfl, ?_⟩
  rw [writeTemplate, bind_eq_of_ok hfound]
  simp only
  rw [bind_eq_of_ok hdeps, Action.record_bind_eq]
  rfl

/-- **The first module that is listed decides what buf reads.** Let the nearest module upwards of a
directory list modules with paths. Then a template is built, and all that can fail is to write it.
It has an input that the directory is in exactly if the first listed path leads to the directory or
above it, or has two dots. The other paths do not matter. -/
theorem writeTemplate_covers_iff {first : String} {rest : List String}
    (hhere : ∀ s ∈ here, Path.IsName s) (hdir : schemaDir.IsTidy)
    (hroot : rootAbove? w.tree (resolve here schemaDir) = some root)
    (hpaths : listedPaths w.tree here root = first :: rest) :
    ∃ (template : GenTemplate) (w₁ : Workspace), w₁.tree = w.tree ∧
      writeTemplate here schemaDir outputDir file modules goPrefix w =
        (Output.writeText here file template.render >>= fun _ => pure template.render) w₁ ∧
      (Covers template here schemaDir ↔ Path.up ∈ (Path.ofString first).segments ∨
        LeadsInto here schemaDir (resolve root (Path.ofString first))) := by
  obtain ⟨fields, hload, hnamed⟩ := BufModule.exists_dict_of_listedPaths hpaths
  obtain ⟨m, template, deps, w₁, htree, rfl, hschemaDir, htemplate, hwrite⟩ :=
    writeTemplate_of_dict outputDir file modules goPrefix hroot hload
  have habove : LeadsInto here schemaDir m.root :=
    Location.mem_upward.mp (List.mem_of_find?_eq_some hroot)
  have hup : Path.up ∉ m.root := by
    have hno : Path.up ∉ here := fun hmem => (hhere _ hmem).ne_up rfl
    exact fun hmem => FileTree.up_not_mem_resolve hno schemaDir (habove.subset hmem)
  have htidy : m.root.path.IsTidy := Location.isTidy_path hhere hdir habove
  rw [BufModule.named?_of_modulePaths hnamed] at hschemaDir
  refine ⟨template, w₁, htree, hwrite, ?_⟩
  rw [htemplate, covers_build_iff, BufModule.inputDir_of_named hschemaDir]
  split
  case isTrue htwo =>
    -- the whole module is read, and the directory is in it
    rw [htidy.ofString_toString, Location.resolve_path hup]
    exact iff_of_true habove (Or.inl htwo)
  case isFalse htwo =>
    rw [(Location.isTidy_join htidy (Path.isTidy_ofString first)).ofString_toString,
      Location.resolve_join hup, or_iff_right htwo]

/-- A module that lists two directories. -/
def twoModules : Workspace :=
  BufModule.moduleWorkspace "version: v2\nmodules:\n  - path: a\n  - path: b\n"

/-- The directory that is listed second is not read. -/
theorem secondModule_not_covered : ∃ template w',
    listedPaths twoModules.tree [] ["work"] = ["a", "b"] ∧
      LeadsInto [] ⟨"", ["work", "b"]⟩ (resolve ["work"] (Path.ofString "b")) ∧
      writeTemplate [] ⟨"", ["work", "b"]⟩ "gen" ⟨"", ["t.yaml"]⟩ [] none twoModules =
        .ok (GenTemplate.render template) w' ∧
      ¬ Covers template [] ⟨"", ["work", "b"]⟩ := by
  have hhere : ∀ s ∈ ([] : Location), Path.IsName s := fun s hs => absurd hs List.not_mem_nil
  have hdir : Path.IsTidy ⟨"", ["work", "b"]⟩ := ⟨Or.inl rfl, by decide, by decide⟩
  have hpaths : listedPaths twoModules.tree [] ["work"] = ["a", "b"] := by decide +kernel
  obtain ⟨template, w₁, -, hwrite, hcovers⟩ := writeTemplate_covers_iff hhere hdir
    (by decide +kernel) hpaths
  obtain ⟨text, w', hrun, -⟩ := exists_ok_of_meets (fun _ _ => true)
    (writeTemplate [] ⟨"", ["work", "b"]⟩ "gen" ⟨"", ["t.yaml"]⟩ [] none) twoModules
    (by decide +kernel)
  obtain ⟨u, w₂, -, hdone⟩ := bind_eq_ok_iff.mp (hwrite.symm.trans hrun)
  obtain ⟨rfl, rfl⟩ := pure_eq_ok_iff.mp hdone
  exact ⟨template, w', hpaths, by decide, hrun, mt hcovers.mp (by decide)⟩

end Generation

end ConnectClients
