import ConnectClients.Proofs.Files.Alike
import ConnectClients.Proofs.Files.Plant
import ConnectClients.Proofs.Yaml.Readers

/-!
# The directory of the schemas

The file of a module may name the directory of its schemas, which has to be in the module. What is
looked at is whether the path has two dots. A relative path without them cannot leave the module,
but a path from the root takes the place of the module's own path, and leads wherever it says.
-/

namespace ConnectClients

open Runs
open Location (along resolve start)

namespace Location

/-- A path leads to a location or below it. -/
def LeadsInto (here : Location) (p : Path) (top : Location) : Prop := top <+: resolve here p

instance (here : Location) (p : Path) (top : Location) : Decidable (LeadsInto here p top) :=
  inferInstanceAs (Decidable (top <+: _))

variable {here root : Location} {p : Path}

/-- A relative path that does not lead into the location it is followed from has two dots. -/
theorem up_mem_of_not_leadsInto (hroot : p.root = "") (h : ¬ LeadsInto root p root) :
    Path.up ∈ p.segments := by
  by_contra hup
  have hstart : start root p = root := by simp [start, hroot]
  apply h
  rw [LeadsInto, resolve_eq, hstart, along_of_no_up _ hup]
  exact List.prefix_append _ _

/-- A path without two dots that is joined to that of a location leads into the location, unless it
is one from the root that leads elsewhere. -/
theorem leadsInto_join_iff (hup : Path.up ∉ root) (hno : Path.up ∉ p.segments) :
    LeadsInto here (root.path.join p) root ↔ p.root = "" ∨ root <+: p.segments := by
  by_cases hroot : p.root = ""
  · have hempty : p.root.isEmpty = true := by simp [hroot]
    have hend : resolve here (root.path.join p) = root ++ p.segments := by
      have hsegments : Path.up ∉ root ++ p.segments := by
        rw [List.mem_append, not_or]
        exact ⟨hup, hno⟩
      rw [Path.join, if_pos hempty]
      exact along_of_no_up [] hsegments
    rw [LeadsInto, hend]
    exact iff_of_true (List.prefix_append _ _) (Or.inl hroot)
  · have hempty : p.root.isEmpty = false := by simpa using hroot
    have hend : resolve here (root.path.join p) = p.segments := by
      rw [Path.join, hempty, if_neg Bool.false_ne_true, resolve_eq, start, hempty,
        if_neg Bool.false_ne_true, along_of_no_up [] hno, List.nil_append]
    rw [LeadsInto, hend, or_iff_right hroot]

end Location

open Location (LeadsInto)

namespace BufModule

/-- The path that a file names. -/
def named? (fields : Fields) : Option Path := (namedPath? fields).map Path.ofString

/-- The directory that is taken from the path that a file names. -/
def schemaDirOf (root : Location) (named : Option Path) : Option Path :=
  (named.filter fun p => !p.segments.contains Path.up).map root.path.join

variable {here root : Location} {named : Option Path}

theorem mem_schemaDirOf_iff {dir : Path} : dir ∈ schemaDirOf root named ↔
    ∃ p ∈ named, Path.up ∉ p.segments ∧ root.path.join p = dir := by
  cases named with
  | none => simp [schemaDirOf]
  | some p => by_cases h : Path.up ∈ p.segments <;> simp [schemaDirOf, Option.filter, h]

theorem schemaDirOf_eq_none_iff :
    schemaDirOf root named = none ↔ ∀ p ∈ named, Path.up ∈ p.segments := by
  rw [Option.eq_none_iff_forall_not_mem]
  constructor
  · intro h p hp
    by_contra hno
    exact h _ (mem_schemaDirOf_iff.mpr ⟨p, hp, hno, rfl⟩)
  · intro h dir hdir
    obtain ⟨p, hp, hno, -⟩ := mem_schemaDirOf_iff.mp hdir
    exact hno (h p hp)

/-- What is found is the nearest module upwards, with the directory that its file names. -/
theorem find?_of_ok {dir : Path} {m : BufModule} {w w' : Workspace}
    (h : find? here dir w = .ok (some m) w') :
    rootAbove? w.tree (resolve here dir) = some m.root ∧
      ∃ fields w₁, document here (m.root.path.child fileName) w = .ok fields w₁ ∧
        m.schemaDir = schemaDirOf m.root (named? fields) := by
  obtain ⟨t, w₁, htree, h⟩ := bind_eq_ok_iff.mp h
  obtain ⟨rfl, rfl⟩ := Action.tree_eq_ok_iff.mp htree
  cases hroot : rootAbove? w₁.tree (resolve here dir) with
  | none =>
      rw [hroot] at h
      cases h
  | some root =>
      rw [hroot] at h
      obtain ⟨fields, w₂, hdocument, h⟩ := bind_eq_ok_iff.mp h
      have hend : m.root = root ∧ m.schemaDir = schemaDirOf root (named? fields) := by
        unfold schemaDirOf named?
        cases hnamed : namedPath? fields with
        | none =>
            rw [hnamed] at h
            cases h
            exact ⟨rfl, rfl⟩
        | some text =>
            simp only [hnamed, List.contains_iff_mem] at h
            by_cases hup : Path.up ∈ (Path.ofString text).segments
            · rw [if_pos hup] at h
              obtain ⟨_, w₃, -, h⟩ := bind_eq_ok_iff.mp h
              cases h
              simp [Option.filter, hup]
            · rw [if_neg hup] at h
              cases h
              simp [Option.filter, hup]
      obtain ⟨rfl, hschemaDir⟩ := hend
      exact ⟨rfl, fields, w₂, hdocument, hschemaDir⟩

/-- **A module's schemas are in the module unless its file names a path from the root.** Let a
module be found. The directory of its schemas leads into the module exactly if the path that its
file names is relative, has two dots, or leads into the module from the root. A path that does not
lead into the module is passed over exactly if it has two dots: so is every relative one, and so is
none from the root without them. -/
theorem schemaDir_inside_iff {dir : Path} {m : BufModule} {w w' : Workspace} (hhere : Path.up ∉ here)
    (h : find? here dir w = .ok (some m) w') :
    rootAbove? w.tree (resolve here dir) = some m.root ∧
      ∃ fields w₁, document here (m.root.path.child fileName) w = .ok fields w₁ ∧
        ((∀ d ∈ m.schemaDir, LeadsInto here d m.root) ↔
          ∀ p ∈ named? fields, p.root = "" ∨ Path.up ∈ p.segments ∨ m.root <+: p.segments) ∧
        ∀ p ∈ named? fields, ¬ LeadsInto m.root p m.root →
          (m.schemaDir = none ↔ Path.up ∈ p.segments) ∧ (p.root = "" → m.schemaDir = none) := by
  obtain ⟨hroot, fields, w₁, hdocument, hschemaDir⟩ := find?_of_ok h
  have hup : Path.up ∉ m.root := by
    have hle : m.root <+: resolve here dir :=
      Location.mem_upward.mp (List.mem_of_find?_eq_some hroot)
    exact fun hmem => FileTree.up_not_mem_resolve hhere dir (hle.subset hmem)
  refine ⟨hroot, fields, w₁, hdocument, ?_, fun p hp hout => ?_⟩
  · rw [hschemaDir]
    constructor
    · intro hinside p hp
      by_cases hno : Path.up ∈ p.segments
      · exact Or.inr (Or.inl hno)
      · have hjoined := hinside _ (mem_schemaDirOf_iff.mpr ⟨p, hp, hno, rfl⟩)
        exact ((Location.leadsInto_join_iff hup hno).mp hjoined).imp_right Or.inr
    · intro hnamed d hd
      obtain ⟨p, hp, hno, rfl⟩ := mem_schemaDirOf_iff.mp hd
      exact (Location.leadsInto_join_iff hup hno).mpr
        ((hnamed p hp).imp_right fun hrest => hrest.resolve_left hno)
  · have hnone : m.schemaDir = none ↔ Path.up ∈ p.segments := by
      rw [hschemaDir, schemaDirOf_eq_none_iff]
      constructor
      · exact fun hall => hall p hp
      · intro hmem p' hp'
        obtain rfl := Option.mem_unique hp hp'
        exact hmem
    exact ⟨hnone, fun hrelative => hnone.mpr (Location.up_mem_of_not_leadsInto hrelative hout)⟩

/-- A module whose file has this text. -/
def moduleWorkspace (text : String) : Workspace where
  tree :=
    { items := [(["work"], .directory), (["work", "buf.yaml"], .file (Text.encode text))]
      nodup := by simp }

/-- The file of a module names a path from the root without two dots, and the directory of the
schemas is outside of the module. -/
def LeadsOut (text : String) : Prop :=
  ∃ m w', find? [] ⟨"", ["work"]⟩ (moduleWorkspace text) = .ok (some m) w' ∧
    m = ⟨["work"], some ⟨"/", ["etc"]⟩⟩ ∧ ¬ LeadsInto [] ⟨"/", ["etc"]⟩ m.root ∧
    ∃ fields w₁, document [] (m.root.path.child fileName) (moduleWorkspace text) = .ok fields w₁ ∧
      ∃ p ∈ named? fields, p.root ≠ "" ∧ Path.up ∉ p.segments ∧ ¬ m.root <+: p.segments

/-- Each of the ways to name a path takes one from the root. -/
theorem rootedPath_leads_out :
    LeadsOut "modules:\n  - path: /etc\n" ∧ LeadsOut "build:\n  roots:\n    - /etc\n" ∧
      LeadsOut "root: /etc\n" := by
  have hout : ¬ LeadsInto [] ⟨"/", ["etc"]⟩ ["work"] := by decide
  have hleads : ∀ text, Meets (fun found _ => found == some ⟨["work"], some ⟨"/", ["etc"]⟩⟩)
      (find? [] ⟨"", ["work"]⟩ (moduleWorkspace text)) = true → LeadsOut text := by
    intro text hrun
    obtain ⟨found, w', hfound, heq⟩ := exists_ok_of_meets _ _ _ hrun
    obtain rfl := eq_of_beq heq
    obtain ⟨-, fields, w₁, hdocument, hinside, -⟩ := schemaDir_inside_iff (by decide) hfound
    refine ⟨_, w', hfound, rfl, hout, fields, w₁, hdocument, ?_⟩
    have hnot := fun hnamed => hout (hinside.mpr hnamed _ rfl)
    simpa using hnot
  exact ⟨hleads _ (by decide +kernel), hleads _ (by decide +kernel), hleads _ (by decide +kernel)⟩

end BufModule

end ConnectClients
