import ConnectClients.Generation
import ConnectClients.Proofs.Action
import ConnectClients.Proofs.Files.Operation

/-!
# What renaming leaves alone

Renaming declarations writes modules where modules are. It makes no file and no
directory, and takes none away.
-/

namespace ConnectClients

open Runs
open Location (along start resolve)

namespace FileTree

/-- The trees differ only in what is in their files. -/
def SameShape (t t' : FileTree) : Prop :=
  ∀ l, t'.get? l = t.get? l ∨
    ∃ before after, t.get? l = some (.file before) ∧ t'.get? l = some (.file after)

theorem SameShape.refl (t : FileTree) : SameShape t t := fun _ => Or.inl rfl

theorem SameShape.trans {t t' t'' : FileTree} (h : SameShape t t') (h' : SameShape t' t'') :
    SameShape t t'' := by
  intro l
  rcases h' l with heq | ⟨before', after', hbefore', hafter'⟩
  · rw [heq]
    exact h l
  · rcases h l with heq | ⟨before, after, hbefore, -⟩
    · exact Or.inr ⟨before', after', heq ▸ hbefore', hafter'⟩
    · exact Or.inr ⟨before, after', hbefore, hafter'⟩

theorem SameShape.none_iff {t t' : FileTree} (h : SameShape t t') (l : Location) :
    t'.get? l = none ↔ t.get? l = none := by
  rcases h l with heq | ⟨before, after, hbefore, hafter⟩
  · rw [heq]
  · simp [hbefore, hafter]

theorem SameShape.directory_iff {t t' : FileTree} (h : SameShape t t') (l : Location) :
    t'.get? l = some .directory ↔ t.get? l = some .directory := by
  rcases h l with heq | ⟨before, after, hbefore, hafter⟩
  · rw [heq]
  · simp [hbefore, hafter]

theorem SameShape.closed {t t' : FileTree} (h : SameShape t t') (hc : t.Closed) : t'.Closed := by
  intro l s hsome
  exact (h.directory_iff l).mpr (hc l s fun hnone => hsome ((h.none_iff _).mpr hnone))

theorem sameShape_put {t : FileTree} {l : Location} {before : List UInt8}
    (h : t.get? l = some (.file before)) (after : List UInt8) :
    SameShape t (t.put l (.file after)) := by
  have hne : l ≠ [] := ne_nil_of_file h
  intro l'
  by_cases heq : l' = l
  · subst heq
    exact Or.inr ⟨before, after, h, get?_put_self hne _ t⟩
  · exact Or.inl (get?_put_of_ne heq _ t)

/-- What is read is a file that the path leads to. -/
theorem readText_of_ok {t : FileTree} {here : Location} {p : Path} {text : String}
    (h : t.readText here p = .ok text) : t.Passes (start here p) p.segments ∧
      ∃ octets, t.get? (resolve here p) = some (.file octets) := by
  rw [readText] at h
  cases hoctets : t.readOctets here p with
  | error fault =>
      rw [hoctets] at h
      exact absurd h (by simp)
  | ok octets =>
      rw [readOctets] at hoctets
      cases hlocate : t.locate here p with
      | error fault =>
          rw [hlocate] at hoctets
          cases hoctets
      | ok l =>
          obtain ⟨hpasses, rfl⟩ := locate_eq_ok_iff.mp hlocate
          rw [hlocate] at hoctets
          refine ⟨hpasses, octets, ?_⟩
          cases hget : t.get? (resolve here p) with
          | none =>
              simp only [bind, Except.bind, hget] at hoctets
              cases hoctets
          | some item =>
              simp only [bind, Except.bind, hget] at hoctets
              cases item with
              | directory => cases hoctets
              | file found =>
                  cases hoctets
                  rfl

/-- The directory of a file is there. -/
theorem pathIsDirectory_parent {t : FileTree} {here : Location} {p : Path}
    (hpasses : t.Passes (start here p) p.segments) (hne : p.segments ≠ []) :
    t.pathIsDirectory here p.parent = true := by
  have hsegments : p.segments.dropLast ++ [p.segments.getLast hne] = p.segments :=
    List.dropLast_append_getLast hne
  rw [← hsegments, passes_append] at hpasses
  exact pathIsDirectory_iff.mpr ⟨hpasses.1, hpasses.2.1⟩

end FileTree

namespace Output

open FileTree

/-- A file that is written over keeps the shape of the tree. -/
theorem writeText_sameShape {here : Location} {p : Path} {text : String} {u : Unit}
    {w w' : Workspace} (hpasses : w.tree.Passes (start here p) p.segments)
    {octets : List UInt8} (hfile : w.tree.get? (resolve here p) = some (.file octets))
    (h : writeText here p text w = .ok u w') : SameShape w.tree w'.tree := by
  obtain ⟨_, w₁, hparent, hfinal⟩ := bind_eq_ok_iff.mp h
  obtain ⟨t₁, hmake, rfl⟩ := Action.operate_eq_ok_iff.mp hparent
  obtain ⟨t₂, hwrite, rfl⟩ := Action.operate_eq_ok_iff.mp hfinal
  obtain ⟨-, -, rfl⟩ := Operation.writeText_eq_ok_iff.mp hwrite
  by_cases hne : p.segments = []
  · -- the parent of a path without segments is the path itself, and it is a file
    have hp : p.parent = p := by rw [Path.parent, hne]; exact congrArg _ hne.symm
    obtain ⟨hgrown, hdir⟩ := Operation.makeDirectories_grown hmake
    rw [hp] at hgrown hdir
    have hthere := (pathIsDirectory_iff.mp hdir).2
    rcases hgrown (resolve here p) with heq | ⟨hnone, -, -⟩
    · rw [heq, hfile] at hthere
      exact absurd hthere (by simp)
    · rw [hfile] at hnone
      exact absurd hnone (by simp)
  · rw [Operation.makeDirectories_of_directory (pathIsDirectory_parent hpasses hne)] at hmake
    cases hmake
    exact sameShape_put hfile _

end Output

namespace Generation

open FileTree

/-- What warnings about JSON names start with. -/
def unreadable : List Char := "Could not read ".toList

theorem unreadable_warning {lead kind : String} (hlead : lead = "Could not read " ++ kind)
    (path message : String) : unreadable <+: (lead ++ path ++ ": " ++ message).toList := by
  rw [hlead]
  simp only [String.append_assoc, String.toList_append]
  exact List.prefix_append _ _

theorem renameIn_sameShape {here : Location} {dir : Path} {names : List (String × String)}
    {m paths warnings : List String} {w w' : Workspace}
    (h : renameIn here dir names m w = .ok (paths, warnings) w') :
    SameShape w.tree w'.tree ∧ ∀ text ∈ warnings, unreadable <+: text.toList := by
  rw [renameIn, bind_eq_ok_iff] at h
  obtain ⟨t, w₁, htree, h⟩ := h
  obtain ⟨rfl, rfl⟩ := Action.tree_eq_ok_iff.mp htree
  cases hread : w₁.tree.readText here (dir.below m) with
  | error fault =>
      simp only [hread] at h
      obtain ⟨hpair, rfl⟩ := pure_eq_ok_iff.mp h
      rw [Prod.mk.injEq] at hpair
      obtain ⟨-, rfl⟩ := hpair
      refine ⟨SameShape.refl _, ?_⟩
      intro text htext
      have hlead : "Could not read generated module " = "Could not read " ++ "generated module " := by
        decide
      rw [List.mem_singleton.mp htext]
      exact unreadable_warning hlead _ _
  | ok content =>
      simp only [hread] at h
      obtain ⟨⟨renamed, modified⟩, w₂, hrename, h⟩ := bind_eq_ok_iff.mp h
      obtain ⟨-, rfl⟩ := Action.ofExcept_eq_ok_iff.mp hrename
      obtain ⟨hpasses, octets, hfile⟩ := readText_of_ok hread
      cases modified with
      | false =>
          obtain ⟨hpair, rfl⟩ := pure_eq_ok_iff.mp h
          rw [Prod.mk.injEq] at hpair
          obtain ⟨-, rfl⟩ := hpair
          exact ⟨SameShape.refl _, by simp⟩
      | true =>
          obtain ⟨_, w₃, hwrite, h⟩ := bind_eq_ok_iff.mp h
          obtain ⟨hpair, rfl⟩ := pure_eq_ok_iff.mp h
          rw [Prod.mk.injEq] at hpair
          obtain ⟨-, rfl⟩ := hpair
          exact ⟨Output.writeText_sameShape hpasses hfile hwrite, by simp⟩

theorem renameAll_sameShape {here : Location} {dir : Path} {names : List (String × String)}
    {ms : List (List String)} {paths warnings : List String} {w w' : Workspace}
    (h : renameAll here dir names ms w = .ok (paths, warnings) w') :
    SameShape w.tree w'.tree ∧ ∀ text ∈ warnings, unreadable <+: text.toList := by
  induction ms generalizing paths warnings w with
  | nil =>
      obtain ⟨hpair, rfl⟩ := pure_eq_ok_iff.mp h
      rw [Prod.mk.injEq] at hpair
      obtain ⟨-, rfl⟩ := hpair
      exact ⟨SameShape.refl _, by simp⟩
  | cons m rest ih =>
      rw [renameAll, bind_eq_ok_iff] at h
      obtain ⟨⟨first, firstWarnings⟩, w₁, hfirst, h⟩ := h
      obtain ⟨⟨more, moreWarnings⟩, w₂, hmore, h⟩ := bind_eq_ok_iff.mp h
      obtain ⟨hpair, rfl⟩ := pure_eq_ok_iff.mp h
      rw [Prod.mk.injEq] at hpair
      obtain ⟨-, rfl⟩ := hpair
      obtain ⟨hshape, hwarnings⟩ := renameIn_sameShape hfirst
      obtain ⟨hshape', hwarnings'⟩ := ih hmore
      refine ⟨hshape.trans hshape', ?_⟩
      intro text htext
      rcases List.mem_append.mp htext with htext | htext
      · exact hwarnings text htext
      · exact hwarnings' text htext

theorem declaredNames_of_ok {here : Location} {schemaDir : Path}
    {names : List (String × String)} {warnings : List String} {w w' : Workspace}
    (h : declaredNames here schemaDir w = .ok (names, warnings) w') :
    w' = w ∧ ∀ text ∈ warnings, unreadable <+: text.toList := by
  rw [declaredNames, bind_eq_ok_iff] at h
  obtain ⟨t, w₁, htree, h⟩ := h
  obtain ⟨rfl, rfl⟩ := Action.tree_eq_ok_iff.mp htree
  obtain ⟨hpair, rfl⟩ := pure_eq_ok_iff.mp h
  refine ⟨rfl, ?_⟩
  have hsecond : warnings = _ := congrArg Prod.snd hpair
  rw [hsecond]
  -- the invariant of the fold over the schemas: every warning so far is of that kind
  refine List.foldlRecOn (motive := fun found : List (String × String) × List String =>
    ∀ text ∈ found.2, unreadable <+: text.toList) _ _ (by simp) fun found hfound m _ => ?_
  dsimp only
  cases w'.tree.readText here (schemaDir.below m) with
  | ok source => exact hfound
  | error fault =>
      intro text htext
      rcases List.mem_append.mp htext with htext | htext
      · exact hfound text htext
      · have hlead : "Could not read proto file " = "Could not read " ++ "proto file " := by
          decide
        rw [List.mem_singleton.mp htext]
        exact unreadable_warning hlead _ _

/-- Taking over JSON names keeps the shape of the tree, and warns about what it could
not read only. -/
theorem applyJsonNames_sameShape {here : Location} {schemaDir dir : Path}
    {paths warnings : List String} {w w' : Workspace}
    (h : applyJsonNames here schemaDir dir w = .ok (paths, warnings) w') :
    SameShape w.tree w'.tree ∧ ∀ text ∈ warnings, unreadable <+: text.toList := by
  rw [applyJsonNames, bind_eq_ok_iff] at h
  obtain ⟨⟨names, found⟩, w₁, hnames, h⟩ := h
  obtain ⟨rfl, hfound⟩ := declaredNames_of_ok hnames
  simp only at h
  split at h
  · obtain ⟨hpair, rfl⟩ := pure_eq_ok_iff.mp h
    rw [Prod.mk.injEq] at hpair
    obtain ⟨-, rfl⟩ := hpair
    exact ⟨SameShape.refl _, hfound⟩
  · obtain ⟨t, w₂, htree, h⟩ := bind_eq_ok_iff.mp h
    obtain ⟨rfl, rfl⟩ := Action.tree_eq_ok_iff.mp htree
    obtain ⟨⟨more, moreWarnings⟩, w₃, hall, h⟩ := bind_eq_ok_iff.mp h
    obtain ⟨hpair, rfl⟩ := pure_eq_ok_iff.mp h
    rw [Prod.mk.injEq] at hpair
    obtain ⟨-, rfl⟩ := hpair
    obtain ⟨hshape, hwarnings⟩ := renameAll_sameShape hall
    refine ⟨hshape, ?_⟩
    intro text htext
    rcases List.mem_append.mp htext with htext | htext
    · exact hfound text htext
    · exact hwarnings text htext

theorem renames_sameShape {here : Location} {r : Request} {schemaDir : Option Path}
    {paths warnings : List String} {w w' : Workspace}
    (h : renames here r schemaDir w = .ok (paths, warnings) w') :
    SameShape w.tree w'.tree ∧ ∀ text ∈ warnings, unreadable <+: text.toList := by
  cases schemaDir with
  | some dir => exact applyJsonNames_sameShape h
  | none =>
      obtain ⟨hpair, rfl⟩ := pure_eq_ok_iff.mp h
      rw [Prod.mk.injEq] at hpair
      obtain ⟨-, rfl⟩ := hpair
      exact ⟨SameShape.refl _, by simp⟩

end Generation

end ConnectClients
