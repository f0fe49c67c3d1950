import ConnectClients.Proofs.Files.Listing
import ConnectClients.Proofs.Files.Touch
import ConnectClients.Proofs.Generation.Places
import ConnectClients.Proofs.Generation.Steps

/-!
# What a run may touch

A run rewrites generated modules, empties its two directories and makes what is missing
on the way to them, and writes its clients, two indexes and the shared module. It touches
nothing else, whether it succeeds or stops somewhere on the way.
-/

namespace ConnectClients

open Runs
open FileTree (OnWay Scope Touch Touched)
open Location (resolve)

/-! ## Where a run may write -/

namespace Request

variable (r : Request) (here : Location)

/-- At one of the two directories of a request, or below. -/
def Inside (l : Location) : Prop := r.servicesAt here <+: l ∨ r.typesAt here <+: l

/-- On the way to one of the two directories. The way to the shared module is part of it. -/
def OnWays (l : Location) : Prop :=
  OnWay here r.servicesDir l ∨ OnWay here (Generation.typesDir r.servicesDir) l

def transportAt : Location := r.apiAt here ++ [Output.transportName]

/-- An index, a client, or the shared module. -/
def IsOutput (l : Location) : Prop :=
  (∃ dir name, (dir = r.servicesAt here ∨ dir = r.typesAt here) ∧ l = dir ++ [name] ∧
      (name = Output.indexName ∨ ∃ entry : ClientEntry, name = entry.fileName)) ∨
    l = r.transportAt here

/-- Where the generated module is that segments lead to. -/
def moduleAt (m : List String) : Location := resolve here (r.generatedDir.below m)

/-- What a run may do where, with the modules that it may write over. -/
def scope (ms : List String → Prop) : Scope where
  emptied := r.Inside here
  made := r.OnWays here
  written := r.IsOutput here
  rewritten l := ∃ m, ms m ∧ l = r.moduleAt here m

variable {r here}

/-- The shared module goes to a directory on the way to the types directory. -/
theorem exists_lead_apiDir (r : Request) :
    ∃ rest, (Generation.typesDir r.servicesDir).segments =
      (Generation.apiDir r.servicesDir r.moduleName).segments ++ rest ∧
      (Generation.apiDir r.servicesDir r.moduleName).root =
        (Generation.typesDir r.servicesDir).root := by
  rw [typesDir_eq, Generation.apiDir]
  split
  · obtain ⟨rest, hrest⟩ := List.dropLast_prefix r.servicesDir.segments.dropLast
    refine ⟨rest ++ ["types"], ?_, rfl⟩
    show _ = r.servicesDir.segments.dropLast.dropLast ++ _
    rw [← List.append_assoc, hrest]
  · exact ⟨["types"], rfl, rfl⟩

theorem pathIsDirectory_apiDir {t : FileTree}
    (h : t.pathIsDirectory here (Generation.typesDir r.servicesDir) = true) :
    t.pathIsDirectory here (Generation.apiDir r.servicesDir r.moduleName) = true := by
  obtain ⟨rest, hsegments, hroot⟩ := r.exists_lead_apiDir
  have hlead := FileTree.pathIsDirectory_lead hsegments h
  rw [← hroot] at hlead
  exact hlead

end Request

/-! ## Writing -/

namespace Output

variable {here : Location} {dir p : Path} {name : String} {w : Workspace}

theorem makeDirectories_of_there (h : w.tree.pathIsDirectory here p = true) :
    makeDirectories here p w = .ok () w := by
  rw [makeDirectories, Action.operate, FileTree.Operation.makeDirectories_of_directory h]

theorem writeFile_ends (here : Location) (p : Path) (text : String) (w : Workspace) :
    Ends (writeFile here p text) w (fun w' => w'.tree = w.tree) fun _ w' =>
      w.tree.get? (resolve here p) ≠ some .directory ∧
        w'.tree = w.tree.put (resolve here p) (.file (Text.encode text)) := by
  apply Action.ends_operate
  exact (FileTree.Operation.writeText_ends here p text w.tree).mono (fun _ h => h) fun _ _ h => h.2

/-- Writing over a file changes that file alone. -/
theorem writeText_over_ends (text : String) (hparent : w.tree.pathIsDirectory here p.parent = true) :
    Ends (writeText here p text) w (fun w' => w'.tree = w.tree) fun _ w' =>
      w'.tree = w.tree.put (resolve here p) (.file (Text.encode text)) := by
  rw [writeText]
  apply ends_bind_of_ok (makeDirectories_of_there hparent)
  exact (writeFile_ends here p text w).mono (fun _ h => h) fun _ _ h => h.2

/-- A tree within a scope, in which a path still leads to a directory. -/
structure Settled (sc : Scope) (t : FileTree) (here : Location) (p : Path) (w : Workspace) : Prop where
  touched : Touched sc t w.tree
  there : w.tree.pathIsDirectory here p = true

variable {sc : Scope} {t : FileTree}

theorem settled_of_tree_eq {w' : Workspace} (h : Settled sc t here p w) (heq : w'.tree = w.tree) :
    Settled sc t here p w' where
  touched := by rw [heq]; exact h.touched
  there := by rw [heq]; exact h.there

theorem Settled.write {w' : Workspace} {l : Location} {octets : List UInt8}
    (h : Settled sc t here p w) (hwritten : sc.written l)
    (hfree : w.tree.get? l = none ∨ sc.emptied l) (hno : w.tree.get? l ≠ some .directory)
    (heq : w'.tree = w.tree.put l (.file octets)) : Settled sc t here p w' where
  touched := by
    rw [heq]
    exact h.touched.trans (FileTree.touched_write octets hwritten hfree)
  there := by
    obtain ⟨hpasses, hdir⟩ := FileTree.pathIsDirectory_iff.mp h.there
    have hkept : ∀ l', w.tree.get? l' = some .directory → w'.tree.get? l' = some .directory := by
      intro l' hl'
      have hne : l' ≠ l := by
        rintro rfl
        exact hno hl'
      rw [heq, FileTree.get?_put_of_ne hne, hl']
    exact FileTree.pathIsDirectory_iff.mpr ⟨hpasses.mono hkept, hkept _ hdir⟩

theorem writeInto_settled {text : String} (h : Settled sc t here p w) (hname : Path.IsName name)
    (hwritten : sc.written (resolve here dir ++ [name]))
    (hfree : w.tree.get? (resolve here dir ++ [name]) = none ∨
      sc.emptied (resolve here dir ++ [name])) :
    Ends (writeInto here dir name text) w (Settled sc t here p) fun _ => Settled sc t here p := by
  rw [writeInto]
  have hwrite := writeFile_ends here (dir.child name) text w
  rw [Location.resolve_child here dir hname] at hwrite
  refine (hwrite.mono (fun w' heq => settled_of_tree_eq h heq) fun _ w' hput => ?_).bind
    fun _ w' h' => ends_pure h'
  exact h.write hwritten hfree hput.1 hput.2

end Output

/-! ## Renaming -/

namespace Generation

/-- Only these modules may be rewritten. -/
def rewriting (here : Location) (dir : Path) (ms : List String → Prop) : Scope where
  rewritten l := ∃ m, ms m ∧ l = resolve here (dir.below m)

variable {here : Location} {dir : Path} {names : List (String × String)} {r : Request}
  {ms ms' : List String → Prop} {t t' : FileTree} {w : Workspace}

theorem rewriting_mono (h : Touched (rewriting here dir ms) t t') (hms : ∀ m, ms m → ms' m) :
    Touched (rewriting here dir ms') t t' := by
  refine h.mono (fun _ => id) (fun _ => id) (fun _ => id) ?_
  rintro l ⟨m, hm, rfl⟩
  exact ⟨m, hms m hm, rfl⟩

theorem rewriting_scope (h : Touched (rewriting here r.generatedDir ms) t t') :
    Touched (r.scope here ms) t t' :=
  h.mono (fun _ => False.elim) (fun _ => False.elim) (fun _ => False.elim) fun _ => id

theorem scope_mono (h : Touched (r.scope here ms) t t') (hms : ∀ m, ms m → ms' m) :
    Touched (r.scope here ms') t t' := by
  refine h.mono (fun _ => id) (fun _ => id) (fun _ => id) ?_
  rintro l ⟨m, hm, rfl⟩
  exact ⟨m, hms m hm, rfl⟩

theorem renameIn_ends {m : List String} (hm : m ≠ []) (w : Workspace) :
    Ends (renameIn here dir names m) w (fun w' => w'.tree = w.tree) fun found w' =>
      Touched (rewriting here dir fun m' => m' = m ∧ Path.slashed m' ∈ found.1) w.tree w'.tree := by
  rw [renameIn]
  apply Action.ends_tree_bind
  cases hread : w.tree.readText here (dir.below m) with
  | error fault => exact ends_pure (Touched.refl _ _)
  | ok content =>
      obtain ⟨hpasses, octets, hfile⟩ := FileTree.readText_of_ok hread
      have hne : (dir.below m).segments ≠ [] := by
        show dir.segments ++ m ≠ []
        simp [hm]
      refine Action.ends_ofExcept_bind ?_ rfl
      rintro ⟨renamed, modified⟩ -
      cases modified with
      | false => exact ends_pure (Touched.refl _ _)
      | true =>
          apply (Output.writeText_over_ends renamed (FileTree.pathIsDirectory_parent hpasses hne)).bind
          intro _ w' hput
          refine ends_pure ?_
          rw [hput]
          exact FileTree.touched_rewrite _ ⟨m, ⟨rfl, List.mem_singleton_self _⟩, rfl⟩ hfile

theorem renameAll_ends {ms : List (List String)} (hms : ∀ m ∈ ms, m ≠ []) (w : Workspace) :
    Ends (renameAll here dir names ms) w
      (fun w' => Touched (rewriting here dir (· ∈ ms)) w.tree w'.tree) fun found w' =>
        Touched (rewriting here dir fun m => m ∈ ms ∧ Path.slashed m ∈ found.1) w.tree w'.tree := by
  induction ms generalizing w with
  | nil => exact ends_pure (Touched.refl _ _)
  | cons m rest ih =>
      rw [renameAll]
      refine Ends.bind ((renameIn_ends (hms m List.mem_cons_self) w).mono ?_ fun _ _ h => h) ?_
      · intro w' heq
        rw [heq]
        exact Touched.refl _ _
      · rintro ⟨paths, warnings⟩ w₁ hfirst
        refine Ends.bind ((ih (fun m' hm' => hms m' (List.mem_cons_of_mem _ hm')) w₁).mono ?_
          fun _ _ h => h) ?_
        · intro w' hrest
          have hhere : Touched (rewriting here dir (· ∈ m :: rest)) w.tree w₁.tree := by
            apply rewriting_mono hfirst
            rintro m' ⟨rfl, -⟩
            exact List.mem_cons_self
          exact hhere.trans (rewriting_mono hrest fun m' => List.mem_cons_of_mem m)
        · rintro ⟨more, moreWarnings⟩ w' hrest
          refine ends_pure (Touched.trans (rewriting_mono hfirst ?_) (rewriting_mono hrest ?_))
          · rintro m' ⟨rfl, hlisted⟩
            exact ⟨List.mem_cons_self, List.mem_append_left _ hlisted⟩
          · rintro m' ⟨hm', hlisted⟩
            exact ⟨List.mem_cons_of_mem _ hm', List.mem_append_right _ hlisted⟩

/-- The generated modules that a run may rewrite, if JSON names are taken from schemas. -/
def Rewritable (t : FileTree) (here : Location) (r : Request) (schemaDir : Option Path)
    (m : List String) : Prop :=
  schemaDir ≠ none ∧ m ∈ Discovery.modules t here r.generatedDir

theorem renames_ends {r : Request} (schemaDir : Option Path) (w : Workspace) :
    Ends (renames here r schemaDir) w
      (fun w' => Touched (rewriting here r.generatedDir (Rewritable w.tree here r schemaDir))
        w.tree w'.tree) fun found w' =>
      Touched (rewriting here r.generatedDir fun m =>
        Rewritable w.tree here r schemaDir m ∧ Path.slashed m ∈ found.1) w.tree w'.tree := by
  cases schemaDir with
  | none => exact ends_pure (Touched.refl _ _)
  | some schemaDir =>
      have hnames : ∃ found, declaredNames here schemaDir w = .ok found w := ⟨_, rfl⟩
      obtain ⟨⟨names, warnings⟩, hnames⟩ := hnames
      rw [renames, applyJsonNames]
      apply ends_bind_of_ok hnames
      simp only
      split
      · exact ends_pure (Touched.refl _ _)
      · apply Action.ends_tree_bind
        have hmodules : ∀ m ∈ Discovery.modules w.tree here r.generatedDir, m ≠ [] :=
          fun m hm => (FileTree.mem_listFiles_iff.mp hm).2.1
        refine Ends.bind ((renameAll_ends hmodules w).mono ?_ fun _ _ h => h) ?_
        · exact fun w' h => rewriting_mono h fun m hm => ⟨by simp, hm⟩
        · rintro ⟨paths, more⟩ w' h
          exact ends_pure (rewriting_mono h fun m hm => ⟨⟨by simp, hm.1⟩, hm.2⟩)

/-! ## Reading services -/

theorem collectServices_ends (here : Location) (dir : Path) (w : Workspace) :
    Ends (collectServices here dir) w (fun w' => w'.tree = w.tree) fun found w' =>
      w'.tree = w.tree ∧ ∀ s ∈ found.1, Path.IsName s.client.fileName := by
  have hkeeps : Keeps (fun w' => w'.tree = w.tree) (Discovery.serviceFiles here dir) := by
    intro w₀ hw₀
    rw [Discovery.serviceFiles]
    apply Action.ends_tree_bind
    refine keeps_filterM ?_ _ w₀ hw₀
    intro m w₁ hw₁
    cases w₀.tree.readText here (dir.below m) with
    | ok content => exact ends_pure hw₁
    | error fault => exact Action.ends_record_bind (ends_pure hw₁)
  have hends : Ends (collectServices here dir) w (fun w' => w'.tree = w.tree)
      fun _ w' => w'.tree = w.tree := by
    rw [collectServices]
    apply (hkeeps w rfl).bind
    intro files w₁ hw₁
    exact Action.ends_tree_bind (ends_pure hw₁)
  apply hends.and_done
  rintro ⟨services, warnings⟩ w' hrun s hs
  obtain ⟨rfl, -, -⟩ := collectServices_of_ok hrun
  exact isName_of_mem_declaredServices hs

/-! ## Writing the output -/

/-- In the scope of a request, with the types directory there. -/
def Ready (here : Location) (r : Request) (ms : List String → Prop) (t : FileTree) :
    Workspace → Prop :=
  Output.Settled (r.scope here ms) t here (typesDir r.servicesDir)

theorem writeInto_services {name text : String} (h : Ready here r ms t w)
    (hname : Path.IsName name)
    (houtput : name = Output.indexName ∨ ∃ entry : ClientEntry, name = entry.fileName) :
    Ends (Output.writeInto here r.servicesDir name text) w (Ready here r ms t)
      fun _ => Ready here r ms t := by
  apply Output.writeInto_settled h hname
  · exact Or.inl ⟨_, name, Or.inl rfl, rfl, houtput⟩
  · exact Or.inr (Or.inl (List.prefix_append _ _))

theorem writeClient_ends {entry : ClientEntry} {text : String} (h : Ready here r ms t w)
    (hname : Path.IsName entry.fileName) :
    Ends (Output.writeClient here r.servicesDir entry text) w (Ready here r ms t)
      fun _ => Ready here r ms t := by
  rw [Output.writeClient]
  exact writeInto_services h hname (Or.inr ⟨entry, rfl⟩)

theorem writeClients_ends {services : List Service}
    (hnames : ∀ s ∈ services, Path.IsName s.client.fileName) (written : List ClientEntry)
    (warnings : List String) (h : Ready here r ms t w) :
    Ends (writeClients here r services written warnings) w (Ready here r ms t)
      fun _ => Ready here r ms t := by
  induction services generalizing written warnings w with
  | nil => exact ends_pure h
  | cons s rest ih =>
      have hrest : ∀ s' ∈ rest, Path.IsName s'.client.fileName :=
        fun s' hs' => hnames s' (List.mem_cons_of_mem _ hs')
      rw [writeClients]
      refine Action.ends_ofExcept_bind ?_ h
      intro passes _
      split
      · exact Action.ends_record_bind (ih hrest written warnings ⟨h.touched, h.there⟩)
      · simp only
        split
        · exact ih hrest written _ h
        · have hname : Path.IsName (ClientEntry.ofService s.serviceName).fileName :=
            hnames s List.mem_cons_self
          apply Ends.bind (writeClient_ends h hname)
          intro _ w₁ h₁
          exact ih hrest _ _ h₁

theorem writeServicesIndex_ends {text : String} (h : Ready here r ms t w) :
    Ends (Output.writeServicesIndex here r.servicesDir text) w (Ready here r ms t)
      fun _ => Ready here r ms t := by
  rw [Output.writeServicesIndex]
  exact writeInto_services h Output.isName_indexName (Or.inl rfl)

theorem writeTypesIndex_ends {text : String} (h : Ready here r ms t w) :
    Ends (Output.writeTypesIndex here (typesDir r.servicesDir) text) w (Ready here r ms t)
      fun _ => Ready here r ms t := by
  rw [Output.writeTypesIndex]
  apply ends_bind_of_ok (Output.makeDirectories_of_there h.there)
  apply Output.writeInto_settled h Output.isName_indexName
  · exact Or.inl ⟨_, _, Or.inr rfl, rfl, Or.inl rfl⟩
  · exact Or.inr (Or.inr (List.prefix_append _ _))

/-- The shared module is written only where nothing is: by then its directory is there,
so that looking for it finds what is there. -/
theorem writeTransport_ends {text : String} (h : Ready here r ms t w) :
    Ends (Output.writeTransport here (apiDir r.servicesDir r.moduleName) text) w
      (Ready here r ms t) fun _ => Ready here r ms t := by
  have hapi := Request.pathIsDirectory_apiDir h.there
  rw [Output.writeTransport]
  apply Action.ends_tree_bind
  split
  · exact ends_pure h
  · rename_i hno
    apply ends_bind_of_ok (Output.makeDirectories_of_there hapi)
    apply Output.writeInto_settled h Output.isName_transportName
    · exact Or.inr rfl
    · left
      rw [← Location.resolve_child here _ Output.isName_transportName]
      exact FileTree.pathExists_eq_false (by simpa using hno)
        (FileTree.passes_child Output.isName_transportName (by decide) hapi)

/-! ## The run -/

theorem reset_ends {p : Path} (hp : p = r.servicesDir ∨ p = typesDir r.servicesDir)
    (h : Touched (r.scope here ms) t w.tree) :
    Ends (Output.reset here p) w (fun w' => Touched (r.scope here ms) t w'.tree)
      fun _ w' => Touched (r.scope here ms) t w'.tree ∧
        w'.tree.pathIsDirectory here p = true := by
  apply Action.ends_operate
  refine (FileTree.Operation.resetDirectory_ends ?_ ?_ w.tree).mono (fun _ h' => h.trans h')
    fun _ _ h' => ⟨h.trans h'.1, h'.2⟩
  · intro l hl
    rcases hp with rfl | rfl
    · exact Or.inl hl
    · exact Or.inr hl
  · intro l hl
    rcases hp with rfl | rfl
    · exact Or.inl hl
    · exact Or.inr hl

/-- However a run ends, it has stayed in its scope; and if it succeeds, it lists the
modules that it has rewritten. -/
theorem fromModules_ends (here : Location) (r : Request) (schemaDir : Option Path) (w : Workspace) :
    Ends (fromModules here r schemaDir) w
      (fun w' => Touched (r.scope here (Rewritable w.tree here r schemaDir)) w.tree w'.tree)
      fun res w' => Touched (r.scope here fun m => Rewritable w.tree here r schemaDir m ∧
        Path.slashed m ∈ res.renamedFiles) w.tree w'.tree := by
  rw [fromModules]
  simp only
  apply Ends.bind ((renames_ends schemaDir w).mono (fun w' => rewriting_scope) fun _ _ h => h)
  rintro ⟨paths, renameWarnings⟩ w₁ hrenamed
  -- from here on no module is rewritten, so the rest stays in the scope of what is listed
  let listed : List String → Prop := fun m =>
    Rewritable w.tree here r schemaDir m ∧ Path.slashed m ∈ paths
  have hstart : Touched (r.scope here listed) w.tree w₁.tree := rewriting_scope hrenamed
  refine Ends.mono (?_ : Ends _ w₁ (fun w' => Touched (r.scope here listed) w.tree w'.tree)
    fun res w' => res.renamedFiles = paths ∧ Touched (r.scope here listed) w.tree w'.tree)
    (fun w' h => scope_mono h fun m hm => hm.1) ?_
  · have hready : ∀ w', Ready here r listed w.tree w' →
        Touched (r.scope here listed) w.tree w'.tree := fun w' h => h.touched
    apply Ends.bind ((collectServices_ends here r.generatedDir w₁).mono
      (fun w' heq => by rw [heq]; exact hstart) fun _ _ h => h)
    rintro ⟨services, readWarnings⟩ w₂ ⟨heq, hnames⟩
    rw [← heq] at hstart
    apply Ends.bind (reset_ends (Or.inl rfl) hstart)
    rintro _ w₃ ⟨hservices, -⟩
    apply Ends.bind (reset_ends (Or.inr rfl) hservices)
    rintro _ w₄ ⟨htypes, hthere⟩
    apply Ends.bind ((writeClients_ends hnames [] [] ⟨htypes, hthere⟩).mono hready fun _ _ h => h)
    rintro ⟨entries, skipWarnings⟩ w₅ h₅
    apply Ends.bind ((writeServicesIndex_ends h₅).mono hready fun _ _ h => h)
    intro _ w₆ h₆
    apply Action.ends_tree_bind
    apply Ends.bind ((writeTypesIndex_ends h₆).mono hready fun _ _ h => h)
    intro _ w₇ h₇
    apply Ends.bind ((writeTransport_ends h₇).mono hready fun _ _ h => h)
    intro _ w₈ h₈
    exact Action.ends_record_bind (ends_pure ⟨rfl, h₈.touched⟩)
  · rintro res w' ⟨rfl, h⟩
    exact h

end Generation

end ConnectClients
