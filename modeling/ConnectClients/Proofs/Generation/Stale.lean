import Mathlib.Data.List.Pairwise
import ConnectClients.Proofs.Generation.Alike

/-!
# Output of earlier runs

A run empties the directory of the modules before buf writes there, and the directories of
the clients and the types before it writes there itself. So what earlier runs left in them
has no influence, provided that the run does not need it to find its way: the file system
follows a path with two dots through what is there.
-/

namespace ConnectClients

open Runs
open FileTree (Clear Leftovers OnWay Outside Reached SameOutside isBelow isBelow_iff)
open Location (resolve start Through Trail)

variable {here : Location} {r : Request} {p : Path} {t t' : FileTree} {tops : List Location}

namespace Generation

/-! ## Runs over modules that are there -/

/-- The path of the types goes the way of the path of the clients. -/
theorem reaches_typesDir (hapart : r.IsApart here)
    (hthrough : ∀ l, Through here r.servicesDir l → Outside [r.typesAt here] l)
    (h : Leftovers here [r.typesAt here] [] t t')
    (hthere : t.pathIsDirectory here r.servicesDir = true) :
    Leftovers here [r.typesAt here] [typesDir r.servicesDir] t t' where
  same := h.same
  tidy := h.tidy
  reached := by
    intro p hp
    rw [List.mem_singleton.mp hp]
    refine ⟨List.mem_singleton_self _, Or.inr fun l hl => ?_⟩
    have hsegments : (typesDir r.servicesDir).segments ≠ [] := by simp [Request.typesDir_eq]
    have hservices : Through here r.servicesDir l :=
      hapart.through_typesDir_iff.mp (Location.through_of_trail hsegments hl)
    have hdir : t.get? l = some .directory :=
      (FileTree.pathIsDirectory_iff.mp hthere).1.directory hservices
    exact ⟨hdir, by rw [h.same l (hthrough l hservices), hdir]⟩
  named := h.named

/-- What was left in the directories of the clients and the types has no influence on a
run, if the path of the clients reaches them. -/
theorem agree_fromModules {schemaDir : Path} {w w' : Workspace} (hhere : Path.up ∉ here)
    (hapart : r.IsApart here)
    (hmodules : Clear here r.generatedDir [r.servicesAt here, r.typesAt here])
    (hschemas : Clear here schemaDir [r.servicesAt here, r.typesAt here])
    (hthrough : ∀ l, Through here r.servicesDir l →
      Outside [r.servicesAt here, r.typesAt here] l)
    (h : Workspace.Alike
      (Leftovers here [r.servicesAt here, r.typesAt here] [r.servicesDir]) w w') :
    Agree (Workspace.Alike (SameOutside [r.servicesAt here, r.typesAt here]))
      (fun _ => Workspace.Alike (Leftovers here [] []))
      (fromModules here r (some schemaDir) w) (fromModules here r (some schemaDir) w') := by
  have hfails : ∀ w w', Workspace.Alike
      (Leftovers here [r.servicesAt here, r.typesAt here] [r.servicesDir]) w w' →
      Workspace.Alike (SameOutside [r.servicesAt here, r.typesAt here]) w w' :=
    fun _ _ h => h.mono fun _ _ => Leftovers.same
  rw [fromModules]
  dsimp only
  apply ((agrees_applyJsonNames hhere hmodules hschemas).agree h hfails).bind
  rintro ⟨renamed, renameWarnings⟩ w₁ w₁' h₁
  apply ((agrees_collectServices hmodules).agree h₁ hfails).bind
  rintro ⟨services, readWarnings⟩ w₂ w₂' h₂
  dsimp only
  have htypes : ∀ l, Through here r.servicesDir l → Outside [r.typesAt here] l :=
    fun l hl => (hthrough l hl).of_cons
  have hresetServices : Agree (SameOutside [r.servicesAt here, r.typesAt here])
      (fun _ t t' => Leftovers here [r.typesAt here] [] t t' ∧
        t.pathIsDirectory here r.servicesDir = true)
      (FileTree.Operation.resetDirectory here r.servicesDir w₂.tree)
      (FileTree.Operation.resetDirectory here r.servicesDir w₂'.tree) := by
    refine FileTree.Operation.agree_resetDirectory hhere ?_ hthrough (by simp) h₂.tree
    intro other hother
    rw [List.mem_singleton.mp hother]
    exact ⟨hapart.types_apart, hapart.services_apart⟩
  apply (Action.agree_operate h₂ hresetServices).bind
  rintro _ w₃ w₃' h₃
  have hresetTypes : Agree (SameOutside [r.typesAt here])
      (fun _ t t' => Leftovers here [] [] t t' ∧
        t.pathIsDirectory here (typesDir r.servicesDir) = true)
      (FileTree.Operation.resetDirectory here (typesDir r.servicesDir) w₃.tree)
      (FileTree.Operation.resetDirectory here (typesDir r.servicesDir) w₃'.tree) := by
    refine FileTree.Operation.agree_resetDirectory hhere (by simp) ?_ (by simp)
      (reaches_typesDir hapart htypes h₃.tree.1 h₃.tree.2)
    exact fun l hl => htypes l (hapart.through_typesDir_iff.mp hl)
  apply ((Action.agree_operate h₃ hresetTypes).mono ?_ fun _ _ _ h => h).bind
  · rintro _ w₄ w₄' h₄
    have hsame : Workspace.Alike (Leftovers here [] []) w₄ w₄' := h₄.mono fun _ _ => And.left
    refine Agrees.agree ?_ hsame fun _ _ h => h.mono fun _ _ h => h.same.mono (by simp)
    -- the trees differ no more, and the same is written in both
    refine (agrees_writeClients hhere services [] []).bind ?_
    rintro ⟨entries, skipWarnings⟩
    refine (Output.agrees_writeInto hhere _ _ fun l _ => FileTree.outside_nil l).bind fun _ => ?_
    apply Action.agrees_tree_bind
    · intro t t' h
      rw [typeFiles_same (FileTree.clear_nil here r.generatedDir) h.same]
    · intro t _ _
      exact (Output.agrees_writeTypesIndex hhere _).bind fun _ =>
        (Output.agrees_writeTransport hhere _).bind fun _ =>
          (Action.agrees_record _).bind fun _ => agrees_pure _
  · exact fun _ _ h => h.mono fun _ _ h => h.mono (by simp)

end Generation

/-! ## What may differ -/

namespace Request

variable (r : Request) (here : Location)

/-- The directories that a run empties: those of the modules, the clients and the types. -/
def emptied : List Location := [r.generatedAt here, r.servicesAt here, r.typesAt here]

end Request

namespace Generation

/-- The directories that a run empties are apart from each other and from the schemas, and
hold neither the directory that buf runs in nor the template. -/
structure Separate (here : Location) (r : Request) (schemaDir : Path) (b : BufRequest) : Prop where
  apart : (r.emptied here).Pairwise fun top other => ¬ top <+: other ∧ ¬ other <+: top
  schemas : ∀ top ∈ r.emptied here,
    ¬ top <+: resolve here schemaDir ∧ ¬ resolve here schemaDir <+: top
  directory : ∀ top ∈ r.emptied here, ¬ top <+: resolve here (b.directory.getD here.path)
  template : ∀ top ∈ r.emptied here, top ≠ resolve here (templatePath here b)

variable {schemaDir : Path} {b : BufRequest}

theorem Separate.isApart (h : Separate here r schemaDir b) : r.IsApart here := by
  have hapart := h.apart
  rw [Request.emptied, List.pairwise_cons, List.pairwise_cons] at hapart
  obtain ⟨hservices, htypes⟩ := hapart.2.1 _ (List.mem_singleton_self _)
  exact ⟨hservices, htypes⟩

theorem Separate.eq_of_prefix (h : Separate here r schemaDir b) {top other : Location}
    (htop : top ∈ r.emptied here) (hother : other ∈ r.emptied here) (hle : top <+: other) :
    top = other := by
  have hsymm : Std.Symm fun top other : Location => ¬ top <+: other ∧ ¬ other <+: top :=
    ⟨fun _ _ => And.symm⟩
  by_contra hne
  exact (h.apart.forall htop hother hne).1 hle

theorem Separate.generated_apart (h : Separate here r schemaDir b) :
    ∀ other ∈ [r.servicesAt here, r.typesAt here],
      ¬ other <+: r.generatedAt here ∧ ¬ r.generatedAt here <+: other := by
  have hfirst := h.apart
  rw [Request.emptied, List.pairwise_cons] at hfirst
  exact fun other hother => (hfirst.1 other hother).symm

/-- No path of a run leads through one of the directories that the run empties. -/
structure KeepsAway (here : Location) (r : Request) (schemaDir : Path) (b : BufRequest) : Prop where
  generated : ∀ l, Through here r.generatedDir l → Outside (r.emptied here) l
  services : ∀ l, Through here r.servicesDir l → Outside (r.emptied here) l
  schemas : ∀ l, Through here schemaDir l → Outside (r.emptied here) l
  directory : ∀ l, Through here (b.directory.getD here.path) l → Outside (r.emptied here) l

/-- Paths without two dots keep away, as the directories are apart. -/
theorem Separate.keepsAway (h : Separate here r schemaDir b)
    (hdots : ∀ p ∈ [r.generatedDir, r.servicesDir, schemaDir, b.directory.getD here.path],
      Path.up ∈ p.segments → ∀ l, Through here p l → Outside (r.emptied here) l) :
    KeepsAway here r schemaDir b where
  generated _ := FileTree.outside_of_through (hdots _ (by simp)) fun _ htop =>
    h.eq_of_prefix htop (by simp [Request.emptied, Request.generatedAt])
  services _ := FileTree.outside_of_through (hdots _ (by simp)) fun _ htop =>
    h.eq_of_prefix htop (by simp [Request.emptied, Request.servicesAt])
  schemas _ := FileTree.outside_of_through (hdots _ (by simp)) fun top htop hle =>
    absurd hle (h.schemas top htop).1
  directory _ := FileTree.outside_of_through (hdots _ (by simp)) fun top htop hle =>
    absurd hle (h.directory top htop)

/-- The way to the template is the way to the directory that buf runs in. -/
theorem KeepsAway.template (h : KeepsAway here r schemaDir b)
    (hseparate : Separate here r schemaDir b) {l : Location}
    (hl : OnWay here (templatePath here b) l) : Outside (r.emptied here) l := by
  rcases FileTree.onWay_child isName_temporaryName hl with hl | rfl
  · rcases FileTree.onWay_iff.mp hl with hl | rfl
    · exact h.directory l hl
    · exact hseparate.directory
  · intro top htop hle
    have hne := hseparate.template top htop
    rw [templatePath, Location.resolve_child here _ isName_temporaryName] at hne
    rcases List.prefix_concat_iff.mp hle with heq | hle
    · exact hne heq
    · exact hseparate.directory top htop hle

/-- Removing the template ends alike wherever its path is the same in both trees. -/
theorem agrees_removeTemplate {related : FileTree → FileTree → Prop}
    (hrespects : FileTree.Respects tops related)
    (hway : ∀ l, OnWay here (templatePath here b) l → Outside tops l) :
    Agrees (Workspace.Alike related)
      (Action.operate .os (FileTree.Operation.removeFile here (templatePath here b))) :=
  Action.agrees_operate (FileTree.Operation.agrees_removeFile hrespects hway)

/-- Once the template is there, what was left in the directories has no influence on what
buf is given and on what becomes of it. -/
theorem agree_generate {outcome : BufOutcome} {w w' : Workspace} (hhere : Path.up ∉ here)
    (hseparate : Separate here r schemaDir b) (haway : KeepsAway here r schemaDir b)
    (hfiles : ∀ f ∈ outcome.files, isBelow (r.generatedAt here) f.1 = true ∧ Path.up ∉ f.1)
    (h : w.Alike (Leftovers here (r.emptied here) [r.generatedDir, r.servicesDir]) w') :
    Agree (Workspace.Alike (SameOutside (r.emptied here)))
      (fun _ => Workspace.Alike
        (Leftovers here [r.servicesAt here, r.typesAt here] [r.servicesDir]))
      ((do
        Output.reset here r.generatedDir
        let _ ← BufRun.run here outcome (templatePath here b) (b.directory.getD here.path)
          b.executable : Action Unit) w)
      ((do
        Output.reset here r.generatedDir
        let _ ← BufRun.run here outcome (templatePath here b) (b.directory.getD here.path)
          b.executable : Action Unit) w') := by
  have hapart := hseparate.generated_apart
  have htrail : ∀ l, Trail here r.servicesDir l → ¬ r.generatedAt here <+: l := by
    obtain ⟨dirs, name, -, hsegments⟩ := hseparate.isApart.exists_name
    intro l hl
    have hthrough := Location.through_of_trail (by simp [hsegments]) hl
    exact haway.services l hthrough _ List.mem_cons_self
  have hreset : Agree (SameOutside (r.emptied here)) (fun _ t t' =>
      Leftovers here [r.servicesAt here, r.typesAt here] [r.servicesDir] t t' ∧
        t.pathIsDirectory here r.generatedDir = true)
      (FileTree.Operation.resetDirectory here r.generatedDir w.tree)
      (FileTree.Operation.resetDirectory here r.generatedDir w'.tree) := by
    refine FileTree.Operation.agree_resetDirectory hhere hapart haway.generated ?_ h.tree
    intro q hq
    rw [List.mem_singleton.mp hq]
    exact ⟨List.mem_cons_self, htrail⟩
  -- from here on, what was left in the directory of the modules makes no difference
  apply (Action.agree_operate h hreset).bind
  intro _ w₁ w₁' h₁
  have hrun : Agrees (Workspace.Alike
      (Leftovers here [r.servicesAt here, r.typesAt here] [r.servicesDir]))
      (BufRun.run here outcome (templatePath here b) (b.directory.getD here.path) b.executable) := by
    apply BufRun.agrees_run _ fun l hl => (haway.template hseparate hl).of_cons
    intro f hf
    obtain ⟨hbelow, hup⟩ := hfiles f hf
    have hle := (isBelow_iff.mp hbelow).1
    refine ⟨fun other hother => Location.not_prefix_of_apart (hapart other hother) hle, hup, ?_⟩
    intro q hq hq'
    rw [List.mem_singleton.mp hq] at hq'
    exact htrail _ hq' hle
  refine (hrun.bind fun _ => agrees_pure _).agree (h₁.mono fun _ _ => And.left) ?_
  exact fun _ _ h => h.mono fun _ _ h => h.same.mono fun _ => List.mem_cons_of_mem _

/-- At the start, the trees differ by leftovers in directories that their paths reach. -/
theorem leftovers_of_differ (hsound : t.Sound here) (hsound' : t'.Sound here)
    (haway : KeepsAway here r schemaDir b) (hdiffer : t.DifferIn (r.emptied here) t')
    (hreached : ∀ p ∈ [r.generatedDir, r.servicesDir], Path.up ∈ p.segments →
      (t.get? (resolve here p) = none ∧ t'.get? (resolve here p) = none) ∨
        ∀ l, Through here p l → t.get? l = some .directory) :
    Leftovers here (r.emptied here) [r.generatedDir, r.servicesDir] t t' where
  same := hdiffer.same
  tidy top htop :=
    ⟨hsound.tidy (hdiffer.there top htop), hsound'.tidy (hdiffer.there' top htop)⟩
  reached := by
    have hgenerated : Reached here r.generatedDir t t' :=
      FileTree.reached_of_sound hsound hsound' hdiffer.same haway.generated
        (hreached _ (by simp))
    have hservices : Reached here r.servicesDir t t' :=
      FileTree.reached_of_sound hsound hsound' hdiffer.same haway.services (hreached _ (by simp))
    intro p hp
    rcases List.mem_cons.mp hp with rfl | hp
    · exact ⟨by simp [Request.emptied, Request.generatedAt], hgenerated⟩
    · rw [List.mem_singleton.mp hp]
      exact ⟨by simp [Request.emptied, Request.servicesAt], hservices⟩
  named := hsound.named

/-- What earlier runs left in the directories that a run empties has no influence on the
run. It ends with the same result or the same failure; if it succeeds, then it leaves the
same files. Paths without two dots need nothing more. One with two dots must not lead
through one of the directories, and to a directory that is there in one of the workspaces
it must lead through directories. -/
theorem fromSchemas_forgets {outcome : BufOutcome} {w w' : Workspace}
    (hsound : w.tree.Sound here) (hsound' : w'.tree.Sound here)
    (hseparate : Separate here r schemaDir b)
    (hdiffer : w.Alike (FileTree.DifferIn (r.emptied here)) w')
    (hfiles : ∀ f ∈ outcome.files, isBelow (r.generatedAt here) f.1 = true ∧ Path.up ∉ f.1)
    (hdots : ∀ p ∈ [r.generatedDir, r.servicesDir, schemaDir, b.directory.getD here.path],
      Path.up ∈ p.segments → ∀ l, Through here p l → Outside (r.emptied here) l)
    (hreached : ∀ p ∈ [r.generatedDir, r.servicesDir], Path.up ∈ p.segments →
      (w.tree.get? (resolve here p) = none ∧ w'.tree.get? (resolve here p) = none) ∨
        ∀ l, Through here p l → w.tree.get? l = some .directory) :
    Agree (Workspace.Alike (SameOutside (r.emptied here)))
      (fun _ => Workspace.Alike fun t t' => ∀ l, t'.get? l = t.get? l)
      (fromSchemas here outcome r schemaDir b w) (fromSchemas here outcome r schemaDir b w') := by
  have hhere := hsound.up_not_mem
  have haway := hseparate.keepsAway hdots
  have htemplate : ∀ l, OnWay here (templatePath here b) l → Outside (r.emptied here) l :=
    fun l => haway.template hseparate
  have hstart : w.Alike (Leftovers here (r.emptied here) [r.generatedDir, r.servicesDir]) w' :=
    ⟨leftovers_of_differ hsound hsound' haway hdiffer.tree hreached, hdiffer.log, hdiffer.calls⟩
  have hsame : ∀ w w', Workspace.Alike
      (Leftovers here [r.servicesAt here, r.typesAt here] [r.servicesDir]) w w' →
      Workspace.Alike (SameOutside (r.emptied here)) w w' := fun _ _ h =>
    h.mono fun _ _ h => h.same.mono fun _ => List.mem_cons_of_mem _
  rw [fromSchemas]
  dsimp only
  apply ((agrees_writeTemplate hhere (fun top htop => (hseparate.schemas top htop).1)
    htemplate).agree hstart fun _ _ h => h.mono fun _ _ => Leftovers.same).bind
  intro _ w₁ w₁' h₁
  refine Agree.bind
    (Agree.tryCatch (agree_generate hhere hseparate haway hfiles h₁) ?_) ?_
  · -- a run that has failed may have reset nothing, so that all leftovers may still be there
    intro failure w₂ w₂' h₂
    apply ((agrees_removeTemplate FileTree.SameOutside.respects htemplate).agree h₂
      fun _ _ h => h).bind
    exact fun _ _ _ h => agree_throw h
  · intro _ w₂ w₂' h₂
    apply ((agrees_removeTemplate Leftovers.respects fun l hl =>
      (htemplate l hl).of_cons).agree h₂ hsame).bind
    intro _ w₃ w₃' h₃
    have hmodules : Clear here r.generatedDir [r.servicesAt here, r.typesAt here] :=
      FileTree.clear_of_apart (fun l hl => (haway.generated l hl).of_cons)
        hseparate.generated_apart
    have hschemas : Clear here schemaDir [r.servicesAt here, r.typesAt here] :=
      FileTree.clear_of_apart (fun l hl => (haway.schemas l hl).of_cons)
        fun top htop => hseparate.schemas top (List.mem_cons_of_mem _ htop)
    refine (agree_fromModules hhere hseparate.isApart hmodules hschemas
      (fun l hl => (haway.services l hl).of_cons) h₃).mono ?_ ?_
    · exact fun _ _ h => h.mono fun _ _ h => h.mono fun _ => List.mem_cons_of_mem _
    · exact fun _ _ _ h => h.mono fun _ _ h l => h.same l (FileTree.outside_nil l)

/-- A schema with a JSON name. -/
def schemaText : String := "message A \x7b\n  string first_name = 1 [json_name = \"given\"];\n\x7d\n"

def cleanWorkspace : Workspace where
  tree :=
    { items := [(["protos"], .directory), (["protos", "a.proto"], .file (Text.encode schemaText)),
        (["api"], .directory), (["api", "keep.txt"], .file [])]
      nodup := by decide }

/-- A client is left of an earlier run. -/
def leftWorkspace : Workspace where
  tree := (cleanWorkspace.tree.put ["api", "services"] .directory).put
    ["api", "services", "old.client.ts"] (.file (Text.encode "old"))

/-- A module and the directory of the types are left as well. -/
def fullWorkspace : Workspace where
  tree := ((leftWorkspace.tree.put ["gen"] .directory).put ["gen", "old_pb.ts"] (.file [])).put
    ["api", "types"] .directory

/-- buf writes a module with one field. -/
def oneModule : BufOutcome :=
  .ended 0 "" "" [(["gen", "a_pb.ts"],
    Text.encode "export type A = \x7b\n  firstName: string;\n\x7d;\n")]

theorem cleanWorkspace_sound : cleanWorkspace.tree.Sound [] :=
  ⟨FileTree.closed_of_items (by decide), FileTree.named_of_items (by decide), rfl⟩

/-- The paths of this request have two dots, and lead through directories that are kept. -/
def detourRequest : Request where
  generatedDir := ⟨"", ["api", "..", "gen"]⟩
  servicesDir := ⟨"", ["protos", "..", "api", "services"]⟩

/-- What is left in all three directories has no influence on this run. -/
theorem full_clean_forgets : ∃ res s s',
    fromSchemas [] oneModule detourRequest ⟨"", ["protos"]⟩ {} fullWorkspace = .ok res s ∧
      fromSchemas [] oneModule detourRequest ⟨"", ["protos"]⟩ {} cleanWorkspace = .ok res s' ∧
      res.renamedFiles = ["a_pb.ts"] ∧ ∀ l, s'.tree.get? l = s.tree.get? l := by
  have hsound : fullWorkspace.tree.Sound [] :=
    ⟨FileTree.closed_of_items (by decide), FileTree.named_of_items (by decide), rfl⟩
  have hseparate : Separate [] detourRequest ⟨"", ["protos"]⟩ {} :=
    ⟨by decide, by decide, by decide, by decide⟩
  have hdiffer : fullWorkspace.Alike (FileTree.DifferIn (detourRequest.emptied []))
      cleanWorkspace :=
    ⟨⟨FileTree.sameOutside_of_items (by decide +kernel) (by decide +kernel), by decide,
      by decide⟩, rfl, rfl⟩
  have hfiles : ∀ f ∈ oneModule.files,
      isBelow (detourRequest.generatedAt []) f.1 = true ∧ Path.up ∉ f.1 := by decide
  have hdots : ∀ p ∈ [detourRequest.generatedDir, detourRequest.servicesDir, ⟨"", ["protos"]⟩,
      Location.path []], Path.up ∈ p.segments → ∀ l, Through [] p l →
        Outside (detourRequest.emptied []) l := by
    simp only [Location.forall_through_iff]
    decide
  have hreached : ∀ p ∈ [detourRequest.generatedDir, detourRequest.servicesDir],
      Path.up ∈ p.segments → (fullWorkspace.tree.get? (resolve [] p) = none ∧
        cleanWorkspace.tree.get? (resolve [] p) = none) ∨
          ∀ l, Through [] p l → fullWorkspace.tree.get? l = some .directory := by
    simp only [Location.forall_through_iff]
    decide +kernel
  have hagree := fromSchemas_forgets hsound cleanWorkspace_sound hseparate hdiffer hfiles hdots
    hreached
  obtain ⟨res, s, hrun, hrenamed⟩ := exists_ok_of_meets
    (fun res _ => res.renamedFiles == ["a_pb.ts"])
    (fromSchemas [] oneModule detourRequest ⟨"", ["protos"]⟩ {}) fullWorkspace (by decide +kernel)
  obtain ⟨s', hrun', hsame⟩ := hagree.exists_ok hrun
  exact ⟨res, s, s', hrun, hrun', beq_iff_eq.mp hrenamed, hsame.tree⟩

def apiRequest : Request where
  generatedDir := ⟨"", ["gen"]⟩
  servicesDir := ⟨"", ["api", "services"]⟩

/-- The schemas are not in the directory of the clients, but this path leads to them through
that directory. -/
def throughClients : Path := ⟨"", ["api", "services", "..", "..", "protos"]⟩

/-- That nothing else differs is not enough: the schemas are found only if the directory of
the clients is there. -/
theorem throughClients_not_forgets :
    leftWorkspace.tree.Sound [] ∧ cleanWorkspace.tree.Sound [] ∧
      Separate [] apiRequest throughClients {} ∧
      (∀ top ∈ apiRequest.emptied [], ∀ l ∈ (resolve [] throughClients).upward,
        ¬ top <+: l ++ [BufModule.fileName]) ∧
      leftWorkspace.Alike (FileTree.DifferIn (apiRequest.emptied [])) cleanWorkspace ∧
      (∀ f ∈ oneModule.files, isBelow (apiRequest.generatedAt []) f.1 = true ∧ Path.up ∉ f.1) ∧
      ∃ res s res' s',
        fromSchemas [] oneModule apiRequest throughClients {} leftWorkspace = .ok res s ∧
          fromSchemas [] oneModule apiRequest throughClients {} cleanWorkspace = .ok res' s' ∧
          res.renamedFiles = ["a_pb.ts"] ∧ res'.renamedFiles = [] := by
  have hsound : leftWorkspace.tree.Sound [] :=
    ⟨FileTree.closed_of_items (by decide), FileTree.named_of_items (by decide), rfl⟩
  have hdiffer : leftWorkspace.Alike (FileTree.DifferIn (apiRequest.emptied [])) cleanWorkspace :=
    ⟨⟨FileTree.sameOutside_of_items (by decide +kernel) (by decide +kernel), by decide,
      by decide⟩, rfl, rfl⟩
  obtain ⟨res, s, hrun, hrenamed⟩ := exists_ok_of_meets
    (fun res _ => res.renamedFiles == ["a_pb.ts"])
    (fromSchemas [] oneModule apiRequest throughClients {}) leftWorkspace (by decide +kernel)
  obtain ⟨res', s', hrun', hrenamed'⟩ := exists_ok_of_meets (fun res _ => res.renamedFiles == [])
    (fromSchemas [] oneModule apiRequest throughClients {}) cleanWorkspace (by decide +kernel)
  exact ⟨hsound, cleanWorkspace_sound, ⟨by decide, by decide, by decide, by decide⟩, by decide,
    hdiffer, by decide, res, s, res', s', hrun, hrun', beq_iff_eq.mp hrenamed,
    beq_iff_eq.mp hrenamed'⟩

-- The first part of this path is made by the run itself, so that the reset finds nothing to
-- take away, and the module of the earlier run is listed although buf wrote none.
example : (match fromSchemas [] (.ended 0 "" "" [])
      { apiRequest with generatedDir := ⟨"", ["missing", "..", "gen"]⟩ } ⟨"", ["protos"]⟩ {}
      fullWorkspace with
    | .ok res _ => res.typeFiles
    | .error _ _ => []) = ["old_pb"] := by
  decide +kernel

end Generation

end ConnectClients
