import ConnectClients.Proofs.Files.Leftovers
import ConnectClients.Proofs.Generation.Settled
import ConnectClients.Proofs.Generation.TypeFiles
import ConnectClients.Proofs.Repeat

/-!
# Running again

A run leaves modules in which nothing is left to rename, and its output where a second run puts the
same again. So a second run finds the same modules, schemas and services, empties the two
directories and fills them as they were, and finds the shared module there.
-/

namespace ConnectClients

open Runs
open FileTree (Closed Gained Named SameShape isBelow isBelow_append isBelow_iff pathIsDirectory_iff)
open Location (resolve start Through)

/-! ## What a run spares -/

namespace Request

/-- A directory that is read is apart from the two that are emptied. If there are two dots in its
path, then the path leads through nothing that is in one of the two, and through nothing that is
missing on the way to them, as it would be there after a run. -/
structure Spares (r : Request) (here : Location) (t : FileTree) (p : Path) : Prop where
  apart : ∀ other ∈ [r.servicesAt here, r.typesAt here],
    ¬ other <+: resolve here p ∧ ¬ resolve here p <+: other
  dots : Path.up ∈ p.segments → ∀ l, Through here p l → (t.get? l = none → ¬ r.OnWays here l) ∧
    ¬ isBelow (r.servicesAt here) l = true ∧ ¬ isBelow (r.typesAt here) l = true

variable {r : Request} {here : Location} {t t' : FileTree} {p : Path}

theorem Spares.of_sameShape (h : r.Spares here t p) (hshape : SameShape t t') :
    r.Spares here t' p where
  apart := h.apart
  dots hup l hl := by
    obtain ⟨hmissing, hout⟩ := h.dots hup l hl
    exact ⟨fun hnone => hmissing ((hshape.none_iff l).mp hnone), hout⟩

theorem Spares.not_below (h : r.Spares here t p) {l : Location} (hl : Through here p l) :
    ¬ isBelow (r.servicesAt here) l = true ∧ ¬ isBelow (r.typesAt here) l = true := by
  by_cases hup : Path.up ∈ p.segments
  · exact (h.dots hup l hl).2
  · exact ⟨Generation.not_below_of_through hup (h.apart _ (by simp)).1 hl,
      Generation.not_below_of_through hup (h.apart _ (by simp)).1 hl⟩

end Request

namespace Generation

variable {here : Location} {r : Request} {schemaDir : Option Path} {res : GenerationResult}
  {w w' : Workspace} {p : Path} {ending : String} {m : List String}

namespace Steps

variable (s : Steps here r schemaDir w res w')

include s

/-! ## What the second run reads -/

theorem get?_typesIndexed {l : Location} (htypes : ¬ isBelow (r.typesAt here) l = true) :
    s.typesIndexed.tree.get? l = s.servicesIndexed.tree.get? l := by
  rw [s.typesIndexed_eq, FileTree.get?_putFiles_of_not _ htypes]

section spared

variable (hapart : r.IsApart here)

include hapart

/-- What is there stays, unless it is in one of the two directories. -/
theorem get?_final_of_there {l : Location} (hthere : s.renamed.tree.get? l ≠ none)
    (hservices : ¬ isBelow (r.servicesAt here) l = true)
    (htypes : ¬ isBelow (r.typesAt here) l = true) :
    w'.tree.get? l = s.renamed.tree.get? l := by
  have hkept : s.typesIndexed.tree.get? l = s.renamed.tree.get? l := by
    rw [s.get?_typesIndexed htypes]
    rcases s.kept_servicesIndexed hservices htypes with heq | ⟨hnone, -, -⟩
    · exact heq
    · exact absurd hnone hthere
  rw [s.final]
  rcases s.shared_eq hapart with ⟨-, heq⟩ | ⟨hnone, heq⟩
  · rw [heq, hkept]
  · have hne : l ≠ r.apiAt here ++ [Output.transportName] := by
      rintro rfl
      exact hthere (hkept ▸ hnone)
    rw [heq, FileTree.get?_put_of_ne hne, hkept]

variable (hclosed : s.renamed.tree.Closed) (hspares : r.Spares here s.renamed.tree p)

include hclosed hspares

theorem listFiles_final
    (hending : ∀ name ∈ [Output.indexName, Output.transportName], ¬ ending.toList <:+ name.toList) :
    w'.tree.listFiles here p ending = s.renamed.tree.listFiles here p ending := by
  apply FileTree.listFiles_eq_of_mem_iff
  intro m
  rw [s.mem_listFiles_final_iff hapart hending]
  constructor
  · intro hm
    obtain ⟨hthere, hne, -, hname⟩ := FileTree.mem_listFiles_iff.mp hm
    obtain ⟨octets, hfile⟩ := s.file_of_listed hspares.apart hm
    have hdir : s.renamed.tree.get? (resolve here p) = some .directory :=
      hclosed.directory_above (isBelow_append hne) (by simp [hfile])
    refine FileTree.mem_listFiles_iff.mpr
      ⟨pathIsDirectory_iff.mpr ⟨?_, hdir⟩, hne, ⟨octets, hfile⟩, hname⟩
    -- the path passed in between, and all that it leads through was there before
    have hpasses := (pathIsDirectory_iff.mp hthere).1
    apply FileTree.passes_of_through hpasses
    intro l hl
    by_cases hup : Path.up ∈ p.segments
    · obtain ⟨hmissing, hservices, htypes⟩ := hspares.dots hup l hl
      rcases s.kept_servicesIndexed hservices htypes with heq | ⟨hnone, -, hmade⟩
      · rw [← heq, hpasses.directory hl]
      · exact absurd hmade (hmissing hnone)
    · exact hclosed.directory_above (FileTree.isBelow_of_through hup hl) (by simp [hdir])
  · exact s.mem_listFiles_servicesIndexed hspares.apart fun l => hspares.not_below

theorem readText_final (hnamed : s.renamed.tree.Named)
    (hm : m ∈ s.renamed.tree.listFiles here p ending) :
    w'.tree.readText here (p.below m) = s.renamed.tree.readText here (p.below m) := by
  apply FileTree.readText_listed_same hclosed hnamed hm
  intro l hl hthere
  have hout : ¬ isBelow (r.servicesAt here) l = true ∧ ¬ isBelow (r.typesAt here) l = true := by
    rcases FileTree.onWay_below (hnamed.up_not_mem_of_listed hm) hl with hl | ⟨lead, -, -, rfl⟩
    · exact hspares.not_below hl
    · exact not_below_of_apart hspares.apart lead
  exact s.get?_final_of_there hapart hthere hout.1 hout.2

end spared

theorem declaredServices_final (hapart : r.IsApart here) (hclosed : s.renamed.tree.Closed)
    (hnamed : s.renamed.tree.Named) (hmodules : r.Spares here s.renamed.tree r.generatedDir) :
    declaredServices w'.tree here r.generatedDir =
      declaredServices s.renamed.tree here r.generatedDir := by
  have hlist : Discovery.modules w'.tree here r.generatedDir =
      Discovery.modules s.renamed.tree here r.generatedDir :=
    s.listFiles_final hapart hclosed hmodules (by decide)
  unfold declaredServices
  rw [hlist]
  refine List.flatMap_congr fun m hm => ?_
  unfold servicesIn
  rw [s.readText_final hapart hclosed hmodules hnamed hm]

end Steps

/-! ## Renaming once more -/

theorem areFieldNames_declaredNames {dir : Path} {names : List (String × String)}
    {warnings : List String} {w₁ : Workspace}
    (h : declaredNames here dir w = .ok (names, warnings) w₁) : FieldRename.AreFieldNames names := by
  rw [declaredNames, Action.tree_bind_eq] at h
  obtain ⟨hpair, -⟩ := pure_eq_ok_iff.mp h
  have hfirst : names = _ := congrArg Prod.fst hpair
  rw [hfirst]
  refine List.foldlRecOn (motive := fun found : List (String × String) × List String =>
    FieldRename.AreFieldNames found.1) _ _ (fun e he => absurd he List.not_mem_nil)
    fun found hfound m _ => ?_
  dsimp only
  cases w.tree.readText here (dir.below m) with
  | ok source => exact hfound.putAll (FieldRename.areFieldNames_ofSchema source)
  | error fault => exact hfound

/-- The same names are declared where the same schemas are read. -/
theorem declaredNames_again {dir : Path} {found : List (String × String) × List String}
    {w₁ : Workspace}
    (hlist : Discovery.schemas w'.tree here dir = Discovery.schemas w.tree here dir)
    (hread : ∀ m ∈ Discovery.schemas w.tree here dir,
      w'.tree.readText here (dir.below m) = w.tree.readText here (dir.below m))
    (h : declaredNames here dir w = .ok found w₁) : declaredNames here dir w' = .ok found w' := by
  rw [declaredNames, Action.tree_bind_eq] at h ⊢
  obtain ⟨rfl, -⟩ := pure_eq_ok_iff.mp h
  refine pure_eq_ok_iff.mpr ⟨?_, rfl⟩
  rw [hlist]
  refine List.foldl_ext _ _ _ ?_
  rintro ⟨names, warnings⟩ m hm
  dsimp only
  rw [hread m hm]

namespace Steps

variable (s : Steps here r schemaDir w res w')

include s

theorem named_renamed (hnamed : w.tree.Named) : s.renamed.tree.Named := by
  intro l hl
  exact hnamed l (mt ((renames_sameShape s.rename).1.none_iff l).mpr hl)

/-- What is listed in a directory that the run spares is listed again, and is read as it was left
when the modules were renamed. -/
theorem listed_again (hapart : r.IsApart here) (hclosed : w.tree.Closed) (hnamed : w.tree.Named)
    (hspares : r.Spares here w.tree p)
    (hending : ∀ name ∈ [Output.indexName, Output.transportName], ¬ ending.toList <:+ name.toList) :
    w'.tree.listFiles here p ending = w.tree.listFiles here p ending ∧
      ∀ m ∈ w.tree.listFiles here p ending,
        w'.tree.readText here (p.below m) = s.renamed.tree.readText here (p.below m) := by
  have hshape := (renames_sameShape s.rename).1
  have hclosed' := s.closed_renamed hclosed
  have hspares' := hspares.of_sameShape hshape
  refine ⟨?_, fun m hm => ?_⟩
  · calc w'.tree.listFiles here p ending
      _ = s.renamed.tree.listFiles here p ending :=
        s.listFiles_final hapart hclosed' hspares' hending
      _ = w.tree.listFiles here p ending :=
        FileTree.listFiles_eq_of_mem_iff fun m => hshape.mem_listFiles_iff
  · exact s.readText_final hapart hclosed' hspares' (s.named_renamed hnamed)
      (hshape.mem_listFiles_iff.mpr hm)

/-- The schemas are read as they were: the modules that are renamed are elsewhere. -/
theorem readText_schema_again {dir : Path} (hapart : r.IsApart here) (hclosed : w.tree.Closed)
    (hnamed : w.tree.Named) (hspares : r.Spares here w.tree dir)
    (hout : ¬ r.generatedAt here <+: resolve here dir ∧ ¬ resolve here dir <+: r.generatedAt here)
    (hm : m ∈ Discovery.schemas w.tree here dir) :
    w'.tree.readText here (dir.below m) = w.tree.readText here (dir.below m) := by
  rw [(s.listed_again hapart hclosed hnamed hspares (by decide)).2 m hm]
  refine readText_of_rewriting hclosed hnamed hm ?_ ((renames_ends schemaDir w).of_ok s.rename)
  rintro m' ⟨⟨-, hm'⟩, -⟩ heq
  rw [FileTree.resolve_below (hnamed.up_not_mem_of_listed hm')] at heq
  exact Location.not_prefix_of_apart hout (List.prefix_append _ m)
    (heq ▸ List.prefix_append (r.generatedAt here) m')

/-- Every module is read as the first run left it, with nothing in it to rename. -/
theorem renameAll_again {names : List (String × String)} {paths more : List String}
    (hapart : r.IsApart here) (hclosed : w.tree.Closed) (hnamed : w.tree.Named)
    (hmodules : r.Spares here w.tree r.generatedDir) (hnames : FieldRename.AreFieldNames names)
    (hsettles : FieldRename.Settles names)
    (hall : renameAll here r.generatedDir names (Discovery.modules w.tree here r.generatedDir) w =
      .ok (paths, more) s.renamed) :
    renameAll here r.generatedDir names (Discovery.modules w'.tree here r.generatedDir) w' =
      .ok ([], more) w' := by
  obtain ⟨hlist, hsame⟩ : Discovery.modules w'.tree here r.generatedDir =
      Discovery.modules w.tree here r.generatedDir ∧
        ∀ m ∈ Discovery.modules w.tree here r.generatedDir,
          w'.tree.readText here (r.generatedDir.below m) =
            s.renamed.tree.readText here (r.generatedDir.below m) :=
    s.listed_again hapart hclosed hnamed hmodules (by decide)
  obtain ⟨hsettled, hmore⟩ := renameAll_settles hnames hsettles hclosed hnamed (fun m hm => hm)
    (FileTree.listFiles_sorted w.tree here r.generatedDir Discovery.moduleEnding).1 hall
  rw [hlist, renameAll_of_settled fun m hm => isSettled_congr (hsame m hm) (hsettled m hm), hmore]
  congr 2
  exact List.flatMap_congr fun m hm => unreadableModule_congr (hsame m hm)

/-- The second run has nothing to rename, and warns of what the first one could not read. -/
theorem renames_again (hapart : r.IsApart here) (hclosed : w.tree.Closed) (hnamed : w.tree.Named)
    (hmodules : r.Spares here w.tree r.generatedDir)
    (hschemas : ∀ dir ∈ schemaDir, r.Spares here w.tree dir ∧
      ¬ r.generatedAt here <+: resolve here dir ∧ ¬ resolve here dir <+: r.generatedAt here)
    (hsettles : ∀ dir ∈ schemaDir, ∀ names warnings,
      declaredNames here dir w = .ok (names, warnings) w → FieldRename.Settles names) :
    renames here r schemaDir w' = .ok ([], s.renameWarnings) w' := by
  have hrename := s.rename
  cases schemaDir with
  | none =>
      obtain ⟨hpair, -⟩ := pure_eq_ok_iff.mp hrename
      obtain ⟨-, hwarnings⟩ := Prod.mk.inj hpair
      rw [hwarnings]
      rfl
  | some dir =>
      obtain ⟨hspares, hout⟩ := hschemas dir rfl
      rw [renames, applyJsonNames] at hrename ⊢
      obtain ⟨⟨names, warnings⟩, w₁, hnames, hrename⟩ := bind_eq_ok_iff.mp hrename
      obtain ⟨rfl, -⟩ := declaredNames_of_ok hnames
      have hnamesAgain : declaredNames here dir w' = .ok (names, warnings) w' :=
        declaredNames_again (s.listed_again hapart hclosed hnamed hspares (by decide)).1
          (fun m hm => s.readText_schema_again hapart hclosed hnamed hspares hout hm) hnames
      rw [bind_eq_of_ok hnamesAgain]
      dsimp only at hrename ⊢
      split at hrename
      · rename_i hempty
        obtain ⟨hpair, -⟩ := pure_eq_ok_iff.mp hrename
        obtain ⟨-, hwarnings⟩ := Prod.mk.inj hpair
        rw [if_pos hempty, hwarnings]
        rfl
      · rename_i hsome
        rw [Action.tree_bind_eq] at hrename
        obtain ⟨⟨paths, more⟩, w₂, hall, hrename⟩ := bind_eq_ok_iff.mp hrename
        obtain ⟨hpair, rfl⟩ := pure_eq_ok_iff.mp hrename
        obtain ⟨-, hwarnings⟩ := Prod.mk.inj hpair
        have hagain := s.renameAll_again hapart hclosed hnamed hmodules
          (areFieldNames_declaredNames hnames) (hsettles dir rfl names warnings hnames) hall
        rw [if_neg hsome, Action.tree_bind_eq, bind_eq_of_ok hagain, hwarnings]
        rfl

/-! ## Resetting once more -/

section resets

variable (hapart : r.IsApart here)

include hapart

theorem pathIsDirectory_services_final : w'.tree.pathIsDirectory here r.servicesDir = true := by
  rw [FileTree.pathIsDirectory_eq_of_directories (s.directory_final_iff hapart),
    FileTree.pathIsDirectory_eq_of_directories s.servicesIndexed_directory_iff]
  obtain ⟨hpasses, hdir⟩ :=
    pathIsDirectory_iff.mp (FileTree.Operation.resetDirectory_of_ok s.resetServices).1
  -- the path does not lead through what is taken away with the types
  have hkept : ∀ l, ¬ isBelow (r.typesAt here) l = true →
      s.servicesReset.get? l = some .directory → s.typesReset.get? l = some .directory :=
    fun l hl => (FileTree.Operation.resetDirectory_kept s.resetTypes hl).directory
  refine pathIsDirectory_iff.mpr ⟨?_, ?_⟩
  · apply FileTree.passes_of_through hpasses
    intro l hl
    exact hkept l (not_through_types hapart s.resetServices s.resetTypes l hl) (hpasses.directory hl)
  · exact hkept _ (fun hbelow => hapart.types_apart (isBelow_iff.mp hbelow).1) hdir

theorem pathIsDirectory_types_final :
    w'.tree.pathIsDirectory here (typesDir r.servicesDir) = true := by
  rw [FileTree.pathIsDirectory_eq_of_directories (s.directory_final_iff hapart)]
  exact s.typesDir_servicesIndexed

/-- Outside of the two directories, only the shared module is new once both are reset. -/
theorem get?_final_cases {l : Location} (hservices : ¬ isBelow (r.servicesAt here) l = true)
    (htypes : ¬ isBelow (r.typesAt here) l = true) : w'.tree.get? l = s.typesReset.get? l ∨
      (l = r.transportAt here ∧ s.typesReset.get? l = none ∧
        w'.tree.get? l = some (.file (Text.encode ClientModule.transport))) := by
  have hreset : s.typesIndexed.tree.get? l = s.typesReset.get? l := by
    rw [s.get?_typesIndexed htypes, s.servicesIndexed_eq,
      FileTree.get?_putFiles_of_not _ hservices]
  rw [s.final]
  rcases s.shared_eq hapart with ⟨-, heq⟩ | ⟨hnone, heq⟩
  · exact Or.inl (by rw [heq, hreset])
  · by_cases hl : l = r.apiAt here ++ [Output.transportName]
    · subst hl
      refine Or.inr ⟨rfl, hreset ▸ hnone, ?_⟩
      rw [heq, FileTree.get?_put_self (by simp)]
    · exact Or.inl (by rw [heq, FileTree.get?_put_of_ne hl, hreset])

theorem transport_final : w'.tree.get? (r.transportAt here) ≠ none := by
  rw [s.final, Request.transportAt]
  rcases s.shared_eq hapart with ⟨hthere, heq⟩ | ⟨-, heq⟩
  · rw [heq]
    exact hthere
  · rw [heq, FileTree.get?_put_self (by simp)]
    simp

/-- With the shared module there, a tree that is as the index of types left it is the final one. -/
theorem get?_of_gained {t : FileTree} {l : Location} (h : Gained (r.transportAt here)
    (Text.encode ClientModule.transport) s.typesIndexed.tree t) : t.get? l = w'.tree.get? l := by
  rw [s.final]
  rcases h.same l with hsame | ⟨rfl, hnone, hfile⟩
  · rw [hsame]
    rcases s.shared_eq hapart with ⟨-, heq⟩ | ⟨hnone, heq⟩
    · rw [heq]
    · have hne : l ≠ r.transportAt here := by
        rintro rfl
        exact h.there (hsame.trans hnone)
      rw [heq]
      exact (FileTree.get?_put_of_ne hne _ _).symm
  · rcases s.shared_eq hapart with ⟨hthere, -⟩ | ⟨-, heq⟩
    · exact absurd hnone hthere
    · rw [hfile, heq]
      exact (FileTree.get?_put_self (by simp) _ _).symm

variable (hclosed : s.renamed.tree.Closed) (hplaced : r.IsPlaced here s.renamed.tree)

include hclosed hplaced

/-- Both directories are reset again, and then all is as it was after they were reset before,
with the shared module there. -/
theorem resets_again : ∃ t₁ t₂,
    FileTree.Operation.resetDirectory here r.servicesDir w'.tree = .ok () t₁ ∧
      FileTree.Operation.resetDirectory here (typesDir r.servicesDir) t₁ = .ok () t₂ ∧
      Gained (r.transportAt here) (Text.encode ClientModule.transport) s.typesReset t₂ := by
  obtain ⟨dirs, name, hname, hsegments⟩ := hapart.exists_name
  have htypes : (typesDir r.servicesDir).segments = dirs ++ ["types"] := by
    rw [Request.typesDir_eq, hsegments, List.dropLast_concat]
  obtain ⟨t₁, hfirst, hget₁⟩ := FileTree.Operation.resetDirectory_of_directory hsegments hname
    (s.pathIsDirectory_services_final hapart) hplaced.not_through
  change ∀ l, t₁.get? l = if isBelow (r.servicesAt here) l then none else w'.tree.get? l at hget₁
  -- the types directory is beside the one that was reset, and is still there
  obtain ⟨hpasses, hdir⟩ := pathIsDirectory_iff.mp (s.pathIsDirectory_types_final hapart)
  have hthere : t₁.pathIsDirectory here (typesDir r.servicesDir) = true := by
    refine pathIsDirectory_iff.mpr ⟨?_, ?_⟩
    · apply FileTree.passes_of_through hpasses
      intro l hl
      rw [hget₁, if_neg (hplaced.not_through l (hapart.through_typesDir_iff.mp hl)),
        hpasses.directory hl]
    · change t₁.get? (r.typesAt here) = _
      rw [hget₁, if_neg fun hbelow => hapart.services_apart (isBelow_iff.mp hbelow).1]
      exact hdir
  obtain ⟨t₂, hsecond, hget₂⟩ := FileTree.Operation.resetDirectory_of_directory htypes (by decide)
    hthere fun l hl => not_through_types hapart s.resetServices s.resetTypes l
      (hapart.through_typesDir_iff.mp hl)
  change ∀ l, t₂.get? l = if isBelow (r.typesAt here) l then none else t₁.get? l at hget₂
  refine ⟨t₁, t₂, hfirst, hsecond, ?_, fun l => ?_⟩
  · obtain ⟨hservices, htypes⟩ := s.apiAt_apart hapart hplaced
    have houtTypes : ¬ isBelow (r.typesAt here) (r.transportAt here) = true :=
      FileTree.not_isBelow_concat htypes
    have houtServices : ¬ isBelow (r.servicesAt here) (r.transportAt here) = true :=
      FileTree.not_isBelow_concat hservices
    rw [hget₂, if_neg houtTypes, hget₁, if_neg houtServices]
    exact s.transport_final hapart
  · -- what is in the directories was taken away both times
    rw [hget₂]
    split
    · rename_i hbelow
      rw [(s.types_reset hclosed hapart).none_below hbelow]
      exact Or.inl rfl
    · rename_i houtTypes
      rw [hget₁]
      split
      · rename_i hbelow
        rw [(s.services_reset hclosed hapart hplaced).none_below hbelow]
        exact Or.inl rfl
      · rename_i houtServices
        exact s.get?_final_cases hapart houtServices houtTypes

/-! ## The second run -/

/-- With nothing to rename, a second run gives the same result, and leaves the tree as it is. -/
theorem exists_run_again (hnamed : s.renamed.tree.Named)
    (hmodules : r.Spares here s.renamed.tree r.generatedDir)
    (hrename : renames here r schemaDir w' = .ok ([], s.renameWarnings) w') :
    ∃ w'', fromModules here r schemaDir w' = .ok { res with renamedFiles := [] } w'' ∧
      ∀ l, w''.tree.get? l = w'.tree.get? l := by
  obtain ⟨w₂, hcollect, htree⟩ := exists_collectServices here r.generatedDir w'
  rw [s.declaredServices_final hapart hclosed hnamed hmodules] at hcollect
  obtain ⟨t₃, t₄, hreset₃, hreset₄, hgained⟩ := s.resets_again hapart hclosed hplaced
  rw [← htree] at hreset₃
  have hservices : Output.reset here r.servicesDir w₂ = .ok () { w₂ with tree := t₃ } :=
    Action.operate_eq_ok_iff.mpr ⟨t₃, hreset₃, rfl⟩
  have htypes : Output.reset here (typesDir r.servicesDir) { w₂ with tree := t₃ } =
      .ok () { w₂ with tree := t₄ } := Action.operate_eq_ok_iff.mpr ⟨t₄, hreset₄, rfl⟩
  -- what the first run wrote after its resets is written again
  obtain ⟨w₅, hclients, hgained₅⟩ := repeats_writeClients _ [] [] { s.collected with tree := s.typesReset }
    { w₂ with tree := t₄ } _ _ hgained s.write
  obtain ⟨indexPath, hindex⟩ := s.servicesIndex
  rw [← s.services] at hindex
  obtain ⟨w₆, hindex', hgained₆⟩ :=
    Output.repeats_writeInto here _ _ _ s.clientsWritten w₅ _ _ hgained₅ hindex
  rw [← Output.writeServicesIndex] at hindex'
  have hlisted : Discovery.typeFiles w₆.tree here r.generatedDir = res.typeFiles := by
    have hmodules' : Discovery.modules w₆.tree here r.generatedDir =
        Discovery.modules s.servicesIndexed.tree here r.generatedDir :=
      hgained₆.listFiles (by decide)
    rw [s.typeFiles, Discovery.typeFiles, Discovery.typeFiles, hmodules']
  obtain ⟨typesPath, htypesIndex⟩ := s.typesIndex
  obtain ⟨w₇, htypesIndex', hgained₇⟩ :=
    Output.exists_writeTypesIndex s.typesDir_servicesIndexed hgained₆ htypesIndex
  have htransport := Output.writeTransport_of_there ClientModule.transport
    ((hgained₇.pathIsDirectory _ _).trans (s.apiDir_typesIndexed hapart)) hgained₇.there
  have hrun : ∃ w'', fromModules here r schemaDir w' = .ok { res with renamedFiles := [] } w'' ∧
      w''.tree = w₇.tree := by
    obtain ⟨hservicesDir, htypesDir⟩ := s.directories
    unfold fromModules
    dsimp only
    rw [bind_eq_of_ok hrename]
    dsimp only
    rw [bind_eq_of_ok hcollect]
    dsimp only
    rw [bind_eq_of_ok hservices, bind_eq_of_ok htypes, bind_eq_of_ok hclients]
    dsimp only
    rw [bind_eq_of_ok hindex', Action.tree_bind_eq, hlisted, bind_eq_of_ok htypesIndex',
      bind_eq_of_ok htransport, Action.record_bind_eq, hservicesDir, htypesDir, s.warnings,
      List.append_nil]
    exact ⟨_, rfl, rfl⟩
  obtain ⟨w'', hrun, heq⟩ := hrun
  refine ⟨w'', hrun, fun l => ?_⟩
  rw [heq, s.get?_of_gained hapart hgained₇]

end resets

end Steps

/-- Running again changes nothing, and gives the same result with nothing renamed, if the new names
of fields are settled and the paths with two dots lead around what a run takes away or makes. -/
theorem fromModules_again (hclosed : w.tree.Closed) (hnamed : w.tree.Named)
    (hapart : r.IsApart here)
    (hplaced : Path.up ∈ r.servicesDir.segments → r.IsPlaced here w.tree)
    (hmodules : r.Spares here w.tree r.generatedDir)
    (hschemas : ∀ dir ∈ schemaDir, r.Spares here w.tree dir ∧
      ¬ r.generatedAt here <+: resolve here dir ∧ ¬ resolve here dir <+: r.generatedAt here)
    (hsettles : ∀ dir ∈ schemaDir, ∀ names warnings,
      declaredNames here dir w = .ok (names, warnings) w → FieldRename.Settles names)
    (h : fromModules here r schemaDir w = .ok res w') :
    ∃ w'', fromModules here r schemaDir w' = .ok { res with renamedFiles := [] } w'' ∧
      ∀ l, w''.tree.get? l = w'.tree.get? l := by
  obtain ⟨s⟩ := exists_steps h
  have hshape := (renames_sameShape s.rename).1
  have hplaced' := s.isPlaced_renamed hclosed hapart hplaced
  have hrename := s.renames_again hapart hclosed hnamed hmodules hschemas hsettles
  exact s.exists_run_again hapart (s.closed_renamed hclosed) hplaced' (s.named_renamed hnamed)
    (hmodules.of_sameShape hshape) hrename

/-- A module with a service and a field that its schema gives a JSON name, and a client of an
earlier run. -/
def givenWorkspace : Workspace where
  tree :=
    { items := [(["protos"], .directory),
        (["protos", "a.proto"], .file (Text.encode "string first_name = 1 [json_name = \"given\"];\n")),
        (["gen"], .directory),
        (["gen", "a_pb.ts"], .file (Text.encode ("  firstName: string;\n" ++ pingModule))),
        (["services"], .directory), (["services", "old.client.ts"], .file [])]
      nodup := by decide }

/-- The path of the modules has two dots, and leads through a directory that is kept. -/
def givenRequest : Request where
  generatedDir := ⟨"", ["protos", "..", "gen"]⟩
  servicesDir := ⟨"", ["services"]⟩

theorem given_again : ∃ res w' w'',
    fromModules [] givenRequest (some ⟨"", ["protos"]⟩) givenWorkspace = .ok res w' ∧
      res.renamedFiles = ["a_pb.ts"] ∧ res.services.length = 1 ∧
      fromModules [] givenRequest (some ⟨"", ["protos"]⟩) w' =
        .ok { res with renamedFiles := [] } w'' ∧
      ∀ l, w''.tree.get? l = w'.tree.get? l := by
  obtain ⟨res, w', hrun, hcheck⟩ := exists_ok_of_meets
    (fun res _ => res.renamedFiles == ["a_pb.ts"] && res.services.length == 1)
    (fromModules [] givenRequest (some ⟨"", ["protos"]⟩)) givenWorkspace (by decide +kernel)
  rw [Bool.and_eq_true, beq_iff_eq, beq_iff_eq] at hcheck
  have hmodules : givenRequest.Spares [] givenWorkspace.tree givenRequest.generatedDir := by
    have hway : ∀ l, Through [] givenRequest.generatedDir l → givenWorkspace.tree.get? l ≠ none ∧
        ¬ isBelow (givenRequest.servicesAt []) l = true ∧
          ¬ isBelow (givenRequest.typesAt []) l = true :=
      Location.forall_through_iff.mpr (by decide +kernel)
    constructor
    · decide
    · exact fun _ l hl => ⟨fun hnone => absurd hnone (hway l hl).1, (hway l hl).2⟩
  have hschemas : givenRequest.Spares [] givenWorkspace.tree ⟨"", ["protos"]⟩ := by
    constructor
    · decide
    · exact fun hup => absurd hup (by decide)
  have hsettles : ∀ names warnings,
      declaredNames [] ⟨"", ["protos"]⟩ givenWorkspace = .ok (names, warnings) givenWorkspace →
        FieldRename.Settles names := by
    obtain ⟨found, w₁, hnames, hgood⟩ := exists_ok_of_meets
      (fun found _ => decide (FieldRename.Settles found.1))
      (declaredNames [] ⟨"", ["protos"]⟩) givenWorkspace (by decide +kernel)
    intro names warnings hfound
    rw [hnames] at hfound
    cases hfound
    exact of_decide_eq_true hgood
  obtain ⟨w'', hagain⟩ := fromModules_again (FileTree.closed_of_items (by decide))
    (FileTree.named_of_items (by decide)) ⟨by decide, by decide⟩
    (fun hup => absurd hup (by decide)) hmodules
    (by rintro dir ⟨⟩; exact ⟨hschemas, by decide, by decide⟩)
    (by rintro dir ⟨⟩; exact hsettles) hrun
  exact ⟨res, w', w'', hrun, hcheck.1, hcheck.2, hagain⟩

/-- The directory that this path leads through is missing until the clients are written. -/
def throughMissing : Request where
  generatedDir := ⟨"", ["api", "..", "gen"]⟩
  servicesDir := ⟨"", ["api", "services"]⟩

def bareWorkspace : Workspace where
  tree :=
    { items := [(["gen"], .directory), (["gen", "ping_pb.ts"], .file (Text.encode pingModule))]
      nodup := by decide }

/-- That the directories are apart is not enough: here the first run finds no modules, makes the
directory that their path leads through, and so the second one finds them. -/
theorem throughMissing_not_again :
    bareWorkspace.tree.Closed ∧ bareWorkspace.tree.Named ∧ throughMissing.IsApart [] ∧
      (∀ other ∈ [throughMissing.servicesAt [], throughMissing.typesAt []],
        ¬ other <+: throughMissing.generatedAt [] ∧ ¬ throughMissing.generatedAt [] <+: other) ∧
      ∃ res w' res' w'', fromModules [] throughMissing none bareWorkspace = .ok res w' ∧
        fromModules [] throughMissing none w' = .ok res' w'' ∧
        res.services = [] ∧ res'.services.length = 1 := by
  obtain ⟨⟨res, res'⟩, w'', hruns, hcheck⟩ := exists_ok_of_meets
    (fun results _ => results.1.services == [] && results.2.services.length == 1)
    (do return (← fromModules [] throughMissing none, ← fromModules [] throughMissing none))
    bareWorkspace (by decide +kernel)
  rw [Bool.and_eq_true, beq_iff_eq, beq_iff_eq] at hcheck
  obtain ⟨first, w', hrun, hruns⟩ := bind_eq_ok_iff.mp hruns
  obtain ⟨second, w₂, hrun', hruns⟩ := bind_eq_ok_iff.mp hruns
  obtain ⟨hpair, -⟩ := pure_eq_ok_iff.mp hruns
  obtain ⟨rfl, rfl⟩ := Prod.mk.inj hpair
  exact ⟨FileTree.closed_of_items (by decide), FileTree.named_of_items (by decide),
    ⟨by decide, by decide⟩, by decide, res, w', res', w₂, hrun, hrun', hcheck⟩

end Generation

end ConnectClients
