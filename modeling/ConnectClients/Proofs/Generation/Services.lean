import Mathlib.Data.List.Basic
import ConnectClients.Generation
import ConnectClients.Proofs.Action
import ConnectClients.Proofs.Files.Listing
import ConnectClients.Proofs.Service.Imports

/-!
# The services that are collected

The services come from the generated modules in the order of their paths, and from each
module in the order of its declarations. Modules of others and modules without a
service tell nothing. Collecting changes no file.
-/

namespace ConnectClients

open Runs

namespace Discovery

/-- Modules are found in the order of their paths. -/
theorem modules_pairwise (t : FileTree) (here : Location) (dir : Path) :
    (modules t here dir).Pairwise fun first second => Text.wordsLE first second = true := by
  exact (FileTree.listFiles_sorted t here dir moduleEnding).2

/-- Whether a module can be read and declares a service. -/
def isDeclaring (t : FileTree) (here : Location) (dir : Path) (m : List String) : Bool :=
  match t.readText here (dir.below m) with
  | .ok content => Service.isMarked content
  | .error _ => false

/-- A filter whose tests leave the tree alone keeps what they accept. -/
theorem filterAuxM_of_ok {test : List String → Action Bool} {accepts : List String → Bool}
    (htest : ∀ m w b w', test m w = .ok b w' → b = accepts m ∧ w'.tree = w.tree)
    {ms kept result : List (List String)} {w w' : Workspace}
    (h : List.filterAuxM test ms kept w = .ok result w') :
    result = (ms.filter accepts).reverse ++ kept ∧ w'.tree = w.tree := by
  induction ms generalizing kept w with
  | nil =>
      rw [List.filterAuxM, pure_eq_ok_iff] at h
      obtain ⟨rfl, rfl⟩ := h
      exact ⟨rfl, rfl⟩
  | cons m rest ih =>
      rw [List.filterAuxM, bind_eq_ok_iff] at h
      obtain ⟨b, w₁, hrun, h⟩ := h
      obtain ⟨rfl, htree⟩ := htest m w b w₁ hrun
      obtain ⟨hresult, hrest⟩ := ih h
      refine ⟨?_, hrest.trans htree⟩
      rw [hresult, List.filter_cons]
      cases accepts m <;> simp

theorem serviceFiles_of_ok {here : Location} {dir : Path} {files : List (List String)}
    {w w' : Workspace} (h : serviceFiles here dir w = .ok files w') :
    files = (modules w.tree here dir).filter (isDeclaring w.tree here dir) ∧
      w'.tree = w.tree := by
  rw [serviceFiles, bind_eq_ok_iff] at h
  obtain ⟨t, w₁, htree, h⟩ := h
  obtain ⟨rfl, rfl⟩ := Action.tree_eq_ok_iff.mp htree
  rw [List.filterM, bind_eq_ok_iff] at h
  obtain ⟨found, w₂, hfilter, h⟩ := h
  obtain ⟨rfl, rfl⟩ := pure_eq_ok_iff.mp h
  -- the test reads from the tree of the start, whatever was recorded meanwhile
  have htest : ∀ m w b w', (match w₁.tree.readText here (dir.below m) with
      | .ok content => (return Service.isMarked content : Action Bool)
      | .error fault => do
        Action.record (.warning ("Skipping unreadable generated module " ++
          (dir.below m).toString ++ ": " ++ fault.kind))
        return false) w = .ok b w' → b = isDeclaring w₁.tree here dir m ∧ w'.tree = w.tree := by
    intro m w b w' hrun
    rw [isDeclaring]
    cases hread : w₁.tree.readText here (dir.below m) with
    | ok content =>
        rw [hread] at hrun
        obtain ⟨rfl, rfl⟩ := pure_eq_ok_iff.mp hrun
        exact ⟨rfl, rfl⟩
    | error fault =>
        rw [hread] at hrun
        simp only [bind_eq_ok_iff, Action.record_eq_ok_iff, pure_eq_ok_iff] at hrun
        obtain ⟨_, _, rfl, rfl, rfl⟩ := hrun
        exact ⟨rfl, rfl⟩
  obtain ⟨hfound, hsame⟩ := filterAuxM_of_ok htest hfilter
  rw [hfound, List.append_nil, List.reverse_reverse]
  exact ⟨rfl, hsame⟩

/-- A filter gives something if all its tests do. -/
theorem exists_filterM {test : List String → Action Bool}
    (htest : ∀ m w, ∃ b w', test m w = .ok b w') (ms : List (List String)) (w : Workspace) :
    ∃ kept w', ms.filterM test w = .ok kept w' := by
  have haux : ∀ (found : List (List String)) (w : Workspace),
      ∃ kept w', List.filterAuxM test ms found w = .ok kept w' := by
    induction ms with
    | nil => exact fun found w => ⟨found, w, rfl⟩
    | cons m rest ih =>
        intro found w
        obtain ⟨b, w₁, hrun⟩ := htest m w
        rw [List.filterAuxM, bind_eq_of_ok hrun]
        exact ih _ w₁
  obtain ⟨kept, w₁, hrun⟩ := haux [] w
  rw [List.filterM, bind_eq_of_ok hrun]
  exact ⟨_, _, rfl⟩

/-- Files that cannot be read are passed over, so that the search never fails. -/
theorem exists_serviceFiles (here : Location) (dir : Path) (w : Workspace) :
    ∃ files w', serviceFiles here dir w = .ok files w' := by
  unfold serviceFiles
  rw [Action.tree_bind_eq]
  apply exists_filterM
  intro m w₁
  cases w.tree.readText here (dir.below m) with
  | ok content => exact ⟨_, _, rfl⟩
  | error fault => exact ⟨_, _, rfl⟩

end Discovery

namespace Generation

/-- The services that one module declares. -/
def servicesIn (t : FileTree) (here : Location) (dir : Path) (m : List String) : List Service :=
  match t.readText here (dir.below m) with
  | .ok content =>
    if Service.isMarked content && !Discovery.isThirdParty m then
      Service.ofModule content (Discovery.withoutSuffix m)
    else []
  | .error _ => []

/-- The services that the modules below a directory declare. -/
def declaredServices (t : FileTree) (here : Location) (dir : Path) : List Service :=
  (Discovery.modules t here dir).flatMap (servicesIn t here dir)

theorem foldl_servicesIn {t : FileTree} {here : Location} {dir : Path}
    {ms : List (List String)} (hms : ∀ m ∈ ms,
      Discovery.isDeclaring t here dir m = true ∧ Discovery.isThirdParty m = false)
    (services : List Service) :
    ms.foldl (fun (services, warnings) m =>
      match t.readText here (dir.below m) with
      | .ok content => (services ++ Service.ofModule content (Discovery.withoutSuffix m), warnings)
      | .error fault =>
        (services, warnings ++ ["Could not parse " ++ (dir.below m).toString ++ ": " ++
          fault.message])) (services, ([] : List String)) =
      (services ++ ms.flatMap (servicesIn t here dir), []) := by
  induction ms generalizing services with
  | nil => simp
  | cons m rest ih =>
      obtain ⟨hdeclaring, hown⟩ := hms m List.mem_cons_self
      have hrest := ih fun m' hm' => hms m' (List.mem_cons_of_mem _ hm')
      rw [Discovery.isDeclaring] at hdeclaring
      rw [List.foldl_cons, List.flatMap_cons, servicesIn]
      cases hread : t.readText here (dir.below m) with
      | error fault =>
          rw [hread] at hdeclaring
          exact absurd hdeclaring (by simp)
      | ok content =>
          rw [hread] at hdeclaring
          simp only [hdeclaring, hown, Bool.not_false, Bool.and_self, if_true]
          rw [hrest, List.append_assoc]

theorem flatMap_servicesIn {t : FileTree} {here : Location} {dir : Path}
    (ms : List (List String)) :
    ((ms.filter (Discovery.isDeclaring t here dir)).filter
      fun m => !Discovery.isThirdParty m).flatMap (servicesIn t here dir) =
      ms.flatMap (servicesIn t here dir) := by
  induction ms with
  | nil => rfl
  | cons m rest ih =>
      have hnone : (Discovery.isDeclaring t here dir m && !Discovery.isThirdParty m) = false →
          servicesIn t here dir m = [] := by
        intro hno
        rw [Discovery.isDeclaring] at hno
        rw [servicesIn]
        cases hread : t.readText here (dir.below m) with
        | error fault => rfl
        | ok content =>
            rw [hread] at hno
            simp only at hno
            simp only [hno, Bool.false_eq_true, if_false]
      rw [List.filter_filter] at ih ⊢
      rw [List.filter_cons, List.flatMap_cons]
      by_cases hkeep : (!Discovery.isThirdParty m && Discovery.isDeclaring t here dir m) = true
      · rw [if_pos hkeep, List.flatMap_cons, ih]
      · rw [if_neg hkeep, ih, hnone (by rw [Bool.and_comm]; simpa using hkeep), List.nil_append]

/-- What is collected is what is declared. -/
theorem collectServices_of_ok {here : Location} {dir : Path} {services : List Service}
    {warnings : List String} {w w' : Workspace}
    (h : collectServices here dir w = .ok (services, warnings) w') :
    services = declaredServices w.tree here dir ∧ warnings = [] ∧ w'.tree = w.tree := by
  rw [collectServices, bind_eq_ok_iff] at h
  obtain ⟨files, w₁, hfiles, h⟩ := h
  obtain ⟨rfl, hsame⟩ := Discovery.serviceFiles_of_ok hfiles
  rw [bind_eq_ok_iff] at h
  obtain ⟨t, w₂, htree, h⟩ := h
  obtain ⟨rfl, rfl⟩ := Action.tree_eq_ok_iff.mp htree
  obtain ⟨hpair, rfl⟩ := pure_eq_ok_iff.mp h
  have hms : ∀ m ∈ ((Discovery.modules w.tree here dir).filter
      (Discovery.isDeclaring w.tree here dir)).filter (fun m => !Discovery.isThirdParty m),
      Discovery.isDeclaring w.tree here dir m = true ∧ Discovery.isThirdParty m = false := by
    intro m hm
    obtain ⟨hm, hown⟩ := List.mem_filter.mp hm
    exact ⟨(List.mem_filter.mp hm).2, by simpa using hown⟩
  rw [hsame] at hpair
  have hcollected := hpair.trans (foldl_servicesIn hms [])
  rw [flatMap_servicesIn, List.nil_append, Prod.mk.injEq] at hcollected
  exact ⟨hcollected.1, hcollected.2, hsame⟩

/-- Services are always collected. -/
theorem exists_collectServices (here : Location) (dir : Path) (w : Workspace) :
    ∃ w', collectServices here dir w = .ok (declaredServices w.tree here dir, []) w' ∧
      w'.tree = w.tree := by
  obtain ⟨files, w₁, hfiles⟩ := Discovery.exists_serviceFiles here dir w
  have hrun : ∃ found, collectServices here dir w = .ok found w₁ := by
    rw [collectServices, bind_eq_of_ok hfiles]
    exact ⟨_, rfl⟩
  obtain ⟨⟨services, warnings⟩, hrun⟩ := hrun
  obtain ⟨rfl, rfl, htree⟩ := collectServices_of_ok hrun
  exact ⟨w₁, hrun, htree⟩

/-- A declared service is read from the text of a module of ours. -/
theorem exists_of_mem_declaredServices {t : FileTree} {here : Location} {dir : Path} {s : Service}
    (h : s ∈ declaredServices t here dir) :
    ∃ m ∈ Discovery.modules t here dir, Discovery.isThirdParty m = false ∧
      ∃ content, s ∈ Service.ofModule content (Discovery.withoutSuffix m) := by
  obtain ⟨m, hm, hs⟩ := List.mem_flatMap.mp h
  rw [servicesIn] at hs
  split at hs
  · rename_i content _
    split at hs
    · rename_i hmarked
      rw [Bool.and_eq_true, Bool.not_eq_true'] at hmarked
      exact ⟨m, hm, hmarked.2, content, hs⟩
    · exact absurd hs List.not_mem_nil
  · exact absurd hs List.not_mem_nil

/-- A declared service comes from the text of a module. -/
theorem readFrom_of_mem_declaredServices {t : FileTree} {here : Location} {dir : Path}
    {s : Service} (h : s ∈ declaredServices t here dir) :
    ∃ content importPath, Service.ReadFrom content importPath s := by
  obtain ⟨m, -, -, content, hs⟩ := exists_of_mem_declaredServices h
  exact ⟨content, _, Service.readFrom_of_mem_ofModule hs⟩

/-- A declared service has the path of the module that it comes from, which is one of ours. -/
theorem module_of_mem_declaredServices {t : FileTree} {here : Location} {dir : Path}
    {s : Service} (h : s ∈ declaredServices t here dir) :
    ∃ m ∈ Discovery.modules t here dir, Discovery.isThirdParty m = false ∧
      s.importPath = Discovery.withoutSuffix m := by
  obtain ⟨m, hm, hown, content, hs⟩ := exists_of_mem_declaredServices h
  exact ⟨m, hm, hown, (Service.readFrom_of_mem_ofModule hs).importPath_eq⟩

end Generation

end ConnectClients
