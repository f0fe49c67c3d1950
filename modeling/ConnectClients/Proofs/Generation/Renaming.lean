import ConnectClients.Proofs.Generation.SchemaNames
import ConnectClients.Proofs.Generation.Settled

/-!
# What renaming does to modules

Taking over JSON names always succeeds. Each module that can be read and declares a name that is not
settled is written anew, with every name followed through the dictionary; all other modules stay as
they are. A module that cannot be read is not written over by another one, so that it still cannot be
read in the end.
-/

namespace ConnectClients

open Runs
open FileTree (SameShape)
open Location (resolve start)

namespace FileTree

variable {t t' : FileTree} {here : Location} {p q : Path} {content text : String}
  {octets : List UInt8}

/-- Paths lead where they led as long as files stay files and directories stay directories. -/
theorem SameShape.follow_eq (h : SameShape t t') (l : Location) (segments : List String) :
    t'.follow l segments = t.follow l segments := by
  induction segments generalizing l with
  | nil => rfl
  | cons s rest ih =>
      rw [follow, follow]
      rcases h l with heq | ⟨before, after, hbefore, hafter⟩
      · rw [heq]
        simp only [ih]
      · rw [hbefore, hafter]

theorem SameShape.locate_eq (h : SameShape t t') (here : Location) (p : Path) :
    t'.locate here p = t.locate here p := h.follow_eq _ _

/-- What is read depends on where the path leads and what is there. -/
theorem readText_congr (hlocate : t'.locate here p = t.locate here q)
    (hget : ∀ l, t.locate here q = .ok l → t'.get? l = t.get? l) :
    t'.readText here p = t.readText here q := by
  unfold readText readOctets
  rw [hlocate]
  cases hl : t.locate here q with
  | error fault => rfl
  | ok l =>
      dsimp only [bind, Except.bind]
      rw [hget l hl]

/-- A file that is written over a readable one makes no path readable or unreadable. -/
theorem readText_put_error_iff {source : String} {fault : ReadFault}
    (hread : t.readText here q = .ok source) :
    (t.put (resolve here q) (.file (Text.encode text))).readText here p = .error fault ↔
      t.readText here p = .error fault := by
  obtain ⟨hpasses, octets, hfile⟩ := readText_of_ok hread
  have hlocate := (sameShape_put hfile (Text.encode text)).locate_eq here p
  by_cases hsame : t.locate here p = .ok (resolve here q)
  · -- both times the path leads to a text: to the one that was read, or to the one that was written
    have hbefore : t.readText here p = .ok source := by
      rw [← hread]
      exact readText_congr (hsame.trans (locate_eq_ok_iff.mpr ⟨hpasses, rfl⟩).symm) fun _ _ => rfl
    have hafter : ∃ found,
        (t.put (resolve here q) (.file (Text.encode text))).readText here p = .ok found := by
      rw [readText, readOctets, hlocate, hsame]
      dsimp only [bind, Except.bind]
      rw [get?_put_self (ne_nil_of_file hfile)]
      dsimp only [pure, Except.pure]
      rw [Text.decode_encode]
      exact ⟨_, rfl⟩
    obtain ⟨found, hfound⟩ := hafter
    rw [hbefore, hfound]
    constructor
    · rintro ⟨⟩
    · rintro ⟨⟩
  · rw [readText_congr hlocate]
    intro l hl
    refine get?_put_of_ne ?_ _ t
    rintro rfl
    exact hsame hl

/-- A text without carriage returns that a file holds is the one that is read. -/
theorem eq_of_encode_eq (hread : t.readText here p = .ok content)
    (hfile : t.get? (resolve here p) = some (.file octets)) (htext : '\r' ∉ text.toList)
    (h : Text.encode text = octets) : text = content := by
  obtain ⟨hpasses, -⟩ := readText_of_ok hread
  have hput := readText_put hpasses ⟨octets, hfile⟩ htext
  rw [readText_congr ((sameShape_put hfile _).locate_eq here p), hread] at hput
  · exact (Except.ok.inj hput).symm
  · intro l hl
    obtain ⟨-, rfl⟩ := locate_eq_ok_iff.mp hl
    rw [get?_put_self (ne_nil_of_file hfile), h, hfile]

end FileTree

namespace Generation

variable {here : Location} {dir : Path} {names : List (String × String)} {t : FileTree}
  {m m' : List String} {ms : List (List String)}

/-! ## One module -/

/-- The files once the declarations in a module were renamed. -/
def renamedTree (here : Location) (dir : Path) (names : List (String × String)) (t : FileTree)
    (m : List String) : FileTree :=
  match t.readText here (dir.below m) with
  | .error _ => t
  | .ok content =>
    if ∀ name ∈ FieldRename.declaredIn content, FieldRename.Settled names name then t
    else t.put (resolve here (dir.below m))
      (.file (Text.encode (FieldRename.rename (FieldRename.follow names) content)))

/-- Either nothing happens to the files, or the module can be read and is written anew. -/
theorem renamedTree_cases (here : Location) (dir : Path) (names : List (String × String))
    (t : FileTree) (m : List String) : renamedTree here dir names t m = t ∨
      ∃ source text, t.readText here (dir.below m) = .ok source ∧
        renamedTree here dir names t m =
          t.put (resolve here (dir.below m)) (.file (Text.encode text)) := by
  unfold renamedTree
  cases hread : t.readText here (dir.below m) with
  | error fault => exact Or.inl rfl
  | ok content =>
      dsimp only
      split
      · exact Or.inl rfl
      · exact Or.inr ⟨content, _, rfl, rfl⟩

theorem renamedTree_sameShape (here : Location) (dir : Path) (names : List (String × String))
    (t : FileTree) (m : List String) : SameShape t (renamedTree here dir names t m) := by
  rcases renamedTree_cases here dir names t m with heq | ⟨source, text, hread, heq⟩
  · rw [heq]
    exact SameShape.refl t
  · obtain ⟨-, octets, hfile⟩ := FileTree.readText_of_ok hread
    rw [heq]
    exact FileTree.sameShape_put hfile _

theorem readText_renamedTree_error_iff {p : Path} {fault : FileTree.ReadFault} :
    (renamedTree here dir names t m).readText here p = .error fault ↔
      t.readText here p = .error fault := by
  rcases renamedTree_cases here dir names t m with heq | ⟨source, text, hread, heq⟩
  · rw [heq]
  · rw [heq]
    exact FileTree.readText_put_error_iff hread

theorem unreadableModule_renamedTree :
    unreadableModule (renamedTree here dir names t m) here dir m' =
      unreadableModule t here dir m' := by
  unfold unreadableModule
  cases hread : t.readText here (dir.below m') with
  | error fault => rw [readText_renamedTree_error_iff.mpr hread]
  | ok content =>
      cases hafter : (renamedTree here dir names t m).readText here (dir.below m') with
      | ok found => rfl
      | error fault =>
          rw [readText_renamedTree_error_iff, hread] at hafter
          cases hafter

/-- Renaming in a module that has a name never fails. -/
theorem renameIn_eq (here : Location) (dir : Path) (hnames : FieldRename.AreFieldNames names)
    (hm : m ≠ []) (w : Workspace) :
    ∃ paths, renameIn here dir names m w = .ok (paths, unreadableModule w.tree here dir m)
      { w with tree := renamedTree here dir names w.tree m } := by
  rw [renameIn, Action.tree_bind_eq]
  unfold unreadableModule renamedTree
  cases hread : w.tree.readText here (dir.below m) with
  | error fault => exact ⟨[], rfl⟩
  | ok content =>
      dsimp only
      rw [FieldRename.apply_eq_decide hnames]
      by_cases hsettled : ∀ name ∈ FieldRename.declaredIn content, FieldRename.Settled names name
      · rw [if_pos hsettled, decide_eq_false (not_not.mpr hsettled)]
        exact ⟨[], rfl⟩
      · -- the file is there, so that it can be written
        obtain ⟨hpasses, octets, hfile⟩ := FileTree.readText_of_ok hread
        have hne : (dir.below m).segments ≠ [] := by
          show dir.segments ++ m ≠ []
          simp [hm]
        have hmake := Output.makeDirectories_of_there
          (FileTree.pathIsDirectory_parent hpasses hne)
        have hwrite : Output.writeFile here (dir.below m)
            (FieldRename.rename (FieldRename.follow names) content) w = .ok ()
              { w with tree := w.tree.put (resolve here (dir.below m)) (.file (Text.encode
                (FieldRename.rename (FieldRename.follow names) content))) } := by
          refine Action.operate_eq_ok_iff.mpr ⟨_, ?_, rfl⟩
          exact FileTree.Operation.writeText_eq_ok_iff.mpr ⟨hpasses, by simp [hfile], rfl⟩
        rw [if_neg hsettled, decide_eq_true hsettled]
        refine ⟨[Path.slashed m], ?_⟩
        refine (bind_eq_of_ok (a := ()) ?_).trans rfl
        exact (bind_eq_of_ok hmake).trans hwrite

/-! ## All modules -/

theorem foldl_renamedTree_sameShape (t : FileTree) :
    SameShape t (ms.foldl (renamedTree here dir names) t) := by
  induction ms generalizing t with
  | nil => exact SameShape.refl t
  | cons m rest ih => exact (renamedTree_sameShape here dir names t m).trans (ih _)

theorem readText_foldl_renamedTree_error_iff {p : Path} {fault : FileTree.ReadFault} :
    (ms.foldl (renamedTree here dir names) t).readText here p = .error fault ↔
      t.readText here p = .error fault := by
  induction ms generalizing t with
  | nil => rfl
  | cons m rest ih => exact ih.trans readText_renamedTree_error_iff

/-- Renaming goes through all modules, and warns of those that cannot be read. -/
theorem renameAll_eq (here : Location) (dir : Path) (hnames : FieldRename.AreFieldNames names)
    (hms : ∀ m ∈ ms, m ≠ []) (w : Workspace) :
    ∃ paths, renameAll here dir names ms w =
      .ok (paths, ms.flatMap (unreadableModule w.tree here dir))
        { w with tree := ms.foldl (renamedTree here dir names) w.tree } := by
  induction ms generalizing w with
  | nil => exact ⟨[], rfl⟩
  | cons m rest ih =>
      obtain ⟨first, hfirst⟩ := renameIn_eq here dir hnames (hms m List.mem_cons_self) w
      obtain ⟨more, hmore⟩ := ih (fun m' hm' => hms m' (List.mem_cons_of_mem _ hm'))
        { w with tree := renamedTree here dir names w.tree m }
      refine ⟨first ++ more, ?_⟩
      have hsame : rest.flatMap (unreadableModule (renamedTree here dir names w.tree m) here dir) =
          rest.flatMap (unreadableModule w.tree here dir) :=
        List.flatMap_congr fun _ _ => unreadableModule_renamedTree
      rw [renameAll, bind_eq_of_ok hfirst]
      dsimp only
      rw [bind_eq_of_ok hmore, List.flatMap_cons, ← hsame]
      rfl

theorem get?_renamedTree_of_ne {l : Location} (h : l ≠ resolve here (dir.below m)) :
    (renamedTree here dir names t m).get? l = t.get? l := by
  rcases renamedTree_cases here dir names t m with heq | ⟨source, text, -, heq⟩
  · rw [heq]
  · rw [heq, FileTree.get?_put_of_ne h]

theorem get?_foldl_renamedTree_of_ne {l : Location}
    (h : ∀ m ∈ ms, l ≠ resolve here (dir.below m)) :
    (ms.foldl (renamedTree here dir names) t).get? l = t.get? l := by
  induction ms generalizing t with
  | nil => rfl
  | cons m rest ih =>
      refine (ih fun m' hm' => h m' (List.mem_cons_of_mem _ hm')).trans ?_
      exact get?_renamedTree_of_ne (h m List.mem_cons_self)

/-- What becomes of a module depends on that module alone. -/
theorem get?_renamedTree_congr {t' : FileTree} (hshape : SameShape t t')
    (hget : t'.get? (resolve here (dir.below m)) = t.get? (resolve here (dir.below m))) :
    (renamedTree here dir names t' m).get? (resolve here (dir.below m)) =
      (renamedTree here dir names t m).get? (resolve here (dir.below m)) := by
  have hread : t'.readText here (dir.below m) = t.readText here (dir.below m) := by
    apply FileTree.readText_congr (hshape.locate_eq here _)
    intro l hl
    obtain ⟨-, rfl⟩ := FileTree.locate_eq_ok_iff.mp hl
    exact hget
  unfold renamedTree
  rw [hread]
  cases hcontent : t.readText here (dir.below m) with
  | error fault => exact hget
  | ok content =>
      obtain ⟨-, octets, hfile⟩ := FileTree.readText_of_ok hcontent
      have hroot := FileTree.ne_nil_of_file hfile
      dsimp only
      split
      · exact hget
      · rw [FileTree.get?_put_self hroot, FileTree.get?_put_self hroot]

/-- Of several modules, each is in the end as its own renaming leaves it. -/
theorem get?_foldl_renamedTree (hup : ∀ m ∈ ms, Path.up ∉ m) (hnodup : ms.Nodup) (hm : m ∈ ms) :
    (ms.foldl (renamedTree here dir names) t).get? (resolve here (dir.below m)) =
      (renamedTree here dir names t m).get? (resolve here (dir.below m)) := by
  have hother : ∀ m' ∈ ms, m ≠ m' → resolve here (dir.below m) ≠ resolve here (dir.below m') := by
    intro m' hm' hne heq
    rw [FileTree.resolve_below (hup m hm), FileTree.resolve_below (hup m' hm')] at heq
    exact hne (List.append_cancel_left heq)
  induction ms generalizing t with
  | nil => exact absurd hm List.not_mem_nil
  | cons first rest ih =>
      obtain ⟨hnew, hnodup⟩ := List.nodup_cons.mp hnodup
      rw [List.foldl_cons]
      rcases List.mem_cons.mp hm with rfl | hrest
      · -- the modules behind it are other ones
        apply get?_foldl_renamedTree_of_ne
        intro m' hm'
        refine hother m' (List.mem_cons_of_mem _ hm') ?_
        rintro rfl
        exact hnew hm'
      · have hne : m ≠ first := by
          rintro rfl
          exact hnew hrest
        rw [ih (fun m' hm' => hup m' (List.mem_cons_of_mem _ hm')) hnodup hrest
          fun m' hm' => hother m' (List.mem_cons_of_mem _ hm')]
        apply get?_renamedTree_congr (renamedTree_sameShape here dir names t first)
        exact get?_renamedTree_of_ne (hother first List.mem_cons_self hne)

/-! ## All schemas -/

/-- The files once the declarations in all modules below a directory were renamed. -/
def renamedModules (here : Location) (dir : Path) (names : List (String × String))
    (t : FileTree) : FileTree :=
  (Discovery.modules t here dir).foldl (renamedTree here dir names) t

theorem renamedModules_nil : renamedModules here dir [] t = t := by
  have hsame : ∀ m, renamedTree here dir [] t m = t := by
    intro m
    unfold renamedTree
    split
    · rfl
    · exact if_pos fun _ _ e he => absurd he List.not_mem_nil
  exact List.foldlRecOn (motive := fun t' => t' = t) _ _ rfl fun t' heq m _ => by rw [heq, hsame]

/-- The warnings of a run about what it could not read. -/
def unreadableFiles (t : FileTree) (here : Location) (dir schemaDir : Path) : List String :=
  unreadableSchemas t here schemaDir ++
    if mergedNames t here schemaDir = [] then []
    else (Discovery.modules t here dir).flatMap (unreadableModule t here dir)

/-- Taking over JSON names never fails. -/
theorem renames_eq (here : Location) (r : Request) (schemaDir : Path) (w : Workspace) :
    ∃ paths, renames here r (some schemaDir) w =
      .ok (paths, unreadableFiles w.tree here r.generatedDir schemaDir) { w with
        tree := renamedModules here r.generatedDir (mergedNames w.tree here schemaDir) w.tree } := by
  rw [renames, applyJsonNames, bind_eq_of_ok (declaredNames_eq here schemaDir w), unreadableFiles]
  dsimp only
  by_cases hempty : mergedNames w.tree here schemaDir = []
  · rw [hempty, renamedModules_nil, List.isEmpty_nil, if_pos rfl, if_pos rfl, List.append_nil]
    exact ⟨[], rfl⟩
  · have hms : ∀ m ∈ Discovery.modules w.tree here r.generatedDir, m ≠ [] :=
      fun m hm => (FileTree.mem_listFiles_iff.mp hm).2.1
    obtain ⟨paths, hall⟩ := renameAll_eq here r.generatedDir areFieldNames_mergedNames hms w
    rw [if_neg hempty, if_neg (by simpa using hempty), Action.tree_bind_eq, bind_eq_of_ok hall]
    exact ⟨paths, rfl⟩

end Generation

end ConnectClients
