import Mathlib.Data.List.Nodup
import ConnectClients.Proofs.FieldRename.Settled
import ConnectClients.Proofs.Files.Alike
import ConnectClients.Proofs.Generation.Scope
import ConnectClients.Proofs.Text.Utf8

/-!
# Modules that are settled

A module is settled if renaming leaves it alone. Renaming settles a module, and leaves every other
one as it is, so that in the end all modules are settled, and the warnings are about those that
still cannot be read.
-/

namespace ConnectClients

open Runs
open FileTree (Closed Named OnWay SameShape Touched)
open Location (start resolve)

namespace FileTree

variable {t : FileTree} {here : Location} {p : Path} {text : String}

/-- A text without carriage returns is read as it was written. -/
theorem readText_put (hpasses : t.Passes (start here p) p.segments)
    (hfile : ∃ octets, t.get? (resolve here p) = some (.file octets)) (htext : '\r' ∉ text.toList) :
    (t.put (resolve here p) (.file (Text.encode text))).readText here p = .ok text := by
  obtain ⟨octets, hfile⟩ := hfile
  have hno : t.get? (resolve here p) ≠ some .directory := by simp [hfile]
  have hne : resolve here p ≠ [] := by
    intro hnil
    rw [hnil] at hno
    exact hno (get?_nil t)
  have hpasses' : (t.put (resolve here p) (.file (Text.encode text))).Passes (start here p)
      p.segments := hpasses.mono fun l => (directory_put_iff hne hno).mpr
  rw [readText, readOctets, locate_eq_ok_iff.mpr ⟨hpasses', rfl⟩]
  dsimp only [bind, Except.bind]
  rw [get?_put_self hne]
  dsimp only [pure, Except.pure]
  rw [Text.decode_encode]
  dsimp only
  rw [Text.unifyNewlines_eq_self htext, String.ofList_toList]

theorem return_not_mem_of_readText (h : t.readText here p = .ok text) : '\r' ∉ text.toList := by
  rw [readText] at h
  split at h
  · cases h
  · split at h
    · cases h
      rw [String.toList_ofList]
      exact Text.return_not_mem_unifyNewlines _
    · cases h

/-- Trees of one shape list the same files. -/
theorem SameShape.mem_listFiles_iff {t' : FileTree} {dir : Path} {ending : String} {m : List String}
    (h : SameShape t t') : m ∈ t'.listFiles here dir ending ↔ m ∈ t.listFiles here dir ending := by
  rw [FileTree.mem_listFiles_iff, FileTree.mem_listFiles_iff,
    pathIsDirectory_eq_of_directories h.directory_iff]
  have hfiles : ∀ l, (∃ octets, t'.get? l = some (.file octets)) ↔
      ∃ octets, t.get? l = some (.file octets) := by
    intro l
    rcases h l with heq | ⟨before, after, hbefore, hafter⟩
    · rw [heq]
    · simp [hbefore, hafter]
  rw [hfiles]

end FileTree

namespace Generation

variable {here : Location} {dir : Path} {names : List (String × String)} {t t' : FileTree}
  {m paths warnings : List String} {ms : List (List String)} {w w' : Workspace}

/-- Renaming changes what is in modules, and nothing else. -/
theorem rewriting_cases {others : List String → Prop} (h : Touched (rewriting here dir others) t t')
    (l : Location) : t'.get? l = t.get? l ∨ ∃ m, others m ∧ l = resolve here (dir.below m) ∧
      ∃ before, t.get? l = some (.file before) := by
  have htouch := h l
  generalize t.get? l = before at htouch ⊢
  generalize t'.get? l = after at htouch ⊢
  cases htouch with
  | same => exact Or.inl rfl
  | removed hempty => exact hempty.elim
  | made hmade => exact hmade.elim
  | written hwritten => exact hwritten.elim
  | rewritten hrewritten =>
      obtain ⟨m, hm, hl⟩ := hrewritten
      exact Or.inr ⟨m, hm, hl, _, rfl⟩

/-! ## One module -/

/-- The warning about a module, if it cannot be read. -/
def unreadableModule (t : FileTree) (here : Location) (dir : Path) (m : List String) : List String :=
  match t.readText here (dir.below m) with
  | .error fault =>
    ["Could not read generated module " ++ (dir.below m).toString ++ ": " ++ fault.message]
  | .ok _ => []

/-- Renaming leaves the module alone, if it can be read at all. -/
def IsSettled (t : FileTree) (here : Location) (dir : Path) (names : List (String × String))
    (m : List String) : Prop :=
  ∀ content, t.readText here (dir.below m) = .ok content →
    FieldRename.apply names content = .ok (content, false)

theorem isSettled_congr (h : t'.readText here (dir.below m) = t.readText here (dir.below m))
    (hm : IsSettled t here dir names m) : IsSettled t' here dir names m :=
  fun content hread => hm content (h ▸ hread)

theorem unreadableModule_congr (h : t'.readText here (dir.below m) = t.readText here (dir.below m)) :
    unreadableModule t' here dir m = unreadableModule t here dir m := by
  unfold unreadableModule
  rw [h]

theorem renameIn_of_settled (h : IsSettled w.tree here dir names m) :
    renameIn here dir names m w = .ok ([], unreadableModule w.tree here dir m) w := by
  rw [renameIn, Action.tree_bind_eq, unreadableModule]
  cases hread : w.tree.readText here (dir.below m) with
  | error fault => rfl
  | ok content =>
      dsimp only
      rw [h content hread]
      rfl

section names

variable (hnames : FieldRename.AreFieldNames names) (hsettles : FieldRename.Settles names)

include hnames hsettles

/-- Renaming settles a module. -/
theorem renameIn_settles (hm : m ≠ [])
    (h : renameIn here dir names m w = .ok (paths, warnings) w') :
    IsSettled w'.tree here dir names m ∧ warnings = unreadableModule w'.tree here dir m := by
  rw [renameIn, Action.tree_bind_eq] at h
  unfold IsSettled unreadableModule
  cases hread : w.tree.readText here (dir.below m) with
  | error fault =>
      rw [hread] at h
      obtain ⟨hpair, rfl⟩ := pure_eq_ok_iff.mp h
      obtain ⟨-, rfl⟩ := Prod.mk.inj hpair
      rw [hread]
      constructor
      · rintro _ ⟨⟩
      · rfl
  | ok content =>
      rw [hread] at h
      obtain ⟨⟨out, modified⟩, w₁, hrename, h⟩ := bind_eq_ok_iff.mp h
      obtain ⟨happly, rfl⟩ := Action.ofExcept_eq_ok_iff.mp hrename
      cases modified with
      | false =>
          obtain ⟨hpair, rfl⟩ := pure_eq_ok_iff.mp h
          obtain ⟨-, rfl⟩ := Prod.mk.inj hpair
          obtain ⟨rfl, -⟩ := FieldRename.apply_unmodified hnames happly
          rw [hread]
          constructor
          · rintro _ ⟨⟩
            exact happly
          · rfl
      | true =>
          -- what was written is read again
          obtain ⟨_, w₂, hwrite, h⟩ := bind_eq_ok_iff.mp h
          obtain ⟨hpair, rfl⟩ := pure_eq_ok_iff.mp h
          obtain ⟨hpasses, hfile⟩ := FileTree.readText_of_ok hread
          have hne : (dir.below m).segments ≠ [] := by
            show dir.segments ++ m ≠ []
            simp [hm]
          have hput := (Output.writeText_over_ends out
            (FileTree.pathIsDirectory_parent hpasses hne)).of_ok hwrite
          have hreturn : '\r' ∉ out.toList := by
            obtain ⟨modified, hrun⟩ := FieldRename.apply_eq hnames content
            rw [hrun] at happly
            cases happly
            exact FieldRename.not_mem_rename (fun _ => FieldRename.isFieldName_follow hnames)
              (by decide) (FileTree.return_not_mem_of_readText hread)
          rw [hput, FileTree.readText_put hpasses hfile hreturn]
          obtain ⟨-, rfl⟩ := Prod.mk.inj hpair
          constructor
          · rintro _ ⟨⟩
            exact FieldRename.apply_apply hnames hsettles happly
          · rfl

/-! ## All modules -/

omit hnames hsettles in
theorem renameAll_of_settled (h : ∀ m ∈ ms, IsSettled w.tree here dir names m) :
    renameAll here dir names ms w = .ok ([], ms.flatMap (unreadableModule w.tree here dir)) w := by
  induction ms with
  | nil => rfl
  | cons m rest ih =>
      rw [renameAll, bind_eq_of_ok (renameIn_of_settled (h m List.mem_cons_self))]
      dsimp only
      rw [bind_eq_of_ok (ih fun m' hm' => h m' (List.mem_cons_of_mem _ hm'))]
      rfl

omit hnames hsettles in
/-- A file is read as before if only other files may have been rewritten. -/
theorem readText_of_rewriting {p : Path} {ending : String} {others : List String → Prop}
    (hclosed : t.Closed) (hnamed : t.Named) (hm : m ∈ t.listFiles here p ending)
    (hothers : ∀ m', others m' → resolve here (dir.below m') ≠ resolve here p ++ m)
    (h : Touched (rewriting here dir others) t t') :
    t'.readText here (p.below m) = t.readText here (p.below m) := by
  apply FileTree.readText_listed_same hclosed hnamed hm
  intro l hl _
  rcases rewriting_cases h l with heq | ⟨m', hm', rfl, before, hfile⟩
  · exact heq
  · rcases hclosed.directory_of_listed hnamed hm hl with hdir | heq
    · rw [hfile] at hdir
      cases hdir
    · exact absurd heq (hothers m' hm')

/-- Renaming settles all modules, and warns of those that cannot be read. -/
theorem renameAll_settles (hclosed : w.tree.Closed) (hnamed : w.tree.Named)
    (hms : ∀ m ∈ ms, m ∈ Discovery.modules w.tree here dir) (hnodup : ms.Nodup)
    (h : renameAll here dir names ms w = .ok (paths, warnings) w') :
    (∀ m ∈ ms, IsSettled w'.tree here dir names m) ∧
      warnings = ms.flatMap (unreadableModule w'.tree here dir) := by
  induction ms generalizing paths warnings w with
  | nil =>
      obtain ⟨hpair, -⟩ := pure_eq_ok_iff.mp h
      obtain ⟨-, rfl⟩ := Prod.mk.inj hpair
      exact ⟨fun m hm => absurd hm List.not_mem_nil, rfl⟩
  | cons m rest ih =>
      rw [renameAll] at h
      obtain ⟨⟨first, firstWarnings⟩, w₁, hfirst, h⟩ := bind_eq_ok_iff.mp h
      obtain ⟨⟨more, moreWarnings⟩, w₂, hmore, h⟩ := bind_eq_ok_iff.mp h
      obtain ⟨hpair, rfl⟩ := pure_eq_ok_iff.mp h
      obtain ⟨-, rfl⟩ := Prod.mk.inj hpair
      obtain ⟨hnew, hnodup⟩ := List.nodup_cons.mp hnodup
      have hshape := (renameIn_sameShape hfirst).1
      have hclosed₁ := hshape.closed hclosed
      have hnamed₁ : w₁.tree.Named := fun l hl => hnamed l (mt (hshape.none_iff l).mpr hl)
      have hlisted : ∀ m' ∈ m :: rest, m' ∈ Discovery.modules w₁.tree here dir :=
        fun m' hm' => hshape.mem_listFiles_iff.mpr (hms m' hm')
      obtain ⟨hrest, htold⟩ :=
        ih hclosed₁ hnamed₁ (fun m' hm' => hlisted m' (List.mem_cons_of_mem _ hm')) hnodup hmore
      -- the later modules are other ones, so that this one is read as it was left
      obtain ⟨hsettled, hwarning⟩ :=
        renameIn_settles hnames hsettles (FileTree.mem_listFiles_iff.mp (hms m List.mem_cons_self)).2.1
          hfirst
      have htouched := (renameAll_ends (fun m' hm' => (FileTree.mem_listFiles_iff.mp
        (hlisted m' (List.mem_cons_of_mem _ hm'))).2.1) w₁).of_ok hmore
      have hread : w'.tree.readText here (dir.below m) = w₁.tree.readText here (dir.below m) := by
        refine readText_of_rewriting hclosed₁ hnamed₁ (hlisted m List.mem_cons_self) ?_ htouched
        rintro m' ⟨hm', -⟩ heq
        have hup := hnamed₁.up_not_mem_of_listed (hlisted m' (List.mem_cons_of_mem _ hm'))
        rw [FileTree.resolve_below hup] at heq
        exact hnew (List.append_cancel_left heq ▸ hm')
      refine ⟨List.forall_mem_cons.mpr ⟨isSettled_congr hread hsettled, hrest⟩, ?_⟩
      rw [List.flatMap_cons, hwarning, htold, unreadableModule_congr hread]

end names

end Generation

end ConnectClients
