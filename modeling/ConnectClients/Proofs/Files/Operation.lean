import ConnectClients.Files.Operation
import ConnectClients.Proofs.Files.Path
import ConnectClients.Proofs.Files.Tree
import ConnectClients.Proofs.Runs

/-!
# What operations on files do

A path is passed if every step of it starts at a directory. An operation that succeeds
has passed its path, and then changed the tree at the location the path leads to.
Making directories adds directories on the way where nothing was, and nothing else.
-/

namespace ConnectClients.FileTree

open Location (along start resolve Through)
open Runs

/-! ## Passing a path -/

/-- Every step starts at a directory, and no name is too long. -/
def Passes (t : FileTree) : Location → List String → Prop
  | _, [] => True
  | l, s :: rest =>
    t.get? l = some .directory ∧ (s = Path.up ∨ s.utf8ByteSize ≤ nameLimit) ∧
      t.Passes (along l [s]) rest

theorem follow_eq_ok_iff {t : FileTree} {segments : List String} {l l' : Location} :
    t.follow l segments = .ok l' ↔ t.Passes l segments ∧ l' = along l segments := by
  induction segments generalizing l with
  | nil => simp [follow, Passes, along, eq_comm]
  | cons s rest ih =>
      rw [follow, Passes, Location.along_cons l s rest]
      cases hl : t.get? l with
      | none => simp
      | some item =>
          cases item with
          | file octets => simp
          | directory =>
              by_cases hup : s = Path.up
              · subst hup
                simp [ih, Location.along_up]
              · by_cases hlong : nameLimit < s.utf8ByteSize
                · simp [hup, hlong, Nat.not_le.mpr hlong]
                · simp [hup, hlong, ih, Location.along_name l hup, Nat.not_lt.mp hlong]

theorem passes_append {t : FileTree} {l : Location} {first second : List String} :
    t.Passes l (first ++ second) ↔ t.Passes l first ∧ t.Passes (along l first) second := by
  induction first generalizing l with
  | nil => simp [Passes, along]
  | cons s rest ih =>
      rw [List.cons_append, Passes, Passes, ih, Location.along_cons l s rest, and_assoc, and_assoc]

theorem Passes.mono {t t' : FileTree} (h : ∀ l, t.get? l = some .directory →
    t'.get? l = some .directory) {l : Location} {segments : List String}
    (hp : t.Passes l segments) : t'.Passes l segments := by
  induction segments generalizing l with
  | nil => trivial
  | cons s rest ih => exact ⟨h l hp.1, hp.2.1, ih hp.2.2⟩

/-- A path passes through directories. -/
theorem Passes.directory {t : FileTree} {here : Location} {p : Path}
    (h : t.Passes (start here p) p.segments) {l : Location} (hl : Through here p l) :
    t.get? l = some .directory := by
  obtain ⟨lead, s, rest, hsegments, rfl⟩ := hl
  rw [hsegments, passes_append] at h
  exact h.2.1

/-- A path passes wherever its way is there, if it passes somewhere. -/
theorem passes_of_directories {t t' : FileTree} {l : Location} {segments : List String}
    (hp : t'.Passes l segments) (h : ∀ lead s rest, segments = lead ++ s :: rest →
      t.get? (along l lead) = some .directory) : t.Passes l segments := by
  induction segments generalizing l with
  | nil => trivial
  | cons s rest ih =>
      refine ⟨h [] s rest rfl, hp.2.1, ih hp.2.2 ?_⟩
      intro lead s' rest' heq
      rw [← Location.along_append]
      exact h ([s] ++ lead) s' rest' (by rw [heq]; simp)

theorem passes_of_through {t t' : FileTree} {here : Location} {p : Path}
    (hp : t'.Passes (start here p) p.segments)
    (h : ∀ l, Through here p l → t.get? l = some .directory) : t.Passes (start here p) p.segments :=
  passes_of_directories hp fun lead s rest hsegments => h _ ⟨lead, s, rest, hsegments, rfl⟩

theorem locate_eq_ok_iff {t : FileTree} {here l : Location} {p : Path} :
    t.locate here p = .ok l ↔ t.Passes (start here p) p.segments ∧ l = resolve here p :=
  follow_eq_ok_iff

theorem not_passes_of_locate {t : FileTree} {here : Location} {p : Path} {fault : OsFault}
    (h : t.locate here p = .error fault) : ¬ t.Passes (start here p) p.segments := by
  intro hpasses
  rw [locate_eq_ok_iff.mpr ⟨hpasses, rfl⟩] at h
  cases h

theorem pathIsDirectory_iff {t : FileTree} {here : Location} {p : Path} :
    t.pathIsDirectory here p = true ↔
      t.Passes (start here p) p.segments ∧ t.get? (resolve here p) = some .directory := by
  rw [pathIsDirectory, find?]
  cases hlocate : t.locate here p with
  | ok l =>
      obtain ⟨hpasses, rfl⟩ := locate_eq_ok_iff.mp hlocate
      simp [hpasses]
  | error fault => simp [not_passes_of_locate hlocate]

/-- Paths lead to the same directories in trees with the same directories. -/
theorem pathIsDirectory_eq_of_directories {t t' : FileTree}
    (h : ∀ l, t'.get? l = some .directory ↔ t.get? l = some .directory) (here : Location)
    (p : Path) : t'.pathIsDirectory here p = t.pathIsDirectory here p := by
  rw [Bool.eq_iff_iff, pathIsDirectory_iff, pathIsDirectory_iff]
  constructor
  · rintro ⟨hpasses, hdir⟩
    exact ⟨hpasses.mono fun l => (h l).mp, (h _).mp hdir⟩
  · rintro ⟨hpasses, hdir⟩
    exact ⟨hpasses.mono fun l => (h l).mpr, (h _).mpr hdir⟩

/-- The path to an entry of a directory passes, whether or not the entry is there. -/
theorem passes_child {t : FileTree} {here : Location} {dir : Path} {name : String}
    (hname : Path.IsName name) (hshort : name.utf8ByteSize ≤ nameLimit)
    (h : t.pathIsDirectory here dir = true) :
    t.Passes (start here (dir.child name)) (dir.child name).segments := by
  obtain ⟨hpasses, hdir⟩ := pathIsDirectory_iff.mp h
  rw [Path.child_of_isName dir hname]
  exact passes_append.mpr ⟨hpasses, hdir, Or.inr hshort, trivial⟩

theorem pathExists_iff {t : FileTree} {here : Location} {p : Path} :
    t.pathExists here p = true ↔
      t.Passes (start here p) p.segments ∧ t.get? (resolve here p) ≠ none := by
  rw [pathExists, find?]
  cases hlocate : t.locate here p with
  | ok l =>
      obtain ⟨hpasses, rfl⟩ := locate_eq_ok_iff.mp hlocate
      simp [hpasses, Option.isSome_iff_ne_none]
  | error fault => simp [not_passes_of_locate hlocate]

theorem pathExists_eq_false {t : FileTree} {here : Location} {p : Path}
    (h : t.pathExists here p = false) (hpasses : t.Passes (start here p) p.segments) :
    t.get? (resolve here p) = none := by
  by_contra hne
  rw [pathExists_iff.mpr ⟨hpasses, hne⟩] at h
  exact Bool.noConfusion h

theorem exists_file_of_pathIsFile {t : FileTree} {here : Location} {p : Path}
    (h : t.pathIsFile here p = true) : ∃ octets, t.get? (resolve here p) = some (.file octets) := by
  rw [pathIsFile, find?] at h
  cases hlocate : t.locate here p with
  | error fault =>
      rw [hlocate] at h
      exact absurd h Bool.false_ne_true
  | ok l =>
      obtain ⟨-, rfl⟩ := locate_eq_ok_iff.mp hlocate
      rw [hlocate] at h
      dsimp only at h
      cases hget : t.get? (resolve here p) with
      | none =>
          rw [hget] at h
          exact absurd h Bool.false_ne_true
      | some item =>
          cases item with
          | file octets => exact ⟨octets, rfl⟩
          | directory =>
              rw [hget] at h
              exact absurd h Bool.false_ne_true

namespace Operation

variable {here : Location} {p : Path} {t t' : FileTree}

theorem locate_run : locate here p t = (match t.locate here p with
    | .ok l => .ok l t
    | .error fault => .error fault t) := by
  simp only [locate, bind, EStateM.bind, get, getThe, MonadStateOf.get, get_run]
  cases t.locate here p <;> rfl

theorem locate_eq_ok_iff {l : Location} : locate here p t = .ok l t' ↔
    t.Passes (start here p) p.segments ∧ l = resolve here p ∧ t' = t := by
  rw [locate_run, ← and_assoc, ← FileTree.locate_eq_ok_iff]
  cases t.locate here p with
  | ok l' => simp [eq_comm]
  | error fault => simp

/-- What is written is a file where the path leads, unless a directory is there. -/
theorem writeText_eq_ok_iff {text : String} {u : Unit} : writeText here p text t = .ok u t' ↔
    t.Passes (start here p) p.segments ∧ t.get? (resolve here p) ≠ some .directory ∧
      t' = t.put (resolve here p) (.file (Text.encode text)) := by
  rw [writeText]
  simp only [bind_eq_ok_iff, get_eq_ok_iff, locate_eq_ok_iff]
  constructor
  · rintro ⟨_, _, ⟨hpasses, rfl, rfl⟩, _, _, ⟨rfl, rfl⟩, h⟩
    split at h
    · simp [bind_eq_ok_iff, throw_eq_ok_iff] at h
    · rename_i hdir
      exact ⟨hpasses, by simpa [isDirectory] using hdir, modify_eq_ok_iff.mp h⟩
  · rintro ⟨hpasses, hdir, rfl⟩
    refine ⟨_, _, ⟨hpasses, rfl, rfl⟩, _, _, ⟨rfl, rfl⟩, ?_⟩
    rw [if_neg (by simpa [isDirectory] using hdir)]
    exact modify_eq_ok_iff.mpr rfl

/-! ## Making directories -/

theorem makeDirectory_run : makeDirectory here p t = (match t.locate here p with
    | .error fault => .error fault t
    | .ok l => if (t.get? l).isSome then .error .exists t else .ok () (t.put l .directory)) := by
  simp only [makeDirectory, bind, EStateM.bind, locate_run, get, getThe, MonadStateOf.get,
    get_run]
  cases t.locate here p with
  | error fault => rfl
  | ok l =>
      by_cases hthere : (t.get? l).isSome = true
      · simp only [hthere, if_true]
        rfl
      · simp only [hthere]
        rfl

/-- A directory is made where nothing is, or else nothing changes. -/
theorem makeDirectory_cases (here : Location) (p : Path) (t : FileTree) :
    (∃ fault, makeDirectory here p t = .error fault t) ∨
      (makeDirectory here p t = .ok () (t.put (resolve here p) .directory) ∧
        t.Passes (start here p) p.segments ∧ t.get? (resolve here p) = none) := by
  rw [makeDirectory_run]
  cases hlocate : t.locate here p with
  | error fault => exact Or.inl ⟨fault, rfl⟩
  | ok l =>
      obtain ⟨hpasses, rfl⟩ := FileTree.locate_eq_ok_iff.mp hlocate
      by_cases hthere : (t.get? (resolve here p)).isSome = true
      · exact Or.inl ⟨.exists, by simp [hthere]⟩
      · exact Or.inr ⟨by simp [hthere], hpasses, by simpa using hthere⟩

theorem makeUnlessThere_run : makeUnlessThere here p t = (match makeDirectory here p t with
    | .ok _ t' => .ok () t'
    | .error fault t' => if fault = .notFound then .error .notFound t'
      else if t'.pathIsDirectory here p then .ok () t' else .error fault t') := by
  simp only [makeUnlessThere, tryCatch, tryCatchThe, MonadExceptOf.tryCatch, tryCatch_run]
  cases makeDirectory here p t with
  | ok u t' => rfl
  | error fault t' =>
      simp only
      split
      · rfl
      · rename_i hfound
        rw [if_neg hfound]
        simp only [bind, EStateM.bind, get, getThe, MonadStateOf.get, get_run]
        by_cases hdir : t'.pathIsDirectory here p = true
        · simp only [hdir, if_true]
          rfl
        · simp only [hdir]
          rfl

theorem makeUnlessThere_cases (here : Location) (p : Path) (t : FileTree) :
    (∃ fault, makeUnlessThere here p t = .error fault t) ∨
      (makeUnlessThere here p t = .ok () t ∧ t.pathIsDirectory here p = true) ∨
      (makeUnlessThere here p t = .ok () (t.put (resolve here p) .directory) ∧
        t.Passes (start here p) p.segments ∧ t.get? (resolve here p) = none) := by
  rw [makeUnlessThere_run]
  rcases makeDirectory_cases here p t with ⟨fault, hmake⟩ | ⟨hmake, h⟩
  · rw [hmake]
    by_cases hfound : fault = .notFound
    · exact Or.inl ⟨.notFound, if_pos hfound⟩
    · by_cases hdir : t.pathIsDirectory here p = true
      · exact Or.inr (Or.inl ⟨by simp [hfound, hdir], hdir⟩)
      · exact Or.inl ⟨fault, by simp [hfound, hdir]⟩
  · rw [hmake]
    exact Or.inr (Or.inr ⟨rfl, h⟩)

theorem makeUnlessThere_of_directory (h : t.pathIsDirectory here p = true) :
    makeUnlessThere here p t = .ok () t := by
  obtain ⟨hpasses, hdir⟩ := pathIsDirectory_iff.mp h
  have hmake : makeDirectory here p t = .error .exists t := by
    rw [makeDirectory_run, FileTree.locate_eq_ok_iff.mpr ⟨hpasses, rfl⟩]
    simp [hdir]
  rw [makeUnlessThere_run, hmake]
  simp [h]

end Operation

/-- The trees differ only where directories were added, at new locations. -/
def Grown (new : Location → Prop) (t t' : FileTree) : Prop :=
  ∀ l, t'.get? l = t.get? l ∨ (t.get? l = none ∧ t'.get? l = some .directory ∧ new l)

theorem Grown.refl (new : Location → Prop) (t : FileTree) : Grown new t t := fun _ => Or.inl rfl

theorem Grown.trans {new : Location → Prop} {t t' t'' : FileTree} (h : Grown new t t')
    (h' : Grown new t' t'') : Grown new t t'' := by
  intro l
  rcases h' l with heq | ⟨hnone, hdir, hnew⟩
  · rw [heq]
    exact h l
  · rcases h l with heq | ⟨-, hdir', -⟩
    · exact Or.inr ⟨heq ▸ hnone, hdir, hnew⟩
    · exact absurd (hdir'.symm.trans hnone) (by simp)

theorem Grown.mono {new new' : Location → Prop} {t t' : FileTree} (h : Grown new t t')
    (hnew : ∀ l, new l → new' l) : Grown new' t t' := by
  intro l
  rcases h l with heq | ⟨hnone, hdir, hl⟩
  · exact Or.inl heq
  · exact Or.inr ⟨hnone, hdir, hnew l hl⟩

theorem ne_nil_of_get?_none {t : FileTree} {l : Location} (h : t.get? l = none) : l ≠ [] := by
  rintro rfl
  rw [get?_nil] at h
  exact absurd h (by simp)

theorem grown_put {new : Location → Prop} {t : FileTree} {l : Location} (hl : t.get? l = none)
    (hnew : new l) : Grown new t (t.put l .directory) := by
  intro l'
  by_cases heq : l' = l
  · subst heq
    exact Or.inr ⟨hl, get?_put_self (ne_nil_of_get?_none hl) _ t, hnew⟩
  · exact Or.inl (get?_put_of_ne heq _ t)

theorem Grown.directory {new : Location → Prop} {t t' : FileTree} (h : Grown new t t')
    {l : Location} (hdir : t.get? l = some .directory) : t'.get? l = some .directory := by
  rcases h l with heq | ⟨hnone, -, -⟩
  · rw [heq, hdir]
  · rw [hdir] at hnone
    exact absurd hnone (by simp)

/-- The tree without a directory and what is in it. -/
def cleared (t : FileTree) (top : Location) : FileTree := (t.clear top).erase top

theorem get?_cleared_below {t : FileTree} {top rest : Location} (h : rest ≠ []) :
    (cleared t top).get? (top ++ rest) = none := by
  have hne : top ++ rest ≠ top := by simpa using h
  rw [cleared, get?_erase_of_ne hne, get?_clear_below (isBelow_append h)]

theorem get?_cleared_apart {t : FileTree} {top l : Location} (h : ¬ top <+: l) :
    (cleared t top).get? l = t.get? l := by
  have hne : l ≠ top := by
    rintro rfl
    exact h (List.prefix_refl l)
  rw [cleared, get?_erase_of_ne hne, get?_clear_of_not fun hbelow => h (isBelow_iff.mp hbelow).1]

/-- What a leading part of a path leads to, the whole path included. -/
def OnWay (here : Location) (p : Path) (l : Location) : Prop :=
  ∃ lead rest, p.segments = lead ++ rest ∧ l = along (start here p) lead

theorem onWay_iff {here : Location} {p : Path} {l : Location} :
    OnWay here p l ↔ Through here p l ∨ l = resolve here p := by
  constructor
  · rintro ⟨lead, rest, hsegments, rfl⟩
    cases rest with
    | nil =>
        right
        rw [Location.resolve_eq, hsegments, List.append_nil]
    | cons s rest => exact Or.inl ⟨lead, s, rest, hsegments, rfl⟩
  · rintro (⟨lead, s, rest, hsegments, rfl⟩ | rfl)
    · exact ⟨lead, s :: rest, hsegments, rfl⟩
    · exact ⟨p.segments, [], (List.append_nil _).symm, rfl⟩

/-- The way to an entry of a directory is the way to the directory, and one step more. -/
theorem onWay_child {here : Location} {dir : Path} {name : String} (hname : Path.IsName name)
    {l : Location} (h : OnWay here (dir.child name) l) :
    OnWay here dir l ∨ l = resolve here dir ++ [name] := by
  rcases onWay_iff.mp h with hl | rfl
  · rw [Path.child_of_isName dir hname] at hl
    have hsegments : (⟨dir.root, dir.segments ++ [name]⟩ : Path).segments =
      dir.segments ++ [name] := rfl
    obtain ⟨lead, rest, hlead, rfl⟩ := (Location.through_iff hsegments).mp hl
    exact Or.inl ⟨lead, rest, hlead, rfl⟩
  · exact Or.inr (Location.resolve_child here dir hname)

/-- The way to what is above, with the last segment first, is part of the way. -/
theorem onWay_of_above {here : Location} {root s : String} {above : List String} {l : Location}
    (h : OnWay here ⟨root, above.reverse⟩ l) : OnWay here ⟨root, (s :: above).reverse⟩ l := by
  obtain ⟨lead, rest, hsegments, rfl⟩ := h
  refine ⟨lead, rest ++ [s], ?_, rfl⟩
  show (s :: above).reverse = _
  rw [List.reverse_cons, ← List.append_assoc]
  exact congrArg (· ++ [s]) hsegments

/-- Without two dots, a path leads through what is above the place it leads to. -/
theorem isBelow_of_through {here : Location} {p : Path} (hno : Path.up ∉ p.segments) {l : Location}
    (h : Through here p l) : isBelow l (resolve here p) = true := by
  obtain ⟨lead, s, rest, hsegments, rfl⟩ := h
  have hlead : Path.up ∉ lead := fun hmem => hno (by rw [hsegments]; simp [hmem])
  rw [Location.resolve_eq, Location.along_of_no_up _ hno, Location.along_of_no_up _ hlead, hsegments,
    ← List.append_assoc]
  exact isBelow_append (List.cons_ne_nil _ _)

namespace Operation

variable {here : Location} {p : Path} {t t' : FileTree}

/-- What is made unless it is there is there afterwards, and nothing else changed. -/
theorem makeUnlessThere_grown {u : Unit} (h : makeUnlessThere here p t = .ok u t') :
    Grown (OnWay here p) t t' ∧ t'.pathIsDirectory here p = true := by
  rcases makeUnlessThere_cases here p t with
    ⟨fault, hrun⟩ | ⟨hrun, hdir⟩ | ⟨hrun, hpasses, hnone⟩
  · rw [hrun] at h
    cases h
  · rw [hrun] at h
    cases h
    exact ⟨Grown.refl _ t, hdir⟩
  · rw [hrun] at h
    cases h
    have hgrown := grown_put hnone (onWay_iff.mpr (Or.inr rfl) : OnWay here p (resolve here p))
    refine ⟨hgrown, pathIsDirectory_iff.mpr ⟨?_, get?_put_self (ne_nil_of_get?_none hnone) _ t⟩⟩
    exact hpasses.mono fun l => hgrown.directory

theorem makeDirectoriesBack_grown {root : String} {back : List String} {u : Unit}
    (h : makeDirectoriesBack here root back t = .ok u t') :
    Grown (OnWay here ⟨root, back.reverse⟩) t t' ∧
      t'.pathIsDirectory here ⟨root, back.reverse⟩ = true := by
  induction back generalizing t t' u with
  | nil => exact makeUnlessThere_grown h
  | cons s above ih =>
      rw [makeDirectoriesBack, tryCatch_eq_ok_iff] at h
      rcases h with h | ⟨fault, t₁, hfault, h⟩
      · exact makeUnlessThere_grown h
      · have hsame : t₁ = t := by
          rcases makeUnlessThere_cases here ⟨root, (s :: above).reverse⟩ t
            with ⟨_, hrun⟩ | ⟨hrun, -⟩ | ⟨hrun, -⟩
          · rw [hrun] at hfault
            cases hfault
            rfl
          · rw [hrun] at hfault
            cases hfault
          · rw [hrun] at hfault
            cases hfault
        subst hsame
        split at h
        · -- what is above is made first, and its way is part of this one
          obtain ⟨_, t₂, habove, h⟩ := bind_eq_ok_iff.mp h
          obtain ⟨hgrown, -⟩ := ih habove
          obtain ⟨hgrown', hdir⟩ := makeUnlessThere_grown h
          exact ⟨Grown.trans (hgrown.mono fun _ => onWay_of_above) hgrown', hdir⟩
        · exact absurd h (by simp [throw_eq_ok_iff])

/-- Making directories leads to a directory, and adds directories on the way only. -/
theorem makeDirectories_grown {u : Unit} (h : makeDirectories here p t = .ok u t') :
    Grown (OnWay here p) t t' ∧ t'.pathIsDirectory here p = true := by
  have hgrown := makeDirectoriesBack_grown h
  rw [List.reverse_reverse] at hgrown
  exact hgrown

/-- Nothing changes if the directory is there. -/
theorem makeDirectories_of_directory (h : t.pathIsDirectory here p = true) :
    makeDirectories here p t = .ok () t := by
  rw [makeDirectories]
  have hp : (⟨p.root, p.segments.reverse.reverse⟩ : Path) = p := by rw [List.reverse_reverse]
  cases hback : p.segments.reverse with
  | nil =>
      rw [makeDirectoriesBack]
      rw [hback] at hp
      exact makeUnlessThere_of_directory (hp ▸ h)
  | cons s above =>
      rw [hback] at hp
      have hrun := makeUnlessThere_of_directory (hp.symm ▸ h)
      rw [makeDirectoriesBack]
      simp only [tryCatchThe, tryCatch, MonadExceptOf.tryCatch, tryCatch_run, hrun]

/-! ## Resetting a directory -/

theorem removeDirectory_of_ok {u : Unit} (h : removeDirectory here p t = .ok u t') :
    t.Passes (start here p) p.segments ∧ t' = t.erase (resolve here p) := by
  rw [removeDirectory] at h
  cases hlast : p.segments.getLast? with
  | none =>
      rw [hlast] at h
      exact absurd h (by simp [throw_eq_ok_iff])
  | some name =>
      rw [hlast] at h
      simp only [bind_eq_ok_iff, locate_eq_ok_iff] at h
      obtain ⟨_, _, ⟨hpasses, rfl, rfl⟩, h⟩ := h
      split at h
      · simp [bind_eq_ok_iff, throw_eq_ok_iff] at h
      · simp only [bind_eq_ok_iff, locate_eq_ok_iff] at h
        obtain ⟨_, _, ⟨-, rfl, rfl⟩, h⟩ := h
        exact ⟨hpasses, modify_eq_ok_iff.mp h⟩

/-- What is removed is all below the directory, and then the directory. The path has to
pass when nothing is below it any more. -/
theorem removeTree_of_ok {u : Unit} (h : removeTree here p t = .ok u t') :
    t.get? (resolve here p) = some .directory ∧
      (t.clear (resolve here p)).Passes (start here p) p.segments ∧
      t' = cleared t (resolve here p) := by
  rw [removeTree] at h
  simp only [bind_eq_ok_iff, get_eq_ok_iff, locate_eq_ok_iff] at h
  obtain ⟨_, _, ⟨-, rfl, rfl⟩, _, t₁, ⟨rfl, rfl⟩, h⟩ := h
  cases hget : t₁.get? (resolve here p) with
  | none =>
      rw [hget] at h
      exact absurd h (by simp [throw_eq_ok_iff])
  | some item =>
      rw [hget] at h
      cases item with
      | file octets => exact absurd h (by simp [throw_eq_ok_iff])
      | directory =>
          simp only [bind_eq_ok_iff, modify_eq_ok_iff] at h
          obtain ⟨_, _, rfl, h⟩ := h
          obtain ⟨hclear, rfl⟩ := removeDirectory_of_ok h
          exact ⟨rfl, hclear, rfl⟩

/-- A directory is reset by removing it where its path leads to it, and making it. -/
theorem resetDirectory_of_ok {u : Unit} (h : resetDirectory here p t = .ok u t') :
    t'.pathIsDirectory here p = true ∧
      ((t.pathExists here p = true ∧ t.get? (resolve here p) = some .directory ∧
          (t.clear (resolve here p)).Passes (start here p) p.segments ∧
          Grown (OnWay here p) (cleared t (resolve here p)) t') ∨
        (t.pathExists here p = false ∧ Grown (OnWay here p) t t')) := by
  rw [resetDirectory, bind_eq_ok_iff] at h
  obtain ⟨_, _, hget, h⟩ := h
  obtain ⟨rfl, rfl⟩ := get_eq_ok_iff.mp hget
  split at h
  · rename_i hexists
    obtain ⟨_, t₁, hremove, h⟩ := bind_eq_ok_iff.mp h
    obtain ⟨hdir, hclear, rfl⟩ := removeTree_of_ok hremove
    obtain ⟨hgrown, hthere⟩ := makeDirectories_grown h
    exact ⟨hthere, Or.inl ⟨hexists, hdir, hclear, hgrown⟩⟩
  · rename_i hno
    obtain ⟨hgrown, hthere⟩ := makeDirectories_grown h
    exact ⟨hthere, Or.inr ⟨by simpa using hno, hgrown⟩⟩

end Operation

end ConnectClients.FileTree
