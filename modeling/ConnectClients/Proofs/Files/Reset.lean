import ConnectClients.Proofs.Files.Touch

/-!
# What resets leave

A directory that was removed can be made again: its path leads where it led before, and
it is the only thing on the way that is missing. So a reset that fails has at most
emptied its directory, or added directories on the way to it. A reset that succeeds has
emptied its directory if the path leads there.
-/

namespace ConnectClients.FileTree

open Location (along start resolve Through)
open Runs

variable {here top : Location} {p : Path} {t t' : FileTree}

/-! ## One missing directory -/

theorem Passes.congr (h : ∀ l, t'.get? l = t.get? l) {l : Location} {segments : List String}
    (hp : t.Passes l segments) : t'.Passes l segments :=
  hp.mono fun l hl => by rw [h l, hl]

theorem pathIsDirectory_congr (h : ∀ l, t'.get? l = t.get? l) :
    t'.pathIsDirectory here p = t.pathIsDirectory here p := by
  rw [Bool.eq_iff_iff, pathIsDirectory_iff, pathIsDirectory_iff, h]
  exact and_congr_left fun _ => ⟨Passes.congr fun l => (h l).symm, Passes.congr h⟩

/-- A path that only misses one directory is not found. -/
theorem follow_eq_notFound (hnone : t.get? top = none) {l : Location} {segments : List String}
    (hput : (t.put top .directory).Passes l segments) (hno : ¬ t.Passes l segments) :
    t.follow l segments = .error .notFound := by
  induction segments generalizing l with
  | nil => exact absurd trivial hno
  | cons s rest ih =>
      obtain ⟨hdir, hlength, hrest⟩ := hput
      by_cases htop : l = top
      · rw [follow, htop, hnone]
      · rw [get?_put_of_ne htop] at hdir
        have hstop : ¬ t.Passes (along l [s]) rest := fun h => hno ⟨hdir, hlength, h⟩
        have hfound := ih hrest hstop
        rw [follow, hdir]
        by_cases hup : s = Path.up
        · subst hup
          rw [Location.along_up] at hfound
          simp only [if_true, hfound]
        · have hshort : ¬ nameLimit < s.utf8ByteSize := by
            rcases hlength with heq | hle
            · exact absurd heq hup
            · omega
          rw [Location.along_name l hup] at hfound
          simp only [hup, if_false, hshort, hfound]

namespace Operation

/-- A path to a directory leads to it, or it is what is missing, or the path is not found. -/
theorem makeUnlessThere_of_missing (hnone : t.get? top = none)
    (hput : (t.put top .directory).pathIsDirectory here p = true) :
    makeUnlessThere here p t = .ok () t ∨ makeUnlessThere here p t = .ok () (t.put top .directory) ∨
      (makeUnlessThere here p t = .error .notFound t ∧ ¬ t.Passes (start here p) p.segments) := by
  obtain ⟨hpasses, hdir⟩ := pathIsDirectory_iff.mp hput
  by_cases hthere : t.Passes (start here p) p.segments
  · have hlocate := FileTree.locate_eq_ok_iff.mpr ⟨hthere, rfl⟩
    by_cases htop : resolve here p = top
    · right; left
      rw [makeUnlessThere_run, makeDirectory_run, hlocate]
      simp [htop, hnone]
    · left
      rw [get?_put_of_ne htop] at hdir
      exact makeUnlessThere_of_directory (pathIsDirectory_iff.mpr ⟨hthere, hdir⟩)
  · right; right
    refine ⟨?_, hthere⟩
    rw [makeUnlessThere_run, makeDirectory_run, FileTree.locate, ← start,
      follow_eq_notFound hnone hpasses hthere]
    rfl

theorem makeDirectoriesBack_of_missing (hnone : t.get? top = none) {root : String}
    {back : List String}
    (hput : (t.put top .directory).pathIsDirectory here ⟨root, back.reverse⟩ = true) :
    makeDirectoriesBack here root back t = .ok () t ∨
      makeDirectoriesBack here root back t = .ok () (t.put top .directory) := by
  induction back with
  | nil =>
      rcases makeUnlessThere_of_missing hnone hput with hrun | hrun | ⟨-, hno⟩
      · exact Or.inl hrun
      · exact Or.inr hrun
      · exact absurd trivial hno
  | cons s above ih =>
      obtain ⟨hpasses, -⟩ := pathIsDirectory_iff.mp hput
      have hlast : (t.put top .directory).Passes (start here ⟨root, (s :: above).reverse⟩)
          (above.reverse ++ [s]) := by
        rw [← List.reverse_cons]
        exact hpasses
      obtain ⟨hlead, hthere, hlength, -⟩ := passes_append.mp hlast
      rw [makeDirectoriesBack]
      rcases makeUnlessThere_of_missing hnone hput with hrun | hrun | ⟨hrun, hno⟩
      · exact Or.inl (tryCatch_eq_of_ok hrun)
      · exact Or.inr (tryCatch_eq_of_ok hrun)
      · -- what is missing is above, and is made first
        rw [tryCatch_eq_of_error hrun]
        dsimp only
        rcases ih (pathIsDirectory_iff.mpr ⟨hlead, hthere⟩) with habove | habove
        · -- if nothing was missing there, the path would have passed
          obtain ⟨hpasses', hthere'⟩ := pathIsDirectory_iff.mp (makeDirectoriesBack_grown habove).2
          refine absurd ?_ hno
          show t.Passes _ (s :: above).reverse
          rw [List.reverse_cons]
          exact passes_append.mpr ⟨hpasses', hthere', hlength, trivial⟩
        · rw [bind_eq_of_ok habove]
          exact Or.inr (makeUnlessThere_of_directory hput)

/-- A directory that was removed can be made again. -/
theorem makeDirectories_of_removed {u : Unit} (h : removeTree here p t = .ok u t') :
    ∃ t₁, makeDirectories here p t' = .ok () t₁ := by
  obtain ⟨hdir, hclear, rfl⟩ := removeTree_of_ok h
  have hthere : (t.clear (resolve here p)).pathIsDirectory here p = true := by
    refine pathIsDirectory_iff.mpr ⟨hclear, ?_⟩
    rw [get?_clear_of_not fun hbelow => (isBelow_iff.mp hbelow).2 rfl, hdir]
  by_cases hroot : resolve here p = []
  · -- the root is never taken away
    have hsame : ∀ l, (cleared t (resolve here p)).get? l = (t.clear (resolve here p)).get? l := by
      intro l
      by_cases hl : l = []
      · rw [hl, get?_nil, get?_nil]
      · rw [cleared, get?_erase_of_ne (by rw [hroot]; exact hl)]
    exact ⟨_, makeDirectories_of_directory (by rw [pathIsDirectory_congr hsame, hthere])⟩
  · have hsame : ∀ l, ((cleared t (resolve here p)).put (resolve here p) .directory).get? l =
        (t.clear (resolve here p)).get? l := by
      intro l
      by_cases hl : l = resolve here p
      · rw [hl, get?_put_self hroot, get?_clear_of_not fun hbelow => (isBelow_iff.mp hbelow).2 rfl,
          hdir]
      · rw [get?_put_of_ne hl, cleared, get?_erase_of_ne hl]
    have hput : ((cleared t (resolve here p)).put (resolve here p) .directory).pathIsDirectory here
        ⟨p.root, p.segments.reverse.reverse⟩ = true := by
      rw [List.reverse_reverse, pathIsDirectory_congr hsame]
      exact hthere
    have hnone : (cleared t (resolve here p)).get? (resolve here p) = none := get?_erase_self hroot _
    rcases makeDirectoriesBack_of_missing hnone hput with hrun | hrun
    · exact ⟨_, hrun⟩
    · exact ⟨_, hrun⟩

/-- A reset that fails has at most emptied its directory or added directories on the way
to it. -/
theorem resetDirectory_error {fault : OsFault} (h : resetDirectory here p t = .error fault t') :
    Grown (OnWay here p) t t' ∨ t' = t.clear (resolve here p) := by
  have hends : Ends (resetDirectory here p) t
      (fun t' => Grown (OnWay here p) t t' ∨ t' = t.clear (resolve here p)) fun _ _ => True := by
    rw [resetDirectory]
    apply ends_get_bind
    have hmake : ∀ t, Ends (makeDirectories here p) t (Grown (OnWay here p) t) fun _ _ => True :=
      fun t => (makeDirectories_ends here p t).mono (fun _ h => h) fun _ _ _ => trivial
    split
    · have hremove : Ends (removeTree here p) t
          (fun t' => Grown (OnWay here p) t t' ∨ t' = t.clear (resolve here p))
          fun _ t' => ∃ t₁, makeDirectories here p t' = .ok () t₁ := by
        refine ⟨makeDirectories_of_removed, fun hrun => ?_⟩
        rcases (removeTree_ends here p t).of_error hrun with rfl | rfl
        · exact Or.inl (Grown.refl _ _)
        · exact Or.inr rfl
      apply hremove.bind
      rintro _ t₁ ⟨t₂, hmade⟩
      exact ends_of_ok hmade trivial
    · exact (hmake t).mono (fun _ => Or.inl) fun _ _ _ => trivial
  exact hends.of_error h

end Operation

/-! ## Resets that succeed -/

/-- What was at a location is there, or nothing was and a directory is, if it is new. -/
def Kept (new : Location → Prop) (l : Location) (before after : Option Item) : Prop :=
  after = before ∨ (before = none ∧ after = some .directory ∧ new l)

theorem Kept.mono {new new' : Location → Prop} {l : Location} {before after : Option Item}
    (h : Kept new l before after) (hnew : new l → new' l) : Kept new' l before after :=
  h.imp_right fun ⟨hbefore, hafter, hl⟩ => ⟨hbefore, hafter, hnew hl⟩

theorem Kept.trans {new : Location → Prop} {l : Location} {first second third : Option Item}
    (h : Kept new l first second) (h' : Kept new l second third) : Kept new l first third := by
  rcases h' with rfl | ⟨rfl, rfl, hl⟩
  · exact h
  · rcases h with rfl | ⟨-, hdir, -⟩
    · exact Or.inr ⟨rfl, rfl, hl⟩
    · cases hdir

theorem Kept.directory {new : Location → Prop} {l : Location} {before after : Option Item}
    (h : Kept new l before after) (hbefore : before = some .directory) :
    after = some .directory := by
  rcases h with rfl | ⟨-, hafter, -⟩
  · exact hbefore
  · exact hafter

/-- A path leads to a directory if everything on the way is there, or nothing is in the
directory yet; and it must not run through what is in the directory. -/
structure LeadsTo (here : Location) (p : Path) (t : FileTree) : Prop where
  not_through : ∀ l, Through here p l → ¬ isBelow (resolve here p) l = true
  reached : (∀ l, isBelow (resolve here p) l = true → t.get? l = none) ∨
    ∀ l, OnWay here p l → t.get? l = some .directory

/-- Without two dots, a path leads where it says in every closed tree. -/
theorem Closed.leadsTo (hclosed : t.Closed) (hno : Path.up ∉ p.segments) : LeadsTo here p t where
  not_through l hl hbelow := by
    obtain ⟨hlead, hne⟩ := isBelow_iff.mp (isBelow_of_through hno hl)
    exact hne (hlead.eq_of_length_le (isBelow_iff.mp hbelow).1.length_le).symm
  reached := by
    by_cases hdir : t.get? (resolve here p) = some .directory
    · right
      intro l hl
      rcases onWay_iff.mp hl with hthrough | rfl
      · exact hclosed.directory_above (isBelow_of_through hno hthrough) (by simp [hdir])
      · exact hdir
    · left
      intro l hbelow
      obtain ⟨rest, hrest, rfl⟩ := exists_of_isBelow hbelow
      exact hclosed.nothing_below hdir hrest

theorem LeadsTo.not_onWay (h : LeadsTo here p t) {l : Location}
    (hbelow : isBelow (resolve here p) l = true) : ¬ OnWay here p l := by
  intro hl
  rcases onWay_iff.mp hl with hthrough | rfl
  · exact h.not_through l hthrough hbelow
  · exact (isBelow_iff.mp hbelow).2 rfl

namespace Operation

/-- Outside of its directory, a reset at most adds directories on the way. -/
theorem resetDirectory_kept {u : Unit} (h : resetDirectory here p t = .ok u t') {l : Location}
    (hout : ¬ isBelow (resolve here p) l = true) : Kept (OnWay here p) l (t.get? l) (t'.get? l) := by
  obtain ⟨hthere, ⟨-, hdir, -, hgrown⟩ | ⟨-, hgrown⟩⟩ := resetDirectory_of_ok h
  · by_cases hself : l = resolve here p
    · subst hself
      rw [hdir, (pathIsDirectory_iff.mp hthere).2]
      exact Or.inl rfl
    · have hapart : ¬ resolve here p <+: l := fun hlead => hout (isBelow_iff.mpr ⟨hlead, hself⟩)
      rw [← get?_cleared_apart hapart]
      exact hgrown l
  · exact hgrown l

/-- A reset leaves nothing in a directory that its path leads to. -/
theorem resetDirectory_emptied {u : Unit} (h : resetDirectory here p t = .ok u t')
    (hleads : LeadsTo here p t) {l : Location} (hbelow : isBelow (resolve here p) l = true) :
    t'.get? l = none := by
  have hnew := hleads.not_onWay hbelow
  obtain ⟨hthere, ⟨-, -, -, hgrown⟩ | ⟨hmissing, hgrown⟩⟩ := resetDirectory_of_ok h
  · obtain ⟨rest, hrest, rfl⟩ := exists_of_isBelow hbelow
    rcases hgrown (resolve here p ++ rest) with heq | ⟨-, -, hl⟩
    · rw [heq, get?_cleared_below hrest]
    · exact absurd hl hnew
  · rcases hgrown l with heq | ⟨-, -, hl⟩
    · rw [heq]
      rcases hleads.reached with hempty | hway
      · exact hempty l hbelow
      · -- all of the way is there, so the reset did not miss its directory
        have hpasses := passes_of_through (pathIsDirectory_iff.mp hthere).1
          fun l hl => hway l (onWay_iff.mpr (Or.inl hl))
        have hend := hway _ (onWay_iff.mpr (Or.inr rfl))
        rw [pathExists_eq_false hmissing hpasses] at hend
        cases hend
    · exact absurd hl hnew

end Operation

end ConnectClients.FileTree
