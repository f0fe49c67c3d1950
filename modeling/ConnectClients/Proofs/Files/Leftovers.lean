import ConnectClients.Proofs.Files.Alike
import ConnectClients.Proofs.Files.Plant
import ConnectClients.Proofs.Files.Reset

/-!
# What was left in directories

Two trees may differ by what was left in some directories. Resetting such a directory
ends alike in both, and after that nothing is left in it, provided that its path reaches
it: if something is there in one of the trees, then everything on the way is a directory.
-/

namespace ConnectClients

namespace Location

/-- Where a path starts, and what it leads through. -/
def Trail (here : Location) (p : Path) (l : Location) : Prop := l = start here p ∨ Through here p l

theorem through_of_trail {here l : Location} {p : Path} (hp : p.segments ≠ [])
    (h : Trail here p l) : Through here p l := by
  rcases h with rfl | h
  · obtain ⟨s, rest, hsegments⟩ := List.exists_cons_of_ne_nil hp
    exact ⟨[], s, rest, hsegments, rfl⟩
  · exact h

end Location

namespace FileTree

open Location (along start resolve Through Trail)
open Runs

variable {here : Location} {p : Path} {t t' : FileTree} {top : Location} {tops : List Location}
  {reached : List Path}

theorem Outside.of_cons {l : Location} (h : Outside (top :: tops) l) : Outside tops l :=
  fun other hother => h other (List.mem_cons_of_mem _ hother)

/-! ## Trees with leftovers -/

/-- There is a directory, or nothing at all. -/
def Tidy (t : FileTree) (top : Location) : Prop :=
  t.get? top = some .directory ∨ ∀ l, top <+: l → t.get? l = none

/-- If something is at the end of a path in one of two trees, then everything on the way
is a directory in both. -/
def Reached (here : Location) (p : Path) (t t' : FileTree) : Prop :=
  (t.get? (resolve here p) = none ∧ t'.get? (resolve here p) = none) ∨
    ∀ l, Trail here p l → t.get? l = some .directory ∧ t'.get? l = some .directory

/-- Trees that differ by what was left in some directories, of which some are reached by
their paths. -/
structure Leftovers (here : Location) (tops : List Location) (reached : List Path)
    (t t' : FileTree) : Prop where
  same : SameOutside tops t t'
  tidy : ∀ top ∈ tops, Tidy t top ∧ Tidy t' top
  reached : ∀ p ∈ reached, resolve here p ∈ tops ∧ Reached here p t t'
  named : Named t

/-! ## Changing both trees -/

theorem put_directory {l d : Location} {item : Item} (hd : t.get? d = some .directory)
    (hitem : d ≠ l ∨ item = .directory) : (t.put l item).get? d = some .directory := by
  by_cases hself : d = l
  · subst hself
    by_cases hnil : d = []
    · rw [hnil, get?_nil]
    · rw [get?_put_self hnil, hitem.resolve_left (fun hne => hne rfl)]
  · rw [get?_put_of_ne hself, hd]

theorem SameOutside.put {l : Location} (h : SameOutside tops t t') (item : Item) :
    SameOutside tops (t.put l item) (t'.put l item) := by
  intro l' hl'
  by_cases hself : l' = l
  · subst hself
    by_cases hnil : l' = []
    · rw [hnil, get?_nil, get?_nil]
    · rw [get?_put_self hnil, get?_put_self hnil]
  · rw [get?_put_of_ne hself, get?_put_of_ne hself, h l' hl']

theorem SameOutside.erase {l : Location} (h : SameOutside tops t t') :
    SameOutside tops (t.erase l) (t'.erase l) := by
  intro l' hl'
  by_cases hself : l' = l
  · subst hself
    by_cases hnil : l' = []
    · rw [hnil, get?_nil, get?_nil]
    · rw [get?_erase_self hnil, get?_erase_self hnil]
  · rw [get?_erase_of_ne hself, get?_erase_of_ne hself, h l' hl']

theorem SameOutside.respects : Respects tops (SameOutside tops) where
  same h := h
  put item h _ _ _ := h.put item
  erase h _ _ := h.erase

/-- Trees that hold what they held in some of the directories, and no less on the trails of
their paths, still differ by leftovers if they agree elsewhere. -/
theorem Leftovers.congr {tops' : List Location} {reached' : List Path} {t₁ t₁' : FileTree}
    (h : Leftovers here tops' reached' t t') (htops : ∀ top ∈ tops, top ∈ tops')
    (hreached : ∀ p ∈ reached, p ∈ reached' ∧ resolve here p ∈ tops)
    (hsame : SameOutside tops t₁ t₁') (hnamed : Named t₁)
    (hinside : ∀ top ∈ tops, ∀ l, top <+: l → t₁.get? l = t.get? l ∧ t₁'.get? l = t'.get? l)
    (htrail : ∀ p ∈ reached, ∀ l, Trail here p l →
      (t.get? l = some .directory → t₁.get? l = some .directory) ∧
        (t'.get? l = some .directory → t₁'.get? l = some .directory)) :
    Leftovers here tops reached t₁ t₁' where
  same := hsame
  tidy := by
    have htidy : ∀ {t t₁ : FileTree} {top : Location}, Tidy t top →
        (∀ l, top <+: l → t₁.get? l = t.get? l) → Tidy t₁ top := by
      intro t t₁ top htidy heq
      rcases htidy with hdir | hnone
      · exact Or.inl (by rw [heq _ (List.prefix_refl _), hdir])
      · exact Or.inr fun l hl => by rw [heq l hl, hnone l hl]
    intro top htop
    obtain ⟨hbefore, hbefore'⟩ := h.tidy top (htops top htop)
    exact ⟨htidy hbefore fun l hl => (hinside top htop l hl).1,
      htidy hbefore' fun l hl => (hinside top htop l hl).2⟩
  reached := by
    intro p hp
    obtain ⟨hp', hend⟩ := hreached p hp
    refine ⟨hend, ?_⟩
    rcases (h.reached p hp').2 with ⟨hnone, hnone'⟩ | hdirs
    · obtain ⟨heq, heq'⟩ := hinside _ hend _ (List.prefix_refl _)
      exact Or.inl ⟨by rw [heq, hnone], by rw [heq', hnone']⟩
    · right
      intro l hl
      obtain ⟨hkept, hkept'⟩ := htrail p hp l hl
      exact ⟨hkept (hdirs l hl).1, hkept' (hdirs l hl).2⟩
  named := hnamed

theorem Leftovers.put {l : Location} {item : Item} (h : Leftovers here tops reached t t')
    (hout : Outside tops l) (hup : Path.up ∉ l)
    (hkept : t.get? l ≠ some .directory ∨ item = .directory ∨
      ∀ p ∈ reached, ¬ Trail here p l) :
    Leftovers here tops reached (t.put l item) (t'.put l item) := by
  apply h.congr (fun _ => id) (fun p hp => ⟨hp, (h.reached p hp).1⟩) (h.same.put item)
  · intro l' hl'
    by_cases hself : l' = l
    · rw [hself]
      exact hup
    · rw [get?_put_of_ne hself] at hl'
      exact h.named l' hl'
  · intro top htop l' hl'
    have hne : l' ≠ l := by
      rintro rfl
      exact hout top htop hl'
    exact ⟨get?_put_of_ne hne _ _, get?_put_of_ne hne _ _⟩
  · intro p hp l' hl'
    have hput : ∀ u : FileTree, u.get? l = t.get? l → u.get? l' = some .directory →
        (u.put l item).get? l' = some .directory := by
      intro u hu hdir
      apply put_directory hdir
      by_cases hself : l' = l
      · subst hself
        rcases hkept with hno | hitem | hoff
        · exact absurd (hu ▸ hdir) hno
        · exact Or.inr hitem
        · exact absurd hl' (hoff p hp)
      · exact Or.inl hself
    exact ⟨hput t rfl, hput t' (h.same l hout)⟩

theorem Leftovers.respects :
    Respects tops (Leftovers here tops reached) where
  same h := h.same
  put item h hout hup hno := h.put hout hup (Or.inl hno)
  erase {t t' l} h hout hno := by
    apply h.congr (fun _ => id) (fun p hp => ⟨hp, (h.reached p hp).1⟩) h.same.erase
    · intro l' hl'
      by_cases hself : l' = l
      · by_cases hnil : l = []
        · rw [hself, hnil]
          exact List.not_mem_nil
        · rw [hself, get?_erase_self hnil] at hl'
          exact absurd rfl hl'
      · rw [get?_erase_of_ne hself] at hl'
        exact h.named l' hl'
    · intro top htop l' hl'
      have hne : l' ≠ l := by
        rintro rfl
        exact hout top htop hl'
      exact ⟨get?_erase_of_ne hne _, get?_erase_of_ne hne _⟩
    · intro p hp l' _
      have herase : ∀ u : FileTree, u.get? l = t.get? l → u.get? l' = some .directory →
          (u.erase l).get? l' = some .directory := by
        intro u hu hdir
        have hne : l' ≠ l := by
          rintro rfl
          exact hno (hu ▸ hdir)
        rw [get?_erase_of_ne hne, hdir]
      exact ⟨herase t rfl, herase t' (h.same l hout)⟩

theorem Leftovers.plant {l : Location} (h : Leftovers here tops reached t t')
    (hout : Outside tops l) (hup : Path.up ∉ l) (htrail : ∀ p ∈ reached, ¬ Trail here p l)
    (octets : List UInt8) : Leftovers here tops reached (t.plant l octets) (t'.plant l octets) := by
  have hdirs : ∀ (ds : List Location) (t t' : FileTree), (∀ d ∈ ds, d <+: l) →
      Leftovers here tops reached t t' → Leftovers here tops reached
        (ds.foldl (fun t d => if d = [] then t else t.put d .directory) t)
        (ds.foldl (fun t d => if d = [] then t else t.put d .directory) t') := by
    intro ds
    induction ds with
    | nil => exact fun _ _ _ h => h
    | cons d rest ih =>
        intro t t' hds h
        refine ih _ _ (fun d' hd' => hds d' (List.mem_cons_of_mem d hd')) ?_
        have hd : d <+: l := hds d List.mem_cons_self
        by_cases hnil : d = []
        · simp only [hnil, if_true]
          exact h
        · simp only [hnil, if_false]
          exact h.put (fun top htop hle => hout top htop (hle.trans hd))
            (fun hmem => hup (hd.subset hmem)) (Or.inr (Or.inl rfl))
  have habove := hdirs (l.upward.drop 1) t t'
    (fun d hd => (isBelow_iff.mp (Location.mem_drop_upward.mp hd)).1) h
  exact habove.put hout hup (Or.inr (Or.inr htrail))

/-! ## Resetting one of the directories -/

/-- If everything on the way is a directory, then a path fails only by a name on it. -/
theorem locate_of_directories (h : ∀ l, Through here p l → t.get? l = some .directory)
    (hno : ¬ t.Passes (start here p) p.segments) : t.locate here p = .error .nameTooLong := by
  have hfollow : ∀ {l : Location} {segments : List String},
      (∀ lead s rest, segments = lead ++ s :: rest → t.get? (along l lead) = some .directory) →
        ¬ t.Passes l segments → t.follow l segments = .error .nameTooLong := by
    intro l segments
    induction segments generalizing l with
    | nil => exact fun _ hno => absurd trivial hno
    | cons s rest ih =>
        intro hdirs hno
        have hself : t.get? l = some .directory := hdirs [] s rest rfl
        have hrest : ¬ t.Passes (along l [s]) rest →
            t.follow (along l [s]) rest = .error .nameTooLong := by
          apply ih
          intro lead s' rest' heq
          rw [← Location.along_append]
          exact hdirs ([s] ++ lead) s' rest' (by rw [heq]; rfl)
        rw [follow, hself]
        by_cases hup : s = Path.up
        · subst hup
          rw [Location.along_up] at hrest
          simp only [if_true]
          exact hrest fun hpasses => hno ⟨hself, Or.inl rfl, by rwa [Location.along_up]⟩
        · rw [Location.along_name l hup] at hrest
          by_cases hlong : nameLimit < s.utf8ByteSize
          · simp only [hup, if_false, hlong, if_true]
          · simp only [hup, if_false, hlong]
            have hshort : s.utf8ByteSize ≤ nameLimit := Nat.not_lt.mp hlong
            exact hrest fun hpasses =>
              hno ⟨hself, Or.inr hshort, by rwa [Location.along_name l hup]⟩
  exact hfollow (fun lead s rest hsegments => h _ ⟨lead, s, rest, hsegments, rfl⟩) hno

namespace Operation

theorem makeDirectories_of_nameTooLong (h : t.locate here p = .error .nameTooLong) :
    makeDirectories here p t = .error .nameTooLong t := by
  have hdir : t.pathIsDirectory here p = false := by
    rw [pathIsDirectory, find?, h]
    rfl
  have hmake : makeUnlessThere here p t = .error .nameTooLong t := by
    rw [makeUnlessThere_run, makeDirectory_run, h]
    simp [hdir]
  have hp : (⟨p.root, p.segments.reverse.reverse⟩ : Path) = p := by rw [List.reverse_reverse]
  rw [makeDirectories]
  cases hback : p.segments.reverse with
  | nil =>
      rw [hback] at hp
      rw [makeDirectoriesBack]
      exact hp.symm ▸ hmake
  | cons s above =>
      rw [hback] at hp
      rw [← hp] at hmake
      rw [makeDirectoriesBack]
      exact tryCatch_eq_of_error hmake

theorem removeTree_of_directory {dirs : List String} {name : String}
    (hsegments : p.segments = dirs ++ [name]) (hname : name ≠ Path.up)
    (h : t.pathIsDirectory here p = true)
    (hthrough : ∀ l, Through here p l → ¬ isBelow (resolve here p) l = true) :
    removeTree here p t = .ok () (cleared t (resolve here p)) := by
  obtain ⟨hpasses, hdir⟩ := pathIsDirectory_iff.mp h
  have hlocate : ∀ {t : FileTree}, t.Passes (start here p) p.segments →
      locate here p t = .ok (resolve here p) t :=
    fun h => locate_eq_ok_iff.mpr ⟨h, rfl, rfl⟩
  have hclear : (t.clear (resolve here p)).Passes (start here p) p.segments := by
    apply passes_of_through hpasses
    intro l hl
    rw [get?_clear_of_not (hthrough l hl), hpasses.directory hl]
  have hremove : removeDirectory here p (t.clear (resolve here p)) =
      .ok () (cleared t (resolve here p)) := by
    rw [removeDirectory, hsegments, List.getLast?_concat]
    simp only
    rw [bind_eq_of_ok (hlocate hclear), if_neg hname, bind_eq_of_ok (hlocate hclear)]
    rfl
  rw [removeTree, bind_eq_of_ok (hlocate hpasses), get_bind_eq, hdir]
  exact hremove

/-- A path that stays outside of where it leads to ends in a name. -/
theorem exists_name_of_through (hp : p.segments ≠ [])
    (hthrough : ∀ l, Through here p l → ¬ resolve here p <+: l) :
    ∃ dirs name, p.segments = dirs ++ [name] ∧ name ≠ Path.up := by
  obtain ⟨lead, name, hsegments⟩ := (List.eq_nil_or_concat p.segments).resolve_left hp
  rw [List.concat_eq_append] at hsegments
  refine ⟨lead, name, hsegments, ?_⟩
  -- two dots at the end would lead above what the path has just led through
  rintro rfl
  apply hthrough _ ⟨lead, Path.up, [], hsegments, rfl⟩
  rw [Location.resolve_eq, hsegments, Location.along_append, Location.along_up]
  exact List.dropLast_prefix _

/-- The path of a directory that is removed must not be empty. -/
theorem removeTree_of_nil (hp : p.segments = [])
    (hdir : t.get? (resolve here p) = some .directory) : removeTree here p t =
      .error (if p.root.isEmpty then .invalid else .busy) (t.clear (resolve here p)) := by
  have hlocate : locate here p t = .ok (resolve here p) t :=
    locate_eq_ok_iff.mpr ⟨by rw [hp]; trivial, rfl, rfl⟩
  rw [removeTree, bind_eq_of_ok hlocate, get_bind_eq, hdir]
  simp only
  rw [modify_bind_eq, removeDirectory, hp]
  rfl

theorem resetDirectory_eq : resetDirectory here p t =
    ((if t.pathExists here p then removeTree here p else pure ()) >>= fun _ =>
      makeDirectories here p) t := by
  rw [resetDirectory, get_bind_eq]
  split <;> rfl

/-- Resetting a directory that is there takes away what is in it, and nothing else. -/
theorem resetDirectory_of_directory {dirs : List String} {name : String}
    (hsegments : p.segments = dirs ++ [name]) (hname : name ≠ Path.up)
    (h : t.pathIsDirectory here p = true)
    (hthrough : ∀ l, Through here p l → ¬ isBelow (resolve here p) l = true) :
    ∃ t', resetDirectory here p t = .ok () t' ∧
      ∀ l, t'.get? l = if isBelow (resolve here p) l then none else t.get? l := by
  obtain ⟨hpasses, hdir⟩ := pathIsDirectory_iff.mp h
  have hremove := removeTree_of_directory hsegments hname h hthrough
  obtain ⟨t', hmake⟩ := makeDirectories_of_removed hremove
  have hexists : t.pathExists here p = true := pathExists_iff.mpr ⟨hpasses, by simp [hdir]⟩
  have hreset : resetDirectory here p t = .ok () t' := by
    rw [resetDirectory_eq, if_pos hexists, bind_eq_of_ok hremove, hmake]
  have hway : ∀ l, OnWay here p l → t.get? l = some .directory := by
    intro l hl
    rcases onWay_iff.mp hl with hl | rfl
    · exact hpasses.directory hl
    · exact hdir
  refine ⟨t', hreset, fun l => ?_⟩
  split
  · rename_i hbelow
    exact resetDirectory_emptied hreset ⟨hthrough, Or.inr hway⟩ hbelow
  · rename_i hout
    rcases resetDirectory_kept hreset hout with heq | ⟨hnone, -, hl⟩
    · exact heq
    · rw [hway l hl] at hnone
      cases hnone

theorem resetDirectory_of_nil (hp : p.segments = [])
    (hdir : t.get? (resolve here p) = some .directory) : resetDirectory here p t =
      .error (if p.root.isEmpty then .invalid else .busy) (t.clear (resolve here p)) := by
  have hexists : t.pathExists here p = true :=
    pathExists_iff.mpr ⟨by rw [hp]; trivial, by simp [hdir]⟩
  rw [resetDirectory_eq, if_pos hexists, bind_eq_of_error (removeTree_of_nil hp hdir)]

theorem resetDirectory_of_nameTooLong (h : t.locate here p = .error .nameTooLong) :
    resetDirectory here p t = .error .nameTooLong t := by
  have hexists : t.pathExists here p = false := by
    rw [pathExists, find?, h]
    rfl
  rw [resetDirectory_eq, hexists, if_neg Bool.false_ne_true]
  exact makeDirectories_of_nameTooLong h

/-- If the path passes, or nothing is at the end of it, then a reset makes its directory in
a tree that holds nothing there. -/
theorem exists_resetDirectory_eq (htidy : Tidy t (resolve here p))
    (hthrough : ∀ l, Through here p l → ¬ resolve here p <+: l)
    (hthere : t.get? (resolve here p) = none ∨
      (t.Passes (start here p) p.segments ∧ p.segments ≠ [])) :
    ∃ t₁, resetDirectory here p t = makeDirectories here p t₁ ∧
      (∀ l, ¬ resolve here p <+: l → t₁.get? l = t.get? l) ∧
      ∀ l, resolve here p <+: l → t₁.get? l = none := by
  by_cases hnone : t.get? (resolve here p) = none
  · refine ⟨t, ?_, fun _ _ => rfl, ?_⟩
    · have hno : ¬ t.pathExists here p = true := fun h => (pathExists_iff.mp h).2 hnone
      rw [resetDirectory_eq, if_neg hno]
      rfl
    · rcases htidy with hdir | hempty
      · rw [hnone] at hdir
        cases hdir
      · exact hempty
  · obtain ⟨hpasses, hp⟩ := hthere.resolve_left hnone
    have hdir : t.get? (resolve here p) = some .directory :=
      htidy.resolve_right fun hempty => hnone (hempty _ (List.prefix_refl _))
    obtain ⟨dirs, name, hsegments, hname⟩ := exists_name_of_through hp hthrough
    have hinside : ∀ l, Through here p l → ¬ isBelow (resolve here p) l = true :=
      fun l hl hbelow => hthrough l hl (isBelow_iff.mp hbelow).1
    refine ⟨cleared t (resolve here p), ?_, fun l hl => get?_cleared_apart hl, ?_⟩
    · rw [resetDirectory_eq, if_pos (pathExists_iff.mpr ⟨hpasses, hnone⟩),
        bind_eq_of_ok (removeTree_of_directory hsegments hname
          (pathIsDirectory_iff.mpr ⟨hpasses, hdir⟩) hinside)]
    · have hroot : resolve here p ≠ [] := by
        -- the root is above everything that the path leads through
        intro hroot
        obtain ⟨s, others, hsegments⟩ := List.exists_cons_of_ne_nil hp
        apply hthrough _ ⟨[], s, others, hsegments, rfl⟩
        rw [hroot]
        exact List.nil_prefix
      rintro l ⟨rest, rfl⟩
      by_cases hrest : rest = []
      · rw [hrest, List.append_nil, cleared, get?_erase_self hroot]
      · exact get?_cleared_below hrest

end Operation

/-- Two trees of which nothing is left in a directory, and nothing else has changed. -/
theorem Leftovers.emptied {t₁ t₁' : FileTree} (h : Leftovers here (top :: tops) (p :: reached) t t')
    (hapart : ∀ other ∈ tops, ¬ other <+: top ∧ ¬ top <+: other)
    (hothers : ∀ q ∈ reached, resolve here q ∈ tops ∧ ∀ l, Trail here q l → ¬ top <+: l)
    (hkept : ∀ l, ¬ top <+: l → t₁.get? l = t.get? l ∧ t₁'.get? l = t'.get? l)
    (hnone : ∀ l, top <+: l → t₁.get? l = none ∧ t₁'.get? l = none) :
    Leftovers here tops reached t₁ t₁' := by
  have hsame : SameOutside tops t₁ t₁' := by
    intro l hl
    by_cases hbelow : top <+: l
    · rw [(hnone l hbelow).1, (hnone l hbelow).2]
    · rw [(hkept l hbelow).1, (hkept l hbelow).2]
      exact h.same l (List.forall_mem_cons.mpr ⟨hbelow, hl⟩)
  have hnamed : Named t₁ := by
    intro l hl
    by_cases hbelow : top <+: l
    · exact absurd (hnone l hbelow).1 hl
    · rw [(hkept l hbelow).1] at hl
      exact h.named l hl
  refine h.congr (fun _ => List.mem_cons_of_mem _)
    (fun q hq => ⟨List.mem_cons_of_mem _ hq, (hothers q hq).1⟩) hsame hnamed ?_ ?_
  · intro other hother l hl
    exact hkept l (Location.not_prefix_of_apart (hapart other hother).symm hl)
  · intro q hq l hl
    obtain ⟨heq, heq'⟩ := hkept l ((hothers q hq).2 l hl)
    rw [heq, heq']
    exact ⟨id, id⟩

namespace Operation

/-- Resetting a directory that is reached by its path ends alike in trees that differ by
what was left in it. Nothing is left there, and the path leads to it. -/
theorem agree_resetDirectory (hhere : Path.up ∉ here)
    (hapart : ∀ other ∈ tops, ¬ other <+: resolve here p ∧ ¬ resolve here p <+: other)
    (hthrough : ∀ l, Through here p l → Outside (resolve here p :: tops) l)
    (hothers : ∀ q ∈ reached, resolve here q ∈ tops ∧
      ∀ l, Trail here q l → ¬ resolve here p <+: l)
    (h : Leftovers here (resolve here p :: tops) (p :: reached) t t') :
    Agree (SameOutside (resolve here p :: tops)) (fun _ t t' => Leftovers here tops reached t t' ∧
      t.pathIsDirectory here p = true) (resetDirectory here p t) (resetDirectory here p t') := by
  have hself : ∀ l, Through here p l → ¬ resolve here p <+: l :=
    fun l hl => hthrough l hl _ List.mem_cons_self
  have hway : ∀ l, OnWay here p l → Outside tops l := by
    intro l hl
    rcases onWay_iff.mp hl with hl | rfl
    · exact (hthrough l hl).of_cons
    · exact fun other hother => (hapart other hother).1
  -- if it is missing, or its path passes, it is removed and made again, in both trees
  have hmake : (t.get? (resolve here p) = none ∨
        (t.Passes (start here p) p.segments ∧ p.segments ≠ [])) →
      (t'.get? (resolve here p) = none ∨
        (t'.Passes (start here p) p.segments ∧ p.segments ≠ [])) →
      Agree (SameOutside (resolve here p :: tops)) (fun _ => Leftovers here tops reached)
        (resetDirectory here p t) (resetDirectory here p t') := by
    intro hthere hthere'
    obtain ⟨htidy, htidy'⟩ := h.tidy _ List.mem_cons_self
    obtain ⟨t₁, hrun, hkept, hnone⟩ := exists_resetDirectory_eq htidy hself hthere
    obtain ⟨t₁', hrun', hkept', hnone'⟩ := exists_resetDirectory_eq htidy' hself hthere'
    have hempty : Leftovers here tops reached t₁ t₁' :=
      h.emptied hapart hothers (fun l hl => ⟨hkept l hl, hkept' l hl⟩)
        fun l hl => ⟨hnone l hl, hnone' l hl⟩
    rw [hrun, hrun']
    refine (agrees_makeDirectories Leftovers.respects hhere hway t₁ t₁' hempty).mono ?_
      fun _ _ _ h => h
    exact fun _ _ h l hl => h.same l hl.of_cons
  refine Agree.and_of_ok ?_ fun _ _ hrun => (resetDirectory_of_ok hrun).1
  rcases (h.reached p List.mem_cons_self).2 with ⟨hnone, hnone'⟩ | hdirs
  · exact hmake (Or.inl hnone) (Or.inl hnone')
  · have hlead : ∀ l, Through here p l → t.get? l = some .directory :=
      fun l hl => (hdirs l (Or.inr hl)).1
    have hlead' : ∀ l, Through here p l → t'.get? l = some .directory :=
      fun l hl => (hdirs l (Or.inr hl)).2
    by_cases hp : p.segments = []
    · -- the directory is where the path starts, and cannot be removed
      have hend : resolve here p = start here p := by
        rw [Location.resolve_eq, hp]
        rfl
      obtain ⟨hdir, hdir'⟩ := hdirs _ (Or.inl hend)
      rw [resetDirectory_of_nil hp hdir, resetDirectory_of_nil hp hdir']
      refine .error fun l hl => ?_
      have hbelow : ¬ isBelow (resolve here p) l = true :=
        fun hbelow => hl _ List.mem_cons_self (isBelow_iff.mp hbelow).1
      rw [get?_clear_of_not hbelow, get?_clear_of_not hbelow]
      exact h.same l hl
    · by_cases hpasses : t.Passes (start here p) p.segments
      · exact hmake (Or.inr ⟨hpasses, hp⟩) (Or.inr ⟨passes_of_through hpasses hlead', hp⟩)
      · -- a name on the way is too long, in both trees
        have hpasses' : ¬ t'.Passes (start here p) p.segments :=
          fun hpasses' => hpasses (passes_of_through hpasses' hlead)
        rw [resetDirectory_of_nameTooLong (locate_of_directories hlead hpasses),
          resetDirectory_of_nameTooLong (locate_of_directories hlead' hpasses')]
        exact .error h.same

end Operation

/-! ## Trees as file systems have them -/

/-- A tree as file systems have it, seen from one of its directories. -/
structure Sound (here : Location) (t : FileTree) : Prop where
  closed : t.Closed
  named : t.Named
  here : t.get? here = some .directory

/-- Trees that differ only by what is in some directories, which may be missing. -/
structure DifferIn (tops : List Location) (t t' : FileTree) : Prop where
  same : SameOutside tops t t'
  there : ∀ top ∈ tops, t.get? top = some .directory ∨ t.get? top = none
  there' : ∀ top ∈ tops, t'.get? top = some .directory ∨ t'.get? top = none

theorem Sound.up_not_mem (h : t.Sound here) : Path.up ∉ here :=
  h.named here (by simp [h.here])

theorem Sound.tidy (h : t.Sound here) {top : Location}
    (hthere : t.get? top = some .directory ∨ t.get? top = none) : t.Tidy top := by
  rcases hthere with hdir | hnone
  · exact Or.inl hdir
  · right
    rintro l ⟨rest, rfl⟩
    by_cases hrest : rest = []
    · rw [hrest, List.append_nil, hnone]
    · exact h.closed.nothing_below (by simp [hnone]) hrest

/-- A path is reached if everything on its way is a directory unless nothing is at its end.
Without two dots it always is. -/
theorem reached_of_sound (h : t.Sound here) (h' : t'.Sound here) (hsame : SameOutside tops t t')
    (hthrough : ∀ l, Through here p l → Outside tops l)
    (hdots : Path.up ∈ p.segments →
      (t.get? (resolve here p) = none ∧ t'.get? (resolve here p) = none) ∨
        ∀ l, Through here p l → t.get? l = some .directory) : Reached here p t t' := by
  have hboth : (∀ l, Through here p l → t.get? l = some .directory) → Reached here p t t' := by
    intro hdirs
    right
    intro l hl
    by_cases hp : p.segments = []
    · -- the path ends where it starts, which is a directory
      have hstart : l = start here p := by
        rcases hl with hstart | ⟨lead, s, rest, hsegments, -⟩
        · exact hstart
        · rw [hp] at hsegments
          exact absurd hsegments.symm (by simp)
      rw [hstart, start]
      split
      · exact ⟨h.here, h'.here⟩
      · exact ⟨get?_nil t, get?_nil t'⟩
    · have hl := Location.through_of_trail hp hl
      exact ⟨hdirs l hl, by rw [hsame l (hthrough l hl), hdirs l hl]⟩
  by_cases hup : Path.up ∈ p.segments
  · exact (hdots hup).elim Or.inl hboth
  · by_cases hnone : t.get? (resolve here p) = none
    · by_cases hnone' : t'.get? (resolve here p) = none
      · exact Or.inl ⟨hnone, hnone'⟩
      · apply hboth
        intro l hl
        rw [← hsame l (hthrough l hl)]
        exact h'.closed.directory_above (isBelow_of_through hup hl) hnone'
    · apply hboth
      exact fun l hl => h.closed.directory_above (isBelow_of_through hup hl) hnone

end FileTree

end ConnectClients
