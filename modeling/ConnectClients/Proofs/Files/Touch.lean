import ConnectClients.Proofs.Endings
import ConnectClients.Proofs.Files.Operation

/-!
# What runs may touch

A scope says what a run may do at each location of a tree: take away what is there, make
a missing directory, write a file, or write over the file that is there. A run that does
one thing within a scope after the other, and stops at any point, has done no more than
the scope allows at each location.
-/

namespace ConnectClients.FileTree

open Location (start resolve)
open Runs

/-- What may be done where. -/
structure Scope where
  /-- What is there may be taken away. -/
  emptied : Location → Prop := fun _ => False
  /-- A directory may be made where nothing is. -/
  made : Location → Prop := fun _ => False
  /-- A file may be written where nothing is. -/
  written : Location → Prop := fun _ => False
  /-- The file that is there may be written over. -/
  rewritten : Location → Prop := fun _ => False

variable {sc sc' : Scope} {l : Location} {t t' t'' : FileTree}

/-- What may have become of what was at a location. Where something may be taken away,
something else may be in its place afterwards. -/
inductive Touch (sc : Scope) (l : Location) : Option Item → Option Item → Prop
  | same (item : Option Item) : Touch sc l item item
  | removed {before : Option Item} (h : sc.emptied l) : Touch sc l before none
  | made {before : Option Item} (h : sc.made l) (hfree : before = none ∨ sc.emptied l) :
      Touch sc l before (some .directory)
  | written {before : Option Item} {octets : List UInt8} (h : sc.written l)
      (hfree : before = none ∨ sc.emptied l) : Touch sc l before (some (.file octets))
  | rewritten {before after : List UInt8} (h : sc.rewritten l) :
      Touch sc l (some (.file before)) (some (.file after))

/-- Where nothing is in the end, nothing was there before or it may have been taken away. -/
theorem Touch.free {before after : Option Item} (h : Touch sc l before after) (hafter : after = none) :
    before = none ∨ sc.emptied l := by
  cases h with
  | same => exact Or.inl hafter
  | removed hempty => exact Or.inr hempty
  | made => exact absurd hafter (by simp)
  | written => exact absurd hafter (by simp)
  | rewritten => exact absurd hafter (by simp)

theorem Touch.trans {first second third : Option Item} (h : Touch sc l first second)
    (h' : Touch sc l second third) : Touch sc l first third := by
  have hfree : second = none ∨ sc.emptied l → first = none ∨ sc.emptied l :=
    fun hsecond => hsecond.elim h.free Or.inr
  cases h' with
  | same => exact h
  | removed hempty => exact .removed hempty
  | made hmade hsecond => exact .made hmade (hfree hsecond)
  | written hwritten hsecond => exact .written hwritten (hfree hsecond)
  | rewritten hrewritten =>
      cases h with
      | same => exact .rewritten hrewritten
      | written hwritten hfirst => exact .written hwritten hfirst
      | rewritten => exact .rewritten hrewritten

theorem Touch.mono {before after : Option Item} (h : Touch sc l before after)
    (hemptied : sc.emptied l → sc'.emptied l) (hmade : sc.made l → sc'.made l)
    (hwritten : sc.written l → sc'.written l) (hrewritten : sc.rewritten l → sc'.rewritten l) :
    Touch sc' l before after := by
  cases h with
  | same => exact .same _
  | removed h => exact .removed (hemptied h)
  | made h hfree => exact .made (hmade h) (hfree.imp_right hemptied)
  | written h hfree => exact .written (hwritten h) (hfree.imp_right hemptied)
  | rewritten h => exact .rewritten (hrewritten h)

/-- What may have become of a tree. -/
def Touched (sc : Scope) (t t' : FileTree) : Prop := ∀ l, Touch sc l (t.get? l) (t'.get? l)

theorem Touched.refl (sc : Scope) (t : FileTree) : Touched sc t t := fun _ => .same _

theorem Touched.trans (h : Touched sc t t') (h' : Touched sc t' t'') : Touched sc t t'' :=
  fun l => (h l).trans (h' l)

theorem Touched.mono (h : Touched sc t t') (hemptied : ∀ l, sc.emptied l → sc'.emptied l)
    (hmade : ∀ l, sc.made l → sc'.made l) (hwritten : ∀ l, sc.written l → sc'.written l)
    (hrewritten : ∀ l, sc.rewritten l → sc'.rewritten l) : Touched sc' t t' :=
  fun l => (h l).mono (hemptied l) (hmade l) (hwritten l) (hrewritten l)

/-! ## Changing one location -/

theorem touched_write (octets : List UInt8) (h : sc.written l)
    (hfree : t.get? l = none ∨ sc.emptied l) : Touched sc t (t.put l (.file octets)) := by
  intro l'
  by_cases hnil : l' = []
  · rw [hnil, get?_nil, get?_nil]
    exact .same _
  · by_cases heq : l' = l
    · subst heq
      rw [get?_put_self hnil]
      exact .written h hfree
    · rw [get?_put_of_ne heq]
      exact .same _

theorem touched_rewrite {before : List UInt8} (after : List UInt8) (h : sc.rewritten l)
    (hfile : t.get? l = some (.file before)) : Touched sc t (t.put l (.file after)) := by
  have hne : l ≠ [] := ne_nil_of_file hfile
  intro l'
  by_cases heq : l' = l
  · subst heq
    rw [get?_put_self hne, hfile]
    exact .rewritten h
  · rw [get?_put_of_ne heq]
    exact .same _

theorem Grown.touched {new : Location → Prop} (h : Grown new t t')
    (hmade : ∀ l, new l → sc.made l) : Touched sc t t' := by
  intro l
  rcases h l with heq | ⟨hnone, hdir, hnew⟩
  · rw [heq]
    exact .same _
  · rw [hdir]
    exact .made (hmade l hnew) (Or.inl hnone)

theorem touched_clear {top : Location} (h : ∀ l, top <+: l → sc.emptied l) (t : FileTree) :
    Touched sc t (t.clear top) := by
  intro l
  by_cases hbelow : isBelow top l = true
  · rw [get?_clear_below hbelow]
    exact .removed (h l (isBelow_iff.mp hbelow).1)
  · rw [get?_clear_of_not hbelow]
    exact .same _

theorem touched_cleared {top : Location} (h : ∀ l, top <+: l → sc.emptied l) (t : FileTree) :
    Touched sc t (cleared t top) := by
  apply (touched_clear h t).trans
  intro l
  by_cases hnil : l = []
  · rw [hnil, get?_nil, get?_nil]
    exact .same _
  · by_cases heq : l = top
    · subst heq
      rw [cleared, get?_erase_self hnil]
      exact .removed (h l (List.prefix_refl l))
    · rw [cleared, get?_erase_of_ne heq]
      exact .same _

/-! ## Operations -/

namespace Operation

variable {here : Location} {p : Path}

theorem writeText_ends (here : Location) (p : Path) (text : String) (t : FileTree) :
    Ends (writeText here p text) t (fun t' => t' = t) fun _ t' =>
      t.Passes (start here p) p.segments ∧ t.get? (resolve here p) ≠ some .directory ∧
        t' = t.put (resolve here p) (.file (Text.encode text)) := by
  refine ⟨fun h => writeText_eq_ok_iff.mp h, ?_⟩
  intro fault t' h
  simp only [writeText, bind, EStateM.bind, locate_run, get, getThe, MonadStateOf.get,
    get_run] at h
  cases hlocate : t.locate here p with
  | error fault' =>
      rw [hlocate] at h
      cases h
      rfl
  | ok l =>
      rw [hlocate] at h
      by_cases hdir : t.isDirectory l = true
      · simp only [hdir, if_true] at h
        cases h
        rfl
      · simp only [hdir] at h
        cases h

theorem makeUnlessThere_ends (here : Location) (p : Path) (t : FileTree) :
    Ends (makeUnlessThere here p) t (fun t' => t' = t) fun _ t' =>
      Grown (OnWay here p) t t' ∧ t'.pathIsDirectory here p = true := by
  refine ⟨fun h => makeUnlessThere_grown h, ?_⟩
  intro fault t' h
  rcases makeUnlessThere_cases here p t with ⟨_, hrun⟩ | ⟨hrun, -⟩ | ⟨hrun, -⟩
  · rw [hrun] at h
    cases h
    rfl
  · rw [hrun] at h
    cases h
  · rw [hrun] at h
    cases h

/-- Directories that were made stay if making the next one fails. -/
theorem makeDirectoriesBack_ends (here : Location) (root : String) (back : List String)
    (t : FileTree) : Ends (makeDirectoriesBack here root back) t
      (Grown (OnWay here ⟨root, back.reverse⟩) t) fun _ t' =>
        Grown (OnWay here ⟨root, back.reverse⟩) t t' ∧
          t'.pathIsDirectory here ⟨root, back.reverse⟩ = true := by
  induction back with
  | nil =>
      refine (makeUnlessThere_ends here ⟨root, []⟩ t).mono ?_ fun _ _ h => h
      rintro _ rfl
      exact Grown.refl _ _
  | cons s above ih =>
      rw [makeDirectoriesBack]
      apply (makeUnlessThere_ends here ⟨root, (s :: above).reverse⟩ t).tryCatch
      rintro fault _ rfl
      split
      · apply (ih.mono (fun t' h => h.mono fun _ => onWay_of_above)
          fun _ t' h => h.1.mono fun _ => onWay_of_above).bind
        intro _ t₁ hgrown
        refine (makeUnlessThere_ends here ⟨root, (s :: above).reverse⟩ t₁).mono ?_ ?_
        · rintro _ rfl
          exact hgrown
        · exact fun _ t' h => ⟨hgrown.trans h.1, h.2⟩
      · exact ends_throw (Grown.refl _ _)

theorem makeDirectories_ends (here : Location) (p : Path) (t : FileTree) :
    Ends (makeDirectories here p) t (Grown (OnWay here p) t) fun _ t' =>
      Grown (OnWay here p) t t' ∧ t'.pathIsDirectory here p = true := by
  have hends := makeDirectoriesBack_ends here p.root p.segments.reverse t
  rw [List.reverse_reverse] at hends
  exact hends

theorem removeDirectory_ends (here : Location) (p : Path) (t : FileTree) :
    Ends (removeDirectory here p) t (fun t' => t' = t) fun _ t' => t' = t.erase (resolve here p) := by
  refine ⟨fun h => (removeDirectory_of_ok h).2, ?_⟩
  intro fault t' h
  rw [removeDirectory] at h
  cases hlast : p.segments.getLast? with
  | none =>
      rw [hlast] at h
      cases h
      rfl
  | some name =>
      rw [hlast] at h
      simp only [bind, EStateM.bind, locate_run] at h
      cases hlocate : t.locate here p with
      | error fault' =>
          rw [hlocate] at h
          cases h
          rfl
      | ok l =>
          rw [hlocate] at h
          by_cases hup : name = Path.up
          · simp only [hup, if_true] at h
            cases h
            rfl
          · simp only [hup, if_false, EStateM.bind, locate_run, hlocate] at h
            cases h

theorem removeTree_ends (here : Location) (p : Path) (t : FileTree) :
    Ends (removeTree here p) t (fun t' => t' = t ∨ t' = t.clear (resolve here p))
      fun _ t' => t' = cleared t (resolve here p) := by
  refine ⟨fun h => (removeTree_of_ok h).2.2, ?_⟩
  intro fault t' h
  simp only [removeTree, bind, EStateM.bind, locate_run, get, getThe, MonadStateOf.get,
    get_run] at h
  cases hlocate : t.locate here p with
  | error fault' =>
      rw [hlocate] at h
      cases h
      exact Or.inl rfl
  | ok l =>
      obtain ⟨-, rfl⟩ := FileTree.locate_eq_ok_iff.mp hlocate
      rw [hlocate] at h
      cases hget : t.get? (resolve here p) with
      | none =>
          simp only [hget] at h
          cases h
          exact Or.inl rfl
      | some item =>
          simp only [hget] at h
          cases item with
          | file octets =>
              cases h
              exact Or.inl rfl
          | directory =>
              exact Or.inr ((removeDirectory_ends here p (t.clear (resolve here p))).of_error h)

/-- Resetting a directory takes away what is at it and below, and makes directories on
the way to it. -/
theorem resetDirectory_ends (hemptied : ∀ l, resolve here p <+: l → sc.emptied l)
    (hmade : ∀ l, OnWay here p l → sc.made l) (t : FileTree) :
    Ends (resetDirectory here p) t (Touched sc t) fun _ t' =>
      Touched sc t t' ∧ t'.pathIsDirectory here p = true := by
  have hmake : ∀ t₁, Touched sc t t₁ → Ends (makeDirectories here p) t₁ (Touched sc t) fun _ t' =>
      Touched sc t t' ∧ t'.pathIsDirectory here p = true := by
    intro t₁ h
    refine (makeDirectories_ends here p t₁).mono ?_ ?_
    · exact fun t' hgrown => h.trans (hgrown.touched hmade)
    · exact fun _ t' hgrown => ⟨h.trans (hgrown.1.touched hmade), hgrown.2⟩
  rw [resetDirectory]
  apply ends_get_bind
  split
  · have hremove : Ends (removeTree here p) t (Touched sc t) fun _ => Touched sc t := by
      refine (removeTree_ends here p t).mono ?_ ?_
      · rintro t' (rfl | rfl)
        · exact Touched.refl sc _
        · exact touched_clear hemptied t
      · rintro _ t' rfl
        exact touched_cleared hemptied t
    exact hremove.bind fun _ t₁ h => hmake t₁ h
  · exact hmake t (Touched.refl sc t)

end Operation

end ConnectClients.FileTree
