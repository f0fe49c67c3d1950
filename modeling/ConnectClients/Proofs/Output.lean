import Mathlib.Data.List.Basic
import ConnectClients.Output
import ConnectClients.Proofs.Action
import ConnectClients.Proofs.Files.Closed
import ConnectClients.Proofs.Files.Reset

/-!
# Directories of output

A directory holds some files exactly if they are in it as they were written and nothing
else is in it or below. Resetting a directory leaves it with nothing, provided that its
path leads there and does not run through what is removed.
-/

namespace ConnectClients

open Runs
open Location (along start resolve Through)

namespace FileTree

/-! ## Directories that hold exactly some files -/

/-- A directory is there, with these files in it and nothing else below it. -/
structure Holds (t : FileTree) (dir : Location) (files : List (String × String)) : Prop where
  there : t.get? dir = some .directory
  below_iff : ∀ rest item, rest ≠ [] → (t.get? (dir ++ rest) = some item ↔
    ∃ f ∈ files, rest = [f.1] ∧ item = .file (Text.encode f.2))

theorem holds_nil {t : FileTree} {dir : Location} (h : t.get? dir = some .directory)
    (hempty : ∀ rest, rest ≠ [] → t.get? (dir ++ rest) = none) : t.Holds dir [] where
  there := h
  below_iff rest item hrest := by simp [hempty rest hrest]

theorem Holds.of_same {t t' : FileTree} {dir : Location} {files : List (String × String)}
    (h : t.Holds dir files) (hsame : ∀ rest, t'.get? (dir ++ rest) = t.get? (dir ++ rest)) :
    t'.Holds dir files where
  there := by
    have hdir := hsame []
    rw [List.append_nil] at hdir
    rw [hdir, h.there]
  below_iff rest item hrest := by rw [hsame rest, h.below_iff rest item hrest]

/-- Writing a file with a new name. -/
theorem Holds.put {t : FileTree} {dir : Location} {files : List (String × String)}
    (h : t.Holds dir files) {f : String × String} (hnew : f.1 ∉ files.map Prod.fst) :
    (t.put (dir ++ [f.1]) (.file (Text.encode f.2))).Holds dir (files ++ [f]) where
  there := by
    rw [get?_put_of_ne (by simp), h.there]
  below_iff rest item hrest := by
    by_cases heq : rest = [f.1]
    · subst heq
      rw [get?_put_self (by simp)]
      constructor
      · intro hitem
        exact ⟨f, by simp, rfl, (Option.some.inj hitem).symm⟩
      · rintro ⟨g, hg, hname, rfl⟩
        rcases List.mem_append.mp hg with hg | hg
        · have hsame : f.1 = g.1 := List.cons.inj hname |>.1
          exact absurd (List.mem_map.mpr ⟨g, hg, hsame.symm⟩) hnew
        · rw [List.mem_singleton.mp hg]
    · have hne : dir ++ rest ≠ dir ++ [f.1] := fun happ => heq (List.append_cancel_left happ)
      rw [get?_put_of_ne hne, h.below_iff rest item hrest]
      constructor
      · rintro ⟨g, hg, hname, hitem⟩
        exact ⟨g, List.mem_append_left _ hg, hname, hitem⟩
      · rintro ⟨g, hg, hname, hitem⟩
        rcases List.mem_append.mp hg with hg | hg
        · exact ⟨g, hg, hname, hitem⟩
        · rw [List.mem_singleton.mp hg] at hname
          exact absurd hname heq

/-- What is put elsewhere does not matter. -/
theorem Holds.put_apart {t : FileTree} {dir l : Location} {files : List (String × String)}
    (h : t.Holds dir files) (hl : ¬ dir <+: l) (item : Item) : (t.put l item).Holds dir files := by
  apply h.of_same
  intro rest
  apply get?_put_of_ne
  rintro rfl
  exact hl (List.prefix_append dir rest)

/-- Files written into a directory one after the other. -/
def putFiles (dir : Location) (files : List (String × String)) (t : FileTree) : FileTree :=
  files.foldl (fun t f => t.put (dir ++ [f.1]) (.file (Text.encode f.2))) t

theorem putFiles_append (dir : Location) (files more : List (String × String)) (t : FileTree) :
    t.putFiles dir (files ++ more) = (t.putFiles dir files).putFiles dir more :=
  List.foldl_append

theorem name_not_mem {files more : List (String × String)} {f : String × String}
    (h : ((files ++ f :: more).map Prod.fst).Nodup) : f.1 ∉ files.map Prod.fst := by
  intro hmem
  rw [List.map_append, List.map_cons] at h
  exact (List.nodup_append.mp h).2.2 _ hmem _ List.mem_cons_self rfl

theorem Holds.putFiles {t : FileTree} {dir : Location} {files more : List (String × String)}
    (h : t.Holds dir files) (hnd : ((files ++ more).map Prod.fst).Nodup) :
    (t.putFiles dir more).Holds dir (files ++ more) := by
  induction more generalizing t files with
  | nil =>
      rw [List.append_nil]
      exact h
  | cons f more ih =>
      have hrest := ih (h.put (name_not_mem hnd)) (by rw [List.append_assoc]; exact hnd)
      rw [List.append_assoc] at hrest
      exact hrest

theorem Holds.putFiles_apart {t : FileTree} {dir other : Location}
    {files more : List (String × String)} (h : t.Holds dir files) (hother : ¬ other <+: dir)
    (hdir : ¬ dir <+: other) : (t.putFiles other more).Holds dir files := by
  induction more generalizing t with
  | nil => exact h
  | cons f more ih =>
      apply ih
      apply h.put_apart
      intro habove
      rcases List.prefix_concat_iff.mp habove with heq | habove
      · exact hother (heq ▸ List.prefix_append other [f.1])
      · exact hdir habove

/-- What is below a directory is one of its files. -/
theorem Holds.file_of_below {t : FileTree} {dir l : Location} {files : List (String × String)}
    {item : Item} (h : t.Holds dir files) (hbelow : isBelow dir l = true)
    (hl : t.get? l = some item) : ∃ f ∈ files, item = .file (Text.encode f.2) := by
  obtain ⟨rest, hrest, rfl⟩ := exists_of_isBelow hbelow
  obtain ⟨f, hf, -, hfile⟩ := (h.below_iff rest item hrest).mp hl
  exact ⟨f, hf, hfile⟩

theorem Holds.not_below {t : FileTree} {dir l : Location} {files : List (String × String)}
    (h : t.Holds dir files) (hl : t.get? l = some .directory) : ¬ isBelow dir l = true := by
  intro hbelow
  obtain ⟨f, -, hfile⟩ := h.file_of_below hbelow hl
  exact absurd hfile (by simp)

theorem Holds.none_below {t : FileTree} {dir l : Location} (h : t.Holds dir [])
    (hbelow : isBelow dir l = true) : t.get? l = none := by
  by_contra hsome
  obtain ⟨item, hitem⟩ := Option.ne_none_iff_exists'.mp hsome
  obtain ⟨f, hf, -⟩ := h.file_of_below hbelow hitem
  exact List.not_mem_nil hf

theorem get?_putFiles_of_not {t : FileTree} {dir l : Location} (files : List (String × String))
    (hl : ¬ isBelow dir l = true) : (t.putFiles dir files).get? l = t.get? l := by
  induction files generalizing t with
  | nil => rfl
  | cons f files ih =>
      have hne : l ≠ dir ++ [f.1] := by
        rintro rfl
        exact hl (isBelow_append (by simp))
      rw [FileTree.putFiles, List.foldl_cons]
      exact ih.trans (get?_put_of_ne hne _ t)

theorem get?_putFiles_of_name {t : FileTree} {dir : Location} {files : List (String × String)}
    {name : String} (h : name ∉ files.map Prod.fst) :
    (t.putFiles dir files).get? (dir ++ [name]) = t.get? (dir ++ [name]) := by
  induction files generalizing t with
  | nil => rfl
  | cons f rest ih =>
      rw [List.map_cons, List.mem_cons, not_or] at h
      refine (ih h.2).trans (get?_put_of_ne ?_ _ t)
      intro heq
      exact h.1 (List.cons.inj (List.append_cancel_left heq)).1

theorem get?_putFiles_of_mem {t : FileTree} {dir : Location} {files : List (String × String)}
    {f : String × String} (hnodup : (files.map Prod.fst).Nodup) (hf : f ∈ files) :
    (t.putFiles dir files).get? (dir ++ [f.1]) = some (.file (Text.encode f.2)) := by
  induction files generalizing t with
  | nil => exact absurd hf List.not_mem_nil
  | cons g rest ih =>
      obtain ⟨hnew, hnodup⟩ := List.nodup_cons.mp hnodup
      rcases List.mem_cons.mp hf with rfl | hf
      · exact (get?_putFiles_of_name hnew).trans (get?_put_self (by simp) _ t)
      · exact ih hnodup hf

theorem Holds.putFiles_closed {t : FileTree} {dir : Location}
    {files more : List (String × String)} (h : t.Holds dir files) (hc : t.Closed)
    (hnd : ((files ++ more).map Prod.fst).Nodup) : (t.putFiles dir more).Closed := by
  induction more generalizing t files with
  | nil => exact hc
  | cons f more ih =>
      have hno : t.get? (dir ++ [f.1]) ≠ some .directory := by
        intro hdir
        exact h.not_below hdir (isBelow_append (by simp))
      refine ih (h.put (name_not_mem hnd)) (hc.put ?_ (Or.inl hno)) ?_
      · intro _
        rw [List.dropLast_concat, h.there]
      · rw [List.append_assoc]
        exact hnd

/-! ## Directories that are reset -/

variable {here : Location} {p : Path} {t t' : FileTree}

/-- A directory that is reset is empty afterwards. If something was there, its path has
to have led to it; and its path must not run through anything below it. -/
theorem resetDirectory_holds {u : Unit} (h : Operation.resetDirectory here p t = .ok u t')
    (hinside : ∀ l, Through here p l → ¬ isBelow (resolve here p) l = true)
    (hreached : t.get? (resolve here p) = none ∨
      ∀ l, Through here p l → t.get? l = some .directory)
    (hbelow : t.get? (resolve here p) = none →
      ∀ rest, rest ≠ [] → t.get? (resolve here p ++ rest) = none) :
    t'.Holds (resolve here p) [] := by
  obtain ⟨hdir, hcases⟩ := Operation.resetDirectory_of_ok h
  obtain ⟨hpasses, hthere⟩ := pathIsDirectory_iff.mp hdir
  have hnothing : t.get? (resolve here p) = none →
      ∀ l, isBelow (resolve here p) l = true → t.get? l = none := by
    intro hnone l hl
    obtain ⟨rest, hrest, rfl⟩ := exists_of_isBelow hl
    exact hbelow hnone rest hrest
  have hleads : LeadsTo here p t := by
    refine ⟨hinside, ?_⟩
    rcases hreached with hnone | hdirs
    · exact Or.inl (hnothing hnone)
    · rcases hcases with ⟨-, hend, -, -⟩ | ⟨hno, -⟩
      · right
        intro l hl
        rcases onWay_iff.mp hl with hthrough | rfl
        · exact hdirs l hthrough
        · exact hend
      · exact Or.inl (hnothing (pathExists_eq_false hno (passes_of_through hpasses hdirs)))
  exact holds_nil hthere fun rest hrest =>
    Operation.resetDirectory_emptied h hleads (isBelow_append hrest)

/-- Elsewhere, resetting a directory adds directories on the way to it at most. -/
theorem resetDirectory_apart {u : Unit} (h : Operation.resetDirectory here p t = .ok u t')
    {l : Location} (hl : ¬ resolve here p <+: l) :
    t'.get? l = t.get? l ∨ (t.get? l = none ∧ Through here p l) := by
  rcases Operation.resetDirectory_kept h fun hbelow => hl (isBelow_iff.mp hbelow).1 with
    heq | ⟨hnone, -, hway⟩
  · exact Or.inl heq
  · rcases onWay_iff.mp hway with hthrough | rfl
    · exact Or.inr ⟨hnone, hthrough⟩
    · exact absurd (List.prefix_refl _) hl

/-- A directory keeps what it holds when another one is reset. -/
theorem Holds.reset_apart {dir : Location} {files : List (String × String)} {u : Unit}
    (hholds : t.Holds dir files) (h : Operation.resetDirectory here p t = .ok u t')
    (hout : ¬ resolve here p <+: dir) (hin : ¬ dir <+: resolve here p)
    (hthrough : ∀ l, Through here p l → ¬ isBelow dir l = true) : t'.Holds dir files := by
  apply hholds.of_same
  intro rest
  have hapart : ¬ resolve here p <+: dir ++ rest :=
    Location.not_prefix_of_apart ⟨hout, hin⟩ (List.prefix_append dir rest)
  rcases resetDirectory_apart h hapart with heq | ⟨hnone, hway⟩
  · exact heq
  · by_cases hrest : rest = []
    · rw [hrest, List.append_nil, hholds.there] at hnone
      exact absurd hnone (by simp)
    · exact absurd (isBelow_append hrest) (hthrough _ hway)

/-- A path that was below some location and is so no more has led to the location. -/
theorem along_leaves {top l : Location} {segments : List String} (hin : isBelow top l = true)
    (hout : ¬ isBelow top (along l segments) = true) :
    ∃ lead rest, segments = lead ++ rest ∧ along l lead = top := by
  induction segments generalizing l with
  | nil => exact absurd hin hout
  | cons s rest ih =>
      rw [Location.along_cons l s rest] at hout
      by_cases hstill : isBelow top (along l [s]) = true
      · obtain ⟨lead, behind, rfl, htop⟩ := ih hstill hout
        exact ⟨s :: lead, behind, rfl, by rw [Location.along_cons l s lead]; exact htop⟩
      · refine ⟨[s], rest, rfl, ?_⟩
        obtain ⟨more, hmore, rfl⟩ := exists_of_isBelow hin
        by_cases hup : s = Path.up
        · subst hup
          rw [Location.along_up, List.dropLast_append_of_ne_nil hmore] at hstill ⊢
          by_contra hdrop
          exact hstill (isBelow_iff.mpr ⟨List.prefix_append _ _, hdrop⟩)
        · rw [Location.along_name _ hup, List.append_assoc] at hstill
          exact absurd (isBelow_append (by simp)) hstill

/-- A path that runs below where it leads to has led there before. -/
theorem through_resolve {dirs : List String} {name : String}
    (hsegments : p.segments = dirs ++ [name]) (hname : name ≠ Path.up) {l : Location}
    (hthrough : Through here p l) (hbelow : isBelow (resolve here p) l = true) :
    Through here p (resolve here p) := by
  rw [Location.through_iff hsegments] at hthrough ⊢
  obtain ⟨lead, mid, rfl, rfl⟩ := hthrough
  have hend : resolve here p = along (start here p) (lead ++ mid) ++ [name] := by
    rw [Location.resolve_eq, hsegments, Location.along_concat_name _ _ hname]
  -- the last step goes down to the end of the path, so that it starts outside of it
  have hout : ¬ isBelow (resolve here p) (along (along (start here p) lead) mid) = true := by
    rw [← Location.along_append, hend]
    intro hinside
    have hlen := (isBelow_iff.mp hinside).1.length_le
    simp only [List.length_append, List.length_singleton] at hlen
    omega
  obtain ⟨first, last, rfl, hfirst⟩ := along_leaves hbelow hout
  refine ⟨lead ++ first, last, (List.append_assoc _ _ _).symm, ?_⟩
  rw [Location.along_append, hfirst]

/-- The path of a directory that was reset does not run below it, if it passed before. -/
theorem not_below_of_resetDirectory {u : Unit} {dirs : List String} {name : String}
    (hsegments : p.segments = dirs ++ [name]) (hname : name ≠ Path.up)
    (hpasses : t.Passes (start here p) p.segments)
    (h : Operation.resetDirectory here p t = .ok u t') :
    ∀ l, Through here p l → ¬ isBelow (resolve here p) l = true := by
  intro l hthrough hbelow
  have hdir := hpasses.directory (through_resolve hsegments hname hthrough hbelow)
  obtain ⟨-, ⟨-, -, hclear, -⟩ | ⟨hno, -⟩⟩ := Operation.resetDirectory_of_ok h
  · -- with all that is below removed, the path does not pass any more
    have hthere := hclear.directory hthrough
    rw [get?_clear_below hbelow] at hthere
    exact absurd hthere (by simp)
  · rw [pathExists_eq_false hno hpasses] at hdir
    exact absurd hdir (by simp)

/-- What a leading part of a path leads to is a directory if the path leads to one. -/
theorem pathIsDirectory_lead {lead rest : List String} (hsegments : p.segments = lead ++ rest)
    (h : t.pathIsDirectory here p = true) : t.pathIsDirectory here ⟨p.root, lead⟩ = true := by
  obtain ⟨hpasses, hdir⟩ := pathIsDirectory_iff.mp h
  have hlead : t.Passes (start here p) lead := by
    rw [hsegments, passes_append] at hpasses
    exact hpasses.1
  refine pathIsDirectory_iff.mpr ⟨hlead, ?_⟩
  cases rest with
  | nil =>
      rw [Location.resolve_eq, hsegments, List.append_nil] at hdir
      exact hdir
  | cons s rest => exact hpasses.directory ⟨lead, s, rest, hsegments, rfl⟩

/-- Writing a file where no directory is makes no directory, and takes none away. -/
theorem directory_put_iff {t : FileTree} {l l' : Location} {octets : List UInt8} (hne : l ≠ [])
    (hno : t.get? l ≠ some .directory) :
    (t.put l (.file octets)).get? l' = some .directory ↔ t.get? l' = some .directory := by
  by_cases heq : l' = l
  · subst heq
    rw [get?_put_self hne]
    simp [hno]
  · rw [get?_put_of_ne heq]

end FileTree

namespace Output

open FileTree

/-! ## Writing -/

variable {here : Location} {dir path : Path} {name text : String} {w w' : Workspace}

/-- What is written into a directory is one file, where no directory is. -/
theorem writeInto_of_ok (hname : Path.IsName name) (h : writeInto here dir name text w = .ok path w') :
    w.tree.get? (resolve here dir ++ [name]) ≠ some .directory ∧
      w'.tree = w.tree.put (resolve here dir ++ [name]) (.file (Text.encode text)) := by
  obtain ⟨_, w₁, hwrite, hpath⟩ := bind_eq_ok_iff.mp h
  obtain ⟨-, rfl⟩ := pure_eq_ok_iff.mp hpath
  obtain ⟨t, htext, rfl⟩ := Action.operate_eq_ok_iff.mp hwrite
  obtain ⟨-, hno, rfl⟩ := Operation.writeText_eq_ok_iff.mp htext
  rw [Location.resolve_child here dir hname] at hno ⊢
  exact ⟨hno, rfl⟩

theorem writeInto_directory_iff (hname : Path.IsName name)
    (h : writeInto here dir name text w = .ok path w') (l : Location) :
    w'.tree.get? l = some .directory ↔ w.tree.get? l = some .directory := by
  obtain ⟨hno, heq⟩ := writeInto_of_ok hname h
  rw [heq]
  exact directory_put_iff (by simp) hno

theorem makeDirectories_of_directory {u : Unit} (hdir : w.tree.pathIsDirectory here dir = true)
    (h : makeDirectories here dir w = .ok u w') : w' = w := by
  obtain ⟨t, hmake, rfl⟩ := Action.operate_eq_ok_iff.mp h
  rw [Operation.makeDirectories_of_directory hdir] at hmake
  cases hmake
  rfl

theorem isName_indexName : Path.IsName indexName where
  no_slash := by decide
  ne_empty := by decide
  ne_dot := by decide
  ne_up := by decide

theorem isName_transportName : Path.IsName transportName where
  no_slash := by decide
  ne_empty := by decide
  ne_dot := by decide
  ne_up := by decide

theorem writeTypesIndex_of_ok (hdir : w.tree.pathIsDirectory here dir = true)
    (h : writeTypesIndex here dir text w = .ok path w') :
    w'.tree = w.tree.put (resolve here dir ++ [indexName]) (.file (Text.encode text)) := by
  obtain ⟨_, w₁, hmake, hwrite⟩ := bind_eq_ok_iff.mp h
  obtain rfl := makeDirectories_of_directory hdir hmake
  exact (writeInto_of_ok isName_indexName hwrite).2

/-- The shared module is written into its directory if nothing is there yet. -/
theorem writeTransport_of_ok (hdir : w.tree.pathIsDirectory here dir = true)
    (h : writeTransport here dir text w = .ok path w') :
    (w.tree.get? (resolve here dir ++ [transportName]) ≠ none ∧ w'.tree = w.tree) ∨
      (w.tree.get? (resolve here dir ++ [transportName]) = none ∧
        w'.tree = w.tree.put (resolve here dir ++ [transportName]) (.file (Text.encode text))) := by
  rw [writeTransport, bind_eq_ok_iff] at h
  obtain ⟨t, w₁, htree, h⟩ := h
  obtain ⟨rfl, rfl⟩ := Action.tree_eq_ok_iff.mp htree
  rw [← Location.resolve_child here dir isName_transportName]
  split at h
  · rename_i hthere
    obtain ⟨-, rfl⟩ := pure_eq_ok_iff.mp h
    exact Or.inl ⟨(pathExists_iff.mp hthere).2, rfl⟩
  · rename_i hno
    obtain ⟨_, w₂, hmake, hwrite⟩ := bind_eq_ok_iff.mp h
    obtain rfl := makeDirectories_of_directory hdir hmake
    refine Or.inr ⟨?_, ?_⟩
    · exact pathExists_eq_false (by simpa using hno)
        (passes_child isName_transportName (by decide) hdir)
    · rw [(writeInto_of_ok isName_transportName hwrite).2,
        Location.resolve_child here dir isName_transportName]

end Output

end ConnectClients
