import Mathlib.Data.List.Perm.Basic
import ConnectClients.Proofs.Files.Operation
import ConnectClients.Proofs.Text.Order

/-!
# Listing files

The files that are listed are those that are there. Their order comes from their names
alone, so that trees with the same files below a directory give the same list.
-/

namespace ConnectClients.FileTree

open Location (resolve)

variable {t t' : FileTree} {here : Location} {dir : Path} {ending : String}

theorem mem_items_iff {l : Location} {item : Item} (h : l ≠ []) :
    (l, item) ∈ t.items ↔ t.get? l = some item := by
  rw [get?_of_ne_nil t h]
  constructor
  · intro hmem
    obtain ⟨before, after, heq⟩ := List.append_of_mem hmem
    refine List.lookup_eq_some_iff.mpr ⟨before, after, heq, ?_⟩
    intro e he
    rw [bne_iff_ne]
    have hnodup := t.nodup
    rw [heq, List.map_append, List.nodup_append] at hnodup
    exact fun hsame => hnodup.2.2 _ (List.mem_map_of_mem he) l (by simp) hsame.symm
  · intro hitem
    obtain ⟨before, after, heq, -⟩ := List.lookup_eq_some_iff.mp hitem
    rw [heq]
    exact List.mem_append_right _ List.mem_cons_self

/-- What holds of the root and of every item's location holds wherever something is. -/
theorem forall_there_of_items {P : Location → Prop} (hroot : P []) (h : ∀ e ∈ t.items, P e.1)
    (l : Location) (hl : t.get? l ≠ none) : P l := by
  by_cases hnil : l = []
  · rw [hnil]
    exact hroot
  · obtain ⟨item, hitem⟩ := Option.ne_none_iff_exists'.mp hl
    exact h (l, item) ((mem_items_iff hnil).mpr hitem)

theorem mem_filesBelow_iff {top : Location} {m : List String} {octets : List UInt8} :
    (m, octets) ∈ t.filesBelow top ↔ m ≠ [] ∧ t.get? (top ++ m) = some (.file octets) := by
  rw [filesBelow, List.mem_filterMap]
  constructor
  · rintro ⟨⟨l, item⟩, hmem, hfound⟩
    cases item with
    | directory => cases hfound
    | file found =>
        simp only [Option.ite_none_right_eq_some, Option.some.injEq, Prod.mk.injEq] at hfound
        obtain ⟨hbelow, rfl, rfl⟩ := hfound
        obtain ⟨rest, hrest, rfl⟩ := exists_of_isBelow hbelow
        rw [List.drop_left]
        exact ⟨hrest, (mem_items_iff (by simp [hrest])).mp hmem⟩
  · rintro ⟨hne, hfile⟩
    refine ⟨(top ++ m, .file octets), (mem_items_iff (by simp [hne])).mpr hfile, ?_⟩
    simp only [isBelow_append hne, List.drop_left, if_true]

/-- A listed file is there, below the directory that the path leads to. -/
theorem mem_listFiles_iff {m : List String} : m ∈ t.listFiles here dir ending ↔
    t.pathIsDirectory here dir = true ∧ m ≠ [] ∧
      (∃ octets, t.get? (resolve here dir ++ m) = some (.file octets)) ∧
      ∃ name ∈ m.getLast?, ending.toList <:+ name.toList := by
  rw [pathIsDirectory_iff, listFiles]
  cases hlocate : t.locate here dir with
  | error fault =>
      simp [not_passes_of_locate hlocate]
  | ok top =>
      obtain ⟨hpasses, rfl⟩ := locate_eq_ok_iff.mp hlocate
      by_cases hdir : t.get? (resolve here dir) = some .directory
      · have hthere : t.isDirectory (resolve here dir) = true := by rw [isDirectory, hdir]; rfl
        simp only [hthere, if_true, hpasses, hdir, true_and]
        rw [Text.mem_sortWords, List.mem_filter, List.mem_map]
        constructor
        · rintro ⟨⟨⟨m', octets⟩, hmem, rfl⟩, hname⟩
          obtain ⟨hne, hfile⟩ := mem_filesBelow_iff.mp hmem
          refine ⟨hne, ⟨octets, hfile⟩, ?_⟩
          obtain ⟨name, hlast, hsuffix⟩ := (Option.any_eq_true _ _).mp hname
          exact ⟨name, hlast, List.isSuffixOf_iff_suffix.mp hsuffix⟩
        · rintro ⟨hne, ⟨octets, hfile⟩, name, hlast, hsuffix⟩
          refine ⟨⟨(m, octets), mem_filesBelow_iff.mpr ⟨hne, hfile⟩, rfl⟩, ?_⟩
          exact (Option.any_eq_true _ _).mpr ⟨name, hlast, List.isSuffixOf_iff_suffix.mpr hsuffix⟩
      · have hno : t.isDirectory (resolve here dir) = false := by simpa [isDirectory] using hdir
        simp [hno, hdir]

theorem filesBelow_nodup (t : FileTree) (top : Location) :
    ((t.filesBelow top).map Prod.fst).Nodup := by
  rw [filesBelow, List.map_filterMap]
  refine List.pairwise_filterMap.mpr (List.Pairwise.imp ?_ (List.pairwise_map.mp t.nodup))
  rintro ⟨l, item⟩ ⟨l', item'⟩ hne m hm m' hm' rfl
  cases item with
  | directory => cases hm
  | file octets =>
      cases item' with
      | directory => cases hm'
      | file octets' =>
          simp only [Option.map_if, Option.ite_none_right_eq_some, Option.some.injEq] at hm hm'
          obtain ⟨⟨rest, rfl⟩, -⟩ := isBelow_iff.mp hm.1
          obtain ⟨⟨rest', rfl⟩, -⟩ := isBelow_iff.mp hm'.1
          rw [List.drop_left] at hm hm'
          exact hne (by rw [hm.2, hm'.2])

/-- Every file is listed once, in the order of the paths. -/
theorem listFiles_sorted (t : FileTree) (here : Location) (dir : Path) (ending : String) :
    (t.listFiles here dir ending).Nodup ∧
      (t.listFiles here dir ending).Pairwise fun a b => Text.wordsLE a b = true := by
  rw [listFiles]
  cases t.locate here dir with
  | error fault => exact ⟨List.nodup_nil, List.Pairwise.nil⟩
  | ok top =>
      by_cases hthere : t.isDirectory top = true
      · simp only [hthere, if_true]
        refine ⟨?_, Text.pairwise_sortWords _⟩
        exact (Text.sortWords_perm _).nodup_iff.mpr ((t.filesBelow_nodup top).filter _)
      · simp only [hthere]
        exact ⟨List.nodup_nil, List.Pairwise.nil⟩

/-- Files that stand in order are listed as they stand. -/
theorem listFiles_of_sorted {top : Location} {listed : List (List String)}
    (hlocate : t.locate here dir = .ok top) (hthere : t.isDirectory top = true)
    (hfiles : ((t.filesBelow top).map Prod.fst).filter (fun segments =>
      segments.getLast?.any fun name => ending.toList.isSuffixOf name.toList) = listed)
    (hsorted : listed.Pairwise fun a b => Text.wordsLE a b = true) :
    t.listFiles here dir ending = listed := by
  rw [listFiles, hlocate]
  dsimp only
  rw [if_pos hthere, hfiles]
  exact List.mergeSort_of_pairwise hsorted

/-- The files that are listed are listed in the same order. -/
theorem listFiles_eq_of_mem_iff
    (h : ∀ m, m ∈ t'.listFiles here dir ending ↔ m ∈ t.listFiles here dir ending) :
    t'.listFiles here dir ending = t.listFiles here dir ending := by
  obtain ⟨hnodup', hpairs'⟩ := listFiles_sorted t' here dir ending
  obtain ⟨hnodup, hpairs⟩ := listFiles_sorted t here dir ending
  exact Text.eq_of_perm hpairs' hpairs ((List.perm_ext_iff_of_nodup hnodup' hnodup).mpr h)

/-- The list depends only on what is there below the directory. -/
theorem listFiles_congr (hdir : t'.pathIsDirectory here dir = t.pathIsDirectory here dir)
    (h : ∀ m, m ≠ [] → t'.get? (resolve here dir ++ m) = t.get? (resolve here dir ++ m)) :
    t'.listFiles here dir ending = t.listFiles here dir ending := by
  apply listFiles_eq_of_mem_iff
  intro m
  rw [mem_listFiles_iff, mem_listFiles_iff, hdir]
  by_cases hm : m = []
  · simp [hm]
  · rw [h m hm]

end ConnectClients.FileTree
