import Mathlib.Data.List.DropRight
import ConnectClients.Proofs.Discovery
import ConnectClients.Proofs.Text.Marks

/-!
# Paths that are handed on

A path that is handed on as a text is read as the same path again. Where it leads then depends on
where it is followed from: a relative path leads some directories up and some names down from there,
so from two directories it leads to the same place only if they agree that far up.
-/

namespace ConnectClients

open Location (along resolve start)

namespace Path

/-! ## Reading a path that was written -/

theorem IsName.isSegment {name : String} (h : IsName name) : Path.isSegment name.toList = true := by
  have hne : name.toList ≠ [] := fun hnil => h.ne_empty (String.toList_eq_nil_iff.mp hnil)
  have hdot : name.toList ≠ ['.'] := fun hdot => h.ne_dot (String.toList_inj.mp hdot)
  simp [Path.isSegment, hne, hdot]

/-- What the root of a path can be. -/
def IsRoot (root : String) : Prop := root = "" ∨ root = "/" ∨ root = "//"

theorem rootOf_append {root : String} (hroot : IsRoot root) {cs : List Char}
    (h : cs.head? ≠ some '/') : rootOf (root.toList ++ cs) = root := by
  cases cs with
  | nil => rcases hroot with rfl | rfl | rfl <;> rfl
  | cons c cs =>
      have hc : c ≠ '/' := fun hc => h (by rw [hc]; rfl)
      rcases hroot with rfl | rfl | rfl <;> simp [rootOf, hc]

/-- A root adds pieces that are no segments. -/
theorem filter_splitOn_append {root : String} (hroot : IsRoot root) (cs : List Char) :
    (Text.splitOn '/' (root.toList ++ cs)).filter isSegment =
      (Text.splitOn '/' cs).filter isSegment := by
  rcases hroot with rfl | rfl | rfl <;> simp [Text.splitOn, isSegment]

/-- Paths as they are read from texts. -/
structure IsTidy (p : Path) : Prop where
  isRoot : IsRoot p.root
  isSegment : ∀ s ∈ p.segments, Path.isSegment s.toList = true
  no_slash : ∀ s ∈ p.segments, '/' ∉ s.toList

theorem isRoot_rootOf (cs : List Char) : IsRoot (rootOf cs) := by
  unfold rootOf IsRoot
  split <;> simp

theorem isTidy_ofString (s : String) : (ofString s).IsTidy where
  isRoot := isRoot_rootOf s.toList
  isSegment := by
    intro segment hsegment
    obtain ⟨piece, hpiece, rfl⟩ := List.mem_map.mp hsegment
    rw [String.toList_ofList]
    exact (List.mem_filter.mp hpiece).2
  no_slash := by
    intro segment hsegment
    obtain ⟨piece, hpiece, rfl⟩ := List.mem_map.mp hsegment
    rw [String.toList_ofList]
    exact Text.sep_not_mem_of_mem_splitOn (List.mem_filter.mp hpiece).1

variable {p : Path}

theorem IsTidy.child (h : p.IsTidy) {name : String} (hname : IsName name) :
    (p.child name).IsTidy := by
  rw [child_of_isName p hname]
  refine ⟨h.isRoot, ?_, ?_⟩
  · intro s hs
    rcases List.mem_append.mp hs with hs | hs
    · exact h.isSegment s hs
    · rw [List.mem_singleton.mp hs]
      exact hname.isSegment
  · intro s hs
    rcases List.mem_append.mp hs with hs | hs
    · exact h.no_slash s hs
    · rw [List.mem_singleton.mp hs]
      exact hname.no_slash

/-- The text of the segments does not begin with a slash. -/
theorem IsTidy.head_slashed (h : p.IsTidy) : (slashed p.segments).toList.head? ≠ some '/' := by
  cases hsegments : p.segments with
  | nil => decide
  | cons s rest =>
      have hs : s ∈ p.segments := hsegments ▸ List.mem_cons_self
      have hlead : s.toList <+: (slashed (s :: rest)).toList := by
        by_cases hrest : rest = []
        · have htext : slashed [s] = s := String.intercalate_singleton
          rw [hrest]
          exact htext.symm ▸ List.prefix_refl _
        · rw [slashed_cons hrest]
          exact List.prefix_append _ _
      have hsegment := h.isSegment s hs
      cases hcs : s.toList with
      | nil =>
          rw [hcs] at hsegment
          exact absurd hsegment (by decide)
      | cons c cs =>
          obtain ⟨after, hafter⟩ := hlead
          rw [← hafter, hcs]
          intro hslash
          obtain rfl : c = '/' := Option.some.inj hslash
          exact h.no_slash s hs (hcs ▸ List.mem_cons_self)

theorem IsTidy.splitOn_slashed_eq (h : p.IsTidy) :
    ((Text.splitOn '/' (slashed p.segments).toList).filter Path.isSegment).map String.ofList =
      p.segments := by
  by_cases hnil : p.segments = []
  · rw [hnil]
    rfl
  · rw [splitOn_slashed hnil h.no_slash, List.filter_eq_self.mpr, List.map_map]
    · exact List.map_id'' (fun s => String.ofList_toList) p.segments
    · intro cs hcs
      obtain ⟨s, hs, rfl⟩ := List.mem_map.mp hcs
      exact h.isSegment s hs

/-- **A path is read as it was written.** -/
theorem IsTidy.ofString_toString (h : p.IsTidy) : ofString p.toString = p := by
  by_cases hempty : (p.root.isEmpty && p.segments.isEmpty) = true
  · -- the path that has nothing is written as a dot
    rw [toString, if_pos hempty]
    rw [Bool.and_eq_true, String.isEmpty_iff, List.isEmpty_iff] at hempty
    obtain ⟨root, segments⟩ := p
    obtain ⟨rfl, rfl⟩ := hempty
    decide
  · rw [toString, if_neg hempty, ofString, String.toList_append,
      rootOf_append h.isRoot h.head_slashed, filter_splitOn_append h.isRoot, h.splitOn_slashed_eq]

end Path

/-! ## Where relative paths lead -/

/-- Where segments lead in all: some directories up, and from there to some names. -/
structure Bearing where
  up : Nat := 0
  down : List String := []
  deriving DecidableEq, Repr

namespace Bearing

/-- One segment more. Two dots take the last name back, if there is one. -/
def turn (b : Bearing) (s : String) : Bearing :=
  if s = Path.up then
    if b.down = [] then { b with up := b.up + 1 } else { b with down := b.down.dropLast }
  else { b with down := b.down ++ [s] }

/-- Where a bearing leads from a location. -/
def leads (b : Bearing) (l : Location) : Location := l.rdrop b.up ++ b.down

theorem dropLast_rdrop (l : Location) (n : Nat) : (l.rdrop n).dropLast = l.rdrop (n + 1) := by
  rw [List.rdrop, List.rdrop, List.dropLast_eq_take, List.take_take, List.length_take]
  congr 1
  omega

variable (b : Bearing) (l : Location)

theorem leads_turn (s : String) : (b.turn s).leads l = along (b.leads l) [s] := by
  rw [turn]
  by_cases hs : s = Path.up
  · rw [if_pos hs, hs, Location.along_up]
    by_cases hdown : b.down = []
    · rw [if_pos hdown, Bearing.leads, Bearing.leads, hdown, List.append_nil, List.append_nil,
        dropLast_rdrop]
    · rw [if_neg hdown, Bearing.leads, Bearing.leads, List.dropLast_append_of_ne_nil hdown]
  · rw [if_neg hs, Location.along_name _ hs, Bearing.leads, Bearing.leads, List.append_assoc]

theorem leads_foldl (segments : List String) :
    (segments.foldl turn b).leads l = along (b.leads l) segments := by
  induction segments generalizing b with
  | nil => rfl
  | cons s rest ih => rw [List.foldl_cons, ih, leads_turn, ← Location.along_cons]

end Bearing

namespace Path

/-- Where a path leads in all. -/
def bearing (p : Path) : Bearing := p.segments.foldl Bearing.turn {}

end Path

namespace Location

variable {p : Path} {l l' : Location}

theorem resolve_eq_leads (h : p.root = "") (l : Location) : resolve l p = p.bearing.leads l := by
  rw [resolve_eq, start, h, Path.bearing, Bearing.leads_foldl]
  simp [Bearing.leads]

/-- An absolute path leads to one place. -/
theorem resolve_of_root (h : p.root ≠ "") (l l' : Location) : resolve l p = resolve l' p := by
  have hroot : p.root.isEmpty = false := by simpa using h
  rw [resolve, resolve, hroot]
  rfl

/-- From two directories, a relative path leads to the same place if they agree as far up as it
leads. -/
theorem resolve_eq_resolve_iff :
    resolve l p = resolve l' p ↔ p.root ≠ "" ∨ l.rdrop p.bearing.up = l'.rdrop p.bearing.up := by
  by_cases hroot : p.root = ""
  · rw [resolve_eq_leads hroot, resolve_eq_leads hroot, Bearing.leads, Bearing.leads,
      List.append_left_inj, or_iff_right (not_not_intro hroot)]
  · exact iff_of_true (resolve_of_root hroot l l') (Or.inl hroot)

/-- Followed once more from where it leads to, a relative path leads nowhere else if it leads as far
up as down, or at least as far and up to the root. -/
theorem resolve_again_iff :
    resolve (resolve l p) p = resolve l p ↔ p.root ≠ "" ∨ p.bearing.down.length = p.bearing.up ∨
      (p.bearing.down.length ≤ p.bearing.up ∧ l.length ≤ p.bearing.up) := by
  rw [resolve_eq_resolve_iff]
  by_cases hroot : p.root = ""
  · rw [or_iff_right (not_not_intro hroot), or_iff_right (not_not_intro hroot),
      resolve_eq_leads hroot, Bearing.leads]
    have hlength : (l.rdrop p.bearing.up).length = l.length - p.bearing.up := by
      rw [List.rdrop, List.length_take]
      omega
    -- what is cut off the second time is as long as what was added the first time
    constructor
    · intro h
      have hcut := congrArg List.length h
      rw [List.rdrop, List.length_take, List.length_append, hlength] at hcut
      omega
    · intro h
      have hcut : (l.rdrop p.bearing.up ++ p.bearing.down).length - p.bearing.up =
          (l.rdrop p.bearing.up).length := by
        rw [List.length_append, hlength]
        omega
      rw [List.rdrop, hcut, List.take_left]
  · exact iff_of_true (Or.inl hroot) (Or.inl hroot)

end Location

end ConnectClients
