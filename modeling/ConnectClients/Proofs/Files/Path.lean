import Mathlib.Data.List.Basic
import ConnectClients.Files.Path

/-!
# Where paths lead

A path leads from its start along its segments, and through every location on the way
there. Without two dots each of these lies above the next one.
-/

namespace ConnectClients

namespace Location

theorem along_append (l : Location) (first second : List String) :
    along l (first ++ second) = along (along l first) second := by
  induction first generalizing l with
  | nil => rfl
  | cons s rest ih =>
      rw [List.cons_append, along, along]
      by_cases h : s = Path.up
      · rw [if_pos h, if_pos h, ih]
      · rw [if_neg h, if_neg h, ih]

theorem along_cons (l : Location) (s : String) (rest : List String) :
    along l (s :: rest) = along (along l [s]) rest :=
  along_append l [s] rest

theorem along_name (l : Location) {s : String} (h : s ≠ Path.up) : along l [s] = l ++ [s] := by
  rw [along, if_neg h]
  rfl

theorem along_up (l : Location) : along l [Path.up] = l.dropLast := by
  rw [along, if_pos rfl]
  rfl

theorem along_concat_name (l : Location) (first : List String) {s : String} (h : s ≠ Path.up) :
    along l (first ++ [s]) = along l first ++ [s] := by
  rw [along_append, along_name _ h]

theorem along_of_no_up (l : Location) {segments : List String} (h : Path.up ∉ segments) :
    along l segments = l ++ segments := by
  induction segments generalizing l with
  | nil => simp [along]
  | cons s rest ih =>
      rw [List.mem_cons, not_or] at h
      rw [along, if_neg (Ne.symm h.1), ih _ h.2, List.append_assoc, List.singleton_append]

/-- Where paths are followed from. -/
def start (here : Location) (p : Path) : Location := if p.root.isEmpty then here else []

theorem resolve_eq (here : Location) (p : Path) : resolve here p = along (start here p) p.segments :=
  rfl

/-- A path leads through what its proper leading parts lead to. -/
def Through (here : Location) (p : Path) (l : Location) : Prop :=
  ∃ lead s rest, p.segments = lead ++ s :: rest ∧ l = along (start here p) lead

theorem forall_through_iff {here : Location} {p : Path} {known : Location → Prop} :
    (∀ l, Through here p l → known l) ↔
      ∀ n < p.segments.length, known (along (start here p) (p.segments.take n)) := by
  constructor
  · intro h n hn
    refine h _ ⟨p.segments.take n, p.segments[n], p.segments.drop (n + 1), ?_, rfl⟩
    rw [List.getElem_cons_drop, List.take_append_drop]
  · rintro h l ⟨lead, s, rest, hsegments, rfl⟩
    have htake := h lead.length (by simp [hsegments])
    rwa [hsegments, List.take_left] at htake

/-- A path that ends in a name leads through what its other parts lead to. -/
theorem through_iff {here : Location} {p : Path} {dirs : List String} {name : String}
    (hsegments : p.segments = dirs ++ [name]) {l : Location} :
    Through here p l ↔ ∃ lead rest, dirs = lead ++ rest ∧ l = along (start here p) lead := by
  constructor
  · rintro ⟨lead, s, rest, hlead, rfl⟩
    have hrest : s :: rest ≠ [] := List.cons_ne_nil _ _
    refine ⟨lead, (s :: rest).dropLast, ?_, rfl⟩
    rw [← List.dropLast_append_of_ne_nil hrest, ← hlead, hsegments, List.dropLast_concat]
  · rintro ⟨lead, rest, rfl, rfl⟩
    cases rest with
    | nil => exact ⟨lead, name, [], by rw [hsegments, List.append_nil], rfl⟩
    | cons s rest => exact ⟨lead, s, rest ++ [name], by rw [hsegments]; simp, rfl⟩

/-- What is in one of two directories that are apart is not in the other one. -/
theorem not_prefix_of_apart {top other l : Location} (h : ¬ top <+: other ∧ ¬ other <+: top)
    (hl : other <+: l) : ¬ top <+: l := by
  intro habove
  rcases List.prefix_or_prefix_of_prefix habove hl with hle | hle
  · exact h.1 hle
  · exact h.2 hle

end Location

namespace Path

/-! ## Paths of entries -/

theorem splitOn_of_not_mem {sep : Char} {cs : List Char} (h : sep ∉ cs) :
    Text.splitOn sep cs = [cs] := by
  induction cs with
  | nil => rfl
  | cons c cs ih =>
      rw [List.mem_cons, not_or] at h
      rw [Text.splitOn, if_neg (Ne.symm h.1), ih h.2]

/-- A name of a file: it is not empty, it is not a dot or two, and has no slash. -/
structure IsName (name : String) : Prop where
  no_slash : '/' ∉ name.toList
  ne_empty : name ≠ ""
  ne_dot : name ≠ "."
  ne_up : name ≠ up

theorem IsName.ofString {name : String} (h : IsName name) : ofString name = ⟨"", [name]⟩ := by
  have hroot : rootOf name.toList = "" := by
    cases hcs : name.toList with
    | nil => rfl
    | cons c cs =>
        have hc : c ≠ '/' := by
          rintro rfl
          exact h.no_slash (by rw [hcs]; exact List.mem_cons_self)
        unfold rootOf
        split
        · rename_i heq
          exact absurd (List.cons.inj heq).1 hc
        · rename_i heq
          exact absurd (List.cons.inj heq).1 hc
        · rename_i heq
          exact absurd (List.cons.inj heq).1 hc
        · rfl
  have hsegment : isSegment name.toList = true := by
    have hne : name.toList ≠ [] := fun hnil => h.ne_empty (String.toList_eq_nil_iff.mp hnil)
    have hdot : name.toList ≠ ['.'] := by
      intro hdot
      apply h.ne_dot
      rw [← String.toList_inj, hdot]
      rfl
    simp [isSegment, hne, hdot]
  rw [Path.ofString, hroot, splitOn_of_not_mem h.no_slash, List.filter_cons_of_pos hsegment]
  simp

theorem child_of_isName (p : Path) {name : String} (h : IsName name) :
    p.child name = ⟨p.root, p.segments ++ [name]⟩ := by
  rw [child, h.ofString]
  rfl

end Path

namespace Location

theorem resolve_child (here : Location) (p : Path) {name : String} (h : Path.IsName name) :
    resolve here (p.child name) = resolve here p ++ [name] := by
  rw [Path.child_of_isName p h]
  exact along_concat_name (start here p) p.segments h.ne_up

end Location

end ConnectClients
