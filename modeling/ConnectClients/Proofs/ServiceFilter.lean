import ConnectClients.Proofs.Pattern.Faults
import ConnectClients.ServiceFilter

/-!
# Patterns that stop the filter

A text that is not written as a pattern is searched for as it stands. A pattern that is refused for
a count or for its switches stops the filter, if the filter gets to it: patterns behind one that
accepts the name are not read.
-/

namespace ConnectClients

open Pattern (PatternFault Explains)

/-- The first of some elements that something is found at is the head, or stands behind it. -/
theorem exists_split_cons_iff {α : Type} {P : List α → α → Prop} {a : α} {rest : List α} :
    (∃ before x after, a :: rest = before ++ x :: after ∧ P before x) ↔
      P [] a ∨ ∃ before x after, rest = before ++ x :: after ∧ P (a :: before) x := by
  constructor
  · rintro ⟨before, x, after, hsplit, h⟩
    rcases List.cons_eq_append_iff.mp hsplit with ⟨rfl, hcons⟩ | ⟨before, rfl, rfl⟩
    · obtain ⟨rfl, rfl⟩ := List.cons.inj hcons
      exact Or.inl h
    · exact Or.inr ⟨before, x, after, rfl, h⟩
  · rintro (h | ⟨before, x, after, rfl, h⟩)
    · exact ⟨[], a, rest, rfl, h⟩
    · exact ⟨a :: before, x, after, rfl, h⟩

theorem not_exists_split_nil {α : Type} {P : List α → α → Prop} :
    ¬ ∃ before x after, [] = before ++ x :: after ∧ P before x := by
  rintro ⟨before, x, after, hsplit, -⟩
  exact List.append_ne_nil_of_right_ne_nil before (List.cons_ne_nil x after) hsplit.symm

theorem ServicePattern.ofText_error {text : String} {fault : PatternFault}
    (h : ofText text = .error fault) : fault ≠ .malformed ∧ Explains text.toList fault := by
  unfold ofText at h
  split at h
  · cases h
  · cases h
  · rename_i fault' hmalformed hread
    cases h
    exact ⟨hmalformed, Pattern.Node.read_error hread⟩

namespace ServiceFilter

variable {name : String} {fault : PatternFault} {p : String} {ps : List String}

/-- The filter gets to a pattern that it cannot read: it can read those before, and none accepts the
name. -/
def StopsAt (name : String) (patterns : List String) (fault : PatternFault) : Prop :=
  ∃ before p after, patterns = before ++ p :: after ∧
    (∀ q ∈ before, ∃ pattern, ServicePattern.ofText q = .ok pattern ∧ pattern.accepts name = false) ∧
    ServicePattern.ofText p = .error fault

theorem stopsAt_cons_iff : StopsAt name (p :: ps) fault ↔ ServicePattern.ofText p = .error fault ∨
    ∃ pattern, ServicePattern.ofText p = .ok pattern ∧ pattern.accepts name = false ∧
      StopsAt name ps fault := by
  rw [StopsAt, exists_split_cons_iff]
  constructor
  · rintro (⟨-, hp⟩ | ⟨before, q, after, hsplit, hbefore, hq⟩)
    · exact Or.inl hp
    · obtain ⟨⟨pattern, hok, hno⟩, hbefore⟩ := List.forall_mem_cons.mp hbefore
      exact Or.inr ⟨pattern, hok, hno, before, q, after, hsplit, hbefore, hq⟩
  · rintro (hp | ⟨pattern, hok, hno, before, q, after, hsplit, hbefore, hq⟩)
    · exact Or.inl ⟨List.forall_mem_nil _, hp⟩
    · refine Or.inr ⟨before, q, after, hsplit, ?_, hq⟩
      exact List.forall_mem_cons.mpr ⟨⟨pattern, hok, hno⟩, hbefore⟩

theorem matchesAny_eq_error_iff : matchesAny name ps = .error fault ↔ StopsAt name ps fault := by
  induction ps with
  | nil => exact iff_of_false (by simp [matchesAny]) not_exists_split_nil
  | cons p ps ih =>
      rw [matchesAny, stopsAt_cons_iff, ← ih]
      cases ServicePattern.ofText p with
      | error fault' => simp
      | ok pattern => cases haccepts : pattern.accepts name <;> simp [haccepts]

/-- A pattern that stops the filter has a count or switches in its text that it is refused for. -/
theorem StopsAt.explained (h : StopsAt name ps fault) :
    fault ≠ .malformed ∧ ∃ p ∈ ps, Explains p.toList fault := by
  obtain ⟨before, p, after, rfl, -, hp⟩ := h
  obtain ⟨hfault, hexplains⟩ := ServicePattern.ofText_error hp
  exact ⟨hfault, p, by simp, hexplains⟩

theorem includes_eq_error_iff {include? : Option (List String)} :
    includes name include? = .error fault ↔
      ∃ patterns ∈ include?, wildcard ∉ patterns ∧ StopsAt name patterns fault := by
  cases include? with
  | none => simp [includes]
  | some patterns =>
      rw [includes]
      by_cases hall : wildcard ∈ patterns
      · simp [hall]
      · simp [hall, matchesAny_eq_error_iff]

theorem excludes_eq_error_iff {exclude? : Option (List String)} :
    excludes name exclude? = .error fault ↔ StopsAt name (exclude?.getD []) fault :=
  matchesAny_eq_error_iff

/-- The exclude list is looked at only if the include list lets the service in. -/
theorem generates_eq_error_iff {include? exclude? : Option (List String)} :
    generates name include? exclude? = .error fault ↔
      includes name include? = .error fault ∨
        includes name include? = .ok true ∧ excludes name exclude? = .error fault := by
  unfold generates
  cases includes name include? with
  | error fault' => simp [bind, Except.bind]
  | ok passes =>
      cases passes with
      | false => simp [bind, Except.bind, pure, Except.pure]
      | true => cases excludes name exclude? <;> simp [bind, Except.bind, pure, Except.pure]

end ServiceFilter

end ConnectClients
