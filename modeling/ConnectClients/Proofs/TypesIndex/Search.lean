import Mathlib.Data.Finset.Card
import Mathlib.Data.Finset.Dedup
import ConnectClients.Proofs.TypesIndex.Builder

/-!
# The search for a free name

A name is given out by a search that has no bound of its own: the name asked for is tested first,
and behind a name that is taken comes the one with the next number. The names that a search passes
are taken and pairwise different, so that there are no more of them than names taken, and the name
that it ends with is the free name.
-/

namespace ConnectClients.TypesIndex

variable {taken : List String} {name found : String}

/-! ## Searches -/

/-- Where a search stands: the name to be tested, and the number that the one behind it has. -/
structure Search where
  candidate : String
  number : Nat

namespace Search

/-- A search begins with the name asked for. -/
def start (name : String) : Search := ⟨name, 2⟩

def next (name : String) (s : Search) : Search := ⟨name ++ toString s.number, s.number + 1⟩

/-- A search ends with a name after some tests: the last of them finds the name free, and each one
before it finds one taken. -/
inductive Ends (taken : List String) (name : String) : Search → Nat → String → Prop where
  | free {s : Search} : s.candidate ∉ taken → Ends taken name s 1 s.candidate
  | pass {s : Search} {tests : Nat} {found : String} : s.candidate ∈ taken →
      Ends taken name (s.next name) tests found → Ends taken name s (tests + 1) found

/-- A search ends in one way only. -/
theorem Ends.unique {s : Search} {tests tests' : Nat} {found' : String}
    (h : Ends taken name s tests found) (h' : Ends taken name s tests' found') :
    tests' = tests ∧ found' = found := by
  induction h generalizing tests' with
  | free hfree =>
      cases h' with
      | free => exact ⟨rfl, rfl⟩
      | pass htaken => exact absurd htaken hfree
  | pass htaken _ ih =>
      cases h' with
      | free hfree => exact absurd htaken hfree
      | pass _ hrest =>
          obtain ⟨rfl, rfl⟩ := ih hrest
          exact ⟨rfl, rfl⟩

end Search

/-! ## The names that are tested -/

/-- The name that is tested after `passed` others. -/
def tested (name : String) : Nat → String
  | 0 => name
  | passed + 1 => name ++ toString (passed + 2)

theorem candidates_eq (name : String) (count : Nat) :
    candidates name count = (List.range (count + 1)).map (tested name) := by
  rw [candidates, List.range_succ_eq_map, List.map_cons, List.map_map]
  rfl

/-- No name is tested twice. -/
theorem tested_injective (name : String) : Function.Injective (tested name) := by
  intro i j h
  have hnodup := candidates_nodup name (max i j)
  rw [candidates_eq] at hnodup
  refine List.inj_on_of_nodup_map hnodup ?_ ?_ h
  · exact List.mem_range.mpr (by omega)
  · exact List.mem_range.mpr (by omega)

/-- A search that has passed some names. -/
def Search.behind (name : String) (passed : Nat) : Search := ⟨tested name passed, passed + 2⟩

/-- Names that are taken are passed, and the first one that is not ends the search. -/
theorem Search.ends_of_passes (passed more : Nat)
    (hpassed : ∀ i < more, tested name (passed + i) ∈ taken)
    (hfree : tested name (passed + more) ∉ taken) :
    (behind name passed).Ends taken name (more + 1) (tested name (passed + more)) := by
  induction more generalizing passed with
  | zero => exact Ends.free hfree
  | succ more ih =>
      refine Ends.pass (hpassed 0 (Nat.zero_lt_succ more)) ?_
      have hshift : ∀ i, passed + 1 + i = passed + (i + 1) := fun i => by omega
      have hrest := ih (passed + 1)
        (fun i hi => hshift i ▸ hpassed (i + 1) (Nat.succ_lt_succ hi)) (hshift more ▸ hfree)
      rwa [hshift more] at hrest

/-- The free name is the first of the names tested that is not taken. -/
theorem freeName_first (taken : List String) (name : String) :
    ∃ passed, freeName taken name = tested name passed ∧ tested name passed ∉ taken ∧
      ∀ i < passed, tested name i ∈ taken := by
  obtain ⟨found, hfind⟩ := Option.isSome_iff_exists.mp (freeName_find?_isSome taken name)
  have heq : freeName taken name = found := by rw [freeName, hfind, Option.getD_some]
  rw [candidates_eq, List.find?_eq_some_iff_getElem] at hfind
  obtain ⟨hfree, passed, hlt, hget, hpassed⟩ := hfind
  rw [List.getElem_map, List.getElem_range] at hget
  subst hget
  refine ⟨passed, heq, by simpa using hfree, fun i hi => ?_⟩
  have htaken := hpassed i hi
  rw [List.getElem_map, List.getElem_range] at htaken
  simpa using htaken

/-- There are no more names passed than names taken. -/
theorem passed_le_card {passed : Nat} (h : ∀ i < passed, tested name i ∈ taken) :
    passed ≤ taken.toFinset.card := by
  have hmaps : Set.MapsTo (tested name) (Finset.range passed) taken.toFinset := by
    intro i hi
    exact List.mem_toFinset.mpr (h i (Finset.mem_range.mp hi))
  have hle := Finset.card_le_card_of_injOn (tested name) hmaps (tested_injective name).injOn
  rwa [Finset.card_range] at hle

/-! ## Names given out -/

/-- How a name is given out besides those taken: the search ends with it, after one test more than
there are names taken at the latest, and in no other way; it is none of these; and it is the name
asked for, or, if that is taken, the one with the least number behind it, from two on, that is
free. -/
structure GivenOut (taken : List String) (name found : String) : Prop where
  ends : ∃ tests ≤ taken.toFinset.card + 1,
    (Search.start name).Ends taken name tests found ∧
      ∀ tests' found', (Search.start name).Ends taken name tests' found' →
        tests' = tests ∧ found' = found
  free : found ∉ taken
  itself : name ∉ taken → found = name
  least : name ∈ taken → ∃ number ≥ 2, found = name ++ toString number ∧
    ∀ n ≥ 2, n < number → name ++ toString n ∈ taken

theorem givenOut_freeName (taken : List String) (name : String) :
    GivenOut taken name (freeName taken name) := by
  obtain ⟨passed, heq, hfree, hpassed⟩ := freeName_first taken name
  rw [heq]
  have hends : (Search.start name).Ends taken name (passed + 1) (tested name passed) := by
    have hbehind : (Search.behind name 0).Ends taken name (passed + 1) (tested name (0 + passed)) :=
      Search.ends_of_passes 0 passed (by simpa using hpassed) (by simpa using hfree)
    rwa [Nat.zero_add] at hbehind
  refine ⟨⟨passed + 1, Nat.succ_le_succ (passed_le_card hpassed), hends, ?_⟩, hfree,
    fun hname => ?_, fun hname => ?_⟩
  · exact fun tests' found' h => hends.unique h
  · cases passed with
    | zero => rfl
    | succ passed => exact absurd (hpassed 0 (Nat.zero_lt_succ passed)) hname
  · cases passed with
    | zero => exact absurd hname hfree
    | succ passed =>
        refine ⟨passed + 2, Nat.le_add_left 2 passed, rfl, fun n hn hlt => ?_⟩
        obtain ⟨i, rfl⟩ := Nat.exists_eq_add_of_le' hn
        exact hpassed (i + 1) (by omega)

/-- **How the index gives out names.** Aliases, the export names of a module and namespaces are
given out in the same way, and all that changes is that the name is taken from then on. -/
theorem names_given_out (b : Builder) (taken : List String) (moduleKey name : String) :
    (GivenOut b.aliases name (b.claimAlias name).1 ∧
      (b.claimAlias name).2 = { b with aliases := (b.claimAlias name).1 :: b.aliases }) ∧
    (GivenOut (b.exportsOf moduleKey) name (b.claimExport moduleKey name).1 ∧
      (moduleKey, (b.claimExport moduleKey name).1) ∉ b.exports ∧
      (b.claimExport moduleKey name).2 =
        { b with exports := (moduleKey, (b.claimExport moduleKey name).1) :: b.exports }) ∧
    GivenOut taken name (claimNamespace taken name).1 ∧
      (claimNamespace taken name).2 = (claimNamespace taken name).1 :: taken := by
  have hexport := givenOut_freeName (b.exportsOf moduleKey) name
  refine ⟨⟨givenOut_freeName b.aliases name, rfl⟩, ⟨hexport, ?_, rfl⟩,
    givenOut_freeName taken name, rfl⟩
  exact fun hmem => hexport.free (Builder.mem_exportsOf.mpr hmem)

-- The number is the least that is free, not one more than the greatest that is taken.
example : claimNamespace ["Root", "Root2", "Root4"] "Root" =
    ("Root3", ["Root3", "Root", "Root2", "Root4"]) := by decide +kernel

end ConnectClients.TypesIndex
