import ConnectClients.Proofs.Files.Listing
import ConnectClients.Proofs.Generation.Clients
import ConnectClients.Proofs.Output

/-!
# Runs that succeed again

Where a run succeeds, it succeeds with the same value from a state that differs by no more than one
file which is there already, and the states that are left differ by no more.
-/

namespace ConnectClients

open Runs
open Location (resolve start)

namespace Runs

variable {ε σ α β : Type} {related : σ → σ → Prop}

/-- What succeeds from one state succeeds with the same value from every related one, and leaves
states that are related again. -/
def Repeats (related : σ → σ → Prop) (x : EStateM ε σ α) : Prop :=
  ∀ s s' a s₁, related s s' → x s = .ok a s₁ → ∃ s₁', x s' = .ok a s₁' ∧ related s₁ s₁'

theorem repeats_pure (a : α) : Repeats related (pure a : EStateM ε σ α) := by
  intro s s' b s₁ h hrun
  obtain ⟨rfl, rfl⟩ := pure_eq_ok_iff.mp hrun
  exact ⟨s', rfl, h⟩

theorem Repeats.bind {x : EStateM ε σ α} {f : α → EStateM ε σ β} (hx : Repeats related x)
    (hf : ∀ a, Repeats related (f a)) : Repeats related (x >>= f) := by
  intro s s' b s₂ h hrun
  obtain ⟨a, s₁, hfirst, hrest⟩ := bind_eq_ok_iff.mp hrun
  obtain ⟨s₁', hfirst', h₁⟩ := hx s s' a s₁ h hfirst
  obtain ⟨s₂', hrest', h₂⟩ := hf a s₁ s₁' b s₂ h₁ hrest
  exact ⟨s₂', by rw [bind_eq_of_ok hfirst', hrest'], h₂⟩

end Runs

namespace Action

variable {α ε : Type} {related : FileTree → FileTree → Prop}

/-- What succeeds succeeds again where only the trees differ. -/
abbrev Repeats (related : FileTree → FileTree → Prop) (x : Action α) : Prop :=
  Runs.Repeats (fun w w' => related w.tree w'.tree) x

theorem repeats_record (r : LogRecord) : Repeats related (record r) := by
  intro w w' u w₁ h hrun
  obtain rfl := record_eq_ok_iff.mp hrun
  exact ⟨_, record_eq_ok_iff.mpr rfl, h⟩

theorem repeats_ofExcept (wrap : ε → Failure) (x : Except ε α) :
    Repeats related (ofExcept wrap x) := by
  intro w w' a w₁ h hrun
  obtain ⟨hx, rfl⟩ := ofExcept_eq_ok_iff.mp hrun
  exact ⟨w', ofExcept_eq_ok_iff.mpr ⟨hx, rfl⟩, h⟩

theorem repeats_operate {wrap : OsFault → Failure} {op : FileTree.Operation α}
    (hop : Runs.Repeats related op) : Repeats related (operate wrap op) := by
  intro w w' a w₁ h hrun
  obtain ⟨t, ht, rfl⟩ := operate_eq_ok_iff.mp hrun
  obtain ⟨t', ht', h'⟩ := hop _ _ a t h ht
  exact ⟨_, operate_eq_ok_iff.mpr ⟨t', ht', rfl⟩, h'⟩

end Action

/-! ## One more file -/

namespace FileTree

variable {x l : Location} {octets : List UInt8} {t t' : FileTree} {here : Location} {p : Path}

/-- Something is at a location of the second tree, and that is all that the first may miss. -/
structure Gained (x : Location) (octets : List UInt8) (t t' : FileTree) : Prop where
  there : t'.get? x ≠ none
  same : ∀ l, t'.get? l = t.get? l ∨
    (l = x ∧ t.get? l = none ∧ t'.get? l = some (.file octets))

theorem Gained.directory_iff (h : Gained x octets t t') (l : Location) :
    t'.get? l = some .directory ↔ t.get? l = some .directory := by
  rcases h.same l with heq | ⟨-, hnone, hfile⟩
  · rw [heq]
  · simp [hnone, hfile]

theorem Gained.put (h : Gained x octets t t') (l : Location) (item : Item) :
    Gained x octets (t.put l item) (t'.put l item) := by
  have hput : ∀ (u : FileTree) (l' : Location), (u.put l item).get? l' =
      if l' = l ∧ l' ≠ [] then some item else u.get? l' := by
    intro u l'
    by_cases heq : l' = l
    · subst heq
      by_cases hnil : l' = []
      · rw [if_neg fun hboth => hboth.2 hnil, hnil, get?_nil, get?_nil]
      · rw [if_pos ⟨rfl, hnil⟩, get?_put_self hnil]
    · rw [if_neg fun hboth => heq hboth.1, get?_put_of_ne heq]
  constructor
  · rw [hput]
    split
    · simp
    · exact h.there
  · intro l'
    rw [hput, hput]
    split
    · exact Or.inl rfl
    · exact h.same l'

theorem Gained.pathIsDirectory (h : Gained x octets t t') (here : Location) (p : Path) :
    t'.pathIsDirectory here p = t.pathIsDirectory here p :=
  pathIsDirectory_eq_of_directories h.directory_iff here p

/-- The file is not listed if its name is of another kind. -/
theorem Gained.listFiles {dir : Location} {name ending : String}
    (h : Gained (dir ++ [name]) octets t t') (hending : ¬ ending.toList <:+ name.toList) :
    t'.listFiles here p ending = t.listFiles here p ending := by
  apply listFiles_eq_of_mem_iff
  intro m
  rw [mem_listFiles_iff, mem_listFiles_iff, h.pathIsDirectory]
  refine and_congr_right fun _ => and_congr_right fun hne => and_congr_left fun hname => ?_
  obtain ⟨last, hlast, hsuffix⟩ := hname
  rcases h.same (resolve here p ++ m) with heq | ⟨heq, -, -⟩
  · rw [heq]
  · have hsame := congrArg List.getLast? heq
    rw [List.getLast?_append, hlast, List.getLast?_concat, Option.some_or, Option.some.injEq] at hsame
    exact absurd (hsame ▸ hsuffix) hending

theorem Operation.repeats_writeText (here : Location) (p : Path) (text : String) :
    Repeats (Gained x octets) (Operation.writeText here p text) := by
  intro t t' u t₁ h hrun
  obtain ⟨hpasses, hno, rfl⟩ := Operation.writeText_eq_ok_iff.mp hrun
  refine ⟨_, Operation.writeText_eq_ok_iff.mpr ⟨?_, ?_, rfl⟩, h.put _ _⟩
  · exact hpasses.mono fun l => (h.directory_iff l).mpr
  · exact mt (h.directory_iff _).mp hno

end FileTree

/-! ## Writing the output once more -/

open FileTree (Gained)

variable {x : Location} {octets : List UInt8} {here : Location} {r : Request}

namespace Output

theorem repeats_writeInto (here : Location) (dir : Path) (name text : String) :
    Action.Repeats (Gained x octets) (writeInto here dir name text) :=
  (Action.repeats_operate (FileTree.Operation.repeats_writeText here _ text)).bind
    fun _ => repeats_pure _

/-- The index of the types is written again into the directory that is there. -/
theorem exists_writeTypesIndex {dir path : Path} {text : String} {w w' w₁ : Workspace}
    (hdir : w.tree.pathIsDirectory here dir = true) (hgained : Gained x octets w.tree w'.tree)
    (h : writeTypesIndex here dir text w = .ok path w₁) :
    ∃ w₁', writeTypesIndex here dir text w' = .ok path w₁' ∧ Gained x octets w₁.tree w₁'.tree := by
  have hdir' : w'.tree.pathIsDirectory here dir = true := by
    rw [hgained.pathIsDirectory, hdir]
  have hmake : ∀ {w : Workspace}, w.tree.pathIsDirectory here dir = true →
      makeDirectories here dir w = .ok () w := by
    intro w hdir
    rw [makeDirectories, Action.operate, FileTree.Operation.makeDirectories_of_directory hdir]
  rw [writeTypesIndex, bind_eq_of_ok (hmake hdir)] at h
  rw [writeTypesIndex, bind_eq_of_ok (hmake hdir')]
  exact repeats_writeInto here dir indexName text w w' path w₁ hgained h

/-- The shared module is not written again. -/
theorem writeTransport_of_there {dir : Path} (text : String) {w : Workspace}
    (hdir : w.tree.pathIsDirectory here dir = true)
    (hthere : w.tree.get? (resolve here dir ++ [transportName]) ≠ none) :
    writeTransport here dir text w = .ok (dir.child transportName) w := by
  have hexists : w.tree.pathExists here (dir.child transportName) = true := by
    rw [← Location.resolve_child here dir isName_transportName] at hthere
    exact FileTree.pathExists_iff.mpr
      ⟨FileTree.passes_child isName_transportName (by decide) hdir, hthere⟩
  rw [writeTransport, Action.tree_bind_eq, if_pos hexists]
  rfl

end Output

namespace Generation

theorem repeats_writeClients (services : List Service) (written : List ClientEntry)
    (warnings : List String) :
    Action.Repeats (Gained x octets) (writeClients here r services written warnings) := by
  induction services generalizing written warnings with
  | nil => exact repeats_pure _
  | cons s rest ih =>
      rw [writeClients]
      refine (Action.repeats_ofExcept _ _).bind fun passes => ?_
      split
      · exact (Action.repeats_record _).bind fun _ => ih written warnings
      · dsimp only
        split
        · exact ih written _
        · exact (Output.repeats_writeInto here _ _ _).bind fun _ => ih _ warnings

end Generation

end ConnectClients
