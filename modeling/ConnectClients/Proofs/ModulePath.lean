import ConnectClients.ModulePath
import ConnectClients.Proofs.Discovery

/-!
# Where specifiers lead

A specifier that is seen from a directory climbs some directories up and goes down along names
from there. It leads to the module with these names below the directory that it climbs to, so that
every generated module can be named from every other one.
-/

namespace ConnectClients

namespace Path

theorem slashed_append {first rest : List String} (hfirst : first ≠ []) (hrest : rest ≠ []) :
    (slashed (first ++ rest)).toList = (slashed first).toList ++ '/' :: (slashed rest).toList := by
  induction first with
  | nil => exact absurd rfl hfirst
  | cons name more ih =>
      rw [List.cons_append, slashed_cons (by simp [hrest])]
      by_cases hmore : more = []
      · subst hmore
        rw [slashed, slashed, String.intercalate_singleton]
        rfl
      · rw [ih hmore, slashed_cons hmore, List.append_assoc]
        rfl

theorem joinWith_toList (names : List String) :
    Text.joinWith ['/'] (names.map String.toList) = (slashed names).toList := by
  induction names with
  | nil => rfl
  | cons name rest ih =>
      by_cases hrest : rest = []
      · subst hrest
        rw [slashed, String.intercalate_singleton]
        rfl
      · obtain ⟨next, more, rfl⟩ := List.exists_cons_of_ne_nil hrest
        rw [slashed_cons hrest, ← ih]
        simp [Text.joinWith]

theorem isName_iff {name : String} :
    IsName name ↔ '/' ∉ name.toList ∧ name ≠ "" ∧ name ≠ "." ∧ name ≠ up :=
  ⟨fun h => ⟨h.no_slash, h.ne_empty, h.ne_dot, h.ne_up⟩, fun ⟨h, h₁, h₂, h₃⟩ => ⟨h, h₁, h₂, h₃⟩⟩

instance (name : String) : Decidable (IsName name) := decidable_of_iff _ isName_iff.symm

theorem IsName.toList_ne_nil {name : String} (h : IsName name) : name.toList ≠ [] :=
  fun hnil => h.ne_empty (String.toList_eq_nil_iff.mp hnil)

theorem slashed_ne_nil {names : List String} (hne : names ≠ []) (h : ∀ name ∈ names, IsName name) :
    (slashed names).toList ≠ [] := by
  obtain ⟨name, rest, rfl⟩ := List.exists_cons_of_ne_nil hne
  have hname := (h name List.mem_cons_self).toList_ne_nil
  by_cases hrest : rest = []
  · subst hrest
    rwa [slashed, String.intercalate_singleton]
  · rw [slashed_cons hrest]
    exact List.append_ne_nil_of_left_ne_nil hname _

theorem head_slashed_ne {names : List String} (h : ∀ name ∈ names, IsName name) :
    (slashed names).toList.head? ≠ some '/' := by
  cases names with
  | nil => decide
  | cons name rest =>
      have hname := h name List.mem_cons_self
      obtain ⟨c, cs, hcs⟩ := List.exists_cons_of_ne_nil hname.toList_ne_nil
      have hc : c ≠ '/' := fun hc => hname.no_slash (by rw [hcs, hc]; exact List.mem_cons_self)
      by_cases hrest : rest = []
      · subst hrest
        rw [slashed, String.intercalate_singleton, hcs]
        simpa using hc
      · rw [slashed_cons hrest, hcs]
        simpa using hc

theorem getLast_slashed_ne {names : List String} (h : ∀ name ∈ names, IsName name) :
    (slashed names).toList.getLast? ≠ some '/' := by
  rcases List.eq_nil_or_concat names with rfl | ⟨before, name, rfl⟩
  · decide
  · rw [List.concat_eq_append] at h ⊢
    have hname := h name (by simp)
    have hlast : (before ++ [name]).getLast? = some name := List.getLast?_concat
    obtain ⟨lead, hlead⟩ := suffix_slashed hlast
    rw [← hlead, List.getLast?_append_of_ne_nil _ hname.toList_ne_nil]
    exact fun hlast => hname.no_slash (List.mem_of_getLast? hlast)

end Path

namespace ModulePath

open Text
open ConnectClients.Path (slashed IsName)

variable {dirs names : List String} {stem : String} {climb : Nat}

/-! ## Directories -/

theorem directory_slashed (hdirs : ∀ dir ∈ dirs, IsName dir) (hstem : IsName stem) :
    directory (slashed (dirs ++ [stem])).toList = (slashed dirs).toList := by
  have hname : ∀ c ∈ stem.toList.reverse, (c != '/') = true := by
    intro c hc
    rw [bne_iff_ne]
    rintro rfl
    exact hstem.no_slash (List.mem_reverse.mp hc)
  have hsingle : slashed [stem] = stem := String.intercalate_singleton
  by_cases hempty : dirs = []
  · -- a bare name stands in the root
    subst hempty
    have hnone : (stem.toList.reverse ++ []).dropWhile (· != '/') = [] :=
      List.dropWhile_append_of_pos hname
    rw [List.append_nil] at hnone
    rw [List.nil_append, hsingle, directory, hnone]
    rfl
  · have hhead : ((slashed (dirs ++ [stem])).toList.reverse.dropWhile (· != '/')).reverse =
        (slashed dirs).toList ++ ['/'] := by
      rw [Path.slashed_append hempty (by simp), hsingle, List.reverse_append, List.reverse_cons,
        List.append_assoc, List.dropWhile_append_of_pos hname]
      simp
    obtain ⟨c, cs, hcs⟩ := List.exists_cons_of_ne_nil (Path.slashed_ne_nil hempty hdirs)
    have hc : c ≠ '/' := fun hc => Path.head_slashed_ne hdirs (by rw [hcs, hc]; rfl)
    have hall : ((slashed dirs).toList ++ ['/']).all (· == '/') = false := by
      simp [hcs, hc]
    have hlast : ((slashed dirs).toList.reverse.dropWhile (· == '/')) =
        (slashed dirs).toList.reverse := by
      have hend := Path.getLast_slashed_ne hdirs
      rw [List.getLast?_eq_head?_reverse] at hend
      cases hrev : (slashed dirs).toList.reverse with
      | nil => rfl
      | cons d ds =>
          rw [hrev] at hend
          exact List.dropWhile_cons_of_neg (by simpa using hend)
    rw [directory, hhead, hall, List.reverse_append]
    show (List.dropWhile (· == '/') ('/' :: (slashed dirs).toList.reverse)).reverse = _
    rw [List.dropWhile_cons_of_pos rfl, hlast, List.reverse_reverse]

/-- A path that starts with a name, seen from a directory. -/
theorem join_slashed (hdirs : ∀ dir ∈ dirs, IsName dir) {segments : List String}
    (hne : segments ≠ []) (hhead : (slashed segments).toList.head? ≠ some '/') :
    join (slashed dirs).toList (slashed segments).toList = (slashed (dirs ++ segments)).toList := by
  rw [join, if_neg (by simpa using hhead)]
  by_cases hempty : dirs = []
  · subst hempty
    rfl
  · rw [if_neg, Path.slashed_append hempty hne]
    simp [Path.slashed_ne_nil hempty hdirs, Path.getLast_slashed_ne hdirs]

/-! ## Walking -/

theorem walk_name (rooted : Bool) {name : String} (h : IsName name)
    (walked rest : List (List Char)) :
    walk rooted walked (name.toList :: rest) = walk rooted (name.toList :: walked) rest := by
  have hdot : name.toList ≠ ['.'] := fun heq => h.ne_dot (String.toList_inj.mp heq)
  have hup : name.toList ≠ ['.', '.'] := fun heq => h.ne_up (String.toList_inj.mp heq)
  have hstay : (name.toList.isEmpty || name.toList == ['.']) = false := by
    simp [h.toList_ne_nil, hdot]
  have hback : (name.toList == ['.', '.']) = false := by simpa using hup
  cases walked <;> simp only [walk, hstay, hback, Bool.false_eq_true, if_false]

theorem walk_names (rooted : Bool) (hnames : ∀ name ∈ names, IsName name)
    (walked rest : List (List Char)) :
    walk rooted walked (names.map String.toList ++ rest) =
      walk rooted ((names.map String.toList).reverse ++ walked) rest := by
  induction names generalizing walked with
  | nil => rfl
  | cons name names ih =>
      rw [List.map_cons, List.cons_append, walk_name rooted (hnames name List.mem_cons_self),
        ih fun other hother => hnames other (List.mem_cons_of_mem _ hother), List.reverse_cons,
        List.append_assoc]
      rfl

theorem walk_up (rooted : Bool) {last : List Char} (h : last ≠ ['.', '.'])
    (back rest : List (List Char)) :
    walk rooted (last :: back) (['.', '.'] :: rest) = walk rooted back rest := by
  have hlast : (last == ['.', '.']) = false := by simpa using h
  rw [walk, if_neg (by decide), if_pos (by decide), hlast]
  rfl

/-- Climbing goes back along names as far as there are any. -/
theorem walk_climb (rooted : Bool) {walked : List (List Char)} (hwalked : ['.', '.'] ∉ walked)
    (hclimb : climb ≤ walked.length) (rest : List (List Char)) :
    walk rooted walked (List.replicate climb ['.', '.'] ++ rest) =
      walk rooted (walked.drop climb) rest := by
  induction climb generalizing walked with
  | zero => rfl
  | succ n ih =>
      cases walked with
      | nil => exact absurd hclimb (by simp)
      | cons last back =>
          rw [List.mem_cons, not_or] at hwalked
          rw [List.replicate_succ, List.cons_append, walk_up rooted (Ne.symm hwalked.1),
            ih hwalked.2 (Nat.le_of_succ_le_succ hclimb), List.drop_succ_cons]

/-! ## Specifiers -/

/-- The segments that climb some directories up; none are climbed by a dot. -/
def climbing (climb : Nat) : List String :=
  if climb = 0 then ["."] else List.replicate climb Path.up

/-- The specifier that climbs some directories up and goes down along names from there. -/
def specifier (climb : Nat) (names : List String) : String :=
  slashed (climbing climb ++ names)

theorem walk_climbing (hdirs : ∀ dir ∈ dirs, IsName dir) (hclimb : climb ≤ dirs.length)
    (rest : List (List Char)) :
    walk false (dirs.map String.toList).reverse ((climbing climb).map String.toList ++ rest) =
      walk false ((dirs.take (dirs.length - climb)).map String.toList).reverse rest := by
  have hback : ((dirs.take (dirs.length - climb)).map String.toList).reverse =
      (dirs.map String.toList).reverse.drop climb := by
    rw [List.drop_reverse, List.length_map, List.map_take]
  rw [hback]
  by_cases hzero : climb = 0
  · subst hzero
    rfl
  · have hup : ['.', '.'] ∉ (dirs.map String.toList).reverse := by
      rw [List.mem_reverse, List.mem_map]
      rintro ⟨dir, hdir, heq⟩
      exact (hdirs dir hdir).ne_up (String.toList_inj.mp heq)
    rw [climbing, if_neg hzero, List.map_replicate]
    exact walk_climb false hup (by simpa using hclimb) rest

theorem climbing_ne_nil (climb : Nat) : climbing climb ≠ [] := by
  rw [climbing]
  split
  · exact List.cons_ne_nil _ _
  · simpa

theorem no_slash_climbing (climb : Nat) : ∀ segment ∈ climbing climb, '/' ∉ segment.toList := by
  intro segment h
  rw [climbing] at h
  split at h
  · rw [List.mem_singleton.mp h]
    decide
  · rw [List.eq_of_mem_replicate h]
    decide

theorem head_specifier (climb : Nat) (names : List String) :
    (specifier climb names).toList.head? = some '.' := by
  obtain ⟨segment, rest, hsegments⟩ := List.exists_cons_of_ne_nil (climbing_ne_nil climb)
  have hdot : segment.toList.head? = some '.' := by
    have hmem : segment ∈ climbing climb := hsegments ▸ List.mem_cons_self
    rw [climbing] at hmem
    split at hmem
    · rw [List.mem_singleton.mp hmem]
      decide
    · rw [List.eq_of_mem_replicate hmem]
      decide
  rw [specifier, hsegments, List.cons_append]
  by_cases hrest : rest ++ names = []
  · rw [hrest, slashed, String.intercalate_singleton]
    exact hdot
  · rw [Path.slashed_cons hrest, List.head?_append, hdot]
    rfl

/-! ## Where they lead -/

theorem resolve_of_dot {specifier : String} (h : specifier.toList.head? = some '.')
    (importPath : String) : resolve specifier importPath =
      String.ofList (normalize (join (directory importPath.toList) specifier.toList)) := by
  unfold resolve
  split
  · rename_i rest hrest
    rw [hrest]
  · rename_i hno
    cases hcs : specifier.toList with
    | nil => rw [hcs] at h; cases h
    | cons c cs =>
        rw [hcs] at h
        obtain rfl := Option.some.inj h
        exact absurd hcs (hno cs)

theorem resolve_of_not_dot {specifier : String} (h : specifier.toList.head? ≠ some '.')
    (importPath : String) : resolve specifier importPath = specifier := by
  unfold resolve
  split
  · rename_i rest hrest
    rw [hrest] at h
    exact absurd rfl h
  · rfl

theorem normalize_unrooted {path result : List Char} (hroot : rootSlashes path = 0)
    (hwalk : joinWith ['/'] (walk false [] (splitOn '/' path)) = result) (hne : result ≠ []) :
    normalize path = result := by
  have hwalked : List.replicate (rootSlashes path) '/' ++
      joinWith ['/'] (walk (rootSlashes path != 0) [] (splitOn '/' path)) = result := by
    rw [hroot, List.replicate_zero, List.nil_append]
    exact hwalk
  -- `hne` rules the branch of an empty result out
  simp only [normalize, hwalked]

theorem normalize_slashed {segments walked : List String} (hne : segments ≠ [])
    (hslash : ∀ segment ∈ segments, '/' ∉ segment.toList)
    (hhead : (slashed segments).toList.head? ≠ some '/')
    (hwalk : walk false [] (segments.map String.toList) = walked.map String.toList)
    (hwalked : (slashed walked).toList ≠ []) :
    normalize (slashed segments).toList = (slashed walked).toList := by
  have hroot : rootSlashes (slashed segments).toList = 0 := by
    unfold rootSlashes
    split <;> simp_all
  refine normalize_unrooted hroot ?_ hwalked
  rw [Path.splitOn_slashed hne hslash, hwalk, Path.joinWith_toList]

/-- A specifier leads from a module to the names below the directory that it climbs to. -/
theorem resolve_specifier (hdirs : ∀ dir ∈ dirs, IsName dir) (hstem : IsName stem)
    (hclimb : climb ≤ dirs.length) (hne : names ≠ []) (hnames : ∀ name ∈ names, IsName name) :
    resolve (specifier climb names) (slashed (dirs ++ [stem])) =
      slashed (dirs.take (dirs.length - climb) ++ names) := by
  have hsegments : climbing climb ++ names ≠ [] := by simp [hne]
  have hhead : (slashed (climbing climb ++ names)).toList.head? ≠ some '/' := by
    have hdot := head_specifier climb names
    rw [specifier] at hdot
    rw [hdot]
    decide
  have hslash : ∀ segment ∈ dirs ++ (climbing climb ++ names), '/' ∉ segment.toList := by
    simp only [List.mem_append]
    rintro segment (h | h | h)
    · exact (hdirs segment h).no_slash
    · exact no_slash_climbing climb segment h
    · exact (hnames segment h).no_slash
  have hwalk : walk false [] ((dirs ++ (climbing climb ++ names)).map String.toList) =
      (dirs.take (dirs.length - climb) ++ names).map String.toList := by
    have hdown := walk_names false hnames
      ((dirs.take (dirs.length - climb)).map String.toList).reverse []
    rw [List.append_nil] at hdown
    rw [List.map_append, List.map_append, walk_names false hdirs, List.append_nil,
      walk_climbing hdirs hclimb, hdown, walk]
    simp
  have htarget : ∀ name ∈ dirs.take (dirs.length - climb) ++ names, IsName name := by
    intro name h
    rcases List.mem_append.mp h with h | h
    · exact hdirs name (List.mem_of_mem_take h)
    · exact hnames name h
  rw [resolve_of_dot (head_specifier climb names), directory_slashed hdirs hstem, specifier,
    join_slashed hdirs hsegments hhead]
  have hpath : (slashed (dirs ++ (climbing climb ++ names))).toList.head? ≠ some '/' := by
    by_cases hempty : dirs = []
    · rwa [hempty, List.nil_append]
    · rw [Path.slashed_append hempty hsegments, List.head?_append_of_ne_nil _
        (Path.slashed_ne_nil hempty hdirs)]
      exact Path.head_slashed_ne hdirs
  rw [normalize_slashed (by simp [hne]) hslash hpath hwalk (Path.slashed_ne_nil (by simp [hne]) htarget),
    String.ofList_toList]

/-! ## From module to module -/

/-- How many names two ways begin with in common. -/
def shared : List String → List String → Nat
  | a :: first, b :: second => if a = b then shared first second + 1 else 0
  | _, _ => 0

theorem take_shared (first second : List String) :
    first.take (shared first second) = second.take (shared first second) := by
  induction first generalizing second with
  | nil => simp [shared]
  | cons a first ih =>
      cases second with
      | nil => simp [shared]
      | cons b second =>
          rw [shared]
          by_cases h : a = b
          · rw [if_pos h, h, List.take_succ_cons, List.take_succ_cons, ih]
          · rw [if_neg h]
            rfl

theorem shared_le_left (first second : List String) : shared first second ≤ first.length := by
  induction first generalizing second with
  | nil => simp [shared]
  | cons a first ih =>
      cases second with
      | nil => simp [shared]
      | cons b second =>
          rw [shared]
          by_cases h : a = b
          · simpa [h] using ih second
          · simp [h]

theorem shared_le_right (first second : List String) : shared first second ≤ second.length := by
  have htake := congrArg List.length (take_shared first second)
  rw [List.length_take, List.length_take, Nat.min_eq_left (shared_le_left first second)] at htake
  omega

/-- The specifier of a module for one that stands in some directory. -/
def relativeSpecifier (dirs target : List String) : String :=
  specifier (dirs.length - shared dirs target.dropLast) (target.drop (shared dirs target.dropLast))

/-- Every module can be named from every other one. -/
theorem resolve_relativeSpecifier {target : List String} (hdirs : ∀ dir ∈ dirs, IsName dir)
    (hstem : IsName stem) (hne : target ≠ []) (htarget : ∀ name ∈ target, IsName name) :
    resolve (relativeSpecifier dirs target) (slashed (dirs ++ [stem])) = slashed target := by
  have hdown : target.drop (shared dirs target.dropLast) ≠ [] := by
    have hlast := shared_le_right dirs target.dropLast
    have hlength := List.length_pos_iff.mpr hne
    rw [List.length_dropLast] at hlast
    rw [Ne, List.drop_eq_nil_iff]
    omega
  have hsame : dirs.take (shared dirs target.dropLast) = target.take (shared dirs target.dropLast) := by
    rw [take_shared, List.dropLast_eq_take, List.take_take]
    have hlast := shared_le_right dirs target.dropLast
    rw [List.length_dropLast, List.dropLast_eq_take] at hlast
    rw [Nat.min_eq_left hlast]
  rw [relativeSpecifier, resolve_specifier hdirs hstem (Nat.sub_le _ _) hdown
    fun name h => htarget name (List.mem_of_mem_drop h),
    Nat.sub_sub_self (shared_le_left _ _), hsame, List.take_append_drop]

end ModulePath

end ConnectClients
