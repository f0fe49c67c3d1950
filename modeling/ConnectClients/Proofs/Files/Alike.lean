import ConnectClients.Proofs.Agreement
import ConnectClients.Proofs.Files.Listing

/-!
# Operations on trees that differ

Two trees may differ at and below some locations. An operation whose path stays away from
these ends alike in both trees, and changes both in the same way.
-/

namespace ConnectClients.FileTree

open Location (along start resolve Through)
open Runs

variable {here : Location} {p : Path} {t t' : FileTree} {tops : List Location}
  {related : FileTree → FileTree → Prop}

/-- Neither at one of the locations nor below. -/
def Outside (tops : List Location) (l : Location) : Prop := ∀ top ∈ tops, ¬ top <+: l

theorem outside_nil (l : Location) : Outside [] l := fun _ h => absurd h List.not_mem_nil

instance (tops : List Location) (l : Location) : Decidable (Outside tops l) :=
  inferInstanceAs (Decidable (∀ top ∈ tops, ¬ top <+: l))

/-- Trees that agree outside of some locations. -/
def SameOutside (tops : List Location) (t t' : FileTree) : Prop :=
  ∀ l, Outside tops l → t'.get? l = t.get? l

theorem SameOutside.mono {tops' : List Location} (h : SameOutside tops t t')
    (htops : ∀ top ∈ tops, top ∈ tops') : SameOutside tops' t t' :=
  fun l hl => h l fun top htop => hl top (htops top htop)

/-- No name is two dots. -/
def Named (t : FileTree) : Prop := ∀ l, t.get? l ≠ none → Path.up ∉ l

/-- Trees agree if they do so where one of them has an item. -/
theorem sameOutside_of_items
    (h : ∀ e ∈ t.items, Outside tops e.1 → t'.get? e.1 = t.get? e.1)
    (h' : ∀ e ∈ t'.items, Outside tops e.1 → t'.get? e.1 = t.get? e.1) :
    SameOutside tops t t' := by
  intro l hl
  by_cases hnil : l = []
  · rw [hnil, get?_nil, get?_nil]
  · cases hget : t.get? l with
    | some item =>
        rw [h (l, item) ((mem_items_iff hnil).mpr hget) hl, hget]
    | none =>
        cases hget' : t'.get? l with
        | none => rfl
        | some item => rw [← hget', h' (l, item) ((mem_items_iff hnil).mpr hget') hl, hget]

theorem named_of_items (h : ∀ e ∈ t.items, Path.up ∉ e.1) : Named t :=
  forall_there_of_items List.not_mem_nil h

/-- The path to a directory, and all in the directory, stay away from some locations. -/
structure Clear (here : Location) (dir : Path) (tops : List Location) : Prop where
  through : ∀ l, Through here dir l → Outside tops l
  below : ∀ rest, Outside tops (resolve here dir ++ rest)

/-- A path without two dots leads through none of the directories, unless it ends in one. -/
theorem outside_of_through
    (hdots : Path.up ∈ p.segments → ∀ l, Through here p l → Outside tops l)
    (hend : ∀ top ∈ tops, top <+: resolve here p → top = resolve here p) {l : Location}
    (hl : Through here p l) : Outside tops l := by
  by_cases hup : Path.up ∈ p.segments
  · exact hdots hup l hl
  · intro top htop hle
    obtain ⟨hbelow, hne⟩ := isBelow_iff.mp (isBelow_of_through hup hl)
    have heq := hend top htop (hle.trans hbelow)
    rw [heq] at hle
    exact hne (hle.eq_of_length_le hbelow.length_le)

/-! ## Reading -/

theorem follow_same {l : Location} {segments : List String}
    (h : ∀ lead s rest, segments = lead ++ s :: rest →
      t'.get? (along l lead) = t.get? (along l lead)) :
    t'.follow l segments = t.follow l segments := by
  induction segments generalizing l with
  | nil => rfl
  | cons s rest ih =>
      have hself : t'.get? l = t.get? l := h [] s rest rfl
      have hrest : t'.follow (along l [s]) rest = t.follow (along l [s]) rest := by
        apply ih
        intro lead s' rest' hsegments
        rw [← Location.along_append]
        exact h ([s] ++ lead) s' rest' (by rw [hsegments]; rfl)
      rw [follow, follow, hself]
      cases t.get? l with
      | none => rfl
      | some item =>
          cases item with
          | file octets => rfl
          | directory =>
              by_cases hup : s = Path.up
              · subst hup
                rw [Location.along_up] at hrest
                simp only [if_true, hrest]
              · rw [Location.along_name l hup] at hrest
                simp only [hup, if_false, hrest]

theorem locate_same (h : ∀ l, Through here p l → t'.get? l = t.get? l) :
    t'.locate here p = t.locate here p :=
  follow_same fun lead s rest hsegments => h _ ⟨lead, s, rest, hsegments, rfl⟩

section reading

variable (h : ∀ l, OnWay here p l → t'.get? l = t.get? l)

include h

theorem locate_same_of_onWay : t'.locate here p = t.locate here p :=
  locate_same fun l hl => h l (onWay_iff.mpr (Or.inl hl))

theorem get?_same_of_locate {l : Location} (hl : t.locate here p = .ok l) :
    t'.get? l = t.get? l := by
  obtain ⟨-, rfl⟩ := locate_eq_ok_iff.mp hl
  exact h _ (onWay_iff.mpr (Or.inr rfl))

theorem find?_same : t'.find? here p = t.find? here p := by
  rw [find?, find?, locate_same_of_onWay h]
  cases hl : t.locate here p with
  | ok l => exact get?_same_of_locate h hl
  | error fault => rfl

theorem pathExists_same : t'.pathExists here p = t.pathExists here p := by
  rw [pathExists, pathExists, find?_same h]

theorem pathIsDirectory_same : t'.pathIsDirectory here p = t.pathIsDirectory here p := by
  rw [pathIsDirectory, pathIsDirectory, find?_same h]

theorem pathIsFile_same : t'.pathIsFile here p = t.pathIsFile here p := by
  rw [pathIsFile, pathIsFile, find?_same h]

theorem readOctets_same : t'.readOctets here p = t.readOctets here p := by
  rw [readOctets, readOctets, locate_same_of_onWay h]
  cases hl : t.locate here p with
  | ok l => simp only [bind, Except.bind, get?_same_of_locate h hl]
  | error fault => rfl

theorem readText_same : t'.readText here p = t.readText here p := by
  rw [readText, readText, readOctets_same h]

end reading

/-! ## Reading in a directory -/

section inside

variable {dir : Path} {m : List String} {ending : String}

theorem clear_nil (here : Location) (dir : Path) : Clear here dir [] :=
  ⟨fun l _ => outside_nil l, fun _ => outside_nil _⟩

theorem clear_of_apart (hthrough : ∀ l, Through here dir l → Outside tops l)
    (hapart : ∀ top ∈ tops, ¬ top <+: resolve here dir ∧ ¬ resolve here dir <+: top) :
    Clear here dir tops where
  through := hthrough
  below rest top htop := Location.not_prefix_of_apart (hapart top htop) (List.prefix_append _ rest)

theorem Clear.onWay (h : Clear here dir tops) {l : Location} (hl : OnWay here dir l) :
    Outside tops l := by
  rcases onWay_iff.mp hl with hl | rfl
  · exact h.through l hl
  · rw [← List.append_nil (resolve here dir)]
    exact h.below []

theorem resolve_below (hm : Path.up ∉ m) : resolve here (dir.below m) = resolve here dir ++ m := by
  have hsegments : (dir.below m).segments = dir.segments ++ m := rfl
  have hstart : start here (dir.below m) = start here dir := rfl
  rw [Location.resolve_eq, Location.resolve_eq, hsegments, Location.along_append,
    Location.along_of_no_up _ hm, hstart]

/-- The way to something in a directory is the way to the directory, and goes on in it. -/
theorem onWay_below (hm : Path.up ∉ m) {l : Location} (h : OnWay here (dir.below m) l) :
    Through here dir l ∨ ∃ lead rest, m = lead ++ rest ∧ l = resolve here dir ++ lead := by
  obtain ⟨lead, rest, hsegments, rfl⟩ := h
  have hstart : start here (dir.below m) = start here dir := rfl
  have happend : dir.segments ++ m = lead ++ rest := hsegments
  rw [hstart]
  rcases List.append_eq_append_iff.mp happend with ⟨more, rfl, hrest⟩ | ⟨more, hdir, hrest⟩
  · have hmore : Path.up ∉ more := fun hmem => hm (by rw [hrest]; simp [hmem])
    rw [Location.along_append, Location.along_of_no_up _ hmore]
    exact Or.inr ⟨more, rest, hrest, rfl⟩
  · rcases onWay_iff.mp ⟨lead, more, hdir, rfl⟩ with hthrough | heq
    · exact Or.inl hthrough
    · exact Or.inr ⟨[], m, rfl, by rw [heq, List.append_nil]⟩

theorem Clear.onWay_below (h : Clear here dir tops) (hm : Path.up ∉ m) {l : Location}
    (hl : OnWay here (dir.below m) l) : Outside tops l := by
  rcases FileTree.onWay_below hm hl with hl | ⟨lead, -, -, rfl⟩
  · exact h.through l hl
  · exact h.below lead

theorem listFiles_same (h : Clear here dir tops) (hsame : SameOutside tops t t') :
    t'.listFiles here dir ending = t.listFiles here dir ending := by
  apply listFiles_congr
  · exact pathIsDirectory_same fun l hl => hsame l (h.onWay hl)
  · exact fun m _ => hsame _ (h.below m)

theorem Named.up_not_mem_of_listed (h : Named t) (hm : m ∈ t.listFiles here dir ending) :
    Path.up ∉ m := by
  obtain ⟨-, -, ⟨octets, hfile⟩, -⟩ := mem_listFiles_iff.mp hm
  have hthere := h (resolve here dir ++ m) (by simp [hfile])
  exact fun hmem => hthere (List.mem_append_right _ hmem)

theorem readText_below_same (h : Clear here dir tops) (hsame : SameOutside tops t t')
    (hm : Path.up ∉ m) : t'.readText here (dir.below m) = t.readText here (dir.below m) :=
  readText_same fun l hl => hsame l (h.onWay_below hm hl)

/-- The way to a listed file consists of directories, and ends at the file. -/
theorem Closed.directory_of_listed (hclosed : t.Closed) (hnamed : t.Named)
    (hm : m ∈ t.listFiles here dir ending) {l : Location} (hl : OnWay here (dir.below m) l) :
    t.get? l = some .directory ∨ l = resolve here dir ++ m := by
  obtain ⟨hthere, -, ⟨octets, hfile⟩, -⟩ := mem_listFiles_iff.mp hm
  rcases onWay_below (hnamed.up_not_mem_of_listed hm) hl with hl | ⟨lead, rest, rfl, rfl⟩
  · exact Or.inl ((pathIsDirectory_iff.mp hthere).1.directory hl)
  · by_cases hrest : rest = []
    · exact Or.inr (by rw [hrest, List.append_nil])
    · left
      apply hclosed.directory_above _ (by rw [hfile]; simp)
      rw [← List.append_assoc]
      exact isBelow_append hrest

/-- A listed file is read alike in a tree that has the same items on the way to it. -/
theorem readText_listed_same (hclosed : t.Closed) (hnamed : t.Named)
    (hm : m ∈ t.listFiles here dir ending)
    (h : ∀ l, OnWay here (dir.below m) l → t.get? l ≠ none → t'.get? l = t.get? l) :
    t'.readText here (dir.below m) = t.readText here (dir.below m) := by
  apply readText_same
  intro l hl
  apply h l hl
  obtain ⟨-, -, ⟨octets, hfile⟩, -⟩ := mem_listFiles_iff.mp hm
  rcases hclosed.directory_of_listed hnamed hm hl with hdir | rfl
  · simp [hdir]
  · simp [hfile]

end inside

/-! ## Writing -/

/-- Trees that agree outside of some locations, and still do after the same change to
both outside of these. -/
structure Respects (tops : List Location) (related : FileTree → FileTree → Prop) : Prop where
  same : ∀ {t t'}, related t t' → SameOutside tops t t'
  put : ∀ {t t' l} (item : Item), related t t' → Outside tops l → Path.up ∉ l →
    t.get? l ≠ some .directory → related (t.put l item) (t'.put l item)
  erase : ∀ {t t' l}, related t t' → Outside tops l → t.get? l ≠ some .directory →
    related (t.erase l) (t'.erase l)

theorem up_not_mem_along {l : Location} (h : Path.up ∉ l) (segments : List String) :
    Path.up ∉ along l segments := by
  induction segments generalizing l with
  | nil => exact h
  | cons s rest ih =>
      rw [Location.along_cons]
      apply ih
      by_cases hup : s = Path.up
      · rw [hup, Location.along_up]
        exact fun hmem => h ((List.dropLast_sublist l).subset hmem)
      · rw [Location.along_name l hup]
        simp [h, Ne.symm hup]

theorem up_not_mem_resolve (h : Path.up ∉ here) (p : Path) : Path.up ∉ resolve here p := by
  rw [Location.resolve_eq, start]
  apply up_not_mem_along
  split
  · exact h
  · exact List.not_mem_nil

namespace Operation

variable (hrespects : Respects tops related) (hhere : Path.up ∉ here)
  (hway : ∀ l, OnWay here p l → Outside tops l)

include hrespects hway

theorem agree_locate (h : related t t') : Agree related
    (fun l t t' => l = resolve here p ∧ related t t') (locate here p t) (locate here p t') := by
  rw [locate_run, locate_run,
    locate_same_of_onWay fun l hl => hrespects.same h l (hway l hl)]
  cases hl : t.locate here p with
  | ok l => exact .ok ⟨(FileTree.locate_eq_ok_iff.mp hl).2, h⟩
  | error fault => exact .error h

include hhere

theorem agrees_writeText (text : String) : Agrees related (writeText here p text) := by
  have hend : Outside tops (resolve here p) := hway _ (onWay_iff.mpr (Or.inr rfl))
  intro t t' h
  rw [writeText]
  apply (agree_locate hrespects hway h).bind
  rintro _ t t' ⟨rfl, h⟩
  apply agree_get_bind
  have hsame : t'.isDirectory (resolve here p) = t.isDirectory (resolve here p) := by
    rw [isDirectory, isDirectory, hrespects.same h _ hend]
  rw [hsame]
  by_cases hdir : t.isDirectory (resolve here p) = true
  · simp only [hdir, if_true]
    exact .error h
  · simp only [hdir]
    have hno : t.get? (resolve here p) ≠ some .directory := by simpa [isDirectory] using hdir
    exact .ok (hrespects.put _ h hend (up_not_mem_resolve hhere p) hno)

theorem agrees_makeDirectory : Agrees related (makeDirectory here p) := by
  intro t t' h
  rw [makeDirectory_run, makeDirectory_run,
    locate_same_of_onWay fun l hl => hrespects.same h l (hway l hl)]
  cases hl : t.locate here p with
  | error fault => exact .error h
  | ok l =>
      obtain ⟨-, rfl⟩ := FileTree.locate_eq_ok_iff.mp hl
      have hend : Outside tops (resolve here p) := hway _ (onWay_iff.mpr (Or.inr rfl))
      simp only [hrespects.same h _ hend]
      by_cases hthere : (t.get? (resolve here p)).isSome = true
      · simp only [hthere, if_true]
        exact .error h
      · have hnone : t.get? (resolve here p) = none := by simpa using hthere
        simp only [hthere]
        exact .ok (hrespects.put _ h hend (up_not_mem_resolve hhere p) (by simp [hnone]))

theorem agrees_makeUnlessThere : Agrees related (makeUnlessThere here p) := by
  intro t t' h
  have hmake := agrees_makeDirectory hrespects hhere hway t t' h
  rw [makeUnlessThere_run, makeUnlessThere_run]
  generalize makeDirectory here p t = r at hmake
  generalize makeDirectory here p t' = r' at hmake
  cases hmake with
  | ok h => exact .ok h
  | @error fault t t' h =>
      have hdir := pathIsDirectory_same fun l hl => hrespects.same h l (hway l hl)
      simp only [hdir]
      by_cases hfound : fault = .notFound
      · simp only [hfound, if_true]
        exact .error h
      · by_cases hthere : t.pathIsDirectory here p = true
        · simp only [hfound, if_false, hthere, if_true]
          exact .ok h
        · simp only [hfound, if_false, hthere]
          exact .error h

omit hway in
theorem agrees_makeDirectoriesBack {root : String} {back : List String}
    (hway : ∀ l, OnWay here ⟨root, back.reverse⟩ l → Outside tops l) :
    Agrees related (makeDirectoriesBack here root back) := by
  induction back with
  | nil => exact agrees_makeUnlessThere hrespects hhere hway
  | cons s above ih =>
      have hmake := agrees_makeUnlessThere hrespects hhere hway
      have habove := ih fun l hl => hway l (onWay_of_above hl)
      rw [makeDirectoriesBack]
      apply hmake.tryCatch
      intro fault
      split
      · exact habove.bind fun _ => hmake
      · exact agrees_throw _

theorem agrees_makeDirectories : Agrees related (makeDirectories here p) := by
  apply agrees_makeDirectoriesBack hrespects hhere
  rw [List.reverse_reverse]
  exact hway

omit hhere in
theorem agrees_removeFile : Agrees related (removeFile here p) := by
  have hend : Outside tops (resolve here p) := hway _ (onWay_iff.mpr (Or.inr rfl))
  intro t t' h
  rw [removeFile]
  refine Agree.bind (Agree.tryCatch (?_ : Agree related (fun _ => related) _ _) ?_) ?_
  · apply (agree_locate hrespects hway h).bind
    rintro _ t t' ⟨rfl, h⟩
    apply agree_get_bind
    rw [hrespects.same h _ hend]
    cases hget : t.get? (resolve here p) with
    | none => exact .ok h
    | some item =>
        cases item with
        | directory => exact .error h
        | file octets => exact .ok (hrespects.erase h hend (by simp [hget]))
  · intro fault t t' h
    split
    · exact .ok h
    · exact .error h
  · intro early t t' h
    cases early with
    | ok r => exact .ok h
    | error r => exact .ok h

end Operation

end ConnectClients.FileTree
