import ConnectClients.Proofs.TypesIndex.Groups

/-!
# Numbers behind names

The first path with a type name in a module has names without a number, and each later one has its
number behind them, unless such a name is taken. It is never taken when no name that is asked for
is another one with digits behind it, as then the digits at the end of a name are its number.
-/

namespace ConnectClients.TypesIndex

open Assoc (distinct)

/-! ## Names and numbers -/

/-- What the `n`-th of those that share a name has behind it: its number, from the second on. -/
def numberBehind (n : Nat) : String := if n ≤ 1 then "" else toString n

/-- A name is another one with digits behind it. -/
def DigitsBehind (base name : String) : Prop :=
  ∃ digits : List Char, digits ≠ [] ∧ (∀ d ∈ digits, d.isDigit = true) ∧
    name.toList = base.toList ++ digits

instance (base name : String) : Decidable (DigitsBehind base name) :=
  decidable_of_iff
    (name.toList.drop base.toList.length ≠ [] ∧
      (name.toList.drop base.toList.length).all Char.isDigit = true ∧
      name.toList = base.toList ++ name.toList.drop base.toList.length) <| by
    rw [List.all_eq_true]
    constructor
    · rintro ⟨hne, hdigits, hname⟩
      exact ⟨_, hne, hdigits, hname⟩
    · rintro ⟨digits, hne, hdigits, hname⟩
      rw [hname, List.drop_left]
      exact ⟨hne, hdigits, rfl⟩

/-- Names of which neither is the other, nor the other with digits behind it. -/
structure NamesApart (a b : String) : Prop where
  ne : a ≠ b
  left : ¬ DigitsBehind a b
  right : ¬ DigitsBehind b a

instance (a b : String) : Decidable (NamesApart a b) :=
  decidable_of_iff (a ≠ b ∧ ¬ DigitsBehind a b ∧ ¬ DigitsBehind b a)
    ⟨fun h => ⟨h.1, h.2.1, h.2.2⟩, fun h => ⟨h.ne, h.left, h.right⟩⟩

theorem isDigit_of_mem_numberBehind {n : Nat} {d : Char} (h : d ∈ (numberBehind n).toList) :
    d.isDigit = true := by
  unfold numberBehind at h
  split at h
  · exact absurd h List.not_mem_nil
  · exact isDigit_of_mem_toString h

theorem numberBehind_ne {n m : Nat} (hn : 0 < n) (hlt : n < m) :
    numberBehind n ≠ numberBehind m := by
  unfold numberBehind
  rw [if_neg (by omega : ¬ m ≤ 1)]
  split
  · exact (toString_ne_empty m).symm
  · intro h
    exact absurd (toString_injective h) (Nat.ne_of_lt hlt)

theorem digitsBehind_of_append_eq {a b : String} {digits : List Char} {i j : Nat}
    (hb : b.toList = a.toList ++ digits)
    (hi : (numberBehind i).toList = digits ++ (numberBehind j).toList) :
    a = b ∨ DigitsBehind a b := by
  by_cases hnil : digits = []
  · left
    rw [← String.toList_inj, hb, hnil, List.append_nil]
  · right
    refine ⟨digits, hnil, fun d hd => ?_, hb⟩
    exact isDigit_of_mem_numberBehind (n := i) (hi ▸ List.mem_append_left _ hd)

/-- Names that are apart stay apart, whatever numbers they get. -/
theorem NamesApart.append_ne {a b : String} (h : NamesApart a b) (i j : Nat) :
    a ++ numberBehind i ≠ b ++ numberBehind j := by
  intro heq
  have hlist := congrArg String.toList heq
  rw [String.toList_append, String.toList_append] at hlist
  -- one of the names is the front of the other, and what is behind it are digits
  rcases List.append_eq_append_iff.mp hlist with ⟨digits, hb, hi⟩ | ⟨digits, ha, hj⟩
  · exact (digitsBehind_of_append_eq hb hi).elim h.ne h.left
  · exact (digitsBehind_of_append_eq ha hj).elim (Ne.symm h.ne) h.right

/-! ## Counting -/

/-- What paths are counted by: their module and their type name. -/
def kindOf (path : String) : String × String :=
  (Identifier.moduleKey path, Identifier.typeName path)

/-- Which one of its kind a path is that stands behind others. -/
def ordinalAfter (before : List String) (path : String) : Nat :=
  (before.map kindOf).count (kindOf path) + 1

/-- The name that is asked for a path that stands behind others. -/
def askedName (f : String → String) (before : List String) (path : String) : String :=
  f path ++ numberBehind (ordinalAfter before path)

theorem foldl_add_seen (paths : List String) :
    (paths.foldl Builder.add {}).seen = (paths.map kindOf).reverse := by
  induction paths using List.reverseRecOn with
  | nil => rfl
  | append_singleton paths path ih =>
      rw [List.foldl_concat, List.map_append, List.reverse_append, ← ih]
      rfl

theorem occurrenceSuffix_eq (before : List String) (path : String) :
    (before.foldl Builder.add {}).occurrenceSuffix (Identifier.moduleKey path)
      (Identifier.typeName path) = numberBehind (ordinalAfter before path) := by
  have hcount : (before.foldl Builder.add {}).seen.count
      (Identifier.moduleKey path, Identifier.typeName path) =
        (before.map kindOf).count (kindOf path) := by
    rw [foldl_add_seen, List.count_reverse]
    rfl
  unfold Builder.occurrenceSuffix ordinalAfter
  rw [hcount]
  cases (before.map kindOf).count (kindOf path) with
  | zero => rfl
  | succ n =>
      show toString (n + 1 + 1) = numberBehind (n + 1 + 1)
      rw [numberBehind, if_neg (by omega)]

/-- Two paths of one kind are counted, and two of different kinds have names that are apart. So no
name is asked for twice. -/
theorem askedName_ne {f : String → String} (hf : ∀ p q, kindOf p = kindOf q → f p = f q)
    {before between : List String} {p path : String}
    (hapart : kindOf p ≠ kindOf path → NamesApart (f p) (f path)) :
    askedName f before p ≠ askedName f (before ++ p :: between) path := by
  by_cases hkind : kindOf p = kindOf path
  · unfold askedName
    rw [hf p path hkind]
    intro heq
    have hlt : ordinalAfter before p < ordinalAfter (before ++ p :: between) path := by
      unfold ordinalAfter
      rw [List.map_append, List.map_cons, List.count_append, hkind, List.count_cons_self]
      omega
    exact numberBehind_ne (Nat.succ_pos _) hlt ((String.append_right_inj _).mp heq)
  · exact (hapart hkind).append_ne _ _

/-! ## Names that are asked for -/

/-- A name is asked for one of the paths that a choice accepts. -/
def AskedFor (f : String → String) (choice : String → Prop) (paths : List String)
    (name : String) : Prop :=
  ∃ before p after, paths = before ++ p :: after ∧ choice p ∧ name = askedName f before p

variable {f : String → String} {choice : String → Prop} {paths : List String} {path name : String}

theorem AskedFor.concat (h : AskedFor f choice paths name) (path : String) :
    AskedFor f choice (paths ++ [path]) name := by
  obtain ⟨before, p, after, rfl, hp, hname⟩ := h
  exact ⟨before, p, after ++ [path], by simp, hp, hname⟩

/-- A name is not asked for again, if the names of the chosen paths of other kinds are apart from
that of the path. -/
theorem not_askedFor (hf : ∀ p q, kindOf p = kindOf q → f p = f q)
    (hapart : ∀ p ∈ paths, choice p → kindOf p ≠ kindOf path → NamesApart (f p) (f path)) :
    ¬ AskedFor f choice paths (askedName f paths path) := by
  rintro ⟨before, p, after, rfl, hp, hname⟩
  have hmem : p ∈ before ++ p :: after := List.mem_append_right _ List.mem_cons_self
  exact askedName_ne hf (hapart p hmem hp) hname.symm

theorem freeName_of_not_mem {taken : List String} (h : name ∉ taken) :
    freeName taken name = name := by
  unfold freeName candidates
  rw [List.find?_cons_of_pos (by simpa using h), Option.getD_some]

/-- A name that is asked for is given, if all that were given before were asked for. -/
theorem freeName_asked {taken : List String} (hf : ∀ p q, kindOf p = kindOf q → f p = f q)
    (hapart : ∀ p ∈ paths, choice p → kindOf p ≠ kindOf path → NamesApart (f p) (f path))
    (hasked : ∀ name ∈ taken, AskedFor f choice paths name) :
    freeName taken (askedName f paths path) = askedName f paths path := by
  apply freeName_of_not_mem
  intro hmem
  exact not_askedFor hf hapart (hasked _ hmem)

/-! ## Import aliases -/

/-- Paths of different kinds have import aliases that are apart. -/
def AliasesApart (paths : List String) : Prop :=
  ∀ p ∈ paths, ∀ q ∈ paths, kindOf p ≠ kindOf q →
    NamesApart (Identifier.importAlias p) (Identifier.importAlias q)

instance (paths : List String) : Decidable (AliasesApart paths) :=
  inferInstanceAs (Decidable (∀ p ∈ paths, ∀ q ∈ paths, _))

theorem importAlias_eq_of_kindOf {p q : String} (h : kindOf p = kindOf q) :
    Identifier.importAlias p = Identifier.importAlias q := by
  obtain ⟨hkey, htype⟩ := Prod.mk.inj h
  unfold Identifier.importAlias
  rw [hkey, htype]

theorem AliasesApart.subset {others : List String} (h : AliasesApart paths)
    (hsub : others ⊆ paths) : AliasesApart others :=
  fun p hp q hq => h p (hsub hp) q (hsub hq)

/-- A path has the alias that is asked for it, if the aliases before it were asked for. -/
theorem aliasName_entryOf (h : AliasesApart (paths ++ [path]))
    (hasked : ∀ name ∈ (paths.foldl Builder.add {}).aliases,
      AskedFor Identifier.importAlias (fun _ => True) paths name) :
    ((paths.foldl Builder.add {}).entryOf path).aliasName =
      askedName Identifier.importAlias paths path := by
  have hname : ((paths.foldl Builder.add {}).entryOf path).aliasName =
      freeName (paths.foldl Builder.add {}).aliases
        (askedName Identifier.importAlias paths path) := by
    unfold askedName
    rw [← occurrenceSuffix_eq]
    rfl
  rw [hname]
  refine freeName_asked (fun _ _ => importAlias_eq_of_kindOf) (fun p hp _ hkind => ?_) hasked
  exact h p (List.mem_append_left _ hp) path (List.mem_append_right _ List.mem_cons_self) hkind

theorem aliases_asked (h : AliasesApart paths) : ∀ name ∈ (paths.foldl Builder.add {}).aliases,
    AskedFor Identifier.importAlias (fun _ => True) paths name := by
  induction paths using List.reverseRecOn with
  | nil => exact List.forall_mem_nil _
  | append_singleton paths path ih =>
      have hasked := ih (h.subset (List.subset_append_left _ _))
      intro name hname
      rw [List.foldl_concat, Builder.add_aliases, aliasName_entryOf h hasked] at hname
      rcases List.mem_cons.mp hname with rfl | hname
      · exact ⟨paths, path, [], rfl, trivial, rfl⟩
      · exact (hasked name hname).concat path

/-! ## Export names -/

/-- In a module no type name is another one with digits behind it. -/
def TypesApart (paths : List String) : Prop :=
  ∀ p ∈ paths, ∀ q ∈ paths, Identifier.moduleKey p = Identifier.moduleKey q →
    ¬ DigitsBehind (Identifier.typeName p) (Identifier.typeName q)

instance (paths : List String) : Decidable (TypesApart paths) :=
  inferInstanceAs (Decidable (∀ p ∈ paths, ∀ q ∈ paths, _))

theorem TypesApart.subset {others : List String} (h : TypesApart paths) (hsub : others ⊆ paths) :
    TypesApart others :=
  fun p hp q hq => h p (hsub hp) q (hsub hq)

theorem TypesApart.namesApart (h : TypesApart paths) {p q : String} (hp : p ∈ paths)
    (hq : q ∈ paths) (hkey : Identifier.moduleKey p = Identifier.moduleKey q)
    (hkind : kindOf p ≠ kindOf q) :
    NamesApart (Identifier.typeName p) (Identifier.typeName q) where
  ne := fun htype => hkind (Prod.ext hkey htype)
  left := h p hp q hq hkey
  right := h q hq p hp hkey.symm

/-- A path has the export name that is asked for it, if those before it in its module were asked
for. -/
theorem exportName_entryOf (h : TypesApart (paths ++ [path]))
    (hasked : ∀ name ∈ (paths.foldl Builder.add {}).exportsOf (Identifier.moduleKey path),
      AskedFor Identifier.typeName (Identifier.moduleKey · = Identifier.moduleKey path) paths name) :
    ((paths.foldl Builder.add {}).entryOf path).exportName =
      askedName Identifier.typeName paths path := by
  have hname : ((paths.foldl Builder.add {}).entryOf path).exportName =
      freeName ((paths.foldl Builder.add {}).exportsOf (Identifier.moduleKey path))
        (askedName Identifier.typeName paths path) := by
    unfold askedName
    rw [← occurrenceSuffix_eq]
    rfl
  rw [hname]
  refine freeName_asked (fun _ _ hkind => (Prod.mk.inj hkind).2) (fun p hp hkey hkind => ?_) hasked
  exact h.namesApart (List.mem_append_left _ hp) (List.mem_append_right _ List.mem_cons_self)
    hkey hkind

theorem exports_asked (h : TypesApart paths) {key : String} :
    ∀ name ∈ (paths.foldl Builder.add {}).exportsOf key,
      AskedFor Identifier.typeName (Identifier.moduleKey · = key) paths name := by
  induction paths using List.reverseRecOn generalizing key with
  | nil => exact List.forall_mem_nil _
  | append_singleton paths path ih =>
      have hold := h.subset (List.subset_append_left paths [path])
      intro name hname
      rw [Builder.mem_exportsOf, List.foldl_concat, Builder.add_exports,
        exportName_entryOf h (ih hold)] at hname
      rcases List.mem_cons.mp hname with heq | hname
      · obtain ⟨rfl, rfl⟩ := Prod.mk.inj heq
        exact ⟨paths, path, [], rfl, rfl, rfl⟩
      · exact (ih hold name (Builder.mem_exportsOf.mpr hname)).concat path

/-! ## The entries of the index -/

/-- An entry is that of a path behind the paths before it. -/
theorem exists_entryOf_of_mem_foldl {e : TypeEntry}
    (he : e ∈ (paths.foldl Builder.add {}).entries) :
    ∃ before p after, paths = before ++ p :: after ∧
      e = (before.foldl Builder.add {}).entryOf p := by
  induction paths using List.reverseRecOn with
  | nil => exact absurd he List.not_mem_nil
  | append_singleton paths path ih =>
      rw [List.foldl_concat] at he
      rcases List.mem_cons.mp ((Builder.entries_add _ path).mem_iff.mp he) with rfl | he
      · exact ⟨paths, path, [], rfl, rfl⟩
      · obtain ⟨before, p, after, rfl, rfl⟩ := ih he
        exact ⟨before, p, after ++ [path], by simp, rfl⟩

/-- Which one of its kind a path is, among the distinct paths. -/
def ordinal (paths : List String) (path : String) : Nat :=
  ordinalAfter ((distinct paths).takeWhile (· != path)) path

theorem takeWhile_ne_of_nodup {before after : List String} (h : (before ++ path :: after).Nodup) :
    (before ++ path :: after).takeWhile (· != path) = before := by
  have hbefore : ∀ p ∈ before, (p != path) = true := by
    intro p hp
    rw [bne_iff_ne]
    rintro rfl
    exact (List.nodup_append.mp h).2.2 p hp p List.mem_cons_self rfl
  rw [List.takeWhile_append_of_pos hbefore, List.takeWhile_cons_of_neg (by simp), List.append_nil]

/-- The entries of a path are a single one. -/
theorem exists_entry (h : path ∈ paths) : ∃ e,
    ((group paths).flatMap (·.entries)).filter (·.filePath == path) = [e] := by
  have hpaths := group_paths_perm paths
  have hmem := hpaths.mem_iff.mpr (Assoc.mem_distinct.mpr h)
  have hnodup := hpaths.nodup_iff.mpr (Assoc.distinct_nodup paths)
  have hcount := List.count_eq_one_of_mem hnodup hmem
  rw [List.count, List.countP_map, List.countP_eq_length_filter] at hcount
  exact List.length_eq_one_iff.mp hcount

/-- **The names of a path are numbered by kind.** Every path has one entry. If in its module no type
name is another one with digits behind it, then its export name is its type name, with the number
behind it that the path has among the distinct paths of its module and type name, from two on. If
the import aliases of different kinds of paths are apart as well, its alias has the number behind
it, too. -/
theorem names_numbered (paths : List String) : ∀ path ∈ paths, ∃ e,
    ((group paths).flatMap (·.entries)).filter (·.filePath == path) = [e] ∧
      (TypesApart paths →
        e.exportName = Identifier.typeName path ++ numberBehind (ordinal paths path)) ∧
      (AliasesApart paths →
        e.aliasName = Identifier.importAlias path ++ numberBehind (ordinal paths path)) := by
  intro path hpath
  obtain ⟨e, hone⟩ := exists_entry hpath
  have hmem : e ∈ ((group paths).flatMap (·.entries)).filter (·.filePath == path) := by
    rw [hone]
    exact List.mem_cons_self
  obtain ⟨he, hpath⟩ := List.mem_filter.mp hmem
  rw [group_entries] at he
  obtain ⟨before, p, after, hsplit, rfl⟩ := exists_entryOf_of_mem_foldl he
  obtain rfl : p = path := eq_of_beq hpath
  have hordinal : ordinal paths p = ordinalAfter before p := by
    have hnodup := Assoc.distinct_nodup paths
    rw [hsplit] at hnodup
    rw [ordinal, hsplit, takeWhile_ne_of_nodup hnodup]
  have hsub : before ++ [p] ⊆ paths := by
    intro q hq
    refine Assoc.mem_distinct.mp ?_
    rw [hsplit, List.append_cons]
    exact List.mem_append_left _ hq
  have hbefore : before ⊆ paths := List.Subset.trans (List.subset_append_left before [p]) hsub
  refine ⟨_, hone, fun htypes => ?_, fun haliases => ?_⟩
  · rw [hordinal, exportName_entryOf (htypes.subset hsub) (exports_asked (htypes.subset hbefore))]
    rfl
  · rw [hordinal, aliasName_entryOf (haliases.subset hsub)
      (aliases_asked (haliases.subset hbefore))]
    rfl

/-- Three modules of one kind, the first of them twice, and one of another kind between them. -/
def repeatedUsers : List String :=
  ["a/same/v1/user_pb", "b/same/v1/user_pb", "b/same/v1/order_pb", "a/same/v1/user_pb",
    "c/same/v1/user_pb"]

theorem repeatedUsers_numbered :
    "c/same/v1/user_pb" ∈ repeatedUsers ∧ TypesApart repeatedUsers ∧ AliasesApart repeatedUsers ∧
      ∃ e, ((group repeatedUsers).flatMap (·.entries)).filter
          (·.filePath == "c/same/v1/user_pb") = [e] ∧
        e.exportName = "User3" ∧ e.aliasName = "_SameUser3" := by
  have hmem : "c/same/v1/user_pb" ∈ repeatedUsers := by decide
  have htypes : TypesApart repeatedUsers := by decide +kernel
  have haliases : AliasesApart repeatedUsers := by decide +kernel
  obtain ⟨e, hone, hexport, halias⟩ := names_numbered repeatedUsers _ hmem
  refine ⟨hmem, htypes, haliases, e, hone, ?_, ?_⟩
  · rw [hexport htypes]
    decide +kernel
  · rw [halias haliases]
    decide +kernel

-- A type name that is another one with a number behind it takes the name of the second path.
example : ((group ["a/same/v1/user2_pb", "a/same/v1/user_pb", "b/same/v1/user_pb"]).flatMap
    (·.entries)).map (·.exportName) = ["User2", "User", "User22"] := by
  decide +kernel

end ConnectClients.TypesIndex
