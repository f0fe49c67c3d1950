import ConnectClients.Proofs.TypesIndex.Builder

/-!
# What the types index binds

The index binds an alias for every module it imports and a namespace for every
module key. Aliases carry an underscore in front and namespaces have none at
all, so that the two kinds of names never meet; within each kind a name is bound
once. Inside a namespace every member has a name of its own.
-/

namespace ConnectClients.TypesIndex

/-! ## Namespaces -/

theorem underscore_not_mem_namespaceOf (key : String) : '_' ∉ (namespaceOf key).toList := by
  rw [namespaceOf]
  split
  · decide
  · exact Identifier.underscore_not_mem_canonicalCase key

theorem nameGroups_entries (taken : List String) (groups : List (String × List TypeEntry)) :
    (nameGroups taken groups).map (fun g => (g.moduleKey, g.entries)) = groups := by
  induction groups generalizing taken with
  | nil => rfl
  | cons p rest ih =>
      obtain ⟨key, entries⟩ := p
      rw [nameGroups, List.map_cons, ih]

/-- Namespaces differ from each other and from those taken before. -/
theorem nameGroups_nodup (taken : List String) (groups : List (String × List TypeEntry)) :
    ((nameGroups taken groups).map (·.namespaceName)).Nodup ∧
      ∀ g ∈ nameGroups taken groups, g.namespaceName ∉ taken := by
  induction groups generalizing taken with
  | nil => simp [nameGroups]
  | cons p rest ih =>
      obtain ⟨key, entries⟩ := p
      obtain ⟨hnd, hfree⟩ := ih (freeName taken (namespaceOf key) :: taken)
      rw [nameGroups]
      refine ⟨?_, ?_⟩
      · rw [List.map_cons, List.nodup_cons]
        refine ⟨?_, hnd⟩
        intro hmem
        obtain ⟨g, hg, heq⟩ := List.mem_map.mp hmem
        exact hfree g hg (heq ▸ List.mem_cons_self)
      · intro g hg
        rcases List.mem_cons.mp hg with rfl | hg
        · exact freeName_not_mem taken (namespaceOf key)
        · exact fun hmem => hfree g hg (List.mem_cons_of_mem _ hmem)

theorem nameGroups_unmarked (taken : List String) (groups : List (String × List TypeEntry)) :
    ∀ g ∈ nameGroups taken groups, '_' ∉ g.namespaceName.toList := by
  induction groups generalizing taken with
  | nil => simp [nameGroups]
  | cons p rest ih =>
      obtain ⟨key, entries⟩ := p
      rw [nameGroups]
      intro g hg
      rcases List.mem_cons.mp hg with rfl | hg
      · exact not_mem_freeName (by decide) (underscore_not_mem_namespaceOf key)
      · exact ih _ g hg

/-! ## Groups -/

theorem group_eq (paths : List String) : group paths = nameGroups [] (built paths).groups := rfl

theorem group_entries (paths : List String) :
    (group paths).flatMap (·.entries) = (built paths).entries := by
  rw [Builder.entries, group_eq]
  conv_rhs => rw [← nameGroups_entries [] (built paths).groups, List.flatMap_map]

theorem mem_groups_of_mem_group {paths : List String} {g : NamespaceGroup}
    (hg : g ∈ group paths) : (g.moduleKey, g.entries) ∈ (built paths).groups := by
  rw [← nameGroups_entries [] (built paths).groups, ← group_eq]
  exact List.mem_map_of_mem hg

theorem group_aliases_nodup (paths : List String) :
    (((group paths).flatMap (·.entries)).map (·.aliasName)).Nodup := by
  have h := built_consistent paths
  rw [group_entries]
  exact (h.aliases.nodup_iff).mpr h.aliases_nodup

theorem group_alias_ne_namespace (paths : List String) :
    ∀ e ∈ (group paths).flatMap (·.entries), ∀ g ∈ group paths,
      e.aliasName ≠ g.namespaceName := by
  intro e he g hg heq
  have h := built_consistent paths
  rw [group_entries] at he
  have halias : e.aliasName ∈ (built paths).aliases :=
    (h.aliases.mem_iff).mp (List.mem_map_of_mem he)
  have hmark := List.mem_of_mem_head? (h.aliases_marked _ halias)
  rw [heq] at hmark
  exact nameGroups_unmarked [] (built paths).groups g hg hmark

/-! ## The lines of the index -/

/-- The name that the import line of a path binds. -/
def importedAlias (groups : List NamespaceGroup) (path : String) : String :=
  ((groups.flatMap (·.entries)).find? (·.filePath == path)).elim "" (·.aliasName)

theorem importLine_eq (groups : List NamespaceGroup) (path : String) :
    importLine groups path =
      "import * as " ++ importedAlias groups path ++ " from '" ++ generatedDir ++ "/" ++ path ++ "'" :=
  rfl

/-- The names that the index file binds at its top: one for every import line
and one for every namespace block. -/
def boundNames (paths : List String) : List String :=
  (Assoc.distinct paths).map (importedAlias (group paths)) ++
    (group paths).map (·.namespaceName)

/-- An entry is found by its path, as no other entry has it. -/
theorem importedAlias_of_mem {groups : List NamespaceGroup} {e : TypeEntry}
    (hnd : ((groups.flatMap (·.entries)).map (·.filePath)).Nodup)
    (he : e ∈ groups.flatMap (·.entries)) : importedAlias groups e.filePath = e.aliasName := by
  rw [importedAlias]
  cases hfind : (groups.flatMap (·.entries)).find? (·.filePath == e.filePath) with
  | none =>
      have hno := List.find?_eq_none.mp hfind e he
      simp at hno
  | some e' =>
      have hpath : e'.filePath = e.filePath := by
        simpa using List.find?_some hfind
      have hsame := List.inj_on_of_nodup_map hnd (List.mem_of_find?_eq_some hfind) he hpath
      rw [hsame]
      rfl

/-- The import lines bind the aliases of the entries. -/
theorem importedAliases_perm (paths : List String) :
    ((Assoc.distinct paths).map (importedAlias (group paths))).Perm
      (((group paths).flatMap (·.entries)).map (·.aliasName)) := by
  have h := (built_consistent paths).paths
  rw [← group_entries] at h
  have hpaths := h.trans (List.reverse_perm _)
  have hnd := (hpaths.nodup_iff).mpr (Assoc.distinct_nodup paths)
  refine (hpaths.symm.map (importedAlias (group paths))).trans ?_
  rw [List.map_map]
  refine List.Perm.of_eq (List.map_congr_left fun e he => ?_)
  exact importedAlias_of_mem hnd he

/-- **No name is bound twice.** The aliases of all entries differ, so do the
namespaces, an alias is never a namespace, and the members of one namespace
differ. The lines of the index thus bind every name once. -/
theorem names_bound_once (paths : List String) :
    (((group paths).flatMap (·.entries)).map (·.aliasName)).Nodup ∧
      ((group paths).map (·.namespaceName)).Nodup ∧
      (∀ e ∈ (group paths).flatMap (·.entries), ∀ g ∈ group paths,
        e.aliasName ≠ g.namespaceName) ∧
      (∀ g ∈ group paths, (g.entries.map (·.exportName)).Nodup) ∧
      (boundNames paths).Nodup := by
  have haliases := group_aliases_nodup paths
  have hspaces := (nameGroups_nodup [] (built paths).groups).1
  refine ⟨haliases, hspaces, group_alias_ne_namespace paths, ?_, ?_⟩
  · intro g hg
    exact (built_consistent paths).exportNames_nodup (mem_groups_of_mem_group hg)
  · have himports := importedAliases_perm paths
    rw [boundNames, List.nodup_append]
    refine ⟨(himports.nodup_iff).mpr haliases, hspaces, ?_⟩
    intro a ha b hb
    obtain ⟨e, he, rfl⟩ := List.mem_map.mp ((himports.mem_iff).mp ha)
    obtain ⟨g, hg, rfl⟩ := List.mem_map.mp hb
    exact group_alias_ne_namespace paths e he g hg

end ConnectClients.TypesIndex
