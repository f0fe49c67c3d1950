import ConnectClients.Proofs.TypesIndex.Bindings

/-!
# Groups of the types index

Every path stands in the group of its module key, and in no other one. Groups stand in the
order in which their keys appear among the paths, and in a group the paths stand in the
order in which they appear themselves; a path that is repeated counts once.
-/

namespace ConnectClients.TypesIndex

open Assoc (FirstSeen distinct)

/-- The builder groups paths by their keys, whatever names it gives them. -/
theorem foldl_add_groups (paths : List String) (b : Builder) :
    (paths.foldl Builder.add b).groups.map (fun p => (p.1, p.2.map (·.filePath))) =
      paths.foldl (fun d path => Assoc.append (Identifier.moduleKey path) path d)
        (b.groups.map fun p => (p.1, p.2.map (·.filePath))) := by
  induction paths generalizing b with
  | nil => rfl
  | cons path rest ih =>
      rw [List.foldl_cons, List.foldl_cons, ih, Builder.add_groups, Assoc.append_map]
      rfl

theorem group_paths (paths : List String) :
    (group paths).map (fun g => (g.moduleKey, g.entries.map (·.filePath))) =
      (distinct (paths.map Identifier.moduleKey)).map fun key =>
        (key, distinct (paths.filter fun path => Identifier.moduleKey path == key)) := by
  calc
    _ = (built paths).groups.map fun p => (p.1, p.2.map (·.filePath)) := by
      rw [← nameGroups_entries [] (built paths).groups, ← group_eq, List.map_map]
      rfl
    _ = (distinct paths).foldl
        (fun d path => Assoc.append (Identifier.moduleKey path) path d) [] :=
      foldl_add_groups (distinct paths) {}
    _ = _ := by
      rw [Assoc.foldl_append_eq, Assoc.distinct_map_distinct]
      simp only [Assoc.distinct_filter]

/-- There is one group for each module key, in the order of their first appearance. -/
theorem group_keys_firstSeen (paths : List String) :
    FirstSeen (paths.map Identifier.moduleKey) ((group paths).map (·.moduleKey)) := by
  have hkeys := congrArg (List.map Prod.fst) (group_paths paths)
  rw [List.map_map, List.map_map] at hkeys
  have hsame : (group paths).map (·.moduleKey) = distinct (paths.map Identifier.moduleKey) :=
    hkeys.trans (List.map_id _)
  rw [hsame]
  exact Assoc.distinct_firstSeen _

/-- A group has one entry for each path with its key, in the order of their first
appearance. -/
theorem group_entries_firstSeen {paths : List String} {g : NamespaceGroup} (hg : g ∈ group paths) :
    FirstSeen (paths.filter fun path => Identifier.moduleKey path == g.moduleKey)
      (g.entries.map (·.filePath)) := by
  have hmem := List.mem_map_of_mem (f := fun g : NamespaceGroup =>
    (g.moduleKey, g.entries.map (·.filePath))) hg
  rw [group_paths] at hmem
  obtain ⟨key, -, hpair⟩ := List.mem_map.mp hmem
  rw [Prod.mk.injEq] at hpair
  obtain ⟨rfl, hpaths⟩ := hpair
  rw [← hpaths]
  exact Assoc.distinct_firstSeen _

theorem moduleKey_of_mem_group {paths : List String} {g : NamespaceGroup} (hg : g ∈ group paths)
    {e : TypeEntry} (he : e ∈ g.entries) :
    e.moduleKey = g.moduleKey ∧ Identifier.moduleKey e.filePath = g.moduleKey := by
  refine ⟨(built_consistent paths).keys _ (mem_groups_of_mem_group hg) e he, ?_⟩
  have hpath := (group_entries_firstSeen hg).mem_iff.mp (List.mem_map_of_mem he)
  exact eq_of_beq (List.mem_filter.mp hpath).2

/-- Every path is in exactly one entry. -/
theorem group_paths_perm (paths : List String) :
    (((group paths).flatMap (·.entries)).map (·.filePath)).Perm (distinct paths) := by
  have h := (built_consistent paths).paths
  rw [← group_entries] at h
  exact h.trans (List.reverse_perm _)

end ConnectClients.TypesIndex
