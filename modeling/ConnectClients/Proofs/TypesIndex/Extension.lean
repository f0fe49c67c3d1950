import ConnectClients.Proofs.TypesIndex.Groups

/-!
# More modules

Modules that are added behind others rename none of these. A name depends only on the names that
were given out before it, and the namespaces, which are given out last, only on the groups in
front; so an index that grows at its end keeps what it had, and new groups are of new paths alone.
-/

namespace ConnectClients

/-! ## Lists that begin like others -/

/-- A list begins, element by element, with what another one holds or what that became. -/
inductive Begins {α : Type} (r : α → α → Prop) : List α → List α → Prop where
  | nil (added : List α) : Begins r [] added
  | cons {a b : α} {as bs : List α} (head : r a b) (tail : Begins r as bs) :
      Begins r (a :: as) (b :: bs)

namespace Begins

variable {α : Type} {r : α → α → Prop} {as bs cs : List α}

theorem refl (h : ∀ a, r a a) : ∀ as : List α, Begins r as as
  | [] => nil []
  | a :: as => cons (h a) (refl h as)

theorem trans (h : ∀ a b c, r a b → r b c → r a c) (hab : Begins r as bs) (hbc : Begins r bs cs) :
    Begins r as cs := by
  induction hab generalizing cs with
  | nil => exact nil cs
  | cons head tail ih =>
      cases hbc with
      | cons head' tail' => exact cons (h _ _ _ head head') (ih tail')

/-- Such a list is what the elements became, and more behind it. -/
theorem exists_append (h : Begins r as bs) :
    ∃ kept added, bs = kept ++ added ∧ List.Forall₂ r as kept := by
  induction h with
  | nil added => exact ⟨[], added, rfl, List.Forall₂.nil⟩
  | cons head tail ih =>
      obtain ⟨kept, added, rfl, hkept⟩ := ih
      exact ⟨_ :: kept, added, rfl, List.Forall₂.cons head hkept⟩

end Begins

namespace Assoc

variable {κ ν : Type}

/-- A list under a key has become longer at its end, if it has changed. -/
def Lengthened (p q : κ × List ν) : Prop := p.1 = q.1 ∧ p.2 <+: q.2

theorem Lengthened.refl (p : κ × List ν) : Lengthened p p := ⟨rfl, List.prefix_rfl⟩

theorem Lengthened.trans (p q s : κ × List ν) (hpq : Lengthened p q) (hqs : Lengthened q s) :
    Lengthened p s :=
  ⟨hpq.1.trans hqs.1, hpq.2.trans hqs.2⟩

variable [BEq κ]

theorem append_begins (key : κ) (value : ν) (d : List (κ × List ν)) :
    Begins Lengthened d (append key value d) := by
  induction d with
  | nil => exact Begins.nil _
  | cons p rest ih =>
      obtain ⟨k, vs⟩ := p
      rw [append]
      split
      · exact Begins.cons ⟨rfl, List.prefix_append _ _⟩ (Begins.refl Lengthened.refl rest)
      · exact Begins.cons (Lengthened.refl _) ih

end Assoc

namespace TypesIndex

open Assoc (distinct Lengthened)

/-! ## More paths -/

theorem foldl_add_begins (paths : List String) (b : Builder) :
    Begins Lengthened b.groups (paths.foldl Builder.add b).groups := by
  induction paths generalizing b with
  | nil => exact Begins.refl Lengthened.refl b.groups
  | cons path rest ih =>
      rw [List.foldl_cons]
      have hadd : Begins Lengthened b.groups (b.add path).groups := by
        rw [Builder.add_groups]
        exact Assoc.append_begins _ _ b.groups
      exact hadd.trans Lengthened.trans (ih (b.add path))

/-- The distinct paths begin with those of the first list. -/
theorem distinct_prefix_append (ps qs : List String) : distinct ps <+: distinct (ps ++ qs) := by
  induction qs using List.reverseRecOn with
  | nil => simp only [List.append_nil, List.prefix_rfl]
  | append_singleton qs q ih =>
      rw [← List.append_assoc, Assoc.distinct_concat]
      split
      · exact ih
      · exact ih.trans (List.prefix_append _ _)

theorem built_append_begins (ps qs : List String) :
    Begins Lengthened (built ps).groups (built (ps ++ qs)).groups := by
  obtain ⟨more, hmore⟩ := distinct_prefix_append ps qs
  have hbuilt : built (ps ++ qs) = more.foldl Builder.add (built ps) := by
    unfold built
    rw [← hmore, List.foldl_append]
  rw [hbuilt]
  exact foldl_add_begins more (built ps)

/-! ## Their groups -/

/-- A group has its module key and its namespace, and its entries in front. -/
structure GroupKept (g g' : NamespaceGroup) : Prop where
  moduleKey : g'.moduleKey = g.moduleKey
  namespaceName : g'.namespaceName = g.namespaceName
  entries : g.entries <+: g'.entries

/-- The namespace of a group depends on the keys of the groups in front alone. -/
theorem nameGroups_begins {d d' : List (String × List TypeEntry)} (h : Begins Lengthened d d')
    (taken : List String) : Begins GroupKept (nameGroups taken d) (nameGroups taken d') := by
  induction h generalizing taken with
  | nil added => exact Begins.nil _
  | @cons p p' rest rest' head tail ih =>
      obtain ⟨key, entries⟩ := p
      obtain ⟨key', entries'⟩ := p'
      obtain ⟨hkey, hentries⟩ := head
      change key = key' at hkey
      subst hkey
      rw [nameGroups, nameGroups]
      exact Begins.cons ⟨rfl, rfl, hentries⟩ (ih _)

/-- A path that has an entry in a group has its module key among the keys of the groups. -/
theorem moduleKey_mem_of_mem {paths : List String} {path : String} (h : path ∈ paths) :
    Identifier.moduleKey path ∈ (group paths).map (·.moduleKey) :=
  (group_keys_firstSeen paths).mem_iff.mpr (List.mem_map_of_mem h)

theorem mem_paths_of_mem_group {paths : List String} {g : NamespaceGroup} {e : TypeEntry}
    (hg : g ∈ group paths) (he : e ∈ g.entries) : e.filePath ∈ paths :=
  (List.mem_filter.mp
    ((group_entries_firstSeen hg).mem_iff.mp (List.mem_map_of_mem he))).1

/-- **More modules rename none.** The groups of a longer list of paths begin with those of the
shorter one, in the same order, each with the same module key, the same namespace, and its entries
as they were in front of new ones. Any other group is one of new paths only. -/
theorem group_append_keeps (ps qs : List String) :
    ∃ kept added, group (ps ++ qs) = kept ++ added ∧ List.Forall₂ GroupKept (group ps) kept ∧
      ∀ g ∈ added, ∀ e ∈ g.entries, e.filePath ∈ qs ∧ e.filePath ∉ ps := by
  have hbegins : Begins GroupKept (group ps) (group (ps ++ qs)) :=
    nameGroups_begins (built_append_begins ps qs) []
  obtain ⟨kept, added, hgroups, hkept⟩ := hbegins.exists_append
  refine ⟨kept, added, hgroups, hkept, ?_⟩
  intro g hg e he
  have hmem : g ∈ group (ps ++ qs) := by
    rw [hgroups]
    exact List.mem_append_right _ hg
  have hnew : e.filePath ∉ ps := by
    intro hold
    -- the key of the path would be that of a group that was kept, and of an added one
    have hkeys : (group ps).map (·.moduleKey) = kept.map (·.moduleKey) := by
      refine List.forall₂_eq_eq_eq ▸ ?_
      rw [List.forall₂_map_left_iff, List.forall₂_map_right_iff]
      exact hkept.imp fun _ _ h => h.moduleKey.symm
    have hfirst := moduleKey_mem_of_mem hold
    rw [hkeys, (moduleKey_of_mem_group hmem he).2] at hfirst
    have hnodup := (group_keys_firstSeen (ps ++ qs)).nodup
    rw [hgroups, List.map_append, List.nodup_append] at hnodup
    exact hnodup.2.2 _ hfirst _ (List.mem_map_of_mem hg) rfl
  exact ⟨(List.mem_append.mp (mem_paths_of_mem_group hmem he)).resolve_left hnew, hnew⟩

end TypesIndex

end ConnectClients
