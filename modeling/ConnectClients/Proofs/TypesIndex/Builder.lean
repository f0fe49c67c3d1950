import ConnectClients.Proofs.Assoc
import ConnectClients.Proofs.Identifier.PascalCase
import ConnectClients.Proofs.TypesIndex.FreeName

/-!
# The builder of the types index

What the builder has given out is exactly what its entries carry: the aliases
are those of the entries, the export names are those of the entries with their
module keys, and both lists are free of repetitions. Adding a path keeps this,
since every name it adds is a free one.
-/

namespace ConnectClients.TypesIndex

/-- The entries of all groups. -/
def Builder.entries (b : Builder) : List TypeEntry := b.groups.flatMap Prod.snd

/-- The builder and its entries agree after the paths `done`, last one first. -/
structure Builder.Consistent (b : Builder) (done : List String) : Prop where
  paths : (b.entries.map (·.filePath)).Perm done
  aliases : (b.entries.map (·.aliasName)).Perm b.aliases
  aliases_nodup : b.aliases.Nodup
  aliases_marked : ∀ a ∈ b.aliases, a.toList.head? = some '_'
  exports : (b.entries.map fun e => (e.moduleKey, e.exportName)).Perm b.exports
  exports_nodup : b.exports.Nodup
  keys_nodup : (b.groups.map Prod.fst).Nodup
  keys : ∀ p ∈ b.groups, ∀ e ∈ p.2, e.moduleKey = p.1

theorem Builder.consistent_empty : Builder.Consistent {} [] where
  paths := List.Perm.refl _
  aliases := List.Perm.refl _
  aliases_nodup := List.nodup_nil
  aliases_marked := by simp
  exports := List.Perm.refl _
  exports_nodup := List.nodup_nil
  keys_nodup := List.nodup_nil
  keys := by simp

/-- The names a path gets when it is added. -/
def Builder.entryOf (b : Builder) (path : String) : TypeEntry :=
  let key := Identifier.moduleKey path
  let type := Identifier.typeName path
  let suffix := b.occurrenceSuffix key type
  ⟨path, key, type, freeName (b.exportsOf key) (type ++ suffix),
    freeName b.aliases (Identifier.importAlias path ++ suffix)⟩

theorem Builder.add_groups (b : Builder) (path : String) :
    (b.add path).groups = Assoc.append (b.entryOf path).moduleKey (b.entryOf path) b.groups :=
  rfl

theorem Builder.add_aliases (b : Builder) (path : String) :
    (b.add path).aliases = (b.entryOf path).aliasName :: b.aliases :=
  rfl

theorem Builder.add_exports (b : Builder) (path : String) :
    (b.add path).exports =
      ((b.entryOf path).moduleKey, (b.entryOf path).exportName) :: b.exports :=
  rfl

theorem Builder.entries_add (b : Builder) (path : String) :
    (b.add path).entries.Perm (b.entryOf path :: b.entries) := by
  rw [Builder.entries, Builder.add_groups]
  exact Assoc.values_append_perm _ _ b.groups

theorem Builder.mem_exportsOf {b : Builder} {key name : String} :
    name ∈ b.exportsOf key ↔ (key, name) ∈ b.exports := by
  simp [Builder.exportsOf]

/-- A free name starts with the same character as the name asked for, if that
has one. -/
theorem head?_freeName {taken : List String} {name : String} {c : Char}
    (h : name.toList.head? = some c) : (freeName taken name).toList.head? = some c := by
  rcases freeName_eq taken name with heq | ⟨n, heq⟩
  · rw [heq, h]
  · rw [heq, String.toList_append, List.head?_append, h]
    rfl

/-- **Adding a path keeps the builder and its entries in agreement.** -/
theorem Builder.Consistent.add {b : Builder} {done : List String}
    (h : b.Consistent done) (path : String) : (b.add path).Consistent (path :: done) where
  paths := by
    have hmap := (b.entries_add path).map (·.filePath)
    exact hmap.trans (h.paths.cons path)
  aliases := by
    have hmap := (b.entries_add path).map (·.aliasName)
    rw [Builder.add_aliases]
    exact hmap.trans (h.aliases.cons _)
  aliases_nodup := by
    rw [Builder.add_aliases, List.nodup_cons]
    exact ⟨freeName_not_mem _ _, h.aliases_nodup⟩
  aliases_marked := by
    rw [Builder.add_aliases]
    intro a ha
    rcases List.mem_cons.mp ha with rfl | ha
    · apply head?_freeName
      rw [String.toList_append, List.head?_append, Identifier.head?_importAlias]
      rfl
    · exact h.aliases_marked a ha
  exports := by
    have hmap := (b.entries_add path).map fun e => (e.moduleKey, e.exportName)
    rw [Builder.add_exports]
    exact hmap.trans (h.exports.cons _)
  exports_nodup := by
    rw [Builder.add_exports, List.nodup_cons]
    refine ⟨?_, h.exports_nodup⟩
    rw [← Builder.mem_exportsOf]
    exact freeName_not_mem _ _
  keys_nodup := by
    rw [Builder.add_groups]
    exact Assoc.keys_append_nodup h.keys_nodup
  keys := by
    rw [Builder.add_groups]
    intro p hp e he
    rcases Assoc.exists_mem_append.mp ⟨p.2, hp, he⟩ with ⟨hkey, rfl⟩ | ⟨es, hes, hmem⟩
    · exact hkey.symm
    · exact h.keys _ hes e hmem

theorem Builder.Consistent.foldl : ∀ (paths : List String) {b : Builder} {done : List String},
    b.Consistent done → (paths.foldl Builder.add b).Consistent (paths.reverse ++ done) := by
  intro paths
  induction paths with
  | nil =>
      intro b done h
      exact h
  | cons path rest ih =>
      intro b done h
      rw [List.foldl_cons, List.reverse_cons, List.append_assoc]
      exact ih (h.add path)

/-- The builder after all distinct paths. -/
def built (paths : List String) : Builder :=
  (Assoc.distinct paths).foldl Builder.add {}

theorem built_consistent (paths : List String) :
    (built paths).Consistent (Assoc.distinct paths).reverse := by
  have h := Builder.Consistent.foldl (Assoc.distinct paths) Builder.consistent_empty
  rwa [List.append_nil] at h

/-- In one group all entries have the key of the group, so that their export
names differ. -/
theorem Builder.Consistent.exportNames_nodup {b : Builder} {done : List String}
    (h : b.Consistent done) {p : String × List TypeEntry} (hp : p ∈ b.groups) :
    (p.2.map (·.exportName)).Nodup := by
  have hall := (h.exports.nodup_iff).mpr h.exports_nodup
  have hsub : p.2.Sublist b.entries := by
    obtain ⟨before, after, hsplit⟩ := List.append_of_mem hp
    rw [Builder.entries, hsplit, List.flatMap_append, List.flatMap_cons]
    exact (List.sublist_append_left _ _).trans (List.sublist_append_right _ _)
  have hgroup := (hsub.map fun e => (e.moduleKey, e.exportName)).nodup hall
  refine List.Nodup.of_map (fun name => (p.1, name)) ?_
  rw [List.map_map]
  have hsame : p.2.map (fun e => (e.moduleKey, e.exportName)) =
      p.2.map ((fun name => (p.1, name)) ∘ (·.exportName)) := by
    refine List.map_congr_left fun e he => ?_
    rw [h.keys p hp e he]
    rfl
  rwa [← hsame]

end ConnectClients.TypesIndex
