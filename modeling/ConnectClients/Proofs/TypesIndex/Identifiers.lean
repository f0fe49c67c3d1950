import ConnectClients.Proofs.Identifier.Plain
import ConnectClients.Proofs.TypesIndex.Lines

/-!
# The names of the index are identifiers

For paths of plain segments every namespace and every export name is an identifier, and every alias
is one with an underscore in front. What is put behind a name to make it free is a number, and a
number leaves an identifier an identifier.
-/

namespace ConnectClients.TypesIndex

open Identifier (segments IsIdentifier IsPlain)

variable {paths : List String} {path : String} {g : NamespaceGroup} {e : TypeEntry}

/-! ## Numbers behind identifiers -/

theorem isAlphanum_of_mem_toString {n : Nat} {c : Char} (h : c ∈ (toString n).toList) :
    c.isAlphanum = true := by
  rw [Char.isAlphanum, isDigit_of_mem_toString h, Bool.or_true]

theorem isAlphanum_of_mem_occurrenceSuffix {b : Builder} {key type : String} {c : Char}
    (h : c ∈ (b.occurrenceSuffix key type).toList) : c.isAlphanum = true := by
  rw [Builder.occurrenceSuffix] at h
  split at h
  · exact absurd h List.not_mem_nil
  · exact isAlphanum_of_mem_toString h

/-- A free name is an identifier behind a lead, as the name asked for is. -/
theorem freeName_identifier (taken : List String) (lead : String) {name : String}
    (h : IsIdentifier name.toList) :
    ∃ name' : String, freeName taken (lead ++ name) = lead ++ name' ∧ IsIdentifier name'.toList := by
  rcases freeName_eq taken (lead ++ name) with heq | ⟨n, heq⟩
  · exact ⟨name, heq, h⟩
  · refine ⟨name ++ toString (n + 2), by rw [heq, String.append_assoc], ?_⟩
    rw [String.toList_append]
    exact h.append fun c hc => isAlphanum_of_mem_toString hc

theorem isIdentifier_freeName {taken : List String} {name : String} (h : IsIdentifier name.toList) :
    IsIdentifier (freeName taken name).toList := by
  obtain ⟨name', heq, hname'⟩ := freeName_identifier taken "" h
  rw [String.empty_append, String.empty_append] at heq
  rwa [heq]

/-! ## Entries and namespaces -/

theorem isIdentifier_entryOf (b : Builder) (h : ∀ segment ∈ segments path, IsPlain segment) :
    IsIdentifier (b.entryOf path).exportName.toList ∧
      ∃ name : String, (b.entryOf path).aliasName = "_" ++ name ∧ IsIdentifier name.toList := by
  have hsuffix : ∀ c ∈ (b.occurrenceSuffix (Identifier.moduleKey path)
      (Identifier.typeName path)).toList, c.isAlphanum = true :=
    fun c hc => isAlphanum_of_mem_occurrenceSuffix hc
  constructor
  · apply isIdentifier_freeName
    rw [String.toList_append]
    exact (Identifier.isIdentifier_typeName h).append hsuffix
  · obtain ⟨name, halias, hname⟩ := Identifier.importAlias_eq h
    have hasked : IsIdentifier (name ++ b.occurrenceSuffix (Identifier.moduleKey path)
        (Identifier.typeName path)).toList := by
      rw [String.toList_append]
      exact hname.append hsuffix
    obtain ⟨name', hfree, hname'⟩ := freeName_identifier b.aliases "_" hasked
    refine ⟨name', ?_, hname'⟩
    rw [← hfree, ← String.append_assoc, ← halias]
    rfl

theorem isIdentifier_namespaceOf (h : ∀ segment ∈ segments path, IsPlain segment) :
    IsIdentifier (namespaceOf (Identifier.moduleKey path)).toList := by
  have hroot : IsIdentifier rootNamespace.toList := ⟨⟨'R', rfl, rfl⟩, List.all_eq_true.mp (by decide)⟩
  rw [namespaceOf]
  split
  · exact hroot
  · rename_i hkey
    refine (Identifier.canonicalCase_moduleKey h).resolve_left fun hnone => hkey ?_
    rw [hnone]
    rfl

/-- **The names of the index are identifiers.** For paths of plain segments, every namespace and
every export name is a letter with letters and digits behind it, and every alias is an underscore
with such a name behind it. -/
theorem group_identifiers (hpaths : ∀ path ∈ paths, ∀ segment ∈ segments path, IsPlain segment) :
    ∀ g ∈ group paths, IsIdentifier g.namespaceName.toList ∧
      ∀ e ∈ g.entries, IsIdentifier e.exportName.toList ∧
        ∃ name : String, e.aliasName = "_" ++ name ∧ IsIdentifier name.toList := by
  intro g hg
  constructor
  · obtain ⟨taken, hname⟩ := namespaceName_eq hg
    obtain ⟨path, hpath, hkey⟩ := List.mem_map.mp
      ((group_keys_firstSeen paths).mem_iff.mp (List.mem_map_of_mem hg))
    rw [hname, ← hkey]
    exact isIdentifier_freeName (isIdentifier_namespaceOf (hpaths path hpath))
  · intro e he
    have hmem : e ∈ (built paths).entries := by
      rw [← group_entries]
      exact List.mem_flatMap.mpr ⟨g, hg, he⟩
    rcases exists_entryOf_of_mem hmem with hnone | ⟨b, path, hpath, rfl⟩
    · exact absurd hnone List.not_mem_nil
    · exact isIdentifier_entryOf b (hpaths path (Assoc.mem_distinct.mp hpath))

/-- Underscores doubled and at the end, digits behind them, capitals, a stem that is only a version,
one that is only `pb`, and keys and types that fall together. -/
def unevenPaths : List String :=
  ["root/x_pb", "x_pb", "a/user__item_/v1/o_1_pb", "b/user_item/v2/o1_pb", "c/USER_ITEM/v1/v1_pb",
    "pb", "d/UserItem/v1/O1_pb"]

theorem unevenPaths_identifiers :
    (∀ path ∈ unevenPaths, ∀ segment ∈ segments path, IsPlain segment) ∧
      (group unevenPaths).map (·.namespaceName) =
        ["Root", "Root2", "UserItem", "UserItem2", "UserItem3", "UserItem4"] ∧
      ((group unevenPaths).flatMap (·.entries)).map (·.aliasName) =
        ["_RootX", "_X", "_Pb", "_UserItemO1", "_UserItemO12", "_UserItemV1", "_UserItemO13"] ∧
      ∀ g ∈ group unevenPaths, IsIdentifier g.namespaceName.toList ∧
        ∀ e ∈ g.entries, IsIdentifier e.exportName.toList ∧
          ∃ name : String, e.aliasName = "_" ++ name ∧ IsIdentifier name.toList := by
  have hplain : ∀ path ∈ unevenPaths, ∀ segment ∈ segments path, IsPlain segment := by
    decide +kernel
  exact ⟨hplain, by decide +kernel, by decide +kernel, group_identifiers hplain⟩

end ConnectClients.TypesIndex
