import ConnectClients.Proofs.Identifier.PascalCase
import ConnectClients.Proofs.Text.Lines

/-!
# Names made from paths

The names of modules and types are made of pieces of their paths. Whatever becomes of the
case of these pieces, a mark in a name is one of the path.
-/

namespace ConnectClients.Identifier

open Text

theorem mem_of_mem_dropGeneratedMark {c : Char} {stem : List Char}
    (h : c ∈ dropGeneratedMark stem) : c ∈ stem := by
  rw [dropGeneratedMark] at h
  split at h
  · rename_i rest hrest
    exact dropSuffix?_subset hrest h
  · split at h
    · rename_i rest hrest
      rcases List.mem_append.mp h with h | h
      · exact dropSuffix?_subset hrest h
      · -- the newline stood behind the mark
        rw [dropSuffix?_eq_some_iff.mp hrest]
        exact List.mem_append_right _ (List.mem_append_right _ h)
    · exact h

/-- What is in a chosen segment is in the path. -/
theorem mem_of_mem_getD {path : String} {chosen : Option (List Char)} {c : Char}
    (hchosen : ∀ segment ∈ chosen, segment ∈ segments path) (h : c ∈ chosen.getD []) :
    c ∈ path.toList := by
  cases chosen with
  | none => exact absurd h List.not_mem_nil
  | some segment => exact mem_of_mem_splitOn (hchosen segment rfl) h

theorem mem_of_mark_mem_typeName {d : Char} (hd : IsMark d) {path : String}
    (h : d ∈ (typeName path).toList) : d ∈ path.toList := by
  rw [typeName, String.toList_ofList] at h
  have hstem := mem_of_mem_dropGeneratedMark (mem_of_mark_mem_canonicalCaseChars hd h)
  rw [List.getLastD_eq_getLast?] at hstem
  exact mem_of_mem_getD (fun _ => List.mem_of_getLast?) hstem

theorem beforeVersion?_mem {segments : List (List Char)} {dir : List Char}
    (h : beforeVersion? segments = some dir) : dir ∈ segments := by
  fun_induction beforeVersion? segments with
  | case1 a b rest hversion =>
      rw [← Option.some.inj h]
      exact List.mem_cons_self
  | case2 a b rest hno ih => exact List.mem_cons_of_mem _ (ih h)
  | case3 => exact absurd h (by simp)

theorem mem_of_mem_moduleKey {c : Char} {path : String} (h : c ∈ (moduleKey path).toList) :
    c ∈ path.toList := by
  rw [moduleKey] at h
  split at h
  · rename_i dir hdir
    rw [String.toList_ofList] at h
    exact mem_of_mem_splitOn (List.dropLast_subset _ (beforeVersion?_mem hdir)) h
  · split at h
    · rw [String.toList_ofList, List.headD_eq_head?_getD] at h
      exact mem_of_mem_getD (fun _ => List.mem_of_mem_head?) h
    · exact absurd h List.not_mem_nil

end ConnectClients.Identifier
