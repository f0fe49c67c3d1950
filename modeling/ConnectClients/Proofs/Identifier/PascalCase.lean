import ConnectClients.Identifier
import ConnectClients.Proofs.Text.Marks

/-!
# Pascal case

The Pascal-case form of a token has no underscore, whatever the token is made
of: the token is cut at its underscores, and changing the case of a piece makes
no new ones, nor any other mark. Import aliases start with an underscore, so they
are never in Pascal case.
-/

namespace ConnectClients.Identifier

open Text

theorem underscore_isMark : IsMark '_' := by decide

theorem mem_of_mark_mem_canonicalSegment {d : Char} (hd : IsMark d) {segment : List Char}
    (h : d ∈ canonicalSegment segment) : d ∈ segment := by
  cases segment with
  | nil => exact h
  | cons c rest =>
      rw [canonicalSegment] at h
      split at h
      · exact h
      · rw [List.mem_append] at h
        rcases h with h | h
        · rw [eq_of_mark_mem_upperOf hd h]
          exact List.mem_cons_self
        · exact List.mem_cons_of_mem _ (mem_of_mark_mem_lower hd h)

/-- Pascal case makes no marks. -/
theorem mem_of_mark_mem_canonicalCaseChars {d : Char} (hd : IsMark d) {token : List Char}
    (h : d ∈ canonicalCaseChars token) : d ∈ token := by
  obtain ⟨segment, hmem, hin⟩ := List.mem_flatMap.mp h
  exact mem_of_mem_splitOn hmem (mem_of_mark_mem_canonicalSegment hd hin)

theorem underscore_not_mem_canonicalCaseChars (token : List Char) :
    '_' ∉ canonicalCaseChars token := by
  intro h
  obtain ⟨segment, hmem, hin⟩ := List.mem_flatMap.mp h
  exact sep_not_mem_of_mem_splitOn hmem (mem_of_mark_mem_canonicalSegment underscore_isMark hin)

/-- **The Pascal-case form of any text has no underscore.** -/
theorem underscore_not_mem_canonicalCase (token : String) :
    '_' ∉ (canonicalCase token).toList := by
  rw [canonicalCase, String.toList_ofList]
  exact underscore_not_mem_canonicalCaseChars token.toList

theorem head?_importAlias (path : String) :
    (importAlias path).toList.head? = some '_' := by
  rw [importAlias, String.toList_append, String.toList_append]
  rfl

end ConnectClients.Identifier
