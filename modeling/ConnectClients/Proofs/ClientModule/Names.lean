import Mathlib.Data.List.Basic
import ConnectClients.Output
import ConnectClients.Proofs.Files.Path
import ConnectClients.Proofs.Text.Lines
import ConnectClients.Proofs.Text.Marks

/-!
# Names of clients and their files

A service whose name is a word has a client whose file is a single entry of the
services directory: no change of case makes a slash. Clients of different names have
different files, and none of these is the index.
-/

namespace ConnectClients

open Text

namespace Identifier

theorem mem_of_mark_mem_lowerFirst {name : String} {d : Char} (hd : IsMark d)
    (h : d ∈ (lowerFirst name).toList) : d ∈ name.toList := by
  rw [lowerFirst] at h
  cases hname : name.toList with
  | nil =>
      rw [hname] at h
      exact h
  | cons c rest =>
      rw [hname] at h
      simp only [String.toList_ofList] at h
      rcases List.mem_append.mp h with h | h
      · rw [List.mem_singleton.mp (mem_of_mark_mem_lower hd h)]
        exact List.mem_cons_self
      · exact List.mem_cons_of_mem _ h

theorem mem_of_mem_clientName {service : String} {c : Char}
    (h : c ∈ (clientName service).toList) : c ∈ service.toList := by
  rw [clientName] at h
  split at h
  · rename_i first rest hdrop
    rw [String.toList_ofList] at h
    exact dropSuffix?_subset hdrop h
  · exact h

end Identifier

namespace ClientEntry

theorem length_fileName (entry : ClientEntry) : 10 ≤ entry.fileName.toList.length := by
  have hending : ".client.ts".toList.length = 10 := by decide
  rw [fileName, String.toList_append, List.length_append, hending]
  omega

/-- A text that is shorter than the ending of clients is no file of a client. -/
theorem fileName_ne_of_length (entry : ClientEntry) {s : String} (h : s.toList.length < 10) :
    entry.fileName ≠ s := by
  rintro rfl
  have hlong := entry.length_fileName
  omega

theorem fileName_ne_index (entry : ClientEntry) : entry.fileName ≠ Output.indexName :=
  entry.fileName_ne_of_length (by decide)

theorem fileName_ne_transport (entry : ClientEntry) : entry.fileName ≠ Output.transportName := by
  intro heq
  have hending : ".client.ts".toList <:+ Output.transportName.toList := by
    rw [← heq, fileName, String.toList_append]
    exact List.suffix_append _ _
  exact absurd hending (by decide)

theorem camelName_eq_of_fileName_eq {first second : ClientEntry}
    (h : first.fileName = second.fileName) : first.camelName = second.camelName := by
  have hlist := congrArg String.toList h
  rw [fileName, fileName, String.toList_append, String.toList_append] at hlist
  exact String.toList_inj.mp (List.append_cancel_right hlist)

/-- The names of the client of a word have only marks that are part of words. -/
theorem mark_not_mem_camelName {serviceName : String} {d : Char}
    (h : ∀ c ∈ serviceName.toList, isWord c = true) (hd : IsMark d) (hword : isWord d = false) :
    d ∉ (ofService serviceName).camelName.toList := by
  intro hmem
  have hservice := Identifier.mem_of_mem_clientName (Identifier.mem_of_mark_mem_lowerFirst hd hmem)
  rw [h d hservice] at hword
  exact Bool.noConfusion hword

theorem isName_fileName {serviceName : String} (h : ∀ c ∈ serviceName.toList, isWord c = true) :
    Path.IsName (ofService serviceName).fileName where
  no_slash := by
    have hname : '/' ∉ (ofService serviceName).camelName.toList :=
      mark_not_mem_camelName h (by decide) (by decide)
    have hending : '/' ∉ ".client.ts".toList := by decide
    rw [fileName, String.toList_append, List.mem_append, not_or]
    exact ⟨hname, hending⟩
  ne_empty := fileName_ne_of_length _ (by decide)
  ne_dot := fileName_ne_of_length _ (by decide)
  ne_up := fileName_ne_of_length _ (by decide)

end ClientEntry

end ConnectClients
