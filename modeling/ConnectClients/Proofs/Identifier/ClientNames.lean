import Mathlib.Data.List.Basic
import ConnectClients.Identifier
import ConnectClients.Proofs.Service.Methods
import ConnectClients.Proofs.Text.Lowering

/-!
# Names of clients

The name of a client is that of its service without the suffix, and the constant that holds the
client has the name with a small first letter. A name that has one already is its own constant's.
-/

namespace ConnectClients.Identifier

open Text

variable {name service stem : String} {c : Char} {rest : List Char}

/-! ## A small first letter -/

theorem toList_lowerFirst (h : name.toList = c :: rest) :
    (lowerFirst name).toList = lowerOf c ++ rest := by
  rw [lowerFirst, h, String.toList_ofList, lower_singleton]

theorem toList_lowerFirst_nil (h : name.toList = []) : (lowerFirst name).toList = [] := by
  rw [lowerFirst, h]
  rfl

/-- A name with a small first letter stays as it is. -/
theorem lowerFirst_lowerFirst (name : String) : lowerFirst (lowerFirst name) = lowerFirst name := by
  rw [← String.toList_inj]
  cases hname : name.toList with
  | nil => rw [toList_lowerFirst_nil (toList_lowerFirst_nil hname), toList_lowerFirst_nil hname]
  | cons c rest =>
      have hfirst := toList_lowerFirst hname
      obtain ⟨d, more, hlower⟩ := List.exists_cons_of_ne_nil (lowerOf_ne_nil c)
      rw [hlower, List.cons_append] at hfirst
      rw [toList_lowerFirst hfirst, (lowerOf_head hlower).1, hfirst]
      rfl

/-- A name has a small first letter if its first character is its own lower case. -/
theorem lowerFirst_eq_self_iff :
    lowerFirst name = name ↔ ∀ c ∈ name.toList.head?, lowerOf c = [c] := by
  rw [← String.toList_inj]
  cases hname : name.toList with
  | nil => simp [toList_lowerFirst_nil hname]
  | cons c rest =>
      rw [toList_lowerFirst hname]
      have hsplit : c :: rest = [c] ++ rest := rfl
      rw [hsplit, List.append_left_inj]
      simp

theorem length_le_lowerFirst (name : String) :
    name.toList.length ≤ (lowerFirst name).toList.length := by
  cases hname : name.toList with
  | nil => exact Nat.zero_le _
  | cons c rest =>
      have hpos := List.length_pos_iff.mpr (lowerOf_ne_nil c)
      rw [toList_lowerFirst hname, List.length_append, List.length_cons]
      omega

theorem lowerFirst_ne_empty (h : name ≠ "") : lowerFirst name ≠ "" := by
  intro hempty
  have hlength := length_le_lowerFirst name
  rw [hempty] at hlength
  exact h (String.toList_eq_nil_iff.mp (List.eq_nil_of_length_eq_zero (Nat.le_zero.mp hlength)))

/-- A small first letter brings in no blank. -/
theorem not_blank_of_mem_lowerFirst (h : ∀ c ∈ name.toList, isBlank c = false) :
    ∀ c ∈ (lowerFirst name).toList, isBlank c = false := by
  cases hname : name.toList with
  | nil =>
      rw [toList_lowerFirst_nil hname]
      exact List.forall_mem_nil _
  | cons c rest =>
      rw [hname] at h
      rw [toList_lowerFirst hname]
      intro d hd
      rcases List.mem_append.mp hd with hd | hd
      · exact not_blank_of_mem_lowerOf (h c List.mem_cons_self) hd
      · exact h d (List.mem_cons_of_mem _ hd)

/-! ## Without the suffix -/

/-- What has another ending is another name. -/
theorem append_ne {ending : String} (h : ¬ ending.toList <:+ name.toList) : stem ++ ending ≠ name := by
  rintro rfl
  rw [String.toList_append] at h
  exact h (List.suffix_append _ _)

theorem clientName_append (h : stem ≠ "") : clientName (stem ++ "Service") = stem := by
  obtain ⟨c, rest, hstem⟩ := List.exists_cons_of_ne_nil (mt String.toList_eq_nil_iff.mp h)
  rw [clientName, String.toList_append]
  rw [show serviceSuffix = "Service".toList from rfl, dropSuffix?_append, hstem]
  dsimp only
  rw [← hstem, String.ofList_toList]

/-- A service is called like its client, or it has the suffix on top. -/
theorem clientName_cases (service : String) :
    (clientName service = service ∧ (service = "Service" ∨ ¬ serviceSuffix <:+ service.toList)) ∨
      (clientName service ≠ "" ∧ service = clientName service ++ "Service") := by
  by_cases hsuffix : serviceSuffix <:+ service.toList
  · obtain ⟨stem, hstem⟩ := hsuffix
    have hservice : service = String.ofList stem ++ "Service" := by
      rw [← String.toList_inj, String.toList_append, String.toList_ofList]
      exact hstem.symm
    by_cases hne : String.ofList stem = ""
    · rw [hne] at hservice
      subst hservice
      exact Or.inl ⟨by decide, Or.inl rfl⟩
    · rw [hservice, clientName_append hne]
      exact Or.inr ⟨hne, rfl⟩
  · left
    have hdrop : dropSuffix? serviceSuffix service.toList = none := by
      rw [dropSuffix?, if_neg (mt List.isSuffixOf_iff_suffix.mp hsuffix)]
    rw [clientName, hdrop]
    exact ⟨rfl, Or.inr hsuffix⟩

theorem clientName_ne_empty (h : service ≠ "") : clientName service ≠ "" := by
  rcases clientName_cases service with ⟨heq, -⟩ | ⟨hne, -⟩
  · rwa [heq]
  · exact hne

theorem head?_clientName (service : String) :
    (clientName service).toList.head? = service.toList.head? := by
  rcases clientName_cases service with ⟨heq, -⟩ | ⟨hne, heq⟩
  · rw [heq]
  · have hfirst : service.toList = (clientName service).toList ++ "Service".toList := by
      rw [← String.toList_append, ← heq]
    rw [hfirst, List.head?_append_of_ne_nil _ (mt String.toList_eq_nil_iff.mp hne)]

theorem clientName_eq_iff (hne : stem ≠ "") (hsuffix : ¬ serviceSuffix <:+ stem.toList) :
    clientName service = stem ↔ service = stem ∨ service = stem ++ "Service" := by
  constructor
  · rintro rfl
    exact (clientName_cases service).imp (fun h => h.1.symm) And.right
  · rintro (rfl | rfl)
    · rcases clientName_cases service with ⟨heq, -⟩ | ⟨-, heq⟩
      · exact heq
      · exact absurd heq.symm (append_ne hsuffix)
    · exact clientName_append hne

end ConnectClients.Identifier
