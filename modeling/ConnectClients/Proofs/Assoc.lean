import Mathlib.Data.List.Induction
import Mathlib.Data.List.Nodup
import ConnectClients.Assoc

/-!
# Dictionaries of lists

Adding an element under a key keeps all other elements, puts the key in once,
and adds nothing else. Elements that are added one after the other stand in groups:
the keys in the order of their first appearance, and under each key its elements.
-/

namespace ConnectClients.Assoc

variable {κ ν : Type} [BEq κ] [LawfulBEq κ]

/-! ## Distinct elements -/

theorem mem_distinct {a : κ} : ∀ {as : List κ}, a ∈ distinct as ↔ a ∈ as := by
  intro as
  induction as with
  | nil => simp [distinct]
  | cons b rest ih =>
      rw [distinct, List.mem_cons, List.mem_filter, ih, List.mem_cons]
      by_cases hab : a = b
      · simp [hab]
      · simp [hab]

theorem distinct_nodup : ∀ as : List κ, (distinct as).Nodup := by
  intro as
  induction as with
  | nil => exact List.nodup_nil
  | cons b rest ih =>
      rw [distinct, List.nodup_cons]
      exact ⟨by simp, ih.filter _⟩

/-- `bs` lists the elements of `as`, each once, in the order of their first appearance. -/
structure FirstSeen (as bs : List κ) : Prop where
  nodup : bs.Nodup
  mem_iff : ∀ {a}, a ∈ bs ↔ a ∈ as
  ordered : bs.Pairwise fun a b => as.idxOf a < as.idxOf b

theorem distinct_of_nodup {as : List κ} (h : as.Nodup) : distinct as = as := by
  induction as with
  | nil => rfl
  | cons a rest ih =>
      obtain ⟨hnew, hrest⟩ := List.nodup_cons.mp h
      rw [distinct, ih hrest, List.filter_eq_self.mpr]
      intro other hother
      rw [bne_iff_ne]
      rintro rfl
      exact hnew hother

theorem distinct_firstSeen (as : List κ) : FirstSeen as (distinct as) where
  nodup := distinct_nodup as
  mem_iff := mem_distinct
  ordered := by
    induction as with
    | nil => exact List.Pairwise.nil
    | cons b rest ih =>
        have hlater : ∀ {a}, a ∈ (distinct rest).filter (· != b) →
            (b :: rest).idxOf a = rest.idxOf a + 1 := by
          intro a ha
          have hne : a ≠ b := by simpa using (List.mem_filter.mp ha).2
          exact List.idxOf_cons_ne rest (Ne.symm hne)
        rw [distinct, List.pairwise_cons]
        refine ⟨fun a ha => ?_, (ih.filter _).imp_of_mem fun ha hb hlt => ?_⟩
        · rw [hlater ha, List.idxOf_cons_self]
          exact Nat.succ_pos _
        · rw [hlater ha, hlater hb]
          exact Nat.succ_lt_succ hlt

/-- Choosing among the distinct elements is choosing before repetitions are dropped. -/
theorem distinct_filter (p : κ → Bool) (as : List κ) :
    (distinct as).filter p = distinct (as.filter p) := by
  induction as with
  | nil => rfl
  | cons b rest ih =>
      have hcomm : ((distinct rest).filter (· != b)).filter p =
          (distinct (rest.filter p)).filter (· != b) := by
        rw [← ih, List.filter_filter, List.filter_filter]
        exact List.filter_congr fun a _ => Bool.and_comm _ _
      by_cases hb : p b = true
      · rw [distinct, List.filter_cons_of_pos hb, List.filter_cons_of_pos hb, distinct, hcomm]
      · -- a dropped element is gone already
        have hgone : ∀ a ∈ distinct (rest.filter p), (a != b) = true := by
          intro a ha
          rw [bne_iff_ne]
          rintro rfl
          exact hb (List.mem_filter.mp (mem_distinct.mp ha)).2
        rw [distinct, List.filter_cons_of_neg hb, List.filter_cons_of_neg hb, hcomm,
          List.filter_eq_self.mpr hgone]

/-- One element more at the end is new, or it was there. -/
theorem distinct_concat [DecidableEq κ] (as : List κ) (a : κ) :
    distinct (as ++ [a]) = if a ∈ as then distinct as else distinct as ++ [a] := by
  induction as with
  | nil => rfl
  | cons b rest ih =>
      rw [List.cons_append, distinct, distinct, ih]
      by_cases hab : a = b
      · subst hab
        by_cases hrest : a ∈ rest <;> simp [hrest]
      · by_cases hrest : a ∈ rest <;> simp [hab, hrest]

theorem distinct_map_distinct [DecidableEq κ] [DecidableEq ν] (f : ν → κ) (as : List ν) :
    distinct ((distinct as).map f) = distinct (as.map f) := by
  induction as using List.reverseRecOn with
  | nil => rfl
  | append_singleton as a ih =>
      rw [distinct_concat, List.map_append, List.map_singleton, distinct_concat]
      by_cases ha : a ∈ as
      · rw [if_pos ha, if_pos (List.mem_map_of_mem ha), ih]
      · rw [if_neg ha, List.map_append, List.map_singleton, distinct_concat, ih]
        simp only [List.mem_map, mem_distinct]

/-! ## Adding under a key -/

theorem mem_keys_append {k key : κ} {value : ν} : ∀ {d : List (κ × List ν)},
    k ∈ (append key value d).map Prod.fst ↔ k = key ∨ k ∈ d.map Prod.fst := by
  intro d
  induction d with
  | nil => simp [append]
  | cons p rest ih =>
      obtain ⟨k', vs⟩ := p
      rw [append]
      by_cases h : k' == key
      · rw [if_pos h, ← eq_of_beq h]
        simp
      · rw [if_neg h, List.map_cons, List.mem_cons, ih, List.map_cons, List.mem_cons]
        tauto

theorem keys_append_nodup {key : κ} {value : ν} : ∀ {d : List (κ × List ν)},
    (d.map Prod.fst).Nodup → ((append key value d).map Prod.fst).Nodup := by
  intro d
  induction d with
  | nil => simp [append]
  | cons p rest ih =>
      obtain ⟨k', vs⟩ := p
      intro hnd
      rw [append]
      by_cases h : k' == key
      · rw [if_pos h]
        exact hnd
      · rw [if_neg h, List.map_cons, List.nodup_cons, mem_keys_append]
        rw [List.map_cons, List.nodup_cons] at hnd
        refine ⟨?_, ih hnd.2⟩
        rintro (hkey | hmem)
        · exact h (by simpa using hkey)
        · exact hnd.1 hmem

omit [LawfulBEq κ] in
/-- The elements under all keys are those from before and the new one. -/
theorem values_append_perm (key : κ) (value : ν) : ∀ d : List (κ × List ν),
    ((append key value d).flatMap Prod.snd).Perm (value :: d.flatMap Prod.snd) := by
  intro d
  induction d with
  | nil => exact List.Perm.refl _
  | cons p rest ih =>
      obtain ⟨k', vs⟩ := p
      rw [append]
      by_cases h : k' == key
      · rw [if_pos h, List.flatMap_cons, List.flatMap_cons, List.append_assoc]
        exact List.perm_middle
      · rw [if_neg h, List.flatMap_cons, List.flatMap_cons]
        exact (ih.append_left vs).trans List.perm_middle

/-- An element stands under a key if it was added there. -/
theorem exists_mem_append {key k : κ} {value a : ν} : ∀ {d : List (κ × List ν)},
    (∃ vs, (k, vs) ∈ append key value d ∧ a ∈ vs) ↔
      (k = key ∧ a = value) ∨ ∃ vs, (k, vs) ∈ d ∧ a ∈ vs := by
  intro d
  induction d with
  | nil => simp [append]
  | cons p rest ih =>
      obtain ⟨k', vs⟩ := p
      rw [append]
      by_cases h : k' == key
      · have hkey := eq_of_beq h
        subst hkey
        rw [if_pos h]
        simp only [List.mem_cons, Prod.mk.injEq, or_and_right, exists_or, and_assoc,
          exists_and_left, exists_eq_left, List.mem_append, List.not_mem_nil, or_false]
        tauto
      · rw [if_neg h]
        simp only [List.mem_cons, Prod.mk.injEq, or_and_right, exists_or, ih]
        exact or_left_comm

/-! ## Groups -/

omit [LawfulBEq κ] in
theorem append_map {μ : Type} (f : ν → μ) (key : κ) (value : ν) (d : List (κ × List ν)) :
    (append key value d).map (fun p => (p.1, p.2.map f)) =
      append key (f value) (d.map fun p => (p.1, p.2.map f)) := by
  induction d with
  | nil => rfl
  | cons p rest ih =>
      obtain ⟨k, vs⟩ := p
      rw [append]
      by_cases h : k == key
      · simp [append, h]
      · simp [append, h, ih]

/-- Adding an element to groups adds it at the end of its group, which may be a new one. -/
theorem append_groups [DecidableEq κ] (members : κ → List ν) (key : κ) (value : ν) {keys : List κ}
    (hnd : keys.Nodup) (hnew : key ∉ keys → members key = []) :
    append key value (keys.map fun k => (k, members k)) =
      (if key ∈ keys then keys else keys ++ [key]).map fun k =>
        (k, members k ++ if k = key then [value] else []) := by
  induction keys with
  | nil => simp [append, hnew]
  | cons k rest ih =>
      obtain ⟨hk, hrest⟩ := List.nodup_cons.mp hnd
      rw [List.map_cons, append]
      by_cases heq : k = key
      · subst heq
        have hothers : ∀ k' ∈ rest, (k', members k') =
            (k', members k' ++ if k' = k then [value] else []) := by
          intro k' hk'
          have hne : k' ≠ k := by
            rintro rfl
            exact hk hk'
          simp [hne]
        simp [List.map_congr_left hothers]
      · have hmem : key ∈ k :: rest ↔ key ∈ rest := by simp [Ne.symm heq]
        rw [if_neg (by simpa using heq), ih hrest fun hno => hnew (hmem.not.mpr hno)]
        by_cases hin : key ∈ rest <;> simp [hin, heq, Ne.symm heq]

/-- Elements that are added one after the other under their keys stand in groups. -/
theorem foldl_append_eq [DecidableEq κ] (key : ν → κ) (as : List ν) :
    as.foldl (fun d a => append (key a) a d) [] =
      (distinct (as.map key)).map fun k => (k, as.filter fun a => key a == k) := by
  induction as using List.reverseRecOn with
  | nil => rfl
  | append_singleton as a ih =>
      have hnew : key a ∉ distinct (as.map key) → (as.filter fun b => key b == key a) = [] := by
        rw [mem_distinct, List.mem_map]
        intro hno
        refine List.filter_eq_nil_iff.mpr fun b hb heq => hno ⟨b, hb, eq_of_beq heq⟩
      rw [List.foldl_concat, ih, append_groups _ _ _ (distinct_nodup _) hnew, List.map_append,
        List.map_singleton, distinct_concat]
      simp only [mem_distinct]
      refine List.map_congr_left fun k _ => ?_
      rw [List.filter_append]
      by_cases hk : k = key a
      · simp [hk]
      · simp [hk, Ne.symm hk]

/-- Values that are added one after the other under the keys they are paired with. -/
theorem foldl_append_pairs [DecidableEq κ] (pairs : List (κ × ν)) :
    pairs.foldl (fun d p => append p.1 p.2 d) [] =
      (distinct (pairs.map Prod.fst)).map fun k =>
        (k, (pairs.filter fun p => p.1 == k).map Prod.snd) := by
  have hvalues := congrArg (List.map fun p : κ × List (κ × ν) => (p.1, p.2.map Prod.snd))
    (foldl_append_eq Prod.fst pairs)
  have hfold : (pairs.foldl (fun d p => append p.1 p d) []).map
      (fun p : κ × List (κ × ν) => (p.1, p.2.map Prod.snd)) =
        pairs.foldl (fun d p => append p.1 p.2 d) [] :=
    (List.foldl_hom _ fun d p => (append_map Prod.snd p.1 p d).symm).symm
  rw [List.map_map, hfold] at hvalues
  exact hvalues

omit [LawfulBEq κ] in
theorem values_foldl_append_perm (key : ν → κ) {μ : Type} (value : ν → μ) (as : List ν)
    (d : List (κ × List μ)) :
    ((as.foldl (fun d a => append (key a) (value a) d) d).flatMap Prod.snd).Perm
      (as.map value ++ d.flatMap Prod.snd) := by
  induction as generalizing d with
  | nil => exact List.Perm.refl _
  | cons a as ih =>
      rw [List.foldl_cons, List.map_cons, List.cons_append]
      exact (ih _).trans (((values_append_perm (key a) (value a) d).append_left _).trans
        List.perm_middle)

/-! ## Pairs -/

/-- A pair of a dictionary is the one that was put, or was there. -/
theorem mem_put {key : κ} {value : ν} {e : κ × ν} {d : List (κ × ν)} (h : e ∈ put key value d) :
    e = (key, value) ∨ e ∈ d := by
  induction d with
  | nil => exact Or.inl (List.mem_singleton.mp h)
  | cons p rest ih =>
      obtain ⟨k, v⟩ := p
      rw [put] at h
      split at h
      · rename_i heq
        rcases List.mem_cons.mp h with rfl | h
        · exact Or.inl (by rw [eq_of_beq heq])
        · exact Or.inr (List.mem_cons_of_mem _ h)
      · rcases List.mem_cons.mp h with rfl | h
        · exact Or.inr List.mem_cons_self
        · exact (ih h).imp_right (List.mem_cons_of_mem _)

theorem mem_putAll {e : κ × ν} {entries pairs : List (κ × ν)} (h : e ∈ putAll entries pairs) :
    e ∈ pairs ∨ e ∈ entries := by
  induction pairs generalizing entries with
  | nil => exact Or.inr h
  | cons p rest ih =>
      rcases ih h with h | h
      · exact Or.inl (List.mem_cons_of_mem _ h)
      · rcases mem_put h with rfl | h
        · exact Or.inl List.mem_cons_self
        · exact Or.inr h

omit [LawfulBEq κ] in
theorem putAll_append (entries first more : List (κ × ν)) :
    putAll entries (first ++ more) = putAll (putAll entries first) more :=
  List.foldl_append

omit [LawfulBEq κ] in
theorem put_ne_nil (key : κ) (value : ν) (d : List (κ × ν)) : put key value d ≠ [] := by
  cases d with
  | nil => exact List.cons_ne_nil _ _
  | cons p rest =>
      rw [put]
      split <;> exact List.cons_ne_nil _ _

omit [LawfulBEq κ] in
theorem ofList_eq_nil_iff {pairs : List (κ × ν)} : ofList pairs = [] ↔ pairs = [] := by
  constructor
  · intro h
    rcases List.eq_nil_or_concat pairs with hnil | ⟨before, last, hlast⟩
    · exact hnil
    · rw [ofList, hlast, List.concat_eq_append, putAll_append] at h
      exact absurd h (put_ne_nil _ _ _)
  · rintro rfl
    rfl

theorem put_of_not_mem {key : κ} {d : List (κ × ν)} (h : key ∉ d.map Prod.fst) (value : ν) :
    put key value d = d ++ [(key, value)] := by
  induction d with
  | nil => rfl
  | cons p rest ih =>
      rw [List.map_cons, List.mem_cons, not_or] at h
      have hne : (p.1 == key) = false := by simpa using Ne.symm h.1
      rw [put, hne, if_neg Bool.false_ne_true, ih h.2]
      rfl

theorem putAll_of_nodup {entries pairs : List (κ × ν)}
    (h : ((entries ++ pairs).map Prod.fst).Nodup) : putAll entries pairs = entries ++ pairs := by
  induction pairs generalizing entries with
  | nil => exact (List.append_nil entries).symm
  | cons p rest ih =>
      have hsplit : entries ++ p :: rest = (entries ++ [p]) ++ rest := by simp
      have hnew : p.1 ∉ entries.map Prod.fst := by
        rw [List.map_append, List.map_cons] at h
        exact fun hmem => (List.nodup_append.mp h).2.2 _ hmem _ List.mem_cons_self rfl
      rw [hsplit] at h
      rw [hsplit, ← ih h, ← put_of_not_mem hnew p.2]
      rfl

/-- Pairs with distinct keys make a dictionary as they are. -/
theorem ofList_of_nodup {pairs : List (κ × ν)} (h : (pairs.map Prod.fst).Nodup) :
    ofList pairs = pairs :=
  putAll_of_nodup h

/-! ## Looking up -/

theorem lookup_put (key k : κ) (value : ν) : ∀ d : List (κ × ν),
    (put key value d).lookup k = if k == key then some value else d.lookup k := by
  intro d
  induction d with
  | nil =>
      rw [put, List.lookup_cons]
      cases k == key <;> rfl
  | cons p rest ih =>
      obtain ⟨k', v⟩ := p
      rw [put]
      by_cases h : k' == key
      · have hkey := eq_of_beq h
        subst hkey
        rw [if_pos h, List.lookup_cons, List.lookup_cons]
        cases k == k' <;> rfl
      · rw [if_neg h, List.lookup_cons, List.lookup_cons, ih]
        by_cases hk : k == k'
        · have hne : (k == key) = false := by
            rw [eq_of_beq hk]
            simpa using h
          simp [hk, hne]
        · simp [hk]

theorem lookup_putAll (k : κ) (pairs : List (κ × ν)) : ∀ entries : List (κ × ν),
    (putAll entries pairs).lookup k = (pairs.reverse.lookup k).or (entries.lookup k) := by
  induction pairs with
  | nil =>
      intro entries
      rfl
  | cons p rest ih =>
      intro entries
      have hstep := ih (put p.1 p.2 entries)
      rw [lookup_put] at hstep
      rw [putAll, List.foldl_cons, ← putAll, hstep, List.reverse_cons, List.lookup_append,
        Option.or_assoc, List.lookup_cons]
      cases k == p.1 <;> rfl

/-- The last pair with a key counts. -/
theorem lookup_ofList (k : κ) (pairs : List (κ × ν)) :
    (ofList pairs).lookup k = pairs.reverse.lookup k := by
  rw [ofList, lookup_putAll, List.lookup_nil, Option.or_none]

end ConnectClients.Assoc
