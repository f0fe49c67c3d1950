import ConnectClients.Proofs.Yaml.Tree
import ConnectClients.Yaml.Document
import Mathlib.Data.List.Forall2

/-!
# Values of plain scalars

A plain scalar is loaded as its own text exactly if it resolves to a string. A list, or a mapping
with names as keys, has the value that is asked of it exactly if its parts have theirs.
-/

namespace ConnectClients.Yaml

open Parse (plainNode)
open Value (fieldsValue)

namespace Built

variable {α β : Type}

theorem map_eq_ok_iff {f : α → β} {b : Built α} {c : β} :
    f <$> b = .ok c ↔ ∃ a, b = .ok a ∧ f a = c := by
  cases b with
  | ok a =>
      show Built.ok (f a) = .ok c ↔ _
      simp
  | fault level e =>
      show Built.fault level e = .ok c ↔ _
      simp

theorem seq_eq_ok_iff {f : Built (α → β)} {b : Built α} {c : β} :
    f <*> b = .ok c ↔ ∃ g a, f = .ok g ∧ b = .ok a ∧ g a = c := by
  show f.apply b = .ok c ↔ _
  cases f with
  | ok g => cases b <;> simp [apply]
  | fault l e =>
      cases b with
      | ok a => simp [apply]
      | fault m e' =>
          simp only [apply, reduceCtorEq, false_and, exists_false, iff_false]
          split <;> simp

end Built

/-! ## Scalars -/

theorem kind_timeValue {text : List Char} {v : Value} (h : timeValue text = .ok v) :
    v.kind ≠ .str := by
  rw [timeValue] at h
  dsimp only at h
  cases hread : readTime? ((Text.dropSuffix? ['\n'] text).getD text) with
  | none =>
      rw [hread] at h
      cases h
  | some t =>
      -- whether there is a time of day or not, the value starts with the day
      cases hclock : t.clock with
      | none =>
          simp only [hread, hclock] at h
          cases hday : dayOf t <;> rw [hday] at h <;> cases h
          simp [Value.kind]
      | some clock =>
          simp only [hread, hclock, bind, Except.bind, pure, Except.pure, throw, throwThe,
            MonadExceptOf.throw] at h
          repeat' split at h
          all_goals cases h
          simp [Value.kind]

/-- Only under its own tag is a scalar a string. -/
theorem tag_of_kind_str {tag : Tag} {text : ScalarText} {v : Value}
    (h : scalarValue tag text = .ok v) (hkind : v.kind = .str) : tag = .str := by
  cases tag with
  | str => rfl
  | null =>
      cases h
      cases hkind
  | merge | value | unknown | omap | pairs | set | seq | map => cases h
  | bool =>
      cases hswitch : switchValue text.text <;> rw [scalarValue, hswitch] at h <;> cases h
      cases hkind
  | int =>
      cases hint : intValue text.text <;> rw [scalarValue, hint] at h <;> cases h
      cases hkind
  | float =>
      cases hfloat : floatValue text.text <;> rw [scalarValue, hfloat] at h <;> cases h
      cases hkind
  | binary =>
      rw [scalarValue] at h
      split at h
      · split at h
        · cases h
          cases hkind
        · cases h
      · cases h
  | timestamp => exact absurd hkind (kind_timeValue h)

namespace Node

variable {level : Nat}

theorem resolve_of_build {text : List Char} {v : Value}
    (h : (plainNode text).build level = .ok v) (hkind : v.kind = .str) : resolve text = .str := by
  have hscalar : scalarValue (resolve text) ⟨text, none⟩ = .ok v := by
    rw [plainNode, build.eq_def] at h
    dsimp only at h
    split at h
    all_goals first
      | cases h
      | skip
    cases hvalue : scalarValue (resolve text) ⟨text, none⟩ with
    | error e =>
        rw [hvalue] at h
        cases h
    | ok w =>
        rw [hvalue] at h
        cases h
        rfl
  exact tag_of_kind_str hscalar hkind

theorem build_plain_iff {s : String} :
    (plainNode s.toList).build level = .ok (.str s) ↔ resolve s.toList = .str := by
  constructor
  · exact fun h => resolve_of_build h rfl
  · intro h
    rw [plainNode, h]
    show Built.ok (Value.str (String.ofList s.toList)) = _
    rw [String.ofList_toList]

/-! ## Lists -/

theorem buildItems_eq_ok_iff {items : List Node} {values : List Value} :
    buildItems level items = .ok values ↔
      List.Forall₂ (fun n v => n.build level = .ok v) items values := by
  induction items generalizing values with
  | nil =>
      rw [buildItems, List.forall₂_nil_left_iff, Built.ok.injEq]
      exact eq_comm
  | cons item rest ih =>
      rw [buildItems, List.forall₂_cons_left_iff, Built.seq_eq_ok_iff]
      simp only [Built.map_eq_ok_iff, ih]
      constructor
      · rintro ⟨_, vs, ⟨v, hv, rfl⟩, hvs, rfl⟩
        exact ⟨v, vs, hv, hvs, rfl⟩
      · rintro ⟨v, vs, hv, hvs, rfl⟩
        exact ⟨_, vs, ⟨v, hv, rfl⟩, hvs, rfl⟩

theorem build_sequence_eq_ok_iff {items : List Node} {v : Value} :
    (Node.sequence .seq items).build level = .ok v ↔
      ∃ values, v = .list values ∧
        List.Forall₂ (fun n w => n.build (level + 1) = .ok w) items values := by
  rw [build, Built.map_eq_ok_iff]
  simp only [buildItems_eq_ok_iff]
  exact exists_congr fun values => and_comm.trans (and_congr_left' eq_comm)

theorem build_sequence_iff {items : List Node} {values : List Value} :
    (Node.sequence .seq items).build level = .ok (.list values) ↔
      List.Forall₂ (fun n v => n.build (level + 1) = .ok v) items values := by
  simp [build_sequence_eq_ok_iff]

/-! ## Mappings -/

/-- A mapping with plain scalars as keys. -/
def fieldsNode (fields : List (String × Node)) : Node :=
  .mapping .map (fields.map fun f => (plainNode f.1.toList, f.2))

/-- Names that are loaded as strings, each of them once. -/
structure AreKeys (names : List String) : Prop where
  texts : ∀ name ∈ names, resolve name.toList = .str
  nodup : names.Nodup

theorem AreKeys.sublist {names names' : List String} (h : AreKeys names)
    (hsub : List.Sublist names' names) : AreKeys names' :=
  ⟨fun name hname => h.texts name (hsub.subset hname), h.nodup.sublist hsub⟩

/-- Fields that have values, each under its own name. -/
def LoadAs (level : Nat) (fields : List (String × Node)) (values : List (String × Value)) : Prop :=
  List.Forall₂ (fun f v => f.1 = v.1 ∧ f.2.build level = .ok v.2) fields values

variable {fields fields' : List (String × Node)} {values values' : List (String × Value)}

theorem loadAs_nil : LoadAs level [] [] := .nil

theorem loadAs_cons_iff {name : String} {n : Node} {v : Value} :
    LoadAs level ((name, n) :: fields) ((name, v) :: values) ↔
      n.build level = .ok v ∧ LoadAs level fields values := by
  simp [LoadAs]

theorem LoadAs.exists_cons {name : String} {n : Node} (h : LoadAs level ((name, n) :: fields) values) :
    ∃ v rest, values = (name, v) :: rest ∧ n.build level = .ok v ∧ LoadAs level fields rest := by
  obtain ⟨⟨_, v⟩, rest, ⟨rfl, hv⟩, hrest, rfl⟩ := List.forall₂_cons_left_iff.mp h
  exact ⟨v, rest, rfl, hv, hrest⟩

theorem loadAs_append_iff (h : fields.length = values.length) :
    LoadAs level (fields ++ fields') (values ++ values') ↔
      LoadAs level fields values ∧ LoadAs level fields' values' := by
  induction fields generalizing values with
  | nil =>
      obtain rfl := List.length_eq_zero_iff.mp h.symm
      simp [LoadAs]
  | cons f rest ih =>
      cases values with
      | nil => cases h
      | cons v values =>
          have hrest := @ih values (Nat.succ.inj h)
          simp only [LoadAs] at hrest ⊢
          simp [hrest, and_assoc]

theorem LoadAs.names (h : LoadAs level fields values) :
    values.map Prod.fst = fields.map Prod.fst := by
  have heq : List.Forall₂ (· = ·) (fields.map Prod.fst) (values.map Prod.fst) :=
    List.forall₂_map_left_iff.mpr (List.forall₂_map_right_iff.mpr (h.imp fun _ _ h => h.1))
  rw [List.forall₂_eq_eq_eq] at heq
  exact heq.symm

/-- An entry whose key asks for nothing special is merged from nowhere. -/
theorem buildMerged_cons {k v : Node} {rest : List (Node × Node)} (hk : k.tag = .str) :
    buildMerged level ((k, v) :: rest) = buildMerged level rest := by
  conv_lhs => unfold buildMerged
  rw [hk, if_neg (by decide)]

theorem buildOwn_cons {k v : Node} {rest : List (Node × Node)} (hk : k.tag = .str) :
    buildOwn level ((k, v) :: rest) =
      (fun a b es => (a, b) :: es) <$> (k.build level).asKey level <*> v.build level
        <*> buildOwn level rest := by
  conv_lhs => unfold buildOwn
  rw [hk, if_neg (by decide), if_neg (by decide)]

theorem buildOwn_eq_ok_iff (h : ∀ name ∈ fields.map Prod.fst, resolve name.toList = .str)
    {entries : List (Value × Value)} :
    buildOwn level (fields.map fun f => (plainNode f.1.toList, f.2)) = .ok entries ↔
      ∃ values : List (String × Value), entries = values.map (fun f => (.str f.1, f.2)) ∧
        LoadAs level fields values := by
  induction fields generalizing entries with
  | nil =>
      simp only [LoadAs, List.map_nil, buildOwn, List.forall₂_nil_left_iff, exists_eq_right,
        Built.ok.injEq]
      exact eq_comm
  | cons f rest ih =>
      obtain ⟨name, n⟩ := f
      obtain ⟨hname, hrest⟩ := List.forall_mem_cons.mp h
      have hkey : ((plainNode name.toList).build level).asKey level = .ok (.str name) := by
        rw [build_plain_iff.mpr hname]
        rfl
      rw [List.map_cons, buildOwn_cons (show (plainNode name.toList).tag = .str from hname), hkey]
      simp only [Built.seq_eq_ok_iff, Built.map_eq_ok_iff, ih hrest]
      constructor
      · rintro ⟨_, _, ⟨_, v, ⟨_, ⟨⟩, rfl⟩, hv, rfl⟩, ⟨vs, rfl, hvs⟩, rfl⟩
        exact ⟨(name, v) :: vs, rfl, .cons ⟨rfl, hv⟩ hvs⟩
      · rintro ⟨_, rfl, hvs⟩
        obtain ⟨⟨_, v⟩, vs, ⟨rfl, hv⟩, hrest, rfl⟩ := List.forall₂_cons_left_iff.mp hvs
        exact ⟨_, _, ⟨_, v, ⟨_, rfl, rfl⟩, hv, rfl⟩, ⟨vs, rfl, hrest⟩, rfl⟩

theorem buildMerged_eq_ok (h : ∀ name ∈ fields.map Prod.fst, resolve name.toList = .str) :
    buildMerged level (fields.map fun f => (plainNode f.1.toList, f.2)) = .ok [] := by
  induction fields with
  | nil => rfl
  | cons f rest ih =>
      obtain ⟨hname, hrest⟩ := List.forall_mem_cons.mp h
      rw [List.map_cons, buildMerged_cons (show (plainNode f.1.toList).tag = .str from hname),
        ih hrest]

theorem canMerge_fields (h : ∀ name ∈ fields.map Prod.fst, resolve name.toList = .str) :
    canMerge (fields.map fun f => (plainNode f.1.toList, f.2)) = true := by
  induction fields with
  | nil => rfl
  | cons f rest ih =>
      obtain ⟨hname, hrest⟩ := List.forall_mem_cons.mp h
      have hmerge : ((plainNode f.1.toList).tag != Tag.merge) = true := by
        rw [plainNode, tag, hname]
        rfl
      rw [List.map_cons, canMerge, hmerge, ih hrest]
      rfl

theorem putEntry_of_new {key : String} {value : Value} {entries : List (String × Value)}
    (h : key ∉ entries.map Prod.fst) :
    Value.putEntry (.str key) value (entries.map fun f => (.str f.1, f.2)) =
      (entries ++ [(key, value)]).map fun f => (.str f.1, f.2) := by
  induction entries with
  | nil => rfl
  | cons e rest ih =>
      rw [List.map_cons, List.mem_cons, not_or] at h
      have hother : ¬ (Value.str e.1).sameKey (.str key) = true := by
        simpa [Value.sameKey] using Ne.symm h.1
      rw [List.map_cons, Value.putEntry, if_neg hother, ih h.2]
      rfl

/-- Entries under distinct names stay as they are. -/
theorem fold_fields (h : (values.map Prod.fst).Nodup) :
    build.fold [] (values.map fun f => (.str f.1, f.2)) = values.map fun f => (.str f.1, f.2) := by
  have hfold : ∀ (done rest : List (String × Value)), ((done ++ rest).map Prod.fst).Nodup →
      (rest.map fun f => (Value.str f.1, f.2)).foldl (fun d e => Value.putEntry e.1 e.2 d)
        (done.map fun f => (Value.str f.1, f.2)) =
      (done ++ rest).map fun f => (Value.str f.1, f.2) := by
    intro done rest hnodup
    induction rest generalizing done with
    | nil => rw [List.append_nil, List.map_nil, List.foldl_nil]
    | cons e rest ih =>
        have hnew : e.1 ∉ done.map Prod.fst := by
          rw [List.map_append, List.map_cons] at hnodup
          exact fun hmem => (List.nodup_append.mp hnodup).2.2 _ hmem _ List.mem_cons_self rfl
        rw [List.map_cons, List.foldl_cons, putEntry_of_new hnew, ih, List.append_assoc]
        · rfl
        · rwa [List.append_assoc]
  exact hfold [] values h

/-- What a mapping is loaded as: its fields, each under its own name. -/
theorem build_fields_eq_ok_iff (h : AreKeys (fields.map Prod.fst)) {v : Value} :
    (fieldsNode fields).build level = .ok v ↔
      ∃ values, v = fieldsValue values ∧ LoadAs (level + 1) fields values := by
  have hfold : ∀ {values : List (String × Value)}, LoadAs (level + 1) fields values →
      build.fold [] (values.map fun f => (.str f.1, f.2)) =
        values.map fun f => (.str f.1, f.2) := by
    intro values hvalues
    refine fold_fields ?_
    rw [hvalues.names]
    exact h.nodup
  rw [fieldsNode, build, if_pos (canMerge_fields h.texts), buildMerged_eq_ok h.texts]
  simp only [Built.map_eq_ok_iff, Built.seq_eq_ok_iff, buildOwn_eq_ok_iff h.texts, fieldsValue]
  constructor
  · rintro ⟨_, ⟨_, _, ⟨_, ⟨⟩, rfl⟩, ⟨values, rfl, hvalues⟩, rfl⟩, rfl⟩
    exact ⟨values, congrArg Value.dict (hfold hvalues), hvalues⟩
  · rintro ⟨values, rfl, hvalues⟩
    exact ⟨_, ⟨_, _, ⟨_, rfl, rfl⟩, ⟨values, rfl, hvalues⟩, hfold hvalues⟩, rfl⟩

/-- A mapping has a value exactly if its fields have theirs. -/
theorem build_fields_iff (h : AreKeys (fields.map Prod.fst)) :
    (fieldsNode fields).build level = .ok (fieldsValue values) ↔
      LoadAs (level + 1) fields values := by
  have hinjective : Function.Injective fun f : String × Value => (Value.str f.1, f.2) := by
    rintro ⟨a, v⟩ ⟨b, w⟩ hab
    simpa using hab
  rw [build_fields_eq_ok_iff h]
  constructor
  · rintro ⟨own, heq, hown⟩
    rw [fieldsValue, fieldsValue, Value.dict.injEq] at heq
    rw [hinjective.list_map heq]
    exact hown
  · exact fun hvalues => ⟨values, rfl, hvalues⟩

end Node

end ConnectClients.Yaml
