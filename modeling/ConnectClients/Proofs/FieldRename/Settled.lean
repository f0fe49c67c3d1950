import ConnectClients.Proofs.Assoc
import ConnectClients.Proofs.FieldRename.Renames

/-!
# Renaming what was renamed

A name is settled if no entry gives it another name. Where all new names are settled, renaming
settles all that a text declares, so that renaming the text once more finds nothing to do.
-/

namespace ConnectClients.FieldRename

open Text Identifier

/-! ## Names in schemas -/

theorem isWord_toUpper {c : Char} (h : c.isLower = true) : isWord c.toUpper = true := by
  have hall : ((List.range 128).map Char.ofNat).all
      (fun c => !c.isLower || isWord c.toUpper) = true := by
    decide +kernel
  have hlow : c.toNat < 128 := by
    unfold Char.isLower at h
    rw [Bool.and_eq_true, decide_eq_true_eq, decide_eq_true_eq] at h
    have hle : c.val ≤ 'z'.val := h.2
    exact Nat.lt_of_le_of_lt hle (by decide)
  have hc := List.all_eq_true.mp hall c
    (List.mem_map.mpr ⟨c.toNat, List.mem_range.mpr hlow, Char.ofNat_toNat c⟩)
  rw [h] at hc
  exact hc

/-- Camel case makes a name of a name. -/
theorem isNameText_camelCaseChars {field : List Char} (h : IsNameText field) :
    IsNameText (camelCaseChars field) := by
  obtain ⟨hne, hword⟩ := h
  constructor
  · cases field with
    | nil => exact absurd rfl hne
    | cons c rest =>
        intro hnil
        unfold camelCaseChars at hnil
        split at hnil
        · split at hnil <;> cases hnil
        · cases hnil
        · rename_i heq
          cases heq
  · -- the induction is on all fields, the empty one with them
    clear hne
    induction field using camelCaseChars.induct with
    | case1 c rest hlower ih =>
        rw [camelCaseChars, if_pos hlower]
        intro d hd
        rcases List.mem_cons.mp hd with rfl | hd
        · exact isWord_toUpper hlower
        · exact ih (fun e he => hword e (by simp [he])) d hd
    | case2 c rest hlower ih =>
        rw [camelCaseChars, if_neg hlower]
        intro d hd
        rcases List.mem_cons.mp hd with rfl | hd
        · decide
        · exact ih (fun e he => hword e (List.mem_cons_of_mem _ he)) d hd
    | case3 c rest hpair ih =>
        rw [camelCaseChars]
        · intro d hd
          rcases List.mem_cons.mp hd with rfl | hd
          · exact hword _ List.mem_cons_self
          · exact ih (fun e he => hword e (List.mem_cons_of_mem _ he)) d hd
        · exact hpair
    | case4 => exact fun _ hd => absurd hd List.not_mem_nil

theorem isNameText_of_readJsonName {cs name rest : List Char}
    (h : readJsonName cs = some (name, rest)) : IsNameText name := by
  simp only [readJsonName, Option.bind_eq_bind, Option.bind_eq_some_iff, Prod.exists,
    Option.pure_def, Option.some.injEq, Prod.mk.injEq] at h
  obtain ⟨_, -, _, -, _, -, name', _, hname, _, -, rfl, -⟩ := h
  exact (run?_eq_some hname).2

theorem isNameText_of_findJsonName {cs name rest : List Char}
    (h : findJsonName cs = some (name, rest)) : IsNameText name := by
  induction cs with
  | nil => cases h
  | cons c cs ih =>
      rw [findJsonName] at h
      split at h
      · rename_i found hfound
        obtain ⟨⟨name', rest'⟩, hread, hclose⟩ := Option.bind_eq_some_iff.mp hfound
        obtain ⟨_, -, rfl⟩ := Option.map_eq_some_iff.mp hclose
        cases h
        exact isNameText_of_readJsonName hread
      · split at h
        · cases h
        · exact ih h

theorem isNameText_of_readField {cs field name rest : List Char}
    (h : readField cs = some ((field, name), rest)) : IsNameText field ∧ IsNameText name := by
  simp only [readField, Option.bind_eq_bind, Option.bind_eq_some_iff, Prod.exists,
    Option.pure_def, Option.some.injEq, Prod.mk.injEq] at h
  obtain ⟨_, _, -, _, -, field', _, hfield, _, -, _, _, -, _, -, name', _, hname, ⟨rfl, rfl⟩, -⟩ := h
  exact ⟨(run?_eq_some hfield).2, isNameText_of_findJsonName hname⟩

/-- What a schema declares are names for names. -/
theorem areFieldNames_ofSchema (source : String) : AreFieldNames (ofSchema source) := by
  intro e he
  rw [ofSchema, Assoc.ofList] at he
  obtain ⟨⟨field, name⟩, hfound, rfl⟩ :=
    List.mem_map.mp ((Assoc.mem_putAll he).resolve_right List.not_mem_nil)
  obtain ⟨start, rest, hread⟩ := mem_scanAll hfound
  obtain ⟨hfield, hname⟩ := isNameText_of_readField hread
  unfold IsFieldName
  rw [String.toList_ofList, String.toList_ofList]
  exact ⟨isNameText_camelCaseChars hfield, hname⟩

theorem AreFieldNames.putAll {entries pairs : List (String × String)} (h : AreFieldNames entries)
    (hpairs : AreFieldNames pairs) : AreFieldNames (Assoc.putAll entries pairs) :=
  fun e he => (Assoc.mem_putAll he).elim (hpairs e) (h e)

/-! ## Settled names -/

/-- No entry gives the name another name. -/
def Settled (mappings : List (String × String)) (name : String) : Prop :=
  ∀ e ∈ mappings, name = e.1 → e.2 = name

instance (mappings : List (String × String)) (name : String) : Decidable (Settled mappings name) :=
  inferInstanceAs (Decidable (∀ e ∈ mappings, name = e.1 → e.2 = name))

/-- All new names are settled: one that an entry is for is the one that the entry gives. -/
def Settles (mappings : List (String × String)) : Prop := ∀ e ∈ mappings, Settled mappings e.2

instance (mappings : List (String × String)) : Decidable (Settles mappings) :=
  inferInstanceAs (Decidable (∀ e ∈ mappings, Settled mappings e.2))

section mappings

variable {mappings : List (String × String)} {name : String}

theorem Settled.of_cons {e : String × String} (h : Settled (e :: mappings) name) :
    Settled mappings name :=
  fun e' he' => h e' (List.mem_cons_of_mem _ he')

/-- What a name is followed to is the name itself or a new one. -/
theorem follow_eq_or (mappings : List (String × String)) (name : String) :
    follow mappings name = name ∨ ∃ e ∈ mappings, follow mappings name = e.2 := by
  induction mappings generalizing name with
  | nil => exact Or.inl rfl
  | cons e rest ih =>
      show follow rest (if name = e.1 then e.2 else name) = name ∨
        ∃ e' ∈ e :: rest, follow rest (if name = e.1 then e.2 else name) = e'.2
      rcases ih (if name = e.1 then e.2 else name) with hself | ⟨e', he', hnew⟩
      · rw [hself]
        split
        · exact Or.inr ⟨e, List.mem_cons_self, rfl⟩
        · exact Or.inl rfl
      · exact Or.inr ⟨e', List.mem_cons_of_mem _ he', hnew⟩

/-- A name is followed to a settled one, given that all new names are settled. -/
theorem settled_follow (h : Settles mappings) (name : String) :
    Settled mappings (follow mappings name) := by
  have hfollow : ∀ {rest : List (String × String)}, (∀ e ∈ rest, e ∈ mappings) → ∀ name,
      Settled rest (FieldRename.follow rest name) := by
    intro rest
    induction rest with
    | nil => exact fun _ _ e he => absurd he List.not_mem_nil
    | cons e rest ih =>
        intro hsub name
        have hrest : ∀ e' ∈ rest, e' ∈ mappings := fun e' he' => hsub e' (List.mem_cons_of_mem _ he')
        have hnew : ∀ e' ∈ e :: rest, Settled (e :: rest) e'.2 :=
          fun e' he' e'' he'' => h e' (hsub e' he') e'' (hsub e'' he'')
        show Settled (e :: rest) (FieldRename.follow rest (if name = e.1 then e.2 else name))
        rcases follow_eq_or rest (if name = e.1 then e.2 else name) with hself | ⟨e', he', heq⟩
        · by_cases hname : name = e.1
          · rw [hself, if_pos hname]
            exact hnew e List.mem_cons_self
          · -- neither this entry nor a later one is for the name
            have hlater := ih hrest name
            rw [if_neg hname] at hself ⊢
            rw [hself] at hlater ⊢
            exact List.forall_mem_cons.mpr ⟨fun heq => absurd heq hname, hlater⟩
        · rw [heq]
          exact hnew e' (List.mem_cons_of_mem _ he')
  exact hfollow (fun _ he => he) name

/-! ## Renaming once more -/

theorem renamed_swap_of_not_mem {old new cs : List Char} (hnew : IsNameText new)
    (h : old ∉ names false cs) : renamed (swap old new) false cs = cs := by
  have hid : KeepsNames id := fun _ h => h
  conv_rhs => rw [← renamed_id false cs]
  rw [renamed_eq_iff (swap_keepsNames hnew) hid]
  intro name hname
  have hother : name ≠ old := fun heq => h (heq ▸ hname)
  exact if_neg hother

theorem applyChars_of_settled (hnames : AreFieldNames mappings) {cs : List Char}
    (h : ∀ name ∈ names false cs, Settled mappings (String.ofList name)) :
    applyChars mappings cs = .ok (cs, false) := by
  induction mappings with
  | nil => rfl
  | cons e rest ih =>
      obtain ⟨old, new⟩ := e
      have hrest := ih (fun e he => hnames e (List.mem_cons_of_mem _ he))
        fun name hname => (h name hname).of_cons
      obtain ⟨hold, hnew⟩ := hnames (old, new) List.mem_cons_self
      rw [applyChars]
      by_cases hsame : old = new
      · rw [if_pos (beq_iff_eq.mpr hsame), hrest]
      · have hmissing : old.toList ∉ names false cs := by
          intro hmem
          have hsettled := h _ hmem (old, new) List.mem_cons_self (String.ofList_toList)
          rw [String.ofList_toList] at hsettled
          exact hsame hsettled.symm
        rw [if_neg (by simpa using hsame), read_templateText hnew]
        dsimp only [bind, Except.bind]
        rw [replaceAll_eq hold fun h => absurd h Bool.false_ne_true,
          renamed_swap_of_not_mem hnew hmissing, List.count_eq_zero.mpr hmissing, hrest]
        rfl

/-- A text that is not modified is left as it is, and declares settled names only. -/
theorem applyChars_unmodified (hnames : AreFieldNames mappings) {cs out : List Char}
    (h : applyChars mappings cs = .ok (out, false)) :
    out = cs ∧ ∀ name ∈ names false cs, Settled mappings (String.ofList name) := by
  induction mappings generalizing cs with
  | nil =>
      cases h
      exact ⟨rfl, fun _ _ e he => absurd he List.not_mem_nil⟩
  | cons e rest ih =>
      obtain ⟨old, new⟩ := e
      have hrest : AreFieldNames rest := fun e he => hnames e (List.mem_cons_of_mem _ he)
      obtain ⟨hold, hnew⟩ := hnames (old, new) List.mem_cons_self
      rw [applyChars] at h
      by_cases hsame : old = new
      · rw [if_pos (beq_iff_eq.mpr hsame)] at h
        obtain ⟨hout, hsettled⟩ := ih hrest h
        refine ⟨hout, fun name hname => List.forall_mem_cons.mpr ⟨fun heq => ?_, hsettled name hname⟩⟩
        rw [heq]
        exact hsame.symm
      · rw [if_neg (by simpa using hsame), read_templateText hnew] at h
        dsimp only [bind, Except.bind] at h
        rw [replaceAll_eq hold fun h => absurd h Bool.false_ne_true] at h
        -- nothing was counted, for this name or a later one
        split at h
        · cases h
        · rename_i found hrun
          obtain ⟨out', modified⟩ := found
          obtain ⟨rfl, hcount⟩ := Prod.mk.inj (Except.ok.inj h)
          rw [Bool.or_eq_false_iff, bne_eq_false_iff_eq] at hcount
          obtain ⟨hcount, rfl⟩ := hcount
          have hmissing := List.count_eq_zero.mp hcount
          rw [renamed_swap_of_not_mem hnew hmissing] at hrun
          obtain ⟨hout, hsettled⟩ := ih hrest hrun
          refine ⟨hout, fun name hname => List.forall_mem_cons.mpr ⟨fun heq => ?_, hsettled name hname⟩⟩
          refine absurd ?_ hmissing
          rw [← heq, String.toList_ofList]
          exact hname

theorem apply_unmodified (hnames : AreFieldNames mappings) {content out : String}
    (h : apply mappings content = .ok (out, false)) :
    out = content ∧ ∀ name ∈ declaredIn content, Settled mappings name := by
  rw [apply] at h
  cases hrun : applyChars mappings content.toList with
  | error fault =>
      rw [hrun] at h
      cases h
  | ok found =>
      obtain ⟨cs, modified⟩ := found
      rw [hrun] at h
      cases h
      obtain ⟨rfl, hsettled⟩ := applyChars_unmodified hnames hrun
      refine ⟨String.ofList_toList, fun name hname => ?_⟩
      obtain ⟨cs, hcs, rfl⟩ := List.mem_map.mp hname
      exact hsettled cs hcs

/-- A text that declares settled names only is left alone. -/
theorem apply_of_settled (hnames : AreFieldNames mappings) {content : String}
    (h : ∀ name ∈ declaredIn content, Settled mappings name) :
    apply mappings content = .ok (content, false) := by
  have hrun : applyChars mappings content.toList = .ok (content.toList, false) := by
    apply applyChars_of_settled hnames
    exact fun name hname => h _ (List.mem_map_of_mem hname)
  rw [apply, hrun]
  dsimp only [bind, Except.bind, pure, Except.pure]
  rw [String.ofList_toList]

/-- Renaming follows each declared name through all entries, and it tells of a change exactly if one
of the names is not settled, be it given back in the end. -/
theorem apply_eq_decide (hnames : AreFieldNames mappings) (content : String) :
    apply mappings content = .ok (rename (follow mappings) content,
      decide (¬ ∀ name ∈ declaredIn content, Settled mappings name)) := by
  obtain ⟨modified, hrun⟩ := apply_eq hnames content
  rw [hrun]
  congr 2
  by_cases hsettled : ∀ name ∈ declaredIn content, Settled mappings name
  · rw [apply_of_settled hnames hsettled] at hrun
    rw [decide_eq_false (not_not.mpr hsettled)]
    exact (Prod.mk.inj (Except.ok.inj hrun)).2.symm
  · rw [decide_eq_true hsettled]
    cases modified with
    | true => rfl
    | false => exact absurd (apply_unmodified hnames hrun).2 hsettled

theorem declaredIn_rename {f : String → String} (hf : ∀ name, IsFieldName name → IsFieldName (f name))
    (content : String) : declaredIn (rename f content) = (declaredIn content).map f := by
  rw [declaredIn, declaredIn, rename, String.toList_ofList, names, names,
    pieces_renamed (keepsNames_of_isFieldName hf), List.map_map, List.filterMap_map,
    List.map_filterMap, List.map_filterMap]
  refine List.filterMap_congr fun p _ => ?_
  cases p with
  | other c => rfl
  | declared name =>
      show some (String.ofList (f (String.ofList name)).toList) = some (f (String.ofList name))
      rw [String.ofList_toList]

/-- Renaming a text that was renamed changes nothing, given that all new names are settled. -/
theorem apply_apply (hnames : AreFieldNames mappings) (hsettles : Settles mappings)
    {content out : String} {modified : Bool} (h : apply mappings content = .ok (out, modified)) :
    apply mappings out = .ok (out, false) := by
  obtain ⟨modified', hrun⟩ := apply_eq hnames content
  rw [hrun] at h
  cases h
  apply apply_of_settled hnames
  rw [declaredIn_rename fun _ => isFieldName_follow hnames]
  intro name hname
  obtain ⟨name', -, rfl⟩ := List.mem_map.mp hname
  exact settled_follow hsettles name'

/-- Renaming puts no character into a text but those of names. -/
theorem not_mem_rename {f : String → String} (hf : ∀ name, IsFieldName name → IsFieldName (f name))
    {c : Char} (hc : isWord c = false) {content : String} (h : c ∉ content.toList) :
    c ∉ (rename f content).toList := by
  have hkeeps := keepsNames_of_isFieldName hf
  rw [rename, String.toList_ofList]
  have hpieces : ∀ (behind : Bool) (cs : List Char), c ∉ cs →
      c ∉ renamed (fun name => (f (String.ofList name)).toList) behind cs := by
    intro behind cs
    induction behind, cs using pieces.induct with
    | case1 behind => exact fun _ => by rw [renamed_nil]; exact List.not_mem_nil
    | case2 behind d cs hdeclared ih =>
        intro hcs
        simp only [Bool.and_eq_true] at hdeclared
        obtain ⟨⟨rfl, hword⟩, hmark⟩ := hdeclared
        have hname := hkeeps _ (isNameText_takeWhile hword cs)
        have hrest : c ∉ cs.dropWhile isWord := fun hmem =>
          hcs (List.mem_cons_of_mem _ ((List.dropWhile_sublist isWord).subset hmem))
        rw [renamed, pieces_declared hword hmark, List.map_cons, List.flatMap_cons,
          List.mem_append, not_or]
        refine ⟨fun hmem => ?_, ih hrest⟩
        rw [hname.2 c hmem] at hc
        exact Bool.noConfusion hc
    | case3 behind d cs hother ih =>
        intro hcs
        rw [List.mem_cons, not_or] at hcs
        rw [renamed_other (by simpa using hother), List.mem_cons, not_or]
        exact ⟨hcs.1, ih hcs.2⟩
  exact hpieces false _ h

theorem rename_id (content : String) : rename id content = content := by
  have hid : (fun name => (id (String.ofList name)).toList) = id := by
    funext name
    exact String.toList_ofList
  rw [rename, hid, renamed_id, String.ofList_toList]

/-- A text stays as it is if every name that it declares is given back in the end. -/
theorem rename_follow_eq_self_iff (hnames : AreFieldNames mappings) {content : String} :
    rename (follow mappings) content = content ↔
      ∀ name ∈ declaredIn content, follow mappings name = name := by
  conv_lhs => rhs; rw [← rename_id content]
  exact rename_eq_iff (fun _ => isFieldName_follow hnames) (fun _ h => h)

end mappings

end ConnectClients.FieldRename
