import ConnectClients.Proofs.FieldRename.Declarations
import ConnectClients.Proofs.Pattern.Replacement

/-!
# What renaming does

Renaming one name replaces it wherever it is declared. Renaming several names replaces
them one after the other, so that a name may be renamed again under its new name.
-/

namespace ConnectClients.FieldRename

open Text
open Pattern (ReplacementPart)

/-! ## Reading a declaration -/

variable {name old new rest : List Char}

/-- A mark is blanks and one character more, and none of them is declared. -/
theorem readMark_of_some {cs mark : List Char} (h : readMark cs = some (mark, rest)) :
    isMarked cs = true ∧ cs = mark ++ rest ∧ mark ≠ [] ∧
      pieces false cs = mark.map Piece.other ++ pieces false rest := by
  have hsplit : cs.takeWhile isBlank ++ cs.dropWhile isBlank = cs :=
    List.takeWhile_append_dropWhile
  have hblanks : ∀ c ∈ cs.takeWhile isBlank, isBlank c = true :=
    fun c hc => List.all_eq_true.mp List.all_takeWhile c hc
  have hsign : ∃ c, (c = '=' ∨ c = ':') ∧ cs.dropWhile isBlank = c :: rest ∧
      mark = cs.takeWhile isBlank ++ [c] := by
    unfold readMark at h
    split at h
    · rename_i tail heq
      cases h
      exact ⟨'=', Or.inl rfl, heq, rfl⟩
    · rename_i tail heq
      cases h
      exact ⟨':', Or.inr rfl, heq, rfl⟩
    · cases h
  obtain ⟨c, hc, hdrop, rfl⟩ := hsign
  have hplain : isWord c = false ∧ isBlank c = false := by
    rcases hc with rfl | rfl <;> decide
  have htext : cs = cs.takeWhile isBlank ++ c :: rest := by rw [← hdrop, hsplit]
  refine ⟨?_, by rw [List.append_assoc]; exact htext, by simp, ?_⟩
  · rw [isMarked, skipBlanks, hdrop]
    rcases hc with rfl | rfl <;> rfl
  · have hrest : ∀ behind, pieces behind (c :: rest) = .other c :: pieces false rest := by
      intro behind
      rw [pieces_other (by simp [hplain.1]), hplain.2]
    by_cases hnil : cs.takeWhile isBlank = []
    · rw [hnil, List.nil_append] at htext ⊢
      rw [htext]
      exact hrest false
    · conv_lhs => rw [htext, pieces_blanks hnil hblanks, hrest]
      simp

theorem readMark_isSome {cs : List Char} (h : isMarked cs = true) : (readMark cs).isSome = true := by
  rw [isMarked, skipBlanks] at h
  rw [readMark]
  cases hdrop : cs.dropWhile isBlank with
  | nil =>
      rw [hdrop] at h
      exact absurd h (by simp)
  | cons c rest =>
      rw [hdrop] at h
      have hc : c = '=' ∨ c = ':' := by simpa using h
      rcases hc with rfl | rfl <;> rfl

theorem readDeclared_short {blanks body : List Char} (hname : IsNameText name)
    (hblanks : ∀ c ∈ blanks, isBlank c = true) {n : Nat} (hn : n < blanks.length) :
    readDeclared name (blanks ++ body) n = none := by
  induction n with
  | zero => rfl
  | succ n ih =>
      have hnone : name.isPrefixOf? ((blanks ++ body).drop (n + 1)) = none := by
        rw [List.drop_append_of_le_length (Nat.le_of_lt hn), List.drop_eq_getElem_cons hn]
        have hblank := hblanks _ (List.getElem_mem hn)
        obtain ⟨hne, hword⟩ := hname
        cases name with
        | nil => exact absurd rfl hne
        | cons c cs =>
            have hc : (c == blanks[n + 1]) = false := by
              rw [beq_eq_false_iff_ne]
              rintro rfl
              rw [isBlank_of_isWord (hword _ List.mem_cons_self)] at hblank
              exact Bool.false_ne_true hblank
            rw [List.cons_append, List.isPrefixOf?, hc]
            rfl
      rw [readDeclared, hnone]
      exact ih (Nat.lt_of_succ_lt hn)

/-- A declaration is read behind all the blanks before it. -/
theorem readDeclaration_append {blanks body : List Char} (hname : IsNameText name)
    (hne : blanks ≠ []) (hblanks : ∀ c ∈ blanks, isBlank c = true)
    (hbody : ∀ c ∈ body.head?, isBlank c = false) :
    readDeclaration name (blanks ++ body) =
      ((name.isPrefixOf? body).bind readMark).map fun r => ((blanks, r.1), r.2) := by
  have htake : (blanks ++ body).takeWhile isBlank = blanks := by
    rw [List.takeWhile_append_of_pos hblanks]
    cases body with
    | nil => exact List.append_nil _
    | cons c body =>
        have hc : ¬ isBlank c = true := by simp [hbody c rfl]
        rw [List.takeWhile_cons_of_neg hc, List.append_nil]
  obtain ⟨n, hn⟩ := Nat.exists_eq_succ_of_ne_zero (mt List.length_eq_zero_iff.mp hne)
  rw [readDeclaration, htake, hn, readDeclared, ← Nat.succ_eq_add_one, ← hn, List.drop_left,
    List.take_left]
  cases (name.isPrefixOf? body).bind readMark with
  | some r => rfl
  | none => exact readDeclared_short hname hblanks (by omega)

theorem readDeclaration_of_some {cs lead mark : List Char} (hname : IsNameText name)
    (h : readDeclaration name cs = some ((lead, mark), rest)) :
    lead ≠ [] ∧ (∀ c ∈ lead, isBlank c = true) ∧
      ∃ body, cs = lead ++ (name ++ body) ∧ readMark body = some (mark, rest) := by
  have hsplit : cs.takeWhile isBlank ++ cs.dropWhile isBlank = cs :=
    List.takeWhile_append_dropWhile
  have hblanks : ∀ c ∈ cs.takeWhile isBlank, isBlank c = true :=
    fun c hc => List.all_eq_true.mp List.all_takeWhile c hc
  have hbody : ∀ c ∈ (cs.dropWhile isBlank).head?, isBlank c = false := by
    intro c hc
    have hnot := List.head?_dropWhile_not isBlank cs
    rw [Option.mem_def.mp hc] at hnot
    simpa using hnot
  by_cases hnil : cs.takeWhile isBlank = []
  · rw [readDeclaration, hnil] at h
    cases h
  · rw [← hsplit, readDeclaration_append hname hnil hblanks hbody, Option.map_eq_some_iff] at h
    obtain ⟨⟨mark', rest'⟩, hread, heq⟩ := h
    cases heq
    obtain ⟨body, hprefix, hmark⟩ := Option.bind_eq_some_iff.mp hread
    refine ⟨hnil, hblanks, body, ?_, hmark⟩
    rw [← isPrefixOf?_eq_some_iff.mp hprefix, hsplit]

/-! ## Replacing one name -/

/-- The template that puts a new name in the place of the old one. -/
def nameTemplate (new : List Char) : List ReplacementPart :=
  .group 1 :: (new.map (fun c => .text [c]) ++ [.group 2])

theorem read_templateText {new : String} (h : IsNameText new.toList) :
    ReplacementPart.read 2 (templateText new) = .ok (nameTemplate new.toList) := by
  apply ReplacementPart.read_between
  intro hmem
  exact absurd (h.2 _ hmem) (by decide)

theorem expand_nameTemplate (groups : Nat → List Char) (new : List Char) :
    ReplacementPart.expand groups (nameTemplate new) = groups 1 ++ new ++ groups 2 := by
  show groups 1 ++ ReplacementPart.expand groups (_ ++ [.group 2]) = _
  rw [ReplacementPart.expand_append, ReplacementPart.expand_text, List.append_assoc]
  show _ ++ (_ ++ (groups 2 ++ [])) = _
  rw [List.append_nil]

/-- The new name for the old one, and every other name as it is. -/
def swap (old new name : List Char) : List Char := if name = old then new else name

theorem swap_keepsNames (hnew : IsNameText new) : KeepsNames (swap old new) := by
  intro name hname
  rw [swap]
  split
  · exact hnew
  · exact hname

/-- The pieces from a declaration on. -/
theorem pieces_declaration {behind : Bool} {lead mark body : List Char} (hname : IsNameText name)
    (hne : lead ≠ []) (hlead : ∀ c ∈ lead, isBlank c = true)
    (hmark : readMark body = some (mark, rest)) :
    pieces behind (lead ++ (name ++ body)) =
      lead.map Piece.other ++ .declared name :: (mark.map Piece.other ++ pieces false rest) := by
  obtain ⟨hmarked, -, -, hpieces⟩ := readMark_of_some hmark
  rw [pieces_blanks hne hlead, pieces_append hname hmarked, hpieces]

theorem renamed_declaration {f : List Char → List Char} {behind : Bool}
    {lead mark body : List Char} (hname : IsNameText name) (hne : lead ≠ [])
    (hlead : ∀ c ∈ lead, isBlank c = true) (hmark : readMark body = some (mark, rest)) :
    renamed f behind (lead ++ (name ++ body)) = lead ++ f name ++ mark ++ renamed f false rest := by
  rw [renamed, pieces_declaration hname hne hlead hmark, List.map_append, List.flatMap_append,
    text_others, List.map_cons, List.flatMap_cons, List.map_append, List.flatMap_append, text_others,
    List.append_assoc, List.append_assoc]
  rfl

theorem names_declaration {behind : Bool} {lead mark body : List Char} (hname : IsNameText name)
    (hne : lead ≠ []) (hlead : ∀ c ∈ lead, isBlank c = true)
    (hmark : readMark body = some (mark, rest)) :
    names behind (lead ++ (name ++ body)) = name :: names false rest := by
  rw [names, pieces_declaration hname hne hlead hmark, List.filterMap_append, names_others,
    List.nil_append, List.filterMap_cons]
  show name :: List.filterMap Piece.name? (_ ++ _) = _
  rw [List.filterMap_append, names_others]
  rfl

/-- A character stays if the old name is not declared from it on. -/
theorem renamed_swap_cons (new : List Char) {behind : Bool} {c : Char} {cs : List Char}
    (hpassed : behind = true → ∀ rest, c :: cs = old ++ rest → isMarked rest = false) :
    renamed (swap old new) behind (c :: cs) = c :: renamed (swap old new) (isBlank c) cs ∧
      (names behind (c :: cs)).count old = (names (isBlank c) cs).count old := by
  cases hdeclared : behind && isWord c && isMarked (cs.dropWhile isWord) with
  | false =>
      refine ⟨renamed_other hdeclared, ?_⟩
      rw [names, pieces_other hdeclared]
      rfl
  | true =>
      -- another name is declared here, and it stays
      simp only [Bool.and_eq_true] at hdeclared
      obtain ⟨⟨rfl, hword⟩, hmark⟩ := hdeclared
      have hsplit : cs = cs.takeWhile isWord ++ cs.dropWhile isWord :=
        List.takeWhile_append_dropWhile.symm
      have hwords : ∀ d ∈ cs.takeWhile isWord, isWord d = true :=
        fun d hd => List.all_eq_true.mp List.all_takeWhile d hd
      have hother : c :: cs.takeWhile isWord ≠ old := by
        rintro rfl
        rw [hpassed rfl (cs.dropWhile isWord) (by rw [List.cons_append, ← hsplit])] at hmark
        exact Bool.false_ne_true hmark
      have hrest := pieces_words hwords (cs.dropWhile isWord)
      rw [← hsplit] at hrest
      have hhere := pieces_declared hword hmark
      rw [isBlank_of_isWord hword, renamed_others hrest]
      constructor
      · rw [renamed, hhere, List.map_cons, List.flatMap_cons, Piece.rename, swap, if_neg hother]
        rfl
      · rw [names, names, hhere, hrest, List.filterMap_append, names_others, List.filterMap_cons]
        exact List.count_cons_of_ne hother

/-- All declarations of a name are replaced, and counted. The text must not start with one
of them whose blank was passed already. -/
theorem replaceAll_eq (hold : IsNameText old) {behind : Bool} {cs : List Char}
    (hpassed : behind = true → ∀ rest, cs = old ++ rest → isMarked rest = false) :
    replaceAll old (nameTemplate new) cs =
      (renamed (swap old new) behind cs, (names behind cs).count old) := by
  induction cs using replaceAll.induct old (nameTemplate new) generalizing behind with
  | case1 =>
      rw [replaceAll, renamed_nil, names, pieces_nil]
      rfl
  | case2 c cs lead mark rest hread hle out count hout ih =>
      obtain ⟨hne, hlead, body, htext, hmark⟩ := readDeclaration_of_some hold hread
      rw [replaceAll, hread]
      simp only [hle, if_true]
      rw [ih (fun h => absurd h Bool.false_ne_true), expand_nameTemplate, htext,
        renamed_declaration hold hne hlead hmark, names_declaration hold hne hlead hmark, swap,
        if_pos rfl, List.count_cons_self]
      rfl
  | case3 c cs lead mark rest hread hgt out count hout ih =>
      -- what is left is always shorter
      obtain ⟨hne, -, body, htext, hmark⟩ := readDeclaration_of_some hold hread
      obtain ⟨-, rfl, -, -⟩ := readMark_of_some hmark
      have hlength := congrArg List.length htext
      have hlead := List.length_pos_of_ne_nil hne
      simp only [List.length_append, List.length_cons] at hlength
      omega
  | case4 c cs hread out count hout ih =>
      have hafter : isBlank c = true → ∀ rest, cs = old ++ rest → isMarked rest = false := by
        rintro hblank rest rfl
        by_contra hmark
        obtain ⟨r, hr⟩ := Option.isSome_iff_exists.mp (readMark_isSome (by simpa using hmark))
        have hhead : ∀ d ∈ (old ++ rest).head?, isBlank d = false := by
          cases old with
          | nil => exact absurd rfl hold.1
          | cons d ds =>
              rintro e ⟨⟩
              exact isBlank_of_isWord (hold.2 _ List.mem_cons_self)
        have hsome := readDeclaration_append hold (List.cons_ne_nil c [])
          (fun d hd => by rw [List.mem_singleton.mp hd]; exact hblank) hhead
        rw [List.singleton_append, hread, isPrefixOf?_eq_some_iff.mpr rfl, Option.bind_some, hr] at hsome
        exact absurd hsome (by simp)
      obtain ⟨hrenamed, hcount⟩ := renamed_swap_cons new hpassed
      rw [replaceAll, hread]
      simp only [ih hafter]
      rw [hrenamed, hcount]

/-! ## Replacing one name after the other -/

/-- Some word characters, and nothing else. -/
def IsFieldName (name : String) : Prop := IsNameText name.toList

/-- The text with a new name for each declared name. -/
def rename (f : String → String) (content : String) : String :=
  String.ofList (renamed (fun name => (f (String.ofList name)).toList) false content.toList)

/-- The names that are declared in a text. -/
def declaredIn (content : String) : List String :=
  (names false content.toList).map String.ofList

/-- What becomes of a name that every entry in turn may rename. -/
def follow (mappings : List (String × String)) (name : String) : String :=
  mappings.foldl (fun name e => if name = e.1 then e.2 else name) name

/-- The name that goes with a name as it stands in the text. -/
def newName (mappings : List (String × String)) (name : String) : String :=
  (mappings.lookup name).getD name

section strings

variable {f g : String → String} {content : String}

theorem keepsNames_of_isFieldName (hf : ∀ name, IsFieldName name → IsFieldName (f name)) :
    KeepsNames fun name => (f (String.ofList name)).toList := by
  intro name hname
  apply hf
  rw [IsFieldName, String.toList_ofList]
  exact hname

/-- Two renamings of a text agree exactly if they agree on the names that it declares. -/
theorem rename_eq_iff (hf : ∀ name, IsFieldName name → IsFieldName (f name))
    (hg : ∀ name, IsFieldName name → IsFieldName (g name)) :
    rename f content = rename g content ↔ ∀ name ∈ declaredIn content, f name = g name := by
  rw [rename, rename, String.ofList_inj,
    renamed_eq_iff (keepsNames_of_isFieldName hf) (keepsNames_of_isFieldName hg)]
  simp only [String.toList_inj, declaredIn, List.forall_mem_map]

end strings

/-- Mappings from field names to field names. -/
def AreFieldNames (mappings : List (String × String)) : Prop :=
  ∀ e ∈ mappings, IsFieldName e.1 ∧ IsFieldName e.2

section mappings

variable {mappings : List (String × String)}

theorem isFieldName_follow (hnames : AreFieldNames mappings) {name : String}
    (hname : IsFieldName name) : IsFieldName (follow mappings name) := by
  induction mappings generalizing name with
  | nil => exact hname
  | cons e rest ih =>
      apply ih (fun e' he' => hnames e' (List.mem_cons_of_mem _ he'))
      show IsFieldName (if name = e.1 then e.2 else name)
      split
      · exact (hnames e List.mem_cons_self).2
      · exact hname

theorem isFieldName_newName (hnames : AreFieldNames mappings) {name : String}
    (hname : IsFieldName name) : IsFieldName (newName mappings name) := by
  rw [newName]
  cases hlookup : mappings.lookup name with
  | none => exact hname
  | some new =>
      obtain ⟨before, after, rfl, -⟩ := List.lookup_eq_some_iff.mp hlookup
      exact (hnames (name, new) (by simp)).2

theorem applyChars_eq (hnames : AreFieldNames mappings) (cs : List Char) :
    ∃ modified, applyChars mappings cs =
      .ok (renamed (fun name => (follow mappings (String.ofList name)).toList) false cs, modified) := by
  induction mappings generalizing cs with
  | nil =>
      have hid : (fun name => (follow [] (String.ofList name)).toList) = id := by
        funext name
        exact String.toList_ofList
      exact ⟨false, by rw [hid, renamed_id]; rfl⟩
  | cons e rest ih =>
      obtain ⟨old, new⟩ := e
      have hrest : AreFieldNames rest := fun e he => hnames e (List.mem_cons_of_mem _ he)
      obtain ⟨hold, hnew⟩ := hnames (old, new) List.mem_cons_self
      rw [applyChars]
      by_cases hsame : old = new
      · -- such an entry is passed over, and it would rename nothing
        have hfollow : follow ((old, new) :: rest) = follow rest := by
          funext name
          show follow rest (if name = old then new else name) = _
          rw [← hsame, ite_eq_right_iff.mpr Eq.symm]
        rw [if_pos (beq_iff_eq.mpr hsame), hfollow]
        exact ih hrest cs
      · -- to follow all entries is to swap by the first one and to follow the others
        have hcompose : (fun name => (follow rest (String.ofList name)).toList) ∘
            swap old.toList new.toList =
            fun name => (follow ((old, new) :: rest) (String.ofList name)).toList := by
          funext name
          show (follow rest (String.ofList (swap old.toList new.toList name))).toList =
            (follow rest (if String.ofList name = old then new else String.ofList name)).toList
          by_cases hname : name = old.toList
          · rw [swap, if_pos hname, hname, String.ofList_toList, String.ofList_toList, if_pos rfl]
          · have hne : String.ofList name ≠ old := by
              rintro rfl
              exact hname String.toList_ofList.symm
            rw [swap, if_neg hname, if_neg hne]
        obtain ⟨modified, hrun⟩ := ih hrest (renamed (swap old.toList new.toList) false cs)
        rw [renamed_renamed (swap_keepsNames hnew), hcompose] at hrun
        rw [if_neg (by simpa using hsame), read_templateText hnew]
        dsimp only [bind, Except.bind]
        rw [replaceAll_eq hold fun h => absurd h Bool.false_ne_true, hrun]
        exact ⟨_, rfl⟩

/-- Renaming follows each declared name through all entries. -/
theorem apply_eq (hnames : AreFieldNames mappings) (content : String) :
    ∃ modified, apply mappings content = .ok (rename (follow mappings) content, modified) := by
  obtain ⟨modified, hrun⟩ := applyChars_eq hnames content.toList
  refine ⟨modified, ?_⟩
  rw [apply, hrun]
  rfl

/-- A name without an entry is followed to itself. -/
theorem follow_eq_self {name : String} (h : name ∉ mappings.map Prod.fst) :
    follow mappings name = name := by
  induction mappings with
  | nil => rfl
  | cons e rest ih =>
      rw [List.map_cons, List.mem_cons, not_or] at h
      show follow rest (if name = e.1 then e.2 else name) = name
      rw [if_neg h.1]
      exact ih h.2

/-- A name with an entry is followed from its new name on through the later entries. -/
theorem follow_append {before after : List (String × String)} {old new : String}
    (h : old ∉ before.map Prod.fst) :
    follow (before ++ (old, new) :: after) old = follow after new := by
  have hbefore := follow_eq_self h
  rw [follow] at hbefore ⊢
  rw [List.foldl_append, hbefore, List.foldl_cons, if_pos rfl]
  rfl

theorem newName_append {before after : List (String × String)} {old new : String}
    (h : old ∉ before.map Prod.fst) : newName (before ++ (old, new) :: after) old = new := by
  have hlookup : (before ++ (old, new) :: after).lookup old = some new := by
    refine List.lookup_eq_some_iff.mpr ⟨before, after, rfl, ?_⟩
    intro e he
    rw [bne_iff_ne]
    rintro rfl
    exact h (List.mem_map_of_mem he)
  rw [newName, hlookup]
  rfl

/-- Renaming follows each declared name through all entries. So it gives every name the
new one that goes with the name as it stood in the text exactly if none of these new names
is renamed again by a later entry. -/
theorem apply_eq_rename_newName_iff (hnames : AreFieldNames mappings)
    (hkeys : (mappings.map Prod.fst).Nodup) (content : String) :
    ∃ out modified, apply mappings content = .ok (out, modified) ∧
      out = rename (follow mappings) content ∧
      (out = rename (newName mappings) content ↔
        ∀ before after old new, mappings = before ++ (old, new) :: after →
          old ∈ declaredIn content → follow after new = new) := by
  obtain ⟨modified, hrun⟩ := apply_eq hnames content
  refine ⟨_, modified, hrun, rfl, ?_⟩
  rw [rename_eq_iff (fun _ => isFieldName_follow hnames) (fun _ => isFieldName_newName hnames)]
  constructor
  · rintro h before after old new rfl hdeclared
    have hfirst : old ∉ before.map Prod.fst := by
      rw [List.map_append, List.nodup_append] at hkeys
      exact fun hmem => hkeys.2.2 old hmem old (by simp) rfl
    have hagree := h old hdeclared
    rw [follow_append hfirst, newName_append hfirst] at hagree
    exact hagree
  · intro h name hdeclared
    cases hlookup : mappings.lookup name with
    | none =>
        have hmissing : name ∉ mappings.map Prod.fst := by
          intro hmem
          obtain ⟨e, he, rfl⟩ := List.mem_map.mp hmem
          exact absurd rfl (bne_iff_ne.mp (List.lookup_eq_none_iff.mp hlookup e he))
        rw [follow_eq_self hmissing, newName, hlookup]
        rfl
    | some new =>
        obtain ⟨before, after, rfl, hbefore⟩ := List.lookup_eq_some_iff.mp hlookup
        have hfirst : name ∉ before.map Prod.fst := by
          intro hmem
          obtain ⟨e, he, rfl⟩ := List.mem_map.mp hmem
          exact absurd rfl (bne_iff_ne.mp (hbefore e he))
        rw [follow_append hfirst, newName_append hfirst]
        exact h before after name new rfl hdeclared

end mappings

/-- Two fields that swap their names. -/
def swapped : List (String × String) := [("a", "b"), ("b", "a")]

def twoFields : String := "  a: string;\n  b: number;\n"

/-- Of two fields that swap their names, the first gets its own name back. -/
theorem swapped_apply_ne : ∃ out modified, apply swapped twoFields = .ok (out, modified) ∧
    out = "  a: string;\n  a: number;\n" ∧
    rename (newName swapped) twoFields = "  b: string;\n  a: number;\n" ∧
    out ≠ rename (newName swapped) twoFields := by
  have hnames : AreFieldNames swapped := by
    unfold AreFieldNames IsFieldName
    decide +kernel
  obtain ⟨out, modified, hrun, hout, hiff⟩ :=
    apply_eq_rename_newName_iff hnames (by decide) twoFields
  refine ⟨out, modified, hrun, ?_, ?_, ?_⟩
  · rw [hout]
    decide +kernel
  · decide +kernel
  · intro heq
    have hdeclared : "a" ∈ declaredIn twoFields := by decide +kernel
    have hagain := hiff.mp heq [] [("b", "a")] "a" "b" rfl hdeclared
    exact absurd hagain (by decide)

end ConnectClients.FieldRename
