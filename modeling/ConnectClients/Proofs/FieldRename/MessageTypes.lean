import Mathlib.Data.Bool.AllAny
import ConnectClients.Proofs.FieldRename.Frame

/-!
# Properties of message types

A message type has a line for each of its properties, with a question mark behind the name of one
that may be missing. Such a name is not declared, as no mark stands directly behind it: renaming
reaches the other properties only.
-/

namespace ConnectClients.FieldRename

open Text

/-! ## Message types -/

/-- A property of a message type. -/
structure Property where
  name : String
  optional : Bool
  type : String
  isName : IsFieldName name

/-- A message type as it stands in a generated module. -/
structure MessageType where
  name : String
  fullName : String
  properties : List Property
  isName : IsFieldName name

/-- What stands directly behind the name of a property. -/
def Property.mark (p : Property) : List Char :=
  if p.optional then ['?', ':'] else [':']

def Property.line (p : Property) : List Char :=
  [' ', ' '] ++ (p.name.toList ++ (p.mark ++ ' ' :: (p.type.toList ++ [';', '\n'])))

/-- What stands behind the equals sign of a message type. -/
def MessageType.body (m : MessageType) : List Char :=
  "Message<\"".toList ++ (m.fullName.toList ++ ("\"> & \x7b\n".toList ++
    (m.properties.flatMap Property.line ++ "\x7d;\n".toList)))

def MessageType.text (m : MessageType) : String :=
  String.ofList ("export type ".toList ++ (m.name.toList ++ (" = ".toList ++ m.body)))

/-! ## Renaming a message type -/

/-- The properties' types and the full name are texts like any other; of the properties, those that
may be missing keep their names. -/
def Property.rename (f : String → String) (hf : ∀ name, IsFieldName name → IsFieldName (f name))
    (p : Property) : Property where
  name := if p.optional then p.name else f p.name
  optional := p.optional
  type := String.ofList (renamed (fun name => (f (String.ofList name)).toList) true p.type.toList)
  isName := by
    split
    · exact p.isName
    · exact hf _ p.isName

def MessageType.rename (f : String → String)
    (hf : ∀ name, IsFieldName name → IsFieldName (f name)) (m : MessageType) : MessageType where
  name := f m.name
  fullName := FieldRename.rename f m.fullName
  properties := m.properties.map (Property.rename f hf)
  isName := hf _ m.isName

section renamed

variable {f : List Char → List Char} {behind : Bool} {c : Char} {word cs rest : List Char}

theorem renamed_cons (hc : isWord c = false) (rest : List Char) :
    renamed f behind (c :: rest) = c :: renamed f (isBlank c) rest :=
  renamed_other (by simp [hc])

/-- Characters that are not of words stay. -/
theorem renamed_gap (hcs : ∀ d ∈ cs, isWord d = false) (hc : isWord c = false) :
    renamed f behind (cs ++ c :: rest) = cs ++ c :: renamed f (isBlank c) rest := by
  induction cs generalizing behind with
  | nil => exact renamed_cons hc rest
  | cons d cs ih =>
      rw [List.forall_mem_cons] at hcs
      rw [List.cons_append, renamed_cons hcs.1, ih hcs.2]
      rfl

/-- A word with no mark behind it stays. -/
theorem renamed_unmarked (hword : IsNameText word) (hc : isWord c = false)
    (hmark : isMarked (c :: rest) = false) :
    renamed f behind (word ++ c :: rest) = word ++ renamed f false (c :: rest) := by
  obtain ⟨hne, hall⟩ := hword
  cases word with
  | nil => exact absurd rfl hne
  | cons d ds =>
      rw [List.forall_mem_cons] at hall
      have hdrop : (ds ++ c :: rest).dropWhile isWord = c :: rest := by
        rw [List.dropWhile_append_of_pos hall.2, List.dropWhile_cons_of_neg (by simp [hc])]
      rw [List.cons_append, renamed_other (by rw [hdrop, hmark, Bool.and_false]),
        isBlank_of_isWord hall.1, renamed_others (pieces_words hall.2 (c :: rest))]
      rfl

/-- A text is renamed apart from what stands behind a character that hides it. -/
theorem renamed_cut (hc : isWord c = false) (hblank : isBlank c = false)
    (hmark : (c == '=' || c == ':') = false) (cs rest : List Char) :
    renamed f behind (cs ++ c :: rest) = renamed f behind cs ++ c :: renamed f false rest := by
  obtain ⟨ps, -, hpieces, hsame⟩ := pieces_append_cons hc rest behind cs
  rw [renamed, hpieces, hsame hblank hmark, hblank, List.map_append, List.flatMap_append]
  rfl

end renamed

section messages

variable {f : String → String} (hf : ∀ name, IsFieldName name → IsFieldName (f name))
  {behind : Bool} {lead rest : List Char}

/-- A type between what leads to it and the end of its line. -/
theorem renamed_type (g : List Char → List Char) (hlead : ∀ c ∈ lead, isWord c = false)
    (type rest : List Char) :
    renamed g behind (lead ++ ' ' :: (type ++ ';' :: ('\n' :: rest))) =
      lead ++ ' ' :: (renamed g true type ++ ';' :: ('\n' :: renamed g true rest)) := by
  have hline : renamed g false ('\n' :: rest) = '\n' :: renamed g true rest := renamed_other rfl
  rw [renamed_gap hlead (by decide), show isBlank ' ' = true from rfl,
    renamed_cut (by decide) (by decide) (by decide), hline]

/-- Of a property its type is renamed, and its name unless it may be missing. -/
theorem renamed_line (p : Property) (rest : List Char) :
    renamed (fun name => (f (String.ofList name)).toList) behind (p.line ++ rest) =
      (p.rename f hf).line ++ renamed (fun name => (f (String.ofList name)).toList) true rest := by
  have hline : ∀ q : Property, ∀ rest, q.line ++ rest = [' '] ++ ' ' ::
      (q.name.toList ++ (q.mark ++ ' ' :: (q.type.toList ++ ';' :: '\n' :: rest))) := by
    intro q rest
    simp [Property.line]
  have hmark : (p.rename f hf).mark = p.mark := rfl
  have htype : (p.rename f hf).type.toList =
      renamed (fun name => (f (String.ofList name)).toList) true p.type.toList :=
    String.toList_ofList
  have hname : ∀ tail, renamed (fun name => (f (String.ofList name)).toList) true
      (p.name.toList ++ (p.mark ++ tail)) = (p.rename f hf).name.toList ++
        renamed (fun name => (f (String.ofList name)).toList) false (p.mark ++ tail) := by
    intro tail
    cases hoptional : p.optional with
    | true =>
        have hkept : (p.rename f hf).name = p.name := if_pos hoptional
        rw [Property.mark, hoptional, hkept]
        exact renamed_unmarked p.isName (by decide) rfl
    | false =>
        have hnew : (p.rename f hf).name = f p.name := if_neg (by simp [hoptional])
        rw [Property.mark, hoptional, hnew]
        refine (renamed_append p.isName rfl).trans ?_
        rw [String.ofList_toList]
  have hplain : ∀ c ∈ p.mark, isWord c = false := by
    unfold Property.mark
    split <;> exact List.all_iff_forall_prop.mp (by decide)
  have hlead : ∀ c ∈ [' '], isWord c = false := List.all_iff_forall_prop.mp (by decide)
  rw [hline, hline, renamed_gap hlead (by decide), show isBlank ' ' = true from rfl, hname,
    renamed_type _ hplain, hmark, htype]

theorem renamed_lines (ps : List Property) (rest : List Char) :
    renamed (fun name => (f (String.ofList name)).toList) true
      (ps.flatMap Property.line ++ rest) =
        (ps.map (Property.rename f hf)).flatMap Property.line ++
          renamed (fun name => (f (String.ofList name)).toList) true rest := by
  induction ps with
  | nil => rfl
  | cons p ps ih =>
      rw [List.flatMap_cons, List.append_assoc, renamed_line hf, ih, List.map_cons,
        List.flatMap_cons, List.append_assoc]

/-- A name hides what stands behind it. -/
theorem isMarked_name_append {name : List Char} (hname : IsNameText name) (rest : List Char) :
    isMarked (name ++ rest) = false := by
  cases name with
  | nil => exact absurd rfl hname.1
  | cons c cs => exact isMarked_word (hname.2 c List.mem_cons_self) _

theorem renamed_body (m : MessageType) :
    renamed (fun name => (f (String.ofList name)).toList) true m.body = (m.rename f hf).body := by
  have hword : IsNameText "Message".toList := by decide
  have hopen : ∀ c ∈ ['>', ' ', '&', ' ', '\x7b'], isWord c = false :=
    List.all_iff_forall_prop.mp (by decide)
  have hclose : ∀ c ∈ ['\x7d', ';'], isWord c = false := List.all_iff_forall_prop.mp (by decide)
  have hfull : (m.rename f hf).fullName.toList =
      renamed (fun name => (f (String.ofList name)).toList) false m.fullName.toList :=
    String.toList_ofList
  have hbody : ∀ m : MessageType, m.body = "Message".toList ++ '<' :: '"' ::
      (m.fullName.toList ++ '"' :: (['>', ' ', '&', ' ', '\x7b'] ++ '\n' ::
        (m.properties.flatMap Property.line ++ (['\x7d', ';'] ++ ['\n'])))) := fun _ => rfl
  rw [hbody, hbody, renamed_unmarked hword (by decide) rfl, renamed_cons (by decide),
    renamed_cons (by decide), show isBlank '"' = false from rfl,
    renamed_cut (by decide) (by decide) (by decide), renamed_gap hopen (by decide),
    show isBlank '\n' = true from rfl, renamed_lines hf, renamed_gap hclose (by decide),
    renamed_nil, hfull]
  rfl

/-- Of a message type its name is renamed, its properties, and what is declared in the texts of
its full name and of the types. -/
theorem rename_text (m : MessageType) : rename f m.text = (m.rename f hf).text := by
  have hexport : IsNameText "export".toList := by decide
  have htype : IsNameText "type".toList := by decide
  have hmarked : ∀ c ∈ [' ', '='], isWord c = false := List.all_iff_forall_prop.mp (by decide)
  have hmark : isMarked (' ' :: (m.name.toList ++ ([' ', '='] ++ ' ' :: m.body))) = false := by
    rw [isMarked_blank rfl, isMarked_name_append m.isName]
  have htext : ∀ m : MessageType, m.text = String.ofList ("export".toList ++ ' ' ::
      ("type".toList ++ ' ' :: (m.name.toList ++ ([' ', '='] ++ ' ' :: m.body)))) := fun _ => rfl
  rw [rename, htext, htext, String.toList_ofList, renamed_unmarked hexport (by decide) rfl,
    renamed_cons (by decide), show isBlank ' ' = true from rfl,
    renamed_unmarked htype (by decide) hmark, renamed_cons (by decide),
    show isBlank ' ' = true from rfl, renamed_append m.isName rfl,
    renamed_gap hmarked (by decide), show isBlank ' ' = true from rfl, renamed_body hf,
    String.ofList_toList]
  rfl

end messages

/-! ## Properties under their new names -/

section mappings

variable {mappings : List (String × String)} {name : String}

/-- A name has no entry, or a first one, which gives its new name. -/
theorem newName_cases (mappings : List (String × String)) (name : String) :
    name ∉ mappings.map Prod.fst ∧ newName mappings name = name ∨
      ∃ before new after, mappings = before ++ (name, new) :: after ∧
        name ∉ before.map Prod.fst ∧ newName mappings name = new := by
  have hother : ∀ {entries : List (String × String)}, (∀ e ∈ entries, (name != e.1) = true) →
      name ∉ entries.map Prod.fst := by
    intro entries h hmem
    obtain ⟨e, he, rfl⟩ := List.mem_map.mp hmem
    exact absurd rfl (bne_iff_ne.mp (h e he))
  cases hlookup : mappings.lookup name with
  | none => exact Or.inl ⟨hother (List.lookup_eq_none_iff.mp hlookup), by rw [newName, hlookup]; rfl⟩
  | some new =>
      obtain ⟨before, after, rfl, hbefore⟩ := List.lookup_eq_some_iff.mp hlookup
      exact Or.inr ⟨before, new, after, rfl, hother hbefore, newName_append (hother hbefore)⟩

variable (hfresh : ∀ e ∈ mappings, e.2 ∉ mappings.map Prod.fst)
include hfresh

/-- A name is followed to the new name that goes with it, as that one has no entry. -/
theorem follow_eq_newName : follow mappings name = newName mappings name := by
  rcases newName_cases mappings name with ⟨hmissing, hnew⟩ | ⟨before, new, after, rfl, hfirst, hnew⟩
  · rw [hnew, follow_eq_self hmissing]
  · have hlast : new ∉ after.map Prod.fst := by
      intro hmem
      refine hfresh (name, new) (by simp) ?_
      rw [List.map_append, List.map_cons]
      exact List.mem_append_right _ (List.mem_cons_of_mem _ hmem)
    rw [hnew, follow_append hfirst, follow_eq_self hlast]

theorem newName_not_mem : newName mappings name ∉ mappings.map Prod.fst := by
  rcases newName_cases mappings name with ⟨hmissing, hnew⟩ | ⟨before, new, after, rfl, -, hnew⟩
  · rwa [hnew]
  · rw [hnew]
    exact hfresh (name, new) (by simp)

theorem newName_eq_self_iff : newName mappings name = name ↔ name ∉ mappings.map Prod.fst := by
  constructor
  · intro hsame
    rw [← hsame]
    exact newName_not_mem hfresh
  · intro hmissing
    rw [← follow_eq_newName hfresh, follow_eq_self hmissing]

end mappings

/-- The message type with the names that all entries lead to. -/
def MessageType.follow {mappings : List (String × String)} (hnames : AreFieldNames mappings)
    (m : MessageType) : MessageType :=
  m.rename (FieldRename.follow mappings) fun _ => isFieldName_follow hnames

/-- All properties have their JSON names, and no name with an entry is left. -/
def HasJsonNames (mappings : List (String × String)) (m out : MessageType) : Prop :=
  List.Forall₂ (fun p p' => p'.name = newName mappings p.name) m.properties out.properties ∧
    ∀ p' ∈ out.properties, p'.name ∉ mappings.map Prod.fst

/-- **When the properties of a message type get their JSON names.** Let no JSON name have an entry
itself. Then what comes of a message type is one with the same properties in the same order, and
those that cannot be missing have their JSON names. All have them, and no name with an entry is
left, exactly if no property that may be missing has a name with an entry. -/
theorem apply_text_iff {mappings : List (String × String)} (hnames : AreFieldNames mappings)
    (hfresh : ∀ e ∈ mappings, e.2 ∉ mappings.map Prod.fst) (m : MessageType) :
    ∃ modified, apply mappings m.text = .ok ((m.follow hnames).text, modified) ∧
      List.Forall₂ (fun p p' => p'.optional = p.optional ∧
          p'.name = if p.optional then p.name else newName mappings p.name)
        m.properties (m.follow hnames).properties ∧
      (HasJsonNames mappings m (m.follow hnames) ↔
        ∀ p ∈ m.properties, p.optional = true → p.name ∉ mappings.map Prod.fst) := by
  obtain ⟨modified, hrun⟩ := apply_eq hnames m.text
  have hkeeps : ∀ name, IsFieldName name → IsFieldName (follow mappings name) :=
    fun _ => isFieldName_follow hnames
  have hname : ∀ p : Property, (p.rename (follow mappings) hkeeps).name =
      if p.optional then p.name else newName mappings p.name := by
    intro p
    rw [← follow_eq_newName hfresh]
    rfl
  rw [rename_text hkeeps] at hrun
  refine ⟨modified, hrun, ?_, ?_⟩
  · rw [MessageType.follow, MessageType.rename, List.forall₂_map_right_iff, List.forall₂_same]
    exact fun p _ => ⟨rfl, hname p⟩
  · rw [HasJsonNames, MessageType.follow, MessageType.rename, List.forall₂_map_right_iff,
      List.forall₂_same, List.forall_mem_map]
    constructor
    · rintro ⟨hnew, -⟩ p hp hoptional
      have hp' := hnew p hp
      rw [hname, if_pos hoptional] at hp'
      exact (newName_eq_self_iff hfresh).mp hp'.symm
    · intro hkept
      have hnew : ∀ p ∈ m.properties,
          (p.rename (follow mappings) hkeeps).name = newName mappings p.name := by
        intro p hp
        rw [hname]
        split
        · rename_i hoptional
          exact ((newName_eq_self_iff hfresh).mpr (hkept p hp hoptional)).symm
        · rfl
      refine ⟨hnew, fun p hp => ?_⟩
      rw [hnew p hp]
      exact newName_not_mem hfresh

/-- A message type with a property that may be missing and one that may not. -/
def answer : MessageType where
  name := "Answer"
  fullName := "shop.v1.Answer"
  properties :=
    [⟨"mainCategory", true, "Category", by unfold IsFieldName; decide⟩,
      ⟨"errorMessage", false, "string", by unfold IsFieldName; decide⟩]
  isName := by unfold IsFieldName; decide

def answerNames : List (String × String) := [("mainCategory", "category"), ("errorMessage", "message")]

theorem areFieldNames_answerNames : AreFieldNames answerNames := by
  unfold AreFieldNames IsFieldName
  decide +kernel

/-- The property that may be missing keeps the name that has an entry. -/
theorem answer_category_missed : (∀ e ∈ answerNames, e.2 ∉ answerNames.map Prod.fst) ∧
    (∃ modified, apply answerNames answer.text = .ok
      ("export type Answer = Message<\"shop.v1.Answer\"> & \x7b\n  mainCategory?: Category;\n" ++
        "  message: string;\n\x7d;\n", modified)) ∧
    ¬ HasJsonNames answerNames answer (answer.follow areFieldNames_answerNames) := by
  have hfresh : ∀ e ∈ answerNames, e.2 ∉ answerNames.map Prod.fst := by decide
  obtain ⟨modified, hrun, -, hiff⟩ := apply_text_iff areFieldNames_answerNames hfresh answer
  have hout : (answer.follow areFieldNames_answerNames).text =
      "export type Answer = Message<\"shop.v1.Answer\"> & \x7b\n  mainCategory?: Category;\n" ++
        "  message: string;\n\x7d;\n" := by
    decide +kernel
  refine ⟨hfresh, ⟨modified, hout ▸ hrun⟩, fun hall => ?_⟩
  exact absurd (hiff.mp hall _ List.mem_cons_self rfl) (by decide)

end ConnectClients.FieldRename
