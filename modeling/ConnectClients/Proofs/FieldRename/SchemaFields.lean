import Mathlib.Data.Bool.AllAny
import ConnectClients.Proofs.FieldRename.OptionLists
import ConnectClients.Proofs.Identifier.Plain

/-!
# The fields of a schema

A schema is a sequence of fields, each of which may have a list of options, its JSON name among them.
The search for a JSON name goes over a field as it goes over blanks, and ends behind a field with a
JSON name. Fields are read where their types start, and nowhere else.
-/

namespace ConnectClients.FieldRename

open Text

/-! ## Fields -/

/-- An option of a field: its JSON name, or another one. -/
inductive FieldOption where
  | jsonName (name : List Char) (closed : ∀ c ∈ name, c ∉ ['"', '[', ']', '\n'])
  | other (key value : List Char) (isOther : key ≠ "json_name".toList)
      (closed : ∀ c ∈ key ++ value, c ∉ ['[', ']', '\n'])

namespace FieldOption

def text : FieldOption → List Char
  | .jsonName name _ => "json_name = \"".toList ++ (name ++ ['"'])
  | .other key value _ _ => key ++ (" = ".toList ++ value)

theorem text_jsonName {name : List Char} (closed : ∀ c ∈ name, c ∉ ['"', '[', ']', '\n']) :
    (jsonName name closed).text = "json_name = \"".toList ++ (name ++ ['"']) := rfl

def jsonName? : FieldOption → Option (List Char)
  | .jsonName name _ => some name
  | .other _ _ _ _ => none

end FieldOption

/-- An option in a list of options, behind blanks that do not leave the line. -/
structure ListedOption where
  gap : List Char
  option : FieldOption
  blank : ∀ c ∈ gap, isBlank c = true
  inLine : '\n' ∉ gap

def ListedOption.text (o : ListedOption) : List Char :=
  o.gap ++ o.option.text

def ListedOption.jsonName? (o : ListedOption) : Option (List Char) :=
  o.option.jsonName?

/-- The options of a field between their brackets. -/
def optionsText (os : List ListedOption) : List Char :=
  [','].intercalate (os.map ListedOption.text)

/-- A field behind blanks; the name of its type may have a scope. -/
structure FieldDeclaration where
  lead : List Char
  scope : List (List Char)
  type : List Char
  name : List Char
  number : Nat
  options : List ListedOption
  blank : ∀ c ∈ lead, isBlank c = true
  isScope : ∀ part ∈ scope, IsNameText part
  isType : IsNameText type
  isName : IsNameText name

namespace FieldDeclaration

def scopeText (d : FieldDeclaration) : List Char :=
  d.scope.flatMap (· ++ ['.'])

/-- The field up to its number. -/
def core (d : FieldDeclaration) : List Char :=
  d.type ++ ' ' :: (d.name ++ (" = ".toList ++ Nat.toDigits 10 d.number))

/-- The field behind its number. -/
def ending (d : FieldDeclaration) : List Char :=
  match d.options with
  | [] => [';']
  | _ :: _ => ' ' :: '[' :: (optionsText d.options ++ [']', ';'])

def text (d : FieldDeclaration) : List Char :=
  d.lead ++ (d.scopeText ++ (d.core ++ d.ending))

/-- The JSON name that is declared for a field. -/
def jsonName? (d : FieldDeclaration) : Option (List Char) :=
  d.options.findSome? ListedOption.jsonName?

/-- The first JSON name that is read among the options of a field. -/
def readName? (d : FieldDeclaration) : Option (List Char) :=
  jsonNameIn (optionsText d.options)

def generatedName (d : FieldDeclaration) : String :=
  String.ofList (Identifier.camelCaseChars d.name)

/-- The entry of a field in the dictionary of JSON names. -/
def entry (d : FieldDeclaration) (name : List Char) : String × String :=
  (d.generatedName, String.ofList name)

end FieldDeclaration

/-- The text of a schema; blanks may stand behind the last field. -/
def schemaText (ds : List FieldDeclaration) (trail : List Char) : List Char :=
  ds.flatMap FieldDeclaration.text ++ trail

/-! ## Reading the text of a field -/

theorem readJsonName_append {name : List Char} (hname : IsNameText name) :
    readJsonName ("json_name = \"".toList ++ (name ++ ['"'])) = some (name, []) := by
  have hkey : literal? "json_name" ("json_name = \"".toList ++ (name ++ ['"'])) =
      some (' ' :: ("= \"".toList ++ (name ++ ['"']))) :=
    literal?_append "json_name" (' ' :: ("= \"".toList ++ (name ++ ['"'])))
  have hmark : literal? "=" ("= \"".toList ++ (name ++ ['"'])) =
      some (' ' :: ("\"".toList ++ (name ++ ['"']))) :=
    literal?_append "=" (' ' :: ("\"".toList ++ (name ++ ['"'])))
  have hend : literal? "\"" ['"'] = some [] := literal?_append "\"" []
  rw [readJsonName, hkey]
  simp only [Option.bind_eq_bind, Option.bind_some]
  rw [skipBlanks_space (fun c hc => by cases hc; decide), hmark, Option.bind_some,
    skipBlanks_space (fun c hc => by cases hc; decide), literal?_append, Option.bind_some,
    run?_append hname.1 hname.2 (fun c hc => by cases hc; decide)]
  simp only [Option.bind_some, hend, Option.pure_def]

/-- A JSON name of word characters is read from its option. -/
theorem FieldOption.jsonNameIn_text {o : FieldOption} {name : List Char}
    (h : o.jsonName? = some name) (hname : IsNameText name) : jsonNameIn o.text = some name := by
  cases o with
  | other _ _ _ _ => cases h
  | jsonName name' closed =>
      cases h
      have hread := readJsonName_append hname
      have hcons : "json_name = \"".toList ++ (name ++ ['"']) =
          'j' :: ("son_name = \"".toList ++ (name ++ ['"'])) := rfl
      rw [hcons] at hread
      rw [text_jsonName, hcons, jsonNameIn_cons_of_some hread]

theorem not_mem_of_isWord {c : Char} (hc : isWord c = true) {cs : List Char}
    (hcs : (cs.all fun d => !isWord d) = true) : c ∉ cs := by
  intro hmem
  have hother := List.all_eq_true.mp hcs c hmem
  rw [hc] at hother
  cases hother

theorem FieldOption.closed_text (o : FieldOption) : ∀ c ∈ o.text, c ∉ ['[', ']', '\n'] := by
  cases o with
  | jsonName name closed =>
      rw [text_jsonName, List.forall_mem_append, List.forall_mem_append]
      exact ⟨List.all_iff_forall_prop.mp (by decide),
        fun c hc h => closed c hc (List.mem_cons_of_mem _ h),
        List.all_iff_forall_prop.mp (by decide)⟩
  | other key value _ closed =>
      rw [List.forall_mem_append] at closed
      exact List.forall_mem_append.mpr
        ⟨closed.1, List.forall_mem_append.mpr ⟨List.all_iff_forall_prop.mp (by decide), closed.2⟩⟩

theorem ListedOption.jsonNameIn_text (o : ListedOption) :
    jsonNameIn o.text = jsonNameIn o.option.text := by
  rw [text, jsonNameIn_blanks o.blank]

theorem ListedOption.closed_text (o : ListedOption) : ∀ c ∈ o.text, c ∉ ['[', ']', '\n'] := by
  refine List.forall_mem_append.mpr ⟨fun c hc => ?_, o.option.closed_text⟩
  have hblank := o.blank c hc
  simp only [List.mem_cons, List.not_mem_nil, or_false, not_or]
  refine ⟨?_, ?_, ?_⟩
  · rintro rfl
    exact absurd hblank (by decide)
  · rintro rfl
    exact absurd hblank (by decide)
  · rintro rfl
    exact o.inLine hc

theorem optionsText_cons (o o' : ListedOption) (os : List ListedOption) :
    optionsText (o :: o' :: os) = o.text ++ ',' :: optionsText (o' :: os) := by
  rw [optionsText, List.map_cons, List.map_cons, List.intercalate_cons_cons, ← List.map_cons,
    ← optionsText, List.append_assoc]
  rfl

theorem jsonNameIn_optionsText (os : List ListedOption) :
    jsonNameIn (optionsText os) = os.findSome? fun o => jsonNameIn o.option.text := by
  induction os with
  | nil => rfl
  | cons o os ih =>
      have hcons : ((o :: os).findSome? fun o => jsonNameIn o.option.text) =
          (jsonNameIn o.option.text).or (os.findSome? fun o => jsonNameIn o.option.text) := by
        rw [List.findSome?_cons]
        cases jsonNameIn o.option.text <;> rfl
      cases os with
      | nil =>
          rw [optionsText, List.map_singleton, List.intercalate_singleton, o.jsonNameIn_text, hcons]
          exact (Option.or_none).symm
      | cons o' os =>
          rw [optionsText_cons, jsonNameIn_append_cons (by decide), o.jsonNameIn_text, ih, hcons]

theorem closed_optionsText (os : List ListedOption) :
    ∀ c ∈ optionsText os, c ∉ ['[', ']', '\n'] := by
  induction os with
  | nil => exact List.forall_mem_nil _
  | cons o os ih =>
      cases os with
      | nil =>
          rw [optionsText, List.map_singleton, List.intercalate_singleton]
          exact o.closed_text
      | cons o' os =>
          rw [optionsText_cons, List.forall_mem_append, List.forall_mem_cons]
          exact ⟨o.closed_text, by decide, ih⟩

theorem head?_not_blank {word : List Char} (hne : word ≠ []) (hword : ∀ c ∈ word, isWord c = true)
    (rest : List Char) : ∀ c ∈ (word ++ rest).head?, isBlank c = false := by
  intro c hc
  rw [List.head?_append_of_ne_nil word hne] at hc
  exact isBlank_of_isWord (hword c (List.mem_of_head? hc))

theorem isWord_and_isDecimal_of_mem_toDigits {n : Nat} {c : Char} (h : c ∈ Nat.toDigits 10 n) :
    isWord c = true ∧ isDecimal c = true := by
  have hdigit : c.isDigit = true := Nat.isDigit_of_mem_toDigits (by decide) (by decide) h
  have halphanum : c.isAlphanum = true := by rw [Char.isAlphanum, hdigit, Bool.or_true]
  have hascii := Identifier.ascii_of_isAlphanum halphanum
  constructor
  · rw [isWord, if_pos hascii, isAsciiWord, halphanum, Bool.true_or]
  · rw [isDecimal, decimalValue?, if_pos hascii, if_pos hdigit]
    rfl

namespace FieldDeclaration

variable (d : FieldDeclaration)

theorem plain_scopeText : ∀ c ∈ d.scopeText, c ∉ ['[', '"', '\n'] := by
  rw [scopeText, List.forall_mem_flatMap]
  intro part hpart
  rw [List.forall_mem_append]
  exact ⟨fun c hc => not_mem_of_isWord ((d.isScope part hpart).2 c hc) (by decide),
    List.all_iff_forall_prop.mp (by decide)⟩

theorem plain_core : ∀ c ∈ d.core, c ∉ ['[', '"', '\n'] := by
  rw [core, List.forall_mem_append, List.forall_mem_cons, List.forall_mem_append,
    List.forall_mem_append]
  exact ⟨fun c hc => not_mem_of_isWord (d.isType.2 c hc) (by decide), by decide,
    fun c hc => not_mem_of_isWord (d.isName.2 c hc) (by decide),
    List.all_iff_forall_prop.mp (by decide),
    fun c hc => not_mem_of_isWord (isWord_and_isDecimal_of_mem_toDigits hc).1 (by decide)⟩

theorem readHead_core (rest : List Char) :
    readHead (d.core ++ ' ' :: '[' :: rest) = some (d.name, '[' :: rest) := by
  have htext : d.core ++ ' ' :: '[' :: rest = d.type ++ ' ' :: (d.name ++ ' ' :: ("=".toList ++
      ' ' :: (Nat.toDigits 10 d.number ++ ' ' :: '[' :: rest))) := by
    simp [core]
  have hblank : ∀ more, blanks? (' ' :: more) = some (skipBlanks more) := by
    intro more
    rw [blanks?, if_pos (by decide)]
  have hname : ∀ more, skipBlanks (d.name ++ more) = d.name ++ more := fun more =>
    skipBlanks_append [] (List.forall_mem_nil _) (head?_not_blank d.isName.1 d.isName.2 more)
  have hne : Nat.toDigits 10 d.number ≠ [] := Nat.toDigits_ne_nil
  have hdigits := fun c (hc : c ∈ Nat.toDigits 10 d.number) => isWord_and_isDecimal_of_mem_toDigits hc
  have hnumber := head?_not_blank hne (fun c hc => (hdigits c hc).1)
  rw [htext, readHead, run?_append d.isType.1 d.isType.2 (fun c hc => by cases hc; decide)]
  simp only [Option.bind_eq_bind, Option.bind_some]
  rw [hblank, Option.bind_some, hname,
    run?_append d.isName.1 d.isName.2 (fun c hc => by cases hc; decide)]
  simp only [Option.bind_some]
  rw [skipBlanks_space (fun c hc => by cases hc; decide), literal?_append, Option.bind_some,
    skipBlanks_space (hnumber _), run?_append hne (fun c hc => (hdigits c hc).2)
      (fun c hc => by cases hc; decide)]
  simp only [Option.bind_some, Option.pure_def]
  rw [skipBlanks_space (fun c hc => by cases hc; decide)]

/-- A JSON name of word characters is read, unless another one is read before it. -/
theorem readName?_ne_none {name : List Char} (h : d.jsonName? = some name)
    (hname : IsNameText name) : d.readName? ≠ none := by
  obtain ⟨o, ho, hjson⟩ := List.exists_of_findSome?_eq_some h
  intro hnone
  rw [readName?, jsonNameIn_optionsText, List.findSome?_eq_none_iff] at hnone
  exact absurd ((FieldOption.jsonNameIn_text hjson hname).symm.trans (hnone o ho))
    (Option.some_ne_none name)

/-- What is read among the options is what they declare, if JSON names are of word characters and no
other option has a JSON name in its text. -/
theorem readName?_eq_jsonName? (hjson : ∀ o ∈ d.options, ∀ name ∈ o.jsonName?, IsNameText name)
    (hother : ∀ o ∈ d.options, o.jsonName? = none → jsonNameIn o.option.text = none) :
    d.readName? = d.jsonName? := by
  have hoption : ∀ o ∈ d.options, jsonNameIn o.option.text = o.jsonName? := by
    intro o ho
    cases hname : o.jsonName? with
    | none => exact hother o ho hname
    | some name => exact FieldOption.jsonNameIn_text hname (hjson o ho name hname)
  rw [readName?, jsonNameIn_optionsText, jsonName?]
  generalize d.options = os at hoption
  induction os with
  | nil => rfl
  | cons o os ih =>
      rw [List.forall_mem_cons] at hoption
      rw [List.findSome?_cons, List.findSome?_cons, hoption.1, ih hoption.2]

theorem isNameText_of_readName? {name : List Char} (h : d.readName? = some name) :
    IsNameText name :=
  isNameText_of_jsonNameIn h

/-- From the bracket that opens its options, a JSON name is read there or behind the field. -/
theorem findJsonName_bracket (rest : List Char) :
    findJsonName (optionsText d.options ++ ']' :: ';' :: rest) =
      (d.readName?.map fun name => (name, rest)).or (findJsonName rest) := by
  have hclosed := closed_optionsText d.options
  rw [findJsonName_options (fun h => hclosed _ h (by decide)) fun h => hclosed _ h (by decide),
    readName?]

/-- The search for a JSON name over a field and what stands behind it. -/
theorem findJsonName_text (rest : List Char) : findJsonName (d.text ++ rest) =
    if '\n' ∈ d.lead then none
    else (d.readName?.map fun name => (name, rest)).or (findJsonName rest) := by
  have hplain : ∀ c ∈ d.scopeText ++ d.core, c ∉ ['[', '"', '\n'] :=
    List.forall_mem_append.mpr ⟨d.plain_scopeText, d.plain_core⟩
  have hquote : '"' ∉ d.scopeText ++ d.core := fun h => hplain _ h (by decide)
  have hline : '\n' ∉ d.scopeText ++ d.core := fun h => hplain _ h (by decide)
  rw [text, List.append_assoc, findJsonName_blanks d.blank]
  congr 1
  cases hoptions : d.options with
  | nil =>
      have htext : d.scopeText ++ (d.core ++ d.ending) ++ rest =
          (d.scopeText ++ d.core) ++ ';' :: rest := by
        simp [ending, hoptions]
      rw [htext, findJsonName_skip (by decide) (jsonNameIn_eq_none hquote) hline, readName?, hoptions]
      rfl
  | cons o os =>
      have htext : d.scopeText ++ (d.core ++ d.ending) ++ rest = (d.scopeText ++ d.core ++ [' ']) ++
          '[' :: (optionsText d.options ++ ']' :: ';' :: rest) := by
        simp [ending, hoptions]
      have hquote : '"' ∉ d.scopeText ++ d.core ++ [' '] := by simpa using hquote
      have hline : '\n' ∉ d.scopeText ++ d.core ++ [' '] := by simpa using hline
      rw [htext, findJsonName_skip (by decide) (jsonNameIn_eq_none hquote) hline,
        d.findJsonName_bracket]

/-- No field is read in a scope. -/
theorem scanAll_scopeText (rest : List Char) :
    scanAll readField (d.scopeText ++ rest) = scanAll readField rest := by
  have hscope := d.isScope
  rw [scopeText]
  generalize d.scope = parts at hscope
  induction parts with
  | nil => rfl
  | cons part parts ih =>
      rw [List.forall_mem_cons] at hscope
      have hopen : '[' ∉ part := fun h => absurd (hscope.1.2 _ h) (by decide)
      rw [List.flatMap_cons, List.append_assoc, List.append_assoc]
      exact (scanAll_readField_skip (by decide) hopen (.inl (by decide))).trans (ih hscope.2)

theorem readField_core (rest : List Char) : readField (d.core ++ ' ' :: '[' :: rest) =
    (findJsonName rest).map fun (name, more) => ((d.name, name), more) := by
  have hopened : literal? "[" ('[' :: rest) = some rest := literal?_append "[" rest
  rw [readField_eq, d.readHead_core]
  simp only [Option.bind_some, hopened]

theorem scanAll_core (rest : List Char) : scanAll readField (d.core ++ ' ' :: '[' :: rest) =
    match findJsonName rest with
    | some (name, more) => (d.name, name) :: scanAll readField more
    | none => scanAll readField rest := by
  cases hfound : findJsonName rest with
  | some found =>
      have hread := d.readField_core rest
      have hshort := (findJsonName_suffix hfound).length_le
      rw [hfound] at hread
      refine scanAll_of_some hread ?_
      simp only [List.length_append, List.length_cons]
      omega
  | none =>
      -- Nothing is read up to the bracket, as no JSON name is found behind it.
      have hspace : d.core ++ ' ' :: '[' :: rest = (d.core ++ [' ']) ++ '[' :: rest := by simp
      have hopen : '[' ∉ d.core ++ [' '] := by
        simpa using fun h => d.plain_core _ h (by decide)
      rw [hspace]
      exact scanAll_readField_skip (by decide) hopen (.inr hfound)

/-- No field is read in options. -/
theorem scanAll_options (rest : List Char) :
    scanAll readField (optionsText d.options ++ ']' :: ';' :: rest) = scanAll readField rest := by
  have hopen : '[' ∉ optionsText d.options :=
    fun h => closed_optionsText d.options _ h (by decide)
  rw [scanAll_readField_skip (by decide) hopen (.inl (by decide))]
  exact scanAll_readField_skip (by decide) List.not_mem_nil (.inl (by decide))

/-- What is collected from a field on. -/
theorem scanAll_text (rest : List Char) : scanAll readField (d.text ++ rest) =
    match d.options with
    | [] => scanAll readField rest
    | _ :: _ =>
      match (d.readName?.map fun name => (name, rest)).or (findJsonName rest) with
      | some (name, more) => (d.name, name) :: scanAll readField more
      | none => scanAll readField rest := by
  rw [text, List.append_assoc, List.append_assoc, scanAll_readField_blanks d.blank,
    d.scanAll_scopeText]
  cases hoptions : d.options with
  | nil =>
      have htext : d.core ++ d.ending ++ rest = d.core ++ ';' :: rest := by
        simp [ending, hoptions]
      rw [htext]
      exact scanAll_readField_skip (by decide) (fun h => d.plain_core _ h (by decide))
        (.inl (by decide))
  | cons o os =>
      have htext : d.core ++ d.ending ++ rest =
          d.core ++ ' ' :: '[' :: (optionsText d.options ++ ']' :: ';' :: rest) := by
        simp [ending, hoptions]
      rw [htext, d.scanAll_core, d.findJsonName_bracket, d.scanAll_options]

end FieldDeclaration

end ConnectClients.FieldRename
