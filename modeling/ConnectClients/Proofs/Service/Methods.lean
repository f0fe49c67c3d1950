import ConnectClients.Proofs.Text.Lines
import ConnectClients.Proofs.Text.Scan
import ConnectClients.Service

/-!
# Methods read from a service's type

A generated module lists a method with its kind and the schemas of its two messages. The unary
methods are read, and nothing is read of the others: the search for a unary kind ends with the
entry it started in, and no method starts but where a brace opens.
-/

namespace ConnectClients

open Text

namespace Service

/-! ## Entries -/

/-- A name: some word characters, and nothing else. -/
structure Word where
  text : String
  ne_nil : text.toList ≠ [] := by decide
  word : ∀ c ∈ text.toList, isWord c = true := by
    exact List.all_eq_true.mp (by decide +kernel)

theorem Word.not_mem (w : Word) {c : Char} (hc : isWord c = false) : c ∉ w.text.toList := by
  intro h
  rw [w.word c h] at hc
  exact absurd hc (by decide)

/-- A text without braces. -/
def Braceless (cs : List Char) : Prop := '\x7b' ∉ cs ∧ '\x7d' ∉ cs

instance (cs : List Char) : Decidable (Braceless cs) :=
  inferInstanceAs (Decidable ('\x7b' ∉ cs ∧ '\x7d' ∉ cs))

theorem Braceless.append {a b : List Char} (ha : Braceless a) (hb : Braceless b) :
    Braceless (a ++ b) := by
  simp only [Braceless, List.mem_append, not_or]
  exact ⟨⟨ha.1, hb.1⟩, ha.2, hb.2⟩

inductive MethodKind where
  | unary
  | serverStreaming
  | clientStreaming
  | bidiStreaming
  deriving DecidableEq, Repr

namespace MethodKind

def text : MethodKind → String
  | .unary => "unary"
  | .serverStreaming => "server_streaming"
  | .clientStreaming => "client_streaming"
  | .bidiStreaming => "bidi_streaming"

end MethodKind

/-- A method as a generated module lists it. -/
structure GeneratedMethod where
  /-- What stands before the method, such as a comment. -/
  lead : String := ""
  lead_braceless : Braceless lead.toList := by decide
  name : Word
  kind : MethodKind
  input : Word
  output : Word

namespace GeneratedMethod

/-- The line that gives the schema of a message. -/
def schemaLine (label : String) (w : Word) : String :=
  "\n    " ++ label ++ " typeof " ++ w.text ++ "Schema;"

def fields (m : GeneratedMethod) : String :=
  "\n    methodKind: \"" ++ m.kind.text ++ "\";" ++ schemaLine "input:" m.input ++
    schemaLine "output:" m.output ++ "\n  "

def text (m : GeneratedMethod) : String :=
  m.lead ++ "  " ++ m.name.text ++ ": \x7b" ++ m.fields ++ "\x7d,\n"

def method (m : GeneratedMethod) : Method :=
  ⟨m.name.text, m.input.text, m.input.text ++ "Schema", m.output.text, m.output.text ++ "Schema"⟩

end GeneratedMethod

/-! ## Reading one method -/

theorem Word.head?_not_blank (w : Word) (rest : List Char) :
    ∀ c ∈ (w.text.toList ++ rest).head?, isBlank c = false := by
  intro c hc
  obtain ⟨d, ds, hcons⟩ := List.exists_cons_of_ne_nil w.ne_nil
  rw [hcons] at hc
  rw [← Option.some.inj hc]
  exact isBlank_of_isWord (w.word d (by rw [hcons]; exact List.mem_cons_self))

theorem toList_schemaLine (label : String) (w : Word) (rest : List Char) :
    (GeneratedMethod.schemaLine label w).toList ++ rest =
      "\n    ".toList ++ (label.toList ++ (' ' :: ("typeof".toList ++
        (' ' :: (w.text.toList ++ "Schema".toList ++ ';' :: rest))))) := by
  have htypeof : " typeof ".toList = ' ' :: ("typeof".toList ++ [' ']) := by decide
  have hend : "Schema;".toList = "Schema".toList ++ [';'] := by decide
  simp only [GeneratedMethod.schemaLine, String.toList_append, htypeof, hend, List.append_assoc,
    List.cons_append, List.nil_append]

theorem readSchema_schemaLine (label : String) {l : Char} (hhead : label.toList.head? = some l)
    (hlabel : isBlank l = false) (w : Word) (rest : List Char) :
    readSchema label ((GeneratedMethod.schemaLine label w).toList ++ rest) =
      some (w.text.toList, rest) := by
  have hfirst : ∀ after : List Char, ∀ c ∈ (label.toList ++ after).head?, isBlank c = false := by
    intro after c hc
    rw [List.head?_append, hhead] at hc
    rw [← Option.some.inj hc]
    exact hlabel
  have htypeof : ∀ after : List Char, ∀ c ∈ ("typeof".toList ++ after).head?, isBlank c = false :=
    fun _ c hc => Option.some.inj hc ▸ by decide
  have hname : ∀ c ∈ w.text.toList ++ "Schema".toList, isWord c = true := by
    intro c hc
    rcases List.mem_append.mp hc with hc | hc
    · exact w.word c hc
    · have hsuffix : ∀ c ∈ "Schema".toList, isWord c = true := List.all_eq_true.mp (by decide)
      exact hsuffix c hc
  have hread := literal?_append label
    (' ' :: ("typeof".toList ++ (' ' :: (w.text.toList ++ "Schema".toList ++ ';' :: rest))))
  rw [← skipBlanks_append "\n    ".toList (List.all_eq_true.mp (by decide)) (hfirst _)] at hread
  have hword := literal?_append "typeof" (' ' :: (w.text.toList ++ "Schema".toList ++ ';' :: rest))
  rw [← skipBlanks_space (htypeof _)] at hword
  have hblanks : blanks? (' ' :: (w.text.toList ++ "Schema".toList ++ ';' :: rest)) =
      some (w.text.toList ++ "Schema".toList ++ ';' :: rest) := by
    rw [blanks?, if_pos (by decide), List.append_assoc]
    exact congrArg some (skipBlanks_append [] (by simp) (w.head?_not_blank _))
  have hrun : run? isWord (w.text.toList ++ "Schema".toList ++ ';' :: rest) =
      some (w.text.toList ++ "Schema".toList, ';' :: rest) :=
    run?_append (by simp) hname (fun c hc => Option.some.inj hc ▸ by decide)
  have hsuffix := dropSuffix?_append w.text.toList schemaSuffix.toList
  have hend := literal?_append ";" rest
  rw [toList_schemaLine]
  simp only [readSchema, bind, Option.bind_eq_some_iff]
  refine ⟨_, hread, _, hword, _, hblanks, _, hrun, _, hsuffix, _, hend, ?_⟩
  rw [if_neg (by simpa using w.ne_nil)]

/-- A kind in quotes, with `rest` behind the line it stands on. -/
def kindLine (kind : MethodKind) (rest : List Char) : List Char :=
  ' ' :: '"' :: (kind.text.toList ++ '"' :: ';' :: rest)

theorem readUnary_fields (input output : Word) (rest : List Char) :
    readUnary ("methodKind:".toList ++ kindLine .unary
      ((GeneratedMethod.schemaLine "input:" input).toList ++
        ((GeneratedMethod.schemaLine "output:" output).toList ++ rest))) =
      some ((input.text.toList, output.text.toList), rest) := by
  have hquote : ∀ after : List Char, skipBlanks (' ' :: '"' :: after) = '"' :: after :=
    fun after => skipBlanks_space (fun c hc => Option.some.inj hc ▸ by decide)
  have hkind := literal?_append "methodKind:" (kindLine .unary
    ((GeneratedMethod.schemaLine "input:" input).toList ++
      ((GeneratedMethod.schemaLine "output:" output).toList ++ rest)))
  have hinput := readSchema_schemaLine "input:" rfl (by decide) input
    ((GeneratedMethod.schemaLine "output:" output).toList ++ rest)
  have houtput := readSchema_schemaLine "output:" rfl (by decide) output rest
  have hunary := literal?_append "unary" ('"' :: ';' ::
    ((GeneratedMethod.schemaLine "input:" input).toList ++
      ((GeneratedMethod.schemaLine "output:" output).toList ++ rest)))
  simp only [readUnary, bind, pure, Option.bind_eq_some_iff]
  refine ⟨_, hkind, _, ?_, _, hunary, _, rfl, _, literal?_append ";" _, _, hinput, _, houtput, rfl⟩
  rw [kindLine, hquote]
  rfl

/-! ## Finding the kind -/

theorem readUnary_keyed : Keyed "methodKind:".toList readUnary := by
  intro cs h
  rw [readUnary, literal?_eq_none_iff.mpr h]
  rfl

theorem findUnary_cons_of_none {c : Char} {cs : List Char} (h : readUnary (c :: cs) = none)
    (hc : c ≠ '\x7d') : findUnary (c :: cs) = findUnary cs := by
  rw [findUnary, h]
  exact if_neg (by simpa using hc)

theorem findUnary_of_some {cs : List Char} {found : (List Char × List Char) × List Char}
    (hne : cs ≠ []) (h : readUnary cs = some found) : findUnary cs = some found := by
  cases cs with
  | nil => exact absurd rfl hne
  | cons c cs => rw [findUnary, h]

/-- Nothing is found in a stretch without a kind, and the search goes on behind it. -/
theorem findUnary_clear {cs : List Char} (h : Clear "methodKind:".toList cs) (hcs : '\x7d' ∉ cs)
    (rest : List Char) : findUnary (cs ++ rest) = findUnary rest := by
  induction cs with
  | nil => rfl
  | cons c cs ih =>
      have hnone := readUnary_keyed.none_of_clear h rest
      rw [List.mem_cons, not_or] at hcs
      rw [List.cons_append] at hnone ⊢
      rw [findUnary_cons_of_none hnone (Ne.symm hcs.1), ih h.2 hcs.2]

theorem findUnary_brace (rest : List Char) : findUnary ('\x7d' :: rest) = none := by
  have hnone : readUnary ('\x7d' :: rest) = none := by
    apply readUnary_keyed
    intro h
    exact absurd (List.cons_prefix_cons.mp h).1 (by decide)
  rw [findUnary, hnone]
  rfl

/-- The lines of a method's messages have no kind in them. -/
theorem clear_schemaLine (label : String) (w : Word)
    (hlabel : Clear "methodKind:".toList ("\n    " ++ label ++ " typeof ").toList) :
    Clear "methodKind:".toList (GeneratedMethod.schemaLine label w).toList := by
  have hname : ':' ∉ w.text.toList ++ "Schema".toList := by
    rw [List.mem_append, not_or]
    exact ⟨w.not_mem (by decide), by decide⟩
  have hclear : Clear "methodKind:".toList ((w.text.toList ++ "Schema".toList) ++ [';']) :=
    clear_append_singleton (by decide) fun h => hname (h.subset (by decide))
  have hline : (GeneratedMethod.schemaLine label w).toList =
      ("\n    " ++ label ++ " typeof ").toList ++ ((w.text.toList ++ "Schema".toList) ++ [';']) := by
    have hend : "Schema;".toList = "Schema".toList ++ [';'] := by decide
    simp only [GeneratedMethod.schemaLine, String.toList_append, hend, List.append_assoc]
  rw [hline]
  exact hlabel.append hclear

theorem Word.braceless (w : Word) : Braceless w.text.toList :=
  ⟨w.not_mem (by decide), w.not_mem (by decide)⟩

theorem braceless_schemaLine (label : String) (h : Braceless label.toList) (w : Word) :
    Braceless (GeneratedMethod.schemaLine label w).toList := by
  have hstart : Braceless "\n    ".toList := by decide
  have htypeof : Braceless " typeof ".toList := by decide
  have hend : Braceless "Schema;".toList := by decide
  simp only [GeneratedMethod.schemaLine, String.toList_append]
  exact (((hstart.append h).append htypeof).append w.braceless).append hend

theorem GeneratedMethod.braceless_fields (m : GeneratedMethod) : Braceless m.fields.toList := by
  have hstart : Braceless "\n    methodKind: \"".toList := by decide
  have hkind : Braceless m.kind.text.toList := by cases m.kind <;> decide
  have hend : Braceless "\";".toList := by decide
  have hstop : Braceless "\n  ".toList := by decide
  have hinput := braceless_schemaLine "input:" (by decide) m.input
  have houtput := braceless_schemaLine "output:" (by decide) m.output
  unfold GeneratedMethod.fields
  simp only [String.toList_append]
  exact ((((hstart.append hkind).append hend).append hinput).append houtput).append hstop

theorem GeneratedMethod.toList_fields (m : GeneratedMethod) (rest : List Char) :
    m.fields.toList ++ rest = "\n    ".toList ++ ("methodKind:".toList ++ kindLine m.kind
      ((schemaLine "input:" m.input).toList ++
        ((schemaLine "output:" m.output).toList ++ ("\n  ".toList ++ rest)))) := by
  have hstart : "\n    methodKind: \"".toList =
      "\n    ".toList ++ ("methodKind:".toList ++ [' ', '"']) := by decide
  have hend : "\";".toList = ['"', ';'] := by decide
  unfold GeneratedMethod.fields
  simp only [kindLine, String.toList_append, hstart, hend, List.append_assoc,
    List.cons_append, List.nil_append]

theorem findUnary_fields_unary {m : GeneratedMethod} (hkind : m.kind = .unary) (rest : List Char) :
    findUnary (m.fields.toList ++ rest) =
      some ((m.input.text.toList, m.output.text.toList), "\n  ".toList ++ rest) := by
  rw [m.toList_fields, hkind, findUnary_clear (by decide) (by decide)]
  exact findUnary_of_some (by simp) (readUnary_fields m.input m.output _)

/-- The kind of a streaming method is not the word for unary. -/
theorem readUnary_streaming {kind : MethodKind} (hkind : kind ≠ .unary) (rest : List Char) :
    readUnary ("methodKind:".toList ++ kindLine kind rest) = none := by
  have hquote : ∀ after : List Char, skipBlanks (' ' :: '"' :: after) = '"' :: after :=
    fun after => skipBlanks_space (fun c hc => Option.some.inj hc ▸ by decide)
  have hunary : literal? "unary" (kind.text.toList ++ '"' :: ';' :: rest) = none := by
    rw [literal?_eq_none_iff]
    intro h
    cases kind with
    | unary => exact hkind rfl
    | serverStreaming => exact absurd (List.cons_prefix_cons.mp h).1 (by decide)
    | clientStreaming => exact absurd (List.cons_prefix_cons.mp h).1 (by decide)
    | bidiStreaming => exact absurd (List.cons_prefix_cons.mp h).1 (by decide)
  rw [readUnary, literal?_append]
  simp only [bind, Option.bind_some]
  rw [kindLine, hquote, char?, if_pos (by decide), Option.bind_some, hunary]
  rfl

theorem findUnary_fields_streaming {m : GeneratedMethod} (hkind : m.kind ≠ .unary)
    (rest : List Char) : findUnary (m.fields.toList ++ '\x7d' :: rest) = none := by
  have hline : ∀ after : List Char, "methodKind:".toList ++ kindLine m.kind after =
      'm' :: (("ethodKind: \"".toList ++ m.kind.text.toList ++ "\";".toList) ++ after) := by
    intro after
    have hend : "\";".toList = ['"', ';'] := by decide
    rw [kindLine, hend]
    simp [List.append_assoc]
  have hclear : Clear "methodKind:".toList
      ("ethodKind: \"".toList ++ m.kind.text.toList ++ "\";".toList) := by
    cases m.kind <;> decide
  have hbrace : '\x7d' ∉ "ethodKind: \"".toList ++ m.kind.text.toList ++ "\";".toList := by
    cases m.kind <;> decide
  have hinput := clear_schemaLine "input:" m.input (by decide)
  have houtput := clear_schemaLine "output:" m.output (by decide)
  have hnone := readUnary_streaming hkind ((GeneratedMethod.schemaLine "input:" m.input).toList ++
    ((GeneratedMethod.schemaLine "output:" m.output).toList ++ ("\n  ".toList ++ '\x7d' :: rest)))
  rw [hline] at hnone
  rw [m.toList_fields, findUnary_clear (by decide) (by decide), hline,
    findUnary_cons_of_none hnone (by decide), findUnary_clear hclear hbrace,
    findUnary_clear hinput (braceless_schemaLine _ (by decide) _).2,
    findUnary_clear houtput (braceless_schemaLine _ (by decide) _).2,
    findUnary_clear (by decide) (by decide), findUnary_brace]

/-! ## Reading all methods -/

/-- A method is read where a colon, and a brace after blanks, come behind a word. -/
theorem readMethod_opening {cs rest : List Char} {found : Method}
    (h : readMethod cs = some (found, rest)) :
    ∃ behind, cs.dropWhile isWord = ':' :: behind ∧ (skipBlanks behind).head? = some '\x7b' := by
  simp only [readMethod, bind, Option.bind_eq_some_iff] at h
  obtain ⟨⟨_, _⟩, hrun, behind, hcolon, _, hbrace, -⟩ := h
  refine ⟨behind, ?_, ?_⟩
  · rw [← run?_rest hrun]
    exact literal?_eq_some_iff.mp hcolon
  · rw [literal?_eq_some_iff.mp hbrace]
    rfl

/-- No method starts in a text without an opening brace, if a space and another such text
stand between it and the next colon. -/
theorem readMethod_between {s t : List Char} (hs : '\x7b' ∉ s) (ht : '\x7b' ∉ t)
    (rest : List Char) : readMethod (s ++ ' ' :: (t ++ ':' :: rest)) = none := by
  rw [Option.eq_none_iff_forall_ne_some]
  rintro ⟨found, after⟩ h
  obtain ⟨behind, hcolon, hbrace⟩ := readMethod_opening h
  rw [List.dropWhile_append] at hcolon
  cases hrest : s.dropWhile isWord with
  | nil =>
      -- the word ends in front of the space
      rw [hrest, List.dropWhile_cons_of_neg (by decide)] at hcolon
      exact absurd (List.cons.inj hcolon).1 (by decide)
  | cons c cs =>
      rw [hrest, List.isEmpty_cons, if_neg Bool.false_ne_true, List.cons_append] at hcolon
      obtain ⟨-, rfl⟩ := List.cons.inj hcolon
      have hcs : '\x7b' ∉ cs := by
        intro hmem
        apply hs
        have hsub := (List.dropWhile_sublist (l := s) isWord).subset
        rw [hrest] at hsub
        exact hsub (List.mem_cons_of_mem _ hmem)
      have hbetween : '\x7b' ∉ cs ++ ' ' :: t := by
        simp only [List.mem_append, List.mem_cons, not_or]
        exact ⟨hcs, by decide, ht⟩
      have hne := head?_skipBlanks_ne hbetween (d := ':') (by decide) (by decide) rest
      rw [List.append_assoc, List.cons_append] at hne
      exact hne hbrace

theorem scanAll_readMethod_between {s t : List Char} (hs : '\x7b' ∉ s) (ht : '\x7b' ∉ t)
    (rest : List Char) :
    scanAll readMethod (s ++ ' ' :: (t ++ ':' :: rest)) = scanAll readMethod (t ++ ':' :: rest) := by
  induction s with
  | nil => exact scanAll_cons_of_none (readMethod_between List.not_mem_nil ht rest)
  | cons c cs ih =>
      have hnone := readMethod_between hs ht rest
      rw [List.cons_append] at hnone ⊢
      rw [scanAll_cons_of_none hnone, ih fun hmem => hs (List.mem_cons_of_mem _ hmem)]

theorem scanAll_readMethod_eq_nil {cs : List Char} (h : '\x7b' ∉ cs) :
    scanAll readMethod cs = [] := by
  induction cs with
  | nil => rw [scanAll]
  | cons c cs ih =>
      have hnone : readMethod (c :: cs) = none := by
        rw [Option.eq_none_iff_forall_ne_some]
        rintro ⟨found, after⟩ hread
        obtain ⟨behind, hcolon, hbrace⟩ := readMethod_opening hread
        have hbehind := (List.dropWhile_sublist (l := behind) isBlank).subset
          (List.mem_of_mem_head? hbrace)
        have hword := (List.dropWhile_sublist (l := c :: cs) isWord).subset
        rw [hcolon] at hword
        exact h (hword (List.mem_cons_of_mem _ hbehind))
      rw [scanAll_cons_of_none hnone, ih fun hmem => h (List.mem_cons_of_mem _ hmem)]

theorem readMethod_word {name : List Char} (hne : name ≠ []) (hword : ∀ c ∈ name, isWord c = true)
    (rest : List Char) :
    readMethod (name ++ ':' :: ' ' :: '\x7b' :: rest) =
      (findUnary rest).map fun (found, after) => (methodOf name found.1 found.2, after) := by
  have hrun : run? isWord (name ++ ':' :: ' ' :: '\x7b' :: rest) =
      some (name, ':' :: ' ' :: '\x7b' :: rest) :=
    run?_append hne hword (fun c hc => Option.some.inj hc ▸ by decide)
  have hcolon : literal? ":" (':' :: ' ' :: '\x7b' :: rest) = some (' ' :: '\x7b' :: rest) :=
    literal?_append ":" _
  have hskip : skipBlanks (' ' :: '\x7b' :: rest) = '\x7b' :: rest :=
    skipBlanks_space (fun c hc => Option.some.inj hc ▸ by decide)
  have hbrace : literal? "\x7b" ('\x7b' :: rest) = some rest := literal?_append "\x7b" _
  simp only [readMethod, hrun, bind, Option.bind_some, hcolon, hskip, hbrace]
  cases findUnary rest with
  | none => rfl
  | some found => rfl

/-- A word that opens no unary method is passed over. -/
theorem scanAll_word {name : List Char} (hword : ∀ c ∈ name, isWord c = true) {rest : List Char}
    (hrest : findUnary rest = none) :
    scanAll readMethod (name ++ ':' :: ' ' :: '\x7b' :: rest) = scanAll readMethod rest := by
  induction name with
  | nil =>
      have hnone : ∀ {c : Char} (cs : List Char), isWord c = false → readMethod (c :: cs) = none := by
        intro c cs hc
        rw [readMethod, run?, if_neg (by simp [hc])]
        rfl
      rw [List.nil_append, scanAll_cons_of_none (hnone _ (by decide)),
        scanAll_cons_of_none (hnone _ (by decide)), scanAll_cons_of_none (hnone _ (by decide))]
  | cons c cs ih =>
      have hnone := readMethod_word (List.cons_ne_nil c cs) hword rest
      rw [hrest, Option.map_none] at hnone
      rw [List.cons_append] at hnone ⊢
      rw [scanAll_cons_of_none hnone, ih fun d hd => hword d (List.mem_cons_of_mem _ hd)]

namespace GeneratedMethod

def isUnary (m : GeneratedMethod) : Bool := m.kind == .unary

theorem toList_text (m : GeneratedMethod) (rest : List Char) :
    m.text.toList ++ rest = (m.lead.toList ++ [' ']) ++ ' ' :: (m.name.text.toList ++
      ':' :: ' ' :: '\x7b' :: (m.fields.toList ++ '\x7d' :: ',' :: '\n' :: rest)) := by
  have hindent : "  ".toList = [' ', ' '] := by decide
  have hopen : ": \x7b".toList = [':', ' ', '\x7b'] := by decide
  have hclose : "\x7d,\n".toList = ['\x7d', ',', '\n'] := by decide
  unfold text
  simp only [String.toList_append, hindent, hopen, hclose, List.append_assoc, List.cons_append,
    List.nil_append]

/-- An entry gives its method, and what is left of it has no opening brace. -/
theorem scanAll_entry (m : GeneratedMethod) : ∃ after : List Char, '\x7b' ∉ after ∧
    ∀ rest, scanAll readMethod (m.name.text.toList ++ ':' :: ' ' :: '\x7b' ::
      (m.fields.toList ++ '\x7d' :: ',' :: '\n' :: rest)) =
        ([m].filter isUnary).map method ++ scanAll readMethod (after ++ rest) := by
  by_cases hkind : m.kind = .unary
  · have hunary : m.isUnary = true := beq_iff_eq.mpr hkind
    refine ⟨"\n  ".toList ++ ['\x7d', ',', '\n'], by decide, fun rest => ?_⟩
    have hread := readMethod_word m.name.ne_nil m.name.word
      (m.fields.toList ++ '\x7d' :: ',' :: '\n' :: rest)
    rw [findUnary_fields_unary hkind, Option.map_some] at hread
    have hmethod : methodOf m.name.text.toList m.input.text.toList m.output.text.toList =
        m.method := by
      simp only [methodOf, String.ofList_toList, method]
      rfl
    have hlength := List.length_pos_iff.mpr m.name.ne_nil
    rw [scanAll_of_some hread (by simp; omega), hmethod,
      List.filter_cons_of_pos hunary, List.append_assoc]
    rfl
  · have hstream : ¬ m.isUnary = true := fun h => hkind (beq_iff_eq.mp h)
    refine ⟨m.fields.toList ++ ['\x7d', ',', '\n'], ?_, fun rest => ?_⟩
    · rw [List.mem_append, not_or]
      exact ⟨m.braceless_fields.1, by decide⟩
    · rw [scanAll_word m.name.word (findUnary_fields_streaming hkind _),
        List.filter_cons_of_neg hstream, List.append_assoc]
      rfl

/-- The unary methods of a list of entries are read, in their order. -/
theorem scanAll_text (ms : List GeneratedMethod) {before : List Char} (h : '\x7b' ∉ before) :
    scanAll readMethod (before ++ ms.flatMap fun m => m.text.toList) =
      (ms.filter isUnary).map method := by
  induction ms generalizing before with
  | nil =>
      rw [List.flatMap_nil, List.append_nil, scanAll_readMethod_eq_nil h]
      rfl
  | cons m ms ih =>
      obtain ⟨after, hafter, hentry⟩ := m.scanAll_entry
      have hlead : '\x7b' ∉ before ++ (m.lead.toList ++ [' ']) := by
        simp only [List.mem_append, not_or]
        exact ⟨h, m.lead_braceless.1, by decide⟩
      rw [List.flatMap_cons, m.toList_text, ← List.append_assoc,
        scanAll_readMethod_between hlead m.name.braceless.1, hentry, ih hafter, ← List.map_append,
        ← List.filter_append, List.singleton_append]

end GeneratedMethod

end Service

end ConnectClients
