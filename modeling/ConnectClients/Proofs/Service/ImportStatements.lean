import ConnectClients.Proofs.ModulePath
import ConnectClients.Proofs.Service.Imports
import ConnectClients.Proofs.Service.Methods

/-!
# Imports read from a generated module

A generated module imports names by statements that list them between braces. Every name is read,
without the word that marks a type, and comes from where the last statement that lists it leads.
Nothing is read from the text around the statements, unless the word that starts one stands there
with a blank behind it.
-/

namespace ConnectClients

open Text

/-! ## Blanks around a name -/

/-- Trimming takes the blanks around a text off, and nothing else. -/
theorem Text.trim_padded {before core after : List Char} (hne : core ≠ [])
    (hcore : ∀ c ∈ core.head?, isBlank c = false) (hlast : ∀ c ∈ core.getLast?, isBlank c = false)
    (hbefore : ∀ c ∈ before, isBlank c = true) (hafter : ∀ c ∈ after, isBlank c = true) :
    trim (before ++ (core ++ after)) = core := by
  have hstart : (before ++ (core ++ after)).dropWhile isBlank = core ++ after := by
    refine skipBlanks_append before hbefore fun c hc => hcore c ?_
    rwa [List.head?_append_of_ne_nil _ hne] at hc
  have hend : (after.reverse ++ core.reverse).dropWhile isBlank = core.reverse := by
    refine skipBlanks_append after.reverse (fun c hc => hafter c (List.mem_reverse.mp hc)) ?_
    rwa [List.head?_reverse]
  rw [trim, hstart, List.reverse_append, hend, List.reverse_reverse]

namespace Service

theorem Word.head_not_blank (w : Word) : ∀ c ∈ w.text.toList.head?, isBlank c = false :=
  fun c hc => isBlank_of_isWord (w.word c (List.mem_of_head? hc))

theorem Word.last_not_blank (w : Word) : ∀ c ∈ w.text.toList.getLast?, isBlank c = false :=
  fun c hc => isBlank_of_isWord (w.word c (List.mem_of_getLast? hc))

/-! ## Listed names -/

/-- Blanks, or nothing at all. -/
structure Blanks where
  text : String := ""
  blank : ∀ c ∈ text.toList, isBlank c = true := by
    exact List.all_eq_true.mp (by decide +kernel)

/-- A name that an import statement lists, with the blanks around it. -/
structure ListedName where
  before : Blanks := {}
  /-- The word `type` stands in front of the name. -/
  typed : Bool := false
  name : Word
  after : Blanks := {}

namespace ListedName

def core (e : ListedName) : String := (if e.typed then "type " else "") ++ e.name.text

def text (e : ListedName) : String := e.before.text ++ e.core ++ e.after.text

theorem core_ends (e : ListedName) : e.core.toList ≠ [] ∧
    (∀ c ∈ e.core.toList.head?, isBlank c = false) ∧
    ∀ c ∈ e.core.toList.getLast?, isBlank c = false := by
  have hlast : e.core.toList.getLast? = e.name.text.toList.getLast? := by
    rw [core, String.toList_append, List.getLast?_append_of_ne_nil _ e.name.ne_nil]
  refine ⟨?_, ?_, hlast ▸ e.name.last_not_blank⟩
  · rw [core, String.toList_append]
    exact List.append_ne_nil_of_right_ne_nil _ e.name.ne_nil
  · rw [core, String.toList_append]
    cases e.typed with
    | false => exact e.name.head_not_blank
    | true => exact fun c hc => Option.some.inj hc ▸ by decide

/-- The name is read without the word in front of it. -/
theorem importedName_core (e : ListedName) {before after : List Char}
    (hbefore : ∀ c ∈ before, isBlank c = true) (hafter : ∀ c ∈ after, isBlank c = true) :
    importedName (before ++ (e.core.toList ++ after)) = e.name.text.toList := by
  obtain ⟨hne, hhead, hlast⟩ := e.core_ends
  rw [importedName, trim_padded hne hhead hlast hbefore hafter]
  cases htyped : e.typed with
  | false =>
      have hcore : e.core.toList = e.name.text.toList := by simp [core, htyped]
      have hnone : literal? "type " e.core.toList = none := by
        rw [literal?_eq_none_iff, hcore]
        intro h
        exact e.name.not_mem (by decide) (h.subset (by decide : ' ' ∈ "type ".toList))
      rw [hnone, hcore]
  | true =>
      have hcore : e.core.toList = "type ".toList ++ e.name.text.toList := by simp [core, htyped]
      have htrim := trim_padded e.name.ne_nil e.name.head_not_blank e.name.last_not_blank
        (List.forall_mem_nil _) (List.forall_mem_nil _)
      rw [List.nil_append, List.append_nil] at htrim
      rw [hcore, literal?_append]
      exact htrim

/-- The characters of an entry are blanks or stand in words. -/
theorem not_mem_text (e : ListedName) {c : Char} (hblank : isBlank c = false)
    (hword : isWord c = false) : c ∉ e.text.toList := by
  have hlead : c ∉ (if e.typed then "type " else "").toList := by
    have htype : ∀ d ∈ "type ".toList, (isBlank d || isWord d) = true :=
      List.all_eq_true.mp (by decide)
    intro h
    split at h
    · rcases Bool.or_eq_true_iff.mp (htype c h) with hd | hd
      · rw [hblank] at hd; cases hd
      · rw [hword] at hd; cases hd
    · exact absurd h List.not_mem_nil
  have hpad : ∀ b : Blanks, c ∉ b.text.toList := by
    intro b h
    rw [b.blank c h] at hblank
    cases hblank
  simp only [text, core, String.toList_append, List.mem_append, not_or]
  exact ⟨⟨hpad _, hlead, e.name.not_mem hword⟩, hpad _⟩

end ListedName

theorem importedName_pieces {es : List ListedName} (hne : es ≠ []) {before after : List Char}
    (hbefore : ∀ c ∈ before, isBlank c = true) (hafter : ∀ c ∈ after, isBlank c = true) :
    (splitOn ',' (before ++ ((",".intercalate (es.map ListedName.text)).toList ++ after))).map
      importedName = es.map fun e => e.name.text.toList := by
  have hcomma : ∀ cs : List Char, (∀ c ∈ cs, isBlank c = true) → ',' ∉ cs :=
    fun cs hcs h => absurd (hcs ',' h) (by decide)
  induction es generalizing before with
  | nil => exact absurd rfl hne
  | cons e es ih =>
      have hpiece : ',' ∉ before ++ e.text.toList := by
        rw [List.mem_append, not_or]
        exact ⟨hcomma before hbefore, e.not_mem_text (by decide) (by decide)⟩
      have hpadded : ∀ tail : List Char, (∀ c ∈ tail, isBlank c = true) →
          importedName (before ++ (e.text.toList ++ tail)) = e.name.text.toList := by
        intro tail htail
        have hsplit : before ++ (e.text.toList ++ tail) =
            (before ++ e.before.text.toList) ++ (e.core.toList ++ (e.after.text.toList ++ tail)) := by
          simp [ListedName.text]
        rw [hsplit]
        apply e.importedName_core
        · exact fun c hc => (List.mem_append.mp hc).elim (hbefore c) (e.before.blank c)
        · exact fun c hc => (List.mem_append.mp hc).elim (e.after.blank c) (htail c)
      by_cases hes : es = []
      · subst hes
        have hlast : ',' ∉ before ++ (e.text.toList ++ after) := by
          rw [← List.append_assoc, List.mem_append, not_or]
          exact ⟨hpiece, hcomma after hafter⟩
        rw [List.map_singleton, String.intercalate_singleton, Path.splitOn_of_not_mem hlast,
          List.map_singleton, hpadded after hafter]
        rfl
      · have hmap : es.map ListedName.text ≠ [] := by simpa using hes
        have hjoin : before ++ ((",".intercalate ((e :: es).map ListedName.text)).toList ++ after) =
            (before ++ e.text.toList) ++
              ',' :: ([] ++ ((",".intercalate (es.map ListedName.text)).toList ++ after)) := by
          rw [List.map_cons, String.intercalate_cons_of_ne_nil hmap]
          simp
        have hname := hpadded [] (by simp)
        rw [List.append_nil] at hname
        rw [hjoin, splitOn_append_sep hpiece, List.map_cons, hname, ih hes (by simp), List.map_cons]

/-! ## Statements -/

/-- An import statement of a generated module. -/
structure ImportStatement where
  /-- The word `type` stands in front of the braces. -/
  typed : Bool := false
  names : List ListedName
  names_ne_nil : names ≠ [] := by exact List.cons_ne_nil _ _
  specifier : String
  unquoted : ∀ c ∈ specifier.toList, isQuote c = false := by
    exact fun c hc => Bool.eq_false_iff.mpr (List.any_eq_false.mp (by decide +kernel) c hc)

namespace ImportStatement

/-- What stands between the braces. -/
def listed (st : ImportStatement) : String :=
  ",".intercalate (st.names.map ListedName.text)

def text (st : ImportStatement) : String :=
  "import " ++ (if st.typed then "type " else "") ++ "\x7b " ++ st.listed ++ " \x7d from \"" ++
    st.specifier ++ "\";"

def lists (st : ImportStatement) (name : String) : Bool :=
  st.names.any fun e => e.name.text == name

theorem not_mem_listed (st : ImportStatement) : '\x7d' ∉ st.listed.toList := by
  have hall : ∀ es : List ListedName,
      '\x7d' ∉ (",".intercalate (es.map ListedName.text)).toList := by
    intro es
    induction es with
    | nil => decide
    | cons e es ih =>
        have he : '\x7d' ∉ e.text.toList := e.not_mem_text (by decide) (by decide)
        by_cases hes : es = []
        · subst hes
          rwa [List.map_singleton, String.intercalate_singleton]
        · rw [List.map_cons, String.intercalate_cons_of_ne_nil (by simpa using hes)]
          have hcomma : '\x7d' ∉ ",".toList := by decide
          simp only [String.toList_append, List.mem_append, not_or]
          exact ⟨⟨he, hcomma⟩, ih⟩
  exact hall st.names

/-- The text between the braces, with the blanks at its ends. -/
def between (st : ImportStatement) : List Char := ' ' :: (st.listed.toList ++ [' '])

/-- What stands behind the braces, with `rest` behind the statement. -/
def ending (st : ImportStatement) (rest : List Char) : List Char :=
  ' ' :: ("from".toList ++ (' ' :: '"' :: (st.specifier.toList ++ '"' :: ';' :: rest)))

/-- A statement from its opening brace on. -/
def braced (st : ImportStatement) (rest : List Char) : List Char :=
  '\x7b' :: (st.between ++ '\x7d' :: st.ending rest)

theorem toList_text (st : ImportStatement) (rest : List Char) :
    st.text.toList ++ rest = "import".toList ++
      (' ' :: ((if st.typed then "type " else "").toList ++ st.braced rest)) := by
  have himport : "import ".toList = "import".toList ++ [' '] := by decide
  have hopen : "\x7b ".toList = ['\x7b', ' '] := by decide
  have hfrom : " \x7d from \"".toList = ' ' :: '\x7d' :: ' ' :: ("from".toList ++ [' ', '"']) := by
    decide
  have hend : "\";".toList = ['"', ';'] := by decide
  simp only [text, braced, between, ending, String.toList_append, himport, hopen, hfrom, hend,
    List.append_assoc, List.cons_append, List.nil_append]

theorem skipTypeKeyword_braced (st : ImportStatement) (rest : List Char) :
    skipTypeKeyword ((if st.typed then "type " else "").toList ++ st.braced rest) =
      st.braced rest := by
  cases st.typed with
  | false => rfl
  | true =>
      have htype : literal? "type" ("type ".toList ++ st.braced rest) =
          some (' ' :: st.braced rest) := literal?_append "type" _
      rw [if_pos rfl, skipTypeKeyword, htype]
      rfl

theorem blanks?_typed (st : ImportStatement) (rest : List Char) :
    blanks? (' ' :: ((if st.typed then "type " else "").toList ++ st.braced rest)) =
      some ((if st.typed then "type " else "").toList ++ st.braced rest) := by
  cases st.typed <;> rfl

/-- A statement whose specifier is not empty is read whole, up to the semicolon. -/
theorem readImport_text (st : ImportStatement) (hne : st.specifier ≠ "") (rest : List Char) :
    readImport (st.text.toList ++ rest) =
      some ((st.between, st.specifier.toList), ';' :: rest) := by
  have himport := literal?_append "import"
    (' ' :: ((if st.typed then "type " else "").toList ++ st.braced rest))
  have hopen : literal? "\x7b" (skipTypeKeyword ((if st.typed then "type " else "").toList ++
      st.braced rest)) = some (st.between ++ '\x7d' :: st.ending rest) := by
    rw [skipTypeKeyword_braced]
    exact literal?_append "\x7b" _
  have hnames : run? (· != '\x7d') (st.between ++ '\x7d' :: st.ending rest) =
      some (st.between, '\x7d' :: st.ending rest) := by
    refine run?_append (List.cons_ne_nil _ _) ?_ (fun c hc => Option.some.inj hc ▸ by decide)
    intro c hc
    have hbrace : '\x7d' ∉ st.between := by
      have hspace : '\x7d' ∉ [' '] := by decide
      rw [between, List.mem_cons, List.mem_append, not_or, not_or]
      exact ⟨by decide, st.not_mem_listed, hspace⟩
    rw [bne_iff_ne]
    rintro rfl
    exact hbrace hc
  have hclose := literal?_append "\x7d" (st.ending rest)
  have hfrom := literal?_append "from" (' ' :: '"' :: (st.specifier.toList ++ '"' :: ';' :: rest))
  have hspecifier : run? (fun c => !isQuote c) (st.specifier.toList ++ '"' :: ';' :: rest) =
      some (st.specifier.toList, '"' :: ';' :: rest) := by
    refine run?_append (fun hnil => hne (String.toList_eq_nil_iff.mp hnil)) ?_
      (fun c hc => Option.some.inj hc ▸ by decide)
    exact fun c hc => by rw [st.unquoted c hc]; rfl
  rw [toList_text]
  simp only [readImport, bind, pure, Option.bind_eq_some_iff]
  exact ⟨_, himport, _, st.blanks?_typed rest, _, hopen, _, hnames, _, hclose, _, rfl, _, hfrom, _,
    rfl, _, rfl, _, hspecifier, _, rfl, rfl⟩

theorem importedNames_between (st : ImportStatement) :
    importedNames st.between = st.names.map fun e => e.name.text := by
  have hspace : ∀ c ∈ [' '], isBlank c = true := List.all_eq_true.mp (by decide)
  have hpieces := importedName_pieces st.names_ne_nil hspace hspace
  have hbetween : st.between = [' '] ++ (st.listed.toList ++ [' ']) := rfl
  rw [importedNames, hbetween, listed, hpieces, List.filterMap_map]
  have hsome : ∀ e ∈ st.names, ((fun cs : List Char => if cs.isEmpty then none else
      some (String.ofList cs)) ∘ fun e : ListedName => e.name.text.toList) e =
        some e.name.text := by
    intro e _
    simp [e.name.ne_nil]
  rw [List.filterMap_congr hsome]
  exact congrFun List.filterMap_eq_map st.names

end ImportStatement

/-! ## Text around statements -/

/-- The word that starts a statement stands nowhere with a blank behind it. -/
def Importless (cs : List Char) : Prop :=
  ∀ b, isBlank b = true → ¬ "import".toList ++ [b] <:+: cs

theorem importless_of_not_infix {cs : List Char} (h : ¬ "import".toList <:+: cs) : Importless cs :=
  fun b _ hin => h ((List.prefix_append _ [b]).isInfix.trans hin)

theorem Importless.tail {c : Char} {cs : List Char} (h : Importless (c :: cs)) : Importless cs :=
  fun b hb hin => h b hb (hin.trans (List.suffix_cons c cs).isInfix)

theorem readImport_opening {cs : List Char} {found : (List Char × List Char) × List Char}
    (h : readImport cs = some found) :
    ∃ b, isBlank b = true ∧ "import".toList ++ [b] <+: cs := by
  simp only [readImport, bind, Option.bind_eq_some_iff] at h
  obtain ⟨after, himport, _, hblanks, -⟩ := h
  rw [literal?_eq_some_iff.mp himport]
  cases after with
  | nil => cases hblanks
  | cons b rest =>
      rw [blanks?] at hblanks
      split at hblanks
      · rename_i hb
        exact ⟨b, hb, by simp⟩
      · cases hblanks

/-- No statement starts in a text without the word, nor where such a text meets a statement. -/
theorem readImport_before {c : Char} {cs : List Char} (h : Importless (c :: cs))
    {rest : List Char} (hrest : rest = [] ∨ "import".toList <+: rest) :
    readImport (c :: cs ++ rest) = none := by
  rw [Option.eq_none_iff_forall_ne_some]
  intro found hread
  obtain ⟨b, hb, hp⟩ := readImport_opening hread
  rcases hrest with rfl | ⟨more, rfl⟩
  · rw [List.append_nil] at hp
    exact h b hb hp.isInfix
  · have hne : b ≠ 'i' := by
      rintro rfl
      exact absurd hb (by decide)
    have hsplit : "import".toList ++ [b] = 'i' :: ("mport".toList ++ [b]) := rfl
    rw [hsplit, List.cons_append] at hp
    obtain ⟨rfl, htail⟩ := List.cons_prefix_cons.mp hp
    -- the word does not begin a second time inside of itself
    have hword : Clear "import".toList "mport".toList := by decide
    have hblank : Clear "import".toList [b] := by
      have hfirst : "import".toList = 'i' :: "mport".toList := by decide
      rw [hfirst]
      exact clear_of_not_mem _ (by simpa using hne.symm)
    have hkey := prefix_of_clear (hword.append hblank) htail
    exact h b hb (List.cons_prefix_cons.mpr ⟨rfl, hkey⟩).isInfix

theorem scanAll_readImport_before {cs : List Char} (h : Importless cs) {rest : List Char}
    (hrest : rest = [] ∨ "import".toList <+: rest) :
    scanAll readImport (cs ++ rest) = scanAll readImport rest := by
  induction cs with
  | nil => rfl
  | cons c cs ih =>
      have hnone := readImport_before h hrest
      rw [List.cons_append] at hnone ⊢
      rw [scanAll_cons_of_none hnone, ih h.tail]

/-! ## Modules with import statements -/

/-- A text without the word that starts an import statement, unless something else than a blank
stands behind the word. -/
structure Unrelated where
  text : String
  importless : Importless text.toList := by
    exact importless_of_not_infix (by decide +kernel)

/-- A module as far as it imports names: its statements, each with the text in front of it, and the
text behind the last one. -/
structure ImportingModule where
  statements : List (Unrelated × ImportStatement)
  behind : Unrelated

namespace ImportingModule

def text (m : ImportingModule) : String :=
  String.join (m.statements.map fun p => p.1.text ++ p.2.text) ++ m.behind.text

/-- The statement that counts for a name. -/
def last? (m : ImportingModule) (name : String) : Option ImportStatement :=
  (m.statements.map Prod.snd).reverse.find? fun st => st.lists name

end ImportingModule

theorem readImport_semicolon (rest : List Char) : readImport (';' :: rest) = none := by
  have hkey : ¬ "import".toList <+: ';' :: rest :=
    fun hp => absurd (List.cons_prefix_cons.mp hp).1 (by decide)
  rw [readImport, literal?_eq_none_iff.mpr hkey]
  rfl

/-- Each statement is read once, and nothing is read from the text around. -/
theorem scanAll_statements {ps : List (Unrelated × ImportStatement)}
    (hne : ∀ p ∈ ps, p.2.specifier ≠ "") {behind : List Char} (hbehind : Importless behind) :
    scanAll readImport (ps.flatMap (fun p => p.1.text.toList ++ p.2.text.toList) ++ behind) =
      ps.map fun p => (p.2.between, p.2.specifier.toList) := by
  induction ps with
  | nil =>
      have hend := scanAll_readImport_before hbehind (Or.inl rfl)
      rw [List.append_nil, scanAll] at hend
      exact hend
  | cons p ps ih =>
      have hread := p.2.readImport_text (hne p List.mem_cons_self)
        (ps.flatMap (fun p => p.1.text.toList ++ p.2.text.toList) ++ behind)
      have hstart : "import".toList <+: p.2.text.toList ++
          (ps.flatMap (fun p => p.1.text.toList ++ p.2.text.toList) ++ behind) := by
        rw [p.2.toList_text]
        exact List.prefix_append _ _
      have hshort : (';' :: (ps.flatMap (fun p => p.1.text.toList ++ p.2.text.toList) ++
          behind)).length < (p.2.text.toList ++
            (ps.flatMap (fun p => p.1.text.toList ++ p.2.text.toList) ++ behind)).length := by
        have hlong : 1 < p.2.text.toList.length := by
          rw [ImportStatement.text]
          simp only [String.toList_append, List.length_append]
          have himport : "import ".toList.length = 7 := by decide
          omega
        simp only [List.length_append, List.length_cons]
        omega
      rw [List.flatMap_cons, List.append_assoc, List.append_assoc,
        scanAll_readImport_before p.1.importless (Or.inr hstart), scanAll_of_some hread hshort,
        scanAll_cons_of_none (readImport_semicolon _),
        ih fun q hq => hne q (List.mem_cons_of_mem _ hq), List.map_cons]

namespace ImportingModule

theorem toList_text (m : ImportingModule) : m.text.toList =
    m.statements.flatMap (fun p => p.1.text.toList ++ p.2.text.toList) ++ m.behind.text.toList := by
  rw [text, String.toList_append, String.toList_join, List.flatMap_map]
  simp only [String.toList_append]

theorem listedImports_text (m : ImportingModule) (hne : ∀ p ∈ m.statements, p.2.specifier ≠ "") :
    listedImports m.text = (m.statements.map Prod.snd).flatMap fun st =>
      st.names.map fun e => (e.name.text, st.specifier) := by
  rw [listedImports, toList_text, scanAll_statements hne m.behind.importless, List.flatMap_map,
    List.flatMap_map]
  refine List.flatMap_congr fun p _ => ?_
  simp only [ImportStatement.importedNames_between, String.ofList_toList, List.map_map]
  rfl

end ImportingModule

/-! ## The statement that counts -/

theorem lookup_names (es : List ListedName) (specifier name : String) :
    (es.map fun e => (e.name.text, specifier)).lookup name =
      if es.any (fun e => e.name.text == name) then some specifier else none := by
  induction es with
  | nil => rfl
  | cons e es ih =>
      rw [List.map_cons, List.lookup_cons, ih, List.any_cons, BEq.comm]
      cases e.name.text == name <;> rfl

theorem lookup_listed (sts : List ImportStatement) (name : String) :
    (sts.flatMap fun st => st.names.map fun e => (e.name.text, st.specifier)).reverse.lookup name =
      (sts.reverse.find? fun st => st.lists name).map ImportStatement.specifier := by
  induction sts with
  | nil => rfl
  | cons st sts ih =>
      have hfirst : (st.names.map fun e => (e.name.text, st.specifier)).reverse.lookup name =
          ([st].find? fun st => st.lists name).map ImportStatement.specifier := by
        rw [← List.map_reverse, lookup_names, List.any_reverse, List.find?_singleton]
        cases hlists : st.lists name <;> rw [ImportStatement.lists] at hlists <;> rw [hlists] <;> rfl
      rw [List.flatMap_cons, List.reverse_append, List.lookup_append, ih, hfirst, List.reverse_cons,
        List.find?_append]
      cases sts.reverse.find? fun st => st.lists name <;> rfl

open ModulePath (resolve specifier relativeSpecifier)
open ConnectClients.Path (slashed IsName)

/-- **Every listed name comes from where its last statement leads.** The names that the statements
of a module list are read, and no others, whatever stands between the statements. A specifier that
starts with no dot stands for itself. One that climbs up from the module's directory and goes down
along names leads to these names below the directory it climbs to, so that every module can be
named from every other one. -/
theorem namedImports_text (m : ImportingModule) (hne : ∀ p ∈ m.statements, p.2.specifier ≠ "")
    (importPath : String) :
    (∀ name, (namedImports m.text importPath).lookup name =
      (m.last? name).map fun st => resolve st.specifier importPath) ∧
    (∀ package : String, package.toList.head? ≠ some '.' → resolve package importPath = package) ∧
    (∀ (dirs : List String) (stem : String) (climb : Nat) (names : List String),
      (∀ dir ∈ dirs, IsName dir) → IsName stem → climb ≤ dirs.length → names ≠ [] →
      (∀ name ∈ names, IsName name) →
      resolve (specifier climb names) (slashed (dirs ++ [stem])) =
        slashed (dirs.take (dirs.length - climb) ++ names)) ∧
    ∀ (dirs : List String) (stem : String) (target : List String),
      (∀ dir ∈ dirs, IsName dir) → IsName stem → target ≠ [] → (∀ name ∈ target, IsName name) →
      resolve (relativeSpecifier dirs target) (slashed (dirs ++ [stem])) = slashed target := by
  refine ⟨fun name => ?_, ?_, ?_, ?_⟩
  · rw [lookup_namedImports, specifierOf?, m.listedImports_text hne, lookup_listed, Option.map_map]
    rfl
  · exact fun package hpackage => ModulePath.resolve_of_not_dot hpackage importPath
  · exact fun dirs stem climb names hdirs hstem hclimb hnames hall =>
      ModulePath.resolve_specifier hdirs hstem hclimb hnames hall
  · exact fun dirs stem target hdirs hstem htarget hall =>
      ModulePath.resolve_relativeSpecifier hdirs hstem htarget hall

/-- Two names from the module beside, one of them once more from a package. -/
def repeatedImports : ImportingModule where
  statements :=
    [({ text := "// @generated\n" },
      { names := [{ name := { text := "Duration" }, typed := true },
          { before := { text := " " }, name := { text := "Page" } }]
        specifier := "./page_pb" }),
     ({ text := "\n" },
      { typed := true
        names := [{ name := { text := "Duration" } }]
        specifier := "@bufbuild/protobuf/wkt" })]
  behind := { text := "\n" }

theorem repeatedImports_lead :
    (∀ p ∈ repeatedImports.statements, p.2.specifier ≠ "") ∧
    (namedImports repeatedImports.text "shop/v1/order_pb").lookup "Page" =
      some (resolve "./page_pb" "shop/v1/order_pb") ∧
    (namedImports repeatedImports.text "shop/v1/order_pb").lookup "Duration" =
      some "@bufbuild/protobuf/wkt" ∧
    resolve "../../common/v1/error_pb" "shop/v1/order_pb" = "common/v1/error_pb" := by
  have hne : ∀ p ∈ repeatedImports.statements, p.2.specifier ≠ "" := by decide
  obtain ⟨hlookup, hpackage, hclimb, -⟩ :=
    namedImports_text repeatedImports hne "shop/v1/order_pb"
  refine ⟨hne, ?_, ?_, ?_⟩
  · rw [hlookup]
    rfl
  · rw [hlookup, ← hpackage "@bufbuild/protobuf/wkt" (by decide)]
    rfl
  · exact hclimb ["shop", "v1"] "order_pb" 2 ["common", "v1", "error_pb"] (by decide) (by decide)
      (by decide) (by decide) (by decide)

/-- A name from nowhere. -/
def emptySpecifier : ImportingModule where
  statements := [({ text := "" }, { names := [{ name := { text := "A" } }], specifier := "" })]
  behind := { text := "" }

/-- A statement with an empty specifier is not read. -/
theorem emptySpecifier_not_read :
    ¬ ∀ (m : ImportingModule) (importPath name : String),
      (namedImports m.text importPath).lookup name =
        (m.last? name).map fun st => resolve st.specifier importPath := by
  intro h
  have hnone : (namedImports emptySpecifier.text "a/b").lookup "A" = none := by decide +kernel
  have hsome : (emptySpecifier.last? "A").isSome = true := by decide
  rw [h] at hnone
  rw [Option.map_eq_none_iff] at hnone
  rw [hnone] at hsome
  exact absurd hsome (by decide)

end Service

end ConnectClients
