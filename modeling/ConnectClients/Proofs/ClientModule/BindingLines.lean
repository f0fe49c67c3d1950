import ConnectClients.Proofs.ClientModule.Bindings

/-!
# Reading what a client module binds

The names that a client module binds stand on lines of three kinds, which begin with the word
`import` and a brace, with `export type` or with `export const`. Reading these lines off the text
gives the names back; remarks and the exports of the message types bind nothing.
-/

namespace ConnectClients.ClientModule

open Text
open Identifier (clientName lowerFirst)

variable {service : Service} {moduleName : Option String}

/-! ## The names in the text -/

/-- The names that a line imports. -/
def importedOn (line : String) : List String :=
  if isLed "import \x7b " line then bracedNames line.toList else []

/-- The name that a line declares behind a lead. A list in braces declares nothing. -/
def declaredOn (lead line : String) : List String :=
  ((literal? lead line.toList).toList.map fun rest =>
    String.ofList (rest.takeWhile fun c => c != ' ' && c != ':')).filter (· != "\x7b")

/-- The names that a text binds. -/
def bindingsOf (text : String) : Bindings where
  imported := (textLines text).flatMap importedOn
  types := (textLines text).flatMap (declaredOn "export type ")
  constants := (textLines text).flatMap (declaredOn "export const ")

/-- A line that does not begin like an import imports nothing. -/
theorem importedOn_eq_nil {line : String} (h : isLed "import \x7b " line = false) :
    importedOn line = [] := by
  rw [importedOn, h, if_neg Bool.false_ne_true]

theorem isLed_statement (st : Statement) : isLed "import \x7b " st.line = true := by
  unfold Statement.line importLine
  simp only [String.append_assoc]
  exact isLed_append _ _

theorem importedOn_line (st : Statement) : importedOn st.line = bracedNames st.line.toList := by
  rw [importedOn, if_pos (isLed_statement st)]

theorem declaredOn_eq_nil {lead line : String} (h : isLed lead line = false) :
    declaredOn lead line = [] := by
  have hnone : literal? lead line.toList = none := by
    rw [literal?_eq_none_iff, ← List.isPrefixOf_iff_prefix, Bool.not_eq_true]
    exact h
  rw [declaredOn, hnone]
  rfl

/-- A name behind a lead is read up to the blank or the colon that follows it. -/
theorem declaredOn_of_eq {lead name line : String} {stop : Char} {rest : List Char}
    (hline : line.toList = lead.toList ++ (name.toList ++ stop :: rest))
    (hname : ∀ c ∈ name.toList, c ≠ ' ' ∧ c ≠ ':') (hstop : stop = ' ' ∨ stop = ':') :
    declaredOn lead line = [name].filter (· != "\x7b") := by
  have htaken : (name.toList ++ stop :: rest).takeWhile (fun c => c != ' ' && c != ':') =
      name.toList := by
    rw [List.takeWhile_append_of_pos, List.takeWhile_cons_of_neg, List.append_nil]
    · rcases hstop with rfl | rfl <;> decide
    · intro c hc
      simpa using hname c hc
  rw [declaredOn, hline, literal?_append, Option.toList_some, List.map_singleton, htaken,
    String.ofList_toList]

/-! ## Reading a client module -/

theorem isLed_append_of_isLed {lead first : String} (h : isLed lead first = true) (rest : String) :
    isLed lead (first ++ rest) = true := by
  rw [isLed, List.isPrefixOf_iff_prefix] at h ⊢
  rw [String.toList_append]
  exact h.trans (List.prefix_append _ _)

/-- A line that is led in one way is not led in another. -/
theorem isLed_eq_false_of_isLed {lead other line : String} (h : isLed other line = true)
    (hapart : (lead.toList.isPrefixOf other.toList || other.toList.isPrefixOf lead.toList) =
      false) : isLed lead line = false := by
  obtain ⟨rest, hrest⟩ := List.isPrefixOf_iff_prefix.mp h
  have hsplit : line = other ++ String.ofList rest := by
    rw [← String.toList_inj, String.toList_append, String.toList_ofList, hrest]
  rw [Bool.or_eq_false_iff] at hapart
  rw [hsplit]
  refine isLed_eq_false (fun hlead => ?_) (fun hother => ?_) _
  · rw [List.isPrefixOf_iff_prefix.mpr hlead] at hapart
    exact Bool.noConfusion hapart.1
  · rw [List.isPrefixOf_iff_prefix.mpr hother] at hapart
    exact Bool.noConfusion hapart.2

/-- What the lines of remarks start with. -/
def remarkLeads : List String := ["// ", "/**", " *"]

/-- The line that declares the type of a client, and the one that declares the constant. -/
def typeLine (service : Service) : String :=
  "export type " ++ clientName service.serviceName ++ "Client = Client<typeof " ++
    service.serviceName ++ ">"

def constantLine (service : Service) : String :=
  "export const " ++ lowerFirst (clientName service.serviceName) ++ "Client: " ++
    clientName service.serviceName ++ "Client = createClient(" ++ service.serviceName ++
      ", transport)"

theorem isLed_typeLine (service : Service) : isLed "export type " (typeLine service) = true := by
  unfold typeLine
  simp only [String.append_assoc]
  exact isLed_append _ _

theorem isLed_constantLine (service : Service) :
    isLed "export const " (constantLine service) = true := by
  unfold constantLine
  simp only [String.append_assoc]
  exact isLed_append _ _

/-- What is read off a client module, if nothing is read off remarks and empty lines. -/
theorem flatMap_render {α : Type} {read : String → List α} (hempty : read "" = [])
    (hremark : ∀ remark ∈ remarkLeads, ∀ line, isLed remark line = true → read line = [])
    (service : Service) (moduleName : Option String) :
    (body (clientName service.serviceName) service moduleName ++
        typeExports (messageTypes service)).flatMap read =
      ((statements service moduleName).map Statement.line).flatMap read ++
        (read (typeLine service) ++ read (constantLine service)) ++
          (typeExports (messageTypes service)).flatMap read := by
  have hcomment : (comment (clientName service.serviceName) service).flatMap read = [] := by
    have hslashes : ∀ first, isLed "// " first = true → ∀ rest, read (first ++ rest) = [] :=
      fun first hfirst rest => hremark "// " (by decide) _ (isLed_append_of_isLed hfirst rest)
    have htitle := hslashes ("// " ++ clientName service.serviceName) (isLed_append _ _)
      " Service Client - Auto-generated"
    have hedit : read doNotEdit = [] := hremark "// " (by decide) _ (by decide)
    have hsource := hslashes ("// Source: " ++ service.serviceName ++ " from ")
      (isLed_append_of_isLed (isLed_append_of_isLed (by decide) _) _) service.importPath
    rw [comment, List.flatMap_cons, List.flatMap_cons, List.flatMap_cons, List.flatMap_singleton,
      htitle, hedit, hsource, hempty]
    rfl
  have hdeclarations : (declarations (clientName service.serviceName) service).flatMap read =
      read (typeLine service) ++ read (constantLine service) := by
    have hstar : ∀ line, isLed " *" line = true → read line = [] := hremark " *" (by decide)
    have hopen : read "/**" = [] := hremark "/**" (by decide) _ (by decide)
    have htitle := hstar (" * " ++ clientName service.serviceName ++ " Service Client")
      (isLed_append_of_isLed (isLed_append_of_isLed (by decide) _) _)
    have hcreated := hstar " * Created using Connect-RPC's createClient with configured transport."
      (by decide)
    have hinferred := hstar (" * Type inference is automatically derived from " ++
      service.serviceName ++ " definition.")
      (isLed_append_of_isLed (isLed_append_of_isLed (by decide) _) _)
    have hclose := hstar " */" (by decide)
    rw [declarations]
    simp only [List.flatMap_cons, List.flatMap_nil, hempty, hopen, htitle, hcreated, hinferred,
      hclose, List.nil_append, List.append_nil]
    rfl
  rw [List.flatMap_append, body, List.flatMap_append, List.flatMap_append, hcomment, hdeclarations,
    List.nil_append]

/-- The exports of the message types stand in one line. -/
theorem flatMap_typeExports {α : Type} {read : String → List α} (hempty : read "" = [])
    (hread : ∀ rest, read ("export type \x7b " ++ rest) = []) (types : List String) :
    (typeExports types).flatMap read = [] := by
  rw [typeExports]
  split
  · rfl
  · rw [List.flatMap_cons, List.flatMap_singleton, hempty, String.append_assoc, hread]
    rfl

theorem imported_lines (service : Service) (moduleName : Option String) :
    (body (clientName service.serviceName) service moduleName ++
      typeExports (messageTypes service)).flatMap importedOn =
        (bindings service moduleName).imported := by
  have hnone : ∀ other line, isLed other line = true →
      ("import \x7b ".toList.isPrefixOf other.toList ||
        other.toList.isPrefixOf "import \x7b ".toList) = false → importedOn line = [] :=
    fun other line hled hapart => importedOn_eq_nil (isLed_eq_false_of_isLed hled hapart)
  have hremark : ∀ remark ∈ remarkLeads, ∀ line, isLed remark line = true →
      importedOn line = [] := by
    intro remark hremark line hled
    have hapart : ∀ remark ∈ remarkLeads, ("import \x7b ".toList.isPrefixOf remark.toList ||
        remark.toList.isPrefixOf "import \x7b ".toList) = false := by decide
    exact hnone remark line hled (hapart remark hremark)
  have htypes : (typeExports (messageTypes service)).flatMap importedOn = [] :=
    flatMap_typeExports rfl (fun rest => hnone _ _ (isLed_append _ rest) (by decide)) _
  rw [flatMap_render rfl hremark, htypes, hnone _ _ (isLed_typeLine service) (by decide),
    hnone _ _ (isLed_constantLine service) (by decide), List.flatMap_map]
  simp only [importedOn_line, List.append_nil]
  rfl

/-- Only the lines of the declarations can declare something. -/
theorem declared_lines {lead : String} (hlead : isLed lead "" = false)
    (hremarks : ∀ remark ∈ "import \x7b " :: remarkLeads,
      (lead.toList.isPrefixOf remark.toList || remark.toList.isPrefixOf lead.toList) = false)
    (hexports : ∀ rest, declaredOn lead ("export type \x7b " ++ rest) = [])
    (service : Service) (moduleName : Option String) :
    (body (clientName service.serviceName) service moduleName ++
      typeExports (messageTypes service)).flatMap (declaredOn lead) =
        declaredOn lead (typeLine service) ++ declaredOn lead (constantLine service) := by
  have hempty : declaredOn lead "" = [] := declaredOn_eq_nil hlead
  have hnone : ∀ remark ∈ "import \x7b " :: remarkLeads, ∀ line, isLed remark line = true →
      declaredOn lead line = [] :=
    fun remark hremark line hled =>
      declaredOn_eq_nil (isLed_eq_false_of_isLed hled (hremarks remark hremark))
  have hstatements : ((statements service moduleName).map Statement.line).flatMap
      (declaredOn lead) = [] := by
    rw [List.flatMap_eq_nil_iff, List.forall_mem_map]
    exact fun st _ => hnone _ List.mem_cons_self _ (isLed_statement st)
  rw [flatMap_render hempty fun remark hremark => hnone remark (List.mem_cons_of_mem _ hremark),
    hstatements, flatMap_typeExports hempty hexports, List.nil_append, List.append_nil]

section words

variable (h : HasWords service)

include h

/-- A mark that is part of no word stands in no name of a client. -/
theorem mark_not_mem_names {d : Char} (hd : IsMark d) (hword : isWord d = false) :
    d ∉ (clientName service.serviceName).toList ∧
      d ∉ (lowerFirst (clientName service.serviceName)).toList := by
  have hname : d ∉ (clientName service.serviceName).toList := by
    intro hmem
    rw [h.name_word d (Identifier.mem_of_mem_clientName hmem)] at hword
    exact Bool.noConfusion hword
  exact ⟨hname, fun hmem => hname (Identifier.mem_of_mark_mem_lowerFirst hd hmem)⟩

omit h in
/-- A declared name is read to its end, and is no brace. -/
theorem declared_name {stem : String} (hblank : ' ' ∉ stem.toList) (hcolon : ':' ∉ stem.toList) :
    (∀ c ∈ (stem ++ "Client").toList, c ≠ ' ' ∧ c ≠ ':') ∧
      [stem ++ "Client"].filter (· != "\x7b") = [stem ++ "Client"] := by
  constructor
  · intro c hc
    rw [String.toList_append, List.mem_append] at hc
    rcases hc with hc | hc
    · exact ⟨fun heq => hblank (heq ▸ hc), fun heq => hcolon (heq ▸ hc)⟩
    · have hclient : ∀ c ∈ "Client".toList, c ≠ ' ' ∧ c ≠ ':' := by simp
      exact hclient c hc
  · have hbrace : stem ++ "Client" ≠ "\x7b" := Identifier.append_ne (by decide)
    rw [List.filter_cons_of_pos (by simpa using hbrace)]
    rfl

theorem types_lines (moduleName : Option String) :
    (body (clientName service.serviceName) service moduleName ++
      typeExports (messageTypes service)).flatMap (declaredOn "export type ") =
        [typeName service] := by
  obtain ⟨hread, hkept⟩ := declared_name (mark_not_mem_names h (by decide) (by decide)).1
    (mark_not_mem_names h (by decide) (by decide)).1
  have hline : (typeLine service).toList = "export type ".toList ++ ((typeName service).toList ++
      ' ' :: ("= Client<typeof " ++ (service.serviceName ++ ">")).toList) := by
    have hblank : "Client = Client<typeof " = "Client" ++ (" " ++ "= Client<typeof ") := rfl
    unfold typeLine typeName
    rw [hblank]
    simp only [String.append_assoc, String.toList_append, List.append_assoc]
    rfl
  have hexports : ∀ rest, declaredOn "export type " ("export type \x7b " ++ rest) = [] := by
    intro rest
    have hbrace : ("export type \x7b " ++ rest).toList =
        "export type ".toList ++ ("\x7b".toList ++ ' ' :: rest.toList) :=
      String.toList_append
    rw [declaredOn_of_eq hbrace (by simp) (Or.inl rfl)]
    rfl
  have hconstant : declaredOn "export type " (constantLine service) = [] :=
    declaredOn_eq_nil (isLed_eq_false_of_isLed (isLed_constantLine service) (by decide))
  rw [declared_lines (by decide) (by decide) hexports, hconstant,
    declaredOn_of_eq hline hread (Or.inl rfl), List.append_nil]
  exact hkept

theorem constants_lines (moduleName : Option String) :
    (body (clientName service.serviceName) service moduleName ++
      typeExports (messageTypes service)).flatMap (declaredOn "export const ") =
        [constantName service] := by
  obtain ⟨hread, hkept⟩ := declared_name (mark_not_mem_names h (by decide) (by decide)).2
    (mark_not_mem_names h (by decide) (by decide)).2
  have hline : (constantLine service).toList = "export const ".toList ++
      ((constantName service).toList ++ ':' :: (" " ++ (clientName service.serviceName ++
        ("Client = createClient(" ++ (service.serviceName ++ ", transport)")))).toList) := by
    have hcolon : "Client: " = "Client" ++ (":" ++ " ") := rfl
    unfold constantLine constantName
    rw [hcolon]
    simp only [String.append_assoc, String.toList_append, List.append_assoc]
    rfl
  have hexports : ∀ rest, declaredOn "export const " ("export type \x7b " ++ rest) = [] :=
    fun rest => declaredOn_eq_nil (isLed_eq_false_of_isLed (isLed_append _ rest) (by decide))
  have htype : declaredOn "export const " (typeLine service) = [] :=
    declaredOn_eq_nil (isLed_eq_false_of_isLed (isLed_typeLine service) (by decide))
  rw [declared_lines (by decide) (by decide) hexports, htype,
    declaredOn_of_eq hline hread (Or.inr rfl), List.nil_append]
  exact hkept

end words

/-! ## Lines -/

/-- A text of one line. -/
def OneLine (text : String) : Prop := '\n' ∉ text.toList

instance (text : String) : Decidable (OneLine text) :=
  inferInstanceAs (Decidable (¬ '\n' ∈ text.toList))

theorem OneLine.append {first rest : String} (hfirst : OneLine first) (hrest : OneLine rest) :
    OneLine (first ++ rest) := by
  rw [OneLine, String.toList_append, List.mem_append, not_or]
  exact ⟨hfirst, hrest⟩

theorem IsPlain.oneLine {name : String} (h : IsPlain name) : OneLine name :=
  fun hmem => absurd (h.unblank _ hmem) (by decide)

section words

variable (h : HasWords service)

include h

theorem oneLine_comment (hpath : OneLine service.importPath) :
    ∀ line ∈ comment (clientName service.serviceName) service, OneLine line := by
  have hname : OneLine (clientName service.serviceName) :=
    (mark_not_mem_names h (by decide) (by decide)).1
  have htitle : OneLine ("// " ++ clientName service.serviceName ++
      " Service Client - Auto-generated") :=
    (OneLine.append (by decide) hname).append (by decide)
  have hsource : OneLine ("// Source: " ++ service.serviceName ++ " from " ++ service.importPath) :=
    ((OneLine.append (by decide) h.isPlain_name.oneLine).append
      (by decide)).append hpath
  simp only [comment, List.forall_mem_cons]
  exact ⟨htitle, by decide, hsource, by decide, List.forall_mem_nil _⟩

theorem oneLine_declarations : ∀ line ∈ declarations (clientName service.serviceName) service,
    OneLine line := by
  have hnames : OneLine (clientName service.serviceName) ∧
      OneLine (lowerFirst (clientName service.serviceName)) :=
    mark_not_mem_names h (by decide) (by decide)
  obtain ⟨hname, hfirst⟩ := hnames
  have hservice : OneLine service.serviceName := h.isPlain_name.oneLine
  have htitle : OneLine (" * " ++ clientName service.serviceName ++ " Service Client") :=
    (OneLine.append (by decide) hname).append (by decide)
  have hinferred : OneLine (" * Type inference is automatically derived from " ++
      service.serviceName ++ " definition.") :=
    (OneLine.append (by decide) hservice).append (by decide)
  have htype : OneLine (typeLine service) :=
    (((OneLine.append (by decide) hname).append (by decide)).append hservice).append (by decide)
  have hconstant : OneLine (constantLine service) :=
    (((((OneLine.append (by decide) hfirst).append (by decide)).append hname).append
      (by decide)).append hservice).append (by decide)
  have hempty : OneLine "" := by decide
  simp only [declarations, List.forall_mem_cons]
  exact ⟨hempty, by decide, htitle, by decide, hinferred, by decide, htype, hempty, hconstant,
    List.forall_mem_nil _⟩

theorem oneLine_statements (hpaths : ∀ path ∈ service.importPath ::
      (messageTypes service).map (origin service), OneLine path) :
    ∀ st ∈ statements service moduleName, OneLine st.line := by
  have hline : ∀ st : Statement, (∀ symbol ∈ st.symbols, OneLine symbol) →
      OneLine st.specifier → OneLine st.line := by
    intro st hsymbols hspecifier
    have hjoined : OneLine (", ".intercalate st.symbols) :=
      not_mem_intercalate (by decide) hsymbols
    exact (((OneLine.append (by decide) hjoined).append (by decide)).append hspecifier).append
      (by decide)
  intro st hst
  rcases List.mem_cons.mp hst with rfl | hst
  · decide
  rcases List.mem_append.mp hst with hst | hst
  · apply hline
    · intro symbol hsymbol
      obtain ⟨hplain, hsymbol⟩ := lists_of_mem_ownStatements h hst hsymbol
      rcases hsymbol with heq | heq
      · exact heq ▸ hplain.oneLine
      · exact heq ▸ OneLine.append (by decide) hplain.oneLine
    · obtain ⟨path, hmem, hspecifier⟩ := mem_ownStatements_iff.mp hst
      have hpath : path ∈ service.importPath :: (messageTypes service).map (origin service) :=
        ((paths_firstSeen service).mem_iff).mp (List.mem_map_of_mem hmem)
      rw [← hspecifier, specifierOf]
      split
      · exact hpaths path hpath
      · exact OneLine.append (by decide) (hpaths path hpath)
  · obtain rfl := List.mem_singleton.mp hst
    refine hline _ (List.forall_mem_singleton.mpr (by decide)) ?_
    rw [transportStatement, transportSpecifier]
    split <;> decide

theorem oneLine_typeExports : ∀ line ∈ typeExports (messageTypes service), OneLine line := by
  have hjoined : OneLine (", ".intercalate (messageTypes service)) :=
    not_mem_intercalate (by decide) fun t ht => (h.isPlain_type ht).oneLine
  rw [typeExports]
  split
  · exact List.forall_mem_nil _
  · simp only [List.forall_mem_cons]
    exact ⟨by decide, (OneLine.append (by decide) hjoined).append (by decide), List.forall_mem_nil _⟩

/-- What is read off the text of a client module are the names that it binds. -/
theorem bindingsOf_render (hpaths : ∀ path ∈ service.importPath ::
      (messageTypes service).map (origin service), OneLine path) :
    bindingsOf (render (clientName service.serviceName) service moduleName) =
      bindings service moduleName := by
  have hlines : ∀ line ∈ body (clientName service.serviceName) service moduleName ++
      typeExports (messageTypes service), OneLine line := by
    intro line hline
    rw [body, List.append_assoc, List.append_assoc] at hline
    rcases List.mem_append.mp hline with hline | hline
    · exact oneLine_comment h (hpaths _ List.mem_cons_self) line hline
    rcases List.mem_append.mp hline with hline | hline
    · obtain ⟨st, hst, rfl⟩ := List.mem_map.mp hline
      exact oneLine_statements h hpaths st hst
    rcases List.mem_append.mp hline with hline | hline
    · exact oneLine_declarations h line hline
    · exact oneLine_typeExports h line hline
  have htext : textLines (render (clientName service.serviceName) service moduleName) =
      body (clientName service.serviceName) service moduleName ++
        typeExports (messageTypes service) ++ [""] := by
    rw [render_eq]
    exact textLines_unlines (by simp [body, comment]) hlines
  have hlast : ∀ read : String → List String, read "" = [] → ∀ lines : List String,
      (lines ++ [""]).flatMap read = lines.flatMap read := by
    intro read hempty lines
    rw [List.flatMap_append, List.flatMap_singleton, hempty, List.append_nil]
  rw [bindingsOf, htext, hlast _ (by decide), hlast _ (by decide), hlast _ (by decide),
    imported_lines, types_lines h, constants_lines h]
  rfl

end words

/-- **A client module binds each name once unless one that others have chosen is in use.** Let the
names of a service and of its message types be words. Its client module imports what every client
module needs, the service and the message types, and declares the type and the constant of the
client. No name is bound twice exactly if the service is not called like what is imported anyway,
nor is its client called `create`, and no message type is called like what is imported anyway or
like what is declared. These names are those on the lines of the module, as long as the paths that
it imports from have no newline. -/
theorem binds_once_iff (h : HasWords service) (moduleName : Option String) :
    (bindings service moduleName).imported.Perm
      (commonNames ++ service.serviceName :: messageTypes service) ∧
    ((bindings service moduleName).Once ↔
      service.serviceName ∉ commonNames ++ creatorNames ∧
        ∀ t ∈ messageTypes service,
          t ∉ commonNames ++ [typeName service, constantName service]) ∧
    ((∀ path ∈ service.importPath :: (messageTypes service).map (origin service), OneLine path) →
      bindingsOf (render (clientName service.serviceName) service moduleName) =
        bindings service moduleName) :=
  ⟨imported_perm h moduleName, once_iff h, bindingsOf_render h⟩

/-- A service with one method, whose messages are in its own module. -/
def oneMethod (service input output : String) : Service :=
  ⟨service, "acme/v1/ping_pb", [⟨"run", input, input ++ "Schema", output, output ++ "Schema"⟩], []⟩

theorem hasWords_oneMethod {service input output : String} (hne : service ≠ "")
    (hwords : ∀ name ∈ [service, input, output], name.toList.all isWord = true) :
    HasWords (oneMethod service input output) where
  name_ne_empty := hne
  name_word := List.all_eq_true.mp (hwords service (by simp))
  types_word t ht := by
    have hnamed : t ∈ [input, output] := (mem_messageTypes.mp ht).1
    exact List.all_eq_true.mp (hwords t (List.mem_cons_of_mem _ hnamed))

/-- A client that is called like what creates clients, and messages that are called like the client
or like its type, are bound twice. -/
theorem create_bound_twice :
    (bindings (oneMethod "PingService" "Ping" "Pong") none).Once ∧
      (bindingsOf (render "Create" (oneMethod "CreateService" "Ping" "Pong") none)).constants =
        ["createClient"] ∧
      ¬ (bindingsOf (render "Create" (oneMethod "CreateService" "Ping" "Pong") none)).Once ∧
      ¬ (bindings (oneMethod "PingService" "PingClient" "Pong") none).Once ∧
      ¬ (bindings (oneMethod "PingService" "Ping" "Client") none).Once := by
  have hplain : HasWords (oneMethod "PingService" "Ping" "Pong") :=
    hasWords_oneMethod (by decide) (by decide)
  have hcreate : HasWords (oneMethod "CreateService" "Ping" "Pong") :=
    hasWords_oneMethod (by decide) (by decide)
  have hmessage : HasWords (oneMethod "PingService" "PingClient" "Pong") :=
    hasWords_oneMethod (by decide) (by decide)
  have hclient : HasWords (oneMethod "PingService" "Ping" "Client") :=
    hasWords_oneMethod (by decide) (by decide)
  obtain ⟨-, honce, -⟩ := binds_once_iff hplain none
  obtain ⟨-, hcreated, htext⟩ := binds_once_iff hcreate none
  obtain ⟨-, hmessages, -⟩ := binds_once_iff hmessage none
  obtain ⟨-, hclients, -⟩ := binds_once_iff hclient none
  have hread : bindingsOf (render "Create" (oneMethod "CreateService" "Ping" "Pong") none) =
      bindings (oneMethod "CreateService" "Ping" "Pong") none := htext (by decide)
  refine ⟨honce.mpr (by decide), ?_, ?_, mt hmessages.mp (by decide), mt hclients.mp (by decide)⟩
  · rw [hread]
    decide
  · rw [hread]
    exact mt hcreated.mp (by decide)

end ConnectClients.ClientModule
