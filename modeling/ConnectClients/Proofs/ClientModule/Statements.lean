import ConnectClients.Proofs.ClientModule.TypeImports

/-!
# The import statements of a client module

A client module has one import statement for every path that the service or one of its message
types comes from, in the order in which these are first used. Two more statements stand around
them, for the client and for the transport, and they do not look at what the others import: a
message with the name of the client's type is imported twice.
-/

namespace ConnectClients.ClientModule

open Text
open Assoc (FirstSeen distinct)

/-- An import statement: what is imported, and from where. -/
structure Statement where
  symbols : List String
  specifier : String
  deriving DecidableEq, Repr

def Statement.line (st : Statement) : String := importLine st.symbols st.specifier

/-- The statement that every client module begins with. -/
def clientStatement : Statement := ⟨["createClient", "type Client"], "@connectrpc/connect"⟩

def transportStatement (moduleName : Option String) : Statement :=
  ⟨["transport"], transportSpecifier moduleName⟩

/-- The statements for the service and its message types. -/
def ownStatements (service : Service) : List Statement :=
  (importedSymbols service).map fun (path, symbols) => ⟨symbols, specifierOf path⟩

/-- All import statements of a client module. -/
def statements (service : Service) (moduleName : Option String) : List Statement :=
  clientStatement :: ownStatements service ++ [transportStatement moduleName]

/-! ## The text -/

/-- The comment that a client module begins with. -/
def comment (name : String) (service : Service) : List String :=
  ["// " ++ name ++ " Service Client - Auto-generated",
   doNotEdit,
   "// Source: " ++ service.serviceName ++ " from " ++ service.importPath,
   ""]

/-- A client module up to its exports of types. -/
def body (name : String) (service : Service) (moduleName : Option String) : List String :=
  comment name service ++ (statements service moduleName).map Statement.line ++
    declarations name service

theorem render_eq (name : String) (service : Service) (moduleName : Option String) :
    render name service moduleName =
      unlines (body name service moduleName ++ typeExports (messageTypes service)) := by
  have hown : (ownStatements service).map Statement.line = importLines service := by
    rw [ownStatements, List.map_map]
    rfl
  rw [render, body, statements, List.map_append, List.map_cons, hown]
  simp only [comment, List.append_assoc, List.cons_append, List.nil_append, List.map_cons,
    List.map_nil]
  rfl

/-! ## One statement for each path -/

/-- Different paths have different specifiers: what stands in the generated tree does not begin
like a package. -/
theorem specifierOf_injective : Function.Injective specifierOf := by
  intro a b h
  have hgenerated : ∀ path : String, ("../generated/" ++ path).toList.head? = some '.' := by
    intro path
    rw [String.toList_append]
    rfl
  have hmark : ∀ a b : String, a.toList.head? = some packageMark → a ≠ "../generated/" ++ b := by
    rintro a b ha rfl
    rw [hgenerated] at ha
    exact absurd ha (by decide)
  rw [specifierOf, specifierOf] at h
  split at h
  · rename_i ha
    split at h
    · exact h
    · exact absurd h (hmark a b (eq_of_beq ha))
  · split at h
    · rename_i hb
      exact absurd h.symm (hmark b a (eq_of_beq hb))
    · exact (String.append_right_inj _).mp h

/-- Under each path stand the service, if it is its own, and the message types that come from it. -/
theorem importedSymbols_eq (service : Service) :
    importedSymbols service =
      (distinct (service.importPath :: (messageTypes service).map (origin service))).map fun path =>
        (path, (if service.importPath = path then [service.serviceName] else []) ++
          ((messageTypes service).filter fun t => origin service t == path).map ("type " ++ ·)) := by
  let pairs : List (String × String) := (service.importPath, service.serviceName) ::
    (messageTypes service).map fun t => (origin service t, "type " ++ t)
  have hfold : importedSymbols service = pairs.foldl (fun d p => Assoc.append p.1 p.2 d) [] := by
    rw [List.foldl_cons, List.foldl_map]
    rfl
  rw [hfold, Assoc.foldl_append_pairs, List.map_cons, List.map_map]
  refine List.map_congr_left fun path _ => ?_
  have htypes : (((messageTypes service).map fun t => (origin service t, "type " ++ t)).filter
      fun p => p.1 == path).map Prod.snd =
        ((messageTypes service).filter fun t => origin service t == path).map ("type " ++ ·) := by
    rw [List.filter_map, List.map_map]
    rfl
  by_cases h : service.importPath = path
  · rw [if_pos h, List.filter_cons_of_pos (by simpa using h), List.map_cons, htypes]
    rfl
  · rw [if_neg h, List.filter_cons_of_neg (by simpa using h), htypes]
    rfl

theorem paths_firstSeen (service : Service) :
    FirstSeen (service.importPath :: (messageTypes service).map (origin service))
      ((importedSymbols service).map Prod.fst) := by
  have hkeys := congrArg (List.map Prod.fst) (importedSymbols_eq service)
  rw [List.map_map] at hkeys
  rw [hkeys.trans (List.map_id _)]
  exact Assoc.distinct_firstSeen _

/-- Nothing is imported from two statements. -/
theorem specifiers_nodup (service : Service) :
    ((ownStatements service).map Statement.specifier).Nodup := by
  have hspecifiers : (ownStatements service).map Statement.specifier =
      ((importedSymbols service).map Prod.fst).map specifierOf := by
    rw [ownStatements, List.map_map, List.map_map]
    rfl
  rw [hspecifiers]
  exact (paths_firstSeen service).nodup.map specifierOf_injective

theorem mem_ownStatements_iff {service : Service} {st : Statement} :
    st ∈ ownStatements service ↔
      ∃ path, (path, st.symbols) ∈ importedSymbols service ∧ specifierOf path = st.specifier := by
  obtain ⟨symbols, specifier⟩ := st
  rw [ownStatements, List.mem_map]
  constructor
  · rintro ⟨⟨path, _⟩, hmem, heq⟩
    obtain ⟨rfl, rfl⟩ := Statement.mk.inj heq
    exact ⟨path, hmem, rfl⟩
  · rintro ⟨path, hmem, rfl⟩
    exact ⟨(path, symbols), hmem, rfl⟩

/-! ## How often a symbol is imported -/

theorem symbols_perm (service : Service) :
    ((ownStatements service).flatMap Statement.symbols).Perm
      (service.serviceName :: (messageTypes service).map ("type " ++ ·)) := by
  have hsymbols : (ownStatements service).flatMap Statement.symbols =
      (importedSymbols service).flatMap Prod.snd := by
    rw [ownStatements, List.flatMap_map]
  rw [hsymbols]
  exact (Assoc.values_foldl_append_perm (origin service) ("type " ++ ·) (messageTypes service) _).trans
    (List.perm_append_singleton _ _)

/-- Everything that a client module imports. -/
def symbols (service : Service) (moduleName : Option String) : List String :=
  (statements service moduleName).flatMap Statement.symbols

theorem count_symbols (service : Service) (moduleName : Option String) (symbol : String) :
    (symbols service moduleName).count symbol =
      ["createClient", "type Client", "transport"].count symbol +
        ((if service.serviceName = symbol then 1 else 0) +
          ((messageTypes service).map ("type " ++ ·)).count symbol) := by
  have hown := (symbols_perm service).count_eq symbol
  have hall : symbols service moduleName = clientStatement.symbols ++
      ((ownStatements service).flatMap Statement.symbols ++ ["transport"]) := by
    rw [symbols, statements, List.cons_append, List.flatMap_cons, List.flatMap_append]
    rfl
  have hfixed : ["createClient", "type Client", "transport"] =
      clientStatement.symbols ++ ["transport"] := rfl
  rw [hall, hfixed, List.count_append, List.count_append, List.count_append, hown, List.count_cons]
  simp only [beq_iff_eq]
  omega

theorem nodup_messageTypes (service : Service) : (messageTypes service).Nodup :=
  Assoc.distinct_nodup _

theorem type_injective : Function.Injective ("type " ++ · : String → String) :=
  fun _ _ h => (String.append_right_inj "type ").mp h

theorem type_eq_client_iff (t : String) : "type " ++ t = "type Client" ↔ t = "Client" :=
  have hclient : "type Client" = "type " ++ "Client" := rfl
  hclient ▸ String.append_right_inj "type "

/-- A symbol that is no type is not written like one. -/
theorem ne_type (symbol : String) (h : ¬ "type ".toList <+: symbol.toList) (t : String) :
    symbol ≠ "type " ++ t := by
  rintro rfl
  rw [String.toList_append] at h
  exact h (List.prefix_append _ _)

/-- A message type is imported once, unless it is called like the client's type, or the service is
called as the type is written. -/
theorem count_type_eq_one_iff {service : Service} {t : String} (ht : t ∈ messageTypes service)
    (moduleName : Option String) :
    (symbols service moduleName).count ("type " ++ t) = 1 ↔
      t ≠ "Client" ∧ service.serviceName ≠ "type " ++ t := by
  have hone : ((messageTypes service).map ("type " ++ ·)).count ("type " ++ t) = 1 :=
    List.count_eq_one_of_mem ((nodup_messageTypes service).map type_injective)
      (List.mem_map_of_mem ht)
  have hclient : "type Client" = "type " ++ t ↔ t = "Client" :=
    eq_comm.trans (type_eq_client_iff t)
  have hfixed : ["createClient", "type Client", "transport"].count ("type " ++ t) =
      if t = "Client" then 1 else 0 := by
    have hcreate := ne_type "createClient" (by decide) t
    have htransport := ne_type "transport" (by decide) t
    simp [List.count_cons, hcreate, htransport, hclient]
  rw [count_symbols, hone, hfixed]
  by_cases h : t = "Client" <;> by_cases hname : service.serviceName = "type " ++ t <;>
    simp [h, hname]

/-- The service is imported once, unless it is called like something that every client module
imports, or as a type is written. -/
theorem count_serviceName_eq_one_iff (service : Service) (moduleName : Option String) :
    (symbols service moduleName).count service.serviceName = 1 ↔
      service.serviceName ∉ ["createClient", "type Client", "transport"] ∧
        ∀ t ∈ messageTypes service, service.serviceName ≠ "type " ++ t := by
  rw [count_symbols, if_pos rfl, ← List.count_eq_zero]
  have htypes : ((messageTypes service).map ("type " ++ ·)).count service.serviceName = 0 ↔
      ∀ t ∈ messageTypes service, service.serviceName ≠ "type " ++ t := by
    rw [List.count_eq_zero, List.mem_map]
    exact ⟨fun h t ht heq => h ⟨t, ht, heq.symm⟩, fun h ⟨t, ht, heq⟩ => h t ht heq.symm⟩
  rw [← htypes]
  omega

/-! ## The exports -/

/-- A client module ends with the exports of its message types, if it has any. -/
theorem render_exports (name : String) (service : Service) (moduleName : Option String) :
    render name service moduleName = unlines (body name service moduleName) ++
      if messageTypes service = [] then ""
      else "\nexport type \x7b " ++ ", ".intercalate (messageTypes service) ++ " \x7d\n" := by
  have hbody : body name service moduleName ≠ [] := by simp [body, comment]
  rw [render_eq, ← String.toList_inj, String.toList_append, toList_unlines hbody,
    toList_unlines (by simp [hbody]), List.flatMap_append]
  by_cases h : messageTypes service = []
  · rw [if_pos h, h]
    rfl
  · rw [if_neg h, typeExports, if_neg (by simpa using h)]
    simp [closed]

/-- **One statement for each path, and each name once.** The message types are the types that the
methods name, each once, in the order of first use. The text lists the import statements one after
the other and ends with the exports of the message types, if there are any. There is one statement
for each path that the service or a message type comes from, in the order of first use, with a
specifier of its own; it lists the service, if the path is the service's own, and the message types
that come from there. The service and each message type are imported by no other statement, unless
they are called like what every client module imports, or one is called as the other is written. -/
theorem imports_once_iff (name : String) (service : Service) (moduleName : Option String) :
    FirstSeen ((namedTypes service).filter fun t => !t.isEmpty && t != service.serviceName)
      (messageTypes service) ∧
    render name service moduleName = unlines (body name service moduleName) ++
      (if messageTypes service = [] then ""
      else "\nexport type \x7b " ++ ", ".intercalate (messageTypes service) ++ " \x7d\n") ∧
    FirstSeen (service.importPath :: (messageTypes service).map (origin service))
      ((importedSymbols service).map Prod.fst) ∧
    ((ownStatements service).map Statement.specifier).Nodup ∧
    (∀ path listed, (path, listed) ∈ importedSymbols service →
      listed = (if service.importPath = path then [service.serviceName] else []) ++
        ((messageTypes service).filter fun t => origin service t == path).map ("type " ++ ·)) ∧
    ((symbols service moduleName).count service.serviceName = 1 ↔
      service.serviceName ∉ ["createClient", "type Client", "transport"] ∧
        ∀ t ∈ messageTypes service, service.serviceName ≠ "type " ++ t) ∧
    ∀ t ∈ messageTypes service, ((symbols service moduleName).count ("type " ++ t) = 1 ↔
      t ≠ "Client" ∧ service.serviceName ≠ "type " ++ t) := by
  refine ⟨Assoc.distinct_firstSeen _, render_exports name service moduleName,
    paths_firstSeen service, specifiers_nodup service, ?_,
    count_serviceName_eq_one_iff service moduleName, fun t ht => count_type_eq_one_iff ht moduleName⟩
  intro path listed hmem
  rw [importedSymbols_eq] at hmem
  obtain ⟨path', -, heq⟩ := List.mem_map.mp hmem
  obtain ⟨rfl, rfl⟩ := Prod.mk.inj heq
  rfl

/-- A service whose messages have names that are in use elsewhere. -/
def clientService : Service :=
  ⟨"PingService", "acme/v1/ping_pb", [⟨"ping", "Client", "ClientSchema", "Pong", "PongSchema"⟩],
    [("Pong", "acme/v1/pong_pb")]⟩

/-- The message `Client` is imported beside the type of the client. -/
theorem clientService_imports_twice :
    "Pong" ∈ messageTypes clientService ∧ (symbols clientService none).count "type Pong" = 1 ∧
    "Client" ∈ messageTypes clientService ∧ (symbols clientService none).count "type Client" ≠ 1 := by
  have hpong : "Pong" ∈ messageTypes clientService := by decide
  have hclient : "Client" ∈ messageTypes clientService := by decide
  obtain ⟨-, -, -, -, -, -, htypes⟩ := imports_once_iff "Ping" clientService none
  refine ⟨hpong, (htypes "Pong" hpong).mpr (by decide), hclient, fun hone => ?_⟩
  exact ((htypes "Client" hclient).mp hone).1 rfl

end ConnectClients.ClientModule
