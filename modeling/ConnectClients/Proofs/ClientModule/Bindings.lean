import ConnectClients.Proofs.ClientModule.Exports
import ConnectClients.Proofs.ClientModule.Statements

/-!
# What a client module binds

A client module imports what every client needs, the service, and the message types, and declares
the type of the client and the constant that holds it. Names of services and messages are chosen by
others, and the module does not look whether they are in use: a service or a message may be called
like what every module imports, and a message like what the module declares.
-/

namespace ConnectClients

open Text
open Identifier (clientName lowerFirst)

namespace Identifier

theorem lowerOf_of_ascii_eq_c : ∀ n < 128, lowerOf (Char.ofNat n) = ['c'] →
    Char.ofNat n = 'c' ∨ Char.ofNat n = 'C' := by
  decide +kernel

/-- Only these names have a constant that is called `createClient`. -/
theorem lowerFirst_eq_create_iff {name : String} :
    lowerFirst name = "create" ↔ name = "create" ∨ name = "Create" := by
  constructor
  · intro h
    rw [← String.toList_inj] at h
    cases hname : name.toList with
    | nil =>
        rw [toList_lowerFirst_nil hname] at h
        exact absurd h (by decide)
    | cons c rest =>
        have hcreate : "create".toList = 'c' :: "reate".toList := by decide
        rw [toList_lowerFirst hname, hcreate] at h
        rcases lowerOf_cases c with ⟨d, hlower⟩ | hlower
        · rw [hlower, List.singleton_append] at h
          obtain ⟨rfl, rfl⟩ := List.cons.inj h
          have hascii : c.val < 128 := by
            by_contra hwide
            exact lowerOf_ne hwide (by decide) (by decide) (by decide) hlower
          have hcode := lowerOf_of_ascii_eq_c c.toNat (UInt32.lt_iff_toNat_lt.mp hascii)
          rw [Char.ofNat_toNat] at hcode
          rcases hcode hlower with rfl | rfl
          · exact Or.inl (String.toList_inj.mp hname)
          · exact Or.inr (String.toList_inj.mp hname)
        · rw [hlower] at h
          exact absurd (List.cons.inj h).1 (by decide)
  · rintro (rfl | rfl) <;> decide

end Identifier

namespace ClientModule

variable {service : Service} {moduleName : Option String}

/-! ## The names -/

/-- The names that a module binds: those that it imports, and those of the types and the constants
that it declares. A type and a constant may share a name. -/
structure Bindings where
  imported : List String
  types : List String
  constants : List String

/-- No name is bound twice. -/
structure Bindings.Once (b : Bindings) : Prop where
  imported : b.imported.Nodup
  types : b.types.Nodup
  constants : b.constants.Nodup
  types_imported : b.types.Disjoint b.imported
  constants_imported : b.constants.Disjoint b.imported

/-- What every client module imports. -/
def commonNames : List String := ["createClient", "Client", "transport"]

/-- The name of the type of a client. -/
def typeName (service : Service) : String := clientName service.serviceName ++ "Client"

/-- The name of the constant that holds a client. -/
def constantName (service : Service) : String :=
  lowerFirst (clientName service.serviceName) ++ "Client"

/-- What a client module binds. The imported names are read off the import statements. -/
def bindings (service : Service) (moduleName : Option String) : Bindings where
  imported := (statements service moduleName).flatMap fun st => bracedNames st.line.toList
  types := [typeName service]
  constants := [constantName service]

/-- The names that client modules are made of: the service and the message types are words. -/
structure HasWords (service : Service) : Prop where
  name_ne_empty : service.serviceName ≠ ""
  name_word : ∀ c ∈ service.serviceName.toList, isWord c = true
  types_word : ∀ t ∈ messageTypes service, ∀ c ∈ t.toList, isWord c = true

/-- The services that are read from modules are made of words. -/
theorem hasWords_of_mem_ofModule {content importPath : String}
    (hs : service ∈ Service.ofModule content importPath) : HasWords service := by
  obtain ⟨hname, htypes⟩ := Service.isWords_of_mem_ofModule hs
  refine ⟨mt String.toList_eq_nil_iff.mpr hname.1, hname.2, fun t ht => ?_⟩
  obtain ⟨m, hm, htype⟩ := mem_namedTypes.mp (mem_messageTypes.mp ht).1
  rcases htype with rfl | rfl
  · exact (htypes m hm).1.2
  · exact (htypes m hm).2.2

namespace HasWords

variable (h : HasWords service)

include h

theorem isPlain_name : IsPlain service.serviceName := isPlain_of_isWord h.name_ne_empty h.name_word

theorem isPlain_type {t : String} (ht : t ∈ messageTypes service) : IsPlain t :=
  isPlain_of_isWord (mem_messageTypes.mp ht).2.1 (h.types_word t ht)

end HasWords

/-! ## What is imported -/

/-- The name that an entry between braces lists. -/
def nameOf (symbol : String) : String := String.ofList (Service.importedName symbol.toList)

theorem Lists.nameOf_eq {symbol name : String} (h : Lists symbol name) : nameOf symbol = name := by
  have hname := h.importedName_eq (List.forall_mem_nil _) (List.forall_mem_nil _)
  rw [List.nil_append, List.append_nil] at hname
  rw [nameOf, hname, String.ofList_toList]

/-- The names of an import statement are read off its line. -/
theorem bracedNames_line {st : Statement} {names : List String}
    (h : List.Forall₂ Lists st.symbols names) : bracedNames st.line.toList = names := by
  have hline : st.line.toList = "import ".toList ++ '\x7b' :: (padded st.symbols ++
      '\x7d' :: (" from '" ++ st.specifier ++ "'").toList) := by
    simp [Statement.line, importLine, padded]
  rw [hline]
  exact bracedNames_eq h (by decide) _

/-! ## Names of services -/

/-- The name of a client is followed by what no service is called. -/
theorem append_client_ne {stem : String}
    (hlong : (clientName service.serviceName).toList.length ≤ stem.toList.length) :
    stem ++ "Client" ≠ service.serviceName := by
  intro heq
  have hlist := congrArg String.toList heq
  rcases Identifier.clientName_cases service.serviceName with ⟨hname, -⟩ | ⟨-, hname⟩
  · have hlength := congrArg List.length hlist
    rw [String.toList_append, List.length_append] at hlength
    rw [hname] at hlong
    have hclient : "Client".toList.length = 6 := by decide
    omega
  · have hlast := congrArg List.getLast? (hlist.trans (congrArg String.toList hname))
    rw [String.toList_append, String.toList_append, List.getLast?_append_of_ne_nil _ (by decide),
      List.getLast?_append_of_ne_nil _ (by decide)] at hlast
    exact absurd hlast (by decide)

/-- The names of services whose clients are called like what creates clients. -/
def creatorNames : List String := ["create", "Create", "createService", "CreateService"]

theorem mem_creatorNames_iff : service.serviceName ∈ creatorNames ↔
    clientName service.serviceName = "create" ∨ clientName service.serviceName = "Create" := by
  rw [Identifier.clientName_eq_iff (by decide) (by decide),
    Identifier.clientName_eq_iff (by decide) (by decide)]
  simp only [creatorNames, List.mem_cons, List.not_mem_nil, or_false]
  have hsmall : "create" ++ "Service" = "createService" := rfl
  have hcapital : "Create" ++ "Service" = "CreateService" := rfl
  rw [hsmall, hcapital]
  tauto

section words

variable (h : HasWords service)

include h

/-- The entries of the statements list the service and the message types. -/
theorem lists_of_mem_ownStatements {st : Statement} (hst : st ∈ ownStatements service)
    {symbol : String} (hsymbol : symbol ∈ st.symbols) : Lists symbol (nameOf symbol) := by
  have hall := (symbols_perm service).mem_iff.mp (List.mem_flatMap.mpr ⟨st, hst, hsymbol⟩)
  have hlists : ∃ name, Lists symbol name := by
    rcases List.mem_cons.mp hall with rfl | htype
    · exact ⟨_, h.isPlain_name, Or.inl rfl⟩
    · obtain ⟨t, ht, rfl⟩ := List.mem_map.mp htype
      exact ⟨t, h.isPlain_type ht, Or.inr rfl⟩
  obtain ⟨name, hname⟩ := hlists
  rwa [hname.nameOf_eq]

theorem ownNames_perm :
    ((ownStatements service).flatMap fun st => bracedNames st.line.toList).Perm
      (service.serviceName :: messageTypes service) := by
  have hread : ((ownStatements service).flatMap fun st => bracedNames st.line.toList) =
      ((ownStatements service).flatMap Statement.symbols).map nameOf := by
    rw [List.map_flatMap]
    refine List.flatMap_congr fun st hst => bracedNames_line ?_
    rw [List.forall₂_map_right_iff, List.forall₂_same]
    exact fun symbol hsymbol => lists_of_mem_ownStatements h hst hsymbol
  have hname : nameOf service.serviceName = service.serviceName :=
    Lists.nameOf_eq ⟨h.isPlain_name, Or.inl rfl⟩
  have htypes : ((messageTypes service).map ("type " ++ ·)).map nameOf = messageTypes service := by
    rw [List.map_map]
    refine (List.map_congr_left fun t ht => ?_).trans (List.map_id _)
    exact Lists.nameOf_eq ⟨h.isPlain_type ht, Or.inr rfl⟩
  rw [hread]
  refine ((symbols_perm service).map nameOf).trans ?_
  rw [List.map_cons, hname, htypes]

/-- What is imported are the names that every client module needs, the service and the message
types. -/
theorem imported_perm (moduleName : Option String) :
    (bindings service moduleName).imported.Perm
      (commonNames ++ service.serviceName :: messageTypes service) := by
  have hclient : bracedNames clientStatement.line.toList = ["createClient", "Client"] := by decide
  have htransport : bracedNames (transportStatement moduleName).line.toList = ["transport"] := by
    refine bracedNames_line (.cons ⟨isPlain_of_isWord (by decide) ?_, Or.inl rfl⟩ .nil)
    exact List.all_eq_true.mp (by decide)
  have hsplit : (bindings service moduleName).imported = ["createClient", "Client"] ++
      (((ownStatements service).flatMap fun st => bracedNames st.line.toList) ++
        ["transport"]) := by
    rw [bindings, statements, List.cons_append, List.flatMap_cons, List.flatMap_append,
      List.flatMap_singleton, hclient, htransport]
  rw [hsplit]
  have hlast := List.perm_append_singleton "transport"
    ((ownStatements service).flatMap fun st => bracedNames st.line.toList)
  exact (hlast.trans ((ownNames_perm h).cons _)).append_left _

/-- The imported names are different unless the service or a message type is called like what every
client module imports. -/
theorem imported_nodup_iff : (bindings service moduleName).imported.Nodup ↔
    service.serviceName ∉ commonNames ∧ ∀ t ∈ messageTypes service, t ∉ commonNames := by
  have hcommon : commonNames.Nodup := by decide
  have hown : (service.serviceName :: messageTypes service).Nodup :=
    List.nodup_cons.mpr ⟨fun hmem => (mem_messageTypes.mp hmem).2.2 rfl, nodup_messageTypes service⟩
  rw [(imported_perm h moduleName).nodup_iff, List.nodup_append', and_iff_right hcommon,
    and_iff_right hown, List.disjoint_comm, List.disjoint_cons_left]
  rfl

/-! ## What is declared -/

/-- A declared name is imported if it is called `createClient`, or like a message type. -/
theorem append_client_mem_imported_iff {stem : String} (hne : stem ≠ "")
    (hlong : (clientName service.serviceName).toList.length ≤ stem.toList.length) :
    stem ++ "Client" ∈ (bindings service moduleName).imported ↔
      stem = "create" ∨ stem ++ "Client" ∈ messageTypes service := by
  have hstem : ∀ other : String, stem ++ "Client" = other ++ "Client" ↔ stem = other :=
    fun other => String.append_left_inj "Client"
  have hcreate : stem ++ "Client" = "createClient" ↔ stem = "create" := hstem "create"
  have hclient : stem ++ "Client" ≠ "Client" := fun heq => hne ((hstem "").mp heq)
  have htransport : stem ++ "Client" ≠ "transport" := Identifier.append_ne (by decide)
  rw [(imported_perm h moduleName).mem_iff, commonNames]
  simp [hcreate, hclient, htransport, append_client_ne hlong]

theorem typeName_mem_imported_iff : typeName service ∈ (bindings service moduleName).imported ↔
    clientName service.serviceName = "create" ∨ typeName service ∈ messageTypes service :=
  append_client_mem_imported_iff h (Identifier.clientName_ne_empty h.name_ne_empty) (Nat.le_refl _)

theorem constantName_mem_imported_iff :
    constantName service ∈ (bindings service moduleName).imported ↔
      (clientName service.serviceName = "create" ∨ clientName service.serviceName = "Create") ∨
        constantName service ∈ messageTypes service := by
  have hlong := Identifier.length_le_lowerFirst (clientName service.serviceName)
  have hne : lowerFirst (clientName service.serviceName) ≠ "" :=
    Identifier.lowerFirst_ne_empty (Identifier.clientName_ne_empty h.name_ne_empty)
  rw [← Identifier.lowerFirst_eq_create_iff]
  exact append_client_mem_imported_iff h hne hlong

/-- Nothing is bound twice if no name that others have chosen is in use. -/
theorem once_iff : (bindings service moduleName).Once ↔
    service.serviceName ∉ commonNames ++ creatorNames ∧
      ∀ t ∈ messageTypes service, t ∉ commonNames ++ [typeName service, constantName service] := by
  have htype : (bindings service moduleName).types.Disjoint
      (bindings service moduleName).imported ↔
        ¬ (clientName service.serviceName = "create" ∨ typeName service ∈ messageTypes service) :=
    List.singleton_disjoint.trans (not_congr (typeName_mem_imported_iff h))
  have hconstant : (bindings service moduleName).constants.Disjoint
      (bindings service moduleName).imported ↔
        ¬ ((clientName service.serviceName = "create" ∨ clientName service.serviceName = "Create") ∨
          constantName service ∈ messageTypes service) :=
    List.singleton_disjoint.trans (not_congr (constantName_mem_imported_iff h))
  have htypes : (∀ t ∈ messageTypes service,
      t ∉ commonNames ++ [typeName service, constantName service]) ↔
        (∀ t ∈ messageTypes service, t ∉ commonNames) ∧
          typeName service ∉ messageTypes service ∧ constantName service ∉ messageTypes service := by
    constructor
    · intro hall
      refine ⟨fun t ht hin => hall t ht (List.mem_append_left _ hin), fun hin => ?_, fun hin => ?_⟩
      · exact hall _ hin (List.mem_append_right _ (by simp))
      · exact hall _ hin (List.mem_append_right _ (by simp))
    · rintro ⟨hcommon, hno, hno'⟩ t ht hin
      rcases List.mem_append.mp hin with hin | hin
      · exact hcommon t ht hin
      · rcases List.mem_cons.mp hin with rfl | hin
        · exact hno ht
        · exact hno' (List.mem_singleton.mp hin ▸ ht)
  rw [htypes, List.mem_append, mem_creatorNames_iff]
  constructor
  · rintro ⟨himported, -, -, hfirst, hsecond⟩
    obtain ⟨hname, hcommon⟩ := (imported_nodup_iff h).mp himported
    obtain ⟨-, hno⟩ := not_or.mp (htype.mp hfirst)
    obtain ⟨hcreator, hno'⟩ := not_or.mp (hconstant.mp hsecond)
    exact ⟨not_or.mpr ⟨hname, hcreator⟩, hcommon, hno, hno'⟩
  · rintro ⟨hnames, hcommon, hno, hno'⟩
    obtain ⟨hname, hcreator⟩ := not_or.mp hnames
    have hfirst := htype.mpr (not_or.mpr ⟨fun hcreate => hcreator (Or.inl hcreate), hno⟩)
    have hsecond := hconstant.mpr (not_or.mpr ⟨hcreator, hno'⟩)
    exact ⟨(imported_nodup_iff h).mpr ⟨hname, hcommon⟩, List.nodup_singleton _,
      List.nodup_singleton _, hfirst, hsecond⟩

end words

end ClientModule

end ConnectClients
