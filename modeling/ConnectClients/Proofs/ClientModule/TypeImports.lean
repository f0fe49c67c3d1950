import ConnectClients.ClientModule
import ConnectClients.Proofs.Service.Imports
import ConnectClients.Proofs.Text.Lines

/-!
# Where a client module has its types from

Every message type that the methods of a service name is imported from exactly
one path, its origin. The origin is looked up under the name of the type alone:
a module that imports only the schema of a type leaves the type to be imported
from the module of the service itself.
-/

namespace ConnectClients.ClientModule

open Text

/-- One import statement of the client module is for a path and lists a type. -/
def ImportsType (service : Service) (type path : String) : Prop :=
  ∃ symbols, (path, symbols) ∈ importedSymbols service ∧ "type " ++ type ∈ symbols

/-! ## Types and their origins -/

theorem mem_namedTypes {service : Service} {type : String} :
    type ∈ namedTypes service ↔ ∃ m ∈ service.methods, type = m.inputType ∨ type = m.outputType := by
  simp [namedTypes]

theorem mem_messageTypes {service : Service} {type : String} :
    type ∈ messageTypes service ↔
      type ∈ namedTypes service ∧ type ≠ "" ∧ type ≠ service.serviceName := by
  simp [messageTypes, Assoc.mem_distinct]

/-- A symbol is imported from a path if it was put there, or stood there before. -/
theorem exists_mem_foldl_append {service : Service} {path symbol : String} (types : List String) :
    ∀ d : List (String × List String),
      (∃ symbols, (path, symbols) ∈ types.foldl
          (fun d t => Assoc.append (origin service t) ("type " ++ t) d) d ∧ symbol ∈ symbols) ↔
        (∃ t ∈ types, path = origin service t ∧ symbol = "type " ++ t) ∨
          ∃ symbols, (path, symbols) ∈ d ∧ symbol ∈ symbols := by
  induction types with
  | nil => simp
  | cons t rest ih =>
      intro d
      rw [List.foldl_cons, ih, Assoc.exists_mem_append, List.exists_mem_cons_iff, or_assoc]
      exact or_left_comm

/-- **A type is imported from its origin and from nowhere else.** The name of
the service has no blank, so that it is not taken for a type. -/
theorem importsType_iff {service : Service} {type path : String}
    (hname : ∀ c ∈ service.serviceName.toList, isWord c = true) :
    ImportsType service type path ↔ type ∈ messageTypes service ∧ path = origin service type := by
  rw [ImportsType, importedSymbols, exists_mem_foldl_append]
  constructor
  · rintro (⟨t, ht, hpath, hsymbol⟩ | ⟨symbols, hmem, hsymbol⟩)
    · have htype : type = t := (String.append_right_inj "type ").mp hsymbol
      subst htype
      exact ⟨ht, hpath⟩
    · simp only [List.mem_singleton, Prod.mk.injEq] at hmem
      obtain ⟨-, rfl⟩ := hmem
      rw [List.mem_singleton] at hsymbol
      have hblank := hname ' ' (by rw [← hsymbol, String.toList_append]; simp)
      exact absurd hblank (by decide)
  · rintro ⟨htype, hpath⟩
    exact Or.inl ⟨type, htype, hpath, rfl⟩

/-- The origin of a type in a service that was read: where the module imports
the type itself from, or else the module of the service. -/
theorem origin_of_readFrom {content importPath : String} {service : Service}
    (h : Service.ReadFrom content importPath service) (type : String) :
    origin service type =
      match Service.specifierOf? content type with
      | some own => ModulePath.resolve own importPath
      | none => importPath := by
  rw [origin, h.imports_eq, h.importPath_eq, Service.lookup_namedImports]
  cases hown : Service.specifierOf? content type with
  | none => rfl
  | some own =>
      have hne := ModulePath.resolve_ne_empty importPath (Service.specifierOf?_ne_empty hown)
      have hempty : (ModulePath.resolve own importPath).isEmpty = false := by
        rw [Bool.eq_false_iff, Ne, String.isEmpty_iff]
        exact hne
      simp [hempty]

/-- The types of a method are message types. -/
theorem mem_messageTypes_of_readFrom {content importPath : String} {s : Service}
    (h : Service.ReadFrom content importPath s) {m : Method} (hm : m ∈ s.methods) {type : String}
    (htype : type = m.inputType ∨ type = m.outputType) (hname : type ≠ s.serviceName) :
    type ∈ messageTypes s := by
  refine mem_messageTypes.mpr ⟨mem_namedTypes.mpr ⟨m, hm, htype⟩, ?_, hname⟩
  rcases htype with rfl | rfl
  · exact (h.types_ne_empty m hm).1
  · exact (h.types_ne_empty m hm).2

/-- A type has its origin in a module other than the own one exactly if it is imported
from there. -/
theorem origin_eq_iff {content importPath : String} {s : Service}
    (h : Service.ReadFrom content importPath s) (type source : String) :
    (source = origin s type ∧ ¬ importPath = origin s type) ↔
      (∃ own, Service.specifierOf? content type = some own ∧
        ModulePath.resolve own importPath = source) ∧ source ≠ importPath := by
  rw [origin_of_readFrom h type]
  cases Service.specifierOf? content type with
  | none =>
      constructor
      · rintro ⟨-, hown⟩
        exact absurd rfl hown
      · rintro ⟨⟨own, hown, -⟩, -⟩
        exact absurd hown (by simp)
  | some own =>
      constructor
      · rintro ⟨rfl, hown⟩
        exact ⟨⟨own, rfl, rfl⟩, Ne.symm hown⟩
      · rintro ⟨⟨own', hown', rfl⟩, hne⟩
        obtain rfl := Option.some.inj hown'
        exact ⟨rfl, Ne.symm hne⟩

/-! ## The text -/

/-- The statement of every path stands in the text of the client module. -/
theorem exists_render_of_mem {service : Service} {path : String} {symbols : List String}
    (h : (path, symbols) ∈ importedSymbols service) (name : String) (moduleName : Option String) :
    ∃ before after, render name service moduleName =
      before ++ importLine symbols (specifierOf path) ++ "\n" ++ after := by
  apply exists_unlines_of_mem
  have hline : importLine symbols (specifierOf path) ∈ importLines service :=
    List.mem_map.mpr ⟨(path, symbols), h, rfl⟩
  simp [hline]

/-! ## Types and their schemas -/

/-- **A type follows its schema only if it is imported like it.** Let the schema of
a message type be imported by a module. The client module imports the type from
where the schema comes from, and not from the module of the service, exactly if
the module imports the type itself from there, too, and not from itself. If the
module does not import the type, the client module takes it from the module of
the service, wherever the schema comes from. All these imports stand in the
text of the client module. -/
theorem imports_type_like_schema_iff {content importPath : String} {s : Service}
    (hs : s ∈ Service.ofModule content importPath) {m : Method} (hm : m ∈ s.methods)
    {type : String} (htype : type = m.inputType ∨ type = m.outputType)
    (hname : type ≠ s.serviceName) {specifier : String}
    (_hschema : Service.specifierOf? content (type ++ Service.schemaSuffix) = some specifier) :
    ((ImportsType s type (ModulePath.resolve specifier importPath) ∧
        ¬ ImportsType s type importPath) ↔
      (∃ own, Service.specifierOf? content type = some own ∧
        ModulePath.resolve own importPath = ModulePath.resolve specifier importPath) ∧
      ModulePath.resolve specifier importPath ≠ importPath) ∧
    (Service.specifierOf? content type = none → ImportsType s type importPath) ∧
    (∀ path, ImportsType s type path → ∀ name moduleName, ∃ symbols before after,
      "type " ++ type ∈ symbols ∧
      render name s moduleName =
        before ++ importLine symbols (specifierOf path) ++ "\n" ++ after) := by
  have hread := Service.readFrom_of_mem_ofModule hs
  have himports : ∀ path, ImportsType s type path ↔ path = origin s type := by
    intro path
    rw [importsType_iff hread.name_word]
    exact and_iff_right (mem_messageTypes_of_readFrom hread hm htype hname)
  refine ⟨?_, ?_, ?_⟩
  · rw [himports, himports]
    exact origin_eq_iff hread type _
  · intro hnone
    rw [himports, origin_of_readFrom hread type, hnone]
  · rintro path ⟨symbols, hsymbols, hlisted⟩ name moduleName
    obtain ⟨before, after, htext⟩ := exists_render_of_mem hsymbols name moduleName
    exact ⟨symbols, before, after, hlisted, htext⟩

/-- A module that imports the schema of a request and not the request. -/
def schemaOnlyModule : String :=
  "import type \x7b ASchema \x7d from \"./b\";" ++
    "export const S: GenService<\x7bm: \x7bmethodKind: \"unary\";" ++
    "input: typeof ASchema;output: typeof OSchema;\x7d,\x7d> ="

/-- The service that the module declares. -/
def schemaOnlyService : Service :=
  ⟨"S", "v/s", [⟨"m", "A", "ASchema", "O", "OSchema"⟩], [("ASchema", "v/b")]⟩

theorem schemaOnlyService_mem :
    schemaOnlyService ∈ Service.ofModule schemaOnlyModule "v/s" := by
  have h : Service.ofModule schemaOnlyModule "v/s" = [schemaOnlyService] := by decide +kernel
  rw [h]
  exact List.mem_singleton_self _

/-- The request is imported from the module of the service and not from where its
schema comes from. -/
theorem schemaOnly_imports_request :
    Service.specifierOf? schemaOnlyModule "ASchema" = some "./b" ∧
      ModulePath.resolve "./b" "v/s" = "v/b" ∧
      ImportsType schemaOnlyService "A" "v/s" ∧ ¬ ImportsType schemaOnlyService "A" "v/b" := by
  have hschema : Service.specifierOf? schemaOnlyModule "ASchema" = some "./b" := by decide +kernel
  have hnone : Service.specifierOf? schemaOnlyModule "A" = none := by decide +kernel
  have hsource : ModulePath.resolve "./b" "v/s" = "v/b" := by decide +kernel
  have hmethod : (⟨"m", "A", "ASchema", "O", "OSchema"⟩ : Method) ∈ schemaOnlyService.methods :=
    List.mem_singleton_self _
  obtain ⟨hiff, hown, -⟩ := imports_type_like_schema_iff schemaOnlyService_mem hmethod
    (Or.inl (Eq.refl "A")) (by decide) hschema
  refine ⟨hschema, hsource, hown hnone, fun hother => ?_⟩
  rw [importsType_iff (Service.readFrom_of_mem_ofModule schemaOnlyService_mem).name_word] at hother
  exact absurd hother.2 (by decide)

end ConnectClients.ClientModule
