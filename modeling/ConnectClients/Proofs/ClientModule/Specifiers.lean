import ConnectClients.Proofs.ClientModule.Statements
import ConnectClients.Proofs.ModulePath

/-!
# Packages and modules in client modules

A module of the generated tree names another module of the tree by a specifier that starts with a
dot, and a package by any other one. The client module tells them apart once more, by how the path
starts that the specifier was resolved to. The two tests agree on specifiers that start with the
mark of packages, and on those with a dot that lead to paths without this mark.
-/

namespace ConnectClients.ClientModule

open Service (specifierOf? ReadFrom)

/-- One import statement of the client module lists a type and has a specifier. -/
def ImportsFrom (service : Service) (moduleName : Option String) (type specifier : String) : Prop :=
  ∃ st ∈ statements service moduleName, "type " ++ type ∈ st.symbols ∧ st.specifier = specifier

/-- How the client module has to name what the module at `importPath` names by a specifier: a module
of the generated tree by its path there, and a package as it stands. -/
def clientSpecifier (specifier importPath : String) : String :=
  if specifier.toList.head? = some '.' then
    "../generated/" ++ ModulePath.resolve specifier importPath
  else specifier

/-! ## Which statements list a type -/

theorem type_mem_client_iff {type : String} :
    "type " ++ type ∈ clientStatement.symbols ↔ type = "Client" := by
  have hcreate := ne_type "createClient" (by decide) type
  simp only [clientStatement, List.mem_cons, List.not_mem_nil, or_false, type_eq_client_iff,
    hcreate.symm, false_or]

theorem importsFrom_iff {service : Service} {moduleName : Option String} {type specifier : String}
    (hname : ∀ c ∈ service.serviceName.toList, Text.isWord c = true) :
    ImportsFrom service moduleName type specifier ↔
      type ∈ messageTypes service ∧ specifier = specifierOf (origin service type) ∨
        type = "Client" ∧ specifier = "@connectrpc/connect" := by
  have htransport := ne_type "transport" (by decide) type
  constructor
  · rintro ⟨st, hst, htype, rfl⟩
    rw [statements, List.cons_append, List.mem_cons, List.mem_append, List.mem_singleton] at hst
    rcases hst with rfl | hst | rfl
    · exact Or.inr ⟨type_mem_client_iff.mp htype, rfl⟩
    · obtain ⟨path, hmem, hspecifier⟩ := mem_ownStatements_iff.mp hst
      obtain ⟨hmessage, rfl⟩ := (importsType_iff hname).mp ⟨st.symbols, hmem, htype⟩
      exact Or.inl ⟨hmessage, hspecifier.symm⟩
    · exact absurd (List.mem_singleton.mp htype).symm htransport
  · rintro (⟨htype, rfl⟩ | ⟨rfl, rfl⟩)
    · obtain ⟨symbols, hmem, hlisted⟩ := (importsType_iff hname).mpr ⟨htype, rfl⟩
      have hst : (⟨symbols, specifierOf (origin service type)⟩ : Statement) ∈ ownStatements service :=
        mem_ownStatements_iff.mpr ⟨_, hmem, rfl⟩
      refine ⟨⟨symbols, specifierOf (origin service type)⟩, ?_, hlisted, rfl⟩
      rw [statements, List.cons_append]
      exact List.mem_cons_of_mem _ (List.mem_append_left _ hst)
    · exact ⟨clientStatement, List.mem_cons_self, type_mem_client_iff.mpr rfl, rfl⟩

/-! ## Two tests for packages -/

/-- Both tests take the specifier for one of a package, or both for one of a module. -/
def TestsAgree (specifier importPath : String) : Prop :=
  specifier.toList.head? = some packageMark ∨
    specifier.toList.head? = some '.' ∧
      (ModulePath.resolve specifier importPath).toList.head? ≠ some packageMark

theorem specifierOf_of_mark {path : String} (h : path.toList.head? = some packageMark) :
    specifierOf path = path := by
  rw [specifierOf, if_pos (by simpa using h)]

theorem specifierOf_of_not_mark {path : String} (h : path.toList.head? ≠ some packageMark) :
    specifierOf path = "../generated/" ++ path := by
  rw [specifierOf, if_neg (by simpa using h)]

theorem ne_generated_append (path : String) : path ≠ "../generated/" ++ path := by
  intro h
  have hlength := congrArg (fun s : String => s.toList.length) h
  simp only [String.toList_append, List.length_append] at hlength
  have hlead : "../generated/".toList.length = 13 := by decide
  omega

theorem specifierOf_resolve_eq_iff (specifier importPath : String) :
    specifierOf (ModulePath.resolve specifier importPath) = clientSpecifier specifier importPath ↔
      TestsAgree specifier importPath := by
  have hdistinct : packageMark ≠ '.' := by decide
  rw [clientSpecifier, TestsAgree]
  by_cases hdot : specifier.toList.head? = some '.'
  · rw [if_pos hdot, hdot]
    by_cases hmark : (ModulePath.resolve specifier importPath).toList.head? = some packageMark
    · rw [specifierOf_of_mark hmark]
      simp [hmark, ne_generated_append, Ne.symm hdistinct]
    · simp [specifierOf_of_not_mark hmark, hmark]
  · rw [if_neg hdot, ModulePath.resolve_of_not_dot hdot]
    by_cases hmark : specifier.toList.head? = some packageMark
    · simp [specifierOf_of_mark hmark, hmark]
    · rw [specifierOf_of_not_mark hmark]
      simp [hmark, hdot, (ne_generated_append specifier).symm]

theorem clientSpecifier_eq_client_iff {specifier importPath : String} :
    clientSpecifier specifier importPath = "@connectrpc/connect" ↔
      specifier = "@connectrpc/connect" := by
  rw [clientSpecifier]
  split
  · rename_i hdot
    have hne : "../generated/" ++ ModulePath.resolve specifier importPath ≠ "@connectrpc/connect" := by
      intro h
      have hhead := congrArg (fun s : String => s.toList.head?) h
      have hlead : ("../generated/" ++ ModulePath.resolve specifier importPath).toList.head? =
          some '.' := by
        rw [String.toList_append]
        rfl
      rw [hlead] at hhead
      exact absurd hhead (by decide)
    have hspecifier : specifier ≠ "@connectrpc/connect" := by
      rintro rfl
      exact absurd hdot (by decide)
    exact iff_of_false hne hspecifier
  · rfl

/-! ## Where types are imported from -/

/-- **A type keeps its source if the two tests for packages agree.** Let a module import a message
type of one of its services by a specifier. The client module imports the type from the same package
or module exactly if the specifier has the mark of packages, or starts with a dot and leads to a path
without the mark; the type must not be called like the service itself. A package without the mark is
taken for a module of the generated tree, and a module whose path has the mark for a package. The
type of the client is imported from its own package in any case. All this stands in the text. -/
theorem imports_source_iff {content importPath : String} {s : Service}
    (hs : s ∈ Service.ofModule content importPath) {m : Method} (hm : m ∈ s.methods)
    {type : String} (htype : type = m.inputType ∨ type = m.outputType) {specifier : String}
    (himport : specifierOf? content type = some specifier) (moduleName : Option String) :
    (ImportsFrom s moduleName type (clientSpecifier specifier importPath) ↔
      type ≠ s.serviceName ∧ TestsAgree specifier importPath ∨
        type = "Client" ∧ specifier = "@connectrpc/connect") ∧
    (type ≠ s.serviceName → specifier.toList.head? ≠ some '.' →
      specifier.toList.head? ≠ some packageMark →
      ImportsFrom s moduleName type ("../generated/" ++ specifier)) ∧
    (type ≠ s.serviceName → specifier.toList.head? = some '.' →
      (ModulePath.resolve specifier importPath).toList.head? = some packageMark →
      ImportsFrom s moduleName type (ModulePath.resolve specifier importPath)) ∧
    ∀ x, ImportsFrom s moduleName type x → ∀ name, ∃ symbols before after,
      "type " ++ type ∈ symbols ∧
        render name s moduleName = before ++ importLine symbols x ++ "\n" ++ after := by
  have hread := Service.readFrom_of_mem_ofModule hs
  have horigin : origin s type = ModulePath.resolve specifier importPath := by
    rw [origin_of_readFrom hread, himport]
  have hmessage : type ∈ messageTypes s ↔ type ≠ s.serviceName :=
    ⟨fun h => (mem_messageTypes.mp h).2.2, mem_messageTypes_of_readFrom hread hm htype⟩
  have hfrom : ∀ x, ImportsFrom s moduleName type x ↔
      type ≠ s.serviceName ∧ x = specifierOf (ModulePath.resolve specifier importPath) ∨
        type = "Client" ∧ x = "@connectrpc/connect" := by
    intro x
    rw [importsFrom_iff hread.name_word, hmessage, horigin]
  refine ⟨?_, ?_, ?_, ?_⟩
  · rw [hfrom, eq_comm, specifierOf_resolve_eq_iff, clientSpecifier_eq_client_iff]
  · intro hname hdot hmark
    rw [hfrom, ModulePath.resolve_of_not_dot hdot, specifierOf_of_not_mark hmark]
    exact Or.inl ⟨hname, rfl⟩
  · intro hname _ hmark
    rw [hfrom, specifierOf_of_mark hmark]
    exact Or.inl ⟨hname, rfl⟩
  · rintro x ⟨st, hst, hlisted, rfl⟩ name
    have hline : st.line ∈ body name s moduleName ++ typeExports (messageTypes s) := by
      simp only [body, List.mem_append, List.mem_map]
      exact Or.inl (Or.inl (Or.inr ⟨st, hst, rfl⟩))
    obtain ⟨before, after, htext⟩ := Text.exists_unlines_of_mem hline
    exact ⟨st.symbols, before, after, hlisted, by rw [render_eq]; exact htext⟩

/-- A module that takes a message from a package without the mark. -/
def unmarkedPackage : String :=
  "import type \x7b A \x7d from \"lib/a_pb\";" ++
    "export const S: GenService<\x7bm: \x7bmethodKind: \"unary\";" ++
    "input: typeof ASchema;output: typeof OSchema;\x7d,\x7d> ="

def unmarkedService : Service :=
  ⟨"S", "v/s_pb", [⟨"m", "A", "ASchema", "O", "OSchema"⟩], [("A", "lib/a_pb")]⟩

/-- The client module takes the package for a module of the generated tree. -/
theorem unmarkedPackage_astray :
    unmarkedService ∈ Service.ofModule unmarkedPackage "v/s_pb" ∧
    specifierOf? unmarkedPackage "A" = some "lib/a_pb" ∧
    ¬ ImportsFrom unmarkedService none "A" "lib/a_pb" ∧
    ImportsFrom unmarkedService none "A" "../generated/lib/a_pb" := by
  have hs : unmarkedService ∈ Service.ofModule unmarkedPackage "v/s_pb" := by
    have h : Service.ofModule unmarkedPackage "v/s_pb" = [unmarkedService] := by decide +kernel
    rw [h]
    exact List.mem_singleton_self _
  have himport : specifierOf? unmarkedPackage "A" = some "lib/a_pb" := by decide +kernel
  obtain ⟨hiff, hpackage, -, -⟩ := imports_source_iff hs (List.mem_singleton_self _)
    (Or.inl (Eq.refl "A")) himport none
  refine ⟨hs, himport, ?_, hpackage (by decide) (by decide) (by decide)⟩
  have hsource : clientSpecifier "lib/a_pb" "v/s_pb" = "lib/a_pb" := by decide +kernel
  rw [hsource] at hiff
  rw [hiff, TestsAgree]
  decide +kernel

end ConnectClients.ClientModule
