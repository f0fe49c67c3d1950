import ConnectClients.Proofs.Generation.Clients
import ConnectClients.Proofs.Generation.Renames
import ConnectClients.Proofs.Generation.Services

/-!
# The steps of a run

A run that succeeds takes over JSON names, collects the declared services, resets the two
directories, and then writes the clients of the services it keeps, the two indexes and
the shared module.
-/

namespace ConnectClients.Generation

open Runs
open Location (resolve)

theorem isName_of_mem_declaredServices {t : FileTree} {here : Location} {dir : Path} {s : Service}
    (h : s ∈ declaredServices t here dir) : Path.IsName s.client.fileName := by
  obtain ⟨content, importPath, hread⟩ := readFrom_of_mem_declaredServices h
  exact ClientEntry.isName_fileName hread.name_word

/-- The warning of a run over modules without services. -/
def emptyWarnings (r : Request) (services : List Service) : List String :=
  if services.isEmpty then
    ["No service files found in generated directory " ++ r.generatedDir.toString] else []

/-- The warning of a run that keeps none of the services. -/
def filterWarnings (services : List Service) (entries : List ClientEntry) : List String :=
  if !services.isEmpty && entries.isEmpty then
    ["No services generated (no service matched the include/exclude patterns)"] else []

theorem no_prefix_of_mem_emptyWarnings {r : Request} {services : List Service} {text : String}
    (h : text ∈ emptyWarnings r services) : "No ".toList <+: text.toList := by
  rw [emptyWarnings] at h
  split at h
  · rw [List.mem_singleton.mp h, String.toList_append]
    exact List.IsPrefix.trans (by decide) (List.prefix_append _ _)
  · exact absurd h List.not_mem_nil

theorem no_prefix_of_mem_filterWarnings {services : List Service} {entries : List ClientEntry}
    {text : String} (h : text ∈ filterWarnings services entries) :
    "No ".toList <+: text.toList := by
  rw [filterWarnings] at h
  split at h
  · rw [List.mem_singleton.mp h]
    decide
  · exact absurd h List.not_mem_nil

/-- The steps of a run from one workspace to another, with what each of them found or left. -/
structure Steps (here : Location) (r : Request) (schemaDir : Option Path) (w : Workspace)
    (res : GenerationResult) (w' : Workspace) where
  renameWarnings : List String
  renamed : Workspace
  collected : Workspace
  servicesReset : FileTree
  typesReset : FileTree
  kept : List Service
  repeated : List Service
  rejected : List Service
  clientsWritten : Workspace
  servicesIndexed : Workspace
  typesIndexed : Workspace
  shared : Workspace
  rename : renames here r schemaDir w = .ok (res.renamedFiles, renameWarnings) renamed
  collect : collectServices here r.generatedDir renamed =
    .ok (declaredServices renamed.tree here r.generatedDir, []) collected
  resetServices : FileTree.Operation.resetDirectory here r.servicesDir renamed.tree =
    .ok () servicesReset
  resetTypes : FileTree.Operation.resetDirectory here (typesDir r.servicesDir) servicesReset =
    .ok () typesReset
  accounts : Accounts r [] (declaredServices renamed.tree here r.generatedDir) kept repeated rejected
  write : writeClients here r (declaredServices renamed.tree here r.generatedDir) [] []
    { collected with tree := typesReset } =
      .ok (res.services, repeated.map repeatWarning) clientsWritten
  clients : clientsWritten.tree =
    typesReset.putFiles (resolve here r.servicesDir) (kept.map r.clientFile)
  clientsDirectory_iff : ∀ l,
    clientsWritten.tree.get? l = some .directory ↔ typesReset.get? l = some .directory
  servicesIndex : ∃ path, Output.writeServicesIndex here r.servicesDir
    (ClientModule.renderIndex (kept.map Service.client) r.moduleName) clientsWritten =
      .ok path servicesIndexed
  typesIndex : ∃ path, Output.writeTypesIndex here (typesDir r.servicesDir)
    (TypesIndex.render res.typeFiles) servicesIndexed = .ok path typesIndexed
  transport : ∃ path, Output.writeTransport here (apiDir r.servicesDir r.moduleName)
    ClientModule.transport typesIndexed = .ok path shared
  final : w'.tree = shared.tree
  services : res.services = kept.map Service.client
  typeFiles : res.typeFiles = Discovery.typeFiles servicesIndexed.tree here r.generatedDir
  directories : res.servicesDir = r.servicesDir ∧ res.typesDir = typesDir r.servicesDir
  warnings : res.warnings = renameWarnings ++
    emptyWarnings r (declaredServices renamed.tree here r.generatedDir) ++
      repeated.map repeatWarning ++
        filterWarnings (declaredServices renamed.tree here r.generatedDir) res.services

theorem exists_steps {here : Location} {r : Request} {schemaDir : Option Path}
    {res : GenerationResult} {w w' : Workspace} (h : fromModules here r schemaDir w = .ok res w') :
    Nonempty (Steps here r schemaDir w res w') := by
  unfold fromModules at h
  obtain ⟨⟨renamed, renameWarnings⟩, w₁, hrename, h⟩ := bind_eq_ok_iff.mp h
  obtain ⟨⟨services, readWarnings⟩, w₂, hcollect, h⟩ := bind_eq_ok_iff.mp h
  obtain ⟨_, w₃, hresetServices, h⟩ := bind_eq_ok_iff.mp h
  obtain ⟨_, w₄, hresetTypes, h⟩ := bind_eq_ok_iff.mp h
  obtain ⟨⟨entries, skipWarnings⟩, w₅, hclients, h⟩ := bind_eq_ok_iff.mp h
  obtain ⟨first, w₆, hindex, h⟩ := bind_eq_ok_iff.mp h
  obtain ⟨t, w₇, htree, h⟩ := bind_eq_ok_iff.mp h
  obtain ⟨rfl, rfl⟩ := Action.tree_eq_ok_iff.mp htree
  obtain ⟨second, w₈, htypes, h⟩ := bind_eq_ok_iff.mp h
  obtain ⟨third, w₉, htransport, h⟩ := bind_eq_ok_iff.mp h
  obtain ⟨_, w₁₀, hrecord, h⟩ := bind_eq_ok_iff.mp h
  obtain rfl := Action.record_eq_ok_iff.mp hrecord
  obtain ⟨rfl, rfl⟩ := pure_eq_ok_iff.mp h
  -- collecting leaves the tree alone, so both directories are reset as renaming left them
  obtain ⟨rfl, rfl, hcollected⟩ := collectServices_of_ok hcollect
  obtain ⟨t₃, hreset, rfl⟩ := Action.operate_eq_ok_iff.mp hresetServices
  obtain ⟨t₄, hreset', rfl⟩ := Action.operate_eq_ok_iff.mp hresetTypes
  rw [hcollected] at hreset
  have hlasting := writeClients_directory_iff (fun s hs => isName_of_mem_declaredServices hs) hclients
  obtain ⟨kept, repeated, rejected, haccounts, hentries, rfl, hwritten⟩ :=
    writeClients_of_ok (fun s hs => isName_of_mem_declaredServices hs) hclients
  rw [List.nil_append] at hentries hclients
  subst hentries
  refine ⟨⟨renameWarnings, w₁, w₂, t₃, t₄, kept, repeated, rejected, w₅, w₇, w₈, w₉, hrename,
    hcollect, hreset, hreset', haccounts, hclients, hwritten, hlasting, ⟨first, hindex⟩,
    ⟨second, htypes⟩, ⟨third, htransport⟩, rfl, rfl, rfl, ⟨rfl, rfl⟩, ?_⟩⟩
  simp only [List.append_nil, List.nil_append]
  rfl

end ConnectClients.Generation
