import ConnectClients.Proofs.Files.Leftovers
import ConnectClients.Proofs.Generation.Contents
import ConnectClients.Proofs.Generation.Scope
import ConnectClients.Proofs.Generation.TypeFiles
import ConnectClients.Proofs.RelativePaths

/-!
# Where clients find the transport

A client imports the transport from one directory further up, or from two if the clients belong to
a module. The shared module is put where the path of the services directory leads without as many
of its last names. That is the same place, unless the path has fewer names than that: then a
client climbs further than the path does.
-/

namespace ConnectClients

open Runs
open Location (resolve start)

namespace ClientModule

/-- How many directories a client climbs to the transport. -/
def transportLevels (moduleName : Option String) : Nat := if isNested moduleName then 2 else 1

/-- The line of a client module that imports the transport. -/
def transportLine (moduleName : Option String) : String :=
  importLine ["transport"] (transportSpecifier moduleName)

/-- The module that the import names, seen from a directory with clients. -/
def importedTransport (dir : Location) (moduleName : Option String) : Location :=
  resolve dir (Path.ofString (transportSpecifier moduleName ++ ".ts"))

theorem importedTransport_eq (dir : Location) (moduleName : Option String) :
    importedTransport dir moduleName =
      dir.rdrop (transportLevels moduleName) ++ [Output.transportName] := by
  unfold importedTransport transportSpecifier transportLevels
  split
  · have hbearing : (Path.ofString ("../../connect-client" ++ ".ts")).bearing =
        ⟨2, [Output.transportName]⟩ := by decide
    rw [Location.resolve_eq_leads (by decide), hbearing, Bearing.leads]
  · have hbearing : (Path.ofString ("../connect-client" ++ ".ts")).bearing =
        ⟨1, [Output.transportName]⟩ := by decide
    rw [Location.resolve_eq_leads (by decide), hbearing, Bearing.leads]

theorem transportLine_mem (name : String) (service : Service) (moduleName : Option String) :
    transportLine moduleName ∈ Text.textLines (render name service moduleName) := by
  apply Text.mem_textLines_unlines
  · rw [transportLine]
    simp
  · unfold transportLine transportSpecifier
    split
    · decide
    · decide

end ClientModule

open ClientModule (importedTransport transportLevels transportLine)

namespace Generation

theorem apiDir_eq (p : Path) (moduleName : Option String) :
    apiDir p moduleName = ⟨p.root, p.segments.rdrop (transportLevels moduleName)⟩ := by
  unfold apiDir transportLevels
  split
  · rw [Path.parent, Path.parent, List.dropLast_eq_take, ← List.rdrop, Bearing.dropLast_rdrop]
  · rw [Path.parent, List.dropLast_eq_take, ← List.rdrop]

/-- Climbing from where a path leads is the same as cutting the path off, as long as there is
something to cut off, or nothing to climb. -/
theorem rdrop_append_eq_iff (l : Location) (segments : List String) (levels : Nat) :
    (l ++ segments).rdrop levels = l ++ segments.rdrop levels ↔
      l = [] ∨ levels ≤ segments.length := by
  rw [List.rdrop, List.rdrop]
  constructor
  · intro h
    have hlength := congrArg List.length h
    rw [List.length_take, List.length_append, List.length_append, List.length_take] at hlength
    by_cases hl : l = []
    · exact Or.inl hl
    · have hpos := List.length_pos_iff.mpr hl
      right
      omega
  · rintro (rfl | hle)
    · rw [List.nil_append, List.nil_append]
    · have hlong : l.length ≤ l.length + segments.length - levels := by omega
      rw [List.length_append, List.take_append, List.take_of_length_le hlong]
      congr 2
      omega

/-- What the clients import is the shared module exactly if the path of their directory has as
many names as they climb, or leads from the root. -/
theorem importedTransport_eq_iff {here : Location} {r : Request}
    (hno : Path.up ∉ r.servicesDir.segments) :
    importedTransport (r.servicesAt here) r.moduleName = r.transportAt here ↔
      start here r.servicesDir = [] ∨
        transportLevels r.moduleName ≤ r.servicesDir.segments.length := by
  have hcut : Path.up ∉ r.servicesDir.segments.rdrop (transportLevels r.moduleName) :=
    fun hup => hno (List.mem_of_mem_take hup)
  have hservices : r.servicesAt here = start here r.servicesDir ++ r.servicesDir.segments :=
    Location.along_of_no_up _ hno
  have hapi : r.apiAt here =
      start here r.servicesDir ++ r.servicesDir.segments.rdrop (transportLevels r.moduleName) := by
    rw [Request.apiAt, apiDir_eq]
    exact Location.along_of_no_up _ hcut
  rw [ClientModule.importedTransport_eq, Request.transportAt, List.append_left_inj, hservices, hapi]
  exact rdrop_append_eq_iff _ _ _

namespace Steps

variable {here : Location} {r : Request} {schemaDir : Option Path} {res : GenerationResult}
  {w w' : Workspace} (s : Steps here r schemaDir w res w')

include s

/-- The directory of the shared module is on the way to the types directory, so that the module is
there in the end, and nothing else is changed with it. -/
theorem transport_cases :
    (s.typesIndexed.tree.get? (r.transportAt here) ≠ none ∧ w'.tree = s.typesIndexed.tree) ∨
      w'.tree = s.typesIndexed.tree.put (r.transportAt here)
        (.file (Text.encode ClientModule.transport)) := by
  obtain ⟨path, htransport⟩ := s.transport
  have htypes : s.typesIndexed.tree.pathIsDirectory here (typesDir r.servicesDir) = true := by
    rw [FileTree.pathIsDirectory_eq_of_directories s.typesIndexed_directory_iff]
    exact s.typesDir_servicesIndexed
  rw [s.final]
  exact (Output.writeTransport_of_ok (Request.pathIsDirectory_apiDir htypes) htransport).imp id
    And.right

theorem transport_there : w'.tree.get? (r.transportAt here) ≠ none := by
  rcases s.transport_cases with ⟨hthere, heq⟩ | heq
  · rw [heq]
    exact hthere
  · rw [heq, Request.transportAt, FileTree.get?_put_self (by simp)]
    simp

theorem client_final {k : Service} (hk : k ∈ s.kept) :
    w'.tree.get? (r.servicesAt here ++ [k.client.fileName]) =
      some (.file (Text.encode (ClientModule.render k.client.name k r.moduleName))) := by
  -- whatever is written after the clients has another name, so that it may be in the same directory
  have hne : ∀ dir : Location, ∀ name, k.client.fileName ≠ name →
      r.servicesAt here ++ [k.client.fileName] ≠ dir ++ [name] := by
    intro dir name hname heq
    exact hname (List.cons.inj (List.append_inj_right' heq rfl)).1
  have hindexed : s.servicesIndexed.tree.get? (r.servicesAt here ++ [k.client.fileName]) =
      some (.file (Text.encode (ClientModule.render k.client.name k r.moduleName))) := by
    rw [s.servicesIndexed_eq]
    have hmem : r.clientFile k ∈ servicesFiles r s.kept :=
      List.mem_append_left _ (List.mem_map.mpr ⟨k, hk, rfl⟩)
    exact FileTree.get?_putFiles_of_mem s.files_nodup hmem
  have htypes : s.typesIndexed.tree.get? (r.servicesAt here ++ [k.client.fileName]) =
      s.servicesIndexed.tree.get? (r.servicesAt here ++ [k.client.fileName]) := by
    rw [s.typesIndexed_eq]
    exact FileTree.get?_put_of_ne (hne _ _ k.client.fileName_ne_index) _ _
  rw [← hindexed, ← htypes]
  rcases s.transport_cases with ⟨-, heq⟩ | heq
  · rw [heq]
  · rw [heq, Request.transportAt, FileTree.get?_put_of_ne]
    exact hne _ _ k.client.fileName_ne_transport

/-- A path of no names would have the current directory reset, and that fails. -/
theorem segments_ne_nil (hhere : w.tree.get? here = some .directory) :
    r.servicesDir.segments ≠ [] := by
  intro hnil
  have hdir : s.renamed.tree.get? (resolve here r.servicesDir) = some .directory := by
    rw [Location.resolve_eq, hnil]
    change s.renamed.tree.get? (if r.servicesDir.root.isEmpty then here else []) = _
    split
    · exact ((renames_sameShape s.rename).1.directory_iff here).mpr hhere
    · exact FileTree.get?_nil _
  have hreset := s.resetServices
  rw [FileTree.Operation.resetDirectory_of_nil hnil hdir] at hreset
  cases hreset

end Steps

/-- **Clients find the transport** if the path of their directory, which has no two dots, has as
many names as they climb, or leads from the root. Of the paths that a run succeeds with, only one
name for clients that belong to a module is too short. The shared module is there in the end, and
every client that a run lists is there and imports it. -/
theorem fromModules_transport {here : Location} {r : Request} {schemaDir : Option Path}
    {res : GenerationResult} {w w' : Workspace} (hno : Path.up ∉ r.servicesDir.segments)
    (h : fromModules here r schemaDir w = .ok res w') :
    w'.tree.get? (r.transportAt here) ≠ none ∧
      (∀ entry ∈ res.services, ∃ text,
        w'.tree.get? (r.servicesAt here ++ [entry.fileName]) = some (.file (Text.encode text)) ∧
          transportLine r.moduleName ∈ Text.textLines text) ∧
      (importedTransport (r.servicesAt here) r.moduleName = r.transportAt here ↔
        start here r.servicesDir = [] ∨
          transportLevels r.moduleName ≤ r.servicesDir.segments.length) ∧
      (w.tree.get? here = some .directory → 1 ≤ r.servicesDir.segments.length) := by
  obtain ⟨s⟩ := exists_steps h
  refine ⟨s.transport_there, ?_, importedTransport_eq_iff hno, fun hhere => ?_⟩
  · intro entry hentry
    rw [s.services] at hentry
    obtain ⟨k, hk, rfl⟩ := List.mem_map.mp hentry
    exact ⟨_, s.client_final hk, ClientModule.transportLine_mem _ k r.moduleName⟩
  · exact List.length_pos_iff.mpr (s.segments_ne_nil hhere)

/-- A module with a service, in a directory below the root. -/
def workWorkspace : Workspace where
  tree :=
    { items := [(["work"], .directory), (["work", "gen"], .directory),
        (["work", "gen", "ping_pb.ts"], .file (Text.encode pingModule))]
      nodup := by decide }

/-- Clients that belong to a module, in a directory with a path of one name. -/
def shortRequest : Request where
  generatedDir := ⟨"", ["gen"]⟩
  servicesDir := ⟨"", ["services"]⟩
  moduleName := some "m"

/-- The client of this run imports a module where nothing is, and the shared module is one
directory further down. -/
theorem short_transport_missed : ∃ res w',
    fromModules ["work"] shortRequest none workWorkspace = .ok res w' ∧
      w'.tree.get? ["work", "connect-client.ts"] ≠ none ∧
      (∃ entry ∈ res.services, ∃ text,
        w'.tree.get? (["work", "services"] ++ [entry.fileName]) = some (.file (Text.encode text)) ∧
          "import \x7b transport \x7d from '../../connect-client'" ∈ Text.textLines text) ∧
      importedTransport ["work", "services"] (some "m") = ["connect-client.ts"] ∧
      w'.tree.get? ["connect-client.ts"] = none := by
  obtain ⟨res, w', hrun, hcheck⟩ := exists_ok_of_meets
    (fun res w => res.services.length == 1 && w.tree.get? ["connect-client.ts"] == none)
    (fromModules ["work"] shortRequest none) workWorkspace (by decide +kernel)
  rw [Bool.and_eq_true, beq_iff_eq, beq_iff_eq] at hcheck
  obtain ⟨hthere, hclients, -, -⟩ := fromModules_transport (by decide) hrun
  obtain ⟨entry, hentry⟩ := List.length_eq_one_iff.mp hcheck.1
  have hmem : entry ∈ res.services := by
    rw [hentry]
    exact List.mem_singleton_self entry
  exact ⟨res, w', hrun, hthere, ⟨entry, hmem, hclients entry hmem⟩, by decide, hcheck.2⟩

end Generation

end ConnectClients
