import ConnectClients.Proofs.ClientModule.Exports
import ConnectClients.Proofs.Generation.Transport

/-!
# What a run exports

A run lists each client once, and the index exports two names for each. Names of different clients
are different, but a client whose service is called with a small first letter is exported twice
under the same name.
-/

namespace ConnectClients

open Runs
open FileTree (get?_put_of_ne)

namespace Generation

variable {here : Location} {r : Request} {schemaDir : Option Path} {res : GenerationResult}
  {w w' : Workspace}

namespace Steps

variable (s : Steps here r schemaDir w res w')

include s

/-- The services that got a client have names, and these are words. -/
theorem name_kept {k : Service} (hk : k ∈ s.kept) :
    k.serviceName ≠ "" ∧ ∀ c ∈ k.serviceName.toList, Text.isWord c = true := by
  have hdeclared := s.accounts.order.subset hk
  obtain ⟨m, -, -, content, hread⟩ := exists_of_mem_declaredServices hdeclared
  obtain ⟨⟨hne, hword⟩, -⟩ := Service.isWords_of_mem_ofModule hread
  exact ⟨mt String.toList_eq_nil_iff.mpr hne, hword⟩

theorem entries_eq : res.services = (s.kept.map Service.serviceName).map ClientEntry.ofService := by
  rw [s.services, List.map_map]
  rfl

theorem camelNames_nodup :
    (((s.kept.map Service.serviceName).map ClientEntry.ofService).map
      ClientEntry.camelName).Nodup := by
  rw [List.map_map, List.map_map]
  exact s.accounts.distinct

/-- The index of the clients is there in the end, unless the index of the types took its place. -/
theorem servicesIndex_final (hne : r.servicesAt here ≠ r.typesAt here) :
    w'.tree.get? (r.servicesAt here ++ [Output.indexName]) =
      some (.file (Text.encode (ClientModule.renderIndex res.services r.moduleName))) := by
  have hindexed : s.servicesIndexed.tree.get? (r.servicesAt here ++ [Output.indexName]) =
      some (.file (Text.encode (ClientModule.renderIndex res.services r.moduleName))) := by
    rw [s.servicesIndexed_eq, s.services]
    exact FileTree.get?_putFiles_of_mem s.files_nodup
      (List.mem_append_right _ (List.mem_singleton_self _))
  have htypes : s.typesIndexed.tree.get? (r.servicesAt here ++ [Output.indexName]) =
      s.servicesIndexed.tree.get? (r.servicesAt here ++ [Output.indexName]) := by
    rw [s.typesIndexed_eq]
    exact get?_put_of_ne (fun heq => hne (List.append_cancel_right heq)) _ _
  have htransport : r.servicesAt here ++ [Output.indexName] ≠ r.transportAt here := by
    intro heq
    have hname : Output.indexName ≠ Output.transportName := by decide
    exact hname (List.cons.inj (List.append_inj_right' heq rfl)).1
  rw [← hindexed, ← htypes]
  rcases s.transport_cases with ⟨-, heq⟩ | heq
  · rw [heq]
  · rw [heq, get?_put_of_ne htransport]

end Steps

/-- **The index exports each name once unless a service begins with a small letter.** The names
that a run exports for its clients are different from each other exactly if each client has two;
those of different clients always are, and none of them is that of the types. A client has one name
only if the name of its service begins with a character that is its own lower case. The index that
the run leaves behind exports these names: it is there unless the types take its directory, and a
module's name without a newline brings in nothing else. -/
theorem fromModules_exports (h : fromModules here r schemaDir w = .ok res w') :
    ((res.services.flatMap ClientEntry.exports).Nodup ↔
      ∀ entry ∈ res.services, entry.camelName ≠ entry.name) ∧
    (res.services.Pairwise fun first second => first.exports.Disjoint second.exports) ∧
    "types" ∉ res.services.flatMap ClientEntry.exports ∧
    (∀ entry ∈ res.services, entry.camelName = entry.name ↔
      ∀ c ∈ entry.serviceName.toList.head?, Text.lower [c] = [c]) ∧
    (r.servicesAt here ≠ r.typesAt here → (∀ name ∈ r.moduleName, '\n' ∉ name.toList) →
      ∃ text, w'.tree.get? (r.servicesAt here ++ [Output.indexName]) =
          some (.file (Text.encode text)) ∧
        ClientModule.exportedNames text = res.services.flatMap ClientEntry.exports) := by
  obtain ⟨s⟩ := exists_steps h
  have hcamel := s.camelNames_nodup
  have hindex := s.servicesIndex_final
  rw [s.entries_eq] at hindex ⊢
  refine ⟨ClientEntry.flatMap_exports_nodup_iff hcamel, ?_, ?_, ?_, fun hne hmodule => ?_⟩
  · rw [List.map_map] at hcamel
    exact List.pairwise_map.mpr ((List.pairwise_map.mp hcamel).imp ClientEntry.exports_disjoint)
  · exact ClientEntry.types_not_mem_exports _
  · intro entry hentry
    obtain ⟨name, hname, rfl⟩ := List.mem_map.mp hentry
    obtain ⟨k, hk, rfl⟩ := List.mem_map.mp hname
    exact ClientEntry.camelName_eq_name_iff k.serviceName
  · refine ⟨_, hindex hne, ClientModule.exportedNames_renderIndex ?_ ?_ hmodule⟩
    · exact List.forall_mem_map.mpr fun k hk => (s.name_kept hk).1
    · exact List.forall_mem_map.mpr fun k hk => (s.name_kept hk).2

/-- A module with services that begin with a small letter and with a capital. -/
def twoLetters : String :=
  "export const pingService: GenService<\x7b\n\x7d> = x\n" ++
    "export const PongService: GenService<\x7b\n\x7d> = x\n"

def lettersWorkspace : Workspace where
  tree :=
    { items := [(["gen"], .directory), (["gen", "ping_pb.ts"], .file (Text.encode twoLetters))]
      nodup := by decide }

/-- The client that begins with a small letter is exported twice, and the other one is not. -/
theorem pingService_exported_twice : ∃ res w',
    fromModules [] plainRequest none lettersWorkspace = .ok res w' ∧
      (∃ text, w'.tree.get? ["services", "index.ts"] = some (.file (Text.encode text)) ∧
        ClientModule.exportedNames text = ["pingClient", "pingClient", "pongClient", "PongClient"] ∧
        ¬ (ClientModule.exportedNames text).Nodup) ∧
      ∃ entry ∈ res.services, entry.camelName ≠ entry.name := by
  obtain ⟨res, w', hrun, hservices⟩ := exists_ok_of_meets
    (fun res _ => res.services ==
      [⟨"ping", "ping", "pingService"⟩, ⟨"Pong", "pong", "PongService"⟩])
    (fromModules [] plainRequest none) lettersWorkspace (by decide +kernel)
  have heq := eq_of_beq hservices
  obtain ⟨hnodup, -, -, hletters, hindex⟩ := fromModules_exports hrun
  obtain ⟨text, hfile, hnames⟩ := hindex (by decide) (by simp [plainRequest])
  refine ⟨res, w', hrun, ⟨text, hfile, ?_, ?_⟩, ⟨"Pong", "pong", "PongService"⟩, by simp [heq], ?_⟩
  · rw [hnames, heq]
    rfl
  · rw [hnames, hnodup]
    intro hdistinct
    refine hdistinct ⟨"ping", "ping", "pingService"⟩ (by simp [heq]) ?_
    refine (hletters _ (by simp [heq])).mpr fun c hc => ?_
    obtain rfl : 'p' = c := Option.some.inj hc
    decide
  · decide

end Generation

end ConnectClients
