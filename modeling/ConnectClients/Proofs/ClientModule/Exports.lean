import Mathlib.Data.List.Nodup
import ConnectClients.Proofs.ClientModule.BracedNames
import ConnectClients.Proofs.ClientModule.Index
import ConnectClients.Proofs.Identifier.ClientNames

/-!
# What the services index exports

For each client the index exports its constant and its type. Clients with different constants have
nothing in common: a small first letter stays small, so that the type of one client cannot be
called like the constant of another one. But nothing keeps a client's own two names apart, and they
are the same if the name of the client has a small first letter by itself.
-/

namespace ConnectClients

open Identifier (clientName lowerFirst)

namespace ClientEntry

/-- The names that are exported for a client: those of its constant and of its type. -/
def exports (entry : ClientEntry) : List String :=
  [entry.camelName ++ "Client", entry.name ++ "Client"]

theorem exports_nodup_iff {entry : ClientEntry} :
    entry.exports.Nodup ↔ entry.camelName ≠ entry.name := by
  simp [exports]

/-- A client has two names unless the name of its service begins with a character that is its own
lower case. -/
theorem camelName_eq_name_iff (service : String) :
    (ofService service).camelName = (ofService service).name ↔
      ∀ c ∈ service.toList.head?, Text.lower [c] = [c] := by
  have hfirst : (clientName service).toList.head? = service.toList.head? :=
    Identifier.head?_clientName service
  simp only [Text.lower_singleton]
  rw [← hfirst]
  exact Identifier.lowerFirst_eq_self_iff

variable {first second : String}

/-- The type of a client is not called like the constant of another one. -/
theorem name_ne_camelName (h : (ofService first).camelName ≠ (ofService second).camelName) :
    (ofService first).name ≠ (ofService second).camelName := by
  intro heq
  apply h
  have hfirst : (ofService first).camelName = lowerFirst (ofService first).name := rfl
  have hsecond : (ofService second).camelName = lowerFirst (ofService second).name := rfl
  rw [hfirst, heq, hsecond, Identifier.lowerFirst_lowerFirst]

theorem exports_disjoint (h : (ofService first).camelName ≠ (ofService second).camelName) :
    (ofService first).exports.Disjoint (ofService second).exports := by
  have hname : (ofService first).name ≠ (ofService second).name :=
    fun heq => h (congrArg lowerFirst heq)
  have hother := name_ne_camelName (Ne.symm h)
  rw [List.disjoint_left]
  simp only [exports, List.mem_cons, List.not_mem_nil, or_false, not_or]
  rintro _ (rfl | rfl)
  · exact ⟨fun heq => h ((String.append_left_inj _).mp heq),
      fun heq => hother ((String.append_left_inj _).mp heq).symm⟩
  · exact ⟨fun heq => name_ne_camelName h ((String.append_left_inj _).mp heq),
      fun heq => hname ((String.append_left_inj _).mp heq)⟩

/-- Clients with different constants are exported under different names, if each of them is by
itself. -/
theorem flatMap_exports_nodup_iff {services : List String}
    (h : ((services.map ofService).map camelName).Nodup) :
    ((services.map ofService).flatMap exports).Nodup ↔
      ∀ entry ∈ services.map ofService, entry.camelName ≠ entry.name := by
  rw [List.nodup_flatMap]
  simp only [exports_nodup_iff]
  refine and_iff_left ?_
  rw [List.pairwise_map]
  rw [List.map_map] at h
  exact (List.pairwise_map.mp h).imp exports_disjoint

/-- The index exports the types under a name that no client has. -/
theorem types_not_mem_exports (entries : List ClientEntry) : "types" ∉ entries.flatMap exports := by
  rw [List.mem_flatMap]
  rintro ⟨entry, -, hmem⟩
  have hending : ∀ name : String, name ++ "Client" ≠ "types" :=
    fun name => Identifier.append_ne (by decide)
  rcases List.mem_cons.mp hmem with heq | hmem
  · exact hending _ heq.symm
  · exact hending _ (List.mem_singleton.mp hmem).symm

/-- The names of a service that is a word can stand between braces. -/
theorem isPlain_exports {service : String} (hne : service ≠ "")
    (hword : ∀ c ∈ service.toList, Text.isWord c = true) :
    ClientModule.IsPlain (ofService service).name ∧
      ClientModule.IsPlain (ofService service).camelName := by
  have hname : ClientModule.IsPlain (ofService service).name :=
    ClientModule.isPlain_of_isWord (Identifier.clientName_ne_empty hne)
      fun c hc => hword c (Identifier.mem_of_mem_clientName hc)
  refine ⟨hname, ?_, ?_, ?_, ?_⟩
  · exact Identifier.lowerFirst_ne_empty hname.ne_empty
  · exact Identifier.not_blank_of_mem_lowerFirst hname.unblank
  · exact mark_not_mem_camelName hword (by decide) (by decide)
  · exact mark_not_mem_camelName hword (by decide) (by decide)

end ClientEntry

namespace ClientModule

/-- The names that the index exports, read off its lines. -/
def exportedNames (text : String) : List String := (exportsOf text).flatMap bracedNames

theorem bracedNames_exportLine {entry : ClientEntry} (hname : IsPlain entry.name)
    (hcamel : IsPlain entry.camelName) :
    bracedNames (exportLine entry).toList = entry.exports := by
  have hplain : ∀ {name : String}, IsPlain name → IsPlain (name ++ "Client") :=
    fun h => h.append (by decide)
  have hlists : List.Forall₂ Lists
      [entry.camelName ++ "Client", "type " ++ (entry.name ++ "Client")] entry.exports :=
    .cons ⟨hplain hcamel, Or.inl rfl⟩ (.cons ⟨hplain hname, Or.inr rfl⟩ .nil)
  have hline : (exportLine entry).toList = "export ".toList ++ '\x7b' ::
      (padded [entry.camelName ++ "Client", "type " ++ (entry.name ++ "Client")] ++
        '\x7d' :: (" from './" ++ entry.camelName ++ ".client'").toList) := by
    simp [exportLine, padded]
  rw [hline]
  exact bracedNames_eq hlists (by decide) _

/-- What is read off the text of the index are the names of all clients, in their order. -/
theorem exportedNames_renderIndex {services : List String} {moduleName : Option String}
    (hne : ∀ s ∈ services, s ≠ "") (hword : ∀ s ∈ services, ∀ c ∈ s.toList, Text.isWord c = true)
    (hmodule : ∀ name ∈ moduleName, '\n' ∉ name.toList) :
    exportedNames (renderIndex (services.map ClientEntry.ofService) moduleName) =
      (services.map ClientEntry.ofService).flatMap ClientEntry.exports := by
  have hlines : ∀ entry ∈ services.map ClientEntry.ofService,
      '\n' ∉ (exportLine entry).toList := by
    intro entry hentry
    obtain ⟨s, hs, rfl⟩ := List.mem_map.mp hentry
    exact newline_not_mem_exportLine (hword s hs)
  rw [exportedNames, exportsOf_renderIndex hlines hmodule, List.flatMap_map, List.flatMap_map]
  refine List.flatMap_congr fun entry hentry => ?_
  obtain ⟨s, hs, rfl⟩ := List.mem_map.mp hentry
  obtain ⟨hname, hcamel⟩ := ClientEntry.isPlain_exports (hne s hs) (hword s hs)
  exact bracedNames_exportLine hname hcamel

end ClientModule

end ConnectClients
