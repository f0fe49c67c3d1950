import ConnectClients.Service
import ConnectClients.Proofs.Assoc
import ConnectClients.Proofs.Text.Lines
import ConnectClients.Proofs.Text.Scan

/-!
# Services and imports read from a module

The names a module imports are looked up by the last statement that lists them,
and lead to where its specifier leads. A service that is read has a name of word
characters, methods whose message types have names, and the imports of the whole
module.
-/

namespace ConnectClients

open Text

/-! ## Where specifiers lead -/

theorem ModulePath.resolve_ne_empty {specifier : String} (importPath : String)
    (h : specifier ≠ "") : ModulePath.resolve specifier importPath ≠ "" := by
  unfold ModulePath.resolve
  split
  · rename_i rest _
    intro hempty
    have hlist := congrArg String.toList hempty
    rw [String.toList_ofList, ModulePath.normalize] at hlist
    split at hlist
    · simp at hlist
    · rename_i hne
      exact hne hlist
  · exact h

namespace Service

/-! ## Named imports -/

/-- The names that import statements list, each with the specifier of its
statement, in the order of the text. -/
def listedImports (content : String) : List (String × String) :=
  (scanAll readImport content.toList).flatMap fun (names, specifier) =>
    (importedNames names).map fun name => (name, String.ofList specifier)

/-- The specifier of the last import statement that lists a name. -/
def specifierOf? (content name : String) : Option String :=
  (listedImports content).reverse.lookup name

theorem specifier_ne_empty {cs rest names specifier : List Char}
    (h : readImport cs = some ((names, specifier), rest)) : specifier ≠ [] := by
  simp only [readImport, bind, pure, Option.bind_eq_some_iff] at h
  obtain ⟨_, -, _, -, _, -, ⟨_, _⟩, -, _, -, _, -, _, -, _, -, _, -, ⟨spec, _⟩, hrun, _, -, hend⟩ := h
  simp only [Option.some.injEq, Prod.mk.injEq] at hend
  obtain ⟨⟨-, rfl⟩, -⟩ := hend
  exact (run?_eq_some hrun).2.1

theorem specifierOf?_ne_empty {content name specifier : String}
    (h : specifierOf? content name = some specifier) : specifier ≠ "" := by
  obtain ⟨before, after, hsplit, -⟩ := List.lookup_eq_some_iff.mp h
  have hmem : (name, specifier) ∈ listedImports content := by
    rw [← List.mem_reverse, hsplit]
    simp
  obtain ⟨⟨names, spec⟩, hscan, hin⟩ := List.mem_flatMap.mp hmem
  obtain ⟨start, rest, hread⟩ := mem_scanAll hscan
  obtain ⟨_, -, hpair⟩ := List.mem_map.mp hin
  simp only [Prod.mk.injEq] at hpair
  rw [← hpair.2]
  intro hempty
  exact specifier_ne_empty hread (String.ofList_eq_empty_iff.mp hempty)

/-- A name comes from where the specifier of its last statement leads. -/
theorem lookup_namedImports (content importPath name : String) :
    (namedImports content importPath).lookup name =
      (specifierOf? content name).map (ModulePath.resolve · importPath) := by
  have hpairs : (scanAll readImport content.toList).flatMap (fun (names, specifier) =>
      (importedNames names).map fun name =>
        (name, ModulePath.resolve (String.ofList specifier) importPath)) =
      (listedImports content).map fun p => (p.1, ModulePath.resolve p.2 importPath) := by
    rw [listedImports, List.map_flatMap]
    refine List.flatMap_congr fun p _ => ?_
    rw [List.map_map]
    rfl
  rw [namedImports, hpairs, Assoc.lookup_ofList, ← List.map_reverse, specifierOf?]
  induction (listedImports content).reverse with
  | nil => rfl
  | cons p rest ih =>
      rw [List.map_cons, List.lookup_cons, List.lookup_cons, ih]
      cases name == p.1 <;> rfl

/-! ## Services -/

/-- A word, and nothing else. -/
def IsWords (cs : List Char) : Prop := cs ≠ [] ∧ ∀ c ∈ cs, isWord c = true

theorem readSchema_isWords {label : String} {cs name rest : List Char}
    (h : readSchema label cs = some (name, rest)) : IsWords name := by
  simp only [readSchema, bind, Option.bind_eq_some_iff] at h
  obtain ⟨_, -, _, -, _, -, ⟨word, _⟩, hrun, stem, hstem, _, -, hend⟩ := h
  split at hend
  · simp at hend
  · rename_i hne
    simp only [Option.some.injEq, Prod.mk.injEq] at hend
    rw [← hend.1]
    refine ⟨by simpa using hne, fun c hc => ?_⟩
    exact (run?_eq_some hrun).2.2 c (dropSuffix?_subset hstem hc)

theorem readUnary_isWords {cs input output rest : List Char}
    (h : readUnary cs = some ((input, output), rest)) : IsWords input ∧ IsWords output := by
  simp only [readUnary, bind, pure, Option.bind_eq_some_iff] at h
  obtain ⟨_, -, _, -, _, -, _, -, _, -, ⟨_, _⟩, hinput, ⟨_, _⟩, houtput, hend⟩ := h
  simp only [Option.some.injEq, Prod.mk.injEq] at hend
  obtain ⟨⟨rfl, rfl⟩, -⟩ := hend
  exact ⟨readSchema_isWords hinput, readSchema_isWords houtput⟩

theorem findUnary_isWords {input output rest : List Char} : ∀ {cs : List Char},
    findUnary cs = some ((input, output), rest) → IsWords input ∧ IsWords output := by
  intro cs
  induction cs with
  | nil => simp [findUnary]
  | cons c cs ih =>
      rw [findUnary]
      split
      · rename_i found hread
        intro h
        rw [Option.some.injEq] at h
        subst h
        exact readUnary_isWords hread
      · split
        · simp
        · exact ih

theorem readMethod_isWords {cs rest : List Char} {m : Method}
    (h : readMethod cs = some (m, rest)) :
    IsWords m.inputType.toList ∧ IsWords m.outputType.toList := by
  simp only [readMethod, bind, pure, Option.bind_eq_some_iff] at h
  obtain ⟨⟨_, _⟩, -, _, -, _, -, ⟨⟨input, output⟩, _⟩, hfind, hend⟩ := h
  simp only [Option.some.injEq, Prod.mk.injEq] at hend
  obtain ⟨rfl, -⟩ := hend
  simp only [methodOf, String.toList_ofList]
  exact findUnary_isWords hfind

theorem readDeclaration_isWords {cs name body rest : List Char}
    (h : readDeclaration cs = some ((name, body), rest)) : IsWords name := by
  simp only [readDeclaration, bind, pure, Option.bind_eq_some_iff] at h
  obtain ⟨_, -, ⟨word, _⟩, hrun, _, -, _, -, ⟨_, _⟩, -, hend⟩ := h
  simp only [Option.some.injEq, Prod.mk.injEq] at hend
  obtain ⟨⟨rfl, -⟩, -⟩ := hend
  exact (run?_eq_some hrun).2

/-- The names of a service that is read from a module, and of the messages of its methods, are
words. -/
theorem isWords_of_mem_ofModule {content importPath : String} {s : Service}
    (hs : s ∈ ofModule content importPath) : IsWords s.serviceName.toList ∧
      ∀ m ∈ s.methods, IsWords m.inputType.toList ∧ IsWords m.outputType.toList := by
  obtain ⟨⟨name, body⟩, hscan, rfl⟩ := List.mem_map.mp hs
  obtain ⟨start, rest, hread⟩ := mem_scanAll hscan
  refine ⟨?_, fun m hm => ?_⟩
  · rw [String.toList_ofList]
    exact readDeclaration_isWords hread
  · obtain ⟨_, _, hmethod⟩ := mem_scanAll hm
    exact readMethod_isWords hmethod

/-- What is known of every service that is read from a module. -/
structure ReadFrom (content importPath : String) (s : Service) : Prop where
  name_word : ∀ c ∈ s.serviceName.toList, isWord c = true
  importPath_eq : s.importPath = importPath
  imports_eq : s.imports = namedImports content importPath
  types_ne_empty : ∀ m ∈ s.methods, m.inputType ≠ "" ∧ m.outputType ≠ ""

theorem readFrom_of_mem_ofModule {content importPath : String} {s : Service}
    (hs : s ∈ ofModule content importPath) : ReadFrom content importPath s := by
  obtain ⟨hname, htypes⟩ := isWords_of_mem_ofModule hs
  obtain ⟨⟨name, body⟩, -, rfl⟩ := List.mem_map.mp hs
  refine ⟨hname.2, rfl, rfl, fun m hm => ?_⟩
  exact (htypes m hm).imp (fun h => mt String.toList_eq_nil_iff.mpr h.1)
    fun h => mt String.toList_eq_nil_iff.mpr h.1

end Service

end ConnectClients
