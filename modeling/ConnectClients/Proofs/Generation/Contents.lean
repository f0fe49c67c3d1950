import ConnectClients.Proofs.ClientModule.Index
import ConnectClients.Proofs.Generation.Places
import ConnectClients.Proofs.Generation.Steps

/-!
# What a run leaves behind

A run that succeeds leaves the services directory with the clients of the kept services
and their index, and the types directory with its index. Whatever was there before is
gone.
-/

namespace ConnectClients.Generation

open Runs
open FileTree (Closed Holds isBelow)
open Location (along start resolve Through)

/-! ## Warnings -/

/-- Whether a warning says that a service was passed over. -/
def isSkip (warning : String) : Bool := "Skipped ".toList.isPrefixOf warning.toList

theorem isSkip_repeatWarning (s : Service) : isSkip (repeatWarning s) = true := by
  unfold isSkip repeatWarning
  rw [List.isPrefixOf_iff_prefix]
  simp only [String.append_assoc, String.toList_append]
  exact List.prefix_append _ _

/-- A text that does not start with the same letter is no such warning. -/
theorem isSkip_eq_false {warning : String} {c : Char} {rest : List Char} (hc : c ≠ 'S')
    (h : c :: rest <+: warning.toList) : isSkip warning = false := by
  obtain ⟨more, hmore⟩ := h
  have hskip : "Skipped ".toList = 'S' :: "kipped ".toList := by decide
  rw [isSkip, ← hmore, hskip, List.cons_append, List.isPrefixOf_cons_cons, beq_false_of_ne (Ne.symm hc),
    Bool.false_and]

theorem isSkip_of_unreadable {warning : String} (h : unreadable <+: warning.toList) :
    isSkip warning = false := by
  have hlead : unreadable = 'C' :: "ould not read ".toList := by decide
  rw [hlead] at h
  exact isSkip_eq_false (by decide) h

theorem filter_isSkip_eq_nil {warnings : List String} (h : ∀ text ∈ warnings, isSkip text = false) :
    warnings.filter isSkip = [] := by
  rw [List.filter_eq_nil_iff]
  intro text htext
  rw [h text htext]
  exact Bool.false_ne_true

/-- Of the warnings of a run, those about repeated services are kept, whatever else it
warns of. -/
theorem filter_isSkip_append {before after : List String} (repeated : List Service)
    (hbefore : ∀ text ∈ before, isSkip text = false) (hafter : ∀ text ∈ after, isSkip text = false) :
    (before ++ repeated.map repeatWarning ++ after).filter isSkip =
      repeated.map repeatWarning := by
  have hself : (repeated.map repeatWarning).filter isSkip = repeated.map repeatWarning := by
    apply List.filter_eq_self.mpr
    intro text htext
    obtain ⟨s, -, rfl⟩ := List.mem_map.mp htext
    exact isSkip_repeatWarning s
  rw [List.filter_append, List.filter_append, filter_isSkip_eq_nil hbefore, hself,
    filter_isSkip_eq_nil hafter, List.nil_append, List.append_nil]

theorem isSkip_no {text : String} (h : "No ".toList <+: text.toList) : isSkip text = false := by
  have hlead : "No ".toList = 'N' :: "o ".toList := by decide
  rw [hlead] at h
  exact isSkip_eq_false (by decide) h

/-! ## The run -/

/-- The files of the services directory: the clients, and their index. -/
def servicesFiles (r : Request) (kept : List Service) : List (String × String) :=
  kept.map r.clientFile ++
    [(Output.indexName, ClientModule.renderIndex (kept.map Service.client) r.moduleName)]

theorem servicesFiles_nodup {r : Request} {kept : List Service}
    (h : (kept.map fun s => s.client.camelName).Nodup) :
    ((servicesFiles r kept).map Prod.fst).Nodup := by
  rw [servicesFiles, List.map_append, List.map_map]
  refine List.nodup_append.mpr ⟨?_, List.nodup_singleton _, ?_⟩
  · apply List.pairwise_map.mpr
    apply List.Pairwise.imp _ (List.pairwise_map.mp h)
    intro s s' hne heq
    exact hne (ClientEntry.camelName_eq_of_fileName_eq heq)
  · intro name hname index hindex
    obtain ⟨s, -, rfl⟩ := List.mem_map.mp hname
    rw [List.map_singleton, List.mem_singleton] at hindex
    rw [hindex]
    exact ClientEntry.fileName_ne_index s.client

/-- A file beside a directory, or further up, is not in the directory. -/
theorem not_above_file {t : FileTree} {dir l : Location} {name : String}
    (hdir : t.get? dir = some .directory) (hno : t.get? (l ++ [name]) ≠ some .directory)
    (hout : ¬ dir <+: l) : ¬ dir <+: l ++ [name] := by
  intro habove
  rcases List.prefix_concat_iff.mp habove with heq | habove
  · exact hno (heq ▸ hdir)
  · exact hout habove

/-- Taking over JSON names does not move the services directory. -/
theorem isPlaced_of_renames {here : Location} {r : Request} {schemaDir : Option Path}
    {found : List String × List String} {w w' : Workspace}
    (h : renames here r schemaDir w = .ok found w') (hclosed : w.tree.Closed)
    (hapart : r.IsApart here)
    (hplaced : Path.up ∈ r.servicesDir.segments → r.IsPlaced here w.tree) :
    r.IsPlaced here w'.tree := by
  have hshape := (renames_sameShape h).1
  by_cases hup : Path.up ∈ r.servicesDir.segments
  · exact (hplaced hup).of_sameShape hshape
  · exact hapart.isPlaced (hshape.closed hclosed) hup

namespace Steps

variable {here : Location} {r : Request} {schemaDir : Option Path} {res : GenerationResult}
  {w w' : Workspace} (s : Steps here r schemaDir w res w')

include s

/-! ## The directories, step by step -/

theorem closed_renamed (hclosed : w.tree.Closed) : s.renamed.tree.Closed :=
  (renames_sameShape s.rename).1.closed hclosed

theorem isPlaced_renamed (hclosed : w.tree.Closed) (hapart : r.IsApart here)
    (hplaced : Path.up ∈ r.servicesDir.segments → r.IsPlaced here w.tree) :
    r.IsPlaced here s.renamed.tree :=
  isPlaced_of_renames s.rename hclosed hapart hplaced

theorem servicesIndexed_eq : s.servicesIndexed.tree =
    s.typesReset.putFiles (r.servicesAt here) (servicesFiles r s.kept) := by
  obtain ⟨path, hindex⟩ := s.servicesIndex
  rw [(Output.writeInto_of_ok Output.isName_indexName hindex).2, s.clients, servicesFiles,
    FileTree.putFiles_append]
  rfl

theorem files_nodup : ((servicesFiles r s.kept).map Prod.fst).Nodup :=
  servicesFiles_nodup s.accounts.distinct

/-- Once both directories are reset, directories are neither made nor taken away. -/
theorem servicesIndexed_directory_iff (l : Location) :
    s.servicesIndexed.tree.get? l = some .directory ↔ s.typesReset.get? l = some .directory := by
  obtain ⟨path, hindex⟩ := s.servicesIndex
  exact (Output.writeInto_directory_iff Output.isName_indexName hindex l).trans
    (s.clientsDirectory_iff l)

theorem typesDir_servicesIndexed :
    s.servicesIndexed.tree.pathIsDirectory here (typesDir r.servicesDir) = true := by
  obtain ⟨hpasses, hdir⟩ := FileTree.pathIsDirectory_iff.mp
    (FileTree.Operation.resetDirectory_of_ok s.resetTypes).1
  have hlasting := fun l => (s.servicesIndexed_directory_iff l).mpr
  exact FileTree.pathIsDirectory_iff.mpr ⟨hpasses.mono hlasting, hlasting _ hdir⟩

theorem typesIndexed_eq : s.typesIndexed.tree = s.servicesIndexed.tree.putFiles (r.typesAt here)
    [(Output.indexName, TypesIndex.render res.typeFiles)] := by
  obtain ⟨path, hindex⟩ := s.typesIndex
  exact Output.writeTypesIndex_of_ok s.typesDir_servicesIndexed hindex

theorem typesIndexed_directory_iff (l : Location) :
    s.typesIndexed.tree.get? l = some .directory ↔
      s.servicesIndexed.tree.get? l = some .directory := by
  obtain ⟨path, hindex⟩ := s.typesIndex
  obtain ⟨_, w₁, hmake, hwrite⟩ := bind_eq_ok_iff.mp hindex
  obtain rfl := Output.makeDirectories_of_directory s.typesDir_servicesIndexed hmake
  exact Output.writeInto_directory_iff Output.isName_indexName hwrite l

theorem apiDir_typesIndexed (hapart : r.IsApart here) :
    s.typesIndexed.tree.pathIsDirectory here (apiDir r.servicesDir r.moduleName) = true := by
  obtain ⟨lead, rest, hsegments, hapi, -⟩ := hapart.exists_apiDir
  have htypes : s.typesIndexed.tree.pathIsDirectory here (typesDir r.servicesDir) = true := by
    rw [FileTree.pathIsDirectory_eq_of_directories s.typesIndexed_directory_iff]
    exact s.typesDir_servicesIndexed
  rw [hapi]
  exact FileTree.pathIsDirectory_lead hsegments htypes

/-- The shared module is written where it belongs, unless something is there already. -/
theorem shared_eq (hapart : r.IsApart here) :
    (s.typesIndexed.tree.get? (r.apiAt here ++ [Output.transportName]) ≠ none ∧
      s.shared.tree = s.typesIndexed.tree) ∨
    (s.typesIndexed.tree.get? (r.apiAt here ++ [Output.transportName]) = none ∧
      s.shared.tree = s.typesIndexed.tree.put (r.apiAt here ++ [Output.transportName])
        (.file (Text.encode ClientModule.transport))) := by
  obtain ⟨path, htransport⟩ := s.transport
  exact Output.writeTransport_of_ok (s.apiDir_typesIndexed hapart) htransport

theorem shared_apart {dir : Location} {files : List (String × String)}
    (hapart : r.IsApart here)
    (hholds : s.typesIndexed.tree.Holds dir files) (hout : ¬ dir <+: r.apiAt here) :
    w'.tree.Holds dir files := by
  rw [s.final]
  rcases s.shared_eq hapart with ⟨-, heq⟩ | ⟨hno, heq⟩
  · rw [heq]
    exact hholds
  · rw [heq]
    exact hholds.put_apart (not_above_file hholds.there (by simp [hno]) hout) _

section placed

variable (hclosed : s.renamed.tree.Closed) (hapart : r.IsApart here)
  (hplaced : r.IsPlaced here s.renamed.tree)

include hclosed hapart

theorem types_reset : s.typesReset.Holds (r.typesAt here) [] :=
  reset_types hclosed hapart s.resetServices s.resetTypes

theorem types_servicesIndexed : s.servicesIndexed.tree.Holds (r.typesAt here) [] := by
  rw [s.servicesIndexed_eq]
  exact (s.types_reset hclosed hapart).putFiles_apart hapart.services_apart hapart.types_apart

theorem types_typesIndexed : s.typesIndexed.tree.Holds (r.typesAt here)
    [(Output.indexName, TypesIndex.render res.typeFiles)] := by
  rw [s.typesIndexed_eq]
  exact (s.types_servicesIndexed hclosed hapart).putFiles (List.nodup_singleton _)

include hplaced

theorem services_reset : s.typesReset.Holds (r.servicesAt here) [] :=
  reset_services_kept hclosed hapart hplaced s.resetServices s.resetTypes

theorem services_servicesIndexed :
    s.servicesIndexed.tree.Holds (r.servicesAt here) (servicesFiles r s.kept) := by
  rw [s.servicesIndexed_eq]
  exact (s.services_reset hclosed hapart hplaced).putFiles s.files_nodup

theorem services_typesIndexed :
    s.typesIndexed.tree.Holds (r.servicesAt here) (servicesFiles r s.kept) := by
  rw [s.typesIndexed_eq]
  apply (s.services_servicesIndexed hclosed hapart hplaced).putFiles_apart
  · exact hapart.types_apart
  · exact hapart.services_apart

/-! ## The directories in the end -/

omit hclosed in
/-- The shared module goes to neither of the two directories. -/
theorem apiAt_apart :
    ¬ r.servicesAt here <+: r.apiAt here ∧ ¬ r.typesAt here <+: r.apiAt here := by
  obtain ⟨-, -, -, -, hway⟩ := hapart.exists_apiDir
  constructor
  · intro habove
    exact hplaced.not_through _ hway (FileTree.isBelow_iff.mpr ⟨habove, hplaced.api_ne_services⟩)
  · intro habove
    exact not_through_types hapart s.resetServices s.resetTypes _ hway
      (FileTree.isBelow_iff.mpr ⟨habove, hplaced.api_ne_types⟩)

theorem services_final : w'.tree.Holds (r.servicesAt here) (servicesFiles r s.kept) :=
  s.shared_apart hapart (s.services_typesIndexed hclosed hapart hplaced)
    (s.apiAt_apart hapart hplaced).1

theorem types_final : w'.tree.Holds (r.typesAt here)
    [(Output.indexName, TypesIndex.render res.typeFiles)] :=
  s.shared_apart hapart (s.types_typesIndexed hclosed hapart) (s.apiAt_apart hapart hplaced).2

/-- A run that is started outside of both directories leaves a closed tree. -/
theorem closed_final
    (hstart : s.renamed.tree.get? (start here r.servicesDir) = some .directory)
    (hservices : ¬ r.servicesAt here <+: start here r.servicesDir)
    (htypes : ¬ r.typesAt here <+: start here r.servicesDir) : w'.tree.Closed := by
  have hfirst : s.servicesReset.Closed :=
    FileTree.Operation.resetDirectory_closed hclosed hstart hservices s.resetServices
  have hsame : start here (typesDir r.servicesDir) = start here r.servicesDir := by
    rw [Request.typesDir_eq]
    rfl
  have hstill : s.servicesReset.get? (start here (typesDir r.servicesDir)) = some .directory := by
    rw [hsame]
    rcases FileTree.resetDirectory_apart s.resetServices hservices with heq | ⟨hnone, -⟩
    · rw [heq, hstart]
    · exact absurd (hstart.symm.trans hnone) (by simp)
  have hsecond : s.typesReset.Closed :=
    FileTree.Operation.resetDirectory_closed hfirst hstill (by rw [hsame]; exact htypes) s.resetTypes
  have hthird : s.servicesIndexed.tree.Closed := by
    rw [s.servicesIndexed_eq]
    exact (s.services_reset hclosed hapart hplaced).putFiles_closed hsecond s.files_nodup
  have hfourth : s.typesIndexed.tree.Closed := by
    rw [s.typesIndexed_eq]
    exact (s.types_servicesIndexed hclosed hapart).putFiles_closed hthird (List.nodup_singleton _)
  rw [s.final]
  rcases s.shared_eq hapart with ⟨-, heq⟩ | ⟨hno, heq⟩
  · rw [heq]
    exact hfourth
  · rw [heq]
    apply hfourth.put _ (Or.inl (by simp [hno]))
    intro _
    rw [List.dropLast_concat]
    exact (FileTree.pathIsDirectory_iff.mp (s.apiDir_typesIndexed hapart)).2

end placed

theorem told_repeats : res.warnings.filter isSkip = s.repeated.map repeatWarning := by
  rw [s.warnings]
  apply filter_isSkip_append
  · intro text htext
    rcases List.mem_append.mp htext with htext | htext
    · exact isSkip_of_unreadable ((renames_sameShape s.rename).2 text htext)
    · exact isSkip_no (no_prefix_of_mem_emptyWarnings htext)
  · exact fun text htext => isSkip_no (no_prefix_of_mem_filterWarnings htext)

theorem exports_kept (hmodule : ∀ name ∈ r.moduleName, '\n' ∉ name.toList) :
    ClientModule.exportsOf (ClientModule.renderIndex (s.kept.map Service.client) r.moduleName) =
      ((s.kept.map Service.client).map ClientModule.exportLine).map String.toList := by
  apply ClientModule.exportsOf_renderIndex _ hmodule
  intro entry hentry
  obtain ⟨k, hk, rfl⟩ := List.mem_map.mp hentry
  have hdeclared := s.accounts.order.subset hk
  obtain ⟨content, importPath, hread⟩ := readFrom_of_mem_declaredServices hdeclared
  exact ClientModule.newline_not_mem_exportLine hread.name_word

end Steps

/-- Closed trees stay closed, so that what is said of one run holds of the next. -/
theorem fromModules_closed {here : Location} {r : Request} {schemaDir : Option Path}
    {res : GenerationResult} {w w' : Workspace} (hclosed : w.tree.Closed)
    (hapart : r.IsApart here)
    (hplaced : Path.up ∈ r.servicesDir.segments → r.IsPlaced here w.tree)
    (hstart : w.tree.get? (start here r.servicesDir) = some .directory)
    (hservices : ¬ r.servicesAt here <+: start here r.servicesDir)
    (htypes : ¬ r.typesAt here <+: start here r.servicesDir)
    (h : fromModules here r schemaDir w = .ok res w') : w'.tree.Closed := by
  obtain ⟨s⟩ := exists_steps h
  have hthere := ((renames_sameShape s.rename).1.directory_iff _).mpr hstart
  exact s.closed_final (s.closed_renamed hclosed) hapart
    (s.isPlaced_renamed hclosed hapart hplaced) hthere hservices htypes

/-- What a run says and leaves behind if some services were kept, some were repeated and
some rejected. -/
structure Leaves (here : Location) (r : Request) (services kept repeated rejected : List Service)
    (res : GenerationResult) (t : FileTree) : Prop where
  accounts : Accounts r [] services kept repeated rejected
  listed : res.services = kept.map Service.client
  told : res.warnings.filter isSkip = repeated.map repeatWarning
  clients : t.Holds (r.servicesAt here) (servicesFiles r kept)
  types : t.Holds (r.typesAt here) [(Output.indexName, TypesIndex.render res.typeFiles)]
  files_nodup : ((servicesFiles r kept).map Prod.fst).Nodup
  exports : (∀ name ∈ r.moduleName, '\n' ∉ name.toList) →
    ClientModule.exportsOf (ClientModule.renderIndex (kept.map Service.client) r.moduleName) =
      ((kept.map Service.client).map ClientModule.exportLine).map String.toList

/-- A module with two services whose clients have one name. -/
def twoNames : String :=
  "export const FooService: GenService<\x7b\n\x7d> = x\n" ++
    "export const Foo: GenService<\x7b\n\x7d> = x\n"

/-- The module, and a client of an earlier run. -/
def staleWorkspace : Workspace where
  tree :=
    { items := [(["gen"], .directory), (["gen", "a_pb.ts"], .file (Text.encode twoNames)),
        (["services"], .directory), (["services", "bar.client.ts"], .file [])]
      nodup := by decide }

def plainRequest : Request where
  generatedDir := ⟨"", ["gen"]⟩
  servicesDir := ⟨"", ["services"]⟩

/-- The path of this services directory runs through its types directory. -/
def throughTypes : Request where
  generatedDir := ⟨"", ["gen"]⟩
  servicesDir := ⟨"", ["x", "types", "..", "services"]⟩
  moduleName := some "m"

-- The first part of this path is made by the run itself, so what is there stays there.
example : (match fromModules [] ⟨⟨"", ["none"]⟩, ⟨"", ["missing", "..", "services"]⟩, none, none, none⟩
      none { tree := ⟨[(["services"], .directory), (["services", "old.ts"], .file [])], by decide⟩ } with
    | .ok _ w => w.tree.get? ["services", "old.ts"]
    | .error _ _ => none) = some (.file []) := by
  decide +kernel

-- This path runs through the services directory, and making it makes a directory in there.
example : (match fromModules [] ⟨⟨"", ["none"]⟩, ⟨"", ["a", "b", "..", "..", "a"]⟩, none, none, none⟩
      none { tree := {} } with
    | .ok _ w => w.tree.get? ["a", "b"]
    | .error _ _ => none) = some .directory := by
  decide +kernel

end ConnectClients.Generation
