import ConnectClients.Proofs.Discovery
import ConnectClients.Proofs.Generation.Contents
import ConnectClients.Proofs.Generation.Scope
import ConnectClients.Proofs.TypesIndex.IndexFile

/-!
# The modules that a run lists

The services are collected before the two directories are reset, and the modules are listed for
the types index afterwards. A run changes neither which modules there are nor which directories, so
that the index covers the modules that are there in the end. It covers every module that a client
was written for as well, unless the path of the modules runs through what is reset.
-/

namespace ConnectClients

open Runs
open FileTree (Kept isBelow isBelow_iff pathIsDirectory_iff)
open Location (along start resolve Through)

namespace TypesIndex

open Text

/-! ## The imports of an index -/

/-- The lines of a text that import a module. -/
def importLines (text : String) : List String := (textLines text).filter (isLed importLead)

theorem newline_not_mem_of_mem_importLines {line text : String} (h : line ∈ importLines text) :
    '\n' ∉ line.toList := by
  obtain ⟨piece, hpiece, rfl⟩ := List.mem_map.mp (List.mem_filter.mp h).1
  rw [String.toList_ofList]
  exact sep_not_mem_of_mem_splitOn hpiece

theorem importLines_render {paths : List String} (hpaths : ∀ path ∈ paths, '\n' ∉ path.toList)
    (hnodup : paths.Nodup) :
    importLines (render paths) = paths.map fun path =>
      "import * as " ++ importedAlias (group paths) path ++ " from '../generated/" ++ path ++ "'" := by
  by_cases hne : paths = []
  · subst hne
    rw [importLines, render, if_pos List.isEmpty_nil, textLines_unlines (by simp) (by decide)]
    decide
  · have hbindings := filter_indexLines paths
    rw [← textLines_render hne hpaths] at hbindings
    have hagain : importLines (render paths) =
        ((textLines (render paths)).filter isBinding).filter (isLed importLead) := by
      rw [importLines, List.filter_filter]
      refine List.filter_congr fun line _ => ?_
      rw [isBinding]
      cases isLed importLead line <;> simp
    have hexports : ((group paths).flatMap fun g => openLine g :: g.entries.map exportLine).filter
        (isLed importLead) = [] := by
      rw [List.filter_eq_nil_iff]
      intro line hline
      obtain ⟨g, -, hline⟩ := List.mem_flatMap.mp hline
      rcases List.mem_cons.mp hline with rfl | hline
      · rw [openLine, String.append_assoc, isLed_eq_false (by decide) (by decide)]
        exact Bool.false_ne_true
      · obtain ⟨e, -, rfl⟩ := List.mem_map.mp hline
        rw [exportLine_led, isLed_eq_false (by decide) (by decide)]
        exact Bool.false_ne_true
    have himports : (paths.map (importLine (group paths))).filter (isLed importLead) =
        paths.map (importLine (group paths)) := by
      rw [List.filter_eq_self, List.forall_mem_map]
      intro path _
      rw [importLine_led]
      exact isLed_append _ _
    rw [hagain, hbindings, List.filter_append, hexports, List.append_nil,
      Assoc.distinct_of_nodup hnodup, himports]
    have hfrom : " from '" ++ generatedDir ++ "/" = " from '../generated/" := by decide
    refine List.map_congr_left fun path _ => ?_
    rw [importLine_eq, ← hfrom]
    simp only [String.append_assoc]

end TypesIndex

namespace Generation

variable {here : Location} {r : Request} {schemaDir : Option Path} {res : GenerationResult}
  {w w' : Workspace}

/-- What is in a directory that is apart from the two directories is not in one of them. -/
theorem not_below_of_apart {dir : Location} (hapart : ∀ other ∈ [r.servicesAt here, r.typesAt here],
    ¬ other <+: dir ∧ ¬ dir <+: other) (m : List String) :
    ¬ isBelow (r.servicesAt here) (dir ++ m) = true ∧ ¬ isBelow (r.typesAt here) (dir ++ m) = true := by
  have hout : ∀ other ∈ [r.servicesAt here, r.typesAt here], ¬ isBelow other (dir ++ m) = true := by
    intro other hother hbelow
    exact Location.not_prefix_of_apart (hapart other hother) (List.prefix_append _ m)
      (isBelow_iff.mp hbelow).1
  exact ⟨hout _ (by simp), hout _ (by simp)⟩

/-- Without two dots, a path stays clear of a directory that is apart. -/
theorem not_below_of_through {p : Path} {top : Location} (hno : Path.up ∉ p.segments)
    (hapart : ¬ top <+: resolve here p) {l : Location} (hl : Through here p l) :
    ¬ isBelow top l = true := by
  intro hbelow
  have habove := FileTree.isBelow_of_through hno hl
  exact hapart ((isBelow_iff.mp hbelow).1.trans (isBelow_iff.mp habove).1)

namespace Steps

variable (s : Steps here r schemaDir w res w')

include s

/-! ## Modules from the first step to the last -/

/-- Until the types are listed, what is not in one of the two directories stays, and only
directories on the way to them are new. -/
theorem kept_servicesIndexed {l : Location} (hservices : ¬ isBelow (r.servicesAt here) l = true)
    (htypes : ¬ isBelow (r.typesAt here) l = true) :
    Kept (r.OnWays here) l (s.renamed.tree.get? l) (s.servicesIndexed.tree.get? l) := by
  have hfirst : Kept (r.OnWays here) l (s.renamed.tree.get? l) (s.servicesReset.get? l) :=
    (FileTree.Operation.resetDirectory_kept s.resetServices hservices).mono Or.inl
  have hsecond : Kept (r.OnWays here) l (s.servicesReset.get? l) (s.typesReset.get? l) :=
    (FileTree.Operation.resetDirectory_kept s.resetTypes htypes).mono Or.inr
  rw [s.servicesIndexed_eq, FileTree.get?_putFiles_of_not _ hservices]
  exact hfirst.trans hsecond

/-- After that, two files at most are written. -/
theorem get?_final (hapart : r.IsApart here) {l : Location}
    (hindex : l ≠ r.typesAt here ++ [Output.indexName])
    (htransport : l ≠ r.apiAt here ++ [Output.transportName]) :
    w'.tree.get? l = s.servicesIndexed.tree.get? l := by
  have htypes : s.typesIndexed.tree.get? l = s.servicesIndexed.tree.get? l := by
    rw [s.typesIndexed_eq]
    exact FileTree.get?_put_of_ne hindex _ _
  rw [s.final, ← htypes]
  rcases s.shared_eq hapart with ⟨-, heq⟩ | ⟨-, heq⟩
  · rw [heq]
  · rw [heq, FileTree.get?_put_of_ne htransport]

theorem directory_final_iff (hapart : r.IsApart here) (l : Location) :
    w'.tree.get? l = some .directory ↔ s.servicesIndexed.tree.get? l = some .directory := by
  rw [s.final, ← s.typesIndexed_directory_iff]
  rcases s.shared_eq hapart with ⟨-, heq⟩ | ⟨hno, heq⟩
  · rw [heq]
  · rw [heq]
    exact FileTree.directory_put_iff (by simp) (by simp [hno])

/-- The files that are listed before the last two are written are those that are there in the
end, given that neither of the two has a name of that kind. -/
theorem mem_listFiles_final_iff (hapart : r.IsApart here) {p : Path} {ending : String}
    (hending : ∀ name ∈ [Output.indexName, Output.transportName], ¬ ending.toList <:+ name.toList)
    {m : List String} : m ∈ w'.tree.listFiles here p ending ↔
      m ∈ s.servicesIndexed.tree.listFiles here p ending := by
  rw [FileTree.mem_listFiles_iff, FileTree.mem_listFiles_iff,
    FileTree.pathIsDirectory_eq_of_directories (s.directory_final_iff hapart)]
  refine and_congr_right fun _ => and_congr_right fun _ => and_congr_left fun hname => ?_
  obtain ⟨name, hlast, hsuffix⟩ := hname
  have hne : ∀ (dir : Location) (other : String), ¬ ending.toList <:+ other.toList →
      resolve here p ++ m ≠ dir ++ [other] := by
    rintro dir other hother heq
    have hsame := congrArg List.getLast? heq
    rw [List.getLast?_append, hlast, List.getLast?_concat, Option.some_or, Option.some.injEq] at hsame
    exact hother (hsame ▸ hsuffix)
  rw [s.get?_final hapart (hne _ _ (hending _ (by simp))) (hne _ _ (hending _ (by simp)))]

/-- The modules that are listed are those that are there in the end. -/
theorem mem_modules_final_iff (hapart : r.IsApart here) {m : List String} :
    m ∈ Discovery.modules w'.tree here r.generatedDir ↔
      m ∈ Discovery.modules s.servicesIndexed.tree here r.generatedDir :=
  s.mem_listFiles_final_iff hapart (by decide)

theorem index_final (hapart : r.IsApart here) :
    w'.tree.get? (r.typesAt here ++ [Output.indexName]) =
      some (.file (Text.encode (TypesIndex.render res.typeFiles))) := by
  have hwritten : s.typesIndexed.tree.get? (r.typesAt here ++ [Output.indexName]) =
      some (.file (Text.encode (TypesIndex.render res.typeFiles))) := by
    rw [s.typesIndexed_eq]
    exact FileTree.get?_put_self (by simp) _ _
  rw [s.final, ← hwritten]
  rcases s.shared_eq hapart with ⟨-, heq⟩ | ⟨-, heq⟩
  · rw [heq]
  · rw [heq, FileTree.get?_put_of_ne]
    intro hsame
    have hname : Output.indexName ≠ Output.transportName := by decide
    exact hname (List.append_inj_right' hsame rfl |> List.cons.inj |>.1)

section apart

variable {p : Path} {ending : String} {m : List String}
  (hapart : ∀ other ∈ [r.servicesAt here, r.typesAt here],
    ¬ other <+: resolve here p ∧ ¬ resolve here p <+: other)

include hapart

/-- Files that are listed were there once JSON names were taken over. -/
theorem file_of_listed (hm : m ∈ s.servicesIndexed.tree.listFiles here p ending) :
    ∃ octets, s.renamed.tree.get? (resolve here p ++ m) = some (.file octets) := by
  obtain ⟨-, -, ⟨octets, hfile⟩, -⟩ := FileTree.mem_listFiles_iff.mp hm
  obtain ⟨hservices, htypes⟩ := not_below_of_apart hapart m
  rcases s.kept_servicesIndexed hservices htypes with heq | ⟨-, hdir, -⟩
  · exact ⟨octets, heq ▸ hfile⟩
  · exact absurd (hfile.symm.trans hdir) (by simp)

/-- Files that were there then are listed, if the path to them does not run through what was
reset in between. -/
theorem mem_listFiles_servicesIndexed
    (hway : ∀ l, Through here p l →
      ¬ isBelow (r.servicesAt here) l = true ∧ ¬ isBelow (r.typesAt here) l = true)
    (hm : m ∈ s.renamed.tree.listFiles here p ending) :
    m ∈ s.servicesIndexed.tree.listFiles here p ending := by
  obtain ⟨hthere, hne, ⟨octets, hfile⟩, hname⟩ := FileTree.mem_listFiles_iff.mp hm
  obtain ⟨hpasses, hdir⟩ := pathIsDirectory_iff.mp hthere
  obtain ⟨hservices, htypes⟩ := not_below_of_apart hapart m
  refine FileTree.mem_listFiles_iff.mpr
    ⟨pathIsDirectory_iff.mpr ⟨?_, ?_⟩, hne, ⟨octets, ?_⟩, hname⟩
  · apply FileTree.passes_of_through hpasses
    intro l hl
    exact (s.kept_servicesIndexed (hway l hl).1 (hway l hl).2).directory (hpasses.directory hl)
  · have hself := not_below_of_apart hapart []
    rw [List.append_nil] at hself
    exact (s.kept_servicesIndexed hself.1 hself.2).directory hdir
  · rcases s.kept_servicesIndexed hservices htypes with heq | ⟨hnone, -, -⟩
    · exact heq.trans hfile
    · exact absurd (hfile.symm.trans hnone) (by simp)

end apart

end Steps

/-! ## What is listed in the end -/

/-- A path without suffix names a generated module of ours below a directory. -/
def IsTypeFile (t : FileTree) (here : Location) (dir : Path) (p : String) : Prop :=
  t.pathIsDirectory here dir = true ∧
    ∃ m octets, t.get? (resolve here dir ++ m) = some (.file octets) ∧
      Path.slashed m = p ++ ".ts" ∧ (∃ name ∈ m.getLast?, "_pb.ts".toList <:+ name.toList) ∧
      ∀ segment ∈ m.dropLast, segment ∉ Discovery.thirdPartyDirs

theorem mem_typeFiles_iff_isTypeFile {t : FileTree} {dir : Path} {p : String} :
    p ∈ Discovery.typeFiles t here dir ↔ IsTypeFile t here dir p := by
  rw [Discovery.mem_typeFiles_iff]
  constructor
  · rintro ⟨m, hm, hown, hp⟩
    obtain ⟨hdir, ⟨octets, hfile⟩, hname⟩ := Discovery.mem_modules_iff.mp hm
    exact ⟨hdir, m, octets, hfile, (Discovery.withoutSuffix_eq_iff hname).mp hp, hname,
      Discovery.isThirdParty_eq_false_iff.mp hown⟩
  · rintro ⟨hdir, m, octets, hfile, hp, hname, hown⟩
    exact ⟨m, Discovery.mem_modules_iff.mpr ⟨hdir, ⟨octets, hfile⟩, hname⟩,
      Discovery.isThirdParty_eq_false_iff.mpr hown, (Discovery.withoutSuffix_eq_iff hname).mpr hp⟩

/-- The type files of a run are the generated modules of ours, in strict order, and the index
imports each of them once. -/
structure ListsModules (here : Location) (r : Request) (t : FileTree) (typeFiles : List String) :
    Prop where
  increasing : typeFiles.Pairwise (· < ·)
  mem_iff : ∀ p, p ∈ typeFiles ↔ IsTypeFile t here r.generatedDir p
  index : t.get? (r.typesAt here ++ ["index.ts"]) =
    some (.file (Text.encode (TypesIndex.render typeFiles)))
  imports : (∀ p ∈ typeFiles, '\n' ∉ p.toList) →
    TypesIndex.importLines (TypesIndex.render typeFiles) = typeFiles.map fun p =>
      "import * as " ++ TypesIndex.importedAlias (TypesIndex.group typeFiles) p ++
        " from '../generated/" ++ p ++ "'"

/-- A run that succeeds lists the modules that are there, and every module that a client was
written for is among them, unless the path to the modules runs through one of the directories
that are reset after the services were collected. -/
theorem fromModules_listsModules (hapart : r.IsApart here)
    (hgenerated : ∀ other ∈ [r.servicesAt here, r.typesAt here],
      ¬ other <+: r.generatedAt here ∧ ¬ r.generatedAt here <+: other)
    (hnames : ∀ l, w.tree.get? l ≠ none → ∀ name ∈ l, '/' ∉ name.toList)
    (h : fromModules here r schemaDir w = .ok res w') :
    ListsModules here r w'.tree res.typeFiles ∧
      ((Path.up ∈ r.generatedDir.segments → ∀ l, Through here r.generatedDir l →
          ¬ isBelow (r.servicesAt here) l = true ∧ ¬ isBelow (r.typesAt here) l = true) →
        ∃ renamed w₁ kept repeated rejected, renames here r schemaDir w = .ok renamed w₁ ∧
          Accounts r [] (declaredServices w₁.tree here r.generatedDir) kept repeated rejected ∧
          res.services = kept.map Service.client ∧
          ∀ k ∈ kept, k.importPath ∈ res.typeFiles) := by
  obtain ⟨s⟩ := exists_steps h
  have hincreasing : res.typeFiles.Pairwise (· < ·) := by
    rw [s.typeFiles]
    apply Discovery.typeFiles_increasing
    intro m hm name hname
    obtain ⟨octets, hfile⟩ := s.file_of_listed hgenerated hm
    have hthere := (renames_sameShape s.rename).1.none_iff (r.generatedAt here ++ m)
    exact hnames _ (mt hthere.mpr (by simp [Request.generatedAt, hfile])) name
      (List.mem_append_right _ hname)
  refine ⟨⟨hincreasing, ?_, s.index_final hapart, fun hlines => ?_⟩, fun hdots => ?_⟩
  · intro p
    rw [← mem_typeFiles_iff_isTypeFile, s.typeFiles, Discovery.mem_typeFiles_iff,
      Discovery.mem_typeFiles_iff]
    simp only [s.mem_modules_final_iff hapart]
  · exact TypesIndex.importLines_render hlines (hincreasing.imp fun hlt => ne_of_lt hlt)
  · refine ⟨_, s.renamed, s.kept, s.repeated, s.rejected, s.rename, s.accounts, s.services, ?_⟩
    intro k hk
    have hway : ∀ l, Through here r.generatedDir l →
        ¬ isBelow (r.servicesAt here) l = true ∧ ¬ isBelow (r.typesAt here) l = true := by
      intro l hl
      by_cases hup : Path.up ∈ r.generatedDir.segments
      · exact hdots hup l hl
      · exact ⟨not_below_of_through hup (hgenerated _ (by simp)).1 hl,
          not_below_of_through hup (hgenerated _ (by simp)).1 hl⟩
    obtain ⟨m, hm, hown, himport⟩ := module_of_mem_declaredServices (s.accounts.order.subset hk)
    rw [s.typeFiles, Discovery.mem_typeFiles_iff]
    exact ⟨m, s.mem_listFiles_servicesIndexed hgenerated hway hm, hown, himport.symm⟩

/-- A module with one service. -/
def pingModule : String := "export const PingService: GenService<\x7b\n\x7d> = x\n"

/-- A module in a directory that has the name of a module. -/
def nestedWorkspace : Workspace where
  tree :=
    { items := [(["gen"], .directory), (["gen", "odd_pb.ts"], .directory),
        (["gen", "odd_pb.ts", "ping_pb.ts"], .file (Text.encode pingModule))]
      nodup := by decide }

def nestedRequest : Request where
  generatedDir := ⟨"", ["gen"]⟩
  servicesDir := ⟨"", ["api", "services"]⟩

theorem nested_listsModules : ∃ res w',
    fromModules [] nestedRequest none nestedWorkspace = .ok res w' ∧
      res.typeFiles = ["odd_pb.ts/ping_pb"] ∧
      ListsModules [] nestedRequest w'.tree res.typeFiles ∧
      ∃ k : Service, res.services = [k.client] ∧ k.importPath ∈ res.typeFiles := by
  obtain ⟨res, w', hrun, hcheck⟩ := exists_ok_of_meets
    (fun res _ => res.typeFiles == ["odd_pb.ts/ping_pb"] && res.services.length == 1)
    (fromModules [] nestedRequest none) nestedWorkspace (by decide +kernel)
  have hno : Path.up ∉ nestedRequest.generatedDir.segments := by decide
  rw [Bool.and_eq_true, beq_iff_eq, beq_iff_eq] at hcheck
  obtain ⟨hlists, hcovers⟩ := fromModules_listsModules ⟨by decide, by decide⟩ (by decide)
    (FileTree.forall_there_of_items (by decide) (by decide +kernel)) hrun
  obtain ⟨-, -, kept, -, -, -, -, hkept, hall⟩ := hcovers fun hup => absurd hup hno
  rw [hkept, List.length_map, List.length_eq_one_iff] at hcheck
  obtain ⟨k, rfl⟩ := hcheck.2
  exact ⟨res, w', hrun, hcheck.1, hlists, k, hkept, hall k List.mem_cons_self⟩

/-- The path to these modules runs through a directory that the run takes away. -/
def throughServices : Request where
  generatedDir := ⟨"", ["api", "services", "sub", "..", "..", "..", "gen"]⟩
  servicesDir := ⟨"", ["keep", "..", "api", "services"]⟩

def throughWorkspace : Workspace where
  tree :=
    { items := [(["keep"], .directory), (["api"], .directory), (["api", "services"], .directory),
        (["api", "services", "sub"], .directory), (["gen"], .directory),
        (["gen", "ping_pb.ts"], .file (Text.encode pingModule))]
      nodup := by decide }

/-- A module whose name takes two lines. -/
def brokenWorkspace : Workspace where
  tree :=
    { items := [(["gen"], .directory), (["gen", "a\nb_pb.ts"], .file [])]
      nodup := by decide }

/-- That the directories are apart is not enough: here a client is written, but the modules are
not found any more when they are listed. And a path with a newline in it is on no line of the
index. -/
theorem throughServices_not_listsModules :
    (throughServices.IsApart [] ∧
      (∀ other ∈ [throughServices.servicesAt [], throughServices.typesAt []],
        ¬ other <+: throughServices.generatedAt [] ∧
          ¬ throughServices.generatedAt [] <+: other) ∧
      throughWorkspace.tree.Closed ∧
      (∀ l, throughWorkspace.tree.get? l ≠ none → ∀ name ∈ l, '/' ∉ name.toList) ∧
      ∃ res w', fromModules [] throughServices none throughWorkspace = .ok res w' ∧
        res.services.length = 1 ∧ res.typeFiles = []) ∧
      ∃ res w', fromModules [] ⟨⟨"", ["gen"]⟩, ⟨"", ["services"]⟩, none, none, none⟩ none
          brokenWorkspace = .ok res w' ∧ res.typeFiles = ["a\nb_pb"] ∧
        ∀ line ∈ TypesIndex.importLines (TypesIndex.render res.typeFiles),
          ¬ "'../generated/a\nb_pb'".toList <:+ line.toList := by
  obtain ⟨res, w', hrun, hcheck⟩ := exists_ok_of_meets
    (fun res _ => res.services.length == 1 && res.typeFiles == [])
    (fromModules [] throughServices none) throughWorkspace (by decide +kernel)
  rw [Bool.and_eq_true, beq_iff_eq, beq_iff_eq] at hcheck
  obtain ⟨res', w'', hrun', hcheck'⟩ := exists_ok_of_meets
    (fun res _ => res.typeFiles == ["a\nb_pb"])
    (fromModules [] ⟨⟨"", ["gen"]⟩, ⟨"", ["services"]⟩, none, none, none⟩ none) brokenWorkspace
    (by decide +kernel)
  have hbroken := eq_of_beq hcheck'
  refine ⟨⟨⟨by decide, by decide⟩, by decide, FileTree.closed_of_items (by decide),
    FileTree.forall_there_of_items (by decide) (by decide +kernel), res, w', hrun, hcheck⟩,
    res', w'', hrun', hbroken, ?_⟩
  intro line hline hsuffix
  exact TypesIndex.newline_not_mem_of_mem_importLines hline (hsuffix.mem (by decide))

end Generation

end ConnectClients
