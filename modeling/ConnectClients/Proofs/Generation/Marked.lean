import ConnectClients.Proofs.Discovery
import ConnectClients.Proofs.Files.Alike
import ConnectClients.Proofs.Generation.Renames
import ConnectClients.Proofs.Generation.Services
import ConnectClients.Proofs.Service.Declarations

/-!
# The mark of a service

Modules are read twice: once to see which have the mark of a service, and those that have it once
more for their services. A text without the mark declares no service, so the first reading loses
none, and what it has read the second one can read too. What is collected is what the texts of all
modules of ours declare.
-/

namespace ConnectClients

open Location (along resolve start)

namespace Text

theorem isInfix_iff {needle cs : List Char} : isInfix needle cs = true ↔ needle <:+: cs := by
  induction cs with
  | nil => rw [isInfix, List.isEmpty_iff, List.infix_nil]
  | cons c cs ih =>
      rw [isInfix, Bool.or_eq_true, ih, List.isPrefixOf_iff_prefix, List.infix_cons_iff]

end Text

namespace Service

theorem isMarked_iff {content : String} :
    isMarked content = true ↔ marker.toList <:+: content.toList :=
  Text.isInfix_iff

/-- A text without the mark declares no service. -/
theorem ofModule_of_unmarked {content : String} (h : ¬ marker.toList <:+: content.toList)
    (importPath : String) : ofModule content importPath = [] := by
  rw [ofModule, scanAll_readDeclaration_eq_nil h, List.map_nil]

end Service

namespace FileTree

variable {t : FileTree} {here : Location} {dir p : Path} {ending : String} {m : List String}
  {octets : List UInt8}

/-- No name is too long. -/
def Short (t : FileTree) : Prop :=
  ∀ l, t.get? l ≠ none → ∀ name ∈ l, name.utf8ByteSize ≤ nameLimit

theorem short_of_items (h : ∀ e ∈ t.items, ∀ name ∈ e.1, name.utf8ByteSize ≤ nameLimit) :
    Short t :=
  forall_there_of_items (fun _ hname => absurd hname List.not_mem_nil) h

/-- Names lead to whatever is there. -/
theorem Closed.passes (hclosed : t.Closed) {l : Location} (hthere : t.get? (l ++ m) ≠ none)
    (hup : Path.up ∉ m) (hshort : ∀ name ∈ m, name.utf8ByteSize ≤ nameLimit) : t.Passes l m := by
  induction m generalizing l with
  | nil => trivial
  | cons name rest ih =>
      rw [List.mem_cons, not_or] at hup
      have hdir : t.get? l = some .directory :=
        hclosed.directory_above (isBelow_append (List.cons_ne_nil name rest)) hthere
      refine ⟨hdir, Or.inr (hshort name List.mem_cons_self), ?_⟩
      rw [Location.along_name l (Ne.symm hup.1)]
      apply ih
      · rwa [List.append_assoc, List.singleton_append]
      · exact hup.2
      · exact fun other hother => hshort other (List.mem_cons_of_mem _ hother)

/-- The text of a file with these octets, with newlines for all its line ends. -/
def textOf (octets : List UInt8) : Except Text.Utf8Fault String :=
  (Text.decode octets).map fun text => String.ofList (Text.unifyNewlines text.toList)

/-- Where a path leads to a file, its text is read. -/
theorem readText_eq_ok_iff {content : String} : t.readText here p = .ok content ↔
    t.Passes (start here p) p.segments ∧
      ∃ octets, t.get? (resolve here p) = some (.file octets) ∧ textOf octets = .ok content := by
  have hread : ∀ {octets}, t.Passes (start here p) p.segments →
      t.get? (resolve here p) = some (.file octets) →
        (t.readText here p = .ok content ↔ textOf octets = .ok content) := by
    intro octets hpasses hfile
    rw [readText, readOctets, locate_eq_ok_iff.mpr ⟨hpasses, rfl⟩, textOf]
    dsimp only [bind, Except.bind]
    rw [hfile]
    dsimp only [pure, Except.pure]
    cases Text.decode octets <;> simp [Except.map]
  constructor
  · intro h
    obtain ⟨hpasses, octets, hfile⟩ := readText_of_ok h
    exact ⟨hpasses, octets, hfile, (hread hpasses hfile).mp h⟩
  · rintro ⟨hpasses, octets, hfile, htext⟩
    exact (hread hpasses hfile).mpr htext

/-- A listed file is read if its octets are a text. -/
theorem readText_listed_iff (hclosed : t.Closed) (hnamed : t.Named) (hshort : t.Short)
    (hm : m ∈ t.listFiles here dir ending) {content : String} :
    t.readText here (dir.below m) = .ok content ↔
      ∃ octets, t.get? (resolve here dir ++ m) = some (.file octets) ∧
        textOf octets = .ok content := by
  obtain ⟨hdir, -, ⟨octets, hfile⟩, -⟩ := mem_listFiles_iff.mp hm
  have hup := hnamed.up_not_mem_of_listed hm
  have hthere : t.get? (resolve here dir ++ m) ≠ none := by simp [hfile]
  have hnames : ∀ name ∈ m, name.utf8ByteSize ≤ nameLimit :=
    fun name hname => hshort _ hthere name (List.mem_append_right _ hname)
  have hpasses : t.Passes (start here (dir.below m)) (dir.below m).segments :=
    passes_append.mpr ⟨(pathIsDirectory_iff.mp hdir).1, hclosed.passes hthere hup hnames⟩
  rw [readText_eq_ok_iff, resolve_below hup, and_iff_right hpasses]

end FileTree

namespace Generation

variable {t : FileTree} {here : Location} {dir : Path} {m : List String} {content : String}

/-- The modules of ours that can be read, each with its text. -/
def ownTexts (t : FileTree) (here : Location) (dir : Path) : List (List String × String) :=
  (Discovery.modules t here dir).filterMap fun m =>
    if Discovery.isThirdParty m then none
    else (t.readText here (dir.below m)).toOption.map fun content => (m, content)

/-- What is kept of a module: nothing of one of others, or of one that cannot be read. -/
theorem ownText_eq_some_iff {e : List String × String} :
    (if Discovery.isThirdParty m then none
      else (t.readText here (dir.below m)).toOption.map fun content => (m, content)) = some e ↔
      Discovery.isThirdParty m = false ∧ e.1 = m ∧ t.readText here (dir.below m) = .ok e.2 := by
  rw [Option.ite_none_left_eq_some, Bool.not_eq_true]
  refine and_congr_right fun _ => ?_
  cases t.readText here (dir.below m) with
  | error fault => simp [Except.toOption]
  | ok found =>
      simp only [Except.toOption, Option.map_some, Option.some.injEq, Except.ok.injEq]
      exact Prod.ext_iff.trans (and_congr_left' eq_comm)

theorem mem_ownTexts_iff : (m, content) ∈ ownTexts t here dir ↔
    m ∈ Discovery.modules t here dir ∧ Discovery.isThirdParty m = false ∧
      t.readText here (dir.below m) = .ok content := by
  simp only [ownTexts, List.mem_filterMap, ownText_eq_some_iff]
  constructor
  · rintro ⟨m, hm, hown, rfl, hread⟩
    exact ⟨hm, hown, hread⟩
  · rintro ⟨hm, hown, hread⟩
    exact ⟨m, hm, hown, rfl, hread⟩

/-- The texts come in the order of the paths. -/
theorem ownTexts_pairwise (t : FileTree) (here : Location) (dir : Path) :
    (ownTexts t here dir).Pairwise fun first second =>
      Text.wordsLE first.1 second.1 = true ∧ first.1 ≠ second.1 := by
  obtain ⟨hnodup, hsorted⟩ := FileTree.listFiles_sorted t here dir Discovery.moduleEnding
  refine List.pairwise_filterMap.mpr ((hsorted.and hnodup).imp ?_)
  intro m m' hle e he e' he'
  obtain ⟨-, rfl, -⟩ := ownText_eq_some_iff.mp he
  obtain ⟨-, rfl, -⟩ := ownText_eq_some_iff.mp he'
  exact hle

/-- The test for the mark makes no difference to the services of a module. -/
theorem servicesIn_eq (t : FileTree) (here : Location) (dir : Path) (m : List String) :
    servicesIn t here dir m =
      if Discovery.isThirdParty m then []
      else match t.readText here (dir.below m) with
        | .ok content => Service.ofModule content (Discovery.withoutSuffix m)
        | .error _ => [] := by
  rw [servicesIn]
  cases t.readText here (dir.below m) with
  | error fault => simp
  | ok content =>
      cases hthird : Discovery.isThirdParty m with
      | true => simp
      | false =>
          by_cases hmark : Service.isMarked content = true
          · simp [hmark]
          · have hnone := Service.ofModule_of_unmarked
              (fun hin => hmark (Service.isMarked_iff.mpr hin)) (Discovery.withoutSuffix m)
            simp [hmark, hnone]

theorem declaredServices_eq (t : FileTree) (here : Location) (dir : Path) :
    declaredServices t here dir = (ownTexts t here dir).flatMap fun (m, content) =>
      Service.ofModule content (Discovery.withoutSuffix m) := by
  rw [declaredServices, ownTexts, List.flatMap_def, List.flatMap_def]
  generalize Discovery.modules t here dir = ms
  induction ms with
  | nil => rfl
  | cons m rest ih =>
      rw [List.map_cons, List.flatten_cons, ih, servicesIn_eq, List.filterMap_cons]
      cases Discovery.isThirdParty m with
      | true => rfl
      | false => cases t.readText here (dir.below m) <;> rfl

/-- **Looking for the mark first loses no service.** A text without the mark declares no service,
whatever its path. Collecting services from a directory gives what the texts of all modules of ours
declare, one after the other in the order of their paths, tells of no module that could not be
read, and changes no file. The texts are those of the modules below the directory, outside of
directories with modules of others, whose octets are text. -/
theorem collectServices_eq_ownTexts (here : Location) (dir : Path) (w : Workspace) :
    (∀ content importPath, ¬ Service.marker.toList <:+: content.toList →
      Service.ofModule content importPath = []) ∧
    (∃ w', collectServices here dir w =
        .ok ((ownTexts w.tree here dir).flatMap fun (m, content) =>
          Service.ofModule content (Discovery.withoutSuffix m), []) w' ∧ w'.tree = w.tree) ∧
    ((ownTexts w.tree here dir).Pairwise fun first second =>
      Text.wordsLE first.1 second.1 = true ∧ first.1 ≠ second.1) ∧
    (w.tree.Closed → w.tree.Named → w.tree.Short →
      ∀ m content, (m, content) ∈ ownTexts w.tree here dir ↔
        w.tree.pathIsDirectory here dir = true ∧
          (∃ name ∈ m.getLast?, Discovery.moduleEnding.toList <:+ name.toList) ∧
          (∀ part ∈ m.dropLast, part ∉ Discovery.thirdPartyDirs) ∧
          ∃ octets, w.tree.get? (resolve here dir ++ m) = some (.file octets) ∧
            FileTree.textOf octets = .ok content) := by
  refine ⟨fun content importPath h => Service.ofModule_of_unmarked h importPath, ?_,
    ownTexts_pairwise w.tree here dir, fun hclosed hnamed hshort m content => ?_⟩
  · rw [← declaredServices_eq]
    exact exists_collectServices here dir w
  · rw [mem_ownTexts_iff, Discovery.isThirdParty_eq_false_iff]
    constructor
    · rintro ⟨hm, hown, hread⟩
      obtain ⟨hdir, -, hname⟩ := Discovery.mem_modules_iff.mp hm
      have hfile := (FileTree.readText_listed_iff hclosed hnamed hshort hm).mp hread
      exact ⟨hdir, hname, hown, hfile⟩
    · rintro ⟨hdir, hname, hown, octets, hfile, htext⟩
      have hm := Discovery.mem_modules_iff.mpr ⟨hdir, ⟨octets, hfile⟩, hname⟩
      have hread := (FileTree.readText_listed_iff hclosed hnamed hshort hm).mpr
        ⟨octets, hfile, htext⟩
      exact ⟨hm, hown, hread⟩

/-- Modules that declare a service, that have its mark without one, and that have no mark, one that
is no text, and one of others. -/
def mixedWorkspace : Workspace where
  tree :=
    { items := [(["gen"], .directory), (["gen", "a_pb.ts"], .file [0xff]),
        (["gen", "b_pb.ts"],
          .file (Text.encode "export const PingService: GenService<\x7b\x7d> = 0;\r\n")),
        (["gen", "c_pb.ts"], .file (Text.encode "// GenService<\x7b\n")),
        (["gen", "d_pb.ts"], .file (Text.encode "export const PingService = 0;\n")),
        (["gen", "google"], .directory),
        (["gen", "google", "e_pb.ts"],
          .file (Text.encode "export const TimeService: GenService<\x7b\x7d> = 0;\n"))]
      nodup := by decide }

def pingService : Service := ⟨"PingService", "b_pb", [], []⟩

/-- One service is collected, from the module that declares it, and the one that is no text is
passed over. -/
theorem mixedWorkspace_collects :
    (∃ w', collectServices [] ⟨"", ["gen"]⟩ mixedWorkspace = .ok ([pingService], []) w') ∧
      Service.ofModule "export const PingService = 0;\n" "d_pb" = [] ∧
      ∀ content, (["a_pb.ts"], content) ∉ ownTexts mixedWorkspace.tree [] ⟨"", ["gen"]⟩ := by
  obtain ⟨hunmarked, ⟨w', hcollect, -⟩, -, hmem⟩ :=
    collectServices_eq_ownTexts [] ⟨"", ["gen"]⟩ mixedWorkspace
  have hclosed : mixedWorkspace.tree.Closed := FileTree.closed_of_items (by decide)
  have hnamed : mixedWorkspace.tree.Named := FileTree.named_of_items (by decide)
  have hshort : mixedWorkspace.tree.Short := FileTree.short_of_items (by decide)
  have hmodules : Discovery.modules mixedWorkspace.tree [] ⟨"", ["gen"]⟩ =
      [["a_pb.ts"], ["b_pb.ts"], ["c_pb.ts"], ["d_pb.ts"], ["google", "e_pb.ts"]] := by
    have hlocate : mixedWorkspace.tree.locate [] ⟨"", ["gen"]⟩ = .ok ["gen"] := by decide
    exact FileTree.listFiles_of_sorted hlocate (by decide) (by decide +kernel) (by decide +kernel)
  have hservices : ((ownTexts mixedWorkspace.tree [] ⟨"", ["gen"]⟩).flatMap fun (m, content) =>
      Service.ofModule content (Discovery.withoutSuffix m)) = [pingService] := by
    rw [ownTexts, hmodules]
    decide +kernel
  rw [hservices] at hcollect
  refine ⟨⟨w', hcollect⟩, hunmarked _ _ (by decide +kernel), fun content => ?_⟩
  rw [hmem hclosed hnamed hshort]
  rintro ⟨-, -, -, octets, hfile, htext⟩
  cases hfile
  cases htext

end Generation

end ConnectClients
