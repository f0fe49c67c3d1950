import ConnectClients.Proofs.Generation.FailedBuf
import ConnectClients.Proofs.Quiet
import ConnectClients.Proofs.RelativePaths

/-!
# What buf is called with

buf is told where its template is, and the template tells it where the modules belong. Both are
texts of paths that are meant from where the run is, while buf runs in a directory of its own and
follows them from there. So an absolute path is found, and a relative one only if the two
directories agree as far up as it leads.
-/

namespace ConnectClients

open Runs
open FileTree (LeadsTo isBelow)
open Location (resolve)

namespace BufRun

/-- The call of a run. -/
def call (template dir : Path) (executable : String) (held : Option (List UInt8)) : BufCall :=
  ⟨[executable, "generate", "--template", template.toString], dir, held⟩

/-- However a run ends, it has made its call. -/
theorem run_calls (here : Location) (outcome : BufOutcome) (template dir : Path)
    (executable : String) (w : Workspace) : ∃ held,
      Ends (run here outcome template dir executable) w
        (fun w' => w'.calls = w.calls ++ [call template dir executable held])
        fun _ w' => w'.calls = w.calls ++ [call template dir executable held] := by
  refine ⟨(w.tree.readOctets here template).toOption, ?_⟩
  exact (run_leaves here outcome template dir executable w).mono (fun _ h => h.2) fun _ _ h => h.2

end BufRun

theorem IsQuiet.keeps_calls {α : Type} {x : Action α} (h : IsQuiet x) (calls : List BufCall) :
    Keeps (fun w => w.calls = calls) x :=
  fun w hw => (h w).mono (fun _ hquiet => hquiet.calls.trans hw) fun _ _ hquiet =>
    hquiet.calls.trans hw

namespace Generation

variable {here : Location} {r : Request} {b : BufRequest}

/-- A run that gets as far calls buf once, and nothing else. -/
theorem fromSchemas_calls (outcome : BufOutcome) {schemaDir : Path} {w w₁ w₂ : Workspace}
    {text : String} {u : Unit}
    (hwrite : writeTemplate here schemaDir r.generatedDir.toString (templatePath here b) b.modules
      b.goPrefix w = .ok text w₁)
    (hreset : Output.reset here r.generatedDir w₁ = .ok u w₂) : ∃ held,
      Ends (fromSchemas here outcome r schemaDir b) w
        (fun w' => w'.calls = w.calls ++
          [BufRun.call (templatePath here b) (workingDir here b) b.executable held])
        fun _ w' => w'.calls = w.calls ++
          [BufRun.call (templatePath here b) (workingDir here b) b.executable held] := by
  have hwritten : w₁.calls = w.calls := ((writeTemplate_quiet here _ _ _ _ _ w).of_ok hwrite).calls
  have hbefore : w₂.calls = w.calls :=
    (((Output.reset_quiet here _ w₁).of_ok hreset).calls).trans hwritten
  obtain ⟨held, hrun⟩ := BufRun.run_calls here outcome (templatePath here b) (workingDir here b)
    b.executable w₂
  rw [hbefore] at hrun
  refine ⟨held, ?_⟩
  -- the one call is made by now, and all that comes after it is quiet
  generalize w.calls ++ [BufRun.call (templatePath here b) (workingDir here b) b.executable held] =
    calls at hrun ⊢
  have hremove : Keeps (fun w => w.calls = calls)
      (Action.operate .os (FileTree.Operation.removeFile here (templatePath here b))) :=
    IsQuiet.keeps_calls (.operate _ _) calls
  rw [fromSchemas]
  apply ends_bind_of_ok hwrite
  refine Ends.bind (Ends.tryCatch (?_ : Ends _ w₁ (fun w' => w'.calls = calls)
    fun _ w' => w'.calls = calls) ?_) ?_
  · exact ends_bind_of_ok hreset (hrun.bind fun _ w₃ hcalls => ends_pure hcalls)
  · intro failure w₃ hcalls
    exact (hremove w₃ hcalls).bind fun _ w₄ hcalls => ends_throw hcalls
  · intro _ w₃ hcalls
    apply (hremove w₃ hcalls).bind
    exact fun _ w₄ => (fromModules_quiet here r (some schemaDir)).keeps_calls calls w₄

/-- The template is where its path leads. -/
theorem get?_templateAt {schemaDir : Path} {outputDir text : String} {modules : List String}
    {goPrefix : Option String} {w w₁ : Workspace}
    (h : writeTemplate here schemaDir outputDir (templatePath here b) modules goPrefix w =
      .ok text w₁) :
    w₁.tree.get? (templateAt here b) = some (.file (Text.encode text)) := by
  obtain ⟨w', u, -, hwrite, -⟩ := writeText_of_writeTemplate h
  obtain ⟨t, -, -, -, -, htree⟩ := writeText_of_ok hwrite
  rw [htree]
  exact FileTree.get?_put_self templateAt_ne_nil _ t

/-- **Where buf finds what it is told.** However the run ends, buf is called once. From the directory
that it runs in, the path of the template leads to the template exactly if the path of that
directory is absolute, or leads as far up as down, or at least as far and up to the root. The
directory that the only plugin writes to is the one that was emptied exactly if its path is absolute,
or if the two directories agree as far up as it leads. -/
theorem fromSchemas_call (outcome : BufOutcome) {schemaDir : Path} {w w₁ w₂ : Workspace}
    {text : String} {u : Unit} (hdir : (workingDir here b).IsTidy) (hout : r.generatedDir.IsTidy)
    (hwrite : writeTemplate here schemaDir r.generatedDir.toString (templatePath here b) b.modules
      b.goPrefix w = .ok text w₁)
    (hreset : Output.reset here r.generatedDir w₁ = .ok u w₂) :
    ∃ (call : BufCall) (file : String) (template : GenTemplate) (plugin : Plugin),
      Ends (fromSchemas here outcome r schemaDir b) w (fun w' => w'.calls = w.calls ++ [call])
        (fun _ w' => w'.calls = w.calls ++ [call]) ∧
      call.command = [b.executable, "generate", "--template", file] ∧
      call.directory = workingDir here b ∧
      w₁.tree.get? (templateAt here b) = some (.file (Text.encode template.render)) ∧
      template.plugins = some [plugin] ∧
      (LeadsTo here r.generatedDir w₁.tree →
        ∀ l, isBelow (r.generatedAt here) l = true → w₂.tree.get? l = none) ∧
      (resolve (resolve here call.directory) (Path.ofString file) = templateAt here b ↔
        (workingDir here b).root ≠ "" ∨
        (workingDir here b).bearing.down.length = (workingDir here b).bearing.up ∨
        (workingDir here b).bearing.down.length ≤ (workingDir here b).bearing.up ∧
          here.length ≤ (workingDir here b).bearing.up) ∧
      (resolve (resolve here call.directory) (Path.ofString plugin.out) = r.generatedAt here ↔
        r.generatedDir.root ≠ "" ∨
        (resolve here call.directory).rdrop r.generatedDir.bearing.up =
          here.rdrop r.generatedDir.bearing.up) := by
  obtain ⟨held, hcalls⟩ := fromSchemas_calls outcome hwrite hreset
  obtain ⟨-, -, -, -, inputDir, deps, rfl⟩ := writeText_of_writeTemplate hwrite
  refine ⟨_, _, _, _, hcalls, rfl, rfl, get?_templateAt hwrite, rfl, ?_, ?_, ?_⟩
  · intro hleads l hbelow
    obtain ⟨t, hoperate, rfl⟩ := Action.operate_eq_ok_iff.mp hreset
    exact FileTree.Operation.resetDirectory_emptied hoperate hleads hbelow
  · -- the name of the template is the last one both times, and the way to it is followed twice
    have htidy : (templatePath here b).IsTidy := hdir.child isName_temporaryName
    rw [htidy.ofString_toString, templateAt_eq, templatePath,
      Location.resolve_child _ _ isName_temporaryName, List.append_left_inj]
    exact Location.resolve_again_iff
  · rw [hout.ofString_toString]
    exact Location.resolve_eq_resolve_iff

/-- Of two relative paths, buf finds neither in a directory below. -/
theorem beside_call_astray : ∃ res w' call file template plugin,
    fromSchemas [] (.ended 0 "" "" []) plainRequest ⟨"", ["protos"]⟩ besideRequest schemaWorkspace =
        .ok res w' ∧
      w'.calls = [call] ∧ call.command = ["buf", "generate", "--template", file] ∧
      call.directory = ⟨"", ["wd"]⟩ ∧
      resolve (resolve [] call.directory) (Path.ofString file) ≠ ["wd", temporaryName] ∧
      GenTemplate.plugins template = some [plugin] ∧
      resolve (resolve [] call.directory) (Path.ofString plugin.out) ≠ ["gen"] := by
  obtain ⟨u, w₂, hprepared, -⟩ := exists_ok_of_meets (fun _ _ => true)
    (writeTemplate [] ⟨"", ["protos"]⟩ plainRequest.generatedDir.toString
      (templatePath [] besideRequest) besideRequest.modules besideRequest.goPrefix >>= fun _ =>
        Output.reset [] plainRequest.generatedDir) schemaWorkspace (by decide +kernel)
  obtain ⟨text, w₁, hwrite, hreset⟩ := bind_eq_ok_iff.mp hprepared
  have hdir : (workingDir [] besideRequest).IsTidy := ⟨Or.inl rfl, by decide, by decide⟩
  have hout : plainRequest.generatedDir.IsTidy := ⟨Or.inl rfl, by decide, by decide⟩
  obtain ⟨call, file, template, plugin, hcalls, hcommand, hdirectory, -, hplugins, -, htemplate,
    hgenerated⟩ := fromSchemas_call (.ended 0 "" "" []) hdir hout hwrite hreset
  obtain ⟨res, w', hrun, -⟩ := exists_ok_of_meets (fun _ _ => true)
    (fromSchemas [] (.ended 0 "" "" []) plainRequest ⟨"", ["protos"]⟩ besideRequest)
    schemaWorkspace (by decide +kernel)
  refine ⟨res, w', call, file, template, plugin, hrun, hcalls.of_ok hrun, hcommand, hdirectory,
    mt htemplate.mp (by decide), hplugins, mt hgenerated.mp ?_⟩
  rw [hdirectory]
  decide

end Generation

end ConnectClients
