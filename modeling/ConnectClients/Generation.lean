import ConnectClients.BufModule
import ConnectClients.BufRun
import ConnectClients.Discovery
import ConnectClients.FieldRename
import ConnectClients.GenTemplate.Printer
import ConnectClients.Output
import ConnectClients.ServiceFilter
import ConnectClients.TypesIndex

/-!
# Generating clients

`fromModules` writes the clients of all services that generated modules declare, the index of the
clients and the index of the types. `fromSchemas` first has buf generate the modules.
-/

namespace ConnectClients

/-- What to generate. -/
structure Request where
  generatedDir : Path
  servicesDir : Path
  moduleName : Option String := none
  include? : Option (List String) := none
  exclude? : Option (List String) := none

structure GenerationResult where
  servicesDir : Path
  typesDir : Path
  services : List ClientEntry
  typeFiles : List String
  renamedFiles : List String
  warnings : List String

namespace Generation

/-- The types index stands beside the clients. -/
def typesDir (servicesDir : Path) : Path := servicesDir.parent.child "types"

/-- Where the shared module belongs: beside the clients, or beside the module they are part of. -/
def apiDir (servicesDir : Path) (moduleName : Option String) : Path :=
  if ClientModule.isNested moduleName then servicesDir.parent.parent else servicesDir.parent

/-! ## JSON names -/

/-- The JSON names that all schemas below a directory declare, and warnings about those that cannot
be read. -/
def declaredNames (here : Location) (schemaDir : Path) :
    Action (List (String × String) × List String) := do
  let t ← Action.tree
  return (Discovery.schemas t here schemaDir).foldl (fun (names, warnings) m =>
    let path := schemaDir.below m
    match t.readText here path with
    | .ok source => (Assoc.putAll names (FieldRename.ofSchema source), warnings)
    | .error fault =>
      (names, warnings ++ ["Could not read proto file " ++ path.toString ++ ": " ++ fault.message]))
    ([], [])

/-- Renames the declarations in one module, and gives the path of the module if there were any. -/
def renameIn (here : Location) (dir : Path) (names : List (String × String)) (m : List String) :
    Action (List String × List String) := do
  let path := dir.below m
  match (← Action.tree).readText here path with
  | .error fault =>
    return ([], ["Could not read generated module " ++ path.toString ++ ": " ++ fault.message])
  | .ok content =>
    let (renamed, modified) ←
      Action.ofExcept .replacement (FieldRename.apply names content)
    if !modified then return ([], [])
    Output.writeText here path renamed
    return ([Path.slashed m], [])

/-- Renames declarations in modules one after the other. -/
def renameAll (here : Location) (dir : Path) (names : List (String × String)) :
    List (List String) → Action (List String × List String)
  | [] => return ([], [])
  | m :: rest => do
    let (paths, warnings) ← renameIn here dir names m
    let (morePaths, moreWarnings) ← renameAll here dir names rest
    return (paths ++ morePaths, warnings ++ moreWarnings)

/-- Gives fields of generated modules the JSON names that schemas declare. The result lists the
modules that were changed, and warnings. -/
def applyJsonNames (here : Location) (schemaDir dir : Path) : Action (List String × List String) := do
  let (names, warnings) ← declaredNames here schemaDir
  if names.isEmpty then return ([], warnings)
  let t ← Action.tree
  let (paths, more) ← renameAll here dir names (Discovery.modules t here dir)
  return (paths, warnings ++ more)

/-- Takes JSON names from the schemas, if a directory with schemas is given. -/
def renames (here : Location) (r : Request) (schemaDir : Option Path) :
    Action (List String × List String) :=
  match schemaDir with
  | some dir => applyJsonNames here dir r.generatedDir
  | none => return ([], [])

/-! ## Services -/

/-- The services that generated modules declare, module by module. -/
def collectServices (here : Location) (dir : Path) : Action (List Service × List String) := do
  let files ← Discovery.serviceFiles here dir
  let t ← Action.tree
  return (files.filter fun m => !Discovery.isThirdParty m).foldl (fun (services, warnings) m =>
    let path := dir.below m
    match t.readText here path with
    | .ok content => (services ++ Service.ofModule content (Discovery.withoutSuffix m), warnings)
    | .error fault =>
      (services, warnings ++ ["Could not parse " ++ path.toString ++ ": " ++ fault.message]))
    ([], [])

/-- Writes the clients of services one after the other. A service that the lists keep out gets no
client, and neither does one whose client has the name of a client that was written before. -/
def writeClients (here : Location) (r : Request) :
    List Service → List ClientEntry → List String → Action (List ClientEntry × List String)
  | [], written, warnings => return (written, warnings)
  | s :: rest, written, warnings => do
    if !(← Action.ofExcept .pattern
        (ServiceFilter.generates s.serviceName r.include? r.exclude?)) then
      Action.record (.info ("Skipped service " ++ s.serviceName ++ " (filtered)"))
      writeClients here r rest written warnings
    else
      let entry := ClientEntry.ofService s.serviceName
      if written.any fun e => e.camelName == entry.camelName then
        writeClients here r rest written
          (warnings ++ ["Skipped " ++ s.serviceName ++ ": client name " ++ entry.camelName ++
            " already generated"])
      else
        let _ ← Output.writeClient here r.servicesDir entry
          (ClientModule.render entry.name s r.moduleName)
        writeClients here r rest (written ++ [entry]) warnings

/-! ## Runs -/

/-- Generates from modules that are there. JSON names are taken from the schemas, if a directory
with schemas is given. -/
def fromModules (here : Location) (r : Request) (schemaDir : Option Path) :
    Action GenerationResult := do
  let types := typesDir r.servicesDir
  let (renamed, renameWarnings) ← renames here r schemaDir
  let (services, readWarnings) ← collectServices here r.generatedDir
  let emptyWarnings := if services.isEmpty then
    ["No service files found in generated directory " ++ r.generatedDir.toString] else []
  Output.reset here r.servicesDir
  Output.reset here types
  let (entries, skipWarnings) ← writeClients here r services [] []
  let filterWarnings := if !services.isEmpty && entries.isEmpty then
    ["No services generated (no service matched the include/exclude patterns)"] else []
  let _ ← Output.writeServicesIndex here r.servicesDir (ClientModule.renderIndex entries r.moduleName)
  let typeFiles := Discovery.typeFiles (← Action.tree) here r.generatedDir
  let _ ← Output.writeTypesIndex here types (TypesIndex.render typeFiles)
  let _ ← Output.writeTransport here (apiDir r.servicesDir r.moduleName) ClientModule.transport
  Action.record (.info ("Generated " ++ toString entries.length ++
    " service client(s) and a types index over " ++ toString typeFiles.length ++ " module(s)"))
  return ⟨r.servicesDir, types, entries, typeFiles, renamed,
    renameWarnings ++ readWarnings ++ emptyWarnings ++ skipWarnings ++ filterWarnings⟩

/-- Adds the modules that are not listed yet. -/
def addModules (deps : List String) (modules : List String) : List String :=
  modules.foldl (fun deps m => if deps.contains m then deps else deps ++ [m]) deps

/-- Writes the template that generates from a directory of schemas, and gives its text. The module
that the directory belongs to decides what is read. -/
def writeTemplate (here : Location) (schemaDir : Path) (outputDir : String) (file : Path)
    (modules : List String) (goPrefix : Option String) : Action String := do
  let (input, deps) ← match (← BufModule.find? here schemaDir) with
    | none => pure (schemaDir, [])
    | some m =>
      let deps ← BufModule.dependencies here (m.root.path.child BufModule.fileName)
      Action.record (.info ("Using buf module " ++ m.inputDir.toString ++ " with " ++
        toString deps.length ++ " dependencies"))
      pure (m.inputDir, deps)
  let text :=
    (GenTemplate.build outputDir input.toString (addModules deps modules) goPrefix).render
  Output.writeText here file text
  return text

/-- The name of the template that is written for one run. -/
def temporaryName : String := "buf.gen.temp.yaml"

/-- What buf needs beside the request. -/
structure BufRequest where
  modules : List String := []
  goPrefix : Option String := none
  /-- The directory that buf runs in; the current one if none is given. -/
  directory : Option Path := none
  executable : String := BufRun.defaultExecutable

/-- Has buf generate the modules and generates from them. The template is removed however the run of
buf ends. -/
def fromSchemas (here : Location) (outcome : BufOutcome) (r : Request) (schemaDir : Path)
    (b : BufRequest) : Action GenerationResult := do
  let dir := b.directory.getD here.path
  let template := dir.child temporaryName
  let _ ← writeTemplate here schemaDir r.generatedDir.toString template b.modules b.goPrefix
  let remove := Action.operate .os (FileTree.Operation.removeFile here template)
  try
    Output.reset here r.generatedDir
    let _ ← BufRun.run here outcome template dir b.executable
  catch failure =>
    remove
    throw failure
  remove
  fromModules here r (some schemaDir)

end Generation

end ConnectClients
