import ConnectClients.GenTemplate.Basic

/-!
# Writing generation templates

Sections stand one after the other with an empty line between them. A section that is missing, or
lists nothing, is left out.
-/

namespace ConnectClients

def Managed.lines (managed : Managed) : List String :=
  ["managed:", "  enabled: " ++ (if managed.enabled then "true" else "false")] ++
  (match managed.disabled with
    | none | some [] => []
    | some modules => "  disable:" :: modules.map fun name => "    - module: " ++ name) ++
  (match managed.overrides with
    | none | some [] => []
    | some overrides =>
      "  override:" :: overrides.flatMap fun o =>
        ["    - file_option: " ++ o.fileOption, "      value: " ++ o.value])

/-- An input names a directory, or else a module; one that names neither is not written. -/
def TemplateInput.lines (input : TemplateInput) : List String :=
  match input.directory, input.moduleName with
  | some dir, _ => ["  - directory: " ++ dir]
  | none, some name => ["  - module: " ++ name]
  | none, none => []

/-- What a plugin without a name is written as. -/
def Plugin.unnamed : String := "None"

def Plugin.lines (plugin : Plugin) : List String :=
  (if plugin.localName = some GenTemplate.esPlugin then
    ["  # Generate types and Connect-RPC service definitions using protoc-gen-es v2"] else []) ++
  [match plugin.remoteName with
    | some name => "  - remote: " ++ name
    | none => "  - local: " ++ plugin.localName.getD unnamed] ++
  ["    out: " ++ plugin.out] ++
  (match plugin.opt with
    | none | some [] => []
    | some options => "    opt:" :: options.map fun option => "      - " ++ option)

namespace GenTemplate

/-- The sections that are written. -/
def sections (t : GenTemplate) : List (List String) :=
  (t.version.toList.map fun v => ["version: " ++ v]) ++
  (t.managed.toList.map Managed.lines) ++
  (match t.inputs with
    | none | some [] => []
    | some inputs => ["inputs:" :: inputs.flatMap TemplateInput.lines]) ++
  (match t.plugins with
    | none | some [] => []
    | some plugins => ["plugins:" :: plugins.flatMap Plugin.lines])

/-- The text of a template. -/
def render (t : GenTemplate) : String :=
  "\n\n".intercalate (t.sections.map fun lines => "\n".intercalate lines) ++ "\n"

end GenTemplate

end ConnectClients
