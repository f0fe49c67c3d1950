import ConnectClients.GenTemplate.Basic
import ConnectClients.Value

/-!
# Generation templates as document values

A template is the mapping of its sections, as a document has it. A part that is missing has no
field.
-/

namespace ConnectClients

open Value (fieldsValue)

/-- The field for a part that may be missing. -/
def optionalField (name : String) (value : Option Value) : List (String × Value) :=
  value.toList.map fun v => (name, v)

def moduleValue (name : String) : Value := fieldsValue [("module", .str name)]

def ManagedOverride.document (o : ManagedOverride) : Value :=
  fieldsValue [("file_option", .str o.fileOption), ("value", .str o.value)]

def Managed.document (managed : Managed) : Value :=
  fieldsValue (("enabled", .bool managed.enabled) ::
    (optionalField "disable" (managed.disabled.map fun names => .list (names.map moduleValue)) ++
      optionalField "override"
        (managed.overrides.map fun os => .list (os.map ManagedOverride.document))))

def TemplateInput.document (input : TemplateInput) : Value :=
  fieldsValue (optionalField "directory" (input.directory.map .str) ++
    optionalField "module" (input.moduleName.map .str))

def Plugin.document (plugin : Plugin) : Value :=
  fieldsValue (optionalField "local" (plugin.localName.map .str) ++
    (optionalField "remote" (plugin.remoteName.map .str) ++
      (("out", .str plugin.out) ::
        optionalField "opt" (plugin.opt.map fun options => .list (options.map .str)))))

namespace GenTemplate

/-- The mapping that a template is. -/
def document (t : GenTemplate) : Value :=
  fieldsValue (optionalField "version" (t.version.map .str) ++
    (optionalField "managed" (t.managed.map Managed.document) ++
      (optionalField "inputs"
          (t.inputs.map fun inputs => .list (inputs.map TemplateInput.document)) ++
        optionalField "plugins"
          (t.plugins.map fun plugins => .list (plugins.map Plugin.document)))))

end GenTemplate

end ConnectClients
