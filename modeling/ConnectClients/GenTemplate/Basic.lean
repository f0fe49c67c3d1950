/-!
# Generation templates

A generation template tells buf what to generate: the managed mode, the inputs to read and the
plugins to run. Every section may be missing, as templates found on disk may be incomplete.
-/

namespace ConnectClients

/-- An option of schema files that managed mode sets. -/
structure ManagedOverride where
  fileOption : String
  value : String
  deriving DecidableEq, Repr

/-- Managed mode: whether it is on, the modules it leaves alone and the options it sets. -/
structure Managed where
  enabled : Bool
  disabled : Option (List String) := none
  overrides : Option (List ManagedOverride) := none
  deriving DecidableEq, Repr

/-- Something to read schemas from. -/
structure TemplateInput where
  directory : Option String := none
  moduleName : Option String := none
  deriving DecidableEq, Repr

/-- A plugin, local or remote, the directory it writes to and its options. -/
structure Plugin where
  localName : Option String := none
  remoteName : Option String := none
  out : String
  opt : Option (List String) := none
  deriving DecidableEq, Repr

structure GenTemplate where
  version : Option String := none
  managed : Option Managed := none
  inputs : Option (List TemplateInput) := none
  plugins : Option (List Plugin) := none
  deriving DecidableEq, Repr

namespace GenTemplate

/-- The plugin that generates the modules clients are made from. -/
def esPlugin : String := "protoc-gen-es"

def esPluginOptions : List String := ["target=ts", "import_extension=none"]

def currentVersion : String := "v2"

/-- The option that managed mode sets if a prefix of Go packages is given. -/
def goPackagePrefix : String := "go_package_prefix"

/-- A list, unless it is empty. -/
def nonempty? {α : Type} (xs : List α) : Option (List α) :=
  if xs.isEmpty then none else some xs

/-- The template for generating from one directory, with the modules it depends on. The modules are
inputs too and managed mode leaves them alone. -/
def build (outputDir inputDir : String) (deps : List String) (goPrefix : Option String) :
    GenTemplate where
  version := some currentVersion
  managed := some
    { enabled := true
      disabled := nonempty? deps
      overrides := match goPrefix with
        | some value => if value.isEmpty then none else some [⟨goPackagePrefix, value⟩]
        | none => none }
  inputs := some (⟨some inputDir, none⟩ :: deps.map fun dep => ⟨none, some dep⟩)
  plugins := some [⟨some esPlugin, none, outputDir, some esPluginOptions⟩]

end GenTemplate

end ConnectClients
