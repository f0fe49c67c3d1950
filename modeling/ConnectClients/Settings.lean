import ConnectClients.Validation

/-!
# Project settings

What a project sets once for all runs. Every setting has a default, and no others are allowed.
-/

namespace ConnectClients

structure Settings where
  outputDir : String := "src/lib/api/generated"
  servicesDir : Option String := none
  moduleName : Option String := none
  rpcServiceDir : Option String := none
  additionalModules : List String := []
  includeServices : Option (List String) := none
  excludeServices : Option (List String) := none
  goPackagePrefix : Option String := none
  deriving DecidableEq, Repr

namespace Settings

open Value

/-- The names of the settings. -/
def names : List String :=
  ["output_dir", "services_dir", "module_name", "rpc_service_dir", "additional_modules",
    "include_services", "exclude_services", "go_package_prefix"]

def ofFields (fields : Fields) : Checked Settings :=
  fields.closed names <|
    Settings.mk <$> fields.withDefault "output_dir" ({} : Settings).outputDir asText
      <*> fields.optional "services_dir" asText
      <*> fields.optional "module_name" asText
      <*> fields.optional "rpc_service_dir" asText
      <*> fields.withDefault "additional_modules" [] (asList asText)
      <*> fields.optional "include_services" (asList asText)
      <*> fields.optional "exclude_services" (asList asText)
      <*> fields.optional "go_package_prefix" asText

end Settings

end ConnectClients
