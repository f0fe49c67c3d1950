import ConnectClients.Schema
import ConnectClients.Text.Order
import ConnectClients.Yaml.File
import ConnectClients.GenTemplate.Basic

/-!
# Verifying generation templates

A template is verified as a YAML document: its value has to follow the schema of templates. The
findings are reported in the order of their paths.
-/

namespace ConnectClients.GenTemplate

def nonemptyText : Schema := [.type .string, .nonempty .string]

def managedSchema : Schema :=
  [.type .object,
    .required ["enabled"],
    .properties
      [("enabled", [.type .boolean]),
        ("disable", [.type .array, .items [.type .object]]),
        ("override",
          [.type .array,
            .items
              [.type .object,
                .required ["value"],
                .properties [("file_option", nonemptyText), ("field_option", nonemptyText)]]])],
    .onlyKeys ["enabled", "disable", "override"]]

def inputSchema : Schema :=
  [.type .object,
    .nonempty .object,
    .properties [("directory", nonemptyText), ("module", nonemptyText)]]

/-- A plugin has exactly one source. -/
def pluginSchema : Schema :=
  [.type .object,
    .required ["out"],
    .oneOf [[.required ["local"]], [.required ["remote"]], [.required ["protoc_builtin"]]],
    .properties
      [("local", nonemptyText),
        ("remote", nonemptyText),
        ("protoc_builtin", nonemptyText),
        ("out", nonemptyText),
        ("opt", [.anyOf [nonemptyText, [.type .array, .items nonemptyText]]])]]

/-- The schema of templates. -/
def schema : Schema :=
  [.type .object,
    .required ["version", "plugins"],
    .properties
      [("version", [.const currentVersion]),
        ("clean", [.type .boolean]),
        ("managed", managedSchema),
        ("inputs", [.type .array, .nonempty .array, .items inputSchema]),
        ("plugins", [.type .array, .nonempty .array, .items pluginSchema])],
    .onlyKeys ["version", "clean", "managed", "inputs", "plugins"]]

/-! ## Reports -/

/-- Findings ordered by their paths; those on one path keep their order. -/
def sortFindings (findings : List Finding) : List Finding :=
  findings.mergeSort fun a b => Text.wordsLE (a.path.map PathStep.text) (b.path.map PathStep.text)

structure VerifyProblem where
  path : String
  message : String
  deriving DecidableEq, Repr

/-- What a report says of a text that is not YAML. -/
def unreadable : VerifyProblem := ⟨"$", Yaml.malformedKind⟩

def verifyValue (v : Value) : List Finding :=
  sortFindings (schemaViolations v schema)

/-- The problems of a text. -/
def verify (content : String) : Except Yaml.ScalarFault (List VerifyProblem) :=
  match Yaml.load content.toList with
  | .ok v =>
    .ok ((verifyValue v).map fun f => ⟨PathStep.pathText f.path, f.violation.message⟩)
  | .error .malformed => .ok [unreadable]
  | .error (.scalar fault) => .error fault

def reportText (problems : List VerifyProblem) : String :=
  "\n".intercalate
    (("Problems: " ++ toString problems.length) ::
      problems.map fun p => "- " ++ p.path ++ ": " ++ p.message)

end ConnectClients.GenTemplate
