import ConnectClients.GenTemplate.Document
import ConnectClients.GenTemplate.Reader
import ConnectClients.Validation
import ConnectClients.Log

/-!
# Generation templates from document values

A template may also come as a document value. Fields that a template does not know are ignored.
Where the sections of a value are not those of a template, only the version is kept. What is found
in a text is checked in the same way: each section when it is found, and all of them in the end.
-/

namespace ConnectClients

open Value

def ManagedOverride.ofFields (fields : Fields) : Checked ManagedOverride :=
  ManagedOverride.mk <$> fields.required "file_option" asText <*> fields.required "value" asText

def Managed.ofFields (fields : Fields) : Checked Managed :=
  Managed.mk <$> fields.required "enabled" asSwitch
    <*> fields.optional "disable" (asList (asForm (Fields.required "module" asText)))
    <*> fields.optional "override" (asList (asForm ManagedOverride.ofFields))

def TemplateInput.ofFields (fields : Fields) : Checked TemplateInput :=
  TemplateInput.mk <$> fields.optional "directory" asText <*> fields.optional "module" asText

def Plugin.ofFields (fields : Fields) : Checked Plugin :=
  Plugin.mk <$> fields.optional "local" asText <*> fields.optional "remote" asText
    <*> fields.required "out" asText <*> fields.optional "opt" (asList asText)

namespace GenTemplate

def ofFields (fields : Fields) : Checked GenTemplate :=
  GenTemplate.mk <$> fields.optional "version" asText
    <*> fields.optional "managed" (asForm Managed.ofFields)
    <*> fields.optional "inputs" (asList (asForm TemplateInput.ofFields))
    <*> fields.optional "plugins" (asList (asForm Plugin.ofFields))

/-- The template that a value is. -/
def ofValue (v : Value) : Checked GenTemplate := asForm ofFields v

/-- The version, if it is a text. -/
def versionText? (fields : Fields) : Option String :=
  match lookup? "version" fields with
  | some (.str s) => some s
  | _ => none

/-- The template that sections make, or its version alone if they make none. -/
def ofSections (fields : Fields) : GenTemplate × List LogRecord :=
  match ofFields fields with
  | .ok t => (t, [])
  | .wrong _ =>
    ({ version := versionText? fields },
      [.warning "Discarding unparseable buf.gen.yaml sections: ValidationError"])

/-! ## Texts -/

/-- A section that was found, or all that is wrong with it. -/
abbrev FoundSection := String × Option (Checked Value)

/-- A section as it is made of what was found for it. -/
def made {α : Type} (check : Value → Checked α) (document : α → Value) (found : α) :
    Checked Value :=
  (check (document found)).map document

/-- The sections that were found in a text, each with the checks of its parts. -/
def foundSections (found : GenTemplate) : List FoundSection :=
  [("version", found.version.map fun version => .ok (.str version)),
    ("managed", found.managed.map (made (asForm Managed.ofFields) Managed.document)),
    ("inputs", found.inputs.map (made (asList (asForm TemplateInput.ofFields)) fun inputs =>
      .list (inputs.map TemplateInput.document))),
    ("plugins", found.plugins.map (made (asList (asForm Plugin.ofFields)) fun plugins =>
      .list (plugins.map Plugin.document)))]

/-- What is told of a document that could not be read, or not to its end. -/
def unread (kind : String) : LogRecord := .warning ("Could not parse buf.gen.yaml: " ++ kind)

/-- The sections up to the first one that cannot be made. -/
def gather : List FoundSection → Fields × List LogRecord
  | [] => ([], [])
  | (_, none) :: rest => gather rest
  | (name, some (.ok v)) :: rest => ((.str name, v) :: (gather rest).1, (gather rest).2)
  | (_, some (.wrong _)) :: _ => ([], [unread "ValidationError"])

/-- The sections that a document tells of; one that is no text tells of none. -/
def documentSections : Option String → Fields × List LogRecord
  | some text => gather (foundSections (read text))
  | none => ([], [unread "TypeError"])

/-- What a document tells of a template. -/
def readDocument (content : Option String) : GenTemplate × List LogRecord :=
  let (fields, records) := documentSections content
  let (template, more) := ofSections fields
  (template, records ++ more)

end GenTemplate

end ConnectClients
