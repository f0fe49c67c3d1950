import ConnectClients.Assoc
import ConnectClients.ModulePath
import ConnectClients.Text.Scan

/-!
# Services in generated modules

A generated module declares each service as a constant whose type lists its methods. The readers
below find the named imports of a module and its services with their unary methods.
-/

namespace ConnectClients

/-- One unary method. -/
structure Method where
  name : String := ""
  inputType : String := ""
  inputSchema : String := ""
  outputType : String := ""
  outputSchema : String := ""
  deriving DecidableEq, Repr

/-- A service, the path of the module that declares it, and where that module's imports come
from. -/
structure Service where
  serviceName : String
  importPath : String
  methods : List Method := []
  imports : List (String × String) := []
  deriving DecidableEq, Repr

namespace Service

open Text

/-! ## Imports -/

def isQuote (c : Char) : Bool := c == '"' || c == '\''

/-- The word `type` with blanks behind it, which may be left out. -/
def skipTypeKeyword (cs : List Char) : List Char :=
  ((literal? "type" cs).bind blanks?).getD cs

/-- An import of names in braces: the text between the braces and the quoted specifier. -/
def readImport (cs : List Char) : Option ((List Char × List Char) × List Char) := do
  let cs ← literal? "import" cs
  let cs ← blanks? cs
  let cs ← literal? "\x7b" (skipTypeKeyword cs)
  let (names, cs) ← run? (· != '\x7d') cs
  let cs ← literal? "\x7d" cs
  let cs ← blanks? cs
  let cs ← literal? "from" cs
  let cs ← blanks? cs
  let cs ← char? isQuote cs
  let (specifier, cs) ← run? (fun c => !isQuote c) cs
  let cs ← char? isQuote cs
  return ((names, specifier), cs)

/-- The name that one entry between the braces binds, without the word `type` in front of it. -/
def importedName (entry : List Char) : List Char :=
  let name := trim entry
  match literal? "type " name with
  | some rest => trim rest
  | none => name

/-- The names between braces. -/
def importedNames (names : List Char) : List String :=
  ((splitOn ',' names).map importedName).filterMap fun cs =>
    if cs.isEmpty then none else some (String.ofList cs)

/-- Where each named import of a module comes from; the last import of a name counts. -/
def namedImports (content importPath : String) : List (String × String) :=
  Assoc.ofList <| (scanAll readImport content.toList).flatMap fun (names, specifier) =>
    (importedNames names).map fun name =>
      (name, ModulePath.resolve (String.ofList specifier) importPath)

/-! ## Methods -/

/-- The suffix of the names of message schemas. -/
def schemaSuffix : String := "Schema"

/-- The words `typeof TSchema;` behind a label, giving `T`. -/
def readSchema (label : String) (cs : List Char) : Option (List Char × List Char) := do
  let cs ← literal? label (skipBlanks cs)
  let cs ← literal? "typeof" (skipBlanks cs)
  let cs ← blanks? cs
  let (word, cs) ← run? isWord cs
  let name ← dropSuffix? schemaSuffix.toList word
  let cs ← literal? ";" cs
  if name.isEmpty then none else some (name, cs)

/-- The kind of a unary method and its two messages. -/
def readUnary (cs : List Char) : Option ((List Char × List Char) × List Char) := do
  let cs ← literal? "methodKind:" cs
  let cs ← char? isQuote (skipBlanks cs)
  let cs ← literal? "unary" cs
  let cs ← char? isQuote cs
  let cs ← literal? ";" cs
  let (input, cs) ← readSchema "input:" cs
  let (output, cs) ← readSchema "output:" cs
  return ((input, output), cs)

/-- The first unary method kind before the next closing brace. -/
def findUnary : List Char → Option ((List Char × List Char) × List Char)
  | [] => none
  | c :: cs =>
    match readUnary (c :: cs) with
    | some found => some found
    | none => if c == '\x7d' then none else findUnary cs

/-- The method with its messages named. -/
def methodOf (name input output : List Char) : Method :=
  let inputType := String.ofList input
  let outputType := String.ofList output
  ⟨String.ofList name, inputType, inputType ++ schemaSuffix, outputType, outputType ++ schemaSuffix⟩

def readMethod (cs : List Char) : Option (Method × List Char) := do
  let (name, cs) ← run? isWord cs
  let cs ← literal? ":" cs
  let cs ← literal? "\x7b" (skipBlanks cs)
  let ((input, output), cs) ← findUnary cs
  return (methodOf name input output, cs)

/-! ## Services -/

/-- The end of a service's type: the closing bracket and an equals sign. -/
def readTypeEnd (cs : List Char) : Option (List Char) := do
  let cs ← literal? "\x7d>" cs
  literal? "=" (skipBlanks cs)

/-- The text up to the end of a service's type. -/
def readTypeBody : List Char → Option (List Char × List Char)
  | [] => none
  | c :: cs =>
    match readTypeEnd (c :: cs) with
    | some rest => some ([], rest)
    | none => (readTypeBody cs).map fun (body, rest) => (c :: body, rest)

/-- A service's declaration: its name and the text that lists its methods. -/
def readDeclaration (cs : List Char) : Option ((List Char × List Char) × List Char) := do
  let cs ← literal? "export const " cs
  let (name, cs) ← run? isWord cs
  let cs ← literal? ":" cs
  let cs ← literal? "GenService<\x7b" (skipBlanks cs)
  let (body, cs) ← readTypeBody cs
  return ((name, body), cs)

/-- What every module that declares a service contains. -/
def marker : String := "GenService<\x7b"

def isMarked (content : String) : Bool := isInfix marker.toList content.toList

/-- The services a generated module declares, in the order of their declarations. -/
def ofModule (content importPath : String) : List Service :=
  let imports := namedImports content importPath
  (scanAll readDeclaration content.toList).map fun (name, body) =>
    ⟨String.ofList name, importPath, scanAll readMethod body, imports⟩

end Service

end ConnectClients
