import ConnectClients.Text.Case
import ConnectClients.Text.Split

/-!
# Names in generated code

How the names of modules, types and clients are made from the paths and names found in generated
modules. A path has the form `root/module/version/stem`, with slashes between its segments.
-/

namespace ConnectClients.Identifier

open Text

/-! ## Pascal case -/

/-- A segment that is capitalised and has a small letter stands as it is; any other one gets a
capital and small letters. -/
def canonicalSegment : List Char → List Char
  | [] => []
  | c :: rest =>
    if isUpper c && (c :: rest).any isLower then c :: rest else upperOf c ++ lower rest

/-- The segments between underscores in Pascal case, joined. -/
def canonicalCaseChars (token : List Char) : List Char :=
  (splitOn '_' token).flatMap canonicalSegment

def canonicalCase (token : String) : String :=
  String.ofList (canonicalCaseChars token.toList)

/-! ## Paths -/

/-- The segments of a path; there is always one. -/
def segments (path : String) : List (List Char) :=
  splitOn '/' path.toList

/-- The mark that a generated file carries at the end of its stem. -/
def generatedMark : List Char := ['_', 'p', 'b']

/-- A stem without the mark of generated files, which may have one newline behind it. -/
def dropGeneratedMark (stem : List Char) : List Char :=
  match dropSuffix? generatedMark stem with
  | some rest => rest
  | none =>
    match dropSuffix? (generatedMark ++ ['\n']) stem with
    | some rest => rest ++ ['\n']
    | none => stem

/-- The name of the type a schema path stands for. -/
def typeName (path : String) : String :=
  String.ofList (canonicalCaseChars (dropGeneratedMark ((segments path).getLastD [])))

/-- A version directory: `v` and a number, with at most one newline behind it. -/
def isVersion : List Char → Bool
  | 'v' :: rest =>
    match rest.dropWhile isDecimal with
    | [] => !rest.isEmpty
    | ['\n'] => rest.length != 1
    | _ => false
  | _ => false

/-- The directory in front of the first version directory that has one in front of it. -/
def beforeVersion? : List (List Char) → Option (List Char)
  | a :: b :: rest => if isVersion b then some a else beforeVersion? (b :: rest)
  | _ => none

/-- The key of the module a schema path belongs to: the directory in front of its version, else its
first directory, else nothing. -/
def moduleKey (path : String) : String :=
  let parts := segments path
  match beforeVersion? parts.dropLast with
  | some dir => String.ofList dir
  | none => if 1 < parts.length then String.ofList (parts.headD []) else ""

/-- The name under which a schema path is imported. -/
def importAlias (path : String) : String :=
  "_" ++ canonicalCase (moduleKey path) ++ typeName path

/-! ## Clients and fields -/

/-- The name with a small first letter. -/
def lowerFirst (name : String) : String :=
  match name.toList with
  | [] => ""
  | c :: rest => String.ofList (lower [c] ++ rest)

/-- The suffix that names of services carry. -/
def serviceSuffix : List Char := "Service".toList

/-- The name of a service's client: without the suffix, unless nothing else is left. -/
def clientName (service : String) : String :=
  match dropSuffix? serviceSuffix service.toList with
  | some (c :: rest) => String.ofList (c :: rest)
  | _ => service

/-- Camel case: an underscore before a small ASCII letter goes, and the letter becomes a capital. -/
def camelCaseChars : List Char → List Char
  | '_' :: c :: rest =>
    if c.isLower then c.toUpper :: camelCaseChars rest else '_' :: camelCaseChars (c :: rest)
  | c :: rest => c :: camelCaseChars rest
  | [] => []

/-- The name that a field of a schema has in generated code. -/
def camelCase (name : String) : String :=
  String.ofList (camelCaseChars name.toList)

end ConnectClients.Identifier
