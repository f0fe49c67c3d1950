import ConnectClients.Value.Printer
import ConnectClients.Assoc

/-!
# Schemas

A schema is a list of rules. A rule about one kind of value lets all other kinds pass. `violations`
lists what is wrong with a value in the order of the rules, and the parts of a value in their order.
-/

namespace ConnectClients

/-- The kinds of values that schemas tell apart. -/
inductive SchemaType where
  | object
  | array
  | string
  | boolean
  deriving DecidableEq, Repr

def SchemaType.name : SchemaType → String
  | .object => "object"
  | .array => "array"
  | .string => "string"
  | .boolean => "boolean"

def SchemaType.kind : SchemaType → ValueKind
  | .object => .dict
  | .array => .list
  | .string => .str
  | .boolean => .bool

inductive Rule where
  | type (t : SchemaType)
  /-- The value is the given text. -/
  | const (text : String)
  | required (names : List String)
  /-- The values under known keys follow rules of their own. -/
  | properties (parts : List (String × List Rule))
  /-- There are no other keys. -/
  | onlyKeys (names : List String)
  /-- A value of the type is not empty. -/
  | nonempty (t : SchemaType)
  | items (rules : List Rule)
  /-- Exactly one of the schemas fits. -/
  | oneOf (schemas : List (List Rule))
  /-- At least one of the schemas fits. -/
  | anyOf (schemas : List (List Rule))
  deriving Repr

abbrev Schema := List Rule

inductive Violation where
  | notOfType (value : Value) (t : SchemaType)
  | notConst (text : String)
  | missing (name : String)
  | extraKeys (keys : List Value)
  | empty (value : Value)
  | noSchema (value : Value)
  /-- The schemas that fit, the first of them last. -/
  | manySchemas (value : Value) (schemas : List Schema)
  deriving Repr

/-- What is wrong, and where. -/
structure Finding where
  path : List PathStep
  violation : Violation
  deriving Repr

def Finding.under (step : PathStep) (f : Finding) : Finding :=
  { f with path := step :: f.path }

namespace Value

/-- The entries of a mapping. -/
def entries? (v : Value) : Option (List (Value × Value)) :=
  match v.content with
  | .dict entries => some entries
  | _ => none

def items? (v : Value) : Option (List Value) :=
  match v.content with
  | .list items => some items
  | _ => none

def isEmptyOf (t : SchemaType) (v : Value) : Bool :=
  match t, v.content with
  | .object, .dict [] => true
  | .array, .list [] => true
  | .string, .str s => s.isEmpty
  | .string, .brokenStr codes => codes.isEmpty
  | _, _ => false

/-- The keys other than the given ones, sorted by their text. -/
def otherKeys (names : List String) (entries : List (Value × Value)) : List Value :=
  let keys := (entries.map Prod.fst).filter fun k =>
    match k with
    | .str s => !names.contains s
    | _ => true
  keys.mergeSort fun a b => !decide (b.plainText < a.plainText)

end Value

mutual

/-- What is wrong with a value under a rule. -/
def Rule.violations (v : Value) : Rule → List Finding
  | .type t => if v.kind = t.kind then [] else [⟨[], .notOfType v t⟩]
  | .const text =>
    match v.content with
    | .str s => if s = text then [] else [⟨[], .notConst text⟩]
    | _ => [⟨[], .notConst text⟩]
  | .required names =>
    match v.entries? with
    | some entries =>
      (names.filter fun name => (Value.lookup? name entries).isNone).map fun name =>
        ⟨[], .missing name⟩
    | none => []
  | .properties parts =>
    match v.entries? with
    | some entries => propertyViolations entries parts
    | none => []
  | .onlyKeys names =>
    match v.entries? with
    | some entries =>
      match Value.otherKeys names entries with
      | [] => []
      | keys => [⟨[], .extraKeys keys⟩]
    | none => []
  | .nonempty t => if v.isEmptyOf t then [⟨[], .empty v⟩] else []
  | .items rules =>
    match v.items? with
    | some items =>
      items.zipIdx.flatMap fun (item, i) =>
        (schemaViolations item rules).map (Finding.under (.index i))
    | none => []
  | .oneOf schemas =>
    match fittingSchemas v schemas with
    | [] => [⟨[], .noSchema v⟩]
    | [_] => []
    | first :: rest => [⟨[], .manySchemas v (rest ++ [first])⟩]
  | .anyOf schemas =>
    match fittingSchemas v schemas with
    | [] => [⟨[], .noSchema v⟩]
    | _ => []

/-- What is wrong with a value under a schema. -/
def schemaViolations (v : Value) : List Rule → List Finding
  | [] => []
  | rule :: rules => rule.violations v ++ schemaViolations v rules

def propertyViolations (entries : List (Value × Value)) :
    List (String × List Rule) → List Finding
  | [] => []
  | (name, rules) :: parts =>
    (match Value.lookup? name entries with
      | some v => (schemaViolations v rules).map (Finding.under (.field name))
      | none => []) ++ propertyViolations entries parts

/-- The schemas that find nothing wrong with a value. -/
def fittingSchemas (v : Value) : List (List Rule) → List Schema
  | [] => []
  | schema :: schemas =>
    if (schemaViolations v schema).isEmpty then schema :: fittingSchemas v schemas
    else fittingSchemas v schemas

end

/-! ## Messages -/

mutual

/-- A rule as an entry of the document that a schema is written as. -/
def Rule.entry : Rule → Value × Value
  | .type t => (.str "type", .str t.name)
  | .const text => (.str "const", .str text)
  | .required names => (.str "required", .list (names.map .str))
  | .properties parts => (.str "properties", .dict (propertyEntries parts))
  | .onlyKeys _ => (.str "additionalProperties", .bool false)
  | .nonempty t =>
    (.str (match t with
      | .object => "minProperties"
      | .array => "minItems"
      | _ => "minLength"), .int 1)
  | .items rules => (.str "items", .dict (ruleEntries rules))
  | .oneOf schemas => (.str "oneOf", .list (schemaDicts schemas))
  | .anyOf schemas => (.str "anyOf", .list (schemaDicts schemas))

def ruleEntries : List Rule → List (Value × Value)
  | [] => []
  | rule :: rules => rule.entry :: ruleEntries rules

def propertyEntries : List (String × List Rule) → List (Value × Value)
  | [] => []
  | (name, rules) :: parts => (.str name, .dict (ruleEntries rules)) :: propertyEntries parts

def schemaDicts : List (List Rule) → List Value
  | [] => []
  | schema :: schemas => .dict (ruleEntries schema) :: schemaDicts schemas

end

def Schema.text (schema : Schema) : String := (Value.dict (ruleEntries schema)).text

def Violation.message : Violation → String
  | .notOfType v t => v.text ++ " is not of type " ++ Text.quote t.name
  | .notConst text => Text.quote text ++ " was expected"
  | .missing name => Text.quote name ++ " is a required property"
  | .extraKeys keys =>
    "Additional properties are not allowed (" ++ ", ".intercalate (keys.map Value.text) ++
      (if keys.length = 1 then " was" else " were") ++ " unexpected)"
  | .empty v => v.text ++ " should be non-empty"
  | .noSchema v => v.text ++ " is not valid under any of the given schemas"
  | .manySchemas v schemas =>
    v.text ++ " is valid under each of " ++ ", ".intercalate (schemas.map Schema.text)

end ConnectClients
