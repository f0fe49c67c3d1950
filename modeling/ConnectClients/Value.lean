import ConnectClients.Decimal.Binary64

/-!
# Document values

What a configuration document holds: the scalars of YAML, lists, sets and mappings. A mapping keeps
its entries in the order in which their keys first appear.
-/

namespace ConnectClients

/-- A calendar day. -/
structure Day where
  year : Nat
  month : Nat
  day : Nat
  deriving DecidableEq, Repr

/-- The days before the first of March of a year, counted from year zero. -/
def Day.beforeYear (year : Nat) : Int :=
  365 * year + year / 4 - year / 100 + year / 400

/-- Days counted from a fixed day. -/
def Day.ordinal (d : Day) : Int :=
  let late := 2 < d.month
  let year := if late then d.year else d.year - 1
  let month := if late then d.month - 3 else d.month + 9
  Day.beforeYear year + (153 * month + 2) / 5 + d.day

/-- A time of day to the microsecond; the offset, in seconds, is how far local time is ahead of
universal time, if that is known. -/
structure TimeOfDay where
  hour : Nat
  minute : Nat
  second : Nat
  micro : Nat
  offset : Option Int
  deriving DecidableEq, Repr

inductive Value where
  | null
  | bool (b : Bool)
  | int (n : Int)
  | float (x : Binary64)
  | str (s : String)
  /-- A string one of whose codes is no character. -/
  | brokenStr (codes : List Nat)
  | bytes (octets : List UInt8)
  | date (day : Day)
  | time (day : Day) (time : TimeOfDay)
  | list (items : List Value)
  /-- An entry of an ordered mapping. -/
  | pair (key value : Value)
  | set (items : List Value)
  | dict (entries : List (Value × Value))
  /-- A list, or a mapping, met again inside of itself. -/
  | cycle (content : Value)
  deriving Repr

/-- The kinds of values. -/
inductive ValueKind where
  | null | bool | int | float | str | bytes | date | time | list | pair | set | dict
  deriving DecidableEq, Repr

/-- The kind of a value, as messages name it. -/
def ValueKind.typeText : ValueKind → String
  | .null => "<class 'NoneType'>"
  | .bool => "<class 'bool'>"
  | .int => "<class 'int'>"
  | .float => "<class 'float'>"
  | .str => "<class 'str'>"
  | .bytes => "<class 'bytes'>"
  | .date => "<class 'datetime.date'>"
  | .time => "<class 'datetime.datetime'>"
  | .list => "<class 'list'>"
  | .pair => "<class 'tuple'>"
  | .set => "<class 'set'>"
  | .dict => "<class 'dict'>"

namespace Value

def kind : Value → ValueKind
  | .null => .null
  | .bool _ => .bool
  | .int _ => .int
  | .float _ => .float
  | .str _ | .brokenStr _ => .str
  | .bytes _ => .bytes
  | .date _ => .date
  | .time _ _ => .time
  | .list _ => .list
  | .pair _ _ => .pair
  | .set _ => .set
  | .dict _ => .dict
  | .cycle content => content.kind

/-- A value, wherever it was met. -/
def content : Value → Value
  | .cycle content => content.content
  | v => v

/-! ## Keys -/

/-- Lists, sets and mappings cannot be keys. -/
def canBeKey : Value → Bool
  | .list _ | .set _ | .dict _ | .cycle _ => false
  | _ => true

/-- The number a value counts as among keys: the logical values are one and zero. -/
def number? : Value → Option Int
  | .bool b => some (if b then 1 else 0)
  | .int n => some n
  | .float x => x.toInt?
  | _ => none

/-- Microseconds of universal time counted from a fixed moment; without an offset, of local time. -/
def instant (d : Day) (t : TimeOfDay) : Int :=
  ((d.ordinal * 86400 + t.hour * 3600 + t.minute * 60 + t.second) - t.offset.getD 0) * 1000000 +
    t.micro

/-- Whether two values are the same key. Numbers are the same key if they are equal, whatever their
kinds. -/
def sameKey : Value → Value → Bool
  | .null, .null => true
  | .str a, .str b => a == b
  | .brokenStr a, .brokenStr b => a == b
  | .bytes a, .bytes b => a == b
  | .date a, .date b => a == b
  | .time d t, .time e u => t.offset.isSome == u.offset.isSome && instant d t == instant e u
  | .pair a b, .pair c d => sameKey a c && sameKey b d
  | a, b =>
    match a.number?, b.number? with
    | some m, some n => m == n
    | _, _ =>
      match a, b with
      | .float x, .float y => x == y
      | _, _ => false

/-! ## Mappings -/

/-- A mapping with strings as keys. -/
def fieldsValue (fields : List (String × Value)) : Value :=
  .dict (fields.map fun f => (.str f.1, f.2))

/-- The value under a text key. -/
def lookup? (key : String) : List (Value × Value) → Option Value
  | [] => none
  | (.str k, v) :: rest => if k == key then some v else lookup? key rest
  | _ :: rest => lookup? key rest

/-- Puts a value under a key; a key that is there already stays as it is and gets the value. -/
def putEntry (key value : Value) : List (Value × Value) → List (Value × Value)
  | [] => [(key, value)]
  | (k, v) :: rest =>
    if sameKey k key then (k, value) :: rest else (k, v) :: putEntry key value rest

/-- Puts an element into a set. -/
def putElement (item : Value) (items : List Value) : List Value :=
  if items.any (sameKey item) then items else items ++ [item]

end Value

/-! ## Paths -/

/-- A step from a value to one of its parts. -/
inductive PathStep where
  | field (name : String)
  | index (n : Int)
  deriving DecidableEq, Repr

/-- The text of a step by itself. -/
def PathStep.text : PathStep → String
  | .field name => name
  | .index n => toString n

/-- A path from the root of a document. -/
def PathStep.pathText (path : List PathStep) : String :=
  path.foldl (fun s step =>
    match step with
    | .field name => s ++ "." ++ name
    | .index n => s ++ "[" ++ toString n ++ "]") "$"

end ConnectClients
