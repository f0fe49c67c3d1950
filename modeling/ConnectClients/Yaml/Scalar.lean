import ConnectClients.Yaml.Token

/-!
# YAML tags and the resolution of plain scalars

A plain scalar without a tag is an integer, a float, a time and so on if it is written as one, and
a string otherwise. The forms are those of YAML 1.1.
-/

namespace ConnectClients.Yaml

/-- The tags a loader knows; all other ones are refused where they are met. -/
inductive Tag where
  | null | bool | int | float | binary | timestamp | omap | pairs | set | str | seq | map
  | merge
  | value
  | unknown
  deriving DecidableEq, Repr

/-- What the tags of YAML itself start with. -/
def standardPrefix : List Char := "tag:yaml.org,2002:".toList

def Tag.ofUri (uri : List Char) : Tag :=
  match standardPrefix.isPrefixOf? uri with
  | none => .unknown
  | some name =>
    match String.ofList name with
    | "null" => .null
    | "bool" => .bool
    | "int" => .int
    | "float" => .float
    | "binary" => .binary
    | "timestamp" => .timestamp
    | "omap" => .omap
    | "pairs" => .pairs
    | "set" => .set
    | "str" => .str
    | "seq" => .seq
    | "map" => .map
    | "merge" => .merge
    | "value" => .value
    | _ => .unknown

/-! ## Forms -/

def dropSign : List Char → List Char
  | '+' :: rest => rest
  | '-' :: rest => rest
  | cs => cs

def isDigitOr_ (c : Char) : Bool := c.isDigit || c == '_'

/-- The words for the two logical values. -/
def boolWord? (cs : List Char) : Option Bool :=
  if ["yes", "true", "on"].any (·.toList == cs) then some true
  else if ["no", "false", "off"].any (·.toList == cs) then some false
  else none

/-- A word in small letters, in capitals, or capitalised. -/
def isCasedWord (cs : List Char) : Bool :=
  let small := cs.map Char.toLower
  cs == small || cs == small.map Char.toUpper ||
    (match small with
      | c :: rest => cs == c.toUpper :: rest
      | [] => false)

def isBoolForm (cs : List Char) : Bool :=
  isCasedWord cs && (boolWord? (cs.map Char.toLower)).isSome

/-- An exponent with its sign, or nothing. -/
def isExponentForm : List Char → Bool
  | [] => true
  | e :: sign :: ds =>
    (e == 'e' || e == 'E') && (sign == '+' || sign == '-') && !ds.isEmpty && ds.all Char.isDigit
  | _ => false

/-- Groups of at most two digits below sixty, each behind a colon; at least one. -/
def isSixtiesForm (cs : List Char) : Bool :=
  match cs with
  | ':' :: a :: rest =>
    a.isDigit &&
      (match rest with
        | [] => true
        | b :: rest =>
          if b.isDigit then decide (a ≤ '5') && (rest.isEmpty || isSixtiesForm rest)
          else isSixtiesForm (b :: rest))
  | _ => false

def isFloatForm (cs : List Char) : Bool :=
  let unsigned := dropSign cs
  let whole := unsigned.takeWhile isDigitOr_
  let rest := unsigned.dropWhile isDigitOr_
  let decimal :=
    whole.head?.any Char.isDigit &&
      (match rest with
        | '.' :: rest => isExponentForm (rest.dropWhile isDigitOr_)
        | _ => false)
  let fraction :=
    match cs with
    | '.' :: d :: rest => d.isDigit && isExponentForm (rest.dropWhile isDigitOr_)
    | _ => false
  let sixties :=
    whole.head?.any Char.isDigit && isSixtiesForm (rest.takeWhile (· != '.')) &&
      (match rest.dropWhile (· != '.') with
        | '.' :: rest => rest.all isDigitOr_
        | _ => false)
  let infinity :=
    match unsigned with
    | '.' :: word => isCasedWord word && word.map Char.toLower == "inf".toList
    | _ => false
  let notANumber := cs == ".nan".toList || cs == ".NaN".toList || cs == ".NAN".toList
  decimal || fraction || sixties || infinity || notANumber

def isOctalDigitOr_ (c : Char) : Bool := (decide ('0' ≤ c) && decide (c ≤ '7')) || c == '_'

def isIntForm (cs : List Char) : Bool :=
  match dropSign cs with
  | ['0'] => true
  | '0' :: 'b' :: rest => !rest.isEmpty && rest.all fun c => c == '0' || c == '1' || c == '_'
  | '0' :: 'x' :: rest => !rest.isEmpty && rest.all fun c => isHexDigit c || c == '_'
  | '0' :: rest => rest.all isOctalDigitOr_
  | c :: rest =>
    decide ('1' ≤ c) && decide (c ≤ '9') &&
      (rest.all isDigitOr_ || isSixtiesForm (rest.dropWhile isDigitOr_))
  | [] => false

def isNullForm (cs : List Char) : Bool :=
  cs.isEmpty || cs == ['~'] || cs == "null".toList || cs == "Null".toList || cs == "NULL".toList

/-! ## Times -/

/-- The parts of a time as they are written. -/
structure TimeText where
  year : List Char
  month : List Char
  day : List Char
  /-- Hour, minute, second and fraction. -/
  clock : Option (List Char × List Char × List Char × List Char) := none
  /-- Whether the zone is given; its sign, hours and minutes unless it is universal time. -/
  zone : Option (Option (Char × List Char × List Char)) := none

/-- At most `most` and at least `least` digits from the front of a text. -/
def takeDigits? (least most : Nat) (cs : List Char) : Option (List Char × List Char) :=
  let ds := (cs.take most).takeWhile Char.isDigit
  if least ≤ ds.length then some (ds, cs.drop ds.length) else none

def isGapChar (c : Char) : Bool := c == ' ' || c == '\t'

def readZone? (cs : List Char) : Option (Option (Option (Char × List Char × List Char))) :=
  match cs with
  | [] => some none
  | _ =>
    match cs.dropWhile isGapChar with
    | ['Z'] => some (some none)
    | sign :: rest =>
      if sign == '+' || sign == '-' then do
        let (hours, rest) ← takeDigits? 1 2 rest
        match rest with
        | [] => some (some (some (sign, hours, [])))
        | ':' :: rest => do
          let (minutes, rest) ← takeDigits? 2 2 rest
          if rest.isEmpty then some (some (some (sign, hours, minutes))) else none
        | _ => none
      else none
    | [] => none

/-- The time of day behind a day, to the end of the text. -/
def readClock? (date : TimeText) (cs : List Char) : Option TimeText := do
  let cs ← match cs with
    | 'T' :: rest | 't' :: rest => some rest
    | c :: rest => if isGapChar c then some (rest.dropWhile isGapChar) else none
    | [] => none
  let (hour, cs) ← takeDigits? 1 2 cs
  let cs ← [':'].isPrefixOf? cs
  let (minute, cs) ← takeDigits? 2 2 cs
  let cs ← [':'].isPrefixOf? cs
  let (second, cs) ← takeDigits? 2 2 cs
  let (fraction, cs) := match cs with
    | '.' :: rest => (rest.takeWhile Char.isDigit, rest.dropWhile Char.isDigit)
    | cs => ([], cs)
  let zone ← readZone? cs
  return { date with clock := some (hour, minute, second, fraction), zone := zone }

/-- A day, alone or with a time of day. -/
def readTime? (cs : List Char) : Option TimeText := do
  let (year, cs) ← takeDigits? 4 4 cs
  let cs ← ['-'].isPrefixOf? cs
  let (month, cs) ← takeDigits? 1 2 cs
  let cs ← ['-'].isPrefixOf? cs
  let (day, cs) ← takeDigits? 1 2 cs
  let date : TimeText := { year := year, month := month, day := day }
  if cs.isEmpty then return date
  readClock? date cs

/-- A day alone has two digits for the month and the day. -/
def isTimeForm (cs : List Char) : Bool :=
  match readTime? cs with
  | some t => t.clock.isSome || (t.month.length == 2 && t.day.length == 2)
  | none => false

/-- The tag of a plain scalar. -/
def resolve (cs : List Char) : Tag :=
  if isBoolForm cs then .bool
  else if isFloatForm cs then .float
  else if isIntForm cs then .int
  else if cs == ['<', '<'] then .merge
  else if isNullForm cs then .null
  else if isTimeForm cs then .timestamp
  else if cs == ['='] then .value
  else if cs == ['!'] || cs == ['&'] || cs == ['*'] then .unknown
  else .str

end ConnectClients.Yaml
