import ConnectClients.Text.Quoted
import ConnectClients.Text.Split

/-!
# Words of a command line

A word is an option if it is written like one. Options may be cut short as long as one option alone
starts that way, and may carry a value behind an equals sign. Behind a double dash no word is an
option.
-/

namespace ConnectClients.CommandLine

/-- An option: its names, whether it takes a value, and whether it has to be given. -/
structure OptionSpec where
  names : List String
  takesValue : Bool := true
  required : Bool := false
  deriving DecidableEq, Repr

/-- An option as messages name it. -/
def OptionSpec.shown (spec : OptionSpec) : String := "/".intercalate spec.names

/-- What is wrong with a command line; or nothing is, and help is asked for. -/
inductive UsageFault where
  | help
  | ambiguous (word : String) (names : List String)
  | valueMissing (option : String)
  | valueUnwanted (option value : String)
  | missing (names : List String)
  | unknownCommand (word : String) (commands : List String)
  | unknownWords (words : List String)
  deriving DecidableEq, Repr

def quoted (s : String) : String := Text.quote s

def UsageFault.message : UsageFault → String
  | .help => ""
  | .ambiguous word names =>
    "ambiguous option: " ++ word ++ " could match " ++ ", ".intercalate names
  | .valueMissing option => "argument " ++ option ++ ": expected one argument"
  | .valueUnwanted option value =>
    "argument " ++ option ++ ": ignored explicit argument " ++ quoted value
  | .missing names => "the following arguments are required: " ++ ", ".intercalate names
  | .unknownCommand word commands =>
    "argument command: invalid choice: " ++ quoted word ++ " (choose from " ++
      ", ".intercalate (commands.map quoted) ++ ")"
  | .unknownWords words => "unrecognized arguments: " ++ " ".intercalate words

/-! ## Kinds of words -/

/-- A value that stands in the same word as its option. -/
structure Attached where
  /-- Whether an equals sign stands between the two. -/
  byMark : Bool
  value : String
  deriving DecidableEq, Repr

inductive WordKind where
  | plain
  /-- The double dash. -/
  | separator
  | option (spec : OptionSpec) (attached : Option Attached)
  | unknownOption
  deriving DecidableEq, Repr

/-- The names of all options, each with its option. -/
def allNames (specs : List OptionSpec) : List (String × OptionSpec) :=
  specs.flatMap fun spec => spec.names.map fun name => (name, spec)

/-- What stands before the first equals sign, and what stands behind it if there is one. -/
def splitMark (cs : List Char) : List Char × Option Attached :=
  (Text.before '=' cs,
    match cs.dropWhile (· != '=') with
    | _ :: value => some ⟨true, String.ofList value⟩
    | [] => none)

/-- The options that a word may stand for. A word with two dashes is the start of a name. A word with
one dash is the start of a name, or a short name with its value. -/
def candidates (specs : List OptionSpec) (cs : List Char) :
    List (String × OptionSpec × Option Attached) :=
  match cs with
  | '-' :: '-' :: _ =>
    let (start, attached) := splitMark cs
    (allNames specs).filterMap fun (name, spec) =>
      if start.isPrefixOf name.toList then some (name, spec, attached) else none
  | _ =>
    (allNames specs).filterMap fun (name, spec) =>
      if name.toList == cs.take 2 then
        some (name, spec, some ⟨false, String.ofList (cs.drop 2)⟩)
      else if cs.isPrefixOf name.toList then some (name, spec, none)
      else none

/-- A negative number, whole or with a point before its last digits. -/
def isNegativeNumber (cs : List Char) : Bool :=
  match cs with
  | '-' :: ds =>
    let ds := (Text.dropSuffix? ['\n'] ds).getD ds
    let rest := ds.dropWhile Text.isDecimal
    (!ds.isEmpty && rest.isEmpty) ||
      (match rest with
        | '.' :: fraction => !fraction.isEmpty && fraction.all Text.isDecimal
        | _ => false)
  | _ => false

/-- The kind of a word that no double dash precedes. -/
def kindOf (specs : List OptionSpec) (word : String) : Except UsageFault WordKind :=
  let cs := word.toList
  if word == "--" then .ok .separator
  else if cs.head? ≠ some '-' then .ok .plain
  else match (allNames specs).lookup word with
    | some spec => .ok (.option spec none)
    | none =>
      if cs.length = 1 then .ok .plain
      else
        let (name, attached) := splitMark cs
        match attached, (allNames specs).lookup (String.ofList name) with
        | some a, some spec => .ok (.option spec (some a))
        | _, _ =>
          match candidates specs cs with
          | [(_, spec, attached)] => .ok (.option spec attached)
          | [] => .ok (if isNegativeNumber cs || cs.contains ' ' then .plain else .unknownOption)
          | found => .error (.ambiguous word (found.map Prod.fst))

/-- The kinds of all words. -/
def kindsOf (specs : List OptionSpec) : List String → Except UsageFault (List (String × WordKind))
  | [] => .ok []
  | word :: rest => do
    let kind ← kindOf specs word
    if kind = .separator then
      return (word, kind) :: rest.map fun w => (w, .plain)
    return (word, kind) :: (← kindsOf specs rest)

/-! ## Reading -/

/-- What was found among words: the options with their values, the words that are none of ours, and
the words from the first command on. -/
structure Reading where
  options : List (OptionSpec × Option String) := []
  extras : List String := []
  command : List String := []
  deriving Repr

namespace Reading

def addOption (spec : OptionSpec) (value : Option String) (r : Reading) : Reading :=
  { r with options := (spec, value) :: r.options }

def addExtra (word : String) (r : Reading) : Reading :=
  { r with extras := word :: r.extras }

/-- The values given to an option, in order. -/
def values (r : Reading) (spec : OptionSpec) : List String :=
  r.options.filterMap fun (s, value) => if s = spec then value else none

/-- The value given to an option; the last one counts. -/
def value? (r : Reading) (spec : OptionSpec) : Option String := (r.values spec).getLast?

def isGiven (r : Reading) (spec : OptionSpec) : Bool := r.options.any fun (s, _) => s = spec

end Reading

/-- The option that asks for help. -/
def helpOption : OptionSpec := { names := ["-h", "--help"], takesValue := false }

/-- Reads what stands in one word behind the option for help and its dash. Of the letters that may
follow there, only the one that asks for help again is known; any other one is left alone. -/
def readJoined (spec : OptionSpec) : List Char → UsageFault
  | 'h' :: '=' :: value => .valueUnwanted spec.shown (String.ofList value)
  | 'h' :: rest => readJoined spec rest
  | '-' :: rest => .valueUnwanted spec.shown (String.ofList ('-' :: rest))
  | _ => .help

/-- Reads an option that takes no value. A word may join such an option to others, of which none but
the one for help exists. -/
def readSwitch (spec : OptionSpec) (attached : Option Attached) : Except UsageFault Unit :=
  match attached with
  | some a =>
    .error (if a.byMark then .valueUnwanted spec.shown a.value
      else readJoined spec a.value.toList)
  | none => if spec = helpOption then .error .help else .ok ()

/-- Reads words. If a command is wanted, the first plain word is one and the words behind it belong to
it; a double dash in front of it is taken for the command. -/
def readWords (wantsCommand : Bool) : List (String × WordKind) → Except UsageFault Reading
  | [] => .ok {}
  | (word, kind) :: rest =>
    match kind with
    | .option spec attached =>
      if spec.takesValue then
        match attached, rest with
        | some a, rest => do return (← readWords wantsCommand rest).addOption spec (some a.value)
        | none, (value, .plain) :: rest => do
          return (← readWords wantsCommand rest).addOption spec (some value)
        | none, _ => .error (.valueMissing spec.shown)
      else do
        readSwitch spec attached
        return (← readWords wantsCommand rest).addOption spec none
    | .unknownOption => do return (← readWords wantsCommand rest).addExtra word
    | .plain =>
      if wantsCommand then .ok { command := word :: rest.map Prod.fst }
      else do return (← readWords wantsCommand rest).addExtra word
    | .separator =>
      if wantsCommand && !rest.isEmpty then .ok { command := word :: rest.map Prod.fst }
      else do return (← readWords wantsCommand rest).addExtra word

/-- Reads the words of a command with the given options. -/
def read (specs : List OptionSpec) (wantsCommand : Bool) (words : List String) :
    Except UsageFault Reading := do
  readWords wantsCommand (← kindsOf (helpOption :: specs) words)

/-- The options that have to be given and are not. -/
def missingOptions (specs : List OptionSpec) (r : Reading) : List String :=
  (specs.filter fun spec => spec.required && !r.isGiven spec).map OptionSpec.shown

end ConnectClients.CommandLine
