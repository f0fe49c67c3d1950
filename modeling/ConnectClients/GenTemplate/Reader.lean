import ConnectClients.GenTemplate.Basic
import ConnectClients.Text.Scan

/-!
# Reading generation templates

The reader takes what it can from any text. It looks for the lines that start the sections, takes
the indented lines behind them, and looks in these for the entries that the printer writes. What it
does not find is missing in the result; no text is refused.
-/

namespace ConnectClients.GenTemplate

open Text

/-! ## Lines -/

/-- Blanks within a line that count as indentation. -/
def isIndent (c : Char) : Bool := c == ' ' || c == '\t'

/-- The lines of a text, each with the newline that ends it; joined they are the text again. -/
def linesOf : List Char → List (List Char)
  | [] => []
  | c :: cs =>
    if c = '\n' then [c] :: linesOf cs
    else match linesOf cs with
      | [] => [[c]]
      | line :: lines => (c :: line) :: lines

/-- The value behind a key: the characters up to the next blank, with indentation before them. -/
def readValue (key : String) (cs : List Char) : Option (List Char × List Char) := do
  let cs ← literal? key cs
  run? (fun c => !isBlank c) (cs.dropWhile isIndent)

/-- The value behind a key at the start of a line. -/
def valueAtStart? (key : String) (line : List Char) : Option String :=
  (readValue key line).map fun found => String.ofList found.1

/-- The values behind a key, wherever it stands. -/
def valuesOf (key : String) (cs : List Char) : List String :=
  (scanAll (readValue key) cs).map String.ofList

/-! ## Blocks -/

/-- The number of characters a line is indented by. -/
def indentWidth (line : List Char) : Nat := (line.takeWhile isIndent).length

/-- A line of blanks that a newline ends. -/
def isEmptyLine (line : List Char) : Bool := line.dropWhile isIndent == ['\n']

/-- Whether a line belongs to the block of a key indented by `indent`: it is indented further, or
it is indented alike and starts with a dash, or it is empty. -/
def inBlock (indent line : List Char) : Bool :=
  (match indent.isPrefixOf? line with
    | some (c :: _) => isIndent c || c == '-'
    | _ => false) ||
  isEmptyLine line

/-- The lines of the block of a key, the key being indented by as much as `indented` allows. -/
def findBlock (indented : Bool) (key : String) : List (List Char) → Option (List (List Char))
  | [] => none
  | line :: lines =>
    let indent := if indented then line.takeWhile isIndent else []
    if (literal? (key ++ ":") (line.drop indent.length)).isSome then
      some (lines.takeWhile (inBlock indent))
    else findBlock indented key lines

/-- The block of a section. -/
def section? (key : String) (lines : List (List Char)) : Option (List (List Char)) :=
  findBlock false key lines

/-- The block of a key inside a section. -/
def nested? (key : String) (lines : List (List Char)) : Option (List (List Char)) :=
  findBlock true key lines

/-! ## Managed mode -/

/-- The word `true` or `false` behind the key, with no word character after it. -/
def readEnabled (cs : List Char) : Option (Bool × List Char) := do
  let cs ← literal? "enabled:" cs
  let cs := cs.dropWhile isIndent
  let (value, cs) ←
    match literal? "true" cs with
    | some rest => some (true, rest)
    | none => (literal? "false" cs).map fun rest => (false, rest)
  if cs.head?.any isWord then none else some (value, cs)

/-- The blanks behind a value up to the line of the next key: a newline is the last of them that is
no indentation. -/
def skipToNextLine? (cs : List Char) : Option (List Char) :=
  let blanks := cs.takeWhile isBlank
  if (blanks.reverse.dropWhile isIndent).head? == some '\n' then some (skipBlanks cs) else none

def readOverride (cs : List Char) : Option (ManagedOverride × List Char) := do
  let (option, cs) ← readValue "file_option:" cs
  let cs ← skipToNextLine? cs
  let (value, cs) ← readValue "value:" cs
  return (⟨String.ofList option, String.ofList value⟩, cs)

def readManaged (block : List (List Char)) : Managed where
  enabled := (scanFirst? readEnabled block.flatten).any (·.1)
  disabled := (nested? "disable" block).map fun lines => valuesOf "module:" lines.flatten
  overrides := (nested? "override" block).map fun lines => scanAll readOverride lines.flatten

/-! ## Inputs -/

/-- The directories and then the modules of a block. -/
def readInputs (block : List (List Char)) : List TemplateInput :=
  ((valuesOf "directory:" block.flatten).map fun dir => ⟨some dir, none⟩) ++
    (valuesOf "module:" block.flatten).map fun name => ⟨none, some name⟩

/-! ## Plugins -/

/-- The rest of a line behind a dash and the indentation on both sides of it. -/
def dropBullet? (line : List Char) : Option (List Char) :=
  match line.dropWhile isIndent with
  | '-' :: c :: rest => if isIndent c then some (rest.dropWhile isIndent) else none
  | _ => none

/-- Cuts a block at the lines that start with a dash and drops what stands before the first. -/
def cutAtBullets : List (List Char) → List (List (List Char))
  | [] => []
  | line :: lines =>
    let rest := lines.dropWhile fun l => (dropBullet? l).isNone
    let own := lines.takeWhile fun l => (dropBullet? l).isNone
    if (dropBullet? line).isSome then (line :: own) :: cutAtBullets rest
    else cutAtBullets rest
termination_by lines => lines.length
decreasing_by
  all_goals
    have := (List.dropWhile_suffix (l := lines) fun l => (dropBullet? l).isNone).length_le
    simp only [List.length_cons]
    omega

/-- The items of a list: cuts indented like the first one start an item, without their dash, and
any other cut belongs to the item before it. -/
def joinItems (width : Nat) : List (List (List Char)) → List (List (List Char))
  | [] => []
  | cut :: cuts =>
    let deeper := cuts.takeWhile fun c => indentWidth (c.headD []) != width
    let rest := cuts.dropWhile fun c => indentWidth (c.headD []) != width
    let own := match cut with
      | [] => []
      | line :: lines => (dropBullet? line).getD line :: lines
    (own ++ deeper.flatten) :: joinItems width rest
termination_by cuts => cuts.length
decreasing_by
  have := (List.dropWhile_suffix (l := cuts) fun c => indentWidth (c.headD []) != width).length_le
  simp only [List.length_cons]
  omega

def listItems (block : List (List Char)) : List (List (List Char)) :=
  let cuts := cutAtBullets block
  joinItems (indentWidth ((cuts.headD []).headD [])) cuts

/-- The source of a plugin at the start of a line. -/
def readSource? (line : List Char) : Option (Bool × String) :=
  match valueAtStart? "local:" line with
  | some name => some (true, name)
  | none => (valueAtStart? "remote:" line).map fun name => (false, name)

/-- The option that a line lists behind a dash. -/
def readOption? (line : List Char) : Option String :=
  match line.dropWhile isIndent with
  | '-' :: rest =>
    (run? (fun c => !isBlank c) (rest.dropWhile isIndent)).map fun found => String.ofList found.1
  | _ => none

/-- A plugin has a source and a directory to write to; an item without both is no plugin. -/
def readPlugin? (item : List (List Char)) : Option Plugin := do
  let (here, name) ← item.findSome? readSource?
  let out ← item.findSome? fun line => valueAtStart? "out:" (line.dropWhile isIndent)
  let opt := (nested? "opt" item).map fun lines => lines.filterMap readOption?
  return if here then ⟨some name, none, out, opt⟩ else ⟨none, some name, out, opt⟩

def readPlugins (block : List (List Char)) : List Plugin :=
  (listItems block).filterMap readPlugin?

/-! ## The whole template -/

def readLines (lines : List (List Char)) : GenTemplate where
  version := lines.findSome? (valueAtStart? "version:")
  managed := (section? "managed" lines).map readManaged
  inputs := (section? "inputs" lines).map readInputs
  plugins := (section? "plugins" lines).map readPlugins

/-- What a text tells of a template. -/
def read (content : String) : GenTemplate :=
  readLines (linesOf content.toList)

end ConnectClients.GenTemplate
