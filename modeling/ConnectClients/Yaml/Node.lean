import ConnectClients.Yaml.Scalar

/-!
# YAML trees

The tokens of a text that holds at most one document, as a tree. Aliases are replaced by what they
name; an alias inside of what it names is a loop, which is followed a few times and then cut.
-/

namespace ConnectClients.Yaml

inductive Node where
  | scalar (tag : Tag) (text : ScalarText)
  | sequence (tag : Tag) (items : List Node)
  | mapping (tag : Tag) (entries : List (Node × Node))
  /-- An alias for a sequence, or a mapping, that it is a part of, and what that holds. -/
  | loop (name : List Char) (content : Node)
  deriving Repr

/-- What is known while a tree is built. -/
structure ParseState where
  tokens : List Token
  handles : List (List Char × List Char) := []
  anchors : List (List Char × Node) := []

abbrev Parse := StateT ParseState (Except Fault)

/-- The handles every document knows. -/
def defaultHandles : List (List Char × List Char) :=
  [(['!'], ['!']), (['!', '!'], standardPrefix)]

namespace Parse

def peek : Parse (Option Token) := do return (← get).tokens.head?

def drop : Parse Unit := modify fun st => { st with tokens := st.tokens.drop 1 }

/-- Takes the next token if it is the one given. -/
def accept (t : Token) : Parse Bool := do
  if (← peek) == some t then
    drop
    return true
  return false

def expect (t : Token) : Parse Unit := do
  if !(← accept t) then throw .malformed

/-- Whether the next token is one of those given. -/
def at? (ts : List Token) : Parse Bool := do
  return (← peek).any fun t => ts.contains t

/-! ## Properties of a node -/

/-- An anchor and a tag, as written. -/
structure Properties where
  anchor : Option (List Char) := none
  /-- The tag, with its handle replaced; a lone exclamation mark is a tag that says nothing. -/
  tag : Option (List Char) := none

def expandTag (t : TagText) : Parse (List Char) := do
  match t.handle with
  | none => return t.suffix
  | some handle =>
    match (← get).handles.lookup handle with
    | some start => return start ++ t.suffix
    | none => throw .malformed

/-- An anchor and a tag in either order, each of which may be missing. -/
def properties : Parse Properties := do
  match (← peek) with
  | some (.anchor name) =>
    drop
    match (← peek) with
    | some (.tag t) =>
      drop
      return ⟨some name, some (← expandTag t)⟩
    | _ => return ⟨some name, none⟩
  | some (.tag t) =>
    drop
    match (← peek) with
    | some (.anchor name) =>
      drop
      return ⟨some name, some (← expandTag t)⟩
    | _ => return ⟨none, some (← expandTag t)⟩
  | _ => return {}

/-- The tag of a collection. -/
def Properties.tagOr (ps : Properties) (default : Tag) : Tag :=
  match ps.tag with
  | none | some ['!'] => default
  | some uri => .ofUri uri

/-- A scalar: a plain one without a tag, and any with a tag that says nothing, is resolved. -/
def Properties.scalar (ps : Properties) (text : ScalarText) (plain : Bool) : Node :=
  match ps.tag with
  | none => .scalar (if plain then resolve text.text else .str) text
  | some ['!'] => .scalar (resolve text.text) text
  | some uri => .scalar (.ofUri uri) text

def emptyScalar : Node := .scalar (resolve []) { text := [] }

/-- Names a node. -/
def define (anchor : Option (List Char)) (node : Node) : Parse Unit := do
  match anchor with
  | none => return ()
  | some name => modify fun st => { st with anchors := (name, node) :: st.anchors }

/-- Names a collection whose parts are still to come. -/
def announce (anchor : Option (List Char)) (empty : Node) : Parse Unit := do
  match anchor with
  | none => return ()
  | some name => define anchor (.loop name empty)

/-- A name stands for one node only. -/
def checkNew (anchor : Option (List Char)) : Parse Unit := do
  match anchor with
  | none => return ()
  | some name => if ((← get).anchors.lookup name).isSome then throw .malformed

/-! ## Nodes

Every call takes a token, or is one of a fixed number of calls between two tokens, so the fuel, a
multiple of the number of tokens, is never used up. -/

mutual

/-- A node. Block collections are met in blocks only, and a block sequence that is not indented only
behind a key. -/
def node : Nat → (inBlock : Bool) → (unindented : Bool) → Parse Node
  | 0, _, _ => throw .malformed
  | fuel + 1, inBlock, unindented => do
    if let some (.aliasOf name) := (← peek) then
      drop
      match (← get).anchors.lookup name with
      | some n => return n
      | none => throw .malformed
    let ps ← properties
    let sequence (items : Parse (List Node)) : Parse Node := do
      checkNew ps.anchor
      announce ps.anchor (.sequence (ps.tagOr .seq) [])
      let n := Node.sequence (ps.tagOr .seq) (← items)
      define ps.anchor n
      return n
    let mapping (entries : Parse (List (Node × Node))) : Parse Node := do
      checkNew ps.anchor
      announce ps.anchor (.mapping (ps.tagOr .map) [])
      let n := Node.mapping (ps.tagOr .map) (← entries)
      define ps.anchor n
      return n
    let scalar (text : ScalarText) (plain : Bool) : Parse Node := do
      checkNew ps.anchor
      let n := ps.scalar text plain
      define ps.anchor n
      return n
    match (← peek) with
    | some .blockEntry =>
      if unindented then sequence (unindentedItems fuel)
      else if ps.anchor.isSome || ps.tag.isSome then scalar { text := [] } true
      else throw .malformed
    | some (.scalar text plain) =>
      drop
      scalar text plain
    | some .flowSequenceStart =>
      drop
      sequence (flowItems fuel true)
    | some .flowMappingStart =>
      drop
      mapping (flowEntries fuel true)
    | t =>
      if inBlock && t == some .blockSequenceStart then
        drop
        sequence (blockItems fuel)
      else if inBlock && t == some .blockMappingStart then
        drop
        mapping (blockEntries fuel)
      else if ps.anchor.isSome || ps.tag.isSome then scalar { text := [] } true
      else throw .malformed

/-- A node, or an empty scalar if one of the given tokens comes next. -/
def nodeUnless : Nat → List Token → (inBlock : Bool) → (unindented : Bool) → Parse Node
  | 0, _, _, _ => throw .malformed
  | fuel + 1, stops, inBlock, unindented => do
    if (← at? stops) then return emptyScalar
    node fuel inBlock unindented

def blockItems : Nat → Parse (List Node)
  | 0 => throw .malformed
  | fuel + 1 => do
    if (← accept .blockEntry) then
      let item ← nodeUnless fuel [.blockEntry, .blockEnd] true false
      return item :: (← blockItems fuel)
    expect .blockEnd
    return []

def unindentedItems : Nat → Parse (List Node)
  | 0 => throw .malformed
  | fuel + 1 => do
    if (← accept .blockEntry) then
      let item ← nodeUnless fuel [.blockEntry, .key, .value, .blockEnd] true false
      return item :: (← unindentedItems fuel)
    return []

def blockEntries : Nat → Parse (List (Node × Node))
  | 0 => throw .malformed
  | fuel + 1 => do
    if (← accept .key) then
      let k ← nodeUnless fuel [.key, .value, .blockEnd] true true
      let v ← blockValue fuel
      return (k, v) :: (← blockEntries fuel)
    if (← accept .blockEnd) then return []
    throw .malformed

def blockValue : Nat → Parse Node
  | 0 => throw .malformed
  | fuel + 1 => do
    if (← accept .value) then nodeUnless fuel [.key, .value, .blockEnd] true true
    else return emptyScalar

def flowItems : Nat → (first : Bool) → Parse (List Node)
  | 0, _ => throw .malformed
  | fuel + 1, first => do
    if (← accept .flowSequenceEnd) then return []
    if !first then expect .flowEntry
    if (← accept .key) then
      let k ← nodeUnless fuel [.value, .flowEntry, .flowSequenceEnd] false false
      let v ← flowValue fuel .flowSequenceEnd
      return .mapping .map [(k, v)] :: (← flowItems fuel false)
    if (← accept .flowSequenceEnd) then return []
    let item ← node fuel false false
    return item :: (← flowItems fuel false)

def flowEntries : Nat → (first : Bool) → Parse (List (Node × Node))
  | 0, _ => throw .malformed
  | fuel + 1, first => do
    if (← accept .flowMappingEnd) then return []
    if !first then expect .flowEntry
    if (← accept .key) then
      let k ← nodeUnless fuel [.value, .flowEntry, .flowMappingEnd] false false
      let v ← flowValue fuel .flowMappingEnd
      return (k, v) :: (← flowEntries fuel false)
    if (← accept .flowMappingEnd) then return []
    let k ← node fuel false false
    return (k, emptyScalar) :: (← flowEntries fuel false)

/-- The value of an entry in a flow collection that the given token closes. -/
def flowValue : Nat → (close : Token) → Parse Node
  | 0, _ => throw .malformed
  | fuel + 1, close => do
    if (← accept .value) then nodeUnless fuel [.flowEntry, close] false false
    else return emptyScalar

end

/-! ## Documents -/

/-- Directives in front of a document, given whether a version has been named. -/
def directives : Nat → (versioned : Bool) → Parse Unit
  | 0, _ => throw .malformed
  | fuel + 1, versioned => do
    match (← peek) with
    | some (.versionDirective major) =>
      if versioned || major != 1 then throw .malformed
      drop
      directives fuel true
    | some (.tagDirective handle expansion) =>
      if ((← get).handles.lookup handle).isSome then throw .malformed
      drop
      modify fun st => { st with handles := st.handles ++ [(handle, expansion)] }
      directives fuel versioned
    | some .otherDirective =>
      drop
      directives fuel versioned
    | _ => modify fun st => { st with handles := st.handles ++ defaultHandles }

def dropDocumentEnds : Nat → Parse Unit
  | 0 => return ()
  | fuel + 1 => do
    if (← accept .documentEnd) then dropDocumentEnds fuel

def isDirective : Token → Bool
  | .versionDirective _ | .tagDirective _ _ | .otherDirective => true
  | _ => false

/-- The root of the only document, if there is one. -/
def stream (room : Nat) : Parse (Option Node) := do
  let fuel := 4 * room + 8
  let explicit := (← peek).any fun t => isDirective t || t == .documentStart || t == .streamEnd
  if explicit then
    if (← accept .streamEnd) then return none
    directives (room + 1) false
    expect .documentStart
    let empty := (← peek).any fun t =>
      isDirective t || [Token.documentStart, .documentEnd, .streamEnd].contains t
    let root ← if empty then pure emptyScalar else node fuel true false
    dropDocumentEnds (room + 1)
    expect .streamEnd
    return some root
  else
    modify fun st => { st with handles := defaultHandles }
    let root ← node fuel true false
    dropDocumentEnds (room + 1)
    expect .streamEnd
    return some root

end Parse

/-! ## Loops -/

namespace Node

mutual

/-- A tree whose loops hold what is known of them by now. -/
def refill (known : List Char → Option Node) : Node → Node
  | .scalar tag text => .scalar tag text
  | .sequence tag items => .sequence tag (refillItems known items)
  | .mapping tag entries => .mapping tag (refillEntries known entries)
  | .loop name content => .loop name ((known name).getD content)

def refillItems (known : List Char → Option Node) : List Node → List Node
  | [] => []
  | item :: rest => item.refill known :: refillItems known rest

def refillEntries (known : List Char → Option Node) : List (Node × Node) → List (Node × Node)
  | [] => []
  | (k, v) :: rest => (k.refill known, v.refill known) :: refillEntries known rest

end

/-- A tree whose loops are followed a number of times; the last ones hold nothing. -/
def unroll (anchors : List (List Char × Node)) : Nat → Node → Node
  | 0, n => n
  | k + 1, n => n.refill fun name => (anchors.lookup name).map (unroll anchors k)

/-- How often a loop is followed: no reader of a document looks deeper. -/
def reach : Nat := 4

/-- The tree of a text; a text without a document has none. -/
def ofText? (text : List Char) : Except Fault (Option Node) := do
  let ts ← tokens text
  let (root, st) ← (Parse.stream ts.size).run { tokens := ts.toList }
  return root.map (unroll st.anchors reach)

end Node

end ConnectClients.Yaml
