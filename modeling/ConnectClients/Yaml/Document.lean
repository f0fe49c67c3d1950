import ConnectClients.Yaml.Node
import ConnectClients.Yaml.ScalarValue

/-!
# Values of documents

The value of a tree is built level by level: first the root, then its parts from left to right, then
the parts of those. Of several faults the one on the highest level is told, and on one level the
first. Merged entries stand before the entries of the mapping they are merged into.
-/

namespace ConnectClients.Yaml

/-- A part that was built, or the fault to tell and the level it was met on. -/
inductive Built (α : Type) where
  | ok (value : α)
  | fault (level : Nat) (fault : LoadFault)

namespace Built

variable {α β : Type}

def map (f : α → β) : Built α → Built β
  | .ok a => .ok (f a)
  | .fault level e => .fault level e

/-- Applies a built function to a built part that stands behind it. -/
def apply : Built (α → β) → Built α → Built β
  | .ok f, .ok a => .ok (f a)
  | .ok _, .fault m e => .fault m e
  | .fault l e, .ok _ => .fault l e
  | .fault l e, .fault m e' => if m < l then .fault m e' else .fault l e

instance : Applicative Built where
  pure := .ok
  seq f a := f.apply (a ())

def ofExcept (level : Nat) : Except LoadFault α → Built α
  | .ok a => .ok a
  | .error e => .fault level e

def malformed (level : Nat) : Built α := .fault level .malformed

/-- A key. Collections cannot be keys, which is known before their parts are built. -/
def asKey (level : Nat) : Built Value → Built Value
  | .ok v => if v.canBeKey then .ok v else malformed level
  | .fault l e => if level < l then malformed level else .fault l e

def toExcept : Built α → Except LoadFault α
  | .ok a => .ok a
  | .fault _ e => .error e

end Built

namespace Node

def tag : Node → Tag
  | .scalar tag _ => tag
  | .sequence tag _ => tag
  | .mapping tag _ => tag
  | .loop _ content => content.tag

mutual

/-- Whether everything that is merged into a mapping is a mapping, or a list of mappings. -/
def canMerge : List (Node × Node) → Bool
  | [] => true
  | (k, v) :: rest =>
    (k.tag != .merge || mergeable v) && canMerge rest

def mergeable : Node → Bool
  | .mapping _ entries => canMerge entries
  | .sequence _ items => allMappings items
  | .loop _ content => mergeable content
  | .scalar _ _ => false

def allMappings : List Node → Bool
  | [] => true
  | .mapping _ entries :: rest | .loop _ (.mapping _ entries) :: rest =>
    canMerge entries && allMappings rest
  | _ :: _ => false

end

/-- The text of a collection under the tag of a scalar: that of the first value under the key for
default values. -/
def defaultText? : Node → Option ScalarText
  | .scalar _ text => some text
  | .mapping _ entries => find entries
  | .sequence _ _ | .loop _ _ => none
where
  find : List (Node × Node) → Option ScalarText
    | [] => none
    | (k, v) :: rest => if k.tag == .value then v.defaultText? else find rest

mutual

/-- The value of a node that stands on a level. -/
def build (level : Nat) : Node → Built Value
  | .scalar tag text =>
    match tag with
    | .omap | .pairs | .set | .seq | .map => .malformed (level + 1)
    | tag => .ofExcept level (scalarValue tag text)
  | .sequence tag items =>
    match tag with
    | .seq => Value.list <$> buildItems (level + 1) items
    | .omap | .pairs => Value.list <$> buildPairs (level + 1) items
    | .set | .map => .malformed (level + 1)
    | _ => .malformed level
  | .mapping tag entries =>
    match tag with
    | .map =>
      if canMerge entries then
        Value.dict <$> (fold <$> buildMerged (level + 1) entries <*> buildOwn (level + 1) entries)
      else .malformed (level + 1)
    | .set =>
      if canMerge entries then
        keys <$> (fold <$> buildMerged (level + 1) entries <*> buildOwn (level + 1) entries)
      else .malformed (level + 1)
    | .omap | .pairs | .seq => .malformed (level + 1)
    | tag =>
      match defaultText?.find entries with
      | some text => .ofExcept level (scalarValue tag text)
      | none => .malformed level
  | .loop _ content => Value.cycle <$> content.build level
where
  /-- The entries of a mapping; under one key the last value counts. -/
  fold (merged own : List (Value × Value)) : List (Value × Value) :=
    (merged ++ own).foldl (fun d e => Value.putEntry e.1 e.2 d) []
  keys (entries : List (Value × Value)) : Value :=
    .set (entries.map Prod.fst)

def buildItems (level : Nat) : List Node → Built (List Value)
  | [] => .ok []
  | item :: rest => List.cons <$> item.build level <*> buildItems level rest

/-- The entries of an ordered mapping, each of them a mapping of its own. -/
def buildPairs (level : Nat) : List Node → Built (List Value)
  | [] => .ok []
  | .mapping _ [(k, v)] :: rest | .loop _ (.mapping _ [(k, v)]) :: rest =>
    (fun a b vs => Value.pair a b :: vs) <$> k.build level <*> v.build level
      <*> buildPairs level rest
  | _ :: _ => .malformed level

/-- The entries that are merged into a mapping. Of several mappings the first one stands last, so
that its values count. -/
def buildMerged (level : Nat) : List (Node × Node) → Built (List (Value × Value))
  | [] => .ok []
  | (k, v) :: rest =>
    if k.tag == .merge then
      match v with
      | .mapping _ entries | .loop _ (.mapping _ entries) =>
        (fun a b c => a ++ b ++ c) <$> buildMerged level entries <*> buildOwn level entries
          <*> buildMerged level rest
      | .sequence _ items | .loop _ (.sequence _ items) => (· ++ ·) <$> buildReversed level items <*> buildMerged level rest
      | _ => buildMerged level rest
    else buildMerged level rest

/-- The entries of mappings, the last mapping first. -/
def buildReversed (level : Nat) : List Node → Built (List (Value × Value))
  | [] => .ok []
  | .mapping _ entries :: rest | .loop _ (.mapping _ entries) :: rest =>
    (fun c a b => c ++ a ++ b) <$> buildReversed level rest <*> buildMerged level entries
      <*> buildOwn level entries
  | _ :: rest => buildReversed level rest

/-- The entries that a mapping has besides merged ones. -/
def buildOwn (level : Nat) : List (Node × Node) → Built (List (Value × Value))
  | [] => .ok []
  | (k, v) :: rest =>
    if k.tag == .merge then buildOwn level rest
    else
      let key := if k.tag == .value then
        match k with
        | .scalar _ text => .ok (textValue text)
        | _ => .malformed level
      else (k.build level).asKey level
      (fun a b es => (a, b) :: es) <$> key <*> v.build level <*> buildOwn level rest

end

end Node

/-- The value of a text; a text without a document is null. -/
def load (text : List Char) : Except LoadFault Value :=
  match Node.ofText? text with
  | .error e => .error (.ofFault e)
  | .ok none => .ok .null
  | .ok (some node) => (node.build 0).toExcept

end ConnectClients.Yaml
