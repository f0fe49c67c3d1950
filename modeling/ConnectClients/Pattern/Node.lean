import ConnectClients.Text.Case

/-!
# Pattern trees

A pattern is a tree whose leaves test one character or one position. The letters that switch
ignoring of case, ASCII-only classes and the like are resolved while the tree is built, so that
every leaf carries the rule it is tested by.
-/

namespace ConnectClients.Pattern

/-- How letters are compared. -/
inductive Fold where
  | exact
  | ascii
  | full
  deriving DecidableEq, Repr

/-- The predefined classes. -/
inductive Category where
  | digit
  | blank
  | word
  deriving DecidableEq, Repr

/-- One member of a class. Characters are given by number, as a pattern may name numbers that are
no character. -/
inductive ClassItem where
  | code (n : Nat)
  | range (lo hi : Nat)
  | category (kind : Category) (negated asciiOnly : Bool)
  deriving DecidableEq, Repr

/-- A test on one character: some item accepts it, or none does if `negated`. -/
structure CharClass where
  negated : Bool
  items : List ClassItem
  fold : Fold
  deriving DecidableEq, Repr

/-- A test on a position. -/
inductive Anchor where
  | textStart
  | textEnd
  | lineStart
  | lineEnd
  /-- The end of the text, or the place before the newline that ends it. -/
  | lastLineEnd
  | wordEdge (asciiOnly : Bool)
  | noWordEdge (asciiOnly : Bool)
  deriving DecidableEq, Repr

/-- Which of several counts a repetition tries first, and whether it reconsiders. -/
inductive Appetite where
  | greedy
  | lazy
  | possessive
  deriving DecidableEq, Repr

/-- The least and the greatest number of characters a part can match; a bound past `Width.limit`
counts as that limit. -/
structure Width where
  least : Nat
  most : Nat
  deriving DecidableEq, Repr

/-- A width beyond every text. -/
def Width.limit : Nat := Nat.pow 2 64

inductive Node where
  | empty
  | one (test : CharClass)
  | anchor (test : Anchor)
  | seq (first second : Node)
  | alt (first second : Node)
  | group (index : Nat) (body : Node)
  | backref (index : Nat) (fold : Fold)
  | conditional (index : Nat) (yes no : Node)
  | ahead (negated : Bool) (body : Node)
  /-- `body` matches up to here, starting `width.least` characters back. -/
  | behind (negated : Bool) (width : Width) (body : Node)
  | atomic (body : Node)
  | repetition (appetite : Appetite) (least : Nat) (most : Option Nat) (body : Node)
  deriving Repr

/-! ## Widths -/

namespace Width

def cap (w : Width) : Width :=
  ⟨min w.least limit, min w.most limit⟩

def zero : Width := ⟨0, 0⟩

def one : Width := ⟨1, 1⟩

/-- The width of two parts in a row. -/
def append (a b : Width) : Width :=
  cap ⟨a.least + b.least, a.most + b.most⟩

/-- The width of either of two parts. -/
def either (a b : Width) : Width :=
  ⟨min a.least b.least, max a.most b.most⟩

/-- The width of a part repeated. -/
def times (w : Width) (least : Nat) (most : Option Nat) : Width :=
  cap ⟨w.least * least,
    match most with
    | some n => w.most * n
    | none => if w.most = 0 then 0 else limit⟩

end Width

/-- The width of a part, given the widths of the groups it may refer to. -/
def Node.width (groups : Nat → Width) : Node → Width
  | .empty | .anchor _ | .ahead _ _ | .behind _ _ _ => .zero
  | .one _ => .one
  | .seq a b => (a.width groups).append (b.width groups)
  | .alt a b => (a.width groups).either (b.width groups)
  | .group _ a | .atomic a => a.width groups
  | .backref i _ => groups i
  | .conditional _ a b => (a.width groups).either (b.width groups)
  | .repetition _ least most a => (a.width groups).times least most

/-- The widest fixed width a part that looks behind may have. -/
def behindLimit : Nat := Nat.pow 2 32 - 1

/-- Every part that looks behind has one width, and not too large a one. -/
def Node.behindsFixed : Node → Bool
  | .empty | .anchor _ | .one _ | .backref _ _ => true
  | .seq a b | .alt a b | .conditional _ a b => a.behindsFixed && b.behindsFixed
  | .group _ a | .atomic a | .ahead _ a | .repetition _ _ _ a => a.behindsFixed
  | .behind _ w a => w.least == w.most && decide (w.least ≤ behindLimit) && a.behindsFixed

/-- Some part is repeated. -/
def Node.repeats : Node → Bool
  | .empty | .anchor _ | .one _ | .backref _ _ => false
  | .seq a b | .alt a b | .conditional _ a b => a.repeats || b.repeats
  | .group _ a | .atomic a | .ahead _ a | .behind _ _ a => a.repeats
  | .repetition _ _ _ _ => true

end ConnectClients.Pattern
