import ConnectClients.Proofs.Yaml.Lines
import ConnectClients.Yaml.Node

/-!
# Trees of lines

A list of tokens is read as a node, as the entries of a mapping or as the items of a list if it is
read so in front of any other tokens. What lines are read as is then known from their parts: a key
with a value, a key with lines of a collection further right, an item, and one part after another.
-/

namespace ConnectClients.Yaml

/-! ## Tokens of nodes -/

namespace Parse

variable {st : ParseState} {t : Token} {rest : List Token}

/-- The state behind some tokens. -/
def behind (st : ParseState) (rest : List Token) : ParseState := { st with tokens := rest }

/-- The node of a plain scalar. -/
def plainNode (text : List Char) : Node := .scalar (resolve text) ⟨text, none⟩

theorem peek_eq (h : st.tokens = t :: rest) : peek st = .ok (some t, st) := by
  show Except.ok (st.tokens.head?, st) = _
  rw [h]
  rfl

theorem drop_eq (h : st.tokens = t :: rest) : drop st = .ok ((), behind st rest) := by
  show Except.ok ((), { st with tokens := st.tokens.drop 1 }) = _
  rw [h]
  rfl

theorem accept_eq (h : st.tokens = t :: rest) : accept t st = .ok (true, behind st rest) := by
  rw [accept, bind_ok (peek_eq h), if_pos (by simp)]
  exact bind_ok (drop_eq h)

theorem accept_other {t' : Token} (h : st.tokens = t :: rest) (hne : t ≠ t') :
    accept t' st = .ok (false, st) := by
  rw [accept, bind_ok (peek_eq h), if_neg (by simpa using hne)]
  rfl

theorem expect_eq (h : st.tokens = t :: rest) : expect t st = .ok ((), behind st rest) := by
  rw [expect, bind_ok (accept_eq h)]
  rfl

theorem properties_none (h : st.tokens = t :: rest) (hanchor : ∀ name, t ≠ .anchor name)
    (htag : ∀ text, t ≠ .tag text) : properties st = .ok ({}, st) := by
  rw [properties, bind_ok (peek_eq h)]
  cases t with
  | anchor name => exact absurd rfl (hanchor name)
  | tag text => exact absurd rfl (htag text)
  | _ => rfl

/-- There is fuel for a call if there is a token for it. -/
theorem exists_fuel {fuel : Nat} {ts : List Token} (hfuel : 4 * ts.length ≤ fuel) (hne : ts ≠ []) :
    ∃ fuel', fuel = fuel' + 1 := by
  have hlength := List.length_pos_iff.mpr hne
  exact Nat.exists_eq_add_one.mpr (by omega)

/-- Tokens of a node in a block, whatever follows them. -/
structure ReadsNode (ts : List Token) (n : Node) : Prop where
  head : ∃ t more, ts = t :: more ∧ t ∉ [Token.blockEntry, .key, .value, .blockEnd]
  reads : ∀ fuel unindented st rest, 4 * ts.length ≤ fuel → st.tokens = ts ++ rest →
    node fuel true unindented st = .ok (n, behind st rest)

/-- Tokens of the entries of a block mapping, with the token that closes it. -/
def ReadsEntries (ts : List Token) (entries : List (Node × Node)) : Prop :=
  ∀ fuel st rest, 4 * ts.length ≤ fuel → st.tokens = ts ++ rest →
    blockEntries fuel st = .ok (entries, behind st rest)

/-- Tokens of the items of a block sequence, with the token that closes it. -/
def ReadsItems (ts : List Token) (items : List Node) : Prop :=
  ∀ fuel st rest, 4 * ts.length ≤ fuel → st.tokens = ts ++ rest →
    blockItems fuel st = .ok (items, behind st rest)

variable {ts : List Token} {n : Node} {entries : List (Node × Node)} {items : List Node}

theorem readsNode_scalar (text : List Char) :
    ReadsNode [word text] (plainNode text) where
  head := ⟨_, _, rfl, by simp [word]⟩
  reads fuel unindented st rest hfuel h := by
    obtain ⟨fuel, rfl⟩ := exists_fuel hfuel (List.cons_ne_nil _ _)
    have hpeek := peek_eq h
    rw [node, bind_ok hpeek]
    refine (bind_ok (properties_none h (by simp [word]) (by simp [word]))).trans ?_
    rw [bind_ok hpeek]
    exact bind_ok (drop_eq h)

theorem readsNode_mapping (hentries : ReadsEntries ts entries) :
    ReadsNode (.blockMappingStart :: ts) (.mapping .map entries) where
  head := ⟨_, _, rfl, by simp⟩
  reads fuel unindented st rest hfuel h := by
    obtain ⟨fuel, rfl⟩ := exists_fuel hfuel (List.cons_ne_nil _ _)
    rw [List.length_cons] at hfuel
    have hpeek := peek_eq h
    have hrun := hentries fuel (behind st (ts ++ rest)) rest (by omega) rfl
    rw [node, bind_ok hpeek]
    refine (bind_ok (properties_none h (by simp) (by simp))).trans ?_
    rw [bind_ok hpeek]
    refine (bind_ok (drop_eq h)).trans ?_
    refine (bind_ok (rfl : checkNew none _ = .ok ((), behind st (ts ++ rest)))).trans ?_
    refine (bind_ok (rfl : announce none _ _ = .ok ((), behind st (ts ++ rest)))).trans ?_
    exact bind_ok hrun

theorem readsNode_sequence (hitems : ReadsItems ts items) :
    ReadsNode (.blockSequenceStart :: ts) (.sequence .seq items) where
  head := ⟨_, _, rfl, by simp⟩
  reads fuel unindented st rest hfuel h := by
    obtain ⟨fuel, rfl⟩ := exists_fuel hfuel (List.cons_ne_nil _ _)
    rw [List.length_cons] at hfuel
    have hpeek := peek_eq h
    have hrun := hitems fuel (behind st (ts ++ rest)) rest (by omega) rfl
    rw [node, bind_ok hpeek]
    refine (bind_ok (properties_none h (by simp) (by simp))).trans ?_
    rw [bind_ok hpeek]
    refine (bind_ok (drop_eq h)).trans ?_
    refine (bind_ok (rfl : checkNew none _ = .ok ((), behind st (ts ++ rest)))).trans ?_
    refine (bind_ok (rfl : announce none _ _ = .ok ((), behind st (ts ++ rest)))).trans ?_
    exact bind_ok hrun

theorem ReadsNode.unless (h : ReadsNode ts n) {stops : List Token}
    (hstops : ∀ t ∈ stops, t ∈ [Token.blockEntry, .key, .value, .blockEnd]) {fuel : Nat}
    (hfuel : 4 * ts.length < fuel) {unindented : Bool} {st : ParseState} {rest : List Token}
    (htokens : st.tokens = ts ++ rest) :
    nodeUnless fuel stops true unindented st = .ok (n, behind st rest) := by
  obtain ⟨fuel, rfl⟩ := Nat.exists_eq_add_one.mpr (Nat.zero_lt_of_lt hfuel)
  obtain ⟨t, more, rfl, ht⟩ := h.head
  have hnot : at? stops st = .ok (false, st) := by
    have hstop : stops.contains t = false := by simpa using mt (hstops t) ht
    rw [at?, bind_ok (peek_eq htokens)]
    show Except.ok (stops.contains t, st) = _
    rw [hstop]
  rw [nodeUnless, bind_ok hnot, if_neg Bool.false_ne_true]
  exact h.reads fuel unindented st rest (Nat.le_of_lt_succ hfuel) htokens

theorem readsEntries_nil : ReadsEntries [.blockEnd] [] := by
  intro fuel st rest hfuel h
  obtain ⟨fuel, rfl⟩ := exists_fuel hfuel (List.cons_ne_nil _ _)
  rw [blockEntries, bind_ok (accept_other h (by simp)), if_neg Bool.false_ne_true,
    bind_ok (accept_eq h), if_pos rfl]
  rfl

theorem readsEntries_cons {key : List Char} {vs : List Token} (hvalue : ReadsNode vs n)
    (hrest : ReadsEntries ts entries) :
    ReadsEntries (.key :: word key :: .value :: (vs ++ ts))
      ((plainNode key, n) :: entries) := by
  intro fuel st rest hfuel h
  -- a key has tokens enough for the calls that read it and its value
  obtain ⟨fuel, rfl⟩ := exists_fuel hfuel (List.cons_ne_nil _ _)
  simp only [List.length_cons, List.length_append] at hfuel
  obtain ⟨fuel, rfl⟩ := Nat.exists_eq_add_one.mpr (show 0 < fuel by omega)
  simp only [List.cons_append, List.append_assoc] at h
  have hkey : nodeUnless (fuel + 1) [.key, .value, .blockEnd] true true
      (behind st (word key :: .value :: (vs ++ (ts ++ rest)))) =
      .ok (plainNode key, behind st (.value :: (vs ++ (ts ++ rest)))) :=
    (readsNode_scalar key).unless (by simp) (by simp; omega) rfl
  have hval : blockValue (fuel + 1) (behind st (.value :: (vs ++ (ts ++ rest)))) =
      .ok (n, behind st (ts ++ rest)) := by
    rw [blockValue, bind_ok (accept_eq rfl), if_pos rfl]
    exact hvalue.unless (by simp) (by omega) rfl
  have hmore : blockEntries (fuel + 1) (behind st (ts ++ rest)) = .ok (entries, behind st rest) :=
    hrest _ _ _ (by omega) rfl
  rw [blockEntries, bind_ok (accept_eq h), if_pos rfl, bind_ok hkey, bind_ok hval, bind_ok hmore]
  rfl

theorem readsItems_nil : ReadsItems [.blockEnd] [] := by
  intro fuel st rest hfuel h
  obtain ⟨fuel, rfl⟩ := exists_fuel hfuel (List.cons_ne_nil _ _)
  have hexpect : expect .blockEnd st = .ok ((), behind st rest) := expect_eq h
  rw [blockItems, bind_ok (accept_other h (by simp)), if_neg Bool.false_ne_true, bind_ok hexpect]
  rfl

theorem readsItems_cons {vs : List Token} (hitem : ReadsNode vs n)
    (hrest : ReadsItems ts items) : ReadsItems (.blockEntry :: (vs ++ ts)) (n :: items) := by
  intro fuel st rest hfuel h
  obtain ⟨fuel, rfl⟩ := exists_fuel hfuel (List.cons_ne_nil _ _)
  simp only [List.length_cons, List.length_append] at hfuel
  simp only [List.cons_append, List.append_assoc] at h
  have hnode : nodeUnless fuel [.blockEntry, .blockEnd] true false
      (behind st (vs ++ (ts ++ rest))) = .ok (n, behind st (ts ++ rest)) :=
    hitem.unless (by simp) (by omega) rfl
  have hmore : blockItems fuel (behind st (ts ++ rest)) = .ok (items, behind st rest) :=
    hrest _ _ _ (by omega) rfl
  rw [blockItems, bind_ok (accept_eq h), if_pos rfl, bind_ok hnode, bind_ok hmore]
  rfl

/-- The tokens of one node in a block are those of one document. -/
theorem stream_eq (h : ReadsNode ts n)
    (hstart : ∃ t ∈ ts.head?, isDirective t = false ∧ t ≠ .documentStart ∧ t ≠ .streamEnd)
    {room : Nat} (hroom : ts.length ≤ room) :
    stream room { tokens := ts ++ [.streamEnd] } =
      .ok (some n, { tokens := [], handles := defaultHandles }) := by
  obtain ⟨t, ht, hdirective, hdocument, hend⟩ := hstart
  obtain ⟨more, rfl⟩ := List.head?_eq_some_iff.mp ht
  have hpeek : peek { tokens := t :: more ++ [.streamEnd] } =
    .ok (some t, { tokens := t :: more ++ [.streamEnd] }) := rfl
  have hnode : node (4 * room + 8) true false
      { tokens := t :: more ++ [.streamEnd], handles := defaultHandles } =
        .ok (n, { tokens := [.streamEnd], handles := defaultHandles }) :=
    h.reads _ _ _ _ (by omega) rfl
  have hends : dropDocumentEnds (room + 1) { tokens := [.streamEnd], handles := defaultHandles } =
      .ok ((), { tokens := [.streamEnd], handles := defaultHandles }) := by
    rw [dropDocumentEnds, bind_ok (accept_other rfl (by simp)), if_neg Bool.false_ne_true]
    rfl
  have hlast : expect .streamEnd { tokens := [.streamEnd], handles := defaultHandles } =
      .ok ((), { tokens := [], handles := defaultHandles }) := expect_eq rfl
  rw [stream]
  dsimp only
  rw [bind_ok hpeek, if_neg (by simp [hdirective, hdocument, hend])]
  rw [modify_bind, bind_ok hnode, bind_ok hends, bind_ok hlast]
  rfl

end Parse

/-! ## Nodes of lines -/

namespace Scan.Layout

variable {column : Nat} {columns : List Nat} {ts : List Token}

theorem leave_cons_of_lt {c : Nat} (h : column < c) :
    leave ⟨c :: columns, ts⟩ column = leave ⟨columns, ts ++ [.blockEnd]⟩ column := by
  simp [leave, h, List.replicate_succ]

theorem leave_cons_of_le {c : Nat} (h : c ≤ column) :
    leave ⟨c :: columns, ts⟩ column = ⟨c :: columns, ts⟩ := by
  simp [leave, Nat.not_lt.mpr h]

theorem leave_leave {n : Nat} (s : Layout) (h : n ≤ column) :
    (s.leave column).leave n = s.leave n := by
  obtain ⟨columns, ts⟩ := s
  induction columns generalizing ts with
  | nil => simp [leave]
  | cons c rest ih =>
      by_cases hc : column < c
      · rw [leave_cons_of_lt hc, leave_cons_of_lt (Nat.lt_of_le_of_lt h hc), ih]
      · rw [leave_cons_of_le (Nat.le_of_not_lt hc)]

end Scan.Layout

open Scan (Layout)

/-- The token that opens the collection a line is a part of. -/
def Line.opener (line : Line) : Token :=
  match line.content with
  | .key false _ | .pair false _ _ => .blockMappingStart
  | .key true _ | .pair true _ _ | .item _ => .blockSequenceStart

/-- Lines, the first one at a column, that add tokens to those of the collection there. -/
structure Adds (start : Token) (column : Nat) (lines : List Line) (ts : List Token) : Prop where
  first : ∃ line ∈ lines.head?, line.column = column ∧ line.opener = start
  adds : ∀ outer before, (lines.foldl Line.step ⟨column :: outer, before⟩).leave column =
    ⟨column :: outer, before ++ ts⟩

namespace Adds

variable {start : Token} {column : Nat} {lines lines' : List Line} {ts ts' : List Token}

/-- Lines read behind others, which may have left collections further right open. -/
theorem foldl_leave (h : Adds start column lines ts) (s : Layout) :
    lines.foldl Line.step (s.leave column) = lines.foldl Line.step s := by
  obtain ⟨line, hline, rfl, -⟩ := h.first
  obtain ⟨rest, rfl⟩ := List.head?_eq_some_iff.mp hline
  rw [List.foldl_cons, List.foldl_cons, Line.step, Line.step, Layout.leave_leave s (Nat.le_refl _)]

theorem append (h : Adds start column lines ts) {start' : Token}
    (h' : Adds start' column lines' ts') : Adds start column (lines ++ lines') (ts ++ ts') where
  first := by
    obtain ⟨line, hline, hfirst⟩ := h.first
    obtain ⟨rest, rfl⟩ := List.head?_eq_some_iff.mp hline
    exact ⟨line, rfl, hfirst⟩
  adds outer before := by
    rw [List.foldl_append, ← h'.foldl_leave, h.adds, h'.adds, List.append_assoc]

/-- Lines open their collection if there is none at their column. -/
theorem opens (h : Adds start column lines ts) {columns : List Nat}
    (hcolumns : columns.head?.all (· < column) = true) (before : List Token) :
    (lines.foldl Line.step ⟨columns, before⟩).leave column =
      ⟨column :: columns, before ++ start :: ts⟩ := by
  have hadds := h.adds columns (before ++ [start])
  obtain ⟨line, hline, rfl, rfl⟩ := h.first
  obtain ⟨rest, rfl⟩ := List.head?_eq_some_iff.mp hline
  have hout : Layout.leave ⟨columns, before⟩ line.column = ⟨columns, before⟩ :=
    Layout.leave_of_below fun c hc => by
      rw [hc] at hcolumns
      exact Nat.le_of_lt (by simpa using hcolumns)
  have hin : Layout.leave ⟨line.column :: columns, before ++ [line.opener]⟩ line.column = _ :=
    Layout.leave_cons_of_le (Nat.le_refl line.column)
  have hafter : line.after ⟨columns, before⟩ =
      line.after ⟨line.column :: columns, before ++ [line.opener]⟩ := by
    obtain ⟨column, content, notes⟩ := line
    cases content with
    | key dash name =>
        cases dash <;>
          simp [Line.after, Line.behindKey, Line.behindDash, Line.keyColumn, Line.opener,
            Layout.enter, hcolumns]
    | pair dash name value =>
        cases dash <;>
          simp [Line.after, Line.behindKey, Line.behindDash, Line.keyColumn, Line.opener,
            Layout.enter, hcolumns]
    | item value =>
        simp [Line.after, Line.behindDash, Line.opener, Layout.enter, Layout.add, hcolumns]
  rw [List.foldl_cons, Line.step, hin, ← hafter] at hadds
  rw [List.foldl_cons, Line.step, hout, hadds, List.append_assoc, List.singleton_append]

end Adds

/-- Lines that are read as entries of a mapping at a column. -/
def Entries (column : Nat) (lines : List Line) (entries : List (Node × Node)) : Prop :=
  ∃ ts, Adds .blockMappingStart column lines ts ∧ ∀ more others,
    Parse.ReadsEntries more others → Parse.ReadsEntries (ts ++ more) (entries ++ others)

/-- Lines that are read as items of a list at a column. -/
def Items (column : Nat) (lines : List Line) (items : List Node) : Prop :=
  ∃ ts, Adds .blockSequenceStart column lines ts ∧ ∀ more others,
    Parse.ReadsItems more others → Parse.ReadsItems (ts ++ more) (items ++ others)

variable {column : Nat} {lines lines' : List Line} {entries entries' : List (Node × Node)}
  {items items' : List Node} {n : Node} {name value : List Char} {notes : List Note}

open Parse (plainNode)

theorem Entries.append (h : Entries column lines entries) (h' : Entries column lines' entries') :
    Entries column (lines ++ lines') (entries ++ entries') := by
  obtain ⟨ts, hadds, hreads⟩ := h
  obtain ⟨ts', hadds', hreads'⟩ := h'
  refine ⟨ts ++ ts', hadds.append hadds', fun more others hmore => ?_⟩
  rw [List.append_assoc, List.append_assoc]
  exact hreads _ _ (hreads' _ _ hmore)

theorem Items.append (h : Items column lines items) (h' : Items column lines' items') :
    Items column (lines ++ lines') (items ++ items') := by
  obtain ⟨ts, hadds, hreads⟩ := h
  obtain ⟨ts', hadds', hreads'⟩ := h'
  refine ⟨ts ++ ts', hadds.append hadds', fun more others hmore => ?_⟩
  rw [List.append_assoc, List.append_assoc]
  exact hreads _ _ (hreads' _ _ hmore)

/-- Items, and more items that are written alike. -/
theorem Items.append_map {α : Type} {text : α → Line} {item : α → Node} {xs : List α}
    (h : Items column lines items) (hxs : ∀ x ∈ xs, Items column [text x] [item x]) :
    Items column (lines ++ xs.map text) (items ++ xs.map item) := by
  induction xs generalizing lines items with
  | nil => simpa using h
  | cons x xs ih =>
      obtain ⟨hx, hrest⟩ := List.forall_mem_cons.mp hxs
      have hmore := ih (h.append hx) hrest
      simpa using hmore

/-- A key and its value. -/
theorem Entries.pair :
    Entries column [⟨column, .pair false name value, notes⟩] [(plainNode name, plainNode value)] := by
  refine ⟨[.key, word name, .value, word value], ⟨⟨_, rfl, rfl, rfl⟩, fun outer before => ?_⟩,
    fun more others hmore => ?_⟩
  · simp [Line.step, Line.after, Line.behindKey, Line.behindDash, Line.keyColumn, Layout.leave,
      Layout.enter, Layout.add]
  · exact Parse.readsEntries_cons (Parse.readsNode_scalar value) hmore

/-- A key, and lines of a collection further right. -/
theorem Entries.nested {start : Token} {c : Nat} {ts : List Token} (hc : column < c)
    (hadds : Adds start c lines ts) (hreads : Parse.ReadsNode (start :: (ts ++ [.blockEnd])) n) :
    Entries column (⟨column, .key false name, notes⟩ :: lines) [(plainNode name, n)] := by
  refine ⟨.key :: word name :: .value :: (start :: (ts ++ [.blockEnd])),
    ⟨⟨_, rfl, rfl, rfl⟩, fun outer before => ?_⟩, fun more others hmore => ?_⟩
  · have hkey : Line.step ⟨column :: outer, before⟩ ⟨column, .key false name, notes⟩ =
        ⟨column :: outer, before ++ [.key, word name, .value]⟩ := by
      simp [Line.step, Line.after, Line.behindKey, Line.behindDash, Line.keyColumn, Layout.leave,
        Layout.enter]
    have hopen := @Adds.opens _ _ _ _ hadds (column :: outer) (by simpa using hc)
      (before ++ [.key, word name, .value])
    rw [List.foldl_cons, hkey, ← Layout.leave_leave _ (Nat.le_of_lt hc), hopen,
      Layout.leave_cons_of_lt hc,
      Layout.leave_cons_of_le (Nat.le_refl column)]
    simp
  · exact Parse.readsEntries_cons hreads hmore

theorem Entries.mapping {c : Nat} (hc : column < c) (h : Entries c lines entries) :
    Entries column (⟨column, .key false name, notes⟩ :: lines)
      [(plainNode name, .mapping .map entries)] := by
  obtain ⟨ts, hadds, hreads⟩ := h
  have hentries := hreads _ _ Parse.readsEntries_nil
  rw [List.append_nil] at hentries
  exact .nested hc hadds (Parse.readsNode_mapping hentries)

theorem Entries.sequence {c : Nat} (hc : column < c) (h : Items c lines items) :
    Entries column (⟨column, .key false name, notes⟩ :: lines)
      [(plainNode name, .sequence .seq items)] := by
  obtain ⟨ts, hadds, hreads⟩ := h
  have hitems := hreads _ _ Parse.readsItems_nil
  rw [List.append_nil] at hitems
  exact .nested hc hadds (Parse.readsNode_sequence hitems)

/-- An item that is a plain scalar. -/
theorem Items.item : Items column [⟨column, .item value, notes⟩] [plainNode value] := by
  refine ⟨[.blockEntry, word value], ⟨⟨_, rfl, rfl, rfl⟩, fun outer before => ?_⟩,
    fun more others hmore => ?_⟩
  · simp [Line.step, Line.after, Line.behindDash, Layout.leave, Layout.enter, Layout.add]
  · exact Parse.readsItems_cons (Parse.readsNode_scalar value) hmore

/-- A mapping whose first key stands behind the dash of an item. -/
theorem Items.mapping
    (h : Entries (column + 2) (⟨column + 2, .pair false name value, []⟩ :: lines) entries) :
    Items column (⟨column, .pair true name value, notes⟩ :: lines) [.mapping .map entries] := by
  obtain ⟨ts, hadds, hreads⟩ := h
  have hentries := hreads _ _ Parse.readsEntries_nil
  rw [List.append_nil] at hentries
  refine ⟨.blockEntry :: .blockMappingStart :: (ts ++ [.blockEnd]),
    ⟨⟨_, rfl, rfl, rfl⟩, fun outer before => ?_⟩, fun more others hmore => ?_⟩
  · have hdash : Line.step ⟨column :: outer, before⟩ ⟨column, .pair true name value, notes⟩ =
        Line.step ⟨column :: outer, before ++ [.blockEntry]⟩
          ⟨column + 2, .pair false name value, []⟩ := by
      simp [Line.step, Line.after, Line.behindKey, Line.behindDash, Line.keyColumn, Layout.leave,
        Layout.enter]
    have hopen := @Adds.opens _ _ _ _ hadds (column :: outer) (by simp) (before ++ [.blockEntry])
    rw [List.foldl_cons] at hopen ⊢
    rw [hdash, ← Layout.leave_leave _ (Nat.le_add_right column 2), hopen,
      Layout.leave_cons_of_lt (Nat.lt_add_of_pos_right (by decide)),
      Layout.leave_cons_of_le (Nat.le_refl column)]
    simp
  · exact Parse.readsItems_cons (Parse.readsNode_mapping hentries) hmore

/-! ## Trees of documents -/

mutual

theorem refill_none (n : Node) : n.refill (fun _ => none) = n := by
  cases n with
  | scalar tag text => rfl
  | sequence tag items => rw [Node.refill, refillItems_none items]
  | mapping tag entries => rw [Node.refill, refillEntries_none entries]
  | loop name content => rfl

theorem refillItems_none (items : List Node) : Node.refillItems (fun _ => none) items = items := by
  cases items with
  | nil => rfl
  | cons item rest => rw [Node.refillItems, refill_none item, refillItems_none rest]

theorem refillEntries_none (entries : List (Node × Node)) :
    Node.refillEntries (fun _ => none) entries = entries := by
  match entries with
  | [] => rfl
  | (k, v) :: rest => rw [Node.refillEntries, refill_none k, refill_none v, refillEntries_none rest]

end

/-- **The tree of a text of lines** is the mapping they are read as. -/
theorem ofText?_linesText {line : Line} {rest : List Line} (hfit : AllFit (line :: rest))
    (hfirst : line.notes = [] ∧ line.column = 0)
    (h : Entries 0 (line :: rest) entries) :
    Node.ofText? (linesText (line :: rest)) = .ok (some (.mapping .map entries)) := by
  obtain ⟨ts, hadds, hreads⟩ := h
  have htokens := tokens_linesText hfit hfirst
  have hlayout := @Adds.opens _ _ _ _ hadds [] rfl []
  have hlines : lineTokens (line :: rest) =
      .blockMappingStart :: (ts ++ [.blockEnd]) ++ [.streamEnd] := by
    rw [lineTokens]
    show (List.foldl Line.step ⟨[], []⟩ (line :: rest) |>.leave 0).tokens ++ _ ++ _ = _
    rw [hlayout]
    simp
  have hentries := hreads _ _ Parse.readsEntries_nil
  rw [List.append_nil] at hentries
  have hroom : (Token.blockMappingStart :: (ts ++ [.blockEnd])).length ≤
      (lineTokens (line :: rest)).length := by
    rw [hlines]
    simp
  have hstream := Parse.stream_eq (Parse.readsNode_mapping hentries)
    ⟨.blockMappingStart, rfl, rfl, by simp, by simp⟩ hroom
  rw [← hlines] at hstream
  rw [Node.ofText?, htokens]
  show (Parse.stream (lineTokens (line :: rest)).toArray.size
    { tokens := (lineTokens (line :: rest)).toArray.toList } >>= _) = _
  rw [List.size_toArray, List.toList_toArray, hstream]
  show Except.ok (some (Node.unroll [] Node.reach _)) = _
  rw [Node.reach, Node.unroll]
  exact congrArg (Except.ok ∘ some) (refill_none _)

end ConnectClients.Yaml
