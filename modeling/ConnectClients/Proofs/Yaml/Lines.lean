import ConnectClients.Proofs.Yaml.Scanner

/-!
# Documents of lines

A text is written line by line. Each line has a key, a key and a value, or an item of a list, and
the tokens it adds depend only on the block collections that are open in front of it. So the tokens
of the whole text are those of one line after the other.
-/

namespace ConnectClients.Yaml

/-! ## Lines -/

/-- The token of a plain scalar. -/
def word (text : List Char) : Token := .scalar ⟨text, none⟩ true

/-- What stands on a line: a key, a key and its value, or an item of a list. A key behind a dash is
the first one of an item. -/
inductive Content where
  | key (dash : Bool) (name : List Char)
  | pair (dash : Bool) (name value : List Char)
  | item (value : List Char)

/-- A line, and the lines without a token in front of it. -/
structure Line where
  column : Nat
  content : Content
  notes : List Note := []

/-- A name that can be written as a key, also at the start of a line. -/
structure IsName (name : List Char) : Prop extends IsPlain name where
  short : name.length ≤ 1024
  head : ∀ c ∈ name.head?, c ≠ '-' ∧ c ≠ '.' ∧ c ≠ Char.ofNat 0xfeff

instance (name : List Char) : Decidable (IsName name) :=
  decidable_of_iff
    (IsPlain name ∧ name.length ≤ 1024 ∧
      (name.head?.all fun c => c != '-' && c != '.' && c != Char.ofNat 0xfeff) = true)
    ⟨fun ⟨hp, hs, hh⟩ => ⟨hp, hs, by simpa [Option.all_eq_true, and_assoc] using hh⟩,
      fun h => ⟨h.toIsPlain, h.short, by simpa [Option.all_eq_true, and_assoc] using h.head⟩⟩

theorem IsName.noSeparator {name : List Char} (h : IsName name) (rest : List Char) :
    NoSeparator (name ++ rest) := by
  obtain ⟨c, cs, rfl, -⟩ := h.toIsPlain.exists_cons
  obtain ⟨hdash, hdot, -⟩ := h.head c rfl
  simp [NoSeparator, hdash, hdot]

namespace Line

def dashText (dash : Bool) : List Char := if dash then ['-', ' '] else []

/-- What stands on a line behind its indentation. -/
def text (line : Line) : List Char :=
  match line.content with
  | .key dash name => dashText dash ++ (name ++ [':'])
  | .pair dash name value => dashText dash ++ (name ++ ':' :: ' ' :: value)
  | .item value => dashText true ++ value

/-- Where a key stands. -/
def keyColumn (line : Line) (dash : Bool) : Nat := if dash then line.column + 2 else line.column

def behindDash (line : Line) (dash : Bool) (s : Scan.Layout) : Scan.Layout :=
  if dash then s.enter .blockSequenceStart line.column [.blockEntry] else s

def behindKey (line : Line) (dash : Bool) (name : List Char) (s : Scan.Layout) : Scan.Layout :=
  (line.behindDash dash s).enter .blockMappingStart (line.keyColumn dash) [.key, word name, .value]

/-- The layout behind a line, given the one in front of its first token. -/
def after (line : Line) (s : Scan.Layout) : Scan.Layout :=
  match line.content with
  | .key dash name => line.behindKey dash name s
  | .pair dash name value => (line.behindKey dash name s).add (word value)
  | .item value => (line.behindDash true s).add (word value)

/-- The layout behind a line, given the one behind the line before it. -/
def step (s : Scan.Layout) (line : Line) : Scan.Layout := line.after (s.leave line.column)

/-- A line that can be written in front of notes and of a token at a column. A value ends with its
line, as what comes next does not stand further right than its collection. -/
def Fits (line : Line) (notes : List Note) (next : Nat) : Prop :=
  match line.content with
  | .key _ name => IsName name ∧ ∀ note ∈ notes, note.IsLine
  | .pair dash name value =>
    IsName name ∧ IsPlain value ∧ (∀ note ∈ notes, note.IsBlank) ∧ next ≤ line.keyColumn dash
  | .item value => IsPlain value ∧ (∀ note ∈ notes, note.IsBlank) ∧ next ≤ line.column

variable {line : Line} {notes : List Note} {next : Nat}

theorem Fits.isLine (h : line.Fits notes next) : ∀ note ∈ notes, note.IsLine := by
  have hblank : (∀ note ∈ notes, note.IsBlank) → ∀ note ∈ notes, note.IsLine := by
    intro hnotes note hnote cs hcs
    rw [show note.comment = none from hnotes note hnote] at hcs
    cases hcs
  obtain ⟨column, content, own⟩ := line
  cases content with
  | key dash name => exact h.2
  | pair dash name value => exact hblank h.2.2.1
  | item value => exact hblank h.2.1

theorem Fits.allowed (h : line.Fits notes next) : ∀ c ∈ line.text, isAllowed c = true := by
  have hdash : ∀ dash, ∀ c ∈ dashText dash, isAllowed c = true := by
    intro dash
    rw [← List.all_eq_true]
    cases dash with
    | false => rfl
    | true => decide
  have hcolon : isAllowed ':' = true := by decide
  have hspace : isAllowed ' ' = true := by decide
  obtain ⟨column, content, own⟩ := line
  cases content with
  | key dash name =>
      simp only [text, List.forall_mem_append, List.forall_mem_singleton]
      exact ⟨hdash dash, h.1.allowed, hcolon⟩
  | pair dash name value =>
      simp only [text, List.forall_mem_append, List.forall_mem_cons]
      exact ⟨hdash dash, h.1.allowed, hcolon, hspace, h.2.1.allowed⟩
  | item value =>
      simp only [text, List.forall_mem_append]
      exact ⟨hdash true, h.1.allowed⟩

/-- A text of lines starts with no byte order mark. -/
theorem Fits.head (h : line.Fits notes next) (rest : List Char) :
    (line.text ++ rest).head? ≠ some (Char.ofNat 0xfeff) := by
  have hname : ∀ {name : List Char} (dash : Bool) (rest : List Char), IsName name →
      (dashText dash ++ (name ++ rest)).head? ≠ some (Char.ofNat 0xfeff) := by
    intro name dash rest hname
    cases dash with
    | true => simp [dashText]
    | false =>
        obtain ⟨c, cs, rfl, -⟩ := hname.toIsPlain.exists_cons
        simpa [dashText] using (hname.head c rfl).2.2
  obtain ⟨column, content, own⟩ := line
  cases content with
  | key dash name =>
      rw [text, List.append_assoc, List.append_assoc]
      exact hname dash _ h.1
  | pair dash name value =>
      rw [text, List.append_assoc, List.append_assoc]
      exact hname dash _ h.1
  | item value => simp [text, dashText]

end Line

/-! ## The tokens of a line -/

namespace Scan

open Layout (indentOf)

section line

variable {s : Layout} {line : Line} {st : ScanState} {cs : List Char}

/-- What a line starts with stands at its column. -/
theorem stands_line {notes : List Note} {next : Nat} (h : line.Fits notes next)
    (rest : List Char) : Stands line.column (line.text ++ rest) := by
  obtain ⟨column, content, own⟩ := line
  have hdash : ∀ cs : List Char, Stands column ('-' :: ' ' :: cs) :=
    fun cs => ⟨by simp [StartsToken, isBreak], fun _ => by simp [NoSeparator]⟩
  have hname : ∀ {name : List Char} (dash : Bool) (cs : List Char), IsName name →
      Stands column (Line.dashText dash ++ (name ++ cs)) := by
    intro name dash cs hname
    cases dash with
    | true => exact hdash _
    | false => exact ⟨hname.toIsPlain.startsToken cs, fun _ => hname.noSeparator cs⟩
  cases content with
  | key dash name =>
      have hstands := hname dash ([':'] ++ rest) h.1
      simpa [Line.text] using hstands
  | pair dash name value =>
      have hstands := hname dash (':' :: ' ' :: (value ++ rest)) h.1
      simpa [Line.text] using hstands
  | item value => exact hdash _

theorem below_behindDash (dash : Bool) (hbelow : s.Below line.column) :
    (line.behindDash dash s).Below (line.keyColumn dash) := by
  cases dash with
  | true => exact (Layout.below_enter hbelow).mono (Nat.le_add_right _ 2)
  | false => exact hbelow

/-- A dash in front of what stands on a line. -/
theorem reaches_dash (dash : Bool) (h : Ahead st (Line.dashText dash ++ cs) line.column s true)
    (hcs : StartsToken cs) (hbelow : s.Below line.column) :
    ∃ st', Reaches st st' ∧ Ahead st' cs (line.keyColumn dash) (line.behindDash dash s) true := by
  cases dash with
  | true => exact reaches_entry h hcs hbelow
  | false => exact ⟨st, Reaches.refl st, h⟩

/-- A key, with the dash in front of it if there is one. -/
theorem reaches_name {name : List Char} {c : Char} (dash : Bool)
    (h : Ahead st (Line.dashText dash ++ (name ++ ':' :: c :: cs)) line.column s true)
    (hname : IsName name) (hc : isBreak c = true ∨ c = ' ') (hbelow : s.Below line.column) :
    ∃ i l k, line.keyColumn dash ≤ k ∧
      Reaches st ((line.behindKey dash name s).state ⟨c :: cs, i, l, k⟩ false []) := by
  obtain ⟨st₁, hdash, hahead⟩ := reaches_dash dash h (hname.toIsPlain.startsToken _) hbelow
  obtain ⟨i, l, k, hk, hkey⟩ := reaches_key hahead hname.toIsPlain hname.short hc
    (fun _ => hname.noSeparator _) (below_behindDash dash hbelow)
  exact ⟨i, l, k, hk, hdash.trans hkey⟩

/-- A line is read from its first token to the first token behind it. -/
theorem reaches_line {notes : List Note} {n : Nat}
    (h : Ahead st (line.text ++ '\n' :: (gapText notes n ++ cs)) line.column s true)
    (hfits : line.Fits notes n) (hcs : Stands n cs) (hbelow : s.Below line.column) :
    ∃ st', Reaches st st' ∧ Ahead st' cs n ((line.after s).leave n) true := by
  obtain ⟨column, content, own⟩ := line
  cases content with
  | key dash name =>
      obtain ⟨hname, hnotes⟩ := hfits
      simp only [Line.text, List.append_assoc, List.singleton_append] at h
      obtain ⟨i, l, k, -, hreaches⟩ := reaches_name dash h hname (Or.inl rfl) hbelow
      exact ⟨_, hreaches, ahead_gap hnotes hcs.token i l k⟩
  | pair dash name value =>
      obtain ⟨hname, hvalue, hnotes, hnext⟩ := hfits
      simp only [Line.text, List.append_assoc, List.cons_append] at h
      obtain ⟨i, l, k, hk, hreaches⟩ := reaches_name dash h hname (Or.inr rfl) hbelow
      have hdash := below_behindDash dash hbelow
      -- the value counts as further in than the mapping that its key is in
      generalize hlayout : Line.behindKey _ dash name s = s' at hreaches
      have hwithin : s'.Below (k + 1) := by
        rw [← hlayout]
        exact (Layout.below_enter hdash).mono (Nat.le_add_right_of_le hk)
      have hindent : (n : Int) ≤ indentOf s'.columns := by
        rw [← hlayout, Line.behindKey, Layout.indentOf_enter hdash]
        exact Int.ofNat_le.mpr hnext
      have hahead := @ahead_spaces s' false [] 1 _
        (hvalue.startsToken ('\n' :: (gapText notes n ++ cs))) i l k (areStale_nil l)
      rw [Layout.leave_of_below hwithin] at hahead
      obtain ⟨st', hscalar, hnextline⟩ := reaches_scalar hahead hvalue hnotes hcs hindent
        (Nat.succ_ne_zero k) (fun hfalse => absurd hfalse Bool.false_ne_true)
      refine ⟨st', hreaches.trans hscalar, ?_⟩
      rw [← hlayout] at hnextline
      exact hnextline
  | item value =>
      obtain ⟨hvalue, hnotes, hnext⟩ := hfits
      simp only [Line.text, List.append_assoc] at h
      obtain ⟨st₁, hentry, hahead⟩ := reaches_dash true h (hvalue.startsToken _) hbelow
      have hindent : indentOf (Line.behindDash ⟨column, .item value, own⟩ true s).columns = column :=
        Layout.indentOf_enter hbelow
      obtain ⟨st', hscalar, hnextline⟩ := reaches_scalar hahead hvalue hnotes hcs
        (by
          rw [hindent]
          exact Int.ofNat_le.mpr hnext)
        (Nat.succ_ne_zero _)
        (fun _ => by
          rw [hindent]
          exact fun heq => absurd (Int.ofNat.inj heq) (by simp [Line.keyColumn]))
      exact ⟨st', hentry.trans hscalar, hnextline⟩

end line

end Scan

/-! ## The tokens of a text -/

def Line.written (line : Line) : List Char :=
  gapText line.notes line.column ++ (line.text ++ ['\n'])

/-- The text of lines. -/
def linesText (lines : List Line) : List Char := lines.flatMap Line.written

/-- The notes in front of the first line. -/
def notesOf : List Line → List Note
  | [] => []
  | line :: _ => line.notes

/-- The column of the first line; the end of a text stands at the start of a line. -/
def columnOf : List Line → Nat
  | [] => 0
  | line :: _ => line.column

/-- Every line can be written in front of the next one. -/
def AllFit : List Line → Prop
  | [] => True
  | line :: rest => line.Fits (notesOf rest) (columnOf rest) ∧ AllFit rest

/-- All tokens of lines. -/
def lineTokens (lines : List Line) : List Token :=
  let s := (lines.foldl Line.step {}).leave 0
  s.tokens ++ List.replicate s.columns.length Token.blockEnd ++ [Token.streamEnd]

theorem linesText_cons (line : Line) (rest : List Line) :
    linesText (line :: rest) =
      gapText line.notes line.column ++ (line.text ++ '\n' :: linesText rest) := by
  rw [linesText, List.flatMap_cons, Line.written, List.append_assoc, List.append_assoc]
  rfl

theorem allowed_linesText {lines : List Line} (hfit : AllFit lines)
    (hnotes : ∀ note ∈ notesOf lines, note.IsLine) : ∀ c ∈ linesText lines, isAllowed c = true := by
  induction lines with
  | nil => simp [linesText]
  | cons line rest ih =>
      rw [linesText_cons, List.forall_mem_append, List.forall_mem_append, List.forall_mem_cons]
      exact ⟨allowed_gapText hnotes line.column, hfit.1.allowed, by decide, ih hfit.2 hfit.1.isLine⟩

open Scan

theorem reaches_lines {line : Line} {rest : List Line} (hfit : AllFit (line :: rest)) {s : Layout}
    {st : ScanState}
    (h : Ahead st (line.text ++ '\n' :: linesText rest) line.column (s.leave line.column) true) :
    ∃ st', Reaches st st' ∧ Ahead st' [] 0 (((line :: rest).foldl Line.step s).leave 0) true := by
  induction rest generalizing line s st with
  | nil =>
      have hend : Stands 0 [] := ⟨by simp [StartsToken], by simp [NoSeparator]⟩
      exact @reaches_line _ _ _ _ [] 0 h hfit.1 hend (Layout.below_leave _ _)
  | cons next rest ih =>
      obtain ⟨hline, hrest⟩ := hfit
      rw [linesText_cons] at h
      obtain ⟨st₁, hreaches, hahead⟩ := reaches_line h hline (stands_line hrest.1 _)
        (Layout.below_leave _ _)
      obtain ⟨st₂, hlines, hend⟩ := ih hrest hahead
      exact ⟨st₂, hreaches.trans hlines, hend⟩

/-- **The tokens of a text of lines** are those of its lines. -/
theorem tokens_linesText {line : Line} {rest : List Line} (hfit : AllFit (line :: rest))
    (hfirst : line.notes = [] ∧ line.column = 0) :
    tokens (linesText (line :: rest)) = .ok (lineTokens (line :: rest)).toArray := by
  have hallowed := allowed_linesText hfit (by simp [notesOf, hfirst.1])
  have htext : linesText (line :: rest) = line.text ++ '\n' :: linesText rest := by
    rw [linesText_cons, hfirst.1, hfirst.2]
    rfl
  have hmark : (linesText (line :: rest)).head? ≠ some (Char.ofNat 0xfeff) := by
    rw [htext]
    exact hfit.1.head _
  have hstart : Ahead ((Layout.mk [] []).state ⟨linesText (line :: rest), 0, 0, 0⟩ true [])
      (line.text ++ '\n' :: linesText rest) line.column (Layout.leave {} line.column) true := by
    rw [htext, hfirst.2]
    exact @ahead_spaces {} true [] 0 _ (stands_line hfit.1 _).token 0 0 0 (areStale_nil 0)
  obtain ⟨st', ⟨n, hn, hall⟩, -, i, l, hend⟩ := reaches_lines hfit hstart
  obtain ⟨st'', hnext, htokens⟩ := next_end hend
  have hn : n ≤ (linesText (line :: rest)).length := Nat.le_of_add_right_le hn
  have hfuel : (linesText (line :: rest)).length + 2 =
      n + ((linesText (line :: rest)).length - n + 1 + 1) := by omega
  have hrun : Scan.all ((linesText (line :: rest)).length + 2)
      ((Layout.mk [] []).state ⟨linesText (line :: rest), 0, 0, 0⟩ true []) = .ok ((), st'') := by
    rw [hfuel, hall, Scan.all]
    exact bind_ok hnext
  rw [tokens, if_neg (by simpa using hallowed)]
  dsimp only
  rw [if_neg (by simpa [Place.peek] using hmark)]
  show (Scan.all ((linesText (line :: rest)).length + 2)
    ((Layout.mk [] []).state ⟨linesText (line :: rest), 0, 0, 0⟩ true []) >>=
      fun p => pure p.2.tokens) = _
  rw [hrun]
  exact congrArg Except.ok htokens

end ConnectClients.Yaml
