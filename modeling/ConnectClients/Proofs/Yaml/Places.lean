import ConnectClients.Yaml.Token
import Mathlib.Data.List.Basic

/-!
# Places in front of tokens

What the scanner skips in front of a token, and where a plain scalar ends. Blank lines and comments
are notes between the lines that have tokens. A plain scalar that fills the rest of its line ends
there if the next line does not stand further right than its collection, and then the blank lines
behind it and the indentation of the next line are read together with it.
-/

namespace ConnectClients.Yaml

/-! ## Runs -/

section runs

variable {σ ε α β : Type} {s s' : σ}

theorem bind_ok {x : StateT σ (Except ε) α} {f : α → StateT σ (Except ε) β} {a : α}
    (h : x s = .ok (a, s')) : (x >>= f) s = f a s' := by
  show (x s >>= fun p => f p.1 p.2) = _
  rw [h]
  rfl

theorem get_bind (f : σ → StateT σ (Except ε) β) :
    ((get : StateT σ (Except ε) σ) >>= f) s = f s s := rfl

theorem set_bind (f : PUnit → StateT σ (Except ε) β) :
    ((set s' : StateT σ (Except ε) PUnit) >>= f) s = f ⟨⟩ s' := rfl

theorem modify_bind (g : σ → σ) (f : PUnit → StateT σ (Except ε) β) :
    ((modify g : StateT σ (Except ε) PUnit) >>= f) s = f ⟨⟩ (g s) := rfl

end runs

/-! ## Texts in front of which the scanner stands -/

/-- A text, if there is any, starts with a character of a token. -/
def StartsToken (cs : List Char) : Prop :=
  ∀ c ∈ cs.head?, isBreak c = false ∧ c ≠ ' ' ∧ c ≠ '#'

/-- A text does not start with a separator of documents. -/
def NoSeparator (cs : List Char) : Prop :=
  cs.take 3 ≠ ['-', '-', '-'] ∧ cs.take 3 ≠ ['.', '.', '.']

/-- A text stands at a column, as the scanner reads it there: only at the start of a line is there
a separator. -/
structure Stands (column : Nat) (cs : List Char) : Prop where
  token : StartsToken cs
  separator : column = 0 → NoSeparator cs

/-- A line without a token: nothing but spaces, or a comment. -/
structure Note where
  column : Nat := 0
  comment : Option (List Char) := none

namespace Note

def text (note : Note) : List Char :=
  List.replicate note.column ' ' ++
    (match note.comment with
      | none => []
      | some cs => '#' :: cs) ++ ['\n']

/-- The comment is on one line. -/
def IsLine (note : Note) : Prop :=
  ∀ cs ∈ note.comment, ∀ c ∈ cs, isBreak c = false ∧ isAllowed c = true

def IsBlank (note : Note) : Prop := note.comment = none

theorem text_of_blank {note : Note} (h : note.IsBlank) :
    note.text = List.replicate note.column ' ' ++ ['\n'] := by
  rw [text, show note.comment = none from h, List.append_nil]

end Note

/-- Notes, and the indentation behind them. -/
def gapText (notes : List Note) (column : Nat) : List Char :=
  notes.flatMap Note.text ++ List.replicate column ' '

theorem gapText_cons (note : Note) (notes : List Note) (column : Nat) :
    gapText (note :: notes) column = note.text ++ gapText notes column := by
  rw [gapText, gapText, List.flatMap_cons, List.append_assoc]

theorem allowed_gapText {notes : List Note} (h : ∀ note ∈ notes, note.IsLine) (column : Nat) :
    ∀ c ∈ gapText notes column, isAllowed c = true := by
  have hspaces : ∀ n, ∀ c ∈ List.replicate n ' ', isAllowed c = true := by
    intro n c hc
    rw [List.eq_of_mem_replicate hc]
    decide
  intro c hc
  rcases List.mem_append.mp hc with hc | hc
  · obtain ⟨note, hnote, hc⟩ := List.mem_flatMap.mp hc
    have hline := h note hnote
    rw [Note.text, List.mem_append, List.mem_append, List.mem_singleton] at hc
    rcases hc with (hc | hc) | rfl
    · exact hspaces note.column c hc
    · split at hc
      · cases hc
      · rename_i cs hcs
        rcases List.mem_cons.mp hc with rfl | hc
        · decide
        · exact (hline cs hcs c hc).2
    · decide
  · exact hspaces column c hc

theorem length_le_gapText (notes : List Note) (column : Nat) :
    notes.length ≤ (gapText notes column).length := by
  induction notes with
  | nil => exact Nat.zero_le _
  | cons note rest ih =>
      rw [gapText_cons, List.length_append, List.length_cons, Nat.add_comm]
      exact Nat.add_le_add (by simp [Note.text]; omega) ih

/-- Blank lines and an indentation are no separator, and neither is what stands there. -/
theorem noSeparator_gapText {notes : List Note} (hnotes : ∀ note ∈ notes, note.IsBlank)
    {column : Nat} {cs : List Char} (hcs : Stands column cs) :
    NoSeparator (gapText notes column ++ cs) := by
  have hblank : ∀ (m : Nat) (rest : List Char),
      NoSeparator (List.replicate m ' ' ++ '\n' :: rest) := by
    intro m rest
    cases m with
    | zero => simp [NoSeparator]
    | succ m => simp [NoSeparator, List.replicate_succ]
  cases notes with
  | nil =>
      cases column with
      | zero => exact hcs.separator rfl
      | succ n => simp [gapText, NoSeparator, List.replicate_succ]
  | cons note rest =>
      rw [gapText_cons, Note.text_of_blank (hnotes note List.mem_cons_self), List.append_assoc,
        List.append_assoc]
      exact hblank note.column _

/-! ## Steps over a text -/

namespace Place

/-- How many columns a text takes. -/
def width (cs : List Char) : Nat := (cs.filter fun c => c.toNat != 0xfeff).length

theorem width_cons (c : Char) (cs : List Char) : width (c :: cs) = width [c] + width cs := by
  unfold width
  rw [← List.singleton_append, List.filter_append, List.length_append]

theorem width_replicate (n : Nat) : width (List.replicate n ' ') = n := by
  unfold width
  rw [List.filter_replicate_of_pos (by decide), List.length_replicate]

theorem step_of_not_break {c : Char} (h : isBreak c = false) (rest : List Char) (i l k : Nat) :
    step ⟨c :: rest, i, l, k⟩ = ⟨rest, i + 1, l, k + width [c]⟩ := by
  by_cases hmark : c.toNat = 0xfeff
  · simp [step, width, h, hmark]
  · simp [step, width, h, hmark]

theorem skip_append {cs : List Char} (h : ∀ c ∈ cs, isBreak c = false) (rest : List Char)
    (i l k : Nat) :
    skip ⟨cs ++ rest, i, l, k⟩ cs.length = ⟨rest, i + cs.length, l, k + width cs⟩ := by
  induction cs generalizing i k with
  | nil => rfl
  | cons c cs ih =>
      obtain ⟨hc, hcs⟩ := List.forall_mem_cons.mp h
      rw [List.length_cons, skip, List.cons_append, step_of_not_break hc, ih hcs, width_cons c cs]
      congr 1 <;> omega

theorem span_append {test : Char → Bool} {cs rest : List Char} (hcs : ∀ c ∈ cs, test c = true)
    (hunbroken : ∀ c ∈ cs, isBreak c = false) (hrest : ∀ c ∈ rest.head?, test c = false)
    (i l k : Nat) :
    span ⟨cs ++ rest, i, l, k⟩ test = (cs, ⟨rest, i + cs.length, l, k + width cs⟩) := by
  have htake : (cs ++ rest).takeWhile test = cs := by
    rw [List.takeWhile_append_of_pos hcs]
    cases rest with
    | nil => simp
    | cons c rest =>
        have hc : test c = false := hrest c rfl
        rw [List.takeWhile_cons_of_neg (by simp [hc]), List.append_nil]
  unfold span
  dsimp only
  rw [htake, skip_append hunbroken]

theorem skipWhile_spaces (n : Nat) {rest : List Char} (hrest : ' ' ∉ rest.head?) (i l k : Nat) :
    skipWhile ⟨List.replicate n ' ' ++ rest, i, l, k⟩ (· == ' ') = ⟨rest, i + n, l, k + n⟩ := by
  have hspaces : ∀ c ∈ List.replicate n ' ', c = ' ' := fun c hc => List.eq_of_mem_replicate hc
  rw [skipWhile, span_append (fun c hc => by simp [hspaces c hc])
    (fun c hc => by rw [hspaces c hc]; decide), width_replicate, List.length_replicate]
  intro c hc
  rw [beq_eq_false_iff_ne]
  rintro rfl
  exact hrest hc

theorem lineBreak_newline (rest : List Char) (i l k : Nat) :
    lineBreak ⟨'\n' :: rest, i, l, k⟩ = some ('\n', ⟨rest, i + 1, l + 1, 0⟩) := rfl

theorem lineBreak_eq_none {cs : List Char} (h : StartsToken cs) (i l k : Nat) :
    lineBreak ⟨cs, i, l, k⟩ = none := by
  cases cs with
  | nil => rfl
  | cons c cs =>
      have hc : isBreak c = false := (h c rfl).1
      simp only [isBreak, Bool.or_eq_false_iff, beq_eq_false_iff_ne] at hc
      unfold lineBreak
      split
      · rename_i heq
        obtain ⟨rfl, -⟩ := List.cons.inj heq
        exact absurd rfl hc.1.1.1.2
      · rename_i heq
        obtain ⟨rfl, -⟩ := List.cons.inj heq
        simp [hc]
      · rfl

theorem atSeparator_eq_false {cs : List Char} (h : NoSeparator cs) (i l k : Nat) :
    atSeparator ⟨cs, i, l, k⟩ = false := by
  rw [atSeparator, Bool.and_eq_false_iff, Bool.or_eq_false_iff, beq_eq_false_iff_ne,
    beq_eq_false_iff_ne]
  exact Or.inl h

/-- The place behind spaces and a comment. -/
def behindBlanks (p : Place) : Place :=
  let p := p.skipWhile (· == ' ')
  if p.peek == some '#' then p.skipWhile (!isBreak ·) else p

theorem behindBlanks_spaces (n : Nat) {cs : List Char} (hcs : StartsToken cs) (i l k : Nat) :
    behindBlanks ⟨List.replicate n ' ' ++ cs, i, l, k⟩ = ⟨cs, i + n, l, k + n⟩ := by
  have hspace : ' ' ∉ cs.head? := fun h => (hcs _ h).2.1 rfl
  unfold behindBlanks
  dsimp only
  rw [skipWhile_spaces n hspace, if_neg]
  rw [beq_iff_eq]
  exact fun h => (hcs _ h).2.2 rfl

theorem behindBlanks_note {note : Note} (hnote : note.IsLine) (rest : List Char) (i l k : Nat) :
    ∃ j m, behindBlanks ⟨note.text ++ rest, i, l, k⟩ = ⟨'\n' :: rest, j, l, m⟩ := by
  obtain ⟨n, comment⟩ := note
  unfold behindBlanks
  dsimp only
  cases comment with
  | none =>
      have htext : Note.text ⟨n, none⟩ ++ rest = List.replicate n ' ' ++ ('\n' :: rest) := by
        simp [Note.text]
      rw [htext, skipWhile_spaces n (by simp)]
      exact ⟨_, _, rfl⟩
  | some cs =>
      have htext : Note.text ⟨n, some cs⟩ ++ rest =
          List.replicate n ' ' ++ ('#' :: cs ++ '\n' :: rest) := by
        simp [Note.text]
      have hcs : ∀ c ∈ '#' :: cs, isBreak c = false :=
        List.forall_mem_cons.mpr ⟨by decide, fun c hc => (hnote cs rfl c hc).1⟩
      rw [htext, skipWhile_spaces n (by simp)]
      simp only [peek, List.cons_append, List.head?_cons, beq_self_eq_true, if_true]
      rw [← List.cons_append, skipWhile,
        span_append (fun c hc => by simp [hcs c hc]) hcs (by simp [isBreak])]
      exact ⟨_, _, rfl⟩

end Place

/-! ## Texts of plain scalars -/

/-- A text that can be written as a plain scalar on one line. -/
structure IsPlain (text : List Char) : Prop where
  allowed : ∀ c ∈ text, isAllowed c = true
  unblank : ∀ c ∈ text, isBreak c = false ∧ c ≠ ' ' ∧ c ≠ '\t'
  starts : Scan.startsPlain { rest := text } false = true
  ends : text.getLast? ≠ some ':'

instance (text : List Char) : Decidable (IsPlain text) :=
  decidable_of_iff
    (text.all isAllowed = true ∧ (text.all fun c => !isBreak c && c != ' ' && c != '\t') = true ∧
      Scan.startsPlain { rest := text } false = true ∧ text.getLast? ≠ some ':')
    ⟨fun ⟨ha, hu, hs, he⟩ => ⟨by simpa using ha, by simpa [and_assoc] using hu, hs, he⟩,
      fun ⟨ha, hu, hs, he⟩ => ⟨by simpa using ha, by simpa [and_assoc] using hu, hs, he⟩⟩

namespace Scan

open Place

/-- The characters that a plain scalar starts with only if no blank follows. -/
def openMarks : List Char := ['-', '?', ':']

/-- The characters that no plain scalar starts with. -/
def closedMarks : List Char :=
  [',', '[', ']', '\x7b', '\x7d', '#', '&', '*', '!', '|', '>', '\'', '"', '%', '@', '\x60']

theorem startsPlain_cases {c : Char} {rest : List Char} {i l k : Nat}
    (h : startsPlain ⟨c :: rest, i, l, k⟩ false = true) :
    c ∉ closedMarks ∧ (c ∈ openMarks → blankAt ⟨c :: rest, i, l, k⟩ 1 = false) := by
  have hmarks : "-?:,[]\x7b\x7d#&*!|>'\"%@\x60".toList = openMarks ++ closedMarks := by decide
  simp only [startsPlain, peek, List.head?_cons, hmarks, List.contains_eq_mem] at h
  rw [Bool.or_eq_true, Bool.and_eq_true] at h
  rcases h with h | ⟨hblank, h⟩
  · simp only [List.mem_append, Bool.not_eq_true', Bool.or_eq_false_iff, decide_eq_false_iff_not,
      not_or] at h
    exact ⟨h.2.2, fun hc => absurd hc h.2.1⟩
  · refine ⟨?_, fun _ => by simpa using hblank⟩
    have hc : c = '-' ∨ c = '?' ∨ c = ':' := by simpa using h
    rcases hc with rfl | rfl | rfl <;> decide

theorem startsPlain_append {text : List Char} (h : startsPlain { rest := text } false = true)
    (rest : List Char) (i l k : Nat) : startsPlain ⟨text ++ rest, i, l, k⟩ false = true := by
  cases text with
  | nil => cases h
  | cons c cs =>
      cases cs with
      | nil =>
          -- a single character is no mark, so that nothing depends on what follows it
          simp [startsPlain, peek, blankAt, peekAt] at h ⊢
          exact Or.inl h
      | cons d cs =>
          simp [startsPlain, peek, blankAt, peekAt] at h ⊢
          exact h

end Scan

theorem IsPlain.exists_cons {text : List Char} (h : IsPlain text) :
    ∃ c cs, text = c :: cs ∧ isBreak c = false ∧ c ≠ ' ' ∧ c ≠ '#' := by
  obtain ⟨-, hunblank, hstarts, -⟩ := h
  cases text with
  | nil => cases hstarts
  | cons c cs =>
      obtain ⟨hbreak, hspace, -⟩ := hunblank c List.mem_cons_self
      refine ⟨c, cs, rfl, hbreak, hspace, ?_⟩
      rintro rfl
      exact (Scan.startsPlain_cases hstarts).1 (by decide)

theorem IsPlain.startsToken {text : List Char} (h : IsPlain text) (rest : List Char) :
    StartsToken (text ++ rest) := by
  obtain ⟨c, cs, rfl, hc⟩ := h.exists_cons
  rintro d ⟨⟩
  exact hc

/-! ## Where plain scalars end -/

namespace Scan

open Place

theorem plainRun_append {text rest : List Char}
    (hunblank : ∀ c ∈ text, isBreak c = false ∧ c ≠ ' ' ∧ c ≠ '\t')
    (hends : text.getLast? ≠ some ':') (hrest : plainRun false rest = []) :
    plainRun false (text ++ rest) = text := by
  induction text with
  | nil => exact hrest
  | cons c cs ih =>
      obtain ⟨⟨hbreak, hspace, htab⟩, hcs⟩ := List.forall_mem_cons.mp hunblank
      have hmark : c = ':' → ¬ ((cs ++ rest).head?.all fun d =>
          isBreak d || d == ' ' || d == '\t') = true := by
        rintro rfl
        cases cs with
        | nil => exact absurd rfl hends
        | cons d ds =>
            obtain ⟨hd, hdspace, hdtab⟩ := hcs d List.mem_cons_self
            simp [hd, hdspace, hdtab]
      have hlast : cs.getLast? ≠ some ':' := by
        cases cs with
        | nil => simp
        | cons d ds => simpa using hends
      have hgoes : (isBreak c || c == ' ' || c == '\t' ||
          (c == ':' && (cs ++ rest).head?.all fun d =>
            isBreak d || d == ' ' || d == '\t' || (false && isFlowMark d)) ||
          (false && (isFlowMark c || c == '?'))) = false := by
        by_cases hcolon : c = ':'
        · subst hcolon
          simpa [hbreak] using hmark rfl
        · simp [hbreak, hspace, htab, hcolon]
      rw [List.cons_append, plainRun, hgoes, if_neg Bool.false_ne_true, ih hcs hlast]

/-- A scalar ends in front of a colon with a blank behind it. -/
theorem scanPlain_key {text : List Char} (h : IsPlain text) {c : Char}
    (hc : isBreak c = true ∨ c = ' ') (cs : List Char) (indent : Int) (fuel i l k : Nat) :
    scanPlain false indent (fuel + 1) ⟨text ++ ':' :: c :: cs, i, l, k⟩ =
      (text, false, ⟨':' :: c :: cs, i + text.length, l, k + width text⟩) := by
  have hstop : plainRun false (':' :: c :: cs) = [] := by
    rcases hc with hc | rfl
    · simp [plainRun, hc]
    · rfl
  have hrun := plainRun_append h.unblank h.ends hstop
  obtain ⟨d, ds, rfl, -, -, hmark⟩ := h.exists_cons
  have hpeek : ¬ (peek ⟨d :: ds ++ ':' :: c :: cs, i, l, k⟩ == some '#') = true := by
    simpa [peek] using hmark
  rw [scanPlain]
  dsimp only
  rw [if_neg hpeek, hrun, skip_append fun c hc => (h.unblank c hc).1]
  rfl

theorem scanPlainBreaks_spaces (n fuel : Nat) (rest : List Char) (i l k : Nat) :
    scanPlainBreaks (n + fuel) ⟨List.replicate n ' ' ++ rest, i, l, k⟩ =
      scanPlainBreaks fuel ⟨rest, i + n, l, k + n⟩ := by
  induction n generalizing i k with
  | zero =>
      rw [Nat.zero_add]
      rfl
  | succ n ih =>
      have hstep : step ⟨' ' :: (List.replicate n ' ' ++ rest), i, l, k⟩ =
          ⟨List.replicate n ' ' ++ rest, i + 1, l, k + 1⟩ := step_of_not_break (by decide) _ i l k
      rw [Nat.add_right_comm, scanPlainBreaks, List.replicate_succ, List.cons_append,
        if_pos (show (peek ⟨' ' :: (List.replicate n ' ' ++ rest), i, l, k⟩ == some ' ') = true
          from rfl), hstep, ih, Nat.add_right_comm i, Nat.add_right_comm k]
      rfl

theorem scanPlainBreaks_token {cs : List Char} (hcs : StartsToken cs) (fuel i l k : Nat) :
    scanPlainBreaks fuel ⟨cs, i, l, k⟩ = (some [], ⟨cs, i, l, k⟩) := by
  cases fuel with
  | zero => rfl
  | succ fuel =>
      have hspace : ¬ (peek ⟨cs, i, l, k⟩ == some ' ') = true := by
        rw [beq_iff_eq]
        exact fun h => (hcs _ h).2.1 rfl
      rw [scanPlainBreaks, if_neg hspace, lineBreak_eq_none hcs]

theorem scanPlainBreaks_gap {notes : List Note} (hnotes : ∀ note ∈ notes, note.IsBlank)
    {n : Nat} {cs : List Char} (hcs : Stands n cs) {fuel : Nat}
    (hfuel : (gapText notes n).length ≤ fuel) (i l : Nat) :
    ∃ breaks j, scanPlainBreaks fuel ⟨gapText notes n ++ cs, i, l, 0⟩ =
      (some breaks, ⟨cs, j, l + notes.length, n⟩) := by
  obtain ⟨more, rfl⟩ := Nat.exists_eq_add_of_le hfuel
  clear hfuel
  induction notes generalizing i l with
  | nil =>
      rw [gapText, List.flatMap_nil, List.nil_append, List.length_replicate,
        scanPlainBreaks_spaces, scanPlainBreaks_token hcs.token, Nat.zero_add]
      exact ⟨[], i + n, rfl⟩
  | cons note rest ih =>
      obtain ⟨hblank, hrest⟩ := List.forall_mem_cons.mp hnotes
      obtain ⟨breaks, j, hbreaks⟩ := ih hrest (i + note.column + 1) (l + 1)
      refine ⟨'\n' :: breaks, j, ?_⟩
      have hspace : ¬ (peek ⟨'\n' :: (gapText rest n ++ cs), i + note.column, l,
          0 + note.column⟩ == some ' ') = true := by simp [peek]
      have hroom : (gapText (note :: rest) n).length + more =
          note.column + ((gapText rest n).length + more + 1) := by
        rw [gapText_cons, Note.text_of_blank hblank]
        simp only [List.length_append, List.length_replicate, List.length_singleton]
        omega
      rw [hroom, gapText_cons, Note.text_of_blank hblank, List.append_assoc, List.append_assoc,
        List.singleton_append, scanPlainBreaks_spaces, scanPlainBreaks, if_neg hspace,
        lineBreak_newline]
      dsimp only
      rw [atSeparator_eq_false (noSeparator_gapText hrest hcs), if_neg Bool.false_ne_true, hbreaks,
        List.length_cons, Nat.add_assoc, Nat.add_comm 1]

/-- A scalar that fills its line ends there if the next line stands further left than the scalar
has to be. -/
theorem scanPlain_line {text : List Char} (h : IsPlain text) {notes : List Note}
    (hnotes : ∀ note ∈ notes, note.IsBlank) {n : Nat} {cs : List Char} (hcs : Stands n cs)
    {indent : Int} (hindent : (n : Int) < indent) (fuel i l k : Nat) :
    ∃ j, scanPlain false indent (fuel + 1) ⟨text ++ '\n' :: (gapText notes n ++ cs), i, l, k⟩ =
      (text, true, ⟨cs, j, l + 1 + notes.length, n⟩) := by
  have hstop : plainRun false ('\n' :: (gapText notes n ++ cs)) = [] := rfl
  have hrun := plainRun_append h.unblank h.ends hstop
  have hskip := skip_append (fun c hc => (h.unblank c hc).1) ('\n' :: (gapText notes n ++ cs)) i l k
  have hlength : (gapText notes n).length ≤ (gapText notes n ++ cs).length + 1 := by
    rw [List.length_append]
    omega
  obtain ⟨breaks, j, hbreaks⟩ :=
    scanPlainBreaks_gap hnotes hcs hlength (i + text.length + 1) (l + 1)
  have hgap : ∃ gap, gap ≠ [] ∧
      scanPlainGap ⟨'\n' :: (gapText notes n ++ cs), i + text.length, l, k + width text⟩ =
        (gap, true, ⟨cs, j, l + 1 + notes.length, n⟩) := by
    have hspan : span ⟨'\n' :: (gapText notes n ++ cs), i + text.length, l, k + width text⟩
        (· == ' ') = ([], ⟨'\n' :: (gapText notes n ++ cs), i + text.length, l, k + width text⟩) := rfl
    refine ⟨if breaks.isEmpty then [' '] else breaks, by cases breaks <;> simp, ?_⟩
    rw [scanPlainGap, hspan]
    dsimp only
    rw [lineBreak_newline]
    dsimp only
    rw [atSeparator_eq_false (noSeparator_gapText hnotes hcs), if_neg Bool.false_ne_true, hbreaks]
    cases breaks <;> rfl
  obtain ⟨gap, hgap, hfound⟩ := hgap
  obtain ⟨d, ds, rfl, -, -, hmark⟩ := h.exists_cons
  have hpeek : ¬ (peek ⟨d :: ds ++ '\n' :: (gapText notes n ++ cs), i, l, k⟩ == some '#') = true := by
    simpa [peek] using hmark
  refine ⟨j, ?_⟩
  rw [scanPlain]
  dsimp only
  rw [if_neg hpeek, hrun, hskip, hfound]
  simp [hindent]

/-! ## What is skipped in front of a token -/

theorem skipToToken_succ (fuel : Nat) (st : ScanState) :
    skipToToken (fuel + 1) st =
      match (behindBlanks st.place).lineBreak with
      | some (_, q) =>
        skipToToken fuel { st with
          place := q, keyAllowed := if st.flow == 0 then true else st.keyAllowed }
      | none => .ok ((), { st with place := behindBlanks st.place }) := by
  rw [skipToToken, get_bind]
  show (match (behindBlanks st.place).lineBreak with
    | some (_, q) => _
    | none => _ : Scan Unit) st = _
  cases (behindBlanks st.place).lineBreak with
  | none => rfl
  | some found =>
      cases hflow : st.flow == 0 with
      | true => rfl
      | false => rfl

/-- Notes and the indentation behind them are skipped, from the start of a line. -/
theorem skipToToken_gap {notes : List Note} (hnotes : ∀ note ∈ notes, note.IsLine) {n : Nat}
    {cs : List Char} (hcs : StartsToken cs) {fuel : Nat} (hfuel : notes.length < fuel)
    {st : ScanState} {i l : Nat} (hflow : st.flow = 0)
    (hplace : st.place = ⟨gapText notes n ++ cs, i, l, 0⟩) (hkey : st.keyAllowed = true) :
    ∃ j, skipToToken fuel st =
      .ok ((), { st with place := ⟨cs, j, l + notes.length, n⟩ }) := by
  induction notes generalizing fuel st i l with
  | nil =>
      obtain ⟨fuel, rfl⟩ := Nat.exists_eq_add_one.mpr hfuel
      rw [skipToToken_succ, hplace, gapText, List.flatMap_nil, List.nil_append,
        behindBlanks_spaces n hcs, lineBreak_eq_none hcs, Nat.zero_add]
      exact ⟨_, rfl⟩
  | cons note rest ih =>
      obtain ⟨fuel, rfl⟩ := Nat.exists_eq_add_one.mpr (Nat.zero_lt_of_lt hfuel)
      obtain ⟨hnote, hrest⟩ := List.forall_mem_cons.mp hnotes
      rw [gapText_cons, List.append_assoc] at hplace
      obtain ⟨j, m, hline⟩ := behindBlanks_note hnote (gapText rest n ++ cs) i l 0
      have hskip : ∃ j', skipToToken fuel
          { st with place := ⟨gapText rest n ++ cs, j + 1, l + 1, 0⟩ } =
            .ok ((), { st with place := ⟨cs, j', l + 1 + rest.length, n⟩ }) :=
        ih hrest (Nat.lt_of_succ_lt_succ hfuel) hflow rfl hkey
      obtain ⟨j', hskip⟩ := hskip
      refine ⟨j', ?_⟩
      rw [skipToToken_succ, hplace, hline, lineBreak_newline]
      dsimp only
      rw [if_pos (by simp [hflow]), ← hkey, hskip, List.length_cons, Nat.add_assoc,
        Nat.add_comm 1 rest.length]

end Scan

end ConnectClients.Yaml
