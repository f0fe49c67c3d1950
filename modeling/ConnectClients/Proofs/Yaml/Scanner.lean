import ConnectClients.Proofs.Yaml.Places

/-!
# From token to token

Outside of flow collections the scanner keeps the columns of the block collections that are open.
In front of a token it closes those that stand further right, and a dash or a key opens one unless
there is one at its column. A key is followed up to its colon, where the tokens that mark it are put
in front of it.
-/

namespace ConnectClients.Yaml.Scan

open Place

/-! ## Layouts -/

/-- The columns of the open block collections, the innermost first, and the tokens so far. -/
structure Layout where
  columns : List Nat := []
  tokens : List Token := []

namespace Layout

/-- The layout in front of a token at a column: the collections further right are closed. -/
def leave (s : Layout) (column : Nat) : Layout where
  columns := s.columns.dropWhile (column < ·)
  tokens := s.tokens ++ List.replicate (s.columns.takeWhile (column < ·)).length .blockEnd

/-- The layout behind tokens at a column, which open a collection unless one is open there. -/
def enter (s : Layout) (start : Token) (column : Nat) (ts : List Token) : Layout :=
  if s.columns.head?.all (· < column) then ⟨column :: s.columns, s.tokens ++ start :: ts⟩
  else ⟨s.columns, s.tokens ++ ts⟩

def add (s : Layout) (t : Token) : Layout := { s with tokens := s.tokens ++ [t] }

/-- No collection stands further right than a column. -/
def Below (s : Layout) (column : Nat) : Prop := ∀ c ∈ s.columns.head?, c ≤ column

def indentOf : List Nat → Int
  | [] => -1
  | column :: _ => column

def outerOf : List Nat → List Int
  | [] => []
  | _ :: rest => indentOf rest :: outerOf rest

/-- The state of the scanner outside of flow collections. -/
def state (s : Layout) (p : Place) (allowed : Bool) (keys : List (Nat × KeyPlace)) : ScanState where
  place := p
  tokens := s.tokens.toArray
  indent := indentOf s.columns
  indents := outerOf s.columns
  keyAllowed := allowed
  keys := keys

variable {s : Layout} {start : Token} {ts : List Token} {column : Nat}

theorem below_leave (s : Layout) (column : Nat) : (s.leave column).Below column := by
  intro c hc
  have hhead := List.head?_dropWhile_not (fun c => decide (column < c)) s.columns
  rw [show (s.columns.dropWhile fun c => decide (column < c)).head? = some c from hc] at hhead
  exact Nat.le_of_not_lt (by simpa using hhead)

theorem leave_of_below (h : s.Below column) : s.leave column = s := by
  obtain ⟨columns, ts⟩ := s
  cases columns with
  | nil => simp [leave]
  | cons c rest =>
      have hc : ¬ column < c := Nat.not_lt_of_le (h c rfl)
      simp [leave, hc]

theorem Below.mono {column' : Nat} (h : s.Below column) (hle : column ≤ column') :
    s.Below column' := fun c hc => Nat.le_trans (h c hc) hle

theorem head?_enter (h : s.Below column) : (s.enter start column ts).columns.head? = some column := by
  rw [enter]
  split
  · rfl
  · rename_i hopen
    cases hhead : s.columns.head? with
    | none =>
        rw [hhead] at hopen
        exact absurd rfl hopen
    | some c =>
        rw [hhead] at hopen
        have hlt : ¬ c < column := by simpa using hopen
        exact congrArg some (Nat.le_antisymm (h c hhead) (Nat.le_of_not_lt hlt))

theorem below_enter (h : s.Below column) : (s.enter start column ts).Below column := by
  intro c hc
  rw [head?_enter h, Option.mem_some_iff] at hc
  exact Nat.le_of_eq hc.symm

theorem indentOf_enter (h : s.Below column) :
    indentOf (s.enter start column ts).columns = column := by
  obtain ⟨rest, hcolumns⟩ := List.head?_eq_some_iff.mp (@head?_enter s start ts column h)
  rw [hcolumns]
  rfl

end Layout

open Layout (indentOf outerOf)

variable {s : Layout} {allowed : Bool} {keys : List (Nat × KeyPlace)}

/-! ## In front of a token -/

theorem leaveIndents_eq (column : Nat) (columns : List Nat) :
    leaveIndents column (indentOf columns) (outerOf columns) =
      ((columns.takeWhile (column < ·)).length, indentOf (columns.dropWhile (column < ·)),
        outerOf (columns.dropWhile (column < ·))) := by
  induction columns with
  | nil => rfl
  | cons c rest ih =>
      rw [outerOf, leaveIndents]
      by_cases hc : column < c
      · have hlt : (column : Int) < indentOf (c :: rest) := Int.ofNat_lt.mpr hc
        rw [if_pos hlt, ih, List.takeWhile_cons_of_pos (by simpa using hc),
          List.dropWhile_cons_of_pos (by simpa using hc)]
        rfl
      · have hge : ¬ (column : Int) < indentOf (c :: rest) := fun h => hc (Int.ofNat_lt.mp h)
        rw [if_neg hge, List.takeWhile_cons_of_neg (by simpa using hc),
          List.dropWhile_cons_of_neg (by simpa using hc)]
        rfl

theorem leaveIndents_all (columns : List Nat) :
    leaveIndents (-1) (indentOf columns) (outerOf columns) = (columns.length, -1, []) := by
  induction columns with
  | nil => rfl
  | cons c rest ih =>
      have hlt : (-1 : Int) < indentOf (c :: rest) :=
        Int.lt_of_lt_of_le (by decide) (Int.natCast_nonneg c)
      rw [outerOf, leaveIndents, if_pos hlt, ih]
      rfl

theorem unwind_state (p : Place) (column : Nat) :
    unwind column (s.state p allowed keys) = .ok ((), (s.leave column).state p allowed keys) := by
  have hleave := leaveIndents_eq column s.columns
  rw [unwind, get_bind, if_pos (show ((s.state p allowed keys).flow == 0) = true from rfl)]
  show Except.ok _ = Except.ok _
  simp only [Layout.state, hleave, Layout.leave]
  simp

theorem unwind_all (p : Place) :
    unwind (-1) (s.state p allowed keys) = .ok ((),
      (Layout.mk [] (s.tokens ++ List.replicate s.columns.length .blockEnd)).state p allowed
        keys) := by
  have hleave := leaveIndents_all s.columns
  rw [unwind, get_bind, if_pos (show ((s.state p allowed keys).flow == 0) = true from rfl)]
  show Except.ok _ = Except.ok _
  simp only [Layout.state, hleave]
  simp [indentOf, outerOf]

/-- No key has to start at one of some places, and they are not on the line of another place. -/
def AreStale (keys : List (Nat × KeyPlace)) (line : Nat) : Prop :=
  ∀ e ∈ keys, e.2.line ≠ line ∧ e.2.required = false

theorem areStale_nil (line : Nat) : AreStale [] line := fun _ he => absurd he List.not_mem_nil

theorem dropStaleKeys_of_stale {p : Place} (h : AreStale keys p.line) :
    dropStaleKeys (s.state p allowed keys) = .ok ((), s.state p allowed []) := by
  have hnone : ¬ (keys.any fun e =>
      (e.2.line != p.line || decide (e.2.index + 1024 < p.index)) && e.2.required) = true := by
    rw [List.any_eq_true]
    rintro ⟨e, he, hrequired⟩
    rw [(h e he).2, Bool.and_false] at hrequired
    cases hrequired
  have hall : (keys.filter fun e =>
      !(e.2.line != p.line || decide (e.2.index + 1024 < p.index))) = [] := by
    rw [List.filter_eq_nil_iff]
    intro e he
    simp [(h e he).1]
  rw [dropStaleKeys, get_bind]
  show (if (keys.any fun e =>
      (e.2.line != p.line || decide (e.2.index + 1024 < p.index)) && e.2.required) = true
    then _ else _ : Scan Unit) _ = _
  rw [if_neg hnone]
  exact congrArg (fun keys => Except.ok ((), s.state p allowed keys)) hall

theorem dropStaleKeys_of_fresh {k : KeyPlace} {p : Place} (hline : k.line = p.line)
    (hindex : p.index ≤ k.index + 1024) :
    dropStaleKeys (s.state p allowed [(0, k)]) = .ok ((), s.state p allowed [(0, k)]) := by
  have hfresh : (k.line != p.line || decide (k.index + 1024 < p.index)) = false := by
    simp [hline, hindex]
  have hkeep : ([(0, k)] : List (Nat × KeyPlace)).filter (fun e =>
      !(e.2.line != p.line || decide (e.2.index + 1024 < p.index))) = [(0, k)] :=
    List.filter_eq_self.mpr (by simp [hline, hindex])
  rw [dropStaleKeys, get_bind]
  show (if (((k.line != p.line || decide (k.index + 1024 < p.index)) && k.required) || false) = true
    then _ else _ : Scan Unit) _ = _
  rw [hfresh, Bool.false_and, Bool.or_false, if_neg Bool.false_ne_true]
  exact congrArg (fun keys => Except.ok ((), s.state p allowed keys)) hkeep

/-- What the scanner does before it reads a token: it skips blanks, gives up old places for keys and
closes collections that stand further right. -/
def Settles (st st' : ScanState) : Prop :=
  ∃ st₁ st₂, skipToToken (st.place.rest.length + 1) st = .ok ((), st₁) ∧
    dropStaleKeys st₁ = .ok ((), st₂) ∧ unwind st₂.place.column st₂ = .ok ((), st')

theorem settles_of_skip {st : ScanState} {p : Place} {keys' : List (Nat × KeyPlace)}
    (hskip : skipToToken (st.place.rest.length + 1) st = .ok ((), s.state p allowed keys))
    (hdrop : dropStaleKeys (s.state p allowed keys) = .ok ((), s.state p allowed keys')) :
    Settles st ((s.leave p.column).state p allowed keys') :=
  ⟨_, _, hskip, hdrop, unwind_state p p.column⟩

theorem skipToToken_spaces (n : Nat) {cs : List Char} (hcs : StartsToken cs) (fuel i l k : Nat) :
    skipToToken (fuel + 1) (s.state ⟨List.replicate n ' ' ++ cs, i, l, k⟩ allowed keys) =
      .ok ((), s.state ⟨cs, i + n, l, k + n⟩ allowed keys) := by
  have hblanks := behindBlanks_spaces n hcs i l k
  rw [skipToToken_succ]
  simp only [Layout.state, hblanks, lineBreak_eq_none hcs]

/-! ## Which token is read -/

section next

variable {st : ScanState} {cs : List Char} {i l column : Nat}

theorem next_plain (h : Settles st (s.state ⟨cs, i, l, column⟩ allowed keys))
    (hplain : startsPlain ⟨cs, i, l, column⟩ false = true)
    (hseparator : column = 0 → NoSeparator cs) :
    next st = (plain >>= fun _ => pure true) (s.state ⟨cs, i, l, column⟩ allowed keys) := by
  obtain ⟨st₁, st₂, hskip, hdrop, hunwind⟩ := h
  rw [next, get_bind, bind_ok hskip, bind_ok hdrop, get_bind, bind_ok hunwind, get_bind]
  cases cs with
  | nil => cases hplain
  | cons c rest =>
      obtain ⟨hclosed, hopen⟩ := startsPlain_cases hplain
      simp only [closedMarks, openMarks, List.mem_cons, List.not_mem_nil, or_false,
        not_or] at hclosed hopen
      have hapart : ∀ mark : Char, ¬ ((c = mark ∧ column = 0) ∧
          atSeparator ⟨c :: rest, i, l, column⟩ = true) := by
        rintro mark ⟨⟨-, hzero⟩, hsep⟩
        rw [atSeparator_eq_false (hseparator hzero)] at hsep
        cases hsep
      have hblank : ∀ mark : Char, (mark = '-' ∨ mark = '?' ∨ mark = ':') →
          ¬ (c = mark ∧ blankAt ⟨c :: rest, i, l, column⟩ 1 = true) := by
        rintro mark hmark ⟨rfl, hblank⟩
        rw [hopen hmark] at hblank
        cases hblank
      simp [Layout.state, peek, hclosed, hplain, hapart, hblank]

theorem next_entry (h : Settles st (s.state ⟨'-' :: ' ' :: cs, i, l, column⟩ allowed keys)) :
    next st = (blockEntry >>= fun _ => pure true)
      (s.state ⟨'-' :: ' ' :: cs, i, l, column⟩ allowed keys) := by
  obtain ⟨st₁, st₂, hskip, hdrop, hunwind⟩ := h
  have hapart : atSeparator ⟨'-' :: ' ' :: cs, i, l, column⟩ = false :=
    atSeparator_eq_false (by simp [NoSeparator]) i l column
  have hblank : blankAt ⟨'-' :: ' ' :: cs, i, l, column⟩ 1 = true := rfl
  rw [next, get_bind, bind_ok hskip, bind_ok hdrop, get_bind, bind_ok hunwind, get_bind]
  simp [Layout.state, peek, hapart, hblank]

theorem next_value {c : Char} (h : Settles st (s.state ⟨':' :: c :: cs, i, l, column⟩ allowed keys))
    (hc : isBreak c = true ∨ c = ' ') :
    next st = (value >>= fun _ => pure true)
      (s.state ⟨':' :: c :: cs, i, l, column⟩ allowed keys) := by
  obtain ⟨st₁, st₂, hskip, hdrop, hunwind⟩ := h
  have hblank : blankAt ⟨':' :: c :: cs, i, l, column⟩ 1 = true := by
    rcases hc with hc | rfl
    · simp [blankAt, peekAt, hc]
    · rfl
  rw [next, get_bind, bind_ok hskip, bind_ok hdrop, get_bind, bind_ok hunwind, get_bind]
  simp [Layout.state, peek, hblank]

theorem next_end (h : Settles st (s.state ⟨[], i, l, column⟩ allowed [])) :
    ∃ st', next st = .ok (false, st') ∧ st'.tokens =
      (s.tokens ++ List.replicate s.columns.length Token.blockEnd ++ [Token.streamEnd]).toArray := by
  obtain ⟨st₁, st₂, hskip, hdrop, hunwind⟩ := h
  rw [next, get_bind, bind_ok hskip, bind_ok hdrop, get_bind, bind_ok hunwind, get_bind]
  refine ⟨_, bind_ok (unwind_all _), ?_⟩
  simp [Layout.state]

end next

/-! ## What the tokens do -/

theorem lt_indentOf_iff (columns : List Nat) (column : Nat) :
    indentOf columns < column ↔ columns.head?.all (· < column) = true := by
  cases columns with
  | nil =>
      simp [indentOf]
      omega
  | cons c rest => simp [indentOf]

theorem addIndent_state (p : Place) (column : Nat) :
    addIndent column (s.state p allowed keys) =
      if s.columns.head?.all (· < column) then
        .ok (true, (Layout.mk (column :: s.columns) s.tokens).state p allowed keys)
      else .ok (false, s.state p allowed keys) := by
  rw [addIndent, get_bind]
  by_cases hopen : s.columns.head?.all (· < column) = true
  · rw [if_pos hopen, if_pos (show (s.state p allowed keys).indent < column from
      (lt_indentOf_iff _ _).mpr hopen)]
    rfl
  · rw [if_neg hopen, if_neg (show ¬ (s.state p allowed keys).indent < column from
      mt (lt_indentOf_iff _ _).mp hopen)]
    rfl

theorem blockEntry_state (cs : List Char) (i l column : Nat) :
    blockEntry (s.state ⟨'-' :: cs, i, l, column⟩ true []) = .ok ((),
      (s.enter .blockSequenceStart column [.blockEntry]).state ⟨cs, i + 1, l, column + 1⟩
        true []) := by
  have hstep : step ⟨'-' :: cs, i, l, column⟩ = ⟨cs, i + 1, l, column + 1⟩ :=
    step_of_not_break (by decide) cs i l column
  have hindent := @addIndent_state s true [] ⟨'-' :: cs, i, l, column⟩ column
  rw [blockEntry, get_bind,
    if_pos (show (s.state ⟨'-' :: cs, i, l, column⟩ true []).flow == 0 from rfl), Layout.enter]
  show (addIndent column >>= _ : Scan Unit) (s.state ⟨'-' :: cs, i, l, column⟩ true []) = _
  split at hindent
  · rename_i hopen
    rw [if_pos hopen, bind_ok hindent]
    show Except.ok _ = _
    simp [Layout.state, hstep]
  · rename_i hopen
    rw [if_neg hopen, bind_ok hindent]
    show Except.ok _ = _
    simp [Layout.state, hstep]

/-- The place of a key that may start with the next token. -/
def keyPlace (s : Layout) (p : Place) : KeyPlace :=
  ⟨s.tokens.length, indentOf s.columns == p.column, p.index, p.line, p.column⟩

def keyPlaces (s : Layout) (p : Place) (allowed : Bool) : List (Nat × KeyPlace) :=
  if allowed then [(0, keyPlace s p)] else []

theorem saveKey_state (p : Place) :
    saveKey (s.state p allowed []) = .ok ((), s.state p allowed (keyPlaces s p allowed)) := by
  cases allowed with
  | true =>
      rw [saveKey, get_bind, if_pos (show (s.state p true []).keyAllowed = true from rfl)]
      show Except.ok _ = _
      simp [Layout.state, keyPlaces, keyPlace]
  | false => rfl

theorem plain_state {p q : Place} {text : List Char} {broken : Bool}
    (h : scanPlain false (indentOf s.columns + 1) (p.rest.length + 1) p = (text, broken, q)) :
    plain (s.state p allowed []) = .ok ((),
      (s.add (.scalar ⟨text, none⟩ true)).state q broken (keyPlaces s p allowed)) := by
  rw [plain, bind_ok (saveKey_state p), get_bind]
  generalize hscan : scanPlain _ _ _ _ = found
  have hfound : found = (text, broken, q) := hscan.symm.trans h
  rw [hfound]
  show Except.ok _ = _
  simp [Layout.state, Layout.add]

theorem insertIdx_append {α : Type} (xs ys : List α) (a : α) :
    (xs ++ ys).insertIdx xs.length a = xs ++ a :: ys := by
  induction xs with
  | nil => rfl
  | cons x xs ih => simp [ih]

theorem insertAt_state (columns : List Nat) (before ts : List Token) (t : Token) (p : Place)
    (allowed : Bool) (keys : List (Nat × KeyPlace)) :
    insertAt before.length t ((Layout.mk columns (before ++ ts)).state p allowed keys) =
      .ok ((), (Layout.mk columns (before ++ t :: ts)).state p allowed keys) := by
  show Except.ok _ = _
  simp only [Layout.state, List.insertIdxIfInBounds_toArray, insertIdx_append]

/-- Behind a key, the tokens in front of it are put in, and the place for it is used up. -/
theorem value_state {t : Token} {k : KeyPlace} {p : Place} (hk : k.token = s.tokens.length) :
    value ((s.add t).state p false [(0, k)]) = .ok ((),
      (s.enter .blockMappingStart k.column [.key, t, .value]).state p.step false []) := by
  have hkey := insertAt_state s.columns s.tokens [t] .key p false []
  have hindent := @addIndent_state ⟨s.columns, s.tokens ++ [.key, t]⟩ false [] p k.column
  rw [← hk] at hkey
  rw [value, get_bind]
  simp only [show List.lookup ((s.add t).state p false [(0, k)]).flow
    ((s.add t).state p false [(0, k)]).keys = some k from rfl]
  rw [set_bind]
  refine (bind_ok hkey).trans ?_
  rw [if_pos (show (((s.add t).state p false [(0, k)]).flow == 0) = true from rfl), Layout.enter]
  split at hindent
  · rename_i hopen
    have hstart := insertAt_state (k.column :: s.columns) s.tokens [.key, t] .blockMappingStart p
      false []
    rw [← hk] at hstart
    rw [if_pos hopen, bind_ok hindent]
    show (insertAt k.token .blockMappingStart >>= _ : Scan Unit) _ = _
    rw [bind_ok hstart]
    show Except.ok _ = _
    simp [Layout.state]
  · rename_i hopen
    rw [if_neg hopen, bind_ok hindent]
    show Except.ok _ = _
    simp [Layout.state]

/-! ## Runs over tokens -/

/-- The scanner comes from one state to another, and reads a character at least for each token. -/
def Reaches (st st' : ScanState) : Prop :=
  ∃ n, n + st'.place.rest.length ≤ st.place.rest.length ∧ ∀ fuel, all (n + fuel) st = all fuel st'

theorem Reaches.refl (st : ScanState) : Reaches st st :=
  ⟨0, Nat.le_of_eq (Nat.zero_add _), fun fuel => by rw [Nat.zero_add]⟩

theorem Reaches.trans {st₁ st₂ st₃ : ScanState} (h : Reaches st₁ st₂) (h' : Reaches st₂ st₃) :
    Reaches st₁ st₃ := by
  obtain ⟨n, hn, hall⟩ := h
  obtain ⟨n', hn', hall'⟩ := h'
  refine ⟨n + n', by omega, fun fuel => ?_⟩
  rw [Nat.add_assoc, hall, hall']

theorem reaches_of_next {st st' : ScanState} (h : next st = .ok (true, st'))
    (hlt : st'.place.rest.length < st.place.rest.length) : Reaches st st' := by
  refine ⟨1, by omega, fun fuel => ?_⟩
  rw [Nat.add_comm, all]
  exact bind_ok h

/-- The next token is at a place, and no place for a key is left. -/
def Ahead (st : ScanState) (cs : List Char) (column : Nat) (s : Layout) (allowed : Bool) : Prop :=
  cs.length ≤ st.place.rest.length ∧ ∃ i l, Settles st (s.state ⟨cs, i, l, column⟩ allowed [])

/-- Spaces in front of a token are skipped. -/
theorem ahead_spaces (n : Nat) {cs : List Char} (hcs : StartsToken cs) {i l : Nat} (k : Nat)
    (hkeys : AreStale keys l) :
    Ahead (s.state ⟨List.replicate n ' ' ++ cs, i, l, k⟩ allowed keys) cs (k + n)
      (s.leave (k + n)) allowed := by
  refine ⟨by simp [Layout.state], i + n, l, ?_⟩
  exact settles_of_skip (skipToToken_spaces n hcs _ i l k) (dropStaleKeys_of_stale hkeys)

/-- The end of a line, and notes behind it, are skipped, and then a key may start. -/
theorem ahead_gap {notes : List Note} (hnotes : ∀ note ∈ notes, note.IsLine) {n : Nat}
    {cs : List Char} (hcs : StartsToken cs) (i l k : Nat) :
    Ahead (s.state ⟨'\n' :: (gapText notes n ++ cs), i, l, k⟩ allowed []) cs n (s.leave n) true := by
  have hfuel : notes.length < (gapText notes n ++ cs).length + 1 := by
    have hnotes := length_le_gapText notes n
    rw [List.length_append]
    omega
  obtain ⟨j, m, hline⟩ := behindBlanks_note (show (Note.mk 0 none).IsLine by simp [Note.IsLine])
    (gapText notes n ++ cs) i l k
  have hskip : ∃ j', skipToToken ((gapText notes n ++ cs).length + 1)
      (s.state ⟨gapText notes n ++ cs, j + 1, l + 1, 0⟩ true []) =
        .ok ((), s.state ⟨cs, j', l + 1 + notes.length, n⟩ true []) :=
    skipToToken_gap hnotes hcs hfuel rfl rfl rfl
  obtain ⟨j', hskip⟩ := hskip
  refine ⟨by simp [Layout.state]; omega, j', l + 1 + notes.length, ?_⟩
  refine settles_of_skip ?_ (dropStaleKeys_of_stale (areStale_nil _))
  rw [skipToToken_succ]
  simp only [Layout.state]
  rw [show behindBlanks ⟨'\n' :: (gapText notes n ++ cs), i, l, k⟩ = _ from hline,
    lineBreak_newline]
  exact hskip

section reaches

variable {st : ScanState} {cs : List Char} {column : Nat}

theorem reaches_entry (h : Ahead st ('-' :: ' ' :: cs) column s true) (hcs : StartsToken cs)
    (hbelow : s.Below column) :
    ∃ st', Reaches st st' ∧
      Ahead st' cs (column + 2) (s.enter .blockSequenceStart column [.blockEntry]) true := by
  obtain ⟨hlength, i, l, hsettles⟩ := h
  have hnext := next_entry hsettles
  rw [bind_ok (blockEntry_state (' ' :: cs) i l column)] at hnext
  refine ⟨_, reaches_of_next hnext ?_, ?_⟩
  · show (' ' :: cs).length < st.place.rest.length
    simp only [List.length_cons] at hlength ⊢
    omega
  · have hahead := @ahead_spaces (s.enter .blockSequenceStart column [.blockEntry]) true [] 1 cs hcs
      (i + 1) l (column + 1) (areStale_nil l)
    have hwithin : (s.enter .blockSequenceStart column [.blockEntry]).Below (column + 1 + 1) :=
      (Layout.below_enter hbelow).mono (Nat.le_add_right column 2)
    rw [Layout.leave_of_below hwithin] at hahead
    exact hahead

/-- A key and its colon are two tokens, and the place for the key is in front of both. -/
theorem reaches_key {text : List Char} {c : Char}
    (h : Ahead st (text ++ ':' :: c :: cs) column s true) (hplain : IsPlain text)
    (hshort : text.length ≤ 1024) (hc : isBreak c = true ∨ c = ' ')
    (hseparator : column = 0 → NoSeparator (text ++ ':' :: c :: cs)) (hbelow : s.Below column) :
    ∃ i l k, column ≤ k ∧ Reaches st ((s.enter .blockMappingStart column
      [.key, .scalar ⟨text, none⟩ true, .value]).state ⟨c :: cs, i, l, k⟩ false []) := by
  obtain ⟨hlength, i, l, hsettles⟩ := h
  have hstarts := startsPlain_append hplain.starts (':' :: c :: cs) i l column
  have hnext := next_plain hsettles hstarts hseparator
  have hscan := scanPlain_key hplain hc cs (indentOf s.columns + 1)
    (text ++ ':' :: c :: cs).length i l column
  rw [bind_ok (plain_state hscan)] at hnext
  have hfirst : Reaches st _ := reaches_of_next hnext (by
    obtain ⟨d, ds, rfl, -⟩ := hplain.exists_cons
    simp only [Layout.state, List.length_append, List.length_cons] at hlength ⊢
    omega)
  -- in front of the colon, the place for the key is still open
  have hcolon : StartsToken (':' :: c :: cs) := by simp [StartsToken, isBreak]
  have hfresh : dropStaleKeys ((s.add (.scalar ⟨text, none⟩ true)).state
      ⟨':' :: c :: cs, i + text.length, l, column + width text⟩ false
      [(0, keyPlace s ⟨text ++ ':' :: c :: cs, i, l, column⟩)]) = .ok ((), _) :=
    dropStaleKeys_of_fresh rfl (Nat.add_le_add_left hshort i)
  have hwithin : (s.add (.scalar ⟨text, none⟩ true)).Below (column + width text) :=
    hbelow.mono (Nat.le_add_right column (width text))
  have hsettled := settles_of_skip (skipToToken_spaces 0 hcolon (':' :: c :: cs).length
    (i + text.length) l (column + width text)) hfresh
  rw [show Place.column _ = column + width text from rfl, Layout.leave_of_below hwithin] at hsettled
  have hnext' := next_value hsettled hc
  rw [bind_ok (value_state rfl), step_of_not_break (by decide)] at hnext'
  refine ⟨_, _, _, ?_, hfirst.trans (reaches_of_next hnext' ?_)⟩
  · exact Nat.le_add_right_of_le (Nat.le_add_right column _)
  · simp [Layout.state]

/-- A scalar that fills its line is read together with the blank lines behind it. -/
theorem reaches_scalar {text : List Char} {notes : List Note} {n : Nat}
    (h : Ahead st (text ++ '\n' :: (gapText notes n ++ cs)) column s allowed)
    (hplain : IsPlain text) (hnotes : ∀ note ∈ notes, note.IsBlank) (hcs : Stands n cs)
    (hindent : (n : Int) ≤ indentOf s.columns) (hcolumn : column ≠ 0)
    (hkey : allowed = true → indentOf s.columns ≠ column) :
    ∃ st', Reaches st st' ∧
      Ahead st' cs n ((s.add (.scalar ⟨text, none⟩ true)).leave n) true := by
  obtain ⟨hlength, i, l, hsettles⟩ := h
  have hstarts := startsPlain_append hplain.starts ('\n' :: (gapText notes n ++ cs)) i l column
  have hnext := next_plain hsettles hstarts fun hzero => absurd hzero hcolumn
  obtain ⟨j, hscan⟩ := scanPlain_line hplain hnotes hcs (Int.lt_add_one_of_le hindent)
    (text ++ '\n' :: (gapText notes n ++ cs)).length i l column
  rw [bind_ok (plain_state hscan)] at hnext
  refine ⟨_, reaches_of_next hnext ?_, ?_⟩
  · obtain ⟨d, ds, rfl, -⟩ := hplain.exists_cons
    simp only [Layout.state, List.length_append, List.length_cons] at hlength ⊢
    omega
  · -- a key might have started with the scalar, but the line has ended
    have hkeys : AreStale (keyPlaces s ⟨text ++ '\n' :: (gapText notes n ++ cs), i, l, column⟩
        allowed) (l + 1 + notes.length) := by
      intro e he
      rw [keyPlaces] at he
      split at he
      · rename_i hallowed
        obtain rfl := List.mem_singleton.mp he
        refine ⟨by simp [keyPlace]; omega, ?_⟩
        simpa [keyPlace] using hkey hallowed
      · cases he
    exact ahead_spaces 0 hcs.token n hkeys

end reaches

end ConnectClients.Yaml.Scan
