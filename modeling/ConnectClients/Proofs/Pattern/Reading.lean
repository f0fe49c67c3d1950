import Mathlib.Data.List.Infix
import ConnectClients.Pattern.Reader

/-!
# How readers of patterns end

A reader goes on in the text, and ends with a value or with a fault. What is told here of both is
where the reader is in the text, which switches are on for the whole pattern, and what in the text
a fault is about.
-/

namespace ConnectClients.Pattern

variable {α β : Type}

/-! ## What is ahead -/

/-- What is not taken yet. -/
def Source.ahead (source : Source) : List Char := source.next.elim [] Token.text ++ source.rest

theorem Source.ahead_of_ofText {cs : List Char} {source : Source}
    (h : Source.ofText cs = .ok source) : source.ahead = cs := by
  unfold Source.ofText at h
  split at h <;> cases h <;> rfl

theorem Source.ofText_error {cs : List Char} {fault : PatternFault}
    (h : Source.ofText cs = .error fault) : fault = .malformed := by
  unfold Source.ofText at h
  split at h <;> cases h
  rfl

/-! ## What faults are about -/

/-- Counts in braces, one of which is written with the given digits. -/
inductive Counts (digits : List Char) : List Char → Prop where
  | exact : Counts digits ('\x7b' :: (digits ++ ['\x7d']))
  | least (most : List Char) : Counts digits ('\x7b' :: (digits ++ ',' :: (most ++ ['\x7d'])))
  | most (least : List Char) : Counts digits ('\x7b' :: (least ++ ',' :: (digits ++ ['\x7d'])))

/-- The text has counts in braces, one of which is written with the given digits. -/
def HasCount (text digits : List Char) : Prop :=
  (∀ c ∈ digits, c.isDigit = true) ∧ ∃ braces, Counts digits braces ∧ braces <:+: text

/-- The letters that switch something on. -/
def IsSwitch (c : Char) : Prop := c ∈ ['i', 'm', 's', 'x', 'a', 'u', 't']

/-- The text has a parenthesis that switches something on for the whole pattern. -/
def HasSwitch (text : List Char) (switch : Char) : Prop :=
  ∃ letters, (∀ c ∈ letters, IsSwitch c) ∧ switch ∈ letters ∧
    '(' :: '?' :: (letters ++ [')']) <:+: text

/-- What there is in a text that is refused for a fault. -/
def Explains (text : List Char) : PatternFault → Prop
  | .malformed => True
  | .countTooLarge => ∃ digits, HasCount text digits ∧ digits.length ≤ countDigits ∧
      countLimit ≤ digitsValue 10 digits
  | .countTooLong n => ∃ digits, HasCount text digits ∧ digits.length = n ∧ countDigits < n
  | .asciiAndFull => HasSwitch text 'a' ∧ HasSwitch text 'u'

/-- Something was read, and is followed in the text by what is ahead. -/
def Behind (text taken : List Char) (st : ReadState) : Prop := taken ++ st.source.ahead <:+ text

/-- The reader is inside of the text, which has the switches that are on. -/
structure Sound (text : List Char) (st : ReadState) : Prop where
  behind : Behind text [] st
  ascii : st.global.ascii = true → HasSwitch text 'a'
  full : st.global.full = true → HasSwitch text 'u'

theorem Sound.move {text : List Char} {st st' : ReadState} (h : Sound text st)
    (hglobal : st'.global = st.global) {taken : List Char}
    (hahead : st.source.ahead = taken ++ st'.source.ahead) : Sound text st' where
  behind := (List.suffix_append taken _).trans (hahead ▸ h.behind)
  ascii := hglobal ▸ h.ascii
  full := hglobal ▸ h.full

theorem Sound.congr {text : List Char} {st st' : ReadState} (h : Sound text st)
    (hsource : st'.source = st.source) (hglobal : st'.global = st.global) : Sound text st' where
  behind := by
    rw [Behind, hsource]
    exact h.behind
  ascii := hglobal ▸ h.ascii
  full := hglobal ▸ h.full

theorem Behind.append {text taken more : List Char} {st st' : ReadState} (h : Behind text taken st)
    (hahead : st.source.ahead = more ++ st'.source.ahead) : Behind text (taken ++ more) st' := by
  rw [Behind, List.append_assoc, ← hahead]
  exact h

/-- What was read last is part of the text. -/
theorem Behind.infix {text taken : List Char} {st : ReadState} (h : Behind text taken st) :
    taken <:+: text :=
  (List.infix_append [] taken _).trans h.isInfix

namespace Read

variable {x : Read α} {f : α → Read β} {st : ReadState} {text : List Char}
  {failed failed' : PatternFault → Prop} {done done' : α → ReadState → Prop}

/-! ## Endings -/

/-- What is known of the value and the state that a reader ends with, or of its fault. -/
structure Ends (x : Read α) (st : ReadState) (failed : PatternFault → Prop)
    (done : α → ReadState → Prop) : Prop where
  of_ok : ∀ {a st'}, x st = .ok (a, st') → done a st'
  of_error : ∀ {fault}, x st = .error fault → failed fault

theorem Ends.mono (h : Ends x st failed done) (hfailed : ∀ fault, failed fault → failed' fault)
    (hdone : ∀ a st', done a st' → done' a st') : Ends x st failed' done' where
  of_ok hx := hdone _ _ (h.of_ok hx)
  of_error hx := hfailed _ (h.of_error hx)

theorem ends_pure {a : α} (h : done a st) : Ends (pure a) st failed done where
  of_ok hx := by
    cases hx
    exact h
  of_error hx := by cases hx

theorem ends_throw {fault : PatternFault} (h : failed fault) :
    Ends (throw fault : Read α) st failed done where
  of_ok hx := by cases hx
  of_error hx := by
    cases hx
    exact h

theorem Ends.bind {done' : β → ReadState → Prop} (h : Ends x st failed done)
    (hf : ∀ a st', done a st' → Ends (f a) st' failed done') : Ends (x >>= f) st failed done' := by
  have hrun : (x >>= f) st = Except.bind (x st) fun r => f r.1 r.2 := rfl
  cases hx : x st with
  | error fault =>
      rw [hx] at hrun
      constructor
      · intro _ _ heq
        cases hrun.symm.trans heq
      · intro _ heq
        cases hrun.symm.trans heq
        exact h.of_error hx
  | ok r =>
      rw [hx] at hrun
      have hnext := hf r.1 r.2 (h.of_ok hx)
      constructor
      · exact fun heq => hnext.of_ok (hrun.symm.trans heq)
      · exact fun heq => hnext.of_error (hrun.symm.trans heq)

/-- Two ways to a value that is then used. -/
theorem ends_ite_bind {c : Prop} [Decidable c] {y : Read α} {done' : β → ReadState → Prop}
    (h : Ends (if c then x else y) st failed done)
    (hf : ∀ a st', done a st' → Ends (f a) st' failed done') :
    Ends (if c then x >>= f else y >>= f) st failed done' := by
  split
  · rename_i hc
    rw [if_pos hc] at h
    exact h.bind hf
  · rename_i hc
    rw [if_neg hc] at h
    exact h.bind hf

/-- A check that is not passed ends the reader. -/
theorem ends_guard {c : Prop} [Decidable c] {fault : PatternFault} {f : Unit → Read α}
    (hfault : c → failed fault) (h : ¬ c → Ends (f ()) st failed done) :
    Ends (if c then throw fault >>= f else f ()) st failed done := by
  split
  · rename_i hc
    have hthrow : Ends (throw fault : Read Unit) st failed fun _ _ => False := ends_throw (hfault hc)
    exact hthrow.bind fun _ _ hno => hno.elim
  · rename_i hc
    exact h hc

theorem ends_check {c : Prop} [Decidable c] {f : Unit → Read α}
    (h : Ends (f ()) st (Explains text) done) :
    Ends (if c then fail >>= f else f ()) st (Explains text) done :=
  ends_guard (fun _ => trivial) fun _ => h

theorem ends_get_bind {f : ReadState → Read α} (h : Ends (f st) st failed done) :
    Ends (get >>= f) st failed done :=
  ⟨h.of_ok, h.of_error⟩

theorem ends_set_bind {f : PUnit → Read α} {st' : ReadState} (h : Ends (f ⟨⟩) st' failed done) :
    Ends (set st' >>= f) st failed done :=
  ⟨h.of_ok, h.of_error⟩

theorem ends_modify_bind {f : PUnit → Read α} {g : ReadState → ReadState}
    (h : Ends (f ⟨⟩) (g st) failed done) : Ends (modify g >>= f) st failed done :=
  ⟨h.of_ok, h.of_error⟩

theorem ends_lift_bind {e : Except PatternFault α} {f : α → Read β} {done : β → ReadState → Prop}
    (hok : ∀ a, e = .ok a → Ends (f a) st failed done)
    (herror : ∀ fault, e = .error fault → failed fault) :
    Ends (liftM e >>= f) st failed done := by
  cases e with
  | ok a => exact ⟨(hok a rfl).of_ok, (hok a rfl).of_error⟩
  | error fault =>
      constructor
      · intro _ _ heq
        cases heq
      · intro _ heq
        cases heq
        exact herror _ rfl

theorem ends_peek_bind {f : Option Token → Read α} (h : Ends (f st.source.next) st failed done) :
    Ends (peek >>= f) st failed done :=
  ⟨h.of_ok, h.of_error⟩

/-! ## Readers that stay sound -/

/-- A reader that stays inside of the text, and whose faults are about the text. -/
def Keeps (text : List Char) (x : Read α) : Prop :=
  ∀ st, Sound text st → Ends x st (Explains text) fun _ => Sound text

theorem keeps_pure {a : α} : Keeps text (pure a) := fun _ hst => ends_pure hst

theorem keeps_fail : Keeps text (fail : Read α) := fun _ _ => ends_throw trivial

theorem Keeps.bind (h : Keeps text x) (hf : ∀ a, Keeps text (f a)) : Keeps text (x >>= f) :=
  fun st hst => (h st hst).bind fun a st' hst' => hf a st' hst'

theorem keeps_get_bind {f : ReadState → Read α} (h : ∀ st, Keeps text (f st)) :
    Keeps text (get >>= f) :=
  fun st hst => ends_get_bind (h st st hst)

theorem keeps_modify {g : ReadState → ReadState} (hg : ∀ st, Sound text st → Sound text (g st)) :
    Keeps text (modify g) :=
  fun st hst => ends_modify_bind (ends_pure (hg st hst))

theorem keeps_ite {c : Prop} [Decidable c] {y : Read α} (hx : Keeps text x) (hy : Keeps text y) :
    Keeps text (if c then x else y) := by
  split
  · exact hx
  · exact hy

theorem keeps_ite_bind {c : Prop} [Decidable c] {y : Read α} (hx : Keeps text x)
    (hy : Keeps text y) (hf : ∀ a, Keeps text (f a)) :
    Keeps text (if c then x >>= f else y >>= f) :=
  keeps_ite (hx.bind hf) (hy.bind hf)

/-- A step that is taken only under a condition. -/
theorem keeps_when {c : Prop} [Decidable c] {y : Read Unit} {f : Unit → Read α}
    (hy : Keeps text y) (h : Keeps text (f ())) : Keeps text (if c then y >>= f else f ()) :=
  keeps_ite (hy.bind fun _ => h) h

theorem keeps_check {c : Prop} [Decidable c] {f : Unit → Read α} (h : Keeps text (f ())) :
    Keeps text (if c then fail >>= f else f ()) :=
  keeps_when keeps_fail h

/-! ## Single tokens -/

theorem take_ends (hst : Sound text st) : Ends take st (Explains text) fun t st' =>
    Sound text st' ∧ t = st.source.next ∧ st.source.ahead = t.elim [] Token.text ++ st'.source.ahead := by
  unfold take
  apply ends_get_bind
  apply ends_lift_bind
  · intro source hsource
    have hahead := Source.ahead_of_ofText hsource
    have hmove : st.source.ahead = st.source.next.elim [] Token.text ++ source.ahead := by
      rw [hahead, Source.ahead]
    exact ends_set_bind (ends_pure ⟨hst.move rfl hmove, rfl, hmove⟩)
  · intro fault hfault
    rw [Source.ofText_error hfault]
    trivial

theorem keeps_take : Keeps text take :=
  fun _ hst => (take_ends hst).mono (fun _ h => h) fun _ _ h => h.1

/-- A token that was seen is what is taken. -/
theorem ends_take_bind {f : Option Token → Read α} {t : Token} (hst : Sound text st)
    (hnext : st.source.next = some t)
    (h : ∀ st', Sound text st' → Behind text t.text st' → Ends (f (some t)) st' (Explains text) done) :
    Ends (take >>= f) st (Explains text) done := by
  refine (take_ends hst).bind ?_
  rintro _ st' ⟨hst', rfl, hahead⟩
  rw [hnext] at hahead ⊢
  exact h st' hst' (hst.behind.append hahead)

theorem accept_ends (hst : Sound text st) (c : Char) : Ends (accept c) st (Explains text) fun b st' =>
    Sound text st' ∧ st.source.ahead = (if b then [c] else []) ++ st'.source.ahead := by
  unfold accept
  apply ends_peek_bind
  split
  · rename_i hnext
    refine (take_ends hst).bind ?_
    rintro t st' ⟨hst', rfl, hahead⟩
    rw [eq_of_beq hnext] at hahead
    exact ends_pure ⟨hst', hahead⟩
  · exact ends_pure ⟨hst, rfl⟩

theorem keeps_accept (c : Char) : Keeps text (accept c) :=
  fun _ hst => (accept_ends hst c).mono (fun _ h => h) fun _ _ h => h.1

theorem keeps_expect (c : Char) : Keeps text (expect c) := by
  refine (keeps_accept c).bind fun b => ?_
  split
  · exact keeps_fail
  · exact keeps_pure

/-! ## Several tokens -/

theorem takeWhile_ends (hst : Sound text st) (p : Char → Bool) (limit : Nat) :
    Ends (takeWhile p limit) st (Explains text) fun cs st' =>
      Sound text st' ∧ st.source.ahead = cs ++ st'.source.ahead ∧ ∀ c ∈ cs, p c = true := by
  induction limit generalizing st with
  | zero => exact ends_pure ⟨hst, rfl, by simp⟩
  | succ limit ih =>
      unfold takeWhile
      apply ends_peek_bind
      split
      · rename_i c hnext
        split
        · rename_i hc
          refine (take_ends hst).bind ?_
          rintro t st₁ ⟨hst₁, rfl, hahead⟩
          rw [hnext] at hahead
          refine (ih hst₁).bind ?_
          rintro cs st₂ ⟨hst₂, hrest, hcs⟩
          refine ends_pure ⟨hst₂, ?_, List.forall_mem_cons.mpr ⟨hc, hcs⟩⟩
          rw [hahead, hrest]
          rfl
        · exact ends_pure ⟨hst, rfl, by simp⟩
      · exact ends_pure ⟨hst, rfl, by simp⟩

theorem keeps_takeWhile (p : Char → Bool) (limit : Nat) : Keeps text (takeWhile p limit) :=
  fun _ hst => (takeWhile_ends hst p limit).mono (fun _ h => h) fun _ _ h => h.1

theorem keeps_takeUntil (c : Char) (fuel : Nat) : Keeps text (takeUntil c fuel) := by
  induction fuel with
  | zero => exact keeps_fail
  | succ fuel ih =>
      unfold takeUntil
      refine keeps_take.bind fun t => ?_
      cases t with
      | none => exact keeps_fail
      | some t =>
          dsimp only
          split
          · exact keeps_pure
          · exact ih.bind fun _ => keeps_pure

theorem keeps_name (c : Char) : Keeps text (name c) := by
  refine keeps_get_bind fun st => (keeps_takeUntil c _).bind fun cs => ?_
  split
  · exact keeps_fail
  · exact keeps_pure

/-! ## Groups -/

theorem keeps_groupCount : Keeps text groupCount := keeps_get_bind fun _ => keeps_pure

theorem keeps_closedWidth? (index : Nat) : Keeps text (closedWidth? index) := by
  unfold closedWidth?
  split
  · exact keeps_pure
  · exact keeps_get_bind fun _ => keeps_pure

theorem keeps_openGroup (name : Option (List Char)) : Keeps text (openGroup name) := by
  refine keeps_groupCount.bind fun index st hst => ends_get_bind ?_
  cases name with
  | none => exact ends_set_bind (ends_pure (hst.congr rfl rfl))
  | some cs =>
      · exact ends_check (ends_set_bind (ends_pure (hst.congr rfl rfl)))

theorem keeps_checkBehind (index : Nat) : Keeps text (checkBehind index) := by
  refine keeps_get_bind fun st => ?_
  split
  · exact keeps_pure
  · refine (keeps_closedWidth? index).bind fun _ => keeps_check ?_
    split
    · exact keeps_fail
    · exact keeps_pure

theorem keeps_nodeWidth (node : Node) : Keeps text (nodeWidth node) :=
  keeps_get_bind fun _ => keeps_pure

theorem keeps_closeGroup (index : Nat) (body : Node) : Keeps text (closeGroup index body) :=
  (keeps_nodeWidth body).bind fun _ => keeps_modify fun _ hst => hst.congr rfl rfl

theorem keeps_reference (mode : Mode) (index : Nat) : Keeps text (reference mode index) := by
  refine (keeps_closedWidth? index).bind fun _ => keeps_check ?_
  exact (keeps_checkBehind index).bind fun _ => keeps_pure

end Read

end ConnectClients.Pattern
