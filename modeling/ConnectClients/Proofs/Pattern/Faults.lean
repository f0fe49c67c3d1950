import ConnectClients.Proofs.Pattern.Reading

/-!
# What patterns are refused for

A text is refused for a count if it has the count in braces, and for its switches if it has the two
switches that exclude each other. All other refusals are about the form of the text.
-/

namespace ConnectClients.Pattern

open Read

variable {text : List Char} {st : ReadState}

/-! ## Escapes and classes -/

theorem keeps_readHex (count : Nat) : Keeps text (readHex count) :=
  (keeps_takeWhile _ _).bind fun _ => keeps_check keeps_pure

theorem keeps_readNamedChar : Keeps text readNamedChar := by
  refine (keeps_expect _).bind fun _ => (keeps_name _).bind fun cs => ?_
  split
  · exact keeps_pure
  · exact keeps_fail

theorem keeps_readCodeEscape? (c : Char) : Keeps text (readCodeEscape? c) := by
  unfold readCodeEscape?
  split
  · exact (keeps_readHex 2).bind fun _ => keeps_pure
  · exact (keeps_readHex 4).bind fun _ => keeps_pure
  · exact (keeps_readHex 8).bind fun _ => keeps_check keeps_pure
  · exact keeps_readNamedChar.bind fun _ => keeps_pure
  · exact keeps_pure

theorem keeps_readClassEscape (mode : Mode) (c : Char) : Keeps text (readClassEscape mode c) := by
  unfold readClassEscape
  dsimp only
  split
  · exact keeps_pure
  split
  · exact keeps_pure
  refine (keeps_readCodeEscape? c).bind fun n => ?_
  split
  · exact keeps_pure
  split
  · exact (keeps_takeWhile _ _).bind fun _ => keeps_check keeps_pure
  · exact keeps_check keeps_pure

theorem keeps_readNumberEscape (mode : Mode) (c : Char) : Keeps text (readNumberEscape mode c) := by
  refine (keeps_takeWhile _ _).bind fun second => ?_
  dsimp only
  split
  · refine (keeps_takeWhile _ _).bind fun third => ?_
    split
    · exact keeps_check keeps_pure
    · exact keeps_reference mode _
  · exact keeps_reference mode _

theorem keeps_readEscape (mode : Mode) (c : Char) : Keeps text (readEscape mode c) := by
  unfold readEscape
  dsimp only
  split
  · exact keeps_pure
  split
  · exact keeps_pure
  split
  · exact keeps_pure
  refine (keeps_readCodeEscape? c).bind fun n => ?_
  split
  · exact keeps_pure
  split
  · exact (keeps_takeWhile _ _).bind fun _ => keeps_pure
  split
  · exact keeps_readNumberEscape mode c
  · exact keeps_check keeps_pure

theorem keeps_readClassItem (mode : Mode) (t : Token) : Keeps text (readClassItem mode t) := by
  cases t with
  | escaped c => exact keeps_readClassEscape mode c
  | plain c => exact keeps_pure

theorem keeps_readClassItems (mode : Mode) (fuel : Nat) (items : List ClassItem) :
    Keeps text (readClassItems mode fuel items) := by
  induction fuel generalizing items with
  | zero => exact keeps_fail
  | succ fuel ih =>
      unfold readClassItems
      refine keeps_take.bind fun t => ?_
      split
      · split
        · exact keeps_pure
        refine (keeps_readClassItem mode _).bind fun item => (keeps_accept '-').bind fun dash => ?_
        split
        · exact ih _
        refine keeps_take.bind fun u => ?_
        split
        · split
          · exact keeps_pure
          refine (keeps_readClassItem mode _).bind fun last => ?_
          split
          · exact keeps_check (ih _)
          · exact keeps_fail
        · exact keeps_fail
      · exact keeps_fail

theorem keeps_readClass (mode : Mode) : Keeps text (readClass mode) := by
  refine (keeps_accept '^').bind fun negated => keeps_get_bind fun st => ?_
  exact (keeps_readClassItems mode _ []).bind fun _ => keeps_pure

/-! ## Counts -/

theorem readCount_ends {digits : List Char} (hst : Sound text st) (h : HasCount text digits) :
    Ends (readCount digits) st (Explains text) fun _ => Sound text := by
  unfold readCount
  refine ends_guard (fun hlong => ⟨digits, h, rfl, hlong⟩) fun hshort => ?_
  refine ends_guard (fun hlarge => ⟨digits, h, Nat.not_lt.mp hshort, hlarge⟩) fun _ => ?_
  exact ends_pure hst

/-- Behind an opening brace, what is read as counts are counts in braces of the text. -/
theorem readBraces?_ends (hst : Sound text st) (hbrace : Behind text ['\x7b'] st) :
    Ends readBraces? st (Explains text) fun _ => Sound text := by
  unfold readBraces?
  apply ends_get_bind
  apply ends_peek_bind
  split
  · exact ends_pure hst
  refine (takeWhile_ends hst _ _).bind ?_
  rintro lo st₁ ⟨hst₁, hlo, hlodigits⟩
  have hbehind₁ := hbrace.append hlo
  refine (accept_ends hst₁ ',').bind ?_
  rintro comma st₂ ⟨hst₂, hcomma⟩
  have hbehind₂ := hbehind₁.append hcomma
  -- both counts stand in what was taken, once it is closed
  have hhi : Ends (if comma = true then takeWhile Char.isDigit (st.source.rest.length + 1)
      else pure lo) st₂ (Explains text) fun hi st' => Sound text st' ∧
        (∀ c ∈ hi, c.isDigit = true) ∧ ∃ taken, Behind text taken st' ∧
          Counts lo (taken ++ ['\x7d']) ∧ Counts hi (taken ++ ['\x7d']) := by
    cases comma with
    | false =>
        refine ends_pure ⟨hst₂, hlodigits, '\x7b' :: lo, ?_, Counts.exact, Counts.exact⟩
        simpa using hbehind₂
    | true =>
        refine (takeWhile_ends hst₂ _ _).mono (fun _ h => h) ?_
        rintro hi st₃ ⟨hst₃, hhi, hhidigits⟩
        have hbehind₃ := hbehind₂.append hhi
        refine ⟨hst₃, hhidigits, '\x7b' :: (lo ++ ',' :: hi), by simpa using hbehind₃, ?_, ?_⟩
        · simpa using Counts.least hi
        · simpa using Counts.most lo
  refine ends_ite_bind hhi ?_
  rintro hi st₃ ⟨hst₃, hhidigits, taken, hbehind₃, hlocounts, hhicounts⟩
  refine (accept_ends hst₃ '\x7d').bind ?_
  rintro closed st₄ ⟨hst₄, hclosed⟩
  have hbehind₄ := hbehind₃.append hclosed
  cases closed with
  | false => exact ends_set_bind (ends_pure hst)
  | true =>
      have hleast : Ends (if lo.isEmpty = true then pure 0 else readCount lo) st₄ (Explains text)
          fun _ => Sound text := by
        split
        · exact ends_pure hst₄
        · exact readCount_ends hst₄ ⟨hlodigits, _, hlocounts, hbehind₄.infix⟩
      refine ends_ite_bind hleast fun least st₅ hst₅ => ?_
      split
      · exact ends_pure hst₅
      refine (readCount_ends hst₅ ⟨hhidigits, _, hhicounts, hbehind₄.infix⟩).bind ?_
      exact fun most st₆ hst₆ => ends_check (ends_pure hst₆)

/-! ## Switches -/

theorem turnOn_some {mode next : Mode} {c : Char} (h : mode.turnOn c = some next) : IsSwitch c ∧
    (next.ascii = true → mode.ascii = true ∨ c = 'a') ∧
    (next.full = true → mode.full = true ∨ c = 'u') := by
  unfold Mode.turnOn at h
  split at h <;> cases h <;> simp [IsSwitch]

/-- The letters read so far are switches, among them those for the classes that are asked for. -/
structure Letters (letters : List Char) (mode : Mode) : Prop where
  switches : ∀ c ∈ letters, IsSwitch c
  ascii : mode.ascii = true → 'a' ∈ letters
  full : mode.full = true → 'u' ∈ letters

theorem Letters.turnOn {letters : List Char} {mode next : Mode} {c : Char}
    (h : Letters letters mode) (hc : mode.turnOn c = some next) : Letters (letters ++ [c]) next := by
  obtain ⟨hswitch, hascii, hfull⟩ := turnOn_some hc
  constructor
  · intro d hd
    rcases List.mem_append.mp hd with hd | hd
    · exact h.switches d hd
    · exact List.mem_singleton.mp hd ▸ hswitch
  · intro hon
    rcases hascii hon with hon | rfl
    · exact List.mem_append_left _ (h.ascii hon)
    · exact List.mem_append_right _ (List.mem_singleton_self _)
  · intro hon
    rcases hfull hon with hon | rfl
    · exact List.mem_append_left _ (h.full hon)
    · exact List.mem_append_right _ (List.mem_singleton_self _)

theorem readTurnOn_ends {letters : List Char} {mode : Mode} {c : Char} (hst : Sound text st)
    (h : Letters letters mode) (hbehind : Behind text ('(' :: '?' :: (letters ++ [c])) st)
    (fuel : Nat) : Ends (readTurnOn fuel mode c) st (Explains text) fun r st' =>
      Sound text st' ∧ ∃ letters, Letters letters r.1 ∧
        Behind text ('(' :: '?' :: (letters ++ [r.2])) st' := by
  induction fuel generalizing st letters mode c with
  | zero => exact ends_throw trivial
  | succ fuel ih =>
      unfold readTurnOn
      split
      · rename_i next hnext
        have hletters := h.turnOn hnext
        split
        · exact (ends_throw trivial).bind fun _ _ h => h
        refine (take_ends hst).bind ?_
        rintro t st' ⟨hst', -, hahead⟩
        have hbehind' := hbehind.append hahead
        split
        · split
          · exact ends_pure ⟨hst', _, hletters, hbehind'⟩
          · exact ih hst' hletters hbehind'
        · exact ends_throw trivial
      · exact ends_throw trivial

theorem keeps_readTurnOff (fuel : Nat) (mode : Mode) (c : Char) :
    Keeps text (readTurnOff fuel mode c) := by
  induction fuel generalizing mode c with
  | zero => exact keeps_fail
  | succ fuel ih =>
      unfold readTurnOff
      split
      · refine keeps_check (keeps_take.bind fun t => ?_)
        split
        · split
          · exact keeps_pure
          · exact ih _ _
        · exact keeps_fail
      · exact keeps_fail

/-- The text has the switches for classes that are on in the mode. -/
structure Mode.InText (mode : Mode) (text : List Char) : Prop where
  ascii : mode.ascii = true → HasSwitch text 'a'
  full : mode.full = true → HasSwitch text 'u'

theorem Letters.inText {letters : List Char} {mode : Mode} (h : Letters letters mode)
    (hbehind : Behind text ('(' :: '?' :: (letters ++ [')'])) st) : mode.InText text where
  ascii hon := ⟨letters, h.switches, h.ascii hon, hbehind.infix⟩
  full hon := ⟨letters, h.switches, h.full hon, hbehind.infix⟩

theorem readSwitches_ends {c : Char} (hst : Sound text st)
    (hbehind : Behind text ['(', '?', c] st) : Ends (readSwitches c) st (Explains text) fun r st' =>
      Sound text st' ∧ ∀ on, r = .global on → on.InText text := by
  unfold readSwitches
  apply ends_get_bind
  have hnone : Letters [] {} := ⟨by simp, by simp, by simp⟩
  have hon : Ends (if (c == '-') = true then pure ({}, '-')
      else readTurnOn (st.source.rest.length + 2) {} c) st (Explains text) fun r st' =>
        Sound text st' ∧ ∃ letters, Letters letters r.1 ∧
          Behind text ('(' :: '?' :: (letters ++ [r.2])) st' := by
    split
    · rename_i hdash
      rw [eq_of_beq hdash] at hbehind
      exact ends_pure ⟨hst, [], hnone, hbehind⟩
    · exact readTurnOn_ends hst hnone hbehind _
  refine ends_ite_bind hon ?_
  rintro ⟨on, stop⟩ st₁ ⟨hst₁, letters, hletters, hbehind₁⟩
  dsimp only
  split
  · rename_i hstop
    refine ends_pure ⟨hst₁, ?_⟩
    rintro _ ⟨⟩
    rw [eq_of_beq hstop] at hbehind₁
    exact hletters.inText hbehind₁
  · -- switches for a group say nothing of the whole pattern
    apply ends_check
    split
    · refine (take_ends hst₁).bind ?_
      rintro t st₂ ⟨hst₂, -, -⟩
      split
      · refine (keeps_readTurnOff _ _ _ st₂ hst₂).bind fun off st₃ hst₃ => ?_
        exact ends_check (ends_check (ends_pure ⟨hst₃, nofun⟩))
      · exact (ends_throw trivial).bind fun _ _ h => h
    · refine (keeps_pure st₁ hst₁).bind fun off st₂ hst₂ => ?_
      exact ends_check (ends_check (ends_pure ⟨hst₂, nofun⟩))

/-! ## Parts -/

theorem keeps_repeatLast (least : Nat) (most : Option Nat) (pieces : List Piece) :
    Keeps text (repeatLast least most pieces) := by
  unfold repeatLast
  split
  · exact keeps_fail
  · exact keeps_fail
  · exact keeps_fail
  · refine (keeps_accept _).bind fun reluctant => ?_
    split
    · exact keeps_pure.bind fun _ => keeps_pure
    · exact (keeps_accept _).bind fun _ => keeps_pure

theorem keeps_readCondition : Keeps text readCondition := by
  have hcheck : ∀ index : Nat, Keeps text (do
      checkBehind index
      return index) := fun index => (keeps_checkBehind index).bind fun _ => keeps_pure
  refine (keeps_name _).bind fun cs => ?_
  split
  · refine keeps_get_bind fun st => ?_
    split
    · exact keeps_pure.bind hcheck
    · exact keeps_fail.bind hcheck
  · split
    · refine Keeps.bind (keeps_modify ?_) fun _ => keeps_pure.bind hcheck
      exact fun st hst => hst.congr rfl rfl
    · exact keeps_fail.bind hcheck

theorem keeps_skipComment (fuel : Nat) : Keeps text (skipComment fuel) := by
  induction fuel with
  | zero => exact keeps_fail
  | succ fuel ih =>
      unfold skipComment
      refine keeps_take.bind fun t => ?_
      split
      · exact keeps_fail
      · split
        · exact keeps_pure
        · exact ih

theorem keeps_skipLine (fuel : Nat) : Keeps text (skipLine fuel) := by
  induction fuel with
  | zero => exact keeps_pure
  | succ fuel ih =>
      unfold skipLine
      refine keeps_take.bind fun t => ?_
      split
      · exact keeps_pure
      · split
        · exact keeps_pure
        · exact ih

theorem readOpening_ends (mode : Mode) (hst : Sound text st) (hbehind : Behind text ['('] st) :
    Ends (readOpening mode) st (Explains text) fun o st' =>
      Sound text st' ∧ ∀ on, o = .switches on → on.InText text := by
  unfold readOpening
  refine (accept_ends hst '?').bind ?_
  rintro question st₁ ⟨hst₁, hquestion⟩
  have hbehind₁ := hbehind.append hquestion
  cases question with
  | false => exact ends_pure ⟨hst₁, nofun⟩
  | true =>
      refine (take_ends hst₁).bind ?_
      rintro t st₂ ⟨hst₂, -, htaken⟩
      have hbehind₂ := hbehind₁.append htaken
      split
      · rename_i c
        split
        · refine (keeps_accept _ st₂ hst₂).bind fun less st₃ hst₃ => ?_
          split
          · refine (keeps_name _ st₃ hst₃).bind fun name st₄ hst₄ => ?_
            exact ends_check (ends_pure ⟨hst₄, nofun⟩)
          · refine (keeps_accept _ st₃ hst₃).bind fun equal st₄ hst₄ => ?_
            split
            · refine (keeps_name _ st₄ hst₄).bind fun name st₅ hst₅ => ends_check (ends_get_bind ?_)
              split
              · refine (keeps_reference mode _ st₅ hst₅).bind fun node st₆ hst₆ => ?_
                exact ends_pure ⟨hst₆, nofun⟩
              · exact (ends_throw trivial).bind fun _ _ h => h
            · exact ends_throw trivial
        · exact ends_pure ⟨hst₂, nofun⟩
        · refine ends_get_bind ((keeps_skipComment _ st₂ hst₂).bind fun _ st₃ hst₃ => ?_)
          exact ends_pure ⟨hst₃, nofun⟩
        · exact ends_pure ⟨hst₂, nofun⟩
        · exact ends_pure ⟨hst₂, nofun⟩
        · refine (keeps_take st₂ hst₂).bind fun t st₃ hst₃ => ?_
          split
          · exact ends_pure ⟨hst₃, nofun⟩
          · exact ends_pure ⟨hst₃, nofun⟩
          · exact ends_throw trivial
        · refine (keeps_readCondition st₂ hst₂).bind fun index st₃ hst₃ => ?_
          exact ends_pure ⟨hst₃, nofun⟩
        · exact ends_pure ⟨hst₂, nofun⟩
        · refine (readSwitches_ends hst₂ hbehind₂).bind ?_
          rintro switches st₃ ⟨hst₃, hon⟩
          split
          · rename_i on
            refine ends_pure ⟨hst₃, ?_⟩
            rintro _ ⟨⟩
            exact hon on rfl
          · exact ends_pure ⟨hst₃, nofun⟩
      · exact ends_throw trivial

/-! ## Whole patterns -/

theorem Sound.union {on : Mode} (hst : Sound text st) (hon : on.InText text) :
    Sound text { st with global := st.global.union on } where
  behind := hst.behind
  ascii h := (Bool.or_eq_true_iff.mp h).elim hst.ascii hon.ascii
  full h := (Bool.or_eq_true_iff.mp h).elim hst.full hon.full

/-- Readers of alternatives and of parts stay sound, if those of what is inside do. -/
theorem keeps_readBranches {fuel : Nat}
    (hparts : ∀ outermost first mode pieces, Keeps text (readParts fuel outermost first mode pieces))
    (hbranches : ∀ outermost first mode, Keeps text (readBranches fuel outermost first mode))
    (outermost first : Bool) (mode : Mode) :
    Keeps text (readBranches (fuel + 1) outermost first mode) := by
  rw [readBranches]
  refine (hparts _ _ _ _).bind fun node => (keeps_accept '|').bind fun bar => ?_
  split
  · split
    · exact keeps_get_bind fun st => (hbranches _ _ _).bind fun _ => keeps_pure
    · exact keeps_pure.bind fun mode => (hbranches _ _ _).bind fun _ => keeps_pure
  · exact keeps_pure

section parts

variable {fuel : Nat}
  (hparts : ∀ outermost first mode pieces, Keeps text (readParts fuel outermost first mode pieces))
  (hbranches : ∀ outermost first mode, Keeps text (readBranches fuel outermost first mode))

include hparts

/-- What follows parts that are repeated. -/
theorem keeps_repeatLast_bind (outermost first : Bool) (mode : Mode) (least : Nat)
    (most : Option Nat) (pieces : List Piece) : Keeps text (do
      readParts fuel outermost first mode (← repeatLast least most pieces)) :=
  (keeps_repeatLast least most pieces).bind fun _ => hparts _ _ _ _

include hbranches

theorem keeps_readParts (outermost first : Bool) (mode : Mode) (pieces : List Piece) :
    Keeps text (readParts (fuel + 1) outermost first mode pieces) := by
  rw [readParts]
  intro st hst
  apply ends_peek_bind
  split
  · exact ends_pure hst
  · exact ends_pure hst
  · exact ends_pure hst
  · refine (keeps_take st hst).bind fun _ st₁ hst₁ => ?_
    refine (keeps_readEscape mode _ st₁ hst₁).bind fun node st₂ hst₂ => ?_
    exact hparts _ _ _ _ st₂ hst₂
  · rename_i c _ _ hnext
    refine ends_take_bind hst hnext fun st₁ hst₁ hbehind => ?_
    split
    · exact hparts _ _ _ _ st₁ hst₁
    split
    · refine ends_get_bind ((keeps_skipLine _ st₁ hst₁).bind fun _ st₂ hst₂ => ?_)
      exact hparts _ _ _ _ st₂ hst₂
    split
    · exact ((keeps_readClass mode).bind fun _ => hparts _ _ _ _) st₁ hst₁
    · exact keeps_repeatLast_bind hparts _ _ _ _ _ _ st₁ hst₁
    · exact keeps_repeatLast_bind hparts _ _ _ _ _ _ st₁ hst₁
    · exact keeps_repeatLast_bind hparts _ _ _ _ _ _ st₁ hst₁
    · refine (readBraces?_ends hst₁ hbehind).bind fun counts st₂ hst₂ => ?_
      split
      · exact hparts _ _ _ _ st₂ hst₂
      · exact keeps_repeatLast_bind hparts _ _ _ _ _ _ st₂ hst₂
    · exact hparts _ _ _ _ st₁ hst₁
    · exact hparts _ _ _ _ st₁ hst₁
    · exact hparts _ _ _ _ st₁ hst₁
    · refine (readOpening_ends mode hst₁ hbehind).bind ?_
      rintro opening st₂ ⟨hst₂, hon⟩
      split
      · exact hparts _ _ _ _ st₂ hst₂
      · refine ends_get_bind (ends_modify_bind (ends_check ?_))
        exact hparts _ _ _ _ _ (hst₂.union (hon _ rfl))
      · exact hparts _ _ _ _ st₂ hst₂
      · rename_i ahead negated
        have hbound : ∀ bound : Option Nat, Keeps text
            (modify fun st => { st with behindFrom := bound }) :=
          fun bound => keeps_modify fun st hst => hst.congr rfl rfl
        -- the rest does not depend on whether a part that looks behind is the outermost one
        apply ends_get_bind
        refine keeps_ite (keeps_groupCount.bind fun _ => (hbound _).bind fun _ => ?_) ?_ st₂ hst₂ <;>
          refine (hbranches _ _ _).bind fun body => keeps_when (hbound none) ?_ <;>
          refine (keeps_expect ')').bind fun _ => ?_ <;>
          exact keeps_ite_bind keeps_pure ((keeps_nodeWidth body).bind fun _ => keeps_pure)
            fun _ => hparts _ _ _ _
      · refine ((hparts _ _ _ _).bind fun yes => (keeps_accept '|').bind fun bar => ?_) st₂ hst₂
        refine keeps_ite_bind (hparts _ _ _ _) keeps_pure fun no => ?_
        exact (keeps_expect ')').bind fun _ => hparts _ _ _ _
      · refine ((hbranches _ _ _).bind fun body => ?_) st₂ hst₂
        exact (keeps_expect ')').bind fun _ => hparts _ _ _ _
      · have hopen : ∀ name, Keeps text (do return some (← openGroup name)) :=
          fun name => (keeps_openGroup name).bind fun _ => keeps_pure
        refine keeps_ite_bind (hopen _) keeps_pure (fun index => ?_) st₂ hst₂
        refine (hbranches _ _ _).bind fun body => (keeps_expect ')').bind fun _ => ?_
        cases index with
        | none => exact hparts _ _ _ _
        | some i => exact (keeps_closeGroup i body).bind fun _ => hparts _ _ _ _
    · exact hparts _ _ _ _ st₁ hst₁

end parts

/-- By induction on the fuel, all readers of patterns stay sound. -/
theorem keeps_reading (fuel : Nat) :
    (∀ outermost first mode, Keeps text (readBranches fuel outermost first mode)) ∧
    ∀ outermost first mode pieces, Keeps text (readParts fuel outermost first mode pieces) := by
  induction fuel with
  | zero =>
      refine ⟨fun _ _ _ => ?_, fun _ _ _ _ => ?_⟩
      · rw [readBranches]
        exact keeps_fail
      · rw [readParts]
        exact keeps_fail
  | succ fuel ih =>
      obtain ⟨hbranches, hparts⟩ := ih
      exact ⟨keeps_readBranches hparts hbranches, keeps_readParts hparts hbranches⟩

theorem keeps_readAll : Keeps text (readAll text) := by
  intro st hst
  unfold readAll
  refine ((keeps_reading _).1 _ _ _ st hst).bind fun node st₁ hst₁ => ends_get_bind ?_
  refine ends_guard (fun hboth => ?_) fun _ => ?_
  · obtain ⟨hascii, hfull⟩ := Bool.and_eq_true_iff.mp hboth
    exact ⟨hst₁.ascii hascii, hst₁.full hfull⟩
  · exact ends_check (ends_check (ends_check (ends_check (ends_pure hst₁))))

/-- A text is refused for what is in it. -/
theorem Node.read_error {fault : PatternFault} (h : Node.read text = .error fault) :
    Explains text fault := by
  unfold Node.read at h
  cases hsource : Source.ofText text with
  | error fault' =>
      rw [hsource] at h
      cases h
      rw [Source.ofText_error hsource]
      trivial
  | ok source =>
      have hst : Sound text { source := source } := by
        refine ⟨?_, nofun, nofun⟩
        rw [Behind, Source.ahead_of_ofText hsource]
        exact List.suffix_refl _
      rw [hsource] at h
      -- what the reader ends with but its fault is forgotten
      have heq : (readAll text { source := source }).map Prod.fst = .error fault := h
      cases hrun : readAll text { source := source } with
      | error fault' =>
          rw [hrun] at heq
          cases heq
          exact (keeps_readAll _ hst).of_error hrun
      | ok r =>
          rw [hrun] at heq
          cases heq

end ConnectClients.Pattern
