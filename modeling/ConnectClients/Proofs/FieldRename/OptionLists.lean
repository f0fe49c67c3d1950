import ConnectClients.Proofs.FieldRename.Settled
import ConnectClients.Proofs.Text.Stops

/-!
# Searching a line for a JSON name

What is read of a field ends at the bracket that opens its options. From there the search for a JSON
name goes on to the end of the line, over the bracket that closes the options and over whatever is
declared behind it.
-/

namespace ConnectClients.FieldRename

open Text

/-- A character that stands in no JSON name with its key, and in nothing that is read of a field in
front of its options. -/
def IsStop (c : Char) : Prop :=
  isWord c = false ∧ isBlank c = false ∧ isDecimal c = false ∧ c ≠ '=' ∧ c ≠ '"'

instance (c : Char) : Decidable (IsStop c) :=
  inferInstanceAs (Decidable (_ ∧ _ ∧ _ ∧ _ ∧ _))

variable {c : Char} {cs rest : List Char}

/-! ## JSON names in a text -/

theorem readsUpTo_readJsonName (hc : IsStop c) : ReadsUpTo c readJsonName := by
  obtain ⟨hword, hblank, -, hequals, hquote⟩ := hc
  have hkey : c ∉ "json_name".toList := by
    intro hmem
    have hall : ∀ d ∈ "json_name".toList, isWord d = true := List.all_eq_true.mp (by decide)
    rw [hall c hmem] at hword
    cases hword
  have hequals : c ∉ "=".toList := by simpa using hequals
  have hquote : c ∉ "\"".toList := by simpa using hquote
  exact .literal hkey <| .skipBlanks hblank <| .literal hequals <| .skipBlanks hblank <|
    .literal hquote <| .run hword fun name => .literal hquote <| readsUpTo_pure name

/-- The key of a JSON name starts with its first letter. -/
theorem readJsonName_cons_of_ne (hc : c ≠ 'j') (cs : List Char) : readJsonName (c :: cs) = none := by
  have hkey : literal? "json_name" (c :: cs) = none := by
    rw [literal?_eq_none_iff]
    rintro ⟨rest, hrest⟩
    exact hc (List.cons.inj hrest).1.symm
  rw [readJsonName, hkey]
  rfl

theorem ne_of_isBlank (hblank : isBlank c = true) : c ≠ 'j' := by
  rintro rfl
  exact absurd hblank (by decide)

/-- What is left behind a JSON name is an end of the text, and there is a quote in the text. -/
theorem readJsonName_suffix {name : List Char} (h : readJsonName cs = some (name, rest)) :
    rest <:+ cs ∧ '"' ∈ cs := by
  simp only [readJsonName, Option.bind_eq_bind, Option.bind_eq_some_iff, Prod.exists,
    Option.pure_def, Option.some.injEq, Prod.mk.injEq] at h
  obtain ⟨behindKey, hkey, behindMark, hmark, behindQuote, hquote, _, behindName, hname, _, hend,
    rfl, rfl⟩ := h
  have hopened : skipBlanks behindMark <:+ cs :=
    (skipBlanks_suffix _).trans <| (literal?_suffix hmark).trans <|
      (skipBlanks_suffix _).trans <| literal?_suffix hkey
  constructor
  · exact (literal?_suffix hend).trans <| (run?_suffix hname).trans <|
      (literal?_suffix hquote).trans hopened
  · rw [literal?_eq_some_iff] at hquote
    exact hopened.subset (hquote ▸ List.mem_cons_self)

/-- The first JSON name in a text. -/
def jsonNameIn (cs : List Char) : Option (List Char) :=
  (scanFirst? readJsonName cs).map Prod.fst

theorem jsonNameIn_cons_of_some {name : List Char} (h : readJsonName (c :: cs) = some (name, rest)) :
    jsonNameIn (c :: cs) = some name := by
  rw [jsonNameIn, scanFirst?, h]
  rfl

theorem jsonNameIn_cons_of_none (h : readJsonName (c :: cs) = none) :
    jsonNameIn (c :: cs) = jsonNameIn cs := by
  rw [jsonNameIn, scanFirst?, h]
  rfl

theorem isNameText_of_jsonNameIn {name : List Char} (h : jsonNameIn cs = some name) :
    IsNameText name := by
  induction cs with
  | nil => cases h
  | cons c cs ih =>
      cases hread : readJsonName (c :: cs) with
      | none =>
          rw [jsonNameIn_cons_of_none hread] at h
          exact ih h
      | some found =>
          rw [jsonNameIn_cons_of_some hread] at h
          cases h
          exact isNameText_of_readJsonName hread

theorem jsonNameIn_blanks (hblank : ∀ d ∈ cs, isBlank d = true) (rest : List Char) :
    jsonNameIn (cs ++ rest) = jsonNameIn rest := by
  induction cs with
  | nil => rfl
  | cons d ds ih =>
      rw [List.forall_mem_cons] at hblank
      have hread := readJsonName_cons_of_ne (ne_of_isBlank hblank.1) (ds ++ rest)
      rw [List.cons_append, jsonNameIn_cons_of_none hread, ih hblank.2]

/-- A stop parts a text. -/
theorem jsonNameIn_append_cons (hc : IsStop c) (cs rest : List Char) :
    jsonNameIn (cs ++ c :: rest) = (jsonNameIn cs).or (jsonNameIn rest) := by
  rw [jsonNameIn, scanFirst?_append_cons (readsUpTo_readJsonName hc) rfl, Option.map_or,
    Option.map_map]
  rfl

theorem jsonNameIn_eq_none (h : '"' ∉ cs) : jsonNameIn cs = none := by
  induction cs with
  | nil => rfl
  | cons c cs ih =>
      rw [List.mem_cons, not_or] at h
      have hnone : readJsonName (c :: cs) = none := by
        cases hread : readJsonName (c :: cs) with
        | none => rfl
        | some found =>
            have hquote := (readJsonName_suffix hread).2
            exact absurd hquote (by simpa using ⟨h.1, h.2⟩)
      rw [jsonNameIn_cons_of_none hnone, ih h.2]

/-! ## JSON names on a line -/

theorem closeOptions_append (hbracket : ']' ∉ cs) (hline : '\n' ∉ cs) (rest : List Char) :
    closeOptions (cs ++ ']' :: ';' :: rest) = some rest := by
  induction cs with
  | nil => rfl
  | cons c cs ih =>
      rw [List.mem_cons, not_or] at hbracket hline
      rw [List.cons_append, closeOptions, if_neg (by simpa using Ne.symm hline.1),
        ih hbracket.2 hline.2]
      · rintro rest' rfl -
        exact hbracket.1 rfl
      · rintro rfl
        exact hbracket.1 rfl

theorem findJsonName_cons_of_none (hread : readJsonName (c :: cs) = none) (hline : c ≠ '\n') :
    findJsonName (c :: cs) = findJsonName cs := by
  rw [findJsonName, hread]
  exact if_neg (by simpa using hline)

/-- The search passes over a text without a JSON name. -/
theorem findJsonName_skip (hc : IsStop c) (hnone : jsonNameIn cs = none) (hline : '\n' ∉ cs)
    (rest : List Char) : findJsonName (cs ++ c :: rest) = findJsonName rest := by
  have hstop := readsUpTo_readJsonName hc
  have hnewline : c ≠ '\n' := by
    rintro rfl
    exact absurd hc (by decide)
  induction cs with
  | nil => exact findJsonName_cons_of_none (hstop.cons_eq_none rfl rest) hnewline
  | cons d ds ih =>
      rw [List.mem_cons, not_or] at hline
      cases hread : readJsonName (d :: ds) with
      | some found =>
          rw [jsonNameIn_cons_of_some hread] at hnone
          cases hnone
      | none =>
          -- A JSON name that starts here would end in front of the stop, so there is none.
          rw [jsonNameIn_cons_of_none hread] at hnone
          have hover := hstop (d :: ds) rest
          rw [hread, List.cons_append] at hover
          rw [List.cons_append, findJsonName_cons_of_none hover (Ne.symm hline.1)]
          exact ih hnone hline.2

/-- The search ends at a JSON name among options, behind the bracket that closes them. -/
theorem findJsonName_found {name : List Char} (hfound : jsonNameIn cs = some name)
    (hbracket : ']' ∉ cs) (hline : '\n' ∉ cs) (rest : List Char) :
    findJsonName (cs ++ ']' :: ';' :: rest) = some (name, rest) := by
  have hstop : ReadsUpTo ']' readJsonName := readsUpTo_readJsonName (by decide)
  induction cs with
  | nil => cases hfound
  | cons d ds ih =>
      have hover := hstop (d :: ds) (';' :: rest)
      cases hread : readJsonName (d :: ds) with
      | some found =>
          obtain ⟨name', more⟩ := found
          rw [jsonNameIn_cons_of_some hread] at hfound
          rw [hread] at hover
          cases hfound
          -- What is left of the options has no bracket in it, so the next one closes them.
          have hmore := (readJsonName_suffix hread).1
          have hclose := closeOptions_append (fun h => hbracket (hmore.subset h))
            (fun h => hline (hmore.subset h)) rest
          rw [List.cons_append] at hover
          rw [List.cons_append, findJsonName, hover]
          simp only [Option.map_some, Option.bind_some, hclose]
      | none =>
          rw [hread, List.cons_append] at hover
          rw [jsonNameIn_cons_of_none hread] at hfound
          rw [List.mem_cons, not_or] at hbracket hline
          rw [List.cons_append, findJsonName_cons_of_none hover (Ne.symm hline.1)]
          exact ih hfound hbracket.2 hline.2

/-- Behind options without a JSON name the search goes on. -/
theorem findJsonName_options (hbracket : ']' ∉ cs) (hline : '\n' ∉ cs) (rest : List Char) :
    findJsonName (cs ++ ']' :: ';' :: rest) =
      ((jsonNameIn cs).map fun name => (name, rest)).or (findJsonName rest) := by
  cases hfound : jsonNameIn cs with
  | some name => exact findJsonName_found hfound hbracket hline rest
  | none =>
      rw [findJsonName_skip (by decide) hfound hline]
      exact findJsonName_cons_of_none (readJsonName_cons_of_ne (by decide) rest) (by decide)

/-- The search passes over blanks, but does not leave the line. -/
theorem findJsonName_blanks (hblank : ∀ d ∈ cs, isBlank d = true) (rest : List Char) :
    findJsonName (cs ++ rest) = if '\n' ∈ cs then none else findJsonName rest := by
  induction cs with
  | nil => rfl
  | cons d ds ih =>
      rw [List.forall_mem_cons] at hblank
      have hne := ne_of_isBlank hblank.1
      rw [List.cons_append]
      by_cases hd : d = '\n'
      · subst hd
        have hend : findJsonName ('\n' :: (ds ++ rest)) = none := by
          rw [findJsonName, readJsonName_cons_of_ne hne]
          rfl
        rw [hend, if_pos List.mem_cons_self]
      · rw [findJsonName_cons_of_none (readJsonName_cons_of_ne hne _) hd, ih hblank.2]
        simp only [List.mem_cons, Ne.symm hd, false_or]

theorem closeOptions_suffix (h : closeOptions cs = some rest) : rest <:+ cs := by
  induction cs using closeOptions.induct with
  | case1 => cases h
  | case2 more =>
      cases h
      exact List.suffix_append [']', ';'] _
  | case3 more hmore =>
      rw [closeOptions] at h
      · cases h
        exact List.suffix_cons ']' _
      · exact hmore
  | case4 c more hfirst hsecond hline =>
      rw [closeOptions, if_pos hline] at h
      · cases h
      · exact hfirst
      · exact hsecond
  | case5 c more hfirst hsecond hline ih =>
      rw [closeOptions, if_neg hline] at h
      · exact (ih h).trans (List.suffix_cons c more)
      · exact hfirst
      · exact hsecond

theorem findJsonName_suffix {name : List Char} (h : findJsonName cs = some (name, rest)) :
    rest <:+ cs := by
  induction cs with
  | nil => cases h
  | cons c cs ih =>
      rw [findJsonName] at h
      split at h
      · rename_i found hfound
        cases h
        obtain ⟨⟨name', behind⟩, hread, hclose⟩ := Option.bind_eq_some_iff.mp hfound
        obtain ⟨_, hclose, heq⟩ := Option.map_eq_some_iff.mp hclose
        cases heq
        exact (closeOptions_suffix hclose).trans (readJsonName_suffix hread).1
      · split at h
        · cases h
        · exact (ih h).trans (List.suffix_cons c cs)

/-! ## Fields -/

/-- What is read of a field in front of its options: its name. -/
def readHead (cs : List Char) : Option (List Char × List Char) := do
  let (_, cs) ← run? isWord cs
  let cs ← blanks? cs
  let (field, cs) ← run? isWord cs
  let cs ← literal? "=" (skipBlanks cs)
  let (_, cs) ← run? isDecimal (skipBlanks cs)
  return (field, skipBlanks cs)

theorem readField_eq (cs : List Char) : readField cs = (readHead cs).bind fun (field, cs) =>
    (literal? "[" cs).bind fun cs =>
      (findJsonName cs).map fun (name, rest) => ((field, name), rest) := by
  simp only [readField, readHead, Option.bind_eq_bind, Option.bind_assoc, Option.pure_def,
    Option.bind_some, Option.map_eq_bind]
  rfl

theorem readsUpTo_readHead (hc : IsStop c) : ReadsUpTo c readHead := by
  obtain ⟨hword, hblank, hdecimal, hequals, -⟩ := hc
  have hequals : c ∉ "=".toList := by simpa using hequals
  have hend : ∀ field : List Char, ReadsUpTo c fun cs => some (field, skipBlanks cs) :=
    fun field => .skipBlanks hblank (readsUpTo_pure field)
  exact .run hword fun _ => .blanks hblank <| .run hword fun field => .skipBlanks hblank <|
    .literal hequals <| .skipBlanks hblank <| .run hdecimal fun _ => hend field

theorem readHead_suffix {field : List Char} (h : readHead cs = some (field, rest)) :
    rest <:+ cs := by
  simp only [readHead, Option.bind_eq_bind, Option.bind_eq_some_iff, Prod.exists,
    Option.pure_def, Option.some.injEq, Prod.mk.injEq] at h
  obtain ⟨_, behindType, htype, behindBlanks, hblanks, _, behindName, hname, behindMark, hmark,
    _, behindNumber, hnumber, rfl, rfl⟩ := h
  exact (skipBlanks_suffix _).trans <| (run?_suffix hnumber).trans <|
    (skipBlanks_suffix _).trans <| (literal?_suffix hmark).trans <|
      (skipBlanks_suffix _).trans <| (run?_suffix hname).trans <|
        (blanks?_suffix hblanks).trans (run?_suffix htype)

/-- No field is read over a stop, unless the stop opens options and a JSON name is found in what
follows. -/
theorem readField_eq_none (hc : IsStop c) (hopen : '[' ∉ cs)
    (hnone : c ≠ '[' ∨ findJsonName rest = none) : readField (cs ++ c :: rest) = none := by
  rw [readField_eq, readsUpTo_readHead hc]
  cases hread : readHead cs with
  | none => rfl
  | some found =>
      obtain ⟨field, more⟩ := found
      cases hliteral : literal? "[" (more ++ c :: rest) with
      | none => simp only [Option.map_some, Option.bind_some, hliteral, Option.bind_none]
      | some behind =>
          have hbehind : more ++ c :: rest = '[' :: behind := literal?_eq_some_iff.mp hliteral
          have hmore : more = [] := by
            cases more with
            | nil => rfl
            | cons d ds =>
                have hd : d = '[' := (List.cons.inj hbehind).1
                exact absurd ((readHead_suffix hread).subset (hd ▸ List.mem_cons_self)) hopen
          rw [hmore, List.nil_append] at hbehind
          obtain ⟨rfl, rfl⟩ := List.cons.inj hbehind
          have hnone := hnone.resolve_left (absurd rfl)
          simp only [Option.map_some, Option.bind_some, hliteral, hnone, Option.map_none]

/-- A scan passes over a text that ends at a stop. -/
theorem scanAll_readField_skip (hc : IsStop c) (hopen : '[' ∉ cs)
    (hnone : c ≠ '[' ∨ findJsonName rest = none) :
    scanAll readField (cs ++ c :: rest) = scanAll readField rest := by
  induction cs with
  | nil => exact scanAll_cons_of_none (readField_eq_none hc hopen hnone)
  | cons d ds ih =>
      have hread := readField_eq_none hc hopen hnone
      rw [List.cons_append] at hread
      rw [List.cons_append, scanAll_cons_of_none hread]
      exact ih fun hmem => hopen (List.mem_cons_of_mem _ hmem)

theorem scanAll_readField_blanks (hblank : ∀ d ∈ cs, isBlank d = true) (rest : List Char) :
    scanAll readField (cs ++ rest) = scanAll readField rest := by
  induction cs with
  | nil => rfl
  | cons d ds ih =>
      rw [List.forall_mem_cons] at hblank
      have hrun : run? isWord (d :: (ds ++ rest)) = none :=
        if_neg (by simp [isWord_of_isBlank hblank.1])
      have hread : readField (d :: (ds ++ rest)) = none := by
        rw [readField, hrun]
        rfl
      rw [List.cons_append, scanAll_cons_of_none hread, ih hblank.2]

end ConnectClients.FieldRename
