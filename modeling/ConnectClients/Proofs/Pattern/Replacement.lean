import Mathlib.Data.List.Basic
import ConnectClients.Pattern.Replacement

/-!
# Templates of plain text and groups

In a template, characters other than the backslash stand for themselves, and a digit in
angle brackets behind a `g` that is escaped stands for the group of that number.
-/

namespace ConnectClients.Pattern.ReplacementPart

variable {α β : Type} {groups fuel : Nat} {cs : List Char} {next : Option Token}
  {source source' : Source}

/-! ## Steps -/

theorem bind_of_ok {x : TemplateRead α} {f : α → TemplateRead β} {a : α}
    (h : x source = .ok (a, source')) : (x >>= f) source = f a source' := by
  show Except.bind (x source) (fun r => f r.1 r.2) = _
  rw [h]
  rfl

theorem advance_plain {c : Char} (hc : c ≠ '\\') (cs : List Char) :
    advance (c :: cs) = .ok ⟨some (.plain c), cs⟩ := by
  rw [advance, Source.ofText]
  · exact fun h => absurd h hc
  · exact fun _ _ h => absurd h hc

theorem takeToken_of_ok (h : advance cs = .ok source) :
    takeToken ⟨next, cs⟩ = .ok (next, source) := by
  unfold takeToken
  rw [bind_of_ok rfl]
  show (StateT.lift (advance cs) >>= fun source => do
    set source
    return next : TemplateRead (Option Token)) ⟨next, cs⟩ = _
  have hlift : (StateT.lift (advance cs) : TemplateRead Source) ⟨next, cs⟩ =
      .ok (source, ⟨next, cs⟩) := by
    rw [h]
    rfl
  rw [bind_of_ok hlift, bind_of_ok rfl]
  rfl

/-- The token to come is taken if it is the character. -/
theorem takeIf_of_ok {p : Char → Bool} {c : Char} (hp : p c = true)
    (h : advance cs = .ok source) : takeIf p ⟨some (.plain c), cs⟩ = .ok (some c, source) := by
  unfold takeIf
  rw [bind_of_ok rfl]
  show (if p c = true then _ else _ : TemplateRead (Option Char)) _ = _
  rw [if_pos hp, bind_of_ok (takeToken_of_ok h)]
  rfl

theorem takeName_of_ok {d : Char} (hclose : d ≠ '>')
    (h : advance cs = .ok source) :
    takeName (fuel + 2) ⟨some (.plain d), '>' :: cs⟩ = .ok ([d], source) := by
  have hstop : takeName (fuel + 1) ⟨some (.plain '>'), cs⟩ = .ok ([], source) := by
    rw [takeName, bind_of_ok (takeToken_of_ok h)]
    rfl
  rw [takeName, bind_of_ok (takeToken_of_ok (advance_plain (by decide) cs))]
  show (if (Token.plain d == Token.plain '>') = true then _ else _ : TemplateRead (List Char)) _ = _
  rw [if_neg (by simpa using hclose), bind_of_ok hstop]
  rfl

theorem readNamed_of_ok {d : Char} {n : Nat} (hplain : d ≠ '\\') (hclose : d ≠ '>')
    (hname : Text.isName [d] = false) (hnumber : Text.readInteger? 10 [d] = some (.ofNat n))
    (hn : n ≤ groups) (h : advance cs = .ok source) :
    readNamed groups ⟨some (.plain '<'), d :: '>' :: cs⟩ = .ok (.group n, source) := by
  unfold readNamed
  refine (bind_of_ok (takeIf_of_ok rfl (advance_plain hplain ('>' :: cs)))).trans ?_
  refine (bind_of_ok rfl).trans ((bind_of_ok (takeName_of_ok hclose h)).trans ?_)
  rw [hname, hnumber]
  show (reference groups n : TemplateRead ReplacementPart) source = _
  rw [reference, if_neg (Nat.not_lt.mpr hn)]
  rfl

/-! ## Templates -/

theorem readParts_plain {c : Char} (h : advance cs = .ok source) :
    readParts groups (fuel + 1) ⟨some (.plain c), cs⟩ =
      (readParts groups fuel source).map fun r => (.text [c] :: r.1, r.2) := by
  rw [readParts, bind_of_ok (takeToken_of_ok h)]
  show Except.bind (readParts groups fuel source) _ = _
  cases readParts groups fuel source <;> rfl

theorem readParts_group {d : Char} {n : Nat} (hplain : d ≠ '\\') (hclose : d ≠ '>')
    (hname : Text.isName [d] = false) (hnumber : Text.readInteger? 10 [d] = some (.ofNat n))
    (hn : n ≤ groups) (h : advance cs = .ok source) :
    readParts groups (fuel + 1) ⟨some (.escaped 'g'), '<' :: d :: '>' :: cs⟩ =
      (readParts groups fuel source).map fun r => (.group n :: r.1, r.2) := by
  have hpart : readEscaped groups 'g' ⟨some (.plain '<'), d :: '>' :: cs⟩ =
      .ok (.group n, source) := by
    unfold readEscaped
    exact readNamed_of_ok hplain hclose hname hnumber hn h
  rw [readParts, bind_of_ok (takeToken_of_ok (advance_plain (by decide) _))]
  show (readEscaped groups 'g' >>= _) _ = _
  rw [bind_of_ok hpart]
  show Except.bind (readParts groups fuel source) _ = _
  cases readParts groups fuel source <;> rfl

theorem readParts_end : readParts groups fuel ⟨none, []⟩ = .ok ([], ⟨none, []⟩) := by
  cases fuel with
  | zero => rfl
  | succ fuel =>
      rw [readParts, bind_of_ok (takeToken_of_ok rfl)]
      rfl

/-- Text without backslashes is read character by character, whatever follows it. -/
theorem readParts_text (groups fuel : Nat) {new rest : List Char} (hplain : '\\' ∉ new)
    (h : advance rest = .ok source') : ∃ source, advance (new ++ rest) = .ok source ∧
      readParts groups (new.length + fuel) source =
        (readParts groups fuel source').map fun r => (new.map (fun c => .text [c]) ++ r.1, r.2) := by
  induction new with
  | nil =>
      refine ⟨source', h, ?_⟩
      rw [List.length_nil, Nat.zero_add]
      cases readParts groups fuel source' <;> rfl
  | cons c cs ih =>
      rw [List.mem_cons, not_or] at hplain
      obtain ⟨source, hsource, hparts⟩ := ih hplain.2
      refine ⟨_, advance_plain (Ne.symm hplain.1) (cs ++ rest), ?_⟩
      rw [List.length_cons, Nat.add_right_comm, readParts_plain hsource, hparts]
      cases readParts groups fuel source' <;> rfl

/-- A text between two groups. -/
theorem read_between {new : List Char} (hplain : '\\' ∉ new) :
    read 2 ("\\g<1>".toList ++ new ++ "\\g<2>".toList) =
      .ok (.group 1 :: (new.map (fun c => .text [c]) ++ [.group 2])) := by
  obtain ⟨source, hsource, hparts⟩ := readParts_text 2 11 hplain
    (show advance "\\g<2>".toList = .ok ⟨some (.escaped 'g'), ['<', '2', '>']⟩ from rfl)
  rw [readParts_group (n := 2) (by decide) (by decide) (by decide) (by decide) (by decide) rfl,
    readParts_end] at hparts
  have hlead : "\\g<1>".toList ++ new ++ "\\g<2>".toList =
      '\\' :: 'g' :: '<' :: '1' :: '>' :: (new ++ "\\g<2>".toList) := rfl
  have hlength : ("\\g<1>".toList ++ new ++ "\\g<2>".toList).length + 2 = new.length + 11 + 1 := by
    simp only [List.length_append, String.length_toList]
    show 5 + new.length + 5 + 2 = _
    omega
  rw [read, hlength, hlead]
  show Except.bind (readParts 2 (new.length + 11 + 1)
    ⟨some (.escaped 'g'), '<' :: '1' :: '>' :: (new ++ "\\g<2>".toList)⟩) _ = _
  rw [readParts_group (n := 1) (by decide) (by decide) (by decide) (by decide) (by decide) hsource,
    hparts]
  rfl

theorem expand_append (groups : Nat → List Char) (parts more : List ReplacementPart) :
    expand groups (parts ++ more) = expand groups parts ++ expand groups more :=
  List.flatMap_append

theorem expand_text (groups : Nat → List Char) (new : List Char) :
    expand groups (new.map fun c => .text [c]) = new := by
  induction new with
  | nil => rfl
  | cons c cs ih =>
      show [c] ++ expand groups (cs.map fun c => .text [c]) = c :: cs
      rw [ih]
      rfl

end ConnectClients.Pattern.ReplacementPart
