import Mathlib.Data.List.Basic
import ConnectClients.FieldRename
import ConnectClients.Proofs.Text.Scan

/-!
# The declared names of a text

A declared name is a longest run of word characters with a blank directly before it and,
after optional blanks, an equals sign or a colon behind it. A text falls into its declared
names and all its other characters. Renaming replaces the names and keeps the rest; if it
makes names of names, the pieces of the renamed text are the renamed pieces.
-/

namespace ConnectClients.FieldRename

open Text

/-! ## Pieces -/

/-- A declared name, or a character outside of all declared names. -/
inductive Piece where
  | declared (name : List Char)
  | other (c : Char)
  deriving DecidableEq, Repr

namespace Piece

def text : Piece → List Char
  | .declared name => name
  | .other c => [c]

def name? : Piece → Option (List Char)
  | .declared name => some name
  | .other _ => none

def rename (f : List Char → List Char) : Piece → Piece
  | .declared name => .declared (f name)
  | .other c => .other c

theorem rename_rename (f g : List Char → List Char) (p : Piece) :
    (p.rename f).rename g = p.rename (g ∘ f) := by
  cases p <;> rfl

theorem rename_eq_iff {f g : List Char → List Char} {p : Piece} :
    p.rename f = p.rename g ↔ ∀ name ∈ p.name?, f name = g name := by
  cases p <;> simp [rename, name?]

end Piece

/-- Whether optional blanks and then an equals sign or a colon come next. -/
def isMarked (cs : List Char) : Bool :=
  (skipBlanks cs).head?.any fun c => c == '=' || c == ':'

/-- The pieces of a text; `behind` tells whether a blank stands directly before the text. -/
def pieces (behind : Bool) : List Char → List Piece
  | [] => []
  | c :: cs =>
    if behind && isWord c && isMarked (cs.dropWhile isWord) then
      .declared (c :: cs.takeWhile isWord) :: pieces false (cs.dropWhile isWord)
    else .other c :: pieces (isBlank c) cs
termination_by cs => cs.length
decreasing_by
  · exact Nat.lt_succ_of_le (List.dropWhile_sublist isWord).length_le
  · exact Nat.lt_succ_self _

/-- The declared names of a text, from left to right. -/
def names (behind : Bool) (cs : List Char) : List (List Char) :=
  (pieces behind cs).filterMap Piece.name?

/-- The text with a new name for each declared name. -/
def renamed (f : List Char → List Char) (behind : Bool) (cs : List Char) : List Char :=
  ((pieces behind cs).map (Piece.rename f)).flatMap Piece.text

/-- Some word characters, and nothing else. -/
def IsNameText (name : List Char) : Prop := name ≠ [] ∧ ∀ c ∈ name, isWord c = true

instance (name : List Char) : Decidable (IsNameText name) :=
  decidable_of_iff (name ≠ [] ∧ name.all isWord = true) (by rw [IsNameText, List.all_eq_true])

/-- A renaming that makes names of names. -/
def KeepsNames (f : List Char → List Char) : Prop := ∀ name, IsNameText name → IsNameText (f name)

/-! ## Words and marks -/

theorem isNameText_takeWhile {c : Char} (h : isWord c = true) (cs : List Char) :
    IsNameText (c :: cs.takeWhile isWord) := by
  refine ⟨List.cons_ne_nil _ _, ?_⟩
  intro d hd
  rcases List.mem_cons.mp hd with rfl | hd
  · exact h
  · exact List.all_eq_true.mp List.all_takeWhile d hd

theorem isMarked_blank {c : Char} (h : isBlank c = true) (cs : List Char) :
    isMarked (c :: cs) = isMarked cs := by
  rw [isMarked, isMarked, skipBlanks, skipBlanks, List.dropWhile_cons_of_pos h]

theorem isMarked_of_not_blank {c : Char} (h : isBlank c = false) (cs : List Char) :
    isMarked (c :: cs) = (c == '=' || c == ':') := by
  rw [isMarked, skipBlanks, List.dropWhile_cons_of_neg (by simp [h])]
  rfl

theorem isMarked_word {c : Char} (h : isWord c = true) (cs : List Char) :
    isMarked (c :: cs) = false := by
  rw [isMarked_of_not_blank (isBlank_of_isWord h)]
  have hequals : c ≠ '=' := by
    rintro rfl
    exact absurd h (by decide)
  have hcolon : c ≠ ':' := by
    rintro rfl
    exact absurd h (by decide)
  simp [hequals, hcolon]

theorem head?_dropWhile_isWord (cs : List Char) :
    ∀ c ∈ (cs.dropWhile isWord).head?, isWord c = false := by
  intro c hc
  have hnot := List.head?_dropWhile_not isWord cs
  rw [Option.mem_def.mp hc] at hnot
  simpa using hnot

/-! ## The pieces of a text -/

theorem pieces_nil (behind : Bool) : pieces behind [] = [] := by
  rw [pieces]

theorem pieces_other {behind : Bool} {c : Char} {cs : List Char}
    (h : (behind && isWord c && isMarked (cs.dropWhile isWord)) = false) :
    pieces behind (c :: cs) = .other c :: pieces (isBlank c) cs := by
  rw [pieces, h]
  rfl

theorem pieces_declared {c : Char} {cs : List Char} (hword : isWord c = true)
    (hmark : isMarked (cs.dropWhile isWord) = true) :
    pieces true (c :: cs) =
      .declared (c :: cs.takeWhile isWord) :: pieces false (cs.dropWhile isWord) := by
  rw [pieces, hword, hmark]
  rfl

/-- A name that is declared is a piece. -/
theorem pieces_append {name rest : List Char} (hname : IsNameText name)
    (hmark : isMarked rest = true) :
    pieces true (name ++ rest) = .declared name :: pieces false rest := by
  obtain ⟨hne, hword⟩ := hname
  have hrest : ∀ c ∈ rest.head?, isWord c = false := by
    intro c hc
    cases rest with
    | nil => cases hc
    | cons d rest =>
        cases hc
        by_contra hd
        rw [isMarked_word (by simpa using hd)] at hmark
        exact Bool.false_ne_true hmark
  have hrun := run?_append hne hword hrest
  cases name with
  | nil => exact absurd rfl hne
  | cons c cs =>
      have hc : isWord c = true := hword c List.mem_cons_self
      rw [List.cons_append, run?, if_pos hc, Option.some.injEq, Prod.mk.injEq] at hrun
      obtain ⟨htake, hdrop⟩ := hrun
      rw [List.cons_append, pieces_declared hc (by rw [hdrop]; exact hmark), htake, hdrop]

/-- Word characters without a blank before them are no declared name. -/
theorem pieces_words {cs : List Char} (hcs : ∀ c ∈ cs, isWord c = true) (rest : List Char) :
    pieces false (cs ++ rest) = cs.map Piece.other ++ pieces false rest := by
  induction cs with
  | nil => rfl
  | cons c cs ih =>
      rw [List.cons_append, pieces_other rfl, isBlank_of_isWord (hcs c List.mem_cons_self),
        ih fun d hd => hcs d (List.mem_cons_of_mem _ hd)]
      rfl

theorem pieces_blanks {behind : Bool} {cs : List Char} (hne : cs ≠ [])
    (hcs : ∀ c ∈ cs, isBlank c = true) (rest : List Char) :
    pieces behind (cs ++ rest) = cs.map Piece.other ++ pieces true rest := by
  induction cs generalizing behind with
  | nil => exact absurd rfl hne
  | cons c cs ih =>
      have hc := hcs c List.mem_cons_self
      rw [List.cons_append, pieces_other (by rw [isWord_of_isBlank hc]; simp), hc]
      cases cs with
      | nil => rfl
      | cons d cs =>
          rw [ih (List.cons_ne_nil _ _) fun e he => hcs e (List.mem_cons_of_mem _ he)]
          rfl

/-- Nothing is lost in the pieces. -/
theorem text_pieces (behind : Bool) (cs : List Char) :
    (pieces behind cs).flatMap Piece.text = cs := by
  induction behind, cs using pieces.induct with
  | case1 behind => rw [pieces_nil]; rfl
  | case2 behind c cs h ih =>
      rw [pieces, if_pos h, List.flatMap_cons, ih, Piece.text, List.cons_append,
        List.takeWhile_append_dropWhile]
  | case3 behind c cs h ih =>
      rw [pieces, if_neg h, List.flatMap_cons, ih]
      rfl

/-! ## Renaming -/

variable {f g : List Char → List Char}

theorem renamed_nil (behind : Bool) : renamed f behind [] = [] := by
  rw [renamed, pieces_nil]
  rfl

theorem renamed_other {behind : Bool} {c : Char} {cs : List Char}
    (h : (behind && isWord c && isMarked (cs.dropWhile isWord)) = false) :
    renamed f behind (c :: cs) = c :: renamed f (isBlank c) cs := by
  rw [renamed, pieces_other h]
  rfl

theorem renamed_append {name rest : List Char} (hname : IsNameText name)
    (hmark : isMarked rest = true) :
    renamed f true (name ++ rest) = f name ++ renamed f false rest := by
  rw [renamed, pieces_append hname hmark]
  rfl

theorem text_others (f : List Char → List Char) (cs : List Char) :
    ((cs.map Piece.other).map (Piece.rename f)).flatMap Piece.text = cs := by
  induction cs with
  | nil => rfl
  | cons c cs ih =>
      rw [List.map_cons, List.map_cons, List.flatMap_cons, ih]
      rfl

theorem names_others (cs : List Char) : (cs.map Piece.other).filterMap Piece.name? = [] := by
  rw [List.filterMap_eq_nil_iff]
  intro p hp
  obtain ⟨c, -, rfl⟩ := List.mem_map.mp hp
  rfl

/-- Characters that are not declared stay. -/
theorem renamed_others {behind behind' : Bool} {cs others rest : List Char}
    (h : pieces behind cs = others.map Piece.other ++ pieces behind' rest) :
    renamed f behind cs = others ++ renamed f behind' rest := by
  rw [renamed, h, List.map_append, List.flatMap_append, text_others]
  rfl

/-- A mark is neither lost nor made. -/
theorem isMarked_renamed (hf : KeepsNames f) (behind : Bool) (cs : List Char) :
    isMarked (renamed f behind cs) = isMarked cs := by
  induction cs generalizing behind with
  | nil => rw [renamed_nil]
  | cons c cs ih =>
      by_cases hword : isWord c = true
      · rw [isMarked_word hword]
        by_cases hmark : (behind && isMarked (cs.dropWhile isWord)) = true
        · -- the new name starts with a word character, too
          obtain ⟨rfl, hmark⟩ := Bool.and_eq_true_iff.mp hmark
          have hname := hf _ (isNameText_takeWhile hword cs)
          rw [renamed, pieces_declared hword hmark, List.map_cons, List.flatMap_cons, Piece.rename,
            Piece.text]
          cases hnew : f (c :: cs.takeWhile isWord) with
          | nil => exact absurd hnew hname.1
          | cons d ds =>
              rw [hnew] at hname
              exact isMarked_word (hname.2 d List.mem_cons_self) _
        · rw [renamed_other (by rw [hword, Bool.and_true]; simpa using hmark)]
          exact isMarked_word hword _
      · have hother : (behind && isWord c && isMarked (cs.dropWhile isWord)) = false := by
          simp [hword]
        rw [renamed_other hother]
        by_cases hblank : isBlank c = true
        · rw [isMarked_blank hblank, isMarked_blank hblank, ih]
        · rw [isMarked_of_not_blank (by simpa using hblank),
            isMarked_of_not_blank (by simpa using hblank)]

/-- What starts without a word character after a character that is no blank still does. -/
theorem head?_renamed {cs : List Char} : (renamed f false cs).head? = cs.head? := by
  cases cs with
  | nil => rw [renamed_nil]
  | cons c cs =>
      rw [renamed_other rfl]
      rfl

theorem isMarked_dropWhile_renamed (hf : KeepsNames f) (cs : List Char) :
    isMarked ((renamed f false cs).dropWhile isWord) = isMarked (cs.dropWhile isWord) := by
  have hsplit : cs = cs.takeWhile isWord ++ cs.dropWhile isWord :=
    List.takeWhile_append_dropWhile.symm
  have hwords : ∀ c ∈ cs.takeWhile isWord, isWord c = true :=
    fun c hc => List.all_eq_true.mp List.all_takeWhile c hc
  conv_lhs => rw [hsplit, renamed_others (pieces_words hwords _), List.dropWhile_append_of_pos hwords]
  have hend : (renamed f false (cs.dropWhile isWord)).dropWhile isWord =
      renamed f false (cs.dropWhile isWord) := by
    have hhead : (renamed f false (cs.dropWhile isWord)).head? = (cs.dropWhile isWord).head? :=
      head?_renamed
    cases hrest : renamed f false (cs.dropWhile isWord) with
    | nil => rfl
    | cons c rest =>
        rw [hrest] at hhead
        have hc := head?_dropWhile_isWord cs c (by rw [← hhead]; rfl)
        exact List.dropWhile_cons_of_neg (by simp [hc])
  rw [hend, isMarked_renamed hf]

/-- The pieces of the renamed text are the renamed pieces. -/
theorem pieces_renamed (hf : KeepsNames f) (behind : Bool) (cs : List Char) :
    pieces behind (renamed f behind cs) = (pieces behind cs).map (Piece.rename f) := by
  induction behind, cs using pieces.induct with
  | case1 behind => rw [renamed_nil, pieces_nil]; rfl
  | case2 behind c cs h ih =>
      simp only [Bool.and_eq_true] at h
      obtain ⟨⟨rfl, hword⟩, hmark⟩ := h
      have hname := isNameText_takeWhile hword cs
      have hsplit : c :: cs = (c :: cs.takeWhile isWord) ++ cs.dropWhile isWord := by
        rw [List.cons_append, List.takeWhile_append_dropWhile]
      rw [hsplit, renamed_append hname hmark, pieces_append hname hmark,
        pieces_append (hf _ hname) (by rw [isMarked_renamed hf, hmark]), ih]
      rfl
  | case3 behind c cs h ih =>
      rw [Bool.not_eq_true] at h
      have hstill : (behind && isWord c &&
          isMarked ((renamed f (isBlank c) cs).dropWhile isWord)) = false := by
        by_cases hword : isWord c = true
        · rw [isBlank_of_isWord hword, isMarked_dropWhile_renamed hf]
          exact h
        · simp [hword]
      rw [renamed_other h, pieces_other hstill, pieces_other h, ih]
      rfl

theorem renamed_renamed (hf : KeepsNames f) (behind : Bool) (cs : List Char) :
    renamed g behind (renamed f behind cs) = renamed (g ∘ f) behind cs := by
  rw [renamed, pieces_renamed hf, List.map_map, renamed]
  exact congrArg (List.flatMap Piece.text)
    (List.map_congr_left fun p _ => Piece.rename_rename f g p)

/-- Two renamings of a text agree exactly if they agree on its declared names. -/
theorem renamed_eq_iff (hf : KeepsNames f) (hg : KeepsNames g) {behind : Bool} {cs : List Char} :
    renamed f behind cs = renamed g behind cs ↔ ∀ name ∈ names behind cs, f name = g name := by
  have hpieces : renamed f behind cs = renamed g behind cs ↔
      (pieces behind cs).map (Piece.rename f) = (pieces behind cs).map (Piece.rename g) := by
    constructor
    · intro h
      rw [← pieces_renamed hf, ← pieces_renamed hg, h]
    · intro h
      rw [renamed, renamed, h]
  rw [hpieces, List.map_inj_left]
  simp only [Piece.rename_eq_iff, names, List.mem_filterMap, Option.mem_def]
  constructor
  · rintro h name ⟨p, hp, hname⟩
    exact h p hp name hname
  · intro h p hp name hname
    exact h name ⟨p, hp, hname⟩

theorem renamed_id (behind : Bool) (cs : List Char) : renamed id behind cs = cs := by
  have hid : Piece.rename id = id := by
    funext p
    cases p <;> rfl
  rw [renamed, hid, List.map_id, text_pieces]

end ConnectClients.FieldRename
