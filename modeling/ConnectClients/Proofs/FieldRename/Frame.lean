import Mathlib.Data.List.Forall2
import Mathlib.Logic.Relation
import ConnectClients.Proofs.FieldRename.Settled
import ConnectClients.Proofs.Text.Stops

/-!
# Nothing but declared names

A declared name stands between a blank and a mark, and it is all the word characters there. Renaming
changes these names and nothing else: with the names taken out, the text is what it was, there are
as many of them, and each is led to its new name by entries of the mappings.
-/

namespace ConnectClients.FieldRename

open Text

variable {behind : Bool} {c : Char} {xs ys before name after : List Char}

/-! ## Cutting a text outside of its names -/

/-- A character that is neither a blank nor a mark itself hides what stands behind it. -/
theorem isMarked_append (hblank : isBlank c = false) (hmark : (c == '=' || c == ':') = false)
    (xs ys : List Char) : isMarked (xs ++ c :: ys) = isMarked xs := by
  induction xs with
  | nil =>
      rw [List.nil_append, isMarked_of_not_blank hblank, hmark]
      rfl
  | cons x xs ih =>
      rw [List.cons_append]
      cases hx : isBlank x with
      | true => rw [isMarked_blank hx, isMarked_blank hx, ih]
      | false => rw [isMarked_of_not_blank hx, isMarked_of_not_blank hx]

/-- No name reaches over a character that is not of words. If the character hides what stands
behind it, the pieces in front of it are those of the text in front of it. -/
theorem pieces_append_cons (hc : isWord c = false) (ys : List Char) : ∀ (behind : Bool)
    (xs : List Char), ∃ ps, ps.flatMap Piece.text = xs ∧
      pieces behind (xs ++ c :: ys) = ps ++ .other c :: pieces (isBlank c) ys ∧
      (isBlank c = false → (c == '=' || c == ':') = false → ps = pieces behind xs)
  | behind, [] => by
      refine ⟨[], rfl, pieces_other (by simp [hc]), fun _ _ => ?_⟩
      rw [pieces_nil]
  | behind, x :: xs => by
      rw [List.cons_append]
      cases hhere : behind && isWord x && isMarked ((xs ++ c :: ys).dropWhile isWord) with
      | true =>
          obtain ⟨ps, htext, hpieces, hsame⟩ := pieces_append_cons hc ys false (xs.dropWhile isWord)
          simp only [Bool.and_eq_true] at hhere
          obtain ⟨⟨rfl, hword⟩, hmarked⟩ := hhere
          refine ⟨.declared (x :: xs.takeWhile isWord) :: ps, ?_, ?_, fun hblank hmark => ?_⟩
          · rw [List.flatMap_cons, htext, Piece.text, List.cons_append,
              List.takeWhile_append_dropWhile]
          · rw [pieces_declared hword hmarked, takeWhile_append_cons hc,
              dropWhile_append_cons hc, hpieces]
            rfl
          · rw [dropWhile_append_cons hc, isMarked_append hblank hmark] at hmarked
            rw [pieces_declared hword hmarked, hsame hblank hmark]
      | false =>
          obtain ⟨ps, htext, hpieces, hsame⟩ := pieces_append_cons hc ys (isBlank x) xs
          refine ⟨.other x :: ps, ?_, ?_, fun hblank hmark => ?_⟩
          · rw [List.flatMap_cons, htext]
            rfl
          · rw [pieces_other hhere, hpieces]
            rfl
          · rw [dropWhile_append_cons hc, isMarked_append hblank hmark] at hhere
            rw [pieces_other hhere, hsame hblank hmark]
  termination_by _ xs => xs.length
  decreasing_by
    · exact Nat.lt_succ_self _
    · exact Nat.lt_succ_of_le (List.dropWhile_sublist isWord).length_le

theorem getLast?_append_of_blank {b : Char} {front back : List Char}
    (h : b ∈ back.getLast?) : b ∈ (front ++ back).getLast? := by
  rw [List.getLast?_append, Option.mem_def.mp h]
  rfl

/-- What stands before and behind a declared name. -/
theorem of_pieces_eq {ps qs : List Piece}
    (h : pieces behind xs = ps ++ .declared name :: qs) :
    (ps = [] ∧ behind = true ∨ ∃ b ∈ (ps.flatMap Piece.text).getLast?, isBlank b = true) ∧
      IsNameText name ∧ isMarked (qs.flatMap Piece.text) = true := by
  induction behind, xs using pieces.induct generalizing ps with
  | case1 behind =>
      rw [pieces_nil] at h
      exact absurd (congrArg List.length h) (by simp)
  | case2 behind c cs hhere ih =>
      simp only [Bool.and_eq_true] at hhere
      obtain ⟨⟨rfl, hword⟩, hmark⟩ := hhere
      rw [pieces_declared hword hmark] at h
      cases ps with
      | nil =>
          obtain ⟨hname, rfl⟩ := List.cons.inj h
          obtain rfl := Piece.declared.inj hname
          refine ⟨Or.inl ⟨rfl, rfl⟩, isNameText_takeWhile hword cs, ?_⟩
          rw [text_pieces, hmark]
      | cons p ps =>
          obtain ⟨rfl, hrest⟩ := List.cons.inj h
          obtain ⟨hbefore, hafter⟩ := ih hrest
          refine ⟨Or.inr ?_, hafter⟩
          obtain ⟨b, hb, hblank⟩ := hbefore.resolve_left fun hboth => Bool.false_ne_true hboth.2
          exact ⟨b, getLast?_append_of_blank hb, hblank⟩
  | case3 behind c cs hhere ih =>
      rw [pieces_other (by simpa using hhere)] at h
      cases ps with
      | nil => cases (List.cons.inj h).1
      | cons p ps =>
          obtain ⟨rfl, hrest⟩ := List.cons.inj h
          obtain ⟨hbefore, hafter⟩ := ih hrest
          refine ⟨Or.inr ?_, hafter⟩
          rcases hbefore with ⟨rfl, hblank⟩ | ⟨b, hb, hblank⟩
          · exact ⟨c, rfl, hblank⟩
          · exact ⟨b, getLast?_append_of_blank hb, hblank⟩

/-- **Where a name is declared.** The name is some word characters with a blank directly before
them and a mark behind them. -/
theorem declared_iff : (∃ ps qs, pieces false (before ++ (name ++ after)) =
      ps ++ .declared name :: qs ∧ ps.flatMap Piece.text = before) ↔
    (∃ b ∈ before.getLast?, isBlank b = true) ∧ IsNameText name ∧ isMarked after = true := by
  constructor
  · rintro ⟨ps, qs, hpieces, rfl⟩
    obtain ⟨hbefore, hname, hmark⟩ := of_pieces_eq hpieces
    have hafter : qs.flatMap Piece.text = after := by
      have htext := text_pieces false (ps.flatMap Piece.text ++ (name ++ after))
      rw [hpieces, List.flatMap_append, List.flatMap_cons, List.append_cancel_left_eq] at htext
      exact List.append_cancel_left htext
    rw [hafter] at hmark
    exact ⟨hbefore.resolve_left fun hboth => Bool.false_ne_true hboth.2, hname, hmark⟩
  · rintro ⟨⟨b, hb, hblank⟩, hname, hmark⟩
    obtain ⟨front, rfl⟩ := List.getLast?_eq_some_iff.mp hb
    obtain ⟨ps, htext, hpieces, -⟩ :=
      pieces_append_cons (isWord_of_isBlank hblank) (name ++ after) false front
    refine ⟨ps ++ [.other b], pieces false after, ?_, ?_⟩
    · rw [List.append_assoc, List.singleton_append, hpieces, hblank, pieces_append hname hmark,
        List.append_assoc]
      rfl
    · rw [List.flatMap_append, htext]
      rfl

/-! ## Names led to names -/

theorem rename_rename {f g : String → String}
    (hf : ∀ name, IsFieldName name → IsFieldName (f name)) (content : String) :
    rename g (rename f content) = rename (g ∘ f) content := by
  have hcompose : (fun name => (g (String.ofList name)).toList) ∘
      (fun name => (f (String.ofList name)).toList) =
      fun name => ((g ∘ f) (String.ofList name)).toList := by
    funext name
    show (g (String.ofList (f (String.ofList name)).toList)).toList = _
    rw [String.ofList_toList]
    rfl
  rw [rename, rename, String.toList_ofList, renamed_renamed (keepsNames_of_isFieldName hf),
    hcompose]
  rfl

/-- Some entries, one after the other, lead from one name to another. -/
def Leads (mappings : List (String × String)) : String → String → Prop :=
  Relation.ReflTransGen fun old new => (old, new) ∈ mappings

theorem leads_follow (mappings : List (String × String)) (name : String) :
    Leads mappings name (follow mappings name) := by
  induction mappings generalizing name with
  | nil => exact Relation.ReflTransGen.refl
  | cons e rest ih =>
      have hrest : ∀ name, Leads (e :: rest) name (follow rest name) := fun name =>
        Relation.ReflTransGen.mono (fun _ _ hmem => List.mem_cons_of_mem _ hmem) _ _ (ih name)
      show Leads (e :: rest) name (follow rest (if name = e.1 then e.2 else name))
      split
      · rename_i heq
        exact Relation.ReflTransGen.head (heq ▸ List.mem_cons_self) (hrest e.2)
      · exact hrest name

/-- **Renaming changes nothing but declared names.** It gives a result for every text; with any one
text put for all declared names, result and text are the same; there are as many declared names,
each led to its new name by entries of the mappings; and a text that is not modified is left as it
is. -/
theorem apply_frame {mappings : List (String × String)} (hnames : AreFieldNames mappings)
    (content : String) : ∃ out modified, apply mappings content = .ok (out, modified) ∧
      (∀ placeholder, rename (fun _ => placeholder) out = rename (fun _ => placeholder) content) ∧
      (declaredIn out).length = (declaredIn content).length ∧
      List.Forall₂ (Leads mappings) (declaredIn content) (declaredIn out) ∧
      (modified = false → out = content) := by
  obtain ⟨modified, hrun⟩ := apply_eq hnames content
  have hkeeps : ∀ name, IsFieldName name → IsFieldName (follow mappings name) :=
    fun _ => isFieldName_follow hnames
  have hdeclared := declaredIn_rename hkeeps content
  refine ⟨_, modified, hrun, ?_, ?_, ?_, ?_⟩
  · intro placeholder
    rw [rename_rename hkeeps]
    rfl
  · rw [hdeclared, List.length_map]
  · rw [hdeclared, List.forall₂_map_right_iff, List.forall₂_same]
    exact fun name _ => leads_follow mappings name
  · rintro rfl
    exact (apply_unmodified hnames hrun).1

/-- A name that is renamed to one that is renamed in turn. -/
def chained : List (String × String) := [("a", "b"), ("b", "c")]

/-- Declared names with all kinds of blanks around them, and others that are part of a word, at the
start, or behind no blank or no mark. -/
def crowdedText : String := "x a :b\n\ta=ab: a?: a\n b \n: a"

theorem chained_frame : AreFieldNames chained ∧
    ∃ out modified, apply chained crowdedText = .ok (out, modified) ∧
      declaredIn crowdedText = ["a", "a", "b"] ∧
      out = "x c :b\n\tc=ab: a?: a\n c \n: a" ∧
      (∀ placeholder,
        rename (fun _ => placeholder) out = rename (fun _ => placeholder) crowdedText) ∧
      List.Forall₂ (Leads chained) ["a", "a", "b"] (declaredIn out) := by
  have hnames : AreFieldNames chained := by
    unfold AreFieldNames IsFieldName
    decide +kernel
  have hwords : declaredIn crowdedText = ["a", "a", "b"] := by decide +kernel
  obtain ⟨out, modified, hrun, hframe, -, hleads, -⟩ := apply_frame hnames crowdedText
  obtain ⟨modified', hout⟩ := apply_eq hnames crowdedText
  obtain ⟨rfl, rfl⟩ := Prod.mk.inj (Except.ok.inj (hrun.symm.trans hout))
  exact ⟨hnames, _, _, hrun, hwords, by decide +kernel, hframe, hwords ▸ hleads⟩

end ConnectClients.FieldRename
