import Mathlib.Data.List.Forall2
import ConnectClients.ClientModule
import ConnectClients.Proofs.Service.ImportStatements

/-!
# Names between braces

Generated text imports and exports names by lines that list them between braces, some with the
word `type` in front. A name that has no blank, comma or brace is read off its line as it is.
-/

namespace ConnectClients.ClientModule

open Text
open Service (importedName importedNames)

/-- The names that a line lists between its first braces, without the word `type` in front of
them. -/
def bracedNames (line : List Char) : List String :=
  importedNames (((line.dropWhile (· != '\x7b')).drop 1).takeWhile (· != '\x7d'))

/-- Between braces the name is read as it is. -/
structure IsPlain (name : String) : Prop where
  ne_empty : name ≠ ""
  unblank : ∀ c ∈ name.toList, isBlank c = false
  comma : ',' ∉ name.toList
  brace : '\x7d' ∉ name.toList

/-- An entry that lists a name. -/
def Lists (symbol name : String) : Prop :=
  IsPlain name ∧ (symbol = name ∨ symbol = "type " ++ name)

variable {name symbol : String} {names symbols : List String}

theorem isPlain_of_isWord (hne : name ≠ "") (h : ∀ c ∈ name.toList, isWord c = true) :
    IsPlain name where
  ne_empty := hne
  unblank c hc := isBlank_of_isWord (h c hc)
  comma hc := absurd (h _ hc) (by decide)
  brace hc := absurd (h _ hc) (by decide)

theorem IsPlain.append (h : IsPlain name) {suffix : String}
    (hsuffix : suffix.toList.all fun c => !isBlank c && c != ',' && c != '\x7d') :
    IsPlain (name ++ suffix) where
  ne_empty := by simp [h.ne_empty]
  unblank c hc := by
    rw [String.toList_append, List.mem_append] at hc
    have hall := List.all_eq_true.mp hsuffix c
    simp only [Bool.and_eq_true, Bool.not_eq_true'] at hall
    exact hc.elim (h.unblank c) fun hc => (hall hc).1.1
  comma hc := by
    rw [String.toList_append, List.mem_append] at hc
    exact hc.elim h.comma fun hc => absurd (List.all_eq_true.mp hsuffix _ hc) (by decide)
  brace hc := by
    rw [String.toList_append, List.mem_append] at hc
    exact hc.elim h.brace fun hc => absurd (List.all_eq_true.mp hsuffix _ hc) (by decide)

namespace IsPlain

variable (h : IsPlain name)

include h

theorem toList_ne_nil : name.toList ≠ [] := mt String.toList_eq_nil_iff.mp h.ne_empty

theorem head_unblank : ∀ c ∈ name.toList.head?, isBlank c = false :=
  fun c hc => h.unblank c (List.mem_of_head? hc)

theorem last_unblank : ∀ c ∈ name.toList.getLast?, isBlank c = false :=
  fun c hc => h.unblank c (List.mem_of_getLast? hc)

end IsPlain

namespace Lists

variable (h : Lists symbol name)

include h

theorem toList_eq : symbol.toList = name.toList ∨ symbol.toList = "type ".toList ++ name.toList :=
  h.2.imp (congrArg String.toList)
    fun heq => (congrArg String.toList heq).trans String.toList_append

theorem not_mem {c : Char} (hname : c ∉ name.toList) (htype : c ∉ "type ".toList) :
    c ∉ symbol.toList := by
  rcases h.toList_eq with heq | heq
  · rwa [heq]
  · rw [heq, List.mem_append, not_or]
    exact ⟨htype, hname⟩

/-- The name is read off its entry, whatever blanks stand around it. -/
theorem importedName_eq {before after : List Char} (hbefore : ∀ c ∈ before, isBlank c = true)
    (hafter : ∀ c ∈ after, isBlank c = true) :
    importedName (before ++ (symbol.toList ++ after)) = name.toList := by
  have hplain := h.1
  rw [importedName]
  rcases h.toList_eq with heq | heq
  · have htrim := trim_padded hplain.toList_ne_nil hplain.head_unblank hplain.last_unblank
      hbefore hafter
    have hnone : literal? "type " name.toList = none := by
      rw [literal?_eq_none_iff]
      intro hprefix
      have hspace : ' ' ∈ name.toList := hprefix.subset (by decide)
      exact absurd (hplain.unblank ' ' hspace) (by decide)
    rw [heq, htrim, hnone]
  · have hhead : ∀ c ∈ ("type ".toList ++ name.toList).head?, isBlank c = false :=
      fun c hc => Option.some.inj hc ▸ by decide
    have hlast : ∀ c ∈ ("type ".toList ++ name.toList).getLast?, isBlank c = false := by
      rw [List.getLast?_append_of_ne_nil _ hplain.toList_ne_nil]
      exact hplain.last_unblank
    have htrim := trim_padded (by simp) hhead hlast hbefore hafter
    have hname := trim_padded hplain.toList_ne_nil hplain.head_unblank hplain.last_unblank
      (List.forall_mem_nil _) (List.forall_mem_nil _)
    rw [List.nil_append, List.append_nil] at hname
    rw [heq, htrim, literal?_append]
    exact hname

end Lists

/-- The entries between two braces are read one by one. -/
theorem map_importedName_splitOn (h : List.Forall₂ Lists symbols names) (hne : symbols ≠ [])
    {before after : List Char} (hbefore : ∀ c ∈ before, isBlank c = true)
    (hafter : ∀ c ∈ after, isBlank c = true) :
    (splitOn ',' (before ++ ((", ".intercalate symbols).toList ++ after))).map importedName =
      names.map String.toList := by
  have hcomma : ∀ cs : List Char, (∀ c ∈ cs, isBlank c = true) → ',' ∉ cs :=
    fun cs hcs hin => absurd (hcs ',' hin) (by decide)
  induction h generalizing before with
  | nil => exact absurd rfl hne
  | @cons symbol name symbols names hfirst hrest ih =>
      have hsymbol : ',' ∉ symbol.toList := hfirst.not_mem hfirst.1.comma (by decide)
      by_cases hlast : symbols = []
      · subst hlast
        cases hrest
        have hpiece : ',' ∉ before ++ (symbol.toList ++ after) := by
          simp only [List.mem_append, not_or]
          exact ⟨hcomma before hbefore, hsymbol, hcomma after hafter⟩
        rw [String.intercalate_singleton, Path.splitOn_of_not_mem hpiece, List.map_singleton,
          hfirst.importedName_eq hbefore hafter]
        rfl
      · have hpiece : ',' ∉ before ++ symbol.toList := by
          rw [List.mem_append, not_or]
          exact ⟨hcomma before hbefore, hsymbol⟩
        have hjoin : before ++ ((", ".intercalate (symbol :: symbols)).toList ++ after) =
            (before ++ symbol.toList) ++
              ',' :: ([' '] ++ ((", ".intercalate symbols).toList ++ after)) := by
          rw [String.intercalate_cons_of_ne_nil hlast]
          simp
        have hname := hfirst.importedName_eq hbefore (List.forall_mem_nil _)
        rw [List.append_nil] at hname
        rw [hjoin, splitOn_append_sep hpiece, List.map_cons, hname, List.map_cons,
          ih hlast (List.forall_mem_singleton.mpr (by decide))]

theorem exists_lists (h : List.Forall₂ Lists symbols names) :
    ∀ symbol ∈ symbols, ∃ name, Lists symbol name := by
  induction h with
  | nil => exact List.forall_mem_nil _
  | cons hfirst hrest ih => exact List.forall_mem_cons.mpr ⟨⟨_, hfirst⟩, ih⟩

theorem not_mem_intercalate {c : Char} {sep : String} (hsep : c ∉ sep.toList)
    (h : ∀ symbol ∈ symbols, c ∉ symbol.toList) : c ∉ (sep.intercalate symbols).toList := by
  induction symbols with
  | nil => simp
  | cons symbol rest ih =>
      by_cases hrest : rest = []
      · rw [hrest, String.intercalate_singleton]
        exact h symbol List.mem_cons_self
      · rw [String.intercalate_cons_of_ne_nil hrest]
        simp only [String.toList_append, List.mem_append, not_or]
        exact ⟨⟨h symbol List.mem_cons_self, hsep⟩,
          ih fun other hother => h other (List.mem_cons_of_mem _ hother)⟩

/-- No entry is left out. -/
theorem filterMap_names (h : List.Forall₂ Lists symbols names) :
    ((names.map String.toList).filterMap fun cs =>
      if cs.isEmpty then none else some (String.ofList cs)) = names := by
  induction h with
  | nil => rfl
  | @cons symbol name symbols names hfirst hrest ih =>
      have hne : name.toList.isEmpty = false := by simpa using hfirst.1.ne_empty
      rw [List.map_cons, List.filterMap_cons, hne, if_neg Bool.false_ne_true, ih,
        String.ofList_toList]

/-- What stands between the braces, with a blank on both sides. -/
def padded (symbols : List String) : List Char :=
  [' '] ++ ((", ".intercalate symbols).toList ++ [' '])

theorem importedNames_padded (h : List.Forall₂ Lists symbols names) :
    importedNames (padded symbols) = names := by
  by_cases hne : symbols = []
  · subst hne
    cases h
    decide
  · have hblank : ∀ c ∈ [' '], isBlank c = true := List.forall_mem_singleton.mpr (by decide)
    rw [importedNames, padded, map_importedName_splitOn h hne hblank hblank]
    exact filterMap_names h

/-- **The names between braces are read off their line.** -/
theorem bracedNames_eq (h : List.Forall₂ Lists symbols names) {lead : List Char}
    (hlead : '\x7b' ∉ lead) (rest : List Char) :
    bracedNames (lead ++ '\x7b' :: (padded symbols ++ '\x7d' :: rest)) = names := by
  have hinside : '\x7d' ∉ padded symbols := by
    have hjoined : '\x7d' ∉ (", ".intercalate symbols).toList := by
      refine not_mem_intercalate (by decide) fun symbol hsymbol => ?_
      obtain ⟨name, hlists⟩ := exists_lists h symbol hsymbol
      exact hlists.not_mem hlists.1.brace (by decide)
    simp only [padded, List.mem_append, not_or]
    exact ⟨by decide, hjoined, by decide⟩
  have hbefore : ∀ c ∈ lead, (c != '\x7b') = true := by
    intro c hc
    exact bne_iff_ne.mpr fun heq => hlead (heq ▸ hc)
  have hbetween : ∀ c ∈ padded symbols, (c != '\x7d') = true := by
    intro c hc
    exact bne_iff_ne.mpr fun heq => hinside (heq ▸ hc)
  rw [bracedNames, List.dropWhile_append_of_pos hbefore, List.dropWhile_cons_of_neg (by decide),
    List.drop_one, List.tail_cons, List.takeWhile_append_of_pos hbetween,
    List.takeWhile_cons_of_neg (by decide), List.append_nil]
  exact importedNames_padded h

end ConnectClients.ClientModule
