import Mathlib.Data.List.Basic
import ConnectClients.Proofs.GenTemplate.Values

/-!
# Managed mode read back

The block of managed mode is read in three parts, and each part is found in the lines
that were written for it, however deep its items are indented: the lists are blocks inside
the block, and the first ends where the second starts.
-/

namespace ConnectClients

open Text GenTemplate

/-- What managed mode lists is listed with at least one entry, and all texts are tokens. -/
structure Managed.IsTidy (managed : Managed) : Prop where
  disabled : ∀ names ∈ managed.disabled, names ≠ [] ∧ ∀ name ∈ names, IsToken name
  overrides : ∀ entries ∈ managed.overrides,
    entries ≠ [] ∧ ∀ o ∈ entries, IsToken o.fileOption ∧ IsToken o.value

def Managed.enabledLine (managed : Managed) : String :=
  "  enabled: " ++ (if managed.enabled then "true" else "false")

/-! The items of a list are indented by `indent` from the key of the list. -/

def Managed.disabledLines (indent : String) (managed : Managed) : List String :=
  match managed.disabled with
  | none | some [] => []
  | some modules => "  disable:" :: modules.map fun name => "  " ++ indent ++ "- module: " ++ name

def ManagedOverride.lines (indent : String) (o : ManagedOverride) : List String :=
  ["  " ++ indent ++ "- file_option: " ++ o.fileOption, "  " ++ indent ++ "  value: " ++ o.value]

def Managed.overrideLines (indent : String) (managed : Managed) : List String :=
  match managed.overrides with
  | none | some [] => []
  | some overrides => "  override:" :: overrides.flatMap (ManagedOverride.lines indent)

/-- The lines of managed mode behind its key. -/
def Managed.bodyLines (indent : String) (managed : Managed) : List String :=
  managed.enabledLine :: (managed.disabledLines indent ++ managed.overrideLines indent)

theorem Managed.lines_eq (managed : Managed) :
    managed.lines = "managed:" :: managed.bodyLines "  " := by
  have hmodule : "  " ++ "  " ++ "- module: " = "    - module: " := by decide
  have hoption : "  " ++ "  " ++ "- file_option: " = "    - file_option: " := by decide
  have hvalue : "  " ++ "  " ++ "  value: " = "      value: " := by decide
  have hoverride : ManagedOverride.lines "  " = fun o =>
      ["    - file_option: " ++ o.fileOption, "      value: " ++ o.value] := by
    funext o
    rw [ManagedOverride.lines, hoption, hvalue]
  rw [Managed.bodyLines, Managed.disabledLines, Managed.overrideLines, hmodule, hoverride]
  rfl

section

variable {indent : String} {managed : Managed} {line : String}

theorem Managed.mem_disabledLines (h : line ∈ managed.disabledLines indent) :
    line = "  disable:" ∨
      ∃ names ∈ managed.disabled, ∃ name ∈ names, line = "  " ++ indent ++ "- module: " ++ name := by
  rw [Managed.disabledLines] at h
  split at h
  · exact absurd h List.not_mem_nil
  · exact absurd h List.not_mem_nil
  · rename_i names _ hdisabled
    rcases List.mem_cons.mp h with rfl | h
    · exact Or.inl rfl
    · obtain ⟨name, hname, rfl⟩ := List.mem_map.mp h
      exact Or.inr ⟨names, hdisabled, name, hname, rfl⟩

theorem Managed.mem_overrideLines (h : line ∈ managed.overrideLines indent) :
    line = "  override:" ∨ ∃ entries ∈ managed.overrides, ∃ o ∈ entries,
      line = "  " ++ indent ++ "- file_option: " ++ o.fileOption ∨
        line = "  " ++ indent ++ "  value: " ++ o.value := by
  rw [Managed.overrideLines] at h
  split at h
  · exact absurd h List.not_mem_nil
  · exact absurd h List.not_mem_nil
  · rename_i entries _ hoverrides
    rcases List.mem_cons.mp h with rfl | h
    · exact Or.inl rfl
    · obtain ⟨o, ho, hline⟩ := List.mem_flatMap.mp h
      exact Or.inr ⟨entries, hoverrides, o, ho, List.mem_pair.mp hline⟩

theorem Managed.inBlock_of_mem (h : line ∈ managed.bodyLines indent) :
    inBlock [] (closed line) = true := by
  rcases List.mem_cons.mp h with rfl | h
  · rw [Managed.enabledLine, closed_append]
    rfl
  · rcases List.mem_append.mp h with h | h
    · rcases Managed.mem_disabledLines h with rfl | ⟨names, -, name, -, rfl⟩
      · decide
      · rw [String.append_assoc, String.append_assoc, closed_append]
        rfl
    · rcases Managed.mem_overrideLines h with rfl | ⟨entries, -, o, -, rfl | rfl⟩
      · decide
      · rw [String.append_assoc, String.append_assoc, closed_append]
        rfl
      · rw [String.append_assoc, String.append_assoc, closed_append]
        rfl

theorem Managed.IsTidy.newline_not_mem (h : managed.IsTidy) (hindent : IsIndent indent.toList) :
    ∀ line ∈ managed.bodyLines indent, '\n' ∉ line.toList := by
  have hblank := hindent.newline_not_mem
  intro line hline
  rcases List.mem_cons.mp hline with rfl | hline
  · rw [Managed.enabledLine]
    cases managed.enabled <;> decide
  rcases List.mem_append.mp hline with hline | hline
  · rcases Managed.mem_disabledLines hline with rfl | ⟨names, hnames, name, hname, rfl⟩
    · decide
    · simp [hblank, ((h.disabled names hnames).2 name hname).newline_not_mem]
  · rcases Managed.mem_overrideLines hline with rfl | ⟨entries, hentries, o, ho, rfl | rfl⟩
    · decide
    · simp [hblank, ((h.overrides entries hentries).2 o ho).1.newline_not_mem]
    · simp [hblank, ((h.overrides entries hentries).2 o ho).2.newline_not_mem]

end

namespace GenTemplate

theorem readEnabled_keyed : Keyed "enabled:".toList readEnabled := by
  intro cs h
  rw [readEnabled, literal?_eq_none_iff.mpr h]
  rfl

theorem scanFirst?_enabledLine (managed : Managed) (rest : List Char) :
    scanFirst? readEnabled (closed managed.enabledLine ++ rest) =
      some (managed.enabled, '\n' :: rest) := by
  have hlead : Clear "enabled:".toList "  ".toList := by decide
  rw [Managed.enabledLine]
  cases managed.enabled with
  | true =>
      have hline : closed ("  enabled: " ++ if true = true then "true" else "false") =
          "  ".toList ++ "enabled: true\n".toList := by decide
      rw [hline, List.append_assoc, scanFirst?_clear readEnabled_keyed hlead]
      rfl
  | false =>
      have hline : closed ("  enabled: " ++ if false = true then "true" else "false") =
          "  ".toList ++ "enabled: false\n".toList := by decide
      rw [hline, List.append_assoc, scanFirst?_clear readEnabled_keyed hlead]
      rfl

theorem opens_enabledLine (managed : Managed) {key : String} (hkey : key ∈ ["disable", "override"]) :
    opens true key (closed managed.enabledLine) = false := by
  rw [Managed.enabledLine, closed_append]
  rcases List.mem_pair.mp hkey with rfl | rfl <;> rfl

theorem takeWhile_isGap {gap : List (List Char)} (h : IsGap gap) (p : List Char → Bool) :
    IsGap (gap.takeWhile p) :=
  fun line hline => h line ((List.takeWhile_prefix p).subset hline)

/-! ## Lines of items -/

section indent

variable {indent : String}

theorem isIndent_twoBlanks : IsIndent "  ".toList := List.all_eq_true.mp (by decide)

/-- A line of an item opens a block only if a key follows its indentation. -/
theorem opens_item (hindent : IsIndent indent.toList) {c : Char} (hc : isIndent c = false)
    (key : String) (cs : List Char) :
    opens true key ("  ".toList ++ (indent.toList ++ c :: cs)) =
      (literal? (key ++ ":") (c :: cs)).isSome := by
  rw [← List.append_assoc]
  exact (isIndent_twoBlanks.append hindent).opens hc key

theorem inBlock_of_mem_disabled (hindent : IsIndent indent.toList) (names : List String) :
    ∀ line ∈ (names.map fun name => "  " ++ indent ++ "- module: " ++ name).map closed,
      inBlock "  ".toList line = true := by
  intro line hline
  obtain ⟨l, hl, rfl⟩ := List.mem_map.mp hline
  obtain ⟨name, -, rfl⟩ := List.mem_map.mp hl
  simp only [closed_append, String.toList_append, List.append_assoc]
  exact hindent.inBlock rfl

theorem inBlock_of_mem_overrides (hindent : IsIndent indent.toList)
    (entries : List ManagedOverride) :
    ∀ line ∈ (entries.flatMap (ManagedOverride.lines indent)).map closed,
      inBlock "  ".toList line = true := by
  intro line hline
  obtain ⟨l, hl, rfl⟩ := List.mem_map.mp hline
  obtain ⟨o, -, hl⟩ := List.mem_flatMap.mp hl
  rcases List.mem_pair.mp hl with rfl | rfl
  · simp only [closed_append, String.toList_append, List.append_assoc]
    exact hindent.inBlock rfl
  · simp only [closed_append, String.toList_append, List.append_assoc]
    exact hindent.inBlock rfl

/-- The block of the modules left alone ends before the options. -/
theorem takeWhile_overrideLines (indent : String) (managed : Managed) {gap : List (List Char)}
    (h : IsGap gap) :
    IsGap (((managed.overrideLines indent).map closed ++ gap).takeWhile (inBlock "  ".toList)) := by
  rw [Managed.overrideLines]
  split
  · exact takeWhile_isGap h _
  · exact takeWhile_isGap h _
  · intro line hline
    rw [List.map_cons, List.cons_append, List.takeWhile_cons_of_neg (by decide)] at hline
    exact absurd hline List.not_mem_nil

theorem opens_disable_overrideLines (hindent : IsIndent indent.toList) (managed : Managed) :
    ∀ line ∈ (managed.overrideLines indent).map closed, opens true "disable" line = false := by
  intro line hline
  obtain ⟨l, hl, rfl⟩ := List.mem_map.mp hline
  rcases Managed.mem_overrideLines hl with rfl | ⟨entries, -, o, -, rfl | rfl⟩
  · decide
  · simp only [closed_append, String.toList_append, List.append_assoc]
    exact opens_item hindent rfl "disable" _
  · have hkey : "  value: ".toList = "  ".toList ++ "value: ".toList := by decide
    simp only [closed_append, String.toList_append, List.append_assoc, hkey]
    rw [← List.append_assoc, ← List.append_assoc]
    exact ((isIndent_twoBlanks.append hindent).append isIndent_twoBlanks).opens rfl "disable"

theorem opens_override_disabledLines (hindent : IsIndent indent.toList) (managed : Managed) :
    ∀ line ∈ (managed.disabledLines indent).map closed, opens true "override" line = false := by
  intro line hline
  obtain ⟨l, hl, rfl⟩ := List.mem_map.mp hline
  rcases Managed.mem_disabledLines hl with rfl | ⟨names, -, name, -, rfl⟩
  · decide
  · simp only [closed_append, String.toList_append, List.append_assoc]
    exact opens_item hindent rfl "override" _

/-- The entries of the modules left alone are read from their lines, whatever lines of a
gap stand behind them. -/
theorem valuesOf_disabled (hindent : IsIndent indent.toList) {names : List String}
    (h : ∀ name ∈ names, IsToken name) {behind : List (List Char)} (hbehind : IsGap behind) :
    valuesOf "module:" (((names.map fun name => "  " ++ indent ++ "- module: " ++ name).map closed ++
      behind).flatten) = names := by
  have hclear : Clear "module:".toList ['\n'] := by decide
  have hdash : Clear "module:".toList "- ".toList := by decide
  have hlead : Clear "module:".toList ("  " ++ indent ++ "- ").toList := by
    rw [String.toList_append, String.toList_append]
    exact ((isIndent_twoBlanks.append hindent).clear rfl).append hdash
  have hkey : "- module: " = "- " ++ ("module:" ++ " ") := by decide
  have hmap : ((names.map fun name => "  " ++ indent ++ "- module: " ++ name).map closed).flatten =
      names.flatMap fun name => closed ("  " ++ indent ++ "- " ++ "module:" ++ " " ++ name) := by
    rw [List.map_map, List.flatMap_def, hkey]
    simp only [String.append_assoc]
    rfl
  have hvalues := valuesOf_entries hlead hclear h behind.flatten
  rw [valuesOf_eq_nil (hbehind.clear hclear), List.append_nil] at hvalues
  rw [List.flatten_append, hmap, hvalues]

theorem readManaged_disabled (hindent : IsIndent indent.toList) {managed : Managed}
    (h : managed.IsTidy) {gap : List (List Char)} (hgap : IsGap gap) :
    (nested? "disable" (closed managed.enabledLine :: ((managed.disabledLines indent).map closed ++
        ((managed.overrideLines indent).map closed ++ gap)))).map
      (fun lines => valuesOf "module:" lines.flatten) = managed.disabled := by
  have hbefore : ∀ line ∈ [closed managed.enabledLine], opens true "disable" line = false := by
    intro line hline
    rw [List.mem_singleton.mp hline]
    exact opens_enabledLine managed (by simp)
  have hbehind : ∀ line ∈ (managed.overrideLines indent).map closed ++ gap,
      opens true "disable" line = false := by
    intro line hline
    rcases List.mem_append.mp hline with hline | hline
    · exact opens_disable_overrideLines hindent managed line hline
    · exact hgap.opens rfl line hline
  unfold Managed.disabledLines
  cases hdisabled : managed.disabled with
  | none =>
      -- no line opens the block, so that there is none
      have hnone : ∀ line ∈ [closed managed.enabledLine] ++
          ((managed.overrideLines indent).map closed ++ gap), opens true "disable" line = false := by
        intro line hline
        exact (List.mem_append.mp hline).elim (hbefore line) (hbehind line)
      show (nested? "disable" ([closed managed.enabledLine] ++
        ((managed.overrideLines indent).map closed ++ gap))).map _ = none
      rw [nested?_eq_none hnone]
      rfl
  | some names =>
      obtain ⟨hne, hnames⟩ := h.disabled names hdisabled
      cases names with
      | nil => exact absurd rfl hne
      | cons name rest =>
          have hopens : opens true "disable" (closed "  disable:") = true := by decide
          have hkey : (closed "  disable:").takeWhile isIndent = "  ".toList := by decide
          have hblock := nested?_append hbefore hopens hkey
            (inBlock_of_mem_disabled hindent (name :: rest))
            ((managed.overrideLines indent).map closed ++ gap)
          show (nested? "disable" ([closed managed.enabledLine] ++ closed "  disable:" ::
            (((name :: rest).map fun n => "  " ++ indent ++ "- module: " ++ n).map closed ++
              ((managed.overrideLines indent).map closed ++ gap)))).map _ = some (name :: rest)
          rw [hblock, Option.map_some,
            valuesOf_disabled hindent hnames (takeWhile_overrideLines indent managed hgap)]

theorem readOverride_keyed : Keyed "file_option:".toList readOverride := by
  intro cs h
  rw [readOverride, readValue_keyed "file_option:" cs h]
  rfl

/-- The value of an option stands on the next line, however deep that is indented. -/
theorem skipToNextLine?_newline {blanks : List Char} (h : IsIndent blanks) {c : Char}
    (hc : isBlank c = false) (rest : List Char) :
    skipToNextLine? ('\n' :: (blanks ++ c :: rest)) = some (c :: rest) := by
  have hblanks : ∀ b ∈ '\n' :: blanks, isBlank b = true :=
    List.forall_mem_cons.mpr ⟨by decide, fun b hb => isBlank_of_isIndent (h b hb)⟩
  have hhead : ∀ d ∈ (c :: rest).head?, isBlank d = false := by
    intro d hd
    rwa [← Option.some.inj hd]
  have htake : ('\n' :: blanks ++ c :: rest).takeWhile isBlank = '\n' :: blanks := by
    rw [List.takeWhile_append_of_pos hblanks, List.takeWhile_cons_of_neg (by simp [hc]),
      List.append_nil]
  have hlast : (('\n' :: blanks).reverse.dropWhile isIndent).head? = some '\n' := by
    rw [List.reverse_cons, List.dropWhile_append_of_pos fun b hb => h b (List.mem_reverse.mp hb)]
    rfl
  rw [skipToNextLine?, ← List.cons_append, htake, hlast, skipBlanks_append _ hblanks hhead]
  rfl

theorem readOverride_eq (hindent : IsIndent indent.toList) {o : ManagedOverride}
    (hoption : IsToken o.fileOption) (hvalue : IsToken o.value) (rest : List Char) :
    readOverride ("file_option: ".toList ++ (closed o.fileOption ++
      (closed ("  " ++ indent ++ "  value: " ++ o.value) ++ rest))) = some (o, '\n' :: rest) := by
  have hblanks : IsIndent ("  ".toList ++ indent.toList ++ "  ".toList) :=
    (isIndent_twoBlanks.append hindent).append isIndent_twoBlanks
  have hline : closed ("  " ++ indent ++ "  value: " ++ o.value) =
      "  ".toList ++ indent.toList ++ "  ".toList ++ ("value: ".toList ++ closed o.value) := by
    have hkey : "  value: ".toList = "  ".toList ++ "value: ".toList := by decide
    simp only [closed_append, String.toList_append, List.append_assoc, hkey]
  have hfirst : readValue "file_option:" ("file_option: ".toList ++ (closed o.fileOption ++
        (closed ("  " ++ indent ++ "  value: " ++ o.value) ++ rest))) =
      some (o.fileOption.toList,
        '\n' :: (closed ("  " ++ indent ++ "  value: " ++ o.value) ++ rest)) := by
    have hread := readValue_eq "file_option:" hoption
      (closed ("  " ++ indent ++ "  value: " ++ o.value) ++ rest)
    simpa [closed] using hread
  have hskip : skipToNextLine? ('\n' :: (closed ("  " ++ indent ++ "  value: " ++ o.value) ++ rest)) =
      some ("value: ".toList ++ (closed o.value ++ rest)) := by
    have hkey : "value: ".toList = 'v' :: "alue: ".toList := by decide
    rw [hline, hkey, List.append_assoc, List.cons_append, List.cons_append]
    exact skipToNextLine?_newline hblanks (by decide) _
  have hsecond : readValue "value:" ("value: ".toList ++ (closed o.value ++ rest)) =
      some (o.value.toList, '\n' :: rest) := by
    have hread := readValue_eq "value:" hvalue rest
    simpa [closed] using hread
  rw [readOverride, hfirst]
  simp only [Option.bind_eq_bind, Option.bind_some, hskip, hsecond]
  simp

/-- The options are read from their lines, whatever lines of a gap stand behind them. -/
theorem scanAll_overrides (hindent : IsIndent indent.toList) {entries : List ManagedOverride}
    (h : ∀ o ∈ entries, IsToken o.fileOption ∧ IsToken o.value) {behind : List (List Char)}
    (hbehind : IsGap behind) :
    scanAll readOverride
      (((entries.flatMap (ManagedOverride.lines indent)).map closed ++ behind).flatten) =
      entries := by
  have hclear : Clear "file_option:".toList ['\n'] := by decide
  have hdash : Clear "file_option:".toList "- ".toList := by decide
  have hlead : Clear "file_option:".toList ("  ".toList ++ indent.toList ++ "- ".toList) :=
    ((isIndent_twoBlanks.append hindent).clear rfl).append hdash
  have hscan : scanAll readOverride
      ((entries.flatMap fun o => ((o.lines indent).map closed).flatten) ++ behind.flatten) =
        entries.map id ++ scanAll readOverride behind.flatten := by
    -- an entry is two lines, and is scanned from its key to the end of the second one
    apply scanAll_entries readOverride_keyed (fun o => "file_option: ".toList ++
      (closed o.fileOption ++ closed ("  " ++ indent ++ "  value: " ++ o.value))) hlead hclear
    · intro o _
      have hkey : "- file_option: ".toList = "- ".toList ++ "file_option: ".toList := by decide
      simp only [ManagedOverride.lines, closed_append, String.toList_append, List.append_assoc, hkey,
        List.map_cons, List.map_nil, List.flatten_cons, List.flatten_nil, List.append_nil]
    · intro o _
      simp only [List.length_append, closed, List.length_cons, List.length_nil]
      omega
    · intro o ho rest
      obtain ⟨hoption, hvalue⟩ := h o ho
      have hread := readOverride_eq hindent hoption hvalue rest
      simpa using hread
  have hflat : ((entries.flatMap (ManagedOverride.lines indent)).map closed).flatten =
      entries.flatMap fun o => ((o.lines indent).map closed).flatten := by
    rw [List.map_flatMap, List.flatMap_def, List.flatten_flatten, List.map_map, List.flatMap_def]
    rfl
  rw [List.flatten_append, hflat, hscan,
    scanAll_eq_nil readOverride_keyed (hbehind.clear hclear), List.append_nil, List.map_id]

theorem readManaged_overrides (hindent : IsIndent indent.toList) {managed : Managed}
    (h : managed.IsTidy) {gap : List (List Char)} (hgap : IsGap gap) :
    (nested? "override" (closed managed.enabledLine :: ((managed.disabledLines indent).map closed ++
        ((managed.overrideLines indent).map closed ++ gap)))).map
      (fun lines => scanAll readOverride lines.flatten) = managed.overrides := by
  have hbefore : ∀ line ∈ closed managed.enabledLine :: (managed.disabledLines indent).map closed,
      opens true "override" line = false := by
    intro line hline
    rcases List.mem_cons.mp hline with rfl | hline
    · exact opens_enabledLine managed (by simp)
    · exact opens_override_disabledLines hindent managed line hline
  unfold Managed.overrideLines
  cases hoverrides : managed.overrides with
  | none =>
      have hnone : ∀ line ∈ closed managed.enabledLine ::
          (managed.disabledLines indent).map closed ++ gap, opens true "override" line = false := by
        intro line hline
        exact (List.mem_append.mp hline).elim (hbefore line) (hgap.opens rfl line)
      show (nested? "override" (closed managed.enabledLine ::
        (managed.disabledLines indent).map closed ++ gap)).map _ = none
      rw [nested?_eq_none hnone]
      rfl
  | some entries =>
      obtain ⟨hne, hentries⟩ := h.overrides entries hoverrides
      cases entries with
      | nil => exact absurd rfl hne
      | cons o rest =>
          have hopens : opens true "override" (closed "  override:") = true := by decide
          have hkey : (closed "  override:").takeWhile isIndent = "  ".toList := by decide
          have hblock := nested?_append hbefore hopens hkey
            (inBlock_of_mem_overrides hindent (o :: rest)) gap
          show (nested? "override" (closed managed.enabledLine ::
            (managed.disabledLines indent).map closed ++ closed "  override:" ::
              (((o :: rest).flatMap (ManagedOverride.lines indent)).map closed ++
                gap))).map _ = some (o :: rest)
          rw [hblock, Option.map_some,
            scanAll_overrides hindent hentries (takeWhile_isGap hgap _)]

/-- The block of managed mode is read back. -/
theorem readManaged_eq (hindent : IsIndent indent.toList) {managed : Managed} (h : managed.IsTidy)
    {gap : List (List Char)} (hgap : IsGap gap) :
    readManaged ((managed.bodyLines indent).map closed ++ gap) = managed := by
  have hdisabled := readManaged_disabled hindent h hgap
  have hoverrides := readManaged_overrides hindent h hgap
  rw [Managed.bodyLines, List.map_cons, List.map_append, List.cons_append, List.append_assoc,
    readManaged, hdisabled, hoverrides, List.flatten_cons, scanFirst?_enabledLine]
  rfl

end indent

end GenTemplate

end ConnectClients
