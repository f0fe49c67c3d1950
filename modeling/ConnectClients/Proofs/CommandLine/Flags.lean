import ConnectClients.CommandLine.Command

/-!
# Flags on a command line

What a command is given by a flag is read off its words: nothing if the flag is not among them, and
otherwise the text at the last place where it is, which stands in the same word or in the next one.
-/

namespace ConnectClients.CommandLine

variable {spec other : OptionSpec} {kinds after : List (String × WordKind)}

/-! ## Options among words -/

/-- An option occurs among words if one of them is read as it. -/
def Occurs (spec : OptionSpec) (kinds : List (String × WordKind)) : Prop :=
  ∃ word attached, (word, WordKind.option spec attached) ∈ kinds

/-- The text of an option: the one in its own word, or else the word behind it. -/
def textAt (attached : Option Attached) (after : List (String × WordKind)) : Option String :=
  (attached.map (·.value)).or (after.head?.map Prod.fst)

/-- What words give for an option: nothing if it does not occur, and otherwise its text at the last
place where it does. -/
def GivenAmong (spec : OptionSpec) (kinds : List (String × WordKind)) : Option String → Prop
  | none => ¬ Occurs spec kinds
  | some text => ∃ before word attached after,
      kinds = before ++ (word, WordKind.option spec attached) :: after ∧
        textAt attached after = some text ∧ ¬ Occurs spec after

theorem GivenAmong.cons_other {given : Option String} (h : GivenAmong spec kinds given)
    {p : String × WordKind} (hkind : ∀ attached, p.2 ≠ .option spec attached) :
    GivenAmong spec (p :: kinds) given := by
  cases given with
  | none =>
      rintro ⟨word, attached, hmem⟩
      rcases List.mem_cons.mp hmem with rfl | hmem
      · exact hkind attached rfl
      · exact h ⟨word, attached, hmem⟩
  | some text =>
      obtain ⟨before, word, attached, after, rfl, hlast⟩ := h
      exact ⟨p :: before, word, attached, after, rfl, hlast⟩

/-- A text that is given further behind counts, and the one in front otherwise. -/
theorem GivenAmong.cons_same {given : Option String} (h : GivenAmong spec kinds given)
    {word text : String} {attached : Option Attached} (htext : textAt attached kinds = some text) :
    GivenAmong spec ((word, .option spec attached) :: kinds) (given.or (some text)) := by
  cases given with
  | none => exact ⟨[], word, attached, kinds, rfl, htext, h⟩
  | some later =>
      obtain ⟨before, word', attached', after, rfl, hlast⟩ := h
      exact ⟨_ :: before, word', attached', after, rfl, hlast⟩

/-! ## Readings -/

theorem exists_of_bind_eq_ok {ε α β : Type} {x : Except ε α} {f : α → Except ε β} {b : β}
    (h : x >>= f = .ok b) : ∃ a, x = .ok a ∧ f a = .ok b := by
  cases x with
  | error fault => cases h
  | ok a => exact ⟨a, rfl, h⟩

namespace Reading

theorem value?_addOption_same (r : Reading) (spec : OptionSpec) (text : String) :
    (r.addOption spec (some text)).value? spec = (r.value? spec).or (some text) := by
  have hvalues : (r.addOption spec (some text)).values spec = [text] ++ r.values spec := by
    simp [values, addOption]
  rw [value?, hvalues, List.getLast?_append]
  rfl

theorem value?_addOption_other (r : Reading) (value : Option String) (h : other ≠ spec) :
    (r.addOption other value).value? spec = r.value? spec := by
  simp [value?, values, addOption, h]

end Reading

/-- A word that is read as an option with a text adds the text to what is given for the option. -/
theorem GivenAmong.addOption {r : Reading} (h : GivenAmong spec kinds (r.value? spec))
    {word text : String} {attached : Option Attached} (htext : textAt attached kinds = some text) :
    GivenAmong spec ((word, .option other attached) :: kinds)
      ((r.addOption other (some text)).value? spec) := by
  by_cases hsame : other = spec
  · subst hsame
    rw [Reading.value?_addOption_same]
    exact h.cons_same htext
  · rw [Reading.value?_addOption_other r _ hsame]
    exact h.cons_other fun attached heq => hsame (WordKind.option.inj heq).1

/-- The value that is read for an option is what the words give for it. -/
theorem givenAmong_value? (hspec : spec.takesValue = true) {r : Reading}
    (h : readWords false kinds = .ok r) : GivenAmong spec kinds (r.value? spec) := by
  fun_induction readWords false kinds generalizing r with
  | case1 =>
      cases h
      rintro ⟨word, attached, hmem⟩
      exact absurd hmem List.not_mem_nil
  | case2 word other _ a rest ih =>
      obtain ⟨r, hrest, heq⟩ := exists_of_bind_eq_ok h
      cases heq
      exact (ih hrest).addOption rfl
  | case3 word other _ value rest ih =>
      obtain ⟨r, hrest, heq⟩ := exists_of_bind_eq_ok h
      cases heq
      have hplain : GivenAmong spec ((value, .plain) :: rest) (r.value? spec) :=
        (ih hrest).cons_other fun _ => nofun
      exact hplain.addOption rfl
  | case4 => cases h
  | case5 word rest other attached hswitch ih =>
      obtain ⟨_, -, h⟩ := exists_of_bind_eq_ok h
      obtain ⟨r, hrest, heq⟩ := exists_of_bind_eq_ok h
      cases heq
      -- a switch is no option with a value
      have hother : other ≠ spec := by
        rintro rfl
        exact hswitch hspec
      rw [Reading.value?_addOption_other r _ hother]
      exact (ih hrest).cons_other fun attached heq => hother (WordKind.option.inj heq).1
  | case6 word rest ih | case8 word rest _ ih | case10 word rest _ ih =>
      obtain ⟨r, hrest, heq⟩ := exists_of_bind_eq_ok h
      cases heq
      exact (ih hrest).cons_other fun _ => nofun
  | case7 _ _ hwanted => cases hwanted
  | case9 _ _ hwanted => cases hwanted

/-! ## Flags of commands -/

/-- The flags that the settings have a part in. -/
inductive Flag where
  | generatedDir | outputDir | servicesDir | moduleName | includeServices | excludeServices
  | goPrefix
  deriving DecidableEq

/-- The option that a flag is. -/
def Flag.option : Flag → OptionSpec
  | .generatedDir => generatedDirOption
  | .outputDir => outputDirOption
  | .servicesDir => servicesDirOption
  | .moduleName => moduleNameOption
  | .includeServices => includeOption
  | .excludeServices => excludeOption
  | .goPrefix => goPrefixOption

def ServiceFlags.given (flags : ServiceFlags) : Flag → Option String
  | .generatedDir => flags.generatedDir
  | .servicesDir => flags.servicesDir
  | .moduleName => flags.moduleName
  | .includeServices => flags.includeServices
  | .excludeServices => flags.excludeServices
  | _ => none

/-- The text that a command is given by a flag, if it is. -/
def Command.given : Command → Flag → Option String
  | .generate _ _ buf _, .goPrefix => buf.goPrefix
  | .generate _ services _ _, flag => services.given flag
  | .wrappers _ services, flag => services.given flag
  | .template _ outputDir _ _ _, .outputDir => outputDir
  | .template _ _ buf _ _, .goPrefix => buf.goPrefix
  | .template .., _ => none

/-- The words of the command in a command line, as they are read, and the options that it has. -/
def HasCommand (words : List String) (options : List OptionSpec)
    (kinds : List (String × WordKind)) : Prop :=
  ∃ r name form rest, read globalOptions true words = .ok r ∧ r.command = name :: rest ∧
    commandForms.lookup name = some form ∧ form.options = options ∧
    kindsOf (helpOption :: options) rest = .ok kinds

theorem takesValue_option (flag : Flag) : flag.option.takesValue = true := by
  cases flag <;> rfl

/-- A command has what was read for each of its options. -/
theorem given_make {name : String} {form : CommandForm}
    (hform : commandForms.lookup name = some form) (r : Reading) {flag : Flag}
    (hflag : flag.option ∈ form.options) : (form.make r).given flag = r.value? flag.option := by
  obtain ⟨before, after, hforms, -⟩ := List.lookup_eq_some_iff.mp hform
  have hmem : (name, form) ∈ commandForms := by
    rw [hforms]
    exact List.mem_append_right _ List.mem_cons_self
  simp only [commandForms, List.mem_cons, List.not_mem_nil, or_false, Prod.mk.injEq] at hmem
  rcases hmem with ⟨-, rfl⟩ | ⟨-, rfl⟩ | ⟨-, rfl⟩
  · cases flag with
    | outputDir => exact absurd hflag (by decide)
    | _ => rfl
  · cases flag with
    | outputDir | goPrefix => exact absurd hflag (by decide)
    | _ => rfl
  · cases flag with
    | outputDir | goPrefix => rfl
    | _ => exact absurd hflag (by decide)

/-- What a command line gives a command by each flag that the command has. -/
theorem given_of_ofWords {words : List String} {i : Invocation}
    (h : Invocation.ofWords words = .ok i) : ∃ options kinds, HasCommand words options kinds ∧
      ∀ flag : Flag, flag.option ∈ options →
        GivenAmong flag.option kinds (i.command.given flag) := by
  obtain ⟨r, hread, h⟩ := exists_of_bind_eq_ok h
  cases hwords : r.command with
  | nil =>
      rw [hwords] at h
      cases h
  | cons name rest =>
      rw [hwords] at h
      obtain ⟨⟨command, extras⟩, hcommand, h⟩ := exists_of_bind_eq_ok h
      have hi : i.command = command := by
        dsimp only at h
        split at h
        · cases h
          rfl
        · cases h
      rw [readCommand] at hcommand
      cases hform : commandForms.lookup name with
      | none =>
          rw [hform] at hcommand
          cases hcommand
      | some form =>
          rw [hform] at hcommand
          obtain ⟨r', hread', hcommand⟩ := exists_of_bind_eq_ok hcommand
          have hmade : command = form.make r' := by
            split at hcommand
            · cases hcommand
              rfl
            · cases hcommand
          obtain ⟨kinds, hkinds, hr'⟩ := exists_of_bind_eq_ok hread'
          refine ⟨form.options, kinds, ⟨r, name, form, rest, hread, hwords, hform, rfl, hkinds⟩,
            fun flag hflag => ?_⟩
          rw [hi, hmade, given_make hform r' hflag]
          exact givenAmong_value? (takesValue_option flag) hr'

end ConnectClients.CommandLine
