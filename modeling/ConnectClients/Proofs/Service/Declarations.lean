import ConnectClients.Proofs.Service.Methods

/-!
# Services read from a generated module

A generated module declares its services one after the other, with other text around them. Every
declaration is read once, and none is read from the text around.
-/

namespace ConnectClients.Service

open Text

/-! ## Services of a generated module -/

/-- A text without what marks a service. -/
structure Unmarked where
  text : String
  unmarked : ¬ marker.toList <:+: text.toList := by decide +kernel

/-- A service as a generated module declares it, with what stands behind it. -/
structure GeneratedService where
  name : Word
  methods : List GeneratedMethod
  file : Unmarked
  index : Unmarked
  behind : Unmarked

namespace GeneratedService

def text (s : GeneratedService) : String :=
  "export const " ++ s.name.text ++ ": GenService<\x7b\n" ++
    String.join (s.methods.map GeneratedMethod.text) ++
    "\x7d> = /*@__PURE__*/\n  serviceDesc(" ++ s.file.text ++ ", " ++ s.index.text ++ ");\n" ++
    s.behind.text

/-- The service that is read from the declaration. -/
def service (s : GeneratedService) (importPath : String) (imports : List (String × String)) :
    Service :=
  ⟨s.name.text, importPath, (s.methods.filter GeneratedMethod.isUnary).map GeneratedMethod.method, imports⟩

end GeneratedService

/-- A generated module: its services, one after the other, with other text around them. -/
structure GeneratedModule where
  head : Unmarked
  services : List GeneratedService

def GeneratedModule.text (m : GeneratedModule) : String :=
  m.head.text ++ String.join (m.services.map GeneratedService.text)

/-! ## Reading one declaration -/

theorem readTypeEnd_eq_none {cs : List Char} (h : ¬ "\x7d>".toList <+: cs) :
    readTypeEnd cs = none := by
  rw [readTypeEnd, literal?_eq_none_iff.mpr h]
  rfl

/-- The text of a type ends at its first closing bracket. -/
theorem readTypeBody_clear {body cs rest : List Char} (hbody : Clear "\x7d>".toList body)
    (hne : cs ≠ []) (hcs : readTypeEnd cs = some rest) :
    readTypeBody (body ++ cs) = some (body, rest) := by
  induction body with
  | nil =>
      obtain ⟨c, ds, rfl⟩ := List.exists_cons_of_ne_nil hne
      rw [List.nil_append, readTypeBody, hcs]
  | cons c body ih =>
      have hnone : readTypeEnd (c :: (body ++ cs)) = none := by
        apply readTypeEnd_eq_none
        intro hp
        rcases List.prefix_or_prefix_of_prefix hp (List.prefix_append (c :: body) cs) with hk | hk
        · exact hbody.1.2 hk
        · exact hbody.1.1 hk
      rw [List.cons_append, readTypeBody, hnone]
      simp only [ih hbody.2, Option.map_some]

theorem readDeclaration_append (w : Word) {body : List Char} (hbody : Clear "\x7d>".toList body)
    (rest : List Char) :
    readDeclaration ("export const ".toList ++ (w.text.toList ++ ':' :: ' ' ::
      ("GenService<\x7b".toList ++ (body ++ '\x7d' :: '>' :: ' ' :: '=' :: rest)))) =
      some ((w.text.toList, body), rest) := by
  have hconst := literal?_append "export const " (w.text.toList ++ ':' :: ' ' ::
    ("GenService<\x7b".toList ++ (body ++ '\x7d' :: '>' :: ' ' :: '=' :: rest)))
  have hrun : run? isWord (w.text.toList ++ ':' :: ' ' ::
      ("GenService<\x7b".toList ++ (body ++ '\x7d' :: '>' :: ' ' :: '=' :: rest))) =
      some (w.text.toList, ':' :: ' ' ::
        ("GenService<\x7b".toList ++ (body ++ '\x7d' :: '>' :: ' ' :: '=' :: rest))) :=
    run?_append w.ne_nil w.word (fun c hc => Option.some.inj hc ▸ by decide)
  have hmarker := literal?_append "GenService<\x7b" (body ++ '\x7d' :: '>' :: ' ' :: '=' :: rest)
  have hfirst : ∀ c ∈ ("GenService<\x7b".toList ++
      (body ++ '\x7d' :: '>' :: ' ' :: '=' :: rest)).head?, isBlank c = false :=
    fun c hc => Option.some.inj hc ▸ by decide
  rw [← skipBlanks_space hfirst] at hmarker
  have hend : readTypeEnd ('\x7d' :: '>' :: ' ' :: '=' :: rest) = some rest := by
    have hbracket : literal? "\x7d>" ('\x7d' :: '>' :: ' ' :: '=' :: rest) =
        some (' ' :: '=' :: rest) := literal?_append "\x7d>" _
    have hskip : skipBlanks (' ' :: '=' :: rest) = '=' :: rest :=
      skipBlanks_space (fun c hc => Option.some.inj hc ▸ by decide)
    simp only [readTypeEnd, hbracket, bind, Option.bind_some, hskip]
    exact literal?_append "=" rest
  have htype := readTypeBody_clear hbody (List.cons_ne_nil _ _) hend
  simp only [readDeclaration, bind, pure, Option.bind_eq_some_iff]
  exact ⟨_, hconst, _, hrun, _, literal?_append ":" _, _, hmarker, _, htype, rfl⟩

/-- A declaration is read where its constant has the mark of a service. -/
theorem readDeclaration_opening {cs : List Char} {found : (List Char × List Char) × List Char}
    (h : readDeclaration cs = some found) :
    ∃ after behind, cs = "export const ".toList ++ after ∧
      after.dropWhile isWord = ':' :: behind ∧ marker.toList <+: skipBlanks behind := by
  simp only [readDeclaration, bind, Option.bind_eq_some_iff] at h
  obtain ⟨after, hconst, ⟨_, _⟩, hrun, behind, hcolon, rest, hmarker, -⟩ := h
  refine ⟨after, behind, literal?_eq_some_iff.mp hconst, ?_, ?_⟩
  · rw [← run?_rest hrun]
    exact literal?_eq_some_iff.mp hcolon
  · rw [literal?_eq_some_iff.mp hmarker]
    exact List.prefix_append _ _

theorem infix_of_dropWhile {cs behind : List Char} (hcolon : cs.dropWhile isWord = ':' :: behind)
    (h : marker.toList <+: skipBlanks behind) : marker.toList <:+: cs := by
  have hblanks : skipBlanks behind <:+ behind := List.dropWhile_suffix _
  have hword : ':' :: behind <:+ cs := hcolon ▸ List.dropWhile_suffix _
  exact (h.isInfix.trans hblanks.isInfix).trans
    ((List.suffix_cons _ _).isInfix.trans hword.isInfix)

theorem readDeclaration_unmarked {cs : List Char} (h : ¬ marker.toList <:+: cs) :
    readDeclaration cs = none := by
  rw [Option.eq_none_iff_forall_ne_some]
  intro found hread
  obtain ⟨after, behind, rfl, hcolon, hmarker⟩ := readDeclaration_opening hread
  exact h ((infix_of_dropWhile hcolon hmarker).trans (List.suffix_append _ _).isInfix)

theorem dropWhile_isWord_export (rest : List Char) :
    ("export const ".toList ++ rest).dropWhile isWord = ' ' :: ("const ".toList ++ rest) := by
  have hsplit : "export const ".toList = "export".toList ++ ' ' :: "const ".toList := by decide
  have hword : ∀ c ∈ "export".toList, isWord c = true := List.all_eq_true.mp (by decide)
  rw [hsplit, List.append_assoc, List.dropWhile_append_of_pos hword, List.cons_append,
    List.dropWhile_cons_of_neg (by decide)]

/-- No declaration starts in an unmarked text in front of another declaration. -/
theorem readDeclaration_before {c : Char} {cs : List Char} (h : ¬ marker.toList <:+: c :: cs)
    (rest : List Char) :
    readDeclaration (c :: cs ++ ("export const ".toList ++ rest)) = none := by
  rw [Option.eq_none_iff_forall_ne_some]
  intro found hread
  obtain ⟨after, behind, hconst, hcolon, hmarker⟩ := readDeclaration_opening hread
  have hsplit : "export const ".toList ++ after = 'e' :: ("xport const ".toList ++ after) := by
    have hfirst : "export const ".toList = 'e' :: "xport const ".toList := by decide
    rw [hfirst, List.cons_append]
  rw [hsplit, List.cons_append] at hconst
  have htails := (List.cons.inj hconst).2
  -- the words that declare a constant do not begin a second time inside of themselves
  obtain ⟨s, rfl⟩ := prefix_of_clear (by decide) ⟨after, htails.symm⟩
  rw [List.append_assoc] at htails
  have hafter : s ++ ("export const ".toList ++ rest) = after := List.append_cancel_left htails
  rw [← hafter, List.dropWhile_append] at hcolon
  cases hrest : s.dropWhile isWord with
  | nil =>
      rw [hrest, List.isEmpty_nil, if_pos rfl, dropWhile_isWord_export] at hcolon
      exact absurd (List.cons.inj hcolon).1 (by decide)
  | cons d ds =>
      rw [hrest, List.isEmpty_cons, if_neg Bool.false_ne_true, List.cons_append] at hcolon
      obtain ⟨rfl, rfl⟩ := List.cons.inj hcolon
      have hhead : ∀ c ∈ ("export const ".toList ++ rest).head?, isBlank c = false :=
        fun c hc => Option.some.inj hc ▸ by decide
      rw [skipBlanks_append_of_head hhead] at hmarker
      have hin := infix_of_dropWhile hrest (prefix_of_clear (by decide) hmarker)
      exact h (hin.trans ((List.suffix_append _ _).trans (List.suffix_cons _ _)).isInfix)

theorem scanAll_readDeclaration_before {cs : List Char} (h : ¬ marker.toList <:+: cs)
    (rest : List Char) :
    scanAll readDeclaration (cs ++ ("export const ".toList ++ rest)) =
      scanAll readDeclaration ("export const ".toList ++ rest) := by
  induction cs with
  | nil => rfl
  | cons c cs ih =>
      have hnone := readDeclaration_before h rest
      rw [List.cons_append] at hnone ⊢
      rw [scanAll_cons_of_none hnone, ih fun hin => h (hin.trans (List.suffix_cons c cs).isInfix)]

theorem scanAll_readDeclaration_eq_nil {cs : List Char} (h : ¬ marker.toList <:+: cs) :
    scanAll readDeclaration cs = [] := by
  induction cs with
  | nil => rw [scanAll]
  | cons c cs ih =>
      rw [scanAll_cons_of_none (readDeclaration_unmarked h),
        ih fun hin => h (hin.trans (List.suffix_cons c cs).isInfix)]

/-! ## Reading a whole module -/

theorem GeneratedMethod.clear_text (m : GeneratedMethod) : Clear "\x7d>".toList m.text.toList := by
  have hindent : '\x7d' ∉ "  ".toList := by decide
  have hopen : '\x7d' ∉ ": \x7b".toList := by decide
  have hstart : '\x7d' ∉ m.lead.toList ++ "  ".toList ++ m.name.text.toList ++ ": \x7b".toList ++
      m.fields.toList := by
    simp only [List.mem_append, not_or]
    exact ⟨⟨⟨⟨m.lead_braceless.2, hindent⟩, m.name.braceless.2⟩, hopen⟩, m.braceless_fields.2⟩
  have hclose : Clear "\x7d>".toList "\x7d,\n".toList := by decide
  unfold text
  simp only [String.toList_append]
  exact (clear_of_not_mem ['>'] hstart).append hclose

namespace GeneratedService

/-- What stands between the braces of a service's type. -/
def body (s : GeneratedService) : List Char :=
  '\n' :: s.methods.flatMap fun m => m.text.toList

theorem clear_body (s : GeneratedService) : Clear "\x7d>".toList s.body := by
  have hmethods : ∀ ms : List GeneratedMethod,
      Clear "\x7d>".toList (ms.flatMap fun m => m.text.toList) := by
    intro ms
    induction ms with
    | nil => trivial
    | cons m ms ih =>
        rw [List.flatMap_cons]
        exact m.clear_text.append ih
  have hstart : Clear "\x7d>".toList ['\n'] := by decide
  exact hstart.append (hmethods s.methods)

/-- What stands behind the type of a service, up to the next one. -/
def ending (s : GeneratedService) : List Char :=
  " /*@__PURE__*/\n  serviceDesc(".toList ++ (s.file.text.toList ++ ([','] ++ ([' '] ++
    (s.index.text.toList ++ ([')'] ++ (";\n".toList ++ s.behind.text.toList))))))

theorem ending_unmarked (s : GeneratedService) : ¬ marker.toList <:+: s.ending := by
  have hstart : Clear marker.toList " /*@__PURE__*/\n  serviceDesc(".toList := by decide
  have hfile : Clear marker.toList (s.file.text.toList ++ [',']) :=
    clear_append_singleton (by decide) s.file.unmarked
  have hspace : Clear marker.toList [' '] := by decide
  have hindex : Clear marker.toList (s.index.text.toList ++ [')']) :=
    clear_append_singleton (by decide) s.index.unmarked
  have hend : Clear marker.toList ";\n".toList := by decide
  intro h
  unfold ending at h
  rw [← List.append_assoc s.file.text.toList, ← List.append_assoc s.index.text.toList] at h
  have hbehind := infix_of_clear hend (infix_of_clear hindex
    (infix_of_clear hspace (infix_of_clear hfile (infix_of_clear hstart h))))
  exact s.behind.unmarked hbehind

theorem toList_text (s : GeneratedService) (rest : List Char) :
    s.text.toList ++ rest = "export const ".toList ++ (s.name.text.toList ++ ':' :: ' ' ::
      ("GenService<\x7b".toList ++ (s.body ++ '\x7d' :: '>' :: ' ' :: '=' :: (s.ending ++ rest)))) := by
  have hopen : ": GenService<\x7b\n".toList = ':' :: ' ' :: ("GenService<\x7b".toList ++ ['\n']) := by
    decide
  have hclose : "\x7d> = /*@__PURE__*/\n  serviceDesc(".toList =
      '\x7d' :: '>' :: ' ' :: '=' :: " /*@__PURE__*/\n  serviceDesc(".toList := by decide
  have hcomma : ", ".toList = [',', ' '] := by decide
  have hend : ");\n".toList = ')' :: ";\n".toList := by decide
  have hmethods : (String.join (s.methods.map GeneratedMethod.text)).toList =
      s.methods.flatMap fun m => m.text.toList := by
    rw [String.toList_join, List.flatMap_map]
  unfold text ending
  simp only [body, String.toList_append, hopen, hclose, hcomma, hend, hmethods,
    List.append_assoc, List.cons_append, List.nil_append]

end GeneratedService

/-- Each declaration is read, with the body that lists its methods. -/
theorem scanAll_services (ss : List GeneratedService) {before : List Char}
    (h : ¬ marker.toList <:+: before) :
    scanAll readDeclaration (before ++ ss.flatMap fun s => s.text.toList) =
      ss.map fun s => (s.name.text.toList, s.body) := by
  induction ss generalizing before with
  | nil =>
      rw [List.flatMap_nil, List.append_nil, scanAll_readDeclaration_eq_nil h]
      rfl
  | cons s ss ih =>
      have hread := readDeclaration_append s.name s.clear_body
        (s.ending ++ ss.flatMap fun s => s.text.toList)
      have hshort : (s.ending ++ ss.flatMap fun s => s.text.toList).length <
          ("export const ".toList ++ (s.name.text.toList ++ ':' :: ' ' ::
            ("GenService<\x7b".toList ++ (s.body ++ '\x7d' :: '>' :: ' ' :: '=' ::
              (s.ending ++ ss.flatMap fun s => s.text.toList))))).length := by
        simp only [List.length_append, List.length_cons]
        omega
      rw [List.flatMap_cons, s.toList_text, scanAll_readDeclaration_before h,
        scanAll_of_some hread hshort, ih s.ending_unmarked, List.map_cons]

/-- **Every declared service is read, with its unary methods.** The services of a generated
module are those it declares, in their order, and the methods of a service are its unary ones. -/
theorem ofModule_generated (m : GeneratedModule) (importPath : String) :
    ofModule m.text importPath =
      m.services.map fun s => s.service importPath (namedImports m.text importPath) := by
  have htext : m.text.toList = m.head.text.toList ++ m.services.flatMap fun s => s.text.toList := by
    rw [GeneratedModule.text, String.toList_append, String.toList_join, List.flatMap_map]
  have hmethods : ∀ s : GeneratedService,
      scanAll readMethod s.body =
        (s.methods.filter GeneratedMethod.isUnary).map GeneratedMethod.method :=
    fun s => GeneratedMethod.scanAll_text s.methods (by decide : '\x7b' ∉ ['\n'])
  rw [ofModule, htext, scanAll_services m.services m.head.unmarked, List.map_map]
  refine List.map_congr_left fun s _ => ?_
  simp only [Function.comp_apply, GeneratedService.service, String.ofList_toList, hmethods]

/-- Two services with methods of every kind, and a comment in front of one of them. -/
def mixedModule : GeneratedModule where
  head := { text := "import type \x7b GenService \x7d from \"@bufbuild/protobuf/codegenv2\";\n" }
  services :=
    [{ name := { text := "OrderService" }
       methods :=
         [{ name := { text := "watch" }
            kind := .serverStreaming
            input := { text := "WatchRequest" }
            output := { text := "Order" } },
          { lead := "  /** unary: place */\n"
            name := { text := "place" }
            kind := .unary
            input := { text := "OrderSchema" }
            output := { text := "Order" } }]
       file := { text := "file_shop_v1_order" }
       index := { text := "0" }
       behind := { text := "\n" } },
     { name := { text := "CartService" }
       methods :=
         [{ name := { text := "drop" }
            kind := .unary
            input := { text := "Cart" }
            output := { text := "Empty" } },
          { name := { text := "fill" }
            kind := .clientStreaming
            input := { text := "Item" }
            output := { text := "Cart" } },
          { name := { text := "talk" }
            kind := .bidiStreaming
            input := { text := "Item" }
            output := { text := "Item" } }]
       file := { text := "file_shop_v1_order" }
       index := { text := "1" }
       behind := { text := "" } }]

theorem ofModule_mixedModule :
    (ofModule mixedModule.text "shop/v1/order_pb").map (fun s => (s.serviceName, s.methods)) =
      [("OrderService", [⟨"place", "OrderSchema", "OrderSchemaSchema", "Order", "OrderSchema"⟩]),
        ("CartService", [⟨"drop", "Cart", "CartSchema", "Empty", "EmptySchema"⟩])] := by
  rw [ofModule_generated]
  decide +kernel

end ConnectClients.Service
