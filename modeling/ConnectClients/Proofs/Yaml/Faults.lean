import ConnectClients.Yaml.Document

/-!
# Faults of documents

The value of a document is built from the values of its scalars. Collections are malformed or not,
and have no other faults, so that a fault of a scalar is always that of a scalar in the document:
of one whose tag demands a number, a switch or a time, and whose text is none.
-/

namespace ConnectClients.Yaml

/-! ## Faults that are told -/

/-- A scalar's fault has a property. -/
def LoadFault.Meets (P : ScalarFault → Prop) : LoadFault → Prop
  | .malformed => True
  | .scalar fault => P fault

namespace Built

variable {α β : Type} {P : ScalarFault → Prop}

/-- Of the faults of scalars, only one with a property is told. -/
def Tells (P : ScalarFault → Prop) : Built α → Prop
  | .ok _ => True
  | .fault _ e => e.Meets P

theorem tells_ok (a : α) : Tells P (.ok a) := trivial

theorem tells_malformed (level : Nat) : Tells P (malformed level : Built α) := trivial

theorem Tells.map {b : Built α} (h : b.Tells P) (f : α → β) : Tells P (f <$> b) := by
  cases b with
  | ok a => trivial
  | fault level e => exact h

theorem Tells.seq {f : Built (α → β)} {b : Built α} (hf : f.Tells P) (hb : b.Tells P) :
    Tells P (f <*> b) := by
  change Tells P (f.apply b)
  cases f with
  | ok f =>
      cases b with
      | ok a => trivial
      | fault m e => exact hb
  | fault l e =>
      cases b with
      | ok a => exact hf
      | fault m e' =>
          rw [apply]
          split
          · exact hb
          · exact hf

theorem Tells.asKey {b : Built Value} (h : b.Tells P) (level : Nat) :
    Tells P (b.asKey level) := by
  cases b with
  | ok v =>
      rw [Built.asKey]
      split
      · trivial
      · exact tells_malformed level
  | fault l e =>
      rw [Built.asKey]
      split
      · exact tells_malformed level
      · exact h

theorem tells_ofExcept {r : Except LoadFault α} (level : Nat)
    (h : ∀ f, r = .error (.scalar f) → P f) : Tells P (ofExcept level r) := by
  match r with
  | .ok a => trivial
  | .error .malformed => trivial
  | .error (.scalar f) => exact h f rfl

end Built

/-! ## The scalars of a tree -/

namespace Node

mutual

/-- The scalars whose values a tree is built from, with the tags they are read under. A
collection under the tag of a scalar stands for the text it gives. -/
def scalars : Node → List (Tag × ScalarText)
  | .scalar tag text => [(tag, text)]
  | .sequence _ items => itemScalars items
  | .mapping tag entries =>
    (defaultText?.find entries).toList.map (tag, ·) ++ entryScalars entries
  | .loop _ content => content.scalars

def itemScalars : List Node → List (Tag × ScalarText)
  | [] => []
  | item :: rest => item.scalars ++ itemScalars rest

def entryScalars : List (Node × Node) → List (Tag × ScalarText)
  | [] => []
  | (k, v) :: rest => k.scalars ++ v.scalars ++ entryScalars rest

end

/-- Whatever fault one of some scalars has, it has a property. -/
def Faulty (P : ScalarFault → Prop) (scalars : List (Tag × ScalarText)) : Prop :=
  ∀ s ∈ scalars, ∀ fault, scalarValue s.1 s.2 = .error (.scalar fault) → P fault

variable {P : ScalarFault → Prop}

theorem Faulty.left {a b : List (Tag × ScalarText)} (h : Faulty P (a ++ b)) : Faulty P a :=
  fun s hs => h s (List.mem_append_left b hs)

theorem Faulty.right {a b : List (Tag × ScalarText)} (h : Faulty P (a ++ b)) : Faulty P b :=
  fun s hs => h s (List.mem_append_right a hs)

mutual

theorem build_tells (level : Nat) : (n : Node) → Faulty P n.scalars → (n.build level).Tells P
  | .scalar tag text, h => by
      have hscalar := Built.tells_ofExcept level (h (tag, text) List.mem_cons_self)
      cases tag
      all_goals
        simp only [build]
        exact hscalar
  | .sequence tag items, h => by
      rw [scalars] at h
      have hlist := (buildItems_tells (level + 1) items h).map Value.list
      have hpairs := (buildPairs_tells (level + 1) items h).map Value.list
      cases tag
      all_goals
        simp only [build]
        first
          | exact hlist
          | exact hpairs
          | exact Built.tells_malformed _
  | .mapping tag entries, h => by
      rw [scalars] at h
      have hmerged := buildMerged_tells (level + 1) entries h.right
      have hown := buildOwn_tells (level + 1) entries h.right
      have hentries := (hmerged.map build.fold).seq hown
      have htext : ∀ text, defaultText?.find entries = some text →
          Built.Tells P (.ofExcept level (scalarValue tag text) : Built Value) := by
        intro text hfind
        refine Built.tells_ofExcept level (h (tag, text) (List.mem_append_left _ ?_))
        rw [hfind]
        exact List.mem_cons_self
      cases tag
      all_goals
        simp only [build]
        first
          | exact Built.tells_malformed _
          | split <;> first
              | exact hentries.map _
              | exact htext _ ‹_›
              | exact Built.tells_malformed _
  | .loop _ content, h => by
      rw [scalars] at h
      rw [build]
      exact (build_tells level content h).map _

theorem buildItems_tells (level : Nat) :
    (items : List Node) → Faulty P (itemScalars items) → (buildItems level items).Tells P
  | [], _ => by
      rw [buildItems]
      trivial
  | item :: rest, h => by
      rw [itemScalars] at h
      rw [buildItems]
      exact ((build_tells level item h.left).map _).seq (buildItems_tells level rest h.right)

theorem buildPairs_tells (level : Nat) :
    (items : List Node) → Faulty P (itemScalars items) → (buildPairs level items).Tells P
  | [], _ => by
      rw [buildPairs]
      trivial
  | .mapping tag [(k, v)] :: rest, h => by
      rw [itemScalars, scalars, entryScalars, entryScalars, List.append_nil] at h
      rw [buildPairs]
      exact (((build_tells level k h.left.right.left).map _).seq
        (build_tells level v h.left.right.right)).seq (buildPairs_tells level rest h.right)
  | .mapping tag [] :: rest, _ => by
      simp only [buildPairs]
      exact Built.tells_malformed _
  | .mapping tag (_ :: _ :: _) :: rest, _ => by
      simp only [buildPairs]
      exact Built.tells_malformed _
  | .loop _ (.mapping tag [(k, v)]) :: rest, h => by
      rw [itemScalars, scalars, scalars, entryScalars, entryScalars, List.append_nil] at h
      rw [buildPairs]
      exact (((build_tells level k h.left.right.left).map _).seq
        (build_tells level v h.left.right.right)).seq (buildPairs_tells level rest h.right)
  | .loop _ (.mapping tag []) :: rest, _ => by
      simp only [buildPairs]
      exact Built.tells_malformed _
  | .loop _ (.mapping tag (_ :: _ :: _)) :: rest, _ => by
      simp only [buildPairs]
      exact Built.tells_malformed _
  | .loop _ (.scalar _ _) :: rest, _ | .loop _ (.sequence _ _) :: rest, _
  | .loop _ (.loop _ _) :: rest, _ => by
      simp only [buildPairs]
      exact Built.tells_malformed _
  | .scalar _ _ :: rest, _ | .sequence _ _ :: rest, _ => by
      simp only [buildPairs]
      exact Built.tells_malformed _

theorem buildMerged_tells (level : Nat) :
    (entries : List (Node × Node)) → Faulty P (entryScalars entries) →
      (buildMerged level entries).Tells P
  | [], _ => by
      rw [buildMerged]
      trivial
  | (k, v) :: rest, h => by
      rw [entryScalars] at h
      have hrest := buildMerged_tells level rest h.right
      have hv := h.left.right
      cases hmerge : k.tag == Tag.merge with
      | false =>
          unfold buildMerged
          rw [hmerge]
          exact hrest
      | true =>
          match v with
          | .mapping tag entries =>
              rw [scalars] at hv
              simp only [buildMerged, hmerge]
              exact (((buildMerged_tells level entries hv.right).map _).seq
                (buildOwn_tells level entries hv.right)).seq hrest
          | .sequence tag items =>
              rw [scalars] at hv
              simp only [buildMerged, hmerge]
              exact ((buildReversed_tells level items hv).map _).seq hrest
          | .loop _ (.mapping tag entries) =>
              rw [scalars, scalars] at hv
              simp only [buildMerged, hmerge]
              exact (((buildMerged_tells level entries hv.right).map _).seq
                (buildOwn_tells level entries hv.right)).seq hrest
          | .loop _ (.sequence tag items) =>
              rw [scalars, scalars] at hv
              simp only [buildMerged, hmerge]
              exact ((buildReversed_tells level items hv).map _).seq hrest
          | .scalar _ _ | .loop _ (.scalar _ _) | .loop _ (.loop _ _) =>
              simp only [buildMerged, hmerge]
              exact hrest

theorem buildReversed_tells (level : Nat) :
    (items : List Node) → Faulty P (itemScalars items) → (buildReversed level items).Tells P
  | [], _ => by
      rw [buildReversed]
      trivial
  | .mapping tag entries :: rest, h => by
      rw [itemScalars, scalars] at h
      rw [buildReversed]
      exact (((buildReversed_tells level rest h.right).map _).seq
        (buildMerged_tells level entries h.left.right)).seq
          (buildOwn_tells level entries h.left.right)
  | .loop _ (.mapping tag entries) :: rest, h => by
      rw [itemScalars, scalars, scalars] at h
      rw [buildReversed]
      exact (((buildReversed_tells level rest h.right).map _).seq
        (buildMerged_tells level entries h.left.right)).seq
          (buildOwn_tells level entries h.left.right)
  | .scalar _ _ :: rest, h | .sequence _ _ :: rest, h | .loop _ (.scalar _ _) :: rest, h
  | .loop _ (.sequence _ _) :: rest, h | .loop _ (.loop _ _) :: rest, h => by
      rw [itemScalars] at h
      simp only [buildReversed]
      exact buildReversed_tells level rest h.right

theorem buildOwn_tells (level : Nat) :
    (entries : List (Node × Node)) → Faulty P (entryScalars entries) →
      (buildOwn level entries).Tells P
  | [], _ => by
      rw [buildOwn]
      trivial
  | (k, v) :: rest, h => by
      rw [entryScalars] at h
      have hkey : Built.Tells P (if k.tag == Tag.value then
          match k with
          | .scalar _ text => .ok (textValue text)
          | _ => .malformed level
        else (k.build level).asKey level) := by
        split
        · split
          · exact Built.tells_ok _
          · exact Built.tells_malformed _
        · exact (build_tells level k h.left.left).asKey level
      have hvalue := build_tells level v h.left.right
      have hrest := buildOwn_tells level rest h.right
      cases hmerge : k.tag == Tag.merge with
      | true =>
          unfold buildOwn
          rw [hmerge]
          exact hrest
      | false =>
          unfold buildOwn
          rw [hmerge]
          exact ((hkey.map _).seq hvalue).seq hrest

end

end Node

/-! ## Documents -/

/-- Only tags that ask for a value of their own have faults besides being malformed. -/
theorem tag_of_scalarValue {s : Tag × ScalarText} {fault : ScalarFault}
    (h : scalarValue s.1 s.2 = .error (.scalar fault)) :
    s.1 = .bool ∨ s.1 = .int ∨ s.1 = .float ∨ s.1 = .timestamp := by
  obtain ⟨tag, text⟩ := s
  cases tag with
  | bool => exact Or.inl rfl
  | int => exact Or.inr (Or.inl rfl)
  | float => exact Or.inr (Or.inr (Or.inl rfl))
  | timestamp => exact Or.inr (Or.inr (Or.inr rfl))
  | binary =>
      simp only [scalarValue] at h
      split at h
      · split at h
        · cases h
        · cases h
      · cases h
  | _ => cases h

/-- **A document fails by a scalar only if one of its scalars does**, or if an escape in it gives
no character. -/
theorem exists_scalar_of_load {text : List Char} {fault : ScalarFault}
    (h : load text = .error (.scalar fault)) :
    (∃ code, Node.ofText? text = .error (.noCharacter code) ∧ fault = .noCharacter code) ∨
      ∃ node, Node.ofText? text = .ok (some node) ∧
        ∃ s ∈ node.scalars, scalarValue s.1 s.2 = .error (.scalar fault) := by
  rw [load] at h
  cases htext : Node.ofText? text with
  | error e =>
      rw [htext] at h
      cases e with
      | malformed => cases h
      | noCharacter code =>
          cases h
          exact Or.inl ⟨code, rfl, rfl⟩
  | ok found =>
      rw [htext] at h
      cases found with
      | none => cases h
      | some node =>
          have htells := node.build_tells (P := fun fault =>
            ∃ s ∈ node.scalars, scalarValue s.1 s.2 = .error (.scalar fault)) 0
            fun s hs fault hfault => ⟨s, hs, hfault⟩
          refine Or.inr ⟨node, rfl, ?_⟩
          cases hbuilt : node.build 0 with
          | ok v =>
              simp only [hbuilt, Built.toExcept] at h
              cases h
          | fault level e =>
              simp only [hbuilt, Built.toExcept, Except.error.injEq] at h
              rw [hbuilt, h] at htells
              exact htells

end ConnectClients.Yaml
