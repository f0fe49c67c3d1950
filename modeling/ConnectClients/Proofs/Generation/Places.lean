import ConnectClients.Generation
import ConnectClients.Proofs.Generation.Renames
import ConnectClients.Proofs.Output

/-!
# Where the output of a run goes

The services directory and the types directory beside it are reset one after the other.
Both are empty afterwards if they are apart from each other and the path of the services
directory leads to it; a path without two dots always does.
-/

namespace ConnectClients

open FileTree (Closed Holds isBelow)
open Location (along start resolve Through)

/-! ## The directories of a request -/

namespace Request

variable (r : Request) (here : Location)

def generatedAt : Location := resolve here r.generatedDir

def servicesAt : Location := resolve here r.servicesDir

def typesAt : Location := resolve here (Generation.typesDir r.servicesDir)

/-- Where the shared module goes. -/
def apiAt : Location := resolve here (Generation.apiDir r.servicesDir r.moduleName)

/-- Neither of the two directories of a request contains the other one. -/
structure IsApart : Prop where
  services_apart : ¬ r.servicesAt here <+: r.typesAt here
  types_apart : ¬ r.typesAt here <+: r.servicesAt here

/-- The path of the services directory leads to it: if something is there, everything on
the way is a directory, and nothing on the way is inside of it. And the shared module
goes neither to it nor to the types directory. -/
structure IsPlaced (t : FileTree) : Prop where
  not_through : ∀ l, Through here r.servicesDir l → ¬ isBelow (r.servicesAt here) l = true
  reached : t.get? (r.servicesAt here) = none ∨
    ∀ l, Through here r.servicesDir l → t.get? l = some .directory
  api_ne_services : r.apiAt here ≠ r.servicesAt here
  api_ne_types : r.apiAt here ≠ r.typesAt here

variable {r here}

theorem typesDir_eq (p : Path) :
    Generation.typesDir p = ⟨p.root, p.segments.dropLast ++ ["types"]⟩ := by
  have hname : Path.IsName "types" := ⟨by decide, by decide, by decide, by decide⟩
  exact Path.child_of_isName p.parent hname

theorem typesAt_eq : r.typesAt here = resolve here r.servicesDir.parent ++ ["types"] := by
  have hname : Path.IsName "types" := ⟨by decide, by decide, by decide, by decide⟩
  exact Location.resolve_child here r.servicesDir.parent hname

/-- A services directory that is apart from the types directory has a name. -/
theorem IsApart.exists_name (h : r.IsApart here) :
    ∃ dirs name, name ≠ Path.up ∧ r.servicesDir.segments = dirs ++ [name] := by
  have hout := h.services_apart
  rw [typesAt_eq, servicesAt, Location.resolve_eq, Location.resolve_eq] at hout
  rcases List.eq_nil_or_concat r.servicesDir.segments with hnil | ⟨dirs, name, hsegments⟩
  · refine absurd ?_ hout
    rw [Path.parent, hnil]
    exact List.prefix_append _ _
  · rw [List.concat_eq_append] at hsegments
    refine ⟨dirs, name, ?_, hsegments⟩
    rintro rfl
    refine hout ?_
    have hparent : start here r.servicesDir.parent = start here r.servicesDir := rfl
    rw [hparent, Path.parent, hsegments, List.dropLast_concat, Location.along_append,
      Location.along_up]
    exact (List.dropLast_prefix _).trans (List.prefix_append _ _)

/-- The way to the types directory is the way to the services directory. -/
theorem IsApart.through_typesDir_iff (h : r.IsApart here) {l : Location} :
    Through here (Generation.typesDir r.servicesDir) l ↔ Through here r.servicesDir l := by
  obtain ⟨dirs, name, -, hsegments⟩ := h.exists_name
  have htypes : (Generation.typesDir r.servicesDir).segments = dirs ++ ["types"] := by
    rw [typesDir_eq, hsegments, List.dropLast_concat]
  have hstart : start here (Generation.typesDir r.servicesDir) = start here r.servicesDir := by
    rw [typesDir_eq]
    rfl
  rw [Location.through_iff htypes, Location.through_iff hsegments, hstart]

/-- The shared module goes to a directory on the way to the services directory. -/
theorem IsApart.exists_apiDir (h : r.IsApart here) :
    ∃ lead rest, (Generation.typesDir r.servicesDir).segments = lead ++ rest ∧
      Generation.apiDir r.servicesDir r.moduleName =
        ⟨(Generation.typesDir r.servicesDir).root, lead⟩ ∧
      Through here r.servicesDir (r.apiAt here) := by
  obtain ⟨dirs, name, -, hsegments⟩ := h.exists_name
  have hparent : r.servicesDir.parent = ⟨r.servicesDir.root, dirs⟩ := by
    rw [Path.parent, hsegments, List.dropLast_concat]
  unfold apiAt Generation.apiDir
  rw [typesDir_eq, hsegments, List.dropLast_concat, hparent]
  split
  · refine ⟨dirs.dropLast, dirs.drop (dirs.length - 1) ++ ["types"], ?_, rfl, ?_⟩
    · rw [← List.append_assoc, List.dropLast_eq_take, List.take_append_drop]
    · refine (Location.through_iff hsegments).mpr ⟨dirs.dropLast, dirs.drop (dirs.length - 1), ?_, rfl⟩
      rw [List.dropLast_eq_take, List.take_append_drop]
  · refine ⟨dirs, ["types"], rfl, rfl, ?_⟩
    exact (Location.through_iff hsegments).mpr ⟨dirs, [], (List.append_nil dirs).symm, rfl⟩

theorem IsPlaced.of_sameShape {t t' : FileTree} (h : r.IsPlaced here t)
    (hshape : FileTree.SameShape t t') : r.IsPlaced here t' where
  not_through := h.not_through
  reached := by
    rcases h.reached with hnone | hdirs
    · exact Or.inl ((hshape.none_iff _).mpr hnone)
    · exact Or.inr fun l hthrough => (hshape.directory_iff l).mpr (hdirs l hthrough)
  api_ne_services := h.api_ne_services
  api_ne_types := h.api_ne_types

/-- Without two dots, the path leads to the services directory in every closed tree. -/
theorem IsApart.isPlaced (h : r.IsApart here) {t : FileTree} (hclosed : t.Closed)
    (hno : Path.up ∉ r.servicesDir.segments) : r.IsPlaced here t := by
  have habove : ∀ l, Through here r.servicesDir l → isBelow l (r.servicesAt here) = true :=
    fun l hthrough => FileTree.isBelow_of_through hno hthrough
  obtain ⟨-, -, -, -, hapi⟩ := h.exists_apiDir
  have hservices := FileTree.isBelow_iff.mp (habove _ hapi)
  refine ⟨?_, ?_, Ne.symm hservices.2, ?_⟩
  · intro l hthrough hbelow
    have hshort := (FileTree.isBelow_iff.mp hbelow).1.length_le
    obtain ⟨hlead, hne⟩ := FileTree.isBelow_iff.mp (habove l hthrough)
    exact hne (hlead.eq_of_length_le hshort).symm
  · by_cases hnone : t.get? (r.servicesAt here) = none
    · exact Or.inl hnone
    · exact Or.inr fun l hthrough => hclosed.directory_above (habove l hthrough) hnone
  · intro heq
    exact h.types_apart (heq ▸ hservices.1)

end Request

namespace Generation

open FileTree (cleared pathIsDirectory_iff resetDirectory_apart)

/-! ## Resetting both directories -/

section resets

variable {r : Request} {here : Location} {t t₁ t₂ : FileTree} {u v : Unit}

/-- Resetting the services directory leaves nothing in it. -/
theorem reset_services (hclosed : t.Closed) (hplaced : r.IsPlaced here t)
    (h : FileTree.Operation.resetDirectory here r.servicesDir t = .ok u t₁) :
    t₁.Holds (r.servicesAt here) [] := by
  apply FileTree.resetDirectory_holds h hplaced.not_through hplaced.reached
  intro hnone rest hrest
  exact hclosed.nothing_below (by rw [hnone]; simp) hrest

/-- After that the path of the types directory passes: it goes the same way. -/
theorem passes_typesDir (hapart : r.IsApart here)
    (h : FileTree.Operation.resetDirectory here r.servicesDir t = .ok u t₁) :
    t₁.Passes (start here (typesDir r.servicesDir)) (typesDir r.servicesDir).segments := by
  obtain ⟨dirs, name, -, hsegments⟩ := hapart.exists_name
  have hpasses := (pathIsDirectory_iff.mp (FileTree.Operation.resetDirectory_of_ok h).1).1
  rw [hsegments, FileTree.passes_append] at hpasses
  have hsmall : "types".utf8ByteSize ≤ nameLimit := by decide
  rw [Request.typesDir_eq, hsegments, List.dropLast_concat, FileTree.passes_append]
  exact ⟨hpasses.1, hpasses.2.1, Or.inr hsmall, trivial⟩

theorem not_through_types (hapart : r.IsApart here)
    (h : FileTree.Operation.resetDirectory here r.servicesDir t = .ok u t₁)
    (h' : FileTree.Operation.resetDirectory here (typesDir r.servicesDir) t₁ = .ok v t₂) :
    ∀ l, Through here r.servicesDir l → ¬ isBelow (r.typesAt here) l = true := by
  have hname : "types" ≠ Path.up := by decide
  have hsegments : (typesDir r.servicesDir).segments =
      r.servicesDir.segments.dropLast ++ ["types"] := by
    rw [Request.typesDir_eq]
  intro l hthrough
  exact FileTree.not_below_of_resetDirectory hsegments hname (passes_typesDir hapart h) h' l
    (hapart.through_typesDir_iff.mpr hthrough)

/-- Resetting the types directory after the services directory leaves nothing in it. -/
theorem reset_types (hclosed : t.Closed) (hapart : r.IsApart here)
    (h : FileTree.Operation.resetDirectory here r.servicesDir t = .ok u t₁)
    (h' : FileTree.Operation.resetDirectory here (typesDir r.servicesDir) t₁ = .ok v t₂) :
    t₂.Holds (r.typesAt here) [] := by
  have hpasses := passes_typesDir hapart h
  have hinside : ∀ l, Through here (typesDir r.servicesDir) l →
      ¬ isBelow (r.typesAt here) l = true := by
    intro l hthrough
    exact not_through_types hapart h h' l (hapart.through_typesDir_iff.mp hthrough)
  refine FileTree.resetDirectory_holds h' hinside (Or.inr fun l => hpasses.directory) ?_
  intro hnone rest hrest
  -- what is below the types directory was there before the services directory was reset
  have hout : ¬ r.servicesAt here <+: r.typesAt here ++ rest :=
    Location.not_prefix_of_apart ⟨hapart.services_apart, hapart.types_apart⟩
      (List.prefix_append _ rest)
  have hbefore : t.get? (r.typesAt here) = none := by
    rcases resetDirectory_apart h hapart.services_apart with heq | ⟨hno, -⟩
    · rw [← heq]
      exact hnone
    · exact hno
  rcases resetDirectory_apart h hout with heq | ⟨-, hthrough⟩
  · refine heq.trans ?_
    exact hclosed.nothing_below (by rw [hbefore]; simp) hrest
  · have hbelow : isBelow (r.typesAt here) (r.typesAt here ++ rest) = true :=
      FileTree.isBelow_append hrest
    exact absurd hbelow (hinside _ (hapart.through_typesDir_iff.mpr hthrough))

/-- Resetting the types directory leaves the services directory as it is. -/
theorem reset_services_kept (hclosed : t.Closed) (hapart : r.IsApart here)
    (hplaced : r.IsPlaced here t)
    (h : FileTree.Operation.resetDirectory here r.servicesDir t = .ok u t₁)
    (h' : FileTree.Operation.resetDirectory here (typesDir r.servicesDir) t₁ = .ok v t₂) :
    t₂.Holds (r.servicesAt here) [] := by
  apply (reset_services hclosed hplaced h).reset_apart h' hapart.types_apart hapart.services_apart
  intro l hthrough
  exact hplaced.not_through l (hapart.through_typesDir_iff.mp hthrough)

end resets

end Generation

end ConnectClients
