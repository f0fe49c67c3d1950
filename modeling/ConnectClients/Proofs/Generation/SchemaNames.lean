import ConnectClients.Proofs.FieldRename.Settled
import ConnectClients.Proofs.Generation.Renames

/-!
# Names from all schemas

The JSON names of all schemas below a directory are put into one dictionary, in the order of the
paths of the schemas. So of two schemas that name the same field the later one counts, and nothing
is left of where a name was declared.
-/

namespace ConnectClients.Generation

variable {t : FileTree} {here : Location} {dir : Path}

/-- The JSON names that one schema declares, if it can be read. -/
def schemaNames (t : FileTree) (here : Location) (dir : Path) (s : List String) :
    List (String × String) :=
  match t.readText here (dir.below s) with
  | .ok source => FieldRename.ofSchema source
  | .error _ => []

/-- The warning about a schema, if it cannot be read. -/
def unreadableSchema (t : FileTree) (here : Location) (dir : Path) (s : List String) :
    List String :=
  match t.readText here (dir.below s) with
  | .ok _ => []
  | .error fault =>
    ["Could not read proto file " ++ (dir.below s).toString ++ ": " ++ fault.message]

/-- The dictionary of all schemas below a directory. -/
def mergedNames (t : FileTree) (here : Location) (dir : Path) : List (String × String) :=
  Assoc.ofList ((Discovery.schemas t here dir).flatMap (schemaNames t here dir))

def unreadableSchemas (t : FileTree) (here : Location) (dir : Path) : List String :=
  (Discovery.schemas t here dir).flatMap (unreadableSchema t here dir)

/-- A schema adds its names to the dictionary, or a warning about itself. -/
def addSchema (t : FileTree) (here : Location) (dir : Path)
    (found : List (String × String) × List String) (s : List String) :
    List (String × String) × List String :=
  (Assoc.putAll found.1 (schemaNames t here dir s), found.2 ++ unreadableSchema t here dir s)

theorem foldl_addSchema (ss : List (List String))
    (found : List (String × String) × List String) :
    ss.foldl (addSchema t here dir) found =
      (Assoc.putAll found.1 (ss.flatMap (schemaNames t here dir)),
        found.2 ++ ss.flatMap (unreadableSchema t here dir)) := by
  induction ss generalizing found with
  | nil => exact congrArg (Prod.mk found.1) (List.append_nil found.2).symm
  | cons s rest ih =>
      rw [List.foldl_cons, ih, addSchema, List.flatMap_cons, List.flatMap_cons,
        Assoc.putAll_append, List.append_assoc]

theorem declaredNames_eq (here : Location) (dir : Path) (w : Workspace) :
    declaredNames here dir w =
      .ok (mergedNames w.tree here dir, unreadableSchemas w.tree here dir) w := by
  have hfold : (mergedNames w.tree here dir, unreadableSchemas w.tree here dir) =
      (Discovery.schemas w.tree here dir).foldl (addSchema w.tree here dir) ([], []) := by
    rw [foldl_addSchema, List.nil_append]
    rfl
  rw [declaredNames, Action.tree_bind_eq, hfold]
  refine Runs.pure_eq_ok_iff.mpr ⟨?_, rfl⟩
  congr 1
  funext found s
  obtain ⟨names, warnings⟩ := found
  unfold addSchema schemaNames unreadableSchema
  dsimp only
  cases w.tree.readText here (dir.below s) with
  | ok source => exact congrArg (Prod.mk _) (List.append_nil warnings)
  | error fault => rfl

theorem mem_mergedNames {e : String × String} (h : e ∈ mergedNames t here dir) :
    ∃ s ∈ Discovery.schemas t here dir, e ∈ schemaNames t here dir s :=
  List.mem_flatMap.mp ((Assoc.mem_putAll h).resolve_right List.not_mem_nil)

theorem mergedNames_eq_nil_iff : mergedNames t here dir = [] ↔
    ∀ s ∈ Discovery.schemas t here dir, schemaNames t here dir s = [] := by
  rw [mergedNames, Assoc.ofList_eq_nil_iff, List.flatMap_eq_nil_iff]

theorem areFieldNames_mergedNames : FieldRename.AreFieldNames (mergedNames t here dir) := by
  intro e he
  obtain ⟨s, -, he⟩ := mem_mergedNames he
  unfold schemaNames at he
  split at he
  · exact FieldRename.areFieldNames_ofSchema _ e he
  · exact absurd he List.not_mem_nil

end ConnectClients.Generation
