import ConnectClients.Proofs.Files.Touch

/-!
# Files that are put and taken away

A planted file is there with all directories above it, whatever was there before, and
nothing else changes. A file that is removed is gone if its path leads to it.
-/

namespace ConnectClients

open Location (start resolve)

namespace Location

theorem mem_upward {d l : Location} : d ∈ l.upward ↔ d <+: l := by
  rw [upward, List.mem_map]
  constructor
  · rintro ⟨n, -, rfl⟩
    exact List.take_prefix n l
  · intro h
    refine ⟨d.length, ?_, (List.prefix_iff_eq_take.mp h).symm⟩
    have hle := h.length_le
    simp only [List.mem_reverse, List.mem_range]
    omega

theorem mem_drop_upward {d l : Location} : d ∈ l.upward.drop 1 ↔ FileTree.isBelow d l = true := by
  have hupward : l.upward.drop 1 = (List.range l.length).reverse.map fun n => l.take n := by
    rw [upward, List.range_succ, List.reverse_append, List.reverse_singleton, List.singleton_append,
      List.map_cons, List.drop_succ_cons, List.drop_zero]
  rw [hupward, List.mem_map, FileTree.isBelow_iff]
  constructor
  · rintro ⟨n, hn, rfl⟩
    have hlt : n < l.length := by simpa using hn
    refine ⟨List.take_prefix n l, fun heq => ?_⟩
    have hlength := congrArg List.length heq
    rw [List.length_take] at hlength
    omega
  · rintro ⟨hle, hne⟩
    refine ⟨d.length, ?_, (List.prefix_iff_eq_take.mp hle).symm⟩
    have hlength := hle.length_le
    have hlt : d.length ≠ l.length := fun heq => hne (hle.eq_of_length heq).symm
    simp only [List.mem_reverse, List.mem_range]
    omega

end Location

namespace FileTree

variable {t : FileTree} {l d : Location} {octets : List UInt8}

theorem get?_foldl_directories (ds : List Location) (t : FileTree) (l : Location) :
    (ds.foldl (fun t d => if d = [] then t else t.put d .directory) t).get? l =
      if l ∈ ds then some .directory else t.get? l := by
  induction ds generalizing t with
  | nil => simp
  | cons d rest ih =>
      rw [List.foldl_cons, ih]
      by_cases hrest : l ∈ rest
      · simp [hrest]
      · by_cases hd : l = d
        · subst hd
          by_cases hnil : l = []
          · simp [hnil, get?_nil]
          · simp [hnil, get?_put_self hnil]
        · have hput : (if d = [] then t else t.put d .directory).get? l = t.get? l := by
            split
            · rfl
            · exact get?_put_of_ne hd _ t
          simp [hrest, hd, hput]

theorem get?_plant_above (h : isBelow d l = true) (octets : List UInt8) (t : FileTree) :
    (t.plant l octets).get? d = some .directory := by
  have hne : d ≠ l := fun heq => (isBelow_iff.mp h).2 heq.symm
  rw [plant, get?_put_of_ne hne, get?_foldl_directories, if_pos (Location.mem_drop_upward.mpr h)]

theorem get?_plant_of_not (h : ¬ d <+: l) (octets : List UInt8) (t : FileTree) :
    (t.plant l octets).get? d = t.get? d := by
  have hne : d ≠ l := by
    rintro rfl
    exact h (List.prefix_refl d)
  have hbelow : ¬ d ∈ l.upward.drop 1 :=
    fun hmem => h (isBelow_iff.mp (Location.mem_drop_upward.mp hmem)).1
  rw [plant, get?_put_of_ne hne, get?_foldl_directories, if_neg hbelow]

theorem get?_plant_self (h : l ≠ []) (octets : List UInt8) (t : FileTree) :
    (t.plant l octets).get? l = some (.file octets) := by
  rw [plant, get?_put_self h]

/-- What planting does to a location depends on nothing but what is there. -/
theorem plant_congr {t' : FileTree} (h : t.get? d = t'.get? d) :
    (t.plant l octets).get? d = (t'.plant l octets).get? d := by
  by_cases hself : d = l
  · subst hself
    by_cases hroot : d = []
    · rw [hroot, get?_nil, get?_nil]
    · rw [get?_plant_self hroot, get?_plant_self hroot]
  · by_cases hlead : d <+: l
    · have hbelow := isBelow_iff.mpr ⟨hlead, Ne.symm hself⟩
      rw [get?_plant_above hbelow, get?_plant_above hbelow]
    · rw [get?_plant_of_not hlead, get?_plant_of_not hlead, h]

/-- A planted file takes no directory away but one at its own location. -/
theorem plant_directory (hd : t.get? d = some .directory) (hne : d ≠ l) (octets : List UInt8) :
    (t.plant l octets).get? d = some .directory := by
  by_cases hle : d <+: l
  · exact get?_plant_above (isBelow_iff.mpr ⟨hle, hne.symm⟩) octets t
  · rw [get?_plant_of_not hle, hd]

/-- A planted file is the only file that planting adds. -/
theorem plant_no_file (hno : ∀ found, t.get? d ≠ some (.file found)) (hne : d ≠ l)
    (found : List UInt8) : (t.plant l octets).get? d ≠ some (.file found) := by
  by_cases hle : d <+: l
  · rw [get?_plant_above (isBelow_iff.mpr ⟨hle, hne.symm⟩)]
    simp
  · rw [get?_plant_of_not hle]
    exact hno found

namespace Operation

open Runs

variable {here : Location} {p : Path}

theorem locate_ends (here : Location) (p : Path) (t : FileTree) :
    Ends (locate here p) t (fun t' => t' = t ∧ ¬ t.Passes (start here p) p.segments)
      fun l t' => l = resolve here p ∧ t' = t := by
  refine ⟨fun h => (locate_eq_ok_iff.mp h).2, fun h => ?_⟩
  rw [locate_run] at h
  cases hlocate : t.locate here p with
  | ok l =>
      rw [hlocate] at h
      cases h
  | error fault =>
      rw [hlocate] at h
      cases h
      exact ⟨rfl, FileTree.not_passes_of_locate hlocate⟩

/-- What is left when a file is removed. Nothing changes if the path does not lead to a
file. -/
def Removed (here : Location) (p : Path) (t t' : FileTree) : Prop :=
  t' = t.erase (resolve here p) ∨ (t' = t ∧ (t.Passes (start here p) p.segments →
    ∀ found, t.get? (resolve here p) ≠ some (.file found)))

theorem removeFile_ends (here : Location) (p : Path) (t : FileTree) :
    Ends (removeFile here p) t (Removed here p t) fun _ => Removed here p t := by
  rw [removeFile]
  refine Ends.bind (Ends.tryCatch (?_ : Ends _ t (Removed here p t) fun _ => Removed here p t) ?_) ?_
  · apply Ends.bind ((locate_ends here p t).mono ?_ fun _ _ h => h)
    · rintro _ t ⟨rfl, rfl⟩
      apply ends_get_bind
      cases hget : t.get? (resolve here p) with
      | none => exact ends_of_ok rfl (Or.inr ⟨rfl, by simp [hget]⟩)
      | some item =>
          cases item with
          | directory => exact ends_of_error rfl (Or.inr ⟨rfl, by simp [hget]⟩)
          | file octets => exact ends_of_ok rfl (Or.inl rfl)
    · rintro _ ⟨rfl, hno⟩
      exact Or.inr ⟨rfl, fun hpasses => absurd hpasses hno⟩
  · intro fault t' h
    split
    · exact ends_of_ok rfl h
    · exact ends_of_error rfl h
  · intro early t' h
    cases early with
    | ok r => exact ends_pure h
    | error r => exact ends_pure h

theorem removeFile_of_file {t : FileTree} (hpasses : t.Passes (start here p) p.segments)
    {octets : List UInt8} (hfile : t.get? (resolve here p) = some (.file octets)) :
    removeFile here p t = .ok () (t.erase (resolve here p)) := by
  have hlocate : locate here p t = .ok (resolve here p) t := locate_eq_ok_iff.mpr ⟨hpasses, rfl, rfl⟩
  simp only [removeFile, bind, EStateM.bind, tryCatch, tryCatchThe, MonadExceptOf.tryCatch,
    tryCatch_run, hlocate, get, getThe, MonadStateOf.get, get_run, hfile]
  rfl

/-- No file is left where a path leads that passes, or where no file was. -/
theorem Removed.no_file {t t' : FileTree} (h : Removed here p t t')
    (hbefore : t.Passes (start here p) p.segments ∨
      ∀ found, t.get? (resolve here p) ≠ some (.file found)) (found : List UInt8) :
    t'.get? (resolve here p) ≠ some (.file found) := by
  rcases h with rfl | ⟨rfl, hno⟩
  · by_cases hroot : resolve here p = []
    · rw [hroot, get?_nil]
      simp
    · rw [get?_erase_self hroot]
      simp
  · rcases hbefore with hpasses | hnone
    · exact hno hpasses found
    · exact hnone found

end Operation

end FileTree

end ConnectClients
