import Mathlib.Data.List.Basic
import Mathlib.Data.List.Perm.Basic
import ConnectClients.Generation
import ConnectClients.Proofs.ClientModule.Names
import ConnectClients.Proofs.Output

/-!
# Which services get a client

Every service is kept, repeated or rejected. A service that the lists let pass is kept if
it is the first of its client name, and repeated otherwise. The clients that are written
are those of the kept services, in their order, and there is one warning for each
repeated service.
-/

namespace ConnectClients

open Runs
open Location (resolve)

/-- The entry of the client of a service. -/
def Service.client (s : Service) : ClientEntry := ClientEntry.ofService s.serviceName

/-- Whether the lists of a request let a service pass. -/
def Request.accepts (r : Request) (s : Service) : Bool :=
  match ServiceFilter.generates s.serviceName r.include? r.exclude? with
  | .ok passes => passes
  | .error _ => false

/-- The file of the client of a service, by its name in the services directory. -/
def Request.clientFile (r : Request) (s : Service) : String × String :=
  (s.client.fileName, ClientModule.render s.client.name s r.moduleName)

namespace Generation

/-- How services are told apart if some client names are taken. -/
structure Accounts (r : Request) (taken : List String)
    (services kept repeated rejected : List Service) : Prop where
  once : (kept ++ (repeated ++ rejected)).Perm services
  order : kept.Sublist services
  first : ∀ s ∈ kept, services.find? (fun other =>
    r.accepts other && other.client.camelName == s.client.camelName) = some s
  fresh : ∀ s ∈ kept, s.client.camelName ∉ taken
  distinct : (kept.map fun s => s.client.camelName).Nodup
  repeats : ∀ s ∈ repeated, r.accepts s = true ∧
    s.client.camelName ∈ taken ++ kept.map fun k => k.client.camelName
  rejects : ∀ s ∈ rejected,
    ServiceFilter.generates s.serviceName r.include? r.exclude? = .ok false

variable {r : Request} {taken : List String} {s : Service}
  {services kept repeated rejected : List Service}

theorem accounts_nil : Accounts r taken [] [] [] [] where
  once := List.Perm.refl _
  order := List.Sublist.refl _
  first _ hs := absurd hs List.not_mem_nil
  fresh _ hs := absurd hs List.not_mem_nil
  distinct := List.nodup_nil
  repeats _ hs := absurd hs List.not_mem_nil
  rejects _ hs := absurd hs List.not_mem_nil

theorem Accounts.reject (h : Accounts r taken services kept repeated rejected)
    (hs : ServiceFilter.generates s.serviceName r.include? r.exclude? = .ok false) :
    Accounts r taken (s :: services) kept repeated (s :: rejected) where
  once := by
    rw [← List.append_assoc]
    refine List.perm_middle.trans (List.Perm.cons s ?_)
    rw [List.append_assoc]
    exact h.once
  order := h.order.cons s
  first k hk := by
    have haccepts : r.accepts s = false := by rw [Request.accepts, hs]
    rw [List.find?_cons_of_neg (by simp [haccepts])]
    exact h.first k hk
  fresh := h.fresh
  distinct := h.distinct
  repeats := h.repeats
  rejects := List.forall_mem_cons.mpr ⟨hs, h.rejects⟩

theorem Accounts.repeat (h : Accounts r taken services kept repeated rejected)
    (hs : r.accepts s = true) (htaken : s.client.camelName ∈ taken) :
    Accounts r taken (s :: services) kept (s :: repeated) rejected where
  once := List.perm_middle.trans (List.Perm.cons s h.once)
  order := h.order.cons s
  first k hk := by
    have hne : s.client.camelName ≠ k.client.camelName := by
      intro heq
      exact h.fresh k hk (heq ▸ htaken)
    rw [List.find?_cons_of_neg (by simp [hne])]
    exact h.first k hk
  fresh := h.fresh
  distinct := h.distinct
  repeats := List.forall_mem_cons.mpr ⟨⟨hs, List.mem_append_left _ htaken⟩, h.repeats⟩
  rejects := h.rejects

theorem Accounts.keep
    (h : Accounts r (taken ++ [s.client.camelName]) services kept repeated rejected)
    (hs : r.accepts s = true) (hfresh : s.client.camelName ∉ taken) :
    Accounts r taken (s :: services) (s :: kept) repeated rejected where
  once := List.Perm.cons s h.once
  order := h.order.cons_cons s
  first k hk := by
    rcases List.mem_cons.mp hk with rfl | hk
    · exact List.find?_cons_of_pos (by simp [hs])
    · have hne : s.client.camelName ≠ k.client.camelName := by
        intro heq
        exact h.fresh k hk (by simp [heq])
      rw [List.find?_cons_of_neg (by simp [hne])]
      exact h.first k hk
  fresh := by
    refine List.forall_mem_cons.mpr ⟨hfresh, fun k hk hmem => ?_⟩
    exact h.fresh k hk (List.mem_append_left _ hmem)
  distinct := by
    rw [List.map_cons, List.nodup_cons]
    refine ⟨?_, h.distinct⟩
    intro hmem
    obtain ⟨k, hk, heq⟩ := List.mem_map.mp hmem
    exact h.fresh k hk (by simp [heq])
  repeats k hk := by
    obtain ⟨haccepts, hmem⟩ := h.repeats k hk
    rw [List.append_assoc] at hmem
    exact ⟨haccepts, hmem⟩
  rejects := h.rejects

/-! ## Writing clients -/

/-- The warning about a service whose client name is taken. -/
def repeatWarning (s : Service) : String :=
  "Skipped " ++ s.serviceName ++ ": client name " ++ s.client.camelName ++ " already generated"

/-- The client name of an entry is taken exactly if it is among the names that are written. -/
theorem any_camelName_iff {written : List ClientEntry} {name : String} :
    (written.any fun e => e.camelName == name) = true ↔ name ∈ written.map ClientEntry.camelName := by
  simp [List.any_eq_true, List.mem_map]

/-- What becomes of the first service, if writing clients succeeds. It is rejected, or its client
name is taken, or its client is written and takes the name. -/
theorem writeClients_cons_of_ok {here : Location} {rest : List Service}
    {written entries : List ClientEntry} {warnings told : List String} {w w' : Workspace}
    (h : writeClients here r (s :: rest) written warnings w = .ok (entries, told) w') :
    (ServiceFilter.generates s.serviceName r.include? r.exclude? = .ok false ∧
      ∃ w₁, w₁.tree = w.tree ∧
        writeClients here r rest written warnings w₁ = .ok (entries, told) w') ∨
    (r.accepts s = true ∧ s.client.camelName ∈ written.map ClientEntry.camelName ∧
      writeClients here r rest written (warnings ++ [repeatWarning s]) w =
        .ok (entries, told) w') ∨
    (r.accepts s = true ∧ s.client.camelName ∉ written.map ClientEntry.camelName ∧
      ∃ path w₁, Output.writeClient here r.servicesDir s.client
          (ClientModule.render s.client.name s r.moduleName) w = .ok path w₁ ∧
        writeClients here r rest (written ++ [s.client]) warnings w₁ =
          .ok (entries, told) w') := by
  rw [writeClients, bind_eq_ok_iff] at h
  obtain ⟨passes, w₁, hfilter, h⟩ := h
  obtain ⟨hgenerates, rfl⟩ := Action.ofExcept_eq_ok_iff.mp hfilter
  cases passes with
  | false =>
      obtain ⟨_, w₂, hrecord, h⟩ := bind_eq_ok_iff.mp h
      obtain rfl := Action.record_eq_ok_iff.mp hrecord
      refine Or.inl ⟨hgenerates, _, ?_, h⟩
      rfl
  | true =>
      have haccepts : r.accepts s = true := by rw [Request.accepts, hgenerates]
      simp only [Bool.not_true, Bool.false_eq_true, if_false] at h
      split at h
      · rename_i hany
        exact Or.inr (Or.inl ⟨haccepts, any_camelName_iff.mp hany, h⟩)
      · rename_i hany
        obtain ⟨path, w₂, hwrite, h⟩ := bind_eq_ok_iff.mp h
        exact Or.inr (Or.inr ⟨haccepts, mt any_camelName_iff.mpr hany, path, w₂, hwrite, h⟩)

/-- A run over services writes the clients of the kept ones and warns of the repeated
ones, and of these only. -/
theorem writeClients_of_ok {here : Location} {written entries : List ClientEntry}
    {warnings told : List String} {w w' : Workspace}
    (hnames : ∀ s ∈ services, Path.IsName s.client.fileName)
    (h : writeClients here r services written warnings w = .ok (entries, told) w') :
    ∃ kept repeated rejected,
      Accounts r (written.map ClientEntry.camelName) services kept repeated rejected ∧
      entries = written ++ kept.map Service.client ∧
      told = warnings ++ repeated.map repeatWarning ∧
      w'.tree = w.tree.putFiles (resolve here r.servicesDir) (kept.map r.clientFile) := by
  induction services generalizing written warnings w with
  | nil =>
      obtain ⟨hpair, rfl⟩ := pure_eq_ok_iff.mp h
      rw [Prod.mk.injEq] at hpair
      obtain ⟨rfl, rfl⟩ := hpair
      exact ⟨[], [], [], accounts_nil, by simp, by simp, rfl⟩
  | cons s rest ih =>
      have hrest : ∀ s' ∈ rest, Path.IsName s'.client.fileName :=
        fun s' hs' => hnames s' (List.mem_cons_of_mem _ hs')
      rcases writeClients_cons_of_ok h with ⟨hgenerates, w₁, hsame, h⟩ |
        ⟨haccepts, htaken, h⟩ | ⟨haccepts, hfresh, path, w₁, hwrite, h⟩
      · -- the service is rejected, and nothing changes for those behind it
        obtain ⟨kept, repeated, rejected, haccounts, hentries, htold, htree⟩ := ih hrest h
        rw [hsame] at htree
        exact ⟨kept, repeated, s :: rejected, haccounts.reject hgenerates, hentries, htold, htree⟩
      · obtain ⟨kept, repeated, rejected, haccounts, hentries, htold, htree⟩ := ih hrest h
        refine ⟨kept, s :: repeated, rejected, haccounts.repeat haccepts htaken, hentries, ?_, htree⟩
        rw [htold, List.append_assoc]
        rfl
      · -- its name is new, and counts as taken from here on
        obtain ⟨-, hput⟩ := Output.writeInto_of_ok (hnames s List.mem_cons_self) hwrite
        obtain ⟨kept, repeated, rejected, haccounts, hentries, htold, htree⟩ := ih hrest h
        rw [List.map_append, List.map_singleton] at haccounts
        refine ⟨s :: kept, repeated, rejected, haccounts.keep haccepts hfresh, ?_, htold, ?_⟩
        · rw [hentries, List.append_assoc]
          rfl
        · rw [htree, hput]
          rfl

/-- Writing clients makes no directory, and takes none away. -/
theorem writeClients_directory_iff {here : Location} {written entries : List ClientEntry}
    {warnings told : List String} {w w' : Workspace}
    (hnames : ∀ s ∈ services, Path.IsName s.client.fileName)
    (h : writeClients here r services written warnings w = .ok (entries, told) w') (l : Location) :
    w'.tree.get? l = some .directory ↔ w.tree.get? l = some .directory := by
  induction services generalizing written warnings w with
  | nil =>
      obtain ⟨-, rfl⟩ := pure_eq_ok_iff.mp h
      rfl
  | cons s rest ih =>
      have hrest : ∀ s' ∈ rest, Path.IsName s'.client.fileName :=
        fun s' hs' => hnames s' (List.mem_cons_of_mem _ hs')
      rcases writeClients_cons_of_ok h with ⟨-, w₁, hsame, h⟩ | ⟨-, -, h⟩ |
        ⟨-, -, path, w₁, hwrite, h⟩
      · rw [ih hrest h, hsame]
      · exact ih hrest h
      · exact (ih hrest h).trans
          (Output.writeInto_directory_iff (hnames s List.mem_cons_self) hwrite l)

end Generation

end ConnectClients
