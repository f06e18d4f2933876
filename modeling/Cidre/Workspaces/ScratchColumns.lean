/-
  Cidre.Workspaces.ScratchColumns

  Scratch columns (`src/niri.rs`, `toggle_scratch_column`): a workspace of its own is
  shown and put away again by name, and where it was shown from is remembered.

  A toggle that fails leaves everything as it was, but for one case: where the workspace
  to go back to is gone, the scratch column is forgotten (`toggle_failed_iff`).
-/

import Cidre.Lib.Dict
import Cidre.Lib.Paired
import Cidre.Workspaces.Identity
import Cidre.Workspaces.LayoutStripOps

namespace Cidre.Workspaces

open Cidre.Counter

/-! ## Data -/

/-- `niri_config::ScratchColumn` -/
structure ScratchColumn where
  name : String
  /-- the connector of the output it opens on -/
  monitor : Option String
  closeOnFocusLoss : Option Bool
deriving DecidableEq, Repr

structure ScratchColumnRuntime where
  sourceWorkspaceId : WorkspaceId
  returnWorkspaceName : String
deriving DecidableEq, Repr

/-- What `Niri` has of scratch columns; the map is in an arbitrary order. -/
structure Niri (W : Type) where
  config : List ScratchColumn
  layout : Layout W
  scratchColumns : List (String × ScratchColumnRuntime)

namespace Niri

variable {W : Type}

/-! ## The toggle -/

def scratchWorkspaceName (name : String) : String := "__scratch_" ++ name

def scratchReturnName (name : String) : String := "__scratch_return_" ++ name

/-- Where to go back to: by the name the workspace was given, or else by its identity. -/
def sourcePlace (l : Layout W) (runtime : ScratchColumnRuntime) : Option Place :=
  (l.findWorkspaceByName runtime.returnWorkspaceName).or
    (l.findWorkspaceById runtime.sourceWorkspaceId)

/-- `focus_output` of the output that the workspace at `place` is on, if it is on one. -/
def focusOutputOf (l : Layout W) (place : Place) : Layout W :=
  match l.monitors[place.mon]? with
  | some m => l.focusOutput m.output
  | none => l

/-- The scratch workspace loses its name if it is empty. -/
def cleanUpScratch (l : Layout W) (name : String) : Counted (Layout W) :=
  match l.findWorkspaceByName (scratchWorkspaceName name) with
  | none => pure l
  | some place => do
      let ws ← bounds (l.workspaceAt place)
      applyIf (!ws.hasWindows) (fun l => l.unnameWorkspace (scratchWorkspaceName name)) l

/-- The toggle, on the scratch workspace. -/
def putAway [DecidableEq W] (c : Readings W) (s : Niri W) (name : String) :
    Counted (Niri W × Bool) :=
  match s.scratchColumns.lookup name with
  | none => pure (s, false)
  | some runtime =>
      let s := { s with scratchColumns := s.scratchColumns.filter fun p => p.1 ≠ name }
      match sourcePlace s.layout runtime with
      | none => pure (s, false)
      | some source => do
          let l := focusOutputOf s.layout source
          let l ← l.moveColumnToWorkspace c source.idx true
          let l ← l.switchWorkspace source.idx
          let l ← l.unnameWorkspace runtime.returnWorkspaceName
          let l ← cleanUpScratch l name
          return ({ s with layout := l }, true)

/-- The scratch workspace, if there is one with windows. -/
def shownScratch (l : Layout W) (name : String) : Option Place := do
  let place ← l.findWorkspaceByName (scratchWorkspaceName name)
  let ws ← l.workspaceAt place
  if ws.hasWindows then some place else none

/-- The toggle, on another workspace. -/
def bringOut [DecidableEq W] (c : Readings W) (s : Niri W) (column : ScratchColumn)
    (activeId : WorkspaceId) : Counted (Niri W × Bool) := do
  let name := column.name
  let runtime : ScratchColumnRuntime := ⟨activeId, scratchReturnName name⟩
  -- The workspace that is left is to survive the cleaning up.
  let l ← s.layout.setWorkspaceName (scratchReturnName name) none
  let shown := { s with scratchColumns := Dict.set s.scratchColumns name runtime }
  match shownScratch l name with
  | some place => do
      let l ← (focusOutputOf l place).switchWorkspace place.idx
      return ({ shown with layout := l }, true)
  | none => do
      let (l, idx) ← l.ensureNamedWorkspaceOnMonitor (scratchWorkspaceName name) column.monitor
      match idx with
      | none => return ({ s with layout := l }, false)
      | some idx => do
          let l ← l.moveColumnToWorkspace c idx true
          return ({ shown with layout := l }, true)

def toggleScratchColumn [DecidableEq W] (c : Readings W) (s : Niri W) (name : String) :
    Counted (Niri W × Bool) :=
  match s.config.find? fun column => column.name == name with
  | none => pure (s, false)
  | some column =>
      match s.layout.activeWorkspace with
      | none => pure (s, false)
      | some active =>
          if active.name = some (scratchWorkspaceName name) then s.putAway c name
          else s.bringOut c column active.id

end Niri

/-! ## What giving a name leaves -/

variable {W : Type} {p : Workspace W → Bool}

/-- The monitor has the workspaces with `p` that it had. -/
structure Monitor.Spares (p : Workspace W → Bool) (m m' : Monitor W) : Prop where
  output_eq : m'.output = m.output
  filter_eq : m'.workspaces.filter p = m.workspaces.filter p
  ne_nil : m.workspaces ≠ [] → m'.workspaces ≠ []

namespace Monitor.Spares

variable {m m₁ m' : Monitor W}

theorem refl (p : Workspace W → Bool) (m : Monitor W) : Spares p m m := ⟨rfl, rfl, id⟩

theorem trans (h : Spares p m m₁) (h' : Spares p m₁ m') : Spares p m m' :=
  ⟨h'.output_eq.trans h.output_eq, h'.filter_eq.trans h.filter_eq, fun hne => h'.ne_nil (h.ne_nil hne)⟩

end Monitor.Spares

theorem filter_insertIdx_of_neg {α : Type} {q : α → Bool} {a : α} (ha : q a = false) (l : List α)
    (i : Nat) : (l.insertIdx i a).filter q = l.filter q := by
  induction l generalizing i with
  | nil =>
    cases i with
    | zero => simp [ha]
    | succ i => rfl
  | cons b l ih =>
    cases i with
    | zero => simp [ha]
    | succ i => simp [List.filter_cons, ih]

theorem filter_set_of_neg {α : Type} {q : α → Bool} {l : List α} {i : Nat} {a b : α}
    (hget : l[i]? = some a) (ha : q a = false) (hb : q b = false) :
    (l.set i b).filter q = l.filter q := by
  induction l generalizing i with
  | nil => rfl
  | cons c l ih =>
    cases i with
    | zero =>
      obtain rfl : c = a := Option.some.inj hget
      simp [ha, hb]
    | succ i => simp [List.filter_cons, ih hget]

theorem Monitor.addWorkspaceAt_spares (hp : ∀ output id, p (Workspace.new output id) = false)
    (m : Monitor W) (idx n : Nat) :
    Yields (m.addWorkspaceAt idx) n fun m' _ => Spares p m m' := by
  refine yields_fresh_bind (yields_bounds_bind fun workspaces hinsert => yields_pure ?_)
  unfold Panic.Vec.insert at hinsert
  obtain ⟨hle, heq⟩ := Option.ite_none_right_eq_some.mp hinsert
  obtain rfl := Option.some.inj heq
  refine ⟨rfl, filter_insertIdx_of_neg (hp _ _) _ _, fun _ hnil => ?_⟩
  have hlen := congrArg List.length hnil
  rw [List.length_insertIdx_of_le_length hle] at hlen
  cases hlen

theorem Monitor.setWorkspace_spares {m : Monitor W} {idx : Nat} {ws ws' : Workspace W}
    (hget : m.workspaces[idx]? = some ws) (hws : p ws = false) (hws' : p ws' = false) :
    Spares p m (m.setWorkspace idx ws') where
  output_eq := rfl
  filter_eq := filter_set_of_neg hget hws hws'
  ne_nil hne hnil := by
    have hlen := congrArg List.length hnil
    rw [setWorkspace, List.length_set] at hlen
    exact hne (List.eq_nil_of_length_eq_zero hlen)

namespace Layout

theorem surroundNamed_spares (hp : ∀ output id, p (Workspace.new output id) = false)
    (id : WorkspaceId) (m : Monitor W) (n : Nat) :
    Yields (surroundNamed id m) n fun m' _ => Monitor.Spares p m m' := by
  refine (yields_applyIf (m.addWorkspaceAt_spares hp 0 n) (.refl p m)).bind fun m₁ n₁ h₁ => ?_
  refine yields_applyIf ?_ h₁
  exact (m₁.addWorkspaceAt_spares hp _ n₁).mono fun m₂ _ h₂ => h₁.trans h₂

/-- The layout has the workspaces with `p` that it had, on the outputs they were on. -/
structure Spares (p : Workspace W → Bool) (l l' : Layout W) : Prop where
  monitors : List.Forall₂ (Monitor.Spares p) l.monitors l'.monitors
  connected : ∀ monitors primary active, l.monitorSet = .normal monitors primary active →
    l'.monitorSet = .normal l'.monitors primary active

variable {l l₁ l' : Layout W}

theorem Spares.refl (p : Workspace W → Bool) (l : Layout W) : Spares p l l where
  monitors := List.forall₂_same.mpr fun m _ => .refl p m
  connected _ _ _ h := by rw [Layout.monitors, h]

theorem Spares.trans (h : Spares p l l₁) (h' : Spares p l₁ l') : Spares p l l' where
  monitors := by
    refine (Paired.trans h.monitors h'.monitors).imp ?_
    rintro m m' ⟨m₁, h₁, h₂⟩
    exact h₁.trans h₂
  connected _ _ _ hset := h'.connected _ _ _ (h.connected _ _ _ hset)

theorem onMonitor_spares {idx : Nat} {f : Monitor W → Counted (Monitor W)} {n : Nat}
    (hf : ∀ m, l.monitors[idx]? = some m → Yields (f m) n fun m' _ => Monitor.Spares p m m') :
    Yields (l.onMonitor idx f) n fun l' _ => Spares p l l' := by
  unfold onMonitor
  cases hset : l.monitorSet with
  | noOutputs workspaces => exact yields_pure (.refl p l)
  | normal monitors primary active =>
    have hmonitors : l.monitors = monitors := by rw [Layout.monitors, hset]
    refine yields_bounds_bind fun m hget => ?_
    refine (hf m (hmonitors.symm ▸ hget)).bind fun m' _ h => yields_pure ⟨?_, ?_⟩
    · rw [hmonitors]
      exact Paired.set (.refl p) hget h
    · intro monitors' primary' active' hset'
      cases hset.symm.trans hset'
      rfl

/-- The active workspace gets the name, if no workspace has it. -/
theorem setWorkspaceName_spares (hp : ∀ output id, p (Workspace.new output id) = false)
    {name : String} {ws : Workspace W} (hactive : l.activeWorkspace = some ws)
    (hws : p ws = false) (hnamed : p (ws.rename name) = false) (n : Nat) :
    Yields (l.setWorkspaceName name none) n fun l' _ => Spares p l l' := by
  refine yields_early (.refl p l) fun _ => ?_
  obtain ⟨m, hm, hget⟩ := Option.bind_eq_some_iff.mp hactive
  cases hset : l.monitorSet with
  | noOutputs workspaces =>
    rw [activeMonitor, hset] at hm
    cases hm
  | normal monitors primary active =>
    rw [activeMonitor, hset] at hm
    have hplace : l.findWorkspace none = some ⟨active, m.activeWorkspaceIdx⟩ := by
      rw [findWorkspace, activePlace, hset]
      simp [hm]
    have hmonitors : l.monitors = monitors := by rw [Layout.monitors, hset]
    have hws' : l.workspaceAt ⟨active, m.activeWorkspaceIdx⟩ = some ws := by
      rw [workspaceAt, strips, hset]
      simp [hm, hget]
    rw [hplace]
    dsimp only
    rw [hws']
    have hset' : ∀ n, Yields (l.setWorkspaceAt ⟨active, m.activeWorkspaceIdx⟩ (ws.rename name)) n
        fun l' _ => Spares p l l' := by
      intro n
      rw [setWorkspaceAt, hset]
      refine onMonitor_spares fun m' hm' => yields_pure ?_
      obtain rfl : m = m' := Option.some.inj (hm.symm.trans (hmonitors ▸ hm'))
      exact Monitor.setWorkspace_spares hget hws hnamed
    refine yields_bounds_bind fun ws₁ hws₁ => ?_
    obtain rfl := Option.some.inj hws₁
    refine (hset' n).bind fun l₁ n₁ h₁ => ?_
    unfold onActiveMonitor
    rw [h₁.connected _ _ _ hset]
    refine (onMonitor_spares fun m' _ => surroundNamed_spares hp ws.id m' n₁).mono ?_
    exact fun l₂ _ h₂ => h₁.trans h₂

end Layout

/-! ## Failure -/

namespace Niri

/-- Where every monitor has a workspace, a named one can be had. -/
theorem ensureNamedWorkspaceOnMonitor_some {l : Layout W} {monitors : List (Monitor W)}
    {primary active : Nat} (hset : l.monitorSet = .normal monitors primary active)
    (hne : ∀ m ∈ monitors, m.workspaces ≠ []) (name : String) (outputName : Option String)
    (n : Nat) :
    Yields (l.ensureNamedWorkspaceOnMonitor name outputName) n fun q _ => q.2.isSome = true := by
  unfold Layout.ensureNamedWorkspaceOnMonitor
  cases l.findWorkspaceByName name with
  | some place => exact yields_pure rfl
  | none =>
    simp only [hset, Layout.nameLastOn]
    refine yields_bounds_bind fun m hget => ?_
    have hlast : ∀ n, Yields (Layout.nameLast name m) n fun q _ => q.2.isSome = true := by
      intro n
      unfold Layout.nameLast
      rw [if_neg (hne m (List.mem_of_getElem? hget))]
      refine yields_bind fun ws n₁ => yields_bind fun m₁ n₂ => yields_bind fun ws₁ n₃ => ?_
      exact yields_bind fun m₂ n₄ => yields_bind fun m₃ n₅ => yields_pure rfl
    exact (hlast n).bind fun q n₁ hsome => yields_pure hsome

variable [DecidableEq W] {s : Niri W}

/-- The scratch column is shown, and the workspace it was shown from is gone. -/
def SourceLost (s : Niri W) (name : String) : Prop :=
  (s.config.find? fun column => column.name == name).isSome = true ∧
    s.layout.activeWorkspace.bind Workspace.name = some (scratchWorkspaceName name) ∧
    (s.scratchColumns.lookup name).any (fun runtime => (sourcePlace s.layout runtime).isNone) = true

instance (s : Niri W) (name : String) : Decidable (s.SourceLost name) :=
  inferInstanceAs (Decidable (_ ∧ _ ∧ _))

/-- An entry is lost where its workspace is, and otherwise nothing is done. -/
theorem putAway_failed_iff (c : Readings W) (s : Niri W) (name : String) (n : Nat) :
    Yields (s.putAway c name) n (fun q _ => q.2 = false → q.1 = s) ↔
      ¬(s.scratchColumns.lookup name).any
        (fun runtime => (sourcePlace s.layout runtime).isNone) = true := by
  unfold putAway
  cases hlookup : s.scratchColumns.lookup name with
  | none =>
    refine iff_of_true (yields_pure fun _ => rfl) ?_
    simp
  | some runtime =>
    dsimp only
    cases hsource : sourcePlace s.layout runtime with
    | none =>
      refine iff_of_false (fun h => ?_) ?_
      · have hsame := h _ n rfl rfl
        have hkept : s.scratchColumns.filter (fun p => p.1 ≠ name) = s.scratchColumns :=
          congrArg Niri.scratchColumns hsame
        have hmem := Dict.mem_of_lookup hlookup
        rw [← hkept] at hmem
        simpa using List.of_mem_filter hmem
      · simp [hsource]
    | some source =>
      refine iff_of_true ?_ ?_
      · refine yields_bind fun l₁ n₁ => yields_bind fun l₂ n₂ => yields_bind fun l₃ n₃ => ?_
        exact yields_bind fun l₄ n₄ => yields_pure fun hfalse => Bool.noConfusion hfalse
      · simp [hsource]

theorem bringOut_succeeds (c : Readings W) (hne : ∀ m ∈ s.layout.monitors, m.workspaces ≠ [])
    {active : Workspace W} (hactive : s.layout.activeWorkspace = some active)
    (column : ScratchColumn) (n : Nat) :
    Yields (s.bringOut c column active.id) n fun q _ => q.2 = true := by
  obtain ⟨m, hm, -⟩ := Option.bind_eq_some_iff.mp hactive
  cases hset : s.layout.monitorSet with
  | noOutputs workspaces =>
    rw [Layout.activeMonitor, hset] at hm
    cases hm
  | normal monitors primary activeIdx =>
    unfold bringOut
    have hspares : Yields (s.layout.setWorkspaceName (scratchReturnName column.name) none) n
        fun l _ => Layout.Spares (fun _ => false) s.layout l :=
      Layout.setWorkspaceName_spares (fun _ _ => rfl) hactive rfl rfl n
    refine hspares.bind fun l n₁ h₁ => ?_
    have hset₁ := h₁.connected _ _ _ hset
    have hne₁ : ∀ m ∈ l.monitors, m.workspaces ≠ [] := by
      intro m' hm'
      obtain ⟨m, hm, h⟩ := Paired.exists_left h₁.monitors hm'
      exact h.ne_nil (hne m hm)
    dsimp only
    split
    · exact yields_bind fun l₂ n₂ => yields_pure rfl
    · refine (ensureNamedWorkspaceOnMonitor_some hset₁ hne₁ _ _ n₁).bind ?_
      rintro ⟨l₂, idx⟩ n₂ hidx
      obtain ⟨idx, rfl⟩ := Option.isSome_iff_exists.mp hidx
      exact yields_bind fun l₃ n₃ => yields_pure rfl

/-- A toggle that fails changes nothing if and only if the source is not lost.  Every
    monitor has a workspace (`verify_invariants`). -/
theorem toggle_failed_iff (c : Readings W) (s : Niri W) (name : String) (n : Nat)
    (hne : ∀ m ∈ s.layout.monitors, m.workspaces ≠ []) :
    Yields (s.toggleScratchColumn c name) n (fun q _ => q.2 = false → q.1 = s) ↔
      ¬s.SourceLost name := by
  unfold toggleScratchColumn SourceLost
  cases hconfig : s.config.find? fun column => column.name == name with
  | none => exact iff_of_true (yields_pure fun _ => rfl) (by simp)
  | some column =>
    dsimp only
    cases hactive : s.layout.activeWorkspace with
    | none => exact iff_of_true (yields_pure fun _ => rfl) (by simp)
    | some active =>
      by_cases hscratch : active.name = some (scratchWorkspaceName name)
      · simp only [hscratch, if_true, Option.isSome_some, Option.bind_some, true_and]
        exact putAway_failed_iff c s name n
      · refine iff_of_true ?_ (by simp [hscratch])
        simp only [hscratch, if_false]
        refine (bringOut_succeeds c hne hactive column n).mono fun q _ htrue hfalse => ?_
        rw [htrue] at hfalse
        cases hfalse

/-- A scratch workspace is shown, and the only other one is neither the source nor named. -/
def leftAlone (scratchColumns : List (String × ScratchColumnRuntime)) : Niri Nat where
  config := [⟨"term", none, some true⟩]
  layout :=
    { monitorSet := .normal
        [{ output := Layout.plainOutput 0 "A"
           workspaces := [⟨1, some "__scratch_term", "A", [7]⟩, ⟨2, none, "A", []⟩]
           activeWorkspaceIdx := 0
           previousWorkspaceId := none
           workspaceSwitch := none
           overviewOpen := false
           baseOptions := ⟨false⟩
           options := ⟨false⟩
           layoutConfig := none }] 0 0
      lastActiveWorkspaceId := fun _ => none
      interactiveMove := none
      dnd := none
      overviewOpen := false
      options := ⟨false⟩ }
  scratchColumns := scratchColumns

/-- Nothing is recorded of the scratch column. -/
theorem toggle_failed_unrecorded :
    Yields ((leftAlone []).toggleScratchColumn Layout.quiet "term") 3
      fun q _ => q.2 = false → q.1 = leftAlone [] :=
  (toggle_failed_iff Layout.quiet (leftAlone []) "term" 3 (by simp [leftAlone, Layout.monitors])).mpr
    (by decide)

/-- The workspace it was shown from has lost its name, and has gone with its last window. -/
def abandoned : Niri Nat := leftAlone [("term", ⟨0, "__scratch_return_term"⟩)]

theorem toggle_forgets :
    ¬ Yields (abandoned.toggleScratchColumn Layout.quiet "term") 3
      fun q _ => q.2 = false → q.1 = abandoned := by
  intro h
  have hsame := h (leftAlone [], false) 3 (by rfl) rfl
  exact absurd (congrArg Niri.scratchColumns hsame) (by decide)

end Niri

end Cidre.Workspaces
