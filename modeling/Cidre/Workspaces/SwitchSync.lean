/-
  Cidre.Workspaces.SwitchSync

  Where the switch in progress on a monitor leads, and which workspace is active.

  `add_workspace_at` moves the active index on if the new workspace comes at or above
  it, and the switch if it comes at or above where the switch is now.  An animation is
  where it leads to; a gesture is where the fingers have taken it.  The two are moved
  alike where the new workspace is on the same side of both, and only then: every other
  operation either leads the switch to the active workspace, or stops it, or leaves
  both alone.
-/

import Cidre.Workspaces.ThereAndBack

namespace Cidre.Workspaces

open Cidre.Counter

variable {W : Type}

namespace Monitor

variable {m m' : Monitor W} {n n' idx : Nat}

/-! ## In sync -/

/-- An animation leads to the active workspace, and a gesture began there. -/
def InSync (m : Monitor W) : Prop :=
  match m.workspaceSwitch with
  | none => True
  | some (.animation target) => target = m.activeWorkspaceIdx
  | some (.gesture g) => g.centerIdx = m.activeWorkspaceIdx

/-- What comes at `idx` is on the same side of the gesture as of the active workspace. -/
def Level (m : Monitor W) (idx : Nat) : Prop :=
  match m.workspaceSwitch with
  | some (.gesture g) => idx ≤ m.activeWorkspaceIdx ↔ (idx : Rat) ≤ g.currentIdx
  | _ => True

instance (m : Monitor W) (idx : Nat) : Decidable (m.Level idx) := by
  unfold Level
  split <;> infer_instance

theorem inSync_of_none (h : m.workspaceSwitch = none) : m.InSync := by
  rw [InSync, h]
  trivial

theorem inSync_congr (hactive : m'.activeWorkspaceIdx = m.activeWorkspaceIdx)
    (hswitch : m'.workspaceSwitch = m.workspaceSwitch) : m'.InSync ↔ m.InSync := by
  rw [InSync, InSync, hactive, hswitch]

/-- The switch and the active index are not changed. -/
theorem InSync.of_eq (h : m.InSync) (hswitch : m'.workspaceSwitch = m.workspaceSwitch)
    (hactive : m'.activeWorkspaceIdx = m.activeWorkspaceIdx) : m'.InSync :=
  (inSync_congr hactive hswitch).mpr h

/-! ## New workspaces -/

/-- The active index and the switch are moved on by what comes at `idx`. -/
def carry (idx : Nat) (m : Monitor W) : Monitor W :=
  { m with
    activeWorkspaceIdx :=
      if idx ≤ m.activeWorkspaceIdx then m.activeWorkspaceIdx + 1 else m.activeWorkspaceIdx
    workspaceSwitch := m.workspaceSwitch.map fun switch =>
      if (idx : Rat) ≤ switch.targetIdx then switch.offset 1 else switch }

theorem addWorkspaceAt_yields (m : Monitor W) (idx n : Nat) :
    Yields (m.addWorkspaceAt idx) n fun m' _ => m'.above = m.above ∧
      m'.activeWorkspaceIdx = (m.carry idx).activeWorkspaceIdx ∧
      m'.workspaceSwitch = (m.carry idx).workspaceSwitch :=
  yields_fresh_bind (yields_bounds_bind fun _ _ => yields_pure ⟨rfl, rfl, rfl⟩)

theorem carry_inSync_iff (h : m.InSync) (idx : Nat) : (m.carry idx).InSync ↔ m.Level idx := by
  unfold InSync at h
  unfold InSync Level carry
  rcases hm : m.workspaceSwitch with _ | (target | g)
  · simp
  · simp only [hm] at h
    subst h
    simp only [Option.map_some, WorkspaceSwitch.targetIdx, Nat.cast_le]
    by_cases hle : idx ≤ m.activeWorkspaceIdx
    · simp [hle, WorkspaceSwitch.offset]
    · simp [hle]
  · simp only [hm] at h
    simp only [Option.map_some, WorkspaceSwitch.targetIdx]
    by_cases hle : idx ≤ m.activeWorkspaceIdx
    · by_cases hle' : (idx : Rat) ≤ g.currentIdx
      · simp [hle, hle', WorkspaceSwitch.offset, h]
      · simp [hle, hle', h]
    · by_cases hle' : (idx : Rat) ≤ g.currentIdx
      · simp [hle, hle', WorkspaceSwitch.offset, h]
      · simp [hle, hle', h]

/-- What comes at the top does not make up for what came below. -/
theorem carry_top_inSync_iff (h : m.InSync) (idx : Nat) :
    ((m.carry idx).carry 0).InSync ↔ m.Level idx ∧ m.Level 0 := by
  unfold InSync at h
  unfold InSync Level carry
  rcases hm : m.workspaceSwitch with _ | (target | g)
  · simp
  · simp only [hm] at h
    subst h
    simp only [Option.map_some, WorkspaceSwitch.targetIdx, Nat.cast_le]
    by_cases hle : idx ≤ m.activeWorkspaceIdx
    · have hpos : (0 : Rat) ≤ m.activeWorkspaceIdx + 1 := by positivity
      simp [hle, WorkspaceSwitch.offset, hpos]
    · simp [hle, WorkspaceSwitch.offset]
  · simp only [hm] at h
    have hidx : (0 : Rat) ≤ idx := Nat.cast_nonneg idx
    simp only [Option.map_some, WorkspaceSwitch.targetIdx, Nat.zero_le, if_true, Nat.cast_zero,
      true_iff]
    by_cases hle' : (idx : Rat) ≤ g.currentIdx
    · have hpos : (0 : Rat) ≤ g.currentIdx + 1 := by linarith
      have hzero : (0 : Rat) ≤ g.currentIdx := by linarith
      by_cases hle : idx ≤ m.activeWorkspaceIdx
      · simp [hle, hle', hpos, hzero, WorkspaceSwitch.offset, h]
        omega
      · simp [hle, hle', hpos, WorkspaceSwitch.offset, h]
        omega
    · by_cases hle : idx ≤ m.activeWorkspaceIdx
      · by_cases hzero : (0 : Rat) ≤ g.currentIdx
        · simp [hle, hle', hzero, WorkspaceSwitch.offset, h]
        · simp [hle, hle', hzero, h]
          omega
      · by_cases hzero : (0 : Rat) ≤ g.currentIdx
        · simp [hle, hle', hzero, WorkspaceSwitch.offset, h]
        · simp [hle, hle', hzero, h]

/-- What comes at the indexes, one after the other. -/
def carryAll (idxs : List Nat) (m : Monitor W) : Monitor W := idxs.foldl (fun m i => m.carry i) m

/-- Where empty workspaces come once the one at `idx` is in use. -/
def surroundings (m : Monitor W) (idx : Nat) : List Nat :=
  (if idx == m.workspaces.length - 1 then [m.workspaces.length] else []) ++
    if m.above && idx == 0 then [0] else []

theorem addWorkspaceIf_yields (c : Bool) (idx : Nat) (m : Monitor W) (n : Nat) :
    Yields (applyIf c (fun m => m.addWorkspaceAt idx) m) n fun m' _ =>
      m'.above = m.above ∧
      m'.activeWorkspaceIdx = (m.carryAll (if c then [idx] else [])).activeWorkspaceIdx ∧
      m'.workspaceSwitch = (m.carryAll (if c then [idx] else [])).workspaceSwitch := by
  cases c with
  | false => exact yields_pure ⟨rfl, rfl, rfl⟩
  | true => exact addWorkspaceAt_yields m idx n

/-- What two monitors agree on, they still agree on after a workspace came to both. -/
theorem carryAll_congr (h : m'.activeWorkspaceIdx = m.activeWorkspaceIdx)
    (h' : m'.workspaceSwitch = m.workspaceSwitch) (idxs : List Nat) :
    (m'.carryAll idxs).activeWorkspaceIdx = (m.carryAll idxs).activeWorkspaceIdx ∧
      (m'.carryAll idxs).workspaceSwitch = (m.carryAll idxs).workspaceSwitch := by
  induction idxs generalizing m m' with
  | nil => exact ⟨h, h'⟩
  | cons i idxs ih => exact ih (by simp only [carry, h]) (by simp only [carry, h'])

/-- `surround` leaves the active index and the switch where the new workspaces take
    them. -/
theorem surround_yields (m : Monitor W) (idx n : Nat) :
    Yields (m.surround idx idx) n fun m' _ =>
      m'.activeWorkspaceIdx = (m.carryAll (m.surroundings idx)).activeWorkspaceIdx ∧
      m'.workspaceSwitch = (m.carryAll (m.surroundings idx)).workspaceSwitch := by
  refine (addWorkspaceIf_yields _ m.workspaces.length m n).bind ?_
  rintro m₁ n₁ ⟨habove, hactive, hswitch⟩
  refine (addWorkspaceIf_yields _ 0 m₁ n₁).mono ?_
  rintro m' _ ⟨_, hactive', hswitch'⟩
  rw [habove] at hactive' hswitch'
  obtain ⟨ha, hs⟩ := carryAll_congr hactive hswitch (if m.above && idx == 0 then [0] else [])
  have hsplit : m.carryAll (m.surroundings idx) = ((m.carryAll
      (if idx == m.workspaces.length - 1 then [m.workspaces.length] else [])).carryAll
      (if m.above && idx == 0 then [0] else [])) := List.foldl_append
  rw [hsplit]
  exact ⟨hactive'.trans ha, hswitch'.trans hs⟩

/-- The two stay in sync exactly where all that comes is level. -/
theorem surroundings_inSync_iff (h : m.InSync) (idx : Nat) :
    (m.carryAll (m.surroundings idx)).InSync ↔ ∀ i ∈ m.surroundings idx, m.Level i := by
  rw [surroundings]
  cases idx == m.workspaces.length - 1 <;> cases m.above && idx == 0
  · simpa [carryAll] using h
  · simpa [carryAll] using carry_inSync_iff h 0
  · simpa [carryAll] using carry_inSync_iff h m.workspaces.length
  · simpa [carryAll] using carry_top_inSync_iff h m.workspaces.length

/-! ## Switching -/

/-- Activating leads the switch to the workspace, except to the one that is active, which
    only a drag-and-drop scroll is taken back to. -/
theorem inSync_activate_iff (m : Monitor W) (idx : Nat) (previous : Option WorkspaceId) :
    InSync { m with
      activeWorkspaceIdx := idx
      previousWorkspaceId := previous
      workspaceSwitch := WorkspaceSwitch.activate m.workspaceSwitch m.activeWorkspaceIdx idx } ↔
    m.InSync ∨ m.activeWorkspaceIdx ≠ idx ∨ m.dndGesture.isSome := by
  have hanimated : InSync { m with
      activeWorkspaceIdx := idx
      previousWorkspaceId := previous
      workspaceSwitch := if m.activeWorkspaceIdx = idx then m.workspaceSwitch
        else some (.animation idx) } ↔ m.InSync ∨ m.activeWorkspaceIdx ≠ idx := by
    by_cases heq : m.activeWorkspaceIdx = idx
    · rw [or_iff_left (not_not.mpr heq)]
      exact inSync_congr heq.symm (if_pos heq)
    · rw [if_neg heq]
      exact iff_of_true rfl (Or.inr heq)
  rcases hm : m.workspaceSwitch with _ | (target | g)
  · rw [hm] at hanimated
    simpa [WorkspaceSwitch.activate, dndGesture, hm] using hanimated
  · rw [hm] at hanimated
    simpa [WorkspaceSwitch.activate, dndGesture, hm] using hanimated
  · rw [hm] at hanimated
    cases hdnd : g.dnd with
    | true => simp [WorkspaceSwitch.activate, InSync, dndGesture, hm, hdnd]
    | false => simpa [WorkspaceSwitch.activate, dndGesture, hm, hdnd] using hanimated

theorem activateWorkspace_inSync_iff (m : Monitor W) (idx n : Nat) :
    Yields (m.activateWorkspace idx) n fun m' _ =>
      (m'.InSync ↔ m.InSync ∨ m.activeWorkspaceIdx ≠ idx ∨ m.dndGesture.isSome) := by
  refine (rememberActive_yields m idx n).bind ?_
  rintro _ _ ⟨previous, rfl⟩
  exact yields_pure (inSync_activate_iff m idx previous)

section

variable (c : Contents W) (h : m.InSync)
include h

theorem activateWorkspace_inSync (idx n : Nat) :
    Yields (m.activateWorkspace idx) n fun m' _ => m'.InSync :=
  (activateWorkspace_inSync_iff m idx n).mono fun _ _ hiff => hiff.mpr (Or.inl h)

theorem switchWorkspace_inSync (idx n : Nat) :
    Yields (m.switchWorkspace idx) n fun m' _ => m'.InSync :=
  activateWorkspace_inSync h _ n

theorem switchWorkspacePrevious_inSync (n : Nat) :
    Yields m.switchWorkspacePrevious n fun m' _ => m'.InSync := by
  rw [switchWorkspacePrevious]
  split
  · exact switchWorkspace_inSync h _ n
  · exact yields_pure h

theorem switchWorkspaceAutoBackAndForth_inSync (idx n : Nat) :
    Yields (m.switchWorkspaceAutoBackAndForth idx) n fun m' _ => m'.InSync := by
  rw [switchWorkspaceAutoBackAndForth]
  exact yields_ite (fun _ => switchWorkspacePrevious_inSync h n)
    fun _ => switchWorkspace_inSync h _ n

theorem switchWorkspaceUp_inSync (n : Nat) : Yields m.switchWorkspaceUp n fun m' _ => m'.InSync :=
  activateWorkspace_inSync h _ n

theorem switchWorkspaceDown_inSync (n : Nat) :
    Yields m.switchWorkspaceDown n fun m' _ => m'.InSync :=
  activateWorkspace_inSync h _ n

theorem focusWindowOrWorkspaceDown_inSync (n : Nat) :
    Yields (m.focusWindowOrWorkspaceDown c) n fun m' _ => m'.InSync :=
  yields_bounds_bind fun _ _ =>
    yields_early h fun _ => switchWorkspaceDown_inSync h n

theorem focusWindowOrWorkspaceUp_inSync (n : Nat) :
    Yields (m.focusWindowOrWorkspaceUp c) n fun m' _ => m'.InSync :=
  yields_bounds_bind fun _ _ =>
    yields_early h fun _ => switchWorkspaceUp_inSync h n

end

/-! ## New windows -/

/-- The insertions that matter once windows come to the workspace at `idx`: a workspace
    that is activated has the switch led to it. -/
def windowInsertions (m : Monitor W) (idx : Nat) (activate : Bool) : List Nat :=
  if activate && (idx != m.activeWorkspaceIdx || m.dndGesture.isSome) then []
  else m.surroundings idx

theorem dndGesture_carryAll (m : Monitor W) (idxs : List Nat) :
    (m.carryAll idxs).dndGesture.isSome = m.dndGesture.isSome := by
  induction idxs generalizing m with
  | nil => rfl
  | cons i idxs ih =>
    rw [carryAll, List.foldl_cons]
    refine (ih (m.carry i)).trans ?_
    rcases hm : m.workspaceSwitch with _ | (target | g)
    · simp [dndGesture, carry, hm]
    · by_cases hle : (i : Rat) ≤ target <;>
        simp [dndGesture, carry, hm, WorkspaceSwitch.targetIdx, hle, WorkspaceSwitch.offset]
    · by_cases hle : (i : Rat) ≤ g.currentIdx <;> cases hdnd : g.dnd <;>
        simp [dndGesture, carry, hm, WorkspaceSwitch.targetIdx, hle, WorkspaceSwitch.offset,
          hdnd]

/-- The workspace at `idx` is the active one once surrounded if it was. -/
theorem active_surroundings (hidx : idx < m.workspaces.length) :
    (m.carryAll (m.surroundings idx)).activeWorkspaceIdx = m.surroundedIdx idx idx ↔
      m.activeWorkspaceIdx = idx := by
  rw [surroundings, surroundedIdx]
  cases hlast : idx == m.workspaces.length - 1 <;> cases m.above && idx == 0 <;>
    simp [carryAll, carry] <;> grind

theorem addWindows_inSync_iff (h : m.InSync) (idx : Nat) (windows : List W) (activate : Bool)
    (n : Nat) : Yields (m.addWindows idx windows activate) n fun m' _ =>
      (m'.InSync ↔ ∀ i ∈ m.windowInsertions idx activate, m.Level i) := by
  refine yields_bounds_bind fun ws hws => ?_
  have hidx : idx < m.workspaces.length := (List.getElem?_eq_some_iff.mp hws).1
  have hlen : (m.setWorkspace idx (ws.receive windows m.output)).surroundings idx =
      m.surroundings idx := by simp [surroundings, setWorkspace]
  have hsurround := surround_yields (m.setWorkspace idx (ws.receive windows m.output)) idx n
  rw [hlen] at hsurround
  refine hsurround.bind ?_
  rintro m₁ n₁ ⟨hactive, hswitch⟩
  have hcarried := @carryAll_congr _ m (m.setWorkspace idx (ws.receive windows m.output)) rfl rfl
    (m.surroundings idx)
  rw [hcarried.1] at hactive
  rw [hcarried.2] at hswitch
  have hin : m₁.InSync ↔ ∀ i ∈ m.surroundings idx, m.Level i :=
    (inSync_congr hactive hswitch).trans (surroundings_inSync_iff h idx)
  cases activate with
  | false => exact yields_pure hin
  | true =>
    refine (activateWorkspace_inSync_iff m₁ _ n₁).mono fun m₂ _ h₂ => h₂.trans ?_
    have hdnd : m₁.dndGesture.isSome = m.dndGesture.isSome := by
      rw [← dndGesture_carryAll m (m.surroundings idx)]
      simp only [dndGesture, hswitch]
    rw [hactive, hdnd, hin, Ne, active_surroundings hidx, windowInsertions]
    by_cases heq : m.activeWorkspaceIdx = idx
    · cases m.dndGesture.isSome <;> simp [heq]
    · simp [heq, Ne.symm heq]

theorem addTileToColumn_inSync (h : m.InSync) (idx : Nat) (tile : W) (activate allow : Bool)
    (n : Nat) : Yields (m.addTileToColumn idx tile activate allow) n fun m' _ => m'.InSync := by
  refine yields_bounds_bind fun ws _ => ?_
  have hset : (m.setWorkspace idx (ws.receive [tile] m.output)).InSync := h.of_eq rfl rfl
  exact yields_applyIf (activateWorkspace_inSync hset _ n) hset

/-! ## Stopping -/

theorem cleanUpFrom_switch (start : Nat) : ∀ (k : Nat) (m : Monitor W) (n : Nat),
    Yields (cleanUpFrom start k m) n fun m' _ => m'.workspaceSwitch = m.workspaceSwitch
  | 0, _, _ => yields_pure rfl
  | k + 1, m, n => by
      have hat : Yields (m.cleanUpAt k) n fun m' _ => m'.workspaceSwitch = m.workspaceSwitch := by
        refine yields_early rfl fun _ => yields_bounds_bind fun ws _ => ?_
        exact yields_early rfl fun _ => yields_pure rfl
      refine yields_early rfl fun _ => hat.bind fun m₁ n₁ h₁ => ?_
      exact (cleanUpFrom_switch start k m₁ n₁).mono fun _ _ h₂ => h₂.trans h₁

theorem mergeEnds_switch (m : Monitor W) (n : Nat) :
    Yields m.mergeEnds n fun m' _ => m'.workspaceSwitch = m.workspaceSwitch := by
  refine yields_ite (fun _ => ?_) (fun _ => yields_pure rfl)
  refine yields_bounds_bind fun _ _ => yields_require_bind fun _ => ?_
  exact yields_bounds_bind fun _ _ => yields_require_bind fun _ => yields_pure rfl

/-- A strip is only cleaned up while no switch is in progress. -/
theorem cleanUpWorkspaces_inSync (m : Monitor W) (n : Nat) :
    Yields m.cleanUpWorkspaces n fun m' _ => m'.InSync := by
  refine yields_require_bind fun hnone => (cleanUpFrom_switch _ _ m n).bind fun m₁ n₁ h₁ => ?_
  refine (mergeEnds_switch m₁ n₁).mono fun m₂ _ h₂ => inSync_of_none ?_
  rw [h₂, h₁]
  exact Option.isNone_iff_eq_none.mp hnone

theorem cleanUpIf_inSync (h : m.InSync) (c : Bool) (n : Nat) :
    Yields (applyIf c cleanUpWorkspaces m) n fun m' _ => m'.InSync :=
  yields_applyIf (cleanUpWorkspaces_inSync m n) h

theorem unnameWorkspace_inSync (h : m.InSync) (id : WorkspaceId) (n : Nat) :
    Yields (m.unnameWorkspace id) n fun p _ => p.1.InSync := by
  rw [unnameWorkspace]
  split
  · exact yields_pure h
  · next idx hidx =>
    refine yields_bounds_bind fun ws hws => ?_
    have hset : (m.setWorkspace idx ws.unname).InSync := h.of_eq rfl rfl
    exact (cleanUpIf_inSync hset _ n).bind fun _ _ h' => yields_pure h'

theorem removeWorkspaceByIdx_inSync (m : Monitor W) (idx n : Nat) :
    Yields (m.removeWorkspaceByIdx idx) n fun p _ => p.2.InSync := by
  refine Yields.bind (fun _ _ _ => trivial) fun m₁ n₁ _ => yields_bounds_bind fun p _ => ?_
  exact (cleanUpWorkspaces_inSync _ n₁).bind fun _ _ h' => yields_pure h'

theorem insertWorkspace_inSync (m : Monitor W) (ws : Workspace W) (idx : Nat) (activate : Bool)
    (n : Nat) : Yields (m.insertWorkspace ws idx activate) n fun m' _ => m'.InSync := by
  refine Yields.bind (fun _ _ _ => trivial) fun m₁ n₁ _ => yields_bounds_bind fun workspaces _ => ?_
  refine Yields.bind (fun _ _ _ => trivial) fun m₂ n₂ _ => ?_
  exact cleanUpWorkspaces_inSync _ n₂

theorem appendWorkspaces_inSync (h : m.InSync) (workspaces : List (Workspace W)) (n : Nat) :
    Yields (m.appendWorkspaces workspaces) n fun m' _ => m'.InSync := by
  refine yields_early h fun _ => yields_bounds_bind fun p _ => ?_
  refine yields_bounds_bind fun first _ => ?_
  refine Yields.bind (fun _ _ _ => trivial) fun m₂ n₂ _ => ?_
  exact cleanUpWorkspaces_inSync _ n₂

theorem settleAt_inSync (m : Monitor W) (idx n : Nat) :
    Yields (m.settleAt idx) n fun m' _ => m'.InSync :=
  Yields.bind (fun _ _ _ => trivial) fun _ n₁ _ => cleanUpWorkspaces_inSync _ n₁

theorem moveWorkspaceDown_inSync (h : m.InSync) (n : Nat) :
    Yields m.moveWorkspaceDown n fun m' _ => m'.InSync := by
  refine yields_early h fun _ => yields_bounds_bind fun workspaces _ => ?_
  exact Yields.bind (fun _ _ _ => trivial) fun m₁ n₁ _ => settleAt_inSync m₁ _ n₁

theorem moveWorkspaceUp_inSync (h : m.InSync) (n : Nat) :
    Yields m.moveWorkspaceUp n fun m' _ => m'.InSync := by
  refine yields_early h fun _ => yields_bounds_bind fun workspaces _ => ?_
  exact Yields.bind (fun _ _ _ => trivial) fun m₁ n₁ _ => settleAt_inSync m₁ _ n₁

theorem moveWorkspaceToIdx_inSync (h : m.InSync) (oldIdx newIdx n : Nat) :
    Yields (m.moveWorkspaceToIdx oldIdx newIdx) n fun m' _ => m'.InSync := by
  refine yields_early h fun _ => yields_bounds_bind fun p _ => ?_
  refine yields_bounds_bind fun workspaces _ => ?_
  exact Yields.bind (fun _ _ _ => trivial) fun _ n₁ _ => cleanUpWorkspaces_inSync _ n₁

/-! ## Windows between workspaces -/

/-- The workspace `resolve_add_window_target` answers. -/
def targetIdx? [DecidableEq W] (m : Monitor W) : MonitorAddWindowTarget W → Option Nat
  | .auto => some m.activeWorkspaceIdx
  | .workspace id => m.workspaces.findIdx? fun ws => ws.id == id
  | .nextTo window => m.workspaces.findIdx? fun ws => ws.hasWindow window

def tileInsertions [DecidableEq W] (m : Monitor W) (target : MonitorAddWindowTarget W)
    (activate : Bool) : List Nat :=
  match m.targetIdx? target with
  | some idx => m.windowInsertions idx activate
  | none => []

theorem resolveAddWindowTarget_yields [DecidableEq W] (m : Monitor W)
    (target : MonitorAddWindowTarget W) (n : Nat) :
    Yields (m.resolveAddWindowTarget target) n fun idx _ => m.targetIdx? target = some idx := by
  cases target with
  | auto => exact yields_pure rfl
  | workspace id => exact yields_lookup fun _ hidx => hidx
  | nextTo window => exact yields_lookup fun _ hidx => hidx

theorem addTile_inSync_iff [DecidableEq W] (h : m.InSync) (tile : W)
    (target : MonitorAddWindowTarget W) (activate : ActivateWindow) (allow : Bool) (n : Nat) :
    Yields (m.addTile tile target activate allow) n fun m' _ =>
      (m'.InSync ↔
        ∀ i ∈ m.tileInsertions target (allow && activate.mapSmart false), m.Level i) := by
  refine (resolveAddWindowTarget_yields m target n).bind fun idx n₁ hidx => ?_
  rw [tileInsertions, hidx]
  exact addWindows_inSync_iff h idx [tile] _ n₁

/-- The insertions once the active tile goes to the workspace at `newIdx`. -/
def moveInsertions [DecidableEq W] (c : Contents W) (m : Monitor W) (newIdx : Nat)
    (focus : Bool) : List Nat :=
  if newIdx = m.activeWorkspaceIdx then []
  else
    match m.workspaces[newIdx]?, m.workspaces[m.activeWorkspaceIdx]?.bind (·.removeActiveTile c) with
    | some target, some (_, source) =>
        (m.setWorkspace m.activeWorkspaceIdx source).tileInsertions (.workspace target.id) focus
    | _, _ => []

theorem moveActiveTileTo_inSync_iff [DecidableEq W] (c : Contents W) (h : m.InSync) (newIdx : Nat)
    (focus : Bool) (n : Nat) : Yields (m.moveActiveTileTo c newIdx focus) n fun m' _ =>
      (m'.InSync ↔ ∀ i ∈ m.moveInsertions c newIdx focus, m.Level i) := by
  rw [moveActiveTileTo, moveInsertions]
  by_cases heq : newIdx = m.activeWorkspaceIdx
  · rw [if_pos heq, if_pos heq]
    exact yields_pure (by simpa using h)
  · rw [if_neg heq, if_neg heq]
    refine yields_bounds_bind fun target htarget => yields_bounds_bind fun source hsource => ?_
    rw [htarget, hsource, Option.bind_some]
    cases source.removeActiveTile c with
    | none => exact yields_pure (by simpa using h)
    | some taken =>
      have hset : (m.setWorkspace m.activeWorkspaceIdx taken.2).InSync := h.of_eq rfl rfl
      have hadded := addTile_inSync_iff hset taken.1 (.workspace target.id)
        (if focus then .yes else .smart) true n
      cases focus <;> exact hadded

/-- The workspace `source_workspace_idx` is about. -/
def sourceIdx? [DecidableEq W] (m : Monitor W) : Option W → Option Nat
  | some window => m.workspaces.findIdx? fun ws => ws.hasWindow window
  | none => some m.activeWorkspaceIdx

/-- The insertions once a tile goes to the workspace at `idx`. -/
def moveToInsertions [DecidableEq W] (c : Contents W) (m : Monitor W) (window : Option W)
    (idx : Nat) (activate : ActivateWindow) : List Nat :=
  let newIdx := min idx (m.workspaces.length - 1)
  match m.sourceIdx? window with
  | none => []
  | some sourceIdx =>
      if newIdx = sourceIdx then []
      else
        match m.workspaces[newIdx]?, m.workspaces[m.activeWorkspaceIdx]?,
            m.workspaces[sourceIdx]?.bind (takeTile c · window) with
        | some target, some active, some (_, source) =>
            (m.setWorkspace sourceIdx source).tileInsertions (.workspace target.id)
              (activate.mapSmart (window.isNone || window == c.activeTile active))
        | _, _, _ => []

theorem cleanUpWorkspaces_inSync_iff {p : Prop} (h : m.InSync ↔ p) (n : Nat) :
    Yields (applyIf m.workspaceSwitch.isNone cleanUpWorkspaces m) n fun m' _ =>
      (m'.InSync ↔ p) := by
  cases hnone : m.workspaceSwitch.isNone with
  | false => exact yields_pure h
  | true =>
    have hp : p := h.mp (inSync_of_none (Option.isNone_iff_eq_none.mp hnone))
    refine yields_require_bind fun _ => (cleanUpFrom_switch _ _ m n).bind fun m₁ n₁ h₁ => ?_
    refine (mergeEnds_switch m₁ n₁).mono fun m₂ _ h₂ => iff_of_true (inSync_of_none ?_) hp
    rw [h₂, h₁]
    exact Option.isNone_iff_eq_none.mp hnone

theorem moveToWorkspace_inSync_iff [DecidableEq W] (c : Contents W) (h : m.InSync)
    (window : Option W) (idx : Nat) (activate : ActivateWindow) (n : Nat) :
    Yields (m.moveToWorkspace c window idx activate) n fun m' _ =>
      (m'.InSync ↔ ∀ i ∈ m.moveToInsertions c window idx activate, m.Level i) := by
  have hsource : Yields (m.sourceWorkspaceIdx window) n fun sourceIdx _ =>
      m.sourceIdx? window = some sourceIdx := by
    cases window with
    | none => exact yields_pure rfl
    | some window => exact yields_lookup fun _ hidx => hidx
  refine hsource.bind fun sourceIdx n₁ hidx => ?_
  rw [moveToInsertions, hidx]
  by_cases heq : min idx (m.workspaces.length - 1) = sourceIdx
  · simp only [if_pos heq]
    exact yields_pure (by simpa using h)
  · simp only [if_neg heq]
    refine yields_bounds_bind fun target htarget => yields_bounds_bind fun active hactive => ?_
    refine yields_bounds_bind fun source hsource => ?_
    rw [htarget, hactive, hsource, Option.bind_some]
    cases takeTile c source window with
    | none => exact yields_pure (by simpa using h)
    | some taken =>
      obtain ⟨tile, rest⟩ := taken
      simp only
      have hset : (m.setWorkspace sourceIdx rest).InSync := h.of_eq rfl rfl
      have hadded := addTile_inSync_iff hset tile (.workspace target.id)
        (if activate.mapSmart (window.isNone || window == c.activeTile active) then .yes else .no)
        true n₁
      refine hadded.bind fun m₁ n₂ h₁ => cleanUpWorkspaces_inSync_iff (h₁.trans ?_) n₂
      cases activate.mapSmart (window.isNone || window == c.activeTile active) <;> exact Iff.rfl

/-- The insertions once the active column goes to the workspace at `newIdx`; `floating`
    are those of the active window, when it is a floating one. -/
def columnInsertions [DecidableEq W] (c : Contents W) (m : Monitor W) (newIdx : Nat)
    (activate : Bool) (floating : List Nat) : List Nat :=
  if newIdx = m.activeWorkspaceIdx then []
  else
    match m.workspaces[m.activeWorkspaceIdx]? with
    | none => []
    | some source =>
        if c.floatingIsActive source then floating
        else
          match source.removeActiveColumn c with
          | none => []
          | some (_, source) =>
              (m.setWorkspace m.activeWorkspaceIdx source).windowInsertions newIdx activate

theorem moveActiveColumnTo_inSync_iff [DecidableEq W] (c : Contents W) (h : m.InSync)
    (newIdx : Nat) (activate : Bool) {floating : Counted (Monitor W)} {insertions : List Nat}
    (hfloating : Yields floating n fun m' _ => (m'.InSync ↔ ∀ i ∈ insertions, m.Level i)) :
    Yields (m.moveActiveColumnTo c newIdx activate floating) n fun m' _ =>
      (m'.InSync ↔ ∀ i ∈ m.columnInsertions c newIdx activate insertions, m.Level i) := by
  rw [moveActiveColumnTo, columnInsertions]
  by_cases heq : newIdx = m.activeWorkspaceIdx
  · rw [if_pos heq, if_pos heq]
    exact yields_pure (by simpa using h)
  · rw [if_neg heq, if_neg heq]
    refine yields_bounds_bind fun source hsource => ?_
    rw [hsource]
    simp only
    cases c.floatingIsActive source with
    | true => exact hfloating
    | false =>
      rw [if_neg Bool.false_ne_true, if_neg Bool.false_ne_true]
      cases source.removeActiveColumn c with
      | none => exact yields_pure (by simpa using h)
      | some taken =>
        have hset : (m.setWorkspace m.activeWorkspaceIdx taken.2).InSync := h.of_eq rfl rfl
        exact addWindows_inSync_iff hset newIdx taken.1 activate n

/-! ## Configuration -/

/-- An empty workspace comes to the top once there is to be one. -/
def configInsertions (m : Monitor W) (baseOptions : Options) : List Nat :=
  let options := baseOptions.withMergedLayout m.layoutConfig
  let toggled := m.above != options.emptyWorkspaceAboveFirst && 1 < m.workspaces.length
  if toggled && options.emptyWorkspaceAboveFirst then [0] else []

section

variable (c : Contents W) (h : m.InSync)
include h

theorem updateConfig_inSync_iff (baseOptions : Options) (n : Nat) :
    Yields (m.updateConfig baseOptions) n fun m' _ =>
      (m'.InSync ↔ ∀ i ∈ m.configInsertions baseOptions, m.Level i) := by
  have htop : ∀ top : Bool, Yields (applyIf top addWorkspaceTop m) n fun m' _ =>
      (m'.InSync ↔ ∀ i ∈ (if top then [0] else []), m.Level i) := by
    intro top
    cases top with
    | false => exact yields_pure (by simpa using h)
    | true =>
      refine (addWorkspaceAt_yields m 0 n).mono ?_
      rintro m' _ ⟨_, hactive, hswitch⟩
      rw [inSync_congr hactive hswitch, carry_inSync_iff h]
      simp
  refine (htop _).bind fun m₁ n₁ h₁ => yields_pure ?_
  rw [configInsertions, ← h₁]
  -- The first workspace goes only while no switch is in progress.
  by_cases hnone : m₁.workspaceSwitch = none
  · exact iff_of_true (inSync_of_none hnone) (inSync_of_none hnone)
  · have hkept : m₁.workspaceSwitch.isNone = false := by
      rw [Option.isNone_eq_false_iff, Option.isSome_iff_ne_none]
      exact hnone
    refine inSync_congr ?_ rfl
    simp [hkept]

theorem updateLayoutConfig_inSync_iff (layoutConfig : Option LayoutPart) (n : Nat) :
    Yields (m.updateLayoutConfig layoutConfig) n fun m' _ =>
      (m'.InSync ↔ ∀ i ∈ (if m.layoutConfig = layoutConfig then []
        else { m with layoutConfig := layoutConfig }.configInsertions m.baseOptions),
          m.Level i) := by
  rw [updateLayoutConfig]
  by_cases heq : m.layoutConfig = layoutConfig
  · rw [if_pos heq, if_pos heq]
    exact yields_pure (by simpa using h)
  · rw [if_neg heq, if_neg heq]
    have h' : { m with layoutConfig := layoutConfig }.InSync := h.of_eq rfl rfl
    exact updateConfig_inSync_iff h' m.baseOptions n

/-! ## Gestures -/

theorem dndScrollGestureBegin_inSync : (m.dndScrollGestureBegin c).InSync := by
  rw [dndScrollGestureBegin]
  split
  · exact h
  · exact rfl

/-- A gesture that goes on stays with the workspace it began at. -/
theorem workspaceSwitchGestureUpdate_inSync (isTouchpad : Bool) (excess : Rat) (n : Nat) :
    Yields (m.workspaceSwitchGestureUpdate c isTouchpad excess) n fun p _ => p.1.InSync := by
  rw [workspaceSwitchGestureUpdate]
  split
  · next g hg =>
    have hcenter : g.centerIdx = m.activeWorkspaceIdx := by
      rw [InSync, hg] at h
      exact h
    refine yields_early h fun _ => ?_
    refine Yields.bind (fun _ _ _ => trivial) fun x n₁ _ => ?_
    exact yields_early h fun _ => yields_pure hcenter
  · exact yields_pure h

theorem dndScrollGestureScroll_inSync (n : Nat) :
    Yields (m.dndScrollGestureScroll c) n fun m' _ => m'.InSync := by
  rw [dndScrollGestureScroll]
  split
  · next g hg =>
    have hcenter : g.centerIdx = m.activeWorkspaceIdx := by
      rw [dndGesture] at hg
      split at hg
      · next g' hg' =>
        rw [InSync, hg'] at h
        split at hg
        · obtain rfl := Option.some.inj hg
          exact h
        · cases hg
      · cases hg
    refine yields_ite (fun _ => ?_) (fun _ => yields_pure h)
    exact Yields.bind (fun _ _ _ => trivial) fun x n₁ _ => yields_pure hcenter
  · exact yields_pure h

theorem workspaceSwitchGestureEnd_inSync (isTouchpad : Option Bool) (n : Nat) :
    Yields (m.workspaceSwitchGestureEnd c isTouchpad) n fun p _ => p.1.InSync := by
  rw [workspaceSwitchGestureEnd]
  split
  · refine yields_early h fun _ => ?_
    refine Yields.bind (fun _ _ _ => trivial) fun x n₁ _ => ?_
    refine (rememberActive_yields m _ n₁).bind ?_
    rintro _ _ ⟨previous, rfl⟩
    exact yields_pure rfl
  · exact yields_pure h

theorem dndScrollGestureEnd_inSync (n : Nat) :
    Yields (m.dndScrollGestureEnd c) n fun m' _ => m'.InSync :=
  yields_ite
    (fun _ => (workspaceSwitchGestureEnd_inSync c h none n).bind fun _ _ h' => yields_pure h')
    fun _ => yields_pure h

theorem advanceAnimations_inSync (n : Nat) :
    Yields (m.advanceAnimations c) n fun m' _ => m'.InSync := by
  rw [advanceAnimations]
  split
  · exact yields_ite (fun _ => cleanUpWorkspaces_inSync _ n) fun _ => yields_pure h
  · exact yields_pure h

end

/-! ## What the layout does itself -/

theorem removeWindowAt_inSync [DecidableEq W] (window : W) (h : m.InSync) (idx n : Nat) :
    Yields (Layout.removeWindowAt window idx m) n fun m' _ => m'.InSync := by
  refine yields_bounds_bind fun ws _ => ?_
  cases hnone : m.workspaceSwitch.isNone with
  | false =>
    have hset : (m.setWorkspace idx (ws.removeTile window)).InSync := h.of_eq rfl rfl
    simp only [setWorkspace, hnone, Bool.and_false, Bool.false_eq_true, if_false]
    exact yields_pure hset
  | true =>
    have hsome : m.workspaceSwitch = none := Option.isNone_iff_eq_none.mp hnone
    refine yields_applyIf ((mergeEnds_switch _ n).mono fun m' _ h' => ?_) ?_
    · refine inSync_of_none (h'.trans ?_)
      split <;> exact hsome
    · refine inSync_of_none ?_
      split <;> exact hsome

/-- The switch is stopped where a workspace is taken from the strip. -/
theorem reclaimFrom_inSync (output : Output) : ∀ (k : Nat) {r : Layout.Reclaim W} (n : Nat),
    r.primary.InSync →
    Yields (Layout.reclaimFrom output k r) n fun r' _ => r'.primary.InSync
  | 0, _, _, h => yields_pure h
  | k + 1, r, n, h => by
      have hat : Yields (Layout.reclaimAt output k r) n fun r' _ => r'.primary.InSync := by
        refine yields_bounds_bind fun ws _ => yields_ite (fun _ => ?_) (fun _ => yields_pure h)
        exact yields_bounds_bind fun p _ => yields_pure trivial
      exact hat.bind fun r₁ n₁ h₁ => reclaimFrom_inSync output k n₁ h₁

theorem reclaim_inSync (output : Output) (h : m.InSync) (n : Nat) :
    Yields (Layout.reclaim output m) n fun p _ => p.2.InSync := by
  refine (reclaimFrom_inSync output _ n h).bind fun r n₁ h₁ => ?_
  exact (cleanUpIf_inSync h₁ _ n₁).bind fun _ _ h' => yields_pure h'

end Monitor

end Cidre.Workspaces
