/-
  Cidre.Workspaces.Overview

  Where the workspaces of a monitor are drawn, and which of them is under the
  pointer (`src/layout/monitor.rs`).

  In the overview the workspaces lie on a sphere: those away from the centre are
  enlarged, so that neighbours overlap.  The rectangles are sorted by depth, the
  one in the centre first.  `render_workspaces` pushes the elements of the
  workspaces in this order, and what is pushed first is drawn on top;
  `workspace_under_narrow` goes through the same order from its end, and so finds
  the workspace that is drawn below all others at the point.

  The scroll position (`workspace_render_idx`) and the values of the overview
  animation are those of any moment; the curve by which workspaces grow towards
  the edge is an arbitrary function of the distance from the centre.
-/

import Mathlib.Data.List.Sort
import Cidre.Utils.Logical
import Cidre.Workspaces.Monitor

namespace Cidre.Workspaces

open Cidre.Utils.Logical

/-! ## Geometry -/

/-- What the geometry of the strip depends on, at some moment. -/
structure OverviewView where
  scale : Rat
  viewSize : Size
  /-- `options.overview.zoom` -/
  zoomOption : Rat
  /-- `overview_progress`: its value, and the value that stops at the target -/
  progress : Option (Rat × Rat)
  /-- `workspace_render_idx` -/
  renderIdx : Rat

structure WorkspaceRenderState where
  idx : Nat
  geo : Rectangle
  zoom : Rat
  depth : Rat
deriving DecidableEq, Repr

def overviewSphereMaxScaleGain : Rat := 32 / 100

namespace OverviewView

/-- `compute_overview_zoom` -/
def overviewZoom (v : OverviewView) : Rat :=
  let zoom := clampTo v.zoomOption (1 / 10000) (75 / 100)
  match v.progress with
  | some (p, _) => max (1 - p * (1 - zoom)) (1 / 10000)
  | none => 1

def overviewSphereStrength (v : OverviewView) : Rat :=
  clampTo ((v.progress.map Prod.snd).getD 0) 0 1

def workspaceSize (v : OverviewView) (zoom : Rat) : Size :=
  Size.ceilPhysical v.scale ⟨v.viewSize.w * zoom, v.viewSize.h * zoom⟩

def workspaceGap (v : OverviewView) (zoom : Rat) : Rat :=
  roundLogicalInPhysicalMax1 v.scale (v.viewSize.h * (1 / 10) * zoom)

/-- The state of the workspace at `idx`; `curve` is the power by which the distance
    from the centre becomes the depth. -/
def renderState (curve : Rat → Rat) (v : OverviewView) (idx : Nat) : WorkspaceRenderState :=
  let zoom := v.overviewZoom
  let wsSize := v.workspaceSize zoom
  let wsHeightWithGap := wsSize.h + v.workspaceGap zoom
  let staticOffset := Point.roundPhysical v.scale
    ⟨(v.viewSize.w - wsSize.w) / 2, (v.viewSize.h - wsSize.h) / 2⟩
  let firstWsY := roundLogicalInPhysical v.scale (-v.renderIdx * wsHeightWithGap)
  let viewCenterY := v.viewSize.h / 2
  let baseWsHalfH := wsSize.h / 2
  let normDenominator := max (viewCenterY + baseWsHalfH) 1
  let baseCenterY := firstWsY + idx * wsHeightWithGap + staticOffset.y + baseWsHalfH
  let normFromCenter := clampTo ((baseCenterY - viewCenterY) / normDenominator) (-1) 1
  let edgeProximity := curve |normFromCenter|
  let localZoom :=
    zoom * (1 + overviewSphereMaxScaleGain * v.overviewSphereStrength * edgeProximity)
  let localSize := v.workspaceSize localZoom
  let loc := Point.roundPhysical v.scale
    ⟨(v.viewSize.w - localSize.w) / 2, baseCenterY - localSize.h / 2⟩
  { idx := idx, geo := ⟨loc, localSize⟩, zoom := localZoom, depth := edgeProximity }

end OverviewView

namespace Monitor

variable {W : Type}

/-- `workspace_render_states`, with the position after the last workspace. -/
def workspaceRenderStates (curve : Rat → Rat) (v : OverviewView) (m : Monitor W) :
    List WorkspaceRenderState :=
  (List.range (m.workspaces.length + 1)).map (v.renderState curve)

/-- By depth, and by index where the depth is the same. -/
def rendersBefore (a b : WorkspaceRenderState) : Prop :=
  a.depth < b.depth ∨ (a.depth = b.depth ∧ a.idx ≤ b.idx)

instance (a b : WorkspaceRenderState) : Decidable (rendersBefore a b) :=
  inferInstanceAs (Decidable (_ ∨ _))

def workspaceRenderStatesInRenderOrder (curve : Rat → Rat) (v : OverviewView) (m : Monitor W) :
    List WorkspaceRenderState :=
  (m.workspaceRenderStates curve v).insertionSort rendersBefore

/-- A workspace of the monitor, told apart from the others by its index. -/
def workspaceOf (m : Monitor W) (state : WorkspaceRenderState) : Option (Nat × Workspace W) :=
  m.workspaces[state.idx]?.map fun ws => (state.idx, ws)

/-- The workspace of a state whose rectangle has the point. -/
def workspaceAtPoint (m : Monitor W) (pos : Point) (state : WorkspaceRenderState) :
    Option (Nat × Workspace W) :=
  if state.geo.contains pos then m.workspaceOf state else none

def workspaceUnderNarrow (curve : Rat → Rat) (v : OverviewView) (m : Monitor W) (pos : Point) :
    Option (Nat × Workspace W) :=
  (m.workspaceRenderStatesInRenderOrder curve v).reverse.findSome? (m.workspaceAtPoint pos)

/-- `render_workspaces`: the workspaces with their states, in the order in which their
    elements are pushed, from the front to the back. -/
def renderWorkspaces (curve : Rat → Rat) (v : OverviewView) (m : Monitor W) :
    List ((Nat × Workspace W) × WorkspaceRenderState) :=
  (m.workspaceRenderStatesInRenderOrder curve v).filterMap fun state =>
    (m.workspaceOf state).map fun ws => (ws, state)

/-- The workspace that is seen at a point: the first that was pushed of those there. -/
def drawnOnTop (curve : Rat → Rat) (v : OverviewView) (m : Monitor W) (pos : Point) :
    Option (Nat × Workspace W) :=
  ((m.renderWorkspaces curve v).find? fun pushed => pushed.2.geo.contains pos).map Prod.fst

/-- The workspaces, by index, whose rectangles have the point. -/
def covering (curve : Rat → Rat) (v : OverviewView) (m : Monitor W) (pos : Point) : List Nat :=
  (List.range m.workspaces.length).filter fun idx => (v.renderState curve idx).geo.contains pos

/-! ## Hits -/

/-- The workspaces at a point in render order. -/
def hits (curve : Rat → Rat) (v : OverviewView) (m : Monitor W) (pos : Point) :
    List (Nat × Workspace W) :=
  (m.workspaceRenderStatesInRenderOrder curve v).filterMap (m.workspaceAtPoint pos)

variable {curve : Rat → Rat} {v : OverviewView} {m : Monitor W} {pos : Point}

theorem workspaceUnderNarrow_eq :
    m.workspaceUnderNarrow curve v pos = (m.hits curve v pos).getLast? := by
  rw [workspaceUnderNarrow, hits, ← List.head?_filterMap, List.filterMap_reverse,
    List.head?_reverse]

theorem find?_pushed (states : List WorkspaceRenderState) :
    ((states.filterMap fun state => (m.workspaceOf state).map fun ws => (ws, state)).find?
        fun pushed => pushed.2.geo.contains pos).map Prod.fst =
      states.findSome? (m.workspaceAtPoint pos) := by
  induction states with
  | nil => rfl
  | cons state states ih =>
    rw [List.findSome?_cons, workspaceAtPoint]
    cases hws : m.workspaceOf state with
    | none =>
      rw [List.filterMap_cons_none (by rw [hws]; rfl), ih]
      simp
    | some ws =>
      rw [List.filterMap_cons_some (by rw [hws]; rfl), List.find?_cons]
      by_cases hin : state.geo.contains pos = true
      · simp only [hin, if_true, Option.map_some]
      · simp only [hin, ih, Bool.false_eq_true, if_false]

theorem drawnOnTop_eq : m.drawnOnTop curve v pos = (m.hits curve v pos).head? := by
  rw [drawnOnTop, renderWorkspaces, find?_pushed, hits, List.head?_filterMap]

theorem workspaceAtPoint_renderState (idx : Nat) :
    (m.workspaceAtPoint pos (v.renderState curve idx)).map Prod.fst =
      if idx < m.workspaces.length then
        Option.guard (fun idx => (v.renderState curve idx).geo.contains pos) idx
      else none := by
  have hof : (m.workspaceOf (v.renderState curve idx)).map Prod.fst =
      if idx < m.workspaces.length then some idx else none := by
    rw [workspaceOf, Option.map_map]
    show m.workspaces[idx]?.map (fun _ => idx) = _
    by_cases hlt : idx < m.workspaces.length
    · rw [List.getElem?_eq_getElem hlt, if_pos hlt]
      rfl
    · rw [List.getElem?_eq_none (not_lt.mp hlt), if_neg hlt]
      rfl
  rw [workspaceAtPoint, Option.guard]
  by_cases hin : (v.renderState curve idx).geo.contains pos = true
  · rw [if_pos hin, if_pos hin, hof]
  · rw [if_neg hin, if_neg hin, Option.map_none, ite_self]

/-- The workspaces at a point are the covering ones, in some order. -/
theorem hits_perm : ((m.hits curve v pos).map Prod.fst).Perm (m.covering curve v pos) := by
  have hsort : (m.workspaceRenderStatesInRenderOrder curve v).Perm
      (m.workspaceRenderStates curve v) := List.perm_insertionSort _ _
  refine ((hsort.filterMap _).map Prod.fst).trans (List.Perm.of_eq ?_)
  rw [workspaceRenderStates, List.filterMap_map, List.map_filterMap, List.range_succ,
    List.filterMap_append, covering, ← List.filterMap_eq_filter]
  have hpast : [m.workspaces.length].filterMap
      (fun idx => (m.workspaceAtPoint pos (v.renderState curve idx)).map Prod.fst) = [] := by
    simp [workspaceAtPoint_renderState]
  simp only [Function.comp_apply, hpast, List.append_nil]
  refine List.filterMap_congr fun idx hidx => ?_
  rw [workspaceAtPoint_renderState, if_pos (List.mem_range.mp hidx)]

/-- In a list without repetitions, the first is the last only where there is no other. -/
theorem getLast?_eq_head?_iff {α β : Type} (key : α → β) {l : List α} (h : (l.map key).Nodup) :
    l.getLast? = l.head? ↔ l.length ≤ 1 := by
  match l with
  | [] => simp
  | [a] => simp
  | a :: b :: l =>
    refine iff_of_false (fun heq => ?_) (by simp)
    rw [List.map_cons] at h
    have hlast : (b :: l).getLast? = some a := by simpa using heq
    have hmem : key a ∈ (b :: l).map key := List.mem_map_of_mem (List.mem_of_getLast? hlast)
    exact (List.nodup_cons.mp h).1 hmem

/-- The workspace that is found under the pointer is the one that is seen there exactly
    where no two workspaces overlap. -/
theorem workspaceUnderNarrow_eq_drawnOnTop_iff (curve : Rat → Rat) (v : OverviewView)
    (m : Monitor W) (pos : Point) :
    m.workspaceUnderNarrow curve v pos = m.drawnOnTop curve v pos ↔
      (m.covering curve v pos).length ≤ 1 := by
  have hperm : ((m.hits curve v pos).map Prod.fst).Perm (m.covering curve v pos) := hits_perm
  have hnodup : ((m.hits curve v pos).map Prod.fst).Nodup :=
    hperm.nodup_iff.mpr (List.nodup_range.filter _)
  rw [workspaceUnderNarrow_eq, drawnOnTop_eq, getLast?_eq_head?_iff Prod.fst hnodup,
    ← hperm.length_eq, List.length_map]

/-! ## Two workspaces that overlap -/

/-- The power 1.35 of the distances on a screen 1000 high, to three digits. -/
def edgeCurve (x : Rat) : Rat := if x = 11 / 15 then 658 / 1000 else x

/-- The overview is open, with the zoom of the default configuration, and the first
    workspace is in the centre. -/
def openView : OverviewView where
  scale := 1
  viewSize := ⟨1000, 1000⟩
  zoomOption := 1 / 2
  progress := some (1, 1)
  renderIdx := 0

def twoWorkspaces : Monitor Nat where
  output := ⟨0, ⟨"A", none, none, none⟩⟩
  workspaces := [⟨0, none, "A", [7]⟩, ⟨1, none, "A", []⟩]
  activeWorkspaceIdx := 0
  previousWorkspaceId := none
  workspaceSwitch := none
  overviewOpen := true
  baseOptions := ⟨false⟩
  options := ⟨false⟩
  layoutConfig := none

/-- Just above the lower edge of the first workspace, the second one is found. -/
theorem second_under_first :
    (twoWorkspaces.covering edgeCurve openView ⟨500, 748⟩).length = 2 ∧
      twoWorkspaces.workspaceUnderNarrow edgeCurve openView ⟨500, 748⟩ ≠
        twoWorkspaces.drawnOnTop edgeCurve openView ⟨500, 748⟩ := by
  have hcovering : (twoWorkspaces.covering edgeCurve openView ⟨500, 748⟩).length = 2 := by
    decide +kernel
  have hunder : (twoWorkspaces.workspaceUnderNarrow edgeCurve openView ⟨500, 748⟩).map Prod.fst =
      some 1 := by decide +kernel
  have hdrawn : (twoWorkspaces.drawnOnTop edgeCurve openView ⟨500, 748⟩).map Prod.fst =
      some 0 := by decide +kernel
  refine ⟨hcovering, fun heq => ?_⟩
  rw [heq, hdrawn] at hunder
  cases hunder

end Monitor

end Cidre.Workspaces
