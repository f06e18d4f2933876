/-
  Cidre.Ipc.Refresh

  The server's side of the event stream (`src/ipc/server.rs`): after every change
  of the layout it computes, from the state its clients have, the events that
  bring them up to date.

  A snapshot of the layout has what the events are made of.  The process a window
  belongs to does not change while the window exists, so it is given by the id
  of the window.
-/

import Cidre.Ipc.EventStream

namespace Cidre.Ipc

open Cidre.Run

/-! ## The layout -/

structure Mapped where
  id : U64
  title : Option String
  appId : Option String
  isFocused : Bool
  isFloating : Bool
  isUrgent : Bool
  focusTimestamp : Option Timestamp
  /-- the entry of `tiles_with_ipc_layouts` -/
  windowLayout : WindowLayout

structure LayoutWorkspace where
  id : U64
  name : Option String
  windows : List Mapped
  activeWindow : Option U64
  isUrgent : Bool

structure LayoutMonitor where
  outputName : String
  workspaces : List LayoutWorkspace
  activeWorkspaceIdx : Nat
  active_lt : activeWorkspaceIdx < workspaces.length

def LayoutMonitor.activeWorkspace (mon : LayoutMonitor) : LayoutWorkspace :=
  mon.workspaces.get ⟨mon.activeWorkspaceIdx, mon.active_lt⟩

inductive LayoutMonitors where
  | normal (monitors : List LayoutMonitor) (activeMonitorIdx : Fin monitors.length)
  | noOutputs (workspaces : List LayoutWorkspace)

structure Layout where
  monitorSet : LayoutMonitors
  /-- the window of an interactive move -/
  moving : Option Mapped
  overviewOpen : Bool

/-- A workspace, and where it is. -/
structure Located where
  monitor : Option LayoutMonitor
  idx : Nat
  workspace : LayoutWorkspace

namespace Layout

def activeWorkspace (layout : Layout) : Option LayoutWorkspace :=
  match layout.monitorSet with
  | .normal monitors activeMonitorIdx => some (monitors.get activeMonitorIdx).activeWorkspace
  | .noOutputs _ => none

def locate (monitor : Option LayoutMonitor) (workspaces : List LayoutWorkspace) : List Located :=
  workspaces.mapIdx fun idx workspace => ⟨monitor, idx, workspace⟩

def workspaces (layout : Layout) : List Located :=
  match layout.monitorSet with
  | .normal monitors _ => monitors.flatMap fun mon => locate (some mon) mon.workspaces
  | .noOutputs workspaces => locate none workspaces

/-- `with_windows`: every window, with the workspace it is on. -/
def windows (layout : Layout) : List (Mapped × Option U64) :=
  (layout.moving.map fun mapped => (mapped, none)).toList ++
    layout.workspaces.flatMap fun at_ =>
      at_.workspace.windows.map fun mapped => (mapped, some at_.workspace.id)

end Layout

/-! ## Workspaces -/

def Located.ipcIdx (at_ : Located) : Nat := min (at_.idx + 1) 255

def Located.outputName (at_ : Located) : Option String := at_.monitor.map LayoutMonitor.outputName

def Located.isActive (at_ : Located) : Bool :=
  at_.monitor.any fun mon => mon.activeWorkspaceIdx == at_.idx

/-- The entry of `WorkspacesChanged`. -/
def makeIpcWorkspace (focused : Option U64) (at_ : Located) : Workspace where
  id := at_.workspace.id
  idx := at_.ipcIdx
  name := at_.workspace.name
  output := at_.outputName
  isUrgent := at_.workspace.isUrgent
  isActive := at_.isActive
  isFocused := some at_.workspace.id == focused
  activeWindowId := at_.workspace.activeWindow

def Layout.ipcWorkspaces (layout : Layout) : List Workspace :=
  layout.workspaces.map (makeIpcWorkspace (layout.activeWorkspace.map LayoutWorkspace.id))

namespace WorkspacesState

/-- The events of one workspace that is where it was. -/
def workspaceEvents (ipcWs : Workspace) (focused : Option U64) (at_ : Located) : List Event :=
  let ws := at_.workspace
  (if ipcWs.activeWindowId ≠ ws.activeWindow then
    [.workspaceActiveWindowChanged ws.id ws.activeWindow] else []) ++
  (if ws.isUrgent ≠ ipcWs.isUrgent then [.workspaceUrgencyChanged ws.id ws.isUrgent] else []) ++
  (if some ws.id == focused && !ipcWs.isFocused then [.workspaceActivated ws.id true]
    else if at_.isActive && !ipcWs.isActive then [.workspaceActivated ws.id false]
    else [])

/-- The first loop of `ipc_refresh_workspaces`; `none` is `need_workspaces_changed`. -/
def changes (s : WorkspacesState) (focused : Option U64) : List Located → Option (List Event)
  | [] => some []
  | at_ :: rest =>
      match s.workspaces.get at_.workspace.id with
      | none => none
      | some ipcWs =>
          if ipcWs.idx ≠ at_.ipcIdx ∨ ipcWs.name ≠ at_.workspace.name ∨
              ipcWs.output ≠ at_.outputName then none
          else (s.changes focused rest).map fun events =>
            workspaceEvents ipcWs focused at_ ++ events

/-- The events of `ipc_refresh_workspaces`. -/
def refresh (s : WorkspacesState) (layout : Layout) : List Event :=
  let focused := layout.activeWorkspace.map LayoutWorkspace.id
  let seen := layout.workspaces.map fun at_ => at_.workspace.id
  match s.changes focused layout.workspaces with
  | some events =>
      if s.workspaces.keys.any fun id => id ∉ seen then [.workspacesChanged layout.ipcWorkspaces]
      else events
  | none => [.workspacesChanged layout.ipcWorkspaces]

/-- The server's own part of the state follows the events. -/
def applyAll (s : WorkspacesState) (events : List Event) : Option WorkspacesState :=
  events.foldlM (fun s event => (s.apply event).map fun
    | .done s' => s'
    | .ignored _ => s) s

end WorkspacesState

/-! ## Windows -/

/-- The order a hash map of windows is iterated over in. -/
structure HashOrder where
  keys : WindowsState → List U64
  perm : ∀ s, (keys s).Perm s.windows.keys

def makeIpcWindow (pid : U64 → Option Int) (mapped : Mapped) (workspaceId : Option U64) :
    Window where
  id := mapped.id
  title := mapped.title
  appId := mapped.appId
  pid := pid mapped.id
  workspaceId := workspaceId
  isFocused := mapped.isFocused
  isFloating := mapped.isFloating
  isUrgent := mapped.isUrgent
  layout := mapped.windowLayout
  focusTimestamp := mapped.focusTimestamp

def Layout.ipcWindows (pid : U64 → Option Int) (layout : Layout) : List Window :=
  layout.windows.map fun e => makeIpcWindow pid e.1 e.2

/-- `==` of two points or sizes. -/
def coordsEq (p q : Coord × Coord) : Bool := floatEq p.1 q.1 && floatEq p.2 q.2

/-- The derived `PartialEq`. -/
def WindowLayout.eq (a b : WindowLayout) : Bool :=
  a.posInScrollingLayout = b.posInScrollingLayout && coordsEq a.tileSize b.tileSize &&
    a.windowSize = b.windowSize &&
    (match a.tilePosInWorkspaceView, b.tilePosInWorkspaceView with
      | some p, some q => coordsEq p q
      | none, none => true
      | _, _ => false) &&
    coordsEq a.windowOffsetInTile b.windowOffsetInTile

theorem eq_of_coordsEq {p q : Coord × Coord} (h : coordsEq p q = true) : p = q := by
  obtain ⟨hfst, hsnd⟩ := Bool.and_eq_true_iff.mp h
  exact Prod.ext (Subtype.ext (eq_of_floatEq p.1.2 q.1.2 hfst))
    (Subtype.ext (eq_of_floatEq p.2.2 q.2.2 hsnd))

/-- Layouts that compare equal are equal; one with a NaN in it is not even equal to itself. -/
theorem WindowLayout.eq_of_eq {a b : WindowLayout} (h : a.eq b = true) : a = b := by
  obtain ⟨pos, tile, window, view, offset⟩ := a
  obtain ⟨pos', tile', window', view', offset'⟩ := b
  simp only [WindowLayout.eq, Bool.and_eq_true, decide_eq_true_eq] at h
  obtain ⟨⟨⟨⟨rfl, htile⟩, rfl⟩, hview⟩, hoffset⟩ := h
  obtain rfl := eq_of_coordsEq htile
  obtain rfl := eq_of_coordsEq hoffset
  cases view with
  | none =>
    cases view' with
    | none => rfl
    | some q => cases hview
  | some p =>
    cases view' with
    | none => cases hview
    | some q => rw [eq_of_coordsEq hview]

namespace WindowsState

/-- A change of a window that is sent with all there is to it. -/
def isChanged (ipcWin : Window) (mapped : Mapped) (workspaceId : Option U64) : Bool :=
  (ipcWin.workspaceId != workspaceId || ipcWin.isFloating != mapped.isFloating) ||
    (ipcWin.title != mapped.title || ipcWin.appId != mapped.appId)

/-- The events of one window. -/
def windowEvents (s : WindowsState) (pid : U64 → Option Int) (mapped : Mapped)
    (workspaceId : Option U64) : List Event :=
  match s.windows.get mapped.id with
  | none => [.windowOpenedOrChanged (makeIpcWindow pid mapped workspaceId)]
  | some ipcWin =>
      if isChanged ipcWin mapped workspaceId then
        [.windowOpenedOrChanged (makeIpcWindow pid mapped workspaceId)]
      else
        (if mapped.isFocused && !ipcWin.isFocused then [.windowFocusChanged (some mapped.id)]
          else []) ++
        (if mapped.focusTimestamp ≠ ipcWin.focusTimestamp then
          [.windowFocusTimestampChanged mapped.id mapped.focusTimestamp] else []) ++
        (if mapped.isUrgent ≠ ipcWin.isUrgent then
          [.windowUrgencyChanged mapped.id mapped.isUrgent] else [])

/-- The part of one window in the batch of layout changes. -/
def layoutChange (s : WindowsState) (mapped : Mapped) (workspaceId : Option U64) :
    List (U64 × WindowLayout) :=
  match s.windows.get mapped.id with
  | none => []
  | some ipcWin =>
      if isChanged ipcWin mapped workspaceId then []
      else if !ipcWin.layout.eq mapped.windowLayout then [(mapped.id, mapped.windowLayout)]
      else []

/-- The events of `ipc_refresh_windows`. -/
def refresh (order : HashOrder) (s : WindowsState) (pid : U64 → Option Int) (layout : Layout) :
    List Event :=
  let changes := layout.windows.flatMap fun e => s.layoutChange e.1 e.2
  let seen := layout.windows.map fun e => e.1.id
  let focused := layout.windows.any fun e => e.1.isFocused
  let ipcFocused := s.windows.values.any fun win => win.isFocused
  (layout.windows.flatMap fun e => s.windowEvents pid e.1 e.2) ++
    (if changes ≠ [] then [.windowLayoutsChanged changes] else []) ++
    ((order.keys s).filter fun id => id ∉ seen).map Event.windowClosed ++
    (if !focused && ipcFocused then [.windowFocusChanged none] else [])

def applyAll (s : WindowsState) : List Event → (Nat → HashOrder) → Option WindowsState
  | [], _ => some s
  | event :: events, orders =>
      (s.apply ((orders 0).keys s) event).bind fun
        | .done s' => s'.applyAll events fun n => orders (n + 1)
        | .ignored _ => s.applyAll events fun n => orders (n + 1)

end WindowsState

/-! ## The server -/

/-- The event of `ipc_refresh_overview`. -/
def OverviewState.refresh (s : OverviewState) (layout : Layout) : List Event :=
  if s.isOpen = layout.overviewOpen then [] else [.overviewOpenedOrClosed layout.overviewOpen]

/-- `ipc_refresh_layout`: the new state, and the events sent to all clients. -/
def EventStreamState.refreshLayout (s : EventStreamState) (pid : U64 → Option Int)
    (order : HashOrder) (orders : Nat → HashOrder) (layout : Layout) :
    Option (EventStreamState × List Event) := do
  let workspaceEvents := s.workspaces.refresh layout
  let workspaces ← s.workspaces.applyAll workspaceEvents
  let windowEvents := s.windows.refresh order pid layout
  let windows ← s.windows.applyAll windowEvents orders
  return ({ s with workspaces, windows, overview := ⟨layout.overviewOpen⟩ },
    workspaceEvents ++ windowEvents ++ s.overview.refresh layout)

end Cidre.Ipc
