/-
  Cidre.Protocols.ForeignToplevel

  The foreign-toplevel protocols (`src/protocols/foreign_toplevel.rs`), which tell
  taskbars of the windows: ext-foreign-toplevel-list and
  wlr-foreign-toplevel-management.  A window is known by its surface.
-/

import Cidre.Protocols.Display

namespace Cidre.Protocols.ForeignToplevel

structure WlSurface where
  serial : Nat
deriving DecidableEq, Repr

/-! ## The layout -/

/-- A window, with the title and app id of its role and its current states. -/
structure Mapped where
  surface : WlSurface
  id : U64
  title : Option String
  appId : Option String
  maximized : Bool
  fullscreen : Bool

structure Monitor where
  output : Output
  workspaces : List (List Mapped)

inductive MonitorSet where
  | normal (monitors : List Monitor)
  | noOutputs (workspaces : List (List Mapped))

structure Layout where
  /-- the window of an interactive move, and the output it is over -/
  moving : Option (Mapped × Output)
  monitorSet : MonitorSet

namespace Layout

def withWindows (layout : Layout) : List (Mapped × Option Output) :=
  (layout.moving.map fun move => (move.1, some move.2)).toList ++
    match layout.monitorSet with
    | .normal monitors => monitors.flatMap fun mon =>
        mon.workspaces.flatten.map fun mapped => (mapped, some mon.output)
    | .noOutputs workspaces => workspaces.flatten.map fun mapped => (mapped, none)

def findWlSurface (workspaces : List (List Mapped)) (surface : WlSurface) : Option Mapped :=
  workspaces.findSome? fun ws => ws.find? fun mapped => mapped.surface = surface

def findWindowAndOutput (layout : Layout) (surface : WlSurface) :
    Option (Mapped × Option Output) :=
  match layout.moving.filter fun move => move.1.surface = surface with
  | some move => some (move.1, some move.2)
  | none =>
      match layout.monitorSet with
      | .normal monitors => monitors.findSome? fun mon =>
          (findWlSurface mon.workspaces surface).map fun mapped => (mapped, some mon.output)
      | .noOutputs workspaces =>
          (findWlSurface workspaces surface).map fun mapped => (mapped, none)

end Layout

/-- What `refresh` reads. -/
structure State where
  layout : Layout
  keyboardFocus : Option WlSurface
  /-- a window is there once -/
  surfaces_nodup : (layout.withWindows.map fun e => e.1.surface).Nodup

/-- No windows. -/
def State.empty : State := ⟨⟨none, .noOutputs []⟩, none, List.nodup_nil⟩

/-! ## The protocol -/

/-- `zwlr_foreign_toplevel_handle_v1::State`, less the minimized one. -/
inductive ToplevelState where
  | maximized
  | activated
  | fullscreen
deriving DecidableEq, Repr

/-- What passes between the compositor and a client: events, and the request that
    destroys a handle. -/
inductive Message where
  | toplevel (handle : Handle)
  | finished (manager : Manager)
  /-- of the ext protocol only -/
  | identifier (handle : Handle) (identifier : U64)
  | title (handle : Handle) (title : String)
  | appId (handle : Handle) (appId : String)
  | state (handle : Handle) (states : List ToplevelState)
  | outputEnter (handle : Handle) (wlOutput : WlOutput)
  | outputLeave (handle : Handle) (wlOutput : WlOutput)
  | done (handle : Handle)
  | closed (handle : Handle)
  | destroy (handle : Handle)
deriving DecidableEq

def Message.manager : Message → Manager
  | finished manager => manager
  | toplevel h | identifier h _ | title h _ | appId h _ | state h _ | outputEnter h _
  | outputLeave h _ | done h | closed h | destroy h => h.manager

structure ToplevelData where
  surface : WlSurface
  identifier : U64
  title : Option String
  appId : Option String
  states : List ToplevelState
  output : Option Output
  extListInstances : List Handle
  wlrManagementInstances : List (Handle × List WlOutput)

structure ForeignToplevelManagerState where
  serial : Nat
  extListInstances : List Manager
  wlrManagementInstances : List Manager
  toplevels : List ToplevelData

def ForeignToplevelManagerState.new : ForeignToplevelManagerState := ⟨0, [], [], []⟩

def toStateVec (mapped : Mapped) (hasFocus : Bool) : List ToplevelState :=
  (if mapped.maximized then [.maximized] else []) ++
    (if mapped.fullscreen then [.fullscreen] else []) ++
    (if hasFocus then [.activated] else [])

/-! ## New objects -/

/-- The outputs of a client that a window on `output` is on. -/
def windowOutputs (bindings : List Binding) (output : Option Output) (client : Client) :
    List WlOutput :=
  match output with
  | some output => clientOutputs bindings output client
  | none => []

namespace ToplevelData

/-- The events of `add_ext_instance`. -/
def addExtInstance (data : ToplevelData) (toplevel : Handle) : List Message :=
  [.toplevel toplevel, .identifier toplevel data.identifier] ++
    (data.title.map (Message.title toplevel)).toList ++
    (data.appId.map (Message.appId toplevel)).toList ++ [.done toplevel]

/-- The events of `add_wlr_instance`. -/
def addWlrInstance (bindings : List Binding) (data : ToplevelData) (toplevel : Handle) :
    List Message :=
  [.toplevel toplevel] ++ (data.title.map (Message.title toplevel)).toList ++
    (data.appId.map (Message.appId toplevel)).toList ++ [.state toplevel data.states] ++
    (windowOutputs bindings data.output toplevel.manager.client).map
      (Message.outputEnter toplevel) ++ [.done toplevel]

/-- The new instance, and the outputs it has entered. -/
def wlrInstance (bindings : List Binding) (data : ToplevelData) (toplevel : Handle) :
    Handle × List WlOutput :=
  (toplevel, windowOutputs bindings data.output toplevel.manager.client)

end ToplevelData

/-! ## Refresh -/

namespace ForeignToplevelManagerState

/-- The record of a window is changed. -/
def setToplevel (s : ForeignToplevelManagerState) (data : ToplevelData) :
    ForeignToplevelManagerState :=
  { s with toplevels := data :: s.toplevels.filter fun d => d.surface ≠ data.surface }

/-- The events of a wlr instance of a window that has changed. -/
def wlrChanges (bindings : List Binding) (data : ToplevelData) (newTitle newAppId : Option String)
    (statesChanged outputChanged : Bool) (instance_ : Handle × List WlOutput) : List Message :=
  (newTitle.map (Message.title instance_.1)).toList ++
    (newAppId.map (Message.appId instance_.1)).toList ++
    (if statesChanged then [.state instance_.1 data.states] else []) ++
    (if outputChanged then
      instance_.2.map (Message.outputLeave instance_.1) ++
        (windowOutputs bindings data.output instance_.1.manager.client).map
          (Message.outputEnter instance_.1)
      else []) ++ [.done instance_.1]

def refreshToplevel (order : HashOrder) (bindings : List Binding)
    (s : ForeignToplevelManagerState) (mapped : Mapped) (output : Option Output)
    (hasFocus : Bool) : ForeignToplevelManagerState × List Message :=
  let states := toStateVec mapped hasFocus
  match s.toplevels.find? fun data => data.surface = mapped.surface with
  | some data =>
      let newTitle := if data.title ≠ mapped.title then mapped.title else none
      let newAppId := if data.appId ≠ mapped.appId then mapped.appId else none
      let statesChanged := data.states != states
      let outputChanged := data.output != output
      let somethingChangedForExt := newTitle.isSome || newAppId.isSome
      let somethingChangedForWlr :=
        newTitle.isSome || newAppId.isSome || statesChanged || outputChanged
      let updated := { data with title := mapped.title, appId := mapped.appId, states, output }
      let extEvents := if somethingChangedForExt then
          (order.list data.extListInstances).flatMap fun instance_ =>
            (newTitle.map (Message.title instance_)).toList ++
              (newAppId.map (Message.appId instance_)).toList ++ [.done instance_]
        else []
      let wlrEvents := if somethingChangedForWlr then
          (order.list data.wlrManagementInstances).flatMap
            (wlrChanges bindings updated newTitle newAppId statesChanged outputChanged)
        else []
      let isAlive (wlOutput : WlOutput) := bindings.any fun b => b.wlOutput = wlOutput
      let instances := data.wlrManagementInstances.map fun instance_ =>
        (instance_.1, (if outputChanged then
          windowOutputs bindings output instance_.1.manager.client else instance_.2).filter isAlive)
      (s.setToplevel { updated with wlrManagementInstances := instances }, extEvents ++ wlrEvents)
  | none =>
      let data : ToplevelData := ⟨mapped.surface, mapped.id, mapped.title, mapped.appId, states,
        output, [], []⟩
      let exts := newHandles s.serial (order.list s.extListInstances)
      let wlrs := newHandles (s.serial + exts.length) (order.list s.wlrManagementInstances)
      ({ s with
          serial := s.serial + exts.length + wlrs.length
          toplevels := { data with
            extListInstances := exts
            wlrManagementInstances := wlrs.map (data.wlrInstance bindings) } :: s.toplevels },
        exts.flatMap data.addExtInstance ++ wlrs.flatMap (data.addWlrInstance bindings))

/-- `retain` of the windows that are still there. -/
def dropClosed (order : HashOrder) (s : ForeignToplevelManagerState) (layout : Layout) :
    ForeignToplevelManagerState × List Message :=
  ({ s with toplevels := (order.list s.toplevels).filter fun data =>
      (layout.findWindowAndOutput data.surface).isSome },
    ((order.list s.toplevels).filter fun data =>
      ¬(layout.findWindowAndOutput data.surface).isSome).flatMap fun data =>
        (order.list data.extListInstances).map Message.closed ++
          (order.list data.wlrManagementInstances).map fun instance_ => .closed instance_.1)

/-- A loop that refreshes one window after the other. -/
def refreshAll (order : HashOrder) (bindings : List Binding) (hasFocus : Bool)
    (s : ForeignToplevelManagerState) :
    List (Mapped × Option Output) → ForeignToplevelManagerState × List Message
  | [] => (s, [])
  | e :: l =>
      let (s, events) := s.refreshToplevel order bindings e.1 e.2 hasFocus
      let (s, rest) := refreshAll order bindings hasFocus s l
      (s, events ++ rest)

def refresh (order : HashOrder) (bindings : List Binding) (s : ForeignToplevelManagerState)
    (state : State) : ForeignToplevelManagerState × List Message :=
  let isFocused (e : Mapped × Option Output) := decide (state.keyboardFocus = some e.1.surface)
  let windows := state.layout.withWindows
  let (s, closed) := s.dropClosed order state.layout
  let (s, others) := s.refreshAll order bindings false (windows.filter fun e => !isFocused e)
  -- the last one that has the focus, after all others
  let (s, focused) := s.refreshAll order bindings true (windows.filter isFocused).getLast?.toList
  (s, closed ++ others ++ focused)

/-! ## Requests -/

def bindExt (order : HashOrder) (s : ForeignToplevelManagerState) (client : Client) :
    ForeignToplevelManagerState × List Message :=
  let manager : Manager := ⟨client, s.serial⟩
  let new := (order.list s.toplevels).mapIdx fun i data =>
    (data, (⟨manager, s.serial + 1 + i⟩ : Handle))
  ({ s with
      serial := s.serial + 1 + new.length
      extListInstances := manager :: s.extListInstances
      toplevels := new.map fun e =>
        { e.1 with extListInstances := e.2 :: e.1.extListInstances } },
    new.flatMap fun e => e.1.addExtInstance e.2)

def bindWlr (order : HashOrder) (bindings : List Binding) (s : ForeignToplevelManagerState)
    (client : Client) : ForeignToplevelManagerState × List Message :=
  let manager : Manager := ⟨client, s.serial⟩
  let new := (order.list s.toplevels).mapIdx fun i data =>
    (data, (⟨manager, s.serial + 1 + i⟩ : Handle))
  ({ s with
      serial := s.serial + 1 + new.length
      wlrManagementInstances := manager :: s.wlrManagementInstances
      toplevels := new.map fun e =>
        { e.1 with wlrManagementInstances :=
            e.1.wlrInstance bindings e.2 :: e.1.wlrManagementInstances } },
    new.flatMap fun e => e.1.addWlrInstance bindings e.2)

/-- The `Stop` requests; the handles stay. -/
def stop (s : ForeignToplevelManagerState) (manager : Manager) :
    ForeignToplevelManagerState × List Message :=
  ({ s with
      extListInstances := s.extListInstances.filter fun m => m ≠ manager
      wlrManagementInstances := s.wlrManagementInstances.filter fun m => m ≠ manager },
    [.finished manager])

/-- A handle is destroyed by its client. -/
def destroyed (s : ForeignToplevelManagerState) (handle : Handle) : ForeignToplevelManagerState :=
  { s with toplevels := s.toplevels.map fun data =>
    { data with
      extListInstances := data.extListInstances.filter fun h => h ≠ handle
      wlrManagementInstances := data.wlrManagementInstances.filter fun e => e.1 ≠ handle } }

def onOutputBound (order : HashOrder) (s : ForeignToplevelManagerState) (output : Output)
    (client : Client) (wlOutput : WlOutput) : ForeignToplevelManagerState × List Message :=
  let entered (data : ToplevelData) := data.output = some output
  ({ s with toplevels := s.toplevels.map fun data =>
      if entered data then
        { data with wlrManagementInstances := data.wlrManagementInstances.map fun e =>
            if e.1.manager.client = client then (e.1, e.2 ++ [wlOutput]) else e }
      else data },
    ((order.list s.toplevels).filter fun data => entered data).flatMap fun data =>
      ((order.list data.wlrManagementInstances).filter fun e =>
        e.1.manager.client = client).flatMap fun e => [.outputEnter e.1 wlOutput, .done e.1])

end ForeignToplevelManagerState

end Cidre.Protocols.ForeignToplevel
