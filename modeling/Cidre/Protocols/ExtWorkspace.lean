/-
  Cidre.Protocols.ExtWorkspace

  The ext-workspace protocol (`src/protocols/ext_workspace.rs`): the records the
  compositor keeps of what it has told its clients, and the events each operation
  sends.

  A record of a hash map is put back at the front of the list when it changes;
  the list is only ever read in the order of a `HashOrder`.
-/

import Cidre.Protocols.Display

namespace Cidre.Protocols

/-! ## The layout -/

structure LayoutWorkspace where
  id : U64
  name : Option String
  isUrgent : Bool

structure LayoutMonitor where
  output : Output
  workspaces : List LayoutWorkspace
  activeWorkspaceIdx : Nat

inductive LayoutMonitors where
  | normal (monitors : List LayoutMonitor)
  | noOutputs (workspaces : List LayoutWorkspace)

/-- A workspace, and where it is. -/
structure Located where
  monitor : Option LayoutMonitor
  wsIdx : Nat
  workspace : LayoutWorkspace

namespace LayoutMonitors

def locate (monitor : Option LayoutMonitor) (workspaces : List LayoutWorkspace) : List Located :=
  workspaces.mapIdx fun wsIdx workspace => ⟨monitor, wsIdx, workspace⟩

def workspaces : LayoutMonitors → List Located
  | normal monitors => monitors.flatMap fun mon => locate (some mon) mon.workspaces
  | noOutputs workspaces => locate none workspaces

def outputs : LayoutMonitors → List Output
  | normal monitors => monitors.map LayoutMonitor.output
  | noOutputs _ => []

end LayoutMonitors

/-- What `refresh` reads of the layout. -/
structure LayoutState where
  monitorSet : LayoutMonitors
  sortedOutputs : List Output
  /-- each monitor has its output, and each output is there once -/
  outputs_perm : sortedOutputs.Perm monitorSet.outputs
  outputs_nodup : sortedOutputs.Nodup
  /-- no two workspaces have the same id -/
  ids_nodup : (monitorSet.workspaces.map fun at_ => at_.workspace.id).Nodup

namespace LayoutState

def workspaces (layout : LayoutState) : List Located := layout.monitorSet.workspaces

/-- No output has been plugged in, and no workspace is there. -/
def empty : LayoutState := ⟨.noOutputs [], [], List.Perm.refl _, List.nodup_nil, List.nodup_nil⟩

end LayoutState

/-! ## The protocol -/

/-- `ext_workspace_handle_v1::State`. -/
structure WorkspaceState where
  active : Bool
  urgent : Bool
deriving DecidableEq, Repr

/-- The events, with the object that they are sent on. -/
inductive Event where
  | workspaceGroup (group : Handle)
  | workspace (handle : Handle)
  | done (manager : Manager)
  | finished (manager : Manager)
  /-- no capabilities -/
  | groupCapabilities (group : Handle)
  | outputEnter (group : Handle) (wlOutput : WlOutput)
  | workspaceEnter (group handle : Handle)
  | workspaceLeave (group handle : Handle)
  | groupRemoved (group : Handle)
  | id (handle : Handle) (id : String)
  | name (handle : Handle) (name : String)
  | coordinates (handle : Handle) (coordinates : UInt32 × UInt32)
  | state (handle : Handle) (state : WorkspaceState)
  /-- activate and assign -/
  | capabilities (handle : Handle)
  | removed (handle : Handle)

/-- The manager whose client the event is sent to. -/
def Event.manager : Event → Manager
  | done manager | finished manager => manager
  | workspaceGroup h | groupCapabilities h | outputEnter h _ | workspaceEnter h _
  | workspaceLeave h _ | groupRemoved h | workspace h | id h _ | name h _ | coordinates h _
  | state h _ | capabilities h | removed h => h.manager

structure ExtWorkspaceGroupData where
  output : Output
  instances : List Handle

structure ExtWorkspaceData where
  workspace : U64
  id : Option String
  name : String
  coordinates : UInt32 × UInt32
  state : WorkspaceState
  instances : List Handle
  output : Option Output

/-- The serial is the display's, for the objects it creates. -/
structure ExtWorkspaceManagerState where
  serial : Nat
  instances : List Manager
  workspaceGroups : List ExtWorkspaceGroupData
  workspaces : List ExtWorkspaceData

def ExtWorkspaceManagerState.new : ExtWorkspaceManagerState := ⟨0, [], [], []⟩

/-! ## Single workspaces and groups -/

def sendWorkspaceEnterLeave (workspaceGroups : List ExtWorkspaceGroupData)
    (data : ExtWorkspaceData) (enter : Bool) : List Event :=
  match workspaceGroups.find? fun group => some group.output = data.output with
  | some groupData =>
      groupData.instances.flatMap fun group =>
        (data.instances.filter fun workspace => workspace.manager = group.manager).map
          fun workspace => if enter then .workspaceEnter group workspace
            else .workspaceLeave group workspace
  | none => []

def removeWorkspaceInstances (workspaceGroups : List ExtWorkspaceGroupData)
    (data : ExtWorkspaceData) : List Event :=
  sendWorkspaceEnterLeave workspaceGroups data false ++ data.instances.map Event.removed

namespace Located

def output (at_ : Located) : Option Output := at_.monitor.map LayoutMonitor.output

def buildName (at_ : Located) : String := at_.workspace.name.getD (toString (at_.wsIdx + 1))

def coordinates (at_ : Located) : UInt32 × UInt32 := (0, at_.wsIdx.toUInt32)

def state (at_ : Located) : WorkspaceState where
  active := at_.monitor.any fun mon => mon.activeWorkspaceIdx == at_.wsIdx
  urgent := at_.workspace.isUrgent

end Located

/-- The events of `ExtWorkspaceGroupData::add_instance`. -/
def ExtWorkspaceGroupData.addInstance (bindings : List Binding) (data : ExtWorkspaceGroupData)
    (group : Handle) : List Event :=
  [.workspaceGroup group, .groupCapabilities group] ++
    (clientOutputs bindings data.output group.manager.client).map (Event.outputEnter group)

/-- The events of `ExtWorkspaceData::add_instance`. -/
def ExtWorkspaceData.addInstance (data : ExtWorkspaceData) (workspace : Handle) : List Event :=
  [.workspace workspace] ++ (data.id.map (Event.id workspace)).toList ++
    [.name workspace data.name, .coordinates workspace data.coordinates,
      .state workspace data.state, .capabilities workspace]

/-! ## Refresh -/

/-- The new state, the events, and whether something changed. -/
structure Refreshed where
  state : ExtWorkspaceManagerState
  events : List Event
  changed : Bool

namespace ExtWorkspaceManagerState

/-- `retain` of the workspaces. -/
def dropWorkspaces (order : HashOrder) (s : ExtWorkspaceManagerState) (seen : List U64) :
    Refreshed :=
  let dropped := (order.list s.workspaces).filter fun data => data.workspace ∉ seen
  { state := { s with
      workspaces := (order.list s.workspaces).filter fun data => data.workspace ∈ seen }
    events := dropped.flatMap (removeWorkspaceInstances s.workspaceGroups)
    changed := !dropped.isEmpty }

/-- A group that is removed. -/
def removeGroup (order : HashOrder) (s : ExtWorkspaceManagerState)
    (data : ExtWorkspaceGroupData) : List Event :=
  data.instances.flatMap fun group =>
    (((order.list s.workspaces).filter fun ws => ws.output = some data.output).flatMap fun ws =>
      (ws.instances.filter fun workspace => workspace.manager = group.manager).map
        (Event.workspaceLeave group)) ++ [.groupRemoved group]

/-- `retain` of the workspace groups. -/
def dropGroups (order : HashOrder) (s : ExtWorkspaceManagerState) (sortedOutputs : List Output) :
    Refreshed :=
  let dropped := (order.list s.workspaceGroups).filter fun data => data.output ∉ sortedOutputs
  { state := { s with
      workspaceGroups :=
        (order.list s.workspaceGroups).filter fun data => data.output ∈ sortedOutputs }
    events := dropped.flatMap (s.removeGroup order)
    changed := !dropped.isEmpty }

/-- The record of a workspace is changed. -/
def setWorkspace (s : ExtWorkspaceManagerState) (data : ExtWorkspaceData) :
    ExtWorkspaceManagerState :=
  { s with workspaces := data :: s.workspaces.filter fun d => d.workspace ≠ data.workspace }

/-- A workspace without instances gets one for each manager, and enters its
    group. -/
def createInstances (order : HashOrder) (s : ExtWorkspaceManagerState) (data : ExtWorkspaceData) :
    ExtWorkspaceManagerState × List Event :=
  let managers := order.list s.instances
  let data := { data with instances := newHandles s.serial managers }
  ({ s.setWorkspace data with serial := s.serial + managers.length },
    data.instances.flatMap data.addInstance ++ sendWorkspaceEnterLeave s.workspaceGroups data true)

def refreshWorkspace (order : HashOrder) (s : ExtWorkspaceManagerState) (at_ : Located) :
    Refreshed :=
  match s.workspaces.find? fun data => data.workspace = at_.workspace.id with
  | some data =>
      let id := at_.workspace.name
      let idSet := data.id != id && data.id.isNone
      let recreate := data.id != id && data.id.isSome
      let coordinatesChanged := data.coordinates.2 != at_.wsIdx.toUInt32
      let stateChanged := data.state != at_.state
      let check := recreate || if id.isSome then idSet else coordinatesChanged
      let nameChanged := check && data.name != at_.buildName
      let updated := { data with
        id := id
        name := if check then at_.buildName else data.name
        coordinates := (data.coordinates.1, at_.wsIdx.toUInt32)
        state := at_.state }
      let outputChanged := data.output != at_.output
      let left := if outputChanged then sendWorkspaceEnterLeave s.workspaceGroups updated false
        else []
      let moved := { updated with output := at_.output }
      if recreate then
        -- the output of `moved` is the new one here
        let removed := removeWorkspaceInstances s.workspaceGroups moved
        let (s, created) := s.createInstances order { moved with instances := [] }
        ⟨s, left ++ removed ++ created, true⟩
      else
        let entered := if outputChanged then sendWorkspaceEnterLeave s.workspaceGroups moved true
          else []
        let changes := moved.instances.flatMap fun instance_ =>
          (if idSet then (id.map (Event.id instance_)).toList else []) ++
          (if nameChanged then [.name instance_ moved.name] else []) ++
          (if coordinatesChanged then [.coordinates instance_ moved.coordinates] else []) ++
          (if stateChanged then [.state instance_ moved.state] else [])
        ⟨s.setWorkspace moved, left ++ entered ++ changes,
          outputChanged || (idSet || nameChanged || coordinatesChanged || stateChanged)⟩
  | none =>
      let (s, created) := s.createInstances order
        { workspace := at_.workspace.id
          id := at_.workspace.name
          name := at_.buildName
          coordinates := at_.coordinates
          state := at_.state
          instances := []
          output := at_.output }
      ⟨s, created, true⟩

def refreshWorkspaceGroup (order : HashOrder) (bindings : List Binding)
    (s : ExtWorkspaceManagerState) (output : Output) : Refreshed :=
  if s.workspaceGroups.any fun data => data.output = output then ⟨s, [], false⟩
  else
    let managers := order.list s.instances
    let data : ExtWorkspaceGroupData := ⟨output, newHandles s.serial managers⟩
    let entered := data.instances.flatMap fun group =>
      ((order.list s.workspaces).filter fun ws => ws.output = some output).flatMap fun ws =>
        (ws.instances.filter fun workspace => workspace.manager = group.manager).map
          (Event.workspaceEnter group)
    ⟨{ s with
        serial := s.serial + managers.length
        workspaceGroups := data :: s.workspaceGroups },
      data.instances.flatMap (data.addInstance bindings) ++ entered, true⟩

/-- A loop over `l` that refreshes one thing after the other. -/
def refreshAll {α : Type} (f : ExtWorkspaceManagerState → α → Refreshed)
    (s : ExtWorkspaceManagerState) : List α → Refreshed
  | [] => ⟨s, [], false⟩
  | a :: l =>
      let first := f s a
      let rest := refreshAll f first.state l
      ⟨rest.state, first.events ++ rest.events, first.changed || rest.changed⟩

def refresh (order : HashOrder) (bindings : List Binding) (s : ExtWorkspaceManagerState)
    (layout : LayoutState) : ExtWorkspaceManagerState × List Event :=
  let seen := layout.workspaces.map fun at_ => at_.workspace.id
  let dropped := s.dropWorkspaces order seen
  let ungrouped := dropped.state.dropGroups order layout.sortedOutputs
  let updated := refreshAll (refreshWorkspace order) ungrouped.state layout.workspaces
  let grouped := refreshAll (refreshWorkspaceGroup order bindings) updated.state
    layout.sortedOutputs
  let changed := dropped.changed || ungrouped.changed || updated.changed || grouped.changed
  (grouped.state, dropped.events ++ ungrouped.events ++ updated.events ++ grouped.events ++
    if changed then (order.list grouped.state.instances).map Event.done else [])

/-! ## Requests -/

/-- `bind`. -/
def bind (order : HashOrder) (bindings : List Binding) (s : ExtWorkspaceManagerState)
    (client : Client) : ExtWorkspaceManagerState × List Event :=
  let manager : Manager := ⟨client, s.serial⟩
  let newWorkspaces := (order.list s.workspaces).mapIdx fun i data =>
    (data, (⟨manager, s.serial + 1 + i⟩ : Handle))
  let newGroups := (order.list s.workspaceGroups).mapIdx fun i data =>
    (data, (⟨manager, s.serial + 1 + newWorkspaces.length + i⟩ : Handle))
  ({ serial := s.serial + 1 + newWorkspaces.length + newGroups.length
     instances := manager :: s.instances
     workspaceGroups := newGroups.map fun e => { e.1 with instances := e.1.instances ++ [e.2] }
     workspaces := newWorkspaces.map fun e => { e.1 with instances := e.1.instances ++ [e.2] } },
    (newWorkspaces.flatMap fun e => e.1.addInstance e.2) ++
      (newGroups.flatMap fun e => e.1.addInstance bindings e.2 ++
        (newWorkspaces.filter fun ws => ws.1.output = some e.1.output).map
          fun ws => .workspaceEnter e.2 ws.2) ++
      [.done manager])

/-- The `Stop` request. -/
def stop (s : ExtWorkspaceManagerState) (manager : Manager) :
    ExtWorkspaceManagerState × List Event :=
  let others (instances : List Handle) := instances.filter fun h => h.manager ≠ manager
  ({ s with
      instances := s.instances.filter fun m => m ≠ manager
      workspaceGroups := s.workspaceGroups.map fun data =>
        { data with instances := others data.instances }
      workspaces := s.workspaces.map fun data =>
        { data with instances := others data.instances } },
    [.finished manager])

def onOutputBound (order : HashOrder) (s : ExtWorkspaceManagerState) (output : Output)
    (client : Client) (wlOutput : WlOutput) : List Event :=
  match s.workspaceGroups.find? fun data => data.output = output with
  | none => []
  | some data =>
      let sent := (data.instances.filter fun group => group.manager.client = client).map fun group =>
        Event.outputEnter group wlOutput
      if sent.isEmpty then []
      else sent ++ ((order.list s.instances).filter fun manager => manager.client = client).map
        Event.done

end ExtWorkspaceManagerState

end Cidre.Protocols
