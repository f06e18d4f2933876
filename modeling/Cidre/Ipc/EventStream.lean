/-
  Cidre.Ipc.EventStream

  The client's view of the event stream (`crates/niri-ipc/src/state.rs`): six
  parts, each of which applies the events it knows and hands the others on.

  A hash map is its entries; the order in which it is iterated over is not part
  of the state.  Where the code depends on it, it comes with the step: the two
  loops over the windows that stop at the first match take the order of the ids
  as an argument, and `replicate` takes the lists of values (`Listing`).  A
  missing entry behind an `expect` panics, and the step answers `none`.
-/

import Cidre.Lib.Machine
import Cidre.Lib.Run
import Cidre.Lib.SortedMap

namespace Cidre.Ipc

open Cidre.Run

/-! ## Data -/

structure Timestamp where
  secs : U64
  nanos : Nat
deriving DecidableEq, Repr

structure Workspace where
  id : U64
  idx : Nat
  name : Option String
  output : Option String
  isUrgent : Bool
  isActive : Bool
  isFocused : Bool
  activeWindowId : Option U64
deriving DecidableEq, Repr

/-- A coordinate or a size.  The two zeros are one number, as they are for `==`. -/
abbrev Coord := { x : F64 // x.bits.val ≠ 2 ^ 63 }

/-- `(0.0, 0.0)`. -/
def origin : Coord × Coord := (⟨⟨0⟩, by decide⟩, ⟨⟨0⟩, by decide⟩)

structure WindowLayout where
  posInScrollingLayout : Option (Nat × Nat)
  tileSize : Coord × Coord
  windowSize : Int × Int
  tilePosInWorkspaceView : Option (Coord × Coord)
  windowOffsetInTile : Coord × Coord
deriving DecidableEq, Repr

structure Window where
  id : U64
  title : Option String
  appId : Option String
  pid : Option Int
  workspaceId : Option U64
  isFocused : Bool
  isFloating : Bool
  isUrgent : Bool
  layout : WindowLayout
  focusTimestamp : Option Timestamp
deriving DecidableEq, Repr

structure KeyboardLayouts where
  names : List String
  currentIdx : Nat
deriving DecidableEq, Repr

inductive CastKind where
  | pipeWire
  | wlrScreencopy
deriving DecidableEq, Repr

inductive CastTarget where
  | nothing
  | output (name : String)
  | window (id : U64)
deriving DecidableEq, Repr

structure Cast where
  streamId : U64
  sessionId : U64
  kind : CastKind
  target : CastTarget
  isDynamicTarget : Bool
  isActive : Bool
  pid : Option Int
  pwNodeId : Option Nat
deriving DecidableEq, Repr

/-- The events no part of the state keeps. -/
inductive UntrackedEvent where
  | screenshotCaptured
  | linkEnabled
  | linkDisabled
  | linkPeerDiscovered
  | linkPeerJoined
  | linkPeerLeft
  | linkLeaderChanged
  | linkGlobalLayoutChanged
  | linkRemoteTileCreated
  | linkRemoteTileUpdated
  | linkRemoteTileClosed
  | linkStreamStarted
  | linkStreamStopped
  | linkStreamDegraded
  | linkInputForwarded
  | linkSessionPersisted
  | linkError
  | touchpadGestureProgress
deriving DecidableEq, Repr

inductive Event where
  | workspacesChanged (workspaces : List Workspace)
  | workspaceUrgencyChanged (id : U64) (urgent : Bool)
  | workspaceActivated (id : U64) (focused : Bool)
  | workspaceActiveWindowChanged (workspaceId : U64) (activeWindowId : Option U64)
  | windowsChanged (windows : List Window)
  | windowOpenedOrChanged (window : Window)
  | windowClosed (id : U64)
  | windowFocusChanged (id : Option U64)
  | windowFocusTimestampChanged (id : U64) (focusTimestamp : Option Timestamp)
  | windowUrgencyChanged (id : U64) (urgent : Bool)
  | windowLayoutsChanged (changes : List (U64 × WindowLayout))
  | keyboardLayoutsChanged (keyboardLayouts : KeyboardLayouts)
  | keyboardLayoutSwitched (idx : Nat)
  | overviewOpenedOrClosed (isOpen : Bool)
  | configLoaded (failed : Bool)
  | castsChanged (casts : List Cast)
  | castStartedOrChanged (cast : Cast)
  | castStopped (streamId : U64)
  | untracked (event : UntrackedEvent)
deriving DecidableEq, Repr

/-! ## The parts of the state -/

/-- What `apply` does to a part: it keeps the event or hands it on. -/
inductive Applied (σ : Type) where
  | done (s : σ)
  | ignored (e : Event)

structure WorkspacesState where
  workspaces : SortedMap U64 Workspace
deriving DecidableEq

structure WindowsState where
  windows : SortedMap U64 Window
deriving DecidableEq

structure KeyboardLayoutsState where
  keyboardLayouts : Option KeyboardLayouts
deriving DecidableEq, Repr

structure OverviewState where
  isOpen : Bool
deriving DecidableEq, Repr

structure ConfigState where
  failed : Bool
deriving DecidableEq, Repr

structure CastsState where
  casts : SortedMap U64 Cast
deriving DecidableEq

structure EventStreamState where
  workspaces : WorkspacesState
  windows : WindowsState
  keyboardLayouts : KeyboardLayoutsState
  overview : OverviewState
  config : ConfigState
  casts : CastsState
deriving DecidableEq

def EventStreamState.default : EventStreamState :=
  ⟨⟨.empty⟩, ⟨.empty⟩, ⟨none⟩, ⟨false⟩, ⟨false⟩, ⟨.empty⟩⟩

namespace WorkspacesState

def activate (s : WorkspacesState) (id : U64) (focused : Bool) (output : Option String) :
    WorkspacesState :=
  ⟨s.workspaces.mapValues fun ws =>
    let gotActivated : Bool := ws.id = id
    let ws := if ws.output = output then { ws with isActive := gotActivated } else ws
    if focused then { ws with isFocused := gotActivated } else ws⟩

def apply (s : WorkspacesState) : Event → Option (Applied WorkspacesState)
  | .workspacesChanged workspaces => some (.done ⟨.ofValues Workspace.id workspaces⟩)
  | .workspaceUrgencyChanged id urgent =>
      some (.done ⟨s.workspaces.mapValues fun ws =>
        if ws.id = id then { ws with isUrgent := urgent } else ws⟩)
  | .workspaceActivated id focused =>
      (s.workspaces.get id).map fun ws => .done (s.activate id focused ws.output)
  | .workspaceActiveWindowChanged workspaceId activeWindowId =>
      if s.workspaces.contains workspaceId then
        some (.done ⟨s.workspaces.modify workspaceId fun ws => { ws with activeWindowId }⟩)
      else none
  | event => some (.ignored event)

def replicate (listed : List Workspace) : List Event := [.workspacesChanged listed]

end WorkspacesState

namespace WindowsState

/-- `if win.id == id { .. break; }`: the windows are visited in the given order. -/
def modifyFirst (order : List U64) (id : U64) (f : Window → Window) (windows : SortedMap U64 Window) :
    SortedMap U64 Window :=
  match order.find? fun k => (windows.get k).any fun w => w.id = id with
  | some k => windows.modify k f
  | none => windows

def unfocusOthers (id : U64) (windows : SortedMap U64 Window) : SortedMap U64 Window :=
  windows.mapValues fun w => if w.id ≠ id then { w with isFocused := false } else w

def changeLayouts (windows : SortedMap U64 Window) (changes : List (U64 × WindowLayout)) :
    Option (SortedMap U64 Window) :=
  changes.foldlM
    (fun ws change =>
      if ws.contains change.1 then some (ws.modify change.1 fun w => { w with layout := change.2 })
      else none)
    windows

def apply (order : List U64) (s : WindowsState) : Event → Option (Applied WindowsState)
  | .windowsChanged windows => some (.done ⟨.ofValues Window.id windows⟩)
  | .windowOpenedOrChanged window =>
      let windows := s.windows.insert window.id window
      some (.done ⟨if window.isFocused then unfocusOthers window.id windows else windows⟩)
  | .windowClosed id => if s.windows.contains id then some (.done ⟨s.windows.remove id⟩) else none
  | .windowFocusChanged id =>
      some (.done ⟨s.windows.mapValues fun w => { w with isFocused := decide (some w.id = id) }⟩)
  | .windowFocusTimestampChanged id focusTimestamp =>
      some (.done ⟨modifyFirst order id (fun w => { w with focusTimestamp }) s.windows⟩)
  | .windowUrgencyChanged id urgent =>
      some (.done ⟨modifyFirst order id (fun w => { w with isUrgent := urgent }) s.windows⟩)
  | .windowLayoutsChanged changes => (changeLayouts s.windows changes).map fun ws => .done ⟨ws⟩
  | event => some (.ignored event)

def replicate (listed : List Window) : List Event := [.windowsChanged listed]

end WindowsState

namespace KeyboardLayoutsState

def apply (s : KeyboardLayoutsState) : Event → Option (Applied KeyboardLayoutsState)
  | .keyboardLayoutsChanged keyboardLayouts => some (.done ⟨some keyboardLayouts⟩)
  | .keyboardLayoutSwitched idx =>
      s.keyboardLayouts.map fun kb => .done ⟨some { kb with currentIdx := idx }⟩
  | event => some (.ignored event)

def replicate (s : KeyboardLayoutsState) : List Event :=
  (s.keyboardLayouts.map Event.keyboardLayoutsChanged).toList

end KeyboardLayoutsState

namespace OverviewState

def apply : Event → Applied OverviewState
  | .overviewOpenedOrClosed isOpen => .done ⟨isOpen⟩
  | event => .ignored event

def replicate (s : OverviewState) : List Event := [.overviewOpenedOrClosed s.isOpen]

end OverviewState

namespace ConfigState

def apply : Event → Applied ConfigState
  | .configLoaded failed => .done ⟨failed⟩
  | event => .ignored event

def replicate (s : ConfigState) : List Event := [.configLoaded s.failed]

end ConfigState

namespace CastsState

def apply (s : CastsState) : Event → Option (Applied CastsState)
  | .castsChanged casts => some (.done ⟨.ofValues Cast.streamId casts⟩)
  | .castStartedOrChanged cast => some (.done ⟨s.casts.insert cast.streamId cast⟩)
  | .castStopped streamId =>
      if s.casts.contains streamId then some (.done ⟨s.casts.remove streamId⟩) else none
  | event => some (.ignored event)

def replicate (listed : List Cast) : List Event := [.castsChanged listed]

end CastsState

/-! ## The whole state -/

namespace EventStreamState

/-- The values of the three maps, in the order they are iterated over. -/
structure Listing where
  workspaces : List Workspace
  windows : List Window
  casts : List Cast

/-- Some order of the values of the state's maps. -/
structure Listing.Of (l : Listing) (s : EventStreamState) : Prop where
  workspaces : l.workspaces.Perm s.workspaces.workspaces.values
  windows : l.windows.Perm s.windows.windows.values
  casts : l.casts.Perm s.casts.casts.values

def replicate (l : Listing) (s : EventStreamState) : List Event :=
  WorkspacesState.replicate l.workspaces ++ WindowsState.replicate l.windows ++
    s.keyboardLayouts.replicate ++ s.overview.replicate ++ s.config.replicate ++
    CastsState.replicate l.casts

/-- `apply`: the parts in turn, until one keeps the event. -/
def apply (order : List U64) (s : EventStreamState) (event : Event) :
    Option (EventStreamState × Option Event) := do
  match ← s.workspaces.apply event with
  | .done workspaces => pure ({ s with workspaces }, none)
  | .ignored event =>
  match ← s.windows.apply order event with
  | .done windows => pure ({ s with windows }, none)
  | .ignored event =>
  match ← s.keyboardLayouts.apply event with
  | .done keyboardLayouts => pure ({ s with keyboardLayouts }, none)
  | .ignored event =>
  match OverviewState.apply event with
  | .done overview => pure ({ s with overview }, none)
  | .ignored event =>
  match ConfigState.apply event with
  | .done config => pure ({ s with config }, none)
  | .ignored event =>
  match ← s.casts.apply event with
  | .done casts => pure ({ s with casts }, none)
  | .ignored event => pure (s, some event)

end EventStreamState

/-- An event and the order in which the windows are iterated over. -/
structure Incoming where
  order : List U64
  event : Event

def EventStreamState.step (s : EventStreamState) (i : Incoming) : Option EventStreamState :=
  (s.apply i.order i.event).map Prod.fst

/-! ## Entries are filed under their own ids -/

namespace WorkspacesState

/-- What is handed on is the event itself. -/
theorem ignored_eq {s : WorkspacesState} {e e' : Event} (h : s.apply e = some (.ignored e')) :
    e' = e := by
  cases e with
  | workspacesChanged | workspaceUrgencyChanged => cases h
  | workspaceActivated id focused =>
    obtain ⟨ws, -, hdone⟩ := Option.map_eq_some_iff.mp h
    cases hdone
  | workspaceActiveWindowChanged workspaceId activeWindowId =>
    rw [apply] at h
    split at h <;> cases h
  | _ => exact (Applied.ignored.inj (Option.some.inj h)).symm

theorem keyedBy_apply {s s' : WorkspacesState} {e : Event}
    (hs : s.workspaces.KeyedBy Workspace.id) (h : s.apply e = some (.done s')) :
    s'.workspaces.KeyedBy Workspace.id := by
  cases e with
  | workspacesChanged workspaces =>
    obtain rfl := Applied.done.inj (Option.some.inj h)
    exact SortedMap.keyedBy_ofValues workspaces
  | workspaceUrgencyChanged id urgent =>
    obtain rfl := Applied.done.inj (Option.some.inj h)
    refine hs.mapValues fun ws => ?_
    split <;> rfl
  | workspaceActivated id focused =>
    obtain ⟨ws, -, hdone⟩ := Option.map_eq_some_iff.mp h
    obtain rfl := Applied.done.inj hdone
    refine hs.mapValues fun ws => ?_
    dsimp only
    split <;> split <;> rfl
  | workspaceActiveWindowChanged workspaceId activeWindowId =>
    rw [apply] at h
    split at h
    · obtain rfl := Applied.done.inj (Option.some.inj h)
      exact hs.modify workspaceId fun _ => rfl
    · cases h
  | _ => cases h

end WorkspacesState

namespace WindowsState

theorem keyedBy_modifyFirst {windows : SortedMap U64 Window} (hs : windows.KeyedBy Window.id)
    (order : List U64) (id : U64) {f : Window → Window} (hf : ∀ w, (f w).id = w.id) :
    (modifyFirst order id f windows).KeyedBy Window.id := by
  rw [modifyFirst]
  split
  · exact hs.modify _ hf
  · exact hs

theorem keyedBy_changeLayouts {windows windows' : SortedMap U64 Window}
    {changes : List (U64 × WindowLayout)} (hs : windows.KeyedBy Window.id)
    (h : changeLayouts windows changes = some windows') : windows'.KeyedBy Window.id := by
  refine @run_invariant _ _ _ (fun ws => ws.KeyedBy Window.id) ?_ _ _ _ h hs
  intro ws change ws' hws hstep
  split at hstep
  · rw [← Option.some.inj hstep]
    exact hws.modify change.1 fun _ => rfl
  · cases hstep

theorem ignored_eq {s : WindowsState} {order : List U64} {e e' : Event}
    (h : s.apply order e = some (.ignored e')) : e' = e := by
  cases e with
  | windowsChanged | windowOpenedOrChanged | windowFocusChanged | windowFocusTimestampChanged
  | windowUrgencyChanged => cases h
  | windowClosed id =>
    rw [apply] at h
    split at h <;> cases h
  | windowLayoutsChanged changes =>
    obtain ⟨ws, -, hdone⟩ := Option.map_eq_some_iff.mp h
    cases hdone
  | _ => exact (Applied.ignored.inj (Option.some.inj h)).symm

theorem keyedBy_apply {s s' : WindowsState} {order : List U64} {e : Event}
    (hs : s.windows.KeyedBy Window.id) (h : s.apply order e = some (.done s')) :
    s'.windows.KeyedBy Window.id := by
  cases e with
  | windowsChanged windows =>
    obtain rfl := Applied.done.inj (Option.some.inj h)
    exact SortedMap.keyedBy_ofValues windows
  | windowOpenedOrChanged window =>
    obtain rfl := Applied.done.inj (Option.some.inj h)
    have hinsert := hs.insert window
    dsimp only
    split
    · refine hinsert.mapValues fun w => ?_
      split <;> rfl
    · exact hinsert
  | windowClosed id =>
    rw [apply] at h
    split at h
    · obtain rfl := Applied.done.inj (Option.some.inj h)
      exact hs.remove id
    · cases h
  | windowFocusChanged id =>
    obtain rfl := Applied.done.inj (Option.some.inj h)
    exact hs.mapValues fun _ => rfl
  | windowFocusTimestampChanged id focusTimestamp | windowUrgencyChanged id urgent =>
    obtain rfl := Applied.done.inj (Option.some.inj h)
    exact keyedBy_modifyFirst hs order id fun _ => rfl
  | windowLayoutsChanged changes =>
    obtain ⟨ws, hws, hdone⟩ := Option.map_eq_some_iff.mp h
    obtain rfl := Applied.done.inj hdone
    exact keyedBy_changeLayouts hs hws
  | _ => cases h

end WindowsState

theorem KeyboardLayoutsState.ignored_eq {s : KeyboardLayoutsState} {e e' : Event}
    (h : s.apply e = some (.ignored e')) : e' = e := by
  cases e with
  | keyboardLayoutsChanged => cases h
  | keyboardLayoutSwitched idx =>
    obtain ⟨kb, -, hdone⟩ := Option.map_eq_some_iff.mp h
    cases hdone
  | _ => exact (Applied.ignored.inj (Option.some.inj h)).symm

theorem OverviewState.ignored_eq {e e' : Event} (h : OverviewState.apply e = .ignored e') :
    e' = e := by
  cases e with
  | overviewOpenedOrClosed => cases h
  | _ => exact (Applied.ignored.inj h).symm

theorem ConfigState.ignored_eq {e e' : Event} (h : ConfigState.apply e = .ignored e') : e' = e := by
  cases e with
  | configLoaded => cases h
  | _ => exact (Applied.ignored.inj h).symm

namespace CastsState

theorem keyedBy_apply {s s' : CastsState} {e : Event} (hs : s.casts.KeyedBy Cast.streamId)
    (h : s.apply e = some (.done s')) : s'.casts.KeyedBy Cast.streamId := by
  cases e with
  | castsChanged casts =>
    obtain rfl := Applied.done.inj (Option.some.inj h)
    exact SortedMap.keyedBy_ofValues casts
  | castStartedOrChanged cast =>
    obtain rfl := Applied.done.inj (Option.some.inj h)
    exact hs.insert cast
  | castStopped streamId =>
    rw [apply] at h
    split at h
    · obtain rfl := Applied.done.inj (Option.some.inj h)
      exact hs.remove streamId
    · cases h
  | _ => cases h

end CastsState

namespace EventStreamState

/-- Workspaces, windows and casts are filed under their ids. -/
structure Keyed (s : EventStreamState) : Prop where
  workspaces : s.workspaces.workspaces.KeyedBy Workspace.id
  windows : s.windows.windows.KeyedBy Window.id
  casts : s.casts.casts.KeyedBy Cast.streamId

/-- An event is kept by one part or by none. -/
theorem step_cases {s s' : EventStreamState} {i : Incoming} (h : s.step i = some s') :
    (∃ w, s.workspaces.apply i.event = some (.done w) ∧ s' = { s with workspaces := w }) ∨
    (∃ w, s.windows.apply i.order i.event = some (.done w) ∧ s' = { s with windows := w }) ∨
    (∃ c, s.casts.apply i.event = some (.done c) ∧ s' = { s with casts := c }) ∨
    (∃ k o c, s' = { s with keyboardLayouts := k, overview := o, config := c }) := by
  obtain ⟨order, event⟩ := i
  rw [step, Option.map_eq_some_iff] at h
  obtain ⟨⟨t, ignored⟩, happly, rfl⟩ := h
  rw [apply, Option.bind_eq_bind, Option.bind_eq_some_iff] at happly
  obtain ⟨workspaces, hworkspaces, happly⟩ := happly
  cases workspaces with
  | done w =>
    obtain ⟨rfl, -⟩ := Prod.mk.inj (Option.some.inj happly)
    exact Or.inl ⟨w, hworkspaces, rfl⟩
  | ignored e =>
  obtain rfl := WorkspacesState.ignored_eq hworkspaces
  dsimp only at happly
  rw [Option.bind_eq_bind, Option.bind_eq_some_iff] at happly
  obtain ⟨windows, hwindows, happly⟩ := happly
  cases windows with
  | done w =>
    obtain ⟨rfl, -⟩ := Prod.mk.inj (Option.some.inj happly)
    exact Or.inr (Or.inl ⟨w, hwindows, rfl⟩)
  | ignored e =>
  obtain rfl := WindowsState.ignored_eq hwindows
  dsimp only at happly
  rw [Option.bind_eq_bind, Option.bind_eq_some_iff] at happly
  obtain ⟨keyboard, hkeyboard, happly⟩ := happly
  cases keyboard with
  | done k =>
    obtain ⟨rfl, -⟩ := Prod.mk.inj (Option.some.inj happly)
    exact Or.inr (Or.inr (Or.inr ⟨k, s.overview, s.config, rfl⟩))
  | ignored e =>
  obtain rfl := KeyboardLayoutsState.ignored_eq hkeyboard
  dsimp only at happly
  cases hoverview : OverviewState.apply e with
  | done o =>
    rw [hoverview] at happly
    obtain ⟨rfl, -⟩ := Prod.mk.inj (Option.some.inj happly)
    exact Or.inr (Or.inr (Or.inr ⟨s.keyboardLayouts, o, s.config, rfl⟩))
  | ignored e' =>
  obtain rfl := OverviewState.ignored_eq hoverview
  rw [hoverview] at happly
  dsimp only at happly
  cases hconfig : ConfigState.apply e' with
  | done c =>
    rw [hconfig] at happly
    obtain ⟨rfl, -⟩ := Prod.mk.inj (Option.some.inj happly)
    exact Or.inr (Or.inr (Or.inr ⟨s.keyboardLayouts, s.overview, c, rfl⟩))
  | ignored e =>
  obtain rfl := ConfigState.ignored_eq hconfig
  rw [hconfig] at happly
  dsimp only at happly
  rw [Option.bind_eq_bind, Option.bind_eq_some_iff] at happly
  obtain ⟨casts, hcasts, happly⟩ := happly
  cases casts with
  | done c =>
    obtain ⟨rfl, -⟩ := Prod.mk.inj (Option.some.inj happly)
    exact Or.inr (Or.inr (Or.inl ⟨c, hcasts, rfl⟩))
  | ignored e' =>
    obtain ⟨rfl, -⟩ := Prod.mk.inj (Option.some.inj happly)
    exact Or.inr (Or.inr (Or.inr ⟨s.keyboardLayouts, s.overview, s.config, rfl⟩))

theorem Keyed.step {s s' : EventStreamState} {i : Incoming} (hs : s.Keyed) (h : s.step i = some s') :
    s'.Keyed := by
  obtain ⟨w, hw, rfl⟩ | ⟨w, hw, rfl⟩ | ⟨c, hc, rfl⟩ | ⟨k, o, c, rfl⟩ := step_cases h
  · exact ⟨WorkspacesState.keyedBy_apply hs.workspaces hw, hs.windows, hs.casts⟩
  · exact ⟨hs.workspaces, WindowsState.keyedBy_apply hs.windows hw, hs.casts⟩
  · exact ⟨hs.workspaces, hs.windows, CastsState.keyedBy_apply hs.casts hc⟩
  · exact ⟨hs.workspaces, hs.windows, hs.casts⟩

theorem keyed_default : EventStreamState.default.Keyed :=
  ⟨SortedMap.keyedBy_empty, SortedMap.keyedBy_empty, SortedMap.keyedBy_empty⟩

/-- Reachable states are keyed. -/
theorem keyed_of_run {s : EventStreamState} {is : List Incoming}
    (h : run EventStreamState.step .default is = some s) : s.Keyed :=
  run_invariant (fun _ _ _ hs hstep => hs.step hstep) h keyed_default

/-! ## Replication -/

/-- The order of the windows plays no part in the event. -/
def Unordered (e : Event) : Prop :=
  ∀ (s : EventStreamState) (order : List U64), s.step ⟨order, e⟩ = s.step ⟨[], e⟩

theorem run_unordered {is : List Incoming} {es : List Event} (his : is.map Incoming.event = es)
    (hes : ∀ e ∈ es, Unordered e) (s : EventStreamState) :
    run EventStreamState.step s is = run EventStreamState.step s (es.map fun e => ⟨[], e⟩) := by
  induction is generalizing es s with
  | nil =>
    rw [List.map_nil] at his
    rw [← his]
    rfl
  | cons i is ih =>
    rw [List.map_cons] at his
    subst his
    rw [List.map_cons, run_cons, run_cons]
    have hi : s.step i = s.step ⟨[], i.event⟩ := hes i.event List.mem_cons_self s i.order
    rw [hi]
    refine congrArg _ (funext fun t => ?_)
    exact ih rfl (fun e he => hes e (List.mem_cons_of_mem _ he)) t

theorem unordered_of_mem_replicate {l : Listing} {s : EventStreamState} {e : Event}
    (he : e ∈ s.replicate l) : Unordered e := by
  simp only [replicate, WorkspacesState.replicate, WindowsState.replicate,
    KeyboardLayoutsState.replicate, OverviewState.replicate, ConfigState.replicate,
    CastsState.replicate, List.mem_append, List.mem_singleton, Option.mem_toList,
    Option.map_eq_some_iff] at he
  rcases he with ((((rfl | rfl) | ⟨kb, -, rfl⟩) | rfl) | rfl) | rfl <;> exact fun _ _ => rfl

/-- Applying the events of `replicate` sets every part. -/
theorem run_replicate (l : Listing) (s : EventStreamState) :
    run EventStreamState.step .default ((s.replicate l).map fun e => ⟨[], e⟩) =
      some
        { workspaces := ⟨.ofValues Workspace.id l.workspaces⟩
          windows := ⟨.ofValues Window.id l.windows⟩
          keyboardLayouts := s.keyboardLayouts
          overview := s.overview
          config := s.config
          casts := ⟨.ofValues Cast.streamId l.casts⟩ } := by
  obtain ⟨workspaces, windows, ⟨keyboard⟩, overview, config, casts⟩ := s
  cases keyboard <;> rfl

/-- A reachable state is replicated by the events of `replicate`, whatever the
iteration orders of the maps on either side. -/
theorem replicate_reachable {s : EventStreamState} {is : List Incoming}
    (hreach : run EventStreamState.step .default is = some s) {l : Listing} (hl : l.Of s)
    {replay : List Incoming} (hreplay : replay.map Incoming.event = s.replicate l) :
    run EventStreamState.step .default replay = some s := by
  have hkeyed := keyed_of_run hreach
  rw [run_unordered hreplay (fun e he => unordered_of_mem_replicate he), run_replicate,
    hkeyed.workspaces.ofValues_eq hl.workspaces, hkeyed.windows.ofValues_eq hl.windows,
    hkeyed.casts.ofValues_eq hl.casts]

def sampleWindow (id : U64) (isFocused : Bool) : Window :=
  ⟨id, some "title", none, none, none, isFocused, false, false,
    ⟨some (1, 1), origin, (800, 600), none, origin⟩, none⟩

/-- Window 4 has lost the focus to window 2. -/
def twoWindows : EventStreamState :=
  { EventStreamState.default with
    windows := ⟨(SortedMap.empty.insert 4 (sampleWindow 4 false)).insert 2 (sampleWindow 2 true)⟩ }

/-- The state is replicated from a listing in the order the windows were opened in. -/
theorem replicate_two_windows :
    let opened : List Incoming := [⟨[], .windowOpenedOrChanged (sampleWindow 4 true)⟩,
      ⟨[4], .windowOpenedOrChanged (sampleWindow 2 true)⟩]
    let listing : Listing := ⟨[], [sampleWindow 4 false, sampleWindow 2 true], []⟩
    run EventStreamState.step .default opened = some twoWindows ∧
      run EventStreamState.step .default
        ((twoWindows.replicate listing).map fun e => ⟨[2, 4], e⟩) = some twoWindows := by
  intro opened listing
  have hreach : run EventStreamState.step .default opened = some twoWindows := rfl
  have hlisting : listing.Of twoWindows :=
    ⟨List.Perm.refl _, List.Perm.swap _ _ _, List.Perm.refl _⟩
  refine ⟨hreach, replicate_reachable hreach hlisting ?_⟩
  rw [List.map_map]
  exact List.map_id _

end EventStreamState

end Cidre.Ipc
