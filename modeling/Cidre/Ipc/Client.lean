/-
  Cidre.Ipc.Client

  A client that folds the events has what the compositor has.

  The server refreshes its state after every change of the layout and sends the
  events to all clients; a client gets the events that replicate the state when
  it connects, and all later ones.
-/

import Cidre.Ipc.WindowDiffing

namespace Cidre.Ipc

open Cidre.Run

/-! ## The state mirrors the layout -/

/-- The workspaces and the windows of the state are those of the layout. -/
structure EventStreamState.Mirrors (pid : U64 → Option Int) (layout : Layout)
    (s : EventStreamState) : Prop where
  workspaces_eq : s.workspaces = ⟨.ofValues Workspace.id layout.ipcWorkspaces⟩
  windows_eq : s.windows = ⟨.ofValues Window.id (layout.ipcWindows pid)⟩

/-- Before the first output. -/
def Layout.empty : Layout := ⟨.noOutputs [], none, false⟩

theorem Layout.empty_valid : Layout.empty.Valid :=
  ⟨List.nodup_nil, List.nodup_nil, by simp [Layout.windows, Layout.workspaces, Layout.empty,
    Layout.locate], by simp [Layout.empty]⟩

theorem default_mirrors (pid : U64 → Option Int) :
    EventStreamState.default.Mirrors pid Layout.empty := ⟨rfl, rfl⟩

theorem Layout.Valid.refreshing {layout layout' : Layout} (h : layout.Valid) (h' : layout'.Valid)
    (pid : U64 → Option Int) : WindowsState.Refreshing
      ⟨.ofValues Window.id (layout.ipcWindows pid)⟩ pid layout'.windows := by
  have hnodup : ((layout.ipcWindows pid).map Window.id).Nodup := by
    rw [Layout.ipcWindows, List.map_map]
    exact h.windows_nodup
  have hget : ∀ k o, (SortedMap.ofValues Window.id (layout.ipcWindows pid)).get k = some o →
      ∃ e ∈ layout.windows, makeIpcWindow pid e.1 e.2 = o ∧ e.1.id = k := by
    intro k o ho
    obtain ⟨hmem, rfl⟩ := (SortedMap.get_ofValues_eq_some_iff hnodup).mp ho
    obtain ⟨e, he, rfl⟩ := List.mem_map.mp hmem
    exact ⟨e, he, rfl, rfl⟩
  refine ⟨SortedMap.keyedBy_ofValues _, ?_, ?_, h'.windows_nodup, h'.focused_unique⟩
  · intro k o ho
    obtain ⟨e, -, rfl, rfl⟩ := hget k o ho
    rfl
  · intro k o k' o' ho ho' hfocused hfocused'
    obtain ⟨e, he, rfl, rfl⟩ := hget k o ho
    obtain ⟨e', he', rfl, rfl⟩ := hget k' o' ho'
    exact h.focused_unique e he e' he' hfocused hfocused'

/-- The state after a refresh. -/
def EventStreamState.refreshed (s : EventStreamState) (pid : U64 → Option Int) (layout : Layout) :
    EventStreamState :=
  { s with
    workspaces := ⟨.ofValues Workspace.id layout.ipcWorkspaces⟩
    windows := ⟨.ofValues Window.id (layout.ipcWindows pid)⟩
    overview := ⟨layout.overviewOpen⟩ }

/-- A refresh does not panic, and the state mirrors the new layout. -/
theorem refreshLayout_eq {pid : U64 → Option Int} {layout layout' : Layout}
    {s : EventStreamState} (hs : s.Mirrors pid layout) (h : layout.Valid) (h' : layout'.Valid)
    (order : HashOrder) (orders : Nat → HashOrder) :
    s.refreshLayout pid order orders layout' = some (s.refreshed pid layout',
      s.workspaces.refresh layout' ++ s.windows.refresh order pid layout' ++
        s.overview.refresh layout') := by
  obtain ⟨workspaces, windows, keyboard, overview, config, casts⟩ := s
  obtain ⟨rfl, rfl⟩ := hs
  have hworkspaces := WorkspacesState.refresh_applyAll (Layout.ipcWorkspaces_wellFormed h)
    (Layout.ipcWorkspaces_wellFormed h')
  have hwindows := WindowsState.refresh_applyAll (h.refreshing h' pid) order orders
  simp only [EventStreamState.refreshLayout, hworkspaces, hwindows]
  rfl

/-! ## Clients -/

/-- A client takes the events one after the other; the order its map is iterated
    over in may be another one each time. -/
def EventStreamState.deliver (s : EventStreamState) :
    List Event → (Nat → HashOrder) → Option EventStreamState
  | [], _ => some s
  | event :: events, orders =>
      (s.step ⟨(orders 0).keys s.windows, event⟩).bind fun s' =>
        s'.deliver events fun n => orders (n + 1)

theorem deliver_append (s : EventStreamState) (events events' : List Event)
    (orders : Nat → HashOrder) : s.deliver (events ++ events') orders =
      (s.deliver events orders).bind fun s' =>
        s'.deliver events' fun n => orders (n + events.length) := by
  induction events generalizing s orders with
  | nil => rfl
  | cons event events ih =>
    rw [List.cons_append, EventStreamState.deliver, EventStreamState.deliver, Option.bind_assoc]
    exact congrArg _ (funext fun s' => ih _ _)

def Event.isWorkspaceEvent : Event → Bool
  | .workspacesChanged _ => true
  | .workspaceUrgencyChanged _ _ => true
  | .workspaceActivated _ _ => true
  | .workspaceActiveWindowChanged _ _ => true
  | _ => false

def Event.isWindowEvent : Event → Bool
  | .windowsChanged _ => true
  | .windowOpenedOrChanged _ => true
  | .windowClosed _ => true
  | .windowFocusChanged _ => true
  | .windowFocusTimestampChanged _ _ => true
  | .windowUrgencyChanged _ _ => true
  | .windowLayoutsChanged _ => true
  | _ => false

theorem WorkspacesState.apply_ne_ignored {event : Event} (h : event.isWorkspaceEvent = true)
    (s : WorkspacesState) (e : Event) : s.apply event ≠ some (.ignored e) := by
  intro hignored
  obtain rfl := ignored_eq hignored
  cases e with
  | workspacesChanged | workspaceUrgencyChanged => cases hignored
  | workspaceActivated id focused =>
    obtain ⟨ws, -, hdone⟩ := Option.map_eq_some_iff.mp hignored
    cases hdone
  | workspaceActiveWindowChanged workspaceId activeWindowId =>
    rw [apply] at hignored
    split at hignored <;> cases hignored
  | _ => cases h

theorem WindowsState.apply_ne_ignored {event : Event} (h : event.isWindowEvent = true)
    (s : WindowsState) (order : List U64) (e : Event) :
    s.apply order event ≠ some (.ignored e) := by
  intro hignored
  obtain rfl := ignored_eq hignored
  cases e with
  | windowsChanged | windowOpenedOrChanged | windowFocusChanged | windowFocusTimestampChanged
  | windowUrgencyChanged => cases hignored
  | windowClosed id =>
    rw [apply] at hignored
    split at hignored <;> cases hignored
  | windowLayoutsChanged changes =>
    obtain ⟨ws, -, hdone⟩ := Option.map_eq_some_iff.mp hignored
    cases hdone
  | _ => cases h

theorem step_workspaceEvent {s : EventStreamState} {i : Incoming} {w : WorkspacesState}
    (h : s.workspaces.apply i.event = some (.done w)) : s.step i = some { s with workspaces := w } := by
  rw [EventStreamState.step, EventStreamState.apply, h]
  rfl

theorem step_windowEvent {s : EventStreamState} {i : Incoming} {w : WindowsState}
    (hevent : i.event.isWindowEvent = true) (h : s.windows.apply i.order i.event = some (.done w)) :
    s.step i = some { s with windows := w } := by
  obtain ⟨order, event⟩ := i
  have hignored : s.workspaces.apply event = some (.ignored event) := by
    cases event with
    | windowsChanged | windowOpenedOrChanged | windowFocusChanged | windowFocusTimestampChanged
    | windowUrgencyChanged | windowClosed | windowLayoutsChanged => rfl
    | _ => cases hevent
  rw [EventStreamState.step, EventStreamState.apply, hignored]
  show (Option.map Prod.fst (s.windows.apply order event >>= _)) = _
  rw [h]
  rfl

theorem deliver_workspaceEvents {events : List Event}
    (hevents : ∀ e ∈ events, e.isWorkspaceEvent = true) {s : EventStreamState}
    {w : WorkspacesState} (h : s.workspaces.applyAll events = some w) (orders : Nat → HashOrder) :
    s.deliver events orders = some { s with workspaces := w } := by
  induction events generalizing s orders with
  | nil =>
    obtain rfl := Option.some.inj h
    rfl
  | cons event events ih =>
    rw [WorkspacesState.applyAll, List.foldlM_cons] at h
    obtain ⟨w₁, hw₁, hrest⟩ := Option.bind_eq_some_iff.mp h
    obtain ⟨applied, happly, hstep⟩ := Option.map_eq_some_iff.mp hw₁
    cases applied with
    | ignored e =>
      exact absurd happly
        (WorkspacesState.apply_ne_ignored (hevents event List.mem_cons_self) _ e)
    | done w' =>
      obtain rfl : w' = w₁ := hstep
      rw [EventStreamState.deliver, step_workspaceEvent happly, Option.bind_some]
      have hlater := fun e he => hevents e (List.mem_cons_of_mem _ he)
      exact @ih hlater { s with workspaces := w' } hrest _

theorem deliver_windowEvents {events : List Event}
    (hevents : ∀ e ∈ events, e.isWindowEvent = true) {s : EventStreamState} {w : WindowsState}
    {orders : Nat → HashOrder} (h : s.windows.applyAll events orders = some w) :
    s.deliver events orders = some { s with windows := w } := by
  induction events generalizing s orders with
  | nil =>
    obtain rfl := Option.some.inj h
    rfl
  | cons event events ih =>
    rw [WindowsState.applyAll] at h
    obtain ⟨applied, happly, hrest⟩ := Option.bind_eq_some_iff.mp h
    have hevent := hevents event List.mem_cons_self
    cases applied with
    | ignored e => exact absurd happly (WindowsState.apply_ne_ignored hevent _ _ e)
    | done w' =>
      rw [EventStreamState.deliver, step_windowEvent hevent happly, Option.bind_some]
      exact ih (fun e he => hevents e (List.mem_cons_of_mem _ he)) hrest

/-! ## What kind the events are of -/

theorem WorkspacesState.changes_kind {s : WorkspacesState} {focused : Option U64}
    {rest : List Located} {events : List Event} (h : s.changes focused rest = some events) :
    ∀ e ∈ events, e.isWorkspaceEvent = true := by
  induction rest generalizing events with
  | nil =>
    obtain rfl := Option.some.inj h
    simp
  | cons at_ rest ih =>
    rw [changes] at h
    split at h
    · cases h
    · split at h
      · cases h
      · obtain ⟨events', hevents', rfl⟩ := Option.map_eq_some_iff.mp h
        intro e he
        rcases List.mem_append.mp he with he | he
        · simp only [workspaceEvents, List.mem_append] at he
          rcases he with (he | he) | he
          · split at he
            · rw [List.mem_singleton.mp he]
              rfl
            · cases he
          · split at he
            · rw [List.mem_singleton.mp he]
              rfl
            · cases he
          · split at he
            · rw [List.mem_singleton.mp he]
              rfl
            · split at he
              · rw [List.mem_singleton.mp he]
                rfl
              · cases he
        · exact ih hevents' e he

theorem WorkspacesState.refresh_kind (s : WorkspacesState) (layout : Layout) :
    ∀ e ∈ s.refresh layout, e.isWorkspaceEvent = true := by
  intro e he
  simp only [refresh] at he
  split at he
  · next hchanges =>
    split at he
    · rw [List.mem_singleton.mp he]
      rfl
    · exact changes_kind hchanges e he
  · rw [List.mem_singleton.mp he]
    rfl

theorem WindowsState.windowEvents_kind (s : WindowsState) (pid : U64 → Option Int)
    (mapped : Mapped) (workspaceId : Option U64) :
    ∀ e ∈ s.windowEvents pid mapped workspaceId, e.isWindowEvent = true := by
  intro e he
  rw [windowEvents] at he
  split at he
  · rw [List.mem_singleton.mp he]
    rfl
  · split at he
    · rw [List.mem_singleton.mp he]
      rfl
    · rw [List.mem_append, List.mem_append] at he
      rcases he with (he | he) | he
      · split at he
        · rw [List.mem_singleton.mp he]
          rfl
        · cases he
      · split at he
        · rw [List.mem_singleton.mp he]
          rfl
        · cases he
      · split at he
        · rw [List.mem_singleton.mp he]
          rfl
        · cases he

theorem WindowsState.refresh_kind (order : HashOrder) (s : WindowsState) (pid : U64 → Option Int)
    (layout : Layout) : ∀ e ∈ s.refresh order pid layout, e.isWindowEvent = true := by
  intro e he
  simp only [refresh, List.mem_append] at he
  rcases he with ((he | he) | he) | he
  · obtain ⟨win, -, he⟩ := List.mem_flatMap.mp he
    exact windowEvents_kind s pid win.1 win.2 e he
  · split at he
    · rw [List.mem_singleton.mp he]
      rfl
    · cases he
  · obtain ⟨id, -, rfl⟩ := List.mem_map.mp he
    rfl
  · split at he
    · rw [List.mem_singleton.mp he]
      rfl
    · cases he

/-- A client that has the state follows a refresh. -/
theorem deliver_refresh {pid : U64 → Option Int} {layout layout' : Layout}
    {s : EventStreamState} (hs : s.Mirrors pid layout) (h : layout.Valid) (h' : layout'.Valid)
    (order : HashOrder) (orders : Nat → HashOrder) :
    s.deliver (s.workspaces.refresh layout' ++ s.windows.refresh order pid layout' ++
      s.overview.refresh layout') orders = some (s.refreshed pid layout') := by
  obtain ⟨workspaces, windows, keyboard, overview, config, casts⟩ := s
  obtain ⟨rfl, rfl⟩ := hs
  have hworkspaces := WorkspacesState.refresh_applyAll (Layout.ipcWorkspaces_wellFormed h)
    (Layout.ipcWorkspaces_wellFormed h')
  have hwindows := WindowsState.refresh_applyAll (h.refreshing h' pid) order
  rw [deliver_append, deliver_append,
    deliver_workspaceEvents (WorkspacesState.refresh_kind _ _) hworkspaces, Option.bind_some,
    deliver_windowEvents (WindowsState.refresh_kind _ _ _ _) (hwindows _), Option.bind_some]
  rw [OverviewState.refresh]
  split
  · next heq =>
    simp only [EventStreamState.deliver, EventStreamState.refreshed]
    rw [← heq]
  · rfl

/-! ## The server -/

/-- What the server does next: it refreshes for a new layout, or sends an event
    that is about neither workspaces nor windows. -/
inductive Tick where
  | refresh (layout : Layout) (order : HashOrder) (orders : Nat → HashOrder)
  | other (event : Event)

/-- The layouts are such as there are. -/
def Tick.Valid : Tick → Prop
  | .refresh layout _ _ => layout.Valid
  | .other event => event.isWorkspaceEvent = false ∧ event.isWindowEvent = false

namespace EventStreamState

def tick (pid : U64 → Option Int) (s : EventStreamState) :
    Tick → Option (EventStreamState × List Event)
  | .refresh layout order orders => s.refreshLayout pid order orders layout
  | .other event => (s.step ⟨[], event⟩).map fun s' => (s', [event])

/-- The server's state, and the events it has sent. -/
def serve (pid : U64 → Option Int) (s : EventStreamState) :
    List Tick → Option (EventStreamState × List Event)
  | [] => some (s, [])
  | t :: ticks => do
      let (s', events) ← s.tick pid t
      let (s'', events') ← s'.serve pid ticks
      return (s'', events ++ events')

end EventStreamState

/-- The layout of the last refresh. -/
def lastLayout (start : Layout) : List Tick → Layout
  | [] => start
  | .refresh layout _ _ :: ticks => lastLayout layout ticks
  | .other _ :: ticks => lastLayout start ticks

theorem otherEvent_unordered {event : Event} (h : event.isWorkspaceEvent = false)
    (h' : event.isWindowEvent = false) (s : EventStreamState) (order : List U64) :
    s.step ⟨order, event⟩ = s.step ⟨[], event⟩ := by
  cases event with
  | workspacesChanged | workspaceUrgencyChanged | workspaceActivated
  | workspaceActiveWindowChanged => cases h
  | windowsChanged | windowOpenedOrChanged | windowFocusChanged | windowFocusTimestampChanged
  | windowUrgencyChanged | windowClosed | windowLayoutsChanged => cases h'
  | _ => rfl

theorem otherEvent_keeps {event : Event} (h : event.isWorkspaceEvent = false)
    (h' : event.isWindowEvent = false) {s s' : EventStreamState}
    (hstep : s.step ⟨[], event⟩ = some s') :
    s'.workspaces = s.workspaces ∧ s'.windows = s.windows := by
  obtain ⟨w, hw, rfl⟩ | ⟨w, hw, rfl⟩ | ⟨c, -, rfl⟩ | ⟨k, o, c, rfl⟩ :=
    EventStreamState.step_cases hstep
  · cases event with
    | workspacesChanged | workspaceUrgencyChanged | workspaceActivated
    | workspaceActiveWindowChanged => cases h
    | _ => cases hw
  · cases event with
    | windowsChanged | windowOpenedOrChanged | windowFocusChanged | windowFocusTimestampChanged
    | windowUrgencyChanged | windowClosed | windowLayoutsChanged => cases h'
    | _ => cases hw
  · exact ⟨rfl, rfl⟩
  · exact ⟨rfl, rfl⟩

/-- The server's state between two ticks. -/
structure Serving (pid : U64 → Option Int) (layout : Layout) (s : EventStreamState) : Prop where
  mirrors : s.Mirrors pid layout
  valid : layout.Valid
  keyed : s.Keyed

theorem serving_default (pid : U64 → Option Int) :
    Serving pid Layout.empty EventStreamState.default :=
  ⟨default_mirrors pid, Layout.empty_valid, EventStreamState.keyed_default⟩

/-- One tick, and a client that has the state. -/
theorem Serving.tick {pid : U64 → Option Int} {layout : Layout} {s s' : EventStreamState}
    {t : Tick} {events : List Event} (h : Serving pid layout s) (ht : t.Valid)
    (htick : s.tick pid t = some (s', events)) :
    Serving pid (lastLayout layout [t]) s' ∧ ∀ orders, s.deliver events orders = some s' := by
  cases t with
  | refresh layout' order orders =>
    have hlayout : layout'.Valid := ht
    rw [EventStreamState.tick, refreshLayout_eq h.mirrors h.valid hlayout] at htick
    obtain ⟨rfl, rfl⟩ := Prod.mk.inj (Option.some.inj htick)
    exact ⟨⟨⟨rfl, rfl⟩, ht, SortedMap.keyedBy_ofValues _, SortedMap.keyedBy_ofValues _,
      h.keyed.casts⟩, deliver_refresh h.mirrors h.valid ht order⟩
  | other event =>
    obtain ⟨s₁, hs₁, heq⟩ := Option.map_eq_some_iff.mp htick
    obtain ⟨rfl, rfl⟩ := Prod.mk.inj heq
    obtain ⟨hworkspaces, hwindows⟩ := otherEvent_keeps ht.1 ht.2 hs₁
    refine ⟨⟨⟨hworkspaces.trans h.mirrors.workspaces_eq, hwindows.trans h.mirrors.windows_eq⟩,
      h.valid, h.keyed.step hs₁⟩, fun orders => ?_⟩
    rw [EventStreamState.deliver, otherEvent_unordered ht.1 ht.2, hs₁]
    rfl

theorem Serving.serve {pid : U64 → Option Int} {ticks : List Tick} {layout : Layout}
    {s s' : EventStreamState} {events : List Event} (h : Serving pid layout s)
    (hticks : ∀ t ∈ ticks, t.Valid) (hserve : s.serve pid ticks = some (s', events)) :
    Serving pid (lastLayout layout ticks) s' ∧ ∀ orders, s.deliver events orders = some s' := by
  induction ticks generalizing layout s events with
  | nil =>
    obtain ⟨rfl, rfl⟩ := Prod.mk.inj (Option.some.inj hserve)
    exact ⟨h, fun _ => rfl⟩
  | cons t ticks ih =>
    rw [EventStreamState.serve] at hserve
    obtain ⟨⟨s₁, events₁⟩, htick, hrest⟩ := Option.bind_eq_some_iff.mp hserve
    obtain ⟨⟨s₂, events₂⟩, hserve₂, heq⟩ := Option.bind_eq_some_iff.mp hrest
    obtain ⟨rfl, rfl⟩ := Prod.mk.inj (Option.some.inj heq)
    obtain ⟨h₁, hdeliver₁⟩ := h.tick (hticks t List.mem_cons_self) htick
    obtain ⟨h₂, hdeliver₂⟩ := ih h₁ (fun t ht => hticks t (List.mem_cons_of_mem _ ht)) hserve₂
    refine ⟨?_, fun orders => ?_⟩
    · cases t <;> exact h₂
    · rw [deliver_append, hdeliver₁, Option.bind_some]
      exact hdeliver₂ _

/-- The events that replicate the state do so for a client. -/
theorem deliver_replicate {s : EventStreamState} (h : s.Keyed) {l : EventStreamState.Listing}
    (hl : l.Of s) (orders : Nat → HashOrder) :
    EventStreamState.default.deliver (s.replicate l) orders = some s := by
  have hrun : ∀ (events : List Event) (t : EventStreamState) (orders : Nat → HashOrder),
      (∀ e ∈ events, EventStreamState.Unordered e) →
      t.deliver events orders = run EventStreamState.step t (events.map fun e => ⟨[], e⟩) := by
    intro events
    induction events with
    | nil => exact fun t orders _ => rfl
    | cons e events ih =>
      intro t orders hall
      rw [EventStreamState.deliver, List.map_cons, run_cons, hall e List.mem_cons_self]
      exact congrArg _ (funext fun t' => ih t' _ fun e' he' => hall e' (List.mem_cons_of_mem _ he'))
  rw [hrun _ _ _ fun e he => EventStreamState.unordered_of_mem_replicate he,
    EventStreamState.run_replicate, h.workspaces.ofValues_eq hl.workspaces,
    h.windows.ofValues_eq hl.windows, h.casts.ofValues_eq hl.casts]

/-- The server's state is that of the last layout, any further refresh sets it
    right without a panic, and a client that connects at any time has the state. -/
theorem clients_follow_layout {pid : U64 → Option Int} {before after : List Tick}
    {s s' : EventStreamState} {events events' : List Event}
    (hbefore : EventStreamState.default.serve pid before = some (s, events))
    (hafter : s.serve pid after = some (s', events'))
    (hvalid : ∀ t ∈ before ++ after, t.Valid) :
    s'.Mirrors pid (lastLayout Layout.empty (before ++ after)) ∧
    (∀ layout order orders, layout.Valid →
      ∃ events'', s'.refreshLayout pid order orders layout =
        some (s'.refreshed pid layout, events'') ∧
        ∀ orders, s'.deliver events'' orders = some (s'.refreshed pid layout)) ∧
    ∀ l : EventStreamState.Listing, l.Of s → ∀ orders,
      EventStreamState.default.deliver (s.replicate l ++ events') orders = some s' := by
  have hlast : ∀ (start : Layout) (ticks ticks' : List Tick),
      lastLayout start (ticks ++ ticks') = lastLayout (lastLayout start ticks) ticks' := by
    intro start ticks
    induction ticks generalizing start with
    | nil => exact fun _ => rfl
    | cons t ticks ih =>
      intro ticks'
      cases t <;> exact ih _ ticks'
  obtain ⟨h, -⟩ := (serving_default pid).serve
    (fun t ht => hvalid t (List.mem_append_left _ ht)) hbefore
  obtain ⟨h', hdeliver⟩ := h.serve (fun t ht => hvalid t (List.mem_append_right _ ht)) hafter
  rw [hlast]
  refine ⟨h'.mirrors, fun layout order orders hlayout => ?_, fun l hl orders => ?_⟩
  · exact ⟨_, refreshLayout_eq h'.mirrors h'.valid hlayout order orders,
      deliver_refresh h'.mirrors h'.valid hlayout order⟩
  · rw [deliver_append, deliver_replicate h.keyed hl, Option.bind_some]
    exact hdeliver _

theorem serve_single {pid : U64 → Option Int} {layout : Layout} {s s' : EventStreamState}
    {order : HashOrder} {orders : Nat → HashOrder} {events : List Event}
    (h : s.refreshLayout pid order orders layout = some (s', events)) :
    s.serve pid [.refresh layout order orders] = some (s', events) := by
  rw [EventStreamState.serve, EventStreamState.tick, h]
  show some (s', events ++ []) = _
  rw [List.append_nil]

def sampleMapped (id : U64) (title : String) (isFocused : Bool) : Mapped :=
  ⟨id, some title, none, isFocused, false, false, none,
    ⟨some (1, 1), origin, (800, 600), none, origin⟩⟩

def sampleLayout (windows : List Mapped) (activeWindow : Option U64) : Layout :=
  ⟨.normal [⟨"DP-1", [⟨1, none, windows, activeWindow, false⟩, ⟨2, none, [], none, false⟩], 0,
    Nat.two_pos⟩] 0, none, false⟩

def sortedOrder : HashOrder := ⟨fun s => s.windows.keys, fun _ => List.Perm.refl _⟩

/-- Window 7 is focused; then window 8 opens and takes the focus. -/
def oneWindow : Layout := sampleLayout [sampleMapped 7 "mail" true] (some 7)

def otherFocused : Layout :=
  sampleLayout [sampleMapped 7 "mail" false, sampleMapped 8 "editor" true] (some 8)

theorem oneWindow_valid : oneWindow.Valid :=
  ⟨by decide, by decide, by decide, by rintro _ _ ⟨⟩; decide⟩

theorem otherFocused_valid : otherFocused.Valid :=
  ⟨by decide, by decide, by decide, by rintro _ _ ⟨⟩; decide⟩

theorem client_follows_focus : ∃ s s' events events',
    EventStreamState.default.serve (fun _ => none)
      [.refresh oneWindow sortedOrder fun _ => sortedOrder] = some (s, events) ∧
    s.serve (fun _ => none) [.refresh otherFocused sortedOrder fun _ => sortedOrder] =
      some (s', events') ∧
    s'.Mirrors (fun _ => none) otherFocused := by
  have hvalid := oneWindow_valid
  have hvalid' := otherFocused_valid
  have hfirst := refreshLayout_eq (default_mirrors fun _ => none) Layout.empty_valid hvalid
    sortedOrder fun _ => sortedOrder
  have hmirrors : (EventStreamState.default.refreshed (fun _ => none) oneWindow).Mirrors
      (fun _ => none) oneWindow := ⟨rfl, rfl⟩
  have hsecond := refreshLayout_eq hmirrors hvalid hvalid' sortedOrder fun _ => sortedOrder
  have hbefore := serve_single hfirst
  have hafter := serve_single hsecond
  refine ⟨_, _, _, _, hbefore, hafter, (clients_follow_layout hbefore hafter ?_).1⟩
  intro t ht
  rcases List.mem_cons.mp ht with rfl | ht
  · exact hvalid
  · rw [List.mem_singleton.mp ht]
    exact hvalid'

end Cidre.Ipc
