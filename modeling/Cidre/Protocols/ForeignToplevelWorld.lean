/-
  Cidre.Protocols.ForeignToplevelWorld

  The compositor and all clients of the foreign-toplevel protocols.

  In every run in which no title or app id is taken back, the client of every wlr
  manager has one handle for each window, and after every message at most one of
  them is activated (`clients_see_windows`).
-/

import Cidre.Protocols.ForeignToplevelRequests
import Mathlib.Data.List.Pairwise

namespace Cidre.Protocols.ForeignToplevel

open Cidre.Run

/-! ## Steps -/

def State.surfaces (state : State) : List WlSurface :=
  state.layout.withWindows.map fun e => e.1.surface

/-- The records, the `wl_output`s that are bound, the state of the last refresh,
    and all messages so far. -/
structure World where
  state : ForeignToplevelManagerState
  bindings : List Binding
  current : State
  trace : List Message
  /-- all managers of the wlr protocol, stopped or not -/
  managers : List Manager
  /-- the windows a client is to have no handle for: it has destroyed the handle,
      or the window was opened after `stop` -/
  missing : List (Manager × WlSurface)

inductive Label where
  | refresh (order : HashOrder) (state : State)
  | bindExt (order : HashOrder) (client : Client)
  | bindWlr (order : HashOrder) (client : Client)
  | stop (manager : Manager)
  | destroy (handle : Handle)
  | outputBound (order : HashOrder) (output : Output) (client : Client)

namespace World

def initial : World := ⟨.new, [], .empty, [], [], []⟩

/-- Closed windows are forgotten, and stopped managers do not hear of those that
    are opened. -/
def missingAfter (w : World) (state : State) : List (Manager × WlSurface) :=
  (w.missing.filter fun p => p.2 ∈ state.surfaces) ++
    (state.surfaces.filter fun surface => surface ∉ w.current.surfaces).flatMap fun surface =>
      (w.managers.filter fun m => m ∉ w.state.wlrManagementInstances).map fun m => (m, surface)

/-- The window of a handle that is destroyed. -/
def missingHandle (w : World) (handle : Handle) : List (Manager × WlSurface) :=
  (w.state.toplevels.filter fun d => d.wlrManagementInstances.any fun e => e.1 = handle).map
    fun d => (handle.manager, d.surface)

def step (w : World) : Label → Option World
  | .refresh order state =>
      let (s, messages) := w.state.refresh order w.bindings state
      some { w with
        state := s
        current := state
        trace := w.trace ++ messages
        missing := w.missingAfter state }
  | .bindExt order client =>
      let (s, messages) := w.state.bindExt order client
      some { w with state := s, trace := w.trace ++ messages }
  | .bindWlr order client =>
      let (s, messages) := w.state.bindWlr order w.bindings client
      some { w with
        state := s
        trace := w.trace ++ messages
        managers := ⟨client, w.state.serial⟩ :: w.managers }
  | .stop manager =>
      if manager ∈ w.state.extListInstances ∨ manager ∈ w.state.wlrManagementInstances then
        let (s, messages) := w.state.stop manager
        some { w with state := s, trace := w.trace ++ messages }
      else none
  | .destroy handle =>
      if Message.toplevel handle ∈ w.trace then
        some { w with
          state := w.state.destroyed handle
          trace := w.trace ++ [.destroy handle]
          missing := w.missing ++ w.missingHandle handle }
      else none
  | .outputBound order output client =>
      let wlOutput : WlOutput := ⟨w.bindings.length⟩
      let (s, messages) := w.state.onOutputBound order output client wlOutput
      some { w with
        state := s
        bindings := w.bindings ++ [⟨output, client, wlOutput⟩]
        trace := w.trace ++ messages }

/-- No title or app id of a window becomes unset. -/
def Steady (w : World) : Label → Prop
  | .refresh _ state =>
      ∀ e ∈ w.current.layout.withWindows, ∀ e' ∈ state.layout.withWindows,
        e.1.surface = e'.1.surface →
          (e'.1.title = none → e.1.title = none) ∧ (e'.1.appId = none → e.1.appId = none)
  | _ => True

end World

/-! ## What a client is to see -/

/-- What a client is to know of a window. -/
def windowView (bindings : List Binding) (state : State) (client : Client)
    (e : Mapped × Option Output) : ToplevelView :=
  ⟨e.1.title, e.1.appId, toStateVec e.1 (decide (state.keyboardFocus = some e.1.surface)),
    windowOutputs bindings e.2 client⟩

/-- One open handle for each window, less those the client is to have none for. -/
structure Sees (w : World) (m : Manager) (v : View) (handle : WlSurface → Handle) : Prop where
  window : ∀ e ∈ w.current.layout.withWindows, (m, e.1.surface) ∉ w.missing →
    v (handle e.1.surface) = some (.settled (windowView w.bindings w.current m.client e))
  only : ∀ h t, v h = some t → ∃ e ∈ w.current.layout.withWindows,
    (m, e.1.surface) ∉ w.missing ∧ handle e.1.surface = h
  inj : ∀ e ∈ w.current.layout.withWindows, ∀ e' ∈ w.current.layout.withWindows,
    (m, e.1.surface) ∉ w.missing → (m, e'.1.surface) ∉ w.missing →
      handle e.1.surface = handle e'.1.surface → e = e'

/-! ## The invariant -/

structure World.Invariant (w : World) : Prop where
  valid : w.state.Valid w.managers w.bindings
  managers_lt : ∀ m ∈ w.managers, m.serial < w.state.serial
  live : ∀ m ∈ w.state.wlrManagementInstances, m ∈ w.managers
  tracks : ∀ d ∈ w.state.toplevels, ∃ e ∈ w.current.layout.withWindows, d.Tracks w.current e
  recorded : ∀ e ∈ w.current.layout.withWindows, ∃ d ∈ w.state.toplevels,
    d.surface = e.1.surface
  present : ∀ d ∈ w.state.toplevels, ∀ m ∈ w.managers,
    m ∈ d.managers ↔ (m, d.surface) ∉ w.missing
  missing : ∀ p ∈ w.missing, p.1.serial < w.state.serial ∧ p.2 ∈ w.current.surfaces
  addressed : ∀ message ∈ w.trace, message.manager.serial < w.state.serial
  view : ∀ m ∈ w.managers, ∃ v,
    Along View.apply View.Single .empty (toManager m w.trace) v ∧ Synced w.state m v

theorem World.invariant_initial : World.initial.Invariant := by
  refine ⟨⟨List.nodup_nil, ?_, List.nodup_nil, ?_, ?_⟩, ?_, ?_, ?_, ?_, ?_, ?_, ?_, ?_⟩
  all_goals exact fun _ h => absurd h List.not_mem_nil

variable {w w' : World}

namespace World.Invariant

theorem quiet (h : w.Invariant) : Quiet w.state.toplevels :=
  quiet_of_tracks h.valid.surfaces_nodup h.tracks

theorem surface_mem (h : w.Invariant) {d : ToplevelData} (hd : d ∈ w.state.toplevels) :
    d.surface ∈ w.current.surfaces := by
  obtain ⟨e, he, his⟩ := h.tracks d hd
  exact List.mem_map.mpr ⟨e, he, his.surface.symm⟩

theorem exists_record (h : w.Invariant) {surface : WlSurface}
    (hsurface : surface ∈ w.current.surfaces) : ∃ d ∈ w.state.toplevels, d.surface = surface := by
  obtain ⟨e, he, rfl⟩ := List.mem_map.mp hsurface
  exact h.recorded e he

/-- The messages of other managers change no client. -/
theorem view_of_other (h : w.Invariant) {messages : List Message} {m₀ : Manager}
    (hmessages : ∀ message ∈ messages, message.manager = m₀) {s : ForeignToplevelManagerState}
    {m : Manager} (hm : m ∈ w.managers) (hne : m ≠ m₀)
    (hsynced : ∀ v, Synced w.state m v → Synced s m v) :
    ∃ v, Along View.apply View.Single .empty (toManager m (w.trace ++ messages)) v ∧
      Synced s m v := by
  obtain ⟨v, hrun, hv⟩ := h.view m hm
  have hnil : toManager m messages = [] :=
    toManager_eq_nil fun message hmem heq => hne (heq.symm.trans (hmessages message hmem))
  rw [toManager_append, hnil, List.append_nil]
  exact ⟨v, hrun, hsynced v hv⟩

/-! ## Refresh -/

/-- A manager is to have a handle for a window unless it is missing. -/
theorem has_iff (h : w.Invariant) (state : State) {m : Manager} (hm : m ∈ w.managers)
    {surface : WlSurface} (hsurface : surface ∈ state.surfaces) :
    w.state.Has m surface ↔ (m, surface) ∉ w.missingAfter state := by
  by_cases hold : surface ∈ w.current.surfaces
  · obtain ⟨d, hd, rfl⟩ := h.exists_record hold
    have hhas : w.state.Has m d.surface ↔ m ∈ d.managers := by
      constructor
      · rintro (⟨d', hd', heq, hmem⟩ | ⟨-, hnone⟩)
        · rwa [eq_of_surface_eq h.valid hd hd' heq.symm]
        · exact absurd rfl (hnone d hd)
      · intro hmem
        exact Or.inl ⟨d, hd, rfl, hmem⟩
    rw [hhas, h.present d hd m hm, not_iff_not]
    simp [World.missingAfter, hsurface, hold]
  · have hnone : ∀ d ∈ w.state.toplevels, d.surface ≠ surface :=
      fun d hd heq => hold (heq ▸ h.surface_mem hd)
    have hhas : w.state.Has m surface ↔ m ∈ w.state.wlrManagementInstances := by
      constructor
      · rintro (⟨d, hd, heq, -⟩ | ⟨hmem, -⟩)
        · exact absurd heq (hnone d hd)
        · exact hmem
      · exact fun hmem => Or.inr ⟨hmem, hnone⟩
    have hmissing : (m, surface) ∉ w.missing := fun hmem => hold (h.missing _ hmem).2
    rw [hhas]
    simp [World.missingAfter, hsurface, hold, hmissing, hm]

theorem refresh (h : w.Invariant) (order : HashOrder) (state : State)
    (hsteady : w.Steady (.refresh order state)) : World.Invariant { w with
      state := (w.state.refresh order w.bindings state).1
      current := state
      trace := w.trace ++ (w.state.refresh order w.bindings state).2
      missing := w.missingAfter state } := by
  obtain ⟨hfollows, htracks, hrecorded⟩ := refresh_spec h.valid order state
    fun e' he' d hd hsurface => by
      obtain ⟨e, he, his⟩ := h.tracks d hd
      have hkept := hsteady e he e' he' (his.surface.symm.trans hsurface)
      exact ⟨fun hnone => his.title.trans (hkept.1 hnone),
        fun hnone => his.appId.trans (hkept.2 hnone)⟩
  refine ⟨hfollows.valid, fun m hm => (h.managers_lt m hm).trans_le hfollows.serial_le, ?_, ?_,
    hrecorded, ?_, ?_, ?_, ?_⟩
  · intro m hm
    dsimp only at hm
    rw [hfollows.wlr_eq] at hm
    exact h.live m hm
  · intro d hd
    obtain ⟨e, he, his, -⟩ := htracks d hd
    exact ⟨e, he, his⟩
  · intro d hd m hm
    obtain ⟨e, he, his, hmanagers⟩ := htracks d hd
    have hsurface : e.1.surface ∈ state.surfaces := List.mem_map_of_mem he
    rw [hmanagers m, his.surface]
    exact h.has_iff state hm hsurface
  · intro p hp
    rcases List.mem_append.mp hp with hp | hp
    · obtain ⟨hp, hmem⟩ := List.mem_filter.mp hp
      exact ⟨(h.missing p hp).1.trans_le hfollows.serial_le, of_decide_eq_true hmem⟩
    · obtain ⟨surface, hsurface, hp⟩ := List.mem_flatMap.mp hp
      obtain ⟨m, hm, rfl⟩ := List.mem_map.mp hp
      exact ⟨(h.managers_lt m (List.mem_of_mem_filter hm)).trans_le hfollows.serial_le,
        List.mem_of_mem_filter hsurface⟩
  · intro message hmem
    rcases List.mem_append.mp hmem with hmem | hmem
    · exact (h.addressed message hmem).trans_le hfollows.serial_le
    · exact hfollows.addressed message hmem
  · intro m hm
    obtain ⟨v, hrun, hv⟩ := h.view m hm
    obtain ⟨v', hrun', hv'⟩ := hfollows.view m hm v hv hrun.holds
    refine ⟨v', ?_, hv'⟩
    rw [toManager_append]
    exact hrun.append hrun'

/-! ## Requests -/

theorem tracks_of_same (h : w.Invariant) {s : ForeignToplevelManagerState}
    (hsame : SameWindows w.state s) :
    (∀ d ∈ s.toplevels, ∃ e ∈ w.current.layout.withWindows, d.Tracks w.current e) ∧
      ∀ e ∈ w.current.layout.withWindows, ∃ d ∈ s.toplevels, d.surface = e.1.surface := by
  refine ⟨fun d' hd' => ?_, fun e he => ?_⟩
  · obtain ⟨d, hd, hdd'⟩ := hsame.back d' hd'
    obtain ⟨e, he, his⟩ := h.tracks d hd
    exact ⟨e, he, hdd'.tracks his⟩
  · obtain ⟨d, hd, hsurface⟩ := h.recorded e he
    obtain ⟨d', hd', hdd'⟩ := hsame.forth d hd
    exact ⟨d', hd', hdd'.surface.trans hsurface⟩

theorem bindExt (h : w.Invariant) (order : HashOrder) (client : Client) :
    World.Invariant { w with
      state := (w.state.bindExt order client).1
      trace := w.trace ++ (w.state.bindExt order client).2 } := by
  obtain ⟨hmessages, hsynced⟩ := view_bindExt order client w.state
  obtain ⟨htracks, hrecorded⟩ := h.tracks_of_same (sameWindows_bindExt order client w.state)
  have hserial : w.state.serial < (w.state.bindExt order client).1.serial := by
    rw [bindExt_eq]
    show w.state.serial < w.state.serial + 1 + _
    omega
  refine ⟨valid_bindExt order client h.valid h.managers_lt,
    fun m hm => (h.managers_lt m hm).trans hserial, h.live, htracks, hrecorded, ?_,
    fun p hp => ⟨(h.missing p hp).1.trans hserial, (h.missing p hp).2⟩, ?_, ?_⟩
  · intro d hd m hm
    obtain ⟨d₀, hd₀, _, -, rfl⟩ := mem_bindExt order client hd
    exact h.present d₀ hd₀ m hm
  · intro message hmem
    rcases List.mem_append.mp hmem with hmem | hmem
    · exact (h.addressed message hmem).trans hserial
    · rw [hmessages message hmem]
      exact hserial
  · intro m hm
    exact h.view_of_other hmessages hm (ne_newManager client (h.managers_lt m hm)) (hsynced m)

theorem bindWlr (h : w.Invariant) (order : HashOrder) (client : Client) :
    World.Invariant { w with
      state := (w.state.bindWlr order w.bindings client).1
      trace := w.trace ++ (w.state.bindWlr order w.bindings client).2
      managers := ⟨client, w.state.serial⟩ :: w.managers } := by
  have hview : (∀ message ∈ (w.state.bindWlr order w.bindings client).2, _) ∧ _ :=
    view_bindWlr order client h.quiet
  obtain ⟨hmessages, hsynced, v, hrun, hv⟩ := hview
  have hsame : SameWindows w.state (w.state.bindWlr order w.bindings client).1 :=
    sameWindows_bindWlr order client w.state
  obtain ⟨htracks, hrecorded⟩ := h.tracks_of_same hsame
  have hserial : w.state.serial < (w.state.bindWlr order w.bindings client).1.serial := by
    rw [bindWlr_eq]
    show w.state.serial < w.state.serial + 1 + _
    omega
  refine ⟨valid_bindWlr order client h.valid, ?_, ?_, htracks, hrecorded, ?_, ?_, ?_, ?_⟩
  · intro m hm
    rcases List.mem_cons.mp hm with rfl | hm
    · exact hserial
    · exact (h.managers_lt m hm).trans hserial
  · intro m hm
    dsimp only at hm
    rw [bindWlr_eq] at hm
    rcases List.mem_cons.mp hm with rfl | hm
    · exact List.mem_cons_self
    · exact List.mem_cons_of_mem _ (h.live m hm)
  · intro d hd m hm
    obtain ⟨d₀, hd₀, hnew, hmanager, rfl⟩ := mem_bindWlr order client hd
    show m ∈ hnew.manager :: d₀.managers ↔ (m, d₀.surface) ∉ w.missing
    rw [hmanager]
    rcases List.mem_cons.mp hm with rfl | hm
    · refine iff_of_true List.mem_cons_self fun hmem => ?_
      exact ne_newManager client (h.missing _ hmem).1 rfl
    · rw [List.mem_cons, or_iff_right (ne_newManager client (h.managers_lt m hm))]
      exact h.present d₀ hd₀ m hm
  · intro p hp
    exact ⟨(h.missing p hp).1.trans hserial, (h.missing p hp).2⟩
  · intro message hmem
    rcases List.mem_append.mp hmem with hmem | hmem
    · exact (h.addressed message hmem).trans hserial
    · rw [hmessages message hmem]
      exact hserial
  · intro m hm
    rcases List.mem_cons.mp hm with rfl | hm
    · refine ⟨v, ?_, hv⟩
      -- nothing was addressed to it before
      have hnil : toManager ⟨client, w.state.serial⟩ w.trace = [] :=
        toManager_eq_nil fun message hmem => ne_newManager client (h.addressed message hmem)
      rw [toManager_append, hnil, toManager_eq_self hmessages]
      exact hrun
    · exact h.view_of_other hmessages hm (ne_newManager client (h.managers_lt m hm))
        fun v hv => hsynced m v (h.managers_lt m hm) hv

theorem stop (h : w.Invariant) {manager : Manager} (hmanager : manager.serial < w.state.serial) :
    World.Invariant { w with
      state := (w.state.stop manager).1
      trace := w.trace ++ (w.state.stop manager).2 } := by
  refine ⟨⟨h.valid.surfaces_nodup, h.valid.toplevels, h.valid.managers_nodup.filter _,
    fun m hm => h.valid.managers_lt m (List.mem_of_mem_filter hm),
    fun m hm => h.valid.ext_other m (List.mem_of_mem_filter hm)⟩, h.managers_lt,
    fun m hm => h.live m (List.mem_of_mem_filter hm), h.tracks, h.recorded, h.present, h.missing,
    ?_, ?_⟩
  · intro message hmem
    rcases List.mem_append.mp hmem with hmem | hmem
    · exact h.addressed message hmem
    · obtain rfl := List.mem_singleton.mp hmem
      exact hmanager
  · intro m hm
    obtain ⟨v, hrun, hv⟩ := h.view m hm
    by_cases heq : manager = m
    · refine ⟨v, ?_, hv⟩
      have hself : toManager m (w.state.stop manager).2 = [.finished manager] :=
        toManager_eq_self (by simpa [ForeignToplevelManagerState.stop, Message.manager] using heq)
      rw [toManager_append, hself]
      exact hrun.append (along_single hrun.holds rfl hrun.holds)
    · have hown : ∀ message ∈ (w.state.stop manager).2, message.manager = manager := by
        intro message hmem
        obtain rfl := List.mem_singleton.mp hmem
        rfl
      exact h.view_of_other hown hm (Ne.symm heq) fun v hv => hv

theorem destroy (h : w.Invariant) {handle : Handle} (hcreated : .toplevel handle ∈ w.trace) :
    World.Invariant { w with
      state := w.state.destroyed handle
      trace := w.trace ++ [.destroy handle]
      missing := w.missing ++ w.missingHandle handle } := by
  obtain ⟨htracks, hrecorded⟩ := h.tracks_of_same (sameWindows_destroyed w.state handle)
  have hmanager : handle.manager.serial < w.state.serial := h.addressed _ hcreated
  refine ⟨valid_destroyed h.valid handle, h.managers_lt, h.live, htracks, hrecorded, ?_, ?_, ?_, ?_⟩
  · intro d hd m hm
    obtain ⟨d₀, hd₀, rfl⟩ := List.mem_map.mp hd
    have hpresent := h.present d₀ hd₀ m hm
    have hnodup := (h.valid.toplevels d₀ hd₀).instances_nodup
    show m ∈ (d₀.without handle).managers ↔ (m, d₀.surface) ∉ w.missing ++ w.missingHandle handle
    rw [List.mem_append, not_or, ← hpresent]
    constructor
    · intro hmem
      obtain ⟨e, he, rfl⟩ := List.mem_map.mp hmem
      obtain ⟨he, hne⟩ := List.mem_filter.mp he
      refine ⟨List.mem_map_of_mem he, fun hmissing => ?_⟩
      obtain ⟨d₁, hd₁, heq⟩ := List.mem_map.mp hmissing
      obtain ⟨hd₁, hany⟩ := List.mem_filter.mp hd₁
      obtain ⟨hmanager', hsurface⟩ := Prod.mk.inj heq
      obtain rfl := eq_of_surface_eq h.valid hd₁ hd₀ hsurface
      obtain ⟨e', he', hhandle⟩ := List.any_eq_true.mp hany
      have hhandle : e'.1 = handle := of_decide_eq_true hhandle
      have hsame : e' = e :=
        List.inj_on_of_nodup_map hnodup he' he ((congrArg Handle.manager hhandle).trans hmanager')
      exact (by simpa using hne : e.1 ≠ handle) (hsame ▸ hhandle)
    · rintro ⟨hmem, hnot⟩
      obtain ⟨e, he, rfl⟩ := List.mem_map.mp hmem
      have hne : e.1 ≠ handle := by
        rintro rfl
        refine hnot (List.mem_map.mpr ⟨d₀, List.mem_filter.mpr ⟨hd₀, ?_⟩, rfl⟩)
        exact List.any_eq_true.mpr ⟨e, he, by simp⟩
      exact List.mem_map.mpr ⟨e, List.mem_filter.mpr ⟨he, by simpa using hne⟩, rfl⟩
  · intro p hp
    rcases List.mem_append.mp hp with hp | hp
    · exact h.missing p hp
    · obtain ⟨d, hd, rfl⟩ := List.mem_map.mp hp
      exact ⟨hmanager, h.surface_mem (List.mem_of_mem_filter hd)⟩
  · intro message hmem
    rcases List.mem_append.mp hmem with hmem | hmem
    · exact h.addressed message hmem
    · obtain rfl := List.mem_singleton.mp hmem
      exact hmanager
  · intro m hm
    obtain ⟨v, hrun, hv⟩ := h.view m hm
    obtain ⟨v', hrun', hv'⟩ := view_destroyed h.valid handle hv hrun.holds
    refine ⟨v', ?_, hv'⟩
    rw [toManager_append]
    exact hrun.append hrun'

theorem outputBound (h : w.Invariant) (order : HashOrder) (output : Output) (client : Client)
    (wlOutput : WlOutput) : World.Invariant { w with
      state := (w.state.onOutputBound order output client wlOutput).1
      bindings := w.bindings ++ [⟨output, client, wlOutput⟩]
      trace := w.trace ++ (w.state.onOutputBound order output client wlOutput).2 } := by
  obtain ⟨htracks, hrecorded⟩ :=
    h.tracks_of_same (sameWindows_onOutputBound output client wlOutput order w.state)
  refine ⟨valid_onOutputBound output client wlOutput order h.valid, h.managers_lt, h.live, htracks,
    hrecorded, ?_, h.missing, ?_, ?_⟩
  · intro d hd m hm
    obtain ⟨d₀, hd₀, rfl⟩ := List.mem_map.mp hd
    show m ∈ (d₀.entered output client wlOutput).managers ↔
      (m, (d₀.entered output client wlOutput).surface) ∉ w.missing
    rw [managers_entered, (same_entered output client wlOutput d₀).surface]
    exact h.present d₀ hd₀ m hm
  · intro message hmem
    rcases List.mem_append.mp hmem with hmem | hmem
    · exact h.addressed message hmem
    · obtain ⟨d, hd, hmem⟩ := List.mem_flatMap.mp hmem
      obtain ⟨e, he, hmem⟩ := List.mem_flatMap.mp hmem
      have hd := order.mem_list.mp (List.mem_of_mem_filter hd)
      have hlt := ((h.valid.toplevels d hd).wlr_lt e
        (order.mem_list.mp (List.mem_of_mem_filter he))).2
      simp only [List.mem_cons, List.not_mem_nil, or_false] at hmem
      rcases hmem with rfl | rfl <;> exact hlt
  · intro m hm
    obtain ⟨v, hrun, hv⟩ := h.view m hm
    obtain ⟨v', hrun', hv'⟩ :=
      view_onOutputBound output client wlOutput order h.valid hv hrun.holds
    refine ⟨v', ?_, hv'⟩
    rw [toManager_append]
    exact hrun.append hrun'

theorem step (h : w.Invariant) {label : Label} (hsteady : w.Steady label)
    (hstep : w.step label = some w') : w'.Invariant := by
  cases label with
  | refresh order state =>
    obtain rfl := Option.some.inj hstep
    exact h.refresh order state hsteady
  | bindExt order client =>
    obtain rfl := Option.some.inj hstep
    exact h.bindExt order client
  | bindWlr order client =>
    obtain rfl := Option.some.inj hstep
    exact h.bindWlr order client
  | stop manager =>
    obtain ⟨hlive, heq⟩ := Option.ite_none_right_eq_some.mp hstep
    obtain rfl := Option.some.inj heq
    refine h.stop ?_
    rcases hlive with hmem | hmem
    · exact (h.valid.ext_other manager hmem).2
    · exact h.valid.managers_lt manager hmem
  | destroy handle =>
    obtain ⟨hcreated, heq⟩ := Option.ite_none_right_eq_some.mp hstep
    obtain rfl := Option.some.inj heq
    exact h.destroy hcreated
  | outputBound order output client =>
    obtain rfl := Option.some.inj hstep
    exact h.outputBound order output client _

end World.Invariant

/-! ## Whole runs -/

/-- The handle of a window. -/
def handleFor (s : ForeignToplevelManagerState) (m : Manager) (surface : WlSurface) : Handle :=
  match (s.toplevels.find? fun d => d.surface = surface).bind (ToplevelData.openFor m) with
  | some o => o.handle
  | none => ⟨m, 0⟩

theorem handleFor_eq {s : ForeignToplevelManagerState} {known : List Manager}
    {bindings : List Binding} (hs : s.Valid known bindings) {m : Manager} {d : ToplevelData}
    (hd : d ∈ s.toplevels) {o : OpenToplevel} (hopen : d.openFor m = some o) :
    handleFor s m d.surface = o.handle := by
  have hfind : (s.toplevels.find? fun d' => d'.surface = d.surface) = some d := by
    cases hfind : s.toplevels.find? fun d' => d'.surface = d.surface with
    | none =>
      have hne := List.find?_eq_none.mp hfind d hd
      exact absurd (decide_eq_true rfl) hne
    | some d' =>
      rw [eq_of_surface_eq hs (List.mem_of_find?_eq_some hfind) hd
        (by simpa using List.find?_some hfind)]
  unfold handleFor
  rw [hfind, Option.bind_some, hopen]

theorem exists_instanceOf {d : ToplevelData} {m : Manager} (hm : m ∈ d.managers) :
    ∃ e, instanceOf m d.wlrManagementInstances = some e := by
  obtain ⟨e, he, rfl⟩ := List.mem_map.mp hm
  refine Option.isSome_iff_exists.mp (List.find?_isSome.mpr ⟨e, he, ?_⟩)
  simp

/-- No two windows have one handle. -/
theorem handles_ne {s : ForeignToplevelManagerState} {m : Manager} {v : View} (hv : Synced s m v)
    {d d' : ToplevelData} (hd : d ∈ s.toplevels) (hd' : d' ∈ s.toplevels) {o o' : OpenToplevel}
    (hopen : d.openFor m = some o) (hopen' : d'.openFor m = some o') (heq : o.handle = o'.handle) :
    d = d' := by
  have hnodup := hv.nodup
  unfold toplevelsOf List.Nodup at hnodup
  rw [List.pairwise_map, List.pairwise_filterMap] at hnodup
  have hsymm : Std.Symm fun d d' : ToplevelData => ∀ o, d.openFor m = some o →
      ∀ o', d'.openFor m = some o' → o.handle ≠ o'.handle :=
    ⟨fun _ _ h o ho o' ho' heq => h o' ho' o ho heq.symm⟩
  by_contra hne
  exact hnodup.forall hd hd' hne o hopen o' hopen' heq

theorem World.Invariant.sees (h : w.Invariant) {m : Manager} (hm : m ∈ w.managers) {v : View}
    (hv : Synced w.state m v) : Sees w m v (handleFor w.state m) := by
  -- the record of a window, and its handle
  have hrecord : ∀ e ∈ w.current.layout.withWindows, (m, e.1.surface) ∉ w.missing →
      ∃ d ∈ w.state.toplevels, d.surface = e.1.surface ∧ ∃ o, d.openFor m = some o ∧
        o.view = windowView w.bindings w.current m.client e := by
    intro e he hmissing
    obtain ⟨d, hd, hsurface⟩ := h.recorded e he
    obtain ⟨e', he', his⟩ := h.tracks d hd
    obtain rfl : e = e' := List.inj_on_of_nodup_map w.current.surfaces_nodup he he'
      (hsurface.symm.trans his.surface)
    have hpresent := (h.present d hd m hm).mpr (hsurface ▸ hmissing)
    obtain ⟨i, hi⟩ := exists_instanceOf hpresent
    obtain ⟨hmem, hmanager⟩ := manager_of_instanceOf hi
    have houtputs := (h.valid.toplevels d hd).outputs_eq i hmem
    refine ⟨d, hd, hsurface, ⟨i.1, ⟨d.title, d.appId, d.states, i.2⟩⟩, ?_, ?_⟩
    · rw [ToplevelData.openFor, hi]
      rfl
    · show (⟨d.title, d.appId, d.states, i.2⟩ : ToplevelView) = _
      rw [his.title, his.appId, his.states, houtputs, his.output, hmanager]
      rfl
  refine ⟨?_, ?_, ?_⟩
  · intro e he hmissing
    obtain ⟨d, hd, hsurface, o, hopen, hview⟩ := hrecord e he hmissing
    rw [← hsurface, handleFor_eq h.valid hd hopen, ← hview]
    exact Shows.eq_some hv (List.mem_filterMap.mpr ⟨d, hd, hopen⟩)
  · intro handle t ht
    obtain ⟨o, ho, rfl, -⟩ := (Shows.iff hv handle t).mp ht
    obtain ⟨d, hd, hopen⟩ := List.mem_filterMap.mp ho
    obtain ⟨e, he, his⟩ := h.tracks d hd
    refine ⟨e, he, ?_, ?_⟩
    · rw [← his.surface, ← h.present d hd m hm]
      obtain ⟨i, hi, -⟩ := Option.map_eq_some_iff.mp hopen
      obtain ⟨hmem, hmanager⟩ := manager_of_instanceOf hi
      exact List.mem_map.mpr ⟨i, hmem, hmanager⟩
    · rw [← his.surface]
      exact handleFor_eq h.valid hd hopen
  · intro e he e' he' hmissing hmissing' heq
    obtain ⟨d, hd, hsurface, o, hopen, -⟩ := hrecord e he hmissing
    obtain ⟨d', hd', hsurface', o', hopen', -⟩ := hrecord e' he' hmissing'
    rw [← hsurface, ← hsurface', handleFor_eq h.valid hd hopen,
      handleFor_eq h.valid hd' hopen'] at heq
    have hsame := handles_ne hv hd hd' hopen hopen' heq
    exact List.inj_on_of_nodup_map w.current.surfaces_nodup he he'
      (hsurface.symm.trans ((congrArg ToplevelData.surface hsame).trans hsurface'))

/-- In a run in which no title or app id is taken back, the client of every
    manager takes all messages and has the windows, and at no point between two
    messages are two of its handles activated. -/
theorem clients_see_windows {labels : List Label}
    (hrun : run World.step World.initial labels = some w)
    (hsteady : StepsMeet World.step World.Steady World.initial labels) :
    ∀ m ∈ w.managers,
      (∃ v handle, View.replay (toManager m w.trace) = some v ∧ Sees w m v handle) ∧
      ∀ messages, messages <+: toManager m w.trace →
        ∃ v, View.replay messages = some v ∧ v.Single := by
  have hinv : w.Invariant := run_invariant_of_steps
    (fun _ _ _ hinv hsteady hstep => hinv.step hsteady hstep) hsteady hrun
    World.invariant_initial
  intro m hm
  obtain ⟨v, halong, hv⟩ := hinv.view m hm
  exact ⟨⟨v, _, halong.run_eq, hinv.sees hm hv⟩, fun messages hpre => halong.of_isPrefix hpre⟩

/-! ## A run -/

/-- A terminal and a browser on the first output. -/
def twoWindows : State where
  layout := ⟨none, .normal [⟨⟨0⟩, [[⟨⟨1⟩, 1, some "~", some "foot", false, false⟩,
    ⟨⟨2⟩, 2, some "Start", some "firefox", true, false⟩]]⟩, ⟨⟨1⟩, [[]]⟩]⟩
  keyboardFocus := some ⟨1⟩
  surfaces_nodup := by decide

/-- The browser has a new title, is on the second output and has the focus. -/
def browserMoved : State where
  layout := ⟨none, .normal [⟨⟨0⟩, [[⟨⟨1⟩, 1, some "~", some "foot", false, false⟩]]⟩,
    ⟨⟨1⟩, [[⟨⟨2⟩, 2, some "Mail", some "firefox", true, false⟩]]⟩]⟩
  keyboardFocus := some ⟨2⟩
  surfaces_nodup := by decide

/-- The terminal is closed, and there is an editor. -/
def editorOpened : State where
  layout := ⟨none, .normal [⟨⟨0⟩, [[⟨⟨3⟩, 3, some "notes", some "nvim", false, false⟩]]⟩,
    ⟨⟨1⟩, [[⟨⟨2⟩, 2, some "Mail", some "firefox", true, false⟩]]⟩]⟩
  keyboardFocus := some ⟨3⟩
  surfaces_nodup := by decide

/-- Of two taskbars one stops before the editor is opened, and the other one
    destroys its handle for the browser. -/
def twoTaskbars : List Label :=
  [.outputBound .stored ⟨0⟩ ⟨0⟩, .bindWlr .stored ⟨0⟩, .bindExt .stored ⟨0⟩,
    .refresh .stored twoWindows, .bindWlr .stored ⟨1⟩, .outputBound .stored ⟨1⟩ ⟨0⟩,
    .refresh .stored browserMoved, .stop ⟨⟨0⟩, 0⟩, .destroy ⟨⟨⟨1⟩, 6⟩, 8⟩,
    .refresh .stored editorOpened]

/-- Every window has a title and an app id. -/
def Label.Named : Label → Prop
  | .refresh _ state => ∀ e ∈ state.layout.withWindows, e.1.title ≠ none ∧ e.1.appId ≠ none
  | _ => True

theorem steady_of_named {label : Label} (h : label.Named) (w : World) : w.Steady label := by
  cases label with
  | refresh order state =>
    intro e _ e' he' _
    exact ⟨fun hnone => absurd hnone (h e' he').1, fun hnone => absurd hnone (h e' he').2⟩
  | bindExt | bindWlr | stop | destroy | outputBound => trivial

theorem twoTaskbars_steady : StepsMeet World.step World.Steady World.initial twoTaskbars := by
  have h₁ : (Label.refresh .stored twoWindows).Named :=
    show ∀ e ∈ twoWindows.layout.withWindows, _ by decide
  have h₂ : (Label.refresh .stored browserMoved).Named :=
    show ∀ e ∈ browserMoved.layout.withWindows, _ by decide
  have h₃ : (Label.refresh .stored editorOpened).Named :=
    show ∀ e ∈ editorOpened.layout.withWindows, _ by decide
  refine stepsMeet_of_mem (fun label hlabel w => steady_of_named ?_ w) World.initial
  simp only [twoTaskbars, List.mem_cons, List.not_mem_nil, or_false] at hlabel
  rcases hlabel with rfl | rfl | rfl | rfl | rfl | rfl | rfl | rfl | rfl | rfl
  all_goals first | exact h₁ | exact h₂ | exact h₃ | exact trivial

/-- The first taskbar ends up with the browser only, the second one with the
    editor only. -/
theorem taskbars_see_windows :
    ∃ w, run World.step World.initial twoTaskbars = some w ∧
      StepsMeet World.step World.Steady World.initial twoTaskbars ∧
      w.missing = [(⟨⟨1⟩, 6⟩, ⟨2⟩), (⟨⟨0⟩, 0⟩, ⟨3⟩)] ∧
      ∀ m ∈ [(⟨⟨0⟩, 0⟩ : Manager), ⟨⟨1⟩, 6⟩],
        (∃ v handle, View.replay (toManager m w.trace) = some v ∧ Sees w m v handle) ∧
        ∀ messages, messages <+: toManager m w.trace →
          ∃ v, View.replay messages = some v ∧ v.Single := by
  have hchecked : (run World.step World.initial twoTaskbars).any (fun w =>
      decide (w.missing = [(⟨⟨1⟩, 6⟩, ⟨2⟩), (⟨⟨0⟩, 0⟩, ⟨3⟩)]) &&
        decide (∀ m ∈ [(⟨⟨0⟩, 0⟩ : Manager), ⟨⟨1⟩, 6⟩], m ∈ w.managers)) = true := by
    decide +kernel
  obtain ⟨w, hrun, hchecked⟩ := (Option.any_eq_true _ _).mp hchecked
  obtain ⟨hmissing, hmanagers⟩ := Bool.and_eq_true_iff.mp hchecked
  refine ⟨w, hrun, twoTaskbars_steady, of_decide_eq_true hmissing, fun m hm => ?_⟩
  exact clients_see_windows hrun twoTaskbars_steady m (of_decide_eq_true hmanagers m hm)

end Cidre.Protocols.ForeignToplevel
