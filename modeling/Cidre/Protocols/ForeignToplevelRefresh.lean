/-
  Cidre.Protocols.ForeignToplevelRefresh

  A whole refresh.  Each window is refreshed once: the others keep their records
  (`Refreshed`), so after it there is one record for each window, with the focus
  on at most one of them.
-/

import Cidre.Protocols.ForeignToplevelSync

namespace Cidre.Protocols.ForeignToplevel

open Cidre.Run

variable {known : List Manager} {bindings : List Binding}
  {s s' s'' : ForeignToplevelManagerState} {messages messages' : List Message}

/-! ## Records -/

/-- The managers that have a handle for the window. -/
def ToplevelData.managers (d : ToplevelData) : List Manager :=
  d.wlrManagementInstances.map fun e => e.1.manager

/-- The record says this of a window. -/
structure ToplevelData.Is (d : ToplevelData) (e : Mapped × Option Output) (hasFocus : Bool) :
    Prop where
  surface : d.surface = e.1.surface
  title : d.title = e.1.title
  appId : d.appId = e.1.appId
  states : d.states = toStateVec e.1 hasFocus
  output : d.output = e.2

/-- A manager is to have a handle for the window: it has one, or the window is new. -/
def ForeignToplevelManagerState.Has (s : ForeignToplevelManagerState) (m : Manager)
    (surface : WlSurface) : Prop :=
  (∃ d ∈ s.toplevels, d.surface = surface ∧ m ∈ d.managers) ∨
    (m ∈ s.wlrManagementInstances ∧ ∀ d ∈ s.toplevels, d.surface ≠ surface)

/-- The windows of `l`, and no others, have been refreshed. -/
structure Refreshed (s s' : ForeignToplevelManagerState) (l : List (Mapped × Option Output))
    (hasFocus : Bool) : Prop where
  other : ∀ d, (∀ e ∈ l, d.surface ≠ e.1.surface) → (d ∈ s'.toplevels ↔ d ∈ s.toplevels)
  this : ∀ e ∈ l, ∃ d ∈ s'.toplevels, d.Is e hasFocus ∧
    ∀ m, m ∈ d.managers ↔ s.Has m e.1.surface

theorem Refreshed.refl (s : ForeignToplevelManagerState) (hasFocus : Bool) :
    Refreshed s s [] hasFocus :=
  ⟨fun _ _ => Iff.rfl, fun _ h => absurd h List.not_mem_nil⟩

/-- It depends on the records of that window only. -/
theorem has_iff_of_mem {surface : WlSurface}
    (hmem : ∀ d : ToplevelData, d.surface = surface → (d ∈ s'.toplevels ↔ d ∈ s.toplevels))
    (hwlr : s'.wlrManagementInstances = s.wlrManagementInstances) (m : Manager) :
    s'.Has m surface ↔ s.Has m surface := by
  unfold ForeignToplevelManagerState.Has
  rw [hwlr]
  constructor
  · rintro (⟨d, hd, hsurface, hm⟩ | ⟨hm, hnone⟩)
    · exact Or.inl ⟨d, (hmem d hsurface).mp hd, hsurface, hm⟩
    · exact Or.inr ⟨hm, fun d hd hsurface => hnone d ((hmem d hsurface).mpr hd) hsurface⟩
  · rintro (⟨d, hd, hsurface, hm⟩ | ⟨hm, hnone⟩)
    · exact Or.inl ⟨d, (hmem d hsurface).mpr hd, hsurface, hm⟩
    · exact Or.inr ⟨hm, fun d hd hsurface => hnone d ((hmem d hsurface).mp hd) hsurface⟩

theorem Refreshed.has_iff {l : List (Mapped × Option Output)} {hasFocus : Bool}
    (h : Refreshed s s' l hasFocus) (hwlr : s'.wlrManagementInstances = s.wlrManagementInstances)
    {surface : WlSurface} (hne : ∀ e ∈ l, surface ≠ e.1.surface) (m : Manager) :
    s'.Has m surface ↔ s.Has m surface :=
  has_iff_of_mem (fun d hd => h.other d fun e he => hd ▸ hne e he) hwlr m

theorem eq_of_surface_eq (hs : s.Valid known bindings) {d d' : ToplevelData}
    (hd : d ∈ s.toplevels) (hd' : d' ∈ s.toplevels) (h : d.surface = d'.surface) : d = d' :=
  List.inj_on_of_nodup_map hs.surfaces_nodup hd hd' h

theorem refreshed_refreshToplevel (hs : s.Valid known bindings) (order : HashOrder)
    (e : Mapped × Option Output) (hasFocus : Bool)
    (hsteady : ∀ d ∈ s.toplevels, d.surface = e.1.surface → d.Steady e.1) :
    Refreshed s (s.refreshToplevel order bindings e.1 e.2 hasFocus).1 [e] hasFocus := by
  cases hfind : s.toplevels.find? fun data => data.surface = e.1.surface with
  | some d =>
    have hmem := List.mem_of_find?_eq_some hfind
    have hsurface : d.surface = e.1.surface := by simpa using List.find?_some hfind
    obtain ⟨_, _, _, _, _, _, -, -, -, -, -, heq⟩ :=
      ForeignToplevelManagerState.refreshToplevel_of_some order (hs.toplevels d hmem) hfind
        (hsteady d hmem hsurface)
    rw [heq]
    refine ⟨fun d' hd' => ?_, fun e' he' => ?_⟩
    · have hne : d'.surface ≠ d.surface := hsurface ▸ hd' e List.mem_cons_self
      have hne' : d' ≠ d.updated bindings e.1 e.2 hasFocus := fun h => hne (h ▸ rfl)
      show d' ∈ d.updated bindings e.1 e.2 hasFocus :: _ ↔ _
      rw [List.mem_cons, or_iff_right hne', List.mem_filter]
      exact and_iff_left (decide_eq_true hne)
    · obtain rfl := List.mem_singleton.mp he'
      refine ⟨_, List.mem_cons_self, ⟨hsurface, rfl, rfl, rfl, rfl⟩, fun m => ?_⟩
      have hmanagers : (d.updated bindings e'.1 e'.2 hasFocus).managers = d.managers := by
        unfold ToplevelData.managers ToplevelData.updated
        dsimp only
        rw [List.map_map]
        rfl
      rw [hmanagers]
      constructor
      · intro hm
        exact Or.inl ⟨d, hmem, hsurface, hm⟩
      · rintro (⟨d', hd', hsurface', hm⟩ | ⟨-, hnone⟩)
        · rwa [eq_of_surface_eq hs hmem hd' (hsurface.trans hsurface'.symm)]
        · exact absurd hsurface (hnone d hmem)
  | none =>
    have hother : ∀ d ∈ s.toplevels, d.surface ≠ e.1.surface := by
      intro d hd
      simpa using List.find?_eq_none.mp hfind d hd
    unfold ForeignToplevelManagerState.refreshToplevel
    rw [hfind]
    dsimp only
    refine ⟨fun d' hd' => ?_, fun e' he' => ?_⟩
    · rw [List.mem_cons]
      refine or_iff_right fun h => hd' e List.mem_cons_self ?_
      rw [h]
    · obtain rfl := List.mem_singleton.mp he'
      refine ⟨_, List.mem_cons_self, ⟨rfl, rfl, rfl, rfl, rfl⟩, fun m => ?_⟩
      have hmanagers : ∀ (data : ToplevelData) (handles : List Handle),
          (handles.map (data.wlrInstance bindings)).map (fun e => e.1.manager) =
            handles.map Handle.manager := by
        intro data handles
        rw [List.map_map]
        rfl
      unfold ToplevelData.managers
      dsimp only
      rw [hmanagers, map_manager_newHandles, order.mem_list]
      constructor
      · intro hm
        exact Or.inr ⟨hm, hother⟩
      · rintro (⟨d, hd, hsurface, -⟩ | ⟨hm, -⟩)
        · exact absurd hsurface (hother d hd)
        · exact hm

/-! ## The loop -/

theorem refreshAll_spec (order : HashOrder) (hasFocus : Bool)
    (l : List (Mapped × Option Output)) (hs : s.Valid known bindings)
    (hnodup : (l.map fun e => e.1.surface).Nodup)
    (hsteady : ∀ e ∈ l, ∀ d ∈ s.toplevels, d.surface = e.1.surface → d.Steady e.1)
    (hfocus : hasFocus = true → ∀ e ∈ l, l = [e] ∧ ∀ d ∈ s.toplevels,
      d.surface ≠ e.1.surface → ToplevelState.activated ∉ d.states) :
    Follows known bindings s (s.refreshAll order bindings hasFocus l).1
        (s.refreshAll order bindings hasFocus l).2 ∧
      Refreshed s (s.refreshAll order bindings hasFocus l).1 l hasFocus := by
  induction l generalizing s with
  | nil => exact ⟨Follows.refl hs, Refreshed.refl s hasFocus⟩
  | cons e l ih =>
    rw [List.map_cons, List.nodup_cons] at hnodup
    have hfirst := follows_refreshToplevel hs order e.1 e.2 hasFocus
      (hsteady e List.mem_cons_self) fun hf => (hfocus hf e List.mem_cons_self).2
    have hrefreshed := refreshed_refreshToplevel hs order e hasFocus
      (hsteady e List.mem_cons_self)
    have hne : ∀ e' ∈ l, e'.1.surface ≠ e.1.surface :=
      fun e' he' heq => hnodup.1 (heq ▸ List.mem_map_of_mem he')
    have hsame : ∀ d : ToplevelData, d.surface ≠ e.1.surface →
        (d ∈ (s.refreshToplevel order bindings e.1 e.2 hasFocus).1.toplevels ↔
          d ∈ s.toplevels) := by
      intro d hd
      refine hrefreshed.other d fun e' he' => ?_
      obtain rfl := List.mem_singleton.mp he'
      exact hd
    obtain ⟨hrest, hrestRefreshed⟩ := ih hfirst.valid hnodup.2
      (fun e' he' d hd hsurface => hsteady e' (List.mem_cons_of_mem _ he') d
        ((hsame d (hsurface ▸ hne e' he')).mp hd) hsurface)
      fun hf e' he' => by
        have hnil : l = [] := List.cons.inj (hfocus hf e List.mem_cons_self).1 |>.2
        exact absurd (hnil ▸ he') List.not_mem_nil
    refine ⟨hfirst.trans hrest, fun d hd => ?_, fun e' he' => ?_⟩
    · rw [← hsame d (hd e List.mem_cons_self)]
      exact hrestRefreshed.other d fun e' he' => hd e' (List.mem_cons_of_mem _ he')
    · rcases List.mem_cons.mp he' with rfl | he'
      · obtain ⟨d, hd, his, hm⟩ := hrefreshed.this e' List.mem_cons_self
        refine ⟨d, (hrestRefreshed.other d fun e'' he'' => ?_).mpr hd, his, hm⟩
        rw [his.surface]
        exact (hne e'' he'').symm
      · obtain ⟨d, hd, his, hm⟩ := hrestRefreshed.this e' he'
        refine ⟨d, hd, his, fun m => (hm m).trans (hrefreshed.has_iff hfirst.wlr_eq ?_ m)⟩
        intro e'' he''
        rw [List.mem_singleton.mp he'']
        exact hne e' he'

/-! ## Windows that are there -/

theorem findWlSurface_isSome (workspaces : List (List Mapped)) (surface : WlSurface) :
    (Layout.findWlSurface workspaces surface).isSome ↔
      ∃ mapped ∈ workspaces.flatten, mapped.surface = surface := by
  unfold Layout.findWlSurface
  rw [List.isSome_findSome?, List.any_eq_true]
  constructor
  · rintro ⟨ws, hws, hfind⟩
    obtain ⟨mapped, hmapped, heq⟩ := List.find?_isSome.mp hfind
    exact ⟨mapped, List.mem_flatten.mpr ⟨ws, hws, hmapped⟩, by simpa using heq⟩
  · rintro ⟨mapped, hmapped, rfl⟩
    obtain ⟨ws, hws, hmapped⟩ := List.mem_flatten.mp hmapped
    exact ⟨ws, hws, List.find?_isSome.mpr ⟨mapped, hmapped, by simp⟩⟩

/-- The window of an interactive move comes first. -/
theorem isSome_moving (moving : Option (Mapped × Output)) (surface : WlSurface)
    {found : Option (Mapped × Option Output)} {windows : List (Mapped × Option Output)}
    (h : found.isSome ↔ ∃ e ∈ windows, e.1.surface = surface) :
    (match moving.filter fun (move : Mapped × Output) => move.1.surface = surface with
      | some move => some (move.1, some move.2)
      | none => found).isSome ↔
      ∃ e ∈ (moving.map fun move => (move.1, some move.2)).toList ++ windows,
        e.1.surface = surface := by
  cases moving with
  | none => exact h
  | some move =>
    by_cases hmove : move.1.surface = surface
    · simp only [Option.filter_some, hmove, decide_true, if_true, Option.isSome_some, true_iff]
      exact ⟨(move.1, some move.2), List.mem_append_left _ (by simp), hmove⟩
    · simp only [Option.filter_some, hmove, decide_false, Bool.false_eq_true, if_false]
      rw [h]
      constructor
      · rintro ⟨e, he, heq⟩
        exact ⟨e, List.mem_append_right _ he, heq⟩
      · rintro ⟨e, he, heq⟩
        rcases List.mem_append.mp he with he | he
        · obtain rfl : e = (move.1, some move.2) := by simpa using he
          exact absurd heq hmove
        · exact ⟨e, he, heq⟩

/-- A window is found where the loops over all windows come by it. -/
theorem findWindowAndOutput_isSome (layout : Layout) (surface : WlSurface) :
    (layout.findWindowAndOutput surface).isSome ↔
      ∃ e ∈ layout.withWindows, e.1.surface = surface := by
  obtain ⟨moving, monitorSet⟩ := layout
  cases monitorSet with
  | normal monitors =>
    refine isSome_moving moving surface ?_
    simp only [List.isSome_findSome?, List.any_eq_true, Option.isSome_map,
      findWlSurface_isSome, List.mem_flatMap, List.mem_map]
    constructor
    · rintro ⟨mon, hmon, mapped, hmapped, heq⟩
      exact ⟨(mapped, some mon.output), ⟨mon, hmon, mapped, hmapped, rfl⟩, heq⟩
    · rintro ⟨e, ⟨mon, hmon, mapped, hmapped, rfl⟩, heq⟩
      exact ⟨mon, hmon, mapped, hmapped, heq⟩
  | noOutputs workspaces =>
    refine isSome_moving moving surface ?_
    simp only [Option.isSome_map, findWlSurface_isSome, List.mem_map]
    constructor
    · rintro ⟨mapped, hmapped, heq⟩
      exact ⟨(mapped, none), ⟨mapped, hmapped, rfl⟩, heq⟩
    · rintro ⟨e, ⟨mapped, hmapped, rfl⟩, heq⟩
      exact ⟨mapped, hmapped, heq⟩

/-! ## A whole refresh -/

/-- The record says of the window what a refresh of the state tells the clients. -/
def ToplevelData.Tracks (state : State) (d : ToplevelData) (e : Mapped × Option Output) : Prop :=
  d.Is e (decide (state.keyboardFocus = some e.1.surface))

theorem dropClosed_toplevels (order : HashOrder) (s : ForeignToplevelManagerState)
    (layout : Layout) (d : ToplevelData) :
    d ∈ (s.dropClosed order layout).1.toplevels ↔
      d ∈ s.toplevels ∧ ∃ e ∈ layout.withWindows, e.1.surface = d.surface := by
  show d ∈ List.filter _ _ ↔ _
  rw [List.mem_filter, order.mem_list, findWindowAndOutput_isSome]

/-- After the refresh there is one record for each window, and the managers have
    the handles they are to have. -/
theorem refresh_spec (hs : s.Valid known bindings) (order : HashOrder) (state : State)
    (hsteady : ∀ e ∈ state.layout.withWindows, ∀ d ∈ s.toplevels, d.surface = e.1.surface →
      d.Steady e.1) :
    Follows known bindings s (s.refresh order bindings state).1
        (s.refresh order bindings state).2 ∧
      (∀ d ∈ (s.refresh order bindings state).1.toplevels, ∃ e ∈ state.layout.withWindows,
        d.Tracks state e ∧ ∀ m, m ∈ d.managers ↔ s.Has m e.1.surface) ∧
      ∀ e ∈ state.layout.withWindows, ∃ d ∈ (s.refresh order bindings state).1.toplevels,
        d.surface = e.1.surface := by
  generalize hwindows : state.layout.withWindows = windows at hsteady ⊢
  have hnodup : (windows.map fun e => e.1.surface).Nodup := hwindows ▸ state.surfaces_nodup
  have hinj : ∀ e ∈ windows, ∀ e' ∈ windows, e.1.surface = e'.1.surface → e = e' :=
    fun e he e' he' heq => List.inj_on_of_nodup_map hnodup he he' heq
  let isFocused (e : Mapped × Option Output) : Bool :=
    decide (state.keyboardFocus = some e.1.surface)
  -- the windows that are gone
  have hdrop := follows_dropClosed hs order state.layout
  have hdropped := dropClosed_toplevels order s state.layout
  rw [hwindows] at hdropped
  generalize hs₁ : s.dropClosed order state.layout = dropped at hdrop hdropped
  obtain ⟨s₁, closed⟩ := dropped
  dsimp only at hdrop hdropped
  have hhas₁ : ∀ e ∈ windows, ∀ m, s₁.Has m e.1.surface ↔ s.Has m e.1.surface :=
    fun e he => has_iff_of_mem
      (fun d hd => (hdropped d).trans (and_iff_left ⟨e, he, hd.symm⟩)) hdrop.wlr_eq
  -- the windows without the focus
  obtain ⟨hothers, hrefreshed⟩ := refreshAll_spec order false
    (windows.filter fun e => !isFocused e) hdrop.valid
    (hnodup.sublist (List.filter_sublist.map _))
    (fun e he d hd => hsteady e (List.mem_of_mem_filter he) d ((hdropped d).mp hd).1) nofun
  generalize hs₂ : s₁.refreshAll order bindings false (windows.filter fun e => !isFocused e) =
    others at hothers hrefreshed
  obtain ⟨s₂, othersMessages⟩ := others
  dsimp only at hothers hrefreshed
  have hquiet : ∀ e ∈ windows, isFocused e = false → ∃ d ∈ s₂.toplevels, d.Is e false ∧
      ∀ m, m ∈ d.managers ↔ s.Has m e.1.surface := by
    intro e he hf
    obtain ⟨d, hd, his, hm⟩ := hrefreshed.this e (List.mem_filter.mpr ⟨he, by simpa using hf⟩)
    exact ⟨d, hd, his, fun m => (hm m).trans (hhas₁ e he m)⟩
  have hwindow₂ : ∀ d ∈ s₂.toplevels, ∃ e ∈ windows, d.surface = e.1.surface := by
    intro d hd
    by_cases hnone : ∀ e ∈ windows.filter fun e => !isFocused e, d.surface ≠ e.1.surface
    · obtain ⟨e, he, heq⟩ := ((hdropped d).mp ((hrefreshed.other d hnone).mp hd)).2
      exact ⟨e, he, heq.symm⟩
    · by_contra hno
      exact hnone fun e he heq => hno ⟨e, List.mem_of_mem_filter he, heq⟩
  have hunfocused : ∀ e ∈ windows, isFocused e = true →
      ∀ e' ∈ windows.filter fun e => !isFocused e, e.1.surface ≠ e'.1.surface := by
    intro e he hf e' he' heq
    obtain ⟨he', hf'⟩ := List.mem_filter.mp he'
    rw [hinj e he e' he' heq] at hf
    simp [hf] at hf'
  -- the one with the focus, if there is one
  have hlist : ∀ e ∈ windows, isFocused e = true →
      (windows.filter isFocused).getLast?.toList = [e] := by
    intro e he hf
    cases hlast : (windows.filter isFocused).getLast? with
    | none =>
      rw [List.getLast?_eq_none_iff, List.filter_eq_nil_iff] at hlast
      exact absurd hf (hlast e he)
    | some e' =>
      obtain ⟨he', hf'⟩ := List.mem_filter.mp (List.mem_of_getLast? hlast)
      have hsurface : some e.1.surface = some e'.1.surface :=
        (of_decide_eq_true hf).symm.trans (of_decide_eq_true hf')
      rw [hinj e he e' he' (Option.some.inj hsurface)]
      rfl
  have hmemlist : ∀ e ∈ (windows.filter isFocused).getLast?.toList,
      e ∈ windows ∧ isFocused e = true := by
    intro e he
    exact List.mem_filter.mp (List.mem_of_getLast? (Option.mem_toList.mp he))
  have honce : ((windows.filter isFocused).getLast?.toList.map fun e => e.1.surface).Nodup := by
    cases (windows.filter isFocused).getLast? with
    | none => exact List.nodup_nil
    | some e => exact List.nodup_singleton _
  obtain ⟨hfocused, hrefreshed'⟩ := refreshAll_spec order true
    (windows.filter isFocused).getLast?.toList hothers.valid honce
    (fun e he d hd hsurface => by
      obtain ⟨he, hf⟩ := hmemlist e he
      have hd₁ := (hrefreshed.other d (hsurface ▸ hunfocused e he hf)).mp hd
      exact hsteady e he d ((hdropped d).mp hd₁).1 hsurface)
    (fun _ e he => by
      obtain ⟨he, hf⟩ := hmemlist e he
      refine ⟨hlist e he hf, fun d hd hne => ?_⟩
      obtain ⟨e', he', hsurface⟩ := hwindow₂ d hd
      cases hf' : isFocused e' with
      | true =>
        have hsame : some e'.1.surface = some e.1.surface :=
          (of_decide_eq_true hf').symm.trans (of_decide_eq_true hf)
        exact absurd (hsurface.trans (Option.some.inj hsame)) hne
      | false =>
        obtain ⟨d', hd', his, -⟩ := hquiet e' he' hf'
        rw [eq_of_surface_eq hothers.valid hd hd' (hsurface.trans his.surface.symm), his.states]
        exact activated_not_mem_toStateVec e'.1)
  generalize hs₃ : s₂.refreshAll order bindings true (windows.filter isFocused).getLast?.toList =
    focused at hfocused hrefreshed'
  obtain ⟨s₃, focusedMessages⟩ := focused
  dsimp only at hfocused hrefreshed'
  have heq : s.refresh order bindings state = (s₃, closed ++ othersMessages ++ focusedMessages) := by
    unfold ForeignToplevelManagerState.refresh
    rw [hwindows]
    simp only [hs₁]
    dsimp only [isFocused] at hs₂ hs₃
    rw [hs₂]
    dsimp only
    rw [hs₃]
  rw [heq]
  have hthis : ∀ e ∈ windows, ∃ d ∈ s₃.toplevels, d.Tracks state e ∧
      ∀ m, m ∈ d.managers ↔ s.Has m e.1.surface := by
    intro e he
    cases hf : isFocused e with
    | true =>
      obtain ⟨d, hd, his, hm⟩ := hrefreshed'.this e (hlist e he hf ▸ List.mem_cons_self)
      refine ⟨d, hd, ?_, fun m => (hm m).trans ?_⟩
      · show d.Is e (isFocused e)
        rwa [hf]
      · rw [hrefreshed.has_iff hothers.wlr_eq (hunfocused e he hf)]
        exact hhas₁ e he m
    | false =>
      obtain ⟨d, hd, his, hm⟩ := hquiet e he hf
      refine ⟨d, (hrefreshed'.other d fun e' he' heq => ?_).mpr hd, ?_, hm⟩
      · obtain ⟨he', hf'⟩ := hmemlist e' he'
        rw [hinj e he e' he' (his.surface.symm.trans heq), hf'] at hf
        cases hf
      · show d.Is e (isFocused e)
        rwa [hf]
  refine ⟨(hdrop.trans hothers).trans hfocused, fun d hd => ?_, fun e he => ?_⟩
  · obtain ⟨e, he, hsurface⟩ : ∃ e ∈ windows, d.surface = e.1.surface := by
      by_contra hno
      have hd₂ := (hrefreshed'.other d fun e he heq => hno ⟨e, (hmemlist e he).1, heq⟩).mp hd
      exact hno (hwindow₂ d hd₂)
    obtain ⟨d', hd', his, hm⟩ := hthis e he
    rw [eq_of_surface_eq hfocused.valid hd hd' (hsurface.trans his.surface.symm)]
    exact ⟨e, he, his, hm⟩
  · obtain ⟨d, hd, his, -⟩ := hthis e he
    exact ⟨d, hd, his.surface⟩

end Cidre.Protocols.ForeignToplevel
