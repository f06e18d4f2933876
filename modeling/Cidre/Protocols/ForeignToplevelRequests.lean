/-
  Cidre.Protocols.ForeignToplevelRequests

  What requests do to the clients: a manager is bound and told of all windows, a
  handle is destroyed, a `wl_output` is bound and entered.  No request changes
  what the records say of the windows (`SameWindows`).
-/

import Cidre.Protocols.ForeignToplevelRefresh

namespace Cidre.Protocols.ForeignToplevel

open Cidre.Run

variable {known : List Manager} {bindings : List Binding}
  {s s' : ForeignToplevelManagerState} {m : Manager}

/-! ## Records -/

/-- Two records of one window that say the same of it. -/
structure ToplevelData.Same (d d' : ToplevelData) : Prop where
  surface : d'.surface = d.surface
  title : d'.title = d.title
  appId : d'.appId = d.appId
  states : d'.states = d.states
  output : d'.output = d.output

theorem ToplevelData.Same.tracks {d d' : ToplevelData} (h : d.Same d') {state : State}
    {e : Mapped × Option Output} (hd : d.Tracks state e) : d'.Tracks state e :=
  ⟨h.surface.trans hd.surface, h.title.trans hd.title, h.appId.trans hd.appId,
    h.states.trans hd.states, h.output.trans hd.output⟩

/-- The records are those of the same windows, one by one. -/
structure SameWindows (s s' : ForeignToplevelManagerState) : Prop where
  back : ∀ d' ∈ s'.toplevels, ∃ d ∈ s.toplevels, d.Same d'
  forth : ∀ d ∈ s.toplevels, ∃ d' ∈ s'.toplevels, d.Same d'

/-- At most one record is activated. -/
def Quiet (l : List ToplevelData) : Prop :=
  l.Pairwise fun d d' =>
    ToplevelState.activated ∈ d.states → ToplevelState.activated ∉ d'.states

/-- Records of one state have the focus at most once. -/
theorem quiet_of_tracks {l : List ToplevelData} (hnodup : (l.map ToplevelData.surface).Nodup)
    {state : State} (htracks : ∀ d ∈ l, ∃ e ∈ state.layout.withWindows, d.Tracks state e) :
    Quiet l := by
  have hfocus : ∀ d ∈ l, ToplevelState.activated ∈ d.states →
      state.keyboardFocus = some d.surface := by
    intro d hd hact
    obtain ⟨e, -, his⟩ := htracks d hd
    rw [his.states] at hact
    by_contra hne
    rw [his.surface] at hne
    rw [decide_eq_false hne] at hact
    exact activated_not_mem_toStateVec e.1 hact
  have hpairs : l.Pairwise fun d d' => d.surface ≠ d'.surface := List.pairwise_map.mp hnodup
  refine hpairs.imp_of_mem fun hd hd' hne hact hact' => hne ?_
  exact Option.some.inj ((hfocus _ hd hact).symm.trans (hfocus _ hd' hact'))

theorem toplevelsOf_map {α : Type} {l : List α} {f g : α → ToplevelData}
    (h : ∀ a ∈ l, (f a).openFor m = (g a).openFor m) :
    toplevelsOf m (l.map f) = toplevelsOf m (l.map g) := by
  unfold toplevelsOf
  rw [List.filterMap_map, List.filterMap_map]
  exact List.filterMap_congr h

/-! ## A manager is bound -/

/-- The windows are described to a client one after the other. -/
theorem shows_describeAll (l : List (ToplevelData × Handle)) {ts : List OpenToplevel} {v : View}
    (hv : Shows ts v) (hsingle : v.Single) (hnodup : (l.map Prod.snd).Nodup)
    (hfresh : ∀ e ∈ l, ∀ o ∈ ts, o.handle ≠ e.2)
    (hquiet : Quiet (l.map Prod.fst))
    (hothers : ∀ e ∈ l, ToplevelState.activated ∈ e.1.states →
      ∀ o ∈ ts, ToplevelState.activated ∉ o.view.states) :
    ∃ v', Along View.apply View.Single v
        (l.flatMap fun e => e.1.addWlrInstance bindings e.2) v' ∧
      Shows ((l.map fun e => ⟨e.2, ⟨e.1.title, e.1.appId, e.1.states,
        windowOutputs bindings e.1.output e.2.manager.client⟩⟩) ++ ts) v' := by
  induction l generalizing ts v with
  | nil => exact ⟨v, along_nil hsingle, hv⟩
  | cons e l ih =>
    rw [List.map_cons, List.nodup_cons] at hnodup
    unfold Quiet at hquiet
    rw [List.map_cons, List.pairwise_cons] at hquiet
    have hfirst : ∃ v₁, Along View.apply View.Single v (e.1.addWlrInstance bindings e.2) v₁ ∧ _ :=
      hv.describe hsingle (hfresh e List.mem_cons_self) e.1 (hothers e List.mem_cons_self)
    obtain ⟨v₁, hrun₁, hv₁⟩ := hfirst
    obtain ⟨v₂, hrun₂, hv₂⟩ := ih hv₁ hrun₁.holds hnodup.2
      (fun e' he' o ho => by
        rcases List.mem_cons.mp ho with rfl | ho
        · intro heq
          have heq : e.2 = e'.2 := heq
          exact hnodup.1 (heq ▸ List.mem_map_of_mem he')
        · exact hfresh e' (List.mem_cons_of_mem _ he') o ho)
      hquiet.2
      (fun e' he' hact o ho => by
        rcases List.mem_cons.mp ho with rfl | ho
        · exact fun hact' => hquiet.1 e'.1 (List.mem_map_of_mem he') hact' hact
        · exact hothers e' (List.mem_cons_of_mem _ he') hact o ho)
    exact ⟨v₂, hrun₁.append hrun₂, hv₂.perm List.perm_middle⟩

theorem instanceOf_cons_other {e : Handle × List WlOutput} (hne : e.1.manager ≠ m)
    (instances : List (Handle × List WlOutput)) :
    instanceOf m (e :: instances) = instanceOf m instances :=
  List.find?_cons_of_neg (by simpa using hne)

theorem instanceOf_cons_self (e : Handle × List WlOutput)
    (instances : List (Handle × List WlOutput)) :
    instanceOf e.1.manager (e :: instances) = some e :=
  List.find?_cons_of_pos (by simp)

/-- A record with a handle for a new manager. -/
def ToplevelData.addManager (bindings : List Binding) (e : ToplevelData × Handle) :
    ToplevelData :=
  { e.1 with wlrManagementInstances :=
      e.1.wlrInstance bindings e.2 :: e.1.wlrManagementInstances }

section BindWlr

variable (order : HashOrder) (client : Client)

theorem bindWlr_eq (s : ForeignToplevelManagerState) :
    s.bindWlr order bindings client =
      ({ s with
          serial := s.serial + 1 + s.toplevels.length
          wlrManagementInstances := ⟨client, s.serial⟩ :: s.wlrManagementInstances
          toplevels := (numbered ⟨client, s.serial⟩ (s.serial + 1) (order.list s.toplevels)).map
            (ToplevelData.addManager bindings) },
        (numbered ⟨client, s.serial⟩ (s.serial + 1) (order.list s.toplevels)).flatMap fun e =>
          e.1.addWlrInstance bindings e.2) := by
  have hlength : (numbered ⟨client, s.serial⟩ (s.serial + 1) (order.list s.toplevels)).length =
      s.toplevels.length := by rw [numbered_length, (order.perm _).length_eq]
  rw [← hlength]
  rfl

/-- A new object is not that of a manager from before. -/
theorem ne_newManager {m : Manager} (hm : m.serial < s.serial) : m ≠ ⟨client, s.serial⟩ :=
  fun heq => absurd (congrArg Manager.serial heq) (Nat.ne_of_lt hm)

theorem ToplevelData.Valid.addManager {d : ToplevelData} (hd : d.Valid known bindings s.serial)
    {h : Handle} (hmanager : h.manager = ⟨client, s.serial⟩) {serial : Nat}
    (hh : h.serial < serial) (hlt : s.serial < serial) :
    (ToplevelData.addManager bindings (d, h)).Valid (⟨client, s.serial⟩ :: known) bindings
      serial := by
  refine ⟨?_, ?_, ?_, ?_⟩
  · show ((d.wlrInstance bindings h :: d.wlrManagementInstances).map fun e => e.1.manager).Nodup
    rw [List.map_cons, List.nodup_cons]
    refine ⟨fun hmem => ?_, hd.instances_nodup⟩
    obtain ⟨e, he, heq⟩ := List.mem_map.mp hmem
    exact ne_newManager client (hd.wlr_lt e he).2 (heq.trans hmanager)
  · intro e he
    rcases List.mem_cons.mp he with rfl | he
    · rfl
    · exact hd.outputs_eq e he
  · intro e he
    rcases List.mem_cons.mp he with rfl | he
    · refine ⟨hh, ?_⟩
      show h.manager.serial < serial
      rw [hmanager]
      exact hlt
    · exact ⟨(hd.wlr_lt e he).1.trans hlt, (hd.wlr_lt e he).2.trans hlt⟩
  · intro h' hh'
    have hother := hd.ext_other h' hh'
    refine ⟨fun hmem => ?_, hother.2.trans hlt⟩
    rcases List.mem_cons.mp hmem with heq | hmem
    · exact ne_newManager client hother.2 heq
    · exact hother.1 hmem

theorem valid_bindWlr (hs : s.Valid known bindings) :
    (s.bindWlr order bindings client).1.Valid (⟨client, s.serial⟩ :: known) bindings := by
  rw [bindWlr_eq]
  refine ⟨?_, fun d hd => ?_, ?_, fun m hm => ?_, fun m hm => ?_⟩
  · have hmap : ((numbered ⟨client, s.serial⟩ (s.serial + 1) (order.list s.toplevels)).map
        (ToplevelData.addManager bindings)).map ToplevelData.surface =
        ((numbered ⟨client, s.serial⟩ (s.serial + 1) (order.list s.toplevels)).map Prod.fst).map
          ToplevelData.surface := by
      rw [List.map_map, List.map_map]
      rfl
    show (List.map ToplevelData.surface (List.map _ _)).Nodup
    rw [hmap, numbered_map_fst]
    exact ((order.perm _).map _).nodup_iff.mpr hs.surfaces_nodup
  · obtain ⟨e, he, rfl⟩ := List.mem_map.mp hd
    obtain ⟨hmem, hmanager, -, hlt⟩ := mem_numbered he
    rw [(order.perm _).length_eq] at hlt
    have hserial : s.serial < s.serial + 1 + s.toplevels.length := by omega
    exact (hs.toplevels e.1 (order.mem_list.mp hmem)).addManager client hmanager hlt hserial
  · rw [List.nodup_cons]
    exact ⟨fun hmem => ne_newManager client (hs.managers_lt _ hmem) rfl, hs.managers_nodup⟩
  · rcases List.mem_cons.mp hm with rfl | hm
    · show s.serial < s.serial + 1 + _
      omega
    · have hlt := hs.managers_lt m hm
      show m.serial < s.serial + 1 + _
      omega
  · have hother := hs.ext_other m hm
    refine ⟨fun hmem => ?_, ?_⟩
    · rcases List.mem_cons.mp hmem with heq | hmem
      · exact ne_newManager client hother.2 heq
      · exact hother.1 hmem
    · show m.serial < s.serial + 1 + _
      omega

theorem mem_bindWlr {d : ToplevelData}
    (hd : d ∈ (s.bindWlr order bindings client).1.toplevels) :
    ∃ d₀ ∈ s.toplevels, ∃ h : Handle, h.manager = ⟨client, s.serial⟩ ∧
      d = ToplevelData.addManager bindings (d₀, h) := by
  rw [bindWlr_eq] at hd
  obtain ⟨e, he, rfl⟩ := List.mem_map.mp hd
  obtain ⟨hmem, hmanager, -⟩ := mem_numbered he
  exact ⟨e.1, order.mem_list.mp hmem, e.2, hmanager, rfl⟩

theorem sameWindows_bindWlr (s : ForeignToplevelManagerState) :
    SameWindows s (s.bindWlr order bindings client).1 := by
  refine ⟨fun d' hd' => ?_, fun d hd => ?_⟩
  · obtain ⟨d, hd, h, -, rfl⟩ := mem_bindWlr order client hd'
    exact ⟨d, hd, rfl, rfl, rfl, rfl, rfl⟩
  · rw [bindWlr_eq]
    have hmem : d ∈ (numbered ⟨client, s.serial⟩ (s.serial + 1)
        (order.list s.toplevels)).map Prod.fst := by
      rw [numbered_map_fst]
      exact order.mem_list.mpr hd
    obtain ⟨e, he, rfl⟩ := List.mem_map.mp hmem
    exact ⟨_, List.mem_map_of_mem he, rfl, rfl, rfl, rfl, rfl⟩

/-- The new client is told of all windows, the others notice nothing. -/
theorem view_bindWlr (hquiet : Quiet s.toplevels) :
    (∀ message ∈ (s.bindWlr order bindings client).2, message.manager = ⟨client, s.serial⟩) ∧
      (∀ m v, m.serial < s.serial → Synced s m v →
        Synced (s.bindWlr order bindings client).1 m v) ∧
      ∃ v, Along View.apply View.Single .empty (s.bindWlr order bindings client).2 v ∧
        Synced (s.bindWlr order bindings client).1 ⟨client, s.serial⟩ v := by
  rw [bindWlr_eq]
  generalize hnew : numbered ⟨client, s.serial⟩ (s.serial + 1) (order.list s.toplevels) = new
  have hmanager : ∀ e ∈ new, e.2.manager = ⟨client, s.serial⟩ := by
    intro e he
    rw [← hnew] at he
    exact (mem_numbered he).2.1
  have hfst : new.map Prod.fst = order.list s.toplevels := by rw [← hnew, numbered_map_fst]
  refine ⟨fun message hm => ?_, fun m v hm hv => ?_, ?_⟩
  · obtain ⟨e, he, hm⟩ := List.mem_flatMap.mp hm
    rw [manager_of_mem_addWlrInstance hm]
    exact hmanager e he
  · unfold Synced at hv ⊢
    dsimp only
    rw [toplevelsOf_map (g := Prod.fst), hfst]
    · exact hv.perm ((order.perm _).symm.filterMap _)
    · intro e he
      have hne : e.2.manager ≠ m := hmanager e he ▸ (ne_newManager client hm).symm
      unfold ToplevelData.openFor ToplevelData.addManager
      rw [instanceOf_cons_other (e := e.1.wlrInstance bindings e.2) hne]
  · have hquiet' : Quiet (new.map Prod.fst) := by
      rw [hfst]
      exact ((order.perm _).pairwise_iff fun h hact hact' => h hact' hact).mpr hquiet
    have hnodup : (new.map Prod.snd).Nodup := by
      rw [← hnew]
      exact numbered_nodup
    obtain ⟨v, hrun, hv⟩ := shows_describeAll new shows_empty View.single_empty hnodup
      (fun _ _ o ho => absurd ho List.not_mem_nil) hquiet'
      (fun _ _ _ o ho => absurd ho List.not_mem_nil)
    refine ⟨v, hrun, ?_⟩
    rw [List.append_nil] at hv
    have hopen : ∀ e ∈ new, (ToplevelData.addManager bindings e).openFor ⟨client, s.serial⟩ =
        some ⟨e.2, ⟨e.1.title, e.1.appId, e.1.states,
          windowOutputs bindings e.1.output e.2.manager.client⟩⟩ := by
      intro e he
      unfold ToplevelData.openFor ToplevelData.addManager
      rw [← hmanager e he]
      exact congrArg _ (instanceOf_cons_self (e.1.wlrInstance bindings e.2) _)
    have hmap : toplevelsOf ⟨client, s.serial⟩ (new.map (ToplevelData.addManager bindings)) =
        new.map fun e => ⟨e.2, ⟨e.1.title, e.1.appId, e.1.states,
          windowOutputs bindings e.1.output e.2.manager.client⟩⟩ := by
      unfold toplevelsOf
      rw [List.filterMap_map]
      exact (List.filterMap_congr hopen).trans (congrFun List.filterMap_eq_map new)
    show Shows (toplevelsOf _ (new.map _)) v
    rwa [hmap]

end BindWlr

section BindExt

variable (order : HashOrder) (client : Client)

/-- A record with a handle of the other protocol. -/
def ToplevelData.addExt (e : ToplevelData × Handle) : ToplevelData :=
  { e.1 with extListInstances := e.2 :: e.1.extListInstances }

theorem bindExt_eq (s : ForeignToplevelManagerState) :
    s.bindExt order client =
      ({ s with
          serial := s.serial + 1 + s.toplevels.length
          extListInstances := ⟨client, s.serial⟩ :: s.extListInstances
          toplevels := (numbered ⟨client, s.serial⟩ (s.serial + 1) (order.list s.toplevels)).map
            ToplevelData.addExt },
        (numbered ⟨client, s.serial⟩ (s.serial + 1) (order.list s.toplevels)).flatMap fun e =>
          e.1.addExtInstance e.2) := by
  have hlength : (numbered ⟨client, s.serial⟩ (s.serial + 1) (order.list s.toplevels)).length =
      s.toplevels.length := by rw [numbered_length, (order.perm _).length_eq]
  rw [← hlength]
  rfl

theorem mem_bindExt {d : ToplevelData} (hd : d ∈ (s.bindExt order client).1.toplevels) :
    ∃ d₀ ∈ s.toplevels, ∃ h : Handle, h.manager = ⟨client, s.serial⟩ ∧
      d = ToplevelData.addExt (d₀, h) := by
  rw [bindExt_eq] at hd
  obtain ⟨e, he, rfl⟩ := List.mem_map.mp hd
  obtain ⟨hmem, hmanager, -⟩ := mem_numbered he
  exact ⟨e.1, order.mem_list.mp hmem, e.2, hmanager, rfl⟩

theorem sameWindows_bindExt (s : ForeignToplevelManagerState) :
    SameWindows s (s.bindExt order client).1 := by
  refine ⟨fun d' hd' => ?_, fun d hd => ?_⟩
  · obtain ⟨d, hd, h, -, rfl⟩ := mem_bindExt order client hd'
    exact ⟨d, hd, rfl, rfl, rfl, rfl, rfl⟩
  · rw [bindExt_eq]
    have hmem : d ∈ (numbered ⟨client, s.serial⟩ (s.serial + 1)
        (order.list s.toplevels)).map Prod.fst := by
      rw [numbered_map_fst]
      exact order.mem_list.mpr hd
    obtain ⟨e, he, rfl⟩ := List.mem_map.mp hmem
    exact ⟨_, List.mem_map_of_mem he, rfl, rfl, rfl, rfl, rfl⟩

theorem valid_bindExt (hs : s.Valid known bindings) (hknown : ∀ m ∈ known, m.serial < s.serial) :
    (s.bindExt order client).1.Valid known bindings := by
  have hnew : (⟨client, s.serial⟩ : Manager) ∉ known :=
    fun hmem => ne_newManager client (hknown _ hmem) rfl
  have hserial : s.serial < s.serial + 1 + s.toplevels.length := by omega
  rw [bindExt_eq]
  refine ⟨?_, fun d hd => ?_, hs.managers_nodup, fun m hm => (hs.managers_lt m hm).trans hserial,
    fun m hm => ?_⟩
  · have hmap : ((numbered ⟨client, s.serial⟩ (s.serial + 1) (order.list s.toplevels)).map
        ToplevelData.addExt).map ToplevelData.surface =
        ((numbered ⟨client, s.serial⟩ (s.serial + 1) (order.list s.toplevels)).map Prod.fst).map
          ToplevelData.surface := by
      rw [List.map_map, List.map_map]
      rfl
    show (List.map ToplevelData.surface (List.map _ _)).Nodup
    rw [hmap, numbered_map_fst]
    exact ((order.perm _).map _).nodup_iff.mpr hs.surfaces_nodup
  · obtain ⟨e, he, rfl⟩ := List.mem_map.mp hd
    obtain ⟨hmem, hmanager, -⟩ := mem_numbered he
    have hd₀ := (hs.toplevels e.1 (order.mem_list.mp hmem)).mono hserial.le
    refine ⟨hd₀.instances_nodup, hd₀.outputs_eq, hd₀.wlr_lt, fun h hh => ?_⟩
    rcases List.mem_cons.mp hh with rfl | hh
    · rw [hmanager]
      exact ⟨hnew, hserial⟩
    · exact hd₀.ext_other h hh
  · rcases List.mem_cons.mp hm with rfl | hm
    · exact ⟨hnew, hserial⟩
    · exact ⟨(hs.ext_other m hm).1, (hs.ext_other m hm).2.trans hserial⟩

/-- Clients of the wlr protocol notice nothing. -/
theorem view_bindExt (s : ForeignToplevelManagerState) :
    (∀ message ∈ (s.bindExt order client).2, message.manager = ⟨client, s.serial⟩) ∧
      ∀ m v, Synced s m v → Synced (s.bindExt order client).1 m v := by
  rw [bindExt_eq]
  refine ⟨fun message hm => ?_, fun m v hv => ?_⟩
  · obtain ⟨e, he, hm⟩ := List.mem_flatMap.mp hm
    rw [manager_of_mem_addExtInstance hm]
    exact (mem_numbered he).2.1
  · unfold Synced at hv ⊢
    dsimp only
    rw [toplevelsOf_map (f := ToplevelData.addExt) (g := Prod.fst) fun e _ => rfl, numbered_map_fst]
    exact hv.perm ((order.perm _).symm.filterMap _)

end BindExt

/-! ## A handle is destroyed -/

/-- A record without this handle. -/
def ToplevelData.without (handle : Handle) (d : ToplevelData) : ToplevelData :=
  { d with
    extListInstances := d.extListInstances.filter fun h => h ≠ handle
    wlrManagementInstances := d.wlrManagementInstances.filter fun e => e.1 ≠ handle }

theorem ToplevelData.Valid.without {d : ToplevelData} {serial : Nat}
    (hd : d.Valid known bindings serial) (handle : Handle) :
    (d.without handle).Valid known bindings serial :=
  ⟨hd.instances_nodup.sublist (List.filter_sublist.map _),
    fun e he => hd.outputs_eq e (List.mem_of_mem_filter he),
    fun e he => hd.wlr_lt e (List.mem_of_mem_filter he),
    fun h hh => hd.ext_other h (List.mem_of_mem_filter hh)⟩

theorem valid_destroyed (hs : s.Valid known bindings) (handle : Handle) :
    (s.destroyed handle).Valid known bindings := by
  refine hs.withToplevels ?_ fun d hd => ?_
  · rw [List.map_map]
    exact hs.surfaces_nodup
  · obtain ⟨d₀, hd₀, rfl⟩ := List.mem_map.mp hd
    exact (hs.toplevels d₀ hd₀).without handle

theorem sameWindows_destroyed (s : ForeignToplevelManagerState) (handle : Handle) :
    SameWindows s (s.destroyed handle) := by
  refine ⟨fun d' hd' => ?_, fun d hd => ?_⟩
  · obtain ⟨d, hd, rfl⟩ := List.mem_map.mp hd'
    exact ⟨d, hd, rfl, rfl, rfl, rfl, rfl⟩
  · exact ⟨_, List.mem_map_of_mem hd, rfl, rfl, rfl, rfl, rfl⟩

/-- The handle of a manager is dropped when it is the one destroyed. -/
theorem instanceOf_without {d : ToplevelData} {serial : Nat} (hd : d.Valid known bindings serial)
    (handle : Handle) : instanceOf m (d.without handle).wlrManagementInstances =
      (instanceOf m d.wlrManagementInstances).filter fun e => e.1 ≠ handle := by
  have hone := filter_key_eq hd.instances_nodup m
  have hone' := filter_key_eq (hd.without handle).instances_nodup m
  have hboth : ((d.without handle).wlrManagementInstances.filter fun e => e.1.manager = m) =
      (d.wlrManagementInstances.filter fun e => e.1.manager = m).filter fun e => e.1 ≠ handle := by
    show List.filter _ (List.filter _ _) = _
    rw [List.filter_comm]
  rw [hone', hone, ← Option.toList_filter] at hboth
  simpa [instanceOf] using congrArg List.head? hboth

theorem Shows.destroy {ts : List OpenToplevel} {v : View} (h : Shows ts v) (handle : Handle) :
    Shows (ts.filter fun o => o.handle ≠ handle) (Function.update v handle none) := by
  refine ⟨h.nodup.sublist (List.filter_sublist.map _), fun h' t => ?_⟩
  by_cases heq : h' = handle
  · subst heq
    rw [Function.update_self]
    constructor
    · rintro ⟨⟩
    · rintro ⟨o, ho, heq, -⟩
      exact absurd heq (by simpa using (List.mem_filter.mp ho).2)
  · rw [Function.update_of_ne heq, h.iff]
    constructor
    · rintro ⟨o, ho, rfl, ht⟩
      exact ⟨o, List.mem_filter.mpr ⟨ho, by simpa using heq⟩, rfl, ht⟩
    · rintro ⟨o, ho, heq, ht⟩
      exact ⟨o, List.mem_of_mem_filter ho, heq, ht⟩

theorem toplevelsOf_destroyed (hs : s.Valid known bindings) (handle : Handle) :
    toplevelsOf m (s.destroyed handle).toplevels =
      (toplevelsOf m s.toplevels).filter fun o => o.handle ≠ handle := by
  show List.filterMap _ (s.toplevels.map (ToplevelData.without handle)) = _
  unfold toplevelsOf
  rw [List.filterMap_map, List.filter_filterMap]
  refine List.filterMap_congr fun d hd => ?_
  show (instanceOf m (d.without handle).wlrManagementInstances).map _ = _
  rw [instanceOf_without (hs.toplevels d hd)]
  unfold ToplevelData.openFor
  cases instanceOf m d.wlrManagementInstances with
  | none => rfl
  | some e =>
    by_cases heq : e.1 = handle
    · simp [Option.filter, heq]
    · simp [Option.filter, heq, ToplevelData.without]

theorem view_destroyed (hs : s.Valid known bindings) (handle : Handle) {v : View}
    (hv : Synced s m v) (hsingle : v.Single) :
    ∃ v', Along View.apply View.Single v (toManager m [.destroy handle]) v' ∧
      Synced (s.destroyed handle) m v' := by
  unfold Synced at hv ⊢
  rw [toplevelsOf_destroyed hs]
  by_cases hm : handle.manager = m
  · rw [toManager_eq_self (by simpa [Message.manager] using hm)]
    exact ⟨_, along_single hsingle rfl (View.single_remove hsingle handle), hv.destroy handle⟩
  · rw [toManager_eq_nil (by simpa [Message.manager] using hm), List.filter_eq_self.mpr]
    · exact ⟨v, along_nil hsingle, hv⟩
    · intro o ho
      obtain ⟨d, -, e, -, hmanager, heq, -⟩ := mem_toplevelsOf ho
      have hne : o.handle ≠ handle := fun h => hm (h ▸ heq ▸ hmanager)
      simpa using hne

/-! ## An output is bound -/

/-- Messages that change what each window is said to be, one after the other, and
    never whether it is activated. -/
theorem shows_changeAll (l : List ToplevelData) {f : ToplevelData → List Message}
    {g : ToplevelData → ToplevelData} {done : List ToplevelData} {v : View}
    (hnone : ∀ d ∈ l, d.openFor m = none → f d = [] ∧ (g d).openFor m = none)
    (hsome : ∀ d ∈ l, ∀ o, d.openFor m = some o → ∃ view,
      (g d).openFor m = some ⟨o.handle, view⟩ ∧ (∀ message ∈ f d, message.IsOn o.handle) ∧
        ∀ P : Toplevel → Prop,
          (∀ t, t.pending.states = o.view.states → t.shown.states = o.view.states → P t) →
          Along Toplevel.apply P (.settled o.view) (f d) (.settled view))
    (hv : Shows (toplevelsOf m (done ++ l)) v) (hsingle : v.Single) :
    ∃ v', Along View.apply View.Single v (l.flatMap f) v' ∧
      Shows (toplevelsOf m (done ++ l.map g)) v' := by
  induction l generalizing done v with
  | nil => exact ⟨v, along_nil hsingle, hv⟩
  | cons d l ih =>
    have hv := hv.perm (List.perm_middle.filterMap _)
    have hnext : ∃ v₁, Along View.apply View.Single v (f d) v₁ ∧
        Shows (toplevelsOf m (g d :: (done ++ l))) v₁ := by
      cases hopen : d.openFor m with
      | none =>
        obtain ⟨hf, hg⟩ := hnone d List.mem_cons_self hopen
        rw [hf, toplevelsOf_cons_none hg]
        rw [List.filterMap_cons_none hopen] at hv
        exact ⟨v, along_nil hsingle, hv⟩
      | some o =>
        obtain ⟨view, hg, hon, hrun⟩ := hsome d List.mem_cons_self o hopen
        rw [toplevelsOf_cons hg]
        rw [List.filterMap_cons_some hopen] at hv
        refine hv.change hsingle hon (hrun _ fun t hpending hshown => ?_)
        exact hv.allows_self hsingle (by simp [Toplevel.Activated, Toplevel.settled, hpending,
          hshown])
    obtain ⟨v₁, hrun₁, hv₁⟩ := hnext
    have hv₁ : Shows (toplevelsOf m ((done ++ [g d]) ++ l)) v₁ := by
      refine hv₁.perm ?_
      rw [List.append_assoc]
      exact List.perm_middle.symm.filterMap _
    obtain ⟨v₂, hrun₂, hv₂⟩ := ih
      (fun d' hd' => hnone d' (List.mem_cons_of_mem _ hd'))
      (fun d' hd' => hsome d' (List.mem_cons_of_mem _ hd')) hv₁ hrun₁.holds
    rw [List.append_assoc] at hv₂
    exact ⟨v₂, hrun₁.append hrun₂, hv₂⟩

theorem flatMap_filter {α β : Type} (p : α → Bool) (f : α → List β) (l : List α) :
    (l.filter p).flatMap f = l.flatMap fun a => if p a then f a else [] := by
  induction l with
  | nil => rfl
  | cons a l ih => cases hp : p a <;> simp [hp, ih]

theorem windowOutputs_append (bindings : List Binding) (b : Binding) (output : Option Output)
    (client : Client) : windowOutputs (bindings ++ [b]) output client =
      windowOutputs bindings output client ++
        if output = some b.output ∧ b.client = client then [b.wlOutput] else [] := by
  cases output with
  | none => simp [windowOutputs]
  | some output =>
    unfold windowOutputs
    dsimp only
    rw [clientOutputs_append]
    simp only [Option.some.injEq, eq_comm]

section OutputBound

variable (output : Output) (client : Client) (wlOutput : WlOutput)

/-- A record of a window that is on the output: its handles enter the new object. -/
def ToplevelData.entered (d : ToplevelData) : ToplevelData :=
  if d.output = some output then
    { d with wlrManagementInstances := d.wlrManagementInstances.map fun e =>
        if e.1.manager.client = client then (e.1, e.2 ++ [wlOutput]) else e }
  else d

/-- The handle of a manager in it. -/
theorem instanceOf_entered (d : ToplevelData) :
    instanceOf m (d.entered output client wlOutput).wlrManagementInstances =
      (instanceOf m d.wlrManagementInstances).map fun e =>
        if d.output = some output ∧ e.1.manager.client = client then (e.1, e.2 ++ [wlOutput])
        else e := by
  unfold ToplevelData.entered
  by_cases hout : d.output = some output
  · rw [if_pos hout]
    unfold instanceOf
    dsimp only
    rw [List.find?_map]
    simp only [hout, true_and]
    congr 2
    funext e
    by_cases hc : e.1.manager.client = client <;> simp [hc]
  · rw [if_neg hout]
    simp only [hout, false_and, if_false, Option.map_id_fun', id]

theorem same_entered (d : ToplevelData) : d.Same (d.entered output client wlOutput) := by
  unfold ToplevelData.entered
  split <;> exact ⟨rfl, rfl, rfl, rfl, rfl⟩

theorem ToplevelData.Valid.entered {d : ToplevelData} {serial : Nat}
    (hd : d.Valid known bindings serial) :
    (d.entered output client wlOutput).Valid known (bindings ++ [⟨output, client, wlOutput⟩])
      serial := by
  unfold ToplevelData.entered
  split
  case isTrue hout =>
      refine ⟨?_, ?_, ?_, hd.ext_other⟩
      · have hsame : (d.wlrManagementInstances.map fun e => if e.1.manager.client = client then
            (e.1, e.2 ++ [wlOutput]) else e).map (fun e => e.1.manager) =
            d.wlrManagementInstances.map fun e => e.1.manager := by
          rw [List.map_map]
          refine List.map_congr_left fun e _ => ?_
          by_cases hc : e.1.manager.client = client <;> simp [hc]
        dsimp only
        rw [hsame]
        exact hd.instances_nodup
      · intro e he
        obtain ⟨e₀, he₀, rfl⟩ := List.mem_map.mp he
        have heq := hd.outputs_eq e₀ he₀
        rw [windowOutputs_append]
        by_cases hc : e₀.1.manager.client = client
        · simp [hc, hout, heq]
        · simp [hc, Ne.symm hc, heq]
      · intro e he
        obtain ⟨e₀, he₀, rfl⟩ := List.mem_map.mp he
        by_cases hc : e₀.1.manager.client = client <;> simpa [hc] using hd.wlr_lt e₀ he₀
  case isFalse hout =>
      refine ⟨hd.instances_nodup, fun e he => ?_, hd.wlr_lt, hd.ext_other⟩
      rw [windowOutputs_append, hd.outputs_eq e he]
      simp [hout]

variable (order : HashOrder)

theorem onOutputBound_toplevels (s : ForeignToplevelManagerState) :
    (s.onOutputBound order output client wlOutput).1 =
      { s with toplevels := s.toplevels.map (ToplevelData.entered output client wlOutput) } := rfl

theorem valid_onOutputBound (hs : s.Valid known bindings) :
    (s.onOutputBound order output client wlOutput).1.Valid known
      (bindings ++ [⟨output, client, wlOutput⟩]) := by
  rw [onOutputBound_toplevels]
  refine ⟨?_, fun d hd => ?_, hs.managers_nodup, hs.managers_lt, hs.ext_other⟩
  · have hsame : (s.toplevels.map (ToplevelData.entered output client wlOutput)).map
        ToplevelData.surface = s.toplevels.map ToplevelData.surface := by
      rw [List.map_map]
      exact List.map_congr_left fun d _ => (same_entered output client wlOutput d).surface
    rw [hsame]
    exact hs.surfaces_nodup
  · obtain ⟨d₀, hd₀, rfl⟩ := List.mem_map.mp hd
    exact (hs.toplevels d₀ hd₀).entered output client wlOutput

theorem sameWindows_onOutputBound (s : ForeignToplevelManagerState) :
    SameWindows s (s.onOutputBound order output client wlOutput).1 := by
  rw [onOutputBound_toplevels]
  refine ⟨fun d' hd' => ?_, fun d hd => ?_⟩
  · obtain ⟨d, hd, rfl⟩ := List.mem_map.mp hd'
    exact ⟨d, hd, same_entered output client wlOutput d⟩
  · exact ⟨_, List.mem_map_of_mem hd, same_entered output client wlOutput d⟩

theorem managers_entered (d : ToplevelData) :
    (d.entered output client wlOutput).managers = d.managers := by
  unfold ToplevelData.managers ToplevelData.entered
  split
  · dsimp only
    rw [List.map_map]
    refine List.map_congr_left fun e _ => ?_
    by_cases hc : e.1.manager.client = client <;> simp [hc]
  · rfl

/-- The messages of one handle. -/
def enterMessages (e : Handle × List WlOutput) : List Message :=
  if e.1.manager.client = client then [.outputEnter e.1 wlOutput, .done e.1] else []

theorem toManager_onOutputBound (hs : s.Valid known bindings) :
    toManager m (s.onOutputBound order output client wlOutput).2 =
      (order.list s.toplevels).flatMap fun d => if d.output = some output then
        (instanceOf m d.wlrManagementInstances).toList.flatMap (enterMessages client wlOutput)
        else [] := by
  have hinner : ∀ d : ToplevelData, (((order.list d.wlrManagementInstances).filter fun e =>
      decide (e.1.manager.client = client)).flatMap fun e =>
        [Message.outputEnter e.1 wlOutput, .done e.1]) =
      (order.list d.wlrManagementInstances).flatMap (enterMessages client wlOutput) := by
    intro d
    rw [flatMap_filter]
    simp only [decide_eq_true_eq]
    rfl
  have hmanager : ∀ e : Handle × List WlOutput, ∀ message ∈ enterMessages client wlOutput e,
      message.manager = e.1.manager := by
    intro e message hm
    unfold enterMessages at hm
    split at hm
    · simp only [List.mem_cons, List.not_mem_nil, or_false] at hm
      rcases hm with rfl | rfl <;> rfl
    · exact absurd hm List.not_mem_nil
  unfold ForeignToplevelManagerState.onOutputBound
  dsimp only
  rw [flatMap_filter]
  simp only [hinner, decide_eq_true_eq]
  unfold toManager
  rw [List.filter_flatMap]
  refine List.flatMap_congr fun d hd => ?_
  split
  · exact toManager_flatMap (hs.toplevels d (order.mem_list.mp hd)).instances_nodup order m hmanager
  · rfl

theorem view_onOutputBound (hs : s.Valid known bindings) {v : View} (hv : Synced s m v)
    (hsingle : v.Single) :
    ∃ v', Along View.apply View.Single v
        (toManager m (s.onOutputBound order output client wlOutput).2) v' ∧
      Synced (s.onOutputBound order output client wlOutput).1 m v' := by
  rw [toManager_onOutputBound output client wlOutput order hs, onOutputBound_toplevels]
  unfold Synced at hv ⊢
  have hchange : ∃ v', Along View.apply View.Single v
      ((order.list s.toplevels).flatMap fun d => if d.output = some output then
        (instanceOf m d.wlrManagementInstances).toList.flatMap (enterMessages client wlOutput)
        else []) v' ∧
      Shows (toplevelsOf m ([] ++ (order.list s.toplevels).map
        (ToplevelData.entered output client wlOutput))) v' := by
    refine shows_changeAll _ (fun d _ hopen => ?_) (fun d _ o hopen => ?_)
      (hv.perm ((order.perm _).symm.filterMap _)) hsingle
    · have hnone : instanceOf m d.wlrManagementInstances = none := Option.map_eq_none_iff.mp hopen
      rw [hnone, ToplevelData.openFor, instanceOf_entered, hnone]
      exact ⟨ite_self _, rfl⟩
    · obtain ⟨e, he, rfl⟩ := Option.map_eq_some_iff.mp hopen
      have hsame := same_entered output client wlOutput d
      rw [ToplevelData.openFor, instanceOf_entered, he, hsame.title, hsame.appId, hsame.states]
      by_cases hcond : d.output = some output ∧ e.1.manager.client = client
      · refine ⟨⟨d.title, d.appId, d.states, e.2 ++ [wlOutput]⟩, ?_, ?_, fun P hP => ?_⟩
        · simp [hcond]
        · intro message hm
          simp only [hcond.1, if_true, Option.toList_some, List.flatMap_cons, List.flatMap_nil,
            List.append_nil, enterMessages, hcond.2, List.mem_cons, List.not_mem_nil,
            or_false] at hm
          rcases hm with rfl | rfl <;> rfl
        · simp only [hcond.1, if_true, Option.toList_some, List.flatMap_cons, List.flatMap_nil,
            List.append_nil, enterMessages, hcond.2]
          exact ⟨hP _ rfl rfl, _, rfl, hP _ rfl rfl, _, rfl, hP _ rfl rfl, rfl⟩
      · have hnil : (if d.output = some output then
            (some e).toList.flatMap (enterMessages client wlOutput) else []) = [] := by
          by_cases hout : d.output = some output
          · have hc : e.1.manager.client ≠ client := fun hc => hcond ⟨hout, hc⟩
            simp [hout, enterMessages, hc]
          · exact if_neg hout
        refine ⟨⟨d.title, d.appId, d.states, e.2⟩, ?_, ?_, fun P hP => ?_⟩
        · simp [hcond]
        · rw [hnil]
          exact fun message hm => absurd hm List.not_mem_nil
        · rw [hnil]
          exact along_nil (hP _ rfl rfl)
  obtain ⟨v', hrun, hv'⟩ := hchange
  rw [List.nil_append] at hv'
  exact ⟨v', hrun, hv'.perm (((order.perm _).map _).filterMap _)⟩

end OutputBound

end Cidre.Protocols.ForeignToplevel
