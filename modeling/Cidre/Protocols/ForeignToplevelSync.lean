/-
  Cidre.Protocols.ForeignToplevelSync

  What the parts of a refresh do to the clients of the wlr protocol.

  A manager has at most one handle for a window, so the records give the handles
  of each client (`toplevelsOf`).  A client that has stopped keeps its handles and
  gets no new ones, and one that has destroyed a handle gets no messages on it;
  `known` are the managers bound so far, stopped or not.
-/

import Cidre.Protocols.ForeignToplevelClient

namespace Cidre.Protocols.ForeignToplevel

open Cidre.Run

/-! ## The messages of one manager -/

def toManager (m : Manager) (messages : List Message) : List Message :=
  messages.filter fun message => message.manager = m

@[simp] theorem toManager_nil (m : Manager) : toManager m [] = [] := rfl

@[simp] theorem toManager_append (m : Manager) (l l' : List Message) :
    toManager m (l ++ l') = toManager m l ++ toManager m l' := List.filter_append l l'

theorem toManager_eq_nil {m : Manager} {l : List Message} (h : ∀ message ∈ l, message.manager ≠ m) :
    toManager m l = [] := by
  rw [toManager, List.filter_eq_nil_iff]
  intro message hm
  simpa using h message hm

theorem toManager_eq_self {m : Manager} {l : List Message}
    (h : ∀ message ∈ l, message.manager = m) : toManager m l = l := by
  rw [toManager, List.filter_eq_self]
  intro message hm
  simpa using h message hm

theorem manager_of_isOn {message : Message} {h : Handle} (hon : message.IsOn h) :
    message.manager = h.manager := by
  cases message <;> first | exact hon.elim | (cases hon; rfl)

/-- The handle of this manager, and the outputs it has entered. -/
def instanceOf (m : Manager) (instances : List (Handle × List WlOutput)) :
    Option (Handle × List WlOutput) :=
  instances.find? fun e => e.1.manager = m

theorem manager_of_instanceOf {m : Manager} {instances : List (Handle × List WlOutput)}
    {e : Handle × List WlOutput} (he : instanceOf m instances = some e) :
    e ∈ instances ∧ e.1.manager = m :=
  ⟨List.mem_of_find?_eq_some he, by simpa using List.find?_some he⟩

/-- Of a loop over the instances, in any order, a client sees its own. -/
theorem toManager_flatMap {instances : List (Handle × List WlOutput)}
    (hnodup : (instances.map fun e => e.1.manager).Nodup) (order : HashOrder) (m : Manager)
    {f : Handle × List WlOutput → List Message}
    (hf : ∀ e, ∀ message ∈ f e, message.manager = e.1.manager) :
    toManager m ((order.list instances).flatMap f) = (instanceOf m instances).toList.flatMap f := by
  have hperm := (order.perm instances).filter fun e => decide (e.1.manager = m)
  have hone := filter_key_eq hnodup m
  have heq : (order.list instances).filter (fun e => decide (e.1.manager = m)) =
      (instanceOf m instances).toList := by
    rw [hone] at hperm
    unfold instanceOf
    cases hfind : instances.find? fun e => decide (e.1.manager = m) with
    | none =>
      rw [hfind] at hperm
      exact List.perm_nil.mp hperm
    | some e =>
      rw [hfind] at hperm
      exact List.perm_singleton.mp hperm
  rw [← heq]
  exact filter_flatMap_key hf _ m

/-! ## The handles of one manager -/

def ToplevelData.openFor (m : Manager) (data : ToplevelData) : Option OpenToplevel :=
  (instanceOf m data.wlrManagementInstances).map fun e =>
    ⟨e.1, ⟨data.title, data.appId, data.states, e.2⟩⟩

def toplevelsOf (m : Manager) (toplevels : List ToplevelData) : List OpenToplevel :=
  toplevels.filterMap (ToplevelData.openFor m)

/-- A record: one handle for a manager at most, on the outputs of its client. -/
structure ToplevelData.Valid (known : List Manager) (bindings : List Binding) (serial : Nat)
    (data : ToplevelData) : Prop where
  instances_nodup : (data.wlrManagementInstances.map fun e => e.1.manager).Nodup
  outputs_eq : ∀ e ∈ data.wlrManagementInstances,
    e.2 = windowOutputs bindings data.output e.1.manager.client
  wlr_lt : ∀ e ∈ data.wlrManagementInstances, e.1.serial < serial ∧ e.1.manager.serial < serial
  ext_other : ∀ h ∈ data.extListInstances, h.manager ∉ known ∧ h.manager.serial < serial

structure ForeignToplevelManagerState.Valid (known : List Manager) (bindings : List Binding)
    (s : ForeignToplevelManagerState) : Prop where
  surfaces_nodup : (s.toplevels.map ToplevelData.surface).Nodup
  toplevels : ∀ d ∈ s.toplevels, d.Valid known bindings s.serial
  managers_nodup : s.wlrManagementInstances.Nodup
  managers_lt : ∀ m ∈ s.wlrManagementInstances, m.serial < s.serial
  ext_other : ∀ m ∈ s.extListInstances, m ∉ known ∧ m.serial < s.serial

/-- The client of this manager has the handles of the records. -/
def Synced (s : ForeignToplevelManagerState) (m : Manager) (v : View) : Prop :=
  Shows (toplevelsOf m s.toplevels) v

variable {known : List Manager} {bindings : List Binding}
  {s s' s'' : ForeignToplevelManagerState} {messages messages' : List Message} {m : Manager}

/-- The messages take every client from the records of `s` to those of `s'`, with
    at most one activated handle all the way. -/
structure Follows (known : List Manager) (bindings : List Binding)
    (s s' : ForeignToplevelManagerState) (messages : List Message) : Prop where
  valid : s'.Valid known bindings
  ext_eq : s'.extListInstances = s.extListInstances
  wlr_eq : s'.wlrManagementInstances = s.wlrManagementInstances
  serial_le : s.serial ≤ s'.serial
  addressed : ∀ message ∈ messages, message.manager.serial < s'.serial
  view : ∀ m ∈ known, ∀ v, Synced s m v → v.Single →
    ∃ v', Along View.apply View.Single v (toManager m messages) v' ∧ Synced s' m v'

theorem Follows.refl (hs : s.Valid known bindings) : Follows known bindings s s [] :=
  ⟨hs, rfl, rfl, Nat.le_refl _, fun _ h => absurd h List.not_mem_nil,
    fun _ _ v hv hsingle => ⟨v, along_nil hsingle, hv⟩⟩

theorem Follows.trans (h : Follows known bindings s s' messages)
    (h' : Follows known bindings s' s'' messages') :
    Follows known bindings s s'' (messages ++ messages') := by
  refine ⟨h'.valid, h'.ext_eq.trans h.ext_eq, h'.wlr_eq.trans h.wlr_eq,
    h.serial_le.trans h'.serial_le, fun message hm => ?_, fun m hm v hv hsingle => ?_⟩
  · rcases List.mem_append.mp hm with hm | hm
    · exact (h.addressed message hm).trans_le h'.serial_le
    · exact h'.addressed message hm
  · obtain ⟨v₁, hrun₁, hv₁⟩ := h.view m hm v hv hsingle
    obtain ⟨v₂, hrun₂, hv₂⟩ := h'.view m hm v₁ hv₁ hrun₁.holds
    exact ⟨v₂, by rw [toManager_append]; exact hrun₁.append hrun₂, hv₂⟩

theorem ForeignToplevelManagerState.Valid.withToplevels (hs : s.Valid known bindings)
    {l : List ToplevelData} (hsurfaces : (l.map ToplevelData.surface).Nodup)
    (hl : ∀ d ∈ l, d.Valid known bindings s.serial) :
    ({ s with toplevels := l } : ForeignToplevelManagerState).Valid known bindings :=
  ⟨hsurfaces, hl, hs.managers_nodup, hs.managers_lt, hs.ext_other⟩

theorem follows_perm (hs : s.Valid known bindings) {toplevels : List ToplevelData}
    (hperm : s.toplevels.Perm toplevels) :
    Follows known bindings s { s with toplevels } [] := by
  refine ⟨hs.withToplevels ((hperm.map _).nodup hs.surfaces_nodup) fun d hd =>
    hs.toplevels d (hperm.mem_iff.mpr hd), rfl, rfl, Nat.le_refl _,
    fun _ h => absurd h List.not_mem_nil, fun m _ v hv hsingle => ⟨v, along_nil hsingle, ?_⟩⟩
  exact Shows.perm hv (hperm.filterMap _)

theorem toplevelsOf_cons {d : ToplevelData} {o : OpenToplevel} (hd : d.openFor m = some o)
    (l : List ToplevelData) : toplevelsOf m (d :: l) = o :: toplevelsOf m l :=
  List.filterMap_cons_some hd

theorem toplevelsOf_cons_none {d : ToplevelData} (hd : d.openFor m = none)
    (l : List ToplevelData) : toplevelsOf m (d :: l) = toplevelsOf m l :=
  List.filterMap_cons_none hd

/-- The instances of the other protocol are sent nothing that matters. -/
theorem toManager_ext {d : ToplevelData} {serial : Nat} (hd : d.Valid known bindings serial)
    (hm : m ∈ known) {instances : List Handle} (hsub : ∀ h ∈ instances, h ∈ d.extListInstances)
    {f : Handle → List Message} (hf : ∀ h, ∀ message ∈ f h, message.manager = h.manager) :
    toManager m (instances.flatMap f) = [] := by
  refine toManager_eq_nil fun message hmessage heq => ?_
  obtain ⟨h, hh, hmessage⟩ := List.mem_flatMap.mp hmessage
  exact (hd.ext_other h (hsub h hh)).1 (hf h message hmessage ▸ heq ▸ hm)

/-! ## Windows that are closed -/

theorem follows_close (hs : s.Valid known bindings) (order : HashOrder) {d : ToplevelData}
    {rest : List ToplevelData} (heq : s.toplevels = d :: rest) :
    Follows known bindings s { s with toplevels := rest }
      ((order.list d.extListInstances).map Message.closed ++
        (order.list d.wlrManagementInstances).map fun e => .closed e.1) := by
  have hd := hs.toplevels d (heq ▸ List.mem_cons_self)
  have hsurfaces := hs.surfaces_nodup
  rw [heq, List.map_cons, List.nodup_cons] at hsurfaces
  refine ⟨hs.withToplevels hsurfaces.2 fun d' hd' =>
    hs.toplevels d' (heq ▸ List.mem_cons_of_mem _ hd'), rfl, rfl, Nat.le_refl _, ?_, ?_⟩
  · intro message hm
    rcases List.mem_append.mp hm with hm | hm
    · obtain ⟨h, hh, rfl⟩ := List.mem_map.mp hm
      exact (hd.ext_other h (order.mem_list.mp hh)).2
    · obtain ⟨e, he, rfl⟩ := List.mem_map.mp hm
      exact (hd.wlr_lt e (order.mem_list.mp he)).2
  · intro m hm v hv hsingle
    have hext : toManager m ((order.list d.extListInstances).map Message.closed) = [] := by
      rw [← List.flatMap_pure_eq_map]
      refine toManager_ext hd hm (fun h hh => order.mem_list.mp hh) fun h message hmessage => ?_
      obtain rfl := List.mem_singleton.mp hmessage
      rfl
    have hwlr : toManager m ((order.list d.wlrManagementInstances).map fun e => .closed e.1) =
        (instanceOf m d.wlrManagementInstances).toList.flatMap fun e => [.closed e.1] := by
      rw [← List.flatMap_pure_eq_map]
      refine toManager_flatMap hd.instances_nodup order m fun e message hmessage => ?_
      obtain rfl := List.mem_singleton.mp hmessage
      rfl
    rw [toManager_append, hext, hwlr, List.nil_append]
    unfold Synced at hv ⊢
    rw [heq] at hv
    cases hopen : instanceOf m d.wlrManagementInstances with
    | none =>
      have hnone : d.openFor m = none := by rw [ToplevelData.openFor, hopen]; rfl
      rw [toplevelsOf_cons_none hnone] at hv
      exact ⟨v, along_nil hsingle, hv⟩
    | some e =>
      have hsome : d.openFor m = some ⟨e.1, ⟨d.title, d.appId, d.states, e.2⟩⟩ := by
        rw [ToplevelData.openFor, hopen]
        rfl
      rw [toplevelsOf_cons hsome] at hv
      exact hv.closed hsingle

theorem follows_closeAll (order : HashOrder) (dropped : List ToplevelData)
    {kept : List ToplevelData} (hs : s.Valid known bindings) (heq : s.toplevels = dropped ++ kept) :
    Follows known bindings s { s with toplevels := kept }
      (dropped.flatMap fun data => (order.list data.extListInstances).map Message.closed ++
        (order.list data.wlrManagementInstances).map fun e => .closed e.1) := by
  induction dropped generalizing s with
  | nil =>
    obtain rfl : s.toplevels = kept := heq
    exact Follows.refl hs
  | cons d dropped ih =>
    have hfirst : Follows known bindings s _ _ := follows_close hs order heq
    exact hfirst.trans (ih hfirst.valid rfl)

theorem follows_dropClosed (hs : s.Valid known bindings) (order : HashOrder) (layout : Layout) :
    Follows known bindings s (s.dropClosed order layout).1 (s.dropClosed order layout).2 := by
  have hperm := order.perm_filter
    (fun data => (layout.findWindowAndOutput data.surface).isSome = true) s.toplevels
  have hfirst : Follows known bindings s _ _ := follows_perm hs hperm
  have hrest := hfirst.trans (follows_closeAll order _ hfirst.valid rfl)
  unfold ForeignToplevelManagerState.dropClosed
  simpa using hrest

/-! ## Windows that change -/

/-- The record of a window that was there. -/
def ToplevelData.updated (bindings : List Binding) (data : ToplevelData) (mapped : Mapped)
    (output : Option Output) (hasFocus : Bool) : ToplevelData :=
  { data with
    title := mapped.title
    appId := mapped.appId
    states := toStateVec mapped hasFocus
    output := output
    wlrManagementInstances := data.wlrManagementInstances.map fun e =>
      (e.1, windowOutputs bindings output e.1.manager.client) }

/-- A title or app id is not taken back. -/
def ToplevelData.Steady (data : ToplevelData) (mapped : Mapped) : Prop :=
  (mapped.title = none → data.title = none) ∧ (mapped.appId = none → data.appId = none)

theorem isAlive_of_mem {output : Option Output} {client : Client} {o : WlOutput}
    (ho : o ∈ windowOutputs bindings output client) :
    (bindings.any fun b => b.wlOutput = o) = true := by
  cases output with
  | none => exact absurd ho List.not_mem_nil
  | some output =>
    obtain ⟨b, hb, rfl⟩ := List.mem_map.mp ho
    exact List.any_eq_true.mpr ⟨b, List.mem_of_mem_filter hb, by simp⟩

theorem activated_not_mem_toStateVec (mapped : Mapped) :
    ToplevelState.activated ∉ toStateVec mapped false := by
  unfold toStateVec
  cases mapped.maximized <;> cases mapped.fullscreen <;> simp

/-- What has changed is told, and nothing else. -/
theorem or_newValue {old new : Option String} (h : new = none → old = none) :
    (if old ≠ new then new else none).or old = new := by
  by_cases heq : old = new
  · simp [heq]
  · rw [if_pos heq]
    cases new with
    | none => exact absurd (h rfl) heq
    | some new => rfl

theorem eq_of_newValue_isNone {old new : Option String} (h : new = none → old = none)
    (hnone : (if old ≠ new then new else none).isSome = false) : old = new := by
  by_contra heq
  rw [if_pos heq] at hnone
  have hnew : new = none := by simpa using hnone
  exact heq ((h hnew).trans hnew.symm)

namespace ForeignToplevelManagerState

/-- The events of an ext instance of a window that has changed. -/
def extChanges (newTitle newAppId : Option String) (h : Handle) : List Message :=
  (newTitle.map (Message.title h)).toList ++ (newAppId.map (Message.appId h)).toList ++ [.done h]

/-- The events of a window that was there are those of a change, if there is one. -/
theorem refreshToplevel_of_some (order : HashOrder) {mapped : Mapped} {output : Option Output}
    {hasFocus : Bool} {d : ToplevelData} (hd : d.Valid known bindings s.serial)
    (hfind : s.toplevels.find? (fun data => data.surface = mapped.surface) = some d)
    (hsteady : d.Steady mapped) :
    ∃ (newTitle newAppId : Option String)
      (statesChanged outputChanged changedExt changedWlr : Bool),
      newTitle.or d.title = mapped.title ∧ newAppId.or d.appId = mapped.appId ∧
      (statesChanged = false → d.states = toStateVec mapped hasFocus) ∧
      (outputChanged = false → d.output = output) ∧
      (changedWlr = false → d.title = mapped.title ∧ d.appId = mapped.appId ∧
        d.states = toStateVec mapped hasFocus ∧ d.output = output) ∧
      s.refreshToplevel order bindings mapped output hasFocus =
        (s.setToplevel (d.updated bindings mapped output hasFocus),
          (if changedExt then (order.list d.extListInstances).flatMap (extChanges newTitle newAppId)
            else []) ++
          if changedWlr then (order.list d.wlrManagementInstances).flatMap
            (wlrChanges bindings (d.updated bindings mapped output hasFocus) newTitle newAppId
              statesChanged outputChanged) else []) := by
  have hinstances : d.wlrManagementInstances.map (fun e =>
      (e.1, (if d.output != output then windowOutputs bindings output e.1.manager.client
        else e.2).filter fun o => bindings.any fun b => b.wlOutput = o)) =
      d.wlrManagementInstances.map fun e =>
        (e.1, windowOutputs bindings output e.1.manager.client) := by
    refine List.map_congr_left fun e he => ?_
    have houts : (if d.output != output then windowOutputs bindings output e.1.manager.client
        else e.2) = windowOutputs bindings output e.1.manager.client := by
      by_cases hout : d.output = output
      · rw [hd.outputs_eq e he, hout, ite_self]
      · exact if_pos (by simpa using hout)
    rw [houts, List.filter_eq_self.mpr fun o ho => isAlive_of_mem ho]
  let newTitle := if d.title ≠ mapped.title then mapped.title else none
  let newAppId := if d.appId ≠ mapped.appId then mapped.appId else none
  refine ⟨newTitle, newAppId, d.states != toStateVec mapped hasFocus, d.output != output,
    newTitle.isSome || newAppId.isSome,
    newTitle.isSome || newAppId.isSome || d.states != toStateVec mapped hasFocus ||
      d.output != output, or_newValue hsteady.1, or_newValue hsteady.2, by simp, by simp, ?_, ?_⟩
  · intro hnone
    simp only [Bool.or_eq_false_iff] at hnone
    obtain ⟨⟨⟨htitle, happId⟩, hstates⟩, houtput⟩ := hnone
    exact ⟨eq_of_newValue_isNone hsteady.1 htitle, eq_of_newValue_isNone hsteady.2 happId,
      by simpa using hstates, by simpa using houtput⟩
  · unfold refreshToplevel
    rw [hfind]
    dsimp only
    rw [hinstances]
    rfl

theorem manager_of_mem_extChanges {newTitle newAppId : Option String} {h : Handle}
    {message : Message} (hm : message ∈ extChanges newTitle newAppId h) :
    message.manager = h.manager := by
  simp only [extChanges, List.mem_append, Option.mem_toList, Option.map_eq_some_iff,
    List.mem_singleton] at hm
  obtain (⟨_, -, rfl⟩ | ⟨_, -, rfl⟩) | rfl := hm <;> rfl

end ForeignToplevelManagerState

theorem instanceOf_updated {d : ToplevelData} {mapped : Mapped} {output : Option Output}
    {hasFocus : Bool} : instanceOf m (d.updated bindings mapped output hasFocus).wlrManagementInstances =
      (instanceOf m d.wlrManagementInstances).map fun e =>
        (e.1, windowOutputs bindings output e.1.manager.client) := by
  unfold instanceOf ToplevelData.updated
  dsimp only
  rw [List.find?_map]
  rfl

theorem ToplevelData.Valid.updated {d : ToplevelData} {serial : Nat}
    (hd : d.Valid known bindings serial) (mapped : Mapped) (output : Option Output)
    (hasFocus : Bool) : (d.updated bindings mapped output hasFocus).Valid known bindings serial := by
  refine ⟨?_, ?_, ?_, hd.ext_other⟩
  · unfold ToplevelData.updated
    dsimp only
    rw [List.map_map]
    exact hd.instances_nodup
  · intro e he
    obtain ⟨e₀, -, rfl⟩ := List.mem_map.mp he
    rfl
  · intro e he
    obtain ⟨e₀, he₀, rfl⟩ := List.mem_map.mp he
    exact hd.wlr_lt e₀ he₀

/-- While a handle changes, it may be activated. -/
theorem allows_of_change {v : View} {o : OpenToplevel} {ts : List OpenToplevel}
    (hv : Shows (o :: ts) v) (hsingle : v.Single) {mapped : Mapped} {hasFocus : Bool}
    (hfocus : hasFocus = true → ∀ o' ∈ ts, ToplevelState.activated ∉ o'.view.states)
    {t : Toplevel}
    (hpending : t.pending.states = o.view.states ∨ t.pending.states = toStateVec mapped hasFocus)
    (hshown : t.shown.states = o.view.states ∨ t.shown.states = toStateVec mapped hasFocus) :
    v.Allows o.handle t := by
  cases hasFocus with
  | true => exact hv.quiet (hfocus rfl) t
  | false =>
    -- only the old state can be the activated one
    refine hv.allows_self hsingle fun hactivated => ?_
    rcases hactivated with hact | hact
    · rcases hpending with heq | heq
      · exact Or.inl (heq ▸ hact)
      · exact absurd (heq ▸ hact) (activated_not_mem_toStateVec mapped)
    · rcases hshown with heq | heq
      · exact Or.inl (heq ▸ hact)
      · exact absurd (heq ▸ hact) (activated_not_mem_toStateVec mapped)

/-- A window that was there is refreshed. -/
theorem follows_refreshToplevel_of_some (hs : s.Valid known bindings) (order : HashOrder)
    {mapped : Mapped} {output : Option Output} {hasFocus : Bool} {d : ToplevelData}
    (hfind : s.toplevels.find? (fun data => data.surface = mapped.surface) = some d)
    (hsteady : d.Steady mapped)
    (hfocus : hasFocus = true → ∀ d ∈ s.toplevels, d.surface ≠ mapped.surface →
      ToplevelState.activated ∉ d.states) :
    Follows known bindings s (s.refreshToplevel order bindings mapped output hasFocus).1
      (s.refreshToplevel order bindings mapped output hasFocus).2 := by
  have hmem := List.mem_of_find?_eq_some hfind
  have hsurface : d.surface = mapped.surface := by simpa using List.find?_some hfind
  have hd := hs.toplevels d hmem
  have hd' := hd.updated mapped output hasFocus
  obtain ⟨newTitle, newAppId, statesChanged, outputChanged, changedExt, changedWlr, htitle, happId,
    hstates, houtput, hunchanged, heq⟩ :=
    ForeignToplevelManagerState.refreshToplevel_of_some order hd hfind hsteady
  rw [heq]
  have hperm := perm_cons_filter_key hs.surfaces_nodup hmem
  have hfirst : Follows known bindings s _ _ := follows_perm hs hperm
  refine hfirst.trans ⟨hs.withToplevels ?_ ?_, rfl, rfl, Nat.le_refl _, fun message hm => ?_,
    fun m hm v hv hsingle => ?_⟩
  · have hsurfaces := hfirst.valid.surfaces_nodup
    rw [List.map_cons] at hsurfaces ⊢
    exact hsurfaces
  · intro d₁ hd₁
    rcases List.mem_cons.mp hd₁ with rfl | hd₁
    · exact hd'
    · exact hs.toplevels d₁ (List.mem_of_mem_filter hd₁)
  · rcases List.mem_append.mp hm with hm | hm
    · split at hm
      · obtain ⟨h, hh, hm⟩ := List.mem_flatMap.mp hm
        rw [ForeignToplevelManagerState.manager_of_mem_extChanges hm]
        exact (hd.ext_other h (order.mem_list.mp hh)).2
      · exact absurd hm List.not_mem_nil
    · split at hm
      · obtain ⟨e, he, hm⟩ := List.mem_flatMap.mp hm
        rw [manager_of_isOn (isOn_wlrChanges message hm)]
        exact (hd.wlr_lt e (order.mem_list.mp he)).2
      · exact absurd hm List.not_mem_nil
  · have hext : toManager m (if changedExt then (order.list d.extListInstances).flatMap
        (ForeignToplevelManagerState.extChanges newTitle newAppId) else []) = [] := by
      cases changedExt with
      | false => rfl
      | true =>
        exact toManager_ext hd hm (fun h hh => order.mem_list.mp hh)
          fun h message hm => ForeignToplevelManagerState.manager_of_mem_extChanges hm
    show ∃ v', Along View.apply View.Single v (toManager m (_ ++ _)) v' ∧ _
    rw [toManager_append, hext, List.nil_append]
    unfold Synced at hv ⊢
    show ∃ v', _ ∧ Shows (toplevelsOf m (d.updated bindings mapped output hasFocus :: _)) v'
    cases hopen : instanceOf m d.wlrManagementInstances with
    | none =>
      have hnone : d.openFor m = none := by rw [ToplevelData.openFor, hopen]; rfl
      have hnone' : (d.updated bindings mapped output hasFocus).openFor m = none := by
        rw [ToplevelData.openFor, instanceOf_updated, hopen]
        rfl
      rw [toplevelsOf_cons_none hnone] at hv
      rw [toplevelsOf_cons_none hnone']
      refine ⟨v, ?_, hv⟩
      cases changedWlr with
      | false => exact along_nil hsingle
      | true =>
        rw [if_pos rfl, toManager_flatMap hd.instances_nodup order m fun e message hm =>
          manager_of_isOn (isOn_wlrChanges message hm), hopen]
        exact along_nil hsingle
    | some e =>
      obtain ⟨he, -⟩ := manager_of_instanceOf hopen
      have hsome : d.openFor m = some ⟨e.1, ⟨d.title, d.appId, d.states, e.2⟩⟩ := by
        rw [ToplevelData.openFor, hopen]
        rfl
      have hsome' : (d.updated bindings mapped output hasFocus).openFor m =
          some ⟨e.1, ⟨mapped.title, mapped.appId, toStateVec mapped hasFocus,
            windowOutputs bindings output e.1.manager.client⟩⟩ := by
        rw [ToplevelData.openFor, instanceOf_updated, hopen]
        rfl
      rw [toplevelsOf_cons hsome] at hv
      rw [toplevelsOf_cons hsome']
      have houts : d.output = output → e.2 = windowOutputs bindings output e.1.manager.client :=
        fun hout => hout ▸ hd.outputs_eq e he
      cases changedWlr with
      | false =>
        obtain ⟨h₁, h₂, h₃, h₄⟩ := hunchanged rfl
        rw [h₁, h₂, h₃, houts h₄] at hv
        exact ⟨v, along_nil hsingle, hv⟩
      | true =>
        have hquiet : hasFocus = true → ∀ o' ∈ toplevelsOf m (s.toplevels.filter fun d' =>
            d'.surface ≠ d.surface), ToplevelState.activated ∉ o'.view.states := by
          intro hf o' ho'
          obtain ⟨d₁, hd₁, hopen₁⟩ := List.mem_filterMap.mp ho'
          obtain ⟨e₁, -, rfl⟩ := Option.map_eq_some_iff.mp hopen₁
          obtain ⟨hd₁, hne⟩ := List.mem_filter.mp hd₁
          have hne : d₁.surface ≠ d.surface := by simpa using hne
          exact hfocus hf d₁ hd₁ (hsurface ▸ hne)
        have hrun : Along Toplevel.apply (v.Allows e.1)
            (.settled ⟨d.title, d.appId, d.states, e.2⟩)
            (ForeignToplevelManagerState.wlrChanges bindings
              (d.updated bindings mapped output hasFocus) newTitle newAppId statesChanged
              outputChanged e) _ :=
          along_wlrChanges rfl
            (fun t hpending hshown => allows_of_change hv hsingle hquiet hpending hshown)
            htitle happId hstates
        have hfinal : (if outputChanged then windowOutputs bindings
            (d.updated bindings mapped output hasFocus).output e.1.manager.client else e.2) =
            windowOutputs bindings output e.1.manager.client := by
          cases outputChanged with
          | false => exact houts (houtput rfl)
          | true => rfl
        rw [hfinal] at hrun
        rw [if_pos rfl, toManager_flatMap hd.instances_nodup order m fun e message hm =>
          manager_of_isOn (isOn_wlrChanges message hm), hopen, Option.toList_some,
          List.flatMap_cons, List.flatMap_nil, List.append_nil]
        exact hv.change hsingle isOn_wlrChanges hrun

/-! ## Windows that are new -/

theorem manager_of_mem_addExtInstance {d : ToplevelData} {h : Handle} {message : Message}
    (hm : message ∈ d.addExtInstance h) : message.manager = h.manager := by
  simp only [ToplevelData.addExtInstance, List.mem_append, Option.mem_toList,
    Option.map_eq_some_iff, List.mem_cons, List.not_mem_nil, or_false] at hm
  obtain (((rfl | rfl) | ⟨_, -, rfl⟩) | ⟨_, -, rfl⟩) | rfl := hm <;> rfl

theorem manager_of_mem_addWlrInstance {d : ToplevelData} {h : Handle} {message : Message}
    (hm : message ∈ d.addWlrInstance bindings h) : message.manager = h.manager := by
  rw [addWlrInstance_eq] at hm
  rcases List.mem_cons.mp hm with rfl | hm
  · rfl
  · exact manager_of_isOn (isOn_wlrChanges message hm)

/-- A client is told of a window. -/
theorem Shows.describe {ts : List OpenToplevel} {v : View} (hv : Shows ts v) (hsingle : v.Single)
    {h : Handle} (hfresh : ∀ o ∈ ts, o.handle ≠ h) (d : ToplevelData)
    (hquiet : ToplevelState.activated ∈ d.states →
      ∀ o ∈ ts, ToplevelState.activated ∉ o.view.states) :
    ∃ v', Along View.apply View.Single v (d.addWlrInstance bindings h) v' ∧
      Shows (⟨h, ⟨d.title, d.appId, d.states,
        windowOutputs bindings d.output h.manager.client⟩⟩ :: ts) v' := by
  rw [addWlrInstance_eq]
  refine hv.create hsingle hfresh isOn_wlrChanges ?_
  have hallows : ∀ t : Toplevel, (t.pending.states = [] ∨ t.pending.states = d.states) →
      (t.shown.states = [] ∨ t.shown.states = d.states) → v.Allows h t := by
    intro t hpending hshown hactivated h' t' hne ht'
    have hd : ToplevelState.activated ∈ d.states := by
      rcases hactivated with hact | hact
      · rcases hpending with heq | heq
        · exact absurd (heq ▸ hact) List.not_mem_nil
        · exact heq ▸ hact
      · rcases hshown with heq | heq
        · exact absurd (heq ▸ hact) List.not_mem_nil
        · exact heq ▸ hact
    obtain ⟨o', ho', rfl, rfl⟩ := (hv.iff h' t').mp ht'
    rintro (hact | hact) <;> exact hquiet hd o' ho' hact
  have hrun : Along Toplevel.apply (v.Allows h) (.settled ⟨none, none, [], []⟩)
      (ForeignToplevelManagerState.wlrChanges bindings d d.title d.appId true true (h, [])) _ :=
    along_wlrChanges rfl hallows Option.or_none Option.or_none nofun
  exact hrun

theorem ToplevelData.Valid.mono {d : ToplevelData} {serial serial' : Nat}
    (hd : d.Valid known bindings serial) (hle : serial ≤ serial') :
    d.Valid known bindings serial' :=
  ⟨hd.instances_nodup, hd.outputs_eq,
    fun e he => ⟨(hd.wlr_lt e he).1.trans_le hle, (hd.wlr_lt e he).2.trans_le hle⟩,
    fun h hh => ⟨(hd.ext_other h hh).1, (hd.ext_other h hh).2.trans_le hle⟩⟩

theorem instanceOf_wlrInstance (d : ToplevelData) (handles : List Handle) :
    instanceOf m (handles.map (d.wlrInstance bindings)) =
      (handleOf m handles).map (d.wlrInstance bindings) := by
  unfold instanceOf handleOf
  rw [List.find?_map]
  rfl

/-- What a record with these instances is to a client. -/
theorem mem_toplevelsOf {o : OpenToplevel} {l : List ToplevelData} (ho : o ∈ toplevelsOf m l) :
    ∃ d ∈ l, ∃ e ∈ d.wlrManagementInstances, e.1.manager = m ∧ o.handle = e.1 ∧
      o.view = ⟨d.title, d.appId, d.states, e.2⟩ := by
  obtain ⟨d, hd, hopen⟩ := List.mem_filterMap.mp ho
  obtain ⟨e, he, rfl⟩ := Option.map_eq_some_iff.mp hopen
  obtain ⟨hmem, hmanager⟩ := manager_of_instanceOf he
  exact ⟨d, hd, e, hmem, hmanager, rfl, rfl⟩

theorem serial_lt_of_mem_toplevelsOf (hs : s.Valid known bindings) {o : OpenToplevel}
    (ho : o ∈ toplevelsOf m s.toplevels) : o.handle.serial < s.serial := by
  obtain ⟨d, hd, e, he, -, heq, -⟩ := mem_toplevelsOf ho
  rw [heq]
  exact ((hs.toplevels d hd).wlr_lt e he).1

/-- A window that was not there is refreshed. -/
theorem follows_refreshToplevel_of_none (hs : s.Valid known bindings) (order : HashOrder)
    {mapped : Mapped} {output : Option Output} {hasFocus : Bool}
    (hfind : s.toplevels.find? (fun data => data.surface = mapped.surface) = none)
    (hfocus : hasFocus = true → ∀ d ∈ s.toplevels, d.surface ≠ mapped.surface →
      ToplevelState.activated ∉ d.states) :
    Follows known bindings s (s.refreshToplevel order bindings mapped output hasFocus).1
      (s.refreshToplevel order bindings mapped output hasFocus).2 := by
  have hother : ∀ d ∈ s.toplevels, d.surface ≠ mapped.surface := by
    intro d hd
    simpa using List.find?_eq_none.mp hfind d hd
  unfold ForeignToplevelManagerState.refreshToplevel
  rw [hfind]
  dsimp only
  generalize hdata : (⟨mapped.surface, mapped.id, mapped.title, mapped.appId,
    toStateVec mapped hasFocus, output, [], []⟩ : ToplevelData) = data
  generalize hexts : newHandles s.serial (order.list s.extListInstances) = exts
  generalize hwlrs : newHandles (s.serial + exts.length)
    (order.list s.wlrManagementInstances) = wlrs
  have hextmem : ∀ h ∈ exts, h.manager ∉ known ∧ h.manager.serial < s.serial := by
    intro h hh
    have hmem := List.mem_map_of_mem (f := Handle.manager) hh
    rw [← hexts, map_manager_newHandles] at hmem
    exact hs.ext_other _ (order.mem_list.mp hmem)
  have hwlrmem : ∀ h ∈ wlrs, h.manager.serial < s.serial := by
    intro h hh
    have hmem := List.mem_map_of_mem (f := Handle.manager) hh
    rw [← hwlrs, map_manager_newHandles] at hmem
    exact hs.managers_lt _ (order.mem_list.mp hmem)
  have hwlrlen : wlrs.length = (order.list s.wlrManagementInstances).length := by
    rw [← hwlrs, newHandles, List.length_mapIdx]
  have hwlrnodup : (wlrs.map Handle.manager).Nodup := by
    rw [← hwlrs, map_manager_newHandles]
    exact (order.perm _).nodup_iff.mpr hs.managers_nodup
  have hserial : s.serial ≤ s.serial + exts.length + wlrs.length := by omega
  have hwlrserial : ∀ h ∈ wlrs, s.serial ≤ h.serial ∧
      h.serial < s.serial + exts.length + wlrs.length := by
    intro h hh
    rw [← hwlrs] at hh
    have hrange := serial_of_mem_newHandles hh
    omega
  refine ⟨⟨?_, ?_, hs.managers_nodup, fun m hm => (hs.managers_lt m hm).trans_le hserial,
    fun m hm => ⟨(hs.ext_other m hm).1, (hs.ext_other m hm).2.trans_le hserial⟩⟩, rfl, rfl,
    hserial, ?_, ?_⟩
  · rw [List.map_cons, List.nodup_cons]
    refine ⟨fun hmem => ?_, hs.surfaces_nodup⟩
    obtain ⟨d, hd, heq⟩ := List.mem_map.mp hmem
    exact hother d hd (heq.trans (by rw [← hdata]))
  · intro d hd
    rcases List.mem_cons.mp hd with rfl | hd
    · refine ⟨?_, ?_, ?_, fun h hh => ⟨(hextmem h hh).1, (hextmem h hh).2.trans_le hserial⟩⟩
      · rw [List.map_map]
        exact hwlrnodup
      · intro e he
        obtain ⟨h, -, rfl⟩ := List.mem_map.mp he
        subst hdata
        rfl
      · intro e he
        obtain ⟨h, hh, rfl⟩ := List.mem_map.mp he
        exact ⟨(hwlrserial h hh).2, (hwlrmem h hh).trans_le hserial⟩
    · exact (hs.toplevels d hd).mono hserial
  · intro message hm
    rcases List.mem_append.mp hm with hm | hm
    · obtain ⟨h, hh, hm⟩ := List.mem_flatMap.mp hm
      rw [manager_of_mem_addExtInstance hm]
      exact (hextmem h hh).2.trans_le hserial
    · obtain ⟨h, hh, hm⟩ := List.mem_flatMap.mp hm
      rw [manager_of_mem_addWlrInstance hm]
      exact (hwlrmem h hh).trans_le hserial
  · intro m hm v hv hsingle
    have hext : toManager m (exts.flatMap data.addExtInstance) = [] := by
      refine toManager_eq_nil fun message hmessage heq => ?_
      obtain ⟨h, hh, hmessage⟩ := List.mem_flatMap.mp hmessage
      exact (hextmem h hh).1 (manager_of_mem_addExtInstance hmessage ▸ heq ▸ hm)
    have hwlr : toManager m (wlrs.flatMap (data.addWlrInstance bindings)) =
        (handleOf m wlrs).toList.flatMap (data.addWlrInstance bindings) := by
      rw [← filter_manager_eq hwlrnodup m]
      exact filter_flatMap_key (fun h message hmessage => manager_of_mem_addWlrInstance hmessage)
        wlrs m
    rw [toManager_append, hext, hwlr, List.nil_append]
    unfold Synced at hv ⊢
    cases hopen : handleOf m wlrs with
    | none =>
      rw [toplevelsOf_cons_none]
      · exact ⟨v, along_nil hsingle, hv⟩
      · rw [ToplevelData.openFor, instanceOf_wlrInstance, hopen]
        rfl
    | some h =>
      have hh : h ∈ wlrs := List.mem_of_find?_eq_some hopen
      rw [toplevelsOf_cons (o := ⟨h, ⟨data.title, data.appId, data.states,
        windowOutputs bindings data.output h.manager.client⟩⟩), Option.toList_some,
        List.flatMap_cons, List.flatMap_nil, List.append_nil]
      · refine hv.describe hsingle (fun o ho heq => ?_) data fun hact o ho => ?_
        · have hlt := serial_lt_of_mem_toplevelsOf hs ho
          have hge := (hwlrserial h hh).1
          rw [heq] at hlt
          omega
        · obtain ⟨d, hd, e, -, -, -, hview⟩ := mem_toplevelsOf ho
          rw [hview]
          cases hasFocus with
          | true => exact hfocus rfl d hd (hother d hd)
          | false =>
            rw [← hdata] at hact
            exact absurd hact (activated_not_mem_toStateVec mapped)
      · rw [ToplevelData.openFor, instanceOf_wlrInstance, hopen]
        subst hdata
        rfl

/-- A window is refreshed.  Only one that gets the focus is activated, and then
    no other one is. -/
theorem follows_refreshToplevel (hs : s.Valid known bindings) (order : HashOrder)
    (mapped : Mapped) (output : Option Output) (hasFocus : Bool)
    (hsteady : ∀ d ∈ s.toplevels, d.surface = mapped.surface → d.Steady mapped)
    (hfocus : hasFocus = true → ∀ d ∈ s.toplevels, d.surface ≠ mapped.surface →
      ToplevelState.activated ∉ d.states) :
    Follows known bindings s (s.refreshToplevel order bindings mapped output hasFocus).1
      (s.refreshToplevel order bindings mapped output hasFocus).2 := by
  cases hfind : s.toplevels.find? fun data => data.surface = mapped.surface with
  | none => exact follows_refreshToplevel_of_none hs order hfind hfocus
  | some d =>
    have hsurface : d.surface = mapped.surface := by simpa using List.find?_some hfind
    exact follows_refreshToplevel_of_some hs order hfind
      (hsteady d (List.mem_of_find?_eq_some hfind) hsurface) hfocus

end Cidre.Protocols.ForeignToplevel
