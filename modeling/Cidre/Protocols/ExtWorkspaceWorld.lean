/-
  Cidre.Protocols.ExtWorkspaceWorld

  The compositor and all clients of the ext-workspace protocol.

  A client takes up what it has been told when it gets `done`.  In every run in
  which no workspace is renamed and moved at once, the client of every live
  manager shows the workspaces, groups and outputs of the last layout that was
  refreshed (`clients_see_workspaces`).
-/

import Cidre.Protocols.ExtWorkspaceRun

namespace Cidre.Protocols

open Cidre.Run

/-! ## Clients -/

structure ManagerClient where
  pending : View
  shown : View

namespace ManagerClient

def new : ManagerClient := ⟨.empty, .empty⟩

def apply (c : ManagerClient) (e : Event) : Option ManagerClient :=
  (c.pending.apply e).map fun v => ⟨v, match e with
    | .done _ => v
    | _ => c.shown⟩

def replay (events : List Event) : Option ManagerClient := run apply new events

theorem run_apply {c : ManagerClient} {v : View} {events : List Event}
    (h : run View.apply c.pending events = some v) :
    ∃ shown, run apply c events = some ⟨v, shown⟩ := by
  induction events generalizing c with
  | nil =>
    obtain rfl := Option.some.inj h
    exact ⟨c.shown, rfl⟩
  | cons e events ih =>
    rw [run_cons] at h
    obtain ⟨v₁, hv₁, h⟩ := Option.bind_eq_some_iff.mp h
    obtain ⟨c₁, happly, hpending⟩ : ∃ c₁, c.apply e = some c₁ ∧ c₁.pending = v₁ :=
      ⟨_, by rw [apply, hv₁]; rfl, rfl⟩
    obtain ⟨shown, hrun⟩ := ih (c := c₁) (hpending.symm ▸ h)
    exact ⟨shown, by rw [run_cons, happly, Option.bind_some, hrun]⟩

theorem run_apply_done {c : ManagerClient} {v : View} {events : List Event} (m : Manager)
    (h : run View.apply c.pending events = some v) :
    run apply c (events ++ [.done m]) = some ⟨v, v⟩ := by
  obtain ⟨shown, hrun⟩ := run_apply h
  rw [run_append_of_eq hrun]
  rfl

end ManagerClient

/-! ## Steps -/

/-- The records, the `wl_output`s that are bound, the layout of the last refresh,
    and all events so far. -/
structure World where
  state : ExtWorkspaceManagerState
  bindings : List Binding
  layout : LayoutState
  sent : List Event

inductive Label where
  | refresh (order : HashOrder) (layout : LayoutState)
  | bind (order : HashOrder) (client : Client)
  | stop (manager : Manager)
  | outputBound (order : HashOrder) (output : Output) (client : Client)

namespace World

def initial : World := ⟨.new, [], .empty, []⟩

def step (w : World) : Label → Option World
  | .refresh order layout =>
      let (state, events) := w.state.refresh order w.bindings layout
      some { w with state, layout, sent := w.sent ++ events }
  | .bind order client =>
      let (state, events) := w.state.bind order w.bindings client
      some { w with state, sent := w.sent ++ events }
  | .stop manager =>
      if manager ∈ w.state.instances then
        let (state, events) := w.state.stop manager
        some { w with state, sent := w.sent ++ events }
      else none
  | .outputBound order output client =>
      let wlOutput : WlOutput := ⟨w.bindings.length⟩
      some { w with
        bindings := w.bindings ++ [⟨output, client, wlOutput⟩]
        sent := w.sent ++ w.state.onOutputBound order output client wlOutput }

/-- No workspace is renamed and moved to a group at once while a client listens,
    and no index wraps around. -/
def Separate (w : World) : Label → Prop
  | .refresh _ layout =>
      (w.state.instances = [] ∨ ¬RenamedAcross w.layout layout) ∧ ¬IndexWrapped w.layout layout
  | _ => True

end World

/-! ## What a client is to see -/

def Located.view (at_ : Located) : WorkspaceView :=
  ⟨at_.workspace.name, some at_.buildName, some at_.coordinates, some at_.state⟩

/-- One live handle for each workspace and one live group for each output, and
    each workspace in the group of its output and in no other. -/
structure Sees (layout : LayoutState) (outputs : Output → List WlOutput) (v : View)
    (group : Output → Handle) (handle : U64 → Handle) : Prop where
  group_inj : ∀ o ∈ layout.sortedOutputs, ∀ o' ∈ layout.sortedOutputs, group o = group o' → o = o'
  handle_inj : ∀ a ∈ layout.workspaces, ∀ b ∈ layout.workspaces,
    handle a.workspace.id = handle b.workspace.id → a.workspace.id = b.workspace.id
  groups_iff : ∀ h os, v.groups h = some os ↔
    ∃ o ∈ layout.sortedOutputs, group o = h ∧ outputs o = os
  workspaces_iff : ∀ h wv, v.workspaces h = some wv ↔
    ∃ at_ ∈ layout.workspaces, handle at_.workspace.id = h ∧ at_.view = wv
  inside_iff : ∀ p, p ∈ v.inside ↔
    ∃ at_ ∈ layout.workspaces, ∃ o, at_.output = some o ∧ (group o, handle at_.workspace.id) = p

/-! ## The invariant -/

structure World.Invariant (w : World) : Prop where
  valid : w.state.Valid
  tracks : Tracks w.layout w.state
  sent_lt : ∀ e ∈ w.sent, e.manager.serial < w.state.serial
  client : ∀ m ∈ w.state.instances, ∃ v,
    ManagerClient.replay (toManager m w.sent) = some ⟨v, v⟩ ∧ Synced w.bindings w.state m v

theorem World.invariant_initial : World.initial.Invariant where
  valid := by
    refine ⟨List.nodup_nil, ?_, ?_, List.nodup_nil, List.nodup_nil, ?_, ?_, ?_⟩ <;>
      exact fun _ h => absurd h List.not_mem_nil
  tracks := by
    refine ⟨fun _ h => absurd h List.not_mem_nil, fun _ h => absurd h List.not_mem_nil, fun o => ?_⟩
    constructor
    · rintro ⟨g, hg, -⟩
      exact absurd hg List.not_mem_nil
    · exact fun h => absurd h List.not_mem_nil
  sent_lt := fun _ h => absurd h List.not_mem_nil
  client := fun _ h => absurd h List.not_mem_nil

variable {w w' : World}

theorem toManager_dones {m : Manager} {managers : List Manager} (hnodup : managers.Nodup)
    (hm : m ∈ managers) : toManager m (managers.map Event.done) = [.done m] := by
  rw [toManager, List.filter_map]
  have hfilter : managers.filter ((fun e : Event => decide (e.manager = m)) ∘ Event.done) = [m] := by
    have hfun : ((fun e : Event => decide (e.manager = m)) ∘ Event.done) = fun a => a == m := by
      funext a
      rfl
    rw [hfun, List.filter_beq, List.count_eq_one_of_mem hnodup hm]
    rfl
  rw [hfilter]
  rfl

theorem World.Invariant.refresh (h : w.Invariant) (order : HashOrder) (layout : LayoutState)
    (hclean : w.Separate (.refresh order layout)) :
    World.Invariant { w with
      state := (w.state.refresh order w.bindings layout).1
      layout
      sent := w.sent ++ (w.state.refresh order w.bindings layout).2 } := by
  obtain ⟨body, changed, hevents, hunchanged, hfollows, htracks⟩ :=
    refresh_follows order h.valid h.tracks hclean.1 hclean.2
  refine ⟨hfollows.valid, htracks, fun e he => ?_, fun m hm => ?_⟩
  · rcases List.mem_append.mp he with he | he
    · exact (h.sent_lt e he).trans_le hfollows.serial_le
    · refine hfollows.valid.manager_lt _ (hfollows.instances_eq.symm ▸ ?_)
      rw [hevents] at he
      rcases List.mem_append.mp he with he | he
      · exact hfollows.addressed e he
      · split at he
        · obtain ⟨m, hm, rfl⟩ := List.mem_map.mp he
          exact hfollows.instances_eq ▸ order.mem_list.mp hm
        · exact absurd he List.not_mem_nil
  · have hm' : m ∈ w.state.instances := hfollows.instances_eq ▸ hm
    obtain ⟨v, hreplay, hsynced⟩ := h.client m hm'
    obtain ⟨v', hrun, hsynced'⟩ := hfollows.view m hm' v hsynced
    refine ⟨v', ?_, hsynced'⟩
    rw [ManagerClient.replay, toManager_append, run_append_of_eq hreplay, hevents, toManager_append]
    cases changed with
    | false =>
      rw [hunchanged rfl] at hrun ⊢
      obtain rfl : v = v' := Option.some.inj hrun
      rfl
    | true =>
      have hperm := order.perm (w.state.refresh order w.bindings layout).1.instances
      rw [if_pos rfl, toManager_dones (hperm.nodup_iff.mpr hfollows.valid.instances_nodup)
        (hperm.mem_iff.mpr hm)]
      exact ManagerClient.run_apply_done m hrun

/-! ## Stop -/

theorem handleOf_others {m manager : Manager} (hne : m ≠ manager) (instances : List Handle) :
    handleOf m (instances.filter fun h => h.manager ≠ manager) = handleOf m instances := by
  rw [handleOf, handleOf, List.find?_filter]
  congr 1
  funext h
  by_cases hm : h.manager = m
  · have hother : h.manager ≠ manager := hm.symm ▸ hne
    simp [hm, hne]
  · simp [hm]

theorem ExtWorkspaceManagerState.Valid.stop {s : ExtWorkspaceManagerState} (hs : s.Valid)
    (manager : Manager) : (s.stop manager).1.Valid := by
  have hperm : ∀ instances : List Handle, (instances.map Handle.manager).Perm s.instances →
      ((instances.filter fun h => h.manager ≠ manager).map Handle.manager).Perm
        (s.instances.filter fun m => m ≠ manager) := by
    intro instances hperm
    have hmap : (instances.filter fun h => h.manager ≠ manager).map Handle.manager =
        (instances.map Handle.manager).filter fun m => m ≠ manager := by
      rw [List.filter_map]
      rfl
    rw [hmap]
    exact hperm.filter _
  refine ⟨hs.instances_nodup.filter _, ?_, ?_, ?_, ?_, ?_, ?_, ?_⟩
  · intro g hg
    obtain ⟨g, hmem, rfl⟩ := List.mem_map.mp hg
    exact hperm g.instances (hs.group_instances g hmem)
  · intro d hd
    obtain ⟨d, hmem, rfl⟩ := List.mem_map.mp hd
    exact hperm d.instances (hs.workspace_instances d hmem)
  · show (List.map _ (s.workspaceGroups.map _)).Nodup
    rw [List.map_map]
    exact hs.outputs_nodup
  · show (List.map _ (s.workspaces.map _)).Nodup
    rw [List.map_map]
    exact hs.ids_nodup
  · exact fun m hm => hs.manager_lt m (List.mem_of_mem_filter hm)
  · intro g hg h hh
    obtain ⟨g, hmem, rfl⟩ := List.mem_map.mp hg
    exact hs.group_lt g hmem h (List.mem_of_mem_filter hh)
  · intro d hd h hh
    obtain ⟨d, hmem, rfl⟩ := List.mem_map.mp hd
    exact hs.workspace_lt d hmem h (List.mem_of_mem_filter hh)

/-- What the clients have of the records does not depend on the other instances. -/
theorem Synced.of_map {bindings : List Binding} {s s' : ExtWorkspaceManagerState} {m : Manager}
    {v : View} (h : Synced bindings s m v)
    (hg : (groupsOf m s.workspaceGroups).Perm (groupsOf m s'.workspaceGroups))
    (hw : (workspacesOf m s.workspaces).Perm (workspacesOf m s'.workspaces)) :
    Synced bindings s' m v :=
  Shows.perm h hg hw

/-- The records track the layout whichever instances they have. -/
theorem Tracks.of_map {layout : LayoutState} {s s' : ExtWorkspaceManagerState}
    (h : Tracks layout s)
    (hw : ∀ d ∈ s'.workspaces, ∃ d₀ ∈ s.workspaces, ∃ l, { d₀ with instances := l } = d)
    (hw' : ∀ d₀ ∈ s.workspaces, ∃ l, { d₀ with instances := l } ∈ s'.workspaces)
    (hg : ∀ o, (∃ g ∈ s'.workspaceGroups, g.output = o) ↔ ∃ g ∈ s.workspaceGroups, g.output = o) :
    Tracks layout s' := by
  refine ⟨fun at_ hat => ?_, fun d hd => ?_, fun o => (hg o).trans (h.groups_iff o)⟩
  · obtain ⟨d, hd, his⟩ := h.exists_data at_ hat
    obtain ⟨l, hl⟩ := hw' d hd
    exact ⟨_, hl, his.1, his.2, his.3, his.4, his.5, his.6⟩
  · obtain ⟨d, hmem, l, rfl⟩ := hw d hd
    obtain ⟨at_, hat, his⟩ := h.exists_at d hmem
    exact ⟨at_, hat, his.1, his.2, his.3, his.4, his.5, his.6⟩

theorem World.Invariant.stop (h : w.Invariant) {manager : Manager}
    (hmanager : manager ∈ w.state.instances) :
    World.Invariant { w with
      state := (w.state.stop manager).1
      sent := w.sent ++ (w.state.stop manager).2 } := by
  refine ⟨h.valid.stop manager, h.tracks.of_map (fun d hd => ?_) (fun d hd => ?_) (fun o => ?_),
    fun e he => ?_, fun m hm => ?_⟩
  · obtain ⟨d₀, hd₀, rfl⟩ := List.mem_map.mp hd
    exact ⟨d₀, hd₀, _, rfl⟩
  · exact ⟨_, List.mem_map_of_mem hd⟩
  · show (∃ g ∈ w.state.workspaceGroups.map _, _) ↔ _
    simp only [List.mem_map, exists_exists_and_eq_and]
  · rcases List.mem_append.mp he with he | he
    · exact h.sent_lt e he
    · obtain rfl := List.mem_singleton.mp he
      exact h.valid.manager_lt manager hmanager
  · obtain ⟨hm, hne⟩ := List.mem_filter.mp hm
    have hne : m ≠ manager := by simpa using hne
    obtain ⟨v, hreplay, hsynced⟩ := h.client m hm
    refine ⟨v, ?_, hsynced.of_map (List.Perm.of_eq ?_) (List.Perm.of_eq ?_)⟩
    · have hnone : toManager m [Event.finished manager] = [] :=
        toManager_eq_nil fun e he heq => by
          obtain rfl := List.mem_singleton.mp he
          exact hne heq.symm
      rw [toManager_append]
      show ManagerClient.replay (_ ++ toManager m [Event.finished manager]) = _
      rw [hnone, List.append_nil, hreplay]
    · show _ = (w.state.workspaceGroups.map _).filterMap _
      rw [List.filterMap_map]
      refine List.filterMap_congr fun g _ => ?_
      show g.openFor m = (handleOf m (g.instances.filter fun h => h.manager ≠ manager)).map _
      rw [handleOf_others hne]
      rfl
    · show _ = (w.state.workspaces.map _).filterMap _
      rw [List.filterMap_map]
      refine List.filterMap_congr fun d _ => ?_
      show d.openFor m = (handleOf m (d.instances.filter fun h => h.manager ≠ manager)).map _
      rw [handleOf_others hne]
      rfl

/-! ## Outputs that are bound -/

/-- What is known of the other outputs does not matter. -/
theorem Shows.congr_outputs {outputs outputs' : Output → List WlOutput} {gs : List OpenGroup}
    {ws : List OpenWorkspace} {v : View} (h : Shows outputs gs ws v)
    (heq : ∀ g ∈ gs, outputs' g.output = outputs g.output) : Shows outputs' gs ws v := by
  refine ⟨h.outputs_nodup, h.groups_nodup, h.workspaces_nodup, fun handle os => ?_,
    h.workspaces_iff, h.inside_iff⟩
  rw [h.groups_iff]
  exact exists_congr fun g => and_congr_right fun hg => by rw [heq g hg]

/-- A group is told of one more output of the client. -/
theorem Shows.outputEnter {outputs outputs' : Output → List WlOutput} {gs : List OpenGroup}
    {ws : List OpenWorkspace} {v : View} (h : Shows outputs gs ws v) {g : OpenGroup} (hg : g ∈ gs)
    {wlOutput : WlOutput} (heq : outputs' g.output = outputs g.output ++ [wlOutput])
    (hother : ∀ o, o ≠ g.output → outputs' o = outputs o) :
    ∃ v', run View.apply v [.outputEnter g.handle wlOutput] = some v' ∧
      Shows outputs' gs ws v' := by
  refine ⟨v.setGroup g.handle (some (outputs g.output ++ [wlOutput])), run_single ?_, ?_⟩
  · rw [View.apply, h.groups_eq hg]
    rfl
  · refine ⟨h.outputs_nodup, h.groups_nodup, h.workspaces_nodup, fun handle os => ?_,
      h.workspaces_iff, h.inside_iff⟩
    show Function.update v.groups g.handle _ handle = some os ↔ _
    by_cases hhandle : handle = g.handle
    · subst hhandle
      rw [Function.update_self, Option.some.injEq, ← heq]
      constructor
      · rintro rfl
        exact ⟨g, hg, rfl, rfl⟩
      · rintro ⟨g', hg', hgg, rfl⟩
        rw [h.group_unique_handle hg' hg hgg]
    · rw [Function.update_of_ne hhandle, h.groups_iff]
      refine exists_congr fun g' => and_congr_right fun hg' => and_congr_right fun hgg => ?_
      have hne : g'.output ≠ g.output := by
        intro hout
        rw [h.group_unique hg' hg hout] at hgg
        exact hhandle hgg.symm
      rw [hother g'.output hne]

theorem World.Invariant.outputBound (h : w.Invariant) (order : HashOrder) (output : Output)
    (client : Client) (wlOutput : WlOutput) :
    World.Invariant { w with
      bindings := w.bindings ++ [⟨output, client, wlOutput⟩]
      sent := w.sent ++ w.state.onOutputBound order output client wlOutput } := by
  have hperm := order.perm w.state.instances
  refine ⟨h.valid, h.tracks, fun e he => ?_, fun m hm => ?_⟩
  · rcases List.mem_append.mp he with he | he
    · exact h.sent_lt e he
    · unfold ExtWorkspaceManagerState.onOutputBound at he
      split at he
      · exact absurd he List.not_mem_nil
      · next data hfind =>
        have hdata := List.mem_of_find?_eq_some hfind
        dsimp only at he
        split at he
        · exact absurd he List.not_mem_nil
        · rcases List.mem_append.mp he with he | he
          · obtain ⟨group, hgroup, rfl⟩ := List.mem_map.mp he
            have hmem := (h.valid.group_instances data hdata).mem_iff.mp
              (List.mem_map_of_mem (List.mem_of_mem_filter hgroup))
            exact h.valid.manager_lt _ hmem
          · obtain ⟨m, hm, rfl⟩ := List.mem_map.mp he
            exact h.valid.manager_lt m (order.mem_list.mp (List.mem_of_mem_filter hm))
  · obtain ⟨v, hreplay, hsynced⟩ := h.client m hm
    have hsame : ∀ o, ¬(output = o ∧ client = m.client) →
        clientOutputs (w.bindings ++ [⟨output, client, wlOutput⟩]) o m.client =
          clientOutputs w.bindings o m.client := by
      intro o ho
      rw [clientOutputs_append, if_neg ho, List.append_nil]
    -- a client that is sent nothing, and has no group of the output
    have hquiet : toManager m (w.state.onOutputBound order output client wlOutput) = [] →
        (∀ g ∈ groupsOf m w.state.workspaceGroups, ¬(output = g.output ∧ client = m.client)) →
        ∃ v, ManagerClient.replay (toManager m
            (w.sent ++ w.state.onOutputBound order output client wlOutput)) = some ⟨v, v⟩ ∧
          Synced (w.bindings ++ [⟨output, client, wlOutput⟩]) w.state m v := by
      intro hnil hnone
      refine ⟨v, by rw [toManager_append, hnil, List.append_nil, hreplay], ?_⟩
      exact Shows.congr_outputs hsynced fun g hg => hsame g.output (hnone g hg)
    cases hfind : w.state.workspaceGroups.find? fun data => data.output = output with
    | none =>
      refine hquiet ?_ ?_
      · rw [ExtWorkspaceManagerState.onOutputBound, hfind]
        rfl
      · rintro g hg ⟨rfl, -⟩
        obtain ⟨data, hdata, hopen⟩ := List.mem_filterMap.mp hg
        obtain ⟨handle, -, rfl⟩ := Option.map_eq_some_iff.mp hopen
        exact List.find?_eq_none.mp hfind data hdata (decide_eq_true rfl)
    | some data =>
      have hdata := List.mem_of_find?_eq_some hfind
      have houtput : data.output = output := by simpa using List.find?_some hfind
      obtain ⟨handle, hhandle, hopen⟩ := h.valid.exists_openGroup hm hdata
      have hmanager := manager_of_handleOf hhandle
      have hnodup := h.valid.group_nodup hdata
      by_cases hclient : client = m.client
      · subst hclient
        have hmem : handle ∈ data.instances.filter fun group =>
            group.manager.client = m.client :=
          List.mem_filter.mpr ⟨mem_of_handleOf hhandle, by simp [hmanager]⟩
        have hsent : toManager m ((data.instances.filter fun group =>
            group.manager.client = m.client).map fun group => Event.outputEnter group wlOutput) =
            [.outputEnter handle wlOutput] := by
          have hflat : ((data.instances.filter fun group =>
              group.manager.client = m.client).map fun group =>
                Event.outputEnter group wlOutput) = data.instances.flatMap fun group =>
              if group.manager.client = m.client then [.outputEnter group wlOutput] else [] := by
            induction data.instances with
            | nil => rfl
            | cons group l ih =>
              by_cases hc : group.manager.client = m.client <;> simp [hc, ih]
          rw [hflat, toManager_flatMap hnodup (fun group e he => ?_), hhandle]
          · simp [hmanager]
          · split at he
            · obtain rfl := List.mem_singleton.mp he
              rfl
            · exact absurd he List.not_mem_nil
        have hdones : toManager m (((order.list w.state.instances).filter fun manager =>
            manager.client = m.client).map Event.done) = [.done m] := by
          refine toManager_dones ((hperm.nodup_iff.mpr h.valid.instances_nodup).filter _) ?_
          exact List.mem_filter.mpr ⟨order.mem_list.mpr hm, by simp⟩
        have hevents : toManager m (w.state.onOutputBound order output m.client wlOutput) =
            [.outputEnter handle wlOutput] ++ [.done m] := by
          rw [ExtWorkspaceManagerState.onOutputBound, hfind]
          dsimp only
          rw [if_neg ?_, toManager_append, hsent, hdones]
          rw [List.isEmpty_iff, List.map_eq_nil_iff]
          exact List.ne_nil_of_mem hmem
        have hgroup : (⟨data.output, handle⟩ : OpenGroup) ∈ groupsOf m w.state.workspaceGroups :=
          List.mem_filterMap.mpr ⟨data, hdata, hopen⟩
        obtain ⟨v', hrun, hsynced'⟩ : ∃ v',
            run View.apply v [.outputEnter handle wlOutput] = some v' ∧
            Synced (w.bindings ++ [⟨output, m.client, wlOutput⟩]) w.state m v' := by
          refine Shows.outputEnter hsynced hgroup ?_ fun o ho => ?_
          · rw [clientOutputs_append, if_pos ⟨houtput.symm, rfl⟩]
          · exact hsame o fun hout => ho (hout.1.symm.trans houtput.symm)
        refine ⟨v', ?_, hsynced'⟩
        rw [ManagerClient.replay, toManager_append, run_append_of_eq hreplay, hevents]
        exact ManagerClient.run_apply_done m hrun
      · refine hquiet ?_ fun g _ hg => hclient hg.2
        refine toManager_eq_nil fun e he heq => ?_
        rw [ExtWorkspaceManagerState.onOutputBound, hfind] at he
        dsimp only at he
        split at he
        · exact absurd he List.not_mem_nil
        · rcases List.mem_append.mp he with he | he
          · obtain ⟨group, hgroup, rfl⟩ := List.mem_map.mp he
            have hgroup := (List.mem_filter.mp hgroup).2
            exact hclient ((of_decide_eq_true hgroup).symm.trans (congrArg Manager.client heq))
          · obtain ⟨m', hm', rfl⟩ := List.mem_map.mp he
            have hm' := (List.mem_filter.mp hm').2
            exact hclient ((of_decide_eq_true hm').symm.trans (congrArg Manager.client heq))

/-! ## Bind -/

theorem handleOf_append_other {m : Manager} {h : Handle} (hne : h.manager ≠ m)
    (instances : List Handle) : handleOf m (instances ++ [h]) = handleOf m instances := by
  rw [handleOf, handleOf, List.find?_append]
  simp [hne]

theorem handleOf_append_new {m : Manager} {h : Handle} (hm : h.manager = m)
    {instances : List Handle} (hnone : ∀ h' ∈ instances, h'.manager ≠ m) :
    handleOf m (instances ++ [h]) = some h := by
  have hfind : instances.find? (fun h' => decide (h'.manager = m)) = none := by
    rw [List.find?_eq_none]
    intro h' hh'
    simpa using hnone h' hh'
  rw [handleOf, List.find?_append, hfind]
  simp [hm]

/-- The workspaces are described to a client that has no groups. -/
theorem Shows.addInstances {outputs : Output → List WlOutput}
    (l : List (ExtWorkspaceData × Handle)) {ws : List OpenWorkspace} {v : View}
    (h : Shows outputs [] ws v) (hnodup : (l.map Prod.snd).Nodup)
    (hfresh : ∀ e ∈ l, ∀ w ∈ ws, w.handle ≠ e.2) :
    ∃ v', run View.apply v (l.flatMap fun e => e.1.addInstance e.2) = some v' ∧
      Shows outputs [] ((l.map fun e => ⟨e.1.view, e.2, e.1.output⟩) ++ ws) v' := by
  induction l generalizing ws v with
  | nil => exact ⟨v, rfl, h⟩
  | cons e l ih =>
    rw [List.map_cons, List.nodup_cons] at hnodup
    obtain ⟨v₁, hrun₁, h₁⟩ := h.addInstance e.1 (hfresh e List.mem_cons_self)
    have hplaced : Shows outputs [] (⟨e.1.view, e.2, e.1.output⟩ :: ws) v₁ :=
      h₁.withOutput_of_none rfl (fun _ hg => absurd hg List.not_mem_nil)
        fun _ hg => absurd hg List.not_mem_nil
    obtain ⟨v₂, hrun₂, h₂⟩ := ih hplaced hnodup.2 fun e' he' w hw => by
      rcases List.mem_cons.mp hw with rfl | hw
      · intro heq
        replace heq : e.2 = e'.2 := heq
        exact hnodup.1 (heq ▸ List.mem_map_of_mem he')
      · exact hfresh e' (List.mem_cons_of_mem _ he') w hw
    refine ⟨v₂, ?_, h₂.perm (List.Perm.refl _) List.perm_middle⟩
    rw [List.flatMap_cons, run_append_of_eq hrun₁, hrun₂]

/-- The groups are created, and the workspaces enter them. -/
theorem Shows.addGroups {bindings : List Binding} {client : Client}
    (l : List (ExtWorkspaceGroupData × Handle)) {gs : List OpenGroup} {ws : List OpenWorkspace}
    {v : View} (h : Shows (fun o => clientOutputs bindings o client) gs ws v)
    (hclient : ∀ e ∈ l, e.2.manager.client = client) (hnodup : (l.map Prod.snd).Nodup)
    (houtputs : (l.map fun e => e.1.output).Nodup)
    (hfresh : ∀ e ∈ l, ∀ g ∈ gs, g.handle ≠ e.2 ∧ g.output ≠ e.1.output) :
    ∃ v', run View.apply v (l.flatMap fun e => e.1.addInstance bindings e.2 ++
        (ws.filter fun w => w.output = some e.1.output).map
          fun w => .workspaceEnter e.2 w.handle) = some v' ∧
      Shows (fun o => clientOutputs bindings o client)
        ((l.map fun e => ⟨e.1.output, e.2⟩) ++ gs) ws v' := by
  induction l generalizing gs v with
  | nil => exact ⟨v, rfl, h⟩
  | cons e l ih =>
    rw [List.map_cons, List.nodup_cons] at hnodup houtputs
    obtain ⟨v₁, hrun₁, h₁⟩ := h.addGroup (g := ⟨e.1.output, e.2⟩)
      (fun g hg => (hfresh e List.mem_cons_self g hg).1)
      fun g hg => (hfresh e List.mem_cons_self g hg).2
    obtain ⟨v₂, hrun₂, h₂⟩ := ih h₁ (fun e' he' => hclient e' (List.mem_cons_of_mem _ he'))
      hnodup.2 houtputs.2 fun e' he' g hg => by
        rcases List.mem_cons.mp hg with rfl | hg
        · refine ⟨fun heq => ?_, fun heq => ?_⟩
          · replace heq : e.2 = e'.2 := heq
            exact hnodup.1 (heq ▸ List.mem_map_of_mem he')
          · replace heq : e.1.output = e'.1.output := heq
            exact houtputs.1 (List.mem_map.mpr ⟨e', he', heq.symm⟩)
        · exact hfresh e' (List.mem_cons_of_mem _ he') g hg
    refine ⟨v₂, ?_, h₂.perm List.perm_middle (List.Perm.refl _)⟩
    rw [List.flatMap_cons, ExtWorkspaceGroupData.addInstance, hclient e List.mem_cons_self,
      run_append_of_eq hrun₁, hrun₂]

/-- The objects of a new manager, one for each workspace and each group. -/
structure NewObjects (s : ExtWorkspaceManagerState) (manager : Manager)
    (nw : List (ExtWorkspaceData × Handle)) (ng : List (ExtWorkspaceGroupData × Handle)) : Prop where
  workspaces_perm : (nw.map Prod.fst).Perm s.workspaces
  groups_perm : (ng.map Prod.fst).Perm s.workspaceGroups
  workspaces_nodup : (nw.map Prod.snd).Nodup
  groups_nodup : (ng.map Prod.snd).Nodup
  workspace_handle : ∀ e ∈ nw, e.2.manager = manager ∧
    e.2.serial < s.serial + 1 + nw.length + ng.length
  group_handle : ∀ e ∈ ng, e.2.manager = manager ∧
    e.2.serial < s.serial + 1 + nw.length + ng.length

def withHandle (e : ExtWorkspaceData × Handle) : ExtWorkspaceData :=
  { e.1 with instances := e.1.instances ++ [e.2] }

def withGroupHandle (e : ExtWorkspaceGroupData × Handle) : ExtWorkspaceGroupData :=
  { e.1 with instances := e.1.instances ++ [e.2] }

theorem bind_eq (order : HashOrder) (bindings : List Binding) (s : ExtWorkspaceManagerState)
    (client : Client) : ∃ nw ng, NewObjects s ⟨client, s.serial⟩ nw ng ∧
      s.bind order bindings client =
        ({ serial := s.serial + 1 + nw.length + ng.length
           instances := ⟨client, s.serial⟩ :: s.instances
           workspaceGroups := ng.map withGroupHandle
           workspaces := nw.map withHandle },
          (nw.flatMap fun e => e.1.addInstance e.2) ++
            (ng.flatMap fun e => e.1.addInstance bindings e.2 ++
              (nw.filter fun ws => ws.1.output = some e.1.output).map
                fun ws => .workspaceEnter e.2 ws.2) ++ [.done ⟨client, s.serial⟩]) := by
  let nw := numbered ⟨client, s.serial⟩ (s.serial + 1) (order.list s.workspaces)
  let ng := numbered ⟨client, s.serial⟩ (s.serial + 1 + nw.length) (order.list s.workspaceGroups)
  refine ⟨nw, ng, ⟨?_, ?_, numbered_nodup, numbered_nodup, fun e he => ?_, fun e he => ?_⟩, rfl⟩
  · rw [numbered_map_fst]
    exact order.perm _
  · rw [numbered_map_fst]
    exact order.perm _
  · obtain ⟨-, hm, -, hlt⟩ := mem_numbered he
    have hlen : nw.length = (order.list s.workspaces).length := numbered_length
    exact ⟨hm, by omega⟩
  · obtain ⟨-, hm, -, hlt⟩ := mem_numbered he
    have hlen : ng.length = (order.list s.workspaceGroups).length := numbered_length
    exact ⟨hm, by omega⟩

namespace NewObjects

variable {s : ExtWorkspaceManagerState} {client : Client}
  {nw : List (ExtWorkspaceData × Handle)} {ng : List (ExtWorkspaceGroupData × Handle)}

theorem mem_workspaces (h : NewObjects s ⟨client, s.serial⟩ nw ng)
    {e : ExtWorkspaceData × Handle} (he : e ∈ nw) : e.1 ∈ s.workspaces :=
  h.workspaces_perm.mem_iff.mp (List.mem_map_of_mem he)

theorem mem_groups (h : NewObjects s ⟨client, s.serial⟩ nw ng)
    {e : ExtWorkspaceGroupData × Handle} (he : e ∈ ng) : e.1 ∈ s.workspaceGroups :=
  h.groups_perm.mem_iff.mp (List.mem_map_of_mem he)

theorem outputs_nodup (h : NewObjects s ⟨client, s.serial⟩ nw ng) (hs : s.Valid) :
    (ng.map fun e => e.1.output).Nodup := by
  have hmap := (h.groups_perm.map ExtWorkspaceGroupData.output).nodup_iff.mpr hs.outputs_nodup
  rwa [List.map_map] at hmap

theorem ids_nodup (h : NewObjects s ⟨client, s.serial⟩ nw ng) (hs : s.Valid) :
    (nw.map fun e => e.1.workspace).Nodup := by
  have hmap := (h.workspaces_perm.map ExtWorkspaceData.workspace).nodup_iff.mpr hs.ids_nodup
  rwa [List.map_map] at hmap

/-- The new manager has no objects among the old ones. -/
theorem manager_ne (client : Client) (hs : s.Valid) {instances : List Handle}
    (hperm : (instances.map Handle.manager).Perm s.instances) :
    ∀ a ∈ instances, a.manager ≠ ⟨client, s.serial⟩ := by
  intro a ha heq
  have hlt := hs.manager_lt _ (hperm.mem_iff.mp (List.mem_map_of_mem ha))
  rw [heq] at hlt
  exact Nat.lt_irrefl _ hlt

theorem perm_append {instances : List Handle} {manager : Manager} {a : Handle}
    (ha : a.manager = manager) {managers : List Manager}
    (hperm : (instances.map Handle.manager).Perm managers) :
    ((instances ++ [a]).map Handle.manager).Perm (manager :: managers) := by
  rw [List.map_append, List.map_singleton, ha]
  exact (List.perm_append_singleton _ _).trans (hperm.cons _)

theorem valid (h : NewObjects s ⟨client, s.serial⟩ nw ng) (hs : s.Valid) :
    ExtWorkspaceManagerState.Valid
      { serial := s.serial + 1 + nw.length + ng.length
        instances := ⟨client, s.serial⟩ :: s.instances
        workspaceGroups := ng.map withGroupHandle
        workspaces := nw.map withHandle } := by
  have hlt : ∀ n, n < s.serial → n < s.serial + 1 + nw.length + ng.length := by omega
  refine ⟨?_, ?_, ?_, ?_, ?_, ?_, ?_, ?_⟩
  · refine List.nodup_cons.mpr ⟨fun hmem => ?_, hs.instances_nodup⟩
    exact Nat.lt_irrefl _ (hs.manager_lt _ hmem)
  · intro g hg
    obtain ⟨e, he, rfl⟩ := List.mem_map.mp hg
    exact perm_append (h.group_handle e he).1 (hs.group_instances _ (h.mem_groups he))
  · intro d hd
    obtain ⟨e, he, rfl⟩ := List.mem_map.mp hd
    exact perm_append (h.workspace_handle e he).1 (hs.workspace_instances _ (h.mem_workspaces he))
  · rw [List.map_map]
    exact h.outputs_nodup hs
  · rw [List.map_map]
    exact h.ids_nodup hs
  · intro m hm
    rcases List.mem_cons.mp hm with rfl | hm
    · show s.serial < s.serial + 1 + nw.length + ng.length
      omega
    · exact hlt _ (hs.manager_lt m hm)
  · intro g hg a ha
    obtain ⟨e, he, rfl⟩ := List.mem_map.mp hg
    rcases List.mem_append.mp ha with ha | ha
    · exact hlt _ (hs.group_lt _ (h.mem_groups he) a ha)
    · rw [List.mem_singleton.mp ha]
      exact (h.group_handle e he).2
  · intro d hd a ha
    obtain ⟨e, he, rfl⟩ := List.mem_map.mp hd
    rcases List.mem_append.mp ha with ha | ha
    · exact hlt _ (hs.workspace_lt _ (h.mem_workspaces he) a ha)
    · rw [List.mem_singleton.mp ha]
      exact (h.workspace_handle e he).2

/-- The objects of the others are the same as before. -/
theorem openFor_of_ne (h : NewObjects s ⟨client, s.serial⟩ nw ng) {m : Manager}
    (hm : m ≠ ⟨client, s.serial⟩) :
    (groupsOf m s.workspaceGroups).Perm (groupsOf m (ng.map withGroupHandle)) ∧
      (workspacesOf m s.workspaces).Perm (workspacesOf m (nw.map withHandle)) := by
  constructor
  · have hmap : groupsOf m (ng.map withGroupHandle) = groupsOf m (ng.map Prod.fst) := by
      unfold groupsOf
      rw [List.filterMap_map, List.filterMap_map]
      refine List.filterMap_congr fun e he => ?_
      show (handleOf m (e.1.instances ++ [e.2])).map _ = _
      rw [handleOf_append_other fun heq => hm (heq.symm.trans (h.group_handle e he).1)]
      rfl
    rw [hmap]
    exact h.groups_perm.symm.filterMap _
  · have hmap : workspacesOf m (nw.map withHandle) = workspacesOf m (nw.map Prod.fst) := by
      unfold workspacesOf
      rw [List.filterMap_map, List.filterMap_map]
      refine List.filterMap_congr fun e he => ?_
      show (handleOf m (e.1.instances ++ [e.2])).map _ = _
      rw [handleOf_append_other fun heq => hm (heq.symm.trans (h.workspace_handle e he).1)]
      rfl
    rw [hmap]
    exact h.workspaces_perm.symm.filterMap _

/-- The objects of the new manager. -/
theorem openFor_new (h : NewObjects s ⟨client, s.serial⟩ nw ng) (hs : s.Valid) :
    groupsOf ⟨client, s.serial⟩ (ng.map withGroupHandle) =
        ng.map (fun e => ⟨e.1.output, e.2⟩) ∧
      workspacesOf ⟨client, s.serial⟩ (nw.map withHandle) =
        nw.map (fun e => ⟨e.1.view, e.2, e.1.output⟩) := by
  constructor
  · unfold groupsOf
    rw [List.filterMap_map, ← List.filterMap_eq_map]
    refine List.filterMap_congr fun e he => ?_
    have hnone := manager_ne client hs (hs.group_instances _ (h.mem_groups he))
    show (handleOf _ (e.1.instances ++ [e.2])).map _ = _
    rw [handleOf_append_new (h.group_handle e he).1 hnone]
    rfl
  · unfold workspacesOf
    rw [List.filterMap_map, ← List.filterMap_eq_map]
    refine List.filterMap_congr fun e he => ?_
    have hnone := manager_ne client hs (hs.workspace_instances _ (h.mem_workspaces he))
    show (handleOf _ (e.1.instances ++ [e.2])).map _ = _
    rw [handleOf_append_new (h.workspace_handle e he).1 hnone]
    rfl

/-- All events of `bind` are the new manager's. -/
theorem addressed (h : NewObjects s ⟨client, s.serial⟩ nw ng) (bindings : List Binding) :
    ∀ e ∈ (nw.flatMap fun e => e.1.addInstance e.2) ++
      (ng.flatMap fun e => e.1.addInstance bindings e.2 ++
        (nw.filter fun ws => ws.1.output = some e.1.output).map
          fun ws => .workspaceEnter e.2 ws.2) ++ [.done ⟨client, s.serial⟩],
      e.manager = ⟨client, s.serial⟩ := by
  intro e he
  simp only [List.mem_append, List.mem_flatMap, List.mem_map, List.mem_singleton] at he
  obtain (⟨a, ha, he⟩ | ⟨a, ha, he | ⟨ws, -, rfl⟩⟩) | rfl := he
  · exact (manager_of_mem_addInstance he).trans (h.workspace_handle a ha).1
  · exact (manager_of_mem_addGroupInstance he).trans (h.group_handle a ha).1
  · exact (h.group_handle a ha).1
  · rfl

/-- The client of the new manager is shown everything. -/
theorem run_new (h : NewObjects s ⟨client, s.serial⟩ nw ng) (hs : s.Valid)
    (bindings : List Binding) :
    ∃ v, run View.apply .empty ((nw.flatMap fun e => e.1.addInstance e.2) ++
        ng.flatMap fun e => e.1.addInstance bindings e.2 ++
          (nw.filter fun ws => ws.1.output = some e.1.output).map
            fun ws => .workspaceEnter e.2 ws.2) = some v ∧
      Shows (fun o => clientOutputs bindings o client) (ng.map fun e => ⟨e.1.output, e.2⟩)
        (nw.map fun e => ⟨e.1.view, e.2, e.1.output⟩) v := by
  obtain ⟨v₁, hrun₁, h₁⟩ := (shows_nil fun o => clientOutputs bindings o client).addInstances nw
    h.workspaces_nodup fun _ _ _ hw => absurd hw List.not_mem_nil
  rw [List.append_nil] at h₁
  obtain ⟨v₂, hrun₂, h₂⟩ := h₁.addGroups ng
    (fun e he => congrArg Manager.client (h.group_handle e he).1) h.groups_nodup
    (h.outputs_nodup hs) fun _ _ _ hg => absurd hg List.not_mem_nil
  rw [List.append_nil] at h₂
  refine ⟨v₂, ?_, h₂⟩
  have hfilter : ∀ o : Output, ∀ a : Handle,
      (((nw.map fun e => (⟨e.1.view, e.2, e.1.output⟩ : OpenWorkspace)).filter fun w =>
        w.output = some o).map fun w => Event.workspaceEnter a w.handle) =
      (nw.filter fun ws => ws.1.output = some o).map fun ws => .workspaceEnter a ws.2 := by
    intro o a
    rw [List.filter_map, List.map_map]
    rfl
  simp only [hfilter] at hrun₂
  rw [run_append_of_eq hrun₁, hrun₂]

end NewObjects

theorem World.Invariant.bind (h : w.Invariant) (order : HashOrder) (client : Client) :
    World.Invariant { w with
      state := (w.state.bind order w.bindings client).1
      sent := w.sent ++ (w.state.bind order w.bindings client).2 } := by
  obtain ⟨nw, ng, hnew, heq⟩ := bind_eq order w.bindings w.state client
  rw [heq]
  have haddressed := hnew.addressed w.bindings
  have hvalid := hnew.valid h.valid
  refine ⟨hvalid, ?_, fun e he => ?_, fun m hm => ?_⟩
  · refine h.tracks.of_map (fun d hd => ?_) (fun d hd => ?_) (fun o => ?_)
    · obtain ⟨e, he, rfl⟩ := List.mem_map.mp hd
      exact ⟨e.1, hnew.mem_workspaces he, _, rfl⟩
    · obtain ⟨e, he, rfl⟩ := List.mem_map.mp (hnew.workspaces_perm.mem_iff.mpr hd)
      exact ⟨_, List.mem_map_of_mem he⟩
    · constructor
      · rintro ⟨g, hg, rfl⟩
        obtain ⟨e, he, rfl⟩ := List.mem_map.mp hg
        exact ⟨e.1, hnew.mem_groups he, rfl⟩
      · rintro ⟨g, hg, rfl⟩
        obtain ⟨e, he, rfl⟩ := List.mem_map.mp (hnew.groups_perm.mem_iff.mpr hg)
        exact ⟨_, List.mem_map_of_mem he, rfl⟩
  · rcases List.mem_append.mp he with he | he
    · have hlt := h.sent_lt e he
      show e.manager.serial < w.state.serial + 1 + nw.length + ng.length
      omega
    · rw [haddressed e he]
      exact hvalid.manager_lt _ List.mem_cons_self
  · rw [toManager_append]
    rcases List.mem_cons.mp hm with rfl | hm
    · have hnone : toManager ⟨client, w.state.serial⟩ w.sent = [] := by
        refine toManager_eq_nil fun e he heq => ?_
        have hlt := h.sent_lt e he
        rw [heq] at hlt
        exact Nat.lt_irrefl _ hlt
      obtain ⟨v, hrun, hshows⟩ := hnew.run_new h.valid w.bindings
      obtain ⟨hgroups, hworkspaces⟩ := hnew.openFor_new h.valid
      refine ⟨v, ?_, ?_⟩
      · rw [hnone, List.nil_append, toManager_eq_self haddressed]
        exact ManagerClient.run_apply_done _ hrun
      · show Shows _ (groupsOf _ (ng.map withGroupHandle)) (workspacesOf _ (nw.map withHandle)) v
        rw [hgroups, hworkspaces]
        exact hshows
    · obtain ⟨v, hreplay, hsynced⟩ := h.client m hm
      have hne : m ≠ ⟨client, w.state.serial⟩ := by
        rintro rfl
        exact Nat.lt_irrefl _ (h.valid.manager_lt _ hm)
      obtain ⟨hgroups, hworkspaces⟩ := hnew.openFor_of_ne hne
      refine ⟨v, ?_, hsynced.of_map hgroups hworkspaces⟩
      rw [toManager_eq_nil fun e he heq => hne (heq.symm.trans (haddressed e he)),
        List.append_nil, hreplay]

/-! ## What the clients see -/

theorem LayoutState.output_mem {layout : LayoutState} {at_ : Located}
    (hat : at_ ∈ layout.workspaces) {o : Output} (ho : at_.output = some o) :
    o ∈ layout.sortedOutputs := by
  rw [layout.outputs_perm.mem_iff]
  unfold LayoutState.workspaces at hat
  cases hset : layout.monitorSet with
  | normal monitors =>
    rw [hset] at hat
    obtain ⟨mon, hmon, hat⟩ := List.mem_flatMap.mp hat
    obtain ⟨i, hi, rfl⟩ := List.mem_mapIdx.mp hat
    obtain rfl := Option.some.inj ho
    exact List.mem_map_of_mem hmon
  | noOutputs workspaces =>
    rw [hset] at hat
    obtain ⟨i, hi, rfl⟩ := List.mem_mapIdx.mp hat
    cases ho

theorem ExtWorkspaceData.Is.view_eq {d : ExtWorkspaceData} {at_ : Located} (h : d.Is at_) :
    d.view = at_.view := by
  rw [ExtWorkspaceData.view, Located.view, h.id_eq, h.name_eq, h.coordinates_eq, h.state_eq]

section Sees

variable {s : ExtWorkspaceManagerState} {m : Manager} {layout : LayoutState}

/-- The objects of a manager, by output and by workspace. -/
theorem exists_handles (hs : s.Valid) (hm : m ∈ s.instances) :
    ∃ (group : Output → Handle) (handle : U64 → Handle),
      (∀ g ∈ s.workspaceGroups, handleOf m g.instances = some (group g.output)) ∧
      ∀ d ∈ s.workspaces, handleOf m d.instances = some (handle d.workspace) := by
  have hgroup : ∀ o, ∃ h, ∀ g ∈ s.workspaceGroups, g.output = o →
      handleOf m g.instances = some h := by
    intro o
    by_cases hex : ∃ g ∈ s.workspaceGroups, g.output = o
    · obtain ⟨g, hg, rfl⟩ := hex
      obtain ⟨h, hh, -⟩ := hs.exists_openGroup hm hg
      refine ⟨h, fun g' hg' heq => ?_⟩
      rw [List.inj_on_of_nodup_map hs.outputs_nodup hg' hg heq, hh]
    · exact ⟨⟨m, 0⟩, fun g hg heq => absurd ⟨g, hg, heq⟩ hex⟩
  have hhandle : ∀ id, ∃ h, ∀ d ∈ s.workspaces, d.workspace = id →
      handleOf m d.instances = some h := by
    intro id
    by_cases hex : ∃ d ∈ s.workspaces, d.workspace = id
    · obtain ⟨d, hd, rfl⟩ := hex
      obtain ⟨h, hh, -⟩ := hs.exists_openWorkspace hm hd
      refine ⟨h, fun d' hd' heq => ?_⟩
      rw [List.inj_on_of_nodup_map hs.ids_nodup hd' hd heq, hh]
    · exact ⟨⟨m, 0⟩, fun d hd heq => absurd ⟨d, hd, heq⟩ hex⟩
  choose group hgroup using hgroup
  choose handle hhandle using hhandle
  exact ⟨group, handle, fun g hg => hgroup _ g hg rfl, fun d hd => hhandle _ d hd rfl⟩

theorem Synced.sees {bindings : List Binding} {v : View} (hv : Synced bindings s m v)
    (hs : s.Valid) (hm : m ∈ s.instances) (htracks : Tracks layout s) :
    ∃ group handle, Sees layout (fun o => clientOutputs bindings o m.client) v group handle := by
  obtain ⟨group, handle, hgroup, hhandle⟩ := exists_handles hs hm
  have hgroups : ∀ g, g ∈ groupsOf m s.workspaceGroups ↔
      ∃ o ∈ layout.sortedOutputs, ⟨o, group o⟩ = g := by
    intro g
    unfold groupsOf
    rw [List.mem_filterMap]
    constructor
    · rintro ⟨data, hdata, hopen⟩
      rw [ExtWorkspaceGroupData.openFor, hgroup data hdata] at hopen
      exact ⟨data.output, (htracks.groups_iff _).mp ⟨data, hdata, rfl⟩, Option.some.inj hopen⟩
    · rintro ⟨o, ho, rfl⟩
      obtain ⟨data, hdata, rfl⟩ := (htracks.groups_iff o).mpr ho
      exact ⟨data, hdata, by rw [ExtWorkspaceGroupData.openFor, hgroup data hdata]; rfl⟩
  have hworkspaces : ∀ w, w ∈ workspacesOf m s.workspaces ↔
      ∃ at_ ∈ layout.workspaces, ⟨at_.view, handle at_.workspace.id, at_.output⟩ = w := by
    intro w
    unfold workspacesOf
    rw [List.mem_filterMap]
    constructor
    · rintro ⟨d, hd, hopen⟩
      obtain ⟨at_, hat, his⟩ := htracks.exists_at d hd
      rw [ExtWorkspaceData.openFor, hhandle d hd] at hopen
      refine ⟨at_, hat, ?_⟩
      rw [← his.view_eq, ← his.workspace_eq, ← his.output_eq]
      exact Option.some.inj hopen
    · rintro ⟨at_, hat, rfl⟩
      obtain ⟨d, hd, his⟩ := htracks.exists_data at_ hat
      refine ⟨d, hd, ?_⟩
      rw [ExtWorkspaceData.openFor, hhandle d hd, ← his.view_eq, ← his.workspace_eq,
        ← his.output_eq]
      rfl
  refine ⟨group, handle, ⟨?_, ?_, ?_, ?_, ?_⟩⟩
  · intro o ho o' ho' heq
    have hg := hv.group_unique_handle ((hgroups _).mpr ⟨o, ho, rfl⟩) ((hgroups _).mpr ⟨o', ho', rfl⟩)
      heq
    exact congrArg OpenGroup.output hg
  · intro a ha b hb heq
    obtain ⟨d, hd, hisd⟩ := htracks.exists_data a ha
    obtain ⟨d', hd', hisd'⟩ := htracks.exists_data b hb
    have hmap : (workspacesOf m s.workspaces).map OpenWorkspace.handle =
        s.workspaces.map fun d => handle d.workspace := by
      unfold workspacesOf
      rw [List.map_filterMap, ← List.filterMap_eq_map]
      refine List.filterMap_congr fun d hd => ?_
      rw [ExtWorkspaceData.openFor, hhandle d hd]
      rfl
    have hdd : d = d' := by
      refine List.inj_on_of_nodup_map (hmap ▸ hv.workspaces_nodup) hd hd' ?_
      rw [hisd.workspace_eq, hisd'.workspace_eq, heq]
    rw [← hisd.workspace_eq, ← hisd'.workspace_eq, hdd]
  · intro h os
    rw [hv.groups_iff]
    simp only [hgroups, exists_exists_and_eq_and]
  · intro h wv
    rw [hv.workspaces_iff]
    simp only [hworkspaces, exists_exists_and_eq_and]
  · intro p
    rw [hv.inside_iff]
    simp only [hgroups, hworkspaces, exists_exists_and_eq_and]
    constructor
    · rintro ⟨o, ho, at_, hat, hout, rfl⟩
      exact ⟨at_, hat, o, hout, rfl⟩
    · rintro ⟨at_, hat, o, hout, rfl⟩
      exact ⟨o, LayoutState.output_mem hat hout, at_, hat, hout, rfl⟩

end Sees

/-- One step. -/
theorem World.Invariant.step (h : w.Invariant) {label : Label} (hgood : w.Separate label)
    (hstep : w.step label = some w') : w'.Invariant := by
  cases label with
  | refresh order layout =>
    obtain rfl := Option.some.inj hstep
    exact h.refresh order layout hgood
  | bind order client =>
    obtain rfl := Option.some.inj hstep
    exact h.bind order client
  | stop manager =>
    unfold World.step at hstep
    dsimp only at hstep
    split at hstep
    · next hmanager =>
      obtain rfl := Option.some.inj hstep
      exact h.stop hmanager
    · cases hstep
  | outputBound order output client =>
    obtain rfl := Option.some.inj hstep
    exact h.outputBound order output client _

/-- In a run in which no workspace is renamed and moved at once, the client of
    every live manager takes all events, and shows the workspaces. -/
theorem clients_see_workspaces {labels : List Label}
    (hrun : run World.step World.initial labels = some w)
    (hgood : StepsMeet World.step World.Separate World.initial labels) :
    ∀ m ∈ w.state.instances, ∃ c group handle,
      ManagerClient.replay (toManager m w.sent) = some c ∧
      Sees w.layout (fun o => clientOutputs w.bindings o m.client) c.shown group handle := by
  have hinv : w.Invariant := run_invariant_of_steps
    (fun _ _ _ hinv hgood hstep => hinv.step hgood hstep) hgood hrun World.invariant_initial
  intro m hm
  obtain ⟨v, hreplay, hsynced⟩ := hinv.client m hm
  obtain ⟨group, handle, hsees⟩ := hsynced.sees hinv.valid hm hinv.tracks
  exact ⟨⟨v, v⟩, group, handle, hreplay, hsees⟩

/-! ## A workspace that is renamed and moved at once -/

/-- Two outputs, the first with the workspace `mail`. -/
def mailOnFirst : LayoutState where
  monitorSet := .normal [⟨⟨0⟩, [⟨1, some "mail", false⟩, ⟨2, none, false⟩], 0⟩,
    ⟨⟨1⟩, [⟨3, none, false⟩], 0⟩]
  sortedOutputs := [⟨0⟩, ⟨1⟩]
  outputs_perm := List.Perm.refl _
  outputs_nodup := by decide
  ids_nodup := by decide

/-- The workspace has no name any more and is on the second output. -/
def unnamedOnSecond : LayoutState where
  monitorSet := .normal [⟨⟨0⟩, [⟨2, none, false⟩], 0⟩,
    ⟨⟨1⟩, [⟨1, none, false⟩, ⟨3, none, false⟩], 0⟩]
  sortedOutputs := [⟨0⟩, ⟨1⟩]
  outputs_perm := List.Perm.refl _
  outputs_nodup := by decide
  ids_nodup := by decide

def unnameAndMove : List Label :=
  [.bind .stored ⟨0⟩, .refresh .stored mailOnFirst, .refresh .stored unnamedOnSecond]

/-- The client is told that the workspace leaves a group that it has not entered. -/
theorem leaves_unentered_group :
    ¬∀ labels w, run World.step World.initial labels = some w →
      ∀ m ∈ w.state.instances, ∃ c group handle,
        ManagerClient.replay (toManager m w.sent) = some c ∧
        Sees w.layout (fun o => clientOutputs w.bindings o m.client) c.shown group handle := by
  intro h
  obtain ⟨w, hrun⟩ : ∃ w, run World.step World.initial unnameAndMove = some w := ⟨_, rfl⟩
  have hmanager : (run World.step World.initial unnameAndMove).any (fun w =>
      decide (⟨⟨0⟩, 0⟩ ∈ w.state.instances) &&
        (ManagerClient.replay (toManager ⟨⟨0⟩, 0⟩ w.sent)).isNone) = true := by
    decide +kernel
  rw [hrun] at hmanager
  obtain ⟨hmem, hnone⟩ := Bool.and_eq_true_iff.mp hmanager
  obtain ⟨c, -, -, hreplay, -⟩ := h _ w hrun _ (of_decide_eq_true hmem)
  rw [hreplay] at hnone
  cases hnone

/-- The workspace has moved and kept its name. -/
def mailOnSecond : LayoutState where
  monitorSet := .normal [⟨⟨0⟩, [⟨2, none, false⟩], 0⟩,
    ⟨⟨1⟩, [⟨1, some "mail", false⟩, ⟨3, none, false⟩], 0⟩]
  sortedOutputs := [⟨0⟩, ⟨1⟩]
  outputs_perm := List.Perm.refl _
  outputs_nodup := by decide
  ids_nodup := by decide

def moveThenUnname : List Label :=
  [.bind .stored ⟨0⟩, .refresh .stored mailOnFirst, .refresh .stored mailOnSecond,
    .refresh .stored unnamedOnSecond]

instance decidableRenamedAcross (old new : LayoutState) : Decidable (RenamedAcross old new) :=
  inferInstanceAs (Decidable (∃ a ∈ old.workspaces, ∃ b ∈ new.workspaces, _ ∧ _))

instance decidableIndexWrapped (old new : LayoutState) : Decidable (IndexWrapped old new) :=
  inferInstanceAs (Decidable (∃ a ∈ old.workspaces, ∃ b ∈ new.workspaces, _ ∧ _))

theorem moveThenUnname_separate :
    StepsMeet World.step World.Separate World.initial moveThenUnname := by
  have h₁ : ¬RenamedAcross .empty mailOnFirst ∧ ¬IndexWrapped .empty mailOnFirst := by decide
  have h₂ : ¬RenamedAcross mailOnFirst mailOnSecond ∧ ¬IndexWrapped mailOnFirst mailOnSecond := by
    decide
  have h₃ : ¬RenamedAcross mailOnSecond unnamedOnSecond ∧
      ¬IndexWrapped mailOnSecond unnamedOnSecond := by decide
  refine ⟨trivial, fun w hw => ?_⟩
  obtain rfl := Option.some.inj hw
  refine ⟨⟨Or.inr h₁.1, h₁.2⟩, fun w hw => ?_⟩
  obtain rfl := Option.some.inj hw
  refine ⟨⟨Or.inr h₂.1, h₂.2⟩, fun w hw => ?_⟩
  obtain rfl := Option.some.inj hw
  exact ⟨⟨Or.inr h₃.1, h₃.2⟩, fun _ _ => trivial⟩

/-- The workspace is moved first and loses its name later. -/
theorem moved_then_unnamed :
    ∃ w, run World.step World.initial moveThenUnname = some w ∧
      StepsMeet World.step World.Separate World.initial moveThenUnname ∧
      ∃ m ∈ w.state.instances, ∃ c group handle,
        ManagerClient.replay (toManager m w.sent) = some c ∧
        Sees w.layout (fun o => clientOutputs w.bindings o m.client) c.shown group handle := by
  obtain ⟨w, hrun⟩ : ∃ w, run World.step World.initial moveThenUnname = some w := ⟨_, rfl⟩
  have hmanager : (run World.step World.initial moveThenUnname).any (fun w =>
      decide (⟨⟨0⟩, 0⟩ ∈ w.state.instances)) = true := by decide +kernel
  rw [hrun] at hmanager
  have hmem := of_decide_eq_true hmanager
  exact ⟨w, hrun, moveThenUnname_separate, _, hmem,
    clients_see_workspaces hrun moveThenUnname_separate _ hmem⟩

end Cidre.Protocols
