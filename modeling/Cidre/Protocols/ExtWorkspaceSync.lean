/-
  Cidre.Protocols.ExtWorkspaceSync

  What each part of a refresh does to one client.

  A manager has one object for every group and every workspace that is tracked,
  so the records of the compositor give the groups and workspaces of each client
  (`groupsOf`, `workspacesOf`), and the events that are sent to it are those of
  one object instead of a loop over all of them.  `Follows` says that the events
  take the client of each manager from the records before to those after.
-/

import Cidre.Protocols.ExtWorkspaceClient

namespace Cidre.Protocols

open Cidre.Run

/-! ## The events of one manager -/

def toManager (m : Manager) (events : List Event) : List Event :=
  events.filter fun e => e.manager = m

@[simp] theorem toManager_nil (m : Manager) : toManager m [] = [] := rfl

@[simp] theorem toManager_append (m : Manager) (events events' : List Event) :
    toManager m (events ++ events') = toManager m events ++ toManager m events' :=
  List.filter_append events events'

theorem toManager_eq_self {m : Manager} {events : List Event} (h : ∀ e ∈ events, e.manager = m) :
    toManager m events = events := by
  rw [toManager, List.filter_eq_self]
  intro e he
  simpa using h e he

theorem toManager_eq_nil {m : Manager} {events : List Event} (h : ∀ e ∈ events, e.manager ≠ m) :
    toManager m events = [] := by
  rw [toManager, List.filter_eq_nil_iff]
  intro e he
  simpa using h e he

/-- Of a loop over the instances the client of a manager sees its own. -/
theorem toManager_flatMap {m : Manager} {instances : List Handle}
    (hnodup : (instances.map Handle.manager).Nodup) {f : Handle → List Event}
    (hf : ∀ h, ∀ e ∈ f h, e.manager = h.manager) :
    toManager m (instances.flatMap f) = (handleOf m instances).toList.flatMap f := by
  rw [← filter_manager_eq hnodup m]
  exact filter_flatMap_key hf instances m

theorem manager_of_handleOf {m : Manager} {instances : List Handle} {h : Handle}
    (hh : handleOf m instances = some h) : h.manager = m := by
  simpa using List.find?_some hh

theorem mem_of_handleOf {m : Manager} {instances : List Handle} {h : Handle}
    (hh : handleOf m instances = some h) : h ∈ instances :=
  List.mem_of_find?_eq_some hh

theorem exists_handleOf {m : Manager} {instances : List Handle} {managers : List Manager}
    (hperm : (instances.map Handle.manager).Perm managers) (hm : m ∈ managers) :
    ∃ h, handleOf m instances = some h := by
  obtain ⟨a, ha, ham⟩ := List.mem_map.mp (hperm.mem_iff.mpr hm)
  have hsome : (handleOf m instances).isSome = true :=
    List.find?_isSome.mpr ⟨a, ha, by simpa using ham⟩
  exact Option.isSome_iff_exists.mp hsome

/-! ## The objects of one manager -/

def ExtWorkspaceGroupData.openFor (m : Manager) (data : ExtWorkspaceGroupData) :
    Option OpenGroup :=
  (handleOf m data.instances).map fun h => ⟨data.output, h⟩

def ExtWorkspaceData.openFor (m : Manager) (data : ExtWorkspaceData) : Option OpenWorkspace :=
  (handleOf m data.instances).map fun h => ⟨data.view, h, data.output⟩

def groupsOf (m : Manager) (groups : List ExtWorkspaceGroupData) : List OpenGroup :=
  groups.filterMap (ExtWorkspaceGroupData.openFor m)

def workspacesOf (m : Manager) (workspaces : List ExtWorkspaceData) : List OpenWorkspace :=
  workspaces.filterMap (ExtWorkspaceData.openFor m)

/-- Every manager has one object for everything that is tracked. -/
structure ExtWorkspaceManagerState.Valid (s : ExtWorkspaceManagerState) : Prop where
  instances_nodup : s.instances.Nodup
  group_instances : ∀ g ∈ s.workspaceGroups, (g.instances.map Handle.manager).Perm s.instances
  workspace_instances : ∀ d ∈ s.workspaces, (d.instances.map Handle.manager).Perm s.instances
  outputs_nodup : (s.workspaceGroups.map ExtWorkspaceGroupData.output).Nodup
  ids_nodup : (s.workspaces.map ExtWorkspaceData.workspace).Nodup
  manager_lt : ∀ m ∈ s.instances, m.serial < s.serial
  group_lt : ∀ g ∈ s.workspaceGroups, ∀ h ∈ g.instances, h.serial < s.serial
  workspace_lt : ∀ d ∈ s.workspaces, ∀ h ∈ d.instances, h.serial < s.serial

variable {s s' s'' : ExtWorkspaceManagerState} {m : Manager}

namespace ExtWorkspaceManagerState.Valid

theorem exists_openGroup (hs : s.Valid) (hm : m ∈ s.instances) {data : ExtWorkspaceGroupData}
    (hd : data ∈ s.workspaceGroups) :
    ∃ h, handleOf m data.instances = some h ∧ data.openFor m = some ⟨data.output, h⟩ := by
  obtain ⟨h, hh⟩ := exists_handleOf (hs.group_instances data hd) hm
  exact ⟨h, hh, by rw [ExtWorkspaceGroupData.openFor, hh]; rfl⟩

theorem exists_openWorkspace (hs : s.Valid) (hm : m ∈ s.instances) {data : ExtWorkspaceData}
    (hd : data ∈ s.workspaces) :
    ∃ h, handleOf m data.instances = some h ∧
      data.openFor m = some ⟨data.view, h, data.output⟩ := by
  obtain ⟨h, hh⟩ := exists_handleOf (hs.workspace_instances data hd) hm
  exact ⟨h, hh, by rw [ExtWorkspaceData.openFor, hh]; rfl⟩

theorem group_nodup (hs : s.Valid) {data : ExtWorkspaceGroupData}
    (hd : data ∈ s.workspaceGroups) : (data.instances.map Handle.manager).Nodup :=
  (hs.group_instances data hd).nodup_iff.mpr hs.instances_nodup

theorem workspace_nodup (hs : s.Valid) {data : ExtWorkspaceData}
    (hd : data ∈ s.workspaces) : (data.instances.map Handle.manager).Nodup :=
  (hs.workspace_instances data hd).nodup_iff.mpr hs.instances_nodup

/-- The group of an output, for the compositor and for the client. -/
theorem find_groupsOf (hs : s.Valid) (hm : m ∈ s.instances) (output : Option Output) :
    (groupsOf m s.workspaceGroups).find? (fun g => some g.output = output) =
      (s.workspaceGroups.find? fun g => some g.output = output).bind
        (ExtWorkspaceGroupData.openFor m) := by
  have hopen : ∀ data ∈ s.workspaceGroups, ∃ h, data.openFor m = some ⟨data.output, h⟩ := by
    intro data hd
    obtain ⟨h, -, hopen⟩ := hs.exists_openGroup hm hd
    exact ⟨h, hopen⟩
  unfold groupsOf
  generalize s.workspaceGroups = groups at hopen
  induction groups with
  | nil => rfl
  | cons data groups ih =>
    obtain ⟨h, hd⟩ := hopen data List.mem_cons_self
    rw [List.filterMap_cons_some hd, List.find?_cons, List.find?_cons]
    by_cases heq : some data.output = output
    · simp [heq, hd]
    · simpa [heq] using ih fun d hd => hopen d (List.mem_cons_of_mem _ hd)

end ExtWorkspaceManagerState.Valid

/-! ## What the client of a manager is sent -/

/-- `workspace_enter` or `workspace_leave`. -/
def crossingEvent (enter : Bool) (group handle : Handle) : Event :=
  if enter then .workspaceEnter group handle else .workspaceLeave group handle

theorem crossingEvent_manager (enter : Bool) (group handle : Handle) :
    (crossingEvent enter group handle).manager = group.manager := by
  cases enter <;> rfl

theorem toManager_sendWorkspaceEnterLeave (hs : s.Valid) (hm : m ∈ s.instances)
    {data : ExtWorkspaceData} (hnodup : (data.instances.map Handle.manager).Nodup)
    {w : OpenWorkspace} (hw : data.openFor m = some w) (enter : Bool) :
    toManager m (sendWorkspaceEnterLeave s.workspaceGroups data enter) =
      crossing (crossingEvent enter) (groupsOf m s.workspaceGroups) w := by
  obtain ⟨h, hh, rfl⟩ := Option.map_eq_some_iff.mp hw
  rw [crossing, hs.find_groupsOf hm, sendWorkspaceEnterLeave]
  cases hfind : s.workspaceGroups.find? fun g => some g.output = data.output with
  | none => simp
  | some groupData =>
    have hmem := List.mem_of_find?_eq_some hfind
    obtain ⟨hg, hhg, hopen⟩ := hs.exists_openGroup hm hmem
    rw [Option.bind_some, hopen]
    show toManager m (groupData.instances.flatMap fun group =>
      (data.instances.filter fun workspace => workspace.manager = group.manager).map
        (crossingEvent enter group)) = _
    rw [toManager_flatMap (hs.group_nodup hmem) (fun group e he => ?_), hhg]
    · have hmanager := manager_of_handleOf hhg
      simp only [Option.toList_some, List.flatMap_cons, List.flatMap_nil, List.append_nil,
        hmanager, filter_manager_eq hnodup, hh, List.map_cons, List.map_nil, Option.map_some]
    · obtain ⟨workspace, -, rfl⟩ := List.mem_map.mp he
      exact crossingEvent_manager enter group workspace

theorem manager_of_mem_addInstance {data : ExtWorkspaceData} {h : Handle} {e : Event}
    (he : e ∈ data.addInstance h) : e.manager = h.manager := by
  simp only [ExtWorkspaceData.addInstance, List.mem_append, List.mem_cons, Option.mem_toList,
    Option.map_eq_some_iff, List.not_mem_nil, or_false] at he
  obtain (rfl | ⟨id, -, rfl⟩) | rfl | rfl | rfl | rfl := he <;> rfl

theorem manager_of_mem_addGroupInstance {bindings : List Binding} {data : ExtWorkspaceGroupData}
    {h : Handle} {e : Event} (he : e ∈ data.addInstance bindings h) : e.manager = h.manager := by
  simp only [ExtWorkspaceGroupData.addInstance, List.mem_append, List.mem_cons, List.mem_map,
    List.not_mem_nil, or_false] at he
  obtain (rfl | rfl) | ⟨o, -, rfl⟩ := he <;> rfl

theorem toManager_removed {instances : List Handle}
    (hnodup : (instances.map Handle.manager).Nodup) {h : Handle}
    (hh : handleOf m instances = some h) :
    toManager m (instances.map Event.removed) = [.removed h] := by
  rw [← List.flatMap_pure_eq_map]
  show toManager m (instances.flatMap fun h => [Event.removed h]) = _
  rw [toManager_flatMap hnodup (fun h e he => ?_), hh]
  · rfl
  · obtain rfl := List.mem_singleton.mp he
    rfl

/-- The workspaces on an output, with the objects of one manager. -/
theorem flatMap_filter_eq {workspaces : List ExtWorkspaceData}
    (hnodup : ∀ d ∈ workspaces, (d.instances.map Handle.manager).Nodup) (output : Output)
    (f : Handle → Event) :
    ((workspaces.filter fun ws => ws.output = some output).flatMap fun ws =>
        (ws.instances.filter fun workspace => workspace.manager = m).map f) =
      ((workspacesOf m workspaces).filter fun w => w.output = some output).map fun w =>
        f w.handle := by
  induction workspaces with
  | nil => rfl
  | cons d workspaces ih =>
    have ih := ih fun d hd => hnodup d (List.mem_cons_of_mem _ hd)
    have hd := filter_manager_eq (hnodup d List.mem_cons_self) m
    unfold workspacesOf at ih ⊢
    cases hh : handleOf m d.instances with
    | none =>
      rw [hh] at hd
      have hopen : d.openFor m = none := by rw [ExtWorkspaceData.openFor, hh]; rfl
      rw [List.filterMap_cons_none hopen, ← ih, List.filter_cons]
      split
      · rw [List.flatMap_cons, hd]
        rfl
      · rfl
    | some h =>
      rw [hh] at hd
      have hopen : d.openFor m = some ⟨d.view, h, d.output⟩ := by
        rw [ExtWorkspaceData.openFor, hh]
        rfl
      rw [List.filterMap_cons_some hopen, List.filter_cons, List.filter_cons]
      by_cases ho : d.output = some output
      · simp only [ho, decide_true, if_true]
        rw [List.flatMap_cons, hd, List.map_cons, ← ih]
        rfl
      · simp only [ho, decide_false, Bool.false_eq_true, if_false]
        exact ih

theorem manager_of_mem_removeGroup {workspaces : List ExtWorkspaceData} {group : Handle} {e : Event}
    (he : e ∈ (workspaces.flatMap fun ws =>
      (ws.instances.filter fun workspace => workspace.manager = group.manager).map
        (Event.workspaceLeave group)) ++ [.groupRemoved group]) : e.manager = group.manager := by
  rcases List.mem_append.mp he with he | he
  · obtain ⟨ws, -, he⟩ := List.mem_flatMap.mp he
    obtain ⟨workspace, -, rfl⟩ := List.mem_map.mp he
    rfl
  · obtain rfl := List.mem_singleton.mp he
    rfl

theorem toManager_removeGroup (hs : s.Valid) (order : HashOrder) {data : ExtWorkspaceGroupData}
    (hnodup : (data.instances.map Handle.manager).Nodup) {h : Handle}
    (hh : handleOf m data.instances = some h) :
    toManager m (s.removeGroup order data) =
      (((workspacesOf m (order.list s.workspaces)).filter fun w =>
        w.output = some data.output).map fun w => .workspaceLeave h w.handle) ++
      [.groupRemoved h] := by
  have hmanager := manager_of_handleOf hh
  have hall : ∀ d ∈ order.list s.workspaces, (d.instances.map Handle.manager).Nodup :=
    fun d hd => hs.workspace_nodup (order.mem_list.mp hd)
  rw [ExtWorkspaceManagerState.removeGroup,
    toManager_flatMap hnodup fun _ _ => manager_of_mem_removeGroup, hh, Option.toList_some,
    List.flatMap_cons, List.flatMap_nil, List.append_nil, hmanager, flatMap_filter_eq hall]

/-! ## Following the records -/

/-- The client of this manager sees what the records say. -/
def Synced (bindings : List Binding) (s : ExtWorkspaceManagerState) (m : Manager) (v : View) :
    Prop :=
  Shows (fun output => clientOutputs bindings output m.client) (groupsOf m s.workspaceGroups)
    (workspacesOf m s.workspaces) v

/-- The events take every client from the records of `s` to those of `s'`. -/
structure Follows (bindings : List Binding) (s s' : ExtWorkspaceManagerState)
    (events : List Event) : Prop where
  valid : s'.Valid
  instances_eq : s'.instances = s.instances
  serial_le : s.serial ≤ s'.serial
  addressed : ∀ e ∈ events, e.manager ∈ s.instances
  view : ∀ m ∈ s.instances, ∀ v, Synced bindings s m v →
    ∃ v', run View.apply v (toManager m events) = some v' ∧ Synced bindings s' m v'

variable {bindings : List Binding} {events events' : List Event}

theorem Follows.refl (hs : s.Valid) : Follows bindings s s [] :=
  ⟨hs, rfl, Nat.le_refl _, fun _ he => absurd he List.not_mem_nil, fun _ _ v hv => ⟨v, rfl, hv⟩⟩

theorem Follows.trans (h : Follows bindings s s' events) (h' : Follows bindings s' s'' events') :
    Follows bindings s s'' (events ++ events') := by
  refine ⟨h'.valid, h'.instances_eq.trans h.instances_eq, h.serial_le.trans h'.serial_le,
    fun e he => ?_, fun m hm v hv => ?_⟩
  · rcases List.mem_append.mp he with he | he
    · exact h.addressed e he
    · exact h.instances_eq ▸ h'.addressed e he
  obtain ⟨v₁, hrun₁, hv₁⟩ := h.view m hm v hv
  obtain ⟨v₂, hrun₂, hv₂⟩ := h'.view m (h.instances_eq ▸ hm) v₁ hv₁
  exact ⟨v₂, by rw [toManager_append, run_append_of_eq hrun₁, hrun₂], hv₂⟩

namespace ExtWorkspaceManagerState.Valid

theorem withWorkspaces (hs : s.Valid) {l : List ExtWorkspaceData}
    (hids : (l.map ExtWorkspaceData.workspace).Nodup)
    (hl : ∀ d ∈ l, (d.instances.map Handle.manager).Perm s.instances ∧
      ∀ h ∈ d.instances, h.serial < s.serial) :
    ({ s with workspaces := l } : ExtWorkspaceManagerState).Valid :=
  { hs with
    workspace_instances := fun d hd => (hl d hd).1
    ids_nodup := hids
    workspace_lt := fun d hd => (hl d hd).2 }

theorem workspace_ok (hs : s.Valid) {d : ExtWorkspaceData} (hd : d ∈ s.workspaces) :
    (d.instances.map Handle.manager).Perm s.instances ∧ ∀ h ∈ d.instances, h.serial < s.serial :=
  ⟨hs.workspace_instances d hd, hs.workspace_lt d hd⟩

theorem withGroups (hs : s.Valid) {l : List ExtWorkspaceGroupData}
    (houts : (l.map ExtWorkspaceGroupData.output).Nodup)
    (hl : ∀ g ∈ l, (g.instances.map Handle.manager).Perm s.instances ∧
      ∀ h ∈ g.instances, h.serial < s.serial) :
    ({ s with workspaceGroups := l } : ExtWorkspaceManagerState).Valid :=
  { hs with
    group_instances := fun g hg => (hl g hg).1
    outputs_nodup := houts
    group_lt := fun g hg => (hl g hg).2 }

theorem group_ok (hs : s.Valid) {g : ExtWorkspaceGroupData} (hg : g ∈ s.workspaceGroups) :
    (g.instances.map Handle.manager).Perm s.instances ∧ ∀ h ∈ g.instances, h.serial < s.serial :=
  ⟨hs.group_instances g hg, hs.group_lt g hg⟩

end ExtWorkspaceManagerState.Valid

/-- The order of the records does not matter. -/
theorem follows_perm (hs : s.Valid) {groups : List ExtWorkspaceGroupData}
    {workspaces : List ExtWorkspaceData} (hg : s.workspaceGroups.Perm groups)
    (hw : s.workspaces.Perm workspaces) :
    Follows bindings s { s with workspaceGroups := groups, workspaces := workspaces } [] := by
  refine ⟨?_, rfl, Nat.le_refl _, fun _ he => absurd he List.not_mem_nil,
    fun m hm v hv => ⟨v, rfl, ?_⟩⟩
  · have hgroups := hs.withGroups (l := groups)
      ((hg.map ExtWorkspaceGroupData.output).nodup hs.outputs_nodup) fun g hg' =>
        hs.group_ok (hg.mem_iff.mpr hg')
    exact hgroups.withWorkspaces ((hw.map ExtWorkspaceData.workspace).nodup hs.ids_nodup)
      fun d hd => hs.workspace_ok (hw.mem_iff.mpr hd)
  · exact Shows.perm hv (hg.filterMap _) (hw.filterMap _)

theorem workspacesOf_cons {d : ExtWorkspaceData} {w : OpenWorkspace} (hd : d.openFor m = some w)
    (l : List ExtWorkspaceData) : workspacesOf m (d :: l) = w :: workspacesOf m l :=
  List.filterMap_cons_some hd

theorem groupsOf_cons {d : ExtWorkspaceGroupData} {g : OpenGroup} (hd : d.openFor m = some g)
    (l : List ExtWorkspaceGroupData) : groupsOf m (d :: l) = g :: groupsOf m l :=
  List.filterMap_cons_some hd

/-! ## Only managers are sent events -/

theorem addressed_flatMap {managers : List Manager} {instances : List Handle}
    (hperm : (instances.map Handle.manager).Perm managers) {f : Handle → List Event}
    (hf : ∀ h, ∀ e ∈ f h, e.manager = h.manager) :
    ∀ e ∈ instances.flatMap f, e.manager ∈ managers := by
  intro e he
  obtain ⟨h, hh, he⟩ := List.mem_flatMap.mp he
  rw [hf h e he]
  exact hperm.mem_iff.mp (List.mem_map_of_mem hh)

theorem addressed_sendWorkspaceEnterLeave (hs : s.Valid) (data : ExtWorkspaceData) (enter : Bool) :
    ∀ e ∈ sendWorkspaceEnterLeave s.workspaceGroups data enter, e.manager ∈ s.instances := by
  intro e he
  unfold sendWorkspaceEnterLeave at he
  cases hfind : s.workspaceGroups.find? fun g => some g.output = data.output with
  | none =>
    rw [hfind] at he
    exact absurd he List.not_mem_nil
  | some groupData =>
    rw [hfind] at he
    refine addressed_flatMap (hs.group_instances _ (List.mem_of_find?_eq_some hfind)) ?_ e he
    intro group e he
    obtain ⟨workspace, -, rfl⟩ := List.mem_map.mp he
    exact crossingEvent_manager enter group workspace

theorem addressed_removeWorkspaceInstances (hs : s.Valid) {data : ExtWorkspaceData}
    (hperm : (data.instances.map Handle.manager).Perm s.instances) :
    ∀ e ∈ removeWorkspaceInstances s.workspaceGroups data, e.manager ∈ s.instances := by
  intro e he
  rcases List.mem_append.mp he with he | he
  · exact addressed_sendWorkspaceEnterLeave hs data false e he
  · obtain ⟨h, hh, rfl⟩ := List.mem_map.mp he
    exact hperm.mem_iff.mp (List.mem_map_of_mem hh)

/-! ## Workspaces and groups that are gone -/

theorem follows_removeWorkspace (hs : s.Valid) {d : ExtWorkspaceData}
    {rest : List ExtWorkspaceData} (heq : s.workspaces = d :: rest) :
    Follows bindings s { s with workspaces := rest }
      (removeWorkspaceInstances s.workspaceGroups d) := by
  have hd : d ∈ s.workspaces := heq ▸ List.mem_cons_self
  have hids := hs.ids_nodup
  rw [heq, List.map_cons, List.nodup_cons] at hids
  refine ⟨hs.withWorkspaces hids.2 fun d' hd' => hs.workspace_ok (heq ▸ List.mem_cons_of_mem _ hd'),
    rfl, Nat.le_refl _, addressed_removeWorkspaceInstances hs (hs.workspace_instances d hd),
    fun m hm v hv => ?_⟩
  obtain ⟨h, hh, hopen⟩ := hs.exists_openWorkspace hm hd
  unfold Synced at hv ⊢
  rw [heq, workspacesOf_cons hopen] at hv
  obtain ⟨v₁, hrun₁, h₁⟩ := hv.leave
  obtain ⟨v₂, hrun₂, h₂⟩ := h₁.removed rfl
  refine ⟨v₂, ?_, h₂⟩
  have hcross := toManager_sendWorkspaceEnterLeave hs hm (hs.workspace_nodup hd) hopen false
  rw [removeWorkspaceInstances, toManager_append, hcross, toManager_removed (hs.workspace_nodup hd) hh]
  exact (run_append_of_eq hrun₁ _).trans hrun₂

theorem follows_removeWorkspaces (dropped : List ExtWorkspaceData) {kept : List ExtWorkspaceData}
    (hs : s.Valid) (heq : s.workspaces = dropped ++ kept) :
    Follows bindings s { s with workspaces := kept }
      (dropped.flatMap (removeWorkspaceInstances s.workspaceGroups)) := by
  induction dropped generalizing s with
  | nil =>
    obtain rfl : s.workspaces = kept := heq
    exact Follows.refl hs
  | cons d dropped ih =>
    have hfirst : Follows bindings s _ _ := follows_removeWorkspace hs heq
    exact hfirst.trans (ih hfirst.valid rfl)

theorem follows_dropWorkspaces (hs : s.Valid) (order : HashOrder) (seen : List U64) :
    Follows bindings s (s.dropWorkspaces order seen).state
      (s.dropWorkspaces order seen).events := by
  have hperm := order.perm_filter (fun data => data.workspace ∈ seen) s.workspaces
  have hfirst : Follows bindings s _ _ := follows_perm hs (List.Perm.refl _) hperm
  exact hfirst.trans (follows_removeWorkspaces _ hfirst.valid rfl)

theorem follows_removeGroup (hs : s.Valid) (order : HashOrder) {g : ExtWorkspaceGroupData}
    {rest : List ExtWorkspaceGroupData} (heq : s.workspaceGroups = g :: rest) :
    Follows bindings s { s with workspaceGroups := rest } (s.removeGroup order g) := by
  have hg : g ∈ s.workspaceGroups := heq ▸ List.mem_cons_self
  have houts := hs.outputs_nodup
  rw [heq, List.map_cons, List.nodup_cons] at houts
  refine ⟨hs.withGroups houts.2 fun g' hg' => hs.group_ok (heq ▸ List.mem_cons_of_mem _ hg'),
    rfl, Nat.le_refl _, addressed_flatMap (hs.group_instances g hg) fun _ _ => manager_of_mem_removeGroup,
    fun m hm v hv => ?_⟩
  obtain ⟨h, hh, hopen⟩ := hs.exists_openGroup hm hg
  unfold Synced at hv ⊢
  rw [heq, groupsOf_cons hopen] at hv
  have hperm : (workspacesOf m s.workspaces).Perm (workspacesOf m (order.list s.workspaces)) :=
    (order.perm s.workspaces).symm.filterMap _
  obtain ⟨v', hrun, h'⟩ := (hv.perm (List.Perm.refl _) hperm).removeGroup
  exact ⟨v', by rw [toManager_removeGroup hs order (hs.group_nodup hg) hh, hrun],
    h'.perm (List.Perm.refl _) hperm.symm⟩

theorem follows_removeGroups (order : HashOrder) (dropped : List ExtWorkspaceGroupData)
    {kept : List ExtWorkspaceGroupData} (hs : s.Valid) (heq : s.workspaceGroups = dropped ++ kept) :
    Follows bindings s { s with workspaceGroups := kept }
      (dropped.flatMap (s.removeGroup order)) := by
  induction dropped generalizing s with
  | nil =>
    obtain rfl : s.workspaceGroups = kept := heq
    exact Follows.refl hs
  | cons g dropped ih =>
    have hfirst : Follows bindings s _ _ := follows_removeGroup hs order heq
    exact hfirst.trans (ih hfirst.valid rfl)

theorem follows_dropGroups (hs : s.Valid) (order : HashOrder) (sortedOutputs : List Output) :
    Follows bindings s (s.dropGroups order sortedOutputs).state
      (s.dropGroups order sortedOutputs).events := by
  have hperm := order.perm_filter (fun data => data.output ∈ sortedOutputs) s.workspaceGroups
  have hfirst : Follows bindings s _ _ := follows_perm hs hperm (List.Perm.refl _)
  exact hfirst.trans (follows_removeGroups order _ hfirst.valid rfl)

/-! ## Workspaces that change -/

/-- A workspace is told of what is new about it. -/
theorem follows_describe (hs : s.Valid) {d : ExtWorkspaceData} (d' : ExtWorkspaceData)
    {rest : List ExtWorkspaceData} (heq : s.workspaces = d :: rest) (hworkspace : d'.workspace = d.workspace)
    (hinstances : d'.instances = d.instances) {f : Handle → List Event}
    (hf : ∀ h, ∀ e ∈ f h, e.manager = h.manager)
    (hrun : ∀ outputs gs ws h v, Shows outputs gs (⟨d.view, h, d.output⟩ :: ws) v →
      ∃ v', run View.apply v (f h) = some v' ∧
        Shows outputs gs (⟨d'.view, h, d'.output⟩ :: ws) v') :
    Follows bindings s { s with workspaces := d' :: rest } (d.instances.flatMap f) := by
  have hd : d ∈ s.workspaces := heq ▸ List.mem_cons_self
  have hids := hs.ids_nodup
  rw [heq, List.map_cons] at hids
  refine ⟨hs.withWorkspaces (by rw [List.map_cons, hworkspace]; exact hids) ?_, rfl, Nat.le_refl _,
    addressed_flatMap (hs.workspace_instances d hd) hf, fun m hm v hv => ?_⟩
  · intro d₁ hd₁
    rcases List.mem_cons.mp hd₁ with rfl | hd₁
    · rw [hinstances]
      exact hs.workspace_ok hd
    · exact hs.workspace_ok (heq ▸ List.mem_cons_of_mem _ hd₁)
  · obtain ⟨h, hh, hopen⟩ := hs.exists_openWorkspace hm hd
    have hopen' : d'.openFor m = some ⟨d'.view, h, d'.output⟩ := by
      rw [ExtWorkspaceData.openFor, hinstances, hh]
      rfl
    unfold Synced at hv ⊢
    rw [heq, workspacesOf_cons hopen] at hv
    rw [workspacesOf_cons hopen']
    obtain ⟨v', hrun, h'⟩ := hrun _ _ _ _ _ hv
    refine ⟨v', ?_, h'⟩
    rw [toManager_flatMap (hs.workspace_nodup hd) hf, hh, Option.toList_some, List.flatMap_cons,
      List.flatMap_nil, List.append_nil, hrun]

/-- A workspace leaves the group it was in and enters another one. -/
theorem follows_setOutput (hs : s.Valid) {d : ExtWorkspaceData} {rest : List ExtWorkspaceData}
    (heq : s.workspaces = d :: rest) (output : Option Output) :
    Follows bindings s { s with workspaces := { d with output } :: rest }
      (sendWorkspaceEnterLeave s.workspaceGroups d false ++
        sendWorkspaceEnterLeave s.workspaceGroups { d with output } true) := by
  have hd : d ∈ s.workspaces := heq ▸ List.mem_cons_self
  have hids := hs.ids_nodup
  rw [heq, List.map_cons] at hids
  refine ⟨hs.withWorkspaces hids ?_, rfl, Nat.le_refl _, fun e he => ?_, fun m hm v hv => ?_⟩
  · intro d₁ hd₁
    rcases List.mem_cons.mp hd₁ with rfl | hd₁
    · exact ⟨hs.workspace_instances d hd, hs.workspace_lt d hd⟩
    · exact hs.workspace_ok (heq ▸ List.mem_cons_of_mem _ hd₁)
  · rcases List.mem_append.mp he with he | he
    · exact addressed_sendWorkspaceEnterLeave hs _ _ e he
    · exact addressed_sendWorkspaceEnterLeave hs _ _ e he
  · obtain ⟨h, hh, hopen⟩ := hs.exists_openWorkspace hm hd
    have hopen' : ({ d with output } : ExtWorkspaceData).openFor m =
        some ⟨d.view, h, output⟩ := by
      rw [ExtWorkspaceData.openFor, hh]
      rfl
    unfold Synced at hv ⊢
    rw [heq, workspacesOf_cons hopen] at hv
    rw [workspacesOf_cons hopen']
    obtain ⟨v₁, hrun₁, h₁⟩ := hv.leave
    obtain ⟨v₂, hrun₂, h₂⟩ := Shows.enter (w := ⟨d.view, h, output⟩) h₁
    refine ⟨v₂, ?_, h₂⟩
    have hleave := toManager_sendWorkspaceEnterLeave hs hm (hs.workspace_nodup hd) hopen false
    have hnodup : (({ d with output } : ExtWorkspaceData).instances.map Handle.manager).Nodup :=
      show (d.instances.map Handle.manager).Nodup from hs.workspace_nodup hd
    have henter := toManager_sendWorkspaceEnterLeave hs hm hnodup hopen' true
    rw [toManager_append, hleave, henter]
    exact (run_append_of_eq hrun₁ _).trans hrun₂

/-- A workspace that was not tracked gets its objects. -/
theorem follows_create (hs : s.Valid) (order : HashOrder) {data : ExtWorkspaceData}
    (hnew : ∀ d ∈ s.workspaces, d.workspace ≠ data.workspace) :
    Follows bindings s (s.createInstances order data).1 (s.createInstances order data).2 := by
  have hfilter : s.workspaces.filter (fun d => d.workspace ≠ data.workspace) = s.workspaces := by
    rw [List.filter_eq_self]
    intro d hd
    simpa using hnew d hd
  have hmanagers := order.perm s.instances
  generalize hdata : ({ data with instances := newHandles s.serial (order.list s.instances) } :
    ExtWorkspaceData) = data'
  have hinstances : data'.instances = newHandles s.serial (order.list s.instances) := by
    rw [← hdata]
  have hperm : (data'.instances.map Handle.manager).Perm s.instances := by
    rw [hinstances, map_manager_newHandles]
    exact hmanagers
  have hstate : (s.createInstances order data).1 = { s with
      workspaces := data' :: s.workspaces
      serial := s.serial + (order.list s.instances).length } := by
    rw [← hdata]
    show { s with
      workspaces := _ :: s.workspaces.filter fun d => d.workspace ≠ data.workspace
      serial := _ } = _
    rw [hfilter]
  have hevents : (s.createInstances order data).2 = data'.instances.flatMap data'.addInstance ++
      sendWorkspaceEnterLeave s.workspaceGroups data' true := by
    rw [← hdata]
    rfl
  have hle : s.serial ≤ s.serial + (order.list s.instances).length := Nat.le_add_right _ _
  rw [hstate, hevents]
  refine ⟨⟨hs.instances_nodup, hs.group_instances, ?_, hs.outputs_nodup, ?_, ?_, ?_, ?_⟩, rfl,
    hle, fun e he => ?_, fun m hm v hv => ?_⟩
  · intro d hd
    rcases List.mem_cons.mp hd with rfl | hd
    · exact hperm
    · exact hs.workspace_instances d hd
  · rw [List.map_cons, List.nodup_cons]
    refine ⟨fun hmem => ?_, hs.ids_nodup⟩
    obtain ⟨d, hd, heq⟩ := List.mem_map.mp hmem
    exact hnew d hd (heq.trans (by rw [← hdata]))
  · exact fun m hm => (hs.manager_lt m hm).trans_le hle
  · exact fun g hg h hh => (hs.group_lt g hg h hh).trans_le hle
  · intro d hd h hh
    rcases List.mem_cons.mp hd with rfl | hd
    · rw [hinstances] at hh
      exact (serial_of_mem_newHandles hh).2
    · exact (hs.workspace_lt d hd h hh).trans_le hle
  · rcases List.mem_append.mp he with he | he
    · exact addressed_flatMap hperm (fun _ _ he => manager_of_mem_addInstance he) e he
    · exact addressed_sendWorkspaceEnterLeave hs _ _ e he
  · obtain ⟨h, hh⟩ := exists_handleOf hperm hm
    have hopen : data'.openFor m = some ⟨data'.view, h, data'.output⟩ := by
      rw [ExtWorkspaceData.openFor, hh]
      rfl
    have hnodup : (data'.instances.map Handle.manager).Nodup :=
      hperm.nodup_iff.mpr hs.instances_nodup
    have hfresh : ∀ w ∈ workspacesOf m s.workspaces, w.handle ≠ h := by
      rintro w hw rfl
      obtain ⟨d, hd, hdw⟩ := List.mem_filterMap.mp hw
      obtain ⟨h', hh', rfl⟩ := Option.map_eq_some_iff.mp hdw
      have hlt := hs.workspace_lt d hd h' (mem_of_handleOf hh')
      have hge := (serial_of_mem_newHandles (hinstances ▸ mem_of_handleOf hh)).1
      exact absurd hlt (Nat.not_lt.mpr hge)
    unfold Synced at hv ⊢
    rw [workspacesOf_cons hopen]
    obtain ⟨v₁, hrun₁, h₁⟩ := hv.addInstance data' hfresh
    obtain ⟨v₂, hrun₂, h₂⟩ := Shows.enter (w := ⟨data'.view, h, data'.output⟩) h₁
    refine ⟨v₂, ?_, h₂⟩
    have henter := toManager_sendWorkspaceEnterLeave hs hm hnodup hopen true
    rw [toManager_append, henter,
      toManager_flatMap hnodup fun _ _ he => manager_of_mem_addInstance he, hh, Option.toList_some,
      List.flatMap_cons, List.flatMap_nil, List.append_nil]
    exact (run_append_of_eq hrun₁ _).trans hrun₂

end Cidre.Protocols
