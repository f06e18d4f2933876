/-
  Cidre.Protocols.ExtWorkspaceRefresh

  The refresh of one workspace and of one group.

  A workspace whose name was set and has changed is destroyed and created anew.
  The events that destroy it are read off a record that has its new output
  already, so they are the right ones only if it stayed where it was, or its new
  output has no group yet.
-/

import Cidre.Protocols.ExtWorkspaceSync

namespace Cidre.Protocols

open Cidre.Run

variable {s s' : ExtWorkspaceManagerState} {m : Manager} {bindings : List Binding}
  {events events' : List Event}

/-! ## Refresh of one workspace -/

/-- Where a record differs from another only in what is told of it, the events
    that tell it. -/
theorem Shows.describe {outputs : Output → List WlOutput} {gs : List OpenGroup}
    {ws : List OpenWorkspace} {v : View} {d d' : ExtWorkspaceData} {h : Handle}
    {idSet nameChanged coordinatesChanged stateChanged : Bool}
    (hshows : Shows outputs gs (⟨d.view, h, d.output⟩ :: ws) v)
    (hid : if idSet then d.id = none ∧ d'.id ≠ none else d.id = d'.id)
    (hname : nameChanged = false → d.name = d'.name)
    (hcoordinates : coordinatesChanged = false → d.coordinates = d'.coordinates)
    (hstate : stateChanged = false → d.state = d'.state) (houtput : d.output = d'.output) :
    ∃ v', run View.apply v
        ((if idSet then (d'.id.map (Event.id h)).toList else []) ++
          (if nameChanged then [.name h d'.name] else []) ++
          (if coordinatesChanged then [.coordinates h d'.coordinates] else []) ++
          (if stateChanged then [.state h d'.state] else [])) = some v' ∧
      Shows outputs gs (⟨d'.view, h, d'.output⟩ :: ws) v' := by
  have h₁ : ∃ v₁, run View.apply v (if idSet then (d'.id.map (Event.id h)).toList else []) =
      some v₁ ∧ Shows outputs gs (⟨{ d.view with id := d'.id }, h, d.output⟩ :: ws) v₁ := by
    cases idSet with
    | false =>
      have hid : d.id = d'.id := hid
      exact ⟨v, rfl, hid ▸ hshows⟩
    | true =>
      obtain ⟨hnone, hsome⟩ : d.id = none ∧ d'.id ≠ none := hid
      obtain ⟨id, hid'⟩ := Option.ne_none_iff_exists'.mp hsome
      rw [hid']
      exact hshows.run_id hnone id
  obtain ⟨v₁, hrun₁, h₁⟩ := h₁
  have h₂ : ∃ v₂, run View.apply v₁ (if nameChanged then [.name h d'.name] else []) = some v₂ ∧
      Shows outputs gs
        (⟨{ d.view with id := d'.id, name := some d'.name }, h, d.output⟩ :: ws) v₂ := by
    cases nameChanged with
    | false => exact ⟨v₁, rfl, hname rfl ▸ h₁⟩
    | true => exact h₁.run_change (e := .name h d'.name) rfl
  obtain ⟨v₂, hrun₂, h₂⟩ := h₂
  have h₃ : ∃ v₃, run View.apply v₂
      (if coordinatesChanged then [.coordinates h d'.coordinates] else []) = some v₃ ∧
      Shows outputs gs (⟨⟨d'.id, some d'.name, some d'.coordinates, some d.state⟩, h, d.output⟩ ::
        ws) v₃ := by
    cases coordinatesChanged with
    | false => exact ⟨v₂, rfl, hcoordinates rfl ▸ h₂⟩
    | true => exact h₂.run_change (e := .coordinates h d'.coordinates) rfl
  obtain ⟨v₃, hrun₃, h₃⟩ := h₃
  have h₄ : ∃ v₄, run View.apply v₃ (if stateChanged then [.state h d'.state] else []) = some v₄ ∧
      Shows outputs gs (⟨d'.view, h, d.output⟩ :: ws) v₄ := by
    cases stateChanged with
    | false =>
      rw [ExtWorkspaceData.view, ← hstate rfl]
      exact ⟨v₃, rfl, h₃⟩
    | true => exact h₃.run_change (e := .state h d'.state) rfl
  obtain ⟨v₄, hrun₄, h₄⟩ := h₄
  refine ⟨v₄, ?_, houtput ▸ h₄⟩
  rw [List.append_assoc, List.append_assoc, run_append_of_eq hrun₁, run_append_of_eq hrun₂,
    run_append_of_eq hrun₃, hrun₄]

/-- The record of a workspace is up to date. -/
structure ExtWorkspaceData.Is (data : ExtWorkspaceData) (at_ : Located) : Prop where
  workspace_eq : data.workspace = at_.workspace.id
  id_eq : data.id = at_.workspace.name
  name_eq : data.name = at_.buildName
  coordinates_eq : data.coordinates = at_.coordinates
  state_eq : data.state = at_.state
  output_eq : data.output = at_.output

theorem sendWorkspaceEnterLeave_of_no_group {groups : List ExtWorkspaceGroupData}
    {data : ExtWorkspaceData} (hnone : ∀ g ∈ groups, some g.output ≠ data.output) (enter : Bool) :
    sendWorkspaceEnterLeave groups data enter = [] := by
  have hfind : groups.find? (fun group => some group.output = data.output) = none := by
    rw [List.find?_eq_none]
    intro g hg
    simpa using hnone g hg
  rw [sendWorkspaceEnterLeave, hfind]

/-- The records without this workspace. -/
def ExtWorkspaceManagerState.without (s : ExtWorkspaceManagerState) (id : U64) :
    ExtWorkspaceManagerState :=
  { s with workspaces := s.workspaces.filter fun d => d.workspace ≠ id }

theorem createInstances_without (order : HashOrder) (s : ExtWorkspaceManagerState)
    (data : ExtWorkspaceData) :
    (s.without data.workspace).createInstances order data = s.createInstances order data := by
  have hfilter : (s.workspaces.filter fun d => d.workspace ≠ data.workspace).filter
      (fun d => d.workspace ≠ data.workspace) =
      s.workspaces.filter fun d => d.workspace ≠ data.workspace := by
    rw [List.filter_filter]
    exact List.filter_congr fun d _ => by simp
  unfold ExtWorkspaceManagerState.createInstances ExtWorkspaceManagerState.setWorkspace
    ExtWorkspaceManagerState.without
  simp only [hfilter]

theorem without_ne {id : U64} : ∀ d ∈ (s.without id).workspaces, d.workspace ≠ id := by
  intro d hd
  simpa using (List.mem_filter.mp hd).2

/-- The record of a workspace that is seen for the first time, or created anew. -/
def Located.newData (at_ : Located) : ExtWorkspaceData where
  workspace := at_.workspace.id
  id := at_.workspace.name
  name := at_.buildName
  coordinates := at_.coordinates
  state := at_.state
  instances := []
  output := at_.output

/-- The name of a workspace that keeps its objects can have changed: it got named,
    or has no name and another index. -/
def ExtWorkspaceData.checkName (data : ExtWorkspaceData) (at_ : Located) : Bool :=
  if at_.workspace.name.isSome then data.id.isNone
  else data.coordinates.2 != at_.wsIdx.toUInt32

/-- The record of a workspace that keeps its objects. -/
def ExtWorkspaceData.updated (data : ExtWorkspaceData) (at_ : Located) : ExtWorkspaceData :=
  { data with
    id := at_.workspace.name
    name := if data.checkName at_ then at_.buildName else data.name
    coordinates := (data.coordinates.1, at_.wsIdx.toUInt32)
    state := at_.state
    output := at_.output }

/-- The record of a workspace that is created anew. -/
def ExtWorkspaceData.recreated (data : ExtWorkspaceData) (at_ : Located) : ExtWorkspaceData :=
  { at_.newData with
    workspace := data.workspace
    coordinates := (data.coordinates.1, at_.wsIdx.toUInt32) }

/-- A name that was set has changed. -/
def ExtWorkspaceData.Renamed (data : ExtWorkspaceData) (at_ : Located) : Prop :=
  data.id ≠ none ∧ data.id ≠ at_.workspace.name

/-- The workspace is also on another output, which has a group. -/
def RenamedAndMoved (groups : List ExtWorkspaceGroupData) (data : ExtWorkspaceData)
    (at_ : Located) : Prop :=
  data.Renamed at_ ∧ data.output ≠ at_.output ∧ ∃ g ∈ groups, some g.output = at_.output

namespace ExtWorkspaceManagerState

theorem refreshWorkspace_of_none (order : HashOrder) {at_ : Located}
    (hfind : s.workspaces.find? (fun data => data.workspace = at_.workspace.id) = none) :
    s.refreshWorkspace order at_ =
      ⟨(s.createInstances order at_.newData).1, (s.createInstances order at_.newData).2, true⟩ := by
  unfold refreshWorkspace
  rw [hfind]
  rfl

theorem refreshWorkspace_of_renamed (order : HashOrder) {at_ : Located} {d : ExtWorkspaceData}
    (hfind : s.workspaces.find? (fun data => data.workspace = at_.workspace.id) = some d)
    (hrenamed : d.Renamed at_) :
    s.refreshWorkspace order at_ =
      ⟨(s.createInstances order (d.recreated at_)).1,
        (if d.output != at_.output then sendWorkspaceEnterLeave s.workspaceGroups d false else []) ++
          removeWorkspaceInstances s.workspaceGroups { d with output := at_.output } ++
          (s.createInstances order (d.recreated at_)).2,
        true⟩ := by
  obtain ⟨hsome, hne⟩ := hrenamed
  have hrecreate : (d.id != at_.workspace.name && d.id.isSome) = true := by
    simp [hne, Option.isSome_iff_ne_none, hsome]
  unfold refreshWorkspace
  rw [hfind]
  simp only [hrecreate, if_true, Bool.true_or]
  rfl

/-- The events of one object of a workspace that changes. -/
def changeEvents (d : ExtWorkspaceData) (idSet nameChanged coordinatesChanged stateChanged : Bool)
    (h : Handle) : List Event :=
  (if idSet then (d.id.map (Event.id h)).toList else []) ++
    (if nameChanged then [.name h d.name] else []) ++
    (if coordinatesChanged then [.coordinates h d.coordinates] else []) ++
    (if stateChanged then [.state h d.state] else [])

theorem refreshWorkspace_of_kept (order : HashOrder) {at_ : Located} {d : ExtWorkspaceData}
    (hfind : s.workspaces.find? (fun data => data.workspace = at_.workspace.id) = some d)
    (hkept : ¬d.Renamed at_) :
    ∃ idSet nameChanged coordinatesChanged stateChanged : Bool,
      (if idSet then d.id = none ∧ (d.updated at_).id ≠ none else d.id = (d.updated at_).id) ∧
      (nameChanged = false → d.name = (d.updated at_).name) ∧
      (coordinatesChanged = false → d.coordinates = (d.updated at_).coordinates) ∧
      (stateChanged = false → d.state = (d.updated at_).state) ∧
      s.refreshWorkspace order at_ =
        ⟨s.setWorkspace (d.updated at_),
          (if d.output != at_.output then sendWorkspaceEnterLeave s.workspaceGroups d false ++
            sendWorkspaceEnterLeave s.workspaceGroups { d with output := at_.output } true else []) ++
          d.instances.flatMap
            (changeEvents (d.updated at_) idSet nameChanged coordinatesChanged stateChanged),
          d.output != at_.output ||
            (idSet || nameChanged || coordinatesChanged || stateChanged)⟩ := by
  have hrecreate : (d.id != at_.workspace.name && d.id.isSome) = false := by
    rw [ExtWorkspaceData.Renamed, not_and, not_not] at hkept
    by_cases hsome : d.id = none
    · simp [hsome]
    · simp [hkept hsome]
  have hid : d.id ≠ at_.workspace.name → d.id = none := by
    intro hne
    by_contra hsome
    exact hkept ⟨hsome, hne⟩
  -- a workspace that has a name got it just now, if it had none
  have hset : at_.workspace.name.isSome = true →
      (d.id != at_.workspace.name && d.id.isNone) = d.id.isNone := by
    intro hname
    by_cases hnone : d.id = none
    · obtain ⟨name, hname⟩ := Option.isSome_iff_exists.mp hname
      simp [hnone, hname]
    · simp [hnone]
  have hcheck : (if at_.workspace.name.isSome then d.id != at_.workspace.name && d.id.isNone
        else d.coordinates.2 != at_.wsIdx.toUInt32) =
      d.checkName at_ := by
    unfold ExtWorkspaceData.checkName
    split
    · next hname => exact hset hname
    · rfl
  refine ⟨d.id != at_.workspace.name && d.id.isNone, d.checkName at_ && d.name != at_.buildName,
    d.coordinates.2 != at_.wsIdx.toUInt32, d.state != at_.state, ?_, ?_, ?_, ?_, ?_⟩
  · by_cases hne : d.id = at_.workspace.name
    · have hset : (d.id != at_.workspace.name && d.id.isNone) = false := by simp [hne]
      rw [hset]
      exact hne
    · have hnone := hid hne
      have hname : at_.workspace.name ≠ none := fun hname => hne (hnone.trans hname.symm)
      have hset : (d.id != at_.workspace.name && d.id.isNone) = true := by
        simp only [bne_iff_ne, ne_eq, hnone, Option.isNone_none, Bool.and_true]
        exact hname.symm
      rw [if_pos hset]
      exact ⟨hnone, hname⟩
  · intro hname
    show d.name = if d.checkName at_ then at_.buildName else d.name
    cases hcheck : d.checkName at_ with
    | true =>
      rw [hcheck, Bool.true_and] at hname
      simpa using hname
    | false => rfl
  · intro hcoordinates
    have heq : d.coordinates.2 = at_.wsIdx.toUInt32 := by simpa using hcoordinates
    exact Prod.ext rfl heq
  · intro hstate
    show d.state = at_.state
    simpa using hstate
  · unfold refreshWorkspace
    rw [hfind]
    simp only [hrecreate, Bool.false_eq_true, if_false, Bool.false_or, hcheck]
    congr 1
    by_cases hout : d.output = at_.output
    · simp only [hout, bne_self_eq_false, Bool.false_eq_true, if_false]
      rfl
    · have hout : (d.output != at_.output) = true := by simpa using hout
      simp only [hout, if_true]
      rfl

end ExtWorkspaceManagerState

/-- Without managers nothing is sent. -/
theorem Follows.of_no_managers (h : Follows bindings s s' events) (hnil : s.instances = [])
    (haddressed : ∀ e ∈ events', e.manager ∈ s.instances) : Follows bindings s s' events' :=
  ⟨h.valid, h.instances_eq, h.serial_le, haddressed, fun _ hm => absurd (hnil ▸ hm) List.not_mem_nil⟩

theorem find_workspace {at_ : Located} {d : ExtWorkspaceData}
    (hfind : s.workspaces.find? (fun data => data.workspace = at_.workspace.id) = some d) :
    d ∈ s.workspaces ∧ d.workspace = at_.workspace.id :=
  ⟨List.mem_of_find?_eq_some hfind, by simpa using List.find?_some hfind⟩

theorem manager_of_mem_changeEvents {d : ExtWorkspaceData} {b₁ b₂ b₃ b₄ : Bool} {h : Handle}
    {e : Event} (he : e ∈ ExtWorkspaceManagerState.changeEvents d b₁ b₂ b₃ b₄ h) :
    e.manager = h.manager := by
  simp only [ExtWorkspaceManagerState.changeEvents, List.mem_append] at he
  obtain ((he | he) | he) | he := he
  · split at he
    · obtain ⟨id, -, rfl⟩ := Option.map_eq_some_iff.mp (Option.mem_toList.mp he)
      rfl
    · exact absurd he List.not_mem_nil
  all_goals
    split at he
    · obtain rfl := List.mem_singleton.mp he
      rfl
    · exact absurd he List.not_mem_nil

/-- A workspace is destroyed and created anew. -/
theorem follows_recreate (hs : s.Valid) (order : HashOrder) {d data : ExtWorkspaceData}
    (hd : d ∈ s.workspaces) (hdata : data.workspace = d.workspace) :
    Follows bindings s (s.createInstances order data).1
      (removeWorkspaceInstances s.workspaceGroups d ++ (s.createInstances order data).2) := by
  have hfirst : Follows bindings s _ _ :=
    follows_perm hs (List.Perm.refl _) (perm_cons_filter_key hs.ids_nodup hd)
  have hremove := hfirst.trans (follows_removeWorkspace hfirst.valid rfl)
  rw [← createInstances_without, hdata]
  exact hremove.trans (follows_create hremove.valid order fun d' hd' =>
    hdata ▸ without_ne d' hd')

theorem follows_refreshWorkspace (hs : s.Valid) (order : HashOrder) (at_ : Located)
    (hclean : s.instances = [] ∨ ∀ d ∈ s.workspaces, d.workspace = at_.workspace.id →
      ¬RenamedAndMoved s.workspaceGroups d at_) :
    Follows bindings s (s.refreshWorkspace order at_).state
      (s.refreshWorkspace order at_).events := by
  cases hfind : s.workspaces.find? (fun data => data.workspace = at_.workspace.id) with
  | none =>
    rw [ExtWorkspaceManagerState.refreshWorkspace_of_none order hfind]
    refine follows_create hs order fun d hd heq => ?_
    have hne := List.find?_eq_none.mp hfind d hd
    exact hne (decide_eq_true heq)
  | some d =>
    obtain ⟨hd, hid⟩ := find_workspace hfind
    by_cases hrenamed : d.Renamed at_
    · rw [ExtWorkspaceManagerState.refreshWorkspace_of_renamed order hfind hrenamed]
      have hrecreate : Follows bindings s (s.createInstances order (d.recreated at_)).1
          (removeWorkspaceInstances s.workspaceGroups d ++
            (s.createInstances order (d.recreated at_)).2) :=
        follows_recreate hs order hd rfl
      rcases hclean with hnil | hclean
      · refine hrecreate.of_no_managers hnil fun e he => ?_
        rcases List.mem_append.mp he with he | he
        · rcases List.mem_append.mp he with he | he
          · split at he
            · exact addressed_sendWorkspaceEnterLeave hs _ _ e he
            · exact absurd he List.not_mem_nil
          · have hperm : (({ d with output := at_.output } : ExtWorkspaceData).instances.map
                Handle.manager).Perm s.instances :=
              show (d.instances.map Handle.manager).Perm _ from hs.workspace_instances d hd
            exact addressed_removeWorkspaceInstances hs hperm e he
        · exact hrecreate.addressed e (List.mem_append_right _ he)
      · -- the workspace leaves its group once, whether or not its output has changed
        have hleave : (if d.output != at_.output then
              sendWorkspaceEnterLeave s.workspaceGroups d false else []) ++
            removeWorkspaceInstances s.workspaceGroups { d with output := at_.output } =
            removeWorkspaceInstances s.workspaceGroups d := by
          by_cases hout : d.output = at_.output
          · simp [← hout]
          · have hnone : ∀ g ∈ s.workspaceGroups, some g.output ≠ at_.output :=
              fun g hg heq => hclean d hd hid ⟨hrenamed, hout, g, hg, heq⟩
            have hout : (d.output != at_.output) = true := by simpa using hout
            have hstay : sendWorkspaceEnterLeave s.workspaceGroups { d with output := at_.output }
                false = [] := sendWorkspaceEnterLeave_of_no_group hnone false
            rw [if_pos hout, removeWorkspaceInstances, removeWorkspaceInstances, hstay,
              List.nil_append]
        rw [hleave]
        exact hrecreate
    · obtain ⟨b₁, b₂, b₃, b₄, h₁, h₂, h₃, h₄, heq⟩ :=
        ExtWorkspaceManagerState.refreshWorkspace_of_kept order hfind hrenamed
      rw [heq]
      have hfirst : Follows bindings s _ _ :=
        follows_perm hs (List.Perm.refl _) (perm_cons_filter_key hs.ids_nodup hd)
      have hmoved : Follows bindings s
          { s with workspaces := { d with output := at_.output } ::
            s.workspaces.filter fun d' => d'.workspace ≠ d.workspace }
          (if d.output != at_.output then sendWorkspaceEnterLeave s.workspaceGroups d false ++
            sendWorkspaceEnterLeave s.workspaceGroups { d with output := at_.output } true
            else []) := by
        by_cases hout : d.output = at_.output
        · have heq : (d.output != at_.output) = false := by simpa using hout
          rw [heq, ← hout]
          exact hfirst
        · have hne : (d.output != at_.output) = true := by simpa using hout
          rw [if_pos hne]
          exact hfirst.trans (follows_setOutput hfirst.valid rfl at_.output)
      refine hmoved.trans (follows_describe hmoved.valid (d.updated at_) rfl rfl rfl
        (fun h e he => manager_of_mem_changeEvents he) ?_)
      intro outputs gs ws h v hv
      exact Shows.describe (d := { d with output := at_.output }) hv h₁ h₂ h₃ h₄ rfl

/-! ## Refresh of one group -/

theorem follows_refreshWorkspaceGroup (hs : s.Valid) (order : HashOrder) (output : Output) :
    Follows bindings s (s.refreshWorkspaceGroup order bindings output).state
      (s.refreshWorkspaceGroup order bindings output).events := by
  unfold ExtWorkspaceManagerState.refreshWorkspaceGroup
  split
  · exact Follows.refl hs
  · next hnone =>
    have hnone : ∀ g ∈ s.workspaceGroups, g.output ≠ output := by simpa using hnone
    have hmanagers := order.perm s.instances
    dsimp only
    generalize hdata : (⟨output, newHandles s.serial (order.list s.instances)⟩ :
      ExtWorkspaceGroupData) = data
    have hinstances : data.instances = newHandles s.serial (order.list s.instances) := by
      rw [← hdata]
    have houtput : data.output = output := by rw [← hdata]
    have hperm : (data.instances.map Handle.manager).Perm s.instances := by
      rw [hinstances, map_manager_newHandles]
      exact hmanagers
    have hle : s.serial ≤ s.serial + (order.list s.instances).length := Nat.le_add_right _ _
    have hentered : ∀ group, ∀ e ∈ ((order.list s.workspaces).filter fun ws =>
        ws.output = some output).flatMap fun ws =>
          (ws.instances.filter fun workspace => workspace.manager = group.manager).map
            (Event.workspaceEnter group), e.manager = group.manager := by
      intro group e he
      obtain ⟨ws, -, he⟩ := List.mem_flatMap.mp he
      obtain ⟨workspace, -, rfl⟩ := List.mem_map.mp he
      rfl
    refine ⟨⟨hs.instances_nodup, ?_, hs.workspace_instances, ?_, hs.ids_nodup, ?_, ?_, ?_⟩, rfl,
      hle, fun e he => ?_, fun m hm v hv => ?_⟩
    · intro g hg
      rcases List.mem_cons.mp hg with rfl | hg
      · exact hperm
      · exact hs.group_instances g hg
    · show (data.output :: s.workspaceGroups.map ExtWorkspaceGroupData.output).Nodup
      rw [List.nodup_cons]
      refine ⟨fun hmem => ?_, hs.outputs_nodup⟩
      obtain ⟨g, hg, heq⟩ := List.mem_map.mp hmem
      exact hnone g hg (heq.trans houtput)
    · exact fun m hm => (hs.manager_lt m hm).trans_le hle
    · intro g hg h hh
      rcases List.mem_cons.mp hg with rfl | hg
      · rw [hinstances] at hh
        exact (serial_of_mem_newHandles hh).2
      · exact (hs.group_lt g hg h hh).trans_le hle
    · exact fun d hd h hh => (hs.workspace_lt d hd h hh).trans_le hle
    · rw [← hinstances] at he
      rcases List.mem_append.mp he with he | he
      · exact addressed_flatMap hperm (fun _ _ he => manager_of_mem_addGroupInstance he) e he
      · exact addressed_flatMap hperm hentered e he
    · obtain ⟨h, hh⟩ := exists_handleOf hperm hm
      have hopen : data.openFor m = some ⟨data.output, h⟩ := by
        rw [ExtWorkspaceGroupData.openFor, hh]
        rfl
      have hmanager := manager_of_handleOf hh
      have hnodup : (data.instances.map Handle.manager).Nodup :=
        hperm.nodup_iff.mpr hs.instances_nodup
      have hfresh : ∀ g ∈ groupsOf m s.workspaceGroups, g.handle ≠ h := by
        rintro g hg rfl
        obtain ⟨d, hd, hdg⟩ := List.mem_filterMap.mp hg
        obtain ⟨h', hh', rfl⟩ := Option.map_eq_some_iff.mp hdg
        have hlt := hs.group_lt d hd h' (mem_of_handleOf hh')
        have hge := (serial_of_mem_newHandles (hinstances ▸ mem_of_handleOf hh)).1
        exact absurd hlt (Nat.not_lt.mpr hge)
      have hother : ∀ g ∈ groupsOf m s.workspaceGroups, g.output ≠ data.output := by
        intro g hg
        obtain ⟨d, hd, hdg⟩ := List.mem_filterMap.mp hg
        obtain ⟨h', -, rfl⟩ := Option.map_eq_some_iff.mp hdg
        exact houtput ▸ hnone d hd
      have hwperm : (workspacesOf m s.workspaces).Perm
          (workspacesOf m (order.list s.workspaces)) := (order.perm s.workspaces).symm.filterMap _
      have hall : ∀ d ∈ order.list s.workspaces, (d.instances.map Handle.manager).Nodup :=
        fun d hd => hs.workspace_nodup (order.mem_list.mp hd)
      unfold Synced at hv ⊢
      rw [groupsOf_cons hopen]
      obtain ⟨v', hrun, h'⟩ := Shows.addGroup (g := ⟨data.output, h⟩)
        (hv.perm (List.Perm.refl _) hwperm) hfresh hother
      refine ⟨v', ?_, h'.perm (List.Perm.refl _) hwperm.symm⟩
      have hcreated : toManager m (data.instances.flatMap (data.addInstance bindings)) =
          (handleOf m data.instances).toList.flatMap (data.addInstance bindings) :=
        toManager_flatMap hnodup fun _ _ he => manager_of_mem_addGroupInstance he
      rw [← hinstances, toManager_append, hcreated, toManager_flatMap hnodup hentered,
        hh]
      simp only [Option.toList_some, List.flatMap_cons, List.flatMap_nil, List.append_nil,
        hmanager, flatMap_filter_eq hall]
      rw [ExtWorkspaceGroupData.addInstance, hmanager, ← houtput]
      exact hrun

end Cidre.Protocols
