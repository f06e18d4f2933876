/-
  Cidre.Protocols.ExtWorkspaceRun

  Runs of the ext-workspace protocol: layouts that are refreshed, managers that
  bind and stop, and outputs that clients bind.

  After each of these steps the records are those of the last layout that was
  refreshed (`Tracks`), and the client of every manager shows them.  There is one
  exception: a workspace that is renamed and moved at once leaves the group of
  its new output before it has entered it.
-/

import Cidre.Protocols.ExtWorkspaceRefresh

namespace Cidre.Protocols

open Cidre.Run

variable {s s' t : ExtWorkspaceManagerState} {bindings : List Binding}

/-! ## The records and the layout -/

/-- The records are those of this layout. -/
structure Tracks (layout : LayoutState) (s : ExtWorkspaceManagerState) : Prop where
  exists_data : ∀ at_ ∈ layout.workspaces, ∃ d ∈ s.workspaces, d.Is at_
  exists_at : ∀ d ∈ s.workspaces, ∃ at_ ∈ layout.workspaces, d.Is at_
  groups_iff : ∀ o, (∃ g ∈ s.workspaceGroups, g.output = o) ↔ o ∈ layout.sortedOutputs

/-- A workspace with a name is renamed or unnamed, and moved to an output that
    was there before. -/
def RenamedAcross (old new : LayoutState) : Prop :=
  ∃ a ∈ old.workspaces, ∃ b ∈ new.workspaces, a.workspace.id = b.workspace.id ∧
    a.workspace.name ≠ none ∧ a.workspace.name ≠ b.workspace.name ∧ a.output ≠ b.output ∧
    ∃ o ∈ old.sortedOutputs, b.output = some o

/-- The index of a workspace without a name has changed by a multiple of `2 ^ 32`. -/
def IndexWrapped (old new : LayoutState) : Prop :=
  ∃ a ∈ old.workspaces, ∃ b ∈ new.workspaces, a.workspace.id = b.workspace.id ∧
    a.workspace.name = none ∧ b.workspace.name = none ∧ a.wsIdx ≠ b.wsIdx ∧
    a.wsIdx.toUInt32 = b.wsIdx.toUInt32

/-- A record from which that of `at_` is found. -/
structure ExtWorkspaceData.Current (d : ExtWorkspaceData) (at_ : Located) : Prop where
  coordinates_zero : d.coordinates.1 = 0
  name_eq : ¬d.Renamed at_ → d.checkName at_ = false → d.name = at_.buildName

theorem ExtWorkspaceData.Is.current {d : ExtWorkspaceData} {a b : Located} (h : d.Is a)
    (hwrapped : ¬(a.workspace.name = none ∧ b.workspace.name = none ∧ a.wsIdx ≠ b.wsIdx ∧
      a.wsIdx.toUInt32 = b.wsIdx.toUInt32)) : d.Current b := by
  refine ⟨by rw [h.coordinates_eq]; rfl, fun hkept hcheck => ?_⟩
  rw [ExtWorkspaceData.Renamed, not_and, not_not] at hkept
  rw [h.name_eq]
  unfold ExtWorkspaceData.checkName at hcheck
  cases hb : b.workspace.name with
  | some n =>
    rw [hb, Option.isSome_some, if_pos rfl] at hcheck
    have hid : d.id ≠ none := by
      intro hnone
      rw [hnone] at hcheck
      cases hcheck
    have hname := h.id_eq.symm.trans (hkept hid)
    rw [Located.buildName, Located.buildName, hname, hb]
    rfl
  | none =>
    rw [hb, Option.isSome_none, if_neg Bool.false_ne_true, bne_eq_false_iff_eq,
      h.coordinates_eq] at hcheck
    have hid : d.id = none := by
      by_contra hid
      exact hid ((hkept hid).trans hb)
    have ha : a.workspace.name = none := h.id_eq.symm.trans hid
    have hidx : a.wsIdx = b.wsIdx := by
      by_contra hidx
      exact hwrapped ⟨ha, hb, hidx, hcheck⟩
    rw [Located.buildName, Located.buildName, ha, hb, hidx]

/-! ## Refresh of all workspaces -/

/-- What is left of the records when one workspace has been refreshed. -/
theorem refreshWorkspace_state (order : HashOrder) {at_ : Located}
    (hcurrent : ∀ d ∈ s.workspaces, d.workspace = at_.workspace.id → d.Current at_) :
    ∃ d, d.Is at_ ∧ (s.refreshWorkspace order at_).state.workspaces =
        d :: s.workspaces.filter (fun d' => d'.workspace ≠ at_.workspace.id) ∧
      (s.refreshWorkspace order at_).state.workspaceGroups = s.workspaceGroups := by
  cases hfind : s.workspaces.find? (fun data => data.workspace = at_.workspace.id) with
  | none =>
    rw [ExtWorkspaceManagerState.refreshWorkspace_of_none order hfind]
    exact ⟨{ at_.newData with instances := _ }, ⟨rfl, rfl, rfl, rfl, rfl, rfl⟩, rfl, rfl⟩
  | some d =>
    obtain ⟨hd, hid⟩ := find_workspace hfind
    have hcurrent := hcurrent d hd hid
    have hcoordinates : (d.coordinates.1, at_.wsIdx.toUInt32) = at_.coordinates := by
      rw [hcurrent.coordinates_zero]
      rfl
    by_cases hrenamed : d.Renamed at_
    · rw [ExtWorkspaceManagerState.refreshWorkspace_of_renamed order hfind hrenamed]
      refine ⟨{ d.recreated at_ with instances := newHandles s.serial (order.list s.instances) },
        ⟨hid, rfl, rfl, hcoordinates, rfl, rfl⟩, ?_, rfl⟩
      rw [← hid]
      rfl
    · obtain ⟨b₁, b₂, b₃, b₄, -, -, -, -, heq⟩ :=
        ExtWorkspaceManagerState.refreshWorkspace_of_kept order hfind hrenamed
      rw [heq]
      refine ⟨d.updated at_, ⟨hid, rfl, ?_, hcoordinates, rfl, rfl⟩, ?_, rfl⟩
      · show (if d.checkName at_ then at_.buildName else d.name) = at_.buildName
        split
        · rfl
        · next hcheck => exact hcurrent.name_eq hrenamed (Bool.eq_false_of_not_eq_true hcheck)
      · rw [← hid]
        rfl

theorem refreshWorkspace_unchanged {order : HashOrder} {at_ : Located}
    (h : (s.refreshWorkspace order at_).changed = false) :
    (s.refreshWorkspace order at_).events = [] := by
  cases hfind : s.workspaces.find? (fun data => data.workspace = at_.workspace.id) with
  | none =>
    rw [ExtWorkspaceManagerState.refreshWorkspace_of_none order hfind] at h
    cases h
  | some d =>
    by_cases hrenamed : d.Renamed at_
    · rw [ExtWorkspaceManagerState.refreshWorkspace_of_renamed order hfind hrenamed] at h
      cases h
    · obtain ⟨b₁, b₂, b₃, b₄, -, -, -, -, heq⟩ :=
        ExtWorkspaceManagerState.refreshWorkspace_of_kept order hfind hrenamed
      rw [heq] at h ⊢
      simp only [Bool.or_eq_false_iff] at h
      obtain ⟨hout, ⟨⟨rfl, rfl⟩, rfl⟩, rfl⟩ := h
      simp [hout, ExtWorkspaceManagerState.changeEvents]

/-- The records after a loop over these workspaces. -/
structure RefreshedAll (s : ExtWorkspaceManagerState) (l : List Located)
    (s' : ExtWorkspaceManagerState) : Prop where
  groups_eq : s'.workspaceGroups = s.workspaceGroups
  exists_data : ∀ at_ ∈ l, ∃ d ∈ s'.workspaces, d.Is at_
  exists_at : ∀ d ∈ s'.workspaces, (∃ at_ ∈ l, d.Is at_) ∨
    d ∈ s.workspaces ∧ ∀ at_ ∈ l, d.workspace ≠ at_.workspace.id
  others : ∀ d ∈ s.workspaces, (∀ at_ ∈ l, d.workspace ≠ at_.workspace.id) → d ∈ s'.workspaces

theorem refreshAll_workspaces (bindings : List Binding) (order : HashOrder) (l : List Located) (hs : s.Valid)
    (hnodup : (l.map fun at_ => at_.workspace.id).Nodup)
    (hclean : s.instances = [] ∨ ∀ at_ ∈ l, ∀ d ∈ s.workspaces,
      d.workspace = at_.workspace.id → ¬RenamedAndMoved s.workspaceGroups d at_)
    (hcurrent : ∀ at_ ∈ l, ∀ d ∈ s.workspaces, d.workspace = at_.workspace.id → d.Current at_)
    {r : Refreshed}
    (hr : ExtWorkspaceManagerState.refreshAll
      (ExtWorkspaceManagerState.refreshWorkspace order) s l = r) :
    Follows bindings s r.state r.events ∧ RefreshedAll s l r.state ∧
      (r.changed = false → r.events = []) := by
  induction l generalizing s r with
  | nil =>
    subst hr
    refine ⟨Follows.refl hs, ⟨rfl, ?_, ?_, ?_⟩, fun _ => rfl⟩
    · exact fun at_ hat => absurd hat List.not_mem_nil
    · exact fun d hd => Or.inr ⟨hd, fun at_ hat => absurd hat List.not_mem_nil⟩
    · exact fun d hd _ => hd
  | cons a l ih =>
    rw [List.map_cons, List.nodup_cons] at hnodup
    obtain ⟨hnew, hnodup⟩ := hnodup
    have hne : ∀ at_ ∈ l, at_.workspace.id ≠ a.workspace.id :=
      fun at_ hat heq => hnew (heq ▸ List.mem_map_of_mem (f := fun at_ => at_.workspace.id) hat)
    have hfirst : Follows bindings s _ _ := follows_refreshWorkspace hs order a
      (hclean.imp_right fun h => h a List.mem_cons_self)
    obtain ⟨d₀, hd₀, hworkspaces, hgroups⟩ :=
      refreshWorkspace_state order (hcurrent a List.mem_cons_self)
    -- the records of the workspaces to come have not changed
    have hmem : ∀ at_ ∈ l, ∀ d ∈ (s.refreshWorkspace order a).state.workspaces,
        d.workspace = at_.workspace.id → d ∈ s.workspaces := by
      intro at_ hat d hd hid
      rw [hworkspaces] at hd
      rcases List.mem_cons.mp hd with rfl | hd
      · exact absurd (hid.symm.trans hd₀.workspace_eq) (hne at_ hat)
      · exact (List.mem_filter.mp hd).1
    obtain ⟨hrest, hall, hunchanged⟩ := ih hfirst.valid hnodup
      (hclean.imp (fun h => hfirst.instances_eq.trans h) fun h at_ hat d hd hid =>
        hgroups ▸ h at_ (List.mem_cons_of_mem _ hat) d (hmem at_ hat d hd hid) hid)
      (fun at_ hat d hd hid =>
        hcurrent at_ (List.mem_cons_of_mem _ hat) d (hmem at_ hat d hd hid) hid) rfl
    subst hr
    refine ⟨hfirst.trans hrest, ⟨hall.groups_eq.trans hgroups, ?_, ?_, ?_⟩, ?_⟩
    · intro at_ hat
      rcases List.mem_cons.mp hat with rfl | hat
      · refine ⟨d₀, hall.others d₀ (hworkspaces ▸ List.mem_cons_self) fun b hb heq => ?_, hd₀⟩
        exact hne b hb (heq.symm.trans hd₀.workspace_eq)
      · exact hall.exists_data at_ hat
    · intro d hd
      rcases hall.exists_at d hd with ⟨at_, hat, his⟩ | ⟨hd, hother⟩
      · exact Or.inl ⟨at_, List.mem_cons_of_mem _ hat, his⟩
      · rw [hworkspaces] at hd
        rcases List.mem_cons.mp hd with rfl | hd
        · exact Or.inl ⟨a, List.mem_cons_self, hd₀⟩
        · obtain ⟨hd, hne⟩ := List.mem_filter.mp hd
          refine Or.inr ⟨hd, fun at_ hat => ?_⟩
          rcases List.mem_cons.mp hat with rfl | hat
          · simpa using hne
          · exact hother at_ hat
    · intro d hd hother
      refine hall.others d ?_ fun at_ hat => hother at_ (List.mem_cons_of_mem _ hat)
      rw [hworkspaces]
      refine List.mem_cons_of_mem _ (List.mem_filter.mpr ⟨hd, ?_⟩)
      simpa using hother a List.mem_cons_self
    · intro hchanged
      have hchanged : ((s.refreshWorkspace order a).changed || _) = false := hchanged
      rw [Bool.or_eq_false_iff] at hchanged
      show (s.refreshWorkspace order a).events ++ _ = []
      rw [refreshWorkspace_unchanged hchanged.1, List.nil_append]
      exact hunchanged hchanged.2

/-- The groups after a loop over these outputs. -/
theorem refreshAll_groups (bindings : List Binding) (order : HashOrder) (l : List Output) (hs : s.Valid) {r : Refreshed}
    (hr : ExtWorkspaceManagerState.refreshAll
      (ExtWorkspaceManagerState.refreshWorkspaceGroup order bindings) s l = r) :
    Follows bindings s r.state r.events ∧ r.state.workspaces = s.workspaces ∧
      (∀ o, (∃ g ∈ r.state.workspaceGroups, g.output = o) ↔
        (∃ g ∈ s.workspaceGroups, g.output = o) ∨ o ∈ l) ∧
      (r.changed = false → r.events = []) := by
  induction l generalizing s r with
  | nil =>
    subst hr
    refine ⟨Follows.refl hs, rfl, fun o => ?_, fun _ => rfl⟩
    simp [ExtWorkspaceManagerState.refreshAll]
  | cons a l ih =>
    have hfirst : Follows bindings s _ _ := follows_refreshWorkspaceGroup hs order a
    have hgroup : (s.refreshWorkspaceGroup order bindings a).state.workspaces = s.workspaces ∧
        (∀ o, (∃ g ∈ (s.refreshWorkspaceGroup order bindings a).state.workspaceGroups,
          g.output = o) ↔ (∃ g ∈ s.workspaceGroups, g.output = o) ∨ o = a) ∧
        ((s.refreshWorkspaceGroup order bindings a).changed = false →
          (s.refreshWorkspaceGroup order bindings a).events = []) := by
      unfold ExtWorkspaceManagerState.refreshWorkspaceGroup
      split
      · next hany =>
        obtain ⟨g, hg, hga⟩ : ∃ g ∈ s.workspaceGroups, g.output = a := by simpa using hany
        refine ⟨rfl, fun o => ⟨Or.inl, ?_⟩, fun _ => rfl⟩
        rintro (h | rfl)
        · exact h
        · exact ⟨g, hg, hga⟩
      · refine ⟨rfl, fun o => ?_, fun h => by cases h⟩
        simp only [List.mem_cons, exists_eq_or_imp]
        rw [or_comm, eq_comm]
    obtain ⟨hws, hgs, hunchanged⟩ := hgroup
    obtain ⟨hrest, hws', hgs', hunchanged'⟩ := ih hfirst.valid rfl
    subst hr
    refine ⟨hfirst.trans hrest, hws'.trans hws, fun o => ?_, fun hchanged => ?_⟩
    · show (∃ g ∈ (ExtWorkspaceManagerState.refreshAll
        (ExtWorkspaceManagerState.refreshWorkspaceGroup order bindings) _ l).state.workspaceGroups,
        g.output = o) ↔ _
      rw [hgs', hgs, List.mem_cons, or_assoc]
    · have hchanged : ((s.refreshWorkspaceGroup order bindings a).changed || _) = false := hchanged
      rw [Bool.or_eq_false_iff] at hchanged
      show (s.refreshWorkspaceGroup order bindings a).events ++ _ = []
      rw [hunchanged hchanged.1, List.nil_append]
      exact hunchanged' hchanged.2

/-! ## A whole refresh -/

theorem dropWorkspaces_unchanged {order : HashOrder} {seen : List U64}
    (h : (s.dropWorkspaces order seen).changed = false) :
    (s.dropWorkspaces order seen).events = [] := by
  unfold ExtWorkspaceManagerState.dropWorkspaces at h ⊢
  simp only [Bool.not_eq_false', List.isEmpty_iff] at h
  simp only [h, List.flatMap_nil]

theorem dropGroups_unchanged {order : HashOrder} {sortedOutputs : List Output}
    (h : (s.dropGroups order sortedOutputs).changed = false) :
    (s.dropGroups order sortedOutputs).events = [] := by
  unfold ExtWorkspaceManagerState.dropGroups at h ⊢
  simp only [Bool.not_eq_false', List.isEmpty_iff] at h
  simp only [h, List.flatMap_nil]

/-- The events of a refresh bring every client to the new layout, and end with
    `done` unless there are none. -/
theorem refresh_follows (order : HashOrder) {old layout : LayoutState} (hs : s.Valid)
    (htracks : Tracks old s) (hclean : s.instances = [] ∨ ¬RenamedAcross old layout)
    (hwrapped : ¬IndexWrapped old layout) :
    ∃ body changed, (s.refresh order bindings layout).2 = body ++
        (if changed then (order.list (s.refresh order bindings layout).1.instances).map Event.done
          else []) ∧
      (changed = false → body = []) ∧
      Follows bindings s (s.refresh order bindings layout).1 body ∧
      Tracks layout (s.refresh order bindings layout).1 := by
  let seen := layout.workspaces.map fun at_ => at_.workspace.id
  have h₁ : Follows bindings s (s.dropWorkspaces order seen).state _ :=
    follows_dropWorkspaces hs order seen
  have hmem₁ : ∀ d, d ∈ (s.dropWorkspaces order seen).state.workspaces ↔
      d ∈ s.workspaces ∧ d.workspace ∈ seen := by
    intro d
    simp [ExtWorkspaceManagerState.dropWorkspaces, List.mem_filter]
  have h₂ : Follows bindings _ ((s.dropWorkspaces order seen).state.dropGroups order
      layout.sortedOutputs).state _ := follows_dropGroups h₁.valid order layout.sortedOutputs
  have hmem₂ : ∀ g, g ∈ ((s.dropWorkspaces order seen).state.dropGroups order
      layout.sortedOutputs).state.workspaceGroups ↔
      g ∈ s.workspaceGroups ∧ g.output ∈ layout.sortedOutputs := by
    intro g
    simp [ExtWorkspaceManagerState.dropGroups, ExtWorkspaceManagerState.dropWorkspaces,
      List.mem_filter]
  -- the record of a workspace that is still there, and where it was
  have hold : ∀ at_ ∈ layout.workspaces, ∀ d ∈ s.workspaces, d.workspace = at_.workspace.id →
      ∃ a ∈ old.workspaces, d.Is a ∧ a.workspace.id = at_.workspace.id := by
    intro at_ _ d hd hid
    obtain ⟨a, ha, his⟩ := htracks.exists_at d hd
    exact ⟨a, ha, his, his.workspace_eq.symm.trans hid⟩
  have h₃ := refreshAll_workspaces bindings order layout.workspaces h₂.valid
    layout.ids_nodup ?_ ?_ rfl
  · obtain ⟨h₃, hall, hunchanged₃⟩ := h₃
    have h₄ := refreshAll_groups bindings order layout.sortedOutputs h₃.valid rfl
    obtain ⟨h₄, hws, hgs, hunchanged₄⟩ := h₄
    refine ⟨_, _, rfl, ?_, ((h₁.trans h₂).trans h₃).trans h₄, ?_, ?_, ?_⟩
    · intro hchanged
      simp only [Bool.or_eq_false_iff] at hchanged
      obtain ⟨⟨⟨hchanged₁, hchanged₂⟩, hchanged₃⟩, hchanged₄⟩ := hchanged
      rw [dropWorkspaces_unchanged hchanged₁, dropGroups_unchanged hchanged₂,
        hunchanged₃ hchanged₃, hunchanged₄ hchanged₄]
      rfl
    · intro at_ hat
      show ∃ d ∈ (ExtWorkspaceManagerState.refreshAll _ _ _).state.workspaces, _
      rw [hws]
      exact hall.exists_data at_ hat
    · intro d hd
      replace hd : d ∈ (ExtWorkspaceManagerState.refreshAll _ _ _).state.workspaces := hd
      rw [hws] at hd
      rcases hall.exists_at d hd with h | ⟨hd, hne⟩
      · exact h
      · obtain ⟨at_, hat, heq⟩ := List.mem_map.mp ((hmem₁ d).mp hd).2
        exact absurd heq.symm (hne at_ hat)
    · intro o
      show (∃ g ∈ (ExtWorkspaceManagerState.refreshAll _ _ _).state.workspaceGroups, _) ↔ _
      rw [hgs, hall.groups_eq]
      constructor
      · rintro (⟨g, hg, rfl⟩ | h)
        · exact ((hmem₂ g).mp hg).2
        · exact h
      · exact Or.inr
  · refine hclean.imp (fun h => ?_) fun h at_ hat d hd hid => ?_
    · exact (h₂.instances_eq.trans h₁.instances_eq).trans h
    · rintro ⟨⟨hname, hrenamed⟩, hmoved, g, hg, hgo⟩
      obtain ⟨a, ha, his, heq⟩ := hold at_ hat d ((hmem₁ d).mp hd).1 hid
      have hgold := (htracks.groups_iff g.output).mp ⟨g, ((hmem₂ g).mp hg).1, rfl⟩
      exact h ⟨a, ha, at_, hat, heq, his.id_eq ▸ hname, his.id_eq ▸ hrenamed,
        his.output_eq ▸ hmoved, g.output, hgold, hgo.symm⟩
  · intro at_ hat d hd hid
    obtain ⟨a, ha, his, heq⟩ := hold at_ hat d ((hmem₁ d).mp hd).1 hid
    exact his.current fun ⟨h₁, h₂, h₃, h₄⟩ => hwrapped ⟨a, ha, at_, hat, heq, h₁, h₂, h₃, h₄⟩

end Cidre.Protocols
