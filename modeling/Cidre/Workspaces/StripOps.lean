/-
  Cidre.Workspaces.StripOps

  Every operation on a monitor keeps its strip good.
-/

import Cidre.Workspaces.Strip

namespace Cidre.Workspaces

open Cidre.Counter
open Cidre.Panic (Vec.insert Vec.remove Vec.swap)

variable {W : Type}

/-! ## Switching -/

theorem WorkspaceSwitch.activate_eq_none {switch : Option WorkspaceSwitch} {prev idx : Nat}
    (h : activate switch prev idx = none) : switch = none ∧ prev = idx := by
  by_cases heq : prev = idx
  · refine ⟨?_, heq⟩
    rcases switch with _ | target | g
    · rfl
    · simp [activate, heq] at h
    · cases hdnd : g.dnd <;> simp [activate, heq, hdnd] at h
  · rcases switch with _ | target | g
    · simp [activate, heq] at h
    · simp [activate, heq] at h
    · cases hdnd : g.dnd <;> simp [activate, heq, hdnd] at h

theorem WorkspaceSwitch.activate_eq_gesture {switch : Option WorkspaceSwitch} {prev idx : Nat}
    {g : WorkspaceSwitchGesture} (h : activate switch prev idx = some (.gesture g)) :
    g.centerIdx = idx ∨ switch = some (.gesture g) := by
  rcases switch with _ | target | g'
  · by_cases heq : prev = idx <;> simp [activate, heq] at h
  · by_cases heq : prev = idx <;> simp [activate, heq] at h
  · cases hdnd : g'.dnd with
    | true =>
      simp only [activate, hdnd, if_true, Option.some.injEq, gesture.injEq] at h
      exact Or.inl (congrArg WorkspaceSwitchGesture.centerIdx h).symm
    | false =>
      by_cases heq : prev = idx
      · simp [activate, heq, hdnd] at h
        exact Or.inr (by rw [h])
      · simp [activate, heq, hdnd] at h

namespace Monitor

variable {old : List (Workspace W)} {output : Output} {n n₁ : Nat} {m : Monitor W}

theorem rememberActive_safe (h : Tracked old output n m n₁) (idx : Nat) :
    Safe (m.rememberActive idx) n₁ fun m' n₂ =>
      n₂ = n₁ ∧ ∃ previous, m' = { m with previousWorkspaceId := previous } := by
  rw [rememberActive]
  refine safe_ite (fun _ => ?_) (fun _ => safe_pure ⟨rfl, m.previousWorkspaceId, rfl⟩)
  exact safe_bounds_bind (List.getElem?_eq_getElem h.active_lt) (safe_pure ⟨rfl, _, rfl⟩)

/-- `m` with the workspace at `idx` activated. -/
abbrev activated (m : Monitor W) (previous : Option WorkspaceId) (idx : Nat) : Monitor W :=
  { m with
    previousWorkspaceId := previous
    activeWorkspaceIdx := idx
    workspaceSwitch := WorkspaceSwitch.activate m.workspaceSwitch m.activeWorkspaceIdx idx }

theorem activateWorkspace_returns (h : Tracked old output n m n₁) (idx : Nat) :
    Safe (m.activateWorkspace idx) n₁ fun m' n₂ =>
      n₂ = n₁ ∧ ∃ previous, m' = m.activated previous idx := by
  refine (rememberActive_safe h idx).bind ?_
  rintro _ n₂ ⟨rfl, previous, rfl⟩
  exact safe_pure ⟨rfl, previous, rfl⟩

theorem Tracked.activated (h : Tracked old output n m n₁) (previous : Option WorkspaceId)
    {idx : Nat} (hidx : idx < m.workspaces.length) :
    Tracked old output n (m.activated previous idx) n₁ := by
  refine ⟨hidx, h.nodup, h.ids_lt, ?_, h.output_eq, h.le, h.stems⟩
  intro g hg
  rcases WorkspaceSwitch.activate_eq_gesture hg with rfl | hg
  · exact hidx
  · exact h.center_lt g hg

theorem Closed.activated (h : Closed old output n m n₁) (previous : Option WorkspaceId)
    {idx : Nat} (hidx : idx < m.workspaces.length) :
    Closed old output n (m.activated previous idx) n₁ :=
  ⟨h.toTracked.activated previous hidx, h.last, h.first, h.two⟩

theorem Good.activated (h : Good old output n m n₁) (previous : Option WorkspaceId)
    {idx : Nat} (hidx : idx < m.workspaces.length) :
    Good old output n (m.activated previous idx) n₁ := by
  refine ⟨h.toClosed.activated previous hidx, ?_⟩
  intro hnone
  obtain ⟨hswitch, rfl⟩ := WorkspaceSwitch.activate_eq_none hnone
  exact h.tidy hswitch

theorem activateWorkspace_safe (h : Good old output n m n₁) {idx : Nat}
    (hidx : idx < m.workspaces.length) :
    Safe (m.activateWorkspace idx) n₁ (Good old output n) := by
  refine (activateWorkspace_returns h.toTracked idx).mono ?_
  rintro _ _ ⟨rfl, previous, rfl⟩
  exact h.activated previous hidx

theorem switchWorkspace_safe (h : Good old output n m n₁) (idx : Nat) :
    Safe (m.switchWorkspace idx) n₁ (Good old output n) :=
  activateWorkspace_safe h (by have := h.active_lt; omega)

theorem apparentIdx_lt (hpos : 0 < m.workspaces.length) (x : Int) :
    m.apparentIdx x < m.workspaces.length := by
  rw [apparentIdx]
  omega

section

variable (c : Contents W) (h : Good old output n m n₁)
include h

theorem switchWorkspaceUp_safe : Safe m.switchWorkspaceUp n₁ (Good old output n) := by
  have hactive := h.active_lt
  refine activateWorkspace_safe h ?_
  split
  · exact apparentIdx_lt (by omega) _
  · omega

theorem switchWorkspaceDown_safe : Safe m.switchWorkspaceDown n₁ (Good old output n) := by
  have hactive := h.active_lt
  refine activateWorkspace_safe h ?_
  split
  · exact apparentIdx_lt (by omega) _
  · omega

theorem switchWorkspacePrevious_safe : Safe m.switchWorkspacePrevious n₁ (Good old output n) := by
  rw [switchWorkspacePrevious]
  split
  · exact switchWorkspace_safe h _
  · exact safe_pure h

theorem switchWorkspaceAutoBackAndForth_safe (idx : Nat) :
    Safe (m.switchWorkspaceAutoBackAndForth idx) n₁ (Good old output n) :=
  safe_ite (fun _ => switchWorkspacePrevious_safe h) (fun _ => switchWorkspace_safe h _)

theorem advanceAnimations_safe : Safe (m.advanceAnimations c) n₁ (Good old output n) := by
  rw [advanceAnimations]
  split
  · refine safe_ite (fun _ => ?_) (fun _ => safe_pure h)
    have htracked := h.toTracked.stopped h.active_lt m.previousWorkspaceId
    exact (cleanUpWorkspaces_safe htracked rfl h.last h.first).mono fun _ _ hgood => hgood.1
  · exact safe_pure h

end

/-! ## Windows and names -/

/-- A workspace is replaced by one of the same identity. -/
theorem Tracked.replace (h : Tracked old output n m n₁) {idx : Nat} {ws ws' : Workspace W}
    (hget : m.workspaces[idx]? = some ws) (hid : ws'.id = ws.id) :
    Tracked (m.setWorkspace idx ws').workspaces output n₁ (m.setWorkspace idx ws') n₁ := by
  have hids : (m.setWorkspace idx ws').ids = m.ids :=
    Panic.Vec.map_set_of_eq Workspace.id hget hid
  have hlen : (m.setWorkspace idx ws').workspaces.length = m.workspaces.length := List.length_set
  refine ⟨?_, ?_, ?_, ?_, h.output_eq, Nat.le_refl _, fun ws hws => Or.inl ⟨ws, hws, .refl ws⟩⟩
  · rw [hlen]
    exact h.active_lt
  · rw [hids]
    exact h.nodup
  · rw [hids]
    exact h.ids_lt
  · rw [hlen]
    exact h.center_lt

theorem Tracked.setWorkspace (h : Tracked old output n m n₁) {idx : Nat} {ws ws' : Workspace W}
    (hget : m.workspaces[idx]? = some ws) (hfollows : ws.Follows m.output ws') :
    Tracked old output n (m.setWorkspace idx ws') n₁ := by
  refine { h.replace hget hfollows.id_eq with le := h.le, stems := ?_ }
  intro ws₁ hws₁
  rcases List.mem_or_eq_of_mem_set hws₁ with hmem | rfl
  · exact h.stems ws₁ hmem
  · exact (h.stems ws (List.mem_of_getElem? hget)).follows (h.output_eq ▸ hfollows)

theorem lastOf_set {workspaces : List (Workspace W)} (h : LastOf output workspaces) {idx : Nat}
    (hne : idx ≠ workspaces.length - 1) (ws' : Workspace W) :
    LastOf output (workspaces.set idx ws') := by
  obtain ⟨ws, hget, hws⟩ := h
  refine ⟨ws, ?_, hws⟩
  rw [List.length_set, List.getElem?_set_ne hne]
  exact hget

theorem firstOf_set {workspaces : List (Workspace W)} (h : FirstOf output workspaces) {idx : Nat}
    (hne : idx ≠ 0) (ws' : Workspace W) : FirstOf output (workspaces.set idx ws') := by
  obtain ⟨ws, hget, hws⟩ := h
  refine ⟨ws, ?_, hws⟩
  rw [List.getElem?_set_ne hne]
  exact hget

theorem Surrounded.length_eq {last first : Nat} {m' : Monitor W}
    (hs : Surrounded m last first m') :
    m'.workspaces.length = (if m.above && first == 0 then 1 else 0) + m.workspaces.length +
      (if last == m.workspaces.length - 1 then 1 else 0) := by
  obtain ⟨pre, post, hws, hpre, hpost, -, -⟩ := hs.workspaces_eq
  rw [hws, List.length_append, List.length_append, hpre, hpost]

/-- Every workspace but the active one, the ends and the one at `idx` is in use. -/
def TidyBut (m : Monitor W) (idx : Nat) : Prop :=
  ∀ i ws, m.workspaces[i]? = some ws → i ≠ idx → i ≠ m.activeWorkspaceIdx →
    i + 1 < m.workspaces.length → (m.above = true → 0 < i) → ws.hasWindowsOrName = true

theorem Tidy.but (h : m.Tidy) (idx : Nat) : m.TidyBut idx :=
  fun i ws hget _ hne hlt hpos => h i ws hget hne hlt hpos

/-- A workspace came into use, and was surrounded. -/
theorem Closed.filled {old' : List (Workspace W)} {output' : Output} {n' n₂ : Nat}
    {m' : Monitor W} (h : Closed old output n m n₁) {idx : Nat} {ws' : Workspace W}
    (hlt : idx < m.workspaces.length) (hfull : ws'.hasWindowsOrName = true)
    (htracked : Tracked old' output' n' m' n₂)
    (hs : Surrounded (m.setWorkspace idx ws') idx idx m') :
    Closed old' output' n' m' n₂ ∧
      ((m.workspaceSwitch = none → m.TidyBut idx) → m'.workspaceSwitch = none → m'.Tidy) ∧
      m.surroundedIdx idx idx < m'.workspaces.length := by
  have hlen : (m.setWorkspace idx ws').workspaces.length = m.workspaces.length := List.length_set
  have hlen' := hs.length_eq
  rw [hlen] at hlen'
  have hlast := hs.lastSpare (by omega) fun hne =>
    lastOf_set h.last (by omega) ws'
  have hfirst := hs.firstSpare (by omega) fun habove hne =>
    firstOf_set (h.first habove) hne ws'
  refine ⟨⟨htracked, hlast, hfirst, ?_⟩, ?_, ?_⟩
  · intro habove
    rw [hs.above_eq] at habove
    have htwo := h.two habove
    by_cases hzero : idx = 0
    · rw [if_pos (by simpa [hzero] using habove)] at hlen'
      by_cases hone : m.workspaces.length = 1
      · rw [if_pos (by simp [hzero, hone])] at hlen'
        omega
      · omega
    · rw [if_neg (by simp [hzero])] at hlen'
      omega
  · intro htidy hnone i ws₁ hget₁ hne hilt hpos
    obtain ⟨j, hj, hjne, hjlast, hjfirst⟩ := hs.inside hget₁ hne hilt hpos
    replace hj : (m.workspaces.set idx ws')[j]? = some ws₁ := hj
    rw [hlen] at hjlast
    by_cases heq : idx = j
    · subst heq
      rw [List.getElem?_set_self hlt] at hj
      obtain rfl := Option.some.inj hj
      exact hfull
    · rw [List.getElem?_set_ne heq] at hj
      refine htidy (hs.switch_none.mp hnone) j ws₁ hj (Ne.symm heq) hjne (by omega) fun habove => ?_
      rcases hjfirst habove with hpos | ⟨-, rfl⟩
      · exact hpos
      · exact absurd rfl heq
  · replace hlen' : m'.workspaces.length = (if (m.above && idx == 0) = true then 1 else 0) +
      m.workspaces.length + (if (idx == m.workspaces.length - 1) = true then 1 else 0) := hlen'
    rw [surroundedIdx, hlen']
    split <;> omega

/-- A workspace comes into use, and is surrounded. -/
theorem fill_safe (h : Closed old output n m n₁) {idx : Nat} {ws ws' : Workspace W}
    (hget : m.workspaces[idx]? = some ws) (hfollows : ws.Follows m.output ws')
    (hfull : ws'.hasWindowsOrName = true) :
    Safe ((m.setWorkspace idx ws').surround idx idx) n₁ fun m' n₂ =>
      Closed old output n m' n₂ ∧
        ((m.workspaceSwitch = none → m.TidyBut idx) → m'.workspaceSwitch = none → m'.Tidy) ∧
        m.surroundedIdx idx idx < m'.workspaces.length := by
  have hlt : idx < m.workspaces.length := (List.getElem?_eq_some_iff.mp hget).1
  refine (surround_safe (h.toTracked.setWorkspace hget hfollows) idx idx).mono ?_
  rintro m' n₂ ⟨htracked, hs⟩
  exact h.filled hlt hfull htracked hs

theorem receive_full (ws : Workspace W) {windows : List W} (hne : windows ≠ []) (output : Output) :
    (ws.receive windows output).hasWindowsOrName = true := by
  simp [Workspace.receive, Workspace.hasWindowsOrName, Workspace.hasWindows, hne]

/-- Windows are added to a strip that may still have to be cleaned up. -/
theorem addWindows_closed (h : Closed old output n m n₁) {idx : Nat}
    (hidx : idx < m.workspaces.length) {windows : List W} (hne : windows ≠ []) (activate : Bool) :
    Safe (m.addWindows idx windows activate) n₁ fun m' n₂ =>
      Closed old output n m' n₂ ∧
        ((m.workspaceSwitch = none → m.TidyBut idx) → m'.workspaceSwitch = none → m'.Tidy) := by
  have hget : m.workspaces[idx]? = some m.workspaces[idx] := List.getElem?_eq_getElem hidx
  refine safe_bounds_bind hget ?_
  have hfull := receive_full m.workspaces[idx] hne m.output
  refine (fill_safe h hget (Workspace.receive_follows _ windows _) hfull).bind ?_
  rintro m₁ n₂ ⟨h₁, htidy, hnew⟩
  refine safe_applyIf (fun _ => ?_) (fun _ => ⟨h₁, htidy⟩)
  refine (activateWorkspace_returns h₁.toTracked _).mono ?_
  rintro _ _ ⟨rfl, previous, rfl⟩
  refine ⟨h₁.activated previous hnew, fun hm hnone => ?_⟩
  obtain ⟨hswitch, hidx⟩ := WorkspaceSwitch.activate_eq_none hnone
  have htidy₁ := htidy hm hswitch
  rw [← hidx]
  exact htidy₁

theorem addWindows_safe (h : Good old output n m n₁) {idx : Nat}
    (hidx : idx < m.workspaces.length) {windows : List W} (hne : windows ≠ []) (activate : Bool) :
    Safe (m.addWindows idx windows activate) n₁ (Good old output n) :=
  (addWindows_closed h.toClosed hidx hne activate).mono
    fun _ _ hclosed => ⟨hclosed.1, hclosed.2 fun hnone => (h.tidy hnone).but idx⟩

theorem lt_of_findIdx? {α : Type} {l : List α} {p : α → Bool} {i : Nat}
    (h : l.findIdx? p = some i) : i < l.length :=
  (List.findIdx?_eq_some_iff_getElem.mp h).1

theorem addTile_closed [DecidableEq W] (h : Closed old output n m n₁) (tile : W)
    (target : MonitorAddWindowTarget W) (activate : ActivateWindow) (allow : Bool) :
    Safe (m.addTile tile target activate allow) n₁ fun m' n₂ =>
      Closed old output n m' n₂ ∧
        ((m.workspaceSwitch = none → m.Tidy) → m'.workspaceSwitch = none → m'.Tidy) := by
  have hadd : ∀ {idx : Nat}, idx < m.workspaces.length → ∀ activate : Bool,
      Safe (m.addWindows idx [tile] activate) n₁ fun m' n₂ => Closed old output n m' n₂ ∧
        ((m.workspaceSwitch = none → m.Tidy) → m'.workspaceSwitch = none → m'.Tidy) := by
    intro idx hidx activate
    refine (addWindows_closed h hidx (List.cons_ne_nil tile []) activate).mono ?_
    rintro m' n₂ ⟨hclosed, htidy⟩
    exact ⟨hclosed, fun hm => htidy fun hnone => (hm hnone).but idx⟩
  cases target with
  | auto => exact hadd h.active_lt _
  | workspace id | nextTo window =>
    exact safe_lookup_bind fun idx hidx => hadd (lt_of_findIdx? hidx) _

theorem addTile_safe [DecidableEq W] (h : Good old output n m n₁) (tile : W)
    (target : MonitorAddWindowTarget W) (activate : ActivateWindow) (allow : Bool) :
    Safe (m.addTile tile target activate allow) n₁ (Good old output n) :=
  (addTile_closed h.toClosed tile target activate allow).mono
    fun _ _ hclosed => ⟨hclosed.1, hclosed.2 h.tidy⟩

theorem addColumn_safe (h : Good old output n m n₁) {idx : Nat} (hidx : idx < m.workspaces.length)
    {column : List W} (hne : column ≠ []) (activate : Bool) :
    Safe (m.addColumn idx column activate) n₁ (Good old output n) :=
  addWindows_safe h hidx hne activate

/-- A workspace in use is not at an end of the strip. -/
theorem Closed.inside_of_full (h : Closed old output n m n₁) {idx : Nat} {ws : Workspace W}
    (hget : m.workspaces[idx]? = some ws) (hfull : ws.hasWindowsOrName = true) :
    idx ≠ m.workspaces.length - 1 ∧ (m.above = true → idx ≠ 0) := by
  refine ⟨?_, ?_⟩
  · rintro rfl
    obtain ⟨last, hlast, hspare⟩ := h.last
    obtain rfl : last = ws := Option.some.inj (hlast.symm.trans hget)
    rw [spare_not_full hspare] at hfull
    cases hfull
  · rintro habove rfl
    obtain ⟨first, hfirst, hspare⟩ := h.first habove
    obtain rfl : first = ws := Option.some.inj (hfirst.symm.trans hget)
    rw [spare_not_full hspare] at hfull
    cases hfull

theorem Closed.setInside (h : Closed old output n m n₁) {idx : Nat} {ws ws' : Workspace W}
    (hget : m.workspaces[idx]? = some ws) (hfull : ws.hasWindowsOrName = true)
    (hfollows : ws.Follows m.output ws') : Closed old output n (m.setWorkspace idx ws') n₁ := by
  obtain ⟨hlast, hfirst⟩ := h.inside_of_full hget hfull
  refine ⟨h.toTracked.setWorkspace hget hfollows, lastOf_set h.last hlast ws', ?_, ?_⟩
  · exact fun habove => firstOf_set (h.first habove) (hfirst habove) ws'
  · intro habove
    show (m.workspaces.set idx ws').length ≠ 2
    rw [List.length_set]
    exact h.two habove

theorem Good.setInside (h : Good old output n m n₁) {idx : Nat} {ws ws' : Workspace W}
    (hget : m.workspaces[idx]? = some ws) (hfull : ws.hasWindowsOrName = true)
    (hfollows : ws.Follows m.output ws')
    (huse : idx = m.activeWorkspaceIdx ∨ ws'.hasWindowsOrName = true) :
    Good old output n (m.setWorkspace idx ws') n₁ := by
  refine ⟨h.toClosed.setInside hget hfull hfollows, ?_⟩
  intro hnone i ws₁ hi hne hlt hpos
  have hlt' : idx < m.workspaces.length := (List.getElem?_eq_some_iff.mp hget).1
  replace hi : (m.workspaces.set idx ws')[i]? = some ws₁ := hi
  replace hlt : i + 1 < (m.workspaces.set idx ws').length := hlt
  rw [List.length_set] at hlt
  by_cases heq : idx = i
  · subst heq
    rw [List.getElem?_set_self hlt'] at hi
    obtain rfl := Option.some.inj hi
    exact huse.resolve_left hne
  · rw [List.getElem?_set_ne heq] at hi
    exact h.tidy hnone i ws₁ hi hne hlt hpos

theorem full_of_mem {ws : Workspace W} {window : W} (h : window ∈ ws.windows) :
    ws.hasWindowsOrName = true := by
  have hne : ws.windows ≠ [] := List.ne_nil_of_mem h
  simp [Workspace.hasWindowsOrName, Workspace.hasWindows, hne]

theorem addTileToColumn_safe (h : Good old output n m n₁) {idx : Nat} {ws : Workspace W}
    (hget : m.workspaces[idx]? = some ws) (hne : ws.windows ≠ []) (tile : W)
    (activate allow : Bool) :
    Safe (m.addTileToColumn idx tile activate allow) n₁ (Good old output n) := by
  have hlt : idx < m.workspaces.length := (List.getElem?_eq_some_iff.mp hget).1
  obtain ⟨window, hmem⟩ := List.exists_mem_of_ne_nil _ hne
  have hreceived := receive_full ws (List.cons_ne_nil tile []) m.output
  refine safe_bounds_bind hget ?_
  have h₁ : Good old output n (m.setWorkspace idx (ws.receive [tile] m.output)) n₁ :=
    h.setInside hget (full_of_mem hmem) (Workspace.receive_follows ws [tile] _)
      (Or.inr hreceived)
  refine safe_applyIf (fun _ => activateWorkspace_safe h₁ ?_) (fun _ => h₁)
  show idx < (m.workspaces.set idx _).length
  rw [List.length_set]
  exact hlt

theorem removeActiveTile_eq_some [DecidableEq W] {c : Contents W} {ws ws' : Workspace W} {tile : W}
    (h : ws.removeActiveTile c = some (tile, ws')) :
    tile ∈ ws.windows ∧ ∀ output, ws.Follows output ws' := by
  rw [Workspace.removeActiveTile] at h
  split at h
  · split at h
    · rename_i hmem
      obtain ⟨rfl, rfl⟩ := Prod.mk.inj (Option.some.inj h)
      exact ⟨hmem, fun _ => ⟨rfl, Or.inr rfl, Or.inr rfl⟩⟩
    · cases h
  · cases h

theorem removeActiveColumn_eq_some [DecidableEq W] {c : Contents W} {ws ws' : Workspace W}
    {column : List W} (h : ws.removeActiveColumn c = some (column, ws')) :
    column ≠ [] ∧ ws.hasWindowsOrName = true ∧ ∀ output, ws.Follows output ws' := by
  simp only [Workspace.removeActiveColumn] at h
  split at h
  · cases h
  · rename_i hcond
    obtain ⟨rfl, rfl⟩ := Prod.mk.inj (Option.some.inj h)
    have hne : (c.activeColumn ws).filter (fun window => decide (window ∈ ws.windows)) ≠ [] := by
      intro hnil
      rw [hnil] at hcond
      simp at hcond
    obtain ⟨window, hmem⟩ := List.exists_mem_of_ne_nil _ hne
    refine ⟨hne, full_of_mem (of_decide_eq_true (List.mem_filter.mp hmem).2),
      fun _ => ⟨rfl, Or.inr rfl, Or.inr rfl⟩⟩

theorem moveActiveTileTo_safe [DecidableEq W] (c : Contents W) (h : Good old output n m n₁)
    {newIdx : Nat} (hnew : newIdx < m.workspaces.length) (focus : Bool) :
    Safe (m.moveActiveTileTo c newIdx focus) n₁ (Good old output n) := by
  have hactive := h.active_lt
  have hsource : m.workspaces[m.activeWorkspaceIdx]? = some m.workspaces[m.activeWorkspaceIdx] :=
    List.getElem?_eq_getElem hactive
  rw [moveActiveTileTo]
  refine safe_early h fun _ => ?_
  refine safe_bounds_bind (List.getElem?_eq_getElem hnew) ?_
  refine safe_bounds_bind hsource ?_
  split
  · exact safe_pure h
  · next tile source heq =>
    obtain ⟨hmem, hfollows⟩ := removeActiveTile_eq_some heq
    exact addTile_safe (h.setInside hsource (full_of_mem hmem) (hfollows _) (Or.inl rfl)) _ _ _ _

theorem moveToWorkspaceUp_safe [DecidableEq W] (c : Contents W) (h : Good old output n m n₁)
    (focus : Bool) : Safe (m.moveToWorkspaceUp c focus) n₁ (Good old output n) :=
  moveActiveTileTo_safe c h (by have := h.active_lt; omega) focus

theorem moveToWorkspaceDown_safe [DecidableEq W] (c : Contents W) (h : Good old output n m n₁)
    (focus : Bool) : Safe (m.moveToWorkspaceDown c focus) n₁ (Good old output n) :=
  moveActiveTileTo_safe c h (by have := h.active_lt; omega) focus

/-- The strip is cleaned up unless a switch is in progress, which will do so. -/
theorem settle_safe (h : Closed old output n m n₁) :
    Safe (applyIf m.workspaceSwitch.isNone cleanUpWorkspaces m) n₁ (Good old output n) := by
  refine safe_applyIf (fun hnone => ?_) (fun hsome => ⟨h, fun hnone => ?_⟩)
  · have hswitch := Option.isNone_iff_eq_none.mp hnone
    exact (cleanUpWorkspaces_safe h.toTracked hswitch h.last h.first).mono fun _ _ hgood => hgood.1
  · rw [hnone] at hsome
    cases hsome

theorem takeTile_eq_some [DecidableEq W] {c : Contents W} {ws ws' : Workspace W}
    {window : Option W} {tile : W} (hwindow : ∀ w ∈ window, w ∈ ws.windows)
    (h : takeTile c ws window = some (tile, ws')) :
    ws.hasWindowsOrName = true ∧ ∀ output, ws.Follows output ws' := by
  cases window with
  | none =>
    obtain ⟨hmem, hfollows⟩ := removeActiveTile_eq_some h
    exact ⟨full_of_mem hmem, hfollows⟩
  | some w =>
    obtain ⟨rfl, rfl⟩ := Prod.mk.inj (Option.some.inj h)
    exact ⟨full_of_mem (hwindow w rfl), fun _ => ⟨rfl, Or.inr rfl, Or.inr rfl⟩⟩

/-- The workspace an operation is about, and that it has the window. -/
theorem sourceWorkspaceIdx_safe [DecidableEq W] (h : Tracked old output n m n₁)
    (window : Option W) :
    Safe (m.sourceWorkspaceIdx window) n₁ fun idx n₂ => n₂ = n₁ ∧
      ∃ ws, m.workspaces[idx]? = some ws ∧ ∀ w ∈ window, w ∈ ws.windows := by
  cases window with
  | none => exact safe_pure ⟨rfl, _, List.getElem?_eq_getElem h.active_lt, by simp⟩
  | some w =>
    refine safe_lookup fun idx hidx => ⟨rfl, ?_⟩
    obtain ⟨hlt, hhas, -⟩ := List.findIdx?_eq_some_iff_getElem.mp hidx
    refine ⟨_, List.getElem?_eq_getElem hlt, ?_⟩
    rintro _ ⟨⟩
    exact of_decide_eq_true hhas

section

variable (c : Contents W) (h : Good old output n m n₁)
include h

theorem moveToWorkspace_safe [DecidableEq W] (window : Option W) (idx : Nat)
    (activate : ActivateWindow) :
    Safe (m.moveToWorkspace c window idx activate) n₁ (Good old output n) := by
  have hactive := h.active_lt
  refine (sourceWorkspaceIdx_safe h.toTracked window).bind ?_
  rintro sourceIdx n₂ ⟨rfl, source, hsource, hwindow⟩
  refine safe_early h fun _ => ?_
  refine safe_bounds_bind (List.getElem?_eq_getElem (by omega)) ?_
  refine safe_bounds_bind (List.getElem?_eq_getElem hactive) ?_
  refine safe_bounds_bind hsource ?_
  split
  · exact safe_pure h
  · next tile source' heq =>
    obtain ⟨hfull, hfollows⟩ := takeTile_eq_some hwindow heq
    refine (addTile_closed (h.toClosed.setInside hsource hfull (hfollows _)) _ _ _ _).bind ?_
    rintro m₁ n₂ ⟨h₁, -⟩
    exact settle_safe h₁

theorem moveActiveColumnTo_safe [DecidableEq W] {newIdx : Nat} (hnew : newIdx < m.workspaces.length)
    (activate : Bool) {floating : Counted (Monitor W)}
    (hfloating : Safe floating n₁ (Good old output n)) :
    Safe (m.moveActiveColumnTo c newIdx activate floating) n₁ (Good old output n) := by
  have hactive := h.active_lt
  have hsource : m.workspaces[m.activeWorkspaceIdx]? = some m.workspaces[m.activeWorkspaceIdx] :=
    List.getElem?_eq_getElem hactive
  rw [moveActiveColumnTo]
  refine safe_early h fun _ => ?_
  refine safe_bounds_bind hsource ?_
  refine safe_ite (fun _ => hfloating) (fun _ => ?_)
  split
  · exact safe_pure h
  · next column source heq =>
    obtain ⟨hne, hfull, hfollows⟩ := removeActiveColumn_eq_some heq
    refine addColumn_safe (h.setInside hsource hfull (hfollows _) (Or.inl rfl)) ?_ hne activate
    show newIdx < (m.workspaces.set _ source).length
    rw [List.length_set]
    exact hnew

theorem moveColumnToWorkspaceUp_safe [DecidableEq W] (activate : Bool) :
    Safe (m.moveColumnToWorkspaceUp c activate) n₁ (Good old output n) :=
  moveActiveColumnTo_safe c h (by have := h.active_lt; omega) activate
    (moveToWorkspaceUp_safe c h activate)

theorem moveColumnToWorkspaceDown_safe [DecidableEq W] (activate : Bool) :
    Safe (m.moveColumnToWorkspaceDown c activate) n₁ (Good old output n) :=
  moveActiveColumnTo_safe c h (by have := h.active_lt; omega) activate
    (moveToWorkspaceDown_safe c h activate)

theorem moveColumnToWorkspace_safe [DecidableEq W] (idx : Nat) (activate : Bool) :
    Safe (m.moveColumnToWorkspace c idx activate) n₁ (Good old output n) :=
  moveActiveColumnTo_safe c h (by have := h.active_lt; omega) activate
    (moveToWorkspace_safe c h none idx _)

theorem moveDownOrToWorkspaceDown_safe [DecidableEq W] :
    Safe (m.moveDownOrToWorkspaceDown c) n₁ (Good old output n) :=
  safe_bounds_bind (List.getElem?_eq_getElem h.active_lt)
    (safe_early h (fun _ => moveToWorkspaceDown_safe c h true))

theorem moveUpOrToWorkspaceUp_safe [DecidableEq W] :
    Safe (m.moveUpOrToWorkspaceUp c) n₁ (Good old output n) :=
  safe_bounds_bind (List.getElem?_eq_getElem h.active_lt)
    (safe_early h (fun _ => moveToWorkspaceUp_safe c h true))

theorem focusWindowOrWorkspaceDown_safe :
    Safe (m.focusWindowOrWorkspaceDown c) n₁ (Good old output n) :=
  safe_bounds_bind (List.getElem?_eq_getElem h.active_lt)
    (safe_early h (fun _ => switchWorkspaceDown_safe h))

theorem focusWindowOrWorkspaceUp_safe :
    Safe (m.focusWindowOrWorkspaceUp c) n₁ (Good old output n) :=
  safe_bounds_bind (List.getElem?_eq_getElem h.active_lt)
    (safe_early h (fun _ => switchWorkspaceUp_safe h))

/-- The name of a workspace is taken away. -/
theorem unnameWorkspace_safe (id : WorkspaceId) :
    Safe (m.unnameWorkspace id) n₁ fun p n₂ => Good old output n p.1 n₂ := by
  rw [unnameWorkspace]
  split
  · exact safe_pure h
  · next idx hidx =>
    have hlt := lt_of_findIdx? hidx
    have hget : m.workspaces[idx]? = some m.workspaces[idx] := List.getElem?_eq_getElem hlt
    refine safe_bounds_bind hget ?_
    have hclosed : Closed old output n (m.setWorkspace idx m.workspaces[idx].unname) n₁ := by
      by_cases hfull : m.workspaces[idx].hasWindowsOrName = true
      · exact h.toClosed.setInside hget hfull (Workspace.unname_follows _)
      · -- A workspace without a name stays as it is.
        have hname : m.workspaces[idx].name = none := by
          simp only [Workspace.hasWindowsOrName, Bool.or_eq_true, not_or] at hfull
          simpa using hfull.2
        have hsame : m.workspaces[idx].unname = m.workspaces[idx] := by
          rw [Workspace.unname, ← hname]
        rw [hsame, Monitor.setWorkspace, List.set_getElem_self]
        exact h.toClosed
    refine (settle_safe hclosed).bind fun m₁ n₂ h₁ => ?_
    exact safe_pure h₁

end

/-! ## Workspaces that come and go -/

theorem Tracked.self (h : Tracked old output n m n₁) : Tracked m.workspaces output n₁ m n₁ :=
  { h with
    le := Nat.le_refl _
    stems := fun ws hws => Or.inl ⟨ws, hws, .refl ws⟩ }

theorem Closed.self (h : Closed old output n m n₁) : Closed m.workspaces output n₁ m n₁ :=
  { h with toTracked := h.toTracked.self }

theorem Good.self (h : Good old output n m n₁) : Good m.workspaces output n₁ m n₁ :=
  { h with toTracked := h.toTracked.self }

theorem Tracked.trans {m' : Monitor W} {n₂ : Nat} (h : Tracked old output n m n₁)
    (h' : Tracked m.workspaces output n₁ m' n₂) : Tracked old output n m' n₂ := by
  refine { h' with le := Nat.le_trans h.le h'.le, stems := fun ws hws => ?_ }
  rcases h'.stems ws hws with ⟨ws₀, hmem, hfollows⟩ | ⟨hnew, hname, hown⟩
  · exact (h.stems ws₀ hmem).follows hfollows
  · exact Or.inr ⟨Nat.le_trans h.le hnew, hname, hown⟩

theorem Good.trans {m' : Monitor W} {n₂ : Nat} (h : Tracked old output n m n₁)
    (h' : Good m.workspaces output n₁ m' n₂) : Good old output n m' n₂ :=
  { h' with toTracked := h.trans h'.toTracked }

theorem removeWorkspaceByIdx_safe (h : Good old output n m n₁) {idx : Nat} {ws : Workspace W}
    (hget : m.workspaces[idx]? = some ws) :
    Safe (m.removeWorkspaceByIdx idx) n₁ fun p n₂ =>
      p.1 = ws ∧ Good old output n p.2 n₂ ∧ ws.id ∉ p.2.ids := by
  have hlt : idx < m.workspaces.length := (List.getElem?_eq_some_iff.mp hget).1
  have hactive := h.active_lt
  refine (surround_safe h.toTracked idx idx).bind ?_
  rintro m₁ n₂ ⟨h₁, hs⟩
  have hlast := hs.lastSpare (by omega) fun _ => h.last
  have hfirst := hs.firstSpare (by omega) fun habove _ => h.first habove
  have hlen := hs.length_eq
  have hactive₁ := h₁.active_lt
  -- The workspace to remove is between two others now.
  obtain ⟨pre, post, hws, hpre, hpost, -, -⟩ := hs.workspaces_eq
  have hidx : m.surroundedIdx idx idx = pre.length + idx := by
    rw [surroundedIdx, hpre]
    split <;> omega
  have hget₁ : m₁.workspaces[m.surroundedIdx idx idx]? = some ws := by
    rw [hidx, hws, List.append_assoc, List.getElem?_append_right (by omega),
      List.getElem?_append_left (by omega), Nat.add_sub_cancel_left]
    exact hget
  rw [hws, List.length_append, List.length_append] at hlen
  have hnext : m.surroundedIdx idx idx + 1 < m₁.workspaces.length := by
    rw [hidx, hws, List.length_append, List.length_append]
    by_cases heq : idx = m.workspaces.length - 1
    · rw [if_pos (by simpa using heq)] at hpost
      omega
    · omega
  refine safe_bounds_bind (a := (ws, m₁.workspaces.eraseIdx (m.surroundedIdx idx idx))) ?_ ?_
  · rw [Vec.remove, hget₁]
    rfl
  have hactive₂ : (if m.surroundedIdx idx idx ≤ m₁.activeWorkspaceIdx ∧ 0 < m₁.activeWorkspaceIdx
      then m₁.activeWorkspaceIdx - 1 else m₁.activeWorkspaceIdx) + 1 < m₁.workspaces.length := by
    split <;> omega
  have h₂ := (h₁.stopped hactive₁ m₁.previousWorkspaceId).erase
    (show m.surroundedIdx idx idx < m₁.workspaces.length by omega) hactive₂ rfl
  have hfirst₂ : m₁.above = true →
      FirstOf m₁.output (m₁.workspaces.eraseIdx (m.surroundedIdx idx idx)) := by
    intro habove
    refine firstOf_eraseIdx (hfirst habove) ?_
    rw [hs.above_eq] at habove
    by_cases hzero : idx = 0
    · rw [surroundedIdx, if_pos (by simp [habove, hzero])]
      omega
    · omega
  have hlast₂ := lastOf_eraseIdx hlast hnext
  refine (cleanUpWorkspaces_safe h₂.self rfl hlast₂ hfirst₂).bind ?_
  rintro m₃ n₃ ⟨hgood, -⟩
  have hnot : ws.id ∉ (m₁.workspaces.eraseIdx (m.surroundedIdx idx idx)).map Workspace.id := by
    obtain ⟨hlt₁, rfl⟩ := List.getElem?_eq_some_iff.mp hget₁
    have hperm := (List.getElem_cons_eraseIdx_perm hlt₁).map Workspace.id
    exact (List.nodup_cons.mp (hperm.nodup_iff.mpr h₁.nodup)).1
  refine safe_pure ⟨rfl, Good.trans h₂ hgood, fun hmem => ?_⟩
  rcases hgood.old_or_new _ hmem with hold | hnew
  · exact hnot hold
  · have hlt₁ := h₁.ids_lt ws.id (List.mem_map_of_mem (List.mem_of_getElem? hget₁))
    exact absurd hnew (Nat.not_le.mpr hlt₁)

theorem lastOf_insertIdx {workspaces : List (Workspace W)} {idx : Nat}
    (h : LastOf output workspaces) (hidx : idx < workspaces.length) (ws' : Workspace W) :
    LastOf output (workspaces.insertIdx idx ws') := by
  obtain ⟨ws, hget, hws⟩ := h
  refine ⟨ws, ?_, hws⟩
  rw [List.length_insertIdx_of_le_length (by omega), List.getElem?_insertIdx_of_gt (by omega)]
  exact hget

theorem firstOf_insertIdx {workspaces : List (Workspace W)} {idx : Nat}
    (h : FirstOf output workspaces) (hidx : 0 < idx) (ws' : Workspace W) :
    FirstOf output (workspaces.insertIdx idx ws') := by
  obtain ⟨ws, hget, hws⟩ := h
  refine ⟨ws, ?_, hws⟩
  rw [List.getElem?_insertIdx_of_lt hidx]
  exact hget

/-- Other workspaces are among those of the strip. -/
theorem Tracked.withWorkspaces (h : Tracked old output n m n₁)
    {workspaces new : List (Workspace W)} {active : Nat} (hactive : active < workspaces.length)
    (hlen : m.workspaces.length ≤ workspaces.length)
    (hperm : workspaces.Perm (new ++ m.workspaces)) (hnew : (new.map Workspace.id).Nodup)
    (hold : ∀ ws ∈ new, ws.Stems old output n ∧ ws.id ∉ m.ids ∧ ws.id < n₁) :
    Tracked old output n { m with workspaces := workspaces, activeWorkspaceIdx := active } n₁ := by
  have hids : (workspaces.map Workspace.id).Perm (new.map Workspace.id ++ m.ids) := by
    have := hperm.map Workspace.id
    rwa [List.map_append] at this
  refine ⟨hactive, ?_, ?_, ?_, h.output_eq, h.le, ?_⟩
  · show (workspaces.map Workspace.id).Nodup
    rw [hids.nodup_iff, List.nodup_append]
    refine ⟨hnew, h.nodup, fun a ha b hb heq => ?_⟩
    obtain ⟨ws, hws, rfl⟩ := List.mem_map.mp ha
    exact (hold ws hws).2.1 (heq ▸ hb)
  · intro id hid
    rcases List.mem_append.mp (hids.mem_iff.mp hid) with hid | hid
    · obtain ⟨ws, hws, rfl⟩ := List.mem_map.mp hid
      exact (hold ws hws).2.2
    · exact h.ids_lt id hid
  · intro g hg
    exact Nat.lt_of_lt_of_le (h.center_lt g hg) hlen
  · intro ws hws
    rcases List.mem_append.mp (hperm.mem_iff.mp hws) with hws | hws
    · exact (hold ws hws).1
    · exact h.stems ws hws

/-- The end of an operation: the switch is stopped, and the strip is cleaned up. -/
theorem stop_safe (h : Tracked old output n m n₁) {active : Nat}
    (hactive : active < m.workspaces.length) (previous : Option WorkspaceId)
    (hlast : m.LastSpare) (hfirst : m.above = true → m.FirstSpare) :
    Safe ({ m with
      activeWorkspaceIdx := active
      workspaceSwitch := none
      previousWorkspaceId := previous }.cleanUpWorkspaces) n₁ (Good old output n) :=
  (cleanUpWorkspaces_safe (h.stopped hactive previous) rfl hlast hfirst).mono
    fun _ _ hgood => hgood.1

theorem insertWorkspace_safe (h : Good old output n m n₁) {ws : Workspace W} (hold : ws ∈ old)
    (hnot : ws.id ∉ m.ids) (hid : ws.id < n₁) {idx : Nat} (hidx : idx ≤ m.workspaces.length)
    (activate : Bool) :
    Safe (m.insertWorkspace ws idx activate) n₁ (Good old output n) := by
  have hactive := h.active_lt
  simp only [insertWorkspace]
  generalize hi : (if idx = m.workspaces.length then idx - 1 else idx) = i
  have hi_lt : i < m.workspaces.length := by
    rw [← hi]
    split <;> omega
  refine (addTop_safe h.toTracked.self (i == 0 && m.above)).bind ?_
  rintro m₁ n₂ ⟨hself, htop⟩
  have h₁ := h.toTracked.trans hself
  have hactive₁ := h₁.active_lt
  have hlen₁ := htop.length_eq
  generalize hj : (if (i == 0 && m.above) = true then i + 1 else i) = j
  have hj_lt : j < m₁.workspaces.length := by
    rw [← hj, hlen₁]
    split <;> omega
  have hlast := lastOf_insertIdx (htop.lastSpare (by omega) h.last) hj_lt (ws.setOutput m.output)
  have hfirst : m₁.above = true →
      FirstOf m₁.output (m₁.workspaces.insertIdx j (ws.setOutput m.output)) := by
    intro habove
    rw [htop.above_eq] at habove
    refine firstOf_insertIdx (htop.firstSpare fun _ => h.first habove) ?_ _
    rw [← hj]
    by_cases hzero : i = 0
    · rw [if_pos (by simp [hzero, habove])]
      omega
    · split <;> omega
  have hins : Vec.insert m₁.workspaces j (ws.setOutput m.output) =
      some (m₁.workspaces.insertIdx j (ws.setOutput m.output)) := by
    rw [Vec.insert, if_pos (by omega)]
  have hlen₂ := List.length_insertIdx_of_le_length (show j ≤ m₁.workspaces.length by omega)
    (ws.setOutput m.output)
  refine safe_bounds_bind hins ?_
  -- The workspace came from elsewhere, and the one above it is new.
  have hnot₁ : ws.id ∉ m₁.ids := by
    intro hmem
    rcases hself.old_or_new _ hmem with hmem | hge
    · exact hnot hmem
    · exact absurd hid (Nat.not_lt.mpr hge)
  have hactive₂ : (if j ≤ m₁.activeWorkspaceIdx then m₁.activeWorkspaceIdx + 1
      else m₁.activeWorkspaceIdx) <
      (m₁.workspaces.insertIdx j (ws.setOutput m.output)).length := by
    rw [hlen₂]
    split <;> omega
  have hperm : (m₁.workspaces.insertIdx j (ws.setOutput m.output)).Perm
      ([ws.setOutput m.output] ++ m₁.workspaces) :=
    List.perm_insertIdx _ _ (Nat.le_of_lt hj_lt)
  have h₂ := h₁.withWorkspaces hactive₂ (by omega) hperm (by simp) fun ws' hws' => by
    rw [List.mem_singleton.mp hws']
    refine ⟨Or.inl ⟨ws, hold, ?_⟩, hnot₁, Nat.lt_of_lt_of_le hid hself.le⟩
    rw [h.output_eq]
    exact ws.setOutput_follows output
  cases activate with
  | false =>
    exact stop_safe h₂ h₂.active_lt m₁.previousWorkspaceId hlast hfirst
  | true =>
    refine (activateWorkspace_returns
      (h₂.stopped h₂.active_lt m₁.previousWorkspaceId) j).bind ?_
    rintro _ _ ⟨rfl, previous, rfl⟩
    have hj' : j < (m₁.workspaces.insertIdx j (ws.setOutput m.output)).length := by omega
    exact stop_safe h₂ hj' previous hlast hfirst

/-- Workspaces in use are put before the last one. -/
theorem appendWorkspaces_safe (h : Good old output n m n₁) {workspaces : List (Workspace W)}
    (hnodup : (workspaces.map Workspace.id).Nodup)
    (hold : ∀ ws ∈ workspaces, ws ∈ old ∧ ws.id ∉ m.ids ∧ ws.id < n₁)
    (hfull : ∀ ws ∈ workspaces, ws.hasWindowsOrName = true) :
    Safe (m.appendWorkspaces workspaces) n₁ (Good old output n) := by
  have hactive := h.active_lt
  rw [appendWorkspaces]
  refine safe_early h fun hne => ?_
  obtain ⟨empty, hget, hspare⟩ := h.last
  obtain ⟨rest, hrest⟩ : ∃ rest, m.workspaces = rest ++ [empty] := by
    refine ⟨m.workspaces.dropLast, ?_⟩
    rw [← List.getLast?_eq_getElem?] at hget
    exact (List.dropLast_append_getLast? empty hget).symm
  have hlen : m.workspaces.length = rest.length + 1 := by
    rw [hrest, List.length_append]
    rfl
  refine safe_bounds_bind (a := (empty, rest)) ?_ ?_
  · rw [Vec.remove, hget, hlen, Nat.add_sub_cancel, hrest, List.eraseIdx_append_of_length_le
      (Nat.le_refl _)]
    simp
  generalize hnew : workspaces.map (fun ws => ws.setOutput m.output) = new
  have hids : new.map Workspace.id = workspaces.map Workspace.id := by
    rw [← hnew, List.map_map]
    rfl
  have hnewlen : 0 < new.length := by
    rw [← hnew, List.length_map]
    exact List.length_pos_iff.mpr hne
  have hperm : (rest ++ new ++ [empty]).Perm (new ++ m.workspaces) := by
    rw [hrest, ← List.append_assoc]
    exact List.perm_append_comm.append_right _
  have h₁ := h.toTracked.withWorkspaces (show m.activeWorkspaceIdx <
      (rest ++ new ++ [empty]).length by simp; omega) (by simp; omega) hperm (hids ▸ hnodup)
      fun ws hws => by
    rw [← hnew] at hws
    obtain ⟨ws', hws', rfl⟩ := List.mem_map.mp hws
    obtain ⟨hmem, hnot, hlt⟩ := hold ws' hws'
    refine ⟨Or.inl ⟨ws', hmem, ?_⟩, hnot, hlt⟩
    rw [h.output_eq]
    exact ws'.setOutput_follows output
  obtain ⟨first, hfirst⟩ : ∃ first, (rest ++ new ++ [empty])[0]? = some first :=
    ⟨_, List.getElem?_eq_getElem (by simp)⟩
  refine safe_bounds_bind hfirst ?_
  refine (addTop_safe h₁ (m.above && first.hasWindowsOrName)).bind ?_
  rintro m₂ n₂ ⟨h₂, htop⟩
  have hactive₂ := h₂.active_lt
  have hlast₁ : LastOf m.output (rest ++ new ++ [empty]) := by
    refine ⟨empty, ?_, hspare⟩
    simp
  -- A first workspace that is in use has got a new one above it.
  have hfirst₁ : m.above = true → (m.above && first.hasWindowsOrName) = false →
      FirstOf m.output (rest ++ new ++ [empty]) := by
    intro habove hnot
    refine ⟨first, hfirst, ?_⟩
    rw [habove, Bool.true_and] at hnot
    obtain ⟨ws, hws, hspare'⟩ := h.first habove
    cases rest with
    | nil =>
      obtain ⟨ws', hws'⟩ : ∃ ws', new[0]? = some ws' := ⟨_, List.getElem?_eq_getElem hnewlen⟩
      rw [List.nil_append, List.getElem?_append_left hnewlen, hws'] at hfirst
      obtain rfl := Option.some.inj hfirst
      obtain ⟨ws'', hmem, rfl⟩ : ∃ ws'' ∈ workspaces, ws''.setOutput m.output = ws' := by
        rw [← List.mem_map, hnew]
        exact List.mem_of_getElem? hws'
      have := hfull ws'' hmem
      rw [show ws''.hasWindowsOrName = (ws''.setOutput m.output).hasWindowsOrName from rfl,
        hnot] at this
      cases this
    | cons a rest =>
      rw [hrest] at hws
      obtain rfl : a = ws := by simpa using hws
      obtain rfl : a = first := by simpa using hfirst
      exact hspare'
  refine stop_safe h₂ ?_ m₂.previousWorkspaceId (htop.lastSpare (by simp) hlast₁) fun habove => ?_
  · split <;> omega
  · refine htop.firstSpare fun hnot => hfirst₁ ?_ hnot
    rw [htop.above_eq] at habove
    exact habove

end Monitor

end Cidre.Workspaces
