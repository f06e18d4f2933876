/-
  Cidre.Workspaces.LayoutStripOps

  The operations on names and on whole workspaces, the gestures and the interactive
  moves keep a layout in order.  A name is the one thing that can be given to a
  workspace at an end of a strip and leave that strip without its empty workspace.
-/

import Cidre.Workspaces.LayoutStrips

namespace Cidre.Workspaces

open Cidre.Counter

variable {W : Type}

namespace Layout

open Monitor (KeepsOrder)

variable {l : Layout W} {n primary active : Nat} {monitors : List (Monitor W)}

/-! ## Names -/

theorem nameLastOn_after (h : l.InOrder n) {idx : Nat} (hidx : idx < l.monitors.length)
    (name : String) : Safe (l.nameLastOn idx name) n fun p n' => After l n p.1 n' := by
  rw [nameLastOn]
  split
  · exact safe_pure h.after
  · next monitors primary active hset =>
    rw [monitors_of_normal hset] at hidx
    have hordered := (inOrder_of_normal hset).mp h
    have hget : monitors[idx]? = some monitors[idx] := List.getElem?_eq_getElem hidx
    refine safe_bounds_bind hget ?_
    refine (Monitor.nameLast_safe (hordered.get hget) name).bind ?_
    rintro ⟨m', wsIdx⟩ n' hm'
    exact safe_pure (after_withMonitors hset (hordered.set hm'.le hm'.inOrder idx) hm'.le
      (settled_set hget hm'.settles))

theorem ensureNamedWorkspaceOnActiveMonitor_after (h : l.InOrder n) (name : String) :
    Safe (l.ensureNamedWorkspaceOnActiveMonitor name) n fun p n' => After l n p.1 n' := by
  rw [ensureNamedWorkspaceOnActiveMonitor]
  split
  · exact safe_pure h.after
  · next monitors primary active hset =>
    have hlt := ((inOrder_of_normal hset).mp h).active_lt
    refine safe_bounds_bind (List.getElem?_eq_getElem hlt) ?_
    split
    · exact safe_pure h.after
    · rw [← monitors_of_normal hset] at hlt
      exact nameLastOn_after h hlt name

theorem getD_findIdx?_lt {p : Monitor W → Bool} {default : Nat}
    (h : default < monitors.length) : (monitors.findIdx? p).getD default < monitors.length := by
  cases hidx : monitors.findIdx? p with
  | none => exact h
  | some idx => exact Monitor.lt_of_findIdx? hidx

theorem ensureNamedWorkspaceOnMonitor_after (h : l.InOrder n) (name : String)
    (outputName : Option String) :
    Safe (l.ensureNamedWorkspaceOnMonitor name outputName) n fun p n' => After l n p.1 n' := by
  rw [ensureNamedWorkspaceOnMonitor]
  split
  · exact safe_pure h.after
  · split
    · exact safe_pure h.after
    · next monitors primary active hset =>
      have hlt := ((inOrder_of_normal hset).mp h).active_lt
      refine nameLastOn_after h ?_ name
      rw [monitors_of_normal hset]
      cases outputName with
      | none => exact hlt
      | some output => exact getD_findIdx?_lt hlt

theorem configuredMonitorIdx_lt (h : Ordered monitors primary active n)
    (openOnOutput : Option String) :
    configuredMonitorIdx monitors primary active openOnOutput < monitors.length := by
  cases openOnOutput with
  | none => exact h.active_lt
  | some name => exact getD_findIdx?_lt h.primary_lt

/-- A workspace comes to a monitor. -/
theorem insertWorkspace_good {m : Monitor W} (h : m.InOrder n) (ws : Workspace W)
    (hnot : ws.id ∉ m.ids) (hlt : ws.id < n) {idx : Nat} (hidx : idx ≤ m.workspaces.length)
    (activate : Bool) :
    Safe (m.insertWorkspace ws idx activate) n (Monitor.Good (ws :: m.workspaces) m.output n) :=
  Monitor.insertWorkspace_safe (h.among (List.subset_cons_self ws _)) List.mem_cons_self hnot hlt
    hidx activate

/-- The workspace that came is the monitor's own. -/
theorem since_of_own {m m' : Monitor W} {ws : Workspace W} {n' : Nat}
    (hown : ws.originalOutput = OutputId.new m.output)
    (h : Monitor.Good (ws :: m.workspaces) m.output n m' n') : Monitor.Since m n m' n' := by
  refine ⟨h.le, h.inOrder, h.output_eq, fun ws' hws' => ?_⟩
  rcases h.stems ws' hws' with ⟨ws₀, hmem, hfollows⟩ | ⟨-, -, hown'⟩
  · rcases hfollows.output_eq with hown' | hsame
    · exact Or.inl hown'
    · rcases List.mem_cons.mp hmem with rfl | hmem
      · exact Or.inl (hsame.trans hown)
      · exact Or.inr ⟨ws₀, hmem, hsame⟩
  · exact Or.inl hown'

theorem ensureNamedWorkspace_inOrder (h : l.InOrder n) (config : WorkspaceConfig) :
    Safe (l.ensureNamedWorkspace config) n fun l' n' => l'.InOrder n' := by
  rw [ensureNamedWorkspace]
  refine safe_early h fun _ => ?_
  split
  · next monitors primary active hset =>
    have hordered := (inOrder_of_normal hset).mp h
    have hlt := configuredMonitorIdx_lt hordered config.openOnOutput
    have hids := (hordered.get (List.getElem?_eq_getElem hlt)).ids_lt
    refine safe_fresh_bind ?_
    have hm := (hordered.get (List.getElem?_eq_getElem hlt)).mono (Nat.le_succ n)
    refine (onMonitor_safe hset (List.getElem?_eq_getElem hlt) (insertWorkspace_good hm _
      (fun hin => Nat.lt_irrefl n (hids n hin)) (Nat.lt_succ_self n) (Nat.zero_le _) false)).mono ?_
    rintro _ n' ⟨m', hm', rfl⟩
    exact (hordered.mono (Nat.le_succ n)).set hm'.le hm'.inOrder _
  · next workspaces hset =>
    refine safe_fresh_bind (safe_pure fun ws hws => ?_)
    rcases List.mem_cons.mp hws with rfl | hws
    · simp [Workspace.newWithConfigNoOutputs, Workspace.hasWindowsOrName]
    · exact (inOrder_of_noOutputs hset).mp h ws hws

/-- The place is an end of the strip of a monitor that is not the active one. -/
def strayEnd (l : Layout W) (place : Place) : Bool :=
  match l.monitorSet with
  | .normal monitors _ active =>
      place.mon != active && monitors[place.mon]?.any fun m =>
        place.idx == m.workspaces.length - 1 || (m.above && place.idx == 0)
  | .noOutputs _ => false

theorem workspaceAt_of_normal (hset : l.monitorSet = .normal monitors primary active)
    {place : Place} {ws : Workspace W} (h : l.workspaceAt place = some ws) :
    ∃ m, monitors[place.mon]? = some m ∧ m.workspaces[place.idx]? = some ws := by
  obtain ⟨strip, hstrip, hget⟩ := Option.bind_eq_some_iff.mp h
  rw [strips, hset, List.getElem?_map] at hstrip
  obtain ⟨m, hm, rfl⟩ := Option.map_eq_some_iff.mp hstrip
  exact ⟨m, hm, hget⟩

/-- A workspace that is not at an end of another strip than the active one gets a name. -/
theorem setWorkspaceAt_after (h : l.InOrder n) (hd : Distinct l.workspaces n) {place : Place}
    {ws : Workspace W} (hget : l.workspaceAt place = some ws) (hstray : l.strayEnd place = false)
    (name : String) :
    Safe (do
      let l ← l.setWorkspaceAt place (ws.rename name)
      l.onActiveMonitor (surroundNamed ws.id)) n (After l n) := by
  cases hset : l.monitorSet with
  | noOutputs workspaces =>
    have hfull := full_set ((inOrder_of_noOutputs hset).mp h) (Monitor.rename_full ws name)
      place.idx
    simp only [setWorkspaceAt, hset]
    have hset' : Safe (pure (l.withWorkspaces (workspaces.set place.idx (ws.rename name)))) n
        fun l' n' => l' = l.withWorkspaces (workspaces.set place.idx (ws.rename name)) ∧ n' = n :=
      safe_pure ⟨rfl, rfl⟩
    refine hset'.bind ?_
    rintro _ n₁ ⟨rfl, hn₁⟩
    rw [hn₁]
    exact safe_pure (after_withWorkspaces hset (Nat.le_refl n) hfull)
  | normal monitors primary active =>
    have hordered := (inOrder_of_normal hset).mp h
    have hactive := hordered.active_lt
    obtain ⟨m, hm, hws⟩ := workspaceAt_of_normal hset hget
    have hmon := (List.getElem?_eq_some_iff.mp hm).1
    have hrenames : m.Settles (m.setWorkspace place.idx (ws.rename name)) :=
      Monitor.settles_setWorkspace hws (Or.inr rfl)
    generalize hm₁ : m.setWorkspace place.idx (ws.rename name) = m₁ at hrenames
    have hrenamed : Safe (pure (m.setWorkspace place.idx (ws.rename name))) n
        fun m' n' => m' = m₁ ∧ n' = n := safe_pure ⟨hm₁, rfl⟩
    simp only [setWorkspaceAt, hset]
    refine (onMonitor_safe hset hm
      (f := fun m => pure (m.setWorkspace place.idx (ws.rename name))) hrenamed).bind ?_
    rintro _ n₁ ⟨_, ⟨hm', hn₁⟩, rfl⟩
    rw [hn₁, hm']
    have hset₁ : (l.withMonitors (monitors.set place.mon m₁) primary active).monitorSet =
        .normal (monitors.set place.mon m₁) primary active := rfl
    rw [onActiveMonitor_withMonitors]
    by_cases heq : place.mon = active
    · -- The workspace is on the strip where the end of the call looks for it.
      subst heq
      have hsurround := Monitor.rename_safe (hordered.get hm) hws name
      rw [hm₁] at hsurround
      refine (onMonitor_safe hset₁ (List.getElem?_set_self hmon) hsurround).mono ?_
      rintro _ n₂ ⟨m₂, hm₂, rfl⟩
      rw [List.set_set]
      exact after_withMonitors hset (hordered.set hm₂.le hm₂.inOrder place.mon) hm₂.le
        (settled_set hm hm₂.settles)
    · -- It is not, and is between the ends of its own strip.
      have hcur : monitors[active]? = some monitors[active] := List.getElem?_eq_getElem hactive
      have hnot : ws.id ∉ monitors[active].ids := by
        intro hin
        obtain ⟨ws', hws', hid⟩ := List.mem_map.mp hin
        exact ids_apart hd hset hm hcur heq ws (List.mem_of_getElem? hws) ws' hws' hid.symm
      have hget₁ : (monitors.set place.mon m₁)[active]? = some monitors[active] := by
        rw [List.getElem?_set_ne heq]
        exact hcur
      rw [strayEnd, hset] at hstray
      simp only [hm, Option.any_some, Bool.and_eq_false_iff, bne_eq_false_iff_eq,
        Bool.or_eq_false_iff, beq_eq_false_iff_ne] at hstray
      obtain ⟨hlast, hfirst⟩ := hstray.resolve_left heq
      have hinside := (hordered.get hm).renameInside hws hlast
        (fun habove => hfirst.resolve_left (by simp [habove])) name
      rw [hm₁] at hinside
      have hpure : Safe (surroundNamed ws.id monitors[active]) n
          fun m' n' => m' = monitors[active] ∧ n' = n := by
        rw [Monitor.surroundNamed_of_not_mem hnot]
        exact safe_pure ⟨rfl, rfl⟩
      refine (onMonitor_safe hset₁ hget₁ hpure).mono ?_
      rintro _ n₂ ⟨m₂, ⟨hm₂, hn₂⟩, rfl⟩
      rw [hn₂, hm₂]
      have hdone := (hordered.set (Nat.le_refl n) hinside place.mon).set (Nat.le_refl n)
        (hordered.get hcur) active
      exact after_withMonitors hset hdone (Nat.le_refl n)
        ((settled_set hm hrenames).trans (settled_set hget₁ (.refl _)))

theorem workspaceAt_eq_of_normal (hset : l.monitorSet = .normal monitors primary active)
    {place : Place} {m : Monitor W} {ws : Workspace W} (hm : monitors[place.mon]? = some m)
    (hws : m.workspaces[place.idx]? = some ws) : l.workspaceAt place = some ws := by
  rw [workspaceAt, strips, hset, List.getElem?_map, hm]
  exact hws

theorem workspaceAt_of_place {p : Workspace W → Bool} {place : Place}
    (h : placeWhere p l.strips = some place) :
    ∃ ws, l.workspaceAt place = some ws ∧ p ws = true := by
  obtain ⟨strip, ws, hstrip, hget, hp⟩ := placeWhere_eq_some h
  refine ⟨ws, ?_, hp⟩
  rw [workspaceAt, hstrip]
  exact hget

/-- The active place, or one on the active strip. -/
theorem place_on_active (h : l.InOrder n) {reference : Option WorkspaceReference} {place : Place}
    (hplace : l.findWorkspace reference = some place)
    (href : reference = none ∨ ∃ index, reference = some (.index index)) :
    ∃ ws, l.workspaceAt place = some ws ∧ l.strayEnd place = false := by
  cases hset : l.monitorSet with
  | noOutputs workspaces =>
    rcases href with rfl | ⟨index, rfl⟩
    · rw [findWorkspace, activePlace, hset] at hplace
      cases hplace
    · rw [findWorkspace, findWorkspaceByRef, hset] at hplace
      cases hplace
  | normal monitors primary active =>
    have hordered := (inOrder_of_normal hset).mp h
    have hlt := hordered.active_lt
    have hget : monitors[active]? = some monitors[active] := List.getElem?_eq_getElem hlt
    have hstray : place.mon = active → l.strayEnd place = false := by
      intro heq
      rw [strayEnd, hset]
      simp [heq]
    rcases href with rfl | ⟨index, rfl⟩
    · rw [findWorkspace, activePlace, hset] at hplace
      replace hplace : monitors[active]?.map _ = some place := hplace
      rw [hget] at hplace
      obtain rfl := Option.some.inj hplace
      exact ⟨_, workspaceAt_eq_of_normal hset hget
        (List.getElem?_eq_getElem (hordered.get hget).active_lt), hstray rfl⟩
    · rw [findWorkspace, findWorkspaceByRef, hset] at hplace
      obtain ⟨m, hm, hplace⟩ := Option.bind_eq_some_iff.mp hplace
      split at hplace
      · next hidx =>
        obtain rfl := Option.some.inj hplace
        exact ⟨_, workspaceAt_eq_of_normal hset hm (List.getElem?_eq_getElem hidx), hstray rfl⟩
      · cases hplace

/-- A workspace that has a name is not at an end. -/
theorem strayEnd_of_named (h : l.InOrder n) {place : Place} {ws : Workspace W}
    (hget : l.workspaceAt place = some ws) (hname : ws.name.isSome = true) :
    l.strayEnd place = false := by
  cases hset : l.monitorSet with
  | noOutputs workspaces =>
    rw [strayEnd, hset]
  | normal monitors primary active =>
    obtain ⟨m, hm, hws⟩ := workspaceAt_of_normal hset hget
    have hfull : ws.hasWindowsOrName = true := by
      rw [Workspace.hasWindowsOrName, hname, Bool.or_true]
    obtain ⟨hlast, hfirst⟩ :=
      (((inOrder_of_normal hset).mp h).get hm).inside_of_full hws hfull
    rw [strayEnd, hset]
    simp only [hm, Option.any_some, Bool.and_eq_false_iff, bne_eq_false_iff_eq,
      Bool.or_eq_false_iff, beq_eq_false_iff_ne]
    refine Or.inr ⟨hlast, ?_⟩
    cases habove : m.above with
    | false => exact Or.inl rfl
    | true => exact Or.inr (hfirst habove)

/-- Only an identity refers to an end of another strip than the active one. -/
theorem setWorkspaceName_after (h : l.InOrder n) (hd : Distinct l.workspaces n) (name : String)
    (reference : Option WorkspaceReference)
    (hstray : ∀ id place, reference = some (.id id) → l.findWorkspaceByName name = none →
      l.findWorkspaceById id = some place → l.strayEnd place = false) :
    Safe (l.setWorkspaceName name reference) n (After l n) := by
  rw [setWorkspaceName]
  refine safe_early h.after fun hfree => ?_
  split
  · exact safe_pure h.after
  · next place hplace =>
    obtain ⟨ws, hget, hinside⟩ :
        ∃ ws, l.workspaceAt place = some ws ∧ l.strayEnd place = false := by
      cases reference with
      | none => exact place_on_active h hplace (Or.inl rfl)
      | some reference =>
        cases reference with
        | index index => exact place_on_active h hplace (Or.inr ⟨index, rfl⟩)
        | name name' =>
          obtain ⟨ws, hget, hnamed⟩ := workspaceAt_of_place hplace
          refine ⟨ws, hget, strayEnd_of_named h hget ?_⟩
          obtain ⟨x, hx, -⟩ := (Option.any_eq_true _ _).mp hnamed
          rw [hx]
          rfl
        | id id =>
          obtain ⟨ws, hget, -⟩ := workspaceAt_of_place hplace
          refine ⟨ws, hget, hstray id place rfl ?_ hplace⟩
          rw [← Option.not_isSome_iff_eq_none]
          exact hfree
    exact safe_bounds_bind hget (setWorkspaceAt_after h hd hget hinside name)

theorem unnameOn_safe (id : WorkspaceId) :
    ∀ {monitors : List (Monitor W)} {n : Nat}, (∀ m ∈ monitors, m.InOrder n) →
      Safe (unnameOn id monitors) n fun monitors' n' => n ≤ n' ∧
        Settled monitors monitors' ∧ ∀ m ∈ monitors', m.InOrder n'
  | [], n, _ => safe_pure ⟨Nat.le_refl n, .nil, by simp⟩
  | m :: monitors, n, h => by
      refine (Monitor.unnameWorkspace_safe (h m List.mem_cons_self) id).bind ?_
      rintro ⟨m', found⟩ n₁ hgood
      have hm' := hgood.since
      have hrest : ∀ m ∈ monitors, m.InOrder n₁ :=
        fun m hm => (h m (List.mem_cons_of_mem _ hm)).mono hm'.le
      refine safe_ite (fun _ => ?_) (fun _ => ?_)
      · exact safe_pure ⟨hm'.le, .cons hm'.settles (Settled.refl monitors),
          List.forall_mem_cons.mpr ⟨hm'.inOrder, hrest⟩⟩
      · refine (unnameOn_safe id hrest).bind ?_
        rintro monitors' n₂ ⟨hle', hsettled, hmonitors'⟩
        exact safe_pure ⟨Nat.le_trans hm'.le hle', .cons hm'.settles hsettled,
          List.forall_mem_cons.mpr ⟨hm'.inOrder.mono hle', hmonitors'⟩⟩

theorem unnameWorkspaceById_after (h : l.InOrder n) (id : WorkspaceId) :
    Safe (l.unnameWorkspaceById id) n (After l n) := by
  rw [unnameWorkspaceById]
  split
  · next monitors primary active hset =>
    have hordered := (inOrder_of_normal hset).mp h
    refine (unnameOn_safe id hordered.inOrder).bind ?_
    rintro monitors' n' ⟨hle, hsettled, hmonitors'⟩
    exact safe_pure (after_withMonitors hset (hordered.settled hsettled hmonitors') hle hsettled)
  · next workspaces hset =>
    have hfull := (inOrder_of_noOutputs hset).mp h
    split
    · exact safe_pure h.after
    · next idx hidx =>
      have hlt := Monitor.lt_of_findIdx? hidx
      refine safe_bounds_bind (List.getElem?_eq_getElem hlt)
        (safe_pure (after_withWorkspaces hset (Nat.le_refl n) ?_))
      split
      · next hwindows =>
        refine full_set hfull ?_ idx
        rw [Workspace.hasWindowsOrName, Bool.or_eq_true]
        exact Or.inl hwindows
      · exact fun ws hws => hfull ws (List.mem_of_mem_eraseIdx hws)

theorem unsetWorkspaceName_after (h : l.InOrder n) (reference : Option WorkspaceReference) :
    Safe (l.unsetWorkspaceName reference) n (After l n) := by
  rw [unsetWorkspaceName]
  split
  · exact safe_pure h.after
  · next place hplace =>
    obtain ⟨ws, hget⟩ : ∃ ws, l.workspaceAt place = some ws := by
      cases reference with
      | none => exact (place_on_active h hplace (Or.inl rfl)).imp fun _ h => h.1
      | some reference =>
        cases reference with
        | index index => exact (place_on_active h hplace (Or.inr ⟨index, rfl⟩)).imp fun _ h => h.1
        | name name => exact (workspaceAt_of_place hplace).imp fun _ h => h.1
        | id id => exact (workspaceAt_of_place hplace).imp fun _ h => h.1
    exact safe_bounds_bind hget (unnameWorkspaceById_after h ws.id)

/-! ## Moving workspaces -/

theorem monitorIdxOr_safe (h : Ordered monitors primary active n) (output : Option Output) :
    Safe (monitorIdxOr monitors active output) n fun idx n' =>
      n' = n ∧ idx < monitors.length := by
  cases output with
  | none => exact safe_pure ⟨rfl, h.active_lt⟩
  | some output => exact safe_lookup fun idx hidx => ⟨rfl, Monitor.lt_of_findIdx? hidx⟩

section

variable (c : Readings W) (h : l.InOrder n)
include h

theorem moveWorkspaceToOutputById_after (hd : Distinct l.workspaces n) (oldIdx : Nat)
    (oldOutput : Option Output) (newOutput : Output) :
    Safe (l.moveWorkspaceToOutputById oldIdx oldOutput newOutput) n
      fun p n' => After l n p.1 n' := by
  rw [moveWorkspaceToOutputById]
  split
  · exact safe_pure h.after
  · next monitors primary active hset =>
    have hordered := (inOrder_of_normal hset).mp h
    refine (monitorIdxOr_safe hordered oldOutput).bind ?_
    rintro current n₀ ⟨hn, hcurrent⟩
    rw [hn]
    refine safe_lookup_bind fun target htarget => ?_
    have htargetlt := Monitor.lt_of_findIdx? htarget
    have hm : monitors[current]? = some monitors[current] := List.getElem?_eq_getElem hcurrent
    have ht : monitors[target]? = some monitors[target] := List.getElem?_eq_getElem htargetlt
    have houtput : monitors[target].output = newOutput := by
      obtain ⟨_, hfound, -⟩ := List.findIdx?_eq_some_iff_getElem.mp htarget
      exact beq_iff_eq.mp hfound
    refine safe_bounds_bind hm ?_
    refine safe_early h.after fun hlt => ?_
    have hws := List.getElem?_eq_getElem (Nat.lt_of_not_le hlt)
    refine safe_ite (fun _ => ?_) (fun hne => ?_)
    · refine safe_bounds_bind hws (safe_pure ?_)
      exact after_withMonitors hset
        (hordered.set (Nat.le_refl n) ((hordered.get hm).own hws) current) (Nat.le_refl n)
        (settled_set hm (Monitor.settles_setWorkspace hws (Or.inl rfl)))
    · refine (Monitor.removeWorkspaceByIdx_safe (hordered.get hm) hws).bind ?_
      rintro ⟨ws, current'⟩ n₁ ⟨hid, hcurrent', -⟩
      refine safe_bounds_bind ht ?_
      have htarget₁ := (hordered.get ht).mono hcurrent'.le
      have hid : ws.id = monitors[current].workspaces[oldIdx].id := congrArg Workspace.id hid
      have hnot : ws.id ∉ monitors[target].ids := by
        intro hin
        obtain ⟨ws', hws', hid'⟩ := List.mem_map.mp hin
        exact ids_apart hd hset hm ht hne _ (List.mem_of_getElem? hws) ws' hws'
          (hid.symm.trans hid'.symm)
      have hlt' : ws.id < n₁ := by
        rw [hid]
        exact Nat.lt_of_lt_of_le ((hordered.get hm).distinct.lt _ (List.mem_of_getElem? hws))
          hcurrent'.le
      refine (insertWorkspace_good htarget₁ { ws with originalOutput := OutputId.new newOutput }
        hnot hlt' htarget₁.active_lt _).bind fun target' n₂ hgood => ?_
      have htarget' := since_of_own (congrArg OutputId.new houtput.symm) hgood
      have ht' : (monitors.set current current')[target]? = some monitors[target] := by
        rw [List.getElem?_set_ne hne]
        exact ht
      have hset₂ := (hordered.set hcurrent'.le hcurrent'.inOrder current).set htarget'.le
        htarget'.inOrder target
      generalize hactivate : (current == active &&
        oldIdx == monitors[current].activeWorkspaceIdx) = activate
      have hdone : Ordered ((monitors.set current current').set target target') primary
          (if activate then target else active) n₂ := by
        split
        · exact hset₂.activate (by simpa using htargetlt)
        · exact hset₂
      exact safe_pure (after_withMonitors hset hdone (Nat.le_trans hcurrent'.le htarget'.le)
        ((settled_set hm (hcurrent'.settles rfl)).trans (settled_set ht' htarget'.settles)))

theorem moveWorkspaceToOutput_after (hd : Distinct l.workspaces n) (output : Output) :
    Safe (l.moveWorkspaceToOutput output) n fun p n' => After l n p.1 n' := by
  rw [moveWorkspaceToOutput]
  split
  · exact moveWorkspaceToOutputById_after h hd _ none output
  · exact safe_pure h.after

theorem moveWorkspaceToIdx_after (reference : Option (Option Output × Nat)) (newIdx : Nat) :
    Safe (l.moveWorkspaceToIdx reference newIdx) n (After l n) := by
  have hmove : ∀ idx : Monitor W → Nat,
      KeepsOrder fun m : Monitor W => m.moveWorkspaceToIdx (idx m) newIdx := fun idx =>
    Monitor.keepsOrder_of_safe fun m _ hm => Monitor.moveWorkspaceToIdx_safe hm (idx m) newIdx
  rcases reference with _ | ⟨_ | output, oldIdx⟩
  · exact onActiveMonitor_after h (hmove Monitor.activeWorkspaceIdx)
  · exact onActiveMonitor_after h (hmove fun _ => oldIdx)
  · dsimp only [moveWorkspaceToIdx]
    split
    · next idx hidx =>
      exact onMonitor_after h (List.getElem?_eq_getElem (Monitor.lt_of_findIdx? hidx))
        fun hm => hmove (fun _ => oldIdx) _ n hm
    · exact safe_pure h.after

/-! ## Overview and configuration -/

theorem setOverview_after (isOpen : Bool) : After l n (l.setOverview isOpen) n := by
  rw [setOverview]
  split
  · next monitors primary active hset =>
    have hordered := (inOrder_of_normal hset).mp h
    have hsettled : Settled monitors
        (monitors.map fun m => { m with overviewOpen := isOpen }) :=
      List.forall₂_map_right_iff.mpr
        (List.forall₂_same.mpr fun m _ => .of_workspaces_eq rfl rfl)
    have hdone := hordered.settled hsettled fun m hm => by
      obtain ⟨m₀, hm₀, rfl⟩ := List.mem_map.mp hm
      exact (hordered.inOrder m₀ hm₀).withOverview isOpen
    exact (after_withMonitors hset hdone (Nat.le_refl n) hsettled).of_monitorSet rfl
  · next workspaces hset =>
    exact h.after.of_monitorSet rfl

theorem openOverview_after : After l n l.openOverview.1 n := by
  rw [openOverview]
  split
  · exact h.after
  · exact setOverview_after h _

theorem closeOverview_after : After l n l.closeOverview.1 n := by
  rw [closeOverview]
  split
  · exact setOverview_after h _
  · exact h.after

/-- The index is one of the active strip. -/
theorem toggleOverviewToWorkspace_after {wsIdx : Nat}
    (hidx : ∀ m, l.activeMonitor = some m → wsIdx < m.workspaces.length) :
    Safe (l.toggleOverviewToWorkspace wsIdx) n (After l n) := by
  have hactivate : Safe (l.onActiveMonitor fun m => m.activateWorkspace wsIdx) n (After l n) := by
    rw [onActiveMonitor]
    split
    · next monitors primary active hset =>
      have hlt := ((inOrder_of_normal hset).mp h).active_lt
      have hm : l.activeMonitor = some monitors[active] := by
        rw [activeMonitor, hset]
        exact List.getElem?_eq_getElem hlt
      exact onMonitor_after h (getElem?_monitors hset hlt) fun hgood =>
        (Monitor.activateWorkspace_safe hgood (hidx _ hm)).mono fun _ _ h' => h'.since
    · exact safe_pure h.after
  exact hactivate.bind fun _ _ h' => safe_pure (h'.trans (setOverview_after h'.inOrder _))

theorem updateConfig_after (options : Options) : Safe (l.updateConfig options) n (After l n) :=
  (onMonitors_after h (Monitor.keepsOrder_of_safe fun _ _ hm =>
    Monitor.updateConfig_safe hm options)).bind fun _ _ h' =>
      safe_pure (h'.of_monitorSet rfl)

theorem updateLayoutConfig_after (output : Output) (layoutConfig : Option LayoutPart) :
    Safe (l.updateLayoutConfig output layoutConfig) n (After l n) := by
  rw [updateLayoutConfig]
  split
  · next idx hidx =>
    exact onMonitor_after h (List.getElem?_eq_getElem (Monitor.lt_of_findIdx? hidx)) fun hm =>
      (Monitor.updateLayoutConfig_safe hm layoutConfig).mono fun _ _ h' => h'.since
  · exact safe_pure h.after

/-! ## Gestures -/

theorem workspaceSwitchGestureBegin_after (output : Output) (isTouchpad : Bool) :
    Safe (l.workspaceSwitchGestureBegin c output isTouchpad) n (After l n) := by
  rw [workspaceSwitchGestureBegin]
  split
  · refine onMonitors_after h fun m n hm => ?_
    refine safe_early (?_) fun _ => ?_
    · exact (Monitor.Good.gestureFrom c.toContents hm isTouchpad _ false).since
    · exact (Monitor.workspaceSwitchGestureEnd_safe c.toContents hm none).bind
        fun _ _ h' => safe_pure h'.since
  · exact safe_lookup_none

theorem workspaceSwitchGestureUpdate_after (isTouchpad : Bool) (excess : Rat) :
    Safe (l.workspaceSwitchGestureUpdate c isTouchpad excess) n fun p n' => After l n p.1 n' := by
  refine onMonitorsUntil_after h fun m n hm => ?_
  exact (Monitor.workspaceSwitchGestureUpdate_safe c.toContents hm isTouchpad excess).bind
    fun _ _ h' => safe_pure h'.since

theorem workspaceSwitchGestureEnd_after (isTouchpad : Option Bool) :
    Safe (l.workspaceSwitchGestureEnd c isTouchpad) n fun p n' => After l n p.1 n' := by
  refine onMonitorsUntil_after h fun m n hm => ?_
  exact (Monitor.workspaceSwitchGestureEnd_safe c.toContents hm isTouchpad).bind
    fun _ _ h' => safe_pure h'.since

theorem dndScrollGestureBegin_after : Safe (l.dndScrollGestureBegin c) n (After l n) :=
  onMonitors_after h fun _ _ hm =>
    safe_pure (Monitor.Good.dndScrollGestureBegin c.toContents hm).since

theorem dndScrollGestureEnd_after : Safe (l.dndScrollGestureEnd c) n (After l n) :=
  onMonitors_after h (dndScrollGestureEnd_keepsOrder c)

theorem dndUpdate_after (output : Output) : Safe (l.dndUpdate c output) n (After l n) := by
  have h' : After l n { l with dnd := some output } n := h.after.of_monitorSet rfl
  exact safe_applyIf (fun _ => (dndScrollGestureBegin_after c h'.inOrder).mono
    fun _ _ hafter => h'.trans hafter) fun _ => h'

theorem dndEnd_after : Safe (l.dndEnd c) n (After l n) := by
  have h' : After l n { l with dnd := none } n := h.after.of_monitorSet rfl
  exact safe_early h.after fun _ =>
    (dndScrollGestureEnd_after c h'.inOrder).mono fun _ _ hafter => h'.trans hafter

theorem refresh_after : Safe (l.refresh c) n (After l n) :=
  safe_ite (fun _ => dndScrollGestureBegin_after c h) fun _ =>
    safe_ite (fun _ => dndScrollGestureEnd_after c h) fun _ => safe_pure h.after

/-! ## Interactive moves -/

theorem interactiveMoveBegin_after [DecidableEq W] (window : W) (output : Output) :
    Safe (l.interactiveMoveBegin c window output) n fun p n' => After l n p.1 n' := by
  have h' : After l n { l with interactiveMove := some (.starting window) } n :=
    h.after.of_monitorSet rfl
  rw [interactiveMoveBegin]
  refine safe_early h.after fun _ => ?_
  split
  · exact safe_pure h.after
  · refine safe_early h.after fun _ => ?_
    exact (dndScrollGestureBegin_after c h'.inOrder).bind
      fun _ _ hafter => safe_pure (h'.trans hafter)

theorem interactiveMoveUpdate_after [DecidableEq W] (window : W) (output : Output)
    (isFloating : Bool) :
    Safe (l.interactiveMoveUpdate c window output isFloating) n fun p n' => After l n p.1 n' := by
  rw [interactiveMoveUpdate]
  split
  · exact safe_pure h.after
  · next moved hmove =>
    refine safe_early h.after (fun _ => safe_lookup_bind fun _ _ => ?_)
    refine safe_ite (fun _ => ?_) (fun _ => safe_pure h.after)
    have h' : After l n { l with interactiveMove := none } n := h.after.of_monitorSet rfl
    refine (removeFromWorkspace_after h'.inOrder window).bind ?_
    rintro ⟨l₁, removed⟩ n₁ h₁
    exact safe_lookup_bind fun _ _ => safe_pure ((h'.trans h₁).of_monitorSet rfl)
  · next moved movedOutput floating hmove =>
    have hfocused : After l n (if output ≠ movedOutput then l.focusOutput output else l) n := by
      split
      · exact focusOutput_after h output
      · exact h.after
    exact safe_early h.after fun _ => safe_pure (hfocused.of_monitorSet rfl)

theorem interactiveMoveEnd_after [DecidableEq W] (window : W) :
    Safe (l.interactiveMoveEnd c window) n (After l n) := by
  rw [interactiveMoveEnd]
  split
  · exact safe_pure h.after
  · exact safe_ite (fun _ => cancelMove_after c h) fun _ => safe_pure h.after
  · next moved output isFloating hmove =>
    refine safe_early h.after fun _ => ?_
    refine (cancelMove_after c h).bind fun l₁ n₁ hafter => ?_
    suffices hmoved : Safe _ n₁ (After l₁ n₁) from hmoved.mono fun _ _ h' => hafter.trans h'
    have h₁ := hafter.inOrder
    split
    · next monitors primary active hset =>
      have hordered := (inOrder_of_normal hset).mp h₁
      split
      · next idx hidx =>
        exact onMonitor_after h₁ (getElem?_monitors hset (Monitor.lt_of_findIdx? hidx)) fun hm =>
          (Monitor.insertMoved_safe c hm window isFloating _ _).mono fun _ _ h' => h'.since
      · refine onMonitor_after h₁ (getElem?_monitors hset hordered.active_lt) fun hm => ?_
        have hpos := Nat.lt_of_le_of_lt (Nat.zero_le _) hm.active_lt
        refine safe_bounds_bind (List.getElem?_eq_getElem hpos) ?_
        exact (Monitor.insertMoved_safe c hm window isFloating _ _).mono fun _ _ h' => h'.since
    · next workspaces hset =>
      refine (firstWorkspace_safe ((inOrder_of_noOutputs hset).mp h₁)).bind ?_
      rintro workspaces' n' ⟨hle, h'⟩
      exact addTileNoOutputs_safe hset hle h' window

theorem toggleMovedFloating_after : After l n l.toggleMovedFloating n := by
  rw [toggleMovedFloating]
  split
  · exact h.after.of_monitorSet rfl
  · exact h.after

/-! ## Ticks -/

theorem advanceDnd_after [DecidableEq W] : Safe (l.advanceDnd c) n (After l n) := by
  rw [advanceDnd]
  split
  · exact safe_pure h.after
  · next output houtput =>
    split
    · exact safe_pure h.after
    · next idx hidx =>
      have hlt := Monitor.lt_of_findIdx? hidx
      refine (onMonitor_after h (List.getElem?_eq_getElem hlt) fun hm =>
        (Monitor.dndScrollGestureScroll_safe c.toContents hm).mono fun _ _ h' => h'.since).bind ?_
      intro l₁ n₁ h₁
      split
      · next target hdnd htarget =>
        rw [← h₁.length_eq] at hlt
        refine (onMonitor_after h₁.inOrder (List.getElem?_eq_getElem hlt) fun hm =>
          (Monitor.holdOver_safe c _ hm).mono fun _ _ h' => h'.since).bind ?_
        intro l₂ n₂ h₂
        have hfocused := focusOutput_after h₂.inOrder output
        exact safe_pure (((h₁.trans h₂).trans hfocused).trans
          (closeOverview_after hfocused.inOrder))
      · exact safe_pure h₁

theorem advanceAnimations_after [DecidableEq W] : Safe (l.advanceAnimations c) n (After l n) :=
  (advanceDnd_after c h).bind fun _ _ h₁ =>
    (onMonitors_after h₁.inOrder (Monitor.keepsOrder_of_safe fun _ _ hm =>
      Monitor.advanceAnimations_safe c.toContents hm)).mono fun _ _ h' => h₁.trans h'

end

end Layout

end Cidre.Workspaces
