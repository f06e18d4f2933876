/-
  Cidre.Workspaces.Homes

  Where the workspaces are at home, in every layout that is reached.

  A workspace of a monitor belongs to its output.  Only the primary monitor has
  others, which wait for an output that is not there; so the workspaces that a new
  output takes away from the primary monitor are those that went there when it was
  removed.
-/

import Cidre.Workspaces.StripRun
import Cidre.Workspaces.StripUse

namespace Cidre.Workspaces

open Cidre.Counter
open Cidre.Panic (Vec.remove)

variable {W : Type}

/-! ## Outputs -/

/-- Neither output is called what the other one is identified by. -/
def Output.apart (a b : Output) : Bool := !(OutputId.new a).isOf b && !(OutputId.new b).isOf a

theorem isOf_new (output : Output) : (OutputId.new output).isOf output = true := by
  rw [OutputId.isOf, OutputId.new, OutputName.formatMakeModelSerialOrConnector,
    OutputName.matchesTarget]
  split
  · simp [eqIgnoreAsciiCase]
  · next hnamed => simp [eqIgnoreAsciiCase, hnamed]

theorem apart_iff {a b : Output} : a.apart b = true ↔
    (OutputId.new a).isOf b = false ∧ (OutputId.new b).isOf a = false := by
  simp [Output.apart]

theorem apart_comm {a b : Output} (h : a.apart b = true) : b.apart a = true :=
  apart_iff.mpr (apart_iff.mp h).symm

theorem ne_of_apart {a b : Output} (h : a.apart b = true) : a ≠ b := by
  rintro rfl
  have hself := (apart_iff.mp h).1
  rw [isOf_new] at hself
  cases hself

theorem setOutput_of_isOf {ws : Workspace W} {output : Output}
    (h : ws.originalOutput.isOf output = true) :
    (ws.setOutput output).originalOutput = OutputId.new output := by
  simp [Workspace.setOutput, h]

theorem setOutput_of_not_isOf {ws : Workspace W} {output : Output}
    (h : ws.originalOutput.isOf output = false) : ws.setOutput output = ws := by
  simp [Workspace.setOutput, h]

theorem setOutput_of_own {ws : Workspace W} {output : Output}
    (h : ws.originalOutput = OutputId.new output) : ws.setOutput output = ws := by
  simp [Workspace.setOutput, ← h]

namespace Layout

/-! ## Homes -/

/-- The outputs are told apart, and the workspaces of each monitor are its own, or on
    the primary one those of no output that is there. -/
structure AtHome (monitors : List (Monitor W)) (primary : Nat) : Prop where
  apart : (monitors.map Monitor.output).Pairwise fun a b => a.apart b = true
  home : ∀ i m, monitors[i]? = some m → ∀ ws ∈ m.workspaces,
    ws.originalOutput = OutputId.new m.output ∨
      i = primary ∧ ∀ output ∈ monitors.map Monitor.output, ws.originalOutput.isOf output = false

/-- All workspaces are at home. -/
def Housed (l : Layout W) : Prop :=
  match l.monitorSet with
  | .normal monitors primary _ => AtHome monitors primary
  | .noOutputs _ => True

variable {l l' : Layout W} {n n' primary active : Nat} {monitors : List (Monitor W)}
  {m m' : Monitor W} {output : Output} {i j : Nat}

theorem housed_of_normal (hset : l.monitorSet = .normal monitors primary active) :
    l.Housed ↔ AtHome monitors primary := by
  rw [Housed, hset]

theorem housed_of_noOutputs {workspaces : List (Workspace W)}
    (hset : l.monitorSet = .noOutputs workspaces) : l.Housed := by
  rw [Housed, hset]
  trivial

/-- The outputs of two monitors are told apart. -/
theorem AtHome.apart_of_ne (h : AtHome monitors primary) (hi : monitors[i]? = some m)
    (hj : monitors[j]? = some m') (hne : i ≠ j) : m.output.apart m'.output = true := by
  have hlt : ∀ {k : Nat} {m : Monitor W}, monitors[k]? = some m →
      ∃ hk : k < (monitors.map Monitor.output).length,
        (monitors.map Monitor.output)[k] = m.output := by
    intro k m hk
    obtain ⟨hlt, rfl⟩ := List.getElem?_eq_some_iff.mp hk
    exact ⟨by rwa [List.length_map], List.getElem_map _⟩
  obtain ⟨hilt, hi'⟩ := hlt hi
  obtain ⟨hjlt, hj'⟩ := hlt hj
  have hpairs := List.pairwise_iff_getElem.mp h.apart
  rw [← hi', ← hj']
  rcases Nat.lt_or_gt_of_ne hne with hlt | hlt
  · exact hpairs i j hilt hjlt hlt
  · exact apart_comm (hpairs j i hjlt hilt hlt)

/-- The monitor that is found by an output. -/
theorem AtHome.findIdx?_eq (h : AtHome monitors primary) (hi : monitors[i]? = some m) :
    (monitors.findIdx? fun m' => m'.output == m.output) = some i := by
  obtain ⟨hlt, rfl⟩ := List.getElem?_eq_some_iff.mp hi
  refine List.findIdx?_eq_some_iff_getElem.mpr ⟨hlt, by simp, fun j hj => ?_⟩
  have happart := h.apart_of_ne (List.getElem?_eq_getElem (Nat.lt_trans hj hlt)) hi
    (Nat.ne_of_lt hj)
  simpa using ne_of_apart happart

/-! ## Calls that move no workspace to another monitor -/

theorem outputs_settled {monitors' : List (Monitor W)} (h : Settled monitors monitors') :
    monitors'.map Monitor.output = monitors.map Monitor.output := by
  induction h with
  | nil => rfl
  | cons hm _ ih => rw [List.map_cons, List.map_cons, hm.output_eq, ih]

theorem AtHome.settled {monitors' : List (Monitor W)} (h : AtHome monitors primary)
    (hsettled : Settled monitors monitors') : AtHome monitors' primary := by
  have houtputs := outputs_settled hsettled
  refine ⟨houtputs ▸ h.apart, fun i m' hm' ws hws => ?_⟩
  obtain ⟨hlt', rfl⟩ := List.getElem?_eq_some_iff.mp hm'
  have hlt : i < monitors.length := hsettled.length_eq ▸ hlt'
  have hm := List.Forall₂.get hsettled hlt hlt'
  simp only [List.get_eq_getElem] at hm
  rw [houtputs, hm.output_eq]
  rcases hm.homes ws hws with hown | ⟨ws₀, hws₀, heq⟩
  · exact Or.inl hown
  · rw [heq]
    exact h.home i monitors[i] (List.getElem?_eq_getElem hlt) ws₀ hws₀

theorem After.housed (h : After l n l' n') (hh : l.Housed) : l'.Housed := by
  cases hset' : l'.monitorSet with
  | noOutputs workspaces => exact housed_of_noOutputs hset'
  | normal monitors' primary' active' =>
    have hprimary := h.primary_eq
    rw [primaryIdx_of_normal hset'] at hprimary
    cases hset : l.monitorSet with
    | noOutputs workspaces =>
      rw [primaryIdx_of_noOutputs hset] at hprimary
      cases hprimary
    | normal monitors primary active =>
      rw [primaryIdx_of_normal hset] at hprimary
      obtain rfl := Option.some.inj hprimary
      have hsettled := h.settled
      rw [monitors_of_normal hset, monitors_of_normal hset'] at hsettled
      exact (housed_of_normal hset').mpr (((housed_of_normal hset).mp hh).settled hsettled)

/-! ## Monitors that come and go -/

theorem outputs_set (hget : monitors[i]? = some m) (houtput : m'.output = m.output) :
    (monitors.set i m').map Monitor.output = monitors.map Monitor.output :=
  Panic.Vec.map_set_of_eq Monitor.output hget houtput

/-- The workspaces of one monitor change. -/
theorem AtHome.set (h : AtHome monitors primary) (hget : monitors[i]? = some m)
    (houtput : m'.output = m.output)
    (hhome : ∀ ws ∈ m'.workspaces, ws.originalOutput = OutputId.new m.output ∨
      i = primary ∧ ∀ output ∈ monitors.map Monitor.output,
        ws.originalOutput.isOf output = false) : AtHome (monitors.set i m') primary := by
  have houtputs := outputs_set hget houtput
  refine ⟨houtputs ▸ h.apart, fun j m₁ hm₁ ws hws => ?_⟩
  rw [houtputs]
  by_cases hne : i = j
  · subst hne
    obtain rfl : m' = m₁ := by
      rw [List.getElem?_set_self (List.getElem?_eq_some_iff.mp hget).1] at hm₁
      exact Option.some.inj hm₁
    rw [houtput]
    exact hhome ws hws
  · rw [List.getElem?_set_ne hne] at hm₁
    exact h.home j m₁ hm₁ ws hws

/-- A monitor comes, and the primary one has none of its workspaces. -/
theorem AtHome.append (h : AtHome monitors primary) (hlt : primary < monitors.length)
    (happart : ∀ m' ∈ monitors, m'.output.apart m.output = true)
    (hprimary : ∀ m', monitors[primary]? = some m' → ∀ ws ∈ m'.workspaces,
      ws.originalOutput.isOf m.output = false)
    (hown : ∀ ws ∈ m.workspaces, ws.originalOutput = OutputId.new m.output) :
    AtHome (monitors ++ [m]) primary := by
  refine ⟨?_, fun j m₁ hm₁ ws hws => ?_⟩
  · rw [List.map_append, List.pairwise_append]
    refine ⟨h.apart, List.pairwise_singleton _ _, fun a ha b hb => ?_⟩
    obtain ⟨m', hm', rfl⟩ := List.mem_map.mp ha
    rw [List.map_singleton, List.mem_singleton] at hb
    rw [hb]
    exact happart m' hm'
  · rcases Nat.lt_or_ge j monitors.length with hj | hj
    · rw [List.getElem?_append_left hj] at hm₁
      refine (h.home j m₁ hm₁ ws hws).imp_right ?_
      rintro ⟨rfl, hnone⟩
      refine ⟨rfl, fun output houtput => ?_⟩
      rw [List.map_append, List.mem_append] at houtput
      rcases houtput with hin | hnew
      · exact hnone output hin
      · rw [List.map_singleton, List.mem_singleton] at hnew
        rw [hnew]
        exact hprimary m₁ hm₁ ws hws
    · rw [List.getElem?_append_right hj, List.getElem?_singleton] at hm₁
      split at hm₁
      · obtain rfl := Option.some.inj hm₁
        exact Or.inl (hown ws hws)
      · cases hm₁

theorem getElem?_eraseIdx_of_ne (hj : monitors[j]? = some m) (hne : j ≠ i) :
    (monitors.eraseIdx i)[idxAfterRemoval i j]? = some m := by
  rw [List.getElem?_eraseIdx, idxAfterRemoval]
  by_cases hle : i ≤ j
  · rw [if_pos hle, if_neg (by omega), Nat.sub_add_cancel (by omega)]
    exact hj
  · rw [if_neg hle, if_pos (by omega)]
    exact hj

/-- A monitor goes. -/
theorem AtHome.eraseIdx (h : AtHome monitors primary) (i : Nat) :
    AtHome (monitors.eraseIdx i) (idxAfterRemoval i primary) := by
  have hsub : ((monitors.eraseIdx i).map Monitor.output).Sublist (monitors.map Monitor.output) :=
    (List.eraseIdx_sublist _ _).map _
  refine ⟨h.apart.sublist hsub, fun j m hm ws hws => ?_⟩
  obtain ⟨k, hk, hjk⟩ : ∃ k, monitors[k]? = some m ∧
      (k = primary → j = idxAfterRemoval i primary) := by
    rw [List.getElem?_eraseIdx] at hm
    split at hm
    · next hlt =>
      refine ⟨j, hm, ?_⟩
      rintro rfl
      rw [idxAfterRemoval, if_neg (by omega)]
    · next hge =>
      refine ⟨j + 1, hm, ?_⟩
      rintro rfl
      rw [idxAfterRemoval, if_pos (by omega), Nat.add_sub_cancel]
  refine (h.home k m hk ws hws).imp_right ?_
  rintro ⟨rfl, hnone⟩
  exact ⟨hjk rfl, fun output houtput => hnone output (hsub.subset houtput)⟩

/-! ## Operations that resettle workspaces -/

theorem newMonitor_started (l : Layout W) (output : Output) (workspaces : List (Workspace W))
    (layoutConfig : Option LayoutPart) (n : Nat) :
    Yields (l.newMonitor output workspaces layoutConfig) n fun m _ =>
      Monitor.Started output workspaces (l.lastActiveWorkspaceId output.name.connector) m := by
  refine (Monitor.new_started output workspaces _ l.options layoutConfig n).bind fun m n' h => ?_
  exact yields_pure ⟨h.output_eq, h.used_eq, h.mem, h.active⟩

/-- The workspace above the others is the monitor's own. -/
theorem first_stays {p : Monitor W} (hp : p.InOrder n)
    (hother : (OutputId.new p.output).isOf output = false) :
    p.above = true → ∀ ws ∈ p.workspaces.head?, ws.originalOutput.isOf output = false := by
  intro habove ws hws
  obtain ⟨first, hfirst, hspare⟩ := hp.first habove
  rw [List.head?_eq_getElem?, hfirst] at hws
  obtain rfl := Option.some.inj hws
  rw [hspare.output_eq]
  exact hother

theorem addOutput_yields (hset : l.monitorSet = .normal monitors primary active)
    {p : Monitor W} (hp : monitors[primary]? = some p) (hin : p.InOrder n)
    (hother : (OutputId.new p.output).isOf output = false) (layoutConfig : Option LayoutPart) :
    Yields (l.addOutput output layoutConfig) n fun l' _ => ∃ workspaces p' m,
      p.Reclaimed output workspaces p' ∧
      m.Started output workspaces (l.lastActiveWorkspaceId output.name.connector) ∧
      l'.monitorSet = .normal (monitors.set primary p' ++ [m]) primary active := by
  rw [addOutput, hset]
  refine yields_bounds_bind fun p₁ hp₁ => ?_
  obtain rfl := Option.some.inj (hp.symm.trans hp₁)
  refine (Monitor.reclaim_reclaimed (first_stays hin hother) n).bind ?_
  rintro ⟨workspaces, p'⟩ n₁ hreclaimed
  refine (newMonitor_started l output workspaces layoutConfig n₁).bind fun m n₂ hstarted => ?_
  exact yields_pure ⟨workspaces, p', m, hreclaimed, hstarted, rfl⟩

theorem addOutput_housed (h : l.InOrder n) (hh : l.Housed)
    (happart : ∀ m ∈ l.monitors, m.output.apart output = true)
    (layoutConfig : Option LayoutPart) :
    Yields (l.addOutput output layoutConfig) n fun l' _ => l'.Housed := by
  cases hset : l.monitorSet with
  | normal monitors primary active =>
    have hordered := (inOrder_of_normal hset).mp h
    have hhome := (housed_of_normal hset).mp hh
    have hlt := hordered.primary_lt
    have hp : monitors[primary]? = some monitors[primary] := List.getElem?_eq_getElem hlt
    rw [monitors_of_normal hset] at happart
    have hother := (apart_iff.mp (happart _ (List.getElem_mem hlt))).1
    refine (addOutput_yields hset hp (hordered.get hp) hother layoutConfig).mono ?_
    rintro l' - ⟨workspaces, p', m, hreclaimed, hstarted, hset'⟩
    have hkept := hhome.set hp hreclaimed.output_eq fun ws hws =>
      hhome.home primary _ hp ws (hreclaimed.mem ws hws).1
    refine (housed_of_normal hset').mpr (hkept.append ?_ (fun m' hm' => ?_) ?_ fun ws hws => ?_)
    · rwa [List.length_set]
    · rw [hstarted.output_eq]
      rcases List.mem_or_eq_of_mem_set hm' with hmem | rfl
      · exact happart m' hmem
      · rw [hreclaimed.output_eq]
        exact happart _ (List.getElem_mem hlt)
    · intro m' hm' ws hws
      rw [List.getElem?_set_self hlt] at hm'
      obtain rfl := Option.some.inj hm'
      rw [hstarted.output_eq]
      exact (hreclaimed.mem ws hws).2
    · rw [hstarted.output_eq]
      rcases hstarted.mem ws hws with hown | ⟨ws₀, hws₀, rfl⟩
      · exact hown
      · rw [hreclaimed.workspaces_eq, List.mem_filter, Bool.and_eq_true] at hws₀
        exact setOutput_of_isOf hws₀.2.1
  | noOutputs workspaces =>
    rw [addOutput, hset]
    refine (newMonitor_started l output workspaces layoutConfig n).bind fun m n' hstarted => ?_
    refine yields_pure ⟨List.pairwise_singleton _ _, fun i m' hm' ws hws => ?_⟩
    obtain ⟨rfl, rfl⟩ : i = 0 ∧ m = m' := by
      rw [List.getElem?_singleton] at hm'
      split at hm'
      · exact ⟨‹_›, Option.some.inj hm'⟩
      · cases hm'
    rw [List.map_singleton, hstarted.output_eq]
    rcases hstarted.mem ws hws with hown | ⟨ws₀, -, rfl⟩
    · exact Or.inl hown
    · cases hof : ws₀.originalOutput.isOf output with
      | true => exact Or.inl (setOutput_of_isOf hof)
      | false =>
        refine Or.inr ⟨rfl, fun output' houtput' => ?_⟩
        rw [List.mem_singleton.mp houtput', setOutput_of_not_isOf hof]
        exact hof

/-- The monitor at `i` goes, and its workspaces with it or to the primary one. -/
theorem removeOutput_yields (h : l.InOrder n)
    (hset : l.monitorSet = .normal monitors primary active)
    (hfind : (monitors.findIdx? fun m => m.output == output) = some i)
    (hm : monitors[i]? = some m) :
    Yields (l.removeOutput output) n fun l' _ => ∃ ws, m.activeWorkspace = some ws ∧
      l'.lastActiveWorkspaceId m.output.name.connector = some ws.id ∧
      ((monitors.eraseIdx i = [] ∧ l'.monitorSet = .noOutputs m.intoWorkspaces) ∨
        ∃ p p', (monitors.eraseIdx i)[idxAfterRemoval i primary]? = some p ∧
          p.Appended m.intoWorkspaces p' ∧
          l'.monitorSet = .normal
            ((monitors.eraseIdx i).set (idxAfterRemoval i primary) p')
            (idxAfterRemoval i primary) (idxAfterRemoval i active)) := by
  rw [removeOutput, hset]
  refine yields_lookup_bind fun i' hi' => ?_
  obtain rfl := Option.some.inj (hfind.symm.trans hi')
  refine yields_bounds_bind ?_
  rintro ⟨m', rest⟩ hremove
  rw [Vec.remove, hm] at hremove
  obtain ⟨rfl, rfl⟩ := Prod.mk.inj (Option.some.inj hremove)
  refine yields_bounds_bind fun ws hws => ?_
  have hlast : Function.update l.lastActiveWorkspaceId m.output.name.connector (some ws.id)
      m.output.name.connector = some ws.id := Function.update_self _ _ _
  refine yields_ite (fun hnil => yields_pure ?_) (fun _ => yields_bounds_bind fun p hp => ?_)
  · exact ⟨ws, hws, hlast, Or.inl ⟨List.isEmpty_iff.mp hnil, rfl⟩⟩
  have hin := ((inOrder_of_normal hset).mp h).inOrder p
    (List.mem_of_mem_eraseIdx (List.mem_of_getElem? hp))
  obtain ⟨last, hgetlast, hspare⟩ := hin.last
  refine (Monitor.appendWorkspaces_appended hgetlast (Monitor.spare_not_full hspare)
    m.intoWorkspaces n).bind fun p' n' happended => yields_pure ?_
  exact ⟨ws, hws, hlast, Or.inr ⟨p, p', hp, happended, rfl⟩⟩

/-- Only a known output goes. -/
theorem removeOutput_of_found {post : Layout W → Nat → Prop}
    (hfound : ∀ monitors primary active i m, l.monitorSet = .normal monitors primary active →
      (monitors.findIdx? fun m => m.output == output) = some i → monitors[i]? = some m →
      Yields (l.removeOutput output) n post) : Yields (l.removeOutput output) n post := by
  cases hset : l.monitorSet with
  | noOutputs workspaces =>
    rw [removeOutput, hset]
    exact yields_lookup_none
  | normal monitors primary active =>
    cases hfind : monitors.findIdx? fun m => m.output == output with
    | none =>
      rw [removeOutput, hset]
      simp only [hfind]
      exact yields_lookup_bind fun i hi => by cases hi
    | some i =>
      have hlt := Monitor.lt_of_findIdx? hfind
      exact hfound monitors primary active i _ hset hfind (List.getElem?_eq_getElem hlt)

theorem removeOutput_housed (h : l.InOrder n) (hh : l.Housed) (output : Output) :
    Yields (l.removeOutput output) n fun l' _ => l'.Housed := by
  refine removeOutput_of_found fun monitors primary active i m hset hfind hm => ?_
  have hhome := (housed_of_normal hset).mp hh
  refine (removeOutput_yields h hset hfind hm).mono ?_
  rintro l' - ⟨-, -, -, ⟨-, hset'⟩ | ⟨p, p', hp, happended, hset'⟩⟩
  · exact housed_of_noOutputs hset'
  have hrest := hhome.eraseIdx i
  have hothers : ∀ output ∈ (monitors.eraseIdx i).map Monitor.output,
      (OutputId.new m.output).isOf output = false := by
    intro output houtput
    obtain ⟨m', hm', rfl⟩ := List.mem_map.mp houtput
    obtain ⟨j, hj, hgetj⟩ := List.mem_eraseIdx_iff_getElem?.mp hm'
    exact (apart_iff.mp (hhome.apart_of_ne hm hgetj hj.symm)).1
  refine (housed_of_normal hset').mpr
    (hrest.set hp happended.output_eq fun ws hws => ?_)
  rcases happended.mem ws hws with hown | hin | ⟨ws₀, hws₀, rfl⟩
  · exact Or.inl hown
  · exact hrest.home _ p hp ws hin
  · -- What comes from the monitor that goes belongs to no other.
    have hnone : ∀ output ∈ (monitors.eraseIdx i).map Monitor.output,
        ws₀.originalOutput.isOf output = false := by
      rcases hhome.home i _ hm ws₀ (List.mem_filter.mp hws₀).1 with hown | ⟨-, hnone⟩
      · rw [hown]
        exact hothers
      · exact fun output houtput =>
          hnone output (((List.eraseIdx_sublist _ _).map _).subset houtput)
    have hp' := List.mem_map_of_mem (f := Monitor.output) (List.mem_of_getElem? hp)
    rw [setOutput_of_not_isOf (hnone p.output hp')]
    exact Or.inr ⟨rfl, hnone⟩

/-- Where a workspace comes to does not depend on whether it was told so before. -/
theorem insertWorkspace_setOutput (m : Monitor W) (ws : Workspace W) (idx : Nat)
    (activate : Bool) :
    m.insertWorkspace (ws.setOutput m.output) idx activate =
      m.insertWorkspace ws idx activate := by
  have hsame : (ws.setOutput m.output).setOutput m.output = ws.setOutput m.output := by
    cases hof : ws.originalOutput.isOf m.output with
    | true => exact setOutput_of_own (setOutput_of_isOf hof)
    | false => rw [setOutput_of_not_isOf hof, setOutput_of_not_isOf hof]
  rw [Monitor.insertWorkspace, hsame, Monitor.insertWorkspace]

/-- The workspaces of a monitor to which another one comes. -/
theorem insertWorkspace_homes (h : m.InOrder n) (ws : Workspace W) (hnot : ws.id ∉ m.ids)
    (hlt : ws.id < n) {idx : Nat} (hidx : idx ≤ m.workspaces.length) (activate : Bool) :
    Safe (m.insertWorkspace ws idx activate) n fun m' _ => m'.output = m.output ∧
      ∀ ws' ∈ m'.workspaces, ws'.originalOutput = OutputId.new m.output ∨
        ∃ ws₀ ∈ ws.setOutput m.output :: m.workspaces,
          ws'.originalOutput = ws₀.originalOutput := by
  rw [← insertWorkspace_setOutput]
  refine (insertWorkspace_good h (ws.setOutput m.output) hnot hlt hidx activate).mono fun m' n' h' => ?_
  refine ⟨h'.output_eq, fun ws' hws' => ?_⟩
  rcases h'.stems ws' hws' with ⟨ws₀, hmem, hfollows⟩ | ⟨-, -, hown⟩
  · exact hfollows.output_eq.imp_right fun hsame => ⟨ws₀, hmem, hsame⟩
  · exact Or.inl hown

/-- A configured workspace comes to the monitor it is to be on; if that is not there,
    it waits on the primary one. -/
theorem configured_home (config : WorkspaceConfig) (id : WorkspaceId)
    (hm : monitors[configuredMonitorIdx monitors primary active config.openOnOutput]? = some m)
    {ws : Workspace W}
    (hws : (Workspace.newWithConfig m.output config id).setOutput m.output = ws) :
    ws.originalOutput = OutputId.new m.output ∨
      configuredMonitorIdx monitors primary active config.openOnOutput = primary ∧
        ∀ output ∈ monitors.map Monitor.output, ws.originalOutput.isOf output = false := by
  subst hws
  cases hopen : config.openOnOutput with
  | none =>
    have hown : (Workspace.newWithConfig (W := W) m.output config id).originalOutput =
        OutputId.new m.output := by
      rw [Workspace.newWithConfig, hopen, Option.getD_none]
    rw [setOutput_of_own hown]
    exact Or.inl hown
  | some name =>
    have hname : (Workspace.newWithConfig (W := W) m.output config id).originalOutput = name := by
      rw [Workspace.newWithConfig, hopen, Option.getD_some]
    rw [hopen, configuredMonitorIdx] at hm
    rw [configuredMonitorIdx]
    cases hfind : monitors.findIdx? fun m => m.output.name.matchesTarget name with
    | some i =>
      rw [hfind, Option.getD_some] at hm
      obtain ⟨hlt, hmatches, -⟩ := List.findIdx?_eq_some_iff_getElem.mp hfind
      obtain rfl := Option.some.inj ((List.getElem?_eq_getElem hlt).symm.trans hm)
      refine Or.inl (setOutput_of_isOf ?_)
      rw [hname]
      exact hmatches
    | none =>
      rw [hfind, Option.getD_none] at hm
      have hnone : ∀ output ∈ monitors.map Monitor.output,
          OutputId.isOf name output = false := by
        intro output houtput
        obtain ⟨m', hm', rfl⟩ := List.mem_map.mp houtput
        exact List.findIdx?_eq_none_iff.mp hfind m' hm'
      have hin := List.mem_map_of_mem (f := Monitor.output) (List.mem_of_getElem? hm)
      refine Or.inr ⟨Option.getD_none, ?_⟩
      rw [setOutput_of_not_isOf (by rw [hname]; exact hnone _ hin), hname]
      exact hnone

theorem ensureNamedWorkspace_housed (h : l.InOrder n) (hh : l.Housed) (config : WorkspaceConfig) :
    Yields (l.ensureNamedWorkspace config) n fun l' _ => l'.Housed := by
  rw [ensureNamedWorkspace]
  refine yields_early hh fun _ => ?_
  split
  · next monitors primary active hset =>
    have hordered := (inOrder_of_normal hset).mp h
    have hhome := (housed_of_normal hset).mp hh
    have hlt := configuredMonitorIdx_lt hordered config.openOnOutput
    have hm := List.getElem?_eq_getElem hlt
    have hids := (hordered.get hm).ids_lt
    refine yields_fresh_bind ?_
    intro l' n' hrun
    obtain ⟨m', ⟨houtput, hhomes⟩, rfl⟩ := (onMonitor_safe hset hm
      (insertWorkspace_homes ((hordered.get hm).mono (Nat.le_succ n)) _
        (fun hmem => Nat.lt_irrefl n (hids n hmem)) (Nat.lt_succ_self n) (Nat.zero_le _)
        false)).of_ok hrun
    refine (housed_of_normal rfl).mpr (hhome.set hm houtput fun ws hws => ?_)
    rcases hhomes ws hws with hown | ⟨ws₀, hmem, hsame⟩
    · exact Or.inl hown
    · rw [hsame]
      rcases List.mem_cons.mp hmem with heq | hmem
      · exact configured_home config n hm heq.symm
      · exact hhome.home _ _ hm ws₀ hmem
  · exact yields_fresh_bind (yields_pure (housed_of_noOutputs rfl))

end Layout

/-! ## Runs -/

/-- A new output is told apart from those there are. -/
def Op.tellsApart (l : Layout W) : Op W → Bool
  | addOutput output _ => l.monitors.all fun m => m.output.apart output
  | _ => true

namespace Layout

/-- A call is proper, and the outputs stay apart. -/
def ProperApart (l : Layout W) (op : Op W) : Prop := Proper l op ∧ op.tellsApart l = true

variable [DecidableEq W] {l : Layout W} {n : Nat}

theorem run_housed (c : Readings W) (op : Op W) (hop : ProperApart l op) (h : l.InOrder n)
    (hd : Distinct l.workspaces n) (hh : l.Housed) :
    Yields (op.run c l) n fun l' _ => l'.Housed := by
  cases hresettles : op.resettles with
  | false =>
    intro l' n' hrun
    have hleaves := (run_leaves c op hop.1.1 hop.1.2 h hd).of_ok hrun
    exact (hleaves.2 hresettles).housed hh
  | true =>
    cases op with
    | addOutput output layoutConfig =>
      exact addOutput_housed h hh (fun m hm => List.all_eq_true.mp hop.2 m hm) layoutConfig
    | removeOutput output => exact removeOutput_housed h hh output
    | ensureNamedWorkspace config => exact ensureNamedWorkspace_housed h hh config
    | _ => cases hresettles

theorem Reachable.housed {options : Options} {configs : List WorkspaceConfig}
    (h : Reachable ProperApart options configs l n) : l.Housed := by
  induction h with
  | @new n n' l h =>
    obtain ⟨workspaces, hset, -⟩ := new_yields (newWorkspaces_distinct configs n) options l n' h
    exact housed_of_noOutputs hset
  | @step l l' n n' c op h hop hrun ih =>
    have hproper : Reachable Proper options configs l n := h.mono fun _ _ hop => hop.1
    obtain ⟨hordered, hdistinct⟩ := hproper.inOrder
    exact run_housed c _ hop hordered hdistinct ih _ _ hrun

end Layout

end Cidre.Workspaces
