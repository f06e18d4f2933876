/-
  Cidre.Workspaces.Replug

  An output is unplugged and plugged in again.

  The primary monitor gets the workspaces in use of the one that goes, below its
  own, and the new monitor takes them away again: they are those that belong to its
  output.  In between, the active one is known by its identity.  This rests on the
  strips being in order and on every workspace being at home, and so fails where
  a workspace at an end of another strip was named.
-/

import Cidre.Workspaces.Homes

namespace Cidre.Workspaces

open Cidre.Counter

variable {W : Type}

/-! ## Calls that look nothing up for their caller -/

namespace Monitor

theorem addWorkspaceAt_finds (m : Monitor W) (idx : Nat) : Finds (m.addWorkspaceAt idx) :=
  finds_fresh.bind fun _ => (finds_bounds _).bind fun _ => finds_pure _

theorem cleanUpAt_finds (m : Monitor W) (idx : Nat) : Finds (m.cleanUpAt idx) := by
  refine finds_ite (finds_pure m) ((finds_bounds _).bind fun ws => ?_)
  exact finds_ite (finds_pure _) (finds_pure _)

theorem cleanUpFrom_finds (start : Nat) : ∀ (k : Nat) (m : Monitor W),
    Finds (cleanUpFrom start k m)
  | 0, m => finds_pure m
  | k + 1, m => finds_ite (finds_pure m)
      ((cleanUpAt_finds m k).bind fun m₁ => cleanUpFrom_finds start k m₁)

theorem mergeEnds_finds (m : Monitor W) : Finds m.mergeEnds := by
  refine finds_ite ((finds_bounds _).bind fun _ => (finds_require _).bind fun _ => ?_)
    (finds_pure m)
  exact (finds_bounds _).bind fun _ => (finds_require _).bind fun _ => finds_pure _

theorem cleanUpWorkspaces_finds (m : Monitor W) : Finds m.cleanUpWorkspaces :=
  (finds_require _).bind fun _ => (cleanUpFrom_finds _ _ m).bind mergeEnds_finds

theorem appendWorkspaces_finds (m : Monitor W) (workspaces : List (Workspace W)) :
    Finds (m.appendWorkspaces workspaces) := by
  refine finds_ite (finds_pure m) ((finds_bounds _).bind fun _ => (finds_bounds _).bind fun _ => ?_)
  exact (finds_applyIf (addWorkspaceAt_finds _ 0)).bind fun _ => cleanUpWorkspaces_finds _

theorem new_finds (output : Output) (workspaces : List (Workspace W)) (id : Option WorkspaceId)
    (baseOptions : Options) (layoutConfig : Option LayoutPart) :
    Finds (new output workspaces id baseOptions layoutConfig) := by
  refine (finds_require _).bind fun _ => ?_
  refine (finds_applyIf (finds_fresh.bind fun _ => finds_pure _)).bind fun _ => ?_
  exact finds_fresh.bind fun _ => finds_pure _

end Monitor

namespace Layout

theorem reclaimFrom_finds (output : Output) : ∀ (i : Nat) (r : Reclaim W),
    Finds (reclaimFrom output i r)
  | 0, r => finds_pure r
  | i + 1, r => by
      have hat : Finds (reclaimAt output i r) := by
        refine (finds_bounds _).bind fun ws => finds_ite ?_ (finds_pure r)
        exact (finds_bounds _).bind fun _ => finds_pure _
      exact hat.bind fun r₁ => reclaimFrom_finds output i r₁

theorem addOutput_finds (l : Layout W) (output : Output) (layoutConfig : Option LayoutPart) :
    Finds (l.addOutput output layoutConfig) := by
  have hnew : ∀ workspaces, Finds (l.newMonitor output workspaces layoutConfig) := fun workspaces =>
    (Monitor.new_finds output workspaces _ _ layoutConfig).bind fun _ => finds_pure _
  rw [addOutput]
  split
  · refine (finds_bounds _).bind fun primary => ?_
    have hreclaim : Finds (reclaim output primary) :=
      (reclaimFrom_finds output _ _).bind fun r =>
        (finds_applyIf (Monitor.cleanUpWorkspaces_finds r.primary)).bind fun _ => finds_pure _
    exact hreclaim.bind fun _ => (hnew _).bind fun _ => finds_pure _
  · exact (hnew _).bind fun _ => finds_pure _

variable {l : Layout W} {n i primary active : Nat} {monitors : List (Monitor W)}
  {m p m' p' p'' : Monitor W} {output : Output}

theorem removeOutput_finds (hset : l.monitorSet = .normal monitors primary active)
    (hfind : (monitors.findIdx? fun m => m.output == output) = some i) :
    Finds (l.removeOutput output) := by
  rw [removeOutput, hset]
  simp only [hfind]
  refine (finds_lookup i).bind fun _ => (finds_bounds _).bind fun _ => ?_
  refine (finds_bounds _).bind fun _ => finds_ite (finds_pure _) ?_
  refine (finds_bounds _).bind fun _ => ?_
  exact (Monitor.appendWorkspaces_finds _ _).bind fun _ => finds_pure _

/-! ## There and back -/

/-- The workspaces of a monitor that is not the primary one are its own. -/
theorem AtHome.own (h : AtHome monitors primary) (hm : monitors[i]? = some m) (hne : i ≠ primary) :
    ∀ ws ∈ m.workspaces, ws.originalOutput = OutputId.new m.output := by
  intro ws hws
  rcases h.home i m hm ws hws with hown | ⟨heq, -⟩
  · exact hown
  · exact absurd heq hne

/-- None of the workspaces of the primary monitor belongs to the output of another. -/
theorem AtHome.stays (h : AtHome monitors primary) (hm : monitors[i]? = some m)
    (hp : monitors[primary]? = some p) (hne : i ≠ primary) :
    ∀ ws ∈ p.workspaces, ws.originalOutput.isOf m.output = false := by
  intro ws hws
  rcases h.home primary p hp ws hws with hown | ⟨-, hnone⟩
  · rw [hown]
    exact (apart_iff.mp (h.apart_of_ne hp hm hne.symm)).1
  · exact hnone m.output (List.mem_map_of_mem (List.mem_of_getElem? hm))

/-- The strips of the monitor that goes and of the primary one tell their workspaces
    apart, and each has what it is to have after the other is gone. -/
structure Parting (m p : Monitor W) : Prop where
  own : ∀ ws ∈ m.workspaces, ws.originalOutput = OutputId.new m.output
  stays : ∀ ws ∈ p.workspaces, ws.originalOutput.isOf m.output = false
  other : (OutputId.new m.output).isOf p.output = false

theorem Parting.setOutput_eq (h : Parting m p) :
    (m.intoWorkspaces.map fun ws => ws.setOutput p.output) = m.intoWorkspaces := by
  refine (List.map_congr_left fun ws hws => ?_).trans (List.map_id _)
  refine setOutput_of_not_isOf ?_
  rw [h.own ws (List.mem_filter.mp hws).1]
  exact h.other

/-- What the primary monitor has in use while the other is away. -/
theorem Parting.used_eq (h : Parting m p) (happended : p.Appended m.intoWorkspaces p') :
    p'.intoWorkspaces = p.intoWorkspaces ++ m.intoWorkspaces := by
  have hused : m.intoWorkspaces.filter Workspace.hasWindowsOrName = m.intoWorkspaces :=
    List.filter_eq_self.mpr fun ws hws => (List.mem_filter.mp hws).2
  rw [happended.used_eq, h.setOutput_eq, hused]

/-- The workspaces that are taken away again. -/
theorem Parting.reclaimed_eq (h : Parting m p) (happended : p.Appended m.intoWorkspaces p')
    {workspaces : List (Workspace W)} (hreclaimed : p'.Reclaimed m.output workspaces p'') :
    workspaces = m.intoWorkspaces := by
  have hnone : (p.intoWorkspaces.filter fun ws => ws.originalOutput.isOf m.output) = [] := by
    refine List.filter_eq_nil_iff.mpr fun ws hws => ?_
    simp [h.stays ws (List.mem_filter.mp hws).1]
  have hall : (m.intoWorkspaces.filter fun ws => ws.originalOutput.isOf m.output) =
      m.intoWorkspaces := by
    refine List.filter_eq_self.mpr fun ws hws => ?_
    rw [h.own ws (List.mem_filter.mp hws).1]
    exact isOf_new m.output
  calc workspaces
      = p'.workspaces.filter fun ws => ws.originalOutput.isOf m.output && ws.hasWindowsOrName :=
        hreclaimed.workspaces_eq
    _ = p'.intoWorkspaces.filter fun ws => ws.originalOutput.isOf m.output := by
        rw [Monitor.intoWorkspaces, List.filter_filter]
    _ = m.intoWorkspaces := by
        rw [h.used_eq happended, List.filter_append, hnone, hall, List.nil_append]

/-- The new monitor has what the one that went had. -/
theorem Parting.retains (h : Parting m p) {workspaces : List (Workspace W)}
    (hws : workspaces = m.intoWorkspaces) (hnodup : (m.workspaces.map Workspace.id).Nodup)
    {active : Workspace W} (hactive : m.activeWorkspace = some active)
    (hstarted : m'.Started m.output workspaces (some active.id)) : m.Retains m' := by
  subst hws
  have hsame : ∀ ws ∈ m.workspaces, ws.setOutput m.output = ws :=
    fun ws hws => setOutput_of_own (h.own ws hws)
  refine ⟨?_, fun ws hget hfull => ?_⟩
  · rw [hstarted.used_eq]
    exact (List.map_congr_left fun ws hws => hsame ws (List.mem_filter.mp hws).1).trans
      (List.map_id _)
  · obtain rfl := Option.some.inj (hactive.symm.trans hget)
    have hmem : active ∈ m.workspaces := List.mem_of_getElem? hactive
    have hin : active ∈ m.intoWorkspaces := List.mem_filter.mpr ⟨hmem, hfull⟩
    have hids : (m.intoWorkspaces.map Workspace.id).Nodup :=
      hnodup.sublist (List.filter_sublist.map _)
    rw [← hsame active hmem]
    exact hstarted.active active (Monitor.activateIdx_of_mem hids hin)

/-- The primary monitor has what it had before the other went. -/
theorem Parting.primary_retains (h : Parting m p) (happended : p.Appended m.intoWorkspaces p')
    {workspaces : List (Workspace W)} (hreclaimed : p'.Reclaimed m.output workspaces p'') :
    p.Retains p'' := by
  refine ⟨?_, fun ws hget hfull => ?_⟩
  · have hall : (p.intoWorkspaces.filter fun ws => !ws.originalOutput.isOf m.output) =
        p.intoWorkspaces := by
      refine List.filter_eq_self.mpr fun ws hws => ?_
      rw [h.stays ws (List.mem_filter.mp hws).1]
      rfl
    have hnone : (m.intoWorkspaces.filter fun ws => !ws.originalOutput.isOf m.output) = [] := by
      refine List.filter_eq_nil_iff.mpr fun ws hws => ?_
      rw [h.own ws (List.mem_filter.mp hws).1, isOf_new]
      simp
    rw [hreclaimed.used_eq, h.used_eq happended, List.filter_append, hall, hnone, List.append_nil]
  · exact hreclaimed.active ws (happended.active ws hget hfull) hfull
      (h.stays ws (List.mem_of_getElem? hget))

/-! ## Unplugging and plugging in again -/

def primaryMonitor (l : Layout W) : Option (Monitor W) := do
  let i ← l.primaryIdx
  l.monitors[i]?

/-- The output is removed and added again. -/
def replug (l : Layout W) (output : Output) (layoutConfig : Option LayoutPart) :
    Counted (Layout W) := do
  let l ← l.removeOutput output
  l.addOutput output layoutConfig

/-- In `l'`, the monitors of the outputs of `m` and of `p`, which is the primary one,
    have the workspaces in use that `m` and `p` have, in the same order, and the active
    one is the same if it is in use. -/
def Lossless (m p : Monitor W) (l' : Layout W) : Prop :=
  ∃ m' p', m' ∈ l'.monitors ∧ m'.output = m.output ∧ m.Retains m' ∧
    l'.primaryMonitor = some p' ∧ p'.output = p.output ∧ p.Retains p'

/-- The primary monitor where another one is gone. -/
theorem unplug_returns (h : l.InOrder n) (hd : Distinct l.workspaces n)
    (hset : l.monitorSet = .normal monitors primary active) (hhome : AtHome monitors primary)
    (hm : monitors[i]? = some m) (hp : monitors[primary]? = some p) (hne : i ≠ primary) :
    ∃ l₁ n₁ ws p', l.removeOutput m.output n = .ok (l₁, n₁) ∧ l₁.InOrder n₁ ∧
      Distinct l₁.workspaces n₁ ∧ m.activeWorkspace = some ws ∧
      l₁.lastActiveWorkspaceId m.output.name.connector = some ws.id ∧
      p.Appended m.intoWorkspaces p' ∧
      l₁.monitorSet = .normal ((monitors.eraseIdx i).set (idxAfterRemoval i primary) p')
        (idxAfterRemoval i primary) (idxAfterRemoval i active) := by
  have hfind := hhome.findIdx?_eq hm
  have hrest : (monitors.eraseIdx i)[idxAfterRemoval i primary]? = some p :=
    getElem?_eraseIdx_of_ne hp hne.symm
  have hsafe := ((removeOutput_inOrder h hd m.output).and_yields
    (removeOutput_kept l m.output n)).and_yields (removeOutput_yields h hset hfind hm)
  obtain ⟨l₁, n₁, hrun, ⟨hordered, hkept⟩, ws, hws, hlast, ⟨hnil, -⟩ | ⟨p₁, p', hp₁, happended,
    hset₁⟩⟩ := hsafe.returns (removeOutput_finds hset hfind)
  · rw [hnil] at hrest
    cases hrest
  · obtain rfl := Option.some.inj (hrest.symm.trans hp₁)
    exact ⟨l₁, n₁, ws, p', hrun, hordered, hkept.distinct hd, hws, hlast, happended, hset₁⟩

/-- The output of `m` is plugged in where the primary monitor has its workspaces. -/
theorem plug_returns (h : l.InOrder n) (hd : Distinct l.workspaces n)
    (hset : l.monitorSet = .normal monitors primary active) (hp' : monitors[primary]? = some p')
    (hothers : ∀ m' ∈ monitors, (OutputId.new m'.output).isOf m.output = false)
    (hparting : Parting m p) (happended : p.Appended m.intoWorkspaces p')
    (hnodup : (m.workspaces.map Workspace.id).Nodup) {ws : Workspace W}
    (hws : m.activeWorkspace = some ws)
    (hlast : l.lastActiveWorkspaceId m.output.name.connector = some ws.id)
    (layoutConfig : Option LayoutPart) :
    ∃ l' n', l.addOutput m.output layoutConfig n = .ok (l', n') ∧ Lossless m p l' := by
  have hother := hothers p' (List.mem_of_getElem? hp')
  have hin := ((inOrder_of_normal hset).mp h).get hp'
  have hlt := (List.getElem?_eq_some_iff.mp hp').1
  rw [← monitors_of_normal hset] at hothers
  have hsafe := (addOutput_inOrder h hd hothers layoutConfig).and_yields
    (addOutput_yields hset hp' hin hother layoutConfig)
  obtain ⟨l', n', hrun, -, workspaces, p'', m', hreclaimed, hstarted, hset'⟩ :=
    hsafe.returns (addOutput_finds l m.output layoutConfig)
  rw [hlast] at hstarted
  refine ⟨l', n', hrun, m', p'', ?_, hstarted.output_eq, ?_, ?_, ?_, ?_⟩
  · rw [monitors_of_normal hset']
    exact List.mem_append_right _ (List.mem_singleton_self m')
  · exact hparting.retains (hparting.reclaimed_eq happended hreclaimed) hnodup hws hstarted
  · rw [primaryMonitor, primaryIdx_of_normal hset', monitors_of_normal hset']
    show (monitors.set primary p'' ++ [m'])[primary]? = some p''
    rw [List.getElem?_append_left (by rwa [List.length_set]), List.getElem?_set_self hlt]
  · exact hreclaimed.output_eq.trans happended.output_eq
  · exact hparting.primary_retains happended hreclaimed

theorem replug_returns (h : l.InOrder n) (hd : Distinct l.workspaces n) (hh : l.Housed)
    (hm : l.monitors[i]? = some m) (hi : l.primaryIdx ≠ some i) (hp : l.primaryMonitor = some p)
    (layoutConfig : Option LayoutPart) :
    ∃ l' n', l.replug m.output layoutConfig n = .ok (l', n') ∧ Lossless m p l' := by
  cases hset : l.monitorSet with
  | noOutputs workspaces =>
    rw [Layout.monitors, hset] at hm
    cases hm
  | normal monitors primary active =>
    have hhome := (housed_of_normal hset).mp hh
    rw [primaryMonitor, primaryIdx_of_normal hset, monitors_of_normal hset] at hp
    replace hp : monitors[primary]? = some p := hp
    rw [monitors_of_normal hset] at hm
    have hne : i ≠ primary := by
      rintro rfl
      exact hi (primaryIdx_of_normal hset)
    have hparting : Parting m p := ⟨hhome.own hm hne, hhome.stays hm hp hne,
      (apart_iff.mp (hhome.apart_of_ne hm hp hne)).1⟩
    obtain ⟨l₁, n₁, ws, p', hrun, hordered, hd₁, hws, hlast, happended, hset₁⟩ :=
      unplug_returns h hd hset hhome hm hp hne
    have hlt := (List.getElem?_eq_some_iff.mp (getElem?_eraseIdx_of_ne hp hne.symm)).1
    have hothers : ∀ m' ∈ (monitors.eraseIdx i).set (idxAfterRemoval i primary) p',
        (OutputId.new m'.output).isOf m.output = false := by
      intro m' hm'
      rcases List.mem_or_eq_of_mem_set hm' with hmem | rfl
      · obtain ⟨j, hj, hgetj⟩ := List.mem_eraseIdx_iff_getElem?.mp hmem
        exact (apart_iff.mp (hhome.apart_of_ne hgetj hm hj)).1
      · rw [happended.output_eq]
        exact (apart_iff.mp (hhome.apart_of_ne hp hm hne.symm)).1
    have hnodup := (((inOrder_of_normal hset).mp h).get hm).nodup
    obtain ⟨l', n', hrun', hlossless⟩ := plug_returns hordered hd₁ hset₁
      (List.getElem?_set_self hlt) hothers hparting happended hnodup hws hlast layoutConfig
    refine ⟨l', n', ?_, hlossless⟩
    show (l.removeOutput m.output n >>= fun q => q.1.addOutput m.output layoutConfig q.2) = _
    rw [hrun]
    exact hrun'

/-! ## Runs -/

/-- In every run in which no call names an end of another strip than the active one, an
    output other than the primary one may be unplugged and plugged in again. -/
theorem Reachable.replug_lossless [DecidableEq W] {options : Options}
    {configs : List WorkspaceConfig} (h : Reachable ProperApart options configs l n)
    (hm : l.monitors[i]? = some m) (hi : l.primaryIdx ≠ some i) (hp : l.primaryMonitor = some p)
    (layoutConfig : Option LayoutPart) :
    ∃ l' n', l.replug m.output layoutConfig n = .ok (l', n') ∧ Lossless m p l' := by
  have hproper : Reachable Proper options configs l n := h.mono fun _ _ hop => hop.1
  obtain ⟨hordered, hdistinct⟩ := hproper.inOrder
  exact replug_returns hordered hdistinct h.housed hm hi hp layoutConfig

theorem properApart_of_check (l : Layout W) (op : Op W)
    (h : (op.valid l && !op.namesEnd l && op.tellsApart l) = true) : ProperApart l op := by
  rw [Bool.and_eq_true] at h
  exact ⟨proper_of_check l op h.1, h.2⟩

/-- The second of two monitors has a workspace with a window and one with a name. -/
theorem replug_lossless_second : ∃ (l : Layout Nat) (n : Nat) (m p : Monitor Nat),
    Reachable ProperApart ⟨true⟩ [⟨"chat", some "B"⟩] l n ∧ l.monitors[1]? = some m ∧
      l.primaryMonitor = some p ∧ m.intoWorkspaces.length = 2 ∧ p.intoWorkspaces.length = 1 ∧
      ∃ l' n', l.replug m.output none n = .ok (l', n') ∧ Lossless m p l' := by
  obtain ⟨l, n, hl, hq⟩ := exists_reachable ⟨true⟩ [⟨"chat", some "B"⟩]
    [(quiet, .addOutput (plainOutput 0 "A") none), (quiet, .addOutput (plainOutput 1 "B") none),
      (quiet, .focusOutput (plainOutput 1 "B")), (quiet, .switchWorkspaceDown),
      (quiet, .addWindow 7 (.output (plainOutput 1 "B")) .yes),
      (quiet, .addWindow 8 (.output (plainOutput 0 "A")) .yes)]
    (fun l => l.primaryIdx == some 0 &&
      l.monitors.map (fun m => m.intoWorkspaces.length) == [1, 2])
    properApart_of_check (by decide +kernel)
  rw [Bool.and_eq_true, beq_iff_eq, beq_iff_eq] at hq
  obtain ⟨hprimary, hlens⟩ := hq
  obtain ⟨p, rest, hmonitors, hp, hrest⟩ := List.map_eq_cons_iff.mp hlens
  obtain ⟨m, rest', rfl, hm, -⟩ := List.map_eq_cons_iff.mp hrest
  have hget : l.monitors[1]? = some m := by rw [hmonitors]; rfl
  have hgetp : l.primaryMonitor = some p := by
    rw [primaryMonitor, hprimary, hmonitors]
    rfl
  have hne : l.primaryIdx ≠ some 1 := by
    rw [hprimary]
    decide
  exact ⟨l, n, m, p, hl, hget, hgetp, hm, hp, hl.replug_lossless hget hne hgetp none⟩

/-- The only workspace of the first monitor gets a name while the second is active. -/
theorem replug_fails : ∃ (l : Layout Nat) (n : Nat) (m p : Monitor Nat),
    Reachable (fun l op => op.valid l = true ∧ op.tellsApart l = true) ⟨true⟩ [] l n ∧
      l.monitors[1]? = some m ∧ l.primaryIdx ≠ some 1 ∧ l.primaryMonitor = some p ∧
      ¬ ∃ l' n', l.replug m.output none n = .ok (l', n') ∧ Lossless m p l' := by
  have hcheck : ∀ (l : Layout Nat) (op : Op Nat), (op.valid l && op.tellsApart l) = true →
      op.valid l = true ∧ op.tellsApart l = true := fun _ _ h => Bool.and_eq_true_iff.mp h
  obtain ⟨l, n, hl, hq⟩ := exists_reachable_at ⟨true⟩ []
    [(quiet, .addOutput (plainOutput 0 "A") none), (quiet, .addOutput (plainOutput 1 "B") none),
      (quiet, .addWindow 7 (.output (plainOutput 1 "B")) .yes),
      (quiet, .focusOutput (plainOutput 1 "B")),
      (quiet, .setWorkspaceName "web" (some (.id 0)))]
    (fun l n => l.primaryIdx == some 0 &&
      l.monitors.map Monitor.output == [plainOutput 0 "A", plainOutput 1 "B"] &&
      match l.replug (plainOutput 1 "B") none n with
      | .ok _ => false
      | .error _ => true)
    hcheck (by decide +kernel)
  rw [Bool.and_eq_true, Bool.and_eq_true, beq_iff_eq, beq_iff_eq] at hq
  obtain ⟨⟨hprimary, houtputs⟩, hfails⟩ := hq
  obtain ⟨p, rest, hmonitors, hp, hrest⟩ := List.map_eq_cons_iff.mp houtputs
  obtain ⟨m, rest', rfl, hm, -⟩ := List.map_eq_cons_iff.mp hrest
  refine ⟨l, n, m, p, hl, by rw [hmonitors]; rfl, by rw [hprimary]; decide, ?_, ?_⟩
  · rw [primaryMonitor, hprimary, hmonitors]
    rfl
  · rintro ⟨l', n', hrun, -⟩
    rw [hm] at hrun
    rw [hrun] at hfails
    cases hfails

end Layout

end Cidre.Workspaces
