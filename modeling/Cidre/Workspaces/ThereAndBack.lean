/-
  Cidre.Workspaces.ThereAndBack

  The active workspace goes to another monitor and comes back.

  A strip is seen from its active workspace: those above, it, and those below.  A
  workspace that leaves makes the one above it active, and one that comes is put below
  the active one, so that it comes back to where it was.  Only the first workspace has
  none above it: the one below becomes active then, and if that one is in use, the two
  have changed places after the return.
-/

import Cidre.Workspaces.Reorder

namespace Cidre.Workspaces

open Cidre.Counter
open Cidre.Panic (Vec.insert Vec.remove)

variable {W : Type}

/-- Those of the workspaces that are in use. -/
abbrev used (l : List (Workspace W)) : List (Workspace W) := l.filter Workspace.hasWindowsOrName

theorem used_of_free {ws : Workspace W} (h : ws.hasWindowsOrName = false) (l : List (Workspace W)) :
    used (ws :: l) = used l := List.filter_cons_of_neg (by simp [h])

theorem used_of_full {ws : Workspace W} (h : ws.hasWindowsOrName = true) (l : List (Workspace W)) :
    used (ws :: l) = ws :: used l := List.filter_cons_of_pos h

theorem used_append (l r : List (Workspace W)) : used (l ++ r) = used l ++ used r :=
  List.filter_append l r

namespace Monitor

variable {m m' : Monitor W} {n : Nat} {ws x : Workspace W} {l r : List (Workspace W)}

/-! ## The strip, seen from the active workspace -/

/-- The active workspace is `ws`, with `l` above it and `r` below it. -/
structure Around (m : Monitor W) (l : List (Workspace W)) (ws : Workspace W)
    (r : List (Workspace W)) : Prop where
  workspaces_eq : m.workspaces = l ++ ws :: r
  active_eq : m.activeWorkspaceIdx = l.length

theorem exists_around (h : m.activeWorkspace = some ws) : ∃ l r, m.Around l ws r := by
  obtain ⟨hlt, hget⟩ := List.getElem?_eq_some_iff.mp h
  refine ⟨m.workspaces.take m.activeWorkspaceIdx, m.workspaces.drop (m.activeWorkspaceIdx + 1),
    ?_, ?_⟩
  · rw [← hget, List.getElem_cons_drop, List.take_append_drop]
  · rw [List.length_take]
    omega

theorem Around.active (h : m.Around l ws r) : m.activeWorkspace = some ws := by
  rw [activeWorkspace, h.workspaces_eq, h.active_eq]
  exact Panic.Vec.getElem?_split l r ws

theorem Around.used_eq (h : m.Around l ws r) : m.intoWorkspaces = used l ++ used (ws :: r) := by
  rw [intoWorkspaces, h.workspaces_eq]
  exact used_append l (ws :: r)

/-- What is left of a strip that is cleaned up. -/
theorem Swept.around (hswept : m.Swept m') (hnodup : m.ids.Nodup) (h : m.Around l ws r) :
    ∃ l' r', m'.Around l' ws r' ∧ l'.Sublist l ∧ used l' = used l ∧ used r' = used r := by
  rw [ids, h.workspaces_eq] at hnodup
  have hsub := hswept.sublist
  rw [h.workspaces_eq] at hsub
  have hactive : m'.workspaces[m'.activeWorkspaceIdx]? = some ws := by
    rw [← h.active, ← hswept.active_eq]
    rfl
  obtain ⟨l', r', hws, hl, hr, -⟩ := sublist_split hnodup hsub (List.mem_of_getElem? hactive)
  have hidx : m'.activeWorkspaceIdx = l'.length := by
    have hnodup' : m'.workspaces.Nodup := List.Nodup.of_map Workspace.id (hnodup.sublist (hsub.map _))
    obtain ⟨hlt, -⟩ := List.getElem?_eq_some_iff.mp hactive
    refine (List.getElem?_inj hlt hnodup').mp (hactive.trans ?_)
    rw [hws]
    exact (Panic.Vec.getElem?_split l' r' ws).symm
  have hl' : (used l').Sublist (used l) := hl.filter _
  have hr' : (used r').Sublist (used r) := hr.filter _
  -- Nothing in use is lost on either side, as nothing is lost as a whole.
  have hlen := congrArg List.length hswept.used_eq
  rw [h.used_eq, intoWorkspaces, hws, ← used, used_append, List.length_append,
    List.length_append] at hlen
  have hlen' : (used l').length + (used r').length = (used l).length + (used r).length := by
    cases hfull : ws.hasWindowsOrName with
    | true =>
      rw [used_of_full hfull, used_of_full hfull, List.length_cons, List.length_cons] at hlen
      omega
    | false =>
      rw [used_of_free hfull, used_of_free hfull] at hlen
      exact hlen
  have hle := hl'.length_le
  have hle' := hr'.length_le
  exact ⟨l', r', ⟨hws, hidx⟩, hl, hl'.eq_of_length (by omega), hr'.eq_of_length (by omega)⟩

/-- The active workspace and those above it that are in use are `front`, and those below
    it are `back`. -/
def Parts (m : Monitor W) (front back : List (Workspace W)) : Prop :=
  ∃ l x r, m.Around l x r ∧ used (l ++ [x]) = front ∧ used r = back

theorem Parts.used_eq {front back : List (Workspace W)} (h : m.Parts front back) :
    m.intoWorkspaces = front ++ back := by
  obtain ⟨l, x, r, haround, rfl, rfl⟩ := h
  rw [haround.used_eq, used_append, List.append_assoc, ← used_append [x]]
  rfl

/-- A strip is seen from its active workspace in one way only. -/
theorem Around.parts_eq {front back : List (Workspace W)} (h : m.Around l x r)
    (hparts : m.Parts front back) : used (l ++ [x]) = front ∧ used r = back := by
  obtain ⟨l', x', r', haround, rfl, rfl⟩ := hparts
  have hws := h.workspaces_eq.symm.trans haround.workspaces_eq
  obtain ⟨rfl, htail⟩ := List.append_inj hws (h.active_eq.symm.trans haround.active_eq)
  obtain ⟨rfl, rfl⟩ := List.cons.inj htail
  exact ⟨rfl, rfl⟩

theorem Around.parts_of_cleaned (h : m.Around l x r) (hnodup : m.ids.Nodup) {n' : Nat}
    (hactive : m'.activeWorkspaceIdx < m'.workspaces.length)
    (hrun : m.cleanUpWorkspaces n = .ok (m', n')) :
    m'.Parts (used (l ++ [x])) (used r) ∧
      (x.hasWindowsOrName = true → m'.activeWorkspace = some x) := by
  have htrims := cleanUpWorkspaces_trims m n m' n' hrun
  refine ⟨?_, htrims.active x h.active⟩
  by_cases hany : ∃ ws ∈ m.workspaces, ws.hasWindowsOrName = true
  · obtain ⟨ws, hws, hfull⟩ := hany
    obtain ⟨l', r', h', -, hl, hr⟩ :=
      (cleanUpWorkspaces_swept hws hfull n m' n' hrun).around hnodup h
    refine ⟨l', x, r', h', ?_, hr⟩
    rw [used_append, used_append, hl]
  · -- With nothing in use there is nothing to be told apart.
    have hnone : ∀ l : List (Workspace W), l ⊆ m.workspaces → used l = [] := fun l hl =>
      List.filter_eq_nil_iff.mpr fun ws hws hfull => hany ⟨ws, hl hws, hfull⟩
    obtain ⟨l', r', h'⟩ := exists_around (List.getElem?_eq_getElem hactive)
    have hsub := htrims.sublist.subset
    rw [h'.workspaces_eq] at hsub
    have hsub' := List.Subset.refl m.workspaces
    nth_rewrite 1 [h.workspaces_eq] at hsub'
    refine ⟨l', _, r', h', ?_, ?_⟩
    · rw [hnone (l ++ [x]) fun ws hws => hsub' (by simp at hws ⊢; tauto)]
      exact hnone _ fun ws hws => hsub (by simp at hws ⊢; tauto)
    · rw [hnone r fun ws hws => hsub' (by simp [hws])]
      exact hnone _ fun ws hws => hsub (by simp [hws])

/-! ## The active workspace leaves -/

/-- Inside the strip no empty workspaces are added. -/
theorem surround_inside {idx : Nat} (hlead : m.lead ≤ idx) (hlt : idx + 1 < m.workspaces.length) :
    m.surround idx idx = pure m ∧ m.surroundedIdx idx idx = idx := by
  have hbottom : (idx == m.workspaces.length - 1) = false := by
    rw [beq_eq_false_iff_ne]
    omega
  have htop : (m.above && idx == 0) = false := by
    cases habove : m.above with
    | false => rfl
    | true =>
      rw [lead, habove, if_pos rfl] at hlead
      rw [Bool.true_and, beq_eq_false_iff_ne]
      omega
  refine ⟨?_, ?_⟩
  · rw [surround, hbottom]
    show applyIf (m.above && idx == 0) addWorkspaceTop m = pure m
    rw [htop]
    rfl
  · rw [surroundedIdx, htop]
    rfl

/-- What is left of a strip with `l` above the workspace that left and `r` below it: the
    one right above it is active, or the one below if there is none. -/
structure Departed (l r : List (Workspace W)) (m' : Monitor W) : Prop where
  above : ∀ l₀ x, l = l₀ ++ [x] → m'.Parts (used l) (used r) ∧
    (x.hasWindowsOrName = true → m'.activeWorkspace = some x)
  below : l = [] → ∀ y r₀, r = y :: r₀ → m'.Parts (used [y]) (used r₀)

theorem removeWorkspaceByIdx_departed (h : m.InOrder n) (hm : m.Around l ws r)
    (hfull : ws.hasWindowsOrName = true) :
    Yields (m.removeWorkspaceByIdx m.activeWorkspaceIdx) n fun p _ => Departed l r p.2 := by
  obtain ⟨hlead, hlt⟩ := used_inside h hm.active hfull
  obtain ⟨hsurround, hidx⟩ := surround_inside hlead hlt
  have hnodup := h.nodup
  rw [ids, hm.workspaces_eq, List.map_append, List.map_cons] at hnodup
  have hrest : ((l ++ r).map Workspace.id).Nodup := by
    rw [List.map_append]
    exact hnodup.sublist ((List.sublist_cons_self _ _).append_left _)
  have hcleaned : Yields (m.removeWorkspaceByIdx m.activeWorkspaceIdx) n fun p _ =>
      p.2.activeWorkspaceIdx < p.2.workspaces.length → Departed l r p.2 := by
    rw [removeWorkspaceByIdx, hsurround, hidx, pure_bind]
    refine yields_bounds_bind fun p hremove => ?_
    rw [hm.workspaces_eq, hm.active_eq, Panic.Vec.remove_split] at hremove
    obtain rfl := Option.some.inj hremove
    refine Yields.bind (fun m' n' hrun => hrun) fun m' n' hrun => yields_pure fun hactive => ?_
    refine ⟨?_, ?_⟩
    · rintro l₀ x rfl
      refine Around.parts_of_cleaned ⟨?_, ?_⟩ ?_ hactive hrun
      · exact List.append_assoc l₀ [x] r
      · show (if _ then _ else _) = _
        rw [hm.active_eq, List.length_append, List.length_singleton, if_pos (by omega),
          Nat.add_sub_cancel]
      · exact hrest
    · rintro rfl y r₀ rfl
      refine (Around.parts_of_cleaned ⟨rfl, ?_⟩ ?_ hactive hrun).1
      · show (if _ then _ else _) = _
        rw [hm.active_eq, List.length_nil, if_neg (by omega)]
      · exact hrest
  intro p n' hrun
  exact hcleaned p n' hrun ((removeWorkspaceByIdx_safe h hm.active).of_ok hrun).2.1.active_lt

/-! ## A workspace comes -/

/-- The workspace `ws` came to a strip that had `x` active, with `l` above it and `r`
    below it. -/
structure Arrived (l : List (Workspace W)) (x : Workspace W) (r : List (Workspace W))
    (ws : Workspace W) (m' : Monitor W) : Prop where
  around : ∃ l' r', m'.Around l' ws r' ∧ used l' = used (l ++ [x]) ∧ used r' = used r ∧
    (x.hasWindowsOrName = true → ∃ l₀, l' = l₀ ++ [x])

/-- What ends with a workspace in use ends with it when the others are taken out. -/
theorem ends_of_sublist {l l' : List (Workspace W)} (hx : x.hasWindowsOrName = true)
    (hsub : l'.Sublist (l ++ [x])) (hused : used l' = used (l ++ [x])) : ∃ l₀, l' = l₀ ++ [x] := by
  obtain ⟨l₁, l₂, rfl, hl₁, hl₂⟩ := List.sublist_append_iff.mp hsub
  rcases List.sublist_singleton.mp hl₂ with rfl | rfl
  · have hle := (hl₁.filter Workspace.hasWindowsOrName).length_le
    have hlen := congrArg List.length hused
    rw [List.append_nil, used_append, used_of_full hx, List.length_append, List.length_cons] at hlen
    have hle' : (used l₁).length ≤ (used l).length := hle
    omega
  · exact ⟨l₁, rfl⟩

theorem rememberActive_yields (m : Monitor W) (idx n : Nat) :
    Yields (m.rememberActive idx) n fun m' _ =>
      ∃ previous, m' = { m with previousWorkspaceId := previous } := by
  refine yields_ite (fun _ => ?_) (fun _ => yields_pure ⟨m.previousWorkspaceId, rfl⟩)
  exact yields_bounds_bind fun ws _ => yields_pure ⟨some ws.id, rfl⟩

theorem insertWorkspace_arrived (h : m.InOrder n) (hm : m.Around l x r) (hnot : ws.id ∉ m.ids)
    (hid : ws.id < n) (hfull : ws.hasWindowsOrName = true) :
    Yields (m.insertWorkspace ws (m.activeWorkspaceIdx + 1) true) n fun m' _ =>
      Arrived l x r (ws.setOutput m.output) m' := by
  have hlen : m.workspaces.length = l.length + 1 + r.length := by
    rw [hm.workspaces_eq, List.length_append, List.length_cons]
    omega
  simp only [insertWorkspace]
  rw [hm.active_eq]
  generalize hi : (if l.length + 1 = m.workspaces.length then l.length + 1 - 1 else l.length + 1) = i
  refine Yields.bind
    (fun m₁ n₁ hrun => (addTop_safe h.toTracked (i == 0 && m.above)).of_ok hrun) ?_
  rintro m₁ n₁ ⟨h₁, htop⟩
  obtain ⟨pre, hws, hpre, hfree⟩ := htop.workspaces_eq
  have hfree' : used pre = [] := List.filter_eq_nil_iff.mpr fun ws hws => by
    simp [spare_not_full (hfree ws hws)]
  have hj : (if (i == 0 && m.above) = true then i + 1 else i) = pre.length + i := by
    rw [hpre]
    split <;> omega
  have hnot₁ : ws.id ∉ m₁.ids := by
    intro hmem
    rcases h₁.old_or_new _ hmem with hmem | hge
    · exact hnot hmem
    · exact absurd hid (Nat.not_lt.mpr hge)
  rw [hj]
  -- The strip, where the workspace is put in.
  obtain ⟨l₂, r₂, hl₂, hjoin, hfront, hback, hends⟩ : ∃ l₂ r₂, l₂.length = pre.length + i ∧
      m₁.workspaces = l₂ ++ r₂ ∧ used l₂ = used (l ++ [x]) ∧ used r₂ = used r ∧
      (x.hasWindowsOrName = true → l₂ = (pre ++ l) ++ [x]) := by
    rw [hws, hm.workspaces_eq]
    cases r with
    | nil =>
      -- Not past the last workspace, which is not in use.
      have hfree : x.hasWindowsOrName = false := by
        refine unused_last h ?_
        rw [hlen, List.length_nil, Nat.add_zero, Nat.add_sub_cancel, ← hm.active_eq]
        exact hm.active
      have hi' : i = l.length := by
        rw [← hi, if_pos (by rw [hlen, List.length_nil, Nat.add_zero]), Nat.add_sub_cancel]
      refine ⟨pre ++ l, [x], ?_, (List.append_assoc pre l [x]).symm, ?_, ?_, fun hx => ?_⟩
      · rw [List.length_append, hi']
      · rw [used_append, used_append, hfree', used_of_free hfree, List.nil_append]
        exact (List.append_nil _).symm
      · exact used_of_free hfree []
      · rw [hfree] at hx
        cases hx
    | cons y r =>
      have hi' : i = l.length + 1 := by
        rw [List.length_cons] at hlen
        rw [← hi, if_neg (by omega)]
      refine ⟨(pre ++ l) ++ [x], y :: r, ?_, ?_, ?_, rfl, fun _ => rfl⟩
      · rw [List.length_append, List.length_append, hi']
        exact Nat.add_assoc _ _ _
      · simp
      · rw [used_append, used_append, hfree', used_append, List.nil_append]
  refine yields_bounds_bind fun workspaces hins => ?_
  rw [← hl₂, hjoin, Panic.Vec.insert_split] at hins
  obtain rfl := Option.some.inj hins
  rw [← hl₂]
  have hnodup : ((l₂ ++ ws.setOutput m.output :: r₂).map Workspace.id).Nodup := by
    rw [(List.perm_middle.map Workspace.id).nodup_iff, ← hjoin]
    exact List.nodup_cons.mpr ⟨hnot₁, h₁.nodup⟩
  refine @Yields.bind _ _ _ _ _ (fun m₂ _ => m₂.workspaces = l₂ ++ ws.setOutput m.output :: r₂ ∧
    m₂.activeWorkspaceIdx = l₂.length) _ ?_ ?_
  · refine Yields.bind (rememberActive_yields _ _ _) ?_
    rintro _ _ ⟨previous, rfl⟩
    exact yields_pure ⟨rfl, rfl⟩
  · rintro m₂ n₂ ⟨hws₂, hactive₂⟩ m' n' hrun
    have hin : ws.setOutput m.output ∈ m₂.workspaces := by
      rw [hws₂]
      exact List.mem_append_right _ List.mem_cons_self
    have hswept := @cleanUpWorkspaces_swept _ { m₂ with workspaceSwitch := none } _ hin hfull n₂ m' n' hrun
    have haround : Around { m₂ with workspaceSwitch := none } l₂ (ws.setOutput m.output) r₂ :=
      ⟨hws₂, hactive₂⟩
    have hnodup₂ : (ids { m₂ with workspaceSwitch := none }).Nodup := by
      show (m₂.workspaces.map Workspace.id).Nodup
      rw [hws₂]
      exact hnodup
    obtain ⟨l', r', h', hsub, hl', hr'⟩ := hswept.around hnodup₂ haround
    refine ⟨l', r', h', hl'.trans hfront, hr'.trans hback, fun hx => ?_⟩
    have heq := hends hx
    subst heq
    exact ends_of_sublist hx hsub hl'

theorem removeWorkspaceByIdx_finds (m : Monitor W) (idx : Nat) :
    Finds (m.removeWorkspaceByIdx idx) := by
  have hbottom : ∀ m : Monitor W, Finds m.addWorkspaceBottom := fun m => addWorkspaceAt_finds m _
  refine Finds.bind ((finds_applyIf (hbottom _)).bind fun _ => ?_) fun _ => ?_
  · exact finds_applyIf (addWorkspaceAt_finds _ 0)
  · exact (finds_bounds _).bind fun _ => (cleanUpWorkspaces_finds _).bind fun _ => finds_pure _

theorem insertWorkspace_finds (m : Monitor W) (ws : Workspace W) (idx : Nat) (activate : Bool) :
    Finds (m.insertWorkspace ws idx activate) := by
  have hremember : ∀ (m : Monitor W) (idx : Nat), Finds (m.rememberActive idx) := fun m idx =>
    finds_ite ((finds_bounds _).bind fun _ => finds_pure _) (finds_pure m)
  refine (finds_applyIf (addWorkspaceAt_finds _ 0)).bind fun _ => (finds_bounds _).bind fun _ => ?_
  refine (finds_applyIf ?_).bind fun _ => cleanUpWorkspaces_finds _
  exact (hremember _ _).bind fun _ => finds_pure _

end Monitor

namespace Layout

variable {l l' : Layout W} {n n' primary i j : Nat} {monitors : List (Monitor W)}
  {a b a' b' : Monitor W} {ws x : Workspace W} {la ra lb rb : List (Workspace W)}

open Monitor (Around Departed Arrived)

/-! ## The outputs -/

/-- The outputs of the monitors are different ones. -/
def OutputsDiffer (l : Layout W) : Prop := (l.monitors.map Monitor.output).Nodup

theorem findIdx?_output (h : (monitors.map Monitor.output).Nodup) (hj : monitors[j]? = some b) :
    (monitors.findIdx? fun m => m.output == b.output) = some j := by
  obtain ⟨hlt, rfl⟩ := List.getElem?_eq_some_iff.mp hj
  refine List.findIdx?_eq_some_iff_getElem.mpr ⟨hlt, by simp, fun k hk => ?_⟩
  have hlen : (monitors.map Monitor.output).length = monitors.length := List.length_map _
  have hne := (List.nodup_iff_getElem?_ne_getElem?.mp h) k j hk (by omega)
  rw [List.getElem?_map, List.getElem?_map, List.getElem?_eq_getElem (by omega),
    List.getElem?_eq_getElem hlt] at hne
  simpa using hne

theorem addOutput_differ (h : l.InOrder n) (hdiffer : l.OutputsDiffer) {output : Output}
    (hother : ∀ m ∈ l.monitors, (OutputId.new m.output).isOf output = false)
    (layoutConfig : Option LayoutPart) :
    Yields (l.addOutput output layoutConfig) n fun l' _ => l'.OutputsDiffer := by
  cases hset : l.monitorSet with
  | normal monitors primary active =>
    have hlt := ((inOrder_of_normal hset).mp h).primary_lt
    have hp : monitors[primary]? = some monitors[primary] := List.getElem?_eq_getElem hlt
    rw [OutputsDiffer, monitors_of_normal hset] at hdiffer
    rw [monitors_of_normal hset] at hother
    refine (addOutput_yields hset hp (((inOrder_of_normal hset).mp h).get hp)
      (hother _ (List.getElem_mem hlt)) layoutConfig).mono ?_
    rintro l' - ⟨workspaces, p', m, hreclaimed, hstarted, hset'⟩
    rw [OutputsDiffer, monitors_of_normal hset', List.map_append,
      outputs_set hp hreclaimed.output_eq, List.map_singleton, hstarted.output_eq]
    refine List.nodup_append.mpr ⟨hdiffer, List.nodup_singleton _, fun a ha b hb => ?_⟩
    obtain ⟨m', hm', rfl⟩ := List.mem_map.mp ha
    rw [List.mem_singleton.mp hb]
    intro heq
    have hself := hother m' hm'
    rw [heq, isOf_new] at hself
    cases hself
  | noOutputs workspaces =>
    rw [addOutput, hset]
    refine (newMonitor_started l output workspaces layoutConfig n).bind fun m n' hstarted => ?_
    exact yields_pure (List.nodup_singleton _)

theorem removeOutput_differ (h : l.InOrder n) (hdiffer : l.OutputsDiffer) (output : Output) :
    Yields (l.removeOutput output) n fun l' _ => l'.OutputsDiffer := by
  refine removeOutput_of_found fun monitors primary active i m hset hfind hm => ?_
  rw [OutputsDiffer, monitors_of_normal hset] at hdiffer
  refine (removeOutput_yields h hset hfind hm).mono ?_
  rintro l' - ⟨-, -, -, ⟨-, hset'⟩ | ⟨p, p', hp, happended, hset'⟩⟩
  · rw [OutputsDiffer, Layout.monitors, hset']
    exact List.nodup_nil
  · rw [OutputsDiffer, monitors_of_normal hset', outputs_set hp happended.output_eq]
    exact hdiffer.sublist ((List.eraseIdx_sublist _ _).map _)

theorem ensureNamedWorkspace_differ (h : l.InOrder n) (hdiffer : l.OutputsDiffer)
    (config : WorkspaceConfig) :
    Yields (l.ensureNamedWorkspace config) n fun l' _ => l'.OutputsDiffer := by
  rw [ensureNamedWorkspace]
  refine yields_early hdiffer fun _ => ?_
  split
  · next monitors primary active hset =>
    have hordered := (inOrder_of_normal hset).mp h
    have hlt := configuredMonitorIdx_lt hordered config.openOnOutput
    have hm := List.getElem?_eq_getElem hlt
    rw [OutputsDiffer, monitors_of_normal hset] at hdiffer
    refine yields_fresh_bind fun l' n' hrun => ?_
    obtain ⟨m', ⟨houtput, -⟩, rfl⟩ := (onMonitor_safe hset hm
      (insertWorkspace_homes ((hordered.get hm).mono (Nat.le_succ n)) _
        (fun hmem => Nat.lt_irrefl n ((hordered.get hm).ids_lt n hmem)) (Nat.lt_succ_self n)
        (Nat.zero_le _) false)).of_ok hrun
    rw [OutputsDiffer, monitors_of_normal rfl, outputs_set hm houtput]
    exact hdiffer
  · exact yields_fresh_bind (yields_pure List.nodup_nil)

theorem Reachable.outputs_differ [DecidableEq W] {options : Options}
    {configs : List WorkspaceConfig} (h : Reachable Proper options configs l n) :
    l.OutputsDiffer := by
  induction h with
  | @new n n' l h =>
    obtain ⟨workspaces, hset, -⟩ := new_yields (newWorkspaces_distinct configs n) options l n' h
    rw [OutputsDiffer, Layout.monitors, hset]
    exact List.nodup_nil
  | @step l l' n n' c op h hop hrun ih =>
    obtain ⟨hordered, hdistinct⟩ := h.inOrder
    cases hresettles : op.resettles with
    | false =>
      have hleaves := (run_leaves c op hop.1 hop.2 hordered hdistinct).of_ok hrun
      rw [OutputsDiffer, outputs_settled (hleaves.2 hresettles).settled]
      exact ih
    | true =>
      cases op with
      | addOutput output layoutConfig =>
        refine addOutput_differ hordered ih (fun m hm => ?_) layoutConfig l' n' hrun
        have hm' := List.all_eq_true.mp hop.1 m hm
        simpa using hm'
      | removeOutput output => exact removeOutput_differ hordered ih output l' n' hrun
      | ensureNamedWorkspace config =>
        exact ensureNamedWorkspace_differ hordered ih config l' n' hrun
      | _ => cases hresettles

/-! ## From one monitor to another -/

/-- The active workspace of the active monitor goes to another one. -/
theorem moveWorkspaceToOutput_moves (h : l.InOrder n) (hd : Distinct l.workspaces n)
    (hset : l.monitorSet = .normal monitors primary i)
    (houtputs : (monitors.map Monitor.output).Nodup) (ha : monitors[i]? = some a)
    (hb : monitors[j]? = some b) (hne : i ≠ j) (haround : a.Around la ws ra)
    (hfull : ws.hasWindowsOrName = true) (haround' : b.Around lb x rb) :
    ∃ l' n' a' b', l.moveWorkspaceToOutput b.output n = .ok ((l', true), n') ∧
      l'.monitorSet = .normal ((monitors.set i a').set j b') primary j ∧
      a'.output = a.output ∧ b'.output = b.output ∧ Departed la ra a' ∧
      Arrived lb x rb
        ({ ws with originalOutput := OutputId.new b.output }.setOutput b.output) b' := by
  have hordered := (inOrder_of_normal hset).mp h
  have hain := hordered.get ha
  obtain ⟨⟨ws', a'⟩, n₁, hremove, ⟨hws', hgood, -⟩⟩ :=
    (Monitor.removeWorkspaceByIdx_safe hain haround.active).returns
      (Monitor.removeWorkspaceByIdx_finds a _)
  have hdeparted := Monitor.removeWorkspaceByIdx_departed hain haround hfull _ _ hremove
  obtain rfl : ws' = ws := hws'
  have hbin := (hordered.get hb).mono hgood.le
  have hmem : ws' ∈ a.workspaces := by
    rw [haround.workspaces_eq]
    exact List.mem_append_right _ List.mem_cons_self
  have hnot : ws'.id ∉ b.ids := by
    intro hin
    obtain ⟨y, hy, hid⟩ := List.mem_map.mp hin
    exact ids_apart hd hset ha hb hne ws' hmem y hy hid.symm
  have hlt : ws'.id < n₁ := Nat.lt_of_lt_of_le (hain.distinct.lt ws' hmem) hgood.le
  obtain ⟨b', n₂, hinsert, hgood'⟩ :=
    (insertWorkspace_good hbin { ws' with originalOutput := OutputId.new b.output } hnot hlt
      hbin.active_lt true).returns (Monitor.insertWorkspace_finds b _ _ true)
  have hnot' : Workspace.id { ws' with originalOutput := OutputId.new b.output } ∉ b.ids := hnot
  have harrived := Monitor.insertWorkspace_arrived hbin haround' hnot' hlt hfull _ _ hinsert
  refine ⟨{ l with monitorSet := .normal ((monitors.set i a').set j b') primary j }, n₂, a', b',
    ?_, rfl, hgood.output_eq, hgood'.output_eq, hdeparted, harrived⟩
  have hfind := findIdx?_output houtputs hb
  have hactive : l.activeMonitor = some a := by
    rw [activeMonitor, hset]
    exact ha
  have hlen : ¬ a.workspaces.length ≤ a.activeWorkspaceIdx := Nat.not_le.mpr hain.active_lt
  rw [moveWorkspaceToOutput, hactive]
  show l.moveWorkspaceToOutputById a.activeWorkspaceIdx none b.output n = _
  rw [moveWorkspaceToOutputById, hset]
  simp only [hfind, ha, monitorIdxOr, pure_bind]
  rw [bind_eq_of_ok rfl, bind_eq_of_ok rfl, if_neg hlen, if_neg hne]
  rw [bind_eq_of_ok hremove, hb, bind_eq_of_ok rfl]
  simp only [beq_self_eq_true, Bool.and_self]
  rw [bind_eq_of_ok hinsert]
  rfl

/-! ## There and back -/

/-- The workspaces in use are in the order they were in, the one that came back is active,
    and so is the one that was active on the other monitor, if it is in use. -/
structure Restored (a b : Monitor W) (ws : Workspace W) (a' b' : Monitor W) : Prop where
  first : a'.intoWorkspaces.map Workspace.id = a.intoWorkspaces.map Workspace.id
  second : b'.intoWorkspaces.map Workspace.id = b.intoWorkspaces.map Workspace.id
  active : a'.activeWorkspace.map Workspace.id = some ws.id
  previous : ∀ x, b.activeWorkspace = some x → x.hasWindowsOrName = true →
    b'.activeWorkspace.map Workspace.id = some x.id

/-- The first workspace is active, and the one below it is in use. -/
def ChangesPlaces (a : Monitor W) : Prop :=
  a.activeWorkspaceIdx = 0 ∧ ∃ next, a.workspaces[1]? = some next ∧ next.hasWindowsOrName = true

theorem changesPlaces_iff (haround : a.Around la ws ra) :
    ChangesPlaces a ↔ la = [] ∧ ∃ y r, ra = y :: r ∧ y.hasWindowsOrName = true := by
  rw [ChangesPlaces, haround.active_eq, List.length_eq_zero_iff, haround.workspaces_eq]
  refine and_congr_right ?_
  rintro rfl
  cases ra with
  | nil => simp
  | cons y r => simp

/-- Nothing in use is lost where a workspace leaves. -/
theorem departed_used (hra : ra ≠ []) (h : Departed la ra a') :
    a'.intoWorkspaces = used la ++ used ra := by
  rcases List.eq_nil_or_concat' la with rfl | ⟨l₀, x, rfl⟩
  · obtain ⟨y, r, rfl⟩ := List.exists_cons_of_ne_nil hra
    rw [(h.below rfl y r rfl).used_eq, ← used_append]
    rfl
  · exact (h.above l₀ x rfl).1.used_eq

theorem arrived_used {lx rx : List (Workspace W)} {x : Workspace W} {front back : List (Workspace W)}
    (hparts : a.Parts front back) (hx : a.Around lx x rx) (harrived : Arrived lx x rx ws a')
    (hfull : ws.hasWindowsOrName = true) : a'.intoWorkspaces = front ++ ws :: back := by
  obtain ⟨l', r', haround, hl', hr', -⟩ := harrived.around
  obtain ⟨hfront, hback⟩ := hx.parts_eq hparts
  rw [haround.used_eq, used_of_full hfull, hl', hr', hfront, hback]

/-- Where it comes back to, unless it changes places with the one below. -/
theorem departed_arrived_iff (hnodup : ((la ++ ws :: ra).map Workspace.id).Nodup)
    (hfull : ws.hasWindowsOrName = true) (hra : ra ≠ []) {lx rx : List (Workspace W)}
    {x ws' : Workspace W} (hdeparted : Departed la ra a') (hx : a'.Around lx x rx)
    (harrived : Arrived lx x rx ws' b') (hid : ws'.id = ws.id)
    (hfull' : ws'.hasWindowsOrName = true) :
    b'.intoWorkspaces.map Workspace.id = (used (la ++ ws :: ra)).map Workspace.id ↔
      ¬ (la = [] ∧ ∃ y r, ra = y :: r ∧ y.hasWindowsOrName = true) := by
  rcases List.eq_nil_or_concat' la with rfl | ⟨l₀, z, rfl⟩
  · obtain ⟨y, r, rfl⟩ := List.exists_cons_of_ne_nil hra
    have hused := arrived_used (hdeparted.below rfl y r rfl) hx harrived hfull'
    rw [hused, List.nil_append, used_of_full hfull]
    cases hy : y.hasWindowsOrName with
    | true =>
      refine iff_of_false (fun heq => ?_) (not_not.mpr ⟨rfl, y, r, rfl, hy⟩)
      rw [used_of_full hy, List.cons_append, List.map_cons, List.map_cons] at heq
      have hsame : ws.id = y.id := (List.cons.inj heq).1.symm
      rw [List.nil_append, List.map_cons, List.map_cons, hsame] at hnodup
      exact (List.nodup_cons.mp hnodup).1 List.mem_cons_self
    | false =>
      refine iff_of_true ?_ ?_
      · rw [used_of_free hy, used_of_free hy, List.map_append, List.map_cons, List.map_cons, hid]
        rfl
      · rintro ⟨-, y', r', heq, hy'⟩
        rw [← (List.cons.inj heq).1, hy] at hy'
        cases hy'
  · have hused := arrived_used (hdeparted.above l₀ z rfl).1 hx harrived hfull'
    refine iff_of_true ?_ ?_
    · rw [hused, used_append _ (ws :: ra), used_of_full hfull, List.map_append, List.map_append,
        List.map_cons, List.map_cons, hid]
    · rintro ⟨hnil, -⟩
      cases l₀ <;> cases hnil

/-- A workspace in use that is active has another one below it. -/
theorem below_ne_nil (h : a.InOrder n) (haround : a.Around la ws ra)
    (hfull : ws.hasWindowsOrName = true) : ra ≠ [] := by
  rintro rfl
  have hlt := (Monitor.used_inside h haround.active hfull).2
  rw [haround.active_eq, haround.workspaces_eq, List.length_append, List.length_singleton] at hlt
  omega

/-- The active workspace of a monitor goes to another one and comes back: everything is
    restored, unless it was the first one and the one below it is in use. -/
theorem Reachable.there_and_back_iff [DecidableEq W] {options : Options}
    {configs : List WorkspaceConfig} (hl : Reachable Proper options configs l n)
    (hset : l.monitorSet = .normal monitors primary i) (ha : monitors[i]? = some a)
    (hb : monitors[j]? = some b) (hne : i ≠ j) (hws : a.activeWorkspace = some ws)
    (hfull : ws.hasWindowsOrName = true) :
    (∃ l₁ n₁ l₂ n₂ a₂ b₂, l.moveWorkspaceToOutput b.output n = .ok ((l₁, true), n₁) ∧
      l₁.moveWorkspaceToOutput a.output n₁ = .ok ((l₂, true), n₂) ∧
      l₂.monitors[i]? = some a₂ ∧ l₂.monitors[j]? = some b₂ ∧ Restored a b ws a₂ b₂) ↔
      ¬ ChangesPlaces a := by
  obtain ⟨hordered, hdistinct⟩ := hl.inOrder
  have houtputs := hl.outputs_differ
  rw [OutputsDiffer, monitors_of_normal hset] at houtputs
  have hain := ((inOrder_of_normal hset).mp hordered).get ha
  have hbin := ((inOrder_of_normal hset).mp hordered).get hb
  obtain ⟨la, ra, haround⟩ := Monitor.exists_around hws
  obtain ⟨x, hx⟩ : ∃ x, b.workspaces[b.activeWorkspaceIdx]? = some x :=
    ⟨_, List.getElem?_eq_getElem hbin.active_lt⟩
  obtain ⟨lb, rb, haround'⟩ := Monitor.exists_around hx
  obtain ⟨l₁, n₁, a₁, b₁, hrun, hset₁, houtput, houtput', hdeparted, harrived⟩ :=
    moveWorkspaceToOutput_moves hordered hdistinct hset houtputs ha hb hne haround hfull haround'
  have hordered₁ := ((moveWorkspaceToOutput_after hordered hdistinct b.output).of_ok hrun).inOrder
  have hdistinct₁ := (moveWorkspaceToOutput_kept l b.output n _ _ hrun).distinct hdistinct
  obtain ⟨lb', rb', hback, hfront, hrest, hends⟩ := harrived.around
  have hilt := (List.getElem?_eq_some_iff.mp ha).1
  have hjlt := (List.getElem?_eq_some_iff.mp hb).1
  have hb' : (monitors.set i a₁)[j]? = some b := by rw [List.getElem?_set_ne hne, hb]
  have houtputs₁ : (((monitors.set i a₁).set j b₁).map Monitor.output).Nodup := by
    rw [outputs_set hb' houtput', outputs_set ha houtput]
    exact houtputs
  have hgetb : ((monitors.set i a₁).set j b₁)[j]? = some b₁ :=
    List.getElem?_set_self (by rwa [List.length_set])
  have hgeta : ((monitors.set i a₁).set j b₁)[i]? = some a₁ := by
    rw [List.getElem?_set_ne hne.symm]
    exact List.getElem?_set_self hilt
  have hain₁ := ((inOrder_of_normal hset₁).mp hordered₁).get hgeta
  have hbin₁ := ((inOrder_of_normal hset₁).mp hordered₁).get hgetb
  obtain ⟨lx, rx, hback'⟩ := Monitor.exists_around (List.getElem?_eq_getElem hain₁.active_lt)
  obtain ⟨l₂, n₂, b₂, a₂, hrun₂, hset₂, houtput₂, houtput₂', hdeparted₂, harrived₂⟩ :=
    moveWorkspaceToOutput_moves hordered₁ hdistinct₁ hset₁ houtputs₁ hgetb hgeta hne.symm hback
      hfull hback'
  rw [houtput] at hrun₂
  have hgetb₂ : l₂.monitors[j]? = some b₂ := by
    rw [monitors_of_normal hset₂, List.getElem?_set_ne hne]
    exact List.getElem?_set_self (by rwa [List.length_set, List.length_set])
  have hgeta₂ : l₂.monitors[i]? = some a₂ := by
    rw [monitors_of_normal hset₂]
    exact List.getElem?_set_self (by rwa [List.length_set, List.length_set, List.length_set])
  have hnodup := hain.nodup
  rw [Monitor.ids, haround.workspaces_eq] at hnodup
  have hfirst := departed_arrived_iff hnodup hfull (below_ne_nil hain haround hfull) hdeparted hback'
    harrived₂ rfl hfull
  rw [← changesPlaces_iff haround, used_append, ← haround.used_eq] at hfirst
  -- On the other monitor everything is as it was.
  have hsecond : b₂.intoWorkspaces = b.intoWorkspaces := by
    rw [departed_used (below_ne_nil hbin₁ hback hfull) hdeparted₂, hfront, hrest, haround'.used_eq,
      used_append, List.append_assoc, ← used_append [x]]
    rfl
  have hprevious : ∀ y, b.activeWorkspace = some y → y.hasWindowsOrName = true →
      b₂.activeWorkspace = some y := by
    intro y hy hyfull
    obtain rfl := Option.some.inj (haround'.active.symm.trans hy)
    obtain ⟨l₀, hl₀⟩ := hends hyfull
    exact (hdeparted₂.above l₀ x hl₀).2 hyfull
  have hiff : Restored a b ws a₂ b₂ ↔ ¬ ChangesPlaces a := by
    rw [← hfirst]
    refine ⟨Restored.first, fun hsame => ⟨hsame, ?_, ?_, fun y hy hyfull => ?_⟩⟩
    · rw [hsecond]
    · obtain ⟨l', r', haround₂, -⟩ := harrived₂.around
      rw [haround₂.active]
      rfl
    · rw [hprevious y hy hyfull]
      rfl
  rw [← hiff]
  constructor
  · rintro ⟨l₁', n₁', l₂', n₂', a₂', b₂', hrun', hrun₂', hgeta', hgetb', hrestored⟩
    obtain ⟨hl₁, rfl⟩ := Prod.mk.inj (Except.ok.inj (hrun.symm.trans hrun'))
    obtain ⟨rfl, -⟩ := Prod.mk.inj hl₁
    obtain ⟨hl₂, rfl⟩ := Prod.mk.inj (Except.ok.inj (hrun₂.symm.trans hrun₂'))
    obtain ⟨rfl, -⟩ := Prod.mk.inj hl₂
    obtain rfl := Option.some.inj (hgeta₂.symm.trans hgeta')
    obtain rfl := Option.some.inj (hgetb₂.symm.trans hgetb')
    exact hrestored
  · exact fun hrestored =>
      ⟨l₁, n₁, l₂, n₂, a₂, b₂, hrun, hrun₂, hgeta₂, hgetb₂, hrestored⟩

/-- Two monitors, the first of them with two workspaces in use. -/
def twoMonitors : List (Readings Nat × Op Nat) :=
  [(quiet, .addOutput (plainOutput 0 "A") none), (quiet, .addOutput (plainOutput 1 "B") none),
    (quiet, .addWindow 7 (.output (plainOutput 0 "A")) .yes), (quiet, .switchWorkspaceDown),
    (quiet, .addWindow 8 (.output (plainOutput 0 "A")) .yes)]

/-- The first of two monitors is the active one, on a workspace in use. -/
def firstOfTwo (l : Layout Nat) : Bool :=
  l.monitors.length == 2 && l.activePlace.any (fun place => place.mon == 0) &&
    l.activeWorkspace.any Workspace.hasWindowsOrName

theorem monitorSet_of_firstOfTwo {l : Layout Nat} (h : firstOfTwo l = true) :
    ∃ a b primary ws, l.monitorSet = .normal [a, b] primary 0 ∧ a.activeWorkspace = some ws ∧
      ws.hasWindowsOrName = true := by
  rw [firstOfTwo, Bool.and_eq_true, Bool.and_eq_true, beq_iff_eq] at h
  obtain ⟨⟨hlen, hplace⟩, hws⟩ := h
  cases hset : l.monitorSet with
  | noOutputs workspaces =>
    rw [monitors, hset] at hlen
    cases hlen
  | normal monitors primary active =>
    rw [monitors_of_normal hset] at hlen
    obtain ⟨a, b, rfl⟩ := List.length_eq_two.mp hlen
    rw [activePlace, hset] at hplace
    obtain ⟨place, hplace, hzero⟩ := (Option.any_eq_true _ _).mp hplace
    obtain ⟨m, hm, rfl⟩ := Option.map_eq_some_iff.mp hplace
    obtain rfl : active = 0 := beq_iff_eq.mp hzero
    obtain ⟨ws, hget, hfull⟩ := (Option.any_eq_true _ _).mp hws
    rw [activeWorkspace, activeMonitor, hset] at hget
    exact ⟨a, b, primary, ws, rfl, hget, hfull⟩

/-- The second workspace of a monitor goes to another one and comes back. -/
theorem second_there_and_back : ∃ (l : Layout Nat) (n : Nat) (a b : Monitor Nat)
    (ws : Workspace Nat), Reachable Proper ⟨false⟩ [] l n ∧ l.monitors = [a, b] ∧
      a.workspaces.map Workspace.windows = [[7], [8], []] ∧ a.activeWorkspaceIdx = 1 ∧
      ∃ l₁ n₁ l₂ n₂ a₂ b₂, l.moveWorkspaceToOutput b.output n = .ok ((l₁, true), n₁) ∧
        l₁.moveWorkspaceToOutput a.output n₁ = .ok ((l₂, true), n₂) ∧
        l₂.monitors[0]? = some a₂ ∧ l₂.monitors[1]? = some b₂ ∧ Restored a b ws a₂ b₂ := by
  obtain ⟨l, n, hl, hq⟩ := exists_reachable ⟨false⟩ [] twoMonitors
    (fun l => firstOfTwo l && l.monitors.head?.any fun a =>
      a.workspaces.map Workspace.windows == [[7], [8], []] && a.activeWorkspaceIdx == 1)
    proper_of_check (by decide +kernel)
  rw [Bool.and_eq_true] at hq
  obtain ⟨a, b, primary, ws, hset, hws, hfull⟩ := monitorSet_of_firstOfTwo hq.1
  have hfirst := hq.2
  rw [monitors_of_normal hset, List.head?_cons, Option.any_some, Bool.and_eq_true, beq_iff_eq,
    beq_iff_eq] at hfirst
  refine ⟨l, n, a, b, ws, hl, monitors_of_normal hset, hfirst.1, hfirst.2, ?_⟩
  refine (hl.there_and_back_iff hset rfl rfl (by decide) hws hfull).mpr ?_
  rintro ⟨hzero, -⟩
  rw [hfirst.2] at hzero
  cases hzero

/-- The used workspaces of the first monitor are others after its active one went to the
    second and came back. -/
def changed (l : Layout Nat) (n : Nat) : Bool :=
  l.monitors[0]?.any fun a => l.monitors[1]?.any fun b =>
    ((l.moveWorkspaceToOutput b.output n).toOption.all fun p₁ =>
      (p₁.1.1.moveWorkspaceToOutput a.output p₁.2).toOption.all fun p₂ =>
        p₂.1.1.monitors[0]?.all fun a₂ =>
          a₂.intoWorkspaces.map Workspace.id != a.intoWorkspaces.map Workspace.id)

/-- The first one changes places with the second. -/
theorem first_changes_places : ∃ (l : Layout Nat) (n : Nat) (a b : Monitor Nat)
    (ws : Workspace Nat), Reachable Proper ⟨false⟩ [] l n ∧ l.monitors = [a, b] ∧
      l.activeMonitor = some a ∧ a.activeWorkspace = some ws ∧ ws.hasWindowsOrName = true ∧
      ¬ ∃ l₁ n₁ l₂ n₂ a₂ b₂, l.moveWorkspaceToOutput b.output n = .ok ((l₁, true), n₁) ∧
        l₁.moveWorkspaceToOutput a.output n₁ = .ok ((l₂, true), n₂) ∧
        l₂.monitors[0]? = some a₂ ∧ l₂.monitors[1]? = some b₂ ∧ Restored a b ws a₂ b₂ := by
  obtain ⟨l, n, hl, hq⟩ := exists_reachable_at ⟨false⟩ []
    (twoMonitors ++ [(quiet, .switchWorkspaceUp)]) (fun l n => firstOfTwo l && changed l n)
    proper_of_check (by decide +kernel)
  rw [Bool.and_eq_true] at hq
  obtain ⟨a, b, primary, ws, hset, hws, hfull⟩ := monitorSet_of_firstOfTwo hq.1
  refine ⟨l, n, a, b, ws, hl, monitors_of_normal hset, ?_, hws, hfull, ?_⟩
  · rw [activeMonitor, hset]
    rfl
  · rintro ⟨l₁, n₁, l₂, n₂, a₂, b₂, hrun, hrun₂, hgeta, -, hrestored⟩
    have hchanged := hq.2
    rw [changed, monitors_of_normal hset] at hchanged
    simp only [List.getElem?_cons_zero, List.getElem?_cons_succ, Option.any_some, hrun, hrun₂, hgeta,
      Except.toOption, Option.all_some, bne_iff_ne] at hchanged
    exact hchanged hrestored.first

end Layout

end Cidre.Workspaces
