/-
  Cidre.Workspaces.LayoutStrips

  Layouts whose strips are all in order, and which have no workspace that is not in
  use where there are no outputs.

  An operation on one monitor keeps the layout in order as soon as it keeps that
  monitor's strip.  The others take workspaces or windows from one strip to another:
  here, those on outputs and on windows.
-/

import Cidre.Workspaces.StripCalls
import Cidre.Workspaces.LayoutLineage

namespace Cidre.Workspaces

open Cidre.Counter
open Cidre.Panic (Vec.remove)

variable {W : Type}

namespace Layout

open Monitor (KeepsOrder)

/-! ## Layouts in order -/

/-- The monitors are in order, and there is a primary and an active one. -/
structure Ordered (monitors : List (Monitor W)) (primary active n : Nat) : Prop where
  primary_lt : primary < monitors.length
  active_lt : active < monitors.length
  inOrder : ∀ m ∈ monitors, m.InOrder n

def InOrder (l : Layout W) (n : Nat) : Prop :=
  match l.monitorSet with
  | .normal monitors primary active => Ordered monitors primary active n
  | .noOutputs workspaces => ∀ ws ∈ workspaces, ws.hasWindowsOrName = true

def primaryIdx (l : Layout W) : Option Nat :=
  match l.monitorSet with
  | .normal _ primary _ => some primary
  | .noOutputs _ => none

/-- The workspaces of each monitor are at home where they were, or on the monitor. -/
abbrev Settled (monitors monitors' : List (Monitor W)) : Prop :=
  List.Forall₂ Monitor.Settles monitors monitors'

/-- `l'`, at the counter `n'`, is in order, and its monitors are what has become of
    those of `l`. -/
structure After (l : Layout W) (n : Nat) (l' : Layout W) (n' : Nat) : Prop where
  inOrder : l'.InOrder n'
  le : n ≤ n'
  primary_eq : l'.primaryIdx = l.primaryIdx
  settled : Settled l.monitors l'.monitors

variable {l l₁ l' : Layout W} {n n₁ n' primary active : Nat} {monitors : List (Monitor W)}

theorem inOrder_of_normal (hset : l.monitorSet = .normal monitors primary active) :
    l.InOrder n ↔ Ordered monitors primary active n := by
  rw [InOrder, hset]

theorem inOrder_of_noOutputs {workspaces : List (Workspace W)}
    (hset : l.monitorSet = .noOutputs workspaces) :
    l.InOrder n ↔ ∀ ws ∈ workspaces, ws.hasWindowsOrName = true := by
  rw [InOrder, hset]

theorem getElem?_monitors (hset : l.monitorSet = .normal monitors primary active) {idx : Nat}
    (hlt : idx < monitors.length) : l.monitors[idx]? = some monitors[idx] := by
  rw [monitors_of_normal hset]
  exact List.getElem?_eq_getElem hlt

theorem Ordered.mono (h : Ordered monitors primary active n) (hle : n ≤ n₁) :
    Ordered monitors primary active n₁ :=
  ⟨h.primary_lt, h.active_lt, fun m hm => (h.inOrder m hm).mono hle⟩

theorem Ordered.get (h : Ordered monitors primary active n) {idx : Nat} {m : Monitor W}
    (hget : monitors[idx]? = some m) : m.InOrder n :=
  h.inOrder m (List.mem_of_getElem? hget)

theorem inOrder_of_mem (h : l.InOrder n) {m : Monitor W} (hm : m ∈ l.monitors) : m.InOrder n := by
  cases hset : l.monitorSet with
  | normal monitors primary active =>
    rw [monitors_of_normal hset] at hm
    exact ((inOrder_of_normal hset).mp h).inOrder m hm
  | noOutputs workspaces =>
    rw [monitors, hset] at hm
    cases hm

theorem Ordered.set (h : Ordered monitors primary active n) (hle : n ≤ n₁) {m : Monitor W}
    (hm : m.InOrder n₁) (idx : Nat) : Ordered (monitors.set idx m) primary active n₁ := by
  have hlen : (monitors.set idx m).length = monitors.length := List.length_set
  refine ⟨hlen ▸ h.primary_lt, hlen ▸ h.active_lt, fun m' hm' => ?_⟩
  rcases List.mem_or_eq_of_mem_set hm' with hmem | rfl
  · exact (h.inOrder m' hmem).mono hle
  · exact hm

theorem Ordered.settled {monitors' : List (Monitor W)} (h : Ordered monitors primary active n)
    (hsettled : Settled monitors monitors') (hmonitors' : ∀ m ∈ monitors', m.InOrder n') :
    Ordered monitors' primary active n' := by
  have hlen := hsettled.length_eq
  exact ⟨hlen ▸ h.primary_lt, hlen ▸ h.active_lt, hmonitors'⟩

theorem Ordered.activate (h : Ordered monitors primary active n) {idx : Nat}
    (hidx : idx < monitors.length) : Ordered monitors primary idx n :=
  ⟨h.primary_lt, hidx, h.inOrder⟩

theorem Settled.refl (monitors : List (Monitor W)) : Settled monitors monitors :=
  List.forall₂_same.mpr fun m _ => .refl m

theorem Settled.trans {monitors₁ monitors₂ : List (Monitor W)} (h : Settled monitors monitors₁)
    (h' : Settled monitors₁ monitors₂) : Settled monitors monitors₂ := by
  induction h generalizing monitors₂ with
  | nil => exact h'
  | cons hm _ ih =>
    obtain ⟨m₂, rest, hm', hrest, rfl⟩ := List.forall₂_cons_left_iff.mp h'
    exact .cons (hm.trans hm') (ih hrest)

/-- One of the monitors is replaced. -/
theorem settled_set {idx : Nat} {m m' : Monitor W} (hget : monitors[idx]? = some m)
    (h : m.Settles m') : Settled monitors (monitors.set idx m') := by
  refine List.forall₂_iff_get.mpr ⟨List.length_set.symm, fun i hi hi' => ?_⟩
  simp only [List.get_eq_getElem, List.getElem_set]
  split
  · next heq =>
    subst heq
    obtain rfl : monitors[idx] = m := Option.some.inj ((List.getElem?_eq_getElem hi).symm.trans hget)
    exact h
  · exact .refl _

theorem primaryIdx_of_normal (hset : l.monitorSet = .normal monitors primary active) :
    l.primaryIdx = some primary := by
  rw [primaryIdx, hset]

theorem primaryIdx_of_noOutputs {workspaces : List (Workspace W)}
    (hset : l.monitorSet = .noOutputs workspaces) : l.primaryIdx = none := by
  rw [primaryIdx, hset]

theorem InOrder.after (h : l.InOrder n) : After l n l n :=
  ⟨h, Nat.le_refl n, rfl, Settled.refl l.monitors⟩

theorem After.length_eq (h : After l n l' n') : l'.monitors.length = l.monitors.length :=
  h.settled.length_eq.symm

theorem After.trans (h : After l n l₁ n₁) (h' : After l₁ n₁ l' n') : After l n l' n' :=
  ⟨h'.inOrder, Nat.le_trans h.le h'.le, h'.primary_eq.trans h.primary_eq,
    h.settled.trans h'.settled⟩

/-- The rest of a layout does not matter. -/
theorem After.of_monitorSet (h : After l n l₁ n₁) (hset : l'.monitorSet = l₁.monitorSet) :
    After l n l' n₁ := by
  have hmonitors : l'.monitors = l₁.monitors := by rw [Layout.monitors, Layout.monitors, hset]
  refine ⟨?_, h.le, ?_, hmonitors ▸ h.settled⟩
  · rw [InOrder, hset]
    exact h.inOrder
  · rw [primaryIdx, hset]
    exact h.primary_eq

theorem after_withMonitors (hset : l.monitorSet = .normal monitors primary active)
    {monitors' : List (Monitor W)} {active' : Nat} (h : Ordered monitors' primary active' n')
    (hle : n ≤ n') (hsettled : Settled monitors monitors') :
    After l n (l.withMonitors monitors' primary active') n' := by
  refine ⟨h, hle, (primaryIdx_of_normal hset).symm, ?_⟩
  rw [monitors_of_normal hset]
  exact hsettled

/-- Without outputs, no monitor has to be seen to. -/
theorem after_withWorkspaces {workspaces workspaces' : List (Workspace W)}
    (hset : l.monitorSet = .noOutputs workspaces) (hle : n ≤ n')
    (h : ∀ ws ∈ workspaces', ws.hasWindowsOrName = true) :
    After l n (l.withWorkspaces workspaces') n' := by
  refine ⟨h, hle, ?_, ?_⟩
  · rw [primaryIdx_of_noOutputs hset]
    rfl
  · rw [Layout.monitors, hset]
    exact .nil

/-! ## Calls on monitors -/

/-- A call on one of the monitors. -/
theorem onMonitor_safe (hset : l.monitorSet = .normal monitors primary active) {idx : Nat}
    {m : Monitor W} (hget : monitors[idx]? = some m) {f : Monitor W → Counted (Monitor W)}
    {post : Monitor W → Nat → Prop} (hf : Safe (f m) n post) :
    Safe (l.onMonitor idx f) n fun l' n' =>
      ∃ m', post m' n' ∧ l' = l.withMonitors (monitors.set idx m') primary active := by
  simp only [onMonitor, hset]
  refine safe_bounds_bind hget ?_
  exact hf.bind fun m' n' hm' => safe_pure ⟨m', hm', rfl⟩

theorem onMonitor_after (h : l.InOrder n) {idx : Nat} {m : Monitor W}
    (hget : l.monitors[idx]? = some m) {f : Monitor W → Counted (Monitor W)}
    (hf : m.InOrder n → Safe (f m) n (Monitor.Since m n)) :
    Safe (l.onMonitor idx f) n (After l n) := by
  cases hset : l.monitorSet with
  | normal monitors primary active =>
    rw [monitors_of_normal hset] at hget
    have hordered := (inOrder_of_normal hset).mp h
    refine (onMonitor_safe hset hget (hf (hordered.get hget))).mono ?_
    rintro _ n' ⟨m', hm', rfl⟩
    exact after_withMonitors hset (hordered.set hm'.le hm'.inOrder idx) hm'.le
      (settled_set hget hm'.settles)
  | noOutputs workspaces =>
    rw [Layout.monitors, hset] at hget
    cases hget

theorem onActiveMonitor_after (h : l.InOrder n) {f : Monitor W → Counted (Monitor W)}
    (hf : KeepsOrder f) : Safe (l.onActiveMonitor f) n (After l n) := by
  rw [onActiveMonitor]
  split
  · next monitors primary active hset =>
    have hlt := ((inOrder_of_normal hset).mp h).active_lt
    rw [← monitors_of_normal hset] at hlt
    exact onMonitor_after h (List.getElem?_eq_getElem hlt) fun hm => hf _ n hm
  · exact safe_pure h.after

theorem onActiveMonitor_withMonitors (l : Layout W) (monitors : List (Monitor W))
    (primary active : Nat) (f : Monitor W → Counted (Monitor W)) :
    (l.withMonitors monitors primary active).onActiveMonitor f =
      (l.withMonitors monitors primary active).onMonitor active f := rfl

theorem each_safe {f : Monitor W → Counted (Monitor W)} (hf : KeepsOrder f) :
    ∀ {monitors : List (Monitor W)} {n : Nat}, (∀ m ∈ monitors, m.InOrder n) →
      Safe (each f monitors) n fun monitors' n' => n ≤ n' ∧
        Settled monitors monitors' ∧ ∀ m ∈ monitors', m.InOrder n'
  | [], n, _ => safe_pure ⟨Nat.le_refl n, .nil, by simp⟩
  | m :: monitors, n, h => by
      refine (hf m n (h m List.mem_cons_self)).bind fun m' n₁ hm' => ?_
      have hrest : ∀ m ∈ monitors, m.InOrder n₁ :=
        fun m hm => (h m (List.mem_cons_of_mem _ hm)).mono hm'.le
      refine (each_safe hf hrest).bind ?_
      rintro monitors' n₂ ⟨hle', hsettled, hmonitors'⟩
      exact safe_pure ⟨Nat.le_trans hm'.le hle', .cons hm'.settles hsettled,
        List.forall_mem_cons.mpr ⟨hm'.inOrder.mono hle', hmonitors'⟩⟩

theorem onMonitors_after (h : l.InOrder n) {f : Monitor W → Counted (Monitor W)}
    (hf : KeepsOrder f) : Safe (l.onMonitors f) n (After l n) := by
  rw [onMonitors]
  split
  · next monitors primary active hset =>
    have hordered := (inOrder_of_normal hset).mp h
    refine (each_safe hf hordered.inOrder).bind ?_
    rintro monitors' n' ⟨hle, hsettled, hmonitors'⟩
    exact safe_pure (after_withMonitors hset (hordered.settled hsettled hmonitors') hle hsettled)
  · exact safe_pure h.after

theorem untilSome_safe {β : Type} {f : Monitor W → Counted (Monitor W × Option β)}
    (hf : ∀ m n, m.InOrder n → Safe (f m) n fun p n' => Monitor.Since m n p.1 n') :
    ∀ {monitors : List (Monitor W)} {n : Nat}, (∀ m ∈ monitors, m.InOrder n) →
      Safe (untilSome f monitors) n fun p n' => n ≤ n' ∧
        Settled monitors p.1 ∧ ∀ m ∈ p.1, m.InOrder n'
  | [], n, _ => safe_pure ⟨Nat.le_refl n, .nil, by simp⟩
  | m :: monitors, n, h => by
      refine (hf m n (h m List.mem_cons_self)).bind fun p n₁ hm' => ?_
      have hrest : ∀ m ∈ monitors, m.InOrder n₁ :=
        fun m hm => (h m (List.mem_cons_of_mem _ hm)).mono hm'.le
      refine safe_ite (fun _ => ?_) (fun _ => ?_)
      · exact safe_pure ⟨hm'.le, .cons hm'.settles (Settled.refl monitors),
          List.forall_mem_cons.mpr ⟨hm'.inOrder, hrest⟩⟩
      · refine (untilSome_safe hf hrest).bind ?_
        rintro q n₂ ⟨hle', hsettled, hmonitors'⟩
        exact safe_pure ⟨Nat.le_trans hm'.le hle', .cons hm'.settles hsettled,
          List.forall_mem_cons.mpr ⟨hm'.inOrder.mono hle', hmonitors'⟩⟩

theorem onMonitorsUntil_after {β : Type} (h : l.InOrder n)
    {f : Monitor W → Counted (Monitor W × Option β)}
    (hf : ∀ m n, m.InOrder n → Safe (f m) n fun p n' => Monitor.Since m n p.1 n') :
    Safe (l.onMonitorsUntil f) n fun p n' => After l n p.1 n' := by
  rw [onMonitorsUntil]
  split
  · next monitors primary active hset =>
    have hordered := (inOrder_of_normal hset).mp h
    refine (untilSome_safe hf hordered.inOrder).bind ?_
    rintro p n' ⟨hle, hsettled, hmonitors'⟩
    exact safe_pure (after_withMonitors hset (hordered.settled hsettled hmonitors') hle hsettled)
  · exact safe_pure h.after

theorem setActiveMonitor_after (h : l.InOrder n) {idx : Nat} (hidx : idx < l.monitors.length) :
    After l n (l.setActiveMonitor idx) n := by
  rw [setActiveMonitor]
  split
  · next monitors primary active hset =>
    rw [monitors_of_normal hset] at hidx
    exact after_withMonitors hset (((inOrder_of_normal hset).mp h).activate hidx) (Nat.le_refl n)
      (Settled.refl monitors)
  · exact h.after

theorem monitors_setActiveMonitor (l : Layout W) (idx : Nat) :
    (l.setActiveMonitor idx).monitors = l.monitors := by
  rw [setActiveMonitor]
  split
  · next hset => exact (monitors_of_normal hset).symm
  · rfl

theorem focusOutput_after (h : l.InOrder n) (output : Output) :
    After l n (l.focusOutput output) n := by
  rw [focusOutput]
  split
  · next idx hidx => exact setActiveMonitor_after h (Monitor.lt_of_findIdx? hidx)
  · exact h.after

/-! ## Outputs -/

/-- The workspaces of two monitors are told apart. -/
theorem ids_apart (hd : Distinct l.workspaces n)
    (hset : l.monitorSet = .normal monitors primary active) {i j : Nat} {a b : Monitor W}
    (hi : monitors[i]? = some a) (hj : monitors[j]? = some b) (hne : i ≠ j) :
    ∀ x ∈ a.workspaces, ∀ y ∈ b.workspaces, x.id ≠ y.id := by
  have hi' : (monitors.map Monitor.workspaces)[i]? = some a.workspaces := by
    rw [List.getElem?_map, hi]
    rfl
  have hj' : (monitors.map Monitor.workspaces)[j]? = some b.workspaces := by
    rw [List.getElem?_map, hj]
    rfl
  rw [workspaces_of_normal hset] at hd
  have hparts := Distinct.append_iff.mp (hd.perm (Panic.Vec.flatten_eraseIdx_perm hi').symm)
  intro x hx y hy
  refine hparts.2.2 x hx y (List.mem_flatten_of_mem ?_ hy)
  exact List.mem_eraseIdx_iff_getElem?.mpr ⟨j, hne.symm, hj'⟩

theorem newMonitor_safe (l : Layout W) (output : Output) {workspaces : List (Workspace W)}
    (hd : Distinct workspaces n) (hfull : ∀ ws ∈ workspaces, ws.hasWindowsOrName = true)
    (layoutConfig : Option LayoutPart) :
    Safe (l.newMonitor output workspaces layoutConfig) n fun m n' => n ≤ n' ∧ m.InOrder n' := by
  refine (Monitor.new_safe output hfull hd.nodup hd.lt _ l.options layoutConfig).bind ?_
  intro m n' h
  exact safe_pure ⟨h.le, h.inOrder.withOverview l.overviewOpen⟩

/-- The new output is told apart from those there are. -/
theorem addOutput_inOrder (h : l.InOrder n) (hd : Distinct l.workspaces n) {output : Output}
    (hother : ∀ m ∈ l.monitors, (OutputId.new m.output).isOf output = false)
    (layoutConfig : Option LayoutPart) :
    Safe (l.addOutput output layoutConfig) n fun l' n' => l'.InOrder n' := by
  rw [addOutput]
  split
  · next monitors primary active hset =>
    have hordered := (inOrder_of_normal hset).mp h
    have hlt := hordered.primary_lt
    have hget : monitors[primary]? = some monitors[primary] := List.getElem?_eq_getElem hlt
    have hprimary := hordered.get hget
    refine safe_bounds_bind hget ?_
    have hmine := hother monitors[primary] (by
      rw [monitors_of_normal hset]
      exact List.getElem_mem hlt)
    refine ((Monitor.reclaim_safe output hmine hprimary).and_yields
      (reclaim_kept output monitors[primary] n)).bind ?_
    rintro ⟨workspaces, m₁⟩ n₁ ⟨⟨hle, hm₁, hfull⟩, -, hreclaimed⟩
    have hd₁ := (Distinct.append_iff.mp (hreclaimed.distinct hprimary.distinct)).1
    refine (newMonitor_safe l output hd₁ hfull layoutConfig).bind ?_
    rintro m₂ n₂ ⟨hle', hm₂⟩
    have hset₁ := (hordered.set hle hm₁ primary).mono hle'
    refine safe_pure ⟨?_, ?_, fun m hm => ?_⟩
    · rw [List.length_append]
      exact Nat.lt_add_right 1 hset₁.primary_lt
    · rw [List.length_append]
      exact Nat.lt_add_right 1 hset₁.active_lt
    · rcases List.mem_append.mp hm with hm | hm
      · exact hset₁.inOrder m hm
      · rw [List.mem_singleton.mp hm]
        exact hm₂
  · next workspaces hset =>
    rw [workspaces_of_noOutputs hset] at hd
    refine (newMonitor_safe l output hd ((inOrder_of_noOutputs hset).mp h) layoutConfig).bind ?_
    rintro m n' ⟨-, hm⟩
    exact safe_pure ⟨Nat.one_pos, Nat.one_pos, fun m' hm' => List.mem_singleton.mp hm' ▸ hm⟩

theorem idxAfterRemoval_lt {idx i len : Nat} (hidx : idx < len + 1) (hi : i < len + 1)
    (hpos : 0 < len) : idxAfterRemoval idx i < len := by
  rw [idxAfterRemoval]
  split <;> omega

theorem removeOutput_inOrder (h : l.InOrder n) (hd : Distinct l.workspaces n) (output : Output) :
    Safe (l.removeOutput output) n fun l' n' => l'.InOrder n' := by
  rw [removeOutput]
  split
  · next monitors primary active hset =>
    have hordered := (inOrder_of_normal hset).mp h
    refine safe_lookup_bind fun idx hidx => ?_
    have hlt := Monitor.lt_of_findIdx? hidx
    have hget : monitors[idx]? = some monitors[idx] := List.getElem?_eq_getElem hlt
    have hm := hordered.get hget
    have hremove : Vec.remove monitors idx = some (monitors[idx], monitors.eraseIdx idx) := by
      rw [Vec.remove, hget]
      rfl
    have hlen : (monitors.eraseIdx idx).length + 1 = monitors.length := by
      rw [List.length_eraseIdx_of_lt hlt]
      omega
    refine safe_bounds_bind hremove ?_
    refine safe_bounds_bind (List.getElem?_eq_getElem hm.active_lt) ?_
    refine safe_early (?_) fun hne => ?_
    · exact fun ws hws => (List.mem_filter.mp hws).2
    have hpos : 0 < (monitors.eraseIdx idx).length := by
      rw [List.isEmpty_iff] at hne
      exact List.length_pos_of_ne_nil hne
    have hprimary := idxAfterRemoval_lt (hlen ▸ hlt) (hlen ▸ hordered.primary_lt) hpos
    have hactive := idxAfterRemoval_lt (hlen ▸ hlt) (hlen ▸ hordered.active_lt) hpos
    refine safe_bounds_bind (List.getElem?_eq_getElem hprimary) ?_
    obtain ⟨j, hj, hgetj⟩ := List.mem_eraseIdx_iff_getElem?.mp (List.getElem_mem hprimary)
    have hp := hordered.get hgetj
    have happ := hp.among (List.subset_append_right monitors[idx].workspaces _)
    have hinto : ∀ ws ∈ monitors[idx].intoWorkspaces,
        ws ∈ monitors[idx].workspaces ∧ ws.hasWindowsOrName = true :=
      fun ws hws => List.mem_filter.mp hws
    have hnodup : (monitors[idx].intoWorkspaces.map Workspace.id).Nodup :=
      hm.nodup.sublist (List.filter_sublist.map _)
    refine (Monitor.appendWorkspaces_safe happ hnodup (fun ws hws => ?_)
      fun ws hws => (hinto ws hws).2).bind fun m' n' hgood => ?_
    · obtain ⟨hmem, -⟩ := hinto ws hws
      refine ⟨List.mem_append_left _ hmem, fun hin => ?_, hm.distinct.lt ws hmem⟩
      obtain ⟨ws', hws', hid⟩ := List.mem_map.mp hin
      exact ids_apart hd hset hget hgetj hj.symm ws hmem ws' hws' hid.symm
    · have herased : Ordered (monitors.eraseIdx idx) (idxAfterRemoval idx primary)
          (idxAfterRemoval idx active) n :=
        ⟨hprimary, hactive, fun m hmem => hordered.inOrder m (List.mem_of_mem_eraseIdx hmem)⟩
      exact safe_pure (herased.set hgood.le hgood.inOrder _)
  · exact safe_lookup_none

/-! ## Windows -/

theorem place_of_normal (hset : l.monitorSet = .normal monitors primary active)
    {p : Workspace W → Bool} {place : Place} (h : placeWhere p l.strips = some place) :
    ∃ m ws, monitors[place.mon]? = some m ∧ m.workspaces[place.idx]? = some ws ∧ p ws = true := by
  obtain ⟨strip, ws, hstrip, hget, hp⟩ := placeWhere_eq_some h
  rw [strips, hset, List.getElem?_map] at hstrip
  obtain ⟨m, hm, rfl⟩ := Option.map_eq_some_iff.mp hstrip
  exact ⟨m, ws, hm, hget, hp⟩

theorem place_of_noOutputs {workspaces : List (Workspace W)}
    (hset : l.monitorSet = .noOutputs workspaces) {p : Workspace W → Bool} {place : Place}
    (h : placeWhere p l.strips = some place) :
    ∃ ws, workspaces[place.idx]? = some ws ∧ p ws = true := by
  obtain ⟨strip, ws, hstrip, hget, hp⟩ := placeWhere_eq_some h
  rw [strips, hset] at hstrip
  obtain rfl : workspaces = strip := by
    cases hmon : place.mon with
    | zero => rw [hmon] at hstrip; exact Option.some.inj hstrip
    | succ mon => rw [hmon] at hstrip; cases hstrip
  exact ⟨ws, hget, hp⟩

/-- A workspace of the layout without outputs is replaced by one that is in use. -/
theorem full_set {workspaces : List (Workspace W)}
    (h : ∀ ws ∈ workspaces, ws.hasWindowsOrName = true) {ws' : Workspace W}
    (hfull : ws'.hasWindowsOrName = true) (idx : Nat) :
    ∀ ws ∈ workspaces.set idx ws', ws.hasWindowsOrName = true := by
  intro ws hws
  rcases List.mem_or_eq_of_mem_set hws with hmem | rfl
  · exact h ws hmem
  · exact hfull

theorem addTile_full (ws : Workspace W) (window : W) :
    (ws.addTile window).hasWindowsOrName = true := by
  simp [Workspace.addTile, Workspace.hasWindowsOrName, Workspace.hasWindows]

theorem resolveTarget_safe [DecidableEq W] (l : Layout W) (h : Ordered monitors primary active n)
    (target : AddWindowTarget W) :
    Safe (l.resolveTarget monitors active target) n fun p n' =>
      n' = n ∧ p.1 < monitors.length := by
  have hfound : ∀ {p : Monitor W → Bool} {q : Nat → MonitorAddWindowTarget W},
      Safe (do
        let idx ← lookup (monitors.findIdx? p)
        return (idx, q idx)) n fun p n' => n' = n ∧ p.1 < monitors.length :=
    safe_lookup_bind fun idx hidx => safe_pure ⟨rfl, Monitor.lt_of_findIdx? hidx⟩
  cases target with
  | auto => exact safe_pure ⟨rfl, h.active_lt⟩
  | output output => exact hfound
  | workspace id => exact hfound
  | nextTo window =>
    rw [resolveTarget]
    split
    · split
      · refine safe_pure ⟨rfl, ?_⟩
        cases hidx : monitors.findIdx? fun m => m.output == _ with
        | none => exact h.active_lt
        | some idx => exact Monitor.lt_of_findIdx? hidx
      · exact hfound
    · exact hfound

/-- The workspaces but the one at `idx`, which is there, are in use. -/
def FullBut (workspaces : List (Workspace W)) (idx : Nat) : Prop :=
  idx < workspaces.length ∧ ∀ ws', ws'.hasWindowsOrName = true →
    ∀ ws ∈ workspaces.set idx ws', ws.hasWindowsOrName = true

theorem fullBut_of_full {workspaces : List (Workspace W)}
    (h : ∀ ws ∈ workspaces, ws.hasWindowsOrName = true) {idx : Nat}
    (hidx : idx < workspaces.length) : FullBut workspaces idx :=
  ⟨hidx, fun _ hfull => full_set h hfull idx⟩

theorem firstWorkspace_safe {workspaces : List (Workspace W)}
    (h : ∀ ws ∈ workspaces, ws.hasWindowsOrName = true) :
    Safe (firstWorkspace workspaces) n fun workspaces' n' =>
      n ≤ n' ∧ FullBut workspaces' 0 := by
  refine safe_ite (fun _ => ?_) (fun hne => ?_)
  · refine safe_fresh_bind
      (safe_pure ⟨Nat.le_succ n, Nat.one_pos, fun ws' hfull ws hws => ?_⟩)
    rw [List.set_cons_zero, List.mem_singleton] at hws
    exact hws ▸ hfull
  · rw [List.isEmpty_iff] at hne
    exact safe_pure ⟨Nat.le_refl n, fullBut_of_full h (List.length_pos_of_ne_nil hne)⟩

/-- Without outputs, the window is added to a workspace that is there, or to a first
    one. -/
theorem resolveTargetNoOutputs_safe [DecidableEq W] (l : Layout W)
    {workspaces : List (Workspace W)} (h : ∀ ws ∈ workspaces, ws.hasWindowsOrName = true)
    (target : AddWindowTarget W) :
    Safe (l.resolveTargetNoOutputs workspaces target) n fun p n' =>
      n ≤ n' ∧ FullBut p.1 p.2 := by
  have hfirst : Safe (do
      let workspaces ← firstWorkspace workspaces
      return (workspaces, 0)) n fun p n' => n ≤ n' ∧ FullBut p.1 p.2 :=
    (firstWorkspace_safe h).bind fun workspaces' n' h' => safe_pure h'
  have hfound : ∀ {p : Workspace W → Bool}, Safe (do
      let idx ← lookup (workspaces.findIdx? p)
      return (workspaces, idx)) n fun p n' => n ≤ n' ∧ FullBut p.1 p.2 :=
    safe_lookup_bind fun idx hidx =>
      safe_pure ⟨Nat.le_refl n, fullBut_of_full h (Monitor.lt_of_findIdx? hidx)⟩
  cases target with
  | auto => exact hfirst
  | output output => exact safe_lookup_none
  | workspace id => exact hfound
  | nextTo window => exact safe_ite (fun _ => hfirst) (fun _ => hfound)

/-- A window is added to the workspace that may be empty. -/
theorem addTileNoOutputs_safe {old workspaces : List (Workspace W)}
    (hset : l.monitorSet = .noOutputs old) (hle : n ≤ n₁) {idx : Nat}
    (h : FullBut workspaces idx) (window : W) :
    Safe (do
      let ws ← bounds workspaces[idx]?
      return { l with monitorSet := .noOutputs (workspaces.set idx (ws.addTile window)) }) n₁
      (After l n) :=
  safe_bounds_bind (List.getElem?_eq_getElem h.1)
    (safe_pure (after_withWorkspaces hset hle (h.2 _ (addTile_full _ window))))

theorem After.activated (h : After l n l' n') {idx : Nat} (activate : Bool)
    (hidx : idx < l.monitors.length) :
    After l n (if activate then l'.setActiveMonitor idx else l') n' := by
  split
  · exact h.trans (setActiveMonitor_after h.inOrder (h.length_eq ▸ hidx))
  · exact h

theorem addWindow_after [DecidableEq W] (h : l.InOrder n) (window : W)
    (target : AddWindowTarget W) (activate : ActivateWindow) :
    Safe (l.addWindow window target activate) n (After l n) := by
  rw [addWindow]
  split
  · next monitors primary active hset =>
    refine (resolveTarget_safe l ((inOrder_of_normal hset).mp h) target).bind ?_
    rintro ⟨idx, target'⟩ _ ⟨rfl, hidx⟩
    rw [← monitors_of_normal hset] at hidx
    refine (onMonitor_after h (List.getElem?_eq_getElem hidx) fun hm => ?_).bind
      fun l' n' h' => safe_pure (h'.activated _ hidx)
    exact (Monitor.addTile_safe hm window target' activate true).mono fun _ _ h' => h'.since
  · next workspaces hset =>
    refine (resolveTargetNoOutputs_safe l ((inOrder_of_noOutputs hset).mp h) target).bind ?_
    rintro ⟨workspaces', idx⟩ n' ⟨hle, h'⟩
    exact addTileNoOutputs_safe hset hle h' window

theorem dndScrollGestureEnd_keepsOrder (c : Readings W) :
    KeepsOrder fun m : Monitor W => m.dndScrollGestureEnd c.toContents :=
  Monitor.keepsOrder_of_safe fun _ _ h => Monitor.dndScrollGestureEnd_safe c.toContents h

theorem cancelMove_after (c : Readings W) (h : l.InOrder n) :
    Safe (l.cancelMove c) n (After l n) := by
  have h' : After l n { l with interactiveMove := none } n := h.after.of_monitorSet rfl
  exact (onMonitors_after h'.inOrder (dndScrollGestureEnd_keepsOrder c)).mono
    fun _ _ hafter => h'.trans hafter

theorem removeFromWorkspace_after [DecidableEq W] (h : l.InOrder n) (window : W) :
    Safe (l.removeFromWorkspace window) n fun p n' => After l n p.1 n' := by
  rw [removeFromWorkspace]
  split
  · exact safe_pure h.after
  · next place hplace =>
    split
    · next monitors primary active hset =>
      obtain ⟨m, ws, hm, hws, hhas⟩ := place_of_normal hset hplace
      rw [← monitors_of_normal hset] at hm
      refine (onMonitor_after h hm fun hgood => ?_).bind fun l' n' h' => safe_pure h'
      exact (Monitor.removeWindowAt_safe hgood hws (of_decide_eq_true hhas)).mono
        fun _ _ h' => h'.since
    · next workspaces hset =>
      obtain ⟨ws, hws, -⟩ := place_of_noOutputs hset hplace
      have hfull := (inOrder_of_noOutputs hset).mp h
      refine safe_bounds_bind hws (safe_pure (after_withWorkspaces hset (Nat.le_refl n) ?_))
      split
      · next hkeep => exact full_set hfull hkeep _
      · exact fun ws' hws' => hfull ws' (List.mem_of_mem_eraseIdx hws')

theorem removeWindow_after [DecidableEq W] (c : Readings W) (h : l.InOrder n) (window : W) :
    Safe (l.removeWindow c window) n fun p n' => After l n p.1 n' := by
  have hremove := removeFromWorkspace_after h window
  rw [removeWindow]
  split
  · refine safe_ite (fun _ => ?_) (fun _ => hremove)
    exact (cancelMove_after c h).bind fun l' n' h' =>
      (removeFromWorkspace_after h'.inOrder window).mono fun _ _ hremoved => h'.trans hremoved
  · refine safe_ite (fun _ => ?_) (fun _ => hremove)
    exact (cancelMove_after c h).bind fun l' n' h' => safe_pure h'
  · exact hremove

theorem activateWindow_after [DecidableEq W] (h : l.InOrder n) (window : W) :
    Safe (l.activateWindow window) n (After l n) := by
  rw [activateWindow]
  refine safe_early h.after fun _ => ?_
  split
  · exact safe_pure h.after
  · next monitors primary active hset =>
    split
    · exact safe_pure h.after
    · next place hplace =>
      obtain ⟨m, ws, hm, -, -⟩ := place_of_normal hset hplace
      rw [← monitors_of_normal hset] at hm
      have hactive := setActiveMonitor_after h (List.getElem?_eq_some_iff.mp hm).1
      rw [← monitors_setActiveMonitor l place.mon] at hm
      refine (onMonitor_after hactive.inOrder hm fun hgood => ?_).mono
        fun _ _ h' => hactive.trans h'
      exact safe_early hgood.since fun _ =>
        (Monitor.switchWorkspace_safe hgood place.idx).mono fun _ _ h' => h'.since

theorem moveToWorkspace_after [DecidableEq W] (c : Readings W) (h : l.InOrder n)
    (window : Option W) (idx : Nat) (activate : ActivateWindow) :
    Safe (l.moveToWorkspace c window idx activate) n (After l n) := by
  have hmove : ∀ window, KeepsOrder fun m : Monitor W =>
      m.moveToWorkspace c.toContents window idx activate := fun window =>
    Monitor.keepsOrder_of_safe fun _ _ hm =>
      Monitor.moveToWorkspace_safe c.toContents hm window idx activate
  refine safe_early h.after fun _ => ?_
  cases window with
  | none => exact onActiveMonitor_after h (hmove none)
  | some window =>
    dsimp only
    split
    · exact safe_pure h.after
    · next monitors primary active hset =>
      refine safe_lookup_bind fun mon hmon => ?_
      have hlt := Monitor.lt_of_findIdx? hmon
      rw [← monitors_of_normal hset] at hlt
      exact onMonitor_after h (List.getElem?_eq_getElem hlt) fun hm =>
        hmove (some window) _ n hm

theorem sourcePlace_safe [DecidableEq W]
    (hset : l.monitorSet = .normal monitors primary active) (h : Ordered monitors primary active n)
    (window : Option W) :
    Safe (l.sourcePlace window) n fun place n' => n' = n ∧
      ∃ m ws, monitors[place.mon]? = some m ∧ m.workspaces[place.idx]? = some ws ∧
        ∀ w ∈ window, w ∈ ws.windows := by
  cases window with
  | none =>
    have hlt := h.active_lt
    have hget : monitors[active]? = some monitors[active] := List.getElem?_eq_getElem hlt
    have hplace : l.activePlace = some ⟨active, monitors[active].activeWorkspaceIdx⟩ := by
      rw [activePlace, hset]
      show monitors[active]?.map _ = _
      rw [hget]
      rfl
    rw [sourcePlace, hplace]
    exact safe_pure ⟨rfl, _, _, hget, List.getElem?_eq_getElem (h.get hget).active_lt, by simp⟩
  | some window =>
    refine safe_lookup fun place hplace => ⟨rfl, ?_⟩
    obtain ⟨m, ws, hm, hws, hhas⟩ := place_of_normal hset hplace
    refine ⟨m, ws, hm, hws, ?_⟩
    rintro _ ⟨⟩
    exact of_decide_eq_true hhas

/-- The strip the window came from is cleaned up last, and may be the one it went to. -/
theorem Ordered.set_twice (h : Ordered monitors primary active n) (hle : n ≤ n₁) {i j : Nat}
    {a b c : Monitor W} (hb : j ≠ i → b.InOrder n₁) (hc : c.InOrder n₁) :
    Ordered (((monitors.set i a).set j b).set i c) primary active n₁ := by
  by_cases hne : j = i
  · subst hne
    rw [List.set_set, List.set_set]
    exact h.set hle hc j
  · rw [List.set_comm _ _ (Ne.symm hne), List.set_set, List.set_comm _ _ hne]
    exact (h.set hle hc i).set (Nat.le_refl n₁) (hb hne) j

/-- The strip at `i` may still have to be cleaned up when a window is added to the one
    at `j`. -/
theorem addTileOn_safe [DecidableEq W] (h : Ordered monitors primary active n) {i j : Nat}
    {m m₁ new : Monitor W} {old : List (Workspace W)} {output : Output}
    (hi : monitors[i]? = some m) (h₁ : Monitor.Closed old output n m₁ n)
    (hj : monitors[j]? = some new) (tile : W) (target : MonitorAddWindowTarget W)
    (activate : ActivateWindow) :
    ∃ t, (monitors.set i m₁)[j]? = some t ∧ Safe (t.addTile tile target activate true) n
      fun t' n' => Monitor.Closed t.workspaces t.output n t' n' ∧ (j ≠ i → t'.InOrder n') := by
  by_cases hne : j = i
  · subst hne
    refine ⟨m₁, List.getElem?_set_self (List.getElem?_eq_some_iff.mp hi).1, ?_⟩
    have hself := h₁.self
    rw [← h₁.output_eq] at hself
    refine (Monitor.addTile_closed hself tile target activate true).mono ?_
    rintro t' n' ⟨ht', -⟩
    exact ⟨ht', fun hne => absurd rfl hne⟩
  · refine ⟨new, ?_, ?_⟩
    · rw [List.getElem?_set_ne (Ne.symm hne)]
      exact hj
    · refine (Monitor.addTile_safe (h.get hj) tile target activate true).mono fun t' n' ht' => ?_
      exact ⟨ht'.toClosed, fun _ => ht'.inOrder⟩

theorem moveToOutput_after [DecidableEq W] (c : Readings W) (h : l.InOrder n)
    (window : Option W) (output : Output) (targetWsIdx : Option Nat) (activate : ActivateWindow) :
    Safe (l.moveToOutput c window output targetWsIdx activate) n (After l n) := by
  refine safe_early h.after fun _ => ?_
  split
  · exact safe_pure h.after
  · next monitors primary active hset =>
    have hordered := (inOrder_of_normal hset).mp h
    refine safe_lookup_bind fun newIdx hnew => ?_
    have hnewlt := Monitor.lt_of_findIdx? hnew
    have hgetnew : monitors[newIdx]? = some monitors[newIdx] := List.getElem?_eq_getElem hnewlt
    refine safe_bounds_bind hgetnew ?_
    refine (sourcePlace_safe hset hordered window).bind ?_
    rintro source n₀ ⟨hn, m, ws, hm, hws, hwindow⟩
    rw [hn]
    refine safe_early h.after fun _ => ?_
    refine safe_early h.after fun hlt => ?_
    refine safe_bounds_bind (List.getElem?_eq_getElem (Nat.lt_of_not_le hlt)) ?_
    refine safe_bounds_bind hm ?_
    have hgood := hordered.get hm
    refine safe_bounds_bind (List.getElem?_eq_getElem hgood.active_lt) ?_
    refine safe_bounds_bind hws ?_
    split
    · exact safe_pure h.after
    · next tile ws' heq =>
      obtain ⟨hfull, hfollows⟩ := Monitor.takeTile_eq_some hwindow heq
      generalize activate.mapSmart _ = activate
      have hclosed := hgood.toClosed.setInside hws hfull (hfollows _)
      have hsettled := Monitor.settles_setWorkspace hws (hfollows m.output).output_eq
      generalize hm₁ : m.setWorkspace source.idx ws' = m₁ at hclosed hsettled
      -- The window leaves its workspace, which may stay behind empty.
      have hleft : Safe (pure (m.setWorkspace source.idx ws')) n fun m' n' => m' = m₁ ∧ n' = n :=
        safe_pure ⟨hm₁, rfl⟩
      refine (onMonitor_safe hset hm hleft).bind ?_
      rintro _ n₁ ⟨_, ⟨hm', hn₁⟩, rfl⟩
      rw [hn₁, hm']
      -- It is added to the other strip, which may be the same one.
      obtain ⟨t, hgett, hadd⟩ := addTileOn_safe hordered hm hclosed hgetnew tile _ _
      refine (onMonitor_safe rfl hgett hadd).bind ?_
      rintro _ n₂ ⟨t', ⟨ht', hother⟩, rfl⟩
      have hle := ht'.le
      -- Then the strip it left is cleaned up.
      obtain ⟨x, out, hgetx, hx⟩ : ∃ x out,
          ((monitors.set source.mon m₁).set newIdx t')[source.mon]? = some x ∧
            Monitor.Closed x.workspaces out n₂ x n₂ := by
        by_cases hne : newIdx = source.mon
        · subst hne
          exact ⟨t', _, List.getElem?_set_self (by simpa using hnewlt), ht'.self⟩
        · refine ⟨m₁, _, ?_, (hclosed.later hle).self⟩
          rw [List.getElem?_set_ne hne]
          exact List.getElem?_set_self (List.getElem?_eq_some_iff.mp hm).1
      have hset₂ : (if activate then
          (l.withMonitors ((monitors.set source.mon m₁).set newIdx t') primary
            active).setActiveMonitor newIdx
          else l.withMonitors ((monitors.set source.mon m₁).set newIdx t') primary
            active).monitorSet = .normal ((monitors.set source.mon m₁).set newIdx t') primary
              (if activate then newIdx else active) := by
        cases activate <;> rfl
      refine (onMonitor_safe hset₂ hgetx
        (f := fun m => applyIf m.workspaceSwitch.isNone Monitor.cleanUpWorkspaces m)
        (Monitor.settle_safe hx)).mono ?_
      rintro _ n₃ ⟨x', hx', rfl⟩
      have hle' := Nat.le_trans hle hx'.le
      have hset₃ := hordered.set_twice (a := m₁) hle' (fun hne => (hother hne).mono hx'.le)
        hx'.inOrder
      have hdone : Ordered (((monitors.set source.mon m₁).set newIdx t').set source.mon x')
          primary (if activate then newIdx else active) n₃ := by
        split
        · exact hset₃.activate (by simpa using hnewlt)
        · exact hset₃
      have hafter := after_withMonitors hset hdone hle'
        (((settled_set hm hsettled).trans (settled_set hgett (ht'.settles rfl))).trans
          (settled_set hgetx (hx'.settles hx.output_eq)))
      cases activate <;> exact hafter

theorem addColumn_since {m : Monitor W} (h : m.InOrder n) {idx : Nat}
    (hidx : idx < m.workspaces.length) {column : List W} (hne : column ≠ []) (activate : Bool) :
    Safe (m.addColumn idx column activate) n (Monitor.Since m n) :=
  (Monitor.addColumn_safe h hidx hne activate).mono fun _ _ h' => h'.since

theorem addColumnByIdx_after (h : l.InOrder n) {monitorIdx workspaceIdx : Nat} {m : Monitor W}
    (hm : l.monitors[monitorIdx]? = some m) (hidx : workspaceIdx < m.workspaces.length)
    {column : List W} (hne : column ≠ []) (activate : Bool) :
    Safe (l.addColumnByIdx monitorIdx workspaceIdx column activate) n (After l n) := by
  rw [addColumnByIdx]
  split
  · exact (onMonitor_after h hm fun hgood => addColumn_since hgood hidx hne activate).bind
      fun _ _ h' => safe_pure (h'.activated activate (List.getElem?_eq_some_iff.mp hm).1)
  · exact safe_lookup_none

theorem moveColumnToOutput_after [DecidableEq W] (c : Readings W) (h : l.InOrder n)
    (output : Output) (targetWsIdx : Option Nat) (activate : Bool) :
    Safe (l.moveColumnToOutput c output targetWsIdx activate) n (After l n) := by
  rw [moveColumnToOutput]
  split
  · exact safe_pure h.after
  · next monitors primary active hset =>
    have hordered := (inOrder_of_normal hset).mp h
    refine safe_lookup_bind fun newIdx hnew => ?_
    have hnewlt := Monitor.lt_of_findIdx? hnew
    have hactive := hordered.active_lt
    have hm : monitors[active]? = some monitors[active] := List.getElem?_eq_getElem hactive
    have hgood := hordered.get hm
    have hws := List.getElem?_eq_getElem hgood.active_lt
    refine safe_bounds_bind hm (safe_bounds_bind hws ?_)
    refine safe_ite (fun _ => moveToOutput_after c h none output none .smart) (fun _ => ?_)
    split
    · exact safe_pure h.after
    · next column ws' heq =>
      obtain ⟨hne, hfull, hfollows⟩ := Monitor.removeActiveColumn_eq_some heq
      have hgetnew : monitors[newIdx]? = some monitors[newIdx] := List.getElem?_eq_getElem hnewlt
      refine safe_bounds_bind hgetnew ?_
      have h₁ := (hgood.setInside hws hfull (hfollows _) (Or.inl rfl)).since
      generalize hm₁ : monitors[active].setWorkspace monitors[active].activeWorkspaceIdx ws' = m₁
        at h₁
      have hleft : Safe (pure (monitors[active].setWorkspace
          monitors[active].activeWorkspaceIdx ws')) n fun m' n' => m' = m₁ ∧ n' = n :=
        safe_pure ⟨hm₁, rfl⟩
      refine (onMonitor_safe hset hm (f := fun m => pure (m.setWorkspace m.activeWorkspaceIdx ws'))
        hleft).bind ?_
      rintro _ n₁ ⟨_, ⟨hm', hn₁⟩, rfl⟩
      rw [hn₁, hm']
      -- The strip the column leaves may be the one it goes to, and is as long as before.
      have hlen : m₁.workspaces.length = monitors[active].workspaces.length := by
        rw [← hm₁]
        exact List.length_set
      have hafter := after_withMonitors hset (hordered.set (Nat.le_refl n) h₁.inOrder active)
        (Nat.le_refl n) (settled_set hm h₁.settles)
      obtain ⟨t, hgett, hlent⟩ : ∃ t, (monitors.set active m₁)[newIdx]? = some t ∧
          t.workspaces.length = monitors[newIdx].workspaces.length := by
        by_cases heq : active = newIdx
        · subst heq
          exact ⟨m₁, List.getElem?_set_self hactive, hlen⟩
        · exact ⟨monitors[newIdx], by rw [List.getElem?_set_ne heq, hgetnew], rfl⟩
      have hpos := (hordered.get hgetnew).active_lt
      refine (addColumnByIdx_after hafter.inOrder hgett ?_ hne activate).mono
        fun _ _ h' => hafter.trans h'
      omega

theorem moveColumnOrToOutput_after [DecidableEq W] (c : Readings W) (h : l.InOrder n)
    (output : Output) :
    Safe (l.moveColumnOrToOutput c output) n fun p n' => After l n p.1 n' :=
  safe_early h.after fun _ =>
    (moveColumnToOutput_after c h output none true).bind fun _ _ h' => safe_pure h'

theorem focusOrOutput_after (c : Readings W) (h : l.InOrder n) (output : Output) :
    After l n (l.focusOrOutput c output).1 n := by
  rw [focusOrOutput]
  split
  · exact h.after
  · exact focusOutput_after h output

end Layout

end Cidre.Workspaces
