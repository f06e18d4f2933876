/-
  Cidre.Workspaces.Identity

  Workspaces are told apart by their identities and by their names.

  `ensure_named_workspace_on_active_monitor` looks for the name on the active monitor
  only, and so may give it to a second workspace; every run without such a call
  keeps all names apart.
-/

import Mathlib.Data.List.Pairwise
import Cidre.Workspaces.LayoutLineage
import Cidre.Workspaces.LayoutRun

namespace Cidre.Workspaces

open Cidre.Counter

/-! ## Workspaces that differ -/

variable {W : Type}

/-- Two workspaces differ in their identities and, ignoring the case of ASCII
    letters, in their names. -/
def Workspace.Differs (a b : Workspace W) : Prop :=
  a.id ≠ b.id ∧ ∀ x ∈ a.name, ∀ y ∈ b.name, eqIgnoreAsciiCase x y = false

theorem Identified.pairwise {l : List (Workspace W)} {n : Nat} (h : Identified l n) :
    l.Pairwise Workspace.Differs := by
  have hids : l.Pairwise fun a b => a.id ≠ b.id := List.pairwise_map.mp h.nodup
  refine hids.imp_of_mem fun ha hb hne => ?_
  exact ⟨hne, h.names _ ha _ hb hne⟩

theorem eqIgnoreAsciiCase_of_named {a b : Workspace W} {name x y : String}
    (ha : a.isNamed name = true) (hb : b.isNamed name = true) (hx : x ∈ a.name) (hy : y ∈ b.name) :
    eqIgnoreAsciiCase x y = true := by
  rw [Workspace.isNamed_of_mem hx, eqIgnoreAsciiCase, beq_iff_eq] at ha
  rw [Workspace.isNamed_of_mem hy, eqIgnoreAsciiCase, beq_iff_eq] at hb
  rw [eqIgnoreAsciiCase, beq_iff_eq, ha, hb]

/-- A reference that no two different workspaces answer to denotes one at most. -/
theorem countP_le_one {l : List (Workspace W)} (h : l.Pairwise Workspace.Differs)
    {p : Workspace W → Bool} (hp : ∀ a b, a.Differs b → p a = true → p b = false) :
    l.countP p ≤ 1 := by
  induction l with
  | nil => exact Nat.zero_le 1
  | cons a l ih =>
    obtain ⟨ha, hl⟩ := List.pairwise_cons.mp h
    cases hpa : p a with
    | false =>
      rw [List.countP_cons_of_neg (by simp [hpa])]
      exact ih hl
    | true =>
      have hnone : l.countP p = 0 := by
        rw [List.countP_eq_zero]
        intro b hb
        rw [hp a b (ha b hb) hpa]
        exact Bool.false_ne_true
      rw [List.countP_cons_of_pos hpa, hnone]

theorem countP_isNamed_le_one {l : List (Workspace W)} (h : l.Pairwise Workspace.Differs)
    (name : String) : l.countP (fun ws => ws.isNamed name) ≤ 1 := by
  refine countP_le_one h fun a b hdiffers ha => ?_
  rw [Bool.eq_false_iff]
  intro hb
  obtain ⟨x, hx, -⟩ := (Option.any_eq_true _ _).mp ha
  obtain ⟨y, hy, -⟩ := (Option.any_eq_true _ _).mp hb
  have hsame := eqIgnoreAsciiCase_of_named ha hb hx hy
  rw [hdiffers.2 x hx y hy] at hsame
  cases hsame

theorem countP_id_le_one {l : List (Workspace W)} (h : l.Pairwise Workspace.Differs)
    (id : WorkspaceId) : l.countP (fun ws => ws.id == id) ≤ 1 := by
  refine countP_le_one h fun a b hdiffers ha => ?_
  rw [beq_iff_eq] at ha
  rw [beq_eq_false_iff_ne, ← ha]
  exact hdiffers.1.symm

/-! ## Runs -/

/-- The operation gives a workspace of the active monitor a name that only a
    workspace of another monitor has. -/
def Op.Doubles (l : Layout W) : Op W → Prop
  | .ensureNamedWorkspaceOnActiveMonitor name =>
      (∀ m, l.activeMonitor = some m → m.findNamedWorkspaceIndex name = none) ∧
        ∃ ws ∈ l.workspaces, ws.isNamed name = true
  | _ => False

namespace Layout

variable {l : Layout W} {n : Nat}

/-- The operation gives no name, or one, which another workspace has only if the
    operation doubles it. -/
abbrev Lineage (op : Op W) (l : Layout W) (n : Nat) (l' : Layout W) (n' : Nat) : Prop :=
  Kept l n l' n' ∨ ∃ name, (¬ op.Doubles l → ∀ ws ∈ l.workspaces, ws.isNamed name = false) ∧
    Christened name l n l' n'

/-- An operation that gives a name only if no workspace has it. -/
theorem lineage_of_christened {op : Op W} {name : String} {l' : Layout W} {n' : Nat}
    (h : Kept l n l' n' ∨ l.findWorkspaceByName name = none ∧ Christened name l n l' n') :
    Lineage op l n l' n' := by
  rcases h with h | ⟨hnone, h⟩
  · exact Or.inl h
  · exact Or.inr ⟨name, fun _ => free_of_not_found hnone, h⟩

theorem run_lineage [DecidableEq W] (c : Readings W) (op : Op W) :
    Yields (op.run c l) n (Lineage op l n) := by
  have hkept : ∀ {x : Counted (Layout W)}, Yields x n (Kept l n) → Yields x n (Lineage op l n) :=
    fun hx => hx.mono fun _ _ h' => Or.inl h'
  have hanswer : ∀ {β : Type} {x : Counted (Layout W × β)},
      (Yields x n fun p n' => Kept l n p.1 n') → Yields (Op.unanswered x) n (Lineage op l n) :=
    fun hx => hkept (Op.yields_unanswered hx)
  have hsame : ∀ {l' : Layout W}, l'.workspaces = l.workspaces →
      Yields (pure l') n (Lineage op l n) := by
    intro l' heq
    refine hkept (yields_pure ?_)
    rw [Kept, heq]
    exact .refl _ n
  have hactive : ∀ {f : Monitor W → Counted (Monitor W)}, Keeps f →
      Yields (l.onActiveMonitor f) n (Lineage op l n) :=
    fun hf => hkept (l.onActiveMonitor_keeps hf n)
  cases op with
  | addOutput output layoutConfig => exact hkept (addOutput_kept l output layoutConfig n)
  | removeOutput output => exact hkept (removeOutput_kept l output n)
  | focusOutput output => exact hsame (workspaces_focusOutput l output)
  | addWindow window target activate => exact hkept (addWindow_kept l window target activate n)
  | removeWindow window => exact hanswer (removeWindow_kept c l window n)
  | activateWindow window => exact hkept (activateWindow_kept l window n)
  | moveToWorkspace window idx activate =>
    exact hkept (moveToWorkspace_kept c l window idx activate n)
  | moveToWorkspaceUp focus | moveToWorkspaceDown focus =>
    exact hactive fun m => m.moveActiveTileTo_kept c.toContents _ focus
  | moveColumnToWorkspace idx activate =>
    exact hactive fun m => m.moveColumnToWorkspace_kept c.toContents idx activate
  | moveColumnToWorkspaceUp activate =>
    exact hactive fun m => m.moveColumnToWorkspaceUp_kept c.toContents activate
  | moveColumnToWorkspaceDown activate =>
    exact hactive fun m => m.moveColumnToWorkspaceDown_kept c.toContents activate
  | moveDownOrToWorkspaceDown | moveUpOrToWorkspaceUp =>
    exact hactive fun m n => m.unlessInside_kept c.toContents
      (m.moveActiveTileTo_kept c.toContents _ true n)
  | moveToOutput window output idx activate =>
    exact hkept (moveToOutput_kept c l window output idx activate n)
  | moveColumnToOutput output idx activate =>
    exact hkept (moveColumnToOutput_kept c l output idx activate n)
  | moveColumnOrToOutput output => exact hanswer (moveColumnOrToOutput_kept c l output n)
  | addColumnByIdx monitorIdx workspaceIdx column activate =>
    exact hkept (addColumnByIdx_kept l monitorIdx workspaceIdx column activate n)
  | focusOrOutput output => exact hsame (workspaces_focusOrOutput c l output)
  | focusWindowOrWorkspaceDown | focusWindowOrWorkspaceUp =>
    exact hactive fun m n => m.unlessInside_kept c.toContents (m.activateWorkspace_kept _ n)
  | switchWorkspaceUp | switchWorkspaceDown | switchWorkspace idx =>
    exact hactive fun m => m.activateWorkspace_kept _
  | switchWorkspaceAutoBackAndForth idx =>
    exact hactive fun m => m.switchWorkspaceAutoBackAndForth_kept idx
  | switchWorkspacePrevious => exact hactive fun m => m.switchWorkspacePrevious_kept
  | ensureNamedWorkspaceOnActiveMonitor name =>
    refine Op.yields_unanswered ((ensureNamedWorkspaceOnActiveMonitor_christened l name n).mono
      fun p n' h' => ?_)
    rcases h' with h' | ⟨hnone, h'⟩
    · exact Or.inl h'
    · refine Or.inr ⟨name, fun hop ws hws => ?_, h'⟩
      rw [Bool.eq_false_iff]
      exact fun hnamed => hop ⟨hnone, ws, hws, hnamed⟩
  | ensureNamedWorkspaceOnMonitor name outputName =>
    exact Op.yields_unanswered ((ensureNamedWorkspaceOnMonitor_christened l name outputName
      n).mono fun _ _ => lineage_of_christened)
  | ensureNamedWorkspace config =>
    exact (ensureNamedWorkspace_christened l config n).mono fun _ _ => lineage_of_christened
  | setWorkspaceName name reference =>
    exact (setWorkspaceName_christened l name reference n).mono
      fun _ _ => lineage_of_christened
  | unsetWorkspaceName reference => exact hkept (unsetWorkspaceName_kept l reference n)
  | unnameWorkspaceById id => exact hkept (unnameWorkspaceById_kept l id n)
  | moveWorkspaceDown => exact hactive fun m => m.moveWorkspaceDown_kept
  | moveWorkspaceUp => exact hactive fun m => m.moveWorkspaceUp_kept
  | moveWorkspaceToIdx reference newIdx =>
    exact hkept (moveWorkspaceToIdx_kept l reference newIdx n)
  | moveWorkspaceToOutput output => exact hanswer (moveWorkspaceToOutput_kept l output n)
  | moveWorkspaceToOutputById oldIdx oldOutput newOutput =>
    exact hanswer (moveWorkspaceToOutputById_kept l oldIdx oldOutput newOutput n)
  | toggleOverview | overviewGestureBegin | overviewGestureEnd =>
    exact hsame (workspaces_setOverview l _)
  | openOverview => exact hsame (workspaces_openOverview l)
  | closeOverview => exact hsame (workspaces_closeOverview l)
  | toggleOverviewToWorkspace wsIdx => exact hkept (toggleOverviewToWorkspace_kept l wsIdx n)
  | updateConfig options => exact hkept (updateConfig_kept l options n)
  | updateLayoutConfig output layoutConfig =>
    exact hkept (updateLayoutConfig_kept l output layoutConfig n)
  | workspaceSwitchGestureBegin output isTouchpad =>
    exact hkept (workspaceSwitchGestureBegin_kept c l output isTouchpad n)
  | workspaceSwitchGestureUpdate isTouchpad excess =>
    exact hanswer (workspaceSwitchGestureUpdate_kept c l isTouchpad excess n)
  | workspaceSwitchGestureEnd isTouchpad =>
    exact hanswer (workspaceSwitchGestureEnd_kept c l isTouchpad n)
  | dndUpdate output => exact hkept (dndUpdate_kept c l output n)
  | dndEnd => exact hkept (dndEnd_kept c l n)
  | interactiveMoveBegin window output =>
    exact hanswer (interactiveMoveBegin_kept c l window output n)
  | interactiveMoveUpdate window output isFloating =>
    exact hanswer (interactiveMoveUpdate_kept c l window output isFloating n)
  | interactiveMoveEnd window => exact hkept (interactiveMoveEnd_kept c l window n)
  | toggleMovedFloating => exact hsame (workspaces_toggleMovedFloating l)
  | advanceAnimations => exact hkept (advanceAnimations_kept c l n)
  | refresh => exact hkept (refresh_kept c l n)
  | inside => exact hsame rfl

theorem run_identified [DecidableEq W] (c : Readings W) (op : Op W) (hop : ¬ op.Doubles l)
    (h : Identified l.workspaces n) :
    Yields (op.run c l) n fun l' n' => Identified l'.workspaces n' := by
  refine (run_lineage c op).mono fun l' n' h' => ?_
  rcases h' with h' | ⟨name, hfree, h'⟩
  · exact Descends.identified h' h
  · exact h'.identified (hfree hop) h

/-- Whatever names are given, identities are told apart. -/
theorem run_distinct [DecidableEq W] (c : Readings W) (op : Op W) (h : Distinct l.workspaces n) :
    Yields (op.run c l) n fun l' n' => Distinct l'.workspaces n' := by
  refine (run_lineage c op).mono fun l' n' h' => ?_
  rcases h' with h' | ⟨name, -, h'⟩
  · exact h'.distinct h
  · exact distinct_map_unname.mp (h'.bare.distinct h)

/-- The configured names differ, ignoring the case of ASCII letters. -/
def DistinctNames (configs : List WorkspaceConfig) : Prop :=
  configs.Pairwise fun a b => eqIgnoreAsciiCase a.name b.name = false

/-- The workspaces of the configuration have new identities, and the names it gives. -/
theorem newWorkspaces_distinct : ∀ (configs : List WorkspaceConfig) (n : Nat),
    Yields (newWorkspaces (W := W) configs) n fun l n' => n ≤ n' ∧ Distinct l n' ∧
      (∀ ws ∈ l, n ≤ ws.id) ∧ l.map Workspace.name = configs.map fun config => some config.name
  | [], n => yields_pure ⟨Nat.le_refl n, ⟨List.nodup_nil, by simp⟩, by simp, rfl⟩
  | config :: configs, n => by
      refine yields_fresh_bind ((newWorkspaces_distinct configs (n + 1)).bind ?_)
      rintro l n' ⟨hle, hl, hnew, hnames⟩
      refine yields_pure ⟨Nat.le_of_succ_le hle, ⟨?_, ?_⟩, ?_, ?_⟩
      · rw [List.map_cons, List.nodup_cons]
        refine ⟨fun hmem => ?_, hl.nodup⟩
        obtain ⟨ws, hws, hid⟩ := List.mem_map.mp hmem
        have hge := hnew ws hws
        rw [hid] at hge
        exact absurd hge (Nat.not_succ_le_self n)
      · intro ws hws
        rcases List.mem_cons.mp hws with rfl | hws
        · exact hle
        · exact hl.lt ws hws
      · intro ws hws
        rcases List.mem_cons.mp hws with rfl | hws
        · exact Nat.le_refl n
        · exact Nat.le_of_succ_le (hnew ws hws)
      · rw [List.map_cons, List.map_cons, hnames]
        rfl

theorem newWorkspaces_identified {configs : List WorkspaceConfig} (hconfigs : DistinctNames configs)
    (n : Nat) : Yields (newWorkspaces (W := W) configs) n Identified := by
  refine (newWorkspaces_distinct configs n).mono ?_
  rintro l n' ⟨-, hl, -, hnames⟩
  refine ⟨hl, ?_⟩
  have hpairwise : (configs.map fun config => some config.name).Pairwise fun a b =>
      ∀ x ∈ a, ∀ y ∈ b, eqIgnoreAsciiCase x y = false := by
    refine List.pairwise_map.mpr (hconfigs.imp fun hne x hx y hy => ?_)
    obtain rfl := Option.some.inj hx
    obtain rfl := Option.some.inj hy
    exact hne
  rw [← hnames, List.pairwise_map] at hpairwise
  have hsymm : Std.Symm fun a b : Workspace W =>
      ∀ x ∈ a.name, ∀ y ∈ b.name, eqIgnoreAsciiCase x y = false := by
    refine ⟨fun a b hab y hy x hx => ?_⟩
    rw [eqIgnoreAsciiCase_comm]
    exact hab x hx y hy
  exact fun a ha b hb hid => hpairwise.forall ha hb fun heq => hid (congrArg Workspace.id heq)

/-- A new layout has no outputs. -/
theorem new_yields {configs : List WorkspaceConfig} {post : List (Workspace W) → Nat → Prop}
    (h : Yields (newWorkspaces configs) n post) (options : Options) :
    Yields (Layout.new (W := W) options configs) n fun l n' =>
      ∃ workspaces, l.monitorSet = .noOutputs workspaces ∧ post workspaces n' :=
  h.bind fun workspaces _ hpost => yields_pure ⟨workspaces, rfl, hpost⟩

theorem Reachable.identified [DecidableEq W] {allowed : Layout W → Op W → Prop}
    (hallowed : ∀ l op, allowed l op → ¬ op.Doubles l) {options : Options}
    {configs : List WorkspaceConfig} (hconfigs : DistinctNames configs)
    (h : Reachable allowed options configs l n) : Identified l.workspaces n := by
  induction h with
  | @new n n' l h =>
    obtain ⟨workspaces, hset, h'⟩ :=
      new_yields (newWorkspaces_identified hconfigs n) options l n' h
    rw [workspaces_of_noOutputs hset]
    exact h'
  | step c _ hop hrun ih => exact run_identified c _ (hallowed _ _ hop) ih _ _ hrun

/-- In every run in which no call gives the active monitor a name that only another
    monitor has, workspaces are told apart by their identities and by their names. -/
theorem Reachable.workspaces_differ [DecidableEq W] {options : Options}
    {configs : List WorkspaceConfig} (hconfigs : DistinctNames configs)
    (h : Reachable (fun l op => ¬ op.Doubles l) options configs l n) :
    l.workspaces.Pairwise Workspace.Differs ∧
      (∀ name, l.workspaces.countP (fun ws => ws.isNamed name) ≤ 1) ∧
      ∀ id, l.workspaces.countP (fun ws => ws.id == id) ≤ 1 := by
  have hpairwise := (h.identified (fun _ _ hop => hop) hconfigs).pairwise
  exact ⟨hpairwise, countP_isNamed_le_one hpairwise, countP_id_le_one hpairwise⟩

/-- An output known by its connector. -/
def plainOutput (handle : Nat) (connector : String) : Output :=
  ⟨handle, ⟨connector, none, none, none⟩⟩

/-- A name that is not used anywhere is ensured on the active monitor. -/
theorem workspaces_differ_ensured : ∃ (l : Layout Nat) (n : Nat),
    Reachable (fun l op => ¬ op.Doubles l) ⟨false⟩ [⟨"chat", none⟩] l n ∧
      l.workspaces.Pairwise Workspace.Differs ∧ l.workspaces.length = 5 := by
  have hcheck : ∀ (l : Layout Nat) (op : Op Nat), (match op with
      | .ensureNamedWorkspaceOnActiveMonitor name => (l.findWorkspaceByName name).isNone
      | _ => true) = true → ¬ op.Doubles l := by
    rintro l op hop hdoubles
    cases op with
    | ensureNamedWorkspaceOnActiveMonitor name =>
      obtain ⟨-, ws, hws, hnamed⟩ := hdoubles
      rw [free_of_not_found (Option.isNone_iff_eq_none.mp hop) ws hws] at hnamed
      cases hnamed
    | _ => exact hdoubles
  obtain ⟨l, n, hl, hlen⟩ := exists_reachable ⟨false⟩ [⟨"chat", none⟩]
    [(quiet, .addOutput (plainOutput 0 "A") none), (quiet, .addOutput (plainOutput 1 "B") none),
      (quiet, .focusOutput (plainOutput 1 "B")),
      (quiet, .ensureNamedWorkspaceOnActiveMonitor "web"),
      (quiet, .ensureNamedWorkspace ⟨"mail", none⟩)]
    (fun l => l.workspaces.length == 5) hcheck (by decide +kernel)
  exact ⟨l, n, hl, (hl.workspaces_differ (List.pairwise_singleton _ _)).1, beq_iff_eq.mp hlen⟩

/-- The name of a workspace of the first monitor is ensured on the second. -/
theorem names_double : ∃ (l : Layout Nat) (n : Nat),
    Reachable (fun _ _ => True) ⟨false⟩ [] l n ∧ ¬ l.workspaces.Pairwise Workspace.Differs := by
  have hcheck : ∀ (l : Layout Nat) (op : Op Nat), (fun _ _ => true) l op = true → True :=
    fun _ _ _ => trivial
  obtain ⟨l, n, hl, hq⟩ := exists_reachable ⟨false⟩ []
    [(quiet, .addOutput (plainOutput 0 "A") none), (quiet, .addOutput (plainOutput 1 "B") none),
      (quiet, .ensureNamedWorkspaceOnActiveMonitor "web"),
      (quiet, .focusOutput (plainOutput 1 "B")),
      (quiet, .ensureNamedWorkspaceOnActiveMonitor "web")]
    (fun l => l.workspaces.countP (fun ws => ws.isNamed "web") == 2) hcheck (by decide +kernel)
  refine ⟨l, n, hl, fun hpairwise => ?_⟩
  have hle := countP_isNamed_le_one hpairwise "web"
  rw [beq_iff_eq.mp hq] at hle
  exact absurd hle (by decide)

end Layout

end Cidre.Workspaces
