/-
  Cidre.Workspaces.ScratchFocus

  Scratch columns that are to close when the focus leaves them (`src/niri.rs`,
  `check_scratch_column_focus_loss`).

  They are closed by the toggle, which puts away the column that is shown and brings out
  any other.  So as soon as one is open, the check takes the focus to it (`staysPut_iff`).
-/

import Cidre.Workspaces.ScratchColumns

namespace Cidre.Workspaces

open Cidre.Counter

variable {W : Type}

/-! ## The check -/

/-- The name starts as that of a scratch workspace. -/
def Workspace.isScratch (ws : Workspace W) : Bool :=
  ws.name.any fun name => "__scratch_".toList.isPrefixOf name.toList

namespace Niri

/-- The keys, in the order of the map. -/
def toClose (s : Niri W) : List String :=
  (s.scratchColumns.map Prod.fst).filter fun name =>
    ((s.config.find? fun column => column.name == name).bind
      ScratchColumn.closeOnFocusLoss).getD false

variable [DecidableEq W]

/-- The body of the loop. -/
def closeScratch (c : Readings W) (s : Niri W) (name : String) : Counted (Niri W) :=
  match shownScratch s.layout name with
  | some _ => do
      let (s, _) ← s.toggleScratchColumn c name
      return s
  | none => pure s

def closeAll (c : String → Readings W) : List String → Niri W → Counted (Niri W)
  | [], s => pure s
  | name :: names, s => do
      let s ← s.closeScratch (c name) name
      closeAll c names s

/-- `c` is what each of the toggles reads. -/
def checkScratchColumnFocusLoss (c : String → Readings W) (s : Niri W) : Counted (Niri W) :=
  match s.layout.activeWorkspace with
  | none => pure s
  | some active => if active.isScratch then pure s else closeAll c s.toClose s

end Niri

/-! ## What it is for -/

namespace Niri

/-- The workspace of the scratch column. -/
def scratchWorkspace (l : Layout W) (name : String) : Option (Workspace W) :=
  (l.findWorkspaceByName (scratchWorkspaceName name)).bind l.workspaceAt

/-- The workspace the scratch column was shown from. -/
def sourceWorkspace (l : Layout W) (runtime : ScratchColumnRuntime) : Option (Workspace W) :=
  (sourcePlace l runtime).bind l.workspaceAt

/-- The same workspace is active, under the same name. -/
def KeepsFocus (s s' : Niri W) : Prop :=
  s'.layout.activeWorkspace.map (fun ws => (ws.id, ws.name)) =
    s.layout.activeWorkspace.map fun ws => (ws.id, ws.name)

/-- The windows of each scratch column to close are where it was shown from. -/
def PutsBack (s s' : Niri W) : Prop :=
  ∀ name ∈ s.toClose, ∀ runtime ws, s.scratchColumns.lookup name = some runtime →
    scratchWorkspace s.layout name = some ws → ∀ window ∈ ws.windows,
      ∃ source back, sourceWorkspace s.layout runtime = some source ∧
        back ∈ s'.layout.workspaces ∧ back.id = source.id ∧ window ∈ back.windows

/-- The check returns, with the focus where it was and the windows back. -/
def StaysPut [DecidableEq W] (c : String → Readings W) (s : Niri W) (n : Nat) : Prop :=
  ∃ s' n', s.checkScratchColumnFocusLoss c n = .ok (s', n') ∧ s.KeepsFocus s' ∧ s.PutsBack s'

/-- No scratch column to close has windows. -/
def NothingOpen (s : Niri W) : Prop :=
  ∀ name ∈ s.toClose, ∀ ws, scratchWorkspace s.layout name = some ws → ws.hasWindows = false

/-- Nothing is taken for something else: neither an output, nor a scratch column to close,
    nor the active workspace. -/
structure Apart (s : Niri W) (active : Workspace W) : Prop where
  outputs : (s.layout.monitors.map Monitor.output).Nodup
  names : s.toClose.Pairwise fun a b => eqIgnoreAsciiCase a b = false
  active : ∀ name ∈ s.toClose, active.isNamed (scratchWorkspaceName name) = false

end Niri

/-! ## Names -/

theorem eqIgnoreAsciiCase_append (a x y : String) :
    eqIgnoreAsciiCase (a ++ x) (a ++ y) = eqIgnoreAsciiCase x y := by
  rw [Bool.eq_iff_iff]
  simp [eqIgnoreAsciiCase]

/-- Prefixes of the same name are of the same length. -/
theorem length_eq_of_eqIgnoreAsciiCase {a b x : String}
    (h : eqIgnoreAsciiCase (a ++ x) (b ++ x) = true) : a.toList.length = b.toList.length := by
  rw [eqIgnoreAsciiCase, beq_iff_eq] at h
  simpa using congrArg List.length h

namespace Niri

/-- A workspace is that of one scratch column at most. -/
theorem eqIgnoreAsciiCase_of_scratch {ws : Workspace W} {x y : String}
    (hx : ws.isNamed (scratchWorkspaceName x) = true)
    (hy : ws.isNamed (scratchWorkspaceName y) = true) : eqIgnoreAsciiCase x y = true := by
  obtain ⟨name, hname, hx⟩ := (Option.any_eq_true _ _).mp hx
  rw [Workspace.isNamed_of_mem hname] at hy
  rw [eqIgnoreAsciiCase, beq_iff_eq] at hx hy
  rw [← eqIgnoreAsciiCase_append "__scratch_", eqIgnoreAsciiCase, beq_iff_eq]
  exact hx.symm.trans hy

theorem rename_scratchReturnName (ws : Workspace W) (name : String) :
    (ws.rename (scratchReturnName name)).isNamed (scratchWorkspaceName name) = false := by
  rw [Bool.eq_false_iff]
  intro h
  have hlen : "__scratch_return_".toList.length = "__scratch_".toList.length :=
    length_eq_of_eqIgnoreAsciiCase h
  exact absurd hlen (by decide)

end Niri

/-! ## Looking up -/

namespace Layout

variable {l l' : Layout W} {p : Workspace W → Bool}

/-- The workspace at the first place with `p` is the first with `p`. -/
theorem placeWhere_bind (p : Workspace W → Bool) (strips : List (List (Workspace W))) :
    ((placeWhere p strips).bind fun place => strips[place.mon]?.bind fun strip =>
      strip[place.idx]?) = strips.flatten.find? p := by
  induction strips with
  | nil => rfl
  | cons strip strips ih =>
    rw [placeWhere, List.flatten_cons, List.find?_append]
    cases hidx : strip.findIdx? p with
    | some idx =>
      obtain ⟨hlt, hp, hbefore⟩ := List.findIdx?_eq_some_iff_getElem.mp hidx
      have hfind : strip.find? p = some strip[idx] := by
        rw [List.find?_eq_some_iff_getElem]
        exact ⟨hp, idx, hlt, rfl, fun j hj => by simpa using hbefore j hj⟩
      rw [hfind]
      simp [hlt]
    | none =>
      have hfind : strip.find? p = none := by
        rw [List.find?_eq_none]
        intro ws hws
        simp [List.findIdx?_eq_none_iff.mp hidx ws hws]
      rw [hfind, Option.none_or, ← ih]
      cases placeWhere p strips with
      | none => rfl
      | some place => simp

theorem strips_of_normal {ms : List (Monitor W)} {primary active : Nat}
    (hset : l.monitorSet = .normal ms primary active) :
    l.strips = l.monitors.map Monitor.workspaces := by
  rw [strips, monitors, hset]

theorem Spares.find?_eq {ms : List (Monitor W)} {primary active : Nat}
    (hset : l.monitorSet = .normal ms primary active) (h : Spares p l l') :
    l'.workspaces.find? p = l.workspaces.find? p := by
  have hstrips := strips_of_normal hset
  have hstrips' := strips_of_normal (h.connected _ _ _ hset)
  have hmap := Paired.map_eq (f := fun m => m.workspaces.filter p)
    (g := fun m => m.workspaces.filter p) h.monitors fun m _ m' hm => hm.filter_eq
  rw [← List.head?_filter, ← List.head?_filter, workspaces, workspaces, hstrips, hstrips',
    List.filter_flatten, List.filter_flatten, List.map_map, List.map_map]
  exact congrArg (fun l => l.flatten.head?) hmap

/-- Every output has one monitor. -/
theorem monitorIdx_output (h : (l.monitors.map Monitor.output).Nodup) {idx : Nat} {m : Monitor W}
    (hm : l.monitors[idx]? = some m) : l.monitorIdx m.output = some idx := by
  obtain ⟨hlt, rfl⟩ := List.getElem?_eq_some_iff.mp hm
  rw [monitorIdx, List.findIdx?_eq_some_iff_getElem]
  have hdiffer := List.pairwise_iff_getElem.mp (List.pairwise_map.mp h)
  refine ⟨hlt, beq_self_eq_true _, fun j hj => ?_⟩
  rw [beq_iff_eq]
  exact hdiffer j idx (Nat.lt_trans hj hlt) hlt hj

theorem switchWorkspace_active {ms : List (Monitor W)} {primary active : Nat}
    (hset : l.monitorSet = .normal ms primary active) {m : Monitor W} {ws : Workspace W}
    (hm : ms[active]? = some m) {idx : Nat} (hws : m.workspaces[idx]? = some ws) (n : Nat) :
    Yields (l.switchWorkspace idx) n fun l' _ =>
      l'.activeWorkspace = some ws ∧ l'.monitors.map Monitor.output = ms.map Monitor.output := by
  have hidx : min idx (m.workspaces.length - 1) = idx := by
    have hlt := (List.getElem?_eq_some_iff.mp hws).1
    omega
  have hswitch : Yields (m.switchWorkspace idx) n fun m' _ =>
      m'.output = m.output ∧ m'.workspaces[m'.activeWorkspaceIdx]? = some ws := by
    rw [Monitor.switchWorkspace, hidx]
    have hremember : Yields (m.rememberActive idx) n fun m' _ =>
        m'.output = m.output ∧ m'.workspaces = m.workspaces := by
      refine yields_ite (fun _ => yields_bounds_bind fun ws _ => yields_pure ⟨rfl, rfl⟩) ?_
      exact fun _ => yields_pure ⟨rfl, rfl⟩
    refine hremember.bind fun m₁ n₁ h₁ => yields_pure ⟨h₁.1, ?_⟩
    dsimp only
    rw [h₁.2]
    exact hws
  simp only [switchWorkspace, onActiveMonitor, onMonitor, hset]
  refine yields_bounds_bind fun m₁ hm₁ => ?_
  obtain rfl : m = m₁ := Option.some.inj (hm.symm.trans hm₁)
  refine hswitch.bind fun m' n' h => yields_pure ⟨?_, ?_⟩
  · have hlt := (List.getElem?_eq_some_iff.mp hm).1
    have hget : (ms.set active m')[active]? = some m' := List.getElem?_set_self hlt
    exact Option.bind_eq_some_iff.mpr ⟨m', hget, h.2⟩
  · have hset' : List.Forall₂ (fun a b : Monitor W => b.output = a.output) ms (ms.set active m') :=
      Paired.set (S := fun a b => b.output = a.output) (fun _ => rfl) hm h.1
    exact Paired.map_eq hset' fun _ _ _ hout => hout

end Layout

/-! ## Bringing out -/

namespace Niri

theorem scratchWorkspace_eq_find (l : Layout W) (name : String) :
    scratchWorkspace l name =
      l.workspaces.find? fun ws => ws.isNamed (scratchWorkspaceName name) :=
  Layout.placeWhere_bind _ l.strips

theorem scratchWorkspace_isNamed {l : Layout W} {name : String} {ws : Workspace W}
    (h : scratchWorkspace l name = some ws) : ws.isNamed (scratchWorkspaceName name) = true := by
  rw [scratchWorkspace_eq_find] at h
  have hnamed := List.find?_some h
  exact hnamed

theorem shownScratch_eq_some {l : Layout W} {name : String} {place : Place} :
    shownScratch l name = some place ↔ ∃ ws,
      l.findWorkspaceByName (scratchWorkspaceName name) = some place ∧
        l.workspaceAt place = some ws ∧ ws.hasWindows = true := by
  simp only [shownScratch, Option.bind_eq_bind, Option.bind_eq_some_iff]
  constructor
  · rintro ⟨place', hplace, ws, hws, hsome⟩
    obtain ⟨hwindows, hsame⟩ := Option.ite_none_right_eq_some.mp hsome
    obtain rfl := Option.some.inj hsame
    exact ⟨ws, hplace, hws, hwindows⟩
  · rintro ⟨ws, hplace, hws, hwindows⟩
    exact ⟨place, hplace, ws, hws, if_pos hwindows⟩

/-- A scratch workspace is found if there is one, and has windows. -/
theorem shownScratch_isSome {l : Layout W} {name : String} :
    (shownScratch l name).isSome = true ↔
      ∃ ws, scratchWorkspace l name = some ws ∧ ws.hasWindows = true := by
  rw [Option.isSome_iff_exists]
  constructor
  · rintro ⟨place, hshown⟩
    obtain ⟨ws, hplace, hws, hwindows⟩ := shownScratch_eq_some.mp hshown
    refine ⟨ws, ?_, hwindows⟩
    rw [scratchWorkspace, hplace]
    exact hws
  · rintro ⟨ws, hscratch, hwindows⟩
    obtain ⟨place, hplace, hws⟩ := Option.bind_eq_some_iff.mp hscratch
    exact ⟨place, shownScratch_eq_some.mpr ⟨ws, hplace, hws, hwindows⟩⟩

theorem mem_toClose_configured {s : Niri W} {name : String}
    (h : name ∈ s.toClose) :
    (s.config.find? fun column => column.name == name).isSome = true := by
  have hflag := List.of_mem_filter h
  cases hfind : s.config.find? fun column => column.name == name with
  | none =>
    rw [hfind] at hflag
    cases hflag
  | some column => rfl

theorem nothingOpen_iff {s : Niri W} :
    s.NothingOpen ↔ ∀ name ∈ s.toClose, shownScratch s.layout name = none := by
  refine forall₂_congr fun name _ => ?_
  rw [← Option.not_isSome_iff_eq_none, shownScratch_isSome]
  simp

variable [DecidableEq W] {s : Niri W} {active : Workspace W} {name : String}

/-- A scratch column with windows is brought out on its workspace. -/
theorem bringOut_shows (c : Readings W) (hactive : s.layout.activeWorkspace = some active)
    (houtputs : (s.layout.monitors.map Monitor.output).Nodup) {column : ScratchColumn}
    (hfree : active.isNamed (scratchWorkspaceName column.name) = false)
    (hshown : (shownScratch s.layout column.name).isSome = true) (n : Nat) :
    Yields (s.bringOut c column active.id) n fun q _ =>
      q.1.config = s.config ∧
        q.1.layout.activeWorkspace = scratchWorkspace s.layout column.name ∧
        q.1.layout.monitors.map Monitor.output = s.layout.monitors.map Monitor.output := by
  obtain ⟨m, hm, -⟩ := Option.bind_eq_some_iff.mp hactive
  cases hset : s.layout.monitorSet with
  | noOutputs workspaces =>
    rw [Layout.activeMonitor, hset] at hm
    cases hm
  | normal monitors primary activeIdx =>
    have hspares := Layout.setWorkspaceName_spares
      (p := fun ws => ws.isNamed (scratchWorkspaceName column.name)) (fun _ _ => rfl) hactive
      hfree (rename_scratchReturnName active column.name) n
    unfold bringOut
    refine hspares.bind fun l n₁ h₁ => ?_
    have hset₁ := h₁.connected _ _ _ hset
    have hsame : scratchWorkspace l column.name = scratchWorkspace s.layout column.name := by
      rw [scratchWorkspace_eq_find, scratchWorkspace_eq_find, h₁.find?_eq hset]
    have houtputs₁ : l.monitors.map Monitor.output = s.layout.monitors.map Monitor.output :=
      Paired.map_eq h₁.monitors fun m _ m' hm => hm.output_eq
    rw [shownScratch_isSome, ← hsame, ← shownScratch_isSome, Option.isSome_iff_exists] at hshown
    obtain ⟨place, hplace⟩ := hshown
    obtain ⟨ws, hfound, hws, -⟩ := shownScratch_eq_some.mp hplace
    have hscratch : scratchWorkspace s.layout column.name = some ws := by
      rw [← hsame, scratchWorkspace, hfound]
      exact hws
    obtain ⟨m₁, hm₁, hget⟩ := Layout.workspaceAt_of_normal hset₁ hws
    -- The monitor of the scratch workspace gets the focus.
    have hfocus : focusOutputOf l place = l.setActiveMonitor place.mon := by
      rw [← houtputs₁] at houtputs
      rw [focusOutputOf, hm₁]
      dsimp only
      rw [Layout.focusOutput, Layout.monitorIdx_output houtputs hm₁]
    have hset₂ : (l.setActiveMonitor place.mon).monitorSet =
        .normal l.monitors primary place.mon := by
      rw [Layout.setActiveMonitor, hset₁]
    dsimp only
    rw [hplace]
    dsimp only
    rw [hfocus]
    refine (Layout.switchWorkspace_active hset₂ hm₁ hget n₁).bind fun l₂ n₂ h₂ => ?_
    refine yields_pure ⟨rfl, ?_, h₂.2.trans houtputs₁⟩
    rw [hscratch]
    exact h₂.1

/-- The toggle brings out a scratch column that the active workspace is not. -/
theorem closeScratch_shows (c : Readings W) (hactive : s.layout.activeWorkspace = some active)
    (houtputs : (s.layout.monitors.map Monitor.output).Nodup)
    (hconfig : (s.config.find? fun column => column.name == name).isSome = true)
    (hfree : active.isNamed (scratchWorkspaceName name) = false)
    (hshown : (shownScratch s.layout name).isSome = true) (n : Nat) :
    Yields (s.closeScratch c name) n fun s' _ =>
      s'.config = s.config ∧ s'.layout.activeWorkspace = scratchWorkspace s.layout name ∧
        s'.layout.monitors.map Monitor.output = s.layout.monitors.map Monitor.output := by
  obtain ⟨place, hplace⟩ := Option.isSome_iff_exists.mp hshown
  obtain ⟨column, hcolumn⟩ := Option.isSome_iff_exists.mp hconfig
  have hname := List.find?_some hcolumn
  rw [beq_iff_eq] at hname
  subst hname
  have hother : active.name ≠ some (scratchWorkspaceName column.name) := by
    intro hname
    rw [Workspace.isNamed_of_mem hname, eqIgnoreAsciiCase, beq_self_eq_true] at hfree
    cases hfree
  have hshows := bringOut_shows c hactive houtputs hfree hshown n
  simp only [closeScratch, hplace, toggleScratchColumn, hcolumn, hactive, hother, if_false]
  exact hshows.bind fun q n₁ h => yields_pure h

/-! ## The loop -/

theorem closeAll_nothing {names : List String} (c : String → Readings W)
    (h : ∀ name ∈ names, shownScratch s.layout name = none) : closeAll c names s = pure s := by
  induction names with
  | nil => rfl
  | cons name names ih =>
    have hnone := h name List.mem_cons_self
    rw [closeAll, closeScratch, hnone]
    exact ih fun name hname => h name (List.mem_cons_of_mem _ hname)

/-- Either nothing is open, or a scratch workspace is active in the end. -/
theorem closeAll_shows {names : List String} (c : String → Readings W)
    (hnames : names.Pairwise fun a b => eqIgnoreAsciiCase a b = false)
    (hconfig : ∀ name ∈ names, (s.config.find? fun column => column.name == name).isSome = true)
    (hactive : s.layout.activeWorkspace = some active)
    (houtputs : (s.layout.monitors.map Monitor.output).Nodup)
    (hfree : ∀ name ∈ names, active.isNamed (scratchWorkspaceName name) = false) (n : Nat) :
    Yields (closeAll c names s) n fun s' _ =>
      (s' = s ∧ ∀ name ∈ names, shownScratch s.layout name = none) ∨
        ∃ name ∈ names, ∃ ws, s'.layout.activeWorkspace = some ws ∧
          ws.isNamed (scratchWorkspaceName name) = true := by
  induction names generalizing s active n with
  | nil => exact yields_pure (.inl ⟨rfl, fun _ h => absurd h List.not_mem_nil⟩)
  | cons name names ih =>
    obtain ⟨hapart, hnames⟩ := List.pairwise_cons.mp hnames
    have hconfig' := fun x hx => hconfig x (List.mem_cons_of_mem name hx)
    have hfree' := fun x hx => hfree x (List.mem_cons_of_mem name hx)
    rw [closeAll]
    cases hshown : shownScratch s.layout name with
    | none =>
      rw [closeScratch, hshown]
      refine (ih hnames hconfig' hactive houtputs hfree' n).mono fun s' _ h => ?_
      rcases h with ⟨rfl, hnone⟩ | ⟨x, hx, hnamed⟩
      · refine .inl ⟨rfl, fun x hx => ?_⟩
        rcases List.mem_cons.mp hx with rfl | hx
        · exact hshown
        · exact hnone x hx
      · exact .inr ⟨x, List.mem_cons_of_mem name hx, hnamed⟩
    | some place =>
      have hsome : (shownScratch s.layout name).isSome = true := by rw [hshown]; rfl
      refine (closeScratch_shows (c name) hactive houtputs (hconfig name List.mem_cons_self)
        (hfree name List.mem_cons_self) hsome n).bind fun s₁ n₁ h₁ => ?_
      obtain ⟨hconfig₁, hactive₁, houtputs₁⟩ := h₁
      obtain ⟨ws, hws, -⟩ := shownScratch_isSome.mp hsome
      have hnamed := scratchWorkspace_isNamed hws
      rw [hws] at hactive₁
      rw [← houtputs₁] at houtputs
      rw [← hconfig₁] at hconfig'
      have hfree₁ : ∀ x ∈ names, ws.isNamed (scratchWorkspaceName x) = false := by
        intro x hx
        rw [Bool.eq_false_iff]
        intro hx'
        have hsame := eqIgnoreAsciiCase_of_scratch hnamed hx'
        rw [hapart x hx] at hsame
        cases hsame
      refine (ih hnames hconfig' hactive₁ houtputs hfree₁ n₁).mono fun s' _ h => .inr ?_
      rcases h with ⟨rfl, -⟩ | ⟨x, hx, hnamed⟩
      · exact ⟨name, List.mem_cons_self, ws, hactive₁, hnamed⟩
      · exact ⟨x, List.mem_cons_of_mem name hx, hnamed⟩

/-- With no scratch column open, the check leaves the focus and the windows where they
    are; and with one open it does not, where nothing is taken for something else. -/
theorem staysPut_iff (c : String → Readings W) (s : Niri W) (n : Nat)
    (hactive : s.layout.activeWorkspace = some active) (hscratch : active.isScratch = false) :
    (s.NothingOpen → s.StaysPut c n) ∧ (s.Apart active → s.StaysPut c n → s.NothingOpen) := by
  have hcheck : s.checkScratchColumnFocusLoss c = closeAll c s.toClose s := by
    simp [checkScratchColumnFocusLoss, hactive, hscratch]
  rw [nothingOpen_iff]
  constructor
  · intro hnone
    refine ⟨s, n, ?_, rfl, ?_⟩
    · rw [hcheck, closeAll_nothing c hnone]
      rfl
    · intro name hname runtime ws _ hws window hwindow
      have hempty := nothingOpen_iff.mpr hnone name hname ws hws
      simp [Workspace.hasWindows, List.ne_nil_of_mem hwindow] at hempty
  · rintro happart ⟨s', n', hrun, hfocus, -⟩
    rw [hcheck] at hrun
    rcases closeAll_shows c happart.names (fun name h => mem_toClose_configured h) hactive
      happart.outputs happart.active n s' n' hrun with ⟨-, hnone⟩ | ⟨name, hname, ws, hws, hnamed⟩
    · exact hnone
    · -- The workspace that is active in the end has another name.
      rw [KeepsFocus, hws, hactive] at hfocus
      have hsame : ws.name = active.name := congrArg Prod.snd (Option.some.inj hfocus)
      have hfree := happart.active name hname
      rw [Workspace.isNamed, ← hsame] at hfree
      rw [Workspace.isNamed, hfree] at hnamed
      cases hnamed

/-- The scratch column has been left for a third workspace. -/
def leftOpen (windows : List Nat) : Niri Nat where
  config := [⟨"term", none, some true⟩]
  layout := { abandoned.layout with
    monitorSet := .normal
      [{ output := Layout.plainOutput 0 "A"
         workspaces := [⟨0, some "__scratch_return_term", "A", []⟩,
           ⟨1, some "__scratch_term", "A", windows⟩, ⟨2, none, "A", [3]⟩, ⟨3, none, "A", []⟩]
         activeWorkspaceIdx := 2
         previousWorkspaceId := some 1
         workspaceSwitch := none
         overviewOpen := false
         baseOptions := ⟨false⟩
         options := ⟨false⟩
         layoutConfig := none }] 0 0 }
  scratchColumns := [("term", ⟨0, "__scratch_return_term"⟩)]

/-- Its windows have been closed. -/
theorem staysPut_closed : (leftOpen []).StaysPut (fun _ => Layout.quiet) 4 := by
  refine (staysPut_iff (fun _ => Layout.quiet) (leftOpen []) 4 rfl (by decide)).1 ?_
  rw [nothingOpen_iff]
  decide

/-- Its windows are there: the focus goes to them. -/
theorem focus_taken : ¬ (leftOpen [7]).StaysPut (fun _ => Layout.quiet) 4 := by
  rintro ⟨s', n', hrun, hfocus, -⟩
  have hname : ((leftOpen [7]).checkScratchColumnFocusLoss (fun _ => Layout.quiet) 4).toOption.bind
      (fun p => p.1.layout.activeWorkspace.bind Workspace.name) = some "__scratch_term" := by decide
  rw [hrun] at hname
  have hsame := congrArg (fun o => o.bind Prod.snd) hfocus
  simp only [Option.bind_map, Function.comp_def] at hsame
  rw [show s'.layout.activeWorkspace.bind Workspace.name = some "__scratch_term" from hname] at hsame
  exact absurd hsame (by decide)

end Niri

end Cidre.Workspaces
