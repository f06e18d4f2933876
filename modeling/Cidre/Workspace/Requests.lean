/-
  Cidre.Workspace.Requests

  Requests that a window be fullscreen or maximized, or be so no more.

  A window that leaves the normal mode by a request of its own leaves word in its tile
  whether it floated.  A window that becomes normal again by such a request floats if and
  only if there is that word, from whenever it is.
-/

import Cidre.Workspace.Modes

namespace Cidre

open Cidre.Panic
open Cidre.Floating (FloatingSpace Acyclic)
open Cidre.Layout (ScrollingSpace Column SizingMode)
open Cidre.Layout.ScrollingSpace (Rearranged)

variable {W F : Type} [DecidableEq W]

namespace Workspace

variable {parent : W → Option W} {s s' : Workspace W F} {env : Env W F}

/-- What a request for a window leaves: the word is left where the window is normal no
    more. -/
structure Requested (window : W) (floats : Bool) (s s' : Workspace W F) : Prop where
  modes : s'.Modes
  others : ∀ w, w ≠ window → s'.restores w = s.restores w
  floating : ∀ w, w ≠ window → (w ∈ s'.floating.ids ↔ w ∈ s.floating.ids)
  restores : s'.restores window =
    if s.pendingMode window = some .normal ∧ s'.pendingMode window ≠ some .normal then floats
    else s.restores window

theorem Requested.refl (hm : s.Modes) (window : W) (floats : Bool) :
    Requested window floats s s :=
  ⟨hm, fun _ _ => rfl, fun _ _ => Iff.rfl, by rw [if_neg fun h => h.2 h.1]⟩

/-- A window that becomes normal floats if its tile says so. -/
def Released (window : W) (s s' : Workspace W F) : Prop :=
  s.pendingMode window ≠ some .normal → s'.pendingMode window = some .normal →
    (window ∈ s'.floating.ids ↔ s.restores window = true)

theorem Intact.column_of_tiled (h : s.Intact parent) {window : W}
    (hmem : window ∈ s.scrolling.windowIds) : ∃ col ∈ s.scrolling.columns, window ∈ col.ids ∧
      ∀ col' ∈ s.scrolling.columns, window ∈ col'.ids → col' = col := by
  obtain ⟨ids, hids, hin⟩ := List.mem_flatten.mp hmem
  obtain ⟨col, hcol, rfl⟩ := List.mem_map.mp hids
  exact ⟨col, hcol, hin, fun col' hcol' hin' => h.column_unique hcol' hcol hin' hin⟩

theorem not_mem_of_hasWindow {window : W} (hout : s.floating.hasWindow window = false) :
    window ∉ s.floating.ids := by
  intro hin
  rw [FloatingSpace.hasWindow_iff.mpr hin] at hout
  cases hout

/-! ## A window that is tiled -/

theorem applySizing_requested (hm : s.Modes) (window : W) (restoreToFloating : Bool)
    (set : ScrollingSpace W F → Option (ScrollingSpace W F × Bool))
    (hset : Ensures (set s.scrolling) fun p => p.1.Uniform) :
    Ensures (s.applySizing window restoreToFloating set) fun s' =>
      Requested window restoreToFloating s s' ∧ s'.floating = s.floating ∧
        ∃ answer, set s.scrolling = some (s'.scrolling, answer) := by
  refine (ensures_self _).bind fun tile htile => ?_
  refine (hset.and (ensures_self _)).bind ?_
  rintro ⟨t, answer⟩ ⟨ht, hrun⟩
  refine (ensures_self _).bind fun tile' htile' => ?_
  have hbefore := pendingMode_of_tile htile
  have hafter := pendingMode_of_tile htile'
  have hmodes : ({ s with scrolling := t } : Workspace W F).Modes := ⟨ht, hm.floating⟩
  refine ensures_ite (fun hleft => ?_) (fun hstays => ?_)
  · refine ensures_pure ⟨⟨hmodes.withKept _, fun w hne => ?_, fun _ _ => Iff.rfl, ?_⟩, rfl,
      answer, hrun⟩
    · exact restores_keep hne
    · have hleft' : s.pendingMode window = some .normal ∧
          ({ s with scrolling := t } : Workspace W F).pendingMode window ≠ some .normal := by
        rw [hbefore, hafter, hleft.1]
        exact ⟨rfl, fun heq => hleft.2 (Option.some.inj heq)⟩
      show (Function.update s.kept window _ window).restoreToFloating = if _ then _ else _
      rw [Function.update_self]
      exact (if_pos hleft').symm
  · refine ensures_pure ⟨⟨hmodes, fun _ _ => rfl, fun _ _ => Iff.rfl, ?_⟩, rfl, answer, hrun⟩
    rw [hbefore, hafter, if_neg]
    · rfl
    · rintro ⟨hnormal, hnot⟩
      exact hstays ⟨Option.some.inj hnormal, fun heq => hnot (congrArg some heq)⟩

/-- A window that was to float, and is tiled, does not become normal. -/
theorem applySizing_released (h : s.Sound parent) (hm : s.Modes) {window : W}
    (hmem : window ∈ s.scrolling.windowIds)
    (set : ScrollingSpace W F → Option (ScrollingSpace W F × Bool))
    (hre : Returns (set s.scrolling) fun p => Rearranged s.scrolling p.1)
    (hset : Ensures (set s.scrolling) fun p => p.1.Uniform)
    (hstays : s.restores window = true → Ensures (set s.scrolling) fun p =>
      ∃ col ∈ p.1.columns, window ∈ col.ids ∧
        (col.pendingSizingMode = .normal → s.pendingMode window = some .normal)) :
    Ensures (s.applySizing window false set) (Released window s) := by
  refine ((applySizing_returns h hmem false set hre).ensures.and
    (applySizing_requested hm window false set hset)).mono ?_
  rintro s' ⟨⟨hsound, -⟩, hrequested, hfloating, answer, hrun⟩ hbefore hafter
  have hout : window ∉ s'.floating.ids := by
    rw [hfloating]
    exact fun hin => h.disjoint window hin hmem
  refine iff_of_false hout fun hrestores => hbefore ?_
  obtain ⟨col, hcol, hin, hnormal⟩ := hstays hrestores _ hrun
  have hmode := hsound.toIntact.pendingMode_of_column hrequested.modes hcol hin
  exact hnormal (Option.some.inj (hmode.symm.trans hafter))

variable [One F] [BEq F]

/-- A window that is asked to be normal, and goes back to the floating layout. -/
theorem toggled_released (h : s.Sound env.parent) (hm : s.Modes) (hacyclic : Acyclic env.parent)
    {window : W} (hmem : window ∈ s.windows) (hout : window ∉ s.floating.ids)
    (hrestores : s.restores window = true) :
    Ensures (s.toggleWindowFloating env (some window)) fun s' =>
      Requested window false s s' ∧ Released window s s' := by
  have hwindows : ∀ w, some window = some w → w ∈ s.windows := fun w hw =>
    Option.some.inj hw ▸ hmem
  refine ((toggleWindowFloating_returns h hacyclic hwindows).ensures.and
    (toggleWindowFloating_toggled h hm (some window))).mono ?_
  rintro s' ⟨⟨⟨hsound, -⟩, -⟩, htoggled⟩
  have hfloats := htoggled.floats window rfl hout
  have hnormal := hsound.toIntact.pendingMode_of_floating htoggled.modes hfloats
  refine ⟨⟨htoggled.modes, fun w _ => htoggled.restores w, fun w hne => ?_, ?_⟩,
    fun _ _ => iff_of_true hfloats hrestores⟩
  · exact htoggled.floating w fun heq => hne (Option.some.inj heq).symm
  · rw [if_neg fun hleft => hleft.2 hnormal]
    exact htoggled.restores window

/-- A floating window that is asked to be fullscreen or maximized is tiled first. -/
theorem tiledFirst_requested (h : s.Sound env.parent) (hm : s.Modes)
    (hacyclic : Acyclic env.parent) {window : W} (hin : window ∈ s.floating.ids)
    {set : ScrollingSpace W F → Option (ScrollingSpace W F × Bool)}
    (hset : ∀ t : ScrollingSpace W F, t.Uniform → Ensures (set t) fun p => p.1.Uniform) :
    Ensures (do
      let s ← s.toggleWindowFloating env (some window)
      s.applySizing window true set) (Requested window true s) := by
  have hwindows : ∀ w, some window = some w → w ∈ s.windows := by
    rintro w heq
    obtain rfl := Option.some.inj heq
    rw [windows_eq]
    exact List.mem_append_right _ hin
  refine ((toggleWindowFloating_returns h hacyclic hwindows).ensures.and
    (toggleWindowFloating_toggled h hm (some window))).bind ?_
  rintro s₁ ⟨⟨⟨hsound, -⟩, htiled⟩, htoggled⟩
  obtain ⟨col, hcol, hwin, -⟩ := hsound.toIntact.column_of_tiled (htiled window rfl hin)
  have hnormal : s₁.pendingMode window = some .normal := by
    rw [hsound.toIntact.pendingMode_of_column htoggled.modes hcol hwin,
      htoggled.tiled window rfl hin col hcol hwin]
  have hbefore := h.toIntact.pendingMode_of_floating hm hin
  refine (applySizing_requested htoggled.modes window true set
    (hset _ htoggled.modes.scrolling)).mono ?_
  rintro s' ⟨hrequested, hfloating, -⟩
  refine ⟨hrequested.modes, fun w hne => ?_, fun w hne => ?_, ?_⟩
  · exact (hrequested.others w hne).trans (htoggled.restores w)
  · rw [hfloating]
    exact htoggled.floating w fun heq => hne (Option.some.inj heq).symm
  · rw [hrequested.restores, hnormal, hbefore, htoggled.restores]

theorem floating_requested (h : s.Sound env.parent) (hm : s.Modes) (hacyclic : Acyclic env.parent)
    {window : W} (hin : window ∈ s.floating.ids) (value : Bool)
    (set : ScrollingSpace W F → Option (ScrollingSpace W F × Bool))
    (hset : ∀ t : ScrollingSpace W F, t.Uniform → Ensures (set t) fun p => p.1.Uniform) :
    Ensures (if value then do
        let s ← s.toggleWindowFloating env (some window)
        s.applySizing window true set
      else some s) fun s' =>
      Requested window true s s' ∧ (value = false → Released window s s') := by
  have hnormal := h.toIntact.pendingMode_of_floating hm hin
  refine ensures_ite (fun _ => ?_) (fun _ => ?_)
  · refine (tiledFirst_requested h hm hacyclic hin hset).mono ?_
    exact fun s' hrequested => ⟨hrequested, fun _ hnot => absurd hnormal hnot⟩
  · exact ensures_some ⟨Requested.refl hm window true, fun _ hnot => absurd hnormal hnot⟩

/-! ## The requests -/

/-- A tiled window that is asked to be normal goes back to the floating layout, or stays
    tiled and becomes normal only if it was not to float. -/
theorem tiled_requested (h : s.Sound env.parent) (hm : s.Modes) (hacyclic : Acyclic env.parent)
    {window : W} (hmem : window ∈ s.windows) (hout : window ∉ s.floating.ids) {col : Column W F}
    (hcol : col ∈ s.scrolling.columns) (hwin : window ∈ col.ids) {floats : Prop}
    [Decidable floats] (hfloats : floats → s.restores window = true)
    (set : ScrollingSpace W F → Option (ScrollingSpace W F × Bool))
    (hre : Returns (set s.scrolling) fun p => Rearranged s.scrolling p.1)
    (hset : Ensures (set s.scrolling) fun p => p.1.Uniform)
    (hstays : ¬ floats → s.restores window = true → Ensures (set s.scrolling) fun p =>
      ∃ col' ∈ p.1.columns, window ∈ col'.ids ∧
        (col'.pendingSizingMode = .normal → col.pendingSizingMode = .normal)) :
    Ensures (if floats then s.toggleWindowFloating env (some window)
      else s.applySizing window false set) fun s' =>
      Requested window false s s' ∧ Released window s s' := by
  refine ensures_ite (fun hguard => ?_) (fun hguard => ?_)
  · exact toggled_released h hm hacyclic hmem hout (hfloats hguard)
  · refine ((applySizing_requested hm window false set hset).mono fun _ hpost => hpost.1).and ?_
    refine applySizing_released h hm (mem_cases hmem hout) set hre hset fun hrestores => ?_
    refine (hstays hguard hrestores).mono ?_
    rintro p ⟨col', hcol', hwin', hmode⟩
    refine ⟨col', hcol', hwin', fun hnormal => ?_⟩
    rw [h.toIntact.pendingMode_of_column hm hcol hwin, hmode hnormal]

theorem setFullscreen_requested (h : s.Sound env.parent) (hm : s.Modes)
    (hacyclic : Acyclic env.parent) {window : W} (hmem : window ∈ s.windows)
    (isFullscreen : Bool) :
    Ensures (s.setFullscreen env window isFullscreen) fun s' =>
      Requested window (s.floating.hasWindow window) s s' ∧
        (isFullscreen = false → Released window s s') := by
  rw [setFullscreen]
  cases hin : s.floating.hasWindow window with
  | true =>
    rw [if_pos rfl]
    exact floating_requested h hm hacyclic (FloatingSpace.hasWindow_iff.mp hin) isFullscreen _
      fun t ht => ScrollingSpace.setFullscreen_uniform env.after ht window isFullscreen
  | false =>
    have hout : window ∉ s.floating.ids := not_mem_of_hasWindow hin
    have htiled := mem_cases hmem hout
    rw [if_neg Bool.false_ne_true]
    have hset := ScrollingSpace.setFullscreen_uniform env.geometry hm.scrolling window isFullscreen
    have hre := ScrollingSpace.setFullscreen_returns env.geometry h.scrolling htiled isFullscreen
    cases isFullscreen with
    | true =>
      exact (applySizing_requested hm window false
        (fun t => t.setFullscreen env.geometry window true) hset).mono fun _ hpost =>
          ⟨hpost.1, fun hfalse => Bool.noConfusion hfalse⟩
    | false =>
      obtain ⟨col, hcol, hwin, hunique⟩ := h.toIntact.column_of_tiled htiled
      refine (find_column_returns htiled).ensures.bind ?_
      rintro col₁ ⟨hcol₁, hcontains⟩
      obtain rfl := hunique col₁ hcol₁ (Column.contains_iff.mp hcontains)
      refine (tiled_requested h hm hacyclic hmem hout hcol₁ hwin
        (fun hguard => (Bool.and_eq_true_iff.mp hguard).2)
        (fun t => t.setFullscreen env.geometry window false) hre hset fun hguard hrestores => ?_).mono
          fun _ hpost => ⟨hpost.1, fun _ => hpost.2⟩
      refine ScrollingSpace.setFullscreen_false_column env.geometry hunique hwin ?_
      rintro ⟨hfullscreen, hmaximized⟩
      refine hguard ?_
      rw [hfullscreen, hmaximized, hrestores]
      rfl

theorem setMaximized_requested (h : s.Sound env.parent) (hm : s.Modes)
    (hacyclic : Acyclic env.parent) {window : W} (hmem : window ∈ s.windows) (maximize : Bool) :
    Ensures (s.setMaximized env window maximize) fun s' =>
      Requested window (s.floating.hasWindow window) s s' ∧
        (maximize = false → Released window s s') := by
  rw [setMaximized]
  cases hin : s.floating.hasWindow window with
  | true =>
    rw [if_pos rfl]
    exact floating_requested h hm hacyclic (FloatingSpace.hasWindow_iff.mp hin) maximize _
      fun t ht => ScrollingSpace.setMaximized_uniform env.after ht window maximize
  | false =>
    have hout : window ∉ s.floating.ids := not_mem_of_hasWindow hin
    have htiled := mem_cases hmem hout
    rw [if_neg Bool.false_ne_true]
    have hset := ScrollingSpace.setMaximized_uniform env.geometry hm.scrolling window maximize
    have hre := ScrollingSpace.setMaximized_returns env.geometry h.scrolling htiled maximize
    cases maximize with
    | true =>
      exact (applySizing_requested hm window false
        (fun t => t.setMaximized env.geometry window true) hset).mono fun _ hpost =>
          ⟨hpost.1, fun hfalse => Bool.noConfusion hfalse⟩
    | false =>
      obtain ⟨col, hcol, hwin, hunique⟩ := h.toIntact.column_of_tiled htiled
      refine (ensures_self _).bind fun tile htile => ?_
      have hmode := (pendingMode_of_tile htile).symm.trans
        (h.toIntact.pendingMode_of_column hm hcol hwin)
      refine (tiled_requested h hm hacyclic hmem hout hcol hwin (fun hguard => hguard.2)
        (fun t => t.setMaximized env.geometry window false) hre hset fun hguard hrestores => ?_).mono
          fun _ hpost => ⟨hpost.1, fun _ => hpost.2⟩
      refine ScrollingSpace.setMaximized_false_column env.geometry hunique hwin fun hmaximized => ?_
      exact hguard ⟨(Option.some.inj hmode).trans hmaximized, hrestores⟩

end Workspace

end Cidre
