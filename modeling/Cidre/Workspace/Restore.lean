/-
  Cidre.Workspace.Restore

  Whether a window that was fullscreen or maximized comes back to the layout it was in.

  A run keeps book of how each window left the normal mode the last time: whether it
  floated, and whether it was asked to itself or was in a column that was.  What the tile
  of the window keeps is right in the first case, and what it kept before in the other.
-/

import Cidre.Workspace.Active
import Cidre.Workspace.Requests

namespace Cidre

open Cidre.Panic
open Cidre.Floating (FloatingSpace Acyclic acyclic_none)
open Cidre.Layout (ScrollingSpace Column SizingMode)
open Cidre.Utils.Logical

variable {W F : Type} [DecidableEq W]

namespace Workspace

variable {parent : W → Option W} {s s' : Workspace W F} {env : Env W F}

/-! ## The operations -/

/-- The window that is asked to be fullscreen or maximized, or to be so no more. -/
def Op.requests : Op W F → Option W
  | setFullscreen window _ | toggleFullscreen window | setMaximized window _
  | toggleMaximized window => some window
  | _ => none

/-- The window that is asked to be fullscreen or maximized no more. -/
def Op.releases (s : Workspace W F) : Op W F → Option W
  | setFullscreen window false | setMaximized window false => some window
  | toggleFullscreen window =>
      if s.pendingMode window = some .fullscreen then some window else none
  | toggleMaximized window =>
      if (s.scrolling.columns.find? fun col => col.contains window).any Column.isPendingMaximized
      then some window else none
  | _ => none

/-- The window that is asked to float, or not to, and does not yet. -/
def Op.toggles (s : Workspace W F) : Op W F → Option W
  | toggleWindowFloating id => id.orElse fun _ => s.activeWindow
  | setWindowFloating id floating =>
      if s.inFloating id = floating then none else id.orElse fun _ => s.activeWindow
  | _ => none

theorem Op.parents_of_requests {op : Op W F} {window : W} (hrequests : op.requests = some window)
    (parent : W → Option W) : op.parents parent = parent := by
  cases op with
  | setParent => cases hrequests
  | _ => rfl

theorem Op.requests_of_releases {op : Op W F} {window : W} (hreleases : op.releases s = some window) :
    op.requests = some window := by
  cases op with
  | setFullscreen w isFullscreen =>
    cases isFullscreen with
    | true => cases hreleases
    | false => exact hreleases
  | setMaximized w maximize =>
    cases maximize with
    | true => cases hreleases
    | false => exact hreleases
  | toggleFullscreen w | toggleMaximized w =>
    rw [Op.releases] at hreleases
    split at hreleases
    · exact hreleases
    · cases hreleases
  | _ => cases hreleases

theorem Requested.settled {window : W} {floats : Bool} (h : Requested window floats s s')
    {except : W → Prop} (hwindow : except window) : Settled except s s' :=
  ⟨h.modes, fun w _ hnot => h.others w fun heq => hnot (heq ▸ hwindow), fun w hmem hnot _ =>
    (h.floating w fun heq => hnot (heq ▸ hwindow)).mpr hmem⟩

section Step

variable [One F] [BEq F] [LT F] [DecidableLT F] [LE F] [DecidableLE F]

theorem Op.run_requested (h : s.Sound env.parent) (hm : s.Modes) (hacyclic : Acyclic env.parent)
    {op : Op W F} (hvalid : op.Valid env s) {window : W} (hrequests : op.requests = some window) :
    Ensures (op.run env s) fun s' => Requested window (s.floating.hasWindow window) s s' ∧
      (op.releases s = some window → Released window s s') := by
  cases op with
  | setFullscreen w isFullscreen =>
    cases hrequests
    refine (setFullscreen_requested h hm hacyclic hvalid isFullscreen).mono ?_
    rintro s' ⟨hrequested, hreleased⟩
    refine ⟨hrequested, fun hreleases => hreleased ?_⟩
    cases isFullscreen with
    | true => cases hreleases
    | false => rfl
  | setMaximized w maximize =>
    cases hrequests
    refine (setMaximized_requested h hm hacyclic hvalid maximize).mono ?_
    rintro s' ⟨hrequested, hreleased⟩
    refine ⟨hrequested, fun hreleases => hreleased ?_⟩
    cases maximize with
    | true => cases hreleases
    | false => rfl
  | toggleFullscreen w =>
    cases hrequests
    refine (ensures_self _).bind fun tile htile => ?_
    refine (setFullscreen_requested h hm hacyclic hvalid _).mono ?_
    rintro s' ⟨hrequested, hreleased⟩
    refine ⟨hrequested, fun hreleases => hreleased ?_⟩
    have hmode : s.pendingMode window = some tile.pendingSizingMode := by
      rw [pendingMode, htile]
      rfl
    rw [Op.releases, hmode] at hreleases
    by_contra hne
    rw [if_neg] at hreleases
    · cases hreleases
    · exact fun heq => hne (decide_eq_false fun hnot => hnot (Option.some.inj heq))
  | toggleMaximized w =>
    cases hrequests
    refine (setMaximized_requested h hm hacyclic hvalid _).mono ?_
    rintro s' ⟨hrequested, hreleased⟩
    refine ⟨hrequested, fun hreleases => hreleased ?_⟩
    rw [Op.releases] at hreleases
    by_contra hne
    rw [if_neg] at hreleases
    · cases hreleases
    · exact fun heq => hne (by rw [heq]; rfl)
  | _ => cases hrequests

/-- An operation leaves what is not its own to change. -/
theorem Op.run_settled (h : s.Sound parent) (hm : s.Modes) (hacyclic : Acyclic env.parent)
    {op : Op W F} (hparent : env.parent = op.parents parent) (hvalid : op.Valid env s) :
    Ensures (op.run env s)
      (Settled (fun w => op.toggles s = some w ∨ op.requests = some w) s) := by
  have hasked : ∀ {window : W}, env.parent = parent → op.requests = some window →
      Ensures (op.run env s)
        (Settled (fun w => op.toggles s = some w ∨ op.requests = some w) s) :=
    fun hsame hrequests => (Op.run_requested (hsame ▸ h) hm hacyclic hvalid hrequests).mono
      fun _ hpost => hpost.1.settled (Or.inr hrequests)
  cases op with
  | setParent window newParent =>
    refine ((FloatingSpace.parentChanged_normal hm.floating newParent).and
      (h.floating.parentChanged_ids env.parent newParent).ensures).bind ?_
    rintro f ⟨hnormal, hids⟩
    exact ensures_pure (Settled.withFloating _ hm hnormal fun _ hmem => hids.mem_iff.mpr hmem)
  | setFullscreen window isFullscreen | toggleFullscreen window | setMaximized window maximize
  | toggleMaximized window => exact hasked hparent rfl
  | addTile tile target activate width isFullWidth isFloating =>
    exact addTile_settled _ (hparent ▸ h) hm hvalid.1 target activate width isFullWidth isFloating
  | addTileToColumn colIdx tileIdx tile activate =>
    exact addTileToColumn_settled _ hm hvalid.1 colIdx tileIdx activate
  | removeTile id => exact (removeTile_settled _ (hparent ▸ h) hm id).map fun _ hp => hp
  | removeActiveTile => exact (removeActiveTile_settled _ (hparent ▸ h) hm).map fun _ hp => hp
  | removeActiveColumn => exact (removeActiveColumn_settled _ hm).map fun _ hp => hp.2
  | toggleWindowFloating id =>
    exact (toggleWindowFloating_toggled (hparent ▸ h) hm id).mono
      fun _ htoggled => htoggled.settled _ fun _ heq => Or.inl heq
  | setWindowFloating id floating =>
    refine setWindowFloating_settled _ (hparent ▸ h) hm id floating fun hne window heq => Or.inl ?_
    rw [Op.toggles, if_neg hne, heq]
  | focusFloating => exact ensures_some (focusFloating_settled _ hm)
  | focusTiling => exact ensures_some (focusTiling_settled _ hm)
  | switchFocusFloatingTiling => exact ensures_some (switchFocus_settled _ hm)
  | activateWindow window =>
    exact (activateWindow_settled _ (hparent ▸ h) hm window).map fun _ hp => hp
  | activateWindowWithoutRaising window =>
    exact (activateWindowWithoutRaising_settled _ hm window).map fun _ hp => hp
  | moveFloatingWindow id x y => exact moveFloatingWindow_settled _ (hparent ▸ h) hm id x y
  | call c => exact call_settled _ (hparent ▸ h) hm
  | focusColumnRightOrFirst | focusColumnLeftOrLast | focusWindowDownOrTop
  | focusWindowUpOrBottom => exact focusOr_settled _ (hparent ▸ h) hm _ _ _
  | focusColumn index => exact focusColumn_settled _ hm index
  | gesture g => exact gesture_settled _ hm g
  | updateConfig options workingArea tileSize =>
    exact updateConfig_settled _ (hparent ▸ h) hm options workingArea tileSize
  | tilesMut f g =>
    obtain ⟨hf, hg⟩ := hvalid
    obtain ⟨-, hids⟩ := h.floating.tilesMut (fun tile => (hg tile).1) fun tile => (hg tile).2.1
    refine ensures_some (Settled.of_kept ⟨?_, ?_⟩ (fun _ _ => rfl) fun _ hmem => hids ▸ hmem)
    · exact ScrollingSpace.tilesMut_uniform hm.scrolling fun tile => (hf tile).2
    · exact FloatingSpace.tilesMut_normal hm.floating fun tile => (hg tile).2.2

end Step

/-! ## The book -/

/-- How a window left the normal mode the last time. -/
structure Departure where
  wasFloating : Bool
  /-- it was asked to leave itself, and not along with others of its column -/
  byItself : Bool
deriving DecidableEq, Repr

/-- The book after a step.  A window that was asked to float or not to, or that was not
    there all along, has no entry. -/
def record (toggled requested : Option W) (s s' : Workspace W F) (left : W → Option Departure)
    (window : W) : Option Departure :=
  if toggled = some window ∨ window ∉ s.windows ∨ window ∉ s'.windows then none
  else if s.pendingMode window = some .normal ∧ s'.pendingMode window ≠ some .normal then
    some ⟨s.floating.hasWindow window, requested = some window⟩
  else left window

/-- What a tile keeps is what its window left, if it left by itself.  If it did not, it was
    tiled. -/
def Remembers (s : Workspace W F) (left : W → Option Departure) : Prop :=
  ∀ window d, left window = some d → s.pendingMode window ≠ some .normal →
    if d.byItself then s.restores window = d.wasFloating else d.wasFloating = false

theorem Remembers.record {left : W → Option Departure} (h : Remembers s left)
    (hs' : s'.Intact parent) {toggled requested : Option W}
    (hsettled : Settled (fun w => toggled = some w ∨ requested = some w) s s')
    (hrequested : ∀ window, requested = some window →
      Requested window (s.floating.hasWindow window) s s') :
    Remembers s' (record toggled requested s s' left) := by
  intro window d hd hafter
  rw [Workspace.record] at hd
  split at hd
  · cases hd
  · next hthere =>
    rw [not_or, not_or, not_not, not_not] at hthere
    obtain ⟨htoggled, hmem, hmem'⟩ := hthere
    split at hd
    · next hleft =>
      cases hd
      by_cases hasked : requested = some window
      · show if decide (requested = some window) then _ else _
        rw [if_pos (decide_eq_true hasked), (hrequested window hasked).restores, if_pos hleft]
      · show if decide (requested = some window) then _ else _
        rw [if_neg fun h => hasked (of_decide_eq_true h)]
        -- A window that floats is normal, and would float still.
        show s.floating.hasWindow window = false
        by_contra hin
        have hfloats := FloatingSpace.hasWindow_iff.mp (eq_true_of_ne_false hin)
        have hfloats' := hsettled.floating window hfloats (not_or.mpr ⟨htoggled, hasked⟩) hmem'
        exact hafter (hs'.pendingMode_of_floating hsettled.modes hfloats')
    · next hstays =>
      have hbefore : s.pendingMode window ≠ some .normal := fun hnormal => hstays ⟨hnormal, hafter⟩
      have hkept : s'.restores window = s.restores window := by
        by_cases hasked : requested = some window
        · rw [(hrequested window hasked).restores, if_neg hstays]
        · exact hsettled.restores window hmem (not_or.mpr ⟨htoggled, hasked⟩)
      rw [hkept]
      exact h window d hd hbefore

/-! ## Runs -/

section Runs

variable [One F] [BEq F] [LT F] [DecidableLT F] [LE F] [DecidableLE F]

/-- The workspaces that operations lead to, with the book of the run. -/
inductive Traced : (W → Option W) → Workspace W F → (W → Option Departure) → Prop where
  | new {parent : W → Option W} (options : Layout.Options F) (workingArea : Rectangle)
      (kept : W → Kept) (hacyclic : Acyclic parent) :
      Traced parent (new options workingArea kept) fun _ => none
  | step {parent : W → Option W} {s s' : Workspace W F} {left : W → Option Departure}
      (env : Env W F) (op : Op W F) (h : Traced parent s left)
      (hparent : env.parent = op.parents parent) (hvalid : op.Valid env s)
      (hrun : op.run env s = some s') :
      Traced env.parent s' (record (op.toggles s) op.requests s s' left)
  | addColumn {parent : W → Option W} {s s' t t' : Workspace W F} {column : Column W F}
      {left left' : W → Option Departure} (env env' : Env W F) (activate : Bool)
      (ht : Traced env'.parent t left') (hrem : t.removeActiveColumn env' = some (some column, t'))
      (h : Traced parent s left) (hparent : env.parent = parent)
      (hnew : ∀ id ∈ column.ids, id ∉ s.windows)
      (hrun : s.addColumn env column t.kept activate = some s') :
      Traced env.parent s' (record none none s s' left)

theorem Traced.reachable {left : W → Option Departure} (h : Traced parent s left) :
    Reachable parent s := by
  induction h with
  | new options workingArea kept hacyclic => exact Reachable.new options workingArea kept hacyclic
  | step env op _ hparent hvalid hrun ih => exact Reachable.step env op ih hparent hvalid hrun
  | addColumn env env' activate _ hrem _ hparent hnew hrun iht ih =>
    exact Reachable.addColumn env env' activate iht hrem ih hparent hnew hrun

theorem Traced.remembers {left : W → Option Departure} (h : Traced parent s left) :
    s.Modes ∧ Remembers s left := by
  induction h with
  | new options workingArea kept hacyclic =>
    exact ⟨⟨fun _ hcol => (List.not_mem_nil hcol).elim, fun _ htile =>
      (List.not_mem_nil htile).elim⟩, nofun⟩
  | step env op h hparent hvalid hrun ih =>
    obtain ⟨hacyclic, hsound⟩ := h.reachable.sound
    have hacyclic' := hvalid.acyclic hacyclic hparent
    have hsound' := (Op.run_returns hsound hacyclic' hparent hvalid).of_eq hrun
    have hsettled := Op.run_settled hsound ih.1 hacyclic' hparent hvalid _ hrun
    refine ⟨hsettled.modes, ih.2.record hsound'.toIntact hsettled fun window hasked => ?_⟩
    have hsame := hparent.trans (Op.parents_of_requests hasked _)
    exact (Op.run_requested (hsame ▸ hsound) ih.1 hacyclic' hvalid hasked _ hrun).1
  | addColumn env env' activate ht hrem h hparent hnew hrun iht ih =>
    have hcolumn := (removeActiveColumn_settled (fun _ => False) iht.1 _ hrem).1 _ rfl
    have hsound' := (Reachable.addColumn env env' activate ht.reachable hrem h.reachable hparent
      hnew hrun).sound.2
    have hsettled := addColumn_settled (fun w => none = some w ∨ none = some w) ih.1 hcolumn hnew
      _ activate _ hrun
    exact ⟨hsettled.modes, ih.2.record hsound'.toIntact hsettled nofun⟩

/-- A window that is released to the normal mode is in the layout it left if and only if
    the word its tile keeps is from then and it is asked for, or is not and it is not. -/
theorem Traced.restores_layout {left : W → Option Departure} (h : Traced parent s left)
    (env : Env W F) (op : Op W F) (hparent : env.parent = op.parents parent)
    (hvalid : op.Valid env s) {released : W} (hreleases : op.releases s = some released) :
    Returns (op.run env s) fun s' => ∀ window d, left window = some d →
      s.pendingMode window ≠ some .normal → s'.pendingMode window = some .normal →
        ((window ∈ s'.floating.ids ↔ d.wasFloating = true) ↔
          (s.restores window = true → (d.byItself = true ↔ window = released))) := by
  obtain ⟨hacyclic, hsound⟩ := h.reachable.sound
  obtain ⟨hmodes, hremembers⟩ := h.remembers
  have hacyclic' := hvalid.acyclic hacyclic hparent
  have hasked := Op.requests_of_releases hreleases
  have hsame := hparent.trans (Op.parents_of_requests hasked _)
  refine ((Op.run_returns hsound hacyclic' hparent hvalid).with
    (Op.run_requested (hsame ▸ hsound) hmodes hacyclic' hvalid hasked)).mono ?_
  rintro s' ⟨-, hrequested, hreleased⟩ window d hd hbefore hafter
  have hword := hremembers window d hd hbefore
  by_cases heq : window = released
  · subst heq
    rw [hreleased hreleases hbefore hafter]
    cases hitself : d.byItself with
    | true =>
      rw [hitself, if_pos rfl] at hword
      simp [hword]
    | false =>
      rw [hitself, if_neg Bool.false_ne_true] at hword
      simp [hword]
  · have hout : window ∉ s'.floating.ids := fun hin =>
      hsound.toIntact.not_floating hmodes hbefore ((hrequested.floating window heq).mp hin)
    cases hitself : d.byItself with
    | true =>
      rw [hitself, if_pos rfl] at hword
      simp [hout, hword, heq]
    | false =>
      rw [hitself, if_neg Bool.false_ne_true] at hword
      simp [hout, hword, heq]

end Runs

/-! ## A word that is left from before -/

/-- The window 8 is fullscreen out of the floating layout, and is put into the tabbed column
    of the window 7, where it is normal.  It goes fullscreen along with 7 from there, and
    floats as it is asked to be normal. -/
theorem tab_floats_again :
    ∃ (s s' : Workspace Nat Nat) (left : Nat → Option Departure),
      Traced (fun _ => none) s left ∧ left 8 = some ⟨false, false⟩ ∧
        s.pendingMode 8 = some .fullscreen ∧
        Op.run desk s (.setFullscreen 8 false) = some s' ∧ s'.pendingMode 8 = some .normal ∧
        8 ∈ s'.floating.ids := by
  have h₀ : Traced _ empty _ := Traced.new _ _ _ acyclic_none
  have h₁ : Traced _ _ _ := Traced.step desk (mapTiled 7) h₀ rfl ⟨List.not_mem_nil, trivial⟩ rfl
  have h₂ : Traced _ _ _ := Traced.step desk (.call (.setColumnDisplay .tabbed)) h₁ rfl nofun rfl
  have h₃ : Traced _ _ _ := Traced.step desk (mapFloating 8 ⟨600, 400⟩) h₂ rfl
    ⟨show 8 ∉ [7] by decide, trivial⟩ rfl
  have h₄ : Traced _ _ _ := Traced.step desk (.setFullscreen 8 true) h₃ rfl
    (show 8 ∈ [7, 8] by decide) rfl
  have h₅ : Traced _ _ _ := Traced.step desk (.call (.consumeOrExpelWindowLeft (some 8))) h₄ rfl
    (fun w hw => Option.some.inj hw ▸ (show 8 ∈ [7, 8] by decide)) rfl
  have h₆ : Traced _ _ _ := Traced.step desk (.setFullscreen 7 true) h₅ rfl
    (show 7 ∈ [7, 8] by decide) rfl
  exact ⟨_, _, _, h₆, rfl, rfl, rfl, rfl, List.mem_singleton_self 8⟩

/-- A window that was fullscreen by itself floats as it did. -/
theorem restores_layout_of_floating :
    ∃ (s s' : Workspace Nat Nat) (left : Nat → Option Departure),
      Traced (fun _ => none) s left ∧ left 8 = some ⟨true, true⟩ ∧ 8 ∉ s.floating.ids ∧
        Op.run desk s (.toggleFullscreen 8) = some s' ∧ 8 ∈ s'.floating.ids := by
  have h₀ : Traced _ empty _ := Traced.new _ _ _ acyclic_none
  have h₁ : Traced _ _ _ := Traced.step desk (mapFloating 8 ⟨600, 400⟩) h₀ rfl
    ⟨List.not_mem_nil, trivial⟩ rfl
  have h₂ : Traced _ _ _ := Traced.step desk (.toggleFullscreen 8) h₁ rfl
    (show 8 ∈ [8] by decide) rfl
  have hrestores := h₂.restores_layout desk (.toggleFullscreen 8) rfl
    (show 8 ∈ [8] by decide) (show _ = some 8 from rfl)
  obtain ⟨s', hrun, hlayout⟩ := hrestores
  refine ⟨_, s', _, h₂, rfl, List.not_mem_nil, hrun, ?_⟩
  obtain rfl := Option.some.inj ((show Op.run desk _ (.toggleFullscreen 8) = some _ from rfl).symm.trans
    hrun)
  have hiff := (hlayout 8 _ rfl (by decide) rfl).mpr fun _ => ⟨fun _ => rfl, fun _ => rfl⟩
  exact hiff.mpr rfl

end Workspace

end Cidre
