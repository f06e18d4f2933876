/-
  Cidre.Lock.LockedFrame

  What a locked frame depends on.  Two locked compositors that agree on the
  pointer, the lock surfaces and the overlays push the same elements exactly
  when two pieces of session content agree (`locked_render_eq_iff`): the screen
  transition, which is pushed above the lock branch, and what shows through the
  glass of a visible mode HUD or an open action palette, which are drawn with
  xray by default.

  The main step is that each part of the frame can be read off the whole one:
  the elements of one kind are a projection of the pushed list that the debug
  rectangles do not disturb (`filterMap_pushAll`).
-/

import Cidre.Lock.Render

namespace Cidre.Lock

variable {g : Graphics}

/-! ## Xray -/

/-- The same workspaces, background layers and backdrop show behind `geometry`. -/
structure SameBehind (output : Output) (geometry : g.Rect) (x y : Xray g) : Prop where
  pieces : x.pieces geometry = y.pieces geometry
  background : x.pieces geometry ≠ [] → x.background = y.background
  sees : x.seesBackdrop output geometry = y.seesBackdrop output geometry
  backdrop : x.seesBackdrop output geometry = true →
    x.backdrop = y.backdrop ∧ x.backdropColor = y.backdropColor

namespace Xray

variable {x y : Xray g} {output : Output} {geometry : g.Rect} {look : Look}

theorem filter_background (x : Xray g) (output : Output) (geometry : g.Rect) (look : Look) :
    (x.render output geometry look).filter (·.buffer = .background) =
      (x.pieces geometry).map fun piece =>
        { buffer := .background, contents := x.background, placement := piece.1, look := look
          bgColor := piece.2 } := by
  rw [render, List.filter_append, List.filter_eq_self.mpr, List.filter_eq_nil_iff.mpr,
    List.append_nil]
  · intro e he
    split at he
    · rw [List.mem_singleton.mp he]
      simp
    · exact absurd he List.not_mem_nil
  · intro e he
    obtain ⟨piece, -, rfl⟩ := List.mem_map.mp he
    rfl

theorem filter_backdrop (x : Xray g) (output : Output) (geometry : g.Rect) (look : Look) :
    (x.render output geometry look).filter (·.buffer = .backdrop) =
      if x.seesBackdrop output geometry then
        [{ buffer := .backdrop, contents := x.backdrop, placement := g.placeBackdrop geometry
           look := look, bgColor := x.backdropColor }]
      else [] := by
  rw [render, List.filter_append, List.filter_eq_nil_iff.mpr, List.nil_append,
    List.filter_eq_self.mpr]
  · intro e he
    split at he
    · rw [List.mem_singleton.mp he]
      rfl
    · exact absurd he List.not_mem_nil
  · intro e he
    obtain ⟨piece, -, rfl⟩ := List.mem_map.mp he
    simp

theorem sameBehind_of_render
    (h : x.render output geometry look = y.render output geometry look) :
    SameBehind output geometry x y := by
  have hback := (filter_background x output geometry look).symm.trans
    ((congrArg _ h).trans (filter_background y output geometry look))
  have hdrop := (filter_backdrop x output geometry look).symm.trans
    ((congrArg _ h).trans (filter_backdrop y output geometry look))
  have hpieces : x.pieces geometry = y.pieces geometry := by
    have hmap := congrArg (List.map fun e => (e.placement, e.bgColor)) hback
    simpa [Function.comp_def] using hmap
  refine ⟨hpieces, fun hne => ?_, ?_, fun hsees => ?_⟩
  · obtain ⟨piece, rest, hcons⟩ := List.exists_cons_of_ne_nil hne
    rw [← hpieces, hcons, List.map_cons, List.map_cons] at hback
    exact congrArg XrayElement.contents (List.cons.inj hback).1
  · cases hx : x.seesBackdrop output geometry <;> cases hy : y.seesBackdrop output geometry <;>
      simp [hx, hy] at hdrop ⊢
  · cases hy : y.seesBackdrop output geometry
    · simp [hsees, hy] at hdrop
    · rw [if_pos hsees, if_pos hy] at hdrop
      have he := (List.cons.inj hdrop).1
      exact ⟨congrArg XrayElement.contents he, congrArg XrayElement.bgColor he⟩

theorem render_of_sameBehind (h : SameBehind output geometry x y) :
    x.render output geometry look = y.render output geometry look := by
  have hfirst : (x.pieces geometry).map (fun piece =>
      ({ buffer := .background, contents := x.background, placement := piece.1, look := look
         bgColor := piece.2 } : XrayElement g)) =
      (y.pieces geometry).map fun piece =>
        { buffer := .background, contents := y.background, placement := piece.1, look := look
          bgColor := piece.2 } := by
    by_cases hne : x.pieces geometry = []
    · rw [← h.pieces, hne]
      rfl
    · rw [← h.pieces, h.background hne]
  rw [render, render, hfirst, ← h.sees]
  congr 1
  split
  · rename_i hsees
    rw [(h.backdrop hsees).1, (h.backdrop hsees).2]
  · rfl

end Xray

/-! ## Glass -/

/-- An overlay resolves its material without an xray setting of its own. -/
theorem Material.resolve_xray {fallback : Effect} (h : fallback.xray = none)
    (m : Option Material) : (Material.resolve fallback m).1.xray = none := by
  cases m with
  | none => exact h
  | some mat => rfl

/-- A visible effect without a setting of its own is drawn with xray. -/
theorem Options.ofEffect_xray {e : Effect} (h : e.xray = none)
    (hvisible : (Options.ofEffect e).isVisible = true) : (Options.ofEffect e).xray = true := by
  rw [Options.ofEffect] at hvisible ⊢
  dsimp only at hvisible ⊢
  split
  · rfl
  · rename_i hnot
    rw [if_neg hnot] at hvisible
    rw [hvisible, h] at hnot
    exact absurd rfl hnot

theorem glassRender_eq_iff {x y : Xray g} {output : Output} {rect : g.Rect} {texture : g.Texture}
    {alpha : g.Alpha} {material : Effect × Blur} {time : Nat} (h : material.1.xray = none) :
    glassRender x output rect texture alpha material time =
        glassRender y output rect texture alpha material time ↔
      ((Options.ofEffect material.1).isVisible = true → SameBehind output rect x y) := by
  unfold glassRender backgroundEffectRender
  by_cases hvisible : (Options.ofEffect material.1).isVisible = true
  · have hxray := Options.ofEffect_xray h hvisible
    simp only [hvisible, hxray, if_true, forall_const]
    constructor
    · intro heq
      have hmap := List.append_cancel_right heq
      have hinj : Function.Injective (GlassElement.backgroundEffect (g := g)) :=
        fun _ _ he => GlassElement.backgroundEffect.inj he
      have hlist := List.map_injective_iff.mpr hinj hmap
      have hinj' : Function.Injective (BackgroundEffectElement.xray (g := g)) :=
        fun _ _ he => BackgroundEffectElement.xray.inj he
      exact Xray.sameBehind_of_render (List.map_injective_iff.mpr hinj' (List.cons.inj hlist).2)
    · intro hsame
      rw [Xray.render_of_sameBehind hsame]
  · simp [hvisible]

namespace Compositor

variable (b : Backend g)

/-- The rectangle of the HUD on an output, when its glass is visible. -/
def hudGlass (s : Compositor g) (output : Output) : Option g.Rect :=
  if (Options.ofEffect (Material.resolve hudFallback s.modeHudMaterial).1).isVisible then
    (s.hudShown b output).map fun shown => b.hudRect shown.1 output
  else none

/-- The rectangle of the palette on an output, when its glass is visible. -/
def paletteGlass (s : Compositor g) (output : Output) : Option g.Rect :=
  if (Options.ofEffect (Material.resolve paletteFallback s.actionPaletteMaterial).1).isVisible then
    (s.paletteShown b output).map fun texture => b.paletteRect texture output
  else none

theorem renderModeHud_eq_iff {s : Compositor g} {output : Output} {x y : Xray g} :
    s.renderModeHud b output x = s.renderModeHud b output y ↔
      ∀ rect, s.hudGlass b output = some rect → SameBehind output rect x y := by
  unfold renderModeHud hudGlass
  cases s.hudShown b output with
  | none => simp
  | some shown =>
    rw [glassRender_eq_iff (Material.resolve_xray rfl _)]
    split <;> simp_all

theorem renderActionPalette_eq_iff {s : Compositor g} {output : Output} {x y : Xray g} :
    s.renderActionPalette b output x = s.renderActionPalette b output y ↔
      ∀ rect, s.paletteGlass b output = some rect → SameBehind output rect x y := by
  unfold renderActionPalette paletteGlass
  cases s.paletteShown b output with
  | none => simp
  | some texture =>
    rw [glassRender_eq_iff (Material.resolve_xray rfl _)]
    split <;> simp_all

/-! ## Reading a part off the frame -/

variable {b}

/-- The debug rectangles are solid colours, so a projection that skips those
    sees the elements alone. -/
theorem filterMap_pushAll {α : Type} {f : OutputRenderElement g → Option α}
    (hf : ∀ e, f (.solidColor e) = none) (s : Compositor g)
    (elements : List (OutputRenderElement g)) :
    (s.pushAll b elements).filterMap f = elements.filterMap f := by
  rw [pushAll]
  split
  · induction elements with
    | nil => rfl
    | cons e es ih =>
      have hregions : ((b.debugRegions e).map fun r =>
          OutputRenderElement.solidColor ⟨some r.1, r.2, g.alphaOne⟩).filterMap f = [] := by
        rw [List.filterMap_eq_nil_iff]
        intro a ha
        obtain ⟨r, -, rfl⟩ := List.mem_map.mp ha
        exact hf _
      rw [List.flatMap_cons, List.filterMap_append, List.filterMap_append, hregions, ih,
        List.nil_append, ← List.filterMap_append]
      rfl
  · rfl

def asTexture : OutputRenderElement g → Option (TextureElement g)
  | .texture e => some e
  | _ => none

def asModeHud : OutputRenderElement g → Option (GlassElement g)
  | .modeHud e => some e
  | _ => none

def asActionPalette : OutputRenderElement g → Option (GlassElement g)
  | .actionPalette e => some e
  | _ => none

variable (s : Compositor g) (output : Output) (scene : OutputScene g) (target : RenderTarget)
  (includePointer : Bool)

/-- A projection that skips pointers sees nothing of the pointer. -/
theorem filterMap_renderPointer {α : Type} {f : OutputRenderElement g → Option α}
    (hf : ∀ c r, f (.pointer c r) = none) :
    (if includePointer && s.pointer.visibility = .visible then s.renderPointer output
      else []).filterMap f = [] := by
  rw [List.filterMap_eq_nil_iff]
  intro e he
  split at he
  · unfold renderPointer at he
    rcases List.mem_append.mp he with he | he
    · split at he
      · exact absurd he List.not_mem_nil
      · obtain ⟨c, -, rfl⟩ := List.mem_map.mp he
        exact hf _ _
      · rw [List.mem_singleton.mp he]
        exact hf _ _
    · split at he
      · exact absurd he List.not_mem_nil
      · obtain ⟨c, -, rfl⟩ := List.mem_map.mp he
        exact hf _ _
  · exact absurd he List.not_mem_nil

/-- What a projection sees of a locked frame when it skips the pointer, the
    dialog, the lock surface and solid colours. -/
theorem filterMap_locked {α : Type} {f : OutputRenderElement g → Option α}
    (hpointer : ∀ c r, f (.pointer c r) = none) (hdialog : ∀ e, f (.exitConfirmDialog e) = none)
    (hwayland : ∀ c, f (.wayland c) = none) (hsolid : ∀ e, f (.solidColor e) = none)
    (hlocked : s.niri.isLocked = true) :
    (s.renderInner b output scene target includePointer).filterMap f =
      (scene.screenTransition.map fun t => t.render s.clock target).toList.filterMap
        (fun e => f (.texture e)) ++
      (s.renderConfigErrorNotification output).filterMap (fun e => f (.texture e)) ++
      (s.renderModeHud b output (scene.xray target)).filterMap (fun e => f (.modeHud e)) ++
      (s.renderActionPalette b output (scene.xray target)).filterMap
        (fun e => f (.actionPalette e)) := by
  have hnone : ∀ {β : Type} (l : List β), l.filterMap (fun _ => (none : Option α)) = [] :=
    fun l => by simp
  rw [renderInner, filterMap_pushAll hsolid, if_pos hlocked, List.filterMap_append]
  have hlock : (renderLock scene).filterMap f = [] := by
    simp only [renderLock, List.filterMap_append, List.filterMap_map, Function.comp_def, hwayland,
      hnone, List.filterMap_cons, hsolid, List.filterMap_nil, List.append_nil]
  rw [hlock, List.append_nil, renderOverlays]
  simp only [List.filterMap_append, filterMap_renderPointer s output includePointer hpointer,
    List.filterMap_map, Function.comp_def, hdialog, hnone, List.nil_append, List.append_nil]

theorem textures_locked (hlocked : s.niri.isLocked = true) :
    (s.renderInner b output scene target includePointer).filterMap asTexture =
      (scene.screenTransition.map fun t => t.render s.clock target).toList ++
        s.renderConfigErrorNotification output := by
  rw [filterMap_locked s output scene target includePointer (fun _ _ => rfl) (fun _ => rfl)
    (fun _ => rfl) (fun _ => rfl) hlocked]
  simp [asTexture]

theorem modeHud_locked (hlocked : s.niri.isLocked = true) :
    (s.renderInner b output scene target includePointer).filterMap asModeHud =
      s.renderModeHud b output (scene.xray target) := by
  rw [filterMap_locked s output scene target includePointer (fun _ _ => rfl) (fun _ => rfl)
    (fun _ => rfl) (fun _ => rfl) hlocked]
  simp [asModeHud]

theorem actionPalette_locked (hlocked : s.niri.isLocked = true) :
    (s.renderInner b output scene target includePointer).filterMap asActionPalette =
      s.renderActionPalette b output (scene.xray target) := by
  rw [filterMap_locked s output scene target includePointer (fun _ _ => rfl) (fun _ => rfl)
    (fun _ => rfl) (fun _ => rfl) hlocked]
  simp [asActionPalette]

/-! ## Locked frames of two compositors -/

/-- The lock surface and the lock colour of an output agree. -/
def SameLock (a b : OutputScene g) : Prop :=
  a.lockSurface = b.lockSurface ∧ a.lockColor = b.lockColor

/-- What the two compositors must agree on: everything drawn on a locked screen
    except session content, and the debug options. -/
structure Agree (s s' : Compositor g) : Prop where
  clock : s'.clock = s.clock
  debugDrawOpaqueRegions : s'.debugDrawOpaqueRegions = s.debugDrawOpaqueRegions
  previewRender : s'.previewRender = s.previewRender
  pointer : s'.pointer = s.pointer
  exitConfirmDialog : s'.exitConfirmDialog = s.exitConfirmDialog
  configErrorNotification : s'.configErrorNotification = s.configErrorNotification
  modeHud : s'.modeHud = s.modeHud
  modeHudMaterial : s'.modeHudMaterial = s.modeHudMaterial
  actionPalette : s'.actionPalette = s.actionPalette
  actionPaletteMaterial : s'.actionPaletteMaterial = s.actionPaletteMaterial
  outputs : ∀ output, Option.Rel SameLock (s.outputs.lookup output) (s'.outputs.lookup output)

/-- Two screen transitions look alike on a target: both are over or never
    began, or they fade the same texture and are equally far. -/
def SameTransition (now : Nat) (target : RenderTarget) :
    Option (ScreenTransition g) → Option (ScreenTransition g) → Prop :=
  Option.Rel fun t t' =>
    t.fromTexture target = t'.fromTexture target ∧ t.alpha now = t'.alpha now

/-- The session content a locked frame shows is the same. -/
structure SameSession (b : Backend g) (s : Compositor g) (output : Output) (target : RenderTarget)
    (scene scene' : OutputScene g) : Prop where
  transition : SameTransition s.clock target scene.screenTransition scene'.screenTransition
  hud : ∀ rect, s.hudGlass b output = some rect →
    SameBehind output rect (scene.xray target) (scene'.xray target)
  palette : ∀ rect, s.paletteGlass b output = some rect →
    SameBehind output rect (scene.xray target) (scene'.xray target)

theorem sameTransition_iff {now : Nat} {target : RenderTarget}
    {t t' : Option (ScreenTransition g)} :
    (t.map fun t => t.render now target) = (t'.map fun t => t.render now target) ↔
      SameTransition now target t t' := by
  rw [SameTransition]
  cases t with
  | none =>
    cases t' with
    | none => exact ⟨fun _ => .none, fun _ => rfl⟩
    | some t' => exact ⟨fun h => by simp at h, fun h => by cases h⟩
  | some t =>
    cases t' with
    | none => exact ⟨fun h => by simp at h, fun h => by cases h⟩
    | some t' =>
      simp only [Option.map_some, Option.some.injEq, ScreenTransition.render,
        TextureElement.mk.injEq, true_and]
      exact ⟨fun h => .some h, fun h => by cases h with | some h => exact h⟩

namespace Agree

variable {s s' : Compositor g}

theorem renderModeHud (h : Agree s s') (b : Backend g) (output : Output) (x : Xray g) :
    s'.renderModeHud b output x = s.renderModeHud b output x := by
  unfold Compositor.renderModeHud hudShown
  rw [h.modeHud, h.modeHudMaterial, h.clock]

theorem renderActionPalette (h : Agree s s') (b : Backend g) (output : Output) (x : Xray g) :
    s'.renderActionPalette b output x = s.renderActionPalette b output x := by
  unfold Compositor.renderActionPalette paletteShown
  rw [h.actionPalette, h.actionPaletteMaterial, h.clock]

theorem renderConfigErrorNotification (h : Agree s s') (output : Output) :
    s'.renderConfigErrorNotification output = s.renderConfigErrorNotification output := by
  unfold Compositor.renderConfigErrorNotification
  rw [h.configErrorNotification]

theorem effectiveTarget (h : Agree s s') (target : RenderTarget) :
    s'.effectiveTarget target = s.effectiveTarget target := by
  unfold Compositor.effectiveTarget
  rw [h.previewRender]

/-- A locked frame of one output is the same exactly when the session content it
    shows is. -/
theorem renderInner_eq_iff (h : Agree s s') (b : Backend g) (hs : s.niri.isLocked = true)
    (hs' : s'.niri.isLocked = true) {output : Output} {scene scene' : OutputScene g}
    (hlock : SameLock scene scene') {target : RenderTarget} {includePointer : Bool} :
    s.renderInner b output scene target includePointer =
        s'.renderInner b output scene' target includePointer ↔
      SameSession b s output target scene scene' := by
  constructor
  · intro heq
    refine ⟨?_, ?_, ?_⟩
    · have htexture := congrArg (List.filterMap asTexture) heq
      rw [textures_locked _ _ _ _ _ hs, textures_locked _ _ _ _ _ hs',
        h.renderConfigErrorNotification, h.clock] at htexture
      have hhead := congrArg List.head? (List.append_cancel_right htexture)
      rw [Option.head?_toList, Option.head?_toList] at hhead
      exact sameTransition_iff.mp hhead
    · have hhud := congrArg (List.filterMap asModeHud) heq
      rw [modeHud_locked _ _ _ _ _ hs, modeHud_locked _ _ _ _ _ hs', h.renderModeHud] at hhud
      exact (renderModeHud_eq_iff b).mp hhud
    · have hpalette := congrArg (List.filterMap asActionPalette) heq
      rw [actionPalette_locked _ _ _ _ _ hs, actionPalette_locked _ _ _ _ _ hs',
        h.renderActionPalette] at hpalette
      exact (renderActionPalette_eq_iff b).mp hpalette
  · rintro ⟨htransition, hhud, hpalette⟩
    have hoverlays : s'.renderOverlays b output scene' target includePointer =
        s.renderOverlays b output scene target includePointer := by
      unfold renderOverlays renderPointer renderExitConfirmDialog
      dsimp only
      rw [h.renderModeHud, h.renderActionPalette, h.renderConfigErrorNotification, h.pointer,
        h.exitConfirmDialog, h.clock, sameTransition_iff.mpr htransition,
        (renderModeHud_eq_iff b).mpr hhud, (renderActionPalette_eq_iff b).mpr hpalette]
    have hlocks : renderLock scene' = renderLock scene := by
      unfold renderLock
      rw [hlock.1, hlock.2]
    unfold renderInner pushAll
    rw [if_pos hs, if_pos hs', hoverlays, hlocks, h.debugDrawOpaqueRegions]

end Agree

/-- Two locked compositors that agree on everything but session content push the
    same elements on every output exactly when, on every output and for every
    target, their screen transitions look alike and the same session content
    stands behind the glass of the mode HUD and the action palette. -/
theorem locked_render_eq_iff (b : Backend g) {s s' : Compositor g} (h : Agree s s')
    (hs : s.niri.isLocked = true) (hs' : s'.niri.isLocked = true) :
    (∀ output target includePointer,
      s.render b output target includePointer = s'.render b output target includePointer) ↔
    ∀ output scene scene', s.outputs.lookup output = some scene →
      s'.outputs.lookup output = some scene' →
      ∀ target, SameSession b s output (s.effectiveTarget target) scene scene' := by
  constructor
  · intro heq output scene scene' hscene hscene' target
    have hrel := h.outputs output
    rw [hscene, hscene'] at hrel
    cases hrel with
    | some hlock =>
      have hrender := heq output target true
      unfold render at hrender
      rw [hscene, hscene', h.effectiveTarget] at hrender
      exact (h.renderInner_eq_iff b hs hs' hlock).mp (Option.some.inj hrender)
  · intro hsame output target includePointer
    have hrel := h.outputs output
    unfold render
    rw [h.effectiveTarget]
    cases hscene : s.outputs.lookup output with
    | none =>
      rw [hscene] at hrel
      generalize s'.outputs.lookup output = found at hrel
      cases hrel with
      | none => rfl
    | some scene =>
      cases hscene' : s'.outputs.lookup output with
      | none =>
        rw [hscene, hscene'] at hrel
        cases hrel
      | some scene' =>
        rw [hscene, hscene'] at hrel
        cases hrel with
        | some hlock =>
          exact congrArg some ((h.renderInner_eq_iff b hs hs' hlock).mpr
            (hsame output scene scene' hscene hscene' target))

/-! ## A desk in one dimension -/

/-- Graphics in which a rectangle is its width from the origin and a texture is
    what was drawn on it. -/
abbrev flat : Graphics where
  Rect := Nat
  Color := Nat
  Alpha := Nat
  Texture := List Nat
  Content := Nat
  Placement := Nat
  intersection a b := if min a b = 0 then none else some (min a b)
  containsRect a b := b ≤ a
  atOrigin a := a
  isOpaque c := c ≠ 0
  place _ _ crop := crop
  placeBackdrop geometry := geometry
  alphaZero := 0
  alphaOne := 500
  fade elapsed := 500 - elapsed
  outputGeo _ := 1920
  backgroundPrepared := true
  backdropPrepared := true

def flatBackend : Backend flat where
  debugRegions _ := []
  renderToTexture elements := some (elements.filterMap fun
    | .monitor c => some c
    | _ => none)
  hudBox _ _ := none
  paletteBox _ _ := none
  hudRect _ _ := 0
  paletteRect _ _ := 0

/-- A session with one window on one output and no overlay. -/
def desk (window : Nat) : Compositor flat where
  niri := { Niri.new with outputState := [(0, ⟨.unlocked, none⟩)] }
  clock := 1000
  debugDrawOpaqueRegions := false
  previewRender := none
  pointer := ⟨.visible, fun _ => .hidden, fun _ => none⟩
  exitConfirmDialog := ⟨none, fun _ => none⟩
  configErrorNotification := ⟨false, fun _ => none⟩
  modeHud := ⟨.hidden, ""⟩
  modeHudMaterial := none
  actionPalette := ActionPalette.new
  actionPaletteMaterial := none
  hotkeyOverlay _ := none
  windowMruUi _ := []
  screenshotUi _ _ := []
  interactiveMove _ := []
  outputs :=
    [(0, { screenTransition := none, lockSurface := none, lockColor := 1, backdropColor := 2
           workspaces := [⟨1920, 3, fun _ => [window]⟩], renderAboveTopLayer := false
           insertHint := [], shadows := [], layers := [] })]

/-- The session locked while `s` is on the screen, 100 ms later. -/
def lockNow (s : Compositor flat) : Compositor flat :=
  { s with
    niri := { s.niri with lockState := .locked ⟨1, 0⟩ }
    clock := s.clock + 100 }

theorem agree_locked_desk (a b : Nat) : Agree (lockNow (desk a)) (lockNow (desk b)) := by
  refine ⟨rfl, rfl, rfl, rfl, rfl, rfl, rfl, rfl, rfl, rfl, fun output => ?_⟩
  cases output with
  | zero => exact .some ⟨rfl, rfl⟩
  | succ n => exact .none

theorem locked_render_eq_iff_desk :
    Agree (lockNow (desk 7)) (lockNow (desk 8)) ∧
    ∀ output target includePointer,
      (lockNow (desk 7)).render flatBackend output target includePointer =
        (lockNow (desk 8)).render flatBackend output target includePointer := by
  refine ⟨agree_locked_desk 7 8,
    (locked_render_eq_iff flatBackend (agree_locked_desk 7 8) rfl rfl).mpr ?_⟩
  intro output scene scene' hscene hscene' target
  cases output with
  | zero =>
    obtain rfl := Option.some.inj hscene
    obtain rfl := Option.some.inj hscene'
    exact ⟨.none, (fun rect h => by cases h), (fun rect h => by cases h)⟩
  | succ n => cases hscene

/-- A screen transition that is still on when the session is locked shows which
    window was open. -/
theorem locked_render_shows_window :
    ¬ ∀ (g : Graphics) (b : Backend g) (s s' : Compositor g), Agree s s' →
      s.niri.isLocked = true → s'.niri.isLocked = true →
      ∀ output target includePointer,
        s.render b output target includePointer = s'.render b output target includePointer := by
  intro h
  have hagree : Agree (lockNow ((desk 7).doScreenTransition flatBackend none))
      (lockNow ((desk 8).doScreenTransition flatBackend none)) := by
    refine ⟨rfl, rfl, rfl, rfl, rfl, rfl, rfl, rfl, rfl, rfl, fun output => ?_⟩
    cases output with
    | zero => exact .some ⟨rfl, rfl⟩
    | succ n => exact .none
  have heq := h flat flatBackend _ _ hagree rfl rfl 0 .output true
  have htextures := congrArg (Option.map fun frame : List (OutputRenderElement flat) =>
    (frame.filterMap asTexture).map fun e => e.texture) heq
  change (some [[7]] : Option (List (List Nat))) = some [[8]] at htextures
  exact absurd htextures (by decide)

end Compositor

end Cidre.Lock
