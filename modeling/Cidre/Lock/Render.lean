/-
  Cidre.Lock.Render

  What the compositor draws on an output: `Niri::render` and `render_inner`
  (`src/niri.rs`) as the list of elements they push, from the top down, with
  the overlays above the lock branch (`src/ui/`), the glass behind the mode HUD
  and the action palette (`src/render_helpers/background_effect.rs`, `xray.rs`)
  and `do_screen_transition`.

  Geometry and colours are floating point and textures live on the GPU, so they
  are a parameter (`Graphics`, `Backend`): every result holds for whatever
  rounding and drawing they do.  What a window, a layer surface or a surface
  tree draws is opaque content.
-/

import Mathlib.Algebra.Ring.Nat
import Cidre.Lock.Palette
import Cidre.Lock.Session

namespace Cidre.Lock

/-! ## Graphics -/

inductive RenderTarget where
  | output
  | screencast
  | screenCapture
deriving DecidableEq, Repr

inductive Layer where
  | background
  | bottom
  | top
  | overlay
deriving DecidableEq, Repr

/-- Types and operations of the geometry and colour libraries. -/
structure Graphics where
  Rect : Type
  Color : Type
  Alpha : Type
  Texture : Type
  /-- What one surface, tile or decoration draws. -/
  Content : Type
  /-- Where a piece of a buffer is drawn: `geometry`, `src` and
      `input_to_clip_geo`. -/
  Placement : Type
  /-- `Rectangle::intersection`. -/
  intersection : Rect → Rect → Option Rect
  /-- `Rectangle::contains_rect`. -/
  containsRect : Rect → Rect → Bool
  /-- The rectangle of the same size at the origin. -/
  atOrigin : Rect → Rect
  isOpaque : Color → Bool
  /-- The placement of the piece `crop` of a workspace behind `geometry`. -/
  place : (geometry wsGeo crop : Rect) → Placement
  placeBackdrop : (geometry : Rect) → Placement
  alphaZero : Alpha
  alphaOne : Alpha
  /-- `1 - elapsed / DURATION`. -/
  fade : (elapsed : Nat) → Alpha
  /-- The rectangle of an output from its origin. -/
  outputGeo : Output → Rect
  /-- `EffectBuffer::prepare` of the background and the backdrop. -/
  backgroundPrepared : Bool
  backdropPrepared : Bool

/-! ## Background effects -/

/-- `niri_config::BackgroundEffect`, without the foreground options. -/
structure Effect where
  xray : Option Bool := none
  blur : Option Bool := none
  noise : Option Rat := none
  saturation : Option Rat := none
  liquid : Option Bool := none
  refraction : Option Rat := none
  edgeHighlight : Option Rat := none
  specular : Option Rat := none
  chromaticAberration : Option Rat := none
  bloom : Option Rat := none
deriving DecidableEq

/-- `niri_config::Blur`. -/
structure Blur where
  off : Bool := false
  passes : Nat := 3
  offset : Rat := 3
  noise : Rat := 2 / 100
  saturation : Rat := 3 / 2
deriving DecidableEq

/-- `BlurPart` of a material, as far as the overlays read it. -/
structure BlurPart where
  passes : Option Nat
  offset : Option Rat
deriving DecidableEq

/-- A material of the configuration; `refraction`, `specular`, `dispersion` and
    `edgeHighlight` are present without a strength or width as `some none`. -/
structure Material where
  blur : Option BlurPart
  saturation : Option Rat
  noise : Option Rat
  refraction : Option (Option Rat)
  specular : Option (Option Rat)
  dispersion : Option (Option Rat)
  edgeHighlight : Option (Option Rat)
  bloom : Option Rat
deriving DecidableEq

/-- The effect and blur of a material, or the fallback of the overlay. -/
def Material.resolve (fallback : Effect) : Option Material → Effect × Blur
  | some mat =>
      ({ blur := if mat.blur.isSome then some true else none
         saturation := mat.saturation
         noise := mat.noise
         liquid := if mat.refraction.isSome || mat.specular.isSome || mat.dispersion.isSome then
           some true else none
         refraction := mat.refraction.join
         specular := mat.specular.join
         chromaticAberration := mat.dispersion.join
         edgeHighlight := mat.edgeHighlight.join
         bloom := mat.bloom },
       match mat.blur with
       | some blur => { passes := blur.passes.getD 0 % 2 ^ 8, offset := blur.offset.getD 0 }
       | none => {})
  | none => (fallback, { passes := 4, offset := 5 })

/-- `background_effect::Options`. -/
structure Options where
  blur : Bool
  xray : Bool
  noise : Option Rat
  saturation : Option Rat
  liquid : Bool
  refraction : Option Rat
  edgeHighlight : Option Rat
  specular : Option Rat
  chromaticAberration : Option Rat
  bloom : Option Rat
deriving DecidableEq

def Options.isVisible (o : Options) : Bool :=
  o.xray || o.blur || o.noise.any (0 < ·) || o.saturation.any (· ≠ 1) || o.liquid

/-- `update_render_elements` of an overlay, which has no blur region. -/
def Options.ofEffect (e : Effect) : Options :=
  let options : Options :=
    { blur := e.blur = some true
      xray := e.xray = some true
      noise := e.noise
      saturation := e.saturation
      liquid := e.liquid = some true
      refraction := e.refraction
      edgeHighlight := e.edgeHighlight
      specular := e.specular
      chromaticAberration := e.chromaticAberration
      bloom := e.bloom }
  -- Xray is the default of every visible effect.
  if options.isVisible && e.xray.isNone then { options with xray := true } else options

/-- The uniforms of an effect. -/
structure Look where
  options : Options
  blur : Bool
  noise : Rat
  saturation : Rat
  time : Nat
deriving DecidableEq

def Look.of (options : Options) (config : Blur) (time : Nat) : Look :=
  let blur := options.blur && !config.off
  { options := options
    blur := blur
    noise := options.noise.getD (if blur then config.noise else 0)
    saturation := options.saturation.getD (if blur then config.saturation else 1)
    time := time }

/-! ## Elements -/

section
variable (g : Graphics)

structure TextureElement where
  texture : g.Texture
  /-- `none` is the origin of the output. -/
  location : Option g.Rect
  alpha : g.Alpha

structure SolidColorElement where
  /-- `none` is the whole output. -/
  area : Option g.Rect
  color : g.Color
  alpha : g.Alpha

/-- The two buffers of `Xray`. -/
inductive XrayBuffer where
  | background
  | backdrop
deriving DecidableEq

structure XrayElement where
  buffer : XrayBuffer
  /-- The elements the buffer was filled with. -/
  contents : List g.Content
  placement : g.Placement
  look : Look
  bgColor : g.Color

inductive BackgroundEffectElement where
  | framebufferEffect (geometry : g.Rect) (look : Look)
  | xray (e : XrayElement g)
  | extraDamage (geometry : g.Rect)

/-- Elements of the mode HUD and the action palette. -/
inductive GlassElement where
  | texture (e : TextureElement g)
  | backgroundEffect (e : BackgroundEffectElement g)

inductive ExitConfirmDialogElement where
  | texture (e : TextureElement g) (scale : g.Alpha)
  | solidColor (alpha : g.Alpha)

inductive OutputRenderElement where
  | monitor (c : g.Content)
  | rescaledTile (c : g.Content)
  | layerSurface (c : g.Content)
  | relocatedLayerSurface (workspace : g.Rect) (c : g.Content)
  | relocatedColor (workspace : g.Rect) (color : g.Color)
  | pointer (c : g.Content) (location : g.Rect)
  | wayland (c : g.Content)
  | solidColor (e : SolidColorElement g)
  | screenshotUi (c : g.Content)
  | windowMruUi (c : g.Content)
  | exitConfirmDialog (e : ExitConfirmDialogElement g)
  | modeHud (e : GlassElement g)
  | actionPalette (e : GlassElement g)
  | texture (e : TextureElement g)

/-- What the GPU and the text renderer do with elements and overlays. -/
structure Backend where
  /-- The rectangles `push_opaque_regions` draws for an element. -/
  debugRegions : OutputRenderElement g → List (g.Rect × g.Color)
  /-- `render_to_texture`; `none` is an error. -/
  renderToTexture : List (OutputRenderElement g) → Option g.Texture
  /-- The text box of the HUD at the scale of an output. -/
  hudBox : String → Output → Option g.Texture
  paletteBox : ActionPalette → Output → Option g.Texture
  /-- Where a box of that texture stands on the output. -/
  hudRect : g.Texture → Output → g.Rect
  paletteRect : g.Texture → Output → g.Rect

/-! ## State -/

structure ScreenTransition where
  fromTexture : RenderTarget → g.Texture
  startAt : Nat

structure LayerSurface where
  layer : Layer
  placeWithinBackdrop : Bool
  normal : RenderTarget → List g.Content
  popups : RenderTarget → List g.Content

structure Workspace where
  geo : g.Rect
  background : g.Color
  windows : RenderTarget → List g.Content

/-- `OutputState` with the monitor and the layer map of the output. -/
structure OutputScene where
  screenTransition : Option (ScreenTransition g)
  /-- The surface tree of the lock surface. -/
  lockSurface : Option (List g.Content)
  lockColor : g.Color
  backdropColor : g.Color
  workspaces : List (Workspace g)
  renderAboveTopLayer : Bool
  insertHint : List g.Content
  shadows : List g.Content
  /-- In render order. -/
  layers : List (LayerSurface g)

inductive PointerVisibility where
  | visible
  | hidden
  | disabled
deriving DecidableEq, Repr

inductive RenderCursor where
  | hidden
  | surface (tree : List g.Content) (location : g.Rect)
  | named (icon : g.Content) (location : g.Rect)

structure Pointer where
  visibility : PointerVisibility
  cursor : Output → RenderCursor g
  dndIcon : Output → Option (List g.Content × g.Rect)

structure ExitConfirmDialog where
  /-- `value` and `clamped_value` of the animation, `none` when hidden. -/
  state : Option (g.Alpha × g.Alpha)
  buffer : Output → Option (g.Texture × g.Rect)

structure ConfigErrorNotification where
  shown : Bool
  buffer : Output → Option (g.Texture × g.Rect)

inductive ModeHudState where
  | hidden
  | showing (value : g.Alpha)
  | shown
  | hiding (value : g.Alpha)

structure ModeHud where
  state : ModeHudState g
  text : String

/-- The state `render` reads. -/
structure Compositor where
  niri : Niri
  clock : Nat
  debugDrawOpaqueRegions : Bool
  previewRender : Option RenderTarget
  pointer : Pointer g
  exitConfirmDialog : ExitConfirmDialog g
  configErrorNotification : ConfigErrorNotification g
  modeHud : ModeHud g
  modeHudMaterial : Option Material
  actionPalette : ActionPalette
  actionPaletteMaterial : Option Material
  hotkeyOverlay : Output → Option (g.Texture × g.Rect)
  windowMruUi : Output → List g.Content
  screenshotUi : Output → RenderTarget → List g.Content
  interactiveMove : Output → List g.Content
  outputs : List (Output × OutputScene g)

end

variable {g : Graphics}

/-! ## The screen transition -/

/-- `screen_transition::DELAY` and `DURATION`, in milliseconds. -/
def transitionDelay : Nat := 250

def transitionDuration : Nat := 500

def ScreenTransition.alpha (t : ScreenTransition g) (now : Nat) : g.Alpha :=
  if t.startAt + transitionDuration ≤ now then g.alphaZero
  else if t.startAt ≤ now then g.fade (now - t.startAt)
  else g.alphaOne

def ScreenTransition.render (t : ScreenTransition g) (now : Nat) (target : RenderTarget) :
    TextureElement g :=
  { texture := t.fromTexture target, location := none, alpha := t.alpha now }

/-! ## Xray -/

structure Xray (g : Graphics) where
  background : List g.Content
  backdrop : List g.Content
  backdropColor : g.Color
  workspaces : List (g.Rect × g.Color)

def OutputScene.layersOn (scene : OutputScene g) (layer : Layer) (forBackdrop : Bool) :
    List (LayerSurface g) :=
  scene.layers.filter fun l => l.layer = layer && l.placeWithinBackdrop == forBackdrop

def OutputScene.layerNormal (scene : OutputScene g) (target : RenderTarget) (layer : Layer)
    (forBackdrop : Bool) : List g.Content :=
  (scene.layersOn layer forBackdrop).flatMap fun l => l.normal target

def OutputScene.layerPopups (scene : OutputScene g) (target : RenderTarget) (layer : Layer)
    (forBackdrop : Bool) : List g.Content :=
  (scene.layersOn layer forBackdrop).flatMap fun l => l.popups target

/-- `update_xray_render_elements` and `fill_xray_elements`. -/
def OutputScene.xray (scene : OutputScene g) (target : RenderTarget) : Xray g :=
  { background := scene.layerNormal target .background false
    backdrop := scene.layerNormal target .background true
    backdropColor := scene.backdropColor
    workspaces := scene.workspaces.map fun ws => (ws.geo, ws.background) }

namespace Xray

variable (x : Xray g) (output : Output) (geometry : g.Rect)

/-- The part of a workspace behind the geometry. -/
def crop (ws : g.Rect × g.Color) : Option g.Rect :=
  if g.isOpaque ws.2 && g.containsRect ws.1 (g.atOrigin geometry) then some (g.atOrigin geometry)
  else g.intersection ws.1 (g.atOrigin geometry)

/-- An opaque workspace that hides the backdrop. -/
def covers (ws : g.Rect × g.Color) : Bool :=
  g.isOpaque ws.2 &&
    (g.containsRect ws.1 (g.atOrigin geometry) ||
      ((crop geometry ws).any fun c =>
        (g.intersection (g.outputGeo output) (g.atOrigin geometry)).any (g.containsRect c)))

/-- `skip_backdrop` at the end of the loop over the workspaces. -/
def skipBackdrop : Bool :=
  (g.intersection (g.outputGeo output) (g.atOrigin geometry)).isNone ||
    (g.backgroundPrepared && x.workspaces.any (covers output geometry))

/-- The pieces of workspaces behind the geometry, with their colours. -/
def pieces : List (g.Placement × g.Color) :=
  if g.backgroundPrepared then
    x.workspaces.filterMap fun ws =>
      (crop geometry ws).map fun c => (g.place geometry ws.1 c, ws.2)
  else []

/-- The backdrop is drawn behind the geometry. -/
def seesBackdrop : Bool := !x.skipBackdrop output geometry && g.backdropPrepared

def render (look : Look) : List (XrayElement g) :=
  (x.pieces geometry).map (fun piece =>
    { buffer := .background, contents := x.background, placement := piece.1, look := look
      bgColor := piece.2 }) ++
  if x.seesBackdrop output geometry then
    [{ buffer := .backdrop, contents := x.backdrop, placement := g.placeBackdrop geometry
       look := look, bgColor := x.backdropColor }]
  else []

end Xray

/-- `BackgroundEffect::render`. -/
def backgroundEffectRender (x : Xray g) (output : Output) (geometry : g.Rect) (options : Options)
    (config : Blur) (time : Nat) : List (BackgroundEffectElement g) :=
  if options.isVisible then
    let look := Look.of options config time
    if options.xray then
      .extraDamage geometry :: (x.render output geometry look).map .xray
    else [.framebufferEffect geometry look]
  else []

/-! ## The overlays -/

/-- A box with a glass background: the tail of `ModeHud::render` and of
    `ActionPalette::render`. -/
def glassRender (x : Xray g) (output : Output) (rect : g.Rect) (texture : g.Texture)
    (alpha : g.Alpha) (material : Effect × Blur) (time : Nat) : List (GlassElement g) :=
  (backgroundEffectRender x output rect (Options.ofEffect material.1) material.2 time).map
    .backgroundEffect ++ [.texture ⟨texture, some rect, alpha⟩]

def ModeHudState.clampedValue : ModeHudState g → Option g.Alpha
  | .hidden => none
  | .showing value | .hiding value => some value
  | .shown => some g.alphaOne

def hudFallback : Effect :=
  { blur := some true, saturation := some (120 / 100), noise := some (10 / 1000)
    liquid := some true, refraction := some (10 / 1000), specular := some (8 / 100)
    edgeHighlight := some (5 / 100) }

def paletteFallback : Effect :=
  { blur := some true, saturation := some (120 / 100), noise := some (10 / 1000)
    liquid := some true, refraction := some (12 / 1000), specular := some (12 / 100)
    edgeHighlight := some (6 / 100) }

namespace Compositor

variable (b : Backend g) (s : Compositor g) (output : Output)

/-- The texture and opacity of the HUD on an output, when it is drawn. -/
def hudShown : Option (g.Texture × g.Alpha) :=
  s.modeHud.state.clampedValue.bind fun alpha =>
    (b.hudBox s.modeHud.text output).map fun texture => (texture, alpha)

def renderModeHud (x : Xray g) : List (GlassElement g) :=
  match s.hudShown b output with
  | none => []
  | some (texture, alpha) =>
      glassRender x output (b.hudRect texture output) texture alpha
        (Material.resolve hudFallback s.modeHudMaterial) s.clock

/-- The texture of the palette on an output, when it is drawn. -/
def paletteShown : Option g.Texture :=
  if s.actionPalette.isOpen then b.paletteBox s.actionPalette output else none

def renderActionPalette (x : Xray g) : List (GlassElement g) :=
  match s.paletteShown b output with
  | none => []
  | some texture =>
      glassRender x output (b.paletteRect texture output) texture g.alphaOne
        (Material.resolve paletteFallback s.actionPaletteMaterial) s.clock

def renderPointer : List (OutputRenderElement g) :=
  (match s.pointer.cursor output with
    | .hidden => []
    | .surface tree location => tree.map (.pointer · location)
    | .named icon location => [.pointer icon location]) ++
  match s.pointer.dndIcon output with
    | none => []
    | some (tree, location) => tree.map (.pointer · location)

def renderExitConfirmDialog : List (ExitConfirmDialogElement g) :=
  match s.exitConfirmDialog.state, s.exitConfirmDialog.buffer output with
  | some (value, clamped), some (texture, location) =>
      [.texture ⟨texture, some location, clamped⟩ value, .solidColor clamped]
  | _, _ => []

def renderConfigErrorNotification : List (TextureElement g) :=
  if s.configErrorNotification.shown then
    match s.configErrorNotification.buffer output with
    | some (texture, location) => [⟨texture, some location, g.alphaOne⟩]
    | none => []
  else []

/-! ## `render` -/

/-- The elements above the lock branch. -/
def renderOverlays (scene : OutputScene g) (target : RenderTarget) (includePointer : Bool) :
    List (OutputRenderElement g) :=
  let x := scene.xray target
  (if includePointer && s.pointer.visibility = .visible then s.renderPointer output else []) ++
  ((scene.screenTransition.map fun t => t.render s.clock target).toList.map .texture) ++
  (s.renderExitConfirmDialog output).map .exitConfirmDialog ++
  (s.renderConfigErrorNotification output).map .texture ++
  (s.renderModeHud b output x).map .modeHud ++
  (s.renderActionPalette b output x).map .actionPalette

/-- The lock surface over the lock colour. -/
def renderLock (scene : OutputScene g) : List (OutputRenderElement g) :=
  (scene.lockSurface.getD []).map .wayland ++
    [.solidColor ⟨none, scene.lockColor, g.alphaOne⟩]

/-- The session below the lock branch. -/
def renderSession (scene : OutputScene g) (target : RenderTarget) :
    List (OutputRenderElement g) :=
  let backdrop := OutputRenderElement.solidColor ⟨none, scene.backdropColor, g.alphaOne⟩
  let popups (layer : Layer) : List (OutputRenderElement g) :=
    (scene.layerPopups target layer false).map .layerSurface
  let normal (layer : Layer) : List (OutputRenderElement g) :=
    (scene.layerNormal target layer false).map .layerSurface
  let relocated (geo : g.Rect) (cs : List g.Content) : List (OutputRenderElement g) :=
    cs.map (.relocatedLayerSurface geo)
  let windows : List (OutputRenderElement g) := scene.workspaces.flatMap fun ws => (ws.windows target).map .monitor
  if s.niri.screenshotUiOpen then
    (s.screenshotUi output target).map .screenshotUi ++ [backdrop]
  else
    ((s.hotkeyOverlay output).map fun h => ⟨h.1, some h.2, g.alphaOne⟩).toList.map .texture ++
    (if s.niri.windowMruUiOutput.isSome then (s.windowMruUi output).map .windowMruUi else []) ++
    popups .overlay ++ normal .overlay ++
    (if scene.renderAboveTopLayer then
      (s.interactiveMove output).map .rescaledTile ++ scene.insertHint.map .monitor ++ windows ++
      popups .top ++ normal .top ++
      popups .bottom ++ popups .background ++ normal .bottom ++ normal .background ++
      (scene.workspaces.head?.map fun ws => ⟨none, ws.background, g.alphaOne⟩).toList.map
        .solidColor
    else
      popups .top ++ normal .top ++
      (s.interactiveMove output).map .rescaledTile ++ scene.insertHint.map .monitor ++
      (scene.workspaces.flatMap fun ws =>
        relocated ws.geo (scene.layerPopups target .bottom false) ++
        relocated ws.geo (scene.layerPopups target .background false)) ++
      windows ++
      (scene.workspaces.flatMap fun ws =>
        relocated ws.geo (scene.layerNormal target .bottom false) ++
        relocated ws.geo (scene.layerNormal target .background false) ++
        [.relocatedColor ws.geo ws.background])) ++
    scene.shadows.map .monitor ++
    (scene.layerPopups target .background true).map .layerSurface ++
    (scene.layerNormal target .background true).map .layerSurface ++
    [backdrop]

/-- `push` with `debug_draw_opaque_regions`. -/
def pushAll (elements : List (OutputRenderElement g)) : List (OutputRenderElement g) :=
  if s.debugDrawOpaqueRegions then
    elements.flatMap fun e =>
      (b.debugRegions e).map (fun r => .solidColor ⟨some r.1, r.2, g.alphaOne⟩) ++ [e]
  else elements

def renderInner (scene : OutputScene g) (target : RenderTarget) (includePointer : Bool) :
    List (OutputRenderElement g) :=
  s.pushAll b (s.renderOverlays b output scene target includePointer ++
    if s.niri.isLocked then renderLock scene else s.renderSession output scene target)

/-- The target with the `preview_render` debug option. -/
def effectiveTarget (target : RenderTarget) : RenderTarget :=
  if target = .output then s.previewRender.getD .output else target

/-- `render`; `none` is the panic on an output that is not connected. -/
def render (target : RenderTarget) (includePointer : Bool) :
    Option (List (OutputRenderElement g)) :=
  (s.outputs.lookup output).map fun scene =>
    s.renderInner b output scene (s.effectiveTarget target) includePointer

/-- The scene of an output with a new transition: a texture of what the output
    shows, for each target.  After a rendering error the scene stays. -/
def captureTransition (delayMs : Option Nat) (scene : OutputScene g) : OutputScene g :=
  let texture (target : RenderTarget) :=
    b.renderToTexture (s.renderInner b output scene (s.effectiveTarget target) false)
  match texture .output, texture .screencast, texture .screenCapture with
  | some o, some c, some p =>
      { scene with
        screenTransition := some
          { fromTexture := fun
              | .output => o
              | .screencast => c
              | .screenCapture => p
            startAt := s.clock + delayMs.getD transitionDelay } }
  | _, _, _ => scene

def doScreenTransition (delayMs : Option Nat) : Compositor g :=
  { s with outputs := s.outputs.map fun p => (p.1, s.captureTransition b p.1 delayMs p.2) }

end Compositor

end Cidre.Lock
