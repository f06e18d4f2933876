/-
  Cidre.NiriConfig.Sections

  The sections of a config and what each kind of section does to it: sections
  that are merged (`merge_with`), sections that add an entry to a list, and the
  ones with rules of their own (`binds`, `layout`, `recent-windows` and the
  single values).  What is inside the sections that no rule about includes
  looks into is a parameter (`Schema`), with any `merge_with`.
-/

import Cidre.Lib.Override
import Cidre.Lock.Keyboard
import Cidre.Workspaces.Monitor
import Cidre.NiriConfig.Document

namespace Cidre.NiriConfig

open Cidre.Lock (Keysym Key Trigger Modifiers)
open Cidre.Workspaces (eqIgnoreAsciiCase)

/-! ## The kinds of sections -/

/-- The sections of `m_merge!`, without `action-palette`. -/
inductive Merged where
  | input
  | cursor
  | clipboard
  | hotkeyOverlay
  | configNotification
  | animations
  | blur
  | gestures
  | overview
  | link
  | xwaylandSatellite
  | switchEvents
  | debug
  | modeHud
  | adaptiveAnimationProfile
  | magnet
  | niriLiquid
  | safeMode
  | overlays
  | script
  | performanceBudget
deriving DecidableEq, Repr

namespace Merged

def nodeName : Merged → String
  | input => "input"
  | cursor => "cursor"
  | clipboard => "clipboard"
  | hotkeyOverlay => "hotkey-overlay"
  | configNotification => "config-notification"
  | animations => "animations"
  | blur => "blur"
  | gestures => "gestures"
  | overview => "overview"
  | link => "link"
  | xwaylandSatellite => "xwayland-satellite"
  | switchEvents => "switch-events"
  | debug => "debug"
  | modeHud => "mode-hud"
  | adaptiveAnimationProfile => "adaptive-animation-profile"
  | magnet => "magnet"
  | niriLiquid => "niri-liquid"
  | safeMode => "safe-mode"
  | overlays => "overlays"
  | script => "script"
  | performanceBudget => "performance-budget"

def all : List Merged :=
  [input, cursor, clipboard, hotkeyOverlay, configNotification, animations, blur, gestures,
    overview, link, xwaylandSatellite, switchEvents, debug, modeHud, adaptiveAnimationProfile,
    magnet, niriLiquid, safeMode, overlays, script, performanceBudget]

def ofName (name : String) : Option Merged := all.find? (·.nodeName = name)

end Merged

/-- The sections that push one entry each, without `workspace`. -/
inductive Pushed where
  | output
  | spawnAtStartup
  | spawnShAtStartup
  | windowRule
  | layerRule
  | material
  | landmark
  | effectPreset
  | animationProfile
  | animationPreset
  | scratchColumn
  | rule
  | materialGraph
  | animationGraph
  | dispatchAlias
deriving DecidableEq, Repr

namespace Pushed

def nodeName : Pushed → String
  | output => "output"
  | spawnAtStartup => "spawn-at-startup"
  | spawnShAtStartup => "spawn-sh-at-startup"
  | windowRule => "window-rule"
  | layerRule => "layer-rule"
  | material => "material"
  | landmark => "landmark"
  | effectPreset => "effect-preset"
  | animationProfile => "animation-profile"
  | animationPreset => "animation-preset"
  | scratchColumn => "scratch-column"
  | rule => "rule"
  | materialGraph => "material-graph"
  | animationGraph => "animation-graph"
  | dispatchAlias => "dispatch-alias"

def all : List Pushed :=
  [output, spawnAtStartup, spawnShAtStartup, windowRule, layerRule, material, landmark,
    effectPreset, animationProfile, animationPreset, scratchColumn, rule, materialGraph,
    animationGraph, dispatchAlias]

def ofName (name : String) : Option Pushed := all.find? (·.nodeName = name)

end Pushed

/-- The sections a file may have several of. -/
def multipart : List String :=
  ["output", "spawn-at-startup", "spawn-sh-at-startup", "window-rule", "layer-rule", "workspace",
    "include", "material", "landmark", "magnet", "effect-preset", "animation-profile",
    "animation-preset", "scratch-column", "niri-liquid", "safe-mode", "dispatch-alias", "overlays",
    "rule", "material-graph", "animation-graph"]

/-- What is inside the sections, as far as no rule below looks into it. -/
structure Schema where
  MergedValue : Merged → Type
  MergedPart : Merged → Type
  mergedDefault : ∀ m, MergedValue m
  mergeWith : ∀ m, MergedValue m → MergedPart m → MergedValue m
  Entry : Pushed → Type
  /-- The width, the colours and the gradients of the border. -/
  BorderLook : Type
  BorderLookPart : Type
  borderLookDefault : BorderLook
  mergeBorderLook : BorderLook → BorderLookPart → BorderLook
  /-- The layout without its border. -/
  LayoutRest : Type
  LayoutRestPart : Type
  layoutRestDefault : LayoutRest
  mergeLayoutRest : LayoutRest → LayoutRestPart → LayoutRest
  /-- The highlight and the previews of the recent windows. -/
  MruLook : Type
  MruLookPart : Type
  mruLookDefault : MruLook
  mergeMruLook : MruLook → MruLookPart → MruLook
  /-- A workspace without its name. -/
  WorkspaceRest : Type

/-! ## Binds -/

inductive MruDirection where
  | forward
  | backward
deriving DecidableEq, Repr

inductive MruScope where
  | all
  | output
  | workspace
deriving DecidableEq, Repr

inductive MruFilter where
  | all
  | appId
deriving DecidableEq, Repr

inductive Action where
  | toggleActionPalette
  | toggleKeyboardShortcutsInhibit
  | spawn (command : List String)
  | spawnSh (command : String)
  | mruAdvance (direction : MruDirection) (scope : Option MruScope) (filter : Option MruFilter)
  | other (name : String)
deriving DecidableEq, Repr

structure Bind where
  key : Key
  action : Action
  repeats : Bool
  cooldown : Option Nat
  allowWhenLocked : Bool
  allowInhibiting : Bool
  hotkeyOverlayTitle : Option (Option String)
deriving DecidableEq, Repr

inductive MruAction where
  | nextWindow (scope : Option MruScope) (filter : MruFilter)
  | previousWindow (scope : Option MruScope) (filter : MruFilter)
deriving DecidableEq, Repr

structure MruBind where
  key : Key
  action : MruAction
  allowInhibiting : Bool
  hotkeyOverlayTitle : Option (Option String)
deriving DecidableEq, Repr

def MruAction.toAction : MruAction → Action
  | nextWindow scope filter => .mruAdvance .forward scope (some filter)
  | previousWindow scope filter => .mruAdvance .backward scope (some filter)

def MruBind.toBind (x : MruBind) : Bind :=
  { key := x.key
    action := x.action.toAction
    repeats := true
    cooldown := none
    allowWhenLocked := false
    allowInhibiting := x.allowInhibiting
    hotkeyOverlayTitle := x.hotkeyOverlayTitle }

def keysymTab : Keysym := 0xff09
def keysymGrave : Keysym := 0x60
/-- `XF86_Screensaver` and `XF86_ScreenSaver`. -/
def keysymScreensaver : Keysym := 0x1008ff8d
def keysymScreenSaver : Keysym := 0x1008ff2d
def keysymNone : Keysym := 0

/-- `default_binds` of the recent windows. -/
def defaultMruBinds : List Bind :=
  [{ alt := true : Modifiers }, { compositor := true }].flatMap fun baseMod =>
    [(keysymTab, MruFilter.all), (keysymGrave, MruFilter.appId)].flatMap fun (trigger, filter) =>
      [MruBind.toBind ⟨⟨.keysym trigger, baseMod⟩, .nextWindow none filter, true, none⟩,
        MruBind.toBind ⟨⟨.keysym trigger, baseMod.union { shift := true }⟩,
          .previousWindow none filter, true, none⟩]

/-! ## The sections with rules of their own -/

structure ActionPalette where
  enable : Bool := false
  bind : Option String := some "Mod+P"
  material : Option String := some "dashboard-glass"
  fuzzySearch : Bool := true
  showKeybinds : Bool := true
  showCurrentState : Bool := true
deriving DecidableEq, Repr

structure ActionPalettePart where
  enable : Option Bool
  bind : Option String
  material : Option String
  fuzzySearch : Option Bool
  showKeybinds : Option Bool
  showCurrentState : Option Bool
deriving DecidableEq, Repr

def ActionPalette.mergeWith (x : ActionPalette) (part : ActionPalettePart) : ActionPalette :=
  { enable := part.enable.getD x.enable
    bind := part.bind.or x.bind
    material := part.material.or x.material
    fuzzySearch := part.fuzzySearch.getD x.fuzzySearch
    showKeybinds := part.showKeybinds.getD x.showKeybinds
    showCurrentState := part.showCurrentState.getD x.showCurrentState }

variable (S : Schema)

structure Border where
  off : Bool
  look : S.BorderLook

structure BorderRule where
  off : Bool
  on : Bool
  look : S.BorderLookPart

structure Layout where
  border : Border S
  rest : S.LayoutRest

structure LayoutPart where
  border : Option (BorderRule S)
  rest : S.LayoutRestPart

structure RecentWindows where
  on : Bool
  debounceMs : Nat
  openDelayMs : Nat
  look : S.MruLook
  binds : List Bind

structure RecentWindowsPart where
  on : Bool
  off : Bool
  debounceMs : Option Nat
  openDelayMs : Option Nat
  look : S.MruLookPart
  binds : Option (List MruBind)

structure Workspace where
  name : String
  rest : S.WorkspaceRest

structure Config where
  merged : ∀ m, S.MergedValue m
  pushed : ∀ p, List (S.Entry p)
  actionPalette : ActionPalette
  workspaces : List (Workspace S)
  activeAnimationProfile : Option String
  binds : List Bind
  environment : List (String × Option String)
  preferNoCsd : Bool
  screenshotPath : Option String
  layout : Layout S
  recentWindows : RecentWindows S

/-- A section, decoded. -/
inductive Section where
  | merged (m : Merged) (part : S.MergedPart m)
  | pushed (p : Pushed) (entry : S.Entry p)
  | actionPalette (part : ActionPalettePart)
  | workspace (entry : Workspace S)
  | activeAnimationProfile (name : String)
  | binds (part : List Bind)
  | environment (part : List (String × Option String))
  | preferNoCsd (flag : Bool)
  | screenshotPath (path : Option String)
  | layout (part : LayoutPart S)
  | recentWindows (part : RecentWindowsPart S)

variable {S}

def Border.default : Border S := ⟨true, S.borderLookDefault⟩

def Border.mergeWith (x : Border S) (part : BorderRule S) : Border S :=
  ⟨if part.on then false else x.off || part.off, S.mergeBorderLook x.look part.look⟩

def Layout.default : Layout S := ⟨Border.default, S.layoutRestDefault⟩

def Layout.mergeWith (x : Layout S) (part : LayoutPart S) : Layout S :=
  ⟨match part.border with
    | none => x.border
    | some rule => x.border.mergeWith rule,
    S.mergeLayoutRest x.rest part.rest⟩

/-- An empty border section of the main file turns the border on. -/
def LayoutPart.located (recursion : Nat) (part : LayoutPart S) : LayoutPart S :=
  match part.border with
  | none => part
  | some rule =>
      if recursion = 0 ∧ !rule.on ∧ !rule.off then
        { part with border := some { rule with on := true } }
      else part

def RecentWindows.default : RecentWindows S :=
  ⟨true, 750, 150, S.mruLookDefault, defaultMruBinds⟩

def RecentWindows.mergeWith (x : RecentWindows S) (part : RecentWindowsPart S) :
    RecentWindows S :=
  { on := if part.off then false else x.on || part.on
    debounceMs := part.debounceMs.getD x.debounceMs
    openDelayMs := part.openDelayMs.getD x.openDelayMs
    look := S.mergeMruLook x.look part.look
    binds :=
      match part.binds with
      | none => x.binds
      | some binds => Override.override Bind.key x.binds (binds.map MruBind.toBind) }

def Config.default : Config S :=
  { merged := S.mergedDefault
    pushed := fun _ => []
    actionPalette := {}
    workspaces := []
    activeAnimationProfile := none
    binds := []
    environment := []
    preferNoCsd := false
    screenshotPath := some "~/Pictures/Screenshots/Screenshot from %Y-%m-%d %H-%M-%S.png"
    layout := Layout.default
    recentWindows := RecentWindows.default }

/-- The config under construction, and whether a section with recent-windows
    binds was seen (`SawMruBinds`). -/
structure Settings (S : Schema) where
  config : Config S
  sawMruBinds : Bool

namespace Settings

/-- What a section of a file at depth `recursion` does to the config. -/
def apply (s : Settings S) (recursion : Nat) : Section S → Settings S
  | .merged m part =>
      { s with config := { s.config with
        merged := Function.update s.config.merged m (S.mergeWith m (s.config.merged m) part) } }
  | .pushed p entry =>
      { s with config := { s.config with
        pushed := Function.update s.config.pushed p (s.config.pushed p ++ [entry]) } }
  | .actionPalette part =>
      { s with config := { s.config with
        actionPalette := s.config.actionPalette.mergeWith part } }
  | .workspace entry =>
      { s with config := { s.config with workspaces := s.config.workspaces ++ [entry] } }
  | .activeAnimationProfile name =>
      { s with config := { s.config with activeAnimationProfile := some name } }
  -- Conflicting binds are replaced and not an error, so that a file can be included
  -- and some of its binds overridden.
  | .binds part =>
      { s with config := { s.config with
        binds := Override.override Bind.key s.config.binds part } }
  | .environment part =>
      { s with config := { s.config with environment := s.config.environment ++ part } }
  | .preferNoCsd flag => { s with config := { s.config with preferNoCsd := flag } }
  | .screenshotPath path => { s with config := { s.config with screenshotPath := path } }
  | .layout part =>
      { s with config := { s.config with
        layout := s.config.layout.mergeWith (part.located recursion) } }
  -- The first section with binds clears the default ones.
  | .recentWindows part =>
      let clear := !s.sawMruBinds && part.binds.isSome
      let recent := if clear then { s.config.recentWindows with binds := [] }
        else s.config.recentWindows
      { config := { s.config with recentWindows := recent.mergeWith part }
        sawMruBinds := s.sawMruBinds || clear }

end Settings

end Cidre.NiriConfig
