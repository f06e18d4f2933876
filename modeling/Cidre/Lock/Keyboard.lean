/-
  Cidre.Lock.Keyboard

  Key events (`src/input/mod.rs`): the filter of `on_keyboard`, a cascade of
  branches for the UI that may be open, the search for a bind, and the lock
  check at the end of it (`handle_bind`, `do_action`).

  An action that passes the lock check is recorded in `performed`; of what it then
  does only the clearing of the suppressed keys is part of this model.  Redraws,
  the pointer that hides on typing and the focus timestamps of windows are left out.
-/

import Cidre.Lock.Palette
import Cidre.Lock.Session

namespace Cidre.Lock

/-! ## Keys and binds -/

abbrev Keysym := Nat

abbrev Keycode := Nat

/-- A `wl_surface`. -/
abbrev Surface := Nat

namespace Keysym

def space : Keysym := 0x20
def c : Keysym := 0x63
def p : Keysym := 0x70
def backSpace : Keysym := 0xff08
def «return» : Keysym := 0xff0d
def escape : Keysym := 0xff1b
def left : Keysym := 0xff51
def up : Keysym := 0xff52
def right : Keysym := 0xff53
def down : Keysym := 0xff54
def xf86SwitchVt1 : Keysym := 0x1008fe01
def xf86SwitchVt12 : Keysym := 0x1008fe0c
def xf86PowerOff : Keysym := 0x1008ff2a

/-- `Shift_L`, `Shift_R`, `Control_L`, `Control_R`, `Alt_L`, `Alt_R`, `Super_L`
    and `Super_R`. -/
def modifierKeys : List Keysym :=
  [0xffe1, 0xffe2, 0xffe3, 0xffe4, 0xffe9, 0xffea, 0xffeb, 0xffec]

end Keysym

structure ModifiersState where
  ctrl : Bool := false
  alt : Bool := false
  shift : Bool := false
  logo : Bool := false
  isoLevel3Shift : Bool := false
  isoLevel5Shift : Bool := false
deriving DecidableEq, Repr

/-- The bit set `Modifiers`. -/
structure Modifiers where
  ctrl : Bool := false
  shift : Bool := false
  alt : Bool := false
  super : Bool := false
  isoLevel3Shift : Bool := false
  isoLevel5Shift : Bool := false
  compositor : Bool := false
deriving DecidableEq, Repr

namespace Modifiers

def union (a b : Modifiers) : Modifiers :=
  { ctrl := a.ctrl || b.ctrl
    shift := a.shift || b.shift
    alt := a.alt || b.alt
    super := a.super || b.super
    isoLevel3Shift := a.isoLevel3Shift || b.isoLevel3Shift
    isoLevel5Shift := a.isoLevel5Shift || b.isoLevel5Shift
    compositor := a.compositor || b.compositor }

def contains (a b : Modifiers) : Bool := a.union b = a

def isEmpty (a : Modifiers) : Bool := a = {}

/-- `modifiers_from_state`. -/
def fromState (mods : ModifiersState) : Modifiers :=
  { ctrl := mods.ctrl
    shift := mods.shift
    alt := mods.alt
    super := mods.logo
    isoLevel3Shift := mods.isoLevel3Shift
    isoLevel5Shift := mods.isoLevel5Shift }

end Modifiers

inductive ModKey where
  | ctrl
  | shift
  | alt
  | super
  | isoLevel3Shift
  | isoLevel5Shift
deriving DecidableEq, Repr

def ModKey.toModifiers : ModKey → Modifiers
  | .ctrl => { ctrl := true }
  | .shift => { shift := true }
  | .alt => { alt := true }
  | .super => { super := true }
  | .isoLevel3Shift => { isoLevel3Shift := true }
  | .isoLevel5Shift => { isoLevel5Shift := true }

inductive Trigger where
  | keysym (sym : Keysym)
  /-- Mouse buttons, wheels and touchpad scrolls. -/
  | other (name : String)
deriving DecidableEq, Repr

structure Key where
  trigger : Trigger
  modifiers : Modifiers
deriving DecidableEq, Repr

structure Bind where
  key : Key
  action : Action
  repeats : Bool
  cooldown : Option Nat
  allowWhenLocked : Bool
  allowInhibiting : Bool
deriving DecidableEq, Repr

/-- Changing VT and suspending may not deliver the key releases, so they clear
    `suppressed_keys`. -/
def Action.clearsSuppressedKeys : Action → Bool
  | .changeVt _ | .suspend => true
  | _ => false

/-- The lock check of `handle_bind` and `do_action`. -/
def Bind.passesLock (b : Bind) : Bool := b.allowWhenLocked || allowedWhenLocked b.action

/-- A bind the compositor makes for an action of its own. -/
def Bind.hardcoded (sym : Keysym) (action : Action) (repeats : Bool) : Bind :=
  { key := ⟨.keysym sym, {}⟩
    action := action
    repeats := repeats
    cooldown := none
    allowWhenLocked := false
    allowInhibiting := false }

/-- The configuration a key event reads, with the library functions it uses. -/
structure Env where
  modKey : ModKey
  binds : List Bind
  recentWindowsOn : Bool
  recentWindowsBinds : List Bind
  disablePowerKeyHandling : Bool
  repeatRate : Nat
  fuzzySearch : Bool
  text : Text
  /-- `xkb::keysym_get_name`. -/
  keysymName : Keysym → String

structure KeyEvent where
  keyCode : Keycode
  pressed : Bool
  /-- `keysym.modified_sym()`. -/
  modified : Keysym
  /-- `keysym.raw_latin_sym_or_raw_current_sym()`. -/
  raw : Option Keysym
  mods : ModifiersState
deriving DecidableEq, Repr

/-! ## State -/

inductive KeyboardFocus where
  | layout (surface : Option Surface)
  | layerShell (surface : Surface)
  | lockScreen (surface : Option Surface)
  | screenshotUi
  | exitConfirmDialog
  | overview
  | mru
deriving DecidableEq, Repr

def KeyboardFocus.surface : KeyboardFocus → Option Surface
  | .layout surface | .lockScreen surface => surface
  | .layerShell surface => some surface
  | .screenshotUi | .exitConfirmDialog | .overview | .mru => none

inductive PointerGrab where
  | pickWindow
  | pickColor
  | dnd
  | other
deriving DecidableEq, Repr

def PointerGrab.canBeCancelledWithEsc : PointerGrab → Bool
  | .pickWindow | .pickColor | .dnd => true
  | .other => false

/-- The mouse button in the screenshot UI, with how the selection is being moved
    while it is down: by Space (no touch slot) or by a touch. -/
inductive ScreenshotButton where
  | up
  | down (moveState : Option (Option Nat))
deriving DecidableEq, Repr

inductive KbMonBlock where
  | pass
  | modifierFirstPress
  | block
deriving DecidableEq, Repr

/-- The part of `Niri` key events read and write, besides the session lock. -/
structure Seat where
  actionPalette : ActionPalette
  exitConfirmDialogOpen : Bool
  screenshotButton : ScreenshotButton
  /-- The binds of the open recent-windows UI, without their modifiers. -/
  mruOpenedBinds : List Bind
  keyboardFocus : KeyboardFocus
  /-- Surfaces with an active shortcuts inhibitor. -/
  inhibiting : List Surface
  pointerGrab : Option PointerGrab
  suppressedKeys : List Keycode
  bindRepeat : Option Bind
  bindCooldowns : List Key
  stopped : Bool
  performed : List Action
deriving DecidableEq, Repr

/-- The compositor as the keyboard sees it. -/
structure Desktop where
  niri : Niri
  seat : Seat
deriving DecidableEq, Repr

inductive FilterResult where
  | forward
  | intercept (bind : Option Bind)
deriving DecidableEq, Repr

namespace Desktop

variable (env : Env) (d : Desktop)

def isLocked : Bool := d.niri.isLocked

def mruOpen : Bool := d.niri.windowMruUiOutput.isSome

def isInhibitingShortcuts : Bool :=
  d.seat.keyboardFocus.surface.any (d.seat.inhibiting.contains ·)

/-- `suppressed_keys.insert`. -/
def suppress (code : Keycode) : Desktop :=
  { d with seat := { d.seat with suppressedKeys := code :: d.seat.suppressedKeys } }

/-- `suppressed_keys.remove`. -/
def unsuppress (code : Keycode) : Desktop :=
  { d with seat := { d.seat with
      suppressedKeys := d.seat.suppressedKeys.filter (· ≠ code) } }

/-- `do_action`, up to what the action does besides clearing the suppressed keys. -/
def doAction (action : Action) (allowWhenLocked : Bool) : Desktop :=
  if d.isLocked && !(allowWhenLocked || allowedWhenLocked action) then d
  else
    { d with seat := { d.seat with
        performed := d.seat.performed ++ [action]
        suppressedKeys := if action.clearsSuppressedKeys then [] else d.seat.suppressedKeys } }

def handleBind (bind : Bind) : Desktop :=
  match bind.cooldown with
  | none => d.doAction bind.action bind.allowWhenLocked
  | some _ =>
      -- Checked first so that it does not trigger the cooldown.
      if d.isLocked && !bind.passesLock then d
      else if bind.key ∈ d.seat.bindCooldowns then d
      else
        { d with seat := { d.seat with
            bindCooldowns := bind.key :: d.seat.bindCooldowns } }.doAction
          bind.action bind.allowWhenLocked

def startKeyRepeat (bind : Bind) : Desktop :=
  if !bind.repeats then d
  else
    { d with seat := { d.seat with
        bindRepeat := if env.repeatRate = 0 then none else some bind } }

/-- `ScreenshotUi::set_space_down`. -/
def setSpaceDown (down : Bool) : Desktop :=
  if d.niri.screenshotUiOpen then
    let button := match d.seat.screenshotButton, down with
      | .down none, true => .down (some none)
      | .down (some none), false => .down none
      | button, _ => button
    { d with seat := { d.seat with screenshotButton := button } }
  else d

/-! ## Binds -/

/-- `make_binds_iter`. -/
def makeBinds (mods : Modifiers) : List Bind :=
  (if d.mruOpen then [] else env.binds) ++
  (if env.recentWindowsOn || d.mruOpen then env.recentWindowsBinds else []) ++
  (if d.mruOpen then
    d.seat.mruOpenedBinds.map fun b => { b with key := { b.key with modifiers := mods } }
  else [])

end Desktop

/-- The modifiers of a bind with the compositor key spelled both ways. -/
def Bind.effectiveModifiers (modKey : ModKey) (b : Bind) : Modifiers :=
  if b.key.modifiers.compositor then b.key.modifiers.union modKey.toModifiers
  else if b.key.modifiers.contains modKey.toModifiers then
    b.key.modifiers.union { compositor := true }
  else b.key.modifiers

def findConfiguredBind (binds : List Bind) (modKey : ModKey) (trigger : Trigger)
    (mods : ModifiersState) : Option Bind :=
  let modifiers := Modifiers.fromState mods
  let modifiers :=
    if modifiers.contains modKey.toModifiers then modifiers.union { compositor := true }
    else modifiers
  binds.find? fun b => b.key.trigger = trigger && b.effectiveModifiers modKey = modifiers

def hardcodedAction (modified : Keysym) (disablePowerKeyHandling : Bool) : Option Action :=
  if Keysym.xf86SwitchVt1 ≤ modified ∧ modified ≤ Keysym.xf86SwitchVt12 then
    some (.changeVt (modified - Keysym.xf86SwitchVt1 + 1))
  else if modified = Keysym.xf86PowerOff ∧ disablePowerKeyHandling = false then some .suspend
  else none

def findBind (env : Env) (binds : List Bind) (k : KeyEvent) : Option Bind :=
  match hardcodedAction k.modified env.disablePowerKeyHandling with
  | some action => some (Bind.hardcoded k.modified action true)
  | none => k.raw.bind fun raw => findConfiguredBind binds env.modKey (.keysym raw) k.mods

/-- `ScreenshotUi::action` of an open UI. -/
def screenshotAction (button : ScreenshotButton) (raw : Keysym) (mods : ModifiersState) :
    Option Action :=
  -- Space while the button is down moves the selection.
  if button ≠ .up ∧ raw = Keysym.space then none
  else if raw = Keysym.escape then some .cancelScreenshot
  else if mods.alt || mods.shift then none
  else if !mods.ctrl && (raw = Keysym.space || raw = Keysym.return) then
    some (.confirmScreenshot true)
  else if mods.ctrl && raw = Keysym.c then some (.confirmScreenshot false)
  else if !mods.ctrl && raw = Keysym.p then some .screenshotTogglePointer
  else none

def hardcodedOverviewBind (raw : Keysym) (mods : ModifiersState) : Option Bind :=
  if !(Modifiers.fromState mods).isEmpty then none
  else if raw = Keysym.escape ∨ raw = Keysym.return then
    some (Bind.hardcoded raw .toggleOverview false)
  else if raw = Keysym.left then some (Bind.hardcoded raw .focusColumnLeft true)
  else if raw = Keysym.right then some (Bind.hardcoded raw .focusColumnRight true)
  else if raw = Keysym.up then some (Bind.hardcoded raw .focusWindowOrWorkspaceUp true)
  else if raw = Keysym.down then some (Bind.hardcoded raw .focusWindowOrWorkspaceDown true)
  else none

/-! ## The filter -/

/-- The names `keysym_to_char` knows, besides those of one character. -/
def namedChars : List (String × Char) :=
  [("space", ' '), ("minus", '-'), ("underscore", '_'), ("period", '.'), ("comma", ','),
   ("slash", '/'), ("colon", ':'), ("semicolon", ';'), ("equal", '='), ("plus", '+'),
   ("bracketleft", '['), ("bracketright", ']'), ("braceleft", Char.ofNat 0x7b),
   ("braceright", Char.ofNat 0x7d), ("backslash", Char.ofNat 0x5c), ("bar", '|'),
   ("apostrophe", Char.ofNat 0x27), ("quotedbl", Char.ofNat 0x22), ("grave", Char.ofNat 0x60),
   ("asciitilde", '~'), ("at", '@'), ("numbersign", '#'), ("dollar", '$'), ("percent", '%'),
   ("asciicircum", '^'), ("ampersand", '&'), ("asterisk", '*'), ("parenleft", '('),
   ("parenright", ')'), ("question", '?')]

/-- `keysym_to_char`; `len` counts bytes. -/
def keysymToChar (env : Env) (sym : Keysym) : Option Char :=
  let name := env.keysymName sym
  if name.utf8ByteSize = 1 then name.toList.head? else namedChars.lookup name

namespace Desktop

variable (env : Env) (d : Desktop)

def setPalette (p : ActionPalette) : Desktop := { d with seat := { d.seat with actionPalette := p } }

/-- A press while the action palette is open. -/
def palettePress (raw : Option Keysym) : Desktop :=
  let p := d.seat.actionPalette
  if raw = some Keysym.escape then d.setPalette p.hide
  else if raw = some Keysym.return then
    match p.getSelectedAction with
    | some (some action) => (d.doAction action false).setPalette p.hide
    | _ => d.setPalette p.hide
  else if raw = some Keysym.backSpace then
    d.setPalette (p.handleBackspace env.text env.fuzzySearch)
  else if raw = some Keysym.up then d.setPalette p.handleMoveUp
  else if raw = some Keysym.down then d.setPalette p.handleMoveDown
  else
    match raw.bind (keysymToChar env) with
    | some c => d.setPalette (p.handleChar env.text env.fuzzySearch c)
    | none => d

/-- The bind a press is given: one of the configuration, or one of an open
    screenshot UI. -/
def finalBind (k : KeyEvent) : Option Bind :=
  let found := findBind env (d.makeBinds env (Modifiers.fromState k.mods)) k
  if d.niri.screenshotUiOpen && !found.any (fun b => allowedDuringScreenshot b.action) then
    match k.raw with
    | some raw =>
        (screenshotAction d.seat.screenshotButton raw k.mods).map fun action =>
          Bind.hardcoded raw action true
    | none => found
  else found

def shouldInterceptKey (k : KeyEvent) : Desktop × FilterResult :=
  if !k.pressed && !d.seat.suppressedKeys.contains k.keyCode then (d, .forward)
  else
    match d.finalBind env k, k.pressed with
    | some bind, true =>
        if d.isInhibitingShortcuts && bind.allowInhibiting then (d, .forward)
        else (d.suppress k.keyCode, .intercept (some bind))
    | _, false => (d.unsuppress k.keyCode, .intercept none)
    | none, true => (d, .forward)

/-- The overview takes some keys no bind took. -/
def afterBinds (k : KeyEvent) (r : Desktop × FilterResult) : Desktop × FilterResult :=
  if r.2 = .forward ∧ r.1.seat.keyboardFocus = .overview ∧ k.pressed then
    match k.raw.bind fun raw => hardcodedOverviewBind raw k.mods with
    | some bind => (r.1.suppress k.keyCode, .intercept (some bind))
    | none => r
  else r

/-- The closure `on_keyboard` gives to the keyboard. -/
def filter (blocked : KbMonBlock) (k : KeyEvent) : Desktop × FilterResult :=
  if blocked ≠ .pass then
    if !k.pressed && Keysym.modifierKeys.contains k.modified then (d, .forward)
    else (d, .intercept none)
  else if d.seat.actionPalette.isOpen && k.pressed then
    ((d.palettePress env k.raw).suppress k.keyCode, .intercept none)
  else if d.seat.exitConfirmDialogOpen && k.pressed then
    let d := if k.raw = some Keysym.return then { d with seat := { d.seat with stopped := true } }
      else d
    (d.suppress k.keyCode, .intercept none)
  else if d.mruOpen && !k.pressed && (Modifiers.fromState k.mods).isEmpty then
    let d := d.doAction .mruConfirm false
    if d.seat.suppressedKeys.contains k.keyCode then (d.unsuppress k.keyCode, .intercept none)
    else (d, .forward)
  else if k.pressed && k.raw = some Keysym.escape &&
      d.seat.pointerGrab.any PointerGrab.canBeCancelledWithEsc then
    ({ d with seat := { d.seat with pointerGrab := none } }.suppress k.keyCode, .intercept none)
  else
    let d := if k.raw = some Keysym.space then d.setSpaceDown k.pressed else d
    afterBinds k (d.shouldInterceptKey env k)

/-- Where a key event goes: to the focused surface, if there is one, or to no
    client. -/
inductive Delivery where
  | focused (surface : Option Surface)
  | withheld
deriving DecidableEq, Repr

def deliver (r : FilterResult) : Delivery :=
  match r with
  | .forward => .focused d.seat.keyboardFocus.surface
  | .intercept _ => .withheld

def onKeyboard (blocked : KbMonBlock) (k : KeyEvent) : Desktop × Delivery :=
  let d := if k.pressed then d else { d with seat := { d.seat with bindRepeat := none } }
  if blocked = .modifierFirstPress then (d, .withheld)
  else
    let r := d.filter env blocked k
    match r.2, k.pressed with
    | .intercept (some bind), true => ((r.1.handleBind bind).startKeyRepeat env bind, .withheld)
    | res, _ => (r.1, r.1.deliver res)

end Desktop

end Cidre.Lock
