/-
  Cidre.NiriConfig.Decoding

  From nodes to sections: keys, binds and the dispatch on the name of a node.
  The decoders that `knuffel` derives, its scalars and the parser of documents
  are parameters, as are the functions of `std` and `xkbcommon` that read tables
  or the machine.
-/

import Cidre.NiriConfig.Sections

namespace Cidre.NiriConfig

open Cidre.Lock (Keysym Key Trigger Modifiers)
open Cidre.Workspaces (eqIgnoreAsciiCase)

structure ReadError where
  /-- `ErrorKind::NotFound`. -/
  notFound : Bool
  message : String
deriving DecidableEq, Repr

/-- What the parser calls. -/
structure Env (S : Schema) where
  homeDir : Option Path
  readToString : Path → Except ReadError String
  trim : String → String
  escapeDefault : String → String
  /-- `{path:?}`. -/
  debugPath : Path → String
  /-- `keysym_from_name`, ignoring the case or not. -/
  keysymFromName : String → Bool → Keysym
  parseDocument : String → Except (List DecodeError) (List Node)
  scalarString : Value → Decode String
  scalarBool : Value → Decode Bool
  scalarPath : Value → Decode Path
  scalarMillis : Value → Decode Nat
  scalarTitle : Value → Decode (Option String)
  action : Node → Decode Action
  mergedPart : ∀ m, Node → Decode (S.MergedPart m)
  entry : ∀ p, Node → Decode (S.Entry p)
  actionPalettePart : Node → Decode ActionPalettePart
  environment : Node → Decode (List (String × Option String))
  flag : Node → Decode Bool
  screenshotPath : Node → Decode (Option String)
  layoutPart : Node → Decode (LayoutPart S)
  recentWindowsPart : Node → Decode (RecentWindowsPart S)
  workspaceRest : Node → Decode S.WorkspaceRest

/-! ## Keys -/

def Modifiers.ofPart (part : String) : Option Modifiers :=
  if eqIgnoreAsciiCase part "mod" then some { compositor := true }
  else if eqIgnoreAsciiCase part "ctrl" || eqIgnoreAsciiCase part "control" then
    some { ctrl := true }
  else if eqIgnoreAsciiCase part "shift" then some { shift := true }
  else if eqIgnoreAsciiCase part "alt" then some { alt := true }
  else if eqIgnoreAsciiCase part "super" || eqIgnoreAsciiCase part "win" then
    some { super := true }
  else if eqIgnoreAsciiCase part "iso_level3_shift" || eqIgnoreAsciiCase part "mod5" then
    some { isoLevel3Shift := true }
  else if eqIgnoreAsciiCase part "iso_level5_shift" || eqIgnoreAsciiCase part "mod3" then
    some { isoLevel5Shift := true }
  else none

/-- The triggers that are not keys. -/
def triggerNames : List String :=
  ["MouseLeft", "MouseRight", "MouseMiddle", "MouseBack", "MouseForward", "WheelScrollDown",
    "WheelScrollUp", "WheelScrollLeft", "WheelScrollRight", "TouchpadScrollDown",
    "TouchpadScrollUp", "TouchpadScrollLeft", "TouchpadScrollRight", "TabletStylusButton1",
    "TabletStylusButton2", "TabletStylusButton3"]

section Decoders

variable {S : Schema} (env : Env S)

/-- The keysym of a name.  Ignoring the case finds `XF86_Screensaver` first, so
    that one is looked up again with its case. -/
def keysymOf (key : String) : Keysym :=
  let keysym := env.keysymFromName key true
  if keysym = keysymScreensaver then
    let exact := env.keysymFromName key false
    if exact = keysymNone then keysymScreenSaver else exact
  else keysym

def modifiersOf : List String → Modifiers → Except String Modifiers
  | [], mods => .ok mods
  | part :: parts, mods =>
      match Modifiers.ofPart (env.trim part) with
      | none => .error ("invalid modifier: " ++ env.trim part)
      | some m => modifiersOf parts (mods.union m)

/-- `Key::from_str`. -/
def keyFromStr (s : String) : Except String Key :=
  let split := (s.toList.splitOn '+').map String.ofList
  let key := split.getLast?.getD ""
  match modifiersOf env split.dropLast {} with
  | .error e => .error e
  | .ok modifiers =>
      match triggerNames.find? (eqIgnoreAsciiCase key) with
      | some name => .ok ⟨.other name, modifiers⟩
      | none =>
          let keysym := keysymOf env key
          if keysym = keysymNone then .error ("invalid key: " ++ key)
          else .ok ⟨.keysym keysym, modifiers⟩

/-! ## Binds -/

/-- The result as a value, and the errors emitted on the way. -/
def Decode.attempt {α : Type} (x : Decode α) : Decode (Except DecodeError α) :=
  ⟨.ok x.result, x.errors⟩

def noTypeName (node : Node) : List DecodeError :=
  if node.typeName.isSome then
    [.unexpected "type name" "no type name expected for this node"]
  else []

def unexpectedProperty (name : String) : DecodeError :=
  .unexpected "property" ("unexpected property `" ++ env.escapeDefault name ++ "`")

def expectOnlyChildren (node : Node) : Decode Unit :=
  Decode.emitAll (noTypeName node ++
    (node.arguments.map fun _ =>
      .unexpected "argument" "no arguments expected for this node") ++
    (node.properties.map fun _ =>
      .unexpected "property" "no properties expected for this node"))

structure BindOptions where
  repeats : Bool := true
  cooldown : Option Nat := none
  allowWhenLocked : Bool := false
  /-- `allow_when_locked_node` is set. -/
  allowWhenLockedGiven : Bool := false
  allowInhibiting : Bool := true
  hotkeyOverlayTitle : Option (Option String) := none
deriving DecidableEq, Repr

def bindOption (o : BindOptions) (property : String × Value) : Decode BindOptions :=
  match property.1 with
  | "repeat" => do
      let repeats ← env.scalarBool property.2
      pure { o with repeats }
  | "cooldown-ms" => do
      let cooldown ← env.scalarMillis property.2
      pure { o with cooldown := some cooldown }
  | "allow-when-locked" => do
      let allowWhenLocked ← env.scalarBool property.2
      pure { o with allowWhenLocked, allowWhenLockedGiven := true }
  | "allow-inhibiting" => do
      let allowInhibiting ← env.scalarBool property.2
      pure { o with allowInhibiting }
  | "hotkey-overlay-title" => do
      let title ← env.scalarTitle property.2
      pure { o with hotkeyOverlayTitle := some title }
  | name => do
      Decode.emit (unexpectedProperty env name)
      pure o

/-- What a bind with an invalid action decodes to, so that its key still counts. -/
def dummyBind (key : Key) : Bind :=
  { key
    action := .spawn []
    repeats := true
    cooldown := none
    allowWhenLocked := false
    allowInhibiting := true
    hotkeyOverlayTitle := none }

def Action.isSpawn : Action → Bool
  | .spawn _ | .spawnSh _ => true
  | _ => false

def bindAction (key : Key) (o : BindOptions) (child : Node) : Decode Bind := do
  match ← (env.action child).attempt with
  | .error e =>
      Decode.emit e
      pure (dummyBind key)
  | .ok action =>
      Decode.emitAll (if !action.isSpawn && o.allowWhenLockedGiven then
        [.unexpected "property" "allow-when-locked can only be set on spawn binds"] else [])
      pure
        { key
          action
          repeats := o.repeats
          cooldown := o.cooldown
          allowWhenLocked := o.allowWhenLocked
          -- The toggle itself must always be uninhibitable.
          allowInhibiting := o.allowInhibiting && action ≠ .toggleKeyboardShortcutsInhibit
          hotkeyOverlayTitle := o.hotkeyOverlayTitle }

/-- `Bind::decode_node`. -/
def decodeBind (node : Node) : Decode Bind := do
  Decode.emitAll (noTypeName node)
  Decode.emitAll (node.arguments.map fun _ =>
    .unexpected "argument" "no arguments expected for this node")
  match keyFromStr env node.name with
  | .error e => Decode.fail (.conversion ("invalid keybind: " ++ e))
  | .ok key =>
      let options ← node.properties.foldlM (bindOption env) {}
      match node.children with
      | [] =>
          Decode.emit (.missing "expected an action for this keybind")
          pure (dummyBind key)
      | child :: unwanted =>
          Decode.emitAll (unwanted.map fun _ =>
            .unexpected "node" "only one action is allowed per keybind")
          bindAction env key options child

/-- The loop of `Binds::decode_node`; the keys seen are the ones in `binds`. -/
def decodeBindNodes : List Node → List Bind → Decode (List Bind)
  | [], binds => pure binds
  | child :: rest, binds => do
      match ← (decodeBind env child).attempt with
      | .error e =>
          Decode.emit e
          decodeBindNodes rest binds
      | .ok bind =>
          if binds.any (·.key = bind.key) then
            Decode.emitAll [.missing "keybind first defined here",
              .unexpected "keybind" "duplicate keybind later defined here"]
            decodeBindNodes rest binds
          else decodeBindNodes rest (binds ++ [bind])

/-- `Binds::decode_node`. -/
def decodeBinds (node : Node) : Decode (List Bind) := do
  expectOnlyChildren node
  decodeBindNodes env node.children []

/-! ## Sections -/

/-- `WorkspaceName::decode`, with the names of the file so far. -/
def workspaceName (names : List String) (val : Value) : Decode (String × List String) := do
  Decode.emitAll (if val.typeName.isSome then
    [.unexpected "type name" "no type name expected for this node"] else [])
  match val.literal with
  | .string s =>
      if names.any fun name => eqIgnoreAsciiCase name s then
        Decode.emit (.unexpected "named workspace" ("duplicate named workspace: " ++ s))
        pure ("", names)
      else pure (s, names ++ [s])
  | _ =>
      Decode.emit (.unsupported "workspace names must be strings")
      pure ("", names)

def decodeWorkspace (names : List String) (node : Node) :
    Decode (Workspace S × List String) := do
  match node.arguments with
  | [] => Decode.fail (.missing "additional argument `name` is required")
  | val :: _ =>
      let (name, names) ← workspaceName names val
      let rest ← env.workspaceRest node
      pure (⟨name, rest⟩, names)

def decodeActiveAnimationProfile (node : Node) : Decode String :=
  match node.arguments with
  | [] => Decode.fail (.missing "argument is required")
  | val :: _ => env.scalarString val

/-- The section of a node other than `workspace`.  There is none for `include`
    and for unknown names. -/
def decodeOwnSection (node : Node) : Option (Decode (Section S)) :=
  match node.name with
  | "action-palette" => some (.actionPalette <$> env.actionPalettePart node)
  | "active-animation-profile" =>
      some (.activeAnimationProfile <$> decodeActiveAnimationProfile env node)
  | "binds" => some (.binds <$> decodeBinds env node)
  | "environment" => some (.environment <$> env.environment node)
  | "prefer-no-csd" => some (.preferNoCsd <$> env.flag node)
  | "screenshot-path" => some (.screenshotPath <$> env.screenshotPath node)
  | "layout" => some (.layout <$> env.layoutPart node)
  | "recent-windows" => some (.recentWindows <$> env.recentWindowsPart node)
  | name =>
      match Merged.ofName name with
      | some m => some (.merged m <$> env.mergedPart m node)
      | none =>
          match Pushed.ofName name with
          | some p => some (.pushed p <$> env.entry p node)
          | none => none

/-- The section of a node, and the workspace names of the file after it. -/
def decodeSection (names : List String) (node : Node) :
    Option (Decode (Section S × List String)) :=
  if node.name = "workspace" then
    some ((fun w => (.workspace w.1, w.2)) <$> decodeWorkspace env names node)
  else (decodeOwnSection env node).map fun decoded => (·, names) <$> decoded

end Decoders

end Cidre.NiriConfig
