/-
  Cidre.A11y.KeyboardMonitor

  The keyboard monitor for assistive technologies (`src/dbus/freedesktop_a11y.rs`):
  the clients that watch and grab keys over D-Bus, and what becomes of a key event.

  A client is known by its unique bus name.  A method call without a sender fails
  and changes nothing, and is left out.
-/

import Mathlib.Data.Finset.Lattice.Fold
import Cidre.Lib.Dict

namespace Cidre.A11y

/-! ## Data -/

abbrev Keysym := Nat

abbrev Keycode := Nat

abbrev BusName := String

/-- `Duration`, in nanoseconds. -/
abbrev Duration := Nat

def Duration.max : Duration := (2 ^ 64 - 1) * 10 ^ 9 + 999999999

def Duration.saturatingAdd (a b : Duration) : Duration := min (a + b) Duration.max

structure Client where
  watched : Bool
  grabbed : Bool
  modifiers : Finset Keysym
  /-- the keysyms with their modifier masks -/
  keystrokes : List (Keysym × Nat)
deriving DecidableEq

def Client.default : Client := ⟨false, false, ∅, []⟩

structure Data where
  clients : List (BusName × Client)
  grabbedMods : Finset Keysym
  grabbedModLastPressTime : List (Keysym × Duration)
  suppressedKeys : Finset Keysym
deriving DecidableEq

def Data.default : Data := ⟨[], ∅, [], ∅⟩

/-- Keyboard monitor key block reason. -/
inductive KbMonBlock where
  | pass
  /-- Blocked, and this is the first press/release of the a11y modifier. -/
  | modifierFirstPress
  /-- Blocked, and this is not the a11y modifier. -/
  | block
deriving DecidableEq, Repr

/-- The `KeyEvent` signal. -/
structure KeyEvent where
  released : Bool
  state : Nat
  keysym : Keysym
  unichar : Nat
  /-- a 16-bit number -/
  keycode : Nat
deriving DecidableEq, Repr

/-- The arguments of `process_key`. -/
structure Key where
  repeatDelay : Duration
  time : Duration
  keycode : Keycode
  released : Bool
  mods : Nat
  keysym : Keysym
  unichar : Nat
deriving DecidableEq, Repr

/-! ## Clients -/

namespace Client

def shouldGrabKeypress (client : Client) (suppressedKeys : Finset Keysym) (mods : Nat)
    (keysym : Keysym) : Bool :=
  client.grabbed ||
    -- This is a grabbed modifier, or a grabbed modifier is currently down.
    decide (keysym ∈ client.modifiers ∨ ∃ m ∈ client.modifiers, m ∈ suppressedKeys) ||
    client.keystrokes.any fun k => k.1 == keysym && k.2 == mods

def shouldWatchKeypress (client : Client) (suppressedKeys : Finset Keysym) (mods : Nat)
    (keysym : Keysym) : Bool :=
  client.watched || client.shouldGrabKeypress suppressedKeys mods keysym

end Client

namespace Data

def rebuildGrabbedMods (data : Data) : Data :=
  { data with
    grabbedMods := data.clients.foldl (fun mods client => mods ∪ client.2.modifiers) ∅ }

/-- `clients.entry(sender).or_default()`, changed by `f` -/
def onClient (data : Data) (sender : BusName) (f : Client → Client) : Data :=
  { data with
    clients :=
      Dict.set data.clients sender (f ((data.clients.lookup sender).getD Client.default)) }

/-- `clients.get_mut(&sender)`, changed by `f` -/
def onClientIfAny (data : Data) (sender : BusName) (f : Client → Client) : Data :=
  match data.clients.lookup sender with
  | some client => { data with clients := Dict.set data.clients sender (f client) }
  | none => data

def grabKeyboard (data : Data) (sender : BusName) : Data :=
  data.onClient sender fun client => { client with grabbed := true }

def ungrabKeyboard (data : Data) (sender : BusName) : Data :=
  data.onClientIfAny sender fun client => { client with grabbed := false }

def watchKeyboard (data : Data) (sender : BusName) : Data :=
  data.onClient sender fun client => { client with watched := true }

def unwatchKeyboard (data : Data) (sender : BusName) : Data :=
  data.onClientIfAny sender fun client => { client with watched := false }

def setKeyGrabs (data : Data) (sender : BusName) (modifiers : List Keysym)
    (keystrokes : List (Keysym × Nat)) : Data :=
  (data.onClient sender fun client =>
    { client with modifiers := modifiers.toFinset, keystrokes := keystrokes }).rebuildGrabbedMods

/-- `monitor_disappeared_clients`, of one client -/
def clientDisappeared (data : Data) (name : BusName) : Data :=
  { data with clients := data.clients.filter fun client => client.1 != name }.rebuildGrabbedMods

/-- The task that watches for disappearing clients has failed. -/
def monitorBroken (data : Data) : Data := { data with clients := [] }.rebuildGrabbedMods

/-! ## Key events -/

/-- The signals that tell the clients of a key, each sent to one client only. -/
def keyEvents (data : Data) (k : Key) : List (BusName × KeyEvent) :=
  (data.clients.filter fun client =>
    client.2.shouldWatchKeypress data.suppressedKeys k.mods k.keysym).map fun client =>
      (client.1, ⟨k.released, k.mods, k.keysym, k.unichar, k.keycode % 2 ^ 16⟩)

/-- A grabbed modifier is pressed for the second time, and handled as normal. -/
def isSecondPress (data : Data) (k : Key) : Bool :=
  decide (k.keysym ∈ data.grabbedMods) &&
    decide (k.time ≤ Duration.saturatingAdd
      ((data.grabbedModLastPressTime.lookup k.keysym).getD 0) k.repeatDelay)

/-- The time of a press of a grabbed modifier is remembered. -/
def notePress (data : Data) (k : Key) : Data :=
  if k.keysym ∈ data.grabbedMods then
    { data with
      grabbedModLastPressTime := Dict.set data.grabbedModLastPressTime k.keysym k.time }
  else data

def isGrabbed (data : Data) (k : Key) : Bool :=
  data.clients.any fun client =>
    client.2.shouldGrabKeypress data.suppressedKeys k.mods k.keysym

def blockOf (data : Data) (k : Key) (block : Bool) : KbMonBlock :=
  if !block then .pass
  else if k.keysym ∈ data.grabbedMods then .modifierFirstPress
  else .block

def processRelease (data : Data) (k : Key) : Data × KbMonBlock :=
  if k.keysym ∈ data.grabbedMods ∧ k.keysym ∉ data.suppressedKeys then
    -- The release of a second press that got handled normally.
    (data, .pass)
  else
    ({ data with suppressedKeys := data.suppressedKeys.erase k.keysym },
      data.blockOf k (decide (k.keysym ∈ data.suppressedKeys)))

def processPress (data : Data) (k : Key) : Data × KbMonBlock :=
  let noted := data.notePress k
  if data.isSecondPress k then (noted, .pass)
  -- An already-pressed key, e.g. from two keyboards.
  else if k.keysym ∈ data.suppressedKeys then (noted, data.blockOf k true)
  else if data.isGrabbed k then
    ({ noted with suppressedKeys := insert k.keysym data.suppressedKeys }, data.blockOf k true)
  else (noted, data.blockOf k false)

/-- `process_key`: the signals it sends, and the block it answers. -/
def processKey (data : Data) (k : Key) : Data × KbMonBlock × List (BusName × KeyEvent) :=
  let processed := if k.released then data.processRelease k else data.processPress k
  (processed.1, processed.2, data.keyEvents k)

/-! ## What is suppressed -/

variable {data : Data} {k : Key}

theorem blockOf_ne_pass (block : Bool) : data.blockOf k block ≠ .pass ↔ block = true := by
  unfold blockOf
  cases block with
  | false => simp
  | true =>
    simp only [Bool.not_true, Bool.false_eq_true, if_false, ne_eq]
    split <;> simp

@[simp] theorem notePress_suppressedKeys :
    (data.notePress k).suppressedKeys = data.suppressedKeys := by
  unfold notePress
  split <;> rfl

/-- A release is blocked if its keysym is suppressed, which it is no more. -/
theorem processKey_release (hreleased : k.released = true) :
    ((data.processKey k).2.1 ≠ .pass ↔ k.keysym ∈ data.suppressedKeys) ∧
      (data.processKey k).1.suppressedKeys = data.suppressedKeys.erase k.keysym := by
  unfold processKey
  dsimp only
  rw [if_pos hreleased, processRelease]
  split
  · next h =>
    obtain ⟨-, hfree⟩ := h
    exact ⟨iff_of_false (fun hne => hne rfl) hfree, (Finset.erase_eq_of_notMem hfree).symm⟩
  · exact ⟨by rw [blockOf_ne_pass, decide_eq_true_eq], rfl⟩

/-- The keysym of a press is suppressed from then on if the press is blocked. -/
theorem processKey_press (hpressed : k.released = false) :
    (data.processKey k).1.suppressedKeys =
      if (data.processKey k).2.1 ≠ .pass then insert k.keysym data.suppressedKeys
      else data.suppressedKeys := by
  unfold processKey
  dsimp only
  rw [if_neg (by simp [hpressed]), processPress]
  split
  · simp
  split
  · next hmem =>
    rw [if_pos ((blockOf_ne_pass true).mpr rfl), Finset.insert_eq_of_mem hmem]
    exact notePress_suppressedKeys
  split
  · rw [if_pos ((blockOf_ne_pass true).mpr rfl)]
  · rw [if_neg (by simp [blockOf])]
    exact notePress_suppressedKeys

theorem processKey_secondPress (hpressed : k.released = false) (h : data.isSecondPress k = true) :
    (data.processKey k).2.1 = .pass := by
  unfold processKey
  dsimp only
  rw [if_neg (by simp [hpressed]), processPress, if_pos h]

@[simp] theorem onClientIfAny_suppressedKeys (sender : BusName) (f : Client → Client) :
    (data.onClientIfAny sender f).suppressedKeys = data.suppressedKeys := by
  unfold onClientIfAny
  split <;> rfl

end Data

end Cidre.A11y
