/-
  Cidre.Lock.Session

  The session-lock state machine of the compositor (`src/niri.rs`): the four
  lock states, the per-output lock render state and the surface deadline, with
  every entry point that takes the lock state out and puts it back (`lock`,
  the lock-surface commit, the deadline timer, `redraw`, `add_output`,
  `remove_output`, monitor power, `unlock`).

  Frame scheduling (`redraw_state`, the frame clock, `queue_redraw`) is left
  out: a redraw of any output may come at any time and with any render result.
  A function of the source that may call `confirmation.lock()` returns the
  confirmed lock next to the new state.
-/

import Cidre.Lib.Run

namespace Cidre.Lock

/-! ## State -/

/-- A connected output. -/
abbrev Output := Nat

/-- A Wayland client. -/
abbrev Client := Nat

/-- An `ext_session_lock_v1` object, owned by the client that asked for it. -/
structure ExtSessionLock where
  client : Client
  serial : Nat
deriving DecidableEq, Repr

/-- A lock surface: whose it is, and whether it has a buffer (`is_mapped`). -/
structure LockSurface where
  client : Client
  mapped : Bool
deriving DecidableEq, Repr

inductive LockState where
  | unlocked
  | waitingForSurfaces (confirmation : ExtSessionLock) (deadlineToken : Nat)
  | locking (confirmation : ExtSessionLock)
  | locked (lock : ExtSessionLock)
deriving DecidableEq, Repr

inductive LockRenderState where
  /-- The output displays a normal session frame. -/
  | unlocked
  /-- The output displays a locked frame. -/
  | locked
deriving DecidableEq, Repr

inductive RenderResult where
  | submitted
  | noDamage
  | skipped
deriving DecidableEq, Repr

structure OutputState where
  lockRenderState : LockRenderState
  lockSurface : Option LockSurface
deriving DecidableEq, Repr

/-- The part of `Niri` the lock protocol reads and writes.  `timers` are the
    deadline sources still registered with the event loop, `nextToken` the
    token the loop hands out next, and `deadClients` the clients that are gone
    (`ExtSessionLockV1::is_alive`). -/
structure Niri where
  outputState : List (Output × OutputState)
  monitorsActive : Bool
  lockState : LockState
  timers : List Nat
  nextToken : Nat
  deadClients : List Client
  screenshotUiOpen : Bool
  windowMruUiOutput : Option Output
deriving DecidableEq, Repr

/-- `Niri::new`. -/
def Niri.new : Niri where
  outputState := []
  monitorsActive := true
  lockState := .unlocked
  timers := []
  nextToken := 0
  deadClients := []
  screenshotUiOpen := false
  windowMruUiOutput := none

namespace Niri

/-! ## `is_locked`, `lock`, `continue_to_locking`, `unlock` -/

def isLocked (n : Niri) : Bool :=
  match n.lockState with
  | .unlocked | .waitingForSurfaces _ _ => false
  | .locking _ | .locked _ => true

/-- `ExtSessionLockV1::is_alive`. -/
def isAlive (n : Niri) (lock : ExtSessionLock) : Bool :=
  !n.deadClients.contains lock.client

/-- `self.event_loop.remove(token)`. -/
def removeTimer (n : Niri) (token : Nat) : Niri :=
  { n with timers := n.timers.filter (· ≠ token) }

/-- `confirmation.lock()`, after which the lock object is kept. -/
def confirm (n : Niri) (confirmation : ExtSessionLock) : Niri × Option ExtSessionLock :=
  ({ n with lockState := .locked confirmation }, some confirmation)

def lock (n : Niri) (confirmation : ExtSessionLock) : Niri × Option ExtSessionLock :=
  match n.lockState with
  -- Another client is in the process of locking.
  | .waitingForSurfaces _ _ | .locking _ => (n, none)
  | .locked held =>
      if n.isAlive held then (n, none)
      -- The client had died: the outputs are blanked already, lock right away.
      else n.confirm confirmation
  | .unlocked =>
      if n.outputState.isEmpty then
        { n with screenshotUiOpen := false }.confirm confirmation
      else
        ({ n with
            lockState := .waitingForSurfaces confirmation n.nextToken
            timers := n.nextToken :: n.timers
            nextToken := n.nextToken + 1 }, none)

def continueToLocking (n : Niri) : Niri × Option ExtSessionLock :=
  match n.lockState with
  | .waitingForSurfaces confirmation deadlineToken =>
      let n := { n.removeTimer deadlineToken with
        screenshotUiOpen := false, windowMruUiOutput := none }
      if n.outputState.isEmpty then n.confirm confirmation
      else ({ n with lockState := .locking confirmation }, none)
  | _ => (n, none)

/-- The lock surface of the output has had a commit with a buffer. -/
def OutputState.surfaceReady (st : OutputState) : Bool :=
  match st.lockSurface with
  | none => false
  | some surface => surface.mapped

def maybeContinueToLocking (n : Niri) : Niri × Option ExtSessionLock :=
  match n.lockState with
  | .waitingForSurfaces _ _ =>
      if n.outputState.all fun p => OutputState.surfaceReady p.2 then n.continueToLocking
      else (n, none)
  | _ => (n, none)

def unlock (n : Niri) : Niri :=
  let n := match n.lockState with
    | .waitingForSurfaces _ deadlineToken => n.removeTimer deadlineToken
    | _ => n
  { n with
    lockState := .unlocked
    outputState := n.outputState.map fun p => (p.1, { p.2 with lockSurface := none }) }

/-! ## Outputs -/

/-- `output_state.get_mut(output)`. -/
def updateOutput (n : Niri) (output : Output) (f : OutputState → OutputState) : Niri :=
  { n with outputState := n.outputState.map fun p => if p.1 = output then (p.1, f p.2) else p }

/-- All outputs display a locked frame. -/
def allLocked (n : Niri) : Bool :=
  n.outputState.all fun p => p.2.lockRenderState = .locked

/-- The lock render state of a frame drawn in this state. -/
def currentLockRenderState (n : Niri) : LockRenderState :=
  if n.isLocked then .locked else .unlocked

/-- `add_output`; the `assert!` on an already tracked output is the `none`. -/
def addOutput (n : Niri) (output : Output) : Option Niri :=
  if (n.outputState.lookup output).isSome then none
  else some { n with outputState := (output, ⟨n.currentLockRenderState, none⟩) :: n.outputState }

/-- `remove_output`, the lock part: while locking, the requirements may be met
    now that one output is gone. -/
def lockAfterRemoval (n : Niri) : Niri × Option ExtSessionLock :=
  match n.lockState with
  | .locking confirmation => if n.allLocked then n.confirm confirmation else (n, none)
  | _ => n.maybeContinueToLocking

/-- `remove_output`, closing the screenshot UI, and the recent-windows UI when
    it was on the removed output. -/
def closeUisOn (n : Niri) (output : Output) : Niri :=
  { n with
    screenshotUiOpen := false
    windowMruUiOutput := if n.windowMruUiOutput = some output then none else n.windowMruUiOutput }

/-- `remove_output`; the `unwrap` of an untracked output is the `none`. -/
def removeOutput (n : Niri) (output : Output) : Option (Niri × Option ExtSessionLock) :=
  if (n.outputState.lookup output).isSome then
    let r := lockAfterRemoval { n with outputState := n.outputState.filter (·.1 ≠ output) }
    some (r.1.closeUisOn output, r.2)
  else none

/-- `redraw`, updating the lock render state on a successful render.  When
    monitors are inactive they have no framebuffer attached, so the output
    counts as drawn in the current state. -/
def recordRender (n : Niri) (output : Output) (res : RenderResult) : Niri :=
  if res ≠ .skipped ∨ n.monitorsActive = false then
    n.updateOutput output fun st => { st with lockRenderState := n.currentLockRenderState }
  else n

/-- The lock part of `redraw`, with `rendered` the result of `backend.render`;
    the `unwrap` of an untracked output is the `none`. -/
def redraw (n : Niri) (output : Output) (rendered : RenderResult) :
    Option (Niri × Option ExtSessionLock) :=
  let n := n.recordRender output (if n.monitorsActive then rendered else .skipped)
  match n.outputState.lookup output with
  | none => none
  | some st =>
      some <| match n.lockState with
        | .locking confirmation =>
            -- We needed to render a locked frame on this output but failed.
            if st.lockRenderState = .unlocked then
              ({ n with lockState := .unlocked }.unlock, none)
            else if n.allLocked then n.confirm confirmation
            else (n, none)
        | _ => (n, none)

/-! ## Monitors, surfaces and clients -/

def deactivateMonitors (n : Niri) : Niri := { n with monitorsActive := false }

def activateMonitors (n : Niri) : Niri := { n with monitorsActive := true }

def newLockSurface (n : Niri) (surface : LockSurface) (output : Output) : Niri :=
  let accept (lock : ExtSessionLock) : Niri :=
    if lock.client ≠ surface.client then n
    else n.updateOutput output fun st => { st with lockSurface := some surface }
  match n.lockState with
  | .unlocked => n
  | .waitingForSurfaces confirmation _ => accept confirmation
  | .locking confirmation => accept confirmation
  | .locked lock => accept lock

/-- A commit on the lock surface of `output` (`handlers/compositor.rs`) that
    leaves it with or without a buffer. -/
def commitLockSurface (n : Niri) (output : Output) (mapped : Bool) :
    Niri × Option ExtSessionLock :=
  let n := n.updateOutput output fun st =>
    { st with lockSurface := st.lockSurface.map fun s => { s with mapped := mapped } }
  match n.outputState.lookup output with
  | some ⟨_, some _⟩ => n.maybeContinueToLocking
  | _ => (n, none)

end Niri

/-! ## The compositor with its displays -/

/-- What an output shows: nothing since it was connected or since the monitors
    were last powered off, or its most recent frame, with whether `is_locked()`
    held when that frame was rendered. -/
inductive Display where
  | blank
  | frame (locked : Bool)
deriving DecidableEq, Repr

structure World where
  niri : Niri
  display : Output → Display

/-- The compositor at start: nothing is connected. -/
def World.init : World := ⟨Niri.new, fun _ => .blank⟩

inductive Event where
  | lock (confirmation : ExtSessionLock)
  | newLockSurface (surface : LockSurface) (output : Output)
  | commitLockSurface (output : Output) (mapped : Bool)
  | deadlineExpired (token : Nat)
  | redraw (output : Output) (rendered : RenderResult)
  | addOutput (output : Output)
  | removeOutput (output : Output)
  | deactivateMonitors
  | activateMonitors
  | lockClientDied (client : Client)
  | unlock
deriving DecidableEq, Repr

/-- The display of `output` after `redraw`: a frame is presented only while the
    monitors are active and only when rendering did not fail. -/
def World.displayAfterRedraw (w : World) (output : Output) (rendered : RenderResult) :
    Output → Display :=
  if w.niri.monitorsActive ∧ rendered ≠ .skipped then
    fun o => if o = output then .frame w.niri.isLocked else w.display o
  else w.display

/-- One event: the state after it and the lock confirmed by it, or `none` when
    the event cannot happen (an unregistered timer) or panics. -/
def World.step (w : World) : Event → Option (World × Option ExtSessionLock)
  | .lock confirmation =>
      let r := w.niri.lock confirmation
      some (⟨r.1, w.display⟩, r.2)
  | .newLockSurface surface output =>
      some (⟨w.niri.newLockSurface surface output, w.display⟩, none)
  | .commitLockSurface output mapped =>
      let r := w.niri.commitLockSurface output mapped
      some (⟨r.1, w.display⟩, r.2)
  | .deadlineExpired token =>
      if token ∈ w.niri.timers then
        let r := w.niri.continueToLocking
        some (⟨r.1.removeTimer token, w.display⟩, r.2)
      else none
  | .redraw output rendered =>
      (w.niri.redraw output rendered).map fun r =>
        (⟨r.1, w.displayAfterRedraw output rendered⟩, r.2)
  | .addOutput output =>
      (w.niri.addOutput output).map fun n =>
        (⟨n, fun o => if o = output then .blank else w.display o⟩, none)
  | .removeOutput output =>
      (w.niri.removeOutput output).map fun r => (⟨r.1, w.display⟩, r.2)
  | .deactivateMonitors =>
      some (⟨w.niri.deactivateMonitors,
        if w.niri.monitorsActive then fun _ => .blank else w.display⟩, none)
  | .activateMonitors => some (⟨w.niri.activateMonitors, w.display⟩, none)
  | .lockClientDied client =>
      some (⟨{ w.niri with deadClients := client :: w.niri.deadClients }, w.display⟩, none)
  | .unlock => some (⟨w.niri.unlock.activateMonitors, w.display⟩, none)

/-- The state after one event. -/
def World.next (w : World) (e : Event) : Option World := (w.step e).map Prod.fst

/-! ## What an operation of the lock protocol can do -/

namespace Niri

/-- Every output displays a locked frame. -/
def AllLocked (n : Niri) : Prop :=
  ∀ p ∈ n.outputState, p.2.lockRenderState = .locked

/-- A held lock covers every output. -/
def Held (n : Niri) : Prop :=
  ∀ lk, n.lockState = .locked lk → n.AllLocked

theorem allLocked_iff (n : Niri) : n.allLocked = true ↔ n.AllLocked := by
  simp [allLocked, AllLocked]

/-- What an operation that draws nothing may do to the lock: outputs keep their
    render state, a held lock still covers every output and is not given up, a
    confirmation leaves the lock held, and monitor power is untouched. -/
structure LockOp (n : Niri) (r : Niri × Option ExtSessionLock) : Prop where
  monitors : r.1.monitorsActive = n.monitorsActive
  frame : ∀ p ∈ r.1.outputState, ∃ q ∈ n.outputState,
    q.1 = p.1 ∧ q.2.lockRenderState = p.2.lockRenderState
  held : r.1.Held
  confirmed : ∀ lk, r.2 = some lk → r.1.lockState = .locked lk
  stays : ∀ lk, n.lockState = .locked lk → ∃ lk', r.1.lockState = .locked lk'

/-- An operation that leaves outputs and lock state alone. -/
theorem LockOp.of_same {n n' : Niri} (hheld : n.Held)
    (hmon : n'.monitorsActive = n.monitorsActive)
    (hout : n'.outputState = n.outputState) (hlock : n'.lockState = n.lockState) :
    LockOp n (n', none) where
  monitors := hmon
  frame := fun p hp => ⟨p, hout ▸ hp, rfl, rfl⟩
  held := by
    intro lk hlk p hp
    rw [hlock] at hlk
    rw [hout] at hp
    exact hheld lk hlk p hp
  confirmed := by simp
  stays := fun lk hlk => ⟨lk, hlock.trans hlk⟩

/-- Confirming a lock while every output displays a locked frame. -/
theorem LockOp.of_confirm {n n' : Niri} (c : ExtSessionLock)
    (hmon : n'.monitorsActive = n.monitorsActive)
    (hall : n'.AllLocked) (hout : n'.outputState = n.outputState) :
    LockOp n (n'.confirm c) where
  monitors := hmon
  frame := fun p hp => ⟨p, hout ▸ hp, rfl, rfl⟩
  held := fun _ _ => hall
  confirmed := by
    intro lk h
    simp only [confirm, Option.some.injEq] at h
    simp [confirm, h]
  stays := fun _ _ => ⟨c, rfl⟩

/-- Moving between states that hold no lock. -/
theorem LockOp.of_unheld {n n' : Niri} (hmon : n'.monitorsActive = n.monitorsActive)
    (hout : n'.outputState = n.outputState) (hn : ∀ lk, n.lockState ≠ .locked lk)
    (hn' : ∀ lk, n'.lockState ≠ .locked lk) : LockOp n (n', none) where
  monitors := hmon
  frame := fun p hp => ⟨p, hout ▸ hp, rfl, rfl⟩
  held := fun lk hlk => absurd hlk (hn' lk)
  confirmed := by simp
  stays := fun lk hlk => absurd hlk (hn lk)

theorem allLocked_of_isEmpty {n : Niri} (h : n.outputState.isEmpty = true) : n.AllLocked := by
  intro p hp
  rw [List.isEmpty_iff.mp h] at hp
  exact absurd hp (List.not_mem_nil)

theorem lock_spec (n : Niri) (c : ExtSessionLock) (hheld : n.Held) :
    LockOp n (n.lock c) := by
  rw [lock]
  split
  · exact LockOp.of_same hheld rfl rfl rfl
  · exact LockOp.of_same hheld rfl rfl rfl
  · rename_i held hst
    split
    · exact LockOp.of_same hheld rfl rfl rfl
    · exact LockOp.of_confirm c rfl (hheld held hst) rfl
  · rename_i hst
    split
    · rename_i hempty
      exact LockOp.of_confirm c rfl (allLocked_of_isEmpty hempty) rfl
    · exact LockOp.of_unheld rfl rfl (by simp [hst]) (by simp)

theorem continueToLocking_spec (n : Niri) (hheld : n.Held) :
    LockOp n n.continueToLocking := by
  rw [continueToLocking]
  split
  · rename_i c token hst
    dsimp only
    split
    · rename_i hempty
      exact LockOp.of_confirm c rfl (allLocked_of_isEmpty hempty) rfl
    · exact LockOp.of_unheld rfl rfl (by simp [hst]) (by simp)
  · exact LockOp.of_same hheld rfl rfl rfl

theorem maybeContinueToLocking_spec (n : Niri) (hheld : n.Held) :
    LockOp n n.maybeContinueToLocking := by
  rw [maybeContinueToLocking]
  split
  · split
    · exact continueToLocking_spec n hheld
    · exact LockOp.of_same hheld rfl rfl rfl
  · exact LockOp.of_same hheld rfl rfl rfl

/-- Composition with a step that confirms nothing. -/
theorem LockOp.trans {n m : Niri} {r : Niri × Option ExtSessionLock}
    (h₁ : LockOp n (m, none)) (h₂ : LockOp m r) : LockOp n r where
  monitors := h₂.monitors.trans h₁.monitors
  frame := by
    intro p hp
    obtain ⟨q, hq, hid, hst⟩ := h₂.frame p hp
    obtain ⟨q', hq', hid', hst'⟩ := h₁.frame q hq
    exact ⟨q', hq', hid'.trans hid, hst'.trans hst⟩
  held := h₂.held
  confirmed := h₂.confirmed
  stays := by
    intro lk hlk
    obtain ⟨lk', hlk'⟩ := h₁.stays lk hlk
    exact h₂.stays lk' hlk'

/-- Fields other than outputs and lock state may change freely afterwards. -/
theorem LockOp.update {n n' : Niri} {r : Niri × Option ExtSessionLock} (h : LockOp n r)
    (hmon : n'.monitorsActive = r.1.monitorsActive)
    (hout : n'.outputState = r.1.outputState) (hlock : n'.lockState = r.1.lockState) :
    LockOp n (n', r.2) where
  monitors := hmon.trans h.monitors
  frame := by
    intro p hp
    exact h.frame p (hout ▸ hp)
  held := by
    intro lk hlk p hp
    rw [hlock] at hlk
    rw [hout] at hp
    exact h.held lk hlk p hp
  confirmed := fun lk hlk => hlock.trans (h.confirmed lk hlk)
  stays := by
    intro lk hlk
    obtain ⟨lk', hlk'⟩ := h.stays lk hlk
    exact ⟨lk', hlock.trans hlk'⟩

/-- Dropping outputs. -/
theorem filterOutputs_spec (n : Niri) (keep : Output × OutputState → Bool) (hheld : n.Held) :
    LockOp n ({ n with outputState := n.outputState.filter keep }, none) where
  monitors := rfl
  frame := fun p hp => ⟨p, List.mem_of_mem_filter hp, rfl, rfl⟩
  held := fun lk hlk p hp => hheld lk hlk p (List.mem_of_mem_filter hp)
  confirmed := by simp
  stays := fun lk hlk => ⟨lk, hlk⟩

theorem lockAfterRemoval_spec (n : Niri) (hheld : n.Held) : LockOp n n.lockAfterRemoval := by
  rw [lockAfterRemoval]
  split
  · rename_i c hst
    split
    · rename_i hall
      exact LockOp.of_confirm c rfl ((allLocked_iff n).mp hall) rfl
    · exact LockOp.of_same hheld rfl rfl rfl
  · exact maybeContinueToLocking_spec n hheld

theorem removeOutput_spec (n : Niri) (output : Output) (hheld : n.Held)
    {r : Niri × Option ExtSessionLock} (h : n.removeOutput output = some r) :
    LockOp n r := by
  unfold removeOutput at h
  split at h
  · obtain rfl := Option.some.inj h
    have hdrop := n.filterOutputs_spec (fun p => p.1 ≠ output) hheld
    have hlock := hdrop.trans (lockAfterRemoval_spec _ hdrop.held)
    exact hlock.update rfl rfl rfl
  · exact absurd h (by simp)

/-- `updateOutput` that leaves the render state alone. -/
theorem updateOutput_spec (n : Niri) (output : Output) (f : OutputState → OutputState)
    (hf : ∀ st, (f st).lockRenderState = st.lockRenderState) (hheld : n.Held) :
    LockOp n (n.updateOutput output f, none) := by
  have hframe : ∀ p ∈ (n.updateOutput output f).outputState, ∃ q ∈ n.outputState,
      q.1 = p.1 ∧ q.2.lockRenderState = p.2.lockRenderState := by
    intro p hp
    obtain ⟨q, hq, rfl⟩ := List.mem_map.mp hp
    refine ⟨q, hq, ?_⟩
    split <;> simp [hf]
  refine ⟨rfl, hframe, ?_, by simp, fun lk hlk => ⟨lk, hlk⟩⟩
  intro lk hlk p hp
  obtain ⟨q, hq, -, hst⟩ := hframe p hp
  rw [← hst]
  exact hheld lk hlk q hq

theorem newLockSurface_spec (n : Niri) (surface : LockSurface) (output : Output)
    (hheld : n.Held) : LockOp n (n.newLockSurface surface output, none) := by
  have hset : LockOp n (n.updateOutput output
      fun st => { st with lockSurface := some surface }, none) :=
    n.updateOutput_spec output _ (fun _ => rfl) hheld
  rw [newLockSurface]
  dsimp only
  split
  · exact LockOp.of_same hheld rfl rfl rfl
  all_goals
    split
    · exact LockOp.of_same hheld rfl rfl rfl
    · exact hset

theorem commitLockSurface_spec (n : Niri) (output : Output) (mapped : Bool) (hheld : n.Held) :
    LockOp n (n.commitLockSurface output mapped) := by
  have hset := n.updateOutput_spec output
    (fun st => { st with lockSurface := st.lockSurface.map fun s => { s with mapped := mapped } })
    (fun _ => rfl) hheld
  unfold commitLockSurface
  dsimp only
  split
  · exact hset.trans (maybeContinueToLocking_spec _ hset.held)
  · exact hset

theorem addOutput_lockState {n n' : Niri} {output : Output} (h : n.addOutput output = some n') :
    n'.lockState = n.lockState := by
  unfold addOutput at h
  split at h
  · exact absurd h (by simp)
  · rw [← Option.some.inj h]

/-- `recordRender` touches nothing but the render state of `output`, which
    becomes that of a frame drawn now, or stays as it was. -/
theorem mem_recordRender {n : Niri} {output : Output} {res : RenderResult}
    {p : Output × OutputState} (hp : p ∈ (n.recordRender output res).outputState) :
    (∃ q ∈ n.outputState, q.1 = p.1 ∧ q.2.lockRenderState = p.2.lockRenderState ∧
        (p.1 ≠ output ∨ (res = .skipped ∧ n.monitorsActive = true))) ∨
      (p.1 = output ∧ p.2.lockRenderState = n.currentLockRenderState ∧
        (∃ q ∈ n.outputState, q.1 = p.1) ∧
        (res ≠ .skipped ∨ n.monitorsActive = false)) := by
  unfold recordRender at hp
  split at hp
  · rename_i hdrawn
    obtain ⟨q, hq, rfl⟩ := List.mem_map.mp hp
    by_cases hqo : q.1 = output
    · right
      refine ⟨?_, ?_, ⟨q, hq, ?_⟩, hdrawn⟩ <;> simp [hqo]
    · left
      refine ⟨q, hq, ?_, ?_, ?_⟩ <;> simp [hqo]
  · rename_i hkept
    left
    refine ⟨p, hp, rfl, rfl, Or.inr ?_⟩
    cases hactive : n.monitorsActive <;> simp_all

theorem recordRender_lockState (n : Niri) (output : Output) (res : RenderResult) :
    (n.recordRender output res).lockState = n.lockState := by
  rw [recordRender]
  split <;> rfl

theorem recordRender_monitorsActive (n : Niri) (output : Output) (res : RenderResult) :
    (n.recordRender output res).monitorsActive = n.monitorsActive := by
  rw [recordRender]
  split <;> rfl

theorem recordRender_held (n : Niri) (output : Output) (res : RenderResult) (hheld : n.Held) :
    (n.recordRender output res).Held := by
  intro lk hlk p hp
  rw [recordRender_lockState] at hlk
  rcases mem_recordRender hp with ⟨q, hq, -, hst, -⟩ | ⟨-, hst, -⟩
  · rw [← hst]
    exact hheld lk hlk q hq
  · rw [hst]
    simp [currentLockRenderState, isLocked, hlk]

/-- `unlock` keeps every render state. -/
theorem unlock_frame (n : Niri) : ∀ p ∈ n.unlock.outputState, ∃ q ∈ n.outputState,
    q.1 = p.1 ∧ q.2.lockRenderState = p.2.lockRenderState := by
  intro p hp
  obtain ⟨q, hq, rfl⟩ := List.mem_map.mp hp
  refine ⟨q, ?_, rfl, rfl⟩
  revert hq
  split <;> exact id

theorem unlock_spec (n : Niri) (hn : ∀ lk, n.lockState ≠ .locked lk) :
    LockOp n (n.unlock, none) where
  monitors := by
    rw [unlock]
    cases n.lockState <;> rfl
  frame := n.unlock_frame
  held := fun lk hlk => absurd hlk (by simp [unlock])
  confirmed := by simp
  stays := fun lk hlk => absurd hlk (hn lk)

/-- After recording the frame, `redraw` is an operation that draws nothing. -/
theorem redraw_spec (n : Niri) (output : Output) (rendered : RenderResult) (hheld : n.Held)
    {r : Niri × Option ExtSessionLock} (h : n.redraw output rendered = some r) :
    LockOp (n.recordRender output (if n.monitorsActive then rendered else .skipped)) r := by
  have hrec := n.recordRender_held output (if n.monitorsActive then rendered else .skipped) hheld
  unfold redraw at h
  dsimp only at h
  generalize n.recordRender output (if n.monitorsActive then rendered else .skipped) = m at h hrec ⊢
  split at h
  · exact absurd h (by simp)
  · obtain rfl := Option.some.inj h
    split
    · rename_i c hst
      split
      · have hunheld : LockOp m ({ m with lockState := .unlocked }, none) :=
          LockOp.of_unheld rfl rfl (by simp [hst]) (by simp)
        exact hunheld.trans (unlock_spec _ (by simp))
      · split
        · rename_i hall
          exact LockOp.of_confirm c rfl ((allLocked_iff m).mp hall) rfl
        · exact LockOp.of_same hrec rfl rfl rfl
    · exact LockOp.of_same hrec rfl rfl rfl

end Niri

/-! ## The invariant -/

namespace World

/-- The lock invariant.  `shown` ties the render state the compositor tracks to
    what is really on the screen; `dark` is what makes a skipped redraw count
    as locked while the monitors are off. -/
structure Inv (w : World) : Prop where
  shown : ∀ p ∈ w.niri.outputState, p.2.lockRenderState = .locked →
    w.display p.1 ≠ .frame false
  held : w.niri.Held
  dark : w.niri.monitorsActive = false → ∀ p ∈ w.niri.outputState, w.display p.1 = .blank

theorem inv_init : init.Inv where
  shown := by simp [init, Niri.new]
  held := by simp [init, Niri.new, Niri.Held]
  dark := by simp [init, Niri.new]

/-- An operation that draws nothing keeps the invariant. -/
theorem Inv.lockOp {w : World} (hinv : w.Inv) {r : Niri × Option ExtSessionLock}
    (hop : Niri.LockOp w.niri r) : (World.mk r.1 w.display).Inv where
  shown := by
    intro p hp hst
    obtain ⟨q, hq, hid, hqst⟩ := hop.frame p hp
    have := hinv.shown q hq (hqst.trans hst)
    rwa [hid] at this
  held := hop.held
  dark := by
    intro hoff p hp
    obtain ⟨q, hq, hid, -⟩ := hop.frame p hp
    have := hinv.dark (hop.monitors ▸ hoff) q hq
    rwa [hid] at this

theorem displayAfterRedraw_of_presented {w : World} {output : Output} {rendered : RenderResult}
    (h : w.niri.monitorsActive = true ∧ rendered ≠ .skipped) (o : Output) :
    w.displayAfterRedraw output rendered o =
      if o = output then .frame w.niri.isLocked else w.display o := by
  rw [displayAfterRedraw, if_pos h]

theorem displayAfterRedraw_of_not_presented {w : World} {output : Output}
    {rendered : RenderResult} (h : ¬(w.niri.monitorsActive = true ∧ rendered ≠ .skipped)) :
    w.displayAfterRedraw output rendered = w.display := by
  rw [displayAfterRedraw, if_neg h]

/-- Recording a render keeps the invariant, with the display it leaves. -/
theorem Inv.recordRender {w : World} (hinv : w.Inv) (output : Output) (rendered : RenderResult) :
    (World.mk (w.niri.recordRender output (if w.niri.monitorsActive then rendered else .skipped))
      (w.displayAfterRedraw output rendered)).Inv where
  shown := by
    intro p hp hst
    show w.displayAfterRedraw output rendered p.1 ≠ _
    rcases Niri.mem_recordRender hp with
      ⟨q, hq, hid, hqst, hother⟩ | ⟨hid, hcur, ⟨q, hq, hqid⟩, hdrawn⟩
    · have hold := hinv.shown q hq (hqst.trans hst)
      rw [hid] at hold
      by_cases hframe : w.niri.monitorsActive = true ∧ rendered ≠ .skipped
      · have hne : p.1 ≠ output := by
          rcases hother with hne | ⟨hskip, -⟩
          · exact hne
          · rw [if_pos hframe.1] at hskip
            exact absurd hskip hframe.2
        rw [displayAfterRedraw_of_presented hframe, if_neg hne]
        exact hold
      · rw [displayAfterRedraw_of_not_presented hframe]
        exact hold
    · have hlocked : w.niri.isLocked = true := by
        rw [hst] at hcur
        unfold Niri.currentLockRenderState at hcur
        split at hcur
        · assumption
        · exact absurd hcur (by simp)
      by_cases hframe : w.niri.monitorsActive = true ∧ rendered ≠ .skipped
      · rw [displayAfterRedraw_of_presented hframe, if_pos hid, hlocked]
        simp
      · have hoff : w.niri.monitorsActive = false := by
          cases hon : w.niri.monitorsActive with
          | false => rfl
          | true =>
            simp only [hon, true_and, ne_eq, not_not] at hframe
            simp [hon, hframe] at hdrawn
        rw [displayAfterRedraw_of_not_presented hframe, ← hqid, hinv.dark hoff q hq]
        simp
  held := w.niri.recordRender_held output _ hinv.held
  dark := by
    intro hoff p hp
    show w.displayAfterRedraw output rendered p.1 = _
    rw [Niri.recordRender_monitorsActive] at hoff
    rw [displayAfterRedraw_of_not_presented (by simp [hoff])]
    rcases Niri.mem_recordRender hp with ⟨q, hq, hid, -⟩ | ⟨-, -, ⟨q, hq, hid⟩, -⟩
    · rw [← hid]
      exact hinv.dark hoff q hq
    · rw [← hid]
      exact hinv.dark hoff q hq

/-- A connected output is blank and starts in the current render state. -/
theorem Inv.addOutput {w : World} (hinv : w.Inv) {output : Output} {n : Niri}
    (h : w.niri.addOutput output = some n) :
    (World.mk n fun o => if o = output then .blank else w.display o).Inv := by
  unfold Niri.addOutput at h
  split at h
  · exact absurd h (by simp)
  obtain rfl := Option.some.inj h
  refine ⟨?_, ?_, ?_⟩
  · intro p hp hst
    dsimp only
    split
    · simp
    · rename_i hne
      rcases List.mem_cons.mp hp with rfl | hp
      · exact absurd rfl hne
      · exact hinv.shown p hp hst
  · intro lk hlk p hp
    dsimp only at hlk
    rcases List.mem_cons.mp hp with rfl | hp
    · simp [Niri.currentLockRenderState, Niri.isLocked, hlk]
    · exact hinv.held lk hlk p hp
  · intro hoff p hp
    dsimp only
    split
    · rfl
    · rename_i hne
      rcases List.mem_cons.mp hp with rfl | hp
      · exact absurd rfl hne
      · exact hinv.dark hoff p hp

/-- What one event does to a state in which the invariant holds. -/
structure StepOk (w : World) (e : Event) (w' : World) (confirmed : Option ExtSessionLock) :
    Prop where
  inv : w'.Inv
  confirmed : ∀ lk, confirmed = some lk → w'.niri.lockState = .locked lk
  stays : e ≠ .unlock → ∀ lk, w.niri.lockState = .locked lk → ∃ lk', w'.niri.lockState = .locked lk'

theorem StepOk.of_lockOp {w : World} (hinv : w.Inv) {r : Niri × Option ExtSessionLock}
    (hop : Niri.LockOp w.niri r) (e : Event) : StepOk w e ⟨r.1, w.display⟩ r.2 where
  inv := hinv.lockOp hop
  confirmed := hop.confirmed
  stays := fun _ => hop.stays

theorem step_redraw {w : World} (hinv : w.Inv) {output : Output} {rendered : RenderResult}
    {r : Niri × Option ExtSessionLock} (h : w.niri.redraw output rendered = some r) :
    StepOk w (.redraw output rendered) ⟨r.1, w.displayAfterRedraw output rendered⟩ r.2 := by
  have hop := w.niri.redraw_spec output rendered hinv.held h
  refine ⟨(hinv.recordRender output rendered).lockOp hop, hop.confirmed, fun _ lk hlk => ?_⟩
  refine hop.stays lk ?_
  rw [Niri.recordRender_lockState]
  exact hlk

theorem step_deactivateMonitors {w : World} (hinv : w.Inv) :
    StepOk w .deactivateMonitors ⟨w.niri.deactivateMonitors,
      if w.niri.monitorsActive then fun _ => .blank else w.display⟩ none where
  inv := by
    split
    · exact ⟨by simp, hinv.held, by simp⟩
    · rename_i hoff
      exact ⟨hinv.shown, hinv.held, fun _ => hinv.dark (by simpa using hoff)⟩
  confirmed := by simp
  stays := fun _ lk hlk => ⟨lk, hlk⟩

theorem step_activateMonitors {w : World} (hinv : w.Inv) :
    StepOk w .activateMonitors ⟨w.niri.activateMonitors, w.display⟩ none where
  inv := ⟨hinv.shown, hinv.held, by simp [Niri.activateMonitors]⟩
  confirmed := by simp
  stays := fun _ lk hlk => ⟨lk, hlk⟩

theorem step_unlock {w : World} (hinv : w.Inv) :
    StepOk w .unlock ⟨w.niri.unlock.activateMonitors, w.display⟩ none where
  inv := by
    refine ⟨?_, ?_, by simp [Niri.activateMonitors]⟩
    · intro p hp hst
      obtain ⟨q, hq, hid, hqst⟩ := w.niri.unlock_frame p hp
      have := hinv.shown q hq (hqst.trans hst)
      rwa [hid] at this
    · intro lk hlk
      exact absurd hlk (by simp [Niri.unlock, Niri.activateMonitors])
  confirmed := by simp
  stays := fun hne => absurd rfl hne

/-- One event of the lock state machine. -/
theorem step_ok {w w' : World} {e : Event} {confirmed : Option ExtSessionLock} (hinv : w.Inv)
    (h : w.step e = some (w', confirmed)) : StepOk w e w' confirmed := by
  cases e with
  | lock c =>
    obtain ⟨rfl, rfl⟩ := Prod.mk.inj (Option.some.inj h)
    exact StepOk.of_lockOp hinv (w.niri.lock_spec c hinv.held) _
  | newLockSurface surface output =>
    obtain ⟨rfl, rfl⟩ := Prod.mk.inj (Option.some.inj h)
    exact StepOk.of_lockOp hinv (w.niri.newLockSurface_spec surface output hinv.held) _
  | commitLockSurface output mapped =>
    obtain ⟨rfl, rfl⟩ := Prod.mk.inj (Option.some.inj h)
    exact StepOk.of_lockOp hinv (w.niri.commitLockSurface_spec output mapped hinv.held) _
  | deadlineExpired token =>
    unfold step at h
    dsimp only at h
    split at h
    · obtain ⟨rfl, rfl⟩ := Prod.mk.inj (Option.some.inj h)
      have hop : Niri.LockOp w.niri (w.niri.continueToLocking.1.removeTimer token, _) :=
        (w.niri.continueToLocking_spec hinv.held).update rfl rfl rfl
      exact StepOk.of_lockOp hinv hop _
    · exact absurd h (by simp)
  | redraw output rendered =>
    obtain ⟨r, hr, heq⟩ := Option.map_eq_some_iff.mp h
    obtain ⟨rfl, rfl⟩ := Prod.mk.inj heq
    exact step_redraw hinv hr
  | addOutput output =>
    obtain ⟨n, hn, heq⟩ := Option.map_eq_some_iff.mp h
    obtain ⟨rfl, rfl⟩ := Prod.mk.inj heq
    refine ⟨hinv.addOutput hn, by simp, fun _ lk hlk => ⟨lk, ?_⟩⟩
    exact (Niri.addOutput_lockState hn).trans hlk
  | removeOutput output =>
    obtain ⟨r, hr, heq⟩ := Option.map_eq_some_iff.mp h
    obtain ⟨rfl, rfl⟩ := Prod.mk.inj heq
    exact StepOk.of_lockOp hinv (w.niri.removeOutput_spec output hinv.held hr) _
  | deactivateMonitors =>
    obtain ⟨rfl, rfl⟩ := Prod.mk.inj (Option.some.inj h)
    exact step_deactivateMonitors hinv
  | activateMonitors =>
    obtain ⟨rfl, rfl⟩ := Prod.mk.inj (Option.some.inj h)
    exact step_activateMonitors hinv
  | lockClientDied client =>
    obtain ⟨rfl, rfl⟩ := Prod.mk.inj (Option.some.inj h)
    have hop : Niri.LockOp w.niri
        ({ w.niri with deadClients := client :: w.niri.deadClients }, none) :=
      Niri.LockOp.of_same hinv.held rfl rfl rfl
    exact StepOk.of_lockOp hinv hop _
  | unlock =>
    obtain ⟨rfl, rfl⟩ := Prod.mk.inj (Option.some.inj h)
    exact step_unlock hinv

/-- The invariant holds in every state a run reaches. -/
theorem run_inv {es : List Event} {w : World} (h : Run.run next init es = some w) : w.Inv := by
  refine Run.run_invariant (fun s e s' hinv hs => ?_) h inv_init
  obtain ⟨⟨t, c⟩, hstep, rfl⟩ := Option.map_eq_some_iff.mp hs
  exact (step_ok hinv hstep).inv

/-- What every output shows was drawn while `is_locked()` held, or it shows
    nothing. -/
def Covered (w : World) : Prop :=
  ∀ p ∈ w.niri.outputState, w.display p.1 ≠ .frame false

/-- Another client is locking, or a live client holds the lock. -/
def lockTaken (w : World) : Bool :=
  match w.niri.lockState with
  | .unlocked => false
  | .waitingForSurfaces _ _ | .locking _ => true
  | .locked held => w.niri.isAlive held

theorem Inv.covered_of_locked {w : World} (hinv : w.Inv) {lk : ExtSessionLock}
    (h : w.niri.lockState = .locked lk) : w.Covered :=
  fun p hp => hinv.shown p hp (hinv.held lk h p hp)

theorem step_lock_of_taken {w : World} (h : w.lockTaken = true) (c : ExtSessionLock) :
    w.step (.lock c) = some (w, none) := by
  have hsame : w.niri.lock c = (w.niri, none) := by
    unfold lockTaken at h
    rw [Niri.lock]
    cases hst : w.niri.lockState with
    | unlocked => simp [hst] at h
    | waitingForSurfaces _ _ => rfl
    | locking _ => rfl
    | locked held =>
      simp only [hst] at h
      simp [h]
  simp [step, hsame]

/-- Session-lock safety, in every state any run reaches and for every event
    taken there: a lock is confirmed only when every output is covered, a lock
    request changes nothing while the lock is taken, and a held lock is given
    up only by `unlock` or for another held lock. -/
theorem session_lock_safe {es : List Event} {w w' : World} {e : Event}
    {confirmed : Option ExtSessionLock} (hrun : Run.run next init es = some w)
    (hstep : w.step e = some (w', confirmed)) :
    (confirmed ≠ none → w'.Covered) ∧
      (∀ c, e = .lock c → w.lockTaken = true → w' = w ∧ confirmed = none) ∧
      (∀ lk, w.niri.lockState = .locked lk →
        e = .unlock ∨ ∃ lk', w'.niri.lockState = .locked lk') := by
  have hok := step_ok (run_inv hrun) hstep
  refine ⟨?_, ?_, ?_⟩
  · intro hc
    obtain ⟨lk, hlk⟩ := Option.ne_none_iff_exists'.mp hc
    exact hok.inv.covered_of_locked (hok.confirmed lk hlk)
  · rintro c rfl htaken
    rw [step_lock_of_taken htaken c] at hstep
    obtain ⟨rfl, rfl⟩ := Prod.mk.inj (Option.some.inj hstep)
    exact ⟨rfl, rfl⟩
  · intro lk hlk
    by_cases hu : e = .unlock
    · exact Or.inl hu
    · exact Or.inr (hok.stays hu lk hlk)

/-- One output, the deadline passes without a lock surface, and the first
    locked frame confirms the lock. -/
theorem session_lock_safe_deadline :
    ∃ w w' : World,
      Run.run next init [.addOutput 0, .lock ⟨1, 0⟩, .deadlineExpired 0] = some w ∧
      w.step (.redraw 0 .submitted) = some (w', some ⟨1, 0⟩) ∧ w'.Covered :=
  ⟨_, _, rfl, rfl,
    (@session_lock_safe [.addOutput 0, .lock ⟨1, 0⟩, .deadlineExpired 0] _ _
      (.redraw 0 .submitted) (some ⟨1, 0⟩) rfl rfl).1 (by simp)⟩

end World

end Cidre.Lock
