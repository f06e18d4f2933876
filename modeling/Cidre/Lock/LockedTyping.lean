/-
  Cidre.Lock.LockedTyping

  Typing while the session is locked.  With the action palette closed, a press
  that matches no bind allowed on a locked screen changes no UI and performs no
  action, and it reaches the lock surface unless a bind takes it (and is then
  refused) or it is the Escape that cancels a grab (`locked_press`).

  An open action palette comes before all of this and takes every press: nothing
  closes it when the session is locked.

  The screenshot UI does not matter because it is closed in every locked state
  a run reaches (`closed_of_locked`): locking closes it and it refuses to open
  afterwards.
-/

import Cidre.Lock.Keyboard

namespace Cidre.Lock

/-! ## The screenshot UI is closed on a locked screen -/

/-- A step after which a locked session has its screenshot UI closed, if the
    same held before. -/
def KeepsClosed (n n' : Niri) : Prop :=
  (n.isLocked = true → n.screenshotUiOpen = false) →
    n'.isLocked = true → n'.screenshotUiOpen = false

namespace KeepsClosed

variable {n n' : Niri}

theorem of_closed (h : n'.screenshotUiOpen = false) : KeepsClosed n n' := fun _ _ => h

theorem of_same (hlock : n'.lockState = n.lockState)
    (hui : n'.screenshotUiOpen = n.screenshotUiOpen) : KeepsClosed n n' := by
  intro hn hlocked
  rw [hui]
  refine hn ?_
  rw [← hlocked, Niri.isLocked, Niri.isLocked, hlock]

theorem of_locked (hlocked : n.isLocked = true)
    (hui : n'.screenshotUiOpen = n.screenshotUiOpen) : KeepsClosed n n' :=
  fun hn _ => hui.trans (hn hlocked)

theorem of_unlocked (h : n'.isLocked = false) : KeepsClosed n n' := by
  intro _ hlocked
  rw [h] at hlocked
  exact absurd hlocked (by decide)

end KeepsClosed

namespace Niri

theorem isLocked_of_locking {n : Niri} {c : ExtSessionLock} (h : n.lockState = .locking c) :
    n.isLocked = true := by
  rw [isLocked, h]

theorem lock_keepsClosed (n : Niri) (c : ExtSessionLock) : KeepsClosed n (n.lock c).1 := by
  rw [lock]
  cases hst : n.lockState with
  | unlocked =>
    dsimp only
    split
    · exact .of_closed rfl
    · exact .of_unlocked rfl
  | waitingForSurfaces _ _ => exact .of_same rfl rfl
  | locking _ => exact .of_same rfl rfl
  | locked held =>
    dsimp only
    split
    · exact .of_same rfl rfl
    · exact .of_locked (by rw [isLocked, hst]) rfl

theorem continueToLocking_keepsClosed (n : Niri) : KeepsClosed n n.continueToLocking.1 := by
  rw [continueToLocking]
  cases n.lockState with
  | waitingForSurfaces _ _ =>
    dsimp only
    split <;> exact .of_closed rfl
  | _ => exact .of_same rfl rfl

theorem maybeContinueToLocking_keepsClosed (n : Niri) :
    KeepsClosed n n.maybeContinueToLocking.1 := by
  rw [maybeContinueToLocking]
  cases n.lockState with
  | waitingForSurfaces _ _ =>
    dsimp only
    split
    · exact n.continueToLocking_keepsClosed
    · exact .of_same rfl rfl
  | _ => exact .of_same rfl rfl

theorem newLockSurface_keepsClosed (n : Niri) (surface : LockSurface) (output : Output) :
    KeepsClosed n (n.newLockSurface surface output) := by
  have haccept : ∀ lock : ExtSessionLock, KeepsClosed n
      (if lock.client ≠ surface.client then n
        else n.updateOutput output fun st => { st with lockSurface := some surface }) := by
    intro lock
    split <;> exact .of_same rfl rfl
  rw [newLockSurface]
  cases n.lockState with
  | unlocked => exact .of_same rfl rfl
  | waitingForSurfaces c _ => exact haccept c
  | locking c => exact haccept c
  | locked c => exact haccept c

theorem commitLockSurface_keepsClosed (n : Niri) (output : Output) (mapped : Bool) :
    KeepsClosed n (n.commitLockSurface output mapped).1 := by
  unfold commitLockSurface
  dsimp only
  split
  · -- The commit itself leaves the lock state and the screenshot UI alone.
    exact fun hn => maybeContinueToLocking_keepsClosed _ hn
  · exact .of_same rfl rfl

theorem recordRender_screenshotUiOpen (n : Niri) (output : Output) (res : RenderResult) :
    (n.recordRender output res).screenshotUiOpen = n.screenshotUiOpen := by
  rw [recordRender]
  split <;> rfl

theorem redraw_keepsClosed {n : Niri} {output : Output} {rendered : RenderResult}
    {r : Niri × Option ExtSessionLock} (h : n.redraw output rendered = some r) :
    KeepsClosed n r.1 := by
  have hlock := n.recordRender_lockState output (if n.monitorsActive then rendered else .skipped)
  have hui := n.recordRender_screenshotUiOpen output
    (if n.monitorsActive then rendered else .skipped)
  unfold redraw at h
  dsimp only at h
  generalize n.recordRender output (if n.monitorsActive then rendered else .skipped) = m at h hlock hui
  split at h
  · exact absurd h (by simp)
  · obtain rfl := Option.some.inj h
    cases hst : m.lockState with
    | locking c =>
      dsimp only
      split
      · exact .of_unlocked rfl
      · rw [hlock] at hst
        split
        · exact .of_locked (isLocked_of_locking hst) hui
        · exact .of_locked (isLocked_of_locking hst) hui
    | _ => exact .of_same hlock hui

end Niri

namespace World

theorem step_keepsClosed {w w' : World} {e : Event} (h : w.next e = some w') :
    KeepsClosed w.niri w'.niri := by
  obtain ⟨⟨t, confirmed⟩, hstep, rfl⟩ := Option.map_eq_some_iff.mp h
  cases e with
  | lock c =>
    obtain ⟨rfl, -⟩ := Prod.mk.inj (Option.some.inj hstep)
    exact w.niri.lock_keepsClosed c
  | newLockSurface surface output =>
    obtain ⟨rfl, -⟩ := Prod.mk.inj (Option.some.inj hstep)
    exact w.niri.newLockSurface_keepsClosed surface output
  | commitLockSurface output mapped =>
    obtain ⟨rfl, -⟩ := Prod.mk.inj (Option.some.inj hstep)
    exact w.niri.commitLockSurface_keepsClosed output mapped
  | deadlineExpired token =>
    unfold step at hstep
    dsimp only at hstep
    split at hstep
    · obtain ⟨rfl, -⟩ := Prod.mk.inj (Option.some.inj hstep)
      exact w.niri.continueToLocking_keepsClosed
    · exact absurd hstep (by simp)
  | redraw output rendered =>
    obtain ⟨r, hr, heq⟩ := Option.map_eq_some_iff.mp hstep
    obtain ⟨rfl, -⟩ := Prod.mk.inj heq
    exact Niri.redraw_keepsClosed hr
  | addOutput output =>
    obtain ⟨n, hn, heq⟩ := Option.map_eq_some_iff.mp hstep
    obtain ⟨rfl, -⟩ := Prod.mk.inj heq
    unfold Niri.addOutput at hn
    split at hn
    · exact absurd hn (by simp)
    · obtain rfl := Option.some.inj hn
      exact .of_same rfl rfl
  | removeOutput output =>
    obtain ⟨r, hr, heq⟩ := Option.map_eq_some_iff.mp hstep
    obtain ⟨rfl, -⟩ := Prod.mk.inj heq
    unfold Niri.removeOutput at hr
    split at hr
    · obtain rfl := Option.some.inj hr
      exact .of_closed rfl
    · exact absurd hr (by simp)
  | deactivateMonitors | activateMonitors | lockClientDied client =>
    obtain ⟨rfl, -⟩ := Prod.mk.inj (Option.some.inj hstep)
    exact .of_same rfl rfl
  | unlock =>
    obtain ⟨rfl, -⟩ := Prod.mk.inj (Option.some.inj hstep)
    exact .of_unlocked rfl

end World

/-- The running compositor: the session with its displays, and the seat. -/
structure Running where
  world : World
  seat : Seat

namespace Running

def desktop (r : Running) : Desktop := ⟨r.world.niri, r.seat⟩

/-- A step of the compositor.  Whatever does not touch the session lock, the
    screenshot UI or the recent-windows UI (key events, the other UIs, focus,
    grabs, configuration) is `seat`, which may leave any seat behind. -/
inductive Step where
  | session (e : Event)
  | openScreenshotUi
  | closeScreenshotUi
  | openMru (output : Output)
  | closeMru
  | seat (seat : Seat)

def setNiri (r : Running) (n : Niri) : Running := { r with world := { r.world with niri := n } }

def step (r : Running) : Step → Option Running
  | .session e => (r.world.next e).map fun w => { r with world := w }
  | .openScreenshotUi =>
      -- `open_screenshot_ui` refuses while locked.
      some (if r.world.niri.isLocked || r.world.niri.screenshotUiOpen then r
        else r.setNiri { r.world.niri with screenshotUiOpen := true })
  | .closeScreenshotUi => some (r.setNiri { r.world.niri with screenshotUiOpen := false })
  | .openMru output =>
      -- Opened by an action, which `do_action` refuses while locked.
      some (if r.world.niri.isLocked then r
        else r.setNiri { r.world.niri with windowMruUiOutput := some output })
  | .closeMru => some (r.setNiri { r.world.niri with windowMruUiOutput := none })
  | .seat seat => some { r with seat := seat }

theorem step_keepsClosed {r r' : Running} {e : Step} (h : r.step e = some r') :
    KeepsClosed r.world.niri r'.world.niri := by
  cases e with
  | session e =>
    obtain ⟨w, hw, rfl⟩ := Option.map_eq_some_iff.mp h
    exact World.step_keepsClosed hw
  | openScreenshotUi =>
    obtain rfl := Option.some.inj h
    by_cases hlocked : r.world.niri.isLocked = true
    · rw [hlocked, Bool.true_or, if_pos rfl]
      exact .of_same rfl rfl
    · split
      · exact .of_same rfl rfl
      · exact .of_unlocked (Bool.not_eq_true _ ▸ hlocked)
  | closeScreenshotUi =>
    obtain rfl := Option.some.inj h
    exact .of_closed rfl
  | openMru output =>
    obtain rfl := Option.some.inj h
    split <;> exact .of_same rfl rfl
  | closeMru =>
    obtain rfl := Option.some.inj h
    exact .of_same rfl rfl
  | seat seat =>
    obtain rfl := Option.some.inj h
    exact .of_same rfl rfl

/-- In every state a run reaches, a locked session has its screenshot UI closed. -/
theorem closed_of_locked {seat : Seat} {es : List Step} {r : Running}
    (hrun : Run.run step ⟨World.init, seat⟩ es = some r)
    (hlocked : r.world.niri.isLocked = true) : r.world.niri.screenshotUiOpen = false := by
  have hinv := Run.run_invariant
    (fun s e s' (hs : s.world.niri.isLocked = true → s.world.niri.screenshotUiOpen = false) h =>
      step_keepsClosed h hs) hrun (fun _ => rfl)
  exact hinv hlocked

end Running

/-! ## A press on a locked screen -/

/-- The state of every UI of the compositor. -/
structure Uis where
  actionPalette : ActionPalette
  exitConfirmDialogOpen : Bool
  screenshotUiOpen : Bool
  screenshotButton : ScreenshotButton
  windowMruUiOutput : Option Output

namespace Desktop

variable {env : Env} {d : Desktop} {k : KeyEvent}

def uis (d : Desktop) : Uis :=
  { actionPalette := d.seat.actionPalette
    exitConfirmDialogOpen := d.seat.exitConfirmDialogOpen
    screenshotUiOpen := d.niri.screenshotUiOpen
    screenshotButton := d.seat.screenshotButton
    windowMruUiOutput := d.niri.windowMruUiOutput }

/-- The bind a key matches. -/
def matchedBind (env : Env) (d : Desktop) (k : KeyEvent) : Option Bind :=
  findBind env (d.makeBinds env (Modifiers.fromState k.mods)) k

/-- A bind that a shortcuts inhibitor leaves to the client. -/
def inhibited (d : Desktop) (bind : Bind) : Bool := d.isInhibitingShortcuts && bind.allowInhibiting

/-- The Escape that ends a pick or a drag. -/
def cancelsGrab (d : Desktop) (k : KeyEvent) : Bool :=
  k.raw = some Keysym.escape && d.seat.pointerGrab.any PointerGrab.canBeCancelledWithEsc

/-- With its UIs closed, the filter looks at grabs and then at binds. -/
theorem filter_press (hpressed : k.pressed = true)
    (hpalette : d.seat.actionPalette.isOpen = false)
    (hdialog : d.seat.exitConfirmDialogOpen = false)
    (hshot : d.niri.screenshotUiOpen = false) {surface : Option Surface}
    (hfocus : d.seat.keyboardFocus = .lockScreen surface) :
    d.filter env .pass k =
      if d.cancelsGrab k then
        ({ d with seat := { d.seat with pointerGrab := none } }.suppress k.keyCode,
          .intercept none)
      else
        match d.matchedBind env k with
        | none => (d, .forward)
        | some bind =>
          if d.inhibited bind then (d, .forward)
          else (d.suppress k.keyCode, .intercept (some bind)) := by
  have hspace : (if k.raw = some Keysym.space then d.setSpaceDown true else d) = d := by
    unfold setSpaceDown
    rw [hshot]
    exact ite_self d
  have hfinal : d.finalBind env k = d.matchedBind env k := by
    rw [finalBind]
    rw [hshot]
    rfl
  have hafter : ∀ r : Desktop × FilterResult, r.1.seat.keyboardFocus = .lockScreen surface →
      afterBinds k r = r := by
    intro r hr
    rw [afterBinds]
    rw [if_neg]
    rintro ⟨-, h, -⟩
    exact absurd (hr.symm.trans h) (by simp)
  rw [filter]
  rw [hpalette, hdialog, hpressed]
  dsimp only
  rw [hspace]
  simp only [ne_eq, not_true_eq_false, if_false, Bool.false_and, Bool.false_eq_true, Bool.not_true,
    Bool.and_false, Bool.true_and]
  rw [cancelsGrab]
  split
  · rfl
  · rw [shouldInterceptKey]
    rw [hfinal, hpressed]
    simp only [Bool.not_true, Bool.false_and, Bool.false_eq_true, if_false]
    cases d.matchedBind env k with
    | none => exact hafter (d, .forward) hfocus
    | some bind =>
      unfold inhibited
      dsimp only
      split
      · exact hafter (d, .forward) hfocus
      · exact hafter (d.suppress k.keyCode, .intercept (some bind)) hfocus

/-- A bind the lock refuses does nothing. -/
theorem handleBind_refused {bind : Bind} (hlocked : d.isLocked = true)
    (h : bind.passesLock = false) : d.handleBind bind = d := by
  have haction : d.doAction bind.action bind.allowWhenLocked = d := by
    rw [doAction]
    rw [hlocked]
    unfold Bind.passesLock at h
    rw [h]
    rfl
  rw [handleBind]
  cases bind.cooldown with
  | none => exact haction
  | some _ =>
    dsimp only
    rw [hlocked, h]
    rfl

/-- What a press becomes after the filter. -/
theorem onKeyboard_forward {d' : Desktop} (hpressed : k.pressed = true)
    (h : d.filter env .pass k = (d', .forward)) :
    d.onKeyboard env .pass k = (d', .focused d'.seat.keyboardFocus.surface) := by
  rw [onKeyboard]
  rw [hpressed]
  simp only [if_true, reduceCtorEq, if_false, h]
  rfl

theorem onKeyboard_swallowed {d' : Desktop} (hpressed : k.pressed = true)
    (h : d.filter env .pass k = (d', .intercept none)) :
    d.onKeyboard env .pass k = (d', .withheld) := by
  rw [onKeyboard]
  rw [hpressed]
  simp only [if_true, reduceCtorEq, if_false, h]
  rfl

theorem onKeyboard_bind {d' : Desktop} {bind : Bind} (hpressed : k.pressed = true)
    (h : d.filter env .pass k = (d', .intercept (some bind))) :
    d.onKeyboard env .pass k = ((d'.handleBind bind).startKeyRepeat env bind, .withheld) := by
  rw [onKeyboard]
  rw [hpressed]
  simp only [if_true, reduceCtorEq, if_false, h]

/-- A repeat timer is no UI and performs nothing by itself. -/
theorem startKeyRepeat_frame (env : Env) (d : Desktop) (bind : Bind) :
    (d.startKeyRepeat env bind).uis = d.uis ∧
      (d.startKeyRepeat env bind).seat.performed = d.seat.performed := by
  rw [startKeyRepeat]
  split <;> exact ⟨rfl, rfl⟩

end Desktop

/-- A press on a locked screen that matches no bind allowed there, with the
    action palette and the exit dialog closed and no accessibility grab: no UI
    changes, no action is performed, and the press reaches the focused lock
    surface exactly when no bind takes it and it cancels no grab. -/
theorem locked_press {env : Env} {seat : Seat} {es : List Running.Step} {r : Running}
    (hrun : Run.run Running.step ⟨World.init, seat⟩ es = some r)
    (hlocked : r.desktop.isLocked = true)
    (hpalette : r.seat.actionPalette.isOpen = false)
    (hdialog : r.seat.exitConfirmDialogOpen = false) {surface : Option Surface}
    (hfocus : r.seat.keyboardFocus = .lockScreen surface) {k : KeyEvent}
    (hpressed : k.pressed = true)
    (hbind : ∀ bind, r.desktop.matchedBind env k = some bind → bind.passesLock = false) :
    (r.desktop.onKeyboard env .pass k).1.uis = r.desktop.uis ∧
    (r.desktop.onKeyboard env .pass k).1.seat.performed = r.seat.performed ∧
    ((r.desktop.onKeyboard env .pass k).2 = .focused surface ↔
      r.desktop.cancelsGrab k = false ∧
      ∀ bind, r.desktop.matchedBind env k = some bind → r.desktop.inhibited bind = true) := by
  have hshot : r.desktop.niri.screenshotUiOpen = false := Running.closed_of_locked hrun hlocked
  have hfilter :=
    @Desktop.filter_press env r.desktop k hpressed hpalette hdialog hshot surface hfocus
  have hsurface : Desktop.Delivery.focused r.desktop.seat.keyboardFocus.surface =
      .focused surface := by
    show Desktop.Delivery.focused r.seat.keyboardFocus.surface = _
    rw [hfocus]
    rfl
  cases hgrab : r.desktop.cancelsGrab k with
  | true =>
    rw [hgrab, if_pos rfl] at hfilter
    rw [Desktop.onKeyboard_swallowed hpressed hfilter]
    exact ⟨rfl, rfl, by simp⟩
  | false =>
    rw [hgrab, if_neg Bool.false_ne_true] at hfilter
    cases hmatch : r.desktop.matchedBind env k with
    | none =>
      rw [hmatch] at hfilter
      rw [Desktop.onKeyboard_forward hpressed hfilter]
      exact ⟨rfl, rfl, by simp [hsurface]⟩
    | some bind =>
      rw [hmatch] at hfilter
      dsimp only at hfilter
      cases hinh : r.desktop.inhibited bind with
      | true =>
        rw [hinh, if_pos rfl] at hfilter
        rw [Desktop.onKeyboard_forward hpressed hfilter]
        exact ⟨rfl, rfl, by simp [hsurface, hinh]⟩
      | false =>
        rw [hinh, if_neg Bool.false_ne_true] at hfilter
        have hrefused := @Desktop.handleBind_refused (r.desktop.suppress k.keyCode) bind
          hlocked (hbind bind hmatch)
        rw [Desktop.onKeyboard_bind hpressed hfilter, hrefused]
        obtain ⟨huis, hperformed⟩ :=
          Desktop.startKeyRepeat_frame env (r.desktop.suppress k.keyCode) bind
        exact ⟨huis, hperformed, by simp [hinh]⟩

/-! ## A locked screen with its password prompt -/

/-- One bind, Super+T to a terminal, which is not allowed on a locked screen. -/
def terminalEnv : Env where
  modKey := .super
  binds := [⟨⟨.keysym 0x74, { compositor := true }⟩, .spawn ["alacritty"], true, none, false, true⟩]
  recentWindowsOn := true
  recentWindowsBinds := []
  disablePowerKeyHandling := false
  repeatRate := 25
  fuzzySearch := false
  text := ⟨id, id, some⟩
  keysymName sym := if sym = 0x74 then "t" else "NoSymbol"

/-- The seat once the lock surface 5 has the focus. -/
def promptSeat : Seat where
  actionPalette := ActionPalette.new
  exitConfirmDialogOpen := false
  screenshotButton := .up
  mruOpenedBinds := []
  keyboardFocus := .lockScreen (some 5)
  inhibiting := []
  pointerGrab := none
  suppressedKeys := []
  bindRepeat := none
  bindCooldowns := []
  stopped := false
  performed := []

/-- One output, locked by a client that showed its surface in time. -/
def promptSteps : List Running.Step :=
  [.session (.addOutput 0), .session (.lock ⟨1, 0⟩), .session (.newLockSurface ⟨1, false⟩ 0),
   .session (.commitLockSurface 0 true), .seat promptSeat]

/-- The key T, alone or with Super. -/
def keyT (super : Bool) : KeyEvent := ⟨28, true, 0x74, some 0x74, { logo := super }⟩

theorem locked_press_plain :
    ∃ r, Run.run Running.step ⟨World.init, promptSeat⟩ promptSteps = some r ∧
      r.desktop.isLocked = true ∧
      (r.desktop.onKeyboard terminalEnv .pass (keyT false)).2 = .focused (some 5) := by
  refine ⟨_, rfl, rfl, ?_⟩
  have hnone : ∀ n : Niri, n.windowMruUiOutput = none →
      (⟨n, promptSeat⟩ : Desktop).matchedBind terminalEnv (keyT false) = none := by
    intro n hn
    simp only [Desktop.matchedBind, Desktop.makeBinds, Desktop.mruOpen, hn]
    decide
  refine (@locked_press terminalEnv promptSeat promptSteps _ rfl rfl rfl rfl (some 5) rfl
    (keyT false) rfl ?_).2.2.mpr ⟨rfl, ?_⟩
  · intro bind hbind
    exact absurd ((hnone _ rfl).symm.trans hbind) (by simp)
  · intro bind hbind
    exact absurd ((hnone _ rfl).symm.trans hbind) (by simp)

/-- A press that matches a bind not allowed on a locked screen is taken from the
    lock surface all the same. -/
theorem locked_press_withheld :
    ¬ ∀ (env : Env) (seat : Seat) (es : List Running.Step) (r : Running)
      (surface : Option Surface) (k : KeyEvent),
      Run.run Running.step ⟨World.init, seat⟩ es = some r → r.desktop.isLocked = true →
      r.seat.exitConfirmDialogOpen = false → r.seat.keyboardFocus = .lockScreen surface →
      k.pressed = true →
      (∀ bind, r.desktop.matchedBind env k = some bind → bind.passesLock = false) →
      (r.desktop.onKeyboard env .pass k).2 = .focused surface ∧
      (r.desktop.onKeyboard env .pass k).1.uis = r.desktop.uis := by
  intro h
  have hpress := h terminalEnv promptSeat promptSteps _ (some 5) (keyT true) rfl rfl rfl rfl rfl (by
    intro bind hbind
    have hspawn : bind.allowWhenLocked = false ∧ bind.action = .spawn ["alacritty"] := by
      obtain rfl := Option.some.inj hbind
      exact ⟨rfl, rfl⟩
    rw [Bind.passesLock, hspawn.1, hspawn.2]
    rfl)
  exact absurd hpress.1 (by decide)

end Cidre.Lock
