/-
  Cidre.Lock.KeyPairing

  Presses and releases over whole runs of the keyboard, with everything else of
  the compositor changing freely between the events: the keys in
  `suppressed_keys` are the ones that are down and whose press was intercepted,
  and their releases are the ones that are withheld (`presses_releases_paired`).

  The exception is in `do_action`: changing VT and suspending clear
  `suppressed_keys`, as the releases may not be delivered any more.  A release
  that is delivered after all then goes to a client that saw no press
  (`vt_switch_unpairs`).  From the action palette they run before the press is
  recorded, which then stays paired.
-/

import Cidre.Lock.LockedTyping

namespace Cidre.Lock

/-! ## What one event does to the suppressed keys -/

/-- From `d` to `d'` the actions `acts` were performed, and nothing but they
    touched the suppressed keys. -/
structure Performs (d : Desktop) (acts : List Action) (d' : Desktop) : Prop where
  performed : d'.seat.performed = d.seat.performed ++ acts
  suppressed : d'.seat.suppressedKeys =
    if acts.any Action.clearsSuppressedKeys then [] else d.seat.suppressedKeys

/-- One of the actions clears the suppressed keys. -/
abbrev clearing (acts : List Action) : Bool := acts.any Action.clearsSuppressedKeys

namespace Desktop

variable {env : Env} {d d' : Desktop} {k : KeyEvent}

theorem performs_nothing (hperformed : d'.seat.performed = d.seat.performed)
    (hsuppressed : d'.seat.suppressedKeys = d.seat.suppressedKeys) : Performs d [] d' :=
  ⟨by rw [hperformed, List.append_nil], hsuppressed⟩

theorem Performs.setPalette {acts : List Action} (h : Performs d acts d') (p : ActionPalette) :
    Performs d acts (d'.setPalette p) :=
  ⟨h.performed, h.suppressed⟩

theorem doAction_performs (d : Desktop) (action : Action) (allowWhenLocked : Bool) :
    ∃ acts, Performs d acts (d.doAction action allowWhenLocked) := by
  unfold doAction
  split
  · exact ⟨[], performs_nothing rfl rfl⟩
  · refine ⟨[action], rfl, ?_⟩
    show (if action.clearsSuppressedKeys = true then [] else _) = _
    rw [List.any_cons, List.any_nil, Bool.or_false]

theorem handleBind_performs (d : Desktop) (bind : Bind) :
    ∃ acts, Performs d acts (d.handleBind bind) := by
  unfold handleBind
  split
  · exact doAction_performs d _ _
  split
  · exact ⟨[], performs_nothing rfl rfl⟩
  split
  · exact ⟨[], performs_nothing rfl rfl⟩
  · obtain ⟨acts, h⟩ := doAction_performs { d with seat := { d.seat with
      bindCooldowns := bind.key :: d.seat.bindCooldowns } } bind.action bind.allowWhenLocked
    exact ⟨acts, h.performed, h.suppressed⟩

theorem palettePress_performs (env : Env) (d : Desktop) (raw : Option Keysym) :
    ∃ acts, Performs d acts (d.palettePress env raw) := by
  have hnothing : ∀ p, Performs d [] (d.setPalette p) := fun _ => performs_nothing rfl rfl
  unfold palettePress
  dsimp only
  split
  · exact ⟨[], hnothing _⟩
  split
  · split
    · next action _ =>
      obtain ⟨acts, h⟩ := doAction_performs d action false
      exact ⟨acts, Performs.setPalette h _⟩
    · exact ⟨[], hnothing _⟩
  split
  · exact ⟨[], hnothing _⟩
  split
  · exact ⟨[], hnothing _⟩
  split
  · exact ⟨[], hnothing _⟩
  split
  · exact ⟨[], hnothing _⟩
  · exact ⟨[], performs_nothing rfl rfl⟩

theorem startKeyRepeat_performs (env : Env) (d : Desktop) (bind : Bind) :
    Performs d [] (d.startKeyRepeat env bind) := by
  unfold startKeyRepeat
  split
  · exact performs_nothing rfl rfl
  · exact performs_nothing rfl rfl

/-- Space in the screenshot UI moves the selection only. -/
theorem setSpaceDown_performs (d : Desktop) (down : Bool) : Performs d [] (d.setSpaceDown down) := by
  unfold setSpaceDown
  split
  · exact performs_nothing rfl rfl
  · exact performs_nothing rfl rfl

/-- How a press leaves the filter. -/
inductive Pressed (d : Desktop) (k : KeyEvent) : Desktop × FilterResult → Prop
  | forwarded (d' : Desktop) (same : Performs d [] d') : Pressed d k (d', .forward)
  /-- The palette performs its action before the key is recorded. -/
  | palette (d' : Desktop) (acts : List Action) (isOpen : d.seat.actionPalette.isOpen = true)
      (before : Performs d acts d') : Pressed d k (d'.suppress k.keyCode, .intercept none)
  | taken (d' : Desktop) (bind : Option Bind) (isClosed : d.seat.actionPalette.isOpen = false)
      (same : Performs d [] d') : Pressed d k (d'.suppress k.keyCode, .intercept bind)

theorem shouldInterceptKey_pressed (hpressed : k.pressed = true)
    (hclosed : d.seat.actionPalette.isOpen = false) (hsame : Performs d [] d') :
    Pressed d k (d'.shouldInterceptKey env k) := by
  unfold shouldInterceptKey
  rw [hpressed]
  simp only [Bool.not_true, Bool.false_and, Bool.false_eq_true, if_false]
  cases d'.finalBind env k with
  | none => exact .forwarded d' hsame
  | some bind =>
    dsimp only
    split
    · exact .forwarded d' hsame
    · exact .taken d' (some bind) hclosed hsame

theorem afterBinds_pressed {r : Desktop × FilterResult}
    (hclosed : d.seat.actionPalette.isOpen = false) (h : Pressed d k r) :
    Pressed d k (afterBinds k r) := by
  unfold afterBinds
  split
  · next hforward =>
    obtain ⟨hforward, -, -⟩ := hforward
    split
    · next bind _ =>
      cases h with
      | forwarded d' same => exact .taken d' (some bind) hclosed same
      | palette => cases hforward
      | taken => cases hforward
    · exact h
  · exact h

/-- Every branch of the filter that intercepts a press records its key. -/
theorem filter_pressed (hpressed : k.pressed = true) : Pressed d k (d.filter env .pass k) := by
  unfold filter
  rw [hpressed]
  simp only [ne_eq, not_true_eq_false, if_false, Bool.and_true, Bool.not_true, Bool.and_false,
    Bool.false_and, Bool.false_eq_true, Bool.true_and]
  cases hpalette : d.seat.actionPalette.isOpen with
  | true =>
    obtain ⟨acts, h⟩ := palettePress_performs env d k.raw
    exact .palette _ acts hpalette h
  | false =>
    simp only [Bool.false_eq_true, if_false]
    split
    · refine .taken _ none hpalette ?_
      split
      · exact performs_nothing rfl rfl
      · exact performs_nothing rfl rfl
    split
    · exact .taken { d with seat := { d.seat with pointerGrab := none } } none hpalette
        (performs_nothing rfl rfl)
    · refine afterBinds_pressed hpalette (shouldInterceptKey_pressed hpressed hpalette ?_)
      split
      · exact setSpaceDown_performs d true
      · exact performs_nothing rfl rfl

/-- How a release leaves the filter: it is forwarded unless its key is recorded. -/
inductive Released (d : Desktop) (k : KeyEvent) : Desktop × FilterResult → Prop
  | forwarded (d' : Desktop) (acts : List Action) (free : k.keyCode ∉ d.seat.suppressedKeys)
      (performed : d'.seat.performed = d.seat.performed ++ acts) (quiet : clearing acts = false)
      (same : d'.seat.suppressedKeys = d.seat.suppressedKeys) : Released d k (d', .forward)
  | withheld (d' : Desktop) (acts : List Action) (recorded : k.keyCode ∈ d.seat.suppressedKeys)
      (performed : d'.seat.performed = d.seat.performed ++ acts) (quiet : clearing acts = false)
      (same : d'.seat.suppressedKeys = d.seat.suppressedKeys) :
      Released d k (d'.unsuppress k.keyCode, .intercept none)

theorem shouldInterceptKey_released (hreleased : k.pressed = false) (hsame : Performs d [] d') :
    Released d k (d'.shouldInterceptKey env k) := by
  have hsuppressed : d'.seat.suppressedKeys = d.seat.suppressedKeys := hsame.suppressed
  unfold shouldInterceptKey
  rw [hreleased, hsuppressed]
  simp only [Bool.not_false, Bool.true_and]
  cases hcontains : d.seat.suppressedKeys.contains k.keyCode with
  | false =>
    have hfree : k.keyCode ∉ d.seat.suppressedKeys := by
      rw [← List.contains_iff_mem, hcontains]
      exact Bool.false_ne_true
    exact .forwarded d' [] hfree hsame.performed rfl hsuppressed
  | true =>
    have hrecorded := List.contains_iff_mem.mp hcontains
    simp only [Bool.not_true, Bool.false_eq_true, if_false]
    cases d'.finalBind env k with
    | none => exact .withheld d' [] hrecorded hsame.performed rfl hsuppressed
    | some bind => exact .withheld d' [] hrecorded hsame.performed rfl hsuppressed

theorem filter_released (hreleased : k.pressed = false) :
    Released d k (d.filter env .pass k) := by
  unfold filter
  rw [hreleased]
  simp only [ne_eq, not_true_eq_false, if_false, Bool.and_false, Bool.false_and,
    Bool.false_eq_true, Bool.not_false, Bool.and_true]
  split
  · -- Releasing the modifiers confirms the recent-windows UI, which clears nothing.
    obtain ⟨acts, h, hquiet⟩ : ∃ acts, Performs d acts (d.doAction .mruConfirm false) ∧
        clearing acts = false := by
      unfold doAction
      split
      · exact ⟨[], performs_nothing rfl rfl, rfl⟩
      · exact ⟨[.mruConfirm], ⟨rfl, rfl⟩, rfl⟩
    have hsuppressed : (d.doAction .mruConfirm false).seat.suppressedKeys =
        d.seat.suppressedKeys := by
      rw [h.suppressed]
      exact if_neg (by rw [show acts.any Action.clearsSuppressedKeys = false from hquiet]; decide)
    rw [hsuppressed]
    cases hcontains : d.seat.suppressedKeys.contains k.keyCode with
    | false =>
      have hfree : k.keyCode ∉ d.seat.suppressedKeys := by
        rw [← List.contains_iff_mem, hcontains]
        exact Bool.false_ne_true
      exact .forwarded _ acts hfree h.performed hquiet hsuppressed
    | true =>
      exact .withheld _ acts (List.contains_iff_mem.mp hcontains) h.performed hquiet hsuppressed
  · have hafter : ∀ r, afterBinds k r = r := by
      intro r
      unfold afterBinds
      rw [if_neg]
      rintro ⟨-, -, h⟩
      exact absurd (hreleased.symm.trans h) (by decide)
    rw [hafter]
    refine shouldInterceptKey_released hreleased ?_
    split
    · exact setSpaceDown_performs d false
    · exact performs_nothing rfl rfl

/-- A press: forwarded with the suppressed keys as they were, or withheld and
    recorded, with the actions it performed before or after that. -/
theorem onKeyboard_pressed (env : Env) (hpressed : k.pressed = true) :
    ((d.onKeyboard env .pass k).2 ≠ .withheld ∧ Performs d [] (d.onKeyboard env .pass k).1) ∨
    ((d.onKeyboard env .pass k).2 = .withheld ∧
      ∃ acts, (d.onKeyboard env .pass k).1.seat.performed = d.seat.performed ++ acts ∧
        (d.onKeyboard env .pass k).1.seat.suppressedKeys =
          if d.seat.actionPalette.isOpen then
            k.keyCode :: if clearing acts then [] else d.seat.suppressedKeys
          else if clearing acts then [] else k.keyCode :: d.seat.suppressedKeys) := by
  have hfilter : Pressed d k (d.filter env .pass k) := filter_pressed hpressed
  generalize hr : d.filter env .pass k = r at hfilter
  cases hfilter with
  | forwarded d' same =>
    left
    rw [onKeyboard_forward hpressed hr]
    exact ⟨fun h => (nomatch h), same⟩
  | palette d' acts isOpen before =>
    right
    rw [onKeyboard_swallowed hpressed hr]
    refine ⟨rfl, acts, before.performed, ?_⟩
    rw [if_pos isOpen, ← before.suppressed]
    rfl
  | taken d' bind isClosed same =>
    right
    have hsuppressed : d'.seat.suppressedKeys = d.seat.suppressedKeys := same.suppressed
    have hperformed : d'.seat.performed = d.seat.performed := by
      rw [same.performed, List.append_nil]
    cases bind with
    | none =>
      rw [onKeyboard_swallowed hpressed hr]
      refine ⟨rfl, [], same.performed, ?_⟩
      rw [if_neg (by rw [isClosed]; decide)]
      exact congrArg (k.keyCode :: ·) hsuppressed
    | some bind =>
      rw [onKeyboard_bind hpressed hr]
      obtain ⟨acts, hbind⟩ := handleBind_performs (d'.suppress k.keyCode) bind
      have hrepeat := startKeyRepeat_performs env ((d'.suppress k.keyCode).handleBind bind) bind
      refine ⟨rfl, acts, ?_, ?_⟩
      · rw [hrepeat.performed, List.append_nil, hbind.performed]
        exact congrArg (· ++ acts) hperformed
      · rw [if_neg (by rw [isClosed]; decide), ← hsuppressed]
        exact hrepeat.suppressed.trans hbind.suppressed

/-- A release is withheld exactly when its key is recorded, and then no longer is. -/
theorem onKeyboard_released (env : Env) (hreleased : k.pressed = false) :
    ((d.onKeyboard env .pass k).2 = .withheld ↔ k.keyCode ∈ d.seat.suppressedKeys) ∧
      (∃ acts, (d.onKeyboard env .pass k).1.seat.performed = d.seat.performed ++ acts ∧
        clearing acts = false) ∧
      ∀ code, code ∈ (d.onKeyboard env .pass k).1.seat.suppressedKeys ↔
        code ≠ k.keyCode ∧ code ∈ d.seat.suppressedKeys := by
  have hfilter : Released { d with seat := { d.seat with bindRepeat := none } } k
      (filter env { d with seat := { d.seat with bindRepeat := none } } .pass k) :=
    filter_released hreleased
  unfold onKeyboard
  rw [hreleased]
  simp only [Bool.false_eq_true, if_false, reduceCtorEq]
  generalize filter env { d with seat := { d.seat with bindRepeat := none } } .pass k = r
    at hfilter
  cases hfilter with
  | forwarded d' acts free performed quiet same =>
    refine ⟨iff_of_false (fun h => nomatch h) free, ⟨acts, performed, quiet⟩, fun code => ?_⟩
    show code ∈ d'.seat.suppressedKeys ↔ _
    rw [same]
    refine ⟨fun hmem => ⟨?_, hmem⟩, fun h => h.2⟩
    rintro rfl
    exact free hmem
  | withheld d' acts recorded performed quiet same =>
    refine ⟨iff_of_true rfl recorded, ⟨acts, performed, quiet⟩, fun code => ?_⟩
    show code ∈ d'.seat.suppressedKeys.filter (· ≠ k.keyCode) ↔ _
    rw [same, List.mem_filter, decide_eq_true_eq, and_comm]

end Desktop

/-! ## Runs of the keyboard -/

/-- What is known of a key from the events so far. -/
inductive Held where
  | released
  /-- It is down, and its press was forwarded. -/
  | forwarded
  /-- It is down, and its press was intercepted. -/
  | intercepted
  /-- It is down, its press was intercepted, and a change of VT or a suspend came
      after that. -/
  | dropped
deriving DecidableEq

/-- Changing VT or suspending drops the presses that were intercepted. -/
def Held.drop : Held → Held
  | .intercepted => .dropped
  | held => held

/-- The actions performed on the way from `d` to `d'` change VT or suspend. -/
def switchesVt (d d' : Desktop) : Bool :=
  clearing (d'.seat.performed.drop d.seat.performed.length)

/-- The compositor, its configuration, and what was observed of each key. -/
structure Typing where
  env : Env
  desktop : Desktop
  held : Keycode → Held

inductive Typing.Step where
  | key (k : KeyEvent)
  /-- The rest of the compositor and the configuration become anything. -/
  | change (env : Env) (d : Desktop)
  /-- An action from elsewhere: a key repeat, a button, a client of the IPC. -/
  | action (a : Action) (allowWhenLocked : Bool)

namespace Typing

variable (t : Typing)

/-- The other keys, after the actions on the way to `d'`. -/
def heldAfter (d' : Desktop) : Keycode → Held :=
  if switchesVt t.desktop d' then fun code => (t.held code).drop else t.held

/-- A key after its event, from where the event went and the actions performed.
    The palette performs its action before its press counts. -/
def observe (k : KeyEvent) (r : Desktop × Desktop.Delivery) : Held :=
  if !k.pressed then .released
  else if r.2 ≠ .withheld then .forwarded
  else if switchesVt t.desktop r.1 && !t.desktop.seat.actionPalette.isOpen then .dropped
  else .intercepted

def next : Typing.Step → Typing
  | .key k =>
      let r := t.desktop.onKeyboard t.env .pass k
      { t with
        desktop := r.1
        held := fun code => if code = k.keyCode then t.observe k r else t.heldAfter r.1 code }
  | .change env d =>
      { t with
        env := env
        desktop := { d with seat := { d.seat with
          suppressedKeys := t.desktop.seat.suppressedKeys } } }
  | .action a allowWhenLocked =>
      let d := t.desktop.doAction a allowWhenLocked
      { t with desktop := d, held := t.heldAfter d }

def step (t : Typing) (s : Typing.Step) : Option Typing := some (t.next s)

/-- Presses and releases of a key alternate. -/
def Alternates (t : Typing) : Typing.Step → Prop
  | .key k => k.pressed = true ↔ t.held k.keyCode = .released
  | .change _ _ | .action _ _ => True

/-- The suppressed keys are those that are down with their press intercepted. -/
def Paired : Prop :=
  ∀ code, code ∈ t.desktop.seat.suppressedKeys ↔ t.held code = .intercepted

variable {t : Typing}

theorem switchesVt_of_performed {d d' : Desktop} {acts : List Action}
    (h : d'.seat.performed = d.seat.performed ++ acts) : switchesVt d d' = clearing acts := by
  rw [switchesVt, h, List.drop_left]

/-- What is left of the suppressed keys after actions, and of what is known. -/
theorem paired_after_actions {d' : Desktop} {acts : List Action} (h : t.Paired)
    (hperformed : d'.seat.performed = t.desktop.seat.performed ++ acts) (code : Keycode) :
    code ∈ (if clearing acts then [] else t.desktop.seat.suppressedKeys) ↔
      t.heldAfter d' code = .intercepted := by
  unfold heldAfter
  rw [switchesVt_of_performed hperformed]
  cases clearing acts with
  | false => exact h code
  | true =>
    refine iff_of_false List.not_mem_nil ?_
    show (t.held code).drop ≠ .intercepted
    cases t.held code <;> exact fun h => nomatch h

theorem next_paired {s : Typing.Step} (h : t.Paired) (halternates : t.Alternates s) :
    (t.next s).Paired := by
  cases s with
  | change env d => exact h
  | action a allowWhenLocked =>
    obtain ⟨acts, hacts⟩ := Desktop.doAction_performs t.desktop a allowWhenLocked
    intro code
    show code ∈ (t.desktop.doAction a allowWhenLocked).seat.suppressedKeys ↔ _
    rw [hacts.suppressed]
    exact paired_after_actions h hacts.performed code
  | key k =>
    intro code
    show code ∈ (t.desktop.onKeyboard t.env .pass k).1.seat.suppressedKeys ↔
      (if code = k.keyCode then t.observe k (t.desktop.onKeyboard t.env .pass k)
        else t.heldAfter (t.desktop.onKeyboard t.env .pass k).1 code) = .intercepted
    cases hpressed : k.pressed with
    | true =>
      have hobserve : ∀ r, t.observe k r = if r.2 ≠ .withheld then .forwarded
          else if switchesVt t.desktop r.1 && !t.desktop.seat.actionPalette.isOpen then .dropped
          else .intercepted := by
        intro r
        rw [observe, hpressed]
        rfl
      rcases Desktop.onKeyboard_pressed (d := t.desktop) t.env hpressed with
        ⟨hforwarded, hsame⟩ | ⟨hwithheld, acts, hperformed, hsuppressed⟩
      · have hsuppressed : (t.desktop.onKeyboard t.env .pass k).1.seat.suppressedKeys =
            t.desktop.seat.suppressedKeys := hsame.suppressed
        rw [hobserve, if_pos hforwarded, hsuppressed]
        by_cases hcode : code = k.keyCode
        · -- Its last event was a release.
          have hnot := h k.keyCode
          rw [halternates.mp hpressed] at hnot
          rw [if_pos hcode, hcode]
          exact iff_of_false (fun hmem => nomatch hnot.mp hmem) fun heq => nomatch heq
        · rw [if_neg hcode]
          exact paired_after_actions h hsame.performed code
      · rw [hobserve, if_neg (not_not.mpr hwithheld), hsuppressed,
          switchesVt_of_performed hperformed]
        have hothers := paired_after_actions h hperformed code
        cases t.desktop.seat.actionPalette.isOpen with
        | true =>
          rw [if_pos rfl, List.mem_cons, Bool.not_true, Bool.and_false]
          by_cases hcode : code = k.keyCode
          · rw [if_pos hcode]
            exact iff_of_true (Or.inl hcode) rfl
          · rw [if_neg hcode, or_iff_right hcode, hothers]
        | false =>
          rw [if_neg Bool.false_ne_true, Bool.not_false, Bool.and_true]
          by_cases hcode : code = k.keyCode
          · rw [if_pos hcode]
            cases clearing acts with
            | true => exact iff_of_false List.not_mem_nil fun heq => nomatch heq
            | false => exact iff_of_true (List.mem_cons.mpr (Or.inl hcode)) rfl
          · rw [if_neg hcode, ← hothers]
            cases clearing acts with
            | true => exact Iff.rfl
            | false => exact List.mem_cons.trans (or_iff_right hcode)
    | false =>
      obtain ⟨-, ⟨acts, hperformed, hquiet⟩, hsuppressed⟩ :=
        Desktop.onKeyboard_released (d := t.desktop) t.env hpressed
      have hothers := paired_after_actions h hperformed code
      rw [hquiet, if_neg Bool.false_ne_true] at hothers
      have hobserve : ∀ r, t.observe k r = .released := by
        intro r
        rw [observe, hpressed]
        rfl
      rw [hsuppressed, hobserve]
      by_cases hcode : code = k.keyCode
      · rw [if_pos hcode]
        exact iff_of_false (fun hmem => hmem.1 hcode) fun heq => nomatch heq
      · rw [if_neg hcode, and_iff_right hcode, hothers]

end Typing

/-- The step changes no VT and does not suspend. -/
def Typing.Quiet (t : Typing) : Typing.Step → Prop
  | .change _ _ => True
  | s => switchesVt t.desktop (t.next s).desktop = false

def Typing.NoneDropped (t : Typing) : Prop := ∀ code, t.held code ≠ .dropped

/-- Without a change of VT or a suspend nothing is dropped. -/
theorem Typing.next_noneDropped {t : Typing} {s : Typing.Step} (h : t.NoneDropped)
    (hquiet : t.Quiet s) : (t.next s).NoneDropped := by
  intro code
  have hkept : ∀ d', switchesVt t.desktop d' = false → t.heldAfter d' = t.held := by
    intro d' hd'
    rw [heldAfter, hd']
    exact if_neg Bool.false_ne_true
  cases s with
  | change env d => exact h code
  | action a allowWhenLocked =>
    have hquiet : switchesVt t.desktop (t.desktop.doAction a allowWhenLocked) = false := hquiet
    show t.heldAfter (t.desktop.doAction a allowWhenLocked) code ≠ .dropped
    rw [hkept _ hquiet]
    exact h code
  | key k =>
    have hquiet : switchesVt t.desktop (t.desktop.onKeyboard t.env .pass k).1 = false := hquiet
    show (if code = k.keyCode then t.observe k (t.desktop.onKeyboard t.env .pass k)
      else t.heldAfter (t.desktop.onKeyboard t.env .pass k).1 code) ≠ .dropped
    rw [hkept _ hquiet]
    split
    · unfold observe
      rw [hquiet, Bool.false_and, if_neg Bool.false_ne_true]
      split
      · exact fun heq => nomatch heq
      split
      · exact fun heq => nomatch heq
      · exact fun heq => nomatch heq
    · exact h code

/-- After every run in which each key alternates, the suppressed keys are those
    that are down with their press intercepted and not dropped, and a release is
    forwarded exactly when its press was forwarded or was dropped.  Only a change
    of VT or a suspend drops a press. -/
theorem presses_releases_paired (t t' : Typing) (steps : List Typing.Step)
    (hup : ∀ code, t.held code = .released) (hnone : t.desktop.seat.suppressedKeys = [])
    (halternates : Run.StepsMeet Typing.step Typing.Alternates t steps)
    (hrun : Run.run Typing.step t steps = some t') :
    (∀ code, code ∈ t'.desktop.seat.suppressedKeys ↔ t'.held code = .intercepted) ∧
      (∀ k, k.pressed = false → t'.held k.keyCode ≠ .released →
        ((t'.desktop.onKeyboard t'.env .pass k).2 ≠ .withheld ↔
          t'.held k.keyCode = .forwarded ∨ t'.held k.keyCode = .dropped)) ∧
      (Run.StepsMeet Typing.step Typing.Quiet t steps → ∀ code, t'.held code ≠ .dropped) := by
  have hstart : t.Paired := fun code => by
    rw [hnone, hup code]
    exact iff_of_false List.not_mem_nil fun h => nomatch h
  have hpaired : t'.Paired := Run.run_invariant_of_steps
    (fun s e s' hinv hgood hstep => Option.some.inj hstep ▸ Typing.next_paired hinv hgood)
    halternates hrun hstart
  refine ⟨hpaired, fun k hreleased hdown => ?_, fun hquiet => ?_⟩
  · rw [ne_eq, (Desktop.onKeyboard_released (d := t'.desktop) t'.env hreleased).1,
      hpaired k.keyCode]
    revert hdown
    cases t'.held k.keyCode <;> decide
  · have hstart : t.NoneDropped := fun code heq => nomatch (hup code).symm.trans heq
    have hend : t'.NoneDropped := Run.run_invariant_of_steps
      (fun s e s' hinv hgood hstep => Option.some.inj hstep ▸ Typing.next_noneDropped hinv hgood)
      hquiet hrun hstart
    exact hend

/-- A seat with the focus on a window, on an unlocked machine. -/
def typingDesktop : Desktop :=
  ⟨(⟨World.init, promptSeat⟩ : Running).desktop.niri,
    { promptSeat with keyboardFocus := .layout (some 5) }⟩

def typingStart : Typing := ⟨terminalEnv, typingDesktop, fun _ => .released⟩

/-- Super+T, its release withheld like its press. -/
theorem terminal_press_paired :
    ∃ t', Run.run Typing.step typingStart [.key (keyT true)] = some t' ∧
      28 ∈ t'.desktop.seat.suppressedKeys ∧
      (t'.desktop.onKeyboard t'.env .pass { keyT true with pressed := false }).2 = .withheld := by
  obtain ⟨hsuppressed, hrelease, -⟩ := presses_releases_paired typingStart
    (typingStart.next (.key (keyT true))) [.key (keyT true)] (fun _ => rfl) rfl
    ⟨iff_of_true rfl rfl, fun _ _ => trivial⟩ rfl
  have hheld : (typingStart.next (.key (keyT true))).held 28 = .intercepted := by decide +kernel
  refine ⟨_, rfl, (hsuppressed 28).mpr hheld, ?_⟩
  by_contra hforwarded
  rcases (hrelease { keyT true with pressed := false } rfl
    (fun heq => absurd (hheld.symm.trans heq) (by decide))).mp
    hforwarded with h | h
  · exact absurd (hheld.symm.trans h) (by decide)
  · exact absurd (hheld.symm.trans h) (by decide)

/-- The key that switches to VT 2. -/
def keySwitchVt (pressed : Bool) : KeyEvent :=
  ⟨60, pressed, Keysym.xf86SwitchVt1 + 1, none, { ctrl := true, alt := true }⟩

/-- The press that changes the VT is withheld, and its release is forwarded. -/
theorem vt_switch_unpairs :
    ¬∀ (env : Env) (d : Desktop) (press release : KeyEvent), d.seat.suppressedKeys = [] →
      press.pressed = true → release.pressed = false → release.keyCode = press.keyCode →
      (((d.onKeyboard env .pass press).1.onKeyboard env .pass release).2 ≠ .withheld ↔
        (d.onKeyboard env .pass press).2 ≠ .withheld) := by
  intro hclaim
  have h := hclaim terminalEnv typingDesktop (keySwitchVt true) (keySwitchVt false) rfl rfl rfl rfl
  revert h
  decide +kernel

end Cidre.Lock
