/-
  Cidre.A11y.KeyGrabs

  Presses and releases over whole runs of the keyboard monitor.  What is suppressed is
  remembered by keysym, and a key is known by its code: the two agree as long as a
  held key keeps its keysym and no other key is pressed with the keysym of a blocked
  one (`strokes_balanced`).  The keysym of a held key changes with the modifiers, and
  then its release passes and its keysym stays suppressed (`shifted_key_unbalanced`).
-/

import Cidre.A11y.KeyboardMonitor
import Cidre.Lib.Run

namespace Cidre.A11y

/-! ## Runs -/

/-- A key: up, or held with the keysym it was pressed with. -/
inductive Held where
  | up
  | down (keysym : Keysym) (blocked : Bool)
deriving DecidableEq, Repr

/-- A press and its release, and whether each was blocked. -/
structure Stroke where
  press : Bool
  release : Bool
deriving DecidableEq, Repr

/-- The monitor, the keys that are held, and the strokes so far. -/
structure Typing where
  data : Data
  held : Keycode → Held
  strokes : List Stroke

/-- A key event of the keyboard: its keysym depends on the modifiers. -/
structure KeyPress where
  repeatDelay : Duration
  time : Duration
  keycode : Keycode
  released : Bool
  mods : Nat
  unichar : Nat
deriving DecidableEq, Repr

namespace Typing

inductive Step where
  | key (k : KeyPress)
  | grabKeyboard (sender : BusName)
  | ungrabKeyboard (sender : BusName)
  | watchKeyboard (sender : BusName)
  | unwatchKeyboard (sender : BusName)
  | setKeyGrabs (sender : BusName) (modifiers : List Keysym) (keystrokes : List (Keysym × Nat))
  | clientDisappeared (name : BusName)
  | monitorBroken

def start : Typing := ⟨Data.default, fun _ => .up, []⟩

/-- The event as the monitor sees it: `keysym` is the layout of the keyboard. -/
def eventOf (keysym : Keycode → Nat → Keysym) (k : KeyPress) : Key :=
  ⟨k.repeatDelay, k.time, k.keycode, k.released, k.mods, keysym k.keycode k.mods, k.unichar⟩

/-- A stroke is complete with the release of a held key. -/
def Held.finish (blocked : Bool) : Held → List Stroke
  | .up => []
  | .down _ press => [⟨press, blocked⟩]

def nextKey (t : Typing) (k : Key) : Typing :=
  let blocked := decide ((t.data.processKey k).2.1 ≠ .pass)
  { data := (t.data.processKey k).1
    held := Function.update t.held k.keycode (if k.released then .up else .down k.keysym blocked)
    strokes := t.strokes ++ if k.released then Held.finish blocked (t.held k.keycode) else [] }

def next (keysym : Keycode → Nat → Keysym) (t : Typing) : Step → Typing
  | .key k => t.nextKey (eventOf keysym k)
  | .grabKeyboard sender => { t with data := t.data.grabKeyboard sender }
  | .ungrabKeyboard sender => { t with data := t.data.ungrabKeyboard sender }
  | .watchKeyboard sender => { t with data := t.data.watchKeyboard sender }
  | .unwatchKeyboard sender => { t with data := t.data.unwatchKeyboard sender }
  | .setKeyGrabs sender modifiers keystrokes =>
      { t with data := t.data.setKeyGrabs sender modifiers keystrokes }
  | .clientDisappeared name => { t with data := t.data.clientDisappeared name }
  | .monitorBroken => { t with data := t.data.monitorBroken }

def step (keysym : Keycode → Nat → Keysym) (t : Typing) (s : Step) : Option Typing :=
  some (t.next keysym s)

/-- Each key is pressed when it is up, and released when it is held. -/
def Alternates (t : Typing) : Step → Prop
  | .key k => k.released = true ↔ t.held k.keycode ≠ .up
  | _ => True

instance (t : Typing) : (s : Step) → Decidable (t.Alternates s)
  | .key _ => inferInstanceAs (Decidable (_ ↔ _))
  | .grabKeyboard _ | .ungrabKeyboard _ | .watchKeyboard _ | .unwatchKeyboard _
  | .setKeyGrabs _ _ _ | .clientDisappeared _ | .monitorBroken => inferInstanceAs (Decidable True)

/-- The keysym of an event tells its key, which was `held` so, from the others.

    A press: its keysym is not suppressed already, or the press passes as the second of
    a grabbed modifier.  The release of a blocked press: the keysym is that of the press.
    The release of another press: the keysym is not suppressed. -/
def Tells (data : Data) (k : Key) : Held → Prop
  | .up => k.keysym ∉ data.suppressedKeys ∨ data.isSecondPress k = true
  | .down pressed true => k.keysym = pressed
  | .down _ false => k.keysym ∉ data.suppressedKeys

instance (data : Data) (k : Key) : (held : Held) → Decidable (Tells data k held)
  | .up => inferInstanceAs (Decidable (_ ∨ _))
  | .down pressed true => inferInstanceAs (Decidable (k.keysym = pressed))
  | .down _ false => inferInstanceAs (Decidable (¬ _))

def Told (keysym : Keycode → Nat → Keysym) (t : Typing) : Step → Prop
  | .key k => Tells t.data (eventOf keysym k) (t.held k.keycode)
  | _ => True

instance (keysym : Keycode → Nat → Keysym) (t : Typing) : (s : Step) → Decidable (t.Told keysym s)
  | .key k => inferInstanceAs (Decidable (Tells t.data (eventOf keysym k) (t.held k.keycode)))
  | .grabKeyboard _ | .ungrabKeyboard _ | .watchKeyboard _ | .unwatchKeyboard _
  | .setKeyGrabs _ _ _ | .clientDisappeared _ | .monitorBroken => inferInstanceAs (Decidable True)

/-- A release is blocked if and only if its press was, and no key stays dead. -/
structure Balanced (t : Typing) : Prop where
  strokes : ∀ s ∈ t.strokes, s.release = s.press
  released : (∀ code, t.held code = .up) → t.data.suppressedKeys = ∅

/-! ## The invariant -/

/-- The suppressed keysyms are those of the held keys whose press was blocked, each of
    one key. -/
structure Tracked (t : Typing) : Prop where
  suppressed : ∀ s, s ∈ t.data.suppressedKeys ↔ ∃ code, t.held code = .down s true
  apart : ∀ s code code', t.held code = .down s true → t.held code' = .down s true → code = code'
  strokes : ∀ s ∈ t.strokes, s.release = s.press

theorem Tracked.balanced {t : Typing} (h : t.Tracked) : t.Balanced where
  strokes := h.strokes
  released := by
    intro hup
    refine Finset.eq_empty_of_forall_notMem fun s hs => ?_
    obtain ⟨code, hcode⟩ := (h.suppressed s).mp hs
    rw [hup code] at hcode
    exact nomatch hcode

theorem tracked_start : start.Tracked where
  suppressed := fun s => iff_of_false (Finset.notMem_empty s) fun ⟨_, h⟩ => nomatch h
  apart := fun _ _ _ h => nomatch h
  strokes := fun _ h => nomatch h

/-- A step that leaves the suppressed keys and the held ones alone. -/
theorem Tracked.of_data {t : Typing} (h : t.Tracked) {data : Data}
    (hdata : data.suppressedKeys = t.data.suppressedKeys) : Tracked { t with data := data } where
  suppressed := by
    intro s
    show s ∈ data.suppressedKeys ↔ _
    rw [hdata]
    exact h.suppressed s
  apart := h.apart
  strokes := h.strokes

section Key

variable {t : Typing} {k : Key}

theorem nextKey_held (code : Keycode) :
    (t.nextKey k).held code =
      if code = k.keycode then
        if k.released then .up else .down k.keysym (decide ((t.data.processKey k).2.1 ≠ .pass))
      else t.held code := by
  show Function.update t.held k.keycode _ code = _
  rw [Function.update_apply]

theorem nextKey_strokes :
    (t.nextKey k).strokes = t.strokes ++ if k.released then
      Held.finish (decide ((t.data.processKey k).2.1 ≠ .pass)) (t.held k.keycode) else [] := rfl

/-- A press whose keysym is not suppressed yet is tracked. -/
theorem Tracked.press (h : t.Tracked) (hpressed : k.released = false)
    (hup : t.held k.keycode = .up)
    (htold : k.keysym ∉ t.data.suppressedKeys ∨ t.data.isSecondPress k = true) :
    (t.nextKey k).Tracked := by
  have hheld : ∀ code, (t.nextKey k).held code = if code = k.keycode then
      .down k.keysym (decide ((t.data.processKey k).2.1 ≠ .pass)) else t.held code := by
    intro code
    rw [nextKey_held, hpressed]
    rfl
  have hkept : ∀ s code, t.held code = .down s true → code ≠ k.keycode := by
    rintro s code hcode rfl
    rw [hup] at hcode
    exact nomatch hcode
  have hdata : (t.nextKey k).data.suppressedKeys = if (t.data.processKey k).2.1 ≠ .pass then
      insert k.keysym t.data.suppressedKeys else t.data.suppressedKeys :=
    Data.processKey_press hpressed
  by_cases hblock : (t.data.processKey k).2.1 ≠ .pass
  · rw [if_pos hblock] at hdata
    have hfree : k.keysym ∉ t.data.suppressedKeys := by
      rcases htold with hfree | hsecond
      · exact hfree
      · exact absurd (Data.processKey_secondPress hpressed hsecond) hblock
    have hnew : ∀ code, t.held code ≠ .down k.keysym true :=
      fun code hcode => hfree ((h.suppressed _).mpr ⟨code, hcode⟩)
    have hdown : ∀ s code, (t.nextKey k).held code = .down s true ↔
        (code = k.keycode ∧ s = k.keysym) ∨ t.held code = .down s true := by
      intro s code
      rw [hheld]
      by_cases hcode : code = k.keycode
      · subst hcode
        rw [if_pos rfl, decide_eq_true hblock, hup]
        simp [eq_comm]
      · rw [if_neg hcode]
        simp [hcode]
    refine ⟨fun s => ?_, fun s code code' hc hc' => ?_, ?_⟩
    · rw [hdata, Finset.mem_insert, h.suppressed]
      constructor
      · rintro (rfl | ⟨code, hcode⟩)
        · exact ⟨k.keycode, (hdown _ _).mpr (Or.inl ⟨rfl, rfl⟩)⟩
        · exact ⟨code, (hdown _ _).mpr (Or.inr hcode)⟩
      · rintro ⟨code, hcode⟩
        rcases (hdown _ _).mp hcode with ⟨-, rfl⟩ | hcode
        · exact Or.inl rfl
        · exact Or.inr ⟨code, hcode⟩
    · rcases (hdown _ _).mp hc with ⟨rfl, rfl⟩ | hc
      · rcases (hdown _ _).mp hc' with ⟨rfl, -⟩ | hc'
        · rfl
        · exact absurd hc' (hnew code')
      · rcases (hdown _ _).mp hc' with ⟨-, rfl⟩ | hc'
        · exact absurd hc (hnew code)
        · exact h.apart s code code' hc hc'
    · rw [nextKey_strokes, if_neg (by simp [hpressed]), List.append_nil]
      exact h.strokes
  · rw [if_neg hblock] at hdata
    have hdown : ∀ s code, (t.nextKey k).held code = .down s true ↔ t.held code = .down s true := by
      intro s code
      rw [hheld]
      by_cases hcode : code = k.keycode
      · subst hcode
        rw [if_pos rfl, decide_eq_false hblock, hup]
        simp
      · rw [if_neg hcode]
    refine ⟨fun s => ?_, fun s code code' hc hc' => ?_, ?_⟩
    · rw [hdata, h.suppressed]
      exact exists_congr fun code => (hdown s code).symm
    · exact h.apart s code code' ((hdown _ _).mp hc) ((hdown _ _).mp hc')
    · rw [nextKey_strokes, if_neg (by simp [hpressed]), List.append_nil]
      exact h.strokes

/-- A release whose keysym says how its press went ends what that press began. -/
theorem Tracked.release (h : t.Tracked) (hreleased : k.released = true) {pressed : Keysym}
    {blocked : Bool} (hdown : t.held k.keycode = .down pressed blocked)
    (hsame : blocked = true → k.keysym = pressed)
    (hfree : blocked = false → k.keysym ∉ t.data.suppressedKeys) : (t.nextKey k).Tracked := by
  obtain ⟨hblock, hdata⟩ : ((t.data.processKey k).2.1 ≠ .pass ↔ _) ∧ _ :=
    Data.processKey_release hreleased
  have hheld : ∀ code, (t.nextKey k).held code =
      if code = k.keycode then .up else t.held code := by
    intro code
    rw [nextKey_held, if_pos hreleased]
  have hleft : ∀ s code, (t.nextKey k).held code = .down s true ↔
      code ≠ k.keycode ∧ t.held code = .down s true := by
    intro s code
    rw [hheld]
    by_cases hcode : code = k.keycode
    · rw [if_pos hcode]
      exact iff_of_false (fun heq => nomatch heq) fun hne => hne.1 hcode
    · rw [if_neg hcode, and_iff_right hcode]
  -- The release is blocked like its press.
  have hpaired : decide ((t.data.processKey k).2.1 ≠ .pass) = blocked := by
    cases blocked with
    | true =>
      refine decide_eq_true (hblock.mpr ((h.suppressed _).mpr ⟨k.keycode, ?_⟩))
      rw [hsame rfl, hdown]
    | false => exact decide_eq_false fun hne => hfree rfl (hblock.mp hne)
  refine ⟨fun s => ?_, fun s code code' hc hc' => ?_, fun s hs => ?_⟩
  · show s ∈ (t.data.processKey k).1.suppressedKeys ↔ _
    rw [hdata, Finset.mem_erase, h.suppressed]
    simp only [hleft]
    constructor
    · rintro ⟨hne, code, hcode⟩
      refine ⟨code, ?_, hcode⟩
      rintro rfl
      rw [hdown] at hcode
      cases hcode
      exact hne (hsame rfl).symm
    · rintro ⟨code, hne, hcode⟩
      refine ⟨?_, code, hcode⟩
      rintro rfl
      cases blocked with
      | true => exact hne (h.apart k.keysym code k.keycode hcode (by rw [hdown, hsame rfl]))
      | false => exact hfree rfl ((h.suppressed _).mpr ⟨code, hcode⟩)
  · exact h.apart s code code' ((hleft _ _).mp hc).2 ((hleft _ _).mp hc').2
  · rw [nextKey_strokes, if_pos hreleased, hdown, hpaired] at hs
    rcases List.mem_append.mp hs with hs | hs
    · exact h.strokes s hs
    · rw [List.mem_singleton.mp hs]

end Key

theorem Tracked.next {keysym : Keycode → Nat → Keysym} {t : Typing} {s : Step} (h : t.Tracked)
    (halternates : t.Alternates s) (htold : t.Told keysym s) : (t.next keysym s).Tracked := by
  cases s with
  | key k =>
    have halternates : k.released = true ↔ t.held k.keycode ≠ .up := halternates
    have htold : Tells t.data (eventOf keysym k) (t.held k.keycode) := htold
    cases hheld : t.held k.keycode with
    | up =>
      rw [hheld] at htold
      have hpressed : k.released = false := by
        rw [← Bool.not_eq_true, halternates]
        exact not_not_intro hheld
      exact h.press hpressed hheld htold
    | down pressed blocked =>
      rw [hheld] at htold
      have hreleased : k.released = true := halternates.mpr (by simp [hheld])
      cases blocked with
      | true => exact h.release hreleased hheld (fun _ => htold) (by simp)
      | false => exact h.release hreleased hheld (by simp) fun _ => htold
  | grabKeyboard sender | watchKeyboard sender | setKeyGrabs sender modifiers keystrokes
  | clientDisappeared name | monitorBroken => exact h.of_data rfl
  | ungrabKeyboard sender | unwatchKeyboard sender =>
    exact h.of_data (Data.onClientIfAny_suppressedKeys _ _)

/-- In every run in which each key alternates and every keysym tells its key from the
    others, a release is blocked if and only if its press was, and nothing is suppressed
    when no key is held. -/
theorem strokes_balanced (keysym : Keycode → Nat → Keysym) (steps : List Step) (t : Typing)
    (halternates : Run.StepsMeet (step keysym) Alternates start steps)
    (htold : Run.StepsMeet (step keysym) (Told keysym) start steps)
    (hrun : Run.run (step keysym) start steps = some t) : t.Balanced := by
  have htracked : t.Tracked := Run.run_invariant_of_steps
    (fun t s t' htracked hgood hstep => Option.some.inj hstep ▸ htracked.next hgood.1 hgood.2)
    (halternates.and htold) hrun tracked_start
  exact htracked.balanced

/-! ## A screen reader -/

/-- A keyboard on which Shift, which is modifier 1, makes capital letters of the keys
    38 and 56. -/
def letters (code : Keycode) (mods : Nat) : Keysym :=
  if code = 50 then 0xffe1 else if mods = 1 then code + 27 else code + 59

/-- A key, two seconds after another. -/
def tapped (code : Keycode) (released : Bool) (mods : Nat) : Step :=
  .key ⟨600000000, 2000000000, code, released, mods, 0⟩

/-- A screen reader grabs the keyboard, and `a` is pressed and released. -/
def plainRun : List Step := [.grabKeyboard ":1.7", tapped 38 false 0, tapped 38 true 0]

theorem plainRun_balanced :
    ∃ t, Run.run (step letters) start plainRun = some t ∧ t.Balanced ∧
      t.strokes = [⟨true, true⟩] :=
  ⟨_, rfl, strokes_balanced letters plainRun _ (by decide +kernel) (by decide +kernel) rfl,
    by decide +kernel⟩

/-- Shift is released before the letter that was pressed with it. -/
def shiftedRun : List Step :=
  [.grabKeyboard ":1.7", tapped 50 false 0, tapped 38 false 1, tapped 50 true 1, tapped 38 true 0]

/-- The release of the letter passes, and `A` stays dead. -/
theorem shifted_key_unbalanced :
    ¬∀ (keysym : Keycode → Nat → Keysym) (steps : List Step) (t : Typing),
      Run.StepsMeet (step keysym) Alternates start steps →
        Run.run (step keysym) start steps = some t → t.Balanced := by
  intro hclaim
  have hbalanced := hclaim letters shiftedRun _ (by decide +kernel) rfl
  have hstroke := hbalanced.strokes ⟨true, false⟩ (by decide +kernel)
  exact absurd hstroke (by decide)

end Typing

end Cidre.A11y
