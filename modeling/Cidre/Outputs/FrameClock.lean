/-
  Cidre.Outputs.FrameClock

  `FrameClock` of `frame_clock.rs`: when the next frame of an output will be shown, from
  the last time one was.

  A `Duration` is its number of nanoseconds, without an upper bound.  The monotonic time
  that `next_presentation_time` reads is its argument.
-/

import Mathlib.Data.PNat.Basic
import Mathlib.Order.Bounds.Basic
import Cidre.Lib.Panic

namespace Cidre.Outputs

open Panic

/-! ## The grid of refreshes -/

/-- The refreshes after `last` of an output that refreshes every `r`. -/
def refreshes (last r : ℕ) : Set ℕ := {t | ∃ k, 1 ≤ k ∧ t = last + k * r}

section Grid

variable {last r now t : ℕ}

theorem le_of_mem_refreshes (h : t ∈ refreshes last r) : last + r ≤ t := by
  obtain ⟨k, hk, rfl⟩ := h
  have hr : 1 * r ≤ k * r := Nat.mul_le_mul_right r hk
  omega

/-- Whoever asks before the refresh after `last` gets that one. -/
theorem isLeast_first (h : now < last + r) :
    IsLeast {t | t ∈ refreshes last r ∧ now < t} (last + r) := by
  refine ⟨⟨⟨1, le_rfl, by rw [one_mul]⟩, h⟩, ?_⟩
  rintro t ⟨ht, -⟩
  exact le_of_mem_refreshes ht

/-- The least multiple of `r` past a time. -/
def past (r since : ℕ) : ℕ := (since / r + 1) * r

theorem lt_past (hr : 0 < r) (since : ℕ) : since < past r since := by
  have hmod : since % r < r := Nat.mod_lt since hr
  have hdiv : r * (since / r) + since % r = since := Nat.div_add_mod since r
  unfold past
  rw [Nat.succ_mul, Nat.mul_comm]
  omega

theorem past_le (since : ℕ) {k : ℕ} (hk : since < k * r) : past r since ≤ k * r := by
  have hlt : since / r < k := Nat.div_lt_of_lt_mul (by rwa [Nat.mul_comm] at hk)
  exact Nat.mul_le_mul_right r hlt

theorem past_mono {since later : ℕ} (h : since ≤ later) : past r since ≤ past r later :=
  Nat.mul_le_mul_right r (Nat.succ_le_succ (Nat.div_le_div_right h))

theorem past_eq_self {since : ℕ} (h : since < r) : past r since = r := by
  rw [past, Nat.div_eq_of_lt h, Nat.zero_add, Nat.one_mul]

theorem lt_past_of_le (hr : 0 < r) {since : ℕ} (h : r ≤ since) : r < past r since :=
  h.trans_lt (lt_past hr since)

/-- One refresh past the grid, for who asks at one. -/
theorem past_self (hr : 0 < r) : past r r = r + r := by
  rw [past, Nat.div_self hr, Nat.succ_mul, Nat.one_mul]

theorem isLeast_past (hr : 0 < r) (h : last ≤ now) :
    IsLeast {t | t ∈ refreshes last r ∧ now < t} (last + past r (now - last)) := by
  have hlt : now - last < past r (now - last) := lt_past hr (now - last)
  refine ⟨⟨⟨(now - last) / r + 1, Nat.le_add_left 1 _, rfl⟩, by omega⟩, ?_⟩
  rintro t ⟨⟨k, hk, rfl⟩, hnow⟩
  have hle : past r (now - last) ≤ k * r := past_le (now - last) (by omega)
  omega

end Grid

/-! ## The clock -/

structure FrameClock where
  lastPresentationTime : Option ℕ
  refreshIntervalNs : Option ℕ+
  vrr : Bool
deriving DecidableEq

/-- `a - b` of durations. -/
def subDuration (a b : ℕ) : Option ℕ := if b ≤ a then some (a - b) else none

theorem subDuration_eq {a b : ℕ} (h : b ≤ a) : subDuration a b = some (a - b) := if_pos h

namespace FrameClock

/-- `NonZeroU64::new(interval.subsec_nanos().into()).unwrap()`, under the assertion that
there are no whole seconds. -/
def intervalNs (interval : ℕ) : Option ℕ+ :=
  if h : interval / 1000000000 = 0 ∧ 0 < interval % 1000000000 then
    some ⟨interval % 1000000000, h.2⟩
  else
    none

def new (refreshInterval : Option ℕ) (vrr : Bool) : Option FrameClock := do
  let refreshIntervalNs ← refreshInterval.mapM intervalNs
  return { lastPresentationTime := none, refreshIntervalNs, vrr }

def setVrr (clock : FrameClock) (vrr : Bool) : FrameClock :=
  if clock.vrr = vrr then clock else { clock with vrr, lastPresentationTime := none }

def presented (clock : FrameClock) (presentationTime : ℕ) : FrameClock :=
  if presentationTime = 0 then
    clock
  else
    { clock with lastPresentationTime := some presentationTime }

/-- The time to count from: `now`, or after an early VBlank a refresh interval later. -/
def countFrom (refreshIntervalNs last now : ℕ) : Option ℕ :=
  if now ≤ last then
    if now + refreshIntervalNs < last then do
      -- an argument of the message in the log
      let _ ← subDuration last (now + refreshIntervalNs)
      return last + refreshIntervalNs
    else
      some (now + refreshIntervalNs)
  else
    some now

def nextPresentationTime (clock : FrameClock) (now : ℕ) : Option ℕ :=
  match clock.refreshIntervalNs, clock.lastPresentationTime with
  | some refreshIntervalNs, some last => do
      let now ← countFrom refreshIntervalNs last now
      let sinceLastNs ← subDuration now last
      let toNextNs := (sinceLastNs / refreshIntervalNs + 1) * refreshIntervalNs
      if clock.vrr ∧ toNextNs > refreshIntervalNs then
        return now
      else
        return last + toNextNs
  | _, _ => some now

/-! ## What is predicted -/

/-- The time `t` that is predicted at `now`, with the last frame shown at `last` and a
refresh every `r`. -/
structure Predicts (clock : FrameClock) (r last now t : ℕ) : Prop where
  /-- without variable refresh, the next refresh -/
  fixed : clock.vrr = false → IsLeast {t | t ∈ refreshes last r ∧ now < t} t
  /-- with it, at once, but not sooner than a refresh after the last frame -/
  adaptive : clock.vrr = true → last < now → t = max now (last + r)
  /-- asking later never predicts an earlier time -/
  monotone : ∀ later, now ≤ later → Returns (clock.nextPresentationTime later) (t ≤ ·)

/-- A clock that has shown a frame at `last` and refreshes every `r`. -/
structure Ticking (clock : FrameClock) (r : ℕ+) (last : ℕ) : Prop where
  interval : clock.refreshIntervalNs = some r
  presented : clock.lastPresentationTime = some last

variable {clock : FrameClock} {r : ℕ+} {last now t : ℕ}

/-- All but the first part: the time to count from decides. -/
theorem Ticking.next_eq (h : clock.Ticking r last) {counted : ℕ}
    (hcounted : countFrom r last now = some counted) (hle : last ≤ counted) :
    clock.nextPresentationTime now =
      some (if clock.vrr ∧ past r (counted - last) > r then counted
        else last + past r (counted - last)) := by
  unfold nextPresentationTime
  rw [h.interval, h.presented]
  simp only [hcounted, Option.bind_eq_bind, Option.bind_some, subDuration_eq hle]
  exact (apply_ite some _ _ _).symm

/-- After an early VBlank, by less than a refresh, the refresh after the last frame. -/
theorem Ticking.next_early (h : clock.Ticking r last) (hearly : last ≤ now + r)
    (hlt : now < last) : clock.nextPresentationTime now = some (last + r) := by
  have hcounted : countFrom r last now = some (now + r) := by
    rw [countFrom, if_pos hlt.le, if_neg (by omega)]
  rw [h.next_eq hcounted hearly, past_eq_self (by omega), if_neg (by simp)]

/-- At the very time of the last frame, a refresh later than after an early VBlank, but
for variable refresh. -/
theorem Ticking.next_atLast (h : clock.Ticking r last) :
    clock.nextPresentationTime last =
      some (if clock.vrr then last + r else last + (r + r)) := by
  have hr : 0 < (r : ℕ) := r.pos
  have hcounted : countFrom r last last = some (last + r) := by
    rw [countFrom, if_pos le_rfl, if_neg (by omega)]
  rw [h.next_eq hcounted (by omega), Nat.add_sub_cancel_left, past_self hr]
  cases clock.vrr <;> simp

theorem Ticking.next_fixed (h : clock.Ticking r last) (hvrr : clock.vrr = false)
    (hlt : last < now) :
    clock.nextPresentationTime now = some (last + past r (now - last)) := by
  have hcounted : countFrom r last now = some now := by
    rw [countFrom, if_neg (by omega)]
  rw [h.next_eq hcounted hlt.le, hvrr, if_neg (by simp)]

theorem Ticking.next_variable (h : clock.Ticking r last) (hvrr : clock.vrr = true)
    (hlt : last < now) :
    clock.nextPresentationTime now = some (max now (last + r)) := by
  have hcounted : countFrom r last now = some now := by
    rw [countFrom, if_neg (by omega)]
  rw [h.next_eq hcounted hlt.le]
  by_cases hfirst : now - last < r
  · -- within a refresh after the last frame
    rw [past_eq_self hfirst, if_neg (by simp), max_eq_right (by omega)]
  · have hpast : (r : ℕ) < past r (now - last) := lt_past_of_le r.pos (by omega)
    rw [if_pos ⟨hvrr, hpast⟩, max_eq_left (by omega)]

/-- Nothing is predicted before the refresh after the last frame. -/
theorem Ticking.next_ge (h : clock.Ticking r last) (hearly : last ≤ now + r) :
    Returns (clock.nextPresentationTime now) (last + r ≤ ·) := by
  rcases Nat.lt_trichotomy now last with hlt | rfl | hlt
  · exact ⟨_, h.next_early hearly hlt, le_rfl⟩
  · refine ⟨_, h.next_atLast, ?_⟩
    split <;> omega
  · cases hvrr : clock.vrr with
    | false =>
      refine ⟨_, h.next_fixed hvrr hlt, le_of_mem_refreshes ?_⟩
      exact (isLeast_past r.pos hlt.le).1.1
    | true => exact ⟨_, h.next_variable hvrr hlt, le_max_right now (last + r)⟩

theorem Ticking.next_ge_now (h : clock.Ticking r last) (hle : last ≤ now) :
    Returns (clock.nextPresentationTime now) (now ≤ ·) := by
  rcases hle.lt_or_eq with hlt | rfl
  · cases hvrr : clock.vrr with
    | false =>
      exact ⟨_, h.next_fixed hvrr hlt, (isLeast_past r.pos hle).1.2.le⟩
    | true => exact ⟨_, h.next_variable hvrr hlt, le_max_left now (last + r)⟩
  · refine (h.next_ge (by omega)).mono fun t ht => ?_
    omega

theorem Ticking.predicts_early (h : clock.Ticking r last) (hearly : last ≤ now + r)
    (hlt : now < last) : clock.Predicts r last now (last + r) where
  fixed _ := isLeast_first (by omega)
  adaptive _ hlast := by omega
  monotone later hle := h.next_ge (by omega)

theorem Ticking.predicts_fixed (h : clock.Ticking r last) (hvrr : clock.vrr = false)
    (hlt : last < now) : clock.Predicts r last now (last + past r (now - last)) where
  fixed _ := isLeast_past r.pos hlt.le
  adaptive hvrr' _ := by simp [hvrr] at hvrr'
  monotone later hle := by
    have hpast : past r (now - last) ≤ past r (later - last) := past_mono (by omega)
    exact ⟨_, h.next_fixed hvrr (hlt.trans_le hle), by omega⟩

theorem Ticking.predicts_variable (h : clock.Ticking r last) (hvrr : clock.vrr = true)
    (hle : last ≤ now) : clock.Predicts r last now (max now (last + r)) where
  fixed hvrr' := by simp [hvrr] at hvrr'
  adaptive _ _ := rfl
  monotone later hlater := by
    rcases hle.lt_or_eq with hlt | rfl
    · exact ⟨_, h.next_variable hvrr (hlt.trans_le hlater), max_le_max_right _ hlater⟩
    · rw [max_eq_right (by omega)]
      exact h.next_ge (by omega)

/-- Asked at the very time of the last frame, a clock without variable refresh skips the
next one. -/
theorem Ticking.not_predicts_atLast (h : clock.Ticking r last) (hvrr : clock.vrr = false) :
    ¬Returns (clock.nextPresentationTime last) (clock.Predicts r last last) := by
  intro hpredicts
  have hr : 0 < (r : ℕ) := r.pos
  have hleast := (hpredicts.of_eq h.next_atLast).fixed hvrr
  rw [hvrr, if_neg Bool.false_ne_true] at hleast
  -- there is only one least refresh
  have heq : last + (r + r) = last + r := hleast.unique (isLeast_first (by omega))
  omega

/-- The prediction is right unless it is asked for at the very time of the last frame and
the refresh is fixed. -/
theorem predicts_iff (h : clock.Ticking r last) (hearly : last ≤ now + r) :
    Returns (clock.nextPresentationTime now) (clock.Predicts r last now) ↔
      clock.vrr = true ∨ now ≠ last := by
  constructor
  · intro hpredicts
    by_contra hnot
    obtain ⟨hvrr, rfl⟩ : clock.vrr = false ∧ now = last := by simpa using hnot
    exact h.not_predicts_atLast hvrr hpredicts
  intro hcond
  -- before, at and after the last frame the clock counts differently
  rcases Nat.lt_trichotomy now last with hlt | rfl | hlt
  · exact ⟨_, h.next_early hearly hlt, h.predicts_early hearly hlt⟩
  · have hvrr : clock.vrr = true := by simpa using hcond
    refine ⟨_, h.next_atLast, ?_⟩
    rw [if_pos hvrr]
    have hmax : max now (now + r) = now + r := max_eq_right (by omega)
    exact hmax ▸ h.predicts_variable hvrr le_rfl
  · cases hvrr : clock.vrr with
    | false => exact ⟨_, h.next_fixed hvrr hlt, h.predicts_fixed hvrr hlt⟩
    | true => exact ⟨_, h.next_variable hvrr hlt, h.predicts_variable hvrr hlt.le⟩

inductive Event where
  | setVrr (vrr : Bool)
  | presented (presentationTime : ℕ)

def handle (clock : FrameClock) : Event → FrameClock
  | .setVrr vrr => clock.setVrr vrr
  | .presented presentationTime => clock.presented presentationTime

/-- The last presentation time is that of a frame, and what the clock was made with stays. -/
theorem handle_last (clock : FrameClock) (event : Event) :
    (clock.handle event).refreshIntervalNs = clock.refreshIntervalNs ∧
      ∀ last, (clock.handle event).lastPresentationTime = some last →
        clock.lastPresentationTime = some last ∨ event = .presented last := by
  cases event with
  | setVrr vrr =>
    simp only [handle, setVrr]
    -- a vrr that changes forgets the last frame
    split
    · exact ⟨rfl, fun last hlast => .inl hlast⟩
    · exact ⟨rfl, by simp⟩
  | presented presentationTime =>
    simp only [handle, presented]
    split
    · exact ⟨rfl, fun last hlast => .inl hlast⟩
    · exact ⟨rfl, by simp⟩

theorem handle_run (events : List Event) (clock : FrameClock) :
    (events.foldl handle clock).refreshIntervalNs = clock.refreshIntervalNs ∧
      ∀ last, (events.foldl handle clock).lastPresentationTime = some last →
        clock.lastPresentationTime = some last ∨ .presented last ∈ events := by
  induction events generalizing clock with
  | nil => exact ⟨rfl, fun last hlast => .inl hlast⟩
  | cons event events ih =>
    obtain ⟨hkept, hlast⟩ := clock.handle_last event
    obtain ⟨hkept', hlast'⟩ := ih (clock.handle event)
    refine ⟨hkept'.trans hkept, fun last heq => ?_⟩
    rcases hlast' last heq with hbefore | hmem
    · rcases hlast last hbefore with hfirst | rfl
      · exact .inl hfirst
      · exact .inr List.mem_cons_self
    · exact .inr (List.mem_cons_of_mem event hmem)

/-- A clock that has not seen frames from the future never panics, and what it predicts is
not in the past. -/
theorem run_not_past {interval : Option ℕ} {vrr : Bool} {made : FrameClock}
    (hmade : new interval vrr = some made) (events : List Event)
    (hpast : ∀ shown, .presented shown ∈ events → shown ≤ now) :
    Returns ((events.foldl handle made).nextPresentationTime now) (now ≤ ·) := by
  have hfresh : made.lastPresentationTime = none := by
    obtain ⟨ns, -, heq⟩ := Option.bind_eq_some_iff.mp hmade
    rw [← Option.some.inj heq]
  obtain ⟨-, hseen⟩ := handle_run events made
  -- of the run, only when its last frame was shown is needed
  generalize events.foldl handle made = clock at hseen
  cases hr : clock.refreshIntervalNs with
  | none => exact ⟨now, by rw [nextPresentationTime, hr], le_rfl⟩
  | some r =>
    cases hlast : clock.lastPresentationTime with
    | none => exact ⟨now, by rw [nextPresentationTime, hr, hlast], le_rfl⟩
    | some last =>
      have hle : last ≤ now := by
        rcases hseen last hlast with hfirst | hmem
        · simp [hfresh] at hfirst
        · exact hpast last hmem
      exact Ticking.next_ge_now ⟨hr, hlast⟩ hle

theorem run_not_past_sixtyHertz :
    ∃ made, new (some 16666667) false = some made ∧
      Returns (([.presented 1000000000, .setVrr true, .presented 1016666667].foldl handle
        made).nextPresentationTime 1016666667) (1016666667 ≤ ·) :=
  ⟨_, rfl, run_not_past (show new (some 16666667) false = _ from rfl) _ (by simp)⟩

/-- An output at 60 Hz that has shown a frame a second after the start. -/
def sixtyHertz : FrameClock where
  lastPresentationTime := some 1000000000
  refreshIntervalNs := some 16666667
  vrr := false

theorem predicts_sixtyHertz :
    Returns (sixtyHertz.nextPresentationTime 1000000001)
        (sixtyHertz.Predicts (16666667 : ℕ+) 1000000000 1000000001) ↔
      sixtyHertz.vrr = true ∨ 1000000001 ≠ 1000000000 :=
  predicts_iff ⟨rfl, rfl⟩ (by decide)

/-- The refresh at 1.016666667 s is skipped. -/
theorem sixtyHertz_skips :
    (new (some 16666667) false).map (·.presented 1000000000) = some sixtyHertz ∧
      ¬Returns (sixtyHertz.nextPresentationTime 1000000000)
        (sixtyHertz.Predicts (16666667 : ℕ+) 1000000000 1000000000) :=
  ⟨by decide, Ticking.not_predicts_atLast ⟨rfl, rfl⟩ rfl⟩

end FrameClock

end Cidre.Outputs
