/-
  Cidre.Lib.Run

  Runs of a partial step function.  A run is a list of events folded through
  `step : σ → ε → Option σ` (`List.foldlM`); a step that answers `none` ends
  the run (a panic, or an event that cannot happen in that state).

  The rules below are the only way the rest of the development reasons about
  whole runs: an invariant kept by one step is kept by every run
  (`run_invariant`), possibly under a condition that every step of the run
  meets (`run_invariant_of_steps`), and two conditions that agree wherever the
  invariant holds are met by the same runs (`stepsMeet_iff`).

  A condition on every state of one run, not only on those the machine can
  reach, is `Along`.

  Where a repeated event changes nothing, two deliveries of the same events in
  the order of their numbers end in the same state (`foldl_eq_of_sorted`).
-/

import Mathlib.Data.List.Dedup
import Mathlib.Order.Lattice

namespace Cidre.Run

variable {σ ε : Type*}

/-- The state reached from `s` by taking `events` in order. -/
def run (step : σ → ε → Option σ) (s : σ) (events : List ε) : Option σ :=
  events.foldlM step s

@[simp] theorem run_nil (step : σ → ε → Option σ) (s : σ) : run step s [] = some s := rfl

@[simp] theorem run_cons (step : σ → ε → Option σ) (s : σ) (e : ε) (es : List ε) :
    run step s (e :: es) = (step s e).bind fun s' => run step s' es := by
  simp [run, List.foldlM_cons, bind]

theorem run_append (step : σ → ε → Option σ) (s : σ) (es es' : List ε) :
    run step s (es ++ es') = (run step s es).bind fun s' => run step s' es' := by
  induction es generalizing s with
  | nil => simp
  | cons e es ih =>
    rw [List.cons_append, run_cons, run_cons, Option.bind_assoc]
    exact congrArg _ (funext fun t => ih t)

/-- A run, and a run from where it ends. -/
theorem run_append_of_eq {step : σ → ε → Option σ} {s s' : σ} {es : List ε}
    (h : run step s es = some s') (es' : List ε) :
    run step s (es ++ es') = run step s' es' := by
  rw [run_append, h, Option.bind_some]

theorem run_single {step : σ → ε → Option σ} {s s' : σ} {e : ε} (h : step s e = some s') :
    run step s [e] = some s' := by
  rw [run_cons, h, Option.bind_some, run_nil]

/-- Every step of the run satisfies `good`, a condition on the state before the
    step and the event. -/
def StepsMeet (step : σ → ε → Option σ) (good : σ → ε → Prop) : σ → List ε → Prop
  | _, [] => True
  | s, e :: es => good s e ∧ ∀ s', step s e = some s' → StepsMeet step good s' es

instance decidableStepsMeet {step : σ → ε → Option σ} {good : σ → ε → Prop}
    [∀ s e, Decidable (good s e)] : (es : List ε) → (s : σ) → Decidable (StepsMeet step good s es)
  | [], _ => inferInstanceAs (Decidable True)
  | e :: es, s =>
      let _ : Decidable (∀ t ∈ step s e, StepsMeet step good t es) :=
        match step s e with
        | none => isTrue fun _ h => absurd h (Option.not_mem_none _)
        | some t =>
            let _ : Decidable (StepsMeet step good t es) := decidableStepsMeet es t
            decidable_of_iff (StepsMeet step good t es)
              ⟨fun h _ ht => Option.mem_some_iff.mp ht ▸ h, fun h => h t rfl⟩
      inferInstanceAs (Decidable (_ ∧ _))

theorem stepsMeet_of_mem {step : σ → ε → Option σ} {good : σ → ε → Prop} {es : List ε}
    (h : ∀ e ∈ es, ∀ s, good s e) (s : σ) : StepsMeet step good s es := by
  induction es generalizing s with
  | nil => exact trivial
  | cons e es ih =>
    exact ⟨h e List.mem_cons_self s,
      fun t _ => ih (fun e' he' => h e' (List.mem_cons_of_mem _ he')) t⟩

theorem stepsMeet_of_forall {step : σ → ε → Option σ} {good : σ → ε → Prop}
    (h : ∀ s e, good s e) (s : σ) (es : List ε) : StepsMeet step good s es :=
  stepsMeet_of_mem (fun e _ t => h t e) s

theorem StepsMeet.and {step : σ → ε → Option σ} {good good' : σ → ε → Prop} {s : σ} {es : List ε}
    (h : StepsMeet step good s es) (h' : StepsMeet step good' s es) :
    StepsMeet step (fun s e => good s e ∧ good' s e) s es := by
  induction es generalizing s with
  | nil => exact trivial
  | cons e es ih => exact ⟨⟨h.1, h'.1⟩, fun t ht => ih (h.2 t ht) (h'.2 t ht)⟩

/-- An invariant kept by every step that meets `good` is kept by every run whose
    steps all meet `good`. -/
theorem run_invariant_of_steps {step : σ → ε → Option σ} {good : σ → ε → Prop}
    {Inv : σ → Prop}
    (hstep : ∀ s e s', Inv s → good s e → step s e = some s' → Inv s')
    {s s' : σ} {es : List ε} (hgood : StepsMeet step good s es)
    (hrun : run step s es = some s') (hinv : Inv s) : Inv s' := by
  induction es generalizing s with
  | nil =>
    obtain rfl : s = s' := by simpa using hrun
    exact hinv
  | cons e es ih =>
    obtain ⟨hge, hrest⟩ := hgood
    rw [run_cons] at hrun
    obtain ⟨t, ht, hrun⟩ := Option.bind_eq_some_iff.mp hrun
    exact ih (hrest t ht) hrun (hstep s e t hinv hge ht)

/-- Two conditions that say the same about the events of a run wherever an
    invariant holds are met by the same runs, if the invariant is kept by the
    steps that meet them. -/
theorem stepsMeet_iff_of_mem {step : σ → ε → Option σ} {good good' : σ → ε → Prop}
    {Inv : σ → Prop} {es : List ε}
    (hiff : ∀ e ∈ es, ∀ s, Inv s → (good s e ↔ good' s e))
    (hstep : ∀ e ∈ es, ∀ s s', Inv s → good s e → step s e = some s' → Inv s')
    {s : σ} (hinv : Inv s) : StepsMeet step good s es ↔ StepsMeet step good' s es := by
  induction es generalizing s with
  | nil => exact Iff.rfl
  | cons e es ih =>
    have hrest : ∀ t, good s e → step s e = some t →
        (StepsMeet step good t es ↔ StepsMeet step good' t es) := fun t hge ht =>
      ih (fun e' he' => hiff e' (List.mem_cons_of_mem _ he'))
        (fun e' he' => hstep e' (List.mem_cons_of_mem _ he'))
        (hstep e List.mem_cons_self s t hinv hge ht)
    constructor
    · rintro ⟨hge, hsteps⟩
      exact ⟨(hiff e List.mem_cons_self s hinv).mp hge,
        fun t ht => (hrest t hge ht).mp (hsteps t ht)⟩
    · rintro ⟨hge, hsteps⟩
      have hge := (hiff e List.mem_cons_self s hinv).mpr hge
      exact ⟨hge, fun t ht => (hrest t hge ht).mpr (hsteps t ht)⟩

/-- Two conditions that say the same wherever an invariant holds are met by the
    same runs, if the invariant is kept by the steps that meet them. -/
theorem stepsMeet_iff {step : σ → ε → Option σ} {good good' : σ → ε → Prop} {Inv : σ → Prop}
    (hiff : ∀ s e, Inv s → (good s e ↔ good' s e))
    (hstep : ∀ s e s', Inv s → good s e → step s e = some s' → Inv s')
    {s : σ} {es : List ε} (hinv : Inv s) :
    StepsMeet step good s es ↔ StepsMeet step good' s es :=
  stepsMeet_iff_of_mem (fun e _ s => hiff s e) (fun e _ s s' => hstep s e s') hinv

/-- An invariant kept by every step is kept by every run. -/
theorem run_invariant {step : σ → ε → Option σ} {Inv : σ → Prop}
    (hstep : ∀ s e s', Inv s → step s e = some s' → Inv s')
    {s s' : σ} {es : List ε} (hrun : run step s es = some s') (hinv : Inv s) : Inv s' :=
  run_invariant_of_steps (fun s e s' hinv _ ht => hstep s e s' hinv ht)
    (stepsMeet_of_forall (fun _ _ => trivial) s es) hrun hinv

/-- What a step keeps exactly when it meets `good` holds in every state of the runs whose
    steps all meet `good`, and of no others. -/
theorem holds_iff_stepsMeet {step : σ → ε → Option σ} {good : σ → ε → Prop} {Inv P : σ → Prop}
    (htotal : ∀ s e, Inv s → ∃ s', step s e = some s' ∧ Inv s')
    (hiff : ∀ s e s', Inv s → P s → step s e = some s' → (P s' ↔ good s e))
    {s : σ} (hinv : Inv s) (hP : P s) (es : List ε) :
    (∀ pre, pre <+: es → ∀ s', run step s pre = some s' → P s') ↔ StepsMeet step good s es := by
  induction es generalizing s with
  | nil =>
    refine iff_of_true (fun pre hpre s' hrun => ?_) trivial
    rw [List.prefix_nil.mp hpre, run_nil] at hrun
    exact Option.some.inj hrun ▸ hP
  | cons e es ih =>
    obtain ⟨t, ht, hinvt⟩ := htotal s e hinv
    constructor
    · intro h
      have hPt : P t := by
        refine h [e] ?_ t (run_single ht)
        exact List.prefix_cons_inj e |>.mpr (List.nil_prefix)
      refine ⟨(hiff s e t hinv hP ht).mp hPt, fun t' ht' => ?_⟩
      obtain rfl : t = t' := Option.some.inj (ht.symm.trans ht')
      refine (ih hinvt hPt).mp fun pre hpre s' hrun => ?_
      refine h (e :: pre) ((List.prefix_cons_inj e).mpr hpre) s' ?_
      rw [run_cons, ht, Option.bind_some, hrun]
    · rintro ⟨hgood, hrest⟩ pre hpre s' hrun
      have hPt : P t := (hiff s e t hinv hP ht).mpr hgood
      rcases List.prefix_cons_iff.mp hpre with rfl | ⟨pre', rfl, hpre'⟩
      · rw [run_nil] at hrun
        exact Option.some.inj hrun ▸ hP
      · rw [run_cons, ht, Option.bind_some] at hrun
        exact (ih hinvt hPt).mpr (hrest t ht) pre' hpre' s' hrun

/-- A run that ends in `s'` and satisfies `P` all the way: before every event and
    at the end. -/
def Along (step : σ → ε → Option σ) (P : σ → Prop) : σ → List ε → σ → Prop
  | s, [], s' => P s ∧ s = s'
  | s, e :: es, s' => P s ∧ ∃ t, step s e = some t ∧ Along step P t es s'

section Along

variable {step : σ → ε → Option σ} {P : σ → Prop} {s s' s'' : σ}

theorem along_nil (h : P s) : Along step P s [] s := ⟨h, rfl⟩

theorem along_single {e : ε} (h : P s) (hstep : step s e = some s') (h' : P s') :
    Along step P s [e] s' :=
  ⟨h, s', hstep, h', rfl⟩

theorem Along.append {es es' : List ε} (h : Along step P s es s') (h' : Along step P s' es' s'') :
    Along step P s (es ++ es') s'' := by
  induction es generalizing s with
  | nil =>
    obtain ⟨-, rfl⟩ := h
    exact h'
  | cons e es ih =>
    obtain ⟨hs, t, ht, h⟩ := h
    exact ⟨hs, t, ht, ih h⟩

theorem Along.holds {es : List ε} (h : Along step P s es s') : P s' := by
  induction es generalizing s with
  | nil =>
    obtain ⟨hs, rfl⟩ := h
    exact hs
  | cons e es ih =>
    obtain ⟨-, t, -, h⟩ := h
    exact ih h

theorem Along.run_eq {es : List ε} (h : Along step P s es s') : run step s es = some s' := by
  induction es generalizing s with
  | nil =>
    obtain ⟨-, rfl⟩ := h
    rfl
  | cons e es ih =>
    obtain ⟨-, t, ht, h⟩ := h
    rw [run_cons, ht, Option.bind_some, ih h]

/-- What holds all the way holds after every initial part of the events. -/
theorem Along.of_isPrefix {es pre : List ε} (h : Along step P s es s') (hpre : pre <+: es) :
    ∃ t, run step s pre = some t ∧ P t := by
  induction es generalizing s pre with
  | nil =>
    rw [List.prefix_nil.mp hpre]
    exact ⟨s, rfl, h.1⟩
  | cons e es ih =>
    obtain ⟨hs, t, ht, h⟩ := h
    rcases List.prefix_cons_iff.mp hpre with rfl | ⟨pre', rfl, hpre'⟩
    · exact ⟨s, rfl, hs⟩
    · obtain ⟨u, hu, hPu⟩ := ih h hpre'
      exact ⟨u, by rw [run_cons, ht, Option.bind_some, hu], hPu⟩

end Along

section Replay

variable {β : Type*} [LinearOrder β] {key : ε → β} {f : σ → ε → σ}

/-- In a sorted list an event is followed by its repetitions. -/
theorem head_eq_of_mem_sorted {e e' : ε} {l : List ε} (he : e ∈ e' :: l)
    (hsorted : (e :: e' :: l).Pairwise fun a b => key a ≤ key b)
    (hinj : ∀ a ∈ e' :: l, ∀ b ∈ e' :: l, key a = key b → a = b) : e' = e := by
  obtain ⟨hhead, htail⟩ := List.pairwise_cons.mp hsorted
  refine hinj e' List.mem_cons_self e he (le_antisymm ?_ (hhead e' List.mem_cons_self))
  rcases List.mem_cons.mp he with rfl | hmem
  · exact le_refl _
  · exact (List.pairwise_cons.mp htail).1 e hmem

variable [DecidableEq ε]

/-- Repetitions can be left out. -/
theorem foldl_dedup_of_sorted (hidem : ∀ s e, f (f s e) e = f s e) {l : List ε}
    (hsorted : l.Pairwise fun a b => key a ≤ key b)
    (hinj : ∀ a ∈ l, ∀ b ∈ l, key a = key b → a = b) (s : σ) :
    l.dedup.foldl f s = l.foldl f s := by
  induction l generalizing s with
  | nil => rfl
  | cons e l ih =>
    have htail := (List.pairwise_cons.mp hsorted).2
    have hinj' : ∀ a ∈ l, ∀ b ∈ l, key a = key b → a = b :=
      fun a ha b hb => hinj a (List.mem_cons_of_mem e ha) b (List.mem_cons_of_mem e hb)
    by_cases he : e ∈ l
    · rw [List.dedup_cons_of_mem he, ih htail hinj']
      cases l with
      | nil => exact absurd he List.not_mem_nil
      | cons e' l =>
        obtain rfl := head_eq_of_mem_sorted he hsorted hinj'
        rw [List.foldl_cons, List.foldl_cons, List.foldl_cons, hidem]
    · rw [List.dedup_cons_of_notMem he, List.foldl_cons, List.foldl_cons, ih htail hinj']

/-- Two deliveries of the same events, each in order, end in the same state. -/
theorem foldl_eq_of_sorted (hidem : ∀ s e, f (f s e) e = f s e) {l l' : List ε}
    (hsorted : l.Pairwise fun a b => key a ≤ key b)
    (hsorted' : l'.Pairwise fun a b => key a ≤ key b) (hmem : ∀ e, e ∈ l ↔ e ∈ l')
    (hinj : ∀ a ∈ l, ∀ b ∈ l, key a = key b → a = b) (s : σ) : l.foldl f s = l'.foldl f s := by
  have hinj' : ∀ a ∈ l', ∀ b ∈ l', key a = key b → a = b :=
    fun a ha b hb => hinj a ((hmem a).mpr ha) b ((hmem b).mpr hb)
  have hperm : l.dedup.Perm l'.dedup := by
    rw [List.perm_ext_iff_of_nodup (List.nodup_dedup l) (List.nodup_dedup l')]
    intro e
    rw [List.mem_dedup, List.mem_dedup, hmem]
  have heq : l.dedup = l'.dedup := by
    refine hperm.eq_of_pairwise (fun a b ha hb hab hba => ?_)
      (hsorted.sublist (List.dedup_sublist l)) (hsorted'.sublist (List.dedup_sublist l'))
    exact hinj a (List.mem_dedup.mp ha) b ((hmem b).mpr (List.mem_dedup.mp hb)) (le_antisymm hab hba)
  rw [← foldl_dedup_of_sorted hidem hsorted hinj, heq, foldl_dedup_of_sorted hidem hsorted' hinj']

end Replay

end Cidre.Run
