/-
  Cidre.Lib.Counter

  Code that takes fresh numbers from a counter and may panic.

  Panics are told apart by who is to blame.  A `lookup` fails when a caller asks
  for something that is not there; a failed `assertion` and an index out of
  `bounds` are the code's own.  `Safe x n post` says that from the counter `n`
  the code of `x` does not panic on its own account, and that the result and the
  counter satisfy `post` if it returns.  `Yields x n post` says the second only,
  and `Finds x` that `x` does not panic on its caller's account.
-/

import Mathlib.Data.List.Basic

namespace Cidre.Counter

variable {α β : Type}

inductive Panic where
  | lookup
  | assertion
  | bounds
deriving DecidableEq, Repr

abbrev Counted (α : Type) := StateT Nat (Except Panic) α

/-- The next number of the counter. -/
def fresh : Counted Nat := fun n => .ok (n, n + 1)

/-- `unwrap()` of what was looked up for the caller. -/
def lookup (o : Option α) : Counted α := fun n =>
  match o with
  | some a => .ok (a, n)
  | none => .error .lookup

/-- The bounds check of the language. -/
def bounds (o : Option α) : Counted α := fun n =>
  match o with
  | some a => .ok (a, n)
  | none => .error .bounds

/-- `assert!(c)` -/
def require (c : Bool) : Counted Unit := fun n => if c then .ok ((), n) else .error .assertion

def Safe (x : Counted α) (n : Nat) (post : α → Nat → Prop) : Prop :=
  match x n with
  | .ok (a, n') => post a n'
  | .error e => e = .lookup

variable {x y : Counted α} {f : α → Counted β} {a : α} {n n' : Nat} {post : α → Nat → Prop}

theorem safe_pure (h : post a n) : Safe (pure a) n post := h

theorem safe_lookup {o : Option α} (h : ∀ a, o = some a → post a n) : Safe (lookup o) n post := by
  cases o with
  | none => exact rfl
  | some a => exact h a rfl

theorem safe_lookup_none : Safe (lookup none) n post := rfl

theorem Safe.bind {mid : α → Nat → Prop} {post : β → Nat → Prop} (hx : Safe x n mid)
    (hf : ∀ a n', mid a n' → Safe (f a) n' post) : Safe (x >>= f) n post := by
  unfold Safe at hx ⊢
  show (match (x n >>= fun p => f p.1 p.2) with
    | .ok (a, n') => post a n'
    | .error e => e = .lookup)
  cases hxn : x n with
  | error e =>
    rw [hxn] at hx
    exact hx
  | ok p =>
    rw [hxn] at hx
    exact hf p.1 p.2 hx

theorem safe_fresh_bind {f : Nat → Counted β} {post : β → Nat → Prop}
    (hf : Safe (f n) (n + 1) post) : Safe (fresh >>= f) n post := hf

theorem safe_lookup_bind {o : Option α} {post : β → Nat → Prop}
    (hf : ∀ a, o = some a → Safe (f a) n post) : Safe (lookup o >>= f) n post := by
  cases o with
  | none => exact rfl
  | some a => exact hf a rfl

theorem safe_bounds_bind {o : Option α} {post : β → Nat → Prop} (ho : o = some a)
    (hf : Safe (f a) n post) : Safe (bounds o >>= f) n post := by
  subst ho
  exact hf

theorem safe_require_bind {c : Bool} {f : Unit → Counted β} {post : β → Nat → Prop} (hc : c = true)
    (hf : Safe (f ()) n post) : Safe (require c >>= f) n post := by
  subst hc
  exact hf

theorem Safe.mono {mid post : α → Nat → Prop} (hx : Safe x n mid)
    (h : ∀ a n', mid a n' → post a n') : Safe x n post := by
  unfold Safe at hx ⊢
  split
  · next a n' hxn =>
    rw [hxn] at hx
    exact h a n' hx
  · next e hxn =>
    rw [hxn] at hx
    exact hx

theorem safe_ite {c : Prop} [Decidable c] (hx : c → Safe x n post) (hy : ¬ c → Safe y n post) :
    Safe (if c then x else y) n post := by
  split
  · exact hx ‹c›
  · exact hy ‹¬ c›

/-- The code returns early if there is nothing to do. -/
theorem safe_early {c : Prop} [Decidable c] (ha : post a n) (hy : ¬ c → Safe y n post) :
    Safe (if c then pure a else y) n post :=
  safe_ite (fun _ => safe_pure ha) hy

/-- What a safe run that returns satisfies. -/
theorem Safe.of_ok (hx : Safe x n post) (h : x n = .ok (a, n')) : post a n' := by
  unfold Safe at hx
  rw [h] at hx
  exact hx

/-- `if c { a = f(a) }`. -/
def applyIf (c : Bool) (f : α → Counted α) (a : α) : Counted α := if c then f a else pure a

theorem safe_applyIf {c : Bool} {f : α → Counted α} (hf : c = true → Safe (f a) n post)
    (ha : c = false → post a n) : Safe (applyIf c f a) n post := by
  cases c with
  | true => exact hf rfl
  | false => exact ha rfl

/-! ## Assertions -/

/-- No assertion of `x` fails, and the result and the counter satisfy `post` if it
    returns. -/
def Upholds (x : Counted α) (n : Nat) (post : α → Nat → Prop) : Prop :=
  match x n with
  | .ok (a, n') => post a n'
  | .error e => e ≠ .assertion

theorem Safe.upholds (hx : Safe x n post) : Upholds x n post := by
  unfold Safe at hx
  unfold Upholds
  split
  · next a n' hxn =>
    rw [hxn] at hx
    exact hx
  · next e hxn =>
    rw [hxn] at hx
    rw [hx]
    decide

theorem upholds_bounds_none_bind {post : β → Nat → Prop} : Upholds (bounds none >>= f) n post := by
  show Panic.bounds ≠ Panic.assertion
  decide

theorem upholds_bounds_bind {o : Option α} {post : β → Nat → Prop} (ho : o = some a)
    (hf : Upholds (f a) n post) : Upholds (bounds o >>= f) n post := by
  subst ho
  exact hf

theorem Upholds.bind {mid : α → Nat → Prop} {post : β → Nat → Prop} (hx : Upholds x n mid)
    (hf : ∀ a n', mid a n' → Upholds (f a) n' post) : Upholds (x >>= f) n post := by
  unfold Upholds at hx ⊢
  show (match (x n >>= fun p => f p.1 p.2) with
    | .ok (a, n') => post a n'
    | .error e => e ≠ .assertion)
  cases hxn : x n with
  | error e =>
    rw [hxn] at hx
    exact hx
  | ok p =>
    rw [hxn] at hx
    exact hf p.1 p.2 hx

theorem Upholds.mono {mid post : α → Nat → Prop} (hx : Upholds x n mid)
    (h : ∀ a n', mid a n' → post a n') : Upholds x n post := by
  unfold Upholds at hx ⊢
  split
  · next a n' hxn =>
    rw [hxn] at hx
    exact h a n' hx
  · next e hxn =>
    rw [hxn] at hx
    exact hx

/-- What a run that returns satisfies. -/
theorem Upholds.of_ok (hx : Upholds x n post) (h : x n = .ok (a, n')) : post a n' := by
  unfold Upholds at hx
  rw [h] at hx
  exact hx

theorem Upholds.ne_assertion (hx : Upholds x n post) : x n ≠ .error .assertion := by
  intro h
  unfold Upholds at hx
  rw [h] at hx
  exact hx rfl

/-! ## What is returned -/

/-- The result and the counter satisfy `post`, if `x` returns. -/
def Yields (x : Counted α) (n : Nat) (post : α → Nat → Prop) : Prop :=
  ∀ a n', x n = .ok (a, n') → post a n'

theorem Safe.and_yields {post mid : α → Nat → Prop} (hx : Safe x n post) (hy : Yields x n mid) :
    Safe x n fun a n' => post a n' ∧ mid a n' := by
  unfold Safe at hx ⊢
  split
  · next a n' hxn =>
    rw [hxn] at hx
    exact ⟨hx, hy a n' hxn⟩
  · next e hxn =>
    rw [hxn] at hx
    exact hx

theorem yields_pure (h : post a n) : Yields (pure a) n post := by
  intro b n' hb
  obtain ⟨rfl, rfl⟩ := Prod.mk.inj (Except.ok.inj hb)
  exact h

theorem Yields.mono {mid post : α → Nat → Prop} (hx : Yields x n mid)
    (h : ∀ a n', mid a n' → post a n') : Yields x n post :=
  fun a n' ha => h a n' (hx a n' ha)

theorem Yields.bind {mid : α → Nat → Prop} {post : β → Nat → Prop} (hx : Yields x n mid)
    (hf : ∀ a n', mid a n' → Yields (f a) n' post) : Yields (x >>= f) n post := by
  intro b n' hb
  replace hb : (x n >>= fun p => f p.1 p.2) = .ok (b, n') := hb
  cases hxn : x n with
  | error e =>
    rw [hxn] at hb
    cases hb
  | ok p =>
    rw [hxn] at hb
    exact hf p.1 p.2 (hx p.1 p.2 hxn) b n' hb

/-- What comes after is enough. -/
theorem yields_bind {post : β → Nat → Prop} (hf : ∀ a n', Yields (f a) n' post) :
    Yields (x >>= f) n post :=
  Yields.bind (fun _ _ _ => trivial : Yields x n fun _ _ => True) fun a n' _ => hf a n'

theorem yields_fresh_bind {f : Nat → Counted β} {post : β → Nat → Prop}
    (hf : Yields (f n) (n + 1) post) : Yields (fresh >>= f) n post := hf

theorem yields_lookup {o : Option α} (h : ∀ a, o = some a → post a n) :
    Yields (lookup o) n post := by
  cases o with
  | none => exact fun _ _ h => nomatch h
  | some a => exact yields_pure (h a rfl)

theorem yields_lookup_none : Yields (lookup none) n post :=
  yields_lookup fun _ h => absurd h (by simp)

theorem yields_lookup_bind {o : Option α} {post : β → Nat → Prop}
    (hf : ∀ a, o = some a → Yields (f a) n post) : Yields (lookup o >>= f) n post := by
  cases o with
  | none => exact fun _ _ h => nomatch h
  | some a => exact hf a rfl

theorem yields_bounds_bind {o : Option α} {post : β → Nat → Prop}
    (hf : ∀ a, o = some a → Yields (f a) n post) : Yields (bounds o >>= f) n post := by
  cases o with
  | none => exact fun _ _ h => nomatch h
  | some a => exact hf a rfl

theorem yields_require_bind {c : Bool} {f : Unit → Counted β} {post : β → Nat → Prop}
    (hf : c = true → Yields (f ()) n post) : Yields (require c >>= f) n post := by
  cases c with
  | false => exact fun _ _ h => nomatch h
  | true => exact hf rfl

theorem yields_ite {c : Prop} [Decidable c] (hx : c → Yields x n post)
    (hy : ¬ c → Yields y n post) : Yields (if c then x else y) n post := by
  split
  · exact hx ‹c›
  · exact hy ‹¬ c›

theorem yields_early {c : Prop} [Decidable c] (ha : post a n) (hy : ¬ c → Yields y n post) :
    Yields (if c then pure a else y) n post :=
  yields_ite (fun _ => yields_pure ha) hy

theorem yields_applyIf {c : Bool} {f : α → Counted α} (hf : Yields (f a) n post) (ha : post a n) :
    Yields (applyIf c f a) n post := by
  cases c with
  | true => exact hf
  | false => exact yields_pure ha

/-! ## Lookups -/

/-- Whatever `x` looks up for its caller is there. -/
def Finds (x : Counted α) : Prop := ∀ n, x n ≠ .error .lookup

theorem finds_pure (a : α) : Finds (pure a) := fun _ h => by cases h

theorem finds_fresh : Finds fresh := fun _ h => by cases h

theorem finds_lookup (a : α) : Finds (lookup (some a)) := fun _ h => by cases h

theorem finds_bounds (o : Option α) : Finds (bounds o) := by
  intro n h
  cases o <;> cases h

theorem finds_require (c : Bool) : Finds (require c) := by
  intro n h
  cases c <;> cases h

theorem Finds.bind (hx : Finds x) (hf : ∀ a, Finds (f a)) : Finds (x >>= f) := by
  intro n h
  replace h : (x n >>= fun p => f p.1 p.2) = .error .lookup := h
  cases hxn : x n with
  | error e =>
    rw [hxn] at h
    obtain rfl : e = .lookup := Except.error.inj h
    exact hx n hxn
  | ok p =>
    rw [hxn] at h
    exact hf p.1 p.2 h

theorem finds_ite {c : Prop} [Decidable c] (hx : Finds x) (hy : Finds y) :
    Finds (if c then x else y) := by
  split
  · exact hx
  · exact hy

theorem finds_applyIf {c : Bool} {f : α → Counted α} (hf : Finds (f a)) : Finds (applyIf c f a) :=
  finds_ite hf (finds_pure a)

/-- Code that does not panic on its own account, nor on its caller's, returns. -/
theorem Safe.returns (hx : Safe x n post) (hfinds : Finds x) :
    ∃ a n', x n = .ok (a, n') ∧ post a n' := by
  unfold Safe at hx
  cases hxn : x n with
  | ok p =>
    rw [hxn] at hx
    exact ⟨p.1, p.2, rfl, hx⟩
  | error e =>
    rw [hxn] at hx
    rw [hx] at hxn
    exact absurd hxn (hfinds n)

/-- What comes after code that returns goes on from its result. -/
theorem bind_eq_of_ok (h : x n = .ok (a, n')) : (x >>= f) n = f a n' := by
  show (x n >>= fun p => f p.1 p.2) = f a n'
  rw [h]
  rfl

/-! ## Loops -/

/-- `for a in l { a = f(a) }`. -/
def each (f : α → Counted α) : List α → Counted (List α)
  | [] => pure []
  | a :: l => do
      let b ← f a
      let l ← each f l
      return b :: l

end Cidre.Counter
