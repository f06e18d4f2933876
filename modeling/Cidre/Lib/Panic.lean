/-
  Cidre.Lib.Panic

  Code that may panic, in `Option`: `none` is a panic, and `Returns x post` says
  that `x` does not panic and that its result satisfies `post`.  A function is
  described by one `Returns` theorem, and the bodies of its callers are taken
  apart with `Returns.bind`, so that no proof looks into a callee.

  `Vec` operations are the list operations with the bounds check of the
  language.
-/

import Mathlib.Data.List.Perm.Basic

namespace Cidre.Panic

variable {α β : Type}

/-- `x` returns, and its result satisfies `post`. -/
def Returns (x : Option α) (post : α → Prop) : Prop := ∃ a, x = some a ∧ post a

theorem returns_some {a : α} {post : α → Prop} (h : post a) : Returns (some a) post :=
  ⟨a, rfl, h⟩

theorem returns_pure {a : α} {post : α → Prop} (h : post a) : Returns (pure a) post :=
  ⟨a, rfl, h⟩

theorem returns_of_eq {x : Option α} {a : α} (h : x = some a) : Returns x fun b => a = b :=
  ⟨a, h, rfl⟩

theorem Returns.bind {x : Option α} {f : α → Option β} {mid : α → Prop} {post : β → Prop}
    (hx : Returns x mid) (hf : ∀ a, mid a → Returns (f a) post) : Returns (x >>= f) post := by
  obtain ⟨a, rfl, ha⟩ := hx
  exact hf a ha

theorem Returns.mono {x : Option α} {mid post : α → Prop} (hx : Returns x mid)
    (h : ∀ a, mid a → post a) : Returns x post := by
  obtain ⟨a, rfl, ha⟩ := hx
  exact ⟨a, rfl, h a ha⟩

theorem Returns.and {x : Option α} {p q : α → Prop} (hp : Returns x p) (hq : Returns x q) :
    Returns x fun a => p a ∧ q a := by
  obtain ⟨a, rfl, ha⟩ := hp
  obtain ⟨b, hb, hb'⟩ := hq
  obtain rfl := Option.some.inj hb
  exact ⟨a, rfl, ha, hb'⟩

theorem Returns.map {x : Option α} {f : α → β} {mid : α → Prop} {post : β → Prop}
    (hx : Returns x mid) (h : ∀ a, mid a → post (f a)) : Returns (x.map f) post := by
  obtain ⟨a, rfl, ha⟩ := hx
  exact returns_some (h a ha)

theorem returns_ite {c : Prop} [Decidable c] {x y : Option α} {post : α → Prop}
    (hx : c → Returns x post) (hy : ¬ c → Returns y post) :
    Returns (if c then x else y) post := by
  split
  · exact hx ‹c›
  · exact hy ‹¬ c›

/-- The code returns early if there is nothing to do. -/
theorem returns_early {c : Prop} [Decidable c] {a : α} {y : Option α} {post : α → Prop}
    (ha : post a) (hy : ¬ c → Returns y post) : Returns (if c then some a else y) post :=
  returns_ite (fun _ => returns_some ha) hy

theorem Returns.of_eq {x : Option α} {a : α} {post : α → Prop} (hx : Returns x post)
    (ha : x = some a) : post a := by
  obtain ⟨b, hb, hpost⟩ := hx
  obtain rfl : a = b := Option.some.inj (ha.symm.trans hb)
  exact hpost

/-- A loop over the entries of a vector. -/
theorem mapM_returns {l : List α} {f : α → Option β} {post : α → β → Prop}
    (h : ∀ a ∈ l, Returns (f a) (post a)) :
    Returns (l.mapM f) fun l' => List.Forall₂ post l l' := by
  induction l with
  | nil => exact returns_some List.Forall₂.nil
  | cons a l ih =>
    rw [List.mapM_cons]
    refine (h a List.mem_cons_self).bind fun b hb => ?_
    refine (ih fun a' ha' => h a' (List.mem_cons_of_mem a ha')).bind fun l' hl' => ?_
    exact returns_pure (List.Forall₂.cons hb hl')

/-- `if c { a = f(a) }`. -/
def applyIf (c : Bool) (f : α → Option α) (a : α) : Option α := if c then f a else some a

theorem applyIf_returns {c : Bool} {f : α → Option α} {a : α} {post : α → Prop}
    (hf : c = true → Returns (f a) post) (ha : c = false → post a) :
    Returns (applyIf c f a) post := by
  cases c with
  | true => exact hf rfl
  | false => exact returns_some (ha rfl)

/-! ## Vec -/

namespace Vec

/-- `v.insert(i, a)`. -/
def insert (l : List α) (i : ℕ) (a : α) : Option (List α) :=
  if i ≤ l.length then some (l.insertIdx i a) else none

/-- `v.remove(i)`. -/
def remove (l : List α) (i : ℕ) : Option (α × List α) :=
  l[i]?.map fun a => (a, l.eraseIdx i)

/-- The bounds check of `v[i]`, where the code gets there. -/
def check (needed : Bool) (l : List α) (i : ℕ) : Option Unit :=
  if needed ∧ ¬ i < l.length then none else some ()

/-- `v.swap(i, j)`. -/
def swap (l : List α) (i j : ℕ) : Option (List α) := do
  let a ← l[i]?
  let b ← l[j]?
  return (l.set i b).set j a

/-- `iter().rposition(p)`. -/
def rposition (l : List α) (p : α → Bool) : Option ℕ :=
  (l.reverse.findIdx? p).map fun i => l.length - 1 - i

/-- `iter().min_by_key(key)`. -/
def minByKey {κ : Type} [LT κ] [DecidableLT κ] (l : List α) (key : α → κ) : Option α :=
  match l with
  | [] => none
  | a :: rest => some (rest.foldl (fun best x => if key x < key best then x else best) a)

theorem getElem?_returns {l : List α} {i : ℕ} (h : i < l.length) :
    Returns l[i]? fun a => l[i]? = some a :=
  ⟨l[i], List.getElem?_eq_getElem h, List.getElem?_eq_getElem h⟩

theorem check_returns (needed : Bool) {l : List α} {i : ℕ} (h : i < l.length) :
    Returns (check needed l i) fun _ => True := by
  rw [check, if_neg fun hc => hc.2 h]
  exact returns_some trivial

theorem insert_returns {l : List α} {i : ℕ} (a : α) (h : i ≤ l.length) :
    Returns (insert l i a) fun l' => l' = l.insertIdx i a := by
  rw [insert, if_pos h]
  exact returns_some rfl

theorem remove_returns {l : List α} {i : ℕ} (h : i < l.length) :
    Returns (remove l i) fun p => l[i]? = some p.1 ∧ p.2 = l.eraseIdx i := by
  have hi : l[i]? = some l[i] := List.getElem?_eq_getElem h
  exact ⟨(l[i], l.eraseIdx i), by simp [remove, hi], hi, rfl⟩

/-- Where a list is taken apart, the entry is found, taken out and put in. -/
theorem getElem?_split (l l' : List α) (a : α) : (l ++ a :: l')[l.length]? = some a := by
  rw [List.getElem?_append_right (Nat.le_refl _), Nat.sub_self]
  rfl

theorem insertIdx_split (l l' : List α) (a : α) :
    (l ++ l').insertIdx l.length a = l ++ a :: l' := by
  induction l with
  | nil => rfl
  | cons b l ih => rw [List.cons_append, List.length_cons, List.insertIdx_succ_cons, ih]; rfl

theorem insertIdx_eq_take_drop {l : List α} {i : ℕ} (h : i ≤ l.length) (a : α) :
    l.insertIdx i a = l.take i ++ a :: l.drop i := by
  have hsplit := insertIdx_split (l.take i) (l.drop i) a
  rwa [List.take_append_drop, List.length_take_of_le h] at hsplit

theorem insert_split (l l' : List α) (a : α) :
    insert (l ++ l') l.length a = some (l ++ a :: l') := by
  rw [insert, if_pos (by simp), insertIdx_split]

theorem remove_split (l l' : List α) (a : α) :
    remove (l ++ a :: l') l.length = some (a, l ++ l') := by
  rw [remove, getElem?_split, Option.map_some, List.eraseIdx_append_of_length_le (Nat.le_refl _),
    Nat.sub_self]
  rfl

theorem swap_returns {l : List α} {i j : ℕ} (hi : i < l.length) (hj : j < l.length) :
    Returns (swap l i j) fun l' => l'.Perm l := by
  refine (getElem?_returns hi).bind fun a ha => ?_
  refine (getElem?_returns hj).bind fun b hb => ?_
  rw [List.getElem?_eq_getElem hi] at ha
  rw [List.getElem?_eq_getElem hj] at hb
  obtain rfl := Option.some.inj ha
  obtain rfl := Option.some.inj hb
  exact returns_pure (List.set_set_perm hi hj)

/-- Replacing an entry by one with the same image changes no image. -/
theorem map_set_of_eq {l : List α} {i : ℕ} {a b : α} (f : α → β) (ha : l[i]? = some a)
    (hab : f b = f a) : (l.set i b).map f = l.map f := by
  induction l generalizing i with
  | nil => rfl
  | cons c l ih =>
    cases i with
    | zero =>
      obtain rfl : c = a := by simpa using ha
      simp [hab]
    | succ i => simp [ih (by simpa using ha)]

/-- An entry without `p` is taken out. -/
theorem filter_eraseIdx {l : List α} {i : ℕ} {a : α} {p : α → Bool} (ha : l[i]? = some a)
    (hp : p a = false) : (l.eraseIdx i).filter p = l.filter p := by
  induction l generalizing i with
  | nil => rfl
  | cons b l ih =>
    cases i with
    | zero =>
      obtain rfl : b = a := by simpa using ha
      rw [List.eraseIdx_cons_zero, List.filter_cons_of_neg (by simp [hp])]
    | succ i =>
      rw [List.eraseIdx_cons_succ, List.filter_cons, List.filter_cons, ih (by simpa using ha)]

/-- The entries of nested vectors, when one vector is taken out, replaced or put in. -/
theorem flatten_eraseIdx_perm {l : List (List α)} {i : ℕ} {a : List α} (ha : l[i]? = some a) :
    l.flatten.Perm (a ++ (l.eraseIdx i).flatten) := by
  obtain ⟨hi, rfl⟩ := List.getElem?_eq_some_iff.mp ha
  exact (List.getElem_cons_eraseIdx_perm hi).symm.flatten

theorem flatten_set_perm {l : List (List α)} {i : ℕ} (hi : i < l.length) (b : List α) :
    (l.set i b).flatten.Perm (b ++ (l.eraseIdx i).flatten) :=
  (List.set_perm_cons_eraseIdx hi b).flatten

theorem flatten_insertIdx_perm {l : List (List α)} {i : ℕ} (hi : i ≤ l.length) (a : List α) :
    (l.insertIdx i a).flatten.Perm (a ++ l.flatten) :=
  (List.perm_insertIdx a l hi).flatten

theorem rposition_lt {l : List α} {p : α → Bool} {i : ℕ} (h : rposition l p = some i) :
    i < l.length := by
  obtain ⟨j, hj, rfl⟩ := Option.map_eq_some_iff.mp h
  have hlt : j < l.reverse.length := (List.findIdx?_eq_some_iff_getElem.mp hj).1
  rw [List.length_reverse] at hlt
  omega

theorem foldl_choose_mem {f : α → α → α} (hf : ∀ a b, f a b = a ∨ f a b = b) (l : List α)
    (a : α) : l.foldl f a ∈ a :: l := by
  induction l generalizing a with
  | nil => exact List.mem_cons_self
  | cons b l ih =>
    have hmem := ih (f a b)
    rw [List.foldl_cons]
    rcases List.mem_cons.mp hmem with heq | hmem
    · rw [heq]
      rcases hf a b with h | h
      · rw [h]
        exact List.mem_cons_self
      · rw [h]
        exact List.mem_cons_of_mem a List.mem_cons_self
    · exact List.mem_cons_of_mem a (List.mem_cons_of_mem b hmem)

theorem minByKey_returns {κ : Type} [LT κ] [DecidableLT κ] {l : List α} (key : α → κ)
    (h : l ≠ []) : Returns (minByKey l key) fun a => a ∈ l := by
  cases l with
  | nil => exact absurd rfl h
  | cons a rest =>
    refine returns_some (foldl_choose_mem (fun a b => ?_) rest a)
    split
    · exact Or.inr rfl
    · exact Or.inl rfl

end Vec

end Cidre.Panic
