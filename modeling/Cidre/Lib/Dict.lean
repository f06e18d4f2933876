/-
  Cidre.Lib.Dict

  Insertion-ordered dictionaries as association lists.  A key that is set again
  keeps its place and takes the new value, so a dictionary filled from a list
  holds, under each key, what the last element with that key gives
  (`lookup_collect`).
-/

import Mathlib.Data.List.Induction
import Mathlib.Data.List.Nodup

namespace Cidre.Dict

variable {κ ν α : Type*} [DecidableEq κ]

/-- `d[k] = v`. -/
def set : List (κ × ν) → κ → ν → List (κ × ν)
  | [], k, v => [(k, v)]
  | p :: d, k, v => if p.1 = k then (k, v) :: d else p :: set d k v

theorem lookup_set (d : List (κ × ν)) (k k' : κ) (v : ν) :
    (set d k v).lookup k' = if k' = k then some v else d.lookup k' := by
  induction d with
  | nil =>
    by_cases h : k' = k
    · simp [set, h]
    · have hk : (k' == k) = false := by simpa using h
      rw [set, List.lookup_cons, hk, if_neg h]
  | cons p d ih =>
    rw [set]
    by_cases hp : p.1 = k
    · rw [if_pos hp]
      by_cases h : k' = k
      · simp [h]
      · have hk : (k' == p.1) = false := by simpa [hp] using h
        have hk' : (k' == k) = false := by simpa using h
        rw [if_neg h, List.lookup_cons, List.lookup_cons, hk, hk']
    · rw [if_neg hp, List.lookup_cons, List.lookup_cons, ih]
      by_cases h : k' = k
      · have hk : (k' == p.1) = false := by simpa [h] using fun e => hp e.symm
        rw [hk, if_pos h]
      · rw [if_neg h, if_neg h]

/-- The dictionary a loop over `l` fills: an element without a key is passed
    over. -/
def collect (key : α → Option κ) (val : α → ν) (l : List α) : List (κ × ν) :=
  l.foldl (fun d x => match key x with
    | some k => set d k (val x)
    | none => d) []

/-- The last element of `l` with the key `k`. -/
def lastWith (key : α → Option κ) (k : κ) (l : List α) : Option α :=
  l.reverse.find? fun x => key x = some k

theorem lookup_collect (key : α → Option κ) (val : α → ν) (l : List α) (k : κ) :
    (collect key val l).lookup k = (lastWith key k l).map val := by
  induction l using List.reverseRecOn with
  | nil => rfl
  | append_singleton l x ih =>
    rw [collect, List.foldl_append, List.foldl_cons, List.foldl_nil, ← collect]
    rw [lastWith, List.reverse_append, List.reverse_singleton, List.singleton_append,
      List.find?_cons, ← lastWith]
    cases hx : key x with
    | none => simpa using ih
    | some k' =>
      simp only [lookup_set, Option.some.injEq]
      by_cases hk : k = k'
      · simp [hk]
      · have hk' : ¬k' = k := fun e => hk e.symm
        simp only [hk, hk', if_false, decide_false]
        exact ih

/-- What a dictionary answers under a key is one of its entries. -/
theorem mem_of_lookup {d : List (κ × ν)} {k : κ} {v : ν} (h : d.lookup k = some v) :
    (k, v) ∈ d := by
  obtain ⟨l₁, l₂, rfl, -⟩ := List.lookup_eq_some_iff.mp h
  exact List.mem_append_right _ List.mem_cons_self

/-- A key of a dictionary has a value. -/
theorem lookup_isSome_iff {d : List (κ × ν)} {k : κ} :
    (d.lookup k).isSome = true ↔ k ∈ d.map Prod.fst := by
  induction d with
  | nil => simp
  | cons p d ih =>
    rw [List.lookup_cons, List.map_cons, List.mem_cons]
    by_cases hp : k = p.1
    · simp [hp]
    · have hk : (k == p.1) = false := by simpa using hp
      simp only [hk, hp, false_or]
      exact ih

theorem mem_of_lastWith {key : α → Option κ} {k : κ} {l : List α} {x : α}
    (h : lastWith key k l = some x) : x ∈ l ∧ key x = some k := by
  have hmem : x ∈ l.reverse := List.mem_of_find?_eq_some h
  have hkey := List.find?_some h
  exact ⟨List.mem_reverse.mp hmem, by simpa using hkey⟩

theorem exists_lastWith {key : α → Option κ} {k : κ} {l : List α} {x : α}
    (hx : x ∈ l) (hkey : key x = some k) : ∃ y, lastWith key k l = some y := by
  have hsome : (lastWith key k l).isSome = true :=
    List.find?_isSome.mpr ⟨x, List.mem_reverse.mpr hx, by simpa using hkey⟩
  exact Option.isSome_iff_exists.mp hsome

/-- An element with another key is not the last one with this key. -/
theorem lastWith_insert {key : α → Option κ} {k : κ} {x : α} (hx : key x ≠ some k)
    (l r : List α) : lastWith key k (l ++ x :: r) = lastWith key k (l ++ r) := by
  simp [lastWith, List.find?_append, hx]

/-- Lists that agree on keys have related last elements. -/
theorem lastWith_rel {key key' : α → Option κ} {R : α → α → Prop}
    (hkey : ∀ x y, R x y → key x = key' y) {l l' : List α} (h : List.Forall₂ R l l') (k : κ) :
    Option.Rel R (lastWith key k l) (lastWith key' k l') := by
  have hrev : List.Forall₂ R l.reverse l'.reverse := List.forall₂_reverse_iff.mpr h
  unfold lastWith
  generalize l.reverse = xs at hrev ⊢
  generalize l'.reverse = ys at hrev ⊢
  induction hrev with
  | nil => exact Option.Rel.none
  | @cons x y xs ys hxy _ ih =>
    rw [List.find?_cons, List.find?_cons, ← hkey x y hxy]
    by_cases hx : key x = some k
    · simpa [hx] using Option.Rel.some hxy
    · simpa [hx] using ih

theorem map_fst_set (d : List (κ × ν)) (k : κ) (v : ν) :
    (set d k v).map Prod.fst = if k ∈ d.map Prod.fst then d.map Prod.fst else d.map Prod.fst ++ [k] := by
  induction d with
  | nil => rfl
  | cons p d ih =>
    rw [set]
    by_cases hp : p.1 = k
    · rw [if_pos hp, if_pos (by simp [hp]), List.map_cons, List.map_cons, hp]
    · rw [if_neg hp, List.map_cons, ih, List.map_cons]
      by_cases hk : k ∈ d.map Prod.fst
      · rw [if_pos hk, if_pos (List.mem_cons_of_mem _ hk)]
      · have hnot : k ∉ p.1 :: d.map Prod.fst := by
          intro hmem
          rcases List.mem_cons.mp hmem with heq | hmem
          · exact hp heq.symm
          · exact hk hmem
        rw [if_neg hk, if_neg hnot, List.cons_append]

theorem nodup_keys_set {d : List (κ × ν)} (h : (d.map Prod.fst).Nodup) (k : κ) (v : ν) :
    ((set d k v).map Prod.fst).Nodup := by
  rw [map_fst_set]
  split
  · exact h
  · next hk => exact List.nodup_append.mpr ⟨h, List.nodup_singleton k, fun a ha b hb hab =>
      hk (List.mem_singleton.mp hb ▸ hab ▸ ha)⟩

theorem nodup_keys_collect (key : α → Option κ) (val : α → ν) (l : List α) :
    ((collect key val l).map Prod.fst).Nodup := by
  induction l using List.reverseRecOn with
  | nil => exact List.nodup_nil
  | append_singleton l x ih =>
    rw [collect, List.foldl_append, List.foldl_cons, List.foldl_nil, ← collect]
    cases key x with
    | none => exact ih
    | some k => exact nodup_keys_set ih k (val x)

/-- With distinct keys an entry is what the dictionary answers. -/
theorem lookup_of_mem {d : List (κ × ν)} (h : (d.map Prod.fst).Nodup) {p : κ × ν} (hp : p ∈ d) :
    d.lookup p.1 = some p.2 := by
  induction d with
  | nil => exact absurd hp List.not_mem_nil
  | cons q d ih =>
    rw [List.map_cons, List.nodup_cons] at h
    rcases List.mem_cons.mp hp with rfl | hp
    · exact List.lookup_cons_self
    · have hne : (p.1 == q.1) = false := by
        rw [beq_eq_false_iff_ne]
        exact fun heq => h.1 (heq ▸ List.mem_map_of_mem hp)
      rw [List.lookup_cons, hne]
      exact ih h.2 hp

end Cidre.Dict
