/-
  Cidre.Lib.StableSort

  The stable sort of a vector by a key whose computation may panic.

  A sort of fewer than two elements has nothing to compare and computes no key; any other
  computes the keys of all elements.
-/

import Cidre.Lib.Panic

namespace Cidre.StableSort

open Panic

variable {α κ : Type} {key : α → Option κ} {l : List α}

theorem mapM_eq_none {f : α → Option κ} {a : α} (ha : a ∈ l) (hf : f a = none) :
    l.mapM f = none := by
  induction l with
  | nil => exact absurd ha List.not_mem_nil
  | cons b l ih =>
    rw [List.mapM_cons]
    rcases List.mem_cons.mp ha with rfl | hmem
    · rw [hf]
      rfl
    · rw [ih hmem]
      cases f b <;> rfl

/-- Whoever computes the keys has the vector still, and the keys beside it. -/
theorem mapM_keyed (h : ∀ a ∈ l, key a ≠ none) :
    Returns (l.mapM fun a => (key a).map fun k => (k, a)) fun keyed =>
      keyed.map Prod.snd = l ∧ ∀ x ∈ keyed, key x.2 = some x.1 := by
  have hkeyed : ∀ a ∈ l, Returns ((key a).map fun k => (k, a))
      fun x => key a = some x.1 ∧ x.2 = a := by
    intro a ha
    obtain ⟨k, hk⟩ := Option.ne_none_iff_exists'.mp (h a ha)
    exact ⟨(k, a), by rw [hk, Option.map_some], hk, rfl⟩
  refine (mapM_returns hkeyed).mono fun keyed hall => ?_
  induction hall with
  | nil => exact ⟨rfl, fun x hx => absurd hx List.not_mem_nil⟩
  | @cons a x l keyed hx hall ih =>
    obtain ⟨hsame, hkeys⟩ := ih (fun b hb => h b (List.mem_cons_of_mem a hb))
      (fun b hb => hkeyed b (List.mem_cons_of_mem a hb))
    refine ⟨by rw [List.map_cons, hsame, hx.2], ?_⟩
    rw [List.forall_mem_cons, hx.2]
    exact ⟨hx.1, hkeys⟩

variable [LE κ]

/-- `l'` is `l` in ascending order of the keys, with equal keys in the order they had. -/
structure SortedBy (key : α → Option κ) (l l' : List α) : Prop where
  perm : l'.Perm l
  ascending : l'.Pairwise fun a b => ∃ k k', key a = some k ∧ key b = some k' ∧ k ≤ k'
  stable : ∀ p : α → Bool, (∀ a ∈ l, ∀ b ∈ l, p a = true → p b = true → key a = key b) →
    l'.filter p = l.filter p

theorem sortedBy_short (h : l.length < 2) : SortedBy key l l where
  perm := .refl l
  ascending := by
    cases l with
    | nil => exact .nil
    | cons a l =>
      obtain rfl : l = [] := List.length_eq_zero_iff.mp (by rw [List.length_cons] at h; omega)
      exact List.pairwise_singleton _ a
  stable _ _ := rfl

variable [DecidableLE κ]

def byKey (x y : κ × α) : Bool := decide (x.1 ≤ y.1)

/-- `l.sort_by_key(key)`. -/
def sortByKey (key : α → Option κ) (l : List α) : Option (List α) :=
  if l.length < 2 then some l
  else do
    let keyed ← l.mapM fun a => (key a).map fun k => (k, a)
    return (keyed.mergeSort byKey).map Prod.snd

theorem sortByKey_eq_none (hlen : 2 ≤ l.length) {a : α} (ha : a ∈ l) (hkey : key a = none) :
    sortByKey key l = none := by
  have hmapM : (l.mapM fun a => (key a).map fun k => (k, a)) = none := by
    refine mapM_eq_none ha ?_
    rw [hkey, Option.map_none]
  rw [sortByKey, if_neg (by omega), hmapM]
  rfl

variable [Std.IsLinearOrder κ]

theorem byKey_trans (x y z : κ × α) (hxy : byKey x y = true) (hyz : byKey y z = true) :
    byKey x z = true :=
  decide_eq_true (Std.le_trans (of_decide_eq_true hxy) (of_decide_eq_true hyz))

theorem byKey_total (x y : κ × α) : (byKey x y || byKey y x) = true := by
  simpa [byKey] using Std.le_total (a := x.1) (b := y.1)

/-- Elements of one key stay in their order. -/
theorem filter_mergeSort {keyed : List (κ × α)} {p : κ × α → Bool}
    (h : ∀ x ∈ keyed, ∀ y ∈ keyed, p x = true → p y = true → x.1 = y.1) :
    (keyed.mergeSort byKey).filter p = keyed.filter p := by
  have hsorted : (keyed.filter p).Pairwise fun x y => byKey x y = true := by
    refine List.pairwise_of_forall_mem_list fun x hx y hy => ?_
    rw [List.mem_filter] at hx hy
    have hsame : x.1 = y.1 := h x hx.1 y hy.1 hx.2 hy.2
    exact decide_eq_true (hsame ▸ Std.le_refl x.1)
  have hsub : (keyed.filter p).Sublist (keyed.mergeSort byKey) :=
    List.sublist_mergeSort byKey_trans byKey_total hsorted List.filter_sublist
  have hsub' := hsub.filter p
  simp only [List.filter_filter, Bool.and_self] at hsub'
  refine (hsub'.eq_of_length ?_).symm
  exact ((List.mergeSort_perm keyed byKey).filter p).length_eq.symm

/-- A sort panics only if it has elements to compare and one of them has no key. -/
theorem sortByKey_returns (h : ¬(2 ≤ l.length ∧ ∃ a ∈ l, key a = none)) :
    Returns (sortByKey key l) (SortedBy key l) := by
  refine returns_ite (fun hshort => returns_some (sortedBy_short hshort)) fun hlong => ?_
  have hsome : ∀ a ∈ l, key a ≠ none :=
    fun a ha hkey => h ⟨Nat.le_of_not_lt hlong, a, ha, hkey⟩
  refine (mapM_keyed hsome).bind fun keyed hkeyed => returns_pure ?_
  obtain ⟨hsame, hkeys⟩ := hkeyed
  have hperm : (keyed.mergeSort byKey).Perm keyed := List.mergeSort_perm keyed byKey
  refine ⟨hsame ▸ hperm.map Prod.snd, ?_, fun p hp => ?_⟩
  · rw [List.pairwise_map]
    refine (List.pairwise_mergeSort byKey_trans byKey_total keyed).imp_of_mem
      fun {x y} hx hy hle => ?_
    exact ⟨x.1, y.1, hkeys x (hperm.mem_iff.mp hx), hkeys y (hperm.mem_iff.mp hy),
      of_decide_eq_true hle⟩
  · have hfilter : (keyed.mergeSort byKey).filter (p ∘ Prod.snd) =
        keyed.filter (p ∘ Prod.snd) := by
      refine filter_mergeSort fun x hx y hy hpx hpy => ?_
      have hmem : ∀ z ∈ keyed, z.2 ∈ l := fun z hz => hsame ▸ List.mem_map_of_mem hz
      have hkey := hp x.2 (hmem x hx) y.2 (hmem y hy) hpx hpy
      rwa [hkeys x hx, hkeys y hy, Option.some_inj] at hkey
    rw [List.filter_map, hfilter, ← List.filter_map, hsame]

end Cidre.StableSort
