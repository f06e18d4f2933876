/-
  Cidre.Lib.Nested

  Editing a list of lists in which no element is twice, in terms of its elements:
  an element is moved to the end of another list or to a list of its own, two
  elements change places, a list is moved.

  The lemmas say what each edit does to the lists by index.
-/

import Mathlib.Data.List.Nodup
import Mathlib.Data.List.InsertIdx
import Mathlib.Logic.Equiv.Basic

namespace Cidre.Nested

variable {α : Type*} [DecidableEq α]

/-- The list an element is in. -/
def indexOf (l : List (List α)) (a : α) : Nat := l.findIdx fun xs => a ∈ xs

/-- The element goes to the end of the list at `k`; a list that loses its only
    element is gone. -/
def consume (l : List (List α)) (a : α) (k : Nat) : List (List α) :=
  ((l.map fun xs => xs.erase a).modify k fun xs => xs ++ [a]).filter fun xs => xs ≠ []

/-- The element gets a list of its own at `k`. -/
def expel (l : List (List α)) (a : α) (k : Nat) : List (List α) :=
  (l.map fun xs => xs.erase a).insertIdx k [a]

/-- Two elements change places. -/
def exchange (l : List (List α)) (a b : α) : List (List α) :=
  l.map fun xs => xs.map (Equiv.swap a b)

/-- The list at `i` is moved to `k`. -/
def moveList (l : List (List α)) (i k : Nat) : List (List α) :=
  match l[i]? with
  | some xs => (l.eraseIdx i).insertIdx k xs
  | none => l

/-! ## Where an element is -/

omit [DecidableEq α] in
/-- An element is in one list only. -/
theorem index_eq {l : List (List α)} (h : l.flatten.Nodup) {a : α} {i k : Nat} {xs d : List α}
    (hi : l[i]? = some xs) (ha : a ∈ xs) (hk : l[k]? = some d) (ha' : a ∈ d) : i = k := by
  by_contra hne
  obtain ⟨hi', rfl⟩ := List.getElem?_eq_some_iff.mp hi
  obtain ⟨hk', rfl⟩ := List.getElem?_eq_some_iff.mp hk
  have hpairs := List.pairwise_iff_getElem.mp (List.nodup_flatten.mp h).2
  rcases Nat.lt_or_gt_of_ne hne with hlt | hlt
  · exact hpairs i k hi' hk' hlt ha ha'
  · exact hpairs k i hk' hi' hlt ha' ha

omit [DecidableEq α] in
theorem nodup_of_getElem? {l : List (List α)} (h : l.flatten.Nodup) {i : Nat} {xs : List α}
    (hi : l[i]? = some xs) : xs.Nodup :=
  (List.nodup_flatten.mp h).1 xs (List.mem_of_getElem? hi)

theorem indexOf_eq {l : List (List α)} (h : l.flatten.Nodup) {a : α} {i : Nat} {xs : List α}
    (hi : l[i]? = some xs) (ha : a ∈ xs) : indexOf l a = i := by
  obtain ⟨hi', rfl⟩ := List.getElem?_eq_some_iff.mp hi
  have hlt : indexOf l a < l.length :=
    List.findIdx_lt_length_of_exists ⟨l[i], List.getElem_mem hi', by simpa using ha⟩
  have hmem : a ∈ l[indexOf l a] := of_decide_eq_true (List.findIdx_getElem (w := hlt))
  exact index_eq h (List.getElem?_eq_getElem hlt) hmem hi ha

omit [DecidableEq α] in
/-- Where an edit changes one list only. -/
theorem map_eq_set {β : Type*} {l : List β} {f : β → β} {i : Nat} {xs : β} (hi : l[i]? = some xs)
    (hf : ∀ k d, k ≠ i → l[k]? = some d → f d = d) : l.map f = l.set i (f xs) := by
  apply List.ext_getElem?
  intro k
  rw [List.getElem?_map]
  by_cases hk : k = i
  · subst hk
    rw [List.getElem?_set_self (List.getElem?_eq_some_iff.mp hi).1, hi]
    rfl
  · rw [List.getElem?_set_ne (Ne.symm hk)]
    cases hget : l[k]? with
    | none => rfl
    | some d => exact congrArg some (hf k d hk hget)

theorem map_erase_eq {l : List (List α)} (h : l.flatten.Nodup) {a : α} {i j : Nat} {xs : List α}
    (hi : l[i]? = some xs) (hj : xs[j]? = some a) :
    (l.map fun xs => xs.erase a) = l.set i (xs.eraseIdx j) := by
  have ha : a ∈ xs := List.mem_of_getElem? hj
  rw [map_eq_set hi]
  · obtain ⟨hj', rfl⟩ := List.getElem?_eq_some_iff.mp hj
    rw [(nodup_of_getElem? h hi).erase_getElem]
  · intro k d hk hd
    exact List.erase_of_not_mem fun ha' => hk (index_eq h hd ha' hi ha)

/-! ## Consume and expel -/

omit [DecidableEq α] in
theorem modify_eq_set {β : Type*} {l : List β} {f : β → β} {k : Nat} {d : β}
    (hk : l[k]? = some d) : l.modify k f = l.set k (f d) := by
  rw [List.modify_eq_set_getElem?, hk]
  rfl

omit [DecidableEq α] in
theorem filter_set_nil {l : List (List α)} (hne : ∀ xs ∈ l, xs ≠ []) {i : Nat}
    (hi : i < l.length) : (l.set i []).filter (fun xs => xs ≠ []) = l.eraseIdx i := by
  induction l generalizing i with
  | nil => exact absurd hi (Nat.not_lt_zero i)
  | cons xs l ih =>
    have hrest : ∀ xs ∈ l, xs ≠ [] := fun xs hc => hne xs (List.mem_cons_of_mem _ hc)
    cases i with
    | zero =>
      show List.filter _ ([] :: l) = l
      rw [List.filter_cons_of_neg (by simp), List.filter_eq_self]
      intro xs hc
      simpa using hrest xs hc
    | succ i =>
      have hc : xs ≠ [] := hne xs List.mem_cons_self
      show List.filter _ (xs :: l.set i []) = xs :: l.eraseIdx i
      rw [List.filter_cons_of_pos (by simpa using hc), ih hrest (Nat.lt_of_succ_lt_succ hi)]

/-- The list is gone with its only element. -/
theorem consume_of_one {l : List (List α)} (h : l.flatten.Nodup) (hne : ∀ xs ∈ l, xs ≠ []) {a : α}
    {i k : Nat} {d : List α} (hi : l[i]? = some [a]) (hk : l[k]? = some d) (hik : i ≠ k) :
    consume l a k = (l.set k (d ++ [a])).eraseIdx i := by
  have hi' : i < l.length := (List.getElem?_eq_some_iff.mp hi).1
  have hk' : (l.set i [])[k]? = some d := by rw [List.getElem?_set_ne hik, hk]
  unfold consume
  rw [map_erase_eq h hi (show [a][0]? = some a from rfl)]
  show ((l.set i []).modify k fun xs => xs ++ [a]).filter _ = _
  rw [modify_eq_set hk', List.set_comm _ _ hik, filter_set_nil]
  · intro xs hc
    rcases List.mem_or_eq_of_mem_set hc with hc | rfl
    · exact hne xs hc
    · simp
  · rw [List.length_set]
    exact hi'

/-- The list keeps other elements. -/
theorem consume_of_many {l : List (List α)} (h : l.flatten.Nodup) (hne : ∀ xs ∈ l, xs ≠ []) {a : α}
    {i j k : Nat} {xs d : List α} (hi : l[i]? = some xs) (hj : xs[j]? = some a)
    (hmany : xs.length ≠ 1) (hk : l[k]? = some d) (hik : i ≠ k) :
    consume l a k = (l.set i (xs.eraseIdx j)).set k (d ++ [a]) := by
  have hk' : (l.set i (xs.eraseIdx j))[k]? = some d := by rw [List.getElem?_set_ne hik, hk]
  have hj' : j < xs.length := (List.getElem?_eq_some_iff.mp hj).1
  unfold consume
  rw [map_erase_eq h hi hj, modify_eq_set hk', List.filter_eq_self]
  intro e he
  have hne' : e ≠ [] := by
    rcases List.mem_or_eq_of_mem_set he with he | rfl
    · rcases List.mem_or_eq_of_mem_set he with he | rfl
      · exact hne e he
      · intro hnil
        have hlen := congrArg List.length hnil
        rw [List.length_eraseIdx_of_lt hj', List.length_nil] at hlen
        omega
    · simp
  simpa using hne'

theorem expel_eq {l : List (List α)} (h : l.flatten.Nodup) {a : α} {i j : Nat} {xs : List α}
    (hi : l[i]? = some xs) (hj : xs[j]? = some a) (k : Nat) :
    expel l a k = (l.set i (xs.eraseIdx j)).insertIdx k [a] := by
  rw [expel, map_erase_eq h hi hj]

/-! ## Neighbours -/

omit [DecidableEq α] in
theorem insertIdx_eraseIdx_succ {l : List α} {i : Nat} {a : α} (hi : i < l.length) :
    (l.insertIdx i a).eraseIdx (i + 1) = l.set i a := by
  rw [← List.insertIdx_eraseIdx_of_le hi (Nat.le_refl i), List.insertIdx_eraseIdx_self (by omega)]

omit [DecidableEq α] in
/-- Two neighbours change places when one is moved past the other. -/
theorem move_right_eq {l : List α} {i : Nat} {xs d : α} (hi : l[i]? = some xs)
    (hk : l[i + 1]? = some d) :
    (l.eraseIdx i).insertIdx (i + 1) xs = (l.set i d).set (i + 1) xs := by
  induction l generalizing i with
  | nil => cases hi
  | cons x l ih =>
    cases i with
    | succ i =>
      show x :: (l.eraseIdx i).insertIdx (i + 1) xs = x :: (l.set i d).set (i + 1) xs
      rw [ih hi hk]
    | zero =>
      cases l with
      | nil => cases hk
      | cons y l =>
        obtain rfl := Option.some.inj hi
        obtain rfl := Option.some.inj hk
        rfl

omit [DecidableEq α] in
theorem move_left_eq {l : List α} {i : Nat} {xs d : α} (hi : l[i]? = some d)
    (hk : l[i + 1]? = some xs) :
    (l.eraseIdx (i + 1)).insertIdx i xs = (l.set (i + 1) d).set i xs := by
  induction l generalizing i with
  | nil => cases hi
  | cons x l ih =>
    cases i with
    | succ i =>
      show x :: (l.eraseIdx (i + 1)).insertIdx i xs = x :: (l.set (i + 1) d).set i xs
      rw [ih hi hk]
    | zero =>
      cases l with
      | nil => cases hk
      | cons y l =>
        obtain rfl := Option.some.inj hi
        obtain rfl := Option.some.inj hk
        rfl
/-! ## Exchange -/

theorem map_swap_of_notMem {xs : List α} {a b : α} (ha : a ∉ xs) (hb : b ∉ xs) :
    xs.map (Equiv.swap a b) = xs := by
  conv_rhs => rw [← List.map_id xs]
  refine List.map_congr_left fun x hx => ?_
  exact Equiv.swap_apply_of_ne_of_ne (fun heq => ha (heq ▸ hx)) fun heq => hb (heq ▸ hx)

theorem map_swap_of_mem {xs : List α} (hc : xs.Nodup) {a b : α} {j : Nat} (hj : xs[j]? = some a)
    (hb : b ∉ xs) : xs.map (Equiv.swap a b) = xs.set j b := by
  rw [map_eq_set hj]
  · rw [Equiv.swap_apply_left]
  · intro k d hk hd
    refine Equiv.swap_apply_of_ne_of_ne (fun heq => hk ?_) fun heq =>
      hb (heq ▸ List.mem_of_getElem? hd)
    obtain ⟨hk', rfl⟩ := List.getElem?_eq_some_iff.mp hd
    obtain ⟨hj', rfl⟩ := List.getElem?_eq_some_iff.mp hj
    exact (hc.getElem_inj_iff).mp heq

/-- Two elements of one list. -/
theorem map_swap_of_both {xs : List α} (hc : xs.Nodup) {a b : α} {j k : Nat} (hj : xs[j]? = some a)
    (hk : xs[k]? = some b) : xs.map (Equiv.swap a b) = (xs.set j b).set k a := by
  obtain ⟨hj', rfl⟩ := List.getElem?_eq_some_iff.mp hj
  obtain ⟨hk', rfl⟩ := List.getElem?_eq_some_iff.mp hk
  apply List.ext_getElem?
  intro i
  rw [List.getElem?_map]
  by_cases hik : i = k
  · subst hik
    rw [List.getElem?_set_self (by simpa using hk'), List.getElem?_eq_getElem hk', Option.map_some,
      Equiv.swap_apply_right]
  · rw [List.getElem?_set_ne (Ne.symm hik)]
    by_cases hij : i = j
    · subst hij
      rw [List.getElem?_set_self hj', List.getElem?_eq_getElem hj', Option.map_some,
        Equiv.swap_apply_left]
    · rw [List.getElem?_set_ne (Ne.symm hij)]
      cases hget : xs[i]? with
      | none => rfl
      | some x =>
        obtain ⟨hi', rfl⟩ := List.getElem?_eq_some_iff.mp hget
        rw [Option.map_some, Equiv.swap_apply_of_ne_of_ne]
        · exact fun heq => hij ((hc.getElem_inj_iff).mp heq)
        · exact fun heq => hik ((hc.getElem_inj_iff).mp heq)

theorem exchange_within {l : List (List α)} (h : l.flatten.Nodup) {a b : α} {i j k : Nat}
    {xs : List α} (hi : l[i]? = some xs) (hj : xs[j]? = some a) (hk : xs[k]? = some b) :
    exchange l a b = l.set i ((xs.set j b).set k a) := by
  unfold exchange
  rw [map_eq_set hi, map_swap_of_both (nodup_of_getElem? h hi) hj hk]
  intro n d hn hd
  exact map_swap_of_notMem
    (fun ha => hn (index_eq h hd ha hi (List.mem_of_getElem? hj)))
    fun hb => hn (index_eq h hd hb hi (List.mem_of_getElem? hk))

theorem exchange_between {l : List (List α)} (h : l.flatten.Nodup) {a b : α} {i j i' j' : Nat}
    {xs ys : List α} (hi : l[i]? = some xs) (hj : xs[j]? = some a) (hi' : l[i']? = some ys)
    (hj' : ys[j']? = some b) (hne : i ≠ i') :
    exchange l a b = (l.set i (xs.set j b)).set i' (ys.set j' a) := by
  have ha : a ∈ xs := List.mem_of_getElem? hj
  have hb : b ∈ ys := List.mem_of_getElem? hj'
  have hbc : b ∉ xs := fun hmem => hne (index_eq h hi hmem hi' hb)
  have hac : a ∉ ys := fun hmem => hne (index_eq h hi ha hi' hmem)
  have hc := map_swap_of_mem (nodup_of_getElem? h hi) hj hbc
  have hc' : ys.map (Equiv.swap a b) = ys.set j' a := by
    rw [Equiv.swap_comm]
    exact map_swap_of_mem (nodup_of_getElem? h hi') hj' hac
  unfold exchange
  apply List.ext_getElem?
  intro n
  rw [List.getElem?_map]
  by_cases hn' : n = i'
  · subst hn'
    have hlt := (List.getElem?_eq_some_iff.mp hi').1
    rw [List.getElem?_set_self (by simpa using hlt), hi', Option.map_some, hc']
  · rw [List.getElem?_set_ne (Ne.symm hn')]
    by_cases hn : n = i
    · subst hn
      rw [List.getElem?_set_self (List.getElem?_eq_some_iff.mp hi).1, hi, Option.map_some, hc]
    · rw [List.getElem?_set_ne (Ne.symm hn)]
      cases hget : l[n]? with
      | none => rfl
      | some d =>
        rw [Option.map_some, map_swap_of_notMem (fun hmem => hn (index_eq h hget hmem hi ha))
          fun hmem => hn' (index_eq h hget hmem hi' hb)]

theorem exchange_exchange (l : List (List α)) (a b : α) :
    exchange (exchange l a b) a b = l := by
  unfold exchange
  rw [List.map_map]
  conv_rhs => rw [← List.map_id l]
  refine List.map_congr_left fun xs _ => ?_
  show (xs.map _).map _ = xs
  rw [List.map_map]
  conv_rhs => rw [← List.map_id xs]
  exact List.map_congr_left fun x _ => Equiv.swap_apply_self a b x

end Cidre.Nested
