/-
  Cidre.Lib.Cyclic

  A selection that goes round a list, and a selection that stays near a place of
  a list when some entries are hidden.

  The entry after the selected one is found by skipping up to it (`skipTo`); with
  the head as the entry after the last, the places are counted modulo the length
  (`skipTo_or_head`), and downwards on the reversed list.  `lastUpTo` is the loop
  that keeps the last shown entry at or left of an index; `ChosenNear` says which
  entry that is.
-/

import Mathlib.Data.List.Nodup

namespace Cidre.Cyclic

variable {α β κ : Type*}

/-! ## Going round -/

/-- `iter().skip_while(|x| x != k).nth(1)`. -/
def skipTo [DecidableEq κ] (l : List κ) (k : κ) : Option κ := (l.dropWhile (· ≠ k))[1]?

theorem skipTo_append [DecidableEq κ] {l l' : List κ} {k : κ} (h : k ∉ l) :
    skipTo (l ++ k :: l') k = l'.head? := by
  have hdrop : (l ++ k :: l').dropWhile (· ≠ k) = k :: l' := by
    rw [List.dropWhile_append_of_pos fun x hx => by simpa using ne_of_mem_of_not_mem hx h]
    simp
  rw [skipTo, hdrop]
  simp [List.head?_eq_getElem?]

/-- The entry after the selected one, or the first one after the last. -/
theorem skipTo_or_head [DecidableEq κ] {l : List κ} (hl : l.Nodup) {i : ℕ} {k : κ}
    (hk : l[i]? = some k) : (skipTo l k).or l.head? = l[(i + 1) % l.length]? := by
  obtain ⟨hi, rfl⟩ := List.getElem?_eq_some_iff.mp hk
  have hsplit : l = l.take i ++ l[i] :: l.drop (i + 1) := by
    rw [← List.drop_eq_getElem_cons hi, List.take_append_drop]
  have hskip : skipTo l l[i] = (l.drop (i + 1)).head? := by
    generalize l[i] = k at hsplit
    have hnew : k ∉ l.take i := by
      intro hmem
      rw [hsplit] at hl
      exact (List.nodup_append.mp hl).2.2 _ hmem _ List.mem_cons_self rfl
    rw [← skipTo_append hnew, ← hsplit]
  rw [hskip, List.head?_drop]
  rcases Nat.lt_or_ge (i + 1) l.length with hlt | hge
  · rw [Nat.mod_eq_of_lt hlt, List.getElem?_eq_getElem hlt]
    rfl
  · have hlast : i + 1 = l.length := by omega
    rw [hlast, Nat.mod_self, List.getElem?_eq_none (Nat.le_refl _), Option.none_or,
      List.head?_eq_getElem?]

/-- The same from the end: the entry before the selected one, or the last one
    before the first. -/
theorem skipTo_reverse_or_getLast [DecidableEq κ] {l : List κ} (hl : l.Nodup) {i : ℕ} {k : κ}
    (hk : l[i]? = some k) :
    (skipTo l.reverse k).or l.getLast? = l[(i + (l.length - 1)) % l.length]? := by
  obtain ⟨hi, -⟩ := List.getElem?_eq_some_iff.mp hk
  have hmirror : l.reverse[l.length - 1 - i]? = some k := by
    rw [List.getElem?_reverse (by omega)]
    rwa [show l.length - 1 - (l.length - 1 - i) = i by omega]
  have hround := skipTo_or_head (List.nodup_reverse.mpr hl) hmirror
  rw [List.head?_reverse, List.length_reverse] at hround
  rw [hround]
  have hlt : (l.length - 1 - i + 1) % l.length < l.length := Nat.mod_lt _ (by omega)
  rw [List.getElem?_reverse hlt]
  congr 1
  rcases Nat.eq_zero_or_pos i with rfl | hpos
  · rw [Nat.sub_zero, Nat.sub_add_cancel (by omega), Nat.mod_self, Nat.zero_add,
      Nat.mod_eq_of_lt (by omega)]
    rfl
  · rw [Nat.mod_eq_of_lt (show l.length - 1 - i + 1 < l.length by omega),
      show i + (l.length - 1) = i - 1 + l.length by omega, Nat.add_mod_right,
      Nat.mod_eq_of_lt (by omega)]
    omega

/-- Forward and back again, and the other way round. -/
theorem mod_forward_back {i n : ℕ} (hi : i < n) : ((i + 1) % n + (n - 1)) % n = i := by
  rw [Nat.mod_add_mod, show i + 1 + (n - 1) = i + n by omega, Nat.add_mod_right,
    Nat.mod_eq_of_lt hi]

theorem mod_back_forward {i n : ℕ} (hi : i < n) : ((i + (n - 1)) % n + 1) % n = i := by
  rw [Nat.mod_add_mod, show i + (n - 1) + 1 = i + n by omega, Nat.add_mod_right,
    Nat.mod_eq_of_lt hi]

/-- Only in a list of one entry is the entry after an entry itself. -/
theorem length_eq_one_of_next {i n : ℕ} (hi : i < n) (h : (i + 1) % n = i) : n = 1 := by
  rcases Nat.lt_or_ge (i + 1) n with hlt | hge
  · rw [Nat.mod_eq_of_lt hlt] at h
    omega
  · have hlast : i + 1 = n := by omega
    rw [hlast, Nat.mod_self] at h
    omega

/-! ## Staying near a place -/

/-- The loop over the shown entries with their indices, left at the first index
    past `i`: the value of the last entry seen. -/
def lastUpTo (f : α → β) (i : ℕ) : β → List (α × ℕ) → β
  | b, [] => b
  | b, (a, j) :: rest => if j > i then b else lastUpTo f i (f a) rest

/-- The entry that is chosen near place `i`: the one there if it is shown, else
    the nearest one to its left, else the first one. -/
inductive ChosenNear (p : α → Bool) (l : List α) (i : ℕ) : Option α → Prop
  | kept (a : α) (place : l[i]? = some a) (shown : p a = true) : ChosenNear p l i (some a)
  | left (j : ℕ) (a : α) (lt : j < i) (place : l[j]? = some a) (shown : p a = true)
      (between : ∀ k b, j < k → k ≤ i → l[k]? = some b → p b = false) : ChosenNear p l i (some a)
  | first (none : ∀ j b, j ≤ i → l[j]? = some b → p b = false) : ChosenNear p l i (l.find? p)

theorem lastUpTo_zipIdx (f : α → β) (p : α → Bool) (i n : ℕ) (b : β) (l : List α) :
    lastUpTo f i b ((l.zipIdx n).filter fun x => p x.1) =
      ((l.take (i + 1 - n)).filter p).foldl (fun _ a => f a) b := by
  induction l generalizing n b with
  | nil => simp [lastUpTo]
  | cons a l ih =>
    rw [List.zipIdx_cons, List.filter_cons]
    rcases Nat.lt_or_ge i n with hlt | hge
    · have hnone : i + 1 - n = 0 := by omega
      have hrest : i + 1 - (n + 1) = 0 := by omega
      have hih := ih (n + 1) b
      rw [hrest] at hih
      rw [hnone]
      split
      · rw [lastUpTo, if_pos hlt]
        rfl
      · exact hih
    · have htake : i + 1 - n = (i + 1 - (n + 1)) + 1 := by omega
      rw [htake, List.take_succ_cons, List.filter_cons]
      split
      · rw [lastUpTo, if_neg (by omega), ih, List.foldl_cons]
      · rw [ih]

/-- The loop, started from the first shown entry, chooses the entry near `i`. -/
theorem chosenNear_lastUpTo {p : α → Bool} {l : List α} {i : ℕ} (hi : i < l.length) :
    ChosenNear p l i (lastUpTo some i (l.find? p) (l.zipIdx.filter fun x => p x.1)) := by
  rw [lastUpTo_zipIdx, Nat.sub_zero]
  have hplace : ∀ j, j ≤ i → (l.take (i + 1))[j]? = l[j]? := fun j hj => by
    rw [List.getElem?_take, if_pos (by omega)]
  rcases List.eq_nil_or_concat ((l.take (i + 1)).filter p) with hnone | ⟨before, a, hlast⟩
  · rw [hnone, List.foldl_nil]
    refine .first fun j b hj hb => ?_
    rw [← hplace j hj] at hb
    have hall := List.filter_eq_nil_iff.mp hnone b (List.mem_of_getElem? hb)
    simpa using hall
  · rw [hlast, List.concat_eq_append, List.foldl_append, List.foldl_cons, List.foldl_nil]
    rw [List.concat_eq_append] at hlast
    obtain ⟨front, back, hsplit, -, hback⟩ := List.filter_eq_append_iff.mp hlast
    obtain ⟨hidden, after, rfl, -, hshown, hafter⟩ := List.filter_eq_cons_iff.mp hback
    rw [← List.append_assoc] at hsplit
    have hlength : (front ++ hidden).length + after.length = i := by
      have := congrArg List.length hsplit
      rw [List.length_take, List.length_append, List.length_cons] at this
      omega
    have hat : l[(front ++ hidden).length]? = some a := by
      rw [← hplace _ (by omega), hsplit, List.getElem?_append_right (Nat.le_refl _), Nat.sub_self]
      rfl
    rcases List.eq_nil_or_concat after with rfl | ⟨_, _, rfl⟩
    · rw [List.length_nil, Nat.add_zero] at hlength
      exact .kept a (hlength ▸ hat) hshown
    · refine .left _ a (by simp only [List.length_concat] at hlength; omega) hat hshown ?_
      intro k b hk hki hb
      rw [← hplace k hki, hsplit, List.getElem?_append_right (Nat.le_of_lt hk)] at hb
      rw [List.getElem?_cons, if_neg (by omega)] at hb
      have hall := List.filter_eq_nil_iff.mp hafter b (List.mem_of_getElem? hb)
      simpa using hall

theorem ChosenNear.mem {p : α → Bool} {l : List α} {i : ℕ} {a : α}
    (h : ChosenNear p l i (some a)) : a ∈ l ∧ p a = true := by
  generalize hchosen : some a = chosen at h
  cases h with
  | kept b place shown | left j b _ place shown _ =>
    obtain rfl := Option.some.inj hchosen
    exact ⟨List.mem_of_getElem? place, shown⟩
  | first _ => exact ⟨List.mem_of_find?_eq_some hchosen.symm, List.find?_some hchosen.symm⟩

/-- No entry is chosen only if none is shown. -/
theorem ChosenNear.none_shown {p : α → Bool} {l : List α} {i : ℕ} (h : ChosenNear p l i none) :
    ∀ a ∈ l, p a = false := by
  generalize hchosen : none = chosen at h
  cases h with
  | kept => cases hchosen
  | left => cases hchosen
  | first _ =>
    intro a ha
    simpa using List.find?_eq_none.mp hchosen.symm a ha

end Cidre.Cyclic
