/-
  Cidre.Lib.Stacking

  Lists from the top to the bottom in which what hangs on another entry is above it.

  When an entry is put somewhere, what hangs on it, on something that hangs on it, and
  so on may be left below.  One pass from the bottom finds all of it, since a list in
  order has each of them below what hangs on it; moved to above the entry, one after
  the other, it leaves the rest as it was.
-/

import Cidre.Lib.Panic

namespace Cidre.Stacking

open Cidre.Panic

variable {α β : Type} {child : α → α → Bool}

/-! ## What is below -/

/-- No entry hangs on one that is above it. -/
def Stacked (child : α → α → Bool) (l : List α) : Prop :=
  l.Pairwise fun above below => child below above = false

/-- The entries that hang on `w`, or on one of those found below them. -/
def descendants (child : α → α → Bool) (w : α) : List α → List α
  | [] => []
  | a :: l =>
      if child a w || (descendants child w l).any (child a) then a :: descendants child w l
      else descendants child w l

/-- The entries that are left. -/
def others (child : α → α → Bool) (w : α) : List α → List α
  | [] => []
  | a :: l =>
      if child a w || (descendants child w l).any (child a) then others child w l
      else a :: others child w l

/-- Where the descendants are in a list whose entries are counted from `k`. -/
def positions (child : α → α → Bool) (w : α) : Nat → List α → List Nat
  | _, [] => []
  | k, a :: l =>
      if child a w || (descendants child w l).any (child a) then k :: positions child w (k + 1) l
      else positions child w (k + 1) l

theorem descendants_sublist (child : α → α → Bool) (w : α) (l : List α) :
    (descendants child w l).Sublist l := by
  induction l with
  | nil => exact List.Sublist.slnil
  | cons a l ih =>
    rw [descendants]
    split
    · exact ih.cons_cons a
    · exact ih.cons a

theorem others_sublist (child : α → α → Bool) (w : α) (l : List α) :
    (others child w l).Sublist l := by
  induction l with
  | nil => exact List.Sublist.slnil
  | cons a l ih =>
    rw [others]
    split
    · exact ih.cons a
    · exact ih.cons_cons a

theorem descendants_others_perm (child : α → α → Bool) (w : α) (l : List α) :
    (descendants child w l ++ others child w l).Perm l := by
  induction l with
  | nil => exact List.Perm.refl _
  | cons a l ih =>
    rw [descendants, others]
    split
    · exact ih.cons a
    · exact List.perm_middle.trans (ih.cons a)

/-- The entries with `p` that are not descendants are left in their order. -/
theorem filter_others {w : α} {p : α → Bool} {l : List α}
    (hp : ∀ a ∈ descendants child w l, p a = false) :
    (others child w l).filter p = l.filter p := by
  induction l with
  | nil => rfl
  | cons a l ih =>
    rw [descendants] at hp
    rw [others]
    split
    · next hin =>
      rw [if_pos hin] at hp
      rw [ih fun b hb => hp b (List.mem_cons_of_mem a hb),
        List.filter_cons_of_neg (by simp [hp a List.mem_cons_self])]
    · next hout =>
      rw [if_neg hout] at hp
      rw [List.filter_cons, List.filter_cons, ih hp]

/-- A descendant hangs on `w` by a chain. -/
theorem transGen_of_mem_descendants {w a : α} {l : List α} (h : a ∈ descendants child w l) :
    Relation.TransGen (fun a b => child a b = true) a w := by
  induction l generalizing a with
  | nil => cases h
  | cons b l ih =>
    rw [descendants] at h
    split at h
    · next hin =>
      rcases List.mem_cons.mp h with rfl | hmem
      · rcases Bool.or_eq_true_iff.mp hin with hchild | hany
        · exact Relation.TransGen.single hchild
        · obtain ⟨d, hd, hchild⟩ := List.any_eq_true.mp hany
          exact Relation.TransGen.head hchild (ih hd)
      · exact ih hmem
    · exact ih h

/-- What is left hangs neither on `w` nor on a descendant. -/
theorem not_child_of_mem_others {w a : α} {l : List α} (hl : Stacked child l)
    (h : a ∈ others child w l) :
    child a w = false ∧ ∀ d ∈ descendants child w l, child a d = false := by
  induction l with
  | nil => cases h
  | cons b l ih =>
    obtain ⟨hb, hl⟩ := List.pairwise_cons.mp hl
    rw [others] at h
    rw [descendants]
    split at h
    · next hin =>
      obtain ⟨hw, hd⟩ := ih hl h
      refine ⟨hw, fun d hmem => ?_⟩
      rw [if_pos hin] at hmem
      rcases List.mem_cons.mp hmem with rfl | hmem
      · exact hb a ((others_sublist child w l).subset h)
      · exact hd d hmem
    · next hout =>
      rw [if_neg hout]
      rcases List.mem_cons.mp h with rfl | hmem
      · rw [Bool.or_eq_true, not_or, Bool.not_eq_true, Bool.not_eq_true] at hout
        exact ⟨hout.1, fun d hd => by simpa using List.any_eq_false.mp hout.2 d hd⟩
      · exact ih hl hmem

/-! ## Brought up -/

/-- The list once what hangs on `w` is above it. -/
def broughtUp (child : α → α → Bool) (pre : List α) (w : α) (l : List α) : List α :=
  pre ++ (descendants child w l ++ w :: others child w l)

theorem broughtUp_perm (child : α → α → Bool) (pre : List α) (w : α) (l : List α) :
    (broughtUp child pre w l).Perm (pre ++ w :: l) :=
  (List.perm_middle.trans ((descendants_others_perm child w l).cons w)).append_left pre

/-- What hangs on `w` by no chain stays in its order. -/
theorem filter_broughtUp {pre l : List α} {w : α} {p : α → Bool}
    (hp : ∀ a, Relation.TransGen (fun a b => child a b = true) a w → p a = false) :
    (broughtUp child pre w l).filter p = (pre ++ w :: l).filter p := by
  have hdesc : ∀ a ∈ descendants child w l, p a = false :=
    fun a ha => hp a (transGen_of_mem_descendants ha)
  have hnone : (descendants child w l).filter p = [] :=
    List.filter_eq_nil_iff.mpr fun a ha => by simp [hdesc a ha]
  rw [broughtUp, List.filter_append, List.filter_append, List.filter_append, hnone,
    List.nil_append, List.filter_cons, List.filter_cons, filter_others hdesc]

/-- Bringing up puts everything above what it hangs on, if only what is below `w` may
    hang on it. -/
theorem stacked_broughtUp {pre l : List α} {w : α}
    (hacyclic : ∀ a, ¬ Relation.TransGen (fun a b => child a b = true) a a)
    (hrest : Stacked child (pre ++ l)) (hpre : ∀ a ∈ pre, child w a = false) :
    Stacked child (broughtUp child pre w l) := by
  obtain ⟨hpp, hll, hpl⟩ := List.pairwise_append.mp hrest
  have hsub := descendants_sublist child w l
  have hsub' := others_sublist child w l
  refine List.pairwise_append.mpr ⟨hpp, ?_, ?_⟩
  · refine List.pairwise_append.mpr ⟨hll.sublist hsub, ?_, ?_⟩
    · refine List.pairwise_cons.mpr ⟨fun a ha => ?_, hll.sublist hsub'⟩
      exact (not_child_of_mem_others hll ha).1
    · intro d hd a ha
      rcases List.mem_cons.mp ha with rfl | ha
      · -- A descendant that the entry hangs on would close a cycle.
        by_contra hchild
        rw [Bool.not_eq_false] at hchild
        exact hacyclic a (Relation.TransGen.head hchild (transGen_of_mem_descendants hd))
      · exact (not_child_of_mem_others hll ha).2 d hd
  · intro a ha b hb
    rcases List.mem_append.mp hb with hb | hb
    · exact hpl a ha b (hsub.subset hb)
    · rcases List.mem_cons.mp hb with rfl | hb
      · exact hpre a ha
      · exact hpl a ha b (hsub'.subset hb)

/-! ## One after the other -/

/-- `v.insert(to, v.remove(from))` -/
def moveTo (l : List α) (i j : Nat) : Option (List α) := do
  let (a, l) ← Vec.remove l i
  Vec.insert l j a

/-- The entries at the indexes go, one after the other, to `j`, `j + 1` and so on. -/
def moveAll : List Nat → Nat → List α → Option (List α)
  | [], _, l => some l
  | i :: is, j, l => do
      let l ← moveTo l i j
      moveAll is (j + 1) l

theorem moveTo_split (pre mid post : List α) (a : α) :
    moveTo (pre ++ (mid ++ a :: post)) (pre.length + mid.length) pre.length =
      some (pre ++ a :: (mid ++ post)) := by
  have hremove := Vec.remove_split (pre ++ mid) post a
  rw [List.append_assoc, List.length_append, List.append_assoc] at hremove
  rw [moveTo, hremove]
  exact Vec.insert_split pre (mid ++ post) a

/-- From the top, no move changes the index of an entry that is still to be moved. -/
theorem moveAll_positions (child : α → α → Bool) (w : α) (l : List α) : ∀ pre kept : List α,
    moveAll (positions child w (pre.length + (w :: kept).length) l) pre.length
        (pre ++ (w :: kept ++ l)) =
      some (pre ++ (descendants child w l ++ w :: (kept ++ others child w l))) := by
  induction l with
  | nil => intro pre kept; simp [positions, moveAll, descendants, others]
  | cons a l ih =>
    intro pre kept
    rw [positions, descendants, others]
    split
    · rw [moveAll, moveTo_split]
      have hmoved := ih (pre ++ [a]) kept
      rw [List.length_append, List.length_singleton] at hmoved
      have hidx : pre.length + 1 + (w :: kept).length = pre.length + (w :: kept).length + 1 := by
        omega
      rw [hidx] at hmoved
      simpa using hmoved
    · have hkept := ih pre (kept ++ [a])
      have hidx : pre.length + (w :: (kept ++ [a])).length =
          pre.length + (w :: kept).length + 1 := by
        simp only [List.length_cons, List.length_append, List.length_nil]
        omega
      rw [hidx] at hkept
      simpa using hkept

/-- Moving the descendants of the entry at `pre.length` to where it is brings them up. -/
theorem moveAll_broughtUp (child : α → α → Bool) (pre : List α) (w : α) (l : List α) :
    moveAll (positions child w (pre.length + 1) l) pre.length (pre ++ w :: l) =
      some (broughtUp child pre w l) := by
  simpa [broughtUp] using moveAll_positions child w l pre []

/-! ## Beside other data -/

theorem remove_map (f : α → β) (l : List α) (i : Nat) :
    Vec.remove (l.map f) i = (Vec.remove l i).map fun p => (f p.1, p.2.map f) := by
  rw [Vec.remove, Vec.remove, List.getElem?_map]
  cases l[i]? with
  | none => rfl
  | some a => simp [List.eraseIdx_map]

theorem insert_map (f : α → β) (l : List α) (i : Nat) (a : α) :
    Vec.insert (l.map f) i (f a) = (Vec.insert l i a).map (List.map f) := by
  rw [Vec.insert, Vec.insert, List.length_map]
  split
  · rw [Option.map_some, List.map_insertIdx]
  · rfl

theorem descendants_map (f : α → β) (child : β → β → Bool) (w : α) (l : List α) :
    descendants child (f w) (l.map f) =
      (descendants (fun a b => child (f a) (f b)) w l).map f := by
  induction l with
  | nil => rfl
  | cons a l ih =>
    rw [List.map_cons, descendants, descendants, ih, List.any_map, apply_ite (List.map f)]
    rfl

theorem positions_map (f : α → β) (child : β → β → Bool) (w : α) (l : List α) (k : Nat) :
    positions child (f w) k (l.map f) = positions (fun a b => child (f a) (f b)) w k l := by
  induction l generalizing k with
  | nil => rfl
  | cons a l ih =>
    rw [List.map_cons, positions, positions, descendants_map, List.any_map, ih]
    rfl

end Cidre.Stacking
