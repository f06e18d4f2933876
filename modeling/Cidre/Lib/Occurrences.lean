/-
  Cidre.Lib.Occurrences

  The elements of a list in the order in which they first occur, and the loop that
  collects them: an element is appended where the list so far does not hold it.
-/

import Mathlib.Data.List.Nodup

namespace Cidre

variable {α : Type*} [DecidableEq α] {a : α} {l acc : List α}

/-- Every element once, at its first occurrence. -/
def firstOccurrences : List α → List α
  | [] => []
  | a :: l => a :: (firstOccurrences l).filter (· ≠ a)

/-- Appended unless it is there. -/
def appendNew (acc : List α) (a : α) : List α := if acc.contains a then acc else acc ++ [a]

theorem mem_firstOccurrences : a ∈ firstOccurrences l ↔ a ∈ l := by
  induction l with
  | nil => rfl
  | cons b l ih =>
    rw [firstOccurrences, List.mem_cons, List.mem_cons, List.mem_filter, ih]
    by_cases hab : a = b
    · simp [hab]
    · simp [hab]

theorem nodup_firstOccurrences (l : List α) : (firstOccurrences l).Nodup := by
  induction l with
  | nil => exact List.nodup_nil
  | cons b l ih =>
    refine List.nodup_cons.mpr ⟨fun hmem => ?_, ih.filter _⟩
    simpa using (List.mem_filter.mp hmem).2

theorem firstOccurrences_of_nodup (h : l.Nodup) : firstOccurrences l = l := by
  induction l with
  | nil => rfl
  | cons b l ih =>
    obtain ⟨hb, hl⟩ := List.nodup_cons.mp h
    rw [firstOccurrences, ih hl, List.filter_eq_self.mpr]
    intro a ha
    have hne : a ≠ b := fun hab => hb (hab ▸ ha)
    simpa using hne

/-- The loop appends the first occurrences that are new. -/
theorem foldl_appendNew (l acc : List α) :
    l.foldl appendNew acc = acc ++ (firstOccurrences l).filter (· ∉ acc) := by
  induction l generalizing acc with
  | nil => simp [firstOccurrences]
  | cons b l ih =>
    rw [List.foldl_cons, ih, firstOccurrences, appendNew]
    by_cases hb : b ∈ acc
    · -- `b` is there already, and filtering it out of the rest changes nothing
      have hfilter : ((firstOccurrences l).filter (· ≠ b)).filter (· ∉ acc) =
          (firstOccurrences l).filter (· ∉ acc) := by
        rw [List.filter_filter]
        refine List.filter_congr fun a _ => ?_
        by_cases ha : a ∈ acc
        · simp [ha]
        · have hne : a ≠ b := fun hab => ha (hab ▸ hb)
          simp [ha, hne]
      rw [if_pos (by simpa using hb), List.filter_cons_of_neg (by simpa using hb), hfilter]
    · have hfilter : ((firstOccurrences l).filter (· ≠ b)).filter (· ∉ acc) =
          (firstOccurrences l).filter (· ∉ acc ++ [b]) := by
        rw [List.filter_filter]
        refine List.filter_congr fun a _ => ?_
        simp
      rw [if_neg (by simpa using hb), List.filter_cons_of_pos (by simpa using hb), hfilter,
        List.append_assoc]
      rfl

end Cidre
