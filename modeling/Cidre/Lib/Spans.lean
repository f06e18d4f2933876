/-
  Cidre.Lib.Spans

  Sets of numbers as sorted lists of half-open spans.

  The spans of a list are `Separated` when none is empty and each ends before the
  next one starts.  A list is taken apart at the place a scan has got to: the
  spans below it, the one it is at, and those above it.
-/

import Mathlib.Data.List.Pairwise
import Mathlib.Order.MinMax

namespace Cidre.Spans

variable {α : Type} [LinearOrder α]

/-- The numbers from `start` up to, but not including, `stop`. -/
structure Span (α : Type) where
  start : α
  stop : α
deriving DecidableEq, Repr

def Span.Contains (s : Span α) (x : α) : Prop := s.start ≤ x ∧ x < s.stop

/-- A number in one of the spans. -/
def Covers (l : List (Span α)) (x : α) : Prop := ∃ s ∈ l, s.Contains x

structure Separated (l : List (Span α)) : Prop where
  proper : ∀ s ∈ l, s.start < s.stop
  apart : l.Pairwise fun a b => a.stop < b.start

theorem separated_nil : Separated ([] : List (Span α)) :=
  ⟨by simp, List.Pairwise.nil⟩

theorem not_covers_nil (x : α) : ¬ Covers [] x := by
  rintro ⟨s, hs, -⟩
  cases hs

theorem covers_append (l l' : List (Span α)) (x : α) :
    Covers (l ++ l') x ↔ Covers l x ∨ Covers l' x := by
  simp only [Covers, List.mem_append, or_and_right, exists_or]

theorem covers_cons (s : Span α) (l : List (Span α)) (x : α) :
    Covers (s :: l) x ↔ s.Contains x ∨ Covers l x := by
  simp only [Covers, List.mem_cons, or_and_right, exists_or, exists_eq_left]

/-! ## A list taken apart -/

variable {below above : List (Span α)} {s : Span α}

theorem separated_append {l l' : List (Span α)} :
    Separated (l ++ l') ↔
      Separated l ∧ Separated l' ∧ ∀ a ∈ l, ∀ b ∈ l', a.stop < b.start := by
  constructor
  · rintro ⟨hproper, hapart⟩
    obtain ⟨hl, hl', hbetween⟩ := List.pairwise_append.mp hapart
    exact ⟨⟨fun a ha => hproper a (List.mem_append_left _ ha), hl⟩,
      ⟨fun a ha => hproper a (List.mem_append_right _ ha), hl'⟩, hbetween⟩
  · rintro ⟨hl, hl', hbetween⟩
    refine ⟨fun a ha => ?_, List.pairwise_append.mpr ⟨hl.apart, hl'.apart, hbetween⟩⟩
    rcases List.mem_append.mp ha with h | h
    · exact hl.proper a h
    · exact hl'.proper a h

theorem separated_cons {l : List (Span α)} :
    Separated (s :: l) ↔ s.start < s.stop ∧ Separated l ∧ ∀ b ∈ l, s.stop < b.start := by
  constructor
  · rintro ⟨hproper, hapart⟩
    obtain ⟨hs, hl⟩ := List.pairwise_cons.mp hapart
    exact ⟨hproper s List.mem_cons_self, ⟨fun b hb => hproper b (List.mem_cons_of_mem _ hb), hl⟩, hs⟩
  · rintro ⟨hs, hl, hbefore⟩
    exact ⟨List.forall_mem_cons.mpr ⟨hs, hl.proper⟩, List.pairwise_cons.mpr ⟨hbefore, hl.apart⟩⟩

/-- The span at which a list is taken apart lies between those below and above. -/
theorem Separated.at (h : Separated (below ++ s :: above)) :
    s.start < s.stop ∧ (∀ a ∈ below, a.stop < s.start) ∧ ∀ b ∈ above, s.stop < b.start := by
  obtain ⟨-, hs, hbetween⟩ := separated_append.mp h
  obtain ⟨hproper, -, habove⟩ := separated_cons.mp hs
  exact ⟨hproper, fun a ha => hbetween a ha s List.mem_cons_self, habove⟩

/-- Without the span at which it is taken apart. -/
theorem Separated.without (h : Separated (below ++ s :: above)) : Separated (below ++ above) := by
  obtain ⟨hbelow, hs, hbetween⟩ := separated_append.mp h
  obtain ⟨-, habove, -⟩ := separated_cons.mp hs
  exact separated_append.mpr
    ⟨hbelow, habove, fun a ha b hb => hbetween a ha b (List.mem_cons_of_mem _ hb)⟩

/-- A span fits between those below and those above. -/
theorem Separated.insert (h : Separated (below ++ above)) (hs : s.start < s.stop)
    (hbelow : ∀ a ∈ below, a.stop < s.start) (habove : ∀ b ∈ above, s.stop < b.start) :
    Separated (below ++ s :: above) := by
  obtain ⟨hl, hl', hbetween⟩ := separated_append.mp h
  refine separated_append.mpr ⟨hl, separated_cons.mpr ⟨hs, hl', habove⟩, fun a ha b hb => ?_⟩
  rcases List.mem_cons.mp hb with rfl | hb
  · exact hbelow a ha
  · exact hbetween a ha b hb

theorem covers_insert (below above : List (Span α)) (s : Span α) (x : α) :
    Covers (below ++ s :: above) x ↔ s.Contains x ∨ Covers (below ++ above) x := by
  rw [covers_append, covers_cons, covers_append, or_left_comm]

/-- The span from the start of the first of two spans to the end of the last. -/
def Span.hull (s t : Span α) : Span α := ⟨min s.start t.start, max s.stop t.stop⟩

/-- Spans that overlap or touch have nothing between them. -/
theorem Span.contains_hull {s t : Span α} (hs : s.start ≤ t.stop) (ht : t.start ≤ s.stop) (x : α) :
    (s.hull t).Contains x ↔ s.Contains x ∨ t.Contains x := by
  simp only [hull, Contains, min_le_iff, lt_max_iff]
  constructor
  · rintro ⟨h₁ | h₁, h₂ | h₂⟩
    · exact Or.inl ⟨h₁, h₂⟩
    · rcases lt_or_ge x s.stop with h | h
      · exact Or.inl ⟨h₁, h⟩
      · exact Or.inr ⟨ht.trans h, h₂⟩
    · rcases lt_or_ge x t.stop with h | h
      · exact Or.inr ⟨h₁, h⟩
      · exact Or.inl ⟨hs.trans h, h₂⟩
    · exact Or.inr ⟨h₁, h₂⟩
  · rintro (⟨h₁, h₂⟩ | ⟨h₁, h₂⟩)
    · exact ⟨Or.inl h₁, Or.inl h₂⟩
    · exact ⟨Or.inr h₁, Or.inr h₂⟩

/-- A number of one span is in none below it. -/
theorem Separated.not_covers_below (h : Separated (below ++ s :: above)) {x : α}
    (hx : s.start ≤ x) : ¬ Covers below x := by
  rintro ⟨a, ha, -, hlt⟩
  have hbefore := h.at.2.1 a ha
  exact absurd (hlt.trans hbefore) hx.not_gt

end Cidre.Spans
