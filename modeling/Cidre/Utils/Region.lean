/-
  Cidre.Utils.Region

  The decomposition of a region into rectangles
  (`region_to_non_overlapping_rects` in `src/utils/region.rs`).

  A region is a list of rectangles that are added and subtracted in order.  The
  code sweeps over the bands between the edges of the rectangles from the top
  down, and collects what is covered of a band as a sorted list of spans.

    * `addSpan` and `subtractSpan` scan the spans from the right; the scan is
      taken apart into the spans it has not reached and those it has passed.
    * In a band, a rectangle covers every row or none, so the spans of a band are
      what the region covers of each of its rows (`bandSpans_returns`).
    * The bands follow each other and leave out only rows that no rectangle has.

  Coordinates are integers; the sums of the source are taken not to overflow.
-/

import Mathlib.Data.List.Dedup
import Mathlib.Data.List.Induction
import Cidre.Lib.Spans
import Cidre.Outputs.Placement

namespace Cidre.Utils

open Cidre.Panic
open Cidre.Spans (Span Covers Separated)
open Cidre.Outputs (Point Rectangle)

/-- `RectangleKind` of a region's attributes -/
inductive RectangleKind where
  | add
  | subtract
deriving DecidableEq, Repr

abbrev Region := List (RectangleKind × Rectangle)

/-! ## The sweep -/

/-- `Rectangle::from_extremities((x1, y1), (x2, y2))` -/
def fromExtremities (x1 y1 x2 y2 : Int) : Rectangle := ⟨⟨x1, y1⟩, ⟨x2 - x1, y2 - y1⟩⟩

/-- The loop of `Add` over the spans below `i`, with the span to add, which has
    taken in those it met. -/
def addSpanFrom : Nat → Span Int → List (Span Int) → Option (List (Span Int))
  | 0, new, spans => Vec.insert spans 0 new
  | i + 1, new, spans => do
      let span ← spans[i]?
      if span.stop < new.start then Vec.insert spans (i + 1) new
      else if new.stop < span.start then addSpanFrom i new spans
      else
        let (_, spans) ← Vec.remove spans i
        addSpanFrom i (new.hull span) spans

def addSpan (new : Span Int) (spans : List (Span Int)) : Option (List (Span Int)) :=
  addSpanFrom spans.length new spans

/-- The loop of `Subtract` over the spans below `i`. -/
def subtractSpanFrom (cut : Span Int) : Nat → List (Span Int) → Option (List (Span Int))
  | 0, spans => some spans
  | i + 1, spans => do
      let span ← spans[i]?
      if span.stop ≤ cut.start then return spans
      else if cut.stop ≤ span.start then subtractSpanFrom cut i spans
      else
        let (_, spans) ← Vec.remove spans i
        let spans ← applyIf (decide (cut.stop < span.stop))
          (fun spans => Vec.insert spans i ⟨cut.stop, span.stop⟩) spans
        let spans ← applyIf (decide (span.start < cut.start))
          (fun spans => Vec.insert spans i ⟨span.start, cut.start⟩) spans
        subtractSpanFrom cut i spans

def subtractSpan (cut : Span Int) (spans : List (Span Int)) : Option (List (Span Int)) :=
  subtractSpanFrom cut spans.length spans

/-- One rectangle of the region, in the band from `lo` to `hi`. -/
def bandRect (lo hi : Int) (spans : List (Span Int)) (kr : RectangleKind × Rectangle) :
    Option (List (Span Int)) :=
  let r := kr.2
  if hi ≤ r.loc.y ∨ r.loc.y + r.size.h ≤ lo then some spans
  else
    let span : Span Int := ⟨r.loc.x, r.loc.x + r.size.w⟩
    if span.start = span.stop then some spans
    else
      match kr.1 with
      | .add => addSpan span spans
      | .subtract => subtractSpan span spans

def bandSpans (region : Region) (lo hi : Int) : Option (List (Span Int)) :=
  region.foldlM (bandRect lo hi) []

/-- The bands from `lo` on. -/
def sweep (region : Region) : Int → List Int → Option (List Rectangle)
  | _, [] => some []
  | lo, hi :: ys => do
      let spans ← bandSpans region lo hi
      let output ← sweep region hi ys
      return (spans.map fun span => fromExtremities span.start lo span.stop hi) ++ output

/-- The vertical coordinates of the edges, collected in a `BTreeSet`. -/
def edges (region : Region) : List Int :=
  (region.flatMap fun kr => [kr.2.loc.y, kr.2.loc.y + kr.2.size.h]).dedup.insertionSort (· ≤ ·)

def regionToNonOverlappingRects (region : Region) : Option (List Rectangle) :=
  match edges region with
  | [] => some []
  | lo :: ys => sweep region lo ys

/-! ## What a region covers -/

/-- One more rectangle is added to the points of a region, or subtracted. -/
def apply (points : Set Point) (kr : RectangleKind × Rectangle) : Set Point :=
  match kr.1 with
  | .add => points ∪ {p | kr.2.Contains p}
  | .subtract => points \ {p | kr.2.Contains p}

/-- The points of a region, whose rectangles are applied in order. -/
def points (region : Region) : Set Point := region.foldl apply ∅

/-- The last rectangle of the region with the point is one that is added. -/
def LastIsAdd (region : Region) (p : Point) : Prop :=
  ∃ before r after, region = before ++ (.add, r) :: after ∧ r.Contains p ∧
    ∀ kr ∈ after, ¬ kr.2.Contains p

instance (r : Rectangle) (p : Point) : Decidable (r.Contains p) :=
  inferInstanceAs (Decidable (_ ∧ _))

theorem mem_apply (points : Set Point) (kr : RectangleKind × Rectangle) (p : Point) :
    p ∈ apply points kr ↔
      if kr.2.Contains p then kr.1 = .add else p ∈ points := by
  obtain ⟨kind, r⟩ := kr
  cases kind <;> by_cases h : r.Contains p <;> simp [apply, h]

theorem points_append (region : Region) (kr : RectangleKind × Rectangle) :
    points (region ++ [kr]) = apply (points region) kr := by
  rw [points, List.foldl_append]
  rfl

theorem lastIsAdd_append (region : Region) (kr : RectangleKind × Rectangle) (p : Point) :
    LastIsAdd (region ++ [kr]) p ↔
      if kr.2.Contains p then kr.1 = .add else LastIsAdd region p := by
  constructor
  · rintro ⟨before, r, after, heq, hr, hafter⟩
    rcases List.eq_nil_or_concat after with rfl | ⟨after, last, rfl⟩
    · obtain ⟨rfl, hlast⟩ := List.append_inj' heq rfl
      obtain rfl := List.singleton_inj.mp hlast
      rw [if_pos hr]
    · have heq' : region ++ [kr] = (before ++ (.add, r) :: after) ++ [last] := by
        rw [heq, List.concat_eq_append]
        simp
      obtain ⟨rfl, hlast⟩ := List.append_inj' heq' rfl
      obtain rfl := List.singleton_inj.mp hlast
      rw [if_neg (hafter kr (by simp))]
      exact ⟨before, r, after, rfl, hr, fun kr' h => hafter kr' (by simp [h])⟩
  · intro h
    split at h
    · next hkr =>
      obtain ⟨kind, r⟩ := kr
      obtain rfl : kind = .add := h
      exact ⟨region, r, [], rfl, hkr, by simp⟩
    · next hkr =>
      obtain ⟨before, r, after, rfl, hr, hafter⟩ := h
      refine ⟨before, r, after ++ [kr], by simp, hr, fun kr' h => ?_⟩
      rcases List.mem_append.mp h with h | h
      · exact hafter kr' h
      · rw [List.mem_singleton.mp h]
        exact hkr

/-- To apply the rectangles in order is to go by the last one with the point. -/
theorem mem_points_iff (region : Region) (p : Point) : p ∈ points region ↔ LastIsAdd region p := by
  induction region using List.reverseRecOn with
  | nil =>
    constructor
    · intro h
      cases h
    · rintro ⟨before, r, after, heq, -⟩
      cases before <;> cases heq
  | append_singleton region kr ih => rw [points_append, mem_apply, lastIsAdd_append, ih]

/-! ## Spans -/

/-- The scan has passed the spans above, which start after the one to add. -/
theorem addSpanFrom_returns (below above : List (Span Int)) (new : Span Int)
    (h : Separated (below ++ above)) (hnew : new.start < new.stop)
    (habove : ∀ b ∈ above, new.stop < b.start) :
    Returns (addSpanFrom below.length new (below ++ above)) fun spans =>
      Separated spans ∧ ∀ x, Covers spans x ↔ new.Contains x ∨ Covers (below ++ above) x := by
  induction below using List.reverseRecOn generalizing above new with
  | nil =>
    have hinsert := Vec.insert_split ([] : List (Span Int)) above new
    refine ⟨new :: above, hinsert, ?_, fun x => Spans.covers_insert [] above new x⟩
    have habove' : Separated ([] ++ above) := h
    exact habove'.insert hnew (by simp) habove
  | append_singleton below span ih =>
    have hlist : (below ++ [span]) ++ above = below ++ span :: above := by simp
    rw [hlist] at h ⊢
    obtain ⟨hspan, hbelow, hspanAbove⟩ := h.at
    rw [List.length_append, List.length_singleton, addSpanFrom, Vec.getElem?_split]
    show Returns (if span.stop < new.start then _ else _) _
    refine returns_ite (fun hright => ?_) fun hright => ?_
    · -- The new span is to the right.
      have hsplit := Vec.insert_split (below ++ [span]) above new
      rw [hlist, List.length_append, List.length_singleton] at hsplit
      rw [hsplit]
      rw [← hlist] at h
      refine returns_some ⟨h.insert hnew (fun a ha => ?_) habove, fun x => ?_⟩
      · rcases List.mem_append.mp ha with ha | ha
        · have := hbelow a ha
          omega
        · rw [List.mem_singleton.mp ha]
          exact hright
      · rw [Spans.covers_insert, hlist]
    · refine returns_ite (fun hleft => ?_) fun hleft => ?_
      · -- The new span is to the left.
        exact ih (span :: above) new h hnew (List.forall_mem_cons.mpr ⟨hleft, habove⟩)
      · -- The spans overlap or touch.
        rw [Vec.remove_split]
        have hhull : (new.hull span).start < (new.hull span).stop :=
          lt_of_le_of_lt (min_le_left _ _) (lt_of_lt_of_le hnew (le_max_left _ _))
        refine (ih above (new.hull span) h.without hhull fun b hb => ?_).mono ?_
        · exact max_lt (habove b hb) (hspanAbove b hb)
        · rintro spans ⟨hsep, hcovers⟩
          refine ⟨hsep, fun x => ?_⟩
          rw [hcovers, Spans.covers_insert,
            Span.contains_hull (not_lt.mp hright) (not_lt.mp hleft), or_assoc]

theorem addSpan_returns {spans : List (Span Int)} (h : Separated spans) {new : Span Int}
    (hnew : new.start < new.stop) :
    Returns (addSpan new spans) fun spans' =>
      Separated spans' ∧ ∀ x, Covers spans' x ↔ new.Contains x ∨ Covers spans x := by
  have hscan := addSpanFrom_returns spans [] new (by simpa using h) hnew (by simp)
  rwa [List.append_nil] at hscan

/-- What is right of the cut stays of a span, in front of those above. -/
def keepRight (cut span : Span Int) (above : List (Span Int)) : List (Span Int) :=
  if cut.stop < span.stop then ⟨cut.stop, span.stop⟩ :: above else above

def keepLeft (cut span : Span Int) (above : List (Span Int)) : List (Span Int) :=
  if span.start < cut.start then ⟨span.start, cut.start⟩ :: above else above

theorem insertRight_eq (below above : List (Span Int)) (cut span : Span Int) :
    applyIf (decide (cut.stop < span.stop))
        (fun spans => Vec.insert spans below.length ⟨cut.stop, span.stop⟩) (below ++ above) =
      some (below ++ keepRight cut span above) := by
  by_cases h : cut.stop < span.stop <;> simp [applyIf, keepRight, h, Vec.insert_split]

theorem insertLeft_eq (below above : List (Span Int)) (cut span : Span Int) :
    applyIf (decide (span.start < cut.start))
        (fun spans => Vec.insert spans below.length ⟨span.start, cut.start⟩) (below ++ above) =
      some (below ++ keepLeft cut span above) := by
  by_cases h : span.start < cut.start <;> simp [applyIf, keepLeft, h, Vec.insert_split]

theorem mem_keepRight {cut span b : Span Int} {above : List (Span Int)}
    (h : b ∈ keepRight cut span above) : b ∈ above ∨ b.start = cut.stop := by
  rw [keepRight] at h
  split at h
  · rcases List.mem_cons.mp h with rfl | h
    · exact Or.inr rfl
    · exact Or.inl h
  · exact Or.inl h

/-- The cut takes its part out of a span it overlaps. -/
theorem cut_separated {below above : List (Span Int)} {cut span : Span Int}
    (h : Separated (below ++ span :: above)) (hcut : cut.start < cut.stop)
    (hright : cut.start < span.stop) (hleft : span.start < cut.stop) :
    Separated (below ++ keepLeft cut span (keepRight cut span above)) := by
  obtain ⟨-, hbelow, habove⟩ := h.at
  have hsep : Separated (below ++ keepRight cut span above) := by
    rw [keepRight]
    split
    · next hlt =>
      refine h.without.insert hlt (fun a ha => ?_) habove
      have := hbelow a ha
      show a.stop < cut.stop
      omega
    · exact h.without
  rw [keepLeft]
  split
  · next hlt =>
    refine hsep.insert hlt hbelow fun b hb => ?_
    show cut.start < b.start
    rcases mem_keepRight hb with hb | hb
    · have := habove b hb
      omega
    · omega
  · exact hsep

theorem covers_keepRight (cut span : Span Int) (above : List (Span Int)) (x : Int) :
    Covers (keepRight cut span above) x ↔ (cut.stop ≤ x ∧ x < span.stop) ∨ Covers above x := by
  rw [keepRight]
  split
  · exact Spans.covers_cons _ _ x
  · exact ⟨Or.inr, fun h => h.resolve_left fun hx => by omega⟩

theorem covers_keepLeft (cut span : Span Int) (above : List (Span Int)) (x : Int) :
    Covers (keepLeft cut span above) x ↔ (span.start ≤ x ∧ x < cut.start) ∨ Covers above x := by
  rw [keepLeft]
  split
  · exact Spans.covers_cons _ _ x
  · exact ⟨Or.inr, fun h => h.resolve_left fun hx => by omega⟩

/-- The scan has passed the spans above, of which nothing is to be cut. -/
theorem subtractSpanFrom_returns (cut : Span Int) (hcut : cut.start < cut.stop)
    (below above : List (Span Int)) (h : Separated (below ++ above))
    (habove : ∀ x, cut.Contains x → ¬ Covers above x) :
    Returns (subtractSpanFrom cut below.length (below ++ above)) fun spans =>
      Separated spans ∧ ∀ x, Covers spans x ↔ Covers (below ++ above) x ∧ ¬ cut.Contains x := by
  induction below using List.reverseRecOn generalizing above with
  | nil =>
    exact returns_some ⟨h, fun x => ⟨fun hx => ⟨hx, fun hin => habove x hin hx⟩, And.left⟩⟩
  | append_singleton below span ih =>
    have hlist : (below ++ [span]) ++ above = below ++ span :: above := by simp
    rw [hlist] at h ⊢
    obtain ⟨hspan, hbelow, hspanAbove⟩ := h.at
    rw [List.length_append, List.length_singleton, subtractSpanFrom, Vec.getElem?_split]
    show Returns (if span.stop ≤ cut.start then _ else _) _
    refine returns_ite (fun hright => ?_) fun hright => ?_
    · -- The cut is to the right of this span and of all below it.
      refine returns_pure ⟨h, fun x => ⟨fun hx => ⟨hx, fun hin => ?_⟩, And.left⟩⟩
      have hge : span.stop ≤ x := Int.le_trans hright hin.1
      rw [Spans.covers_insert, Spans.covers_append] at hx
      rcases hx with hx | hx | hx
      · exact absurd hx.2 (Int.not_lt.mpr hge)
      · exact h.not_covers_below (Int.le_trans (Int.le_of_lt hspan) hge) hx
      · exact habove x hin hx
    · refine returns_ite (fun hleft => ?_) fun hleft => ?_
      · -- The cut is to the left.
        refine ih (span :: above) h fun x hin hx => ?_
        rcases (Spans.covers_cons _ _ _).mp hx with hx | hx
        · exact absurd (Int.lt_of_lt_of_le hin.2 hleft) (Int.not_lt.mpr hx.1)
        · exact habove x hin hx
      · -- The cut overlaps the span.
        rw [Vec.remove_split]
        have hkept := cut_separated h hcut (Int.not_le.mp hright) (Int.not_le.mp hleft)
        show Returns (applyIf _ _ _ >>= _) _
        rw [insertRight_eq]
        show Returns (applyIf _ _ _ >>= _) _
        rw [insertLeft_eq]
        refine (ih _ hkept fun x hin hx => ?_).mono ?_
        · rw [covers_keepLeft, covers_keepRight] at hx
          rcases hx with hx | hx | hx
          · exact absurd hx.2 (Int.not_lt.mpr hin.1)
          · exact absurd hin.2 (Int.not_lt.mpr hx.1)
          · exact habove x hin hx
        · rintro spans ⟨hsep, hcovers⟩
          refine ⟨hsep, fun x => ?_⟩
          rw [hcovers, Spans.covers_insert, Spans.covers_append, Spans.covers_append,
            covers_keepLeft, covers_keepRight]
          refine and_congr_left fun hnot => ?_
          have hinside : span.Contains x ↔
              (span.start ≤ x ∧ x < cut.start) ∨ (cut.stop ≤ x ∧ x < span.stop) := by
            simp only [Span.Contains] at hnot ⊢
            omega
          rw [hinside]
          grind

theorem subtractSpan_returns {spans : List (Span Int)} (h : Separated spans) {cut : Span Int}
    (hcut : cut.start < cut.stop) :
    Returns (subtractSpan cut spans) fun spans' =>
      Separated spans' ∧ ∀ x, Covers spans' x ↔ Covers spans x ∧ ¬ cut.Contains x := by
  have hscan := subtractSpanFrom_returns cut hcut spans [] (by simpa using h)
    fun x _ => Spans.not_covers_nil x
  rwa [List.append_nil] at hscan

/-! ## Bands -/

/-- No edge of the rectangle is inside the band, which is not empty. -/
structure Banded (lo hi : Int) (r : Rectangle) : Prop where
  width : 0 ≤ r.size.w
  height : 0 ≤ r.size.h
  top : r.loc.y ≤ lo ∨ hi ≤ r.loc.y
  bottom : r.loc.y + r.size.h ≤ lo ∨ hi ≤ r.loc.y + r.size.h

/-- The rectangle covers all rows of the band, or none. -/
theorem Banded.contains_iff {lo hi : Int} {r : Rectangle} (h : Banded lo hi r) {p : Point}
    (hlo : lo ≤ p.y) (hhi : p.y < hi) :
    r.Contains p ↔ ¬ (hi ≤ r.loc.y ∨ r.loc.y + r.size.h ≤ lo) ∧
      r.loc.x ≤ p.x ∧ p.x < r.loc.x + r.size.w := by
  have htop := h.top
  have hbottom := h.bottom
  rw [Rectangle.Contains]
  omega

theorem bandRect_returns {lo hi : Int} {kr : RectangleKind × Rectangle} (h : Banded lo hi kr.2)
    {spans : List (Span Int)} (hsep : Separated spans) {region : Region}
    (hspans : ∀ p : Point, lo ≤ p.y → p.y < hi → (Covers spans p.x ↔ p ∈ points region)) :
    Returns (bandRect lo hi spans kr) fun spans' =>
      Separated spans' ∧ ∀ p : Point, lo ≤ p.y → p.y < hi →
        (Covers spans' p.x ↔ p ∈ points (region ++ [kr])) := by
  obtain ⟨kind, r⟩ := kr
  have hout : ∀ p : Point, ¬ r.Contains p →
      (p ∈ points (region ++ [(kind, r)]) ↔ p ∈ points region) := by
    intro p hp
    rw [points_append, mem_apply, if_neg hp]
  refine returns_ite (fun hskip => ?_) fun hskip => ?_
  · refine returns_some ⟨hsep, fun p hlo hhi => ?_⟩
    rw [hspans p hlo hhi, hout p fun hp => ((h.contains_iff hlo hhi).mp hp).1 hskip]
  · refine returns_ite (fun hempty => ?_) fun hempty => ?_
    · have hwidth : r.loc.x = r.loc.x + r.size.w := hempty
      refine returns_some ⟨hsep, fun p hlo hhi => ?_⟩
      rw [hspans p hlo hhi, hout p fun hp => ?_]
      have hin : r.loc.x ≤ p.x ∧ p.x < r.loc.x + r.size.w := ((h.contains_iff hlo hhi).mp hp).2
      omega
    · have hwidth : 0 ≤ r.size.w := h.width
      have hspan : r.loc.x < r.loc.x + r.size.w := by
        have hne : ¬ r.loc.x = r.loc.x + r.size.w := hempty
        omega
      have hcontains : ∀ p : Point, lo ≤ p.y → p.y < hi →
          (r.Contains p ↔ Span.Contains ⟨r.loc.x, r.loc.x + r.size.w⟩ p.x) := by
        intro p hlo hhi
        rw [h.contains_iff hlo hhi, Span.Contains]
        exact and_iff_right hskip
      cases kind with
      | add =>
        refine (addSpan_returns hsep hspan).mono ?_
        rintro spans' ⟨hsep', hcovers⟩
        refine ⟨hsep', fun p hlo hhi => ?_⟩
        rw [hcovers, ← hcontains p hlo hhi, hspans p hlo hhi, points_append]
        exact or_comm
      | subtract =>
        refine (subtractSpan_returns hsep hspan).mono ?_
        rintro spans' ⟨hsep', hcovers⟩
        refine ⟨hsep', fun p hlo hhi => ?_⟩
        rw [hcovers, ← hcontains p hlo hhi, hspans p hlo hhi, points_append]
        exact Iff.rfl

/-- The spans of a band are what the region covers of each of its rows. -/
theorem bandSpans_returns {region : Region} {lo hi : Int}
    (h : ∀ kr ∈ region, Banded lo hi kr.2) :
    Returns (bandSpans region lo hi) fun spans =>
      Separated spans ∧ ∀ p : Point, lo ≤ p.y → p.y < hi →
        (Covers spans p.x ↔ p ∈ points region) := by
  induction region using List.reverseRecOn with
  | nil =>
    refine returns_some ⟨Spans.separated_nil, fun p _ _ => ?_⟩
    exact iff_of_false (Spans.not_covers_nil p.x) fun hp => by cases hp
  | append_singleton region kr ih =>
    rw [bandSpans, List.foldlM_append]
    refine (ih fun kr' hkr' => h kr' (List.mem_append_left _ hkr')).bind ?_
    rintro spans ⟨hsep, hspans⟩
    simp only [List.foldlM_cons, List.foldlM_nil, bind_pure]
    exact bandRect_returns (h kr (by simp)) hsep hspans

/-! ## The decomposition -/

theorem contains_fromExtremities {x1 y1 x2 y2 : Int} {p : Point} :
    (fromExtremities x1 y1 x2 y2).Contains p ↔ (x1 ≤ p.x ∧ p.x < x2) ∧ y1 ≤ p.y ∧ p.y < y2 := by
  simp only [Rectangle.Contains, fromExtremities]
  omega

/-- The rectangles of one band. -/
def bandRects (lo hi : Int) (spans : List (Span Int)) : List Rectangle :=
  spans.map fun span => fromExtremities span.start lo span.stop hi

theorem exists_bandRects {lo hi : Int} {spans : List (Span Int)} {p : Point} :
    (∃ r ∈ bandRects lo hi spans, r.Contains p) ↔ Covers spans p.x ∧ lo ≤ p.y ∧ p.y < hi := by
  simp only [bandRects, List.mem_map, exists_exists_and_eq_and, contains_fromExtremities, Covers,
    Span.Contains]
  constructor
  · rintro ⟨s, hs, hx, hy⟩
    exact ⟨⟨s, hs, hx⟩, hy⟩
  · rintro ⟨⟨s, hs, hx⟩, hy⟩
    exact ⟨s, hs, hx, hy⟩

/-- The rectangles of a band are not empty, and apart. -/
theorem bandRects_apart {lo hi : Int} (hlt : lo < hi) {spans : List (Span Int)}
    (h : Separated spans) :
    (∀ r ∈ bandRects lo hi spans, 0 < r.size.w ∧ 0 < r.size.h) ∧
      (bandRects lo hi spans).Pairwise Rectangle.Disjoint := by
  constructor
  · intro r hr
    obtain ⟨s, hs, rfl⟩ := List.mem_map.mp hr
    have hproper := h.proper s hs
    exact ⟨Int.sub_pos.mpr hproper, Int.sub_pos.mpr hlt⟩
  · refine List.pairwise_map.mpr (h.apart.imp fun {a b} hab p ha hb => ?_)
    have ha' := contains_fromExtremities.mp ha
    have hb' := contains_fromExtremities.mp hb
    omega

/-- What the rectangles from `lo` on are to be. -/
structure Decomposes (region : Region) (lo : Int) (output : List Rectangle) : Prop where
  nonempty : ∀ r ∈ output, 0 < r.size.w ∧ 0 < r.size.h
  disjoint : output.Pairwise Rectangle.Disjoint
  below : ∀ r ∈ output, lo ≤ r.loc.y
  covers : ∀ p : Point, lo ≤ p.y → ((∃ r ∈ output, r.Contains p) ↔ p ∈ points region)

/-- Without edges below `lo`, there is nothing. -/
theorem not_mem_points {region : Region} {p : Point} (h : ∀ kr ∈ region, ¬ kr.2.Contains p) :
    p ∉ points region := by
  rw [mem_points_iff]
  rintro ⟨before, r, after, rfl, hr, -⟩
  exact h (.add, r) (by simp) hr

theorem sweep_returns {region : Region} (hsize : ∀ kr ∈ region, 0 ≤ kr.2.size.w ∧ 0 ≤ kr.2.size.h)
    (ys : List Int) (lo : Int) (hsorted : (lo :: ys).Pairwise (· < ·))
    (hedges : ∀ kr ∈ region, ∀ y ∈ [kr.2.loc.y, kr.2.loc.y + kr.2.size.h], y ≤ lo ∨ y ∈ ys) :
    Returns (sweep region lo ys) (Decomposes region lo) := by
  induction ys generalizing lo with
  | nil =>
    refine returns_some ⟨by simp, List.Pairwise.nil, by simp, fun p hp => ?_⟩
    refine iff_of_false (by simp) (not_mem_points fun kr hkr hin => ?_)
    have hbottom := hedges kr hkr (kr.2.loc.y + kr.2.size.h) (by simp)
    have hlt := hin.2.2.2
    simp only [List.not_mem_nil, or_false] at hbottom
    omega
  | cons hi ys ih =>
    obtain ⟨hlo, hys⟩ := List.pairwise_cons.mp hsorted
    have hlt : lo < hi := hlo hi List.mem_cons_self
    have hnext : ∀ y ∈ ys, hi < y := (List.pairwise_cons.mp hys).1
    have hedge : ∀ y, y ≤ lo ∨ y ∈ hi :: ys → y ≤ lo ∨ hi ≤ y := by
      rintro y (hy | hy)
      · exact Or.inl hy
      · rcases List.mem_cons.mp hy with rfl | hy
        · exact Or.inr (Int.le_refl _)
        · exact Or.inr (Int.le_of_lt (hnext y hy))
    have hbanded : ∀ kr ∈ region, Banded lo hi kr.2 := by
      intro kr hkr
      exact ⟨(hsize kr hkr).1, (hsize kr hkr).2, hedge _ (hedges kr hkr _ (by simp)),
        hedge _ (hedges kr hkr _ (by simp))⟩
    have hbelow : ∀ kr ∈ region, ∀ y ∈ [kr.2.loc.y, kr.2.loc.y + kr.2.size.h],
        y ≤ hi ∨ y ∈ ys := by
      intro kr hkr y hy
      rcases hedges kr hkr y hy with h | h
      · exact Or.inl (Int.le_trans h (Int.le_of_lt hlt))
      · rcases List.mem_cons.mp h with rfl | h
        · exact Or.inl (Int.le_refl _)
        · exact Or.inr h
    refine (bandSpans_returns hbanded).bind ?_
    rintro spans ⟨hsep, hspans⟩
    refine (ih hi hys hbelow).bind fun output hout => returns_pure ?_
    obtain ⟨hnonempty, hdisjoint⟩ := bandRects_apart hlt hsep
    refine ⟨fun r hr => ?_, ?_, fun r hr => ?_, fun p hp => ?_⟩
    · rcases List.mem_append.mp hr with hr | hr
      · exact hnonempty r hr
      · exact hout.nonempty r hr
    · -- The other bands begin where this one ends.
      refine List.pairwise_append.mpr ⟨hdisjoint, hout.disjoint, fun r hr r' hr' p hp hp' => ?_⟩
      have hband := (exists_bandRects.mp ⟨r, hr, hp⟩).2.2
      have hlater := hout.below r' hr'
      have hge := hp'.2.2.1
      omega
    · rcases List.mem_append.mp hr with hr | hr
      · obtain ⟨s, -, rfl⟩ := List.mem_map.mp hr
        exact Int.le_refl _
      · exact Int.le_trans (Int.le_of_lt hlt) (hout.below r hr)
    · have hsplit : (∃ r ∈ bandRects lo hi spans ++ output, r.Contains p) ↔
          (Covers spans p.x ∧ lo ≤ p.y ∧ p.y < hi) ∨ ∃ r ∈ output, r.Contains p := by
        rw [← exists_bandRects]
        simp only [List.mem_append, or_and_right, exists_or]
      refine hsplit.trans ?_
      rcases Int.lt_or_le p.y hi with hin | hin
      · have hnone : ¬ ∃ r ∈ output, r.Contains p := by
          rintro ⟨r, hr, hcontains⟩
          have hlater := hout.below r hr
          have hge := hcontains.2.2.1
          omega
        rw [or_iff_left hnone, and_iff_left ⟨hp, hin⟩]
        exact hspans p hp hin
      · rw [hout.covers p hin]
        exact or_iff_right fun h => absurd h.2.2 (Int.not_lt.mpr hin)

theorem mem_edges {region : Region} {y : Int} :
    y ∈ edges region ↔ ∃ kr ∈ region, y ∈ [kr.2.loc.y, kr.2.loc.y + kr.2.size.h] := by
  rw [edges, List.mem_insertionSort, List.mem_dedup, List.mem_flatMap]

theorem edges_sorted (region : Region) : (edges region).Pairwise (· < ·) := by
  have hle : (edges region).Pairwise (· ≤ ·) := List.pairwise_insertionSort _ _
  have hnodup : (edges region).Nodup :=
    (List.perm_insertionSort _ _).nodup_iff.mpr (List.nodup_dedup _)
  exact (hle.and hnodup).imp fun h => lt_of_le_of_ne h.1 h.2

/-- The rectangles are not empty, no two of them overlap, and they cover what the
    rectangles of the region leave when they are added and subtracted in order: the
    points for which the last rectangle that has them is one that is added. -/
theorem regionToNonOverlappingRects_exact (region : Region)
    (hsize : ∀ kr ∈ region, 0 ≤ kr.2.size.w ∧ 0 ≤ kr.2.size.h) :
    ∃ output, regionToNonOverlappingRects region = some output ∧
      (∀ r ∈ output, 0 < r.size.w ∧ 0 < r.size.h) ∧
      output.Pairwise Rectangle.Disjoint ∧
      {p | ∃ r ∈ output, r.Contains p} = points region ∧
      ∀ p, p ∈ points region ↔ LastIsAdd region p := by
  have hsorted := edges_sorted region
  cases hedges : edges region with
  | nil =>
    have hregion : region = [] := by
      refine List.eq_nil_iff_forall_not_mem.mpr fun kr hkr => ?_
      have hmem : kr.2.loc.y ∈ edges region := mem_edges.mpr ⟨kr, hkr, by simp⟩
      rw [hedges] at hmem
      cases hmem
    subst hregion
    refine ⟨[], ?_, by simp, List.Pairwise.nil, by simp [points], mem_points_iff []⟩
    rw [regionToNonOverlappingRects, hedges]
  | cons lo ys =>
    rw [hedges] at hsorted
    have hmem : ∀ kr ∈ region, ∀ y ∈ [kr.2.loc.y, kr.2.loc.y + kr.2.size.h],
        y ∈ lo :: ys := by
      intro kr hkr y hy
      rw [← hedges]
      exact mem_edges.mpr ⟨kr, hkr, hy⟩
    obtain ⟨output, hsweep, hout⟩ := sweep_returns hsize ys lo hsorted fun kr hkr y hy =>
      (List.mem_cons.mp (hmem kr hkr y hy)).imp_left fun h => h.le
    refine ⟨output, ?_, hout.nonempty, hout.disjoint, Set.ext fun p => ?_, mem_points_iff region⟩
    · rw [regionToNonOverlappingRects, hedges]
      exact hsweep
    · rcases Int.lt_or_le p.y lo with hp | hp
      · -- Above the first edge there is nothing.
        refine iff_of_false ?_ (not_mem_points fun kr hkr hin => ?_)
        · rintro ⟨r, hr, hin⟩
          have hbelow := hout.below r hr
          have hge := hin.2.2.1
          omega
        · have hge := hin.2.2.1
          rcases List.mem_cons.mp (hmem kr hkr kr.2.loc.y (by simp)) with heq | hy
          · omega
          · have := (List.pairwise_cons.mp hsorted).1 _ hy
            omega
      · exact hout.covers p hp

/-- One rectangle with a hole in it. -/
theorem regionToNonOverlappingRects_hole :
    let region : Region := [(.add, ⟨⟨0, 0⟩, ⟨20, 20⟩⟩), (.subtract, ⟨⟨5, 5⟩, ⟨10, 10⟩⟩)]
    (∀ kr ∈ region, 0 ≤ kr.2.size.w ∧ 0 ≤ kr.2.size.h) ∧
      ∃ output, regionToNonOverlappingRects region = some output ∧ output.length = 4 ∧
        {p | ∃ r ∈ output, r.Contains p} = points region := by
  intro region
  have hsize : ∀ kr ∈ region, 0 ≤ kr.2.size.w ∧ 0 ≤ kr.2.size.h := by decide
  obtain ⟨output, heq, -, -, hcovers, -⟩ := regionToNonOverlappingRects_exact region hsize
  refine ⟨hsize, output, heq, ?_, hcovers⟩
  have hrun : (regionToNonOverlappingRects region).map List.length = some 4 := by decide +kernel
  rw [heq] at hrun
  exact Option.some.inj hrun

end Cidre.Utils
