/-
  Cidre.Layout.Distribution

  What the distribution of the height of a column comes to
  (`src/layout/scrolling.rs`, `update_tile_sizes_with_transaction`).

  A round of the loop fixes one tile at its least height, or fills in all that are left.
  In both cases the tiles and the height that is left make up the same height, so that the
  tiles end up with all of it, or each at its least height (`distribute_returns`).
-/

import Cidre.Layout.Sizes
import Cidre.Lib.Paired
import Cidre.Utils.Whole

namespace Cidre.Layout

open Cidre.Panic
open Cidre.Utils.Logical (whole whole_intCast whole_max whole_min le_round round_le
  round_of_whole floor_of_whole)

/-! ## Tiles -/

namespace TileMetrics

/-- There is room for a window of one pixel. -/
theorem decoration_add_one_le (t : TileMetrics) : t.decoration + 1 ≤ t.minTileSize.h := by
  unfold decoration minTileSize minSizeNonfullscreen
  cases t.border with
  | none => simp
  | some width =>
    have hone : ((1 : Int) : Rat) ≤ (max 1 t.minSize.h : Int) :=
      Int.cast_le.mpr (le_max_left _ _)
    refine le_max_of_le_left ?_
    show width * 2 + 1 ≤ (max 1 t.minSize.h : Int) + width * 2
    rw [add_comm]
    exact add_le_add_left hone _

theorem whole_minTileSize {t : TileMetrics} (h : t.decoration ∈ whole) :
    t.minTileSize.h ∈ whole := by
  have hmin : (t.minSize.h : Rat) ∈ whole := whole_intCast _
  unfold minTileSize minSizeNonfullscreen
  unfold decoration at h
  cases hborder : t.border with
  | none => exact whole_max hmin (one_mem _)
  | some width =>
    rw [hborder] at h
    exact whole_max (add_mem (whole_intCast _) h) (one_mem _)

/-- The height of a tile that has room for a window of one pixel is asked for as it
    is. -/
theorem tileHeight_requestTileSize {t : TileMetrics} {size : Utils.Logical.Size}
    (hwindow : t.windowHeightForTileHeight size.h ∈ whole) (hle : t.decoration + 1 ≤ size.h) :
    t.tileHeightForWindowHeight (t.requestTileSize size).h = size.h := by
  unfold windowHeightForTileHeight at hwindow
  unfold tileHeightForWindowHeight requestTileSize
  unfold decoration at hwindow hle ⊢
  cases hborder : t.border with
  | none =>
    rw [hborder] at hwindow
    have hsize : size.h ∈ whole := sub_zero size.h ▸ hwindow
    show ((size.h.floor : Int) : Rat) + 0 = size.h
    rw [floor_of_whole hsize, add_zero]
  | some width =>
    rw [hborder] at hwindow hle
    have hmax : max 1 (size.h - width * 2) = size.h - width * 2 :=
      max_eq_right (by linarith [show width * 2 + 1 ≤ size.h from hle])
    show (((max 1 (size.h - width * 2)).floor : Int) : Rat) + width * 2 = size.h
    rw [hmax, floor_of_whole hwindow]
    exact sub_add_cancel _ _

end TileMetrics

namespace Metrics.Slot

variable {s s' : Slot}

@[simp] theorem withFixed_tile (s : Slot) (h : Rat) : (s.withFixed h).tile = s.tile := rfl

@[simp] theorem withFixed_minHeight (s : Slot) (h : Rat) :
    (s.withFixed h).minHeight = s.minHeight := rfl

@[simp] theorem withFixed_height (s : Slot) (h : Rat) : (s.withFixed h).height = .fixed h := rfl

@[simp] theorem withFixed_taken (s : Slot) (h : Rat) : (s.withFixed h).taken = h := rfl

@[simp] theorem withFixed_weight (s : Slot) (h : Rat) : (s.withFixed h).weight = 0 := rfl

/-- What a tile takes at least: what it has, or its least height. -/
def least (s : Slot) : Rat :=
  match s.height with
  | .auto _ => s.minHeight
  | .fixed height => height

/-- The tile at its least height, unless it has one already. -/
def atLeast (s : Slot) : Slot :=
  match s.height with
  | .auto _ => s.withFixed s.minHeight
  | .fixed _ => s

@[simp] theorem atLeast_taken (s : Slot) : s.atLeast.taken = s.least := by
  unfold atLeast least
  cases h : s.height with
  | auto weight => rfl
  | fixed height => simp [taken, h]

/-- What the distribution needs of a tile. -/
structure Ready (s : Slot) : Prop where
  decoration : s.tile.decoration ∈ whole
  taken : s.taken ∈ whole
  weight : ∀ weight, s.height = .auto weight → 0 < weight

theorem Ready.withFixed (h : s.Ready) {height : Rat} (hheight : height ∈ whole) :
    (s.withFixed height).Ready where
  decoration := h.decoration
  taken := hheight
  weight _ heq := TileHeight.noConfusion heq

theorem Ready.whole_minHeight (h : s.Ready) : s.minHeight ∈ whole :=
  TileMetrics.whole_minTileSize h.decoration

/-- A height that is at least the least is so when it is rounded. -/
theorem Ready.le_rounded (h : s.Ready) {auto : Rat} (hle : s.minHeight ≤ auto) :
    s.minHeight ≤ s.rounded auto := by
  have hround : s.minHeight - s.tile.decoration ≤
      (Utils.Logical.round (auto - s.tile.decoration) : Rat) :=
    le_round (sub_mem h.whole_minHeight h.decoration) (by linarith)
  have hmax := le_max_left (Utils.Logical.round (auto - s.tile.decoration) : Rat) 1
  show s.minHeight ≤ max (Utils.Logical.round (auto - s.tile.decoration) : Rat) 1 +
    s.tile.decoration
  linarith

theorem rounded_of_whole (hdecoration : s.tile.decoration ∈ whole) {auto : Rat}
    (hauto : auto ∈ whole) (hle : s.minHeight ≤ auto) : s.rounded auto = auto := by
  have hroom : s.tile.decoration + 1 ≤ auto := le_trans s.tile.decoration_add_one_le hle
  show max (Utils.Logical.round (auto - s.tile.decoration) : Rat) 1 + s.tile.decoration = auto
  rw [Utils.Logical.round_of_whole (sub_mem hauto hdecoration), max_eq_left (by linarith)]
  exact sub_add_cancel _ _

theorem Ready.whole_rounded (h : s.Ready) (auto : Rat) : s.rounded auto ∈ whole :=
  add_mem (whole_max (whole_intCast _) (one_mem _)) h.decoration

/-- What the distribution makes of a tile: one with a height keeps it, and an automatic
    one gets at least its least height. -/
inductive Fits (s : Slot) : Slot → Prop
  | kept (height : Rat) : s.height = .fixed height → Fits s s
  | filled (weight height : Rat) : s.height = .auto weight → s.minHeight ≤ height →
      height ∈ whole → Fits s (s.withFixed height)

theorem Fits.height_eq (h : s.Fits s') : s'.height = .fixed s'.taken := by
  cases h with
  | kept height heq => simp [taken, heq]
  | filled weight height _ _ _ => rfl

theorem Fits.le_taken (h : s.Fits s') : s.least ≤ s'.taken := by
  cases h with
  | kept height heq => simp [least, taken, heq]
  | filled weight height heq hle _ => simpa [least, heq] using hle

theorem Fits.whole_taken (h : s.Fits s') (hready : s.Ready) : s'.taken ∈ whole := by
  cases h with
  | kept height _ => exact hready.taken
  | filled weight height _ _ hheight => exact hheight

/-- A tile that was fixed at its least height is one of those that get at least that. -/
theorem Fits.of_pinned {weight : Rat} (hready : s.Ready) (hauto : s.height = .auto weight)
    (h : (s.withFixed s.minHeight).Fits s') : s.Fits s' := by
  cases h with
  | kept height _ => exact .filled weight _ hauto le_rfl hready.whole_minHeight
  | filled weight' height heq _ _ => exact TileHeight.noConfusion heq

end Metrics.Slot

/-! ## One round -/

namespace Distribution

open Metrics (Slot TileHeight)

/-- What is known of the running values. -/
structure Ready (d : Distribution) : Prop where
  slots : ∀ s ∈ d.slots, s.Ready
  heightLeft : d.heightLeft ∈ whole
  totalWeight : d.totalWeight = (d.slots.map Slot.weight).sum
  autoTilesLeft : d.autoTilesLeft = d.slots.countP fun s => s.height.isAuto

theorem pinFirst_some {heightLeft totalWeight : Rat} {slots slots' : List Slot} {auto weight : Rat}
    (h : pinFirst heightLeft totalWeight slots = some (slots', auto, weight)) :
    ∃ before s after, slots = before ++ s :: after ∧ s.height = .auto weight ∧
      auto = s.minHeight ∧ slots' = before ++ s.withFixed s.minHeight :: after := by
  induction slots generalizing heightLeft totalWeight slots' with
  | nil => cases h
  | cons s slots ih =>
    have hrest : ∀ {heightLeft totalWeight : Rat},
        (pinFirst heightLeft totalWeight slots).map (fun p => (s :: p.1, p.2)) =
          some (slots', auto, weight) →
        ∃ before t after, s :: slots = before ++ t :: after ∧ t.height = .auto weight ∧
          auto = t.minHeight ∧ slots' = before ++ t.withFixed t.minHeight :: after := by
      intro heightLeft totalWeight h
      obtain ⟨⟨rest, _, _⟩, hp, rfl, rfl, rfl⟩ := by
        simpa only [Option.map_eq_some_iff, Prod.mk.injEq] using h
      obtain ⟨before, t, after, rfl, hauto, hmin, hslots⟩ := ih hp
      exact ⟨s :: before, t, after, rfl, hauto, hmin, congrArg (s :: ·) hslots⟩
    unfold pinFirst at h
    cases hs : s.height with
    | fixed height =>
      rw [hs] at h
      exact hrest h
    | auto weight' =>
      rw [hs] at h
      dsimp only at h
      split at h
      · cases h
        exact ⟨[], s, slots, rfl, hs, rfl, rfl⟩
      · exact hrest h

theorem exists_fixed {slots : List Slot} (h : slots.countP (fun s => s.height.isAuto) = 0)
    {s : Slot} (hs : s ∈ slots) : ∃ height, s.height = .fixed height := by
  have hauto := List.countP_eq_zero.mp h s hs
  cases hheight : s.height with
  | fixed height => exact ⟨height, rfl⟩
  | auto weight => simp [hheight, TileHeight.isAuto] at hauto

theorem sum_weight_eq_zero {slots : List Slot} (h : slots.countP (fun s => s.height.isAuto) = 0) :
    (slots.map Slot.weight).sum = 0 := by
  refine List.sum_eq_zero ?_
  rintro weight hweight
  obtain ⟨s, hs, rfl⟩ := List.mem_map.mp hweight
  obtain ⟨height, hheight⟩ := exists_fixed h hs
  simp [Slot.weight, hheight]

theorem Ready.tail_of_fixed {s : Slot} {slots : List Slot} {heightLeft totalWeight : Rat}
    {autoTilesLeft : Nat} (h : Ready ⟨s :: slots, heightLeft, totalWeight, autoTilesLeft⟩)
    {height : Rat} (hs : s.height = .fixed height) :
    Ready ⟨slots, heightLeft, totalWeight, autoTilesLeft⟩ where
  slots t ht := h.slots t (List.mem_cons_of_mem s ht)
  heightLeft := h.heightLeft
  totalWeight := by simpa [Slot.weight, hs] using h.totalWeight
  autoTilesLeft := by simpa [hs, TileHeight.isAuto] using h.autoTilesLeft

theorem Ready.tail_of_auto {s : Slot} {slots : List Slot} {heightLeft totalWeight : Rat}
    {autoTilesLeft : Nat} (h : Ready ⟨s :: slots, heightLeft, totalWeight, autoTilesLeft⟩)
    {weight : Rat} (hs : s.height = .auto weight) (auto : Rat) :
    Ready ⟨slots, heightLeft - s.rounded auto, totalWeight - weight, autoTilesLeft - 1⟩ where
  slots t ht := h.slots t (List.mem_cons_of_mem s ht)
  heightLeft := sub_mem h.heightLeft ((h.slots s List.mem_cons_self).whole_rounded auto)
  totalWeight := by
    have htotal : totalWeight = s.weight + (slots.map Slot.weight).sum := by
      simpa using h.totalWeight
    rw [htotal, show s.weight = weight by simp [Slot.weight, hs]]
    exact add_sub_cancel_left _ _
  autoTilesLeft := by
    have hcount : autoTilesLeft = slots.countP (fun s => s.height.isAuto) + 1 := by
      simpa [hs, TileHeight.isAuto] using h.autoTilesLeft
    exact Nat.sub_eq_of_eq_add hcount

/-- The last automatic tile gets all that is left. -/
theorem Ready.rounded_last {s : Slot} {slots : List Slot} {heightLeft totalWeight : Rat}
    {autoTilesLeft : Nat} (h : Ready ⟨s :: slots, heightLeft, totalWeight, autoTilesLeft⟩)
    {weight : Rat} (hs : s.height = .auto weight)
    (hlast : slots.countP (fun s => s.height.isAuto) = 0)
    (hle : s.minHeight ≤ heightLeft * (weight / totalWeight)) :
    s.rounded (heightLeft * (weight / totalWeight)) = heightLeft := by
  have hready := h.slots s List.mem_cons_self
  have htotal : totalWeight = weight := by
    have hsum : totalWeight = s.weight + (slots.map Slot.weight).sum := by
      simpa using h.totalWeight
    rw [hsum, sum_weight_eq_zero hlast, add_zero, Slot.weight, hs]
  have hshare : heightLeft * (weight / totalWeight) = heightLeft := by
    rw [htotal, div_self (hready.weight weight hs).ne', mul_one]
  rw [hshare] at hle ⊢
  exact Slot.rounded_of_whole hready.decoration h.heightLeft hle

/-- What the tiles are once all automatic heights are filled in. -/
structure Filled (d : Distribution) (p : List Slot × Nat) : Prop where
  resolved : p.2 = 0
  fits : List.Forall₂ Slot.Fits d.slots p.1
  sum : (p.1.map Slot.taken).sum =
    (d.slots.map Slot.taken).sum + if d.autoTilesLeft = 0 then 0 else d.heightLeft

theorem fill_filled {slots : List Slot} {heightLeft totalWeight : Rat} {autoTilesLeft : Nat}
    (h : Ready ⟨slots, heightLeft, totalWeight, autoTilesLeft⟩)
    (hpin : pinFirst heightLeft totalWeight slots = none) :
    Filled ⟨slots, heightLeft, totalWeight, autoTilesLeft⟩
      (fill heightLeft totalWeight autoTilesLeft slots) := by
  induction slots generalizing heightLeft totalWeight autoTilesLeft with
  | nil =>
    obtain rfl : autoTilesLeft = 0 := h.autoTilesLeft
    exact ⟨rfl, .nil, by simp [fill]⟩
  | cons s slots ih =>
    unfold pinFirst at hpin
    unfold fill
    cases hs : s.height with
    | fixed height =>
      rw [hs] at hpin
      have hrest := ih (h.tail_of_fixed hs) (Option.map_eq_none_iff.mp hpin)
      refine ⟨hrest.resolved, .cons (.kept height hs) hrest.fits, ?_⟩
      have hsum := hrest.sum
      simp only [List.map_cons, List.sum_cons] at hsum ⊢
      rw [hsum, add_assoc]
    | auto weight =>
      rw [hs] at hpin
      dsimp only at hpin ⊢
      split at hpin
      · cases hpin
      · next hle =>
        replace hle := not_lt.mp hle
        have hrest := ih (h.tail_of_auto hs _) (Option.map_eq_none_iff.mp hpin)
        have hfits : s.Fits (s.withFixed (s.rounded (heightLeft * (weight / totalWeight)))) :=
          .filled weight _ hs ((h.slots s List.mem_cons_self).le_rounded hle)
            ((h.slots s List.mem_cons_self).whole_rounded _)
        refine ⟨hrest.resolved, .cons hfits hrest.fits, ?_⟩
        have hleft : autoTilesLeft = slots.countP (fun s => s.height.isAuto) + 1 := by
          simpa [hs, TileHeight.isAuto] using h.autoTilesLeft
        have hsum := hrest.sum
        have htaken : s.taken = 0 := by simp [Slot.taken, hs]
        simp only [List.map_cons, List.sum_cons, Slot.withFixed_taken, hleft, htaken,
          Nat.add_sub_cancel, Nat.succ_ne_zero, if_false] at hsum ⊢
        rw [hsum]
        split
        · next hlast =>
          rw [h.rounded_last hs hlast hle]
          ring
        · ring

/-! ## The loop -/

/-- The tiles at the end: they have taken all of the height, or each is at its least. -/
structure Spread (d : Distribution) (slots : List Slot) : Prop where
  fits : List.Forall₂ Slot.Fits d.slots slots
  sum : (slots.map Slot.taken).sum = (d.slots.map Slot.taken).sum + d.heightLeft ∨
    slots = d.slots.map Slot.atLeast

theorem Ready.spread_of_resolved {d : Distribution} (h : d.Ready) (hresolved : d.autoTilesLeft = 0) :
    d.Spread d.slots := by
  have hnone := h.autoTilesLeft.symm.trans hresolved
  refine ⟨List.forall₂_same.mpr fun s hs => ?_, Or.inr ?_⟩
  · obtain ⟨height, hheight⟩ := exists_fixed hnone hs
    exact .kept height hheight
  · have hsame : d.slots.map Slot.atLeast = d.slots.map id := by
      refine List.map_congr_left fun s hs => ?_
      obtain ⟨height, hheight⟩ := exists_fixed hnone hs
      simp [Slot.atLeast, hheight]
    rw [hsame, List.map_id]

theorem Ready.pinned {d : Distribution} (h : d.Ready) {before after : List Slot} {s : Slot}
    {weight : Rat} (hslots : d.slots = before ++ s :: after) (hs : s.height = .auto weight) :
    Ready ⟨before ++ s.withFixed s.minHeight :: after, d.heightLeft - s.minHeight,
      d.totalWeight - weight, d.autoTilesLeft - 1⟩ where
  slots t ht := by
    have hready : s.Ready := h.slots s (by simp [hslots])
    rcases List.mem_append.mp ht with ht | ht
    · exact h.slots t (by simp [hslots, ht])
    · rcases List.mem_cons.mp ht with rfl | ht
      · exact hready.withFixed hready.whole_minHeight
      · exact h.slots t (by simp [hslots, ht])
  heightLeft := sub_mem h.heightLeft (h.slots s (by simp [hslots])).whole_minHeight
  totalWeight := by
    have htotal := h.totalWeight
    have hweight : s.weight = weight := by simp [Slot.weight, hs]
    simp only [hslots, List.map_append, List.map_cons, List.sum_append, List.sum_cons, hweight,
      Slot.withFixed_weight] at htotal ⊢
    linarith
  autoTilesLeft := by
    have hcount := h.autoTilesLeft
    simp only [hslots, List.countP_append, List.countP_cons, hs, TileHeight.isAuto,
      Slot.withFixed_height, if_true, Bool.false_eq_true, if_false] at hcount ⊢
    omega

theorem fits_of_pinned {before after slots : List Slot} {s : Slot} {weight : Rat}
    (hready : s.Ready) (hs : s.height = .auto weight)
    (h : List.Forall₂ Slot.Fits (before ++ s.withFixed s.minHeight :: after) slots) :
    List.Forall₂ Slot.Fits (before ++ s :: after) slots := by
  obtain ⟨before', t, after', rfl, hbefore, hfits, hafter⟩ := Paired.split_left h
  exact List.rel_append hbefore (.cons (hfits.of_pinned hready hs) hafter)

theorem Spread.of_pinned {d : Distribution} {before after slots : List Slot} {s : Slot}
    {weight totalWeight : Rat} {autoTilesLeft : Nat} (hready : s.Ready)
    (hslots : d.slots = before ++ s :: after) (hs : s.height = .auto weight)
    (h : Spread ⟨before ++ s.withFixed s.minHeight :: after, d.heightLeft - s.minHeight,
      totalWeight, autoTilesLeft⟩ slots) : d.Spread slots where
  fits := hslots ▸ fits_of_pinned hready hs h.fits
  sum := by
    have htaken : s.taken = 0 := by simp [Slot.taken, hs]
    rcases h.sum with hsum | hsum
    · refine Or.inl (hsum.trans ?_)
      simp only [hslots, List.map_append, List.map_cons, List.sum_append, List.sum_cons, htaken,
        Slot.withFixed_taken]
      ring
    · refine Or.inr (hsum.trans ?_)
      simp [hslots, Slot.atLeast, hs]

/-- The loop ends, and its assertion holds. -/
theorem distribute_returns {fuel : Nat} {d : Distribution} (h : d.Ready)
    (hfuel : d.autoTilesLeft ≤ fuel) :
    Returns (distribute fuel d) fun d' => d.Spread d'.slots := by
  induction fuel generalizing d with
  | zero =>
    have hresolved : d.autoTilesLeft = 0 := Nat.le_zero.mp hfuel
    rw [distribute, if_pos hresolved]
    exact returns_some (h.spread_of_resolved hresolved)
  | succ fuel ih =>
    unfold distribute
    split
    · next hresolved => exact returns_some (h.spread_of_resolved hresolved)
    · next hleft =>
      cases hpin : pinFirst d.heightLeft d.totalWeight d.slots with
      | none =>
        have hfilled := fill_filled h hpin
        have hsum := hfilled.sum
        simp only [hleft, if_false] at hsum
        simp only [hfilled.resolved, if_true]
        exact returns_some ⟨hfilled.fits, Or.inl hsum⟩
      | some p =>
        obtain ⟨slots', auto, weight⟩ := p
        obtain ⟨before, s, after, hslots, hs, rfl, rfl⟩ := pinFirst_some hpin
        refine (ih (h.pinned hslots hs) ?_).mono fun d' hspread => ?_
        · show d.autoTilesLeft - 1 ≤ fuel
          omega
        · exact hspread.of_pinned (h.slots s (by simp [hslots])) hslots hs

theorem Spread.height_eq {d : Distribution} {slots : List Slot} (h : d.Spread slots) {s : Slot}
    (hs : s ∈ slots) : s.height = .fixed s.taken := by
  obtain ⟨t, -, hfits⟩ := Paired.exists_left h.fits hs
  exact hfits.height_eq

/-- Each tile has a height then. -/
theorem heights_eq {d : Distribution} (h : ∀ s ∈ d.slots, s.height = .fixed s.taken) :
    d.heights = some (d.slots.map Slot.taken) := by
  unfold heights
  generalize d.slots = slots at h ⊢
  induction slots with
  | nil => rfl
  | cons s slots ih =>
    rw [List.mapM_cons, ih fun t ht => h t (List.mem_cons_of_mem s ht), h s List.mem_cons_self]
    rfl

end Distribution

end Cidre.Layout
