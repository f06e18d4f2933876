/-
  Cidre.Layout.LoneTile

  The height of the only tile of a column (`src/layout/scrolling.rs`,
  `update_tile_sizes_with_transaction`).

  An automatic or fixed height fits in the working area, unless the window is larger at
  least.  A preset height is not clamped to the working area: the tile exceeds it for each
  preset that does (`requestedTileHeights_lone_iff`).
-/

import Cidre.Layout.Heights

namespace Cidre.Layout

open Cidre.Panic
open Cidre.Utils.Logical (clampTo whole whole_intCast whole_max whole_min round_of_whole)

variable {W : Type}

/-! ## One slot -/

namespace Metrics

namespace Slot

variable {s : Slot}

/-- The constraints bring a height below a bound that the least height is not above, or the
    height is below it anyway. -/
theorem constrained_le_iff {bound : Rat} (hbound : s.minHeight ≤ bound) (height : Rat) :
    s.constrained height ≤ bound ↔ 0 < s.maxHeight ∧ s.maxHeight ≤ bound ∨ height ≤ bound := by
  unfold constrained
  rw [max_le_iff, and_iff_left hbound]
  split
  · next hmax => rw [min_le_iff, and_iff_right hmax, or_comm]
  · next hmax => rw [or_iff_right fun h => hmax h.1]

end Slot

end Metrics

namespace Distribution

open Metrics (Slot TileHeight)

/-- A tile that has a height keeps it. -/
theorem distribute_lone_fixed (workingHeight gaps : Rat) {s : Slot} {height : Rat}
    (hs : s.height = .fixed height) :
    Returns (distribute 1 (start workingHeight gaps [s])) fun d => d.heights = some [height] := by
  have hresolved : (start workingHeight gaps [s]).autoTilesLeft = 0 := by
    simp [start, hs, TileHeight.isAuto]
  rw [distribute, if_pos hresolved]
  refine returns_some ?_
  unfold heights start
  simp [hs]

/-- An automatic tile gets the working area without the gaps, or its least height. -/
theorem distribute_lone_auto {workingHeight gaps : Rat} (hworking : workingHeight ∈ whole)
    (hgaps : gaps ∈ whole) {s : Slot} (hdecoration : s.tile.decoration ∈ whole) {weight : Rat}
    (hs : s.height = .auto weight) :
    Returns (distribute 1 (start workingHeight gaps [s])) fun d =>
      ∃ height, d.heights = some [height] ∧ s.minHeight ≤ height ∧
        (height = s.minHeight ∨ height = workingHeight - gaps * 2) := by
  have hstart : start workingHeight gaps [s] = ⟨[s], workingHeight - gaps * 2, weight, 1⟩ := by
    have htwo : gaps * (1 + 1) = gaps * 2 := by ring
    simp [start, hs, Slot.taken, Slot.weight, TileHeight.isAuto, htwo]
  have hwhole : workingHeight - gaps * 2 ∈ whole :=
    sub_mem hworking (mul_mem hgaps (whole_intCast 2))
  rw [hstart]
  generalize workingHeight - gaps * 2 = heightLeft at hwhole ⊢
  unfold distribute
  rw [if_neg Nat.one_ne_zero]
  by_cases hpin : heightLeft * (weight / weight) < s.minHeight
  · have hpinned : pinFirst heightLeft weight [s] =
        some ([s.withFixed s.minHeight], s.minHeight, weight) := by
      simp [pinFirst, hs, hpin]
    rw [hpinned]
    exact returns_some ⟨s.minHeight, rfl, le_rfl, Or.inl rfl⟩
  · have hnone : pinFirst heightLeft weight [s] = none := by simp [pinFirst, hs, hpin]
    have hweight : weight ≠ 0 := by
      rintro rfl
      have hone : 1 ≤ s.minHeight := le_max_right _ _
      rw [div_zero, mul_zero] at hpin
      exact hpin (by linarith)
    rw [div_self hweight, mul_one] at hpin
    have hfill : fill heightLeft weight 1 [s] = ([s.withFixed heightLeft], 0) := by
      simp [fill, hs, div_self hweight,
        Slot.rounded_of_whole hdecoration hwhole (not_lt.mp hpin)]
    simp only [hnone, hfill, if_true]
    exact returns_some ⟨heightLeft, rfl, not_lt.mp hpin, Or.inr rfl⟩

end Distribution

/-! ## One tile -/

namespace Metrics

variable {m : Metrics W} {col : Column W Rat} {tile : Tile W Rat} {d : TileData Rat}

/-- What a lone tile may take: the working area, or its least height. -/
def loneLimit (m : Metrics W) (t : TileMetrics) : Rat :=
  max (m.workingArea.h - m.gaps * 2) t.minTileSize.h

/-- The height of a tile for a preset. -/
def presetTileHeight (m : Metrics W) (col : Column W Rat) (t : TileMetrics)
    (preset : PresetSize Rat) : Rat :=
  let windowHeight :=
    match m.resolvePresetHeight col preset with
    | .tile h => t.windowHeightForTileHeight h
    | .window h => h
  t.tileHeightForWindowHeight (clampTo (Utils.Logical.round windowHeight) 1 100000)

/-- A preset that fits in the working area, or a window that its constraints keep in it. -/
def PresetFits (m : Metrics W) (col : Column W Rat) (t : TileMetrics) :
    WindowHeight Rat → Prop
  | .preset idx => ∀ preset ∈ col.options.presetWindowHeights[idx]?,
      t.minTileSize.h = t.maxSizeNonfullscreen.h ∨
        (0 < t.maxSizeNonfullscreen.h ∧ t.maxSizeNonfullscreen.h ≤ m.loneLimit t) ∨
        m.presetTileHeight col t preset ≤ m.loneLimit t
  | .auto _ | .fixed _ => True

instance (m : Metrics W) (col : Column W Rat) (t : TileMetrics) :
    (height : WindowHeight Rat) → Decidable (m.PresetFits col t height)
  | .preset idx => inferInstanceAs (Decidable (∀ preset ∈ col.options.presetWindowHeights[idx]?, _))
  | .auto _ | .fixed _ => inferInstanceAs (Decidable True)

/-- The height of a lone tile, which is within the limit if `fits`. -/
structure Lone (m : Metrics W) (t : TileMetrics) (fits : Prop) (height : Rat) : Prop where
  isWhole : height ∈ whole
  least_le : t.minTileSize.h ≤ height
  le_limit : height ≤ m.loneLimit t ↔ fits

theorem Lone.of_iff {t : TileMetrics} {p q : Prop} {height : Rat} (h : m.Lone t p height)
    (hiff : p ↔ q) : m.Lone t q height :=
  ⟨h.isWhole, h.least_le, h.le_limit.trans hiff⟩

theorem minTileSize_le_loneLimit (m : Metrics W) (t : TileMetrics) :
    t.minTileSize.h ≤ m.loneLimit t := le_max_right _ _

theorem distribute_auto (hworking : m.workingArea.h ∈ whole) (hgaps : m.gaps ∈ whole)
    {t : TileMetrics} (hdecoration : t.decoration ∈ whole) (weight : Rat) :
    Returns (Distribution.distribute 1 (Distribution.start m.workingArea.h m.gaps
      [Slot.constrain ⟨t, .auto weight⟩])) fun d =>
      ∃ height, d.heights = some [height] ∧ m.Lone t True height := by
  have hlimit := m.minTileSize_le_loneLimit t
  have hmin := TileMetrics.whole_minTileSize hdecoration
  by_cases hexact : t.minTileSize.h = t.maxSizeNonfullscreen.h
  · rw [Slot.constrain_of_exact (s := ⟨t, .auto weight⟩) hexact]
    refine (Distribution.distribute_lone_fixed _ _ rfl).mono fun d hd => ⟨_, hd, ?_⟩
    exact ⟨hmin, le_rfl, iff_of_true hlimit trivial⟩
  · rw [Slot.constrain_of_auto (s := ⟨t, .auto weight⟩) hexact rfl]
    refine (Distribution.distribute_lone_auto hworking hgaps (s := ⟨t, .auto weight⟩) hdecoration
      rfl).mono ?_
    rintro d ⟨height, hheights, hle, rfl | rfl⟩
    · exact ⟨_, hheights, hmin, le_rfl, iff_of_true hlimit trivial⟩
    · exact ⟨_, hheights, sub_mem hworking (mul_mem hgaps (whole_intCast 2)), hle,
        iff_of_true (le_max_left _ _) trivial⟩

theorem distribute_fixed {t : TileMetrics} (hdecoration : t.decoration ∈ whole) {px : Rat}
    (hpx : px ∈ whole) :
    Returns (Distribution.distribute 1 (Distribution.start m.workingArea.h m.gaps
      [Slot.constrain ⟨t, .fixed px⟩])) fun d =>
      ∃ height, d.heights = some [height] ∧
        m.Lone t (t.minTileSize.h = t.maxSizeNonfullscreen.h ∨
          (0 < t.maxSizeNonfullscreen.h ∧ t.maxSizeNonfullscreen.h ≤ m.loneLimit t) ∨
          px ≤ m.loneLimit t) height := by
  have hlimit := m.minTileSize_le_loneLimit t
  by_cases hexact : t.minTileSize.h = t.maxSizeNonfullscreen.h
  · rw [Slot.constrain_of_exact (s := ⟨t, .fixed px⟩) hexact]
    refine (Distribution.distribute_lone_fixed _ _ rfl).mono fun d hd => ⟨_, hd, ?_⟩
    exact ⟨TileMetrics.whole_minTileSize hdecoration, le_rfl, iff_of_true hlimit (Or.inl hexact)⟩
  · rw [Slot.constrain_of_fixed (s := ⟨t, .fixed px⟩) hexact rfl]
    refine (Distribution.distribute_lone_fixed _ _ rfl).mono fun d hd => ⟨_, hd, ?_⟩
    have hle := Slot.constrained_le_iff (s := ⟨t, .fixed px⟩) hlimit px
    refine ⟨Slot.whole_constrained hdecoration hpx, le_max_right _ _, hle.trans ?_⟩
    exact (or_iff_right hexact).symm

theorem maxNonAutoWindowHeight_lone (m : Metrics W) (htiles : col.tiles = [tile]) :
    m.maxNonAutoWindowHeight col = none := by
  rw [maxNonAutoWindowHeight, htiles]
  exact if_neg fun h => Nat.lt_irrefl 1 h.1

theorem slots_lone (htiles : col.tiles = [tile]) (hdata : col.data = [d])
    (hdisplay : col.displayMode = .normal) {height : TileHeight}
    (hheight : m.tileHeight col (m.tile tile.id) d.height = some height) :
    m.slots col = some [Slot.constrain ⟨m.tile tile.id, height⟩] := by
  unfold slots cells
  rw [htiles, hdata, hdisplay]
  simp [hheight]

/-- A fixed height is clamped to the working area. -/
theorem clamped_le_loneLimit (hwhole : m.WholeHeights col) (htile : tile ∈ col.tiles)
    (hdisplay : col.displayMode = .normal) (height : Rat) :
    (m.tile tile.id).tileHeightForWindowHeight (min height
      (Utils.Logical.round ((m.tile tile.id).windowHeightForTileHeight (m.maxTileHeight col)))) ≤
      m.loneLimit (m.tile tile.id) := by
  have hlimit : m.workingArea.h - m.gaps * 2 ∈ whole :=
    sub_mem hwhole.workingArea (mul_mem hwhole.gaps (whole_intCast 2))
  rw [m.maxTileHeight_of_normal hdisplay, TileMetrics.windowHeightForTileHeight,
    round_of_whole (sub_mem hlimit (hwhole.decoration tile htile))]
  refine le_trans (add_le_add_left (min_le_right _ _) _) ?_
  rw [sub_add_cancel]
  exact le_max_left _ _

theorem tileHeights_lone {options : Options Rat} (hcol : col.Fits options)
    (hdisplay : col.displayMode = .normal) (hwhole : m.WholeHeights col)
    (htiles : col.tiles = [tile]) (hdata : col.data = [d]) :
    Returns (m.tileHeights col) fun heights => ∃ height, heights = [height] ∧
      m.Lone (m.tile tile.id) (m.PresetFits col (m.tile tile.id) d.height) height := by
  have htile : tile ∈ col.tiles := by rw [htiles]; exact List.mem_cons_self
  have hdecoration := hwhole.decoration tile htile
  have hnone := m.maxNonAutoWindowHeight_lone htiles
  have hresolves : d.height.Resolves col.options := by
    rw [hcol.options_eq]
    exact hcol.presetHeights d (by rw [hdata]; exact List.mem_cons_self)
  have hdistribute : ∀ {height : TileHeight} {fits : Prop},
      m.tileHeight col (m.tile tile.id) d.height = some height →
      Returns (Distribution.distribute 1 (Distribution.start m.workingArea.h m.gaps
        [Slot.constrain ⟨m.tile tile.id, height⟩])) (fun d =>
          ∃ height, d.heights = some [height] ∧ m.Lone (m.tile tile.id) fits height) →
      (fits ↔ m.PresetFits col (m.tile tile.id) d.height) →
      Returns (m.tileHeights col) fun heights => ∃ height, heights = [height] ∧
        m.Lone (m.tile tile.id) (m.PresetFits col (m.tile tile.id) d.height) height := by
    intro height fits hheight hdistributed hfits
    unfold tileHeights
    rw [slots_lone htiles hdata hdisplay hheight, Option.bind_eq_bind, Option.bind_some]
    refine Returns.bind hdistributed ?_
    rintro d' ⟨height, hheights, hlone⟩
    exact ⟨_, hheights, height, rfl, hlone.of_iff hfits⟩
  cases hheight : d.height with
  | auto weight =>
    rw [hheight] at hdistribute
    exact hdistribute rfl (distribute_auto hwhole.workingArea hwhole.gaps hdecoration weight)
      Iff.rfl
  | fixed px =>
    rw [hheight] at hdistribute
    have hvalue : m.tileHeight col (m.tile tile.id) (.fixed px) =
        some (.fixed ((m.tile tile.id).tileHeightForWindowHeight
          (min (max (Utils.Logical.round px : Rat) 1) (Utils.Logical.round
            ((m.tile tile.id).windowHeightForTileHeight (m.maxTileHeight col)))))) := by
      simp only [tileHeight, hnone, Option.getD_none]
    have hpx := add_mem (whole_min (whole_max (whole_intCast (Utils.Logical.round px))
      (one_mem _)) (whole_intCast (Utils.Logical.round
        ((m.tile tile.id).windowHeightForTileHeight (m.maxTileHeight col))))) hdecoration
    refine hdistribute hvalue (distribute_fixed hdecoration hpx) (iff_of_true ?_ trivial)
    exact Or.inr (Or.inr (clamped_le_loneLimit hwhole htile hdisplay _))
  | preset idx =>
    rw [hheight] at hdistribute hresolves
    obtain ⟨preset, hpreset, -⟩ := Vec.getElem?_returns hresolves
    have hvalue : m.tileHeight col (m.tile tile.id) (.preset idx) =
        some (.fixed (m.presetTileHeight col (m.tile tile.id) preset)) := by
      simp only [tileHeight, hpreset, hnone]
      rfl
    have hpx : m.presetTileHeight col (m.tile tile.id) preset ∈ whole :=
      add_mem (whole_max (one_mem _) (whole_min (whole_intCast _) (whole_intCast 100000)))
        hdecoration
    refine hdistribute hvalue (distribute_fixed hdecoration hpx) ?_
    simp only [PresetFits, hpreset, Option.mem_some_iff, forall_eq']

/-- The height of a lone tile with the gaps is within the working area, unless it is of a
    preset that is not. -/
theorem requestedTileHeights_lone_iff {options : Options Rat} (hcol : col.Sound options)
    (hmode : col.pendingSizingMode = .normal) (hdisplay : col.displayMode = .normal)
    (hwhole : m.WholeHeights col) (htiles : col.tiles = [tile]) (hdata : col.data = [d]) :
    Returns (m.requestedTileHeights col) fun heights => ∃ height, heights = [height] ∧
      (height + m.gaps * 2 ≤
          max m.workingArea.h ((m.tile tile.id).minTileSize.h + m.gaps * 2) ↔
        m.PresetFits col (m.tile tile.id) d.height) := by
  obtain ⟨heights, hheights, height, rfl, hlone⟩ :=
    tileHeights_lone hcol.toFits hdisplay hwhole htiles hdata
  have hroom := (m.tile tile.id).decoration_add_one_le
  refine ⟨[height], requestedTileHeights_of_tileHeights hmode hcol.tiles_ne hheights ?_, height,
    rfl, ?_⟩
  · rw [htiles]
    have hdecoration := hwhole.decoration tile (by rw [htiles]; exact List.mem_cons_self)
    exact .cons ⟨sub_mem hlone.isWhole hdecoration, le_trans hroom hlone.least_le⟩ .nil
  · rw [← hlone.le_limit, loneLimit, le_max_iff, le_max_iff, le_sub_iff_add_le,
      add_le_add_iff_right]

/-! ## A preset of 2000 pixels -/

/-- Windows of any height. -/
def roomy : Metrics Nat := onScreen fun _ => bordered 1 300

theorem roomy_wholeHeights (col : Column Nat Rat) : roomy.WholeHeights col where
  workingArea := ⟨1080, rfl⟩
  gaps := ⟨16, rfl⟩
  decoration _ _ := ⟨8, by norm_num [roomy, onScreen, bordered, TileMetrics.decoration]⟩

theorem columnOf_lone_sound (height : WindowHeight Rat) (hresolves : height.Resolves userPresets) :
    (columnOf [height]).Sound userPresets where
  data_length := rfl
  one_height := List.countP_le_length
  presetHeights d hd := by
    obtain rfl : d = ⟨height⟩ := by simpa [columnOf] using hd
    exact hresolves
  presetWidth idx hidx := by cases hidx
  options_eq := rfl
  active_lt := Nat.zero_lt_one

/-- Half of the screen is within it. -/
theorem half_preset_fits :
    Returns (roomy.requestedTileHeights (columnOf [.preset 0])) fun heights =>
      ∃ height, heights = [height] ∧ height + roomy.gaps * 2 ≤
        max roomy.workingArea.h ((roomy.tile 0).minTileSize.h + roomy.gaps * 2) := by
  refine (requestedTileHeights_lone_iff (columnOf_lone_sound (.preset 0) (by decide)) rfl rfl
    (roomy_wholeHeights _) rfl rfl).mono ?_
  rintro heights ⟨height, rfl, hiff⟩
  exact ⟨height, rfl, hiff.mpr (by decide +kernel)⟩

/-- A tile of 2008 pixels on a screen of 1080. -/
theorem fixed_preset_exceeds :
    ¬∀ (m : Metrics Nat) (options : Options Rat) (col : Column Nat Rat), col.Sound options →
      col.pendingSizingMode = .normal → col.displayMode = .normal → m.WholeHeights col →
      ∀ (tile : Tile Nat Rat) (d : TileData Rat), col.tiles = [tile] → col.data = [d] →
        Returns (m.requestedTileHeights col) fun heights => ∃ height, heights = [height] ∧
          height + m.gaps * 2 ≤
            max m.workingArea.h ((m.tile tile.id).minTileSize.h + m.gaps * 2) := by
  intro hclaim
  obtain ⟨heights, hheights, height, rfl, hle⟩ := hclaim roomy userPresets (columnOf [.preset 1])
    (columnOf_lone_sound _ (by decide)) rfl rfl (roomy_wholeHeights _) _ _ rfl rfl
  have hvalue : roomy.requestedTileHeights (columnOf [.preset 1]) = some [2008] := by
    decide +kernel
  obtain rfl : 2008 = height := List.singleton_inj.mp (Option.some.inj (hvalue.symm.trans hheights))
  exact absurd hle (by decide +kernel)

end Metrics

end Cidre.Layout
