/-
  Cidre.Layout.AutoHeights

  Converting the heights of a column to automatic ones (`src/layout/scrolling.rs`,
  `convert_heights_to_auto`).

  The weight of a tile is its height over the median height.  When the tiles fill the
  working area, the height that is left and the weight that is left stay in proportion
  through the distribution, and each tile is asked for the height it has
  (`convertHeightsToAuto_preserves`).
-/

import Mathlib.Algebra.BigOperators.Ring.List
import Mathlib.Algebra.Order.BigOperators.Group.List
import Cidre.Layout.LoneTile

namespace Cidre.Layout

open Cidre.Panic
open Cidre.Utils.Logical (whole whole_intCast round_of_whole floor_of_whole)

variable {W : Type}

/-! ## A distribution in proportion -/

namespace Metrics.Slot

variable {s : Slot} {unit : Rat}

/-- The height of a tile where a weight of 1 is `unit` pixels. -/
def share (unit : Rat) (s : Slot) : Rat :=
  match s.height with
  | .auto weight => unit * weight
  | .fixed height => height

def settled (unit : Rat) (s : Slot) : Slot :=
  match s.height with
  | .auto weight => s.withFixed (unit * weight)
  | .fixed _ => s

@[simp] theorem settled_taken (s : Slot) : (s.settled unit).taken = s.share unit := by
  unfold settled share
  cases h : s.height with
  | auto weight => rfl
  | fixed height => simp [taken, h]

theorem share_eq (s : Slot) (unit : Rat) : s.share unit = s.taken + unit * s.weight := by
  unfold share taken weight
  cases s.height with
  | auto weight => exact (zero_add _).symm
  | fixed height =>
    show height = height + unit * 0
    rw [mul_zero, add_zero]

theorem settled_height (s : Slot) : (s.settled unit).height = .fixed (s.settled unit).taken := by
  rw [settled_taken]
  unfold settled share
  cases h : s.height with
  | auto weight => rfl
  | fixed height => exact h

/-- An automatic tile whose share is a height that it can have. -/
structure InProportion (unit : Rat) (s : Slot) : Prop where
  pos : ∀ weight, s.height = .auto weight → 0 < weight
  least : ∀ weight, s.height = .auto weight → s.minHeight ≤ unit * weight
  rounded : ∀ weight, s.height = .auto weight → s.rounded (unit * weight) = unit * weight

theorem InProportion.weight_nonneg (h : s.InProportion unit) : 0 ≤ s.weight := by
  unfold weight
  cases hs : s.height with
  | auto weight => exact (h.pos weight hs).le
  | fixed height => exact le_rfl

end Metrics.Slot

namespace Distribution

open Metrics (Slot TileHeight)

variable {unit totalWeight : Rat} {s : Slot} {slots : List Slot}

/-- The weight of the first tile is part of what is left. -/
theorem share_of_total {weight : Rat} (hs : s.InProportion unit) (hauto : s.height = .auto weight)
    (hslots : ∀ t ∈ slots, t.InProportion unit)
    (htotal : totalWeight = ((s :: slots).map Slot.weight).sum) :
    unit * totalWeight * (weight / totalWeight) = unit * weight ∧
      totalWeight - weight = (slots.map Slot.weight).sum := by
  have hweight : s.weight = weight := by simp [Slot.weight, hauto]
  have hrest : 0 ≤ (slots.map Slot.weight).sum := by
    refine List.sum_nonneg fun w hw => ?_
    obtain ⟨t, ht, rfl⟩ := List.mem_map.mp hw
    exact (hslots t ht).weight_nonneg
  rw [List.map_cons, List.sum_cons, hweight] at htotal
  have hpos : totalWeight ≠ 0 := by linarith [hs.pos weight hauto]
  refine ⟨?_, by rw [htotal]; ring⟩
  field_simp

theorem pinFirst_inProportion (h : ∀ t ∈ slots, t.InProportion unit)
    (htotal : totalWeight = (slots.map Slot.weight).sum) :
    pinFirst (unit * totalWeight) totalWeight slots = none := by
  induction slots generalizing totalWeight with
  | nil => rfl
  | cons s slots ih =>
    have hs := h s List.mem_cons_self
    have hslots : ∀ t ∈ slots, t.InProportion unit :=
      fun t ht => h t (List.mem_cons_of_mem s ht)
    unfold pinFirst
    cases hheight : s.height with
    | fixed height =>
      have hrest : totalWeight = (slots.map Slot.weight).sum := by
        simpa [Slot.weight, hheight] using htotal
      exact Option.map_eq_none_iff.mpr (ih hslots hrest)
    | auto weight =>
      obtain ⟨hshare, hrest⟩ := share_of_total hs hheight hslots htotal
      dsimp only
      rw [hshare, if_neg (not_lt.mpr (hs.least weight hheight)), hs.rounded weight hheight,
        ← mul_sub]
      exact Option.map_eq_none_iff.mpr (ih hslots hrest)

theorem fill_inProportion (h : ∀ t ∈ slots, t.InProportion unit)
    (htotal : totalWeight = (slots.map Slot.weight).sum) (autoTilesLeft : Nat) :
    fill (unit * totalWeight) totalWeight autoTilesLeft slots =
      (slots.map (Slot.settled unit),
        autoTilesLeft - slots.countP fun s => s.height.isAuto) := by
  induction slots generalizing totalWeight autoTilesLeft with
  | nil => rfl
  | cons s slots ih =>
    have hs := h s List.mem_cons_self
    have hslots : ∀ t ∈ slots, t.InProportion unit :=
      fun t ht => h t (List.mem_cons_of_mem s ht)
    unfold fill
    cases hheight : s.height with
    | fixed height =>
      have hrest : totalWeight = (slots.map Slot.weight).sum := by
        simpa [Slot.weight, hheight] using htotal
      have hsettled : s.settled unit = s := by simp [Slot.settled, hheight]
      dsimp only
      rw [ih hslots hrest _, List.map_cons, hsettled]
      simp [hheight, TileHeight.isAuto]
    | auto weight =>
      obtain ⟨hshare, hrest⟩ := share_of_total hs hheight hslots htotal
      have hsettled : s.settled unit = s.withFixed (unit * weight) := by
        simp [Slot.settled, hheight]
      dsimp only
      rw [hshare, hs.rounded weight hheight, ← mul_sub, ih hslots hrest _, List.map_cons,
        hsettled]
      have hcount : (s :: slots).countP (fun s => s.height.isAuto) =
          slots.countP (fun s => s.height.isAuto) + 1 := by
        simp [hheight, TileHeight.isAuto]
      rw [hcount, Nat.sub_sub, Nat.add_comm 1]

/-- Each tile gets its share. -/
theorem distribute_inProportion {workingHeight gaps : Rat}
    (h : ∀ t ∈ slots, t.InProportion unit)
    (hleft : (start workingHeight gaps slots).heightLeft =
      unit * (start workingHeight gaps slots).totalWeight) :
    Returns (distribute slots.length (start workingHeight gaps slots)) fun d =>
      d.heights = some (slots.map (Slot.share unit)) := by
  have hheights : ∀ d : Distribution, d.slots = slots.map (Slot.settled unit) →
      d.heights = some (slots.map (Slot.share unit)) := by
    intro d hd
    have hfixed : ∀ s ∈ d.slots, s.height = .fixed s.taken := by
      rw [hd]
      rintro _ hs
      obtain ⟨s, -, rfl⟩ := List.mem_map.mp hs
      exact s.settled_height
    rw [heights_eq hfixed, hd, List.map_map]
    exact congrArg some (List.map_congr_left fun s _ => s.settled_taken)
  by_cases hauto : (start workingHeight gaps slots).autoTilesLeft = 0
  · have hnone : distribute slots.length (start workingHeight gaps slots) =
        some (start workingHeight gaps slots) := by
      cases slots.length with
      | zero => rw [distribute, if_pos hauto]
      | succ n => rw [distribute, if_pos hauto]
    have hsettled : slots = slots.map (Slot.settled unit) := by
      have hsame : slots.map (Slot.settled unit) = slots.map id := by
        refine List.map_congr_left fun s hs => ?_
        obtain ⟨height, hheight⟩ := exists_fixed hauto hs
        simp [Slot.settled, hheight]
      rw [hsame, List.map_id]
    exact ⟨_, hnone, hheights _ hsettled⟩
  · have htotal : (start workingHeight gaps slots).totalWeight = (slots.map Slot.weight).sum := rfl
    have hpin := pinFirst_inProportion h htotal
    have hfill := fill_inProportion h htotal (start workingHeight gaps slots).autoTilesLeft
    rw [← hleft] at hpin hfill
    have hpin' : pinFirst (start workingHeight gaps slots).heightLeft
        (start workingHeight gaps slots).totalWeight (start workingHeight gaps slots).slots = none :=
      hpin
    have hfill' : fill (start workingHeight gaps slots).heightLeft
        (start workingHeight gaps slots).totalWeight (start workingHeight gaps slots).autoTilesLeft
        (start workingHeight gaps slots).slots = (slots.map (Slot.settled unit), 0) :=
      hfill.trans (congrArg _ (Nat.sub_self _))
    obtain ⟨n, hn⟩ : ∃ n, slots.length = n + 1 := by
      refine Nat.exists_eq_succ_of_ne_zero fun hzero => hauto ?_
      rw [List.eq_nil_of_length_eq_zero hzero]
      rfl
    rw [hn, distribute, if_neg hauto]
    simp only [hpin', hfill', if_true]
    exact returns_some (hheights _ rfl)

end Distribution

/-! ## The column -/

namespace Metrics

variable {m : Metrics W} {col : Column W Rat}

/-- The windows have whole heights, and the tiles fill the working area. -/
structure Fills (m : Metrics W) (col : Column W Rat) : Prop where
  windowHeight : ∀ tile ∈ col.tiles,
    (m.tile tile.id).windowHeightForTileHeight (m.tileSize tile).h ∈ whole
  least : ∀ tile ∈ col.tiles, (m.tile tile.id).minTileSize.h ≤ (m.tileSize tile).h
  /-- a window that can only have one height has it -/
  exact : ∀ tile ∈ col.tiles, (m.tile tile.id).minTileSize.h =
    (m.tile tile.id).maxSizeNonfullscreen.h → (m.tileSize tile).h = (m.tile tile.id).minTileSize.h
  total : (col.tiles.map fun tile => (m.tileSize tile).h).sum +
    m.gaps * (col.tiles.length + 1) = m.workingArea.h

theorem Fills.pos (h : m.Fills col) {tile : Tile W Rat} (htile : tile ∈ col.tiles) :
    0 < (m.tileSize tile).h :=
  lt_of_lt_of_le zero_lt_one (le_trans (le_max_right _ _) (h.least tile htile))

theorem Fills.medianHeight_pos (h : m.Fills col) (htiles : col.tiles ≠ []) :
    0 < m.medianHeight col := by
  have hlen : (col.tiles.map fun tile => (m.tileSize tile).h).mergeSort.length / 2 <
      (col.tiles.map fun tile => (m.tileSize tile).h).mergeSort.length := by
    have hpos := List.length_pos_iff.mpr htiles
    rw [List.length_mergeSort, List.length_map]
    omega
  have hmem := List.getElem_mem hlen
  rw [List.mem_mergeSort] at hmem
  obtain ⟨tile, htile, heq⟩ := List.mem_map.mp hmem
  unfold medianHeight
  dsimp only
  rw [List.getElem?_eq_getElem hlen, Option.getD_some, ← heq]
  exact h.pos htile

/-- The tiles as the distribution of the converted heights starts. -/
def convertedSlot (m : Metrics W) (col : Column W Rat) (tile : Tile W Rat) : Slot :=
  Slot.constrain ⟨m.tile tile.id, .auto ((m.tileSize tile).h / m.medianHeight col)⟩

theorem Fills.convertedSlot (h : m.Fills col) {tile : Tile W Rat} (htile : tile ∈ col.tiles) :
    (m.convertedSlot col tile).InProportion (m.medianHeight col) ∧
      (m.convertedSlot col tile).share (m.medianHeight col) = (m.tileSize tile).h := by
  have hmedian := h.medianHeight_pos (List.ne_nil_of_mem htile)
  have hshare : m.medianHeight col * ((m.tileSize tile).h / m.medianHeight col) =
      (m.tileSize tile).h := mul_div_cancel₀ _ hmedian.ne'
  unfold Metrics.convertedSlot
  by_cases hexact : (m.tile tile.id).minTileSize.h = (m.tile tile.id).maxSizeNonfullscreen.h
  · rw [Slot.constrain_of_exact (s := ⟨m.tile tile.id, .auto _⟩) hexact]
    refine ⟨⟨?_, ?_, ?_⟩, (h.exact tile htile hexact).symm⟩
    · rintro weight ⟨⟩
    · rintro weight ⟨⟩
    · rintro weight ⟨⟩
  · rw [Slot.constrain_of_auto (s := ⟨m.tile tile.id, .auto _⟩) hexact rfl]
    refine ⟨⟨?_, ?_, ?_⟩, hshare⟩
    · rintro weight ⟨⟩
      exact div_pos (h.pos htile) hmedian
    · rintro weight ⟨⟩
      rw [hshare]
      exact h.least tile htile
    · rintro weight ⟨⟩
      rw [hshare]
      have hroom := le_trans (m.tile tile.id).decoration_add_one_le (h.least tile htile)
      have hwindow := h.windowHeight tile htile
      unfold TileMetrics.windowHeightForTileHeight at hwindow
      show max (Utils.Logical.round ((m.tileSize tile).h - (m.tile tile.id).decoration) : Rat) 1 +
        (m.tile tile.id).decoration = (m.tileSize tile).h
      rw [round_of_whole hwindow, max_eq_left (by linarith), sub_add_cancel]

/-- The column with a weight for each tile. -/
def converted (m : Metrics W) (col : Column W Rat) : Column W Rat :=
  { col with data := col.tiles.map fun tile =>
      ⟨.auto ((m.tileSize tile).h / m.medianHeight col)⟩ }

theorem convertHeightsToAuto_eq (g : Geometry W Rat) (htiles : col.tiles ≠ [])
    (hlen : col.data.length = col.tiles.length) :
    col.convertHeightsToAuto (m.geometry g) = some (m.converted col) := by
  unfold Column.convertHeightsToAuto converted
  rw [if_neg htiles]
  refine congrArg (fun data => some { col with data := data }) (List.ext_getElem? fun i => ?_)
  rw [List.getElem?_mapIdx, List.getElem?_map]
  by_cases hi : i < col.tiles.length
  · have htile := List.getElem?_eq_getElem hi
    rw [List.getElem?_eq_getElem (hlen.symm ▸ hi), htile]
    simp only [Option.map_some, if_pos hi, geometry, weight, htile]
  · rw [List.getElem?_eq_none (by omega), List.getElem?_eq_none (by omega)]
    rfl

theorem slots_converted (hdisplay : col.displayMode = .normal) :
    m.slots (m.converted col) = some (col.tiles.map (m.convertedSlot col)) := by
  have hcells : cells (m.converted col) = col.tiles.map fun tile =>
      (tile, ⟨.auto ((m.tileSize tile).h / m.medianHeight col)⟩) := by
    have hzip : (col.tiles.map id).zip (col.tiles.map fun tile =>
        (⟨.auto ((m.tileSize tile).h / m.medianHeight col)⟩ : TileData Rat)) =
        col.tiles.map fun tile => (tile, ⟨.auto ((m.tileSize tile).h / m.medianHeight col)⟩) :=
      List.zip_map'
    rwa [List.map_id] at hzip
  have hdisplay' : (m.converted col).displayMode = .normal := hdisplay
  have hcells' : (cells (m.converted col)).mapM (fun cell => do
      let height ← m.tileHeight (m.converted col) (m.tile cell.1.id) cell.2.height
      return { tile := m.tile cell.1.id, height := height : Slot }) =
      some (col.tiles.map fun tile =>
        ⟨m.tile tile.id, .auto ((m.tileSize tile).h / m.medianHeight col)⟩) := by
    rw [hcells, List.mapM_map]
    exact List.mapM_pure
  unfold slots
  rw [hcells', hdisplay']
  simp only [Option.bind_eq_bind, Option.bind_some, Option.pure_def, List.map_map]
  rfl

theorem Fills.tileHeights_converted (h : m.Fills col) (hdisplay : col.displayMode = .normal) :
    m.tileHeights (m.converted col) = some (col.tiles.map fun tile => (m.tileSize tile).h) := by
  have hslots : ∀ s ∈ col.tiles.map (m.convertedSlot col), s.InProportion (m.medianHeight col) := by
    intro s hs
    obtain ⟨tile, htile, rfl⟩ := List.mem_map.mp hs
    exact (h.convertedSlot htile).1
  have hshares : (col.tiles.map (m.convertedSlot col)).map (Slot.share (m.medianHeight col)) =
      col.tiles.map fun tile => (m.tileSize tile).h := by
    rw [List.map_map]
    exact List.map_congr_left fun tile htile => (h.convertedSlot htile).2
  have hleft : (Distribution.start m.workingArea.h m.gaps
      (col.tiles.map (m.convertedSlot col))).heightLeft = m.medianHeight col *
        (Distribution.start m.workingArea.h m.gaps
          (col.tiles.map (m.convertedSlot col))).totalWeight := by
    have hsum : (col.tiles.map fun tile => (m.tileSize tile).h).sum =
        ((col.tiles.map (m.convertedSlot col)).map Slot.taken).sum +
          m.medianHeight col * ((col.tiles.map (m.convertedSlot col)).map Slot.weight).sum := by
      rw [← hshares, ← List.sum_map_mul_left, ← List.sum_map_add]
      exact congrArg List.sum (List.map_congr_left fun s _ => s.share_eq _)
    have htotal := h.total
    unfold Distribution.start
    dsimp only
    rw [List.length_map]
    linarith
  obtain ⟨d, hd, hheights⟩ := Distribution.distribute_inProportion hslots hleft
  unfold tileHeights
  rw [slots_converted hdisplay, Option.bind_eq_bind, Option.bind_some, hd, Option.bind_eq_bind,
    Option.bind_some, hheights, hshares]

/-- Each window is asked for the height that it has. -/
theorem convertHeightsToAuto_preserves (g : Geometry W Rat) {options : Options Rat}
    (hcol : col.Sound options) (hmode : col.pendingSizingMode = .normal)
    (hdisplay : col.displayMode = .normal) (hfills : m.Fills col) :
    Returns (col.convertHeightsToAuto (m.geometry g)) fun col' =>
      m.requestedTileHeights col' = some (col.tiles.map fun tile => (m.tileSize tile).h) := by
  refine ⟨_, convertHeightsToAuto_eq g hcol.tiles_ne hcol.data_length, ?_⟩
  have hmode' : (m.converted col).pendingSizingMode = .normal := hmode
  refine requestedTileHeights_of_tileHeights hmode' hcol.tiles_ne
    (hfills.tileHeights_converted hdisplay) ?_
  show List.Forall₂ _ col.tiles _
  rw [List.forall₂_map_right_iff, List.forall₂_same]
  intro tile htile
  have hroom : (m.tile tile.id).decoration + 1 ≤ (m.tileSize tile).h :=
    le_trans (m.tile tile.id).decoration_add_one_le (hfills.least tile htile)
  exact ⟨hfills.windowHeight tile htile, hroom⟩

/-! ## A dialog -/

/-- Two windows without a border on a screen of 1080 pixels. -/
def twoWindows (first second : TileMetrics) : Metrics Nat :=
  onScreen fun id => if id = 0 then first else second

/-- A window of that height, and of any other from 1 pixel on. -/
def resizable (height : Int) : TileMetrics := ⟨none, ⟨1, 1⟩, ⟨0, 0⟩, ⟨900, height⟩⟩

/-- A dialog of 100 pixels whose client has committed another height. -/
def dialog (height : Int) : TileMetrics := ⟨none, ⟨1, 100⟩, ⟨0, 100⟩, ⟨900, height⟩⟩

theorem columnOf_auto_sound : (columnOf [.auto 1, .auto 1]).Sound userPresets where
  data_length := rfl
  one_height := by decide
  presetHeights := by decide
  presetWidth := by decide
  options_eq := rfl
  active_lt := by decide

theorem resizable_preserved :
    Returns ((columnOf [.auto 1, .auto 1]).convertHeightsToAuto
      ((twoWindows (resizable 332) (resizable 700)).geometry default)) fun col' =>
        (twoWindows (resizable 332) (resizable 700)).requestedTileHeights col' =
          some ((columnOf [.auto 1, .auto 1]).tiles.map fun tile =>
            ((twoWindows (resizable 332) (resizable 700)).tileSize tile).h) := by
  refine convertHeightsToAuto_preserves default columnOf_auto_sound rfl rfl ⟨?_, ?_, ?_, ?_⟩
  · decide +kernel
  · decide +kernel
  · decide +kernel
  · decide +kernel

/-- The two heights are the same, and so are the weights. -/
theorem converted_dialog :
    (twoWindows (dialog 516) (resizable 516)).converted (columnOf [.auto 1, .auto 1]) =
      columnOf [.auto 1, .auto 1] := by
  have hmedian : (twoWindows (dialog 516) (resizable 516)).medianHeight
      (columnOf [.auto 1, .auto 1]) = 516 := by
    unfold medianHeight
    rw [List.mergeSort_of_pairwise (by decide +kernel)]
    decide +kernel
  have hweights : ∀ tile ∈ (columnOf [.auto 1, .auto 1]).tiles,
      ((twoWindows (dialog 516) (resizable 516)).tileSize tile).h / 516 = 1 := by
    decide +kernel
  have hdata : ((columnOf [.auto 1, .auto 1]).tiles.map fun tile => (⟨.auto
      (((twoWindows (dialog 516) (resizable 516)).tileSize tile).h / 516)⟩ : TileData Rat)) =
      (columnOf [.auto 1, .auto 1]).tiles.map fun _ => ⟨.auto 1⟩ :=
    List.map_congr_left fun tile htile => congrArg (fun w => TileData.mk (.auto w))
      (hweights tile htile)
  unfold converted
  rw [hmedian, hdata]
  rfl

/-- The dialog shrinks, and the other window grows. -/
theorem dialog_not_preserved :
    ¬∀ (m : Metrics Nat) (g : Geometry Nat Rat) (options : Options Rat) (col : Column Nat Rat),
      col.Sound options → col.pendingSizingMode = .normal → col.displayMode = .normal →
      (∀ tile ∈ col.tiles,
        (m.tile tile.id).windowHeightForTileHeight (m.tileSize tile).h ∈ whole ∧
          (m.tile tile.id).minTileSize.h ≤ (m.tileSize tile).h) →
      (col.tiles.map fun tile => (m.tileSize tile).h).sum + m.gaps * (col.tiles.length + 1) =
        m.workingArea.h →
      Returns (col.convertHeightsToAuto (m.geometry g)) fun col' =>
        m.requestedTileHeights col' = some (col.tiles.map fun tile => (m.tileSize tile).h) := by
  intro hclaim
  obtain ⟨col', hcol', hheights⟩ := hclaim (twoWindows (dialog 516) (resizable 516)) default
    userPresets (columnOf [.auto 1, .auto 1]) columnOf_auto_sound rfl rfl (by decide +kernel)
    (by decide +kernel)
  rw [convertHeightsToAuto_eq _ (by decide) rfl] at hcol'
  obtain rfl := Option.some.inj hcol'
  rw [converted_dialog] at hheights
  exact absurd hheights (by decide +kernel)

end Metrics

end Cidre.Layout
