/-
  Cidre.Layout.Heights

  The heights the windows of a column are asked for (`src/layout/scrolling.rs`,
  `update_tile_sizes_with_transaction`).

  With several tiles each gets at least its least height, and together they take at most
  the working area, or their least heights (`requestedTileHeights_distributed`).
-/

import Cidre.Layout.Distribution

namespace Cidre.Layout

open Cidre.Panic
open Cidre.Utils.Logical (clampTo whole whole_intCast whole_max whole_min round_of_whole)

variable {W : Type}

/-! ## Constraints -/

namespace TileMetrics

theorem whole_maxSizeNonfullscreen {t : TileMetrics} (h : t.decoration ∈ whole) :
    t.maxSizeNonfullscreen.h ∈ whole := by
  unfold maxSizeNonfullscreen
  dsimp only
  split
  · exact add_mem (whole_intCast _) h
  · exact whole_intCast _

end TileMetrics

namespace Metrics.Slot

variable {s : Slot}

/-- The constraints of the window leave only one height. -/
def Exact (s : Slot) : Prop := s.minHeight = s.maxHeight

@[simp] theorem constrain_tile (s : Slot) : s.constrain.tile = s.tile := by
  unfold constrain
  dsimp only
  split
  · rfl
  · rfl

@[simp] theorem constrain_minHeight (s : Slot) : s.constrain.minHeight = s.minHeight :=
  congrArg (fun t : TileMetrics => t.minTileSize.h) s.constrain_tile

@[simp] theorem constrain_exact (s : Slot) : s.constrain.Exact ↔ s.Exact := by
  unfold Exact maxHeight
  rw [constrain_minHeight, constrain_tile]

theorem constrain_of_exact (h : s.Exact) : s.constrain = s.withFixed s.minHeight := by
  unfold constrain
  rw [if_pos (show s.minHeight = s.maxHeight from h)]
  show s.withFixed (max (if 0 < s.maxHeight then min s.minHeight s.maxHeight else s.minHeight)
    s.minHeight) = _
  rw [← h, min_self, ite_self, max_self]

theorem constrain_of_auto (hexact : ¬s.Exact) {weight : Rat} (hs : s.height = .auto weight) :
    s.constrain = s := by
  unfold constrain
  rw [if_neg (show ¬s.minHeight = s.maxHeight from hexact), hs]
  exact congrArg (Slot.mk s.tile) hs.symm

/-- A height within the constraints. -/
def constrained (s : Slot) (height : Rat) : Rat :=
  max (if 0 < s.maxHeight then min height s.maxHeight else height) s.minHeight

theorem constrain_of_fixed (hexact : ¬s.Exact) {height : Rat} (hs : s.height = .fixed height) :
    s.constrain = s.withFixed (s.constrained height) := by
  unfold constrain
  rw [if_neg (show ¬s.minHeight = s.maxHeight from hexact), hs]
  rfl

theorem constrained_le (s : Slot) (height : Rat) :
    s.constrained height ≤ max height s.minHeight := by
  unfold constrained
  split
  · exact max_le_max (min_le_left _ _) le_rfl
  · exact le_rfl

theorem whole_constrained (hdecoration : s.tile.decoration ∈ whole) {height : Rat}
    (hheight : height ∈ whole) : s.constrained height ∈ whole := by
  unfold constrained
  refine whole_max ?_ (TileMetrics.whole_minTileSize hdecoration)
  split
  · exact whole_min hheight (TileMetrics.whole_maxSizeNonfullscreen hdecoration)
  · exact hheight

theorem least_withFixed (s : Slot) (height : Rat) : (s.withFixed height).least = height := rfl

theorem constrain_least_of_auto {weight : Rat} (hs : s.height = .auto weight) :
    s.constrain.least = s.minHeight := by
  by_cases hexact : s.Exact
  · rw [constrain_of_exact hexact, least_withFixed]
  · rw [constrain_of_auto hexact hs, least, hs]

theorem constrain_least_of_fixed {height : Rat} (hs : s.height = .fixed height) :
    s.constrain.least ≤ max height s.minHeight := by
  by_cases hexact : s.Exact
  · rw [constrain_of_exact hexact, least_withFixed]
    exact le_max_right _ _
  · rw [constrain_of_fixed hexact hs, least_withFixed]
    exact s.constrained_le height

theorem minHeight_le_constrain_least (s : Slot) : s.minHeight ≤ s.constrain.least := by
  cases hs : s.height with
  | auto weight => exact (constrain_least_of_auto hs).ge
  | fixed height =>
    by_cases hexact : s.Exact
    · rw [constrain_of_exact hexact, least_withFixed]
    · rw [constrain_of_fixed hexact hs, least_withFixed]
      exact le_max_right _ _

/-- A tile is ready for the distribution once it is within its constraints. -/
theorem Ready.constrain (h : s.Ready) : s.constrain.Ready := by
  by_cases hexact : s.Exact
  · rw [constrain_of_exact hexact]
    exact h.withFixed h.whole_minHeight
  · cases hs : s.height with
    | auto weight => rwa [constrain_of_auto hexact hs]
    | fixed height =>
      rw [constrain_of_fixed hexact hs]
      have htaken : s.taken = height := by simp [Slot.taken, hs]
      exact h.withFixed (whole_constrained h.decoration (htaken ▸ h.taken))

end Metrics.Slot

/-! ## Heights of tiles -/

namespace Metrics

variable {m : Metrics W} {col : Column W Rat}

/-- The lengths that the heights of a column are made of are whole. -/
structure WholeHeights (m : Metrics W) (col : Column W Rat) : Prop where
  workingArea : m.workingArea.h ∈ whole
  gaps : m.gaps ∈ whole
  decoration : ∀ tile ∈ col.tiles, (m.tile tile.id).decoration ∈ whole

theorem maxTileHeight_of_normal (m : Metrics W) (hdisplay : col.displayMode = .normal) :
    m.maxTileHeight col = m.workingArea.h - m.gaps * 2 := by
  rw [maxTileHeight, extraSize, hdisplay]
  exact sub_zero _

theorem whole_maxNonAutoWindowHeight {max : Rat} (h : m.maxNonAutoWindowHeight col = some max) :
    max ∈ whole := by
  unfold maxNonAutoWindowHeight at h
  split at h
  · obtain ⟨idx, -, h⟩ := Option.bind_eq_some_iff.mp h
    obtain ⟨cell, -, h⟩ := Option.bind_eq_some_iff.mp h
    obtain rfl := Option.some.inj h
    exact whole_max (one_mem _) (whole_intCast _)
  · cases h

/-- A height as the height of a tile: an automatic one stays so, and another is whole and
    not larger than what the other windows leave. -/
inductive Converts (m : Metrics W) (col : Column W Rat) (t : TileMetrics) :
    WindowHeight Rat → TileHeight → Prop
  | auto (weight : Rat) : Converts m col t (.auto weight) (.auto weight)
  | fixed {height : WindowHeight Rat} {px : Rat} : height.isAuto = false → px ∈ whole →
      (∀ limit, m.maxNonAutoWindowHeight col = some limit → px ≤ limit + t.decoration) →
      Converts m col t height (.fixed px)

theorem tileHeight_returns {t : TileMetrics} (hdecoration : t.decoration ∈ whole)
    {height : WindowHeight Rat} (hresolves : height.Resolves col.options) :
    Returns (m.tileHeight col t height) (m.Converts col t height) := by
  cases height with
  | auto weight => exact returns_some (.auto weight)
  | fixed height =>
    refine returns_some (.fixed rfl (add_mem
      (whole_min (whole_max (whole_intCast _) (one_mem _)) ?_) hdecoration) ?_)
    · cases hmax : m.maxNonAutoWindowHeight col with
      | none => exact whole_intCast _
      | some max => exact whole_maxNonAutoWindowHeight hmax
    · intro max hmax
      rw [hmax]
      exact add_le_add_left (min_le_right _ _) _
  | preset idx =>
    refine (Vec.getElem?_returns hresolves).bind fun preset _ => returns_pure ?_
    have hwhole : ∀ h : Rat, clampTo (Utils.Logical.round h : Rat) 1 100000 ∈ whole :=
      fun h => whole_max (one_mem _) (whole_min (whole_intCast _) (whole_intCast 100000))
    cases hmax : m.maxNonAutoWindowHeight col with
    | none =>
      refine .fixed rfl (add_mem (hwhole _) hdecoration) ?_
      intro max hmax'
      cases hmax.symm.trans hmax'
    | some max =>
      refine .fixed rfl
        (add_mem (whole_min (hwhole _) (whole_maxNonAutoWindowHeight hmax)) hdecoration) ?_
      intro max' hmax'
      obtain rfl := Option.some.inj (hmax.symm.trans hmax')
      exact add_le_add_left (min_le_right _ _) _

/-- What a cell is at the start: its height as the height of a tile, within the
    constraints. -/
structure StartsAs (m : Metrics W) (col : Column W Rat) (cell : Tile W Rat × TileData Rat)
    (s : Slot) : Prop where
  tile_eq : s.tile = m.tile cell.1.id
  ready : s.Ready
  least : s.minHeight ≤ s.least
  auto : ∀ weight, cell.2.height = .auto weight → s.least = s.minHeight ∧
    (¬s.Exact → s.height = .auto weight)
  le_limit : cell.2.height.isAuto = false → ∀ limit, m.maxNonAutoWindowHeight col = some limit →
    s.least ≤ max (limit + s.tile.decoration) s.minHeight

/-- The least height of a cell. -/
def minHeightOf (m : Metrics W) (cell : Tile W Rat × TileData Rat) : Rat :=
  (m.tile cell.1.id).minTileSize.h

theorem StartsAs.minHeight_eq {cell : Tile W Rat × TileData Rat} {s : Slot}
    (h : m.StartsAs col cell s) : s.minHeight = m.minHeightOf cell :=
  congrArg (fun t : TileMetrics => t.minTileSize.h) h.tile_eq

/-- The automatic heights have a weight. -/
def Weighted (col : Column W Rat) : Prop :=
  ∀ d ∈ col.data, ∀ weight, d.height = .auto weight → 0 < weight

theorem startsAs_of_auto {cell : Tile W Rat × TileData Rat}
    (hdecoration : (m.tile cell.1.id).decoration ∈ whole) {weight : Rat}
    (hcell : cell.2.height = .auto weight) (hweight : 0 < weight) :
    m.StartsAs col cell (Slot.constrain ⟨m.tile cell.1.id, .auto weight⟩) where
  tile_eq := Slot.constrain_tile _
  ready := by
    refine Slot.Ready.constrain ⟨hdecoration, zero_mem _, ?_⟩
    rintro weight' ⟨⟩
    exact hweight
  least := by
    rw [Slot.constrain_minHeight]
    exact Slot.minHeight_le_constrain_least _
  auto weight' hcell' := by
    have hweights : weight' = weight := WindowHeight.auto.inj (hcell'.symm.trans hcell)
    refine ⟨?_, fun hexact => ?_⟩
    · rw [Slot.constrain_least_of_auto rfl, Slot.constrain_minHeight]
    · rw [hweights, Slot.constrain_of_auto ?_ rfl]
      rwa [Slot.constrain_exact] at hexact
  le_limit hauto := by
    rw [hcell] at hauto
    cases hauto

theorem startsAs_of_fixed {cell : Tile W Rat × TileData Rat}
    (hdecoration : (m.tile cell.1.id).decoration ∈ whole) (hcell : cell.2.height.isAuto = false)
    {px : Rat} (hpx : px ∈ whole)
    (hle : ∀ limit, m.maxNonAutoWindowHeight col = some limit →
      px ≤ limit + (m.tile cell.1.id).decoration) :
    m.StartsAs col cell (Slot.constrain ⟨m.tile cell.1.id, .fixed px⟩) where
  tile_eq := Slot.constrain_tile _
  ready := by
    refine Slot.Ready.constrain ⟨hdecoration, hpx, ?_⟩
    rintro weight ⟨⟩
  least := by
    rw [Slot.constrain_minHeight]
    exact Slot.minHeight_le_constrain_least _
  auto weight hauto := by
    rw [hauto] at hcell
    cases hcell
  le_limit _ limit hlimit := by
    rw [Slot.constrain_minHeight, Slot.constrain_tile]
    exact le_trans (Slot.constrain_least_of_fixed rfl) (max_le_max (hle limit hlimit) le_rfl)

theorem slots_returns {options : Options Rat} (hcol : col.Fits options)
    (hdisplay : col.displayMode = .normal) (hwhole : m.WholeHeights col) (hweighted : Weighted col) :
    Returns (m.slots col) fun slots => List.Forall₂ (m.StartsAs col) (cells col) slots := by
  unfold slots
  have hmap : Returns ((cells col).mapM fun cell => do
      let height ← m.tileHeight col (m.tile cell.1.id) cell.2.height
      return { tile := m.tile cell.1.id, height := height : Slot })
      (List.Forall₂ (fun cell s => m.StartsAs col cell s.constrain) (cells col)) := by
    refine mapM_returns fun cell hcell => ?_
    obtain ⟨htile, hdata⟩ := List.of_mem_zip hcell
    have hdecoration := hwhole.decoration _ htile
    have hresolves : cell.2.height.Resolves col.options := by
      rw [hcol.options_eq]
      exact hcol.presetHeights _ hdata
    refine (tileHeight_returns hdecoration hresolves).bind fun height hheight => returns_pure ?_
    generalize hcell' : cell.2.height = height' at hheight
    cases hheight with
    | auto weight => exact startsAs_of_auto hdecoration hcell' (hweighted _ hdata weight hcell')
    | fixed hauto hpx hle => exact startsAs_of_fixed hdecoration (hcell' ▸ hauto) hpx hle
  rw [hdisplay]
  exact hmap.bind fun slots hslots => returns_pure (List.forall₂_map_right_iff.mpr hslots)

/-! ## The one height that is not automatic -/

theorem map_fst_cells (hlen : col.data.length = col.tiles.length) :
    (cells col).map Prod.fst = col.tiles :=
  List.map_fst_zip hlen.ge

theorem map_snd_cells (hlen : col.data.length = col.tiles.length) :
    (cells col).map Prod.snd = col.data :=
  List.map_snd_zip hlen.le

theorem exists_auto {height : WindowHeight Rat} (h : height.isAuto = true) :
    ∃ weight, height = .auto weight := by
  cases height with
  | auto weight => exact ⟨weight, rfl⟩
  | fixed px => cases h
  | preset idx => cases h

/-- All heights are automatic, or all but one. -/
theorem cells_split {options : Options Rat} (hcol : col.Fits options) :
    (∀ cell ∈ cells col, cell.2.height.isAuto = true) ∨
      ∃ before cell after, cells col = before ++ cell :: after ∧
        cell.2.height.isAuto = false ∧ ∀ c ∈ before ++ after, c.2.height.isAuto = true := by
  by_cases hall : ∀ cell ∈ cells col, cell.2.height.isAuto = true
  · exact Or.inl hall
  · push Not at hall
    obtain ⟨cell, hcell, hheight⟩ := hall
    obtain ⟨before, after, hsplit⟩ := List.append_of_mem hcell
    have hone : (cells col).countP (fun c => !c.2.height.isAuto) ≤ 1 := by
      have hcount := hcol.one_height
      rwa [← map_snd_cells hcol.data_length, List.countP_map] at hcount
    rw [hsplit, List.countP_append, List.countP_cons_of_pos (by simpa using hheight)] at hone
    have hnone : (before ++ after).countP (fun c => !c.2.height.isAuto) = 0 := by
      rw [List.countP_append]
      omega
    refine Or.inr ⟨before, cell, after, hsplit, by simpa using hheight, fun c hc => ?_⟩
    simpa using List.countP_eq_zero.mp hnone c hc

/-- The tile that is not automatic leaves the other ones their least heights. -/
theorem maxNonAutoWindowHeight_eq (hwhole : m.WholeHeights col)
    (hdisplay : col.displayMode = .normal) (htiles : 1 < col.tiles.length)
    {before after : List (Tile W Rat × TileData Rat)} {cell : Tile W Rat × TileData Rat}
    (hsplit : cells col = before ++ cell :: after) (hcell : cell.2.height.isAuto = false)
    (hauto : ∀ c ∈ before ++ after, c.2.height.isAuto = true) :
    ∃ limit, m.maxNonAutoWindowHeight col = some limit ∧
      limit + (m.tile cell.1.id).decoration = max (1 + (m.tile cell.1.id).decoration)
        (m.workingArea.h - m.gaps * 2 -
          ((before ++ after).map fun c => m.minHeightOf c + m.gaps).sum) := by
  have hidx : (cells col).findIdx? (fun c => !c.2.height.isAuto) = some before.length := by
    have hnone : before.findIdx? (fun c => !c.2.height.isAuto) = none := by
      refine List.findIdx?_eq_none_iff.mpr fun c hc => ?_
      rw [hauto c (List.mem_append_left _ hc)]
      rfl
    rw [hsplit, List.findIdx?_append, hnone, List.findIdx?_cons, hcell]
    simp
  have hothers : (cells col).eraseIdx before.length = before ++ after := by
    rw [hsplit, List.eraseIdx_append_of_length_le le_rfl, Nat.sub_self]
    rfl
  have hget : (cells col)[before.length]? = some cell := by
    rw [hsplit, Vec.getElem?_split]
  have hmem : ∀ c ∈ cells col, (m.tile c.1.id).decoration ∈ whole :=
    fun c hc => hwhole.decoration _ (List.of_mem_zip hc).1
  have hleft : m.workingArea.h - m.gaps * 2 -
      ((before ++ after).map fun c => m.minHeightOf c + m.gaps).sum ∈ whole := by
    refine sub_mem (sub_mem hwhole.workingArea (mul_mem hwhole.gaps (whole_intCast 2)))
      (whole.list_sum_mem fun x hx => ?_)
    obtain ⟨c, hc, rfl⟩ := List.mem_map.mp hx
    have hc' : c ∈ cells col := by
      rw [hsplit]
      rcases List.mem_append.mp hc with hc | hc
      · exact List.mem_append_left _ hc
      · exact List.mem_append_right _ (List.mem_cons_of_mem _ hc)
    exact add_mem (TileMetrics.whole_minTileSize (hmem c hc')) hwhole.gaps
  have hdecoration := hmem cell (List.mem_of_getElem? hget)
  refine ⟨max 1 (Utils.Logical.round ((m.tile cell.1.id).windowHeightForTileHeight
    (m.maxTileHeight col - ((before ++ after).map fun c => m.minHeightOf c + m.gaps).sum)) : Rat),
    ?_, ?_⟩
  · unfold maxNonAutoWindowHeight
    rw [if_pos ⟨htiles, by rw [hdisplay]; exact ColumnDisplay.noConfusion⟩]
    simp only [hidx, hothers, hget, Option.bind_eq_bind, Option.bind_some]
    rfl
  · rw [m.maxTileHeight_of_normal hdisplay, TileMetrics.windowHeightForTileHeight,
      round_of_whole (sub_mem hleft hdecoration), ← max_add_add_right, sub_add_cancel]

/-- The tiles take at least the working area or their least heights, whatever the height of
    the one that is not automatic. -/
theorem sum_least_le {options : Options Rat} (hcol : col.Fits options)
    (hwhole : m.WholeHeights col) (hdisplay : col.displayMode = .normal)
    (htiles : 1 < col.tiles.length) {slots : List Slot}
    (hslots : List.Forall₂ (m.StartsAs col) (cells col) slots) :
    (slots.map Slot.least).sum ≤
      max (m.workingArea.h - m.gaps * (col.tiles.length + 1)) ((cells col).map m.minHeightOf).sum := by
  have hleast : ∀ {l : List (Tile W Rat × TileData Rat)} {l' : List Slot},
      (∀ cell ∈ l, cell.2.height.isAuto = true) → List.Forall₂ (m.StartsAs col) l l' →
        l'.map Slot.least = l.map m.minHeightOf := by
    intro l l' hauto hstarts
    refine Paired.map_eq hstarts fun cell hcell s hs => ?_
    obtain ⟨weight, hweight⟩ := exists_auto (hauto cell hcell)
    exact (hs.auto weight hweight).1.trans hs.minHeight_eq
  rcases cells_split hcol with hauto | ⟨before, cell, after, hsplit, hcell, hauto⟩
  · rw [hleast hauto hslots]
    exact le_max_right _ _
  · obtain ⟨limit, hlimit, hvalue⟩ :=
      maxNonAutoWindowHeight_eq hwhole hdisplay htiles hsplit hcell hauto
    rw [hsplit] at hslots
    obtain ⟨before', s, after', rfl, hbefore, hs, hafter⟩ := Paired.split_left hslots
    have hbefore' := hleast (fun c hc => hauto c (List.mem_append_left _ hc)) hbefore
    have hafter' := hleast (fun c hc => hauto c (List.mem_append_right _ hc)) hafter
    have hlen : (col.tiles.length : Rat) = before.length + 1 + after.length := by
      have hcells := congrArg List.length (map_fst_cells hcol.data_length)
      rw [hsplit] at hcells
      simp only [List.map_append, List.map_cons, List.length_append, List.length_cons,
        List.length_map] at hcells
      rw [← hcells]
      push_cast
      ring
    have hroom : 1 + (m.tile cell.1.id).decoration ≤ m.minHeightOf cell :=
      add_comm (1 : Rat) _ ▸ (m.tile cell.1.id).decoration_add_one_le
    have hothers : ((before ++ after).map fun c => m.minHeightOf c + m.gaps).sum =
        (before.map m.minHeightOf).sum + (after.map m.minHeightOf).sum +
          m.gaps * (before.length + after.length) := by
      simp only [List.sum_map_add, List.map_const', List.sum_replicate, List.map_append,
        List.sum_append, nsmul_eq_mul]
      ring
    have hle := hs.le_limit hcell limit hlimit
    rw [hs.tile_eq, hvalue, hs.minHeight_eq, hothers] at hle
    rw [hsplit]
    simp only [List.map_append, List.map_cons, List.sum_append, List.sum_cons, hbefore', hafter']
    rw [hlen]
    rcases le_max_iff.mp hle with hle | hle
    · rcases le_max_iff.mp hle with hle | hle
      · exact le_max_of_le_right (by linarith)
      · exact le_max_of_le_left (by linarith)
    · exact le_max_of_le_right (by linarith)

/-! ## Requests -/

theorem start_ready {slots : List Slot} (hwhole : m.WholeHeights col)
    (hslots : ∀ s ∈ slots, s.Ready) :
    (Distribution.start m.workingArea.h m.gaps slots).Ready where
  slots := hslots
  heightLeft := by
    refine sub_mem (sub_mem hwhole.workingArea (mul_mem hwhole.gaps ?_))
      (whole.list_sum_mem fun x hx => ?_)
    · exact add_mem (natCast_mem _ _) (one_mem _)
    · obtain ⟨s, hs, rfl⟩ := List.mem_map.mp hx
      exact (hslots s hs).taken
  totalWeight := rfl
  autoTilesLeft := rfl

/-- The heights are those of the distribution of the tiles as they start. -/
structure Distributes (m : Metrics W) (col : Column W Rat) (slots slots' : List Slot)
    (heights : List Rat) : Prop where
  starts : List.Forall₂ (m.StartsAs col) (cells col) slots
  spread : (Distribution.start m.workingArea.h m.gaps slots).Spread slots'
  heights_eq : heights = slots'.map Slot.taken

theorem tileHeights_returns {options : Options Rat} (hcol : col.Fits options)
    (hdisplay : col.displayMode = .normal) (hwhole : m.WholeHeights col) (hweighted : Weighted col) :
    Returns (m.tileHeights col) fun heights =>
      ∃ slots slots', m.Distributes col slots slots' heights := by
  unfold tileHeights
  refine (slots_returns hcol hdisplay hwhole hweighted).bind fun slots hslots => ?_
  have hready : ∀ s ∈ slots, s.Ready := by
    intro s hs
    obtain ⟨cell, -, hstarts⟩ := Paired.exists_left hslots hs
    exact hstarts.ready
  refine (Distribution.distribute_returns (start_ready hwhole hready) List.countP_le_length).bind
    fun d hd => ?_
  have hheights := Distribution.heights_eq fun s hs => hd.height_eq hs
  exact ⟨_, hheights, slots, d.slots, hslots, hd, rfl⟩

theorem requestedWidth_returns (htiles : col.tiles ≠ []) :
    Returns (m.requestedWidth col) fun _ => True := by
  unfold requestedWidth
  cases hcol : col.tiles with
  | nil => exact absurd hcol htiles
  | cons tile tiles => exact ⟨_, rfl, trivial⟩

/-- A tile whose height has room for a window of one pixel is asked for that height. -/
theorem requestedTileHeights_of_tileHeights (hmode : col.pendingSizingMode = .normal)
    (htiles : col.tiles ≠ []) {heights : List Rat} (hheights : m.tileHeights col = some heights)
    (hroom : List.Forall₂ (fun (tile : Tile W Rat) height =>
      (m.tile tile.id).windowHeightForTileHeight height ∈ whole ∧
        (m.tile tile.id).decoration + 1 ≤ height) col.tiles heights) :
    m.requestedTileHeights col = some heights := by
  obtain ⟨width, hwidth, -⟩ := requestedWidth_returns (m := m) htiles
  unfold requestedTileHeights updateTileSizes
  rw [hmode]
  simp only [hwidth, hheights, Option.bind_eq_bind, Option.bind_some, Option.pure_def]
  refine congrArg some ?_
  clear hheights
  generalize col.tiles = tiles at hroom
  induction hroom with
  | nil => rfl
  | cons hhead _ ih =>
    obtain ⟨hwindow, hle⟩ := hhead
    exact congrArg₂ List.cons (TileMetrics.tileHeight_requestTileSize hwindow hle) ih

variable {slots slots' : List Slot} {heights : List Rat}

/-- No tile is below its least height. -/
theorem Distributes.least_le (h : m.Distributes col slots slots' heights) :
    List.Forall₂ (fun cell s' => (m.tile cell.1.id).decoration ∈ whole ∧ s'.taken ∈ whole ∧
      m.minHeightOf cell ≤ s'.taken) (cells col) slots' := by
  refine (Paired.trans h.starts h.spread.fits).imp ?_
  rintro cell s' ⟨s, hstarts, hfits⟩
  rw [← hstarts.tile_eq, ← hstarts.minHeight_eq]
  exact ⟨hstarts.ready.decoration, hfits.whole_taken hstarts.ready,
    le_trans hstarts.least hfits.le_taken⟩

/-- Of the heights that were distributed the windows are asked for exactly these. -/
theorem Distributes.requestedTileHeights (h : m.Distributes col slots slots' heights)
    (hlen : col.data.length = col.tiles.length) (hmode : col.pendingSizingMode = .normal)
    (htiles : col.tiles ≠ []) (hheights : m.tileHeights col = some heights) :
    m.requestedTileHeights col = some heights := by
  refine requestedTileHeights_of_tileHeights hmode htiles hheights ?_
  rw [← map_fst_cells hlen, h.heights_eq, List.forall₂_map_left_iff, List.forall₂_map_right_iff]
  refine h.least_le.imp ?_
  rintro cell s' ⟨hdecoration, hwhole, hle⟩
  exact ⟨sub_mem hwhole hdecoration, le_trans (m.tile cell.1.id).decoration_add_one_le hle⟩

/-- The tiles have taken all of the height, or each is at its least. -/
theorem Distributes.sum (h : m.Distributes col slots slots' heights)
    (hlen : col.data.length = col.tiles.length) :
    heights.sum + m.gaps * (col.tiles.length + 1) = m.workingArea.h ∨
      slots' = slots.map Slot.atLeast := by
  have hslots : slots.length = col.tiles.length := by
    rw [← h.starts.length_eq, ← map_fst_cells hlen, List.length_map]
  refine h.spread.sum.imp (fun hsum => ?_) id
  have hleft : (Distribution.start m.workingArea.h m.gaps slots).heightLeft =
      m.workingArea.h - m.gaps * (slots.length + 1) - (slots.map Slot.taken).sum := rfl
  have htaken : ((Distribution.start m.workingArea.h m.gaps slots).slots.map Slot.taken).sum =
      (slots.map Slot.taken).sum := rfl
  rw [h.heights_eq, hsum, hleft, htaken, hslots]
  ring

theorem Distributes.sum_le (h : m.Distributes col slots slots' heights)
    (hlen : col.data.length = col.tiles.length)
    (hleast : (slots.map Slot.least).sum ≤ max (m.workingArea.h - m.gaps * (col.tiles.length + 1))
      ((cells col).map m.minHeightOf).sum) :
    heights.sum + m.gaps * (col.tiles.length + 1) ≤
      max m.workingArea.h ((col.tiles.map fun tile => (m.tile tile.id).minTileSize.h).sum +
        m.gaps * (col.tiles.length + 1)) := by
  rcases h.sum hlen with hsum | hslots
  · exact le_max_of_le_left hsum.le
  · have hmins : (cells col).map m.minHeightOf =
        col.tiles.map fun tile => (m.tile tile.id).minTileSize.h := by
      rw [← map_fst_cells hlen, List.map_map]
      rfl
    have hheights : heights = slots.map Slot.least := by
      rw [h.heights_eq, hslots, List.map_map]
      exact List.map_congr_left fun s _ => s.atLeast_taken
    rw [← hmins, hheights]
    rcases le_max_iff.mp hleast with hle | hle
    · exact le_max_of_le_left (by linarith)
    · exact le_max_of_le_right (by linarith)

/-- Some automatic tile is above its least height. -/
def Grown (m : Metrics W) (col : Column W Rat) (heights : List Rat) : Prop :=
  ∃ (idx : Nat) (tile : Tile W Rat) (d : TileData Rat) (height : Rat),
    col.tiles[idx]? = some tile ∧ col.data[idx]? = some d ∧ heights[idx]? = some height ∧
      d.height.isAuto = true ∧ (m.tile tile.id).minTileSize.h < height

theorem Distributes.sum_of_grown (h : m.Distributes col slots slots' heights)
    (hlen : col.data.length = col.tiles.length) (hgrown : m.Grown col heights) :
    heights.sum + m.gaps * (col.tiles.length + 1) = m.workingArea.h := by
  refine (h.sum hlen).resolve_right fun hslots => ?_
  obtain ⟨idx, tile, d, height, htile, hd, hheight, hauto, hlt⟩ := hgrown
  have hcell : (cells col)[idx]? = some (tile, d) := List.getElem?_zip_eq_some.mpr ⟨htile, hd⟩
  obtain ⟨s, hs, hstarts⟩ := Paired.exists_getElem? h.starts hcell
  obtain ⟨weight, hweight⟩ := exists_auto hauto
  have hleast : height = s.least := by
    rw [h.heights_eq, hslots, List.map_map, List.getElem?_map, hs] at hheight
    exact (Option.some.inj hheight).symm.trans s.atLeast_taken
  rw [hleast, (hstarts.auto weight hweight).1, hstarts.minHeight_eq] at hlt
  exact lt_irrefl _ hlt

/-- The distribution of the height of a column, with gaps around and between its tiles. -/
structure Distributed (m : Metrics W) (col : Column W Rat) (heights : List Rat) : Prop where
  least : List.Forall₂ (fun (tile : Tile W Rat) height => (m.tile tile.id).minTileSize.h ≤ height)
    col.tiles heights
  total_le : heights.sum + m.gaps * (col.tiles.length + 1) ≤
    max m.workingArea.h ((col.tiles.map fun tile => (m.tile tile.id).minTileSize.h).sum +
      m.gaps * (col.tiles.length + 1))
  total_eq : m.Grown col heights →
    heights.sum + m.gaps * (col.tiles.length + 1) = m.workingArea.h

theorem requestedTileHeights_distributed {options : Options Rat} (hcol : col.Sound options)
    (hmode : col.pendingSizingMode = .normal) (hdisplay : col.displayMode = .normal)
    (htiles : 1 < col.tiles.length) (hwhole : m.WholeHeights col) (hweighted : Weighted col) :
    Returns (m.requestedTileHeights col) (m.Distributed col) := by
  obtain ⟨heights, hheights, slots, slots', hdist⟩ :=
    tileHeights_returns hcol.toFits hdisplay hwhole hweighted
  have hlen := hcol.data_length
  refine ⟨heights, hdist.requestedTileHeights hlen hmode hcol.tiles_ne hheights, ?_, ?_,
    hdist.sum_of_grown hlen⟩
  · rw [← map_fst_cells hlen, hdist.heights_eq, List.forall₂_map_left_iff,
      List.forall₂_map_right_iff]
    exact hdist.least_le.imp fun cell s' h => h.2.2
  · exact hdist.sum_le hlen (sum_least_le hcol.toFits hwhole hdisplay htiles hdist.starts)

/-! ## A screen -/

deriving instance Inhabited for ColumnWidth, SizeChange, Geometry

/-- 1920 by 1080 pixels, without a panel, and with the tab indicator to the left. -/
def onScreen (tile : Nat → TileMetrics) : Metrics Nat where
  viewSize := ⟨1920, 1080⟩
  parentArea := ⟨1920, 1080⟩
  workingArea := ⟨1920, 1080⟩
  scale := 1
  gaps := 16
  tabIndicator :=
    { off := false
      placeWithinColumn := true
      hideWhenSingleTab := true
      width := 4
      gap := 5
      position := .left }
  tile := tile

/-- A window of that height, with a border of 4 pixels. -/
def bordered (minHeight height : Int) : TileMetrics where
  border := some 4
  minSize := ⟨1, minHeight⟩
  maxSize := ⟨0, 0⟩
  size := ⟨900, height⟩

/-- The default presets, and two of the user. -/
def userPresets : Options Rat where
  presetColumnWidths := [.proportion (1 / 3), .proportion (1 / 2), .proportion (2 / 3)]
  presetWindowHeights := [.proportion (1 / 2), .fixed 2000]
  defaultColumnDisplay := .normal
  centerFocusedColumn := .never
  alwaysCenterSingleColumn := false
  presetColumnWidths_ne := by simp
  presetWindowHeights_ne := by simp

/-- A column of the windows 0, 1, … with those heights. -/
def columnOf (heights : List (WindowHeight Rat)) : Column Nat Rat where
  tiles := (List.range heights.length).map fun id => ⟨id, .normal, .normal, none, userPresets⟩
  data := heights.map TileData.mk
  activeTileIdx := 0
  width := .proportion (1 / 2)
  presetWidthIdx := none
  isFullWidth := false
  isPendingFullscreen := false
  isPendingMaximized := false
  displayMode := .normal
  options := userPresets

/-- The first window is to be as high as half of the screen, and the second needs most of
    what is left. -/
def crowded : Metrics Nat := onScreen fun id => bordered (if id = 1 then 400 else 1) 300

theorem crowded_distributed :
    Returns (crowded.requestedTileHeights (columnOf [.preset 0, .auto 1, .auto 2]))
      (crowded.Distributed (columnOf [.preset 0, .auto 1, .auto 2])) := by
  have hcol : (columnOf [.preset 0, .auto 1, .auto 2]).Sound userPresets :=
    ⟨⟨rfl, by decide, by decide, by decide, rfl⟩, by decide⟩
  refine requestedTileHeights_distributed hcol rfl rfl (by decide) ⟨⟨1080, rfl⟩, ⟨16, rfl⟩, ?_⟩ ?_
  · decide +kernel
  · intro d hd weight hweight
    have hcases : d = ⟨.preset 0⟩ ∨ d = ⟨.auto 1⟩ ∨ d = ⟨.auto 2⟩ := by simpa [columnOf] using hd
    rcases hcases with rfl | rfl | rfl
    · cases hweight
    · cases hweight
      exact one_pos
    · cases hweight
      exact two_pos

end Metrics

end Cidre.Layout
