/-
  Cidre.Layout.Column

  The operations of one column (`src/layout/scrolling.rs`, `impl Column`).

  A column keeps two vectors, the tiles and the data of the tiles, an index into
  them, an index into the configured widths and, in the heights of its tiles,
  indices into the configured heights.  `Column.Sound` says that all of these
  fit together, and `Column.Coherent` that a column which is to be fullscreen or
  maximized can be: it is tabbed or has one tile.

  Each operation is described by one theorem: it returns, and the column it
  returns is coherent and has the windows it had.
-/

import Mathlib.Data.List.Count
import Cidre.Layout.Geometry

namespace Cidre.Layout

open Cidre.Panic

variable {W F : Type}

def Tile.requestSize (mode : SizingMode) (tile : Tile W F) : Tile W F :=
  { tile with pendingSizingMode := mode }

def Tile.updateConfig (options : Options F) (tile : Tile W F) : Tile W F :=
  { tile with options := options }

/-- `WindowHeight::auto_1`. -/
def WindowHeight.auto1 [One F] : WindowHeight F := .auto 1

/-- The preset of the height, if it is one, is in the configured list. -/
def WindowHeight.Resolves (options : Options F) : WindowHeight F → Prop
  | .preset idx => idx < options.presetWindowHeights.length
  | _ => True

instance (options : Options F) : (h : WindowHeight F) → Decidable (h.Resolves options)
  | .preset idx => inferInstanceAs (Decidable (idx < options.presetWindowHeights.length))
  | .auto _ => inferInstanceAs (Decidable True)
  | .fixed _ => inferInstanceAs (Decidable True)

theorem WindowHeight.resolves_of_isAuto {options : Options F} {h : WindowHeight F}
    (hauto : h.isAuto = true) : h.Resolves options := by
  cases h with
  | auto weight => exact trivial
  | fixed px => exact trivial
  | preset idx => exact absurd hauto (by simp [isAuto])

theorem WindowHeight.resolves_of_length_eq {options options' : Options F} {h : WindowHeight F}
    (hlen : options.presetWindowHeights.length = options'.presetWindowHeights.length)
    (hres : h.Resolves options) : h.Resolves options' := by
  cases h with
  | auto weight => exact trivial
  | fixed px => exact trivial
  | preset idx => exact Nat.lt_of_lt_of_eq hres hlen

namespace Column

/-! ## Operations -/

section

variable [One F] [BEq F] [DecidableEq W] (g : Geometry W F) (col : Column W F)

def ids : List W := col.tiles.map Tile.id

def contains (window : W) : Bool :=
  col.tiles.any fun tile => tile.id == window

def position (window : W) : Option Nat :=
  col.tiles.findIdx? fun tile => tile.id == window

def pendingSizingMode : SizingMode :=
  if col.isPendingFullscreen then .fullscreen
  else if col.isPendingMaximized then .maximized
  else .normal

def sizingMode : SizingMode :=
  if col.tiles.any fun tile => tile.sizingMode == .fullscreen then .fullscreen
  else if col.tiles.any fun tile => tile.sizingMode == .maximized then .maximized
  else .normal

def activateIdx (idx : Nat) : Option (Column W F × Bool) :=
  if col.activeTileIdx = idx then some (col, false)
  else do
    let _ ← Vec.check true col.tiles idx
    return ({ col with activeTileIdx := idx }, true)

def activateWindow (window : W) : Option (Column W F) := do
  let idx ← col.position window
  let (col, _) ← col.activateIdx idx
  return col

def request (mode : SizingMode) : Column W F :=
  { col with tiles := col.tiles.map (Tile.requestSize mode) }

/-- `update_tile_sizes`: every window is asked for the sizing mode of the column.
    A normal column takes the minimum width over its tiles and looks up the
    preset of every height. -/
def updateTileSizes : Option (Column W F) :=
  let mode := col.pendingSizingMode
  if mode = .normal then
    if col.tiles = [] then none
    else if ∀ p ∈ col.tiles.zip col.data, p.2.height.Resolves col.options then
      some (col.request mode)
    else none
  else some (col.request mode)

/-- Only a tabbed column stays fullscreen or maximized with more than one tile. -/
def dropPending : Column W F :=
  if col.displayMode ≠ .tabbed then
    { col with isPendingFullscreen := false, isPendingMaximized := false }
  else col

def addTileAt (idx : Nat) (tile : Tile W F) : Option (Column W F) := do
  let tile := tile.updateConfig col.options
  let col := col.dropPending
  let data ← Vec.insert col.data idx ⟨.auto1⟩
  let tiles ← Vec.insert col.tiles idx tile
  updateTileSizes { col with data := data, tiles := tiles }

/-- A window that is alone in its column gets the weight 1. -/
def resetLoneWeight (data : List (TileData F)) : List (TileData F) :=
  match data with
  | [⟨.auto _⟩] => [⟨.auto1⟩]
  | data => data

/-- The tile that is active once the one at `tileIdx` is gone. -/
def activateAfterRemoval (tileIdx : Nat) : Option (Column W F) :=
  if tileIdx < col.activeTileIdx then
    some { col with activeTileIdx := col.activeTileIdx - 1 }
  else if tileIdx = col.activeTileIdx then
    if tileIdx = col.tiles.length then do
      let (col, _) ← col.activateIdx (tileIdx - 1)
      return col
    else do
      let _ ← Vec.check true col.tiles tileIdx
      return col
  else some col

/-- What `remove_tile_by_idx` does to a column that keeps other tiles. -/
def removeTileAt (tileIdx : Nat) : Option (Tile W F × Column W F) := do
  let (tile, tiles) ← Vec.remove col.tiles tileIdx
  let (_, data) ← Vec.remove col.data tileIdx
  let col := { col with tiles := tiles, data := resetLoneWeight data }
  let col ← col.activateAfterRemoval tileIdx
  let col ← col.updateTileSizes
  return (tile, col)

def setFullscreen (isFullscreen : Bool) : Option (Column W F) :=
  if col.isPendingFullscreen = isFullscreen then some col
  else if isFullscreen ∧ ¬ (col.tiles.length = 1 ∨ col.displayMode = .tabbed) then none
  else updateTileSizes { col with isPendingFullscreen := isFullscreen }

def setMaximized (maximize : Bool) : Option (Column W F) :=
  if col.isPendingMaximized = maximize then some col
  else if maximize ∧ ¬ (col.tiles.length = 1 ∨ col.displayMode = .tabbed) then none
  else updateTileSizes { col with isPendingMaximized := maximize }

def newWithTile (tile : Tile W F) (width : ColumnWidth F) (isFullWidth : Bool) :
    Option (Column W F) := do
  let options := tile.options
  let col : Column W F :=
    { tiles := []
      data := []
      activeTileIdx := 0
      width := width
      presetWidthIdx :=
        options.presetColumnWidths.findIdx? fun preset => width == g.widthOfPreset preset
      isFullWidth := isFullWidth
      isPendingFullscreen := false
      isPendingMaximized := false
      displayMode := tile.defaultColumnDisplay.getD options.defaultColumnDisplay
      options := options }
  let col ← col.addTileAt 0 tile
  match tile.pendingSizingMode with
  | .normal => some col
  | .maximized => col.setMaximized true
  | .fullscreen => col.setFullscreen true

/-- `convert_heights_to_auto`; the median of no heights panics. -/
def convertHeightsToAuto : Option (Column W F) :=
  if col.tiles = [] then none
  else some { col with data := col.data.mapIdx fun i d =>
    if i < col.tiles.length then ⟨.auto (g.weight col i)⟩ else d }

/-- Presets the new options do not have are given up. -/
def dropPresetWidth (options' : Options F) : Column W F :=
  if col.options.presetColumnWidths != options'.presetColumnWidths then
    { col with presetWidthIdx := none }
  else col

def updateConfig (options : Options F) : Option (Column W F) := do
  let col := col.dropPresetWidth options
  let heightsChanged := col.options.presetWindowHeights != options.presetWindowHeights
  let col ← applyIf heightsChanged (convertHeightsToAuto g) col
  let col := { col with tiles := col.tiles.map (Tile.updateConfig options), options := options }
  applyIf (heightsChanged || g.areaChanged) updateTileSizes col

/-- `update_window` of a client that has committed `mode`. -/
def updateWindow (window : W) (mode : SizingMode) : Option (Column W F) := do
  let idx ← col.position window
  let tile ← col.tiles[idx]?
  return { col with tiles := col.tiles.set idx { tile with sizingMode := mode } }

def focusIndex (index : Nat) : Option (Column W F) := do
  let (col, _) ← col.activateIdx (min (index - 1) (col.tiles.length - 1))
  return col

def focusUp : Option (Column W F × Bool) :=
  col.activateIdx (col.activeTileIdx - 1)

def focusDown : Option (Column W F × Bool) :=
  col.activateIdx (min (col.activeTileIdx + 1) (col.tiles.length - 1))

def focusTop : Option (Column W F) := do
  let (col, _) ← col.activateIdx 0
  return col

def focusBottom : Option (Column W F) := do
  let (col, _) ← col.activateIdx (col.tiles.length - 1)
  return col

/-- Where `move_up` and `move_down` end: the active tile changes places with the
    one at `newIdx`. -/
def moveTo (newIdx : Nat) : Option (Column W F × Bool) :=
  if col.activeTileIdx = newIdx then some (col, false)
  else do
    let tiles ← Vec.swap col.tiles col.activeTileIdx newIdx
    let data ← Vec.swap col.data col.activeTileIdx newIdx
    return ({ col with tiles := tiles, data := data, activeTileIdx := newIdx }, true)

def moveUp : Option (Column W F × Bool) :=
  col.moveTo (col.activeTileIdx - 1)

def moveDown : Option (Column W F × Bool) :=
  col.moveTo (min (col.activeTileIdx + 1) (col.tiles.length - 1))

def setColumnWidth (change : SizeChange F) (tileIdx : Option Nat) : Option (Column W F) := do
  let idx := tileIdx.getD col.activeTileIdx
  -- Only a fixed width looks at the tile.
  let _ ← Vec.check change.isSetFixed col.tiles idx
  updateTileSizes
    { col with
      width := g.newWidth col change idx
      presetWidthIdx := none
      isFullWidth := false
      isPendingMaximized := false }

/-- The next preset of a list: after the current one if there is one, else after
    the size of the tile. -/
def nextPreset (presets : List (PresetSize F)) (current : Option Nat) (forwards : Bool)
    (smaller bigger : PresetSize F → Bool) : Nat :=
  let len := presets.length
  match current with
  | some idx => (idx + if forwards then 1 else len - 1) % len
  | none =>
      if forwards then (presets.findIdx? smaller).getD 0
      else (Vec.rposition presets bigger).getD (len - 1)

def toggleWidth (tileIdx : Option Nat) (forwards : Bool) : Option (Column W F) := do
  let idx := tileIdx.getD col.activeTileIdx
  let current := if col.isFullWidth || col.isPendingMaximized then none else col.presetWidthIdx
  let _ ← Vec.check current.isNone col.tiles idx
  let presetIdx := nextPreset col.options.presetColumnWidths current forwards
    (g.narrower col idx) (g.wider col idx)
  let preset ← col.options.presetColumnWidths[presetIdx]?
  let col ← col.setColumnWidth g (g.changeOfPreset preset) (some idx)
  return { col with presetWidthIdx := some presetIdx }

def toggleFullWidth : Option (Column W F) :=
  let col :=
    if col.isPendingMaximized then { col with isPendingMaximized := false, isFullWidth := false }
    else { col with isFullWidth := !col.isFullWidth }
  col.updateTileSizes

/-- Only one window of a column has a height of its own: the others become
    automatic before another one gets one. -/
def freeHeights (idx : Nat) : Option (Column W F) := do
  let d ← col.data[idx]?
  if d.height.isAuto then col.convertHeightsToAuto g else some col

def setHeightAt (idx : Nat) (height : WindowHeight F) : Column W F :=
  { col with data := col.data.set idx ⟨height⟩ }

def setWindowHeight (change : SizeChange F) (tileIdx : Option Nat) : Option (Column W F) := do
  let idx := tileIdx.getD col.activeTileIdx
  let col ← col.freeHeights g idx
  let _ ← Vec.check true col.tiles idx
  let col := col.setHeightAt idx (.fixed (g.newHeight col change idx))
  updateTileSizes { col with isPendingMaximized := false }

def resetWindowHeight (tileIdx : Option Nat) : Option (Column W F) :=
  if col.displayMode = .tabbed then
    updateTileSizes { col with data := col.data.map fun _ => ⟨.auto1⟩ }
  else do
    let idx := tileIdx.getD col.activeTileIdx
    let _ ← Vec.check true col.data idx
    updateTileSizes (col.setHeightAt idx .auto1)

def toggleWindowHeight (tileIdx : Option Nat) (forwards : Bool) : Option (Column W F) := do
  let idx := tileIdx.getD col.activeTileIdx
  let col ← col.freeHeights g idx
  let d ← col.data[idx]?
  let current :=
    match d.height with
    | .preset i => if col.isPendingMaximized then none else some i
    | _ => none
  let _ ← Vec.check current.isNone col.tiles idx
  let presetIdx := nextPreset col.options.presetWindowHeights current forwards
    (g.lower col idx) (g.higher col idx)
  let col := col.setHeightAt idx (.preset presetIdx)
  updateTileSizes { col with isPendingMaximized := false }

def setColumnDisplay (display : ColumnDisplay) : Option (Column W F) :=
  if col.displayMode = display then some col
  else updateTileSizes { col with displayMode := display }

end

/-! ## The invariant -/

/-- The vectors of the column and its presets fit together, under `options`. -/
structure Fits (options : Options F) (col : Column W F) : Prop where
  data_length : col.data.length = col.tiles.length
  one_height : col.data.countP (fun d => !d.height.isAuto) ≤ 1
  presetHeights : ∀ d ∈ col.data, d.height.Resolves options
  presetWidth : ∀ idx ∈ col.presetWidthIdx, idx < options.presetColumnWidths.length
  options_eq : col.options = options

/-- The column has tiles, and one of them is active. -/
structure Sound (options : Options F) (col : Column W F) : Prop extends Fits options col where
  active_lt : col.activeTileIdx < col.tiles.length

/-- The column is sound, and can be in the sizing mode it is to be in. -/
structure Coherent (options : Options F) (col : Column W F) : Prop extends Sound options col where
  pending : col.isPendingFullscreen = true ∨ col.isPendingMaximized = true →
    col.displayMode = .tabbed ∨ col.tiles.length = 1

/-- What an operation on a coherent column returns: a coherent column with the
    same windows. -/
structure Kept (options : Options F) (col col' : Column W F) : Prop where
  coherent : Coherent options col'
  ids_eq : col'.ids = col.ids

variable {options : Options F} {col : Column W F}

theorem Kept.coherent_perm {col' : Column W F} (h : Kept options col col') :
    Coherent options col' ∧ col'.ids.Perm col.ids :=
  ⟨h.coherent, List.Perm.of_eq h.ids_eq⟩

@[simp] theorem length_ids (col : Column W F) : col.ids.length = col.tiles.length :=
  List.length_map _

@[simp] theorem ids_request (col : Column W F) (mode : SizingMode) :
    (col.request mode).ids = col.ids := by
  simp [ids, request, Tile.requestSize]

theorem Sound.tiles_ne (h : Sound options col) : col.tiles ≠ [] :=
  List.ne_nil_of_length_pos (Nat.lt_of_le_of_lt (Nat.zero_le _) h.active_lt)

theorem Sound.request (h : Sound options col) (mode : SizingMode) :
    Sound options (col.request mode) :=
  { h with
    data_length := by simpa [Column.request] using h.data_length
    active_lt := by simpa [Column.request] using h.active_lt }

theorem updateTileSizes_sound (h : Sound options col) :
    Returns col.updateTileSizes fun col' => ∃ mode, col' = col.request mode := by
  have hres : ∀ p ∈ col.tiles.zip col.data, p.2.height.Resolves col.options := by
    intro p hp
    rw [h.options_eq]
    exact h.presetHeights p.2 (List.of_mem_zip hp).2
  simp only [updateTileSizes, if_neg h.tiles_ne, if_pos hres, ite_self]
  exact returns_some ⟨_, rfl⟩

theorem Coherent.request (h : Coherent options col) (mode : SizingMode) :
    Coherent options (col.request mode) :=
  { h.toSound.request mode with
    pending := by simpa [Column.request] using h.pending }

theorem updateTileSizes_returns (h : Coherent options col) :
    Returns col.updateTileSizes (Kept options col) := by
  refine (updateTileSizes_sound h.toSound).mono ?_
  rintro _ ⟨mode, rfl⟩
  exact ⟨h.request mode, ids_request col mode⟩

theorem contains_iff [DecidableEq W] {window : W} :
    col.contains window = true ↔ window ∈ col.ids := by
  simp [contains, ids, List.any_eq_true, List.mem_map]

theorem position_returns [DecidableEq W] {window : W} (h : window ∈ col.ids) :
    Returns (col.position window) fun idx => idx < col.tiles.length ∧ col.ids[idx]? = some window := by
  obtain ⟨tile, htile, rfl⟩ := List.mem_map.mp h
  have hsome : (col.position tile.id).isSome := by
    rw [position, List.findIdx?_isSome, List.any_eq_true]
    exact ⟨tile, htile, by simp⟩
  obtain ⟨idx, hidx⟩ := Option.isSome_iff_exists.mp hsome
  obtain ⟨hlt, hid, -⟩ := List.findIdx?_eq_some_iff_getElem.mp hidx
  refine ⟨idx, hidx, hlt, ?_⟩
  rw [ids, List.getElem?_map, List.getElem?_eq_getElem hlt]
  simpa using hid

theorem Coherent.withActive (h : Coherent options col) {idx : Nat} (hidx : idx < col.tiles.length) :
    Coherent options { col with activeTileIdx := idx } :=
  { h with active_lt := hidx }

theorem activateIdx_eq {idx : Nat} (hidx : idx < col.tiles.length) :
    Returns (col.activateIdx idx) fun p => p.1 = { col with activeTileIdx := idx } := by
  rw [activateIdx]
  refine returns_ite (fun heq => ?_) (fun _ => ?_)
  · subst heq
    exact returns_some rfl
  · exact (Vec.check_returns true hidx).bind fun _ _ => returns_pure rfl

theorem activateIdx_returns (h : Coherent options col) {idx : Nat} (hidx : idx < col.tiles.length) :
    Returns (col.activateIdx idx) fun p => Kept options col p.1 := by
  refine (activateIdx_eq hidx).mono ?_
  rintro ⟨_, _⟩ rfl
  exact ⟨h.withActive hidx, rfl⟩

theorem activateWindow_returns [DecidableEq W] (h : Coherent options col) {window : W}
    (hmem : window ∈ col.ids) : Returns (col.activateWindow window) (Kept options col) := by
  refine (position_returns hmem).bind fun idx hidx => ?_
  exact (activateIdx_returns h hidx.1).bind fun _ hkept => returns_pure hkept

theorem countP_insertIdx_auto [One F] {l : List (TileData F)} {i : Nat} (hi : i ≤ l.length) :
    (l.insertIdx i ⟨.auto1⟩).countP (fun d => !d.height.isAuto) =
      l.countP fun d => !d.height.isAuto := by
  rw [(List.perm_insertIdx _ l hi).countP_eq, List.countP_cons_of_neg]
  simp [WindowHeight.auto1, WindowHeight.isAuto]

@[simp] theorem dropPending_tiles (col : Column W F) : col.dropPending.tiles = col.tiles := by
  rw [dropPending]
  split <;> rfl

@[simp] theorem dropPending_active (col : Column W F) :
    col.dropPending.activeTileIdx = col.activeTileIdx := by
  rw [dropPending]
  split <;> rfl

theorem Fits.dropPending (h : Fits options col) : Fits options col.dropPending := by
  rw [Column.dropPending]
  split
  · exact { h with }
  · exact h

theorem dropPending_pending (col : Column W F)
    (h : col.dropPending.isPendingFullscreen = true ∨ col.dropPending.isPendingMaximized = true) :
    col.dropPending.displayMode = .tabbed := by
  rw [dropPending] at h ⊢
  split at h
  · simp at h
  · split
    · contradiction
    · exact not_not.mp ‹¬ col.displayMode ≠ .tabbed›

/-- Inserting a tile with an automatic height keeps what fits together. -/
theorem Fits.insert [One F] (h : Fits options col) {idx : Nat} (tile : Tile W F)
    (hidx : idx ≤ col.tiles.length) :
    Fits options { col with
      data := col.data.insertIdx idx ⟨.auto1⟩, tiles := col.tiles.insertIdx idx tile } where
  data_length := by
    have hdata : idx ≤ col.data.length := h.data_length ▸ hidx
    rw [List.length_insertIdx_of_le_length hdata, List.length_insertIdx_of_le_length hidx,
      h.data_length]
  one_height := by
    rw [countP_insertIdx_auto (h.data_length ▸ hidx)]
    exact h.one_height
  presetHeights := by
    intro d hd
    rcases List.eq_or_mem_of_mem_insertIdx hd with rfl | hmem
    · exact trivial
    · exact h.presetHeights d hmem
  presetWidth := h.presetWidth
  options_eq := h.options_eq

/-- `add_tile_at`, also into a column that has no tile yet. -/
theorem addTileAt_returns [One F] (h : Fits options col) {idx : Nat} (tile : Tile W F)
    (hidx : idx ≤ col.tiles.length) (hactive : col.activeTileIdx ≤ col.tiles.length) :
    Returns (col.addTileAt idx tile) fun col' =>
      Coherent options col' ∧ col'.ids = col.ids.insertIdx idx tile.id ∧
        col'.activeTileIdx = col.activeTileIdx := by
  have hfits := h.dropPending.insert (tile.updateConfig col.options) (by simpa using hidx)
  have hdata : idx ≤ col.dropPending.data.length := by
    rw [h.dropPending.data_length, dropPending_tiles]
    exact hidx
  have htiles : idx ≤ col.dropPending.tiles.length := by
    rw [dropPending_tiles]
    exact hidx
  refine (Vec.insert_returns _ hdata).bind ?_
  rintro _ rfl
  refine (Vec.insert_returns _ htiles).bind ?_
  rintro _ rfl
  have hlen : (col.dropPending.tiles.insertIdx idx (tile.updateConfig col.options)).length =
      col.tiles.length + 1 := by
    rw [List.length_insertIdx_of_le_length htiles, dropPending_tiles]
  have hsound : Sound options { col.dropPending with
      data := col.dropPending.data.insertIdx idx ⟨.auto1⟩
      tiles := col.dropPending.tiles.insertIdx idx (tile.updateConfig col.options) } :=
    { hfits with
      active_lt := by
        show col.dropPending.activeTileIdx < _
        rw [dropPending_active, hlen]
        omega }
  have hcoherent : Coherent options _ :=
    { hsound with pending := fun hpending => Or.inl (dropPending_pending col hpending) }
  refine (updateTileSizes_sound hsound).mono ?_
  rintro _ ⟨mode, rfl⟩
  refine ⟨hcoherent.request mode, ?_, dropPending_active col⟩
  rw [ids_request, ids, dropPending_tiles, List.map_insertIdx]
  rfl

theorem setFullscreen_returns (h : Coherent options col) {isFullscreen : Bool}
    (hone : isFullscreen = true → col.displayMode = .tabbed ∨ col.tiles.length = 1) :
    Returns (col.setFullscreen isFullscreen) (Kept options col) := by
  rw [setFullscreen]
  refine returns_early ⟨h, rfl⟩ fun _ => ?_
  rw [if_neg fun hc => hc.2 (hone hc.1).symm]
  have hcoherent : Coherent options { col with isPendingFullscreen := isFullscreen } :=
    { h with
      pending := by
        rintro (hfull | hmax)
        · exact hone hfull
        · exact h.pending (Or.inr hmax) }
  exact (updateTileSizes_returns hcoherent).mono fun col' hkept => ⟨hkept.coherent, hkept.ids_eq⟩

theorem setMaximized_returns (h : Coherent options col) {maximize : Bool}
    (hone : maximize = true → col.displayMode = .tabbed ∨ col.tiles.length = 1) :
    Returns (col.setMaximized maximize) (Kept options col) := by
  rw [setMaximized]
  refine returns_early ⟨h, rfl⟩ fun _ => ?_
  rw [if_neg fun hc => hc.2 (hone hc.1).symm]
  have hcoherent : Coherent options { col with isPendingMaximized := maximize } :=
    { h with
      pending := by
        rintro (hfull | hmax)
        · exact h.pending (Or.inl hfull)
        · exact hone hmax }
  exact (updateTileSizes_returns hcoherent).mono fun col' hkept => ⟨hkept.coherent, hkept.ids_eq⟩

theorem newWithTile_returns [One F] [BEq F] (g : Geometry W F) (tile : Tile W F)
    (width : ColumnWidth F) (isFullWidth : Bool) :
    Returns (newWithTile g tile width isFullWidth) fun col =>
      Coherent tile.options col ∧ col.ids = [tile.id] := by
  refine (addTileAt_returns ⟨rfl, ?_, ?_, ?_, rfl⟩ tile (Nat.le_refl 0) (Nat.le_refl 0)).bind ?_
  · simp
  · simp
  · intro idx hidx
    exact (List.findIdx?_eq_some_iff_getElem.mp hidx).1
  · rintro col ⟨hcol, hids, -⟩
    have hids : col.ids = [tile.id] := by simpa [ids] using hids
    have hone : col.tiles.length = 1 := by
      rw [← length_ids, hids]
      rfl
    cases tile.pendingSizingMode with
    | normal => exact returns_some ⟨hcol, hids⟩
    | maximized =>
      exact (setMaximized_returns hcol fun _ => Or.inr hone).mono fun col' hkept =>
        ⟨hkept.coherent, hkept.ids_eq.trans hids⟩
    | fullscreen =>
      exact (setFullscreen_returns hcol fun _ => Or.inr hone).mono fun col' hkept =>
        ⟨hkept.coherent, hkept.ids_eq.trans hids⟩

theorem Coherent.withData (h : Coherent options col) {data : List (TileData F)}
    (hlen : data.length = col.data.length)
    (hone : data.countP (fun d => !d.height.isAuto) ≤ 1)
    (hres : ∀ d ∈ data, d.height.Resolves options) : Coherent options { col with data := data } :=
  { h with
    data_length := hlen.trans h.data_length
    one_height := hone
    presetHeights := hres }

theorem Coherent.withAutoData (h : Coherent options col) {data : List (TileData F)}
    (hlen : data.length = col.data.length) (hauto : ∀ d ∈ data, d.height.isAuto = true) :
    Coherent options { col with data := data } := by
  refine h.withData hlen ?_ fun d hd => ?_
  · rw [List.countP_eq_zero.mpr]
    · exact Nat.zero_le 1
    · intro d hd
      simp [hauto d hd]
  · exact WindowHeight.resolves_of_isAuto (hauto d hd)

theorem resetLoneWeight_sub [One F] (data : List (TileData F)) :
    (resetLoneWeight data).length = data.length ∧
      (resetLoneWeight data).countP (fun d => !d.height.isAuto) ≤
        data.countP (fun d => !d.height.isAuto) ∧
      ∀ options, (∀ d ∈ data, d.height.Resolves options) →
        ∀ d ∈ resetLoneWeight data, d.height.Resolves options := by
  unfold resetLoneWeight
  split
  · refine ⟨rfl, by simp [WindowHeight.auto1, WindowHeight.isAuto], fun options _ d hd => ?_⟩
    obtain rfl : d = ⟨.auto1⟩ := by simpa using hd
    exact trivial
  · exact ⟨rfl, Nat.le_refl _, fun options h => h⟩

theorem activateAfterRemoval_eq (tileIdx : Nat) (hidx : tileIdx ≤ col.tiles.length)
    (hactive : col.activeTileIdx ≤ col.tiles.length) (hpos : 0 < col.tiles.length) :
    Returns (col.activateAfterRemoval tileIdx) fun col' =>
      ∃ idx, idx < col.tiles.length ∧ col' = { col with activeTileIdx := idx } := by
  rw [activateAfterRemoval]
  refine returns_ite (fun hlt => ?_) (fun hnlt => returns_ite (fun heq => ?_) (fun hne => ?_))
  · exact returns_some ⟨col.activeTileIdx - 1, by omega, rfl⟩
  · refine returns_ite (fun hlast => ?_) (fun hnlast => ?_)
    · have hlt : tileIdx - 1 < col.tiles.length := by omega
      refine (activateIdx_eq hlt).bind ?_
      rintro ⟨_, _⟩ rfl
      exact returns_pure ⟨tileIdx - 1, hlt, rfl⟩
    · have hlt : tileIdx < col.tiles.length := by omega
      exact (Vec.check_returns true hlt).bind fun _ _ => returns_pure ⟨tileIdx, hlt, heq ▸ rfl⟩
  · exact returns_some ⟨col.activeTileIdx, by omega, rfl⟩

theorem removeTileAt_returns [One F] (h : Coherent options col) {tileIdx : Nat}
    (hidx : tileIdx < col.tiles.length) (hmany : col.tiles.length ≠ 1) :
    Returns (col.removeTileAt tileIdx) fun p =>
      Coherent options p.2 ∧ col.ids[tileIdx]? = some p.1.id ∧
        p.2.ids = col.ids.eraseIdx tileIdx := by
  have hdata : tileIdx < col.data.length := h.data_length ▸ hidx
  refine (Vec.remove_returns hidx).bind ?_
  rintro ⟨tile, _⟩ ⟨htile, rfl⟩
  refine (Vec.remove_returns hdata).bind ?_
  rintro ⟨_, _⟩ ⟨-, rfl⟩
  have htiles : (col.tiles.eraseIdx tileIdx).length = col.tiles.length - 1 :=
    List.length_eraseIdx_of_lt hidx
  have hactive := h.active_lt
  obtain ⟨hlen, hcount, hres⟩ := resetLoneWeight_sub (col.data.eraseIdx tileIdx)
  refine (activateAfterRemoval_eq tileIdx ?_ ?_ ?_).bind ?_
  · show _ ≤ (col.tiles.eraseIdx tileIdx).length
    omega
  · show col.activeTileIdx ≤ (col.tiles.eraseIdx tileIdx).length
    omega
  · show 0 < (col.tiles.eraseIdx tileIdx).length
    omega
  rintro _ ⟨idx, hlt, rfl⟩
  have hcoherent : Coherent options { col with
      tiles := col.tiles.eraseIdx tileIdx
      data := resetLoneWeight (col.data.eraseIdx tileIdx)
      activeTileIdx := idx } :=
    { data_length := by
        show (resetLoneWeight _).length = _
        rw [hlen, List.length_eraseIdx_of_lt hdata, htiles, h.data_length]
      one_height := Nat.le_trans hcount
        (Nat.le_trans (List.Sublist.countP_le (List.eraseIdx_sublist ..)) h.one_height)
      presetHeights := hres options fun d hd =>
        h.presetHeights d (List.mem_of_mem_eraseIdx hd)
      presetWidth := h.presetWidth
      options_eq := h.options_eq
      active_lt := hlt
      pending := fun hp => Or.inl ((h.pending hp).resolve_right hmany) }
  refine (updateTileSizes_returns hcoherent).bind fun col' hkept => ?_
  refine returns_pure ⟨hkept.coherent, ?_, ?_⟩
  · rw [ids, List.getElem?_map, htile]
    rfl
  · rw [hkept.ids_eq, ids, ids, List.eraseIdx_map]

theorem convertHeightsToAuto_returns (g : Geometry W F) (h : Coherent options col) :
    Returns (col.convertHeightsToAuto g) fun col' =>
      Kept options col col' ∧ col'.presetWidthIdx = col.presetWidthIdx ∧
        ∀ d ∈ col'.data, d.height.isAuto = true := by
  rw [convertHeightsToAuto, if_neg h.tiles_ne]
  have hauto : ∀ d ∈ col.data.mapIdx (fun i d =>
      if i < col.tiles.length then (⟨.auto (g.weight col i)⟩ : TileData F) else d),
      d.height.isAuto = true := by
    intro d hd
    obtain ⟨i, hi, rfl⟩ := List.mem_mapIdx.mp hd
    rw [if_pos (h.data_length ▸ hi)]
    rfl
  exact returns_some ⟨⟨h.withAutoData List.length_mapIdx hauto, rfl⟩, rfl, hauto⟩

theorem updateWindow_returns [DecidableEq W] (h : Coherent options col) {window : W}
    (hmem : window ∈ col.ids) (mode : SizingMode) :
    Returns (col.updateWindow window mode) (Kept options col) := by
  refine (position_returns hmem).bind fun idx hidx => ?_
  refine (Vec.getElem?_returns hidx.1).bind fun tile htile => returns_pure ⟨?_, ?_⟩
  · exact
      { h with
        data_length := by simpa using h.data_length
        active_lt := by simpa using h.active_lt
        pending := by simpa using h.pending }
  · exact Vec.map_set_of_eq Tile.id htile rfl

theorem length_eq_of_not_bne {α : Type} [BEq α] {l l' : List α} (h : (l != l') = false) :
    l.length = l'.length := by
  rw [bne, Bool.not_eq_false'] at h
  exact List.length_eq_of_beq h

theorem dropPresetWidth_kept [BEq F] (h : Coherent options col) (options' : Options F) :
    Kept options col (col.dropPresetWidth options') ∧
      ∀ idx ∈ (col.dropPresetWidth options').presetWidthIdx,
        idx < options'.presetColumnWidths.length := by
  rw [dropPresetWidth]
  by_cases hne : (col.options.presetColumnWidths != options'.presetColumnWidths) = true
  · rw [if_pos hne]
    have hcoherent : Coherent options { col with presetWidthIdx := none } :=
      { h with presetWidth := by simp }
    exact ⟨⟨hcoherent, rfl⟩, by simp⟩
  · rw [if_neg hne]
    refine ⟨⟨h, rfl⟩, fun idx hidx => ?_⟩
    rw [← length_eq_of_not_bne (Bool.eq_false_iff.mpr hne), h.options_eq]
    exact h.presetWidth idx hidx

theorem Coherent.withOptions (h : Coherent options col) {options' : Options F}
    (hwidth : ∀ idx ∈ col.presetWidthIdx, idx < options'.presetColumnWidths.length)
    (hheights : ∀ d ∈ col.data, d.height.Resolves options') :
    Kept options' col
      { col with tiles := col.tiles.map (Tile.updateConfig options'), options := options' } where
  coherent :=
    { data_length := by simpa using h.data_length
      one_height := h.one_height
      presetHeights := hheights
      presetWidth := hwidth
      options_eq := rfl
      active_lt := by simpa using h.active_lt
      pending := by simpa using h.pending }
  ids_eq := by simp [ids, Tile.updateConfig]

theorem updateConfig_returns [BEq F] (g : Geometry W F) (h : Coherent options col)
    (options' : Options F) : Returns (col.updateConfig g options') (Kept options' col) := by
  obtain ⟨hkept, hwidth⟩ := dropPresetWidth_kept h options'
  have hdrop := hkept.coherent
  -- Heights that are still presets are presets of the new options too.
  have hheights : Returns (applyIf
      ((col.dropPresetWidth options').options.presetWindowHeights != options'.presetWindowHeights)
      (convertHeightsToAuto g) (col.dropPresetWidth options')) fun col' =>
      Kept options col col' ∧
        (∀ idx ∈ col'.presetWidthIdx, idx < options'.presetColumnWidths.length) ∧
        ∀ d ∈ col'.data, d.height.Resolves options' := by
    refine applyIf_returns (fun _ => ?_) (fun hsame => ?_)
    · refine (convertHeightsToAuto_returns g hdrop).mono ?_
      rintro col' ⟨hconv, hwidth', hauto⟩
      exact ⟨⟨hconv.coherent, hconv.ids_eq.trans hkept.ids_eq⟩, hwidth' ▸ hwidth,
        fun d hd => WindowHeight.resolves_of_isAuto (hauto d hd)⟩
    · have hlen := length_eq_of_not_bne hsame
      rw [hdrop.options_eq] at hlen
      exact ⟨hkept, hwidth, fun d hd =>
        WindowHeight.resolves_of_length_eq hlen (hdrop.presetHeights d hd)⟩
  refine hheights.bind ?_
  rintro col' ⟨hkept', hwidth', hres⟩
  have hopts := hkept'.coherent.withOptions hwidth' hres
  have hids := hopts.ids_eq.trans hkept'.ids_eq
  refine applyIf_returns (fun _ => ?_) (fun _ => ⟨hopts.coherent, hids⟩)
  exact (updateTileSizes_returns hopts.coherent).mono fun col'' hkept'' =>
    ⟨hkept''.coherent, hkept''.ids_eq.trans hids⟩

theorem focusIndex_returns (h : Coherent options col) (index : Nat) :
    Returns (col.focusIndex index) (Kept options col) := by
  have hlt := h.active_lt
  exact (activateIdx_returns h (by omega)).bind fun _ hkept => returns_pure hkept

theorem focusUp_returns (h : Coherent options col) :
    Returns col.focusUp fun p => Kept options col p.1 := by
  have hlt := h.active_lt
  exact activateIdx_returns h (by omega)

theorem focusDown_returns (h : Coherent options col) :
    Returns col.focusDown fun p => Kept options col p.1 := by
  have hlt := h.active_lt
  exact activateIdx_returns h (by omega)

theorem focusTop_returns (h : Coherent options col) :
    Returns col.focusTop (Kept options col) := by
  have hlt := h.active_lt
  exact (activateIdx_returns h (by omega)).bind fun _ hkept => returns_pure hkept

theorem focusBottom_returns (h : Coherent options col) :
    Returns col.focusBottom (Kept options col) := by
  have hlt := h.active_lt
  exact (activateIdx_returns h (by omega)).bind fun _ hkept => returns_pure hkept

/-- The tiles move together with their data. -/
theorem moveTo_returns (h : Coherent options col) {newIdx : Nat} (hidx : newIdx < col.tiles.length) :
    Returns (col.moveTo newIdx) fun p => Coherent options p.1 ∧ p.1.ids.Perm col.ids := by
  rw [moveTo]
  refine returns_early ⟨h, List.Perm.refl _⟩ fun _ => ?_
  refine (Vec.swap_returns h.active_lt hidx).bind fun tiles htiles => ?_
  have hactive : col.activeTileIdx < col.data.length := h.data_length ▸ h.active_lt
  refine (Vec.swap_returns hactive (h.data_length ▸ hidx)).bind fun data hdata => ?_
  refine returns_pure ⟨?_, htiles.map Tile.id⟩
  exact
    { data_length := by
        show data.length = tiles.length
        rw [hdata.length_eq, htiles.length_eq, h.data_length]
      one_height := hdata.countP_eq _ ▸ h.one_height
      presetHeights := fun d hd => h.presetHeights d (hdata.mem_iff.mp hd)
      presetWidth := h.presetWidth
      options_eq := h.options_eq
      active_lt := htiles.length_eq ▸ hidx
      pending := htiles.length_eq ▸ h.pending }

theorem moveUp_returns (h : Coherent options col) :
    Returns col.moveUp fun p => Coherent options p.1 ∧ p.1.ids.Perm col.ids := by
  have hlt := h.active_lt
  exact moveTo_returns h (by omega)

theorem moveDown_returns (h : Coherent options col) :
    Returns col.moveDown fun p => Coherent options p.1 ∧ p.1.ids.Perm col.ids := by
  have hlt := h.active_lt
  exact moveTo_returns h (by omega)

/-- A change that only gives up a preset width or the maximized mode. -/
theorem Coherent.resized (h : Coherent options col) (width : ColumnWidth F) (isFullWidth : Bool) :
    Coherent options { col with
      width := width, presetWidthIdx := none, isFullWidth := isFullWidth,
      isPendingMaximized := false } :=
  { h with
    presetWidth := by simp
    pending := fun hp => h.pending (hp.imp_right (by simp)) }

/-- The tile an operation is about: the given one, or the active one. -/
theorem tileIdx_lt (h : Sound options col) {tileIdx : Option Nat}
    (hidx : ∀ idx ∈ tileIdx, idx < col.tiles.length) :
    tileIdx.getD col.activeTileIdx < col.tiles.length := by
  cases tileIdx with
  | none => exact h.active_lt
  | some idx => exact hidx idx rfl

theorem setColumnWidth_returns (g : Geometry W F) (h : Coherent options col) (change : SizeChange F)
    {tileIdx : Option Nat} (hidx : ∀ idx ∈ tileIdx, idx < col.tiles.length) :
    Returns (col.setColumnWidth g change tileIdx) (Kept options col) := by
  refine (Vec.check_returns _ (tileIdx_lt h.toSound hidx)).bind fun _ _ => ?_
  refine (updateTileSizes_returns (h.resized _ false)).mono fun col' hkept => ?_
  exact ⟨hkept.coherent, hkept.ids_eq⟩

theorem nextPreset_lt {presets : List (PresetSize F)} (hne : presets ≠ []) (current : Option Nat)
    (forwards : Bool) (smaller bigger : PresetSize F → Bool) :
    nextPreset presets current forwards smaller bigger < presets.length := by
  have hpos : 0 < presets.length := List.length_pos_iff.mpr hne
  cases current with
  | some idx => exact Nat.mod_lt _ hpos
  | none =>
    simp only [nextPreset]
    split
    · cases hfind : presets.findIdx? smaller with
      | none => exact hpos
      | some idx => exact (List.findIdx?_eq_some_iff_getElem.mp hfind).1
    · cases hfind : Vec.rposition presets bigger with
      | none => exact Nat.sub_lt hpos Nat.one_pos
      | some idx => exact Vec.rposition_lt hfind

theorem toggleWidth_returns (g : Geometry W F) (h : Coherent options col) (forwards : Bool)
    {tileIdx : Option Nat} (hidx : ∀ idx ∈ tileIdx, idx < col.tiles.length) :
    Returns (col.toggleWidth g tileIdx forwards) (Kept options col) := by
  have hlt := tileIdx_lt h.toSound hidx
  have hpreset : ∀ current, nextPreset col.options.presetColumnWidths current forwards
      (g.narrower col (tileIdx.getD col.activeTileIdx))
      (g.wider col (tileIdx.getD col.activeTileIdx)) < col.options.presetColumnWidths.length :=
    fun current => nextPreset_lt col.options.presetColumnWidths_ne current forwards _ _
  refine (Vec.check_returns _ hlt).bind fun _ _ => ?_
  refine (Vec.getElem?_returns (hpreset _)).bind fun preset _ => ?_
  refine (setColumnWidth_returns g h _ (by simpa using hlt)).bind fun col' hkept => ?_
  refine returns_pure ⟨{ hkept.coherent with presetWidth := ?_ }, hkept.ids_eq⟩
  rintro _ ⟨⟩
  exact h.options_eq ▸ hpreset _

theorem toggleFullWidth_returns (h : Coherent options col) :
    Returns col.toggleFullWidth (Kept options col) := by
  rw [toggleFullWidth]
  split
  · have hcoherent : Coherent options { col with isPendingMaximized := false, isFullWidth := false } :=
      { h with pending := fun hp => h.pending (hp.imp_right (by simp)) }
    exact (updateTileSizes_returns hcoherent).mono fun _ hkept => ⟨hkept.coherent, hkept.ids_eq⟩
  · have hcoherent : Coherent options { col with isFullWidth := !col.isFullWidth } := { h with }
    exact (updateTileSizes_returns hcoherent).mono fun _ hkept => ⟨hkept.coherent, hkept.ids_eq⟩

theorem Coherent.setHeightAt (h : Coherent options col) {idx : Nat} {height : WindowHeight F}
    (hidx : idx < col.data.length) (hres : height.Resolves options)
    (hroom : height.isAuto = true ∨ (∀ d ∈ col.data, d.height.isAuto = true) ∨
      ∀ d, col.data[idx]? = some d → d.height.isAuto = false) :
    Coherent options (col.setHeightAt idx height) := by
  refine h.withData List.length_set ?_ fun d hd => ?_
  · have hone := h.one_height
    have hnew : (if (!height.isAuto) = true then 1 else 0) ≤ 1 := by split <;> omega
    rw [List.countP_set hidx]
    rcases hroom with hauto | hauto | hown
    · rw [hauto]
      exact Nat.le_trans (Nat.sub_le _ _) hone
    · have hzero : col.data.countP (fun d => !d.height.isAuto) = 0 :=
        List.countP_eq_zero.mpr fun d hd => by simp [hauto d hd]
      rw [hzero, Nat.zero_sub, Nat.zero_add]
      exact hnew
    · rw [hown _ (List.getElem?_eq_getElem hidx), Bool.not_false, if_pos rfl,
        Nat.sub_eq_zero_of_le hone, Nat.zero_add]
      exact hnew
  · rcases List.mem_or_eq_of_mem_set hd with hmem | rfl
    · exact h.presetHeights d hmem
    · exact hres

/-- After `freeHeights` the tile can get any height. -/
theorem freeHeights_returns (g : Geometry W F) (h : Coherent options col) {idx : Nat}
    (hidx : idx < col.tiles.length) :
    Returns (col.freeHeights g idx) fun col' =>
      Kept options col col' ∧ ∀ height : WindowHeight F, height.Resolves options →
        Coherent options (col'.setHeightAt idx height) := by
  have hdata : idx < col.data.length := h.data_length ▸ hidx
  refine (Vec.getElem?_returns hdata).bind fun d hd => ?_
  refine returns_ite (fun _ => ?_) (fun hown => ?_)
  · refine (convertHeightsToAuto_returns g h).mono ?_
    rintro col' ⟨hkept, -, hauto⟩
    refine ⟨hkept, fun height hres => hkept.coherent.setHeightAt ?_ hres (Or.inr (Or.inl hauto))⟩
    rw [hkept.coherent.data_length, ← length_ids, hkept.ids_eq, length_ids]
    exact hidx
  · refine returns_some ⟨⟨h, rfl⟩, fun height hres => h.setHeightAt hdata hres ?_⟩
    refine Or.inr (Or.inr fun d' hd' => ?_)
    obtain rfl : d = d' := Option.some.inj (hd.symm.trans hd')
    simpa using hown

theorem Coherent.unmaximized (h : Coherent options col) :
    Coherent options { col with isPendingMaximized := false } :=
  { h with pending := fun hp => h.pending (hp.imp_right (by simp)) }

theorem Kept.length_eq {col' : Column W F} (h : Kept options col col') :
    col'.tiles.length = col.tiles.length := by
  rw [← length_ids, h.ids_eq, length_ids]

theorem setWindowHeight_returns (g : Geometry W F) (h : Coherent options col) (change : SizeChange F)
    {tileIdx : Option Nat} (hidx : ∀ idx ∈ tileIdx, idx < col.tiles.length) :
    Returns (col.setWindowHeight g change tileIdx) (Kept options col) := by
  have hlt := tileIdx_lt h.toSound hidx
  refine (freeHeights_returns g h hlt).bind ?_
  rintro col' ⟨hkept, hset⟩
  refine (Vec.check_returns true (hkept.length_eq ▸ hlt)).bind fun _ _ => ?_
  have hcoherent := (hset (.fixed (g.newHeight col' change (tileIdx.getD col.activeTileIdx)))
    trivial).unmaximized
  exact (updateTileSizes_returns hcoherent).mono fun _ hkept' =>
    ⟨hkept'.coherent, hkept'.ids_eq.trans hkept.ids_eq⟩

theorem resetWindowHeight_returns [One F] (h : Coherent options col) {tileIdx : Option Nat}
    (hidx : ∀ idx ∈ tileIdx, idx < col.tiles.length) :
    Returns (col.resetWindowHeight tileIdx) (Kept options col) := by
  have hlt := tileIdx_lt h.toSound hidx
  have hdata : tileIdx.getD col.activeTileIdx < col.data.length := h.data_length ▸ hlt
  rw [resetWindowHeight]
  refine returns_ite (fun _ => ?_) (fun _ => ?_)
  · have hcoherent : Coherent options { col with data := col.data.map fun _ => ⟨.auto1⟩ } := by
      refine h.withAutoData (List.length_map _) fun d hd => ?_
      obtain ⟨_, _, rfl⟩ := List.mem_map.mp hd
      rfl
    exact (updateTileSizes_returns hcoherent).mono fun _ hkept => ⟨hkept.coherent, hkept.ids_eq⟩
  · refine (Vec.check_returns true hdata).bind fun _ _ => ?_
    have hcoherent : Coherent options (col.setHeightAt (tileIdx.getD col.activeTileIdx) .auto1) :=
      h.setHeightAt hdata trivial (Or.inl rfl)
    exact (updateTileSizes_returns hcoherent).mono fun _ hkept => ⟨hkept.coherent, hkept.ids_eq⟩

theorem toggleWindowHeight_returns (g : Geometry W F) (h : Coherent options col) (forwards : Bool)
    {tileIdx : Option Nat} (hidx : ∀ idx ∈ tileIdx, idx < col.tiles.length) :
    Returns (col.toggleWindowHeight g tileIdx forwards) (Kept options col) := by
  have hlt := tileIdx_lt h.toSound hidx
  refine (freeHeights_returns g h hlt).bind ?_
  rintro col' ⟨hkept, hset⟩
  have hlt' : tileIdx.getD col.activeTileIdx < col'.tiles.length := hkept.length_eq ▸ hlt
  have hdata : tileIdx.getD col.activeTileIdx < col'.data.length :=
    hkept.coherent.data_length ▸ hlt'
  refine (Vec.getElem?_returns hdata).bind fun d _ => ?_
  refine (Vec.check_returns _ hlt').bind fun _ _ => ?_
  refine (updateTileSizes_returns (hset _ ?_).unmaximized).mono fun _ hkept' =>
    ⟨hkept'.coherent, hkept'.ids_eq.trans hkept.ids_eq⟩
  rw [WindowHeight.Resolves, ← hkept.coherent.options_eq]
  exact nextPreset_lt col'.options.presetWindowHeights_ne _ forwards _ _

/-- A column that changes its display: it stays sound, and only a tabbed column
    that becomes a normal one may have to leave its sizing mode. -/
theorem setColumnDisplay_sound (h : Coherent options col) (display : ColumnDisplay) :
    Returns (col.setColumnDisplay display) fun col' =>
      Sound options col' ∧ col'.ids = col.ids ∧ col'.displayMode = display := by
  rw [setColumnDisplay]
  refine returns_ite (fun heq => returns_some ⟨h.toSound, rfl, heq⟩) (fun _ => ?_)
  have hsound : Sound options { col with displayMode := display } := { h.toSound with }
  refine (updateTileSizes_sound hsound).mono ?_
  rintro _ ⟨mode, rfl⟩
  exact ⟨hsound.request mode, ids_request _ mode, rfl⟩

/-- Leaving a sizing mode is possible in any column. -/
theorem setFullscreen_false_sound (h : Sound options col) :
    Returns (col.setFullscreen false) fun col' =>
      Sound options col' ∧ col'.ids = col.ids ∧ col'.isPendingFullscreen = false := by
  rw [setFullscreen]
  refine returns_ite (fun heq => returns_some ⟨h, rfl, heq⟩) (fun _ => ?_)
  have hsound : Sound options { col with isPendingFullscreen := false } := { h with }
  rw [if_neg (by simp)]
  refine (updateTileSizes_sound hsound).mono ?_
  rintro _ ⟨mode, rfl⟩
  exact ⟨hsound.request mode, ids_request _ mode, rfl⟩

theorem setMaximized_false_sound (h : Sound options col) (hfull : col.isPendingFullscreen = false) :
    Returns (col.setMaximized false) (Kept options col) := by
  rw [setMaximized]
  refine returns_ite (fun heq => returns_some ⟨{ h with pending := ?_ }, rfl⟩) (fun _ => ?_)
  · simp [hfull, heq]
  · have hcoherent : Coherent options { col with isPendingMaximized := false } :=
      { h with pending := by simp [hfull] }
    rw [if_neg (by simp)]
    exact (updateTileSizes_returns hcoherent).mono fun _ hkept => ⟨hkept.coherent, hkept.ids_eq⟩

end Column

end Cidre.Layout
