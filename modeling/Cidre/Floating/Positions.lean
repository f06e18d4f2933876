/-
  Cidre.Floating.Positions

  Floating windows stay on screen, and come back to where they were.

  A position is kept as a fraction of the working area and clamped only where it is
  read.  So it survives a working area that it does not fit into, and being stored in a
  tile that goes and comes back.
-/

import Cidre.Floating.Run

namespace Cidre.Floating

open Cidre.Panic
open Cidre.Stacking
open Cidre.Utils.Logical

variable {W F : Type}

namespace FloatingSpace

/-- The working area has room for the least amount of a window. -/
def Roomy (s : FloatingSpace W F) : Prop :=
  10 ≤ s.workingArea.size.w ∧ 10 ≤ s.workingArea.size.h

instance (s : FloatingSpace W F) : Decidable s.Roomy :=
  inferInstanceAs (Decidable (10 ≤ s.workingArea.size.w ∧ 10 ≤ s.workingArea.size.h))

/-- A tile is on screen by its least amount, or as a whole, or covers the area. -/
def OnScreen (s : FloatingSpace W F) (e : Tile W F × Data) : Prop :=
  min (min e.1.tileSize.w s.workingArea.size.w) (minOnScreen e.1.tileSize.w) ≤ e.2.onScreen.w ∧
    min (min e.1.tileSize.h s.workingArea.size.h) (minOnScreen e.1.tileSize.h) ≤ e.2.onScreen.h

theorem map_snd_entries {s : FloatingSpace W F} (h : s.data.length = s.tiles.length) :
    s.entries.map Prod.snd = s.data :=
  List.map_snd_zip (Nat.le_of_eq h)

variable [DecidableEq W] {parent : W → Option W} {s : FloatingSpace W F}

theorem Sound.onScreen (h : s.Sound parent) (hroomy : s.Roomy) {e : Tile W F × Data}
    (he : e ∈ s.entries) : s.OnScreen e := by
  have hupToDate := h.entries.upToDate e he
  rw [Roomy, ← hupToDate.workingArea_eq] at hroomy
  rw [OnScreen, ← hupToDate.workingArea_eq, ← hupToDate.size_eq]
  exact hupToDate.cached.le_onScreen hroomy.1 hroomy.2

/-- The working area and the sizes of the tiles change, and change back. -/
theorem Sound.updateConfig_back (h : s.Sound parent) (area : Rectangle)
    (options options' : Layout.Options F) {f g : Tile W F → Size}
    (hback : ∀ tile ∈ s.tiles,
      g { tile.updateConfig options with tileSize := f tile } = tile.tileSize) :
    ((s.updateConfig area options f).updateConfig s.workingArea options' g).data = s.data := by
  have hchanged := (h.updateConfig area options f).1
  rw [← map_snd_entries (hchanged.updateConfig s.workingArea options' g).1.length_eq,
    ← map_snd_entries h.length_eq, entries_updateConfig, entries_updateConfig, List.map_map,
    List.map_map]
  refine List.map_congr_left fun e he => ?_
  have hupToDate := h.entries.upToDate e he
  have htile : e.1 ∈ s.tiles := (List.of_mem_zip (show (e.1, e.2) ∈ s.tiles.zip s.data from he)).1
  show (((e.2.update (f e.1)).updateConfig area).update _).updateConfig s.workingArea = e.2
  rw [hback e.1 htile, ← hupToDate.size_eq, ← hupToDate.workingArea_eq]
  exact hupToDate.cached.back ((hupToDate.cached.update _).updateConfig _) (by simp)

/-- A tile that goes and comes back is where it was. -/
theorem Sound.put_back (h : s.Sound parent) (hroomy : s.Roomy) {id : W} (hid : id ∈ s.ids)
    (activate : Bool) :
    Returns (s.removeTile id) fun p => p.1.id = id ∧
      Returns (p.2.addTile (isChildOf parent) p.1 activate) fun s' =>
        ∀ e ∈ s.entries, e.1.id = id → ∃ e' ∈ s'.entries, e'.1.id = id ∧ e'.2 = e.2 := by
  have hwith := h.withEntries_eq
  rw [← map_id_entries h.length_eq] at hid
  rw [← hwith]
  refine (removeTile_returns hid).mono ?_
  rintro ⟨tile, s₁⟩ ⟨pre, e₀, l, hes, hid₀, hid', hsize, hpos, rfl⟩
  refine ⟨hid', ?_⟩
  refine (addTileAt_returns (Nat.zero_le _) tile activate).mono ?_
  rintro s₂ ⟨pre', e', l', -, hid'', -, hdata, -, rfl⟩ e he hide
  rw [entries_withEntries] at he
  rw [entries_withEntries]
  refine ⟨e', mem_broughtUp.mpr (List.mem_append_right _ List.mem_cons_self), hid''.trans hid', ?_⟩
  -- The window has one tile.
  have he₀ : e₀ ∈ s.entries := by
    rw [hes]
    exact List.mem_append_right _ List.mem_cons_self
  obtain rfl := List.inj_on_of_nodup_map h.entries.nodup he he₀ (hide.trans hid₀.symm)
  have hupToDate := h.entries.upToDate e he
  have hstored : (s.storedOrDefaultTilePos tile).getD
      (centerPreferringTopLeftInArea s.workingArea tile.tileSize) =
        Data.scaleByWorkingArea s.workingArea e.2.pos := by
    rw [storedOrDefaultTilePos, hpos]
    rfl
  have hput : e'.2 = Data.new s.workingArea tile.tileSize
      (Data.scaleByWorkingArea s.workingArea e.2.pos) := by
    rw [← hstored]
    exact hdata
  obtain ⟨hw, hh⟩ := hroomy
  rw [hput, hsize, ← hupToDate.size_eq, ← hupToDate.workingArea_eq]
  rw [← hupToDate.workingArea_eq] at hw hh
  exact hupToDate.cached.put_back (le_trans (by norm_num) hw) (le_trans (by norm_num) hh)

end FloatingSpace

variable [DecidableEq W] {parent : W → Option W} {s : FloatingSpace W F}

/-- In every run a position is what it is recomputed to, leaves the tile on screen, and
    comes back with the working area, or with the tile. -/
theorem Reachable.positions_kept (h : Reachable parent s) :
    (∀ e ∈ s.entries, e.2.Cached ∧ e.2.size = e.1.tileSize ∧ e.2.workingArea = s.workingArea) ∧
      (s.Roomy → ∀ e ∈ s.entries, s.OnScreen e) ∧
      (∀ (area : Rectangle) (options options' : Layout.Options F) (f g : Tile W F → Size),
        (∀ tile ∈ s.tiles,
          g { tile.updateConfig options with tileSize := f tile } = tile.tileSize) →
            ((s.updateConfig area options f).updateConfig s.workingArea options' g).data =
              s.data) ∧
      (s.Roomy → ∀ id ∈ s.ids, ∀ activate,
        Returns (s.removeTile id) fun p => p.1.id = id ∧
          Returns (p.2.addTile (isChildOf parent) p.1 activate) fun s' =>
            ∀ e ∈ s.entries, e.1.id = id → ∃ e' ∈ s'.entries, e'.1.id = id ∧ e'.2 = e.2) := by
  obtain ⟨-, hsound⟩ := h.sound
  refine ⟨fun e he => ?_, fun hroomy e he => hsound.onScreen hroomy he,
    fun area options options' f g hback => hsound.updateConfig_back area options options' hback,
    fun hroomy id hid activate => hsound.put_back hroomy hid activate⟩
  have hupToDate := hsound.entries.upToDate e he
  exact ⟨hupToDate.cached, hupToDate.size_eq, hupToDate.workingArea_eq⟩

/-! ## A window that is larger than the area -/

def slot : Rectangle := ⟨⟨0, 0⟩, ⟨20, 20⟩⟩

/-- A quarter of the window is more than the area has room for. -/
theorem large_window_covers_slot :
    ∃ s : FloatingSpace Nat Nat, Reachable (fun _ => none) s ∧ s.Roomy ∧ ∃ e ∈ s.entries,
      10 ≤ e.1.tileSize.w ∧ 10 ≤ e.1.tileSize.h ∧
        e.2.onScreen.w < min e.1.tileSize.w (minOnScreen e.1.tileSize.w) := by
  have h₁ : Reachable (fun _ => none) _ := Reachable.step (.addTile (mapped 7 ⟨100, 100⟩) true)
    (Reachable.new slot Layout.ScrollingSpace.onePreset acyclic_none) List.not_mem_nil rfl
  refine ⟨_, h₁, by decide +kernel, _, List.mem_singleton_self _, by decide +kernel, by decide +kernel,
    by decide +kernel⟩

/-- The same window on a screen it fits into, which shrinks to the slot for a while. -/
theorem positions_kept_on_screen :
    ∃ s : FloatingSpace Nat Nat, Reachable (fun _ => none) s ∧ s.Roomy ∧ s.ids = [7] ∧
      (∀ e ∈ s.entries, s.OnScreen e) ∧
      ((s.updateConfig slot s.options fun tile => tile.tileSize).updateConfig screen s.options
        fun tile => tile.tileSize).data = s.data := by
  have h₁ : Reachable (fun _ => none) _ := Reachable.step (.addTile (mapped 7 ⟨100, 100⟩) true)
    (Reachable.new screen Layout.ScrollingSpace.onePreset acyclic_none) List.not_mem_nil rfl
  obtain ⟨-, honScreen, hback, -⟩ := h₁.positions_kept
  exact ⟨_, h₁, by decide +kernel, rfl, honScreen (by decide +kernel),
    hback slot _ _ (fun tile => tile.tileSize) (fun tile => tile.tileSize) fun _ _ => rfl⟩

end Cidre.Floating
