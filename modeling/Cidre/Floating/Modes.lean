/-
  Cidre.Floating.Modes

  A window in the floating layout is to be neither fullscreen nor maximized: it is asked
  for the normal mode as it comes in, and for no other as long as it is there.
-/

import Cidre.Floating.Run
import Cidre.Lib.Ensures

namespace Cidre.Floating.FloatingSpace

open Cidre.Panic
open Cidre.Utils.Logical

variable {W F : Type}

def Normal (s : FloatingSpace W F) : Prop :=
  ∀ tile ∈ s.tiles, tile.pendingSizingMode = .normal

variable [DecidableEq W] {s : FloatingSpace W F}

omit [DecidableEq W] in
theorem raiseWindow_tiles (s : FloatingSpace W F) (fromIdx toIdx : Nat) :
    Ensures (s.raiseWindow fromIdx toIdx) fun s' => ∀ tile ∈ s'.tiles, tile ∈ s.tiles := by
  refine ensures_ite (fun _ => ?_) (fun _ => ensures_none)
  refine (Vec.remove_ensures _ _).bind ?_
  rintro ⟨tile, tiles⟩ ⟨htile, htiles⟩
  refine (ensures_true _).bind fun d _ => ?_
  refine (Vec.insert_ensures tiles toIdx tile).bind fun tiles' htiles' => ?_
  refine (ensures_true _).bind fun data _ => ensures_pure fun a ha => ?_
  rcases htiles' a ha with rfl | hold
  · exact htile
  · exact htiles a hold

omit [DecidableEq W] in
theorem raiseAll_tiles (descendants : List Nat) (idx : Nat) (s : FloatingSpace W F) :
    Ensures (raiseAll descendants idx s) fun s' => ∀ tile ∈ s'.tiles, tile ∈ s.tiles := by
  induction descendants generalizing idx s with
  | nil => exact ensures_some fun _ ha => ha
  | cons descendantIdx descendants ih =>
    refine (raiseWindow_tiles s descendantIdx idx).bind fun s₁ h₁ => ?_
    exact (ih (idx + 1) s₁).mono fun _ h₂ a ha => h₁ a (h₂ a ha)

variable {isChildOf : W → W → Bool}

omit [DecidableEq W] in
theorem bringUpDescendantsOf_tiles (s : FloatingSpace W F) (idx : Nat) :
    Ensures (s.bringUpDescendantsOf isChildOf idx) fun s' => ∀ tile ∈ s'.tiles, tile ∈ s.tiles :=
  (ensures_true _).bind fun _ _ => raiseAll_tiles _ idx s

omit [DecidableEq W] in
theorem addTileAt_normal (h : s.Normal) (idx : Nat) (tile : Tile W F) (activate : Bool) :
    Ensures (s.addTileAt isChildOf idx tile activate) Normal := by
  refine (ensures_true _).bind fun data _ => ?_
  refine (Vec.insert_ensures _ _ _).bind fun tiles htiles => ?_
  refine (bringUpDescendantsOf_tiles _ _).mono fun s' htiles' a ha => ?_
  rcases htiles a (htiles' a ha) with rfl | hold
  · rfl
  · exact h a hold

theorem addTileAbove_normal (h : s.Normal) (above : W) (tile : Tile W F) (activate : Bool) :
    Ensures (s.addTileAbove isChildOf above tile activate) Normal :=
  (ensures_true _).bind fun _ _ => (ensures_true _).bind fun _ _ => addTileAt_normal h _ _ activate

theorem removeTile_normal (h : s.Normal) (id : W) :
    Ensures (s.removeTile id) fun p => p.1.pendingSizingMode = .normal ∧ p.2.Normal := by
  refine (ensures_true _).bind fun idx _ => (Vec.remove_ensures _ _).bind ?_
  rintro ⟨tile, tiles⟩ ⟨htile, htiles⟩
  exact (ensures_true _).bind fun d _ =>
    ensures_pure ⟨h tile htile, fun a ha => h a (htiles a ha)⟩

theorem removeActiveTile_normal (h : s.Normal) :
    Ensures s.removeActiveTile fun p => p.2.Normal := by
  rw [removeActiveTile]
  cases s.activeWindowId with
  | none => exact ensures_some h
  | some id => exact (removeTile_normal h id).bind fun p hp => ensures_pure hp.2

theorem activateWindow_normal (h : s.Normal) (id : W) :
    Ensures (s.activateWindow isChildOf id) fun p => p.1.Normal := by
  rw [activateWindow]
  cases s.idxOf id with
  | none => exact ensures_some h
  | some idx =>
    refine (raiseWindow_tiles s idx 0).bind fun s₁ h₁ => ?_
    refine (bringUpDescendantsOf_tiles _ 0).bind fun s₂ h₂ => ?_
    exact ensures_pure fun a ha => h a (h₁ a (h₂ a ha))

theorem activateWindowWithoutRaising_normal (h : s.Normal) (id : W) :
    (s.activateWindowWithoutRaising id).1.Normal := by
  rw [activateWindowWithoutRaising]
  split
  · exact h
  · exact h

theorem focusDirectional_normal (h : s.Normal) (direction : Direction) :
    Ensures (s.focusDirectional isChildOf direction) fun p => p.1.Normal := by
  refine (ensures_true _).bind fun target _ => ?_
  cases target with
  | none => exact ensures_pure h
  | some id => exact (activateWindow_normal h id).bind fun p hp => ensures_pure hp

theorem focusEdge_normal (h : s.Normal) (edge : Edge) :
    Ensures (s.focusEdge isChildOf edge) Normal := by
  rw [focusEdge]
  cases s.edgeTarget edge with
  | none => exact ensures_some h
  | some id => exact (activateWindow_normal h id).bind fun p hp => ensures_pure hp

theorem parentChanged_normal (h : s.Normal) (newParent : Option W) :
    Ensures (s.parentChanged isChildOf newParent) Normal := by
  cases newParent with
  | none => exact ensures_some h
  | some id =>
    have hadded : Ensures (s.descendantsAdded isChildOf id) fun p => p.1.Normal := by
      rw [descendantsAdded]
      cases s.idxOf id with
      | none => exact ensures_some h
      | some idx =>
        exact (bringUpDescendantsOf_tiles s idx).bind fun s₁ h₁ =>
          ensures_pure fun a ha => h a (h₁ a ha)
    exact hadded.bind fun p hp => ensures_pure hp

omit [DecidableEq W] in
theorem tilesMut_normal (h : s.Normal) {f : Tile W F → Tile W F}
    (hf : ∀ tile, (f tile).pendingSizingMode = tile.pendingSizingMode) : (s.tilesMut f).Normal := by
  intro tile htile
  obtain ⟨tile₀, htile₀, rfl⟩ := List.mem_map.mp htile
  rw [hf]
  exact h tile₀ htile₀

omit [DecidableEq W] in
theorem updateConfig_normal (h : s.Normal) (workingArea : Rectangle) (options : Layout.Options F)
    (tileSize : Tile W F → Size) : (s.updateConfig workingArea options tileSize).Normal := by
  intro tile htile
  obtain ⟨tile₀, htile₀, rfl⟩ := List.mem_map.mp htile
  exact h tile₀ htile₀

theorem updateWindow_normal (h : s.Normal) (id : W) (mode : Layout.SizingMode) (tileSize : Size)
    (edges : Option Layout.ResizeEdge) :
    Ensures (s.updateWindow id mode tileSize edges) fun p => p.1.Normal := by
  rw [updateWindow]
  cases s.idxOf id with
  | none => exact ensures_some h
  | some idx =>
    refine (ensures_self _).bind fun tile htile => (ensures_true _).bind fun d _ => ?_
    refine ensures_pure fun a ha => ?_
    rcases List.mem_or_eq_of_mem_set ha with hold | rfl
    · exact h a hold
    · exact h tile (List.mem_of_getElem? htile)

theorem moveTarget_normal (h : s.Normal) (id : Option W) (newPos : Data → Point) :
    Ensures (s.moveTarget id newPos) Normal := by
  rw [moveTarget]
  cases id.orElse fun _ => s.activeWindowId with
  | none => exact ensures_some h
  | some id =>
    refine (ensures_true _).bind fun idx _ => (ensures_true _).bind fun d _ => ?_
    exact (ensures_true _).bind fun _ _ => ensures_pure h

end FloatingSpace

open Cidre.Panic

variable {W F : Type} [DecidableEq W] {parent : W → Option W} {s : FloatingSpace W F}

theorem Op.run_normal {op : Op W F} (h : s.Normal) (hvalid : op.Valid parent s)
    (parents : W → Option W) : Ensures (op.run parents s) FloatingSpace.Normal := by
  cases op with
  | addTile tile activate => exact FloatingSpace.addTileAt_normal h 0 tile activate
  | addTileAbove above tile activate => exact FloatingSpace.addTileAbove_normal h above tile activate
  | removeTile id => exact (FloatingSpace.removeTile_normal h id).map fun _ hp => hp.2
  | removeActiveTile => exact (FloatingSpace.removeActiveTile_normal h).map fun _ hp => hp
  | activateWindow id => exact (FloatingSpace.activateWindow_normal h id).map fun _ hp => hp
  | activateWindowWithoutRaising id =>
    exact ensures_some (FloatingSpace.activateWindowWithoutRaising_normal h id)
  | focusDirectional direction =>
    exact (FloatingSpace.focusDirectional_normal h direction).map fun _ hp => hp
  | focusEdge edge => exact FloatingSpace.focusEdge_normal h edge
  | setParent window newParent => exact FloatingSpace.parentChanged_normal h newParent
  | tilesMut f => exact ensures_some (FloatingSpace.tilesMut_normal h fun tile => (hvalid tile).2.2)
  | updateConfig workingArea options tileSize =>
    exact ensures_some (FloatingSpace.updateConfig_normal h workingArea options tileSize)
  | updateWindow id mode tileSize edges =>
    exact (FloatingSpace.updateWindow_normal h id mode tileSize edges).map fun _ hp => hp
  | moveBy amount => exact FloatingSpace.moveTarget_normal h none _
  | moveWindow id x y => exact FloatingSpace.moveTarget_normal h id _
  | centerWindow id => exact FloatingSpace.moveTarget_normal h id _

end Cidre.Floating
