/-
  Cidre.Floating.Run

  Runs of the floating layout: any sequence of its operations, and of changes of the
  parents of windows, each followed by what the layout does about it.
-/

import Cidre.Floating.Order
import Cidre.Layout.Reachable

namespace Cidre.Floating

open Cidre.Panic
open Cidre.Utils.Logical

variable {W F : Type}

/-! ## Operations -/

inductive Op (W F : Type) where
  | addTile (tile : Tile W F) (activate : Bool)
  | addTileAbove (above : W) (tile : Tile W F) (activate : Bool)
  | removeTile (id : W)
  | removeActiveTile
  | activateWindow (id : W)
  | activateWindowWithoutRaising (id : W)
  | focusDirectional (direction : FloatingSpace.Direction)
  | focusEdge (edge : FloatingSpace.Edge)
  /-- and `descendants_added` of the new parent -/
  | setParent (window : W) (newParent : Option W)
  | tilesMut (f : Tile W F → Tile W F)
  | updateConfig (workingArea : Rectangle) (options : Layout.Options F) (tileSize : Tile W F → Size)
  | updateWindow (id : W) (mode : Layout.SizingMode) (tileSize : Size)
      (edges : Option Layout.ResizeEdge)
  | moveBy (amount : Point)
  | moveWindow (id : Option W) (x y : PositionChange)
  | centerWindow (id : Option W)

namespace Op

variable [DecidableEq W]

/-- The parents of the windows at the time of the call. -/
def parents (parent : W → Option W) : Op W F → W → Option W
  | setParent window newParent => Function.update parent window newParent
  | _ => parent

def run (parent : W → Option W) (s : FloatingSpace W F) : Op W F → Option (FloatingSpace W F)
  | addTile tile activate => s.addTile (isChildOf parent) tile activate
  | addTileAbove above tile activate => s.addTileAbove (isChildOf parent) above tile activate
  | removeTile id => (s.removeTile id).map Prod.snd
  | removeActiveTile => s.removeActiveTile.map Prod.snd
  | activateWindow id => (s.activateWindow (isChildOf parent) id).map Prod.fst
  | activateWindowWithoutRaising id => some (s.activateWindowWithoutRaising id).1
  | focusDirectional direction =>
      (s.focusDirectional (isChildOf parent) direction).map Prod.fst
  | focusEdge edge => s.focusEdge (isChildOf parent) edge
  | setParent _ newParent => s.parentChanged (isChildOf parent) newParent
  | tilesMut f => some (s.tilesMut f)
  | updateConfig workingArea options tileSize => some (s.updateConfig workingArea options tileSize)
  | updateWindow id mode tileSize edges => (s.updateWindow id mode tileSize edges).map Prod.fst
  | moveBy amount => s.moveBy amount
  | moveWindow id x y => s.moveWindow id x y
  | centerWindow id => s.centerWindow id

/-- A window is added once, is there when it is named, and never hangs on itself.  What
    is done to the tiles between the calls leaves what they are and how large they are. -/
def Valid (parent : W → Option W) (s : FloatingSpace W F) : Op W F → Prop
  | addTile tile _ => tile.id ∉ s.ids
  | addTileAbove above tile _ => above ∈ s.ids ∧ tile.id ∉ s.ids
  | removeTile id => id ∈ s.ids
  | moveWindow id _ _ | centerWindow id => ∀ w, id = some w → w ∈ s.ids
  | setParent window newParent => Acyclic (Function.update parent window newParent)
  | tilesMut f => ∀ tile, (f tile).id = tile.id ∧ (f tile).tileSize = tile.tileSize ∧
      (f tile).pendingSizingMode = tile.pendingSizingMode
  | _ => True

/-- The window that comes in, goes, or is raised, and what comes along with it. -/
def Moved (parent : W → Option W) (s : FloatingSpace W F) : Op W F → W → Prop
  | addTile tile _, w | addTileAbove _ tile _, w => HangsOn parent tile.id w
  | removeTile id, w => w = id
  | removeActiveTile, w => s.activeWindowId = some w
  | activateWindow id, w => HangsOn parent id w
  | focusDirectional direction, w =>
      ∃ id, s.directionalTarget direction = some (some id) ∧ HangsOn parent id w
  | focusEdge edge, w => ∃ id, s.edgeTarget edge = some id ∧ HangsOn parent id w
  | setParent _ newParent, w =>
      ∃ id, newParent = some id ∧ Relation.TransGen (fun a b => parent a = some b) w id
  | _, _ => False

/-- The window whose entry is new, or is not what it was. -/
def Changed (s : FloatingSpace W F) : Op W F → W → Prop
  | addTile tile _, w | addTileAbove _ tile _, w => w = tile.id
  | updateWindow id _ _ _, w => w = id
  | moveBy _, w => s.activeWindowId = some w
  | moveWindow id _ _, w | centerWindow id, w => (id.orElse fun _ => s.activeWindowId) = some w
  | tilesMut f, w => ∃ tile ∈ s.tiles, tile.id = w ∧ f tile ≠ tile
  | updateConfig _ _ _, _ => True
  | _, _ => False

/-- Whether the windows stay the same. -/
def rearranges : Op W F → Bool
  | addTile _ _ | addTileAbove _ _ _ | removeTile _ | removeActiveTile => false
  | _ => true

end Op

/-! ## Steps -/

variable [DecidableEq W] {parent : W → Option W} {s s' : FloatingSpace W F}

namespace FloatingSpace

theorem Sound.mem_of_active (h : s.Sound parent) {id : W} (hactive : s.activeWindowId = some id) :
    id ∈ s.ids := by
  obtain ⟨e, he, rfl⟩ := h.entries.active.mem id hactive
  rw [← map_id_entries h.length_eq]
  exact List.mem_map_of_mem he

/-- One of the windows is active, if there are any. -/
theorem Sound.exists_active (h : s.Sound parent) (hne : s.tiles ≠ []) :
    ∃ id ∈ s.ids, s.activeWindowId = some id := by
  cases hactive : s.activeWindowId with
  | none =>
    have hnil := h.entries.active.empty hactive
    rw [← List.length_eq_zero_iff, length_entries h.length_eq, List.length_eq_zero_iff] at hnil
    exact absurd hnil hne
  | some id => exact ⟨id, h.mem_of_active hactive, rfl⟩

theorem Sound.mem_of_target (h : s.Sound parent) {id : Option W} (hid : ∀ w, id = some w → w ∈ s.ids)
    (w : W) (hw : (id.orElse fun _ => s.activeWindowId) = some w) : w ∈ s.ids := by
  cases id with
  | none => exact h.mem_of_active hw
  | some id => exact hid w hw

theorem Sound.addTileAbove (h : s.Sound parent) (hacyclic : Acyclic parent) {above : W}
    (habove : above ∈ s.ids) {tile : Tile W F} (hnew : tile.id ∉ s.ids) (activate : Bool) :
    Returns (s.addTileAbove (isChildOf parent) above tile activate) fun s' =>
      s'.Sound parent ∧ Keeps (HangsOn parent tile.id) (· = tile.id) s s' := by
  obtain ⟨idx, hidx⟩ := idxOf_of_mem habove
  have hlt := (mem_of_idxOf hidx).2
  refine (returns_of_eq hidx).bind ?_
  rintro _ rfl
  refine (Vec.getElem?_returns (by rw [h.length_eq]; exact hlt)).bind fun d _ => ?_
  have hsound := fun pos => h.addTileAt hacyclic (Nat.le_of_lt hlt)
    { tile with floatingPos := pos } hnew activate
  have hkeeps := fun pos => h.addTileAt_keeps (Nat.le_of_lt hlt)
    { tile with floatingPos := pos } activate
  exact (hsound _).and (hkeeps _)

theorem Sound.removeActiveTile (h : s.Sound parent) :
    Returns s.removeActiveTile fun p => p.1.map (fun tile => tile.id) = s.activeWindowId ∧
      p.2.Sound parent ∧ Keeps (fun w => s.activeWindowId = some w) (fun _ => False) s p.2 := by
  rw [FloatingSpace.removeActiveTile]
  cases hactive : s.activeWindowId with
  | none => exact returns_some ⟨rfl, h, Keeps.refl _ _ _⟩
  | some id =>
    have hid := h.mem_of_active hactive
    refine ((h.removeTile hid).and (h.removeTile_keeps hid)).bind ?_
    rintro ⟨tile, s'⟩ ⟨⟨hid, hsound⟩, hkeeps⟩
    exact returns_pure ⟨congrArg some hid, hsound,
      hkeeps.mono (fun _ hw => congrArg some hw.symm) fun _ hw => hw⟩

theorem Sound.directionalTarget_returns (h : s.Sound parent) (direction : Direction) :
    Returns (s.directionalTarget direction) fun _ => True := by
  rw [directionalTarget]
  cases hactive : s.activeWindowId with
  | none => exact returns_some trivial
  | some id =>
    obtain ⟨idx, hidx⟩ := idxOf_of_mem (h.mem_of_active hactive)
    refine (returns_of_eq hidx).bind ?_
    rintro _ rfl
    refine (Vec.getElem?_returns (by rw [h.length_eq]; exact (mem_of_idxOf hidx).2)).bind ?_
    exact fun _ _ => returns_pure trivial

theorem Sound.focusDirectional (h : s.Sound parent) (hacyclic : Acyclic parent)
    (direction : Direction) :
    Returns (s.focusDirectional (isChildOf parent) direction) fun p =>
      p.1.Sound parent ∧ Keeps (fun w => ∃ id, s.directionalTarget direction = some (some id) ∧
        HangsOn parent id w) (fun _ => False) s p.1 := by
  obtain ⟨target, htarget, -⟩ := h.directionalTarget_returns direction
  refine (returns_of_eq htarget).bind ?_
  rintro _ rfl
  cases target with
  | none => exact returns_pure ⟨h, Keeps.refl _ _ _⟩
  | some id =>
    refine ((h.activateWindow hacyclic id).and (h.activateWindow_keeps id)).bind ?_
    rintro ⟨s', answer⟩ ⟨hsound, hkeeps⟩
    exact returns_pure ⟨hsound, hkeeps.mono (fun _ hw => ⟨id, htarget, hw⟩) fun _ hw => hw⟩

theorem Sound.focusEdge (h : s.Sound parent) (hacyclic : Acyclic parent) (edge : Edge) :
    Returns (s.focusEdge (isChildOf parent) edge) fun s' =>
      s'.Sound parent ∧ Keeps (fun w => ∃ id, s.edgeTarget edge = some id ∧ HangsOn parent id w)
        (fun _ => False) s s' := by
  rw [FloatingSpace.focusEdge]
  cases s.edgeTarget edge with
  | none => exact returns_some ⟨h, Keeps.refl _ _ _⟩
  | some id =>
    refine ((h.activateWindow hacyclic id).and (h.activateWindow_keeps id)).bind ?_
    rintro ⟨s', answer⟩ ⟨hsound, hkeeps⟩
    exact returns_pure ⟨hsound, hkeeps.mono (fun _ hw => ⟨id, rfl, hw⟩) fun _ hw => hw⟩

end FloatingSpace

/-- No operation panics, and what it keeps. -/
theorem Op.run_returns {op : Op W F} (h : s.Sound parent) (hacyclic : Acyclic parent)
    (hvalid : op.Valid parent s) :
    Returns (op.run (op.parents parent) s) fun s' => s'.Sound (op.parents parent) ∧
      Keeps (op.Moved (op.parents parent) s) (op.Changed s) s s' := by
  cases op with
  | addTile tile activate =>
    exact (h.addTileAt hacyclic (Nat.zero_le _) tile hvalid activate).and
      (h.addTileAt_keeps (Nat.zero_le _) tile activate)
  | addTileAbove above tile activate => exact h.addTileAbove hacyclic hvalid.1 hvalid.2 activate
  | removeTile id =>
    exact ((h.removeTile hvalid).and (h.removeTile_keeps hvalid)).map
      fun _ hpost => ⟨hpost.1.2, hpost.2⟩
  | removeActiveTile => exact h.removeActiveTile.map fun _ hpost => hpost.2
  | activateWindow id =>
    exact ((h.activateWindow hacyclic id).and (h.activateWindow_keeps id)).map fun _ hpost => hpost
  | activateWindowWithoutRaising id =>
    exact returns_some ⟨h.activateWindowWithoutRaising id,
      FloatingSpace.activateWindowWithoutRaising_keeps id _⟩
  | focusDirectional direction =>
    exact (h.focusDirectional hacyclic direction).map fun _ hpost => hpost
  | focusEdge edge => exact h.focusEdge hacyclic edge
  | setParent window newParent =>
    exact (h.parentChanged hvalid).and (h.parentChanged_keeps _ newParent)
  | tilesMut f =>
    obtain ⟨hsound, hids⟩ :=
      h.tilesMut (fun tile => (hvalid tile).1) fun tile => (hvalid tile).2.1
    refine returns_some ⟨hsound, Keeps.of_ids hids fun e he => ?_⟩
    rw [FloatingSpace.entries_tilesMut, List.mem_map] at he
    obtain ⟨⟨tile, d⟩, he, rfl⟩ := he
    by_cases hsame : f tile = tile
    · show _ ∨ (f tile, d) ∈ s.entries
      rw [hsame]
      exact Or.inr he
    · exact Or.inl ⟨tile, (List.of_mem_zip he).1, (hvalid tile).1.symm, hsame⟩
  | updateConfig workingArea options tileSize =>
    obtain ⟨hsound, hids⟩ := h.updateConfig workingArea options tileSize
    exact returns_some ⟨hsound, Keeps.of_ids hids fun _ _ => Or.inl trivial⟩
  | updateWindow id mode tileSize edges =>
    exact ((h.updateWindow id mode tileSize edges).and
      (h.updateWindow_keeps id mode tileSize edges _)).map fun _ hpost => hpost
  | moveBy amount =>
    have hid := h.mem_of_target (fun w (hw : none = some w) => nomatch hw)
    exact (h.moveTarget _ hid).and (h.moveTarget_keeps _ hid _)
  | moveWindow id x y | centerWindow id =>
    have hid := h.mem_of_target hvalid
    exact (h.moveTarget _ hid).and (h.moveTarget_keeps _ hid _)

theorem Op.run_ids {op : Op W F} (h : s.Sound parent) (hvalid : op.Valid parent s)
    (hrearranges : op.rearranges = true) :
    Returns (op.run (op.parents parent) s) fun s' => s'.ids.Perm s.ids := by
  have hsame : ∀ {x : Option (FloatingSpace W F)} {changed : W → Prop},
      Returns x (Keeps (fun _ => False) changed s) → Returns x fun s' => s'.ids.Perm s.ids :=
    fun hx => hx.mono fun _ hkeeps => List.Perm.of_eq hkeeps.ids_eq
  cases op with
  | addTile tile activate | addTileAbove above tile activate | removeTile id | removeActiveTile =>
    cases hrearranges
  | activateWindow id => exact (h.activateWindow_ids id).map fun _ hids => hids.1
  | activateWindowWithoutRaising id =>
    exact hsame (returns_some (FloatingSpace.activateWindowWithoutRaising_keeps id _))
  | focusDirectional direction =>
    obtain ⟨target, htarget, -⟩ := h.directionalTarget_returns direction
    have hfocus : Returns (s.focusDirectional (isChildOf parent) direction) fun p =>
        p.1.ids.Perm s.ids := by
      refine (returns_of_eq htarget).bind ?_
      rintro _ rfl
      cases target with
      | none => exact returns_pure (List.Perm.refl _)
      | some id => exact (h.activateWindow_ids id).bind fun _ hids => returns_pure hids.1
    exact hfocus.map fun _ hids => hids
  | focusEdge edge =>
    show Returns (s.focusEdge (isChildOf parent) edge) _
    rw [FloatingSpace.focusEdge]
    cases s.edgeTarget edge with
    | none => exact returns_some (List.Perm.refl _)
    | some id => exact (h.activateWindow_ids id).bind fun _ hids => returns_pure hids.1
  | setParent window newParent => exact h.parentChanged_ids _ newParent
  | tilesMut f =>
    exact returns_some (List.Perm.of_eq
      (h.tilesMut (fun tile => (hvalid tile).1) fun tile => (hvalid tile).2.1).2)
  | updateConfig workingArea options tileSize =>
    exact returns_some (List.Perm.of_eq (h.updateConfig workingArea options tileSize).2)
  | updateWindow id mode tileSize edges =>
    exact hsame ((h.updateWindow_keeps id mode tileSize edges _).map fun _ hkeeps => hkeeps)
  | moveBy amount =>
    have hid := h.mem_of_target (fun w (hw : none = some w) => nomatch hw)
    exact hsame (h.moveTarget_keeps _ hid _)
  | moveWindow id x y | centerWindow id =>
    exact hsame (h.moveTarget_keeps _ (h.mem_of_target hvalid) _)

/-! ## Runs -/

/-- The floating layouts, with the parents of the windows, that operations lead to. -/
inductive Reachable : (W → Option W) → FloatingSpace W F → Prop where
  | new {parent : W → Option W} (workingArea : Rectangle) (options : Layout.Options F)
      (hacyclic : Acyclic parent) : Reachable parent (FloatingSpace.new workingArea options)
  | step {parent : W → Option W} {s s' : FloatingSpace W F} (op : Op W F)
      (h : Reachable parent s) (hvalid : op.Valid parent s)
      (hrun : op.run (op.parents parent) s = some s') : Reachable (op.parents parent) s'

theorem FloatingSpace.new_sound (parent : W → Option W) (workingArea : Rectangle)
    (options : Layout.Options F) :
    (FloatingSpace.new workingArea options : FloatingSpace W F).Sound parent :=
  ⟨rfl, List.nodup_nil, List.Pairwise.nil, fun _ he => (List.not_mem_nil he).elim,
    fun _ => rfl, fun _ hsome => nomatch hsome⟩

theorem Op.Valid.acyclic {op : Op W F} (hvalid : op.Valid parent s) (h : Acyclic parent) :
    Acyclic (op.parents parent) := by
  cases op with
  | setParent window newParent => exact hvalid
  | _ => exact h

theorem Reachable.sound (h : Reachable parent s) : Acyclic parent ∧ s.Sound parent := by
  induction h with
  | new workingArea options hacyclic => exact ⟨hacyclic, FloatingSpace.new_sound _ _ _⟩
  | step op _ hvalid hrun ih =>
    exact ⟨hvalid.acyclic ih.1, ((Op.run_returns ih.2 ih.1 hvalid).of_eq hrun).1⟩

/-- What the layout promises of its tiles (`verify_invariants`), and that its windows are
    in order. -/
structure FloatingSpace.Ordered (parent : W → Option W) (s : FloatingSpace W F) : Prop where
  child_above : ∀ (i j : Nat) (window id : W), s.ids[i]? = some window → s.ids[j]? = some id →
    parent window = some id → i < j
  length_eq : s.data.length = s.tiles.length
  upToDate : ∀ e ∈ s.entries, UpToDate s.workingArea e
  active_iff : (∃ id ∈ s.ids, s.activeWindowId = some id) ↔ s.tiles ≠ []
  active_none : s.tiles = [] → s.activeWindowId = none

theorem FloatingSpace.Sound.child_above (h : s.Sound parent) (hacyclic : Acyclic parent) {i j : Nat}
    {window id : W} (hi : s.ids[i]? = some window) (hj : s.ids[j]? = some id)
    (hparent : parent window = some id) : i < j := by
  have hstacked := stacked_iff_ids.mp h.entries.stacked
  rw [map_id_entries h.length_eq] at hstacked
  rcases Nat.lt_trichotomy i j with hlt | heq | hgt
  · exact hlt
  · -- A window is no parent of its own.
    rw [heq, hj] at hi
    obtain rfl := Option.some.inj hi
    exact (hacyclic id (Relation.TransGen.single hparent)).elim
  · obtain ⟨hilt, rfl⟩ := List.getElem?_eq_some_iff.mp hi
    obtain ⟨hjlt, rfl⟩ := List.getElem?_eq_some_iff.mp hj
    have hnot := List.pairwise_iff_getElem.mp hstacked j i hjlt hilt hgt
    rw [isChildOf, hparent, beq_self_eq_true] at hnot
    cases hnot

theorem FloatingSpace.Sound.ordered (h : s.Sound parent) (hacyclic : Acyclic parent) :
    s.Ordered parent := by
  refine ⟨fun i j window id hi hj hparent => h.child_above hacyclic hi hj hparent, h.length_eq,
    h.entries.upToDate, ⟨?_, h.exists_active⟩, fun hnil => ?_⟩
  · rintro ⟨id, hid, -⟩ hnil
    rw [ids, hnil] at hid
    cases hid
  · cases hactive : s.activeWindowId with
    | none => rfl
    | some id =>
      have hid := h.mem_of_active hactive
      rw [ids, hnil] at hid
      cases hid

/-- In every run a child is above its parent and the active window is there, and an
    operation leaves the order of the windows it does not move. -/
theorem Reachable.stacking_order (h : Reachable parent s) :
    s.Ordered parent ∧ ∀ op : Op W F, op.Valid parent s →
      Returns (op.run (op.parents parent) s)
        (Keeps (op.Moved (op.parents parent) s) (op.Changed s) s) := by
  obtain ⟨hacyclic, hsound⟩ := h.sound
  exact ⟨hsound.ordered hacyclic, fun op hvalid =>
    (Op.run_returns hsound hacyclic hvalid).mono fun _ hpost => hpost.2⟩

/-! ## A window and its dialog -/

def screen : Rectangle := ⟨⟨0, 0⟩, ⟨1920, 1080⟩⟩

/-- A window that was just mapped, of that size. -/
def mapped (id : Nat) (tileSize : Size) : Tile Nat Nat where
  toTile := Layout.ScrollingSpace.mapped id
  tileSize := tileSize
  expectedSize := none
  minSize := ⟨0, 0⟩
  maxSize := ⟨0, 0⟩
  requestedSize := none
  defaultFloatingPosition := none
  floatingWindowSize := none
  floatingPos := none

/-- The window 8 covers the window 7, until it becomes its parent. -/
theorem stacking_order_of_dialog :
    ∃ (parent : Nat → Option Nat) (s : FloatingSpace Nat Nat), Reachable parent s ∧
      parent 7 = some 8 ∧ s.ids = [7, 8] ∧ s.activeWindowId = some 8 ∧ s.Ordered parent := by
  have h₁ : Reachable _ _ := Reachable.step (.addTile (mapped 7 ⟨300, 200⟩) true)
    (Reachable.new screen Layout.ScrollingSpace.onePreset acyclic_none)
    List.not_mem_nil rfl
  have h₂ : Reachable _ _ := Reachable.step (.addTile (mapped 8 ⟨600, 400⟩) true) h₁
    (show 8 ∉ [7] by decide) rfl
  have hacyclic : Acyclic (Function.update (fun _ : Nat => none) 7 (some 8)) := by
    refine Acyclic.of_rank (fun id => if id = 7 then 1 else 0) fun a b hparent => ?_
    by_cases ha : a = 7
    · subst ha
      obtain rfl : (8 : Nat) = b := Option.some.inj hparent
      decide
    · rw [Function.update_of_ne ha] at hparent
      cases hparent
  have h₃ : Reachable _ _ := Reachable.step (.setParent 7 (some 8)) h₂ hacyclic rfl
  exact ⟨_, _, h₃, rfl, rfl, rfl, h₃.stacking_order.1⟩

end Cidre.Floating
