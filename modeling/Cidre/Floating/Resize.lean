/-
  Cidre.Floating.Resize

  A floating window that is resized by an edge (`update_window` of
  `src/layout/floating.rs`): the opposite edge is to stay where it is.

  The new size first moves the window so that enough of it is on screen, from the
  position that is kept as a fraction of the working area, and the compensation for
  the moving edge is added to where that leaves it.  So the opposite edge stays only
  if the kept position is where the window is, as far as the new size allows, or the
  limits of the new size take it there (`Reachable.resize_anchored_iff`).
-/

import Cidre.Floating.Run

namespace Cidre.Floating

open Cidre.Panic
open Cidre.Utils.Logical

variable {W F : Type}

/-! ## One axis -/

/-- The position relative to the area leaves enough of a window on screen. -/
def WithinLimits (area size pos : Rat) : Prop :=
  -maxOffScreen size ≤ pos ∧ pos ≤ area - size + maxOffScreen size

instance (area size pos : Rat) : Decidable (WithinLimits area size pos) :=
  inferInstanceAs (Decidable (_ ∧ _))

/-- The position at which the edge that is not dragged stays: the far one if the near
    one is dragged, or else the near one. -/
def anchoredPos (near : Bool) (pos before after : Rat) : Rat :=
  if near then pos + before - after else pos

/-- A position once it was kept as a fraction of the area. -/
def throughFraction (area pos : Rat) : Rat := pos / max area 1 * area

/-- A position `pos` is moved to `target` by the limits: it is there already, or the
    target is the limit it is beyond. -/
def LimitedTo (area size pos target : Rat) : Prop :=
  pos = target ∨ (pos < target ∧ target = -maxOffScreen size) ∨
    (target < pos ∧ target = area - size + maxOffScreen size)

instance (area size pos target : Rat) : Decidable (LimitedTo area size pos target) :=
  inferInstanceAs (Decidable (_ ∨ _ ∨ _))

/-- A position within the limits is where the limits take exactly the positions that
    are limited to it. -/
theorem keepOnScreen_eq_iff {area size target : Rat} (h : WithinLimits area size target)
    (pos : Rat) : keepOnScreen area size pos = target ↔ LimitedTo area size pos target := by
  obtain ⟨hlow, hhigh⟩ := h
  unfold keepOnScreen LimitedTo
  rcases lt_trichotomy pos target with hlt | rfl | hgt
  · -- Below the target the upper limit is out of reach.
    have hmax : max pos (-maxOffScreen size) ≤ target := max_le hlt.le hlow
    rw [min_eq_left (le_trans hmax hhigh)]
    constructor
    · intro heq
      rcases max_choice pos (-maxOffScreen size) with hpos | hoff
      · exact absurd (hpos.symm.trans heq) (ne_of_lt hlt)
      · exact Or.inr (Or.inl ⟨hlt, heq.symm.trans hoff⟩)
    · rintro (heq | ⟨-, heq⟩ | ⟨hgt, -⟩)
      · exact absurd heq (ne_of_lt hlt)
      · rw [← heq, max_eq_right hlt.le]
      · exact absurd hgt (not_lt.mpr hlt.le)
  · exact iff_of_true (by rw [max_eq_left hlow, min_eq_left hhigh]) (Or.inl rfl)
  · have hmax : max pos (-maxOffScreen size) = pos := max_eq_left (le_trans hlow hgt.le)
    rw [hmax]
    constructor
    · intro heq
      rcases min_choice pos (area - size + maxOffScreen size) with hpos | hlimit
      · exact absurd (hpos.symm.trans heq) (ne_of_gt hgt)
      · exact Or.inr (Or.inr ⟨hgt, heq.symm.trans hlimit⟩)
    · rintro (heq | ⟨hlt, -⟩ | ⟨-, heq⟩)
      · exact absurd heq (ne_of_gt hgt)
      · exact absurd hlt (not_lt.mpr hgt.le)
      · rw [← heq, min_eq_right hgt.le]

/-- The limits leave a position, or take it to the one it is beyond. -/
theorem keepOnScreen_cases {area size : Rat} (h : -maxOffScreen size ≤ area - size + maxOffScreen size)
    (pos : Rat) (P : Rat → Prop) : P (keepOnScreen area size pos) ↔
      WithinLimits area size pos ∧ P pos ∨ pos < -maxOffScreen size ∧ P (-maxOffScreen size) ∨
        area - size + maxOffScreen size < pos ∧ P (area - size + maxOffScreen size) := by
  unfold keepOnScreen WithinLimits
  rcases lt_or_ge pos (-maxOffScreen size) with hlow | hlow
  · have hhigh := not_lt.mpr (hlow.le.trans h)
    rw [max_eq_right hlow.le, min_eq_left h]
    simp [hlow, not_le.mpr hlow, hhigh]
  · rw [max_eq_left hlow]
    rcases lt_or_ge (area - size + maxOffScreen size) pos with hhigh | hhigh
    · rw [min_eq_right hhigh.le]
      simp [hhigh, not_le.mpr hhigh, not_lt.mpr hlow]
    · rw [min_eq_left hhigh]
      simp [hlow, hhigh, not_lt.mpr hlow, not_lt.mpr hhigh]

/-! ## A tile -/

/-- Along one axis of a tile: the area, the size before and after the commit, and the
    position as a fraction of the area. -/
structure Resize where
  area : Rat
  before : Rat
  after : Rat
  /-- the near edge is dragged -/
  near : Bool
  frac : Rat
deriving DecidableEq, Repr

namespace Resize

/-- Where the tile is before the commit. -/
def pos (r : Resize) : Rat := keepOnScreen r.area r.before (r.frac * r.area)

/-- Where it is to be. -/
def target (r : Resize) : Rat := anchoredPos r.near r.pos r.before r.after

/-- From `start`, the compensation for the dragged edge takes the tile to where it is to
    be, or beyond the limit that lies there. -/
def TakenFrom (r : Resize) (start : Rat) : Prop :=
  LimitedTo r.area r.after
    (throughFraction r.area (anchoredPos r.near start r.before r.after)) r.target

/-- The kept position takes the tile to where it is to be: from itself, or from the limit
    of the new size that it is beyond. -/
def Undisturbed (r : Resize) : Prop :=
  WithinLimits r.area r.after (r.frac * r.area) ∧ r.TakenFrom (r.frac * r.area) ∨
    r.frac * r.area < -maxOffScreen r.after ∧ r.TakenFrom (-maxOffScreen r.after) ∨
    r.area - r.after + maxOffScreen r.after < r.frac * r.area ∧
      r.TakenFrom (r.area - r.after + maxOffScreen r.after)

instance (r : Resize) (start : Rat) : Decidable (r.TakenFrom start) :=
  inferInstanceAs (Decidable (LimitedTo ..))

instance (r : Resize) : Decidable r.Undisturbed := inferInstanceAs (Decidable (_ ∨ _))

end Resize

namespace Data

def resizeX (d : Data) (tileSize : Size) (edges : Layout.ResizeEdge) : Resize :=
  ⟨d.workingArea.size.w, d.size.w, tileSize.w, edges.left, d.pos.x⟩

def resizeY (d : Data) (tileSize : Size) (edges : Layout.ResizeEdge) : Resize :=
  ⟨d.workingArea.size.h, d.size.h, tileSize.h, edges.top, d.pos.y⟩

/-- The edge of a span from `pos` to `pos + size` that is not dragged has not moved. -/
def EdgeKept (near : Bool) (pos size pos' size' : Rat) : Prop :=
  if near then pos' + size' = pos + size else pos' = pos

/-- A resize by the near edge is to keep the far one, and a resize to the right or the
    bottom the top left corner. -/
def Kept (near : Bool) (edges : Layout.ResizeEdge) : Prop :=
  near = true ∨ edges.right = true ∨ edges.bottom = true

/-- Along each axis that is to be kept, the edge that is not dragged stays if its place
    leaves enough of the window on screen. -/
def Anchored (d d' : Data) (edges : Layout.ResizeEdge) : Prop :=
  (Kept edges.left edges →
      WithinLimits d.workingArea.size.w d'.size.w (d.resizeX d'.size edges).target →
        EdgeKept edges.left d.logicalPos.x d.size.w d'.logicalPos.x d'.size.w) ∧
    (Kept edges.top edges →
      WithinLimits d.workingArea.size.h d'.size.h (d.resizeY d'.size edges).target →
        EdgeKept edges.top d.logicalPos.y d.size.h d'.logicalPos.y d'.size.h)

instance (near : Bool) (pos size pos' size' : Rat) : Decidable (EdgeKept near pos size pos' size') :=
  inferInstanceAs (Decidable (if near then _ else _))

instance (near : Bool) (edges : Layout.ResizeEdge) : Decidable (Kept near edges) :=
  inferInstanceAs (Decidable (_ ∨ _))

instance (d d' : Data) (edges : Layout.ResizeEdge) : Decidable (d.Anchored d' edges) :=
  inferInstanceAs (Decidable ((_ → _ → _) ∧ (_ → _ → _)))

/-- Neither axis that is to be kept is disturbed by the new size. -/
def Undisturbed (d : Data) (tileSize : Size) (edges : Layout.ResizeEdge) : Prop :=
  (Kept edges.left edges →
      WithinLimits d.workingArea.size.w tileSize.w (d.resizeX tileSize edges).target →
        (d.resizeX tileSize edges).Undisturbed) ∧
    (Kept edges.top edges →
      WithinLimits d.workingArea.size.h tileSize.h (d.resizeY tileSize edges).target →
        (d.resizeY tileSize edges).Undisturbed)

instance (d : Data) (tileSize : Size) (edges : Layout.ResizeEdge) :
    Decidable (d.Undisturbed tileSize edges) :=
  inferInstanceAs (Decidable ((_ → _ → _) ∧ (_ → _ → _)))

variable {d : Data}

/-- The cached position, relative to the working area. -/
theorem Cached.pos_eq (h : d.Cached) :
    d.logicalPos.x = keepOnScreen d.workingArea.size.w d.size.w (d.pos.x * d.workingArea.size.w) +
        d.workingArea.loc.x ∧
      d.logicalPos.y = keepOnScreen d.workingArea.size.h d.size.h (d.pos.y * d.workingArea.size.h) +
        d.workingArea.loc.y := by
  rw [← h]
  simp [recomputeLogicalPos, scaleByWorkingArea]

/-- `update_window` of a tile, resized by `edges`. -/
def resizeTo (d : Data) (tileSize : Size) (edges : Layout.ResizeEdge) : Data :=
  let updated := d.update tileSize
  updated.setLogicalPos
    ⟨updated.logicalPos.x + if edges.left then d.size.w - updated.size.w else 0,
      updated.logicalPos.y + if edges.top then d.size.h - updated.size.h else 0⟩

@[simp] theorem resizeTo_size (tileSize : Size) (edges : Layout.ResizeEdge) :
    (d.resizeTo tileSize edges).size = tileSize := by
  simp [resizeTo]

/-- Along one axis: the position after the compensation is where it is to be. -/
theorem edgeKept_iff {r : Resize} {loc pos pos' : Rat} (hpos : pos = r.pos + loc)
    (hpos' : pos' = keepOnScreen r.area r.after (throughFraction r.area
      (keepOnScreen r.area r.after (r.frac * r.area) +
        if r.near then r.before - r.after else 0)) + loc)
    (hlimits : WithinLimits r.area r.after r.target) :
    EdgeKept r.near pos r.before pos' r.after ↔ r.Undisturbed := by
  have hanchored : (keepOnScreen r.area r.after (r.frac * r.area) +
      if r.near then r.before - r.after else 0) =
      anchoredPos r.near (keepOnScreen r.area r.after (r.frac * r.area)) r.before r.after := by
    unfold anchoredPos
    split <;> ring
  have hiff := keepOnScreen_cases (hlimits.1.trans hlimits.2) (r.frac * r.area) r.TakenFrom
  rw [Resize.Undisturbed, ← hiff, Resize.TakenFrom, ← keepOnScreen_eq_iff hlimits, ← hanchored,
    hpos, hpos']
  unfold EdgeKept Resize.target anchoredPos
  cases r.near with
  | true =>
    simp only [if_true]
    constructor
    · intro h; linarith
    · intro h; linarith
  | false =>
    simp only [Bool.false_eq_true, if_false]
    exact add_left_inj loc

/-- Where the tile ends up, relative to the working area. -/
theorem Cached.resizeTo_pos (h : d.Cached) (tileSize : Size) (edges : Layout.ResizeEdge) :
    (d.resizeTo tileSize edges).logicalPos.x =
        keepOnScreen d.workingArea.size.w tileSize.w (throughFraction d.workingArea.size.w
          (keepOnScreen d.workingArea.size.w tileSize.w (d.pos.x * d.workingArea.size.w) +
            if edges.left then d.size.w - tileSize.w else 0)) + d.workingArea.loc.x ∧
      (d.resizeTo tileSize edges).logicalPos.y =
        keepOnScreen d.workingArea.size.h tileSize.h (throughFraction d.workingArea.size.h
          (keepOnScreen d.workingArea.size.h tileSize.h (d.pos.y * d.workingArea.size.h) +
            if edges.top then d.size.h - tileSize.h else 0)) + d.workingArea.loc.y := by
  obtain ⟨hux, huy⟩ := (h.update tileSize).pos_eq
  simp only [update_size, update_pos, update_workingArea] at hux huy
  obtain ⟨hx, hy⟩ := (setLogicalPos_cached
    ⟨(d.update tileSize).logicalPos.x + if edges.left then d.size.w - tileSize.w else 0,
      (d.update tileSize).logicalPos.y + if edges.top then d.size.h - tileSize.h else 0⟩
    (d.update tileSize)).pos_eq
  simp only [setLogicalPos_size, setLogicalPos_workingArea, setLogicalPos_pos, update_size,
    update_workingArea, logicalToSizeFracInWorkingArea] at hx hy
  have hback : ∀ a loc b : Rat, a + loc + b - loc = a + b := fun a loc b => by ring
  simp only [resizeTo, update_size, throughFraction]
  rw [hx, hy, hux, huy, hback, hback]
  exact ⟨rfl, rfl⟩

theorem Cached.anchored_iff (h : d.Cached) (tileSize : Size) (edges : Layout.ResizeEdge) :
    d.Anchored (d.resizeTo tileSize edges) edges ↔ d.Undisturbed tileSize edges := by
  obtain ⟨hx, hy⟩ := h.pos_eq
  obtain ⟨hx', hy'⟩ := h.resizeTo_pos tileSize edges
  unfold Anchored Undisturbed
  rw [resizeTo_size]
  exact and_congr
    (forall_congr' fun _ => forall_congr' fun hlimits =>
      edgeKept_iff (r := d.resizeX tileSize edges) hx hx' hlimits)
    (forall_congr' fun _ => forall_congr' fun hlimits =>
      edgeKept_iff (r := d.resizeY tileSize edges) hy hy' hlimits)

end Data

/-! ## The floating layout -/

variable [DecidableEq W] {parent : W → Option W} {s : FloatingSpace W F}

/-- A window is where its tile is: no other tile has it. -/
theorem FloatingSpace.Sound.idxOf_of_getElem? (h : s.Sound parent) {idx : Nat} {tile : Tile W F}
    (htile : s.tiles[idx]? = some tile) : s.idxOf tile.id = some idx := by
  have hnodup : s.ids.Nodup := by
    rw [← FloatingSpace.map_id_entries h.length_eq]
    exact h.entries.nodup
  obtain ⟨hlt, hget⟩ := List.getElem?_eq_some_iff.mp htile
  rw [FloatingSpace.idxOf, List.findIdx?_eq_some_iff_getElem]
  refine ⟨hlt, by simp [hget], fun j hj heq => ?_⟩
  have hjlt : j < s.tiles.length := Nat.lt_trans hj hlt
  have hsame : s.tiles[j].id = tile.id := beq_iff_eq.mp heq
  have hids : s.ids[j]? = s.ids[idx]? := by
    rw [FloatingSpace.ids, List.getElem?_map, List.getElem?_map, htile,
      List.getElem?_eq_getElem hjlt, Option.map_some, Option.map_some, hsame]
  have hlen : j < s.ids.length := by
    rw [FloatingSpace.ids, List.length_map]
    exact hjlt
  exact absurd ((List.getElem?_inj hlen hnodup).mp hids) (Nat.ne_of_lt hj)

/-- A commit during a resize changes the entry of the window as `resizeTo` says. -/
theorem FloatingSpace.Sound.updateWindow_resizeTo (h : s.Sound parent) {idx : Nat}
    {tile : Tile W F} {d : Data} (htile : s.tiles[idx]? = some tile) (hd : s.data[idx]? = some d)
    (mode : Layout.SizingMode) (tileSize : Size) (edges : Layout.ResizeEdge) :
    Returns (s.updateWindow tile.id mode tileSize (some edges)) fun p =>
      p.2 = true ∧ p.1.data[idx]? = some (d.resizeTo tileSize edges) := by
  have hidx := h.idxOf_of_getElem? htile
  have hlt : idx < s.data.length := (List.getElem?_eq_some_iff.mp hd).1
  rw [FloatingSpace.updateWindow, hidx]
  simp only [htile, hd, Option.bind_eq_bind, Option.bind_some]
  refine returns_pure ⟨rfl, ?_⟩
  rw [List.getElem?_set_self hlt]
  rfl

/-- In every reachable layout, a commit during a resize keeps the edge that is not
    dragged, wherever that leaves enough of the window on screen, exactly if the new
    size alone does not disturb the window. -/
theorem Reachable.resize_anchored_iff (h : Reachable parent s) {idx : Nat} {tile : Tile W F}
    {d : Data} (htile : s.tiles[idx]? = some tile) (hd : s.data[idx]? = some d)
    (mode : Layout.SizingMode) (tileSize : Size) (edges : Layout.ResizeEdge) :
    Returns (s.updateWindow tile.id mode tileSize (some edges)) fun p =>
      p.2 = true ∧ ∃ d', p.1.data[idx]? = some d' ∧ d'.size = tileSize ∧
        (d.Anchored d' edges ↔ d.Undisturbed tileSize edges) := by
  have hcached : d.Cached :=
    (h.sound.2.entries.upToDate _
      (List.mem_of_getElem? (FloatingSpace.entries_of_getElem? htile hd))).cached
  refine (h.sound.2.updateWindow_resizeTo htile hd mode tileSize edges).mono ?_
  rintro p ⟨hfound, hd'⟩
  exact ⟨hfound, _, hd', Data.resizeTo_size _ _, hcached.anchored_iff tileSize edges⟩

/-! ## A window at the edge of the screen -/

/-- The data of a window of 100 by 100 pixels that was moved to `x`. -/
def dataAt (x : Rat) : Data :=
  (Data.new screen ⟨100, 100⟩ (centerPreferringTopLeftInArea screen ⟨100, 100⟩)).setLogicalPos
    ⟨x + screen.loc.x, 100 + screen.loc.y⟩

def placedAt (x : Rat) : FloatingSpace Nat Nat :=
  { (FloatingSpace.new screen Layout.ScrollingSpace.onePreset : FloatingSpace Nat Nat) with
    tiles := [((mapped 7 ⟨100, 100⟩).updateConfig Layout.ScrollingSpace.onePreset).requestSizeOnce
      ⟨0, 0⟩]
    data := [dataAt x]
    activeWindowId := some 7 }

theorem placedAt_reachable (x : Rat) : Reachable (fun _ => none) (placedAt x) := by
  have h₁ : Reachable _ _ := Reachable.step (.addTile (mapped 7 ⟨100, 100⟩) true)
    (Reachable.new screen Layout.ScrollingSpace.onePreset acyclic_none) List.not_mem_nil rfl
  refine Reachable.step (.moveWindow (some 7) (.setFixed x) (.setFixed 100)) h₁ ?_ rfl
  rintro window ⟨⟩
  exact List.mem_cons_self

/-- A window that is on screen as a whole is made larger by its left edge. -/
theorem resize_anchored_of_inner :
    ∃ d d', (placedAt 400).data[0]? = some d ∧ d'.size = ⟨300, 100⟩ ∧
      d.Anchored d' ⟨false, false, true, false⟩ := by
  have htile : ∃ tile, (placedAt 400).tiles[0]? = some tile := ⟨_, rfl⟩
  obtain ⟨tile, htile⟩ := htile
  have hd : (placedAt 400).data[0]? = some (dataAt 400) := rfl
  obtain ⟨p, -, -, d', -, hsize, hiff⟩ := (placedAt_reachable 400).resize_anchored_iff htile hd
    .normal ⟨300, 100⟩ ⟨false, false, true, false⟩
  exact ⟨_, d', hd, hsize, hiff.mpr (by decide +kernel)⟩

/-- A window that hangs off the left of the screen gets smaller by its left edge: its
    right edge moves, though it is well within the screen. -/
theorem resize_moves_right_edge :
    ¬∀ (parent : Nat → Option Nat) (s : FloatingSpace Nat Nat), Reachable parent s →
      ∀ (idx : Nat) (tile : Tile Nat Nat) (d : Data), s.tiles[idx]? = some tile →
        s.data[idx]? = some d → ∀ (mode : Layout.SizingMode) (tileSize : Size)
          (edges : Layout.ResizeEdge), Returns (s.updateWindow tile.id mode tileSize (some edges))
            fun p => ∃ d', p.1.data[idx]? = some d' ∧ d.Anchored d' edges := by
  intro hclaim
  have htile : ∃ tile, (placedAt (-50)).tiles[0]? = some tile := ⟨_, rfl⟩
  obtain ⟨tile, htile⟩ := htile
  have hd : (placedAt (-50)).data[0]? = some (dataAt (-50)) := rfl
  obtain ⟨p, hp, d', hd', hanchored⟩ := hclaim _ _ (placedAt_reachable (-50)) 0 tile _ htile hd
    .normal ⟨40, 100⟩ ⟨false, false, true, false⟩
  obtain ⟨q, hq, -, hq'⟩ := (placedAt_reachable (-50)).sound.2.updateWindow_resizeTo htile hd
    .normal ⟨40, 100⟩ ⟨false, false, true, false⟩
  obtain rfl := Option.some.inj (hp.symm.trans hq)
  obtain rfl := Option.some.inj (hd'.symm.trans hq')
  revert hanchored
  decide +kernel

end Cidre.Floating
