/-
  Cidre.Floating.Entries

  What the operations of the floating layout do to its tiles and their data.

  The two vectors are read as one, of a tile with its data.  Each operation on the
  stacking order takes an entry out, puts one in, or brings up what hangs on one.
-/

import Cidre.Floating.Space
import Cidre.Lib.Stacking

namespace Cidre.Floating

open Cidre.Panic
open Cidre.Stacking
open Cidre.Utils.Logical

variable {W F : Type}

/-- An entry hangs on another one if its window is a child of the other window. -/
def hangs (isChildOf : W → W → Bool) (e e' : Tile W F × Data) : Bool :=
  isChildOf e.1.id e'.1.id

namespace FloatingSpace

variable {s s' : FloatingSpace W F} {es : List (Tile W F × Data)}

def entries (s : FloatingSpace W F) : List (Tile W F × Data) := s.tiles.zip s.data

def withEntries (s : FloatingSpace W F) (es : List (Tile W F × Data)) : FloatingSpace W F :=
  { s with tiles := es.map Prod.fst, data := es.map Prod.snd }

@[simp] theorem withEntries_tiles (s : FloatingSpace W F) (es : List (Tile W F × Data)) :
    (s.withEntries es).tiles = es.map Prod.fst := rfl

@[simp] theorem withEntries_data (s : FloatingSpace W F) (es : List (Tile W F × Data)) :
    (s.withEntries es).data = es.map Prod.snd := rfl

@[simp] theorem withEntries_activeWindowId (s : FloatingSpace W F) (es : List (Tile W F × Data)) :
    (s.withEntries es).activeWindowId = s.activeWindowId := rfl

@[simp] theorem withEntries_workingArea (s : FloatingSpace W F) (es : List (Tile W F × Data)) :
    (s.withEntries es).workingArea = s.workingArea := rfl

@[simp] theorem entries_withEntries (s : FloatingSpace W F) (es : List (Tile W F × Data)) :
    (s.withEntries es).entries = es := by
  rw [entries, withEntries_tiles, withEntries_data]
  exact (List.zip_of_prod rfl rfl).symm

theorem withEntries_entries (h : s.data.length = s.tiles.length) :
    s.withEntries s.entries = s := by
  rw [withEntries, entries, List.map_fst_zip (Nat.le_of_eq h.symm), List.map_snd_zip (Nat.le_of_eq h)]

theorem length_entries (h : s.data.length = s.tiles.length) : s.entries.length = s.tiles.length := by
  rw [entries, List.length_zip, h, Nat.min_self]

theorem ids_withEntries (s : FloatingSpace W F) (es : List (Tile W F × Data)) :
    (s.withEntries es).ids = es.map fun e => e.1.id := by
  rw [ids, withEntries_tiles, List.map_map]
  rfl

theorem map_id_entries (h : s.data.length = s.tiles.length) :
    (s.entries.map fun e => e.1.id) = s.ids := by
  rw [← ids_withEntries s, withEntries_entries h]

theorem entries_of_getElem? {idx : Nat} {tile : Tile W F}
    {d : Data} (htile : s.tiles[idx]? = some tile) (hd : s.data[idx]? = some d) :
    s.entries[idx]? = some (tile, d) := by
  rw [entries, List.getElem?_zip_eq_some]
  exact ⟨htile, hd⟩

theorem set_eq_withEntries (h : s.data.length = s.tiles.length) (idx : Nat) (tile : Tile W F)
    (d : Data) : { s with tiles := s.tiles.set idx tile, data := s.data.set idx d } =
      s.withEntries (s.entries.set idx (tile, d)) := by
  have heq := withEntries_entries h
  rw [withEntries] at heq ⊢
  rw [List.map_set, List.map_set]
  conv_lhs => rw [← heq]

theorem entries_updateConfig (area : Rectangle) (options : Layout.Options F)
    (tileSize : Tile W F → Size) (s : FloatingSpace W F) :
    (s.updateConfig area options tileSize).entries =
      s.entries.map fun e => ({ e.1.updateConfig options with tileSize := tileSize e.1 },
        (e.2.update (tileSize e.1)).updateConfig area) := by
  show (s.tiles.map fun tile => { tile.updateConfig options with tileSize := tileSize tile }).zip
    (List.zipWith (fun tile d => (d.update (tileSize tile)).updateConfig area) s.tiles s.data) =
      (s.tiles.zip s.data).map _
  generalize s.tiles = tiles
  generalize s.data = data
  induction tiles generalizing data with
  | nil => rfl
  | cons tile tiles ih =>
    cases data with
    | nil => rfl
    | cons d data => exact congrArg _ (ih data)

theorem entries_tilesMut (s : FloatingSpace W F) (f : Tile W F → Tile W F) :
    (s.tilesMut f).entries = s.entries.map fun e => (f e.1, e.2) :=
  List.zip_map_left

theorem filter_ids_without {pre l : List (Tile W F × Data)} {e : Tile W F × Data} {p : W → Bool}
    (he : p e.1.id = false) :
    ((pre ++ e :: l).map fun e => e.1.id).filter p =
      ((pre ++ l).map fun e => e.1.id).filter p := by
  rw [List.map_append, List.map_cons, List.filter_append, List.filter_cons_of_neg (by simp [he]),
    List.map_append, List.filter_append]

/-! ## Raising -/

theorem raiseWindow_withEntries (s : FloatingSpace W F) (es : List (Tile W F × Data)) {i j : Nat}
    (h : j ≤ i) : (s.withEntries es).raiseWindow i j = (Stacking.moveTo es i j).map s.withEntries := by
  rw [raiseWindow, if_pos h, withEntries_tiles, withEntries_data, remove_map, remove_map,
    Stacking.moveTo]
  cases Vec.remove es i with
  | none => rfl
  | some p =>
    show (do
      let tiles ← Vec.insert (p.2.map Prod.fst) j p.1.1
      let data ← Vec.insert (p.2.map Prod.snd) j p.1.2
      return { s.withEntries es with tiles := tiles, data := data }) =
        (Vec.insert p.2 j p.1).map s.withEntries
    rw [insert_map, insert_map]
    cases Vec.insert p.2 j p.1 <;> rfl

/-- Indexes from the top: none is above where the one before it goes. -/
theorem raiseAll_withEntries (s : FloatingSpace W F) : ∀ (is : List Nat) (j : Nat)
    (es : List (Tile W F × Data)), is.Pairwise (· < ·) → (∀ i ∈ is, j ≤ i) →
    raiseAll is j (s.withEntries es) = (moveAll is j es).map s.withEntries
  | [], _, _, _, _ => rfl
  | i :: is, j, es, hsorted, hle => by
      obtain ⟨hlt, hsorted⟩ := List.pairwise_cons.mp hsorted
      have hij := hle i List.mem_cons_self
      rw [raiseAll, moveAll, raiseWindow_withEntries s es hij]
      cases Stacking.moveTo es i j with
      | none => rfl
      | some es' =>
        refine raiseAll_withEntries s is (j + 1) es' hsorted fun k hk => ?_
        have := hlt k hk
        omega

theorem le_of_mem_positions {α : Type} {child : α → α → Bool} {w : α} {l : List α} {k i : Nat}
    (h : i ∈ positions child w k l) : k ≤ i := by
  induction l generalizing k with
  | nil => cases h
  | cons a l ih =>
    rw [positions] at h
    split at h
    · rcases List.mem_cons.mp h with rfl | h
      · exact Nat.le_refl _
      · exact Nat.le_of_succ_le (ih h)
    · exact Nat.le_of_succ_le (ih h)

theorem positions_sorted {α : Type} (child : α → α → Bool) (w : α) (l : List α) (k : Nat) :
    (positions child w k l).Pairwise (· < ·) := by
  induction l generalizing k with
  | nil => exact List.Pairwise.nil
  | cons a l ih =>
    rw [positions]
    split
    · exact List.pairwise_cons.mpr ⟨fun i hi => le_of_mem_positions hi, ih (k + 1)⟩
    · exact ih (k + 1)

theorem any_positions {α : Type} (child : α → α → Bool) (w : α) (p : α → Bool) (l : List α) :
    ∀ front : List α, ((positions child w front.length l).any fun idx => (front ++ l)[idx]?.any p) =
      (descendants child w l).any p := by
  induction l with
  | nil => intro front; rfl
  | cons a l ih =>
    intro front
    have hback := ih (front ++ [a])
    rw [List.length_append, List.length_singleton, List.append_assoc, List.singleton_append] at hback
    rw [positions, descendants]
    split
    · rw [List.any_cons, List.any_cons, hback, Vec.getElem?_split, Option.any_some]
    · exact hback

/-- The pass from the back finds what hangs on the window, at any depth. -/
theorem collectDescendants_eq (isChildOf : W → W → Bool) (win : Tile W F) (l : List (Tile W F)) :
    ∀ front : List (Tile W F),
      collectDescendants isChildOf (front ++ l) win.id (l.zipIdx front.length).reverse =
        (positions (fun a b => isChildOf a.id b.id) win front.length l).reverse := by
  induction l with
  | nil => intro front; rfl
  | cons a l ih =>
    intro front
    have hback := ih (front ++ [a])
    rw [List.length_append, List.length_singleton, List.append_assoc, List.singleton_append] at hback
    have hany := any_positions (fun a b => isChildOf a.id b.id) win
      (fun tile => isChildOf a.id tile.id) l (front ++ [a])
    rw [List.length_append, List.length_singleton, List.append_assoc, List.singleton_append] at hany
    rw [List.zipIdx_cons, List.reverse_cons, collectDescendants, List.foldl_append]
    rw [collectDescendants] at hback
    rw [hback, List.foldl_cons, List.foldl_nil, List.any_reverse, hany, positions]
    split
    · rw [List.reverse_cons]
    · rfl

theorem bringUpDescendantsOf_withEntries (isChildOf : W → W → Bool) (s : FloatingSpace W F)
    (pre : List (Tile W F × Data)) (e : Tile W F × Data) (l : List (Tile W F × Data)) :
    (s.withEntries (pre ++ e :: l)).bringUpDescendantsOf isChildOf pre.length =
      some (s.withEntries (broughtUp (hangs isChildOf) pre e l)) := by
  have hlen : (pre.map Prod.fst).length = pre.length := List.length_map _
  have htiles : (s.withEntries (pre ++ e :: l)).tiles =
      (pre.map Prod.fst ++ [e.1]) ++ l.map Prod.fst := by
    rw [withEntries_tiles, List.map_append, List.map_cons, List.append_assoc, List.singleton_append]
  have hget : (s.withEntries (pre ++ e :: l)).tiles[pre.length]? = some e.1 := by
    rw [htiles, List.append_assoc, List.singleton_append, ← hlen, Vec.getElem?_split]
  have hlen' : (pre.map Prod.fst ++ [e.1]).length = pre.length + 1 := by
    rw [List.length_append, hlen, List.length_singleton]
  have hdrop : (s.withEntries (pre ++ e :: l)).tiles.zipIdx.drop (pre.length + 1) =
      (l.map Prod.fst).zipIdx (pre.length + 1) := by
    rw [htiles, List.zipIdx_append, List.drop_append_of_le_length (by simp),
      List.drop_of_length_le (by simp), List.nil_append, hlen', Nat.zero_add]
  have hfound := collectDescendants_eq isChildOf e.1 (l.map Prod.fst) (pre.map Prod.fst ++ [e.1])
  rw [hlen', ← htiles, positions_map] at hfound
  rw [bringUpDescendantsOf, hget]
  show raiseAll (collectDescendants isChildOf (s.withEntries (pre ++ e :: l)).tiles e.1.id
    ((s.withEntries (pre ++ e :: l)).tiles.zipIdx.drop (pre.length + 1)).reverse).reverse pre.length
      (s.withEntries (pre ++ e :: l)) = _
  rw [hdrop, hfound, List.reverse_reverse,
    raiseAll_withEntries s _ _ _ (positions_sorted _ _ _ _) fun i hi =>
      Nat.le_of_succ_le (le_of_mem_positions hi)]
  have hmoved := moveAll_broughtUp (hangs isChildOf) pre e l
  exact congrArg (Option.map s.withEntries) hmoved

/-! ## Operations -/

variable {isChildOf : W → W → Bool}

/-- A tile is put in not below its parent, with data of its own, and what hangs on it
    is brought up. -/
theorem addTileAt_returns {idx : Nat} (hidx : idx ≤ es.length) (tile : Tile W F) (activate : Bool) :
    Returns ((s.withEntries es).addTileAt isChildOf idx tile activate) fun s' =>
      ∃ pre e l, es = pre ++ l ∧ e.1.id = tile.id ∧ e.1.tileSize = tile.tileSize ∧
        e.2 = Data.new s.workingArea tile.tileSize ((s.storedOrDefaultTilePos tile).getD
          (centerPreferringTopLeftInArea s.workingArea tile.tileSize)) ∧
        (∀ a ∈ pre, hangs isChildOf e a = false) ∧
        s' = { s with
          activeWindowId := if activate || es.isEmpty then some tile.id else s.activeWindowId
          }.withEntries (broughtUp (hangs isChildOf) pre e l) := by
  generalize hposition : (((es.map Prod.fst).take idx).findIdx? fun tileAbove =>
    isChildOf tile.id tileAbove.id).getD idx = position
  have hle : position ≤ es.length := by
    cases hfound : ((es.map Prod.fst).take idx).findIdx? fun tileAbove =>
        isChildOf tile.id tileAbove.id with
    | none =>
      rw [hfound, Option.getD_none] at hposition
      omega
    | some i =>
      rw [hfound, Option.getD_some] at hposition
      obtain ⟨hlt, -⟩ := List.findIdx?_eq_some_iff_getElem.mp hfound
      rw [List.length_take, List.length_map] at hlt
      omega
  rw [addTileAt]
  generalize hasked : (tile.updateConfig (s.withEntries es).options).requestSizeOnce
    (tile.updateConfig (s.withEntries es).options).restoredSize = tile'
  have hpos : (s.withEntries es).storedOrDefaultTilePos tile' = s.storedOrDefaultTilePos tile := by
    rw [← hasked]
    rfl
  have hsize : tile'.tileSize = tile.tileSize := by
    rw [← hasked]
    rfl
  have hid : tile'.id = tile.id := by
    rw [← hasked]
    rfl
  simp only [withEntries_tiles, withEntries_data, hid, hposition, hpos, hsize,
    withEntries_workingArea, withEntries_activeWindowId, List.isEmpty_map]
  generalize Data.new s.workingArea tile.tileSize ((s.storedOrDefaultTilePos tile).getD
    (centerPreferringTopLeftInArea s.workingArea tile.tileSize)) = d
  have hinsert : Vec.insert es position (tile', d) =
      some (es.take position ++ (tile', d) :: es.drop position) := by
    rw [Vec.insert, if_pos hle, Vec.insertIdx_eq_take_drop hle]
  have hd := insert_map Prod.snd es position (tile', d)
  have ht := insert_map Prod.fst es position (tile', d)
  rw [hd, ht, hinsert]
  have hup := bringUpDescendantsOf_withEntries isChildOf
    { s with activeWindowId := if activate || es.isEmpty then some tile.id else s.activeWindowId }
    (es.take position) (tile', d) (es.drop position)
  rw [List.length_take_of_le hle] at hup
  refine ⟨_, hup, es.take position, (tile', d), es.drop position, (List.take_append_drop _ _).symm,
    hid, hsize, rfl, ?_, rfl⟩
  -- Every tile above the position was asked, and is no parent.
  intro a ha
  rw [hangs, hid]
  obtain ⟨k, hk, rfl⟩ := List.mem_iff_getElem.mp ha
  rw [List.length_take] at hk
  rw [List.getElem_take]
  cases hfound : ((es.map Prod.fst).take idx).findIdx? fun tileAbove =>
      isChildOf tile.id tileAbove.id with
  | none =>
    rw [hfound, Option.getD_none] at hposition
    have hnone := List.findIdx?_eq_none_iff.mp hfound
    refine hnone _ (List.mem_take_iff_getElem.mpr ⟨k, ?_, ?_⟩)
    · rw [List.length_map]
      omega
    · rw [List.getElem_map]
  | some i =>
    rw [hfound, Option.getD_some] at hposition
    obtain ⟨hlt, -, hbefore⟩ := List.findIdx?_eq_some_iff_getElem.mp hfound
    have hnot := hbefore k (by omega)
    rw [List.getElem_take, List.getElem_map] at hnot
    simpa using hnot

variable [DecidableEq W]

/-- Where a window is found, the entries are taken apart. -/
theorem split_of_idxOf {id : W} {idx : Nat} (h : (s.withEntries es).idxOf id = some idx) :
    ∃ pre e l, es = pre ++ e :: l ∧ pre.length = idx ∧ e.1.id = id := by
  rw [idxOf, withEntries_tiles, List.findIdx?_map] at h
  obtain ⟨hlt, hid, -⟩ := List.findIdx?_eq_some_iff_getElem.mp h
  refine ⟨es.take idx, es[idx], es.drop (idx + 1), ?_, ?_, by simpa using hid⟩
  · rw [List.getElem_cons_drop, List.take_append_drop]
  · exact List.length_take_of_le (Nat.le_of_lt hlt)

theorem idxOf_of_mem {id : W} (h : id ∈ s.ids) : ∃ idx, s.idxOf id = some idx := by
  obtain ⟨tile, htile, rfl⟩ := List.mem_map.mp h
  exact Option.isSome_iff_exists.mp (List.findIdx?_isSome.trans (List.any_eq_true.mpr
    ⟨tile, htile, beq_self_eq_true _⟩))

theorem mem_of_idxOf {id : W} {idx : Nat} (h : s.idxOf id = some idx) :
    id ∈ s.ids ∧ idx < s.tiles.length := by
  obtain ⟨hlt, hid, -⟩ := List.findIdx?_eq_some_iff_getElem.mp h
  exact ⟨List.mem_map.mpr ⟨_, List.getElem_mem hlt, beq_iff_eq.mp hid⟩, hlt⟩

theorem activateWindow_returns (id : W) :
    Returns ((s.withEntries es).activateWindow isChildOf id) fun p =>
      (p.1 = s.withEntries es ∧ p.2 = false) ∨
        ∃ pre e l, es = pre ++ e :: l ∧ e.1.id = id ∧
          p.1 = { s with activeWindowId := some id }.withEntries
            (broughtUp (hangs isChildOf) [] e (pre ++ l)) := by
  rw [activateWindow]
  cases hidx : (s.withEntries es).idxOf id with
  | none => exact returns_some (Or.inl ⟨rfl, rfl⟩)
  | some idx =>
    obtain ⟨pre, e, l, rfl, rfl, hid⟩ := split_of_idxOf hidx
    have hraised : (s.withEntries (pre ++ e :: l)).raiseWindow pre.length 0 =
        some (s.withEntries (e :: (pre ++ l))) := by
      rw [raiseWindow_withEntries s _ (Nat.zero_le _)]
      have hmoved := moveTo_split [] pre l e
      rw [List.length_nil, Nat.zero_add, List.nil_append, List.nil_append] at hmoved
      rw [hmoved]
      rfl
    have hup := bringUpDescendantsOf_withEntries isChildOf { s with activeWindowId := some id } [] e
      (pre ++ l)
    have heq : { s.withEntries (e :: (pre ++ l)) with activeWindowId := some id } =
        { s with activeWindowId := some id }.withEntries ([] ++ e :: (pre ++ l)) := rfl
    rw [← heq, List.length_nil] at hup
    simp only [hraised, Option.bind_eq_bind, Option.bind_some, hup]
    exact returns_pure (Or.inr ⟨pre, e, l, rfl, hid, rfl⟩)

theorem descendantsAdded_returns (id : W) :
    Returns ((s.withEntries es).descendantsAdded isChildOf id) fun p =>
      (p.1 = s.withEntries es ∧ (s.withEntries es).idxOf id = none) ∨
        ∃ pre e l, es = pre ++ e :: l ∧ e.1.id = id ∧
          p.1 = s.withEntries (broughtUp (hangs isChildOf) pre e l) := by
  rw [descendantsAdded]
  cases hidx : (s.withEntries es).idxOf id with
  | none => exact returns_some (Or.inl ⟨rfl, rfl⟩)
  | some idx =>
    obtain ⟨pre, e, l, rfl, rfl, hid⟩ := split_of_idxOf hidx
    simp only [Option.bind_eq_bind, bringUpDescendantsOf_withEntries, Option.bind_some]
    exact returns_pure (Or.inr ⟨pre, e, l, rfl, hid, rfl⟩)

/-- The topmost window is active once the active one is gone. -/
def activeAfterRemoval (active : Option W) (removed : W) (rest : List (Tile W F × Data)) : Option W :=
  match rest with
  | [] => none
  | top :: _ => if some removed = active then some top.1.id else active

theorem removeTile_returns {id : W} (h : id ∈ es.map fun e => e.1.id) :
    Returns ((s.withEntries es).removeTile id) fun p =>
      ∃ pre e l, es = pre ++ e :: l ∧ e.1.id = id ∧ p.1.id = id ∧
        p.1.tileSize = e.1.tileSize ∧ p.1.floatingPos = some e.2.pos ∧
        p.2 = { s with activeWindowId := activeAfterRemoval s.activeWindowId id (pre ++ l) }.withEntries
          (pre ++ l) := by
  rw [← ids_withEntries s] at h
  obtain ⟨idx, hidx⟩ := idxOf_of_mem h
  obtain ⟨pre, e, l, rfl, rfl, hid⟩ := split_of_idxOf hidx
  have hremove := Vec.remove_split pre l e
  rw [removeTile, hidx]
  simp only [Option.bind_eq_bind, Option.bind_some, removeTileByIdx, withEntries_tiles,
    withEntries_data, remove_map, hremove, Option.map_some]
  refine returns_pure ⟨pre, e, l, rfl, hid, hid, rfl, rfl, ?_⟩
  rw [hid, withEntries]
  cases pre ++ l with
  | nil => rfl
  | cons top rest => rfl

/-- The tile at an index of the window `id`, with its data. -/
theorem entry_of_idxOf {id : W} {idx : Nat} {d : Data} (h : s.idxOf id = some idx)
    (hd : s.data[idx]? = some d) :
    ∃ tile, s.tiles[idx]? = some tile ∧ s.entries[idx]? = some (tile, d) ∧ tile.id = id := by
  obtain ⟨hlt, hid, -⟩ := List.findIdx?_eq_some_iff_getElem.mp h
  have htile := List.getElem?_eq_getElem hlt
  exact ⟨_, htile, entries_of_getElem? htile hd, beq_iff_eq.mp hid⟩

/-- The data of one window changes, and the size of its tile with it. -/
theorem updateWindow_returns (hlen : s.data.length = s.tiles.length) (id : W) (mode : Layout.SizingMode)
    (tileSize : Size) (edges : Option Layout.ResizeEdge) :
    Returns (s.updateWindow id mode tileSize edges) fun p =>
      p.1 = s ∨ ∃ idx tile d d', s.entries[idx]? = some (tile, d) ∧ tile.id = id ∧
        (d' = d.update tileSize ∨ ∃ q, d' = (d.update tileSize).setLogicalPos q) ∧
        p.1 = s.withEntries
          (s.entries.set idx ({ tile with tileSize := tileSize, sizingMode := mode }, d')) := by
  rw [updateWindow]
  cases hidx : s.idxOf id with
  | none => exact returns_some (Or.inl rfl)
  | some idx =>
    obtain ⟨-, hlt⟩ := mem_of_idxOf hidx
    rw [← hlen] at hlt
    have hd := List.getElem?_eq_getElem hlt
    obtain ⟨tile, htile, hget, hid⟩ := entry_of_idxOf hidx hd
    simp only [htile, hd, Option.bind_eq_bind, Option.bind_some]
    refine returns_pure (Or.inr ⟨idx, tile, _, _, hget, hid, ?_, set_eq_withEntries hlen idx _ _⟩)
    cases edges with
    | none => exact Or.inl rfl
    | some edges => exact Or.inr ⟨_, rfl⟩

theorem moveTarget_returns (hlen : s.data.length = s.tiles.length) {id : Option W}
    (newPos : Data → Point) (hid : ∀ w, (id.orElse fun _ => s.activeWindowId) = some w → w ∈ s.ids) :
    Returns (s.moveTarget id newPos) fun s' =>
      s' = s ∨ ∃ idx tile d, s.entries[idx]? = some (tile, d) ∧
        (id.orElse fun _ => s.activeWindowId) = some tile.id ∧
        s' = s.withEntries (s.entries.set idx (tile, d.setLogicalPos (newPos d))) := by
  rw [moveTarget]
  cases htarget : id.orElse fun _ => s.activeWindowId with
  | none => exact returns_some (Or.inl rfl)
  | some target =>
    obtain ⟨idx, hidx⟩ := idxOf_of_mem (hid target htarget)
    obtain ⟨-, hlt⟩ := mem_of_idxOf hidx
    rw [← hlen] at hlt
    have hd := List.getElem?_eq_getElem hlt
    obtain ⟨tile, htile, hget, rfl⟩ := entry_of_idxOf hidx hd
    simp only [hidx, hd, moveTo, Option.bind_eq_bind, Option.bind_some]
    refine returns_pure (Or.inr ⟨idx, tile, _, hget, rfl, ?_⟩)
    obtain ⟨hlt, htile⟩ := List.getElem?_eq_some_iff.mp htile
    have htiles : s.tiles.set idx tile = s.tiles := by rw [← htile, List.set_getElem_self]
    rw [← set_eq_withEntries hlen, htiles]

end FloatingSpace

end Cidre.Floating
