/-
  Cidre.Floating.Order

  What the operations of the floating layout leave as it was.

  A tile that comes in, or is raised, takes what hangs on it along.  The others stay in
  their order, whatever they are: any choice of windows that leaves those out is in the
  same order before and after.
-/

import Cidre.Floating.Sound

namespace Cidre.Floating

open Cidre.Panic
open Cidre.Stacking
open Cidre.Utils.Logical

variable {W F : Type}

/-- The window is `root`, or hangs on it at some depth. -/
def HangsOn (parent : W → Option W) (root window : W) : Prop :=
  Relation.ReflTransGen (fun a b => parent a = some b) window root

/-- The windows that are not moved are in the order they were in, and an entry of a
    window that is not changed was there. -/
structure Keeps (moved changed : W → Prop) (s s' : FloatingSpace W F) : Prop where
  order : ∀ p : W → Bool, (∀ id, moved id → p id = false) → s'.ids.filter p = s.ids.filter p
  entries : ∀ e ∈ s'.entries, changed e.1.id ∨ e ∈ s.entries

theorem Keeps.refl (moved changed : W → Prop) (s : FloatingSpace W F) : Keeps moved changed s s :=
  ⟨fun _ _ => rfl, fun _ he => Or.inr he⟩

theorem Keeps.of_ids {moved changed : W → Prop} {s s' : FloatingSpace W F} (hids : s'.ids = s.ids)
    (hentries : ∀ e ∈ s'.entries, changed e.1.id ∨ e ∈ s.entries) : Keeps moved changed s s' :=
  ⟨fun p _ => by rw [hids], hentries⟩

theorem Keeps.ids_eq {changed : W → Prop} {s s' : FloatingSpace W F}
    (h : Keeps (fun _ => False) changed s s') : s'.ids = s.ids := by
  have hall := h.order (fun _ => true) fun _ hfalse => hfalse.elim
  rwa [List.filter_true, List.filter_true] at hall

theorem Keeps.mono {moved moved' changed changed' : W → Prop} {s s' : FloatingSpace W F}
    (h : Keeps moved changed s s')
    (hmoved : ∀ id, moved id → moved' id) (hchanged : ∀ id, changed id → changed' id) :
    Keeps moved' changed' s s' :=
  ⟨fun p hp => h.order p fun id hid => hp id (hmoved id hid),
    fun e he => (h.entries e he).imp_left (hchanged _)⟩

namespace FloatingSpace

variable [DecidableEq W] {parent : W → Option W} {s : FloatingSpace W F}

theorem Sound.addTileAt_keeps (h : s.Sound parent) {idx : Nat} (hidx : idx ≤ s.tiles.length)
    (tile : Tile W F) (activate : Bool) :
    Returns (s.addTileAt (isChildOf parent) idx tile activate)
      (Keeps (HangsOn parent tile.id) (· = tile.id) s) := by
  rw [← length_entries h.length_eq] at hidx
  rw [← h.withEntries_eq]
  refine (addTileAt_returns hidx tile activate).mono ?_
  rintro s' ⟨pre, e, l, hes, hid, -, -, -, rfl⟩
  rw [hes]
  refine ⟨fun p hp => ?_, fun a ha => ?_⟩
  · rw [ids_withEntries, ids_withEntries, filter_ids_broughtUp, filter_ids_without]
    · rw [hid]
      exact hp _ Relation.ReflTransGen.refl
    · intro id hhangs
      rw [hid] at hhangs
      exact hp id hhangs.to_reflTransGen
  · rw [entries_withEntries, mem_broughtUp] at ha
    rw [entries_withEntries]
    rcases List.mem_cons.mp (List.perm_middle.mem_iff.mp ha) with rfl | ha
    · exact Or.inl hid
    · exact Or.inr ha

theorem Sound.activateWindow_keeps (h : s.Sound parent) (id : W) :
    Returns (s.activateWindow (isChildOf parent) id) fun p =>
      Keeps (HangsOn parent id) (fun _ => False) s p.1 := by
  rw [← h.withEntries_eq]
  refine (activateWindow_returns id).mono ?_
  rintro ⟨s', answer⟩ (⟨rfl, -⟩ | ⟨pre, e, l, hes, hid, rfl⟩)
  · exact Keeps.refl _ _ _
  · rw [hes]
    refine ⟨fun p hp => ?_, fun a ha => ?_⟩
    · have he : p e.1.id = false := by
        rw [hid]
        exact hp id Relation.ReflTransGen.refl
      rw [ids_withEntries, ids_withEntries, filter_ids_broughtUp, filter_ids_without he,
        filter_ids_without he, List.nil_append]
      intro id' hhangs
      rw [hid] at hhangs
      exact hp id' hhangs.to_reflTransGen
    · rw [entries_withEntries, mem_broughtUp] at ha
      rw [entries_withEntries]
      exact Or.inr (List.perm_middle.mem_iff.mpr ha)

theorem Sound.parentChanged_keeps (h : s.Sound parent) (newParents : W → Option W)
    (newParent : Option W) :
    Returns (s.parentChanged (isChildOf newParents) newParent)
      (Keeps (fun w => ∃ id, newParent = some id ∧
        Relation.TransGen (fun a b => newParents a = some b) w id) (fun _ => False) s) := by
  cases newParent with
  | none => exact returns_some (Keeps.refl _ _ _)
  | some id =>
    rw [← h.withEntries_eq]
    refine (descendantsAdded_returns id).bind ?_
    rintro ⟨s', answer⟩ (⟨rfl, -⟩ | ⟨pre, e, l, hes, hid, rfl⟩)
    · exact returns_some (Keeps.refl _ _ _)
    · rw [hes]
      refine returns_some ⟨fun p hp => ?_, fun a ha => ?_⟩
      · rw [ids_withEntries, ids_withEntries, filter_ids_broughtUp]
        intro id' hhangs
        rw [hid] at hhangs
        exact hp id' ⟨id, rfl, hhangs⟩
      · rw [entries_withEntries, mem_broughtUp] at ha
        rw [entries_withEntries]
        exact Or.inr ha

theorem Sound.removeTile_keeps (h : s.Sound parent) {id : W} (hid : id ∈ s.ids) :
    Returns (s.removeTile id) fun p => Keeps (· = id) (fun _ => False) s p.2 := by
  rw [← map_id_entries h.length_eq] at hid
  rw [← h.withEntries_eq]
  refine (removeTile_returns hid).mono ?_
  rintro ⟨tile, s'⟩ ⟨pre, e, l, hes, hid, -, -, -, rfl⟩
  rw [hes]
  refine ⟨fun p hp => ?_, fun a ha => ?_⟩
  · rw [ids_withEntries, ids_withEntries, filter_ids_without (hp _ hid)]
  · rw [entries_withEntries] at ha ⊢
    exact Or.inr (List.perm_middle.mem_iff.mpr (List.mem_cons_of_mem e ha))

theorem activateWindowWithoutRaising_keeps (id : W) (moved : W → Prop) :
    Keeps moved (fun _ => False) s (s.activateWindowWithoutRaising id).1 := by
  rw [activateWindowWithoutRaising]
  split
  · exact Keeps.of_ids rfl fun _ he => Or.inr he
  · exact Keeps.refl _ _ _

theorem Sound.setEntry_keeps (h : s.Sound parent) {idx : Nat} {e : Tile W F × Data}
    (hget : s.entries[idx]? = some e) (e' : Tile W F × Data) (hid : e'.1.id = e.1.id)
    (moved : W → Prop) :
    Keeps moved (· = e.1.id) s (s.withEntries (s.entries.set idx e')) := by
  refine Keeps.of_ids ?_ fun a ha => ?_
  · rw [ids_withEntries, Vec.map_set_of_eq (fun e : Tile W F × Data => e.1.id) hget hid,
      map_id_entries h.length_eq]
  · rw [entries_withEntries] at ha
    rcases List.mem_or_eq_of_mem_set ha with ha | rfl
    · exact Or.inr ha
    · exact Or.inl hid

theorem Sound.updateWindow_keeps (h : s.Sound parent) (id : W) (mode : Layout.SizingMode)
    (tileSize : Size) (edges : Option Layout.ResizeEdge) (moved : W → Prop) :
    Returns (s.updateWindow id mode tileSize edges) fun p => Keeps moved (· = id) s p.1 := by
  refine (updateWindow_returns h.length_eq id mode tileSize edges).mono ?_
  rintro ⟨s', answer⟩ (rfl | ⟨idx, tile, d, d', hget, rfl, -, rfl⟩)
  · exact Keeps.refl _ _ _
  · exact h.setEntry_keeps hget ({ tile with tileSize := tileSize, sizingMode := mode }, d') rfl moved

theorem Sound.moveTarget_keeps (h : s.Sound parent) {id : Option W} (newPos : Data → Point)
    (hid : ∀ w, (id.orElse fun _ => s.activeWindowId) = some w → w ∈ s.ids) (moved : W → Prop) :
    Returns (s.moveTarget id newPos)
      (Keeps moved (fun w => (id.orElse fun _ => s.activeWindowId) = some w) s) := by
  refine (moveTarget_returns h.length_eq newPos hid).mono ?_
  rintro s' (rfl | ⟨idx, tile, d, hget, htarget, rfl⟩)
  · exact Keeps.refl _ _ _
  · have hkeeps := h.setEntry_keeps hget (tile, d.setLogicalPos (newPos d)) rfl moved
    exact ⟨hkeeps.order, fun a ha =>
      (hkeeps.entries a ha).imp_left fun heq => htarget.trans (congrArg some heq.symm)⟩

/-! ## The windows -/

theorem Sound.activateWindow_ids (h : s.Sound parent) (id : W) :
    Returns (s.activateWindow (isChildOf parent) id) fun p =>
      p.1.ids.Perm s.ids ∧ (p.2 = true → id ∈ s.ids) := by
  rw [← h.withEntries_eq]
  refine (activateWindow_returns id).mono ?_
  rintro ⟨s', answer⟩ (⟨rfl, hnot⟩ | ⟨pre, e, l, hes, hid, rfl⟩)
  · refine ⟨List.Perm.refl _, fun hfound => ?_⟩
    rw [show answer = false from hnot] at hfound
    cases hfound
  · rw [hes, ids_withEntries, ids_withEntries]
    refine ⟨((broughtUp_perm _ [] e (pre ++ l)).trans List.perm_middle.symm).map _, fun _ => ?_⟩
    exact List.mem_map.mpr ⟨e, List.mem_append_right _ List.mem_cons_self, hid⟩

theorem Sound.parentChanged_ids (h : s.Sound parent) (newParents : W → Option W)
    (newParent : Option W) :
    Returns (s.parentChanged (isChildOf newParents) newParent) fun s' => s'.ids.Perm s.ids := by
  cases newParent with
  | none => exact returns_some (List.Perm.refl _)
  | some id =>
    rw [← h.withEntries_eq]
    refine (descendantsAdded_returns id).bind ?_
    rintro ⟨s', answer⟩ (⟨rfl, -⟩ | ⟨pre, e, l, hes, hid, rfl⟩)
    · exact returns_some (List.Perm.refl _)
    · rw [hes, ids_withEntries]
      refine returns_some ?_
      rw [ids_withEntries]
      exact (broughtUp_perm _ pre e l).map _

theorem Sound.addTileAt_ids (h : s.Sound parent) {idx : Nat} (hidx : idx ≤ s.tiles.length)
    (tile : Tile W F) (activate : Bool) :
    Returns (s.addTileAt (isChildOf parent) idx tile activate) fun s' =>
      s'.ids.Perm (tile.id :: s.ids) := by
  rw [← length_entries h.length_eq] at hidx
  rw [← h.withEntries_eq]
  refine (addTileAt_returns hidx tile activate).mono ?_
  rintro s' ⟨pre, e, l, hes, hid, -, -, -, rfl⟩
  rw [hes, ids_withEntries, ids_withEntries]
  have hperm := (broughtUp_perm (hangs (isChildOf parent)) pre e l).map
    fun e : Tile W F × Data => e.1.id
  rw [← hid]
  exact hperm.trans (List.perm_middle.map _)

theorem Sound.removeTile_ids (h : s.Sound parent) {id : W} (hid : id ∈ s.ids) :
    Returns (s.removeTile id) fun p => s.ids.Perm (id :: p.2.ids) := by
  rw [← map_id_entries h.length_eq] at hid
  rw [← h.withEntries_eq]
  refine (removeTile_returns hid).mono ?_
  rintro ⟨tile, s'⟩ ⟨pre, e, l, hes, hid, -, -, -, rfl⟩
  rw [hes, ids_withEntries, ids_withEntries, ← hid]
  exact List.perm_middle.map fun e : Tile W F × Data => e.1.id

end FloatingSpace

end Cidre.Floating
