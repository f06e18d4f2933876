/-
  Cidre.Floating.Sound

  The invariant of the floating layout, and that each operation keeps it.

  A child is above its parent, at any depth, as long as no window hangs on itself.
  Where a window gets another parent, that may be above it for a moment: bringing up
  what hangs on the parent puts the two in order again.
-/

import Cidre.Floating.Entries

namespace Cidre.Floating

open Cidre.Panic
open Cidre.Stacking
open Cidre.Utils.Logical

variable {W F : Type}

/-! ## The invariant -/

/-- `is_child_of`, of windows with the given parents -/
def isChildOf [DecidableEq W] (parent : W → Option W) (window other : W) : Bool :=
  parent window == some other

/-- No window hangs on itself. -/
def Acyclic (parent : W → Option W) : Prop :=
  ∀ window, ¬ Relation.TransGen (fun a b => parent a = some b) window window

theorem Acyclic.of_rank {parent : W → Option W} (rank : W → Nat)
    (h : ∀ a b, parent a = some b → rank b < rank a) : Acyclic parent := by
  have hlt : ∀ {a b : W}, Relation.TransGen (fun a b => parent a = some b) a b → rank b < rank a := by
    intro a b hab
    induction hab with
    | single hab => exact h _ _ hab
    | tail _ hbc ih => exact Nat.lt_trans (h _ _ hbc) ih
  exact fun window hcycle => Nat.lt_irrefl _ (hlt hcycle)

theorem acyclic_none : Acyclic fun _ : W => none :=
  Acyclic.of_rank (fun _ => 0) fun _ _ hparent => nomatch hparent

/-- The data of a tile is up to date: its size, its working area and its cache. -/
structure UpToDate (area : Rectangle) (e : Tile W F × Data) : Prop where
  size_eq : e.2.size = e.1.tileSize
  workingArea_eq : e.2.workingArea = area
  cached : e.2.Cached

/-- The active window is one of the entries, and there is one if there are any. -/
structure ActiveAmong (active : Option W) (es : List (Tile W F × Data)) : Prop where
  empty : active = none → es = []
  mem : ∀ id, active = some id → ∃ e ∈ es, e.1.id = id

theorem activeAmong_some {id : W} {es : List (Tile W F × Data)} {e : Tile W F × Data} (h : e ∈ es)
    (hid : e.1.id = id) : ActiveAmong (some id) es where
  empty hnone := nomatch hnone
  mem _ hsome := ⟨e, h, hid.trans (Option.some.inj hsome)⟩

theorem ActiveAmong.of_ids {active : Option W} {es es' : List (Tile W F × Data)}
    (h : ActiveAmong active es)
    (hids : ∀ id, id ∈ (es'.map fun e => e.1.id) ↔ id ∈ es.map fun e => e.1.id) :
    ActiveAmong active es' := by
  refine ⟨fun hnone => ?_, fun id hsome => ?_⟩
  · rw [h.empty hnone] at hids
    refine List.eq_nil_iff_forall_not_mem.mpr fun e he => ?_
    exact absurd ((hids e.1.id).mp (List.mem_map_of_mem he)) List.not_mem_nil
  · obtain ⟨e, he, hid⟩ := h.mem id hsome
    exact List.mem_map.mp ((hids id).mpr (List.mem_map.mpr ⟨e, he, hid⟩))

structure SoundEntries [DecidableEq W] (parent : W → Option W) (area : Rectangle)
    (active : Option W) (es : List (Tile W F × Data)) : Prop where
  nodup : (es.map fun e => e.1.id).Nodup
  stacked : Stacked (hangs (isChildOf parent)) es
  upToDate : ∀ e ∈ es, UpToDate area e
  active : ActiveAmong active es

structure FloatingSpace.Sound [DecidableEq W] (parent : W → Option W) (s : FloatingSpace W F) :
    Prop where
  length_eq : s.data.length = s.tiles.length
  entries : SoundEntries parent s.workingArea s.activeWindowId s.entries

variable [DecidableEq W] {parent : W → Option W} {area : Rectangle} {active : Option W}
  {es pre l : List (Tile W F × Data)} {e : Tile W F × Data}

theorem transGen_ids {e' : Tile W F × Data}
    (h : Relation.TransGen (fun a b => hangs (isChildOf parent) a b = true) e e') :
    Relation.TransGen (fun a b => parent a = some b) e.1.id e'.1.id := by
  induction h with
  | single hab => exact Relation.TransGen.single (beq_iff_eq.mp hab)
  | tail _ hab ih => exact ih.tail (beq_iff_eq.mp hab)

theorem Acyclic.not_hangs (h : Acyclic parent) (e : Tile W F × Data) :
    ¬ Relation.TransGen (fun a b => hangs (isChildOf parent) a b = true) e e :=
  fun hcycle => h e.1.id (transGen_ids hcycle)

theorem stacked_iff_ids : Stacked (hangs (isChildOf parent)) es ↔
    (es.map fun e => e.1.id).Pairwise fun above below => isChildOf parent below above = false := by
  rw [List.pairwise_map]
  rfl

theorem stacked_without (h : Stacked (hangs (isChildOf parent)) (pre ++ e :: l)) :
    Stacked (hangs (isChildOf parent)) (pre ++ l) :=
  List.Pairwise.sublist ((List.sublist_cons_self e l).append_left pre) h

theorem FloatingSpace.sound_withEntries {s : FloatingSpace W F}
    (h : SoundEntries parent s.workingArea s.activeWindowId es) : (s.withEntries es).Sound parent :=
  ⟨by simp, by simpa using h⟩

theorem FloatingSpace.Sound.withEntries_eq {s : FloatingSpace W F} (h : s.Sound parent) :
    s.withEntries s.entries = s := withEntries_entries h.length_eq

/-! ## Brought up -/

/-- The entries once what hangs on `e` is above it, which is the one that may have been
    out of order. -/
theorem SoundEntries.broughtUp (hacyclic : Acyclic parent)
    (hnodup : ((pre ++ e :: l).map fun e => e.1.id).Nodup)
    (hrest : Stacked (hangs (isChildOf parent)) (pre ++ l))
    (hpre : ∀ a ∈ pre, hangs (isChildOf parent) e a = false)
    (hupToDate : ∀ a ∈ pre ++ e :: l, UpToDate area a)
    (hactive : ActiveAmong active (pre ++ e :: l)) :
    SoundEntries parent area active (broughtUp (hangs (isChildOf parent)) pre e l) := by
  have hperm := broughtUp_perm (hangs (isChildOf parent)) pre e l
  refine ⟨?_, ?_, ?_, ?_⟩
  · exact (hperm.map _).nodup_iff.mpr hnodup
  · exact stacked_broughtUp hacyclic.not_hangs hrest hpre
  · exact fun a ha => hupToDate a (hperm.mem_iff.mp ha)
  · exact hactive.of_ids fun id => (hperm.map _).mem_iff

/-- What does not hang on the entry stays in its order. -/
theorem filter_ids_broughtUp {p : W → Bool}
    (hp : ∀ id, Relation.TransGen (fun a b => parent a = some b) id e.1.id → p id = false) :
    ((broughtUp (hangs (isChildOf parent)) pre e l).map fun e => e.1.id).filter p =
      ((pre ++ e :: l).map fun e => e.1.id).filter p := by
  rw [List.filter_map, List.filter_map]
  exact congrArg (List.map _) (filter_broughtUp fun a ha => hp a.1.id (transGen_ids ha))

theorem mem_broughtUp {a : Tile W F × Data} :
    a ∈ broughtUp (hangs (isChildOf parent)) pre e l ↔ a ∈ pre ++ e :: l :=
  (broughtUp_perm _ pre e l).mem_iff

/-! ## Operations on the order -/

namespace FloatingSpace

variable {s : FloatingSpace W F}

section

variable (h : s.Sound parent)
include h

theorem Sound.nodup_ids : s.ids.Nodup := by
  rw [← map_id_entries h.length_eq]
  exact h.entries.nodup

theorem Sound.addTileAt (hacyclic : Acyclic parent) {idx : Nat} (hidx : idx ≤ s.tiles.length)
    (tile : Tile W F) (hnew : tile.id ∉ s.ids) (activate : Bool) :
    Returns (s.addTileAt (isChildOf parent) idx tile activate) fun s' => s'.Sound parent := by
  rw [← length_entries h.length_eq] at hidx
  rw [← map_id_entries h.length_eq] at hnew
  rw [← h.withEntries_eq]
  refine (addTileAt_returns hidx tile activate).mono ?_
  rintro s' ⟨pre, e, l, hes, hid, hsize, hdata, hpre, rfl⟩
  have hsound := h.entries
  rw [hes] at hsound hnew ⊢
  refine sound_withEntries (SoundEntries.broughtUp hacyclic ?_ hsound.stacked hpre ?_ ?_)
  · rw [(List.perm_middle.map _).nodup_iff, List.map_cons]
    exact List.nodup_cons.mpr ⟨by rw [hid]; exact hnew, hsound.nodup⟩
  · intro a ha
    rcases List.mem_cons.mp (List.perm_middle.mem_iff.mp ha) with heq | ha
    · rw [heq]
      refine ⟨?_, ?_, ?_⟩
      · rw [hdata, Data.new_size, hsize]
      · rw [hdata, Data.new_workingArea]
      · rw [hdata]
        exact Data.new_cached _ _ _
    · exact hsound.upToDate a ha
  · show ActiveAmong (if activate || (pre ++ l).isEmpty then some tile.id else s.activeWindowId) _
    split
    · exact activeAmong_some (List.mem_append_right _ List.mem_cons_self) hid
    · next hkept =>
      refine ⟨fun hnone => ?_, fun id hsome => ?_⟩
      · rw [hsound.active.empty hnone] at hkept
        simp at hkept
      · obtain ⟨a, ha, hid⟩ := hsound.active.mem id hsome
        exact ⟨a, List.perm_middle.mem_iff.mpr (List.mem_cons_of_mem e ha), hid⟩

theorem Sound.activateWindow (hacyclic : Acyclic parent) (id : W) :
    Returns (s.activateWindow (isChildOf parent) id) fun p => p.1.Sound parent := by
  have hwith := h.withEntries_eq
  rw [← hwith]
  refine (activateWindow_returns id).mono ?_
  rintro ⟨s', answer⟩ (⟨rfl, -⟩ | ⟨pre, e, l, hes, hid, rfl⟩)
  · rw [hwith]
    exact h
  · have hsound := h.entries
    rw [hes] at hsound
    have hperm : (e :: (pre ++ l)).Perm (pre ++ e :: l) := List.perm_middle.symm
    refine sound_withEntries (SoundEntries.broughtUp hacyclic ?_ ?_ ?_ ?_ ?_)
    · exact (hperm.map _).nodup_iff.mpr hsound.nodup
    · rw [List.nil_append]
      exact stacked_without hsound.stacked
    · exact fun _ ha => nomatch ha
    · exact fun a ha => hsound.upToDate a (hperm.mem_iff.mp ha)
    · exact activeAmong_some List.mem_cons_self hid

theorem Sound.activateWindowWithoutRaising (id : W) :
    (s.activateWindowWithoutRaising id).1.Sound parent := by
  rw [FloatingSpace.activateWindowWithoutRaising]
  split
  · next hin =>
    refine ⟨h.length_eq, h.entries.nodup, h.entries.stacked, h.entries.upToDate, ?_⟩
    obtain ⟨tile, htile, hid⟩ := List.any_eq_true.mp hin
    have hmem : id ∈ s.ids := by
      rw [← beq_iff_eq.mp hid]
      exact List.mem_map_of_mem htile
    rw [← map_id_entries h.length_eq] at hmem
    obtain ⟨e, he, hid⟩ := List.mem_map.mp hmem
    exact activeAmong_some he hid
  · exact h

theorem Sound.removeTile {id : W} (hid : id ∈ s.ids) :
    Returns (s.removeTile id) fun p => p.1.id = id ∧ p.2.Sound parent := by
  rw [← map_id_entries h.length_eq] at hid
  rw [← h.withEntries_eq]
  refine (removeTile_returns hid).mono ?_
  rintro ⟨tile, s'⟩ ⟨pre, e, l, hes, hid, htile, -, -, rfl⟩
  have hsound := h.entries
  rw [hes] at hsound
  have hsub : (pre ++ l).Sublist (pre ++ e :: l) := (List.sublist_cons_self e l).append_left pre
  refine ⟨htile, sound_withEntries ⟨hsound.nodup.sublist (hsub.map _), hsound.stacked.sublist hsub,
    fun a ha => hsound.upToDate a (hsub.subset ha), ?_⟩⟩
  show ActiveAmong (activeAfterRemoval s.activeWindowId id (pre ++ l)) (pre ++ l)
  cases hrest : pre ++ l with
  | nil => exact ⟨fun _ => rfl, fun _ hsome => nomatch hsome⟩
  | cons top rest =>
    rw [activeAfterRemoval]
    split
    · exact activeAmong_some List.mem_cons_self rfl
    · next hother =>
      refine ⟨fun hnone => ?_, fun id' hsome => ?_⟩
      · have hempty := hsound.active.empty hnone
        simp at hempty
      · obtain ⟨a, ha, hid'⟩ := hsound.active.mem id' hsome
        rw [← hrest]
        rcases List.mem_cons.mp (List.perm_middle.mem_iff.mp ha) with rfl | ha
        · rw [hsome, ← hid, hid'] at hother
          exact absurd rfl hother
        · exact ⟨a, ha, hid'⟩

/-- The window gets another parent, and what hangs on that is brought up. -/
theorem Sound.parentChanged {window : W} {newParent : Option W}
    (hacyclic : Acyclic (Function.update parent window newParent)) :
    Returns (s.parentChanged (isChildOf (Function.update parent window newParent)) newParent)
      fun s' => s'.Sound (Function.update parent window newParent) := by
  -- Only the window hangs on something new, and only on its parent.
  have hother : ∀ a b : W, newParent ≠ some b → isChildOf parent a b = false →
      isChildOf (Function.update parent window newParent) a b = false := by
    intro a b hb hab
    by_cases heq : a = window
    · subst heq
      rw [isChildOf, Function.update_self]
      exact beq_eq_false_iff_ne.mpr hb
    · rw [isChildOf, Function.update_of_ne heq]
      exact hab
  have hsound := h.entries
  have hwith := h.withEntries_eq
  cases newParent with
  | none =>
    refine returns_some ⟨h.length_eq, hsound.nodup, ?_, hsound.upToDate, hsound.active⟩
    exact hsound.stacked.imp fun {a b} hab => hother _ _ (by simp) hab
  | some id =>
    rw [← hwith]
    refine (descendantsAdded_returns id).bind ?_
    rintro ⟨s', answer⟩ (⟨rfl, hnone⟩ | ⟨pre, e, l, hes, hid, rfl⟩)
    · rw [hwith] at hnone ⊢
      refine returns_some ⟨h.length_eq, hsound.nodup, ?_, hsound.upToDate, hsound.active⟩
      have habsent : ∀ a ∈ s.entries, a.1.id ≠ id := by
        intro a ha heq
        have hmem : a.1 ∈ s.tiles := (List.of_mem_zip (show (a.1, a.2) ∈ s.tiles.zip s.data from ha)).1
        have hnot := List.findIdx?_eq_none_iff.mp hnone a.1 hmem
        simp [heq] at hnot
      refine hsound.stacked.imp_of_mem fun {a b} ha _ hab => hother _ _ ?_ hab
      exact fun heq => habsent a ha (Option.some.inj heq).symm
    · rw [hes] at hsound
      have hapart : ∀ a ∈ pre ++ l, some id ≠ some a.1.id := by
        intro a ha heq
        have hnodup := (List.perm_middle.map fun e : Tile W F × Data => e.1.id).nodup_iff.mp hsound.nodup
        rw [List.map_cons, List.nodup_cons] at hnodup
        refine hnodup.1 (List.mem_map.mpr ⟨a, ha, ?_⟩)
        rw [hid]
        exact (Option.some.inj heq).symm
      refine returns_some (sound_withEntries (SoundEntries.broughtUp hacyclic hsound.nodup ?_ ?_
        hsound.upToDate hsound.active))
      · exact (stacked_without hsound.stacked).imp_of_mem fun {a b} ha _ hab =>
          hother _ _ (hapart a ha) hab
      · intro a ha
        have hpe := (List.pairwise_append.mp hsound.stacked).2.2 a ha e List.mem_cons_self
        exact hother _ _ (hapart a (List.mem_append_left l ha)) hpe

/-! ## Operations on the positions -/

/-- The tile of an entry is replaced by one of the same window, with its data. -/
theorem Sound.setEntry {idx : Nat} {e e' : Tile W F × Data} (hget : s.entries[idx]? = some e)
    (hid : e'.1.id = e.1.id) (he' : UpToDate s.workingArea e') :
    (s.withEntries (s.entries.set idx e')).Sound parent := by
  have hids := Vec.map_set_of_eq (fun e : Tile W F × Data => e.1.id) hget hid
  have hsound := h.entries
  refine sound_withEntries ⟨?_, ?_, ?_, ?_⟩
  · rw [hids]
    exact hsound.nodup
  · rw [stacked_iff_ids, hids, ← stacked_iff_ids]
    exact hsound.stacked
  · intro a ha
    rcases List.mem_or_eq_of_mem_set ha with ha | rfl
    · exact hsound.upToDate a ha
    · exact he'
  · exact hsound.active.of_ids fun id => by rw [hids]

theorem Sound.updateWindow (id : W) (mode : Layout.SizingMode) (tileSize : Size)
    (edges : Option Layout.ResizeEdge) :
    Returns (s.updateWindow id mode tileSize edges) fun p => p.1.Sound parent := by
  refine (updateWindow_returns h.length_eq id mode tileSize edges).mono ?_
  rintro ⟨s', answer⟩ (rfl | ⟨idx, tile, d, d', hget, -, hd', rfl⟩)
  · exact h
  · have hupToDate := h.entries.upToDate _ (List.mem_of_getElem? hget)
    have harea : (d.update tileSize).workingArea = s.workingArea :=
      (Data.update_workingArea _ _).trans hupToDate.workingArea_eq
    refine h.setEntry hget rfl ?_
    rcases hd' with rfl | ⟨p, rfl⟩
    · exact ⟨Data.update_size _ _, harea, hupToDate.cached.update _⟩
    · exact ⟨Data.update_size _ _, harea, Data.setLogicalPos_cached _ _⟩

theorem Sound.moveTarget {id : Option W} (newPos : Data → Point)
    (hid : ∀ w, (id.orElse fun _ => s.activeWindowId) = some w → w ∈ s.ids) :
    Returns (s.moveTarget id newPos) fun s' => s'.Sound parent := by
  refine (moveTarget_returns h.length_eq newPos hid).mono ?_
  rintro s' (rfl | ⟨idx, tile, d, hget, -, rfl⟩)
  · exact h
  · have hupToDate := h.entries.upToDate _ (List.mem_of_getElem? hget)
    exact h.setEntry hget rfl
      ⟨hupToDate.size_eq, hupToDate.workingArea_eq, Data.setLogicalPos_cached _ _⟩

/-- The entries are the same windows, and fit into the working area there is now. -/
theorem Sound.of_map {s' : FloatingSpace W F} (f : Tile W F × Data → Tile W F × Data)
    (hlen : s'.data.length = s'.tiles.length) (hentries : s'.entries = s.entries.map f)
    (hactive : s'.activeWindowId = s.activeWindowId) (hid : ∀ e, (f e).1.id = e.1.id)
    (hupToDate : ∀ e ∈ s.entries, UpToDate s'.workingArea (f e)) :
    s'.Sound parent ∧ s'.ids = s.ids := by
  have hids : (s'.entries.map fun e => e.1.id) = s.entries.map fun e => e.1.id := by
    rw [hentries, List.map_map]
    exact List.map_congr_left fun e _ => hid e
  refine ⟨⟨hlen, ?_, ?_, ?_, ?_⟩, ?_⟩
  · rw [hids]
    exact h.entries.nodup
  · rw [stacked_iff_ids, hids, ← stacked_iff_ids]
    exact h.entries.stacked
  · intro e he
    rw [hentries, List.mem_map] at he
    obtain ⟨e₀, he₀, rfl⟩ := he
    exact hupToDate e₀ he₀
  · rw [hactive]
    exact h.entries.active.of_ids fun id => by rw [hids]
  · rw [← map_id_entries hlen, hids, map_id_entries h.length_eq]

theorem Sound.updateConfig (area : Rectangle) (options : Layout.Options F)
    (tileSize : Tile W F → Size) :
    (s.updateConfig area options tileSize).Sound parent ∧
      (s.updateConfig area options tileSize).ids = s.ids := by
  refine h.of_map _ ?_ (entries_updateConfig area options tileSize s) rfl (fun _ => rfl) ?_
  · show (List.zipWith _ s.tiles s.data).length = (s.tiles.map _).length
    rw [List.length_zipWith, List.length_map, h.length_eq, Nat.min_self]
  · intro e he
    exact ⟨by rw [Data.updateConfig_size, Data.update_size], Data.updateConfig_workingArea _ _,
      ((h.entries.upToDate e he).cached.update _).updateConfig _⟩

theorem Sound.tilesMut {f : Tile W F → Tile W F} (hid : ∀ tile, (f tile).id = tile.id)
    (hsize : ∀ tile, (f tile).tileSize = tile.tileSize) :
    (s.tilesMut f).Sound parent ∧ (s.tilesMut f).ids = s.ids := by
  refine h.of_map _ ?_ (entries_tilesMut s f) rfl (fun e => hid e.1) fun e he => ?_
  · show s.data.length = (s.tiles.map f).length
    rw [List.length_map, h.length_eq]
  · obtain ⟨hsize_eq, harea, hcached⟩ := h.entries.upToDate e he
    exact ⟨hsize_eq.trans (hsize e.1).symm, harea, hcached⟩

end

end FloatingSpace

end Cidre.Floating
