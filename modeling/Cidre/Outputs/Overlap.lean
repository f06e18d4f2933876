/-
  Cidre.Outputs.Overlap

  When the outputs do not overlap.

  An output that is placed automatically is to the right of all others.  One that
  is placed where its configuration says is kept apart from those before it by a
  check with its rounded size, while the space gives it the size rounded up: the
  result is free of overlaps just when the check with the larger size would never
  have said otherwise.
-/

import Mathlib.Data.List.Pairwise
import Cidre.Outputs.Placement

namespace Cidre.Outputs

/-! ## Rectangles -/

namespace Rectangle

theorem overlaps_iff (a b : Rectangle) : a.overlaps b = true ↔
    a.loc.x < b.loc.x + b.size.w ∧ b.loc.x < a.loc.x + a.size.w ∧
      a.loc.y < b.loc.y + b.size.h ∧ b.loc.y < a.loc.y + a.size.h := by
  simp only [overlaps, Bool.and_eq_true, decide_eq_true_eq, and_assoc]

theorem Disjoint.symm {a b : Rectangle} (h : a.Disjoint b) : b.Disjoint a :=
  fun p hb ha => h p ha hb

/-- Rectangles that are not empty are disjoint if they do not overlap. -/
theorem disjoint_iff {a b : Rectangle} (ha : 0 < a.size.w ∧ 0 < a.size.h)
    (hb : 0 < b.size.w ∧ 0 < b.size.h) : a.Disjoint b ↔ a.overlaps b = false := by
  rw [← Bool.not_eq_true, overlaps_iff]
  constructor
  · rintro hdisjoint ⟨hx, hx', hy, hy'⟩
    -- The corner both have.
    refine hdisjoint ⟨max a.loc.x b.loc.x, max a.loc.y b.loc.y⟩ ?_ ?_
    · refine ⟨?_, ?_, ?_, ?_⟩ <;> simp only <;> omega
    · refine ⟨?_, ?_, ?_, ?_⟩ <;> simp only <;> omega
  · rintro hnot p ⟨h₁, h₂, h₃, h₄⟩ ⟨h₁', h₂', h₃', h₄'⟩
    exact hnot ⟨by omega, by omega, by omega, by omega⟩

theorem overlaps_mono {a : Rectangle} {pos : Point} {size size' : Size} (hw : size.w ≤ size'.w)
    (hh : size.h ≤ size'.h) (h : a.overlaps ⟨pos, size⟩ = true) :
    a.overlaps ⟨pos, size'⟩ = true := by
  rw [overlaps_iff] at h ⊢
  simp only at h ⊢
  omega

end Rectangle

namespace LogicalSize

theorem ceil_pos {x : Rat} (h : 0 < x) : 0 < x.ceil := by
  rw [Rat.lt_ceil_iff]
  exact_mod_cast h

theorem round_le_ceil (x : Rat) : (x + 1 / 2).floor ≤ x.ceil := by
  have hlt : (x + 1 / 2).floor < x.ceil + 1 := by
    rw [Rat.floor_lt_iff]
    have hle : x ≤ (x.ceil : Rat) := Rat.le_ceil
    push_cast
    linarith
  omega

theorem toI32Ceil_pos (size : LogicalSize) : 0 < size.toI32Ceil.w ∧ 0 < size.toI32Ceil.h :=
  ⟨ceil_pos size.w_pos, ceil_pos size.h_pos⟩

theorem toI32Round_le (size : LogicalSize) :
    size.toI32Round.w ≤ size.toI32Ceil.w ∧ size.toI32Round.h ≤ size.toI32Ceil.h :=
  ⟨round_le_ceil size.w, round_le_ceil size.h⟩

end LogicalSize

/-! ## The space -/

namespace Space

variable {api : SpaceApi} {space : Space api} {output : Output} {loc : Point}

theorem nodup (space : Space api) : (space.mapped.map Prod.fst).Nodup := api.nodup space.state

theorem location_eq_some_iff : space.location output = some loc ↔ (output, loc) ∈ space.mapped := by
  rw [location, Option.map_eq_some_iff]
  constructor
  · rintro ⟨⟨o, p⟩, hfind, rfl⟩
    have heq : o = output := by simpa using List.find?_some hfind
    rw [← heq]
    exact List.mem_of_find?_eq_some hfind
  · intro hmem
    have hsome : (space.mapped.find? fun e => e.1 = output).isSome := by
      rw [List.find?_isSome]
      exact ⟨_, hmem, by simp⟩
    obtain ⟨⟨o, p⟩, hfind⟩ := Option.isSome_iff_exists.mp hsome
    have heq : o = output := by simpa using List.find?_some hfind
    subst heq
    have hinj := List.inj_on_of_nodup_map space.nodup (List.mem_of_find?_eq_some hfind) hmem rfl
    exact ⟨(o, p), hfind, congrArg Prod.snd hinj⟩

theorem geometries_eq (space : Space api) :
    space.geometries = space.mapped.map fun e => ⟨e.2, e.1.size.toI32Ceil⟩ := by
  rw [geometries, outputs, List.filterMap_map]
  rw [← List.filterMap_eq_map]
  refine List.filterMap_congr fun e he => ?_
  have hloc : space.location e.1 = some e.2 := location_eq_some_iff.mpr he
  simp [outputGeometry, hloc]

theorem mapOutput_mapped (h : output ∉ space.outputs) (loc : Point) :
    (space.mapOutput output loc).mapped = space.mapped ++ [(output, loc)] :=
  api.mapped_mapOutput space.state output loc h

theorem mem_unmapAll {config : List Data} {e : Output × Point} :
    e ∈ (config.foldl (fun space d => space.unmapOutput d.output) space).mapped ↔
      e ∈ space.mapped ∧ ∀ d ∈ config, e.1 ≠ d.output := by
  induction config generalizing space with
  | nil => simp
  | cons d config ih =>
    have hunmap : (space.unmapOutput d.output).mapped =
        space.mapped.filter fun e => e.1 ≠ d.output := api.mapped_unmapOutput space.state d.output
    rw [List.foldl_cons, ih, hunmap]
    simp [and_assoc]

/-- No two outputs have a point in common. -/
def NoOverlap (space : Space api) : Prop :=
  ∀ o ∈ space.outputs, ∀ o' ∈ space.outputs, o ≠ o' → ∀ g g',
    space.outputGeometry o = some g → space.outputGeometry o' = some g' → g.Disjoint g'

theorem outputGeometry_eq_some_iff {g : Rectangle} : space.outputGeometry output = some g ↔
    ∃ loc, (output, loc) ∈ space.mapped ∧ g = ⟨loc, output.size.toI32Ceil⟩ := by
  rw [outputGeometry, Option.map_eq_some_iff]
  constructor
  · rintro ⟨loc, hloc, rfl⟩
    exact ⟨loc, location_eq_some_iff.mp hloc, rfl⟩
  · rintro ⟨loc, hmem, rfl⟩
    exact ⟨loc, location_eq_some_iff.mpr hmem, rfl⟩

theorem noOverlap_iff : space.NoOverlap ↔ space.geometries.Pairwise Rectangle.Disjoint := by
  rw [geometries_eq, List.pairwise_map]
  constructor
  · intro h
    refine List.Nodup.pairwise_of_forall_ne space.nodup.of_map fun e he e' he' hne => ?_
    have hne' : e.1 ≠ e'.1 := fun heq => hne (List.inj_on_of_nodup_map space.nodup he he' heq)
    exact h e.1 (List.mem_map_of_mem he) e'.1 (List.mem_map_of_mem he') hne' _ _
      (outputGeometry_eq_some_iff.mpr ⟨e.2, he, rfl⟩)
      (outputGeometry_eq_some_iff.mpr ⟨e'.2, he', rfl⟩)
  · intro h o _ o' _ hne g g' hg hg'
    obtain ⟨loc, hmem, rfl⟩ := outputGeometry_eq_some_iff.mp hg
    obtain ⟨loc', hmem', rfl⟩ := outputGeometry_eq_some_iff.mp hg'
    have hsymm : Std.Symm fun a b : Output × Point => Rectangle.Disjoint
        ⟨a.2, a.1.size.toI32Ceil⟩ ⟨b.2, b.1.size.toI32Ceil⟩ := ⟨fun _ _ hd => hd.symm⟩
    exact h.forall hmem hmem' fun heq => hne (congrArg Prod.fst heq)

end Space

/-! ## Placing the outputs -/

namespace Niri

/-- The geometry of one more output, with its position checked for `size`. -/
def placed (geometries : List Rectangle) (size : LogicalSize → Size) (d : Data) : Rectangle :=
  ⟨newPosition geometries (size d.output.size) d.config, d.output.size.toI32Ceil⟩

/-- The geometries once the outputs of `order` are placed. -/
def placedAll (geometries : List Rectangle) (size : LogicalSize → Size) :
    List Data → List Rectangle
  | [] => geometries
  | d :: order => placedAll (geometries ++ [placed geometries size d]) size order

/-- No configured position is refused for the size rounded up and accepted for the
    rounded one, in the order the outputs are placed in and among outputs that
    were placed by their size rounded up. -/
def RoundingAgrees (geometries : List Rectangle) : List Data → Prop
  | [] => True
  | d :: order =>
      (∀ pos ∈ d.config,
        geometries.any (fun g => g.overlaps ⟨pos, d.output.size.toI32Ceil⟩) = true →
        geometries.any (fun g => g.overlaps ⟨pos, d.output.size.toI32Round⟩) = true) ∧
      RoundingAgrees (geometries ++ [placed geometries LogicalSize.toI32Ceil d]) order

instance instDecidableRoundingAgrees : (geometries : List Rectangle) → (order : List Data) →
    Decidable (RoundingAgrees geometries order)
  | _, [] => isTrue trivial
  | geometries, d :: order =>
      have : Decidable (RoundingAgrees (geometries ++ [placed geometries LogicalSize.toI32Ceil d])
          order) := instDecidableRoundingAgrees _ order
      inferInstanceAs (Decidable (_ ∧ _))

variable {api : SpaceApi} {geometries : List Rectangle} {d : Data}

theorem le_rightEdge {g : Rectangle} (h : g ∈ geometries) :
    g.loc.x + g.size.w ≤ rightEdge geometries := by
  have hmem : g.loc.x + g.size.w ∈ geometries.map fun g => g.loc.x + g.size.w :=
    List.mem_map_of_mem h
  obtain ⟨x, hx⟩ := Option.isSome_iff_exists.mp (List.isSome_max?_of_mem hmem)
  rw [rightEdge, hx]
  exact (List.max?_eq_some_iff.mp hx).2 _ hmem

/-- An output checked with the size it gets is apart from those before it. -/
theorem placed_disjoint (hpos : ∀ g ∈ geometries, 0 < g.size.w ∧ 0 < g.size.h)
    {g : Rectangle} (hg : g ∈ geometries) :
    g.Disjoint (placed geometries LogicalSize.toI32Ceil d) := by
  rw [Rectangle.disjoint_iff (hpos g hg) d.output.size.toI32Ceil_pos, placed, newPosition]
  cases hconfig : d.config.filter fun pos =>
      !geometries.any fun g => g.overlaps ⟨pos, d.output.size.toI32Ceil⟩ with
  | none =>
    have hright := le_rightEdge hg
    rw [← Bool.not_eq_true, Rectangle.overlaps_iff]
    simp only [Option.getD_none]
    omega
  | some pos =>
    obtain ⟨-, hfree⟩ := Option.filter_eq_some_iff.mp hconfig
    rw [Bool.not_eq_true', List.any_eq_false] at hfree
    simpa using hfree g hg

theorem placed_pos (size : LogicalSize → Size) :
    0 < (placed geometries size d).size.w ∧ 0 < (placed geometries size d).size.h :=
  d.output.size.toI32Ceil_pos

/-- The two sizes place the output alike when the checks agree. -/
theorem placed_eq (h : ∀ pos ∈ d.config,
      geometries.any (fun g => g.overlaps ⟨pos, d.output.size.toI32Ceil⟩) = true →
      geometries.any (fun g => g.overlaps ⟨pos, d.output.size.toI32Round⟩) = true) :
    placed geometries LogicalSize.toI32Round d = placed geometries LogicalSize.toI32Ceil d := by
  rw [placed, placed, newPosition, newPosition]
  cases hconfig : d.config with
  | none => rfl
  | some pos =>
    have hiff : geometries.any (fun g => g.overlaps ⟨pos, d.output.size.toI32Round⟩) =
        geometries.any (fun g => g.overlaps ⟨pos, d.output.size.toI32Ceil⟩) := by
      rw [Bool.eq_iff_iff]
      refine ⟨?_, h pos hconfig⟩
      simp only [List.any_eq_true]
      rintro ⟨g, hg, hover⟩
      have hle := d.output.size.toI32Round_le
      exact ⟨g, hg, Rectangle.overlaps_mono hle.1 hle.2 hover⟩
    simp only [Option.filter_some, hiff]

theorem placedAll_extends (size : LogicalSize → Size) (order : List Data) :
    geometries <+: placedAll geometries size order := by
  induction order generalizing geometries with
  | nil => exact List.prefix_refl _
  | cons d order ih => exact (List.prefix_append _ _).trans ih

theorem placedAll_disjoint_iff (hpos : ∀ g ∈ geometries, 0 < g.size.w ∧ 0 < g.size.h)
    (hdisjoint : geometries.Pairwise Rectangle.Disjoint) (order : List Data) :
    (placedAll geometries LogicalSize.toI32Round order).Pairwise Rectangle.Disjoint ↔
      RoundingAgrees geometries order := by
  induction order generalizing geometries with
  | nil => exact iff_of_true hdisjoint trivial
  | cons d order ih =>
    rw [placedAll, RoundingAgrees]
    -- The next geometries are in order if the checks agree on this output.
    have hpos' : ∀ size, ∀ g ∈ geometries ++ [placed geometries size d],
        0 < g.size.w ∧ 0 < g.size.h := by
      intro size g hg
      rcases List.mem_append.mp hg with hg | hg
      · exact hpos g hg
      · rw [List.mem_singleton.mp hg]
        exact placed_pos size
    have hdisjoint' : (geometries ++ [placed geometries LogicalSize.toI32Ceil d]).Pairwise
        Rectangle.Disjoint := by
      refine List.pairwise_append.mpr ⟨hdisjoint, List.pairwise_singleton _ _, ?_⟩
      intro g hg g' hg'
      rw [List.mem_singleton.mp hg']
      exact placed_disjoint hpos hg
    constructor
    · intro h
      have hagree : ∀ pos ∈ d.config,
          geometries.any (fun g => g.overlaps ⟨pos, d.output.size.toI32Ceil⟩) = true →
          geometries.any (fun g => g.overlaps ⟨pos, d.output.size.toI32Round⟩) = true := by
        intro pos hconfig hceil
        rw [Option.mem_def] at hconfig
        by_contra hround
        -- The position is accepted, and the output overlaps there.
        have hplaced : placed geometries LogicalSize.toI32Round d =
            ⟨pos, d.output.size.toI32Ceil⟩ := by
          rw [placed, newPosition, hconfig, Option.filter_some, if_pos (by simpa using hround)]
          rfl
        obtain ⟨g, hg, hover⟩ := List.any_eq_true.mp hceil
        have hpair := h.sublist (placedAll_extends LogicalSize.toI32Round order).sublist
        have hd := (List.pairwise_append.mp hpair).2.2 g hg _ (List.mem_singleton_self _)
        rw [Rectangle.disjoint_iff (hpos g hg) (placed_pos _), hplaced, hover] at hd
        cases hd
      refine ⟨hagree, ?_⟩
      rw [placed_eq hagree] at h
      exact (ih (hpos' _) hdisjoint').mp h
    · rintro ⟨hagree, hrest⟩
      rw [placed_eq hagree]
      exact (ih (hpos' _) hdisjoint').mpr hrest

theorem place_mapped {niri : Niri api} (h : d.output ∉ niri.globalSpace.outputs) :
    (niri.place d).globalSpace.mapped = niri.globalSpace.mapped ++
      [(d.output, newPosition niri.globalSpace.geometries d.output.size.toI32Round d.config)] :=
  Space.mapOutput_mapped h _

theorem place_geometries {niri : Niri api} (h : d.output ∉ niri.globalSpace.outputs) :
    (niri.place d).globalSpace.geometries = niri.globalSpace.geometries ++
      [placed niri.globalSpace.geometries LogicalSize.toI32Round d] := by
  rw [Space.geometries_eq, place_mapped h, List.map_append, ← Space.geometries_eq]
  rfl

theorem place_outputs {niri : Niri api} (h : d.output ∉ niri.globalSpace.outputs) :
    (niri.place d).globalSpace.outputs = niri.globalSpace.outputs ++ [d.output] := by
  rw [Space.outputs, place_mapped h, List.map_append]
  rfl

theorem placeAll_geometries {niri : Niri api} {order : List Data}
    (hnodup : (niri.globalSpace.outputs ++ order.map Data.output).Nodup) :
    (order.foldl place niri).globalSpace.geometries =
      placedAll niri.globalSpace.geometries LogicalSize.toI32Round order := by
  induction order generalizing niri with
  | nil => rfl
  | cons d order ih =>
    have hnot : d.output ∉ niri.globalSpace.outputs := fun hmem =>
      (List.nodup_append.mp hnodup).2.2 _ hmem _ (by simp) rfl
    rw [List.foldl_cons, ih, place_geometries hnot]
    · rfl
    · rw [place_outputs hnot, List.append_assoc]
      exact hnodup

variable (s : SortUnstableBy) (config : List OutputConfig) (niri : Niri api)

theorem sortByFlag_perm {α : Type} (key : α → Bool) (l : List α) : (sortByFlag key l).Perm l := by
  have hfilter := List.filter_append_perm key l
  exact List.perm_append_comm.trans hfilter

theorem placementOrder_perm (space : Space api) (newOutput : Option Output) :
    (placementOrder s config space newOutput).Perm (collect config space newOutput) :=
  (sortByFlag_perm _ _).trans (s.perm _ _)

theorem collect_outputs (space : Space api) (newOutput : Option Output) :
    (collect config space newOutput).map Data.output = space.outputs ++ newOutput.toList := by
  rw [collect, List.map_map]
  exact List.map_id _

/-- The outputs are placed from scratch. -/
theorem unmapAll_eq (newOutput : Option Output) :
    ((collect config niri.globalSpace newOutput).foldl
      (fun space d => space.unmapOutput d.output) niri.globalSpace).mapped = [] := by
  rw [List.eq_nil_iff_forall_not_mem]
  intro e he
  obtain ⟨hmem, hnot⟩ := Space.mem_unmapAll.mp he
  have hout : e.1 ∈ (collect config niri.globalSpace newOutput).map Data.output := by
    rw [collect_outputs]
    exact List.mem_append_left _ (List.mem_map_of_mem hmem)
  obtain ⟨d, hd, heq⟩ := List.mem_map.mp hout
  exact hnot d hd heq.symm

theorem order_nodup {newOutput : Option Output}
    (hnew : ∀ o ∈ newOutput, o ∉ niri.globalSpace.outputs) :
    ((placementOrder s config niri.globalSpace newOutput).map Data.output).Nodup := by
  rw [((placementOrder_perm s config niri.globalSpace newOutput).map Data.output).nodup_iff,
    collect_outputs]
  refine List.nodup_append.mpr ⟨niri.globalSpace.nodup, ?_, ?_⟩
  · cases newOutput <;> simp
  · rintro a ha b hb rfl
    exact hnew a (Option.mem_toList.mp hb) ha

theorem repositionOutputs_geometries {newOutput : Option Output}
    (hnew : ∀ o ∈ newOutput, o ∉ niri.globalSpace.outputs) :
    (niri.repositionOutputs s config newOutput).globalSpace.geometries =
      placedAll [] LogicalSize.toI32Round (placementOrder s config niri.globalSpace newOutput) := by
  have hempty := unmapAll_eq config niri newOutput
  rw [repositionOutputs, placeAll_geometries]
  · rw [Space.geometries_eq, hempty]
    rfl
  · rw [Space.outputs, hempty]
    exact order_nodup s config niri hnew

theorem outputs_disjoint_iff (newOutput : Option Output)
    (hnew : ∀ o ∈ newOutput, o ∉ niri.globalSpace.outputs) :
    (niri.repositionOutputs s config newOutput).globalSpace.NoOverlap ↔
      RoundingAgrees [] (placementOrder s config niri.globalSpace newOutput) := by
  rw [Space.noOverlap_iff, repositionOutputs_geometries s config niri hnew]
  exact placedAll_disjoint_iff (by simp) List.Pairwise.nil _

/-- Sorting by insertion is one of the ways to sort. -/
def insertionSort : SortUnstableBy where
  sort cmp l := l.insertionSort fun a b => (cmp a b).isLE = true
  perm cmp l := List.perm_insertionSort _ l
  sorted cmp _ l := by
    have htotal : Std.Total fun a b => (cmp a b).isLE = true := ⟨fun a b => by
      rw [@Std.OrientedCmp.eq_swap _ cmp _ b a]
      cases cmp a b <;> simp⟩
    have htrans : IsTrans _ fun a b => (cmp a b).isLE = true := ⟨fun _ _ _ => Std.TransCmp.isLE_trans⟩
    exact List.pairwise_insertionSort _ l

/-- The outputs with their locations are one of the ways to keep them. -/
def listSpace : SpaceApi where
  State := { mapped : List (Output × Point) // (mapped.map Prod.fst).Nodup }
  mapped := Subtype.val
  nodup := Subtype.property
  empty := ⟨[], List.nodup_nil⟩
  mapped_empty := rfl
  unmapOutput state output :=
    ⟨state.1.filter fun e => e.1 ≠ output, (List.filter_sublist.map Prod.fst).nodup state.2⟩
  mapped_unmapOutput _ _ := rfl
  -- The real space keeps the place of an output that is mapped already; none is here.
  mapOutput state output loc :=
    ⟨(state.1.filter fun e => e.1 ≠ output) ++ [(output, loc)], by
      rw [List.map_append]
      refine List.nodup_append.mpr
        ⟨(List.filter_sublist.map Prod.fst).nodup state.2, by simp, ?_⟩
      rintro a ha b hb rfl
      obtain ⟨e, he, rfl⟩ := List.mem_map.mp ha
      rw [List.map_singleton, List.mem_singleton] at hb
      exact absurd hb (by simpa using (List.mem_filter.mp he).2)⟩
  mapped_mapOutput state output loc h := by
    refine congrArg (· ++ [(output, loc)]) (List.filter_eq_self.mpr fun e he => ?_)
    exact decide_eq_true fun heq => h (heq ▸ List.mem_map_of_mem he)

/-- A screen of 1920x1080, and one more of them at scale 1.75. -/
def screen : Output := ⟨0, ⟨"DP-1", none, none, none⟩, ⟨1920, 1080, by norm_num, by norm_num⟩⟩

def scaledScreen : Output :=
  ⟨1, ⟨"DP-2", none, none, none⟩, ⟨7680 / 7, 4320 / 7, by norm_num, by norm_num⟩⟩

/-- The scaled screen is to be right to the left of the other one. -/
def sideBySide : List OutputConfig := [⟨"DP-1", some ⟨0, 0⟩⟩, ⟨"DP-2", some ⟨-1097, 0⟩⟩]

/-- The same with room for the size rounded up. -/
def oneFurther : List OutputConfig := [⟨"DP-1", some ⟨0, 0⟩⟩, ⟨"DP-2", some ⟨-1098, 0⟩⟩]

theorem side_by_side_overlap :
    ¬ (((init : Niri listSpace).addOutput insertionSort sideBySide screen).addOutput insertionSort sideBySide
      scaledScreen).globalSpace.NoOverlap := by
  rw [addOutput, Space.noOverlap_iff,
    repositionOutputs_geometries insertionSort sideBySide _ (by decide)]
  have hgeometries : placedAll [] LogicalSize.toI32Round (placementOrder insertionSort sideBySide
      ((init : Niri listSpace).addOutput insertionSort sideBySide screen).globalSpace (some scaledScreen)) =
      [⟨⟨0, 0⟩, ⟨1920, 1080⟩⟩, ⟨⟨-1097, 0⟩, ⟨1098, 618⟩⟩] := by decide +kernel
  rw [hgeometries]
  intro hdisjoint
  have hpair := (List.pairwise_cons.mp hdisjoint).1 _ (List.mem_singleton_self _)
  exact hpair ⟨0, 0⟩ (by simp [Rectangle.Contains]) (by simp [Rectangle.Contains])

theorem outputs_disjoint_one_further :
    (((init : Niri listSpace).addOutput insertionSort oneFurther screen).addOutput insertionSort oneFurther
      scaledScreen).globalSpace.NoOverlap :=
  (outputs_disjoint_iff insertionSort oneFurther _ (some scaledScreen) (by decide)).mpr
    (by decide +kernel)

end Niri

end Cidre.Outputs
