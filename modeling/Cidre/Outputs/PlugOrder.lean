/-
  Cidre.Outputs.PlugOrder

  The arrangement of the outputs does not depend on the order they came in.

  Every change of the outputs places all of them again, so the arrangement is a
  function of the sorted list of outputs; and that list is determined by which
  outputs there are, because the comparison of names is a total order and tells
  apart outputs with different connectors.
-/

import Cidre.Outputs.Overlap

namespace Cidre.Outputs

open Cidre.Workspaces (OutputName)

/-! ## The comparison of names -/

/-- The comparison, without its case distinction. -/
def lexCompareName : OutputName → OutputName → Ordering :=
  compareLex (compareOn OutputName.isUnnamed) <| compareLex (compareOn OutputName.make) <|
    compareLex (compareOn OutputName.model) <| compareLex (compareOn OutputName.serial)
      (compareOn OutputName.connector)

theorem unnamed_parts {a : OutputName} (h : a.isUnnamed = true) :
    a.make = none ∧ a.model = none ∧ a.serial = none := by
  simpa [OutputName.isUnnamed, and_assoc] using h

theorem compareName_eq : compareName = lexCompareName := by
  funext a b
  cases ha : a.isUnnamed <;> cases hb : b.isUnnamed
  · simp [compareName, lexCompareName, compareLex, compareOn, ha, hb]
  · simp [compareName, lexCompareName, compareLex, compareOn, ha, hb, compare]
  · simp [compareName, lexCompareName, compareLex, compareOn, ha, hb, compare]
  · obtain ⟨hmake, hmodel, hserial⟩ := unnamed_parts ha
    obtain ⟨hmake', hmodel', hserial'⟩ := unnamed_parts hb
    simp [compareName, lexCompareName, compareLex, compareOn, ha, hb, hmake, hmodel, hserial,
      hmake', hmodel', hserial']

instance : Std.TransCmp compareName := by
  rw [compareName_eq]
  unfold lexCompareName
  infer_instance

/-- Outputs that compare equal have the same connector. -/
theorem connector_eq_of_compareName {a b : OutputName} (h : compareName a b = .eq) :
    a.connector = b.connector := by
  rw [compareName_eq, lexCompareName] at h
  simp only [compareLex_eq_eq] at h
  exact Std.LawfulEqCmp.eq_of_compare h.2.2.2.2

/-- The order the outputs are placed in, but for those with a configured position. -/
def NameLE (a b : Output) : Prop := (compareName a.name b.name).isLE = true

theorem connector_eq_of_nameLE {a b : Output} (h : NameLE a b) (h' : NameLE b a) :
    a.name.connector = b.name.connector := by
  refine connector_eq_of_compareName ?_
  rw [NameLE, @Std.OrientedCmp.eq_swap _ compareName] at h'
  rw [NameLE] at h
  cases hcmp : compareName a.name b.name with
  | eq => rfl
  | lt =>
    rw [hcmp] at h'
    cases h'
  | gt =>
    rw [hcmp] at h
    cases h

/-! ## The arrangement -/

namespace Niri

variable {api : SpaceApi} (s : SortUnstableBy) (config : List OutputConfig)

def configured (output : Output) : Option Point :=
  (find config output.name).bind OutputConfig.position

/-- The space with `outputs` placed one after the other. -/
def mapAll (mapped : List (Output × Point)) : List Output → List (Output × Point)
  | [] => mapped
  | output :: outputs =>
      let geometries := mapped.map fun e => ⟨e.2, e.1.size.toI32Ceil⟩
      mapAll (mapped ++ [(output, newPosition geometries output.size.toI32Round
        (configured config output))]) outputs

/-- The arrangement is that of a sorted list of outputs. -/
structure Arranged (niri : Niri api) : Prop where
  sorted : ∃ l : List Output, l.Pairwise NameLE ∧
    niri.sortedOutputs = sortByFlag (fun o => (configured config o).isNone) l
  mapped_eq : niri.globalSpace.mapped = mapAll config [] niri.sortedOutputs
  current : ∀ e ∈ niri.globalSpace.mapped, niri.currentLocation e.1 = e.2

theorem mapAll_outputs (mapped : List (Output × Point)) (outputs : List Output) :
    (mapAll config mapped outputs).map Prod.fst = mapped.map Prod.fst ++ outputs := by
  induction outputs generalizing mapped with
  | nil => simp [mapAll]
  | cons output outputs ih => simp [mapAll, ih]

variable {s config}

theorem placeAll_mapped {niri : Niri api} {order : List Data}
    (hnodup : (niri.globalSpace.outputs ++ order.map Data.output).Nodup)
    (hconfig : ∀ d ∈ order, d.config = configured config d.output) :
    (order.foldl place niri).globalSpace.mapped =
      mapAll config niri.globalSpace.mapped (order.map Data.output) := by
  induction order generalizing niri with
  | nil => rfl
  | cons d order ih =>
    have hnot : d.output ∉ niri.globalSpace.outputs := fun hmem =>
      (List.nodup_append.mp hnodup).2.2 _ hmem _ (by simp) rfl
    rw [List.foldl_cons, ih, place_mapped hnot, hconfig d List.mem_cons_self,
      Space.geometries_eq]
    · rfl
    · rw [place_outputs hnot, List.append_assoc]
      exact hnodup
    · exact fun d' hd' => hconfig d' (List.mem_cons_of_mem _ hd')

/-- Every output learns where it is, if it is not there already. -/
theorem placeAll_current {niri : Niri api} {order : List Data}
    (hnodup : (niri.globalSpace.outputs ++ order.map Data.output).Nodup)
    (hcurrent : ∀ e ∈ niri.globalSpace.mapped, niri.currentLocation e.1 = e.2)
    (hposition : ∀ d ∈ order, ∀ pos ∈ d.position, niri.currentLocation d.output = pos) :
    ∀ e ∈ (order.foldl place niri).globalSpace.mapped,
      (order.foldl place niri).currentLocation e.1 = e.2 := by
  induction order generalizing niri with
  | nil => exact hcurrent
  | cons d order ih =>
    have hnot : d.output ∉ niri.globalSpace.outputs := fun hmem =>
      (List.nodup_append.mp hnodup).2.2 _ hmem _ (by simp) rfl
    have hother : ∀ o, o ≠ d.output → (niri.place d).currentLocation o = niri.currentLocation o := by
      intro o hne
      rw [place]
      simp only
      split
      · exact if_neg hne
      · rfl
    rw [List.foldl_cons]
    refine ih ?_ ?_ ?_
    · rw [place_outputs hnot, List.append_assoc]
      exact hnodup
    · intro e he
      rw [place_mapped hnot, List.mem_append, List.mem_singleton] at he
      rcases he with he | rfl
      · rw [hother e.1 fun heq => hnot (heq ▸ List.mem_map_of_mem he)]
        exact hcurrent e he
      · rw [place]
        simp only
        split
        · exact if_pos rfl
        · next heq =>
          rw [not_not] at heq
          exact hposition d List.mem_cons_self _ heq.symm
    · intro d' hd' pos hpos
      have hne : d'.output ≠ d.output := by
        intro heq
        have hnd := (List.nodup_append.mp hnodup).2.1
        rw [List.map_cons, List.nodup_cons] at hnd
        exact hnd.1 (heq ▸ List.mem_map_of_mem hd')
      rw [hother _ hne]
      exact hposition d' (List.mem_cons_of_mem _ hd') pos hpos

theorem map_sortByFlag {α β : Type} (f : α → β) (key : β → Bool) (l : List α) :
    (sortByFlag (fun a => key (f a)) l).map f = sortByFlag key (l.map f) := by
  rw [sortByFlag, sortByFlag, List.map_append, List.filter_map, List.filter_map]
  rfl

theorem collect_config {space : Space api} {newOutput : Option Output} {d : Data}
    (h : d ∈ collect config space newOutput) : d.config = configured config d.output := by
  obtain ⟨o, -, rfl⟩ := List.mem_map.mp h
  rfl

theorem placementOrder_outputs (s : SortUnstableBy) (config : List OutputConfig)
    (space : Space api) (newOutput : Option Output) :
    ∃ l : List Output, l.Pairwise NameLE ∧
      (placementOrder s config space newOutput).map Data.output =
        sortByFlag (fun o => (configured config o).isNone) l := by
  have hcmp : Std.TransCmp fun a b : Data => compareName a.output.name b.output.name :=
    { eq_swap := fun {_ _} => @Std.OrientedCmp.eq_swap _ compareName _ _ _
      isLE_trans := fun {_ _ _} => @Std.TransCmp.isLE_trans _ compareName _ _ _ _ }
  have hsorted := s.sorted (fun a b : Data => compareName a.output.name b.output.name)
    (collect config space newOutput)
  refine ⟨_, List.pairwise_map.mpr hsorted, ?_⟩
  rw [← map_sortByFlag, placementOrder, sortByFlag, sortByFlag]
  have hkey : ∀ d ∈ s.sort (fun a b => compareName a.output.name b.output.name)
      (collect config space newOutput),
      d.config.isNone = (configured config d.output).isNone := by
    intro d hd
    rw [collect_config ((s.perm _ _).mem_iff.mp hd)]
  rw [List.filter_congr hkey, List.filter_congr fun d hd => by rw [hkey d hd]]

theorem placeAll_sortedOutputs (niri : Niri api) (order : List Data) :
    (order.foldl place niri).sortedOutputs = niri.sortedOutputs := by
  induction order generalizing niri with
  | nil => rfl
  | cons d order ih => exact (ih _).trans rfl

/-- Placing the outputs again arranges them, whatever the arrangement was. -/
theorem repositionOutputs_arranged (s : SortUnstableBy) {niri : Niri api}
    {newOutput : Option Output}
    (hnew : ∀ o ∈ newOutput, o ∉ niri.globalSpace.outputs)
    (hcurrent : ∀ e ∈ niri.globalSpace.mapped, niri.currentLocation e.1 = e.2) :
    (niri.repositionOutputs s config newOutput).Arranged config := by
  have hempty := unmapAll_eq config niri newOutput
  have hperm := placementOrder_perm s config niri.globalSpace newOutput
  obtain ⟨l, hl, hsorted⟩ := placementOrder_outputs s config niri.globalSpace newOutput
  have hnodup := order_nodup s config niri hnew
  have hkept : (niri.repositionOutputs s config newOutput).sortedOutputs =
      (placementOrder s config niri.globalSpace newOutput).map Data.output := by
    rw [repositionOutputs, placeAll_sortedOutputs]
  refine ⟨⟨l, hl, hkept.trans hsorted⟩, ?_, ?_⟩
  · rw [hkept, repositionOutputs, placeAll_mapped ?_ fun d hd => collect_config (hperm.mem_iff.mp hd)]
    · rw [hempty]
    · rw [Space.outputs, hempty]
      exact hnodup
  · refine placeAll_current ?_ ?_ ?_
    · rw [Space.outputs, hempty]
      exact hnodup
    · rw [hempty]
      exact fun e he => absurd he (by simp)
    · intro d hd pos hpos
      obtain ⟨o, -, rfl⟩ := List.mem_map.mp (hperm.mem_iff.mp hd)
      obtain ⟨g, hg, rfl⟩ := Option.map_eq_some_iff.mp (Option.mem_def.mp hpos)
      obtain ⟨loc, hmem, rfl⟩ := Space.outputGeometry_eq_some_iff.mp hg
      exact hcurrent _ hmem

/-! ## Histories -/

inductive Plug where
  | add (output : Output)
  | remove (output : Output)

/-- One change of the outputs.  The code panics where an output to add is there
    already, or one to remove is not. -/
def plug (s : SortUnstableBy) (config : List OutputConfig) (niri : Niri api) :
    Plug → Option (Niri api)
  | .add output =>
      if output ∈ niri.globalSpace.outputs then none else some (niri.addOutput s config output)
  | .remove output =>
      if output ∈ niri.globalSpace.outputs then some (niri.removeOutput s config output) else none

def run (s : SortUnstableBy) (config : List OutputConfig) (history : List Plug) :
    Option (Niri api) :=
  history.foldlM (plug s config) init

theorem plug_arranged {niri niri' : Niri api} {p : Plug} (h : niri.Arranged config)
    (hplug : niri.plug s config p = some niri') : niri'.Arranged config := by
  cases p with
  | add output =>
    rw [plug] at hplug
    split at hplug
    · cases hplug
    · next hnot =>
      obtain rfl := Option.some.inj hplug
      refine repositionOutputs_arranged s ?_ h.current
      rintro _ ⟨⟩
      exact hnot
  | remove output =>
    rw [plug] at hplug
    split at hplug
    · obtain rfl := Option.some.inj hplug
      refine repositionOutputs_arranged s (by simp) ?_
      intro e he
      have hunmap : (niri.globalSpace.unmapOutput output).mapped =
          niri.globalSpace.mapped.filter fun e => e.1 ≠ output := api.mapped_unmapOutput _ _
      exact h.current e (List.mem_filter.mp (hunmap ▸ he)).1
    · cases hplug

theorem run_arranged {history : List Plug} {niri : Niri api} (h : run s config history = some niri) :
    niri.Arranged config := by
  have hempty : (init : Niri api).globalSpace.mapped = [] := api.mapped_empty
  have hinit : (init : Niri api).Arranged config :=
    ⟨⟨[], List.Pairwise.nil, rfl⟩, hempty, by simp [hempty]⟩
  have hfold : ∀ (history : List Plug) (start : Niri api), start.Arranged config →
      history.foldlM (plug s config) start = some niri → niri.Arranged config := by
    intro history
    induction history with
    | nil =>
      rintro start hstart ⟨⟩
      exact hstart
    | cons p history ih =>
      intro start hstart hrun
      rw [List.foldlM_cons] at hrun
      obtain ⟨next, hnext, hrest⟩ := Option.bind_eq_some_iff.mp hrun
      exact ih next (plug_arranged hstart hnext) hrest
  exact hfold history init hinit h

theorem Arranged.outputs_eq {niri : Niri api} (h : niri.Arranged config) :
    niri.globalSpace.outputs = niri.sortedOutputs := by
  rw [Space.outputs, h.mapped_eq, mapAll_outputs]
  rfl

/-- The sorted list is that of the outputs there are. -/
theorem Arranged.sorted_perm {niri : Niri api} (h : niri.Arranged config) :
    ∃ l : List Output, l.Pairwise NameLE ∧ l.Perm niri.globalSpace.outputs ∧
      niri.sortedOutputs = sortByFlag (fun o => (configured config o).isNone) l := by
  obtain ⟨l, hl, hsorted⟩ := h.sorted
  refine ⟨l, hl, ?_, hsorted⟩
  rw [h.outputs_eq, hsorted]
  exact (sortByFlag_perm _ l).symm

theorem sortedOutputs_eq {outputs : List Output}
    (hconnectors : (outputs.map fun o => o.name.connector).Nodup) {niri niri' : Niri api}
    (h : niri.Arranged config) (h' : niri'.Arranged config)
    (hends : niri.globalSpace.outputs.Perm outputs)
    (hends' : niri'.globalSpace.outputs.Perm outputs) :
    niri.sortedOutputs = niri'.sortedOutputs := by
  obtain ⟨l, hl, hperm, hsorted⟩ := h.sorted_perm
  obtain ⟨l', hl', hperm', hsorted'⟩ := h'.sorted_perm
  have hall := hperm.trans hends
  have hall' := hperm'.trans hends'
  have heq : l = l' := by
    refine List.Perm.eq_of_pairwise (fun a b ha hb hab hba => ?_) hl hl' (hall.trans hall'.symm)
    exact List.inj_on_of_nodup_map hconnectors (hall.mem_iff.mp ha) (hall'.mem_iff.mp hb)
      (connector_eq_of_nameLE hab hba)
  rw [hsorted, hsorted', heq]

theorem arrangement_independent_of_history {s : SortUnstableBy} {config : List OutputConfig}
    {outputs : List Output} (hconnectors : (outputs.map fun o => o.name.connector).Nodup)
    {history history' : List Plug} {niri niri' : Niri api} (h : run s config history = some niri)
    (h' : run s config history' = some niri') (hends : niri.globalSpace.outputs.Perm outputs)
    (hends' : niri'.globalSpace.outputs.Perm outputs) :
    niri.sortedOutputs = niri'.sortedOutputs ∧ ∀ o ∈ outputs, ∃ loc,
      niri.globalSpace.location o = some loc ∧ niri'.globalSpace.location o = some loc ∧
        niri.currentLocation o = loc ∧ niri'.currentLocation o = loc := by
  have harr := run_arranged h
  have harr' := run_arranged h'
  have hsorted := sortedOutputs_eq hconnectors harr harr' hends hends'
  have hmapped : niri.globalSpace.mapped = niri'.globalSpace.mapped := by
    rw [harr.mapped_eq, harr'.mapped_eq, hsorted]
  refine ⟨hsorted, fun o ho => ?_⟩
  obtain ⟨⟨o', loc⟩, hmem, rfl⟩ := List.mem_map.mp (hends.mem_iff.mpr ho)
  have hmem' := hmapped ▸ hmem
  exact ⟨loc, Space.location_eq_some_iff.mpr hmem, Space.location_eq_some_iff.mpr hmem',
    harr.current _ hmem, harr'.current _ hmem'⟩

theorem two_screens_arranged : ∃ niri niri' : Niri listSpace,
    run insertionSort sideBySide [.add screen, .add scaledScreen] = some niri ∧
    run insertionSort sideBySide [.add scaledScreen, .add screen, .remove scaledScreen,
      .add scaledScreen] = some niri' ∧
    niri.sortedOutputs = niri'.sortedOutputs := by
  have houtputs : (run insertionSort sideBySide [.add screen, .add scaledScreen]).map
      (fun niri : Niri listSpace => niri.globalSpace.outputs) = some [screen, scaledScreen] := by decide +kernel
  have houtputs' : (run insertionSort sideBySide [.add scaledScreen, .add screen,
      .remove scaledScreen, .add scaledScreen]).map
        (fun niri : Niri listSpace => niri.globalSpace.outputs) =
      some [screen, scaledScreen] := by decide +kernel
  obtain ⟨niri, h, hends⟩ := Option.map_eq_some_iff.mp houtputs
  obtain ⟨niri', h', hends'⟩ := Option.map_eq_some_iff.mp houtputs'
  have hconnectors : ([screen, scaledScreen].map fun o => o.name.connector).Nodup := by decide
  exact ⟨niri, niri', h, h', (arrangement_independent_of_history hconnectors h h'
    (List.Perm.of_eq hends) (List.Perm.of_eq hends')).1⟩

end Niri

end Cidre.Outputs
