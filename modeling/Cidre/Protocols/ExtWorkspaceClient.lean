/-
  Cidre.Protocols.ExtWorkspaceClient

  A client of the ext-workspace protocol.  It refuses an event that the protocol
  forbids: one on an object that has been removed, a workspace that enters a
  group it is in or leaves one it is not in, an id that is set twice, a group or
  workspace that is removed while it is in use.

  `Shows` relates what a client has seen to the groups and workspaces it has
  objects for; each batch of events of the compositor takes it from one list of
  objects to another.
-/

import Cidre.Lib.Run
import Cidre.Protocols.ExtWorkspace
import Mathlib.Data.Finset.Basic

namespace Cidre.Protocols

open Cidre.Run

/-! ## What the client sees -/

structure WorkspaceView where
  id : Option String
  name : Option String
  coordinates : Option (UInt32 × UInt32)
  state : Option WorkspaceState
deriving DecidableEq

def WorkspaceView.new : WorkspaceView := ⟨none, none, none, none⟩

/-- The live groups with their outputs, the live workspaces, and which workspace
    is in which group. -/
structure View where
  groups : Handle → Option (List WlOutput)
  workspaces : Handle → Option WorkspaceView
  inside : Finset (Handle × Handle)

namespace View

def empty : View := ⟨fun _ => none, fun _ => none, ∅⟩

def setGroup (v : View) (group : Handle) (outputs : Option (List WlOutput)) : View :=
  { v with groups := Function.update v.groups group outputs }

def setWorkspace (v : View) (handle : Handle) (wv : Option WorkspaceView) : View :=
  { v with workspaces := Function.update v.workspaces handle wv }

/-- An event that changes one live workspace. -/
def change (v : View) (handle : Handle) (f : WorkspaceView → WorkspaceView) : Option View :=
  (v.workspaces handle).map fun wv => v.setWorkspace handle (some (f wv))

def apply (v : View) : Event → Option View
  | .workspaceGroup group =>
      if v.groups group = none then some (v.setGroup group (some [])) else none
  | .groupCapabilities group => (v.groups group).map fun _ => v
  | .outputEnter group wlOutput =>
      (v.groups group).map fun outputs => v.setGroup group (some (outputs ++ [wlOutput]))
  | .workspaceEnter group handle =>
      if v.groups group ≠ none ∧ v.workspaces handle ≠ none ∧ (group, handle) ∉ v.inside then
        some { v with inside := insert (group, handle) v.inside }
      else none
  | .workspaceLeave group handle =>
      if v.groups group ≠ none ∧ v.workspaces handle ≠ none ∧ (group, handle) ∈ v.inside then
        some { v with inside := v.inside.erase (group, handle) }
      else none
  | .groupRemoved group =>
      if v.groups group ≠ none ∧ ∀ p ∈ v.inside, p.1 ≠ group then some (v.setGroup group none)
      else none
  | .workspace handle =>
      if v.workspaces handle = none then some (v.setWorkspace handle (some .new)) else none
  | .id handle id =>
      (v.workspaces handle).bind fun wv =>
        if wv.id = none then v.change handle fun wv => { wv with id := some id } else none
  | .name handle name => v.change handle fun wv => { wv with name := some name }
  | .coordinates handle coordinates =>
      v.change handle fun wv => { wv with coordinates := some coordinates }
  | .state handle state => v.change handle fun wv => { wv with state := some state }
  | .capabilities handle => (v.workspaces handle).map fun _ => v
  | .removed handle =>
      if v.workspaces handle ≠ none ∧ ∀ p ∈ v.inside, p.2 ≠ handle then
        some (v.setWorkspace handle none)
      else none
  | .done _ | .finished _ => some v

end View

/-! ## The objects of a client -/

/-- A group, and the object one client has for it. -/
structure OpenGroup where
  output : Output
  handle : Handle

/-- A workspace, what has been said of it, and the output it is on. -/
structure OpenWorkspace where
  view : WorkspaceView
  handle : Handle
  output : Option Output

def OpenWorkspace.withOutput (w : OpenWorkspace) (output : Option Output) : OpenWorkspace :=
  { w with output }

@[simp] theorem OpenWorkspace.withOutput_handle (w : OpenWorkspace) (output : Option Output) :
    (w.withOutput output).handle = w.handle := rfl

@[simp] theorem OpenWorkspace.withOutput_view (w : OpenWorkspace) (output : Option Output) :
    (w.withOutput output).view = w.view := rfl

@[simp] theorem OpenWorkspace.withOutput_output (w : OpenWorkspace) (output : Option Output) :
    (w.withOutput output).output = output := rfl

/-- The event of a workspace and the group of its output. -/
def crossing (event : Handle → Handle → Event) (gs : List OpenGroup) (w : OpenWorkspace) :
    List Event :=
  ((gs.find? fun g => some g.output = w.output).map fun g => event g.handle w.handle).toList

/-- The view has these groups and workspaces, and each workspace is in the group
    of its output. -/
structure Shows (outputs : Output → List WlOutput) (gs : List OpenGroup) (ws : List OpenWorkspace)
    (v : View) : Prop where
  outputs_nodup : (gs.map OpenGroup.output).Nodup
  groups_nodup : (gs.map OpenGroup.handle).Nodup
  workspaces_nodup : (ws.map OpenWorkspace.handle).Nodup
  groups_iff : ∀ h os, v.groups h = some os ↔ ∃ g ∈ gs, g.handle = h ∧ outputs g.output = os
  workspaces_iff : ∀ h wv, v.workspaces h = some wv ↔ ∃ w ∈ ws, w.handle = h ∧ w.view = wv
  inside_iff : ∀ p, p ∈ v.inside ↔
    ∃ g ∈ gs, ∃ w ∈ ws, w.output = some g.output ∧ (g.handle, w.handle) = p

variable {outputs : Output → List WlOutput} {gs gs' : List OpenGroup} {ws ws' : List OpenWorkspace}
  {g : OpenGroup} {w : OpenWorkspace} {v : View}

theorem shows_nil (outputs : Output → List WlOutput) : Shows outputs [] [] .empty where
  outputs_nodup := List.nodup_nil
  groups_nodup := List.nodup_nil
  workspaces_nodup := List.nodup_nil
  groups_iff := by simp [View.empty]
  workspaces_iff := by simp [View.empty]
  inside_iff := by simp [View.empty]

namespace Shows

theorem perm (h : Shows outputs gs ws v) (hg : gs.Perm gs') (hw : ws.Perm ws') :
    Shows outputs gs' ws' v where
  outputs_nodup := (hg.map _).nodup h.outputs_nodup
  groups_nodup := (hg.map _).nodup h.groups_nodup
  workspaces_nodup := (hw.map _).nodup h.workspaces_nodup
  groups_iff := by simpa only [hg.mem_iff] using h.groups_iff
  workspaces_iff := by simpa only [hw.mem_iff] using h.workspaces_iff
  inside_iff := by simpa only [hg.mem_iff, hw.mem_iff] using h.inside_iff

theorem groups_eq (h : Shows outputs gs ws v) (hg : g ∈ gs) :
    v.groups g.handle = some (outputs g.output) :=
  (h.groups_iff _ _).mpr ⟨g, hg, rfl, rfl⟩

theorem workspaces_eq (h : Shows outputs gs ws v) (hw : w ∈ ws) :
    v.workspaces w.handle = some w.view :=
  (h.workspaces_iff _ _).mpr ⟨w, hw, rfl, rfl⟩

theorem groups_eq_none (h : Shows outputs gs ws v) {handle : Handle}
    (hne : ∀ g ∈ gs, g.handle ≠ handle) : v.groups handle = none := by
  rw [Option.eq_none_iff_forall_ne_some]
  rintro os hos
  obtain ⟨g, hg, heq, -⟩ := (h.groups_iff _ _).mp hos
  exact hne g hg heq

theorem workspaces_eq_none (h : Shows outputs gs ws v) {handle : Handle}
    (hne : ∀ w ∈ ws, w.handle ≠ handle) : v.workspaces handle = none := by
  rw [Option.eq_none_iff_forall_ne_some]
  rintro wv hwv
  obtain ⟨w, hw, heq, -⟩ := (h.workspaces_iff _ _).mp hwv
  exact hne w hw heq

theorem group_unique (h : Shows outputs gs ws v) {g g' : OpenGroup} (hg : g ∈ gs) (hg' : g' ∈ gs)
    (heq : g.output = g'.output) : g = g' :=
  List.inj_on_of_nodup_map h.outputs_nodup hg hg' heq

theorem group_unique_handle (h : Shows outputs gs ws v) {g g' : OpenGroup} (hg : g ∈ gs)
    (hg' : g' ∈ gs) (heq : g.handle = g'.handle) : g = g' :=
  List.inj_on_of_nodup_map h.groups_nodup hg hg' heq

/-- The handles of the other workspaces are others. -/
theorem ne_of_cons (h : Shows outputs gs (w :: ws) v) {w' : OpenWorkspace} (hw : w' ∈ ws) :
    w'.handle ≠ w.handle := by
  intro heq
  have hnodup := h.workspaces_nodup
  rw [List.map_cons, List.nodup_cons] at hnodup
  exact hnodup.1 (heq ▸ List.mem_map_of_mem hw)

/-! ## Entering and leaving -/

/-- The workspace is in a group only if its output has one. -/
theorem withOutput_of_none (h : Shows outputs gs (w :: ws) v) {output output' : Option Output}
    (hw : w.output = output) (hnone : ∀ g ∈ gs, some g.output ≠ output)
    (hnone' : ∀ g ∈ gs, some g.output ≠ output') :
    Shows outputs gs (w.withOutput output' :: ws) v where
  outputs_nodup := h.outputs_nodup
  groups_nodup := h.groups_nodup
  workspaces_nodup := h.workspaces_nodup
  groups_iff := h.groups_iff
  workspaces_iff := by
    simpa only [List.mem_cons, exists_eq_or_imp, OpenWorkspace.withOutput_handle,
      OpenWorkspace.withOutput_view] using h.workspaces_iff
  inside_iff := by
    intro p
    rw [h.inside_iff]
    refine exists_congr fun g => and_congr_right fun hg => ?_
    simp only [List.mem_cons, exists_eq_or_imp]
    refine or_congr ?_ Iff.rfl
    constructor
    · rintro ⟨heq, -⟩
      exact absurd (heq.symm.trans hw) (hnone g hg)
    · rintro ⟨heq, -⟩
      exact absurd heq.symm (hnone' g hg)

theorem leave (h : Shows outputs gs (w :: ws) v) :
    ∃ v', run View.apply v (crossing .workspaceLeave gs w) = some v' ∧
      Shows outputs gs (w.withOutput none :: ws) v' := by
  unfold crossing
  cases hfind : gs.find? fun g => some g.output = w.output with
  | none =>
    have hnone : ∀ g ∈ gs, some g.output ≠ w.output := by
      simpa using List.find?_eq_none.mp hfind
    exact ⟨v, rfl, h.withOutput_of_none rfl hnone fun _ _ => Option.some_ne_none _⟩
  | some g =>
    have hg : g ∈ gs := List.mem_of_find?_eq_some hfind
    have hout : some g.output = w.output := by simpa using List.find?_some hfind
    have hmem : (g.handle, w.handle) ∈ v.inside :=
      (h.inside_iff _).mpr ⟨g, hg, w, List.mem_cons_self, hout.symm, rfl⟩
    refine ⟨{ v with inside := v.inside.erase (g.handle, w.handle) }, run_single ?_, ?_⟩
    · have hgroup : v.groups g.handle ≠ none := by simp [h.groups_eq hg]
      have hworkspace : v.workspaces w.handle ≠ none := by
        simp [h.workspaces_eq List.mem_cons_self]
      rw [View.apply, if_pos ⟨hgroup, hworkspace, hmem⟩]
    · refine ⟨h.outputs_nodup, h.groups_nodup, h.workspaces_nodup, h.groups_iff, ?_, ?_⟩
      · simpa only [List.mem_cons, exists_eq_or_imp, OpenWorkspace.withOutput_handle,
          OpenWorkspace.withOutput_view] using h.workspaces_iff
      · intro p
        show p ∈ v.inside.erase (g.handle, w.handle) ↔ _
        rw [Finset.mem_erase, h.inside_iff]
        constructor
        · rintro ⟨hne, g', hg', w', hw', hout', rfl⟩
          rcases List.mem_cons.mp hw' with rfl | hw'
          · have hgg : g' = g :=
              h.group_unique hg' hg (Option.some.inj (hout'.symm.trans hout.symm))
            exact absurd (hgg ▸ rfl) hne
          · exact ⟨g', hg', w', List.mem_cons_of_mem _ hw', hout', rfl⟩
        · rintro ⟨g', hg', w', hw', hout', rfl⟩
          rcases List.mem_cons.mp hw' with rfl | hw'
          · exact absurd hout' (Option.some_ne_none _).symm
          · refine ⟨fun heq => ?_, g', hg', w', List.mem_cons_of_mem _ hw', hout', rfl⟩
            exact h.ne_of_cons hw' (Prod.mk.inj heq).2

theorem enter (h : Shows outputs gs (w.withOutput none :: ws) v) :
    ∃ v', run View.apply v (crossing .workspaceEnter gs w) = some v' ∧
      Shows outputs gs (w :: ws) v' := by
  unfold crossing
  cases hfind : gs.find? fun g => some g.output = w.output with
  | none =>
    have hnone : ∀ g ∈ gs, some g.output ≠ w.output := by
      simpa using List.find?_eq_none.mp hfind
    exact ⟨v, rfl, h.withOutput_of_none rfl (fun _ _ => Option.some_ne_none _) hnone⟩
  | some g =>
    have hg : g ∈ gs := List.mem_of_find?_eq_some hfind
    have hout : some g.output = w.output := by simpa using List.find?_some hfind
    have hmem : (g.handle, w.handle) ∉ v.inside := by
      rw [h.inside_iff]
      rintro ⟨g', -, w', hw', hout', heq⟩
      rcases List.mem_cons.mp hw' with rfl | hw'
      · exact absurd hout' (Option.some_ne_none _).symm
      · exact h.ne_of_cons hw' (Prod.mk.inj heq).2
    refine ⟨{ v with inside := insert (g.handle, w.handle) v.inside }, run_single ?_, ?_⟩
    · have hgroup : v.groups g.handle ≠ none := by simp [h.groups_eq hg]
      have hworkspace : v.workspaces w.handle ≠ none := by
        have hw := h.workspaces_eq List.mem_cons_self
        rw [OpenWorkspace.withOutput_handle] at hw
        simp [hw]
      rw [View.apply, if_pos ⟨hgroup, hworkspace, hmem⟩]
    · refine ⟨h.outputs_nodup, h.groups_nodup, h.workspaces_nodup, h.groups_iff, ?_, ?_⟩
      · simpa only [List.mem_cons, exists_eq_or_imp, OpenWorkspace.withOutput_handle,
          OpenWorkspace.withOutput_view] using h.workspaces_iff
      · intro p
        show p ∈ insert (g.handle, w.handle) v.inside ↔ _
        rw [Finset.mem_insert, h.inside_iff]
        constructor
        · rintro (rfl | ⟨g', hg', w', hw', hout', rfl⟩)
          · exact ⟨g, hg, w, List.mem_cons_self, hout.symm, rfl⟩
          · rcases List.mem_cons.mp hw' with rfl | hw'
            · exact absurd hout' (Option.some_ne_none _).symm
            · exact ⟨g', hg', w', List.mem_cons_of_mem _ hw', hout', rfl⟩
        · rintro ⟨g', hg', w', hw', hout', rfl⟩
          rcases List.mem_cons.mp hw' with rfl | hw'
          · have hgg : g' = g :=
              h.group_unique hg' hg (Option.some.inj (hout'.symm.trans hout.symm))
            exact Or.inl (hgg ▸ rfl)
          · exact Or.inr ⟨g', hg', w', List.mem_cons_of_mem _ hw', hout', rfl⟩

/-! ## Workspaces -/

/-- One workspace is described anew. -/
theorem change (h : Shows outputs gs (w :: ws) v) (f : WorkspaceView → WorkspaceView) :
    ∃ v', v.change w.handle f = some v' ∧
      Shows outputs gs ({ w with view := f w.view } :: ws) v' := by
  have hw := h.workspaces_eq List.mem_cons_self
  refine ⟨v.setWorkspace w.handle (some (f w.view)), by rw [View.change, hw]; rfl, ?_⟩
  refine ⟨h.outputs_nodup, h.groups_nodup, h.workspaces_nodup, h.groups_iff, ?_, ?_⟩
  · intro handle wv
    show Function.update v.workspaces w.handle (some (f w.view)) handle = some wv ↔ _
    by_cases heq : handle = w.handle
    · subst heq
      rw [Function.update_self, Option.some.injEq]
      constructor
      · rintro rfl
        exact ⟨_, List.mem_cons_self, rfl, rfl⟩
      · rintro ⟨w', hw', heq, rfl⟩
        rcases List.mem_cons.mp hw' with rfl | hw'
        · rfl
        · exact absurd heq (h.ne_of_cons hw')
    · rw [Function.update_of_ne heq, h.workspaces_iff]
      simp only [List.mem_cons, exists_eq_or_imp]
      exact or_congr (by simp [Ne.symm heq]) Iff.rfl
  · intro p
    rw [show (v.setWorkspace w.handle (some (f w.view))).inside = v.inside from rfl, h.inside_iff]
    simp only [List.mem_cons, exists_eq_or_imp]

theorem workspaceCreated (h : Shows outputs gs ws v) {handle : Handle}
    (hfresh : ∀ w ∈ ws, w.handle ≠ handle) :
    ∃ v', v.apply (.workspace handle) = some v' ∧
      Shows outputs gs (⟨.new, handle, none⟩ :: ws) v' := by
  refine ⟨v.setWorkspace handle (some .new), if_pos (h.workspaces_eq_none hfresh), ?_⟩
  refine ⟨h.outputs_nodup, h.groups_nodup, ?_, h.groups_iff, ?_, ?_⟩
  · rw [List.map_cons, List.nodup_cons]
    refine ⟨fun hmem => ?_, h.workspaces_nodup⟩
    obtain ⟨w, hw, heq⟩ := List.mem_map.mp hmem
    exact hfresh w hw heq
  · intro handle' wv
    show Function.update v.workspaces handle (some .new) handle' = some wv ↔ _
    by_cases heq : handle' = handle
    · subst heq
      rw [Function.update_self, Option.some.injEq]
      constructor
      · rintro rfl
        exact ⟨_, List.mem_cons_self, rfl, rfl⟩
      · rintro ⟨w', hw', heq, rfl⟩
        rcases List.mem_cons.mp hw' with rfl | hw'
        · rfl
        · exact absurd heq (hfresh w' hw')
    · rw [Function.update_of_ne heq, h.workspaces_iff]
      simp only [List.mem_cons, exists_eq_or_imp, Ne.symm heq, false_and, false_or]
  · intro p
    rw [show (v.setWorkspace handle (some .new)).inside = v.inside from rfl, h.inside_iff]
    simp only [List.mem_cons, exists_eq_or_imp, reduceCtorEq, false_and, false_or]

/-- A workspace that is in no group is removed. -/
theorem removed (h : Shows outputs gs (w :: ws) v) (hw : w.output = none) :
    ∃ v', run View.apply v [.removed w.handle] = some v' ∧ Shows outputs gs ws v' := by
  refine ⟨v.setWorkspace w.handle none, run_single ?_, ?_⟩
  · have hlive : v.workspaces w.handle ≠ none := by simp [h.workspaces_eq List.mem_cons_self]
    have hout : ∀ p ∈ v.inside, p.2 ≠ w.handle := by
      rintro p hp heq
      obtain ⟨g, -, w', hw', hout, rfl⟩ := (h.inside_iff p).mp hp
      rcases List.mem_cons.mp hw' with rfl | hw'
      · exact absurd (hw.symm.trans hout) (Option.some_ne_none _).symm
      · exact h.ne_of_cons hw' heq
    rw [View.apply, if_pos ⟨hlive, hout⟩]
  · refine ⟨h.outputs_nodup, h.groups_nodup, ?_, h.groups_iff, ?_, ?_⟩
    · have hnodup := h.workspaces_nodup
      rw [List.map_cons, List.nodup_cons] at hnodup
      exact hnodup.2
    · intro handle wv
      show Function.update v.workspaces w.handle none handle = some wv ↔ _
      by_cases heq : handle = w.handle
      · subst heq
        rw [Function.update_self]
        constructor
        · rintro ⟨⟩
        · rintro ⟨w', hw', heq, -⟩
          exact absurd heq (h.ne_of_cons hw')
      · rw [Function.update_of_ne heq, h.workspaces_iff]
        simp only [List.mem_cons, exists_eq_or_imp, Ne.symm heq, false_and, false_or]
    · intro p
      rw [show (v.setWorkspace w.handle none).inside = v.inside from rfl, h.inside_iff]
      simp only [List.mem_cons, exists_eq_or_imp, hw, reduceCtorEq, false_and, false_or]

/-! ## Groups -/

theorem outputs_entered {group : Handle} (os acc : List WlOutput) (v : View) :
    run View.apply (v.setGroup group (some acc)) (os.map (Event.outputEnter group)) =
      some (v.setGroup group (some (acc ++ os))) := by
  induction os generalizing acc with
  | nil => rw [List.append_nil]; rfl
  | cons o os ih =>
    have hstep : (v.setGroup group (some acc)).apply (.outputEnter group o) =
        some (v.setGroup group (some (acc ++ [o]))) := by
      simp [View.apply, View.setGroup]
    rw [List.map_cons, run_cons, hstep, Option.bind_some, ih, List.append_assoc]
    rfl

/-- The group of an output that no workspace is on is created. -/
theorem groupCreated (h : Shows outputs gs ws v) (hfresh : ∀ g' ∈ gs, g'.handle ≠ g.handle)
    (hgs : ∀ g' ∈ gs, g'.output ≠ g.output) (hws : ∀ w ∈ ws, w.output ≠ some g.output) :
    ∃ v', run View.apply v ([.workspaceGroup g.handle, .groupCapabilities g.handle] ++
        (outputs g.output).map (Event.outputEnter g.handle)) = some v' ∧
      Shows outputs (g :: gs) ws v' := by
  refine ⟨v.setGroup g.handle (some (outputs g.output)), ?_, ?_⟩
  · have hcreated : v.apply (.workspaceGroup g.handle) = some (v.setGroup g.handle (some [])) :=
      if_pos (h.groups_eq_none hfresh)
    have hcapabilities : (v.setGroup g.handle (some [])).apply (.groupCapabilities g.handle) =
        some (v.setGroup g.handle (some [])) := by
      simp [View.apply, View.setGroup]
    rw [List.cons_append, run_cons, hcreated, Option.bind_some, List.cons_append, run_cons,
      hcapabilities, Option.bind_some, List.nil_append, outputs_entered, List.nil_append]
  · refine ⟨?_, ?_, h.workspaces_nodup, ?_, h.workspaces_iff, ?_⟩
    · rw [List.map_cons, List.nodup_cons]
      refine ⟨fun hmem => ?_, h.outputs_nodup⟩
      obtain ⟨g', hg', heq⟩ := List.mem_map.mp hmem
      exact hgs g' hg' heq
    · rw [List.map_cons, List.nodup_cons]
      refine ⟨fun hmem => ?_, h.groups_nodup⟩
      obtain ⟨g', hg', heq⟩ := List.mem_map.mp hmem
      exact hfresh g' hg' heq
    · intro handle os
      show Function.update v.groups g.handle (some (outputs g.output)) handle = some os ↔ _
      by_cases heq : handle = g.handle
      · subst heq
        rw [Function.update_self, Option.some.injEq]
        constructor
        · rintro rfl
          exact ⟨g, List.mem_cons_self, rfl, rfl⟩
        · rintro ⟨g', hg', heq, rfl⟩
          rcases List.mem_cons.mp hg' with rfl | hg'
          · rfl
          · exact absurd heq (hfresh g' hg')
      · rw [Function.update_of_ne heq, h.groups_iff]
        simp only [List.mem_cons, exists_eq_or_imp, Ne.symm heq, false_and, false_or]
    · intro p
      rw [show (v.setGroup g.handle (some (outputs g.output))).inside = v.inside from rfl,
        h.inside_iff]
      simp only [List.mem_cons, exists_eq_or_imp]
      constructor
      · exact Or.inr
      · rintro (⟨w, hw, hout, -⟩ | hrest)
        · exact absurd hout (hws w hw)
        · exact hrest

/-- A group that no workspace is in is removed. -/
theorem groupRemoved (h : Shows outputs (g :: gs) ws v) (hws : ∀ w ∈ ws, w.output ≠ some g.output) :
    ∃ v', run View.apply v [.groupRemoved g.handle] = some v' ∧ Shows outputs gs ws v' := by
  have hne : ∀ g' ∈ gs, g'.handle ≠ g.handle := by
    intro g' hg' heq
    have hnodup := h.groups_nodup
    rw [List.map_cons, List.nodup_cons] at hnodup
    exact hnodup.1 (heq ▸ List.mem_map_of_mem hg')
  refine ⟨v.setGroup g.handle none, run_single ?_, ?_⟩
  · have hlive : v.groups g.handle ≠ none := by simp [h.groups_eq List.mem_cons_self]
    have hout : ∀ p ∈ v.inside, p.1 ≠ g.handle := by
      rintro p hp heq
      obtain ⟨g', hg', w, hw, hout, rfl⟩ := (h.inside_iff p).mp hp
      rcases List.mem_cons.mp hg' with rfl | hg'
      · exact hws w hw hout
      · exact hne g' hg' heq
    rw [View.apply, if_pos ⟨hlive, hout⟩]
  · refine ⟨?_, ?_, h.workspaces_nodup, ?_, h.workspaces_iff, ?_⟩
    · have hnodup := h.outputs_nodup
      rw [List.map_cons, List.nodup_cons] at hnodup
      exact hnodup.2
    · have hnodup := h.groups_nodup
      rw [List.map_cons, List.nodup_cons] at hnodup
      exact hnodup.2
    · intro handle os
      show Function.update v.groups g.handle none handle = some os ↔ _
      by_cases heq : handle = g.handle
      · subst heq
        rw [Function.update_self]
        constructor
        · rintro ⟨⟩
        · rintro ⟨g', hg', heq, -⟩
          exact absurd heq (hne g' hg')
      · rw [Function.update_of_ne heq, h.groups_iff]
        simp only [List.mem_cons, exists_eq_or_imp, Ne.symm heq, false_and, false_or]
    · intro p
      rw [show (v.setGroup g.handle none).inside = v.inside from rfl, h.inside_iff]
      simp only [List.mem_cons, exists_eq_or_imp]
      constructor
      · rintro (⟨w, hw, hout, -⟩ | hrest)
        · exact absurd hout (hws w hw)
        · exact hrest
      · exact Or.inr

/-! ## A group with the workspaces that are in it -/

end Shows

/-- The workspaces on this output are in no group. -/
def OpenWorkspace.apart (output : Output) (w : OpenWorkspace) : OpenWorkspace :=
  if w.output = some output then w.withOutput none else w

theorem OpenWorkspace.apart_output_ne (output : Output) (w : OpenWorkspace) :
    (w.apart output).output ≠ some output := by
  unfold OpenWorkspace.apart
  split
  · exact (Option.some_ne_none output).symm
  · assumption

theorem crossing_head (event : Handle → Handle → Event) {g : OpenGroup} {w : OpenWorkspace}
    (gs : List OpenGroup) (hw : w.output = some g.output) :
    crossing event (g :: gs) w = [event g.handle w.handle] := by
  rw [crossing, List.find?_cons, hw]
  simp

namespace Shows

/-- Where an output has no group, its workspaces are in none. -/
theorem apart_iff {output : Output} (hgs : ∀ g ∈ gs, g.output ≠ output) :
    Shows outputs gs (ws.map (OpenWorkspace.apart output)) v ↔ Shows outputs gs ws v := by
  have hhandle : ∀ w : OpenWorkspace, (w.apart output).handle = w.handle := by
    intro w
    unfold OpenWorkspace.apart
    split <;> rfl
  have hview : ∀ w : OpenWorkspace, (w.apart output).view = w.view := by
    intro w
    unfold OpenWorkspace.apart
    split <;> rfl
  have hmap : (ws.map (OpenWorkspace.apart output)).map OpenWorkspace.handle =
      ws.map OpenWorkspace.handle := by
    rw [List.map_map]
    exact List.map_congr_left fun w _ => hhandle w
  have hout : ∀ w : OpenWorkspace, ∀ g ∈ gs,
      ((w.apart output).output = some g.output ↔ w.output = some g.output) := by
    intro w g hg
    unfold OpenWorkspace.apart
    split
    · next hw =>
      rw [OpenWorkspace.withOutput_output, hw, Option.some.injEq]
      exact ⟨fun hn => absurd hn (by simp), fun heq => absurd heq.symm (hgs g hg)⟩
    · exact Iff.rfl
  have hinside : ∀ p, (∃ g ∈ gs, ∃ w ∈ ws.map (OpenWorkspace.apart output),
      w.output = some g.output ∧ (g.handle, w.handle) = p) ↔
      ∃ g ∈ gs, ∃ w ∈ ws, w.output = some g.output ∧ (g.handle, w.handle) = p := by
    intro p
    refine exists_congr fun g => and_congr_right fun hg => ?_
    simp only [List.mem_map, exists_exists_and_eq_and]
    refine exists_congr fun w => and_congr_right fun _ => ?_
    rw [hout w g hg, hhandle]
  have hworkspaces : ∀ h wv, (∃ w ∈ ws.map (OpenWorkspace.apart output),
      w.handle = h ∧ w.view = wv) ↔ ∃ w ∈ ws, w.handle = h ∧ w.view = wv := by
    intro h wv
    simp only [List.mem_map, exists_exists_and_eq_and, hhandle, hview]
  constructor
  · intro h
    exact ⟨h.outputs_nodup, h.groups_nodup, hmap ▸ h.workspaces_nodup, h.groups_iff,
      fun handle wv => (h.workspaces_iff handle wv).trans (hworkspaces handle wv),
      fun p => (h.inside_iff p).trans (hinside p)⟩
  · intro h
    exact ⟨h.outputs_nodup, h.groups_nodup, hmap.symm ▸ h.workspaces_nodup, h.groups_iff,
      fun handle wv => (h.workspaces_iff handle wv).trans (hworkspaces handle wv).symm,
      fun p => (h.inside_iff p).trans (hinside p).symm⟩

/-- The workspaces of a group enter it. -/
theorem enterAll (l : List OpenWorkspace)
    (h : Shows outputs (g :: gs) (l.map (OpenWorkspace.apart g.output) ++ ws) v) :
    ∃ v', run View.apply v ((l.filter fun w => w.output = some g.output).map fun w =>
        .workspaceEnter g.handle w.handle) = some v' ∧
      Shows outputs (g :: gs) (l ++ ws) v' := by
  induction l generalizing ws v with
  | nil => exact ⟨v, rfl, h⟩
  | cons w l ih =>
    by_cases hw : w.output = some g.output
    · have happart : w.apart g.output = w.withOutput none := if_pos hw
      rw [List.map_cons, List.cons_append, happart] at h
      obtain ⟨v₁, hrun, h⟩ := h.enter
      rw [crossing_head _ _ hw] at hrun
      obtain ⟨v₂, hrun₂, h⟩ := ih (h.perm (List.Perm.refl _) List.perm_middle.symm)
      refine ⟨v₂, ?_, h.perm (List.Perm.refl _) List.perm_middle⟩
      rw [List.filter_cons_of_pos (by simpa using hw), List.map_cons, ← List.singleton_append,
        run_append_of_eq hrun, hrun₂]
    · have happart : w.apart g.output = w := if_neg hw
      rw [List.map_cons, List.cons_append, happart] at h
      obtain ⟨v₁, hrun, h⟩ := ih (h.perm (List.Perm.refl _) List.perm_middle.symm)
      refine ⟨v₁, ?_, h.perm (List.Perm.refl _) List.perm_middle⟩
      rw [List.filter_cons_of_neg (by simpa using hw), hrun]

/-- The workspaces of a group leave it. -/
theorem leaveAll (l : List OpenWorkspace) (h : Shows outputs (g :: gs) (l ++ ws) v) :
    ∃ v', run View.apply v ((l.filter fun w => w.output = some g.output).map fun w =>
        .workspaceLeave g.handle w.handle) = some v' ∧
      Shows outputs (g :: gs) (l.map (OpenWorkspace.apart g.output) ++ ws) v' := by
  induction l generalizing ws v with
  | nil => exact ⟨v, rfl, h⟩
  | cons w l ih =>
    by_cases hw : w.output = some g.output
    · have happart : w.apart g.output = w.withOutput none := if_pos hw
      obtain ⟨v₁, hrun, h⟩ := h.leave
      rw [crossing_head _ _ hw] at hrun
      obtain ⟨v₂, hrun₂, h⟩ := ih (h.perm (List.Perm.refl _) List.perm_middle.symm)
      rw [List.map_cons, happart]
      refine ⟨v₂, ?_, h.perm (List.Perm.refl _) List.perm_middle⟩
      rw [List.filter_cons_of_pos (by simpa using hw), List.map_cons, ← List.singleton_append,
        run_append_of_eq hrun, hrun₂]
    · have happart : w.apart g.output = w := if_neg hw
      obtain ⟨v₁, hrun, h⟩ := ih (h.perm (List.Perm.refl _) List.perm_middle.symm)
      rw [List.map_cons, happart]
      refine ⟨v₁, ?_, h.perm (List.Perm.refl _) List.perm_middle⟩
      rw [List.filter_cons_of_neg (by simpa using hw), hrun]

/-- A new group, which the workspaces of its output enter. -/
theorem addGroup (h : Shows outputs gs ws v) (hfresh : ∀ g' ∈ gs, g'.handle ≠ g.handle)
    (hgs : ∀ g' ∈ gs, g'.output ≠ g.output) :
    ∃ v', run View.apply v (([.workspaceGroup g.handle, .groupCapabilities g.handle] ++
        (outputs g.output).map (Event.outputEnter g.handle)) ++
        (ws.filter fun w => w.output = some g.output).map fun w =>
          .workspaceEnter g.handle w.handle) = some v' ∧
      Shows outputs (g :: gs) ws v' := by
  have happart := (apart_iff hgs).mpr h
  obtain ⟨v₁, hrun₁, h₁⟩ := happart.groupCreated hfresh hgs fun w hw => by
    obtain ⟨w', -, rfl⟩ := List.mem_map.mp hw
    exact w'.apart_output_ne g.output
  rw [← List.append_nil (ws.map _)] at h₁
  obtain ⟨v₂, hrun₂, h₂⟩ := h₁.enterAll ws
  rw [List.append_nil] at h₂
  exact ⟨v₂, by rw [run_append_of_eq hrun₁, hrun₂], h₂⟩

/-- The workspaces of a group leave it, and it is removed. -/
theorem removeGroup (h : Shows outputs (g :: gs) ws v) :
    ∃ v', run View.apply v (((ws.filter fun w => w.output = some g.output).map fun w =>
        .workspaceLeave g.handle w.handle) ++ [.groupRemoved g.handle]) = some v' ∧
      Shows outputs gs ws v' := by
  have hgs : ∀ g' ∈ gs, g'.output ≠ g.output := by
    intro g' hg' heq
    have hnodup := h.outputs_nodup
    rw [List.map_cons, List.nodup_cons] at hnodup
    exact hnodup.1 (heq ▸ List.mem_map_of_mem hg')
  rw [← List.append_nil ws] at h
  obtain ⟨v₁, hrun₁, h₁⟩ := h.leaveAll ws
  rw [List.append_nil] at h₁
  obtain ⟨v₂, hrun₂, h₂⟩ := h₁.groupRemoved fun w hw => by
    obtain ⟨w', -, rfl⟩ := List.mem_map.mp hw
    exact w'.apart_output_ne g.output
  exact ⟨v₂, by rw [run_append_of_eq hrun₁, hrun₂], (apart_iff hgs).mp h₂⟩

/-! ## Descriptions -/

end Shows

/-- What a client is told of a workspace. -/
def ExtWorkspaceData.view (data : ExtWorkspaceData) : WorkspaceView :=
  ⟨data.id, some data.name, some data.coordinates, some data.state⟩

namespace Shows

/-- A run that begins by describing a workspace. -/
theorem run_change (h : Shows outputs gs (w :: ws) v) {e : Event}
    {f : WorkspaceView → WorkspaceView} (he : v.apply e = v.change w.handle f) :
    ∃ v', run View.apply v [e] = some v' ∧
      Shows outputs gs ({ w with view := f w.view } :: ws) v' := by
  obtain ⟨v', hv', h⟩ := h.change f
  exact ⟨v', run_single (he.trans hv'), h⟩

theorem run_id (h : Shows outputs gs (w :: ws) v) (hid : w.view.id = none) (id : String) :
    ∃ v', run View.apply v [.id w.handle id] = some v' ∧
      Shows outputs gs ({ w with view := { w.view with id := some id } } :: ws) v' :=
  h.run_change (f := fun wv => { wv with id := some id }) (by
    rw [View.apply, h.workspaces_eq List.mem_cons_self, Option.bind_some, if_pos hid])

/-- A new object for a workspace. -/
theorem addInstance (h : Shows outputs gs ws v) (data : ExtWorkspaceData) {handle : Handle}
    (hfresh : ∀ w ∈ ws, w.handle ≠ handle) :
    ∃ v', run View.apply v (data.addInstance handle) = some v' ∧
      Shows outputs gs (⟨data.view, handle, none⟩ :: ws) v' := by
  obtain ⟨v₁, hv₁, h₁⟩ := h.workspaceCreated hfresh
  have hid : ∃ v₂, run View.apply v₁ (data.id.map (Event.id handle)).toList = some v₂ ∧
      Shows outputs gs (⟨{ WorkspaceView.new with id := data.id }, handle, none⟩ :: ws) v₂ := by
    cases data.id with
    | none => exact ⟨v₁, rfl, h₁⟩
    | some id => exact h₁.run_id rfl id
  obtain ⟨v₂, hv₂, h₂⟩ := hid
  obtain ⟨v₃, hv₃, h₃⟩ := h₂.run_change (e := .name handle data.name) rfl
  obtain ⟨v₄, hv₄, h₄⟩ := h₃.run_change (e := .coordinates handle data.coordinates) rfl
  obtain ⟨v₅, hv₅, h₅⟩ := h₄.run_change (e := .state handle data.state) rfl
  have hlast : run View.apply v₅ [.capabilities handle] = some v₅ :=
    run_single (by rw [View.apply, h₅.workspaces_eq List.mem_cons_self]; rfl)
  refine ⟨v₅, ?_, h₅⟩
  rw [ExtWorkspaceData.addInstance, List.append_assoc, run_append_of_eq (run_single hv₁),
    run_append_of_eq hv₂, ← List.singleton_append, run_append_of_eq hv₃, ← List.singleton_append,
    run_append_of_eq hv₄, ← List.singleton_append, run_append_of_eq hv₅, hlast]

end Shows

end Cidre.Protocols
