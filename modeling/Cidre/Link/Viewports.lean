/-
  Cidre.Link.Viewports

  One viewport per output.

  Three paths write `per_node_viewports`: the layout operations change the entry of
  an output or append one, `sync_local_viewports` replaces the list of the local
  node, and a received `ViewportUpdate` appends, whatever is stored.  What is stored
  for one output (`stored`) is the state the three act on.
-/

import Cidre.Link.Session

namespace Cidre.Link

open Cidre.Run LinkManager

/-! ## What is stored for an output -/

/-- The viewports that a node has for an output. -/
def GlobalWorkspace.stored (ws : GlobalWorkspace) (n : NodeId) (output : String) : List Viewport :=
  ((ws.perNodeViewports.get n).getD []).filter fun v => v.outputName = output

section UpdateFirst

variable {α : Type*} {p q : α → Bool} {f : α → α} {l : List α}

/-- Among the elements with the property, the first is changed. -/
theorem filter_updateFirst (hf : ∀ a, p a = true → p (f a) = true) :
    (updateFirst p f l).filter p = (l.filter p).modifyHead f := by
  induction l with
  | nil => rfl
  | cons a l ih =>
    rw [updateFirst]
    by_cases ha : p a = true
    · rw [if_pos ha, List.filter_cons_of_pos (hf a ha), List.filter_cons_of_pos ha]
      rfl
    · rw [if_neg ha, List.filter_cons_of_neg ha, List.filter_cons_of_neg ha, ih]

theorem filter_updateFirst_of_disjoint (hq : ∀ a, p a = true → q a = false ∧ q (f a) = false) :
    (updateFirst p f l).filter q = l.filter q := by
  induction l with
  | nil => rfl
  | cons a l ih =>
    rw [updateFirst]
    by_cases ha : p a = true
    · obtain ⟨h, h'⟩ := hq a ha
      rw [if_pos ha, List.filter_cons_of_neg (by simp [h']),
        List.filter_cons_of_neg (by simp [h])]
    · rw [if_neg ha, List.filter_cons, List.filter_cons, ih]

end UpdateFirst

section Stored

variable (ws : GlobalWorkspace) (n : NodeId) (output : String)

/-- `SetViewport` takes the place of the first viewport of the output. -/
theorem stored_setViewport (v : Viewport) :
    (setViewport ws v).stored n output =
      if n = v.nodeId ∧ output = v.outputName then v :: (ws.stored n output).tail
      else ws.stored n output := by
  rw [GlobalWorkspace.stored, GlobalWorkspace.stored, setViewport]
  dsimp only
  rw [SortedMap.get_insert]
  by_cases hn : n = v.nodeId
  · subst hn
    rw [if_pos rfl, Option.getD_some]
    generalize (ws.perNodeViewports.get v.nodeId).getD [] = entry
    by_cases hout : output = v.outputName
    · subst hout
      have hhere : v.nodeId = v.nodeId ∧ v.outputName = v.outputName := ⟨rfl, rfl⟩
      rw [if_pos hhere]
      by_cases hany : (entry.any fun w => w.outputName = v.outputName) = true
      · obtain ⟨w, hw, hsame⟩ := List.any_eq_true.mp hany
        have hne : (entry.filter fun w => w.outputName = v.outputName) ≠ [] :=
          List.ne_nil_of_mem (List.mem_filter.mpr ⟨hw, hsame⟩)
        have hset : ∀ w : Viewport, decide (w.outputName = v.outputName) = true →
            decide (v.outputName = v.outputName) = true := fun _ _ => decide_eq_true rfl
        rw [if_pos hany, filter_updateFirst hset]
        cases hfilter : entry.filter fun w => w.outputName = v.outputName with
        | nil => exact absurd hfilter hne
        | cons w' rest => rfl
      · have hnil : (entry.filter fun w => w.outputName = v.outputName) = [] := by
          rw [List.filter_eq_nil_iff]
          exact fun w hw hsame => hany (List.any_eq_true.mpr ⟨w, hw, hsame⟩)
        rw [if_neg hany, List.filter_append, hnil]
        simp
    · have hne : ¬ v.outputName = output := fun h => hout h.symm
      have hother : ¬ (v.nodeId = v.nodeId ∧ output = v.outputName) := fun h => hout h.2
      rw [if_neg hother]
      split
      · refine filter_updateFirst_of_disjoint fun w hw => ?_
        have hw : w.outputName = v.outputName := by simpa using hw
        simp [hw, hne]
      · rw [List.filter_append]
        simp [hne]
  · rw [if_neg hn, if_neg fun h => hn h.1]

theorem stored_scrollViewport (node : NodeId) (name : String) (globalX : F64) :
    (scrollViewport ws node name globalX).stored n output =
      if n = node ∧ output = name then
        (ws.stored n output).modifyHead fun v => { v with globalX }
      else ws.stored n output := by
  rw [GlobalWorkspace.stored, GlobalWorkspace.stored, scrollViewport]
  dsimp only
  rw [SortedMap.get_modify]
  by_cases hn : n = node
  · subst hn
    rw [if_pos rfl]
    cases ws.perNodeViewports.get n with
    | none => split <;> rfl
    | some entry =>
      rw [Option.map_some, Option.getD_some, Option.getD_some]
      by_cases hout : output = name
      · subst hout
        rw [if_pos ⟨rfl, rfl⟩]
        exact filter_updateFirst fun _ h => h
      · rw [if_neg fun h => hout h.2]
        have hne : ¬ name = output := fun h => hout h.symm
        refine filter_updateFirst_of_disjoint fun w hw => ?_
        have hw : w.outputName = name := by simpa using hw
        simp [hw, hne]
  · rw [if_neg hn, if_neg fun h => hn h.1]

/-- A received viewport is appended. -/
theorem stored_append (v : Viewport) :
    GlobalWorkspace.stored
        { ws with
          perNodeViewports := ws.perNodeViewports.insert v.nodeId
            ((ws.perNodeViewports.get v.nodeId).getD [] ++ [v]) } n output =
      if n = v.nodeId ∧ output = v.outputName then ws.stored n output ++ [v]
      else ws.stored n output := by
  rw [GlobalWorkspace.stored, GlobalWorkspace.stored, SortedMap.get_insert]
  by_cases hn : n = v.nodeId
  · subst hn
    rw [if_pos rfl, Option.getD_some, List.filter_append]
    by_cases hout : output = v.outputName
    · simp [hout]
    · have hne : ¬ v.outputName = output := fun h => hout h.symm
      simp [hout, hne]
  · rw [if_neg hn, if_neg fun h => hn h.1]

end Stored

section Lists

variable {vs ws : List Viewport}

/-- Lists that compare equal have equal viewports for an output. -/
theorem viewportsEq_filter (h : viewportsEq vs ws = true) (output : String) :
    viewportsEq (vs.filter fun v => v.outputName = output)
      (ws.filter fun v => v.outputName = output) = true := by
  induction vs generalizing ws with
  | nil =>
    cases ws with
    | nil => rfl
    | cons w ws => exact absurd h (by simp [viewportsEq])
  | cons v vs ih =>
    cases ws with
    | nil => exact absurd h (by simp [viewportsEq])
    | cons w ws =>
      obtain ⟨hvw, hrest⟩ := Bool.and_eq_true_iff.mp h
      have hname : v.outputName = w.outputName := by
        simp only [viewportEq, Bool.and_eq_true, decide_eq_true_eq] at hvw
        exact hvw.1.1.1.1.1.1.1.2
      by_cases hout : w.outputName = output
      · rw [List.filter_cons_of_pos (by simpa [hname] using hout),
          List.filter_cons_of_pos (by simpa using hout), viewportsEq, hvw, ih hrest]
        rfl
      · rw [List.filter_cons_of_neg (by simpa [hname] using hout),
          List.filter_cons_of_neg (by simpa using hout)]
        exact ih hrest

/-- With distinct names every output has its viewport alone. -/
theorem filter_outputName_eq (h : (vs.map (·.outputName)).Nodup) {v : Viewport} (hv : v ∈ vs) :
    (vs.filter fun w => w.outputName = v.outputName) = [v] := by
  induction vs with
  | nil => exact absurd hv List.not_mem_nil
  | cons w vs ih =>
    obtain ⟨hw, hvs⟩ := List.nodup_cons.mp h
    rcases List.mem_cons.mp hv with rfl | hv
    · have hnone : (vs.filter fun w => w.outputName = v.outputName) = [] := by
        rw [List.filter_eq_nil_iff]
        intro w hmem heq
        exact hw (List.mem_map.mpr ⟨w, hmem, by simpa using heq⟩)
      rw [List.filter_cons_of_pos (by simp), hnone]
    · have hne : ¬ w.outputName = v.outputName := fun heq =>
        hw (List.mem_map.mpr ⟨v, hv, heq.symm⟩)
      rw [List.filter_cons_of_neg (by simpa using hne)]
      exact ih hvs hv

/-- A list that compares equal to one with distinct names has one viewport for
every output, equal to the listed one. -/
theorem viewportsEq_stored (h : (ws.map (·.outputName)).Nodup) (heq : viewportsEq vs ws = true) :
    (∀ output, (vs.filter fun v => v.outputName = output).length ≤ 1) ∧
      ∀ w ∈ ws, ∃ v, (vs.filter fun v => v.outputName = w.outputName) = [v] ∧
        viewportEq v w = true := by
  have hone : ∀ w ∈ ws, ∃ v, (vs.filter fun v => v.outputName = w.outputName) = [v] ∧
      viewportEq v w = true := by
    intro w hw
    have hfilter := viewportsEq_filter heq w.outputName
    rw [filter_outputName_eq h hw] at hfilter
    cases hvs : vs.filter fun v => v.outputName = w.outputName with
    | nil =>
      rw [hvs] at hfilter
      exact absurd hfilter (by simp [viewportsEq])
    | cons v rest =>
      rw [hvs] at hfilter
      obtain ⟨hv, hrest⟩ := Bool.and_eq_true_iff.mp hfilter
      cases rest with
      | nil => exact ⟨v, rfl, hv⟩
      | cons _ _ => exact absurd hrest (by simp [viewportsEq])
  refine ⟨fun output => ?_, hone⟩
  have hfilter := viewportsEq_filter heq output
  cases hws : ws.filter fun w => w.outputName = output with
  | nil =>
    rw [hws] at hfilter
    cases hvs : vs.filter fun v => v.outputName = output with
    | nil => exact Nat.zero_le _
    | cons v rest =>
      rw [hvs] at hfilter
      exact absurd hfilter (by simp [viewportsEq])
  | cons w rest =>
    have hmem : w ∈ ws.filter fun w => w.outputName = output := hws ▸ List.mem_cons_self
    obtain ⟨hw, hout⟩ := List.mem_filter.mp hmem
    obtain ⟨v, hv, -⟩ := hone w hw
    have hout : w.outputName = output := by simpa using hout
    rw [← hout, hv]
    exact Nat.le_refl _

end Lists

/-! ## The updates -/

/-- No node has two viewports for one output. -/
def GlobalWorkspace.OnePerOutput (ws : GlobalWorkspace) : Prop :=
  ∀ n output, (ws.stored n output).length ≤ 1

def LinkManager.OnePerOutput (m : LinkManager) : Prop :=
  ∀ s, m.currentSession = some s → s.workspace.OnePerOutput

/-- In a session, the viewport is the one stored for its output. -/
def LinkManager.Stores (m : LinkManager) (v : Viewport) : Prop :=
  ∀ s, m.currentSession = some s → s.workspace.stored v.nodeId v.outputName = [v]

/-- `SetViewport` or `ScrollViewport`. -/
def LayoutOpKind.ActsOnViewports : LayoutOpKind → Prop
  | .setViewport _ | .scrollViewport _ _ _ => True
  | _ => False

/-- After the operation the stored viewport of its output is as the operation says;
scrolling where nothing is stored stores nothing. -/
def LayoutOpKind.Stored (m m' : LinkManager) : LayoutOpKind → Prop
  | .setViewport v => m'.Stores v
  | .scrollViewport n output globalX => ∀ s s', m.currentSession = some s →
      m'.currentSession = some s' →
        s'.workspace.stored n output =
          (s.workspace.stored n output).map fun v => { v with globalX }
  | _ => True

/-- The updates of viewports that the sibling nodes and the compositor make. -/
def Event.UpdatesViewports : Event → Prop
  | .received d =>
      match d.msg.envelope.kind with
      | .layoutOp op => op.kind.ActsOnViewports
      | .viewportUpdate _ => True
      | _ => False
  | .called _ (.applyLayoutOp kind) => kind.ActsOnViewports
  | .called _ (.upsertLocalViewport _) => True
  | .called _ (.syncLocalViewports viewports) => (viewports.map (·.outputName)).Nodup
  | _ => False

/-- After the update the stored viewport of every output it is about is the one it
brought.  `sync_local_viewports` keeps a list that compares equal. -/
def Event.LastStored (m m' : LinkManager) : Event → Prop
  | .received d =>
      match d.msg.envelope.kind with
      | .layoutOp op => op.kind.Stored m m'
      | .viewportUpdate v => m'.Stores v
      | _ => True
  | .called _ (.applyLayoutOp kind) => kind.Stored m m'
  | .called _ (.upsertLocalViewport v) => m'.Stores v
  | .called _ (.syncLocalViewports viewports) => m.enabled = true →
      ∃ s', m'.currentSession = some s' ∧ ∀ v ∈ viewports, ∃ v',
        s'.workspace.stored m.localNodeId v.outputName = [v'] ∧ (v' = v ∨ viewportEq v' v = true)
  | _ => True

/-- A received viewport is the first of its node for its output. -/
def Event.NewOutput (m : LinkManager) : Event → Prop
  | .received d =>
      match d.msg.envelope.kind with
      | .viewportUpdate v => ∀ s, m.currentSession = some s →
          s.workspace.stored v.nodeId v.outputName = []
      | _ => True
  | _ => True

section Updates

variable {m m' : LinkManager}

theorem onePerOutput_sharedWorkspace (env : Env) (h : m.OnePerOutput) :
    (m.sharedWorkspace env).OnePerOutput := by
  rw [sharedWorkspace]
  cases hs : m.currentSession with
  | none => exact fun _ _ => Nat.zero_le _
  | some s => exact h s hs

theorem OnePerOutput.applyKind {ws : GlobalWorkspace} {kind : LayoutOpKind} (h : ws.OnePerOutput)
    (hacts : kind.ActsOnViewports) : (applyKind ws kind).OnePerOutput := by
  cases kind with
  | setViewport v =>
    intro n output
    have hle := h n output
    rw [Cidre.Link.applyKind, stored_setViewport]
    split
    · rw [List.length_cons, List.length_tail]
      omega
    · exact hle
  | scrollViewport node name globalX =>
    intro n output
    rw [Cidre.Link.applyKind, stored_scrollViewport]
    split
    · rw [List.length_modifyHead]
      exact h n output
    · exact h n output
  | _ => exact hacts.elim

/-- The layout operations on viewports keep one for every output, and store what
they bring. -/
theorem stored_of_applied {kind : LayoutOpKind} {f : LinkedSession → LayoutOp}
    (hkind : ∀ s, (f s).kind = kind)
    (hm' : m'.currentSession = m.currentSession.map fun s => s.apply (f s))
    (h : m.OnePerOutput) (hacts : kind.ActsOnViewports) :
    m'.OnePerOutput ∧ kind.Stored m m' := by
  have hsession : ∀ s', m'.currentSession = some s' → ∃ s ws, m.currentSession = some s ∧
      ws.perNodeViewports = s.workspace.perNodeViewports ∧ s'.workspace = applyKind ws kind := by
    intro s' hs'
    rw [hm'] at hs'
    obtain ⟨s, hs, rfl⟩ := Option.map_eq_some_iff.mp hs'
    exact ⟨s, { s.workspace with operationSeq := (f s).seq, generation := (f s).generation }, hs,
      rfl, by rw [← hkind s]; rfl⟩
  have hstored : ∀ (ws ws' : GlobalWorkspace), ws.perNodeViewports = ws'.perNodeViewports →
      ∀ n output, ws.stored n output = ws'.stored n output := by
    intro ws ws' hws n output
    rw [GlobalWorkspace.stored, GlobalWorkspace.stored, hws]
  constructor
  · intro s' hs'
    obtain ⟨s, ws, hs, hws, heq⟩ := hsession s' hs'
    rw [heq]
    exact OnePerOutput.applyKind (fun n output => hstored ws _ hws n output ▸ h s hs n output) hacts
  · cases kind with
    | setViewport v =>
      intro s' hs'
      obtain ⟨s, ws, hs, hws, heq⟩ := hsession s' hs'
      have hle := h s hs v.nodeId v.outputName
      rw [← hstored ws _ hws] at hle
      have htail : (ws.stored v.nodeId v.outputName).tail = [] :=
        List.eq_nil_of_length_eq_zero (by rw [List.length_tail]; omega)
      rw [heq, applyKind, stored_setViewport, if_pos ⟨rfl, rfl⟩, htail]
    | scrollViewport node name globalX =>
      intro s s' hs hs'
      obtain ⟨t, ws, ht, hws, heq⟩ := hsession s' hs'
      rw [hs] at ht
      obtain rfl := Option.some.inj ht
      have hle := h s hs node name
      rw [heq, applyKind, stored_scrollViewport, if_pos ⟨rfl, rfl⟩, hstored ws _ hws]
      -- the list has one viewport at most, and the first is the only one
      cases hlist : s.workspace.stored node name with
      | nil => rfl
      | cons v rest =>
        rw [hlist, List.length_cons] at hle
        rw [List.eq_nil_of_length_eq_zero (l := rest) (by omega)]
        rfl
    | _ => exact hacts.elim

/-- A received viewport is stored alone exactly if it is the first for its output. -/
theorem receiveViewport_iff (v : Viewport) (h : m.OnePerOutput) :
    ((m.receiveViewport v).OnePerOutput ∧ (m.receiveViewport v).Stores v) ↔
      ∀ s, m.currentSession = some s → s.workspace.stored v.nodeId v.outputName = [] := by
  have hsession : ∀ s, m.currentSession = some s → ∃ ws log,
      (m.receiveViewport v).currentSession = some ⟨ws, log⟩ ∧ ∀ n output, ws.stored n output =
        if n = v.nodeId ∧ output = v.outputName then s.workspace.stored n output ++ [v]
        else s.workspace.stored n output := by
    intro s hs
    exact ⟨_, s.log, modifyWorkspace_session hs _,
      fun n output => stored_append s.workspace n output v⟩
  constructor
  · rintro ⟨hone, -⟩ s hs
    obtain ⟨ws, log, hs', hstored⟩ := hsession s hs
    have hle := hone _ hs' v.nodeId v.outputName
    dsimp only at hle
    rw [hstored, if_pos ⟨rfl, rfl⟩, List.length_append, List.length_singleton] at hle
    exact List.eq_nil_of_length_eq_zero (by omega)
  · intro hnew
    have hone : ∀ s', (m.receiveViewport v).currentSession = some s' →
        s'.workspace.OnePerOutput ∧ s'.workspace.stored v.nodeId v.outputName = [v] := by
      intro s' hs'
      cases hs : m.currentSession with
      | none =>
        rw [receiveViewport, modifyWorkspace, hs] at hs'
        exact absurd hs' (Option.some_ne_none s').symm
      | some s =>
        obtain ⟨ws, log, hws, hstored⟩ := hsession s hs
        rw [hws] at hs'
        obtain rfl := Option.some.inj hs'
        constructor
        · intro n output
          dsimp only
          rw [hstored]
          split
          · rename_i heq
            rw [heq.1, heq.2, hnew s hs]
            exact Nat.le_refl _
          · exact h s hs n output
        · dsimp only
          rw [hstored, if_pos ⟨rfl, rfl⟩, hnew s hs]
          rfl
    exact ⟨fun s' hs' => (hone s' hs').1, fun s' hs' => (hone s' hs').2⟩

/-- The local list compares equal to the sorted one and is kept, or it is replaced. -/
theorem syncLocalViewports_session (env : Env) (viewports : List Viewport)
    (henabled : m.enabled = true) :
    ∃ sorted ws log, sorted.Perm viewports ∧
      (m.syncLocalViewports env viewports).currentSession = some ⟨ws, log⟩ ∧
      ((ws.perNodeViewports = (m.sharedWorkspace env).perNodeViewports ∧
          ∃ vs, ws.perNodeViewports.get m.localNodeId = some vs ∧ viewportsEq vs sorted = true) ∨
        ws.perNodeViewports =
          (m.sharedWorkspace env).perNodeViewports.insert m.localNodeId sorted) := by
  obtain ⟨participants, log, hsession⟩ := m.ensureLocalParticipant_session env
  obtain ⟨sorted, hsorted⟩ : ∃ sorted,
      viewports.mergeSort (fun a b => decide (viewportKey a ≤ viewportKey b)) = sorted := ⟨_, rfl⟩
  have hperm : sorted.Perm viewports := hsorted ▸ List.mergeSort_perm _ _
  have hsync : ∃ f : GlobalWorkspace → GlobalWorkspace,
      m.syncLocalViewports env viewports = (m.ensureLocalParticipant env).modifyWorkspace f ∧
      ∀ ws, ((f ws).perNodeViewports = ws.perNodeViewports ∧
          ∃ vs, ws.perNodeViewports.get m.localNodeId = some vs ∧ viewportsEq vs sorted = true) ∨
        (f ws).perNodeViewports = ws.perNodeViewports.insert m.localNodeId sorted := by
    rw [syncLocalViewports, if_pos henabled]
    dsimp only
    rw [hsorted]
    refine ⟨_, rfl, fun ws => ?_⟩
    split
    · rename_i hsame
      obtain ⟨vs, hvs, heq⟩ := (Option.any_eq_true _ _).mp (Bool.and_eq_true_iff.mp hsame).1
      exact Or.inl ⟨rfl, vs, hvs, heq⟩
    · exact Or.inr rfl
  obtain ⟨f, hf, hws⟩ := hsync
  refine ⟨sorted, _, log, hperm, hf ▸ modifyWorkspace_session hsession f, ?_⟩
  rcases hws { m.sharedWorkspace env with participants } with ⟨hkept, vs, hvs, heq⟩ | hreplaced
  · exact Or.inl ⟨hkept, vs, hkept ▸ hvs, heq⟩
  · exact Or.inr hreplaced

theorem syncLocalViewports_stored (env : Env) {viewports : List Viewport} (h : m.OnePerOutput)
    (hnames : (viewports.map (·.outputName)).Nodup) :
    (m.syncLocalViewports env viewports).OnePerOutput ∧ (m.enabled = true →
      ∃ s', (m.syncLocalViewports env viewports).currentSession = some s' ∧
        ∀ v ∈ viewports, ∃ v', s'.workspace.stored m.localNodeId v.outputName = [v'] ∧
          (v' = v ∨ viewportEq v' v = true)) := by
  by_cases henabled : m.enabled = true
  swap
  · rw [syncLocalViewports, if_neg henabled]
    exact ⟨h, fun h => absurd h henabled⟩
  have hshared := onePerOutput_sharedWorkspace env h
  obtain ⟨sorted, ws, log, hperm, hsession, hws⟩ :=
    syncLocalViewports_session env viewports henabled
  have hnames : (sorted.map (·.outputName)).Nodup := (hperm.map _).nodup_iff.mpr hnames
  suffices hstored : ws.OnePerOutput ∧ ∀ v ∈ sorted, ∃ v',
      ws.stored m.localNodeId v.outputName = [v'] ∧ (v' = v ∨ viewportEq v' v = true) by
    refine ⟨fun s' hs' => ?_,
      fun _ => ⟨_, hsession, fun v hv => hstored.2 v (hperm.mem_iff.mpr hv)⟩⟩
    rw [hsession] at hs'
    obtain rfl := Option.some.inj hs'
    exact hstored.1
  rcases hws with ⟨hkept, vs, hvs, heq⟩ | hreplaced
  · refine ⟨fun n output => ?_, fun v hv => ?_⟩
    · rw [GlobalWorkspace.stored, hkept]
      exact hshared n output
    · obtain ⟨v', hv', hsame⟩ := (viewportsEq_stored hnames heq).2 v hv
      refine ⟨v', ?_, Or.inr hsame⟩
      rw [GlobalWorkspace.stored, hvs]
      exact hv'
  · have hget : ∀ n output, ws.stored n output =
        if n = m.localNodeId then sorted.filter fun v => v.outputName = output
        else (m.sharedWorkspace env).stored n output := by
      intro n output
      rw [GlobalWorkspace.stored, GlobalWorkspace.stored, hreplaced, SortedMap.get_insert]
      split <;> rfl
    refine ⟨fun n output => ?_, fun v hv => ?_⟩
    · rw [hget]
      split
      · by_cases hnone : (sorted.filter fun v => v.outputName = output) = []
        · rw [hnone]
          exact Nat.zero_le _
        · obtain ⟨v, hv⟩ := List.exists_mem_of_ne_nil _ hnone
          obtain ⟨hv, hout⟩ := List.mem_filter.mp hv
          have hout : v.outputName = output := by simpa using hout
          rw [← hout, filter_outputName_eq hnames hv]
          exact Nat.le_refl _
      · exact hshared n output
    · exact ⟨v, by rw [hget, if_pos rfl, filter_outputName_eq hnames hv], Or.inl rfl⟩

/-- One step: an update keeps one viewport for every output and stores what it
brings, unless it is a received viewport for an output that has one. -/
theorem step_viewports_iff {e : Event} (hupdates : e.UpdatesViewports) (h : m.OnePerOutput) :
    (∀ m', m.step e = some m' → m'.OnePerOutput ∧ e.LastStored m m') ↔ e.NewOutput m := by
  have hop : ∀ op : LayoutOp, op.kind.ActsOnViewports →
      (m.receiveLayoutOp op).OnePerOutput ∧ op.kind.Stored m (m.receiveLayoutOp op) := fun op =>
    stored_of_applied (f := fun _ => op) (fun _ => rfl) rfl h
  have hcall : ∀ (m : LinkManager) (kind : LayoutOpKind), m.OnePerOutput → kind.ActsOnViewports →
      (m.applyLayoutOp kind).OnePerOutput ∧ kind.Stored m (m.applyLayoutOp kind) := fun m kind =>
    stored_of_applied (f := fun s => m.nextOp s kind) (fun _ => rfl) rfl
  cases e with
  | received d =>
    obtain ⟨env, peer, envelope⟩ := d
    rw [LinkManager.step, LinkManager.receive, processMessage]
    rw [Event.UpdatesViewports] at hupdates
    simp only [Event.LastStored, Event.NewOutput]
    dsimp only at hupdates ⊢
    cases hkind : envelope.kind with
    | layoutOp op =>
      rw [hkind] at hupdates
      refine iff_of_true (fun m' hm' => ?_) trivial
      obtain rfl := Option.some.inj hm'
      exact hop op hupdates
    | viewportUpdate v =>
      refine Iff.trans ?_ (receiveViewport_iff v h)
      constructor
      · exact fun hstep => hstep _ rfl
      · intro hstored m' hm'
        obtain rfl := Option.some.inj hm'
        exact hstored
    | _ =>
      rw [hkind] at hupdates
      exact hupdates.elim
  | called env c =>
    refine iff_of_true (fun m' hm' => ?_) trivial
    obtain rfl := Option.some.inj hm'
    cases c with
    | applyLayoutOp kind => exact hcall m kind h hupdates
    | upsertLocalViewport v =>
      have henabled : (m.enable env).OnePerOutput := by
        obtain ⟨log, hlog⟩ := m.enable_session env
        intro s hs
        rw [hlog] at hs
        obtain rfl := Option.some.inj hs
        exact onePerOutput_sharedWorkspace env h
      exact hcall (m.enable env) (.setViewport v) henabled trivial
    | syncLocalViewports viewports => exact syncLocalViewports_stored env h hupdates
    | _ => exact hupdates.elim

end Updates

/-- Along a run of updates there is one viewport for every output, the last one
brought, exactly if every received viewport is the first of its node for its output. -/
theorem one_viewport_per_output_iff (m : LinkManager) (es : List Event) (h : m.OnePerOutput)
    (hupdates : ∀ e ∈ es, e.UpdatesViewports) :
    StepsMeet LinkManager.step
        (fun m e => ∀ m', m.step e = some m' → m'.OnePerOutput ∧ e.LastStored m m') m es ↔
      StepsMeet LinkManager.step (fun m e => e.NewOutput m) m es := by
  refine stepsMeet_iff_of_mem (fun e he m hm => ?_) (fun e _ m m' _ hgood hstep => ?_) h
  · exact step_viewports_iff (hupdates e he) hm
  · exact (hgood m' hstep).1

/-- An output of 1920 by 1080 pixels at the left edge, or at 1920. -/
def sampleViewport (n : NodeId) (output : String) (right : Bool) : Viewport where
  nodeId := n
  outputName := output
  globalX := ⟨if right then 0x409E000000000000 else 0⟩
  globalY := ⟨0⟩
  logicalWidth := ⟨0x409E000000000000⟩
  logicalHeight := ⟨0x4090E00000000000⟩
  scale := ⟨0x3FF0000000000000⟩
  transform := 0
  refreshRateMillihz := some 60000

/-- Node 2 sends a viewport. -/
def viewportFromTwo (right : Bool) : Event :=
  .received ⟨⟨0, 0, 0⟩,
    ⟨"peer", ⟨1, 0, 2, 0, 0, .viewportUpdate (sampleViewport 2 "DP-1" right)⟩⟩⟩

/-- The own viewport, and the first one of node 2. -/
theorem first_viewports_stored :
    StepsMeet LinkManager.step
      (fun m e => ∀ m', m.step e = some m' → m'.OnePerOutput ∧ e.LastStored m m') newManager
      [.called ⟨0, 0, 0⟩ (.upsertLocalViewport (sampleViewport 1 "eDP-1" false)),
        viewportFromTwo false] := by
  have hnone : newManager.OnePerOutput := fun s hs => absurd hs (Option.some_ne_none s).symm
  refine (one_viewport_per_output_iff newManager _ hnone ?_).mpr ⟨trivial, fun m hm => ⟨?_, ?_⟩⟩
  · intro e he
    rcases List.mem_pair.mp he with rfl | rfl
    · trivial
    · trivial
  · obtain rfl := Option.some.inj hm
    intro s hs
    have hstored : ((newManager.upsertLocalViewport ⟨0, 0, 0⟩
        (sampleViewport 1 "eDP-1" false)).currentSession.map
          fun s => s.workspace.stored 2 "DP-1") = some [] := by decide +kernel
    have hs : (newManager.upsertLocalViewport ⟨0, 0, 0⟩
        (sampleViewport 1 "eDP-1" false)).currentSession = some s := hs
    rw [hs] at hstored
    exact Option.some.inj hstored
  · exact fun _ _ => trivial

/-- The second viewport that node 2 sends for its output is stored beside the first. -/
theorem second_viewport_doubled :
    ¬ ∀ (m : LinkManager) (es : List Event), m.OnePerOutput → (∀ e ∈ es, e.UpdatesViewports) →
      StepsMeet LinkManager.step
        (fun m e => ∀ m', m.step e = some m' → m'.OnePerOutput ∧ e.LastStored m m') m es := by
  intro h
  have hnone : (newManager.enable ⟨0, 0, 0⟩).OnePerOutput := by
    intro s hs
    obtain rfl := Option.some.inj hs
    exact fun _ _ => Nat.zero_le _
  have hupdates : ∀ e ∈ [viewportFromTwo false, viewportFromTwo true], e.UpdatesViewports := by
    intro e he
    rcases List.mem_pair.mp he with rfl | rfl
    · trivial
    · trivial
  obtain ⟨-, hrest⟩ := h (newManager.enable ⟨0, 0, 0⟩) _ hnone hupdates
  obtain ⟨hlast, -⟩ := hrest _ rfl
  obtain ⟨hone, -⟩ := hlast _ rfl
  have hle := hone _ rfl 2 "DP-1"
  exact absurd hle (by decide +kernel)

end Cidre.Link
