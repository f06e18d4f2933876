/-
  Cidre.Workspaces.Reorder

  `move_workspace_to_idx` on a strip in order: which workspace is active after it,
  and where the workspace is that was moved.

  The strip is rearranged, surrounded by empty workspaces, and cleaned up.  The
  active index is moved with the workspaces in the first step and with the empty one
  above in the second, but the two are done in the other order: where the workspace
  is moved to the very top, the active index is already one further when it is
  compared with the old index of the workspace, which is not.
-/

import Cidre.Workspaces.Replug

namespace Cidre.Workspaces

open Cidre.Counter
open Cidre.Panic (Vec.insert Vec.remove)

variable {W : Type}

namespace Monitor

variable {m m₁ m' s : Monitor W} {moved ws : Workspace W} {n n' idx oldIdx newIdx : Nat}

/-- What was at an index is at the index that was made for the active one. -/
theorem getElem?_activeAfterMove {l : List (Workspace W)} {ws : Workspace W} {i : Nat}
    (hws : l[oldIdx]? = some ws) (hnew : newIdx < l.length) (hi : i < l.length) :
    ((l.eraseIdx oldIdx).insertIdx newIdx ws)[activeAfterMove i oldIdx newIdx]? = l[i]? := by
  obtain ⟨hold, -⟩ := List.getElem?_eq_some_iff.mp hws
  have hlen := List.length_eraseIdx_of_lt hold
  rw [activeAfterMove, List.getElem?_insertIdx]
  by_cases heq : i = oldIdx
  · rw [if_pos heq, if_neg (Nat.lt_irrefl _), if_pos rfl, if_pos (by omega), heq, hws]
  · rw [if_neg heq]
    by_cases hdown : newIdx ≤ i ∧ i < oldIdx
    · rw [if_pos hdown, if_neg (by omega), if_neg (by omega), List.getElem?_eraseIdx,
        if_pos (by omega), Nat.add_sub_cancel]
    · rw [if_neg hdown]
      by_cases hup : i ≤ newIdx ∧ oldIdx < i
      · rw [if_pos hup, if_pos (by omega), List.getElem?_eraseIdx, if_neg (by omega),
          Nat.sub_add_cancel (by omega)]
      · rw [if_neg hup, List.getElem?_eraseIdx, List.getElem?_eraseIdx]
        by_cases hbelow : i < newIdx
        · rw [if_pos hbelow, if_pos (by omega)]
        · rw [if_neg hbelow, if_neg (by omega), if_neg (by omega),
            Nat.sub_add_cancel (by omega)]

/-! ## The strip before it is cleaned up -/

/-- `s` is `m` with the workspace at `oldIdx` moved to `newIdx`, with empty workspaces
    around it. -/
structure Rearranged (m : Monitor W) (oldIdx newIdx : Nat) (moved : Workspace W)
    (s : Monitor W) : Prop where
  workspaces_eq : ∃ top bottom,
    s.workspaces = (top ++ (m.workspaces.eraseIdx oldIdx).take newIdx) ++
      moved :: ((m.workspaces.eraseIdx oldIdx).drop newIdx ++ bottom) ∧
    top.length = (if m.above && min oldIdx newIdx == 0 then 1 else 0) ∧
    bottom.length = (if max oldIdx newIdx == m.workspaces.length - 1 then 1 else 0) ∧
    ∀ ws ∈ top ++ bottom, ws.hasWindowsOrName = false
  active_eq : s.activeWorkspaceIdx = activeAfterMove
    (m.surroundedIdx (min oldIdx newIdx) m.activeWorkspaceIdx) oldIdx
    (m.surroundedIdx (min oldIdx newIdx) newIdx)
  above_eq : s.above = m.above
  nodup : s.ids.Nodup

/-- The requested index, where there is one. -/
abbrev withinStrip (m : Monitor W) (newIdx : Nat) : Nat := min newIdx (m.workspaces.length - 1)

theorem moveWorkspaceToIdx_rearranged (h : m.InOrder n) (hget : m.workspaces[oldIdx]? = some moved)
    (hne : oldIdx ≠ m.withinStrip newIdx) :
    Yields (m.moveWorkspaceToIdx oldIdx newIdx) n fun m' _ =>
      ∃ s, m.Rearranged oldIdx (m.withinStrip newIdx) moved s ∧ s.Trims m' ∧
        ((∃ ws ∈ s.workspaces, ws.hasWindowsOrName = true) → s.Swept m') := by
  obtain ⟨hold, -⟩ := List.getElem?_eq_some_iff.mp hget
  have herase := List.length_eraseIdx_of_lt hold
  rw [withinStrip] at hne ⊢
  rw [moveWorkspaceToIdx]
  simp only []
  generalize hidx : min newIdx (m.workspaces.length - 1) = idx at hne ⊢
  have hlt : idx ≤ (m.workspaces.eraseIdx oldIdx).length := by omega
  refine yields_ite (fun hcond => absurd hcond (by omega)) fun _ => ?_
  refine yields_bounds_bind fun p hremove => yields_bounds_bind fun workspaces hins => ?_
  rw [Vec.remove, hget] at hremove
  obtain rfl := Option.some.inj hremove
  rw [Vec.insert, if_pos hlt] at hins
  obtain rfl := Option.some.inj hins
  have hperm : ((m.workspaces.eraseIdx oldIdx).insertIdx idx moved).Perm m.workspaces := by
    obtain ⟨-, rfl⟩ := List.getElem?_eq_some_iff.mp hget
    exact (List.perm_insertIdx _ _ hlt).trans (List.getElem_cons_eraseIdx_perm hold)
  have hlen := hperm.length_eq
  have htracked := h.toTracked.withWorkspaces
    (show m.activeWorkspaceIdx < ((m.workspaces.eraseIdx oldIdx).insertIdx idx moved).length by
      have := h.active_lt
      omega)
    (by omega)
    (show ((m.workspaces.eraseIdx oldIdx).insertIdx idx moved).Perm ([] ++ m.workspaces) from hperm)
    List.nodup_nil (by simp)
  refine Yields.bind (fun s n₁ hs =>
    (surround_safe htracked (max oldIdx idx) (min oldIdx idx)).of_ok hs) ?_
  rintro s n₁ ⟨hs, hsurrounded⟩ m' n₂ hm'
  refine ⟨_, ⟨?_, ?_, ?_, ?_⟩, cleanUpWorkspaces_trims _ n₁ m' n₂ hm', ?_⟩
  · obtain ⟨top, bottom, hws, htop, hbottom, hspare, hspare'⟩ := hsurrounded.workspaces_eq
    refine ⟨top, bottom, ?_, htop, ?_, ?_⟩
    · show s.workspaces = _
      rw [hws]
      show top ++ (m.workspaces.eraseIdx oldIdx).insertIdx idx moved ++ bottom = _
      rw [Panic.Vec.insertIdx_eq_take_drop hlt]
      simp
    · rw [hbottom]
      show (if max oldIdx idx ==
        ((m.workspaces.eraseIdx oldIdx).insertIdx idx moved).length - 1 then 1 else 0) = _
      rw [hlen]
    · intro ws hws
      rcases List.mem_append.mp hws with hws | hws
      · exact spare_not_full (hspare ws hws)
      · exact spare_not_full (hspare' ws hws)
  · show activeAfterMove s.activeWorkspaceIdx oldIdx _ = _
    rw [hsurrounded.active_eq]
    rfl
  · exact hsurrounded.above_eq
  · exact hs.nodup
  · rintro ⟨ws, hws, hfull⟩
    exact cleanUpWorkspaces_swept hws hfull n₁ m' n₂ hm'

/-! ## The active workspace -/

theorem unused_first (h : m.InOrder n) (habove : m.above = true) {ws : Workspace W}
    (hget : m.workspaces[0]? = some ws) : ws.hasWindowsOrName = false := by
  obtain ⟨first, hfirst, hspare⟩ := h.first habove
  obtain rfl := Option.some.inj (hget.symm.trans hfirst)
  exact spare_not_full hspare

theorem unused_last (h : m.InOrder n) {ws : Workspace W}
    (hget : m.workspaces[m.workspaces.length - 1]? = some ws) : ws.hasWindowsOrName = false := by
  obtain ⟨last, hlast, hspare⟩ := h.last
  obtain rfl := Option.some.inj (hget.symm.trans hlast)
  exact spare_not_full hspare

/-- The workspace that is active before the clean-up was at `i`. -/
theorem Rearranged.activeWorkspace_eq
    (hs : m.Rearranged oldIdx newIdx moved s) (hget : m.workspaces[oldIdx]? = some moved)
    (hnew : newIdx < m.workspaces.length) {i : Nat} (hi : i < m.workspaces.length)
    (hactive : s.activeWorkspaceIdx = activeAfterMove i oldIdx newIdx +
      if m.above && min oldIdx newIdx == 0 then 1 else 0) :
    s.activeWorkspace = m.workspaces[i]? := by
  obtain ⟨hold, -⟩ := List.getElem?_eq_some_iff.mp hget
  have herase := List.length_eraseIdx_of_lt hold
  obtain ⟨top, bottom, hws, htop, -, -⟩ := hs.workspaces_eq
  have hmove := getElem?_activeAfterMove hget hnew hi
  rw [Panic.Vec.insertIdx_eq_take_drop (by omega)] at hmove
  have hlt := activeAfterMove_lt hi hnew hold
  have hmoved : ((m.workspaces.eraseIdx oldIdx).take newIdx ++
      moved :: (m.workspaces.eraseIdx oldIdx).drop newIdx).length = m.workspaces.length := by
    rw [List.length_append, List.length_cons, List.length_take, List.length_drop]
    omega
  rw [activeWorkspace, hactive, hws, List.append_assoc, ← htop, Nat.add_comm,
    List.getElem?_append_right (Nat.le_add_right _ _), Nat.add_sub_cancel_left, ← List.cons_append,
    ← List.append_assoc, List.getElem?_append_left (by omega), hmove]

/-- Without an empty workspace on top the active index is right. -/
theorem Rearranged.active_of_not_top (hs : m.Rearranged oldIdx newIdx moved s)
    (hget : m.workspaces[oldIdx]? = some moved) (hnew : newIdx < m.workspaces.length)
    (hactive : m.activeWorkspaceIdx < m.workspaces.length)
    (htop : (m.above && min oldIdx newIdx == 0) = false) :
    s.activeWorkspace = m.activeWorkspace := by
  refine hs.activeWorkspace_eq hget hnew hactive ?_
  rw [hs.active_eq, surroundedIdx, surroundedIdx, htop]
  rfl

/-- The index of the workspace that is active once the one at `oldIdx` is at the top. -/
def activatedByTop (active oldIdx : Nat) : Nat :=
  if active + 1 = oldIdx then oldIdx else if active = oldIdx then oldIdx - 1 else active

theorem activeAfterMove_top (active : Nat) (hpos : 0 < oldIdx) :
    activeAfterMove (active + 1) oldIdx (0 + 1) =
      activeAfterMove (activatedByTop active oldIdx) oldIdx 0 + 1 := by
  unfold activeAfterMove activatedByTop
  repeat' split
  all_goals omega

theorem activeAfterMove_first {active : Nat} (hactive : active ≠ 0) (hpos : 0 < newIdx) :
    activeAfterMove (active + 1) 0 (newIdx + 1) = activeAfterMove active 0 newIdx + 1 := by
  unfold activeAfterMove
  repeat' split
  all_goals omega

theorem Rearranged.active_of_top (hs : m.Rearranged oldIdx newIdx moved s)
    (hget : m.workspaces[oldIdx]? = some moved) (hnew : newIdx < m.workspaces.length)
    (hactive : m.activeWorkspaceIdx < m.workspaces.length) (habove : m.above = true)
    (hzero : newIdx = 0) (hpos : 0 < oldIdx) :
    s.activeWorkspace = m.workspaces[activatedByTop m.activeWorkspaceIdx oldIdx]? := by
  obtain ⟨hold, -⟩ := List.getElem?_eq_some_iff.mp hget
  have htop : (m.above && min oldIdx newIdx == 0) = true := by
    rw [habove, hzero]
    simp
  refine hs.activeWorkspace_eq hget hnew ?_ ?_
  · rw [activatedByTop]
    split
    · exact hold
    · split <;> omega
  · rw [hs.active_eq, surroundedIdx, surroundedIdx, htop, if_pos rfl, if_pos rfl, if_pos rfl, hzero]
    exact activeAfterMove_top _ hpos

/-- The empty workspace on top is moved, and is not the active one. -/
theorem Rearranged.active_of_first (hs : m.Rearranged oldIdx newIdx moved s)
    (hget : m.workspaces[oldIdx]? = some moved) (hnew : newIdx < m.workspaces.length)
    (hactive : m.activeWorkspaceIdx < m.workspaces.length) (habove : m.above = true)
    (hzero : oldIdx = 0) (hpos : 0 < newIdx) (hne : m.activeWorkspaceIdx ≠ 0) :
    s.activeWorkspace = m.activeWorkspace := by
  have htop : (m.above && min oldIdx newIdx == 0) = true := by
    rw [habove, hzero]
    simp
  refine hs.activeWorkspace_eq hget hnew hactive ?_
  rw [hs.active_eq, surroundedIdx, surroundedIdx, htop, if_pos rfl, if_pos rfl, if_pos rfl, hzero]
  exact activeAfterMove_first hne hpos

/-- The workspace is moved to the very top, under an empty one, and it or the one right
    above it is active and in use. -/
def LosesFocus (m : Monitor W) (oldIdx newIdx : Nat) : Prop :=
  m.above = true ∧ newIdx = 0 ∧ 0 < oldIdx ∧ oldIdx < m.workspaces.length ∧
    (m.activeWorkspaceIdx = oldIdx ∨ m.activeWorkspaceIdx + 1 = oldIdx) ∧
    ∃ ws, m.activeWorkspace = some ws ∧ ws.hasWindowsOrName = true

/-- The active workspace stays active before the clean-up. -/
theorem Rearranged.active_stays (h : m.InOrder n)
    (hs : m.Rearranged oldIdx (m.withinStrip newIdx) moved s)
    (hget : m.workspaces[oldIdx]? = some moved) (hne : oldIdx ≠ m.withinStrip newIdx)
    (hlose : ¬ m.LosesFocus oldIdx newIdx) (hws : m.activeWorkspace = some ws)
    (hfull : ws.hasWindowsOrName = true) : s.activeWorkspace = some ws := by
  obtain ⟨hold, -⟩ := List.getElem?_eq_some_iff.mp hget
  have hactive := h.active_lt
  have hnew : m.withinStrip newIdx < m.workspaces.length := by
    rw [withinStrip]
    omega
  rw [← hws]
  cases htop : (m.above && min oldIdx (m.withinStrip newIdx) == 0) with
  | false => exact hs.active_of_not_top hget hnew hactive htop
  | true =>
    rw [Bool.and_eq_true, beq_iff_eq] at htop
    obtain ⟨habove, hmin⟩ := htop
    have hne₀ : m.activeWorkspaceIdx ≠ 0 := by
      intro hzero
      rw [activeWorkspace, hzero] at hws
      rw [unused_first h habove hws] at hfull
      cases hfull
    rcases Nat.eq_zero_or_pos oldIdx with hzero | hpos
    · exact hs.active_of_first hget hnew hactive habove hzero (by omega) hne₀
    · have hzero : m.withinStrip newIdx = 0 := by omega
      rw [hs.active_of_top hget hnew hactive habove hzero hpos, activeWorkspace]
      rw [withinStrip] at hzero
      have hright : ¬ (m.activeWorkspaceIdx = oldIdx ∨ m.activeWorkspaceIdx + 1 = oldIdx) :=
        fun hnext => hlose ⟨habove, by omega, hpos, hold, hnext, ws, hws, hfull⟩
      rw [activatedByTop, if_neg (by omega), if_neg (by omega)]

/-- Another workspace is active before the clean-up. -/
theorem Rearranged.active_lost (h : m.InOrder n)
    (hs : m.Rearranged oldIdx (m.withinStrip newIdx) moved s)
    (hget : m.workspaces[oldIdx]? = some moved) (hlose : m.LosesFocus oldIdx newIdx)
    (hws : m.activeWorkspace = some ws) : s.activeWorkspace ≠ some ws := by
  obtain ⟨habove, rfl, hpos, hold, hnext, -⟩ := hlose
  have hactive := h.active_lt
  have hzero : m.withinStrip 0 = 0 := Nat.zero_min _
  rw [hs.active_of_top hget (by omega) hactive habove hzero hpos]
  intro hsame
  -- Two workspaces of the strip are not the same.
  have hids : m.ids[activatedByTop m.activeWorkspaceIdx oldIdx]? = m.ids[m.activeWorkspaceIdx]? := by
    rw [ids, List.getElem?_map, List.getElem?_map, hsame, ← hws]
    rfl
  have hlt : m.activeWorkspaceIdx < m.ids.length := by
    rw [ids, List.length_map]
    exact hactive
  have hidx := (List.getElem?_inj hlt h.nodup).mp hids.symm
  rw [activatedByTop] at hidx
  split at hidx
  · omega
  · split at hidx <;> omega

/-! ## The order and the place -/

/-- The first index a workspace in use can be at. -/
def lead (m : Monitor W) : Nat := if m.above then 1 else 0

/-- What a caller of `move_workspace_to_idx` counts on. -/
structure Reordered (m : Monitor W) (oldIdx newIdx : Nat) (m' : Monitor W) : Prop where
  /-- the active workspace stays active if it is in use -/
  focus : ∀ ws, m.activeWorkspace = some ws → ws.hasWindowsOrName = true →
    m'.activeWorkspace = some ws
  /-- the other workspaces that are in use are in the order they were in -/
  order : (m'.intoWorkspaces.filter fun ws =>
      m.workspaces[oldIdx]?.all fun moved => ws.id != moved.id) =
    (m.workspaces.eraseIdx oldIdx).filter Workspace.hasWindowsOrName
  /-- those of the first `newIdx` others that are still there are above the one that was
      moved, and no others are -/
  place : ∀ moved, m.workspaces[oldIdx]? = some moved → moved.hasWindowsOrName = true →
    m'.workspaces[m.lead + (((m.workspaces.eraseIdx oldIdx).take newIdx).drop m.lead).countP
      fun ws => ws.id ∈ m'.ids]? = some moved
  /-- where no workspaces were left over from a switch, that is the index asked for -/
  index : m.workspaceSwitch = none → ∀ moved, m.workspaces[oldIdx]? = some moved →
    moved.hasWindowsOrName = true →
    m'.workspaces[max m.lead (min newIdx (m'.workspaces.length - 2))]? = some moved

/-- A workspace in use is between the ends. -/
theorem used_inside (h : m.InOrder n) (hget : m.workspaces[oldIdx]? = some moved)
    (hfull : moved.hasWindowsOrName = true) :
    m.lead ≤ oldIdx ∧ oldIdx + 1 < m.workspaces.length := by
  obtain ⟨hold, -⟩ := List.getElem?_eq_some_iff.mp hget
  refine ⟨?_, ?_⟩
  · rw [lead]
    split
    · next habove =>
      refine Nat.pos_of_ne_zero ?_
      rintro rfl
      rw [unused_first h habove hget] at hfull
      cases hfull
    · exact Nat.zero_le _
  · by_contra hlast
    rw [show oldIdx = m.workspaces.length - 1 by omega] at hget
    rw [unused_last h hget] at hfull
    cases hfull

/-- Of a list with distinct identities all but one workspace are taken. -/
theorem filter_others {l r : List (Workspace W)}
    (hnodup : ((l ++ moved :: r).map Workspace.id).Nodup) :
    ((l ++ moved :: r).filter fun ws => ws.id != moved.id) = l ++ r := by
  rw [List.map_append, List.map_cons, List.nodup_append, List.nodup_cons] at hnodup
  obtain ⟨-, ⟨hr, -⟩, hl⟩ := hnodup
  have hl' : (l.filter fun ws => ws.id != moved.id) = l := List.filter_eq_self.mpr fun ws hws => by
    have := hl ws.id (List.mem_map_of_mem hws) moved.id List.mem_cons_self
    simpa using this
  have hr' : (r.filter fun ws => ws.id != moved.id) = r := List.filter_eq_self.mpr fun ws hws => by
    have hne : ws.id ≠ moved.id := fun heq => hr (heq ▸ List.mem_map_of_mem hws)
    simpa using hne
  rw [List.filter_append, List.filter_cons_of_neg (by simp), hl', hr']

theorem Rearranged.order (hs : m.Rearranged oldIdx newIdx moved s) :
    (s.intoWorkspaces.filter fun ws => ws.id != moved.id) =
      (m.workspaces.eraseIdx oldIdx).filter Workspace.hasWindowsOrName := by
  obtain ⟨top, bottom, hws, -, -, hfree⟩ := hs.workspaces_eq
  have hnodup := hs.nodup
  rw [ids, hws] at hnodup
  have hnone : ∀ l : List (Workspace W), l ⊆ top ++ bottom →
      l.filter Workspace.hasWindowsOrName = [] := fun l hl =>
    List.filter_eq_nil_iff.mpr fun ws hws => by simp [hfree ws (hl hws)]
  rw [intoWorkspaces, List.filter_comm, hws, filter_others hnodup, List.filter_append,
    List.filter_append, List.filter_append, hnone top (List.subset_append_left _ _),
    hnone bottom (List.subset_append_right _ _), List.nil_append, List.append_nil,
    ← List.filter_append, List.take_append_drop]

/-- The workspaces that are left above and below the one that was moved. -/
theorem Rearranged.split (h : m.InOrder n) (hs : m.Rearranged oldIdx newIdx moved s)
    (hget : m.workspaces[oldIdx]? = some moved) (hfull : moved.hasWindowsOrName = true)
    (hnew : newIdx < m.workspaces.length) (hne : oldIdx ≠ newIdx) (hswept : s.Swept m') :
    ∃ l₁ l₂, m'.workspaces = l₁ ++ moved :: l₂ ∧
      l₁.length = m.lead + (((m.workspaces.eraseIdx oldIdx).take newIdx).drop m.lead).countP
        (fun ws => ws.id ∈ m'.ids) ∧
      0 < l₂.length ∧ (newIdx + 1 = m.workspaces.length → l₂.length ≤ 1) := by
  obtain ⟨hlead, hold⟩ := used_inside h hget hfull
  have herase := List.length_eraseIdx_of_lt (show oldIdx < m.workspaces.length by omega)
  obtain ⟨top, bottom, hws, htop, hbottom, hfree⟩ := hs.workspaces_eq
  have hnodup := hs.nodup
  rw [ids, hws] at hnodup
  have hsub := hswept.sublist
  rw [hws] at hsub
  have hmem : moved ∈ m'.workspaces := by
    have hused : moved ∈ s.intoWorkspaces := List.mem_filter.mpr ⟨by simp [hws], hfull⟩
    rw [← hswept.used_eq] at hused
    exact (List.mem_filter.mp hused).1
  obtain ⟨l₁, l₂, hl, -, hl₂, hcount⟩ := sublist_split hnodup hsub hmem
  refine ⟨l₁, l₂, hl, ?_, ?_, ?_⟩
  · rw [hcount]
    cases habove : m.above with
    | false =>
      rw [habove] at htop
      obtain rfl := List.length_eq_zero_iff.mp htop
      rw [lead, habove]
      exact (Nat.zero_add _).symm
    | true =>
      -- The empty workspace above is the first one, and stays.
      obtain ⟨first, hfirst⟩ : ∃ first, top ++ (m.workspaces.eraseIdx oldIdx).take newIdx =
          first :: ((m.workspaces.eraseIdx oldIdx).take newIdx).drop 1 := by
        rw [lead, habove, if_pos rfl] at hlead
        rcases Nat.eq_zero_or_pos newIdx with rfl | hpos
        · rw [habove, if_pos (by simp)] at htop
          obtain ⟨first, rfl⟩ := List.length_eq_one_iff.mp htop
          exact ⟨first, by simp⟩
        · rw [habove, if_neg (by simp; omega)] at htop
          obtain rfl := List.length_eq_zero_iff.mp htop
          have hpos' : 0 < ((m.workspaces.eraseIdx oldIdx).take newIdx).length := by
            rw [List.length_take]
            omega
          refine ⟨((m.workspaces.eraseIdx oldIdx).take newIdx)[0], ?_⟩
          rw [List.nil_append]
          exact (List.drop_eq_getElem_cons hpos')
      have hhead : m'.workspaces.head? = some first := by
        rw [hswept.first_eq (hs.above_eq.trans habove), hws, hfirst]
        rfl
      have hin : first.id ∈ m'.workspaces.map Workspace.id :=
        List.mem_map_of_mem (List.mem_of_mem_head? hhead)
      rw [hfirst, List.countP_cons_of_pos (by simpa using hin), lead, habove, if_pos rfl,
        Nat.add_comm]
      rfl
  · -- The last workspace is another one.
    refine Nat.pos_of_ne_zero fun hzero => ?_
    obtain rfl := List.length_eq_zero_iff.mp hzero
    have hlast := hswept.last_eq
    rw [hl, hws, List.getLast?_append_cons, List.getLast?_append_cons, List.getLast?_singleton,
      List.getLast?_cons] at hlast
    have hrest : 0 < ((m.workspaces.eraseIdx oldIdx).drop newIdx ++ bottom).length := by
      rw [List.length_append, List.length_drop, hbottom]
      by_cases hlt : newIdx + 1 = m.workspaces.length
      · rw [if_pos (by rw [beq_iff_eq]; omega)]
        omega
      · omega
    obtain ⟨last, hlast'⟩ := List.getLast?_isSome.mpr (List.ne_nil_of_length_pos hrest) |>
      Option.isSome_iff_exists.mp
    rw [hlast'] at hlast
    have hmoved : moved = last := by simpa using hlast
    rw [List.map_append, List.map_cons, List.nodup_append, List.nodup_cons] at hnodup
    exact hnodup.2.1.1 (List.mem_map_of_mem (hmoved ▸ List.mem_of_getLast? hlast'))
  · intro hend
    have hle := hl₂.length_le
    rw [List.length_append, List.length_drop, hbottom] at hle
    split at hle <;> omega

/-- Without a switch in progress, nothing above the requested index is cleaned up. -/
theorem Rearranged.above_stay (h : m.InOrder n) (hs : m.Rearranged oldIdx newIdx moved s)
    (hget : m.workspaces[oldIdx]? = some moved) (hfull : moved.hasWindowsOrName = true)
    (hnew : newIdx + 1 < m.workspaces.length) (hswept : s.Swept m')
    (hnone : m.workspaceSwitch = none) :
    ∀ ws ∈ ((m.workspaces.eraseIdx oldIdx).take newIdx).drop m.lead, ws.id ∈ m'.ids := by
  obtain ⟨hlead, hold⟩ := used_inside h hget hfull
  intro ws hws
  obtain ⟨j, hj⟩ := List.mem_iff_getElem?.mp hws
  rw [List.getElem?_drop] at hj
  have hlt : m.lead + j < newIdx := by
    have := (List.getElem?_eq_some_iff.mp hj).1
    rw [List.length_take] at this
    omega
  rw [List.getElem?_take_of_lt hlt, List.getElem?_eraseIdx] at hj
  -- The workspace is between the ends of the strip.
  obtain ⟨i, hi, hile, hige⟩ : ∃ i, m.workspaces[i]? = some ws ∧ i ≤ newIdx ∧ m.lead ≤ i := by
    split at hj
    · exact ⟨m.lead + j, hj, by omega, by omega⟩
    · exact ⟨m.lead + j + 1, hj, by omega, by omega⟩
  refine List.mem_map_of_mem ?_
  by_cases heq : i = m.activeWorkspaceIdx
  · have htop : (m.above && min oldIdx newIdx == 0) = false := by
      cases habove : m.above with
      | false => rfl
      | true =>
        rw [lead, habove, if_pos rfl] at hlead hlt
        simp
        omega
    have hactive := hs.active_of_not_top hget (by omega) h.active_lt htop
    have hws' : m'.activeWorkspace = some ws := by
      rw [hswept.active_eq, hactive, activeWorkspace, ← heq, hi]
    exact List.mem_of_getElem? hws'
  · have hused : ws.hasWindowsOrName = true := by
      refine h.tidy hnone i ws hi heq (by omega) fun habove => ?_
      rw [lead, habove, if_pos rfl] at hige
      exact hige
    obtain ⟨top, bottom, hparts, -, -, -⟩ := hs.workspaces_eq
    have hin : ws ∈ s.intoWorkspaces := by
      refine List.mem_filter.mpr ⟨?_, hused⟩
      rw [hparts]
      refine List.mem_append_left _ (List.mem_append_right _ ?_)
      exact List.mem_of_mem_drop hws
    rw [← hswept.used_eq] at hin
    exact (List.mem_filter.mp hin).1

/-- The place is where it is to be, once the strip is cleaned up. -/
theorem Rearranged.placed (h : m.InOrder n)
    (hs : m.Rearranged oldIdx (m.withinStrip newIdx) moved s)
    (hget : m.workspaces[oldIdx]? = some moved) (hfull : moved.hasWindowsOrName = true)
    (hne : oldIdx ≠ m.withinStrip newIdx) (hswept : s.Swept m') :
    m'.workspaces[m.lead + (((m.workspaces.eraseIdx oldIdx).take newIdx).drop m.lead).countP
        fun ws => ws.id ∈ m'.ids]? = some moved ∧
      (m.workspaceSwitch = none →
        m'.workspaces[max m.lead (min newIdx (m'.workspaces.length - 2))]? = some moved) := by
  obtain ⟨hlead, hold⟩ := used_inside h hget hfull
  have herase := List.length_eraseIdx_of_lt (show oldIdx < m.workspaces.length by omega)
  have hnew : m.withinStrip newIdx < m.workspaces.length := by
    rw [withinStrip]
    omega
  obtain ⟨l₁, l₂, hl, hlen, hpos, hend⟩ := hs.split h hget hfull hnew hne hswept
  have htake : (m.workspaces.eraseIdx oldIdx).take (m.withinStrip newIdx) =
      (m.workspaces.eraseIdx oldIdx).take newIdx := by
    rw [withinStrip, ← herase]
    exact List.take_eq_take_min.symm
  have hplace : m'.workspaces[l₁.length]? = some moved := by
    rw [hl]
    exact Panic.Vec.getElem?_split l₁ l₂ moved
  refine ⟨?_, fun hnone => ?_⟩
  · rw [← htake, ← hlen]
    exact hplace
  have htotal : m'.workspaces.length = l₁.length + 1 + l₂.length := by
    rw [hl, List.length_append, List.length_cons]
    omega
  have hcount := List.countP_le_length (p := fun ws => decide (ws.id ∈ m'.ids))
    (l := ((m.workspaces.eraseIdx oldIdx).take (m.withinStrip newIdx)).drop m.lead)
  have hrest : (((m.workspaces.eraseIdx oldIdx).take (m.withinStrip newIdx)).drop
      m.lead).length = m.withinStrip newIdx - m.lead := by
    rw [List.length_drop, List.length_take]
    omega
  have hidx : m.withinStrip newIdx = min newIdx (m.workspaces.length - 1) := rfl
  have hindex : max m.lead (min newIdx (m'.workspaces.length - 2)) = l₁.length := by
    by_cases hlast : m.withinStrip newIdx + 1 = m.workspaces.length
    · -- Right above the last workspace.
      have := hend hlast
      omega
    · have hstay : (((m.workspaces.eraseIdx oldIdx).take (m.withinStrip newIdx)).drop
          m.lead).countP (fun ws => ws.id ∈ m'.ids) = m.withinStrip newIdx - m.lead := by
        rw [← hrest]
        exact List.countP_eq_length.mpr fun ws hws =>
          decide_eq_true (hs.above_stay h hget hfull (by omega) hswept hnone ws hws)
      omega
  rw [hindex]
  exact hplace

/-! ## Moving to an index -/

/-- A workspace that is where it is to be stays. -/
theorem Reordered.stays (h : m.InOrder n) (hget : m.workspaces[oldIdx]? = some moved)
    (heq : oldIdx = m.withinStrip newIdx) : m.Reordered oldIdx newIdx m := by
  obtain ⟨hold, hmoved⟩ := List.getElem?_eq_some_iff.mp hget
  have herase := List.length_eraseIdx_of_lt hold
  have hsplit : m.workspaces = m.workspaces.take oldIdx ++ moved :: m.workspaces.drop (oldIdx + 1) := by
    rw [← hmoved, List.getElem_cons_drop, List.take_append_drop]
  refine ⟨fun ws hws _ => hws, ?_, fun moved' hmoved' hfull => ?_, fun _ moved' hmoved' hfull => ?_⟩
  · have hnodup := h.nodup
    rw [ids, hsplit] at hnodup
    have hfilter := filter_others hnodup
    rw [← hsplit] at hfilter
    rw [hget, intoWorkspaces, List.filter_comm]
    show (m.workspaces.filter fun ws => ws.id != moved.id).filter _ = _
    rw [hfilter, List.eraseIdx_eq_take_drop_succ]
  · obtain ⟨hlead, hlt⟩ := used_inside h hmoved' hfull
    have hstay := List.countP_eq_length (p := fun ws : Workspace W => decide (ws.id ∈ m.ids))
      (l := ((m.workspaces.eraseIdx oldIdx).take newIdx).drop m.lead)|>.mpr fun ws hws =>
        decide_eq_true (List.mem_map_of_mem (List.mem_of_mem_eraseIdx
          (List.mem_of_mem_take (List.mem_of_mem_drop hws))))
    rw [hstay, List.length_drop, List.length_take, herase, ← hmoved']
    congr 1
    rw [withinStrip] at heq
    omega
  · obtain ⟨hlead, hlt⟩ := used_inside h hmoved' hfull
    rw [← hmoved']
    congr 1
    rw [withinStrip] at heq
    omega

theorem Reordered.missing (hmissing : m.workspaces.length ≤ oldIdx) :
    m.Reordered oldIdx newIdx m := by
  have hnone : m.workspaces[oldIdx]? = none := List.getElem?_eq_none hmissing
  refine ⟨fun ws hws _ => hws, ?_, fun moved hmoved => ?_, fun _ moved hmoved => ?_⟩
  · rw [hnone, List.eraseIdx_of_length_le hmissing, intoWorkspaces]
    simp
  · rw [hnone] at hmoved
    cases hmoved
  · rw [hnone] at hmoved
    cases hmoved

theorem moveWorkspaceToIdx_finds (m : Monitor W) (oldIdx newIdx : Nat) :
    Finds (m.moveWorkspaceToIdx oldIdx newIdx) := by
  refine finds_ite (finds_pure m) ((finds_bounds _).bind fun _ => (finds_bounds _).bind fun _ => ?_)
  have hbottom : ∀ m : Monitor W, Finds m.addWorkspaceBottom := fun m => addWorkspaceAt_finds m _
  refine ((finds_applyIf (hbottom _)).bind fun _ => ?_).bind fun _ => cleanUpWorkspaces_finds _
  exact finds_applyIf (addWorkspaceAt_finds _ 0)

/-- The strip is reordered as the caller counts on, unless the focus is lost to the
    workspace that goes to the top, or to the one that was above the active one. -/
theorem moveWorkspaceToIdx_reordered_iff (h : m.InOrder n) (oldIdx newIdx : Nat) :
    (∃ m' n', m.moveWorkspaceToIdx oldIdx newIdx n = .ok (m', n') ∧
      m.Reordered oldIdx newIdx m') ↔ ¬ m.LosesFocus oldIdx newIdx := by
  obtain ⟨m', n', hrun, -⟩ := (moveWorkspaceToIdx_safe h oldIdx newIdx).returns
    (moveWorkspaceToIdx_finds m oldIdx newIdx)
  have hactive := h.active_lt
  have hiff : m.Reordered oldIdx newIdx m' ↔ ¬ m.LosesFocus oldIdx newIdx := by
    by_cases hearly : m.workspaces.length ≤ oldIdx ∨ oldIdx = m.withinStrip newIdx
    · have hsame : m' = m := by
        rw [moveWorkspaceToIdx] at hrun
        simp only [] at hrun
        rw [if_pos hearly] at hrun
        exact (Prod.mk.inj (Except.ok.inj hrun)).1.symm
      rw [hsame]
      refine iff_of_true ?_ ?_
      · by_cases hmissing : m.workspaces.length ≤ oldIdx
        · exact Reordered.missing hmissing
        · exact Reordered.stays h (List.getElem?_eq_getElem (by omega))
            (hearly.resolve_left hmissing)
      · rintro ⟨-, rfl, hpos, hold, -⟩
        rw [withinStrip] at hearly
        omega
    · rw [not_or, Nat.not_le] at hearly
      obtain ⟨hold, hne⟩ := hearly
      have hget : m.workspaces[oldIdx]? = some m.workspaces[oldIdx] := List.getElem?_eq_getElem hold
      obtain ⟨s, hs, htrims, hswept⟩ := moveWorkspaceToIdx_rearranged h hget hne m' n' hrun
      constructor
      · intro hreordered hlose
        obtain ⟨ws, hws, hfull⟩ := hlose.2.2.2.2.2
        refine hs.active_lost h hget hlose hws ?_
        have husedBy : ws ∈ s.workspaces := by
          have hmem := List.mem_of_getElem? (hreordered.focus ws hws hfull)
          exact htrims.sublist.subset hmem
        rw [← (hswept ⟨ws, husedBy, hfull⟩).active_eq]
        exact hreordered.focus ws hws hfull
      · intro hlose
        have hmoved : m.workspaces[oldIdx].hasWindowsOrName = true → s.Swept m' := fun hfull => by
          obtain ⟨top, bottom, hws, -⟩ := hs.workspaces_eq
          exact hswept ⟨m.workspaces[oldIdx], by simp [hws], hfull⟩
        refine ⟨fun ws hws hfull => htrims.active ws (hs.active_stays h hget hne hlose hws hfull)
          hfull, ?_, fun moved hget' hfull => ?_, fun hnone moved hget' hfull => ?_⟩
        · rw [hget, htrims.used_eq]
          exact hs.order
        · obtain rfl := Option.some.inj (hget.symm.trans hget')
          exact (hs.placed h hget hfull hne (hmoved hfull)).1
        · obtain rfl := Option.some.inj (hget.symm.trans hget')
          exact (hs.placed h hget hfull hne (hmoved hfull)).2 hnone
  rw [← hiff]
  constructor
  · rintro ⟨m₁, n₁, hrun₁, hreordered⟩
    obtain ⟨rfl, -⟩ := Prod.mk.inj (Except.ok.inj (hrun.symm.trans hrun₁))
    exact hreordered
  · exact fun hreordered => ⟨m', n', hrun, hreordered⟩

/-- Two workspaces with a window each, the second of them active, under an empty one. -/
def twoUsed : List (Readings Nat × Op Nat) :=
  [(Layout.quiet, .addOutput (Layout.plainOutput 0 "A") none),
    (Layout.quiet, .addWindow 7 (.output (Layout.plainOutput 0 "A")) .yes),
    (Layout.quiet, .switchWorkspaceDown),
    (Layout.quiet, .addWindow 8 (.output (Layout.plainOutput 0 "A")) .yes)]

/-- The first of them goes below the second. -/
theorem first_goes_below : ∃ (m : Monitor Nat) (n : Nat), m.InOrder n ∧
    m.workspaces.map Workspace.windows = [[], [7], [8], []] ∧
    ∃ m' n', m.moveWorkspaceToIdx 1 2 n = .ok (m', n') ∧ m.Reordered 1 2 m' := by
  obtain ⟨l, n, hl, hq⟩ := Layout.exists_reachable ⟨true⟩ [] twoUsed
    (fun l => l.monitors.any fun m => m.workspaces.map Workspace.windows == [[], [7], [8], []])
    Layout.proper_of_check (by decide +kernel)
  obtain ⟨m, hm, hws⟩ := List.any_eq_true.mp hq
  have horder : m.InOrder n := Layout.inOrder_of_mem hl.inOrder.1 hm
  refine ⟨m, n, horder, beq_iff_eq.mp hws, (moveWorkspaceToIdx_reordered_iff horder 1 2).mpr ?_⟩
  rintro ⟨-, hzero, -⟩
  cases hzero

/-- The second of them, which is active, goes to the top: the first one is active. -/
theorem focus_lost_to_top : ∃ (m : Monitor Nat) (n : Nat), m.InOrder n ∧
    m.workspaces.map Workspace.windows = [[], [7], [8], []] ∧
    ¬ ∃ m' n', m.moveWorkspaceToIdx 2 0 n = .ok (m', n') ∧ m.Reordered 2 0 m' := by
  obtain ⟨l, n, hl, hq⟩ := Layout.exists_reachable_at ⟨true⟩ [] twoUsed
    (fun l n => l.monitors.any fun m =>
      m.workspaces.map Workspace.windows == [[], [7], [8], []] &&
        match m.moveWorkspaceToIdx 2 0 n with
        | .ok (m', _) => m.activeWorkspace.map Workspace.windows == some [8] &&
            m'.activeWorkspace.map Workspace.windows == some [7]
        | .error _ => false)
    Layout.proper_of_check (by decide +kernel)
  obtain ⟨m, hm, hcheck⟩ := List.any_eq_true.mp hq
  rw [Bool.and_eq_true, beq_iff_eq] at hcheck
  obtain ⟨hws, hlost⟩ := hcheck
  refine ⟨m, n, Layout.inOrder_of_mem hl.inOrder.1 hm, hws, ?_⟩
  rintro ⟨m', n', hrun, hreordered⟩
  rw [hrun] at hlost
  rw [Bool.and_eq_true, beq_iff_eq, beq_iff_eq] at hlost
  obtain ⟨hbefore, hafter⟩ := hlost
  obtain ⟨ws, hws₀, hwindows⟩ := Option.map_eq_some_iff.mp hbefore
  have hfull : ws.hasWindowsOrName = true := by
    simp [Workspace.hasWindowsOrName, Workspace.hasWindows, hwindows]
  rw [hreordered.focus ws hws₀ hfull, Option.map_some, hwindows] at hafter
  cases hafter

end Monitor

end Cidre.Workspaces
