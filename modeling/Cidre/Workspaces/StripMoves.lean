/-
  Cidre.Workspaces.StripMoves

  The rest of the operations on a monitor: a monitor comes up, its configuration
  changes, its workspaces are moved, and the strip is scrolled by a gesture.
-/

import Cidre.Workspaces.StripOps

namespace Cidre.Workspaces

open Cidre.Counter
open Cidre.Panic (Vec.insert Vec.remove Vec.swap)

variable {W : Type}

namespace Monitor

variable {old : List (Workspace W)} {output : Output} {n n₁ : Nat} {m : Monitor W}

/-! ## New monitors -/

theorem activateIdx_lt_or (workspaces : List (Workspace W)) (id : Option WorkspaceId) :
    activateIdx workspaces id < workspaces.length ∨ activateIdx workspaces id = 0 := by
  cases id with
  | none => exact Or.inr rfl
  | some id =>
    cases hpos : Panic.Vec.rposition workspaces fun ws => ws.id == id with
    | none => exact Or.inr (by simp [activateIdx, hpos])
    | some i => exact Or.inl (by simpa [activateIdx, hpos] using Panic.Vec.rposition_lt hpos)

/-- Workspaces in use, with empty ones around them. -/
theorem Good.of_parts {pre inner : List (Workspace W)} {last : Workspace W}
    (h : Tracked old output n m n₁) (hws : m.workspaces = pre ++ inner ++ [last])
    (hpre : ∀ ws ∈ pre, ws.Spare m.output) (hinner : ∀ ws ∈ inner, ws.hasWindowsOrName = true)
    (hlast : last.Spare m.output)
    (hparts : if m.above then pre.length = 1 ∧ inner ≠ [] ∨ pre = [] ∧ inner = [] else pre = []) :
    Good old output n m n₁ := by
  have hlen : m.workspaces.length = pre.length + inner.length + 1 := by
    rw [hws, List.length_append, List.length_append]
    rfl
  refine ⟨⟨h, ⟨last, ?_, hlast⟩, ?_, ?_⟩, ?_⟩
  · rw [hlen, hws]
    simp
  · intro habove
    rw [if_pos habove] at hparts
    rcases hparts with ⟨hone, -⟩ | ⟨rfl, rfl⟩
    · obtain ⟨ws, rfl⟩ := List.length_eq_one_iff.mp hone
      refine ⟨ws, ?_, hpre ws List.mem_cons_self⟩
      rw [hws]
      rfl
    · refine ⟨last, ?_, hlast⟩
      rw [hws]
      rfl
  · intro habove
    rw [if_pos habove] at hparts
    rw [hlen]
    rcases hparts with ⟨hone, hne⟩ | ⟨rfl, rfl⟩
    · have := List.length_pos_iff.mpr hne
      omega
    · simp
  · intro _ i ws hget _ hlt hpos
    have hge : pre.length ≤ i := by
      split at hparts
      · rename_i habove
        have := hpos habove
        rcases hparts with ⟨hone, -⟩ | ⟨rfl, -⟩
        · omega
        · exact Nat.zero_le _
      · rw [hparts]
        exact Nat.zero_le _
    rw [hws, List.append_assoc, List.getElem?_append_right hge,
      List.getElem?_append_left (by omega)] at hget
    exact hinner ws (List.mem_of_getElem? hget)

theorem new_safe (output : Output) {workspaces : List (Workspace W)} {n : Nat}
    (hfull : ∀ ws ∈ workspaces, ws.hasWindowsOrName = true)
    (hnodup : (workspaces.map Workspace.id).Nodup) (hlt : ∀ ws ∈ workspaces, ws.id < n)
    (id : Option WorkspaceId) (baseOptions : Options) (layoutConfig : Option LayoutPart) :
    Safe (new output workspaces id baseOptions layoutConfig) n
      (Good workspaces output n) := by
  refine safe_require_bind (List.all_eq_true.mpr hfull) ?_
  have hactive := activateIdx_lt_or workspaces id
  simp only []
  generalize hopt : baseOptions.withMergedLayout layoutConfig = options
  generalize hnew : workspaces.map (fun ws => ws.setOutput output) = inner
  have hids : inner.map Workspace.id = workspaces.map Workspace.id := by
    rw [← hnew, List.map_map]
    rfl
  have hlen : inner.length = workspaces.length := by
    rw [← hnew, List.length_map]
  have hinner : ∀ ws ∈ inner, ws.hasWindowsOrName = true := by
    intro ws hws
    rw [← hnew] at hws
    obtain ⟨ws', hws', rfl⟩ := List.mem_map.mp hws
    exact hfull ws' hws'
  generalize htop : (options.emptyWorkspaceAboveFirst && !inner.isEmpty) = top
  -- The workspace above those in use, if there is to be one.
  obtain ⟨pre, hpre⟩ : ∃ pre : List (Workspace W),
      pre = if top then [Workspace.new output n] else [] := ⟨_, rfl⟩
  have hadd : Safe (applyIf top (fun workspaces => do
      let id ← fresh
      return Workspace.new output id :: workspaces) inner) n fun l n' =>
      l = pre ++ inner ∧ n' = n + pre.length := by
    refine safe_applyIf (fun htrue => ?_) (fun hfalse => ?_)
    · rw [hpre, if_pos htrue]
      exact safe_fresh_bind (safe_pure ⟨rfl, rfl⟩)
    · rw [hpre, hfalse]
      exact ⟨rfl, rfl⟩
  refine hadd.bind ?_
  rintro _ _ ⟨rfl, rfl⟩
  refine safe_fresh_bind (safe_pure ?_)
  have hprelen : pre.length = if top then 1 else 0 := by
    rw [hpre]
    split <;> rfl
  have hpreids : pre.map Workspace.id = if top then [n] else [] := by
    rw [hpre]
    split <;> rfl
  have htotal : (pre ++ inner ++ [Workspace.new output (n + pre.length)]).length =
      pre.length + inner.length + 1 := by
    rw [List.length_append, List.length_append]
    rfl
  have hallids : (pre ++ inner ++ [Workspace.new output (n + pre.length)]).map Workspace.id =
      pre.map Workspace.id ++ workspaces.map Workspace.id ++ [n + pre.length] := by
    rw [List.map_append, List.map_append, hids]
    rfl
  -- Without one above, a strip that is to have one has nothing else in it.
  have hnil : top = false → options.emptyWorkspaceAboveFirst = true → inner = [] := by
    rintro rfl habove
    rw [habove, Bool.true_and] at htop
    simpa using htop
  have hlt' : ∀ id ∈ workspaces.map Workspace.id, id < n := by
    intro id hid
    obtain ⟨ws, hws, rfl⟩ := List.mem_map.mp hid
    exact hlt ws hws
  have hmem : ∀ id, id ∈ pre.map Workspace.id ++ workspaces.map Workspace.id ++ [n + pre.length] →
      id ∈ workspaces.map Workspace.id ∨ n ≤ id ∧ id < n + pre.length + 1 := by
    intro id hid
    rw [List.mem_append, List.mem_append, List.mem_singleton, hpreids, hprelen] at hid
    rw [hprelen]
    cases top with
    | true =>
      rw [if_pos rfl, List.mem_singleton] at hid
      rcases hid with (hid | hid) | hid
      · refine Or.inr ⟨Nat.le_of_eq hid.symm, ?_⟩
        rw [hid, if_pos rfl]
        exact Nat.lt_succ_of_lt (Nat.lt_succ_self n)
      · exact Or.inl hid
      · exact Or.inr ⟨by simp [hid], by simp [hid]⟩
    | false =>
      rcases hid with (hid | hid) | hid
      · cases hid
      · exact Or.inl hid
      · exact Or.inr ⟨by simp [hid], by simp [hid]⟩
  have hnodup' : (pre.map Workspace.id ++ workspaces.map Workspace.id ++ [n + pre.length]).Nodup := by
    have hnot : ∀ id, n ≤ id → id ∉ workspaces.map Workspace.id :=
      fun id hge hid => absurd (hlt' id hid) (Nat.not_lt.mpr hge)
    rw [hpreids, hprelen]
    cases top with
    | true =>
      have hnot₀ := hnot n (Nat.le_refl _)
      have hnot₁ := hnot (n + 1) (Nat.le_succ _)
      rw [if_pos rfl, if_pos rfl, List.singleton_append, List.cons_append, List.nodup_cons]
      refine ⟨?_, ?_⟩
      · simpa using hnot₀
      · exact List.perm_append_comm.nodup_iff.mp (List.nodup_cons.mpr ⟨hnot₁, hnodup⟩)
    | false =>
      exact List.perm_append_comm.nodup_iff.mp
        (List.nodup_cons.mpr ⟨hnot n (Nat.le_refl _), hnodup⟩)
  refine Good.of_parts ⟨?_, ?_, ?_, fun g hg => absurd hg (by simp), rfl, by omega, ?_⟩ rfl ?_
    hinner (new_spare output _) ?_
  · show (if top then activateIdx workspaces id + 1 else activateIdx workspaces id) <
      (pre ++ inner ++ [Workspace.new output (n + pre.length)]).length
    rw [htotal, hprelen]
    split <;> omega
  · rw [ids, hallids]
    exact hnodup'
  · intro id hid
    rw [ids, hallids] at hid
    rcases hmem id hid with hid | hid
    · have := hlt' id hid
      exact Nat.lt_of_lt_of_le this (by omega)
    · exact hid.2
  · intro ws hws
    rcases List.mem_append.mp hws with hws | hws
    · rcases List.mem_append.mp hws with hws | hws
      · rw [hpre] at hws
        split at hws
        · rw [List.mem_singleton.mp hws]
          exact Or.inr ⟨Nat.le_refl _, rfl, rfl⟩
        · cases hws
      · rw [← hnew] at hws
        obtain ⟨ws', hws', rfl⟩ := List.mem_map.mp hws
        exact Or.inl ⟨ws', hws', ws'.setOutput_follows output⟩
    · rw [List.mem_singleton.mp hws]
      exact Or.inr ⟨Nat.le_add_right _ _, rfl, rfl⟩
  · intro ws hws
    rw [hpre] at hws
    split at hws
    · rw [List.mem_singleton.mp hws]
      exact new_spare output n
    · cases hws
  · show if options.emptyWorkspaceAboveFirst then pre.length = 1 ∧ inner ≠ [] ∨ pre = [] ∧ inner = []
      else pre = []
    cases top with
    | true =>
      rw [Bool.and_eq_true] at htop
      rw [if_pos htop.1]
      exact Or.inl ⟨hprelen, by simpa using htop.2⟩
    | false =>
      have hpre' : pre = [] := hpre
      split
      · rename_i habove
        exact Or.inr ⟨hpre', hnil rfl habove⟩
      · exact hpre'

/-! ## Configuration -/

theorem Tracked.withOptions (h : Tracked old output n m n₁) (baseOptions options : Options) :
    Tracked old output n { m with baseOptions := baseOptions, options := options } n₁ :=
  ⟨h.active_lt, h.nodup, h.ids_lt, h.center_lt, h.output_eq, h.le, h.stems⟩

/-- A strip of one workspace is in order whatever the options are. -/
theorem Good.of_length_one (h : Tracked old output n m n₁) (hlast : m.LastSpare)
    (hone : m.workspaces.length = 1) : Good old output n m n₁ := by
  refine ⟨⟨h, hlast, fun _ => ?_, fun _ => by omega⟩, fun _ i ws _ _ hlt _ => by omega⟩
  obtain ⟨ws, hget, hspare⟩ := hlast
  rw [hone] at hget
  exact ⟨ws, hget, hspare⟩

/-- An empty workspace is put above a strip that had none there. -/
theorem Good.topped {m' : Monitor W} {n₂ : Nat} (h : Good old output n m n₁)
    (habove : m.above = false) (hlen : 1 < m.workspaces.length)
    (h' : Tracked old output n m' n₂) (htop : Topped m true m') (baseOptions : Options)
    {options : Options} (hoptions : options.emptyWorkspaceAboveFirst = true) :
    Good old output n { m' with baseOptions := baseOptions, options := options } n₂ := by
  have hlen' := htop.length_eq
  rw [if_pos rfl] at hlen'
  refine ⟨⟨h'.withOptions baseOptions options, htop.lastSpare (by omega) h.last,
    fun _ => htop.firstSpare fun hfalse => absurd hfalse (by simp), fun _ => ?_⟩, ?_⟩
  · show m'.workspaces.length ≠ 2
    omega
  · intro hnone i ws hget hne hlt hpos
    obtain ⟨pre, hws, hpre, -⟩ := htop.workspaces_eq
    replace hget : m'.workspaces[i]? = some ws := hget
    replace hne : i ≠ m'.activeWorkspaceIdx := hne
    replace hlt : i + 1 < m'.workspaces.length := hlt
    rw [if_pos rfl] at hpre
    rw [htop.active_eq, if_pos rfl] at hne
    have hi : 0 < i := hpos hoptions
    rw [hws, List.getElem?_append_right (by omega), hpre] at hget
    refine h.tidy (htop.switch_none.mp hnone) (i - 1) ws hget (by omega) (by omega) ?_
    rw [habove]
    exact fun hfalse => absurd hfalse (by simp)

/-- The empty workspace above is dropped, unless it is active or a switch is in
    progress. -/
theorem Good.untopped (h : Good old output n m n₁) (hlen : 1 < m.workspaces.length)
    (baseOptions : Options) {options : Options}
    (hoptions : options.emptyWorkspaceAboveFirst = false) :
    Good old output n { m with
      workspaces := if (m.workspaceSwitch.isNone && m.activeWorkspaceIdx != 0) = true
        then m.workspaces.eraseIdx 0 else m.workspaces
      activeWorkspaceIdx := if (m.workspaceSwitch.isNone && m.activeWorkspaceIdx != 0) = true
        then m.activeWorkspaceIdx - 1 else m.activeWorkspaceIdx
      baseOptions := baseOptions
      options := options } n₁ := by
  have hactive := h.active_lt
  by_cases hdrop : (m.workspaceSwitch.isNone && m.activeWorkspaceIdx != 0) = true
  · rw [if_pos hdrop, if_pos hdrop]
    rw [Bool.and_eq_true, Option.isNone_iff_eq_none, bne_iff_ne] at hdrop
    obtain ⟨hnone, hzero⟩ := hdrop
    have herase := (h.toTracked.erase (show 0 < m.workspaces.length by omega)
      (show m.activeWorkspaceIdx - 1 + 1 < m.workspaces.length by omega) hnone)
    refine ⟨⟨herase.withOptions baseOptions options, lastOf_eraseIdx h.last (by omega), ?_, ?_⟩, ?_⟩
    · intro htrue
      rw [above, hoptions] at htrue
      cases htrue
    · intro htrue
      rw [above, hoptions] at htrue
      cases htrue
    · intro _ i ws hget hne hlt _
      replace hget : (m.workspaces.eraseIdx 0)[i]? = some ws := hget
      replace hne : i ≠ m.activeWorkspaceIdx - 1 := hne
      replace hlt : i + 1 < (m.workspaces.eraseIdx 0).length := hlt
      rw [List.length_eraseIdx_of_lt (by omega)] at hlt
      rw [List.getElem?_eraseIdx, if_neg (by omega)] at hget
      exact h.tidy hnone (i + 1) ws hget (by omega) (by omega) fun _ => Nat.succ_pos i
  · rw [if_neg hdrop, if_neg hdrop]
    refine ⟨⟨h.toTracked.withOptions baseOptions options, h.last, ?_, ?_⟩, ?_⟩
    · intro htrue
      rw [above, hoptions] at htrue
      cases htrue
    · intro htrue
      rw [above, hoptions] at htrue
      cases htrue
    · intro hnone i ws hget hne hlt _
      replace hnone : m.workspaceSwitch = none := hnone
      have hzero : m.activeWorkspaceIdx = 0 := by
        rw [hnone] at hdrop
        simpa using hdrop
      replace hne : i ≠ m.activeWorkspaceIdx := hne
      exact h.tidy hnone i ws hget hne hlt fun _ => by omega

theorem updateConfig_safe (h : Good old output n m n₁) (baseOptions : Options) :
    Safe (m.updateConfig baseOptions) n₁ (Good old output n) := by
  have hactive := h.active_lt
  simp only [updateConfig]
  generalize baseOptions.withMergedLayout m.layoutConfig = options
  by_cases htoggled : (m.above != options.emptyWorkspaceAboveFirst &&
      decide (1 < m.workspaces.length)) = true
  · rw [htoggled]
    rw [Bool.and_eq_true, decide_eq_true_eq, bne_iff_ne] at htoggled
    obtain ⟨hne, hlen⟩ := htoggled
    cases hoptions : options.emptyWorkspaceAboveFirst with
    | true =>
      have habove : m.above = false := by
        rw [hoptions] at hne
        simpa using hne
      refine (addTop_safe h.toTracked true).bind ?_
      rintro m₁ n₂ ⟨h₁, htop⟩
      exact safe_pure (h.topped habove hlen h₁ htop baseOptions hoptions)
    | false => exact safe_pure (h.untopped hlen baseOptions hoptions)
  · rw [Bool.eq_false_iff.mpr htoggled]
    refine safe_pure ?_
    show Good old output n { m with baseOptions := baseOptions, options := options } n₁
    by_cases hlen : m.workspaces.length = 1
    · exact Good.of_length_one (h.toTracked.withOptions baseOptions options) h.last hlen
    · have habove : m.above = options.emptyWorkspaceAboveFirst := by
        rw [Bool.and_eq_true, decide_eq_true_eq, bne_iff_ne] at htoggled
        by_contra hne
        exact htoggled ⟨hne, by omega⟩
      refine ⟨⟨h.toTracked.withOptions baseOptions options, h.last, ?_, ?_⟩, ?_⟩
      · intro htrue
        exact h.first (habove.trans htrue)
      · intro htrue
        exact h.two (habove.trans htrue)
      · intro hnone i ws hget hine hlt hpos
        exact h.tidy hnone i ws hget hine hlt fun htrue => hpos (habove.symm.trans htrue)

theorem updateLayoutConfig_safe (h : Good old output n m n₁) (layoutConfig : Option LayoutPart) :
    Safe (m.updateLayoutConfig layoutConfig) n₁ (Good old output n) := by
  rw [updateLayoutConfig]
  refine safe_early h fun _ => ?_
  have h' : Good old output n { m with layoutConfig := layoutConfig } n₁ :=
    ⟨⟨⟨h.active_lt, h.nodup, h.ids_lt, h.center_lt, h.output_eq, h.le, h.stems⟩, h.last,
      h.first, h.two⟩, h.tidy⟩
  exact updateConfig_safe h' m.baseOptions

/-! ## Moving workspaces -/

theorem settleAt_safe (h : Tracked old output n m n₁) {idx : Nat}
    (hidx : idx < m.workspaces.length) (hlast : m.LastSpare)
    (hfirst : m.above = true → m.FirstSpare) :
    Safe (m.settleAt idx) n₁ (Good old output n) := by
  refine (activateWorkspace_returns h idx).bind ?_
  rintro _ _ ⟨rfl, previous, rfl⟩
  exact stop_safe h hidx m.previousWorkspaceId hlast hfirst

/-- The workspaces between `lo` and `hi` are rearranged, and the strip is
    surrounded. -/
theorem rearrange_safe (h : Good old output n m n₁) {workspaces : List (Workspace W)} {lo hi : Nat}
    (hperm : workspaces.Perm m.workspaces) (hhi : hi ≠ m.workspaces.length - 1 →
      LastOf m.output workspaces) (hlo : m.above = true → lo ≠ 0 → FirstOf m.output workspaces) :
    Safe ({ m with workspaces := workspaces }.surround hi lo) n₁ fun m' n₂ =>
      Tracked old output n m' n₂ ∧ m'.LastSpare ∧ (m'.above = true → m'.FirstSpare) ∧
        ∀ idx < m.workspaces.length, m.surroundedIdx lo idx < m'.workspaces.length := by
  have hactive := h.active_lt
  have hlen := hperm.length_eq
  have h₁ := h.toTracked.withWorkspaces (show m.activeWorkspaceIdx < workspaces.length by omega)
    (by omega) (show workspaces.Perm ([] ++ m.workspaces) from hperm) List.nodup_nil (by simp)
  refine (surround_safe h₁ hi lo).mono ?_
  rintro m' n₂ ⟨htracked, hs⟩
  have hpos : 0 < workspaces.length := by omega
  refine ⟨htracked, hs.lastSpare hpos fun hne => hhi (hlen ▸ hne), hs.firstSpare hpos hlo, ?_⟩
  intro idx hidx
  have hlen' : m'.workspaces.length = (if m.above && lo == 0 then 1 else 0) + workspaces.length +
      (if hi == workspaces.length - 1 then 1 else 0) := hs.length_eq
  rw [surroundedIdx, hlen']
  split <;> omega

theorem lastOf_swap {workspaces : List (Workspace W)} (h : LastOf output workspaces) {i j : Nat}
    (hi : i ≠ workspaces.length - 1) (hj : j ≠ workspaces.length - 1) (a b : Workspace W) :
    LastOf output ((workspaces.set i b).set j a) :=
  lastOf_set (lastOf_set h hi b) (by rwa [List.length_set]) a

/-- The active workspace changes places with the one at `newIdx`. -/
theorem swap_safe (h : Good old output n m n₁) {newIdx lo hi : Nat}
    (hnew : newIdx < m.workspaces.length) (hlo : lo = min m.activeWorkspaceIdx newIdx)
    (hhi : hi = max m.activeWorkspaceIdx newIdx) :
    Safe (do
      let workspaces ← bounds (Vec.swap m.workspaces m.activeWorkspaceIdx newIdx)
      let landed := m.surroundedIdx lo newIdx
      let m ← { m with workspaces := workspaces }.surround hi lo
      m.settleAt landed) n₁ (Good old output n) := by
  have hactive := h.active_lt
  have ha : m.workspaces[m.activeWorkspaceIdx]? = some m.workspaces[m.activeWorkspaceIdx] :=
    List.getElem?_eq_getElem hactive
  have hb : m.workspaces[newIdx]? = some m.workspaces[newIdx] := List.getElem?_eq_getElem hnew
  have hswap : Vec.swap m.workspaces m.activeWorkspaceIdx newIdx =
      some ((m.workspaces.set m.activeWorkspaceIdx m.workspaces[newIdx]).set newIdx
        m.workspaces[m.activeWorkspaceIdx]) := by
    simp [Vec.swap, ha, hb]
  refine safe_bounds_bind hswap ?_
  refine (rearrange_safe h (List.set_set_perm hactive hnew) ?_ ?_).bind ?_
  · intro hne
    exact lastOf_swap h.last (by omega) (by omega) _ _
  · intro habove hne
    exact firstOf_set (firstOf_set (h.first habove) (by omega) _) (by omega) _
  · rintro m₁ n₂ ⟨h₁, hlast, hfirst, hlanded⟩
    exact settleAt_safe h₁ (hlanded newIdx hnew) hlast hfirst

theorem moveWorkspaceDown_safe (h : Good old output n m n₁) :
    Safe m.moveWorkspaceDown n₁ (Good old output n) := by
  have hactive := h.active_lt
  rw [moveWorkspaceDown]
  exact safe_early h fun _ => swap_safe h (by omega) (by omega) (by omega)

theorem moveWorkspaceUp_safe (h : Good old output n m n₁) :
    Safe m.moveWorkspaceUp n₁ (Good old output n) := by
  have hactive := h.active_lt
  rw [moveWorkspaceUp]
  exact safe_early h fun _ => swap_safe h (by omega) (by omega) (by omega)

theorem activeAfterMove_lt {active oldIdx newIdx len : Nat} (hactive : active < len)
    (hnew : newIdx < len) (hold : oldIdx < len) : activeAfterMove active oldIdx newIdx < len := by
  rw [activeAfterMove]
  split
  · exact hnew
  · split
    · omega
    · split <;> omega

theorem moveWorkspaceToIdx_safe (h : Good old output n m n₁) (oldIdx newIdx : Nat) :
    Safe (m.moveWorkspaceToIdx oldIdx newIdx) n₁ (Good old output n) := by
  have hactive := h.active_lt
  rw [moveWorkspaceToIdx]
  simp only []
  generalize hi : min newIdx (m.workspaces.length - 1) = idx
  refine safe_early h fun hcond => ?_
  rw [not_or, Nat.not_le] at hcond
  obtain ⟨hold, hne⟩ := hcond
  have hget : m.workspaces[oldIdx]? = some m.workspaces[oldIdx] := List.getElem?_eq_getElem hold
  have herase := List.length_eraseIdx_of_lt hold
  refine safe_bounds_bind (a := (m.workspaces[oldIdx], m.workspaces.eraseIdx oldIdx)) ?_ ?_
  · rw [Vec.remove, hget]
    rfl
  refine safe_bounds_bind
    (a := (m.workspaces.eraseIdx oldIdx).insertIdx idx m.workspaces[oldIdx]) ?_ ?_
  · have hidx : idx ≤ (m.workspaces.eraseIdx oldIdx).length := by omega
    exact if_pos hidx
  have hperm : ((m.workspaces.eraseIdx oldIdx).insertIdx idx m.workspaces[oldIdx]).Perm
      m.workspaces :=
    (List.perm_insertIdx _ _ (by omega)).trans (List.getElem_cons_eraseIdx_perm hold)
  refine (rearrange_safe h hperm ?_ ?_).bind ?_
  · intro hlast
    exact lastOf_insertIdx (lastOf_eraseIdx h.last (by omega)) (by omega) _
  · intro habove hfirst
    exact firstOf_insertIdx (firstOf_eraseIdx (h.first habove) (by omega)) (by omega) _
  · rintro m₁ n₂ ⟨h₁, hlast, hfirst, hlanded⟩
    have hold₁ : oldIdx < m₁.workspaces.length := by
      have hlt := hlanded oldIdx hold
      rw [surroundedIdx] at hlt
      split at hlt <;> omega
    exact stop_safe h₁ (activeAfterMove_lt h₁.active_lt (hlanded idx (by omega)) hold₁)
      m₁.previousWorkspaceId hlast hfirst

/-! ## Gestures -/

theorem Good.withSwitch (h : Good old output n m n₁) {switch : WorkspaceSwitch}
    (hcenter : ∀ g, switch = .gesture g → g.centerIdx < m.workspaces.length) :
    Good old output n { m with workspaceSwitch := some switch } n₁ := by
  refine ⟨⟨⟨h.active_lt, h.nodup, h.ids_lt, ?_, h.output_eq, h.le, h.stems⟩, h.last, h.first,
    h.two⟩, fun hnone => absurd hnone (by simp)⟩
  intro g hg
  exact hcenter g (Option.some.inj hg)

theorem Good.gestureFrom (c : Contents W) (h : Good old output n m n₁)
    (isTouchpad isClamped dnd : Bool) :
    Good old output n (m.gestureFrom c isTouchpad isClamped dnd) n₁ := by
  refine h.withSwitch fun g hg => ?_
  obtain rfl := WorkspaceSwitch.gesture.inj hg
  exact h.active_lt

theorem Good.dndScrollGestureBegin (c : Contents W) (h : Good old output n m n₁) :
    Good old output n (m.dndScrollGestureBegin c) n₁ := by
  rw [Monitor.dndScrollGestureBegin]
  split
  · exact h
  · exact h.gestureFrom c _ _ _

/-- The position of a gesture is kept on the strip. -/
theorem clamp_safe {g : WorkspaceSwitchGesture} {count : Nat} (hcenter : g.centerIdx < count)
    (x : Rat) (n : Nat) :
    Safe (clamp x (g.minMax count)) n fun y n' =>
      n' = n ∧ y ≤ ((count - 1 : Nat) : Rat) := by
  have hminMax : (g.minMax count).1 ≤ (g.minMax count).2 ∧ (g.minMax count).2 ≤ count - 1 := by
    rw [WorkspaceSwitchGesture.minMax]
    split <;> simp only <;> omega
  rw [clamp, if_pos hminMax.1]
  refine ⟨rfl, ?_⟩
  have hle : (((g.minMax count).2 : Nat) : Rat) ≤ ((count - 1 : Nat) : Rat) :=
    Nat.cast_le.mpr hminMax.2
  have hle' : (((g.minMax count).1 : Nat) : Rat) ≤ (((g.minMax count).2 : Nat) : Rat) :=
    Nat.cast_le.mpr hminMax.1
  exact max_le (hle'.trans hle) ((min_le_right _ _).trans hle)

theorem roundIdx_lt {x : Rat} {count : Nat} (hpos : 0 < count)
    (hx : x ≤ ((count - 1 : Nat) : Rat)) : roundIdx x < count := by
  have hfloor : (x + 1 / 2).floor < (count : Int) := by
    rw [Rat.floor_lt_iff]
    have hcast : ((count - 1 : Nat) : Rat) = (count : Rat) - 1 := by
      rw [Nat.cast_sub hpos, Nat.cast_one]
    rw [hcast] at hx
    push_cast
    linarith
  rw [roundIdx]
  omega

theorem workspaceSwitchGestureUpdate_safe (c : Contents W) (h : Good old output n m n₁)
    (isTouchpad : Bool) (excess : Rat) :
    Safe (m.workspaceSwitchGestureUpdate c isTouchpad excess) n₁
      fun p n₂ => Good old output n p.1 n₂ := by
  rw [workspaceSwitchGestureUpdate]
  split
  · next g hg =>
    have hcenter := h.center_lt g hg
    refine safe_early h fun _ => ?_
    refine (clamp_safe hcenter _ n₁).bind ?_
    rintro x _ ⟨rfl, -⟩
    refine safe_early h fun _ => safe_pure (h.withSwitch fun g' hg' => ?_)
    obtain rfl := WorkspaceSwitch.gesture.inj hg'
    exact hcenter
  · exact safe_pure h

theorem dndGesture_eq_some {g : WorkspaceSwitchGesture} (h : m.dndGesture = some g) :
    m.workspaceSwitch = some (.gesture g) := by
  rw [dndGesture] at h
  split at h
  · next g' hg' =>
    split at h
    · rw [hg', Option.some.inj h]
    · cases h
  · cases h

theorem dndScrollGestureScroll_safe (c : Contents W) (h : Good old output n m n₁) :
    Safe (m.dndScrollGestureScroll c) n₁ (Good old output n) := by
  rw [dndScrollGestureScroll]
  split
  · next g hg =>
    have hcenter := h.center_lt g (dndGesture_eq_some hg)
    refine safe_ite (fun _ => ?_) (fun _ => safe_pure h)
    refine (clamp_safe hcenter _ n₁).bind ?_
    rintro x _ ⟨rfl, -⟩
    refine safe_pure (h.withSwitch fun g' hg' => ?_)
    obtain rfl := WorkspaceSwitch.gesture.inj hg'
    exact hcenter
  · exact safe_pure h

theorem workspaceSwitchGestureEnd_safe (c : Contents W) (h : Good old output n m n₁)
    (isTouchpad : Option Bool) :
    Safe (m.workspaceSwitchGestureEnd c isTouchpad) n₁
      fun p n₂ => Good old output n p.1 n₂ := by
  have hactive := h.active_lt
  rw [workspaceSwitchGestureEnd]
  split
  · next g hg =>
    refine safe_early h fun _ => ?_
    refine (clamp_safe (h.center_lt g hg) _ n₁).bind ?_
    rintro x _ ⟨rfl, hx⟩
    have hidx := roundIdx_lt (by omega) hx
    refine (rememberActive_safe h.toTracked (roundIdx x)).bind ?_
    rintro _ _ ⟨rfl, previous, rfl⟩
    exact safe_pure ⟨⟨⟨hidx, h.nodup, h.ids_lt, fun g' hg' => absurd hg' (by simp), h.output_eq,
      h.le, h.stems⟩, h.last, h.first, h.two⟩, fun hnone => absurd hnone (by simp)⟩
  · exact safe_pure h

theorem dndScrollGestureEnd_safe (c : Contents W) (h : Good old output n m n₁) :
    Safe (m.dndScrollGestureEnd c) n₁ (Good old output n) := by
  rw [dndScrollGestureEnd]
  refine safe_ite (fun _ => ?_) (fun _ => safe_pure h)
  exact (workspaceSwitchGestureEnd_safe c h none).bind fun p n₂ hp => safe_pure hp

end Monitor

end Cidre.Workspaces
