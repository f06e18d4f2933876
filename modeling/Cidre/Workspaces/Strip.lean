/-
  Cidre.Workspaces.Strip

  What every operation keeps of the strip of one monitor.

  `Tracked` is the part that also holds in the middle of an operation: the active
  index is one of the strip, and the identities of the workspaces are distinct
  and either old or newly drawn from the counter.  `Good` adds the empty
  workspaces at the ends (`Closed`) and, unless a switch is in progress, that
  there are no others.

  An operation that ends in `clean_up_workspaces` has to provide no more than the
  ends; the others are taken through `surround`.
-/

import Cidre.Workspaces.Monitor

namespace Cidre.Workspaces

open Cidre.Counter
open Cidre.Panic (Vec.insert Vec.remove Vec.swap)

variable {W : Type}

/-! ## The invariant -/

/-- `ws'` is what has become of `ws` on the monitor of `output`: it may have lost
    its name, and may have become this monitor's own. -/
structure Workspace.Follows (output : Output) (ws ws' : Workspace W) : Prop where
  id_eq : ws'.id = ws.id
  name_eq : ws'.name = none ∨ ws'.name = ws.name
  output_eq : ws'.originalOutput = OutputId.new output ∨ ws'.originalOutput = ws.originalOutput

/-- `ws` is one of `old`, or was made on the monitor of `output` since the counter
    was `n`. -/
def Workspace.Stems (old : List (Workspace W)) (output : Output) (n : Nat)
    (ws : Workspace W) : Prop :=
  (∃ ws₀ ∈ old, ws₀.Follows output ws) ∨
    (n ≤ ws.id ∧ ws.name = none ∧ ws.originalOutput = OutputId.new output)

/-- An empty, unnamed workspace of the monitor's own. -/
structure Workspace.Spare (output : Output) (ws : Workspace W) : Prop where
  windows_eq : ws.windows = []
  name_eq : ws.name = none
  output_eq : ws.originalOutput = OutputId.new output

namespace Workspace

variable {output : Output} {ws ws' ws'' : Workspace W}

theorem Follows.refl (ws : Workspace W) : ws.Follows output ws := ⟨rfl, Or.inr rfl, Or.inr rfl⟩

theorem Follows.trans (h : ws.Follows output ws') (h' : ws'.Follows output ws'') :
    ws.Follows output ws'' := by
  refine ⟨h'.id_eq.trans h.id_eq, ?_, ?_⟩
  · rcases h'.name_eq with hnone | hsame
    · exact Or.inl hnone
    · rw [hsame]
      exact h.name_eq
  · rcases h'.output_eq with hown | hsame
    · exact Or.inl hown
    · rw [hsame]
      exact h.output_eq

theorem Stems.follows {old : List (Workspace W)} {n : Nat} (h : ws.Stems old output n)
    (h' : ws.Follows output ws') : ws'.Stems old output n := by
  rcases h with ⟨ws₀, hmem, hfollows⟩ | ⟨hle, hname, hown⟩
  · exact Or.inl ⟨ws₀, hmem, hfollows.trans h'⟩
  · refine Or.inr ⟨h'.id_eq ▸ hle, ?_, ?_⟩
    · exact h'.name_eq.elim (fun h => h) fun hsame => hsame.trans hname
    · exact h'.output_eq.elim (fun h => h) fun hsame => hsame.trans hown

theorem receive_follows (ws : Workspace W) (windows : List W) (output : Output) :
    ws.Follows output (ws.receive windows output) := by
  refine ⟨rfl, Or.inr rfl, ?_⟩
  cases hname : ws.name.isNone with
  | true => exact Or.inl (if_pos hname)
  | false => exact Or.inr (if_neg (by simp [hname]))

theorem setOutput_follows (ws : Workspace W) (output : Output) :
    ws.Follows output (ws.setOutput output) := by
  refine ⟨rfl, Or.inr rfl, ?_⟩
  cases hown : ws.originalOutput.isOf output with
  | true => exact Or.inl (if_pos hown)
  | false => exact Or.inr (if_neg (by simp [hown]))

theorem unname_follows (ws : Workspace W) : ws.Follows output ws.unname :=
  ⟨rfl, Or.inl rfl, Or.inr rfl⟩

end Workspace

namespace Monitor

def ids (m : Monitor W) : List WorkspaceId := m.workspaces.map Workspace.id

/-- `m`, at the counter `n'`, is what has become of a monitor of `output` with the
    workspaces `old` since the counter was `n`. -/
structure Tracked (old : List (Workspace W)) (output : Output) (n : Nat) (m : Monitor W)
    (n' : Nat) : Prop where
  active_lt : m.activeWorkspaceIdx < m.workspaces.length
  nodup : m.ids.Nodup
  ids_lt : ∀ id ∈ m.ids, id < n'
  center_lt : ∀ g, m.workspaceSwitch = some (.gesture g) → g.centerIdx < m.workspaces.length
  output_eq : m.output = output
  le : n ≤ n'
  stems : ∀ ws ∈ m.workspaces, ws.Stems old output n

def LastOf (output : Output) (workspaces : List (Workspace W)) : Prop :=
  ∃ ws, workspaces[workspaces.length - 1]? = some ws ∧ ws.Spare output

def FirstOf (output : Output) (workspaces : List (Workspace W)) : Prop :=
  ∃ ws, workspaces[0]? = some ws ∧ ws.Spare output

abbrev LastSpare (m : Monitor W) : Prop := LastOf m.output m.workspaces

abbrev FirstSpare (m : Monitor W) : Prop := FirstOf m.output m.workspaces

/-- Every workspace but the active one and the ends is in use. -/
def Tidy (m : Monitor W) : Prop :=
  ∀ i ws, m.workspaces[i]? = some ws → i ≠ m.activeWorkspaceIdx → i + 1 < m.workspaces.length →
    (m.above = true → 0 < i) → ws.hasWindowsOrName = true

/-- The ends of the strip are in order. -/
structure Closed (old : List (Workspace W)) (output : Output) (n : Nat) (m : Monitor W)
    (n' : Nat) : Prop extends Tracked old output n m n' where
  last : m.LastSpare
  first : m.above = true → m.FirstSpare
  two : m.above = true → m.workspaces.length ≠ 2

structure Good (old : List (Workspace W)) (output : Output) (n : Nat) (m : Monitor W)
    (n' : Nat) : Prop extends Closed old output n m n' where
  tidy : m.workspaceSwitch = none → m.Tidy

variable {old : List (Workspace W)} {output : Output} {n n₁ n₂ : Nat} {m m' : Monitor W}

theorem Tracked.old_or_new (h : Tracked old output n m n₁) :
    ∀ id ∈ m.ids, id ∈ old.map Workspace.id ∨ n ≤ id := by
  intro id hid
  obtain ⟨ws, hws, rfl⟩ := List.mem_map.mp hid
  rcases h.stems ws hws with ⟨ws₀, hmem, hfollows⟩ | ⟨hle, -⟩
  · exact Or.inl (List.mem_map.mpr ⟨ws₀, hmem, hfollows.id_eq.symm⟩)
  · exact Or.inr hle

theorem spare_not_full {ws : Workspace W}
    (h : ws.Spare output) : ws.hasWindowsOrName = false := by
  simp [Workspace.hasWindowsOrName, Workspace.hasWindows, h.windows_eq, h.name_eq]

/-! ## Adding empty workspaces -/

theorem new_spare (output : Output) (id : WorkspaceId) :
    (Workspace.new output id : Workspace W).Spare output := ⟨rfl, rfl, rfl⟩

/-- `m'` is `m` with a new workspace at `idx`. -/
structure Inserted (m : Monitor W) (idx : Nat) (id : WorkspaceId) (m' : Monitor W) : Prop where
  workspaces_eq : m'.workspaces = m.workspaces.insertIdx idx (Workspace.new m.output id)
  active_eq : m'.activeWorkspaceIdx =
    if idx ≤ m.activeWorkspaceIdx then m.activeWorkspaceIdx + 1 else m.activeWorkspaceIdx
  output_eq : m'.output = m.output
  options_eq : m'.options = m.options
  switch_none : m'.workspaceSwitch = none ↔ m.workspaceSwitch = none

theorem addWorkspaceAt_safe (h : Tracked old output n m n₁) {idx : Nat}
    (hidx : idx ≤ m.workspaces.length) :
    Safe (m.addWorkspaceAt idx) n₁ fun m' n₂ =>
      Tracked old output n m' n₂ ∧ Inserted m idx n₁ m' := by
  have hins : Vec.insert m.workspaces idx (Workspace.new m.output n₁) =
      some (m.workspaces.insertIdx idx (Workspace.new m.output n₁)) := by
    rw [Vec.insert, if_pos hidx]
  refine safe_fresh_bind (safe_bounds_bind hins ?_)
  have hlen := List.length_insertIdx_of_le_length hidx (Workspace.new m.output n₁)
  have hids : (m.workspaces.insertIdx idx (Workspace.new m.output n₁)).map Workspace.id =
      m.ids.insertIdx idx n₁ := by
    rw [List.map_insertIdx]
    rfl
  have hperm : (m.ids.insertIdx idx n₁).Perm (n₁ :: m.ids) :=
    List.perm_insertIdx n₁ m.ids (by simpa [ids] using hidx)
  have hnot : n₁ ∉ m.ids := fun hmem => Nat.lt_irrefl _ (h.ids_lt n₁ hmem)
  have hactive := h.active_lt
  refine safe_pure ⟨⟨?_, ?_, ?_, ?_, h.output_eq, Nat.le_succ_of_le h.le, ?_⟩,
    ⟨rfl, rfl, rfl, rfl, Option.map_eq_none_iff⟩⟩
  · show (if idx ≤ m.activeWorkspaceIdx then m.activeWorkspaceIdx + 1
      else m.activeWorkspaceIdx) < (m.workspaces.insertIdx idx (Workspace.new m.output n₁)).length
    split <;> omega
  · rw [ids, hids, hperm.nodup_iff]
    exact List.nodup_cons.mpr ⟨hnot, h.nodup⟩
  · intro i hi
    rw [ids, hids, hperm.mem_iff, List.mem_cons] at hi
    rcases hi with rfl | hi
    · exact Nat.lt_succ_self _
    · exact Nat.lt_succ_of_lt (h.ids_lt i hi)
  · intro g hg
    obtain ⟨switch, hswitch, hg⟩ := Option.map_eq_some_iff.mp hg
    show g.centerIdx < List.length _
    rw [hlen]
    cases switch with
    | animation target =>
      split at hg <;> simp [WorkspaceSwitch.offset] at hg
    | gesture g' =>
      have hcenter := h.center_lt g' hswitch
      split at hg
      · obtain rfl : _ = g := by simpa [WorkspaceSwitch.offset] using hg
        simp only
        omega
      · obtain rfl : g' = g := by simpa using hg
        omega
  · intro ws hws
    rcases (List.mem_insertIdx hidx).mp hws with rfl | hws
    · exact Or.inr ⟨h.le, rfl, congrArg OutputId.new h.output_eq⟩
    · exact h.stems ws hws

/-- `m'` is `m` with the workspaces `pre` above it. -/
structure Topped (m : Monitor W) (top : Bool) (m' : Monitor W) : Prop where
  workspaces_eq : ∃ pre, m'.workspaces = pre ++ m.workspaces ∧
    pre.length = (if top then 1 else 0) ∧ ∀ ws ∈ pre, ws.Spare m.output
  active_eq : m'.activeWorkspaceIdx =
    if top then m.activeWorkspaceIdx + 1 else m.activeWorkspaceIdx
  output_eq : m'.output = m.output
  options_eq : m'.options = m.options
  switch_none : m'.workspaceSwitch = none ↔ m.workspaceSwitch = none

theorem addTop_safe (h : Tracked old output n m n₁) (top : Bool) :
    Safe (applyIf top addWorkspaceTop m) n₁ fun m' n₂ =>
      Tracked old output n m' n₂ ∧ Topped m top m' := by
  refine safe_applyIf (fun htop => ?_) (fun htop => ?_)
  · refine (addWorkspaceAt_safe h (Nat.zero_le _)).mono ?_
    rintro m' n₂ ⟨htracked, hins⟩
    refine ⟨htracked, ⟨[Workspace.new m.output n₁], ?_, ?_, ?_⟩, ?_, hins.output_eq,
      hins.options_eq, hins.switch_none⟩
    · rw [hins.workspaces_eq]
      rfl
    · rw [htop]
      rfl
    · intro ws hws
      rw [List.mem_singleton.mp hws]
      exact new_spare m.output n₁
    · rw [hins.active_eq, if_pos (Nat.zero_le _), if_pos htop]
  · refine ⟨h, ⟨[], rfl, ?_, ?_⟩, ?_, rfl, rfl, Iff.rfl⟩
    · rw [htop]
      rfl
    · simp
    · rw [htop]
      rfl

theorem Topped.above_eq {top : Bool} (ht : Topped m top m') : m'.above = m.above := by
  rw [above, ht.options_eq]

theorem Topped.length_eq {top : Bool} (ht : Topped m top m') :
    m'.workspaces.length = (if top then 1 else 0) + m.workspaces.length := by
  obtain ⟨pre, hws, hpre, -⟩ := ht.workspaces_eq
  rw [hws, List.length_append, hpre]

theorem Topped.lastSpare {top : Bool} (ht : Topped m top m') (hpos : 0 < m.workspaces.length)
    (h : m.LastSpare) : m'.LastSpare := by
  obtain ⟨pre, hws, -, -⟩ := ht.workspaces_eq
  obtain ⟨ws, hget, hspare⟩ := h
  rw [LastSpare, LastOf, ht.output_eq]
  refine ⟨ws, ?_, hspare⟩
  rw [hws, List.length_append, List.getElem?_append_right (by omega),
    show pre.length + m.workspaces.length - 1 - pre.length = m.workspaces.length - 1 by omega]
  exact hget

theorem Topped.firstSpare {top : Bool} (ht : Topped m top m') (h : top = false → m.FirstSpare) :
    m'.FirstSpare := by
  obtain ⟨pre, hws, hpre, hspare⟩ := ht.workspaces_eq
  rw [FirstSpare, FirstOf, ht.output_eq]
  cases top with
  | true =>
    obtain ⟨ws, rfl⟩ := List.length_eq_one_iff.mp hpre
    refine ⟨ws, ?_, hspare ws List.mem_cons_self⟩
    rw [hws]
    rfl
  | false =>
    obtain rfl := List.length_eq_zero_iff.mp hpre
    obtain ⟨ws, hget, hws'⟩ := h rfl
    refine ⟨ws, ?_, hws'⟩
    rw [hws]
    exact hget

/-- `m'` is `m` with the empty workspaces `surround` puts around it. -/
structure Surrounded (m : Monitor W) (last first : Nat) (m' : Monitor W) : Prop where
  workspaces_eq : ∃ pre post, m'.workspaces = pre ++ m.workspaces ++ post ∧
    pre.length = (if m.above && first == 0 then 1 else 0) ∧
    post.length = (if last == m.workspaces.length - 1 then 1 else 0) ∧
    (∀ ws ∈ pre, ws.Spare m.output) ∧ ∀ ws ∈ post, ws.Spare m.output
  active_eq : m'.activeWorkspaceIdx = m.surroundedIdx first m.activeWorkspaceIdx
  output_eq : m'.output = m.output
  options_eq : m'.options = m.options
  switch_none : m'.workspaceSwitch = none ↔ m.workspaceSwitch = none

/-- `m'` is `m` with the workspaces `post` below it. -/
structure Bottomed (m : Monitor W) (bottom : Bool) (m' : Monitor W) : Prop where
  workspaces_eq : ∃ post, m'.workspaces = m.workspaces ++ post ∧
    post.length = (if bottom then 1 else 0) ∧ ∀ ws ∈ post, ws.Spare m.output
  active_eq : m'.activeWorkspaceIdx = m.activeWorkspaceIdx
  output_eq : m'.output = m.output
  options_eq : m'.options = m.options
  switch_none : m'.workspaceSwitch = none ↔ m.workspaceSwitch = none

theorem addBottom_safe (h : Tracked old output n m n₁) (bottom : Bool) :
    Safe (applyIf bottom addWorkspaceBottom m) n₁ fun m' n₂ =>
      Tracked old output n m' n₂ ∧ Bottomed m bottom m' := by
  have hactive := h.active_lt
  refine safe_applyIf (fun hbottom => ?_) (fun hbottom => ?_)
  · refine (addWorkspaceAt_safe h (Nat.le_refl _)).mono ?_
    rintro m' n₂ ⟨htracked, hins⟩
    refine ⟨htracked, ⟨[Workspace.new m.output n₁], ?_, ?_, ?_⟩, ?_, hins.output_eq,
      hins.options_eq, hins.switch_none⟩
    · rw [hins.workspaces_eq, List.insertIdx_length_self]
    · rw [if_pos hbottom]
      rfl
    · intro ws hws
      rw [List.mem_singleton.mp hws]
      exact new_spare m.output n₁
    · rw [hins.active_eq, if_neg (by omega)]
  · refine ⟨h, ⟨[], ?_, ?_, ?_⟩, rfl, rfl, rfl, Iff.rfl⟩
    · rw [List.append_nil]
    · simp [hbottom]
    · simp

/-- First the empty workspace below, then the one above. -/
theorem Bottomed.surrounded {m₁ : Monitor W} {last first : Nat}
    (hb : Bottomed m (last == m.workspaces.length - 1) m₁)
    (ht : Topped m₁ (m.above && first == 0) m') : Surrounded m last first m' := by
  obtain ⟨post, hpost, hpostlen, hspare⟩ := hb.workspaces_eq
  obtain ⟨pre, hpre, hprelen, hspare'⟩ := ht.workspaces_eq
  rw [hb.output_eq] at hspare'
  refine ⟨⟨pre, post, ?_, hprelen, hpostlen, hspare', hspare⟩, ?_,
    ht.output_eq.trans hb.output_eq, ht.options_eq.trans hb.options_eq,
    ht.switch_none.trans hb.switch_none⟩
  · rw [hpre, hpost, List.append_assoc]
  · rw [ht.active_eq, surroundedIdx, hb.active_eq]

/-- First the empty workspace above, then the one below. -/
theorem Topped.surrounded {m₁ : Monitor W} {last first : Nat}
    (ht : Topped m (m.above && first == 0) m₁)
    (hb : Bottomed m₁ (last == m.workspaces.length - 1) m') : Surrounded m last first m' := by
  obtain ⟨pre, hpre, hprelen, hspare⟩ := ht.workspaces_eq
  obtain ⟨post, hpost, hpostlen, hspare'⟩ := hb.workspaces_eq
  rw [ht.output_eq] at hspare'
  refine ⟨⟨pre, post, ?_, hprelen, hpostlen, hspare, hspare'⟩, ?_,
    hb.output_eq.trans ht.output_eq, hb.options_eq.trans ht.options_eq,
    hb.switch_none.trans ht.switch_none⟩
  · rw [hpost, hpre]
  · rw [hb.active_eq, ht.active_eq, surroundedIdx]

theorem surround_safe (h : Tracked old output n m n₁) (last first : Nat) :
    Safe (m.surround last first) n₁ fun m' n₂ =>
      Tracked old output n m' n₂ ∧ Surrounded m last first m' := by
  refine (addBottom_safe h (last == m.workspaces.length - 1)).bind ?_
  rintro m₁ n₂ ⟨h₁, hbottom⟩
  have habove : m₁.above = m.above := by rw [above, hbottom.options_eq]
  rw [habove]
  refine (addTop_safe h₁ (m.above && first == 0)).mono ?_
  rintro m₂ n₃ ⟨htracked, htop⟩
  exact ⟨htracked, hbottom.surrounded htop⟩

theorem Surrounded.above_eq {last first : Nat} (hs : Surrounded m last first m') :
    m'.above = m.above := by
  rw [above, hs.options_eq]

/-- The last workspace is an empty one, or was it before. -/
theorem Surrounded.lastSpare {last first : Nat} (hs : Surrounded m last first m')
    (hpos : 0 < m.workspaces.length) (hlast : last ≠ m.workspaces.length - 1 → m.LastSpare) :
    m'.LastSpare := by
  obtain ⟨pre, post, hws, hpre, hpost, -, hspare⟩ := hs.workspaces_eq
  rw [LastSpare, LastOf, hws, hs.output_eq]
  by_cases heq : last = m.workspaces.length - 1
  · rw [if_pos (by simpa using heq)] at hpost
    obtain ⟨ws, rfl⟩ := List.length_eq_one_iff.mp hpost
    refine ⟨ws, ?_, hspare ws List.mem_cons_self⟩
    rw [List.getElem?_append_right (by simp), List.length_append]
    simp
  · rw [if_neg (by simpa using heq)] at hpost
    obtain rfl := List.length_eq_zero_iff.mp hpost
    obtain ⟨ws, hget, hws⟩ := hlast heq
    refine ⟨ws, ?_, hws⟩
    rw [List.append_nil, List.length_append, List.getElem?_append_right (by omega)]
    rw [show pre.length + m.workspaces.length - 1 - pre.length = m.workspaces.length - 1 by omega]
    exact hget

theorem Surrounded.firstSpare {last first : Nat} (hs : Surrounded m last first m')
    (hpos : 0 < m.workspaces.length) (hfirst : m.above = true → first ≠ 0 → m.FirstSpare)
    (habove : m'.above = true) : m'.FirstSpare := by
  rw [hs.above_eq] at habove
  obtain ⟨pre, post, hws, hpre, -, hspare, -⟩ := hs.workspaces_eq
  rw [FirstSpare, FirstOf, hws, hs.output_eq]
  by_cases heq : first = 0
  · rw [if_pos (by simp [habove, heq])] at hpre
    obtain ⟨ws, rfl⟩ := List.length_eq_one_iff.mp hpre
    exact ⟨ws, rfl, hspare ws List.mem_cons_self⟩
  · rw [if_neg (by simp [heq])] at hpre
    obtain rfl := List.length_eq_zero_iff.mp hpre
    obtain ⟨ws, hget, hws⟩ := hfirst habove heq
    refine ⟨ws, ?_, hws⟩
    rw [List.nil_append, List.getElem?_append_left hpos]
    exact hget

/-- A workspace that is neither active nor at an end was neither before. -/
theorem Surrounded.inside {last first : Nat} (hs : Surrounded m last first m') {i : Nat}
    {ws : Workspace W} (hget : m'.workspaces[i]? = some ws) (hne : i ≠ m'.activeWorkspaceIdx)
    (hlt : i + 1 < m'.workspaces.length) (hpos : m'.above = true → 0 < i) :
    ∃ j, m.workspaces[j]? = some ws ∧ j ≠ m.activeWorkspaceIdx ∧
      (j + 1 < m.workspaces.length ∨ (last = m.workspaces.length - 1 ∧ j = last)) ∧
      (m.above = true → 0 < j ∨ (first = 0 ∧ j = first)) := by
  rw [hs.above_eq] at hpos
  obtain ⟨pre, post, hws, hpre, hpost, -, -⟩ := hs.workspaces_eq
  rw [hs.active_eq, surroundedIdx] at hne
  rw [hws, List.length_append, List.length_append] at hlt
  have hge : pre.length ≤ i := by
    by_cases htop : (m.above && first == 0) = true
    · rw [if_pos htop] at hpre
      have habove : m.above = true := by
        rw [Bool.and_eq_true] at htop
        exact htop.1
      have := hpos habove
      omega
    · rw [if_neg htop] at hpre
      omega
  have hin : i - pre.length < m.workspaces.length := by
    split at hpost <;> omega
  rw [hws, List.append_assoc, List.getElem?_append_right hge,
    List.getElem?_append_left hin] at hget
  refine ⟨i - pre.length, hget, ?_, ?_, ?_⟩
  · split at hne <;> rename_i htop
    · rw [if_pos htop] at hpre
      omega
    · rw [if_neg htop] at hpre
      omega
  · split at hpost
    · rename_i hlast
      have := beq_iff_eq.mp hlast
      omega
    · omega
  · intro habove
    have := hpos habove
    by_cases hfirst : first = 0
    · omega
    · rw [if_neg (by simp [hfirst])] at hpre
      omega

/-! ## Cleaning up -/

/-- The switch is stopped at another index. -/
theorem Tracked.stopped (h : Tracked old output n m n₁) {active : Nat}
    (hactive : active < m.workspaces.length) (previous : Option WorkspaceId) :
    Tracked old output n { m with
      activeWorkspaceIdx := active
      workspaceSwitch := none
      previousWorkspaceId := previous } n₁ :=
  ⟨hactive, h.nodup, h.ids_lt, fun _ hg => absurd hg (by simp), h.output_eq, h.le, h.stems⟩

/-- A workspace is taken out, and another index is active. -/
theorem Tracked.erase (h : Tracked old output n m n₁) {idx active : Nat}
    (hidx : idx < m.workspaces.length) (hactive : active + 1 < m.workspaces.length)
    (hswitch : m.workspaceSwitch = none) :
    Tracked old output n
      { m with workspaces := m.workspaces.eraseIdx idx, activeWorkspaceIdx := active } n₁ := by
  have hsub : ((m.workspaces.eraseIdx idx).map Workspace.id).Sublist m.ids :=
    (List.eraseIdx_sublist _ _).map _
  refine ⟨?_, h.nodup.sublist hsub, fun id hid => h.ids_lt id (hsub.subset hid), ?_, h.output_eq,
    h.le, fun ws hws => h.stems ws (List.mem_of_mem_eraseIdx hws)⟩
  · show active < (m.workspaces.eraseIdx idx).length
    rw [List.length_eraseIdx_of_lt hidx]
    omega
  · intro g hg
    replace hg : m.workspaceSwitch = some (.gesture g) := hg
    rw [hswitch] at hg
    cases hg

theorem lastOf_eraseIdx {workspaces : List (Workspace W)} {idx : Nat} (h : LastOf output workspaces)
    (hidx : idx + 1 < workspaces.length) : LastOf output (workspaces.eraseIdx idx) := by
  obtain ⟨ws, hget, hws⟩ := h
  refine ⟨ws, ?_, hws⟩
  rw [List.length_eraseIdx_of_lt (by omega), List.getElem?_eraseIdx, if_neg (by omega),
    show workspaces.length - 1 - 1 + 1 = workspaces.length - 1 by omega]
  exact hget

theorem firstOf_eraseIdx {workspaces : List (Workspace W)} {idx : Nat}
    (h : FirstOf output workspaces) (hidx : 0 < idx) :
    FirstOf output (workspaces.eraseIdx idx) := by
  obtain ⟨ws, hget, hws⟩ := h
  refine ⟨ws, ?_, hws⟩
  rw [List.getElem?_eraseIdx, if_pos hidx]
  exact hget

/-- In the middle of the clean-up: the workspaces from `k` on are in order. -/
structure Cleaning (old : List (Workspace W)) (output : Output) (n : Nat) (k : Nat) (m : Monitor W)
    (n' : Nat) : Prop extends Tracked old output n m n' where
  switch_eq : m.workspaceSwitch = none
  last : m.LastSpare
  first : m.above = true → m.FirstSpare
  k_lt : k < m.workspaces.length
  done : ∀ i ws, m.workspaces[i]? = some ws → k ≤ i → i ≠ m.activeWorkspaceIdx →
    i + 1 < m.workspaces.length → ws.hasWindowsOrName = true

theorem cleanUpAt_safe {k : Nat} (h : Cleaning old output n (k + 1) m n₁)
    (hk : m.above = true → 0 < k) :
    Safe (m.cleanUpAt k) n₁ fun m' n₂ =>
      Cleaning old output n k m' n₂ ∧ m'.options = m.options := by
  have hlt := h.k_lt
  have hactive := h.active_lt
  rw [cleanUpAt]
  refine safe_ite (fun heq => ?_) (fun hne => ?_)
  · refine safe_pure ⟨{ h with k_lt := by omega, done := ?_ }, rfl⟩
    intro i ws hget hi hine hilt
    exact h.done i ws hget (by omega) hine hilt
  · have hget : m.workspaces[k]? = some m.workspaces[k] := List.getElem?_eq_getElem (by omega)
    refine safe_bounds_bind hget ?_
    refine safe_ite (fun hfull => ?_) (fun _ => ?_)
    · refine safe_pure ⟨{ h with k_lt := by omega, done := ?_ }, rfl⟩
      intro i ws hi hki hine hilt
      rcases Nat.eq_or_lt_of_le hki with rfl | hki
      · rw [hget] at hi
        obtain rfl := Option.some.inj hi
        exact hfull
      · exact h.done i ws hi hki hine hilt
    · have hactive' : (if k < m.activeWorkspaceIdx then m.activeWorkspaceIdx - 1
          else m.activeWorkspaceIdx) + 1 < m.workspaces.length := by
        split <;> omega
      refine safe_pure ⟨⟨h.toTracked.erase (by omega) hactive' h.switch_eq, h.switch_eq,
        lastOf_eraseIdx h.last hlt, fun habove => firstOf_eraseIdx (h.first habove) (hk habove),
        ?_, ?_⟩, rfl⟩
      · show k < (m.workspaces.eraseIdx k).length
        rw [List.length_eraseIdx_of_lt (by omega)]
        omega
      · intro i ws hi hki hine hilt
        replace hi : (m.workspaces.eraseIdx k)[i]? = some ws := hi
        replace hine : i ≠ if k < m.activeWorkspaceIdx then m.activeWorkspaceIdx - 1
          else m.activeWorkspaceIdx := hine
        replace hilt : i + 1 < (m.workspaces.eraseIdx k).length := hilt
        rw [List.length_eraseIdx_of_lt (by omega)] at hilt
        rw [List.getElem?_eraseIdx, if_neg (by omega)] at hi
        refine h.done (i + 1) ws hi (by omega) ?_ (by omega)
        split at hine <;> omega

theorem cleanUpFrom_safe (start : Nat) : ∀ {k n₁ : Nat} {m : Monitor W},
    Cleaning old output n k m n₁ → (m.above = true → 0 < start) →
    Safe (cleanUpFrom start k m) n₁ fun m' n₂ =>
      Cleaning old output n (min k start) m' n₂ ∧ m'.options = m.options
  | 0, _, _, h, _ => safe_pure ⟨by rwa [Nat.zero_min], rfl⟩
  | k + 1, _, m, h, hstart => by
      rw [cleanUpFrom]
      refine safe_ite (fun hlt => ?_) (fun hge => ?_)
      · rw [show min (k + 1) start = k + 1 by omega]
        exact safe_pure ⟨h, rfl⟩
      · refine (cleanUpAt_safe h fun habove => ?_).bind ?_
        · have := hstart habove
          omega
        rintro m₁ n₂ ⟨h₁, hoptions⟩
        have hnext := cleanUpFrom_safe start h₁ ?_
        · refine hnext.mono ?_
          rintro m₂ n₃ ⟨h₂, hoptions₂⟩
          rw [show min (k + 1) start = min k start by omega]
          exact ⟨h₂, hoptions₂.trans hoptions⟩
        · rw [above, hoptions]
          exact hstart

/-- Between the ends of a tidy strip there may be nothing left. -/
theorem mergeEnds_safe (h : Tracked old output n m n₁) (hswitch : m.workspaceSwitch = none)
    (hlast : m.LastSpare) (hfirst : m.above = true → m.FirstSpare) (htidy : m.Tidy) :
    Safe m.mergeEnds n₁ fun m' n₂ => Good old output n m' n₂ ∧ m'.options = m.options := by
  rw [mergeEnds]
  refine safe_ite (fun htwo => ?_) (fun hnot => ?_)
  · rw [Bool.and_eq_true, beq_iff_eq] at htwo
    obtain ⟨habove, hlen⟩ := htwo
    obtain ⟨first, hget₀, hspare₀⟩ := hfirst habove
    obtain ⟨last, hget₁, hspare₁⟩ := hlast
    rw [hlen] at hget₁
    refine safe_bounds_bind hget₀ ?_
    refine safe_require_bind (by rw [spare_not_full hspare₀]; rfl) ?_
    refine safe_bounds_bind hget₁ ?_
    refine safe_require_bind (by rw [spare_not_full hspare₁]; rfl) ?_
    have hlen' : (m.workspaces.eraseIdx 1).length = 1 := by
      rw [List.length_eraseIdx_of_lt (by omega), hlen]
    have hget : (m.workspaces.eraseIdx 1)[0]? = some first := by
      rw [List.getElem?_eraseIdx, if_pos Nat.one_pos]
      exact hget₀
    refine safe_pure ⟨⟨⟨h.erase (by omega) (by omega) hswitch,
      ⟨first, ?_, hspare₀⟩, fun _ => ⟨first, hget, hspare₀⟩, fun _ => ?_⟩, fun _ => ?_⟩, rfl⟩
    · show (m.workspaces.eraseIdx 1)[(m.workspaces.eraseIdx 1).length - 1]? = some first
      rw [hlen']
      exact hget
    · show (m.workspaces.eraseIdx 1).length ≠ 2
      omega
    · intro i ws _ _ hlt _
      replace hlt : i + 1 < (m.workspaces.eraseIdx 1).length := hlt
      omega
  · refine safe_pure ⟨⟨⟨h, hlast, hfirst, fun habove hlen => ?_⟩, fun _ => htidy⟩, rfl⟩
    exact hnot (by rw [habove, hlen]; rfl)

/-- What an operation that ends in the clean-up has to provide. -/
theorem cleanUpWorkspaces_safe (h : Tracked old output n m n₁) (hswitch : m.workspaceSwitch = none)
    (hlast : m.LastSpare) (hfirst : m.above = true → m.FirstSpare) :
    Safe m.cleanUpWorkspaces n₁ fun m' n₂ => Good old output n m' n₂ ∧ m'.options = m.options := by
  have hactive := h.active_lt
  rw [cleanUpWorkspaces]
  refine safe_require_bind (by rw [hswitch]; rfl) ?_
  have hcleaning : Cleaning old output n (m.workspaces.length - 1) m n₁ :=
    ⟨h, hswitch, hlast, hfirst, by omega, fun i ws _ _ _ _ => by omega⟩
  refine (cleanUpFrom_safe (if m.above then 1 else 0) hcleaning ?_).bind ?_
  · intro habove
    rw [if_pos habove]
    exact Nat.one_pos
  rintro m₁ n₂ ⟨h₁, hoptions⟩
  have habove : m₁.above = m.above := by rw [above, hoptions]
  have htidy : m₁.Tidy := by
    intro i ws hget hne hlt hpos
    refine h₁.done i ws hget ?_ hne hlt
    rw [habove] at hpos
    split
    · rename_i hm
      have := hpos hm
      omega
    · omega
  refine (mergeEnds_safe h₁.toTracked h₁.switch_eq h₁.last h₁.first htidy).mono ?_
  rintro m₂ n₃ ⟨hgood, hoptions₂⟩
  exact ⟨hgood, hoptions₂.trans hoptions⟩

end Monitor

end Cidre.Workspaces
