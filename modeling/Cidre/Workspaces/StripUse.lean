/-
  Cidre.Workspaces.StripUse

  The workspaces of a strip that are in use, and the active one among them, when a
  strip is cleaned up, gets the workspaces of a removed monitor, or gives away those
  of a new one.  What is said here is what is there after a call that returns; that
  the calls return on a strip in order is said in `Strip` and `StripCalls`.
-/

import Mathlib.Data.List.Induction
import Mathlib.Data.List.Nodup
import Mathlib.Data.List.Perm.Subperm
import Cidre.Workspaces.Layout
import Cidre.Workspaces.Strip

namespace Cidre.Workspaces

open Cidre.Counter
open Cidre.Panic (Vec.insert Vec.remove Vec.rposition)

variable {W : Type}

/-! ## Lists -/

/-- Of a list with distinct keys a part is kept, with `a` in it: as many are before `a`
    as are kept of those that were. -/
theorem sublist_split {α β : Type} [DecidableEq β] {key : α → β} {l before after : List α} {a : α}
    (hnodup : ((before ++ a :: after).map key).Nodup) (hsub : l.Sublist (before ++ a :: after))
    (hmem : a ∈ l) : ∃ l₁ l₂, l = l₁ ++ a :: l₂ ∧ l₁.Sublist before ∧ l₂.Sublist after ∧
      l₁.length = before.countP fun b => key b ∈ l.map key := by
  obtain ⟨l₁, r, rfl, hl₁, hr⟩ := List.sublist_append_iff.mp hsub
  rw [List.map_append, List.map_cons, List.nodup_append] at hnodup
  obtain ⟨hbefore, hafter, hapart⟩ := hnodup
  have hnot : ∀ b ∈ before, ∀ c ∈ a :: after, key b ≠ key c := fun b hb c hc =>
    hapart (key b) (List.mem_map_of_mem hb) (key c)
      (by rw [← List.map_cons]; exact List.mem_map_of_mem hc)
  have hmem' : a ∈ r := by
    refine (List.mem_append.mp hmem).resolve_left fun ha => ?_
    exact hnot a (hl₁.subset ha) a List.mem_cons_self rfl
  obtain ⟨l₂, rfl, hl₂⟩ : ∃ l₂, r = a :: l₂ ∧ l₂.Sublist after := by
    rcases List.sublist_cons_iff.mp hr with hr | hr
    · have hkey : key a ∈ after.map key := List.mem_map_of_mem (hr.subset hmem')
      exact absurd hkey (List.nodup_cons.mp hafter).1
    · exact hr
  refine ⟨l₁, l₂, rfl, hl₁, hl₂, ?_⟩
  have hkept : before.filter (fun b => key b ∈ (l₁ ++ a :: l₂).map key) = l₁ := by
    refine (List.Sublist.eq_of_length_le ?_ ?_).symm
    · have hself : l₁.filter (fun b => key b ∈ (l₁ ++ a :: l₂).map key) = l₁ :=
        List.filter_eq_self.mpr fun b hb =>
          decide_eq_true (List.mem_map_of_mem (List.mem_append_left _ hb))
      have hfilter := hl₁.filter fun b => decide (key b ∈ (l₁ ++ a :: l₂).map key)
      rwa [hself] at hfilter
    · have hsubset : (before.filter fun b => key b ∈ (l₁ ++ a :: l₂).map key).map key ⊆
          l₁.map key := by
        intro k hk
        obtain ⟨b, hb, rfl⟩ := List.mem_map.mp hk
        obtain ⟨hb, hin⟩ := List.mem_filter.mp hb
        obtain ⟨c, hc, hkey⟩ := List.mem_map.mp (of_decide_eq_true hin)
        rcases List.mem_append.mp hc with hc | hc
        · rw [← hkey]
          exact List.mem_map_of_mem hc
        · exact absurd hkey.symm (hnot b hb c (hr.subset hc))
      have hfilter : ((before.filter fun b => key b ∈ (l₁ ++ a :: l₂).map key).map key).Nodup :=
        hbefore.sublist (List.filter_sublist.map _)
      simpa using (List.subperm_of_subset hfilter hsubset).length_le
  rw [List.countP_eq_length_filter, hkept]

namespace Monitor

def activeWorkspace (m : Monitor W) : Option (Workspace W) := m.workspaces[m.activeWorkspaceIdx]?

/-- `m'` has the workspaces of `m` that are in use, and the active one is the same if it
    is in use. -/
structure Retains (m m' : Monitor W) : Prop where
  used_eq : m'.intoWorkspaces = m.intoWorkspaces
  active : ∀ ws, m.activeWorkspace = some ws → ws.hasWindowsOrName = true →
    m'.activeWorkspace = some ws

/-- Workspaces that are not in use were taken from `m`. -/
structure Trims (m m' : Monitor W) : Prop extends Retains m m' where
  output_eq : m'.output = m.output
  sublist : m'.workspaces.Sublist m.workspaces

variable {m m₁ m' : Monitor W} {n idx : Nat}

theorem Retains.refl (m : Monitor W) : m.Retains m := ⟨rfl, fun _ h _ => h⟩

theorem Retains.trans (h : m.Retains m₁) (h' : m₁.Retains m') : m.Retains m' :=
  ⟨h'.used_eq.trans h.used_eq, fun ws hws hfull => h'.active ws (h.active ws hws hfull) hfull⟩

theorem Trims.refl (m : Monitor W) : m.Trims m := ⟨.refl m, rfl, .refl _⟩

theorem Trims.trans (h : m.Trims m₁) (h' : m₁.Trims m') : m.Trims m' :=
  ⟨h.toRetains.trans h'.toRetains, h'.output_eq.trans h.output_eq, h'.sublist.trans h.sublist⟩

/-! ## Cleaning up -/

/-- Another workspace than the active one is taken out. -/
theorem getElem?_active_eraseIdx {workspaces : List (Workspace W)} {active : Nat}
    (hne : active ≠ idx) :
    (workspaces.eraseIdx idx)[if idx < active then active - 1 else active]? =
      workspaces[active]? := by
  rw [List.getElem?_eraseIdx]
  by_cases hlt : idx < active
  · rw [if_pos hlt, if_neg (by omega), Nat.sub_add_cancel (by omega)]
  · rw [if_neg hlt, if_pos (by omega)]

/-- A workspace that is not in use is taken out, and the active one stays where it is. -/
theorem trims_eraseIdx {ws : Workspace W} (hget : m.workspaces[idx]? = some ws)
    (hfree : ws.hasWindowsOrName = false) {active : Nat}
    (hactive : m.activeWorkspaceIdx ≠ idx →
      active = if idx < m.activeWorkspaceIdx then m.activeWorkspaceIdx - 1
        else m.activeWorkspaceIdx) :
    m.Trims { m with workspaces := m.workspaces.eraseIdx idx, activeWorkspaceIdx := active } := by
  refine ⟨⟨Panic.Vec.filter_eraseIdx hget hfree, fun ws' hws' hfull => ?_⟩, rfl,
    List.eraseIdx_sublist _ _⟩
  have hne : m.activeWorkspaceIdx ≠ idx := by
    rintro rfl
    rw [activeWorkspace, hget] at hws'
    obtain rfl := Option.some.inj hws'
    rw [hfree] at hfull
    cases hfull
  show (m.workspaces.eraseIdx idx)[active]? = some ws'
  rw [hactive hne, getElem?_active_eraseIdx hne]
  exact hws'

theorem cleanUpAt_trims (m : Monitor W) (idx n : Nat) :
    Yields (m.cleanUpAt idx) n fun m' _ => m.Trims m' := by
  refine yields_early (.refl m) (fun _ => yields_bounds_bind fun ws hget => ?_)
  refine yields_early (.refl m) (fun hfree => yields_pure ?_)
  exact trims_eraseIdx hget (Bool.not_eq_true _ ▸ hfree) fun _ => rfl

theorem cleanUpFrom_trims (start : Nat) : ∀ (k : Nat) (m : Monitor W) (n : Nat),
    Yields (cleanUpFrom start k m) n fun m' _ => m.Trims m'
  | 0, m, _ => yields_pure (.refl m)
  | k + 1, m, n => by
      refine yields_early (.refl m) fun _ => ?_
      refine (cleanUpAt_trims m k n).bind fun m₁ n₁ h₁ => ?_
      exact (cleanUpFrom_trims start k m₁ n₁).mono fun _ _ h₂ => h₁.trans h₂

theorem mergeEnds_trims (m : Monitor W) (n : Nat) :
    Yields m.mergeEnds n fun m' _ => m.Trims m' := by
  refine yields_ite (fun htwo => ?_) (fun _ => yields_pure (.refl m))
  refine yields_bounds_bind fun first hfirst => yields_require_bind fun hfree => ?_
  refine yields_bounds_bind fun last hlast => yields_require_bind fun hfree' => yields_pure ?_
  rw [Bool.and_eq_true, beq_iff_eq] at htwo
  rw [Bool.not_eq_true'] at hfree hfree'
  refine ⟨⟨Panic.Vec.filter_eraseIdx hlast hfree', fun ws hws hfull => ?_⟩, rfl,
    List.eraseIdx_sublist _ _⟩
  -- The active workspace is one of the two, and neither is in use.
  have hlt : m.activeWorkspaceIdx < m.workspaces.length := (List.getElem?_eq_some_iff.mp hws).1
  have hempty : ws.hasWindowsOrName = false := by
    rw [activeWorkspace] at hws
    rcases Nat.lt_or_ge m.activeWorkspaceIdx 1 with hzero | hone
    · rw [Nat.lt_one_iff.mp hzero, hfirst] at hws
      exact Option.some.inj hws ▸ hfree
    · rw [show m.activeWorkspaceIdx = 1 by omega, hlast] at hws
      exact Option.some.inj hws ▸ hfree'
  rw [hempty] at hfull
  cases hfull

theorem cleanUpWorkspaces_trims (m : Monitor W) (n : Nat) :
    Yields m.cleanUpWorkspaces n fun m' _ => m.Trims m' := by
  refine yields_require_bind fun _ => (cleanUpFrom_trims _ _ m n).bind fun m₁ n₁ h₁ => ?_
  exact (mergeEnds_trims m₁ n₁).mono fun _ _ h₂ => h₁.trans h₂

/-- Workspaces that are not in use were taken from between the ends of `m`, and not the
    active one. -/
structure Swept (m m' : Monitor W) : Prop where
  sublist : m'.workspaces.Sublist m.workspaces
  used_eq : m'.intoWorkspaces = m.intoWorkspaces
  active_eq : m'.activeWorkspace = m.activeWorkspace
  last_eq : m'.workspaces.getLast? = m.workspaces.getLast?
  first_eq : m.above = true → m'.workspaces.head? = m.workspaces.head?
  options_eq : m'.options = m.options

theorem Swept.refl (m : Monitor W) : m.Swept m := ⟨.refl _, rfl, rfl, rfl, fun _ => rfl, rfl⟩

theorem Swept.trans (h : m.Swept m₁) (h' : m₁.Swept m') : m.Swept m' := by
  refine ⟨h'.sublist.trans h.sublist, h'.used_eq.trans h.used_eq, h'.active_eq.trans h.active_eq,
    h'.last_eq.trans h.last_eq, fun habove => ?_, h'.options_eq.trans h.options_eq⟩
  have habove₁ : m₁.above = true := by rw [above, h.options_eq]; exact habove
  exact (h'.first_eq habove₁).trans (h.first_eq habove)

theorem cleanUpAt_swept (m : Monitor W) (n : Nat) (hlt : idx + 1 < m.workspaces.length)
    (hpos : m.above = true → 0 < idx) :
    Yields (m.cleanUpAt idx) n fun m' _ => m.Swept m' ∧ idx < m'.workspaces.length := by
  refine yields_early ⟨.refl m, by omega⟩ fun hne =>
    yields_bounds_bind fun ws hget => ?_
  refine yields_early ⟨.refl m, by omega⟩ fun hfree => yields_pure ⟨⟨?_, ?_, ?_,
    ?_, ?_, rfl⟩, ?_⟩
  · exact List.eraseIdx_sublist _ _
  · exact Panic.Vec.filter_eraseIdx hget (Bool.not_eq_true _ ▸ hfree)
  · show (m.workspaces.eraseIdx idx)[if idx < m.activeWorkspaceIdx then m.activeWorkspaceIdx - 1
      else m.activeWorkspaceIdx]? = m.workspaces[m.activeWorkspaceIdx]?
    exact getElem?_active_eraseIdx hne
  · show (m.workspaces.eraseIdx idx).getLast? = m.workspaces.getLast?
    rw [List.getLast?_eq_getElem?, List.getLast?_eq_getElem?, List.length_eraseIdx_of_lt (by omega),
      List.getElem?_eraseIdx, if_neg (by omega), Nat.sub_add_cancel (by omega)]
  · intro habove
    have := hpos habove
    show (m.workspaces.eraseIdx idx).head? = m.workspaces.head?
    rw [List.head?_eq_getElem?, List.head?_eq_getElem?, List.getElem?_eraseIdx, if_pos (by omega)]
  · show idx < (m.workspaces.eraseIdx idx).length
    rw [List.length_eraseIdx_of_lt (by omega)]
    omega

theorem cleanUpFrom_swept (start : Nat) : ∀ (k : Nat) (m : Monitor W) (n : Nat),
    k < m.workspaces.length → (m.above = true → 0 < start) →
    Yields (cleanUpFrom start k m) n fun m' _ => m.Swept m'
  | 0, m, _, _, _ => yields_pure (.refl m)
  | k + 1, m, n, hk, hstart => by
      refine yields_early (.refl m) fun hge => ?_
      have hpos : m.above = true → 0 < k := fun habove => by
        have := hstart habove
        omega
      refine (cleanUpAt_swept m n hk hpos).bind fun m₁ n₁ ⟨h₁, hlt⟩ => ?_
      have hstart₁ : m₁.above = true → 0 < start := by
        rw [above, h₁.options_eq]
        exact hstart
      exact (cleanUpFrom_swept start k m₁ n₁ hlt hstart₁).mono fun _ _ h₂ => h₁.trans h₂

/-- With a workspace in use the ends are not merged. -/
theorem cleanUpWorkspaces_swept {ws : Workspace W} (hws : ws ∈ m.workspaces)
    (hfull : ws.hasWindowsOrName = true) (n : Nat) :
    Yields m.cleanUpWorkspaces n fun m' _ => m.Swept m' := by
  have hpos : 0 < m.workspaces.length := List.length_pos_of_mem hws
  have hstart : m.above = true → 0 < if m.above then 1 else 0 := fun habove => by
    rw [if_pos habove]
    exact Nat.one_pos
  refine yields_require_bind fun _ =>
    (cleanUpFrom_swept _ _ m n (by omega) hstart).bind fun m₁ n₁ h₁ => ?_
  have hused : ws ∈ m₁.intoWorkspaces := h₁.used_eq ▸ List.mem_filter.mpr ⟨hws, hfull⟩
  refine yields_ite (fun htwo => ?_) (fun _ => yields_pure h₁)
  refine yields_bounds_bind fun first hfirst => yields_require_bind fun hfree => ?_
  refine yields_bounds_bind fun last hlast => yields_require_bind fun hfree' => ?_
  exfalso
  rw [Bool.and_eq_true, beq_iff_eq] at htwo
  rw [Bool.not_eq_true'] at hfree hfree'
  obtain ⟨i, hi⟩ := List.mem_iff_getElem?.mp (List.mem_filter.mp hused).1
  have hlt : i < m₁.workspaces.length := (List.getElem?_eq_some_iff.mp hi).1
  have hempty : ws.hasWindowsOrName = false := by
    rcases Nat.lt_or_ge i 1 with hzero | hone
    · rw [Nat.lt_one_iff.mp hzero, hfirst] at hi
      exact Option.some.inj hi ▸ hfree
    · rw [show i = 1 by omega, hlast] at hi
      exact Option.some.inj hi ▸ hfree'
  rw [hempty] at hfull
  cases hfull

/-! ## The workspaces of a removed monitor -/

/-- A new workspace is put above the others. -/
theorem addWorkspaceTop_yields (m : Monitor W) (n : Nat) :
    Yields m.addWorkspaceTop n fun m' _ => m'.output = m.output ∧
      m'.workspaces = Workspace.new m.output n :: m.workspaces ∧
      m'.activeWorkspaceIdx = m.activeWorkspaceIdx + 1 := by
  refine yields_fresh_bind (yields_bounds_bind fun workspaces hinsert => yields_pure ?_)
  rw [Vec.insert, if_pos (Nat.zero_le _)] at hinsert
  refine ⟨rfl, (Option.some.inj hinsert).symm, ?_⟩
  dsimp only
  rw [if_pos (Nat.zero_le _)]

/-- The workspaces of another monitor come in front of the last one, which is not in
    use. -/
structure Appended (m : Monitor W) (workspaces : List (Workspace W)) (m' : Monitor W) :
    Prop where
  output_eq : m'.output = m.output
  used_eq : m'.intoWorkspaces = m.intoWorkspaces ++
    (workspaces.map fun ws => ws.setOutput m.output).filter Workspace.hasWindowsOrName
  active : ∀ ws, m.activeWorkspace = some ws → ws.hasWindowsOrName = true →
    m'.activeWorkspace = some ws
  mem : ∀ ws ∈ m'.workspaces, ws.originalOutput = OutputId.new m.output ∨ ws ∈ m.workspaces ∨
    ∃ ws₀ ∈ workspaces, ws = ws₀.setOutput m.output

theorem appendWorkspaces_appended {last : Workspace W}
    (hlast : m.workspaces[m.workspaces.length - 1]? = some last)
    (hfree : last.hasWindowsOrName = false) (workspaces : List (Workspace W)) (n : Nat) :
    Yields (m.appendWorkspaces workspaces) n fun m' _ => m.Appended workspaces m' := by
  refine yields_ite (fun hnil => yields_pure ?_) (fun _ => ?_)
  · subst hnil
    exact ⟨rfl, (List.append_nil _).symm, fun _ h _ => h, fun ws hws => Or.inr (Or.inl hws)⟩
  obtain ⟨front, hfront⟩ : ∃ front, m.workspaces = front ++ [last] := by
    rw [← List.getLast?_eq_getElem?] at hlast
    exact List.getLast?_eq_some_iff.mp hlast
  have hremove : Vec.remove m.workspaces (m.workspaces.length - 1) = some (last, front) := by
    rw [Vec.remove, hlast, hfront, List.length_append, List.length_singleton,
      Nat.add_sub_cancel, List.eraseIdx_append_of_length_le (Nat.le_refl _), Nat.sub_self]
    simp
  refine yields_bounds_bind fun p hp => ?_
  obtain rfl := Option.some.inj (hremove.symm.trans hp)
  refine yields_bounds_bind fun first _ => ?_
  generalize hnew : workspaces.map (fun ws => ws.setOutput m.output) = new
  -- With the empty workspace above or without it, the others are the same.
  have htop : Yields (applyIf (m.above && first.hasWindowsOrName) addWorkspaceTop
      { m with workspaces := front ++ new ++ [last] }) n fun m₁ _ => m₁.output = m.output ∧
        ∃ top : List (Workspace W), m₁.workspaces = top ++ (front ++ new ++ [last]) ∧
          m₁.activeWorkspaceIdx = top.length + m.activeWorkspaceIdx ∧
          ∀ ws ∈ top, ws.Spare m.output := by
    refine yields_applyIf ?_ ⟨rfl, [], rfl, (Nat.zero_add _).symm, by simp⟩
    refine (addWorkspaceTop_yields _ n).mono fun m₁ n₁ h₁ => ?_
    refine ⟨h₁.1, [Workspace.new m.output n], h₁.2.1, ?_, ?_⟩
    · rw [h₁.2.2, List.length_singleton, Nat.add_comm]
    · intro ws hws
      rw [List.mem_singleton.mp hws]
      exact new_spare m.output n
  refine htop.bind ?_
  rintro m₁ n₁ ⟨houtput, top, hws, hactive, hspare⟩
  refine (cleanUpWorkspaces_trims _ n₁).mono fun m' _ htrims => ?_
  refine ⟨htrims.output_eq.trans houtput, htrims.used_eq.trans ?_, fun ws hget hfull => ?_,
    fun ws hmem => ?_⟩
  · have htopfree : top.filter Workspace.hasWindowsOrName = [] :=
      List.filter_eq_nil_iff.mpr fun ws hws => by simp [spare_not_full (hspare ws hws)]
    show m₁.workspaces.filter Workspace.hasWindowsOrName =
      m.workspaces.filter Workspace.hasWindowsOrName ++ _
    rw [hws, hfront, hnew]
    simp [List.filter_append, htopfree, hfree]
  · -- The last workspace is not in use, so that it is not the active one.
    have hlt : m.activeWorkspaceIdx < m.workspaces.length :=
      (List.getElem?_eq_some_iff.mp hget).1
    have hne : m.activeWorkspaceIdx ≠ m.workspaces.length - 1 := by
      intro heq
      rw [activeWorkspace, heq, hlast] at hget
      obtain rfl := Option.some.inj hget
      rw [hfree] at hfull
      cases hfull
    have hlen : m.workspaces.length = front.length + 1 := by
      rw [hfront, List.length_append, List.length_singleton]
    refine htrims.active ws ?_ hfull
    show m₁.workspaces[if (m.activeWorkspaceIdx == m.workspaces.length - 1) = true then _
      else m₁.activeWorkspaceIdx]? = some ws
    rw [if_neg (by simpa using hne), hactive, hws, List.getElem?_append_right (by omega),
      Nat.add_sub_cancel_left, List.append_assoc, List.getElem?_append_left (by omega)]
    rw [activeWorkspace, hfront, List.getElem?_append_left (by omega)] at hget
    exact hget
  · have hmem' : ws ∈ top ++ (front ++ new ++ [last]) := hws ▸ htrims.sublist.subset hmem
    simp only [List.mem_append, List.mem_singleton] at hmem'
    rcases hmem' with htop | (hin | hin) | rfl
    · exact Or.inl (hspare ws htop).output_eq
    · exact Or.inr (Or.inl (hfront ▸ List.mem_append_left _ hin))
    · rw [← hnew] at hin
      obtain ⟨ws₀, hws₀, rfl⟩ := List.mem_map.mp hin
      exact Or.inr (Or.inr ⟨ws₀, hws₀, rfl⟩)
    · exact Or.inr (Or.inl (List.mem_of_getElem? hlast))

/-! ## The workspaces of a new monitor -/

/-- The workspaces of `front` have been sorted into those that `output` takes away and
    those that stay with the primary monitor, which was `r.primary`. -/
structure Sorted (output : Output) (front back : List (Workspace W)) (r r' : Layout.Reclaim W) :
    Prop where
  stays_eq : r'.primary.workspaces =
    front.filter (fun ws => !ws.originalOutput.isOf output) ++ back
  goes_eq : r'.workspaces =
    front.filter (fun ws => ws.originalOutput.isOf output && ws.hasWindowsOrName) ++ r.workspaces
  active : ∀ ws, r.primary.activeWorkspace = some ws → ws.originalOutput.isOf output = false →
    r'.primary.activeWorkspace = some ws
  output_eq : r'.primary.output = r.primary.output

/-- The active index after a workspace above or below it went away; the first of a
    strip that has an empty workspace above does not. -/
theorem reclaimed_active {above : Bool} {active i : Nat} (hne : active ≠ i)
    (hfirst : above = true → 0 < i) :
    (if i ≤ active ∧ ¬ (above = true ∧ active = 1) then active - 1 else active) =
      if i < active then active - 1 else active := by
  by_cases hlt : i < active
  · rw [if_pos hlt, if_pos]
    refine ⟨Nat.le_of_lt hlt, fun hone => ?_⟩
    have := hfirst hone.1
    omega
  · rw [if_neg hlt, if_neg]
    rintro ⟨hle, -⟩
    omega

/-- The workspace at the end of `front` is looked at. -/
theorem reclaimAt_sorted {output : Output} {r : Layout.Reclaim W} {front back : List (Workspace W)}
    {w : Workspace W} (hws : r.primary.workspaces = front ++ w :: back)
    (hfirst : r.primary.above = true → ∀ ws ∈ r.primary.workspaces.head?,
      ws.originalOutput.isOf output = false) (n : Nat) :
    Yields (Layout.reclaimAt output front.length r) n fun r₁ _ =>
      r₁.primary.workspaces =
        front ++ ([w].filter (fun ws => !ws.originalOutput.isOf output) ++ back) ∧
      r₁.workspaces = [w].filter (fun ws =>
        ws.originalOutput.isOf output && ws.hasWindowsOrName) ++ r.workspaces ∧
      r₁.primary.above = r.primary.above ∧ r₁.primary.output = r.primary.output ∧
      ∀ ws, r.primary.activeWorkspace = some ws → ws.originalOutput.isOf output = false →
        r₁.primary.activeWorkspace = some ws := by
  have hget : r.primary.workspaces[front.length]? = some w := by
    rw [hws, List.getElem?_append_right (Nat.le_refl _), Nat.sub_self]
    rfl
  refine yields_bounds_bind fun w' hw' => ?_
  obtain rfl := Option.some.inj (hget.symm.trans hw')
  refine yields_ite (fun hof => ?_) (fun hnot => yields_pure ?_)
  · have herase : r.primary.workspaces.eraseIdx front.length = front ++ back := by
      rw [hws, List.eraseIdx_append_of_length_le (Nat.le_refl _), Nat.sub_self]
      rfl
    refine yields_bounds_bind fun p hp => yields_pure ?_
    rw [Vec.remove, hget, herase] at hp
    obtain rfl := Option.some.inj hp
    refine ⟨?_, ?_, rfl, rfl, fun ws hactive hstays => ?_⟩
    · simp [hof]
    · dsimp only
      cases hfull : w.hasWindowsOrName <;> simp [hof, hfull]
    · have hne : r.primary.activeWorkspaceIdx ≠ front.length := by
        intro heq
        rw [activeWorkspace, heq, hget] at hactive
        obtain rfl := Option.some.inj hactive
        rw [hof] at hstays
        cases hstays
      have hpos : r.primary.above = true → 0 < front.length := by
        intro habove
        refine List.length_pos_of_ne_nil ?_
        rintro rfl
        have hstays := hfirst habove w (by rw [hws]; rfl)
        rw [hof] at hstays
        cases hstays
      rw [activeWorkspace, ← hactive, activeWorkspace]
      dsimp only
      rw [reclaimed_active hne hpos, hws, ← herase, hws, List.getElem?_eraseIdx]
      split
      · next hlt => rw [if_neg (by omega), Nat.sub_add_cancel (by omega)]
      · next hge => rw [if_pos (by omega)]
  · refine ⟨?_, ?_, rfl, rfl, fun _ h _ => h⟩
    · simp [hnot, hws]
    · simp [hnot]

theorem reclaimFrom_sorted (output : Output) (front : List (Workspace W)) :
    ∀ {back : List (Workspace W)} {r : Layout.Reclaim W} {n : Nat},
      r.primary.workspaces = front ++ back →
      (r.primary.above = true → ∀ ws ∈ r.primary.workspaces.head?,
        ws.originalOutput.isOf output = false) →
      Yields (Layout.reclaimFrom output front.length r) n
        fun r' _ => Sorted output front back r r' := by
  induction front using List.reverseRecOn with
  | nil => exact fun hws _ => yields_pure ⟨hws, rfl, fun _ h _ => h, rfl⟩
  | append_singleton front w ih =>
    intro back r n hws hfirst
    rw [List.append_assoc, List.singleton_append] at hws
    rw [List.length_append, List.length_singleton]
    refine (reclaimAt_sorted hws hfirst n).bind ?_
    rintro r₁ n₁ ⟨hws₁, hgoes, habove, houtput, hactive⟩
    have hfirst₁ : r₁.primary.above = true → ∀ ws ∈ r₁.primary.workspaces.head?,
        ws.originalOutput.isOf output = false := by
      intro h ws hmem
      have hstays := hfirst (habove ▸ h)
      rw [hws] at hstays
      rw [hws₁] at hmem
      cases front with
      | cons first front => exact hstays ws hmem
      | nil =>
        have hw := hstays w rfl
        have hhead : ws = w := by simpa [hw] using hmem.symm
        rw [hhead]
        exact hw
    refine (ih hws₁ hfirst₁).mono fun r' _ h' => ⟨?_, ?_, fun ws hget hstays => ?_, ?_⟩
    · rw [h'.stays_eq, List.filter_append, List.append_assoc]
    · rw [h'.goes_eq, hgoes, List.filter_append, List.append_assoc]
    · exact h'.active ws (hactive ws hget hstays) hstays
    · exact h'.output_eq.trans houtput

/-- What `output` gets of the primary monitor `m`, and what `m'` keeps. -/
structure Reclaimed (output : Output) (m : Monitor W) (workspaces : List (Workspace W))
    (m' : Monitor W) : Prop where
  output_eq : m'.output = m.output
  workspaces_eq : workspaces = m.workspaces.filter fun ws =>
    ws.originalOutput.isOf output && ws.hasWindowsOrName
  used_eq : m'.intoWorkspaces = m.intoWorkspaces.filter fun ws => !ws.originalOutput.isOf output
  mem : ∀ ws ∈ m'.workspaces, ws ∈ m.workspaces ∧ ws.originalOutput.isOf output = false
  active : ∀ ws, m.activeWorkspace = some ws → ws.hasWindowsOrName = true →
    ws.originalOutput.isOf output = false → m'.activeWorkspace = some ws

theorem reclaim_reclaimed {output : Output} (hfirst : m.above = true →
    ∀ ws ∈ m.workspaces.head?, ws.originalOutput.isOf output = false) (n : Nat) :
    Yields (Layout.reclaim output m) n fun p _ => Reclaimed output m p.1 p.2 := by
  have hsorted : Yields (Layout.reclaimFrom output m.workspaces.length ⟨m, [], false⟩) n
      fun r _ => Sorted output m.workspaces [] ⟨m, [], false⟩ r :=
    reclaimFrom_sorted output m.workspaces (List.append_nil _).symm hfirst
  refine hsorted.bind fun r n₁ hr => ?_
  have hclean : Yields (applyIf (r.stoppedPrimaryWsSwitch ||
      (r.primary.above && r.primary.workspaces.length == 2)) cleanUpWorkspaces r.primary) n₁
      fun m' _ => r.primary.Trims m' :=
    yields_applyIf (cleanUpWorkspaces_trims r.primary n₁) (.refl r.primary)
  refine hclean.bind fun m' n₂ htrims => yields_pure ⟨?_, ?_, ?_, fun ws hws => ?_, ?_⟩
  · exact htrims.output_eq.trans hr.output_eq
  · rw [hr.goes_eq, List.append_nil]
  · rw [htrims.used_eq, intoWorkspaces, hr.stays_eq, List.append_nil, List.filter_filter,
      intoWorkspaces, List.filter_filter]
    exact List.filter_congr fun ws _ => Bool.and_comm _ _
  · have hmem := htrims.sublist.subset hws
    rw [hr.stays_eq, List.append_nil, List.mem_filter, Bool.not_eq_true'] at hmem
    exact hmem
  · exact fun ws hget hfull hstays => htrims.active ws (hr.active ws hget hstays) hfull

/-- The strip a new monitor starts with. -/
structure Started (output : Output) (workspaces : List (Workspace W)) (id : Option WorkspaceId)
    (m : Monitor W) : Prop where
  output_eq : m.output = output
  used_eq : m.intoWorkspaces = workspaces.map fun ws => ws.setOutput output
  mem : ∀ ws ∈ m.workspaces, ws.originalOutput = OutputId.new output ∨
    ∃ ws₀ ∈ workspaces, ws = ws₀.setOutput output
  active : ∀ ws, workspaces[activateIdx workspaces id]? = some ws →
    m.activeWorkspace = some (ws.setOutput output)

theorem new_started (output : Output) (workspaces : List (Workspace W)) (id : Option WorkspaceId)
    (baseOptions : Options) (layoutConfig : Option LayoutPart) (n : Nat) :
    Yields (new output workspaces id baseOptions layoutConfig) n
      fun m _ => Started output workspaces id m := by
  refine yields_require_bind fun hfull => ?_
  dsimp only
  generalize hnew : workspaces.map (fun ws => ws.setOutput output) = new
  generalize htop : ((baseOptions.withMergedLayout layoutConfig).emptyWorkspaceAboveFirst &&
    !new.isEmpty) = top
  have habove : Yields (applyIf top (fun workspaces => do
      let id ← fresh
      return Workspace.new output id :: workspaces) new) n fun workspaces₁ _ =>
        ∃ pre : List (Workspace W), workspaces₁ = pre ++ new ∧
          pre.length = (if top then 1 else 0) ∧ ∀ ws ∈ pre, ws.Spare output := by
    cases top with
    | false => exact yields_pure ⟨[], rfl, rfl, by simp⟩
    | true =>
      refine yields_fresh_bind (yields_pure ⟨[Workspace.new output n], rfl, rfl, ?_⟩)
      intro ws hws
      rw [List.mem_singleton.mp hws]
      exact new_spare output n
  refine habove.bind ?_
  rintro _ n₁ ⟨pre, rfl, hlen, hspare⟩
  refine yields_fresh_bind (yields_pure ⟨rfl, ?_, fun ws hws => ?_, fun ws hget => ?_⟩)
  · have hpre : pre.filter Workspace.hasWindowsOrName = [] :=
      List.filter_eq_nil_iff.mpr fun ws hws => by simp [spare_not_full (hspare ws hws)]
    have hused : new.filter Workspace.hasWindowsOrName = new := by
      rw [← hnew, List.filter_eq_self, List.forall_mem_map]
      exact fun ws hws => List.all_eq_true.mp hfull ws hws
    show (pre ++ new ++ [Workspace.new output n₁]).filter Workspace.hasWindowsOrName = _
    rw [List.filter_append, List.filter_append, hpre, hused, List.nil_append,
      List.filter_cons_of_neg (by simp [spare_not_full (new_spare output n₁)]), List.filter_nil,
      List.append_nil, hnew]
  · have hws' : ws ∈ pre ++ new ++ [Workspace.new output n₁] := hws
    simp only [List.mem_append, List.mem_singleton] at hws'
    rcases hws' with (hpre | hin) | rfl
    · exact Or.inl (hspare ws hpre).output_eq
    · rw [← hnew] at hin
      obtain ⟨ws₀, hws₀, rfl⟩ := List.mem_map.mp hin
      exact Or.inr ⟨ws₀, hws₀, rfl⟩
    · exact Or.inl rfl
  · have hidx : (if top = true then activateIdx workspaces id + 1 else activateIdx workspaces id) =
        pre.length + activateIdx workspaces id := by
      rw [hlen]
      split <;> omega
    have hin : new[activateIdx workspaces id]? = some (ws.setOutput output) := by
      rw [← hnew, List.getElem?_map, hget]
      rfl
    show (pre ++ new ++ [Workspace.new output n₁])[if top = true then _ else _]? = _
    rw [hidx, List.append_assoc, List.getElem?_append_right (Nat.le_add_right _ _),
      Nat.add_sub_cancel_left, List.getElem?_append_left (List.getElem?_eq_some_iff.mp hin).1]
    exact hin

/-- The workspace that was remembered is activated. -/
theorem activateIdx_of_mem {workspaces : List (Workspace W)} {ws : Workspace W}
    (hnodup : (workspaces.map Workspace.id).Nodup) (hws : ws ∈ workspaces) :
    workspaces[activateIdx workspaces (some ws.id)]? = some ws := by
  rw [activateIdx]
  cases hidx : Vec.rposition workspaces fun ws' => ws'.id == ws.id with
  | none =>
    have hnone := List.findIdx?_eq_none_iff.mp (Option.map_eq_none_iff.mp hidx) ws
      (List.mem_reverse.mpr hws)
    rw [beq_self_eq_true] at hnone
    cases hnone
  | some i =>
    obtain ⟨j, hj, rfl⟩ := Option.map_eq_some_iff.mp hidx
    obtain ⟨hlt, hid, -⟩ := List.findIdx?_eq_some_iff_getElem.mp hj
    rw [List.length_reverse] at hlt
    rw [List.getElem_reverse] at hid
    have heq := List.inj_on_of_nodup_map hnodup (List.getElem_mem _) hws (beq_iff_eq.mp hid)
    rw [Option.getD_some, ← heq]
    exact List.getElem?_eq_getElem _

end Monitor

end Cidre.Workspaces
