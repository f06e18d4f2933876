/-
  Cidre.Workspaces.StripCalls

  What the layout does to the strip of one monitor keeps it in order: a window that
  is removed or put down, a workspace that is given a name, the workspaces a new
  output takes away.
-/

import Cidre.Workspaces.StripMoves
import Cidre.Workspaces.Lineage

namespace Cidre.Workspaces

open Cidre.Counter
open Cidre.Panic (Vec.insert Vec.remove)

variable {W : Type}

namespace Monitor

variable {old : List (Workspace W)} {output : Output} {n n₁ n₂ idx : Nat} {m m' : Monitor W}

/-! ## Strips in order -/

/-- The strip of `m` is in order, at the counter `n`. -/
def InOrder (m : Monitor W) (n : Nat) : Prop := Good m.workspaces m.output n m n

theorem Good.inOrder (h : Good old output n m n₁) : m.InOrder n₁ := by
  have hself := h.self
  rw [← h.output_eq] at hself
  exact hself

theorem InOrder.mono (h : m.InOrder n) (hle : n ≤ n₁) : m.InOrder n₁ :=
  { h with
    ids_lt := fun id hid => Nat.lt_of_lt_of_le (h.ids_lt id hid) hle
    le := Nat.le_refl _
    stems := fun ws hws => Or.inl ⟨ws, hws, .refl ws⟩ }

theorem Closed.later (h : Closed old output n m n₁) (hle : n₁ ≤ n₂) : Closed old output n m n₂ :=
  { h with
    ids_lt := fun id hid => Nat.lt_of_lt_of_le (h.ids_lt id hid) hle
    le := Nat.le_trans h.le hle }

theorem InOrder.withOverview (h : m.InOrder n) (isOpen : Bool) :
    { m with overviewOpen := isOpen }.InOrder n :=
  ⟨⟨⟨h.active_lt, h.nodup, h.ids_lt, h.center_lt, h.output_eq, h.le, h.stems⟩, h.last, h.first,
    h.two⟩, h.tidy⟩

/-- The strip may get more workspaces of `old`. -/
theorem InOrder.among (h : m.InOrder n) (hsub : m.workspaces ⊆ old) :
    Good old m.output n m n :=
  { h with stems := fun ws hws => Or.inl ⟨ws, hsub hws, .refl ws⟩ }

theorem InOrder.distinct (h : m.InOrder n) : Distinct m.workspaces n :=
  ⟨h.nodup, fun _ hws => h.ids_lt _ (List.mem_map_of_mem hws)⟩

/-- The workspaces of `m'` are at home where those of `m` are, or on the monitor. -/
structure Settles (m m' : Monitor W) : Prop where
  output_eq : m'.output = m.output
  homes : ∀ ws ∈ m'.workspaces, ws.originalOutput = OutputId.new m.output ∨
    ∃ ws₀ ∈ m.workspaces, ws.originalOutput = ws₀.originalOutput

theorem Settles.of_workspaces_eq (houtput : m'.output = m.output)
    (hws : m'.workspaces = m.workspaces) : m.Settles m' :=
  ⟨houtput, fun ws hmem => Or.inr ⟨ws, hws ▸ hmem, rfl⟩⟩

theorem Settles.refl (m : Monitor W) : m.Settles m := .of_workspaces_eq rfl rfl

theorem Settles.trans {m₁ : Monitor W} (h : m.Settles m₁) (h' : m₁.Settles m') : m.Settles m' := by
  refine ⟨h'.output_eq.trans h.output_eq, fun ws hws => ?_⟩
  rcases h'.homes ws hws with hown | ⟨ws₁, hws₁, heq⟩
  · rw [h.output_eq] at hown
    exact Or.inl hown
  · rw [heq]
    exact h.homes ws₁ hws₁

theorem settles_setWorkspace {ws ws' : Workspace W} (hget : m.workspaces[idx]? = some ws)
    (hhome : ws'.originalOutput = OutputId.new m.output ∨
      ws'.originalOutput = ws.originalOutput) : m.Settles (m.setWorkspace idx ws') := by
  refine ⟨rfl, fun ws₁ hws₁ => ?_⟩
  rcases List.mem_or_eq_of_mem_set hws₁ with hmem | rfl
  · exact Or.inr ⟨ws₁, hmem, rfl⟩
  · exact hhome.imp_right fun heq => ⟨ws, List.mem_of_getElem? hget, heq⟩

theorem Tracked.settles (h : Tracked m.workspaces output n m' n₁) (houtput : m.output = output) :
    m.Settles m' := by
  subst houtput
  refine ⟨h.output_eq, fun ws hws => ?_⟩
  rcases h.stems ws hws with ⟨ws₀, hmem, hfollows⟩ | ⟨-, -, hown⟩
  · exact hfollows.output_eq.imp_right fun heq => ⟨ws₀, hmem, heq⟩
  · exact Or.inl hown

/-- `m'`, at the counter `n'`, is in order, and is what has become of `m`. -/
structure Since (m : Monitor W) (n : Nat) (m' : Monitor W) (n' : Nat) : Prop where
  le : n ≤ n'
  inOrder : m'.InOrder n'
  settles : m.Settles m'

/-- `f` keeps a strip in order, and fails no assertion of its own. -/
def KeepsOrder (f : Monitor W → Counted (Monitor W)) : Prop :=
  ∀ m n, m.InOrder n → Safe (f m) n (Since m n)

theorem InOrder.since (h : m.InOrder n) : Since m n m n := ⟨Nat.le_refl n, h, .refl m⟩

theorem Good.since (h : Good m.workspaces m.output n m' n₁) : Since m n m' n₁ :=
  ⟨h.le, h.inOrder, h.settles rfl⟩

theorem keepsOrder_of_safe {f : Monitor W → Counted (Monitor W)}
    (hf : ∀ m n, m.InOrder n → Safe (f m) n (Good m.workspaces m.output n)) : KeepsOrder f :=
  fun m n h => (hf m n h).mono fun _ _ h' => h'.since

theorem eq_of_id_eq (h : m.ids.Nodup) {i j : Nat} {a b : Workspace W}
    (hi : m.workspaces[i]? = some a) (hj : m.workspaces[j]? = some b) (hid : a.id = b.id) :
    i = j := by
  have hi' : m.ids[i]? = some a.id := by
    rw [ids, List.getElem?_map, hi]
    rfl
  have hj' : m.ids[j]? = some b.id := by
    rw [ids, List.getElem?_map, hj]
    rfl
  have hlt : i < m.ids.length := (List.getElem?_eq_some_iff.mp hi').1
  refine (List.getElem?_inj hlt h).mp ?_
  rw [hi', hj', hid]

/-! ## Windows -/

theorem TidyBut.set (h : m.TidyBut idx) (ws : Workspace W) :
    (m.setWorkspace idx ws).TidyBut idx := by
  intro i ws' hget hne hactive hlt hpos
  replace hget : (m.workspaces.set idx ws)[i]? = some ws' := hget
  replace hlt : i + 1 < (m.workspaces.set idx ws).length := hlt
  rw [List.getElem?_set_ne (Ne.symm hne)] at hget
  rw [List.length_set] at hlt
  exact h i ws' hget hne hactive hlt hpos

/-- A workspace inside the strip is taken out, and the active one stays active. -/
theorem TidyBut.erase (h : m.TidyBut idx) (hlt : idx + 1 < m.workspaces.length) {active : Nat}
    (hactive : m.activeWorkspaceIdx ≠ idx →
      active = if idx < m.activeWorkspaceIdx then m.activeWorkspaceIdx - 1
        else m.activeWorkspaceIdx) :
    { m with workspaces := m.workspaces.eraseIdx idx, activeWorkspaceIdx := active }.Tidy := by
  intro i ws hget hne hilt hipos
  replace hget : (m.workspaces.eraseIdx idx)[i]? = some ws := hget
  replace hne : i ≠ active := hne
  replace hilt : i + 1 < (m.workspaces.eraseIdx idx).length := hilt
  replace hipos : m.above = true → 0 < i := hipos
  rw [List.length_eraseIdx_of_lt (by omega)] at hilt
  rw [List.getElem?_eraseIdx] at hget
  split at hget
  · next hi =>
    refine h i ws hget (by omega) ?_ (by omega) hipos
    rintro rfl
    have := hactive (by omega)
    rw [if_neg (by omega)] at this
    exact hne this.symm
  · next hi =>
    refine h (i + 1) ws hget (by omega) ?_ (by omega) fun _ => Nat.succ_pos i
    intro heq
    have := hactive (by omega)
    rw [if_pos (by omega)] at this
    omega

/-- A strip that is tidy but for a workspace that is in use. -/
theorem Closed.good (h : Closed old output n m n₁) {idx : Nat} {ws : Workspace W}
    (htidy : m.workspaceSwitch = none → m.TidyBut idx) (hget : m.workspaces[idx]? = some ws)
    (huse : idx = m.activeWorkspaceIdx ∨ ws.hasWindowsOrName = true) : Good old output n m n₁ := by
  refine ⟨h, fun hnone i ws' hi hne hlt hpos => ?_⟩
  by_cases heq : i = idx
  · subst heq
    obtain rfl := Option.some.inj (hget.symm.trans hi)
    exact huse.resolve_left hne
  · exact htidy hnone i ws' hi heq hne hlt hpos

/-- A window is taken out of a workspace. -/
theorem removeWindowAt_safe [DecidableEq W] (h : Good old output n m n₁) {ws : Workspace W}
    (hget : m.workspaces[idx]? = some ws) {window : W} (hmem : window ∈ ws.windows) :
    Safe (Layout.removeWindowAt window idx m) n₁ (Good old output n) := by
  have hfull := full_of_mem hmem
  have hfollows : ws.Follows m.output (ws.removeTile window) := ⟨rfl, Or.inr rfl, Or.inr rfl⟩
  obtain ⟨hlast, hfirst⟩ := h.inside_of_full hget hfull
  have hlt : idx < m.workspaces.length := (List.getElem?_eq_some_iff.mp hget).1
  have hactive := h.active_lt
  have hpos : m.above = true → 0 < idx := fun habove => Nat.pos_of_ne_zero (hfirst habove)
  have hclosed := h.toClosed.setInside hget hfull hfollows
  have hbut : m.workspaceSwitch = none → (m.setWorkspace idx (ws.removeTile window)).TidyBut idx :=
    fun hnone => ((h.tidy hnone).but idx).set _
  have hlen : (m.setWorkspace idx (ws.removeTile window)).workspaces.length =
      m.workspaces.length := List.length_set
  refine safe_bounds_bind hget ?_
  dsimp only
  split
  · next hdrop =>
    simp only [Bool.and_eq_true, Bool.not_eq_true', bne_iff_ne, Option.isNone_iff_eq_none] at hdrop
    obtain ⟨⟨⟨-, hne⟩, -⟩, hnone⟩ := hdrop
    replace hne : idx ≠ m.activeWorkspaceIdx := hne
    refine safe_applyIf (fun _ => ?_) (fun hsome => ?_)
    · refine (mergeEnds_safe (hclosed.toTracked.erase (by omega) ?_ hnone) hnone
        (lastOf_eraseIdx hclosed.last (by omega))
        (fun habove => firstOf_eraseIdx (hclosed.first habove) (hpos habove)) ?_).mono
          fun _ _ hgood => hgood.1
      · show (if idx < m.activeWorkspaceIdx then m.activeWorkspaceIdx - 1
          else m.activeWorkspaceIdx) + 1 < _
        split <;> omega
      · exact (hbut hnone).erase (by omega) fun _ => rfl
    · replace hsome : m.workspaceSwitch.isNone = false := hsome
      rw [show m.workspaceSwitch = none from hnone] at hsome
      cases hsome
  · next hkeep =>
    refine safe_applyIf (fun hnone => ?_) (fun hsome => ⟨hclosed, fun hnone => ?_⟩)
    · have hswitch : m.workspaceSwitch = none := Option.isNone_iff_eq_none.mp hnone
      have huse : idx = m.activeWorkspaceIdx ∨
          (ws.removeTile window).hasWindowsOrName = true := by
        by_contra hnot
        obtain ⟨hne, hempty⟩ := not_or.mp hnot
        refine hkeep ?_
        simp only [Bool.and_eq_true, Bool.not_eq_true', bne_iff_ne]
        exact ⟨⟨⟨by simpa using hempty, hne⟩, by rw [hlen]; exact hlast⟩, hnone⟩
      have hgood := hclosed.good hbut (List.getElem?_set_self hlt) huse
      exact (mergeEnds_safe hclosed.toTracked hswitch hclosed.last hclosed.first
        (hgood.tidy hswitch)).mono fun _ _ hgood => hgood.1
    · replace hsome : m.workspaceSwitch.isNone = false := hsome
      rw [show m.workspaceSwitch = none from hnone] at hsome
      cases hsome

/-- A window is added to the one workspace that may be empty. -/
theorem addTileAt_safe [DecidableEq W] (h : Closed old output n m n₁)
    (htidy : m.workspaceSwitch = none → m.TidyBut idx) {ws : Workspace W}
    (hget : m.workspaces[idx]? = some ws) (tile : W) (activate : ActivateWindow) (allow : Bool) :
    Safe (m.addTile tile (.workspace ws.id) activate allow) n₁ (Good old output n) := by
  refine safe_lookup_bind fun idx' hidx' => ?_
  obtain ⟨hlt, hid, -⟩ := List.findIdx?_eq_some_iff_getElem.mp hidx'
  obtain rfl : idx' = idx :=
    eq_of_id_eq h.nodup (List.getElem?_eq_getElem hlt) hget (beq_iff_eq.mp hid)
  exact (addWindows_closed h hlt (List.cons_ne_nil tile []) _).mono
    fun _ _ hclosed => ⟨hclosed.1, hclosed.2 htidy⟩

/-- The workspace a moved tile goes to is the one that may be empty. -/
theorem insertTarget_safe (h : Good old output n m n₁) (insertWs : InsertWorkspace) :
    Safe (Layout.insertTarget m insertWs) n₁ fun p n₂ =>
      Closed old output n p.1 n₂ ∧ p.2 < p.1.workspaces.length ∧
        (p.1.workspaceSwitch = none → p.1.TidyBut p.2) := by
  have hactive := h.active_lt
  have hsame : ∀ {idx : Nat}, idx < m.workspaces.length → Closed old output n m n₁ ∧
      idx < m.workspaces.length ∧ (m.workspaceSwitch = none → m.TidyBut idx) :=
    fun hidx => ⟨h.toClosed, hidx, fun hnone => (h.tidy hnone).but _⟩
  cases insertWs with
  | existing id =>
    exact safe_lookup_bind fun idx hidx => safe_pure (hsame (lt_of_findIdx? hidx))
  | newAt idx =>
    refine safe_early (hsame (by omega)) fun hfirst => ?_
    refine safe_early (hsame (by omega)) fun hlast => ?_
    refine (addWorkspaceAt_safe h.toTracked (by omega)).bind ?_
    rintro m₁ n₂ ⟨h₁, hins⟩
    have habove : m₁.above = m.above := by rw [above, hins.options_eq]
    have hlen := List.length_insertIdx_of_le_length (show idx ≤ m.workspaces.length by omega)
      (Workspace.new m.output n₁)
    have hlen₁ : m₁.workspaces.length = m.workspaces.length + 1 := by
      rw [hins.workspaces_eq, hlen]
    refine safe_pure ⟨⟨h₁, ?_, fun hm₁ => ?_, fun hm₁ => ?_⟩, ?_, fun hnone => ?_⟩
    · rw [LastSpare, hins.workspaces_eq, hins.output_eq]
      exact lastOf_insertIdx h.last (by omega) _
    · rw [habove] at hm₁
      rw [FirstSpare, hins.workspaces_eq, hins.output_eq]
      refine firstOf_insertIdx (h.first hm₁) (Nat.pos_of_ne_zero fun hzero => ?_) _
      exact hfirst ⟨hm₁, hzero⟩
    · show m₁.workspaces.length ≠ 2
      omega
    · show idx < m₁.workspaces.length
      omega
    · intro i ws hget hne hnactive hlt hpos
      replace hne : i ≠ idx := hne
      replace hlt : i + 1 < m₁.workspaces.length := hlt
      replace hnactive : i ≠ m₁.activeWorkspaceIdx := hnactive
      rw [hins.active_eq] at hnactive
      rw [habove] at hpos
      rw [hins.workspaces_eq] at hget
      rcases Nat.lt_or_gt_of_ne hne with hi | hi
      · rw [List.getElem?_insertIdx_of_lt hi] at hget
        refine h.tidy (hins.switch_none.mp hnone) i ws hget ?_ (by omega) hpos
        split at hnactive <;> omega
      · rw [List.getElem?_insertIdx_of_gt hi] at hget
        refine h.tidy (hins.switch_none.mp hnone) (i - 1) ws hget ?_ (by omega) fun hm => ?_
        · split at hnactive <;> omega
        · have hzero : idx ≠ 0 := fun hzero => hfirst ⟨hm, hzero⟩
          omega

/-- The moved tile is put down. -/
theorem insertMoved_safe [DecidableEq W] (c : Readings W) (h : Good old output n m n₁) (window : W)
    (isFloating allow : Bool) (insertWs : InsertWorkspace) :
    Safe (Layout.insertMoved c window isFloating allow insertWs m) n₁ (Good old output n) := by
  refine (insertTarget_safe h insertWs).bind ?_
  rintro ⟨m₁, idx⟩ n₂ ⟨h₁, hidx, hbut⟩
  have hget : m₁.workspaces[idx]? = some m₁.workspaces[idx] := List.getElem?_eq_getElem hidx
  refine safe_bounds_bind hget ?_
  refine safe_ite (fun hcolumn => ?_) (fun _ => addTileAt_safe h₁ hbut hget window _ _)
  simp only [Bool.and_eq_true] at hcolumn
  have hwindows : m₁.workspaces[idx].windows ≠ [] := by
    intro hnil
    have hhas := hcolumn.1.2
    rw [Workspace.hasWindows, hnil] at hhas
    cases hhas
  obtain ⟨w, hw⟩ := List.exists_mem_of_ne_nil _ hwindows
  exact addTileToColumn_safe (h₁.good hbut hget (Or.inr (full_of_mem hw))) hget hwindows window _ _

/-! ## Names -/

theorem any_id_eq (h : m.ids.Nodup) {ws : Workspace W} (hget : m.workspaces[idx]? = some ws)
    (i : Nat) : (m.workspaces[i]?.any fun ws' => ws'.id == ws.id) = (idx == i) := by
  rw [Bool.eq_iff_iff, Option.any_eq_true, beq_iff_eq]
  refine ⟨?_, ?_⟩
  · rintro ⟨ws', hi, hid⟩
    exact (eq_of_id_eq h hi hget (beq_iff_eq.mp hid)).symm
  · rintro rfl
    exact ⟨ws, hget, beq_self_eq_true ws.id⟩

/-- The workspace that got a name has an empty one beside it, where it was at an end. -/
theorem surroundNamed_safe (h : Tracked old output n m n₁) {ws : Workspace W}
    (hget : m.workspaces[idx]? = some ws) :
    Safe (Layout.surroundNamed ws.id m) n₁ fun m' n₂ =>
      Tracked old output n m' n₂ ∧ Surrounded m idx idx m' := by
  have hactive := h.active_lt
  rw [Layout.surroundNamed, List.head?_eq_getElem?, any_id_eq h.nodup hget 0]
  refine (addTop_safe h (m.above && idx == 0)).bind ?_
  rintro m₁ n₂ ⟨h₁, htop⟩
  have hlast : (m₁.workspaces.getLast?.any fun ws' => ws'.id == ws.id) =
      (idx == m.workspaces.length - 1) := by
    obtain ⟨pre, hws, -, -⟩ := htop.workspaces_eq
    rw [hws, List.getLast?_append_of_ne_nil _ (List.ne_nil_of_length_pos (by omega)),
      List.getLast?_eq_getElem?]
    exact any_id_eq h.nodup hget _
  rw [hlast]
  refine (addBottom_safe h₁ (idx == m.workspaces.length - 1)).mono ?_
  rintro m₂ n₃ ⟨h₂, hbottom⟩
  exact ⟨h₂, htop.surrounded hbottom⟩

/-- No workspace of the strip is the one that got a name. -/
theorem surroundNamed_of_not_mem {id : WorkspaceId} (h : id ∉ m.ids) :
    Layout.surroundNamed id m = pure m := by
  have hnone : ∀ ws ∈ m.workspaces, (ws.id == id) = false := by
    intro ws hws
    rw [beq_eq_false_iff_ne]
    rintro rfl
    exact h (List.mem_map_of_mem hws)
  have hhead : (m.workspaces.head?.any fun ws => ws.id == id) = false := by
    rw [Option.any_eq_false]
    exact fun ws hws => by simpa using hnone ws (List.mem_of_mem_head? hws)
  have hlast : (m.workspaces.getLast?.any fun ws => ws.id == id) = false := by
    rw [Option.any_eq_false]
    exact fun ws hws => by simpa using hnone ws (List.mem_of_mem_getLast? hws)
  rw [Layout.surroundNamed, hhead, Bool.and_false]
  show applyIf _ _ m = _
  rw [hlast]
  rfl

theorem rename_full (ws : Workspace W) (name : String) :
    (ws.rename name).hasWindowsOrName = true := by
  simp [Workspace.rename, Workspace.hasWindowsOrName]

/-- A workspace that got a name was surrounded. -/
theorem InOrder.named (h : m.InOrder n) {ws : Workspace W} (hget : m.workspaces[idx]? = some ws)
    {name : String} (h' : Tracked (m.setWorkspace idx (ws.rename name)).workspaces m.output n m' n₁)
    (hs : Surrounded (m.setWorkspace idx (ws.rename name)) idx idx m') : Since m n m' n₁ := by
  have hlt : idx < m.workspaces.length := (List.getElem?_eq_some_iff.mp hget).1
  obtain ⟨hclosed, htidy, -⟩ := h.toClosed.filled hlt (rename_full ws name) h' hs
  have hgood : Good (m.setWorkspace idx (ws.rename name)).workspaces m.output n m' n₁ :=
    ⟨hclosed, htidy fun hnone => (h.tidy hnone).but idx⟩
  have hrenamed : m.Settles (m.setWorkspace idx (ws.rename name)) :=
    settles_setWorkspace hget (Or.inr rfl)
  exact ⟨h'.le, hgood.inOrder, hrenamed.trans (h'.settles rfl)⟩

/-- A workspace gets a name where the end of the call looks for it. -/
theorem rename_safe (h : m.InOrder n) {ws : Workspace W} (hget : m.workspaces[idx]? = some ws)
    (name : String) :
    Safe (Layout.surroundNamed ws.id (m.setWorkspace idx (ws.rename name))) n (Since m n) := by
  have hlt : idx < m.workspaces.length := (List.getElem?_eq_some_iff.mp hget).1
  have hreplaced : Tracked (m.setWorkspace idx (ws.rename name)).workspaces m.output n
      (m.setWorkspace idx (ws.rename name)) n := h.toTracked.replace hget rfl
  refine (surroundNamed_safe hreplaced (List.getElem?_set_self hlt)).mono ?_
  rintro m' n' ⟨h', hs⟩
  exact h.named hget h' hs

/-- A workspace between the ends of the strip gets a name. -/
theorem InOrder.renameInside (h : m.InOrder n) {ws : Workspace W}
    (hget : m.workspaces[idx]? = some ws) (hlast : idx ≠ m.workspaces.length - 1)
    (hfirst : m.above = true → idx ≠ 0) (name : String) :
    (m.setWorkspace idx (ws.rename name)).InOrder n := by
  have hlt : idx < m.workspaces.length := (List.getElem?_eq_some_iff.mp hget).1
  have hlen : (m.setWorkspace idx (ws.rename name)).workspaces.length = m.workspaces.length :=
    List.length_set
  have hclosed : Closed (m.setWorkspace idx (ws.rename name)).workspaces m.output n
      (m.setWorkspace idx (ws.rename name)) n := by
    refine ⟨h.toTracked.replace hget rfl, lastOf_set h.last hlast _, ?_, ?_⟩
    · exact fun habove => firstOf_set (h.first habove) (hfirst habove) _
    · rw [hlen]
      exact h.two
  exact hclosed.good (fun hnone => ((h.tidy hnone).but idx).set _) (List.getElem?_set_self hlt)
    (Or.inr (rename_full ws name))

/-- The last workspace gets a name, and is not the last one any more. -/
theorem nameLast_safe (h : m.InOrder n) (name : String) :
    Safe (Layout.nameLast name m) n fun p n' => Since m n p.1 n' := by
  have hactive := h.active_lt
  obtain ⟨ws, hget, hspare⟩ := h.last
  have hreplaced : Tracked (m.setWorkspace (m.workspaces.length - 1) (ws.rename name)).workspaces
      m.output n (m.setWorkspace (m.workspaces.length - 1) (ws.rename name)) n :=
    h.toTracked.replace hget rfl
  have hlen : (m.setWorkspace (m.workspaces.length - 1) (ws.rename name)).workspaces.length =
      m.workspaces.length := List.length_set
  refine safe_ite (fun hnil => absurd (congrArg List.length hnil) ?_) (fun _ => ?_)
  · show m.workspaces.length ≠ 0
    omega
  refine safe_bounds_bind hget ?_
  rw [spare_not_full hspare]
  have hskip : Safe (applyIf false addWorkspaceBottom m) n fun m₁ n₁ => m₁ = m ∧ n₁ = n :=
    safe_pure ⟨rfl, rfl⟩
  refine hskip.bind ?_
  rintro _ _ ⟨rfl, rfl⟩
  refine safe_bounds_bind hget ?_
  refine Safe.bind (x := Monitor.addWorkspaceBottom _) (addBottom_safe hreplaced true) ?_
  rintro m₁ n₁ ⟨h₁, hbottom⟩
  refine (addTop_safe h₁ _).bind ?_
  rintro m₂ n₂ ⟨h₂, htop⟩
  refine safe_pure (h.named hget h₂ (Bottomed.surrounded ?_ htop))
  rw [hlen, beq_self_eq_true]
  exact hbottom

/-- A workspace becomes the monitor's own. -/
theorem InOrder.own (h : m.InOrder n) {ws : Workspace W} (hget : m.workspaces[idx]? = some ws) :
    (m.setWorkspace idx { ws with originalOutput := OutputId.new m.output }).InOrder n := by
  have hlt : idx < m.workspaces.length := (List.getElem?_eq_some_iff.mp hget).1
  generalize hown : { ws with originalOutput := OutputId.new m.output } = own
  have hfollows : ws.Follows m.output own := by
    rw [← hown]
    exact ⟨rfl, Or.inr rfl, Or.inl rfl⟩
  have hspare : ws.Spare m.output → own.Spare m.output := by
    rw [← hown]
    exact fun hspare => ⟨hspare.windows_eq, hspare.name_eq, rfl⟩
  have hfull : own.hasWindowsOrName = ws.hasWindowsOrName := by
    rw [← hown]
    rfl
  have hself : (m.workspaces.set idx own)[idx]? = some own := List.getElem?_set_self hlt
  have hlen : (m.workspaces.set idx own).length = m.workspaces.length := List.length_set
  have hgood : Good m.workspaces m.output n (m.setWorkspace idx own) n := by
    refine ⟨⟨h.toTracked.setWorkspace hget hfollows, ?_, fun habove => ?_, fun habove => ?_⟩, ?_⟩
    · by_cases heq : idx = m.workspaces.length - 1
      · obtain ⟨last, hlast, hws⟩ := h.last
        obtain rfl : ws = last := Option.some.inj (by rw [← hget, heq, hlast])
        refine ⟨own, ?_, hspare hws⟩
        show (m.workspaces.set idx own)[(m.workspaces.set idx own).length - 1]? = some own
        rw [hlen, ← heq]
        exact hself
      · exact lastOf_set h.last heq own
    · by_cases heq : idx = 0
      · obtain ⟨first, hfirst, hws⟩ := h.first habove
        obtain rfl : ws = first := Option.some.inj (by rw [← hget, heq, hfirst])
        exact ⟨own, heq ▸ hself, hspare hws⟩
      · exact firstOf_set (h.first habove) heq own
    · show (m.workspaces.set idx own).length ≠ 2
      rw [hlen]
      exact h.two habove
    · intro hnone i ws' hi hne hilt hpos
      replace hi : (m.workspaces.set idx own)[i]? = some ws' := hi
      replace hilt : i + 1 < (m.workspaces.set idx own).length := hilt
      rw [hlen] at hilt
      by_cases heq : idx = i
      · subst heq
        obtain rfl := Option.some.inj (hself.symm.trans hi)
        rw [hfull]
        exact h.tidy hnone idx ws hget hne hilt hpos
      · rw [List.getElem?_set_ne heq] at hi
        exact h.tidy hnone i ws' hi hne hilt hpos
  exact hgood.inOrder

/-! ## A drag held over a workspace -/

theorem rememberActive_workspaces (m : Monitor W) (idx n : Nat) :
    Yields (m.rememberActive idx) n fun m' _ => m'.workspaces = m.workspaces := by
  rw [rememberActive]
  exact yields_ite (fun _ => yields_bounds_bind fun _ _ => yields_pure rfl) fun _ => yields_pure rfl

theorem workspaceSwitchGestureEnd_workspaces (c : Contents W) (m : Monitor W)
    (isTouchpad : Option Bool) (n : Nat) :
    Yields (m.workspaceSwitchGestureEnd c isTouchpad) n
      fun p _ => p.1.workspaces = m.workspaces := by
  rw [workspaceSwitchGestureEnd]
  split
  · next g _ =>
    refine yields_early rfl fun _ => ?_
    have hclamp : Yields (clamp (g.startIdx + c.gesturePos m) (g.minMax m.workspaces.length)) n
        fun _ _ => True := fun _ _ _ => trivial
    refine hclamp.bind fun x n₁ _ => ?_
    exact (rememberActive_workspaces m _ n₁).bind fun m₁ _ h => yields_pure h
  · exact yields_pure rfl

theorem dndScrollGestureEnd_workspaces (c : Contents W) (m : Monitor W) (n : Nat) :
    Yields (m.dndScrollGestureEnd c) n fun m' _ => m'.workspaces = m.workspaces := by
  rw [dndScrollGestureEnd]
  refine yields_ite (fun _ => ?_) (fun _ => yields_pure rfl)
  exact (workspaceSwitchGestureEnd_workspaces c m none n).bind fun _ _ h => yields_pure h

/-- The workspace the drag was held over is activated once the drag has ended. -/
theorem holdOver_safe [DecidableEq W] (c : Readings W) (target : DndHoldTarget W)
    (h : Good old output n m n₁) : Safe (Layout.holdOver c target m) n₁ (Good old output n) := by
  refine safe_lookup_bind fun idx hidx => ?_
  have hended := (dndScrollGestureEnd_safe c.toContents h).and_yields
    (dndScrollGestureEnd_workspaces c.toContents m n₁)
  refine hended.bind ?_
  rintro m₁ n₂ ⟨h₁, hws⟩
  refine activateWorkspace_safe h₁ ?_
  rw [hws]
  exact lt_of_findIdx? hidx

/-! ## Workspaces that go to a new output -/

/-- In the middle of the loop: the workspaces below `i` of the primary monitor, which
    was `m`, are still to be looked at. -/
structure Reclaiming (m : Monitor W) (n i : Nat) (r : Layout.Reclaim W) : Prop where
  tracked : Tracked m.workspaces m.output n r.primary n
  last : r.primary.LastSpare
  first : r.primary.above = true → r.primary.FirstSpare
  le : i ≤ r.primary.workspaces.length
  full : ∀ ws ∈ r.workspaces, ws.hasWindowsOrName = true
  stopped : r.stoppedPrimaryWsSwitch = true → r.primary.workspaceSwitch = none
  tidy : r.stoppedPrimaryWsSwitch = false → r.primary.workspaceSwitch = none → r.primary.Tidy
  two : r.stoppedPrimaryWsSwitch = false → r.primary.workspaceSwitch ≠ none →
    r.primary.above = true → r.primary.workspaces.length ≠ 2

/-- The empty workspaces of a monitor are its own. -/
theorem Workspace.Spare.stays {output output' : Output} {ws : Workspace W} (h : ws.Spare output')
    (hother : (OutputId.new output').isOf output = false) :
    ws.originalOutput.isOf output = false := by
  rw [h.output_eq]
  exact hother

theorem reclaimAt_safe {r : Layout.Reclaim W} {i : Nat} (output : Output)
    (hother : (OutputId.new m.output).isOf output = false) (h : Reclaiming m n (i + 1) r) :
    Safe (Layout.reclaimAt output i r) n fun r' n' => n' = n ∧ Reclaiming m n i r' := by
  have hle := h.le
  have hactive := h.tracked.active_lt
  have hget : r.primary.workspaces[i]? = some r.primary.workspaces[i] :=
    List.getElem?_eq_getElem (by omega)
  refine safe_bounds_bind hget ?_
  refine safe_ite (fun hof => ?_) (fun _ => safe_pure ⟨rfl, { h with le := by omega }⟩)
  rw [← h.tracked.output_eq] at hother
  have hlast : i + 1 < r.primary.workspaces.length := by
    obtain ⟨ws, hws, hspare⟩ := h.last
    by_contra hnot
    obtain rfl : r.primary.workspaces.length - 1 = i := by omega
    obtain rfl := Option.some.inj (hget.symm.trans hws)
    rw [Workspace.Spare.stays hspare hother] at hof
    cases hof
  have hfirst : r.primary.above = true → 0 < i := by
    intro habove
    obtain ⟨ws, hws, hspare⟩ := h.first habove
    refine Nat.pos_of_ne_zero ?_
    rintro rfl
    obtain rfl := Option.some.inj (hget.symm.trans hws)
    rw [Workspace.Spare.stays hspare hother] at hof
    cases hof
  have hremove : Vec.remove r.primary.workspaces i =
      some (r.primary.workspaces[i], r.primary.workspaces.eraseIdx i) := by
    rw [Vec.remove, hget]
    rfl
  refine safe_bounds_bind hremove ?_
  have hlen := List.length_eraseIdx_of_lt (l := r.primary.workspaces) (i := i) (by omega)
  -- The first workspace of a strip that has an empty one above is not among these.
  have hspecial : r.primary.above = true ∧ r.primary.activeWorkspaceIdx = 1 → 0 < i :=
    fun hspecial => hfirst hspecial.1
  have hnew : (if i ≤ r.primary.activeWorkspaceIdx ∧
      ¬ (r.primary.above = true ∧ r.primary.activeWorkspaceIdx = 1)
      then r.primary.activeWorkspaceIdx - 1 else r.primary.activeWorkspaceIdx) + 1 <
        r.primary.workspaces.length := by
    by_cases hone : r.primary.above = true ∧ r.primary.activeWorkspaceIdx = 1
    · rw [if_neg (fun hcond => hcond.2 hone), hone.2]
      have := hspecial hone
      omega
    · by_cases hi : i ≤ r.primary.activeWorkspaceIdx
      · rw [if_pos ⟨hi, hone⟩]
        omega
      · rw [if_neg fun hcond => hi hcond.1]
        omega
  refine safe_pure ⟨rfl, ?_, lastOf_eraseIdx h.last hlast,
    fun habove => firstOf_eraseIdx (h.first habove) (hfirst habove), ?_, ?_,
    fun _ => rfl, fun hstopped _ => ?_, fun _ hsome => absurd rfl hsome⟩
  · exact (h.tracked.stopped hactive r.primary.previousWorkspaceId).erase
      (show i < r.primary.workspaces.length by omega) hnew rfl
  · show i ≤ (r.primary.workspaces.eraseIdx i).length
    omega
  · intro ws hws
    dsimp only at hws
    split at hws
    · next hfull =>
      rcases List.mem_cons.mp hws with rfl | hws
      · exact hfull
      · exact h.full ws hws
    · exact h.full ws hws
  · obtain ⟨hr, hsome⟩ := Bool.or_eq_false_iff.mp hstopped
    have hnone : r.primary.workspaceSwitch = none := by simpa using hsome
    refine ((h.tidy hr hnone).but i).erase hlast fun hne => ?_
    by_cases hone : r.primary.above = true ∧ r.primary.activeWorkspaceIdx = 1
    · rw [if_neg (fun hcond => hcond.2 hone), if_neg]
      have := hspecial hone
      omega
    · by_cases hlt : i < r.primary.activeWorkspaceIdx
      · rw [if_pos ⟨Nat.le_of_lt hlt, hone⟩, if_pos hlt]
      · rw [if_neg (fun hcond => hne (by omega)), if_neg hlt]

theorem reclaimFrom_safe (output : Output)
    (hother : (OutputId.new m.output).isOf output = false) :
    ∀ {i : Nat} {r : Layout.Reclaim W}, Reclaiming m n i r →
      Safe (Layout.reclaimFrom output i r) n fun r' n' => n' = n ∧ Reclaiming m n 0 r'
  | 0, _, h => safe_pure ⟨rfl, h⟩
  | i + 1, r, h => by
      refine (reclaimAt_safe output hother h).bind ?_
      rintro r₁ n₁ ⟨hn, h₁⟩
      rw [hn]
      exact reclaimFrom_safe output hother h₁

/-- What the new output does not take away is in order again. -/
theorem reclaim_safe (output : Output) (hother : (OutputId.new m.output).isOf output = false)
    (h : m.InOrder n) :
    Safe (Layout.reclaim output m) n fun p n' =>
      n ≤ n' ∧ p.2.InOrder n' ∧ ∀ ws ∈ p.1, ws.hasWindowsOrName = true := by
  have hstart : Reclaiming m n m.workspaces.length ⟨m, [], false⟩ :=
    ⟨h.toTracked, h.last, h.first, Nat.le_refl _, by simp, by simp, fun _ => h.tidy,
      fun _ _ => h.two⟩
  refine (reclaimFrom_safe output hother hstart).bind ?_
  rintro r n₁ ⟨hn, hr⟩
  rw [hn]
  have hclean : Safe (applyIf (r.stoppedPrimaryWsSwitch ||
      (r.primary.above && r.primary.workspaces.length == 2)) cleanUpWorkspaces r.primary) n
      (Good m.workspaces m.output n) := by
    refine safe_applyIf (fun hcond => ?_) (fun hcond => ?_)
    · have hnone : r.primary.workspaceSwitch = none := by
        rcases Bool.eq_false_or_eq_true r.stoppedPrimaryWsSwitch with hstopped | hstopped
        · exact hr.stopped hstopped
        · rw [hstopped, Bool.false_or, Bool.and_eq_true, beq_iff_eq] at hcond
          by_contra hsome
          exact hr.two hstopped hsome hcond.1 hcond.2
      exact (cleanUpWorkspaces_safe hr.tracked hnone hr.last hr.first).mono
        fun _ _ hgood => hgood.1
    · obtain ⟨hstopped, htwo⟩ := Bool.or_eq_false_iff.mp hcond
      refine ⟨⟨hr.tracked, hr.last, hr.first, fun habove hlen => ?_⟩, hr.tidy hstopped⟩
      rw [habove, hlen] at htwo
      cases htwo
  refine hclean.bind fun primary n' hgood => ?_
  exact safe_pure ⟨hgood.le, hgood.inOrder, hr.full⟩

end Monitor

end Cidre.Workspaces
