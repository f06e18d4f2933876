/-
  Cidre.Ui.MruJumps

  Previews that stay visible stay where they are on the screen while others come and go:
  the view and the moving previews make up for the room that is taken and left.

  Where a window that is filtered out is removed, all of them jump by its room
  (`noJump_iff`).
-/

import Mathlib.Algebra.BigOperators.Group.List.Basic
import Mathlib.Data.List.TakeWhile
import Mathlib.Tactic.Linarith
import Mathlib.Tactic.Ring
import Cidre.Ui.MruStrip

namespace Cidre.Ui

open Cyclic Partial

namespace Inner

variable {i : Inner} {t : Thumbnail} {l l₁ l₂ : List Thumbnail}

/-! ## Positions -/

/-- The room that the thumbnails with `p` take. -/
def total (i : Inner) (p : Thumbnail → Bool) (l : List Thumbnail) : ℚ :=
  ((l.filter p).map i.room).sum

@[simp] theorem total_nil (i : Inner) (p : Thumbnail → Bool) : i.total p [] = 0 := rfl

theorem total_cons (i : Inner) (p : Thumbnail → Bool) (t : Thumbnail) (l : List Thumbnail) :
    i.total p (t :: l) = (if p t then i.room t else 0) + i.total p l := by
  unfold total
  cases h : p t <;> simp [h]

theorem total_append (i : Inner) (p : Thumbnail → Bool) (l₁ l₂ : List Thumbnail) :
    i.total p (l₁ ++ l₂) = i.total p l₁ + i.total p l₂ := by
  simp [total]

theorem total_reverse (i : Inner) (p : Thumbnail → Bool) (l : List Thumbnail) :
    i.total p l.reverse = i.total p l := by
  unfold total
  rw [List.filter_reverse, List.map_reverse, List.sum_reverse]

theorem find?_placeFrom (x : ℚ) (h : ∀ u ∈ l₁, u.id ≠ t.id) :
    (i.placeFrom x (l₁ ++ t :: l₂)).find? (fun p => p.1.id == t.id) =
      some (t, ⟨x + (l₁.map i.room).sum, i.previewWidth t⟩) := by
  induction l₁ generalizing x with
  | nil => simp [placeFrom]
  | cons u l₁ ih =>
    have hu := h u List.mem_cons_self
    have hrest := ih (x + i.room u) fun v hv => h v (List.mem_cons_of_mem u hv)
    rw [List.cons_append, placeFrom, List.find?_cons_of_neg (by simpa using hu), hrest]
    simp [add_assoc]

theorem mem_of_mem_placeFrom {x : ℚ} {p : Thumbnail × Span} (h : p ∈ i.placeFrom x l) :
    p.1 ∈ l := by
  induction l generalizing x with
  | nil => cases h
  | cons u l ih =>
    rcases List.mem_cons.mp h with rfl | h
    · exact List.mem_cons_self
    · exact List.mem_cons_of_mem u (ih h)

/-- Only visible thumbnails are on the strip. -/
theorem mem_visible_of_screenX {id : ℕ} {x : ℚ} (h : i.screenX id = some x) :
    ∃ t ∈ i.wmru.visible, t.id = id := by
  obtain ⟨p, hfind, -⟩ := Option.map_eq_some_iff.mp h
  have hid := List.find?_some hfind
  exact ⟨p.1, mem_of_mem_placeFrom (List.mem_of_find?_eq_some hfind), by simpa using hid⟩

theorem screenX_of_visible (hnodup : (i.wmru.visible.map Thumbnail.id).Nodup)
    (hsplit : i.wmru.visible = l₁ ++ t :: l₂) :
    i.screenX t.id = some ((l₁.map i.room).sum - i.viewPos.current +
      renderOffset (i.moveAnimation t.id)) := by
  have hbefore : ∀ u ∈ l₁, u.id ≠ t.id := by
    intro u hu heq
    rw [hsplit, List.map_append, List.map_cons] at hnodup
    have hdisjoint := List.disjoint_of_nodup_append hnodup
    exact hdisjoint (List.mem_map_of_mem hu) (heq ▸ List.mem_cons_self)
  rw [screenX, thumbnails, hsplit, find?_placeFrom 0 hbefore]
  simp

/-- The place of a thumbnail on the strip, in terms of all the thumbnails before it. -/
theorem screenX_of_split (hnodup : (i.wmru.thumbnails.map Thumbnail.id).Nodup)
    (hsplit : i.wmru.thumbnails = l₁ ++ t :: l₂)
    (ht : matchFilter i.wmru.scope i.wmru.appIdFilter t = true) :
    i.screenX t.id = some (i.total (matchFilter i.wmru.scope i.wmru.appIdFilter) l₁ -
      i.viewPos.current + renderOffset (i.moveAnimation t.id)) := by
  have hvisible : i.wmru.visible = l₁.filter (matchFilter i.wmru.scope i.wmru.appIdFilter) ++
      t :: l₂.filter (matchFilter i.wmru.scope i.wmru.appIdFilter) := by
    rw [WindowMru.visible, hsplit, List.filter_append, List.filter_cons_of_pos ht]
  exact screenX_of_visible (nodup_visible hnodup) hvisible

/-! ## The loops -/

/-- What `animateAll` does to a thumbnail. -/
theorem renderOffset_animateAll (start : ℚ) (h : (l.map Thumbnail.id).Nodup)
    (animation : ℕ → Option MoveAnimation) (id : ℕ) :
    renderOffset (animateAll start l animation id) =
      renderOffset (animation id) + if id ∈ l.map Thumbnail.id then start else 0 := by
  unfold animateAll
  induction l generalizing animation with
  | nil => simp
  | cons u l ih =>
    obtain ⟨hnew, hnodup⟩ := List.nodup_cons.mp h
    rw [List.foldl_cons, ih hnodup]
    by_cases heq : id = u.id
    · subst heq
      rw [if_neg hnew, List.map_cons, if_pos List.mem_cons_self, Function.update_self,
        renderOffset_animateMoveFrom]
      ring
    · rw [Function.update_of_ne heq]
      simp [heq]

variable {a b : Thumbnail → Bool} {sign delta : ℚ} {animation : ℕ → Option MoveAnimation}

/-- What the loop counts: the room that goes, less the room that comes. -/
theorem makeRoom_delta (i : Inner) (a b : Thumbnail → Bool) (sign : ℚ) (l : List Thumbnail)
    (delta : ℚ) (animation : ℕ → Option MoveAnimation) :
    (i.makeRoom a b sign l delta animation).1 = delta + i.total a l - i.total b l := by
  induction l generalizing delta animation with
  | nil => simp [makeRoom]
  | cons u l ih =>
    rw [makeRoom, total_cons, total_cons]
    cases a u <;> cases b u <;> simp only [ih, if_true, if_false, Bool.false_eq_true] <;> ring

/-- The loop moves none of the other thumbnails. -/
theorem makeRoom_other {id : ℕ} (h : id ∉ l.map Thumbnail.id) :
    (i.makeRoom a b sign l delta animation).2 id = animation id := by
  induction l generalizing delta animation with
  | nil => rfl
  | cons u l ih =>
    rw [List.map_cons, List.mem_cons, not_or] at h
    obtain ⟨hne, hnot⟩ := h
    rw [makeRoom]
    cases a u <;> cases b u <;> simp only [ih hnot]
    exact Function.update_of_ne hne _ _

/-- The loop moves a thumbnail by what it has counted before it. -/
theorem makeRoom_offset (h : ((l₁ ++ t :: l₂).map Thumbnail.id).Nodup) (ha : a t = true)
    (hb : b t = true) :
    renderOffset ((i.makeRoom a b sign (l₁ ++ t :: l₂) delta animation).2 t.id) =
      renderOffset (animation t.id) + sign * (delta + i.total a l₁ - i.total b l₁) := by
  induction l₁ generalizing delta animation with
  | nil =>
    obtain ⟨hnew, -⟩ := List.nodup_cons.mp h
    simp only [List.nil_append, makeRoom, ha, hb]
    rw [makeRoom_other hnew, Function.update_self, renderOffset_animateMoveFrom]
    simp [add_comm]
  | cons u l₁ ih =>
    obtain ⟨hnew, hnodup⟩ := List.nodup_cons.mp h
    have hne : t.id ≠ u.id := fun heq => hnew (heq ▸ by simp)
    rw [List.cons_append, makeRoom, total_cons, total_cons]
    cases a u <;> cases b u <;>
      simp only [ih hnodup, Function.update_of_ne hne, if_true, if_false, Bool.false_eq_true] <;>
      ring

/-! ## Scope and filter -/

/-- What is visible before and after is where it was on the screen. -/
def NoJump (i k : Inner) : Prop :=
  ∀ id x x', i.screenX id = some x → k.screenX id = some x' → x' = x

theorem NoJump.refl (i : Inner) : i.NoJump i := by
  intro id x x' hx hx'
  exact Option.some.inj (hx'.symm.trans hx)

theorem eq_of_id {u : Thumbnail} (h : (l.map Thumbnail.id).Nodup) (ht : t ∈ l) (hu : u ∈ l)
    (heq : t.id = u.id) : t = u :=
  List.inj_on_of_nodup_map h ht hu heq

/-- A thumbnail that is on both strips. -/
theorem noJump_of_thumbnails {k : Inner} (h : (i.wmru.thumbnails.map Thumbnail.id).Nodup)
    (hsub : ∀ t ∈ k.wmru.thumbnails, t ∈ i.wmru.thumbnails)
    (hsame : ∀ t ∈ i.wmru.visible, t ∈ k.wmru.visible → k.screenX t.id = i.screenX t.id) :
    i.NoJump k := by
  intro id x x' hx hx'
  obtain ⟨t, ht, rfl⟩ := mem_visible_of_screenX hx
  obtain ⟨u, hu, hid⟩ := mem_visible_of_screenX hx'
  have hu' := hsub u (mem_visible.mp hu).1
  obtain rfl := eq_of_id h hu' (mem_visible.mp ht).1 hid
  rw [hsame u ht hu, hx] at hx'
  exact (Option.some.inj hx').symm

theorem idxOf_split {m : WindowMru} {c : Thumbnail} (h : (m.thumbnails.map Thumbnail.id).Nodup)
    (hc : c ∈ m.thumbnails) : ∃ idx, m.idxOf c.id = some idx ∧
      m.thumbnails = m.thumbnails.take idx ++ c :: m.thumbnails.drop (idx + 1) := by
  cases hidx : m.idxOf c.id with
  | none =>
    have hnone := List.findIdx?_eq_none_iff.mp hidx c hc
    simp at hnone
  | some idx =>
    obtain ⟨hlt, hid, -⟩ := List.findIdx?_eq_some_iff_getElem.mp hidx
    have heq := eq_of_id h (List.getElem_mem hlt) hc (beq_iff_eq.mp hid)
    refine ⟨idx, rfl, ?_⟩
    rw [← heq, List.getElem_cons_drop, List.take_append_drop]

/-- The same previews in the same places, seen through another scope and filter. -/
structure Sees (i j : Inner) : Prop where
  thumbnails : j.wmru.thumbnails = i.wmru.thumbnails
  viewPos : j.viewPos = i.viewPos
  moveAnimation : j.moveAnimation = i.moveAnimation
  room : j.room = i.room

theorem Sees.total_eq {j : Inner} (h : i.Sees j) : j.total = i.total := by
  funext p l
  rw [total, h.room]
  rfl

/-- The view makes up for what is left of the thumbnail at `idx`, and the moves for what is
    between it and the one that is looked at. -/
theorem moveAround_screenX {j : Inner} {c : Thumbnail} {idx : ℕ}
    (h : (i.wmru.thumbnails.map Thumbnail.id).Nodup) (hsees : i.Sees j)
    (hsplit : i.wmru.thumbnails =
      i.wmru.thumbnails.take idx ++ c :: i.wmru.thumbnails.drop (idx + 1))
    (ha : matchFilter i.wmru.scope i.wmru.appIdFilter = a)
    (hb : matchFilter j.wmru.scope j.wmru.appIdFilter = b) (hca : a c = true) (hcb : b c = true)
    (ht : t ∈ i.wmru.thumbnails) (hta : a t = true) (htb : b t = true) :
    (j.moveAround idx a b).screenX t.id = i.screenX t.id := by
  have hthumbnails : (j.moveAround idx a b).wmru.thumbnails = i.wmru.thumbnails := hsees.thumbnails
  have hroom : (j.moveAround idx a b).total = i.total := hsees.total_eq
  generalize hL : i.wmru.thumbnails.take idx = L at hsplit
  generalize hR : i.wmru.thumbnails.drop (idx + 1) = R at hsplit
  have hmove : (j.moveAround idx a b).moveAnimation =
      (j.makeRoom a b (-1) L.reverse 0 (j.makeRoom a b 1 R 0 i.moveAnimation).2).2 := by
    rw [← hL, ← hR, ← hsees.thumbnails, ← hsees.moveAnimation]
    rfl
  have hview : (j.moveAround idx a b).viewPos.current =
      i.viewPos.current - (i.total a L - i.total b L) := by
    rw [moveAround, ViewPos.current_offset, makeRoom_delta, hsees.thumbnails, hL, hsees.viewPos,
      hsees.total_eq, total_reverse, total_reverse]
    ring
  have hids : (L.map Thumbnail.id ++ c.id :: R.map Thumbnail.id).Nodup := by
    rw [hsplit] at h
    simpa using h
  have hscreen : ∀ T₁ T₂, i.wmru.thumbnails = T₁ ++ t :: T₂ →
      renderOffset ((j.moveAround idx a b).moveAnimation t.id) -
        renderOffset (i.moveAnimation t.id) =
        i.total a T₁ - i.total b T₁ - (i.total a L - i.total b L) →
      (j.moveAround idx a b).screenX t.id = i.screenX t.id := by
    intro T₁ T₂ hT hoffset
    have hbefore := screenX_of_split h hT (ha ▸ hta)
    have hafter := screenX_of_split (i := j.moveAround idx a b) (hthumbnails ▸ h)
      (hthumbnails.trans hT) (show matchFilter j.wmru.scope j.wmru.appIdFilter t = true from hb ▸ htb)
    rw [hroom, hview, show matchFilter (j.moveAround idx a b).wmru.scope
      (j.moveAround idx a b).wmru.appIdFilter = b from hb] at hafter
    rw [hbefore, hafter, ha]
    congr 1
    linarith
  rw [hmove] at hscreen
  have hcL : c.id ∉ L.reverse.map Thumbnail.id := by
    rw [List.map_reverse, List.mem_reverse]
    intro hin
    exact List.disjoint_of_nodup_append hids hin List.mem_cons_self
  obtain ⟨hLids, hcRids, hdisjoint⟩ := List.nodup_append'.mp hids
  obtain ⟨hcR, hRids⟩ := List.nodup_cons.mp hcRids
  rw [hsplit, List.mem_append, List.mem_cons] at ht
  rcases ht with ht | rfl | ht
  · -- To the left: the loop has counted what is between.
    obtain ⟨L₁, L₂, rfl⟩ := List.append_of_mem ht
    have hnot : t.id ∉ R.map Thumbnail.id := fun hin =>
      hdisjoint (List.mem_map_of_mem ht) (List.mem_cons_of_mem _ hin)
    have hreverse : (L₁ ++ t :: L₂).reverse = L₂.reverse ++ t :: L₁.reverse := by simp
    have hreversed : ((L₂.reverse ++ t :: L₁.reverse).map Thumbnail.id).Nodup := by
      rw [← hreverse, List.map_reverse, List.nodup_reverse]
      exact hLids
    refine hscreen L₁ (L₂ ++ c :: R) (by rw [hsplit]; simp) ?_
    rw [hreverse, makeRoom_offset hreversed hta htb, makeRoom_other hnot, total_reverse,
      total_reverse, total_append, total_append, total_cons, total_cons, hsees.total_eq,
      if_pos hta, if_pos htb]
    ring
  · -- The current thumbnail is not moved.
    refine hscreen L R hsplit ?_
    rw [makeRoom_other hcL, makeRoom_other hcR]
    ring
  · obtain ⟨R₁, R₂, rfl⟩ := List.append_of_mem ht
    have hnot : t.id ∉ L.reverse.map Thumbnail.id := by
      rw [List.map_reverse, List.mem_reverse]
      exact fun hin => hdisjoint hin (List.mem_cons_of_mem _ (List.mem_map_of_mem ht))
    refine hscreen (L ++ c :: R₁) R₂ (by rw [hsplit]; simp) ?_
    rw [makeRoom_other hnot, makeRoom_offset hRids hta htb, hsees.total_eq, total_append,
      total_append, total_cons, total_cons, if_pos hca, if_pos hcb]
    ring

end Inner

/-! ## The selection -/

section
variable {m m' : WindowMru}

theorem setScope_eq {scope : MruScope} {old : Option MruScope}
    (h : m.setScope scope = .ok (m', old)) : (old = none ∧ m' = m) ∨
      (old = some m.scope ∧ ∃ current, m' = { m with scope := scope, currentId := current }) := by
  unfold WindowMru.setScope at h
  split at h
  · cases h
    exact .inl ⟨rfl, rfl⟩
  · cases hid : m.currentId with
    | none =>
      rw [hid] at h
      cases h
      exact .inr ⟨rfl, _, rfl⟩
    | some id =>
      rw [hid] at h
      obtain ⟨current, -, h⟩ := bind_eq_ok.mp h
      cases h
      exact .inr ⟨rfl, _, rfl⟩

/-- A filter is only set where there is none. -/
theorem filterChange_eq {filter : MruFilter} {appId : Option String}
    {change : Option String × Option String} (h : m.filterChange filter appId = .ok (some change)) :
    change.2 = m.appIdFilter ∧ (change.1 = none ∨ change.2 = none) := by
  unfold WindowMru.filterChange at h
  cases filter with
  | all =>
    obtain ⟨old, hold, h⟩ := bind_eq_ok.mp h
    cases h
    exact ⟨(orThrow_eq_ok.mp hold).symm, .inl rfl⟩
  | appId =>
    cases appId with
    | none => cases h
    | some current =>
      obtain ⟨_, hnone, h⟩ := bind_eq_ok.mp h
      cases h
      exact ⟨(Option.isNone_iff_eq_none.mp (ensure_eq_ok.mp hnone)).symm, .inr rfl⟩

theorem setFilter_eq {filter : MruFilter} {old : Option (Option String)}
    (h : m.setFilter filter = .ok (m', old)) : (old = none ∧ m' = m) ∨
      (old = some m.appIdFilter ∧ ∃ new current, (new = none ∨ m.appIdFilter = none) ∧
        m' = { m with appIdFilter := new, currentId := current }) := by
  unfold WindowMru.setFilter at h
  split at h
  · cases h
    exact .inl ⟨rfl, rfl⟩
  · cases hid : m.currentId with
    | none =>
      rw [hid] at h
      cases filter with
      | all =>
        obtain ⟨old, hold, h⟩ := bind_eq_ok.mp h
        cases h
        rw [orThrow_eq_ok.mp hold]
        exact .inr ⟨rfl, none, _, .inl rfl, rfl⟩
      | appId =>
        cases h
        exact .inl ⟨rfl, rfl⟩
    | some id =>
      rw [hid] at h
      obtain ⟨current, -, h⟩ := bind_eq_ok.mp h
      obtain ⟨change, hchange, h⟩ := bind_eq_ok.mp h
      cases change with
      | none =>
        cases h
        exact .inl ⟨rfl, rfl⟩
      | some change =>
        obtain ⟨hold, hnone⟩ := filterChange_eq hchange
        cases h
        rw [← hold]
        exact .inr ⟨rfl, change.1, _, hnone, rfl⟩

/-- From the narrowest scope to the widest. -/
def MruScope.width : MruScope → ℕ
  | .workspace => 0
  | .output => 1
  | .all => 2

/-- A wider scope takes in a narrower one. -/
theorem matchFilter_wider {s s' : MruScope} (hwidth : s.width ≤ s'.width) {filter : Option String}
    {t : Thumbnail} (hws : t.onCurrentWorkspace = true → t.onCurrentOutput = true)
    (h : matchFilter s filter t = true) : matchFilter s' filter t = true := by
  cases s <;> cases s' <;> simp_all [matchFilter, MruScope.width]

theorem matchFilter_unfiltered {scope : MruScope} {filter : Option String} {t : Thumbnail}
    (h : matchFilter scope filter t = true) : matchFilter scope none t = true := by
  cases scope <;> simp_all [matchFilter]

/-- Where one of what was visible and what is takes in the other, the thumbnail that is
    selected afterwards was visible before. -/
theorem SelectionFollows.kept (h : Consistent m) (hfollows : SelectionFollows m m')
    (hsame : m'.thumbnails = m.thumbnails) (hbefore : m.currentId ≠ none)
    (hafter : m'.currentId ≠ none)
    (hmono : (∀ t ∈ m.thumbnails, matchFilter m.scope m.appIdFilter t = true →
        matchFilter m'.scope m'.appIdFilter t = true) ∨
      ∀ t ∈ m.thumbnails, matchFilter m'.scope m'.appIdFilter t = true →
        matchFilter m.scope m.appIdFilter t = true) :
    ∃ c ∈ m.thumbnails, m'.currentId = some c.id ∧
      matchFilter m.scope m.appIdFilter c = true ∧
        matchFilter m'.scope m'.appIdFilter c = true := by
  cases hfollows with
  | fresh hnone => exact absurd hnone hbefore
  | near i t hselected hplace chosen hnear hcurrent =>
    cases chosen with
    | none => exact absurd hcurrent hafter
    | some c =>
      obtain ⟨hc, hcb⟩ := hnear.mem
      rw [hsame] at hc
      refine ⟨c, hc, hcurrent, ?_, hcb⟩
      rcases hmono with hgrows | hshrinks
      · -- What was selected is still visible, and is selected.
        obtain ⟨u, hu, hid⟩ := List.mem_map.mp (h.selected t.id hselected)
        obtain ⟨hmem, hmatch⟩ := mem_visible.mp hu
        have ht := List.mem_of_getElem? hplace
        obtain rfl := Inner.eq_of_id h.distinct hmem ht hid
        have hstill := hgrows u ht hmatch
        rw [← hsame] at hplace
        have hkept : some c = some u := by
          generalize some c = chosen at hnear
          cases hnear with
          | kept v hv => exact hv.symm.trans hplace
          | left j v hlt _ _ hbetween =>
            rw [hbetween i u hlt (Nat.le_refl i) hplace] at hstill
            cases hstill
          | first hnone =>
            rw [hnone i u (Nat.le_refl i) hplace] at hstill
            cases hstill
        rw [Option.some.inj hkept]
        exact hmatch
      · exact hshrinks c hc hcb

end

namespace Inner

variable {i j : Inner} {t : Thumbnail}

theorem animateScopeFilterChange_noJump {c : Thumbnail} (oldScope : MruScope)
    (oldFilter : Option (Option String)) (h : (i.wmru.thumbnails.map Thumbnail.id).Nodup)
    (hsees : i.Sees j) (hc : c ∈ i.wmru.thumbnails) (hcurrent : j.wmru.currentId = some c.id)
    (hold : matchFilter oldScope (oldFilter.getD j.wmru.appIdFilter) =
      matchFilter i.wmru.scope i.wmru.appIdFilter)
    (hca : matchFilter i.wmru.scope i.wmru.appIdFilter c = true)
    (hcb : matchFilter j.wmru.scope j.wmru.appIdFilter c = true) :
    ∃ k, j.animateScopeFilterChange false oldScope oldFilter = .ok k ∧ i.NoJump k := by
  have hsame := hsees.thumbnails
  obtain ⟨idx, hidx, hsplit⟩ := idxOf_split (hsame ▸ h) (hsame ▸ hc)
  rw [hsame] at hsplit
  refine ⟨j.moveAround idx (matchFilter i.wmru.scope i.wmru.appIdFilter)
    (matchFilter j.wmru.scope j.wmru.appIdFilter), ?_, ?_⟩
  · unfold animateScopeFilterChange
    rw [hcurrent]
    dsimp only
    rw [hidx, hold]
    rfl
  · refine noJump_of_thumbnails h (fun t ht => hsame ▸ ht) fun t ht ht' => ?_
    obtain ⟨hmem, hta⟩ := mem_visible.mp ht
    have htb : matchFilter j.wmru.scope j.wmru.appIdFilter t = true := (mem_visible.mp ht').2
    exact moveAround_screenX h hsees hsplit rfl rfl hca hcb hmem hta htb

/-- Where one of what was visible and what is takes in the other, no thumbnail jumps. -/
theorem filterChange_noJump (h : Consistent i.wmru) (hbefore : i.wmru.currentId ≠ none)
    {m' : WindowMru} (hsame : m'.thumbnails = i.wmru.thumbnails)
    (hfollows : SelectionFollows i.wmru m') (oldScope : MruScope)
    (oldFilter : Option (Option String))
    (hold : matchFilter oldScope (oldFilter.getD m'.appIdFilter) =
      matchFilter i.wmru.scope i.wmru.appIdFilter)
    (hmono : (∀ t ∈ i.wmru.thumbnails, matchFilter i.wmru.scope i.wmru.appIdFilter t = true →
        matchFilter m'.scope m'.appIdFilter t = true) ∨
      ∀ t ∈ i.wmru.thumbnails, matchFilter m'.scope m'.appIdFilter t = true →
        matchFilter i.wmru.scope i.wmru.appIdFilter t = true) :
    ∃ k, ({ i with wmru := m' } : Inner).animateScopeFilterChange i.wmru.currentId.isNone oldScope
        oldFilter = .ok k ∧ (k.wmru.currentId ≠ none → i.NoJump k) := by
  have hempty : i.wmru.currentId.isNone = false := by
    rw [Option.isNone_eq_false_iff, Option.isSome_iff_ne_none]
    exact hbefore
  rw [hempty]
  by_cases hafter : m'.currentId = none
  · refine ⟨{ i with wmru := m' }, ?_, fun hne => absurd hafter hne⟩
    unfold animateScopeFilterChange
    rw [hafter]
  · obtain ⟨c, hc, hcurrent, hca, hcb⟩ := hfollows.kept h hsame hbefore hafter hmono
    obtain ⟨k, hk, hjump⟩ := @animateScopeFilterChange_noJump i { i with wmru := m' } c oldScope
      oldFilter h.distinct ⟨hsame, rfl, rfl, rfl⟩ hc hcurrent hold hca hcb
    exact ⟨k, hk, fun _ => hjump⟩

theorem setScope_noJump (h : Consistent i.wmru) (hbefore : i.wmru.currentId ≠ none)
    (hws : ∀ t ∈ i.wmru.thumbnails, t.onCurrentWorkspace = true → t.onCurrentOutput = true)
    (scope : MruScope) :
    ∃ k, i.setScope scope = .ok k ∧ (k.wmru.currentId ≠ none → i.NoJump k) := by
  obtain ⟨m', old, hrun, -, hreselected⟩ := setScope_spec h scope
  unfold setScope
  rw [hrun]
  rcases setScope_eq hrun with ⟨rfl, rfl⟩ | ⟨rfl, current, rfl⟩
  · exact ⟨i, rfl, fun _ => .refl i⟩
  · refine filterChange_noJump h hbefore (by rfl) hreselected.follows i.wmru.scope none rfl ?_
    rcases Nat.le_total i.wmru.scope.width scope.width with hle | hle
    · exact .inl fun t ht => matchFilter_wider hle (hws t ht)
    · exact .inr fun t ht => matchFilter_wider hle (hws t ht)

theorem setFilter_noJump (h : Consistent i.wmru) (hbefore : i.wmru.currentId ≠ none)
    (filter : MruFilter) :
    ∃ k, i.setFilter filter = .ok k ∧ (k.wmru.currentId ≠ none → i.NoJump k) := by
  obtain ⟨m', old, hrun, -, hreselected⟩ := setFilter_spec h filter
  unfold setFilter
  rw [hrun]
  rcases setFilter_eq hrun with ⟨rfl, rfl⟩ | ⟨rfl, new, current, hnone, rfl⟩
  · exact ⟨i, rfl, fun _ => .refl i⟩
  · refine filterChange_noJump h hbefore (by rfl) hreselected.follows i.wmru.scope
      (some i.wmru.appIdFilter) rfl ?_
    rcases hnone with rfl | hnone
    · exact .inl fun t _ => matchFilter_unfiltered
    · rw [hnone]
      exact .inr fun t _ => matchFilter_unfiltered

/-! ## Removal -/

theorem previewWidth_nonneg (i : Inner) (t : Thumbnail) : 0 ≤ i.previewWidth t := by
  refine mul_nonneg (Nat.cast_nonneg _) (le_max_of_le_left (le_min zero_le_one ?_))
  exact div_nonneg (by norm_num [previewMinSize]) (le_max_of_le_left (Nat.cast_nonneg _))

theorem room_pos (i : Inner) (t : Thumbnail) : 0 < i.room t := by
  have hwidth := i.previewWidth_nonneg t
  have hpadding : (0 : ℚ) ≤ i.padding := i.padding.2
  have hgap : 0 < i.gap := by
    simp only [gap, border, gapSize]
    linarith
  exact add_pos_of_nonneg_of_pos hwidth hgap

end Inner

section
variable {m m' : WindowMru} {t : Thumbnail}

theorem removeByIdx_eq (h : Consistent m) {idx : ℕ} {removed : Option Thumbnail}
    (ht : m.thumbnails[idx]? = some t) (hrun : m.removeByIdx idx = .ok (m', removed)) :
    ∃ current, m' = { m with thumbnails := m.thumbnails.eraseIdx idx, currentId := current } := by
  obtain ⟨current, hmove, -⟩ := moveOff_spec h t.id
  unfold WindowMru.removeByIdx at hrun
  rw [ht] at hrun
  replace hrun : (m.moveOff t.id >>= fun moved => _) = .ok (m', removed) := hrun
  rw [hmove] at hrun
  cases hrun
  exact ⟨_, rfl⟩

/-- Only a visible thumbnail is left of the current one. -/
theorem mem_of_leftOf {current : Option ℕ} {id : ℕ} {l : List Thumbnail}
    (h : WindowMru.leftOf current id l = some t) : t ∈ l ∧ t.id = id := by
  induction l with
  | nil => cases h
  | cons u l ih =>
    unfold WindowMru.leftOf at h
    split at h
    · cases h
    · split at h
      · next hid =>
        obtain rfl := Option.some.inj h
        exact ⟨List.mem_cons_self, hid⟩
      · exact ⟨List.mem_cons_of_mem u (ih h).1, (ih h).2⟩

/-- What is visible once a thumbnail is gone. -/
theorem visible_eraseIdx (h : (m.thumbnails.map Thumbnail.id).Nodup) {idx : ℕ}
    (ht : m.thumbnails[idx]? = some t) (current : Option ℕ) :
    ({ m with thumbnails := m.thumbnails.eraseIdx idx, currentId := current } : WindowMru).visible =
      m.visible.filter fun u => u.id ≠ t.id := by
  unfold WindowMru.visible
  rw [eraseIdx_eq_filter h ht, List.filter_comm]

theorem takeWhile_ne {V₁ V₂ : List Thumbnail} (h : t.id ∉ V₁.map Thumbnail.id) :
    (V₁ ++ t :: V₂).takeWhile (fun u => u.id ≠ t.id) = V₁ := by
  have hpos : ∀ u ∈ V₁, decide (u.id ≠ t.id) = true := by
    intro u hu
    simpa using fun heq : u.id = t.id => h (heq ▸ List.mem_map_of_mem hu)
  rw [List.takeWhile_append_of_pos hpos, List.takeWhile_cons_of_neg (by simp), List.append_nil]

end

namespace Inner

variable {i : Inner} {t : Thumbnail} {V₁ V₂ : List Thumbnail}

/-- How far a preview is from its place on the strip. -/
def shift (i : Inner) (id : ℕ) : ℚ := renderOffset (i.moveAnimation id) - i.viewPos.current

/-- A thumbnail that is not visible is not left of the current one; all the others move. -/
theorem closeUp_hidden (h : (i.wmru.visible.map Thumbnail.id).Nodup)
    (ht : t.id ∉ i.wmru.visible.map Thumbnail.id) {u : Thumbnail} (hu : u ∈ i.wmru.visible) :
    (i.closeUp t).shift u.id = i.shift u.id + i.room t := by
  have hleft : (i.wmru.thumbnailLeftOfCurrent t.id).isSome = false := by
    rw [Bool.eq_false_iff]
    intro hsome
    obtain ⟨v, hv⟩ := Option.isSome_iff_exists.mp hsome
    obtain ⟨hmem, hid⟩ := mem_of_leftOf hv
    exact ht (hid ▸ List.mem_map_of_mem hmem)
  have hall : i.wmru.visible.reverse.takeWhile (fun u => u.id ≠ t.id) = i.wmru.visible.reverse := by
    refine List.takeWhile_eq_self_iff.mpr fun v hv => ?_
    simpa using fun heq : v.id = t.id => ht (heq ▸ List.mem_map_of_mem (List.mem_reverse.mp hv))
  have hids : (i.wmru.visible.reverse.map Thumbnail.id).Nodup := by
    rw [List.map_reverse, List.nodup_reverse]
    exact h
  have hmem : u.id ∈ i.wmru.visible.reverse.map Thumbnail.id :=
    List.mem_map_of_mem (List.mem_reverse.mpr hu)
  unfold closeUp
  rw [hleft, hall]
  simp only [Bool.false_eq_true, if_false, shift]
  rw [renderOffset_animateAll _ hids, if_pos hmem]
  ring

/-- Those left of a visible thumbnail keep their places on the strip, and those right of it
    lose its room: both are made up for. -/
theorem closeUp_visible (h : (i.wmru.visible.map Thumbnail.id).Nodup)
    (hsplit : i.wmru.visible = V₁ ++ t :: V₂) :
    (∀ u ∈ V₁, (i.closeUp t).shift u.id = i.shift u.id) ∧
      ∀ u ∈ V₂, (i.closeUp t).shift u.id = i.shift u.id + i.room t := by
  rw [hsplit, List.map_append, List.map_cons] at h
  obtain ⟨hids₁, hids, hdisjoint⟩ := List.nodup_append'.mp h
  obtain ⟨ht₂, hids₂⟩ := List.nodup_cons.mp hids
  have ht₁ : t.id ∉ V₁.map Thumbnail.id := fun hin => hdisjoint hin List.mem_cons_self
  have hnot : ∀ u ∈ V₂, u.id ∉ V₁.map Thumbnail.id := fun u hu hin =>
    hdisjoint hin (List.mem_cons_of_mem _ (List.mem_map_of_mem hu))
  have hreverse : (V₁ ++ t :: V₂).reverse = V₂.reverse ++ t :: V₁.reverse := by simp
  have hids' : (V₂.reverse.map Thumbnail.id).Nodup := by
    rw [List.map_reverse, List.nodup_reverse]
    exact hids₂
  have ht' : t.id ∉ V₂.reverse.map Thumbnail.id := by
    rw [List.map_reverse, List.mem_reverse]
    exact ht₂
  unfold closeUp
  rw [hsplit, takeWhile_ne ht₁, hreverse, takeWhile_ne ht']
  cases (i.wmru.thumbnailLeftOfCurrent t.id).isSome with
  | true =>
    simp only [if_true, shift, ViewPos.current_offset, renderOffset_animateAll _ hids₁]
    refine ⟨fun u hu => ?_, fun u hu => ?_⟩
    · rw [if_pos (List.mem_map_of_mem hu)]
      ring
    · rw [if_neg (hnot u hu)]
      ring
  | false =>
    simp only [Bool.false_eq_true, if_false, shift, renderOffset_animateAll _ hids']
    refine ⟨fun u hu => ?_, fun u hu => ?_⟩
    · have hnot' : u.id ∉ V₂.reverse.map Thumbnail.id := by
        rw [List.map_reverse, List.mem_reverse]
        exact fun hin => hdisjoint (List.mem_map_of_mem hu) (List.mem_cons_of_mem _ hin)
      rw [if_neg hnot']
      ring
    · rw [if_pos (List.mem_map_of_mem (List.mem_reverse.mpr hu))]
      ring

theorem screenX_eq_shift (h : (i.wmru.visible.map Thumbnail.id).Nodup)
    (hsplit : i.wmru.visible = V₁ ++ t :: V₂) :
    i.screenX t.id = some ((V₁.map i.room).sum + i.shift t.id) := by
  rw [screenX_of_visible h hsplit, shift]
  congr 1
  ring

theorem closeUp_wmru (i : Inner) (t : Thumbnail) : (i.closeUp t).wmru = i.wmru := by
  unfold closeUp
  split <;> rfl

theorem closeUp_room (i : Inner) (t : Thumbnail) : (i.closeUp t).room = i.room := by
  unfold closeUp
  split <;> rfl

/-- The strip without the thumbnail, once its room is closed. -/
theorem removeWindow_eq (h : Consistent i.wmru) (ht : t ∈ i.wmru.thumbnails) :
    ∃ k removed, i.removeWindow t.id = .ok (k, removed) ∧ k.room = i.room ∧
      (∀ u ∈ k.wmru.thumbnails, u ∈ i.wmru.thumbnails) ∧
        k.wmru.visible = i.wmru.visible.filter (fun u => u.id ≠ t.id) ∧
          k.shift = (if i.wmru.visible.getLast?.any fun u => u.id == t.id then i
            else i.closeUp t).shift := by
  obtain ⟨idx, hidx, -⟩ := idxOf_split h.distinct ht
  obtain ⟨hlt, hid, -⟩ := List.findIdx?_eq_some_iff_getElem.mp hidx
  have hget : i.wmru.thumbnails[idx]? = some t := by
    rw [List.getElem?_eq_getElem hlt]
    exact congrArg some (eq_of_id h.distinct (List.getElem_mem hlt) ht (beq_iff_eq.mp hid))
  obtain ⟨m', removed, hrun, -⟩ := removeByIdx_spec h hlt
  obtain ⟨current, rfl⟩ := removeByIdx_eq h hget hrun
  generalize hj : (if i.wmru.visible.getLast?.any fun u => u.id == t.id then i
    else i.closeUp t) = j
  have hwmru : j.wmru = i.wmru := by
    rw [← hj]
    split
    · rfl
    · exact closeUp_wmru i t
  have hroom : j.room = i.room := by
    rw [← hj]
    split
    · rfl
    · exact closeUp_room i t
  refine ⟨{ j with wmru := { i.wmru with
      thumbnails := i.wmru.thumbnails.eraseIdx idx, currentId := current } }, removed, ?_, hroom,
    fun u hu => List.mem_of_mem_eraseIdx hu, visible_eraseIdx h.distinct hget current, rfl⟩
  unfold removeWindow
  rw [hidx]
  dsimp only
  simp only [hget, orThrow, pure_bind, hj, hwmru, hrun]
  rfl

/-- The removal of a visible thumbnail. -/
theorem removeWindow_noJump {k : Inner} (h : Consistent i.wmru) (ht : t ∈ i.wmru.visible)
    (hroom : k.room = i.room) (hsub : ∀ u ∈ k.wmru.thumbnails, u ∈ i.wmru.thumbnails)
    (hvisible : k.wmru.visible = i.wmru.visible.filter (fun u => u.id ≠ t.id))
    (hshift : k.shift = (if i.wmru.visible.getLast?.any fun u => u.id == t.id then i
      else i.closeUp t).shift) : i.NoJump k := by
  have hids := nodup_visible h.distinct
  obtain ⟨V₁, V₂, hsplit⟩ := List.append_of_mem ht
  have hparts := hids
  rw [hsplit, List.map_append, List.map_cons] at hparts
  obtain ⟨-, hparts₂, hdisjoint⟩ := List.nodup_append'.mp hparts
  obtain ⟨ht₂, -⟩ := List.nodup_cons.mp hparts₂
  have hne₁ : ∀ u ∈ V₁, decide (u.id ≠ t.id) = true := by
    intro u hu
    simpa using fun heq : u.id = t.id =>
      hdisjoint (List.mem_map_of_mem hu) (heq ▸ List.mem_cons_self)
  have hne₂ : ∀ u ∈ V₂, decide (u.id ≠ t.id) = true := by
    intro u hu
    simpa using fun heq : u.id = t.id => ht₂ (heq ▸ List.mem_map_of_mem hu)
  have hrest : k.wmru.visible = V₁ ++ V₂ := by
    rw [hvisible, hsplit, List.filter_append, List.filter_cons_of_neg (by simp),
      List.filter_eq_self.mpr hne₁, List.filter_eq_self.mpr hne₂]
  have hkids : (k.wmru.visible.map Thumbnail.id).Nodup := by
    rw [hvisible]
    exact hids.sublist (List.filter_sublist.map _)
  have hshifts : (∀ u ∈ V₁, k.shift u.id = i.shift u.id) ∧
      ∀ u ∈ V₂, k.shift u.id = i.shift u.id + i.room t := by
    rw [hshift]
    split
    · next hlast =>
      -- Nothing is right of the last one.
      have hempty : V₂ = [] := by
        by_contra hV₂
        rw [hsplit, List.getLast?_append_of_ne_nil _ (List.cons_ne_nil t V₂),
          List.getLast?_cons_of_ne_nil hV₂, Option.any_eq_true] at hlast
        obtain ⟨u, hu, hid⟩ := hlast
        have hmem := List.mem_of_getLast? hu
        have hne := hne₂ u hmem
        simp [beq_iff_eq.mp hid] at hne
      subst hempty
      exact ⟨fun _ _ => rfl, fun _ hu => absurd hu List.not_mem_nil⟩
    · exact closeUp_visible hids hsplit
  refine noJump_of_thumbnails h.distinct hsub fun u hu hu' => ?_
  rw [hrest, List.mem_append] at hu'
  rcases hu' with hu' | hu'
  · obtain ⟨A, B, rfl⟩ := List.append_of_mem hu'
    rw [screenX_eq_shift hids (hsplit.trans (by simp : _ = A ++ u :: (B ++ t :: V₂))),
      screenX_eq_shift hkids (hrest.trans (by simp : _ = A ++ u :: (B ++ V₂))), hroom,
      hshifts.1 u hu']
  · obtain ⟨A, B, rfl⟩ := List.append_of_mem hu'
    rw [screenX_eq_shift hids (hsplit.trans (by simp : _ = (V₁ ++ t :: A) ++ u :: B)),
      screenX_eq_shift hkids (hrest.trans (by simp : _ = (V₁ ++ A) ++ u :: B)), hroom,
      hshifts.2 u hu']
    congr 1
    simp
    ring

/-- The removal of a thumbnail that is filtered out. -/
theorem removeWindow_jumps {k : Inner} (h : Consistent i.wmru) (hbefore : i.wmru.currentId ≠ none)
    (ht : t.id ∉ i.wmru.visible.map Thumbnail.id)
    (hvisible : k.wmru.visible = i.wmru.visible.filter (fun u => u.id ≠ t.id))
    (hshift : k.shift = (if i.wmru.visible.getLast?.any fun u => u.id == t.id then i
      else i.closeUp t).shift) : ¬i.NoJump k := by
  have hids := nodup_visible h.distinct
  have hsame : k.wmru.visible = i.wmru.visible := by
    rw [hvisible, List.filter_eq_self]
    intro u hu
    simpa using fun heq : u.id = t.id => ht (heq ▸ List.mem_map_of_mem hu)
  cases hV : i.wmru.visible with
  | nil =>
    obtain ⟨id, hid⟩ := Option.ne_none_iff_exists'.mp hbefore
    have hmem := h.selected id hid
    rw [hV] at hmem
    cases hmem
  | cons u V =>
    have hu : u ∈ i.wmru.visible := hV ▸ List.mem_cons_self
    have hlast : (i.wmru.visible.getLast?.any fun u => u.id == t.id) = false := by
      rw [Bool.eq_false_iff]
      intro hany
      obtain ⟨v, hv, hid⟩ := (Option.any_eq_true _ _).mp hany
      exact ht (beq_iff_eq.mp hid ▸ List.mem_map_of_mem (List.mem_of_getLast? hv))
    have hmoved : k.shift u.id = i.shift u.id + i.room t := by
      rw [hshift, hlast]
      exact closeUp_hidden hids ht hu
    intro hjump
    have hfirst : i.wmru.visible = [] ++ u :: V := hV
    have heq := hjump u.id _ _ (screenX_eq_shift hids hfirst)
      (screenX_eq_shift (hsame ▸ hids) (hsame.trans hfirst))
    rw [hmoved, List.map_nil, List.map_nil, List.sum_nil] at heq
    have hpos := i.room_pos t
    linarith

end Inner

/-- The operation removes a thumbnail that is filtered out. -/
def StripOp.RemovesHidden (m : WindowMru) : StripOp → Prop
  | .removeWindow id => ∃ t ∈ m.thumbnails, t.id = id ∧ t ∉ m.visible
  | _ => False

/-- Nothing jumps, unless a thumbnail that is filtered out is removed. -/
theorem noJump_iff {i : Inner} (h : Consistent i.wmru) (hbefore : i.wmru.currentId ≠ none)
    (hws : ∀ t ∈ i.wmru.thumbnails, t.onCurrentWorkspace = true → t.onCurrentOutput = true)
    (op : StripOp) :
    ∃ k, i.apply op = .ok k ∧
      (k.wmru.currentId ≠ none → (i.NoJump k ↔ ¬op.RemovesHidden i.wmru)) := by
  cases op with
  | setScope scope =>
    obtain ⟨k, hk, hjump⟩ := Inner.setScope_noJump h hbefore hws scope
    exact ⟨k, hk, fun hafter => iff_of_true (hjump hafter) id⟩
  | setFilter filter =>
    obtain ⟨k, hk, hjump⟩ := Inner.setFilter_noJump h hbefore filter
    exact ⟨k, hk, fun hafter => iff_of_true (hjump hafter) id⟩
  | removeWindow id =>
    by_cases hin : ∃ t ∈ i.wmru.thumbnails, t.id = id
    · obtain ⟨t, ht, rfl⟩ := hin
      obtain ⟨k, removed, hk, hroom, hsub, hvisible, hshift⟩ := Inner.removeWindow_eq h ht
      refine ⟨k, ?_, fun _ => ?_⟩
      · rw [Inner.apply, hk]
        rfl
      by_cases hshown : t ∈ i.wmru.visible
      · refine iff_of_true (Inner.removeWindow_noJump h hshown hroom hsub hvisible hshift) ?_
        rintro ⟨u, hu, hid, hhidden⟩
        exact hhidden (Inner.eq_of_id h.distinct hu ht hid ▸ hshown)
      · have hids : t.id ∉ i.wmru.visible.map Thumbnail.id := by
          intro hmem
          obtain ⟨u, hu, hid⟩ := List.mem_map.mp hmem
          exact hshown (Inner.eq_of_id h.distinct (mem_visible.mp hu).1 ht hid ▸ hu)
        refine iff_of_false (Inner.removeWindow_jumps h hbefore hids hvisible hshift) ?_
        exact not_not_intro ⟨t, ht, rfl, hshown⟩
    · have hnone : i.wmru.idxOf id = none := by
        rw [WindowMru.idxOf, List.findIdx?_eq_none_iff]
        intro t ht
        simpa using fun heq : t.id = id => hin ⟨t, ht, heq⟩
      refine ⟨i, ?_, fun _ => iff_of_true (.refl i) ?_⟩
      · rw [Inner.apply, Inner.removeWindow, hnone]
        rfl
      · rintro ⟨t, ht, hid, -⟩
        exact hin ⟨t, ht, hid⟩

/-- Three windows of an output, two of them on the current workspace, which is the scope. -/
def threeWindows : Inner where
  wmru := ⟨[⟨1, none, true, false, none⟩, ⟨2, none, true, true, none⟩, ⟨3, none, true, true, none⟩],
    some 2, .workspace, none⟩
  viewPos := .static 0
  size := fun _ => ⟨100, 100⟩
  moveAnimation := fun _ => none
  previews := ⟨480, 1 / 2⟩
  padding := 30
  outputSize := ⟨1920, 1080⟩

/-- The first window comes into view. -/
theorem noJump_threeWindows :
    ∃ k, threeWindows.apply (.setScope .all) = .ok k ∧
      (k.wmru.currentId ≠ none →
        (threeWindows.NoJump k ↔ ¬(StripOp.setScope .all).RemovesHidden threeWindows.wmru)) :=
  noJump_iff ⟨by decide, by decide, by decide⟩ (by decide) (by decide) (.setScope .all)

/-- The first window is closed while it is out of view. -/
theorem threeWindows_jump :
    ∃ k, threeWindows.apply (.removeWindow 1) = .ok k ∧ k.wmru.currentId ≠ none ∧
      ¬threeWindows.NoJump k := by
  have hrun : ∃ k, threeWindows.apply (.removeWindow 1) = .ok k := ⟨_, rfl⟩
  obtain ⟨k, hk⟩ := hrun
  have hselected : (threeWindows.apply (.removeWindow 1)).toOption.bind
      (fun k => k.wmru.currentId) = some 2 := by decide +kernel
  have hbefore : threeWindows.screenX 2 = some 0 := by decide +kernel
  have hafter : (threeWindows.apply (.removeWindow 1)).toOption.bind (fun k => k.screenX 2) =
      some 130 := by decide +kernel
  rw [hk] at hselected hafter
  refine ⟨k, hk, ?_, fun hjump => absurd (hjump 2 0 130 hbefore hafter) (by decide)⟩
  exact Option.ne_none_iff_exists'.mpr ⟨2, hselected⟩

end Cidre.Ui
