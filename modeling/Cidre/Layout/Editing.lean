/-
  Cidre.Layout.Editing

  The operations on columns as edits of a list of lists.

  A layout shows its windows column by column (`arrangement`).  What an operation
  is for is said in terms of the windows: `ColumnOp.edit`.  What the code does is
  a removal that may take a whole column with it, insertions that shift indices,
  and rules for which column and tile are active in between; the theorems here
  say that it comes to the same.
-/

import Cidre.Lib.Nested
import Cidre.Layout.Cells
import Cidre.Layout.Reachable

namespace Cidre.Layout

open Cidre.Panic

variable {W F : Type}

/-! ## What the operations are for -/

inductive ColumnOp (W : Type) where
  | consumeOrExpelWindowLeft (window : Option W)
  | consumeOrExpelWindowRight (window : Option W)
  | consumeIntoColumn
  | expelFromColumn
  | swapWindowInDirection (direction : ScrollDirection)
  | moveLeft
  | moveRight
  | moveColumnToFirst
  | moveColumnToLast
  | moveColumnToIndex (index : Nat)
  | moveUp
  | moveDown

namespace ColumnOp

/-- The operation of the code. -/
def toOp : ColumnOp W → Op W F
  | consumeOrExpelWindowLeft window => .consumeOrExpelWindowLeft window
  | consumeOrExpelWindowRight window => .consumeOrExpelWindowRight window
  | consumeIntoColumn => .consumeIntoColumn
  | expelFromColumn => .expelFromColumn
  | swapWindowInDirection direction => .swapWindowInDirection direction
  | moveLeft => .moveLeft
  | moveRight => .moveRight
  | moveColumnToFirst => .moveColumnToFirst
  | moveColumnToLast => .moveColumnToLast
  | moveColumnToIndex index => .moveColumnToIndex index
  | moveUp => .moveUp
  | moveDown => .moveDown

variable [DecidableEq W]

/-- The edit of the columns `l` with the focus on `focus`; `beside` are the active
    windows of the columns on the left and on the right. -/
def edit (focus : W) (beside : ScrollDirection → Option W) (l : List (List W)) :
    ColumnOp W → List (List W)
  | consumeOrExpelWindowLeft window =>
      let w := window.getD focus
      let i := Nested.indexOf l w
      if l[i]? = some [w] then if i = 0 then l else Nested.consume l w (i - 1)
      else Nested.expel l w i
  | consumeOrExpelWindowRight window =>
      let w := window.getD focus
      let i := Nested.indexOf l w
      if l[i]? = some [w] then if i + 1 = l.length then l else Nested.consume l w (i + 1)
      else Nested.expel l w (i + 1)
  | consumeIntoColumn =>
      let i := Nested.indexOf l focus
      match l[i + 1]? with
      | some (w :: _) => Nested.consume l w i
      | _ => l
  | expelFromColumn =>
      let i := Nested.indexOf l focus
      match l[i]?.bind List.getLast? with
      | some w => if l[i]? = some [w] then l else Nested.expel l w (i + 1)
      | none => l
  | swapWindowInDirection direction =>
      match beside direction with
      | some w => Nested.exchange l focus w
      | none => l
  | moveLeft => Nested.moveList l (Nested.indexOf l focus) (Nested.indexOf l focus - 1)
  | moveRight =>
      Nested.moveList l (Nested.indexOf l focus) (min (Nested.indexOf l focus + 1) (l.length - 1))
  | moveColumnToFirst => Nested.moveList l (Nested.indexOf l focus) 0
  | moveColumnToLast => Nested.moveList l (Nested.indexOf l focus) (l.length - 1)
  | moveColumnToIndex index =>
      Nested.moveList l (Nested.indexOf l focus) (min (index - 1) (l.length - 1))
  | moveUp =>
      let col := l[Nested.indexOf l focus]?.getD []
      if col.idxOf focus = 0 then l
      else match col[col.idxOf focus - 1]? with
        | some w => Nested.exchange l focus w
        | none => l
  | moveDown =>
      let col := l[Nested.indexOf l focus]?.getD []
      match col[col.idxOf focus + 1]? with
      | some w => Nested.exchange l focus w
      | none => l

/-- The window that has the focus afterwards: the same one, but the one above it
    when it is expelled from the bottom of its column. -/
def focusAfter (focus : W) (l : List (List W)) : ColumnOp W → W
  | expelFromColumn =>
      let col := l[Nested.indexOf l focus]?.getD []
      if col.getLast? = some focus then (col[col.length - 2]?).getD focus else focus
  | _ => focus

end ColumnOp

def ScrollDirection.opposite : ScrollDirection → ScrollDirection
  | .left => .right
  | .right => .left

namespace ScrollingSpace

variable {s s' : ScrollingSpace W F} {g : Geometry W F}

/-- The active window of the column beside the active one. -/
def beside (s : ScrollingSpace W F) : ScrollDirection → Option W
  | .left =>
      if s.activeColumnIdx = 0 then none
      else s.cells[s.activeColumnIdx - 1]?.bind fun c => c.1[c.2]?
  | .right => s.cells[s.activeColumnIdx + 1]?.bind fun c => c.1[c.2]?

/-- There is a column on that side of the active one. -/
def HasColumn (s : ScrollingSpace W F) : ScrollDirection → Prop
  | .left => 0 < s.activeColumnIdx
  | .right => s.activeColumnIdx + 1 < s.columns.length

/-! ## Cells of a well-formed layout -/

theorem focus_eq {c : List W × Nat} {f : W} (hc : s.cells[s.activeColumnIdx]? = some c)
    (hf : c.1[c.2]? = some f) : s.focus = some f := by
  rw [focus, hc]
  exact hf

theorem focus_none_iff (h : s.WellFormed) : s.focus = none ↔ s.columns = [] := by
  constructor
  · intro hnone
    by_contra hne
    obtain ⟨col, hcol, hcoherent⟩ := h.activeColumn hne
    have hlt : col.activeTileIdx < col.ids.length := by
      rw [Column.length_ids]
      exact hcoherent.active_lt
    rw [focus_eq (cells_getElem? hcol) (List.getElem?_eq_getElem hlt)] at hnone
    cases hnone
  · intro hempty
    rw [focus, cells, hempty]
    rfl

theorem focus_cell {f : W} (hf : s.focus = some f) :
    ∃ c, s.cells[s.activeColumnIdx]? = some c ∧ c.1[c.2]? = some f :=
  Option.bind_eq_some_iff.mp hf

theorem columns_ne_of_focus (h : s.WellFormed) {f : W} (hf : s.focus = some f) :
    s.columns ≠ [] := by
  intro hempty
  rw [(focus_none_iff h).mpr hempty] at hf
  cases hf

theorem active_lt_of_focus {f : W} (hf : s.focus = some f) :
    s.activeColumnIdx < s.cells.length := by
  obtain ⟨e, he, -⟩ := focus_cell hf
  exact (List.getElem?_eq_some_iff.mp he).1

theorem nodup_arrangement (h : s.WellFormed) : s.arrangement.flatten.Nodup := h.nodup

theorem arrangement_of_cell {i : Nat} {c : List W × Nat} (h : s.cells[i]? = some c) :
    s.arrangement[i]? = some c.1 := by
  rw [arrangement_eq, List.getElem?_map, h]
  rfl

theorem active_lt_of_cell (h : s.WellFormed) {i : Nat} {c : List W × Nat}
    (hc : s.cells[i]? = some c) : c.2 < c.1.length := by
  rw [cells, List.getElem?_map] at hc
  obtain ⟨col, hcol, rfl⟩ := Option.map_eq_some_iff.mp hc
  show col.activeTileIdx < col.ids.length
  rw [Column.length_ids]
  exact (h.getElem?_coherent hcol).active_lt

theorem ne_nil_of_mem_arrangement (h : s.WellFormed) : ∀ c ∈ s.arrangement, c ≠ [] := by
  intro c hc
  obtain ⟨i, hi⟩ := List.getElem?_of_mem hc
  rw [arrangement_eq, List.getElem?_map] at hi
  obtain ⟨cell, hcell, rfl⟩ := Option.map_eq_some_iff.mp hi
  exact List.ne_nil_of_length_pos (Nat.lt_of_le_of_lt (Nat.zero_le _) (active_lt_of_cell h hcell))

/-- The column of the focused window is the active one. -/
theorem indexOf_focus [DecidableEq W] (h : s.WellFormed) {c : List W × Nat} {f : W}
    (hc : s.cells[s.activeColumnIdx]? = some c) (hf : c.1[c.2]? = some f) :
    Nested.indexOf s.arrangement f = s.activeColumnIdx :=
  Nested.indexOf_eq (nodup_arrangement h) (arrangement_of_cell hc) (List.mem_of_getElem? hf)

/-- The tile that is moved. -/
theorem sourceTile_cell [DecidableEq W] (h : s.WellFormed) {f : W} (hf : s.focus = some f)
    {window : Option W} (hmem : ∀ w ∈ window, w ∈ s.windowIds) {i j : Nat}
    (heq : s.sourceTile window = some (i, j)) {col : Column W F} (hcol : s.columns[i]? = some col) :
    col.ids[j]? = some (window.getD f) := by
  have hne : s.columns ≠ [] := fun hempty => by
    rw [(focus_none_iff h).mpr hempty] at hf
    cases hf
  cases window with
  | some w =>
    obtain ⟨col', hcol', -, hsource⟩ := (sourceTile_returns h hne hmem).of_eq heq
    obtain rfl := Option.some.inj (hcol.symm.trans hcol')
    exact (hsource w rfl).2
  | none =>
    obtain ⟨col', hcol', heq⟩ := Option.bind_eq_some_iff.mp heq
    obtain ⟨rfl, rfl⟩ := Prod.mk.inj (Option.some.inj heq)
    obtain rfl := Option.some.inj (hcol.symm.trans hcol')
    obtain ⟨c, hc, hcf⟩ := focus_cell hf
    obtain rfl := Option.some.inj ((cells_getElem? hcol).symm.trans hc)
    exact hcf

/-- The active tile of a column stays the same when another one is taken out. -/
theorem getElem?_activeAfter {l : List W} {active j : Nat} (hne : active ≠ j) :
    (l.eraseIdx j)[Column.activeAfter active j (l.length - 1)]? = l[active]? := by
  rw [List.getElem?_eraseIdx]
  by_cases hlt : j < active
  · have hafter : Column.activeAfter active j (l.length - 1) = active - 1 := if_pos hlt
    rw [hafter, if_neg (by omega), Nat.sub_add_cancel (by omega)]
  · have hafter : Column.activeAfter active j (l.length - 1) = active := by
      rw [Column.activeAfter, if_neg hlt, if_neg fun hc => hne hc.1.symm]
    rw [hafter, if_pos (by omega)]

/-! ## Consume or expel -/

section Consume

variable [DecidableEq W]

/-- A tile that is alone in column `i` has been put at the end of column `k`. -/
theorem consumed_edit (h : s.WellFormed) {i k k' : Nat} {w : W} {c d : List W × Nat}
    (hc : s.cells[i]? = some c) (hone : c.1 = [w]) (hd : s.cells[k]? = some d) (hik : i ≠ k)
    {active : Nat} (hk' : k' = if i < k then k - 1 else k)
    (hcells : s'.cells = (s.cells.eraseIdx i).set k' (d.1 ++ [w], active)) :
    s'.arrangement = Nested.consume s.arrangement w k := by
  have harr : s'.arrangement = (s.arrangement.eraseIdx i).set k' (d.1 ++ [w]) := by
    rw [arrangement_eq, arrangement_eq, hcells, List.map_set, List.eraseIdx_map]
  rw [harr, Nested.consume_of_one (nodup_arrangement h) (ne_nil_of_mem_arrangement h)
    (hone ▸ arrangement_of_cell hc) (arrangement_of_cell hd) hik]
  by_cases hlt : i < k
  · rw [if_pos hlt] at hk'
    rw [hk', List.eraseIdx_set_lt hlt]
  · rw [if_neg hlt] at hk'
    rw [hk', List.eraseIdx_set_gt (by omega)]

omit [DecidableEq W] in
/-- The focus while a single tile that does not have it goes to the end of another
    column. -/
theorem consumed_focus {f : W} {i k k' a' : Nat} {w : W} {d e : List W × Nat}
    (he : s.cells[s.activeColumnIdx]? = some e) (hf : e.1[e.2]? = some f)
    (hne : s.activeColumnIdx ≠ i) (hd : s.cells[k]? = some d) (hik : i ≠ k)
    (hk' : k' = if i < k then k - 1 else k)
    (ha' : a' = if i < s.activeColumnIdx then s.activeColumnIdx - 1 else s.activeColumnIdx)
    (hcells : s'.cells = (s.cells.eraseIdx i).set k' (d.1 ++ [w], d.2))
    (hactive : s'.activeColumnIdx = a') : s'.focus = some f := by
  have hget : (s.cells.eraseIdx i)[a']? = some e := by
    rw [List.getElem?_eraseIdx, ha']
    by_cases hlt : i < s.activeColumnIdx
    · rw [if_pos hlt, if_neg (by omega), Nat.sub_add_cancel (by omega), he]
    · rw [if_neg hlt, if_pos (by omega), he]
  by_cases hsame : k = s.activeColumnIdx
  · have hde : d = e := by
      rw [hsame] at hd
      exact Option.some.inj (hd.symm.trans he)
    have hka : k' = a' := by rw [hk', ha', hsame]
    refine focus_eq (c := (d.1 ++ [w], d.2)) ?_ ?_
    · rw [hactive, hcells, hka, List.getElem?_set_self (List.getElem?_eq_some_iff.mp hget).1]
    · show (d.1 ++ [w])[d.2]? = some f
      rw [List.getElem?_append_left, hde]
      · exact hf
      · rw [hde]
        exact (List.getElem?_eq_some_iff.mp hf).1
  · have hka : k' ≠ a' := by
      rw [hk', ha']
      split <;> split <;> omega
    refine focus_eq (c := e) ?_ hf
    rw [hactive, hcells, List.getElem?_set_ne hka, hget]

/-- A tile that shares column `i` has got a column of its own at `k`, right before
    or right after it. -/
theorem expelled_edit (h : s.WellFormed) {i j k : Nat} {w : W} {c : List W × Nat}
    (hc : s.cells[i]? = some c) (hj : c.1[j]? = some w) {active : Nat}
    (hcells : s'.cells = (s.cells.set i (c.1.eraseIdx j, active)).insertIdx k ([w], 0)) :
    s'.arrangement = Nested.expel s.arrangement w k := by
  rw [Nested.expel_eq (nodup_arrangement h) (arrangement_of_cell hc) hj, arrangement_eq,
    arrangement_eq, hcells, List.map_insertIdx, List.map_set]

omit [DecidableEq W] in
theorem expelled_focus {f : W} {i j k : Nat} {w : W} {c e : List W × Nat}
    (he : s.cells[s.activeColumnIdx]? = some e) (hf : e.1[e.2]? = some f)
    (hc : s.cells[i]? = some c) (hne : ¬(s.activeColumnIdx = i ∧ c.2 = j))
    (hcells : s'.cells = (s.cells.set i
      (c.1.eraseIdx j, Column.activeAfter c.2 j (c.1.length - 1))).insertIdx k ([w], 0))
    (hactive : s'.activeColumnIdx =
      if k ≤ s.activeColumnIdx then s.activeColumnIdx + 1 else s.activeColumnIdx) :
    s'.focus = some f := by
  have hmoved : s'.cells[s'.activeColumnIdx]? = (s.cells.set i
      (c.1.eraseIdx j, Column.activeAfter c.2 j (c.1.length - 1)))[s.activeColumnIdx]? := by
    rw [hcells, hactive]
    by_cases hle : k ≤ s.activeColumnIdx
    · rw [if_pos hle, List.getElem?_insertIdx_of_gt (by omega), Nat.add_sub_cancel]
    · rw [if_neg hle, List.getElem?_insertIdx_of_lt (by omega)]
  by_cases hi : i = s.activeColumnIdx
  · subst hi
    obtain rfl := Option.some.inj (hc.symm.trans he)
    have hj : c.2 ≠ j := fun hj => hne ⟨rfl, hj⟩
    rw [List.getElem?_set_self (List.getElem?_eq_some_iff.mp hc).1] at hmoved
    refine focus_eq hmoved ?_
    exact (getElem?_activeAfter hj).trans hf
  · rw [List.getElem?_set_ne hi, he] at hmoved
    exact focus_eq hmoved hf

/-- The column of the window that is moved, and whether it is the focused one. -/
structure Source (s : ScrollingSpace W F) (f w : W) (i j : Nat) (c : List W × Nat)
    (wasActive : Bool) : Prop where
  cell : s.cells[i]? = some c
  tile : c.1[j]? = some w
  index : Nested.indexOf s.arrangement w = i
  active_iff : wasActive = true ↔ s.activeColumnIdx = i ∧ c.2 = j
  window_eq : wasActive = true → w = f

theorem source_of (h : s.WellFormed) {f : W} (hf : s.focus = some f) {window : Option W}
    (hmem : ∀ w ∈ window, w ∈ s.windowIds) {i j : Nat}
    (heq : s.sourceTile window = some (i, j)) {col : Column W F} (hcol : s.columns[i]? = some col) :
    Source s f (window.getD f) i j col.cell
      (decide (s.activeColumnIdx = i) && decide (col.activeTileIdx = j)) := by
  have hc := cells_getElem? hcol
  have hj := sourceTile_cell h hf hmem heq hcol
  refine ⟨hc, hj, Nested.indexOf_eq (nodup_arrangement h) (arrangement_of_cell hc)
    (List.mem_of_getElem? hj), ?_, ?_⟩
  · rw [Bool.and_eq_true, decide_eq_true_eq, decide_eq_true_eq]
    rfl
  · intro hactive
    rw [Bool.and_eq_true, decide_eq_true_eq, decide_eq_true_eq] at hactive
    obtain ⟨rfl, rfl⟩ := hactive
    obtain ⟨e, he, hef⟩ := focus_cell hf
    obtain rfl := Option.some.inj (hc.symm.trans he)
    exact Option.some.inj (hj.symm.trans hef)

/-- A tile that is alone in its column. -/
theorem Source.eq_singleton {f w : W} {i j : Nat} {c : List W × Nat} {wasActive : Bool}
    (hsrc : Source s f w i j c wasActive) (hone : c.1.length = 1) : c.1 = [w] ∧ j = 0 := by
  obtain ⟨x, hx⟩ := List.length_eq_one_iff.mp hone
  have hj := (List.getElem?_eq_some_iff.mp hsrc.tile).1
  obtain rfl : j = 0 := by omega
  have htile := hsrc.tile
  rw [hx] at htile ⊢
  obtain rfl : x = w := Option.some.inj htile
  exact ⟨rfl, rfl⟩

/-- It has the focus or it is in another column. -/
theorem Source.active_ne (h : s.WellFormed) {f w : W} {i j : Nat} {c : List W × Nat}
    {wasActive : Bool} (hsrc : Source s f w i j c wasActive) (hone : c.1.length = 1)
    (hfalse : wasActive = false) : s.activeColumnIdx ≠ i := by
  intro heq
  have hlt := active_lt_of_cell h hsrc.cell
  have hj := (hsrc.eq_singleton hone).2
  rw [hsrc.active_iff.mpr ⟨heq, by omega⟩] at hfalse
  cases hfalse

theorem Source.ne_singleton {f w : W} {i j : Nat} {c : List W × Nat} {wasActive : Bool}
    (hsrc : Source s f w i j c wasActive) (hmany : c.1.length ≠ 1) :
    s.arrangement[i]? ≠ some [w] := by
  rw [arrangement_of_cell hsrc.cell]
  intro heq
  rw [Option.some.inj heq] at hmany
  exact hmany rfl

/-- The tile has gone to the end of the column at `k`. -/
theorem Source.consumed (h : s.WellFormed) {f w : W} {i j k k' : Nat} {c : List W × Nat}
    {wasActive : Bool} (hsrc : Source s f w i j c wasActive) (hone : c.1.length = 1)
    (hf : s.focus = some f) (hik : i ≠ k) (hk' : k' = if i < k then k - 1 else k)
    {s₁ : ScrollingSpace W F} (hcells₁ : s₁.cells = s.cells.eraseIdx i)
    (hactive₁ : s.activeColumnIdx ≠ i → s₁.activeColumnIdx =
      if i < s.activeColumnIdx then s.activeColumnIdx - 1 else s.activeColumnIdx)
    {d : List W × Nat} (hd : s₁.cells[k']? = some d)
    (hcells : s'.cells = s₁.cells.set k' (d.1.insertIdx d.1.length w,
      if wasActive then d.1.length else shifted d.2 d.1.length))
    (hactive : s'.activeColumnIdx = if wasActive then k' else s₁.activeColumnIdx) :
    s'.arrangement = Nested.consume s.arrangement w k ∧ s'.focus = some f := by
  have hd' : s.cells[k]? = some d := by
    rw [hcells₁, List.getElem?_eraseIdx, hk'] at hd
    by_cases hlt : i < k
    · rwa [if_pos hlt, if_neg (by omega), Nat.sub_add_cancel (by omega)] at hd
    · rwa [if_neg hlt, if_pos (by omega)] at hd
  have hshift : shifted d.2 d.1.length = d.2 :=
    if_neg (Nat.not_le_of_lt (active_lt_of_cell h hd'))
  rw [List.insertIdx_length_self, hshift, hcells₁] at hcells
  refine ⟨consumed_edit h hsrc.cell (hsrc.eq_singleton hone).1 hd' hik hk' hcells, ?_⟩
  cases hwas : wasActive with
  | true =>
    rw [hwas] at hcells hactive
    have hlt : k' < (s.cells.eraseIdx i).length := by
      rw [← hcells₁]
      exact (List.getElem?_eq_some_iff.mp hd).1
    refine focus_eq (c := (d.1 ++ [w], d.1.length)) ?_ ?_
    · rw [hactive, hcells]
      exact List.getElem?_set_self hlt
    · show (d.1 ++ [w])[d.1.length]? = some f
      rw [List.getElem?_concat_length, hsrc.window_eq hwas]
  | false =>
    have hne := hsrc.active_ne h hone hwas
    obtain ⟨e, he, hef⟩ := focus_cell hf
    rw [hwas] at hcells hactive
    exact consumed_focus he hef hne hd' hik hk' (hactive₁ hne) hcells hactive

/-- The tile has got a column of its own at `k`. -/
theorem Source.expelled (h : s.WellFormed) {f w : W} {i j k : Nat} {c : List W × Nat}
    {wasActive : Bool} (hsrc : Source s f w i j c wasActive) (hf : s.focus = some f)
    (hk : k ≤ s.cells.length)
    (hcells : s'.cells = (s.cells.set i
      (c.1.eraseIdx j, Column.activeAfter c.2 j (c.1.length - 1))).insertIdx k ([w], 0))
    (hactive : s'.activeColumnIdx = if wasActive then k
      else if k ≤ s.activeColumnIdx then s.activeColumnIdx + 1 else s.activeColumnIdx) :
    s'.arrangement = Nested.expel s.arrangement w k ∧ s'.focus = some f := by
  refine ⟨expelled_edit h hsrc.cell hsrc.tile hcells, ?_⟩
  cases hwas : wasActive with
  | true =>
    rw [hwas] at hactive
    refine focus_eq (c := ([w], 0)) ?_ ?_
    · rw [hactive, hcells, if_pos rfl, List.getElem?_insertIdx_self, if_pos]
      rwa [List.length_set]
    · exact congrArg some (hsrc.window_eq hwas)
  | false =>
    rw [hwas] at hactive
    obtain ⟨e, he, hef⟩ := focus_cell hf
    refine expelled_focus he hef hsrc.cell (fun hc => ?_) hcells hactive
    rw [hsrc.active_iff.mpr hc] at hwas
    cases hwas

/-- After the removal of another column the active column is the same. -/
theorem activeAfterColumn_of_ne (prev : Bool) {active i len : Nat} (hne : active ≠ i)
    (hi : i < len) (hactive : active < len) : activeAfterColumn prev active i (len - 1) =
      if i < active then active - 1 else active := by
  unfold activeAfterColumn
  rw [if_neg (show len - 1 ≠ 0 by omega)]
  by_cases hlt : i < active
  · rw [if_pos hlt, if_pos hlt]
  · rw [if_neg hlt, if_neg hlt, if_neg fun hc => hne hc.1.symm]
    omega

variable [One F] [BEq F]

omit [BEq F] in
/-- A tile that is alone in its column is taken from there to the end of another one. -/
theorem Source.consumed_run (h : s.WellFormed) {f w : W} {i k k' : Nat} {c : List W × Nat}
    {wasActive : Bool} (hsrc : Source s f w i 0 c wasActive) (hone : c.1.length = 1)
    (hf : s.focus = some f) (hik : i ≠ k) (hk' : k' = if i < k then k - 1 else k)
    {prev : Option F} {removed : RemovedTile W F} {s₁ : ScrollingSpace W F}
    (hs₁ : removeTileByIdx g { s with activatePrevColumnOnRemoval := prev } i 0 =
      some (removed, s₁))
    (hadd : s₁.addTileToColumn g k' none removed.tile wasActive = some s') :
    s'.arrangement = Nested.consume s.arrangement w k ∧ s'.focus = some f := by
  have hi : i < s.cells.length := (List.getElem?_eq_some_iff.mp hsrc.cell).1
  obtain ⟨c, hc, htile, hcases⟩ := removeTileByIdx_cells hs₁
  obtain rfl := Option.some.inj (hsrc.cell.symm.trans hc)
  obtain ⟨-, hcells₁, hactive₁⟩ := hcases.resolve_right fun hmany => hmany.1 hone
  obtain hw : removed.tile.id = w := Option.some.inj (htile.symm.trans hsrc.tile)
  obtain ⟨d, hd, hcells, hactive'⟩ := addTileToColumn_cells hadd
  rw [hw] at hcells
  refine hsrc.consumed h hone hf hik hk' hcells₁ (fun hne => hactive₁.trans ?_) hd hcells hactive'
  exact activeAfterColumn_of_ne _ hne hi (active_lt_of_focus hf)

/-- A tile that is not alone in its column is taken from there to one of its own. -/
theorem Source.expelled_run (h : s.WellFormed) {f w : W} {i j k : Nat} {c : List W × Nat}
    {wasActive : Bool} (hsrc : Source s f w i j c wasActive) (hmany : c.1.length ≠ 1)
    (hf : s.focus = some f) (hk : k ≤ s.cells.length)
    {removed : RemovedTile W F} {s₁ : ScrollingSpace W F}
    (hs₁ : s.removeTileByIdx g i j = some (removed, s₁))
    (hadd : s₁.addTile g (some k) removed.tile wasActive removed.width removed.isFullWidth =
      some s') :
    s'.arrangement = Nested.expel s.arrangement w k ∧ s'.focus = some f := by
  have hactive := active_lt_of_focus hf
  obtain ⟨c, hc, htile, hcases⟩ := removeTileByIdx_cells hs₁
  obtain rfl := Option.some.inj (hsrc.cell.symm.trans hc)
  obtain ⟨-, hcells₁, hactive₁⟩ := hcases.resolve_left fun hone => hmany hone.1
  obtain hw : removed.tile.id = w := Option.some.inj (htile.symm.trans hsrc.tile)
  obtain ⟨-, hcells, hactive'⟩ := addTile_cells hadd
  rw [hw, hcells₁] at hcells
  refine hsrc.expelled h hf hk hcells (hactive'.trans ?_)
  have hne₁ : s₁.columns ≠ [] := by
    rw [← List.length_pos_iff, ← length_cells, hcells₁, List.length_set]
    omega
  simp only [hne₁, ne_eq, not_false_eq_true, true_and, hactive₁]

theorem consumeOrExpelWindowLeft_edit (h : s.WellFormed) {f : W} (hf : s.focus = some f)
    {window : Option W} (hmem : ∀ w ∈ window, w ∈ s.windowIds)
    (hstep : s.consumeOrExpelWindowLeft g window = some s') :
    s'.arrangement =
        (ColumnOp.consumeOrExpelWindowLeft window).edit f s.beside s.arrangement ∧
      s'.focus = some f := by
  rw [consumeOrExpelWindowLeft, if_neg (columns_ne_of_focus h hf)] at hstep
  obtain ⟨⟨i, j⟩, hsource, hrest⟩ := Option.bind_eq_some_iff.mp hstep
  obtain ⟨source, hcol, hbody⟩ := Option.bind_eq_some_iff.mp hrest
  have hsrc := source_of h hf hmem hsource hcol
  have hlen : source.cell.1.length = source.tiles.length := Column.length_ids source
  have hi : i < s.cells.length := (List.getElem?_eq_some_iff.mp hsrc.cell).1
  unfold ColumnOp.edit
  dsimp only at hbody ⊢
  rw [hsrc.index]
  split at hbody
  · next hone =>
    rw [← hlen] at hone
    obtain ⟨hsingle, rfl⟩ := hsrc.eq_singleton hone
    rw [if_pos (hsingle ▸ arrangement_of_cell hsrc.cell)]
    split at hbody
    · next hzero =>
      obtain rfl := Option.some.inj hbody
      exact ⟨(if_pos hzero).symm, hf⟩
    · next hzero =>
      rw [if_neg hzero]
      obtain ⟨⟨removed, s₁⟩, hs₁, hadd⟩ := Option.bind_eq_some_iff.mp hbody
      exact hsrc.consumed_run h hone hf (by omega) (if_neg (by omega)).symm hs₁ hadd
  · next hmany =>
    rw [← hlen] at hmany
    rw [if_neg (hsrc.ne_singleton hmany)]
    obtain ⟨⟨removed, s₁⟩, hs₁, hbody⟩ := Option.bind_eq_some_iff.mp hbody
    obtain ⟨s₂, hadd, hbody⟩ := Option.bind_eq_some_iff.mp hbody
    obtain rfl := Option.some.inj hbody
    have hmoved := hsrc.expelled_run h hmany hf (Nat.le_of_lt hi) hs₁ hadd
    exact hmoved

theorem consumeOrExpelWindowRight_edit (h : s.WellFormed) {f : W} (hf : s.focus = some f)
    {window : Option W} (hmem : ∀ w ∈ window, w ∈ s.windowIds)
    (hstep : s.consumeOrExpelWindowRight g window = some s') :
    s'.arrangement =
        (ColumnOp.consumeOrExpelWindowRight window).edit f s.beside s.arrangement ∧
      s'.focus = some f := by
  rw [consumeOrExpelWindowRight, if_neg (columns_ne_of_focus h hf)] at hstep
  obtain ⟨⟨i, j⟩, hsource, hrest⟩ := Option.bind_eq_some_iff.mp hstep
  obtain ⟨source, hcol, hbody⟩ := Option.bind_eq_some_iff.mp hrest
  have hsrc := source_of h hf hmem hsource hcol
  have hlen : source.cell.1.length = source.tiles.length := Column.length_ids source
  unfold ColumnOp.edit
  dsimp only at hbody ⊢
  rw [hsrc.index]
  split at hbody
  · next hone =>
    rw [← hlen] at hone
    obtain ⟨hsingle, rfl⟩ := hsrc.eq_singleton hone
    rw [if_pos (hsingle ▸ arrangement_of_cell hsrc.cell), length_arrangement]
    split at hbody
    · next hlast =>
      obtain rfl := Option.some.inj hbody
      exact ⟨(if_pos hlast).symm, hf⟩
    · next hlast =>
      rw [if_neg hlast]
      obtain ⟨⟨removed, s₁⟩, hs₁, hadd⟩ := Option.bind_eq_some_iff.mp hbody
      exact hsrc.consumed_run h hone hf (by omega) (if_pos (Nat.lt_succ_self i)).symm hs₁ hadd
  · next hmany =>
    rw [← hlen] at hmany
    rw [if_neg (hsrc.ne_singleton hmany)]
    obtain ⟨⟨removed, s₁⟩, hs₁, hadd⟩ := Option.bind_eq_some_iff.mp hbody
    exact hsrc.expelled_run h hmany hf (List.getElem?_eq_some_iff.mp hsrc.cell).1 hs₁ hadd

omit [BEq F] in
theorem consumeIntoColumn_edit (h : s.WellFormed) {f : W} (hf : s.focus = some f)
    (hstep : s.consumeIntoColumn g = some s') :
    s'.arrangement = (ColumnOp.consumeIntoColumn).edit f s.beside s.arrangement ∧
      s'.focus = some f := by
  obtain ⟨e, he, hef⟩ := focus_cell hf
  have hactive := active_lt_of_focus hf
  have hlen := length_cells s
  unfold ColumnOp.edit
  dsimp only
  rw [indexOf_focus h he hef]
  rw [consumeIntoColumn] at hstep
  -- no column on the right
  have hlast : s.activeColumnIdx + 1 = s.columns.length →
      s.arrangement[s.activeColumnIdx + 1]? = none := by
    intro heq
    rw [List.getElem?_eq_none_iff, length_arrangement]
    omega
  split at hstep
  · obtain rfl := Option.some.inj hstep
    rw [hlast (by omega)]
    exact ⟨rfl, hf⟩
  · split at hstep
    · obtain rfl := Option.some.inj hstep
      rw [hlast (by omega)]
      exact ⟨rfl, hf⟩
    · obtain ⟨⟨removed, s₁⟩, hs₁, hstep⟩ := Option.bind_eq_some_iff.mp hstep
      obtain ⟨c, hc, htile, hcases⟩ := removeTileByIdx_cells hs₁
      obtain ⟨d, hd, hcells, hactive'⟩ := addTileToColumn_cells hstep
      have hcol : s.arrangement[s.activeColumnIdx + 1]? = some c.1 := arrangement_of_cell hc
      obtain ⟨rest, hrest⟩ : ∃ rest, c.1 = removed.tile.id :: rest := by
        cases hcl : c.1 with
        | nil => rw [hcl] at htile; cases htile
        | cons x rest =>
          rw [hcl] at htile
          exact ⟨rest, congrArg (· :: rest) (Option.some.inj htile)⟩
      rw [hcol, hrest]
      dsimp only
      -- the active column has the same cell in between
      have hsame : s₁.cells[s.activeColumnIdx]? = s.cells[s.activeColumnIdx]? ∧
          s₁.activeColumnIdx = s.activeColumnIdx := by
        rcases hcases with ⟨-, hcells₁, hactive₁⟩ | ⟨-, hcells₁, hactive₁⟩
        · refine ⟨by rw [hcells₁, List.getElem?_eraseIdx_of_lt (Nat.lt_succ_self _)], ?_⟩
          rw [hactive₁, activeAfterColumn_of_ne _ (by omega)
            (List.getElem?_eq_some_iff.mp hc).1 hactive, if_neg (by omega)]
        · exact ⟨by rw [hcells₁, List.getElem?_set_ne (by omega)], hactive₁⟩
      have hde : d = e := Option.some.inj (hd.symm.trans (hsame.1.trans he))
      subst hde
      have hshift : shifted d.2 d.1.length = d.2 :=
        if_neg (Nat.not_le_of_lt (active_lt_of_cell h he))
      rw [Option.getD_none, List.insertIdx_length_self, if_neg Bool.false_ne_true, hshift] at hcells
      refine ⟨?_, ?_⟩
      · have harr : s'.arrangement = s₁.arrangement.set s.activeColumnIdx
            (d.1 ++ [removed.tile.id]) := by
          rw [arrangement_eq, hcells, List.map_set, ← arrangement_eq]
        rw [harr]
        rcases hcases with ⟨hone, hcells₁, -⟩ | ⟨hmany, hcells₁, -⟩
        · have hsingle : c.1 = [removed.tile.id] := by
            rw [hrest] at hone ⊢
            rw [List.length_cons, Nat.add_eq_right] at hone
            rw [List.eq_nil_of_length_eq_zero hone]
          rw [Nested.consume_of_one (nodup_arrangement h) (ne_nil_of_mem_arrangement h)
            (hsingle ▸ hcol) (arrangement_of_cell he) (by omega),
            List.eraseIdx_set_gt (Nat.lt_succ_self _), arrangement_eq s₁, hcells₁,
            ← List.eraseIdx_map, ← arrangement_eq]
        · rw [Nested.consume_of_many (nodup_arrangement h) (ne_nil_of_mem_arrangement h) hcol htile
            hmany (arrangement_of_cell he) (by omega), arrangement_eq s₁, hcells₁, List.map_set,
            ← arrangement_eq]
      · have hlt : s.activeColumnIdx < s₁.cells.length := (List.getElem?_eq_some_iff.mp hd).1
        refine focus_eq (c := (d.1 ++ [removed.tile.id], d.2)) ?_ ?_
        · rw [hactive', if_neg Bool.false_ne_true, hsame.2, hcells, List.getElem?_set_self hlt]
        · show (d.1 ++ [removed.tile.id])[d.2]? = some f
          rw [List.getElem?_append_left (active_lt_of_cell h he), hef]

/-- The bottom tile of the active column is expelled; the tile above it is focused
    when it had the focus. -/
theorem expelFromColumn_edit (h : s.WellFormed) {f : W} (hf : s.focus = some f)
    (hstep : s.expelFromColumn g = some s') :
    s'.arrangement = (ColumnOp.expelFromColumn).edit f s.beside s.arrangement ∧
      s'.focus = some ((ColumnOp.expelFromColumn).focusAfter f s.arrangement) := by
  obtain ⟨e, he, hef⟩ := focus_cell hf
  have hactive := active_lt_of_focus hf
  have hcol : s.arrangement[s.activeColumnIdx]? = some e.1 := arrangement_of_cell he
  unfold ColumnOp.edit ColumnOp.focusAfter
  dsimp only
  rw [indexOf_focus h he hef, hcol, Option.bind_some, Option.getD_some]
  rw [expelFromColumn, if_neg (columns_ne_of_focus h hf)] at hstep
  obtain ⟨source, hsource, hbody⟩ := Option.bind_eq_some_iff.mp hstep
  obtain rfl : source.cell = e := Option.some.inj ((cells_getElem? hsource).symm.trans he)
  have hlen : source.cell.1.length = source.tiles.length := Column.length_ids source
  have hlt := active_lt_of_cell h he
  rw [← hlen] at hbody
  split at hbody
  · next hone =>
    -- a single tile stays where it is
    obtain rfl := Option.some.inj hbody
    obtain ⟨x, hx⟩ := List.length_eq_one_iff.mp hone
    have hzero : source.cell.2 = 0 := by omega
    rw [hx, hzero] at hef
    obtain rfl : x = f := Option.some.inj hef
    rw [hx]
    refine ⟨(if_pos rfl).symm, hf.trans (congrArg some ?_)⟩
    exact (if_pos rfl).symm
  · next hmany =>
    obtain ⟨⟨removed, s₁⟩, hs₁, hadd⟩ := Option.bind_eq_some_iff.mp hbody
    obtain ⟨c, hc, htile, hcases⟩ := removeTileByIdx_cells hs₁
    obtain rfl : source.cell = c := Option.some.inj (he.symm.trans hc)
    obtain ⟨-, hcells₁, hactive₁⟩ := hcases.resolve_left fun hone => hmany hone.1
    obtain ⟨-, hcells, hactive'⟩ := addTile_cells hadd
    rw [hcells₁] at hcells
    have hne : some source.cell.1 ≠ some [removed.tile.id] := by
      intro heq
      rw [Option.some.inj heq] at hmany
      exact hmany rfl
    rw [List.getLast?_eq_getElem?, htile]
    dsimp only
    rw [if_neg hne]
    refine ⟨expelled_edit h he htile hcells, ?_⟩
    have hactive'' : s'.activeColumnIdx = s.activeColumnIdx := by
      rw [hactive', if_neg Bool.false_ne_true, hactive₁, if_neg (by omega)]
    by_cases hbottom : source.cell.2 = source.cell.1.length - 1
    · -- the focused tile goes: the new bottom tile is active
      rw [← hbottom, hef] at htile
      have hafter : Column.activeAfter source.cell.2 (source.cell.1.length - 1)
          (source.cell.1.length - 1) = source.cell.1.length - 2 := by
        unfold Column.activeAfter
        rw [if_neg (by omega), if_pos ⟨by omega, by omega⟩]
        omega
      have habove : source.cell.1.length - 2 < source.cell.1.length := by omega
      rw [if_pos htile.symm, List.getElem?_eq_getElem habove, Option.getD_some]
      refine focus_eq (c := (source.cell.1.eraseIdx (source.cell.1.length - 1),
        source.cell.1.length - 2)) ?_ ?_
      · rw [hactive'', hcells, List.getElem?_insertIdx_of_lt (Nat.lt_succ_self _),
          List.getElem?_set_self hactive, hafter]
      · show (source.cell.1.eraseIdx _)[source.cell.1.length - 2]? = _
        rw [List.getElem?_eraseIdx_of_lt (by omega), List.getElem?_eq_getElem habove]
    · have hother : removed.tile.id ≠ f := by
        intro heq
        rw [heq] at htile
        have hnodup := Nested.nodup_of_getElem? (nodup_arrangement h) hcol
        exact hbottom ((List.getElem?_inj hlt hnodup).mp (hef.trans htile.symm))
      rw [if_neg fun heq => hother (Option.some.inj heq)]
      refine expelled_focus he hef he (fun hc => hbottom hc.2) hcells ?_
      rw [hactive'', if_neg (by omega)]

end Consume

/-! ## Swap -/

section Swap

variable [DecidableEq W] [One F]

/-- The tile at `j` of column `k` is replaced, and handed back. -/
theorem replaceTile_cells {k j : Nat} {tile : Tile W F} {removed : RemovedTile W F}
    (hstep : s.replaceTile g k j tile = some (removed, s')) :
    ∃ d active, s.cells[k]? = some d ∧ d.1[j]? = some removed.tile.id ∧
      s'.cells = s.cells.set k (d.1.set j tile.id, active) := by
  obtain ⟨s₁, hs₁, hremove⟩ := Option.bind_eq_some_iff.mp hstep
  obtain ⟨d, hd, hcells₁, -⟩ := addTileToColumn_cells hs₁
  obtain ⟨c, hc, htile, hcases⟩ := removeTileByIdx_cells hremove
  have hk : k < s.cells.length := (List.getElem?_eq_some_iff.mp hd).1
  rw [hcells₁, List.getElem?_set_self hk] at hc
  obtain rfl := Option.some.inj hc
  rw [Option.getD_some] at htile hcases
  dsimp only at htile hcases
  have hlt : j + 1 < (d.1.insertIdx j tile.id).length := (List.getElem?_eq_some_iff.mp htile).1
  have hj : j < d.1.length := by
    rw [List.length_insertIdx] at hlt
    split at hlt <;> omega
  obtain ⟨-, hcells, -⟩ := hcases.resolve_left fun hone => by omega
  rw [hcells₁, List.set_set, Nested.insertIdx_eraseIdx_succ hj] at hcells
  refine ⟨d, _, hd, ?_, hcells⟩
  rwa [List.getElem?_insertIdx_of_gt (Nat.lt_succ_self j), Nat.succ_sub_one] at htile

omit [DecidableEq W] [One F] in
theorem ne_of_beside {direction : ScrollDirection} {i k : Nat} (h : Beside direction i k) :
    i ≠ k := by
  cases direction with
  | left => exact Nat.ne_of_gt (Nat.lt_of_succ_le (Nat.le_of_eq h))
  | right => exact Nat.ne_of_lt (Nat.lt_of_succ_le (Nat.le_of_eq h.symm))

variable [BEq F]

/-- The two tiles have changed places; which tiles are active in their columns is
    set right afterwards. -/
theorem swapTiles_cells {direction : ScrollDirection} {i j k j' : Nat}
    (hbeside : Beside direction i k) {c d : List W × Nat} {a b : W} (hc : s.cells[i]? = some c)
    (ha : c.1[j]? = some a) (hd : s.cells[k]? = some d) (hb : d.1[j']? = some b) {drained : Bool}
    (hdrained : drained = true ↔ c.1.length = 1)
    (hstep : s.swapTiles g direction i j k j' drained = some s') :
    ∃ n n', s'.cells = (s.cells.set i (c.1.set j b, n)).set k (d.1.set j' a, n') := by
  obtain ⟨⟨removed, s₁⟩, hs₁, hrest⟩ := Option.bind_eq_some_iff.mp hstep
  obtain ⟨⟨replaced, s₂⟩, hs₂, hlast⟩ := Option.bind_eq_some_iff.mp hrest
  obtain ⟨c', hc', htile, hcases⟩ := removeTileByIdx_cells hs₁
  obtain rfl := Option.some.inj (hc.symm.trans hc')
  obtain rfl : removed.tile.id = a := Option.some.inj (htile.symm.trans ha)
  obtain ⟨d', n', hd', htile', hcells₂⟩ := replaceTile_cells hs₂
  have hi : i < s.cells.length := (List.getElem?_eq_some_iff.mp hc).1
  have hik : i ≠ k := ne_of_beside hbeside
  cases drained with
  | false =>
    obtain ⟨-, hcells₁, -⟩ := hcases.resolve_left fun hone =>
      Bool.false_ne_true (hdrained.mpr hone.1)
    have hadjusted : adjustedTarget direction k false = k :=
      if_neg fun h => Bool.false_ne_true h.2
    rw [hadjusted] at hd' hcells₂
    rw [hcells₁, List.getElem?_set_ne hik, hd] at hd'
    obtain rfl := Option.some.inj hd'
    obtain rfl : replaced.tile.id = b := Option.some.inj (htile'.symm.trans hb)
    obtain ⟨e, he, hcells, -⟩ := addTileToColumn_cells hlast
    rw [hcells₂, hcells₁, List.getElem?_set_ne (Ne.symm hik), List.getElem?_set_self hi] at he
    obtain rfl := Option.some.inj he
    have hj : j ≠ c.1.length := Nat.ne_of_lt (List.getElem?_eq_some_iff.mp ha).1
    rw [hcells₂, hcells₁, List.set_comm _ _ (Ne.symm hik), List.set_set, Option.getD_some,
      List.insertIdx_eraseIdx_self hj] at hcells
    exact ⟨_, n', hcells⟩
  | true =>
    have hone := hdrained.mp rfl
    obtain ⟨-, hcells₁, -⟩ := hcases.resolve_right fun hmany => hmany.1 hone
    have hj : j = 0 := by
      have hlt := (List.getElem?_eq_some_iff.mp ha).1
      omega
    obtain ⟨x, hx⟩ := List.length_eq_one_iff.mp hone
    obtain ⟨-, hcells, -⟩ := addTile_cells hlast
    refine ⟨0, n', ?_⟩
    rw [hx, hj, List.set_cons_zero]
    cases direction with
    | left =>
      have hki : k < i := Nat.lt_of_succ_le (Nat.le_of_eq hbeside)
      have hadjusted : adjustedTarget .left k true = k := rfl
      rw [hadjusted] at hd' hcells₂
      rw [hcells₁, List.getElem?_eraseIdx_of_lt hki, hd] at hd'
      obtain rfl := Option.some.inj hd'
      obtain rfl : replaced.tile.id = b := Option.some.inj (htile'.symm.trans hb)
      rw [hcells, hcells₂, hcells₁, ← List.eraseIdx_set_gt hki,
        List.insertIdx_eraseIdx_self (by rw [List.length_set]; omega),
        List.set_comm _ _ (Ne.symm hik)]
    | right =>
      have hki : k = i + 1 := hbeside
      have hadjusted : adjustedTarget .right k true = k - 1 := rfl
      rw [hadjusted] at hd' hcells₂
      rw [hcells₁, List.getElem?_eraseIdx_of_ge (by omega), Nat.sub_add_cancel (by omega),
        hd] at hd'
      obtain rfl := Option.some.inj hd'
      obtain rfl : replaced.tile.id = b := Option.some.inj (htile'.symm.trans hb)
      rw [hcells, hcells₂, hcells₁, ← List.eraseIdx_set_lt (by omega),
        List.insertIdx_eraseIdx_self (by rw [List.length_set]; omega),
        List.set_comm _ _ (Ne.symm hik)]

omit [DecidableEq W] [One F] [BEq F] in
theorem beside_eq {direction : ScrollDirection} {k : Nat}
    (h : Beside direction s.activeColumnIdx k) :
    s.beside direction = s.cells[k]?.bind fun c => c.1[c.2]? := by
  cases direction with
  | left =>
    have hk : k + 1 = s.activeColumnIdx := h
    rw [beside, if_neg (by omega), show s.activeColumnIdx - 1 = k by omega]
  | right =>
    have hk : k = s.activeColumnIdx + 1 := h
    rw [beside, hk]

omit [DecidableEq W] [One F] [BEq F] in
theorem focus_of_hasColumn (h : s.WellFormed) {direction : ScrollDirection}
    (hcolumn : s.HasColumn direction) : ∃ f, s.focus = some f := by
  rw [← Option.ne_none_iff_exists']
  intro hnone
  have hempty := (focus_none_iff h).mp hnone
  have hlt := h.active_lt
  rw [hempty] at hlt
  have hzero : s.activeColumnIdx = 0 := by simpa using hlt
  cases direction with
  | left =>
    have hpos : 0 < s.activeColumnIdx := hcolumn
    omega
  | right =>
    have hright : s.activeColumnIdx + 1 < s.columns.length := hcolumn
    rw [hempty] at hright
    cases hright

omit [DecidableEq W] [One F] [BEq F] in
theorem beside_ne_none (h : s.WellFormed) {direction : ScrollDirection}
    (hcolumn : s.HasColumn direction) : s.beside direction ≠ none := by
  obtain ⟨f, hf⟩ := focus_of_hasColumn h hcolumn
  have hactive := active_lt_of_focus hf
  have hlen := length_cells s
  -- a column that is there has an active tile
  have hcell : ∀ k, k < s.cells.length → (s.cells[k]?.bind fun c => c.1[c.2]?) ≠ none := by
    intro k hk
    rw [List.getElem?_eq_getElem hk, Option.bind_some,
      List.getElem?_eq_getElem (active_lt_of_cell h (List.getElem?_eq_getElem hk))]
    exact Option.some_ne_none _
  cases direction with
  | left =>
    have hpos : 0 < s.activeColumnIdx := hcolumn
    rw [beside, if_neg (by omega)]
    exact hcell _ (by omega)
  | right =>
    have hright : s.activeColumnIdx + 1 < s.columns.length := hcolumn
    exact hcell _ (by omega)

/-- The active tiles `a` and `b` of two columns side by side have changed places,
    and the other column is the active one. -/
structure Swapped (s s' : ScrollingSpace W F) (direction : ScrollDirection)
    (c d : List W × Nat) (a b : W) : Prop where
  source : s.cells[s.activeColumnIdx]? = some c
  source_tile : c.1[c.2]? = some a
  target : s.cells[s'.activeColumnIdx]? = some d
  target_tile : d.1[d.2]? = some b
  beside : Beside direction s.activeColumnIdx s'.activeColumnIdx
  cells_eq : s'.cells =
    (s.cells.set s.activeColumnIdx (c.1.set c.2 b, c.2)).set s'.activeColumnIdx (d.1.set d.2 a, d.2)

section Swapped

variable {direction : ScrollDirection} {c d : List W × Nat} {a b : W}

omit [DecidableEq W] [One F] [BEq F] in
theorem Swapped.beside_eq_some (hsw : Swapped s s' direction c d a b) :
    s.beside direction = some b := by
  rw [beside_eq hsw.beside, hsw.target]
  exact hsw.target_tile

omit [One F] [BEq F] in
theorem Swapped.arrangement_eq_exchange (h : s.WellFormed)
    (hsw : Swapped s s' direction c d a b) :
    s'.arrangement = Nested.exchange s.arrangement a b := by
  rw [Nested.exchange_between (nodup_arrangement h) (arrangement_of_cell hsw.source)
    hsw.source_tile (arrangement_of_cell hsw.target) hsw.target_tile (ne_of_beside hsw.beside),
    arrangement_eq, arrangement_eq, hsw.cells_eq, List.map_set, List.map_set]

omit [DecidableEq W] [One F] [BEq F] in
theorem Swapped.focus_eq (hsw : Swapped s s' direction c d a b) : s'.focus = some a := by
  have hlt : s'.activeColumnIdx < s.cells.length := (List.getElem?_eq_some_iff.mp hsw.target).1
  refine ScrollingSpace.focus_eq (c := (d.1.set d.2 a, d.2)) ?_ ?_
  · rw [hsw.cells_eq, List.getElem?_set_self (by rwa [List.length_set])]
  · exact List.getElem?_set_self (List.getElem?_eq_some_iff.mp hsw.target_tile).1

omit [DecidableEq W] [One F] [BEq F] in
/-- The tile it changed places with is on the other side now. -/
theorem Swapped.beside_back (hsw : Swapped s s' direction c d a b) {back : ScrollDirection}
    (hback : Beside back s'.activeColumnIdx s.activeColumnIdx) : s'.beside back = some b := by
  have hlt : s.activeColumnIdx < s.cells.length := (List.getElem?_eq_some_iff.mp hsw.source).1
  rw [beside_eq hback, hsw.cells_eq, List.getElem?_set_ne (Ne.symm (ne_of_beside hsw.beside)),
    List.getElem?_set_self hlt, Option.bind_some]
  exact List.getElem?_set_self (List.getElem?_eq_some_iff.mp hsw.source_tile).1

omit [One F] [BEq F] in
/-- Two columns of one tile each: the active column is moved past the other. -/
theorem swapped_of_moveColumnTo {k : Nat} (hc : s.cells[s.activeColumnIdx]? = some c)
    (ha : c.1[c.2]? = some a) (hd : s.cells[k]? = some d) (hb : d.1[d.2]? = some b)
    (hone : c.1.length = 1) (hone' : d.1.length = 1)
    (hbeside : Beside direction s.activeColumnIdx k) (hstep : s.moveColumnTo g k = some s') :
    Swapped s s' direction c d a b := by
  obtain ⟨c', hc', hcells, rfl⟩ := moveColumnTo_cells hstep (ne_of_beside hbeside)
  obtain rfl := Option.some.inj (hc.symm.trans hc')
  -- the columns consist of the two tiles
  have hsingle : ∀ (e : List W × Nat) (x y : W), e.1.length = 1 → e.1[e.2]? = some x →
      (e.1.set e.2 y, e.2) = ([y], 0) ∧ e = ([x], 0) := by
    rintro ⟨l, n⟩ x y hlen hx
    obtain ⟨z, rfl⟩ := List.length_eq_one_iff.mp hlen
    have hn : n < 1 := (List.getElem?_eq_some_iff.mp hx).1
    obtain rfl : n = 0 := by omega
    obtain rfl : z = x := Option.some.inj hx
    exact ⟨rfl, rfl⟩
  refine ⟨hc, ha, hd, hb, hbeside, ?_⟩
  rw [hcells, (hsingle c a b hone ha).1, (hsingle d b a hone' hb).1]
  obtain rfl := (hsingle c a b hone ha).2
  obtain rfl := (hsingle d b a hone' hb).2
  generalize s'.activeColumnIdx = k at *
  cases direction with
  | left =>
    have hk : k + 1 = s.activeColumnIdx := hbeside
    rw [← hk] at hc ⊢
    exact Nested.move_left_eq hd hc
  | right =>
    have hk : k = s.activeColumnIdx + 1 := hbeside
    rw [hk] at hd ⊢
    exact Nested.move_right_eq hc hd

end Swapped

theorem swapWindowInDirection_swapped (h : s.WellFormed) {f : W} (hf : s.focus = some f)
    {direction : ScrollDirection} (hstep : s.swapWindowInDirection g direction = some s') :
    (s.beside direction = none ∧ s' = s) ∨ ∃ c d b, Swapped s s' direction c d f b := by
  have hne := columns_ne_of_focus h hf
  have hlen := length_cells s
  have hactive := active_lt_of_focus hf
  rw [swapWindowInDirection, if_neg hne] at hstep
  split at hstep
  · next hleft =>
    obtain ⟨rfl, hzero⟩ := hleft
    exact Or.inl ⟨if_pos hzero, (Option.some.inj hstep).symm⟩
  split at hstep
  · next hright =>
    obtain ⟨rfl, hlast⟩ := hright
    refine Or.inl ⟨?_, (Option.some.inj hstep).symm⟩
    rw [beside, List.getElem?_eq_none (by omega)]
    rfl
  · next hleft hright =>
    have hbeside : Beside direction s.activeColumnIdx (direction.shift s.activeColumnIdx) := by
      cases direction with
      | left => exact Nat.succ_pred_eq_of_ne_zero (by simpa using hleft)
      | right => rfl
    obtain ⟨source, hsource, htargets⟩ := Option.bind_eq_some_iff.mp hstep
    obtain ⟨target, htarget, hbody⟩ := Option.bind_eq_some_iff.mp htargets
    obtain ⟨c, hc, ha⟩ := focus_cell hf
    obtain rfl : source.cell = c := Option.some.inj ((cells_getElem? hsource).symm.trans hc)
    have hd := cells_getElem? htarget
    obtain ⟨b, hb⟩ : ∃ b, target.cell.1[target.cell.2]? = some b :=
      ⟨_, List.getElem?_eq_getElem (active_lt_of_cell h hd)⟩
    refine Or.inr ⟨source.cell, target.cell, b, ?_⟩
    generalize direction.shift s.activeColumnIdx = k at *
    split at hbody
    · next hones =>
      exact swapped_of_moveColumnTo hc ha hd hb ((Column.length_ids source).trans hones.1)
        ((Column.length_ids target).trans hones.2) hbeside hbody
    · obtain ⟨s₁, hs₁, hset⟩ := Option.bind_eq_some_iff.mp hbody
      obtain ⟨s₂, hs₂, hset'⟩ := Option.bind_eq_some_iff.mp hset
      obtain ⟨s₃, hs₃, hactivate⟩ := Option.bind_eq_some_iff.mp hset'
      obtain ⟨n, n', hcells₁⟩ := swapTiles_cells hbeside hc ha hd hb
        (decide_eq_true_iff.trans (Iff.of_eq (congrArg (· = 1) (Column.length_ids source).symm))) hs₁
      obtain ⟨e, he, hcells₂, -⟩ := setActiveTile_cells hs₂
      obtain ⟨e', he', hcells₃, -⟩ := setActiveTile_cells hs₃
      obtain ⟨hcells, rfl⟩ := activateColumn_cells hactivate
      have hik := ne_of_beside hbeside
      have hk : s'.activeColumnIdx < s.cells.length := (List.getElem?_eq_some_iff.mp hd).1
      refine ⟨hc, ha, hd, hb, hbeside, ?_⟩
      rw [hcells₁, List.getElem?_set_ne (Ne.symm hik), List.getElem?_set_self hactive] at he
      obtain rfl := Option.some.inj he
      rw [hcells₂, List.getElem?_set_ne hik, hcells₁,
        List.getElem?_set_self (by rwa [List.length_set])] at he'
      obtain rfl := Option.some.inj he'
      rw [hcells, hcells₃, hcells₂, hcells₁, List.set_comm _ _ (Ne.symm hik), List.set_set,
        List.set_set]
      rfl

theorem swapWindowInDirection_edit (h : s.WellFormed) {f : W} (hf : s.focus = some f)
    {direction : ScrollDirection} (hstep : s.swapWindowInDirection g direction = some s') :
    s'.arrangement =
        (ColumnOp.swapWindowInDirection direction).edit f s.beside s.arrangement ∧
      s'.focus = some f := by
  unfold ColumnOp.edit
  dsimp only
  rcases swapWindowInDirection_swapped h hf hstep with ⟨hnone, rfl⟩ | ⟨c, d, b, hsw⟩
  · rw [hnone]
    exact ⟨rfl, hf⟩
  · rw [hsw.beside_eq_some]
    exact ⟨hsw.arrangement_eq_exchange h, hsw.focus_eq⟩

end Swap

/-! ## Move -/

section Move

variable [DecidableEq W]

/-- The active column is moved; its active tile keeps the focus. -/
theorem moveColumnTo_edit (h : s.WellFormed) {f : W} (hf : s.focus = some f) {k : Nat}
    (hk : k < s.columns.length) (hstep : s.moveColumnTo g k = some s') :
    s'.arrangement = Nested.moveList s.arrangement (Nested.indexOf s.arrangement f) k ∧
      s'.focus = some f := by
  obtain ⟨c, hc, hcf⟩ := focus_cell hf
  have hcol := arrangement_of_cell hc
  have hactive := active_lt_of_focus hf
  rw [indexOf_focus h hc hcf, Nested.moveList, hcol]
  dsimp only
  by_cases heq : s.activeColumnIdx = k
  · rw [moveColumnTo, if_pos heq] at hstep
    obtain rfl := Option.some.inj hstep
    obtain ⟨hlt, hget⟩ := List.getElem?_eq_some_iff.mp hcol
    rw [← heq, ← hget, List.insertIdx_eraseIdx_getElem hlt]
    exact ⟨rfl, hf⟩
  · obtain ⟨c', hc', hcells, hactive'⟩ := moveColumnTo_cells hstep heq
    obtain rfl := Option.some.inj (hc.symm.trans hc')
    refine ⟨?_, focus_eq (c := c) ?_ hcf⟩
    · rw [arrangement_eq, arrangement_eq, hcells, List.map_insertIdx, List.eraseIdx_map]
    · rw [hactive', hcells, List.getElem?_insertIdx_self, if_pos]
      rw [List.length_eraseIdx_of_lt hactive, length_cells]
      omega

theorem moveLeft_edit (h : s.WellFormed) {f : W} (hf : s.focus = some f)
    (hstep : s.moveLeft g = some s') :
    s'.arrangement = (ColumnOp.moveLeft).edit f s.beside s.arrangement ∧ s'.focus = some f := by
  have hlen := length_cells s
  have hactive := active_lt_of_focus hf
  obtain ⟨c, hc, hcf⟩ := focus_cell hf
  have hidx := indexOf_focus h hc hcf
  have hmove : s.moveColumnTo g (s.activeColumnIdx - 1) = some s' := by
    rw [moveLeft] at hstep
    split at hstep
    · next hzero => rw [moveColumnTo, if_pos (by omega), hstep]
    · exact hstep
  have hedit := moveColumnTo_edit h hf (by omega) hmove
  rw [← hidx] at hedit
  exact hedit

theorem moveRight_edit (h : s.WellFormed) {f : W} (hf : s.focus = some f)
    (hstep : s.moveRight g = some s') :
    s'.arrangement = (ColumnOp.moveRight).edit f s.beside s.arrangement ∧ s'.focus = some f := by
  have hlen := length_cells s
  have hactive := active_lt_of_focus hf
  obtain ⟨c, hc, hcf⟩ := focus_cell hf
  have hidx := indexOf_focus h hc hcf
  have hmove : s.moveColumnTo g (min (s.activeColumnIdx + 1) (s.columns.length - 1)) =
      some s' := by
    rw [moveRight] at hstep
    split at hstep
    · next hlast => rw [moveColumnTo, if_pos (by omega), hstep]
    · next hlast =>
      rw [Nat.min_eq_left (by omega)]
      exact hstep
  have hedit := moveColumnTo_edit h hf (by omega) hmove
  rw [← hidx, ← length_arrangement] at hedit
  exact hedit

theorem moveColumnToFirst_edit (h : s.WellFormed) {f : W} (hf : s.focus = some f)
    (hstep : s.moveColumnToFirst g = some s') :
    s'.arrangement = (ColumnOp.moveColumnToFirst).edit f s.beside s.arrangement ∧
      s'.focus = some f :=
  moveColumnTo_edit h hf (List.length_pos_iff.mpr (columns_ne_of_focus h hf)) hstep

theorem moveColumnToLast_edit (h : s.WellFormed) {f : W} (hf : s.focus = some f)
    (hstep : s.moveColumnToLast g = some s') :
    s'.arrangement = (ColumnOp.moveColumnToLast).edit f s.beside s.arrangement ∧
      s'.focus = some f := by
  have hne := columns_ne_of_focus h hf
  have hpos := List.length_pos_iff.mpr hne
  rw [moveColumnToLast, if_neg hne] at hstep
  have hedit := moveColumnTo_edit h hf (by omega) hstep
  rw [← length_arrangement] at hedit
  exact hedit

theorem moveColumnToIndex_edit (h : s.WellFormed) {f : W} (hf : s.focus = some f) {index : Nat}
    (hstep : s.moveColumnToIndex g index = some s') :
    s'.arrangement = (ColumnOp.moveColumnToIndex index).edit f s.beside s.arrangement ∧
      s'.focus = some f := by
  have hne := columns_ne_of_focus h hf
  have hpos := List.length_pos_iff.mpr hne
  rw [moveColumnToIndex, if_neg hne] at hstep
  have hedit := moveColumnTo_edit h hf (by omega) hstep
  rw [← length_arrangement] at hedit
  exact hedit

omit [DecidableEq W] in
/-- The active tile of the active column is moved to `idx`. -/
theorem moveTile_cells {f : W} (hf : s.focus = some f) (hne : s.columns ≠ [])
    {idx : Column W F → Nat}
    (hstep : s.onActiveColumn (fun col => (col.moveTo (idx col)).map Prod.fst) = some s') :
    ∃ col, s.columns[s.activeColumnIdx]? = some col ∧ col.ids[col.activeTileIdx]? = some f ∧
      ((col.activeTileIdx = idx col ∧ s'.arrangement = s.arrangement ∧ s'.focus = some f) ∨
       (col.activeTileIdx ≠ idx col ∧ ∃ b, col.ids[idx col]? = some b ∧
        s'.arrangement = s.arrangement.set s.activeColumnIdx
          ((col.ids.set col.activeTileIdx b).set (idx col) f) ∧ s'.focus = some f)) := by
  rw [onActiveColumn, if_neg hne] at hstep
  obtain ⟨col, col', hcol, hmap, hcells, hactive⟩ := onColumn_cells hstep
  obtain ⟨⟨col₁, moved⟩, hmove, rfl⟩ := Option.map_eq_some_iff.mp hmap
  obtain ⟨c, hc, hcf⟩ := focus_cell hf
  obtain rfl : col.cell = c := Option.some.inj ((cells_getElem? hcol).symm.trans hc)
  have hlt := active_lt_of_focus hf
  refine ⟨col, hcol, hcf, ?_⟩
  rcases Column.moveTo_cell hmove with ⟨heq, rfl⟩ | ⟨hne', a, b, ha, hb, hcell⟩
  · obtain ⟨hlt', hget⟩ := List.getElem?_eq_some_iff.mp hc
    have hsame : s'.cells = s.cells := by rw [hcells, ← hget, List.set_getElem_self]
    refine Or.inl ⟨heq, ?_, ?_⟩
    · rw [arrangement_eq, hsame, ← arrangement_eq]
    · exact focus_eq (by rw [hactive, hsame, hc]) hcf
  · obtain rfl : a = f := Option.some.inj (ha.symm.trans hcf)
    have hidx : idx col < col.ids.length := (List.getElem?_eq_some_iff.mp hb).1
    refine Or.inr ⟨hne', b, hb, ?_, focus_eq (c := col₁.cell) ?_ ?_⟩
    · rw [arrangement_eq, hcells, List.map_set, hcell, ← arrangement_eq]
    · rw [hactive, hcells, List.getElem?_set_self hlt]
    · rw [hcell]
      exact List.getElem?_set_self (by rwa [List.length_set])

omit [DecidableEq W] in
theorem nodup_ids (h : s.WellFormed) {i : Nat} {col : Column W F} (hcol : s.columns[i]? = some col) :
    col.ids.Nodup :=
  Nested.nodup_of_getElem? (nodup_arrangement h) (arrangement_of_cell (cells_getElem? hcol))

theorem idxOf_active {l : List W} (hl : l.Nodup) {j : Nat} {f : W} (hj : l[j]? = some f) :
    l.idxOf f = j := by
  obtain ⟨hlt, rfl⟩ := List.getElem?_eq_some_iff.mp hj
  exact hl.idxOf_getElem j hlt

theorem moveUp_edit (h : s.WellFormed) {f : W} (hf : s.focus = some f)
    (hstep : s.moveUp = some s') :
    s'.arrangement = (ColumnOp.moveUp).edit f s.beside s.arrangement ∧ s'.focus = some f := by
  obtain ⟨col, hcol, hcf, hcases⟩ := moveTile_cells hf (columns_ne_of_focus h hf) hstep
  have hcell := arrangement_of_cell (cells_getElem? hcol)
  unfold ColumnOp.edit
  dsimp only
  rw [indexOf_focus h (cells_getElem? hcol) hcf, hcell, Option.getD_some]
  show _ = (if col.ids.idxOf f = 0 then s.arrangement else match col.ids[col.ids.idxOf f - 1]? with
    | some w => Nested.exchange s.arrangement f w
    | none => s.arrangement) ∧ _
  rw [idxOf_active (nodup_ids h hcol) hcf]
  rcases hcases with ⟨hsame, hstay⟩ | ⟨hmoved, b, hb, harr, hfocus⟩
  · rw [if_pos (by omega)]
    exact hstay
  · rw [if_neg (by omega), hb]
    refine ⟨harr.trans ?_, hfocus⟩
    exact (Nested.exchange_within (nodup_arrangement h) hcell hcf hb).symm

theorem moveDown_edit (h : s.WellFormed) {f : W} (hf : s.focus = some f)
    (hstep : s.moveDown = some s') :
    s'.arrangement = (ColumnOp.moveDown).edit f s.beside s.arrangement ∧ s'.focus = some f := by
  obtain ⟨col, hcol, hcf, hcases⟩ := moveTile_cells hf (columns_ne_of_focus h hf) hstep
  have hcell := arrangement_of_cell (cells_getElem? hcol)
  have hlen : col.ids.length = col.tiles.length := Column.length_ids col
  have hlt : col.activeTileIdx < col.ids.length := (List.getElem?_eq_some_iff.mp hcf).1
  unfold ColumnOp.edit
  dsimp only
  rw [indexOf_focus h (cells_getElem? hcol) hcf, hcell, Option.getD_some]
  show _ = (match col.ids[col.ids.idxOf f + 1]? with
    | some w => Nested.exchange s.arrangement f w
    | none => s.arrangement) ∧ _
  rw [idxOf_active (nodup_ids h hcol) hcf]
  rcases hcases with ⟨hsame, hstay⟩ | ⟨hmoved, b, hb, harr, hfocus⟩
  · rw [List.getElem?_eq_none (by omega)]
    exact hstay
  · have hidx : min (col.activeTileIdx + 1) (col.tiles.length - 1) = col.activeTileIdx + 1 := by
      omega
    rw [hidx] at hb harr
    rw [hb]
    refine ⟨harr.trans ?_, hfocus⟩
    exact (Nested.exchange_within (nodup_arrangement h) hcell hcf hb).symm

end Move

/-! ## The refinement -/

section Refinement

variable [One F] [BEq F] [LT F] [DecidableLT F] [LE F] [DecidableLE F] [DecidableEq W]

/-- An operation of the code is the edit of the columns. -/
theorem columnOp_edit (h : s.WellFormed) {f : W} (hf : s.focus = some f) {op : ColumnOp W}
    (hvalid : s.Valid (op.toOp : Op W F)) (hstep : s.step g op.toOp = some s') :
    s'.arrangement = op.edit f s.beside s.arrangement ∧
      s'.focus = some (op.focusAfter f s.arrangement) := by
  cases op with
  | consumeOrExpelWindowLeft window => exact consumeOrExpelWindowLeft_edit h hf hvalid hstep
  | consumeOrExpelWindowRight window => exact consumeOrExpelWindowRight_edit h hf hvalid hstep
  | consumeIntoColumn => exact consumeIntoColumn_edit h hf hstep
  | expelFromColumn => exact expelFromColumn_edit h hf hstep
  | swapWindowInDirection direction => exact swapWindowInDirection_edit h hf hstep
  | moveLeft => exact moveLeft_edit h hf hstep
  | moveRight => exact moveRight_edit h hf hstep
  | moveColumnToFirst => exact moveColumnToFirst_edit h hf hstep
  | moveColumnToLast => exact moveColumnToLast_edit h hf hstep
  | moveColumnToIndex index => exact moveColumnToIndex_edit h hf hstep
  | moveUp => exact moveUp_edit h hf hstep
  | moveDown => exact moveDown_edit h hf hstep

/-- There is nothing to edit in an empty layout. -/
theorem columnOp_empty (h : s.WellFormed) (hempty : s.columns = []) {op : ColumnOp W}
    (hstep : s.step g op.toOp = some s') : s' = s := by
  have hactive : s.activeColumnIdx = 0 := by
    have hlt := h.active_lt
    rw [hempty] at hlt
    simpa using hlt
  have hmove : ∀ k, k = 0 → s.moveColumnTo g k = some s' → s' = s := by
    intro k hk hmove
    rw [moveColumnTo, if_pos (hactive.trans hk.symm)] at hmove
    exact (Option.some.inj hmove).symm
  cases op with
  | consumeOrExpelWindowLeft window | consumeOrExpelWindowRight window
  | swapWindowInDirection direction =>
    exact (Option.some.inj ((if_pos hempty).symm.trans hstep)).symm
  | consumeIntoColumn =>
    refine (Option.some.inj ((if_pos ?_).symm.trans hstep)).symm
    rw [hempty]
    exact Nat.zero_lt_two
  | expelFromColumn | moveColumnToLast | moveColumnToIndex index | moveUp | moveDown =>
    exact (Option.some.inj ((if_pos hempty).symm.trans hstep)).symm
  | moveLeft => exact (Option.some.inj ((if_pos hactive).symm.trans hstep)).symm
  | moveRight =>
    refine (Option.some.inj ((if_pos ?_).symm.trans hstep)).symm
    rw [hempty]
    exact Nat.zero_le _
  | moveColumnToFirst => exact hmove 0 rfl hstep

omit [LT F] [DecidableLT F] [LE F] [DecidableLE F] in
/-- Swapping back and forth, where there is a column to swap with. -/
theorem swap_back (h : s.WellFormed) {s₁ s₂ : ScrollingSpace W F} (h₁ : s₁.WellFormed)
    {direction : ScrollDirection} (hcolumn : s.HasColumn direction) {g' : Geometry W F}
    (hs₁ : s.swapWindowInDirection g direction = some s₁)
    (hs₂ : s₁.swapWindowInDirection g' direction.opposite = some s₂) :
    s₂.arrangement = s.arrangement := by
  obtain ⟨f, hf⟩ := focus_of_hasColumn h hcolumn
  rcases swapWindowInDirection_swapped h hf hs₁ with ⟨hnone, -⟩ | ⟨c, d, b, hsw⟩
  · exact absurd hnone (beside_ne_none h hcolumn)
  · have hback : Beside direction.opposite s₁.activeColumnIdx s.activeColumnIdx := by
      have hbeside := hsw.beside
      cases direction with
      | left => exact hbeside.symm
      | right => exact hbeside.symm
    obtain ⟨harr, -⟩ := swapWindowInDirection_edit h₁ hsw.focus_eq hs₂
    unfold ColumnOp.edit at harr
    dsimp only at harr
    rw [hsw.beside_back hback] at harr
    dsimp only at harr
    rw [harr, hsw.arrangement_eq_exchange h, Nested.exchange_exchange]

/-- On every reachable layout the operations on columns are the edits of the list
    of columns, and swapping to a side with a column and back changes nothing. -/
theorem columnOps_edit_columns (s : ScrollingSpace W F) (h : s.Reachable) :
    (∀ (g : Geometry W F) (op : ColumnOp W), s.Valid (op.toOp : Op W F) →
      ∃ s', s.step g op.toOp = some s' ∧
        s'.arrangement = (match s.focus with
          | some f => op.edit f s.beside s.arrangement
          | none => s.arrangement) ∧
        s'.focus = s.focus.map fun f => op.focusAfter f s.arrangement) ∧
    ∀ (g g' : Geometry W F) (direction : ScrollDirection), s.HasColumn direction →
      ∃ s₁ s₂, s.swapWindowInDirection g direction = some s₁ ∧
        s₁.swapWindowInDirection g' direction.opposite = some s₂ ∧
        s₂.arrangement = s.arrangement := by
  have hwf := reachable_wellFormed h
  refine ⟨fun g op hvalid => ?_, fun g g' direction hcolumn => ?_⟩
  · obtain ⟨s', hstep, -⟩ := step_returns g hwf hvalid
    refine ⟨s', hstep, ?_⟩
    cases hfocus : s.focus with
    | some f => exact columnOp_edit hwf hfocus hvalid hstep
    | none =>
      obtain rfl := columnOp_empty hwf ((focus_none_iff hwf).mp hfocus) hstep
      exact ⟨rfl, hfocus⟩
  · obtain ⟨s₁, hs₁, hre₁⟩ := swapWindowInDirection_returns g hwf direction
    obtain ⟨s₂, hs₂, -⟩ := swapWindowInDirection_returns g' hre₁.wellFormed direction.opposite
    exact ⟨s₁, s₂, hs₁, hs₂, swap_back hwf hre₁.wellFormed hcolumn hs₁ hs₂⟩

end Refinement

/-! ## Three windows -/

/-- The operations one after the other, from an empty layout. -/
def afterOps (ops : List (Op Nat Nat)) : Option (ScrollingSpace Nat Nat) :=
  ops.foldlM (step wideScreen) (new onePreset)

def addMapped (id : Nat) : Op Nat Nat := .addTile none (mapped id) true (.fixed 300) false

theorem afterOps_concat (ops : List (Op Nat Nat)) (op : Op Nat Nat) :
    afterOps (ops ++ [op]) = (afterOps ops).bind fun s => s.step wideScreen op := by
  unfold afterOps
  rw [List.foldlM_append]
  refine congrArg _ (funext fun s => ?_)
  rw [List.foldlM_cons]
  exact Option.bind_fun_some _

theorem afterOps_reachable {ops : List (Op Nat Nat)}
    (h : ∃ s, afterOps ops = some s ∧ s.Reachable) {op : Op Nat Nat}
    (hvalid : ∀ s, afterOps ops = some s → s.Valid op) :
    ∃ s, afterOps (ops ++ [op]) = some s ∧ s.Reachable := by
  obtain ⟨s, hs, hreach⟩ := h
  obtain ⟨s', hstep, -⟩ := step_returns wideScreen (reachable_wellFormed hreach) (hvalid s hs)
  refine ⟨s', ?_, Reachable.step wideScreen op hreach (hvalid s hs) hstep⟩
  rw [afterOps_concat, hs]
  exact hstep

theorem afterOps_addMapped {ops : List (Op Nat Nat)}
    (h : ∃ s, afterOps ops = some s ∧ s.Reachable) {ids : List Nat}
    (hids : (afterOps ops).map windowIds = some ids) {id : Nat} (hid : id ∉ ids) :
    ∃ s, afterOps (ops ++ [addMapped id]) = some s ∧ s.Reachable := by
  refine afterOps_reachable h fun s hs => ⟨by simp, ?_⟩
  rw [hs] at hids
  obtain rfl := Option.some.inj hids
  exact hid

/-- 7 and 8 in columns of their own, 8 focused. -/
theorem two_columns_reachable :
    ∃ s, afterOps [addMapped 7, addMapped 8] = some s ∧ s.Reachable := by
  have h₀ : ∃ s, afterOps [] = some s ∧ s.Reachable := ⟨_, rfl, Reachable.new onePreset⟩
  have h₁ := afterOps_addMapped h₀ (show _ = some [] by decide +kernel)
    (show 7 ∉ [] from List.not_mem_nil)
  exact afterOps_addMapped h₁ (show _ = some [7] by decide +kernel) (show 8 ∉ [7] by decide)

/-- The focused window 9 is expelled from the column it shares with 8, or swapped
    with 7 and back. -/
theorem edits_of_three_windows :
    ∃ s : ScrollingSpace Nat Nat, s.Reachable ∧ s.arrangement = [[7], [8, 9]] ∧
      (∃ s', s.expelFromColumn wideScreen = some s' ∧ s'.arrangement = [[7], [8], [9]] ∧
        s'.focus = some 8) ∧
      ∃ s₁ s₂, s.swapWindowInDirection wideScreen .left = some s₁ ∧
        s₁.swapWindowInDirection wideScreen .right = some s₂ ∧
        s₂.arrangement = [[7], [8, 9]] := by
  have h₃ := afterOps_addMapped two_columns_reachable (show _ = some [7, 8] by decide +kernel)
    (show 9 ∉ [7, 8] by decide)
  have hvalid : ∀ s : ScrollingSpace Nat Nat, s.Valid (.consumeOrExpelWindowLeft none) :=
    fun _ w hw => nomatch hw
  obtain ⟨s, hs, hreach⟩ := afterOps_reachable h₃ fun s _ => hvalid s
  have hshape : (afterOps ([addMapped 7, addMapped 8] ++ [addMapped 9] ++
      [.consumeOrExpelWindowLeft none])).map
        (fun s => (s.arrangement, s.focus, s.activeColumnIdx)) =
      some ([[7], [8, 9]], some 9, 1) := by decide +kernel
  rw [hs] at hshape
  simp only [Option.map_some, Option.some.injEq, Prod.mk.injEq] at hshape
  obtain ⟨harr, hfocus, hactive⟩ := hshape
  obtain ⟨hedits, hswaps⟩ := columnOps_edit_columns s hreach
  refine ⟨s, hreach, harr, ?_, ?_⟩
  · obtain ⟨s', hstep, harr', hfocus'⟩ := hedits wideScreen .expelFromColumn trivial
    rw [hfocus, harr] at harr'
    rw [hfocus, harr] at hfocus'
    exact ⟨s', hstep, harr', hfocus'⟩
  · rw [← harr]
    exact hswaps wideScreen wideScreen .left (show 0 < s.activeColumnIdx by omega)

/-- With no column on the right the first swap does nothing, and the second one
    swaps with the column on the left. -/
theorem swap_right_left_at_last_column :
    ¬∀ s : ScrollingSpace Nat Nat, s.Reachable → ∀ g s₁ s₂,
      s.swapWindowInDirection g .right = some s₁ → s₁.swapWindowInDirection g .left = some s₂ →
      s₂.arrangement = s.arrangement := by
  intro hclaim
  obtain ⟨s, hs, hreach⟩ := two_columns_reachable
  have hbefore : (afterOps [addMapped 7, addMapped 8]).map arrangement = some [[7], [8]] := by
    decide +kernel
  have hafter : (afterOps ([addMapped 7, addMapped 8] ++ [.swapWindowInDirection .right] ++
      [.swapWindowInDirection .left])).map arrangement = some [[8], [7]] := by decide +kernel
  rw [hs] at hbefore
  rw [afterOps_concat, afterOps_concat, hs] at hafter
  obtain ⟨s₂, hs₂, hswapped⟩ := Option.map_eq_some_iff.mp hafter
  obtain ⟨s₁, hs₁, hs₂⟩ := Option.bind_eq_some_iff.mp hs₂
  have hsame := hclaim s hreach wideScreen s₁ s₂ hs₁ hs₂
  rw [hswapped, Option.some.inj hbefore] at hsame
  cases hsame

end ScrollingSpace

end Cidre.Layout
