/-
  Cidre.Ui.WindowMru

  `WindowMru` of `ui/mru.rs`: the thumbnails of the recent-windows switcher, the
  selected one, and the scope and app-id filter they are seen through.  Times and
  geometry of the previews are left out.

  A run of operations keeps the selection on a visible thumbnail and fails no
  `unwrap` (`window_mru_safe`); only an index past the end of the list can stop it.
-/

import Cidre.Lib.Cyclic
import Cidre.Lib.Partial

namespace Cidre.Ui

open Cyclic Partial

/-! ## Thumbnails -/

structure Thumbnail where
  id : ℕ
  timestamp : Option ℕ
  onCurrentOutput : Bool
  onCurrentWorkspace : Bool
  appId : Option String
deriving DecidableEq

inductive MruScope where
  | all
  | output
  | workspace
deriving DecidableEq

inductive MruFilter where
  | all
  | appId
deriving DecidableEq

/-- `matches`, and `match_filter` without its last argument. -/
def matchFilter (scope : MruScope) (appIdFilter : Option String) (thumbnail : Thumbnail) : Bool :=
  let inScope :=
    match scope with
    | .all => true
    | .output => thumbnail.onCurrentOutput
    | .workspace => thumbnail.onCurrentWorkspace
  if !inScope then false
  else
    match appIdFilter with
    | some appId => thumbnail.appId = some appId
    | none => true

/-- What makes the compositor panic. -/
inductive Panic where
  /-- `unwrap` of `None`. -/
  | unwrap
  /-- `expect` of `None`. -/
  | expect
  /-- `assert!` of a condition that does not hold. -/
  | assert
  | indexOutOfBounds
deriving DecidableEq

structure WindowMru where
  thumbnails : List Thumbnail
  currentId : Option ℕ
  scope : MruScope
  appIdFilter : Option String
deriving DecidableEq

/-! ## WindowMru::new -/

/-- What a thumbnail takes from a window. -/
structure MappedWindow where
  id : ℕ
  focusTimestamp : Option ℕ
  appId : Option String

/-- A workspace of the layout with its index, and the monitor it is on. -/
structure ListedWorkspace where
  output : String
  activeWorkspaceIdx : ℕ
  wsIdx : ℕ
  windows : List MappedWindow

/-- The order of `Option<Duration>`: no timestamp is before every timestamp. -/
def timestampLe : Option ℕ → Option ℕ → Bool
  | none, _ => true
  | some _, none => false
  | some a, some b => a ≤ b

def thumbnailsOf (output : String) (ws : ListedWorkspace) : List Thumbnail :=
  let onCurrentOutput := ws.output == output
  let onCurrentWorkspace := onCurrentOutput && ws.activeWorkspaceIdx == ws.wsIdx
  ws.windows.map fun mapped =>
    ⟨mapped.id, mapped.focusTimestamp, onCurrentOutput, onCurrentWorkspace, mapped.appId⟩

namespace WindowMru

/-- `WindowMru::new`.  With an active output every workspace has a monitor. -/
def new (activeOutput : Option String) (workspaces : List ListedWorkspace) : WindowMru :=
  match activeOutput with
  | none => ⟨[], none, .all, none⟩
  | some output =>
      let thumbnails := (workspaces.flatMap (thumbnailsOf output)).mergeSort
        fun t1 t2 => timestampLe t2.timestamp t1.timestamp
      ⟨thumbnails, thumbnails.head?.map Thumbnail.id, .all, none⟩

/-! ## Operations -/

variable (m : WindowMru)

/-- `thumbnails()`. -/
def visible : List Thumbnail := m.thumbnails.filter (matchFilter m.scope m.appIdFilter)

/-- `thumbnails_with_idx()`. -/
def thumbnailsWithIdx : List (Thumbnail × ℕ) :=
  m.thumbnails.zipIdx.filter fun x => matchFilter m.scope m.appIdFilter x.1

/-- `forward` and `backward`: the thumbnail after the current one in `order`, or
    the first one of it. -/
def advance (order : List Thumbnail) : Except Panic WindowMru :=
  match m.currentId with
  | none => .ok m
  | some id =>
      match (order.dropWhile (·.id ≠ id))[1]? with
      | some next => .ok { m with currentId := some next.id }
      | none => do
          let first ← orThrow order.head? .unwrap
          pure { m with currentId := some first.id }

def forward : Except Panic WindowMru := m.advance m.visible

def backward : Except Panic WindowMru := m.advance m.visible.reverse

def setCurrent (id : ℕ) : WindowMru :=
  if m.visible.any (·.id == id) then { m with currentId := some id } else m

def firstId : Option ℕ := m.visible.head?.map Thumbnail.id

def first : WindowMru := { m with currentId := m.firstId }

def last : WindowMru := { m with currentId := m.visible.getLast?.map Thumbnail.id }

/-- Select the same thumbnail, or the first one to the left, or the first one. -/
def selectNear (currentIdx : ℕ) : WindowMru :=
  { m with currentId :=
      lastUpTo (fun t => some t.id) currentIdx m.firstId m.thumbnailsWithIdx }

/-- The index and the thumbnail of the selected id among the visible ones. -/
def findCurrent (id : ℕ) : Except Panic (Thumbnail × ℕ) :=
  orThrow (m.thumbnailsWithIdx.find? fun x => x.1.id = id) .unwrap

/-- The old scope is returned, if it changes. -/
def setScope (scope : MruScope) : Except Panic (WindowMru × Option MruScope) :=
  if m.scope = scope then .ok (m, none)
  else
    match m.currentId with
    | some id => do
        let current ← m.findCurrent id
        pure ({ m with scope := scope }.selectNear current.2, some m.scope)
    | none => .ok ({ m with scope := scope }.first, some m.scope)

/-- The filter to set, with the old one; `none` for a thumbnail without an app id. -/
def filterChange (filter : MruFilter) (appId : Option String) :
    Except Panic (Option (Option String × Option String)) :=
  match filter with
  | .all => do
      let old ← orThrow m.appIdFilter .expect
      pure (some (none, some old))
  | .appId =>
      match appId with
      | none => pure none
      | some current => do
          ensure (m.appIdFilter.isNone = true) .assert
          pure (some (some current, none))

/-- The old filter is returned, if it changes. -/
def setFilter (filter : MruFilter) : Except Panic (WindowMru × Option (Option String)) :=
  if m.appIdFilter.isSome = decide (filter = .appId) then .ok (m, none)
  else
    match m.currentId with
    | some id => do
        let current ← m.findCurrent id
        match ← m.filterChange filter current.1.appId with
        | some (new, old) => pure ({ m with appIdFilter := new }.selectNear current.2, some old)
        | none => pure (m, none)
    | none =>
        match filter with
        | .all => do
            let old ← orThrow m.appIdFilter .expect
            pure ({ m with appIdFilter := none }.first, some (some old))
        | .appId => .ok (m, none)

/-- Try to pick a different window when removing the current one. -/
def moveOff (id : ℕ) : Except Panic WindowMru :=
  if m.currentId = some id then m.forward else .ok m

def removeByIdx (idx : ℕ) : Except Panic (WindowMru × Option Thumbnail) := do
  let removed ← orThrow m.thumbnails[idx]? .indexOutOfBounds
  let moved ← m.moveOff removed.id
  -- Still on the same window: it is the last visible one.
  let currentId := if moved.currentId = some removed.id then none else moved.currentId
  pure ({ moved with thumbnails := moved.thumbnails.eraseIdx idx, currentId := currentId },
    some removed)

end WindowMru

inductive MruOp where
  | forward
  | backward
  | first
  | last
  | setCurrent (id : ℕ)
  | setScope (scope : MruScope)
  | setFilter (filter : MruFilter)
  | removeByIdx (idx : ℕ)

def WindowMru.apply (m : WindowMru) : MruOp → Except Panic WindowMru
  | .forward => m.forward
  | .backward => m.backward
  | .first => .ok m.first
  | .last => .ok m.last
  | .setCurrent id => .ok (m.setCurrent id)
  | .setScope scope => Prod.fst <$> m.setScope scope
  | .setFilter filter => Prod.fst <$> m.setFilter filter
  | .removeByIdx idx => Prod.fst <$> m.removeByIdx idx

def WindowMru.run (m : WindowMru) (ops : List MruOp) : Except Panic WindowMru :=
  ops.foldlM WindowMru.apply m

/-! ## The selection is visible -/

/-- The selection names a visible thumbnail, and there is one if any is visible. -/
structure Consistent (m : WindowMru) : Prop where
  distinct : (m.thumbnails.map Thumbnail.id).Nodup
  selected : ∀ id, m.currentId = some id → id ∈ m.visible.map Thumbnail.id
  unselected : m.currentId = none → m.visible = []

section
variable {m : WindowMru}

theorem nodup_visible (h : (m.thumbnails.map Thumbnail.id).Nodup) :
    (m.visible.map Thumbnail.id).Nodup :=
  h.sublist (List.filter_sublist.map _)

/-- The selection as a place among the visible thumbnails. -/
theorem Consistent.place (h : Consistent m) {id : ℕ} (hid : m.currentId = some id) :
    ∃ i : ℕ, (m.visible.map Thumbnail.id)[i]? = some id :=
  List.mem_iff_getElem?.mp (h.selected id hid)

theorem consistent_set {id : ℕ} (h : Consistent m) (hid : id ∈ m.visible.map Thumbnail.id) :
    Consistent { m with currentId := some id } where
  distinct := h.distinct
  selected id' hid' := by
    obtain rfl := Option.some.inj hid'
    exact hid
  unselected hnone := nomatch hnone

/-- A selection read off the visible thumbnails. -/
theorem consistent_of_visible {current : Option ℕ} (h : (m.thumbnails.map Thumbnail.id).Nodup)
    (hmem : ∀ id, current = some id → id ∈ m.visible.map Thumbnail.id)
    (hnone : current = none → m.visible = []) : Consistent { m with currentId := current } :=
  ⟨h, hmem, hnone⟩

theorem advance_eq {order : List Thumbnail} {id : ℕ} (hid : m.currentId = some id)
    (hmem : id ∈ order.map Thumbnail.id) :
    m.advance order = .ok { m with currentId :=
      (skipTo (order.map Thumbnail.id) id).or (order.map Thumbnail.id).head? } := by
  have hskip : skipTo (order.map Thumbnail.id) id =
      (order.dropWhile (·.id ≠ id))[1]?.map Thumbnail.id := by
    rw [skipTo, List.dropWhile_map, List.getElem?_map]
    rfl
  rw [hskip, WindowMru.advance, hid]
  dsimp only
  cases hnext : (order.dropWhile (·.id ≠ id))[1]? with
  | some next => rfl
  | none =>
    cases order with
    | nil => exact absurd hmem List.not_mem_nil
    | cons t order => rfl

theorem forward_eq (h : Consistent m) {id i : ℕ} (hid : m.currentId = some id)
    (hi : (m.visible.map Thumbnail.id)[i]? = some id) :
    m.forward = .ok { m with currentId :=
      (m.visible.map Thumbnail.id)[(i + 1) % m.visible.length]? } := by
  rw [WindowMru.forward, advance_eq hid (h.selected id hid),
    skipTo_or_head (nodup_visible h.distinct) hi, List.length_map]

theorem backward_eq (h : Consistent m) {id i : ℕ} (hid : m.currentId = some id)
    (hi : (m.visible.map Thumbnail.id)[i]? = some id) :
    m.backward = .ok { m with currentId :=
      (m.visible.map Thumbnail.id)[(i + (m.visible.length - 1)) % m.visible.length]? } := by
  have hmem : id ∈ m.visible.reverse.map Thumbnail.id := by
    rw [List.map_reverse, List.mem_reverse]
    exact h.selected id hid
  rw [WindowMru.backward, advance_eq hid hmem, List.map_reverse, List.head?_reverse,
    skipTo_reverse_or_getLast (nodup_visible h.distinct) hi, List.length_map]

/-- A place counted modulo the number of visible thumbnails is one of them. -/
theorem visible_mod {i : ℕ} {id : ℕ} (hi : (m.visible.map Thumbnail.id)[i]? = some id) (j : ℕ) :
    ∃ t ∈ m.visible, (m.visible.map Thumbnail.id)[j % m.visible.length]? = some t.id := by
  obtain ⟨hlt, -⟩ := List.getElem?_eq_some_iff.mp hi
  rw [List.length_map] at hlt
  have hj : j % m.visible.length < m.visible.length := Nat.mod_lt _ (by omega)
  refine ⟨m.visible[j % m.visible.length], List.getElem_mem hj, ?_⟩
  rw [List.getElem?_map, List.getElem?_eq_getElem hj]
  rfl

/-- Going forward, or backward, selects a visible thumbnail. -/
theorem forward_visible (h : Consistent m) (hne : m.currentId ≠ none) :
    ∃ t ∈ m.visible, m.forward = .ok { m with currentId := some t.id } := by
  obtain ⟨id, hid⟩ := Option.ne_none_iff_exists'.mp hne
  obtain ⟨i, hi⟩ := h.place hid
  obtain ⟨t, ht, hplace⟩ := visible_mod hi (i + 1)
  exact ⟨t, ht, by rw [forward_eq h hid hi, hplace]⟩

theorem backward_visible (h : Consistent m) (hne : m.currentId ≠ none) :
    ∃ t ∈ m.visible, m.backward = .ok { m with currentId := some t.id } := by
  obtain ⟨id, hid⟩ := Option.ne_none_iff_exists'.mp hne
  obtain ⟨i, hi⟩ := h.place hid
  obtain ⟨t, ht, hplace⟩ := visible_mod hi (i + (m.visible.length - 1))
  exact ⟨t, ht, by rw [backward_eq h hid hi, hplace]⟩

theorem advance_none {order : List Thumbnail} (hid : m.currentId = none) :
    m.advance order = .ok m := by
  rw [WindowMru.advance, hid]

theorem forward_backward (h : Consistent m) : (m.forward >>= WindowMru.backward) = .ok m := by
  cases hid : m.currentId with
  | none =>
    rw [WindowMru.forward, advance_none hid]
    exact advance_none hid
  | some id =>
    obtain ⟨i, hi⟩ := h.place hid
    obtain ⟨t, ht, hplace⟩ := visible_mod hi (i + 1)
    obtain ⟨hlt, -⟩ := List.getElem?_eq_some_iff.mp hi
    rw [List.length_map] at hlt
    have hnext := consistent_set h (List.mem_map_of_mem ht)
    rw [forward_eq h hid hi, hplace]
    refine (backward_eq hnext rfl hplace).trans ?_
    show Except.ok { m with currentId := (m.visible.map Thumbnail.id)[((i + 1) %
      m.visible.length + (m.visible.length - 1)) % m.visible.length]? } = _
    rw [mod_forward_back hlt, hi, ← hid]

theorem backward_forward (h : Consistent m) : (m.backward >>= WindowMru.forward) = .ok m := by
  cases hid : m.currentId with
  | none =>
    rw [WindowMru.backward, advance_none hid]
    exact advance_none hid
  | some id =>
    obtain ⟨i, hi⟩ := h.place hid
    obtain ⟨t, ht, hplace⟩ := visible_mod hi (i + (m.visible.length - 1))
    obtain ⟨hlt, -⟩ := List.getElem?_eq_some_iff.mp hi
    rw [List.length_map] at hlt
    have hprevious := consistent_set h (List.mem_map_of_mem ht)
    rw [backward_eq h hid hi, hplace]
    refine (forward_eq hprevious rfl hplace).trans ?_
    show Except.ok { m with currentId := (m.visible.map Thumbnail.id)[((i +
      (m.visible.length - 1)) % m.visible.length + 1) % m.visible.length]? } = _
    rw [mod_back_forward hlt, hi, ← hid]

/-- Going forward `n` times moves the place by `n`, modulo the number of visible
    thumbnails. -/
theorem run_forward (n : ℕ) {m : WindowMru} (h : Consistent m) {id i : ℕ}
    (hid : m.currentId = some id) (hi : (m.visible.map Thumbnail.id)[i]? = some id) :
    m.run (List.replicate n .forward) = .ok { m with currentId :=
      (m.visible.map Thumbnail.id)[(i + n) % m.visible.length]? } := by
  induction n generalizing m id i with
  | zero =>
    obtain ⟨hlt, -⟩ := List.getElem?_eq_some_iff.mp hi
    rw [List.length_map] at hlt
    rw [Nat.add_zero, Nat.mod_eq_of_lt hlt, hi, ← hid]
    rfl
  | succ n ih =>
    obtain ⟨t, ht, hplace⟩ := visible_mod hi (i + 1)
    have hnext := consistent_set h (List.mem_map_of_mem ht)
    rw [List.replicate_succ, WindowMru.run, List.foldlM_cons]
    show (m.forward >>= fun m' => m'.run (List.replicate n .forward)) = _
    rw [forward_eq h hid hi, hplace]
    refine (ih hnext rfl hplace).trans ?_
    show Except.ok { m with currentId := (m.visible.map Thumbnail.id)[((i + 1) %
      m.visible.length + n) % m.visible.length]? } = _
    rw [Nat.mod_add_mod, Nat.add_assoc, Nat.add_comm 1 n]

/-- Going forward reaches every visible thumbnail. -/
theorem forward_reaches (h : Consistent m) (hne : m.currentId ≠ none) {t : Thumbnail}
    (ht : t ∈ m.visible) :
    ∃ n, m.run (List.replicate n .forward) = .ok { m with currentId := some t.id } := by
  obtain ⟨id, hid⟩ := Option.ne_none_iff_exists'.mp hne
  obtain ⟨i, hi⟩ := h.place hid
  obtain ⟨hlt, -⟩ := List.getElem?_eq_some_iff.mp hi
  rw [List.length_map] at hlt
  obtain ⟨j, hj⟩ := List.mem_iff_getElem?.mp (List.mem_map_of_mem (f := Thumbnail.id) ht)
  obtain ⟨hjlt, -⟩ := List.getElem?_eq_some_iff.mp hj
  rw [List.length_map] at hjlt
  refine ⟨j + (m.visible.length - i), ?_⟩
  rw [run_forward _ h hid hi, show i + (j + (m.visible.length - i)) = j + m.visible.length by omega,
    Nat.add_mod_right, Nat.mod_eq_of_lt hjlt, hj]

/-! ## Scope and filter -/

/-- What the selection does when other thumbnails become visible: it stays near
    its place, and without one the first visible thumbnail is selected. -/
inductive SelectionFollows (m m' : WindowMru) : Prop
  | near (i : ℕ) (t : Thumbnail) (selected : m.currentId = some t.id)
      (place : m.thumbnails[i]? = some t) (chosen : Option Thumbnail)
      (near : ChosenNear (matchFilter m'.scope m'.appIdFilter) m'.thumbnails i chosen)
      (current : m'.currentId = chosen.map Thumbnail.id)
  | fresh (unselected : m.currentId = none) (current : m'.currentId = m'.firstId)

/-- `m'` shows the thumbnails of `m` through `scope` and `appIdFilter`. -/
structure Reselected (m m' : WindowMru) (scope : MruScope) (appIdFilter : Option String) :
    Prop where
  thumbnails : m'.thumbnails = m.thumbnails
  scope : m'.scope = scope
  appIdFilter : m'.appIdFilter = appIdFilter
  follows : SelectionFollows m m'

/-- The app id of the selected thumbnail. -/
def WindowMru.currentAppId (m : WindowMru) : Option String :=
  (m.thumbnails.find? fun t => m.currentId = some t.id).bind Thumbnail.appId

/-- The filter that `set_filter` asks for: the app id of the selection, if it has one
    and no filter is set. -/
def WindowMru.askedFilter (m : WindowMru) : MruFilter → Option String
  | .all => none
  | .appId => m.appIdFilter.or m.currentAppId

theorem lastUpTo_id (i : ℕ) (best : Option Thumbnail) (l : List (Thumbnail × ℕ)) :
    lastUpTo (fun t => some t.id) i (best.map Thumbnail.id) l =
      (lastUpTo some i best l).map Thumbnail.id := by
  induction l generalizing best with
  | nil => rfl
  | cons x l ih =>
    obtain ⟨t, j⟩ := x
    rw [lastUpTo, lastUpTo]
    split
    · rfl
    · exact ih (some t)

theorem firstId_eq (m : WindowMru) :
    m.firstId = (m.thumbnails.find? (matchFilter m.scope m.appIdFilter)).map Thumbnail.id := by
  rw [WindowMru.firstId, WindowMru.visible, List.head?_filter]

/-- The loop selects the thumbnail near the place. -/
theorem selectNear_chosen {i : ℕ} (hi : i < m.thumbnails.length) :
    ∃ chosen, ChosenNear (matchFilter m.scope m.appIdFilter) m.thumbnails i chosen ∧
      m.selectNear i = { m with currentId := chosen.map Thumbnail.id } := by
  refine ⟨_, chosenNear_lastUpTo hi, ?_⟩
  rw [WindowMru.selectNear, firstId_eq, lastUpTo_id]
  rfl

theorem mem_visible {t : Thumbnail} :
    t ∈ m.visible ↔ t ∈ m.thumbnails ∧ matchFilter m.scope m.appIdFilter t = true :=
  List.mem_filter

theorem findCurrent_eq (h : Consistent m) {id : ℕ} (hid : m.currentId = some id) :
    ∃ t i, m.findCurrent id = .ok (t, i) ∧ m.thumbnails[i]? = some t ∧ t.id = id := by
  obtain ⟨t, ht, hname⟩ := List.mem_map.mp (h.selected id hid)
  obtain ⟨hmem, hmatch⟩ := mem_visible.mp ht
  obtain ⟨i, hi⟩ := List.mem_iff_getElem?.mp hmem
  have hin : (t, i) ∈ m.thumbnailsWithIdx :=
    List.mem_filter.mpr ⟨List.mem_zipIdx_iff_getElem?.mpr hi, hmatch⟩
  cases hfind : m.thumbnailsWithIdx.find? fun x => x.1.id = id with
  | none => exact absurd hname (by simpa using List.find?_eq_none.mp hfind _ hin)
  | some found =>
    obtain ⟨u, j⟩ := found
    have hu : (u, j) ∈ m.thumbnailsWithIdx := List.mem_of_find?_eq_some hfind
    refine ⟨u, j, ?_, List.mem_zipIdx_iff_getElem?.mp (List.mem_filter.mp hu).1, ?_⟩
    · rw [WindowMru.findCurrent, hfind]
      rfl
    · simpa using List.find?_some hfind

theorem consistent_first (h : (m.thumbnails.map Thumbnail.id).Nodup) : Consistent m.first := by
  refine consistent_of_visible h (fun id hid => ?_) fun hnone => ?_
  · obtain ⟨t, ht, rfl⟩ := Option.map_eq_some_iff.mp hid
    exact List.mem_map_of_mem (List.mem_of_head? ht)
  · exact List.head?_eq_none_iff.mp (Option.map_eq_none_iff.mp hnone)

theorem consistent_last (h : (m.thumbnails.map Thumbnail.id).Nodup) : Consistent m.last := by
  refine consistent_of_visible h (fun id hid => ?_) fun hnone => ?_
  · obtain ⟨t, ht, rfl⟩ := Option.map_eq_some_iff.mp hid
    exact List.mem_map_of_mem (List.mem_of_getLast? ht)
  · exact List.getLast?_eq_none_iff.mp (Option.map_eq_none_iff.mp hnone)

theorem consistent_setCurrent (h : Consistent m) (id : ℕ) : Consistent (m.setCurrent id) := by
  unfold WindowMru.setCurrent
  split
  · next hany =>
    obtain ⟨t, ht, hid⟩ := List.any_eq_true.mp hany
    obtain rfl : t.id = id := by simpa using hid
    exact consistent_set h (List.mem_map_of_mem ht)
  · exact h

/-- A selection near a place is visible. -/
theorem consistent_near {i : ℕ} {chosen : Option Thumbnail}
    (h : (m.thumbnails.map Thumbnail.id).Nodup)
    (hnear : ChosenNear (matchFilter m.scope m.appIdFilter) m.thumbnails i chosen) :
    Consistent { m with currentId := chosen.map Thumbnail.id } := by
  refine consistent_of_visible h (fun id hid => ?_) fun hnone => ?_
  · obtain ⟨t, rfl, rfl⟩ := Option.map_eq_some_iff.mp hid
    exact List.mem_map_of_mem (mem_visible.mpr hnear.mem)
  · obtain rfl := Option.map_eq_none_iff.mp hnone
    exact List.filter_eq_nil_iff.mpr fun t ht => by simpa using hnear.none_shown t ht

/-- Seen through another scope and filter, the selection follows. -/
theorem reselect (h : Consistent m) (scope : MruScope) (filter : Option String) {t : Thumbnail}
    {i : ℕ} (hid : m.currentId = some t.id) (hi : m.thumbnails[i]? = some t) :
    Consistent ({ m with scope := scope, appIdFilter := filter }.selectNear i) ∧
      Reselected m ({ m with scope := scope, appIdFilter := filter }.selectNear i) scope
        filter := by
  obtain ⟨hlt, -⟩ := List.getElem?_eq_some_iff.mp hi
  obtain ⟨chosen, hnear, heq⟩ :=
    selectNear_chosen (m := { m with scope := scope, appIdFilter := filter }) hlt
  rw [heq]
  exact ⟨consistent_near h.distinct hnear, rfl, rfl, rfl, .near i t hid hi chosen hnear rfl⟩

/-- What did not change has nothing to follow. -/
theorem selectionFollows_refl (h : Consistent m) : SelectionFollows m m := by
  cases hid : m.currentId with
  | none =>
    refine .fresh hid ?_
    rw [hid, WindowMru.firstId, h.unselected hid]
    rfl
  | some id =>
    obtain ⟨t, ht, rfl⟩ := List.mem_map.mp (h.selected id hid)
    obtain ⟨hmem, hmatch⟩ := mem_visible.mp ht
    obtain ⟨i, hi⟩ := List.mem_iff_getElem?.mp hmem
    exact .near i t hid hi (some t) (.kept t hi hmatch) hid

theorem setScope_spec (h : Consistent m) (scope : MruScope) :
    ∃ m' old, m.setScope scope = .ok (m', old) ∧ Consistent m' ∧
      Reselected m m' scope m.appIdFilter := by
  unfold WindowMru.setScope
  split
  · next hsame => exact ⟨m, none, rfl, h, rfl, hsame, rfl, selectionFollows_refl h⟩
  · cases hid : m.currentId with
    | none =>
      exact ⟨_, _, rfl, consistent_first h.distinct, rfl, rfl, rfl, .fresh hid rfl⟩
    | some id =>
      obtain ⟨t, i, hfind, hi, rfl⟩ := findCurrent_eq h hid
      obtain ⟨hconsistent, hreselected⟩ := reselect h scope m.appIdFilter hid hi
      refine ⟨_, some m.scope, ?_, hconsistent, hreselected⟩
      dsimp only
      rw [hfind]
      rfl

theorem currentAppId_eq (h : Consistent m) {t : Thumbnail} {i : ℕ}
    (hid : m.currentId = some t.id) (hi : m.thumbnails[i]? = some t) :
    m.currentAppId = t.appId := by
  have ht : t ∈ m.thumbnails := List.mem_of_getElem? hi
  unfold WindowMru.currentAppId
  cases hfind : m.thumbnails.find? fun t => m.currentId = some t.id with
  | none => exact absurd (decide_eq_true hid) (List.find?_eq_none.mp hfind t ht)
  | some u =>
    have hname : m.currentId = some u.id := by simpa using List.find?_some hfind
    rw [← List.inj_on_of_nodup_map h.distinct ht (List.mem_of_find?_eq_some hfind)
      (Option.some.inj (hid.symm.trans hname))]
    rfl

/-- The filter to set is there when the early return was not taken. -/
theorem filterChange_ok {filter : MruFilter} {appId : Option String} (hid : m.currentAppId = appId)
    (h : ¬m.appIdFilter.isSome = decide (filter = .appId)) :
    (m.filterChange filter appId = .ok none ∧ m.appIdFilter = m.askedFilter filter) ∨
      ∃ old, m.filterChange filter appId = .ok (some (m.askedFilter filter, old)) := by
  subst hid
  unfold WindowMru.filterChange WindowMru.askedFilter
  cases hfilter : m.appIdFilter with
  | none =>
    cases filter with
    | all => exact absurd (by rw [hfilter]; rfl) h
    | appId =>
      cases m.currentAppId with
      | none => exact .inl ⟨rfl, rfl⟩
      | some current => exact .inr ⟨none, rfl⟩
  | some old =>
    cases filter with
    | all => exact .inr ⟨some old, rfl⟩
    | appId => exact absurd (by rw [hfilter]; rfl) h

/-- Where the early return is taken, the filter is the one asked for. -/
theorem askedFilter_unchanged {filter : MruFilter}
    (h : m.appIdFilter.isSome = decide (filter = .appId)) :
    m.appIdFilter = m.askedFilter filter := by
  cases filter with
  | all => exact Option.not_isSome_iff_eq_none.mp (by rw [h]; decide)
  | appId =>
    obtain ⟨a, ha⟩ := Option.isSome_iff_exists.mp h
    rw [WindowMru.askedFilter, ha]
    rfl

theorem setFilter_spec (h : Consistent m) (filter : MruFilter) :
    ∃ m' old, m.setFilter filter = .ok (m', old) ∧ Consistent m' ∧
      Reselected m m' m.scope (m.askedFilter filter) := by
  have hkept : m.appIdFilter = m.askedFilter filter →
      Reselected m m m.scope (m.askedFilter filter) :=
    fun hsame => ⟨rfl, rfl, hsame, selectionFollows_refl h⟩
  unfold WindowMru.setFilter
  split
  · next hsame => exact ⟨m, none, rfl, h, hkept (askedFilter_unchanged hsame)⟩
  next hchanged =>
  cases hid : m.currentId with
  | none =>
    cases filter with
    | all =>
      obtain ⟨old, hold⟩ : ∃ old, m.appIdFilter = some old := by
        cases hfilter : m.appIdFilter with
        | none => exact absurd (by rw [hfilter]; rfl) hchanged
        | some old => exact ⟨old, rfl⟩
      refine ⟨{ m with appIdFilter := none }.first, some (some old), ?_,
        consistent_first (m := { m with appIdFilter := none }) h.distinct, rfl, rfl, rfl,
        .fresh hid rfl⟩
      dsimp only
      rw [hold]
      rfl
    | appId =>
      have hnone : m.currentAppId = none := by
        rw [WindowMru.currentAppId, List.find?_eq_none.mpr (by simp [hid])]
        rfl
      exact ⟨m, none, rfl, h, hkept (by rw [WindowMru.askedFilter, hnone, Option.or_none])⟩
  | some id =>
    obtain ⟨t, i, hfind, hi, rfl⟩ := findCurrent_eq h hid
    dsimp only
    rw [hfind]
    rcases filterChange_ok (currentAppId_eq h hid hi) hchanged with ⟨hchange, hsame⟩ | ⟨old, hchange⟩
    · refine ⟨m, none, ?_, h, hkept hsame⟩
      show (m.filterChange filter t.appId >>= fun change => _) = _
      rw [hchange]
      rfl
    · obtain ⟨hconsistent, hreselected⟩ := reselect h m.scope (m.askedFilter filter) hid hi
      refine ⟨_, some old, ?_, hconsistent, hreselected⟩
      show (m.filterChange filter t.appId >>= fun change => _) = _
      rw [hchange]
      rfl

/-! ## Removal -/

/-- With distinct ids, erasing a place hides the id there and no other. -/
theorem eraseIdx_eq_filter {l : List Thumbnail} {idx : ℕ} {removed : Thumbnail}
    (h : (l.map Thumbnail.id).Nodup) (hidx : l[idx]? = some removed) :
    l.eraseIdx idx = l.filter fun t => t.id ≠ removed.id := by
  induction l generalizing idx with
  | nil => rfl
  | cons t l ih =>
    obtain ⟨hnew, hnodup⟩ := List.nodup_cons.mp h
    cases idx with
    | zero =>
      obtain rfl : t = removed := Option.some.inj hidx
      rw [List.eraseIdx_zero, List.tail_cons, List.filter_cons, if_neg (by simp)]
      refine (List.filter_eq_self.mpr fun u hu => ?_).symm
      simp only [ne_eq, decide_eq_true_eq]
      exact fun heq => hnew (heq ▸ List.mem_map_of_mem hu)
    | succ idx =>
      have hidx : l[idx]? = some removed := hidx
      have hne : t.id ≠ removed.id := fun heq =>
        hnew (heq ▸ List.mem_map_of_mem (List.mem_of_getElem? hidx))
      rw [List.eraseIdx_cons_succ, List.filter_cons, if_pos (by simpa using hne),
        ih hnodup hidx]

/-- Moving off a thumbnail leaves it only if no other one is visible. -/
theorem moveOff_spec (h : Consistent m) (id : ℕ) :
    ∃ current, m.moveOff id = .ok { m with currentId := current } ∧
      Consistent { m with currentId := current } ∧
      (current = some id → ∀ t ∈ m.visible, t.id = id) := by
  unfold WindowMru.moveOff
  split
  · next hid =>
    obtain ⟨i, hi⟩ := h.place hid
    obtain ⟨t, ht, hplace⟩ := visible_mod hi (i + 1)
    refine ⟨some t.id, by rw [forward_eq h hid hi, hplace],
      consistent_set h (List.mem_map_of_mem ht), fun hsame u hu => ?_⟩
    obtain ⟨hlt, -⟩ := List.getElem?_eq_some_iff.mp hi
    obtain ⟨hlt', -⟩ := List.getElem?_eq_some_iff.mp hplace
    have hround : (i + 1) % m.visible.length = i := by
      exact (List.getElem?_inj hlt' (nodup_visible h.distinct)).mp
        (hplace.trans (hsame.trans hi.symm))
    rw [List.length_map] at hlt
    have hone : m.visible.length = 1 := length_eq_one_of_next hlt hround
    obtain ⟨v, hv⟩ := List.length_eq_one_iff.mp hone
    rw [hv, List.map_singleton] at hi
    rw [hv, List.mem_singleton] at hu
    have hzero : i = 0 := by omega
    rw [hzero] at hi
    rw [hu]
    exact Option.some.inj hi
  · next hne => exact ⟨m.currentId, rfl, h, fun hid => absurd hid hne⟩

theorem removeByIdx_spec (h : Consistent m) {idx : ℕ} (hidx : idx < m.thumbnails.length) :
    ∃ m' removed, m.removeByIdx idx = .ok (m', removed) ∧ Consistent m' := by
  have hplace : m.thumbnails[idx]? = some m.thumbnails[idx] := List.getElem?_eq_getElem hidx
  generalize m.thumbnails[idx] = removed at hplace
  obtain ⟨current, hmove, hmoved, hstill⟩ := moveOff_spec h removed.id
  have herase := eraseIdx_eq_filter h.distinct hplace
  refine ⟨{ m with
      thumbnails := m.thumbnails.eraseIdx idx
      currentId := if current = some removed.id then none else current }, some removed, ?_, ?_⟩
  · unfold WindowMru.removeByIdx
    rw [hplace]
    show (m.moveOff removed.id >>= fun moved => _) = _
    rw [hmove]
    rfl
  · have hvisible : ∀ t, t ∈ m.visible → t.id ≠ removed.id →
        t.id ∈ (WindowMru.visible { m with
          thumbnails := m.thumbnails.eraseIdx idx
          currentId := if current = some removed.id then none else current }).map
            Thumbnail.id := by
      intro t ht hne
      obtain ⟨hmem, hmatch⟩ := mem_visible.mp ht
      refine List.mem_map_of_mem (mem_visible.mpr ⟨?_, hmatch⟩)
      show t ∈ m.thumbnails.eraseIdx idx
      rw [herase]
      exact List.mem_filter.mpr ⟨hmem, by simpa using hne⟩
    refine ⟨h.distinct.sublist ((List.eraseIdx_sublist _ _).map _), fun id hid => ?_,
      fun hnone => ?_⟩
    · dsimp only at hid
      split at hid
      · cases hid
      · next hne =>
        obtain ⟨t, ht, rfl⟩ := List.mem_map.mp (hmoved.selected id hid)
        exact hvisible t ht fun heq => hne (hid.trans (congrArg some heq))
    · have hgone : ∀ t ∈ m.visible, t.id = removed.id := by
        dsimp only at hnone
        split at hnone
        · next hsame => exact hstill hsame
        · have hempty : m.visible = [] := hmoved.unselected hnone
          rw [hempty]
          exact fun t ht => absurd ht List.not_mem_nil
      refine List.filter_eq_nil_iff.mpr fun t ht hmatch => ?_
      have ht : t ∈ m.thumbnails.eraseIdx idx := ht
      rw [herase, List.mem_filter] at ht
      exact absurd (hgone t (mem_visible.mpr ⟨ht.1, hmatch⟩)) (by simpa using ht.2)

theorem removeByIdx_past (h : m.thumbnails.length ≤ idx) :
    m.removeByIdx idx = .error .indexOutOfBounds := by
  unfold WindowMru.removeByIdx
  rw [List.getElem?_eq_none h]
  rfl

/-! ## Runs -/

/-- One operation keeps the selection visible, or indexes past the end. -/
theorem apply_spec (h : Consistent m) (op : MruOp) :
    (∃ m', m.apply op = .ok m' ∧ Consistent m') ∨
      (m.apply op = .error .indexOutOfBounds ∧
        ∃ idx, op = .removeByIdx idx ∧ m.thumbnails.length ≤ idx) := by
  have hmoved : ∀ x : Except Panic WindowMru, x = .ok m ∨
      (∃ t ∈ m.visible, x = .ok { m with currentId := some t.id }) →
      ∃ m', x = .ok m' ∧ Consistent m' := by
    rintro x (rfl | ⟨t, ht, rfl⟩)
    · exact ⟨m, rfl, h⟩
    · exact ⟨_, rfl, consistent_set h (List.mem_map_of_mem ht)⟩
  cases op with
  | forward =>
    left
    refine hmoved m.forward ?_
    by_cases hid : m.currentId = none
    · exact Or.inl (advance_none hid)
    · exact Or.inr (forward_visible h hid)
  | backward =>
    left
    refine hmoved m.backward ?_
    by_cases hid : m.currentId = none
    · exact Or.inl (advance_none hid)
    · exact Or.inr (backward_visible h hid)
  | first => exact Or.inl ⟨_, rfl, consistent_first h.distinct⟩
  | last => exact Or.inl ⟨_, rfl, consistent_last h.distinct⟩
  | setCurrent id => exact Or.inl ⟨_, rfl, consistent_setCurrent h id⟩
  | setScope scope =>
    obtain ⟨m', old, heq, hconsistent, -⟩ := setScope_spec h scope
    exact Or.inl ⟨m', by rw [WindowMru.apply, heq]; rfl, hconsistent⟩
  | setFilter filter =>
    obtain ⟨m', old, heq, hconsistent, -⟩ := setFilter_spec h filter
    exact Or.inl ⟨m', by rw [WindowMru.apply, heq]; rfl, hconsistent⟩
  | removeByIdx idx =>
    rcases Nat.lt_or_ge idx m.thumbnails.length with hlt | hge
    · obtain ⟨m', removed, heq, hconsistent⟩ := removeByIdx_spec h hlt
      exact Or.inl ⟨m', by rw [WindowMru.apply, heq]; rfl, hconsistent⟩
    · exact Or.inr ⟨by rw [WindowMru.apply, removeByIdx_past hge]; rfl, idx, rfl, hge⟩

theorem run_spec (h : Consistent m) (ops : List MruOp) :
    (∃ m', m.run ops = .ok m' ∧ Consistent m') ∨ m.run ops = .error .indexOutOfBounds := by
  induction ops generalizing m with
  | nil => exact Or.inl ⟨m, rfl, h⟩
  | cons op ops ih =>
    rw [WindowMru.run, List.foldlM_cons]
    rcases apply_spec h op with ⟨m', heq, hconsistent⟩ | ⟨heq, -⟩
    · rw [heq]
      exact ih hconsistent
    · rw [heq]
      exact Or.inr rfl

end

theorem new_consistent (activeOutput : Option String) {workspaces : List ListedWorkspace}
    (h : ((workspaces.flatMap fun ws => ws.windows).map MappedWindow.id).Nodup) :
    Consistent (WindowMru.new activeOutput workspaces) := by
  cases activeOutput with
  | none => exact ⟨List.nodup_nil, fun _ hid => (nomatch hid), fun _ => rfl⟩
  | some output =>
    have hids : (workspaces.flatMap (thumbnailsOf output)).map Thumbnail.id =
        (workspaces.flatMap fun ws => ws.windows).map MappedWindow.id := by
      rw [List.map_flatMap, List.map_flatMap]
      refine congrArg (List.flatMap · workspaces) (funext fun ws => ?_)
      rw [thumbnailsOf, List.map_map]
      rfl
    have hsorted : ((workspaces.flatMap (thumbnailsOf output)).mergeSort
        fun t1 t2 => timestampLe t2.timestamp t1.timestamp).map Thumbnail.id |>.Nodup :=
      ((List.mergeSort_perm _ _).map _).nodup_iff.mpr (hids ▸ h)
    unfold WindowMru.new
    dsimp only
    generalize (workspaces.flatMap (thumbnailsOf output)).mergeSort _ = thumbnails at hsorted ⊢
    -- Nothing is hidden at first.
    have hvisible : (WindowMru.mk thumbnails none .all none).visible = thumbnails :=
      List.filter_eq_self.mpr fun _ _ => rfl
    have hfirst := consistent_first (m := ⟨thumbnails, none, .all, none⟩) hsorted
    rw [WindowMru.first, WindowMru.firstId, hvisible] at hfirst
    exact hfirst

/-- The state of the switcher as it should be. -/
structure SelectionSound (m : WindowMru) : Prop where
  /-- Nothing is selected only if nothing is visible. -/
  none_iff : m.currentId = none ↔ m.visible = []
  selected : ∀ id, m.currentId = some id → ∃ t ∈ m.visible, t.id = id
  noPanic : ∀ op p, m.apply op = .error p →
    p = .indexOutOfBounds ∧ ∃ idx, op = .removeByIdx idx ∧ m.thumbnails.length ≤ idx
  forward : m.currentId ≠ none →
    ∃ t ∈ m.visible, m.forward = .ok { m with currentId := some t.id }
  backward : m.currentId ≠ none →
    ∃ t ∈ m.visible, m.backward = .ok { m with currentId := some t.id }
  forwardBackward : (m.forward >>= WindowMru.backward) = .ok m
  backwardForward : (m.backward >>= WindowMru.forward) = .ok m
  /-- Going forward passes every visible thumbnail. -/
  cycle : ∀ t ∈ m.visible,
    ∃ n, m.run (List.replicate n .forward) = .ok { m with currentId := some t.id }
  scope : ∀ scope m' old, m.setScope scope = .ok (m', old) → Reselected m m' scope m.appIdFilter
  filter : ∀ filter m' old, m.setFilter filter = .ok (m', old) →
    Reselected m m' m.scope (m.askedFilter filter)

theorem sound_of_consistent {m : WindowMru} (h : Consistent m) : SelectionSound m where
  none_iff := by
    refine ⟨h.unselected, fun hempty => ?_⟩
    cases hid : m.currentId with
    | none => rfl
    | some id =>
      have hmem := h.selected id hid
      rw [hempty] at hmem
      exact absurd hmem List.not_mem_nil
  selected id hid := List.mem_map.mp (h.selected id hid)
  noPanic op p hp := by
    rcases apply_spec h op with ⟨m', heq, -⟩ | ⟨heq, hpast⟩
    · exact nomatch heq.symm.trans hp
    · exact ⟨(Except.error.inj (heq.symm.trans hp)).symm, hpast⟩
  forward := forward_visible h
  backward := backward_visible h
  forwardBackward := forward_backward h
  backwardForward := backward_forward h
  cycle t ht := by
    refine forward_reaches h (fun hnone => ?_) ht
    rw [h.unselected hnone] at ht
    exact absurd ht List.not_mem_nil
  scope scope m' old heq := by
    obtain ⟨m'', old', heq', -, hreselected⟩ := setScope_spec h scope
    obtain ⟨rfl, -⟩ := Prod.mk.inj (Except.ok.inj (heq.symm.trans heq'))
    exact hreselected
  filter filter m' old heq := by
    obtain ⟨m'', old', heq', -, hreselected⟩ := setFilter_spec h filter
    obtain ⟨rfl, -⟩ := Prod.mk.inj (Except.ok.inj (heq.symm.trans heq'))
    exact hreselected

/-- Every run from a new switcher keeps it sound, and fails no `unwrap`, `expect`
    or `assert`. -/
theorem window_mru_sound (activeOutput : Option String) (workspaces : List ListedWorkspace)
    (hdistinct : ((workspaces.flatMap fun ws => ws.windows).map MappedWindow.id).Nodup)
    (ops : List MruOp) :
    (∀ m, (WindowMru.new activeOutput workspaces).run ops = .ok m → SelectionSound m) ∧
      ∀ p, (WindowMru.new activeOutput workspaces).run ops = .error p → p = .indexOutOfBounds := by
  rcases run_spec (new_consistent activeOutput hdistinct) ops with ⟨m', heq, hconsistent⟩ | heq
  · refine ⟨fun m hm => ?_, fun p hp => (nomatch heq.symm.trans hp)⟩
    obtain rfl := Except.ok.inj (heq.symm.trans hm)
    exact sound_of_consistent hconsistent
  · exact ⟨fun m hm => (nomatch heq.symm.trans hm),
      fun p hp => (Except.error.inj (heq.symm.trans hp)).symm⟩

/-- Windows on the active workspace of an output and on the one below it. -/
def twoWorkspaces : List ListedWorkspace :=
  [⟨"eDP-1", 0, 0, [⟨1, none, none⟩, ⟨2, none, some "foot"⟩]⟩,
    ⟨"eDP-1", 0, 1, [⟨3, none, none⟩, ⟨4, none, none⟩]⟩]

/-- The switcher on these windows, in the order of the workspaces. -/
def fourThumbnails (currentId : ℕ) (scope : MruScope) : WindowMru :=
  ⟨[⟨1, none, true, true, none⟩, ⟨2, none, true, true, some "foot"⟩,
    ⟨3, none, true, false, none⟩, ⟨4, none, true, false, none⟩], some currentId, scope, none⟩

theorem new_twoWorkspaces :
    WindowMru.new (some "eDP-1") twoWorkspaces = fourThumbnails 1 .all := by
  unfold WindowMru.new
  dsimp only
  rw [List.mergeSort_of_pairwise (by decide +kernel)]
  decide +kernel

/-- The last window is selected and is not on the active workspace: with that scope the
    selection goes to the nearest thumbnail on its left, whose app id is then asked for. -/
theorem window_mru_sound_rescoped :
    (fourThumbnails 4 .all).setScope .workspace = .ok (fourThumbnails 2 .workspace, some .all) ∧
      Reselected (fourThumbnails 4 .all) (fourThumbnails 2 .workspace) .workspace none ∧
      SelectionSound (fourThumbnails 2 .workspace) ∧
      (fourThumbnails 2 .workspace).askedFilter .appId = some "foot" := by
  have hrescoped : (fourThumbnails 4 .all).setScope .workspace =
      .ok (fourThumbnails 2 .workspace, some .all) := by decide +kernel
  have hsound : SelectionSound (fourThumbnails 4 .all) :=
    (window_mru_sound (some "eDP-1") twoWorkspaces (by decide) [.last]).1 _
      (by rw [new_twoWorkspaces]; decide +kernel)
  refine ⟨hrescoped, hsound.scope .workspace _ _ hrescoped, ?_, by decide⟩
  exact (window_mru_sound (some "eDP-1") twoWorkspaces (by decide) [.last, .setScope .workspace]).1 _
    (by rw [new_twoWorkspaces]; decide +kernel)

end Cidre.Ui
