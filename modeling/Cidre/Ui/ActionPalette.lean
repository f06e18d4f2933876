/-
  Cidre.Ui.ActionPalette

  What the action palette draws (`render_palette_box` of `ui/action_palette.rs`), and
  whether the row it highlights is the action that Return runs.

  Only the first eight actions are drawn, whichever is selected.
-/

import Cidre.Lock.Palette

namespace Cidre.Ui

open Lock Run

/-! ## The picture -/

/-- What the picture depends on besides the palette. -/
structure PaletteConfig where
  showCurrentState : Bool
  showKeybinds : Bool
  /-- `config.resolved_animation_profile_label()` -/
  profileLabel : String

structure PaletteRow where
  item : ActionItem
  text : String
  hint : Option String
  /-- the highlight bar is behind the row -/
  isSelected : Bool
deriving DecidableEq

structure PalettePicture where
  prompt : String
  status : Option String
  rows : List PaletteRow
  notice : Option String

def maxVisibleItems : Nat := 8

def paletteRow (config : PaletteConfig) (selectedIdx : Nat) (item : ActionItem) (idx : Nat) :
    PaletteRow :=
  let isSelected := idx == selectedIdx
  { item
    text := if isSelected then "▶  " ++ item.displayName else "    " ++ item.displayName
    hint := if config.showKeybinds then item.keybindHint else none
    isSelected }

def renderPaletteBox (p : ActionPalette) (config : PaletteConfig) : PalettePicture where
  prompt := "> " ++ p.query
  status := if config.showCurrentState then some ("Profile: " ++ config.profileLabel) else none
  rows := (p.filteredActions.take maxVisibleItems).mapIdx fun idx item =>
    paletteRow config p.selectedIdx item idx
  notice := if p.filteredActions.isEmpty then some "No matching actions found" else none

/-! ## The highlighted row -/

/-- The action that Return runs can be read, and if there are actions, one row is
highlighted and it is the row of that action. -/
structure Highlighted (p : ActionPalette) : Prop where
  readable : p.getSelectedAction ≠ none
  row : p.filteredActions ≠ [] → ∀ config, ∃ row,
    (renderPaletteBox p config).rows.filter PaletteRow.isSelected = [row] ∧
      p.getSelectedAction = some (some row.item.action)

variable {t : Text} {p : ActionPalette}

theorem paletteRow_isSelected (config : PaletteConfig) (k idx : Nat) (item : ActionItem) :
    (paletteRow config k item idx).isSelected = (idx == k) := rfl

/-- Of rows that are numbered from `off`, the one of the selected index is highlighted. -/
theorem filter_isSelected (config : PaletteConfig) (k : Nat) (items : List ActionItem)
    (off : Nat) :
    (items.mapIdx fun idx item => paletteRow config k item (off + idx)).filter
        PaletteRow.isSelected =
      if off ≤ k then (items[k - off]?).toList.map fun item => paletteRow config k item k
      else [] := by
  induction items generalizing off with
  | nil => simp
  | cons item items ih =>
    have htail : (items.mapIdx fun idx item => paletteRow config k item (off + (idx + 1))) =
        items.mapIdx fun idx item => paletteRow config k item (off + 1 + idx) := by
      refine congrArg (items.mapIdx ·) (funext fun idx => funext fun item => ?_)
      rw [Nat.add_assoc, Nat.add_comm 1 idx]
    rw [List.mapIdx_cons, htail, Nat.add_zero]
    rcases Nat.lt_trichotomy off k with hlt | rfl | hgt
    · have hnot : (paletteRow config k item off).isSelected = false := by
        rw [paletteRow_isSelected, beq_eq_false_iff_ne]
        omega
      have hidx : k - off = k - (off + 1) + 1 := by omega
      rw [List.filter_cons_of_neg (by simp [hnot]), ih, if_pos (by omega), if_pos hlt.le, hidx,
        List.getElem?_cons_succ]
    · have hsel : (paletteRow config off item off).isSelected = true := by
        rw [paletteRow_isSelected, beq_self_eq_true]
      rw [List.filter_cons_of_pos hsel, ih, if_neg (by omega), if_pos le_rfl, Nat.sub_self,
        List.getElem?_cons_zero]
      rfl
    · have hnot : (paletteRow config k item off).isSelected = false := by
        rw [paletteRow_isSelected, beq_eq_false_iff_ne]
        omega
      rw [List.filter_cons_of_neg (by simp [hnot]), ih, if_neg (by omega), if_neg (by omega)]

/-- The row of the selected action, if it is among those that are drawn. -/
theorem rows_isSelected (p : ActionPalette) (config : PaletteConfig) :
    (renderPaletteBox p config).rows.filter PaletteRow.isSelected =
      ((p.filteredActions.take maxVisibleItems)[p.selectedIdx]?).toList.map fun item =>
        paletteRow config p.selectedIdx item p.selectedIdx := by
  have hrows := filter_isSelected config p.selectedIdx
    (p.filteredActions.take maxVisibleItems) 0
  unfold renderPaletteBox
  simpa only [Nat.zero_add, Nat.zero_le, if_true, Nat.sub_zero] using hrows

/-- The selected index is that of a row that is drawn, or there is nothing to select. -/
def Drawn (p : ActionPalette) : Prop :=
  p.filteredActions = [] ∨ p.selectedIdx < maxVisibleItems

theorem getSelectedAction_of_lt (h : p.selectedIdx < p.filteredActions.length) :
    p.getSelectedAction = some (some p.filteredActions[p.selectedIdx].action) := by
  have hne : p.filteredActions ≠ [] := List.ne_nil_of_length_pos (by omega)
  rw [ActionPalette.getSelectedAction, if_neg (by simpa using hne), List.getElem?_eq_getElem h,
    Option.map_some]

theorem getSelectedAction_readable (h : p.Valid) : p.getSelectedAction ≠ none := by
  rcases h with hempty | hlt
  · rw [ActionPalette.getSelectedAction, if_pos (by simp [hempty])]
    exact Option.some_ne_none _
  · rw [getSelectedAction_of_lt hlt]
    exact Option.some_ne_none _

theorem highlighted_iff_drawn (h : p.Valid) : Highlighted p ↔ Drawn p := by
  constructor
  · intro hlight
    by_contra hnot
    rw [Drawn, not_or] at hnot
    obtain ⟨row, hrow, -⟩ := hlight.row hnot.1 ⟨false, false, ""⟩
    -- beyond the rows that are drawn none is selected
    have hbeyond : (p.filteredActions.take maxVisibleItems)[p.selectedIdx]? = none := by
      rw [List.getElem?_eq_none_iff, List.length_take]
      omega
    rw [rows_isSelected, hbeyond] at hrow
    exact absurd hrow (by simp)
  · intro hdrawn
    refine ⟨getSelectedAction_readable h, fun hne config => ?_⟩
    have hlt : p.selectedIdx < p.filteredActions.length := h.resolve_left hne
    have hvisible : p.selectedIdx < maxVisibleItems := hdrawn.resolve_left hne
    refine ⟨paletteRow config p.selectedIdx p.filteredActions[p.selectedIdx] p.selectedIdx, ?_,
      getSelectedAction_of_lt hlt⟩
    rw [rows_isSelected, List.getElem?_take_of_lt hvisible, List.getElem?_eq_getElem hlt]
    rfl

/-! ## Runs -/

/-- The selection leaves the rows that are drawn: up from the first one to the last action,
or down from the last one, with more actions than rows. -/
def Leaves (p : ActionPalette) : ActionPalette.Input → Prop
  | .moveUp => p.selectedIdx = 0 ∧ maxVisibleItems < p.filteredActions.length
  | .moveDown =>
      p.selectedIdx = maxVisibleItems - 1 ∧ maxVisibleItems < p.filteredActions.length
  | _ => False

theorem filterActions_selectedIdx (fuzzySearch : Bool) (h : p.selectedIdx = 0) :
    (p.filterActions t fuzzySearch).selectedIdx = 0 := by
  rw [ActionPalette.filterActions, h]
  exact ite_self 0

theorem filterActions_drawn (fuzzySearch : Bool) (h : p.selectedIdx = 0) :
    Drawn (p.filterActions t fuzzySearch) :=
  .inr (by rw [filterActions_selectedIdx fuzzySearch h]; decide)

theorem handleMoveUp_drawn_iff (hvalid : p.Valid) (hdrawn : Drawn p) :
    Drawn p.handleMoveUp ↔ ¬Leaves p .moveUp := by
  by_cases hempty : p.filteredActions = []
  · have hsame : p.handleMoveUp = p := if_pos (by rw [hempty]; rfl)
    rw [hsame]
    exact iff_of_true hdrawn (by simp [Leaves, hempty])
  · have hlt : p.selectedIdx < p.filteredActions.length := hvalid.resolve_left hempty
    have hvisible : p.selectedIdx < maxVisibleItems := hdrawn.resolve_left hempty
    have hmoved : p.handleMoveUp = { p with
        selectedIdx :=
          if 0 < p.selectedIdx then p.selectedIdx - 1 else p.filteredActions.length - 1 } :=
      if_neg (by simpa using hempty)
    rw [hmoved, Drawn, or_iff_right hempty, Leaves]
    unfold maxVisibleItems at hvisible ⊢
    dsimp only
    split <;> omega

theorem handleMoveDown_drawn_iff (hvalid : p.Valid) (hdrawn : Drawn p) :
    Drawn p.handleMoveDown ↔ ¬Leaves p .moveDown := by
  by_cases hempty : p.filteredActions = []
  · have hsame : p.handleMoveDown = p := if_pos (by rw [hempty]; rfl)
    rw [hsame]
    exact iff_of_true hdrawn (by simp [Leaves, hempty])
  · have hlt : p.selectedIdx < p.filteredActions.length := hvalid.resolve_left hempty
    have hvisible : p.selectedIdx < maxVisibleItems := hdrawn.resolve_left hempty
    have hmoved : p.handleMoveDown = { p with
        selectedIdx :=
          if p.selectedIdx < p.filteredActions.length - 1 then p.selectedIdx + 1 else 0 } :=
      if_neg (by simpa using hempty)
    rw [hmoved, Drawn, or_iff_right hempty, Leaves]
    unfold maxVisibleItems at hvisible ⊢
    dsimp only
    split <;> omega

/-- The palette under a configuration that searches fuzzily or not. -/
def paletteStep (t : Text) (p : ActionPalette) (event : Bool × ActionPalette.Input) :
    Option ActionPalette :=
  some (p.step t event.1 event.2)

theorem step_drawn_iff (hvalid : p.Valid) (hdrawn : Drawn p) (fuzzySearch : Bool)
    (input : ActionPalette.Input) :
    Drawn (p.step t fuzzySearch input) ↔ ¬Leaves p input := by
  cases input with
  | «show» actions =>
    refine iff_of_true ?_ id
    show Drawn (if p.isOpen then p else _)
    -- a palette that is open stays as it is
    split
    · exact hdrawn
    · exact filterActions_drawn fuzzySearch rfl
  | hide => exact iff_of_true hdrawn id
  | char c | backspace => exact iff_of_true (filterActions_drawn fuzzySearch rfl) id
  | moveUp => exact handleMoveUp_drawn_iff hvalid hdrawn
  | moveDown => exact handleMoveDown_drawn_iff hvalid hdrawn

/-- The highlighted row is what runs, in every state of a run whose moves do not leave the
rows that are drawn, and not in every state of any other. -/
theorem highlighted_iff (t : Text) (events : List (Bool × ActionPalette.Input)) :
    (∀ before, before <+: events → ∀ p,
        run (paletteStep t) ActionPalette.new before = some p → Highlighted p) ↔
      StepsMeet (paletteStep t) (fun p event => ¬Leaves p event.2) ActionPalette.new events := by
  have htotal : ∀ (p : ActionPalette) (event : Bool × ActionPalette.Input), p.Valid →
      ∃ p', paletteStep t p event = some p' ∧ p'.Valid :=
    fun p event hvalid => ⟨_, rfl, ActionPalette.step_valid hvalid event.2⟩
  refine holds_iff_stepsMeet htotal (fun p event p' hvalid hlight hstep => ?_) (.inl rfl) ?_ events
  · obtain rfl : p.step t event.1 event.2 = p' := Option.some.inj hstep
    rw [highlighted_iff_drawn (ActionPalette.step_valid hvalid event.2)]
    exact step_drawn_iff hvalid ((highlighted_iff_drawn hvalid).mp hlight) event.1 event.2
  · exact (highlighted_iff_drawn (.inl rfl)).mpr (.inl rfl)

def suspendNineTimes : List ActionItem := List.replicate 9 ⟨"Suspend", .suspend, none⟩

/-- With nine actions listed, Up goes to the last one, which Return runs and which is not
drawn. -/
theorem ninth_not_drawn : ∃ p,
    run (paletteStep ⟨id, id, some⟩) ActionPalette.new
        [(true, .show suspendNineTimes), (true, .moveUp)] = some p ∧
      p.getSelectedAction = some (some .suspend) ∧ ¬Highlighted p := by
  refine ⟨⟨true, "", 8, suspendNineTimes, suspendNineTimes⟩, rfl, rfl, ?_⟩
  rw [highlighted_iff_drawn (.inr (by decide))]
  rintro (hempty | hlt)
  · exact absurd hempty (by decide)
  · exact absurd hlt (by decide)

end Cidre.Ui
