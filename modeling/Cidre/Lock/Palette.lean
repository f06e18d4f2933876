/-
  Cidre.Lock.Palette

  Compositor actions, as far as the keyboard filter tells them apart, and the
  action palette (`src/ui/action_palette.rs`): a query, the actions it leaves
  and the selected one.

  `get_selected_action` indexes the filtered actions and would panic out of
  range; `selection_valid` is why it never does, from any run of the palette's
  operations.
-/

import Cidre.Lib.Run

namespace Cidre.Lock

/-! ## Actions -/

inductive Action where
  | quit (skipConfirmation : Bool)
  | changeVt (vt : Nat)
  | suspend
  | powerOffMonitors
  | powerOnMonitors
  | switchLayout (layout : Int)
  | toggleKeyboardShortcutsInhibit
  | spawn (command : List String)
  | spawnSh (command : String)
  | doScreenTransition (delayMs : Option Nat)
  | toggleActionPalette
  | toggleOverview
  | focusColumnLeft
  | focusColumnRight
  | focusWindowOrWorkspaceUp
  | focusWindowOrWorkspaceDown
  | mruConfirm
  | cancelScreenshot
  | confirmScreenshot (writeToDisk : Bool)
  | screenshotTogglePointer
  /-- The actions on columns and windows the screenshot UI handles itself. -/
  | moveOrResize (name : String)
  | other (name : String)
deriving DecidableEq, Repr

def allowedWhenLocked : Action → Bool
  | .quit _ | .changeVt _ | .suspend | .powerOffMonitors | .powerOnMonitors
  | .switchLayout _ | .toggleKeyboardShortcutsInhibit => true
  | _ => false

def allowedDuringScreenshot : Action → Bool
  | .quit _ | .changeVt _ | .suspend | .powerOffMonitors | .powerOnMonitors
  | .spawn _ | .spawnSh _ | .moveOrResize _ => true
  | _ => false

/-! ## The action palette -/

/-- The Unicode functions of the standard library the palette uses. -/
structure Text where
  trim : String → String
  toLowercase : String → String
  /-- `c.to_lowercase().next()`. -/
  firstLowercase : Char → Option Char

structure ActionItem where
  displayName : String
  action : Action
  keybindHint : Option String
deriving DecidableEq, Repr

structure ActionPalette where
  isOpen : Bool
  query : String
  selectedIdx : Nat
  allActions : List ActionItem
  filteredActions : List ActionItem
deriving DecidableEq, Repr

/-- `fuzzy_match`: the characters of the query in order, with gaps. -/
def fuzzyMatch (t : Text) : List Char → List Char → Bool
  | _, [] => true
  | [], _ :: _ => false
  | c :: text, q :: query =>
      if t.firstLowercase c = t.firstLowercase q then fuzzyMatch t text query
      else fuzzyMatch t text (q :: query)

/-- `text.contains(query)`. -/
def containsText (text query : List Char) : Bool := text.tails.any query.isPrefixOf

namespace ActionPalette

variable (t : Text) (fuzzySearch : Bool) (p : ActionPalette)

def new : ActionPalette := ⟨false, "", 0, [], []⟩

def filterActions : ActionPalette :=
  let query := t.toLowercase (t.trim p.query)
  let filtered :=
    if query.isEmpty then p.allActions
    else p.allActions.filter fun item =>
      let text := t.toLowercase item.displayName
      if fuzzySearch then fuzzyMatch t text.toList query.toList
      else containsText text.toList query.toList
  { p with
    filteredActions := filtered
    selectedIdx :=
      if filtered.length ≤ p.selectedIdx && !filtered.isEmpty then 0 else p.selectedIdx }

/-- `show`; `actions` is what `populate_actions` makes of the configuration. -/
def «show» (actions : List ActionItem) : ActionPalette :=
  if p.isOpen then p
  else
    { p with isOpen := true, query := "", selectedIdx := 0, allActions := actions }.filterActions
      t fuzzySearch

def hide : ActionPalette := { p with isOpen := false }

def handleChar (c : Char) : ActionPalette :=
  { p with query := p.query.push c, selectedIdx := 0 }.filterActions t fuzzySearch

def handleBackspace : ActionPalette :=
  { p with query := String.ofList p.query.toList.dropLast, selectedIdx := 0 }.filterActions
    t fuzzySearch

def handleMoveUp : ActionPalette :=
  if p.filteredActions.isEmpty then p
  else
    { p with
      selectedIdx :=
        if 0 < p.selectedIdx then p.selectedIdx - 1 else p.filteredActions.length - 1 }

def handleMoveDown : ActionPalette :=
  if p.filteredActions.isEmpty then p
  else
    { p with
      selectedIdx :=
        if p.selectedIdx < p.filteredActions.length - 1 then p.selectedIdx + 1 else 0 }

/-- `get_selected_action`; the outer `none` is the panic of the index. -/
def getSelectedAction : Option (Option Action) :=
  if p.filteredActions.isEmpty then some none
  else (p.filteredActions[p.selectedIdx]?).map fun item => some item.action

/-! ## The selection stays in range -/

inductive Input where
  | show (actions : List ActionItem)
  | hide
  | char (c : Char)
  | backspace
  | moveUp
  | moveDown

def step : Input → ActionPalette
  | .show actions => p.show t fuzzySearch actions
  | .hide => p.hide
  | .char c => p.handleChar t fuzzySearch c
  | .backspace => p.handleBackspace t fuzzySearch
  | .moveUp => p.handleMoveUp
  | .moveDown => p.handleMoveDown

/-- The selected action exists, unless the query leaves none. -/
def Valid (p : ActionPalette) : Prop :=
  p.filteredActions = [] ∨ p.selectedIdx < p.filteredActions.length

variable {t fuzzySearch p}

theorem filteredActions_pos (h : ¬ p.filteredActions.isEmpty = true) :
    0 < p.filteredActions.length := by
  rw [List.length_pos_iff]
  simpa using h

theorem filterActions_valid (h : p.selectedIdx = 0) : (p.filterActions t fuzzySearch).Valid := by
  rw [Valid]
  by_cases hempty : (p.filterActions t fuzzySearch).filteredActions = []
  · exact .inl hempty
  · have hlen : 0 < (p.filterActions t fuzzySearch).filteredActions.length :=
      List.length_pos_iff.mpr hempty
    have hidx : (p.filterActions t fuzzySearch).selectedIdx = 0 := by
      rw [filterActions, h]
      exact ite_self 0
    exact .inr (hidx ▸ hlen)

theorem step_valid (h : p.Valid) (i : Input) : (p.step t fuzzySearch i).Valid := by
  cases i with
  | «show» actions =>
    show (if p.isOpen then p else _).Valid
    split
    · exact h
    · exact filterActions_valid rfl
  | hide => exact h
  | char c => exact filterActions_valid rfl
  | backspace => exact filterActions_valid rfl
  | moveUp =>
    show (p.handleMoveUp).Valid
    rw [handleMoveUp]
    split
    · exact h
    · rename_i hne
      have hlen := filteredActions_pos hne
      rcases h with h | h
      · rw [h] at hlen
        exact absurd hlen (by simp)
      · refine .inr ?_
        show (if 0 < p.selectedIdx then _ else _) < p.filteredActions.length
        split <;> omega
  | moveDown =>
    show (p.handleMoveDown).Valid
    rw [handleMoveDown]
    split
    · exact h
    · rename_i hne
      have hlen := filteredActions_pos hne
      refine .inr ?_
      show (if p.selectedIdx < p.filteredActions.length - 1 then _ else _) <
        p.filteredActions.length
      split <;> omega

end ActionPalette

end Cidre.Lock
