/-
  Cidre.Liquid.RuleEngine

  Unified rules (`niri-config/src/liquid.rs`) and the engine that matches, applies and
  traces them in the order of their priorities (`liquid/rule_engine.rs`).

  A sum, a difference or a negation that overflows panics.  The type of opacities, their
  conversion to it and the debug format of an action are parameters.
-/

import Mathlib.Data.List.Infix
import Cidre.Lib.StableSort

namespace Cidre.Liquid

open Panic StableSort

/-! ## Rules -/

inductive RuleTarget where
  | window
  | layer
  | workspace
  | column
  | specialWorkspace
  | output
deriving DecidableEq

def RuleTarget.asStr : RuleTarget → String
  | window => "window"
  | layer => "layer"
  | workspace => "workspace"
  | column => "column"
  | specialWorkspace => "special-workspace"
  | output => "output"

/-- The target of a name, as the configuration spells it. -/
def RuleTarget.ofStr : String → Option RuleTarget
  | "window" => some window
  | "layer" => some layer
  | "workspace" => some workspace
  | "column" => some column
  | "special-workspace" => some specialWorkspace
  | "output" => some output
  | _ => none

@[simp] theorem RuleTarget.ofStr_asStr (target : RuleTarget) :
    RuleTarget.ofStr target.asStr = some target := by
  cases target <;> rfl

/-- `F` is the type of opacities. -/
inductive RuleAction (F : Type) where
  | setMaterial (name : String)
  | setAnimationProfile (name : String)
  | setWorkspace (name : String)
  | setEffectPreset (name : String)
  | setFloating (floating : Bool)
  | setOpacity (opacity : F)
  | setColumnDisplay (display : String)
deriving DecidableEq

structure UnifiedRule (F : Type) where
  id : String
  target : RuleTarget
  priority : Int32
  appIdFilter : Option String
  titleFilter : Option String
  actions : List (RuleAction F)
deriving DecidableEq

structure RuleMatchDoc where
  appId : Option String
  title : Option String

/-- `D` is the type of opacities in the document. -/
structure UnifiedRuleApplyDoc (D : Type) where
  workspace : Option String
  material : Option String
  animationProfile : Option String
  effectPreset : Option String
  floating : Option Bool
  opacity : Option D
  columnDisplay : Option String

structure UnifiedRuleDoc (D : Type) where
  name : String
  target : Option String
  priority : Option Int32
  matchers : List RuleMatchDoc
  apply : Option (UnifiedRuleApplyDoc D)

variable {D F : Type}

def UnifiedRuleApplyDoc.actions (asF32 : D → F) (apply : UnifiedRuleApplyDoc D) :
    List (RuleAction F) :=
  (apply.workspace.map .setWorkspace).toList ++
  (apply.material.map .setMaterial).toList ++
  (apply.animationProfile.map .setAnimationProfile).toList ++
  (apply.effectPreset.map .setEffectPreset).toList ++
  (apply.floating.map .setFloating).toList ++
  (apply.opacity.map fun opacity => .setOpacity (asF32 opacity)).toList ++
  (apply.columnDisplay.map .setColumnDisplay).toList

def UnifiedRuleDoc.intoRule (asF32 : D → F) (doc : UnifiedRuleDoc D) : UnifiedRule F where
  id := doc.name
  target := (doc.target.bind RuleTarget.ofStr).getD .window
  priority := doc.priority.getD 50
  -- only the first match block counts
  appIdFilter := doc.matchers.head?.bind RuleMatchDoc.appId
  titleFilter := doc.matchers.head?.bind RuleMatchDoc.title
  actions := (doc.apply.map (UnifiedRuleApplyDoc.actions asF32)).getD []

/-! ## The engine -/

/-- `s.contains(pattern)`. -/
def contains (s pattern : String) : Bool := decide (pattern.toList <:+: s.toList)

/-- `-priority`, with the overflow check. -/
def checkedNeg (priority : Int32) : Option Int32 :=
  if priority = Int32.minValue then none else some (-priority)

structure RuleEngine (F : Type) where
  rules : List (UnifiedRule F)

namespace RuleEngine

variable (engine : RuleEngine F) (target : RuleTarget) (appId title : Option String)

def new (unifiedRules : List (UnifiedRule F)) : Option (RuleEngine F) := do
  let rules ← sortByKey (fun r => checkedNeg r.priority) unifiedRules
  return { rules }

def reload (_ : RuleEngine F) (unifiedRules : List (UnifiedRule F)) : Option (RuleEngine F) := do
  let rules ← sortByKey (fun r => checkedNeg r.priority) unifiedRules
  return { rules }

def findMatching : List (UnifiedRule F) :=
  engine.rules.filter fun rule =>
    rule.target == target && (
      let appMatch := (rule.appIdFilter.map fun f => appId.any fun id => contains id f).getD true
      let titleMatch := (rule.titleFilter.map fun f => title.any fun t => contains t f).getD true
      appMatch && titleMatch)

def apply : List (RuleAction F) :=
  (engine.findMatching target appId title).flatMap UnifiedRule.actions

/-- The line of a rule under its status. -/
def ruleLine (status : String) (rule : UnifiedRule F) : String :=
  status ++ (" rule=" ++ rule.id ++ " target=" ++ rule.target.asStr ++ " priority=" ++
    toString rule.priority)

def applyLine (debug : RuleAction F → String) (action : RuleAction F) : String :=
  "  [apply] " ++ debug action

/-- What one rule adds to the trace. -/
def traceRule (debug : RuleAction F → String) (rule : UnifiedRule F) : List String :=
  if rule.target != target then []
  else
    let matched :=
      let appMatch := (rule.appIdFilter.map fun f => appId.any fun id => contains id f).getD true
      let titleMatch := (rule.titleFilter.map fun f => title.any fun t => contains t f).getD true
      appMatch && titleMatch
    let status := if matched then "[match]" else "[skip]"
    ruleLine status rule :: if matched then rule.actions.map (applyLine debug) else []

def trace (debug : RuleAction F → String) : List String :=
  engine.rules.foldl (fun lines rule => lines ++ traceRule target appId title debug rule) []

/-! ## The order of the rules -/

/-- The engine has the rules of the configuration, those of higher priority first, and
those of one priority in the order of the configuration. -/
structure InPriorityOrder (unifiedRules : List (UnifiedRule F)) (engine : RuleEngine F) :
    Prop where
  perm : engine.rules.Perm unifiedRules
  descending : engine.rules.Pairwise fun a b => b.priority ≤ a.priority
  ties : ∀ priority, engine.rules.filter (fun r => r.priority == priority) =
    unifiedRules.filter (fun r => r.priority == priority)

theorem checkedNeg_eq_none {p : Int32} : checkedNeg p = none ↔ p = Int32.minValue := by
  unfold checkedNeg
  split <;> simp [*]

theorem toInt_neg_of_ne {p : Int32} (h : p ≠ Int32.minValue) : (-p).toInt = -p.toInt := by
  have hlt : p.toInt < 2 ^ 31 := Int32.toInt_lt p
  have hge : Int32.minValue.toInt ≤ p.toInt := Int32.minValue_le_toInt p
  have hne : p.toInt ≠ Int32.minValue.toInt := fun heq => h (Int32.toInt_inj.mp heq)
  rw [Int32.toInt_minValue] at hge hne
  rw [Int32.toInt_neg]
  exact Int.bmod_eq_of_le (by omega) (by omega)

/-- Negation turns the order around, where it does not overflow. -/
theorem le_of_checkedNeg {p q k k' : Int32} (hp : checkedNeg p = some k)
    (hq : checkedNeg q = some k') (hle : k ≤ k') : q ≤ p := by
  -- a key that there is means that the priority is not the least
  have hp' : p ≠ Int32.minValue := fun heq => by simp [checkedNeg_eq_none.mpr heq] at hp
  have hq' : q ≠ Int32.minValue := fun heq => by simp [checkedNeg_eq_none.mpr heq] at hq
  rw [checkedNeg, if_neg hp', Option.some_inj] at hp
  rw [checkedNeg, if_neg hq', Option.some_inj] at hq
  rw [← hp, ← hq, Int32.le_iff_toInt_le, toInt_neg_of_ne hp', toInt_neg_of_ne hq'] at hle
  rw [Int32.le_iff_toInt_le]
  omega

theorem inPriorityOrder_of_sortedBy {unifiedRules rules : List (UnifiedRule F)}
    (h : SortedBy (fun r => checkedNeg r.priority) unifiedRules rules) :
    InPriorityOrder unifiedRules ⟨rules⟩ where
  perm := h.perm
  descending := by
    refine h.ascending.imp fun {a b} hkeys => ?_
    obtain ⟨k, k', hk, hk', hle⟩ := hkeys
    exact le_of_checkedNeg hk hk' hle
  ties priority := by
    refine h.stable _ fun a _ b _ ha hb => ?_
    rw [beq_iff_eq] at ha hb
    rw [ha, hb]

/-- The configuration has rules to compare and one of them has the least priority, whose
negation overflows. -/
def Overflows (unifiedRules : List (UnifiedRule F)) : Prop :=
  2 ≤ unifiedRules.length ∧ ∃ r ∈ unifiedRules, r.priority = Int32.minValue

theorem sort_returns {unifiedRules : List (UnifiedRule F)} (h : ¬Overflows unifiedRules) :
    Returns (sortByKey (fun r => checkedNeg r.priority) unifiedRules) fun rules =>
      InPriorityOrder unifiedRules ⟨rules⟩ := by
  have hkeys : ¬(2 ≤ unifiedRules.length ∧
      ∃ r ∈ unifiedRules, checkedNeg r.priority = none) := by
    simpa only [checkedNeg_eq_none, Overflows] using h
  exact (sortByKey_returns hkeys).mono fun rules => inPriorityOrder_of_sortedBy

theorem new_returns {unifiedRules : List (UnifiedRule F)} (h : ¬Overflows unifiedRules) :
    Returns (new unifiedRules) (InPriorityOrder unifiedRules) :=
  (sort_returns h).bind fun _ horder => returns_pure horder

theorem reload_returns {unifiedRules : List (UnifiedRule F)} (h : ¬Overflows unifiedRules) :
    Returns (engine.reload unifiedRules) (InPriorityOrder unifiedRules) :=
  (sort_returns h).bind fun _ horder => returns_pure horder

theorem new_eq_none {unifiedRules : List (UnifiedRule F)} (h : Overflows unifiedRules) :
    new unifiedRules = none := by
  obtain ⟨hlen, r, hr, hmin⟩ := h
  rw [new, sortByKey_eq_none hlen hr (checkedNeg_eq_none.mpr hmin)]
  rfl

/-! ## The trace -/

/-- The line starts with the mark. -/
def marked (mark line : String) : Bool := decide (mark.toList <+: line.toList)

variable {target appId title} {debug : RuleAction F → String}

theorem marked_ruleLine_match (rule : UnifiedRule F) :
    marked "[match]" (ruleLine "[match]" rule) = true ∧
      marked "  [apply]" (ruleLine "[match]" rule) = false := by
  unfold marked ruleLine
  rw [String.toList_append]
  simp

theorem marked_ruleLine_skip (rule : UnifiedRule F) :
    marked "[match]" (ruleLine "[skip]" rule) = false ∧
      marked "  [apply]" (ruleLine "[skip]" rule) = false := by
  unfold marked ruleLine
  rw [String.toList_append]
  simp

theorem marked_applyLine (action : RuleAction F) :
    marked "[match]" (applyLine debug action) = false ∧
      marked "  [apply]" (applyLine debug action) = true := by
  unfold marked applyLine
  rw [String.toList_append]
  simp

/-- The two copies of the matching predicate. -/
def isMatch (target : RuleTarget) (appId title : Option String) (rule : UnifiedRule F) : Bool :=
  rule.target == target &&
    ((rule.appIdFilter.map fun f => appId.any fun id => contains id f).getD true &&
      (rule.titleFilter.map fun f => title.any fun t => contains t f).getD true)

theorem findMatching_eq :
    engine.findMatching target appId title = engine.rules.filter (isMatch target appId title) :=
  rfl

theorem traceRule_of_isMatch {rule : UnifiedRule F} (h : isMatch target appId title rule = true) :
    traceRule target appId title debug rule =
      ruleLine "[match]" rule :: rule.actions.map (applyLine debug) := by
  rw [isMatch, Bool.and_eq_true, beq_iff_eq] at h
  obtain ⟨htarget, hfilters⟩ := h
  rw [traceRule, if_neg (by simpa using htarget)]
  dsimp only
  rw [if_pos hfilters, if_pos hfilters]

/-- Of a rule that does not match there is no line, or a skip. -/
theorem traceRule_of_not_isMatch {rule : UnifiedRule F}
    (h : isMatch target appId title rule = false) :
    traceRule target appId title debug rule = [] ∨
      traceRule target appId title debug rule = [ruleLine "[skip]" rule] := by
  unfold traceRule
  split
  · -- a rule for another target
    exact .inl rfl
  · rename_i htarget
    right
    have hfilters : ¬((rule.appIdFilter.map fun f => appId.any fun id => contains id f).getD true &&
        (rule.titleFilter.map fun f => title.any fun t => contains t f).getD true) = true := by
      rw [isMatch, Bool.and_eq_false_iff] at h
      rcases h with hne | hfilters
      · exact absurd (by simpa using htarget) (ne_of_beq_false hne)
      · simp [hfilters]
    dsimp only
    rw [if_neg hfilters, if_neg hfilters]

/-- A selection of lines without skips goes through the rules that match. -/
theorem filter_trace {p : String → Bool} {g : UnifiedRule F → List String}
    (hskip : ∀ rule : UnifiedRule F, p (ruleLine "[skip]" rule) = false)
    (hmatch : ∀ rule : UnifiedRule F,
      (ruleLine "[match]" rule :: rule.actions.map (applyLine debug)).filter p = g rule) :
    (engine.trace target appId title debug).filter p =
      (engine.findMatching target appId title).flatMap g := by
  -- the loop appends the lines of one rule after the other
  rw [trace, ← List.flatMap_eq_foldl, List.filter_flatMap, findMatching_eq]
  induction engine.rules with
  | nil => rfl
  | cons rule rules ih =>
    rw [List.flatMap_cons, ih]
    cases h : isMatch target appId title rule with
    | true =>
      rw [List.filter_cons_of_pos h, List.flatMap_cons, traceRule_of_isMatch h, hmatch]
    | false =>
      rw [List.filter_cons_of_neg (by simp [h])]
      have hlines : traceRule target appId title debug rule = [] ∨
          traceRule target appId title debug rule = [ruleLine "[skip]" rule] :=
        traceRule_of_not_isMatch h
      rcases hlines with heq | heq
      · rw [heq, List.filter_nil, List.nil_append]
      · rw [heq, List.filter_cons_of_neg (by simp [hskip]), List.filter_nil, List.nil_append]

theorem filter_applyLines {p : String → Bool} {keep : Bool} (actions : List (RuleAction F))
    (h : ∀ action : RuleAction F, p (applyLine debug action) = keep) :
    (actions.map (applyLine debug)).filter p =
      if keep then actions.map (applyLine debug) else [] := by
  cases keep with
  | true => simpa using fun action _ => h action
  | false => simpa using fun action _ => h action

/-- The marked lines of an engine's trace are about the rules that match and their actions,
in the order in which the rules match and the actions apply. -/
structure Traced (engine : RuleEngine F) (target : RuleTarget) (appId title : Option String)
    (debug : RuleAction F → String) : Prop where
  matched : (engine.trace target appId title debug).filter (marked "[match]") =
    (engine.findMatching target appId title).map (ruleLine "[match]")
  applied : (engine.trace target appId title debug).filter (marked "  [apply]") =
    (engine.apply target appId title).map (applyLine debug)
  /-- the actions of a rule follow it -/
  together : (engine.trace target appId title debug).filter
      (fun line => marked "[match]" line || marked "  [apply]" line) =
    (engine.findMatching target appId title).flatMap fun rule =>
      ruleLine "[match]" rule :: rule.actions.map (applyLine debug)

theorem traced (engine : RuleEngine F) (target : RuleTarget) (appId title : Option String)
    (debug : RuleAction F → String) : Traced engine target appId title debug where
  matched := by
    have hlines : ∀ rule : UnifiedRule F,
        (ruleLine "[match]" rule :: rule.actions.map (applyLine debug)).filter (marked "[match]") =
          [ruleLine "[match]" rule] := by
      intro rule
      rw [List.filter_cons_of_pos (marked_ruleLine_match rule).1,
        filter_applyLines rule.actions fun action => (marked_applyLine action).1]
      rfl
    rw [engine.filter_trace (fun rule => (marked_ruleLine_skip rule).1) hlines]
    exact List.map_eq_flatMap.symm
  applied := by
    have hlines : ∀ rule : UnifiedRule F,
        (ruleLine "[match]" rule :: rule.actions.map (applyLine debug)).filter
          (marked "  [apply]") = rule.actions.map (applyLine debug) := by
      intro rule
      rw [List.filter_cons_of_neg (by simp [(marked_ruleLine_match rule).2]),
        filter_applyLines rule.actions fun action => (marked_applyLine action).2]
      rfl
    rw [engine.filter_trace (fun rule => (marked_ruleLine_skip rule).2) hlines, apply,
      List.map_flatMap]
  together := by
    refine engine.filter_trace (fun rule => ?_) fun rule => ?_
    · rw [(marked_ruleLine_skip rule).1, (marked_ruleLine_skip rule).2, Bool.or_false]
    · rw [List.filter_cons_of_pos (by rw [(marked_ruleLine_match rule).1, Bool.true_or]),
        filter_applyLines rule.actions fun action => by
          rw [(marked_applyLine action).2, Bool.or_true]]
      rfl

/-- Rules apply in the order of their priorities. -/
structure AppliesInOrder (unifiedRules : List (UnifiedRule F)) (engine : RuleEngine F) :
    Prop where
  order : InPriorityOrder unifiedRules engine
  traced : ∀ target appId title debug, Traced engine target appId title debug

/-- Both ways to load a configuration put its rules in the order they apply in, unless a
priority overflows. -/
theorem appliesInOrder_iff (unifiedRules : List (UnifiedRule F)) :
    (Returns (new unifiedRules) (AppliesInOrder unifiedRules) ∧
      ∀ engine : RuleEngine F,
        Returns (engine.reload unifiedRules) (AppliesInOrder unifiedRules)) ↔
      ¬Overflows unifiedRules := by
  constructor
  · rintro ⟨⟨engine, hnew, -⟩, -⟩ hoverflows
    rw [new_eq_none hoverflows] at hnew
    exact absurd hnew (by simp)
  · intro h
    refine ⟨(new_returns h).mono fun engine horder => ⟨horder, traced engine⟩, ?_⟩
    exact fun old => (reload_returns old h).mono fun engine horder => ⟨horder, traced engine⟩

/-- Two rules for windows, one of the least priority. -/
def lastResort : List (UnifiedRuleDoc F) :=
  [⟨"first", none, none, [], none⟩, ⟨"last", some "window", some (-2147483648), [], none⟩]

/-- Loading them panics. -/
theorem lastResort_panics :
    new ((lastResort : List (UnifiedRuleDoc Unit)).map (UnifiedRuleDoc.intoRule id)) = none ∧
      ¬Returns (new ((lastResort : List (UnifiedRuleDoc Unit)).map (UnifiedRuleDoc.intoRule id)))
        (AppliesInOrder ((lastResort : List (UnifiedRuleDoc Unit)).map
          (UnifiedRuleDoc.intoRule id))) := by
  have hnone : new ((lastResort : List (UnifiedRuleDoc Unit)).map
      (UnifiedRuleDoc.intoRule id)) = none :=
    new_eq_none ⟨by decide, _, List.mem_cons_of_mem _ List.mem_cons_self, rfl⟩
  refine ⟨hnone, ?_⟩
  rintro ⟨engine, hnew, -⟩
  rw [hnone] at hnew
  exact absurd hnew (by simp)

end RuleEngine

end Cidre.Liquid
