/-
  Cidre.Disk.Gate

  The safety gates in front of a disk mutation, as the scripts compute them:

    jackrose-app-installer-killswitch --status   killswitchStatus
    jackrose-app-mutation-test-mode --status     mutationTestModeStatus
    jackrose-app-gate-evaluate                   gateEvaluate
    jackrose-app-helper-gate                     helperGate

  A script is a function of the files and sub-gate outputs it reads.  `none`
  is a script that ends in a traceback and prints no document.
-/

import Cidre.Lib.Json
import Cidre.Lib.Partial

namespace Cidre.Disk

open Partial

/-! ## State files -/

/-- A JSON state file: absent, present but not a JSON document, or parsed. -/
inductive StateFile where
  | missing
  | malformed
  | document (data : Json)

/-- `default_state` of the killswitch. -/
def killswitchDefault : List (String × Json) :=
  [("schema_version", .num 1 "1"),
   ("incident", .str "DFU_RESTORE_001"),
   ("installer_status", .str "disabled"),
   ("destructive_install_allowed", .bool false),
   ("reason", .str "DFU_RESTORE_001 containment active"),
   ("updated_at", .null),
   ("updated_by", .null)]

/-- `default_state` of the mutation test mode. -/
def mutationTestModeDefault : List (String × Json) :=
  [("schema_version", .num 1 "1"),
   ("command", .str "jackrose-app-mutation-test-mode"),
   ("mode", .str "disabled"),
   ("enabled", .bool false),
   ("required_phrase", .str "I understand this can destroy the selected disposable target."),
   ("updated_at", .null)]

/-- `load_state` of both scripts: the file over the defaults, with `flag`
    recomputed as `merged.get(key) == on`. -/
def loadState (default : List (String × Json)) (flag key on : String) :
    StateFile → Option (List (String × Json))
  | .missing | .malformed => some default
  | .document data => do
      let new ← data.entries
      let merged := Json.update default new
      some (Json.set merged flag (.bool ((Json.field merged key).isStr on)))

def killswitchLoadState : StateFile → Option (List (String × Json)) :=
  loadState killswitchDefault "destructive_install_allowed" "installer_status" "enabled-for-test"

def mutationTestModeLoadState : StateFile → Option (List (String × Json)) :=
  loadState mutationTestModeDefault "enabled" "mode" "enabled"

/-- The fixed part of the killswitch payload. -/
def killswitchPayload (allowed : Bool) : List (String × Json) :=
  [("schema_version", .num 1 "1"),
   ("command", .str "jackrose-app-installer-killswitch"),
   ("status", .str "pass"),
   ("summary", .str (if allowed then "Disk-changing install test override is enabled."
      else "Disk-changing install flows are disabled by default.")),
   ("phase", .str "safety"),
   ("stage", .str "installer-killswitch"),
   ("exit_code", .num 0 "0"),
   ("warnings", .arr (if allowed then []
      else [.str "Disk-changing install remains blocked until safety gates are fully verified."])),
   ("errors", .arr []),
   ("mutation_test_mode_required", .bool true)]

/-- `jackrose-app-installer-killswitch --status --json`: the loaded state over
    the fixed part of the payload. -/
def killswitchStatus (file : StateFile) : Option Json := do
  let state ← killswitchLoadState file
  let allowed := (Json.field state "destructive_install_allowed").truthy
  some (.obj (Json.update (killswitchPayload allowed) state))

/-- `jackrose-app-mutation-test-mode --status --json`: the fixed part of the
    payload over the loaded state. -/
def mutationTestModeStatus (file : StateFile) : Option Json := do
  let state ← mutationTestModeLoadState file
  let enabled := (Json.field state "enabled").truthy
  some (.obj (Json.update state
    [("schema_version", .num 1 "1"),
     ("command", .str "jackrose-app-mutation-test-mode"),
     ("status", .str "passed"),
     ("summary", .str (if enabled then "Controlled mutation test mode is enabled."
        else "Controlled mutation test mode is disabled.")),
     ("enabled", .bool enabled),
     ("warnings", .arr (if enabled then []
        else [.str "Disk mutation remains blocked until both test mode and installer test override are enabled."])),
     ("errors", .arr []),
     ("exit_code", .num 0 "0")]))

/-! ## jackrose-app-gate-evaluate -/

inductive Scope where
  | helper
  | shutdown
  | finish
  | liveDrill
  | controlledInstall
  /-- `install`, `wizard` and every name the script does not know. -/
  | other (name : String)
deriving DecidableEq, Repr

inductive GateStatus where
  | passed
  | failed
  | blocked
deriving DecidableEq, Repr

/-- The sub-gate outputs after `parse`. -/
structure GateInputs where
  killswitch : Json
  mutationMode : Json
  boot : Json
  shutdown : Json
  rollback : Json
  recovery : Json
  disposable : Json
  installTarget : Json
  guard : Json

/-- `parse(raw)`: an output that is blank or no JSON counts as `{}`. -/
def parse (raw : Option Json) : Json := raw.getD (.obj [])

structure Check where
  id : String
  status : Json
  reason : Json

/-- The globals `status` and `checks` of the script. -/
structure GateRun where
  status : GateStatus
  checks : List Check

/-- `add_check`: the first check that does not pass decides the status. -/
def GateRun.addCheck (g : GateRun) (id : String) (valueStatus reason : Json) : Option GateRun :=
  if valueStatus.hashable then
    let bad := ["failed", "blocked", "unknown", "warn"].any fun s => valueStatus.isStr s
    some
      { status :=
          if bad && g.status = .passed then
            if valueStatus.isStr "failed" then .failed else .blocked
          else g.status
        checks := g.checks ++ [⟨id, valueStatus, reason⟩] }
  else none

/-- `v.get("status") == "passed"`. -/
def statusPassed (v : Json) : Option Bool := (v.get "status").map (·.isStr "passed")

namespace GateInputs

variable (i : GateInputs)

/-- `killswitch.get("destructive_install_allowed")`, as a condition. -/
def destructiveAllowed : Option Bool :=
  (i.killswitch.get "destructive_install_allowed").map Json.truthy

/-- `mutation_mode.get("enabled")`, as a condition. -/
def mutationEnabled : Option Bool := (i.mutationMode.get "enabled").map Json.truthy

/-- The disposable check or the install-target check passed. -/
def targetAllowed : Option Bool := orM (statusPassed i.disposable) (statusPassed i.installTarget)

def targetSummary : Option Json := do
  if ← statusPassed i.disposable then i.disposable.get "summary"
  else if ← statusPassed i.installTarget then i.installTarget.get "summary"
  else
    let s ← i.installTarget.get "summary"
    if s.truthy then some s else i.disposable.get "summary"

/-- A check that copies `status` and `summary` of a sub-gate. -/
def copyCheck (g : GateRun) (id : String) (v : Json) : Option GateRun := do
  g.addCheck id (← v.getD "status" (.str "unknown")) (← v.get "summary")

def killswitchCheck (scope : Scope) (g : GateRun) : Option GateRun := do
  if ← orM (some (decide (scope = .controlledInstall))) i.destructiveAllowed then
    g.addCheck "installer-killswitch" (.str "passed") .null
  else
    g.addCheck "installer-killswitch" (.str "blocked")
      (← i.killswitch.getD "reason" (.str "installer killswitch active"))

def mutationModeCheck (scope : Scope) (g : GateRun) : Option GateRun := do
  if ← orM (some (decide (scope = .controlledInstall))) i.mutationEnabled then
    g.addCheck "mutation-test-mode" (.str "passed") .null
  else
    g.addCheck "mutation-test-mode" (.str "blocked")
      (← i.mutationMode.getD "summary" (.str "controlled mutation test mode disabled"))

def targetCheck (target : String) (g : GateRun) : Option GateRun := do
  if target = "" then some g
  else
    g.addCheck "target-review" (.str (if ← i.targetAllowed then "passed" else "failed"))
      (← i.targetSummary)

def guardCheck (g : GateRun) : Option GateRun :=
  if i.guard.truthy then copyCheck g "protected-partition-guard" i.guard
  else g.addCheck "protected-partition-guard" (.str "unknown")
    (.str "protected partition state missing")

/-- The checks, in the order the script adds them. -/
def checks (scope : Scope) (target : String) : Option GateRun := do
  let g ← i.killswitchCheck scope ⟨.passed, []⟩
  let g ← i.mutationModeCheck scope g
  let g ← copyCheck g "boot-safety-gate" i.boot
  let g ← copyCheck g "before-shutdown-gate" i.shutdown
  let g ← copyCheck g "rollback-report" i.rollback
  let g ← copyCheck g "recovery-survival" i.recovery
  let g ← i.targetCheck target g
  i.guardCheck g

/-- `not target or disposable … or install_target …`. -/
def targetReady (target : String) : Option Bool :=
  orM (some (decide (target = ""))) i.targetAllowed

/-- The condition under which `helper` allows a mutation test. -/
def helperReady (target : String) : Option Bool :=
  andM i.destructiveAllowed <| andM i.mutationEnabled <|
    andM (statusPassed i.recovery) (i.targetReady target)

def liveDrillReady (level : Option Int) : Option Bool :=
  andM i.destructiveAllowed <| andM i.mutationEnabled <| andM (statusPassed i.recovery) <|
    orM (some (decide (level ≠ some 2 ∧ level ≠ some 3))) (statusPassed i.disposable)

/-- `guard.get("status") in {"passed", None} or not guard`. -/
def guardReady : Option Bool := do
  let s ← i.guard.get "status"
  if s.hashable then
    orM (some (s.isStr "passed" || (match s with | .null => true | _ => false)))
      (some (!i.guard.truthy))
  else none

def controlledInstallReady (target : String) : Option Bool :=
  andM (statusPassed i.recovery) <| andM i.guardReady (i.targetReady target)

/-- Boot safety and rollback report passed (`shutdown`, `finish`, `wizard`). -/
def finishReady : Option Bool := andM (statusPassed i.boot) (statusPassed i.rollback)

def installReady : Option Bool :=
  andM i.destructiveAllowed <| andM i.mutationEnabled <|
    andM (statusPassed i.recovery) (statusPassed i.guard)

end GateInputs

/-- The payload of the gate. -/
structure GatePayload where
  status : GateStatus
  checks : List Check
  allowedActions : List String
  blockedActions : List String

/-- The three results of a scope: a status that overrides that of the checks,
    the allowed and the blocked actions (sorted). -/
def scopeActions (scope : Scope) (target : String) (level : Option Int) (i : GateInputs) :
    Option (Option GateStatus × List String × List String) := do
  match scope with
  | .helper =>
      some (none, if ← i.helperReady target then ["disk-mutation-test", "dry-run-helper"] else [],
        ["disk-mutation"])
  | .shutdown =>
      if ← i.finishReady then some (some .passed, ["finish", "restart", "shutdown"], [])
      else some (none, [], ["finish", "restart", "shutdown"])
  | .finish =>
      if ← i.finishReady then some (some .passed, ["finish"], [])
      else some (none, [], ["finish", "restart", "shutdown"])
  | .liveDrill =>
      if ← i.liveDrillReady level then some (some .passed, ["live-drill-execution"], [])
      else some (none, [], ["live-drill-execution"])
  | .controlledInstall =>
      if ← i.controlledInstallReady target then
        some (some .passed, ["controlled-install-execution"], [])
      else some (none, [], ["controlled-install-execution"])
  | .other _ =>
      let install ← i.installReady
      let finish ← i.finishReady
      some (none, (if finish then ["finish"] else []) ++
          (if install then ["install-execution-test"] else []),
        ["disk-mutation", "finish", "restart", "shutdown"])

/-- `jackrose-app-gate-evaluate`, with `level` already read as a number. -/
def gateEvaluate (scope : Scope) (target : String) (level : Option Int) (i : GateInputs) :
    Option GatePayload := do
  let g ← i.checks scope target
  let r ← scopeActions scope target level i
  let status := r.1.getD g.status
  some
    { status := status
      checks := g.checks
      allowedActions := r.2.1
      blockedActions := if status = .passed then [] else r.2.2 }

/-- `exit_code` of the gate. -/
def GatePayload.exitCode (p : GatePayload) : Nat := if p.status = .passed then 0 else 8

/-! ## jackrose-app-helper-gate -/

/-- The operation names the helper gate tells apart. -/
def helperGateScope (operation : String) : Scope :=
  if operation = "controlled-install" then .controlledInstall
  else if operation = "live-drill" then .liveDrill
  else .helper

/-- The action that must be among the allowed ones. -/
def helperGateAction (operation : String) : String :=
  if operation = "live-drill" then "live-drill-execution"
  else if operation = "controlled-install" then "controlled-install-execution"
  else "disk-mutation-test"

structure HelperGatePayload where
  /-- `"passed"`, or `"blocked"` otherwise. -/
  passed : Bool
  summary : String
  checks : List Check

/-- `jackrose-app-helper-gate`.  Under `set -e` the script ends before printing
    anything when the gate it runs fails or exits with 8. -/
def helperGate (operation target : String) (level : Option Int) (i : GateInputs) :
    Option HelperGatePayload := do
  let gate ← gateEvaluate (helperGateScope operation) target level i
  if gate.exitCode ≠ 0 then none
  else
    let allowed := gate.status = .passed ∧ helperGateAction operation ∈ gate.allowedActions
    some
      { passed := allowed
        summary :=
          if operation = "live-drill" ∧ allowed then
            "Helper live drill is allowed for the signed disposable-target test plan."
          else if allowed then
            "Helper mutation is allowed for the signed disposable-target test plan."
          else "Helper mutation is blocked by boot safety and mutation test enforcement."
        checks := gate.checks }

/-! ## What the gates read -/

/-- The killswitch always reports a boolean, and reports `true` only for a state
    file that says `enabled-for-test`. -/
theorem killswitchStatus_reports {file : StateFile} {v : Json}
    (h : killswitchStatus file = some v) :
    ∃ b, v.getD "destructive_install_allowed" (.bool false) = some (.bool b) ∧
      v.get "destructive_install_allowed" = some (.bool b) ∧
      (b = true → ∃ data new, file = .document data ∧ data.entries = some new ∧
        Json.field (Json.update killswitchDefault new) "installer_status" =
          .str "enabled-for-test") := by
  cases file with
  | missing | malformed =>
    obtain rfl := Option.some.inj h
    exact ⟨false, rfl, rfl, by simp⟩
  | document data =>
    obtain ⟨state, hstate, hv⟩ := Option.bind_eq_some_iff.mp h
    obtain ⟨new, hnew, hset⟩ := Option.bind_eq_some_iff.mp hstate
    obtain rfl := Option.some.inj hset
    obtain rfl := Option.some.inj hv
    have hfield := fun d => Json.field_update_set d (Json.update killswitchDefault new)
      "destructive_install_allowed"
      (.bool ((Json.field (Json.update killswitchDefault new) "installer_status").isStr
        "enabled-for-test"))
    refine ⟨_, Json.getD_of_field (hfield _) (by simp) _, congrArg some (hfield _), fun hb => ?_⟩
    exact ⟨data, new, rfl, hnew, Json.isStr_iff.mp hb⟩

/-! ## What an allowed action has passed -/

/-- A sub-gate printed a document with this status. -/
def Reports (v : Json) (s : String) : Prop := v.get "status" = some (.str s)

theorem statusPassed_iff {v : Json} : statusPassed v = some true ↔ Reports v "passed" := by
  rw [statusPassed, Reports, Option.map_eq_some_iff]
  constructor
  · rintro ⟨s, hs, hstr⟩
    rw [hs, Json.isStr_iff.mp hstr]
  · intro hs
    exact ⟨_, hs, Json.isStr_iff.mpr rfl⟩

/-- A missing output, or one that is no JSON, reports nothing. -/
theorem not_reports_parse_none (s : String) : ¬Reports (parse none) s := by
  intro h
  cases Option.some.inj h

/-- A value counts as true in a condition. -/
def Enabled (v : Json) (key : String) : Prop := ∃ w, v.get key = some w ∧ w.truthy = true

/-- A target was not given, or one of its two checks passed. -/
def TargetReady (i : GateInputs) (target : String) : Prop :=
  target = "" ∨ Reports i.disposable "passed" ∨ Reports i.installTarget "passed"

/-- Both switches that a mutation test needs are on, and recovery survives. -/
structure MutationReady (i : GateInputs) : Prop where
  killswitch : Enabled i.killswitch "destructive_install_allowed"
  mutationMode : Enabled i.mutationMode "enabled"
  recovery : Reports i.recovery "passed"

/-- What a scope demands before it allows an action. -/
def Demands (i : GateInputs) (target : String) (level : Option Int) (action : String) :
    Scope → Prop
  | .helper => MutationReady i ∧ TargetReady i target
  | .shutdown | .finish => Reports i.boot "passed" ∧ Reports i.rollback "passed"
  | .liveDrill =>
      MutationReady i ∧ (level = some 2 ∨ level = some 3 → Reports i.disposable "passed")
  | .controlledInstall =>
      Reports i.recovery "passed" ∧
        (Reports i.guard "passed" ∨ i.guard.get "status" = some .null ∨ i.guard.truthy = false) ∧
        TargetReady i target
  | .other _ =>
      if action = "finish" then Reports i.boot "passed" ∧ Reports i.rollback "passed"
      else MutationReady i ∧ Reports i.guard "passed"

/-- The scopes whose own condition overrides the status of the checks. -/
def Scope.overrides : Scope → Bool
  | .shutdown | .finish | .liveDrill | .controlledInstall => true
  | .helper | .other _ => false

namespace GateInputs

variable {i : GateInputs} {target : String} {level : Option Int}

theorem mutationReady_of {x : Option Bool} (h : andM i.destructiveAllowed (andM i.mutationEnabled
    (andM (statusPassed i.recovery) x)) = some true) : MutationReady i ∧ x = some true := by
  rw [andM_eq_true, andM_eq_true, andM_eq_true] at h
  obtain ⟨hkill, hmode, hrecovery, hx⟩ := h
  refine ⟨⟨?_, ?_, statusPassed_iff.mp hrecovery⟩, hx⟩
  · exact Option.map_eq_some_iff.mp hkill
  · exact Option.map_eq_some_iff.mp hmode

theorem targetReady_of (h : i.targetReady target = some true) : TargetReady i target := by
  rw [targetReady, orM_eq_true] at h
  rcases h with h | ⟨-, h⟩
  · exact Or.inl (by simpa using h)
  · rw [targetAllowed, orM_eq_true, statusPassed_iff] at h
    rcases h with h | ⟨-, h⟩
    · exact Or.inr (Or.inl h)
    · exact Or.inr (Or.inr (statusPassed_iff.mp h))

theorem liveDrillReady_of (h : i.liveDrillReady level = some true) :
    MutationReady i ∧ (level = some 2 ∨ level = some 3 → Reports i.disposable "passed") := by
  obtain ⟨hready, hlevel⟩ := mutationReady_of h
  refine ⟨hready, fun hdrill => ?_⟩
  rw [orM_eq_true, statusPassed_iff] at hlevel
  rcases hlevel with hfree | ⟨-, hpassed⟩
  · have hne : level ≠ some 2 ∧ level ≠ some 3 := by simpa using hfree
    rcases hdrill with hdrill | hdrill
    · exact absurd hdrill hne.1
    · exact absurd hdrill hne.2
  · exact hpassed

theorem guardReady_of (h : i.guardReady = some true) :
    Reports i.guard "passed" ∨ i.guard.get "status" = some .null ∨ i.guard.truthy = false := by
  obtain ⟨s, hs, hrest⟩ := Option.bind_eq_some_iff.mp h
  split at hrest
  · rw [orM_eq_true] at hrest
    rcases hrest with hstatus | ⟨-, hempty⟩
    · rw [Option.some.injEq, Bool.or_eq_true] at hstatus
      rcases hstatus with hstr | hnull
      · rw [Json.isStr_iff.mp hstr] at hs
        exact Or.inl hs
      · cases s with
        | null => exact Or.inr (Or.inl hs)
        | _ => cases hnull
    · exact Or.inr (Or.inr (by simpa using hempty))
  · cases hrest

theorem controlledInstallReady_of (h : i.controlledInstallReady target = some true) :
    Reports i.recovery "passed" ∧
      (Reports i.guard "passed" ∨ i.guard.get "status" = some .null ∨ i.guard.truthy = false) ∧
      TargetReady i target := by
  rw [controlledInstallReady, andM_eq_true, andM_eq_true, statusPassed_iff] at h
  exact ⟨h.1, guardReady_of h.2.1, targetReady_of h.2.2⟩

theorem finishReady_of (h : i.finishReady = some true) :
    Reports i.boot "passed" ∧ Reports i.rollback "passed" := by
  rwa [finishReady, andM_eq_true, statusPassed_iff, statusPassed_iff] at h

end GateInputs

/-- An action is allowed by the condition of its scope only. -/
theorem scopeActions_demands {scope : Scope} {target : String} {level : Option Int}
    {i : GateInputs} {r : Option GateStatus × List String × List String}
    (h : scopeActions scope target level i = some r) {action : String} (haction : action ∈ r.2.1) :
    Demands i target level action scope := by
  cases scope with
  | helper =>
    obtain ⟨ready, hready, hr⟩ := Option.bind_eq_some_iff.mp h
    obtain rfl := Option.some.inj hr
    cases ready with
    | false => cases haction
    | true =>
      obtain ⟨hmutation, htarget⟩ := GateInputs.mutationReady_of hready
      exact ⟨hmutation, GateInputs.targetReady_of htarget⟩
  | shutdown | finish =>
    obtain ⟨ready, hready, hr⟩ := Option.bind_eq_some_iff.mp h
    cases ready with
    | false => obtain rfl := Option.some.inj hr; cases haction
    | true => exact GateInputs.finishReady_of hready
  | liveDrill =>
    obtain ⟨ready, hready, hr⟩ := Option.bind_eq_some_iff.mp h
    cases ready with
    | false => obtain rfl := Option.some.inj hr; cases haction
    | true => exact GateInputs.liveDrillReady_of hready
  | controlledInstall =>
    obtain ⟨ready, hready, hr⟩ := Option.bind_eq_some_iff.mp h
    cases ready with
    | false => obtain rfl := Option.some.inj hr; cases haction
    | true => exact GateInputs.controlledInstallReady_of hready
  | other name =>
    obtain ⟨install, hinstall, hrest⟩ := Option.bind_eq_some_iff.mp h
    obtain ⟨finish, hfinish, hr⟩ := Option.bind_eq_some_iff.mp hrest
    obtain rfl := Option.some.inj hr
    show if action = "finish" then _ else _
    rcases List.mem_append.mp haction with hmem | hmem
    · cases finish with
      | false => cases hmem
      | true =>
        rw [if_pos (List.mem_singleton.mp hmem)]
        exact GateInputs.finishReady_of hfinish
    · cases install with
      | false => cases hmem
      | true =>
        obtain rfl := List.mem_singleton.mp hmem
        rw [if_neg (by decide)]
        obtain ⟨hmutation, hguard⟩ := GateInputs.mutationReady_of hinstall
        exact ⟨hmutation, statusPassed_iff.mp hguard⟩

/-- A scope that does not override leaves the status of the checks. -/
theorem scopeActions_status {scope : Scope} {target : String} {level : Option Int}
    {i : GateInputs} {r : Option GateStatus × List String × List String}
    (h : scopeActions scope target level i = some r) (hscope : scope.overrides = false) :
    r.1 = none := by
  cases scope with
  | helper =>
    obtain ⟨_, _, hr⟩ := Option.bind_eq_some_iff.mp h
    obtain rfl := Option.some.inj hr
    rfl
  | other name =>
    obtain ⟨_, _, hrest⟩ := Option.bind_eq_some_iff.mp h
    obtain ⟨_, _, hr⟩ := Option.bind_eq_some_iff.mp hrest
    obtain rfl := Option.some.inj hr
    rfl
  | shutdown | finish | liveDrill | controlledInstall => cases hscope

/-! ## The status of the checks -/

/-- The statuses `add_check` knows as bad ones. -/
def badStatuses : List String := ["failed", "blocked", "unknown", "warn"]

/-- While the status is `passed`, no check has a bad one. -/
def GateRun.Clean (g : GateRun) : Prop :=
  g.status = .passed → ∀ c ∈ g.checks, ∀ s ∈ badStatuses, c.status ≠ .str s

theorem GateRun.Clean.addCheck {g g' : GateRun} (h : g.Clean) {id : String}
    {valueStatus reason : Json} (hadd : g.addCheck id valueStatus reason = some g') : g'.Clean := by
  unfold GateRun.addCheck at hadd
  split at hadd
  · obtain rfl := Option.some.inj hadd
    intro hpassed
    dsimp only at hpassed ⊢
    generalize hbad : (["failed", "blocked", "unknown", "warn"].any
      fun s => valueStatus.isStr s) = bad at hpassed
    have hkept : g.status = .passed ∧ bad = false := by
      cases bad with
      | false => exact ⟨hpassed, rfl⟩
      | true =>
        by_cases hg : g.status = .passed
        · rw [if_pos (by simpa using hg)] at hpassed
          split at hpassed <;> cases hpassed
        · rw [if_neg (by simpa using hg)] at hpassed
          exact absurd hpassed hg
    intro c hc s hs hstatus
    rcases List.mem_append.mp hc with hc | hc
    · exact h hkept.1 c hc s hs hstatus
    · obtain rfl := List.mem_singleton.mp hc
      have hany : (["failed", "blocked", "unknown", "warn"].any
          fun s => valueStatus.isStr s) = true :=
        List.any_eq_true.mpr ⟨s, hs, Json.isStr_iff.mpr hstatus⟩
      rw [hbad, hkept.2] at hany
      cases hany
  · cases hadd

namespace GateInputs

variable {i : GateInputs} {g g' : GateRun}

theorem copyCheck_clean (h : g.Clean) {id : String} {v : Json}
    (hadd : copyCheck g id v = some g') : g'.Clean := by
  obtain ⟨status, -, hrest⟩ := Option.bind_eq_some_iff.mp hadd
  obtain ⟨summary, -, hadd⟩ := Option.bind_eq_some_iff.mp hrest
  exact h.addCheck hadd

theorem killswitchCheck_clean (h : g.Clean) {scope : Scope}
    (hadd : i.killswitchCheck scope g = some g') : g'.Clean := by
  obtain ⟨allowed, -, hrest⟩ := Option.bind_eq_some_iff.mp hadd
  split at hrest
  · exact h.addCheck hrest
  · obtain ⟨reason, -, hadd⟩ := Option.bind_eq_some_iff.mp hrest
    exact h.addCheck hadd

theorem mutationModeCheck_clean (h : g.Clean) {scope : Scope}
    (hadd : i.mutationModeCheck scope g = some g') : g'.Clean := by
  obtain ⟨allowed, -, hrest⟩ := Option.bind_eq_some_iff.mp hadd
  split at hrest
  · exact h.addCheck hrest
  · obtain ⟨reason, -, hadd⟩ := Option.bind_eq_some_iff.mp hrest
    exact h.addCheck hadd

theorem targetCheck_clean (h : g.Clean) {target : String}
    (hadd : i.targetCheck target g = some g') : g'.Clean := by
  unfold targetCheck at hadd
  split at hadd
  · obtain rfl := Option.some.inj hadd
    exact h
  · obtain ⟨allowed, -, hrest⟩ := Option.bind_eq_some_iff.mp hadd
    obtain ⟨summary, -, hadd⟩ := Option.bind_eq_some_iff.mp hrest
    exact h.addCheck hadd

theorem guardCheck_clean (h : g.Clean) (hadd : i.guardCheck g = some g') : g'.Clean := by
  unfold guardCheck at hadd
  split at hadd
  · exact copyCheck_clean h hadd
  · exact h.addCheck hadd

theorem checks_clean {scope : Scope} {target : String} (h : i.checks scope target = some g) :
    g.Clean := by
  have hempty : GateRun.Clean ⟨.passed, []⟩ := fun _ c hc => nomatch hc
  obtain ⟨g₁, h₁, h⟩ := Option.bind_eq_some_iff.mp h
  obtain ⟨g₂, h₂, h⟩ := Option.bind_eq_some_iff.mp h
  obtain ⟨g₃, h₃, h⟩ := Option.bind_eq_some_iff.mp h
  obtain ⟨g₄, h₄, h⟩ := Option.bind_eq_some_iff.mp h
  obtain ⟨g₅, h₅, h⟩ := Option.bind_eq_some_iff.mp h
  obtain ⟨g₆, h₆, h⟩ := Option.bind_eq_some_iff.mp h
  obtain ⟨g₇, h₇, h⟩ := Option.bind_eq_some_iff.mp h
  have hswitches := mutationModeCheck_clean (killswitchCheck_clean hempty h₁) h₂
  have hcopied := copyCheck_clean (copyCheck_clean (copyCheck_clean (copyCheck_clean hswitches
    h₃) h₄) h₅) h₆
  exact guardCheck_clean (targetCheck_clean hcopied h₇) h

end GateInputs

/-- A gate that passes and allows an action has found what the scope demands for
    it; where the scope does not override the status, no check had a bad one. -/
theorem gateEvaluate_fail_closed {scope : Scope} {target : String} {level : Option Int}
    {i : GateInputs} {p : GatePayload} (h : gateEvaluate scope target level i = some p)
    (hpassed : p.status = .passed) {action : String} (haction : action ∈ p.allowedActions) :
    Demands i target level action scope ∧
      (scope.overrides = false → ∀ c ∈ p.checks, ∀ s ∈ badStatuses, c.status ≠ .str s) := by
  obtain ⟨g, hg, hrest⟩ := Option.bind_eq_some_iff.mp h
  obtain ⟨r, hr, hp⟩ := Option.bind_eq_some_iff.mp hrest
  obtain rfl := Option.some.inj hp
  refine ⟨scopeActions_demands hr haction, fun hscope => ?_⟩
  dsimp only at hpassed
  rw [scopeActions_status hr hscope] at hpassed
  exact GateInputs.checks_clean hg hpassed

/-- The outputs for a live drill: both switches are on, recovery survives, and
    nothing else has been run. -/
def drillInputs : GateInputs where
  killswitch := .obj [("destructive_install_allowed", .bool true)]
  mutationMode := .obj [("enabled", .bool true)]
  boot := parse none
  shutdown := parse none
  rollback := parse none
  recovery := .obj [("status", .str "passed")]
  disposable := parse none
  installTarget := parse none
  guard := parse none

theorem gateEvaluate_drill : ∃ p, gateEvaluate .liveDrill "" (some 0) drillInputs = some p ∧
    p.status = .passed ∧ p.allowedActions = ["live-drill-execution"] ∧
    ⟨"boot-safety-gate", .str "unknown", .null⟩ ∈ p.checks := by
  refine ⟨_, rfl, rfl, rfl, ?_⟩
  exact List.mem_cons_of_mem _ (List.mem_cons_of_mem _ List.mem_cons_self)

theorem gateEvaluate_fail_closed_drill :
    Demands drillInputs "" (some 0) "live-drill-execution" .liveDrill := by
  obtain ⟨p, hp, hpassed, hactions, -⟩ := gateEvaluate_drill
  have haction : "live-drill-execution" ∈ p.allowedActions := by
    rw [hactions]
    exact List.mem_singleton_self _
  exact (gateEvaluate_fail_closed hp hpassed haction).1

/-- The drill is allowed while no boot safety gate has run. -/
theorem gateEvaluate_drill_unknown_check :
    ¬∀ scope target level i p, gateEvaluate scope target level i = some p → p.status = .passed →
      p.allowedActions ≠ [] → ∀ c ∈ p.checks, c.status = .str "passed" := by
  intro hclaim
  obtain ⟨p, hp, hpassed, hactions, hcheck⟩ := gateEvaluate_drill
  have hne : p.allowedActions ≠ [] := by
    rw [hactions]
    exact List.cons_ne_nil _ _
  have hstatus := hclaim _ _ _ _ p hp hpassed hne _ hcheck
  exact absurd (Json.str.inj hstatus) (by decide)

end Cidre.Disk
