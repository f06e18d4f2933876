/-
  Cidre.Disk.MutationExecute

  `jackrose-app-mutation-execute-test`, from the collected outputs to its exit
  code, when it is not a dry run.

  The status of a run that no check stopped is copied from the document of the
  privileged helper, which says `pass` where the scripts say `passed`.  Exit code
  0 is that of `passed`: a run the helper completed never gets it, and a run
  whose helper printed nothing does (`exitCode_truthful_iff`).
-/

import Cidre.Disk.Snapshot

namespace Cidre.Disk

open Partial

/-! ## The script -/

/-- The documents the script judges: the outputs of the other scripts after
    `parse`, and the files of the plan. -/
structure ExecuteInputs where
  mutationMode : Json
  killswitch : Json
  planVerify : Json
  disposable : Json
  helperGate : Json
  recovery : Json
  before : Json
  after : Json
  helper : Json
  verify : Json
  plan : Json
  signature : Json
  confirmation : Json

/-- `v is True`. -/
def isTrue : Json → Bool
  | .bool b => b
  | _ => false

/-- `v.get("summary") or default`. -/
def summaryOrDefault (v : Json) (default : String) : Option Json := do
  let summary ← v.get "summary"
  some (if summary.truthy then summary else .str default)

/-- A check that a switch is on. -/
def switchCheck (id key : String) (v : Json) (default : String) : Option SafetyCheck := do
  some (safetyCheck id (isTrue (← v.get key)) (← summaryOrDefault v default))

/-- A check that a document says `passed`. -/
def reportedCheck (id : String) (v : Json) (default : String) : Option SafetyCheck := do
  some (safetyCheck id (← statusPassed v) (← summaryOrDefault v default))

/-- The checks, in the order the script adds them. -/
def executeChecks (i : ExecuteInputs) : Option (List SafetyCheck) := do
  let mode ← switchCheck "mutation-test-mode-enabled" "enabled" i.mutationMode
    "Mutation test mode is disabled."
  let killswitch ← switchCheck "installer-killswitch-enabled" "destructive_install_allowed"
    i.killswitch "Installer test override is disabled."
  let target ← reportedCheck "disposable-target-check" i.disposable
    "Disposable target check failed."
  let plan ← reportedCheck "plan-hash-verified" i.planVerify "Plan hash verification failed."
  let token ← reportedCheck "confirmation-token-valid" i.confirmation
    "Confirmation token is missing or invalid."
  let gate ← reportedCheck "helper-gate" i.helperGate "Helper gate blocked mutation."
  let snapshot ← i.before.get "snapshot_file"
  let recovery ← reportedCheck "recovery-survival" i.recovery "Recovery survival check failed."
  some [mode, killswitch, target, plan, token, gate,
    safetyCheck "pre-snapshot" snapshot.truthy (.str "Before snapshot was not captured."), recovery]

/-- The payload of the script. -/
structure ExecuteReport where
  status : Json
  summary : String
  checks : List SafetyCheck
  errors : List SafetyCheck
  beforeSnapshot : Json
  afterSnapshot : Json
  helperResult : Json
  verification : Json
  plan : Json
  signature : Json
  confirmation : Json

/-- `verify and verify.get("status") != "passed"`. -/
def verificationFailed (verify : Json) : Option Bool :=
  if verify.truthy then (statusPassed verify).map (!·) else some false

/-- `status` before the verification is looked at. -/
def executeStatus (i : ExecuteInputs) (errors : List SafetyCheck) : Option Json :=
  if errors = [] then i.helper.getD "status" (.str "passed") else some (.str "blocked")

/-- The condition under which the status becomes `failed`. -/
def executeFailed (i : ExecuteInputs) (errors : List SafetyCheck) : Option Bool :=
  if errors = [] then verificationFailed i.verify else some false

/-- The end of the script; `none` when it ends in a traceback. -/
def mutationExecuteTest (i : ExecuteInputs) : Option ExecuteReport := do
  let checks ← executeChecks i
  let errors := checks.filter fun c => !c.passed
  let status ← executeStatus i errors
  let failed ← executeFailed i errors
  let beforeSnapshot ← i.before.get "snapshot_file"
  let afterSnapshot ← i.after.get "snapshot_file"
  some
    { status := if failed then .str "failed" else status
      summary :=
        if failed then "Mutation test execution completed but verification failed."
        else if errors = [] then "Mutation test execution completed."
        else "Mutation test execution is blocked."
      checks := checks
      errors := errors
      beforeSnapshot := beforeSnapshot
      afterSnapshot := afterSnapshot
      helperResult := i.helper
      verification := i.verify
      plan := i.plan
      signature := i.signature
      confirmation := i.confirmation }

def ExecuteReport.exitCode (r : ExecuteReport) : Nat :=
  if r.status.isStr "passed" then 0 else if r.status.isStr "failed" then 8 else 4

/-- The exit code of the script, that of a traceback being 1. -/
def executeExitCode (i : ExecuteInputs) : Nat :=
  match mutationExecuteTest i with
  | some r => r.exitCode
  | none => 1

/-! ## What a run was -/

/-- All checks of the script pass. -/
structure ExecuteChecksPassed (i : ExecuteInputs) : Prop where
  mutationMode : i.mutationMode.get "enabled" = some (.bool true)
  killswitch : i.killswitch.get "destructive_install_allowed" = some (.bool true)
  disposable : Reports i.disposable "passed"
  planVerify : Reports i.planVerify "passed"
  confirmation : Reports i.confirmation "passed"
  helperGate : Reports i.helperGate "passed"
  before : Enabled i.before "snapshot_file"
  recovery : Reports i.recovery "passed"

/-- What an exit code of 0 should say: every check passed, the helper reported its
    disk operation as done, and the verification ran and passed.  `pass` is the
    word of `DiskOperationService`. -/
structure Completed (i : ExecuteInputs) : Prop where
  checks : ExecuteChecksPassed i
  helper : Reports i.helper "pass"
  verification : Reports i.verify "passed"

/-- The helper's document says `passed`, which the helper never does, or has no
    status at all. -/
def HelperSilent (v : Json) : Prop := v.getD "status" (.str "passed") = some (.str "passed")

/-- The verification did not run, or passed. -/
def NotRefuted (v : Json) : Prop := v.truthy = false ∨ Reports v "passed"

/-! ## The checks -/

theorem isTrue_iff {v : Json} : isTrue v = true ↔ v = .bool true := by
  cases v <;> simp [isTrue]

theorem summaryOrDefault_returns {v w : Json} {key : String} (h : v.get key = some w) (default : String) :
    ∃ s, summaryOrDefault v default = some s := by
  obtain ⟨fields, rfl, -⟩ := Json.get_eq_some h
  exact ⟨_, rfl⟩

theorem switchCheck_passed {id key default : String} {v : Json} {c : SafetyCheck}
    (h : switchCheck id key v default = some c) :
    c.passed = true ↔ v.get key = some (.bool true) := by
  obtain ⟨w, hw, hrest⟩ := Option.bind_eq_some_iff.mp h
  obtain ⟨s, -, hc⟩ := Option.bind_eq_some_iff.mp hrest
  obtain rfl := Option.some.inj hc
  show isTrue w = true ↔ _
  rw [isTrue_iff, hw, Option.some.injEq]

theorem switchCheck_returns (id default : String) {key : String} {v : Json}
    (h : v.get key = some (.bool true)) : ∃ c, switchCheck id key v default = some c := by
  obtain ⟨s, hs⟩ := summaryOrDefault_returns h default
  exact ⟨_, by rw [switchCheck, h, hs]; rfl⟩

theorem reportedCheck_passed {id default : String} {v : Json} {c : SafetyCheck}
    (h : reportedCheck id v default = some c) : c.passed = true ↔ Reports v "passed" := by
  obtain ⟨passed, hpassed, hrest⟩ := Option.bind_eq_some_iff.mp h
  obtain ⟨s, -, hc⟩ := Option.bind_eq_some_iff.mp hrest
  obtain rfl := Option.some.inj hc
  show passed = true ↔ _
  rw [← statusPassed_iff, hpassed, Option.some.injEq]

theorem reportedCheck_returns (id default : String) {v : Json} (h : Reports v "passed") :
    ∃ c, reportedCheck id v default = some c := by
  obtain ⟨s, hs⟩ := summaryOrDefault_returns h default
  exact ⟨_, by rw [reportedCheck, statusPassed_iff.mpr h, hs]; rfl⟩

/-- No check is an error exactly when all of them pass. -/
theorem executeChecks_passed {i : ExecuteInputs} {checks : List SafetyCheck}
    (h : executeChecks i = some checks) :
    (checks.filter fun c => !c.passed) = [] ↔ ExecuteChecksPassed i := by
  obtain ⟨mode, hmode, h⟩ := Option.bind_eq_some_iff.mp h
  obtain ⟨killswitch, hkill, h⟩ := Option.bind_eq_some_iff.mp h
  obtain ⟨target, htarget, h⟩ := Option.bind_eq_some_iff.mp h
  obtain ⟨plan, hplan, h⟩ := Option.bind_eq_some_iff.mp h
  obtain ⟨token, htoken, h⟩ := Option.bind_eq_some_iff.mp h
  obtain ⟨gate, hgate, h⟩ := Option.bind_eq_some_iff.mp h
  obtain ⟨snapshot, hsnapshot, h⟩ := Option.bind_eq_some_iff.mp h
  obtain ⟨recovery, hrecovery, h⟩ := Option.bind_eq_some_iff.mp h
  obtain rfl := Option.some.inj h
  rw [List.filter_eq_nil_iff]
  simp only [List.mem_cons, List.not_mem_nil, or_false, forall_eq_or_imp, forall_eq,
    Bool.not_eq_true', Bool.not_eq_false, switchCheck_passed hmode, switchCheck_passed hkill,
    reportedCheck_passed htarget, reportedCheck_passed hplan, reportedCheck_passed htoken,
    reportedCheck_passed hgate, reportedCheck_passed hrecovery]
  have hbefore : (safetyCheck "pre-snapshot" snapshot.truthy
      (.str "Before snapshot was not captured.")).passed = true ↔
        Enabled i.before "snapshot_file" := by
    show snapshot.truthy = true ↔ _
    constructor
    · exact fun htruthy => ⟨snapshot, hsnapshot, htruthy⟩
    · rintro ⟨w, hw, htruthy⟩
      rwa [Option.some.inj (hsnapshot.symm.trans hw)]
  rw [hbefore]
  constructor
  · rintro ⟨h₁, h₂, h₃, h₄, h₅, h₆, h₇, h₈⟩
    exact ⟨h₁, h₂, h₃, h₄, h₅, h₆, h₇, h₈⟩
  · rintro ⟨h₁, h₂, h₃, h₄, h₅, h₆, h₇, h₈⟩
    exact ⟨h₁, h₂, h₃, h₄, h₅, h₆, h₇, h₈⟩

theorem executeChecks_returns {i : ExecuteInputs} (h : ExecuteChecksPassed i) :
    ∃ checks, executeChecks i = some checks := by
  obtain ⟨mode, hmode⟩ := switchCheck_returns "mutation-test-mode-enabled"
    "Mutation test mode is disabled." h.mutationMode
  obtain ⟨killswitch, hkill⟩ := switchCheck_returns "installer-killswitch-enabled"
    "Installer test override is disabled." h.killswitch
  obtain ⟨target, htarget⟩ := reportedCheck_returns "disposable-target-check"
    "Disposable target check failed." h.disposable
  obtain ⟨plan, hplan⟩ := reportedCheck_returns "plan-hash-verified"
    "Plan hash verification failed." h.planVerify
  obtain ⟨token, htoken⟩ := reportedCheck_returns "confirmation-token-valid"
    "Confirmation token is missing or invalid." h.confirmation
  obtain ⟨gate, hgate⟩ := reportedCheck_returns "helper-gate" "Helper gate blocked mutation."
    h.helperGate
  obtain ⟨recovery, hrecovery⟩ := reportedCheck_returns "recovery-survival"
    "Recovery survival check failed." h.recovery
  obtain ⟨snapshot, hsnapshot, -⟩ := h.before
  rw [executeChecks, hmode, hkill, htarget, hplan, htoken, hgate, hrecovery, hsnapshot]
  exact ⟨_, rfl⟩

/-! ## The exit code -/

theorem verificationFailed_eq_false {v : Json} :
    verificationFailed v = some false ↔ NotRefuted v := by
  unfold verificationFailed NotRefuted
  cases htruthy : v.truthy with
  | false => simp
  | true =>
    rw [if_pos rfl, Option.map_eq_some_iff, ← statusPassed_iff]
    simp

theorem ExecuteReport.exitCode_eq_zero {r : ExecuteReport} :
    r.exitCode = 0 ↔ r.status = .str "passed" := by
  unfold ExecuteReport.exitCode
  rw [← Json.isStr_iff]
  split
  · next hpassed => simp [hpassed]
  · next hpassed =>
    split
    · simp [hpassed]
    · simp [hpassed]

/-- Exit code 0 says only that nothing spoke against the run. -/
theorem executeExitCode_eq_zero {i : ExecuteInputs} : executeExitCode i = 0 ↔
    ExecuteChecksPassed i ∧ HelperSilent i.helper ∧ NotRefuted i.verify ∧
      ∃ snapshot, i.after.get "snapshot_file" = some snapshot := by
  unfold executeExitCode
  constructor
  · intro hexit
    cases hreport : mutationExecuteTest i with
    | none => rw [hreport] at hexit; cases hexit
    | some r =>
      rw [hreport] at hexit
      obtain ⟨checks, hchecks, hrest⟩ := Option.bind_eq_some_iff.mp hreport
      dsimp only at hrest
      obtain ⟨status, hstatus, hrest⟩ := Option.bind_eq_some_iff.mp hrest
      obtain ⟨failed, hfailed, hrest⟩ := Option.bind_eq_some_iff.mp hrest
      obtain ⟨before, -, hrest⟩ := Option.bind_eq_some_iff.mp hrest
      obtain ⟨after, hafter, hr⟩ := Option.bind_eq_some_iff.mp hrest
      obtain rfl := Option.some.inj hr
      have hpassed := ExecuteReport.exitCode_eq_zero.mp hexit
      cases failed with
      | true => exact absurd (Json.str.inj hpassed) (by decide)
      | false =>
        obtain rfl : status = .str "passed" := hpassed
        by_cases herrors : (checks.filter fun c => !c.passed) = []
        · rw [executeStatus, if_pos herrors] at hstatus
          rw [executeFailed, if_pos herrors] at hfailed
          exact ⟨(executeChecks_passed hchecks).mp herrors, hstatus,
            verificationFailed_eq_false.mp hfailed, after, hafter⟩
        · rw [executeStatus, if_neg herrors] at hstatus
          exact absurd (Json.str.inj (Option.some.inj hstatus)) (by decide)
  · rintro ⟨hpassed, hsilent, hverify, after, hafter⟩
    obtain ⟨checks, hchecks⟩ := executeChecks_returns hpassed
    have herrors := (executeChecks_passed hchecks).mpr hpassed
    obtain ⟨before, hbefore, -⟩ := hpassed.before
    have hreport : ∃ r, mutationExecuteTest i = some r ∧ r.status = .str "passed" := by
      have hstatus : executeStatus i [] = some (.str "passed") := hsilent
      have hfailed : executeFailed i [] = some false := verificationFailed_eq_false.mpr hverify
      unfold mutationExecuteTest
      simp only [hchecks, Option.bind_eq_bind, Option.bind_some, herrors, hstatus, hfailed, hbefore,
        hafter]
      exact ⟨_, rfl, rfl⟩
    obtain ⟨r, hr, hstatus⟩ := hreport
    rw [hr]
    exact ExecuteReport.exitCode_eq_zero.mpr hstatus

/-- A helper that completed its operation did not keep silent. -/
theorem not_silent_of_pass {v : Json} (h : Reports v "pass") : ¬HelperSilent v := by
  intro hsilent
  obtain ⟨fields, rfl, hfield⟩ := Json.get_eq_some h
  have hget := Json.getD_of_field hfield.symm (fun hnull => nomatch hnull) (.str "passed")
  rw [HelperSilent, hget] at hsilent
  exact absurd (Json.str.inj (Option.some.inj hsilent)) (by decide)

/-- Exit code 0 goes to completed runs and to no others exactly when a check has
    stopped the run, or the helper neither reported success with a verification
    that passed nor kept silent with one that did not refute the run. -/
theorem exitCode_truthful_iff (i : ExecuteInputs) :
    (executeExitCode i = 0 ↔ Completed i) ↔
      (ExecuteChecksPassed i →
        ¬(Reports i.helper "pass" ∧ Reports i.verify "passed") ∧
        ¬(HelperSilent i.helper ∧ NotRefuted i.verify ∧
          ∃ snapshot, i.after.get "snapshot_file" = some snapshot)) := by
  rw [executeExitCode_eq_zero]
  constructor
  · intro htruthful hchecks
    refine ⟨fun hdone => ?_, fun hzero => ?_⟩
    · have hcompleted : Completed i := ⟨hchecks, hdone.1, hdone.2⟩
      exact not_silent_of_pass hdone.1 (htruthful.mpr hcompleted).2.1
    · have hcompleted := htruthful.mp ⟨hchecks, hzero⟩
      exact not_silent_of_pass hcompleted.helper hzero.1
  · intro hcond
    constructor
    · rintro ⟨hchecks, hzero⟩
      exact absurd hzero (hcond hchecks).2
    · intro hcompleted
      exact absurd ⟨hcompleted.helper, hcompleted.verification⟩ (hcond hcompleted.checks).1

/-- Everything passes, and the helper has printed `helper`. -/
def executedInputs (helper : Json) : ExecuteInputs where
  mutationMode := .obj [("enabled", .bool true)]
  killswitch := .obj [("destructive_install_allowed", .bool true)]
  planVerify := .obj [("status", .str "passed")]
  disposable := .obj [("status", .str "passed")]
  helperGate := .obj [("status", .str "passed")]
  recovery := .obj [("status", .str "passed")]
  before := .obj [("snapshot_file", .str "before.json")]
  after := .obj [("snapshot_file", .str "after.json")]
  helper := helper
  verify := .obj [("status", .str "passed")]
  plan := .obj [("target", .str "disk0s6")]
  signature := .obj []
  confirmation := .obj [("status", .str "passed")]

/-- A completed operation exits with 4, and one whose helper printed nothing with 0. -/
theorem completed_operation_exits_nonzero :
    Completed (executedInputs (.obj [("status", .str "pass")])) ∧
      executeExitCode (executedInputs (.obj [("status", .str "pass")])) = 4 ∧
      ¬Completed (executedInputs (parse none)) ∧
      executeExitCode (executedInputs (parse none)) = 0 := by
  refine ⟨⟨⟨rfl, rfl, rfl, rfl, rfl, rfl, ⟨_, rfl, rfl⟩, rfl⟩, rfl, rfl⟩, by decide +kernel,
    fun h => not_reports_parse_none _ h.helper, by decide +kernel⟩

end Cidre.Disk
