/-
  Cidre.Disk.ControlledInstall

  `jackrose-app-controlled-install`: four pre-checks are collected, then the
  four mutating steps run, and only then are the collected documents judged.

  The documents the sub-scripts print are the input of the model; the steps the
  script runs, each with the mode it is run in, are part of its result.
-/

import Cidre.Disk.Gate
import Cidre.Disk.Plan

namespace Cidre.Disk

open Partial

/-! ## The script -/

/-- What each sub-script prints, `none` when it is no JSON. -/
structure InstallOutputs where
  gateEvaluate : Option Json
  planVerify : Option Json
  helperGate : Option Json
  installTarget : Option Json
  payloadStage : Option Json
  payloadVerify : Option Json
  bootAssetPrepare : Option Json
  rescueBootIntegrate : Option Json
  snapshotBefore : Option Json
  snapshotAfter : Option Json
  noDefaultBootCheck : Option Json

/-- The steps that write to the target. -/
inductive InstallStep where
  | payloadStage
  | metadataWrite
  | bootAssetPrepare
  | rescueBootIntegrate
deriving DecidableEq, Repr

/-- A step that was run, and whether it was run with `--dry-run`. -/
structure StepRun where
  step : InstallStep
  dryRun : Bool
deriving DecidableEq, Repr

/-- `print(json.load(…).get(key, ""))` in a command substitution that may fail. -/
def printed (py : Python) (document : Option Json) (key : String) : String :=
  match document.bind (·.getD key (.str "")) with
  | none => ""
  | some v => stripNewlines (py.str v)

/-- `target`, from `json.load(…).get("target") or ""`. -/
def installTargetOf (py : Python) (plan : Json) : Option String := do
  let v ← plan.get "target"
  some (if v.truthy then stripNewlines (py.str v) else "")

def passedDocumentOf (summary : String) : Json :=
  .obj [("status", .str "passed"), ("summary", .str summary)]

/-- The metadata is written once a mount point is known, never in a dry run. -/
def writesMetadata (mountPoint : String) (dryRun : Bool) : Bool := mountPoint ≠ "" && !dryRun

/-- The steps in the order the script runs them. -/
def installSteps (target mountPoint : String) (dryRun : Bool) : List StepRun :=
  [⟨.payloadStage, dryRun⟩] ++
    (if writesMetadata mountPoint dryRun then [⟨.metadataWrite, false⟩] else []) ++
    (if target ≠ "" then [⟨.bootAssetPrepare, dryRun⟩, ⟨.rescueBootIntegrate, dryRun⟩] else [])

/-- The documents the script judges at its end. -/
structure Judged where
  gate : Json
  planVerify : Json
  disposable : Json
  helperGate : Json
  preboot : Json
  rescue : Json
  boot : Json
  stage : Json
  verify : Json

def judged (py : Python) (o : InstallOutputs) (target : String) (dryRun : Bool) : Judged where
  gate := parse o.gateEvaluate
  planVerify := parse o.planVerify
  disposable := if target = "" then .obj [] else parse o.installTarget
  helperGate := parse o.helperGate
  preboot :=
    if target = "" then passedDocumentOf "Preboot staging bypassed (no target specified)."
    else parse o.bootAssetPrepare
  rescue :=
    if target = "" then
      passedDocumentOf "Jackrose Rescue integration bypassed (no target specified)."
    else parse o.rescueBootIntegrate
  boot :=
    if printed py o.snapshotBefore "snapshot_file" ≠ "" ∧
        printed py o.snapshotAfter "snapshot_file" ≠ "" then parse o.noDefaultBootCheck
    else passedDocumentOf "No default boot check bypassed."
  stage := parse o.payloadStage
  verify :=
    if writesMetadata (printed py o.payloadStage "mount_point") dryRun then parse o.payloadVerify
    else passedDocumentOf "Payload verification bypassed in dry-run."

inductive InstallCheckId where
  | gateEvaluate
  | planHashVerified
  | installTarget
  | helperGate
  | bootAssetPrepare
  | rescueBootIntegrate
  | noDefaultBootCheck
  | payloadStage
deriving DecidableEq, Repr

structure InstallCheck where
  id : InstallCheckId
  passed : Bool
  reason : Json

/-- `add_check(id, v.get("status") == "passed", v.get("summary") or default)`. -/
def installCheck (id : InstallCheckId) (v : Json) (default : String) : Option InstallCheck := do
  let passed ← statusPassed v
  let summary ← v.get "summary"
  some ⟨id, passed, if passed then .null else if summary.truthy then summary else .str default⟩

/-- The staging check also wants an empty list of errors. -/
def stageCheck (v : Json) : Option InstallCheck := do
  let passed ← andM (statusPassed v) ((v.get "errors").map fun e => !e.truthy)
  let summary ← v.get "summary"
  some ⟨.payloadStage, passed,
    if passed then .null else if summary.truthy then summary else .str "Payload staging failed."⟩

/-- The checks in the order they are added. -/
def installChecks (j : Judged) : Option (List InstallCheck) := do
  let c₁ ← installCheck .gateEvaluate j.gate "Controlled install gate evaluation blocked."
  let c₂ ← installCheck .planHashVerified j.planVerify "Plan verification failed."
  let c₃ ← installCheck .installTarget j.disposable "Install target check failed."
  let c₄ ← installCheck .helperGate j.helperGate "Helper gate blocked controlled install."
  let c₅ ← installCheck .bootAssetPrepare j.preboot "Boot asset preparation failed."
  let c₆ ← installCheck .rescueBootIntegrate j.rescue "Rescue boot integration failed."
  let c₇ ← installCheck .noDefaultBootCheck j.boot "Default boot validation failed."
  let c₈ ← stageCheck j.stage
  some [c₁, c₂, c₃, c₄, c₅, c₆, c₇, c₈]

inductive InstallStatus where
  | passed
  | blocked
  | failed
deriving DecidableEq, Repr

structure InstallPayload where
  status : InstallStatus
  summary : String
  checks : List InstallCheck

/-- The status decision. -/
def installPayload (j : Judged) : Option InstallPayload := do
  let checks ← installChecks j
  if checks.any fun c => !c.passed then
    some ⟨.blocked, "Controlled install is blocked.", checks⟩
  else if ← statusPassed j.verify then
    some ⟨.passed, "Controlled manual-boot install completed.", checks⟩
  else some ⟨.failed, "Install verification failed.", checks⟩

def InstallPayload.exitCode (p : InstallPayload) : Nat :=
  match p.status with
  | .passed => 0
  | .failed => 8
  | .blocked => 4

/-- A run of the script: the steps it ran, and the payload it printed if the
    judgement did not end in a traceback. -/
structure InstallRun where
  steps : List StepRun
  payload : Option InstallPayload

/-- `jackrose-app-controlled-install`; `none` when the plan cannot be read. -/
def controlledInstall (py : Python) (o : InstallOutputs) (plan : Option Json) (dryRun : Bool) :
    Option InstallRun := do
  let plan ← plan
  let target ← installTargetOf py plan
  some
    { steps := installSteps target (printed py o.payloadStage "mount_point") dryRun
      payload := installPayload (judged py o target dryRun) }

/-! ## Checks against effects -/

/-- The pre-checks, whose documents are there before the first step. -/
def isPreCheck : InstallCheckId → Bool
  | .gateEvaluate | .planHashVerified | .installTarget | .helperGate => true
  | _ => false

/-- The install is blocked, and a pre-check did not pass. -/
def BlockedByPreCheck (p : InstallPayload) : Prop :=
  p.status = .blocked ∧ ∃ c ∈ p.checks, isPreCheck c.id = true ∧ c.passed = false

/-- No mutating step was run outside of dry-run mode. -/
def LeavesDiskUntouched (r : InstallRun) : Prop := ∀ s ∈ r.steps, s.dryRun = true

/-- All four pre-checks said `passed`. -/
structure PreChecksPassed (o : InstallOutputs) (target : String) : Prop where
  gateEvaluate : statusPassed (parse o.gateEvaluate) = some true
  planVerify : statusPassed (parse o.planVerify) = some true
  installTarget : target ≠ "" ∧ statusPassed (parse o.installTarget) = some true
  helperGate : statusPassed (parse o.helperGate) = some true

theorem installCheck_eq {id : InstallCheckId} {v : Json} {default : String} {c : InstallCheck}
    (h : installCheck id v default = some c) : c.id = id ∧ statusPassed v = some c.passed := by
  simp only [installCheck, Option.bind_eq_bind, Option.bind_eq_some_iff, Option.some.injEq] at h
  obtain ⟨passed, hpassed, summary, -, rfl⟩ := h
  exact ⟨rfl, hpassed⟩

theorem stageCheck_id {v : Json} {c : InstallCheck} (h : stageCheck v = some c) :
    c.id = .payloadStage := by
  simp only [stageCheck, Option.bind_eq_bind, Option.bind_eq_some_iff, Option.some.injEq] at h
  obtain ⟨passed, -, summary, -, rfl⟩ := h
  rfl

/-- A pre-check among the checks is one of the four documents, judged. -/
theorem installChecks_preCheck {j : Judged} {checks : List InstallCheck}
    (h : installChecks j = some checks) :
    (∃ c ∈ checks, isPreCheck c.id = true ∧ c.passed = false) ↔
      ¬(statusPassed j.gate = some true ∧ statusPassed j.planVerify = some true ∧
        statusPassed j.disposable = some true ∧ statusPassed j.helperGate = some true) := by
  simp only [installChecks, Option.bind_eq_bind, Option.bind_eq_some_iff, Option.some.injEq] at h
  obtain ⟨c₁, h₁, c₂, h₂, c₃, h₃, c₄, h₄, c₅, h₅, c₆, h₆, c₇, h₇, c₈, h₈, rfl⟩ := h
  obtain ⟨i₁, p₁⟩ := installCheck_eq h₁
  obtain ⟨i₂, p₂⟩ := installCheck_eq h₂
  obtain ⟨i₃, p₃⟩ := installCheck_eq h₃
  obtain ⟨i₄, p₄⟩ := installCheck_eq h₄
  have i₅ := (installCheck_eq h₅).1
  have i₆ := (installCheck_eq h₆).1
  have i₇ := (installCheck_eq h₇).1
  have i₈ := stageCheck_id h₈
  rw [p₁, p₂, p₃, p₄]
  simp only [List.mem_cons, List.not_mem_nil, or_false, exists_eq_or_imp, exists_eq_left, i₁, i₂,
    i₃, i₄, i₅, i₆, i₇, i₈, isPreCheck]
  cases c₁.passed <;> cases c₂.passed <;> cases c₃.passed <;> cases c₄.passed <;> simp

theorem installPayload_checks {j : Judged} {p : InstallPayload} (h : installPayload j = some p) :
    installChecks j = some p.checks ∧
      ((∃ c ∈ p.checks, c.passed = false) → p.status = .blocked) := by
  simp only [installPayload, Option.bind_eq_bind, Option.bind_eq_some_iff] at h
  obtain ⟨checks, hchecks, h⟩ := h
  split at h
  · obtain rfl := Option.some.inj h
    exact ⟨hchecks, fun _ => rfl⟩
  · rename_i hall
    have hchecks' : p.checks = checks := by
      obtain ⟨b, -, h⟩ := Option.bind_eq_some_iff.mp h
      split at h <;> rw [← Option.some.inj h]
    refine ⟨hchecks' ▸ hchecks, ?_⟩
    rintro ⟨c, hc, hp⟩
    rw [hchecks'] at hc
    refine absurd (List.any_eq_true.mpr ⟨c, hc, ?_⟩) hall
    rw [hp]
    rfl

/-- A live install has staged the payload on the target before anything is
    judged. -/
theorem payloadStage_mem_installSteps (target mountPoint : String) (dryRun : Bool) :
    ⟨.payloadStage, dryRun⟩ ∈ installSteps target mountPoint dryRun := by
  simp [installSteps]

/-- A live install that ends with a status leaves the disk untouched when a
    pre-check blocks it, exactly when no pre-check blocks it. -/
theorem blocked_untouched_iff {py : Python} {o : InstallOutputs} {plan : Json} {target : String}
    {r : InstallRun} {p : InstallPayload} (htarget : installTargetOf py plan = some target)
    (hrun : controlledInstall py o (some plan) false = some r) (hp : r.payload = some p) :
    (BlockedByPreCheck p → LeavesDiskUntouched r) ↔ PreChecksPassed o target := by
  simp only [controlledInstall, Option.bind_eq_bind, Option.bind_some, htarget,
    Option.some.injEq] at hrun
  subst hrun
  obtain ⟨hchecks, hstatus⟩ := installPayload_checks hp
  have hpre := installChecks_preCheck hchecks
  have hlive : ¬LeavesDiskUntouched
      ⟨installSteps target (printed py o.payloadStage "mount_point") false,
        installPayload (judged py o target false)⟩ := by
    intro huntouched
    exact absurd (huntouched _ (payloadStage_mem_installSteps target _ false)) (by simp)
  have hblocked : BlockedByPreCheck p ↔
      ∃ c ∈ p.checks, isPreCheck c.id = true ∧ c.passed = false := by
    refine ⟨fun h => h.2, fun h => ⟨?_, h⟩⟩
    obtain ⟨c, hc, -, hfail⟩ := h
    exact hstatus ⟨c, hc, hfail⟩
  rw [hblocked, hpre]
  constructor
  · intro h
    have hall := not_not.mp fun hne => hlive (h hne)
    obtain ⟨hg, hv, hd, hh⟩ := hall
    refine ⟨hg, hv, ?_, hh⟩
    by_cases ht : target = ""
    · simp [judged, ht, statusPassed, Json.field] at hd
    · exact ⟨ht, by simpa [judged, ht] using hd⟩
  · intro h hne
    refine absurd ?_ hne
    refine ⟨h.gateEvaluate, h.planVerify, ?_, h.helperGate⟩
    obtain ⟨ht, hd⟩ := h.installTarget
    simpa [judged, ht] using hd

-- A plan for `disk0s5`, with every sub-script passing, and the same with a gate
-- that has not passed.

def installPlanSample : Json := .obj [("plan_id", .str "i1"), ("target", .str "disk0s5")]

def installPython : Python := Python.ofTables [] []

def installOutputs (gate : String) : InstallOutputs where
  gateEvaluate := some (.obj [("status", .str gate)])
  planVerify := some (.obj [("status", .str "passed")])
  helperGate := some (.obj [("status", .str "passed")])
  installTarget := some (.obj [("status", .str "passed")])
  payloadStage := some (.obj [("status", .str "passed"), ("mount_point", .str "/Volumes/Jackrose")])
  payloadVerify := some (.obj [("status", .str "passed")])
  bootAssetPrepare := some (.obj [("status", .str "passed")])
  rescueBootIntegrate := some (.obj [("status", .str "passed")])
  snapshotBefore := none
  snapshotAfter := none
  noDefaultBootCheck := none

/-- With all pre-checks passed the condition holds. -/
theorem blocked_untouched_open :
    ∃ r p, controlledInstall installPython (installOutputs "passed") (some installPlanSample) false =
        some r ∧ r.payload = some p ∧ (BlockedByPreCheck p → LeavesDiskUntouched r) :=
  ⟨_, _, rfl, rfl, (@blocked_untouched_iff installPython (installOutputs "passed")
    installPlanSample "disk0s5" _ _ rfl rfl rfl).mpr ⟨rfl, rfl, ⟨by decide, rfl⟩, rfl⟩⟩

/-- The gate is blocked, and all four steps have written to the disk. -/
theorem blocked_install_writes :
    ∃ r p, controlledInstall installPython (installOutputs "blocked") (some installPlanSample) false =
        some r ∧ r.payload = some p ∧ BlockedByPreCheck p ∧
      r.steps = [⟨.payloadStage, false⟩, ⟨.metadataWrite, false⟩, ⟨.bootAssetPrepare, false⟩,
        ⟨.rescueBootIntegrate, false⟩] ∧ ¬LeavesDiskUntouched r := by
  refine ⟨_, _, rfl, rfl, ⟨rfl, _, List.mem_cons_self, rfl, rfl⟩, rfl, fun h => ?_⟩
  exact absurd (h ⟨.payloadStage, false⟩ (List.mem_cons_self)) (by simp)

end Cidre.Disk
