/-
  Cidre.Disk.HelperCommand

  `jackrose-app-helper-command`, the front end of the privileged helper: the
  option loop, the gate block, the request and the final confirmation check.

  The script runs under `set -eu`.  A failing command, an unset parameter or an
  explicit `exit` ends it; all of these are `Stop`.  A run that reaches the
  helper is a `Handover`, with the gates it consulted on the way.
-/

import Cidre.Disk.Gate
import Cidre.Disk.Helper

namespace Cidre.Disk

open Partial

/-! ## Options -/

/-- The variables set by the option loop. -/
structure Args where
  operation : String := ""
  target : String := ""
  containerSize : String := ""
  volumeName : String := "Jackrose"
  partitionSize : String := ""
  planId : String := ""
  planPath : String := ""
  signaturePath : String := ""
  confirmationFile : String := ""
  confirmation : String := ""
  dryRun : Bool := false
  jsonMode : Bool := false
deriving DecidableEq, Repr

/-- How the script ends without reaching the helper. -/
inductive Stop where
  /-- `--help`. -/
  | help
  /-- `"$2"` with nothing left, under `set -u`. -/
  | parameterNotSet
  /-- An explicit `exit` with this status and this text on standard error. -/
  | error (code : Nat) (message : String)
  /-- A gate that did not pass: the exit status and the summary it prints. -/
  | blocked (code : Nat) (summary : String)
  /-- A command failed under `set -e`. -/
  | failed
deriving DecidableEq, Repr

/-- The options that take a value. -/
def valueOption (opt : String) : Option (Args → String → Args) :=
  if opt = "--operation" then some fun a v => { a with operation := v }
  else if opt = "--target" then some fun a v => { a with target := v }
  else if opt = "--container-size" then some fun a v => { a with containerSize := v }
  else if opt = "--volume-name" then some fun a v => { a with volumeName := v }
  else if opt = "--partition-size" then some fun a v => { a with partitionSize := v }
  else if opt = "--plan-id" then some fun a v => { a with planId := v }
  else if opt = "--plan" then some fun a v => { a with planPath := v }
  else if opt = "--signature" then some fun a v => { a with signaturePath := v }
  else if opt = "--confirmation-file" then some fun a v => { a with confirmationFile := v }
  else if opt = "--confirm" then some fun a v => { a with confirmation := v }
  else none

/-- The option loop. -/
def parseArgs (a : Args) : List String → Except Stop Args
  | [] => .ok a
  | opt :: rest =>
      match valueOption opt, rest with
      | some _, [] => .error .parameterNotSet
      | some set, v :: rest => parseArgs (set a v) rest
      | none, rest =>
          if opt = "--dry-run" then parseArgs { a with dryRun := true } rest
          else if opt = "--json" then parseArgs { a with jsonMode := true } rest
          else if opt = "--help" ∨ opt = "-h" then .error .help
          else .error (.error 2 ("ERROR: unknown option: " ++ opt))

/-! ## The environment of the script -/

structure Env where
  py : Python
  files : Files
  killswitch : StateFile
  testMode : StateFile
  /-- What the other gates print, `none` when it is no JSON. -/
  bootSafety : Option Json
  beforeShutdown : Option Json
  rollbackReport : Option Json
  recoverySurvival : Option Json
  protectedPartitionGuard : Option Json
  disposableTarget : String → Option Json
  installTarget : String → Option Json
  /-- `$(date -u +%Y%m%dT%H%M%SZ)-$$`. -/
  stamp : String
  /-- `uname -s` prints `Darwin`. -/
  darwin : Bool
  /-- A packaged helper is there, or `swift build` succeeds. -/
  helperBuilds : Bool

/-- What `jackrose-app-gate-evaluate` reads for a target. -/
def Env.gateInputs (env : Env) (target : String) : GateInputs where
  killswitch := parse (killswitchStatus env.killswitch)
  mutationMode := parse (mutationTestModeStatus env.testMode)
  boot := parse env.bootSafety
  shutdown := parse env.beforeShutdown
  rollback := parse env.rollbackReport
  recovery := parse env.recoverySurvival
  disposable := if target = "" then .obj [] else parse (env.disposableTarget target)
  installTarget := if target = "" then .obj [] else parse (env.installTarget target)
  guard := parse env.protectedPartitionGuard

/-! ## Defaults -/

/-- `signature_path` after the default. -/
def Args.signatureOrDefault (a : Args) : String :=
  if a.signaturePath ≠ "" then a.signaturePath
  else if a.planPath = "" then ""
  else a.planPath ++ ".sig.json"

/-- `plan_id`: as given, from the plan file, or a time stamp. -/
def planIdOf (env : Env) (a : Args) : Except Stop String := do
  let planId ←
    if a.planId = "" ∧ a.planPath ≠ "" ∧ env.files.isFile a.planPath then
      match (env.files.load env.py a.planPath).bind (·.getD "plan_id" (.str "")) with
      | none => throw .failed
      | some v => pure (stripNewlines (env.py.str v))
    else pure a.planId
  return if planId ≠ "" then planId else env.stamp

/-- The checks of the required options, and the defaults. -/
def prepare (env : Env) (a : Args) : Except Stop Args := do
  ensure (a.operation ≠ "") (.error 2 "ERROR: --operation is required")
  ensure (a.target ≠ "") (.error 2 "ERROR: --target is required")
  let a := { a with signaturePath := a.signatureOrDefault }
  let planId ← planIdOf env a
  return { a with planId := planId }

/-! ## The gate block -/

inductive Gate where
  | helperGate
  | killswitch
  | mutationTestMode
  | targetCheck
  | planVerify
  | confirmation
deriving DecidableEq, Repr

/-- The operations the gate block is entered for. -/
def gatedOperation : Operation → Bool
  | .partitionCreate | .apfsResizeContainer | .apfsAddVolume | .apfsDeleteVolume
  | .controlledInstall => true
  | _ => false

/-- `gate_operation`, `gate_level` and the output of the helper gate. -/
def helperGateFor (env : Env) (a : Args) : Option HelperGatePayload :=
  match Operation.ofName a.operation with
  | .apfsAddVolume | .apfsDeleteVolume =>
      helperGate "live-drill" a.target (some 3) (env.gateInputs a.target)
  | _ => helperGate a.operation a.target none (env.gateInputs a.target)

/-- A gate whose document says something other than `passed`: without `--json`
    its summary is read back, which fails when nothing was printed. -/
def stopAt (a : Args) (printed : Bool) (summary : String) : Stop :=
  if a.jsonMode || printed then .blocked 8 summary else .failed

def checkHelperGate (env : Env) (a : Args) : Except Stop Unit :=
  match helperGateFor env a with
  | none => throw (stopAt a false "")
  | some p => ensure p.passed (stopAt a true p.summary)

def checkKillswitch (env : Env) : Except Stop Unit :=
  match (killswitchStatus env.killswitch).bind
      (·.getD "destructive_install_allowed" (.bool false)) with
  | none => throw .failed
  | some v =>
      -- `str(v).lower()` is compared with `true`.
      let allowed : Bool := match v with
        | .bool b => b
        | .str s => s.map Char.toLower = "true"
        | _ => false
      ensure allowed (.blocked 4 "Disk-changing install is disabled by DFU incident containment.")

def checkMutationTestMode (env : Env) (a : Args) : Except Stop Unit :=
  if Operation.ofName a.operation = .controlledInstall then pure ()
  else
    match mutationTestModeStatus env.testMode with
    | none => throw .failed
    | some v =>
        ensure (((v.get "enabled").map Json.truthy).getD false)
          (.blocked 4 "Controlled mutation test mode is not enabled.")

/-- `use_install_target_check`. -/
def useInstallTargetCheck (env : Env) (a : Args) : Except Stop Bool :=
  if Operation.ofName a.operation = .controlledInstall then pure true
  else if a.planPath ≠ "" ∧ env.files.isFile a.planPath then
    match (env.files.load env.py a.planPath).bind (·.get "install_target_required") with
    | none => throw .failed
    | some v => pure v.truthy
  else pure false

/-- A document printed by a check says `passed`. -/
def documentPassed (v : Option Json) : Bool :=
  ((v.bind (·.get "status")).map (·.isStr "passed")).getD false

/-- `json.load(sys.stdin).get("summary", default)`. -/
def documentSummary (v : Option Json) (default : String) : Option Json :=
  v.bind (·.getD "summary" (.str default))

def checkTarget (env : Env) (a : Args) : Except Stop Unit := do
  let useInstall ← useInstallTargetCheck env a
  let document := if useInstall then env.installTarget a.target else env.disposableTarget a.target
  if documentPassed document then pure ()
  else
    match documentSummary document "Disposable target check failed." with
    | none => throw (stopAt a false "")
    | some s => throw (stopAt a true (env.py.str s))

def planVerifyPayload (env : Env) (a : Args) : Option PlanVerifyPayload :=
  if Operation.ofName a.operation = .controlledInstall then
    some (installPlanVerify env.py env.files a.planPath a.signaturePath)
  else mutationPlanVerify env.py env.files a.planPath a.signaturePath

def checkPlanVerify (env : Env) (a : Args) : Except Stop Unit := do
  ensure (a.planPath ≠ "") (.error 4 "ERROR: --plan is required for destructive helper mutation")
  ensure (a.signaturePath ≠ "")
    (.error 4 "ERROR: --signature is required for destructive helper mutation")
  ensure (a.confirmationFile ≠ "")
    (.error 4 "ERROR: --confirmation-file is required for destructive helper mutation")
  match planVerifyPayload env a with
  | none => throw (stopAt a false "")
  | some p => ensure p.passed (stopAt a true p.summary)

/-- The conjunction `matches` of the confirmation check. -/
def confirmationMatches (env : Env) (a : Args) (planBytes : Bytes) (plan confirmation : Json) :
    Option Bool :=
  andM ((confirmation.get "status").map (·.isStr "passed")) <|
  andM ((confirmation.get "plan_hash").map (·.isStr (env.py.sha256 planBytes))) <|
  andM ((plan.get "target").map (·.isStr a.target)) <|
  andM
    (orM ((plan.get "helper_operation").map (·.isStr a.operation)) <|
      orM ((plan.get "operation").map (·.isStr a.operation)) <|
      orM ((plan.get "mode").map (·.isStr "controlled-manual-boot"))
        ((plan.get "helper_operation").map (·.isStr "live-drill"))) <|
  orM (some a.dryRun) ((confirmation.get "confirmation_token").map (·.isStr a.confirmation))

/-- The output of the confirmation check, `none` when it raises. -/
def confirmationValid (env : Env) (a : Args) : Option Bool := do
  let planBytes ← env.files.read a.planPath
  let confirmation ← env.files.load env.py a.confirmationFile
  let plan ← env.py.loads planBytes
  confirmationMatches env a planBytes plan confirmation

def checkConfirmation (env : Env) (a : Args) : Except Stop Unit :=
  match confirmationValid env a with
  | none => throw .failed
  | some true => pure ()
  | some false => throw (.blocked 4 "Mutation confirmation token is invalid.")

/-- The gate block; the result is the gates consulted, in order. -/
def gateBlock (env : Env) (a : Args) : Except Stop (List Gate) :=
  if gatedOperation (Operation.ofName a.operation) then do
    checkHelperGate env a
    checkKillswitch env
    checkMutationTestMode env a
    checkTarget env a
    checkPlanVerify env a
    checkConfirmation env a
    return [.helperGate, .killswitch, .mutationTestMode, .targetCheck, .planVerify, .confirmation]
  else return []

/-! ## The request -/

/-- `arguments_json`. -/
def helperArguments (a : Args) : List String :=
  match Operation.ofName a.operation with
  | .partitionCreate => [a.containerSize, a.volumeName, a.partitionSize]
  | .apfsAddVolume => ["APFS", a.volumeName]
  | .apfsResizeContainer => [a.containerSize]
  | _ => []

/-- The request as the helper decodes it. -/
def buildRequest (a : Args) : HelperRequest where
  schemaVersion := 1
  operation := a.operation
  target := some a.target
  dryRun := a.dryRun
  confirmationToken := if a.confirmation = "" then none else some a.confirmation
  planID := some a.planId
  arguments := helperArguments a

/-- A run that reached the helper. -/
structure Handover where
  args : Args
  request : HelperRequest
  consulted : List Gate
deriving DecidableEq, Repr

/-- From the host check to the start of the helper. -/
def startHelper (env : Env) (a : Args) : Except Stop Unit := do
  ensure env.darwin (.blocked 4 "Privileged disk operations require macOS.")
  ensure env.helperBuilds .failed
  ensure (a.dryRun ∨ a.confirmationFile ≠ "" ∨ a.confirmation = "JACKROSE EXECUTE " ++ a.planId)
    (.error 4 ("ERROR: confirmation must be exactly: JACKROSE EXECUTE " ++ a.planId))

/-- `jackrose-app-helper-command`, up to the start of the helper. -/
def helperCommand (env : Env) (argv : List String) : Except Stop Handover := do
  let a ← parseArgs {} argv
  let a ← prepare env a
  let consulted ← gateBlock env a
  startHelper env a
  return ⟨a, buildRequest a, consulted⟩

/-! ## What a handover has passed -/

theorem helperCommand_ok {env : Env} {argv : List String} {h : Handover}
    (hok : helperCommand env argv = .ok h) :
    gateBlock env h.args = .ok h.consulted ∧ startHelper env h.args = .ok () ∧
      h.request = buildRequest h.args := by
  simp only [helperCommand, bind_eq_ok] at hok
  obtain ⟨a, -, b, -, consulted, hgate, u, hstart, hh⟩ := hok
  obtain rfl := pure_eq_ok.mp hh
  exact ⟨hgate, hstart, rfl⟩

/-- An ungated operation consults nothing. -/
theorem gateBlock_ungated {env : Env} {a : Args} {gates : List Gate}
    (hop : gatedOperation (Operation.ofName a.operation) = false)
    (h : gateBlock env a = .ok gates) : gates = [] := by
  rw [gateBlock, hop, if_neg (by simp)] at h
  exact (pure_eq_ok.mp h).symm

/-- The checks a gated operation has passed. -/
structure ChecksPassed (env : Env) (a : Args) : Prop where
  helperGate : checkHelperGate env a = .ok ()
  killswitch : checkKillswitch env = .ok ()
  testMode : checkMutationTestMode env a = .ok ()
  target : checkTarget env a = .ok ()
  planVerify : checkPlanVerify env a = .ok ()
  confirmation : checkConfirmation env a = .ok ()

theorem gateBlock_gated {env : Env} {a : Args} {gates : List Gate}
    (hop : gatedOperation (Operation.ofName a.operation) = true)
    (h : gateBlock env a = .ok gates) :
    gates = [.helperGate, .killswitch, .mutationTestMode, .targetCheck, .planVerify,
      .confirmation] ∧ ChecksPassed env a := by
  rw [gateBlock, if_pos hop] at h
  simp only [bind_eq_ok] at h
  obtain ⟨_, h₁, _, h₂, _, h₃, _, h₄, _, h₅, _, h₆, heq⟩ := h
  exact ⟨(pure_eq_ok.mp heq).symm, h₁, h₂, h₃, h₄, h₅, h₆⟩

theorem checkHelperGate_ok {env : Env} {a : Args} (h : checkHelperGate env a = .ok ()) :
    ∃ p, helperGateFor env a = some p ∧ p.passed = true := by
  unfold checkHelperGate at h
  split at h
  · exact absurd h throw_ne_ok
  · rename_i p hp
    exact ⟨p, hp, ensure_eq_ok.mp h⟩

/-- The installer killswitch reports `destructive_install_allowed`. -/
def KillswitchAllows (env : Env) : Prop :=
  ∃ v, killswitchStatus env.killswitch = some v ∧
    v.get "destructive_install_allowed" = some (.bool true)

theorem checkKillswitch_ok {env : Env} (h : checkKillswitch env = .ok ()) :
    KillswitchAllows env := by
  unfold checkKillswitch at h
  cases hk : killswitchStatus env.killswitch with
  | none =>
    rw [hk] at h
    exact absurd h throw_ne_ok
  | some v =>
    obtain ⟨b, hgetD, hget, -⟩ := killswitchStatus_reports hk
    rw [hk, Option.bind_some, hgetD] at h
    obtain rfl : b = true := ensure_eq_ok.mp h
    exact ⟨v, hk, hget⟩

theorem checkPlanVerify_ok {env : Env} {a : Args}
    (hop : Operation.ofName a.operation ≠ .controlledInstall)
    (h : checkPlanVerify env a = .ok ()) :
    ∃ planBytes plan,
      PlanSigned env.py env.files a.planPath a.signaturePath planBytes plan := by
  simp only [checkPlanVerify, bind_eq_ok] at h
  obtain ⟨_, -, _, -, _, -, h⟩ := h
  split at h
  · exact absurd h throw_ne_ok
  · rename_i p hp
    rw [planVerifyPayload, if_neg hop] at hp
    exact mutationPlanVerify_passed hp (ensure_eq_ok.mp h)

/-- The confirmation file is `passed` for the bytes of the plan, and the plan
    has the target of the request. -/
structure Confirmed (env : Env) (a : Args) (planBytes : Bytes) (plan : Json) : Prop where
  bytes : env.files.read a.planPath = some planBytes
  parsed : env.py.loads planBytes = some plan
  passed : ∃ confirmation, env.files.load env.py a.confirmationFile = some confirmation ∧
    confirmation.get "status" = some (.str "passed") ∧
    confirmation.get "plan_hash" = some (.str (env.py.sha256 planBytes))
  target : plan.get "target" = some (.str a.target)

theorem get_map_isStr {v : Json} {key s : String} :
    (v.get key).map (·.isStr s) = some true ↔ v.get key = some (.str s) := by
  rw [Option.map_eq_some_iff]
  constructor
  · rintro ⟨w, hw, hs⟩
    rw [hw, Json.isStr_iff.mp hs]
  · intro h
    exact ⟨_, h, by simp⟩

theorem checkConfirmation_ok {env : Env} {a : Args} (h : checkConfirmation env a = .ok ()) :
    ∃ planBytes plan, Confirmed env a planBytes plan := by
  have hvalid : confirmationValid env a = some true := by
    unfold checkConfirmation at h
    split at h
    · exact absurd h throw_ne_ok
    · assumption
    · exact absurd h throw_ne_ok
  simp only [confirmationValid, Option.bind_eq_bind, Option.bind_eq_some_iff] at hvalid
  obtain ⟨planBytes, hbytes, confirmation, hconf, plan, hplan, hmatch⟩ := hvalid
  simp only [confirmationMatches, andM_eq_true, get_map_isStr] at hmatch
  obtain ⟨hstatus, hhash, htarget, -, -⟩ := hmatch
  exact ⟨planBytes, plan, hbytes, hplan, ⟨confirmation, hconf, hstatus, hhash⟩, htarget⟩

/-! ## Gate completeness -/

/-- The operations of the helper that change the disk. -/
def destructive : Operation → Bool
  | .partitionCreate | .partitionDelete | .apfsResizeContainer | .apfsAddVolume
  | .apfsDeleteVolume => true
  | _ => false

/-- The plan is for the operation of the request. -/
def PlanNames (plan : Json) (operation : String) : Prop :=
  plan.get "helper_operation" = some (.str operation) ∨ plan.get "operation" = some (.str operation)

/-- Every gate was consulted on the way to the helper, and had passed for
    exactly this plan, target and operation. -/
structure GatesPassed (env : Env) (h : Handover) : Prop where
  killswitch : .killswitch ∈ h.consulted ∧ KillswitchAllows env
  helperGate : .helperGate ∈ h.consulted ∧
    ∃ p, helperGateFor env h.args = some p ∧ p.passed = true
  planVerified : .planVerify ∈ h.consulted ∧ ∃ planBytes plan,
    PlanSigned env.py env.files h.args.planPath h.args.signaturePath planBytes plan
  confirmed : .confirmation ∈ h.consulted ∧ ∃ planBytes plan,
    Confirmed env h.args planBytes plan ∧ PlanNames plan h.args.operation

/-- Of the destructive operations only the deletion of a partition is ungated. -/
theorem destructive_ungated {op : Operation} (h : destructive op = true)
    (hun : gatedOperation op = false) : op = .partitionDelete := by
  cases op <;> simp_all [destructive, gatedOperation]

/-- A live destructive request reaches the helper through all the gates exactly
    when it does not delete a partition and the plan file names its operation. -/
theorem gates_passed_iff {env : Env} {argv : List String} {h : Handover}
    (hok : helperCommand env argv = .ok h) (_hlive : h.request.dryRun = false)
    (hop : destructive (Operation.ofName h.request.operation) = true) :
    GatesPassed env h ↔
      Operation.ofName h.args.operation ≠ .partitionDelete ∧
        ∃ plan, env.files.load env.py h.args.planPath = some plan ∧
          PlanNames plan h.args.operation := by
  obtain ⟨hgate, -, hreq⟩ := helperCommand_ok hok
  rw [hreq] at hop
  constructor
  · intro hpassed
    obtain ⟨hmem, planBytes, plan, hconf, hnames⟩ := hpassed.confirmed
    refine ⟨?_, plan, ?_, hnames⟩
    · intro hdelete
      have hnone := gateBlock_ungated (by rw [hdelete]; rfl) hgate
      rw [hnone] at hmem
      exact absurd hmem List.not_mem_nil
    · rw [Files.load, hconf.bytes, Option.bind_some, hconf.parsed]
  · rintro ⟨hdelete, plan, hload, hnames⟩
    have hgated : gatedOperation (Operation.ofName h.args.operation) = true := by
      by_contra hun
      exact hdelete (destructive_ungated hop (by simpa using hun))
    obtain ⟨hgates, hchecks⟩ := gateBlock_gated hgated hgate
    have hinstall : Operation.ofName h.args.operation ≠ .controlledInstall := by
      intro hci
      rw [buildRequest, hci] at hop
      exact absurd hop (by decide)
    obtain ⟨planBytes, plan', hconf⟩ := checkConfirmation_ok hchecks.confirmation
    have hsame : plan' = plan := by
      rw [Files.load, hconf.bytes, Option.bind_some, hconf.parsed] at hload
      exact Option.some.inj hload
    subst hsame
    refine ⟨⟨?_, checkKillswitch_ok hchecks.killswitch⟩,
      ⟨?_, checkHelperGate_ok hchecks.helperGate⟩,
      ⟨?_, checkPlanVerify_ok hinstall hchecks.planVerify⟩,
      ⟨?_, planBytes, plan', hconf, hnames⟩⟩
    all_goals
      rw [hgates]
      decide

-- A resize of `disk3` with a signed and confirmed plan, on a machine where every
-- gate is open.

def resizePlanText : String :=
  "\x7b\"container_size\": \"1G\", \"helper_operation\": \"apfs-resize-container\", " ++
    "\"plan_id\": \"p1\", \"target\": \"disk3\"\x7d"

def resizePlan : Json :=
  .obj [("container_size", .str "1G"), ("helper_operation", .str "apfs-resize-container"),
    ("plan_id", .str "p1"), ("target", .str "disk3")]

def resizePlanHash : String :=
  "94697c220907fda83973525a680c68b04d2027d7d800ba2d45f83a723e50974b"

def resizeSignatureText : String := "\x7b\"plan_hash\": \"" ++ resizePlanHash ++ "\"\x7d"

def resizeConfirmationText : String :=
  "\x7b\"confirmation_token\": \"JACKROSE EXECUTE p1\", \"plan_hash\": \"" ++ resizePlanHash ++
    "\", \"status\": \"passed\"\x7d"

def passedDocument : Json := .obj [("status", .str "passed"), ("summary", .str "Passed.")]

def openEnv : Env where
  py := Python.ofTables
    [(resizePlanText, resizePlan),
     (resizeSignatureText, .obj [("plan_hash", .str resizePlanHash)]),
     (resizeConfirmationText, .obj [("confirmation_token", .str "JACKROSE EXECUTE p1"),
       ("plan_hash", .str resizePlanHash), ("status", .str "passed")])]
    [(resizePlanText, resizePlanHash)]
  files := Files.ofTable
    [("plan.json", resizePlanText), ("plan.json.sig.json", resizeSignatureText),
     ("confirmation.json", resizeConfirmationText)]
  killswitch := .document (.obj [("installer_status", .str "enabled-for-test")])
  testMode := .document (.obj [("mode", .str "enabled")])
  bootSafety := some passedDocument
  beforeShutdown := some passedDocument
  rollbackReport := some passedDocument
  recoverySurvival := some passedDocument
  protectedPartitionGuard := some passedDocument
  disposableTarget := fun _ => some passedDocument
  installTarget := fun _ => none
  stamp := "20260101T000000Z-1"
  darwin := true
  helperBuilds := true

def resizeArgv : List String :=
  ["--operation", "apfs-resize-container", "--target", "disk3", "--container-size", "1G",
    "--plan", "plan.json", "--confirmation-file", "confirmation.json",
    "--confirm", "JACKROSE EXECUTE p1"]

def resizeHandover : Handover where
  args :=
    { operation := "apfs-resize-container", target := "disk3", containerSize := "1G"
      planId := "p1", planPath := "plan.json", signaturePath := "plan.json.sig.json"
      confirmationFile := "confirmation.json", confirmation := "JACKROSE EXECUTE p1" }
  request :=
    { schemaVersion := 1, operation := "apfs-resize-container", target := some "disk3"
      dryRun := false, confirmationToken := some "JACKROSE EXECUTE p1", planID := some "p1"
      arguments := ["1G"] }
  consulted :=
    [.helperGate, .killswitch, .mutationTestMode, .targetCheck, .planVerify, .confirmation]

set_option maxRecDepth 8000 in
/-- The resize reaches the helper through all the gates. -/
theorem gates_passed_resize : GatesPassed openEnv resizeHandover :=
  (@gates_passed_iff openEnv resizeArgv resizeHandover rfl rfl rfl).mpr
    ⟨by decide, resizePlan, rfl, Or.inl rfl⟩

-- On the same machine with the killswitch and the test mode off, the deletion of
-- a partition needs no plan, no signature and no confirmation file.

def closedEnv : Env :=
  { openEnv with
    killswitch := .missing
    testMode := .missing
    recoverySurvival := none
    disposableTarget := fun _ => none }

def deleteArgv : List String :=
  ["--operation", "partition-delete", "--target", "disk0s5", "--plan-id", "ebb7b089692f4c19",
    "--confirm", "JACKROSE EXECUTE ebb7b089692f4c19"]

/-- A live `partition-delete` is handed to the helper past every gate. -/
theorem partition_delete_ungated :
    ∃ h, helperCommand closedEnv deleteArgv = .ok h ∧ h.request.dryRun = false ∧
      destructive (Operation.ofName h.request.operation) = true ∧ ¬GatesPassed closedEnv h := by
  refine ⟨_, rfl, rfl, rfl, fun hpassed => ?_⟩
  exact absurd hpassed.killswitch.1 List.not_mem_nil

end Cidre.Disk
