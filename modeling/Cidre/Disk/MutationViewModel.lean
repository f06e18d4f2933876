/-
  Cidre.Disk.MutationViewModel

  The form on which a disk change is planned, previewed and executed
  (`DiskMutationViewModel`): its buttons, the lists of what blocks them, and the
  plan that was made for the inputs of the form.

  What the services and the scripts answer comes with the action that asks for it.
  A status refresh runs in the background; its end is an action of its own and is
  dropped when a later refresh was started.  An action that runs a script holds the
  main thread, so `isRunning` is seen as true only while a guided action waits.
-/

import Cidre.Lib.Run
import Cidre.Disk.Helper

namespace Cidre.Disk

open Cidre.Run

/-! ## The form -/

inductive PartitionMode where
  | max
  | auto
  | min
  | custom
deriving DecidableEq, Repr

def PartitionMode.rawValue : PartitionMode → String
  | .max => "max"
  | .auto => "auto"
  | .min => "min"
  | .custom => "custom"

structure InstallTarget where
  status : String
  summary : String
  target : Option String
  classification : Option String
deriving DecidableEq, Repr

/-- `CommandExecution`; `object` is standard output as a JSON object. -/
structure CommandExecution where
  command : String
  arguments : List String
  status : String
  object : Option Dict

/-- What a status refresh reads, as far as the buttons look at it. -/
structure SafetyStatus where
  /-- `killSwitchState.destructiveInstallAllowed`. -/
  destructiveInstallAllowed : Bool
  /-- `mutationTestMode?.enabled`. -/
  mutationTestEnabled : Option Bool
  /-- `diskScanResult?.startupIdentifiers`. -/
  startupIdentifiers : Option (List String)
  /-- `snapshotAvailability.beforeAvailable`. -/
  beforeAvailable : Bool
  /-- `recoverySurvivalState?.status`. -/
  recoveryStatus : Option String
  /-- `protectedPartitionState?.status`. -/
  protectedStatus : Option String
  installTarget : Option InstallTarget
deriving DecidableEq, Repr

structure DiskMutationViewModel where
  safety : SafetyStatus
  target : String
  partitionMode : PartitionMode
  containerSize : String
  partitionSize : String
  volumeName : String
  confirmation : String
  planID : Option String
  planFile : Option String
  requiredConfirmation : Option String
  execution : Option CommandExecution
  isRunning : Bool
  plannedInputSignature : Option String
  refreshGeneration : Nat

/-- `containmentDefault`, and nothing known yet. -/
def SafetyStatus.initial : SafetyStatus := ⟨false, none, none, false, none, none, none⟩

namespace DiskMutationViewModel

def initial : DiskMutationViewModel where
  safety := .initial
  target := ""
  partitionMode := .auto
  containerSize := ""
  partitionSize := ""
  volumeName := "Jackrose"
  confirmation := ""
  planID := none
  planFile := none
  requiredConfirmation := none
  execution := none
  isRunning := false
  plannedInputSignature := none
  refreshGeneration := 0

section

variable (S : SwiftText) (vm : DiskMutationViewModel)

def inputSignature : String :=
  String.intercalate "\n"
    [vm.target, vm.partitionMode.rawValue, vm.containerSize, vm.partitionSize, vm.volumeName]

/-- `plannedInputSignature == inputSignature`. -/
def inSync : Bool :=
  vm.plannedInputSignature.any fun planned => S.canonEq planned vm.inputSignature

/-! ## Buttons -/

/-- `isSafeVolume`. -/
def isSafeVolume : Bool :=
  (vm.safety.installTarget.bind (·.classification)) = some "jackrose-volume"

def killSwitchPassed : Bool :=
  vm.isSafeVolume || vm.safety.destructiveInstallAllowed

def testModePassed : Bool :=
  vm.isSafeVolume || vm.safety.mutationTestEnabled = some true

/-- The confirmation matches the phrase that is required. -/
def confirmed (required : String) : Bool :=
  S.canonEq (Swift.trimmed required) (Swift.trimmed vm.confirmation)

def canPreview : Bool :=
  vm.killSwitchPassed && vm.planID.isSome && vm.planFile.isSome && vm.inSync S && vm.target ≠ ""

def canExecute : Bool :=
  vm.killSwitchPassed && vm.testModePassed && vm.canPreview S &&
    vm.requiredConfirmation.any fun required => vm.confirmed S required

def canCreatePlan : Bool :=
  vm.killSwitchPassed && vm.testModePassed && vm.safety.beforeAvailable &&
    vm.safety.recoveryStatus = some "passed" && vm.safety.protectedStatus = some "passed" &&
    (vm.safety.installTarget.map (·.status)) = some "passed" && vm.target ≠ "" && !vm.isRunning

/-! ## Blockers -/

/-- `if condition { blockers.append(text) }`. -/
def blocker (condition : Bool) (text : String) : List String := if condition then [text] else []

def createPlanBlockers : List String :=
  blocker (!vm.isSafeVolume && !vm.safety.destructiveInstallAllowed)
      "Installer test override is still disabled by DFU containment." ++
    blocker (!vm.isSafeVolume && vm.safety.mutationTestEnabled ≠ some true)
      "Controlled Mutation Test Mode is disabled." ++
    blocker (Swift.trimmed vm.target = "") "Select a target before creating a plan." ++
    blocker (vm.safety.beforeAvailable = false)
      "Capture a fresh pre-install disk snapshot first." ++
    blocker (vm.safety.recoveryStatus ≠ some "passed") "Recovery survival checks must pass first." ++
    blocker (vm.safety.protectedStatus ≠ some "passed")
      "Protected partition guard must pass first." ++
    blocker ((vm.safety.installTarget.map (·.status)) ≠ some "passed")
      ((vm.safety.installTarget.map (·.summary)).getD
        "The selected target is not approved as an install target.") ++
    blocker vm.isRunning "Another disk action is already running."

def validatePreviewBlockers : List String :=
  blocker (!vm.isSafeVolume && !vm.safety.destructiveInstallAllowed)
      "Installer test override is still disabled by DFU containment." ++
    blocker (vm.planID.isNone || vm.planFile.isNone)
      "Create a plan before validating the preview." ++
    blocker (!vm.inSync S) "The target or size inputs changed, so the plan must be recreated." ++
    blocker (Swift.trimmed vm.target = "") "Select a target before validating the preview."

def executeBlockers : List String :=
  blocker (!vm.isSafeVolume && !vm.safety.destructiveInstallAllowed)
      "Installer test override is still disabled by DFU containment." ++
    blocker (!vm.isSafeVolume && vm.safety.mutationTestEnabled ≠ some true)
      "Enable Mutation Test Mode before executing the disk change." ++
    blocker (!vm.canPreview S)
      "Validate the current preview before running the authenticated disk change." ++
    blocker (vm.requiredConfirmation.any fun required => !vm.confirmed S required)
      "Enter the exact confirmation phrase before executing the disk change." ++
    blocker vm.isRunning "Another disk action is already running."

/-! ## Buttons against blockers -/

/-- What a plan needs besides a target. -/
def planReady : Prop :=
  vm.killSwitchPassed = true ∧ vm.testModePassed = true ∧ vm.safety.beforeAvailable = true ∧
    vm.safety.recoveryStatus = some "passed" ∧ vm.safety.protectedStatus = some "passed" ∧
    vm.safety.installTarget.map (·.status) = some "passed" ∧ vm.isRunning = false

/-- What a preview needs besides a target. -/
def previewReady : Prop :=
  vm.killSwitchPassed = true ∧ vm.planID.isSome = true ∧ vm.planFile.isSome = true ∧
    vm.inSync S = true

/-- A target that is only white space is a target for the buttons and none for the
    blockers. -/
def BlankTarget : Prop := vm.target ≠ "" ∧ Swift.trimmed vm.target = ""

end

theorem blocker_eq_nil_iff {condition : Bool} {text : String} :
    blocker condition text = [] ↔ condition = false := by
  cases condition <;> simp [blocker]

section Agreement

variable {S : SwiftText} {vm : DiskMutationViewModel}

theorem killSwitchPassed_iff :
    vm.killSwitchPassed = true ↔
      (!vm.isSafeVolume && !vm.safety.destructiveInstallAllowed) = false := by
  rw [killSwitchPassed]
  cases vm.isSafeVolume <;> simp

theorem testModePassed_iff :
    vm.testModePassed = true ↔
      (!vm.isSafeVolume && decide (vm.safety.mutationTestEnabled ≠ some true)) = false := by
  rw [testModePassed]
  cases vm.isSafeVolume <;> simp

theorem canCreatePlan_iff : vm.canCreatePlan = true ↔ vm.planReady ∧ vm.target ≠ "" := by
  simp only [canCreatePlan, planReady, Bool.and_eq_true, decide_eq_true_eq, Bool.not_eq_true']
  grind

theorem createPlanBlockers_eq_nil_iff :
    vm.createPlanBlockers = [] ↔ vm.planReady ∧ Swift.trimmed vm.target ≠ "" := by
  simp only [createPlanBlockers, planReady, List.append_eq_nil_iff, blocker_eq_nil_iff,
    killSwitchPassed_iff, testModePassed_iff, decide_eq_false_iff_not, ne_eq, not_not,
    Bool.not_eq_false]
  grind

theorem canPreview_iff : vm.canPreview S = true ↔ vm.previewReady S ∧ vm.target ≠ "" := by
  simp only [canPreview, previewReady, Bool.and_eq_true, decide_eq_true_eq]
  grind

theorem validatePreviewBlockers_eq_nil_iff :
    vm.validatePreviewBlockers S = [] ↔ vm.previewReady S ∧ Swift.trimmed vm.target ≠ "" := by
  simp only [validatePreviewBlockers, previewReady, List.append_eq_nil_iff, blocker_eq_nil_iff,
    killSwitchPassed_iff, Bool.or_eq_false_iff, decide_eq_false_iff_not, Bool.not_eq_false',
    Option.isNone_eq_false_iff]
  grind

theorem canExecute_iff :
    vm.canExecute S = true ↔
      (vm.previewReady S ∧ vm.target ≠ "" ∧ vm.testModePassed = true) ∧
        ∃ required, vm.requiredConfirmation = some required ∧ vm.confirmed S required = true := by
  simp only [canExecute, Bool.and_eq_true, canPreview_iff, Option.any_eq_true, previewReady]
  grind

theorem executeBlockers_eq_nil_iff :
    vm.executeBlockers S = [] ↔
      (vm.previewReady S ∧ vm.target ≠ "" ∧ vm.testModePassed = true) ∧
        (∀ required, vm.requiredConfirmation = some required → vm.confirmed S required = true) ∧
          vm.isRunning = false := by
  have hconfirmed : (vm.requiredConfirmation.any fun required => !vm.confirmed S required) = false ↔
      ∀ required, vm.requiredConfirmation = some required → vm.confirmed S required = true := by
    cases vm.requiredConfirmation <;> simp
  simp only [executeBlockers, List.append_eq_nil_iff, blocker_eq_nil_iff, ← killSwitchPassed_iff,
    ← testModePassed_iff, Bool.not_eq_false', canPreview_iff, hconfirmed, previewReady]
  grind

end Agreement

/-- Nothing is left open between a button and its blockers: a blank target stands
    only where the rest is missing too, and an execution that waits for nothing but
    its confirmation has a phrase, or else runs, and once confirmed does not run. -/
structure Decided (S : SwiftText) (vm : DiskMutationViewModel) : Prop where
  target : vm.BlankTarget → ¬ vm.planReady ∧ ¬ vm.previewReady S
  phrase : vm.previewReady S ∧ vm.target ≠ "" ∧ vm.testModePassed = true →
    (vm.requiredConfirmation = none → vm.isRunning = true) ∧
      ∀ required, vm.requiredConfirmation = some required → vm.confirmed S required = true →
        vm.isRunning = false

section Agreement

variable {S : SwiftText} {vm : DiskMutationViewModel}

theorem trimmed_ne_iff : Swift.trimmed vm.target ≠ "" ↔ vm.target ≠ "" ∧ ¬ vm.BlankTarget := by
  have hempty : Swift.trimmed vm.target ≠ "" → vm.target ≠ "" := by
    intro h htarget
    rw [htarget] at h
    exact h Swift.trimmed_empty
  rw [BlankTarget]
  grind

/-- Two conjunctions that differ in how they ask for a target. -/
theorem target_iff (ready : Prop) :
    (ready ∧ vm.target ≠ "" ↔ ready ∧ Swift.trimmed vm.target ≠ "") ↔ (vm.BlankTarget → ¬ ready) := by
  rw [trimmed_ne_iff]
  constructor
  · intro h hblank hready
    exact (h.mp ⟨hready, hblank.1⟩).2.2 hblank
  · intro h
    exact ⟨fun ⟨hready, htarget⟩ => ⟨hready, htarget, fun hblank => h hblank hready⟩,
      fun ⟨hready, htarget, _⟩ => ⟨hready, htarget⟩⟩

theorem canExecute_matches_iff :
    (vm.canExecute S = true ↔ vm.executeBlockers S = []) ↔
      (vm.previewReady S ∧ vm.target ≠ "" ∧ vm.testModePassed = true →
        (vm.requiredConfirmation = none → vm.isRunning = true) ∧
          ∀ required, vm.requiredConfirmation = some required → vm.confirmed S required = true →
            vm.isRunning = false) := by
  rw [canExecute_iff, executeBlockers_eq_nil_iff]
  generalize (vm.previewReady S ∧ vm.target ≠ "" ∧ vm.testModePassed = true) = ready
  cases vm.requiredConfirmation with
  | none => cases vm.isRunning <;> simp
  | some required => cases hconf : vm.confirmed S required <;> cases vm.isRunning <;> simp [hconf]

end Agreement

/-- The buttons are enabled exactly when their blocker lists are empty, in the
states that leave neither the target nor the confirmation open. -/
theorem buttons_match_blockers_iff (S : SwiftText) (vm : DiskMutationViewModel) :
    ((vm.canCreatePlan = true ↔ vm.createPlanBlockers = []) ∧
        (vm.canPreview S = true ↔ vm.validatePreviewBlockers S = []) ∧
        (vm.canExecute S = true ↔ vm.executeBlockers S = [])) ↔
      vm.Decided S := by
  rw [canExecute_matches_iff, canCreatePlan_iff, createPlanBlockers_eq_nil_iff, canPreview_iff,
    validatePreviewBlockers_eq_nil_iff, target_iff, target_iff]
  constructor
  · rintro ⟨hplan, hpreview, hphrase⟩
    exact ⟨fun hblank => ⟨hplan hblank, hpreview hblank⟩, hphrase⟩
  · rintro ⟨htarget, hphrase⟩
    exact ⟨fun hblank => (htarget hblank).1, fun hblank => (htarget hblank).2, hphrase⟩

/-- Everything passed, and the target is a blank. -/
def blankTarget : DiskMutationViewModel :=
  { initial with
    safety := ⟨true, some true, none, true, some "passed", some "passed",
      some ⟨"passed", "", none, none⟩⟩
    target := " " }

/-- A blank enables the button and fills the list. -/
theorem blank_target_blocked_and_enabled :
    ¬ ∀ (S : SwiftText) (vm : DiskMutationViewModel),
      (vm.canCreatePlan = true ↔ vm.createPlanBlockers = []) ∧
        (vm.canPreview S = true ↔ vm.validatePreviewBlockers S = []) ∧
        (vm.canExecute S = true ↔ vm.executeBlockers S = []) := by
  intro h
  have hcreate := (h SwiftText.scalars blankTarget).1
  exact absurd (hcreate.mp (by decide +kernel)) (by decide +kernel)

/-! ## Actions -/

/-- `object[key] as? String`. -/
def field (object : Dict) (key : String) : Option String := strAt object key

section

variable (S : SwiftText) (vm : DiskMutationViewModel)

def planArguments : List String :=
  ["--mode", "install", "--target", vm.target, "--partition-mode", vm.partitionMode.rawValue,
    "--volume-name", vm.volumeName, "--json"] ++
  if vm.partitionMode = .custom then
    ["--container-size", vm.containerSize, "--partition-size", vm.partitionSize]
  else []

/-- The result of a script: what `run` leaves in `execution`. -/
structure Answer where
  status : String
  object : Option Dict

/-- `run(repositoryPath:command:arguments:)`. -/
def run (command : String) (arguments : List String) (answer : Answer) : DiskMutationViewModel :=
  { vm with execution := some ⟨command, arguments, answer.status, answer.object⟩, isRunning := false }

/-- The answer of a planner that passed. -/
def Answer.passed (answer : Answer) : Option Dict :=
  if answer.status = "pass" then answer.object else none

/-- The sizes of the form after a plan: the resolved ones, except in the custom mode. -/
def resolveSizes (object : Dict) : DiskMutationViewModel :=
  if vm.partitionMode = .custom then vm
  else
    { vm with
      containerSize := (field object "container_size").getD vm.containerSize
      partitionSize := (field object "partition_size").getD vm.partitionSize }

def createPlan (answer : Answer) : DiskMutationViewModel :=
  let vm := vm.run "scripts/jackrose-app-disk-plan" vm.planArguments answer
  match answer.passed with
  | none => { vm with planID := none, requiredConfirmation := none }
  | some object =>
      let vm :=
        { vm with
          planID := field object "plan_id"
          planFile := field object "plan_file"
          requiredConfirmation := field object "required_confirmation"
          plannedInputSignature := some vm.inputSignature }
      { vm.resolveSizes object with confirmation := "" }

/-- A refresh in the background; it ends with `refreshed`. -/
def refreshSafetyStatus : DiskMutationViewModel :=
  { vm with refreshGeneration := vm.refreshGeneration + 1 }

def refreshed (generation : Nat) (status : SafetyStatus) : DiskMutationViewModel :=
  if generation = vm.refreshGeneration then { vm with safety := status } else vm

def helperArguments (planID : String) : List String :=
  match vm.planFile with
  | none => []
  | some planFile =>
      ["--operation", "partition-create", "--target", vm.target,
        "--container-size", vm.containerSize, "--partition-size", vm.partitionSize,
        "--volume-name", vm.volumeName, "--plan-id", planID, "--plan", planFile,
        "--signature", planFile ++ ".sig.json",
        "--confirmation-file", planFile ++ ".confirmation.json", "--dry-run", "--json"]

def preview (answer : Answer) : DiskMutationViewModel :=
  match vm.planID with
  | none => vm
  | some planID =>
      (vm.run "scripts/jackrose-app-helper-command" (vm.helperArguments planID)
        answer).refreshSafetyStatus

/-- `execute`; the confirmation service has answered with `passed` or not. -/
def execute (confirmationPassed : Bool) (answer : Answer) : DiskMutationViewModel :=
  match vm.planID, vm.planFile with
  | some _, some planFile =>
      if confirmationPassed then
        (vm.run "scripts/jackrose-app-mutation-execute-test"
          ["--plan", planFile, "--signature", planFile ++ ".sig.json",
            "--confirmation", planFile ++ ".confirmation.json", "--json"] answer).refreshSafetyStatus
      else vm
  | _, _ => vm

def selectTarget (targetID : String) : DiskMutationViewModel :=
  { vm with target := targetID }.refreshSafetyStatus

def startupTargetIdentifier : Option String :=
  match vm.safety.installTarget.bind (·.target) with
  | some selected =>
      if selected ≠ "" then some selected else vm.safety.startupIdentifiers.bind (·.head?)
  | none => vm.safety.startupIdentifiers.bind (·.head?)

def selectStartupTarget : DiskMutationViewModel :=
  match vm.startupTargetIdentifier with
  | none => vm
  | some targetID => vm.selectTarget targetID

/-- The end of `detectStartupStore`, started while the target was empty. -/
def detectedStartupStore (identifier : String) : DiskMutationViewModel :=
  if vm.target = "" then { vm with target := identifier }.refreshSafetyStatus else vm

/-- `resolveCreatePlanBlockers`: a blank target is filled in, the guided actions run
    and the status is read again; `scan` is what the disk scan finds. -/
def resolveCreatePlanBlockers (scan : Option (List String)) (status : SafetyStatus) :
    DiskMutationViewModel :=
  let target :=
    if Swift.trimmed vm.target = "" then (scan.bind (·.head?)).getD vm.target else vm.target
  { vm with target, safety := status, isRunning := false }

/-- The end of `refreshKillSwitch`. -/
def refreshedKillSwitch (allowed : Bool) (mode : Option Bool) : DiskMutationViewModel :=
  { vm with
    safety := { vm.safety with destructiveInstallAllowed := allowed, mutationTestEnabled := mode } }

/-- `runGuidedAction`. -/
def runGuidedAction : DiskMutationViewModel :=
  { vm.refreshSafetyStatus with isRunning := false }

inductive Action where
  | editTarget (text : String)
  | choosePartitionMode (mode : PartitionMode)
  | editContainerSize (text : String)
  | editPartitionSize (text : String)
  | editVolumeName (text : String)
  | editConfirmation (text : String)
  | selectTarget (targetID : String)
  | selectStartupTarget
  | createPlan (answer : Answer)
  | preview (answer : Answer)
  | execute (confirmationPassed : Bool) (answer : Answer)
  | refreshSafetyStatus
  | refreshed (generation : Nat) (status : SafetyStatus)
  | refreshedKillSwitch (allowed : Bool) (mode : Option Bool)
  | runGuidedAction
  | detectedStartupStore (identifier : String)
  | resolveCreatePlanBlockers (scan : Option (List String)) (status : SafetyStatus)

def step : Action → DiskMutationViewModel
  | .editTarget text => { vm with target := text }.refreshSafetyStatus
  | .choosePartitionMode mode => { vm with partitionMode := mode }
  | .editContainerSize text => { vm with containerSize := text }
  | .editPartitionSize text => { vm with partitionSize := text }
  | .editVolumeName text => { vm with volumeName := text }
  | .editConfirmation text => { vm with confirmation := text }
  | .selectTarget targetID => vm.selectTarget targetID
  | .selectStartupTarget => vm.selectStartupTarget
  | .createPlan answer => vm.createPlan answer
  | .preview answer => vm.preview answer
  | .execute confirmationPassed answer => vm.execute confirmationPassed answer
  | .refreshSafetyStatus => vm.refreshSafetyStatus
  | .refreshed generation status => vm.refreshed generation status
  | .refreshedKillSwitch allowed mode => vm.refreshedKillSwitch allowed mode
  | .runGuidedAction => vm.runGuidedAction
  | .detectedStartupStore identifier => vm.detectedStartupStore identifier
  | .resolveCreatePlanBlockers scan status => vm.resolveCreatePlanBlockers scan status

/-- The user changes target, mode, sizes or volume name. -/
def Action.changesInputs : Action → Bool
  | .editTarget _ | .choosePartitionMode _ | .editContainerSize _ | .editPartitionSize _
  | .editVolumeName _ | .selectTarget _ | .selectStartupTarget => true
  | _ => false

/-! ## The plan and its inputs -/

/-- The size lines of the signature. -/
def sizeLines : String := vm.containerSize ++ "\n" ++ vm.partitionSize

/-- The planner returns status `pass` with a plan id and a plan file. -/
def Answer.succeeds (answer : Answer) : Bool :=
  answer.passed.any fun object => (field object "plan_id").isSome && (field object "plan_file").isSome

/-- The plan keeps the sizes of the form: the custom mode, or an answer that reports
    the sizes the form had. -/
def KeepsSizes (answer : Answer) : Prop :=
  vm.partitionMode = .custom ∨
    ∀ object, answer.passed = some object →
      S.canonEq vm.sizeLines (vm.resolveSizes object).sizeLines = true

/-- Nothing but the user changes the inputs: a plan made meanwhile keeps the sizes,
    and no startup disk is filled in for a missing target. -/
def LeavesInputs : Action → Prop
  | .createPlan answer => KeepsSizes S vm answer
  | .detectedStartupStore _ => vm.target ≠ ""
  | .resolveCreatePlanBlockers scan _ => Swift.trimmed vm.target ≠ "" ∨ scan.bind (·.head?) = none
  | action => action.changesInputs = false

/-- Canonical equivalence is decided line by line: a line feed neither decomposes nor
    takes part in a composition. -/
def ComparesLines : Prop :=
  ∀ before lines lines' after : String,
    S.canonEq (before ++ "\n" ++ lines ++ "\n" ++ after) (before ++ "\n" ++ lines' ++ "\n" ++ after) =
      S.canonEq lines lines'

end

section Sync

variable {S : SwiftText} {vm vm' : DiskMutationViewModel} {answer : Answer}

theorem inputSignature_eq (vm : DiskMutationViewModel) :
    vm.inputSignature =
      (vm.target ++ "\n" ++ vm.partitionMode.rawValue) ++ "\n" ++ vm.sizeLines ++ "\n" ++
        vm.volumeName := by
  simp [inputSignature, sizeLines, String.append_assoc]

/-- Forms that differ in their sizes only are told apart by them. -/
theorem canonEq_inputSignature (hS : ComparesLines S) (htarget : vm.target = vm'.target)
    (hmode : vm.partitionMode = vm'.partitionMode) (hvolume : vm.volumeName = vm'.volumeName) :
    S.canonEq vm.inputSignature vm'.inputSignature = S.canonEq vm.sizeLines vm'.sizeLines := by
  rw [inputSignature_eq, inputSignature_eq, htarget, hmode, hvolume]
  exact hS _ _ _ _

theorem inSync_congr (hplanned : vm'.plannedInputSignature = vm.plannedInputSignature)
    (hsignature : vm'.inputSignature = vm.inputSignature) : vm'.inSync S = vm.inSync S := by
  rw [inSync, inSync, hplanned, hsignature]

theorem resolveSizes_keeps (vm : DiskMutationViewModel) (object : Dict) :
    (vm.resolveSizes object).target = vm.target ∧
      (vm.resolveSizes object).partitionMode = vm.partitionMode ∧
      (vm.resolveSizes object).volumeName = vm.volumeName ∧
      (vm.resolveSizes object).plannedInputSignature = vm.plannedInputSignature := by
  rw [resolveSizes]
  split
  · exact ⟨rfl, rfl, rfl, rfl⟩
  · exact ⟨rfl, rfl, rfl, rfl⟩

/-- A plan that passed is in sync when the sizes it leaves are those it was made for. -/
theorem inSync_createPlan (hS : ComparesLines S) {object : Dict} (h : answer.passed = some object) :
    (vm.createPlan answer).inSync S = S.canonEq vm.sizeLines (vm.resolveSizes object).sizeLines := by
  obtain ⟨htarget, hmode, hvolume, -⟩ := resolveSizes_keeps vm object
  have hplanned : (vm.createPlan answer).plannedInputSignature = some vm.inputSignature := by
    rw [createPlan, h]
    exact (resolveSizes_keeps _ object).2.2.2
  have hsignature : (vm.createPlan answer).inputSignature = (vm.resolveSizes object).inputSignature := by
    rw [createPlan, h]
    unfold resolveSizes
    dsimp only [run]
    split
    · rfl
    · rfl
  rw [inSync, hplanned, hsignature, Option.any_some]
  exact canonEq_inputSignature hS htarget.symm hmode.symm hvolume.symm

theorem inSync_createPlan_iff (hS : ComparesLines S) (h : answer.passed.isSome = true) :
    (vm.createPlan answer).inSync S = true ↔ KeepsSizes S vm answer := by
  obtain ⟨object, hobject⟩ := Option.isSome_iff_exists.mp h
  rw [inSync_createPlan hS hobject, KeepsSizes]
  constructor
  · intro hsizes
    right
    intro object' hobject'
    rw [hobject] at hobject'
    rw [← Option.some.inj hobject']
    exact hsizes
  · rintro (hcustom | hsizes)
    · rw [resolveSizes, if_pos hcustom]
      exact S.canonEq_refl _
    · exact hsizes object hobject

theorem createPlan_of_failed (h : answer.passed = none) :
    (vm.createPlan answer).inSync S = vm.inSync S := by
  rw [createPlan, h]
  exact inSync_congr rfl rfl

/-- An action that leaves the inputs alone leaves the plan in sync. -/
theorem inSync_step (hS : ComparesLines S) {action : Action} (h : vm.inSync S = true)
    (hleaves : LeavesInputs S vm action) : (vm.step action).inSync S = true := by
  cases action with
  | createPlan answer =>
    rw [step]
    cases hpassed : answer.passed with
    | none =>
      rw [createPlan_of_failed hpassed]
      exact h
    | some object =>
      exact (inSync_createPlan_iff hS (by rw [hpassed]; rfl)).mpr hleaves
  | detectedStartupStore identifier =>
    have htarget : vm.target ≠ "" := hleaves
    rw [step, detectedStartupStore, if_neg htarget]
    exact h
  | resolveCreatePlanBlockers scan status =>
    have htarget : (if Swift.trimmed vm.target = "" then (scan.bind (·.head?)).getD vm.target
        else vm.target) = vm.target := by
      rcases hleaves with hblank | hscan
      · rw [if_neg hblank]
      · rw [hscan, Option.getD_none, ite_self]
    rw [step, resolveCreatePlanBlockers, htarget]
    exact h
  | preview answer =>
    rw [step, preview]
    split
    · exact h
    · exact h
  | execute confirmationPassed answer =>
    rw [step, execute]
    split
    · split
      · exact h
      · exact h
    · exact h
  | refreshed generation status =>
    rw [step, refreshed]
    split
    · exact h
    · exact h
  | editConfirmation text => exact h
  | refreshSafetyStatus => exact h
  | refreshedKillSwitch allowed mode => exact h
  | runGuidedAction => exact h
  | editTarget text | choosePartitionMode mode | editContainerSize text | editPartitionSize text
  | editVolumeName text | selectTarget targetID | selectStartupTarget => cases hleaves

end Sync

/-- `step` as the step of a run. -/
def acts (vm : DiskMutationViewModel) (action : Action) : Option DiskMutationViewModel :=
  some (vm.step action)

/-- A plan that succeeds is in sync with the form, and stays so while nothing changes
the inputs, exactly when it keeps the sizes of the form. -/
theorem plan_stays_in_sync_iff {S : SwiftText} (hS : ComparesLines S) (vm : DiskMutationViewModel)
    {answer : Answer} (hsucceeds : answer.succeeds = true) :
    ((vm.createPlan answer).inSync S = true ∧
        ∀ (actions : List Action) (vm' : DiskMutationViewModel),
          StepsMeet acts (LeavesInputs S) (vm.createPlan answer) actions →
            Cidre.Run.run acts (vm.createPlan answer) actions = some vm' → vm'.inSync S = true) ↔
      KeepsSizes S vm answer := by
  have hpassed : answer.passed.isSome = true := by
    rw [Answer.succeeds, Option.any_eq_true] at hsucceeds
    obtain ⟨object, hobject, -⟩ := hsucceeds
    rw [hobject]
    rfl
  constructor
  · rintro ⟨hsync, -⟩
    exact (inSync_createPlan_iff hS hpassed).mp hsync
  · intro hkeeps
    have hsync := (inSync_createPlan_iff hS hpassed).mpr hkeeps
    refine ⟨hsync, fun actions vm' hmeet hrun => ?_⟩
    have hstep : ∀ (vm : DiskMutationViewModel) (action : Action) (vm' : DiskMutationViewModel),
        vm.inSync S = true → LeavesInputs S vm action → acts vm action = some vm' →
          vm'.inSync S = true := by
      intro vm action vm' h hleaves hacts
      rw [← Option.some.inj hacts]
      exact inSync_step hS h hleaves
    exact run_invariant_of_steps hstep hmeet hrun hsync

theorem scalars_comparesLines : ComparesLines SwiftText.scalars := by
  intro before lines lines' after
  show (_ == _) = (_ == _)
  rw [Bool.eq_iff_iff, beq_iff_eq, beq_iff_eq, ← String.toList_inj, ← String.toList_inj]
  simp

/-- The form for the startup disk, with no sizes in it yet. -/
def startupForm (mode : PartitionMode) : DiskMutationViewModel :=
  { initial with target := "disk0s2", partitionMode := mode }

/-- What the planner prints for it. -/
def plannerAnswer : Answer where
  status := "pass"
  object := some
    [("plan_id", .str "2f5c"), ("plan_file", .str "plan.json"),
      ("container_size", .str "400000000000B"), ("partition_size", .str "100000000000B")]

/-- In the custom mode the plan is in sync, and a preview leaves it so. -/
theorem custom_plan_stays_in_sync :
    (((startupForm .custom).createPlan plannerAnswer).preview plannerAnswer).inSync
      SwiftText.scalars = true := by
  have hstays := (plan_stays_in_sync_iff scalars_comparesLines (startupForm .custom)
    (by decide +kernel : plannerAnswer.succeeds = true)).mpr (Or.inl rfl)
  exact hstays.2 [.preview plannerAnswer] _ ⟨rfl, fun _ _ => trivial⟩ rfl

/-- In the automatic mode the resolved sizes replace the empty ones, and the plan is
out of date as soon as it is made. -/
theorem automatic_plan_out_of_sync :
    ¬ ∀ (S : SwiftText) (vm : DiskMutationViewModel) (answer : Answer), answer.succeeds = true →
      (vm.createPlan answer).inSync S = true := by
  intro h
  have hsync := h SwiftText.scalars (startupForm .auto) plannerAnswer (by decide +kernel)
  exact absurd hsync (by decide +kernel)

end DiskMutationViewModel

end Cidre.Disk
