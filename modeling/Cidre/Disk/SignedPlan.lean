/-
  Cidre.Disk.SignedPlan

  What was signed against what runs: the front end of `HelperCommand` followed
  by the helper of `Helper`.  The sizes and the volume name of the command come
  from the command line, and nothing compares them with the plan file, so they
  are the plan's exactly when the command line repeats the plan.
-/

import Cidre.Disk.Authorization
import Cidre.Disk.HelperCommand

namespace Cidre.Disk

open Partial

/-! ## From a request to its command -/

/-- The command an operation and its arguments stand for. -/
def commandOf : Operation → String → List String → Option DiskCommand
  | .partitionCreate, target, [containerSize, volumeName, partitionSize] =>
      some (.partitionCreate target containerSize volumeName partitionSize)
  | .apfsAddVolume, target, [filesystem, volumeName] =>
      some (.addVolume target filesystem volumeName)
  | .apfsResizeContainer, target, [containerSize] => some (.resizeContainer target containerSize)
  | .apfsDeleteVolume, target, [] => some (.deleteVolume target)
  | .partitionDelete, target, [] => some (.eraseVolume target)
  | _, _, _ => none

/-- Validation chooses nothing: the command is read off the request. -/
theorem buildCommand_ok {S : SwiftText} {m : Machine} {request : HelperRequest} {target : String}
    {command : DiskCommand} (h : buildCommand S m request target = .ok command) :
    commandOf (Operation.ofName request.operation) target request.arguments = some command := by
  unfold buildCommand at h
  split at h
  · rename_i containerSize volumeName partitionSize hop hargs
    simp only [bind_eq_ok] at h
    obtain ⟨_, -, _, -, _, -, _, -, h⟩ := h
    rw [hop, hargs, commandOf, pure_eq_ok.mp h]
  · exact absurd h throw_ne_ok
  · rename_i filesystem volumeName hop hargs
    simp only [bind_eq_ok] at h
    obtain ⟨_, -, _, -, h⟩ := h
    rw [hop, hargs, commandOf, pure_eq_ok.mp h]
  · exact absurd h throw_ne_ok
  · rename_i containerSize hop hargs
    simp only [bind_eq_ok] at h
    obtain ⟨_, -, _, -, _, -, h⟩ := h
    rw [hop, hargs, commandOf, pure_eq_ok.mp h]
  · exact absurd h throw_ne_ok
  · rename_i arguments hop
    simp only [bind_eq_ok] at h
    obtain ⟨_, hguard, _, -, h⟩ := h
    rw [hop, (ensure_eq_ok.mp hguard).2, commandOf, pure_eq_ok.mp h]
  · rename_i arguments hop
    simp only [bind_eq_ok] at h
    obtain ⟨_, hguard, _, -, h⟩ := h
    rw [hop, (ensure_eq_ok.mp hguard).2, commandOf, pure_eq_ok.mp h]
  · exact absurd h throw_ne_ok

theorem argv_injective : Function.Injective DiskCommand.argv := by
  intro c d h
  cases c <;> cases d <;> simp_all [DiskCommand.argv]

theorem argv_ne_nil (c : DiskCommand) : c.argv ≠ [] := by
  cases c <;> simp [DiskCommand.argv]

theorem runCommand_command {m : Machine} {dryRun : Bool} {target : String} {c d : DiskCommand}
    (h : (runCommand m dryRun target c).result.command = d.argv) : c = d := by
  have hargv : c.argv = d.argv := by
    unfold runCommand at h
    split at h
    · exact absurd h.symm (argv_ne_nil d)
    · split at h
      · exact h
      · split at h
        · exact h
        · exact h
  exact argv_injective hargv

/-- An uninstall request of the front end has no arguments and is rejected. -/
theorem executeJackroseUninstall_nil {S : SwiftText} {m : Machine} {request : HelperRequest}
    {target : String} (h : request.arguments = []) :
    (executeJackroseUninstall S m request target).result.command = [] := by
  rw [executeJackroseUninstall]
  rw [h]
  rfl

/-- The command the helper builds from a request of the front end. -/
theorem execute_buildRequest {S : SwiftText} {sha256 : Bytes → String} {m : Machine} {a : Args}
    {command : DiskCommand}
    (h : (execute S sha256 m (buildRequest a)).result.command = command.argv) :
    commandOf (Operation.ofName a.operation) a.target (helperArguments a) = some command := by
  rcases execute_cases S sha256 m (buildRequest a) with
    ⟨message, hrej⟩ | ⟨target, hacc, ⟨hop, hun⟩ | ⟨c, hc, hrun⟩⟩
  · rw [hrej] at h
    exact absurd h.symm (argv_ne_nil command)
  · have hop' : Operation.ofName a.operation = .jackroseUninstall := hop
    have hargs : (buildRequest a).arguments = [] := by
      show helperArguments a = []
      rw [helperArguments, hop']
    rw [hun, executeJackroseUninstall_nil hargs] at h
    exact absurd h.symm (argv_ne_nil command)
  · rw [hrun] at h
    have htarget : target = a.target := (Option.some.inj hacc.hasTarget).symm
    rw [← runCommand_command h, ← htarget]
    exact buildCommand_ok hc

/-! ## Recorded in the plan -/

/-- The target, sizes and volume name of the command are those of the plan. -/
def RecordedIn (plan : Json) : DiskCommand → Prop
  | .partitionCreate target containerSize volumeName partitionSize =>
      plan.get "target" = some (.str target) ∧
      plan.get "container_size" = some (.str containerSize) ∧
      plan.get "partition_size" = some (.str partitionSize) ∧
      plan.get "volume_name" = some (.str volumeName)
  | .addVolume target _ volumeName =>
      plan.get "target" = some (.str target) ∧ plan.get "volume_name" = some (.str volumeName)
  | .resizeContainer target containerSize =>
      plan.get "target" = some (.str target) ∧
      plan.get "container_size" = some (.str containerSize)
  | .deleteVolume target | .eraseVolume target => plan.get "target" = some (.str target)

/-- The options that reach the command are the values in the plan. -/
structure OptionsRecorded (plan : Json) (a : Args) : Prop where
  containerSize :
    Operation.ofName a.operation = .partitionCreate ∨
      Operation.ofName a.operation = .apfsResizeContainer →
    plan.get "container_size" = some (.str a.containerSize)
  partitionSize : Operation.ofName a.operation = .partitionCreate →
    plan.get "partition_size" = some (.str a.partitionSize)
  volumeName :
    Operation.ofName a.operation = .partitionCreate ∨
      Operation.ofName a.operation = .apfsAddVolume →
    plan.get "volume_name" = some (.str a.volumeName)

/-- For a command built from the options, the plan records the command exactly
    when it records the target and the options. -/
theorem recordedIn_iff {a : Args} {plan : Json} {command : DiskCommand}
    (h : commandOf (Operation.ofName a.operation) a.target (helperArguments a) = some command) :
    RecordedIn plan command ↔
      plan.get "target" = some (.str a.target) ∧ OptionsRecorded plan a := by
  have hrec : OptionsRecorded plan a ↔
      ((Operation.ofName a.operation = .partitionCreate ∨
          Operation.ofName a.operation = .apfsResizeContainer →
        plan.get "container_size" = some (.str a.containerSize)) ∧
      (Operation.ofName a.operation = .partitionCreate →
        plan.get "partition_size" = some (.str a.partitionSize)) ∧
      (Operation.ofName a.operation = .partitionCreate ∨
          Operation.ofName a.operation = .apfsAddVolume →
        plan.get "volume_name" = some (.str a.volumeName))) :=
    ⟨fun r => ⟨r.1, r.2, r.3⟩, fun r => ⟨r.1, r.2.1, r.2.2⟩⟩
  rw [hrec]
  unfold helperArguments at h
  cases hop : Operation.ofName a.operation <;> rw [hop] at h <;>
    simp only [commandOf, Option.some.injEq, reduceCtorEq] at h <;> subst h <;>
    simp [RecordedIn]

/-! ## What was signed is what runs -/

/-- The command is the one recorded in the signed plan file. -/
def RunsSignedPlan (env : Env) (a : Args) (command : DiskCommand) : Prop :=
  ∃ planBytes plan, PlanSigned env.py env.files a.planPath a.signaturePath planBytes plan ∧
    RecordedIn plan command

/-- The command line repeats the plan file; for the deletion of a partition, for
    which nothing else looks at the plan, the plan must also be signed and have
    the target of the command line. -/
def RepeatsPlan (env : Env) (a : Args) : Prop :=
  ∃ planBytes plan, env.files.read a.planPath = some planBytes ∧
    env.py.loads planBytes = some plan ∧ OptionsRecorded plan a ∧
    (Operation.ofName a.operation = .partitionDelete →
      PlanSigned env.py env.files a.planPath a.signaturePath planBytes plan ∧
        plan.get "target" = some (.str a.target))

/-- The operations a command is built for are gated, or delete a partition. -/
theorem commandOf_gated {op : Operation} {target : String} {arguments : List String}
    {command : DiskCommand} (h : commandOf op target arguments = some command)
    (hop : op ≠ .partitionDelete) : gatedOperation op = true ∧ op ≠ .controlledInstall := by
  cases op <;> simp_all [commandOf, gatedOperation]

/-- A live invocation whose request makes the helper build `command` runs what
    the signed plan records, exactly when its command line repeats the plan. -/
theorem runs_signed_plan_iff {env : Env} {argv : List String} {h : Handover} {S : SwiftText}
    {m : Machine} {command : DiskCommand} (hok : helperCommand env argv = .ok h)
    (_hlive : h.request.dryRun = false)
    (hrun : (execute S env.py.sha256 m h.request).result.command = command.argv) :
    RunsSignedPlan env h.args command ↔ RepeatsPlan env h.args := by
  obtain ⟨hgate, -, hreq⟩ := helperCommand_ok hok
  rw [hreq] at hrun
  have hcommand := execute_buildRequest hrun
  have hiff := fun plan => @recordedIn_iff h.args plan command hcommand
  constructor
  · rintro ⟨planBytes, plan, hsigned, hrec⟩
    obtain ⟨htarget, hoptions⟩ := (hiff plan).mp hrec
    exact ⟨planBytes, plan, hsigned.bytes, hsigned.parsed, hoptions, fun _ => ⟨hsigned, htarget⟩⟩
  · rintro ⟨planBytes, plan, hbytes, hparsed, hoptions, hdelete⟩
    by_cases hop : Operation.ofName h.args.operation = .partitionDelete
    · obtain ⟨hsigned, htarget⟩ := hdelete hop
      exact ⟨planBytes, plan, hsigned, (hiff plan).mpr ⟨htarget, hoptions⟩⟩
    · obtain ⟨hgated, hinstall⟩ := commandOf_gated hcommand hop
      obtain ⟨-, hchecks⟩ := gateBlock_gated hgated hgate
      obtain ⟨planBytes₁, plan₁, hsigned⟩ := checkPlanVerify_ok hinstall hchecks.planVerify
      obtain ⟨planBytes₂, plan₂, hconf⟩ := checkConfirmation_ok hchecks.confirmation
      obtain rfl : planBytes₁ = planBytes := Option.some.inj (hsigned.bytes.symm.trans hbytes)
      obtain rfl : planBytes₂ = planBytes₁ := Option.some.inj (hconf.bytes.symm.trans hbytes)
      obtain rfl : plan₁ = plan := Option.some.inj (hsigned.parsed.symm.trans hparsed)
      obtain rfl : plan₂ = plan₁ := Option.some.inj (hconf.parsed.symm.trans hparsed)
      exact ⟨planBytes₂, plan₂, hsigned, (hiff plan₂).mpr ⟨hconf.target, hoptions⟩⟩

set_option maxRecDepth 8000 in
/-- The resize to the signed size runs what was signed. -/
theorem runs_signed_plan_resize :
    RunsSignedPlan openEnv resizeHandover.args (.resizeContainer "disk3" "1G") :=
  (@runs_signed_plan_iff openEnv resizeArgv resizeHandover SwiftText.scalars resizableMachine
    (.resizeContainer "disk3" "1G") rfl rfl rfl).mpr
    ⟨encode resizePlanText, resizePlan, rfl, rfl,
      ⟨fun _ => rfl, fun h => absurd h (by decide), fun h => absurd h (by decide)⟩,
      fun h => absurd h (by decide)⟩

/-- The signed plan with another size on the command line. -/
def otherSizeArgv : List String :=
  ["--operation", "apfs-resize-container", "--target", "disk3", "--container-size", "2G",
    "--plan", "plan.json", "--confirmation-file", "confirmation.json",
    "--confirm", "JACKROSE EXECUTE p1"]

theorem openEnv_plan {planBytes : Bytes} {plan : Json} {signaturePath : String}
    (h : PlanSigned openEnv.py openEnv.files "plan.json" signaturePath planBytes plan) :
    plan = resizePlan := by
  obtain rfl : encode resizePlanText = planBytes := Option.some.inj h.bytes
  exact (Option.some.inj h.parsed).symm

set_option maxRecDepth 8000 in
/-- Every gate passes, and the container is resized to 2 GB where the signed
    plan says 1 GB. -/
theorem unsigned_size_runs :
    ∃ h, helperCommand openEnv otherSizeArgv = .ok h ∧ h.request.dryRun = false ∧
      (execute SwiftText.scalars openEnv.py.sha256 resizableMachine h.request).result.command =
        (DiskCommand.resizeContainer "disk3" "2G").argv ∧
      ¬RunsSignedPlan openEnv h.args (.resizeContainer "disk3" "2G") := by
  refine ⟨_, rfl, rfl, rfl, ?_⟩
  rintro ⟨planBytes, plan, hsigned, hrec⟩
  rw [openEnv_plan hsigned] at hrec
  have hsize : resizePlan.get "container_size" = some (.str "2G") := hrec.2
  simp [resizePlan, Json.field] at hsize

end Cidre.Disk
