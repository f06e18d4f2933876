/-
  Cidre.Uninstall.Review

  The three scripts of the uninstall flow that meet in one state file, as
  functions on the files they read and write:

  - `recordExport`, the last call of jackrose-uninstall-state that
    jackrose-uninstall-export makes;
  - `scanTargets` and `recordScan`, the classification and the stage update of
    jackrose-uninstall-target-scan;
  - `review`, all of jackrose-uninstall-target-review.

  A file that is missing is `none`.  The timestamp of the state file and the
  review report are left out: no script of the flow reads them back.
-/

import Cidre.Lib.Pattern

namespace Cidre.Uninstall

open Cidre.Pattern

/-! ## The state file -/

/-- The stages the three scripts name. -/
inductive Stage where
  | uninstallPreflight
  | stateExport
  | targetScan
  | targetReview
  | riskCheck
  deriving DecidableEq, Repr

inductive Status where
  | pending
  | passed
  | blocked
  deriving DecidableEq, Repr

structure UninstallState where
  stage : Stage
  status : Status
  nextStage : Stage
  nextCommand : String
  failureReason : String
  deriving DecidableEq, Repr

/-- What jackrose-uninstall-state writes when there is no state file yet. -/
def UninstallState.initial : UninstallState where
  stage := .uninstallPreflight
  status := .pending
  nextStage := .stateExport
  nextCommand := "jackrose-uninstall-export"
  failureReason := ""

/-- The state update that ends an export.  The reason of an earlier failure
    stays in the file. -/
def recordExport (file : Option UninstallState) : UninstallState :=
  { file.getD .initial with
    stage := .stateExport
    status := .passed
    nextCommand := "jackrose-uninstall-target-scan"
    nextStage := .targetScan }

def reviewCommand : String := "jackrose-uninstall-target-review --target <exact-target>"

def planCommand (target : String) : String := "jackrose-uninstall-plan --target " ++ target

/-- The state update that ends a scan. -/
def recordScan (s : UninstallState) : UninstallState :=
  { s with
    stage := .targetScan
    status := .passed
    nextStage := .targetReview
    nextCommand := reviewCommand }

/-! ## The scan -/

/-- A block device as `lsblk -J` lists it; a missing or null text is empty, and
    an unmounted device has a null mount point. -/
inductive BlockDevice where
  | mk (name label fstype size : String) (mountpoints : List (Option String))
      (children : List BlockDevice)

structure ScanTarget where
  name : String
  device : String
  label : String
  fstype : String
  size : String
  classification : String
  deriving DecidableEq, Repr

/-- `s.lower()`, as far as a comparison with ASCII words can tell. -/
def lower (s : String) : List Char := s.toList.flatMap lowerChar

/-- `word in s.lower()`. -/
def mentions (word s : String) : Bool := occurs word.toList (lower s)

def classify (currentRoot name label fstype : String) (mounts : List (Option String)) : String :=
  if "/dev/" ++ name == currentRoot || mounts.contains (some "/") then "protected-macos"
  else if mounts.any (fun m => m.any fun path => "/boot".toList.isPrefixOf path.toList) then
    "protected-recovery"
  else if mentions "apfs" fstype then "protected-macos"
  else if mentions "jackrose" label || mentions "jackrose" name then "candidate-jackrose"
  else if mentions "asahi" label || mentions "asahi" name then "candidate-asahi"
  else if ["ext4", "btrfs", "xfs", "f2fs"].contains fstype then "candidate-linux"
  else if ["recovery", "preboot", "vm"].any (fun l => lower label == l.toList) then
    "protected-recovery"
  else "unknown"

mutual

/-- A device and then its children, depth first. -/
def processDev (currentRoot : String) : BlockDevice → List ScanTarget
  | .mk name label fstype size mounts children =>
      { name, device := "/dev/" ++ name, label, fstype, size
        classification := classify currentRoot name label fstype mounts } ::
        processDevs currentRoot children

def processDevs (currentRoot : String) : List BlockDevice → List ScanTarget
  | [] => []
  | dev :: devs => processDev currentRoot dev ++ processDevs currentRoot devs

end

/-- The two entries every scan starts with. -/
def scanFixtures : List ScanTarget :=
  [{ name := "test/fixtures/jackrose-uninstall-target"
     device := "test/fixtures/jackrose-uninstall-target"
     label := "JACKROSE-MOCK-TARGET"
     fstype := "ext4"
     size := "10G"
     classification := "candidate-jackrose" },
   { name := "/"
     device := "/"
     label := "Root Filesystem"
     fstype := "ext4"
     size := "unknown"
     classification := "protected-macos" }]

/-- The targets of a scan; `lsblk` is `none` when the tool is missing or fails.
    This is what the script spells out: as it stands its Python does not compile,
    for the test that guards the lsblk call binds a name without parentheses. -/
def scanTargets (currentRoot : String) (lsblk : Option (List BlockDevice)) : List ScanTarget :=
  scanFixtures ++ processDevs currentRoot (lsblk.getD [])

/-! ## The review -/

/-- What a review reads besides the files of the flow. -/
structure Env where
  /-- The source of the root mount, empty when it is not known. -/
  currentRoot : String
  /-- /var/lib/jackrose/uninstall/export-completed exists. -/
  exportMarker : Bool
  deriving Repr

/-- The export check of the review: it reads the stage the file is in. -/
def exportCompleted (env : Env) (file : Option UninstallState) : Bool :=
  file.any (fun s => s.stage == .stateExport && s.status == .passed) || env.exportMarker

def findTarget (targets : List ScanTarget) (target : String) : Option ScanTarget :=
  targets.find? fun t => t.device == target || t.name == target

/-- Why a target of this classification is refused. -/
def classificationReason (c : String) : Option String :=
  if occurs "protected".toList c.toList then some ("protected target (" ++ c ++ ")")
  else if c == "ambiguous" then some "ambiguous target classification"
  else if c == "external-backup" then some "external backup target"
  else none

/-- A classification the review does not refuse. -/
structure Unprotected (c : String) : Prop where
  not_protected : occurs "protected".toList c.toList = false
  not_ambiguous : c ≠ "ambiguous"
  not_backup : c ≠ "external-backup"

theorem classificationReason_eq_none {c : String} :
    classificationReason c = none ↔ Unprotected c := by
  rw [classificationReason]
  constructor
  · intro h
    split at h
    · cases h
    · rename_i hp
      split at h
      · cases h
      · rename_i ha
        split at h
        · cases h
        · rename_i hb
          exact ⟨by simpa using hp, by simpa using ha, by simpa using hb⟩
  · rintro ⟨hp, ha, hb⟩
    rw [hp, if_neg (by decide), if_neg (by simpa using ha), if_neg (by simpa using hb)]

/-- The safety rules on the target alone. -/
def targetReason (env : Env) (targets : List ScanTarget) (target : String) (strict : Bool) :
    Option String :=
  if target == "/" || target == env.currentRoot then some "current root target"
  else
    match findTarget targets target with
    | none => if strict then some "target not found in scan results" else none
    | some t => classificationReason t.classification

/-- Why the review blocks, if it does. -/
def blockedReason (env : Env) (file : Option UninstallState) (targets : List ScanTarget)
    (target : String) (strict : Bool) : Option String :=
  match targetReason env targets target strict with
  | some reason => some reason
  | none =>
      if !exportCompleted env file && strict then some "state export required before review"
      else none

/-- `target` is neither the root nor its device, and the entry the scan has for
    it is unprotected. -/
structure Listed (env : Env) (scan : Option (List ScanTarget)) (target : String) : Prop where
  ne_slash : target ≠ "/"
  ne_root : target ≠ env.currentRoot
  found : ∃ e, findTarget (scan.getD []) target = some e ∧ Unprotected e.classification

theorem targetReason_eq_none {env : Env} {scan : Option (List ScanTarget)} {target : String} :
    targetReason env (scan.getD []) target true = none ↔ Listed env scan target := by
  rw [targetReason]
  constructor
  · intro h
    split at h
    · cases h
    · rename_i hroot
      rw [Bool.or_eq_true, not_or] at hroot
      split at h
      · cases h
      · rename_i e he
        exact ⟨by simpa using hroot.1, by simpa using hroot.2, e, he,
          classificationReason_eq_none.mp h⟩
  · rintro ⟨hslash, hroot, e, he, hclass⟩
    rw [if_neg (by simp [hslash, hroot]), he]
    exact classificationReason_eq_none.mpr hclass

/-- A strict review has nothing against a target exactly when it is listed and
    the export check succeeds. -/
theorem blockedReason_eq_none {env : Env} {file : Option UninstallState}
    {scan : Option (List ScanTarget)} {target : String} :
    blockedReason env file (scan.getD []) target true = none ↔
      Listed env scan target ∧ exportCompleted env file = true := by
  rw [← targetReason_eq_none]
  rw [blockedReason]
  cases targetReason env (scan.getD []) target true with
  | some reason => simp
  | none => cases exportCompleted env file <;> simp

/-- The state update that ends a review. -/
def recordReview (target : String) : Option String → UninstallState → UninstallState
  | some reason, s =>
      { s with status := .blocked, failureReason := reason, nextCommand := reviewCommand }
  | none, s =>
      { s with
        stage := .targetReview
        status := .passed
        nextStage := .riskCheck
        nextCommand := planCommand target }

/-- The result a review prints. -/
structure ReviewResult where
  target : String
  blocked : Bool
  reason : String
  exportCompleted : Bool
  deriving DecidableEq, Repr

/-- How a review ends: its result (none after a usage error), its exit code and
    the state file it leaves. -/
structure Reviewed where
  result : Option ReviewResult
  exitCode : Nat
  stateFile : Option UninstallState
  deriving DecidableEq, Repr

def review (env : Env) (file : Option UninstallState) (scan : Option (List ScanTarget))
    (target : String) (json strict : Bool) : Reviewed :=
  if target == "" then { result := none, exitCode := 1, stateFile := file }
  else
    let reason := blockedReason env file (scan.getD []) target strict
    let result : ReviewResult :=
      { target
        blocked := reason.isSome
        reason := reason.getD ""
        exportCompleted := exportCompleted env file }
    -- Without --json a blocked review exits here, before the state update.
    if reason.isSome && !json then { result, exitCode := 1, stateFile := file }
    else { result, exitCode := 0, stateFile := file.map (recordReview target reason) }

/-- The review ran and found nothing against the target. -/
def Reviewed.Passed (r : Reviewed) : Prop := ∃ res, r.result = some res ∧ res.blocked = false

/-- The review ran and blocked the target. -/
def Reviewed.Blocked (r : Reviewed) : Prop := ∃ res, r.result = some res ∧ res.blocked = true

section Outcome

variable {env : Env} {file : Option UninstallState} {scan : Option (List ScanTarget)}
  {target : String}

theorem review_empty (json strict : Bool) :
    review env file scan "" json strict = { result := none, exitCode := 1, stateFile := file } :=
  rfl

theorem review_of_none {strict : Bool} (ht : target ≠ "")
    (h : blockedReason env file (scan.getD []) target strict = none) (json : Bool) :
    review env file scan target json strict =
      { result := some ⟨target, false, "", exportCompleted env file⟩
        exitCode := 0
        stateFile := file.map (recordReview target none) } := by
  rw [review]
  rw [if_neg (by simpa using ht), h]
  rfl

theorem review_of_some {strict : Bool} {reason : String} (ht : target ≠ "")
    (h : blockedReason env file (scan.getD []) target strict = some reason) (json : Bool) :
    review env file scan target json strict =
      { result := some ⟨target, true, reason, exportCompleted env file⟩
        exitCode := if json then 0 else 1
        stateFile := if json then file.map (recordReview target (some reason)) else file } := by
  rw [review]
  rw [if_neg (by simpa using ht), h]
  cases json <;> rfl

/-- The mode does not change the result that is printed. -/
theorem review_passed_iff {json : Bool} :
    (review env file scan target json true).Passed ↔
      target ≠ "" ∧ Listed env scan target ∧ exportCompleted env file = true := by
  by_cases ht : target = ""
  · subst ht
    simp [review_empty, Reviewed.Passed]
  · rw [← blockedReason_eq_none]
    cases hr : blockedReason env file (scan.getD []) target true with
    | none => simp [review_of_none ht hr, Reviewed.Passed, ht]
    | some reason => simp [review_of_some ht hr, Reviewed.Passed]

end Outcome

end Cidre.Uninstall
