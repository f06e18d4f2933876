/-
  Cidre.Disk.DisposableTarget

  `jackrose-app-disposable-target-check` against `classify_partition` of
  `jackrose-app-disk-snapshot`: what one script approves for a mutation and what
  the other protects from it.  The check exempts an Apple partition for its name,
  and looks at neither preboot and VM partitions nor `recovery` in the content.
-/

import Cidre.Disk.Snapshot

namespace Cidre.Disk

open Pattern

/-! ## jackrose-app-disposable-target-check -/

/-- `diskutil info -plist <target>`. -/
structure TargetInfo where
  content : Option String
  filesystemType : Option String
  volumeName : Option String
  mediaName : Option String
  mountPoint : Option String
  deviceIdentifier : Option String
  apfsContainerReference : Option String
  parentWholeDisk : Option String

/-- `root_ids`; a key that is missing adds `None`. -/
def RootInfo.rootIds (root : RootInfo) : List (Option String) :=
  [root.deviceIdentifier, root.parentWholeDisk, root.apfsContainerReference] ++
    root.startupStores.map some

namespace TargetInfo

variable (root : RootInfo) (target : String) (info : TargetInfo)

def targetType : List Char := lowered (orElse nonempty info.content info.filesystemType)

def readName : Option String := orElse nonempty info.volumeName info.mediaName

def volumeNameLower : List Char := lowered info.readName

def identifier : String := (info.deviceIdentifier.filter nonempty).getD target

def containerRef : Option String :=
  orElse nonempty info.apfsContainerReference
    (if within "apfs container" info.targetType then some (info.identifier target) else none)

/-- `is_startup`; a missing container equals a missing startup container. -/
def isStartup : Bool :=
  root.rootIds.contains (some (info.identifier target)) ||
    info.containerRef target = root.apfsContainerReference || info.mountPoint = some "/"

/-- The names and the type that mark a target as disposable. -/
def marked : Bool :=
  within "jackrose test" info.volumeNameLower || within "jackrose-test" info.volumeNameLower ||
    within "disposable" info.volumeNameLower || within "jackroselivedrill" info.volumeNameLower ||
    within "apfs container" info.targetType || within "jackrosetarget" info.volumeNameLower ||
    within "jackrose-target" info.volumeNameLower

end TargetInfo

structure TargetMetadata where
  content : Option String
  volumeName : Option String
  mountPoint : Option String
  apfsContainerReference : Option String
  wholeDisk : Option String

structure DisposableReport where
  status : GateStatus
  summary : String
  exitCode : Nat
  target : String
  classification : String
  /-- Code and message. -/
  errors : List (String × String)
  checks : List (String × GateStatus)
  metadata : Option TargetMetadata

def passedResult (target classification : String) (reasons : List (String × GateStatus))
    (metadata : Option TargetMetadata) : DisposableReport :=
  ⟨.passed, "Selected target is disposable and allowed for mutation testing.", 0, target,
    classification, [], reasons, metadata⟩

def failedResult (target code summary classification : String)
    (metadata : Option TargetMetadata) : DisposableReport :=
  ⟨.failed, summary, 8, target, classification, [(code, summary)], [], metadata⟩

def blockedResult (target code summary classification : String)
    (metadata : Option TargetMetadata) : DisposableReport :=
  ⟨.blocked, summary, 4, target, classification, [(code, summary)], [], metadata⟩

/-- The answer once `diskutil` has described the target and the startup disk. -/
def judgeTarget (target : String) (info : TargetInfo) (root : RootInfo) : DisposableReport :=
  let metadata : TargetMetadata :=
    { content := info.content
      volumeName := info.readName
      mountPoint := info.mountPoint
      apfsContainerReference := info.containerRef target
      wholeDisk := info.parentWholeDisk }
  if info.isStartup root target then
    failedResult target "target-is-startup-disk"
      "The selected target is the current startup disk or startup container." "protected" metadata
  else if within "apple_apfs_recovery" info.targetType ||
      within "recovery" info.volumeNameLower then
    failedResult target "target-is-apple-recovery"
      "The selected target is Apple_APFS_Recovery or another recovery partition." "protected"
      metadata
  else if within "isc" info.targetType || within "iboot" info.volumeNameLower then
    failedResult target "target-is-iboot-system-container"
      "The selected target is an iBoot system container." "protected" metadata
  else if within "apple_" info.targetType && !within "jackrose" info.volumeNameLower &&
      !within "apfs container" info.targetType then
    failedResult target "target-is-unknown-apple-partition"
      "The selected target is an Apple-managed partition and cannot be treated as disposable."
      "protected" metadata
  else if info.marked then
    passedResult target "disposable"
      [("target-exists", .passed), ("not-startup-disk", .passed), ("disposable-marker", .passed),
       ("current-disk-snapshot-available", .passed)] metadata
  else
    blockedResult target "target-not-explicitly-disposable"
      "The selected target is not explicitly marked disposable." "unknown" metadata

/-- The script without a fixture.  `inspected` is what the two queries of
    `diskutil` return, or the text of the exception they raise. -/
def disposableTargetCheck (snapshotAvailable darwin : Bool) (target : String)
    (inspected : Except String (TargetInfo × RootInfo)) : DisposableReport :=
  if !snapshotAvailable then
    blockedResult target "current-disk-snapshot-missing"
      "A current disk snapshot is required before approving a disposable target." "unknown" none
  else if !darwin then
    blockedResult target "requires-macos"
      "Disposable target validation requires macOS diskutil inspection." "unknown" none
  else
    match inspected with
    | .error error =>
        failedResult target "target-not-found" ("Disposable target inspection failed: " ++ error)
          "missing" none
    | .ok (info, root) => judgeTarget target info root

/-! ## What is approved -/

/-- The inputs on which the cascade reaches its one approving branch. -/
structure Approvable (root : RootInfo) (target : String) (info : TargetInfo) : Prop where
  notStartup : info.isStartup root target = false
  notRecoveryType : within "apple_apfs_recovery" info.targetType = false
  notRecoveryName : within "recovery" info.volumeNameLower = false
  notSystemContainer : within "isc" info.targetType = false
  notIboot : within "iboot" info.volumeNameLower = false
  exempted : within "apple_" info.targetType = true →
    within "jackrose" info.volumeNameLower = true ∨
      within "apfs container" info.targetType = true
  marker : info.marked = true

theorem judgeTarget_passed_iff {root : RootInfo} {target : String} {info : TargetInfo} :
    (judgeTarget target info root).status = .passed ↔ Approvable root target info := by
  constructor
  · intro hpassed
    unfold judgeTarget at hpassed
    dsimp only at hpassed
    split at hpassed
    · cases hpassed
    split at hpassed
    · cases hpassed
    split at hpassed
    · cases hpassed
    split at hpassed
    · cases hpassed
    split at hpassed
    · next hstartup hrecovery hsystem happle hmarker =>
      rw [Bool.not_eq_true, Bool.or_eq_false_iff] at hrecovery hsystem
      refine ⟨by simpa using hstartup, hrecovery.1, hrecovery.2, hsystem.1, hsystem.2, ?_, hmarker⟩
      intro htype
      by_contra hno
      rw [not_or, Bool.not_eq_true, Bool.not_eq_true] at hno
      exact happle (by rw [htype, hno.1, hno.2]; rfl)
    · cases hpassed
  · intro h
    unfold judgeTarget
    dsimp only
    have happle : (within "apple_" info.targetType && !within "jackrose" info.volumeNameLower &&
        !within "apfs container" info.targetType) = false := by
      cases htype : within "apple_" info.targetType with
      | false => rfl
      | true =>
        rcases h.exempted htype with hname | hcontainer
        · rw [hname]; rfl
        · rw [hcontainer, Bool.not_true, Bool.and_false]
    rw [if_neg (by simp [h.notStartup]), if_neg (by simp [h.notRecoveryType, h.notRecoveryName]),
      if_neg (by simp [h.notSystemContainer, h.notIboot]), if_neg (by simp [happle]),
      if_pos h.marker]
    rfl

theorem disposableTargetCheck_passed_iff {snapshotAvailable darwin : Bool} {root : RootInfo}
    {target : String} {info : TargetInfo} :
    (disposableTargetCheck snapshotAvailable darwin target (.ok (info, root))).status = .passed ↔
      snapshotAvailable = true ∧ darwin = true ∧ Approvable root target info := by
  unfold disposableTargetCheck
  cases snapshotAvailable with
  | false => exact iff_of_false (fun h => nomatch h) fun h => nomatch h.1
  | true =>
    cases darwin with
    | false => exact iff_of_false (fun h => nomatch h) fun h => nomatch h.2.1
    | true => exact judgeTarget_passed_iff.trans ⟨fun h => ⟨rfl, rfl, h⟩, fun h => h.2.2⟩

/-! ## What the snapshot protects of it -/

/-- What `diskutil info` says of the partition is what the lists say. -/
structure TargetInfo.Agrees (info : TargetInfo) (e : Entry) : Prop where
  identifier : info.deviceIdentifier = e.identifier
  content : info.content = e.content
  name : info.readName = e.name
  container : info.apfsContainerReference = e.containerReference

/-- The grounds to protect a partition that the check does not look at. -/
inductive Unasked (root : RootInfo) (e : Entry) : Prop where
  /-- Neither the partition nor the startup disk has a container. -/
  | container (ground : e.containerReference = root.apfsContainerReference)
  | recoveryContent (ground : within "recovery" (lowered e.content) = true)
  | preboot (ground : within "preboot" (lowered e.name) = true ∨
      ∃ role ∈ e.roles.getD [], lowered (some role) = "preboot".toList)
  | vm (ground : lowered e.name = "vm".toList ∨
      ∃ role ∈ e.roles.getD [], lowered (some role) = "vm".toList)
  /-- The check exempts it for a name with `jackrose`, or as a container. -/
  | appleContent (ground : within "apple_" (lowered e.content) = true)
      (noLinux : within "linux" (lowered e.content) = false)

theorem mem_roles_lower {roles : List String} {needle : List Char} :
    (roles.map fun item => lowered (some item)).contains needle = true ↔
      ∃ role ∈ roles, lowered (some role) = needle := by
  rw [List.contains_iff_mem, List.mem_map]

/-- An entry of a snapshot is classified by its own fields. -/
theorem protectedFlag_of_mem {l : Layout} {e : Entry} (he : e ∈ (diskSnapshot l).partitions) :
    e.protectedFlag = some (classifyPartition l.root e.identifier e.content e.name
      (e.roles.getD []) e.containerReference).1 := by
  obtain ⟨entries, hentries, he⟩ := List.mem_flatten.mp he
  obtain ⟨disk, -, rfl⟩ := List.mem_map.mp hentries
  obtain ⟨child, -, rfl⟩ := List.mem_map.mp he
  rfl

/-- The grounds of `classify_partition`, in its order. -/
theorem classifyPartition_protects_iff {root : RootInfo} {identifier content name ref : Option String}
    {roles : List String} :
    (classifyPartition root identifier content name roles ref).1 = true ↔
      within "apple_apfs_isc" (lowered content) = true ∨
      within "apple_apfs_recovery" (lowered content) = true ∨
      ref = root.apfsContainerReference ∨
      identifier.any (root.startupStores.contains ·) = true ∨
      within "recovery" (lowered name) = true ∨ within "recovery" (lowered content) = true ∨
      (within "preboot" (lowered name) = true ∨
        ∃ role ∈ roles, lowered (some role) = "preboot".toList) ∨
      (lowered name = "vm".toList ∨ ∃ role ∈ roles, lowered (some role) = "vm".toList) ∨
      (within "apple_" (lowered content) = true ∧ within "linux" (lowered content) = false) := by
  rw [← mem_roles_lower, ← mem_roles_lower]
  unfold classifyPartition
  dsimp only
  have hite : ∀ (c : Prop) [Decidable c] (r : Role) (rest : Bool × Role),
      (if c then (true, r) else rest).1 = true ↔ c ∨ rest.1 = true := by
    intro c _ r rest
    split
    · next hc => exact iff_of_true rfl (Or.inl hc)
    · next hc => exact (or_iff_right hc).symm
  have hlast : (if within "jackrose" (lowered name) = true then (false, Role.jackroseTarget)
      else (false, .unclassified)).1 = false := by
    split <;> rfl
  rw [hite, hite, hite, hite, hite, hite, hite, hlast]
  simp only [Bool.or_eq_true, decide_eq_true_eq, Bool.and_eq_true, Bool.not_eq_true', or_assoc,
    Bool.false_eq_true, or_false]

theorem lowered_orElse {a b : Option String} (h : lowered a ≠ []) :
    lowered (orElse nonempty a b) = lowered a := by
  cases a with
  | none => exact absurd rfl h
  | some s =>
    have hs : nonempty s = true := by
      by_contra hempty
      have hs : s = "" := by simpa [nonempty] using hempty
      exact h (by rw [hs]; rfl)
    rw [orElse, Option.filter_some, if_pos hs, Option.some_or]

/-- What the content of a target says, its type says. -/
theorem within_targetType {info : TargetInfo} {needle : String} (hneedle : needle.toList ≠ [])
    (h : within needle (lowered info.content) = true) : within needle info.targetType = true := by
  have hne : lowered info.content ≠ [] := by
    intro hempty
    rw [within, hempty, occurs, List.isEmpty_iff] at h
    exact hneedle h
  rw [TargetInfo.targetType, lowered_orElse hne]
  exact h

/-- The check asks for the physical stores of the startup disk as the snapshot does. -/
theorem startupStores_of_notStartup {root : RootInfo} {target : String} {info : TargetInfo}
    (h : info.isStartup root target = false) :
    info.deviceIdentifier.any (root.startupStores.contains ·) = false := by
  by_contra hstore
  rw [Bool.not_eq_false, Option.any_eq_true] at hstore
  obtain ⟨id, hid, hmem⟩ := hstore
  rw [List.contains_iff_mem] at hmem
  have hne : nonempty id = true := by
    obtain ⟨store, -, hfilter⟩ := List.mem_filterMap.mp hmem
    exact (Option.filter_eq_some_iff.mp hfilter).2
  have hidentifier : info.identifier target = id := by
    rw [TargetInfo.identifier, hid, Option.filter_some, if_pos hne, Option.getD_some]
  have hroot : root.rootIds.contains (some (info.identifier target)) = true := by
    rw [List.contains_iff_mem, hidentifier]
    exact List.mem_append_right _ (List.mem_map_of_mem hmem)
  rw [TargetInfo.isStartup, hroot, Bool.true_or, Bool.true_or] at h
  cases h

/-- A target the check lets through is protected on the unasked grounds only. -/
theorem protected_of_approvable {root : RootInfo} {target : String} {info : TargetInfo} {e : Entry}
    (hagree : info.Agrees e) (h : Approvable root target info) :
    (classifyPartition root e.identifier e.content e.name (e.roles.getD [])
      e.containerReference).1 = true ↔ Unasked root e := by
  have hisc : ¬within "apple_apfs_isc" (lowered e.content) = true := by
    intro hisc
    rw [← hagree.content] at hisc
    have hwithin := within_targetType (by decide) hisc
    exact absurd (h.notSystemContainer.symm.trans (occurs_trans (by decide) hwithin)) (by decide)
  have hrecoveryType : ¬within "apple_apfs_recovery" (lowered e.content) = true := by
    intro hrecovery
    rw [← hagree.content] at hrecovery
    exact absurd (h.notRecoveryType.symm.trans (within_targetType (by decide) hrecovery))
      (by decide)
  have hrecoveryName : ¬within "recovery" (lowered e.name) = true := by
    rw [← hagree.name, Bool.not_eq_true]
    exact h.notRecoveryName
  have hstore : ¬e.identifier.any (root.startupStores.contains ·) = true := by
    rw [← hagree.identifier, Bool.not_eq_true]
    exact startupStores_of_notStartup h.notStartup
  rw [classifyPartition_protects_iff, or_iff_right hisc, or_iff_right hrecoveryType,
    or_iff_right hstore, or_iff_right hrecoveryName]
  constructor
  · rintro (hc | hc | hc | hc | ⟨hc, hlinux⟩)
    · exact .container hc
    · exact .recoveryContent hc
    · exact .preboot hc
    · exact .vm hc
    · exact .appleContent hc hlinux
  · intro hground
    cases hground with
    | container hc => exact Or.inl hc
    | recoveryContent hc => exact Or.inr (Or.inl hc)
    | preboot hc => exact Or.inr (Or.inr (Or.inl hc))
    | vm hc => exact Or.inr (Or.inr (Or.inr (Or.inl hc)))
    | appleContent hc hlinux => exact Or.inr (Or.inr (Or.inr (Or.inr ⟨hc, hlinux⟩)))

/-- A target the check passes is unprotected exactly when the inputs do not
    approve it or no unasked ground protects it. -/
theorem disposable_unprotected_iff (l : Layout) (e : Entry)
    (he : e ∈ (diskSnapshot l).partitions) (snapshotAvailable darwin : Bool) (target : String)
    (info : TargetInfo) (hagree : info.Agrees e) :
    ((disposableTargetCheck snapshotAvailable darwin target (.ok (info, l.root))).status = .passed →
        e.protectedFlag = some false) ↔
      ¬(snapshotAvailable = true ∧ darwin = true ∧ Approvable l.root target info ∧
        Unasked l.root e) := by
  rw [disposableTargetCheck_passed_iff, protectedFlag_of_mem he, Option.some.injEq]
  constructor
  · rintro hclaim ⟨havailable, hdarwin, happrovable, hground⟩
    have hprotected := (protected_of_approvable hagree happrovable).mpr hground
    rw [hclaim ⟨havailable, hdarwin, happrovable⟩] at hprotected
    cases hprotected
  · rintro hnone ⟨havailable, hdarwin, happrovable⟩
    rw [← Bool.not_eq_true, protected_of_approvable hagree happrovable]
    exact fun hground => hnone ⟨havailable, hdarwin, happrovable, hground⟩

/-- A partition listed beside the startup container. -/
def drillChild (content name : String) : Child :=
  ⟨some "disk0s5", some content, some name, none, some 1000, none, some "disk0"⟩

def drillLayout (content name : String) : Layout where
  disks := [⟨some "disk0", [drillChild content name]⟩]
  containers := []
  root := ⟨some "disk3", some "disk3s1s1", some "disk3", none, none, [some "disk0s2"]⟩

def drillEntry (content name : String) : Entry :=
  snapshotEntry (drillLayout content name) (some "disk0") (drillChild content name)

/-- `diskutil info` of that partition. -/
def drillInfo (content name : String) : TargetInfo :=
  ⟨some content, none, some name, none, none, some "disk0s5", none, some "disk0"⟩

def drillReport (content name : String) : DisposableReport :=
  disposableTargetCheck true true "disk0s5"
    (.ok (drillInfo content name, (drillLayout content name).root))

/-- A FAT drill volume is approved, and the snapshot leaves it unprotected. -/
theorem disposable_unprotected_fat :
    (drillReport "Windows_FAT_32" "Jackrose Test").status = .passed ∧
      ((drillReport "Windows_FAT_32" "Jackrose Test").status = .passed →
        (drillEntry "Windows_FAT_32" "Jackrose Test").protectedFlag = some false) := by
  refine ⟨by decide +kernel, (disposable_unprotected_iff
    (drillLayout "Windows_FAT_32" "Jackrose Test") _ (List.mem_singleton.mpr rfl) true true
    "disk0s5" (drillInfo "Windows_FAT_32" "Jackrose Test") ⟨rfl, rfl, rfl, rfl⟩).mpr ?_⟩
  rintro ⟨-, -, -, hground⟩
  cases hground with
  | container h | recoveryContent h | preboot h | vm h | appleContent h _ =>
    exact absurd h (by decide +kernel)

/-- A drill volume of an Apple type is approved for mutation and protected from it. -/
theorem approved_target_protected :
    ¬∀ l : Layout, ∀ e ∈ (diskSnapshot l).partitions, ∀ target info, TargetInfo.Agrees info e →
      (disposableTargetCheck true true target (.ok (info, l.root))).status = .passed →
        e.protectedFlag = some false := by
  intro hclaim
  have hflag := hclaim (drillLayout "Apple_HFS" "Jackrose Test") _ (List.mem_singleton.mpr rfl)
    "disk0s5" (drillInfo "Apple_HFS" "Jackrose Test") ⟨rfl, rfl, rfl, rfl⟩ (by decide +kernel)
  revert hflag
  decide +kernel

end Cidre.Disk
