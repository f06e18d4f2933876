/-
  Cidre.Disk.RecoverySurvival

  What `executeJackroseUninstall` leaves of the partition table: whether a
  partition of type `Apple_APFS_Recovery` is still there after its five commands,
  and with it the checks of `jackrose-app-recovery-survival-check` and of the
  protected-partition guard that look for one.

  What `diskutil` does to the table is a parameter; `Effects` states what its
  manual says of the three kinds of command.
-/

import Cidre.Disk.Helper
import Cidre.Disk.Snapshot

namespace Cidre.Disk

open Partial

/-! ## Partition tables -/

structure Partition where
  identifier : String
  content : String
  /-- The APFS container it is a physical store of. -/
  container : Option String
deriving DecidableEq

def Partition.isRecovery (p : Partition) : Bool := p.content = "Apple_APFS_Recovery"

/-- The effect of the commands on the partition table: deleting a container frees
    its physical stores, erasing to free space removes the partition, growing a
    container removes none. -/
structure Effects (effect : List String → List Partition → List Partition) : Prop where
  deleteContainer : ∀ c table, effect ["/usr/sbin/diskutil", "apfs", "deleteContainer", c] table =
    table.filter fun p => p.container ≠ some c
  eraseFree : ∀ id table, effect ["/usr/sbin/diskutil", "eraseVolume", "free", "free", id] table =
    table.filter fun p => p.identifier ≠ id
  grow : ∀ c table, effect ["/usr/sbin/diskutil", "apfs", "resizeContainer", c, "0"] table = table

/-- The table after commands that succeeded. -/
def diskAfter (effect : List String → List Partition → List Partition) (table : List Partition)
    (commands : List (List String)) : List Partition :=
  commands.foldl (fun table command => effect command table) table

/-- The queries of the helper answer from the table. -/
structure Describes (m : Machine) (table : List Partition) : Prop where
  distinct : (table.map Partition.identifier).Nodup
  content : ∀ p ∈ table, ∀ d, m.info p.identifier = some d → strAt d "Content" = some p.content
  container : ∀ p ∈ table, ∀ d c, m.info p.identifier = some d →
    strAt d "APFSContainerReference" = some c → p.container = some c
  stores : ∀ p ∈ table, apfsContainerReference m p.identifier = p.container

/-! ## The commands of an accepted request -/

/-- The container the helper deletes for the recovery target. -/
def recoveryContainer (m : Machine) (target : String) : Option String :=
  (m.info target).bind fun recovery =>
    (strAt recovery "APFSContainerReference").or (apfsContainerReference m target)

/-- The container the helper deletes for the stub target. -/
def stubContainer (m : Machine) (target : String) : Option String :=
  (m.info target).bind fun stub => strAt stub "APFSContainerReference"

/-- The containers of the recovery target and the stub target of a request. -/
def doomedContainers (m : Machine) (request : HelperRequest) : List String :=
  (request.arguments[2]?.bind (recoveryContainer m)).toList ++
    (request.target.bind (stubContainer m)).toList

/-- What the helper has read when it accepts an uninstall. -/
structure UninstallAccepted (m : Machine) (stub efi linux recovery grow : String)
    (recoveryRef stubRef : String) : Prop where
  efiContent : ∃ d, m.info efi = some d ∧ strAt d "Content" = some "EFI"
  linuxContent : ∃ d, m.info linux = some d ∧ strAt d "Content" = some "Linux Filesystem"
  recoveryContent : ∃ d, m.info recovery = some d ∧ strAt d "Content" = some "Apple_APFS_Recovery"
  recoveryRef : recoveryContainer m recovery = some recoveryRef
  stubRef : stubContainer m stub = some stubRef

theorem uninstallInfo_some {m : Machine} {stub efi linux recovery grow : String}
    {i : UninstallInfo} (h : uninstallInfo m stub efi linux recovery grow = some i) :
    m.info stub = some i.stub ∧ m.info efi = some i.efi ∧ m.info linux = some i.linux ∧
      m.info recovery = some i.recovery := by
  unfold uninstallInfo at h
  simp only [bind, Option.bind_eq_some_iff, Option.some.injEq] at h
  obtain ⟨stub, hstub, efi, hefi, linux, hlinux, recovery, hrecovery, -, -, -, -, -, -, -, -, -, -,
    rfl⟩ := h
  exact ⟨hstub, hefi, hlinux, hrecovery⟩

theorem uninstallCommands_ok {S : SwiftText} {m : Machine} {stub : String} {args : List String}
    {commands : List (List String)} (h : uninstallCommands S m stub args = .ok commands) :
    ∃ efi linux recovery grow recoveryRef stubRef, args = [efi, linux, recovery, grow] ∧
      UninstallAccepted m stub efi linux recovery grow recoveryRef stubRef ∧
      commands =
        [["/usr/sbin/diskutil", "apfs", "deleteContainer", recoveryRef],
         ["/usr/sbin/diskutil", "eraseVolume", "free", "free", linux],
         ["/usr/sbin/diskutil", "eraseVolume", "free", "free", efi],
         ["/usr/sbin/diskutil", "apfs", "deleteContainer", stubRef],
         ["/usr/sbin/diskutil", "apfs", "resizeContainer", grow, "0"]] := by
  unfold uninstallCommands at h
  split at h
  · next efi linux recovery grow =>
    simp only [bind_eq_ok, ensure_eq_ok, orThrow_eq_ok, pure_eq_ok] at h
    obtain ⟨-, -, i, hinfo, -, -, -, -, -, -, -, -, stubRef, hstubRef, -, -, -, -, -, hefi, -,
      hlinux, -, hrecovery, -, -, recoveryRef, hrecoveryRef, hcommands⟩ := h
    obtain ⟨hstubInfo, hefiInfo, hlinuxInfo, hrecoveryInfo⟩ := uninstallInfo_some hinfo
    refine ⟨efi, linux, recovery, grow, recoveryRef, stubRef, rfl, ⟨⟨_, hefiInfo, hefi.1⟩,
      ⟨_, hlinuxInfo, hlinux⟩, ⟨_, hrecoveryInfo, hrecovery⟩, ?_, ?_⟩, hcommands.symm⟩
    · rw [recoveryContainer, hrecoveryInfo]
      exact hrecoveryRef
    · rw [stubContainer, hstubInfo]
      exact hstubRef
  · simp at h

/-- Commands that all succeed have all been started. -/
theorem runUninstall_pass {m : Machine} {preview : List String} {commands : List (List String)}
    {output : String} {started : List (List String)}
    (h : (runUninstall m preview commands output started).result.status = .pass) :
    (runUninstall m preview commands output started).started = started ++ commands := by
  induction commands generalizing output started with
  | nil => simp [runUninstall]
  | cons command rest ih =>
    unfold runUninstall at h ⊢
    cases hprocess : m.process command with
    | error e =>
      rw [hprocess] at h
      cases h
    | ok answer =>
      obtain ⟨status, out, err⟩ := answer
      rw [hprocess] at h
      dsimp only at h ⊢
      split at h
      · cases h
      · next hstatus =>
        rw [if_neg hstatus, ih h, List.append_assoc]
        rfl

/-! ## jackrose-app-recovery-survival-check -/

structure SurvivalReport where
  status : GateStatus
  summary : String
  exitCode : Nat
  /-- Code and message. -/
  errors : List (String × Json)
  checks : List SafetyCheck
  recoveryExists : Bool
  systemRecoveryExists : Bool
  startupContainerPresent : Bool
  startupDiskReadable : Bool
  startupPhysicalStores : List String

/-- The script, after its three queries of `diskutil`; `mountPoint` is that of `/`. -/
def recoverySurvivalCheck (l : Layout) (mountPoint : Option String) : SurvivalReport :=
  let parts := l.disks.flatMap ListedDisk.partitions
  let recoveryExists := parts.any fun part =>
    within "apple_apfs_recovery" (lowered part.content) ||
      within "recovery" (lowered (orElse nonempty part.volumeName part.mediaName))
  let systemRecoveryExists := parts.any fun part => within "apple_apfs_isc" (lowered part.content)
  let startupDiskReadable := decide (mountPoint = some "/")
  let startupContainerPresent := l.root.apfsContainerReference.any nonempty
  let checks :=
    [safetyCheck "apple-recovery-present" recoveryExists
       (.str "Apple_APFS_Recovery was not found."),
     safetyCheck "system-recovery-present" systemRecoveryExists
       (.str "System Recovery partition was not found."),
     safetyCheck "startup-container-present" startupContainerPresent
       (.str "macOS startup container is missing."),
     safetyCheck "startup-disk-readable" startupDiskReadable
       (.str "macOS startup disk could not be read."),
     safetyCheck "startup-physical-store-present" (!l.root.startupStores.isEmpty)
       (.str "Startup disk physical store information is missing."),
     safetyCheck "protected-partitions-classifiable" (!l.containers.isEmpty)
       (.str "APFS containers could not be classified.")]
  let errors := (checks.filter fun c => !c.passed).map fun c => (c.id, c.reason)
  { status := if errors.isEmpty then .passed else .failed
    summary := if errors.isEmpty then "Recovery survival checks passed."
      else "Recovery survival checks failed."
    exitCode := if errors.isEmpty then 0 else 8
    errors := errors
    checks := checks
    recoveryExists := recoveryExists
    systemRecoveryExists := systemRecoveryExists
    startupContainerPresent := startupContainerPresent
    startupDiskReadable := startupDiskReadable
    startupPhysicalStores := l.root.startupStores }

/-- A layout lists the partitions of a table, each under an identifier of its own. -/
structure Layout.Lists (l : Layout) (table : List Partition) : Prop where
  listed : ∀ p ∈ table, p.identifier ≠ "" ∧ ∃ disk ∈ l.disks, ∃ child ∈ disk.partitions,
    child.deviceIdentifier = some p.identifier ∧ child.content = some p.content
  distinct : ∀ disk ∈ l.disks, ∀ child ∈ disk.partitions, ∀ disk' ∈ l.disks,
    ∀ child' ∈ disk'.partitions, child.deviceIdentifier = child'.deviceIdentifier →
      disk = disk' ∧ child = child'

/-- Both scripts still find Apple recovery. -/
structure RecoveryChecked (l : Layout) (mountPoint : Option String) : Prop where
  survival : ∃ c ∈ (recoverySurvivalCheck l mountPoint).checks,
    c.id = "apple-recovery-present" ∧ c.passed = true
  guard : ∃ c ∈ checkSet (diskSnapshot l) (Cidre.Disk.classify (diskSnapshot l)),
    c.id = "apple-recovery-present" ∧ c.passed = true

/-- A recovery partition is protected as such, whatever else is known of it. -/
theorem snapshotEntry_recovery {l : Layout} {disk : Option String} {child : Child}
    (h : child.content = some "Apple_APFS_Recovery") :
    (snapshotEntry l disk child).role = some .systemRecovery ∧
      (snapshotEntry l disk child).protectedFlag = some true := by
  have hclass : ∀ name roles ref, classifyPartition l.root child.deviceIdentifier child.content
      name roles ref = (true, .systemRecovery) := by
    intro name roles ref
    have hisc : within "apple_apfs_isc" (lowered child.content) = false := by
      rw [h]
      decide +kernel
    have hrecovery : within "apple_apfs_recovery" (lowered child.content) = true := by
      rw [h]
      decide +kernel
    simp only [classifyPartition, hisc, hrecovery, if_true, if_false, Bool.false_eq_true]
  rw [snapshotEntry]
  simp only [hclass]
  exact ⟨trivial, trivial⟩

/-- A recovery partition that is listed keeps both checks passing. -/
theorem recoveryChecked_of_listed {l : Layout} {table : List Partition} (hl : l.Lists table)
    {p : Partition} (hp : p ∈ table) (hrecovery : p.isRecovery = true) (mountPoint : Option String) :
    RecoveryChecked l mountPoint := by
  have hcontent : p.content = "Apple_APFS_Recovery" := of_decide_eq_true hrecovery
  obtain ⟨hid, disk, hdisk, child, hchild, hident, hchildContent⟩ := hl.listed p hp
  rw [hcontent] at hchildContent
  constructor
  · refine ⟨_, List.mem_cons_self, rfl, ?_⟩
    show List.any _ _ = true
    refine List.any_eq_true.mpr ⟨child, List.mem_flatMap.mpr ⟨disk, hdisk, hchild⟩, ?_⟩
    rw [hchildContent, Bool.or_eq_true]
    exact Or.inl (by decide +kernel)
  · refine ⟨_, List.mem_cons_self, rfl, ?_⟩
    show List.any _ _ = true
    obtain ⟨hrole, hflag⟩ : (snapshotEntry l disk.deviceIdentifier child).role =
        some .systemRecovery ∧
          (snapshotEntry l disk.deviceIdentifier child).protectedFlag = some true :=
      snapshotEntry_recovery hchildContent
    have hmem : snapshotEntry l disk.deviceIdentifier child ∈ (diskSnapshot l).entries := by
      rw [entries_diskSnapshot, List.mem_flatMap]
      exact ⟨disk, hdisk, List.mem_map_of_mem hchild⟩
    have hkeyOf : ∀ disk child, (snapshotEntry l disk child).key =
        child.deviceIdentifier.filter nonempty := by
      intro disk child
      show (orElse nonempty child.deviceIdentifier child.deviceIdentifier).filter nonempty = _
      cases child.deviceIdentifier with
      | none => rfl
      | some id => by_cases hne : nonempty id = true <;> simp [orElse, Option.filter, hne]
    have hkey : (snapshotEntry l disk.deviceIdentifier child).key = some p.identifier := by
      rw [hkeyOf, hident, Option.filter_some, if_pos (by simpa [nonempty] using hid)]
    have hguardKey : guardKey (diskSnapshot l).rootIdentifiers
        (snapshotEntry l disk.deviceIdentifier child) = some p.identifier := by
      rw [guardKey, if_pos (by rw [guardProtects, hflag]), hkey]
    obtain ⟨e, he⟩ := Dict.exists_lastWith hmem hguardKey
    -- The last entry under the identifier is the partition itself.
    have hsame : e = snapshotEntry l disk.deviceIdentifier child := by
      obtain ⟨hin, hekey⟩ := Dict.mem_of_lastWith he
      rw [entries_diskSnapshot, List.mem_flatMap] at hin
      obtain ⟨disk', hdisk', hin⟩ := hin
      obtain ⟨child', hchild', rfl⟩ := List.mem_map.mp hin
      have hident' : child'.deviceIdentifier = some p.identifier := by
        unfold guardKey at hekey
        split at hekey
        · rw [hkeyOf] at hekey
          exact (Option.filter_eq_some_iff.mp hekey).1
        · cases hekey
      obtain ⟨rfl, rfl⟩ := hl.distinct disk hdisk child hchild disk' hdisk' child' hchild'
        (hident.trans hident'.symm)
      rfl
    have hlookup := lookup_classify (diskSnapshot l) p.identifier
    rw [he, hsame, Option.map_some] at hlookup
    refine List.any_eq_true.mpr ⟨_, Dict.mem_of_lookup hlookup, ?_⟩
    show decide ((protectedPartition (snapshotEntry l disk.deviceIdentifier child)).role =
      .systemRecovery) = true
    rw [decide_eq_true_eq, protectedPartition, hrole]
    rfl

/-! ## What survives -/

/-- What the five commands leave. -/
theorem mem_diskAfter {effect : List String → List Partition → List Partition}
    (heffects : Effects effect) {table : List Partition} {p : Partition}
    {recoveryRef linux efi stubRef grow : String} :
    p ∈ diskAfter effect table
        [["/usr/sbin/diskutil", "apfs", "deleteContainer", recoveryRef],
         ["/usr/sbin/diskutil", "eraseVolume", "free", "free", linux],
         ["/usr/sbin/diskutil", "eraseVolume", "free", "free", efi],
         ["/usr/sbin/diskutil", "apfs", "deleteContainer", stubRef],
         ["/usr/sbin/diskutil", "apfs", "resizeContainer", grow, "0"]] ↔
      p ∈ table ∧ p.container ≠ some recoveryRef ∧ p.identifier ≠ linux ∧ p.identifier ≠ efi ∧
        p.container ≠ some stubRef := by
  simp only [diskAfter, List.foldl_cons, List.foldl_nil, heffects.deleteContainer,
    heffects.eraseFree, heffects.grow, List.mem_filter, decide_eq_true_eq, and_assoc]

/-- An uninstall that went through ran the commands of an accepted request. -/
theorem uninstall_passed {S : SwiftText} {sha256 : Bytes → String} {m : Machine}
    {request : HelperRequest} (hop : Operation.ofName request.operation = .jackroseUninstall)
    (hlive : request.dryRun = false)
    (hpass : (execute S sha256 m request).result.status = .pass) :
    ∃ stub commands, request.target = some stub ∧
      uninstallCommands S m stub request.arguments = .ok commands ∧
      (execute S sha256 m request).started = commands := by
  rcases execute_cases S sha256 m request with ⟨message, hrejected⟩ | ⟨stub, haccepted, hrun⟩
  · rw [hrejected] at hpass
    cases hpass
  rcases hrun with ⟨-, hrun⟩ | ⟨command, hcommand, -⟩
  · rw [hrun] at hpass ⊢
    unfold executeJackroseUninstall at hpass ⊢
    cases hcommands : uninstallCommands S m stub request.arguments with
    | error message =>
      rw [hcommands] at hpass
      cases hpass
    | ok commands =>
      rw [hcommands] at hpass
      simp only [hlive, Bool.false_eq_true, if_false] at hpass ⊢
      exact ⟨stub, commands, haccepted.hasTarget, hcommands, runUninstall_pass hpass⟩
  · unfold buildCommand at hcommand
    rw [hop] at hcommand
    cases hcommand

/-- After an uninstall that went through, a recovery partition is left exactly when
    one is in neither of the two containers that are deleted; then both checks
    still find one. -/
theorem uninstall_spares_recovery_iff (S : SwiftText) (sha256 : Bytes → String) (m : Machine)
    (request : HelperRequest) (table : List Partition)
    (effect : List String → List Partition → List Partition) (heffects : Effects effect)
    (htable : Describes m table)
    (hop : Operation.ofName request.operation = .jackroseUninstall)
    (hlive : request.dryRun = false)
    (hpass : (execute S sha256 m request).result.status = .pass) :
    ((∃ p ∈ table, p.isRecovery = true ∧
        p ∈ diskAfter effect table (execute S sha256 m request).started) ↔
      ∃ p ∈ table, p.isRecovery = true ∧ ∀ c ∈ doomedContainers m request,
        p.container ≠ some c) ∧
    ((∃ p ∈ table, p.isRecovery = true ∧
        p ∈ diskAfter effect table (execute S sha256 m request).started) →
      ∀ (l : Layout) (mountPoint : Option String),
        l.Lists (diskAfter effect table (execute S sha256 m request).started) →
        RecoveryChecked l mountPoint) := by
  refine ⟨?_, fun ⟨_, _, hrecovery, hp⟩ l mountPoint hl =>
    recoveryChecked_of_listed hl hp hrecovery mountPoint⟩
  obtain ⟨stub, commands, htarget, hcommands, hstarted⟩ := uninstall_passed hop hlive hpass
  obtain ⟨efi, linux, recovery, grow, recoveryRef, stubRef, hargs, haccepted, rfl⟩ :=
    uninstallCommands_ok hcommands
  have hdoomed : doomedContainers m request = [recoveryRef, stubRef] := by
    rw [doomedContainers, hargs, htarget]
    show (recoveryContainer m recovery).toList ++ (stubContainer m stub).toList = _
    rw [haccepted.recoveryRef, haccepted.stubRef]
    rfl
  -- The partitions erased by identifier are no recovery partitions.
  have herased : ∀ p ∈ table, p.isRecovery = true → p.identifier ≠ linux ∧ p.identifier ≠ efi := by
    intro p hp hrecovery
    have hcontent : p.content = "Apple_APFS_Recovery" := of_decide_eq_true hrecovery
    constructor
    · rintro rfl
      obtain ⟨d, hd, hlinux⟩ := haccepted.linuxContent
      rw [htable.content p hp d hd, hcontent] at hlinux
      exact absurd (Option.some.inj hlinux) (by decide)
    · rintro rfl
      obtain ⟨d, hd, hefi⟩ := haccepted.efiContent
      rw [htable.content p hp d hd, hcontent] at hefi
      exact absurd (Option.some.inj hefi) (by decide)
  refine exists_congr fun p => and_congr_right fun hp => and_congr_right fun hrecovery => ?_
  rw [hstarted, mem_diskAfter heffects, hdoomed]
  simp only [List.mem_cons, List.not_mem_nil, or_false, forall_eq_or_imp, forall_eq]
  constructor
  · rintro ⟨-, hne, -, -, hne'⟩
    exact ⟨hne, hne'⟩
  · rintro ⟨hne, hne'⟩
    exact ⟨hp, hne, (herased p hp hrecovery).1, (herased p hp hrecovery).2, hne'⟩

/-! ## A machine -/

/-- The effect the manual describes, as a function. -/
def documentedEffect : List String → List Partition → List Partition
  | [_, "apfs", "deleteContainer", c], table => table.filter fun p => p.container ≠ some c
  | [_, "eraseVolume", "free", "free", id], table => table.filter fun p => p.identifier ≠ id
  | _, table => table

theorem documentedEffect_effects : Effects documentedEffect where
  deleteContainer _ _ := rfl
  eraseFree _ _ := rfl
  grow _ _ := rfl

/-- macOS, an old installation and its recovery, and what follows them. -/
def installedTable (rest : List Partition) : List Partition :=
  [⟨"disk0s2", "Apple_APFS", some "disk3"⟩, ⟨"disk0s3", "Apple_APFS", some "disk4"⟩,
   ⟨"disk0s4", "EFI", none⟩, ⟨"disk0s5", "Linux Filesystem", none⟩,
   ⟨"disk0s6", "Apple_APFS_Recovery", some "disk5"⟩] ++ rest

/-- The partition at a place of the table, every one of a thousand bytes. -/
def partitionInfo (place : Nat) (p : Partition) : Dict :=
  [("DeviceIdentifier", .str p.identifier), ("ParentWholeDisk", .str "disk0"),
   ("Content", .str p.content), ("VolumeName", .str "Jackrose"),
   ("PartitionMapPartitionOffset", .num (1000 * place : Nat) ""), ("Size", .num 1000 "1000")] ++
    p.container.toList.map fun c => ("APFSContainerReference", .str c)

def installedMachine (table : List Partition) : Machine where
  runDiskutil
    | ["info", "-plist", "/"] =>
        (0, some (.obj [("APFSContainerReference", .str "disk3"),
          ("APFSPhysicalStores", .arr [.obj [("APFSPhysicalStore", .str "disk0s2")]])]))
    | ["info", "-plist", target] =>
        match table.zipIdx.find? fun p => p.1.identifier = target with
        | some p => (0, some (.obj (partitionInfo p.2 p.1)))
        | none => (1, none)
    | ["apfs", "list", "-plist"] =>
        (0, some (.obj [("Containers", .arr (table.flatMap fun p => p.container.toList.map fun c =>
          .obj [("ContainerReference", .str c),
            ("PhysicalStores", .arr [.obj [("DeviceIdentifier", .str p.identifier)]])]))]))
    | ["apfs", "list", "-plist", _] =>
        (0, some (.obj [("Name", .str "Jackrose"), ("Containers", .arr [])]))
    | _ => (1, none)
  process _ := .ok (0, "", "")

def uninstallRequest : HelperRequest where
  schemaVersion := 1
  operation := "jackrose-uninstall"
  target := some "disk0s3"
  dryRun := false
  confirmationToken := some "JACKROSE EXECUTE 0123456789abcdef"
  planID := some "0123456789abcdef"
  arguments := ["disk0s4", "disk0s5", "disk0s6", "disk3"]

/-- A digest, constant. -/
def someDigest : Bytes → String := fun _ => "0123456789abcdef"

/-- A system recovery at the end of the disk. -/
def systemRecovery : List Partition := [⟨"disk0s7", "Apple_APFS_Recovery", some "disk6"⟩]

/-- The answers to the queries, compared with the table one by one. -/
theorem describes_of_answers {m : Machine} {table : List Partition}
    (distinct : (table.map Partition.identifier).Nodup)
    (content : ∀ p ∈ table, (m.info p.identifier).all
      (fun d => decide (strAt d "Content" = some p.content)) = true)
    (container : ∀ p ∈ table, (m.info p.identifier).all
      (fun d => (strAt d "APFSContainerReference").all fun c => p.container = some c) = true)
    (stores : ∀ p ∈ table, apfsContainerReference m p.identifier = p.container) :
    Describes m table where
  distinct := distinct
  content p hp d hd := by
    have hall := content p hp
    rw [hd] at hall
    exact of_decide_eq_true hall
  container p hp d c hd hc := by
    have hall := container p hp
    rw [hd, Option.all_some, hc] at hall
    exact of_decide_eq_true hall
  stores := stores

/-- With a system recovery at the end of the disk, one is left. -/
theorem uninstall_spares_system_recovery :
    ∃ p ∈ installedTable systemRecovery, p.isRecovery = true ∧
      p ∈ diskAfter documentedEffect (installedTable systemRecovery)
        (execute .scalars someDigest (installedMachine (installedTable systemRecovery))
          uninstallRequest).started := by
  refine (uninstall_spares_recovery_iff .scalars someDigest _ uninstallRequest
    (installedTable systemRecovery) documentedEffect documentedEffect_effects
    (describes_of_answers (by decide) (by decide +kernel) (by decide +kernel) (by decide +kernel))
    (by decide) rfl (by decide +kernel)).1.mpr ?_
  exact ⟨⟨"disk0s7", "Apple_APFS_Recovery", some "disk6"⟩, by decide, rfl, by decide +kernel⟩

/-- The only recovery partition of the machine, behind the Linux partition, is
    accepted as the old installation's and lost. -/
theorem only_recovery_lost :
    ¬∀ (S : SwiftText) (sha256 : Bytes → String) (m : Machine) (request : HelperRequest)
      (table : List Partition) (effect : List String → List Partition → List Partition),
      Effects effect → Describes m table →
      Operation.ofName request.operation = .jackroseUninstall → request.dryRun = false →
      (execute S sha256 m request).result.status = .pass →
      ∃ p ∈ table, p.isRecovery = true ∧
        p ∈ diskAfter effect table (execute S sha256 m request).started := by
  intro hclaim
  have hlost := hclaim .scalars someDigest (installedMachine (installedTable [])) uninstallRequest
    (installedTable []) documentedEffect documentedEffect_effects
    (describes_of_answers (by decide) (by decide +kernel) (by decide +kernel) (by decide +kernel))
    (by decide) rfl (by decide +kernel)
  revert hlost
  decide +kernel

end Cidre.Disk
