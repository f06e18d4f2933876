/-
  Cidre.Disk.Snapshot

  Disk snapshots and the two scripts that compare them:

    jackrose-app-disk-snapshot              diskSnapshot
    jackrose-app-protected-partition-guard  protectedPartitionGuard, with two snapshots
    jackrose-app-prepost-disk-diff          prepostDiskDiff

  The guard and the diff classify partitions each in its own way, and neither
  knows the plan.  `protectedPartitionGuard_unchanged` and
  `startup_changed_blocked` say what each answers when a partition it protects
  differs between the snapshots.

  A record has no other keys than those of `Entry`, and one that is missing is the same
  as one that is `null`: the scripts compare dictionaries, which tells the two apart, but
  a snapshot has every key.
-/

import Cidre.Disk.Gate
import Cidre.Lib.Dict
import Cidre.Lib.Pattern

namespace Cidre.Disk

open Pattern

/-! ## Python values that may be missing -/

/-- `a or b`. -/
def orElse {α : Type*} (truthy : α → Bool) (a b : Option α) : Option α :=
  (a.filter truthy).or b

def nonempty (s : String) : Bool := s ≠ ""

def nonzero (n : Nat) : Bool := n ≠ 0

/-- `(s or "").lower()`. -/
def lowered (s : Option String) : List Char :=
  (s.getD "").toList.flatMap lowerChar

/-- `needle in text`. -/
def within (needle : String) (text : List Char) : Bool := occurs needle.toList text

/-- `sorted(s)` of a set of strings, given without repetition. -/
def sortedStrings (s : List String) : List String :=
  s.mergeSort fun a b => decide (a ≤ b)

theorem mem_sortedStrings {s : List String} {x : String} : x ∈ sortedStrings s ↔ x ∈ s :=
  List.mem_mergeSort

/-! ## Snapshots -/

inductive Role where
  | ibootSystemContainer
  | systemRecovery
  | startupContainer
  | startupPreboot
  | startupVm
  | unknownAppleProtected
  | jackroseTarget
  | unclassified
  /-- Every name the scripts do not write themselves. -/
  | other (name : String)
deriving DecidableEq, Repr

namespace Role

def name : Role → String
  | .ibootSystemContainer => "iboot-system-container"
  | .systemRecovery => "system-recovery"
  | .startupContainer => "startup-container"
  | .startupPreboot => "startup-preboot"
  | .startupVm => "startup-vm"
  | .unknownAppleProtected => "unknown-apple-protected"
  | .jackroseTarget => "jackrose-target"
  | .unclassified => "unclassified"
  | .other name => name

def truthy (r : Role) : Bool := nonempty r.name

/-- The roles the diff protects by name. -/
def appleProtected : Role → Bool
  | .ibootSystemContainer | .systemRecovery | .startupContainer
  | .startupPreboot | .startupVm | .unknownAppleProtected => true
  | .jackroseTarget | .unclassified | .other _ => false

end Role

/-- A partition of a snapshot.  `none` is a key that is missing or `null`. -/
structure Entry where
  identifier : Option String
  deviceIdentifier : Option String
  type : Option String
  content : Option String
  name : Option String
  volumeName : Option String
  sizeBytes : Option Nat
  size : Option Nat
  role : Option Role
  protectedFlag : Option Bool
  roles : Option (List String)
  containerReference : Option String
  parentWholeDisk : Option String
deriving DecidableEq

namespace Entry

variable (e : Entry)

/-- `part.get("device_identifier") or part.get("identifier")`. -/
def ident : Option String := orElse nonempty e.deviceIdentifier e.identifier

/-- `part.get("content") or part.get("type")`. -/
def contentOrType : Option String := orElse nonempty e.content e.type

/-- `part.get("volume_name") or part.get("name")`. -/
def label : Option String := orElse nonempty e.volumeName e.name

/-- `part.get("size") or part.get("size_bytes")`. -/
def readSize : Option Nat := orElse nonzero e.size e.sizeBytes

/-- The key of the partition in the maps of the scripts; a partition without an
    identifier has none. -/
def key : Option String := e.ident.filter nonempty

end Entry

structure Snapshot where
  rootIdentifiers : List String
  /-- The partitions of each disk. -/
  disks : List (List Entry)
  partitions : List Entry

/-- `entries`, `partition_entries` and the items of `part_map`. -/
def Snapshot.entries (s : Snapshot) : List Entry :=
  if s.partitions.isEmpty then s.disks.flatten else s.partitions

/-- `partition_map` and `part_map`. -/
def partitionMap (s : Snapshot) : List (String × Entry) :=
  Dict.collect Entry.key id s.entries

theorem lookup_partitionMap (s : Snapshot) (id : String) :
    (partitionMap s).lookup id = Dict.lastWith Entry.key id s.entries := by
  rw [partitionMap, Dict.lookup_collect]
  exact Option.map_id_apply

/-! ## jackrose-app-disk-snapshot -/

/-- A child of `diskutil list -plist`. -/
structure Child where
  deviceIdentifier : Option String
  content : Option String
  volumeName : Option String
  mediaName : Option String
  size : Option Nat
  apfsContainerReference : Option String
  parentWholeDisk : Option String

structure ListedDisk where
  deviceIdentifier : Option String
  partitions : List Child

/-- A volume of `diskutil apfs list -plist`. -/
structure Volume where
  deviceIdentifier : Option String
  name : Option String
  roles : List String

structure Container where
  containerReference : Option String
  volumes : List Volume

/-- `diskutil info -plist /`. -/
structure RootInfo where
  apfsContainerReference : Option String
  deviceIdentifier : Option String
  parentWholeDisk : Option String
  volumeUUID : Option String
  apfsVolumeGroupUUID : Option String
  /-- `APFSPhysicalStore` of each item of `APFSPhysicalStores`. -/
  apfsPhysicalStores : List (Option String)

/-- The answers of the three `diskutil` queries. -/
structure Layout where
  disks : List ListedDisk
  containers : List Container
  root : RootInfo

def RootInfo.startupStores (root : RootInfo) : List String :=
  root.apfsPhysicalStores.filterMap fun store => store.filter nonempty

/-- `role_map`: the volume of each device identifier, with its container. -/
def roleMap (l : Layout) : List (String × Option String × Volume) :=
  Dict.collect (fun v => v.2.deviceIdentifier.filter nonempty) id
    (l.containers.flatMap fun c => c.volumes.map fun v => (c.containerReference, v))

def classifyPartition (root : RootInfo) (identifier content name : Option String)
    (roles : List String) (containerReference : Option String) : Bool × Role :=
  let contentLower := lowered content
  let nameLower := lowered name
  let rolesLower := roles.map fun item => lowered (some item)
  if within "apple_apfs_isc" contentLower then (true, .ibootSystemContainer)
  else if within "apple_apfs_recovery" contentLower then (true, .systemRecovery)
  -- A missing container equals a missing startup container.
  else if containerReference = root.apfsContainerReference ||
      identifier.any (root.startupStores.contains ·) then (true, .startupContainer)
  else if within "recovery" nameLower || within "recovery" contentLower then
    (true, .systemRecovery)
  else if within "preboot" nameLower || rolesLower.contains "preboot".toList then
    (true, .startupPreboot)
  else if nameLower = "vm".toList || rolesLower.contains "vm".toList then (true, .startupVm)
  else if within "apple_" contentLower && !within "linux" contentLower then
    (true, .unknownAppleProtected)
  else if within "jackrose" nameLower then (false, .jackroseTarget)
  else (false, .unclassified)

/-- The partition written for a child of a disk. -/
def snapshotEntry (l : Layout) (diskIdentifier : Option String) (child : Child) : Entry :=
  let volume := child.deviceIdentifier.bind fun id => (roleMap l).lookup id
  let name := orElse nonempty child.volumeName
    (orElse nonempty (volume.bind fun v => v.2.name) child.mediaName)
  let roles := (volume.map fun v => v.2.roles).getD []
  let containerReference := orElse nonempty child.apfsContainerReference
    (volume.bind fun v => v.1)
  let (isProtected, role) :=
    classifyPartition l.root child.deviceIdentifier child.content name roles containerReference
  { identifier := child.deviceIdentifier
    deviceIdentifier := child.deviceIdentifier
    type := child.content
    content := child.content
    name := name
    volumeName := name
    sizeBytes := child.size
    size := child.size
    role := some role
    protectedFlag := some isProtected
    roles := some roles
    containerReference := containerReference
    parentWholeDisk := orElse nonempty child.parentWholeDisk diskIdentifier }

def diskSnapshot (l : Layout) : Snapshot :=
  let disks := l.disks.map fun disk =>
    disk.partitions.map (snapshotEntry l disk.deviceIdentifier)
  { rootIdentifiers := sortedStrings (List.dedup (([l.root.apfsContainerReference,
      l.root.deviceIdentifier, l.root.parentWholeDisk, l.root.volumeUUID,
      l.root.apfsVolumeGroupUUID].filterMap id) ++ l.root.startupStores))
    disks := disks
    partitions := disks.flatten }

/-- Both spellings of the partitions of a written snapshot are the same list. -/
theorem entries_diskSnapshot (l : Layout) :
    (diskSnapshot l).entries = l.disks.flatMap fun disk =>
      disk.partitions.map (snapshotEntry l disk.deviceIdentifier) := by
  rw [Snapshot.entries, diskSnapshot]
  rw [List.flatMap_def]
  exact ite_self _

/-- A partition is written the same way from layouts that agree on the root and
    the containers. -/
theorem snapshotEntry_congr {l l' : Layout} (hroot : l'.root = l.root)
    (hcontainers : l'.containers = l.containers) : snapshotEntry l' = snapshotEntry l := by
  unfold snapshotEntry roleMap
  rw [hroot, hcontainers]

theorem readSize_snapshotEntry (l : Layout) (disk : Option String) (c : Child) :
    (snapshotEntry l disk c).readSize = c.size := by
  show orElse nonzero c.size c.size = c.size
  rw [orElse]
  cases c.size with
  | none => rfl
  | some n => by_cases hn : n = 0 <;> simp [Option.filter, nonzero, hn]

/-- A physical store of the startup container is protected as such, unless its
    content is one of the two Apple types looked for first. -/
theorem snapshotEntry_startupStore {l : Layout} {disk : Option String} {c : Child} {store : String}
    (hid : c.deviceIdentifier = some store) (hstore : store ∈ l.root.startupStores)
    (hisc : within "apple_apfs_isc" (lowered c.content) = false)
    (hrecovery : within "apple_apfs_recovery" (lowered c.content) = false) :
    (snapshotEntry l disk c).role = some .startupContainer ∧
      (snapshotEntry l disk c).protectedFlag = some true := by
  have hmem : c.deviceIdentifier.any (l.root.startupStores.contains ·) = true := by
    simpa [hid] using hstore
  have hclass : ∀ name roles ref, classifyPartition l.root c.deviceIdentifier c.content name roles
      ref = (true, .startupContainer) := by
    intro name roles ref
    simp only [classifyPartition, hisc, hrecovery, hmem, Bool.or_true, if_true, if_false,
      Bool.false_eq_true]
  rw [snapshotEntry]
  simp only [hclass]
  exact ⟨trivial, trivial⟩

/-! ## jackrose-app-protected-partition-guard -/

/-- A check of a safety script; the reason of one that passes is `None`. -/
structure SafetyCheck where
  id : String
  passed : Bool
  reason : Json

def safetyCheck (id : String) (passed : Bool) (reason : Json) : SafetyCheck :=
  ⟨id, passed, if passed then .null else reason⟩

/-- What the guard compares of a protected partition. -/
structure ProtectedPartition where
  identifier : Option String
  content : Option String
  volumeName : Option String
  size : Option Nat
  roles : List String
  role : Role
deriving DecidableEq

/-- `protected_flag`: the flag of the snapshot, or the guard's own rule. -/
def guardProtects (rootIds : List String) (e : Entry) : Bool :=
  match e.protectedFlag with
  | some flag => flag
  | none =>
      e.ident.any (rootIds.contains ·) || within "recovery" (lowered e.contentOrType) ||
        within "recovery" (lowered e.label) || within "apple_" (lowered e.contentOrType)

def guardKey (rootIds : List String) (e : Entry) : Option String :=
  if guardProtects rootIds e then e.key else none

def protectedPartition (e : Entry) : ProtectedPartition :=
  { identifier := e.ident
    content := e.contentOrType
    volumeName := e.label
    size := e.readSize
    roles := e.roles.getD []
    role := (e.role.filter Role.truthy).getD .unclassified }

/-- `classify(snapshot)`. -/
def classify (s : Snapshot) : List (String × ProtectedPartition) :=
  Dict.collect (guardKey s.rootIdentifiers) protectedPartition s.entries

def checkSet (s : Snapshot) (protectedParts : List (String × ProtectedPartition)) :
    List SafetyCheck :=
  [safetyCheck "apple-recovery-present"
      (protectedParts.any fun p => p.2.role = .systemRecovery)
      (.str "Apple_APFS_Recovery is missing"),
   safetyCheck "startup-container-present"
      (protectedParts.any fun p => p.2.role = .startupContainer)
      (.str "macOS startup container is missing"),
   safetyCheck "protected-partitions-classified" (!protectedParts.isEmpty)
      (.str "Protected Apple partitions could not be classified"),
   safetyCheck "unknown-apple-partitions-accounted" (!s.entries.isEmpty)
      (.str "Disk snapshot is empty")]

structure GuardReport where
  status : GateStatus
  summary : String
  failures : List String
  checks : List SafetyCheck
  beforeProtected : List (String × ProtectedPartition)
  afterProtected : List (String × ProtectedPartition)

/-- The failures of the comparison, before those of `check_set`. -/
def guardDifferences (before after : List (String × ProtectedPartition)) : List String :=
  (before.flatMap fun p =>
    match after.lookup p.1 with
    | none => ["protected-partition-missing:" ++ p.1]
    | some current =>
        if p.2 ≠ current then ["protected-partition-changed:" ++ p.1] else []) ++
  (after.flatMap fun p =>
    if (before.lookup p.1).isNone then
      ["protected-partition-added:" ++ p.1 ++ ":" ++ p.2.role.name]
    else [])

def protectedPartitionGuard (before after : Snapshot) : GuardReport :=
  let beforeProtected := classify before
  let afterProtected := classify after
  let checks := checkSet after afterProtected
  let failures := guardDifferences beforeProtected afterProtected ++
    (checks.filter fun c => !c.passed).map SafetyCheck.id
  { status := if failures.isEmpty then .passed else .failed
    summary := if failures.isEmpty then "Protected Apple partitions remain unchanged."
      else "Protected Apple partition changed unexpectedly."
    failures := failures
    checks := checks
    beforeProtected := beforeProtected
    afterProtected := afterProtected }

theorem lookup_classify (s : Snapshot) (id : String) :
    (classify s).lookup id =
      (Dict.lastWith (guardKey s.rootIdentifiers) id s.entries).map protectedPartition :=
  Dict.lookup_collect _ _ _ _

/-- The guard's comparison finds nothing when both snapshots protect the same. -/
theorem guardDifferences_nil_iff_lookup {before after : Snapshot} :
    guardDifferences (classify before) (classify after) = [] ↔
      ∀ id, (classify before).lookup id = (classify after).lookup id := by
  constructor
  · intro hnil id
    obtain ⟨hkept, hadded⟩ := List.append_eq_nil_iff.mp hnil
    cases hb : (classify before).lookup id with
    | some baseline =>
      have hp := List.flatMap_eq_nil_iff.mp hkept _ (Dict.mem_of_lookup hb)
      cases ha : (classify after).lookup id with
      | none => simp [ha] at hp
      | some current =>
        rw [ha] at hp
        by_cases hc : baseline = current
        · rw [hc]
        · simp [hc] at hp
    | none =>
      cases ha : (classify after).lookup id with
      | none => rfl
      | some current =>
        have hp := List.flatMap_eq_nil_iff.mp hadded _ (Dict.mem_of_lookup ha)
        simp [hb] at hp
  · intro heq
    unfold guardDifferences
    rw [List.append_eq_nil_iff, List.flatMap_eq_nil_iff, List.flatMap_eq_nil_iff]
    refine ⟨fun p hp => ?_, fun p hp => ?_⟩
    · have hlast : (classify before).lookup p.1 = some p.2 :=
        Dict.lookup_of_mem (Dict.nodup_keys_collect _ _ _) hp
      rw [← heq p.1, hlast]
      exact if_neg fun hne => hne rfl
    · have hlast : (classify after).lookup p.1 = some p.2 :=
        Dict.lookup_of_mem (Dict.nodup_keys_collect _ _ _) hp
      rw [heq p.1, hlast]
      exact if_neg fun hnone => nomatch hnone

/-- A guard that passes saw the same protected partitions in both snapshots. -/
theorem protectedPartitionGuard_unchanged {before after : Snapshot}
    (h : (protectedPartitionGuard before after).status = .passed) (id : String) :
    (classify before).lookup id = (classify after).lookup id := by
  have hfail : (protectedPartitionGuard before after).failures = [] := by
    by_contra hne
    have hfailed : (protectedPartitionGuard before after).status = .failed :=
      if_neg fun hempty => hne (List.isEmpty_iff.mp hempty)
    exact absurd (h.symm.trans hfailed) (by decide)
  exact guardDifferences_nil_iff_lookup.mp (List.append_eq_nil_iff.mp hfail).1 id

/-! ## jackrose-app-prepost-disk-diff -/

/-- The condition under which the diff adds a partition to `ids`. -/
def diffProtects (ids : List (Option String)) (e : Entry) : Bool :=
  e.protectedFlag = some true || e.role.any Role.appleProtected || ids.contains e.ident ||
    within "apple_" (lowered e.contentOrType) || within "recovery" (lowered e.label)

/-- `protected_ids(snapshot)`; a partition without an identifier adds `None`. -/
def protectedIds (s : Snapshot) : List (Option String) :=
  s.entries.foldl (fun ids e => if diffProtects ids e then ids ++ [e.ident] else ids)
    (s.rootIdentifiers.map some)

/-- A record the diff protects whatever its identifier is. -/
def diffProtectsRecord (e : Entry) : Bool :=
  e.protectedFlag = some true || e.role.any Role.appleProtected ||
    within "apple_" (lowered e.contentOrType) || within "recovery" (lowered e.label)

theorem diffProtects_eq (ids : List (Option String)) (e : Entry) :
    diffProtects ids e = (diffProtectsRecord e || ids.contains e.ident) := by
  unfold diffProtects diffProtectsRecord
  rw [Bool.or_right_comm _ (ids.contains e.ident), Bool.or_right_comm _ (ids.contains e.ident)]

def roleFor : Option Entry → Role
  | none => .unclassified
  | some part =>
      (part.role.filter Role.truthy).getD
        (if within "jackrose" (lowered (orElse nonempty part.name part.volumeName)) then
          .jackroseTarget
        else .unclassified)

inductive ChangeType where
  | partitionCreated
  | partitionMissing
  | partitionChanged
deriving DecidableEq, Repr

structure Change where
  type : ChangeType
  identifier : String
  role : Role
deriving DecidableEq

/-- The reason a protected change gives. -/
def Change.blockedReason (c : Change) : String :=
  match c.role with
  | .systemRecovery =>
      if c.type = .partitionMissing then "apple-recovery-missing" else "system-recovery-changed"
  | .startupContainer => "startup-container-changed"
  | .unknownAppleProtected => "unknown-apple-partition-touched"
  | _ => "protected partition changed"

structure DiffReport where
  status : GateStatus
  summary : String
  addedIdentifiers : List String
  removedIdentifiers : List String
  changedIdentifiers : List String
  unexpectedProtectedChanges : List Change
  allowedTargetChanges : List Change
  blockedReasons : List String

/-- `sorted(set(a) - set(b))` on the keys of two maps. -/
def onlyIn (a b : List (String × Entry)) : List String :=
  sortedStrings ((a.map Prod.fst).filter fun id => (b.lookup id).isNone)

/-- The identifiers of both maps whose partitions differ. -/
def changedIn (before after : List (String × Entry)) : List String :=
  sortedStrings ((before.map Prod.fst).filter fun id =>
    (after.lookup id).isSome && before.lookup id ≠ after.lookup id)

/-- The entry the loop over the changes makes for `id`. -/
def changeOf (before after : List (String × Entry)) (id : String) : Change :=
  { type :=
      if id ∈ onlyIn after before then .partitionCreated
      else if id ∈ onlyIn before after then .partitionMissing
      else .partitionChanged
    identifier := id
    role := roleFor ((after.lookup id).or (before.lookup id)) }

def prepostDiskDiff (before after : Snapshot) : DiffReport :=
  let beforeParts := partitionMap before
  let afterParts := partitionMap after
  let protectedSet := protectedIds before ++ protectedIds after
  let added := onlyIn afterParts beforeParts
  let removed := onlyIn beforeParts afterParts
  let changed := changedIn beforeParts afterParts
  let changes := (added ++ removed ++ changed).map (changeOf beforeParts afterParts)
  let unexpected := changes.filter fun c => protectedSet.contains (some c.identifier)
  { status := if unexpected.isEmpty then .passed else .failed
    summary := if unexpected.isEmpty then "Disk diff contains only non-protected changes."
      else "Disk diff detected protected partition changes."
    addedIdentifiers := added
    removedIdentifiers := removed
    changedIdentifiers := changed
    unexpectedProtectedChanges := unexpected
    allowedTargetChanges := changes.filter fun c => !protectedSet.contains (some c.identifier)
    blockedReasons := unexpected.map Change.blockedReason }

theorem mem_onlyIn {a b : List (String × Entry)} {id : String} :
    id ∈ onlyIn a b ↔ (a.lookup id).isSome = true ∧ b.lookup id = none := by
  rw [onlyIn, mem_sortedStrings, List.mem_filter, Dict.lookup_isSome_iff, Option.isNone_iff_eq_none]

theorem mem_changedIn {before after : List (String × Entry)} {id : String} {b a : Entry}
    (hb : before.lookup id = some b) (ha : after.lookup id = some a) (hne : b ≠ a) :
    id ∈ changedIn before after := by
  rw [changedIn, mem_sortedStrings, List.mem_filter]
  refine ⟨Dict.lookup_isSome_iff.mp (by rw [hb]; rfl), ?_⟩
  rw [hb, ha]
  simpa using hne

/-- An identifier is protected as a root identifier or for one of its records. -/
theorem mem_protectedIds_iff {s : Snapshot} {x : Option String} : x ∈ protectedIds s ↔
    x ∈ s.rootIdentifiers.map some ∨
      ∃ e ∈ s.entries, e.ident = x ∧ diffProtectsRecord e = true := by
  unfold protectedIds
  generalize s.rootIdentifiers.map some = ids
  generalize s.entries = l
  induction l generalizing ids with
  | nil => simp
  | cons e l ih =>
    rw [List.foldl_cons, ih, List.exists_mem_cons_iff, diffProtects_eq]
    cases hrecord : diffProtectsRecord e with
    | true =>
      rw [Bool.true_or, if_pos rfl, List.mem_append, List.mem_singleton, or_assoc,
        eq_comm (a := x)]
      simp only [and_true]
    | false =>
      have hgrown : x ∈ (if (false || ids.contains e.ident) = true then ids ++ [e.ident]
          else ids) ↔ x ∈ ids := by
        split
        · next hmem =>
          rw [Bool.false_or, List.contains_iff_mem] at hmem
          rw [List.mem_append, List.mem_singleton]
          exact ⟨fun hx => hx.elim (fun hx => hx) fun hx => hx ▸ hmem, Or.inl⟩
        · exact Iff.rfl
      rw [hgrown]
      simp

/-- A partition the diff protects stays among the protected identifiers. -/
theorem mem_protectedIds {s : Snapshot} {e : Entry} (he : e ∈ s.entries)
    (hp : e.protectedFlag = some true) : e.ident ∈ protectedIds s := by
  have hrecord : diffProtectsRecord e = true := by simp [diffProtectsRecord, hp]
  exact mem_protectedIds_iff.mpr (Or.inr ⟨e, he, rfl, hrecord⟩)

/-- A protected startup container that differs between the snapshots blocks the
    diff. -/
theorem startup_changed_blocked {before after : Snapshot} {id : String} {b a : Entry}
    (hb : (partitionMap before).lookup id = some b) (ha : (partitionMap after).lookup id = some a)
    (hne : b ≠ a) (hrole : a.role = some .startupContainer)
    (hp : some id ∈ protectedIds before ++ protectedIds after) :
    "startup-container-changed" ∈ (prepostDiskDiff before after).blockedReasons := by
  have hchange : (changeOf (partitionMap before) (partitionMap after) id).blockedReason =
      "startup-container-changed" := by
    have hr : (changeOf (partitionMap before) (partitionMap after) id).role =
        .startupContainer := by
      show roleFor (((partitionMap after).lookup id).or ((partitionMap before).lookup id)) = _
      rw [ha, Option.some_or]
      show (a.role.filter Role.truthy).getD _ = _
      rw [hrole]
      rfl
    rw [Change.blockedReason, hr]
  refine List.mem_map.mpr ⟨_, List.mem_filter.mpr ⟨List.mem_map.mpr ⟨id, ?_, rfl⟩, ?_⟩, hchange⟩
  · exact List.mem_append_right _ (mem_changedIn hb ha hne)
  · exact List.contains_iff_mem.mpr hp

/-- Without a partition that is gone, no reason says that recovery is missing. -/
theorem recovery_not_missing {before after : Snapshot}
    (h : ∀ id, ((partitionMap before).lookup id).isSome = true →
      (partitionMap after).lookup id ≠ none) :
    "apple-recovery-missing" ∉ (prepostDiskDiff before after).blockedReasons := by
  intro hmem
  obtain ⟨c, hc, hreason⟩ := List.mem_map.mp hmem
  obtain ⟨id, -, rfl⟩ := List.mem_map.mp (List.mem_filter.mp hc).1
  have htype : (changeOf (partitionMap before) (partitionMap after) id).type ≠
      .partitionMissing := by
    intro htype
    have hgone : id ∈ onlyIn (partitionMap before) (partitionMap after) := by
      by_contra hnot
      by_cases hadd : id ∈ onlyIn (partitionMap after) (partitionMap before)
      · simp [changeOf, hadd] at htype
      · simp [changeOf, hadd, hnot] at htype
    obtain ⟨hb, ha⟩ := mem_onlyIn.mp hgone
    exact h id hb ha
  unfold Change.blockedReason at hreason
  split at hreason <;> simp [htype] at hreason

end Cidre.Disk
