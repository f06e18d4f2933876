/-
  Cidre.Disk.MutationVerify

  jackrose-app-mutation-verify: the verdict on a pair of snapshots taken around
  a planned mutation, from the guard, the diff and the recovery survival check.

  A plan of the installer may name the startup APFS physical store as its
  target: jackrose-app-install-target-check passes it ("may be resized for
  controlled install").  `PlannedResize` is what such a plan does to a
  snapshot.  The verdict on it is always `failed`
  (`mutationVerify_startup_resize`): the guard and the diff both hold the
  target to be a protected partition that must not change.
-/

import Cidre.Disk.Snapshot

namespace Cidre.Disk

/-! ## jackrose-app-mutation-verify -/

structure Verification where
  target : Json
  checks : List SafetyCheck

namespace Verification

/-- `errors`: one for each check that did not pass. -/
def errors (v : Verification) : List SafetyCheck := v.checks.filter fun c => !c.passed

def status (v : Verification) : GateStatus := if v.errors.isEmpty then .passed else .failed

def summary (v : Verification) : String :=
  if v.errors.isEmpty then "Mutation verification passed." else "Mutation verification failed."

def exitCode (v : Verification) : Nat := if v.errors.isEmpty then 0 else 8

end Verification

/-- `parts.get(target)`. -/
def getPart (parts : List (String × Entry)) : Json → Option Entry
  | .str t => parts.lookup t
  | _ => none

/-- The checks of the script, in order. -/
def verifyChecks (before after : Snapshot) (target : Json) (recoveryPassed : Bool)
    (recoverySummary : Json) : List SafetyCheck :=
  let guard := protectedPartitionGuard before after
  let diff := prepostDiskDiff before after
  let targetChanged :=
    decide (getPart (partitionMap before) target ≠ getPart (partitionMap after) target)
  let expectedTargetObserved :=
    diff.allowedTargetChanges.any (fun item => target.isStr item.identifier) || targetChanged
  [safetyCheck "planned-target-changed" expectedTargetObserved
    (.str "The planned disposable target did not change as expected."),
   safetyCheck "protected-partitions-unchanged" (guard.status = .passed) (.str guard.summary),
   safetyCheck "recovery-survival" recoveryPassed
    (if recoverySummary.truthy then recoverySummary else .str "Recovery survival check failed."),
   safetyCheck "apple-recovery-present"
    (!diff.blockedReasons.contains "apple-recovery-missing")
    (.str "Apple_APFS_Recovery is missing after mutation."),
   safetyCheck "startup-container-unchanged"
    (!diff.blockedReasons.contains "startup-container-changed")
    (.str "The startup container changed unexpectedly.")]

/-- The script on the two snapshots, the plan and the output of the recovery
    survival check; `none` when it ends in a traceback. -/
def mutationVerify (before after : Snapshot) (plan recovery : Json) : Option Verification := do
  let target ← plan.get "target"
  -- An unhashable target raises in `before_parts.get(target)`.
  if !target.hashable then none else
  let recoveryPassed ← statusPassed recovery
  let recoverySummary ← recovery.get "summary"
  some ⟨target, verifyChecks before after target recoveryPassed recoverySummary⟩

/-- With a target and a passing survival check the script returns. -/
theorem mutationVerify_eq {plan recovery : Json} {t : String}
    (htarget : plan.get "target" = some (.str t))
    (hrecovery : recovery.get "status" = some (.str "passed")) (before after : Snapshot) :
    ∃ summary, mutationVerify before after plan recovery =
      some ⟨.str t, verifyChecks before after (.str t) true summary⟩ := by
  obtain ⟨fields, rfl, -⟩ := Json.get_eq_some hrecovery
  have hpassed : statusPassed (.obj fields) = some true := by
    rw [statusPassed, hrecovery]
    rfl
  refine ⟨Json.field fields "summary", ?_⟩
  rw [mutationVerify, htarget, hpassed]
  rfl

/-! ## A planned resize of the startup store -/

/-- `e'` is `e` with its size shrunk by `amount`. -/
structure Shrunk (amount : Nat) (e e' : Entry) : Prop where
  same : { e' with size := e.size, sizeBytes := e.sizeBytes } = e
  shrunk : ∃ s, e.readSize = some s ∧ 0 < amount ∧ amount ≤ s ∧ e'.readSize = some (s - amount)

/-- What happens to a partition of the snapshot: the target shrinks, every other
    one is kept. -/
def KeptOrShrunk (target : String) (amount : Nat) (e e' : Entry) : Prop :=
  if e.key = some target then Shrunk amount e e' else e' = e

/-- The after-snapshot of a plan that takes `amount` bytes from the startup
    container `target` and puts a new Jackrose partition of `created` bytes on
    the disk. -/
structure PlannedResize (before after : Snapshot) (target : String) (amount created : Nat) :
    Prop where
  roots : after.rootIdentifiers = before.rootIdentifiers
  listed : ∃ e ∈ before.entries, e.key = some target
  startup : ∀ e ∈ before.entries, e.key = some target →
    e.role = some .startupContainer ∧ e.protectedFlag = some true
  resized : ∃ l r : List Entry, ∃ new : Entry, ∃ id : String,
    after.entries = l ++ new :: r ∧
    List.Forall₂ (KeptOrShrunk target amount) before.entries (l ++ r) ∧
    new.key = some id ∧ (∀ e ∈ before.entries, e.key ≠ some id) ∧
    new.role = some .jackroseTarget ∧ new.protectedFlag = some false ∧
    new.readSize = some created

namespace Shrunk

variable {amount : Nat} {e e' : Entry}

theorem key_eq (h : Shrunk amount e e') : e.key = e'.key := by
  rw [← h.same]
  rfl

theorem role_eq (h : Shrunk amount e e') : e'.role = e.role := by
  rw [← h.same]

theorem guardKey_eq (h : Shrunk amount e e') (rootIds : List String) :
    guardKey rootIds e = guardKey rootIds e' := by
  rw [← h.same]
  rfl

theorem readSize_ne (h : Shrunk amount e e') : e.readSize ≠ e'.readSize := by
  obtain ⟨s, hs, hpos, hle, hs'⟩ := h.shrunk
  rw [hs, hs']
  intro heq
  have : s = s - amount := Option.some.inj heq
  omega

end Shrunk

theorem KeptOrShrunk.key_eq {target : String} {amount : Nat} {e e' : Entry}
    (h : KeptOrShrunk target amount e e') : e.key = e'.key := by
  unfold KeptOrShrunk at h
  split at h
  · exact h.key_eq
  · rw [h]

theorem KeptOrShrunk.guardKey_eq {target : String} {amount : Nat} {e e' : Entry}
    (h : KeptOrShrunk target amount e e') (rootIds : List String) :
    guardKey rootIds e = guardKey rootIds e' := by
  unfold KeptOrShrunk at h
  split at h
  · exact h.guardKey_eq rootIds
  · rw [h]

/-- Partitions related pointwise have related last ones under every key they
    are filed under. -/
theorem KeptOrShrunk.lastWith {target : String} {amount : Nat} {key : Entry → Option String}
    (hkey : ∀ e e', KeptOrShrunk target amount e e' → key e = key e')
    {es es' : List Entry} (h : List.Forall₂ (KeptOrShrunk target amount) es es')
    {id : String} {e : Entry} (he : Dict.lastWith key id es = some e) :
    ∃ e', Dict.lastWith key id es' = some e' ∧ KeptOrShrunk target amount e e' := by
  have hrel := Dict.lastWith_rel hkey h id
  rw [he] at hrel
  generalize hl : Dict.lastWith key id es' = x at hrel
  cases hrel with
  | some hrel => exact ⟨_, rfl, hrel⟩

namespace PlannedResize

variable {before after : Snapshot} {target : String} {amount created : Nat}

/-- A partition of the before-snapshot is kept or shrunk in the map of the
    after-snapshot. -/
theorem lookup_after (h : PlannedResize before after target amount created)
    {id : String} {e : Entry} (he : (partitionMap before).lookup id = some e) :
    ∃ e', (partitionMap after).lookup id = some e' ∧ KeptOrShrunk target amount e e' := by
  obtain ⟨l, r, new, newId, hafter, hrel, hkey, hfresh, -⟩ := h.resized
  rw [lookup_partitionMap] at he ⊢
  obtain ⟨hmem, hid⟩ := Dict.mem_of_lastWith he
  have hnew : new.key ≠ some id := fun heq =>
    hfresh e hmem (hid.trans (heq.symm.trans hkey))
  rw [hafter, Dict.lastWith_insert hnew]
  exact KeptOrShrunk.lastWith (fun _ _ => KeptOrShrunk.key_eq) hrel he

/-- The target is in both maps, and shrank. -/
theorem target_shrunk (h : PlannedResize before after target amount created) :
    ∃ e e', (partitionMap before).lookup target = some e ∧
      (partitionMap after).lookup target = some e' ∧ e ∈ before.entries ∧
      e.key = some target ∧ Shrunk amount e e' := by
  obtain ⟨e₀, he₀, hkey₀⟩ := h.listed
  obtain ⟨e, he⟩ := Dict.exists_lastWith he₀ hkey₀
  obtain ⟨hmem, hkey⟩ := Dict.mem_of_lastWith he
  have hlookup := (lookup_partitionMap before target).trans he
  obtain ⟨e', he', hrel⟩ := h.lookup_after hlookup
  rw [KeptOrShrunk, if_pos hkey] at hrel
  exact ⟨e, e', hlookup, he', hmem, hkey, hrel⟩

/-- The guard files the target under its identifier in both snapshots, with
    different sizes. -/
theorem classify_ne (h : PlannedResize before after target amount created) :
    (classify before).lookup target ≠ (classify after).lookup target := by
  obtain ⟨l, r, new, newId, hafter, hrel, hkey, hfresh, -⟩ := h.resized
  obtain ⟨e₀, he₀, hkey₀⟩ := h.listed
  have hprotected : ∀ e ∈ before.entries, e.key = some target →
      guardKey before.rootIdentifiers e = some target := by
    intro e hmem hk
    rw [guardKey, guardProtects, (h.startup e hmem hk).2, if_pos rfl, hk]
  obtain ⟨e, he⟩ := Dict.exists_lastWith he₀ (hprotected e₀ he₀ hkey₀)
  obtain ⟨hmem, hguard⟩ := Dict.mem_of_lastWith he
  have hk : e.key = some target := by
    rw [guardKey] at hguard
    split at hguard
    · exact hguard
    · exact absurd hguard (by simp)
  have hnew : guardKey after.rootIdentifiers new ≠ some target := by
    rw [guardKey]
    split
    · exact fun heq => hfresh e hmem (hk.trans (heq.symm.trans hkey))
    · simp
  obtain ⟨e', he', hks⟩ :=
    KeptOrShrunk.lastWith (fun _ _ hr => hr.guardKey_eq before.rootIdentifiers) hrel he
  rw [lookup_classify, lookup_classify, he, hafter, Dict.lastWith_insert hnew, h.roots, he']
  rw [KeptOrShrunk, if_pos hk] at hks
  intro heq
  exact hks.readSize_ne (congrArg ProtectedPartition.size (Option.some.inj heq))

theorem guard_failed (h : PlannedResize before after target amount created) :
    (protectedPartitionGuard before after).status ≠ .passed :=
  fun hpassed => h.classify_ne (protectedPartitionGuard_unchanged hpassed target)

theorem startup_blocked (h : PlannedResize before after target amount created) :
    "startup-container-changed" ∈ (prepostDiskDiff before after).blockedReasons := by
  obtain ⟨e, e', hb, ha, hmem, hkey, hshrunk⟩ := h.target_shrunk
  obtain ⟨hrole, hflag⟩ := h.startup e hmem hkey
  have hne : e ≠ e' := fun heq => hshrunk.readSize_ne (congrArg Entry.readSize heq)
  have hident : e.ident = some target := (Option.filter_eq_some_iff.mp hkey).1
  have hids : some target ∈ protectedIds before := hident ▸ mem_protectedIds hmem hflag
  exact startup_changed_blocked hb ha hne (hshrunk.role_eq.trans hrole)
    (List.mem_append_left _ hids)

theorem recovery_present (h : PlannedResize before after target amount created) :
    "apple-recovery-missing" ∉ (prepostDiskDiff before after).blockedReasons := by
  refine recovery_not_missing fun id hsome => ?_
  obtain ⟨e, he⟩ := Option.isSome_iff_exists.mp hsome
  obtain ⟨e', he', -⟩ := h.lookup_after he
  rw [he']
  exact Option.some_ne_none e'

end PlannedResize

/-- The checks that fail on a planned resize of the startup container. -/
theorem PlannedResize.errors {before after : Snapshot} {target : String} {amount created : Nat}
    (h : PlannedResize before after target amount created) (summary : Json) :
    (Verification.mk (.str target)
      (verifyChecks before after (.str target) true summary)).errors.map SafetyCheck.id =
        ["protected-partitions-unchanged", "startup-container-unchanged"] := by
  have hchanged : (partitionMap before).lookup target ≠ (partitionMap after).lookup target := by
    obtain ⟨e, e', hb, ha, -, -, hshrunk⟩ := h.target_shrunk
    rw [hb, ha]
    exact fun heq => hshrunk.readSize_ne (congrArg Entry.readSize (Option.some.inj heq))
  simp [Verification.errors, verifyChecks, safetyCheck, getPart, hchanged, h.guard_failed,
    h.recovery_present, h.startup_blocked]

/-! ## The resize on the disk -/

/-- The physical store loses `amount` bytes. -/
def shrinkChild (store : String) (amount : Nat) (c : Child) : Child :=
  if c.deviceIdentifier = some store then { c with size := c.size.map (· - amount) } else c

def shrinkDisk (store : String) (amount : Nat) (disk : ListedDisk) : ListedDisk :=
  { disk with partitions := disk.partitions.map (shrinkChild store amount) }

/-- What `diskutil` lists after a plan took `amount` bytes from the startup
    store and added a partition next to it. -/
structure StoreResize (before after : Layout) (store : String) (amount created : Nat) : Prop where
  root : after.root = before.root
  containers : after.containers = before.containers
  isStore : store ∈ before.root.startupStores
  positive : 0 < amount
  listed : ∃ disk ∈ before.disks, ∃ c ∈ disk.partitions, c.deviceIdentifier = some store
  fits : ∀ disk ∈ before.disks, ∀ c ∈ disk.partitions, c.deviceIdentifier = some store →
    within "apple_apfs_isc" (lowered c.content) = false ∧
    within "apple_apfs_recovery" (lowered c.content) = false ∧
    ∃ s, c.size = some s ∧ amount ≤ s
  added : ∃ pre post : List ListedDisk, ∃ disk : ListedDisk, ∃ l r : List Child, ∃ new : Child,
    ∃ id : String,
    before.disks = pre ++ { disk with partitions := l ++ r } :: post ∧
    after.disks = pre.map (shrinkDisk store amount) ++
      { disk with partitions := l.map (shrinkChild store amount) ++
          new :: r.map (shrinkChild store amount) } ::
      post.map (shrinkDisk store amount) ∧
    new.deviceIdentifier = some id ∧ id ≠ "" ∧
    (∀ d ∈ before.disks, ∀ c ∈ d.partitions, c.deviceIdentifier ≠ some id) ∧
    (snapshotEntry after disk.deviceIdentifier new).role = some .jackroseTarget ∧
    (snapshotEntry after disk.deviceIdentifier new).protectedFlag = some false ∧
    new.size = some created

theorem key_snapshotEntry (l : Layout) (disk : Option String) (c : Child) :
    (snapshotEntry l disk c).key = c.deviceIdentifier.filter nonempty := by
  show (orElse nonempty c.deviceIdentifier c.deviceIdentifier).filter nonempty = _
  rw [orElse]
  cases c.deviceIdentifier with
  | none => rfl
  | some s => by_cases hs : nonempty s = true <;> simp [Option.filter, hs]

/-- A partition is in the snapshot under its device identifier only. -/
theorem key_snapshotEntry_iff {l : Layout} {disk : Option String} {c : Child} {id : String}
    (hid : id ≠ "") :
    (snapshotEntry l disk c).key = some id ↔ c.deviceIdentifier = some id := by
  rw [key_snapshotEntry, Option.filter_eq_some_iff]
  exact ⟨And.left, fun h => ⟨h, by simpa [nonempty] using hid⟩⟩

theorem snapshotEntry_shrinkChild {l : Layout} {disk : Option String} {c : Child} {store : String}
    {amount : Nat} (hstore : store ≠ "") (hpos : 0 < amount)
    (hfits : c.deviceIdentifier = some store → ∃ s, c.size = some s ∧ amount ≤ s) :
    KeptOrShrunk store amount (snapshotEntry l disk c)
      (snapshotEntry l disk (shrinkChild store amount c)) := by
  rw [KeptOrShrunk]
  by_cases hc : c.deviceIdentifier = some store
  · obtain ⟨s, hs, hle⟩ := hfits hc
    rw [if_pos ((key_snapshotEntry_iff hstore).mpr hc), shrinkChild, if_pos hc]
    refine ⟨rfl, s, ?_, hpos, hle, ?_⟩
    · rw [readSize_snapshotEntry, hs]
    · rw [readSize_snapshotEntry, hs]
      rfl
  · rw [if_neg (mt (key_snapshotEntry_iff hstore).mp hc), shrinkChild, if_neg hc]

/-- The partitions written for a list of disks. -/
def writtenEntries (l : Layout) (disks : List ListedDisk) : List Entry :=
  disks.flatMap fun disk => disk.partitions.map (snapshotEntry l disk.deviceIdentifier)

namespace StoreResize

variable {before after : Layout} {store : String} {amount created : Nat}

theorem store_ne (h : StoreResize before after store amount created) : store ≠ "" := by
  obtain ⟨x, -, hx⟩ := List.mem_filterMap.mp h.isStore
  simpa [nonempty] using (Option.filter_eq_some_iff.mp hx).2

/-- The partitions of one disk, or of a part of it, are kept or shrunk. -/
theorem children (h : StoreResize before after store amount created) {d : ListedDisk}
    (hd : d ∈ before.disks) (cs : List Child) (hcs : ∀ c ∈ cs, c ∈ d.partitions) :
    List.Forall₂ (KeptOrShrunk store amount)
      (cs.map (snapshotEntry before d.deviceIdentifier))
      ((cs.map (shrinkChild store amount)).map (snapshotEntry before d.deviceIdentifier)) := by
  rw [List.map_map, List.forall₂_map_left_iff, List.forall₂_map_right_iff, List.forall₂_same]
  intro c hc
  exact snapshotEntry_shrinkChild h.store_ne h.positive fun hid => (h.fits d hd c (hcs c hc) hid).2.2

/-- The partitions of whole disks are kept or shrunk. -/
theorem disks (h : StoreResize before after store amount created) (ds : List ListedDisk)
    (hds : ∀ d ∈ ds, d ∈ before.disks) :
    List.Forall₂ (KeptOrShrunk store amount) (writtenEntries before ds)
      (writtenEntries before (ds.map (shrinkDisk store amount))) := by
  induction ds with
  | nil => exact .nil
  | cons d ds ih =>
    unfold writtenEntries at ih ⊢
    rw [List.map_cons, List.flatMap_cons, List.flatMap_cons]
    exact List.rel_append (h.children (hds d List.mem_cons_self) _ fun _ hc => hc)
      (ih fun d' hd' => hds d' (List.mem_cons_of_mem d hd'))

/-- The snapshots around a resize of the startup store are those of a planned
    resize. -/
theorem plannedResize (h : StoreResize before after store amount created) :
    PlannedResize (diskSnapshot before) (diskSnapshot after) store amount created := by
  have hwrite := snapshotEntry_congr h.root h.containers
  refine ⟨?_, ?_, ?_, ?_⟩
  · unfold diskSnapshot
    rw [h.root]
  · obtain ⟨disk, hdisk, c, hc, hid⟩ := h.listed
    refine ⟨snapshotEntry before disk.deviceIdentifier c, ?_,
      (key_snapshotEntry_iff h.store_ne).mpr hid⟩
    rw [entries_diskSnapshot]
    exact List.mem_flatMap.mpr ⟨disk, hdisk, List.mem_map.mpr ⟨c, hc, rfl⟩⟩
  · intro e he hkey
    rw [entries_diskSnapshot] at he
    obtain ⟨disk, hdisk, he⟩ := List.mem_flatMap.mp he
    obtain ⟨c, hc, rfl⟩ := List.mem_map.mp he
    have hid := (key_snapshotEntry_iff h.store_ne).mp hkey
    obtain ⟨hisc, hrecovery, -⟩ := h.fits disk hdisk c hc hid
    exact snapshotEntry_startupStore hid h.isStore hisc hrecovery
  · obtain ⟨pre, post, disk, l, r, new, id, hb, ha, hid, hne, hfresh, hrole, hflag, hsize⟩ := h.added
    have hdisk : { disk with partitions := l ++ r } ∈ before.disks := by
      rw [hb]
      exact List.mem_append_right _ List.mem_cons_self
    have hpre := h.disks pre fun d hd => by
      rw [hb]
      exact List.mem_append_left _ hd
    have hpost := h.disks post fun d hd => by
      rw [hb]
      exact List.mem_append_right _ (List.mem_cons_of_mem _ hd)
    have hl := h.children hdisk l fun c hc => List.mem_append_left r hc
    have hr := h.children hdisk r fun c hc => List.mem_append_right l hc
    have hbefore : (diskSnapshot before).entries = (writtenEntries before pre ++
        l.map (snapshotEntry before disk.deviceIdentifier)) ++
        (r.map (snapshotEntry before disk.deviceIdentifier) ++ writtenEntries before post) := by
      rw [entries_diskSnapshot, hb]
      simp [writtenEntries]
    refine ⟨writtenEntries before (pre.map (shrinkDisk store amount)) ++
        (l.map (shrinkChild store amount)).map (snapshotEntry before disk.deviceIdentifier),
      (r.map (shrinkChild store amount)).map (snapshotEntry before disk.deviceIdentifier) ++
        writtenEntries before (post.map (shrinkDisk store amount)),
      snapshotEntry before disk.deviceIdentifier new, id, ?_, ?_,
      (key_snapshotEntry_iff hne).mpr hid, ?_, hwrite ▸ hrole, hwrite ▸ hflag, ?_⟩
    · rw [entries_diskSnapshot, hwrite, ha]
      simp [writtenEntries]
    · rw [hbefore]
      exact List.rel_append (List.rel_append hpre hl) (List.rel_append hr hpost)
    · intro e he hkey
      rw [entries_diskSnapshot] at he
      obtain ⟨d, hd, he⟩ := List.mem_flatMap.mp he
      obtain ⟨c, hc, rfl⟩ := List.mem_map.mp he
      exact hfresh d hd c hc ((key_snapshotEntry_iff hne).mp hkey)
    · rw [readSize_snapshotEntry, hsize]

end StoreResize

/-! ## The verdict -/

/-- A check that failed makes the verdict `failed`. -/
theorem Verification.status_failed {v : Verification} {id : String} {ids : List String}
    (h : v.errors.map SafetyCheck.id = id :: ids) : v.status = .failed := by
  rw [Verification.status, if_neg]
  intro hempty
  rw [List.isEmpty_iff.mp hempty] at h
  exact absurd h (by simp)

/-- The verdict on a planned resize of the startup container: the script returns
    and reports `failed`, and it is the guard and the startup container check
    that fail. -/
theorem mutationVerify_startup_resize {before after : Snapshot} {plan recovery : Json}
    {target : String} {amount created : Nat}
    (h : PlannedResize before after target amount created)
    (htarget : plan.get "target" = some (.str target))
    (hrecovery : recovery.get "status" = some (.str "passed")) :
    ∃ v, mutationVerify before after plan recovery = some v ∧ v.status = .failed ∧
      v.errors.map SafetyCheck.id =
        ["protected-partitions-unchanged", "startup-container-unchanged"] := by
  obtain ⟨summary, hv⟩ := mutationVerify_eq htarget hrecovery before after
  have herrors := h.errors summary
  exact ⟨_, hv, Verification.status_failed herrors, herrors⟩

/-- A Mac with one internal disk, as `diskutil` lists it. -/
def freshMacos : Layout :=
  { disks := [⟨some "disk0",
      [⟨some "disk0s1", some "Apple_APFS_ISC", some "iSCPreboot", none, some 524288000, none, none⟩,
       ⟨some "disk0s2", some "Apple_APFS", some "Macintosh HD Container", none,
        some 500000000000, none, none⟩,
       ⟨some "disk0s3", some "Apple_APFS_Recovery", some "Recovery", none,
        some 5500000000, none, none⟩]⟩]
    containers := []
    root := ⟨some "disk3", some "disk3s1s1", some "disk3", none, none, [some "disk0s2"]⟩ }

/-- The same disk with 80 GB of the startup store given to Jackrose. -/
def resizedMacos : Layout :=
  { freshMacos with
    disks := [⟨some "disk0",
      [⟨some "disk0s1", some "Apple_APFS_ISC", some "iSCPreboot", none, some 524288000, none, none⟩,
       ⟨some "disk0s2", some "Apple_APFS", some "Macintosh HD Container", none,
        some 420000000000, none, none⟩,
       ⟨some "disk0s4", some "Linux Filesystem", some "Jackrose", none,
        some 80000000000, none, none⟩,
       ⟨some "disk0s3", some "Apple_APFS_Recovery", some "Recovery", none,
        some 5500000000, none, none⟩]⟩] }

theorem resizedMacos_storeResize :
    StoreResize freshMacos resizedMacos "disk0s2" 80000000000 80000000000 where
  root := rfl
  containers := rfl
  isStore := by decide
  positive := by decide
  listed := by
    refine ⟨_, List.mem_singleton_self _, _, List.mem_cons_of_mem _ List.mem_cons_self, rfl⟩
  fits := by
    intro disk hdisk c hc hid
    obtain rfl := List.mem_singleton.mp hdisk
    simp only [List.mem_cons, List.not_mem_nil, or_false] at hc
    rcases hc with rfl | rfl | rfl
    · exact absurd hid (by decide)
    · exact ⟨by decide, by decide, _, rfl, by decide⟩
    · exact absurd hid (by decide)
  added := by
    refine ⟨[], [], ⟨some "disk0", []⟩, [_, _], [_], _, "disk0s4", rfl, rfl, rfl, by decide, ?_,
      by decide, by decide, rfl⟩
    intro d hd c hc hid
    obtain rfl := List.mem_singleton.mp hd
    simp only [List.mem_cons, List.not_mem_nil, or_false] at hc
    rcases hc with rfl | rfl | rfl <;> exact absurd hid (by decide)

theorem mutationVerify_startup_resize_macos :
    PlannedResize (diskSnapshot freshMacos) (diskSnapshot resizedMacos) "disk0s2"
      80000000000 80000000000 ∧
    ∃ v, mutationVerify (diskSnapshot freshMacos) (diskSnapshot resizedMacos)
        (.obj [("target", .str "disk0s2")]) (.obj [("status", .str "passed")]) = some v ∧
      v.status = .failed ∧ v.errors.map SafetyCheck.id =
        ["protected-partitions-unchanged", "startup-container-unchanged"] :=
  ⟨resizedMacos_storeResize.plannedResize,
    mutationVerify_startup_resize resizedMacos_storeResize.plannedResize rfl rfl⟩

/-- Not every planned resize of the startup container is reported as passed. -/
theorem mutationVerify_resize_not_passed :
    ¬ ∀ (before after : Snapshot) (plan recovery : Json) (target : String) (amount created : Nat),
      PlannedResize before after target amount created →
      plan.get "target" = some (.str target) →
      recovery.get "status" = some (.str "passed") →
      ∃ v, mutationVerify before after plan recovery = some v ∧ v.status = .passed := by
  intro h
  obtain ⟨v, hv, hpassed⟩ := h (diskSnapshot freshMacos) (diskSnapshot resizedMacos)
    (.obj [("target", .str "disk0s2")]) (.obj [("status", .str "passed")]) "disk0s2" _ _
    resizedMacos_storeResize.plannedResize rfl rfl
  obtain rfl := Option.some.inj hv
  have herrors := resizedMacos_storeResize.plannedResize.errors .null
  exact absurd ((Verification.status_failed herrors).symm.trans hpassed) (by decide)

end Cidre.Disk
