/-
  Cidre.Disk.GuardAgreement

  The protected-partition guard against the disk diff of `Snapshot`: two
  classifications of the same partitions.  The diff protects every record the
  guard protects, but for one: a record without a `protected` flag whose content
  says `recovery`.  And the diff looks at records that changed only, while to the
  guard a record that is the same may be a root identifier in one snapshot and not
  in the other, or hide an earlier record (`passed_diff_guard_agrees_iff`).
-/

import Mathlib.Data.List.Find
import Cidre.Disk.Snapshot

namespace Cidre.Disk

/-! ## What each script protects -/

/-- The record the guard keeps under an identifier: the last one it protects. -/
def guarded (s : Snapshot) (id : String) : Option Entry :=
  Dict.lastWith (guardKey s.rootIdentifiers) id s.entries

/-- The record the diff compares under an identifier: the last one. -/
def listed (s : Snapshot) (id : String) : Option Entry := Dict.lastWith Entry.key id s.entries

/-- An identifier the diff protects. -/
def DiffProtected (before after : Snapshot) (id : String) : Prop :=
  ∃ s ∈ [before, after], id ∈ s.rootIdentifiers ∨
    ∃ e ∈ s.entries, e.ident = some id ∧ diffProtectsRecord e = true

/-- What the guard compares of the two records differs. -/
def GuardDiffers (before after : Snapshot) (id : String) : Prop :=
  (guarded before id).map protectedPartition ≠ (guarded after id).map protectedPartition

/-- Neither the content nor the name of a record without a flag says that the guard
    protects it. -/
def silent (e : Entry) : Bool :=
  e.protectedFlag = none && !(within "recovery" (lowered e.contentOrType) ||
    within "recovery" (lowered e.label) || within "apple_" (lowered e.contentOrType))

/-- The last record the guard protects among those before the listed one: there is one
    only where several records have the identifier. -/
def earlier (s : Snapshot) (id : String) : Option Entry :=
  Dict.lastWith (guardKey s.rootIdentifiers) id (s.entries.filter fun e => e.key = some id).dropLast

/-- A record without a flag that says `recovery` in its content. -/
def recoveryKey (e : Entry) : Option String :=
  if e.protectedFlag = none ∧ within "recovery" (lowered e.contentOrType) = true then e.key
  else none

def recoveryContent (s : Snapshot) (id : String) : Option Entry :=
  Dict.lastWith recoveryKey id s.entries

/-- A change the guard sees and the diff does not. -/
inductive Overlooked (before after : Snapshot) (id : String) : Prop where
  /-- The guard protects records for `recovery` in their content, which the diff does not
      look for. -/
  | recoveryContent (unprotected : ¬DiffProtected before after id)
      (differs : (recoveryContent before id).map protectedPartition ≠
        (recoveryContent after id).map protectedPartition)
  /-- The record is the same, and is protected as a root identifier in one snapshot only. -/
  | rootChanged (s s' : Snapshot) (pair : s = before ∧ s' = after ∨ s = after ∧ s' = before)
      (e : Entry) (record : listed before id = some e ∧ listed after id = some e)
      (silent : silent e = true) (root : id ∈ s.rootIdentifiers) (passed : id ∉ s'.rootIdentifiers)
      (differs : (earlier s' id).map protectedPartition ≠ some (protectedPartition e))
  /-- The record is the same and not protected, and an earlier one is not the same. -/
  | hidden (e : Entry) (record : listed before id = some e ∧ listed after id = some e)
      (passed : e.protectedFlag = some false ∨
        silent e = true ∧ id ∉ before.rootIdentifiers ∧ id ∉ after.rootIdentifiers)
      (differs : (earlier before id).map protectedPartition ≠
        (earlier after id).map protectedPartition)

/-! ## The diff -/

theorem diffProtected_iff {before after : Snapshot} {id : String} :
    DiffProtected before after id ↔ some id ∈ protectedIds before ++ protectedIds after := by
  have hids : ∀ s : Snapshot, (id ∈ s.rootIdentifiers ∨
      ∃ e ∈ s.entries, e.ident = some id ∧ diffProtectsRecord e = true) ↔
        some id ∈ protectedIds s := by
    intro s
    rw [mem_protectedIds_iff, List.mem_map]
    simp only [Option.some.injEq, exists_eq_right]
  rw [List.mem_append, ← hids before, ← hids after]
  unfold DiffProtected
  simp

theorem mem_changedIn_iff {before after : List (String × Entry)} {id : String} :
    id ∈ changedIn before after ↔ (before.lookup id).isSome = true ∧
      (after.lookup id).isSome = true ∧ before.lookup id ≠ after.lookup id := by
  rw [changedIn, mem_sortedStrings, List.mem_filter, ← Dict.lookup_isSome_iff]
  simp

/-- The diff goes over the identifiers whose records differ. -/
theorem mem_touched_iff {before after : List (String × Entry)} {id : String} :
    id ∈ onlyIn after before ++ onlyIn before after ++ changedIn before after ↔
      before.lookup id ≠ after.lookup id := by
  rw [List.mem_append, List.mem_append, mem_onlyIn, mem_onlyIn, mem_changedIn_iff]
  cases before.lookup id with
  | none => cases after.lookup id <;> simp
  | some b => cases after.lookup id <;> simp

/-- The diff passes when no identifier it protects has records that differ. -/
theorem prepostDiskDiff_passed_iff {before after : Snapshot} :
    (prepostDiskDiff before after).status = .passed ↔
      ∀ id, listed before id ≠ listed after id → ¬DiffProtected before after id := by
  have hstatus : (prepostDiskDiff before after).status = .passed ↔
      (prepostDiskDiff before after).unexpectedProtectedChanges = [] := by
    show (if List.isEmpty _ then GateStatus.passed else .failed) = .passed ↔ _
    rw [← List.isEmpty_iff]
    split
    · next hempty =>
      exact iff_of_true rfl hempty
    · next hempty =>
      exact iff_of_false (fun hpassed => nomatch hpassed) hempty
  rw [hstatus]
  show List.filter _ (List.map _ _) = [] ↔ _
  rw [List.filter_eq_nil_iff, List.forall_mem_map]
  refine forall_congr' fun id => ?_
  rw [mem_touched_iff, lookup_partitionMap, lookup_partitionMap, diffProtected_iff]
  refine imp_congr Iff.rfl (not_congr ?_)
  exact List.contains_iff_mem

/-! ## The guard -/

/-- The guard's comparison finds nothing when it keeps the same under every
    identifier. -/
theorem guardDifferences_nil_iff {before after : Snapshot} :
    guardDifferences (classify before) (classify after) = [] ↔
      ∀ id, ¬GuardDiffers before after id := by
  rw [guardDifferences_nil_iff_lookup]
  refine forall_congr' fun id => ?_
  unfold GuardDiffers
  rw [not_not, lookup_classify, lookup_classify]
  exact Iff.rfl

/-- Under an identifier the diff does not protect, the guard protects records for their
    content only. -/
theorem guardProtects_of_unprotected {before after s : Snapshot} {id : String} {e : Entry}
    (hs : s ∈ [before, after]) (he : e ∈ s.entries) (hkey : e.key = some id)
    (hunprotected : ¬DiffProtected before after id) :
    guardProtects s.rootIdentifiers e = true ↔
      e.protectedFlag = none ∧ within "recovery" (lowered e.contentOrType) = true := by
  have hid : e.ident = some id := (Option.filter_eq_some_iff.mp hkey).1
  have hroot : id ∉ s.rootIdentifiers := fun hroot => hunprotected ⟨s, hs, Or.inl hroot⟩
  have hrecord : diffProtectsRecord e = false := by
    by_contra hrecord
    exact hunprotected ⟨s, hs, Or.inr ⟨e, he, hid, by simpa using hrecord⟩⟩
  simp only [diffProtectsRecord, Bool.or_eq_false_iff, decide_eq_false_iff_not] at hrecord
  obtain ⟨⟨⟨hflag, -⟩, happle⟩, hlabel⟩ := hrecord
  unfold guardProtects
  cases hvalue : e.protectedFlag with
  | some flag =>
    rw [hvalue] at hflag
    exact iff_of_false (fun hprotects => hflag (congrArg some hprotects)) fun h =>
      Option.some_ne_none flag h.1
  | none => simp [hid, hroot, happle, hlabel]

theorem guarded_eq_recoveryContent {before after s : Snapshot} {id : String}
    (hs : s ∈ [before, after]) (hunprotected : ¬DiffProtected before after id) :
    guarded s id = recoveryContent s id := by
  refine List.find?_congr fun e he => ?_
  have he := List.mem_reverse.mp he
  unfold guardKey recoveryKey
  by_cases hkey : e.key = some id
  · have hiff := guardProtects_of_unprotected hs he hkey hunprotected
    by_cases hprotects : guardProtects s.rootIdentifiers e = true
    · rw [if_pos hprotects, if_pos (hiff.mp hprotects)]
    · rw [if_neg hprotects, if_neg (mt hiff.mpr hprotects)]
  · have hnone : ∀ p : Prop, ∀ _ : Decidable p, (if p then e.key else none) ≠ some id := by
      intro p _
      split
      · exact hkey
      · exact nofun
    rw [decide_eq_false (hnone _ _), decide_eq_false (hnone _ _)]

/-! ## Records that are the same -/

section Same

variable {s : Snapshot} {id : String} {e : Entry}

theorem listed_eq_getLast? :
    listed s id = (s.entries.filter fun e => e.key = some id).getLast? := by
  rw [listed, Dict.lastWith, List.getLast?_eq_head?_reverse, ← List.filter_reverse,
    List.head?_filter]

theorem key_of_listed (h : listed s id = some e) : e.key = some id :=
  (Dict.mem_of_lastWith h).2

theorem guarded_eq_lastWith : guarded s id =
    Dict.lastWith (guardKey s.rootIdentifiers) id (s.entries.filter fun e => e.key = some id) := by
  rw [guarded, Dict.lastWith, Dict.lastWith, ← List.filter_reverse, List.find?_filter]
  refine List.find?_congr fun e _ => ?_
  unfold guardKey
  split <;> simp

/-- The guard keeps the listed record, or else an earlier one. -/
theorem guarded_of_listed (h : listed s id = some e) :
    guarded s id = if guardProtects s.rootIdentifiers e then some e else earlier s id := by
  obtain ⟨init, hinit⟩ := List.getLast?_eq_some_iff.mp (listed_eq_getLast?.symm.trans h)
  rw [guarded_eq_lastWith, earlier, hinit, List.dropLast_concat, Dict.lastWith,
    List.reverse_concat, List.find?_cons, guardKey, key_of_listed h]
  cases guardProtects s.rootIdentifiers e with
  | true => simp
  | false => simp [Dict.lastWith]

theorem guarded_of_unlisted (h : listed s id = none) : guarded s id = none := by
  have hnil := List.getLast?_eq_none_iff.mp (listed_eq_getLast?.symm.trans h)
  rw [guarded_eq_lastWith, hnil]
  rfl

/-- A record that is silent is protected as a root identifier only. -/
theorem guardProtects_of_silent (hkey : e.key = some id) (h : silent e = true)
    (ids : List String) : guardProtects ids e = true ↔ id ∈ ids := by
  have hid : e.ident = some id := (Option.filter_eq_some_iff.mp hkey).1
  simp only [silent, Bool.and_eq_true, decide_eq_true_eq, Bool.not_eq_true', Bool.or_eq_false_iff]
    at h
  obtain ⟨hflag, ⟨hcontent, hlabel⟩, happle⟩ := h
  simp [guardProtects, hflag, hid, hcontent, hlabel, happle]

theorem guardProtects_of_not_silent (hflag : e.protectedFlag ≠ some false) (h : silent e ≠ true)
    (ids : List String) : guardProtects ids e = true := by
  unfold silent at h
  unfold guardProtects
  cases hvalue : e.protectedFlag with
  | some flag =>
    cases flag with
    | true => rfl
    | false => exact absurd hvalue hflag
  | none =>
    by_contra hno
    simp only [Bool.or_eq_true, not_or, Bool.not_eq_true] at hno
    exact h (by simp [hvalue, hno])

theorem not_guardProtects_of_flag (h : e.protectedFlag = some false) (ids : List String) :
    ¬guardProtects ids e = true := by
  simp [guardProtects, h]

end Same

/-! ## Agreement -/

section Overlooked

variable {before after : Snapshot} {id : String}

/-- Where the listed record is the same, the guard's difference comes from the root
    identifiers or from an earlier record. -/
theorem overlooked_of_same {e : Entry} (hb : listed before id = some e)
    (ha : listed after id = some e) (hdiffers : GuardDiffers before after id) :
    Overlooked before after id := by
  rw [GuardDiffers, guarded_of_listed hb, guarded_of_listed ha] at hdiffers
  by_cases hflag : e.protectedFlag = some false
  · have hnot := not_guardProtects_of_flag hflag
    rw [if_neg (hnot _), if_neg (hnot _)] at hdiffers
    exact .hidden e ⟨hb, ha⟩ (Or.inl hflag) hdiffers
  by_cases hsilent : silent e = true
  · -- only the root identifiers decide
    have hroot := guardProtects_of_silent (key_of_listed hb) hsilent
    by_cases hrb : id ∈ before.rootIdentifiers
    · rw [if_pos ((hroot _).mpr hrb)] at hdiffers
      by_cases hra : id ∈ after.rootIdentifiers
      · rw [if_pos ((hroot _).mpr hra)] at hdiffers
        exact absurd rfl hdiffers
      · rw [if_neg (mt (hroot _).mp hra)] at hdiffers
        exact .rootChanged before after (Or.inl ⟨rfl, rfl⟩) e ⟨hb, ha⟩ hsilent hrb hra
          hdiffers.symm
    · rw [if_neg (mt (hroot _).mp hrb)] at hdiffers
      by_cases hra : id ∈ after.rootIdentifiers
      · rw [if_pos ((hroot _).mpr hra)] at hdiffers
        exact .rootChanged after before (Or.inr ⟨rfl, rfl⟩) e ⟨hb, ha⟩ hsilent hra hrb hdiffers
      · rw [if_neg (mt (hroot _).mp hra)] at hdiffers
        exact .hidden e ⟨hb, ha⟩ (Or.inr ⟨hsilent, hrb, hra⟩) hdiffers
  · -- the record is protected by itself, in both snapshots
    have hprotects := guardProtects_of_not_silent hflag hsilent
    rw [if_pos (hprotects _), if_pos (hprotects _)] at hdiffers
    exact absurd rfl hdiffers

theorem Overlooked.guardDiffers (h : Overlooked before after id) :
    GuardDiffers before after id := by
  unfold GuardDiffers
  cases h with
  | recoveryContent hp hdiffers =>
    rw [guarded_eq_recoveryContent (by simp) hp, guarded_eq_recoveryContent (by simp) hp]
    exact hdiffers
  | rootChanged s s' hpair e hrecord hsilent hin hout hdiffers =>
    have hroot := guardProtects_of_silent (key_of_listed hrecord.1) hsilent
    rw [guarded_of_listed hrecord.1, guarded_of_listed hrecord.2]
    rcases hpair with ⟨rfl, rfl⟩ | ⟨rfl, rfl⟩
    · rw [if_pos ((hroot _).mpr hin), if_neg (mt (hroot _).mp hout)]
      exact hdiffers.symm
    · rw [if_pos ((hroot _).mpr hin), if_neg (mt (hroot _).mp hout)]
      exact hdiffers
  | hidden e hrecord hpassed hdiffers =>
    have hnot : ∀ s ∈ [before, after], ¬guardProtects s.rootIdentifiers e = true := by
      intro s hs
      rcases hpassed with hflag | ⟨hsilent, hrb, hra⟩
      · exact not_guardProtects_of_flag hflag _
      · rw [guardProtects_of_silent (key_of_listed hrecord.1) hsilent]
        rcases List.mem_pair.mp hs with rfl | rfl
        · exact hrb
        · exact hra
    rw [guarded_of_listed hrecord.1, guarded_of_listed hrecord.2, if_neg (hnot before (by simp)),
      if_neg (hnot after (by simp))]
    exact hdiffers

/-- Where an identifier that the diff protects has the same record, the guard sees a
    difference exactly if it is overlooked. -/
theorem guardDiffers_iff
    (hrecord : DiffProtected before after id → listed before id = listed after id) :
    GuardDiffers before after id ↔ Overlooked before after id := by
  refine ⟨fun hdiffers => ?_, Overlooked.guardDiffers⟩
  by_cases hp : DiffProtected before after id
  · have hsame := hrecord hp
    cases hb : listed before id with
    | none =>
      refine absurd ?_ hdiffers
      rw [guarded_of_unlisted hb, guarded_of_unlisted (hsame.symm.trans hb)]
    | some e => exact overlooked_of_same hb (hsame.symm.trans hb) hdiffers
  · refine .recoveryContent hp ?_
    rw [← guarded_eq_recoveryContent (by simp) hp, ← guarded_eq_recoveryContent (by simp) hp]
    exact hdiffers

end Overlooked

/-- When the diff passes, the guard's comparison reports nothing exactly if no change is
    overlooked. -/
theorem passed_diff_guard_agrees_iff {before after : Snapshot}
    (hpassed : (prepostDiskDiff before after).status = .passed) :
    guardDifferences (classify before) (classify after) = [] ↔
      ∀ id, ¬Overlooked before after id := by
  have hsame := prepostDiskDiff_passed_iff.mp hpassed
  rw [guardDifferences_nil_iff]
  refine forall_congr' fun id => not_congr (guardDiffers_iff fun hp => ?_)
  by_contra hne
  exact hsame id hne hp

/-- A record without a flag. -/
def unflagged (content : String) (size : Nat) : Entry where
  identifier := some "disk0s4"
  deviceIdentifier := some "disk0s4"
  type := some content
  content := some content
  name := none
  volumeName := none
  sizeBytes := some size
  size := some size
  role := none
  protectedFlag := none
  roles := none
  containerReference := none
  parentWholeDisk := some "disk0"

/-- A Windows recovery partition, beside another partition. -/
def beside (size : Nat) : Snapshot :=
  ⟨[], [], [unflagged "Windows_Recovery" 1000,
    { unflagged "Linux" size with deviceIdentifier := some "disk0s5" }]⟩

/-- The other partition shrinks: the diff passes, and nothing is overlooked. -/
theorem passed_diff_guard_agrees_beside :
    (prepostDiskDiff (beside 1000) (beside 500)).status = .passed ∧
      ∀ id, ¬Overlooked (beside 1000) (beside 500) id := by
  have hpassed : (prepostDiskDiff (beside 1000) (beside 500)).status = .passed := by
    decide +kernel
  exact ⟨hpassed, (passed_diff_guard_agrees_iff hpassed).mp (by decide +kernel)⟩

/-- A Windows recovery partition that shrinks: the diff passes, the guard objects. -/
theorem passed_diff_guard_disagrees :
    ¬∀ before after : Snapshot, (prepostDiskDiff before after).status = .passed →
      guardDifferences (classify before) (classify after) = [] := by
  intro hclaim
  have hdiffers := hclaim ⟨[], [], [unflagged "Windows_Recovery" 1000]⟩
    ⟨[], [], [unflagged "Windows_Recovery" 500]⟩ (by decide +kernel)
  revert hdiffers
  decide +kernel

end Cidre.Disk
