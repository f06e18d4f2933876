/-
  Cidre.Uninstall.Execute

  `jackrose-uninstall-execute`: the search for the volume to delete, the lookup
  of its container and the two `diskutil` commands.  The search leaves its outer
  loop as soon as the target is set, and `jackrose-candidate` is set before the
  first container is looked at; a target that is named is never looked up among
  the Jackrose volumes (`deletes_only_jackrose_iff`).
-/

import Cidre.Uninstall.Review

namespace Cidre.Uninstall

/-! ## diskutil -/

/-- A volume of `diskutil apfs list -plist`. -/
structure Volume where
  deviceIdentifier : Option String
  name : Option String
  volumeName : Option String

/-- A container of the list.  Every container has a reference. -/
structure Container where
  reference : String
  volumes : List Volume
  named : reference ≠ ""

/-- `diskutil info -plist`. -/
structure Info where
  apfsContainerReference : Option String
  parentWholeDisk : Option String

/-- The commands that change the disk. -/
inductive DiskCommand where
  | deleteContainer (container : String)
  | resizeContainer (container size : String)
deriving DecidableEq

/-- What `diskutil` answers; an error is the text of the exception raised. -/
structure Diskutil where
  apfsList : Except String (List Container)
  info : String → Except String Info
  run : DiskCommand → Except String Unit

/-- A value that is neither missing nor empty. -/
def given (s : Option String) : Option String := s.filter fun s => s ≠ ""

/-- `volume.get("Name") or volume.get("VolumeName") or ""`. -/
def Volume.readName (v : Volume) : String := ((given v.name).or v.volumeName).getD ""

def Volume.isJackrose (v : Volume) : Bool := lower v.readName == "jackrose".toList

def Container.hasJackrose (c : Container) : Bool := c.volumes.any Volume.isJackrose

/-! ## The script -/

/-- The loop over the volumes of a container: `target` after it. -/
def searchVolumes (target : Option String) : List Volume → Option String
  | [] => target
  | v :: vs => if v.isJackrose then v.deviceIdentifier else searchVolumes target vs

/-- The loop over the containers, left when `target` is set after one of them. -/
def searchContainers (target : Option String) : List Container → Option String
  | [] => target
  | c :: cs =>
      let target := searchVolumes target c.volumes
      if (given target).isSome then target else searchContainers target cs

def detectTarget (d : Diskutil) (target : String) : Except String (Option String) := do
  if target = "" ∨ target = "jackrose-candidate" then
    let containers ← d.apfsList
    return searchContainers (some target) containers
  else
    return some target

/-- The container `diskutil` names for the target or, if it names none, for the
    disk the target is a part of. -/
def targetContainer (d : Diskutil) (target : String) : Except String (Option String) := do
  let targetInfo ← d.info target
  match given targetInfo.apfsContainerReference, given targetInfo.parentWholeDisk with
  | none, some parentDisk =>
      if parentDisk ≠ target then
        let parentInfo ← d.info parentDisk
        return parentInfo.apfsContainerReference
      else
        return targetInfo.apfsContainerReference
  | _, _ => return targetInfo.apfsContainerReference

/-- The checks on the container of the target and the startup container. -/
def checkContainers (target : String) (container startup : Option String) :
    Except String (String × String) :=
  match given container, given startup with
  | none, _ => .error ("Could not identify APFS container reference for target: " ++ target)
  | some _, none => .error "Could not identify primary macOS startup APFS container reference."
  | some container, some startup =>
      if container = startup then
        .error ("Safety block: Target container is the active macOS startup APFS container." ++
          " Deletion aborted.")
      else
        .ok (container, startup)

/-- The container to delete and the startup container to grow. -/
def selectContainers (d : Diskutil) (darwin : Bool) (target : String) :
    Except String (String × String) :=
  if !darwin then
    .error "Active partition resizing is only supported on macOS Darwin hosts."
  else do
    let detected ← detectTarget d target
    match given detected with
    | none => .error "Could not find any existing APFS volume named 'Jackrose' to delete."
    | some target =>
        let container ← targetContainer d target
        let rootInfo ← d.info "/"
        checkContainers target container rootInfo.apfsContainerReference

/-- Commands run until one fails: those invoked, and the failure. -/
def runCommands (d : Diskutil) : List DiskCommand → List DiskCommand × Option String
  | [] => ([], none)
  | c :: cs =>
      match d.run c with
      | .error e => ([c], some e)
      | .ok () => (c :: (runCommands d cs).1, (runCommands d cs).2)

inductive ExecuteStatus where
  | passed
  | failed
  | blocked
deriving DecidableEq

/-- The options of the command line that the script acts on. -/
structure ExecuteArgs where
  target : String
  dryRun : Bool
  uninstall : Bool
  confirm : Bool

structure ExecuteOutcome where
  status : ExecuteStatus
  summary : String
  exitCode : Nat
  deletedContainer : Option String
  resizedContainer : Option String
  warnings : List String
  /-- Code and message. -/
  errors : List (String × String)
  /-- The commands invoked, also when one of them failed. -/
  invoked : List DiskCommand

/-- The payload once the containers are chosen. -/
def executeSelected (d : Diskutil) (dryRun : Bool) (container startup : String) : ExecuteOutcome :=
  if dryRun then
    { status := .passed
      summary := "Dry-run uninstall completed."
      exitCode := 0
      deletedContainer := some container
      resizedContainer := some startup
      warnings := ["Dry-run execution. No destructive APFS operations were performed."]
      errors := []
      invoked := [] }
  else
    let (invoked, failure) :=
      runCommands d [.deleteContainer container, .resizeContainer startup "0"]
    { status := if failure.isNone then .passed else .failed
      summary := if failure.isNone then "Active APFS partition merging completed successfully."
        else "APFS partition merging failed."
      exitCode := if failure.isNone then 0 else 8
      deletedContainer := some container
      resizedContainer := some startup
      warnings := []
      errors := failure.toList.map fun message => ("uninstall-execution-error", message)
      invoked := invoked }

def uninstallExecute (d : Diskutil) (darwin : Bool) (a : ExecuteArgs) : ExecuteOutcome :=
  if !a.uninstall || !a.confirm then
    { status := .blocked
      summary := "Destructive uninstall refused."
      exitCode := 8
      deletedContainer := none
      resizedContainer := none
      warnings := []
      errors := [("confirmation-required", "Explicit confirmation phrase is required.")]
      invoked := [] }
  else
    match selectContainers d darwin a.target with
    | .ok (container, startup) => executeSelected d a.dryRun container startup
    | .error message =>
        { status := .failed
          summary := "APFS partition merging failed."
          exitCode := 8
          deletedContainer := none
          resizedContainer := none
          warnings := []
          errors := [("uninstall-execution-error", message)]
          invoked := [] }

/-! ## What the search finds -/

/-- The first container whose first Jackrose volume has an identifier, and the
    identifier. -/
def firstJackrose (containers : List Container) : Option (Container × String) :=
  containers.findSome? fun c =>
    (c.volumes.find? Volume.isJackrose).bind fun v =>
      (given v.deviceIdentifier).map fun id => (c, id)

/-- The search leaves the target as it was given, or was never made. -/
def Named (containers : List Container) (target : String) : Prop :=
  target ≠ "" ∧ (target = "jackrose-candidate" → containers.head?.all (!·.hasJackrose) = true)

theorem searchVolumes_eq (target : Option String) (vs : List Volume) :
    searchVolumes target vs =
      match vs.find? Volume.isJackrose with
      | some v => v.deviceIdentifier
      | none => target := by
  induction vs with
  | nil => rfl
  | cons v vs ih =>
    rw [searchVolumes, ih, List.find?_cons]
    cases v.isJackrose <;> rfl

/-- From a target that is not set, the search finds the first Jackrose volume. -/
theorem searchContainers_unset {target : Option String} (h : given target = none)
    (cs : List Container) :
    given (searchContainers target cs) = (firstJackrose cs).map Prod.snd := by
  induction cs generalizing target with
  | nil => exact h
  | cons c cs ih =>
    rw [searchContainers, searchVolumes_eq, firstJackrose, List.findSome?_cons]
    cases hfind : c.volumes.find? Volume.isJackrose with
    | none =>
      dsimp only [Option.bind_none]
      rw [h]
      exact ih h
    | some v =>
      dsimp only [Option.bind_some]
      cases hid : given v.deviceIdentifier with
      | none => exact ih hid
      | some id => exact hid

/-- From `jackrose-candidate` it does so only past a first container that has one. -/
theorem searchContainers_candidate {target : String} (h : target ≠ "") (cs : List Container) :
    given (searchContainers (some target) cs) =
      if cs.head?.all (!·.hasJackrose) then some target else (firstJackrose cs).map Prod.snd := by
  have hset : given (some target) = some target := by
    rw [given, Option.filter_some, if_pos (by simpa using h)]
  cases cs with
  | nil => exact hset
  | cons c cs =>
    have hhead : (c :: cs).head?.all (!·.hasJackrose) = !c.hasJackrose := rfl
    rw [searchContainers, searchVolumes_eq, firstJackrose, List.findSome?_cons, hhead]
    cases hfind : c.volumes.find? Volume.isJackrose with
    | none =>
      have hnone : c.hasJackrose = false :=
        List.any_eq_false.mpr (List.find?_eq_none.mp hfind)
      dsimp only
      rw [hset, hnone]
      exact hset
    | some v =>
      have hsome : c.hasJackrose = true :=
        List.any_eq_true.mpr ⟨v, List.mem_of_find?_eq_some hfind, List.find?_some hfind⟩
      dsimp only [Option.bind_some]
      rw [hsome]
      cases hid : given v.deviceIdentifier with
      | none => exact searchContainers_unset hid cs
      | some id => exact hid

theorem detectTarget_named {d : Diskutil} {containers : List Container} {target : String}
    (hlist : d.apfsList = .ok containers) (h : Named containers target) :
    ∃ t, detectTarget d target = .ok t ∧ given t = some target := by
  unfold detectTarget
  split
  · next hauto =>
    have hcandidate : target = "jackrose-candidate" := hauto.resolve_left h.1
    refine ⟨searchContainers (some target) containers, by rw [hlist]; rfl, ?_⟩
    rw [searchContainers_candidate h.1, if_pos (h.2 hcandidate)]
  · exact ⟨some target, rfl, by rw [given, Option.filter_some, if_pos (by simpa using h.1)]⟩

theorem detectTarget_searched {d : Diskutil} {containers : List Container} {target : String}
    (hlist : d.apfsList = .ok containers) (h : ¬Named containers target) :
    ∃ t, detectTarget d target = .ok t ∧ given t = (firstJackrose containers).map Prod.snd := by
  have hauto : target = "" ∨ target = "jackrose-candidate" := by
    by_contra hno
    rw [not_or] at hno
    exact h ⟨hno.1, fun hcandidate => absurd hcandidate hno.2⟩
  refine ⟨searchContainers (some target) containers, ?_, ?_⟩
  · unfold detectTarget
    rw [if_pos hauto, hlist]
    rfl
  · by_cases hempty : target = ""
    · rw [hempty]
      exact searchContainers_unset rfl containers
    · have hhead : ¬containers.head?.all (!·.hasJackrose) = true := fun hhead =>
        h ⟨hempty, fun _ => hhead⟩
      rw [searchContainers_candidate hempty, if_neg hhead]

/-! ## What is deleted -/

/-- The container `diskutil` gives for a target, when it gives one. -/
def Diskutil.resolve (d : Diskutil) (target : String) : Option String :=
  (targetContainer d target).toOption.bind given

/-- The startup container, when there is one. -/
def Diskutil.startup (d : Diskutil) : Option String :=
  (d.info "/").toOption.bind fun rootInfo => given rootInfo.apfsContainerReference

theorem checkContainers_ok_iff {target c s : String} {container startup : Option String} :
    checkContainers target container startup = .ok (c, s) ↔
      given container = some c ∧ given startup = some s ∧ c ≠ s := by
  unfold checkContainers
  cases given container with
  | none => exact iff_of_false (fun h => nomatch h) fun h => nomatch h.1
  | some c' =>
    cases given startup with
    | none => exact iff_of_false (fun h => nomatch h) fun h => nomatch h.2.1
    | some s' =>
      dsimp only
      split
      · next hsame =>
        refine iff_of_false (fun h => nomatch h) ?_
        rintro ⟨hc, hs, hne⟩
        exact hne ((Option.some.inj hc).symm.trans (hsame.trans (Option.some.inj hs)))
      · next hne =>
        constructor
        · intro h
          obtain ⟨rfl, rfl⟩ := Prod.mk.inj (Except.ok.inj h)
          exact ⟨rfl, rfl, hne⟩
        · rintro ⟨hc, hs, -⟩
          rw [Option.some.inj hc, Option.some.inj hs]

theorem selectContainers_ok_iff {d : Diskutil} {target c s : String} {detected : Option String}
    (hdetected : detectTarget d target = .ok detected) :
    selectContainers d true target = .ok (c, s) ↔
      ∃ id, given detected = some id ∧ d.resolve id = some c ∧ d.startup = some s ∧ c ≠ s := by
  unfold selectContainers Diskutil.resolve Diskutil.startup
  rw [hdetected]
  cases hgiven : given detected with
  | none =>
    refine iff_of_false (fun h => ?_) fun ⟨_, h, _⟩ => nomatch h
    replace h : (match given detected with
      | none => Except.error "Could not find any existing APFS volume named 'Jackrose' to delete."
      | some target => _) = Except.ok (c, s) := h
    rw [hgiven] at h
    cases h
  | some id =>
    simp only [Option.some.injEq, exists_eq_left']
    cases htarget : targetContainer d id with
    | error e =>
      refine iff_of_false (fun h => ?_) fun h => nomatch h.1
      simp [hgiven, htarget, bind, Except.bind] at h
    | ok found =>
      cases hroot : d.info "/" with
      | error e =>
        refine iff_of_false (fun h => ?_) fun h => nomatch h.2.1
        simp [hgiven, htarget, bind, Except.bind] at h
      | ok rootInfo =>
        simp only [Bool.not_true, Bool.false_eq_true, if_false, bind, Except.bind, hgiven,
          htarget, checkContainers_ok_iff]
        rfl

/-- The options of a run that may delete. -/
structure ExecuteArgs.Destructive (a : ExecuteArgs) : Prop where
  uninstall : a.uninstall = true
  confirm : a.confirm = true
  dryRun : a.dryRun = false

/-- The deletion comes first; whether the rest runs depends on `diskutil`. -/
theorem deleteContainer_mem_executeSelected {d : Diskutil} {container c s : String} :
    .deleteContainer container ∈ (executeSelected d false c s).invoked ↔ container = c := by
  have hinvoked : (executeSelected d false c s).invoked =
      (runCommands d [.deleteContainer c, .resizeContainer s "0"]).1 := rfl
  rw [hinvoked, runCommands]
  cases d.run (.deleteContainer c) with
  | error e => simp
  | ok _ =>
    dsimp only
    rw [runCommands]
    cases d.run (.resizeContainer s "0") <;> simp [runCommands]

theorem deleteContainer_invoked_iff {d : Diskutil} {a : ExecuteArgs} (ha : a.Destructive)
    {container : String} :
    .deleteContainer container ∈ (uninstallExecute d true a).invoked ↔
      ∃ startup, selectContainers d true a.target = .ok (container, startup) := by
  unfold uninstallExecute
  rw [if_neg (by simp [ha.uninstall, ha.confirm])]
  cases hselect : selectContainers d true a.target with
  | error e => exact iff_of_false List.not_mem_nil fun ⟨_, h⟩ => nomatch h
  | ok selected =>
    obtain ⟨c, s⟩ := selected
    dsimp only
    rw [ha.dryRun, deleteContainer_mem_executeSelected]
    constructor
    · rintro rfl
      exact ⟨s, rfl⟩
    · rintro ⟨s', h⟩
      exact (Prod.mk.inj (Except.ok.inj h)).1.symm

/-! ## Only a Jackrose container -/

/-- A container of that reference holds a volume named Jackrose. -/
def HasJackrose (containers : List Container) (reference : String) : Prop :=
  ∃ c ∈ containers, c.reference = reference ∧ c.hasJackrose = true

/-- A Jackrose volume lies in a container that is not the startup container. -/
def JackroseOutside (d : Diskutil) (containers : List Container) : Prop :=
  ∃ c ∈ containers, c.hasJackrose = true ∧ d.startup ≠ some c.reference

/-- `diskutil info` knows the volumes of the list, and no other containers. -/
structure Consistent (d : Diskutil) (containers : List Container) : Prop where
  list : d.apfsList = .ok containers
  volumes : ∀ c ∈ containers, ∀ v ∈ c.volumes, ∀ id, given v.deviceIdentifier = some id →
    ∃ info, d.info id = .ok info ∧ info.apfsContainerReference = some c.reference
  known : ∀ target info reference, d.info target = .ok info →
    given info.apfsContainerReference = some reference → ∃ c ∈ containers, c.reference = reference

/-- The run deletes a Jackrose container or none, and one of those outside the
    startup container if it was to find it. -/
structure DeletesOnlyJackrose (d : Diskutil) (containers : List Container) (a : ExecuteArgs) :
    Prop where
  deleted : ∀ c, .deleteContainer c ∈ (uninstallExecute d true a).invoked →
    HasJackrose containers c ∧ d.startup ≠ some c
  found : a.target = "" ∨ a.target = "jackrose-candidate" → JackroseOutside d containers →
    ∃ c, .deleteContainer c ∈ (uninstallExecute d true a).invoked ∧ HasJackrose containers c

/-- The inputs on which it goes wrong. -/
inductive Misdirected (d : Diskutil) (containers : List Container) (target : String) : Prop where
  /-- A target that is not searched for is in another container. -/
  | otherContainer (named : Named containers target) (container startup : String)
      (resolved : d.resolve target = some container) (root : d.startup = some startup)
      (outside : container ≠ startup) (noJackrose : ¬HasJackrose containers container)
  /-- The search ends at the first container, and `diskutil` does not know
      `jackrose-candidate` as a target outside the startup container. -/
  | candidateLost (isCandidate : target = "jackrose-candidate") (named : Named containers target)
      (present : JackroseOutside d containers)
      (lost : ∀ container, d.resolve target = some container → d.startup = some container ∨
        d.startup = none)
  /-- The first Jackrose volume is in the startup container. -/
  | startupFirst (searched : ¬Named containers target) (present : JackroseOutside d containers)
      (c : Container) (id : String) (first : firstJackrose containers = some (c, id))
      (root : d.startup = some c.reference)
  /-- No container has an identifier for its first Jackrose volume. -/
  | unidentified (searched : ¬Named containers target) (present : JackroseOutside d containers)
      (first : firstJackrose containers = none)
  /-- No startup container is known. -/
  | noStartup (searched : ¬Named containers target) (present : JackroseOutside d containers)
      (root : d.startup = none)

theorem auto_of_searched {containers : List Container} {target : String}
    (h : ¬Named containers target) : target = "" ∨ target = "jackrose-candidate" := by
  by_contra hno
  rw [not_or] at hno
  exact h ⟨hno.1, fun hcandidate => absurd hcandidate hno.2⟩

theorem firstJackrose_spec {containers : List Container} {c : Container} {id : String}
    (h : firstJackrose containers = some (c, id)) :
    c ∈ containers ∧ c.hasJackrose = true ∧
      ∃ v ∈ c.volumes, given v.deviceIdentifier = some id := by
  obtain ⟨c', hc', hbind⟩ := List.exists_of_findSome?_eq_some h
  obtain ⟨v, hfind, hmap⟩ := Option.bind_eq_some_iff.mp hbind
  obtain ⟨id', hid, heq⟩ := Option.map_eq_some_iff.mp hmap
  obtain ⟨rfl, rfl⟩ := Prod.mk.inj heq
  exact ⟨hc', List.any_eq_true.mpr ⟨v, List.mem_of_find?_eq_some hfind, List.find?_some hfind⟩,
    v, List.mem_of_find?_eq_some hfind, hid⟩

/-- The volume the search finds is resolved to its container. -/
theorem resolve_firstJackrose {d : Diskutil} {containers : List Container} {c : Container}
    {id : String} (h : Consistent d containers) (hfirst : firstJackrose containers = some (c, id)) :
    d.resolve id = some c.reference := by
  obtain ⟨hc, -, v, hv, hid⟩ := firstJackrose_spec hfirst
  obtain ⟨info, hinfo, hreference⟩ := h.volumes c hc v hv id hid
  have hgiven : given (some c.reference) = some c.reference := by
    rw [given, Option.filter_some, if_pos (by simpa using c.named)]
  have htarget : targetContainer d id = .ok (some c.reference) := by
    unfold targetContainer
    rw [hinfo]
    show (match given info.apfsContainerReference, given info.parentWholeDisk with
      | none, some parentDisk => _
      | _, _ => Except.ok info.apfsContainerReference) = _
    rw [hreference, hgiven]
  rw [Diskutil.resolve, htarget]
  exact hgiven

section
variable {d : Diskutil} {containers : List Container} {a : ExecuteArgs}

/-- What a run deletes for a target that is not searched for. -/
theorem deleted_named_iff (ha : a.Destructive) (h : Consistent d containers)
    (hnamed : Named containers a.target) {c : String} :
    .deleteContainer c ∈ (uninstallExecute d true a).invoked ↔
      d.resolve a.target = some c ∧ ∃ s, d.startup = some s ∧ c ≠ s := by
  obtain ⟨t, hdetected, hgiven⟩ := detectTarget_named h.list hnamed
  rw [deleteContainer_invoked_iff ha]
  simp only [selectContainers_ok_iff hdetected, hgiven, Option.some.injEq, exists_eq_left']
  exact ⟨fun ⟨s, hr, hs, hne⟩ => ⟨hr, s, hs, hne⟩, fun ⟨hr, s, hs, hne⟩ => ⟨s, hr, hs, hne⟩⟩

/-- What a run deletes after a search. -/
theorem deleted_searched_iff (ha : a.Destructive) (h : Consistent d containers)
    (hsearched : ¬Named containers a.target) {reference : String} :
    .deleteContainer reference ∈ (uninstallExecute d true a).invoked ↔
      ∃ c id, firstJackrose containers = some (c, id) ∧ c.reference = reference ∧
        ∃ s, d.startup = some s ∧ reference ≠ s := by
  obtain ⟨t, hdetected, hgiven⟩ := detectTarget_searched h.list hsearched
  rw [deleteContainer_invoked_iff ha]
  simp only [selectContainers_ok_iff hdetected, hgiven]
  constructor
  · rintro ⟨s, id, hid, hresolve, hs, hne⟩
    obtain ⟨⟨c, id'⟩, hfirst, rfl⟩ := Option.map_eq_some_iff.mp hid
    rw [resolve_firstJackrose h hfirst, Option.some.injEq] at hresolve
    exact ⟨c, id', hfirst, hresolve, s, hs, hne⟩
  · rintro ⟨c, id, hfirst, rfl, s, hs, hne⟩
    exact ⟨s, id, by rw [hfirst]; rfl, resolve_firstJackrose h hfirst, hs, hne⟩

/-- A confirmed run deletes only a Jackrose container, and the one it is to find,
    exactly on the inputs that do not misdirect it. -/
theorem deletes_only_jackrose_iff (ha : a.Destructive) (h : Consistent d containers) :
    DeletesOnlyJackrose d containers a ↔ ¬Misdirected d containers a.target := by
  constructor
  · rintro ⟨hdeleted, hfound⟩ hbad
    cases hbad with
    | otherContainer hnamed c s hresolve hroot hne hno =>
      exact hno (hdeleted c ((deleted_named_iff ha h hnamed).mpr ⟨hresolve, s, hroot, hne⟩)).1
    | candidateLost hcandidate hnamed hpresent hlost =>
      obtain ⟨c, hmem, -⟩ := hfound (Or.inr hcandidate) hpresent
      obtain ⟨hresolve, s, hroot, hne⟩ := (deleted_named_iff ha h hnamed).mp hmem
      rcases hlost c hresolve with hsame | hnone
      · exact hne (Option.some.inj (hsame.symm.trans hroot))
      · exact nomatch hnone.symm.trans hroot
    | startupFirst hsearched hpresent c id hfirst hroot =>
      obtain ⟨r, hmem, -⟩ := hfound (auto_of_searched hsearched) hpresent
      obtain ⟨c', id', hfirst', rfl, s, hs, hne⟩ := (deleted_searched_iff ha h hsearched).mp hmem
      obtain ⟨rfl, -⟩ := Prod.mk.inj (Option.some.inj (hfirst.symm.trans hfirst'))
      exact hne (Option.some.inj (hroot.symm.trans hs))
    | unidentified hsearched hpresent hfirst =>
      obtain ⟨r, hmem, -⟩ := hfound (auto_of_searched hsearched) hpresent
      obtain ⟨c', id', hfirst', -⟩ := (deleted_searched_iff ha h hsearched).mp hmem
      exact nomatch hfirst.symm.trans hfirst'
    | noStartup hsearched hpresent hroot =>
      obtain ⟨r, hmem, -⟩ := hfound (auto_of_searched hsearched) hpresent
      obtain ⟨-, -, -, -, s, hs, -⟩ := (deleted_searched_iff ha h hsearched).mp hmem
      exact nomatch hroot.symm.trans hs
  · intro hgood
    by_cases hnamed : Named containers a.target
    · have hjackrose : ∀ c, .deleteContainer c ∈ (uninstallExecute d true a).invoked →
          HasJackrose containers c := by
        intro c hmem
        obtain ⟨hresolve, s, hs, hne⟩ := (deleted_named_iff ha h hnamed).mp hmem
        by_contra hno
        exact hgood (.otherContainer hnamed c s hresolve hs hne hno)
      refine ⟨fun c hmem => ⟨hjackrose c hmem, ?_⟩, fun hauto hpresent => ?_⟩
      · obtain ⟨-, s, hs, hne⟩ := (deleted_named_iff ha h hnamed).mp hmem
        exact fun hc => hne (Option.some.inj (hc.symm.trans hs))
      · have hcandidate := hauto.resolve_left hnamed.1
        have hkept : ∃ c s, d.resolve a.target = some c ∧ d.startup = some s ∧ c ≠ s := by
          by_contra hno
          refine hgood (.candidateLost hcandidate hnamed hpresent fun c hresolve => ?_)
          cases hroot : d.startup with
          | none => exact Or.inr rfl
          | some s =>
            left
            by_contra hne
            exact hno ⟨c, s, hresolve, hroot, fun hc => hne (congrArg some hc.symm)⟩
        obtain ⟨c, s, hresolve, hs, hne⟩ := hkept
        have hmem := (deleted_named_iff ha h hnamed).mpr ⟨hresolve, s, hs, hne⟩
        exact ⟨c, hmem, hjackrose c hmem⟩
    · refine ⟨fun r hmem => ?_, fun _ hpresent => ?_⟩
      · obtain ⟨c, id, hfirst, rfl, s, hs, hne⟩ := (deleted_searched_iff ha h hnamed).mp hmem
        obtain ⟨hc, hjackrose, -⟩ := firstJackrose_spec hfirst
        exact ⟨⟨c, hc, rfl, hjackrose⟩, fun hroot => hne (Option.some.inj (hroot.symm.trans hs))⟩
      · cases hfirst : firstJackrose containers with
        | none => exact absurd (.unidentified hnamed hpresent hfirst) hgood
        | some found =>
          obtain ⟨c, id⟩ := found
          obtain ⟨hc, hjackrose, -⟩ := firstJackrose_spec hfirst
          cases hroot : d.startup with
          | none => exact absurd (.noStartup hnamed hpresent hroot) hgood
          | some s =>
            have hne : c.reference ≠ s := by
              rintro rfl
              exact hgood (.startupFirst hnamed hpresent c id hfirst hroot)
            exact ⟨c.reference, (deleted_searched_iff ha h hnamed).mpr
              ⟨c, id, hfirst, rfl, s, hroot, hne⟩, c, hc, rfl, hjackrose⟩

end

/-- The startup container `disk3` and one other, with a volume each. -/
def twoContainers (name : String) : List Container :=
  [⟨"disk3", [⟨some "disk3s1", some "Macintosh HD", none⟩], by decide⟩,
   ⟨"disk4", [⟨some "disk4s1", some name, none⟩], by decide⟩]

def twoContainersInfo (target : String) : Except String Info :=
  if target = "/" ∨ target = "disk3s1" then .ok ⟨some "disk3", some "disk3"⟩
  else if target = "disk4s1" then .ok ⟨some "disk4", some "disk4"⟩
  else .error "diskutil: could not find disk"

def twoContainersDisk (name : String) : Diskutil :=
  ⟨.ok (twoContainers name), twoContainersInfo, fun _ => .ok ()⟩

theorem twoContainers_consistent (name : String) :
    Consistent (twoContainersDisk name) (twoContainers name) where
  list := rfl
  volumes := by
    intro c hc v hv id hid
    rcases List.mem_pair.mp hc with rfl | rfl
    · obtain rfl := List.mem_singleton.mp hv
      obtain rfl := Option.some.inj hid
      exact ⟨_, rfl, rfl⟩
    · obtain rfl := List.mem_singleton.mp hv
      obtain rfl := Option.some.inj hid
      exact ⟨_, rfl, rfl⟩
  known := by
    intro target info reference hinfo hreference
    have hinfo : twoContainersInfo target = .ok info := hinfo
    unfold twoContainersInfo at hinfo
    split at hinfo
    · obtain rfl := Except.ok.inj hinfo
      exact ⟨_, List.mem_cons_self, Option.some.inj hreference⟩
    split at hinfo
    · obtain rfl := Except.ok.inj hinfo
      exact ⟨_, List.mem_cons_of_mem _ List.mem_cons_self, Option.some.inj hreference⟩
    · cases hinfo

/-- A search that finds the second container deletes it. -/
theorem deletes_only_jackrose_found :
    DeletesOnlyJackrose (twoContainersDisk "Jackrose") (twoContainers "Jackrose")
      ⟨"", false, true, true⟩ := by
  refine (deletes_only_jackrose_iff ⟨rfl, rfl, rfl⟩ (twoContainers_consistent _)).mpr ?_
  intro hbad
  cases hbad with
  | otherContainer hnamed => exact hnamed.1 rfl
  | candidateLost hcandidate => exact absurd hcandidate (by decide)
  | startupFirst _ _ c id hfirst hroot =>
    have hsecond : (firstJackrose (twoContainers "Jackrose")).map (·.1.reference) =
        some "disk4" := by
      decide +kernel
    rw [hfirst] at hsecond
    rw [Option.map_some, Option.some.injEq] at hsecond
    rw [hsecond] at hroot
    exact absurd hroot (by decide +kernel)
  | unidentified _ _ hfirst =>
    exact absurd (congrArg Option.isSome hfirst) (by decide +kernel)
  | noStartup _ _ hroot => exact absurd hroot (by decide +kernel)

/-- The container of a volume named by its identifier is deleted, whatever is in it. -/
theorem other_container_deleted :
    ¬∀ (d : Diskutil) (containers : List Container) (a : ExecuteArgs), a.Destructive →
      Consistent d containers → DeletesOnlyJackrose d containers a := by
  intro hclaim
  have h := hclaim (twoContainersDisk "Backup") (twoContainers "Backup")
    ⟨"disk4s1", false, true, true⟩ ⟨rfl, rfl, rfl⟩ (twoContainers_consistent _)
  obtain ⟨⟨c, hc, -, hjackrose⟩, -⟩ := h.deleted "disk4" (by decide +kernel)
  have hnone : ∀ c ∈ twoContainers "Backup", c.hasJackrose = false := by decide +kernel
  exact absurd (hjackrose.symm.trans (hnone c hc)) (by decide)

end Cidre.Uninstall
