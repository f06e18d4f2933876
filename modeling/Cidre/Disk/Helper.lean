/-
  Cidre.Disk.Helper

  The privileged helper (`JackrosePrivilegedHelper`):

    HelperAuthorization.canExecute       canExecute
    DiskOperationService.execute         execute
    DiskOperationService.expectedPlanID  expectedPlanID
    DiskOperationService.validateResize  validateResize

  `diskutil` is a parameter: `Machine.runDiskutil` answers the read-only
  queries, `Machine.process` runs the mutating commands.  `execute` returns the
  commands it started next to its result.
-/

import Mathlib.Algebra.Ring.Int.Defs
import Mathlib.Algebra.Ring.Nat
import Cidre.Lib.Partial
import Cidre.Lib.Swift
import Cidre.Disk.Plan

namespace Cidre.Disk

open Partial Pattern

/-! ## Requests, the machine, results -/

/-- `HelperProtocol`, as decoded from the request file. -/
structure HelperRequest where
  schemaVersion : Int
  operation : String
  target : Option String
  dryRun : Bool
  confirmationToken : Option String
  planID : Option String
  arguments : List String
deriving DecidableEq, Repr

/-- The operations the scripts and the helper tell apart. -/
inductive Operation where
  | partitionCreate
  | partitionDelete
  | apfsAddVolume
  | apfsDeleteVolume
  | apfsResizeContainer
  | jackroseUninstall
  | controlledInstall
  | other
deriving DecidableEq, Repr

def Operation.ofName (s : String) : Operation :=
  if s = "partition-create" then .partitionCreate
  else if s = "partition-delete" then .partitionDelete
  else if s = "apfs-add-volume" then .apfsAddVolume
  else if s = "apfs-delete-volume" then .apfsDeleteVolume
  else if s = "apfs-resize-container" then .apfsResizeContainer
  else if s = "jackrose-uninstall" then .jackroseUninstall
  else if s = "controlled-install" then .controlledInstall
  else .other

abbrev Dict := List (String × Json)

structure Machine where
  /-- Exit status and parsed output of a `diskutil` query. -/
  runDiskutil : List String → Int × Option Json
  /-- Exit status, standard output and standard error of a command, or why it
      could not be started. -/
  process : List String → Except String (Int × String × String)

inductive ResultStatus where
  | pass
  | fail
  | blocked
deriving DecidableEq, Repr

/-- `DiskOperationService.Result`. -/
structure Result where
  status : ResultStatus
  summary : String
  exitCode : Int
  command : List String
  stdout : String
  stderr : String
deriving DecidableEq, Repr

/-- A result and the commands that were started to get it. -/
structure Execution where
  result : Result
  started : List (List String)

def rejected (message : String) : Result := ⟨.blocked, message, 4, [], "", ""⟩

/-! ## Property lists -/

/-- `value as? String`. -/
def asString : Json → Option String
  | .str s => some s
  | _ => none

/-- `value as? [String: Any]`. -/
def asDict : Json → Option Dict
  | .obj fields => some fields
  | _ => none

/-- `value as? [[String: Any]]`. -/
def asDicts : Json → Option (List Dict)
  | .arr items => items.mapM asDict
  | _ => none

/-- `(value as? NSNumber)?.int64Value`; property-list integers have 64 bits. -/
def int64Value : Json → Option Int
  | .num value _ => some (value.num.tdiv value.den)
  | .bool b => some (if b then 1 else 0)
  | _ => none

/-- `dictionary[key] as? String`. -/
def strAt (d : Dict) (key : String) : Option String := (d.lookup key).bind asString

/-- `dictionary[key] as? [[String: Any]]`. -/
def dictsAt (d : Dict) (key : String) : Option (List Dict) := (d.lookup key).bind asDicts

namespace Machine

variable (m : Machine)

def plist (arguments : List String) : Option Dict :=
  let result := m.runDiskutil arguments
  if result.1 = 0 then result.2.bind asDict else none

def info (target : String) : Option Dict := m.plist ["info", "-plist", target]

def validateTargetStillExists (target : String) : Bool :=
  (m.runDiskutil ["info", "-plist", target]).1 = 0

end Machine

/-- The keys `identifiers(in:)` looks at. -/
def identifierKeys : List String :=
  ["DeviceIdentifier", "APFSContainerReference", "APFSVolumeGroupUUID", "VolumeUUID",
   "ParentWholeDisk"]

mutual

/-- `collect`, the identifiers anywhere inside a value. -/
def collect : Json → List String
  | .obj fields => collectFields fields
  | .arr items => collectItems items
  | _ => []

def collectFields : List (String × Json) → List String
  | [] => []
  | (key, item) :: rest =>
      (if key ∈ identifierKeys ++ ["APFSPhysicalStore"] then (asString item).toList else []) ++
        collect item ++ collectFields rest

def collectItems : List Json → List String
  | [] => []
  | item :: rest => collect item ++ collectItems rest

end

/-- `identifiers(in:)`, as the list of the set's elements. -/
def identifiers (d : Dict) : List String :=
  identifierKeys.filterMap (strAt d) ++ collectFields d

/-- The physical stores of the startup volume. -/
def startupStores (root : Dict) : List String :=
  ((dictsAt root "APFSPhysicalStores").getD []).filterMap (strAt · "APFSPhysicalStore")

/-! ## Argument validation -/

def diskIdentifier : List Piece := lit "disk" ++ plus isDigit ++ lit "s" ++ plus isDigit

def containerIdentifier : List Piece := lit "disk" ++ plus isDigit

/-- `B|K|M|G|T|P` without case; the Kelvin sign folds to `k`. -/
def isUnit (c : Char) : Bool :=
  ['B', 'K', 'M', 'G', 'T', 'P', 'b', 'k', 'm', 'g', 't', 'p', '\u212a'].contains c

/-- `[1-9]`. -/
def isNonzeroDigit (c : Char) : Bool := isDigit c && c ≠ '0'

def sizedValue : List Piece := [.one isNonzeroDigit, .star isDigit, .one isUnit]

/-- The regular expressions of the helper. -/
def matchesDisk (s : String) : Bool := Swift.anchored (accepts diskIdentifier) s

def matchesContainer (s : String) : Bool := Swift.anchored (accepts containerIdentifier) s

def matchesSize (s : String) : Bool :=
  Swift.anchored (fun cs => accepts (lit "0") cs || accepts sizedValue cs) s

def validVolumeName (S : SwiftText) (value : String) : Bool :=
  value ≠ "" && S.count value ≤ 64 && !S.contains value "/" && !S.contains value "\n"

/-- `Int64(text)` for a text of ASCII digits. -/
def parseInt64 (cs : List Char) : Option Int :=
  if cs.isEmpty || !cs.all isDigit then none
  else
    let n : Nat := cs.foldl (fun acc c => acc * 10 + (c.toNat - 0x30)) 0
    if n < 2 ^ 63 then some n else none

def unitMultiplier (unit : Char) : Option Int :=
  match unit with
  | 'B' | 'b' => some 1
  | 'K' | 'k' | '\u212a' => some 1000
  | 'M' | 'm' => some 1000000
  | 'G' | 'g' => some 1000000000
  | 'T' | 't' => some 1000000000000
  | 'P' | 'p' => some 1000000000000000
  | _ => none

/-- `bytes(from:)`, `none` also when the product overflows. -/
def bytesFrom (value : String) : Option Int := do
  if value = "0" then some 0
  else
    let unit ← value.toList.getLast?
    let number ← parseInt64 value.toList.dropLast
    let multiplier ← unitMultiplier unit
    if number * multiplier < 2 ^ 63 then some (number * multiplier) else none

/-- `validateResize`: `none` when the limits cannot be read, otherwise the
    error text, empty when there is none. -/
def validateResize (m : Machine) (target containerSize : String) (partitionSize : Option String) :
    Option String := do
  let limits ← m.plist ["apfs", "resizeContainer", target, "limits", "-plist"]
  let current ← (limits.lookup "CurrentSize").bind int64Value
  let preferred ← (limits.lookup "MinimumSizePreferred").bind int64Value
  let requested ← bytesFrom containerSize
  if requested < preferred then
    some ("Requested container size is below macOS recommended minimum (" ++ toString preferred ++
      " bytes). Free space and retry.")
  else if requested > current then
    some "Requested container size exceeds the current APFS physical store size."
  else
    match partitionSize with
    | none => some ""
    | some partitionSize =>
        match bytesFrom partitionSize with
        | none => some "New partition size must be a positive explicit size."
        | some partitionBytes =>
            if partitionBytes ≤ 0 then some "New partition size must be a positive explicit size."
            else if requested > current - partitionBytes then
              some "Container and new partition sizes exceed the current physical store size."
            else some ""

/-! ## Targets -/

def isProtectedForCreation (m : Machine) (target : String) : Bool :=
  match m.info "/" with
  | none => true
  | some root =>
      if some target = strAt root "APFSContainerReference" || (startupStores root).contains target
      then true
      else
        match m.plist ["apfs", "list", "-plist", target] with
        | none => true
        | some containerList =>
            let containers := (dictsAt containerList "Containers").getD []
            match containers.find? fun c => strAt c "ContainerReference" = some target with
            | none => true
            | some container =>
                let physicalStores := ((dictsAt container "PhysicalStores").getD []).filterMap
                  (strAt · "DeviceIdentifier")
                physicalStores.any fun s => (startupStores root).contains s

def isValidInstallCreationTarget (S : SwiftText) (m : Machine) (target : String) : Bool :=
  match m.info "/", m.info target with
  | some root, some targetInfo =>
      let identifier := (strAt targetInfo "DeviceIdentifier").getD target
      let content := S.lowercased
        (((strAt targetInfo "Content").or (strAt targetInfo "FilesystemType")).getD "")
      if some identifier = strAt root "APFSContainerReference" then true
      else (startupStores root).contains identifier && S.contains content "apple_apfs"
  | _, _ => false

def isProtectedForDeletion (S : SwiftText) (m : Machine) (target : String) : Bool :=
  match m.info target, m.info "/" with
  | some targetInfo, some rootInfo =>
      let mountPoint := strAt targetInfo "MountPoint"
      if mountPoint = some "/" ∨ mountPoint = some "/System/Volumes/Data" then true
      else if (identifiers targetInfo).any fun s => (identifiers rootInfo).contains s then true
      else
        let name := S.lowercased ((strAt targetInfo "VolumeName").getD "")
        S.contains name "recovery" || S.contains name "preboot" || S.contains name "vm"
  | _, _ => true

/-! ## Authorisation and plan identity -/

/-- `HelperAuthorization.canExecute`. -/
def canExecute (S : SwiftText) (request : HelperRequest) : Bool :=
  if request.dryRun then true
  else
    match request.planID, request.confirmationToken with
    | some planID, some confirmationToken =>
        planID ≠ "" && confirmationToken ≠ "" &&
          (S.canonEq confirmationToken ("JACKROSE EXECUTE " ++ planID) ||
            32 ≤ S.count confirmationToken)
    | _, _ => false

/-- The first eight bytes of the digest, in hexadecimal. -/
def shortDigest (sha256 : Bytes → String) (canonical : String) : String :=
  String.ofList ((sha256 (encode canonical)).toList.take 16)

/-- `expectedPlanID(for:target:)`; `sha256` gives the digest in hexadecimal. -/
def expectedPlanID (sha256 : Bytes → String) (request : HelperRequest) (target : String) : String :=
  match Operation.ofName request.operation with
  | .jackroseUninstall =>
      shortDigest sha256
        (String.intercalate "\n" (["uninstall", request.operation, target] ++ request.arguments))
  | .partitionCreate =>
      shortDigest sha256 (String.intercalate "\n"
        ["install", request.operation, target, request.arguments[0]?.getD "",
          request.arguments[2]?.getD "", request.arguments[1]?.getD ""])
  | _ =>
      shortDigest sha256 (String.intercalate "\n"
        ["uninstall", request.operation, target, "", "", ""])

/-- The operations whose plan id the helper recomputes. -/
def checksPlanID : Operation → Bool
  | .partitionCreate | .partitionDelete | .jackroseUninstall => true
  | _ => false

/-! ## jackrose-uninstall -/

mutual

def containsJackroseVolume (S : SwiftText) : Json → Bool
  | .obj fields =>
      (match (fields.lookup "Name").bind asString with
        | some name => S.contains (S.lowercased name) "jackrose"
        | none => false) || anyFieldJackrose S fields
  | .arr items => anyItemJackrose S items
  | _ => false

def anyFieldJackrose (S : SwiftText) : List (String × Json) → Bool
  | [] => false
  | (_, value) :: rest => containsJackroseVolume S value || anyFieldJackrose S rest

def anyItemJackrose (S : SwiftText) : List Json → Bool
  | [] => false
  | value :: rest => containsJackroseVolume S value || anyItemJackrose S rest

end

/-- `partitionsAreContiguous`, from the end of the previous partition on. -/
def contiguousFrom : Option Int → List Dict → Bool
  | _, [] => true
  | previousEnd, d :: rest =>
      match (d.lookup "PartitionMapPartitionOffset").bind int64Value,
          (d.lookup "Size").bind int64Value with
      | some offset, some size =>
          if previousEnd.any fun e => offset < e || offset - e > 1048576 then false
          else contiguousFrom (some (offset + size)) rest
      | _, _ => false

def partitionsAreContiguous (dictionaries : List Dict) : Bool := contiguousFrom none dictionaries

def apfsContainerReference (m : Machine) (physicalStore : String) : Option String := do
  let allContainers ← m.plist ["apfs", "list", "-plist"]
  let containers ← dictsAt allContainers "Containers"
  containers.findSome? fun container => do
    let ref ← strAt container "ContainerReference"
    let stores ← dictsAt container "PhysicalStores"
    if stores.any fun s => strAt s "DeviceIdentifier" = some physicalStore then some ref else none

/-- What `executeJackroseUninstall` has read before it checks anything. -/
structure UninstallInfo where
  stub : Dict
  efi : Dict
  linux : Dict
  recovery : Dict
  root : Dict
  startupPhysicalStore : String
  grow : Dict

def uninstallInfo (m : Machine) (stubTarget efiTarget linuxTarget recoveryTarget growTarget : String) :
    Option UninstallInfo := do
  let stub ← m.info stubTarget
  let efi ← m.info efiTarget
  let linux ← m.info linuxTarget
  let recovery ← m.info recoveryTarget
  let root ← m.info "/"
  let rootStore ← dictsAt root "APFSPhysicalStores"
  let first ← rootStore.head?
  let startupPhysicalStore ← strAt first "APFSPhysicalStore"
  let grow ← m.plist ["apfs", "list", "-plist", growTarget]
  some ⟨stub, efi, linux, recovery, root, startupPhysicalStore, grow⟩

/-- The five commands of an accepted uninstall, or the text of the rejection. -/
def uninstallCommands (S : SwiftText) (m : Machine) (stubTarget : String) :
    List String → Except String (List (List String))
  | [efiTarget, linuxTarget, recoveryTarget, growTarget] => do
      ensure ([efiTarget, linuxTarget, recoveryTarget].all matchesDisk ∧ matchesContainer growTarget)
        "Uninstall requires partition identifiers plus a startup APFS container reference."
      let i ← orThrow (uninstallInfo m stubTarget efiTarget linuxTarget recoveryTarget growTarget)
        "One or more uninstall targets disappeared before execution."
      let dictionaries :=
        (m.info i.startupPhysicalStore).toList ++ [i.stub, i.efi, i.linux, i.recovery]
      let parents := (dictionaries.filterMap (strAt · "ParentWholeDisk")).dedup
      ensure (parents.length = 1) "Uninstall targets are not on the same physical disk."
      ensure (some growTarget = strAt i.root "APFSContainerReference" ∧
          (dictsAt i.grow "Containers").isSome ∧
          (identifiers i.root).contains i.startupPhysicalStore)
        "The grow target is not the current macOS startup APFS container."
      ensure (dictionaries.head?.bind (strAt · "Content") = some "Apple_APFS")
        "The startup physical store is not a resizable APFS partition."
      let stubRejected := "The first target is not a Jackrose APFS stub container."
      ensure (strAt i.stub "Content" = some "Apple_APFS") stubRejected
      let stubContainer ← orThrow (strAt i.stub "APFSContainerReference") stubRejected
      let containerInfo ← orThrow (m.plist ["apfs", "list", "-plist", stubContainer]) stubRejected
      ensure (containsJackroseVolume S (.obj containerInfo)) stubRejected
      let efiName := S.uppercased ((strAt i.efi "VolumeName").getD "")
      ensure (strAt i.efi "Content" = some "EFI" ∧ S.contains efiName "JACKROSE")
        "The EFI target is not labeled for Jackrose."
      ensure (strAt i.linux "Content" = some "Linux Filesystem")
        "The selected Linux target has an unexpected partition type."
      ensure (strAt i.recovery "Content" = some "Apple_APFS_Recovery")
        "The selected recovery target is not the old installation recovery partition."
      ensure (partitionsAreContiguous dictionaries)
        "Jackrose partitions are not contiguous with the macOS container."
      -- Recovery partitions often lack the container reference in `diskutil info`.
      let recoveryContainer ← orThrow
        ((strAt i.recovery "APFSContainerReference").or (apfsContainerReference m recoveryTarget))
        "Could not resolve APFS container reference for the recovery partition."
      pure
        [["/usr/sbin/diskutil", "apfs", "deleteContainer", recoveryContainer],
         ["/usr/sbin/diskutil", "eraseVolume", "free", "free", linuxTarget],
         ["/usr/sbin/diskutil", "eraseVolume", "free", "free", efiTarget],
         ["/usr/sbin/diskutil", "apfs", "deleteContainer", stubContainer],
         ["/usr/sbin/diskutil", "apfs", "resizeContainer", growTarget, "0"]]
  | _ => throw "Jackrose uninstall requires EFI, Linux, Recovery, and startup APFS targets."

/-- The loop over the commands: stop at the first that fails.  `output` is what
    the commands so far have printed, `started` what was started. -/
def runUninstall (m : Machine) (preview : List String) :
    List (List String) → String → List (List String) → Execution
  | [], output, started =>
      ⟨⟨.pass, "Old Jackrose partitions were removed and macOS space was restored.", 0, preview,
        output, ""⟩, started⟩
  | command :: rest, output, started =>
      match m.process command with
      | .error e =>
          ⟨⟨.fail, "Jackrose uninstall stopped because diskutil failed.", 1, preview, output, e⟩,
            started⟩
      | .ok (status, out, err) =>
          if status ≠ 0 then
            ⟨⟨.fail, "Jackrose uninstall stopped because diskutil failed.", status, preview,
              output ++ out, err⟩, started ++ [command]⟩
          else runUninstall m preview rest (output ++ out) (started ++ [command])

def executeJackroseUninstall (S : SwiftText) (m : Machine) (request : HelperRequest)
    (stubTarget : String) : Execution :=
  match uninstallCommands S m stubTarget request.arguments with
  | .error message => ⟨rejected message, []⟩
  | .ok commands =>
      let preview := commands.map (String.intercalate " ")
      if request.dryRun then
        ⟨⟨.pass, "Validated complete Jackrose uninstall preview.", 0, preview,
          String.intercalate "\n" preview, ""⟩, []⟩
      else runUninstall m preview commands "" []

/-! ## execute -/

/-- A command of the allowlist. -/
inductive DiskCommand where
  | partitionCreate (target containerSize volumeName partitionSize : String)
  | addVolume (target filesystem volumeName : String)
  | resizeContainer (target containerSize : String)
  | deleteVolume (target : String)
  | eraseVolume (target : String)
deriving DecidableEq, Repr

def DiskCommand.argv : DiskCommand → List String
  | .partitionCreate target containerSize volumeName partitionSize =>
      ["/usr/sbin/diskutil", "apfs", "resizeContainer", target, containerSize, "APFS", volumeName,
        partitionSize]
  | .addVolume target filesystem volumeName =>
      ["/usr/sbin/diskutil", "apfs", "addVolume", target, filesystem, volumeName]
  | .resizeContainer target containerSize =>
      ["/usr/sbin/diskutil", "apfs", "resizeContainer", target, containerSize]
  | .deleteVolume target => ["/usr/sbin/diskutil", "apfs", "deleteVolume", target]
  | .eraseVolume target => ["/usr/sbin/diskutil", "eraseVolume", "free", "JackroseFreeSpace", target]

/-- The `switch` of `execute`: the command of an accepted request, or the text
    of the rejection. -/
def buildCommand (S : SwiftText) (m : Machine) (request : HelperRequest) (target : String) :
    Except String DiskCommand :=
  match Operation.ofName request.operation, request.arguments with
  | .partitionCreate, [containerSize, volumeName, partitionSize] => do
      ensure ((matchesContainer target ∨ matchesDisk target) ∧ matchesSize containerSize ∧
          validVolumeName S volumeName ∧ matchesSize partitionSize)
        "partition-create requires container-size, volume-name, and partition-size."
      let resizeError ← orThrow (validateResize m target containerSize (some partitionSize))
        "Could not read APFS resize limits for the selected target."
      ensure (resizeError = "") resizeError
      ensure (isValidInstallCreationTarget S m target)
        "The selected target is not the current startup APFS container or startup physical store."
      pure (.partitionCreate target containerSize volumeName partitionSize)
  | .partitionCreate, _ =>
      throw "partition-create requires container-size, volume-name, and partition-size."
  | .apfsAddVolume, [filesystem, volumeName] => do
      ensure (matchesContainer target ∧ validVolumeName S volumeName)
        "apfs-add-volume requires a container target, filesystem, and volume name."
      ensure (isProtectedForCreation m target = false)
        "The selected APFS container belongs to the startup system or another protected region."
      pure (.addVolume target filesystem volumeName)
  | .apfsAddVolume, _ =>
      throw "apfs-add-volume requires a container target, filesystem, and volume name."
  | .apfsResizeContainer, [containerSize] => do
      ensure (matchesContainer target ∧ matchesSize containerSize)
        "apfs-resize-container requires one validated size."
      let resizeError ← orThrow (validateResize m target containerSize none)
        "Could not read APFS resize limits for the selected target."
      ensure (resizeError = "") resizeError
      pure (.resizeContainer target containerSize)
  | .apfsResizeContainer, _ => throw "apfs-resize-container requires one validated size."
  | .apfsDeleteVolume, arguments => do
      ensure (matchesDisk target ∧ arguments = []) "apfs-delete-volume accepts no extra arguments."
      ensure (isProtectedForDeletion S m target = false)
        "The selected APFS volume is protected or belongs to the startup system."
      pure (.deleteVolume target)
  | .partitionDelete, arguments => do
      ensure (matchesDisk target ∧ arguments = []) "partition-delete accepts no extra arguments."
      ensure (isProtectedForDeletion S m target = false)
        "The selected partition is protected or belongs to the startup system."
      pure (.eraseVolume target)
  | _, _ => throw "Operation is not in the helper allowlist."

/-- The end of `execute`: preview or run an accepted command. -/
def runCommand (m : Machine) (dryRun : Bool) (target : String) (command : DiskCommand) :
    Execution :=
  if !m.validateTargetStillExists target then
    ⟨rejected "Target disappeared or changed before execution.", []⟩
  else if dryRun then
    ⟨⟨.pass, "Validated disk operation preview.", 0, command.argv, "", ""⟩, []⟩
  else
    match m.process command.argv with
    | .error e => ⟨⟨.fail, "Could not start diskutil.", 1, command.argv, "", e⟩, []⟩
    | .ok (status, out, err) =>
        ⟨⟨if status = 0 then .pass else .fail,
          if status = 0 then "Disk operation completed."
            else "diskutil rejected or failed the operation.",
          status, command.argv, out, err⟩, [command.argv]⟩

/-- `DiskOperationService.execute`. -/
def execute (S : SwiftText) (sha256 : Bytes → String) (m : Machine) (request : HelperRequest) :
    Execution :=
  if request.schemaVersion ≠ 1 then ⟨rejected "Unsupported helper request schema.", []⟩
  else if !canExecute S request then
    ⟨rejected "Confirmation token does not match the plan.", []⟩
  else
    match request.target with
    | none => ⟨rejected "Target is required.", []⟩
    | some target =>
        if checksPlanID (Operation.ofName request.operation) ∧
            request.planID ≠ some (expectedPlanID sha256 request target) then
          ⟨rejected "Plan ID does not match the requested disk operation.", []⟩
        else if Operation.ofName request.operation = .jackroseUninstall then
          executeJackroseUninstall S m request target
        else
          match buildCommand S m request target with
          | .error message => ⟨rejected message, []⟩
          | .ok command => runCommand m request.dryRun target command

/-! ## What an accepted request has passed -/

/-- Everything `execute` checks before it looks at the operation. -/
structure Accepted (S : SwiftText) (sha256 : Bytes → String) (request : HelperRequest)
    (target : String) : Prop where
  schema : request.schemaVersion = 1
  authorised : canExecute S request = true
  hasTarget : request.target = some target
  planID : checksPlanID (Operation.ofName request.operation) = true →
    request.planID = some (expectedPlanID sha256 request target)

/-- `execute` rejects, or the request is accepted and handed on by operation. -/
theorem execute_cases (S : SwiftText) (sha256 : Bytes → String) (m : Machine)
    (request : HelperRequest) :
    (∃ message, execute S sha256 m request = ⟨rejected message, []⟩) ∨
      ∃ target, Accepted S sha256 request target ∧
        ((Operation.ofName request.operation = .jackroseUninstall ∧
            execute S sha256 m request = executeJackroseUninstall S m request target) ∨
          ∃ command, buildCommand S m request target = .ok command ∧
            execute S sha256 m request = runCommand m request.dryRun target command) := by
  rw [execute]
  split
  · exact Or.inl ⟨_, rfl⟩
  rename_i hschema
  split
  · exact Or.inl ⟨_, rfl⟩
  rename_i hauth
  split
  · exact Or.inl ⟨_, rfl⟩
  rename_i target htarget
  split
  · exact Or.inl ⟨_, rfl⟩
  rename_i hplan
  have hacc : Accepted S sha256 request target := by
    refine ⟨by simpa using hschema, by simpa using hauth, htarget, fun hc => ?_⟩
    by_contra hne
    exact hplan ⟨hc, hne⟩
  split
  · rename_i hop
    exact Or.inr ⟨target, hacc, Or.inl ⟨hop, rfl⟩⟩
  · split
    · exact Or.inl ⟨_, rfl⟩
    · rename_i command hcommand
      exact Or.inr ⟨target, hacc, Or.inr ⟨command, hcommand, rfl⟩⟩

/-- A request whose execution starts anything was accepted. -/
theorem accepted_of_started {S : SwiftText} {sha256 : Bytes → String} {m : Machine}
    {request : HelperRequest} (h : (execute S sha256 m request).started ≠ []) :
    ∃ target, Accepted S sha256 request target := by
  rcases execute_cases S sha256 m request with ⟨message, hrej⟩ | ⟨target, hacc, -⟩
  · rw [hrej] at h
    exact absurd rfl h
  · exact ⟨target, hacc⟩

end Cidre.Disk
