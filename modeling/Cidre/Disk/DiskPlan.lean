/-
  Cidre.Disk.DiskPlan

  `jackrose-app-disk-plan`, the planner: how the sizes of the new partition are
  resolved from the APFS limits, what is validated, and the plan id.

  The planner is Python: `\d` is a decimal digit of any script, integers are
  unbounded, and `re.fullmatch` has no leniency at the end of the text.
  `fmt_human` is taken to print every size, though it raises for one that no float
  can hold.
-/

import Cidre.Disk.Helper

namespace Cidre.Disk

open Partial Pattern

/-! ## Inputs -/

/-- The options of the planner. -/
structure PlanInput where
  mode : String
  target : String
  containerSize : String
  partitionSize : String
  partitionMode : String
  volumeName : String
  planId : String
deriving DecidableEq, Repr

/-- `CurrentSize` and `MinimumSizePreferred` of `diskutil apfs resizeContainer
    limits`, whatever integers they are. -/
structure Limits where
  current : Int
  minPreferred : Int

/-- The host the planner runs on. -/
structure PlanHost where
  /-- `platform.system() == "Darwin"`. -/
  darwin : Bool
  /-- The limits of a target, `none` when reading them raises. -/
  limits : String → Option Limits
  /-- `round(max_partition * 0.6 / (10 * 1000**3))`, in floating point. -/
  autoSteps : Int → Int
  sha256 : Bytes → String

inductive PlanError where
  | mode
  | target
  | notEnoughSpace (available : Int)
  | maxLeavesNothing
  | maxNeedsContainer
  | limits
  | containerSize
  | partitionSize
  | volumeName
  | belowMinimum (requested minPreferred : Int)
  | exceedsStore (requested partition current : Int)
deriving DecidableEq, Repr

/-- The text of an error, with `fmt` for `fmt_human` and `detail` for the text
    of the exception. -/
def PlanError.message (fmt : Int → String) (detail : String) : PlanError → String
  | .mode => "mode must be install or uninstall"
  | .target => "target must look like disk3s2"
  | .notEnoughSpace available =>
      "Not enough free space for a minimum Jackrose partition. Need at least " ++
        fmt 20000000000 ++ ", only " ++ fmt available ++ " available."
  | .maxLeavesNothing => "partition size 'max' leaves no space for the new Jackrose partition."
  | .maxNeedsContainer => "partition size 'max' requires a valid explicit container size."
  | .limits => "could not read APFS resize limits: " ++ detail
  | .containerSize =>
      "container size is invalid or not yet resolved — use --partition-mode max|min|auto or " ++
        "provide --container-size and --partition-size"
  | .partitionSize => "partition size is invalid or not yet resolved"
  | .volumeName => "volume name is invalid"
  | .belowMinimum requested minPreferred =>
      "container size (" ++ fmt requested ++ ") is below macOS recommended minimum (" ++
        fmt minPreferred ++ ")."
  | .exceedsStore requested partition current =>
      "container (" ++ fmt requested ++ ") + partition (" ++ fmt partition ++ ") = " ++
        fmt (requested + partition) ++ " exceeds physical store (" ++ fmt current ++ ")."

/-! ## Sizes -/

/-- `disk\d+s\d+`. -/
def planTarget : List Piece := lit "disk" ++ plus isDecimal ++ lit "s" ++ plus isDecimal

/-- `[1-9]\d*(?:B|K|M|G|T|P)` without case; `re.I` also folds the Kelvin sign. -/
def planSize : List Piece := [.one isNonzeroDigit, .star isDecimal, .one isUnit]

def matchesPlanSize (s : String) : Bool := accepts planSize s.toList

/-- `re.fullmatch(r"max", s, re.I)`. -/
def isMax (s : String) : Bool :=
  accepts [.one fun c => c = 'm' || c = 'M', .one fun c => c = 'a' || c = 'A',
    .one fun c => c = 'x' || c = 'X'] s.toList

/-- `scale[c.upper()]`; the Kelvin sign is its own upper case and no key. -/
def scale (c : Char) : Option Int :=
  match c with
  | 'B' | 'b' => some 1
  | 'K' | 'k' => some 1000
  | 'M' | 'm' => some 1000000
  | 'G' | 'g' => some 1000000000
  | 'T' | 't' => some 1000000000000
  | 'P' | 'p' => some 1000000000000000
  | _ => none

/-- The number that decimal digits of any script stand for. -/
def pyDigits (cs : List Char) : Option Nat :=
  if cs = [] then none
  else cs.foldlM (fun acc c => (decimalValue c).map fun d => acc * 10 + d) 0

/-- `str.isspace`, as code points. -/
def pySpaces : List Nat :=
  [0x9, 0xA, 0xB, 0xC, 0xD, 0x1C, 0x1D, 0x1E, 0x1F, 0x20, 0x85, 0xA0, 0x1680, 0x2000, 0x2001,
   0x2002, 0x2003, 0x2004, 0x2005, 0x2006, 0x2007, 0x2008, 0x2009, 0x200A, 0x2028, 0x2029,
   0x202F, 0x205F, 0x3000]

def isPySpace (c : Char) : Bool := pySpaces.contains c.toNat

/-- `int(text)`: blanks around the number, a sign, and single underscores between the
    digits are allowed, and more than 4300 digits are not. -/
def pyInt (text : List Char) : Option Int :=
  let number := ((text.dropWhile isPySpace).reverse.dropWhile isPySpace).reverse
  let signed := number.head? = some '-' ∨ number.head? = some '+'
  let digits := if signed then number.tail else number
  let groups := digits.splitOn '_'
  if groups.all (· ≠ []) && groups.flatten.length ≤ 4300 then
    (pyDigits groups.flatten).map fun n : Nat =>
      if number.head? = some '-' then -(n : Int) else (n : Int)
  else none

/-- `size_bytes`, `none` when it raises. -/
def sizeBytes (value : String) : Option Int := do
  let unit ← value.toList.getLast?
  let number ← pyInt value.toList.dropLast
  let factor ← scale unit
  some (number * factor)

/-- A size as the planner prints it. -/
def bytesText (n : Int) : String := toString n ++ "B"

/-- The sizes and the errors after the limits have been read. -/
structure Sizing where
  containerSize : String
  partitionSize : String
  errors : List PlanError

/-- `auto_partition`. -/
def autoPartition (host : PlanHost) (maxPartition : Int) : Int :=
  min (max 10000000000 (host.autoSteps maxPartition * 10000000000)) maxPartition

/-- The custom mode: the sizes are those given, except for a partition of `max`. -/
def customSizes (lim : Limits) (i : PlanInput) : Sizing :=
  if isMax i.partitionSize then
    if matchesPlanSize i.containerSize then
      match sizeBytes i.containerSize with
      | none => ⟨i.containerSize, i.partitionSize, [.limits]⟩
      | some requested =>
          if lim.current - requested ≤ 0 then
            ⟨i.containerSize, i.partitionSize, [.maxLeavesNothing]⟩
          else ⟨i.containerSize, bytesText (lim.current - requested), []⟩
    else ⟨i.containerSize, i.partitionSize, [.maxNeedsContainer]⟩
  else ⟨i.containerSize, i.partitionSize, []⟩

/-- The body of the `try` once the limits are known. -/
def resolveSizes (host : PlanHost) (lim : Limits) (i : PlanInput) : Sizing :=
  let maxPartition := lim.current - lim.minPreferred
  if i.partitionMode = "max" then
    ⟨bytesText lim.minPreferred, bytesText (lim.current - lim.minPreferred), []⟩
  else if i.partitionMode = "min" then
    let resolved := if maxPartition < 20000000000 then maxPartition else 20000000000
    ⟨bytesText (lim.current - resolved), bytesText resolved,
      if maxPartition < 20000000000 then [.notEnoughSpace maxPartition] else []⟩
  else if i.partitionMode = "auto" then
    let resolved := lim.current - autoPartition host maxPartition
    ⟨bytesText resolved, bytesText (lim.current - resolved), []⟩
  else if i.partitionMode = "custom" then customSizes lim i
  -- No size is resolved, and `current - None` raises.
  else ⟨"NoneB", i.partitionSize, [.limits]⟩

/-! ## The plan -/

/-- The errors found before the limits are read. -/
def inputErrors (i : PlanInput) : List PlanError :=
  (if i.mode = "install" ∨ i.mode = "uninstall" then [] else [.mode]) ++
    (if accepts planTarget i.target.toList then [] else [.target])

/-- The sizes and errors after the first `if`, and the limits it has read. -/
def sizing (host : PlanHost) (i : PlanInput) : Sizing × Option Limits :=
  if i.mode = "install" ∧ inputErrors i = [] ∧ host.darwin then
    match host.limits i.target with
    | none => (⟨i.containerSize, i.partitionSize, [.limits]⟩, none)
    | some lim => (resolveSizes host lim i, some lim)
  else (⟨i.containerSize, i.partitionSize, inputErrors i⟩, none)

def validVolume (volumeName : String) : Bool :=
  volumeName ≠ "" && !volumeName.toList.contains '/' && volumeName.length ≤ 64

/-- The checks of an install plan that need no limits. -/
def shapeErrors (s : Sizing) (volumeName : String) : List PlanError :=
  (if matchesPlanSize s.containerSize then [] else [.containerSize]) ++
    (if matchesPlanSize s.partitionSize then [] else [.partitionSize]) ++
    (if validVolume volumeName then [] else [.volumeName])

/-- The comparison with the limits; `none` when a size raises. -/
def limitErrors (lim : Limits) (s : Sizing) : Option (List PlanError) := do
  let requested ← sizeBytes s.containerSize
  let partition ← sizeBytes s.partitionSize
  some ((if requested < lim.minPreferred then [.belowMinimum requested lim.minPreferred] else []) ++
    (if requested + partition > lim.current then [.exceedsStore requested partition lim.current]
      else []))

/-- All errors of the plan; `none` is a traceback. -/
def planErrors (host : PlanHost) (i : PlanInput) : Option (List PlanError) := do
  let (s, limits) := sizing host i
  if i.mode = "install" then
    let errors := s.errors ++ shapeErrors s i.volumeName
    match limits with
    | some lim => if errors = [] then limitErrors lim s else some errors
    | none => some errors
  else some s.errors

/-- What the planner returns; `errors = []` is status `pass`. -/
structure DiskPlan where
  errors : List PlanError
  planId : String
  helperOperation : String
  target : String
  containerSize : String
  partitionSize : String
  volumeName : String
deriving DecidableEq, Repr

/-- The sizes in `summary_ok`; `none` when one of them raises. -/
def summarySizes (errors : List PlanError) (s : Sizing) : Option (List Int) :=
  if errors = [] ∧ s.containerSize ≠ "" ∧ s.partitionSize ≠ "" then
    [s.containerSize, s.partitionSize].mapM sizeBytes
  else some []

/-- `jackrose-app-disk-plan`; `none` is a traceback. -/
def diskPlan (host : PlanHost) (i : PlanInput) : Option DiskPlan := do
  let errors ← planErrors host i
  let s := (sizing host i).1
  let _ ← summarySizes errors s
  let helperOperation := if i.mode = "install" then "partition-create" else "partition-delete"
  let volumeName := if i.mode = "install" then i.volumeName else ""
  let canonical := String.intercalate "\n"
    [i.mode, helperOperation, i.target, s.containerSize, s.partitionSize, volumeName]
  some
    { errors := errors
      planId := if i.planId ≠ "" then i.planId else shortDigest host.sha256 canonical
      helperOperation := helperOperation
      target := i.target
      containerSize := s.containerSize
      partitionSize := s.partitionSize
      volumeName := volumeName }

/-- The helper request made from a plan. -/
def DiskPlan.request (p : DiskPlan) (dryRun : Bool) (token : Option String) : HelperRequest where
  schemaVersion := 1
  operation := p.helperOperation
  target := some p.target
  dryRun := dryRun
  confirmationToken := token
  planID := some p.planId
  arguments := [p.containerSize, p.volumeName, p.partitionSize]

end Cidre.Disk
