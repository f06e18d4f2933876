/-
  Cidre.Uninstall.Stages

  The uninstall stage machine: every run of the export, the scan and the strict
  review, in any order, for every scan result and every target.

  What the state file says of a passed review is right in every run
  (`Inv.reviewed`).  But the review takes the export for completed only while
  the file is still in the stage `state-export`, so it passes exactly when no
  other command has written the file since the last export
  (`Inv.passed_iff`): the scan the export asks for next undoes it.  And a
  blocked review is recorded in one of its two modes only.
-/

import Cidre.Lib.Run
import Cidre.Uninstall.Review

namespace Cidre.Uninstall

open Cidre.Run

/-! ## The machine -/

/-- A command line of the flow.  A scan comes with the targets it found, or
    `none` when its Python part fails and the script stops (`set -e`). -/
inductive Command where
  | uninstallExport
  | targetScan (result : Option (List ScanTarget))
  | targetReview (target : String) (json : Bool)
  deriving DecidableEq, Repr

/-- The scripts that write the state file. -/
inductive Writer where
  | byExport
  | byScan
  | byReview
  deriving DecidableEq, Repr

/-- The two files the scripts share, and what has happened so far. -/
structure Machine where
  stateFile : Option UninstallState
  scanFile : Option (List ScanTarget)
  /-- An export has completed. -/
  exported : Bool
  /-- A scan has completed after an export had. -/
  chained : Bool
  /-- The last command that wrote the state file. -/
  writer : Option Writer
  deriving DecidableEq, Repr

/-- A strict review in the state `m`. -/
def Machine.review (env : Env) (m : Machine) (target : String) (json : Bool) : Reviewed :=
  Uninstall.review env m.stateFile m.scanFile target json true

/-- A review has written the state file if there is one and it got to its end. -/
def Machine.after (m : Machine) (r : Reviewed) : Machine :=
  { m with
    stateFile := r.stateFile
    writer := if m.stateFile.isSome && r.exitCode == 0 then some .byReview else m.writer }

/-- What a command leaves behind.  A scan or a review updates the state file
    only if there is one. -/
def Machine.next (env : Env) (m : Machine) : Command → Machine
  | .uninstallExport =>
      { m with
        stateFile := some (recordExport m.stateFile)
        exported := true
        writer := some .byExport }
  | .targetScan none => m
  | .targetScan (some targets) =>
      { m with
        stateFile := m.stateFile.map recordScan
        scanFile := some targets
        chained := m.exported
        writer := if m.stateFile.isSome then some .byScan else m.writer }
  | .targetReview target json => m.after (m.review env target json)

def step (env : Env) (m : Machine) (c : Command) : Option Machine := some (m.next env c)

/-- A flow that has not begun: the state file is missing or as
    jackrose-uninstall-state creates it.  An old scan may be around. -/
structure Initial (m : Machine) : Prop where
  stateFile : ∀ s, m.stateFile = some s → s = .initial
  not_exported : m.exported = false
  not_chained : m.chained = false
  no_writer : m.writer = none

/-! ## What holds in every run -/

/-- The file records a passed review. -/
def Recorded (s : UninstallState) : Prop := s.stage = .targetReview ∧ s.status = .passed

/-- The passed review the file records: it came after an export, and its target
    is listed. -/
def Machine.ReviewedSafely (env : Env) (m : Machine) : Prop :=
  ∀ s, m.stateFile = some s → Recorded s →
    m.exported = true ∧ ∃ t, Listed env m.scanFile t ∧ s.nextCommand = planCommand t

structure Inv (env : Env) (m : Machine) : Prop where
  /-- The export check of the review asks who wrote the file last. -/
  completed : exportCompleted env m.stateFile = true ↔ m.writer = some .byExport
  exported : m.writer = some .byExport → m.exported = true
  reviewed : m.ReviewedSafely env

section Steps

variable {env : Env} {m : Machine}

theorem exportCompleted_some (hmarker : env.exportMarker = false) {s : UninstallState} :
    exportCompleted env (some s) = true ↔ s.stage = .stateExport ∧ s.status = .passed := by
  simp [exportCompleted, hmarker]

theorem exportCompleted_none (hmarker : env.exportMarker = false) :
    exportCompleted env none = false := by
  simp [exportCompleted, hmarker]

/-- A review changes nothing, or it writes its verdict into the state file that
    is there; without --json only a verdict that passes. -/
theorem next_review (env : Env) (m : Machine) (target : String) (json : Bool) :
    m.next env (.targetReview target json) = m ∨
      ∃ s reason, m.stateFile = some s ∧
        blockedReason env m.stateFile (m.scanFile.getD []) target true = reason ∧
        m.next env (.targetReview target json) =
          { m with
            stateFile := some (recordReview target reason s)
            writer := some .byReview } := by
  obtain ⟨file, scan, exported, chained, writer⟩ := m
  by_cases ht : target = ""
  · subst ht
    left
    simp [Machine.next, Machine.review, Machine.after, review_empty]
  · rw [Machine.next, Machine.review]
    cases hr : blockedReason env file (scan.getD []) target true with
    | none =>
      rw [review_of_none ht hr]
      cases file with
      | none => exact Or.inl rfl
      | some s => exact Or.inr ⟨s, none, rfl, rfl, rfl⟩
    | some reason =>
      rw [review_of_some ht hr]
      cases json with
      | false =>
        left
        simp [Machine.after]
      | true =>
        cases file with
        | none => exact Or.inl rfl
        | some s => exact Or.inr ⟨s, some reason, rfl, rfl, rfl⟩

namespace Inv

theorem of_initial (hmarker : env.exportMarker = false) (h : Initial m) : Inv env m := by
  obtain ⟨file, scan, exported, chained, writer⟩ := m
  obtain ⟨hfile, hexp, hchain, hwriter⟩ := h
  dsimp only at hfile hexp hchain hwriter
  subst hexp hchain hwriter
  cases file with
  | none =>
    refine ⟨?_, nofun, nofun⟩
    rw [exportCompleted_none hmarker]
    exact ⟨nofun, nofun⟩
  | some s =>
    obtain rfl := hfile s rfl
    refine ⟨?_, nofun, ?_⟩
    · rw [exportCompleted_some hmarker]
      exact ⟨nofun, nofun⟩
    · rintro s' hs' ⟨hstage, -⟩
      obtain rfl := Option.some.inj hs'
      cases hstage

theorem next_export (hmarker : env.exportMarker = false) (m : Machine) :
    Inv env (m.next env .uninstallExport) where
  completed := by
    rw [Machine.next, exportCompleted_some hmarker]
    exact ⟨fun _ => rfl, fun _ => ⟨rfl, rfl⟩⟩
  exported := fun _ => rfl
  reviewed := by
    rintro s hs ⟨hstage, -⟩
    obtain rfl := Option.some.inj hs
    cases hstage

theorem next_scan (hmarker : env.exportMarker = false) (h : Inv env m)
    (targets : List ScanTarget) : Inv env (m.next env (.targetScan (some targets))) := by
  obtain ⟨file, scan, exported, chained, writer⟩ := m
  cases file with
  | none => exact ⟨h.completed, h.exported, nofun⟩
  | some s =>
    refine ⟨?_, nofun, ?_⟩
    · rw [Machine.next, Option.map_some, exportCompleted_some hmarker]
      exact ⟨nofun, nofun⟩
    · rintro s' hs' ⟨hstage, -⟩
      obtain rfl := Option.some.inj hs'
      cases hstage

/-- A review that passes has seen the export's own record, so an export has
    completed; a review that blocks leaves no passed status. -/
theorem next_review (hmarker : env.exportMarker = false) (h : Inv env m)
    (target : String) (json : Bool) : Inv env (m.next env (.targetReview target json)) := by
  rcases Uninstall.next_review env m target json with hsame | ⟨s, reason, hs, hreason, hnext⟩
  · rw [hsame]
    exact h
  · rw [hnext]
    cases reason with
    | none =>
      obtain ⟨hlisted, hcompleted⟩ := blockedReason_eq_none.mp hreason
      refine ⟨?_, nofun, ?_⟩
      · rw [exportCompleted_some hmarker]
        exact ⟨nofun, nofun⟩
      · rintro s' hs' -
        obtain rfl := Option.some.inj hs'
        exact ⟨h.exported (h.completed.mp hcompleted), target, hlisted, rfl⟩
    | some reason =>
      refine ⟨?_, nofun, ?_⟩
      · rw [exportCompleted_some hmarker]
        exact ⟨nofun, nofun⟩
      · rintro s' hs' ⟨-, hstatus⟩
        obtain rfl := Option.some.inj hs'
        cases hstatus

theorem next (hmarker : env.exportMarker = false) (h : Inv env m) (c : Command) :
    Inv env (m.next env c) := by
  cases c with
  | uninstallExport => exact next_export hmarker m
  | targetScan result =>
    cases result with
    | none => exact h
    | some targets => exact h.next_scan hmarker targets
  | targetReview target json => exact h.next_review hmarker target json

/-- A strict review passes exactly when its target is listed and nothing has
    written the state file since the last export. -/
theorem passed_iff (h : Inv env m) {target : String} {json : Bool} :
    (m.review env target json).Passed ↔
      target ≠ "" ∧ Listed env m.scanFile target ∧ m.writer = some .byExport := by
  rw [Machine.review, review_passed_iff, h.completed]

/-- After an export and then a scan, every strict review is blocked: the scan has
    overwritten the stage the review looks for. -/
theorem chain_blocks (hmarker : env.exportMarker = false) (m : Machine)
    (targets : List ScanTarget) {target : String} {json : Bool} :
    ¬ (((m.next env .uninstallExport).next env (.targetScan (some targets))).review env
        target json).Passed := by
  have h := (next_export hmarker m).next_scan hmarker targets
  rw [h.passed_iff]
  rintro ⟨-, -, hwriter⟩
  cases hwriter

end Inv

end Steps

/-! ## Soundness of a run -/

/-- What the flow promises of one command given in the state `m`. -/
structure Sound (env : Env) (m : Machine) (c : Command) : Prop where
  /-- A passed review is recorded only for a listed target, after an export. -/
  safe : (m.next env c).ReviewedSafely env
  /-- After an export and a scan every listed target passes. -/
  passable : ∀ target json, c = .targetReview target json → m.chained = true → target ≠ "" →
    Listed env m.scanFile target → (m.review env target json).Passed
  /-- The two modes of a review leave the same state file. -/
  same_record : ∀ target json, c = .targetReview target json →
    ∀ json', (m.review env target json').stateFile = (m.review env target json).stateFile
  /-- In both modes a blocked review is recorded. -/
  blocked_recorded : ∀ target json, c = .targetReview target json →
    ∀ json', (m.review env target json').Blocked →
      ∃ s, (m.review env target json').stateFile = some s ∧ s.status = .blocked

/-- A review is given for a listed target, with nothing having written the state
    file since the last export; nothing is asked of the other commands.  (An
    empty target is a usage error, not a review.) -/
def Good (env : Env) (m : Machine) : Command → Prop
  | .targetReview target _ =>
      target ≠ "" → Listed env m.scanFile target ∧ m.writer = some .byExport
  | _ => True

/-- The state file records no blocked review. -/
def Machine.NotBlocked (m : Machine) : Prop := ∀ s, m.stateFile = some s → s.status ≠ .blocked

section Soundness

variable {env : Env} {m : Machine}

/-- A review that is not blocked ends the same way in both modes. -/
theorem review_mode_irrel {target : String}
    (h : target ≠ "" → blockedReason env m.stateFile (m.scanFile.getD []) target true = none)
    (json json' : Bool) : m.review env target json' = m.review env target json := by
  by_cases ht : target = ""
  · subst ht
    rfl
  · rw [Machine.review, Machine.review, review_of_none ht (h ht), review_of_none ht (h ht)]

/-- Such a review is not blocked. -/
theorem Inv.blockedReason_of_good (h : Inv env m) {target : String} {json : Bool}
    (hgood : Good env m (.targetReview target json)) (ht : target ≠ "") :
    blockedReason env m.stateFile (m.scanFile.getD []) target true = none := by
  obtain ⟨hlisted, hwriter⟩ := hgood ht
  exact blockedReason_eq_none.mpr ⟨hlisted, h.completed.mpr hwriter⟩

theorem Inv.not_blocked_of_good (h : Inv env m) {target : String} {json json' : Bool}
    (hgood : Good env m (.targetReview target json)) :
    ¬ (m.review env target json').Blocked := by
  rintro ⟨res, hres, hblocked⟩
  by_cases ht : target = ""
  · subst ht
    cases hres
  · rw [Machine.review, review_of_none ht (h.blockedReason_of_good hgood ht)] at hres
    obtain rfl := Option.some.inj hres
    cases hblocked

theorem Inv.sound_of_good (hmarker : env.exportMarker = false) (h : Inv env m) {c : Command}
    (hgood : Good env m c) : Sound env m c where
  safe := (h.next hmarker c).reviewed
  passable := by
    rintro target json rfl - ht -
    obtain ⟨hlisted, hwriter⟩ := hgood ht
    exact h.passed_iff.mpr ⟨ht, hlisted, hwriter⟩
  same_record := by
    rintro target json rfl json'
    rw [review_mode_irrel (h.blockedReason_of_good hgood) json json']
  blocked_recorded := by
    rintro target json rfl json' hblocked
    exact absurd hblocked (h.not_blocked_of_good hgood)

/-- A review that blocks without --json leaves the file as it was, so it is
    recorded only where a block already stood. -/
theorem good_of_sound (hblock : m.NotBlocked) (h : Inv env m) {c : Command}
    (hsound : Sound env m c) : Good env m c := by
  cases c with
  | uninstallExport => exact trivial
  | targetScan result => exact trivial
  | targetReview target json =>
    intro ht
    rw [← h.completed, ← blockedReason_eq_none]
    cases hr : blockedReason env m.stateFile (m.scanFile.getD []) target true with
    | none => rfl
    | some reason =>
      have hplain := review_of_some ht hr false
      obtain ⟨s, hs, hstatus⟩ :=
        hsound.blocked_recorded target json rfl false ⟨_, by rw [Machine.review, hplain], rfl⟩
      rw [Machine.review, hplain] at hs
      exact absurd hstatus (hblock s hs)

theorem Inv.notBlocked_next (h : Inv env m) (hblock : m.NotBlocked) {c : Command}
    (hgood : Good env m c) : (m.next env c).NotBlocked := by
  intro s hs
  cases c with
  | uninstallExport =>
    obtain rfl := Option.some.inj hs
    nofun
  | targetScan result =>
    cases result with
    | none => exact hblock s hs
    | some targets =>
      obtain ⟨s₀, -, rfl⟩ := Option.map_eq_some_iff.mp hs
      nofun
  | targetReview target json =>
    by_cases ht : target = ""
    · subst ht
      exact hblock s hs
    · rw [Machine.next, Machine.review,
        review_of_none ht (h.blockedReason_of_good hgood ht)] at hs
      obtain ⟨s₀, -, rfl⟩ := Option.map_eq_some_iff.mp hs
      nofun

theorem Initial.notBlocked (h : Initial m) : m.NotBlocked := by
  intro s hs
  rw [h.stateFile s hs]
  nofun

theorem stepsMeet_cons {good : Machine → Command → Prop} {c : Command} {cs : List Command} :
    StepsMeet (step env) good m (c :: cs) ↔
      good m c ∧ StepsMeet (step env) good (m.next env c) cs := by
  constructor
  · rintro ⟨hc, hcs⟩
    exact ⟨hc, hcs _ rfl⟩
  · rintro ⟨hc, hcs⟩
    refine ⟨hc, fun m' hm' => ?_⟩
    obtain rfl := Option.some.inj hm'
    exact hcs

end Soundness

/-- Over every run of the three commands by a user without the system-wide
    marker, every command keeps the promise exactly if every review is given for
    a listed target with nothing having written the state file since the last
    export. -/
theorem run_sound_iff {env : Env} (hmarker : env.exportMarker = false) {m : Machine}
    (hinit : Initial m) (cs : List Command) :
    StepsMeet (step env) (Sound env) m cs ↔ StepsMeet (step env) (Good env) m cs := by
  -- The invariant of the sound runs: besides `Inv`, no block is ever recorded.
  have hinv : Inv env m ∧ m.NotBlocked := ⟨.of_initial hmarker hinit, hinit.notBlocked⟩
  have hiff : ∀ (m : Machine) (c : Command), Inv env m ∧ m.NotBlocked →
      (Good env m c ↔ Sound env m c) := by
    rintro m c ⟨h, hblock⟩
    exact ⟨h.sound_of_good hmarker, good_of_sound hblock h⟩
  have hstep : ∀ (m : Machine) (c : Command) (m' : Machine), Inv env m ∧ m.NotBlocked →
      Good env m c → step env m c = some m' → Inv env m' ∧ m'.NotBlocked := by
    rintro m c m' ⟨h, hblock⟩ hgood hm'
    obtain rfl := Option.some.inj hm'
    exact ⟨h.next hmarker c, h.notBlocked_next hblock hgood⟩
  exact (stepsMeet_iff hiff hstep hinv).symm

def Machine.fresh : Machine where
  stateFile := none
  scanFile := none
  exported := false
  chained := false
  writer := none

theorem Machine.fresh_initial : Initial .fresh := ⟨nofun, rfl, rfl, rfl⟩

/-- A machine whose root is on a partition of the internal disk. -/
def userEnv : Env := ⟨"/dev/nvme0n1p5", false⟩

/-- The root and a second Linux partition, as a scan finds them. -/
def userScan : List ScanTarget :=
  scanTargets "/dev/nvme0n1p5"
    (some [.mk "nvme0n1" "" "" "465G" [none]
      [.mk "nvme0n1p5" "asahi" "btrfs" "200G" [some "/"] [],
       .mk "nvme0n1p6" "old" "ext4" "40G" [none] []]])

theorem userScan_listed : Listed userEnv (some userScan) "/dev/nvme0n1p6" :=
  ⟨by decide, by decide, ⟨"nvme0n1p6", "/dev/nvme0n1p6", "old", "ext4", "40G", "candidate-linux"⟩,
    by decide, by decide, by decide, by decide⟩

theorem run_sound_user :
    StepsMeet (step userEnv) (Sound userEnv) .fresh
      [.uninstallExport, .targetScan (some userScan), .uninstallExport,
       .targetReview "/dev/nvme0n1p6" false] := by
  refine (run_sound_iff rfl Machine.fresh_initial _).mpr ?_
  refine stepsMeet_cons.mpr ⟨trivial, stepsMeet_cons.mpr ⟨trivial, stepsMeet_cons.mpr ⟨trivial,
    stepsMeet_cons.mpr ⟨fun _ => ⟨?_, rfl⟩, trivial⟩⟩⟩⟩
  exact userScan_listed

/-- The chain the scripts themselves ask for blocks a listed target, and a
    blocked review without --json is recorded nowhere. -/
theorem chain_and_plain_block_unsound :
    (∃ m, run (step userEnv) .fresh [.uninstallExport, .targetScan (some userScan)] = some m ∧
      m.chained = true ∧ Listed userEnv m.scanFile "/dev/nvme0n1p6" ∧
      ¬ (m.review userEnv "/dev/nvme0n1p6" true).Passed) ∧
    ¬ StepsMeet (step userEnv) (Sound userEnv) .fresh
      [.uninstallExport, .targetReview "/" false] := by
  constructor
  · exact ⟨_, rfl, rfl, userScan_listed, Inv.chain_blocks rfl .fresh userScan⟩
  · intro h
    have hsound := (stepsMeet_cons.mp (stepsMeet_cons.mp h).2).1
    obtain ⟨s, hs, hstatus⟩ := hsound.blocked_recorded "/" false rfl false ⟨_, rfl, rfl⟩
    -- The file still says what the export wrote.
    obtain rfl := Option.some.inj hs
    cases hstatus

end Cidre.Uninstall
