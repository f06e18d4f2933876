/-
  Cidre.Outputs.Placement

  Where the outputs are in the global space (`reposition_outputs` in
  `src/niri.rs`).

  The space stores positions and reports geometries with the logical size of an
  output rounded up; a configured position is checked with the size rounded to
  the nearest integer.
-/

import Mathlib.Data.List.Sort
import Cidre.Workspaces.Monitor

namespace Cidre.Outputs

open Cidre.Workspaces (OutputName)

/-! ## Sorting -/

/-- `sort_unstable_by`: a permutation in order, with equal elements in any order. -/
structure SortUnstableBy where
  sort {α : Type} : (α → α → Ordering) → List α → List α
  perm : ∀ {α : Type} (cmp : α → α → Ordering) (l : List α), (sort cmp l).Perm l
  sorted : ∀ {α : Type} (cmp : α → α → Ordering) [Std.TransCmp cmp] (l : List α),
    (sort cmp l).Pairwise fun a b => (cmp a b).isLE = true

/-- `sort_by_key` with a key that is a flag; the sort is stable. -/
def sortByFlag {α : Type} (key : α → Bool) (l : List α) : List α :=
  l.filter (fun a => !key a) ++ l.filter key

/-- `OutputName::compare` -/
def compareName (a b : OutputName) : Ordering :=
  match a.isUnnamed, b.isUnnamed with
  | true, true => compare a.connector b.connector
  | true, false => .gt
  | false, true => .lt
  | false, false =>
      (compare a.make b.make).then <| (compare a.model b.model).then <|
        (compare a.serial b.serial).then (compare a.connector b.connector)

/-! ## Geometry -/

structure Point where
  x : Int
  y : Int
deriving DecidableEq, Repr

structure Size where
  w : Int
  h : Int
deriving DecidableEq, Repr

structure Rectangle where
  loc : Point
  size : Size
deriving DecidableEq, Repr

namespace Rectangle

/-- Touching rectangles do not overlap. -/
def overlaps (a b : Rectangle) : Bool :=
  decide (a.loc.x < b.loc.x + b.size.w) && decide (b.loc.x < a.loc.x + a.size.w) &&
    decide (a.loc.y < b.loc.y + b.size.h) && decide (b.loc.y < a.loc.y + a.size.h)

def Contains (a : Rectangle) (p : Point) : Prop :=
  a.loc.x ≤ p.x ∧ p.x < a.loc.x + a.size.w ∧ a.loc.y ≤ p.y ∧ p.y < a.loc.y + a.size.h

/-- No point is in both. -/
def Disjoint (a b : Rectangle) : Prop := ∀ p, a.Contains p → ¬ b.Contains p

end Rectangle

/-- The size of an output in logical pixels, which are fractional. -/
structure LogicalSize where
  w : Rat
  h : Rat
  w_pos : 0 < w
  h_pos : 0 < h
deriving DecidableEq

namespace LogicalSize

/-- `to_i32_round`; the sizes are positive. -/
def toI32Round (size : LogicalSize) : Size := ⟨(size.w + 1 / 2).floor, (size.h + 1 / 2).floor⟩

def toI32Ceil (size : LogicalSize) : Size := ⟨size.w.ceil, size.h.ceil⟩

end LogicalSize

/-! ## The space -/

structure Output where
  handle : Nat
  name : OutputName
  size : LogicalSize
deriving DecidableEq

/-- The part of an output's configuration that places it. -/
structure OutputConfig where
  name : String
  position : Option Point

/-- `Outputs::find` -/
def find (config : List OutputConfig) (name : OutputName) : Option OutputConfig :=
  config.find? fun c => name.matchesTarget c.name

/-- `smithay::desktop::Space`, as far as outputs go: each is mapped at most once, and they
stay in the order they were mapped in. -/
structure SpaceApi where
  State : Type
  mapped : State → List (Output × Point)
  nodup : ∀ state, ((mapped state).map Prod.fst).Nodup
  empty : State
  mapped_empty : mapped empty = []
  unmapOutput : State → Output → State
  mapped_unmapOutput : ∀ state output,
    mapped (unmapOutput state output) = (mapped state).filter fun e => e.1 ≠ output
  mapOutput : State → Output → Point → State
  mapped_mapOutput : ∀ state output loc, output ∉ (mapped state).map Prod.fst →
    mapped (mapOutput state output loc) = mapped state ++ [(output, loc)]

structure Space (api : SpaceApi) where
  state : api.State

namespace Space

variable {api : SpaceApi}

def empty : Space api := ⟨api.empty⟩

def mapped (space : Space api) : List (Output × Point) := api.mapped space.state

def outputs (space : Space api) : List Output := space.mapped.map Prod.fst

def location (space : Space api) (output : Output) : Option Point :=
  (space.mapped.find? fun e => e.1 = output).map Prod.snd

def outputGeometry (space : Space api) (output : Output) : Option Rectangle :=
  (space.location output).map fun loc => ⟨loc, output.size.toI32Ceil⟩

/-- The geometries of all outputs. -/
def geometries (space : Space api) : List Rectangle :=
  space.outputs.filterMap space.outputGeometry

def unmapOutput (space : Space api) (output : Output) : Space api :=
  ⟨api.unmapOutput space.state output⟩

def mapOutput (space : Space api) (output : Output) (loc : Point) : Space api :=
  ⟨api.mapOutput space.state output loc⟩

end Space

/-! ## Placing the outputs -/

/-- What `reposition_outputs` collects of an output. -/
structure Data where
  output : Output
  position : Option Point
  config : Option Point

/-- The outputs of the compositor, and where each one believes to be. -/
structure Niri (api : SpaceApi) where
  globalSpace : Space api
  sortedOutputs : List Output
  currentLocation : Output → Point

namespace Niri

variable {api : SpaceApi}

def init : Niri api where
  globalSpace := Space.empty
  sortedOutputs := []
  currentLocation := fun _ => ⟨0, 0⟩

def collect (config : List OutputConfig) (space : Space api) (newOutput : Option Output) : List Data :=
  (space.outputs ++ newOutput.toList).map fun output =>
    { output := output
      position := (space.outputGeometry output).map Rectangle.loc
      config := (find config output.name).bind OutputConfig.position }

/-- The outputs in the order they are placed in. -/
def placementOrder (s : SortUnstableBy) (config : List OutputConfig) (space : Space api)
    (newOutput : Option Output) : List Data :=
  sortByFlag (fun d => d.config.isNone)
    (s.sort (fun a b => compareName a.output.name b.output.name) (collect config space newOutput))

/-- The right edge of the outputs placed so far, or 0. -/
def rightEdge (geometries : List Rectangle) : Int :=
  ((geometries.map fun g => g.loc.x + g.size.w).max?).getD 0

/-- A configured position is taken unless an output of this size would overlap
    another one there. -/
def newPosition (geometries : List Rectangle) (size : Size) (config : Option Point) : Point :=
  (config.filter fun pos => !geometries.any fun g => g.overlaps ⟨pos, size⟩).getD
    ⟨rightEdge geometries, 0⟩

def place (niri : Niri api) (d : Data) : Niri api :=
  let pos := newPosition niri.globalSpace.geometries d.output.size.toI32Round d.config
  { niri with
    globalSpace := niri.globalSpace.mapOutput d.output pos
    currentLocation :=
      if some pos ≠ d.position then
        fun output => if output = d.output then pos else niri.currentLocation output
      else niri.currentLocation }

def repositionOutputs (s : SortUnstableBy) (config : List OutputConfig) (niri : Niri api)
    (newOutput : Option Output) : Niri api :=
  let order := placementOrder s config niri.globalSpace newOutput
  let space := (collect config niri.globalSpace newOutput).foldl
    (fun space d => space.unmapOutput d.output) niri.globalSpace
  order.foldl place
    { niri with globalSpace := space, sortedOutputs := order.map Data.output }

/-- The part of `add_output` that is about the space. -/
def addOutput (s : SortUnstableBy) (config : List OutputConfig) (niri : Niri api)
    (output : Output) : Niri api :=
  niri.repositionOutputs s config (some output)

/-- The part of `remove_output` that is about the space. -/
def removeOutput (s : SortUnstableBy) (config : List OutputConfig) (niri : Niri api)
    (output : Output) : Niri api :=
  { niri with globalSpace := niri.globalSpace.unmapOutput output }.repositionOutputs s config none

end Niri

end Cidre.Outputs
