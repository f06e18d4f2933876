/-
  Cidre.Link.Convergence

  Two nodes that receive the same layout operations.

  `process_incoming` applies an operation when it arrives, whatever its number,
  and every message travels on a connection of its own.  Operations do not
  commute, so the nodes end apart unless each receives the operations in the
  order of their numbers.  Then they end alike: a repeated operation changes
  nothing (`apply_apply`), and what is left is one list.
-/

import Cidre.Link.Session

namespace Cidre.Link

open Cidre.Run

/-! ## A repeated operation -/

namespace LayoutView

variable {v : LayoutView}

theorem pushColumn_of_mem {c : ColumnId} (h : c ∈ v.columns) : v.pushColumn c = v := by
  rw [pushColumn, if_pos (List.contains_iff_mem.mpr h)]

theorem insert_insert (tiles : SortedMap TileId TileMetadata) (t : TileMetadata) :
    (tiles.insert t.tileId t).insert t.tileId t = tiles.insert t.tileId t := by
  rw [SortedMap.insert_eq_self_iff, SortedMap.get_insert, if_pos rfl]

theorem modify_modify (v : LayoutView) (id : TileId) {f : TileMetadata → TileMetadata}
    (hf : ∀ t, f (f t) = f t) : (v.modify id f).modify id f = v.modify id f := by
  rw [modify, modify]
  congr 1
  refine SortedMap.ext_get fun k => ?_
  rw [SortedMap.get_modify, SortedMap.get_modify, SortedMap.get_modify]
  split
  · rw [if_pos rfl, Option.map_map]
    exact Option.map_congr fun t _ => hf t
  · rfl

theorem contains_modify (v : LayoutView) (id : TileId) (f : TileMetadata → TileMetadata) :
    (v.modify id f).tiles.contains id = v.tiles.contains id := by
  rw [modify, SortedMap.contains, SortedMap.get_modify, if_pos rfl, Option.isSome_map]
  rfl

theorem removeTile_removeTile (v : LayoutView) (id : TileId) :
    (v.apply (.removeTile id)).apply (.removeTile id) = v.apply (.removeTile id) := by
  have hremove : (v.tiles.remove id).remove id = v.tiles.remove id := by
    refine SortedMap.ext_get fun k => ?_
    rw [SortedMap.get_remove, SortedMap.get_remove]
    split <;> rfl
  by_cases hfocus : v.focusedTile = some id
  · have happly : v.apply (.removeTile id) =
        { v with tiles := v.tiles.remove id, focusedTile := none } := by
      rw [apply, unfocus, if_pos hfocus]
    rw [happly, apply, unfocus, if_neg (by simp), hremove]
  · have happly : v.apply (.removeTile id) = { v with tiles := v.tiles.remove id } := by
      rw [apply, unfocus, if_neg hfocus]
    rw [happly, apply, unfocus, if_neg hfocus, hremove]

theorem moveColumn_moveColumn (v : LayoutView) (c : ColumnId) (index : Nat) :
    (v.apply (.moveColumn c index)).apply (.moveColumn c index) = v.apply (.moveColumn c index) := by
  rw [apply, apply]
  have hfilter : ∀ (l : List ColumnId) (i : Nat), (∀ d ∈ l, d ≠ c) →
      (l.insertIdx i c).filter (fun d => d ≠ c) = l := by
    intro l
    induction l with
    | nil => intro i _; cases i <;> simp
    | cons d l ih =>
      intro i hl
      have hd : d ≠ c := hl d List.mem_cons_self
      have hl' : ∀ d ∈ l, d ≠ c := fun d hd => hl d (List.mem_cons_of_mem _ hd)
      cases i with
      | zero =>
        rw [List.insertIdx_zero, List.filter_cons_of_neg (by simp), List.filter_eq_self]
        intro a ha
        simpa using hl a ha
      | succ i =>
        rw [List.insertIdx_succ_cons, List.filter_cons_of_pos (by simpa using hd), ih i hl']
  have hrest : ∀ d ∈ v.columns.filter (fun d => d ≠ c), d ≠ c := by
    intro d hd
    simpa using (List.mem_filter.mp hd).2
  dsimp only
  rw [hfilter _ _ hrest]

/-- Applying an operation twice is applying it once. -/
theorem apply_apply (v : LayoutView) (kind : LayoutOpKind) :
    (v.apply kind).apply kind = v.apply kind := by
  cases kind with
  | insertTile tile index =>
    have hpush : (({ v.pushColumn tile.columnId with
        tiles := v.tiles.insert tile.tileId tile } : LayoutView).pushColumn tile.columnId) =
        { v.pushColumn tile.columnId with tiles := v.tiles.insert tile.tileId tile } :=
      pushColumn_of_mem (mem_columns_pushColumn.mpr (Or.inr rfl))
    rw [apply, apply, hpush, insert_insert]
  | removeTile id => exact removeTile_removeTile v id
  | moveTile id columnId index =>
    by_cases hmem : v.tiles.contains id = true
    · have happly : v.apply (.moveTile id columnId index) =
          (v.pushColumn columnId).modify id fun t => { t with columnId } := by
        rw [apply, if_pos hmem]
      have hmem' : ((v.pushColumn columnId).modify id
          fun t => { t with columnId }).tiles.contains id = true := by
        rw [contains_modify, tiles_pushColumn]
        exact hmem
      have hpush : ((v.pushColumn columnId).modify id fun t => { t with columnId }).pushColumn
          columnId = (v.pushColumn columnId).modify id fun t => { t with columnId } :=
        pushColumn_of_mem (mem_columns_pushColumn.mpr (Or.inr rfl))
      rw [happly, apply, if_pos hmem', hpush]
      exact modify_modify _ id fun _ => rfl
    · have happly : v.apply (.moveTile id columnId index) = v := by
        rw [apply, if_neg hmem]
      rw [happly, happly]
  | moveColumn c index => exact moveColumn_moveColumn v c index
  | changeTileState id change => exact v.modify_modify id fun t => by cases change <;> rfl
  | changeTileMetadata tile =>
    rw [apply, apply, insert_insert]
  | setFullscreen id value => exact v.modify_modify id fun _ => rfl
  | setFloating id value => exact v.modify_modify id fun _ => rfl
  | _ => rfl

end LayoutView

/-! ## Delivery of operations -/

/-- What the nodes have to agree on. -/
structure Replica where
  view : LayoutView
  operationSeq : U64
deriving DecidableEq

namespace Replica

def apply (r : Replica) (op : LayoutOp) : Replica := ⟨r.view.apply op.kind, op.seq⟩

theorem apply_apply (r : Replica) (op : LayoutOp) : (r.apply op).apply op = r.apply op := by
  rw [apply, apply, LayoutView.apply_apply]

end Replica

def GlobalWorkspace.replica (ws : GlobalWorkspace) : Replica := ⟨ws.view, ws.operationSeq⟩

def LinkManager.replica (m : LinkManager) : Option Replica :=
  m.currentSession.map fun s => s.workspace.replica

theorem operationSeq_applyOp (ws : GlobalWorkspace) (op : LayoutOp) :
    (applyOp ws op).operationSeq = op.seq :=
  congrArg (fun c => c.2.1) (counters_applyOp ws op)

theorem replica_applyOp {ws : GlobalWorkspace} (h : ws.Keyed) (op : LayoutOp) :
    (applyOp ws op).replica = ws.replica.apply op := by
  rw [GlobalWorkspace.replica, h.view_applyOp, operationSeq_applyOp]
  rfl

/-- The deliveries carry the operations, in this order. -/
def Carries (ds : List LinkManager.Delivery) (ops : List LayoutOp) : Prop :=
  ds.map (fun d => d.msg.envelope.kind) = ops.map MessageKind.layoutOp

/-- Receiving operations applies them one after the other. -/
theorem replica_run_receive {ds : List LinkManager.Delivery} {ops : List LayoutOp}
    (hcarries : Carries ds ops) {m : LinkManager} {s : LinkedSession}
    (hs : m.currentSession = some s) (hkeyed : s.workspace.Keyed) :
    ∃ m', run LinkManager.receive m ds = some m' ∧
      m'.replica = some (ops.foldl Replica.apply s.workspace.replica) := by
  induction ops generalizing ds m s with
  | nil =>
    rw [Carries, List.map_nil, List.map_eq_nil_iff] at hcarries
    subst hcarries
    exact ⟨m, rfl, by rw [LinkManager.replica, hs]; rfl⟩
  | cons op ops ih =>
    rw [Carries, List.map_cons, List.map_eq_cons_iff] at hcarries
    obtain ⟨d, ds', rfl, hd, hds⟩ := hcarries
    have hstep : m.receive d = some (m.receiveLayoutOp op) := by
      rw [LinkManager.receive, LinkManager.processMessage, hd]
    have hs' : (m.receiveLayoutOp op).currentSession = some (s.apply op) := by
      rw [LinkManager.receiveLayoutOp, hs]
      rfl
    obtain ⟨m', hrun, hreplica⟩ := ih hds hs' (hkeyed.applyOp op)
    refine ⟨m', ?_, ?_⟩
    · rw [run_cons, hstep]
      exact hrun
    · rw [hreplica, List.foldl_cons, ← replica_applyOp hkeyed op]
      rfl

/-- Two nodes that receive the same operations, each in the order of their
numbers and any number of times, end with the same layout and counter. -/
theorem ordered_deliveries_converge {a b : LinkManager} {sa sb : LinkedSession}
    (ha : a.currentSession = some sa) (hb : b.currentSession = some sb)
    (hstart : sa.workspace = sb.workspace) (hkeyed : sa.workspace.Keyed)
    {dsa dsb : List LinkManager.Delivery} {opsa opsb : List LayoutOp}
    (hdsa : Carries dsa opsa) (hdsb : Carries dsb opsb) (hsame : ∀ op, op ∈ opsa ↔ op ∈ opsb)
    (hdistinct : ∀ op ∈ opsa, ∀ op' ∈ opsa, op.seq = op'.seq → op = op')
    (hordera : opsa.Pairwise fun op op' => op.seq ≤ op'.seq)
    (horderb : opsb.Pairwise fun op op' => op.seq ≤ op'.seq) :
    ∃ a' b', (a.processIncoming dsa).map Prod.fst = some a' ∧
      (b.processIncoming dsb).map Prod.fst = some b' ∧
      a'.replica ≠ none ∧ a'.replica = b'.replica := by
  obtain ⟨a', hruna, hreplicaa⟩ := replica_run_receive hdsa ha hkeyed
  obtain ⟨b', hrunb, hreplicab⟩ := replica_run_receive hdsb hb (hstart ▸ hkeyed)
  rw [LinkManager.map_fst_processIncoming, LinkManager.map_fst_processIncoming]
  refine ⟨a', b', hruna, hrunb, ?_, ?_⟩
  · rw [hreplicaa]
    exact Option.some_ne_none _
  · rw [hreplicaa, hreplicab, ← hstart]
    exact congrArg some (foldl_eq_of_sorted Replica.apply_apply hordera horderb hsame hdistinct _)

/-! ## Two operations -/

def nodeEnv : Env := ⟨0, 9, 0⟩

/-- Node 1 with a session. -/
def nodeOne : LinkManager := newManager.enable nodeEnv

/-- Node 2 with the same session. -/
def nodeTwo : LinkManager := { nodeOne with localNodeId := 2 }

def focusOp (seq : U64) (tileId : TileId) : LayoutOp := ⟨seq, 3, 0, .focusTile (some tileId)⟩

def deliver (op : LayoutOp) : LinkManager.Delivery :=
  ⟨nodeEnv, ⟨"peer", ⟨1, 9, 3, 0, 0, .layoutOp op⟩⟩⟩

/-- One node receives the first of two operations twice. -/
theorem ordered_deliveries_converge_repeated :
    ∃ a' b', (nodeOne.processIncoming [deliver (focusOp 1 5), deliver (focusOp 1 5),
        deliver (focusOp 2 6)]).map Prod.fst = some a' ∧
      (nodeTwo.processIncoming [deliver (focusOp 1 5), deliver (focusOp 2 6)]).map Prod.fst =
        some b' ∧
      a'.replica ≠ none ∧ a'.replica = b'.replica := by
  have hone : Carries [deliver (focusOp 1 5), deliver (focusOp 1 5), deliver (focusOp 2 6)]
      [focusOp 1 5, focusOp 1 5, focusOp 2 6] := rfl
  have htwo : Carries [deliver (focusOp 1 5), deliver (focusOp 2 6)]
      [focusOp 1 5, focusOp 2 6] := rfl
  refine ordered_deliveries_converge (a := nodeOne) (b := nodeTwo) rfl rfl rfl keyed_empty hone htwo
    ?_ ?_ ?_ ?_
  · intro op
    simp
  · decide
  · decide
  · decide

/-- In the other order the nodes end with different tiles focused. -/
theorem reordered_deliveries_diverge :
    nodeOne.currentSession.map (·.workspace) = nodeTwo.currentSession.map (·.workspace) ∧
    (nodeOne.processIncoming [deliver (focusOp 1 5), deliver (focusOp 2 6)]).bind
        (fun r => r.1.replica) ≠
      (nodeTwo.processIncoming [deliver (focusOp 2 6), deliver (focusOp 1 5)]).bind
        fun r => r.1.replica := by
  refine ⟨rfl, fun h => ?_⟩
  have hseq := congrArg (Option.map Replica.operationSeq) h
  revert hseq
  decide

end Cidre.Link
