/-
  Cidre.Link.Session

  The link manager (`src/link/session.rs`): the messages it receives and the
  calls the compositor makes on it, as steps of one state machine.

  What a step reads from outside comes with it: the clock and the random ids
  (`Env`), and what `load_sessions` finds on disk.  `persist_session` writes a
  file and leaves the manager as it is.  A message handed to a sender thread by
  `TransportState::drain` goes to `sent`; when and whether it arrives is left
  open, so a run may receive any messages in any order.

  The crate is built with overflow checks: a `Heartbeat` that finds the
  operation counter at its maximum panics, and the step answers `none`.
-/

import Mathlib.Data.String.Basic
import Cidre.Lib.Run
import Cidre.Link.LayoutSync

namespace Cidre.Link

open Cidre.Run

/-! ## The state -/

structure LinkPeerState where
  nodeId : NodeId
  hostname : String
  addr : Option String
  fingerprint : String
  connected : Bool
deriving DecidableEq, Repr

/-- The tile of another node; its size follows from the metadata. -/
structure RemoteTile where
  metadata : TileMetadata
deriving DecidableEq

structure LinkedSession where
  workspace : GlobalWorkspace
  log : OperationLog
deriving DecidableEq

/-- An operation is applied and logged. -/
def LinkedSession.apply (s : LinkedSession) (op : LayoutOp) : LinkedSession where
  workspace := applyOp s.workspace op
  log := s.log.push op

structure TrustedNode where
  node : String
  fingerprint : String
deriving DecidableEq, Repr

structure TrustStore where
  nodes : List TrustedNode
deriving DecidableEq, Repr

namespace TrustStore

def trust (store : TrustStore) (node fingerprint : String) : TrustStore :=
  if store.nodes.any fun it => it.node = node then
    ⟨updateFirst (fun it => it.node = node) (fun it => { it with fingerprint }) store.nodes⟩
  else ⟨store.nodes ++ [⟨node, fingerprint⟩]⟩

def forget (store : TrustStore) (node : String) : TrustStore :=
  ⟨store.nodes.filter fun it => it.node ≠ node && it.fingerprint ≠ node⟩

def isTrusted (store : TrustStore) (node fingerprint : String) : Bool :=
  store.nodes.any fun it =>
    (it.node = node || it.fingerprint = node) && it.fingerprint = fingerprint

end TrustStore

structure PendingMessage where
  addr : String
  envelope : Envelope
deriving DecidableEq

structure IncomingMessage where
  peerAddr : String
  envelope : Envelope
deriving DecidableEq

structure LinkManager where
  localNodeId : NodeId
  hostname : String
  fingerprint : String
  enabled : Bool
  pairingMode : Bool
  currentSession : Option LinkedSession
  peers : SortedMap NodeId LinkPeerState
  remoteTiles : SortedMap TileId RemoteTile
  /-- `transport.outgoing`. -/
  outgoing : List PendingMessage
  /-- What has been handed to sender threads. -/
  sent : List PendingMessage
  trustStore : TrustStore
  nextNonce : U64
deriving DecidableEq

/-- `LinkManager::new`: nothing is linked yet. -/
def LinkManager.new (enabled pairingMode : Bool) (localNodeId : NodeId)
    (hostname fingerprint : String) (trustStore : TrustStore) : LinkManager where
  localNodeId
  hostname
  fingerprint
  enabled
  pairingMode
  currentSession := none
  peers := .empty
  remoteTiles := .empty
  outgoing := []
  sent := []
  trustStore
  nextNonce := 0

/-- The manager of one node, before anything happened. -/
def newManager : LinkManager := .new true false 1 "host" "fp" ⟨[]⟩

/-- The persisted form of a session, as far as it is restored from. -/
structure PersistedSession where
  sessionId : SessionId
  participants : List NodeId
  globalLayout : GlobalWorkspace
deriving DecidableEq

/-- What a step reads from outside: `now_millis` and `Uuid::new_v4`, for a
session and for a node. -/
structure Env where
  now : U64
  newSession : SessionId
  newNode : NodeId
deriving DecidableEq, Repr

/-! ## Sending -/

namespace LinkManager

variable (env : Env) (m : LinkManager)

def enqueue (addr : String) (envelope : Envelope) : LinkManager :=
  { m with outgoing := m.outgoing ++ [⟨addr, envelope⟩] }

def drain : LinkManager :=
  { m with outgoing := [], sent := m.sent ++ m.outgoing }

def protocolVersion : Nat := 1

/-- `make_envelope`; the nonce wraps around. -/
def makeEnvelope (kind : MessageKind) : Envelope where
  protocolVersion
  sessionId := (m.currentSession.map (·.workspace.sessionId)).getD env.newSession
  senderNodeId := m.localNodeId
  nonce := m.nextNonce
  timestampMillis := env.now
  kind

/-- An envelope is made and queued. -/
def post (addr : String) (kind : MessageKind) : LinkManager :=
  { m.enqueue addr (makeEnvelope env m kind) with nextNonce := m.nextNonce + 1 }

def sendHello (addr : String) : LinkManager :=
  let m := post env m addr (.hello m.hostname m.fingerprint)
  (post env m addr (.joinRequest m.hostname none)).drain

def connectedAddrs : List String :=
  (m.peers.values.filter (·.connected)).filterMap (·.addr)

def broadcast (kind : MessageKind) : LinkManager :=
  (m.connectedAddrs.foldl (fun m addr => post env m addr kind) m).drain

def broadcastTileUpdate (tile : TileMetadata) : LinkManager :=
  m.broadcast env (.tileMetadataUpdate tile)

def sendHeartbeat : LinkManager :=
  if m.enabled then
    let counters :=
      (m.currentSession.map fun s => (s.workspace.operationSeq, s.workspace.generation)).getD (0, 0)
    m.broadcast env (.heartbeat counters.1 counters.2)
  else m

/-! ## Calls of the compositor -/

/-- `if let Some(session) = self.current_session.as_mut()`, on the workspace. -/
def modifyWorkspace (f : GlobalWorkspace → GlobalWorkspace) : LinkManager :=
  { m with
    currentSession := m.currentSession.map fun s => { s with workspace := f s.workspace } }

theorem modifyWorkspace_session {m : LinkManager} {s : LinkedSession}
    (h : m.currentSession = some s) (f : GlobalWorkspace → GlobalWorkspace) :
    (m.modifyWorkspace f).currentSession = some ⟨f s.workspace, s.log⟩ := by
  rw [modifyWorkspace, h]
  rfl

def enable : LinkManager :=
  let session := m.currentSession.getD
    ⟨.empty env.newSession m.localNodeId m.hostname m.fingerprint, .default⟩
  { m with enabled := true, currentSession := some session }

def disable : LinkManager := { m with enabled := false, remoteTiles := .empty }

def toggle : LinkManager :=
  if m.enabled then m.disable else m.enable env

def joinAddr (addr : String) : LinkManager :=
  let m := m.enable env
  let peer : LinkPeerState :=
    { nodeId := env.newNode, hostname := addr, addr := some addr, fingerprint := "",
      connected := false }
  { m with peers := m.peers.insert peer.nodeId peer }

def leave : LinkManager := { m.disable with currentSession := none }

def pair : Option String → LinkManager
  | some node => { m with trustStore := m.trustStore.trust node node }
  | none => { m with pairingMode := true }

def unpair (node : String) : LinkManager :=
  { m with trustStore := m.trustStore.forget node }

def trustNode (node : String) : LinkManager :=
  { m with trustStore := m.trustStore.trust node node }

def setLeader (node : NodeId) : LinkManager :=
  m.modifyWorkspace fun ws =>
    { ws with leaderNodeId := node, generation := nextGeneration ws.generation }

/-- The session becomes the current one, with an empty log. -/
def restore (found : PersistedSession) : LinkManager :=
  { m with currentSession := some ⟨found.globalLayout, .default⟩, enabled := true }

/-- `restore_session`; `sessions` is what `load_sessions` finds, `none` an error. -/
def restoreSession (sessions : Option (List PersistedSession)) (sessionId : SessionId) :
    LinkManager :=
  match (sessions.getD []).find? fun it => it.sessionId = sessionId with
  | some found => m.restore found
  | none => m

def peerMatchScore (expected actual : List NodeId) : Nat := (actual.filter expected.contains).length

/-- `max_by_key`: the last of the best. -/
def restoreCandidate (sessions : List PersistedSession) (participants : List NodeId) :
    Option PersistedSession :=
  sessions.foldl
    (fun best s =>
      match best with
      | none => some s
      | some b =>
          if peerMatchScore b.participants participants ≤ peerMatchScore s.participants participants
          then some s else some b)
    none

def restoreBestSession (sessions : Option (List PersistedSession)) : LinkManager :=
  match restoreCandidate (sessions.getD []) (m.peers.keys ++ [m.localNodeId]) with
  | some found => m.restore found
  | none => m

/-- The operation `apply_layout_op` issues in a session. -/
def nextOp (s : LinkedSession) (kind : LayoutOpKind) : LayoutOp where
  seq := s.log.lastSeq.saturatingSucc
  issuer := m.localNodeId
  generation := s.workspace.generation
  kind

def applyLayoutOp (kind : LayoutOpKind) : LinkManager :=
  { m with currentSession := m.currentSession.map fun s => s.apply (m.nextOp s kind) }

def upsertLocalViewport (viewport : Viewport) : LinkManager :=
  (m.enable env).applyLayoutOp (.setViewport viewport)

def upsertLocalTile (tile : TileMetadata) (index : Nat) : LinkManager :=
  (m.enable env).applyLayoutOp (.insertTile tile index)

def closeTile (tileId : TileId) : LinkManager :=
  let m := m.applyLayoutOp (.removeTile tileId)
  { m with remoteTiles := m.remoteTiles.remove tileId }

/-- `choose_leader`: the smallest node id. -/
def chooseLeader (participants : List Participant) : Option NodeId :=
  (participants.map (·.nodeId)).min?

def refreshLeader : LinkManager :=
  m.modifyWorkspace fun ws =>
    { ws with leaderNodeId := (chooseLeader ws.participants.values).getD m.localNodeId }

/-- The tile of another node is filed in the workspace and its column listed. -/
def fileRemoteTile (ws : GlobalWorkspace) (tile : TileMetadata) : GlobalWorkspace :=
  let ws := pushColumn ws tile.columnId
  { ws with tiles := ws.tiles.insert tile.tileId tile }

/-- `add_remote_tile` and `update_remote_tile`: what a registered tile knows is
its metadata, so replacing it and updating it are the same. -/
def updateRemoteTile (tile : TileMetadata) : LinkManager :=
  let m := m.enable env
  let m := { m with remoteTiles := m.remoteTiles.insert tile.tileId ⟨tile⟩ }
  m.modifyWorkspace fun ws => fileRemoteTile ws tile

def touchParticipant (nodeId : NodeId) : LinkManager :=
  m.modifyWorkspace fun ws =>
    { ws with
      participants := ws.participants.modify nodeId fun p => { p with lastSeenMillis := env.now } }

/-- `now.saturating_sub(then) > timeout_ms`. -/
def timedOut (lastSeen : U64) (timeoutMillis : Nat) : Bool :=
  timeoutMillis < env.now.val - lastSeen.val

def staleNodeIds (timeoutMillis : Nat) : List NodeId :=
  match m.currentSession with
  | none => []
  | some s =>
      (s.workspace.participants.values.filter fun p =>
        p.nodeId ≠ m.localNodeId && 0 < p.lastSeenMillis.val &&
          timedOut env p.lastSeenMillis timeoutMillis).map (·.nodeId)

def checkPeerTimeouts (timeoutMillis : Nat) : LinkManager :=
  if m.enabled then
    { m with
      peers := (staleNodeIds env m timeoutMillis).foldl
        (fun peers id => peers.modify id fun p => { p with connected := false }) m.peers }
  else m

/-! ## Mirroring the local layout -/

def ensureLocalParticipant : LinkManager :=
  (m.enable env).modifyWorkspace fun ws =>
    { ws with
      participants := ws.participants.insert m.localNodeId
        ⟨m.localNodeId, m.hostname, m.fingerprint, env.now⟩ }

/-- The workspace that an enabling call finds or opens. -/
def sharedWorkspace : GlobalWorkspace :=
  (m.currentSession.map (·.workspace)).getD
    (.empty env.newSession m.localNodeId m.hostname m.fingerprint)

theorem enable_session (env : Env) (m : LinkManager) :
    ∃ log, (m.enable env).currentSession = some ⟨m.sharedWorkspace env, log⟩ := by
  rw [enable, sharedWorkspace]
  cases m.currentSession with
  | none => exact ⟨_, rfl⟩
  | some s => exact ⟨s.log, rfl⟩

/-- The local participant is in the session, which otherwise is as it was. -/
theorem ensureLocalParticipant_session (env : Env) (m : LinkManager) :
    ∃ participants log, (m.ensureLocalParticipant env).currentSession =
      some ⟨{ m.sharedWorkspace env with participants }, log⟩ := by
  obtain ⟨log, hlog⟩ := m.enable_session env
  exact ⟨_, log, modifyWorkspace_session hlog _⟩

/-- The order of `f64::total_cmp`: negative numbers sort by their inverted bits. -/
def totalKey (x : F64) : Int :=
  if x.bits.val < 2 ^ 63 then x.bits.val else -(x.bits.val - 2 ^ 63 : Int) - 1

def viewportEq (v w : Viewport) : Bool :=
  v.nodeId = w.nodeId && v.outputName = w.outputName && floatEq v.globalX w.globalX &&
    floatEq v.globalY w.globalY && floatEq v.logicalWidth w.logicalWidth &&
    floatEq v.logicalHeight w.logicalHeight && floatEq v.scale w.scale &&
    v.transform = w.transform && v.refreshRateMillihz = w.refreshRateMillihz

def viewportsEq : List Viewport → List Viewport → Bool
  | [], [] => true
  | v :: vs, w :: ws => viewportEq v w && viewportsEq vs ws
  | _, _ => false

def viewportKey (v : Viewport) : Int ×ₗ Int ×ₗ String :=
  toLex (totalKey v.globalX, toLex (totalKey v.globalY, v.outputName))

def syncLocalViewports (viewports : List Viewport) : LinkManager :=
  if m.enabled then
    let viewports := viewports.mergeSort fun a b => decide (viewportKey a ≤ viewportKey b)
    let same : Option (List Viewport) → Bool := fun old => old.any fun vs => viewportsEq vs viewports
    (m.ensureLocalParticipant env).modifyWorkspace fun ws =>
      if same (ws.perNodeViewports.get m.localNodeId) && same (ws.perNodeOutputs.get m.localNodeId)
      then ws
      else
        { ws with
          perNodeViewports := ws.perNodeViewports.insert m.localNodeId viewports
          perNodeOutputs := ws.perNodeOutputs.insert m.localNodeId viewports }
  else m

/-- Local tiles of the workspace that the layout no longer has. -/
def goneTileIds (ws : GlobalWorkspace) (tiles : List TileMetadata) : List TileId :=
  ((ws.tiles.values.filter fun t => t.ownerNodeId = m.localNodeId).map (·.tileId)).filter
    fun id => !(tiles.map (·.tileId)).contains id

def dropTile (ws : GlobalWorkspace) (tileId : TileId) : GlobalWorkspace :=
  unfocus { ws with tiles := ws.tiles.remove tileId } tileId

/-- The columns in the order of their first element. -/
def pushNew (columns : List ColumnId) (c : ColumnId) : List ColumnId :=
  if columns.contains c then columns else columns ++ [c]

/-- The loop over `tiles`: what changes is filed, and `changed` remembers it. -/
def fileLocalTiles (ws : GlobalWorkspace) (tiles : List TileMetadata) (changed : Bool) :
    GlobalWorkspace × Bool :=
  tiles.foldl
    (fun acc t =>
      if acc.1.tiles.get t.tileId = some t then acc
      else ({ acc.1 with tiles := acc.1.tiles.insert t.tileId t }, true))
    (ws, changed)

def rebuildColumns (ws : GlobalWorkspace) (localColumns : List ColumnId) : GlobalWorkspace :=
  let usedRemoteColumns :=
    (ws.tiles.values.filter fun t => t.ownerNodeId ≠ m.localNodeId).map (·.columnId)
  let kept := ws.columns.filter usedRemoteColumns.contains
  { ws with columns := localColumns.foldl pushNew kept }

def syncWorkspaceTiles (ws : GlobalWorkspace) (tiles : List TileMetadata) : GlobalWorkspace :=
  let gone := goneTileIds m ws tiles
  let filed := fileLocalTiles (gone.foldl dropTile ws) tiles (!gone.isEmpty)
  if filed.2 then rebuildColumns m filed.1 ((tiles.map (·.columnId)).foldl pushNew []) else filed.1

def syncLocalTiles (tiles : List TileMetadata) : LinkManager :=
  if m.enabled then
    let m := m.ensureLocalParticipant env
    match m.currentSession with
    | none => m
    | some s =>
        { m with
          remoteTiles := (goneTileIds m s.workspace tiles).foldl SortedMap.remove m.remoteTiles
          currentSession := some { s with workspace := syncWorkspaceTiles m s.workspace tiles } }
  else m

def syncFocusedTile (focusedTile : Option TileId) : LinkManager :=
  if m.enabled then
    (m.ensureLocalParticipant env).modifyWorkspace fun ws => { ws with focusedTile }
  else m

/-! ## process_incoming -/

/-- `Hello`: the peer is recorded as it presents itself. -/
def receiveHello (sender : String) (nodeId : NodeId) (hostname fingerprint : String) :
    LinkManager :=
  { m with
    peers := m.peers.insert nodeId
      { nodeId, hostname, addr := some sender, fingerprint, connected := true } }

def connect (nodeId : NodeId) : LinkManager :=
  { m with peers := m.peers.modify nodeId fun p => { p with connected := true } }

/-- `JoinRequest`: answered with `JoinAccept`, whoever asks. -/
def receiveJoinRequest (sender : String) (nodeId : NodeId) : LinkManager :=
  let m := m.connect nodeId
  let accept := (m.currentSession.map fun s =>
    (s.workspace.leaderNodeId, s.workspace.generation, s.workspace.operationSeq)).getD
      (m.localNodeId, 0, 0)
  (post env m sender (.joinAccept accept.1 accept.2.1 accept.2.2)).drain

def receiveJoinAccept (leaderNodeId : NodeId) (generation : U64) : LinkManager :=
  m.modifyWorkspace fun ws => { ws with leaderNodeId, generation }

def receiveViewport (viewport : Viewport) : LinkManager :=
  m.modifyWorkspace fun ws =>
    { ws with
      perNodeViewports := ws.perNodeViewports.insert viewport.nodeId
        ((ws.perNodeViewports.get viewport.nodeId).getD [] ++ [viewport]) }

def receiveLayoutOp (op : LayoutOp) : LinkManager :=
  { m with currentSession := m.currentSession.map fun s => s.apply op }

/-- The tiles of other nodes that are not registered yet. -/
def mergeRemoteTiles (ws : GlobalWorkspace) : SortedMap TileId RemoteTile :=
  ws.tiles.entries.foldl
    (fun remote e =>
      if e.2.ownerNodeId ≠ m.localNodeId && !remote.contains e.1 then remote.insert e.1 ⟨e.2⟩
      else remote)
    m.remoteTiles

def receiveSnapshot (ws : GlobalWorkspace) : LinkManager :=
  match m.currentSession with
  | none => m
  | some s =>
      { m with
        remoteTiles := mergeRemoteTiles m ws
        currentSession := some { s with workspace := ws } }

/-- `Heartbeat`: the comparison of the counters only logs, and overflows when
the own counter is at its maximum. -/
def receiveHeartbeat (nodeId : NodeId) : Option LinkManager :=
  let m := (m.connect nodeId).touchParticipant env nodeId
  match m.currentSession with
  | none => some m
  | some s => if s.workspace.operationSeq.val + 1 < 2 ^ 64 then some m else none

/-- One turn of the loop of `process_incoming`. -/
def processMessage (msg : IncomingMessage) : Option LinkManager :=
  let nodeId := msg.envelope.senderNodeId
  match msg.envelope.kind with
  | .hello hostname fingerprint => some (m.receiveHello msg.peerAddr nodeId hostname fingerprint)
  | .joinRequest _ _ => some (m.receiveJoinRequest env msg.peerAddr nodeId)
  | .joinAccept leader generation _ => some (m.receiveJoinAccept leader generation)
  | .tileMetadataUpdate tile => some (m.updateRemoteTile env tile)
  | .tileClosed tileId => some (m.closeTile tileId)
  | .viewportUpdate viewport => some (m.receiveViewport viewport)
  | .focusUpdate focusedTile => some (m.modifyWorkspace fun ws => { ws with focusedTile })
  | .layoutOp op => some (m.receiveLayoutOp op)
  | .globalSnapshot ws => some (m.receiveSnapshot ws)
  | .heartbeat _ _ => m.receiveHeartbeat env nodeId
  | .disableLink _ => some m.disable
  | .unhandled _ => some m

/-- A message and what the turn that handles it reads from outside. -/
structure Delivery where
  env : Env
  msg : IncomingMessage
deriving DecidableEq

def receive (d : Delivery) : Option LinkManager := m.processMessage d.env d.msg

/-- Whether the message counts as layout-relevant. -/
def changesLayout : MessageKind → Bool
  | .hello _ _ | .joinRequest _ _ | .heartbeat _ _ | .unhandled _ => false
  | .layoutOp _ | .globalSnapshot _ => m.currentSession.isSome
  | _ => true

/-- `process_incoming` on the drained messages. -/
def processIncoming (ds : List Delivery) : Option (LinkManager × Bool) :=
  ds.foldlM
    (fun acc d =>
      (acc.1.receive d).map (·, acc.2 || acc.1.changesLayout d.msg.envelope.kind)) (m, false)

/-- As far as the manager goes, `process_incoming` is a run of single messages. -/
theorem map_fst_processIncoming (m : LinkManager) (ds : List Delivery) :
    (m.processIncoming ds).map Prod.fst = run receive m ds := by
  rw [processIncoming]
  generalize false = changed
  induction ds generalizing m changed with
  | nil => rfl
  | cons d ds ih =>
    rw [List.foldlM_cons, run_cons]
    cases hd : m.receive d with
    | none => simp
    | some m' =>
      simp only [Option.map_some, Option.bind_eq_bind, Option.bind_some]
      exact ih m' _

end LinkManager

/-! ## Runs of the manager -/

/-- The calls that change the manager; `purge_stale_remote_tiles` only calls `close_tile`. -/
inductive Call where
  | enable
  | disable
  | toggle
  | joinAddr (addr : String)
  | leave
  | pair (node : Option String)
  | unpair (node : String)
  | trustNode (node : String)
  | setLeader (node : NodeId)
  | restoreSession (sessions : Option (List PersistedSession)) (sessionId : SessionId)
  | restoreBestSession (sessions : Option (List PersistedSession))
  | applyLayoutOp (kind : LayoutOpKind)
  | upsertLocalViewport (viewport : Viewport)
  | upsertLocalTile (tile : TileMetadata) (index : Nat)
  | closeTile (tileId : TileId)
  | refreshLeader
  | updateRemoteTile (tile : TileMetadata)
  | touchParticipant (nodeId : NodeId)
  | sendHello (addr : String)
  | broadcastTileUpdate (tile : TileMetadata)
  | sendHeartbeat
  | checkPeerTimeouts (timeoutMillis : Nat)
  | ensureLocalParticipant
  | syncLocalViewports (viewports : List Viewport)
  | syncLocalTiles (tiles : List TileMetadata)
  | syncFocusedTile (focusedTile : Option TileId)
deriving DecidableEq

def LinkManager.call (env : Env) (m : LinkManager) : Call → LinkManager
  | .enable => m.enable env
  | .disable => m.disable
  | .toggle => m.toggle env
  | .joinAddr addr => m.joinAddr env addr
  | .leave => m.leave
  | .pair node => m.pair node
  | .unpair node => m.unpair node
  | .trustNode node => m.trustNode node
  | .setLeader node => m.setLeader node
  | .restoreSession sessions sessionId => m.restoreSession sessions sessionId
  | .restoreBestSession sessions => m.restoreBestSession sessions
  | .applyLayoutOp kind => m.applyLayoutOp kind
  | .upsertLocalViewport viewport => m.upsertLocalViewport env viewport
  | .upsertLocalTile tile index => m.upsertLocalTile env tile index
  | .closeTile tileId => m.closeTile tileId
  | .refreshLeader => m.refreshLeader
  | .updateRemoteTile tile => m.updateRemoteTile env tile
  | .touchParticipant nodeId => m.touchParticipant env nodeId
  | .sendHello addr => m.sendHello env addr
  | .broadcastTileUpdate tile => m.broadcastTileUpdate env tile
  | .sendHeartbeat => m.sendHeartbeat env
  | .checkPeerTimeouts timeoutMillis => m.checkPeerTimeouts env timeoutMillis
  | .ensureLocalParticipant => m.ensureLocalParticipant env
  | .syncLocalViewports viewports => m.syncLocalViewports env viewports
  | .syncLocalTiles tiles => m.syncLocalTiles env tiles
  | .syncFocusedTile focusedTile => m.syncFocusedTile env focusedTile

inductive Event where
  | received (d : LinkManager.Delivery)
  | called (env : Env) (c : Call)
deriving DecidableEq

def LinkManager.step (m : LinkManager) : Event → Option LinkManager
  | .received d => m.receive d
  | .called env c => some (m.call env c)

/-- Only a heartbeat can fail. -/
theorem LinkManager.heartbeat_of_step_none {m : LinkManager} {e : Event} (h : m.step e = none) :
    ∃ d operationSeq generation, e = .received d ∧
      d.msg.envelope.kind = .heartbeat operationSeq generation := by
  cases e with
  | received d =>
    rw [step, receive, processMessage] at h
    cases hkind : d.msg.envelope.kind with
    | heartbeat operationSeq generation => exact ⟨d, operationSeq, generation, rfl, hkind⟩
    | _ =>
      rw [hkind] at h
      cases h
  | called env c => cases h

end Cidre.Link
