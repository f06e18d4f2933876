/-
  Cidre.Link.Protocol

  The data of niri-link (`src/link/protocol.rs`): the global workspace two
  linked compositors share, the layout operations on it and the messages they
  exchange.

  Ids are 128-bit numbers, compared as such.
-/

import Cidre.Lib.Machine
import Cidre.Lib.SortedMap

namespace Cidre.Link

abbrev Uuid := Fin (2 ^ 128)

instance neZeroUuid : NeZero (2 ^ 128) := inferInstance

abbrev NodeId := Uuid

abbrev SessionId := Uuid

abbrev TileId := Uuid

abbrev ColumnId := Uuid

/-! ## The global workspace -/

structure Participant where
  nodeId : NodeId
  hostname : String
  fingerprint : String
  lastSeenMillis : U64
deriving DecidableEq, Repr

structure Viewport where
  nodeId : NodeId
  outputName : String
  globalX : F64
  globalY : F64
  logicalWidth : F64
  logicalHeight : F64
  scale : F64
  transform : Int
  refreshRateMillihz : Option Nat
deriving DecidableEq, Repr

inductive StreamState where
  | pending
  | streaming
  | idle
  | stale
  | disconnected
  | privacyBlocked
deriving DecidableEq, Repr

structure PrivacyFlags where
  isPrivate : Bool
  clipboard : Bool
deriving DecidableEq, Repr

structure TileMetadata where
  tileId : TileId
  ownerNodeId : NodeId
  appId : Option String
  title : Option String
  pid : Option Int
  initialSize : Int × Int
  currentLogicalSize : Int × Int
  columnId : ColumnId
  columnTileIndex : Nat
  stackGroup : Option String
  fullscreen : Bool
  maximized : Bool
  floating : Bool
  lastKnownAliveMillis : U64
  streamState : StreamState
  privacyFlags : PrivacyFlags
deriving DecidableEq, Repr

structure GlobalWorkspace where
  sessionId : SessionId
  generation : U64
  operationSeq : U64
  columns : List ColumnId
  tiles : SortedMap TileId TileMetadata
  focusedTile : Option TileId
  perNodeViewports : SortedMap NodeId (List Viewport)
  perNodeOutputs : SortedMap NodeId (List Viewport)
  participants : SortedMap NodeId Participant
  leaderNodeId : NodeId
deriving DecidableEq

/-- `GlobalWorkspace::empty`; the session id is a new random one. -/
def GlobalWorkspace.empty (sessionId : SessionId) (localNodeId : NodeId)
    (hostname fingerprint : String) : GlobalWorkspace where
  sessionId
  generation := 0
  operationSeq := 0
  columns := []
  tiles := .empty
  focusedTile := none
  perNodeViewports := .empty
  perNodeOutputs := .empty
  participants := SortedMap.empty.insert localNodeId ⟨localNodeId, hostname, fingerprint, 0⟩
  leaderNodeId := localNodeId

/-- The tile of the module's tests (`sample_tile`), with its ids. -/
def sampleTile (tileId : TileId) (owner : NodeId) (columnId : ColumnId) : TileMetadata where
  tileId
  ownerNodeId := owner
  appId := some "app"
  title := some "title"
  pid := some 42
  initialSize := (800, 600)
  currentLogicalSize := (800, 600)
  columnId
  columnTileIndex := 0
  stackGroup := none
  fullscreen := false
  maximized := false
  floating := false
  lastKnownAliveMillis := 1
  streamState := .pending
  privacyFlags := ⟨false, false⟩

/-! ## Layout operations -/

inductive TileStateChange where
  | fullscreen (value : Bool)
  | floating (value : Bool)
  | maximized (value : Bool)
deriving DecidableEq, Repr

inductive LayoutOpKind where
  | insertTile (tile : TileMetadata) (index : Nat)
  | removeTile (tileId : TileId)
  | moveTile (tileId : TileId) (columnId : ColumnId) (index : Nat)
  | moveColumn (columnId : ColumnId) (index : Nat)
  | resizeColumn (columnId : ColumnId) (width : Int)
  | focusTile (tileId : Option TileId)
  | focusColumn (columnId : ColumnId)
  | scrollViewport (nodeId : NodeId) (outputName : String) (globalX : F64)
  | setViewport (viewport : Viewport)
  | changeTileState (tileId : TileId) (change : TileStateChange)
  | changeTileMetadata (tile : TileMetadata)
  | setFullscreen (tileId : TileId) (value : Bool)
  | setFloating (tileId : TileId) (value : Bool)
  | enterOverview
  | leaveOverview
  | enableLink
  | disableLink
deriving DecidableEq, Repr

structure LayoutOp where
  seq : U64
  issuer : NodeId
  generation : U64
  kind : LayoutOpKind
deriving DecidableEq, Repr

/-! ## Messages -/

/-- The messages that are received and not acted on. -/
inductive UnhandledKind where
  | capabilityExchange
  | joinReject
  | peerList
  | leaderElection
  | layoutAck
  | inputEvent
  | frameRequest
  | frameBegin
  | frameChunk
  | frameEnd
  | streamControl
  | clipboardOffer
  | persistSession
  | restoreSession
  | error
deriving DecidableEq, Repr

inductive MessageKind where
  | hello (hostname fingerprint : String)
  | joinRequest (hostname : String) (pairingToken : Option String)
  | joinAccept (leaderNodeId : NodeId) (generation operationSeq : U64)
  | heartbeat (operationSeq generation : U64)
  | globalSnapshot (workspace : GlobalWorkspace)
  | layoutOp (op : LayoutOp)
  | viewportUpdate (viewport : Viewport)
  | tileMetadataUpdate (tile : TileMetadata)
  | tileClosed (tileId : TileId)
  | focusUpdate (focusedTile : Option TileId)
  | disableLink (persist : Bool)
  | unhandled (kind : UnhandledKind)
deriving DecidableEq

structure Envelope where
  protocolVersion : Nat
  sessionId : SessionId
  senderNodeId : NodeId
  nonce : U64
  timestampMillis : U64
  kind : MessageKind
deriving DecidableEq

end Cidre.Link
