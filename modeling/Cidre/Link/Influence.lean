/-
  Cidre.Link.Influence

  What the sender of a message can bring about.

  The handlers of `process_incoming` share their helpers with the calls of the
  compositor, and none of them looks at `enabled`, `pairing_mode` or the trust
  store.  The first part says which messages leave a disabled link disabled, the
  second which messages leave the session and the registered tiles as they are
  and are not answered with `JoinAccept`.  Both descriptions are exact, along
  runs of messages of any kind.
-/

import Cidre.Link.Session

namespace Cidre.Link

open Cidre.Run

/-! ## Merging a snapshot -/

section Merge

variable {m : LinkManager}

theorem get_foldl_merge (localNodeId : NodeId) (l : List (TileId × TileMetadata))
    (hl : l.Pairwise fun a b => a.1 < b.1) (base : SortedMap TileId RemoteTile) (id : TileId) :
    (l.foldl
        (fun remote e =>
          if e.2.ownerNodeId ≠ localNodeId && !remote.contains e.1 then remote.insert e.1 ⟨e.2⟩
          else remote) base).get id =
      (base.get id).or
        (((l.lookup id).filter fun t => t.ownerNodeId ≠ localNodeId).map RemoteTile.mk) := by
  induction l generalizing base with
  | nil => exact Option.or_none.symm
  | cons e l ih =>
    obtain ⟨hhead, htail⟩ := List.pairwise_cons.mp hl
    have hfresh : l.lookup e.1 = none := by
      rw [List.lookup_eq_none_iff]
      intro p hp
      have hne : e.1 ≠ p.1 := (hhead p hp).ne
      simpa using hne
    rw [List.foldl_cons, ih htail, List.lookup_cons]
    by_cases hid : id = e.1
    · subst hid
      rw [hfresh, beq_self_eq_true]
      dsimp only
      by_cases howner : e.2.ownerNodeId = localNodeId
      · simp [howner, Option.filter_some]
      · cases hget : base.get e.1 with
        | none => simp [howner, hget, SortedMap.contains]
        | some r => simp [hget, SortedMap.contains]
    · have hbeq : (id == e.1) = false := by simpa using hid
      rw [hbeq]
      split
      · rw [SortedMap.get_insert, if_neg hid]
      · rfl

/-- A tile of another node is registered unless it is registered already. -/
theorem get_mergeRemoteTiles (m : LinkManager) (ws : GlobalWorkspace) (id : TileId) :
    (m.mergeRemoteTiles ws).get id =
      (m.remoteTiles.get id).or
        (((ws.tiles.get id).filter fun t => t.ownerNodeId ≠ m.localNodeId).map RemoteTile.mk) :=
  get_foldl_merge m.localNodeId ws.tiles.entries ws.tiles.sorted m.remoteTiles id

/-- Every tile of another node in the workspace is registered. -/
def LinkManager.Registers (m : LinkManager) (ws : GlobalWorkspace) : Prop :=
  ∀ id t, ws.tiles.get id = some t → t.ownerNodeId ≠ m.localNodeId → m.remoteTiles.get id ≠ none

theorem mergeRemoteTiles_eq_self_iff {ws : GlobalWorkspace} :
    m.mergeRemoteTiles ws = m.remoteTiles ↔ m.Registers ws := by
  constructor
  · intro h id t ht howner hnone
    have hget := get_mergeRemoteTiles m ws id
    rw [h, hnone, ht] at hget
    simp [howner] at hget
  · intro h
    refine SortedMap.ext_get fun id => ?_
    rw [get_mergeRemoteTiles]
    cases hget : m.remoteTiles.get id with
    | some r => rfl
    | none =>
      cases ht : ws.tiles.get id with
      | none => rfl
      | some t =>
        have howner : t.ownerNodeId = m.localNodeId := by
          by_contra hne
          exact h id t ht hne hget
        simp [howner]

end Merge

/-! ## A disabled link -/

/-- The link is off and shows no tiles of other nodes. -/
def LinkManager.Off (m : LinkManager) : Prop := m.enabled = false ∧ m.remoteTiles = .empty

/-- After the message the link is off. -/
def StaysOff (m : LinkManager) (d : LinkManager.Delivery) : Prop :=
  ∀ m', m.receive d = some m' → m'.Off

/-- No `TileMetadataUpdate`, and no `GlobalSnapshot` that has tiles of other
nodes while there is a session. -/
def BringsNoTile (m : LinkManager) (d : LinkManager.Delivery) : Prop :=
  match d.msg.envelope.kind with
  | .tileMetadataUpdate _ => False
  | .globalSnapshot ws =>
      m.currentSession = none ∨ ∀ id t, ws.tiles.get id = some t → t.ownerNodeId = m.localNodeId
  | _ => True

section Off

variable {m : LinkManager} {d : LinkManager.Delivery}

theorem off_receiveSnapshot_iff (hoff : m.Off) (ws : GlobalWorkspace) :
    (m.receiveSnapshot ws).Off ↔
      m.currentSession = none ∨ ∀ id t, ws.tiles.get id = some t → t.ownerNodeId = m.localNodeId := by
  rw [LinkManager.receiveSnapshot]
  cases hs : m.currentSession with
  | none => simpa using hoff
  | some s =>
    have hmerge : m.mergeRemoteTiles ws = .empty ↔ m.Registers ws := by
      rw [← mergeRemoteTiles_eq_self_iff, hoff.2]
    have hregisters : m.Registers ws ↔
        ∀ id t, ws.tiles.get id = some t → t.ownerNodeId = m.localNodeId := by
      refine forall₂_congr fun id t => ?_
      rw [hoff.2]
      simp
    simp only [LinkManager.Off, hoff.1, true_and, reduceCtorEq, false_or]
    rw [hmerge, hregisters]

/-- A message leaves a link off exactly when it brings no tile. -/
theorem staysOff_iff_bringsNoTile (hoff : m.Off) : StaysOff m d ↔ BringsNoTile m d := by
  have hsome : ∀ {m' : LinkManager}, m.receive d = some m' → (StaysOff m d ↔ m'.Off) := by
    intro m' hm'
    constructor
    · exact fun h => h m' hm'
    · intro h m'' hm''
      rw [hm'] at hm''
      exact Option.some.inj hm'' ▸ h
  rw [BringsNoTile]
  cases hkind : d.msg.envelope.kind with
  | tileMetadataUpdate tile =>
    have hreceive : m.receive d = some (m.updateRemoteTile d.env tile) := by
      rw [LinkManager.receive, LinkManager.processMessage, hkind]
    rw [hsome hreceive]
    constructor
    · rintro ⟨hdisabled, -⟩
      cases hdisabled
    · exact False.elim
  | globalSnapshot ws =>
    have hreceive : m.receive d = some (m.receiveSnapshot ws) := by
      rw [LinkManager.receive, LinkManager.processMessage, hkind]
    rw [hsome hreceive]
    exact off_receiveSnapshot_iff hoff ws
  | heartbeat seq generation =>
    refine iff_of_true (fun m' hm' => ?_) trivial
    rw [LinkManager.receive, LinkManager.processMessage, hkind] at hm'
    dsimp only [LinkManager.receiveHeartbeat] at hm'
    split at hm'
    · exact Option.some.inj hm' ▸ hoff
    · split at hm'
      · exact Option.some.inj hm' ▸ hoff
      · cases hm'
  | tileClosed id =>
    have hreceive : m.receive d = some (m.closeTile id) := by
      rw [LinkManager.receive, LinkManager.processMessage, hkind]
    rw [hsome hreceive]
    refine iff_of_true ⟨hoff.1, ?_⟩ trivial
    have hget : m.remoteTiles.get id = none := by
      rw [hoff.2]
      rfl
    exact (SortedMap.remove_eq_self_iff.mpr hget).trans hoff.2
  | disableLink persist =>
    refine iff_of_true (fun m' hm' => ?_) trivial
    rw [LinkManager.receive, LinkManager.processMessage, hkind] at hm'
    exact Option.some.inj hm' ▸ ⟨rfl, rfl⟩
  | hello | joinRequest | joinAccept | layoutOp | viewportUpdate | focusUpdate | unhandled =>
    refine iff_of_true (fun m' hm' => ?_) trivial
    rw [LinkManager.receive, LinkManager.processMessage, hkind] at hm'
    exact Option.some.inj hm' ▸ hoff

/-- A disabled link stays disabled exactly along the runs of messages that bring
no tile. -/
theorem disabled_link_stays_iff (hoff : m.Off) (ds : List LinkManager.Delivery) :
    StepsMeet LinkManager.receive StaysOff m ds ↔
      StepsMeet LinkManager.receive BringsNoTile m ds := by
  refine @stepsMeet_iff _ _ _ _ _ LinkManager.Off (fun _ _ h => staysOff_iff_bringsNoTile h) ?_
    _ _ hoff
  exact fun _ _ m' _ hstays hm' => hstays m' hm'

end Off

/-- The tile of node 2 arrives at node 1. -/
def tileUpdate : LinkManager.Delivery :=
  ⟨⟨0, 9, 0⟩, ⟨"peer", ⟨1, 9, 2, 0, 0, .tileMetadataUpdate (sampleTile 5 2 7)⟩⟩⟩

def disabledManager : LinkManager := .new false false 1 "host" "fp" ⟨[]⟩

/-- A layout operation leaves the new manager's link off. -/
theorem disabled_link_stays_after_operation :
    disabledManager.Off ∧
      StepsMeet LinkManager.receive StaysOff disabledManager
        [⟨⟨0, 9, 0⟩, ⟨"peer", ⟨1, 9, 2, 0, 0, .layoutOp ⟨1, 2, 0, .enableLink⟩⟩⟩⟩] :=
  ⟨⟨rfl, rfl⟩, (disabled_link_stays_iff ⟨rfl, rfl⟩ _).mpr ⟨trivial, fun _ _ => trivial⟩⟩

/-- A tile update turns it on. -/
theorem tile_update_enables_link :
    disabledManager.Off ∧ ¬ StepsMeet LinkManager.receive StaysOff disabledManager [tileUpdate] := by
  refine ⟨⟨rfl, rfl⟩, fun hstays => ?_⟩
  have hoff := hstays.1 _ rfl
  exact absurd hoff.1 (by decide)

/-! ## Untrusted senders -/

/-- The trust store knows the sender under the name and fingerprint of its
`Hello`, which may be the message itself. -/
def LinkManager.trustsSender (m : LinkManager) (msg : IncomingMessage) : Bool :=
  match msg.envelope.kind with
  | .hello hostname fingerprint => m.trustStore.isTrusted hostname fingerprint
  | _ => (m.peers.get msg.envelope.senderNodeId).any fun p =>
      m.trustStore.isTrusted p.hostname p.fingerprint

def MessageKind.isJoinAccept : MessageKind → Bool
  | .joinAccept _ _ _ => true
  | _ => false

/-- The `JoinAccept` messages enqueued so far. -/
def LinkManager.joinAccepts (m : LinkManager) : List PendingMessage :=
  (m.sent ++ m.outgoing).filter fun p => p.envelope.kind.isJoinAccept

/-- The message is handled, without a `JoinAccept` and without a change of the
session or of the registered tiles. -/
def NoInfluence (m : LinkManager) (d : LinkManager.Delivery) : Prop :=
  ∃ m', m.receive d = some m' ∧ m'.joinAccepts = m.joinAccepts ∧
    m'.currentSession = m.currentSession ∧ m'.remoteTiles = m.remoteTiles

/-- The message says nothing new to the handler of its kind. -/
def Powerless (m : LinkManager) (d : LinkManager.Delivery) : Prop :=
  match d.msg.envelope.kind with
  | .hello _ _ | .unhandled _ => True
  | .joinRequest _ _ => False
  | .joinAccept leader generation _ =>
      ∀ s, m.currentSession = some s →
        s.workspace.leaderNodeId = leader ∧ s.workspace.generation = generation
  | .tileMetadataUpdate tile =>
      ∃ s, m.currentSession = some s ∧ tile.columnId ∈ s.workspace.columns ∧
        s.workspace.tiles.get tile.tileId = some tile ∧ m.remoteTiles.get tile.tileId = some ⟨tile⟩
  | .tileClosed id => m.currentSession = none ∧ m.remoteTiles.get id = none
  | .viewportUpdate _ | .layoutOp _ => m.currentSession = none
  | .focusUpdate focusedTile => ∀ s, m.currentSession = some s → s.workspace.focusedTile = focusedTile
  | .globalSnapshot ws => ∀ s, m.currentSession = some s → s.workspace = ws ∧ m.Registers ws
  | .heartbeat _ _ =>
      ∀ s, m.currentSession = some s → s.workspace.operationSeq.val + 1 < 2 ^ 64 ∧
        ∀ p, s.workspace.participants.get d.msg.envelope.senderNodeId = some p →
          p.lastSeenMillis = d.env.now
  | .disableLink _ => m.remoteTiles = .empty

section Influence

variable {m : LinkManager} {d : LinkManager.Delivery}

theorem noInfluence_iff {m' : LinkManager} (h : m.receive d = some m') :
    NoInfluence m d ↔ m'.joinAccepts = m.joinAccepts ∧ m'.currentSession = m.currentSession ∧
      m'.remoteTiles = m.remoteTiles := by
  constructor
  · rintro ⟨m'', hm'', hsame⟩
    rw [h] at hm''
    exact Option.some.inj hm'' ▸ hsame
  · exact fun hsame => ⟨m', h, hsame⟩

/-- An edit of the workspace that leaves it as it is. -/
theorem currentSession_modifyWorkspace_iff {f : GlobalWorkspace → GlobalWorkspace} :
    (m.modifyWorkspace f).currentSession = m.currentSession ↔
      ∀ s, m.currentSession = some s → f s.workspace = s.workspace := by
  rw [LinkManager.modifyWorkspace]
  cases m.currentSession with
  | none => simp
  | some s =>
    dsimp only [Option.map_some]
    constructor
    · intro h s' hs'
      rw [← Option.some.inj hs']
      exact congrArg LinkedSession.workspace (Option.some.inj h)
    · intro h
      rw [h s rfl]

/-- Logging an operation changes the session. -/
theorem apply_ne_self (s : LinkedSession) (op : LayoutOp) : s.apply op ≠ s := by
  intro h
  have hlog := congrArg (fun s : LinkedSession => s.log.ops.length) h
  simp [LinkedSession.apply, OperationLog.push] at hlog

theorem map_apply_eq_self_iff {o : Option LinkedSession} (op : LinkedSession → LayoutOp) :
    (o.map fun s => s.apply (op s)) = o ↔ o = none := by
  cases o with
  | none => simp
  | some s => simpa using apply_ne_self s (op s)

/-- Answering a `JoinRequest` shows in the messages sent. -/
theorem joinAccepts_receiveJoinRequest_ne (env : Env) (m : LinkManager) (sender : String)
    (nodeId : NodeId) : (m.receiveJoinRequest env sender nodeId).joinAccepts ≠ m.joinAccepts := by
  intro h
  have hlength := congrArg List.length h
  simp [LinkManager.receiveJoinRequest, LinkManager.connect, LinkManager.joinAccepts,
    LinkManager.drain, LinkManager.post, LinkManager.enqueue, LinkManager.makeEnvelope,
    List.filter_append, MessageKind.isJoinAccept] at hlength

theorem fileRemoteTile_eq_self_iff {ws : GlobalWorkspace} {tile : TileMetadata} :
    LinkManager.fileRemoteTile ws tile = ws ↔
      tile.columnId ∈ ws.columns ∧ ws.tiles.get tile.tileId = some tile := by
  rw [LinkManager.fileRemoteTile, pushColumn]
  constructor
  · intro h
    have hcolumns := congrArg GlobalWorkspace.columns h
    have htiles := congrArg GlobalWorkspace.tiles h
    split at hcolumns
    · rename_i hmem
      rw [if_pos hmem] at htiles
      exact ⟨by simpa using hmem, SortedMap.insert_eq_self_iff.mp htiles⟩
    · simp at hcolumns
  · rintro ⟨hmem, hget⟩
    rw [if_pos (List.contains_iff_mem.mpr hmem), SortedMap.insert_eq_self_iff.mpr hget]

/-- Adding a viewport to those of a node changes them. -/
theorem insert_append_ne_self (viewports : SortedMap NodeId (List Viewport)) (v : Viewport) :
    viewports.insert v.nodeId ((viewports.get v.nodeId).getD [] ++ [v]) ≠ viewports := by
  intro h
  have hget := SortedMap.insert_eq_self_iff.mp h
  rw [hget] at hget
  have hlength := congrArg (fun o : Option (List Viewport) => (o.getD []).length) hget
  simp at hlength

theorem noInfluence_joinAccept_iff {leader : NodeId} {generation seq : U64}
    (h : d.msg.envelope.kind = .joinAccept leader generation seq) :
    NoInfluence m d ↔ ∀ s, m.currentSession = some s →
      s.workspace.leaderNodeId = leader ∧ s.workspace.generation = generation := by
  have hreceive : m.receive d = some (m.receiveJoinAccept leader generation) := by
    rw [LinkManager.receive, LinkManager.processMessage, h]
  rw [noInfluence_iff hreceive, LinkManager.receiveJoinAccept, currentSession_modifyWorkspace_iff]
  have hedit : ∀ ws : GlobalWorkspace,
      { ws with leaderNodeId := leader, generation } = ws ↔
        ws.leaderNodeId = leader ∧ ws.generation = generation := by
    intro ws
    constructor
    · intro heq
      rw [← heq]
      exact ⟨rfl, rfl⟩
    · rintro ⟨rfl, rfl⟩
      rfl
  constructor
  · rintro ⟨-, hsame, -⟩ s hs
    exact (hedit s.workspace).mp (hsame s hs)
  · exact fun hsame => ⟨rfl, fun s hs => (hedit s.workspace).mpr (hsame s hs), rfl⟩

theorem noInfluence_focusUpdate_iff {focusedTile : Option TileId}
    (h : d.msg.envelope.kind = .focusUpdate focusedTile) :
    NoInfluence m d ↔ ∀ s, m.currentSession = some s → s.workspace.focusedTile = focusedTile := by
  have hreceive : m.receive d = some (m.modifyWorkspace fun ws => { ws with focusedTile }) := by
    rw [LinkManager.receive, LinkManager.processMessage, h]
  rw [noInfluence_iff hreceive, currentSession_modifyWorkspace_iff]
  constructor
  · rintro ⟨-, hsame, -⟩ s hs
    rw [← hsame s hs]
  · intro hsame
    refine ⟨rfl, fun s hs => ?_, rfl⟩
    rw [← hsame s hs]

theorem noInfluence_tileMetadataUpdate_iff {tile : TileMetadata}
    (h : d.msg.envelope.kind = .tileMetadataUpdate tile) :
    NoInfluence m d ↔ ∃ s, m.currentSession = some s ∧ tile.columnId ∈ s.workspace.columns ∧
      s.workspace.tiles.get tile.tileId = some tile ∧
      m.remoteTiles.get tile.tileId = some ⟨tile⟩ := by
  have hreceive : m.receive d = some (m.updateRemoteTile d.env tile) := by
    rw [LinkManager.receive, LinkManager.processMessage, h]
  rw [noInfluence_iff hreceive]
  have hremote : (m.updateRemoteTile d.env tile).remoteTiles = m.remoteTiles ↔
      m.remoteTiles.get tile.tileId = some ⟨tile⟩ := SortedMap.insert_eq_self_iff
  have hsession : (m.updateRemoteTile d.env tile).currentSession = m.currentSession ↔
      ∃ s, m.currentSession = some s ∧ LinkManager.fileRemoteTile s.workspace tile = s.workspace := by
    rw [LinkManager.updateRemoteTile, LinkManager.modifyWorkspace, LinkManager.enable]
    cases m.currentSession with
    | none => simp
    | some s =>
      dsimp only [Option.getD_some, Option.map_some]
      constructor
      · exact fun heq => ⟨s, rfl, congrArg LinkedSession.workspace (Option.some.inj heq)⟩
      · rintro ⟨s', hs', heq⟩
        rw [← Option.some.inj hs'] at heq
        rw [heq]
  rw [hremote, hsession]
  constructor
  · rintro ⟨-, ⟨s, hs, hfile⟩, hget⟩
    obtain ⟨hmem, htile⟩ := fileRemoteTile_eq_self_iff.mp hfile
    exact ⟨s, hs, hmem, htile, hget⟩
  · rintro ⟨s, hs, hmem, htile, hget⟩
    exact ⟨rfl, ⟨s, hs, fileRemoteTile_eq_self_iff.mpr ⟨hmem, htile⟩⟩, hget⟩

theorem noInfluence_viewportUpdate_iff {viewport : Viewport}
    (h : d.msg.envelope.kind = .viewportUpdate viewport) :
    NoInfluence m d ↔ m.currentSession = none := by
  have hreceive : m.receive d = some (m.receiveViewport viewport) := by
    rw [LinkManager.receive, LinkManager.processMessage, h]
  rw [noInfluence_iff hreceive, LinkManager.receiveViewport, currentSession_modifyWorkspace_iff]
  constructor
  · rintro ⟨-, hsame, -⟩
    cases hs : m.currentSession with
    | none => rfl
    | some s =>
      have hviewports := congrArg GlobalWorkspace.perNodeViewports (hsame s hs)
      exact absurd hviewports (insert_append_ne_self s.workspace.perNodeViewports viewport)
  · intro hnone
    refine ⟨rfl, fun s hs => ?_, rfl⟩
    rw [hnone] at hs
    cases hs

theorem noInfluence_globalSnapshot_iff {ws : GlobalWorkspace}
    (h : d.msg.envelope.kind = .globalSnapshot ws) :
    NoInfluence m d ↔ ∀ s, m.currentSession = some s → s.workspace = ws ∧ m.Registers ws := by
  have hreceive : m.receive d = some (m.receiveSnapshot ws) := by
    rw [LinkManager.receive, LinkManager.processMessage, h]
  rw [noInfluence_iff hreceive, LinkManager.receiveSnapshot]
  cases hs : m.currentSession with
  | none => simp [hs]
  | some s =>
    rw [← mergeRemoteTiles_eq_self_iff]
    constructor
    · rintro ⟨-, hsession, hremote⟩ s' hs'
      obtain rfl := Option.some.inj hs'
      exact ⟨(congrArg LinkedSession.workspace (Option.some.inj hsession)).symm, hremote⟩
    · intro hsame
      obtain ⟨hws, hremote⟩ := hsame s rfl
      refine ⟨rfl, ?_, hremote⟩
      rw [← hws]

theorem noInfluence_heartbeat_iff {seq generation : U64}
    (h : d.msg.envelope.kind = .heartbeat seq generation) :
    NoInfluence m d ↔
      ∀ s, m.currentSession = some s → s.workspace.operationSeq.val + 1 < 2 ^ 64 ∧
        ∀ p, s.workspace.participants.get d.msg.envelope.senderNodeId = some p →
          p.lastSeenMillis = d.env.now := by
  have hreceive : m.receive d = m.receiveHeartbeat d.env d.msg.envelope.senderNodeId := by
    rw [LinkManager.receive, LinkManager.processMessage, h]
  generalize d.msg.envelope.senderNodeId = nodeId at hreceive ⊢
  have htouch : ∀ p : Participant, { p with lastSeenMillis := d.env.now } = p ↔
      p.lastSeenMillis = d.env.now := by
    intro p
    constructor
    · intro heq
      rw [← heq]
    · intro heq
      rw [← heq]
  have hedit : ∀ ws : GlobalWorkspace,
      { ws with
        participants := ws.participants.modify nodeId fun p =>
          { p with lastSeenMillis := d.env.now } } = ws ↔
        ∀ p, ws.participants.get nodeId = some p → p.lastSeenMillis = d.env.now := by
    intro ws
    have hmodify := SortedMap.modify_eq_self_iff (m := ws.participants) (k := nodeId)
      (f := fun p => { p with lastSeenMillis := d.env.now })
    constructor
    · intro heq p hp
      exact (htouch p).mp (hmodify.mp (congrArg GlobalWorkspace.participants heq) p hp)
    · intro hseen
      rw [hmodify.mpr fun p hp => (htouch p).mpr (hseen p hp)]
  cases hs : m.currentSession with
  | none =>
    have hsome : m.receive d = some ((m.connect nodeId).touchParticipant d.env nodeId) := by
      rw [hreceive, LinkManager.receiveHeartbeat, LinkManager.touchParticipant,
        LinkManager.modifyWorkspace, LinkManager.connect]
      simp only [hs, Option.map_none]
    rw [noInfluence_iff hsome, LinkManager.touchParticipant, LinkManager.modifyWorkspace,
      LinkManager.connect]
    simp [hs, LinkManager.joinAccepts]
  | some s =>
    have hvalue : m.receive d =
        if s.workspace.operationSeq.val + 1 < 2 ^ 64 then
          some ((m.connect nodeId).touchParticipant d.env nodeId)
        else none := by
      rw [hreceive, LinkManager.receiveHeartbeat, LinkManager.touchParticipant,
        LinkManager.modifyWorkspace, LinkManager.connect]
      simp only [hs, Option.map_some]
    by_cases hseq : s.workspace.operationSeq.val + 1 < 2 ^ 64
    · rw [if_pos hseq] at hvalue
      have hsession : ((m.connect nodeId).touchParticipant d.env nodeId).currentSession =
          m.currentSession ↔ ∀ s, m.currentSession = some s →
            ∀ p, s.workspace.participants.get nodeId = some p → p.lastSeenMillis = d.env.now :=
        (currentSession_modifyWorkspace_iff (m := m.connect nodeId)).trans
          (forall₂_congr fun s _ => hedit s.workspace)
      rw [noInfluence_iff hvalue, hsession]
      constructor
      · rintro ⟨-, hsame, -⟩ s' hs'
        obtain rfl := Option.some.inj hs'
        exact ⟨hseq, hsame s hs⟩
      · intro hsame
        refine ⟨rfl, fun s' hs' => ?_, rfl⟩
        obtain rfl := Option.some.inj (hs.symm.trans hs')
        exact (hsame s rfl).2
    · rw [if_neg hseq] at hvalue
      constructor
      · rintro ⟨m', hm', -⟩
        rw [hvalue] at hm'
        cases hm'
      · exact fun hsame => absurd (hsame s rfl).1 hseq

/-- A message has no influence exactly when it says nothing new. -/
theorem noInfluence_iff_powerless : NoInfluence m d ↔ Powerless m d := by
  rw [Powerless]
  cases hkind : d.msg.envelope.kind with
  | hello hostname fingerprint =>
    have hreceive : m.receive d = some (m.receiveHello d.msg.peerAddr d.msg.envelope.senderNodeId
        hostname fingerprint) := by
      rw [LinkManager.receive, LinkManager.processMessage, hkind]
    rw [noInfluence_iff hreceive]
    exact iff_of_true ⟨rfl, rfl, rfl⟩ trivial
  | joinRequest hostname token =>
    have hreceive : m.receive d =
        some (m.receiveJoinRequest d.env d.msg.peerAddr d.msg.envelope.senderNodeId) := by
      rw [LinkManager.receive, LinkManager.processMessage, hkind]
    rw [noInfluence_iff hreceive]
    refine iff_of_false (fun hsame => ?_) not_false
    exact joinAccepts_receiveJoinRequest_ne _ _ _ _ hsame.1
  | joinAccept leader generation seq => exact noInfluence_joinAccept_iff hkind
  | heartbeat seq generation => exact noInfluence_heartbeat_iff hkind
  | globalSnapshot ws => exact noInfluence_globalSnapshot_iff hkind
  | layoutOp op =>
    have hreceive : m.receive d = some (m.receiveLayoutOp op) := by
      rw [LinkManager.receive, LinkManager.processMessage, hkind]
    have hsession : (m.receiveLayoutOp op).currentSession = m.currentSession ↔
        m.currentSession = none := map_apply_eq_self_iff fun _ => op
    rw [noInfluence_iff hreceive, hsession]
    exact ⟨fun hsame => hsame.2.1, fun hnone => ⟨rfl, hnone, rfl⟩⟩
  | viewportUpdate viewport => exact noInfluence_viewportUpdate_iff hkind
  | tileMetadataUpdate tile => exact noInfluence_tileMetadataUpdate_iff hkind
  | tileClosed id =>
    have hreceive : m.receive d = some (m.closeTile id) := by
      rw [LinkManager.receive, LinkManager.processMessage, hkind]
    have hsession : (m.closeTile id).currentSession = m.currentSession ↔
        m.currentSession = none := map_apply_eq_self_iff fun s => m.nextOp s (.removeTile id)
    have hremote : (m.closeTile id).remoteTiles = m.remoteTiles ↔ m.remoteTiles.get id = none :=
      SortedMap.remove_eq_self_iff
    rw [noInfluence_iff hreceive, hsession, hremote]
    exact ⟨And.right, fun hsame => ⟨rfl, hsame⟩⟩
  | focusUpdate focusedTile => exact noInfluence_focusUpdate_iff hkind
  | disableLink persist =>
    have hreceive : m.receive d = some m.disable := by
      rw [LinkManager.receive, LinkManager.processMessage, hkind]
    rw [noInfluence_iff hreceive]
    exact ⟨fun hsame => hsame.2.2.symm, fun hempty => ⟨rfl, rfl, hempty.symm⟩⟩
  | unhandled kind =>
    have hreceive : m.receive d = some m := by
      rw [LinkManager.receive, LinkManager.processMessage, hkind]
    rw [noInfluence_iff hreceive]
    exact iff_of_true ⟨rfl, rfl, rfl⟩ trivial

/-- Messages have no influence exactly when each says nothing new in the state
it finds, whoever sent them: no handler asks. -/
theorem messages_no_influence_iff (m : LinkManager) (ds : List LinkManager.Delivery) :
    StepsMeet LinkManager.receive NoInfluence m ds ↔ StepsMeet LinkManager.receive Powerless m ds :=
  @stepsMeet_iff _ _ _ _ _ (fun _ => True) (fun _ _ _ => noInfluence_iff_powerless)
    (fun _ _ _ _ _ _ => trivial) _ _ trivial

end Influence

/-- Node 2, which nobody trusts, asks to join. -/
def untrustedJoin : LinkManager.Delivery :=
  ⟨⟨0, 9, 0⟩, ⟨"peer", ⟨1, 9, 2, 0, 0, .joinRequest "stranger" none⟩⟩⟩

/-- It is accepted, with pairing mode off. -/
theorem untrusted_join_accepted :
    newManager.pairingMode = false ∧ newManager.trustsSender untrustedJoin.msg = false ∧
      ¬ StepsMeet LinkManager.receive NoInfluence newManager [untrustedJoin] := by
  refine ⟨rfl, rfl, fun hnone => ?_⟩
  have hpowerless := noInfluence_iff_powerless.mp hnone.1
  exact hpowerless

end Cidre.Link
