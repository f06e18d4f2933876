/-
  Cidre.Link.Sequence

  The counters of a session along a run of the link manager.

  A step touches the counters in one of ten ways (`Change`), and `step_numbers`
  says which.  What is required of a step is stated against every state the
  manager has been in: the counters of a session must not fall behind any
  earlier state of the same session, and the number of a local operation must
  exceed all of them.

  Nothing in the code enforces this.  The counter is overwritten by whatever
  arrives, and the next local number is taken from the log, which a restored
  session starts empty and a snapshot leaves as it is.  `InOrder` collects what
  has to be true of the messages and files for the counters to be kept, and is
  exact.
-/

import Cidre.Link.Session

namespace Cidre.Link

open Cidre.Run

/-! ## Counters -/

/-- The counters of a session and the last number in its log. -/
structure Numbers where
  session : SessionId
  seq : U64
  generation : U64
  last : U64
deriving DecidableEq, Repr

namespace Numbers

def empty (session : SessionId) : Numbers := ⟨session, 0, 0, 0⟩

/-- The next local operation. -/
def issue (n : Numbers) : Numbers :=
  { n with seq := n.last.saturatingSucc, last := n.last.saturatingSucc }

/-- Of one session, and not further back. -/
def Follows (o n : Numbers) : Prop :=
  o.session = n.session → o.seq ≤ n.seq ∧ o.generation ≤ n.generation

end Numbers

def LinkedSession.numbers (s : LinkedSession) : Numbers where
  session := s.workspace.sessionId
  seq := s.workspace.operationSeq
  generation := s.workspace.generation
  last := s.log.lastSeq

def LinkManager.numbers (m : LinkManager) : Option Numbers :=
  m.currentSession.map LinkedSession.numbers

/-- What a step does to the counters. -/
inductive Change where
  | same
  /-- A session is opened if there is none. -/
  | fresh (session : SessionId)
  | leave
  /-- `JoinAccept`. -/
  | adopt (generation : U64)
  /-- `set_leader`. -/
  | promote
  /-- A received operation. -/
  | apply (seq generation : U64)
  /-- A local operation. -/
  | issue
  /-- A local operation, in a new session if there is none. -/
  | freshIssue (session : SessionId)
  /-- A restored session, with an empty log. -/
  | restart (session : SessionId) (seq generation : U64)
  /-- A snapshot; the log stays. -/
  | snapshot (session : SessionId) (seq generation : U64)

namespace Change

def run (now : Option Numbers) : Change → Option Numbers
  | .same => now
  | .fresh session => some (now.getD (.empty session))
  | .leave => none
  | .adopt generation => now.map fun n => { n with generation }
  | .promote => now.map fun n => { n with generation := nextGeneration n.generation }
  | .apply seq generation => now.map fun n => { n with seq, generation, last := seq }
  | .issue => now.map Numbers.issue
  | .freshIssue session => some (now.getD (.empty session)).issue
  | .restart session seq generation => some ⟨session, seq, generation, 0⟩
  | .snapshot session seq generation => now.map fun n => ⟨session, seq, generation, n.last⟩

def issues : Change → Bool
  | .issue | .freshIssue _ => true
  | _ => false

/-- When a change keeps the counters in order; `seen` are the counters so far. -/
def InOrder (seen : List Numbers) (now : Option Numbers) : Change → Prop
  | .same | .leave | .promote => True
  | .fresh session => now = none → ∀ o ∈ seen, o.Follows (.empty session)
  | .adopt generation => ∀ n, now = some n → n.generation ≤ generation
  | .apply seq generation => ∀ n, now = some n → n.seq ≤ seq ∧ n.generation ≤ generation
  | .issue => ∀ n, now = some n → n.seq < n.last.saturatingSucc
  | .freshIssue session =>
      (∀ n, now = some n → n.seq < n.last.saturatingSucc) ∧
        (now = none → ∀ o ∈ seen, o.Follows (.empty session))
  | .restart session seq generation => ∀ o ∈ seen, o.Follows ⟨session, seq, generation, 0⟩
  | .snapshot session seq generation =>
      now ≠ none → ∀ o ∈ seen, o.Follows ⟨session, seq, generation, 0⟩

/-- The counters after the change follow all seen, a local number exceeds them. -/
def Kept (seen : List Numbers) (now : Option Numbers) (c : Change) : Prop :=
  ∀ n, c.run now = some n →
    ∀ o ∈ seen, o.Follows n ∧ (c.issues = true → o.session = n.session → o.seq < n.seq)

section Kept

variable {seen : List Numbers} {now : Option Numbers}

theorem le_nextGeneration (g : U64) : g ≤ nextGeneration g := by
  rw [nextGeneration, U64.saturatingSucc, Fin.le_def]
  have hlt := g.isLt
  dsimp only
  omega

theorem issue_empty_seq (session : SessionId) : (Numbers.empty session).issue.seq = 1 := rfl

/-- A first operation in a new session. -/
theorem follows_issue_empty_iff {o : Numbers} {session : SessionId} :
    (o.Follows (Numbers.empty session).issue ∧
        (o.session = session → o.seq < (Numbers.empty session).issue.seq)) ↔
      o.Follows (.empty session) := by
  rw [issue_empty_seq]
  constructor
  · rintro ⟨hfollows, hlt⟩ hsession
    have hseq : o.seq < 1 := hlt hsession
    refine ⟨?_, (hfollows hsession).2⟩
    rw [Fin.lt_def] at hseq
    rw [Fin.le_def]
    exact Nat.le_of_lt_succ hseq
  · intro hfollows
    have hlt : o.session = session → o.seq < 1 := by
      intro hsession
      have hle : o.seq ≤ 0 := (hfollows hsession).1
      rw [Fin.le_def] at hle
      rw [Fin.lt_def]
      exact Nat.lt_succ_of_le hle
    exact ⟨fun hsession => ⟨(hlt hsession).le, (hfollows hsession).2⟩, hlt⟩

/-- A local operation in the current session. -/
theorem kept_issue_iff {n : Numbers} (hseen : ∀ o ∈ seen, o.Follows n) (hmem : n ∈ seen) :
    (∀ o ∈ seen, o.Follows n.issue ∧ (o.session = n.session → o.seq < n.issue.seq)) ↔
      n.seq < n.last.saturatingSucc := by
  constructor
  · exact fun h => (h n hmem).2 rfl
  · intro hlt o ho
    have hlast : o.session = n.session → o.seq < n.issue.seq :=
      fun hsession => lt_of_le_of_lt (hseen o ho hsession).1 hlt
    exact ⟨fun hsession => ⟨(hlast hsession).le, (hseen o ho hsession).2⟩, hlast⟩

/-- As long as the present follows the past, `InOrder` is exact. -/
theorem kept_iff_inOrder (hseen : ∀ n, now = some n → ∀ o ∈ seen, o.Follows n)
    (hmem : ∀ n, now = some n → n ∈ seen) (c : Change) : c.Kept seen now ↔ c.InOrder seen now := by
  have hfalse : ∀ {p : Prop} {q : Prop}, (p ∧ (false = true → q)) ↔ p :=
    fun {p q} => ⟨And.left, fun hp => ⟨hp, fun h => by cases h⟩⟩
  cases now with
  | none =>
    cases c with
    | fresh session => simp [Kept, InOrder, run, issues]
    | freshIssue session =>
      have hiff := @follows_issue_empty_iff
      simp only [Kept, InOrder, run, issues, Option.getD_none, Option.some.injEq, forall_eq',
        reduceCtorEq, false_implies, implies_true, true_and, forall_const]
      exact forall₂_congr fun o _ => hiff
    | restart session seq generation => simp [Kept, InOrder, run, issues]
    | same | leave | adopt | promote | apply | issue | snapshot => simp [Kept, InOrder, run]
  | some n =>
    have hn := hseen n rfl
    have hin := hmem n rfl
    cases c with
    | same => simpa [Kept, InOrder, run, issues] using hn
    | leave => simp [Kept, InOrder, run]
    | fresh session => simpa [Kept, InOrder, run, issues] using hn
    | adopt generation =>
      simp only [Kept, InOrder, run, issues, Option.map_some, Option.some.injEq, forall_eq',
        hfalse]
      constructor
      · exact fun h => (h n hin rfl).2
      · intro hle o ho hsession
        exact ⟨(hn o ho hsession).1, (hn o ho hsession).2.trans hle⟩
    | promote =>
      simp only [Kept, InOrder, run, issues, Option.map_some, Option.some.injEq, forall_eq',
        hfalse, iff_true]
      intro o ho hsession
      exact ⟨(hn o ho hsession).1, (hn o ho hsession).2.trans (le_nextGeneration _)⟩
    | apply seq generation =>
      simp only [Kept, InOrder, run, issues, Option.map_some, Option.some.injEq, forall_eq',
        hfalse]
      constructor
      · exact fun h => h n hin rfl
      · intro hle o ho hsession
        exact ⟨(hn o ho hsession).1.trans hle.1, (hn o ho hsession).2.trans hle.2⟩
    | issue =>
      simp only [Kept, InOrder, run, issues, Option.map_some, Option.some.injEq, forall_eq',
        forall_const]
      exact kept_issue_iff hn hin
    | freshIssue session =>
      simp only [Kept, InOrder, run, issues, Option.getD_some, Option.some.injEq, forall_eq',
        forall_const, reduceCtorEq, false_implies, and_true]
      exact kept_issue_iff hn hin
    | restart session seq generation => simp [Kept, InOrder, run, issues, Numbers.Follows]
    | snapshot session seq generation =>
      simp [Kept, InOrder, run, issues, Numbers.Follows]

end Kept

end Change

/-! ## The counters in a step of the manager -/

/-- The restored session, if one was found. -/
def Change.ofFound : Option PersistedSession → Change
  | some found =>
      .restart found.globalLayout.sessionId found.globalLayout.operationSeq
        found.globalLayout.generation
  | none => .same

def Change.ofMessage (env : Env) : MessageKind → Change
  | .joinAccept _ generation _ => .adopt generation
  | .tileMetadataUpdate _ => .fresh env.newSession
  | .tileClosed _ => .issue
  | .layoutOp op => .apply op.seq op.generation
  | .globalSnapshot ws => .snapshot ws.sessionId ws.operationSeq ws.generation
  | _ => .same

def LinkManager.changeOfCall (m : LinkManager) (env : Env) : Call → Change
  | .enable | .joinAddr _ | .updateRemoteTile _ | .ensureLocalParticipant => .fresh env.newSession
  | .toggle => if m.enabled then .same else .fresh env.newSession
  | .syncLocalViewports _ | .syncLocalTiles _ | .syncFocusedTile _ =>
      if m.enabled then .fresh env.newSession else .same
  | .leave => .leave
  | .setLeader _ => .promote
  | .restoreSession sessions sessionId =>
      .ofFound ((sessions.getD []).find? fun it => it.sessionId = sessionId)
  | .restoreBestSession sessions =>
      .ofFound (restoreCandidate (sessions.getD []) (m.peers.keys ++ [m.localNodeId]))
  | .applyLayoutOp _ | .closeTile _ => .issue
  | .upsertLocalViewport _ | .upsertLocalTile _ _ => .freshIssue env.newSession
  | _ => .same

/-- How an event changes the counters. -/
def LinkManager.change (m : LinkManager) : Event → Change
  | .received d => .ofMessage d.env d.msg.envelope.kind
  | .called env c => m.changeOfCall env c

section Counters

variable {m : LinkManager}

theorem numbers_eq (s : LinkedSession) {session : SessionId} {seq generation : U64}
    (h : s.workspace.counters = (session, seq, generation)) :
    s.numbers = ⟨session, seq, generation, s.log.lastSeq⟩ := by
  rw [GlobalWorkspace.counters, Prod.mk.injEq, Prod.mk.injEq] at h
  rw [LinkedSession.numbers, h.1, h.2.1, h.2.2]

theorem numbers_apply (s : LinkedSession) (op : LayoutOp) :
    (s.apply op).numbers =
      { s.numbers with seq := op.seq, generation := op.generation, last := op.seq } := by
  rw [numbers_eq _ (counters_applyOp s.workspace op)]
  rw [LinkedSession.apply, OperationLog.lastSeq_push]
  rfl

theorem numbers_applyLayoutOp (m : LinkManager) (kind : LayoutOpKind) :
    (m.applyLayoutOp kind).numbers = m.numbers.map Numbers.issue := by
  rw [LinkManager.numbers, LinkManager.applyLayoutOp, LinkManager.numbers, Option.map_map,
    Option.map_map]
  refine Option.map_congr fun s _ => ?_
  rw [Function.comp_apply, numbers_apply]
  rfl

/-- Editing the workspace without touching the counters. -/
theorem numbers_modifyWorkspace {f : GlobalWorkspace → GlobalWorkspace}
    (hf : ∀ ws, (f ws).counters = ws.counters) : (m.modifyWorkspace f).numbers = m.numbers := by
  rw [LinkManager.numbers, LinkManager.modifyWorkspace, Option.map_map, LinkManager.numbers]
  refine Option.map_congr fun s _ => ?_
  exact numbers_eq { s with workspace := f s.workspace } (hf s.workspace)

theorem numbers_enable (env : Env) (m : LinkManager) :
    (m.enable env).numbers = some (m.numbers.getD (.empty env.newSession)) := by
  rw [LinkManager.numbers, LinkManager.enable, LinkManager.numbers]
  cases m.currentSession with
  | none => rfl
  | some s => rfl

theorem numbers_ensureLocalParticipant (env : Env) (m : LinkManager) :
    (m.ensureLocalParticipant env).numbers = some (m.numbers.getD (.empty env.newSession)) := by
  have hkeep : (m.ensureLocalParticipant env).numbers = (m.enable env).numbers :=
    numbers_modifyWorkspace fun _ => rfl
  rw [hkeep, numbers_enable]

theorem numbers_updateRemoteTile (env : Env) (m : LinkManager) (tile : TileMetadata) :
    (m.updateRemoteTile env tile).numbers = some (m.numbers.getD (.empty env.newSession)) := by
  have hkeep : (m.updateRemoteTile env tile).numbers = (m.enable env).numbers :=
    numbers_modifyWorkspace
      (m := { m.enable env with remoteTiles := (m.enable env).remoteTiles.insert tile.tileId ⟨tile⟩ })
      fun ws => counters_pushColumn ws tile.columnId
  rw [hkeep, numbers_enable]

theorem numbers_receiveSnapshot (m : LinkManager) (ws : GlobalWorkspace) :
    (m.receiveSnapshot ws).numbers =
      m.numbers.map fun n => ⟨ws.sessionId, ws.operationSeq, ws.generation, n.last⟩ := by
  rw [LinkManager.receiveSnapshot, LinkManager.numbers, LinkManager.numbers]
  cases hs : m.currentSession with
  | none => simp only [hs, Option.map_none]
  | some s => rfl

theorem counters_foldl_dropTile (ids : List TileId) (ws : GlobalWorkspace) :
    (ids.foldl LinkManager.dropTile ws).counters = ws.counters := by
  induction ids generalizing ws with
  | nil => rfl
  | cons id ids ih =>
    rw [List.foldl_cons, ih, LinkManager.dropTile, counters_unfocus]
    rfl

theorem counters_fileLocalTiles (tiles : List TileMetadata) (ws : GlobalWorkspace) (changed : Bool) :
    (LinkManager.fileLocalTiles ws tiles changed).1.counters = ws.counters := by
  rw [LinkManager.fileLocalTiles]
  induction tiles generalizing ws changed with
  | nil => rfl
  | cons t tiles ih =>
    rw [List.foldl_cons]
    split
    · exact ih ws changed
    · rw [ih]
      rfl

theorem counters_syncWorkspaceTiles (m : LinkManager) (ws : GlobalWorkspace)
    (tiles : List TileMetadata) : (m.syncWorkspaceTiles ws tiles).counters = ws.counters := by
  rw [LinkManager.syncWorkspaceTiles]
  have hfiled := counters_fileLocalTiles tiles
    ((m.goneTileIds ws tiles).foldl LinkManager.dropTile ws) (!(m.goneTileIds ws tiles).isEmpty)
  rw [counters_foldl_dropTile] at hfiled
  split
  · exact hfiled
  · exact hfiled

theorem numbers_syncLocalTiles (env : Env) (m : LinkManager) (tiles : List TileMetadata) :
    (m.syncLocalTiles env tiles).numbers =
      if m.enabled then some (m.numbers.getD (.empty env.newSession)) else m.numbers := by
  rw [LinkManager.syncLocalTiles]
  split
  · rw [← numbers_ensureLocalParticipant env m]
    dsimp only
    split
    · rfl
    · rename_i s hs
      rw [LinkManager.numbers, LinkManager.numbers, hs, Option.map_some, Option.map_some]
      exact congrArg some (numbers_eq _ (counters_syncWorkspaceTiles _ s.workspace tiles))
  · rfl

theorem numbers_foldl_post (env : Env) (kind : MessageKind) (addrs : List String) (m : LinkManager) :
    (addrs.foldl (fun m addr => m.post env addr kind) m).numbers = m.numbers := by
  induction addrs generalizing m with
  | nil => rfl
  | cons addr addrs ih =>
    rw [List.foldl_cons, ih]
    rfl

theorem numbers_broadcast (env : Env) (m : LinkManager) (kind : MessageKind) :
    (m.broadcast env kind).numbers = m.numbers :=
  numbers_foldl_post env kind m.connectedAddrs m

theorem numbers_restore (m : LinkManager) (found : PersistedSession) :
    (m.restore found).numbers = (Change.ofFound (some found)).run m.numbers := rfl

end Counters

/-- What a received message does to the counters. -/
theorem numbers_receive {m m' : LinkManager} {d : LinkManager.Delivery} (h : m.receive d = some m') :
    m'.numbers = (Change.ofMessage d.env d.msg.envelope.kind).run m.numbers := by
  rw [LinkManager.receive, LinkManager.processMessage] at h
  cases hkind : d.msg.envelope.kind with
  | hello hostname fingerprint | joinRequest hostname token | disableLink persist
  | unhandled kind =>
    rw [hkind] at h
    exact Option.some.inj h ▸ rfl
  | joinAccept leader generation seq =>
    rw [hkind] at h
    rw [← Option.some.inj h, LinkManager.receiveJoinAccept, LinkManager.numbers,
      LinkManager.modifyWorkspace, Option.map_map, Change.ofMessage, Change.run, LinkManager.numbers,
      Option.map_map]
    rfl
  | heartbeat seq generation =>
    rw [hkind] at h
    have hkeep : ((m.connect d.msg.envelope.senderNodeId).touchParticipant d.env
        d.msg.envelope.senderNodeId).numbers = m.numbers :=
      numbers_modifyWorkspace (m := m.connect d.msg.envelope.senderNodeId) fun _ => rfl
    dsimp only [LinkManager.receiveHeartbeat] at h
    split at h
    · exact Option.some.inj h ▸ hkeep
    · split at h
      · exact Option.some.inj h ▸ hkeep
      · cases h
  | globalSnapshot ws =>
    rw [hkind] at h
    exact Option.some.inj h ▸ numbers_receiveSnapshot m ws
  | layoutOp op =>
    rw [hkind] at h
    rw [← Option.some.inj h, LinkManager.receiveLayoutOp, LinkManager.numbers, Option.map_map,
      Change.ofMessage, Change.run, LinkManager.numbers, Option.map_map]
    exact Option.map_congr fun s _ => numbers_apply s op
  | viewportUpdate viewport | focusUpdate focused =>
    rw [hkind] at h
    exact Option.some.inj h ▸ numbers_modifyWorkspace fun _ => rfl
  | tileMetadataUpdate tile =>
    rw [hkind] at h
    exact Option.some.inj h ▸ numbers_updateRemoteTile d.env m tile
  | tileClosed id =>
    rw [hkind] at h
    exact Option.some.inj h ▸ numbers_applyLayoutOp m (.removeTile id)

/-- What a call does to the counters. -/
theorem numbers_call (env : Env) (m : LinkManager) (c : Call) :
    (m.call env c).numbers = (m.changeOfCall env c).run m.numbers := by
  cases c with
  | enable => exact numbers_enable env m
  | toggle =>
    show (m.toggle env).numbers =
      (if m.enabled then Change.same else .fresh env.newSession).run m.numbers
    rw [LinkManager.toggle]
    split
    · rfl
    · exact numbers_enable env m
  | joinAddr addr => exact numbers_enable env m
  | setLeader node =>
    show (m.setLeader node).numbers = Change.promote.run m.numbers
    rw [LinkManager.setLeader, LinkManager.numbers, LinkManager.modifyWorkspace, Option.map_map,
      Change.run, LinkManager.numbers, Option.map_map]
    rfl
  | restoreSession sessions sessionId =>
    show (m.restoreSession sessions sessionId).numbers = (Change.ofFound
      ((sessions.getD []).find? fun it => it.sessionId = sessionId)).run m.numbers
    rw [LinkManager.restoreSession]
    split
    · rename_i found hfound
      rw [hfound, numbers_restore]
    · rename_i hfound
      rw [hfound]
      rfl
  | restoreBestSession sessions =>
    show (m.restoreBestSession sessions).numbers = (Change.ofFound
      (LinkManager.restoreCandidate (sessions.getD [])
        (m.peers.keys ++ [m.localNodeId]))).run m.numbers
    rw [LinkManager.restoreBestSession]
    split
    · rename_i found hfound
      rw [hfound, numbers_restore]
    · rename_i hfound
      rw [hfound]
      rfl
  | applyLayoutOp kind => exact numbers_applyLayoutOp m kind
  | upsertLocalViewport viewport =>
    show ((m.enable env).applyLayoutOp (.setViewport viewport)).numbers =
      (Change.freshIssue env.newSession).run m.numbers
    rw [numbers_applyLayoutOp, numbers_enable]
    rfl
  | upsertLocalTile tile index =>
    show ((m.enable env).applyLayoutOp (.insertTile tile index)).numbers =
      (Change.freshIssue env.newSession).run m.numbers
    rw [numbers_applyLayoutOp, numbers_enable]
    rfl
  | closeTile id => exact numbers_applyLayoutOp m (.removeTile id)
  | refreshLeader => exact numbers_modifyWorkspace fun _ => rfl
  | updateRemoteTile tile => exact numbers_updateRemoteTile env m tile
  | touchParticipant id => exact numbers_modifyWorkspace fun _ => rfl
  | broadcastTileUpdate tile => exact numbers_broadcast env m _
  | sendHeartbeat =>
    show (m.sendHeartbeat env).numbers = m.numbers
    rw [LinkManager.sendHeartbeat]
    split
    · exact numbers_broadcast env m _
    · rfl
  | checkPeerTimeouts timeoutMillis =>
    show (m.checkPeerTimeouts env timeoutMillis).numbers = m.numbers
    rw [LinkManager.checkPeerTimeouts]
    split <;> rfl
  | ensureLocalParticipant => exact numbers_ensureLocalParticipant env m
  | syncLocalViewports viewports =>
    show (m.syncLocalViewports env viewports).numbers =
      (if m.enabled then Change.fresh env.newSession else .same).run m.numbers
    rw [LinkManager.syncLocalViewports]
    split
    · rw [numbers_modifyWorkspace, numbers_ensureLocalParticipant]
      · rfl
      · intro ws
        split <;> rfl
    · rfl
  | syncLocalTiles tiles =>
    show (m.syncLocalTiles env tiles).numbers =
      (if m.enabled then Change.fresh env.newSession else .same).run m.numbers
    rw [numbers_syncLocalTiles]
    split <;> rfl
  | syncFocusedTile focused =>
    show (m.syncFocusedTile env focused).numbers =
      (if m.enabled then Change.fresh env.newSession else .same).run m.numbers
    rw [LinkManager.syncFocusedTile]
    split
    · rw [numbers_modifyWorkspace, numbers_ensureLocalParticipant]
      · rfl
      · exact fun _ => rfl
    · rfl
  | pair node => cases node <;> rfl
  | disable | leave | unpair | trustNode | sendHello => rfl

theorem step_numbers {m m' : LinkManager} {e : Event} (h : m.step e = some m') :
    m'.numbers = (m.change e).run m.numbers := by
  cases e with
  | received d => exact numbers_receive h
  | called env c => exact Option.some.inj h ▸ numbers_call env m c

/-- An event that fails would not touch the counters. -/
theorem change_of_step_none {m : LinkManager} {e : Event} (h : m.step e = none) :
    m.change e = .same := by
  obtain ⟨d, operationSeq, generation, rfl, hkind⟩ := m.heartbeat_of_step_none h
  rw [LinkManager.change, hkind]
  rfl

/-! ## Runs with their past -/

/-- A manager and the states it has been in. -/
structure Trace where
  now : LinkManager
  past : List LinkManager

def Trace.step (t : Trace) (e : Event) : Option Trace :=
  (t.now.step e).map fun m => ⟨m, t.now :: t.past⟩

/-- In one session the counters have not fallen back from `old` to `new`. -/
def NotBehind (old new : LinkManager) : Prop :=
  ∀ s s', old.currentSession = some s → new.currentSession = some s' →
    s.workspace.sessionId = s'.workspace.sessionId →
    s.workspace.operationSeq ≤ s'.workspace.operationSeq ∧
      s.workspace.generation ≤ s'.workspace.generation

/-- The operation the manager issues itself in a step. -/
def LinkManager.issued (m : LinkManager) : Event → Option LayoutOp
  | .received d =>
      match d.msg.envelope.kind with
      | .tileClosed id => m.currentSession.map fun s => m.nextOp s (.removeTile id)
      | _ => none
  | .called env c =>
      let opened := m.enable env
      match c with
      | .applyLayoutOp kind => m.currentSession.map fun s => m.nextOp s kind
      | .closeTile id => m.currentSession.map fun s => m.nextOp s (.removeTile id)
      | .upsertLocalViewport v => opened.currentSession.map fun s => opened.nextOp s (.setViewport v)
      | .upsertLocalTile tile index =>
          opened.currentSession.map fun s => opened.nextOp s (.insertTile tile index)
      | _ => none

/-- The counters of every earlier state of the session are kept, and the number
of an operation issued here is greater than all of them. -/
def Numbered (t : Trace) (e : Event) : Prop :=
  ∀ m', t.now.step e = some m' →
    (∀ old ∈ t.now :: t.past, NotBehind old m') ∧
    ∀ op, t.now.issued e = some op → ∀ old ∈ t.now :: t.past, ∀ s s',
      old.currentSession = some s → m'.currentSession = some s' →
      s.workspace.sessionId = s'.workspace.sessionId → s.workspace.operationSeq < op.seq

/-- The counters of all states so far. -/
def Trace.seen (t : Trace) : List Numbers := (t.now :: t.past).filterMap LinkManager.numbers

/-- What arrives and what is restored does not go behind what the session has
seen, and the log is ahead of the counter when an operation is issued. -/
def InOrder (t : Trace) (e : Event) : Prop := (t.now.change e).InOrder t.seen t.now.numbers

section Trace

variable {t : Trace} {m' : LinkManager} {e : Event}

theorem numbers_eq_some_iff {m : LinkManager} {n : Numbers} :
    m.numbers = some n ↔ ∃ s, m.currentSession = some s ∧ s.numbers = n := by
  rw [LinkManager.numbers, Option.map_eq_some_iff]

theorem notBehind_iff {old new : LinkManager} :
    NotBehind old new ↔ ∀ o n, old.numbers = some o → new.numbers = some n → o.Follows n := by
  constructor
  · intro h o n ho hn
    obtain ⟨s, hs, rfl⟩ := numbers_eq_some_iff.mp ho
    obtain ⟨s', hs', rfl⟩ := numbers_eq_some_iff.mp hn
    exact h s s' hs hs'
  · intro h s s' hs hs'
    exact h _ _ (numbers_eq_some_iff.mpr ⟨s, hs, rfl⟩) (numbers_eq_some_iff.mpr ⟨s', hs', rfl⟩)

theorem issues_ofFound (found : Option PersistedSession) : (Change.ofFound found).issues = false := by
  cases found <;> rfl

theorem issues_ite (b : Bool) {c c' : Change} (hc : c.issues = false) (hc' : c'.issues = false) :
    (if b then c else c').issues = false := by
  split
  · exact hc
  · exact hc'

/-- The number of the operation a step issues is the counter it ends with. -/
theorem issued_seq (m : LinkManager) (e : Event) :
    (m.issued e).map LayoutOp.seq =
      if (m.change e).issues then ((m.change e).run m.numbers).map Numbers.seq else none := by
  have hop : ∀ (m : LinkManager) (kind : LayoutOpKind),
      (m.currentSession.map fun s => m.nextOp s kind).map LayoutOp.seq =
        (m.numbers.map Numbers.issue).map Numbers.seq := by
    intro m kind
    rw [LinkManager.numbers, Option.map_map, Option.map_map, Option.map_map]
    rfl
  cases e with
  | received d =>
    rw [LinkManager.issued, LinkManager.change]
    cases d.msg.envelope.kind with
    | tileClosed id => exact hop m (.removeTile id)
    | _ => rfl
  | called env c =>
    have hopened : ∀ kind, ((m.enable env).currentSession.map
        fun s => (m.enable env).nextOp s kind).map LayoutOp.seq =
          ((Change.freshIssue env.newSession).run m.numbers).map Numbers.seq := by
      intro kind
      rw [hop, numbers_enable]
      rfl
    have hquiet : ∀ {change : Change}, change.issues = false →
        ∀ {o : Option LayoutOp}, o = none → o.map LayoutOp.seq =
          if change.issues then (change.run m.numbers).map Numbers.seq else none := by
      intro change hchange o ho
      rw [ho, hchange]
      rfl
    rw [LinkManager.change]
    cases c with
    | applyLayoutOp kind => exact hop m kind
    | closeTile id => exact hop m (.removeTile id)
    | upsertLocalViewport v => exact hopened (.setViewport v)
    | upsertLocalTile tile index => exact hopened (.insertTile tile index)
    | restoreSession sessions sessionId =>
      exact hquiet (issues_ofFound _) rfl
    | restoreBestSession sessions =>
      exact hquiet (issues_ofFound _) rfl
    | toggle | syncLocalViewports | syncLocalTiles | syncFocusedTile =>
      exact hquiet (issues_ite _ rfl rfl) rfl
    | _ => rfl

theorem numbered_iff_kept (h : t.now.step e = some m') :
    Numbered t e ↔ (t.now.change e).Kept t.seen t.now.numbers := by
  have hnum := step_numbers h
  have hissued := issued_seq t.now e
  constructor
  · intro hN n hn o ho
    obtain ⟨hbehind, hgreater⟩ := hN m' h
    obtain ⟨old, hold, hoo⟩ := List.mem_filterMap.mp ho
    rw [hn] at hnum hissued
    refine ⟨notBehind_iff.mp (hbehind old hold) o n hoo hnum, fun hissues hsession => ?_⟩
    rw [if_pos hissues, Option.map_some] at hissued
    obtain ⟨op, hop, hseq⟩ := Option.map_eq_some_iff.mp hissued
    obtain ⟨s, hs, rfl⟩ := numbers_eq_some_iff.mp hoo
    obtain ⟨s', hs', rfl⟩ := numbers_eq_some_iff.mp hnum
    rw [← hseq]
    exact hgreater op hop old hold s s' hs hs' hsession
  · intro hK m'' hm''
    obtain rfl : m' = m'' := Option.some.inj (h.symm.trans hm'')
    have hseen : ∀ old ∈ t.now :: t.past, ∀ o, old.numbers = some o → o ∈ t.seen :=
      fun old hold o ho => List.mem_filterMap.mpr ⟨old, hold, ho⟩
    refine ⟨fun old hold => notBehind_iff.mpr fun o n ho hn => ?_, ?_⟩
    · exact (hK n (hnum.symm.trans hn) o (hseen old hold o ho)).1
    · intro op hop old hold s s' hs hs' hsession
      have ho : old.numbers = some s.numbers := numbers_eq_some_iff.mpr ⟨s, hs, rfl⟩
      have hn : m'.numbers = some s'.numbers := numbers_eq_some_iff.mpr ⟨s', hs', rfl⟩
      rw [hop, ← hnum, hn, Option.map_some, Option.map_some] at hissued
      split at hissued
      · rename_i hissues
        rw [Option.some.inj hissued]
        exact (hK _ (hnum.symm.trans hn) _ (hseen old hold _ ho)).2 hissues hsession
      · cases hissued

/-- The present follows the past. -/
def Trace.Ordered (t : Trace) : Prop := ∀ old ∈ t.past, NotBehind old t.now

theorem notBehind_refl (m : LinkManager) : NotBehind m m := by
  intro s s' hs hs' _
  obtain rfl : s = s' := Option.some.inj (hs.symm.trans hs')
  exact ⟨le_refl _, le_refl _⟩

theorem Trace.Ordered.seen (ht : t.Ordered) :
    ∀ n, t.now.numbers = some n → ∀ o ∈ t.seen, o.Follows n := by
  intro n hn o ho
  obtain ⟨old, hold, hoo⟩ := List.mem_filterMap.mp ho
  have hbehind : NotBehind old t.now := by
    rcases List.mem_cons.mp hold with rfl | hpast
    · exact notBehind_refl t.now
    · exact ht old hpast
  exact notBehind_iff.mp hbehind o n hoo hn

theorem numbered_iff_inOrder (ht : t.Ordered) (e : Event) : Numbered t e ↔ InOrder t e := by
  cases h : t.now.step e with
  | none =>
    rw [InOrder, change_of_step_none h, Change.InOrder, iff_true]
    intro m' hm'
    rw [h] at hm'
    cases hm'
  | some m' =>
    rw [numbered_iff_kept h, InOrder]
    refine Change.kept_iff_inOrder ht.seen (fun n hn => ?_) _
    exact List.mem_filterMap.mpr ⟨t.now, List.mem_cons_self, hn⟩

/-- Along a run of the manager from any state, the counters of a session never
fall back and local numbers are new, exactly when every step is in order. -/
theorem run_numbered_iff (m : LinkManager) (es : List Event) :
    StepsMeet Trace.step Numbered ⟨m, []⟩ es ↔ StepsMeet Trace.step InOrder ⟨m, []⟩ es := by
  refine @stepsMeet_iff _ _ _ _ _ Trace.Ordered (fun t e ht => numbered_iff_inOrder ht e) ?_
    _ _ ?_
  · intro t e t' _ hnumbered hstep
    obtain ⟨m', hm', rfl⟩ := Option.map_eq_some_iff.mp hstep
    exact (hnumbered m' hm').1
  · exact fun old hold => absurd hold List.not_mem_nil

end Trace

/-- A session is restored at number 7, and the next local operation is number 1. -/
theorem restored_session_not_numbered :
    let env : Env := ⟨0, 9, 0⟩
    let saved : GlobalWorkspace := { GlobalWorkspace.empty 9 1 "host" "fp" with operationSeq := 7 }
    ¬ StepsMeet Trace.step Numbered ⟨newManager, []⟩
        [.called env (.restoreSession (some [⟨9, [1], saved⟩]) 9),
          .called env (.applyLayoutOp .enterOverview)] := by
  intro env saved hmeet
  obtain ⟨-, hrest⟩ := hmeet
  obtain ⟨hnumbered, -⟩ := hrest _ rfl
  have hbehind := (hnumbered _ rfl).1 _ List.mem_cons_self
  exact absurd (hbehind _ _ rfl rfl rfl).1 (by decide)

end Cidre.Link
