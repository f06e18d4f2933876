/-
  Cidre.Link.Trust

  Who is trusted after `trust_node`, `pair` and `forget_node`.

  An entry of the store is a pair of a node and a fingerprint, and `is_trusted`
  asks for the fingerprint of the peer and for its hostname in either place.  The
  calls have one string only and store it as both, so the entry they write lets in
  a peer whose hostname is its fingerprint and nobody else; and they overwrite or
  drop entries of other peers that carry the string.
-/

import Cidre.Link.Session

namespace Cidre.Link

/-! ## peer_list -/

structure LinkPeer where
  nodeId : NodeId
  hostname : String
  addr : Option String
  trusted : Bool
  connected : Bool
  isLeader : Bool
deriving DecidableEq, Repr

namespace LinkManager

/-- Whether `peer_list` reports the peer as trusted. -/
def trusts (m : LinkManager) (peer : LinkPeerState) : Bool :=
  m.trustStore.isTrusted peer.hostname peer.fingerprint

def peerList (m : LinkManager) : List LinkPeer :=
  m.peers.values.map fun peer =>
    { nodeId := peer.nodeId
      hostname := peer.hostname
      addr := peer.addr
      trusted := m.trusts peer
      connected := peer.connected
      isLeader := m.currentSession.any fun it => it.workspace.leaderNodeId = peer.nodeId }

def forgetNode (m : LinkManager) (node : String) : LinkManager := m.unpair node

end LinkManager

/-! ## Entries -/

/-- The entry lets the peer in. -/
def TrustedNode.Grants (it : TrustedNode) (hostname fingerprint : String) : Prop :=
  (it.node = hostname ∨ it.fingerprint = hostname) ∧ it.fingerprint = fingerprint

namespace TrustStore

/-- The entry that `trust` overwrites, and the entries it leaves. -/
def first (store : TrustStore) (node : String) : Option TrustedNode :=
  store.nodes.find? fun it => it.node = node

def rest (store : TrustStore) (node : String) : List TrustedNode :=
  store.nodes.eraseP fun it => it.node = node

variable {store : TrustStore} {node hostname fingerprint : String}

theorem isTrusted_iff :
    store.isTrusted hostname fingerprint = true ↔
      ∃ it ∈ store.nodes, it.Grants hostname fingerprint := by
  simp [isTrusted, TrustedNode.Grants]

theorem mem_updateFirst_iff {α : Type*} {p : α → Bool} {f : α → α} {l : List α} {a : α} :
    a ∈ updateFirst p f l ↔ a ∈ l.eraseP p ∨ ∃ b, l.find? p = some b ∧ a = f b := by
  induction l with
  | nil => simp [updateFirst]
  | cons b l ih =>
    rw [updateFirst]
    by_cases hb : p b = true
    · rw [if_pos hb, List.eraseP_cons_of_pos hb, List.find?_cons_of_pos hb, List.mem_cons]
      constructor
      · rintro (rfl | hmem)
        · exact Or.inr ⟨b, rfl, rfl⟩
        · exact Or.inl hmem
      · rintro (hmem | ⟨c, hc, rfl⟩)
        · exact Or.inr hmem
        · exact Or.inl (by rw [Option.some.inj hc])
    · rw [if_neg hb, List.eraseP_cons_of_neg hb, List.find?_cons_of_neg hb, List.mem_cons,
        List.mem_cons, ih, or_assoc]

theorem mem_nodes_iff (node : String) {it : TrustedNode} :
    it ∈ store.nodes ↔ it ∈ store.rest node ∨ store.first node = some it := by
  have hself := mem_updateFirst_iff (p := fun it : TrustedNode => it.node = node) (f := id)
    (l := store.nodes) (a := it)
  have hid : ∀ l : List TrustedNode, updateFirst (fun it => it.node = node) id l = l := by
    intro l
    induction l with
    | nil => rfl
    | cons b l ih => rw [updateFirst, ih, id, ite_self]
  rw [hid] at hself
  rw [hself, rest, first]
  simp

theorem node_of_first {it : TrustedNode} (h : store.first node = some it) : it.node = node := by
  simpa using List.find?_some h

/-- After `trust`: the entries left alone, and one of the string with itself. -/
theorem mem_trust_iff {it : TrustedNode} :
    it ∈ (store.trust node node).nodes ↔ it ∈ store.rest node ∨ it = ⟨node, node⟩ := by
  rw [trust]
  split
  · rename_i hany
    rw [mem_updateFirst_iff]
    obtain ⟨b, hb⟩ := Option.isSome_iff_exists.mp (List.find?_isSome.mpr (List.any_eq_true.mp hany))
    have hnode : b.node = node := by simpa using List.find?_some hb
    constructor
    · rintro (hmem | ⟨c, hc, rfl⟩)
      · exact Or.inl hmem
      · rw [hb] at hc
        rw [← Option.some.inj hc, hnode]
        exact Or.inr rfl
    · rintro (hmem | rfl)
      · exact Or.inl hmem
      · exact Or.inr ⟨b, hb, by rw [hnode]⟩
  · rename_i hany
    have hrest : store.rest node = store.nodes := by
      rw [rest, List.eraseP_eq_self_iff]
      intro it hit hp
      exact hany (List.any_eq_true.mpr ⟨it, hit, hp⟩)
    rw [hrest, List.mem_append, List.mem_singleton]

theorem mem_forget_iff {it : TrustedNode} :
    it ∈ (store.forget node).nodes ↔ it ∈ store.nodes ∧ it.node ≠ node ∧ it.fingerprint ≠ node := by
  simp [forget]

theorem isTrusted_first_iff (node : String) :
    store.isTrusted hostname fingerprint = true ↔
      (∃ it ∈ store.rest node, it.Grants hostname fingerprint) ∨
        ∃ it, store.first node = some it ∧ it.Grants hostname fingerprint := by
  rw [isTrusted_iff]
  constructor
  · rintro ⟨it, hit, hgrants⟩
    rcases (mem_nodes_iff node).mp hit with hrest | hfirst
    · exact Or.inl ⟨it, hrest, hgrants⟩
    · exact Or.inr ⟨it, hfirst, hgrants⟩
  · rintro (⟨it, hrest, hgrants⟩ | ⟨it, hfirst, hgrants⟩)
    · exact ⟨it, (mem_nodes_iff node).mpr (Or.inl hrest), hgrants⟩
    · exact ⟨it, (mem_nodes_iff node).mpr (Or.inr hfirst), hgrants⟩

theorem isTrusted_trust_iff :
    (store.trust node node).isTrusted hostname fingerprint = true ↔
      (∃ it ∈ store.rest node, it.Grants hostname fingerprint) ∨
        node = hostname ∧ node = fingerprint := by
  rw [isTrusted_iff]
  simp only [mem_trust_iff, or_and_right, exists_or, exists_eq_left, TrustedNode.Grants, or_self]

theorem isTrusted_forget_iff :
    (store.forget node).isTrusted hostname fingerprint = true ↔
      ∃ it ∈ store.nodes, (it.node ≠ node ∧ it.fingerprint ≠ node) ∧
        it.Grants hostname fingerprint := by
  rw [isTrusted_iff]
  simp only [mem_forget_iff, and_assoc]

/-- Nobody of that name is let in after `forget`, nor anybody with that fingerprint. -/
theorem isTrusted_forget (h : hostname = node ∨ fingerprint = node) :
    (store.forget node).isTrusted hostname fingerprint = false := by
  rw [← Bool.not_eq_true, isTrusted_forget_iff]
  rintro ⟨it, -, ⟨hnode, hfp⟩, hgrants⟩
  rcases h with rfl | rfl
  · rcases hgrants.1 with hn | hf
    · exact hnode hn
    · exact hfp hf
  · exact hfp hgrants.2

end TrustStore

/-! ## What the calls have to leave alone -/

/-- The string `s` of the peer `p` is used by the entries of nobody else. -/
structure Unshared (store : TrustStore) (p : LinkPeerState) (s : String) : Prop where
  /-- The peer is named by its fingerprint, or it is let in by another entry. -/
  listed : p.hostname = p.fingerprint ∨ ⟨p.hostname, p.fingerprint⟩ ∈ store.rest s
  /-- What the overwritten entry let in, another entry lets in. -/
  overwritten : ∀ it, store.first s = some it → it.fingerprint ≠ s →
    (s ≠ p.hostname → ⟨s, it.fingerprint⟩ ∈ store.rest s) ∧
      (it.fingerprint ≠ p.hostname → it.fingerprint ≠ p.fingerprint →
        ∃ it' ∈ store.rest s, it'.fingerprint = it.fingerprint)
  /-- What the dropped entries let in, an entry that stays lets in. -/
  dropped : ∀ it ∈ store.nodes,
    (it.fingerprint = s → s ≠ p.fingerprint → it.node = p.hostname) ∧
      (it.node = s → it.fingerprint ≠ s → s = p.hostname ∧
        (it.fingerprint = p.fingerprint ∨
          ∃ it' ∈ store.nodes, it'.node ≠ s ∧ it'.fingerprint = it.fingerprint))

/-- A peer with another hostname and another fingerprint. -/
def Other (p : LinkPeerState) (hostname fingerprint : String) : Prop :=
  hostname ≠ p.hostname ∧ fingerprint ≠ p.fingerprint

section Lifecycle

variable {store : TrustStore} {p : LinkPeerState} {s : String}

theorem trust_grants_iff (hs : s = p.hostname ∨ s = p.fingerprint) :
    (store.trust s s).isTrusted p.hostname p.fingerprint = true ↔
      p.hostname = p.fingerprint ∨ ⟨p.hostname, p.fingerprint⟩ ∈ store.rest s := by
  rw [TrustStore.isTrusted_trust_iff]
  constructor
  · rintro (⟨it, hit, hname, hfp⟩ | ⟨hhost, hfp⟩)
    · rcases hname with hnode | hhost
      · right
        rw [← hnode, ← hfp]
        exact hit
      · exact Or.inl (hhost.symm.trans hfp)
    · exact Or.inl (hhost.symm.trans hfp)
  · rintro (heq | hmem)
    · right
      rcases hs with rfl | rfl
      · exact ⟨rfl, heq⟩
      · exact ⟨heq.symm, rfl⟩
    · exact Or.inl ⟨_, hmem, Or.inl rfl, rfl⟩

/-- `trust` spares the others exactly when what the overwritten entry granted them
    is granted elsewhere. -/
theorem trust_spares_iff (hs : s = p.hostname ∨ s = p.fingerprint) :
    (∀ h f, Other p h f → (store.trust s s).isTrusted h f = store.isTrusted h f) ↔
      ∀ it, store.first s = some it → it.fingerprint ≠ s →
        (s ≠ p.hostname → ⟨s, it.fingerprint⟩ ∈ store.rest s) ∧
          (it.fingerprint ≠ p.hostname → it.fingerprint ≠ p.fingerprint →
            ∃ it' ∈ store.rest s, it'.fingerprint = it.fingerprint) := by
  have hkept : (∀ h f, Other p h f → (store.trust s s).isTrusted h f = store.isTrusted h f) ↔
      ∀ h f, Other p h f → ∀ it, store.first s = some it → it.Grants h f →
        ∃ it' ∈ store.rest s, it'.Grants h f := by
    refine forall_congr' fun h => forall_congr' fun f => forall_congr' fun hother => ?_
    have hself : ¬ (s = h ∧ s = f) := by
      rintro ⟨rfl, rfl⟩
      rcases hs with hs | hs
      · exact hother.1 hs
      · exact hother.2 hs
    rw [Bool.eq_iff_iff, TrustStore.isTrusted_trust_iff, TrustStore.isTrusted_first_iff s]
    constructor
    · intro hiff it hfirst hgrants
      exact (hiff.mpr (Or.inr ⟨it, hfirst, hgrants⟩)).resolve_right hself
    · intro hgranted
      constructor
      · exact fun htrust => Or.inl (htrust.resolve_right hself)
      · rintro (hrest | ⟨it, hfirst, hgrants⟩)
        · exact Or.inl hrest
        · exact Or.inl (hgranted it hfirst hgrants)
  rw [hkept]
  constructor
  · intro hgranted it hfirst hne
    have hnode := TrustStore.node_of_first hfirst
    constructor
    · intro hhost
      have hfp : s = p.fingerprint := hs.resolve_left hhost
      obtain ⟨it', hmem, hname, hfp'⟩ := hgranted s it.fingerprint ⟨hhost, hfp ▸ hne⟩ it hfirst
        ⟨Or.inl hnode, rfl⟩
      have hnode' : it'.node = s := hname.resolve_right fun h => hne (hfp'.symm.trans h)
      have hit' : it' = ⟨s, it.fingerprint⟩ := by rw [← hnode', ← hfp']
      rw [← hit']
      exact hmem
    · intro hhost hfp
      obtain ⟨it', hmem, -, hfp'⟩ := hgranted it.fingerprint it.fingerprint ⟨hhost, hfp⟩ it hfirst
        ⟨Or.inr rfl, rfl⟩
      exact ⟨it', hmem, hfp'⟩
  · rintro hspared h f ⟨hh, hf⟩ it hfirst ⟨hname, rfl⟩
    have hnode := TrustStore.node_of_first hfirst
    have hne : it.fingerprint ≠ s := by
      intro heq
      rcases hs with hs | hs
      · rcases hname with hname | hname
        · exact hh (hname.symm.trans (hnode.trans hs))
        · exact hh (hname.symm.trans (heq.trans hs))
      · exact hf (heq.trans hs)
    obtain ⟨hsame, hother⟩ := hspared it hfirst hne
    rcases hname with rfl | rfl
    · rw [hnode] at hh ⊢
      exact ⟨_, hsame hh, Or.inl rfl, rfl⟩
    · obtain ⟨it', hmem, hfp'⟩ := hother hh hf
      exact ⟨it', hmem, Or.inr hfp', hfp'⟩

/-- `forget` spares the others exactly when what the dropped entries granted them is
    granted by an entry that stays. -/
theorem forget_spares_iff (hs : s = p.hostname ∨ s = p.fingerprint) :
    (∀ h f, Other p h f → (store.forget s).isTrusted h f = store.isTrusted h f) ↔
      ∀ it ∈ store.nodes,
        (it.fingerprint = s → s ≠ p.fingerprint → it.node = p.hostname) ∧
          (it.node = s → it.fingerprint ≠ s → s = p.hostname ∧
            (it.fingerprint = p.fingerprint ∨
              ∃ it' ∈ store.nodes, it'.node ≠ s ∧ it'.fingerprint = it.fingerprint)) := by
  have hkept : (∀ h f, Other p h f → (store.forget s).isTrusted h f = store.isTrusted h f) ↔
      ∀ h f, Other p h f → ∀ it ∈ store.nodes, it.Grants h f →
        ∃ it' ∈ store.nodes, (it'.node ≠ s ∧ it'.fingerprint ≠ s) ∧ it'.Grants h f := by
    refine forall_congr' fun h => forall_congr' fun f => forall_congr' fun hother => ?_
    rw [Bool.eq_iff_iff, TrustStore.isTrusted_forget_iff, TrustStore.isTrusted_iff]
    constructor
    · exact fun hiff it hit hgrants => hiff.mpr ⟨it, hit, hgrants⟩
    · intro hgranted
      constructor
      · rintro ⟨it, hit, -, hgrants⟩
        exact ⟨it, hit, hgrants⟩
      · rintro ⟨it, hit, hgrants⟩
        exact hgranted it hit hgrants
  rw [hkept]
  constructor
  · intro hgranted it hit
    constructor
    · intro hfp hne
      by_contra hnode
      obtain ⟨it', -, ⟨-, hfp'⟩, -, heq⟩ := hgranted it.node s ⟨hnode, hne⟩ it hit ⟨Or.inl rfl, hfp⟩
      exact hfp' heq
    · intro hnode hne
      have hhost : s = p.hostname := by
        by_contra hhost
        have hfp : s = p.fingerprint := hs.resolve_left hhost
        obtain ⟨it', -, ⟨hnode', hfp'⟩, hname, -⟩ := hgranted s it.fingerprint ⟨hhost, hfp ▸ hne⟩
          it hit ⟨Or.inl hnode, rfl⟩
        rcases hname with hname | hname
        · exact hnode' hname
        · exact hfp' hname
      refine ⟨hhost, ?_⟩
      by_cases hfp : it.fingerprint = p.fingerprint
      · exact Or.inl hfp
      · obtain ⟨it', hit', ⟨hnode', -⟩, -, heq⟩ := hgranted it.fingerprint it.fingerprint
          ⟨hhost ▸ hne, hfp⟩ it hit ⟨Or.inr rfl, rfl⟩
        exact Or.inr ⟨it', hit', hnode', heq⟩
  · rintro hspared h f ⟨hh, hf⟩ it hit ⟨hname, rfl⟩
    obtain ⟨hfps, hnodes⟩ := hspared it hit
    have hfp : it.fingerprint ≠ s := by
      intro heq
      have hnode := hfps heq fun hsf => hf (heq.trans hsf)
      rcases hs with hs | hs
      · rcases hname with hname | hname
        · exact hh (hname.symm.trans hnode)
        · exact hh (hname.symm.trans (heq.trans hs))
      · exact hf (heq.trans hs)
    by_cases hnode : it.node = s
    · -- the entry is dropped, and another one stands for it
      obtain ⟨hhost, hother⟩ := hnodes hnode hfp
      obtain ⟨it', hit', hnode', heq⟩ := hother.resolve_left hf
      rcases hname with hname | hname
      · exact absurd (hname.symm.trans (hnode.trans hhost)) hh
      · exact ⟨it', hit', ⟨hnode', heq ▸ hfp⟩, Or.inr (heq.trans hname), heq⟩
    · exact ⟨it, hit, ⟨hnode, hfp⟩, hname, rfl⟩

end Lifecycle

/-! ## The lifecycle of a peer -/

/-- What trusting and forgetting the string `s` should mean for the peer `p`. -/
structure TrustLifecycle (m : LinkManager) (p : LinkPeerState) (s : String) : Prop where
  trusted : (m.trustNode s).trusts p = true ∧ (m.pair (some s)).trusts p = true
  forgotten : (m.forgetNode s).trusts p = false ∧
    ∀ q : LinkPeerState, q.hostname = s → (m.forgetNode s).trusts q = false
  others : ∀ q : LinkPeerState, Other p q.hostname q.fingerprint →
    (m.trustNode s).trusts q = m.trusts q ∧ (m.pair (some s)).trusts q = m.trusts q ∧
      (m.forgetNode s).trusts q = m.trusts q

/-- Trusting and forgetting a peer by its hostname or fingerprint means that, for it
and for the others, exactly when the peer is listed already and the string is in
nobody else's entry. -/
theorem trust_lifecycle_iff (m : LinkManager) (p : LinkPeerState) {s : String}
    (hs : s = p.hostname ∨ s = p.fingerprint) :
    TrustLifecycle m p s ↔ Unshared m.trustStore p s := by
  constructor
  · intro h
    have hothers : ∀ hostname fingerprint, Other p hostname fingerprint →
        (m.trustStore.trust s s).isTrusted hostname fingerprint =
            m.trustStore.isTrusted hostname fingerprint ∧
          (m.trustStore.forget s).isTrusted hostname fingerprint =
            m.trustStore.isTrusted hostname fingerprint := by
      intro hostname fingerprint hother
      obtain ⟨htrust, -, hforget⟩ := h.others ⟨0, hostname, none, fingerprint, false⟩ hother
      exact ⟨htrust, hforget⟩
    exact ⟨(trust_grants_iff hs).mp h.trusted.1,
      (trust_spares_iff hs).mp fun hn fp ho => (hothers hn fp ho).1,
      (forget_spares_iff hs).mp fun hn fp ho => (hothers hn fp ho).2⟩
  · intro h
    have hgrant := (trust_grants_iff hs).mpr h.listed
    have hspares := (trust_spares_iff hs).mpr h.overwritten
    have hkeeps := (forget_spares_iff hs).mpr h.dropped
    refine ⟨⟨hgrant, hgrant⟩, ⟨?_, fun q hq => ?_⟩, fun q hq => ?_⟩
    · exact TrustStore.isTrusted_forget (hs.imp Eq.symm Eq.symm)
    · exact TrustStore.isTrusted_forget (Or.inl hq)
    · exact ⟨hspares _ _ hq, hspares _ _ hq, hkeeps _ _ hq⟩

/-- A peer as it presents itself. -/
def peerNamed (hostname fingerprint : String) : LinkPeerState :=
  ⟨2, hostname, none, fingerprint, true⟩

/-- A peer that calls itself by its fingerprint is trusted and forgotten. -/
theorem trust_lifecycle_same_name : TrustLifecycle newManager (peerNamed "fp" "fp") "fp" := by
  refine (trust_lifecycle_iff newManager (peerNamed "fp" "fp") (Or.inl rfl)).mpr
    ⟨Or.inl rfl, ?_, ?_⟩
  · intro it hfirst
    cases hfirst
  · intro it hit
    cases hit

/-- A peer trusted by its hostname is not trusted. -/
theorem trusted_hostname_not_trusted :
    ¬ ∀ (m : LinkManager) (p : LinkPeerState) (s : String),
      s = p.hostname ∨ s = p.fingerprint → TrustLifecycle m p s := by
  intro h
  have htrusted := (h newManager (peerNamed "alpha" "niri-link:2") "alpha" (Or.inl rfl)).trusted.1
  exact absurd htrusted (by decide)

end Cidre.Link
