/-
  Cidre.Ipc.Diffing

  The events of a refresh bring the state to the snapshot.

  The events are computed against the old state and applied one after the other,
  so the proofs follow a state in the middle: some workspaces or windows are done
  and have what the snapshot says, the others have what they had.  Activation and
  focus are shared between entries, and are done for all of them at once.
-/

import Cidre.Ipc.Refresh

namespace Cidre.Ipc

open Cidre.Run

/-! ## Lists of workspaces -/

/-- What the workspaces of a layout satisfy. -/
structure WorkspacesWellFormed (l : List Workspace) : Prop where
  nodup : (l.map Workspace.id).Nodup
  focused_unique : ∀ a ∈ l, ∀ b ∈ l, a.isFocused = true → b.isFocused = true → a.id = b.id
  active_unique : ∀ a ∈ l, ∀ b ∈ l, a.isActive = true → b.isActive = true → a.output = b.output →
    a.id = b.id
  focused_active : ∀ a ∈ l, a.isFocused = true → a.isActive = true
  no_output : ∀ a ∈ l, a.output = none → a.isActive = false
  exists_active : ∀ a ∈ l, a.output ≠ none → ∃ b ∈ l, b.isActive = true ∧ b.output = a.output
  exists_focused : ∀ a ∈ l, a.output ≠ none → ∃ b ∈ l, b.isFocused = true

theorem eq_of_id_eq {l : List Workspace} (hl : (l.map Workspace.id).Nodup) {a b : Workspace}
    (ha : a ∈ l) (hb : b ∈ l) (h : a.id = b.id) : a = b :=
  List.inj_on_of_nodup_map hl ha hb h

/-! ## In the middle of the workspaces -/

namespace WorkspacesState

/-- One of these workspaces is to be focused. -/
def focusDone (target : List Workspace) (activation : List U64) : Bool :=
  target.any fun w => decide (w.id ∈ activation) && w.isFocused

/-- One of these workspaces is to be the active one of the output. -/
def activeDone (target : List Workspace) (activation : List U64) (output : Option String) : Bool :=
  target.any fun w => decide (w.id ∈ activation) && w.isActive && w.output == output

/-- What has become of an entry that was `o` and is to be `t` when the windows,
    the urgency and the activation of these workspaces are done. -/
def midway (target : List Workspace) (windows urgency activation : List U64) (o t : Workspace) :
    Workspace :=
  { t with
    activeWindowId := if t.id ∈ windows then t.activeWindowId else o.activeWindowId
    isUrgent := if t.id ∈ urgency then t.isUrgent else o.isUrgent
    isFocused := if focusDone target activation then t.isFocused else o.isFocused
    isActive := if activeDone target activation t.output then t.isActive else o.isActive }

/-- `o` is the entry of the same workspace, where `t` is. -/
structure SamePlace (o t : Workspace) : Prop where
  id_eq : o.id = t.id
  idx_eq : o.idx = t.idx
  name_eq : o.name = t.name
  output_eq : o.output = t.output

/-- The old entries and the new ones, workspace by workspace. -/
structure Paired (old target : List Workspace) : Prop where
  old_wf : WorkspacesWellFormed old
  target_wf : WorkspacesWellFormed target
  exists_old : ∀ t ∈ target, ∃ o ∈ old, SamePlace o t
  exists_target : ∀ o ∈ old, ∃ t ∈ target, SamePlace o t

/-- The state when the windows, the urgency and the activation of these workspaces
    are done. -/
def Mid (old target : List Workspace) (windows urgency activation : List U64)
    (s : WorkspacesState) : Prop :=
  ∀ k w, s.workspaces.get k = some w ↔ ∃ o ∈ old, ∃ t ∈ target, SamePlace o t ∧ t.id = k ∧
    w = midway target windows urgency activation o t

variable {old target : List Workspace} {windows urgency activation : List U64}
  {s : WorkspacesState}

theorem mid_nil (h : Paired old target) :
    Mid old target [] [] [] ⟨.ofValues Workspace.id old⟩ := by
  have heq : ∀ o t, SamePlace o t → midway target [] [] [] o t = o := by
    rintro ⟨⟩ ⟨⟩ ⟨rfl, rfl, rfl, rfl⟩
    simp [midway, focusDone, activeDone]
  intro k w
  rw [SortedMap.get_ofValues_eq_some_iff h.old_wf.nodup]
  constructor
  · rintro ⟨hw, rfl⟩
    obtain ⟨t, ht, hsame⟩ := h.exists_target w hw
    exact ⟨w, hw, t, ht, hsame, hsame.id_eq.symm, (heq w t hsame).symm⟩
  · rintro ⟨o, ho, t, -, hsame, rfl, rfl⟩
    rw [heq o t hsame]
    exact ⟨ho, hsame.id_eq⟩

/-- The entry of a workspace in the middle. -/
theorem Mid.get (h : Mid old target windows urgency activation s) {o t : Workspace}
    (ho : o ∈ old) (ht : t ∈ target) (hsame : SamePlace o t) :
    s.workspaces.get t.id = some (midway target windows urgency activation o t) :=
  (h t.id _).mpr ⟨o, ho, t, ht, hsame, rfl, rfl⟩

/-- Another state in the middle, if each entry is changed as it has to be. -/
theorem Mid.of_update (h : Mid old target windows urgency activation s) {s' : WorkspacesState}
    {windows' urgency' activation' : List U64} {f : U64 → Workspace → Workspace}
    (hget : ∀ k, s'.workspaces.get k = (s.workspaces.get k).map (f k))
    (hf : ∀ o ∈ old, ∀ t ∈ target, SamePlace o t →
      f t.id (midway target windows urgency activation o t) =
        midway target windows' urgency' activation' o t) :
    Mid old target windows' urgency' activation' s' := by
  intro k w
  rw [hget, Option.map_eq_some_iff]
  constructor
  · rintro ⟨v, hv, rfl⟩
    obtain ⟨o, ho, t, ht, hsame, rfl, rfl⟩ := (h k v).mp hv
    exact ⟨o, ho, t, ht, hsame, rfl, hf o ho t ht hsame⟩
  · rintro ⟨o, ho, t, ht, hsame, rfl, rfl⟩
    exact ⟨_, (h t.id _).mpr ⟨o, ho, t, ht, hsame, rfl, rfl⟩, hf o ho t ht hsame⟩

/-- Nothing has to be done. -/
theorem Mid.of_eq (h : Mid old target windows urgency activation s)
    {windows' urgency' activation' : List U64}
    (heq : ∀ o ∈ old, ∀ t ∈ target, SamePlace o t →
      midway target windows urgency activation o t =
        midway target windows' urgency' activation' o t) :
    Mid old target windows' urgency' activation' s :=
  h.of_update (f := fun _ ws => ws) (fun _ => Option.map_id.symm ▸ rfl) heq

theorem Paired.unique (hp : Paired old target) {o o' t t' : Workspace} (ho : o ∈ old)
    (ho' : o' ∈ old) (ht : t ∈ target) (ht' : t' ∈ target) (hsame : SamePlace o t)
    (hsame' : SamePlace o' t') (heq : t'.id = t.id) : o' = o ∧ t' = t :=
  ⟨eq_of_id_eq hp.old_wf.nodup ho' ho (by rw [hsame'.id_eq, heq, hsame.id_eq]),
    eq_of_id_eq hp.target_wf.nodup ht' ht heq⟩

/-! ## The events of one workspace -/

theorem applyAll_append (s : WorkspacesState) (events events' : List Event) :
    s.applyAll (events ++ events') = (s.applyAll events).bind fun s' => s'.applyAll events' := by
  rw [applyAll, List.foldlM_append]
  rfl

theorem applyAll_single {s s' : WorkspacesState} {event : Event}
    (h : s.apply event = some (.done s')) : s.applyAll [event] = some s' := by
  rw [applyAll, List.foldlM_cons, h]
  rfl

/-- The window that is active on `t` is done. -/
theorem activeWindow_mid (hp : Paired old target)
    (h : Mid old target windows urgency activation s) {o t : Workspace} (ho : o ∈ old)
    (ht : t ∈ target) (hsame : SamePlace o t) :
    ∃ s', s.applyAll (if o.activeWindowId ≠ t.activeWindowId then
        [.workspaceActiveWindowChanged t.id t.activeWindowId] else []) = some s' ∧
      Mid old target (t.id :: windows) urgency activation s' := by
  split
  · have hcontains : s.workspaces.contains t.id = true := by
      rw [SortedMap.contains, h.get ho ht hsame]
      rfl
    refine ⟨_, applyAll_single (by rw [apply, if_pos hcontains]), ?_⟩
    refine h.of_update (f := fun k ws => if k = t.id then
      { ws with activeWindowId := t.activeWindowId } else ws) (fun k => ?_) ?_
    · rw [SortedMap.get_modify]
      by_cases hk : k = t.id <;> simp [hk]
    · intro o' ho' t' ht' hsame'
      by_cases hid : t'.id = t.id
      · obtain ⟨rfl, rfl⟩ := hp.unique ho ho' ht ht' hsame hsame' hid
        simp [midway]
      · simp [midway, hid]
  · next heq =>
    rw [not_not] at heq
    refine ⟨s, rfl, h.of_eq fun o' ho' t' ht' hsame' => ?_⟩
    by_cases hid : t'.id = t.id
    · obtain ⟨rfl, rfl⟩ := hp.unique ho ho' ht ht' hsame hsame' hid
      simp [midway, heq]
    · simp [midway, hid]

/-- The urgency of `t` is done. -/
theorem urgency_mid (hp : Paired old target)
    (h : Mid old target windows urgency activation s) {o t : Workspace} (ho : o ∈ old)
    (ht : t ∈ target) (hsame : SamePlace o t) :
    ∃ s', s.applyAll (if t.isUrgent ≠ o.isUrgent then
        [.workspaceUrgencyChanged t.id t.isUrgent] else []) = some s' ∧
      Mid old target windows (t.id :: urgency) activation s' := by
  split
  · refine ⟨_, applyAll_single rfl, ?_⟩
    refine h.of_update (f := fun _ ws => if ws.id = t.id then
      { ws with isUrgent := t.isUrgent } else ws) (fun k => SortedMap.get_mapValues _ _ k) ?_
    intro o' ho' t' ht' hsame'
    by_cases hid : t'.id = t.id
    · obtain ⟨rfl, rfl⟩ := hp.unique ho ho' ht ht' hsame hsame' hid
      simp [midway]
    · simp [midway, hid]
  · next heq =>
    rw [not_not] at heq
    refine ⟨s, rfl, h.of_eq fun o' ho' t' ht' hsame' => ?_⟩
    by_cases hid : t'.id = t.id
    · obtain ⟨rfl, rfl⟩ := hp.unique ho ho' ht ht' hsame hsame' hid
      simp [midway, heq]
    · simp [midway, hid]

/-- With `t` focused before and after, so are all others. -/
theorem Paired.focus_agrees (hp : Paired old target) {o t o' t' : Workspace} (ho : o ∈ old)
    (ht : t ∈ target) (hsame : SamePlace o t) (ho' : o' ∈ old) (ht' : t' ∈ target)
    (hsame' : SamePlace o' t') (h : o.isFocused = true) (h' : t.isFocused = true) :
    o'.isFocused = t'.isFocused := by
  rw [Bool.eq_iff_iff]
  constructor
  · intro hfocused
    have hid := hp.old_wf.focused_unique o' ho' o ho hfocused h
    rw [(hp.unique ho ho' ht ht' hsame hsame' (by rw [← hsame'.id_eq, hid, hsame.id_eq])).2]
    exact h'
  · intro hfocused
    have hid := hp.target_wf.focused_unique t' ht' t ht hfocused h'
    rw [(hp.unique ho ho' ht ht' hsame hsame' hid).1]
    exact h

/-- With `t` active before and after, so are all others on its output. -/
theorem Paired.active_agrees (hp : Paired old target) {o t o' t' : Workspace} (ho : o ∈ old)
    (ht : t ∈ target) (hsame : SamePlace o t) (ho' : o' ∈ old) (ht' : t' ∈ target)
    (hsame' : SamePlace o' t') (houtput : t'.output = t.output) (h : o.isActive = true)
    (h' : t.isActive = true) : o'.isActive = t'.isActive := by
  rw [Bool.eq_iff_iff]
  constructor
  · intro hactive
    have hid := hp.old_wf.active_unique o' ho' o ho hactive h
      (by rw [hsame'.output_eq, houtput, hsame.output_eq])
    rw [(hp.unique ho ho' ht ht' hsame hsame' (by rw [← hsame'.id_eq, hid, hsame.id_eq])).2]
    exact h'
  · intro hactive
    have hid := hp.target_wf.active_unique t' ht' t ht hactive h' houtput
    rw [(hp.unique ho ho' ht ht' hsame hsame' hid).1]
    exact h

theorem focusDone_cons (hp : Paired old target) {t : Workspace} (ht : t ∈ target) :
    focusDone target (t.id :: activation) = (focusDone target activation || t.isFocused) := by
  rw [Bool.eq_iff_iff]
  simp only [focusDone, Bool.or_eq_true, List.any_eq_true, Bool.and_eq_true, decide_eq_true_eq,
    List.mem_cons]
  constructor
  · rintro ⟨w, hw, hid | hmem, hfocused⟩
    · rw [← eq_of_id_eq hp.target_wf.nodup hw ht hid]
      exact Or.inr hfocused
    · exact Or.inl ⟨w, hw, hmem, hfocused⟩
  · rintro (⟨w, hw, hmem, hfocused⟩ | hfocused)
    · exact ⟨w, hw, Or.inr hmem, hfocused⟩
    · exact ⟨t, ht, Or.inl rfl, hfocused⟩

theorem activeDone_cons (hp : Paired old target) {t : Workspace} (ht : t ∈ target)
    (output : Option String) : activeDone target (t.id :: activation) output =
      (activeDone target activation output || (t.isActive && t.output == output)) := by
  rw [Bool.eq_iff_iff]
  simp only [activeDone, Bool.or_eq_true, List.any_eq_true, Bool.and_eq_true, decide_eq_true_eq,
    List.mem_cons]
  constructor
  · rintro ⟨w, hw, ⟨hid | hmem, hactive⟩, houtput⟩
    · rw [← eq_of_id_eq hp.target_wf.nodup hw ht hid]
      exact Or.inr ⟨hactive, houtput⟩
    · exact Or.inl ⟨w, hw, ⟨hmem, hactive⟩, houtput⟩
  · rintro (⟨w, hw, ⟨hmem, hactive⟩, houtput⟩ | ⟨hactive, houtput⟩)
    · exact ⟨w, hw, ⟨Or.inr hmem, hactive⟩, houtput⟩
    · exact ⟨t, ht, ⟨Or.inl rfl, hactive⟩, houtput⟩

/-- The focus of an entry once `t` is done, when nothing is sent for it. -/
theorem midway_focused (hp : Paired old target) {o t o' t' : Workspace} (ho : o ∈ old)
    (ht : t ∈ target) (hsame : SamePlace o t) (ho' : o' ∈ old) (ht' : t' ∈ target)
    (hsame' : SamePlace o' t') (h : t.isFocused = true → o.isFocused = true) :
    (midway target windows urgency (t.id :: activation) o' t').isFocused =
      (midway target windows urgency activation o' t').isFocused := by
  simp only [midway, focusDone_cons hp ht]
  cases hfocused : t.isFocused with
  | false => rw [Bool.or_false]
  | true =>
    have hagree := hp.focus_agrees ho ht hsame ho' ht' hsame' (h hfocused) hfocused
    rw [Bool.or_true, hagree, ite_self, ite_self]

theorem midway_active (hp : Paired old target) {o t o' t' : Workspace} (ho : o ∈ old)
    (ht : t ∈ target) (hsame : SamePlace o t) (ho' : o' ∈ old) (ht' : t' ∈ target)
    (hsame' : SamePlace o' t') (h : t.isActive = true → o.isActive = true) :
    (midway target windows urgency (t.id :: activation) o' t').isActive =
      (midway target windows urgency activation o' t').isActive := by
  simp only [midway, activeDone_cons hp ht]
  cases hactive : t.isActive with
  | false => rw [Bool.false_and, Bool.or_false]
  | true =>
    by_cases houtput : t'.output = t.output
    · have hagree := hp.active_agrees ho ht hsame ho' ht' hsame' houtput (h hactive) hactive
      rw [hagree, ite_self, ite_self]
    · have hbeq : (t.output == t'.output) = false := by
        simpa using fun heq => houtput heq.symm
      rw [hbeq, Bool.and_false, Bool.or_false]

/-- The other entries of its output once `t` is active. -/
theorem midway_activated (hp : Paired old target) {t t' : Workspace} (ht : t ∈ target)
    (ht' : t' ∈ target) (hactive : t.isActive = true) (o' : Workspace) :
    (midway target windows urgency (t.id :: activation) o' t').isActive =
      if t'.output = t.output then decide (t'.id = t.id)
      else (midway target windows urgency activation o' t').isActive := by
  simp only [midway, activeDone_cons hp ht, hactive, Bool.true_and]
  by_cases houtput : t'.output = t.output
  · have hbeq : (t.output == t'.output) = true := by
      simpa using houtput.symm
    rw [hbeq, Bool.or_true, if_pos rfl, if_pos houtput, Bool.eq_iff_iff, decide_eq_true_eq]
    constructor
    · exact fun h => hp.target_wf.active_unique t' ht' t ht h hactive houtput
    · intro hid
      rw [eq_of_id_eq hp.target_wf.nodup ht' ht hid]
      exact hactive
  · have hbeq : (t.output == t'.output) = false := by
      simpa using fun heq => houtput heq.symm
    rw [hbeq, Bool.or_false, if_neg houtput]

theorem midway_focused_of_focused (hp : Paired old target) {t t' : Workspace} (ht : t ∈ target)
    (ht' : t' ∈ target) (hfocused : t.isFocused = true) (o' : Workspace) :
    (midway target windows urgency (t.id :: activation) o' t').isFocused =
      decide (t'.id = t.id) := by
  simp only [midway, focusDone_cons hp ht, hfocused, Bool.or_true, if_true]
  rw [Bool.eq_iff_iff, decide_eq_true_eq]
  constructor
  · exact fun h => hp.target_wf.focused_unique t' ht' t ht h hfocused
  · intro hid
    rw [eq_of_id_eq hp.target_wf.nodup ht' ht hid]
    exact hfocused

/-- The entries differ in nothing but activation and focus. -/
theorem midway_eq {activation' : List U64} {o t : Workspace} {b b' : Bool}
    (hactive : (midway target windows urgency activation' o t).isActive = b)
    (hfocused : (midway target windows urgency activation' o t).isFocused = b') :
    { midway target windows urgency activation o t with isActive := b, isFocused := b' } =
      midway target windows urgency activation' o t := by
  rw [← hactive, ← hfocused]
  rfl

/-- The activation of `t` is done. -/
theorem activation_mid (hp : Paired old target)
    (h : Mid old target windows urgency activation s) {o t : Workspace} (ho : o ∈ old)
    (ht : t ∈ target) (hsame : SamePlace o t) :
    ∃ s', s.applyAll (if t.isFocused && !o.isFocused then [.workspaceActivated t.id true]
        else if t.isActive && !o.isActive then [.workspaceActivated t.id false] else []) = some s' ∧
      Mid old target windows urgency (t.id :: activation) s' := by
  have happly : ∀ focused, s.apply (.workspaceActivated t.id focused) =
      some (.done (s.activate t.id focused t.output)) := by
    intro focused
    rw [apply, h.get ho ht hsame]
    rfl
  by_cases hfocus : (t.isFocused && !o.isFocused) = true
  · rw [if_pos hfocus]
    rw [Bool.and_eq_true] at hfocus
    have hactive := hp.target_wf.focused_active t ht hfocus.1
    refine ⟨_, applyAll_single (happly true), ?_⟩
    refine h.of_update (f := fun _ ws => { ws with
      isActive := if ws.output = t.output then decide (ws.id = t.id) else ws.isActive
      isFocused := decide (ws.id = t.id) }) (fun k => ?_) ?_
    · rw [activate, SortedMap.get_mapValues]
      refine congrArg₂ _ (funext fun ws => ?_) rfl
      by_cases houtput : ws.output = t.output <;> simp [houtput]
    · intro o' ho' t' ht' hsame'
      refine midway_eq (midway_activated hp ht ht' hactive o') ?_
      rw [midway_focused_of_focused hp ht ht' hfocus.1]
      rfl
  · rw [if_neg hfocus]
    have hfocused : t.isFocused = true → o.isFocused = true := by
      intro htrue
      by_contra hnot
      exact hfocus (by rw [htrue, Bool.eq_false_iff.mpr hnot]; rfl)
    by_cases hchange : (t.isActive && !o.isActive) = true
    · rw [if_pos hchange]
      rw [Bool.and_eq_true] at hchange
      refine ⟨_, applyAll_single (happly false), ?_⟩
      refine h.of_update (f := fun _ ws => { ws with
        isActive := if ws.output = t.output then decide (ws.id = t.id) else ws.isActive })
        (fun k => ?_) ?_
      · rw [activate, SortedMap.get_mapValues]
        refine congrArg₂ _ (funext fun ws => ?_) rfl
        by_cases houtput : ws.output = t.output <;> simp [houtput]
      · intro o' ho' t' ht' hsame'
        exact midway_eq (midway_activated hp ht ht' hchange.1 o')
          (midway_focused hp ho ht hsame ho' ht' hsame' hfocused)
    · rw [if_neg hchange]
      have hactive : t.isActive = true → o.isActive = true := by
        intro htrue
        by_contra hnot
        exact hchange (by rw [htrue, Bool.eq_false_iff.mpr hnot]; rfl)
      refine ⟨s, rfl, h.of_eq fun o' ho' t' ht' hsame' => ?_⟩
      exact @midway_eq _ _ _ activation _ _ _ _ _
        (midway_active hp ho ht hsame ho' ht' hsame' hactive)
        (midway_focused hp ho ht hsame ho' ht' hsame' hfocused)

/-- All the events of one workspace. -/
theorem workspaceEvents_mid (hp : Paired old target) {done : List U64}
    (h : Mid old target done done done s) {o : Workspace} (ho : o ∈ old) {focused : Option U64}
    {at_ : Located} (ht : makeIpcWorkspace focused at_ ∈ target)
    (hsame : SamePlace o (makeIpcWorkspace focused at_)) :
    ∃ s', s.applyAll (workspaceEvents o focused at_) = some s' ∧
      Mid old target (at_.workspace.id :: done) (at_.workspace.id :: done)
        (at_.workspace.id :: done) s' := by
  obtain ⟨s₁, hs₁, h₁⟩ := activeWindow_mid hp h ho ht hsame
  obtain ⟨s₂, hs₂, h₂⟩ := urgency_mid hp h₁ ho ht hsame
  obtain ⟨s₃, hs₃, h₃⟩ := activation_mid hp h₂ ho ht hsame
  refine ⟨s₃, ?_, h₃⟩
  rw [workspaceEvents, applyAll_append, applyAll_append]
  refine Option.bind_eq_some_iff.mpr ⟨s₂, Option.bind_eq_some_iff.mpr ⟨s₁, hs₁, hs₂⟩, hs₃⟩

/-! ## The events of all workspaces -/

/-- The loop: every workspace was there, in the same place. -/
theorem changes_mid (hp : Paired old target) {focused : Option U64} {rest : List Located}
    (hrest : ∀ at_ ∈ rest, makeIpcWorkspace focused at_ ∈ target) {events : List Event}
    (hchanges : changes ⟨.ofValues Workspace.id old⟩ focused rest = some events)
    {done : List U64} (h : Mid old target done done done s) :
    ∃ s' done', s.applyAll events = some s' ∧ Mid old target done' done' done' s' ∧
      (∀ id ∈ done, id ∈ done') ∧ ∀ at_ ∈ rest, at_.workspace.id ∈ done' := by
  induction rest generalizing events done s with
  | nil =>
    obtain rfl := Option.some.inj hchanges
    exact ⟨s, done, rfl, h, fun _ hid => hid, by simp⟩
  | cons at_ rest ih =>
    rw [changes] at hchanges
    split at hchanges
    · cases hchanges
    · next o ho =>
      obtain ⟨homem, hoid⟩ := (SortedMap.get_ofValues_eq_some_iff hp.old_wf.nodup).mp ho
      split at hchanges
      · cases hchanges
      · next hplace =>
        simp only [not_or, not_not] at hplace
        obtain ⟨events', hevents', rfl⟩ := Option.map_eq_some_iff.mp hchanges
        have hsame : SamePlace o (makeIpcWorkspace focused at_) :=
          ⟨hoid, hplace.1, hplace.2.1, hplace.2.2⟩
        obtain ⟨s₁, hs₁, h₁⟩ :=
          workspaceEvents_mid hp h homem (hrest at_ List.mem_cons_self) hsame
        obtain ⟨s₂, done', hs₂, h₂, hmono, hdone⟩ :=
          ih (fun a ha => hrest a (List.mem_cons_of_mem _ ha)) hevents' h₁
        refine ⟨s₂, done', ?_, h₂, fun id hid => hmono id (List.mem_cons_of_mem _ hid), ?_⟩
        · rw [applyAll_append]
          exact Option.bind_eq_some_iff.mpr ⟨s₁, hs₁, hs₂⟩
        · intro a ha
          rcases List.mem_cons.mp ha with rfl | ha
          · exact hmono _ List.mem_cons_self
          · exact hdone a ha

/-- Every workspace of the loop has its old entry. -/
theorem changes_eq_some {focused : Option U64} {rest : List Located} {events : List Event}
    (h : s.changes focused rest = some events) : ∀ at_ ∈ rest, ∃ o,
      s.workspaces.get at_.workspace.id = some o ∧ o.idx = at_.ipcIdx ∧
        o.name = at_.workspace.name ∧ o.output = at_.outputName := by
  induction rest generalizing events with
  | nil => simp
  | cons at_ rest ih =>
    rw [changes] at h
    split at h
    · cases h
    · next o ho =>
      split at h
      · cases h
      · next hplace =>
        simp only [not_or, not_not] at hplace
        obtain ⟨events', hevents', -⟩ := Option.map_eq_some_iff.mp h
        intro a ha
        rcases List.mem_cons.mp ha with rfl | ha
        · exact ⟨o, ho, hplace⟩
        · exact ih hevents' a ha

/-- With everything done, the state is the new one. -/
theorem mid_all (hp : Paired old target) {done : List U64}
    (h : Mid old target done done done s) (hdone : ∀ t ∈ target, t.id ∈ done) :
    s = ⟨.ofValues Workspace.id target⟩ := by
  have heq : ∀ o ∈ old, ∀ t ∈ target, SamePlace o t → midway target done done done o t = t := by
    intro o ho t ht hsame
    have hactive : (if activeDone target done t.output then t.isActive else o.isActive) =
        t.isActive := by
      cases houtput : t.output with
      | none =>
        rw [hp.target_wf.no_output t ht houtput,
          hp.old_wf.no_output o ho (hsame.output_eq.trans houtput), ite_self]
      | some name =>
        obtain ⟨w, hw, hwactive, hwoutput⟩ := hp.target_wf.exists_active t ht (by simp [houtput])
        rw [if_pos]
        exact List.any_eq_true.mpr ⟨w, hw, by simp [hdone w hw, hwactive, hwoutput, houtput]⟩
    have hfocused : (if focusDone target done then t.isFocused else o.isFocused) =
        t.isFocused := by
      cases houtput : t.output with
      | none =>
        have hoff : ∀ l, WorkspacesWellFormed l → ∀ a ∈ l, a.output = none →
            a.isFocused = false := by
          intro l hl a ha hnone
          rw [← Bool.not_eq_true]
          intro hfocused
          have hactive := hl.focused_active a ha hfocused
          rw [hl.no_output a ha hnone] at hactive
          cases hactive
        rw [hoff _ hp.target_wf t ht houtput,
          hoff _ hp.old_wf o ho (hsame.output_eq.trans houtput), ite_self]
      | some name =>
        obtain ⟨w, hw, hwfocused⟩ := hp.target_wf.exists_focused t ht (by simp [houtput])
        rw [if_pos]
        exact List.any_eq_true.mpr ⟨w, hw, by simp [hdone w hw, hwfocused]⟩
    simp only [midway, if_pos (hdone t ht), hactive, hfocused]
  have hmap : s.workspaces = .ofValues Workspace.id target := by
    refine SortedMap.ext_get fun k => Option.ext fun w => ?_
    rw [h k w, SortedMap.get_ofValues_eq_some_iff hp.target_wf.nodup]
    constructor
    · rintro ⟨o, ho, t, ht, hsame, rfl, rfl⟩
      rw [heq o ho t ht hsame]
      exact ⟨ht, rfl⟩
    · rintro ⟨hw, rfl⟩
      obtain ⟨o, ho, hsame⟩ := hp.exists_old w hw
      exact ⟨o, ho, w, hw, hsame, rfl, (heq o ho w hw hsame).symm⟩
  rw [← hmap]

theorem refresh_applyAll {layout : Layout} (hold : WorkspacesWellFormed old)
    (htarget : WorkspacesWellFormed layout.ipcWorkspaces) :
    applyAll ⟨.ofValues Workspace.id old⟩ (refresh ⟨.ofValues Workspace.id old⟩ layout) =
      some ⟨.ofValues Workspace.id layout.ipcWorkspaces⟩ := by
  rw [refresh]
  have hall : applyAll ⟨.ofValues Workspace.id old⟩ [.workspacesChanged layout.ipcWorkspaces] =
      some ⟨.ofValues Workspace.id layout.ipcWorkspaces⟩ := applyAll_single rfl
  simp only
  split
  · next events hevents =>
    split
    · exact hall
    · next hremoved =>
      have hin : ∀ at_ ∈ layout.workspaces, makeIpcWorkspace
          (layout.activeWorkspace.map LayoutWorkspace.id) at_ ∈ layout.ipcWorkspaces :=
        fun at_ ha => List.mem_map_of_mem ha
      have hfound := changes_eq_some hevents
      have hp : Paired old layout.ipcWorkspaces := by
        refine ⟨hold, htarget, ?_, ?_⟩
        · intro t ht
          obtain ⟨at_, ha, rfl⟩ := List.mem_map.mp ht
          obtain ⟨o, ho, hidx, hname, houtput⟩ := hfound at_ ha
          obtain ⟨homem, hoid⟩ := (SortedMap.get_ofValues_eq_some_iff hold.nodup).mp ho
          exact ⟨o, homem, hoid, hidx, hname, houtput⟩
        · intro o ho
          have hget : (SortedMap.ofValues Workspace.id old).get o.id = some o :=
            (SortedMap.get_ofValues_eq_some_iff hold.nodup).mpr ⟨ho, rfl⟩
          have hkey : o.id ∈ (SortedMap.ofValues Workspace.id old).keys := by
            rw [SortedMap.mem_keys_iff, hget]
            exact Option.some_ne_none o
          have hseen : o.id ∈ layout.workspaces.map fun at_ => at_.workspace.id := by
            by_contra hnot
            exact hremoved (List.any_eq_true.mpr ⟨o.id, hkey, by simpa using hnot⟩)
          obtain ⟨at_, ha, hid⟩ := List.mem_map.mp hseen
          obtain ⟨o', ho', hidx, hname, houtput⟩ := hfound at_ ha
          obtain ⟨homem, hoid⟩ := (SortedMap.get_ofValues_eq_some_iff hold.nodup).mp ho'
          obtain rfl := eq_of_id_eq hold.nodup homem ho (hoid.trans hid)
          exact ⟨_, hin at_ ha, hoid, hidx, hname, houtput⟩
      obtain ⟨s', done, hs', hmid, -, hdone⟩ := changes_mid hp hin hevents (mid_nil hp)
      rw [hs', mid_all hp hmid]
      intro t ht
      obtain ⟨at_, ha, rfl⟩ := List.mem_map.mp ht
      exact hdone at_ ha
  · exact hall

end WorkspacesState

/-! ## Layouts -/

namespace Layout

/-- Ids and output names are distinct, and at most one window is focused. -/
structure Valid (layout : Layout) : Prop where
  workspaces_nodup : (layout.workspaces.map fun at_ => at_.workspace.id).Nodup
  windows_nodup : (layout.windows.map fun e => e.1.id).Nodup
  focused_unique : ∀ e ∈ layout.windows, ∀ e' ∈ layout.windows, e.1.isFocused = true →
    e'.1.isFocused = true → e.1.id = e'.1.id
  outputs_nodup : ∀ monitors active, layout.monitorSet = .normal monitors active →
    (monitors.map LayoutMonitor.outputName).Nodup

theorem mem_locate {monitor : Option LayoutMonitor} {workspaces : List LayoutWorkspace}
    {at_ : Located} : at_ ∈ locate monitor workspaces ↔
      at_.monitor = monitor ∧ workspaces[at_.idx]? = some at_.workspace := by
  obtain ⟨monitor', idx, workspace⟩ := at_
  simp only [locate, List.mem_mapIdx, Located.mk.injEq, List.getElem?_eq_some_iff]
  constructor
  · rintro ⟨i, hi, rfl, rfl, rfl⟩
    exact ⟨rfl, hi, rfl⟩
  · rintro ⟨rfl, hi, rfl⟩
    exact ⟨idx, hi, rfl, rfl, rfl⟩

/-- The active workspace of a monitor, where it is. -/
def activeLocated (mon : LayoutMonitor) : Located :=
  ⟨some mon, mon.activeWorkspaceIdx, mon.activeWorkspace⟩

theorem mem_workspaces_normal {layout : Layout} {monitors : List LayoutMonitor}
    {active : Fin monitors.length} (hset : layout.monitorSet = .normal monitors active)
    {at_ : Located} : at_ ∈ layout.workspaces ↔ ∃ mon ∈ monitors, at_.monitor = some mon ∧
      mon.workspaces[at_.idx]? = some at_.workspace := by
  simp only [workspaces, hset, List.mem_flatMap, mem_locate]

theorem activeLocated_mem {layout : Layout} {monitors : List LayoutMonitor}
    {active : Fin monitors.length} (hset : layout.monitorSet = .normal monitors active)
    {mon : LayoutMonitor} (hmon : mon ∈ monitors) : activeLocated mon ∈ layout.workspaces :=
  (mem_workspaces_normal hset).mpr ⟨mon, hmon, rfl, List.getElem?_eq_getElem mon.active_lt⟩

theorem activeLocated_isActive (mon : LayoutMonitor) : (activeLocated mon).isActive = true := by
  simp [activeLocated, Located.isActive]

theorem ipcWorkspaces_wellFormed {layout : Layout} (h : layout.Valid) :
    WorkspacesWellFormed layout.ipcWorkspaces := by
  have hmem : ∀ a, a ∈ layout.ipcWorkspaces ↔ ∃ at_ ∈ layout.workspaces,
      makeIpcWorkspace (layout.activeWorkspace.map LayoutWorkspace.id) at_ = a :=
    fun a => List.mem_map
  have hnodup : (layout.ipcWorkspaces.map Workspace.id).Nodup := by
    rw [ipcWorkspaces, List.map_map]
    exact h.workspaces_nodup
  have hfocused : ∀ a ∈ layout.ipcWorkspaces, ∀ b ∈ layout.ipcWorkspaces, a.isFocused = true →
      b.isFocused = true → a.id = b.id := by
    simp only [hmem]
    rintro _ ⟨at_, -, rfl⟩ _ ⟨at', -, rfl⟩ hfocus hfocus'
    exact Option.some.inj ((beq_iff_eq.mp hfocus).trans (beq_iff_eq.mp hfocus').symm)
  have hno : ∀ a ∈ layout.ipcWorkspaces, a.output = none → a.isActive = false := by
    simp only [hmem]
    rintro _ ⟨at_, -, rfl⟩ hnone
    have hmonitor : at_.monitor = none := Option.map_eq_none_iff.mp hnone
    simp [makeIpcWorkspace, Located.isActive, hmonitor]
  cases hset : layout.monitorSet with
  | normal monitors active =>
    have hfocus : layout.activeWorkspace = some (monitors.get active).activeWorkspace := by
      simp only [activeWorkspace, hset]
    refine ⟨hnodup, hfocused, ?_, ?_, hno, ?_, ?_⟩
    · simp only [hmem]
      rintro _ ⟨at_, hat, rfl⟩ _ ⟨at', hat', rfl⟩ hactive hactive' houtput
      obtain ⟨mon, hmon, heq, hget⟩ := (mem_workspaces_normal hset).mp hat
      obtain ⟨mon', hmon', heq', hget'⟩ := (mem_workspaces_normal hset).mp hat'
      simp only [makeIpcWorkspace, Located.outputName, heq, heq', Option.map_some,
        Option.some.injEq] at houtput
      obtain rfl := List.inj_on_of_nodup_map (h.outputs_nodup _ _ hset) hmon hmon' houtput
      simp only [makeIpcWorkspace, Located.isActive, heq, heq', Option.any_some,
        beq_iff_eq] at hactive hactive'
      rw [← hactive] at hget
      rw [← hactive'] at hget'
      exact congrArg LayoutWorkspace.id (Option.some.inj (hget.symm.trans hget'))
    · simp only [hmem]
      rintro _ ⟨at_, hat, rfl⟩ hfoc
      have hid : at_.workspace.id = (activeLocated (monitors.get active)).workspace.id := by
        rw [hfocus] at hfoc
        exact Option.some.inj (beq_iff_eq.mp hfoc)
      have hactive := activeLocated_mem hset (List.get_mem monitors active)
      rw [List.inj_on_of_nodup_map h.workspaces_nodup hat hactive hid]
      exact activeLocated_isActive _
    · simp only [hmem]
      rintro _ ⟨at_, hat, rfl⟩ -
      obtain ⟨mon, hmon, heq, -⟩ := (mem_workspaces_normal hset).mp hat
      refine ⟨_, ⟨activeLocated mon, activeLocated_mem hset hmon, rfl⟩,
        activeLocated_isActive mon, ?_⟩
      simp [makeIpcWorkspace, Located.outputName, heq, activeLocated]
    · simp only [hmem]
      rintro _ ⟨at_, hat, rfl⟩ -
      refine ⟨_, ⟨activeLocated (monitors.get active),
        activeLocated_mem hset (List.get_mem monitors active), rfl⟩, ?_⟩
      simp [makeIpcWorkspace, hfocus, activeLocated]
  | noOutputs workspaces =>
    have hnone : ∀ a ∈ layout.ipcWorkspaces, a.output = none := by
      simp only [hmem, Layout.workspaces, hset, mem_locate]
      rintro _ ⟨at_, ⟨hmonitor, -⟩, rfl⟩
      simp [makeIpcWorkspace, Located.outputName, hmonitor]
    have hunfocused : ∀ a ∈ layout.ipcWorkspaces, a.isFocused = false := by
      simp only [hmem, activeWorkspace, hset]
      rintro _ ⟨at_, -, rfl⟩
      rfl
    refine ⟨hnodup, hfocused, ?_, ?_, hno, ?_, ?_⟩
    · intro a ha b _ hactive
      rw [hno a ha (hnone a ha)] at hactive
      cases hactive
    · intro a ha hfoc
      rw [hunfocused a ha] at hfoc
      cases hfoc
    · exact fun a ha hsome => absurd (hnone a ha) hsome
    · exact fun a ha hsome => absurd (hnone a ha) hsome

end Layout

end Cidre.Ipc
