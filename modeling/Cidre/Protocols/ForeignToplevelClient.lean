/-
  Cidre.Protocols.ForeignToplevelClient

  A client of the wlr-foreign-toplevel-management protocol.  Each handle has what
  has been said of it and what was said when it last got `done`.

  The messages on one handle are a run of that handle alone (`Toplevel.apply`);
  what they do to the client is read off it (`along_lift`).
-/

import Cidre.Lib.Run
import Cidre.Protocols.ForeignToplevel

namespace Cidre.Protocols.ForeignToplevel

open Cidre.Run

/-! ## One handle -/

structure ToplevelView where
  title : Option String
  appId : Option String
  states : List ToplevelState
  outputs : List WlOutput
deriving DecidableEq

structure Toplevel where
  pending : ToplevelView
  shown : ToplevelView
deriving DecidableEq

namespace Toplevel

def new : Toplevel := ⟨⟨none, none, [], []⟩, ⟨none, none, [], []⟩⟩

/-- A handle that has been told this, with `done`. -/
def settled (view : ToplevelView) : Toplevel := ⟨view, view⟩

/-- The handle is activated, or will be with the next `done`. -/
def Activated (t : Toplevel) : Prop :=
  ToplevelState.activated ∈ t.pending.states ∨ ToplevelState.activated ∈ t.shown.states

/-- A message on this handle.  An output can be left only when it has been
    entered. -/
def apply (t : Toplevel) : Message → Option Toplevel
  | .title _ title => some { t with pending := { t.pending with title := some title } }
  | .appId _ appId => some { t with pending := { t.pending with appId := some appId } }
  | .state _ states => some { t with pending := { t.pending with states } }
  | .outputEnter _ wlOutput =>
      some { t with pending := { t.pending with outputs := t.pending.outputs ++ [wlOutput] } }
  | .outputLeave _ wlOutput =>
      if wlOutput ∈ t.pending.outputs then
        some { t with pending := { t.pending with outputs := t.pending.outputs.erase wlOutput } }
      else none
  | .done _ => some (settled t.pending)
  | .identifier _ _ => some t
  | _ => none

end Toplevel

/-! ## All handles -/

/-- The open handles of a client. -/
abbrev View := Handle → Option Toplevel

namespace View

def empty : View := fun _ => none

def apply (v : View) : Message → Option View
  | .toplevel handle =>
      if v handle = none then some (Function.update v handle (some .new)) else none
  | .finished _ => some v
  | .closed handle => (v handle).map fun _ => Function.update v handle none
  | .destroy handle => some (Function.update v handle none)
  | .identifier handle identifier => on v handle (.identifier handle identifier)
  | .title handle title => on v handle (.title handle title)
  | .appId handle appId => on v handle (.appId handle appId)
  | .state handle states => on v handle (.state handle states)
  | .outputEnter handle wlOutput => on v handle (.outputEnter handle wlOutput)
  | .outputLeave handle wlOutput => on v handle (.outputLeave handle wlOutput)
  | .done handle => on v handle (.done handle)
where
  on (v : View) (handle : Handle) (message : Message) : Option View :=
    (v handle).bind fun t => (t.apply message).map fun t => Function.update v handle (some t)

def replay (messages : List Message) : Option View := run apply empty messages

/-- At most one open handle is activated. -/
def Single (v : View) : Prop :=
  ∀ h t h' t', v h = some t → v h' = some t' → t.Activated → t'.Activated → h = h'

end View

theorem View.single_empty : View.empty.Single := by
  rintro h t h' t' ⟨⟩

/-! ## Runs of one handle -/

/-- A message on this handle that does not create or close it. -/
def Message.IsOn (h : Handle) : Message → Prop
  | .title h' _ | .appId h' _ | .state h' _ | .outputEnter h' _ | .outputLeave h' _ | .done h'
  | .identifier h' _ => h' = h
  | _ => False

theorem apply_of_isOn {v : View} {h : Handle} {message : Message} (hon : message.IsOn h) :
    v.apply message =
      (v h).bind fun t => (t.apply message).map fun t => Function.update v h (some t) := by
  cases message <;> first | exact hon.elim | (cases hon; rfl)

/-- The handle may be activated: no other one is.  Or else it never is. -/
def View.Allows (v : View) (h : Handle) (t : Toplevel) : Prop :=
  t.Activated → ∀ h' t', h' ≠ h → v h' = some t' → ¬t'.Activated

theorem View.single_update {v : View} (hv : v.Single) {h : Handle} {t : Toplevel}
    (ht : v.Allows h t) : View.Single (Function.update v h (some t)) := by
  intro a ta b tb ha hb hta htb
  by_cases hah : a = h
  · by_cases hbh : b = h
    · rw [hah, hbh]
    · subst hah
      rw [Function.update_self] at ha
      rw [Function.update_of_ne hbh] at hb
      obtain rfl := Option.some.inj ha
      exact absurd htb (ht hta b tb hbh hb)
  · by_cases hbh : b = h
    · subst hbh
      rw [Function.update_self] at hb
      rw [Function.update_of_ne hah] at ha
      obtain rfl := Option.some.inj hb
      exact absurd hta (ht htb a ta hah ha)
    · rw [Function.update_of_ne hah] at ha
      rw [Function.update_of_ne hbh] at hb
      exact hv a ta b tb ha hb hta htb

theorem View.single_remove {v : View} (hv : v.Single) (h : Handle) :
    View.Single (Function.update v h none) := by
  have hsub : ∀ a t, Function.update v h none a = some t → v a = some t := by
    intro a t ha
    by_cases hah : a = h
    · rw [hah, Function.update_self] at ha
      cases ha
    · rwa [Function.update_of_ne hah] at ha
  intro a ta b tb ha hb
  exact hv a ta b tb (hsub a ta ha) (hsub b tb hb)

/-- A run of one handle is a run of the client. -/
theorem along_lift {v : View} {h : Handle} {messages : List Message} {t t' : Toplevel}
    (hv : v.Single) (hon : ∀ message ∈ messages, message.IsOn h)
    (hrun : Along Toplevel.apply (v.Allows h) t messages t') :
    Along View.apply View.Single (Function.update v h (some t)) messages
      (Function.update v h (some t')) := by
  induction messages generalizing t with
  | nil =>
    obtain ⟨ht, rfl⟩ := hrun
    exact along_nil (View.single_update hv ht)
  | cons message messages ih =>
    obtain ⟨ht, t₁, hstep, hrest⟩ := hrun
    refine ⟨View.single_update hv ht, Function.update v h (some t₁), ?_,
      ih (fun message' hm => hon message' (List.mem_cons_of_mem _ hm)) hrest⟩
    rw [apply_of_isOn (hon message List.mem_cons_self), Function.update_self, Option.bind_some,
      hstep, Option.map_some, Function.update_idem]

/-! ## Descriptions -/

section Descriptions

variable {P : Toplevel → Prop} {h : Handle} {t : Toplevel}

theorem along_title (title : Option String) (ht : P t)
    (ht' : ∀ title, P { t with pending := { t.pending with title := some title } }) :
    Along Toplevel.apply P t (title.map (Message.title h)).toList
      { t with pending := { t.pending with title := title.or t.pending.title } } := by
  cases title with
  | none => exact along_nil ht
  | some title => exact along_single ht rfl (ht' title)

theorem along_appId (appId : Option String) (ht : P t)
    (ht' : ∀ appId, P { t with pending := { t.pending with appId := some appId } }) :
    Along Toplevel.apply P t (appId.map (Message.appId h)).toList
      { t with pending := { t.pending with appId := appId.or t.pending.appId } } := by
  cases appId with
  | none => exact along_nil ht
  | some appId => exact along_single ht rfl (ht' appId)

theorem along_outputEnter (wlOutputs : List WlOutput) (t : Toplevel)
    (ht : ∀ outputs, P { t with pending := { t.pending with outputs } }) :
    Along Toplevel.apply P t (wlOutputs.map (Message.outputEnter h))
      { t with pending := { t.pending with outputs := t.pending.outputs ++ wlOutputs } } := by
  induction wlOutputs generalizing t with
  | nil =>
    rw [List.append_nil]
    exact along_nil (ht t.pending.outputs)
  | cons o wlOutputs ih =>
    have hrest := ih { t with pending := { t.pending with outputs := t.pending.outputs ++ [o] } }
      fun outputs => ht outputs
    rw [List.append_assoc] at hrest
    exact ⟨ht t.pending.outputs, _, rfl, hrest⟩

theorem along_outputLeave (wlOutputs : List WlOutput) (t : Toplevel)
    (heq : t.pending.outputs = wlOutputs)
    (ht : ∀ outputs, P { t with pending := { t.pending with outputs } }) :
    Along Toplevel.apply P t (wlOutputs.map (Message.outputLeave h))
      { t with pending := { t.pending with outputs := [] } } := by
  induction wlOutputs generalizing t with
  | nil =>
    have hself : { t with pending := { t.pending with outputs := [] } } = t := by
      rw [← heq]
    rw [hself]
    exact along_nil (ht t.pending.outputs)
  | cons o wlOutputs ih =>
    have hrest := ih { t with pending := { t.pending with outputs := wlOutputs } } rfl
      fun outputs => ht outputs
    refine ⟨ht t.pending.outputs, _, ?_, hrest⟩
    rw [Toplevel.apply, heq, if_pos List.mem_cons_self, List.erase_cons_head]

/-- The messages of a window that has changed take its handle to what is new. -/
theorem along_wlrChanges {bindings : List Binding} {data : ToplevelData} {u : ToplevelView}
    {newTitle newAppId : Option String} {statesChanged outputChanged : Bool}
    {instance_ : Handle × List WlOutput} (houtputs : u.outputs = instance_.2)
    (hP : ∀ t : Toplevel, (t.pending.states = u.states ∨ t.pending.states = data.states) →
      (t.shown.states = u.states ∨ t.shown.states = data.states) → P t)
    (htitle : newTitle.or u.title = data.title) (happId : newAppId.or u.appId = data.appId)
    (hstates : statesChanged = false → u.states = data.states) :
    Along Toplevel.apply P (.settled u)
      (ForeignToplevelManagerState.wlrChanges bindings data newTitle newAppId statesChanged
        outputChanged instance_)
      (.settled ⟨data.title, data.appId, data.states, if outputChanged then
        windowOutputs bindings data.output instance_.1.manager.client else instance_.2⟩) := by
  have h₁ := along_title (P := P) (h := instance_.1) (t := .settled u) newTitle
    (hP _ (Or.inl rfl) (Or.inl rfl)) fun _ => hP _ (Or.inl rfl) (Or.inl rfl)
  have h₂ := along_appId (P := P) (h := instance_.1)
    (t := ⟨{ u with title := newTitle.or u.title }, u⟩) newAppId
    (hP _ (Or.inl rfl) (Or.inl rfl)) fun _ => hP _ (Or.inl rfl) (Or.inl rfl)
  have h₃ : Along Toplevel.apply P
      ⟨{ u with title := newTitle.or u.title, appId := newAppId.or u.appId }, u⟩
      (if statesChanged then [.state instance_.1 data.states] else [])
      ⟨⟨data.title, data.appId, data.states, u.outputs⟩, u⟩ := by
    rw [htitle, happId]
    cases statesChanged with
    | false =>
      rw [← hstates rfl]
      exact along_nil (hP _ (Or.inl rfl) (Or.inl rfl))
    | true =>
      exact along_single (hP _ (Or.inl rfl) (Or.inl rfl)) rfl (hP _ (Or.inr rfl) (Or.inl rfl))
  have h₄ : Along Toplevel.apply P ⟨⟨data.title, data.appId, data.states, u.outputs⟩, u⟩
      (if outputChanged then instance_.2.map (Message.outputLeave instance_.1) ++
        (windowOutputs bindings data.output instance_.1.manager.client).map
          (Message.outputEnter instance_.1) else [])
      ⟨⟨data.title, data.appId, data.states, if outputChanged then
        windowOutputs bindings data.output instance_.1.manager.client else instance_.2⟩, u⟩ := by
    cases outputChanged with
    | false =>
      rw [houtputs]
      exact along_nil (hP _ (Or.inr rfl) (Or.inl rfl))
    | true =>
      have hleave := along_outputLeave (P := P) (h := instance_.1) instance_.2
        ⟨⟨data.title, data.appId, data.states, u.outputs⟩, u⟩ houtputs
        fun _ => hP _ (Or.inr rfl) (Or.inl rfl)
      have henter := along_outputEnter (P := P) (h := instance_.1)
        (windowOutputs bindings data.output instance_.1.manager.client)
        ⟨⟨data.title, data.appId, data.states, []⟩, u⟩ fun _ => hP _ (Or.inr rfl) (Or.inl rfl)
      exact hleave.append henter
  exact (((h₁.append h₂).append h₃).append h₄).append
    (along_single (hP _ (Or.inr rfl) (Or.inl rfl)) rfl (hP _ (Or.inr rfl) (Or.inr rfl)))

end Descriptions

theorem isOn_wlrChanges {bindings : List Binding} {data : ToplevelData}
    {newTitle newAppId : Option String} {statesChanged outputChanged : Bool}
    {instance_ : Handle × List WlOutput} :
    ∀ message ∈ ForeignToplevelManagerState.wlrChanges bindings data newTitle newAppId
      statesChanged outputChanged instance_, message.IsOn instance_.1 := by
  intro message hm
  simp only [ForeignToplevelManagerState.wlrChanges, List.mem_append, Option.mem_toList,
    Option.map_eq_some_iff, List.mem_singleton] at hm
  obtain (((⟨_, -, rfl⟩ | ⟨_, -, rfl⟩) | hm) | hm) | rfl := hm
  · rfl
  · rfl
  · split at hm
    · obtain rfl := List.mem_singleton.mp hm
      rfl
    · exact absurd hm List.not_mem_nil
  · split at hm
    · rcases List.mem_append.mp hm with hm | hm
      · obtain ⟨_, -, rfl⟩ := List.mem_map.mp hm
        rfl
      · obtain ⟨_, -, rfl⟩ := List.mem_map.mp hm
        rfl
    · exact absurd hm List.not_mem_nil
  · rfl

/-- A new handle is described like one that changes from nothing. -/
theorem addWlrInstance_eq (bindings : List Binding) (data : ToplevelData) (h : Handle) :
    data.addWlrInstance bindings h = .toplevel h ::
      ForeignToplevelManagerState.wlrChanges bindings data data.title data.appId true true
        (h, []) := by
  simp [ToplevelData.addWlrInstance, ForeignToplevelManagerState.wlrChanges]

/-! ## The objects of a client -/

/-- An open handle, and what has been said of its window. -/
structure OpenToplevel where
  handle : Handle
  view : ToplevelView

/-- The client has these handles. -/
structure Shows (ts : List OpenToplevel) (v : View) : Prop where
  nodup : (ts.map OpenToplevel.handle).Nodup
  iff : ∀ h t, v h = some t ↔ ∃ o ∈ ts, o.handle = h ∧ .settled o.view = t

theorem shows_empty : Shows [] .empty :=
  ⟨List.nodup_nil, fun h t => by simp [View.empty]⟩

namespace Shows

variable {ts ts' : List OpenToplevel} {o : OpenToplevel} {v : View}

theorem perm (h : Shows ts v) (hperm : ts.Perm ts') : Shows ts' v :=
  ⟨(hperm.map _).nodup h.nodup, by simpa only [hperm.mem_iff] using h.iff⟩

theorem ne_of_cons (h : Shows (o :: ts) v) {o' : OpenToplevel} (ho : o' ∈ ts) :
    o'.handle ≠ o.handle := by
  intro heq
  have hnodup := h.nodup
  rw [List.map_cons, List.nodup_cons] at hnodup
  exact hnodup.1 (heq ▸ List.mem_map_of_mem ho)

theorem eq_some (h : Shows ts v) (ho : o ∈ ts) : v o.handle = some (.settled o.view) :=
  (h.iff _ _).mpr ⟨o, ho, rfl, rfl⟩

theorem eq_none (h : Shows ts v) {handle : Handle} (hne : ∀ o ∈ ts, o.handle ≠ handle) :
    v handle = none := by
  rw [Option.eq_none_iff_forall_ne_some]
  intro t ht
  obtain ⟨o, ho, heq, -⟩ := (h.iff _ _).mp ht
  exact hne o ho heq

/-- One handle is described anew. -/
theorem update (h : Shows ts v) (hfresh : ∀ o' ∈ ts, o'.handle ≠ o.handle) :
    Shows (o :: ts) (Function.update v o.handle (some (.settled o.view))) := by
  refine ⟨?_, fun handle t => ?_⟩
  · rw [List.map_cons, List.nodup_cons]
    refine ⟨fun hmem => ?_, h.nodup⟩
    obtain ⟨o', ho', heq⟩ := List.mem_map.mp hmem
    exact hfresh o' ho' heq
  · by_cases heq : handle = o.handle
    · subst heq
      rw [Function.update_self, Option.some.injEq]
      constructor
      · rintro rfl
        exact ⟨o, List.mem_cons_self, rfl, rfl⟩
      · rintro ⟨o', ho', heq, rfl⟩
        rcases List.mem_cons.mp ho' with rfl | ho'
        · rfl
        · exact absurd heq (hfresh o' ho')
    · rw [Function.update_of_ne heq, h.iff]
      simp only [List.mem_cons, exists_eq_or_imp, Ne.symm heq, false_and, false_or]

theorem remove (h : Shows (o :: ts) v) : Shows ts (Function.update v o.handle none) := by
  have hnodup := h.nodup
  rw [List.map_cons, List.nodup_cons] at hnodup
  refine ⟨hnodup.2, fun handle t => ?_⟩
  by_cases heq : handle = o.handle
  · subst heq
    rw [Function.update_self]
    constructor
    · rintro ⟨⟩
    · rintro ⟨o', ho', heq, -⟩
      exact absurd heq (h.ne_of_cons ho')
  · rw [Function.update_of_ne heq, h.iff]
    simp only [List.mem_cons, exists_eq_or_imp, Ne.symm heq, false_and, false_or]

theorem closed (h : Shows (o :: ts) v) (hv : v.Single) :
    ∃ v', Along View.apply View.Single v [.closed o.handle] v' ∧ Shows ts v' := by
  refine ⟨Function.update v o.handle none, along_single hv ?_ (View.single_remove hv _), h.remove⟩
  rw [View.apply, h.eq_some List.mem_cons_self]
  rfl

/-- The other handles are not activated. -/
theorem quiet (h : Shows (o :: ts) v) (hts : ∀ o' ∈ ts, ToplevelState.activated ∉ o'.view.states)
    (t : Toplevel) : v.Allows o.handle t := by
  intro _ h' t' hne ht'
  obtain ⟨o', ho', rfl, rfl⟩ := (h.iff h' t').mp ht'
  rcases List.mem_cons.mp ho' with rfl | ho'
  · exact absurd rfl hne
  · rintro (hact | hact) <;> exact hts o' ho' hact

/-- A handle may stay as activated as it is. -/
theorem allows_self (h : Shows (o :: ts) v) (hv : v.Single) {t : Toplevel}
    (ht : t.Activated → (Toplevel.settled o.view).Activated) : v.Allows o.handle t :=
  fun hactivated h' t' hne ht' hactivated' =>
    hne (hv h' t' o.handle _ ht' (h.eq_some List.mem_cons_self) hactivated' (ht hactivated))

/-- Messages on one handle. -/
theorem change (h : Shows (o :: ts) v) (hv : v.Single) {messages : List Message}
    {view : ToplevelView} (hon : ∀ message ∈ messages, message.IsOn o.handle)
    (hrun : Along Toplevel.apply (v.Allows o.handle) (.settled o.view) messages (.settled view)) :
    ∃ v', Along View.apply View.Single v messages v' ∧ Shows (⟨o.handle, view⟩ :: ts) v' := by
  have hself : Function.update v o.handle (some (.settled o.view)) = v := by
    rw [← h.eq_some List.mem_cons_self, Function.update_eq_self]
  have hlift := along_lift hv hon hrun
  rw [hself] at hlift
  have hremoved := h.remove.update (o := ⟨o.handle, view⟩) fun o' ho' => h.ne_of_cons ho'
  rw [Function.update_idem] at hremoved
  exact ⟨_, hlift, hremoved⟩

/-- A new handle, and the messages that describe it. -/
theorem create (h : Shows ts v) (hv : v.Single) {handle : Handle}
    (hfresh : ∀ o' ∈ ts, o'.handle ≠ handle) {messages : List Message} {view : ToplevelView}
    (hon : ∀ message ∈ messages, message.IsOn handle)
    (hrun : Along Toplevel.apply (v.Allows handle) .new messages (.settled view)) :
    ∃ v', Along View.apply View.Single v (.toplevel handle :: messages) v' ∧
      Shows (⟨handle, view⟩ :: ts) v' := by
  refine ⟨_, ⟨hv, _, ?_, along_lift hv hon hrun⟩, h.update hfresh⟩
  rw [View.apply, if_pos (h.eq_none hfresh)]

end Shows

end Cidre.Protocols.ForeignToplevel
