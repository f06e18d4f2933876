/-
  Cidre.Utils.Transaction

  Transactions between clients (`utils/transaction.rs`): shared handles, blockers that
  refer to them weakly, notifications, and the timer of the deadline.

  A handle is an entry of the list of live handles, and the allocation it points to is
  found under its number.  The event loop runs one callback at a time.  Everything that
  was sent stays in `sent`, in order.
-/

import Mathlib.Data.List.Count
import Mathlib.Data.List.Perm.Basic
import Cidre.Lib.Run

namespace Cidre.Utils

open Run

variable {Sender Client : Type}

/-! ## One transaction -/

inductive Deadline where
  | notRegistered
  | registered
deriving DecidableEq

/-- The timer of the deadline in the event loop, and whether its removal is on the way. -/
inductive Timer where
  | absent
  | armed
  | removing
deriving DecidableEq

inductive BlockerState where
  | pending
  | released
deriving DecidableEq

/-- What all handles of a transaction share. -/
structure Transaction (Sender Client : Type) where
  /-- `Arc::strong_count` -/
  strong : Nat
  completed : Bool
  notifications : Option (Sender × List Client)
  deadline : Deadline
  timer : Timer

namespace Transaction

def new : Transaction Sender Client := ⟨1, false, none, .notRegistered, .absent⟩

/-- Memory that has not been allocated. -/
def unallocated : Transaction Sender Client := ⟨0, false, none, .notRegistered, .absent⟩

variable (x : Transaction Sender Client)

/-- `Weak::upgrade`, a strong reference more. -/
def upgrade : Option (Transaction Sender Client) :=
  if x.strong = 0 then none else some { x with strong := x.strong + 1 }

/-- A strong reference less. -/
def release : Transaction Sender Client := { x with strong := x.strong - 1 }

def isLast : Bool := x.strong == 1

/-- `Inner::complete`, and what it sends. -/
def complete : Transaction Sender Client × List (Sender × Client) :=
  ({ x with completed := true, notifications := none },
    match x.notifications with
    | none => []
    | some (sender, clients) => clients.map fun client => (sender, client))

def clone : Transaction Sender Client := { x with strong := x.strong + 1 }

/-- `Drop::drop`, and the drop of the reference. -/
def drop : Transaction Sender Client × List (Sender × Client) :=
  if x.isLast then
    let completed := x.complete
    let timer := match completed.1.deadline, completed.1.timer with
      | .registered, .armed => .removing
      | _, timer => timer
    ({ completed.1 with timer }.release, completed.2)
  else
    (x.release, [])

def addNotification (sender : Sender) (client : Client) : Transaction Sender Client :=
  if x.completed then x
  else
    let notifications := x.notifications.getD (sender, [])
    { x with notifications := some (notifications.1, notifications.2 ++ [client]) }

def registerDeadlineTimer : Transaction Sender Client :=
  match x.deadline with
  | .notRegistered => { x with deadline := .registered, timer := .armed }
  | .registered => x

/-- The callback of the timer, which is dropped with it. -/
def deadlineReached : Transaction Sender Client × List (Sender × Client) :=
  match x.upgrade with
  | none => ({ x with timer := .absent }, [])
  | some x => ({ x.complete.1.release with timer := .absent }, x.complete.2)

def blockerState : BlockerState :=
  match x.upgrade with
  | none => .released
  | some x => if x.completed then .released else .pending

/-- The clients that wait for a notification. -/
def waiting : List Client := (x.notifications.map Prod.snd).getD []

end Transaction

/-! ## All transactions -/

structure World (Sender Client : Type) where
  /-- the next number of an allocation -/
  next : Nat
  memory : Nat → Transaction Sender Client
  /-- the transactions of the live handles -/
  handles : List Nat
  blockers : List Nat
  sent : List (Nat × Sender × Client)

inductive Op (Sender Client : Type) where
  | new
  | clone (handle : Nat)
  | drop (handle : Nat)
  | blocker (handle : Nat)
  | addNotification (handle : Nat) (sender : Sender) (client : Client)
  | registerDeadlineTimer (handle : Nat)
  /-- the event loop runs the timer of a transaction -/
  | timer (transaction : Nat)
  /-- the event loop removes a timer that was to be removed -/
  | removeTimer (transaction : Nat)

namespace World

def empty : World Sender Client := ⟨0, fun _ => .unallocated, [], [], []⟩

variable (w : World Sender Client)

def set (t : Nat) (x : Transaction Sender Client) : World Sender Client :=
  { w with memory := Function.update w.memory t x }

def send (t : Nat) (sends : List (Sender × Client)) : World Sender Client :=
  { w with sent := w.sent ++ sends.map fun s => (t, s) }

/-- `none` for what cannot happen: a handle that is not there, a timer that is not
registered. -/
def step : Op Sender Client → Option (World Sender Client)
  | .new =>
      some { w.set w.next .new with next := w.next + 1, handles := w.handles ++ [w.next] }
  | .clone handle => do
      let t ← w.handles[handle]?
      return { w.set t (w.memory t).clone with handles := w.handles ++ [t] }
  | .drop handle => do
      let t ← w.handles[handle]?
      let dropped := (w.memory t).drop
      return { (w.set t dropped.1).send t dropped.2 with handles := w.handles.eraseIdx handle }
  | .blocker handle => do
      let t ← w.handles[handle]?
      return { w with blockers := w.blockers ++ [t] }
  | .addNotification handle sender client => do
      let t ← w.handles[handle]?
      return w.set t ((w.memory t).addNotification sender client)
  | .registerDeadlineTimer handle => do
      let t ← w.handles[handle]?
      return w.set t (w.memory t).registerDeadlineTimer
  | .timer t =>
      if (w.memory t).timer = .absent then none
      else
        let reached := (w.memory t).deadlineReached
        some ((w.set t reached.1).send t reached.2)
  | .removeTimer t =>
      if (w.memory t).timer = .removing then some (w.set t { w.memory t with timer := .absent })
      else none

end World

/-! ## What happened -/

/-- The entries of a log that are about `t`. -/
def entriesOf {β : Type} (t : Nat) (log : List (Nat × β)) : List β :=
  log.filterMap fun entry => if entry.1 = t then some entry.2 else none

@[simp] theorem entriesOf_append {β : Type} (t : Nat) (log log' : List (Nat × β)) :
    entriesOf t (log ++ log') = entriesOf t log ++ entriesOf t log' :=
  List.filterMap_append

theorem entriesOf_self {β : Type} (t : Nat) (entries : List β) :
    entriesOf t (entries.map fun entry => (t, entry)) = entries := by
  simp [entriesOf, List.filterMap_map]

theorem entriesOf_of_ne {β : Type} {t u : Nat} (h : u ≠ t) (entries : List β) :
    entriesOf u (entries.map fun entry => (t, entry)) = [] := by
  simp [entriesOf, h.symm]

/-- A record of the deadlines that were reached and the clients that were added, kept beside
the world. -/
structure Ledger (Client : Type) where
  fired : List Nat
  added : List (Nat × Client)

namespace Ledger

def empty : Ledger Client := ⟨[], []⟩

def record (l : Ledger Client) (w : World Sender Client) : Op Sender Client → Ledger Client
  | .timer t => { l with fired := l.fired ++ [t] }
  | .addNotification handle _ client =>
      match w.handles[handle]? with
      | some t => { l with added := l.added ++ [(t, client)] }
      | none => l
  | _ => l

def addedTo (l : Ledger Client) (t : Nat) : List Client := entriesOf t l.added

end Ledger

/-- The clients that were sent for a transaction. -/
def World.sentFor (w : World Sender Client) (t : Nat) : List Client :=
  (entriesOf t w.sent).map Prod.snd

/-- A step of the world, and the record of it. -/
def watch (s : World Sender Client × Ledger Client) (op : Op Sender Client) :
    Option (World Sender Client × Ledger Client) :=
  (s.1.step op).map fun w => (w, s.2.record s.1 op)

/-! ## One transaction among all -/

/-- What there is of one transaction. -/
structure View (Sender Client : Type) where
  shared : Transaction Sender Client
  /-- how many handles are live -/
  handles : Nat
  /-- the deadline has been reached -/
  fired : Prop
  added : List Client
  sent : List Client

def viewOf (s : World Sender Client × Ledger Client) (t : Nat) : View Sender Client where
  shared := s.1.memory t
  handles := s.1.handles.count t
  fired := t ∈ s.2.fired
  added := s.2.addedTo t
  sent := s.1.sentFor t

namespace View

variable (v : View Sender Client)

/-- The deadline has been reached, or no handle is left. -/
def Over : Prop := v.fired ∨ v.handles = 0

/-- A transaction that has not been made. -/
def unborn : View Sender Client := ⟨.unallocated, 0, False, [], []⟩

def born : View Sender Client := ⟨.new, 1, False, [], []⟩

/-- What the operations do to one transaction. -/
inductive Step : View Sender Client → View Sender Client → Prop where
  | same (v : View Sender Client) : Step v v
  | clone (v : View Sender Client) (h : 0 < v.handles) :
      Step v { v with shared := v.shared.clone, handles := v.handles + 1 }
  | drop (v : View Sender Client) (h : 0 < v.handles) :
      Step v { v with
        shared := v.shared.drop.1
        handles := v.handles - 1
        sent := v.sent ++ v.shared.drop.2.map Prod.snd }
  | add (v : View Sender Client) (h : 0 < v.handles) (sender : Sender) (client : Client) :
      Step v { v with
        shared := v.shared.addNotification sender client
        added := v.added ++ [client] }
  | register (v : View Sender Client) (h : 0 < v.handles) :
      Step v { v with shared := v.shared.registerDeadlineTimer }
  | timer (v : View Sender Client) (h : v.shared.timer ≠ .absent) :
      Step v { v with
        shared := v.shared.deadlineReached.1
        fired := True
        sent := v.sent ++ v.shared.deadlineReached.2.map Prod.snd }
  | removeTimer (v : View Sender Client) (h : v.shared.timer = .removing) :
      Step v { v with shared := { v.shared with timer := .absent } }

/-- The counter counts the handles, completion is the end of the transaction, and until
then those who were added wait and nobody is sent. -/
structure Sound (v : View Sender Client) : Prop where
  strong : v.shared.strong = v.handles
  completed : v.shared.completed = true ↔ v.Over
  waiting : v.shared.waiting = if v.shared.completed then [] else v.added
  unsent : ¬v.Over → v.sent = []

/-- What a step sends: those who were added, in the step in which it ends. -/
def Sends (v v' : View Sender Client) : Prop :=
  (¬v.Over ∧ v'.Over → v'.sent = v.sent ++ v.added) ∧ (v.Over ∨ ¬v'.Over → v'.sent = v.sent)

variable {v v' : View Sender Client}

theorem sends_of_same (hsent : v'.sent = v.sent) (hover : v'.Over ↔ v.Over) : v.Sends v' :=
  ⟨fun h => absurd (hover.mp h.2) h.1, fun _ => hsent⟩

theorem Step.of_unborn (h : Step unborn v) : v = unborn := by
  cases h with
  | same => rfl
  | clone h | drop h | add h | register h => exact absurd h (lt_irrefl 0)
  | timer h => exact absurd rfl h
  | removeTimer h => exact absurd h (by simp [unborn, Transaction.unallocated])

theorem born_sound : (born : View Sender Client).Sound where
  strong := rfl
  completed := by simp [born, Transaction.new, Over]
  waiting := rfl
  unsent _ := rfl

theorem complete_sends (x : Transaction Sender Client) :
    x.complete.2.map Prod.snd = x.waiting := by
  unfold Transaction.complete Transaction.waiting
  cases x.notifications with
  | none => rfl
  | some n =>
    show (n.2.map fun client => (n.1, client)).map Prod.snd = n.2
    rw [List.map_map]
    exact List.map_id n.2

/-- A step that neither ends the transaction nor adds to it. -/
theorem Sound.of_same (h : v.Sound) (hstrong : v'.shared.strong = v'.handles)
    (hcompleted : v'.shared.completed = v.shared.completed) (hover : v'.Over ↔ v.Over)
    (hwaiting : v'.shared.waiting = v.shared.waiting) (hadded : v'.added = v.added)
    (hsent : v'.sent = v.sent) : v'.Sound ∧ v.Sends v' := by
  refine ⟨⟨hstrong, ?_, ?_, ?_⟩, sends_of_same hsent hover⟩
  · rw [hcompleted, hover]
    exact h.completed
  · rw [hcompleted, hwaiting, hadded]
    exact h.waiting
  · rw [hover, hsent]
    exact h.unsent

/-- A step that completes the transaction sends those who wait. -/
theorem Sound.of_complete (h : v.Sound) (hstrong : v'.shared.strong = v'.handles)
    (hcompleted : v'.shared.completed = true) (hover : v'.Over) (hwaiting : v'.shared.waiting = [])
    (hsent : v'.sent = v.sent ++ v.shared.waiting) : v'.Sound ∧ v.Sends v' := by
  refine ⟨⟨hstrong, iff_of_true hcompleted hover, ?_, fun hnot => absurd hover hnot⟩, ?_, ?_⟩
  · rw [if_pos hcompleted, hwaiting]
  · rintro ⟨hpending, -⟩
    rw [hsent, h.waiting, if_neg (fun htrue => hpending (h.completed.mp htrue))]
  · rintro (hdone | hnot)
    · rw [hsent, h.waiting, if_pos (h.completed.mpr hdone), List.append_nil]
    · exact absurd hover hnot

theorem over_iff_fired (h : 0 < v.handles) : v.Over ↔ v.fired :=
  or_iff_left (by omega)

/-- Without a handle there is no strong reference to upgrade to, and the transaction is
over. -/
theorem Sound.upgrade_eq (h : v.Sound) :
    v.shared.upgrade =
      if v.handles = 0 then none else some { v.shared with strong := v.shared.strong + 1 } := by
  rw [Transaction.upgrade, h.strong]

theorem Step.sound_clone (h : v.Sound) (hpos : 0 < v.handles) :
    Sound { v with shared := v.shared.clone, handles := v.handles + 1 } ∧
      v.Sends { v with shared := v.shared.clone, handles := v.handles + 1 } := by
  refine h.of_same ?_ rfl ?_ rfl rfl rfl
  · exact congrArg (· + 1) h.strong
  · rw [over_iff_fired hpos]
    exact over_iff_fired (Nat.succ_pos v.handles)

theorem Step.sound_drop (h : v.Sound) (hpos : 0 < v.handles) :
    let v' := { v with
      shared := v.shared.drop.1
      handles := v.handles - 1
      sent := v.sent ++ v.shared.drop.2.map Prod.snd }
    Sound v' ∧ v.Sends v' := by
  -- the last handle completes what it leaves
  by_cases hlast : v.handles = 1
  · have hdrop : v.shared.isLast = true := by
      rw [Transaction.isLast, h.strong, hlast, beq_self_eq_true]
    refine h.of_complete ?_ ?_ (.inr ?_) ?_ ?_
    · rw [Transaction.drop, if_pos hdrop]
      exact congrArg (· - 1) h.strong
    · rw [Transaction.drop, if_pos hdrop]
      rfl
    · show v.handles - 1 = 0
      omega
    · rw [Transaction.drop, if_pos hdrop]
      rfl
    · rw [Transaction.drop, if_pos hdrop]
      show v.sent ++ v.shared.complete.2.map Prod.snd = _
      rw [complete_sends]
  · have hdrop : ¬v.shared.isLast = true := by
      rw [Transaction.isLast, h.strong, beq_iff_eq]
      exact hlast
    refine h.of_same ?_ ?_ ?_ ?_ rfl ?_
    · rw [Transaction.drop, if_neg hdrop]
      exact congrArg (· - 1) h.strong
    · rw [Transaction.drop, if_neg hdrop]
      rfl
    · rw [over_iff_fired hpos]
      exact or_iff_left (by show v.handles - 1 ≠ 0; omega)
    · rw [Transaction.drop, if_neg hdrop]
      rfl
    · rw [Transaction.drop, if_neg hdrop]
      exact List.append_nil v.sent

theorem Step.sound_add (h : v.Sound) (sender : Sender) (client : Client) :
    let v' := { v with
      shared := v.shared.addNotification sender client
      added := v.added ++ [client] }
    Sound v' ∧ v.Sends v' := by
  refine ⟨?_, sends_of_same rfl Iff.rfl⟩
  cases hcompleted : v.shared.completed with
  | true =>
    -- too late: nothing is added, and nobody waits
    have hsame : v.shared.addNotification sender client = v.shared := if_pos hcompleted
    refine ⟨?_, ?_, ?_, h.unsent⟩
    · show (v.shared.addNotification sender client).strong = v.handles
      rw [hsame]
      exact h.strong
    · show (v.shared.addNotification sender client).completed = true ↔ v.Over
      rw [hsame]
      exact h.completed
    · show (v.shared.addNotification sender client).waiting = _
      rw [hsame, h.waiting, if_pos hcompleted, if_pos hcompleted]
  | false =>
    have hadded : v.shared.addNotification sender client =
        { v.shared with notifications := some ((v.shared.notifications.getD (sender, [])).1,
          (v.shared.notifications.getD (sender, [])).2 ++ [client]) } :=
      if_neg (by simp [hcompleted])
    have hwaiting : v.shared.waiting = v.added := by
      rw [h.waiting, if_neg (by simp [hcompleted])]
    refine ⟨?_, ?_, ?_, h.unsent⟩
    · show (v.shared.addNotification sender client).strong = v.handles
      rw [hadded]
      exact h.strong
    · show (v.shared.addNotification sender client).completed = true ↔ v.Over
      rw [hadded]
      exact h.completed
    · show (v.shared.addNotification sender client).waiting =
        if (v.shared.addNotification sender client).completed = true then [] else v.added ++ [client]
      rw [hadded, ← hwaiting]
      dsimp only
      rw [if_neg (by simp [hcompleted])]
      unfold Transaction.waiting
      cases v.shared.notifications with
      | none => rfl
      | some n => rfl

theorem Step.sound_register (h : v.Sound) :
    let v' := { v with shared := v.shared.registerDeadlineTimer }
    Sound v' ∧ v.Sends v' := by
  have hregister : v.shared.registerDeadlineTimer.strong = v.shared.strong ∧
      v.shared.registerDeadlineTimer.completed = v.shared.completed ∧
      v.shared.registerDeadlineTimer.waiting = v.shared.waiting := by
    unfold Transaction.registerDeadlineTimer
    split <;> exact ⟨rfl, rfl, rfl⟩
  obtain ⟨hstrong, hcompleted, hwaiting⟩ := hregister
  exact h.of_same (hstrong.trans h.strong) hcompleted Iff.rfl hwaiting rfl rfl

theorem Step.sound_timer (h : v.Sound) :
    let v' := { v with
      shared := v.shared.deadlineReached.1
      fired := True
      sent := v.sent ++ v.shared.deadlineReached.2.map Prod.snd }
    Sound v' ∧ v.Sends v' := by
  have hupgrade := h.upgrade_eq
  -- the timer of a transaction that is gone finds nothing to complete
  by_cases hgone : v.handles = 0
  · rw [if_pos hgone] at hupgrade
    have hreached : v.shared.deadlineReached = ({ v.shared with timer := .absent }, []) := by
      rw [Transaction.deadlineReached, hupgrade]
    have hover : v.Over := .inr hgone
    rw [hreached]
    exact h.of_same h.strong rfl (iff_of_true (.inl trivial) hover) rfl rfl
      (List.append_nil v.sent)
  · rw [if_neg hgone] at hupgrade
    refine h.of_complete ?_ ?_ (.inl trivial) ?_ ?_
    · rw [Transaction.deadlineReached, hupgrade]
      exact h.strong
    · rw [Transaction.deadlineReached, hupgrade]
      rfl
    · rw [Transaction.deadlineReached, hupgrade]
      rfl
    · rw [Transaction.deadlineReached, hupgrade]
      dsimp only
      rw [complete_sends]
      rfl

/-- Every operation keeps a transaction sound, and sends what it is to send. -/
theorem Step.sound (hstep : Step v v') (h : v.Sound) : v'.Sound ∧ v.Sends v' := by
  cases hstep with
  | same => exact ⟨h, sends_of_same rfl Iff.rfl⟩
  | clone hpos => exact Step.sound_clone h hpos
  | drop hpos => exact Step.sound_drop h hpos
  | add _ sender client => exact Step.sound_add h sender client
  | register _ => exact Step.sound_register h
  | timer _ => exact Step.sound_timer h
  | removeTimer _ => exact h.of_same h.strong rfl Iff.rfl rfl rfl rfl

/-- A blocker is released when the transaction is over. -/
theorem Sound.blockerState_iff (h : v.Sound) : v.shared.blockerState = .released ↔ v.Over := by
  have hupgrade := h.upgrade_eq
  unfold Transaction.blockerState
  by_cases hgone : v.handles = 0
  · rw [hupgrade, if_pos hgone]
    exact iff_of_true rfl (.inr hgone)
  · rw [hupgrade, if_neg hgone, ← h.completed]
    dsimp only
    cases v.shared.completed <;> simp

end View

/-! ## Steps of the world -/

theorem View.eq_of {v v' : View Sender Client} (hshared : v.shared = v'.shared)
    (hhandles : v.handles = v'.handles) (hfired : v.fired ↔ v'.fired) (hadded : v.added = v'.added)
    (hsent : v.sent = v'.sent) : v = v' := by
  rw [View.mk.injEq]
  exact ⟨hshared, hhandles, propext hfired, hadded, hsent⟩

section Frames

variable (w : World Sender Client) (l : Ledger Client)

theorem set_memory_self (t : Nat) (x : Transaction Sender Client) : (w.set t x).memory t = x := by
  show Function.update w.memory t x t = x
  exact Function.update_self ..

theorem set_memory_of_ne {t u : Nat} (h : u ≠ t) (x : Transaction Sender Client) :
    (w.set t x).memory u = w.memory u := by
  show Function.update w.memory t x u = w.memory u
  exact Function.update_of_ne h ..

theorem send_sentFor_self (t : Nat) (sends : List (Sender × Client)) :
    (w.send t sends).sentFor t = w.sentFor t ++ sends.map Prod.snd := by
  rw [World.sentFor, World.send, entriesOf_append, entriesOf_self, List.map_append]
  rfl

theorem send_sentFor_of_ne {t u : Nat} (h : u ≠ t) (sends : List (Sender × Client)) :
    (w.send t sends).sentFor u = w.sentFor u := by
  rw [World.sentFor, World.send, entriesOf_append, entriesOf_of_ne h, List.append_nil]
  rfl

theorem addedTo_append_self (t : Nat) (client : Client) :
    ({ l with added := l.added ++ [(t, client)] } : Ledger Client).addedTo t =
      l.addedTo t ++ [client] := by
  rw [Ledger.addedTo, entriesOf_append]
  exact congrArg _ (entriesOf_self t [client])

theorem addedTo_append_of_ne {t u : Nat} (h : u ≠ t) (client : Client) :
    ({ l with added := l.added ++ [(t, client)] } : Ledger Client).addedTo u = l.addedTo u := by
  rw [Ledger.addedTo, entriesOf_append]
  exact (congrArg _ (entriesOf_of_ne h [client])).trans (List.append_nil _)

end Frames

/-- The other transactions keep their handles when one is dropped. -/
theorem count_eraseIdx {handles : List Nat} {i t : Nat} (hi : handles[i]? = some t) (u : Nat) :
    handles.count u = (handles.eraseIdx i).count u + if t = u then 1 else 0 := by
  obtain ⟨hlt, rfl⟩ := List.getElem?_eq_some_iff.mp hi
  have hperm : (handles[i] :: handles.eraseIdx i).Perm handles :=
    List.getElem_cons_eraseIdx_perm hlt
  rw [← hperm.count_eq u, List.count_cons]
  simp

variable {w w' : World Sender Client} {l : Ledger Client} {op : Op Sender Client}

/-- A handle is live. -/
theorem count_pos_of_getElem? {handles : List Nat} {i t : Nat} (hi : handles[i]? = some t) :
    0 < handles.count t :=
  List.count_pos_iff.mpr (List.mem_of_getElem? hi)

theorem View.Step.of_eq {v v₁ v' : View Sender Client} (h : v.Step v₁) (heq : v' = v₁) :
    v.Step v' :=
  heq ▸ h

/-- A handle more, or none, of a transaction. -/
theorem count_append_singleton (handles : List Nat) (t u : Nat) :
    (handles ++ [t]).count u = handles.count u + if t = u then 1 else 0 := by
  rw [List.count_append, List.count_singleton]
  simp

/-- An operation is a step of every transaction but one that it makes. -/
theorem step_view (h : w.step op = some w') (l : Ledger Client) (t : Nat)
    (hnew : op = .new → t ≠ w.next) :
    (viewOf (w, l) t).Step (viewOf (w', l.record w op) t) := by
  cases op with
  | new =>
    obtain rfl := Option.some.inj h
    have hne : t ≠ w.next := hnew rfl
    refine .of_eq (.same _) (View.eq_of (set_memory_of_ne w hne _) ?_ Iff.rfl rfl rfl)
    exact (count_append_singleton w.handles w.next t).trans (by rw [if_neg hne.symm]; rfl)
  | clone handle =>
    obtain ⟨u, hu, h⟩ := Option.bind_eq_some_iff.mp h
    obtain rfl := Option.some.inj h
    -- an operation on another transaction is no step of this one
    by_cases htu : t = u
    · subst htu
      refine .of_eq (.clone _ (count_pos_of_getElem? hu))
        (View.eq_of (set_memory_self w t _) ?_ Iff.rfl rfl rfl)
      exact (count_append_singleton w.handles t t).trans (by rw [if_pos rfl]; rfl)
    · refine .of_eq (.same _) (View.eq_of (set_memory_of_ne w htu _) ?_ Iff.rfl rfl rfl)
      exact (count_append_singleton w.handles u t).trans (by rw [if_neg (Ne.symm htu)]; rfl)
  | drop handle =>
    obtain ⟨u, hu, h⟩ := Option.bind_eq_some_iff.mp h
    obtain rfl := Option.some.inj h
    have hcount := count_eraseIdx hu t
    by_cases htu : t = u
    · subst htu
      rw [if_pos rfl] at hcount
      refine .of_eq (.drop _ (count_pos_of_getElem? hu))
        (View.eq_of (set_memory_self w t _) ?_ Iff.rfl rfl (send_sentFor_self _ t _))
      show (w.handles.eraseIdx handle).count t = w.handles.count t - 1
      omega
    · rw [if_neg (Ne.symm htu)] at hcount
      exact .of_eq (.same _) (View.eq_of (set_memory_of_ne w htu _) hcount.symm Iff.rfl rfl
        (send_sentFor_of_ne _ htu _))
  | blocker handle =>
    obtain ⟨u, hu, h⟩ := Option.bind_eq_some_iff.mp h
    obtain rfl := Option.some.inj h
    exact .same _
  | addNotification handle sender client =>
    obtain ⟨u, hu, h⟩ := Option.bind_eq_some_iff.mp h
    obtain rfl := Option.some.inj h
    have hrecord : l.record w (.addNotification handle sender client) =
        { l with added := l.added ++ [(u, client)] } := by
      rw [Ledger.record, hu]
    rw [hrecord]
    by_cases htu : t = u
    · subst htu
      exact .of_eq (.add _ (count_pos_of_getElem? hu) sender client)
        (View.eq_of (set_memory_self w t _) rfl Iff.rfl (addedTo_append_self l t client) rfl)
    · exact .of_eq (.same _)
        (View.eq_of (set_memory_of_ne w htu _) rfl Iff.rfl (addedTo_append_of_ne l htu client) rfl)
  | registerDeadlineTimer handle =>
    obtain ⟨u, hu, h⟩ := Option.bind_eq_some_iff.mp h
    obtain rfl := Option.some.inj h
    by_cases htu : t = u
    · subst htu
      exact .of_eq (.register _ (count_pos_of_getElem? hu))
        (View.eq_of (set_memory_self w t _) rfl Iff.rfl rfl rfl)
    · exact .of_eq (.same _) (View.eq_of (set_memory_of_ne w htu _) rfl Iff.rfl rfl rfl)
  | timer u =>
    rw [World.step] at h
    split at h
    · exact absurd h (by simp)
    rename_i htimer
    obtain rfl := Option.some.inj h
    by_cases htu : t = u
    · subst htu
      refine .of_eq (.timer _ htimer)
        (View.eq_of (set_memory_self w t _) rfl ?_ rfl (send_sentFor_self _ t _))
      exact iff_of_true (List.mem_append_right l.fired (List.mem_singleton_self t)) trivial
    · refine .of_eq (.same _) (View.eq_of (set_memory_of_ne w htu _) rfl ?_ rfl
        (send_sentFor_of_ne _ htu _))
      exact List.mem_append.trans (or_iff_left (by simpa using htu))
  | removeTimer u =>
    rw [World.step] at h
    split at h
    · rename_i htimer
      obtain rfl := Option.some.inj h
      by_cases htu : t = u
      · subst htu
        exact .of_eq (.removeTimer _ htimer)
          (View.eq_of (set_memory_self w t _) rfl Iff.rfl rfl rfl)
      · exact .of_eq (.same _) (View.eq_of (set_memory_of_ne w htu _) rfl Iff.rfl rfl rfl)
    · exact absurd h (by simp)

/-! ## Runs -/

/-- A transaction has ended: its deadline has been reached, or it was made and all its
handles have been dropped. -/
def Ended (s : World Sender Client × Ledger Client) (t : Nat) : Prop :=
  t ∈ s.2.fired ∨ t < s.1.next ∧ t ∉ s.1.handles

/-- What a step from `s` to `s'` sends for a transaction. -/
structure Delivers (s s' : World Sender Client × Ledger Client) (t : Nat) : Prop where
  /-- nobody is sent early -/
  pending : ¬Ended s' t → s'.1.sentFor t = []
  /-- when it ends, everybody who was added is sent, once and in order -/
  atEnd : ¬Ended s t → Ended s' t → s'.1.sentFor t = s.2.addedTo t
  /-- and nobody after that -/
  after : Ended s t → Ended s' t ∧ s'.1.sentFor t = s.1.sentFor t

/-- The invariant of the runs. -/
structure SoundWorld (s : World Sender Client × Ledger Client) : Prop where
  made : ∀ t < s.1.next, (viewOf s t).Sound
  unmade : ∀ t, s.1.next ≤ t → viewOf s t = View.unborn
  blockers_lt : ∀ t ∈ s.1.blockers, t < s.1.next

variable {s s' : World Sender Client × Ledger Client}

theorem over_iff_ended {t : Nat} (ht : t < s.1.next) : (viewOf s t).Over ↔ Ended s t := by
  unfold Ended
  rw [and_iff_right ht, ← List.count_eq_zero]
  rfl

/-- What has not been made has not ended, and nobody was sent for it. -/
theorem SoundWorld.not_ended (h : SoundWorld s) {t : Nat} (ht : s.1.next ≤ t) :
    ¬Ended s t ∧ s.1.sentFor t = [] := by
  have hunborn := h.unmade t ht
  have hfired : ¬(viewOf s t).fired := by
    rw [hunborn]
    exact id
  refine ⟨?_, congrArg View.sent hunborn⟩
  rintro (hmem | ⟨hlt, -⟩)
  · exact hfired hmem
  · omega

/-- A blocker is made from a handle, and only one operation makes a transaction. -/
theorem step_frame (h : w.step op = some w') :
    (∀ t ∈ w'.blockers, t ∈ w.blockers ∨ t ∈ w.handles) ∧ (op ≠ .new → w'.next = w.next) := by
  cases op with
  | new =>
    obtain rfl := Option.some.inj h
    exact ⟨fun t ht => .inl ht, fun hop => absurd rfl hop⟩
  | clone handle | drop handle | addNotification handle sender client
  | registerDeadlineTimer handle =>
    obtain ⟨u, -, h⟩ := Option.bind_eq_some_iff.mp h
    obtain rfl := Option.some.inj h
    exact ⟨fun t ht => .inl ht, fun _ => rfl⟩
  | blocker handle =>
    obtain ⟨u, hu, h⟩ := Option.bind_eq_some_iff.mp h
    obtain rfl := Option.some.inj h
    refine ⟨fun t ht => ?_, fun _ => rfl⟩
    rcases List.mem_append.mp ht with hold | hnew
    · exact .inl hold
    · exact .inr (List.mem_singleton.mp hnew ▸ List.mem_of_getElem? hu)
  | timer u =>
    rw [World.step] at h
    split at h
    · exact absurd h (by simp)
    · obtain rfl := Option.some.inj h
      exact ⟨fun t ht => .inl ht, fun _ => rfl⟩
  | removeTimer u =>
    rw [World.step] at h
    split at h
    · obtain rfl := Option.some.inj h
      exact ⟨fun t ht => .inl ht, fun _ => rfl⟩
    · exact absurd h (by simp)

/-- What has ended stays ended. -/
theorem View.Step.over {v v' : View Sender Client} (h : v.Step v') (hover : v.Over) : v'.Over := by
  cases h with
  | same => exact hover
  | clone hpos => exact .inl ((View.over_iff_fired hpos).mp hover)
  | drop hpos => exact .inl ((View.over_iff_fired hpos).mp hover)
  | add => exact hover
  | register => exact hover
  | timer => exact .inl trivial
  | removeTimer => exact hover

theorem viewOf_new (h : w.step .new = some w') (hunborn : viewOf (w, l) w.next = View.unborn) :
    viewOf (w', l) w.next = View.born ∧ w'.next = w.next + 1 := by
  have hhandles : w.handles.count w.next = 0 := congrArg View.handles hunborn
  have hfired : (w.next ∈ l.fired) = False := congrArg View.fired hunborn
  have hadded : l.addedTo w.next = [] := congrArg View.added hunborn
  have hsent : w.sentFor w.next = [] := congrArg View.sent hunborn
  obtain rfl := Option.some.inj h
  refine ⟨View.eq_of (set_memory_self w w.next _) ?_ (iff_of_eq hfired) hadded hsent, rfl⟩
  refine (count_append_singleton w.handles w.next w.next).trans ?_
  rw [hhandles, if_pos rfl]
  rfl

/-- An operation on a transaction that was made. -/
theorem SoundWorld.made_step (hs : SoundWorld (w, l)) (h : w.step op = some w') {t : Nat}
    (ht : t < w.next) (ht' : t < w'.next) :
    (viewOf (w', l.record w op) t).Sound ∧ Delivers (w, l) (w', l.record w op) t := by
  -- one step of the view says what is sent
  have hstep := step_view h l t fun _ => ht.ne
  have hsound := hs.made t ht
  obtain ⟨hsound', hends, hstays⟩ := hstep.sound hsound
  rw [over_iff_ended ht, over_iff_ended ht'] at hends hstays
  refine ⟨hsound', fun hpending => ?_, fun hpending hended => ?_, fun hended => ⟨?_, ?_⟩⟩
  · exact hsound'.unsent (by rwa [over_iff_ended ht'])
  · have hnone : w.sentFor t = [] := hsound.unsent (by rwa [over_iff_ended ht])
    have hall : (viewOf (w', l.record w op) t).sent = w.sentFor t ++ l.addedTo t :=
      hends ⟨hpending, hended⟩
    rw [hnone, List.nil_append] at hall
    exact hall
  · exact (over_iff_ended ht').mp (hstep.over ((over_iff_ended ht).mpr hended))
  · exact hstays (.inl hended)

/-- A new transaction. -/
theorem SoundWorld.new_step (hs : SoundWorld (w, l)) (h : w.step .new = some w') :
    (viewOf (w', l) w.next).Sound ∧ Delivers (w, l) (w', l) w.next := by
  obtain ⟨hborn, hnext⟩ := viewOf_new h (hs.unmade w.next (le_refl _))
  have hlt : w.next < w'.next := by omega
  have hsound : (viewOf (w', l) w.next).Sound := by
    rw [hborn]
    exact View.born_sound
  have hpending : ¬Ended (w', l) w.next := by
    rw [← over_iff_ended hlt, hborn]
    simp [View.Over, View.born]
  refine ⟨hsound, fun _ => ?_, fun _ hended => absurd hended hpending,
    fun hended => absurd hended (hs.not_ended (le_refl w.next)).1⟩
  exact hsound.unsent fun hover => hpending ((over_iff_ended hlt).mp hover)

/-- What has not been made yet after an operation. -/
theorem SoundWorld.unmade_step (hs : SoundWorld (w, l)) (h : w.step op = some w') {t : Nat}
    (ht : w.next ≤ t) (hnew : op = .new → t ≠ w.next) :
    viewOf (w', l.record w op) t = View.unborn := by
  have hstep := step_view h l t hnew
  rw [hs.unmade t ht] at hstep
  exact hstep.of_unborn

theorem next_le (h : w.step op = some w') : w.next ≤ w'.next := by
  by_cases hop : op = .new
  · subst hop
    obtain rfl := Option.some.inj h
    exact Nat.le_succ w.next
  · exact ((step_frame h).2 hop).ge

/-- A live handle is one of a transaction that was made. -/
theorem SoundWorld.handles_lt (hs : SoundWorld (w, l)) {t : Nat} (ht : t ∈ w.handles) :
    t < w.next := by
  by_contra hle
  have hnone : w.handles.count t = 0 := congrArg View.handles (hs.unmade t (Nat.le_of_not_lt hle))
  exact List.count_eq_zero.mp hnone ht

/-- A transaction after an operation, if it has been made. -/
theorem SoundWorld.sound_step (hs : SoundWorld (w, l)) (h : w.step op = some w') {t : Nat}
    (ht' : t < w'.next) :
    (viewOf (w', l.record w op) t).Sound ∧ Delivers (w, l) (w', l.record w op) t := by
  by_cases ht : t < w.next
  · exact hs.made_step h ht ht'
  · -- only `new` makes it
    have hop : op = .new := by
      by_contra hop
      have hnext := (step_frame h).2 hop
      omega
    subst hop
    have hnext := (viewOf_new h (hs.unmade w.next (le_refl _))).2
    obtain rfl : t = w.next := by omega
    exact hs.new_step h

/-- An operation keeps the invariant, and sends what it is to send for every transaction. -/
theorem SoundWorld.step (hs : SoundWorld (w, l)) (h : w.step op = some w') :
    SoundWorld (w', l.record w op) ∧ ∀ t, Delivers (w, l) (w', l.record w op) t := by
  have hle := next_le h
  have hunmade : ∀ t, w'.next ≤ t → viewOf (w', l.record w op) t = View.unborn := by
    intro t ht
    refine hs.unmade_step h (hle.trans ht) ?_
    rintro rfl
    have hnext := (viewOf_new h (hs.unmade w.next (le_refl _))).2
    omega
  have hs' : SoundWorld (w', l.record w op) := by
    refine ⟨fun t ht => (hs.sound_step h ht).1, hunmade, fun t ht => ?_⟩
    rcases (step_frame h).1 t ht with hold | hhandle
    · exact lt_of_lt_of_le (hs.blockers_lt t hold) hle
    · exact lt_of_lt_of_le (hs.handles_lt hhandle) hle
  refine ⟨hs', fun t => ?_⟩
  by_cases ht : t < w'.next
  · exact (hs.sound_step h ht).2
  · -- what does not exist after the operation did not exist before
    have hbefore := hs.not_ended (hle.trans (Nat.le_of_not_lt ht))
    have hafter := hs'.not_ended (Nat.le_of_not_lt ht)
    exact ⟨fun _ => hafter.2, fun _ hended => absurd hended hafter.1,
      fun hended => absurd hended hbefore.1⟩

theorem soundWorld_empty : SoundWorld ((World.empty, Ledger.empty) :
    World Sender Client × Ledger Client) where
  made t ht := absurd ht (Nat.not_lt_zero t)
  unmade _ _ := View.eq_of rfl rfl (iff_of_false List.not_mem_nil id) rfl rfl
  blockers_lt _ ht := absurd ht List.not_mem_nil

/-- In every run, a blocker is released exactly when its transaction has ended.  Until it
ends nobody is sent, when it ends everybody who was added is sent, once for every time and
in order, and nobody after that. -/
theorem transactions_release {ops : List (Op Sender Client)}
    (hrun : run watch (World.empty, Ledger.empty) ops = some s) :
    (∀ t ∈ s.1.blockers, (s.1.memory t).blockerState = .released ↔ Ended s t) ∧
      ∀ op s', watch s op = some s' → ∀ t, Delivers s s' t := by
  have hsound : SoundWorld s := by
    refine run_invariant (fun s op s' hs hstep => ?_) hrun soundWorld_empty
    obtain ⟨w', hw', rfl⟩ := Option.map_eq_some_iff.mp hstep
    exact (hs.step hw').1
  refine ⟨fun t ht => ?_, fun op s' hstep => ?_⟩
  · have hlt : t < s.1.next := hsound.blockers_lt t ht
    rw [← over_iff_ended hlt]
    exact (hsound.made t hlt).blockerState_iff
  · obtain ⟨w', hw', rfl⟩ := Option.map_eq_some_iff.mp hstep
    exact (hsound.step hw').2

/-- Two windows wait for each other, and the first reaches its deadline. -/
def twoWindows : List (Op Unit Nat) :=
  [.new, .clone 0, .blocker 0, .blocker 1, .registerDeadlineTimer 0, .addNotification 0 () 7,
    .drop 0]

theorem transactions_release_twoWindows :
    ∃ s, run watch (World.empty, Ledger.empty) twoWindows = some s ∧
      (∀ t ∈ s.1.blockers, (s.1.memory t).blockerState = .released ↔ Ended s t) ∧
        ∀ op s', watch s op = some s' → ∀ t, Delivers s s' t :=
  ⟨_, rfl, @transactions_release _ _ _ twoWindows rfl⟩

/-- A client with two windows is sent twice. -/
theorem twoWindows_sent_twice :
    ∃ s s' : World Unit Nat × Ledger Nat,
      run watch (World.empty, Ledger.empty)
        [.new, .addNotification 0 () 7, .addNotification 0 () 7] = some s ∧
      watch s (.drop 0) = some s' ∧ 7 ∈ s.2.addedTo 0 ∧ (s'.1.sentFor 0).count 7 = 2 :=
  ⟨_, _, rfl, rfl, by decide, by decide⟩

end Cidre.Utils
