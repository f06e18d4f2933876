/-
  Cidre.Protocols.Display

  What the protocol implementations (`src/protocols/`) use of the Wayland
  server: clients and the objects they have, the `wl_output`s a client has bound
  for an output, and hash maps, whose order of iteration is not the program's to
  choose.
-/

import Cidre.Lib.Machine
import Mathlib.Data.List.Nodup

namespace Cidre.Protocols

structure Client where
  serial : Nat
deriving DecidableEq, Repr

/-- An output; a display that is plugged in again is another output. -/
structure Output where
  serial : Nat
deriving DecidableEq, Repr

structure WlOutput where
  serial : Nat
deriving DecidableEq, Repr

/-- A global that a client has bound. -/
structure Manager where
  client : Client
  serial : Nat
deriving DecidableEq, Repr

/-- An object created for a manager, its `data()`. -/
structure Handle where
  manager : Manager
  serial : Nat
deriving DecidableEq, Repr

/-- The order hash maps and hash sets are iterated over in. -/
structure HashOrder where
  list : {α : Type} → List α → List α
  perm : ∀ {α : Type} (l : List α), (list l).Perm l

def HashOrder.stored : HashOrder := ⟨id, fun l => List.Perm.refl l⟩

@[simp] theorem HashOrder.mem_list (order : HashOrder) {α : Type} {l : List α} {a : α} :
    a ∈ order.list l ↔ a ∈ l := (order.perm l).mem_iff

/-- `retain`: what is dropped and what is kept. -/
theorem HashOrder.perm_filter (order : HashOrder) {α : Type} (p : α → Prop) [DecidablePred p]
    (l : List α) :
    l.Perm (((order.list l).filter fun a => ¬p a) ++ (order.list l).filter fun a => p a) := by
  have hsplit := List.filter_append_perm (fun a => decide ¬p a) (order.list l)
  simp only [decide_not, Bool.not_not] at hsplit ⊢
  exact (order.perm l).symm.trans hsplit.symm

/-- A `wl_output` and the client that bound it. -/
structure Binding where
  output : Output
  client : Client
  wlOutput : WlOutput

/-- `Output::client_outputs`. -/
def clientOutputs (bindings : List Binding) (output : Output) (client : Client) : List WlOutput :=
  (bindings.filter fun b => b.output = output && b.client = client).map Binding.wlOutput

theorem clientOutputs_append (bindings : List Binding) (b : Binding) (output : Output)
    (client : Client) : clientOutputs (bindings ++ [b]) output client =
      clientOutputs bindings output client ++
        if b.output = output ∧ b.client = client then [b.wlOutput] else [] := by
  unfold clientOutputs
  rw [List.filter_append, List.map_append]
  by_cases h : b.output = output ∧ b.client = client <;> simp [h]

/-! ## New objects -/

/-- The objects created for these managers, numbered from `serial`. -/
def newHandles (serial : Nat) (managers : List Manager) : List Handle :=
  managers.mapIdx fun i manager => ⟨manager, serial + i⟩

@[simp] theorem map_manager_newHandles (serial : Nat) (managers : List Manager) :
    (newHandles serial managers).map Handle.manager = managers := by
  apply List.ext_getElem
  · simp [newHandles]
  · intro i _ _
    simp [newHandles]

theorem serial_of_mem_newHandles {serial : Nat} {managers : List Manager} {h : Handle}
    (hh : h ∈ newHandles serial managers) :
    serial ≤ h.serial ∧ h.serial < serial + managers.length := by
  obtain ⟨i, hi, rfl⟩ := List.mem_mapIdx.mp hh
  exact ⟨Nat.le_add_right _ _, Nat.add_lt_add_left hi _⟩

/-- Each element, and a new object for it. -/
def numbered {α : Type} (manager : Manager) (serial : Nat) (l : List α) : List (α × Handle) :=
  l.mapIdx fun i a => (a, ⟨manager, serial + i⟩)

section Numbered

variable {α : Type} {manager : Manager} {serial : Nat} {l : List α}

theorem mem_numbered {e : α × Handle} (he : e ∈ numbered manager serial l) :
    e.1 ∈ l ∧ e.2.manager = manager ∧ serial ≤ e.2.serial ∧ e.2.serial < serial + l.length := by
  obtain ⟨i, hi, rfl⟩ := List.mem_mapIdx.mp he
  exact ⟨List.getElem_mem hi, rfl, Nat.le_add_right _ _, Nat.add_lt_add_left hi _⟩

theorem numbered_map_fst : (numbered manager serial l).map Prod.fst = l := by
  apply List.ext_getElem
  · simp [numbered]
  · intro i _ _
    simp [numbered]

theorem numbered_length : (numbered manager serial l).length = l.length := List.length_mapIdx

theorem numbered_nodup : ((numbered manager serial l).map Prod.snd).Nodup := by
  rw [List.nodup_iff_injective_getElem]
  intro i j hij
  simp only [numbered, List.getElem_map, List.getElem_mapIdx, Handle.mk.injEq, true_and,
    Nat.add_left_cancel_iff] at hij
  exact Fin.ext hij

end Numbered

/-! ## The object of a manager -/

/-- The object of this manager, where each manager has one. -/
def handleOf (manager : Manager) (instances : List Handle) : Option Handle :=
  instances.find? fun h => h.manager = manager

/-- Where the keys are distinct, the elements with one key are the one that is
    found. -/
theorem filter_key_eq {α κ : Type} [DecidableEq κ] {key : α → κ} {l : List α}
    (h : (l.map key).Nodup) (k : κ) :
    l.filter (fun a => key a = k) = (l.find? fun a => key a = k).toList := by
  induction l with
  | nil => rfl
  | cons a l ih =>
    rw [List.map_cons, List.nodup_cons] at h
    rw [List.filter_cons, List.find?_cons]
    by_cases ha : key a = k
    · have hnone : l.filter (fun a => key a = k) = [] := by
        rw [List.filter_eq_nil_iff]
        intro b hb hbk
        apply h.1
        rw [ha, ← of_decide_eq_true hbk]
        exact List.mem_map_of_mem hb
      simp [ha, hnone]
    · simpa [ha] using ih h.2

/-- An element, and those with other keys. -/
theorem perm_cons_filter_key {α κ : Type} [DecidableEq κ] {key : α → κ} {l : List α}
    (h : (l.map key).Nodup) {a : α} (ha : a ∈ l) :
    l.Perm (a :: l.filter fun b => key b ≠ key a) := by
  induction l with
  | nil => exact absurd ha List.not_mem_nil
  | cons b l ih =>
    rw [List.map_cons, List.nodup_cons] at h
    rcases List.mem_cons.mp ha with rfl | ha
    · have hfilter : l.filter (fun b => key b ≠ key a) = l := by
        rw [List.filter_eq_self]
        intro b hb
        have hne : key b ≠ key a := fun heq => h.1 (heq ▸ List.mem_map_of_mem hb)
        simpa using hne
      rw [List.filter_cons_of_neg (by simp), hfilter]
    · have hne : key b ≠ key a := fun heq => h.1 (heq ▸ List.mem_map_of_mem ha)
      rw [List.filter_cons_of_pos (by simpa using hne)]
      exact ((ih h.2 ha).cons b).trans (List.Perm.swap _ _ _)

/-- Of a loop, what is sent to one receiver comes from the elements with its key. -/
theorem filter_flatMap_key {α ε κ : Type} [DecidableEq κ] {key : α → κ} {receiver : ε → κ}
    {f : α → List ε} (hf : ∀ a, ∀ e ∈ f a, receiver e = key a) (l : List α) (k : κ) :
    (l.flatMap f).filter (fun e => receiver e = k) =
      (l.filter fun a => key a = k).flatMap f := by
  induction l with
  | nil => rfl
  | cons a l ih =>
    rw [List.flatMap_cons, List.filter_append, ih]
    by_cases ha : key a = k
    · have hself : (f a).filter (fun e => receiver e = k) = f a := by
        rw [List.filter_eq_self]
        intro e he
        simpa using (hf a e he).trans ha
      rw [List.filter_cons_of_pos (by simpa using ha), List.flatMap_cons, hself]
    · have hnone : (f a).filter (fun e => receiver e = k) = [] := by
        rw [List.filter_eq_nil_iff]
        intro e he
        simpa using fun heq => ha ((hf a e he).symm.trans heq)
      rw [List.filter_cons_of_neg (by simpa using ha), hnone, List.nil_append]

theorem filter_manager_eq {instances : List Handle}
    (h : (instances.map Handle.manager).Nodup) (manager : Manager) :
    instances.filter (fun h => h.manager = manager) = (handleOf manager instances).toList :=
  filter_key_eq h manager

end Cidre.Protocols
