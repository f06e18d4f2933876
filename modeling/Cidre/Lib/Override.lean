/-
  Cidre.Lib.Override

  Lists with keys in which a later definition takes the place of an earlier one
  under the same key.  `override` merges one group of definitions into what is
  there; merging groups one after the other leaves of every key its last
  definition (`mem_foldl_override`).
-/

import Mathlib.Data.List.Nodup

namespace Cidre.Override

universe u v

variable {α : Type u} {κ : Type v} (key : α → κ)

/-- `a` stands in `defs` with no later definition of its key. -/
def Last (defs : List α) (a : α) : Prop :=
  ∃ before after, defs = before ++ a :: after ∧ ∀ b ∈ after, key b ≠ key a

variable {key}

theorem last_nil {a : α} : ¬Last key [] a := by
  rintro ⟨before, after, heq, -⟩
  exact absurd heq.symm (List.append_ne_nil_of_right_ne_nil before (List.cons_ne_nil a after))

theorem last_cons {defs : List α} {a b : α} :
    Last key (b :: defs) a ↔ Last key defs a ∨ b = a ∧ ∀ c ∈ defs, key c ≠ key a := by
  constructor
  · rintro ⟨before, after, heq, hafter⟩
    cases before with
    | nil =>
      obtain ⟨rfl, rfl⟩ := List.cons.inj heq
      exact Or.inr ⟨rfl, hafter⟩
    | cons d before =>
      obtain ⟨-, rfl⟩ := List.cons.inj heq
      exact Or.inl ⟨before, after, rfl, hafter⟩
  · rintro (⟨before, after, rfl, hafter⟩ | ⟨rfl, hafter⟩)
    · exact ⟨b :: before, after, rfl, hafter⟩
    · exact ⟨[], defs, rfl, hafter⟩

theorem mem_of_last {defs : List α} {a : α} (h : Last key defs a) : a ∈ defs := by
  obtain ⟨before, after, rfl, -⟩ := h
  exact List.mem_append_right before List.mem_cons_self

/-- The last definition in two groups is the last of the second one, or the last
    of the first one under a key that the second leaves alone. -/
theorem last_append {defs more : List α} {a : α} :
    Last key (defs ++ more) a ↔
      Last key more a ∨ Last key defs a ∧ ∀ b ∈ more, key b ≠ key a := by
  induction defs with
  | nil =>
    rw [List.nil_append]
    exact ⟨Or.inl, fun h => h.resolve_right fun h' => last_nil h'.1⟩
  | cons d defs ih =>
    rw [List.cons_append, last_cons, last_cons, ih, List.forall_mem_append]
    tauto

/-- Where every key is defined once, each definition is the last one. -/
theorem last_iff_mem {defs : List α} (hnodup : (defs.map key).Nodup) {a : α} :
    Last key defs a ↔ a ∈ defs := by
  refine ⟨mem_of_last, fun h => ?_⟩
  obtain ⟨before, after, rfl⟩ := List.append_of_mem h
  refine ⟨before, after, rfl, fun b hb heq => ?_⟩
  rw [List.map_append, List.map_cons] at hnodup
  have hcons := (List.nodup_append.mp hnodup).2.1
  exact (List.nodup_cons.mp hcons).1 (heq ▸ List.mem_map_of_mem hb)

variable [DecidableEq κ]

variable (key) in
/-- The entries of `old` whose key is not defined anew, and then `new`. -/
def override (old new : List α) : List α :=
  old.filter (fun a => !new.any fun b => key b == key a) ++ new

theorem mem_override {old new : List α} {a : α} :
    a ∈ override key old new ↔ a ∈ new ∨ a ∈ old ∧ ∀ b ∈ new, key b ≠ key a := by
  unfold override
  rw [List.mem_append, List.mem_filter, Bool.not_eq_true', List.any_eq_false, or_comm]
  exact or_congr_right (and_congr_right fun _ => forall₂_congr fun b _ => by rw [beq_iff_eq])

/-- Every key is defined at most once after a merge of two such lists. -/
theorem nodup_override {old new : List α} (hold : (old.map key).Nodup)
    (hnew : (new.map key).Nodup) : ((override key old new).map key).Nodup := by
  unfold override
  rw [List.map_append]
  refine List.Nodup.append ((List.filter_sublist.map key).nodup hold) hnew ?_
  intro k hkept hk
  obtain ⟨a, ha, rfl⟩ := List.mem_map.mp hkept
  obtain ⟨b, hb, heq⟩ := List.mem_map.mp hk
  have hfree := (List.mem_filter.mp ha).2
  rw [Bool.not_eq_true', List.any_eq_false] at hfree
  exact hfree b hb (beq_iff_eq.mpr heq)

/-- Merging groups one after the other keeps every key defined at most once. -/
theorem nodup_foldl_override {groups : List (List α)} {start : List α}
    (hgroups : ∀ g ∈ groups, (g.map key).Nodup) (hstart : (start.map key).Nodup) :
    ((groups.foldl (override key) start).map key).Nodup := by
  induction groups generalizing start with
  | nil => exact hstart
  | cons g groups ih =>
    exact ih (fun g' hg' => hgroups g' (List.mem_cons_of_mem g hg'))
      (nodup_override hstart (hgroups g List.mem_cons_self))

/-- What is left after merging the groups: the last definition of every key they
    define, and what was there under the other keys. -/
theorem mem_foldl_override {groups : List (List α)} {start : List α} {a : α}
    (hgroups : ∀ g ∈ groups, (g.map key).Nodup) :
    a ∈ groups.foldl (override key) start ↔
      Last key groups.flatten a ∨ a ∈ start ∧ ∀ b ∈ groups.flatten, key b ≠ key a := by
  induction groups generalizing start with
  | nil =>
    rw [List.flatten_nil]
    exact ⟨fun h => Or.inr ⟨h, fun b hb => absurd hb List.not_mem_nil⟩,
      fun h => (h.resolve_left last_nil).1⟩
  | cons g groups ih =>
    rw [List.foldl_cons, ih fun g' hg' => hgroups g' (List.mem_cons_of_mem g hg'),
      List.flatten_cons, last_append, last_iff_mem (hgroups g List.mem_cons_self), mem_override,
      List.forall_mem_append]
    tauto

end Cidre.Override
