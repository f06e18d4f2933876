/-
  Cidre.Lib.SortedMap

  Ordered maps: the entries in the strict order of their keys, as a B-tree map
  iterates over them.  The order is a field, so a map is determined by its
  lookups (`ext_get`) and two ways of building it can be compared key by key.
-/

import Mathlib.Data.List.Basic
import Mathlib.Order.Lattice

namespace Cidre

/-- Entries with strictly increasing keys. -/
structure SortedMap (κ α : Type*) [LinearOrder κ] where
  entries : List (κ × α)
  sorted : entries.Pairwise fun a b => a.1 < b.1

namespace SortedMap

variable {κ α β : Type*} [LinearOrder κ]

instance [DecidableEq α] : DecidableEq (SortedMap κ α) := fun m m' =>
  decidable_of_iff (m.entries = m'.entries) ⟨fun h => by cases m; cases m'; congr, fun h => h ▸ rfl⟩

def empty : SortedMap κ α := ⟨[], .nil⟩

def get (m : SortedMap κ α) (k : κ) : Option α := m.entries.lookup k

def contains (m : SortedMap κ α) (k : κ) : Bool := (m.get k).isSome

def keys (m : SortedMap κ α) : List κ := m.entries.map Prod.fst

def values (m : SortedMap κ α) : List α := m.entries.map Prod.snd

/-! ## Lookups -/

@[simp] theorem get_empty (k : κ) : (empty : SortedMap κ α).get k = none := rfl

/-- A key is found exactly at its entry. -/
theorem lookup_eq_some_iff {l : List (κ × α)} (hl : l.Pairwise fun a b => a.1 < b.1) {k : κ} {a : α} :
    l.lookup k = some a ↔ (k, a) ∈ l := by
  induction l with
  | nil => simp
  | cons e l ih =>
    obtain ⟨k', a'⟩ := e
    obtain ⟨hhead, htail⟩ := List.pairwise_cons.mp hl
    rw [List.lookup_cons, List.mem_cons]
    by_cases hk : k = k'
    · subst hk
      simp only [beq_self_eq_true, Option.some.injEq, Prod.mk.injEq, true_and]
      constructor
      · exact fun h => Or.inl h.symm
      · rintro (h | h)
        · exact h.symm
        · exact absurd (hhead _ h) (lt_irrefl k)
    · have hbeq : (k == k') = false := by simpa using hk
      rw [hbeq]
      simp only [Prod.mk.injEq, hk, false_and, false_or]
      exact ih htail

theorem get_eq_some_iff {m : SortedMap κ α} {k : κ} {a : α} :
    m.get k = some a ↔ (k, a) ∈ m.entries :=
  lookup_eq_some_iff m.sorted

theorem mem_values_iff {m : SortedMap κ α} {a : α} : a ∈ m.values ↔ ∃ k, m.get k = some a := by
  simp only [values, List.mem_map, Prod.exists, exists_eq_right, get_eq_some_iff]

theorem mem_keys_iff {m : SortedMap κ α} {k : κ} : k ∈ m.keys ↔ m.get k ≠ none := by
  rw [Option.ne_none_iff_exists']
  simp only [keys, List.mem_map, Prod.exists, exists_and_right, exists_eq_right, get_eq_some_iff]

theorem keys_sorted (m : SortedMap κ α) : m.keys.Pairwise (· < ·) :=
  List.pairwise_map.mpr m.sorted

theorem keys_nodup (m : SortedMap κ α) : m.keys.Nodup :=
  m.keys_sorted.imp fun h => ne_of_lt h

/-- Maps with the same lookups are the same map. -/
theorem ext_get {m m' : SortedMap κ α} (h : ∀ k, m.get k = m'.get k) : m = m' := by
  have hentries : m.entries = m'.entries := by
    have hasymm : ∀ a b : κ × α, a.1 < b.1 → b.1 < a.1 → a = b :=
      fun _ _ h₁ h₂ => absurd (h₁.trans h₂) (lt_irrefl _)
    have hnodup : ∀ m : SortedMap κ α, m.entries.Nodup := fun m =>
      m.sorted.imp fun hlt heq => absurd (heq ▸ hlt) (lt_irrefl _)
    have hperm : m.entries.Perm m'.entries := by
      rw [List.perm_ext_iff_of_nodup (hnodup m) (hnodup m')]
      rintro ⟨k, a⟩
      rw [← get_eq_some_iff, ← get_eq_some_iff, h k]
    exact hperm.eq_of_pairwise (fun a b _ _ => hasymm a b) m.sorted m'.sorted
  cases m
  cases m'
  congr

/-! ## Insertion and removal -/

/-- Puts `k` in its place; an entry of the same key is replaced. -/
def insertEntry (k : κ) (a : α) : List (κ × α) → List (κ × α)
  | [] => [(k, a)]
  | (k', a') :: l =>
      if k < k' then (k, a) :: (k', a') :: l
      else if k = k' then (k, a) :: l
      else (k', a') :: insertEntry k a l

theorem mem_insertEntry {k : κ} {a : α} {l : List (κ × α)} {e : κ × α}
    (h : e ∈ insertEntry k a l) : e = (k, a) ∨ e ∈ l := by
  induction l with
  | nil => exact Or.inl (List.mem_singleton.mp h)
  | cons e' l ih =>
    obtain ⟨k', a'⟩ := e'
    rw [insertEntry] at h
    split at h
    · exact List.mem_cons.mp h
    · split at h
      · rcases List.mem_cons.mp h with h | h
        · exact Or.inl h
        · exact Or.inr (List.mem_cons_of_mem _ h)
      · rcases List.mem_cons.mp h with rfl | h
        · exact Or.inr List.mem_cons_self
        · rcases ih h with h | h
          · exact Or.inl h
          · exact Or.inr (List.mem_cons_of_mem _ h)

theorem insertEntry_sorted (k : κ) (a : α) {l : List (κ × α)}
    (hl : l.Pairwise fun a b => a.1 < b.1) :
    (insertEntry k a l).Pairwise fun a b => a.1 < b.1 := by
  induction l with
  | nil => exact List.pairwise_singleton _ _
  | cons e l ih =>
    obtain ⟨k', a'⟩ := e
    obtain ⟨hhead, htail⟩ := List.pairwise_cons.mp hl
    rw [insertEntry]
    split
    · rename_i hlt
      refine List.pairwise_cons.mpr ⟨fun e he => ?_, hl⟩
      rcases List.mem_cons.mp he with rfl | he
      · exact hlt
      · exact hlt.trans (hhead e he)
    · rename_i hnlt
      split
      · rename_i heq
        exact List.pairwise_cons.mpr ⟨fun e he => heq ▸ hhead e he, htail⟩
      · rename_i hne
        refine List.pairwise_cons.mpr ⟨fun e he => ?_, ih htail⟩
        rcases mem_insertEntry he with rfl | he
        · exact lt_of_le_of_ne (not_lt.mp hnlt) (Ne.symm hne)
        · exact hhead e he

def insert (m : SortedMap κ α) (k : κ) (a : α) : SortedMap κ α :=
  ⟨insertEntry k a m.entries, insertEntry_sorted k a m.sorted⟩

theorem lookup_insertEntry (k j : κ) (a : α) (l : List (κ × α))
    (hl : l.Pairwise fun a b => a.1 < b.1) :
    (insertEntry k a l).lookup j = if j = k then some a else l.lookup j := by
  induction l with
  | nil =>
    rw [insertEntry, List.lookup_cons]
    by_cases hj : j = k
    · simp [hj]
    · have hbeq : (j == k) = false := by simpa using hj
      rw [hbeq, if_neg hj]
  | cons e l ih =>
    obtain ⟨k', a'⟩ := e
    obtain ⟨hhead, htail⟩ := List.pairwise_cons.mp hl
    rw [insertEntry]
    by_cases hj : j = k
    · subst hj
      rw [if_pos rfl] at ih ⊢
      split
      · simp
      · split
        · simp
        · rename_i hne
          have hbeq : (j == k') = false := by simpa using hne
          rw [List.lookup_cons, hbeq]
          exact ih htail
    · have hbeq : (j == k) = false := by simpa using hj
      rw [if_neg hj] at ih ⊢
      split
      · rw [List.lookup_cons, hbeq]
      · split
        · rename_i heq
          rw [List.lookup_cons, List.lookup_cons, hbeq, ← heq, hbeq]
        · rw [List.lookup_cons, List.lookup_cons, ih htail]

@[simp] theorem get_insert (m : SortedMap κ α) (k j : κ) (a : α) :
    (m.insert k a).get j = if j = k then some a else m.get j :=
  lookup_insertEntry k j a m.entries m.sorted

def remove (m : SortedMap κ α) (k : κ) : SortedMap κ α :=
  ⟨m.entries.filter fun e => e.1 ≠ k, m.sorted.filter _⟩

@[simp] theorem get_remove (m : SortedMap κ α) (k j : κ) :
    (m.remove k).get j = if j = k then none else m.get j := by
  refine Option.ext fun a => ?_
  rw [get_eq_some_iff, remove, List.mem_filter, ← get_eq_some_iff]
  by_cases hj : j = k <;> simp [hj]

theorem get_foldl_remove (m : SortedMap κ α) (ks : List κ) (j : κ) :
    (ks.foldl remove m).get j = if j ∈ ks then none else m.get j := by
  induction ks generalizing m with
  | nil => simp
  | cons k ks ih =>
    rw [List.foldl_cons, ih, get_remove]
    by_cases hj : j = k
    · simp [hj]
    · simp [hj]

/-- `get_mut` followed by an assignment: the value of `k` is changed, if there is
    one. -/
def modify (m : SortedMap κ α) (k : κ) (f : α → α) : SortedMap κ α :=
  match m.get k with
  | some a => m.insert k (f a)
  | none => m

@[simp] theorem get_modify (m : SortedMap κ α) (k j : κ) (f : α → α) :
    (m.modify k f).get j = if j = k then (m.get k).map f else m.get j := by
  rw [modify]
  cases hk : m.get k with
  | some a => rw [get_insert, Option.map_some]
  | none =>
    by_cases hj : j = k
    · rw [if_pos hj, hj, hk, Option.map_none]
    · rw [if_neg hj]

/-- A loop over `values_mut`. -/
def mapValues (f : α → α) (m : SortedMap κ α) : SortedMap κ α :=
  ⟨m.entries.map fun e => (e.1, f e.2), List.pairwise_map.mpr m.sorted⟩

@[simp] theorem get_mapValues (f : α → α) (m : SortedMap κ α) (k : κ) :
    (m.mapValues f).get k = (m.get k).map f := by
  refine Option.ext fun a => ?_
  rw [get_eq_some_iff, mapValues, List.mem_map, Option.map_eq_some_iff]
  constructor
  · rintro ⟨e, he, heq⟩
    obtain ⟨rfl, rfl⟩ := Prod.mk.inj heq
    exact ⟨e.2, get_eq_some_iff.mpr he, rfl⟩
  · rintro ⟨b, hb, rfl⟩
    exact ⟨(k, b), get_eq_some_iff.mp hb, rfl⟩

/-! ## Maps keyed by a field of the value -/

/-- Collects values under their keys; a later one replaces an earlier one. -/
def ofValues (key : α → κ) (l : List α) : SortedMap κ α :=
  l.foldl (fun m a => m.insert (key a) a) empty

/-- Every value is filed under its key. -/
def KeyedBy (key : α → κ) (m : SortedMap κ α) : Prop := ∀ k a, m.get k = some a → key a = k

section KeyedBy

variable {key : α → κ} {m : SortedMap κ α}

theorem keyedBy_empty : (empty : SortedMap κ α).KeyedBy key := by
  intro k a ha
  cases ha

theorem KeyedBy.insert (h : m.KeyedBy key) (a : α) : (m.insert (key a) a).KeyedBy key := by
  intro k b hb
  rw [get_insert] at hb
  split at hb
  · rename_i hk
    rw [← Option.some.inj hb, hk]
  · exact h k b hb

theorem KeyedBy.remove (h : m.KeyedBy key) (k : κ) : (m.remove k).KeyedBy key := by
  intro j a ha
  rw [get_remove] at ha
  split at ha
  · cases ha
  · exact h j a ha

theorem KeyedBy.modify (h : m.KeyedBy key) (k : κ) {f : α → α} (hf : ∀ a, key (f a) = key a) :
    (m.modify k f).KeyedBy key := by
  intro j a ha
  rw [get_modify] at ha
  split at ha
  · rename_i hj
    obtain ⟨b, hb, rfl⟩ := Option.map_eq_some_iff.mp ha
    rw [hf, h k b hb, hj]
  · exact h j a ha

theorem KeyedBy.mapValues (h : m.KeyedBy key) {f : α → α} (hf : ∀ a, key (f a) = key a) :
    (m.mapValues f).KeyedBy key := by
  intro k a ha
  rw [get_mapValues] at ha
  obtain ⟨b, hb, rfl⟩ := Option.map_eq_some_iff.mp ha
  rw [hf, h k b hb]

theorem keyedBy_foldl_insert (l : List α) (h : m.KeyedBy key) :
    (l.foldl (fun m a => m.insert (key a) a) m).KeyedBy key := by
  induction l generalizing m with
  | nil => exact h
  | cons a l ih => exact ih (h.insert a)

theorem keyedBy_ofValues (l : List α) : (ofValues key l).KeyedBy key :=
  keyedBy_foldl_insert l keyedBy_empty

theorem KeyedBy.map_values (h : m.KeyedBy key) : m.values.map key = m.keys := by
  rw [values, keys, List.map_map]
  refine List.map_congr_left fun e he => ?_
  exact h e.1 e.2 (get_eq_some_iff.mpr he)

/-- Values with different keys are all found. -/
theorem get_foldl_insert_of_mem {l : List α} (hl : (l.map key).Nodup) {a : α} (ha : a ∈ l)
    (m : SortedMap κ α) : (l.foldl (fun m a => m.insert (key a) a) m).get (key a) = some a := by
  have hkeep : ∀ (l : List α) (m : SortedMap κ α) (k : κ), k ∉ l.map key →
      (l.foldl (fun m a => m.insert (key a) a) m).get k = m.get k := by
    intro l
    induction l with
    | nil => exact fun m k _ => rfl
    | cons b l ih =>
      intro m k hk
      rw [List.map_cons, List.mem_cons, not_or] at hk
      rw [List.foldl_cons, ih _ k hk.2, get_insert, if_neg hk.1]
  induction l generalizing m with
  | nil => exact absurd ha List.not_mem_nil
  | cons b l ih =>
    rw [List.map_cons, List.nodup_cons] at hl
    rcases List.mem_cons.mp ha with rfl | hmem
    · rw [List.foldl_cons, hkeep l _ _ hl.1, get_insert, if_pos rfl]
    · exact ih hl.2 hmem _

/-- What is collected from values with different keys. -/
theorem get_ofValues_eq_some_iff {l : List α} (hl : (l.map key).Nodup) {k : κ} {a : α} :
    (ofValues key l).get k = some a ↔ a ∈ l ∧ key a = k := by
  constructor
  · intro h
    refine ⟨?_, keyedBy_ofValues l k a h⟩
    have hmem : ∀ (l : List α) (m : SortedMap κ α),
        (l.foldl (fun m a => m.insert (key a) a) m).get k = some a → a ∈ l ∨ m.get k = some a := by
      intro l
      induction l with
      | nil => exact fun m hm => Or.inr hm
      | cons b l ih =>
        intro m hm
        rcases ih _ hm with hin | hin
        · exact Or.inl (List.mem_cons_of_mem b hin)
        · rw [get_insert] at hin
          split at hin
          · exact Or.inl (Option.some.inj hin ▸ List.mem_cons_self)
          · exact Or.inr hin
    rcases hmem l empty h with hin | hin
    · exact hin
    · cases hin
  · rintro ⟨ha, rfl⟩
    exact get_foldl_insert_of_mem hl ha empty

/-- Collecting the values of a keyed map, in any order, gives the map. -/
theorem KeyedBy.ofValues_eq (h : m.KeyedBy key) {l : List α} (hl : l.Perm m.values) :
    ofValues key l = m := by
  have hnodup : (l.map key).Nodup := by
    rw [(hl.map key).nodup_iff, h.map_values]
    exact m.keys_nodup
  have hget : ∀ k a, m.get k = some a → (ofValues key l).get k = some a := by
    intro k a ha
    have hmem : a ∈ l := hl.mem_iff.mpr (mem_values_iff.mpr ⟨k, ha⟩)
    rw [← h k a ha]
    exact get_foldl_insert_of_mem hnodup hmem empty
  refine ext_get fun k => Option.ext fun a => ⟨fun ha => ?_, hget k a⟩
  obtain ⟨hmem, rfl⟩ := (get_ofValues_eq_some_iff hnodup).mp ha
  obtain ⟨k', hk'⟩ := mem_values_iff.mp (hl.mem_iff.mp hmem)
  rw [h k' a hk']
  exact hk'

end KeyedBy

/-! ## Updates that change nothing -/

theorem insert_eq_self_iff {m : SortedMap κ α} {k : κ} {a : α} :
    m.insert k a = m ↔ m.get k = some a := by
  constructor
  · intro h
    rw [← h, get_insert, if_pos rfl]
  · intro h
    refine ext_get fun j => ?_
    rw [get_insert]
    split
    · rename_i hj
      rw [hj, h]
    · rfl

theorem remove_eq_self_iff {m : SortedMap κ α} {k : κ} : m.remove k = m ↔ m.get k = none := by
  constructor
  · intro h
    rw [← h, get_remove, if_pos rfl]
  · intro h
    refine ext_get fun j => ?_
    rw [get_remove]
    split
    · rename_i hj
      rw [hj, h]
    · rfl

theorem modify_eq_self_iff {m : SortedMap κ α} {k : κ} {f : α → α} :
    m.modify k f = m ↔ ∀ a, m.get k = some a → f a = a := by
  rw [modify]
  cases h : m.get k with
  | none => simp
  | some a =>
    dsimp only
    rw [insert_eq_self_iff, h]
    constructor
    · intro heq a' ha'
      rw [← Option.some.inj ha']
      exact (Option.some.inj heq).symm
    · intro hf
      rw [hf a rfl]

end SortedMap

end Cidre
