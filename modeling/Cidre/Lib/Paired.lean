/-
  Cidre.Lib.Paired

  Two lists whose entries are related one by one (`List.Forall₂`).
-/

import Mathlib.Data.List.Forall2

namespace Cidre.Paired

variable {α β γ : Type} {R : α → β → Prop}

/-- Entries that agree on a value are mapped to the same list. -/
theorem map_eq {l : List α} {l' : List β} {f : α → γ} {g : β → γ} (h : List.Forall₂ R l l')
    (hfg : ∀ a ∈ l, ∀ b, R a b → g b = f a) : l'.map g = l.map f := by
  induction h with
  | nil => rfl
  | cons hab _ ih =>
    rw [List.map_cons, List.map_cons, hfg _ List.mem_cons_self _ hab,
      ih fun a ha => hfg a (List.mem_cons_of_mem _ ha)]

/-- Where one list is taken apart, so is the other. -/
theorem split_left {l₁ l₂ : List α} {a : α} {l' : List β}
    (h : List.Forall₂ R (l₁ ++ a :: l₂) l') :
    ∃ l₁' b l₂', l' = l₁' ++ b :: l₂' ∧ List.Forall₂ R l₁ l₁' ∧ R a b ∧ List.Forall₂ R l₂ l₂' := by
  induction l₁ generalizing l' with
  | nil =>
    obtain ⟨b, l₂', hab, hrest, rfl⟩ := List.forall₂_cons_left_iff.mp h
    exact ⟨[], b, l₂', rfl, .nil, hab, hrest⟩
  | cons c l₁ ih =>
    obtain ⟨c', rest, hc, hrest, rfl⟩ := List.forall₂_cons_left_iff.mp h
    obtain ⟨l₁', b, l₂', rfl, hl₁, hab, hl₂⟩ := ih hrest
    exact ⟨c' :: l₁', b, l₂', rfl, .cons hc hl₁, hab, hl₂⟩

/-- Every entry of the second list is paired with one of the first. -/
theorem exists_left {l : List α} {l' : List β} (h : List.Forall₂ R l l') {b : β} (hb : b ∈ l') :
    ∃ a ∈ l, R a b := by
  induction h with
  | nil => cases hb
  | cons hab _ ih =>
    rcases List.mem_cons.mp hb with rfl | hb
    · exact ⟨_, List.mem_cons_self, hab⟩
    · obtain ⟨a, ha, hrest⟩ := ih hb
      exact ⟨a, List.mem_cons_of_mem _ ha, hrest⟩

theorem exists_getElem? {l : List α} {l' : List β} (h : List.Forall₂ R l l') {i : Nat} {a : α}
    (ha : l[i]? = some a) : ∃ b, l'[i]? = some b ∧ R a b := by
  induction h generalizing i with
  | nil => simp at ha
  | cons hab _ ih =>
    cases i with
    | zero =>
      obtain rfl := Option.some.inj ha
      exact ⟨_, rfl, hab⟩
    | succ i => exact ih ha

/-- An entry of the second list is replaced. -/
theorem set_right {l : List α} {l' : List β} (h : List.Forall₂ R l l') {i : Nat} {a : α} {b : β}
    (ha : l[i]? = some a) (hab : R a b) : List.Forall₂ R l (l'.set i b) := by
  induction h generalizing i with
  | nil => exact .nil
  | cons hcd hrest ih =>
    cases i with
    | zero =>
      obtain rfl := Option.some.inj ha
      exact .cons hab hrest
    | succ i => exact .cons hcd (ih ha)

/-- One entry is replaced. -/
theorem set {S : α → α → Prop} (hrefl : ∀ a, S a a) {l : List α} {i : Nat} {a b : α}
    (ha : l[i]? = some a) (hab : S a b) : List.Forall₂ S l (l.set i b) :=
  set_right (List.forall₂_same.mpr fun x _ => hrefl x) ha hab

/-- Two pairings make one. -/
theorem trans {S : β → γ → Prop} {l : List α} {l' : List β} {l'' : List γ}
    (h : List.Forall₂ R l l') (h' : List.Forall₂ S l' l'') :
    List.Forall₂ (fun a c => ∃ b, R a b ∧ S b c) l l'' := by
  induction h generalizing l'' with
  | nil =>
    obtain rfl := List.forall₂_nil_left_iff.mp h'
    exact .nil
  | cons hab _ ih =>
    obtain ⟨c, rest, hbc, hrest, rfl⟩ := List.forall₂_cons_left_iff.mp h'
    exact .cons ⟨_, hab, hbc⟩ (ih hrest)

end Cidre.Paired
