/-
  Cidre.Lib.Ensures

  What holds of the result of code that may panic, if there is one.

  `Ensures x post` says nothing about whether `x` returns: it is for a property that a
  step keeps whatever it takes the step to go through.
-/

import Cidre.Lib.Panic

namespace Cidre.Panic

variable {α β : Type}

/-- If `x` returns, its result satisfies `post`. -/
def Ensures (x : Option α) (post : α → Prop) : Prop := ∀ a, x = some a → post a

theorem ensures_some {a : α} {post : α → Prop} (h : post a) : Ensures (some a) post := by
  rintro _ ⟨⟩
  exact h

theorem ensures_pure {a : α} {post : α → Prop} (h : post a) : Ensures (pure a) post :=
  ensures_some h

theorem ensures_none {post : α → Prop} : Ensures none post := nofun

theorem ensures_self (x : Option α) : Ensures x fun a => x = some a := fun _ ha => ha

theorem ensures_true (x : Option α) : Ensures x fun _ => True := fun _ _ => trivial

theorem Returns.ensures {x : Option α} {post : α → Prop} (h : Returns x post) : Ensures x post :=
  fun _ ha => h.of_eq ha

theorem Ensures.bind {x : Option α} {f : α → Option β} {mid : α → Prop} {post : β → Prop}
    (hx : Ensures x mid) (hf : ∀ a, mid a → Ensures (f a) post) : Ensures (x >>= f) post := by
  intro b hb
  obtain ⟨a, ha, hfa⟩ := Option.bind_eq_some_iff.mp hb
  exact hf a (hx a ha) b hfa

theorem Ensures.mono {x : Option α} {mid post : α → Prop} (hx : Ensures x mid)
    (h : ∀ a, mid a → post a) : Ensures x post := fun a ha => h a (hx a ha)

theorem Ensures.and {x : Option α} {p q : α → Prop} (hp : Ensures x p) (hq : Ensures x q) :
    Ensures x fun a => p a ∧ q a := fun a ha => ⟨hp a ha, hq a ha⟩

theorem Returns.with {x : Option α} {p q : α → Prop} (hp : Returns x p) (hq : Ensures x q) :
    Returns x fun a => p a ∧ q a := by
  obtain ⟨a, rfl, ha⟩ := hp
  exact returns_some ⟨ha, hq a rfl⟩

theorem Ensures.map {x : Option α} {f : α → β} {mid : α → Prop} {post : β → Prop}
    (hx : Ensures x mid) (h : ∀ a, mid a → post (f a)) : Ensures (x.map f) post := by
  intro b hb
  obtain ⟨a, ha, rfl⟩ := Option.map_eq_some_iff.mp hb
  exact h a (hx a ha)

theorem ensures_ite {c : Prop} [Decidable c] {x y : Option α} {post : α → Prop}
    (hx : c → Ensures x post) (hy : ¬ c → Ensures y post) :
    Ensures (if c then x else y) post := by
  split
  · exact hx ‹c›
  · exact hy ‹¬ c›

/-- The code returns early if there is nothing to do. -/
theorem ensures_early {c : Prop} [Decidable c] {a : α} {y : Option α} {post : α → Prop}
    (ha : post a) (hy : ¬ c → Ensures y post) : Ensures (if c then some a else y) post :=
  ensures_ite (fun _ => ensures_some ha) hy

theorem applyIf_ensures {c : Bool} {f : α → Option α} {a : α} {post : α → Prop}
    (hf : c = true → Ensures (f a) post) (ha : c = false → post a) :
    Ensures (applyIf c f a) post := by
  cases c with
  | true => exact hf rfl
  | false => exact ensures_some (ha rfl)

theorem mapM_ensures {l : List α} {f : α → Option β} {post : β → Prop}
    (h : ∀ a ∈ l, Ensures (f a) post) : Ensures (l.mapM f) fun l' => ∀ b ∈ l', post b := by
  induction l with
  | nil => exact ensures_some fun _ hb => (List.not_mem_nil hb).elim
  | cons a l ih =>
    rw [List.mapM_cons]
    refine (h a List.mem_cons_self).bind fun b hb => ?_
    refine (ih fun a' ha' => h a' (List.mem_cons_of_mem a ha')).bind fun l' hl' => ?_
    exact ensures_pure fun b' hb' => (List.mem_cons.mp hb').elim (fun heq => heq ▸ hb) (hl' b')

/-- A loop that keeps what is seen of each entry. -/
theorem mapM_map_ensures {γ : Type} (p : α → γ) {l : List α} {f : α → Option α}
    (h : ∀ a ∈ l, Ensures (f a) fun b => p b = p a) :
    Ensures (l.mapM f) fun l' => l'.map p = l.map p := by
  induction l with
  | nil => exact ensures_some rfl
  | cons a l ih =>
    rw [List.mapM_cons]
    refine (h a List.mem_cons_self).bind fun b hb => ?_
    refine (ih fun a' ha' => h a' (List.mem_cons_of_mem a ha')).bind fun l' hl' => ?_
    refine ensures_pure ?_
    rw [List.map_cons, List.map_cons, hb, hl']

namespace Vec

theorem insert_ensures (l : List α) (i : Nat) (a : α) :
    Ensures (insert l i a) fun l' => ∀ b ∈ l', b = a ∨ b ∈ l := by
  rw [insert]
  refine ensures_ite (fun hi => ensures_some fun b hb => ?_) (fun _ => ensures_none)
  exact List.mem_cons.mp ((List.perm_insertIdx a l hi).mem_iff.mp hb)

theorem remove_ensures (l : List α) (i : Nat) :
    Ensures (remove l i) fun p => p.1 ∈ l ∧ ∀ b ∈ p.2, b ∈ l :=
  (ensures_self l[i]?).map fun _ ha => ⟨List.mem_of_getElem? ha, fun _ hb => List.mem_of_mem_eraseIdx hb⟩

theorem swap_ensures (l : List α) (i j : Nat) : Ensures (swap l i j) fun l' => ∀ b ∈ l', b ∈ l := by
  refine (ensures_self l[i]?).bind fun a ha => ?_
  refine (ensures_self l[j]?).bind fun b hb => ensures_pure fun c hc => ?_
  rcases List.mem_or_eq_of_mem_set hc with hc | rfl
  · rcases List.mem_or_eq_of_mem_set hc with hc | rfl
    · exact hc
    · exact List.mem_of_getElem? hb
  · exact List.mem_of_getElem? ha

end Vec

end Cidre.Panic
