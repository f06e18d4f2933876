/-
  Cidre.Lib.Framing

  Fields written one after the other with a separator.

  `q` is the class of characters a separator comes from.  A field may end in
  characters of that class, as a text does that a pattern ending in `$` has
  accepted; what it holds in front of them is outside of it.  Such fields are
  read back without ambiguity from either end: from the front when what follows
  the separator does not open with the class (`Field.append_inj`), from the back
  always (`Field.append_inj_back`).
-/

import Mathlib.Data.List.Basic

namespace Cidre.Framing

variable {α : Type*} {q : α → Bool} {sep : α} {f f' g g' : List α}

/-- A text outside the class, not empty, and an end of characters of the class. -/
def Field (q : α → Bool) (f : List α) : Prop :=
  ∃ body tail, f = body ++ tail ∧ body ≠ [] ∧ (∀ c ∈ body, q c = false) ∧ ∀ c ∈ tail, q c = true

/-- The text does not begin with a character of the class. -/
def Opens (q : α → Bool) (g : List α) : Prop := ∀ c, g.head? = some c → q c = false

theorem Field.opens (h : Field q f) (g : List α) : Opens q (f ++ g) := by
  obtain ⟨body, tail, rfl, hne, hbody, -⟩ := h
  obtain ⟨c, body, rfl⟩ := List.exists_cons_of_ne_nil hne
  intro d hd
  have hcd : c = d := by simpa using hd
  exact hcd ▸ hbody c List.mem_cons_self

theorem takeWhile_run {p : α → Bool} {a l : List α} (ha : ∀ c ∈ a, p c = true)
    (hl : ∀ c, l.head? = some c → p c = false) : (a ++ l).takeWhile p = a := by
  rw [List.takeWhile_append_of_pos ha]
  cases l with
  | nil => exact List.append_nil a
  | cons c l =>
    have hc : p c = false := hl c rfl
    rw [List.takeWhile_cons_of_neg (by simp [hc]), List.append_nil]

/-- A run of one class is told from what follows it. -/
theorem run_append_inj {p : α → Bool} {a a' l l' : List α} (ha : ∀ c ∈ a, p c = true)
    (ha' : ∀ c ∈ a', p c = true) (hl : ∀ c, l.head? = some c → p c = false)
    (hl' : ∀ c, l'.head? = some c → p c = false) (h : a ++ l = a' ++ l') : a = a' ∧ l = l' := by
  have hrun : a = a' := by
    rw [← takeWhile_run ha hl, h, takeWhile_run ha' hl']
  rw [hrun] at h
  exact ⟨hrun, List.append_cancel_left h⟩

/-- Two fields in front of a separator have one content, and what follows agrees. -/
theorem body_inj {body body' tail tail' : List α} (hbody : ∀ c ∈ body, q c = false)
    (hbody' : ∀ c ∈ body', q c = false) (htail : ∀ c ∈ tail, q c = true)
    (htail' : ∀ c ∈ tail', q c = true) (hsep : q sep = true)
    (h : (body ++ tail) ++ sep :: g = (body' ++ tail') ++ sep :: g') :
    body = body' ∧ tail ++ sep :: g = tail' ++ sep :: g' := by
  have hhead : ∀ (tail g : List α), (∀ c ∈ tail, q c = true) →
      ∀ c, (tail ++ sep :: g).head? = some c → (!q c) = false := by
    intro tail g htail c hc
    cases tail with
    | nil =>
      have hsc : sep = c := by simpa using hc
      rw [← hsc, hsep]
      rfl
    | cons d tail =>
      have hdc : d = c := by simpa using hc
      rw [← hdc, htail d List.mem_cons_self]
      rfl
  rw [List.append_assoc, List.append_assoc] at h
  exact run_append_inj (p := fun c => !q c) (fun c hc => by rw [hbody c hc]; rfl)
    (fun c hc => by rw [hbody' c hc]; rfl) (hhead tail g htail) (hhead tail' g' htail') h

/-- From the front: the end of a field stops where the next text opens. -/
theorem Field.append_inj (hf : Field q f) (hf' : Field q f') (hsep : q sep = true)
    (hg : Opens q g) (hg' : Opens q g') (h : f ++ sep :: g = f' ++ sep :: g') :
    f = f' ∧ g = g' := by
  obtain ⟨body, tail, rfl, -, hbody, htail⟩ := hf
  obtain ⟨body', tail', rfl, -, hbody', htail'⟩ := hf'
  obtain ⟨rfl, hrest⟩ := body_inj hbody hbody' htail htail' hsep h
  have hends : ∀ tail : List α, (∀ c ∈ tail, q c = true) → ∀ c ∈ tail ++ [sep], q c = true := by
    intro tail htail c hc
    rcases List.mem_append.mp hc with hc | hc
    · exact htail c hc
    · rw [List.mem_singleton.mp hc]
      exact hsep
  have hrun : (tail ++ [sep]) ++ g = (tail' ++ [sep]) ++ g' := by
    rw [List.append_assoc, List.append_assoc]
    exact hrest
  obtain ⟨htails, hgs⟩ := run_append_inj (hends tail htail) (hends tail' htail') hg hg' hrun
  exact ⟨by rw [List.append_cancel_right htails], hgs⟩

/-- From the back: a field is the last run outside the class with its end. -/
theorem Field.append_inj_back (hf : Field q f) (hf' : Field q f') (hsep : q sep = true)
    (h : g ++ sep :: f = g' ++ sep :: f') : g = g' ∧ f = f' := by
  obtain ⟨body, tail, rfl, hne, hbody, htail⟩ := hf
  obtain ⟨body', tail', rfl, hne', hbody', htail'⟩ := hf'
  -- read backwards: the end, the content, the separator
  have hrev : tail.reverse ++ (body.reverse ++ sep :: g.reverse) =
      tail'.reverse ++ (body'.reverse ++ sep :: g'.reverse) := by
    have hr := congrArg List.reverse h
    simpa using hr
  have hhead : ∀ body g : List α, body ≠ [] → (∀ c ∈ body, q c = false) →
      ∀ c, (body.reverse ++ sep :: g.reverse).head? = some c → q c = false := by
    intro body g hne hbody c hc
    have hrne : body.reverse ≠ [] := by simpa using hne
    rw [List.head?_append_of_ne_nil _ hrne] at hc
    exact hbody c (List.mem_reverse.mp (List.mem_of_mem_head? hc))
  obtain ⟨htails, hrest⟩ := run_append_inj (p := q) (fun c hc => htail c (List.mem_reverse.mp hc))
    (fun c hc => htail' c (List.mem_reverse.mp hc)) (hhead body g hne hbody)
    (hhead body' g' hne' hbody') hrev
  have hsephead : ∀ (g : List α) (c : α), (sep :: g.reverse).head? = some c → (!q c) = false := by
    intro g c hc
    have hsc : sep = c := by simpa using hc
    rw [← hsc, hsep]
    rfl
  obtain ⟨hbodies, hgs⟩ := run_append_inj (p := fun c => !q c)
    (fun c hc => by rw [hbody c (List.mem_reverse.mp hc)]; rfl)
    (fun c hc => by rw [hbody' c (List.mem_reverse.mp hc)]; rfl) (hsephead g) (hsephead g') hrest
  refine ⟨List.reverse_injective (List.cons.inj hgs).2, ?_⟩
  rw [List.reverse_injective htails, List.reverse_injective hbodies]

end Cidre.Framing
