/-
  Cidre.Lib.Pattern

  Patterns over characters, as validators of identifiers and sizes write them:
  a sequence of single characters and repeated characters, each from a class.
  `accepts` is the full match with backtracking, so it is the language of the
  pattern and not one matching strategy.

  Two rules carry the comparisons of validators: patterns whose classes agree
  on the characters at hand accept the same strings (`accepts_congr`), and an
  accepted string has only characters some class allows (`accepts_mem`).
-/

import Mathlib.Data.List.Forall2

namespace Cidre.Pattern

/-- One character of the class, or any number of them. -/
inductive Piece where
  | one (test : Char → Bool)
  | star (test : Char → Bool)

def Piece.test : Piece → Char → Bool
  | .one t => t
  | .star t => t

/-- Any number of characters of `test`, and then `rest`. -/
def starThen (test : Char → Bool) (rest : List Char → Bool) : List Char → Bool
  | [] => rest []
  | c :: cs => rest (c :: cs) || (test c && starThen test rest cs)

/-- The pattern matches the whole of the text. -/
def accepts : List Piece → List Char → Bool
  | [], cs => cs.isEmpty
  | .one _ :: _, [] => false
  | .one t :: ps, c :: cs => t c && accepts ps cs
  | .star t :: ps, cs => starThen t (accepts ps) cs

/-- The characters of a literal text, one after the other. -/
def lit (s : String) : List Piece := s.toList.map fun c => .one (· == c)

/-- One or more characters of a class. -/
def plus (test : Char → Bool) : List Piece := [.one test, .star test]

/-- Two pieces of one kind whose classes agree on the characters in `good`. -/
def Agree (good : Char → Prop) : Piece → Piece → Prop
  | .one t, .one u | .star t, .star u => ∀ c, good c → t c = u c
  | _, _ => False

theorem starThen_congr {t u : Char → Bool} {r s : List Char → Bool} {good : Char → Prop}
    (ht : ∀ c, good c → t c = u c)
    (hr : ∀ cs : List Char, (∀ c ∈ cs, good c) → r cs = s cs) :
    ∀ cs : List Char, (∀ c ∈ cs, good c) → starThen t r cs = starThen u s cs := by
  intro cs
  induction cs with
  | nil => exact hr []
  | cons c cs ih =>
    intro hgood
    have htail : ∀ d ∈ cs, good d := fun d hd => hgood d (List.mem_cons_of_mem c hd)
    rw [starThen, starThen, hr _ hgood, ht c (hgood c List.mem_cons_self), ih htail]

/-- Patterns that agree on the characters of a text accept it alike. -/
theorem accepts_congr {good : Char → Prop} {ps qs : List Piece}
    (h : List.Forall₂ (Agree good) ps qs) :
    ∀ cs : List Char, (∀ c ∈ cs, good c) → accepts ps cs = accepts qs cs := by
  induction h with
  | nil => exact fun _ _ => rfl
  | @cons p q ps qs hpq _ ih =>
    intro cs hgood
    cases p with
    | one t =>
      cases q with
      | star u => exact hpq.elim
      | one u =>
        cases cs with
        | nil => rfl
        | cons c cs =>
          have htail : ∀ d ∈ cs, good d := fun d hd => hgood d (List.mem_cons_of_mem c hd)
          rw [accepts, accepts, hpq c (hgood c List.mem_cons_self), ih cs htail]
    | star t =>
      cases q with
      | one u => exact hpq.elim
      | star u =>
        rw [accepts, accepts]
        exact starThen_congr hpq ih cs hgood

theorem starThen_mem {t : Char → Bool} {r : List Char → Bool} {good : Char → Prop}
    (ht : ∀ c, t c = true → good c) (hr : ∀ cs : List Char, r cs = true → ∀ c ∈ cs, good c) :
    ∀ cs : List Char, starThen t r cs = true → ∀ c ∈ cs, good c := by
  intro cs
  induction cs with
  | nil => exact hr []
  | cons c cs ih =>
    intro h
    rw [starThen, Bool.or_eq_true, Bool.and_eq_true] at h
    rcases h with h | ⟨hc, h⟩
    · exact hr _ h
    · intro d hd
      rcases List.mem_cons.mp hd with rfl | hd
      · exact ht d hc
      · exact ih h d hd

/-- Every character of an accepted text is in the class of some piece. -/
theorem accepts_mem {good : Char → Prop} {ps : List Piece}
    (hps : ∀ p ∈ ps, ∀ c, p.test c = true → good c) :
    ∀ cs : List Char, accepts ps cs = true → ∀ c ∈ cs, good c := by
  induction ps with
  | nil =>
    intro cs h
    rw [accepts, List.isEmpty_iff] at h
    rw [h]
    exact fun c hc => absurd hc List.not_mem_nil
  | cons p ps ih =>
    have htail := ih fun q hq => hps q (List.mem_cons_of_mem p hq)
    have hhead := hps p List.mem_cons_self
    intro cs h
    cases p with
    | one t =>
      cases cs with
      | nil => exact fun c hc => absurd hc List.not_mem_nil
      | cons c cs =>
        rw [accepts, Bool.and_eq_true] at h
        intro d hd
        rcases List.mem_cons.mp hd with rfl | hd
        · exact hhead d h.1
        · exact htail cs h.2 d hd
    | star t => exact starThen_mem hhead htail cs h

/-- A piece of a literal allows a character of the literal. -/
theorem mem_of_test_lit {s : String} {p : Piece} (hp : p ∈ lit s) {c : Char}
    (hc : p.test c = true) : c ∈ s.toList := by
  obtain ⟨d, hd, rfl⟩ := List.mem_map.mp hp
  obtain rfl : c = d := by simpa [Piece.test] using hc
  exact hd

theorem test_of_mem_plus {t : Char → Bool} {p : Piece} (hp : p ∈ plus t) {c : Char}
    (hc : p.test c = true) : t c = true := by
  simp only [plus, List.mem_cons, List.not_mem_nil, or_false] at hp
  rcases hp with rfl | rfl <;> exact hc

theorem agree_refl {good : Char → Prop} (p : Piece) : Agree good p p := by
  cases p with
  | one t => exact fun _ _ => rfl
  | star t => exact fun _ _ => rfl

theorem agree_append_plus {good : Char → Prop} {t u : Char → Bool} (h : ∀ c, good c → t c = u c)
    {ps qs : List Piece} (hpq : List.Forall₂ (Agree good) ps qs) (s : String) :
    List.Forall₂ (Agree good) (ps ++ lit s ++ plus t) (qs ++ lit s ++ plus u) := by
  refine List.rel_append (List.rel_append hpq ?_) ?_
  · exact List.forall₂_same.mpr fun p _ => agree_refl p
  · exact .cons h (.cons h .nil)

theorem starThen_iff {t : Char → Bool} {r : List Char → Bool} {cs : List Char} :
    starThen t r cs = true ↔
      ∃ xs ys, cs = xs ++ ys ∧ (∀ x ∈ xs, t x = true) ∧ r ys = true := by
  induction cs with
  | nil =>
    constructor
    · intro h
      exact ⟨[], [], rfl, by simp, h⟩
    · rintro ⟨xs, ys, heq, -, hr⟩
      obtain ⟨rfl, rfl⟩ := List.nil_eq_append_iff.mp heq
      exact hr
  | cons c cs ih =>
    rw [starThen, Bool.or_eq_true, Bool.and_eq_true, ih]
    constructor
    · rintro (h | ⟨hc, xs, ys, rfl, hxs, hr⟩)
      · exact ⟨[], c :: cs, rfl, by simp, h⟩
      · refine ⟨c :: xs, ys, rfl, ?_, hr⟩
        intro x hx
        rcases List.mem_cons.mp hx with rfl | hx
        · exact hc
        · exact hxs x hx
    · rintro ⟨xs, ys, heq, hxs, hr⟩
      cases xs with
      | nil =>
        left
        rw [heq]
        exact hr
      | cons x xs =>
        right
        obtain ⟨rfl, rfl⟩ := List.cons.inj heq
        exact ⟨hxs c List.mem_cons_self, xs, ys, rfl,
          fun y hy => hxs y (List.mem_cons_of_mem c hy), hr⟩

/-- A leading character, any number of middle ones and a last one. -/
theorem accepts_one_star_one {p q r : Char → Bool} {cs : List Char} :
    accepts [.one p, .star q, .one r] cs = true ↔
      ∃ a ds u, cs = a :: (ds ++ [u]) ∧ p a = true ∧ (∀ d ∈ ds, q d = true) ∧ r u = true := by
  cases cs with
  | nil => simp [accepts]
  | cons c cs =>
    have hlast : ∀ ys, accepts [.one r] ys = true ↔ ∃ u, ys = [u] ∧ r u = true := by
      intro ys
      rcases ys with _ | ⟨u, _ | ⟨v, ys⟩⟩ <;> simp [accepts]
    rw [accepts, accepts, Bool.and_eq_true, starThen_iff]
    constructor
    · rintro ⟨hp, ds, ys, rfl, hds, hr⟩
      obtain ⟨u, rfl, hu⟩ := (hlast ys).mp hr
      exact ⟨c, ds, u, rfl, hp, hds, hu⟩
    · rintro ⟨a, ds, u, heq, hp, hds, hu⟩
      obtain ⟨rfl, rfl⟩ := List.cons.inj heq
      exact ⟨hp, ds, [u], rfl, hds, (hlast [u]).mpr ⟨u, rfl, hu⟩⟩

/-- `t` occurs in the text. -/
def occurs (t : List Char) : List Char → Bool
  | [] => t.isEmpty
  | c :: cs => t.isPrefixOf (c :: cs) || occurs t cs

/-- Occurring in the text is being an infix of it. -/
theorem occurs_iff_part {t cs : List Char} : occurs t cs = true ↔ t <:+: cs := by
  induction cs with
  | nil => rw [occurs, List.isEmpty_iff, List.infix_nil]
  | cons c cs ih =>
    rw [occurs, Bool.or_eq_true, ih, List.isPrefixOf_iff_prefix, List.infix_cons_iff]

/-- A text that holds a word holds every part of the word. -/
theorem occurs_trans {t u cs : List Char} (htu : occurs t u = true) (hu : occurs u cs = true) :
    occurs t cs = true := by
  rw [occurs_iff_part] at *
  exact htu.trans hu

theorem mem_of_occurs {c : Char} {cs : List Char} (h : occurs [c] cs = true) : c ∈ cs := by
  induction cs with
  | nil => simp [occurs] at h
  | cons d cs ih =>
    rw [occurs, Bool.or_eq_true] at h
    rcases h with h | h
    · have hcd : c = d := by simpa using h
      exact hcd ▸ List.mem_cons_self
    · exact List.mem_cons_of_mem d (ih h)

/-! ## Character classes -/

/-- The lower case of a character as far as ASCII letters go: besides the
    capitals, the Kelvin sign and the dotted capital I are lowered to text with
    an ASCII letter. -/
def lowerChar (c : Char) : List Char :=
  if 'A' ≤ c ∧ c ≤ 'Z' then [Char.ofNat (c.toNat + 32)]
  else if c.toNat = 0x212A then ['k']
  else if c.toNat = 0x130 then ['i', Char.ofNat 0x307]
  else [c]

/-- The characters of ASCII. -/
def isAscii (c : Char) : Bool := c.toNat < 128

/-- Every character of the text is in ASCII. -/
def ascii (s : String) : Bool := s.toList.all isAscii

theorem ascii_iff {s : String} : ascii s = true ↔ ∀ c ∈ s.toList, isAscii c = true := by
  simp [ascii]

/-- The zeros of the runs of ten decimal digits in Unicode 14 (category Nd),
    other than the one in ASCII. -/
def otherZeros : List Nat :=
  [0x660, 0x6F0, 0x7C0, 0x966, 0x9E6, 0xA66, 0xAE6, 0xB66, 0xBE6, 0xC66, 0xCE6, 0xD66,
   0xDE6, 0xE50, 0xED0, 0xF20, 0x1040, 0x1090, 0x17E0, 0x1810, 0x1946, 0x19D0, 0x1A80, 0x1A90,
   0x1B50, 0x1BB0, 0x1C40, 0x1C50, 0xA620, 0xA8D0, 0xA900, 0xA9D0, 0xA9F0, 0xAA50, 0xABF0,
   0xFF10, 0x104A0, 0x10D30, 0x11066, 0x110F0, 0x11136, 0x111D0, 0x112F0, 0x11450, 0x114D0,
   0x11650, 0x116C0, 0x11730, 0x118E0, 0x11950, 0x11C50, 0x11D50, 0x11DA0, 0x16A60, 0x16AC0,
   0x16B50, 0x1D7CE, 0x1D7D8, 0x1D7E2, 0x1D7EC, 0x1D7F6, 0x1E140, 0x1E2F0, 0x1E950, 0x1FBF0]

/-- The value of a decimal digit of any script. -/
def decimalValue (c : Char) : Option Nat :=
  ((0x30 :: otherZeros).find? fun z => z ≤ c.toNat && c.toNat < z + 10).map (c.toNat - ·)

/-- `\d` on Unicode text. -/
def isDecimal (c : Char) : Bool := (decimalValue c).isSome

/-- `[0-9]`. -/
def isDigit (c : Char) : Bool := 0x30 ≤ c.toNat && c.toNat < 0x3A

theorem isAscii_of_isDigit {c : Char} (h : isDigit c = true) : isAscii c = true := by
  simp only [isDigit, isAscii, Bool.and_eq_true, decide_eq_true_eq] at h ⊢
  omega

theorem decimalValue_of_isDigit {c : Char} (h : isDigit c = true) :
    decimalValue c = some (c.toNat - 0x30) := by
  have hfirst : (decide (0x30 ≤ c.toNat) && decide (c.toNat < 0x30 + 10)) = true := h
  rw [decimalValue, List.find?_cons, hfirst]
  rfl

theorem otherZeros_not_ascii : ∀ z ∈ otherZeros, 128 ≤ z := by decide

/-- In ASCII the decimal digits are `[0-9]`. -/
theorem isDecimal_of_isAscii {c : Char} (h : isAscii c = true) : isDecimal c = isDigit c := by
  cases hd : isDigit c with
  | true => rw [isDecimal, decimalValue_of_isDigit hd]; rfl
  | false =>
    have hfirst : (decide (0x30 ≤ c.toNat) && decide (c.toNat < 0x30 + 10)) = false := hd
    have hrest : (otherZeros.find? fun z => z ≤ c.toNat && c.toNat < z + 10) = none := by
      rw [List.find?_eq_none]
      intro z hz
      have hge := otherZeros_not_ascii z hz
      simp only [isAscii, decide_eq_true_eq] at h
      simp only [Bool.and_eq_true, decide_eq_true_eq]
      omega
    rw [isDecimal, decimalValue, List.find?_cons, hfirst, hrest]
    rfl

end Cidre.Pattern
