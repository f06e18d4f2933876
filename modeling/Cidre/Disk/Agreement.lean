/-
  Cidre.Disk.Agreement

  The planner of `DiskPlan` against the helper of `Helper`: two validators of
  targets, sizes and volume names, in two languages.  They disagree on decimal
  digits outside ASCII and on a volume name with a line break; on every other
  input a plan that passes is accepted by the helper.
-/

import Mathlib.Tactic.Linarith
import Cidre.Disk.DiskPlan

namespace Cidre.Disk

open Partial Pattern

/-! ## Characters -/

theorem isTerminator_of_isDecimal {c : Char} (h : isDecimal c = true) :
    Swift.isTerminator c = false := by
  by_contra hterm
  rw [Bool.not_eq_false, Swift.isTerminator, List.contains_iff_mem] at hterm
  simp only [List.mem_cons, List.not_mem_nil, or_false] at hterm
  simp only [isDecimal, decimalValue] at h
  rcases hterm with hv | hv | hv | hv | hv | hv | hv <;>
    · rw [hv] at h
      exact absurd h (by decide)

theorem isDecimal_of_isDigit {c : Char} (h : isDigit c = true) : isDecimal c = true := by
  rw [isDecimal_of_isAscii (isAscii_of_isDigit h)]
  exact h

theorem isUnit_cases {c : Char} (h : isUnit c = true) :
    Swift.isTerminator c = false ∧ (c = '\u212a' ∨ isAscii c = true) := by
  rw [isUnit, List.contains_iff_mem] at h
  simp only [List.mem_cons, List.not_mem_nil, or_false] at h
  rcases h with rfl | rfl | rfl | rfl | rfl | rfl | rfl | rfl | rfl | rfl | rfl | rfl | rfl <;>
    decide

/-- The units of the planner are units of the helper, with the same factor. -/
theorem scale_spec {u : Char} {f : Int} (h : scale u = some f) :
    unitMultiplier u = some f ∧ 1 ≤ f ∧ isAscii u = true := by
  unfold scale at h
  split at h <;> cases h <;> decide

/-! ## Numbers -/

/-- The value of a text of ASCII digits, on top of `acc`. -/
def digitsValue (acc : Nat) (cs : List Char) : Nat :=
  cs.foldl (fun acc c => acc * 10 + (c.toNat - 0x30)) acc

theorem foldlM_decimalValue {cs : List Char} (h : ∀ c ∈ cs, isDigit c = true) (acc : Nat) :
    cs.foldlM (fun acc c => (decimalValue c).map fun d => acc * 10 + d) acc =
      some (digitsValue acc cs) := by
  induction cs generalizing acc with
  | nil => rfl
  | cons c cs ih =>
    have htail : ∀ d ∈ cs, isDigit d = true := fun d hd => h d (List.mem_cons_of_mem c hd)
    rw [List.foldlM_cons, decimalValue_of_isDigit (h c List.mem_cons_self)]
    exact ih htail _

theorem le_digitsValue (acc : Nat) (cs : List Char) : acc ≤ digitsValue acc cs := by
  induction cs generalizing acc with
  | nil => exact Nat.le_refl _
  | cons c cs ih =>
    have hstep := ih (acc * 10 + (c.toNat - 0x30))
    show acc ≤ digitsValue (acc * 10 + (c.toNat - 0x30)) cs
    omega

theorem pyDigits_digits {cs : List Char} (hne : cs ≠ []) (h : ∀ c ∈ cs, isDigit c = true) :
    pyDigits cs = some (digitsValue 0 cs) := by
  rw [pyDigits, if_neg hne, foldlM_decimalValue h]

/-- A decimal digit is no sign, no underscore and no blank. -/
theorem isDecimal_plain {c : Char} (h : isDecimal c = true) :
    c.toNat ∉ 0x2B :: 0x2D :: 0x5F :: pySpaces := by
  intro hc
  have hnone : ∀ v ∈ 0x2B :: 0x2D :: 0x5F :: pySpaces,
      ((0x30 :: otherZeros).find? fun z => z ≤ v && v < z + 10) = none := by decide
  rw [isDecimal, decimalValue, hnone _ hc] at h
  cases h

/-- On digits alone `int` is the number they stand for. -/
theorem pyInt_decimals {cs : List Char} {n : Int} (h : ∀ c ∈ cs, isDecimal c = true)
    (hn : pyInt cs = some n) : ∃ k, pyDigits cs = some k ∧ n = k := by
  have hplain := fun c hc => isDecimal_plain (h c hc)
  have hspace : ∀ c ∈ cs, isPySpace c = false := by
    intro c hc
    have hnot := hplain c hc
    simp only [List.mem_cons, not_or] at hnot
    simpa [isPySpace] using hnot.2.2.2
  have hdrop : ∀ l : List Char, (∀ c ∈ l, isPySpace c = false) → l.dropWhile isPySpace = l := by
    intro l hl
    cases l with
    | nil => rfl
    | cons c l => exact List.dropWhile_cons_of_neg (by simp [hl c List.mem_cons_self])
  have hsign : ∀ s ∈ ['-', '+', '_'], s ∉ cs := by
    intro s hs hmem
    have hnot := hplain s hmem
    simp only [List.mem_cons, List.not_mem_nil, or_false] at hs
    rcases hs with rfl | rfl | rfl <;> exact absurd (by decide) hnot
  have hhead : ∀ s ∈ ['-', '+', '_'], cs.head? ≠ some s :=
    fun s hs hmem => hsign s hs (List.mem_of_head? hmem)
  have hminus := hhead '-' (by simp)
  have hunsigned : ¬(cs.head? = some '-' ∨ cs.head? = some '+') :=
    not_or.mpr ⟨hminus, hhead '+' (by simp)⟩
  unfold pyInt at hn
  rw [hdrop cs hspace, hdrop cs.reverse (fun c hc => hspace c (List.mem_reverse.mp hc)),
    List.reverse_reverse] at hn
  simp only [hunsigned, if_false] at hn
  rw [List.splitOn_eq_singleton (hsign '_' (by simp)), List.flatten_singleton] at hn
  split at hn
  · obtain ⟨k, hk, hvalue⟩ := Option.map_eq_some_iff.mp hn
    exact ⟨k, hk, hvalue.symm⟩
  · cases hn

theorem parseInt64_digits {cs : List Char} (hne : cs ≠ []) (h : ∀ c ∈ cs, isDigit c = true)
    (hlt : digitsValue 0 cs < 2 ^ 63) : parseInt64 cs = some ((digitsValue 0 cs : Nat) : Int) := by
  have hall : cs.all isDigit = true := List.all_eq_true.mpr h
  have hempty : cs.isEmpty = false := by simpa using hne
  unfold parseInt64
  rw [hempty, hall]
  exact if_pos hlt

theorem one_le_digitsValue {a : Char} (h : isNonzeroDigit a = true) (ds : List Char) :
    1 ≤ digitsValue 0 (a :: ds) := by
  have hle := le_digitsValue (0 * 10 + (a.toNat - 0x30)) ds
  have ha : 0x31 ≤ a.toNat := by
    simp only [isNonzeroDigit, isDigit, Bool.and_eq_true, decide_eq_true_eq, ne_eq] at h
    have hne : a.toNat ≠ 0x30 := by
      intro heq
      exact h.2 (Char.toNat_inj.mp heq)
    omega
  show 1 ≤ digitsValue (0 * 10 + (a.toNat - 0x30)) ds
  omega

/-! ## Sizes -/

theorem isDigit_of_isNonzeroDigit {c : Char} (h : isNonzeroDigit c = true) : isDigit c = true := by
  rw [isNonzeroDigit, Bool.and_eq_true] at h
  exact h.1

/-- The unit of a size is its last character. -/
theorem getLast?_size {s : String} {a u : Char} {ds : List Char}
    (hs : s.toList = a :: (ds ++ [u])) : s.toList.getLast? = some u := by
  rw [hs, ← List.cons_append, List.getLast?_concat]

/-- The value of a size that matches, by its digits and its unit. -/
theorem sizeBytes_eq {s : String} {v : Int} (hm : matchesPlanSize s = true)
    (hv : sizeBytes s = some v) : ∃ a ds u k f, s.toList = a :: (ds ++ [u]) ∧
      isNonzeroDigit a = true ∧ (∀ d ∈ ds, isDecimal d = true) ∧ isUnit u = true ∧
      pyDigits (a :: ds) = some k ∧ scale u = some f ∧ v = k * f := by
  obtain ⟨a, ds, u, hs, ha, hds, hu⟩ := accepts_one_star_one.mp hm
  have hinit : s.toList.dropLast = a :: ds := by
    rw [hs, ← List.cons_append, List.dropLast_concat]
  have hdecimal : ∀ c ∈ a :: ds, isDecimal c = true :=
    List.forall_mem_cons.mpr ⟨isDecimal_of_isDigit (isDigit_of_isNonzeroDigit ha), hds⟩
  obtain ⟨unit, hunit, hnumber⟩ := Option.bind_eq_some_iff.mp hv
  obtain rfl : u = unit := Option.some.inj ((getLast?_size hs).symm.trans hunit)
  obtain ⟨n, hn, hfactor⟩ := Option.bind_eq_some_iff.mp hnumber
  obtain ⟨f, hf, hvalue⟩ := Option.bind_eq_some_iff.mp hfactor
  obtain ⟨k, hk, rfl⟩ := pyInt_decimals hdecimal (hinit ▸ hn)
  exact ⟨a, ds, u, k, f, hs, ha, hds, hu, hk, hf, (Option.some.inj hvalue).symm⟩

theorem planSize_terminator {cs : List Char} (h : accepts planSize cs = true) :
    ∀ c ∈ cs, Swift.isTerminator c = false := by
  refine accepts_mem ?_ cs h
  intro p hp c hc
  simp only [planSize, List.mem_cons, List.not_mem_nil, or_false] at hp
  rcases hp with rfl | rfl | rfl
  · exact isTerminator_of_isDecimal (isDecimal_of_isDigit (isDigit_of_isNonzeroDigit hc))
  · exact isTerminator_of_isDecimal hc
  · exact (isUnit_cases hc).1

/-- The helper matches a size of the planner exactly when it is ASCII. -/
theorem matchesSize_iff {s : String} {v : Int} (hm : matchesPlanSize s = true)
    (hv : sizeBytes s = some v) : matchesSize s = true ↔ ascii s = true := by
  have hterm := planSize_terminator hm
  obtain ⟨a, ds, u, -, f, hs, ha, hds, hu, -, hf, -⟩ := sizeBytes_eq hm hv
  have hunit : isAscii u = true := (scale_spec hf).2.2
  have hdigit := isDigit_of_isNonzeroDigit ha
  rw [matchesSize, Swift.anchored_eq hterm, ascii_iff, Bool.or_eq_true]
  constructor
  · rintro (hzero | hsized)
    · exact accepts_mem (by simp [lit, Piece.test, isAscii]) _ hzero
    · obtain ⟨a', ds', u', hs', ha', hds', -⟩ := accepts_one_star_one.mp hsized
      rw [hs] at hs'
      obtain ⟨rfl, htail⟩ := List.cons.inj hs'
      obtain ⟨rfl, -⟩ := List.append_inj' htail rfl
      intro c hc
      rw [hs] at hc
      rcases List.mem_cons.mp hc with rfl | hc
      · exact isAscii_of_isDigit hdigit
      · rcases List.mem_append.mp hc with hc | hc
        · exact isAscii_of_isDigit (hds' c hc)
        · rw [List.mem_singleton.mp hc]
          exact hunit
  · intro hascii
    right
    refine accepts_one_star_one.mpr ⟨a, ds, u, hs, ha, ?_, hu⟩
    intro d hd
    have hda : isAscii d = true := hascii d (by rw [hs]; simp [hd])
    rw [← isDecimal_of_isAscii hda]
    exact hds d hd

/-- On an ASCII size the two languages compute the same positive number. -/
theorem bytesFrom_eq {s : String} {v : Int} (hm : matchesPlanSize s = true)
    (hv : sizeBytes s = some v) (hascii : ascii s = true) :
    1 ≤ v ∧ (v < 2 ^ 63 → bytesFrom s = some v) := by
  obtain ⟨a, ds, u, k, f, hs, ha, hds, -, hk, hf, rfl⟩ := sizeBytes_eq hm hv
  have hdigit := isDigit_of_isNonzeroDigit ha
  have hall : ∀ c ∈ a :: ds, isDigit c = true := by
    intro c hc
    rcases List.mem_cons.mp hc with rfl | hc
    · exact hdigit
    · have hca : isAscii c = true := ascii_iff.mp hascii c (by rw [hs]; simp [hc])
      rw [← isDecimal_of_isAscii hca]
      exact hds c hc
  have hlast := getLast?_size hs
  have hinit : s.toList.dropLast = a :: ds := by
    rw [hs, ← List.cons_append, List.dropLast_concat]
  obtain rfl := Option.some.inj ((pyDigits_digits (List.cons_ne_nil a ds) hall).symm.trans hk)
  obtain ⟨hmult, hf1, -⟩ := scale_spec hf
  have hpos := one_le_digitsValue ha ds
  generalize hn : digitsValue 0 (a :: ds) = n at hpos ⊢
  refine ⟨?_, fun hlt => ?_⟩
  · nlinarith
  · have hnlt : n < 2 ^ 63 := by
      have : (n : Int) < 2 ^ 63 := by nlinarith
      exact_mod_cast this
    have hne : s ≠ "0" := by
      rintro rfl
      simp at hs
    rw [bytesFrom, if_neg hne, hlast, hinit,
      parseInt64_digits (List.cons_ne_nil a ds) hall (hn ▸ hnlt), hn]
    simp only [Option.bind_eq_bind, Option.bind_some, hmult]
    exact if_pos hlt

/-! ## Targets and printed sizes -/

/-- What holds for the letters of an identifier and for the digits it is made
    with holds for all its characters. -/
theorem identifier_mem {good : Char → Prop} {t : Char → Bool}
    (hlit : ∀ c ∈ ['d', 'i', 's', 'k'], good c) (ht : ∀ c, t c = true → good c) :
    ∀ p ∈ lit "disk" ++ plus t ++ lit "s" ++ plus t, ∀ c, p.test c = true → good c := by
  intro p hp c hc
  rcases List.mem_append.mp hp with hp | hp
  · rcases List.mem_append.mp hp with hp | hp
    · rcases List.mem_append.mp hp with hp | hp
      · exact hlit c (mem_of_test_lit hp hc)
      · exact ht c (test_of_mem_plus hp hc)
    · have hs : c = 's' := by simpa using mem_of_test_lit hp hc
      exact hlit c (by simp [hs])
  · exact ht c (test_of_mem_plus hp hc)

/-- The helper matches a target of the planner exactly when it is ASCII. -/
theorem matchesTarget_iff {s : String} (h : accepts planTarget s.toList = true) :
    (matchesContainer s = true ∨ matchesDisk s = true) ↔ ascii s = true := by
  have hterm : ∀ c ∈ s.toList, Swift.isTerminator c = false :=
    accepts_mem (identifier_mem (by simp [Swift.isTerminator])
      fun c hc => isTerminator_of_isDecimal hc) _ h
  rw [matchesContainer, matchesDisk, Swift.anchored_eq hterm, Swift.anchored_eq hterm, ascii_iff]
  have hdigits := fun c (hc : isDigit c = true) => isAscii_of_isDigit hc
  have hpieces : ∀ p ∈ diskIdentifier, ∀ c, p.test c = true → isAscii c = true :=
    identifier_mem (by simp [isAscii]) hdigits
  constructor
  · rintro (hc | hd)
    · refine accepts_mem (fun p hp => hpieces p ?_) _ hc
      rw [diskIdentifier, List.append_assoc]
      exact List.mem_append_left _ hp
    · exact accepts_mem hpieces _ hd
  · intro hascii
    right
    have hagree : List.Forall₂ (Agree fun c => isAscii c = true) planTarget diskIdentifier := by
      have hclass := fun c (hc : isAscii c = true) => isDecimal_of_isAscii hc
      exact agree_append_plus hclass (agree_append_plus hclass .nil "disk") "s"
    rw [← accepts_congr hagree _ hascii]
    exact h

theorem ascii_append {s t : String} (hs : ascii s = true) (ht : ascii t = true) :
    ascii (s ++ t) = true := by
  rw [ascii_iff] at hs ht ⊢
  intro c hc
  rw [String.toList_append] at hc
  rcases List.mem_append.mp hc with hc | hc
  · exact hs c hc
  · exact ht c hc

theorem ascii_natRepr (n : Nat) : ascii n.repr = true := by
  rw [ascii_iff, Nat.toList_repr]
  intro c hc
  have hd : c.isDigit = true := Nat.isDigit_of_mem_toDigits (by decide) (by decide) hc
  refine isAscii_of_isDigit ?_
  simp only [Char.isDigit, Bool.and_eq_true, decide_eq_true_eq] at hd
  simp only [isDigit, Bool.and_eq_true, decide_eq_true_eq]
  obtain ⟨hlo, hhi⟩ := hd
  have hlo' : 48 ≤ c.toNat := hlo
  have hhi' : c.toNat ≤ 57 := hhi
  omega

/-- The sizes the planner prints are ASCII. -/
theorem ascii_bytesText (n : Int) : ascii (bytesText n) = true := by
  refine ascii_append ?_ (by decide)
  rw [Int.toString_eq_repr, Int.repr_eq_if]
  split
  · exact ascii_natRepr _
  · exact ascii_append (by decide) (ascii_natRepr _)

/-! ## What a passing plan is -/

/-- Everything an install plan without errors has passed. -/
structure Passed (host : PlanHost) (i : PlanInput) (p : DiskPlan) (lim : Limits) : Prop where
  limits : host.limits i.target = some lim
  target : accepts planTarget i.target.toList = true
  resolved : (resolveSizes host lim i).errors = []
  container : matchesPlanSize (resolveSizes host lim i).containerSize = true
  partition : matchesPlanSize (resolveSizes host lim i).partitionSize = true
  volume : validVolume i.volumeName = true
  bounds : ∃ requested partition,
    sizeBytes (resolveSizes host lim i).containerSize = some requested ∧
    sizeBytes (resolveSizes host lim i).partitionSize = some partition ∧
    lim.minPreferred ≤ requested ∧ requested + partition ≤ lim.current
  sizes : p.containerSize = (resolveSizes host lim i).containerSize ∧
    p.partitionSize = (resolveSizes host lim i).partitionSize
  names : p.target = i.target ∧ p.volumeName = i.volumeName ∧
    p.helperOperation = "partition-create"

theorem ite_nil_eq {α : Type} {c : Prop} [Decidable c] {a : α} :
    (if c then [] else [a]) = ([] : List α) ↔ c := by
  by_cases hc : c <;> simp [hc]

theorem ite_singleton_eq {α : Type} {c : Prop} [Decidable c] {a : α} :
    (if c then [a] else []) = ([] : List α) ↔ ¬c := by
  by_cases hc : c <;> simp [hc]

theorem shapeErrors_nil {s : Sizing} {volumeName : String} (h : shapeErrors s volumeName = []) :
    matchesPlanSize s.containerSize = true ∧ matchesPlanSize s.partitionSize = true ∧
      validVolume volumeName = true := by
  simpa only [shapeErrors, List.append_eq_nil_iff, ite_nil_eq, and_assoc] using h

theorem limitErrors_nil {lim : Limits} {s : Sizing} (h : limitErrors lim s = some []) :
    ∃ requested partition, sizeBytes s.containerSize = some requested ∧
      sizeBytes s.partitionSize = some partition ∧
      lim.minPreferred ≤ requested ∧ requested + partition ≤ lim.current := by
  simp only [limitErrors, Option.bind_eq_bind, Option.bind_eq_some_iff, Option.some.injEq,
    List.append_eq_nil_iff, ite_singleton_eq] at h
  obtain ⟨requested, hr, partition, hp, hmin, hmax⟩ := h
  exact ⟨requested, partition, hr, hp, by omega, by omega⟩

theorem diskPlan_passed {host : PlanHost} {i : PlanInput} {p : DiskPlan}
    (hmode : i.mode = "install") (hdarwin : host.darwin = true)
    (h : diskPlan host i = some p) (hpass : p.errors = []) : ∃ lim, Passed host i p lim := by
  obtain ⟨errors, herr, hrest⟩ := Option.bind_eq_some_iff.mp h
  obtain ⟨-, -, hp⟩ := Option.bind_eq_some_iff.mp hrest
  obtain rfl := Option.some.inj hp
  obtain rfl : errors = [] := hpass
  by_cases hinput : inputErrors i = []
  · have htarget : accepts planTarget i.target.toList = true := by
      simp only [inputErrors, List.append_eq_nil_iff, ite_nil_eq] at hinput
      exact hinput.2
    cases hlim : host.limits i.target with
    | none => simp [planErrors, sizing, hmode, hinput, hdarwin, hlim] at herr
    | some lim =>
      have hsizing : sizing host i = (resolveSizes host lim i, some lim) := by
        rw [sizing, if_pos ⟨hmode, hinput, hdarwin⟩, hlim]
      simp only [planErrors, hsizing, hmode, if_true] at herr
      split at herr
      · rename_i hnil
        obtain ⟨hres, hshape⟩ := List.append_eq_nil_iff.mp hnil
        obtain ⟨hc, hpt, hvol⟩ := shapeErrors_nil hshape
        refine ⟨lim, hlim, htarget, hres, hc, hpt, hvol, limitErrors_nil herr, ?_, ?_⟩
        · rw [hsizing]
          exact ⟨rfl, rfl⟩
        · simp [hmode]
      · rename_i hne
        exact absurd (Option.some.inj herr) hne
  · -- Errors of the input stay to the end.
    have hsizing : (sizing host i).1.errors = inputErrors i ∧ (sizing host i).2 = none := by
      rw [sizing, if_neg fun hc => hinput hc.2.1]
      exact ⟨rfl, rfl⟩
    unfold planErrors at herr
    obtain ⟨hs, hl⟩ := hsizing
    simp only [hl, hmode, if_true, Option.some.injEq, List.append_eq_nil_iff, hs] at herr
    exact absurd herr.1 hinput

theorem le_foldlM_decimalValue {cs : List Char} {acc n : Nat}
    (h : cs.foldlM (fun acc c => (decimalValue c).map fun d => acc * 10 + d) acc = some n) :
    acc ≤ n := by
  induction cs generalizing acc with
  | nil => exact Nat.le_of_eq (Option.some.inj h)
  | cons c cs ih =>
    rw [List.foldlM_cons] at h
    obtain ⟨acc', hacc, hrest⟩ := Option.bind_eq_some_iff.mp h
    obtain ⟨d, -, rfl⟩ := Option.map_eq_some_iff.mp hacc
    have hle := ih hrest
    omega

/-- A size that matches is positive, in the digits of any script. -/
theorem sizeBytes_pos {s : String} {v : Int} (hm : matchesPlanSize s = true)
    (hv : sizeBytes s = some v) : 0 < v := by
  obtain ⟨a, ds, u, n, f, -, ha, -, -, hn, hf, rfl⟩ := sizeBytes_eq hm hv
  have hpos : 1 ≤ n := by
    rw [pyDigits, if_neg (List.cons_ne_nil a ds), List.foldlM_cons,
      decimalValue_of_isDigit (isDigit_of_isNonzeroDigit ha)] at hn
    have hle := le_foldlM_decimalValue hn
    have hfirst : 1 ≤ digitsValue 0 [a] := one_le_digitsValue ha []
    exact Nat.le_trans hfirst hle
  have hf1 := (scale_spec hf).2.1
  exact Int.mul_pos (by omega) (by omega)

/-- The sizes of an install plan without errors leave macOS the size it needs,
    create a partition, and fit on the disk. -/
theorem diskPlan_sizes_safe {host : PlanHost} {i : PlanInput} {p : DiskPlan}
    (hmode : i.mode = "install") (hdarwin : host.darwin = true)
    (hplan : diskPlan host i = some p) (hpass : p.errors = []) :
    ∃ lim container partition, host.limits i.target = some lim ∧
      sizeBytes p.containerSize = some container ∧ sizeBytes p.partitionSize = some partition ∧
      lim.minPreferred ≤ container ∧ 0 < partition ∧ container + partition ≤ lim.current := by
  obtain ⟨lim, hok⟩ := diskPlan_passed hmode hdarwin hplan hpass
  obtain ⟨container, partition, hcontainer, hpartition, hmin, hmax⟩ := hok.bounds
  obtain ⟨hcs, hps⟩ := hok.sizes
  have hpos := sizeBytes_pos hok.partition hpartition
  exact ⟨lim, container, partition, hok.limits, hcs ▸ hcontainer, hps ▸ hpartition, hmin, hpos,
    hmax⟩

theorem isMax_ascii {s : String} (h : isMax s = true) : ascii s = true := by
  rw [ascii_iff]
  refine accepts_mem ?_ _ h
  intro p hp c hc
  simp only [List.mem_cons, List.not_mem_nil, or_false] at hp
  rcases hp with rfl | rfl | rfl <;>
    · simp only [Piece.test, Bool.or_eq_true, decide_eq_true_eq] at hc
      rcases hc with rfl | rfl <;> decide

/-- The resolved sizes are ASCII, except for those the custom mode copies. -/
theorem resolveSizes_ascii {host : PlanHost} {lim : Limits} {i : PlanInput}
    (h : (resolveSizes host lim i).errors = []) :
    (ascii (resolveSizes host lim i).containerSize = true ∧
        ascii (resolveSizes host lim i).partitionSize = true) ↔
      (i.partitionMode = "custom" → ascii i.containerSize = true ∧ ascii i.partitionSize = true) := by
  rw [resolveSizes] at h ⊢
  dsimp only at h ⊢
  split
  · rename_i hmode
    simp [hmode, ascii_bytesText]
  · split
    · rename_i hmode
      simp [hmode, ascii_bytesText]
    · split
      · rename_i hmode
        simp [hmode, ascii_bytesText]
      · split
        · rename_i h1 h2 h3 hmode
          rw [if_neg h1, if_neg h2, if_neg h3, if_pos hmode] at h
          simp only [hmode, true_imp_iff]
          rw [customSizes] at h ⊢
          split
          · rename_i hmax
            rw [if_pos hmax] at h
            have hps := isMax_ascii hmax
            split
            · split
              · simp [hps]
              · split
                · simp [hps]
                · simp [hps, ascii_bytesText]
            · simp [hps]
          · exact Iff.rfl
        · rename_i h1 h2 h3 h4
          rw [if_neg h1, if_neg h2, if_neg h3, if_neg h4] at h
          exact absurd h (by simp)

/-! ## Agreement -/

/-- The helper reads the limits the planner has read, as 64-bit integers. -/
def SameLimits (host : PlanHost) (m : Machine) (target : String) : Prop :=
  ∀ lim, host.limits target = some lim → lim.current < 2 ^ 63 ∧
    ∃ d, m.plist ["apfs", "resizeContainer", target, "limits", "-plist"] = some d ∧
      (d.lookup "CurrentSize").bind int64Value = some lim.current ∧
      (d.lookup "MinimumSizePreferred").bind int64Value = some lim.minPreferred

/-- The request made from the plan passes the helper's argument validation, its
    plan id and its limits. -/
structure HelperAccepts (S : SwiftText) (sha256 : Bytes → String) (m : Machine) (p : DiskPlan) :
    Prop where
  target : matchesContainer p.target = true ∨ matchesDisk p.target = true
  containerSize : matchesSize p.containerSize = true
  volumeName : validVolumeName S p.volumeName = true
  partitionSize : matchesSize p.partitionSize = true
  planID : ∀ dryRun token, (p.request dryRun token).planID =
    some (expectedPlanID sha256 (p.request dryRun token) p.target)
  resize : validateResize m p.target p.containerSize (some p.partitionSize) = some ""

theorem validVolumeName_iff {S : SwiftText} {v : String} (h : validVolume v = true) :
    validVolumeName S v = true ↔ S.contains v "\n" = false := by
  simp only [validVolume, Bool.and_eq_true, decide_eq_true_eq, Bool.not_eq_true',
    List.contains_eq_mem, decide_eq_false_iff_not] at h
  obtain ⟨⟨hne, hslash⟩, hlen⟩ := h
  have hcount : S.count v ≤ 64 := (S.count_le v).trans hlen
  have hns : S.contains v "/" = false := by
    by_contra hc
    exact hslash (S.contains_slash v (by simpa using hc))
  simp [validVolumeName, hne, hcount, hns]

theorem validateResize_ok {m : Machine} {target cs ps : String} {d : Dict}
    {current preferred requested partition : Int}
    (hd : m.plist ["apfs", "resizeContainer", target, "limits", "-plist"] = some d)
    (hcur : (d.lookup "CurrentSize").bind int64Value = some current)
    (hpref : (d.lookup "MinimumSizePreferred").bind int64Value = some preferred)
    (hcs : bytesFrom cs = some requested) (hps : bytesFrom ps = some partition)
    (hpos : 1 ≤ partition) (hmin : preferred ≤ requested) (hmax : requested + partition ≤ current) :
    validateResize m target cs (some ps) = some "" := by
  simp only [validateResize, hd, hcur, hpref, hcs, hps, Option.bind_eq_bind, Option.bind_some]
  rw [if_neg (by omega), if_neg (by omega), if_neg (by omega), if_neg (by omega)]

/-- An install plan that passes on macOS makes a request the helper accepts,
    exactly when the target and the sizes given in custom mode are ASCII and the
    volume name has no line break. -/
theorem helper_accepts_plan_iff {host : PlanHost} {i : PlanInput} {p : DiskPlan} {S : SwiftText}
    {m : Machine} (hmode : i.mode = "install") (hid : i.planId = "")
    (hdarwin : host.darwin = true) (hplan : diskPlan host i = some p) (hpass : p.errors = [])
    (hsame : SameLimits host m i.target) :
    HelperAccepts S host.sha256 m p ↔
      ascii i.target = true ∧ S.contains i.volumeName "\n" = false ∧
        (i.partitionMode = "custom" →
          ascii i.containerSize = true ∧ ascii i.partitionSize = true) := by
  obtain ⟨lim, hok⟩ := diskPlan_passed hmode hdarwin hplan hpass
  obtain ⟨requested, partition, hreq, hpart, hmin, hmax⟩ := hok.bounds
  obtain ⟨htarget, hvol, hop⟩ := hok.names
  obtain ⟨hcs, hps⟩ := hok.sizes
  rw [← resolveSizes_ascii hok.resolved, ← matchesTarget_iff hok.target,
    ← validVolumeName_iff hok.volume, ← matchesSize_iff hok.container hreq,
    ← matchesSize_iff hok.partition hpart, ← hcs, ← hps, ← htarget, ← hvol]
  constructor
  · intro h
    exact ⟨h.target, h.volumeName, h.containerSize, h.partitionSize⟩
  · rintro ⟨ht, hv, hc, hq⟩
    refine ⟨ht, hc, hv, hq, fun dryRun token => ?_, ?_⟩
    · obtain ⟨errors, -, hrest⟩ := Option.bind_eq_some_iff.mp hplan
      obtain ⟨-, -, hp⟩ := Option.bind_eq_some_iff.mp hrest
      obtain rfl := Option.some.inj hp
      simp [DiskPlan.request, expectedPlanID, hid, hmode, Operation.ofName]
    · have hasc := (matchesSize_iff hok.container hreq).mp (hcs ▸ hc)
      have hasp := (matchesSize_iff hok.partition hpart).mp (hps ▸ hq)
      obtain ⟨hr1, hrb⟩ := bytesFrom_eq hok.container hreq hasc
      obtain ⟨hp1, hpb⟩ := bytesFrom_eq hok.partition hpart hasp
      obtain ⟨hlt, d, hd, hcur, hpref⟩ := hsame lim hok.limits
      rw [htarget, hcs, hps]
      exact validateResize_ok hd hcur hpref (hrb (by omega)) (hpb (by omega)) hp1 hmin hmax

-- A startup store of 100 GB, to be split into two halves.

def sampleLimits : Limits := ⟨100000000000, 50000000000⟩

def sampleHost : PlanHost where
  darwin := true
  limits := fun target => if target = "disk0s2" then some sampleLimits else none
  autoSteps := fun _ => 3
  sha256 := (Python.ofTables []
    [("install\npartition-create\ndisk0s2\n50G\n50G\nJackrose",
      "f6af8362979b1e1cf54140939e6a599d1f2d4aaa4c7bd573202512a62d3d89f5"),
     ("install\npartition-create\ndisk0s2\n50G\n50G\nJack\nrose",
      "aa2676c44e81025e381f8382c7accb78ff86fed3a1662aeaf216fe844f2045d0")]).sha256

def sampleMachine : Machine where
  runDiskutil := fun arguments =>
    if arguments = ["apfs", "resizeContainer", "disk0s2", "limits", "-plist"] then
      (0, some (.obj [("CurrentSize", .num (100000000000 : Nat) "100000000000"),
        ("MinimumSizePreferred", .num (50000000000 : Nat) "50000000000")]))
    else (1, none)
  process := fun _ => .ok (0, "", "")

def sampleInput (volumeName : String) : PlanInput where
  mode := "install"
  target := "disk0s2"
  containerSize := "50G"
  partitionSize := "50G"
  partitionMode := "custom"
  volumeName := volumeName
  planId := ""

/-- The plan made from it. -/
def samplePlan (volumeName planId : String) : DiskPlan where
  errors := []
  planId := planId
  helperOperation := "partition-create"
  target := "disk0s2"
  containerSize := "50G"
  partitionSize := "50G"
  volumeName := volumeName

theorem int64Value_num (n : Nat) (text : String) :
    int64Value (.num (n : Rat) text) = some (n : Int) := by
  simp [int64Value]

theorem sampleMachine_sameLimits : SameLimits sampleHost sampleMachine "disk0s2" := by
  intro lim hlim
  obtain rfl : sampleLimits = lim := Option.some.inj hlim
  refine ⟨by decide, _, rfl, ?_, ?_⟩
  · exact int64Value_num 100000000000 "100000000000"
  · exact int64Value_num 50000000000 "50000000000"

/-- The `max` mode on that store. -/
theorem diskPlan_sizes_safe_max :
    ∃ p, diskPlan sampleHost { sampleInput "Jackrose" with partitionMode := "max" } = some p ∧
      ∃ lim container partition, sampleHost.limits "disk0s2" = some lim ∧
        sizeBytes p.containerSize = some container ∧
        sizeBytes p.partitionSize = some partition ∧
        lim.minPreferred ≤ container ∧ 0 < partition ∧ container + partition ≤ lim.current := by
  have hpass : (diskPlan sampleHost { sampleInput "Jackrose" with partitionMode := "max" }).map
      DiskPlan.errors = some [] := by decide +kernel
  obtain ⟨p, hplan, herrors⟩ := Option.map_eq_some_iff.mp hpass
  exact ⟨p, hplan, diskPlan_sizes_safe rfl rfl hplan herrors⟩

/-- The default volume name: planner and helper agree. -/
theorem helper_accepts_sample_plan :
    diskPlan sampleHost (sampleInput "Jackrose") = some (samplePlan "Jackrose" "f6af8362979b1e1c") ∧
      HelperAccepts SwiftText.scalars sampleHost.sha256 sampleMachine
        (samplePlan "Jackrose" "f6af8362979b1e1c") := by
  have hplan : diskPlan sampleHost (sampleInput "Jackrose") =
      some (samplePlan "Jackrose" "f6af8362979b1e1c") := by decide +kernel
  exact ⟨hplan, (helper_accepts_plan_iff rfl rfl rfl hplan rfl sampleMachine_sameLimits).mpr
    ⟨by decide, by decide, fun _ => by decide⟩⟩

/-- A volume name with a line break passes the planner and not the helper. -/
theorem line_break_plan_rejected :
    diskPlan sampleHost (sampleInput "Jack\nrose") =
        some (samplePlan "Jack\nrose" "aa2676c44e81025e") ∧
      SameLimits sampleHost sampleMachine "disk0s2" ∧
      ¬HelperAccepts SwiftText.scalars sampleHost.sha256 sampleMachine
        (samplePlan "Jack\nrose" "aa2676c44e81025e") := by
  refine ⟨by decide +kernel, sampleMachine_sameLimits, fun h => ?_⟩
  exact absurd h.volumeName (by decide)

end Cidre.Disk
