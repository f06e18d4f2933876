/-
  Cidre.Lib.Utf8

  Strings cut at byte offsets, as UTF-8 counts them: an offset inside a character is none
  to cut at.
-/

import Mathlib.Algebra.BigOperators.Group.List.Basic
import Mathlib.Algebra.GroupWithZero.Nat

namespace Cidre.Utf8

/-! ## Characters -/

/-- The bytes that some characters take. -/
def byteLen (s : List Char) : Nat := (s.map Char.utf8Size).sum

@[simp] theorem byteLen_nil : byteLen [] = 0 := rfl

@[simp] theorem byteLen_cons (c : Char) (s : List Char) :
    byteLen (c :: s) = c.utf8Size + byteLen s := rfl

/-- What is in front of a byte offset, and what comes from there. -/
def splitAtByte : Nat → List Char → Option (List Char × List Char)
  | 0, s => some ([], s)
  | _ + 1, [] => none
  | n + 1, c :: s =>
      if c.utf8Size ≤ n + 1 then (splitAtByte (n + 1 - c.utf8Size) s).map (Prod.map (c :: ·) id)
      else none

theorem splitAtByte_byteLen (a b : List Char) :
    splitAtByte (byteLen a) (a ++ b) = some (a, b) := by
  induction a with
  | nil => cases b <;> rfl
  | cons c a ih =>
    have hpos : 0 < c.utf8Size := c.utf8Size_pos
    obtain ⟨n, hn⟩ : ∃ n, byteLen (c :: a) = n + 1 :=
      Nat.exists_eq_succ_of_ne_zero (by rw [byteLen_cons]; omega)
    have hrest : n + 1 - c.utf8Size = byteLen a := by
      rw [← hn, byteLen_cons, Nat.add_sub_cancel_left]
    rw [hn, List.cons_append, splitAtByte, if_pos (by rw [byteLen_cons] at hn; omega), hrest, ih]
    rfl

theorem splitAtByte_sound {n : Nat} {s a b : List Char} (h : splitAtByte n s = some (a, b)) :
    s = a ++ b ∧ byteLen a = n := by
  induction s generalizing n a with
  | nil =>
    cases n with
    | zero =>
      obtain ⟨rfl, rfl⟩ : [] = a ∧ [] = b := by simpa [splitAtByte] using h
      exact ⟨rfl, rfl⟩
    | succ n => simp [splitAtByte] at h
  | cons c s ih =>
    cases n with
    | zero =>
      obtain ⟨rfl, rfl⟩ : [] = a ∧ c :: s = b := by simpa [splitAtByte] using h
      exact ⟨rfl, rfl⟩
    | succ n =>
      rw [splitAtByte] at h
      split at h
      · rename_i hle
        obtain ⟨parts, hparts, heq⟩ := Option.map_eq_some_iff.mp h
        obtain ⟨rfl, rfl⟩ : c :: parts.1 = a ∧ parts.2 = b := Prod.mk.inj heq
        obtain ⟨rfl, hlen⟩ := ih hparts
        exact ⟨rfl, by rw [byteLen_cons, hlen]; omega⟩
      · exact absurd h (by simp)

/-! ## Strings -/

/-- `s.get(..n)`. -/
def getTo (s : String) (n : Nat) : Option String :=
  (splitAtByte n s.toList).map fun parts => String.ofList parts.1

/-- `&s[n..]`, which panics where there is none to cut at. -/
def sliceFrom (s : String) (n : Nat) : Option String :=
  (splitAtByte n s.toList).map fun parts => String.ofList parts.2

/-- `s.starts_with(c)`. -/
def startsWith (s : String) (c : Char) : Bool := s.toList.head? == some c

@[simp] theorem byteLen_toList (s : String) : byteLen s.toList = s.utf8ByteSize := by
  have hlist : ∀ l : List Char, byteLen l = (String.ofList l).utf8ByteSize := by
    intro l
    induction l with
    | nil => simp
    | cons c l ih =>
      have hone : (String.ofList [c]).utf8ByteSize = c.utf8Size := by
        rw [← String.singleton_eq_ofList, String.utf8ByteSize_singleton]
      rw [byteLen_cons, ih, ← List.singleton_append, String.ofList_append,
        String.utf8ByteSize_append, hone]
  rw [hlist, String.ofList_toList]

theorem getTo_append (a b : String) : getTo (a ++ b) a.utf8ByteSize = some a := by
  rw [getTo, ← byteLen_toList, String.toList_append, splitAtByte_byteLen, Option.map_some,
    String.ofList_toList]

theorem sliceFrom_append (a b : String) : sliceFrom (a ++ b) a.utf8ByteSize = some b := by
  rw [sliceFrom, ← byteLen_toList, String.toList_append, splitAtByte_byteLen, Option.map_some,
    String.ofList_toList]

theorem eq_append_of_getTo {s a : String} {n : Nat} (h : getTo s n = some a) :
    ∃ b, s = a ++ b ∧ a.utf8ByteSize = n := by
  obtain ⟨parts, hparts, rfl⟩ := Option.map_eq_some_iff.mp h
  obtain ⟨hs, hlen⟩ := splitAtByte_sound hparts
  refine ⟨String.ofList parts.2, ?_, ?_⟩
  · rw [← String.ofList_append, ← hs, String.ofList_toList]
  · rw [← byteLen_toList, String.toList_ofList, hlen]

theorem startsWith_iff {s : String} {c : Char} :
    startsWith s c = true ↔ ∃ b, s = String.singleton c ++ b := by
  unfold startsWith
  constructor
  · intro h
    obtain ⟨rest, hrest⟩ : ∃ rest, s.toList = c :: rest := by
      cases hs : s.toList with
      | nil => simp [hs] at h
      | cons d rest =>
        obtain rfl : d = c := by simpa [hs] using h
        exact ⟨rest, rfl⟩
    refine ⟨String.ofList rest, ?_⟩
    rw [← String.ofList_toList (s := s), hrest, ← List.singleton_append, String.ofList_append]
    rfl
  · rintro ⟨b, rfl⟩
    simp

end Cidre.Utf8
