/-
  Cidre.Lib.Swift

  What a Swift program does with strings, as far as it differs from the same
  operation on a list of Unicode scalars: `count`, `==` and `contains` work on
  grapheme clusters and canonical equivalence, and a regular expression ending
  in `$` also matches in front of a line terminator at the end of the text.
-/

import Mathlib.Data.List.DropRight
import Cidre.Lib.Framing
import Cidre.Lib.Pattern

namespace Cidre

/-- The operations of Swift's `String` that read Unicode tables, with what
    their documentation promises about them.  Results are stated for every
    such table. -/
structure SwiftText where
  /-- The number of grapheme clusters. -/
  count : String → Nat
  /-- A part of the text is canonically equivalent to the second string. -/
  contains : String → String → Bool
  /-- `==`, canonical equivalence. -/
  canonEq : String → String → Bool
  lowercased : String → String
  uppercased : String → String
  /-- A grapheme cluster has at least one scalar. -/
  count_le : ∀ s, count s ≤ s.length
  /-- The slash is canonically equivalent to itself only. -/
  contains_slash : ∀ s, contains s "/" = true → '/' ∈ s.toList
  canonEq_refl : ∀ s, canonEq s s = true

/-- Scalar by scalar, which is what Swift does on ASCII text without `\r\n`. -/
def SwiftText.scalars : SwiftText where
  count := String.length
  contains s t := Pattern.occurs t.toList s.toList
  canonEq s t := s == t
  lowercased s := String.ofList (s.toList.map Char.toLower)
  uppercased s := String.ofList (s.toList.map Char.toUpper)
  count_le := fun _ => Nat.le_refl _
  contains_slash := fun _ h => Pattern.mem_of_occurs h
  canonEq_refl := by simp

namespace Swift

open Pattern

/-- `CharacterSet.whitespacesAndNewlines`. -/
def isWhitespaceOrNewline (c : Char) : Bool :=
  (0x09 ≤ c.toNat && c.toNat ≤ 0x0D) || (0x2000 ≤ c.toNat && c.toNat ≤ 0x200B) ||
    [0x20, 0x85, 0xA0, 0x1680, 0x2028, 0x2029, 0x202F, 0x205F, 0x3000].contains c.toNat

/-- `trimmingCharacters(in: .whitespacesAndNewlines)`. -/
def trimmed (s : String) : String :=
  String.ofList ((s.toList.dropWhile isWhitespaceOrNewline).rdropWhile isWhitespaceOrNewline)

@[simp] theorem trimmed_empty : trimmed "" = "" := rfl

/-- The line terminators `$` looks for. -/
def isTerminator (c : Char) : Bool :=
  [0x0A, 0x0B, 0x0C, 0x0D, 0x85, 0x2028, 0x2029].contains c.toNat

/-- The text in front of a line terminator at its end. -/
def dropTerminator (cs : List Char) : Option (List Char) :=
  match cs.reverse with
  | [] => none
  | c :: rest =>
      if c = '\n' ∧ rest.head? = some '\r' then some rest.tail.reverse
      else if isTerminator c then some rest.reverse
      else none

/-- `firstMatch` of a pattern anchored by `^` and `$`. -/
def anchored (pattern : List Char → Bool) (s : String) : Bool :=
  pattern s.toList || (dropTerminator s.toList).any pattern

theorem notTerminator_of_all {cs : List Char} (h : (cs.all fun c => !isTerminator c) = true) :
    ∀ c ∈ cs, isTerminator c = false := by
  intro c hc
  simpa using List.all_eq_true.mp h c hc

theorem dropTerminator_eq_none {cs : List Char} (h : ∀ c ∈ cs, isTerminator c = false) :
    dropTerminator cs = none := by
  rw [dropTerminator]
  split
  · rfl
  · rename_i c rest hrev
    have hc : isTerminator c = false := by
      refine h c ?_
      rw [← List.mem_reverse, hrev]
      exact List.mem_cons_self
    have hne : c ≠ '\n' := by
      rintro rfl
      exact absurd hc (by decide)
    rw [if_neg (fun hcr => hne hcr.1), hc]
    rfl

/-- On a text without line terminators an anchored pattern matches the whole. -/
theorem anchored_eq {pattern : List Char → Bool} {s : String}
    (h : ∀ c ∈ s.toList, isTerminator c = false) : anchored pattern s = pattern s.toList := by
  rw [anchored, dropTerminator_eq_none h, Option.any_none, Bool.or_false]

/-- What `$` may leave at the end of a text. -/
def LineEnd (tail : List Char) : Prop :=
  tail = [] ∨ tail = ['\r', '\n'] ∨ ∃ c, isTerminator c = true ∧ tail = [c]

theorem LineEnd.isTerminator {tail : List Char} (h : LineEnd tail) :
    ∀ c ∈ tail, isTerminator c = true := by
  rcases h with rfl | rfl | ⟨d, hd, rfl⟩
  · exact fun c hc => absurd hc List.not_mem_nil
  · exact List.all_eq_true.mp (by decide)
  · intro c hc
    rw [List.mem_singleton.mp hc]
    exact hd

theorem dropTerminator_eq_some {cs body : List Char} (h : dropTerminator cs = some body) :
    ∃ tail, cs = body ++ tail ∧ LineEnd tail := by
  rw [dropTerminator] at h
  split at h
  · cases h
  rename_i c rest hrev
  have hcs : cs = rest.reverse ++ [c] := by
    rw [← List.reverse_reverse cs, hrev, List.reverse_cons]
  split at h
  · rename_i hcr
    obtain ⟨rfl, hhead⟩ := hcr
    obtain ⟨rest, rfl⟩ := List.head?_eq_some_iff.mp hhead
    obtain rfl : rest.reverse = body := Option.some.inj h
    exact ⟨['\r', '\n'], by simp [hcs], Or.inr (Or.inl rfl)⟩
  · split at h
    · rename_i hterm
      obtain rfl : rest.reverse = body := Option.some.inj h
      exact ⟨[c], hcs, Or.inr (Or.inr ⟨c, hterm, rfl⟩)⟩
    · cases h

/-- A match of an anchored pattern: what the pattern accepts, and a line end. -/
theorem anchored_cases {pattern : List Char → Bool} {s : String} (h : anchored pattern s = true) :
    ∃ body tail, s.toList = body ++ tail ∧ pattern body = true ∧ LineEnd tail := by
  rw [anchored, Bool.or_eq_true, Option.any_eq_true] at h
  rcases h with h | ⟨body, hbody, hpattern⟩
  · exact ⟨s.toList, [], (List.append_nil _).symm, h, Or.inl rfl⟩
  · obtain ⟨tail, heq, htail⟩ := dropTerminator_eq_some hbody
    exact ⟨body, tail, heq, hpattern, htail⟩

/-- As a field, such a match is framed by line terminators. -/
theorem field_of_anchored {pattern : List Char → Bool} {s : String}
    (hpattern : ∀ cs, pattern cs = true → cs ≠ [] ∧ ∀ c ∈ cs, isTerminator c = false)
    (h : anchored pattern s = true) : Framing.Field isTerminator s.toList := by
  obtain ⟨body, tail, heq, hbody, htail⟩ := anchored_cases h
  exact ⟨body, tail, heq, (hpattern body hbody).1, (hpattern body hbody).2, htail.isTerminator⟩

end Swift

end Cidre
