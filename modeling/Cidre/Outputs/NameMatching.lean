/-
  Cidre.Outputs.NameMatching

  How an output is found by its name (`OutputName::matches` of
  `niri-config/src/output.rs`): the target is cut at the byte lengths of the make and the
  model of the output, without building the name it is compared with.

  It never panics and is `matchesTarget`, which builds the name.
-/

import Cidre.Lib.Utf8
import Cidre.Workspaces.Monitor

namespace Cidre.Outputs

open Panic Utf8
open Workspaces (OutputName eqIgnoreAsciiCase)

/-! ## Ignoring the case of ASCII letters -/

/-- A letter and its lower case are both ASCII, or the same. -/
theorem toLower_cases (c : Char) :
    c.toLower = c ∨ c.val.toNat ≤ 90 ∧ 97 ≤ c.toLower.val.toNat ∧ c.toLower.val.toNat ≤ 122 := by
  unfold Char.toLower
  split
  · rename_i h
    right
    have hge : 65 ≤ c.val.toNat := h.1
    have hle : c.val.toNat ≤ 90 := h.2
    have hval : (c.val + ('a'.val - 'A'.val)).toNat = c.val.toNat + 32 := by
      rw [UInt32.toNat_add]
      exact Nat.mod_eq_of_lt (by show c.val.toNat + 32 < 2 ^ 32; omega)
    exact ⟨hle, by dsimp only; omega, by dsimp only; omega⟩
  · exact .inl rfl

theorem utf8Size_of_ascii {c : Char} (h : c.val.toNat ≤ 127) : c.utf8Size = 1 :=
  if_pos h

theorem utf8Size_toLower (c : Char) : c.toLower.utf8Size = c.utf8Size := by
  rcases toLower_cases c with heq | ⟨hupper, -, hlower⟩
  · rw [heq]
  · rw [utf8Size_of_ascii (by omega), utf8Size_of_ascii (by omega)]

theorem toLower_eq_blank {c : Char} : c.toLower = ' ' ↔ c = ' ' := by
  rcases toLower_cases c with heq | ⟨hupper, hlower, -⟩
  · rw [heq]
  · constructor
    · intro hblank
      rw [hblank] at hlower
      exact absurd hlower (by decide)
    · rintro rfl
      rfl

theorem eqIgnoreAsciiCase_iff {s t : String} :
    eqIgnoreAsciiCase s t = true ↔ s.toList.map Char.toLower = t.toList.map Char.toLower := by
  rw [eqIgnoreAsciiCase, beq_iff_eq]

@[simp] theorem eqIgnoreAsciiCase_self (s : String) : eqIgnoreAsciiCase s s = true :=
  eqIgnoreAsciiCase_iff.mpr rfl

/-- Strings that only differ in case are cut at the same offsets. -/
theorem utf8ByteSize_eq {s t : String} (h : eqIgnoreAsciiCase s t = true) :
    s.utf8ByteSize = t.utf8ByteSize := by
  -- changing the case of a character does not change its length
  have hlower : ∀ l : List Char, byteLen (l.map Char.toLower) = byteLen l := by
    intro l
    induction l with
    | nil => rfl
    | cons c l ih => rw [List.map_cons, byteLen_cons, byteLen_cons, ih, utf8Size_toLower]
  rw [← byteLen_toList, ← byteLen_toList, ← hlower s.toList, ← hlower t.toList,
    eqIgnoreAsciiCase_iff.mp h]

theorem eqIgnoreAsciiCase_append {s a b : String} :
    eqIgnoreAsciiCase s (a ++ b) = true ↔
      ∃ t u, s = t ++ u ∧ eqIgnoreAsciiCase t a = true ∧ eqIgnoreAsciiCase u b = true := by
  constructor
  · intro h
    rw [eqIgnoreAsciiCase_iff, String.toList_append, List.map_append] at h
    obtain ⟨t, u, hs, ht, hu⟩ := List.map_eq_append_iff.mp h
    refine ⟨String.ofList t, String.ofList u, ?_, ?_, ?_⟩
    · rw [← String.ofList_append, ← hs, String.ofList_toList]
    · rw [eqIgnoreAsciiCase_iff, String.toList_ofList, ht]
    · rw [eqIgnoreAsciiCase_iff, String.toList_ofList, hu]
  · rintro ⟨t, u, rfl, ht, hu⟩
    rw [eqIgnoreAsciiCase_iff] at ht hu ⊢
    rw [String.toList_append, String.toList_append, List.map_append, List.map_append, ht, hu]

theorem eqIgnoreAsciiCase_blank {s : String} : eqIgnoreAsciiCase s " " = true ↔ s = " " := by
  constructor
  · intro h
    have hblank : s.toList.map Char.toLower = [' '] := eqIgnoreAsciiCase_iff.mp h
    obtain ⟨c, hs, hc⟩ := List.map_eq_singleton_iff.mp hblank
    rw [toLower_eq_blank] at hc
    rw [← String.ofList_toList (s := s), hs, hc]
  · rintro rfl
    exact eqIgnoreAsciiCase_self " "

/-! ## The comparison -/

/-- What comes in the target after one part of the name and the blank after it. -/
def afterPart (target part : String) : Option (Option String) :=
  match getTo target part.utf8ByteSize with
  | none => some none
  | some targetPart => do
      let rest ← sliceFrom target part.utf8ByteSize
      if !eqIgnoreAsciiCase targetPart part then
        return none
      if !startsWith rest ' ' then
        return none
      let rest ← sliceFrom rest 1
      return some rest

/-- `matches`. -/
def nameMatches (name : OutputName) (target : String) : Option Bool :=
  if eqIgnoreAsciiCase target name.connector then
    some true
  else if name.make.isNone && name.model.isNone && name.serial.isNone then
    some false
  else do
    let make := name.make.getD "Unknown"
    let model := name.model.getD "Unknown"
    let serial := name.serial.getD "Unknown"
    let some rest ← afterPart target make | return false
    let some rest ← afterPart rest model | return false
    return eqIgnoreAsciiCase rest serial

variable {target part : String}

/-- A target is cut in one way at the length of a part. -/
theorem append_eq_append_iff {t u t' u' : String} (hsize : t.utf8ByteSize = t'.utf8ByteSize) :
    t ++ u = t' ++ u' ↔ t = t' ∧ u = u' := by
  constructor
  · intro h
    have hget : getTo (t ++ u) t.utf8ByteSize = some t' := by rw [h, hsize, getTo_append]
    have hslice : sliceFrom (t ++ u) t.utf8ByteSize = some u' := by rw [h, hsize, sliceFrom_append]
    rw [getTo_append] at hget
    rw [sliceFrom_append] at hslice
    exact ⟨Option.some.inj hget, Option.some.inj hslice⟩
  · rintro ⟨rfl, rfl⟩
    rfl

/-- The cut at the length of the part is the only one at which the part can end. -/
theorem afterPart_returns (target part : String) :
    Returns (afterPart target part) fun result => ∀ rest,
      result = some rest ↔ ∃ t, target = t ++ (" " ++ rest) ∧ eqIgnoreAsciiCase t part = true := by
  unfold afterPart
  cases hget : getTo target part.utf8ByteSize with
  | none =>
    refine returns_some fun rest => iff_of_false (by simp) ?_
    rintro ⟨t, rfl, ht⟩
    rw [← utf8ByteSize_eq ht, getTo_append] at hget
    exact absurd hget (by simp)
  | some t =>
    obtain ⟨u, rfl, hlen⟩ := eq_append_of_getTo hget
    -- lengths fix the cut, so the parts can be compared one by one
    have hcut : ∀ rest, (∃ t', t ++ u = t' ++ (" " ++ rest) ∧ eqIgnoreAsciiCase t' part = true) ↔
        u = " " ++ rest ∧ eqIgnoreAsciiCase t part = true := by
      intro rest
      constructor
      · rintro ⟨t', happend, ht'⟩
        obtain ⟨rfl, rfl⟩ :=
          (append_eq_append_iff (hlen.trans (utf8ByteSize_eq ht').symm)).mp happend
        exact ⟨rfl, ht'⟩
      · rintro ⟨rfl, ht⟩
        exact ⟨t, rfl, ht⟩
    simp only [hcut]
    rw [← hlen, sliceFrom_append, Option.bind_eq_bind, Option.bind_some]
    refine returns_ite (fun hdiffers => returns_some fun rest => ?_) fun hsame => ?_
    · exact iff_of_false (by simp) fun h => by simp [h.2] at hdiffers
    refine returns_ite (fun hnoblank => returns_some fun rest => ?_) fun hblank => ?_
    · refine iff_of_false (by simp) fun h => ?_
      rw [startsWith_iff.mpr ⟨rest, h.1⟩] at hnoblank
      exact absurd hnoblank (by simp)
    obtain ⟨rest, rfl⟩ : ∃ rest, u = " " ++ rest := startsWith_iff.mp (by simpa using hblank)
    have hone : sliceFrom (" " ++ rest) 1 = some rest := sliceFrom_append " " rest
    rw [hone]
    refine returns_some fun rest' => ?_
    rw [Option.some_inj, append_eq_append_iff rfl]
    exact ⟨fun heq => ⟨⟨rfl, heq⟩, by simpa using hsame⟩, fun h => h.1.2⟩

/-- Cut part by part, the target is the name in some case. -/
theorem eqIgnoreAsciiCase_format {name : OutputName} :
    eqIgnoreAsciiCase target name.formatMakeModelSerial = true ↔
      ∃ rest, (∃ t, target = t ++ (" " ++ rest) ∧
        eqIgnoreAsciiCase t (name.make.getD "Unknown") = true) ∧
      ∃ rest', (∃ t, rest = t ++ (" " ++ rest') ∧
        eqIgnoreAsciiCase t (name.model.getD "Unknown") = true) ∧
      eqIgnoreAsciiCase rest' (name.serial.getD "Unknown") = true := by
  unfold OutputName.formatMakeModelSerial
  simp only [String.append_assoc, eqIgnoreAsciiCase_append, eqIgnoreAsciiCase_blank]
  constructor
  · rintro ⟨t, u, rfl, ht, _, rest, rfl, rfl, t', u', rfl, ht', _, rest', rfl, rfl, hserial⟩
    exact ⟨_, ⟨t, rfl, ht⟩, rest', ⟨t', rfl, ht'⟩, hserial⟩
  · rintro ⟨rest, ⟨t, rfl, ht⟩, rest', ⟨t', rfl, ht'⟩, hserial⟩
    exact ⟨t, _, rfl, ht, _, _, rfl, rfl, t', _, rfl, ht', _, _, rfl, rfl, hserial⟩

/-- The parts are compared as the whole name is. -/
theorem parts_eq (name : OutputName) (target : String) :
    (do
      let some rest ← afterPart target (name.make.getD "Unknown") | return false
      let some rest ← afterPart rest (name.model.getD "Unknown") | return false
      return eqIgnoreAsciiCase rest (name.serial.getD "Unknown") : Option Bool) =
      some (eqIgnoreAsciiCase target name.formatMakeModelSerial) := by
  obtain ⟨afterMake, hmake, hrest⟩ := afterPart_returns target (name.make.getD "Unknown")
  rw [hmake, Option.bind_eq_bind, Option.bind_some]
  -- what does not begin with the make is not the name
  cases afterMake with
  | none =>
    have hno : eqIgnoreAsciiCase target name.formatMakeModelSerial = false := by
      rw [Bool.eq_false_iff, Ne, eqIgnoreAsciiCase_format]
      rintro ⟨rest, htarget, -⟩
      exact absurd ((hrest rest).mpr htarget) (by simp)
    rw [hno]
    rfl
  | some rest =>
    obtain ⟨afterModel, hmodel, hrest'⟩ := afterPart_returns rest (name.model.getD "Unknown")
    have hformat : eqIgnoreAsciiCase target name.formatMakeModelSerial = true ↔
        ∃ rest', afterModel = some rest' ∧
          eqIgnoreAsciiCase rest' (name.serial.getD "Unknown") = true := by
      rw [eqIgnoreAsciiCase_format]
      simp only [← hrest, Option.some_inj, exists_eq_left', ← hrest']
    dsimp only
    rw [hmodel, Option.bind_some]
    cases afterModel with
    | none =>
      have hno : eqIgnoreAsciiCase target name.formatMakeModelSerial = false := by
        rw [Bool.eq_false_iff, Ne, hformat]
        simp
      rw [hno]
      rfl
    | some rest' =>
      have hsame : eqIgnoreAsciiCase target name.formatMakeModelSerial =
          eqIgnoreAsciiCase rest' (name.serial.getD "Unknown") := by
        rw [Bool.eq_iff_iff, hformat]
        simp
      rw [hsame]
      rfl

/-- The comparison by cuts is the one with the whole name. -/
theorem nameMatches_eq (name : OutputName) (target : String) :
    nameMatches name target = some (name.matchesTarget target) := by
  unfold nameMatches OutputName.matchesTarget
  cases hconnector : eqIgnoreAsciiCase target name.connector with
  | true => rfl
  | false =>
    rw [if_neg Bool.false_ne_true, Bool.false_or]
    cases hunnamed : name.isUnnamed with
    | true => exact if_pos hunnamed
    | false =>
      rw [if_neg (by rw [← OutputName.isUnnamed, hunnamed]; exact Bool.false_ne_true)]
      exact parts_eq name target

/-- Matching is exact: by the connector, or by make, model and serial if one of them is
known.  So an output is found by the name that is formatted for it. -/
theorem nameMatches_exact (name : OutputName) :
    (∀ target, Returns (nameMatches name target) fun found => found = true ↔
      eqIgnoreAsciiCase target name.connector = true ∨
      (name.make ≠ none ∨ name.model ≠ none ∨ name.serial ≠ none) ∧
        eqIgnoreAsciiCase target name.formatMakeModelSerial = true) ∧
    nameMatches name name.formatMakeModelSerialOrConnector = some true := by
  have hknown : name.isUnnamed = false ↔
      name.make ≠ none ∨ name.model ≠ none ∨ name.serial ≠ none := by
    unfold OutputName.isUnnamed
    cases name.make <;> cases name.model <;> cases name.serial <;> simp
  constructor
  · intro target
    refine ⟨_, nameMatches_eq name target, ?_⟩
    show _ = true ↔ _
    rw [OutputName.matchesTarget, Bool.or_eq_true, Bool.and_eq_true, Bool.not_eq_true', hknown]
  · rw [nameMatches_eq, OutputName.formatMakeModelSerialOrConnector]
    cases hunnamed : name.isUnnamed with
    | true => simp [OutputName.matchesTarget]
    | false => simp [OutputName.matchesTarget, hunnamed]

end Cidre.Outputs
