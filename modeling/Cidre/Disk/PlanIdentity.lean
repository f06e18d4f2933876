/-
  Cidre.Disk.PlanIdentity

  What a plan id stands for.

  `expectedPlanID` hashes the operation, the target and the arguments of a request
  written one to a line.  The lines are not free of line ends: the patterns of the
  helper end in `$`, so a target or a size may carry a line terminator at its end,
  and the volume name and the target of an uninstall are not matched by a pattern
  at all.  The text can be taken apart all the same.  Every matched field has
  content in front of its line end; the free volume name of a creation comes last
  and does not begin with a line feed; the free target of an uninstall comes first,
  in front of exactly four matched fields.
-/

import Mathlib.Data.Set.Function
import Cidre.Disk.Helper

namespace Cidre.Disk

open Framing Partial Pattern

/-! ## The text that is hashed -/

/-- The lines of `canonical` in `expectedPlanID`. -/
def planFields (request : HelperRequest) (target : String) : List String :=
  match Operation.ofName request.operation with
  | .jackroseUninstall => ["uninstall", request.operation, target] ++ request.arguments
  | .partitionCreate =>
      ["install", request.operation, target, request.arguments[0]?.getD "",
        request.arguments[2]?.getD "", request.arguments[1]?.getD ""]
  | _ => ["uninstall", request.operation, target, "", "", ""]

def canonical (request : HelperRequest) (target : String) : String :=
  String.intercalate "\n" (planFields request target)

theorem expectedPlanID_eq (sha256 : Bytes → String) (request : HelperRequest) (target : String) :
    expectedPlanID sha256 request target = shortDigest sha256 (canonical request target) := by
  rw [expectedPlanID, canonical, planFields]
  split <;> simp_all

/-! ## Requests whose arguments are valid -/

/-- The guards on the target and the arguments in `execute` and
    `executeJackroseUninstall`, before anything is read from the disk. -/
def argumentsValid (S : SwiftText) (request : HelperRequest) (target : String) : Bool :=
  match Operation.ofName request.operation, request.arguments with
  | .partitionCreate, [containerSize, volumeName, partitionSize] =>
      (matchesContainer target || matchesDisk target) && matchesSize containerSize &&
        validVolumeName S volumeName && matchesSize partitionSize
  | .partitionDelete, arguments => matchesDisk target && arguments.isEmpty
  | .jackroseUninstall, [efiTarget, linuxTarget, recoveryTarget, growTarget] =>
      [efiTarget, linuxTarget, recoveryTarget].all matchesDisk && matchesContainer growTarget
  | _, _ => false

/-- What a plan id authorises. -/
inductive Planned where
  | create (target containerSize volumeName partitionSize : String)
  | delete (target : String)
  | uninstall (target efiTarget linuxTarget recoveryTarget growTarget : String)
deriving DecidableEq, Repr

namespace Planned

def operation : Planned → String
  | .create .. => "partition-create"
  | .delete _ => "partition-delete"
  | .uninstall .. => "jackrose-uninstall"

def target : Planned → String
  | .create target .. | .delete target | .uninstall target .. => target

def arguments : Planned → List String
  | .create _ containerSize volumeName partitionSize => [containerSize, volumeName, partitionSize]
  | .delete _ => []
  | .uninstall _ efiTarget linuxTarget recoveryTarget growTarget =>
      [efiTarget, linuxTarget, recoveryTarget, growTarget]

/-- The lines of the text, in their order. -/
def fields : Planned → List String
  | .create target containerSize volumeName partitionSize =>
      ["install", "partition-create", target, containerSize, partitionSize, volumeName]
  | .delete target => ["uninstall", "partition-delete", target, "", "", ""]
  | .uninstall target efiTarget linuxTarget recoveryTarget growTarget =>
      ["uninstall", "jackrose-uninstall", target, efiTarget, linuxTarget, recoveryTarget, growTarget]

/-- The arguments have passed the guards. -/
def Valid (S : SwiftText) : Planned → Prop
  | .create target containerSize volumeName partitionSize =>
      (matchesContainer target = true ∨ matchesDisk target = true) ∧
        matchesSize containerSize = true ∧ validVolumeName S volumeName = true ∧
        matchesSize partitionSize = true
  | .delete target => matchesDisk target = true
  | .uninstall _ efiTarget linuxTarget recoveryTarget growTarget =>
      matchesDisk efiTarget = true ∧ matchesDisk linuxTarget = true ∧
        matchesDisk recoveryTarget = true ∧ matchesContainer growTarget = true

end Planned

theorem ofName_partitionCreate {s : String} (h : Operation.ofName s = .partitionCreate) :
    s = "partition-create" := by
  unfold Operation.ofName at h
  split_ifs at h
  assumption

theorem ofName_partitionDelete {s : String} (h : Operation.ofName s = .partitionDelete) :
    s = "partition-delete" := by
  unfold Operation.ofName at h
  split_ifs at h
  assumption

theorem ofName_jackroseUninstall {s : String} (h : Operation.ofName s = .jackroseUninstall) :
    s = "jackrose-uninstall" := by
  unfold Operation.ofName at h
  split_ifs at h
  assumption

/-- A valid request is one of the three, and its text has those lines. -/
theorem planned_of_argumentsValid {S : SwiftText} {request : HelperRequest} {target : String}
    (h : argumentsValid S request target = true) :
    ∃ p : Planned, p.Valid S ∧ request.operation = p.operation ∧ target = p.target ∧
      request.arguments = p.arguments ∧ canonical request target = String.intercalate "\n" p.fields := by
  unfold argumentsValid at h
  split at h
  · rename_i containerSize volumeName partitionSize hop hargs
    have hname := ofName_partitionCreate hop
    simp only [Bool.and_eq_true, Bool.or_eq_true] at h
    obtain ⟨⟨⟨htarget, hcontainer⟩, hvolume⟩, hpartition⟩ := h
    refine ⟨.create target containerSize volumeName partitionSize,
      ⟨htarget, hcontainer, hvolume, hpartition⟩, hname, rfl, hargs, ?_⟩
    rw [canonical, planFields, hop, hargs, hname]
    rfl
  · rename_i arguments hop
    have hname := ofName_partitionDelete hop
    rw [Bool.and_eq_true, List.isEmpty_iff] at h
    refine ⟨.delete target, h.1, hname, rfl, h.2, ?_⟩
    rw [canonical, planFields, hop, hname]
    rfl
  · rename_i efiTarget linuxTarget recoveryTarget growTarget hop hargs
    have hname := ofName_jackroseUninstall hop
    simp only [List.all_cons, List.all_nil, Bool.and_true, Bool.and_eq_true] at h
    obtain ⟨⟨hefi, hlinux, hrecovery⟩, hgrow⟩ := h
    refine ⟨.uninstall target efiTarget linuxTarget recoveryTarget growTarget,
      ⟨hefi, hlinux, hrecovery, hgrow⟩, hname, rfl, hargs, ?_⟩
    rw [canonical, planFields, hop, hargs, hname]
    rfl
  · cases h

/-! ## Matched texts as fields -/

/-- A line that has content in front of its line end. -/
def LineField (s : String) : Prop := Field Swift.isTerminator s.toList

theorem isTerminator_of_isDigit {c : Char} (h : isDigit c = true) : Swift.isTerminator c = false := by
  simp only [isDigit, Bool.and_eq_true, decide_eq_true_eq] at h
  have hrange : ∀ n : Nat, 48 ≤ n → n < 58 →
      [0x0A, 0x0B, 0x0C, 0x0D, 0x85, 0x2028, 0x2029].contains n = false := by
    intro n hlow hhigh
    simp only [List.contains_eq_mem, List.mem_cons, List.not_mem_nil, or_false, decide_eq_false_iff_not]
    omega
  exact hrange c.toNat h.1 h.2

theorem isTerminator_of_isUnit {c : Char} (h : isUnit c = true) : Swift.isTerminator c = false :=
  Swift.notTerminator_of_all (by decide) c (List.contains_iff_mem.mp h)

/-- What a pattern without line terminators accepts, if it begins with a piece. -/
theorem accepts_content {t : Char → Bool} {ps : List Piece}
    (hps : ∀ p ∈ Piece.one t :: ps, ∀ c, p.test c = true → Swift.isTerminator c = false)
    (cs : List Char) (h : accepts (.one t :: ps) cs = true) :
    cs ≠ [] ∧ ∀ c ∈ cs, Swift.isTerminator c = false := by
  refine ⟨?_, accepts_mem hps cs h⟩
  rintro rfl
  cases h

theorem lineField_of_matchesContainer {s : String} (h : matchesContainer s = true) :
    LineField s := by
  refine Swift.field_of_anchored (fun cs hcs => accepts_content (fun p hp c hc => ?_) cs hcs) h
  rcases List.mem_append.mp (show p ∈ lit "disk" ++ plus isDigit from hp) with hp | hp
  · exact Swift.notTerminator_of_all (by decide) c (mem_of_test_lit hp hc)
  · exact isTerminator_of_isDigit (test_of_mem_plus hp hc)

theorem lineField_of_matchesDisk {s : String} (h : matchesDisk s = true) : LineField s := by
  refine Swift.field_of_anchored (fun cs hcs => accepts_content (fun p hp c hc => ?_) cs hcs) h
  have hmem : p ∈ lit "disk" ++ plus isDigit ++ lit "s" ++ plus isDigit := hp
  simp only [List.mem_append] at hmem
  rcases hmem with ((hp | hp) | hp) | hp
  · exact Swift.notTerminator_of_all (by decide) c (mem_of_test_lit hp hc)
  · exact isTerminator_of_isDigit (test_of_mem_plus hp hc)
  · exact Swift.notTerminator_of_all (by decide) c (mem_of_test_lit hp hc)
  · exact isTerminator_of_isDigit (test_of_mem_plus hp hc)

/-- The content of a size. -/
theorem size_content (cs : List Char)
    (h : (accepts (lit "0") cs || accepts sizedValue cs) = true) :
    cs ≠ [] ∧ ∀ c ∈ cs, Swift.isTerminator c = false := by
  rw [Bool.or_eq_true] at h
  rcases h with h | h
  · refine accepts_content (fun p hp c hc => ?_) cs h
    have hp : p ∈ lit "0" := hp
    exact Swift.notTerminator_of_all (by decide) c (mem_of_test_lit hp hc)
  · refine accepts_content (fun p hp c hc => ?_) cs h
    simp only [List.mem_cons, List.not_mem_nil, or_false] at hp
    rcases hp with rfl | rfl | rfl
    · refine isTerminator_of_isDigit ?_
      exact (Bool.and_eq_true _ _ ▸ hc : isDigit c = true ∧ _).1
    · exact isTerminator_of_isDigit hc
    · exact isTerminator_of_isUnit hc

theorem lineField_of_matchesSize {s : String} (h : matchesSize s = true) : LineField s :=
  Swift.field_of_anchored size_content h

/-! ## Reading the text back -/

theorem newline_isTerminator : Swift.isTerminator '\n' = true := rfl

/-- A matched last field is told from a free text behind it that does not begin
    with a line feed: the line end `\r\n` would otherwise swallow the separator. -/
theorem lineEnd_append_inj {tail tail' v v' : List Char} (ht : Swift.LineEnd tail)
    (ht' : Swift.LineEnd tail') (hv : v.head? ≠ some '\n') (hv' : v'.head? ≠ some '\n')
    (h : tail ++ '\n' :: v = tail' ++ '\n' :: v') : tail = tail' ∧ v = v' := by
  rcases ht with rfl | rfl | ⟨c, -, rfl⟩ <;> rcases ht' with rfl | rfl | ⟨c', -, rfl⟩ <;>
    simp only [List.nil_append, List.cons_append, List.cons.injEq] at h
  · exact ⟨rfl, h.2⟩
  · exact absurd h.1 (by decide)
  · exact absurd (by rw [h.2]; rfl) hv
  · exact absurd h.1 (by decide)
  · exact ⟨rfl, h.2.2.2⟩
  · exact absurd (by rw [← h.2.2]; rfl) hv'
  · exact absurd (by rw [← h.2]; rfl) hv'
  · exact absurd (by rw [h.2.2]; rfl) hv
  · exact ⟨by rw [h.1], h.2.2⟩

theorem size_volume_inj {p p' v v' : String} (hp : matchesSize p = true)
    (hp' : matchesSize p' = true) (hv : v.toList.head? ≠ some '\n')
    (hv' : v'.toList.head? ≠ some '\n')
    (h : p.toList ++ '\n' :: v.toList = p'.toList ++ '\n' :: v'.toList) : p = p' ∧ v = v' := by
  obtain ⟨body, tail, heq, hbody, htail⟩ := Swift.anchored_cases hp
  obtain ⟨body', tail', heq', hbody', htail'⟩ := Swift.anchored_cases hp'
  rw [heq, heq'] at h
  obtain ⟨rfl, hrest⟩ := body_inj (size_content body hbody).2 (size_content body' hbody').2
    htail.isTerminator htail'.isTerminator newline_isTerminator h
  obtain ⟨rfl, hvs⟩ := lineEnd_append_inj htail htail' hv hv' hrest
  exact ⟨String.toList_injective (heq.trans heq'.symm), String.toList_injective hvs⟩

/-- A line feed at the beginning of a text is a grapheme cluster of its own:
    `contains("\n")` sees it. -/
def SeesLeadingNewline (S : SwiftText) : Prop :=
  ∀ s : String, s.toList.head? = some '\n' → S.contains s "\n" = true

theorem SeesLeadingNewline.head_ne {S : SwiftText} (hS : SeesLeadingNewline S) {v : String}
    (hv : validVolumeName S v = true) : v.toList.head? ≠ some '\n' := by
  intro hhead
  have hseen := hS v hhead
  simp [validVolumeName, hseen] at hv

namespace Planned

/-- The text, character by character. -/
def text (p : Planned) : List Char := (String.intercalate "\n" p.fields).toList

theorem text_create (target containerSize volumeName partitionSize : String) :
    (create target containerSize volumeName partitionSize).text =
      "install\npartition-create\n".toList ++ (target.toList ++ '\n' :: (containerSize.toList ++
        '\n' :: (partitionSize.toList ++ '\n' :: volumeName.toList))) := by
  simp [text, fields]

theorem text_delete (target : String) :
    (delete target).text =
      "uninstall\npartition-delete\n".toList ++ (target.toList ++ ['\n', '\n', '\n']) := by
  simp [text, fields]

theorem text_uninstall (target efiTarget linuxTarget recoveryTarget growTarget : String) :
    (uninstall target efiTarget linuxTarget recoveryTarget growTarget).text =
      "uninstall\njackrose-uninstall\n".toList ++
        ((((target.toList ++ '\n' :: efiTarget.toList) ++ '\n' :: linuxTarget.toList) ++
          '\n' :: recoveryTarget.toList) ++ '\n' :: growTarget.toList) := by
  simp [text, fields]

/-- The kinds of request are told apart by the beginning of the text. -/
def opening : Planned → List Char
  | .create .. => "install\npart".toList
  | .delete _ => "uninstall\npa".toList
  | .uninstall .. => "uninstall\nja".toList

theorem take_text (p : Planned) : p.text.take 12 = p.opening := by
  cases p with
  | create target containerSize volumeName partitionSize => rw [text_create]; rfl
  | delete target => rw [text_delete]; rfl
  | uninstall target efiTarget linuxTarget recoveryTarget growTarget => rw [text_uninstall]; rfl

theorem openings_ne :
    "install\npart".toList ≠ "uninstall\npa".toList ∧
      "install\npart".toList ≠ "uninstall\nja".toList ∧
      "uninstall\npa".toList ≠ "uninstall\nja".toList := by
  decide

theorem opening_inj {p p' : Planned} (h : p.text = p'.text) : p.opening = p'.opening := by
  rw [← take_text p, h, take_text p']

theorem create_inj {S : SwiftText} (hS : SeesLeadingNewline S) {t c v s t' c' v' s' : String}
    (hp : (create t c v s).Valid S) (hp' : (create t' c' v' s').Valid S)
    (h : (create t c v s).text = (create t' c' v' s').text) :
    create t c v s = create t' c' v' s' := by
  have htarget : ∀ t : String, matchesContainer t = true ∨ matchesDisk t = true → LineField t := by
    intro t ht
    rcases ht with ht | ht
    · exact lineField_of_matchesContainer ht
    · exact lineField_of_matchesDisk ht
  obtain ⟨ht, hc, hv, hs⟩ := hp
  obtain ⟨ht', hc', hv', hs'⟩ := hp'
  have hfc := lineField_of_matchesSize hc
  have hfc' := lineField_of_matchesSize hc'
  have hfs := lineField_of_matchesSize hs
  have hfs' := lineField_of_matchesSize hs'
  rw [text_create, text_create] at h
  -- from the front: the target, the container size, and then the two last lines
  obtain ⟨htt, h₁⟩ := (htarget t ht).append_inj (htarget t' ht') newline_isTerminator
    (hfc.opens _) (hfc'.opens _) (List.append_cancel_left h)
  obtain ⟨hcc, h₂⟩ := hfc.append_inj hfc' newline_isTerminator (hfs.opens _) (hfs'.opens _) h₁
  obtain ⟨hss, hvv⟩ := size_volume_inj hs hs' (hS.head_ne hv) (hS.head_ne hv') h₂
  rw [String.toList_injective htt, String.toList_injective hcc, hss, hvv]

theorem delete_inj {t t' : String} (h : (delete t).text = (delete t').text) :
    delete t = delete t' := by
  rw [text_delete, text_delete] at h
  have htarget := List.append_cancel_right (List.append_cancel_left h)
  rw [String.toList_injective htarget]

theorem uninstall_inj {S : SwiftText} {t e l r g t' e' l' r' g' : String}
    (hp : (uninstall t e l r g).Valid S) (hp' : (uninstall t' e' l' r' g').Valid S)
    (h : (uninstall t e l r g).text = (uninstall t' e' l' r' g').text) :
    uninstall t e l r g = uninstall t' e' l' r' g' := by
  obtain ⟨he, hl, hr, hg⟩ := hp
  obtain ⟨he', hl', hr', hg'⟩ := hp'
  rw [text_uninstall, text_uninstall] at h
  -- from the back: the four matched fields leave the free target
  obtain ⟨h₁, hgg⟩ := (lineField_of_matchesContainer hg).append_inj_back
    (lineField_of_matchesContainer hg') newline_isTerminator (List.append_cancel_left h)
  obtain ⟨h₂, hrr⟩ := (lineField_of_matchesDisk hr).append_inj_back
    (lineField_of_matchesDisk hr') newline_isTerminator h₁
  obtain ⟨h₃, hll⟩ := (lineField_of_matchesDisk hl).append_inj_back
    (lineField_of_matchesDisk hl') newline_isTerminator h₂
  obtain ⟨htt, hee⟩ := (lineField_of_matchesDisk he).append_inj_back
    (lineField_of_matchesDisk he') newline_isTerminator h₃
  rw [String.toList_injective htt, String.toList_injective hee, String.toList_injective hll,
    String.toList_injective hrr, String.toList_injective hgg]

/-- A valid request is determined by its text. -/
theorem text_inj {S : SwiftText} (hS : SeesLeadingNewline S) {p p' : Planned} (hp : p.Valid S)
    (hp' : p'.Valid S) (h : p.text = p'.text) : p = p' := by
  have hopening := opening_inj h
  cases p with
  | create t c v s =>
    cases p' with
    | create t' c' v' s' => exact create_inj hS hp hp' h
    | delete t' => exact absurd hopening openings_ne.1
    | uninstall t' e' l' r' g' => exact absurd hopening openings_ne.2.1
  | delete t =>
    cases p' with
    | create t' c' v' s' => exact absurd hopening.symm openings_ne.1
    | delete t' => exact delete_inj h
    | uninstall t' e' l' r' g' => exact absurd hopening openings_ne.2.2
  | uninstall t e l r g =>
    cases p' with
    | create t' c' v' s' => exact absurd hopening.symm openings_ne.2.1
    | delete t' => exact absurd hopening.symm openings_ne.2.2
    | uninstall t' e' l' r' g' => exact uninstall_inj hp hp' h

end Planned

/-! ## One plan id, one operation -/

/-- The two requests ask for the same. -/
def SameOperation (r : HelperRequest) (t : String) (r' : HelperRequest) (t' : String) : Prop :=
  r.operation = r'.operation ∧ t = t' ∧ r.arguments = r'.arguments

section Identity

variable {S : SwiftText} {r r' : HelperRequest} {t t' : String}

theorem sameOperation_of_canonical_eq (hS : SeesLeadingNewline S)
    (hr : argumentsValid S r t = true) (hr' : argumentsValid S r' t' = true)
    (h : canonical r t = canonical r' t') : SameOperation r t r' t' := by
  obtain ⟨p, hp, hop, ht, hargs, htext⟩ := planned_of_argumentsValid hr
  obtain ⟨p', hp', hop', ht', hargs', htext'⟩ := planned_of_argumentsValid hr'
  have hpp : p = p' := by
    refine Planned.text_inj hS hp hp' ?_
    rw [Planned.text, Planned.text, ← htext, ← htext', h]
  subst hpp
  exact ⟨hop.trans hop'.symm, ht.trans ht'.symm, hargs.trans hargs'.symm⟩

theorem checksPlanID_of_argumentsValid (h : argumentsValid S r t = true) :
    checksPlanID (Operation.ofName r.operation) = true := by
  obtain ⟨p, -, hop, -⟩ := planned_of_argumentsValid h
  rw [hop]
  cases p <;> rfl

theorem sameOperation_of_planID_eq (hS : SeesLeadingNewline S) {sha256 : Bytes → String}
    (hr : argumentsValid S r t = true) (hr' : argumentsValid S r' t' = true)
    (hinj : Set.InjOn (shortDigest sha256) {canonical r t, canonical r' t'})
    (hacc : Accepted S sha256 r t) (hacc' : Accepted S sha256 r' t')
    (hid : r.planID = r'.planID) : SameOperation r t r' t' := by
  have hdigest : shortDigest sha256 (canonical r t) = shortDigest sha256 (canonical r' t') := by
    rw [hacc.planID (checksPlanID_of_argumentsValid hr),
      hacc'.planID (checksPlanID_of_argumentsValid hr'), expectedPlanID_eq, expectedPlanID_eq] at hid
    exact Option.some.inj hid
  exact sameOperation_of_canonical_eq hS hr hr' (hinj (by simp) (by simp) hdigest)

/-- The text that is hashed determines operation, target and arguments of a valid
request, and so does the plan id where the digest tells the two texts apart. -/
theorem plan_identity_unambiguous (hS : SeesLeadingNewline S)
    (hr : argumentsValid S r t = true) (hr' : argumentsValid S r' t' = true) :
    (canonical r t = canonical r' t' → SameOperation r t r' t') ∧
    ∀ sha256 : Bytes → String, Set.InjOn (shortDigest sha256) {canonical r t, canonical r' t'} →
      Accepted S sha256 r t → Accepted S sha256 r' t' → r.planID = r'.planID →
        SameOperation r t r' t' :=
  ⟨sameOperation_of_canonical_eq hS hr hr', fun _ hinj hacc hacc' hid =>
    sameOperation_of_planID_eq hS hr hr' hinj hacc hacc' hid⟩

end Identity

theorem scalars_seesLeadingNewline : SeesLeadingNewline SwiftText.scalars := by
  intro s hs
  obtain ⟨rest, hrest⟩ := List.head?_eq_some_iff.mp hs
  show occurs "\n".toList s.toList = true
  rw [hrest, occurs_iff_part]
  exact ⟨[], rest, rfl⟩

/-- A creation on the startup container. -/
def creation (target : String) : HelperRequest where
  schemaVersion := 1
  operation := "partition-create"
  target := some target
  dryRun := true
  confirmationToken := none
  planID := none
  arguments := ["200G", "Jackrose", "80G"]

/-- A target with a line feed behind it is accepted, and its plan is another one. -/
theorem plan_identity_line_feed :
    canonical (creation "disk3") "disk3" ≠ canonical (creation "disk3\n") "disk3\n" := by
  intro h
  have hvalid : argumentsValid SwiftText.scalars (creation "disk3") "disk3" = true := by
    decide +kernel
  have hvalid' : argumentsValid SwiftText.scalars (creation "disk3\n") "disk3\n" = true := by
    decide +kernel
  have hsame := (plan_identity_unambiguous scalars_seesLeadingNewline hvalid hvalid').1 h
  exact absurd hsame.2.1 (by decide)

end Cidre.Disk
