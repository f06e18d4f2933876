/-
  Cidre.Disk.Plan

  Mutation plans on disk: how a plan file is verified against its signature
  and how a confirmation token is minted for it.

    jackrose-app-mutation-plan-verify    mutationPlanVerify
    jackrose-app-install-plan-verify     installPlanVerify
    jackrose-app-mutation-confirmation   mutationConfirmation

  SHA-256 and the JSON parser are Python's; they are parameters here.
-/

import Cidre.Lib.Json

namespace Cidre.Disk

abbrev Bytes := List UInt8

/-- `s.encode()`. -/
def encode (s : String) : Bytes := s.toUTF8.data.toList

/-- What the scripts take from Python's library. -/
structure Python where
  /-- `hashlib.sha256(b).hexdigest()`. -/
  sha256 : Bytes → String
  /-- `json.loads(b.decode("utf-8"))`, `none` when it raises. -/
  loads : Bytes → Option Json
  /-- `str(v)`. -/
  str : Json → String
  str_str : ∀ s, str (.str s) = s

/-- The files a script can see.  A path may be readable without being a
    regular file, and a regular file may be unreadable. -/
structure Files where
  isFile : String → Bool
  read : String → Option Bytes

/-- `json.load(open(path))`. -/
def Files.load (files : Files) (py : Python) (path : String) : Option Json :=
  (files.read path).bind py.loads

/-- Command substitution drops the newlines at the end. -/
def stripNewlines (s : String) : String :=
  String.ofList (s.toList.reverse.dropWhile (· == '\n')).reverse

/-- Python on known documents and digests, to evaluate concrete runs. -/
def Python.ofTables (documents : List (String × Json)) (digests : List (String × String)) :
    Python where
  sha256 b := ((digests.find? fun p => encode p.1 = b).map Prod.snd).getD ""
  loads b := (documents.find? fun p => encode p.1 = b).map Prod.snd
  str v := match v with | .str s => s | .num _ text => text | _ => ""
  str_str _ := rfl

/-- Regular files with the given texts. -/
def Files.ofTable (texts : List (String × String)) : Files where
  isFile path := (texts.lookup path).isSome
  read path := (texts.lookup path).map encode

/-! ## Verification -/

/-- The payload of the two verifying scripts. -/
structure PlanVerifyPayload where
  passed : Bool
  summary : String
  planId : Json
  target : Json
  planHash : String
  expectedHash : Json

def PlanVerifyPayload.exitCode (p : PlanVerifyPayload) : Nat := if p.passed then 0 else 8

/-- `jackrose-app-mutation-plan-verify`. -/
def mutationPlanVerify (py : Python) (files : Files) (planPath signaturePath : String) :
    Option PlanVerifyPayload := do
  let planBytes ← files.read planPath
  let signature ← files.load py signaturePath
  let calculatedHash := py.sha256 planBytes
  let expectedHash ← signature.get "plan_hash"
  let passed := expectedHash.isStr calculatedHash
  let plan ← py.loads planBytes
  some
    { passed := passed
      summary := if passed then "Mutation plan hash verified."
        else "Mutation plan hash mismatch detected."
      planId := ← plan.get "plan_id"
      target := ← plan.get "target"
      planHash := calculatedHash
      expectedHash := expectedHash }

/-- The policy an install plan must declare. -/
def installPolicy (plan : Json) : Option Bool := do
  let manualBootOnly ← plan.get "manual_boot_only"
  let defaultBoot ← plan.get "default_boot_mutation"
  let startupDisk ← plan.get "startup_disk_mutation"
  let bootPolicy ← plan.get "boot_policy_mutation"
  some (manualBootOnly.isBool true && defaultBoot.isBool false && startupDisk.isBool false &&
    bootPolicy.isBool false)

/-- The body of the `try` of `jackrose-app-install-plan-verify`. -/
def installPlanVerifyTry (py : Python) (files : Files) (planPath signaturePath : String) :
    Option PlanVerifyPayload := do
  let planBytes ← files.read planPath
  let signature ← files.load py signaturePath
  let plan ← py.loads planBytes
  let calculatedHash := py.sha256 planBytes
  let expectedHash ← signature.get "plan_hash"
  let hashPassed := expectedHash.isStr calculatedHash
  let policyPassed ← installPolicy plan
  let passed := hashPassed && policyPassed
  some
    { passed := passed
      summary := if passed then "Install plan verified." else "Install plan verification failed."
      planId := ← plan.get "plan_id"
      target := ← plan.get "target"
      planHash := calculatedHash
      expectedHash := expectedHash }

/-- `jackrose-app-install-plan-verify`: an exception is a failed verification. -/
def installPlanVerify (py : Python) (files : Files) (planPath signaturePath : String) :
    PlanVerifyPayload :=
  (installPlanVerifyTry py files planPath signaturePath).getD
    { passed := false
      summary := "Install plan verification failed."
      planId := .null
      target := .null
      planHash := ""
      expectedHash := .str "" }

/-! ## Confirmation -/

def defaultPhrase : String := "I understand this can destroy the selected disposable target."

structure Confirmation where
  planId : Json
  planHash : String
  confirmationPhrase : String
  confirmationToken : String
  expiresAt : String

inductive ConfirmationPayload where
  /-- "Explicit destructive confirmation phrase did not match." -/
  | blocked (requiredPhrase : Json)
  /-- "Mutation confirmation token generated." -/
  | passed (confirmation : Confirmation)

/-- The text a token is the hash of. -/
def tokenSource (planId planHash requiredPhrase expiresAt : String) : String :=
  planId ++ "|" ++ planHash ++ "|" ++ requiredPhrase ++ "|" ++ expiresAt

/-- `required_phrase_override or plan.get("required_confirmation") or …`. -/
def requiredPhrase (override : String) (plan : Json) : Option Json := do
  if override ≠ "" then some (.str override)
  else
    let required ← plan.get "required_confirmation"
    some (if required.truthy then required else .str defaultPhrase)

/-- `jackrose-app-mutation-confirmation`, with the expiry time it computes. -/
def mutationConfirmation (py : Python) (files : Files) (planPath phrase override expiresAt : String) :
    Option ConfirmationPayload := do
  let planBytes ← files.read planPath
  let plan ← py.loads planBytes
  let planHash := py.sha256 planBytes
  let required ← requiredPhrase override plan
  if required.isStr phrase then
    let planId ← plan.get "plan_id"
    some (.passed
      { planId := planId
        planHash := planHash
        confirmationPhrase := phrase
        confirmationToken :=
          py.sha256 (encode (tokenSource (py.str planId) planHash phrase expiresAt))
        expiresAt := expiresAt })
  else some (.blocked required)

/-- `token` was minted by the confirmation script for a plan with this id. -/
def Minted (py : Python) (planId token : String) : Prop :=
  ∃ files planPath phrase override expiresAt c,
    mutationConfirmation py files planPath phrase override expiresAt = some (.passed c) ∧
      c.planId = .str planId ∧ c.confirmationToken = token

/-! ## What a verified plan is -/

/-- The plan at `planPath` has the hash the signature at `signaturePath` names. -/
structure PlanSigned (py : Python) (files : Files) (planPath signaturePath : String)
    (planBytes : Bytes) (plan : Json) : Prop where
  bytes : files.read planPath = some planBytes
  parsed : py.loads planBytes = some plan
  signed : ∃ signature, files.load py signaturePath = some signature ∧
    signature.get "plan_hash" = some (.str (py.sha256 planBytes))

theorem mutationPlanVerify_passed {py : Python} {files : Files} {planPath signaturePath : String}
    {p : PlanVerifyPayload} (h : mutationPlanVerify py files planPath signaturePath = some p)
    (hp : p.passed = true) :
    ∃ planBytes plan, PlanSigned py files planPath signaturePath planBytes plan := by
  simp only [mutationPlanVerify, Option.bind_eq_bind, Option.bind_eq_some_iff] at h
  obtain ⟨planBytes, hbytes, signature, hsig, expected, hexp, plan, hplan, _, _, _, _, heq⟩ := h
  obtain rfl := Option.some.inj heq
  refine ⟨planBytes, plan, hbytes, hplan, signature, hsig, ?_⟩
  rw [hexp, Json.isStr_iff.mp hp]

end Cidre.Disk
