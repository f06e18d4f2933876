/-
  Cidre.Disk.Authorization

  Which confirmation tokens the helper accepts for a plan id.  A token is bound
  to the plan when it is the literal phrase with the plan id in it or was
  minted for a plan with that id; `canExecute` also takes every token of at
  least 32 characters, so the binding holds for exactly the other tokens.
-/

import Cidre.Disk.Helper

namespace Cidre.Disk

/-- The token was derived from the plan id. -/
def TokenBound (S : SwiftText) (py : Python) (planID token : String) : Prop :=
  S.canonEq token ("JACKROSE EXECUTE " ++ planID) = true ∨ Minted py planID token

/-- A live request with this plan id and token, for any operation, target and
    arguments. -/
structure LiveRequest (planID token : String) (request : HelperRequest) : Prop where
  live : request.dryRun = false
  planID : request.planID = some planID
  token : request.confirmationToken = some token

theorem canExecute_live {S : SwiftText} {planID token : String} {request : HelperRequest}
    (h : LiveRequest planID token request) :
    canExecute S request = true ↔ planID ≠ "" ∧ token ≠ "" ∧
      (S.canonEq token ("JACKROSE EXECUTE " ++ planID) = true ∨ 32 ≤ S.count token) := by
  rw [canExecute, h.live, h.planID, h.token]
  simp [and_assoc]

-- A resize request has no plan id the helper would recompute, so any token that
-- passes `canExecute` reaches the disk on a machine with room to shrink.

def resizeRequest (planID token : String) : HelperRequest where
  schemaVersion := 1
  operation := "apfs-resize-container"
  target := some "disk3"
  dryRun := false
  confirmationToken := some token
  planID := some planID
  arguments := ["1G"]

/-- A machine whose container may be resized to anything up to 2 GB. -/
def resizableMachine : Machine where
  runDiskutil := fun _ =>
    (0, some (.obj [("CurrentSize", .num 2000000000 "2000000000"),
      ("MinimumSizePreferred", .num 0 "0")]))
  process := fun _ => .ok (0, "", "")

theorem buildCommand_resizeRequest (S : SwiftText) (planID token : String) :
    buildCommand S resizableMachine (resizeRequest planID token) "disk3" =
      .ok (.resizeContainer "disk3" "1G") := by
  rfl

theorem execute_resizeRequest {S : SwiftText} (sha256 : Bytes → String) {planID token : String}
    (h : canExecute S (resizeRequest planID token) = true) :
    (execute S sha256 resizableMachine (resizeRequest planID token)).started =
      [["/usr/sbin/diskutil", "apfs", "resizeContainer", "disk3", "1G"]] := by
  have hop : Operation.ofName (resizeRequest planID token).operation = .apfsResizeContainer := rfl
  have htarget : (resizeRequest planID token).target = some "disk3" := rfl
  rw [execute, if_neg (by simp [resizeRequest]), if_neg (by simp [h]), htarget]
  simp only
  rw [if_neg (by simp [hop, checksPlanID]), if_neg (by simp [hop]), buildCommand_resizeRequest]
  rfl

/-- For a plan id and a token: the helper starts a mutating command for a live
    request carrying them only if the token is bound to the plan id, exactly
    when the plan id is empty, the token is shorter than 32 characters or the
    token is bound anyway. -/
theorem token_bound_iff (S : SwiftText) (py : Python) (planID token : String) :
    (∀ m request, LiveRequest planID token request →
        (execute S py.sha256 m request).started ≠ [] → TokenBound S py planID token) ↔
      planID = "" ∨ S.count token < 32 ∨ TokenBound S py planID token := by
  constructor
  · intro h
    by_cases hid : planID = ""
    · exact Or.inl hid
    by_cases hcount : S.count token < 32
    · exact Or.inr (Or.inl hcount)
    have hlive : LiveRequest planID token (resizeRequest planID token) := ⟨rfl, rfl, rfl⟩
    have hlong : 32 ≤ S.count token := by omega
    have htoken : token ≠ "" := by
      rintro rfl
      have := S.count_le ""
      rw [String.length_empty] at this
      omega
    have hcan : canExecute S (resizeRequest planID token) = true :=
      (canExecute_live hlive).mpr ⟨hid, htoken, Or.inr hlong⟩
    refine Or.inr (Or.inr (h resizableMachine _ hlive ?_))
    rw [execute_resizeRequest py.sha256 hcan]
    simp
  · intro h m request hlive hstarted
    obtain ⟨target, hacc⟩ := accepted_of_started hstarted
    obtain ⟨hid, -, hor⟩ := (canExecute_live hlive).mp hacc.authorised
    rcases h with rfl | hcount | hbound
    · exact absurd rfl hid
    · rcases hor with heq | hlong
      · exact Or.inl heq
      · omega
    · exact hbound

/-- A minted token is a digest. -/
theorem Minted.eq_digest {py : Python} {planID token : String} (h : Minted py planID token) :
    ∃ b, token = py.sha256 b := by
  obtain ⟨files, planPath, phrase, override, expiresAt, c, hmint, -, rfl⟩ := h
  simp only [mutationConfirmation, Option.bind_eq_bind, Option.bind_eq_some_iff] at hmint
  obtain ⟨planBytes, -, plan, -, required, -, hmint⟩ := hmint
  split at hmint
  · obtain ⟨planId, -, hc⟩ := Option.bind_eq_some_iff.mp hmint
    obtain rfl := ConfirmationPayload.passed.inj (Option.some.inj hc)
    exact ⟨_, rfl⟩
  · exact absurd (Option.some.inj hmint) (by simp)

/-- Python with a digest function of the right length; nothing is hashed on the
    way to the resize below. -/
def zeroDigest : Python where
  sha256 := fun _ => String.ofList (List.replicate 64 '0')
  loads := fun _ => some (.obj [("plan_id", .str "plan-1")])
  str := fun v => match v with | .str s => s | _ => ""
  str_str := fun _ => rfl

/-- Thirty-two characters that were derived from nothing. -/
def arbitraryToken : String := String.ofList (List.replicate 32 'x')

theorem arbitraryToken_unbound :
    ¬TokenBound SwiftText.scalars zeroDigest "plan-1" arbitraryToken := by
  intro h
  rcases h with h | h
  · exact absurd h (by decide)
  · obtain ⟨b, hb⟩ := h.eq_digest
    have hlen : arbitraryToken.length = (String.ofList (List.replicate 64 '0')).length :=
      congrArg String.length hb
    exact absurd hlen (by decide)

/-- Thirty-two arbitrary characters confirm a resize for any plan id. -/
theorem token_unbound_accepted :
    LiveRequest "plan-1" arbitraryToken (resizeRequest "plan-1" arbitraryToken) ∧
      (execute SwiftText.scalars zeroDigest.sha256 resizableMachine
        (resizeRequest "plan-1" arbitraryToken)).started ≠ [] ∧
      ¬TokenBound SwiftText.scalars zeroDigest "plan-1" arbitraryToken := by
  refine ⟨⟨rfl, rfl, rfl⟩, ?_, arbitraryToken_unbound⟩
  rw [execute_resizeRequest _ (by decide)]
  simp

end Cidre.Disk
