import SpotSdk.Lease.LeaseValue

/-!
# Results of using a lease

A response reports how the lease attached to the request fared. The client only
changes what it believes about ownership; the lease itself stays as it was.
-/

namespace SpotSdk.Client

open Foundations.SequenceClock

/-- `LeaseUseResult::Status`, an open enumeration: a peer may send other numbers. -/
inductive LeaseUseStatus
  | unknown
  | ok
  | invalidLease
  | older
  | revoked
  | unmanaged
  | wrongEpoch
  | unrecognized (value : Int) (h : value < 0 ∨ 6 < value)
  deriving DecidableEq, Repr

def LeaseUseStatus.number : LeaseUseStatus → Int
  | unknown => 0
  | ok => 1
  | invalidLease => 2
  | older => 3
  | revoked => 4
  | unmanaged => 5
  | wrongEpoch => 6
  | unrecognized value _ => value

/-- The fields of `LeaseUseResult` the client reads. -/
structure LeaseUseResult where
  status : LeaseUseStatus := .unknown
  attemptedLease : LeaseProto := {}
  latestKnownLease : LeaseProto := {}
  deriving DecidableEq, Repr

namespace Lease

/-- The branch for a lease reported as older than the latest known one. -/
def updateFromOlder (lease : Lease) (result : LeaseUseResult) : Bool × Lease :=
  let latest := ofProto result.latestKnownLease
  if latest.IsValid ∧ (lease.compare latest = .newer ∨ lease.compare latest = .same) then
    -- The result is about an older lease than the one held now.
    (false, lease)
  else (true, { lease with status := .otherOwner })

/-- The branch for a lease of another epoch. -/
def updateFromWrongEpoch (lease : Lease) (result : LeaseUseResult) : Bool × Lease :=
  if lease.proto.epoch ≠ result.latestKnownLease.epoch then
    (true, { lease with status := .unowned })
  else (false, lease)

/-- The branch for a revoked lease. -/
def updateFromRevoked (lease : Lease) (result : LeaseUseResult) : Bool × Lease :=
  let comparison := lease.compare (ofProto result.attemptedLease)
  if comparison = .same ∨ comparison = .subLease then
    (true, { lease with status := .revoked })
  else (false, lease)

/-- `UpdateFromLeaseUseResult`: whether the result still applies, and the lease. -/
def updateFromLeaseUseResult (lease : Lease) (result : LeaseUseResult) : Bool × Lease :=
  match result.status with
  | .older => lease.updateFromOlder result
  | .wrongEpoch => lease.updateFromWrongEpoch result
  | .revoked => lease.updateFromRevoked result
  | _ => (true, lease)

/-- The three outcomes of an update: superseded, applied without a change, or a
new ownership. -/
theorem updateFromLeaseUseResult_cases (lease : Lease) (result : LeaseUseResult) :
    lease.updateFromLeaseUseResult result = (false, lease) ∨
      ∃ status, lease.updateFromLeaseUseResult result = (true, { lease with status }) := by
  unfold updateFromLeaseUseResult
  split
  · simp only [updateFromOlder]
    split_ifs
    · exact Or.inl rfl
    · exact Or.inr ⟨_, rfl⟩
  · simp only [updateFromWrongEpoch]
    split_ifs
    · exact Or.inr ⟨_, rfl⟩
    · exact Or.inl rfl
  · simp only [updateFromRevoked]
    split_ifs
    · exact Or.inr ⟨_, rfl⟩
    · exact Or.inl rfl
  · exact Or.inr ⟨lease.status, rfl⟩

/-- No result changes the message of the lease. -/
@[simp] theorem updateFromLeaseUseResult_proto (lease : Lease) (result : LeaseUseResult) :
    (lease.updateFromLeaseUseResult result).2.proto = lease.proto := by
  rcases updateFromLeaseUseResult_cases lease result with h | ⟨status, h⟩ <;> rw [h]

/-- No result gives this client an ownership it did not have. -/
theorem updateFromLeaseUseResult_selfOwned {lease : Lease} {result : LeaseUseResult}
    (h : (lease.updateFromLeaseUseResult result).2.isLeaseSelfOwned = true) :
    lease.isLeaseSelfOwned = true := by
  simp only [updateFromLeaseUseResult] at h
  split at h
  · simp only [updateFromOlder] at h
    split_ifs at h
    · exact h
    · exact absurd h (by simp [isLeaseSelfOwned])
  · simp only [updateFromWrongEpoch] at h
    split_ifs at h
    · exact absurd h (by simp [isLeaseSelfOwned])
    · exact h
  · simp only [updateFromRevoked] at h
    split_ifs at h
    · exact absurd h (by simp [isLeaseSelfOwned])
    · exact h
  · exact h

/-- A superseded result changes nothing. -/
theorem updateFromLeaseUseResult_superseded {lease : Lease} {result : LeaseUseResult}
    (h : (lease.updateFromLeaseUseResult result).1 = false) :
    (lease.updateFromLeaseUseResult result).2 = lease := by
  rcases updateFromLeaseUseResult_cases lease result with hc | ⟨status, hc⟩
  · rw [hc]
  · rw [hc] at h
    cases h

end Lease

end SpotSdk.Client
