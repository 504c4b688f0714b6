import SpotSdk.Lease.LeaseWallet

/-!
# What a lease use result may do to a held lease

The contract of an update compares the held lease with the lease the robot knows
or rejected. A sub-lease of the latest known lease counts as recent, although the
update does not treat it so.
-/

namespace SpotSdk.Client

namespace Lease

/-- The comparisons in which a lease is not behind another one. -/
def AtLeastAsRecent (lease other : Lease) : Prop :=
  lease.compare other = .same ∨ lease.compare other = .newer ∨
    lease.compare other = .subLease

instance (lease other : Lease) : Decidable (lease.AtLeastAsRecent other) :=
  inferInstanceAs (Decidable (_ ∨ _))

/-- The lease is the rejected one or a sub-lease of it. -/
def CoveredBy (lease other : Lease) : Prop :=
  lease.compare other = .same ∨ lease.compare other = .subLease

instance (lease other : Lease) : Decidable (lease.CoveredBy other) :=
  inferInstanceAs (Decidable (_ ∨ _))

/-- As far as the result tells, the robot would still accept the lease. -/
def StillAccepted (lease : Lease) (result : LeaseUseResult) : Prop :=
  match result.status with
  | .older => (ofProto result.latestKnownLease).IsValid ∧
      lease.AtLeastAsRecent (ofProto result.latestKnownLease)
  | .wrongEpoch => lease.proto.epoch = result.latestKnownLease.epoch
  | .revoked => ¬ lease.CoveredBy (ofProto result.attemptedLease)
  | _ => True

/-- The contract of one update of a held lease. -/
structure UpdateContract (lease : Lease) (result : LeaseUseResult) : Prop where
  proto : (lease.updateFromLeaseUseResult result).2.proto = lease.proto
  older : result.status = .older → (ofProto result.latestKnownLease).IsValid →
    (lease.updateFromLeaseUseResult result).2.status =
      if lease.AtLeastAsRecent (ofProto result.latestKnownLease) then lease.status
      else .otherOwner
  wrongEpoch : result.status = .wrongEpoch →
    (lease.updateFromLeaseUseResult result).2.status =
      if lease.proto.epoch ≠ result.latestKnownLease.epoch then .unowned else lease.status
  revoked : result.status = .revoked →
    (lease.updateFromLeaseUseResult result).2.status =
      if lease.CoveredBy (ofProto result.attemptedLease) then .revoked else lease.status
  unchanged : result.status ≠ .older → result.status ≠ .wrongEpoch →
    result.status ≠ .revoked →
    (lease.updateFromLeaseUseResult result).2.status = lease.status
  superseded : (lease.updateFromLeaseUseResult result).1 = false →
    (lease.updateFromLeaseUseResult result).2 = lease
  kept : ∀ wallet : LeaseWallet,
    wallet.leaseMap[result.attemptedLease.resource]? = some lease →
    lease.StillAccepted result →
    (wallet.onLeaseUseResult result).1.leaseMap[result.attemptedLease.resource]? = some lease

/-- The update demotes an owned sub-lease of the latest known lease. -/
def DemotesSublease (lease : Lease) (result : LeaseUseResult) : Prop :=
  result.status = .older ∧ (ofProto result.latestKnownLease).IsValid ∧
    lease.compare (ofProto result.latestKnownLease) = .subLease ∧
    lease.status ≠ .otherOwner

variable {lease : Lease} {result : LeaseUseResult}

/-- Away from the demoted sub-lease an older result follows the contract. -/
theorem updateFromOlder_status (hn : ¬ lease.DemotesSublease result)
    (hs : result.status = .older) (hv : (ofProto result.latestKnownLease).IsValid) :
    (lease.updateFromLeaseUseResult result).2.status =
      if lease.AtLeastAsRecent (ofProto result.latestKnownLease) then lease.status
      else .otherOwner := by
  have hupd : lease.updateFromLeaseUseResult result = lease.updateFromOlder result := by
    simp only [updateFromLeaseUseResult, hs]
  rw [hupd]
  simp only [updateFromOlder, hv, true_and]
  by_cases hsub : lease.compare (ofProto result.latestKnownLease) = .subLease
  · -- Only the status already set by an earlier result agrees with the demotion.
    have howner : lease.status = .otherOwner := by
      by_contra hne
      exact hn ⟨hs, hv, hsub, hne⟩
    simp [AtLeastAsRecent, hsub, howner]
  · by_cases hrecent : lease.compare (ofProto result.latestKnownLease) = .newer ∨
        lease.compare (ofProto result.latestKnownLease) = .same
    · have hat : lease.AtLeastAsRecent (ofProto result.latestKnownLease) :=
        hrecent.elim (fun h => Or.inr (Or.inl h)) Or.inl
      rw [if_pos hrecent, if_pos hat]
    · have hat : ¬ lease.AtLeastAsRecent (ofProto result.latestKnownLease) := by
        rintro (h | h | h)
        · exact hrecent (Or.inr h)
        · exact hrecent (Or.inl h)
        · exact hsub h
      rw [if_neg hrecent, if_neg hat]

theorem updateFromWrongEpoch_status (hs : result.status = .wrongEpoch) :
    (lease.updateFromLeaseUseResult result).2.status =
      if lease.proto.epoch ≠ result.latestKnownLease.epoch then .unowned
      else lease.status := by
  simp only [updateFromLeaseUseResult, hs, updateFromWrongEpoch]
  split_ifs <;> rfl

theorem updateFromRevoked_status (hs : result.status = .revoked) :
    (lease.updateFromLeaseUseResult result).2.status =
      if lease.CoveredBy (ofProto result.attemptedLease) then .revoked
      else lease.status := by
  have hupd : lease.updateFromLeaseUseResult result = lease.updateFromRevoked result := by
    simp only [updateFromLeaseUseResult, hs]
  rw [hupd]
  by_cases hc : lease.CoveredBy (ofProto result.attemptedLease)
  · rw [if_pos hc]
    exact congrArg (fun updated : Bool × Lease => updated.2.status) (if_pos hc)
  · rw [if_neg hc]
    exact congrArg (fun updated : Bool × Lease => updated.2.status) (if_neg hc)

theorem updateFromLeaseUseResult_of_other (ho : result.status ≠ .older)
    (hw : result.status ≠ .wrongEpoch) (hr : result.status ≠ .revoked) :
    lease.updateFromLeaseUseResult result = (true, lease) := by
  unfold updateFromLeaseUseResult
  split
  · contradiction
  · contradiction
  · contradiction
  · rfl

/-- An accepted lease keeps its status, away from the demoted sub-lease. -/
theorem status_of_stillAccepted (hn : ¬ lease.DemotesSublease result)
    (ha : lease.StillAccepted result) :
    (lease.updateFromLeaseUseResult result).2.status = lease.status := by
  by_cases ho : result.status = .older
  · simp only [StillAccepted, ho] at ha
    rw [updateFromOlder_status hn ho ha.1, if_pos ha.2]
  by_cases hw : result.status = .wrongEpoch
  · simp only [StillAccepted, hw] at ha
    rw [updateFromWrongEpoch_status hw, if_neg (not_not_intro ha)]
  by_cases hr : result.status = .revoked
  · simp only [StillAccepted, hr] at ha
    rw [updateFromRevoked_status hr, if_neg ha]
  rw [updateFromLeaseUseResult_of_other ho hw hr]

/-- The contract holds for every result except one that demotes a sub-lease of
the latest known lease. -/
theorem updateContract_iff (lease : Lease) (result : LeaseUseResult) :
    lease.UpdateContract result ↔ ¬ lease.DemotesSublease result := by
  constructor
  · rintro hc ⟨hs, hv, hsub, hne⟩
    have hstatus := hc.older hs hv
    have hrecent : lease.AtLeastAsRecent (ofProto result.latestKnownLease) :=
      Or.inr (Or.inr hsub)
    rw [if_pos hrecent] at hstatus
    have hdemoted : (lease.updateFromLeaseUseResult result).2.status = .otherOwner := by
      simp [updateFromLeaseUseResult, hs, updateFromOlder, hv, hsub]
    exact hne (hstatus.symm.trans hdemoted)
  · intro hn
    refine
      { proto := updateFromLeaseUseResult_proto lease result
        older := updateFromOlder_status hn
        wrongEpoch := updateFromWrongEpoch_status
        revoked := updateFromRevoked_status
        unchanged := fun ho hw hr => by rw [updateFromLeaseUseResult_of_other ho hw hr]
        superseded := updateFromLeaseUseResult_superseded
        kept := ?_ }
    intro wallet hw ha
    rw [LeaseWallet.onLeaseUseResult_of_some hw, LeaseWallet.storeUpdated_lookup, if_pos rfl]
    have hstatus := status_of_stillAccepted hn ha
    have hproto := updateFromLeaseUseResult_proto lease result
    generalize lease.updateFromLeaseUseResult result = updated at hstatus hproto
    obtain ⟨applies, proto, status⟩ := updated
    subst hstatus
    subst hproto
    rfl

/-- A sub-lease held while the robot knows its parent as the latest lease. -/
def subleaseOfLatest : Lease :=
  ofProto { resource := "body", epoch := "e", sequence := [5, 0] }

/-- A late result about the lease before that parent. -/
def lateOlderResult : LeaseUseResult where
  status := .older
  attemptedLease := { resource := "body", epoch := "e", sequence := [4] }
  latestKnownLease := { resource := "body", epoch := "e", sequence := [5] }

/-- The demoted sub-lease is outside the contract. -/
theorem not_updateContract_sublease :
    ¬ ∀ (lease : Lease) (result : LeaseUseResult), lease.IsValid →
      result.attemptedLease.resource = lease.proto.resource →
      lease.UpdateContract result := by
  intro h
  have hc := h subleaseOfLatest lateOlderResult (by decide) (by decide)
  have hstatus := hc.older (by decide) (by decide)
  revert hstatus
  decide

end Lease

end SpotSdk.Client
