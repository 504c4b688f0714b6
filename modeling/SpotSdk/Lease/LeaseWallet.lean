import Mathlib
import SpotSdk.Common.Status
import SpotSdk.Lease.LeaseUse

/-!
# The lease wallet

The wallet maps resources to leases. Reads and writes are separate lock-guarded
blocks; an operation that needs both is their composition, so that the blocks can
also be scheduled one by one.
-/

namespace SpotSdk.Client

open Common

def leaseWalletErrorCategory : ErrorCategory := ⟨"LeaseWalletErrorCode", [0]⟩

inductive LeaseWalletErrorCode
  | success
  | resourceNotInWalletError
  | resourceNotOwnedError
  | leaseInvalidError
  | genericLeaseError
  deriving DecidableEq, Repr

def LeaseWalletErrorCode.code : LeaseWalletErrorCode → ErrorCode
  | success => ⟨leaseWalletErrorCategory, 0⟩
  | resourceNotInWalletError => ⟨leaseWalletErrorCategory, 1⟩
  | resourceNotOwnedError => ⟨leaseWalletErrorCategory, 2⟩
  | leaseInvalidError => ⟨leaseWalletErrorCategory, 3⟩
  | genericLeaseError => ⟨leaseWalletErrorCategory, 4⟩

def successStatus : Status := ⟨LeaseWalletErrorCode.success.code, ""⟩

def resourceNotInWallet : Status :=
  ⟨LeaseWalletErrorCode.resourceNotInWalletError.code,
    "LeaseWallet could not find the lease because the lease resource is not in the wallet"⟩

def resourceNotOwned : Status :=
  ⟨LeaseWalletErrorCode.resourceNotOwnedError.code,
    "LeaseWallet could not find a self-owned lease for this resource."⟩

@[simp] theorem successStatus_ok : successStatus.ok = true := rfl

@[simp] theorem resourceNotInWallet_ok : resourceNotInWallet.ok = false := rfl

@[simp] theorem resourceNotOwned_ok : resourceNotOwned.ok = false := rfl

/-- `LeaseWallet::SubLease`. -/
inductive SubLease
  | default
  | noSubLease
  deriving DecidableEq, Repr

structure LeaseWallet where
  leaseMap : Std.ExtTreeMap String Lease := ∅
  clientName : String

namespace LeaseWallet

variable (wallet : LeaseWallet)

/-- The lease `AddLease` stores. -/
def leaseToStore (lease : Lease) (option : SubLease) : Lease :=
  if option = .noSubLease ∨ lease.isLeaseSelfOwned = false then lease
  else lease.createSublease wallet.clientName

def addLease (resource : String) (lease : Lease) (option : SubLease) : LeaseWallet :=
  { wallet with
    leaseMap := wallet.leaseMap.insert resource (wallet.leaseToStore lease option) }

def removeLease (resource : String) : LeaseWallet :=
  { wallet with leaseMap := wallet.leaseMap.erase resource }

def failLease (lease : Lease) : LeaseWallet × Status :=
  if ¬ lease.IsValid then
    (wallet, ⟨LeaseWalletErrorCode.leaseInvalidError.code,
      "LeaseWallet could not fail the lease because it is invalid. This " ++
        "should never happen for a lease in the wallet."⟩)
  else
    match wallet.leaseMap[lease.proto.resource]? with
    | none =>
        (wallet, ⟨LeaseWalletErrorCode.resourceNotInWalletError.code,
          "LeaseWallet could not fail the lease because the lease resource " ++
            "is not in the wallet"⟩)
    | some current =>
        if current.compare lease ≠ .same then
          (wallet, ⟨LeaseWalletErrorCode.genericLeaseError.code,
            "LeaseWallet could not fail the lease because the input lease is " ++
              "different from the lease in the wallet."⟩)
        else (wallet.removeLease lease.proto.resource, successStatus)

def getLease (resource : String) : Result Lease :=
  match wallet.leaseMap[resource]? with
  | none => ⟨resourceNotInWallet, {}⟩
  | some lease => ⟨successStatus, lease⟩

def getOwnedLease (resource : String) : Result Lease :=
  let found := wallet.getLease resource
  if !found.status.ok then ⟨found.status, {}⟩
  else if found.response.isLeaseSelfOwned then ⟨successStatus, found.response⟩
  else ⟨resourceNotOwned, {}⟩

/-- The second block of `AdvanceLease`, on the lease its first block read. -/
def storeAdvanced (resource : String) (old : Lease) : LeaseWallet × Result Lease :=
  let new := old.increment
  ({ wallet with leaseMap := (wallet.leaseMap.erase resource).insert resource new },
    ⟨successStatus, new⟩)

def advanceLease (resource : String) : LeaseWallet × Result Lease :=
  let old := wallet.getOwnedLease resource
  if !old.ok then (wallet, old)
  else wallet.storeAdvanced resource old.response

/-- The second block of `OnLeaseUseResult`, on the lease its first block read. -/
def storeUpdated (result : LeaseUseResult) (found : Lease) : LeaseWallet × Status :=
  (wallet.addLease result.attemptedLease.resource
      (found.updateFromLeaseUseResult result).2 .noSubLease, successStatus)

def onLeaseUseResult (result : LeaseUseResult) : LeaseWallet × Status :=
  let found := wallet.getLease result.attemptedLease.resource
  if !found.status.ok then (wallet, found.status)
  else wallet.storeUpdated result found.response

/-! ## Lookups after each operation -/

variable {wallet}
variable {resource other : String} {lease : Lease} {option : SubLease}

@[ext] theorem ext {w w' : LeaseWallet} (hname : w.clientName = w'.clientName)
    (hmap : ∀ resource : String, w.leaseMap[resource]? = w'.leaseMap[resource]?) : w = w' := by
  obtain ⟨map, name⟩ := w
  obtain ⟨map', name'⟩ := w'
  have heq : map = map' := Std.ExtTreeMap.ext_getElem? fun k => hmap k
  simp only [heq, mk.injEq, true_and]
  exact hname

@[simp] theorem addLease_lookup (wallet : LeaseWallet) (resource other : String)
    (lease : Lease) (option : SubLease) :
    (wallet.addLease resource lease option).leaseMap[other]? =
      if resource = other then some (wallet.leaseToStore lease option)
      else wallet.leaseMap[other]? := by
  simp [addLease, Std.ExtTreeMap.getElem?_insert]

@[simp] theorem removeLease_lookup (wallet : LeaseWallet) (resource other : String) :
    (wallet.removeLease resource).leaseMap[other]? =
      if resource = other then none else wallet.leaseMap[other]? := by
  simp [removeLease, Std.ExtTreeMap.getElem?_erase]

@[simp] theorem storeAdvanced_lookup (wallet : LeaseWallet) (resource other : String)
    (old : Lease) :
    (wallet.storeAdvanced resource old).1.leaseMap[other]? =
      if resource = other then some old.increment else wallet.leaseMap[other]? := by
  by_cases h : resource = other
  · simp [storeAdvanced, h]
  · simp [storeAdvanced, Std.ExtTreeMap.getElem?_insert, Std.ExtTreeMap.getElem?_erase, h]

@[simp] theorem storeUpdated_lookup (wallet : LeaseWallet) (result : LeaseUseResult)
    (found : Lease) (other : String) :
    (wallet.storeUpdated result found).1.leaseMap[other]? =
      if result.attemptedLease.resource = other then
        some (found.updateFromLeaseUseResult result).2
      else wallet.leaseMap[other]? := by
  simp [storeUpdated, leaseToStore]

theorem getLease_of_some (h : wallet.leaseMap[resource]? = some lease) :
    wallet.getLease resource = ⟨successStatus, lease⟩ := by
  simp [getLease, h]

theorem getLease_of_none (h : wallet.leaseMap[resource]? = none) :
    wallet.getLease resource = ⟨resourceNotInWallet, {}⟩ := by
  simp [getLease, h]

/-- An owned lease is found exactly when the entry is there and is self-owned. -/
theorem getOwnedLease_ok_iff :
    (wallet.getOwnedLease resource).ok = true ↔
      ∃ lease, wallet.leaseMap[resource]? = some lease ∧ lease.isLeaseSelfOwned = true := by
  cases h : wallet.leaseMap[resource]? with
  | none => simp [getOwnedLease, getLease_of_none h, Result.ok]
  | some lease =>
      cases ho : lease.isLeaseSelfOwned with
      | false => simp [getOwnedLease, getLease_of_some h, ho, Result.ok]
      | true => simp [getOwnedLease, getLease_of_some h, ho, Result.ok]

theorem getOwnedLease_of_owned (h : wallet.leaseMap[resource]? = some lease)
    (ho : lease.isLeaseSelfOwned = true) :
    wallet.getOwnedLease resource = ⟨successStatus, lease⟩ := by
  simp [getOwnedLease, getLease_of_some h, ho]

theorem advanceLease_of_owned (h : wallet.leaseMap[resource]? = some lease)
    (ho : lease.isLeaseSelfOwned = true) :
    wallet.advanceLease resource = wallet.storeAdvanced resource lease := by
  simp [advanceLease, getOwnedLease_of_owned h ho, Result.ok]

/-- Advancing either fails without an effect or increments the entry. -/
theorem advanceLease_cases (wallet : LeaseWallet) (resource : String) :
    ((wallet.advanceLease resource).1 = wallet ∧
        (wallet.advanceLease resource).2.ok = false) ∨
      ∃ lease, wallet.leaseMap[resource]? = some lease ∧ lease.isLeaseSelfOwned = true ∧
        wallet.advanceLease resource = wallet.storeAdvanced resource lease := by
  by_cases h : (wallet.getOwnedLease resource).ok = true
  · obtain ⟨lease, hl, ho⟩ := getOwnedLease_ok_iff.mp h
    exact Or.inr ⟨lease, hl, ho, advanceLease_of_owned hl ho⟩
  · rw [Bool.not_eq_true] at h
    exact Or.inl (by simp [advanceLease, h])

/-- Failing a lease either changes nothing or removes the entry of its resource. -/
theorem failLease_cases (wallet : LeaseWallet) (lease : Lease) :
    (wallet.failLease lease).1 = wallet ∨
      (wallet.failLease lease).1 = wallet.removeLease lease.proto.resource := by
  simp only [failLease]
  split
  · exact Or.inl rfl
  · split
    · exact Or.inl rfl
    · split
      · exact Or.inl rfl
      · exact Or.inr rfl

theorem onLeaseUseResult_of_some {result : LeaseUseResult}
    (h : wallet.leaseMap[result.attemptedLease.resource]? = some lease) :
    wallet.onLeaseUseResult result = wallet.storeUpdated result lease := by
  simp [onLeaseUseResult, getLease_of_some h]

theorem onLeaseUseResult_of_none {result : LeaseUseResult}
    (h : wallet.leaseMap[result.attemptedLease.resource]? = none) :
    wallet.onLeaseUseResult result = (wallet, resourceNotInWallet) := by
  simp [onLeaseUseResult, getLease_of_none h]

/-! ## Where an entry comes from -/

variable {current : Lease}

theorem removeLease_entry {other : String}
    (h : (wallet.removeLease other).leaseMap[resource]? = some current) :
    wallet.leaseMap[resource]? = some current := by
  rw [removeLease_lookup] at h
  split_ifs at h
  exact h

theorem failLease_entry
    (h : (wallet.failLease lease).1.leaseMap[resource]? = some current) :
    wallet.leaseMap[resource]? = some current := by
  rcases wallet.failLease_cases lease with hsame | hremoved
  · rw [hsame] at h
    exact h
  · rw [hremoved] at h
    exact removeLease_entry h

/-- After an advance an entry is the old one, or the increment the advance returned. -/
theorem advanceLease_entry {other : String}
    (h : (wallet.advanceLease other).1.leaseMap[resource]? = some current) :
    wallet.leaseMap[resource]? = some current ∨
      other = resource ∧ (wallet.advanceLease other).2.ok = true ∧
        ∃ old, wallet.leaseMap[resource]? = some old ∧ old.isLeaseSelfOwned = true ∧
          current = old.increment := by
  rcases wallet.advanceLease_cases other with ⟨hsame, _⟩ | ⟨old, hold, howned, heq⟩
  · rw [hsame] at h
    exact Or.inl h
  · rw [heq, storeAdvanced_lookup] at h
    split_ifs at h with hr
    · subst hr
      have hok : (wallet.advanceLease other).2.ok = true := by
        rw [heq]
        rfl
      exact Or.inr ⟨rfl, hok, old, hold, howned, (Option.some.inj h).symm⟩
    · exact Or.inl h

/-- A use result keeps the proto of an entry and can only take its ownership away. -/
theorem onLeaseUseResult_entry {result : LeaseUseResult}
    (h : (wallet.onLeaseUseResult result).1.leaseMap[resource]? = some current) :
    ∃ old, wallet.leaseMap[resource]? = some old ∧ current.proto = old.proto ∧
      (current.isLeaseSelfOwned = true → old.isLeaseSelfOwned = true) := by
  cases hfound : wallet.leaseMap[result.attemptedLease.resource]? with
  | none =>
      rw [onLeaseUseResult_of_none hfound] at h
      exact ⟨current, h, rfl, id⟩
  | some found =>
      rw [onLeaseUseResult_of_some hfound, storeUpdated_lookup] at h
      split_ifs at h with hr
      · subst hr
        obtain rfl := Option.some.inj h
        exact ⟨found, hfound, Lease.updateFromLeaseUseResult_proto _ _,
          Lease.updateFromLeaseUseResult_selfOwned⟩
      · exact ⟨current, h, rfl, id⟩

end LeaseWallet

end SpotSdk.Client
