import SpotSdk.Lease.LeaseWallet

/-!
# Attaching leases to requests

A request with a list of leases gets one advanced lease for each listed resource, unless
it has as many leases as there are resources. The wallet is advanced and the request is
extended one resource at a time.
-/

namespace SpotSdk.Client

open Common

/-- What processing leaves: the wallet, the leases of the request and the status. -/
structure LeaseRequestOutcome where
  wallet : LeaseWallet
  leases : List LeaseProto
  status : Status

/-- The loop of `ProcessRequestWithMultipleLeases`. -/
def attachLeases : List String → LeaseWallet → List LeaseProto → LeaseRequestOutcome
  | [], wallet, leases => ⟨wallet, leases, successStatus⟩
  | resc :: rest, wallet, leases =>
      let advLeaseResult := wallet.advanceLease resc
      if advLeaseResult.2.ok then
        attachLeases rest advLeaseResult.1 (leases ++ [advLeaseResult.2.response.proto])
      else
        ⟨advLeaseResult.1, leases,
          advLeaseResult.2.status.chain ("Cannot advance the lease for " ++ resc)⟩

/-- `ProcessRequestWithMultipleLeases`. -/
def processRequestWithMultipleLeases (leases : List LeaseProto) (wallet : LeaseWallet)
    (resourceList : List String) : LeaseRequestOutcome :=
  if resourceList.length ≤ leases.length then ⟨wallet, leases, successStatus⟩
  else attachLeases resourceList wallet leases

/-- The wallet has a lease of its own for the resource. -/
def LeaseWallet.Owns (wallet : LeaseWallet) (resource : String) : Prop :=
  ∃ lease, wallet.leaseMap[resource]? = some lease ∧ lease.isLeaseSelfOwned = true

/-- The increment of the lease that the wallet holds for a resource. -/
def LeaseWallet.advancedProto (wallet : LeaseWallet) (resource : String) : LeaseProto :=
  (wallet.getOwnedLease resource).response.increment.proto

/-- How many leases are for a resource. -/
def leasesFor (resource : String) (leases : List LeaseProto) : Nat :=
  leases.countP fun lease => lease.resource = resource

/-- The lease is the one that the wallet held for the resource and has now advanced. -/
def NewlyAdvanced (before after : LeaseWallet) (resource : String) (lease : LeaseProto) :
    Prop :=
  ∃ old, before.leaseMap[resource]? = some old ∧ old.isLeaseSelfOwned = true ∧
    after.leaseMap[resource]? = some old.increment ∧ lease = old.increment.proto

/-- A request gets one lease for each resource, or nothing happens to it and the wallet. -/
structure AttachesEach (wallet : LeaseWallet) (leases : List LeaseProto)
    (resources : List String) (outcome : LeaseRequestOutcome) : Prop where
  exactlyOne : outcome.status.ok = true → ∀ resource ∈ resources,
    leasesFor resource outcome.leases = 1
  origin : outcome.status.ok = true → ∀ resource ∈ resources, ∀ lease ∈ outcome.leases,
    lease.resource = resource →
      lease ∈ leases ∨ NewlyAdvanced wallet outcome.wallet resource lease
  unchanged : outcome.status.ok = false →
    outcome.leases = leases ∧ outcome.wallet = wallet
  retry : outcome.status.ok = false → ∀ later : LeaseWallet,
    (∀ resource ∈ resources, later.Owns resource) →
      (processRequestWithMultipleLeases outcome.leases later resources).status.ok = true

namespace LeaseWallet

variable {wallet other : LeaseWallet} {resource : String} {resources : List String}
  {leases : List LeaseProto}

theorem advanceLease_of_owns (h : wallet.Owns resource) :
    wallet.advanceLease resource =
      wallet.storeAdvanced resource (wallet.getOwnedLease resource).response := by
  obtain ⟨lease, found, owned⟩ := h
  rw [advanceLease_of_owned found owned, getOwnedLease_of_owned found owned]

theorem advanceLease_of_not_owns (h : ¬ wallet.Owns resource) :
    (wallet.advanceLease resource).1 = wallet ∧
      (wallet.advanceLease resource).2.ok = false := by
  rcases wallet.advanceLease_cases resource with failed | ⟨lease, found, owned, _⟩
  · exact failed
  · exact absurd ⟨lease, found, owned⟩ h

/-- Advancing one resource leaves the lease of another one. -/
theorem storeAdvanced_lookup_ne (old : Lease) {key : String} (h : key ≠ resource) :
    (wallet.storeAdvanced resource old).1.leaseMap[key]? = wallet.leaseMap[key]? := by
  rw [storeAdvanced_lookup, if_neg (Ne.symm h)]

theorem owns_congr (h : other.leaseMap[resource]? = wallet.leaseMap[resource]?) :
    other.Owns resource ↔ wallet.Owns resource := by
  rw [Owns, Owns, h]

theorem getOwnedLease_congr (h : other.leaseMap[resource]? = wallet.leaseMap[resource]?) :
    other.getOwnedLease resource = wallet.getOwnedLease resource := by
  have same : other.getLease resource = wallet.getLease resource := by
    rw [getLease, getLease, h]
  rw [getOwnedLease, getOwnedLease, same]

theorem advancedProto_congr (h : other.leaseMap[resource]? = wallet.leaseMap[resource]?) :
    other.advancedProto resource = wallet.advancedProto resource := by
  rw [advancedProto, advancedProto, getOwnedLease_congr h]

end LeaseWallet

section Loop

variable {wallet : LeaseWallet} {resource : String} {resources : List String}
  {leases : List LeaseProto}

theorem attachLeases_cons_owned (owned : wallet.Owns resource) :
    attachLeases (resource :: resources) wallet leases =
      attachLeases resources
        (wallet.storeAdvanced resource (wallet.getOwnedLease resource).response).1
        (leases ++ [wallet.advancedProto resource]) := by
  rw [attachLeases, LeaseWallet.advanceLease_of_owns owned]
  rfl

/-- A missing first resource fails without an effect. -/
theorem attachLeases_cons_missing (resources : List String) (leases : List LeaseProto)
    (missing : ¬ wallet.Owns resource) :
    (attachLeases (resource :: resources) wallet leases).wallet = wallet ∧
      (attachLeases (resource :: resources) wallet leases).leases = leases ∧
      (attachLeases (resource :: resources) wallet leases).status.ok = false := by
  obtain ⟨same, failed⟩ := LeaseWallet.advanceLease_of_not_owns missing
  have unfolded : attachLeases (resource :: resources) wallet leases =
      ⟨wallet, leases, (wallet.advanceLease resource).2.status.chain
        ("Cannot advance the lease for " ++ resource)⟩ := by
    rw [attachLeases, failed, same]
    rfl
  rw [unfolded]
  exact ⟨rfl, rfl, failed⟩

/-- Leases are only added. -/
theorem attachLeases_extends (resources : List String) (wallet : LeaseWallet)
    (leases : List LeaseProto) :
    ∃ added, (attachLeases resources wallet leases).leases = leases ++ added := by
  induction resources generalizing wallet leases with
  | nil => exact ⟨[], (List.append_nil leases).symm⟩
  | cons resource rest ih =>
      by_cases owned : wallet.Owns resource
      · rw [attachLeases_cons_owned owned]
        obtain ⟨added, result⟩ := ih
          (wallet.storeAdvanced resource (wallet.getOwnedLease resource).response).1
          (leases ++ [wallet.advancedProto resource])
        exact ⟨_, result.trans (List.append_assoc _ _ _)⟩
      · exact ⟨[], (attachLeases_cons_missing rest leases owned).2.1.trans
          (List.append_nil leases).symm⟩

/-- An owned first resource leaves its lease on the request, whatever comes after. -/
theorem attachLeases_cons_owned_ne (owned : wallet.Owns resource) :
    (attachLeases (resource :: resources) wallet leases).leases ≠ leases := by
  rw [attachLeases_cons_owned owned]
  obtain ⟨added, result⟩ := attachLeases_extends resources
    (wallet.storeAdvanced resource (wallet.getOwnedLease resource).response).1
    (leases ++ [wallet.advancedProto resource])
  rw [result, List.append_assoc]
  simp

/-- The resources after the first one are untouched by its advance. -/
theorem later_lookup (distinct : (resource :: resources).Nodup) (old : Lease) {key : String}
    (later : key ∈ resources) :
    (wallet.storeAdvanced resource old).1.leaseMap[key]? = wallet.leaseMap[key]? := by
  apply LeaseWallet.storeAdvanced_lookup_ne
  rintro rfl
  exact (List.nodup_cons.mp distinct).1 later

/-- All resources owned: each gets the increment of its lease. -/
theorem attachLeases_of_owned (leases : List LeaseProto) (distinct : resources.Nodup)
    (owned : ∀ resource ∈ resources, wallet.Owns resource) :
    ∃ after, attachLeases resources wallet leases =
        ⟨after, leases ++ resources.map wallet.advancedProto, successStatus⟩ ∧
      (∀ key ∈ resources, after.leaseMap[key]? =
        some (wallet.getOwnedLease key).response.increment) ∧
      ∀ key, key ∉ resources → after.leaseMap[key]? = wallet.leaseMap[key]? := by
  induction resources generalizing wallet leases with
  | nil =>
      refine ⟨wallet, ?_, fun key inside => absurd inside List.not_mem_nil, fun _ _ => rfl⟩
      rw [List.map_nil, List.append_nil, attachLeases]
  | cons resource rest ih =>
      have fresh := (List.nodup_cons.mp distinct).1
      let old := (wallet.getOwnedLease resource).response
      let next := (wallet.storeAdvanced resource old).1
      have kept : ∀ key ∈ rest, next.leaseMap[key]? = wallet.leaseMap[key]? :=
        fun key later => later_lookup distinct old later
      have ownedNext : ∀ key ∈ rest, next.Owns key := fun key later =>
        (LeaseWallet.owns_congr (kept key later)).mpr
          (owned key (List.mem_cons_of_mem _ later))
      obtain ⟨after, result, advanced, others⟩ :=
        ih (leases ++ [wallet.advancedProto resource]) (List.nodup_cons.mp distinct).2 ownedNext
      refine ⟨after, ?_, ?_, ?_⟩
      · have same : rest.map next.advancedProto = rest.map wallet.advancedProto :=
          List.map_congr_left fun key later =>
            LeaseWallet.advancedProto_congr (kept key later)
        rw [attachLeases_cons_owned (owned resource List.mem_cons_self), result, same,
          List.map_cons, List.append_assoc]
        rfl
      · intro key inside
        cases inside with
        | head =>
            rw [others resource fresh, LeaseWallet.storeAdvanced_lookup, if_pos rfl]
        | tail _ later =>
            rw [advanced key later, LeaseWallet.getOwnedLease_congr (kept key later)]
      · intro key outside
        rw [List.mem_cons, not_or] at outside
        rw [others key outside.2]
        exact LeaseWallet.storeAdvanced_lookup_ne old outside.1

/-- A resource that is missing fails the whole request. -/
theorem attachLeases_of_missing (leases : List LeaseProto) (distinct : resources.Nodup)
    (missing : ¬ ∀ resource ∈ resources, wallet.Owns resource) :
    (attachLeases resources wallet leases).status.ok = false := by
  induction resources generalizing wallet leases with
  | nil => exact absurd (fun resource inside => absurd inside List.not_mem_nil) missing
  | cons resource rest ih =>
      by_cases owned : wallet.Owns resource
      · rw [attachLeases_cons_owned owned]
        apply ih _ (List.nodup_cons.mp distinct).2
        intro all
        apply missing
        intro key inside
        cases inside with
        | head => exact owned
        | tail _ later =>
            exact (LeaseWallet.owns_congr (later_lookup distinct _ later)).mp (all key later)
      · exact (attachLeases_cons_missing rest leases owned).2.2

end Loop

/-! ## When the leases fit -/

/-- The condition on the wallet, the attached leases and the resources. As many leases as
resources have to be one for each. Otherwise, when the wallet owns all resources, a
resource has one attached lease and no wallet lease names it, or it has none and its own
wallet lease is the only one that names it; and when it does not, the first resource is
missing already. -/
structure LeasesFit (wallet : LeaseWallet) (leases : List LeaseProto)
    (resources : List String) : Prop where
  attached : resources.length ≤ leases.length →
    ∀ resource ∈ resources, leasesFor resource leases = 1
  owned : leases.length < resources.length →
    (∀ resource ∈ resources, wallet.Owns resource) →
    ∀ resource ∈ resources,
      (leasesFor resource leases = 1 ∧
          leasesFor resource (resources.map wallet.advancedProto) = 0) ∨
        (leasesFor resource leases = 0 ∧ (wallet.advancedProto resource).resource = resource ∧
          leasesFor resource (resources.map wallet.advancedProto) = 1)
  missing : leases.length < resources.length →
    (¬ ∀ resource ∈ resources, wallet.Owns resource) →
      ∀ first ∈ resources.head?, ¬ wallet.Owns first

section Fit

variable {wallet : LeaseWallet} {resource : String} {resources : List String}
  {leases : List LeaseProto}

theorem leasesFor_append (resource : String) (front back : List LeaseProto) :
    leasesFor resource (front ++ back) = leasesFor resource front + leasesFor resource back :=
  List.countP_append

theorem leasesFor_eq_zero_iff : leasesFor resource leases = 0 ↔
    ∀ lease ∈ leases, lease.resource ≠ resource := by
  simp [leasesFor, List.countP_eq_zero]

/-- Leases that are for a resource with only one lease are that lease. -/
theorem eq_of_leasesFor_eq_one {lease other : LeaseProto} (one : leasesFor resource leases = 1)
    (inside : lease ∈ leases) (named : lease.resource = resource)
    (inside' : other ∈ leases) (named' : other.resource = resource) : lease = other := by
  rw [leasesFor, List.countP_eq_length_filter, List.length_eq_one_iff] at one
  obtain ⟨only, filtered⟩ := one
  have single {candidate : LeaseProto} (inside : candidate ∈ leases)
      (named : candidate.resource = resource) : candidate = only := by
    rw [← List.mem_singleton, ← filtered, List.mem_filter]
    exact ⟨inside, decide_eq_true named⟩
  rw [single inside named, single inside' named']

theorem processRequest_of_attached (enough : resources.length ≤ leases.length) :
    processRequestWithMultipleLeases leases wallet resources =
      ⟨wallet, leases, successStatus⟩ :=
  if_pos enough

theorem processRequest_of_few (few : leases.length < resources.length) :
    processRequestWithMultipleLeases leases wallet resources =
      attachLeases resources wallet leases :=
  if_neg (Nat.not_le.mpr few)

/-- A wallet that owns all resources never fails a request. -/
theorem processRequest_ok_of_owned (distinct : resources.Nodup)
    (owned : ∀ resource ∈ resources, wallet.Owns resource) :
    (processRequestWithMultipleLeases leases wallet resources).status.ok = true := by
  rcases Nat.lt_or_ge leases.length resources.length with few | enough
  · obtain ⟨after, result, _⟩ := attachLeases_of_owned leases distinct owned
    rw [processRequest_of_few few, result]
    exact successStatus_ok
  · rw [processRequest_of_attached enough]
    exact successStatus_ok

theorem attachesEach_attached_iff :
    AttachesEach wallet leases resources ⟨wallet, leases, successStatus⟩ ↔
      ∀ resource ∈ resources, leasesFor resource leases = 1 := by
  constructor
  · intro each
    exact each.exactlyOne successStatus_ok
  · intro one
    constructor
    case exactlyOne => exact fun _ => one
    case origin => exact fun _ _ _ lease inside _ => .inl inside
    case unchanged => exact fun failed => absurd failed (by simp)
    case retry => exact fun failed => absurd failed (by simp)

theorem attachesEach_failed_iff {outcome : LeaseRequestOutcome} (distinct : resources.Nodup)
    (failed : outcome.status.ok = false) :
    AttachesEach wallet leases resources outcome ↔
      outcome.leases = leases ∧ outcome.wallet = wallet := by
  constructor
  · intro each
    exact each.unchanged failed
  · intro same
    constructor
    case exactlyOne => exact fun ok => absurd (failed.symm.trans ok) Bool.false_ne_true
    case origin => exact fun ok => absurd (failed.symm.trans ok) Bool.false_ne_true
    case unchanged => exact fun _ => same
    case retry => exact fun _ later owned => processRequest_ok_of_owned distinct owned

/-- The leases of the resources that the wallet owns have been advanced. -/
theorem newlyAdvanced_of_owned {after : LeaseWallet} (owned : wallet.Owns resource)
    (advanced : after.leaseMap[resource]? =
      some (wallet.getOwnedLease resource).response.increment) :
    NewlyAdvanced wallet after resource (wallet.advancedProto resource) := by
  obtain ⟨old, found, self⟩ := owned
  have read := LeaseWallet.getOwnedLease_of_owned found self
  refine ⟨old, found, self, ?_, ?_⟩
  · rw [advanced, read]
  · rw [LeaseWallet.advancedProto, read]

theorem attachesEach_owned_iff {after : LeaseWallet}
    (owned : ∀ resource ∈ resources, wallet.Owns resource)
    (advanced : ∀ key ∈ resources, after.leaseMap[key]? =
      some (wallet.getOwnedLease key).response.increment) :
    AttachesEach wallet leases resources
        ⟨after, leases ++ resources.map wallet.advancedProto, successStatus⟩ ↔
      ∀ resource ∈ resources,
        (leasesFor resource leases = 1 ∧
            leasesFor resource (resources.map wallet.advancedProto) = 0) ∨
          (leasesFor resource leases = 0 ∧
            (wallet.advancedProto resource).resource = resource ∧
            leasesFor resource (resources.map wallet.advancedProto) = 1) := by
  constructor
  · intro each resource listed
    have one := each.exactlyOne successStatus_ok resource listed
    rw [leasesFor_append] at one
    rcases Nat.eq_zero_or_pos (leasesFor resource leases) with none | some
    · refine .inr ⟨none, ?_, by omega⟩
      -- The one lease for the resource is an advanced one, so it is its own.
      have single : leasesFor resource (resources.map wallet.advancedProto) = 1 := by omega
      obtain ⟨lease, inside, named⟩ := List.countP_pos_iff.mp
        (show 0 < leasesFor resource (resources.map wallet.advancedProto) by omega)
      have named' : lease.resource = resource := of_decide_eq_true named
      rcases each.origin successStatus_ok resource listed lease
          (List.mem_append_right _ inside) named' with old | ⟨held, found, self, _, same⟩
      · exact absurd named' (leasesFor_eq_zero_iff.mp none lease old)
      · rw [LeaseWallet.advancedProto, LeaseWallet.getOwnedLease_of_owned found self, ← same]
        exact named'
    · exact .inl ⟨by omega, by omega⟩
  · intro fits
    constructor
    case exactlyOne =>
      intro _ resource listed
      rw [leasesFor_append]
      rcases fits resource listed with ⟨one, none⟩ | ⟨none, _, one⟩ <;> omega
    case origin =>
      intro _ resource listed lease inside named
      rcases List.mem_append.mp inside with old | new
      · exact .inl old
      · rcases fits resource listed with ⟨_, none⟩ | ⟨_, own, one⟩
        · exact absurd named (leasesFor_eq_zero_iff.mp none lease new)
        · have same := eq_of_leasesFor_eq_one one new named
            (List.mem_map_of_mem listed) own
          rw [same]
          exact .inr (newlyAdvanced_of_owned (owned resource listed)
            (advanced resource listed))
    case unchanged => exact fun failed => absurd failed (by simp)
    case retry => exact fun failed => absurd failed (by simp)

theorem attachLeases_unchanged_iff :
    ((attachLeases resources wallet leases).leases = leases ∧
        (attachLeases resources wallet leases).wallet = wallet) ↔
      ∀ first ∈ resources.head?, ¬ wallet.Owns first := by
  cases resources with
  | nil => exact iff_of_true ⟨rfl, rfl⟩ fun first inside => nomatch inside
  | cons first rest =>
      simp only [List.head?_cons, Option.mem_some_iff, forall_eq']
      constructor
      · rintro ⟨same, _⟩ owned
        exact attachLeases_cons_owned_ne owned same
      · intro missing
        obtain ⟨wallet', leases', _⟩ :=
          attachLeases_cons_missing rest leases missing
        exact ⟨leases', wallet'⟩

/-- Processing gives each resource its lease or changes nothing exactly when the leases
fit. -/
theorem attachesEach_iff (distinct : resources.Nodup) :
    AttachesEach wallet leases resources
        (processRequestWithMultipleLeases leases wallet resources) ↔
      LeasesFit wallet leases resources := by
  rcases Nat.lt_or_ge leases.length resources.length with few | enough
  · rw [processRequest_of_few few]
    by_cases owned : ∀ resource ∈ resources, wallet.Owns resource
    · obtain ⟨after, result, advanced, _⟩ :=
        attachLeases_of_owned leases distinct owned
      rw [result, attachesEach_owned_iff owned advanced]
      constructor
      · intro fits
        exact ⟨fun enough => absurd few (Nat.not_lt.mpr enough), fun _ _ => fits,
          fun _ missing => absurd owned missing⟩
      · intro fit
        exact fit.owned few owned
    · have failed := attachLeases_of_missing leases distinct owned
      rw [attachesEach_failed_iff distinct failed, attachLeases_unchanged_iff]
      constructor
      · intro missing
        exact ⟨fun enough => absurd few (Nat.not_lt.mpr enough),
          fun _ all => absurd all owned, fun _ _ => missing⟩
      · intro fit
        exact fit.missing few owned
  · rw [processRequest_of_attached enough, attachesEach_attached_iff]
    constructor
    · intro one
      exact ⟨fun _ => one, fun few => absurd few (Nat.not_lt.mpr enough),
        fun few => absurd few (Nat.not_lt.mpr enough)⟩
    · intro fit
      exact fit.attached enough

end Fit

/-! ## Bodies and grippers -/

def ownBodyLease : Lease :=
  Lease.ofProto { resource := "body", epoch := "e", sequence := [1] }

/-- A wallet with a lease for the body. -/
def oneBodyWallet : LeaseWallet :=
  LeaseWallet.addLease { clientName := "client" } "body" ownBodyLease .noSubLease

theorem oneBodyWallet_lookup (resource : String) :
    oneBodyWallet.leaseMap[resource]? = if "body" = resource then some ownBodyLease else none := by
  rw [oneBodyWallet, LeaseWallet.addLease_lookup]
  simp [LeaseWallet.leaseToStore]

theorem oneBodyWallet_owns_body : oneBodyWallet.Owns "body" :=
  ⟨ownBodyLease, by rw [oneBodyWallet_lookup, if_pos rfl], rfl⟩

theorem oneBodyWallet_not_owns_gripper : ¬ oneBodyWallet.Owns "gripper" := by
  rintro ⟨lease, found, _⟩
  rw [oneBodyWallet_lookup, if_neg (by decide)] at found
  cases found

def ownGripperLease : Lease :=
  Lease.ofProto { resource := "gripper", epoch := "e", sequence := [4] }

/-- A wallet with leases for both. -/
def twoLeaseWallet : LeaseWallet :=
  oneBodyWallet.addLease "gripper" ownGripperLease .noSubLease

theorem twoLeaseWallet_body : twoLeaseWallet.leaseMap["body"]? = some ownBodyLease := by
  rw [twoLeaseWallet, LeaseWallet.addLease_lookup, if_neg (by decide), oneBodyWallet_lookup,
    if_pos rfl]

theorem twoLeaseWallet_gripper :
    twoLeaseWallet.leaseMap["gripper"]? = some ownGripperLease := by
  rw [twoLeaseWallet, LeaseWallet.addLease_lookup, if_pos rfl]
  simp [LeaseWallet.leaseToStore]

/-- A request that has the lease of the arm already gets those of the body and the gripper. -/
theorem attachesEach_bodyAndGripper :
    AttachesEach twoLeaseWallet [{ resource := "arm", epoch := "e", sequence := [2] }]
      ["body", "gripper"]
      (processRequestWithMultipleLeases [{ resource := "arm", epoch := "e", sequence := [2] }]
        twoLeaseWallet ["body", "gripper"]) := by
  have body : twoLeaseWallet.advancedProto "body" = ownBodyLease.increment.proto := by
    rw [LeaseWallet.advancedProto, LeaseWallet.getOwnedLease_of_owned twoLeaseWallet_body rfl]
  have gripper : twoLeaseWallet.advancedProto "gripper" = ownGripperLease.increment.proto := by
    rw [LeaseWallet.advancedProto, LeaseWallet.getOwnedLease_of_owned twoLeaseWallet_gripper rfl]
  apply (attachesEach_iff (by decide)).mpr
  constructor
  case attached => exact fun enough => absurd enough (by decide)
  case owned =>
    intro _ _ resource listed
    rw [List.map_cons, List.map_cons, List.map_nil, body, gripper]
    rcases List.mem_pair.mp listed with rfl | rfl
    · exact .inr ⟨by decide, by rw [body]; decide, by decide⟩
    · exact .inr ⟨by decide, by rw [gripper]; decide, by decide⟩
  case missing =>
    intro _ missing
    refine absurd (fun resource listed => ?_) missing
    rcases List.mem_pair.mp listed with rfl | rfl
    · exact ⟨ownBodyLease, twoLeaseWallet_body, rfl⟩
    · exact ⟨ownGripperLease, twoLeaseWallet_gripper, rfl⟩

/-- The lease of the body stays on a request that fails for want of the gripper's. -/
theorem not_attachesEach_gripper :
    (processRequestWithMultipleLeases [] oneBodyWallet ["body", "gripper"]).status.ok = false ∧
      (processRequestWithMultipleLeases [] oneBodyWallet ["body", "gripper"]).leases ≠ [] ∧
      ¬ ∀ wallet leases (resources : List String), resources.Nodup →
        AttachesEach wallet leases resources
          (processRequestWithMultipleLeases leases wallet resources) := by
  have unfolded : processRequestWithMultipleLeases [] oneBodyWallet ["body", "gripper"] =
      attachLeases ["body", "gripper"] oneBodyWallet [] := processRequest_of_few (by decide)
  have failed : (attachLeases ["body", "gripper"] oneBodyWallet []).status.ok = false := by
    apply attachLeases_of_missing [] (by decide)
    intro all
    exact oneBodyWallet_not_owns_gripper (all "gripper" (by decide))
  have extended : (attachLeases ["body", "gripper"] oneBodyWallet []).leases ≠ [] :=
    attachLeases_cons_owned_ne oneBodyWallet_owns_body
  rw [unfolded]
  refine ⟨failed, extended, fun all => ?_⟩
  have each := all oneBodyWallet [] ["body", "gripper"] (by decide)
  rw [unfolded] at each
  exact extended (each.unchanged failed).1

end SpotSdk.Client
