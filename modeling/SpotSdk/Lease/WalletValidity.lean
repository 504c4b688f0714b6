import SpotSdk.Lease.LeaseClient
import SpotSdk.Lease.WalletConcurrency

/-!
# Valid entries of the wallet

Every inserting path stores what it is given. The wallet holds valid leases under
their own resources exactly as long as each path is given such a lease.
-/

namespace SpotSdk.Client

open Common Foundations Foundations.LockedBlocks

/-- One use of the wallet: a completion handler of the lease client, a whole wallet
operation, or one of the getters. -/
inductive WalletCall
  | completion (done : LeaseCompletion)
  | operation (op : WalletOp)
  | getLease (resource : String)
  | getOwnedLease (resource : String)
  deriving DecidableEq

/-- The wallet after a call. -/
def WalletCall.step (chain : LeaseProcessorChain) (wallet : LeaseWallet) :
    WalletCall → Option LeaseWallet
  | completion done => done.deliver chain (some wallet)
  | operation op => some (walletBlocks.whole op wallet).1
  | getLease _ => some wallet
  | getOwnedLease _ => some wallet

/-- Every entry is a valid lease of the resource it is stored under. -/
def WalletValid (wallet : LeaseWallet) : Prop :=
  ∀ (key : String) (lease : Lease), wallet.leaseMap[key]? = some lease →
    lease.IsValid ∧ lease.getResource = key

/-- An advance that succeeds returns a valid lease of the resource. -/
def AdvancesValid (wallet : LeaseWallet) : Prop :=
  ∀ resource : String, (wallet.advanceLease resource).2.ok = true →
    (wallet.advanceLease resource).2.response.IsValid ∧
      (wallet.advanceLease resource).2.response.getResource = resource

/-- What the wallet promises in every state a list of calls reaches. -/
def StaysValid (chain : LeaseProcessorChain) (wallet : LeaseWallet)
    (calls : List WalletCall) : Prop :=
  ∀ before rest reached, calls = before ++ rest →
    Run (StepOf (WalletCall.step chain)) wallet before reached →
    WalletValid reached ∧ AdvancesValid reached

/-- A call that inserts a lease is given a valid lease of the resource it names. -/
def WalletCall.InsertsValid (chain : LeaseProcessorChain) : WalletCall → Prop
  | completion done => ∀ resource lease, done.effect chain = .store resource lease →
      (Lease.ofProto lease).IsValid ∧ lease.resource = resource
  | operation (.addLease resource lease _) => lease.IsValid ∧ lease.getResource = resource
  | operation _ => True
  | getLease _ => True
  | getOwnedLease _ => True

variable {wallet after : LeaseWallet} {resource : String} {lease : Lease}
  {chain : LeaseProcessorChain}

/-- What `AddLease` stores is valid, and of its resource, exactly when its lease is. -/
theorem leaseToStore_valid_iff (wallet : LeaseWallet) (resource : String) (lease : Lease)
    (option : SubLease) :
    ((wallet.leaseToStore lease option).IsValid ∧
        (wallet.leaseToStore lease option).getResource = resource) ↔
      lease.IsValid ∧ lease.getResource = resource := by
  simp only [LeaseWallet.leaseToStore]
  split
  · rfl
  · by_cases hv : lease.IsValid
    · have hsub := Lease.createSublease_comparable hv wallet.clientName
      simp only [Lease.getResource, hsub.left, hsub.resource, hv, true_and]
    · have hdefault : lease.createSublease wallet.clientName = {} := if_pos hv
      simp only [hdefault, hv, false_and, iff_false, not_and]
      intro hvalid
      exact absurd hvalid Lease.not_isValid_default

/-- Adding keeps the wallet valid exactly when the lease is valid for its key. -/
theorem addLease_valid_iff (h : WalletValid wallet) (option : SubLease) :
    WalletValid (wallet.addLease resource lease option) ↔
      lease.IsValid ∧ lease.getResource = resource := by
  rw [← leaseToStore_valid_iff wallet resource lease option]
  constructor
  · intro hafter
    exact hafter resource _ (by simp)
  · intro hstored key entry hentry
    rw [LeaseWallet.addLease_lookup] at hentry
    split_ifs at hentry with hkey
    · obtain rfl := Option.some.inj hentry
      exact hkey ▸ hstored
    · exact h key entry hentry

theorem removeLease_valid (h : WalletValid wallet) (resource : String) :
    WalletValid (wallet.removeLease resource) := by
  intro key entry hentry
  rw [LeaseWallet.removeLease_lookup] at hentry
  split_ifs at hentry
  exact h key entry hentry

theorem increment_valid (hv : lease.IsValid) :
    lease.increment.IsValid ∧ lease.increment.getResource = lease.getResource :=
  ⟨(Lease.increment_comparable hv).left, (Lease.increment_comparable hv).resource⟩

/-- Operations that add nothing keep the wallet valid: what they store has the
resource and the validity of the entry it replaces. -/
theorem whole_valid {op : WalletOp} (h : WalletValid wallet)
    (hop : ∀ resource lease option, op ≠ .addLease resource lease option) :
    WalletValid (walletBlocks.whole op wallet).1 := by
  intro key entry hentry
  have happlies : walletBlocks.Applies wallet
      ((), .reply op (walletBlocks.whole op wallet).2) (walletBlocks.whole op wallet).1 := rfl
  have hadd : ¬ AddsLease key ((), Block.reply op (walletBlocks.whole op wallet).2) := by
    rintro ⟨lease, option, reply, heq⟩
    exact hop key lease option (Block.reply.inj heq).1
  obtain ⟨old, hold, ⟨hproto, _⟩ | ⟨_, _, rfl⟩⟩ := entry_of_applies happlies hadd hentry
  · obtain ⟨hvalid, hkey⟩ := h key old hold
    rw [Lease.IsValid, Lease.getResource, hproto]
    exact ⟨hvalid, hkey⟩
  · obtain ⟨hvalid, hkey⟩ := h key old hold
    obtain ⟨hinc, hresource⟩ := increment_valid hvalid
    exact ⟨hinc, hresource.trans hkey⟩

theorem advancesValid_of_valid (h : WalletValid wallet) : AdvancesValid wallet := by
  intro resource hok
  rcases wallet.advanceLease_cases resource with ⟨_, hfail⟩ | ⟨old, hold, _, heq⟩
  · rw [hok] at hfail
    cases hfail
  · obtain ⟨hvalid, hkey⟩ := h resource old hold
    obtain ⟨hinc, hresource⟩ := increment_valid hvalid
    rw [heq]
    exact ⟨hinc, hresource.trans hkey⟩

/-- An effect keeps the wallet valid exactly when what it stores is valid. -/
theorem effect_valid_iff (h : WalletValid wallet) (effect : WalletEffect) :
    WalletValid (effect.apply wallet) ↔
      ∀ resource lease, effect = .store resource lease →
        (Lease.ofProto lease).IsValid ∧ lease.resource = resource := by
  cases effect with
  | store resource lease =>
      rw [WalletEffect.apply, addLease_valid_iff h]
      simp only [Lease.getResource, Lease.ofProto_resource]
      constructor
      · rintro hstored _ _ ⟨⟩
        exact hstored
      · intro hstored
        exact hstored resource lease rfl
  | drop lease => exact iff_of_true (removeLease_valid h _) (by simp)
  | keep => exact iff_of_true h (by simp)

/-- One call keeps a valid wallet valid exactly when it inserts a valid lease. -/
theorem step_valid_iff (h : WalletValid wallet) {call : WalletCall}
    (hstep : call.step chain wallet = some after) :
    WalletValid after ↔ call.InsertsValid chain := by
  cases call with
  | completion done =>
      rw [WalletCall.step, LeaseCompletion.deliver_eq, Option.some.injEq] at hstep
      subst hstep
      exact effect_valid_iff h (done.effect chain)
  | operation op =>
      obtain rfl : (walletBlocks.whole op wallet).1 = after := Option.some.inj hstep
      cases op with
      | addLease resource lease option => exact addLease_valid_iff h option
      | advanceLease resource => exact iff_of_true (whole_valid h (by simp)) trivial
      | onLeaseUseResult result => exact iff_of_true (whole_valid h (by simp)) trivial
      | removeLease resource => exact iff_of_true (whole_valid h (by simp)) trivial
      | failLease lease => exact iff_of_true (whole_valid h (by simp)) trivial
  | getLease resource =>
      obtain rfl : wallet = after := Option.some.inj hstep
      exact iff_of_true h trivial
  | getOwnedLease resource =>
      obtain rfl : wallet = after := Option.some.inj hstep
      exact iff_of_true h trivial

theorem step_total (chain : LeaseProcessorChain) (wallet : LeaseWallet) (call : WalletCall) :
    ∃ after, call.step chain wallet = some after := by
  cases call with
  | completion done => exact ⟨_, done.deliver_eq chain wallet⟩
  | operation op => exact ⟨_, rfl⟩
  | getLease resource => exact ⟨_, rfl⟩
  | getOwnedLease resource => exact ⟨_, rfl⟩

/-- A run of calls that insert valid leases keeps the wallet valid. -/
theorem run_valid {calls : List WalletCall} (h : WalletValid wallet)
    (hcalls : ∀ call ∈ calls, call.InsertsValid chain)
    (run : Run (StepOf (WalletCall.step chain)) wallet calls after) : WalletValid after := by
  induction run with
  | nil => exact h
  | cons hstep _ ih =>
      obtain ⟨hcall, hrest⟩ := List.forall_mem_cons.mp hcalls
      exact ih ((step_valid_iff h hstep).mpr hcall) hrest

/-- From a valid wallet all calls stay valid exactly when each insertion is. -/
theorem staysValid_iff_of_valid (h : WalletValid wallet) (calls : List WalletCall) :
    StaysValid chain wallet calls ↔ ∀ call ∈ calls, call.InsertsValid chain := by
  constructor
  · intro hstays
    induction calls generalizing wallet with
    | nil => simp
    | cons call calls ih =>
        obtain ⟨next, hstep⟩ := step_total chain wallet call
        have hnext := (hstays [call] calls next rfl (Run.single hstep)).1
        rw [List.forall_mem_cons]
        refine ⟨(step_valid_iff h hstep).mp hnext, ih hnext ?_⟩
        intro before rest reached heq run
        exact hstays (call :: before) rest reached (congrArg (List.cons call) heq)
          (Run.cons hstep run)
  · intro hcalls before rest reached heq run
    have hbefore : ∀ call ∈ before, call.InsertsValid chain := by
      intro call hmem
      exact hcalls call (heq ▸ List.mem_append_left rest hmem)
    have hreached := run_valid h hbefore run
    exact ⟨hreached, advancesValid_of_valid hreached⟩

/-- The wallet a client starts with. -/
def LeaseWallet.new (clientName : String) : LeaseWallet :=
  { clientName }

theorem new_valid (clientName : String) : WalletValid (LeaseWallet.new clientName) := by
  intro key lease hentry
  simp [LeaseWallet.new] at hentry

/-- The wallet of a client holds valid leases of the right resources in every state
exactly when every insertion is given one. -/
theorem staysValid_iff (chain : LeaseProcessorChain) (clientName : String)
    (calls : List WalletCall) :
    StaysValid chain (LeaseWallet.new clientName) calls ↔
      ∀ call ∈ calls, call.InsertsValid chain :=
  staysValid_iff_of_valid (new_valid clientName) calls

/-- A successful answer whose lease was never set. -/
def emptyGrant : WalletCall :=
  .completion (.acquireLease { resource := "body" }
    { header := { error := { code := 1 } }, status := 1 } {})

/-- The default lease is stored under the requested resource. -/
theorem not_staysValid_emptyGrant :
    ¬ StaysValid [commonResponseProcessor] (LeaseWallet.new "client") [emptyGrant] := by
  intro hstays
  have hwallet := hstays [emptyGrant] [] _ rfl (Run.single rfl)
  have hentry := hwallet.1 "body" {} rfl
  exact absurd hentry.1 Lease.not_isValid_default

end SpotSdk.Client
