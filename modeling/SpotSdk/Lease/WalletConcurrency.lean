import SpotSdk.Foundations.LockedBlocks
import SpotSdk.Lease.LeaseClock

/-!
# Concurrent use of the lease wallet

`AdvanceLease` and `OnLeaseUseResult` lock the wallet once to read and once to write.
Threads interleave these blocks. The wallet behaves like a sequential one in every
run in which no entry changes between the two blocks of an operation on it.
-/

namespace SpotSdk.Client

open Common Foundations Foundations.LockedBlocks Foundations.SequenceClock

/-- The operations the threads call. -/
inductive WalletOp
  | advanceLease (resource : String)
  | onLeaseUseResult (result : LeaseUseResult)
  | addLease (resource : String) (lease : Lease) (option : SubLease)
  | removeLease (resource : String)
  | failLease (lease : Lease)
  deriving DecidableEq

inductive WalletReply
  | lease (result : Result Lease)
  | status (status : Status)
  | void
  deriving DecidableEq

/-- A second block, with the lease its first block copied out of the wallet. -/
inductive WalletBlock
  | storeAdvanced (resource : String) (old : Lease)
  | storeUpdated (result : LeaseUseResult) (found : Lease)
  deriving DecidableEq

/-- The first block of each operation. -/
def WalletOp.first (wallet : LeaseWallet) :
    WalletOp → (LeaseWallet × WalletReply) ⊕ WalletBlock
  | advanceLease resource =>
      let old := wallet.getOwnedLease resource
      if !old.ok then .inl (wallet, .lease old)
      else .inr (.storeAdvanced resource old.response)
  | onLeaseUseResult result =>
      let found := wallet.getLease result.attemptedLease.resource
      if !found.status.ok then .inl (wallet, .status found.status)
      else .inr (.storeUpdated result found.response)
  | addLease resource lease option =>
      .inl (wallet.addLease resource lease option, .void)
  | removeLease resource => .inl (wallet.removeLease resource, .void)
  | failLease lease => .inl (Prod.map id .status (wallet.failLease lease))

def WalletBlock.second (wallet : LeaseWallet) : WalletBlock → LeaseWallet × WalletReply
  | storeAdvanced resource old =>
      Prod.map id .lease (wallet.storeAdvanced resource old)
  | storeUpdated result found =>
      Prod.map id .status (wallet.storeUpdated result found)

/-- The wallet as a shared object of lock-guarded blocks. -/
def walletBlocks : LockedBlocks WalletOp WalletBlock LeaseWallet WalletReply where
  first op wallet := op.first wallet
  second block wallet := block.second wallet

abbrev WalletConfig (ι : Type*) := Config ι WalletOp WalletBlock LeaseWallet WalletReply

abbrev WalletEvent (ι : Type*) := ι × Block WalletOp WalletBlock WalletReply

section Whole

variable (wallet : LeaseWallet)

/-- The blocks of one call without interference are the call. -/
@[simp] theorem whole_advanceLease (resource : String) :
    walletBlocks.whole (.advanceLease resource) wallet =
      Prod.map id .lease (wallet.advanceLease resource) := by
  cases h : (wallet.getOwnedLease resource).ok with
  | false => simp [whole, walletBlocks, WalletOp.first, LeaseWallet.advanceLease, h]
  | true =>
      simp [whole, walletBlocks, WalletOp.first, WalletBlock.second,
        LeaseWallet.advanceLease, h]

@[simp] theorem whole_onLeaseUseResult (result : LeaseUseResult) :
    walletBlocks.whole (.onLeaseUseResult result) wallet =
      Prod.map id .status (wallet.onLeaseUseResult result) := by
  cases h : (wallet.getLease result.attemptedLease.resource).status.ok with
  | false => simp [whole, walletBlocks, WalletOp.first, LeaseWallet.onLeaseUseResult, h]
  | true =>
      simp [whole, walletBlocks, WalletOp.first, WalletBlock.second,
        LeaseWallet.onLeaseUseResult, h]

@[simp] theorem whole_addLease (resource : String) (lease : Lease) (option : SubLease) :
    walletBlocks.whole (.addLease resource lease option) wallet =
      (wallet.addLease resource lease option, .void) := rfl

@[simp] theorem whole_removeLease (resource : String) :
    walletBlocks.whole (.removeLease resource) wallet =
      (wallet.removeLease resource, .void) := rfl

@[simp] theorem whole_failLease (lease : Lease) :
    walletBlocks.whole (.failLease lease) wallet =
      Prod.map id .status (wallet.failLease lease) := rfl

end Whole

/-! ## What a run promises -/

variable {ι : Type*}

/-- The event answers an advance of the resource with the given lease. -/
def HandsOut (resource : String) (lease : Lease) (e : WalletEvent ι) : Prop :=
  ∃ result : Result Lease, e.2 = .reply (.advanceLease resource) (.lease result) ∧
    result.ok = true ∧ result.response = lease

/-- The event adds a lease for the resource. -/
def AddsLease (resource : String) (e : WalletEvent ι) : Prop :=
  ∃ lease option reply, e.2 = .reply (.addLease resource lease option) reply

/-- An answered lease use result neither restores a removed entry nor takes an entry
back to an older lease. -/
def UseResultKeeps (before : LeaseWallet) (e : WalletEvent ι) (after : LeaseWallet) :
    Prop :=
  ∀ result reply, e.2 = .reply (.onLeaseUseResult result) reply → ∀ resource : String,
    (before.leaseMap[resource]? = none → after.leaseMap[resource]? = none) ∧
    ∀ lease lease', before.leaseMap[resource]? = some lease →
      after.leaseMap[resource]? = some lease' → lease'.compare lease ≠ .older

/-- The event is a successful advance of the resource. -/
def isAdvance (resource : String) (e : WalletEvent ι) : Bool :=
  match e.2 with
  | .reply (.advanceLease r) (.lease result) => r == resource && result.ok
  | _ => false

/-- What a run of threads promises: its replies and its wallet are those of a
sequential run from the same start, two advances never hand out one lease unless the
resource is added in between, and use results never restore an old state. -/
structure LinearizedRun [DecidableEq ι] (c : WalletConfig ι) (history : List (WalletEvent ι))
    (d : WalletConfig ι) : Prop where
  sequential : ∃ order, Run walletBlocks.Sequential c order d.erase
  advances : ∀ pre e mid e' post resource lease lease',
    history = pre ++ e :: (mid ++ e' :: post) →
    HandsOut resource lease e → HandsOut resource lease' e' →
    (∀ m ∈ mid, ¬ AddsLease resource m) → lease'.proto ≠ lease.proto
  useResults : Run (fun c e d => walletBlocks.Interleaved c e d ∧
    UseResultKeeps c.shared e d.shared) c history d

/-- Between two additions of a resource its counter cannot go all the way round. -/
def FewAdvances (history : List (WalletEvent ι)) : Prop :=
  ∀ resource pre mid post, history = pre ++ (mid ++ post) →
    (∀ m ∈ mid, ¬ AddsLease resource m) → mid.countP (isAdvance resource) ≤ 2 ^ 32

theorem fewAdvances_of_length {history : List (WalletEvent ι)}
    (h : history.length ≤ 2 ^ 32) : FewAdvances history := by
  intro resource pre mid post hhistory _
  have hcount := List.countP_le_length (p := isAdvance resource) (l := mid)
  have hlength := congrArg List.length hhistory
  rw [List.length_append, List.length_append] at hlength
  omega

/-! ## One step -/

theorem HandsOut.isAdvance {resource : String} {lease : Lease} {e : WalletEvent ι}
    (h : HandsOut resource lease e) : isAdvance resource e = true := by
  obtain ⟨result, he, hok, _⟩ := h
  simp [Client.isAdvance, he, hok]

theorem HandsOut.not_addsLease {resource : String} {lease : Lease} {e : WalletEvent ι}
    (h : HandsOut resource lease e) : ¬ AddsLease resource e := by
  rintro ⟨added, option, reply, hadd⟩
  obtain ⟨result, he, _⟩ := h
  rw [hadd] at he
  cases he

/-- Where the entry of a resource comes from when the resource was not added. -/
theorem entry_of_applies {wallet after : LeaseWallet} {e : WalletEvent ι}
    {resource : String} {current : Lease} (h : walletBlocks.Applies wallet e after)
    (hadd : ¬ AddsLease resource e) (hc : after.leaseMap[resource]? = some current) :
    ∃ old, wallet.leaseMap[resource]? = some old ∧
      ((current.proto = old.proto ∧
          (current.isLeaseSelfOwned = true → old.isLeaseSelfOwned = true)) ∨
        (isAdvance resource e = true ∧ old.isLeaseSelfOwned = true ∧
          current = old.increment)) := by
  obtain ⟨i, b⟩ := e
  cases b with
  | read op rest =>
      obtain rfl : after = wallet := h
      exact ⟨current, hc, Or.inl ⟨rfl, id⟩⟩
  | reply op reply =>
      have hwhole : walletBlocks.whole op wallet = (after, reply) := h
      cases op with
      | advanceLease r =>
          rw [whole_advanceLease, Prod.ext_iff] at hwhole
          obtain rfl : (wallet.advanceLease r).1 = after := hwhole.1
          rcases LeaseWallet.advanceLease_entry hc with
            hold | ⟨rfl, hok, old, hold, howned, heq⟩
          · exact ⟨current, hold, Or.inl ⟨rfl, id⟩⟩
          · have hadv : isAdvance r (i, .reply (.advanceLease r) reply) = true := by
              have hreply : .lease (wallet.advanceLease r).2 = reply := hwhole.2
              rw [← hreply]
              simp [isAdvance, hok]
            exact ⟨old, hold, Or.inr ⟨hadv, howned, heq⟩⟩
      | onLeaseUseResult result =>
          rw [whole_onLeaseUseResult, Prod.ext_iff] at hwhole
          obtain rfl : (wallet.onLeaseUseResult result).1 = after := hwhole.1
          obtain ⟨old, hold, hproto, howned⟩ := LeaseWallet.onLeaseUseResult_entry hc
          exact ⟨old, hold, Or.inl ⟨hproto, howned⟩⟩
      | addLease r lease option =>
          rw [whole_addLease, Prod.ext_iff] at hwhole
          obtain rfl : wallet.addLease r lease option = after := hwhole.1
          rw [LeaseWallet.addLease_lookup] at hc
          split_ifs at hc with hr
          · subst hr
            exact absurd ⟨lease, option, reply, rfl⟩ hadd
          · exact ⟨current, hc, Or.inl ⟨rfl, id⟩⟩
      | removeLease r =>
          rw [whole_removeLease, Prod.ext_iff] at hwhole
          obtain rfl : wallet.removeLease r = after := hwhole.1
          exact ⟨current, LeaseWallet.removeLease_entry hc, Or.inl ⟨rfl, id⟩⟩
      | failLease lease =>
          rw [whole_failLease, Prod.ext_iff] at hwhole
          obtain rfl : (wallet.failLease lease).1 = after := hwhole.1
          exact ⟨current, LeaseWallet.failLease_entry hc, Or.inl ⟨rfl, id⟩⟩

/-- A successful advance hands out the increment of the entry and stores it. -/
theorem handsOut_cases {wallet after : LeaseWallet} {e : WalletEvent ι} {resource : String}
    {lease : Lease} (h : walletBlocks.Applies wallet e after)
    (hand : HandsOut resource lease e) :
    ∃ old, wallet.leaseMap[resource]? = some old ∧ old.isLeaseSelfOwned = true ∧
      lease = old.increment ∧ after.leaseMap[resource]? = some lease := by
  obtain ⟨i, b⟩ := e
  obtain ⟨result, hb, hok, rfl⟩ := hand
  obtain rfl : b = .reply (.advanceLease resource) (.lease result) := hb
  have hwhole : walletBlocks.whole (.advanceLease resource) wallet =
      (after, .lease result) := h
  rw [whole_advanceLease, Prod.ext_iff] at hwhole
  obtain rfl : (wallet.advanceLease resource).1 = after := hwhole.1
  have hresult : (wallet.advanceLease resource).2 = result := by
    simpa using hwhole.2
  rcases wallet.advanceLease_cases resource with ⟨_, hfail⟩ | ⟨old, hold, howned, heq⟩
  · rw [hresult, hok] at hfail
    cases hfail
  · have hlease : result.response = old.increment := by
      rw [← hresult, heq]
      rfl
    exact ⟨old, hold, howned, hlease, by rw [heq, hlease]; simp⟩

/-- An answered use result keeps the entries as promised when nothing interfered. -/
theorem useResultKeeps_of_applies {wallet after : LeaseWallet} {e : WalletEvent ι}
    (h : walletBlocks.Applies wallet e after) : UseResultKeeps wallet e after := by
  intro result reply he resource
  have hadd : ¬ AddsLease resource e := by
    rintro ⟨lease, option, reply', he'⟩
    rw [he] at he'
    cases he'
  constructor
  · intro hnone
    by_contra hsome
    obtain ⟨current, hc⟩ := Option.ne_none_iff_exists'.mp hsome
    obtain ⟨old, hold, _⟩ := entry_of_applies h hadd hc
    rw [hnone] at hold
    cases hold
  · intro lease lease' hlease hlease'
    obtain ⟨old, hold, ⟨hproto, _⟩ | ⟨hadv, _⟩⟩ := entry_of_applies h hadd hlease'
    · obtain rfl := Option.some.inj (hlease.symm.trans hold)
      exact Lease.compare_ne_older_of_proto_eq hproto
    · simp [isAdvance, he] at hadv

/-! ## Leases handed out between two additions -/

/-- An entry of this client is the given lease after at most `n` increments. -/
def DescendsFrom (wallet : LeaseWallet) (resource : String) (lease : Lease) (n : Nat) :
    Prop :=
  ∀ current, wallet.leaseMap[resource]? = some current →
    current.isLeaseSelfOwned = true → current.IsValid ∧ lease.IsValid ∧
      ∃ k ≤ n, current.proto.sequence = Lease.incrementLast^[k] lease.proto.sequence

variable {wallet after : LeaseWallet} {e : WalletEvent ι} {resource : String}
  {lease lease' : Lease} {n : Nat}

/-- The increment of a lease is owned only if the lease was valid. -/
theorem isValid_of_increment_selfOwned (h : lease.increment.isLeaseSelfOwned = true) :
    lease.IsValid := by
  by_contra hv
  have hdefault : lease.increment = {} := if_pos hv
  rw [hdefault] at h
  exact absurd h (by decide)

theorem iterate_incrementLast (front : List UInt32) (last : UInt32) (k : Nat) :
    Lease.incrementLast^[k] (front ++ [last]) = front ++ [last + UInt32.ofNat k] := by
  induction k with
  | zero => simp
  | succ k ih =>
      have hadd : last + UInt32.ofNat k + 1 = last + UInt32.ofNat (k + 1) := by
        rw [UInt32.add_assoc, UInt32.ofNat_add]
        rfl
      rw [Function.iterate_succ_apply', ih, Lease.incrementLast_append, hadd]

/-- Fewer than `2 ^ 32` increments do not lead back to the same clock. -/
theorem iterate_incrementLast_ne {k : Nat} (hv : lease.IsValid) (hpos : 0 < k)
    (hk : k < 2 ^ 32) : Lease.incrementLast^[k] lease.proto.sequence ≠ lease.proto.sequence := by
  obtain ⟨front, last, hseq⟩ := hv.sequence_eq
  rw [hseq, iterate_incrementLast]
  intro heq
  have hlast : last + UInt32.ofNat k = last := by
    simpa using heq
  have hzero : UInt32.ofNat k = 0 := by
    simpa using hlast
  have hnat : k % 2 ^ 32 = 0 := congrArg UInt32.toNat hzero
  omega

theorem descendsFrom_of_handsOut (h : walletBlocks.Applies wallet e after)
    (hand : HandsOut resource lease e) : DescendsFrom after resource lease 0 := by
  intro current hc howned
  obtain ⟨old, _, _, rfl, hafter⟩ := handsOut_cases h hand
  obtain rfl := Option.some.inj (hafter.symm.trans hc)
  have hvalid := isValid_of_increment_selfOwned howned
  have hinc := (Lease.increment_comparable hvalid).left
  exact ⟨hinc, hinc, 0, le_refl 0, rfl⟩

/-- Without an addition only successful advances move the entry on. -/
theorem DescendsFrom.step (hd : DescendsFrom wallet resource lease n)
    (h : walletBlocks.Applies wallet e after) (hadd : ¬ AddsLease resource e) :
    DescendsFrom after resource lease (n + [e].countP (isAdvance resource)) := by
  intro current hc howned
  obtain ⟨old, hold, ⟨hproto, hkeep⟩ | ⟨hadv, hself, rfl⟩⟩ := entry_of_applies h hadd hc
  · obtain ⟨hvalid, hlease, k, hk, hseq⟩ := hd old hold (hkeep howned)
    refine ⟨by rwa [Lease.IsValid, hproto], hlease, k, Nat.le_add_right_of_le hk, ?_⟩
    rw [hproto, hseq]
  · have hvalid := isValid_of_increment_selfOwned howned
    obtain ⟨_, hlease, k, hk, hseq⟩ := hd old hold hself
    refine ⟨(Lease.increment_comparable hvalid).left, hlease, k + 1, ?_, ?_⟩
    · rw [List.countP_singleton, if_pos hadv]
      omega
    · rw [Lease.increment_sequence hvalid, hseq, Function.iterate_succ_apply']

/-- What is handed out while the entry descends from a lease differs from it, unless
the counter has gone all the way round. -/
theorem DescendsFrom.handsOut_ne (hd : DescendsFrom wallet resource lease n)
    (hn : n + 1 < 2 ^ 32) (h : walletBlocks.Applies wallet e after)
    (hand : HandsOut resource lease' e) : lease'.proto ≠ lease.proto := by
  obtain ⟨old, hold, hself, rfl, _⟩ := handsOut_cases h hand
  obtain ⟨hvalid, hlease, k, hk, hseq⟩ := hd old hold hself
  intro heq
  have hsame : Lease.incrementLast^[k + 1] lease.proto.sequence = lease.proto.sequence := by
    rw [Function.iterate_succ_apply', ← hseq, ← Lease.increment_sequence hvalid, heq]
  exact iterate_incrementLast_ne hlease (Nat.succ_pos k) (by omega) hsame

/-- Over a run without an addition the entry moves on at most once an advance. -/
theorem DescendsFrom.run {events : List (WalletEvent ι)}
    (hd : DescendsFrom wallet resource lease n)
    (run : Run walletBlocks.Applies wallet events after)
    (hadd : ∀ m ∈ events, ¬ AddsLease resource m) :
    DescendsFrom after resource lease (n + events.countP (isAdvance resource)) := by
  induction run generalizing n with
  | nil => exact hd
  | @cons _ e _ events _ h _ ih =>
      obtain ⟨he, htail⟩ := List.forall_mem_cons.mp hadd
      have hrest := ih (hd.step h he) htail
      have hcount : (e :: events).countP (isAdvance resource) =
          [e].countP (isAdvance resource) + events.countP (isAdvance resource) := by
        rw [← List.singleton_append, List.countP_append]
      rwa [hcount, ← Nat.add_assoc]

/-- In a run of whole operations two advances hand out different leases. -/
theorem walletRun_advances {history : List (WalletEvent ι)} (hfew : FewAdvances history)
    (run : Run walletBlocks.Applies wallet history after)
    {pre mid post : List (WalletEvent ι)} {e e' : WalletEvent ι}
    (hhistory : history = pre ++ e :: (mid ++ e' :: post))
    (hand : HandsOut resource lease e) (hand' : HandsOut resource lease' e')
    (hadd : ∀ m ∈ mid, ¬ AddsLease resource m) : lease'.proto ≠ lease.proto := by
  have hcount : (e :: (mid ++ [e'])).countP (isAdvance resource) ≤ 2 ^ 32 := by
    refine hfew resource pre _ post (by simp [hhistory]) ?_
    intro m hm
    rw [List.mem_cons, List.mem_append, List.mem_singleton] at hm
    obtain rfl | hm | rfl := hm
    · exact hand.not_addsLease
    · exact hadd m hm
    · exact hand'.not_addsLease
  rw [List.countP_cons_of_pos (hand.isAdvance), List.countP_append,
    List.countP_singleton, if_pos (hand'.isAdvance)] at hcount
  subst hhistory
  obtain ⟨w₁, _, run₁⟩ := run.split
  cases run₁ with
  | cons hstep tail =>
      obtain ⟨w₂, runMid, run₂⟩ := tail.split
      cases run₂ with
      | cons hstep' _ =>
          have hd := (descendsFrom_of_handsOut hstep hand).run runMid hadd
          exact hd.handsOut_ne (by omega) hstep' hand'

/-! ## Runs of threads -/

theorem first_of_owned (h : wallet.leaseMap[resource]? = some lease)
    (ho : lease.isLeaseSelfOwned = true) :
    walletBlocks.first (.advanceLease resource) wallet =
      .inr (.storeAdvanced resource lease) := by
  simp [walletBlocks, WalletOp.first, LeaseWallet.getOwnedLease_of_owned h ho, Result.ok]

section Threads

variable [DecidableEq ι] {c d : WalletConfig ι} {history : List (WalletEvent ι)}

/-- Threads whose second blocks all find what their first blocks read behave like
a sequential run. -/
theorem fresh_linearizedRun (hidle : c.Idle) (hfew : FewAdvances history)
    (run : Run (Guard walletBlocks.Interleaved walletBlocks.Fresh) c history d) :
    LinearizedRun c history d where
  sequential := by
    have hseq := fresh_run_sequential run
    rw [hidle.erase_eq] at hseq
    exact ⟨_, hseq⟩
  advances := by
    intro pre e mid e' post resource lease lease' hhistory hand hand' hadd
    exact walletRun_advances hfew (fresh_run_applies run) hhistory hand hand' hadd
  useResults := by
    refine run.mono fun {c e d} h => ⟨h.1, ?_⟩
    have hrun := fresh_run_applies (Run.single h)
    cases hrun with
    | cons happ tail =>
        cases tail
        exact useResultKeeps_of_applies happ

omit [DecidableEq ι] in
theorem fresh_of_idle (h : (c.threads e.1).pending = none) : walletBlocks.Fresh c e := by
  intro op _ block hblock
  rw [h] at hblock
  cases hblock

omit [DecidableEq ι] in
/-- An advance is fresh while the wallet holds the lease it read. -/
theorem fresh_of_entry {rest : List WalletOp}
    (htodo : (c.threads e.1).todo = .advanceLease resource :: rest)
    (hpending : (c.threads e.1).pending = some (.storeAdvanced resource lease))
    (hl : c.shared.leaseMap[resource]? = some lease) (ho : lease.isLeaseSelfOwned = true) :
    walletBlocks.Fresh c e := by
  intro op hop block hblock
  rw [htodo, List.head?_cons, Option.mem_some_iff] at hop
  rw [hpending, Option.mem_some_iff] at hblock
  subst hop hblock
  exact first_of_owned hl ho

end Threads

/-! ## Two advances at once -/

section OnlyAdvances

variable [DecidableEq ι] {c d : WalletConfig ι} {order : List (WalletEvent ι)}

/-- Every operation left is an advance of the resource. -/
def OnlyAdvances (resource : String) (c : WalletConfig ι) : Prop :=
  ∀ i, ∀ op ∈ (c.threads i).todo, op = .advanceLease resource

/-- A sequential advance of an owned entry increments it. -/
theorem sequential_advances_step (hl : c.shared.leaseMap[resource]? = some lease)
    (ho : lease.isLeaseSelfOwned = true) (honly : OnlyAdvances resource c)
    (h : walletBlocks.Sequential c e d) :
    d.shared.leaseMap[resource]? = some lease.increment ∧ OnlyAdvances resource d := by
  obtain ⟨i, b⟩ := e
  obtain ⟨op, rest, htodo, rfl, _⟩ := h.cases
  have hop : op = .advanceLease resource := honly i op (by simp [htodo])
  subst hop
  have hwhole := whole_advanceLease c.shared resource
  rw [LeaseWallet.advanceLease_of_owned hl ho] at hwhole
  constructor
  · simp [Config.answer, hwhole]
  · intro j op hmem
    by_cases hj : j = i
    · subst hj
      refine honly j op ?_
      rw [htodo]
      exact List.mem_cons_of_mem _ (by simpa [Config.answer] using hmem)
    · exact honly j op (by simpa [Config.answer, hj] using hmem)

/-- Sequential advances of one owned entry increment it once each. -/
theorem sequential_advances_entry (hl : c.shared.leaseMap[resource]? = some lease)
    (ho : lease.isLeaseSelfOwned = true) (hv : lease.IsValid)
    (honly : OnlyAdvances resource c) (run : Run walletBlocks.Sequential c order d) :
    d.shared.leaseMap[resource]? = some (Lease.increment^[order.length] lease) := by
  induction run generalizing lease with
  | nil => exact hl
  | cons h _ ih =>
      obtain ⟨hnext, honly'⟩ := sequential_advances_step hl ho honly h
      have howned : lease.increment.isLeaseSelfOwned = true := by
        simp [Lease.isLeaseSelfOwned, Lease.increment_status hv]
      exact ih hnext howned (Lease.increment_comparable hv).left honly'

end OnlyAdvances

/-- The lease of the resource `body` with one counter. -/
def bodyLease (counter : UInt32) : Lease :=
  Lease.ofProto { resource := "body", epoch := "e", sequence := [counter] }

/-- Two threads that each advance the lease `[1]`. -/
def twoAdvances : WalletConfig Bool where
  shared :=
    { leaseMap := (∅ : Std.ExtTreeMap String Lease).insert "body" (bodyLease 1)
      clientName := "client" }
  threads := fun _ => Thread.start [.advanceLease "body"]

/-- A thread reads the entry with the given counter. -/
def readsBody (i : Bool) (counter : UInt32) : WalletEvent Bool :=
  (i, .read (.advanceLease "body") (.storeAdvanced "body" (bodyLease counter)))

/-- A thread gets the lease with the given counter. -/
def getsBody (i : Bool) (counter : UInt32) : WalletEvent Bool :=
  (i, .reply (.advanceLease "body") (.lease ⟨successStatus, bodyLease counter⟩))

/-- One after the other the two threads get different leases. -/
theorem fresh_twoAdvances :
    ∃ d, d.Complete ∧ LinearizedRun twoAdvances
      [readsBody false 1, getsBody false 2, readsBody true 2, getsBody true 3] d := by
  refine ⟨_, ?_, fresh_linearizedRun (fun _ => rfl)
    (fewAdvances_of_length (by decide))
    (Run.cons ⟨rfl, fresh_of_idle rfl⟩
      (Run.cons ⟨rfl, fresh_of_entry rfl rfl rfl rfl⟩
        (Run.cons ⟨rfl, fresh_of_idle rfl⟩
          (Run.cons
            ⟨rfl, fresh_of_entry rfl rfl rfl rfl⟩
            (Run.nil _)))))⟩
  exact ⟨fun i => by cases i <;> rfl, fun i => by cases i <;> rfl⟩

/-- Both threads read the entry before either stores its lease. -/
theorem twoAdvances_lostUpdate :
    ∃ d, Run walletBlocks.Interleaved twoAdvances
        [readsBody false 1, readsBody true 1, getsBody false 2, getsBody true 2] d ∧
      d.Complete ∧ ¬ ∃ order, Run walletBlocks.Sequential twoAdvances order d := by
  refine ⟨_, Run.cons rfl (Run.cons rfl (Run.cons rfl (Run.cons rfl (Run.nil _)))), ?_, ?_⟩
  · exact ⟨fun i => by cases i <;> rfl, fun i => by cases i <;> rfl⟩
  · rintro ⟨order, run⟩
    have honly : OnlyAdvances "body" twoAdvances := by
      intro i op hop
      exact List.mem_singleton.mp hop
    have hentry := sequential_advances_entry rfl rfl (by decide) honly run
    have hlength := sequential_run_replies run
    rw [Fintype.sum_bool, Fintype.sum_bool] at hlength
    have hcount : 1 + 1 = 0 + 0 + order.length := hlength
    have htwo : order.length = 2 := by omega
    rw [htwo] at hentry
    have hsame : some (bodyLease 2) = some (bodyLease 3) := hentry
    exact absurd hsame (by decide)

end SpotSdk.Client
