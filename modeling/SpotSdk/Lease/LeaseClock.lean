import SpotSdk.Lease.LeaseWallet

/-!
# The lease clock

A client derives leases from a lease by increments and sub-leases, and a wallet
increments the lease it hands out. The clock order increases along such a chain
exactly as long as no counter wraps around.
-/

namespace SpotSdk.Client

open Foundations Foundations.SequenceClock

/-- One way to derive a lease from another one. -/
inductive ChainOp
  | increment
  | createSublease (clientName : String)
  deriving DecidableEq, Repr

def ChainOp.apply (lease : Lease) : ChainOp → Lease
  | increment => lease.increment
  | createSublease clientName => lease.createSublease clientName

/-- All leases of a chain, the one it starts from included. -/
def chain (lease : Lease) : List ChainOp → List Lease
  | [] => [lease]
  | op :: ops => lease :: chain (op.apply lease) ops

/-- The last lease of a chain. -/
def chainEnd (lease : Lease) (ops : List ChainOp) : Lease :=
  ops.foldl ChainOp.apply lease

/-- The counter an increment would raise, as a number. -/
def Lease.lastCounter (lease : Lease) : Nat :=
  (lease.proto.sequence.getLast?.getD 0).toNat

/-- No increment of the chain exceeds a 32-bit counter that now stands at `n`.
A sub-lease starts a new counter at zero. -/
def Fits : Nat → List ChainOp → Prop
  | _, [] => True
  | n, .increment :: ops => n + 1 < 2 ^ 32 ∧ Fits (n + 1) ops
  | _, .createSublease _ :: ops => Fits 0 ops

/-- The first lease compares to the second one as newer or as its sub-lease. -/
def FollowsInClock (later earlier : Lease) : Prop :=
  later.compare earlier = .newer ∨ later.compare earlier = .subLease

/-- The results of successive `AdvanceLease` calls for one resource. -/
def advanceLeases (wallet : LeaseWallet) (resource : String) : Nat → List Lease
  | 0 => []
  | n + 1 =>
      let advanced := wallet.advanceLease resource
      advanced.2.response :: advanceLeases advanced.1 resource n

/-- What the clock promises about a lease, a chain from it and `n` advances. -/
structure ClockIncreases (lease : Lease) (ops : List ChainOp) (n : Nat) : Prop where
  chain : (chain lease ops).Pairwise fun earlier later => FollowsInClock later earlier
  increment : lease.increment.compare lease = .newer
  sublease : ∀ clientName further,
    lease.increment.compare (chainEnd (lease.createSublease clientName) further) = .newer
  advance : ∀ (wallet : LeaseWallet) (resource : String),
    wallet.leaseMap[resource]? = some { lease with status := .selfOwner } →
    (advanceLeases wallet resource n).Pairwise fun earlier later =>
      FollowsInClock later earlier

namespace Lease

variable {lease other : Lease}

theorem Comparable.followsInClock_iff (h : Comparable lease other) :
    FollowsInClock lease other ↔ Later lease.proto.sequence other.proto.sequence :=
  h.later_iff

theorem lastCounter_of_sequence {front : List UInt32} {last : UInt32}
    (h : lease.proto.sequence = front ++ [last]) : lease.lastCounter = last.toNat := by
  simp [lastCounter, h]

/-- An increment moves the clock up exactly when the counter does not wrap. -/
theorem above_increment_iff (h : lease.IsValid) :
    Above lease.increment.proto.sequence lease.proto.sequence ↔
      lease.lastCounter + 1 < 2 ^ 32 := by
  obtain ⟨front, last, hseq⟩ := h.sequence_eq
  rw [increment_sequence h, lastCounter_of_sequence hseq, hseq, incrementLast_append]
  constructor
  · intro habove
    by_contra hlast
    have hmax : last = maxWord := by
      by_contra hne
      exact hlast (toNat_lt_of_ne_max hne)
    subst hmax
    exact habove.asymm (above_of_last_lt (by decide))
  · intro hlast
    refine above_of_last_lt ((lt_succ_iff_ne_max last).mpr ?_)
    rintro rfl
    exact absurd hlast (by decide)

theorem lastCounter_increment (h : lease.IsValid) (hlast : lease.lastCounter + 1 < 2 ^ 32) :
    lease.increment.lastCounter = lease.lastCounter + 1 := by
  obtain ⟨front, last, hseq⟩ := h.sequence_eq
  have hinc : lease.increment.proto.sequence = front ++ [last + 1] := by
    rw [increment_sequence h, hseq, incrementLast_append]
  rw [lastCounter_of_sequence hseq] at hlast ⊢
  rw [lastCounter_of_sequence hinc]
  refine toNat_succ ?_
  rintro rfl
  exact absurd hlast (by decide)

theorem lastCounter_createSublease (h : lease.IsValid) (clientName : String) :
    (lease.createSublease clientName).lastCounter = 0 :=
  lastCounter_of_sequence (createSublease_sequence h clientName)

theorem extends_createSublease (h : lease.IsValid) (clientName : String) :
    Extends (lease.createSublease clientName).proto.sequence lease.proto.sequence := by
  rw [createSublease_sequence h]
  exact ⟨List.prefix_append _ _, by simp⟩

/-- Increments do not follow by extension: the length stays the same. -/
theorem followsInClock_increment_iff (h : lease.IsValid) :
    FollowsInClock lease.increment lease ↔ lease.lastCounter + 1 < 2 ^ 32 := by
  rw [(increment_comparable h).followsInClock_iff, ← above_increment_iff h]
  refine ⟨fun hl => hl.elim id fun hext => ?_, Or.inl⟩
  have hlen := hext.2
  rw [increment_sequence h, incrementLast_length] at hlen
  exact absurd hlen (lt_irrefl _)

end Lease

open Lease

variable {lease : Lease} {ops : List ChainOp} {n : Nat}

theorem apply_comparable (h : lease.IsValid) (op : ChainOp) :
    Comparable (op.apply lease) lease := by
  cases op with
  | increment => exact increment_comparable h
  | createSublease clientName => exact createSublease_comparable h clientName

/-- One operation moves the clock exactly when it fits. -/
theorem followsInClock_apply_iff (h : lease.IsValid) (op : ChainOp) :
    FollowsInClock (op.apply lease) lease ↔ Fits lease.lastCounter [op] := by
  cases op with
  | increment => simpa [Fits, ChainOp.apply] using followsInClock_increment_iff h
  | createSublease clientName =>
      have hfollows := (createSublease_comparable h clientName).followsInClock_iff.mpr
        (Or.inr (extends_createSublease h clientName))
      simpa [Fits, ChainOp.apply] using hfollows

theorem fits_cons_iff (h : lease.IsValid) (op : ChainOp) :
    Fits lease.lastCounter (op :: ops) ↔
      Fits lease.lastCounter [op] ∧ Fits (op.apply lease).lastCounter ops := by
  cases op with
  | increment =>
      simp only [Fits, ChainOp.apply, and_true]
      refine and_congr_right fun hlast => ?_
      rw [lastCounter_increment h hlast]
  | createSublease clientName =>
      simp [Fits, ChainOp.apply, lastCounter_createSublease h]

theorem chain_comparable (h : lease.IsValid) {member : Lease}
    (hm : member ∈ chain lease ops) : Comparable member lease := by
  induction ops generalizing lease with
  | nil =>
      obtain rfl := List.mem_singleton.mp hm
      exact ⟨h, h, rfl, rfl⟩
  | cons op ops ih =>
      rcases List.mem_cons.mp hm with rfl | hm
      · exact ⟨h, h, rfl, rfl⟩
      · have hop := apply_comparable h op
        exact (ih hop.left hm).trans hop

theorem mem_chain_head (lease : Lease) (ops : List ChainOp) : lease ∈ chain lease ops := by
  cases ops with
  | nil => exact List.mem_singleton_self lease
  | cons op ops => exact List.mem_cons_self

/-- Members other than the head follow it when the chain increases. -/
theorem follows_head (hp : (chain lease ops).Pairwise fun e l => FollowsInClock l e)
    {member : Lease} (hm : member ∈ chain lease ops) :
    member = lease ∨ FollowsInClock member lease := by
  cases ops with
  | nil => exact Or.inl (List.mem_singleton.mp hm)
  | cons op ops =>
      rcases List.mem_cons.mp hm with rfl | hm
      · exact Or.inl rfl
      · exact Or.inr ((List.pairwise_cons.mp hp).1 member hm)

/-- Along a chain every lease follows all earlier ones exactly when the chain
fits its counters. -/
theorem chain_pairwise_iff (h : lease.IsValid) (ops : List ChainOp) :
    ((chain lease ops).Pairwise fun e l => FollowsInClock l e) ↔
      Fits lease.lastCounter ops := by
  induction ops generalizing lease with
  | nil => simp [chain, Fits]
  | cons op ops ih =>
      have hop := apply_comparable h op
      rw [chain, List.pairwise_cons, ih hop.left, fits_cons_iff h,
        ← followsInClock_apply_iff h]
      refine and_congr_left fun hfits => ⟨fun hall => hall _ (mem_chain_head _ _), ?_⟩
      intro hstep member hm
      rcases follows_head ((ih hop.left).mpr hfits) hm with rfl | hfollows
      · exact hstep
      · have hmember := chain_comparable hop.left hm
        exact (hmember.trans hop).followsInClock_iff.mpr
          ((hmember.followsInClock_iff.mp hfollows).trans (hop.followsInClock_iff.mp hstep))

/-- Operations on a sub-lease leave the clock it started from as a prefix. -/
theorem apply_extends {base : List UInt32} (h : lease.IsValid)
    (hext : Extends lease.proto.sequence base) (op : ChainOp) :
    Extends (op.apply lease).proto.sequence base := by
  cases op with
  | increment =>
      obtain ⟨front, last, hseq⟩ := h.sequence_eq
      have hlen : base.length ≤ front.length := by
        have hlt := hext.2
        rw [hseq, List.length_append, List.length_singleton] at hlt
        omega
      have hfront : base <+: front := by
        have hbase := hext.1
        rw [hseq] at hbase
        exact List.prefix_of_prefix_length_le hbase (List.prefix_append _ _) hlen
      simp only [ChainOp.apply, increment_sequence h, hseq, incrementLast_append]
      refine ⟨hfront.trans (List.prefix_append _ _), ?_⟩
      rw [List.length_append, List.length_singleton]
      omega
  | createSublease clientName =>
      exact Extends.trans (extends_createSublease h clientName) hext

theorem chainEnd_extends {base : List UInt32} (h : lease.IsValid)
    (hext : Extends lease.proto.sequence base) (ops : List ChainOp) :
    Comparable (chainEnd lease ops) lease ∧
      Extends (chainEnd lease ops).proto.sequence base := by
  induction ops generalizing lease with
  | nil => exact ⟨⟨h, h, rfl, rfl⟩, hext⟩
  | cons op ops ih =>
      have hop := apply_comparable h op
      obtain ⟨hcomp, hend⟩ := ih hop.left (apply_extends h hext op)
      exact ⟨hcomp.trans hop, hend⟩

/-- An increment that does not wrap is newer than the whole sub-lease tree. -/
theorem increment_newer_sublease (h : lease.IsValid)
    (hlast : lease.lastCounter + 1 < 2 ^ 32) (clientName : String)
    (further : List ChainOp) :
    lease.increment.compare (chainEnd (lease.createSublease clientName) further) =
      .newer := by
  have hsub := createSublease_comparable h clientName
  obtain ⟨hcomp, hend⟩ :=
    chainEnd_extends hsub.left (extends_createSublease h clientName) further
  rw [((increment_comparable h).trans (hcomp.trans hsub).symm).compare_newer_iff]
  exact ((above_increment_iff h).mpr hlast).of_isPrefix (List.prefix_refl _) hend.1

/-! ## Successive advances -/

/-- Advancing hands out the chain of increments of the owned entry. -/
theorem advanceLeases_eq_chain {wallet : LeaseWallet} {resource : String}
    (h : lease.IsValid) (hs : lease.status = .selfOwner)
    (hw : wallet.leaseMap[resource]? = some lease) (n : Nat) :
    lease :: advanceLeases wallet resource n =
      chain lease (List.replicate n .increment) := by
  induction n generalizing wallet lease with
  | zero => rfl
  | succ n ih =>
      have hadv := LeaseWallet.advanceLease_of_owned hw (by simp [isLeaseSelfOwned, hs])
      have hrest : lease.increment ::
            advanceLeases (wallet.storeAdvanced resource lease).1 resource n =
          chain lease.increment (List.replicate n .increment) :=
        ih (increment_comparable h).left (increment_status h) (by simp)
      simp only [advanceLeases, hadv, List.replicate_succ, chain, ChainOp.apply]
      exact congrArg (List.cons lease) hrest

theorem fits_replicate_iff (m k : Nat) :
    Fits m (List.replicate k .increment) ↔ k = 0 ∨ m + k < 2 ^ 32 := by
  induction k generalizing m with
  | zero => simp [Fits]
  | succ k ih =>
      simp only [List.replicate_succ, Fits, ih]
      omega

/-- The leases handed out increase exactly while the counter does not wrap. -/
theorem advanceLeases_pairwise_iff {wallet : LeaseWallet} {resource : String}
    (h : lease.IsValid) (hs : lease.status = .selfOwner)
    (hlast : lease.lastCounter + 1 < 2 ^ 32)
    (hw : wallet.leaseMap[resource]? = some lease) (n : Nat) :
    ((advanceLeases wallet resource n).Pairwise fun e l => FollowsInClock l e) ↔
      lease.lastCounter + n < 2 ^ 32 := by
  cases n with
  | zero =>
      simp only [advanceLeases, List.Pairwise.nil, true_iff]
      omega
  | succ n =>
      have heq := advanceLeases_eq_chain h hs hw (n + 1)
      simp only [List.replicate_succ, chain, ChainOp.apply, List.cons.injEq, true_and] at heq
      rw [heq, chain_pairwise_iff (increment_comparable h).left, fits_replicate_iff,
        lastCounter_increment h hlast]
      omega

/-- The clock keeps its promises for a valid lease exactly when its own counter,
the counters of the chain and the advances stay below the 32-bit limit. -/
theorem clockIncreases_iff (h : lease.IsValid) (ops : List ChainOp) (n : Nat) :
    ClockIncreases lease ops n ↔
      Fits lease.lastCounter ops ∧ lease.lastCounter + 1 < 2 ^ 32 ∧
        lease.lastCounter + n < 2 ^ 32 := by
  have howned : ({ lease with status := .selfOwner } : Lease).IsValid := h
  constructor
  · intro hc
    have hlast : lease.lastCounter + 1 < 2 ^ 32 :=
      (above_increment_iff h).mp ((increment_comparable h).compare_newer_iff.mp hc.increment)
    refine ⟨(chain_pairwise_iff h ops).mp hc.chain, hlast, ?_⟩
    let wallet : LeaseWallet :=
      { leaseMap := (∅ : Std.ExtTreeMap String Lease).insert "" { lease with status := .selfOwner }
        clientName := "" }
    have hw : wallet.leaseMap[""]? = some { lease with status := .selfOwner } := by
      simp [wallet]
    exact (advanceLeases_pairwise_iff howned rfl hlast hw n).mp (hc.advance wallet "" hw)
  · rintro ⟨hfits, hlast, hn⟩
    exact
      { chain := (chain_pairwise_iff h ops).mpr hfits
        increment := (increment_comparable h).compare_newer_iff.mpr
          ((above_increment_iff h).mpr hlast)
        sublease := increment_newer_sublease h hlast
        advance := fun wallet resource hw =>
          (advanceLeases_pairwise_iff howned rfl hlast hw n).mpr hn }

/-- A lease early in its epoch, sub-leased and incremented. -/
theorem clockIncreases_early :
    ClockIncreases (ofProto { resource := "body", epoch := "e", sequence := [7] })
      [.createSublease "client", .increment, .increment] 3 :=
  (clockIncreases_iff (by decide) _ _).mpr
    ⟨by simp [Fits], by decide, by decide⟩

/-- Incrementing the greatest counter goes back to zero. -/
theorem not_clockIncreases_max :
    ¬ ∀ (lease : Lease) (ops : List ChainOp) (n : Nat), lease.IsValid →
      ClockIncreases lease ops n := by
  intro h
  have hc := h (ofProto { resource := "body", epoch := "e", sequence := [maxWord] })
    [.increment] 0 (by decide)
  exact absurd hc.increment (by decide)

end SpotSdk.Client
