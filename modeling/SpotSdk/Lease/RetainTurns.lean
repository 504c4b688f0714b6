import SpotSdk.Lease.LeaseKeepAlive

/-!
# What the lease keep-alive reports

While no other thread touches the entry of its resource, the keep-alive retains one lease
turn after turn. The callback hears nothing of the calls that fail as long as the lease is
this client's own. The first answer that takes the lease away is reported, and so is every
call that fails after it.
-/

namespace SpotSdk.Client

open Foundations Common

/-- The entry that an operation on the wallet is about. -/
def WalletOp.resource : WalletOp → String
  | advanceLease resource => resource
  | onLeaseUseResult result => result.attemptedLease.resource
  | addLease resource _ _ => resource
  | removeLease resource => resource
  | failLease lease => lease.proto.resource

def WalletBlock.resource : WalletBlock → String
  | storeAdvanced resource _ => resource
  | storeUpdated result _ => result.attemptedLease.resource

/-- The step is not one of another thread on the entry of the resource. -/
def RetainEvent.LeavesEntry (resource : String) : RetainEvent → Prop
  | operate op => op.resource ≠ resource
  | store block => block.resource ≠ resource
  | _ => True

def RetainEvent.outcome? : RetainEvent → Option RetainOutcome
  | complete outcome => some outcome
  | _ => none

/-- How the calls of a run ended. -/
def outcomes (h : List RetainEvent) : List RetainOutcome :=
  h.filterMap RetainEvent.outcome?

/-- The place of a thread between two calls. -/
def RetainLoop.isResting : RetainLoop → Bool
  | test | lookUp _ | beginWait _ | waiting _ => true
  | _ => false

section Outcomes

variable (chain : RetainProcessorChain) (resource : String) (lease : Lease)

/-- The entry of the resource after a call. -/
def afterOutcome (held : Lease) (outcome : RetainOutcome) : Lease :=
  match enteredResult chain outcome with
  | none => held
  | some result =>
      if result.attemptedLease.resource = resource then (held.updateFromLeaseUseResult result).2
      else held

def afterOutcomes (outs : List RetainOutcome) : Lease :=
  outs.foldl (afterOutcome chain resource) lease

/-- The wallet that the completions leave, one whole completion after another. -/
def afterCompletions (wallet : LeaseWallet) (outs : List RetainOutcome) : LeaseWallet :=
  outs.foldl (fun wallet outcome => (retained chain wallet outcome).1) wallet

/-- The call takes the lease away from this client. -/
def takesAway (outcome : RetainOutcome) : Bool :=
  !(afterOutcome chain resource lease outcome).isLeaseSelfOwned

/-- The failed calls from the first one that takes the lease away. -/
def reportedOf (outs : List RetainOutcome) : List RetainResult :=
  ((outs.dropWhile fun outcome => !takesAway chain resource lease outcome).map
    (retainResult chain)).filter fun result => !result.ok

variable {chain resource lease} {outs : List RetainOutcome} {outcome : RetainOutcome}
  {held : Lease}

theorem afterOutcomes_snoc : afterOutcomes chain resource lease (outs ++ [outcome]) =
    afterOutcome chain resource (afterOutcomes chain resource lease outs) outcome :=
  List.foldl_append

@[simp] theorem afterOutcome_proto : (afterOutcome chain resource held outcome).proto =
    held.proto := by
  unfold afterOutcome
  split
  · rfl
  · split_ifs <;> simp

@[simp] theorem afterOutcomes_proto : (afterOutcomes chain resource lease outs).proto =
    lease.proto := by
  induction outs using List.reverseRecOn with
  | nil => rfl
  | append_singleton outs outcome ih => rw [afterOutcomes_snoc, afterOutcome_proto, ih]

/-- What one completion does to the entry. -/
theorem retained_lookup {wallet : LeaseWallet} (entry : wallet.leaseMap[resource]? = some held) :
    (retained chain wallet outcome).1.leaseMap[resource]? =
      some (afterOutcome chain resource held outcome) := by
  rw [retained_eq, afterOutcome]
  cases enteredResult chain outcome with
  | none => exact entry
  | some result =>
      dsimp only [enterResult]
      cases attempted : wallet.leaseMap[result.attemptedLease.resource]? with
      | none =>
          have other : result.attemptedLease.resource ≠ resource := by
            rintro rfl
            cases entry.symm.trans attempted
          rw [LeaseWallet.onLeaseUseResult_of_none attempted, if_neg other]
          exact entry
      | some found =>
          rw [LeaseWallet.onLeaseUseResult_of_some attempted, LeaseWallet.storeUpdated_lookup]
          split_ifs with about
          · rw [about] at attempted
            obtain rfl := Option.some.inj (entry.symm.trans attempted)
            rfl
          · exact entry

/-- The entry that the completions leave one after another. -/
theorem afterCompletions_lookup {wallet : LeaseWallet}
    (entry : wallet.leaseMap[resource]? = some lease) :
    (afterCompletions chain wallet outs).leaseMap[resource]? =
      some (afterOutcomes chain resource lease outs) := by
  induction outs using List.reverseRecOn with
  | nil => exact entry
  | append_singleton outs outcome ih =>
      rw [afterOutcomes_snoc, afterCompletions, List.foldl_append]
      exact retained_lookup ih

/-- A lease that stays owned stays the same. -/
theorem afterOutcome_owned (owned : (afterOutcome chain resource held outcome).isLeaseSelfOwned) :
    afterOutcome chain resource held outcome = held := by
  unfold afterOutcome at owned ⊢
  split at owned
  · rfl
  · next result _ =>
    split_ifs at owned ⊢ with about
    · rcases held.updateFromLeaseUseResult_cases result with same | ⟨status, changed⟩
      · rw [same]
      · have before := Lease.updateFromLeaseUseResult_selfOwned owned
        rw [changed] at owned ⊢
        have sameStatus : status = held.status :=
          (beq_iff_eq.mp owned).trans (beq_iff_eq.mp before).symm
        rw [sameStatus]
    · rfl

theorem afterOutcomes_eq
    (kept : ∀ outcome ∈ outs, takesAway chain resource lease outcome = false) :
    afterOutcomes chain resource lease outs = lease := by
  induction outs with
  | nil => rfl
  | cons outcome outs ih =>
      obtain ⟨first, rest⟩ := List.forall_mem_cons.mp kept
      have same := afterOutcome_owned (by simpa [takesAway] using first)
      rw [afterOutcomes, List.foldl_cons, same]
      exact ih rest

/-- The lease is this client's own exactly if no call has taken it away. -/
theorem afterOutcomes_owned_iff (owned : lease.isLeaseSelfOwned = true) :
    (afterOutcomes chain resource lease outs).isLeaseSelfOwned = true ↔
      ∀ outcome ∈ outs, takesAway chain resource lease outcome = false := by
  constructor
  · intro still
    induction outs using List.reverseRecOn with
    | nil => simp
    | append_singleton outs outcome ih =>
        rw [afterOutcomes_snoc] at still
        have before : (afterOutcomes chain resource lease outs).isLeaseSelfOwned = true := by
          rwa [afterOutcome_owned still] at still
        rw [afterOutcomes_eq (ih before)] at still
        intro any member
        rcases List.mem_append.mp member with member | last
        · exact ih before any member
        · rw [List.mem_singleton.mp last, takesAway, still]
          rfl
  · intro kept
    rw [afterOutcomes_eq kept, owned]

/-- One more call is reported if it failed and the lease is lost by then. -/
theorem reportedOf_snoc (owned : lease.isLeaseSelfOwned = true) :
    reportedOf chain resource lease (outs ++ [outcome]) =
      reportedOf chain resource lease outs ++
        if !(retainResult chain outcome).ok &&
          !(afterOutcomes chain resource lease (outs ++ [outcome])).isLeaseSelfOwned
        then [retainResult chain outcome] else [] := by
  have lost : (afterOutcomes chain resource lease (outs ++ [outcome])).isLeaseSelfOwned = false ↔
      ¬ ((∀ outcome ∈ outs, takesAway chain resource lease outcome = false) ∧
        takesAway chain resource lease outcome = false) := by
    rw [← Bool.not_eq_true, afterOutcomes_owned_iff owned]
    simp [or_imp, forall_and]
  rw [reportedOf, reportedOf, List.dropWhile_append]
  by_cases none : ∀ outcome ∈ outs, takesAway chain resource lease outcome = false
  · have all : outs.dropWhile (fun outcome => !takesAway chain resource lease outcome) = [] :=
      List.dropWhile_eq_nil_iff.mpr (by simpa using none)
    cases taken : takesAway chain resource lease outcome with
    | true =>
        rw [lost.mpr (by simp [taken]), all]
        simp [taken, List.filter_cons]
    | false =>
        have still : (afterOutcomes chain resource lease
            (outs ++ [outcome])).isLeaseSelfOwned = true := by
          rw [← Bool.not_eq_false, lost]
          exact not_not.mpr ⟨none, taken⟩
        rw [all]
        simp [taken, still]
  · have some : outs.dropWhile (fun outcome => !takesAway chain resource lease outcome) ≠ [] := by
      rw [ne_eq, List.dropWhile_eq_nil_iff]
      simpa using none
    rw [lost.mpr fun both => none both.1, if_neg (by simpa using some)]
    simp [List.filter_cons]

end Outcomes

namespace LeaseKeepAlive

section Turns

variable (chain : RetainProcessorChain) (resource : String) (lease : Lease)

/-- Where the thread and its call are after the calls of a run: the calls whose turn is
over, those that are entered into the wallet, and the number of requests. -/
inductive Place (outs : List RetainOutcome) :
    RetainLoop → RetainCall → List RetainOutcome → List RetainOutcome → Nat → Prop
  | resting {loop} (rests : loop.isResting = true) : Place outs loop .idle outs outs outs.length
  | sending {execStart foundLease} (same : foundLease.proto = lease.proto) :
      Place outs (.send execStart foundLease) .idle outs outs outs.length
  | calling {execStart} : Place outs (.await execStart) .sent outs outs (outs.length + 1)
  | entering {execStart settled outcome result found} (split : outs = settled ++ [outcome])
      (enters : enteredResult chain outcome = some result)
      (copied : result.attemptedLease.resource = resource →
        found = afterOutcomes chain resource lease settled) :
      Place outs (.await execStart)
        (.entering (.storeUpdated result found) (retainResult chain outcome))
        settled settled (settled.length + 1)
  | done {execStart settled outcome} (split : outs = settled ++ [outcome]) :
      Place outs (.await execStart) (.done (retainResult chain outcome)) settled outs
        (settled.length + 1)
  | checking {execStart settled outcome} (split : outs = settled ++ [outcome]) :
      Place outs (.check execStart (retainResult chain outcome)) .idle settled outs
        (settled.length + 1)
  | failing {execStart settled outcome} (split : outs = settled ++ [outcome])
      (failed : (retainResult chain outcome).ok = false)
      (lost : (afterOutcomes chain resource lease outs).isLeaseSelfOwned = false) :
      Place outs (.fail execStart (retainResult chain outcome)) .idle settled outs
        (settled.length + 1)

/-- What the members of the keep-alive and the wallet hold. -/
structure Books (s : LeaseKeepAlive) (settled entered : List RetainOutcome) (sent : Nat) :
    Prop where
  about : s.resource = resource
  shares : s.sharesWallet = true
  callsBack : s.callsBack = true
  entry : s.wallet.leaseMap[resource]? = some (afterOutcomes chain resource lease entered)
  failures : s.failures = reportedOf chain resource lease settled
  requests : s.requests = List.replicate sent lease.proto

/-- A thread that runs stands at a place of its turns. -/
def InTurn (h : List RetainEvent) (s : LeaseKeepAlive) : Prop :=
  s.loop = .exited ∨ ∃ settled entered sent,
    Place chain resource lease (outcomes h) s.loop s.call settled entered sent ∧
      Books chain resource lease s settled entered sent

end Turns

variable {chain : RetainProcessorChain} {resource : String} {lease : Lease}
  {s t : LeaseKeepAlive} {e : RetainEvent} {h : List RetainEvent}

theorem outcomes_snoc : outcomes (h ++ [e]) = outcomes h ++ e.outcome?.toList := by
  rw [outcomes, List.filterMap_append]
  cases e <;> rfl

theorem first_lookup {op : WalletOp} {wallet : LeaseWallet} (other : op.resource ≠ resource) :
    ∀ after reply, op.first wallet = .inl (after, reply) →
      after.leaseMap[resource]? = wallet.leaseMap[resource]? := by
  intro after reply first
  cases op with
  | advanceLease key =>
      simp only [WalletOp.first] at first
      split_ifs at first
      obtain ⟨rfl, _⟩ := Prod.mk.inj (Sum.inl.inj first)
      rfl
  | onLeaseUseResult result =>
      simp only [WalletOp.first] at first
      split_ifs at first
      obtain ⟨rfl, _⟩ := Prod.mk.inj (Sum.inl.inj first)
      rfl
  | addLease key added option =>
      obtain ⟨rfl, _⟩ := Prod.mk.inj (Sum.inl.inj first)
      exact (LeaseWallet.addLease_lookup ..).trans (if_neg other)
  | removeLease key =>
      obtain ⟨rfl, _⟩ := Prod.mk.inj (Sum.inl.inj first)
      exact (LeaseWallet.removeLease_lookup ..).trans (if_neg other)
  | failLease failed =>
      have left : (wallet.failLease failed).1 = after :=
        congrArg Prod.fst (Sum.inl.inj first)
      rcases wallet.failLease_cases failed with same | removed
      · rw [← left, same]
      · rw [← left, removed]
        exact (LeaseWallet.removeLease_lookup ..).trans (if_neg other)

theorem operate_lookup {op : WalletOp} (other : op.resource ≠ resource) :
    (s.operate op).wallet.leaseMap[resource]? = s.wallet.leaseMap[resource]? := by
  unfold operate
  split
  · next after reply first => exact first_lookup other after reply first
  · rfl

theorem store_lookup {block : WalletBlock} (other : block.resource ≠ resource) :
    (s.store block).wallet.leaseMap[resource]? = s.wallet.leaseMap[resource]? := by
  cases block with
  | storeAdvanced key old =>
      exact (LeaseWallet.storeAdvanced_lookup ..).trans (if_neg other)
  | storeUpdated result found =>
      exact (LeaseWallet.storeUpdated_lookup ..).trans (if_neg other)

section Step

variable {outs settled entered entered' : List RetainOutcome} {sent : Nat}
  {outcome : RetainOutcome}

theorem Place.of_loop {loop here : RetainLoop} {call : RetainCall} (same : loop = here)
    (place : Place chain resource lease outs here call settled entered sent) :
    Place chain resource lease outs loop call settled entered sent :=
  same ▸ place

/-- The books depend on the entry of the wallet only. -/
theorem Books.of_entry (books : Books chain resource lease s settled entered sent)
    {wallet : LeaseWallet} {rpcInterval : Int} {threadIsAlive : Bool} {loop : RetainLoop}
    {call : RetainCall}
    (entry : wallet.leaseMap[resource]? = some (afterOutcomes chain resource lease entered')) :
    Books chain resource lease { s with wallet, rpcInterval, threadIsAlive, loop, call }
      settled entered' sent :=
  ⟨books.about, books.shares, books.callsBack, entry, books.failures, books.requests⟩

/-- Only the completion of a call changes the calls of a run. -/
theorem inTurn_silent (silent : e.outcome? = none) :
    InTurn chain resource lease (h ++ [e]) t ↔ InTurn chain resource lease h t := by
  rw [InTurn, outcomes_snoc, silent, Option.toList_none, List.append_nil, InTurn]

/-- A step of another thread leaves the place. -/
theorem InTurn.other (turn : InTurn chain resource lease h s) {wallet : LeaseWallet}
    {rpcInterval : Int} {threadIsAlive : Bool}
    (entry : wallet.leaseMap[resource]? = s.wallet.leaseMap[resource]?) :
    InTurn chain resource lease h { s with wallet, rpcInterval, threadIsAlive } := by
  rcases turn with exited | ⟨settled, entered, sent, place, books⟩
  · exact .inl exited
  · exact .inr ⟨settled, entered, sent, place, books.of_entry (entry.trans books.entry)⟩

/-- A step of the thread between two calls. -/
theorem InTurn.rest (turn : InTurn chain resource lease h s) (rests : s.loop.isResting = true)
    {loop : RetainLoop} (goesOn : loop = .exited ∨ loop.isResting = true) :
    InTurn chain resource lease h { s with loop } := by
  rcases goesOn with exited | again
  · exact .inl exited
  · rcases turn with exited | ⟨settled, entered, sent, place, books⟩
    · rw [exited] at rests
      cases rests
    · refine .inr ⟨settled, entered, sent, ?_, books.of_entry books.entry⟩
      generalize s.loop = here at place rests
      generalize s.call = call at place ⊢
      cases place with
      | resting => exact .resting again
      | _ => cases rests

/-- A call that enters nothing about the resource leaves the lease. -/
theorem afterOutcomes_snoc_quiet (quiet : ∀ result, enteredResult chain outcome = some result →
      result.attemptedLease.resource ≠ resource) :
    afterOutcomes chain resource lease (outs ++ [outcome]) =
      afterOutcomes chain resource lease outs := by
  rw [afterOutcomes_snoc, afterOutcome]
  cases enters : enteredResult chain outcome with
  | none => rfl
  | some result => exact if_neg (quiet result enters)

/-- The completion of a call, in one block or up to the second one. -/
theorem InTurn.complete (turn : InTurn chain resource lease h s) (called : s.call = .sent) :
    InTurn chain resource lease (h ++ [.complete outcome]) (s.complete chain outcome) := by
  rcases turn with exited | ⟨settled, entered, sent, place, books⟩
  · obtain ⟨wallet, call, same⟩ : ∃ wallet call,
        s.complete chain outcome = { s with wallet, call } := complete_eq outcome
    rw [same]
    exact .inl exited
  rw [called] at place
  generalize here : s.loop = loop at place
  cases place
  rw [InTurn, outcomes_snoc]
  right
  have done (quiet : ∀ result, enteredResult chain outcome = some result →
      result.attemptedLease.resource ≠ resource)
      (same : s.complete chain outcome =
        { s with call := .done (retainResult chain outcome) }) :
      ∃ settled entered sent, Place chain resource lease (outcomes h ++ [outcome])
          (s.complete chain outcome).loop (s.complete chain outcome).call settled entered sent ∧
        Books chain resource lease (s.complete chain outcome) settled entered sent := by
    rw [same]
    refine ⟨_, _, _, Place.of_loop here (.done rfl), books.of_entry ?_⟩
    rw [afterOutcomes_snoc_quiet quiet]
    exact books.entry
  cases enters : enteredResult chain outcome with
  | none => exact done (by simp [enters]) (complete_quiet enters)
  | some result =>
      cases held : s.wallet.leaseMap[result.attemptedLease.resource]? with
      | none =>
          refine done ?_ (complete_missing books.shares enters held)
          rintro other same rfl
          obtain rfl := Option.some.inj (enters.symm.trans same)
          rw [books.entry] at held
          cases held
      | some found =>
          rw [complete_found books.shares enters held]
          refine ⟨_, _, _, Place.of_loop here (.entering rfl enters ?_), books.of_entry books.entry⟩
          rintro rfl
          exact Option.some.inj (held.symm.trans books.entry)

/-- The second block of a completion. -/
theorem InTurn.enter (turn : InTurn chain resource lease h s) {block : WalletBlock}
    {result : RetainResult} (entering : s.call = .entering block result) :
    InTurn chain resource lease h { s.store block with call := .done result } := by
  rcases turn with exited | ⟨settled, entered, sent, place, books⟩
  · exact .inl exited
  rw [entering] at place
  generalize here : s.loop = loop at place
  cases place with
  | @entering execStart _ outcome useResult found split enters copied =>
      refine .inr ⟨_, _, _, Place.of_loop here (.done split), books.of_entry ?_⟩
      refine (LeaseWallet.storeUpdated_lookup ..).trans ?_
      rw [split]
      by_cases about : useResult.attemptedLease.resource = resource
      · rw [if_pos about, afterOutcomes_snoc, afterOutcome, enters, copied about]
        exact congrArg some (if_pos about).symm
      · rw [if_neg about, books.entry, afterOutcomes_snoc_quiet]
        intro other same
        obtain rfl := Option.some.inj (enters.symm.trans same)
        exact about

/-- The entry is looked up and found. -/
theorem InTurn.lookUp (turn : InTurn chain resource lease h s) {execStart : Int}
    (here : s.loop = .lookUp execStart) :
    InTurn chain resource lease h (s.lookUp execStart) := by
  rcases turn with exited | ⟨settled, entered, sent, place, books⟩
  · cases exited.symm.trans here
  rw [here] at place
  generalize idle : s.call = call at place
  cases place
  obtain ⟨loop, same, ⟨foundLease, rfl, found⟩ | ⟨_, missing⟩⟩ := s.lookUp_eq execStart
  · rw [same]
    refine .inr ⟨_, _, _, ?_, books.of_entry books.entry⟩
    rw [books.about, books.entry] at found
    obtain rfl := Option.some.inj found
    rw [idle]
    exact .sending afterOutcomes_proto
  · rw [books.about, books.entry] at missing
    cases missing

/-- The lease that was found is sent. -/
theorem InTurn.send (turn : InTurn chain resource lease h s) {execStart : Int}
    {foundLease : Lease} (here : s.loop = .send execStart foundLease) :
    InTurn chain resource lease h { s with
      loop := .await execStart
      call := .sent
      requests := s.requests ++ [foundLease.proto] } := by
  rcases turn with exited | ⟨settled, entered, sent, place, books⟩
  · cases exited.symm.trans here
  rw [here] at place
  generalize s.call = call at place
  cases place with
  | resting rests => cases rests
  | sending same =>
      refine .inr ⟨_, _, _, .calling, books.about, books.shares, books.callsBack, books.entry,
        books.failures, ?_⟩
      rw [books.requests, same, List.replicate_succ']

/-- A poll that runs out. -/
theorem InTurn.pollTimeout (turn : InTurn chain resource lease h s) {execStart : Int}
    (here : s.loop = .await execStart) :
    InTurn chain resource lease h { s with
      loop := if s.threadIsAlive then .await execStart else .exited } := by
  cases alive : s.threadIsAlive with
  | true =>
      rw [if_pos rfl, ← here]
      exact alive ▸ turn
  | false => exact .inl rfl

/-- The result of the call is taken. -/
theorem InTurn.take (turn : InTurn chain resource lease h s) {execStart : Int}
    {result : RetainResult} (here : s.loop = .await execStart) (done : s.call = .done result) :
    InTurn chain resource lease h { s with loop := .check execStart result, call := .idle } := by
  rcases turn with exited | ⟨settled, entered, sent, place, books⟩
  · cases exited.symm.trans here
  rw [here, done] at place
  cases place with
  | done split => exact .inr ⟨_, _, _, .checking split, books.of_entry books.entry⟩

/-- The wallet is asked, and the turn is over or has failed. -/
theorem InTurn.check (owned : lease.isLeaseSelfOwned = true)
    (turn : InTurn chain resource lease h s) {execStart : Int} {result : RetainResult}
    (here : s.loop = .check execStart result) :
    InTurn chain resource lease h (s.check execStart result) := by
  rcases turn with exited | ⟨settled, entered, sent, place, books⟩
  · cases exited.symm.trans here
  rw [here] at place
  generalize idle : s.call = call at place
  cases place with
  | resting rests => cases rests
  | @checking _ _ outcome split =>
      have owns : (s.wallet.getOwnedLease s.resource).ok =
          (afterOutcomes chain resource lease (outcomes h)).isLeaseSelfOwned := by
        rw [Bool.eq_iff_iff, LeaseWallet.getOwnedLease_ok_iff, books.about, books.entry]
        simp
      rw [LeaseKeepAlive.check, owns]
      split_ifs with fails
      · simp only [Bool.and_eq_true, Bool.not_eq_true'] at fails
        refine .inr ⟨_, _, _, ?_, books.of_entry books.entry⟩
        rw [idle]
        exact .failing split fails.1 fails.2
      · refine .inr ⟨outcomes h, outcomes h, (outcomes h).length, ?_, books.about, books.shares,
          books.callsBack, books.entry, ?_, ?_⟩
        · rw [idle]
          exact .resting rfl
        · rw [books.failures, split, reportedOf_snoc owned, ← split, if_neg fails,
            List.append_nil]
        · rw [books.requests, split, List.length_append, List.length_singleton]

/-- The failure is reported. -/
theorem InTurn.fail (owned : lease.isLeaseSelfOwned = true)
    (turn : InTurn chain resource lease h s) {execStart : Int} {result : RetainResult}
    (here : s.loop = .fail execStart result) :
    InTurn chain resource lease h (s.fail execStart result) := by
  rcases turn with exited | ⟨settled, entered, sent, place, books⟩
  · cases exited.symm.trans here
  rw [here] at place
  generalize idle : s.call = call at place
  cases place with
  | resting rests => cases rests
  | @failing _ _ outcome split failed lost =>
      refine .inr ⟨outcomes h, outcomes h, (outcomes h).length, ?_, books.about, books.shares,
        books.callsBack, books.entry, ?_, ?_⟩
      · rw [LeaseKeepAlive.fail, idle]
        exact .resting rfl
      · rw [LeaseKeepAlive.fail, books.callsBack, split, reportedOf_snoc owned, ← split, failed,
          lost, books.failures]
        rfl
      · rw [LeaseKeepAlive.fail, books.requests, split, List.length_append,
          List.length_singleton]

/-- One more step of any thread. -/
theorem InTurn.step (owned : lease.isLeaseSelfOwned = true)
    (turn : InTurn chain resource lease h s) (leaves : e.LeavesEntry resource)
    (hstep : StepOf (step chain) s e t) : InTurn chain resource lease (h ++ [e]) t := by
  cases step_cases hstep with
  | complete called => exact turn.complete called
  | clearAlive => exact (inTurn_silent rfl).mpr (turn.other rfl)
  | notifyOne =>
      rw [inTurn_silent rfl]
      rcases notifyOne_cases (s := s) with same | ⟨⟨waitTime, here⟩, woken⟩
      · rwa [same]
      · rw [woken]
        exact turn.rest (here ▸ rfl) (.inr rfl)
  | setRpcInterval => exact (inTurn_silent rfl).mpr (turn.other rfl)
  | @operate op =>
      rw [inTurn_silent rfl]
      have entry := operate_lookup (s := s) leaves
      obtain ⟨wallet, same⟩ := s.operate_eq op
      rw [same] at entry ⊢
      exact turn.other entry
  | store => exact (inTurn_silent rfl).mpr (turn.other (store_lookup leaves))
  | enter entering => exact (inTurn_silent rfl).mpr (turn.enter entering)
  | test here =>
      rw [inTurn_silent rfl]
      refine turn.rest (here ▸ rfl) ?_
      split_ifs
      · exact .inr rfl
      · exact .inl rfl
  | lookUp here => exact (inTurn_silent rfl).mpr (turn.lookUp here)
  | send here => exact (inTurn_silent rfl).mpr (turn.send here)
  | pollTimeout here => exact (inTurn_silent rfl).mpr (turn.pollTimeout here)
  | take here done => exact (inTurn_silent rfl).mpr (turn.take here done)
  | check here => exact (inTurn_silent rfl).mpr (turn.check owned here)
  | fail here => exact (inTurn_silent rfl).mpr (turn.fail owned here)
  | beginWait here => exact (inTurn_silent rfl).mpr (turn.rest (here ▸ rfl) (.inr rfl))
  | wake here => exact (inTurn_silent rfl).mpr (turn.rest (here ▸ rfl) (.inr rfl))

end Step

section Runs

variable {wallet : LeaseWallet} {rpcInterval : Int}

theorem inTurn_of_run (owned : lease.isLeaseSelfOwned = true)
    (held : wallet.leaseMap[resource]? = some lease)
    (run : Run (StepOf (step chain)) (new resource wallet true true rpcInterval) h s)
    (leaves : ∀ e ∈ h, e.LeavesEntry resource) : InTurn chain resource lease h s := by
  suffices (∀ e ∈ h, e.LeavesEntry resource) → InTurn chain resource lease h s from this leaves
  have start : InTurn chain resource lease [] (new resource wallet true true rpcInterval) :=
    .inr ⟨[], [], 0, .resting rfl, rfl, rfl, rfl, held, rfl, rfl⟩
  refine run.recorded (I := fun h s => (∀ e ∈ h, e.LeavesEntry resource) →
    InTurn chain resource lease h s) (fun _ => start) ?_
  intro h s e t turn hstep leaves
  rw [List.forall_mem_append] at leaves
  exact (turn leaves.1).step owned (leaves.2 e List.mem_cons_self) hstep

/-- Between two calls the keep-alive has sent its one lease once for each call that ended,
and has reported those that failed from the one that took the lease away. The entry of the
wallet is what the whole completions leave one after another. -/
theorem reports_of_run (owned : lease.isLeaseSelfOwned = true)
    (held : wallet.leaseMap[resource]? = some lease)
    (run : Run (StepOf (step chain)) (new resource wallet true true rpcInterval) h s)
    (leaves : ∀ e ∈ h, e.LeavesEntry resource) (rests : s.loop.isResting = true) :
    s.requests = List.replicate (outcomes h).length lease.proto ∧
      s.failures = reportedOf chain resource lease (outcomes h) ∧
      ∃ entry, s.wallet.leaseMap[resource]? = some entry ∧
        (afterCompletions chain wallet (outcomes h)).leaseMap[resource]? = some entry ∧
        entry.proto = lease.proto ∧
        (entry.isLeaseSelfOwned = true ↔
          ∀ outcome ∈ outcomes h, takesAway chain resource lease outcome = false) := by
  rcases inTurn_of_run owned held run leaves with exited | ⟨settled, entered, sent, place, books⟩
  · rw [exited] at rests
    cases rests
  · generalize s.loop = here at place rests
    generalize s.call = call at place
    cases place with
    | resting =>
        exact ⟨books.requests, books.failures, _, books.entry, afterCompletions_lookup held,
          afterOutcomes_proto, afterOutcomes_owned_iff owned⟩
    | _ => cases rests

/-- A lease of this client. -/
def bodyLease : Lease :=
  { proto := { resource := "body", epoch := "e", sequence := [1] }, status := .selfOwner }

def bodyWallet : LeaseWallet :=
  ({ clientName := "client" } : LeaseWallet).addLease "body" bodyLease .noSubLease

def revokedAnswer : RetainLeaseResponse :=
  ⟨{}, some { status := .revoked, attemptedLease := bodyLease.proto }⟩

/-- The first call does not reach the robot, and the second one finds the lease revoked. -/
def revokedRun : List RetainEvent :=
  [.test 0, .lookUp, .send, .complete (.failed ⟨.unavailable, "no route", ""⟩ rfl), .take, .check,
    .beginWait 1, .wake, .test 2, .lookUp, .send,
    .complete (.answered revokedAnswer), .enter, .take, .check, .fail]

theorem reports_of_run_revoked :
    ∃ s, Run (StepOf (step [])) (new "body" bodyWallet true true 2) revokedRun s ∧
      s.requests = List.replicate 2 bodyLease.proto ∧
      s.failures = reportedOf [] "body" bodyLease (outcomes revokedRun) := by
  have held : bodyWallet.leaseMap["body"]? = some bodyLease :=
    (LeaseWallet.addLease_lookup ..).trans (if_pos rfl)
  have run : Run (StepOf (step [])) (new "body" bodyWallet true true 2) revokedRun _ :=
    .cons rfl (.cons rfl (.cons rfl (.cons rfl (.cons rfl (.cons rfl (.cons rfl (.cons rfl
      (.cons rfl (.cons rfl (.cons rfl (.cons rfl (.cons rfl (.cons rfl (.cons rfl (.cons rfl
        (.nil _))))))))))))))))
  have leaves : ∀ e ∈ revokedRun, e.LeavesEntry "body" := by
    simp [revokedRun, RetainEvent.LeavesEntry]
  have reports := reports_of_run rfl held run leaves rfl
  exact ⟨_, run, reports.1, reports.2.1⟩

end Runs

end LeaseKeepAlive

end SpotSdk.Client
