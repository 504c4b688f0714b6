import SpotSdk.Foundations.RunMeasures
import SpotSdk.Lease.LeaseProcessors
import SpotSdk.Lease.WalletConcurrency

/-!
# The lease keep-alive

A background thread looks its resource up in the wallet, retains the lease it finds, and
waits. The call that it waits for is completed by the message pump, which enters the lease
use result into the wallet of the client. The steps of the thread, of the pump and of the
other threads interleave.

## Implementation notes

The wallet of the keep-alive is that of the client, or another one that the pump leaves
alone. A callback is a record of what it was called with: what it does to the keep-alive
and to the wallet are steps of another thread.
-/

namespace SpotSdk.Client

open Foundations Common

/-- The fields of `RetainLeaseResponse` that the client reads. -/
structure RetainLeaseResponse where
  header : ResponseHeader := {}
  leaseUseResult : Option LeaseUseResult := none
  deriving DecidableEq, Inhabited

/-- The status of the lease use result, which has its default where none is set. -/
def RetainLeaseResponse.code (response : RetainLeaseResponse) : ErrorCode :=
  (leaseUseStatus (response.leaseUseResult.getD {}).status).code

abbrev RetainProcessorChain := List (ResponseProcessor RetainLeaseResponse)

abbrev RetainResult := Result RetainLeaseResponse

abbrev RetainOutcome := RpcOutcome RetainLeaseResponse

section Completion

variable (chain : RetainProcessorChain) (wallet : LeaseWallet)

/-- `OnRetainLeaseComplete`. -/
def onRetainLeaseComplete (response : RetainLeaseResponse) (status : GrpcStatus) :
    LeaseWallet × RetainResult :=
  let processed := processResponseWithLeaseAndGetFinalStatus chain status response.header
    response response.code wallet response.leaseUseResult
  (processed.1, ⟨processed.2, response⟩)

/-- What a call that ends so does to the wallet, and what its promise is given. -/
def retained : RetainOutcome → LeaseWallet × RetainResult
  | .notSent status _ => (wallet, ⟨status, default⟩)
  | .failed status _ => onRetainLeaseComplete chain wallet default status
  | .answered response => onRetainLeaseComplete chain wallet response {}

/-- The lease use result that a call enters into the wallet. -/
def enteredResult : RetainOutcome → Option LeaseUseResult
  | .answered response =>
      if (runOnlyResponseProcessors chain {} response.header response).ok then
        response.leaseUseResult
      else none
  | _ => none

def enterResult : Option LeaseUseResult → LeaseWallet
  | none => wallet
  | some result => (wallet.onLeaseUseResult result).1

/-- What the promise of a call is given. -/
def retainResult (outcome : RetainOutcome) : RetainResult :=
  (retained chain { clientName := "" } outcome).2

variable {chain wallet}

theorem onRetainLeaseComplete_failed {status : GrpcStatus} (failed : status.ok = false)
    (response : RetainLeaseResponse) :
    onRetainLeaseComplete chain wallet response status =
      (wallet, ⟨runOnlyResponseProcessors chain status response.header response, response⟩) := by
  rw [onRetainLeaseComplete, processResponseWithLeaseAndGetFinalStatus,
    processResponseThenLease_of_not_accepts]
  rintro ⟨ok, _⟩
  exact Bool.false_ne_true (failed.symm.trans ok)

/-- A call enters its lease use result, and its promise does not depend on the wallet. -/
theorem retained_eq {outcome : RetainOutcome} : retained chain wallet outcome =
    (enterResult wallet (enteredResult chain outcome), retainResult chain outcome) := by
  cases outcome with
  | notSent status failed => rfl
  | failed status failed =>
      rw [retainResult, retained, retained, onRetainLeaseComplete_failed failed,
        onRetainLeaseComplete_failed failed]
      rfl
  | answered response =>
      rw [retainResult, retained, retained, enteredResult, onRetainLeaseComplete,
        onRetainLeaseComplete, processResponseWithLeaseAndGetFinalStatus,
        processResponseWithLeaseAndGetFinalStatus]
      cases ok : (runOnlyResponseProcessors chain {} response.header response).ok with
      | true =>
          have accepts := runOnlyResponseProcessors_ok_iff.mp ok
          rw [processResponseThenLease_of_accepts accepts,
            processResponseThenLease_of_accepts accepts]
          cases response.leaseUseResult with
          | none => rfl
          | some result => cases used : (leaseUseStatus result.status).ok <;>
              simp [processResponseWithLeaseUseResult, used, enterResult]
      | false =>
          have refuses : ¬ Accepts chain {} response.header response := by
            rw [← runOnlyResponseProcessors_ok_iff, ok]
            exact Bool.false_ne_true
          rw [processResponseThenLease_of_not_accepts refuses,
            processResponseThenLease_of_not_accepts refuses]
          rfl

end Completion

/-- Where the background thread is in `PeriodicCheckIn`. -/
inductive RetainLoop
  | test
  | lookUp (execStart : Int)
  | send (execStart : Int) (foundLease : Lease)
  | await (execStart : Int)
  | check (execStart : Int) (retainLeaseResult : RetainResult)
  | fail (execStart : Int) (retainLeaseResult : RetainResult)
  | beginWait (execStart : Int)
  | waiting (waitTime : Int)
  | exited

/-- The call of the thread: the pump completes it in one block under the lock of the wallet,
or in two. -/
inductive RetainCall
  | idle
  | sent
  | entering (block : WalletBlock) (result : RetainResult)
  | done (result : RetainResult)

/-- The members, the places of the thread and of its call, the requests that were sent and
what the callback was called with. -/
structure LeaseKeepAlive where
  resource : String
  wallet : LeaseWallet
  /-- The wallet is that of the client. -/
  sharesWallet : Bool
  /-- There is a callback. -/
  callsBack : Bool
  rpcInterval : Int
  threadIsAlive : Bool := true
  loop : RetainLoop := .test
  call : RetainCall := .idle
  requests : List LeaseProto := []
  failures : List RetainResult := []

/-- The steps of all threads. The first five are those of other threads. -/
inductive RetainEvent
  | clearAlive
  | notifyOne
  | setRpcInterval (interval : Int)
  | operate (op : WalletOp)
  | store (block : WalletBlock)
  | complete (outcome : RetainOutcome)
  | enter
  | test (execStart : Int)
  | lookUp
  | send
  | pollTimeout
  | take
  | check
  | fail
  | beginWait (now : Int)
  | wake

/-- The step is one of the background thread. -/
@[simp] def RetainEvent.isLoopStep : RetainEvent → Bool
  | test _ | lookUp | send | pollTimeout | take | check | fail | beginWait _ | wake => true
  | _ => false

@[simp] def RetainEvent.isSend : RetainEvent → Bool
  | send => true
  | _ => false

@[simp] def RetainEvent.isFail : RetainEvent → Bool
  | fail => true
  | _ => false

/-- The steps that a thread at this place still takes after the flag is cleared. -/
@[simp] def RetainLoop.stepsLeft : RetainLoop → Nat
  | .exited => 0
  | .test => 1
  | .waiting _ => 2
  | .beginWait _ => 3
  | .fail .. => 4
  | .check .. => 5
  | .await _ => 6
  | .send .. => 7
  | .lookUp _ => 8

/-- The requests that it still sends. -/
@[simp] def RetainLoop.sendsLeft : RetainLoop → Nat
  | .lookUp _ | .send .. => 1
  | _ => 0

/-- The callbacks that it still makes. -/
@[simp] def RetainLoop.failsLeft : RetainLoop → Nat
  | .lookUp _ | .send .. | .await _ | .check .. | .fail .. => 1
  | _ => 0

namespace LeaseKeepAlive

variable (chain : RetainProcessorChain)

/-- The first block of an operation on the wallet; what it copies is kept by its caller. -/
def operate (s : LeaseKeepAlive) (op : WalletOp) : LeaseKeepAlive :=
  match op.first s.wallet with
  | .inl (wallet, _) => { s with wallet }
  | .inr _ => s

/-- The second block of an operation on the wallet. -/
def store (s : LeaseKeepAlive) (block : WalletBlock) : LeaseKeepAlive :=
  { s with wallet := (block.second s.wallet).1 }

/-- `notify_one`: it wakes the loop if that waits, and is lost otherwise. -/
def notifyOne (s : LeaseKeepAlive) : LeaseKeepAlive :=
  match s.loop with
  | .waiting _ => { s with loop := .test }
  | _ => s

/-- The completion of a call, up to the first block on the wallet. -/
def complete (s : LeaseKeepAlive) (outcome : RetainOutcome) : LeaseKeepAlive :=
  let result := retainResult chain outcome
  match enteredResult chain outcome with
  | none => { s with call := .done result }
  | some useResult =>
      if s.sharesWallet then
        match (WalletOp.onLeaseUseResult useResult).first s.wallet with
        | .inl (wallet, _) => { s with wallet, call := .done result }
        | .inr block => { s with call := .entering block result }
      else { s with call := .done result }

/-- The look-up of a turn. A resource that is not in the wallet is a failure. -/
def lookUp (s : LeaseKeepAlive) (execStart : Int) : LeaseKeepAlive :=
  let foundLease := s.wallet.getLease s.resource
  if foundLease.ok then { s with loop := .send execStart foundLease.response }
  else { s with loop := .fail execStart ⟨foundLease.status, default⟩ }

/-- The wallet is asked only about a call that failed. -/
def check (s : LeaseKeepAlive) (execStart : Int) (result : RetainResult) : LeaseKeepAlive :=
  if !result.ok && !(s.wallet.getOwnedLease s.resource).ok then
    { s with loop := .fail execStart result }
  else { s with loop := .beginWait execStart }

/-- The callback of a turn that failed. -/
def fail (s : LeaseKeepAlive) (execStart : Int) (result : RetainResult) : LeaseKeepAlive :=
  { s with
    loop := .beginWait execStart
    failures := if s.callsBack then s.failures ++ [result] else s.failures }

/-- One step of one thread. A timeout and a spurious wakeup are both `wake`. A poll of the
future that runs out tests the flag, even if the promise was set since. -/
def step (s : LeaseKeepAlive) (e : RetainEvent) : Option LeaseKeepAlive :=
  match e, s.loop, s.call with
  | .clearAlive, _, _ => some { s with threadIsAlive := false }
  | .notifyOne, _, _ => some s.notifyOne
  | .setRpcInterval interval, _, _ => some { s with rpcInterval := interval }
  | .operate op, _, _ => some (s.operate op)
  | .store block, _, _ => some (s.store block)
  | .complete outcome, _, .sent => some (s.complete chain outcome)
  | .enter, _, .entering block result =>
      some { s.store block with call := .done result }
  | .test execStart, .test, _ =>
      some { s with loop := if s.threadIsAlive then .lookUp execStart else .exited }
  | .lookUp, .lookUp execStart, _ => some (s.lookUp execStart)
  | .send, .send execStart foundLease, _ =>
      some { s with
        loop := .await execStart
        call := .sent
        requests := s.requests ++ [foundLease.proto] }
  | .pollTimeout, .await execStart, _ =>
      some { s with loop := if s.threadIsAlive then .await execStart else .exited }
  | .take, .await execStart, .done result =>
      some { s with loop := .check execStart result, call := .idle }
  | .check, .check execStart result, _ => some (s.check execStart result)
  | .fail, .fail execStart result, _ => some (s.fail execStart result)
  | .beginWait now, .beginWait execStart, _ =>
      some { s with loop := .waiting (s.rpcInterval - (now - execStart)) }
  | .wake, .waiting _, _ => some { s with loop := .test }
  | _, _, _ => none

/-- The constructor, which starts the thread. -/
def new (resource : String) (wallet : LeaseWallet) (sharesWallet callsBack : Bool)
    (rpcInterval : Int) : LeaseKeepAlive :=
  { resource, wallet, sharesWallet, callsBack, rpcInterval }

/-- The steps of the keep-alive, one for each thread and place. -/
inductive Takes (s : LeaseKeepAlive) : RetainEvent → LeaseKeepAlive → Prop
  | clearAlive : Takes s .clearAlive { s with threadIsAlive := false }
  | notifyOne : Takes s .notifyOne s.notifyOne
  | setRpcInterval {interval} :
      Takes s (.setRpcInterval interval) { s with rpcInterval := interval }
  | operate {op} : Takes s (.operate op) (s.operate op)
  | store {block} : Takes s (.store block) (s.store block)
  | complete {outcome} (sent : s.call = .sent) :
      Takes s (.complete outcome) (s.complete chain outcome)
  | enter {block result} (entering : s.call = .entering block result) :
      Takes s .enter { s.store block with call := .done result }
  | test {execStart} (place : s.loop = .test) :
      Takes s (.test execStart)
        { s with loop := if s.threadIsAlive then .lookUp execStart else .exited }
  | lookUp {execStart} (place : s.loop = .lookUp execStart) :
      Takes s .lookUp (s.lookUp execStart)
  | send {execStart foundLease} (place : s.loop = .send execStart foundLease) :
      Takes s .send
        { s with
          loop := .await execStart
          call := .sent
          requests := s.requests ++ [foundLease.proto] }
  | pollTimeout {execStart} (place : s.loop = .await execStart) :
      Takes s .pollTimeout
        { s with loop := if s.threadIsAlive then .await execStart else .exited }
  | take {execStart result} (place : s.loop = .await execStart) (done : s.call = .done result) :
      Takes s .take { s with loop := .check execStart result, call := .idle }
  | check {execStart result} (place : s.loop = .check execStart result) :
      Takes s .check (s.check execStart result)
  | fail {execStart result} (place : s.loop = .fail execStart result) :
      Takes s .fail (s.fail execStart result)
  | beginWait {execStart now} (place : s.loop = .beginWait execStart) :
      Takes s (.beginWait now) { s with loop := .waiting (s.rpcInterval - (now - execStart)) }
  | wake {waitTime} (place : s.loop = .waiting waitTime) :
      Takes s .wake { s with loop := .test }

variable {chain} {s t : LeaseKeepAlive} {e : RetainEvent}

theorem step_cases (hstep : StepOf (step chain) s e t) : Takes chain s e t := by
  unfold StepOf step at hstep
  split at hstep
  case h_1 => exact Option.some.inj hstep ▸ .clearAlive
  case h_2 => exact Option.some.inj hstep ▸ .notifyOne
  case h_3 => exact Option.some.inj hstep ▸ .setRpcInterval
  case h_4 => exact Option.some.inj hstep ▸ .operate
  case h_5 => exact Option.some.inj hstep ▸ .store
  case h_6 sent => exact Option.some.inj hstep ▸ .complete sent
  case h_7 entering => exact Option.some.inj hstep ▸ .enter entering
  case h_8 place => exact Option.some.inj hstep ▸ .test place
  case h_9 place => exact Option.some.inj hstep ▸ .lookUp place
  case h_10 place => exact Option.some.inj hstep ▸ .send place
  case h_11 place => exact Option.some.inj hstep ▸ .pollTimeout place
  case h_12 place done => exact Option.some.inj hstep ▸ .take place done
  case h_13 place => exact Option.some.inj hstep ▸ .check place
  case h_14 place => exact Option.some.inj hstep ▸ .fail place
  case h_15 place => exact Option.some.inj hstep ▸ .beginWait place
  case h_16 place => exact Option.some.inj hstep ▸ .wake place
  case h_17 => cases hstep

/-! ## What the steps of the other threads leave alone -/

theorem operate_eq (op : WalletOp) : ∃ wallet, s.operate op = { s with wallet } := by
  unfold operate
  split
  · exact ⟨_, rfl⟩
  · exact ⟨s.wallet, rfl⟩

theorem notifyOne_cases : s.notifyOne = s ∨
    (∃ waitTime, s.loop = .waiting waitTime) ∧ s.notifyOne = { s with loop := .test } := by
  unfold notifyOne
  split
  · next waitTime place => exact .inr ⟨⟨waitTime, place⟩, rfl⟩
  · exact .inl rfl

theorem complete_eq (outcome : RetainOutcome) :
    ∃ wallet call, s.complete chain outcome = { s with wallet, call } := by
  unfold complete
  dsimp only
  split
  · exact ⟨s.wallet, _, rfl⟩
  · split_ifs
    · split
      · exact ⟨_, _, rfl⟩
      · exact ⟨s.wallet, _, rfl⟩
    · exact ⟨s.wallet, _, rfl⟩

theorem complete_quiet {outcome : RetainOutcome}
    (quiet : enteredResult chain outcome = none) :
    s.complete chain outcome = { s with call := .done (retainResult chain outcome) } := by
  rw [LeaseKeepAlive.complete, quiet]

theorem complete_missing {outcome : RetainOutcome} {result : LeaseUseResult}
    (shares : s.sharesWallet = true)
    (enters : enteredResult chain outcome = some result)
    (missing : s.wallet.leaseMap[result.attemptedLease.resource]? = none) :
    s.complete chain outcome = { s with call := .done (retainResult chain outcome) } := by
  have first : (WalletOp.onLeaseUseResult result).first s.wallet =
      .inl (s.wallet, .status resourceNotInWallet) := by
    simp [WalletOp.first, LeaseWallet.getLease_of_none missing]
  rw [LeaseKeepAlive.complete, enters]
  simp only [shares, if_true, first]

theorem complete_found {outcome : RetainOutcome} {result : LeaseUseResult}
    {found : Lease} (shares : s.sharesWallet = true)
    (enters : enteredResult chain outcome = some result)
    (held : s.wallet.leaseMap[result.attemptedLease.resource]? = some found) :
    s.complete chain outcome = { s with
      call := .entering (.storeUpdated result found) (retainResult chain outcome) } := by
  have first : (WalletOp.onLeaseUseResult result).first s.wallet =
      .inr (.storeUpdated result found) := by
    simp [WalletOp.first, LeaseWallet.getLease_of_some held]
  rw [LeaseKeepAlive.complete, enters]
  simp only [shares, if_true, first]

theorem lookUp_eq (execStart : Int) : ∃ loop, s.lookUp execStart = { s with loop } ∧
    ((∃ foundLease, loop = .send execStart foundLease ∧
        s.wallet.leaseMap[s.resource]? = some foundLease) ∨
      loop = .fail execStart ⟨resourceNotInWallet, default⟩ ∧
        s.wallet.leaseMap[s.resource]? = none) := by
  cases held : s.wallet.leaseMap[s.resource]? with
  | some foundLease =>
      refine ⟨_, ?_, .inl ⟨foundLease, rfl, rfl⟩⟩
      rw [lookUp, LeaseWallet.getLease_of_some held]
      rfl
  | none =>
      refine ⟨_, ?_, .inr ⟨rfl, rfl⟩⟩
      rw [lookUp, LeaseWallet.getLease_of_none held]
      rfl

/-! ## Stopping -/

/-- What a step costs a keep-alive whose flag is cleared. -/
structure Winds (s : LeaseKeepAlive) (e : RetainEvent) (t : LeaseKeepAlive) : Prop where
  stopped : t.threadIsAlive = false
  steps : e.isLoopStep.toNat + t.loop.stepsLeft ≤ s.loop.stepsLeft
  sends : e.isSend.toNat + t.loop.sendsLeft ≤ s.loop.sendsLeft
  fails : e.isFail.toNat + t.loop.failsLeft ≤ s.loop.failsLeft

/-- The steps of the other threads cost nothing. -/
theorem winds_of_other (other : e.isLoopStep = false) (stopped : t.threadIsAlive = false)
    (same : t.loop = s.loop) : Winds s e t := by
  cases e <;> simp at other <;> constructor <;> simp [stopped, same]

theorem winds_of_stopped (stopped : s.threadIsAlive = false)
    (hstep : StepOf (step chain) s e t) : Winds s e t := by
  cases step_cases hstep with
  | clearAlive => exact winds_of_other rfl rfl rfl
  | notifyOne =>
      rcases notifyOne_cases (s := s) with same | ⟨⟨waitTime, place⟩, woken⟩
      · rw [same]
        exact winds_of_other rfl stopped rfl
      · rw [woken]
        constructor <;> simp [stopped, place]
  | setRpcInterval => exact winds_of_other rfl stopped rfl
  | @operate op =>
      obtain ⟨wallet, same⟩ := s.operate_eq op
      rw [same]
      exact winds_of_other rfl stopped rfl
  | store => exact winds_of_other rfl stopped rfl
  | @complete outcome sent =>
      obtain ⟨wallet, call, same⟩ : ∃ wallet call,
          s.complete chain outcome = { s with wallet, call } := complete_eq outcome
      rw [same]
      exact winds_of_other rfl stopped rfl
  | enter => exact winds_of_other rfl stopped rfl
  | @lookUp execStart place =>
      obtain ⟨loop, same, ⟨_, rfl, _⟩ | ⟨rfl, _⟩⟩ := s.lookUp_eq execStart <;>
        rw [same] <;> constructor <;> simp [stopped, place]
  | check place =>
      unfold check
      split <;> constructor <;> simp [stopped, place]
  | test place | send place | pollTimeout place | take place _ | fail place | beginWait place
  | wake place => constructor <;> simp [stopped, place, fail]

/-- A thread that has not ended can always take a step of its own. -/
theorem loopStep_of_not_exited (running : s.loop ≠ .exited) :
    ∃ e, e.isLoopStep = true ∧ (step chain s e).isSome = true := by
  cases place : s.loop with
  | test => exact ⟨.test 0, rfl, by simp [step, place]⟩
  | lookUp => exact ⟨.lookUp, rfl, by simp [step, place]⟩
  | send => exact ⟨.send, rfl, by simp [step, place]⟩
  | await => exact ⟨.pollTimeout, rfl, by simp [step, place]⟩
  | check => exact ⟨.check, rfl, by simp [step, place]⟩
  | fail => exact ⟨.fail, rfl, by simp [step, place]⟩
  | beginWait => exact ⟨.beginWait 0, rfl, by simp [step, place]⟩
  | waiting => exact ⟨.wake, rfl, by simp [step, place]⟩
  | exited => exact absurd place running

/-- After the flag is cleared the thread sends one more request and makes one more callback
at most, and it ends within eight of its steps, whether or not it hears the signal. -/
theorem thread_ends {pre post : List RetainEvent}
    (run : Run (StepOf (step chain)) s (pre ++ .clearAlive :: post) t) :
    post.countP RetainEvent.isSend ≤ 1 ∧ post.countP RetainEvent.isFail ≤ 1 ∧
      post.countP RetainEvent.isLoopStep ≤ 8 ∧
      (t.loop ≠ .exited →
        ∃ e, e.isLoopStep = true ∧ (step chain t e).isSome = true) := by
  obtain ⟨u, _, after⟩ := run.split
  cases after with
  | @cons _ _ v _ _ cleared tail =>
      have stopped : v.threadIsAlive = false := by
        cases step_cases cleared with
        | clearAlive => rfl
      have sends : Pays (StepOf (step chain)) (·.threadIsAlive = false) RetainEvent.isSend
          (·.loop.sendsLeft) :=
        ⟨fun stopped hstep => (winds_of_stopped stopped hstep).stopped,
          fun stopped hstep => (winds_of_stopped stopped hstep).sends⟩
      have fails : Pays (StepOf (step chain)) (·.threadIsAlive = false) RetainEvent.isFail
          (·.loop.failsLeft) :=
        ⟨sends.keeps, fun stopped hstep => (winds_of_stopped stopped hstep).fails⟩
      have steps : Pays (StepOf (step chain)) (·.threadIsAlive = false) RetainEvent.isLoopStep
          (·.loop.stepsLeft) :=
        ⟨sends.keeps, fun stopped hstep => (winds_of_stopped stopped hstep).steps⟩
      refine ⟨(sends.countP_le tail stopped).trans ?_, (fails.countP_le tail stopped).trans ?_,
        (steps.countP_le tail stopped).trans ?_, loopStep_of_not_exited⟩
      · cases v.loop <;> simp
      · cases v.loop <;> simp
      · cases v.loop <;> simp

/-- The thread is stopped in the middle of its turn, and the signal is lost. -/
def missedSignal : List RetainEvent :=
  [.notifyOne, .lookUp, .fail, .beginWait 1, .wake, .test 5]

theorem thread_ends_missed :
    missedSignal.countP RetainEvent.isSend ≤ 1 ∧ missedSignal.countP RetainEvent.isFail ≤ 1 ∧
      missedSignal.countP RetainEvent.isLoopStep ≤ 8 := by
  have run : Run (StepOf (step [])) (new "body" { clientName := "" } true true 2)
      ([.test 0] ++ .clearAlive :: missedSignal) _ :=
    .cons rfl (.cons rfl (.cons rfl (.cons rfl (.cons rfl (.cons rfl (.cons rfl (.cons rfl
      (.nil _))))))))
  have ends := thread_ends run
  exact ⟨ends.1, ends.2.1, ends.2.2.1⟩

end LeaseKeepAlive

end SpotSdk.Client
