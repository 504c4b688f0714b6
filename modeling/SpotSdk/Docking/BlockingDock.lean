import Mathlib.Data.List.Count
import SpotSdk.Common.Status
import SpotSdk.Foundations.LabelledRuns

/-!
# Docking with early cancellation

`BlockingDock` sends docking commands until one of them succeeds, and asks the
caller's `early_end` in its own loops and in those of `WaitOnFeedback`. Every call
it makes is one event, so a run lists what the robot and the caller can observe.
-/

namespace SpotSdk.Client

open SpotSdk.Foundations SpotSdk.Common

def dockingHelperErrorCategory : ErrorCategory := ⟨"DockingHelperErrorCode", []⟩

inductive DockingHelperErrorCode
  | retriesExceeded
  | cancelled
  | commandFailed
  deriving DecidableEq, Repr

def DockingHelperErrorCode.code : DockingHelperErrorCode → ErrorCode
  | retriesExceeded => ⟨dockingHelperErrorCategory, 1⟩
  | cancelled => ⟨dockingHelperErrorCategory, 2⟩
  | commandFailed => ⟨dockingHelperErrorCategory, 3⟩

inductive PrepPoseBehavior
  | unknown
  | usePose
  | skipPose
  | onlyPose
  | undock
  deriving DecidableEq, Repr

structure DockingCommandRequest where
  dockingStationId : UInt32 := 0
  clockIdentifier : String := ""
  endTime : Int := 0
  prepPoseBehavior : PrepPoseBehavior := .unknown
  deriving DecidableEq, Repr

structure DockingCommandResponse where
  dockingCommandId : UInt32 := 0
  deriving DecidableEq, Repr

structure DockingCommandFeedbackResponse where
  status : Int := 0
  deriving DecidableEq, Repr

namespace DockingCommandFeedbackResponse

def statusInProgress : Int := 1

def statusDocked : Int := 2

def statusAtPrepPose : Int := 11

end DockingCommandFeedbackResponse

open DockingCommandFeedbackResponse

/-- The arguments of `BlockingDock`; of the callbacks, only whether they are set. -/
structure DockCall where
  dockId : UInt32
  numAttempts : Int
  interval : Int
  endDuration : Int
  earlyEnd : Bool
  cmdIdGiven : Bool

/-- The calls `BlockingDock` makes, with what they give back, and its own return. -/
inductive DockEvent
  | nsecSinceEpoch (now : Int)
  | dockingCommandBuilder (dockId : UInt32) (localEndTime : Int)
      (result : Result DockingCommandRequest)
  | earlyEnd (answer : Bool)
  | dockingCommandAsync (request : DockingCommandRequest)
  | waitFor (ready : Bool)
  | dockingCommand (result : Result DockingCommandResponse)
  | cmdIdGiven (id : UInt32)
  | sleepFor (duration : Int)
  | dockingCommandFeedbackAsync (id : UInt32)
  | dockingCommandFeedback (result : Result DockingCommandFeedbackResponse)
  | returns (status : Status) (attemptsMade : Nat)
  deriving DecidableEq

/-! ## Waiting on feedback -/

/-- The next call of `WaitOnFeedback`. -/
inductive FeedbackCall
  | sleep
  | request
  | readStart
  | askEnd
  | waitFor
  | readStop
  | get
  | askAgain
  deriving DecidableEq, Repr

/-- The locals of `WaitOnFeedback`. -/
structure FeedbackWait where
  next : FeedbackCall := .sleep
  sleepDuration : Int := 0
  rpcStart : Int := 0
  result : Result DockingCommandFeedbackResponse := ⟨⟨SDKErrorCode.success.code, ""⟩, {}⟩
  deriving DecidableEq

namespace FeedbackWait

/-- The head of the polling loop. A callback that is not set is not asked. -/
def poll (call : DockCall) (w : FeedbackWait) : FeedbackWait :=
  { w with next := if call.earlyEnd then .askEnd else .waitFor }

/-- What `WaitOnFeedback` returns after its loop. -/
def answer (success : Int) (result : Result DockingCommandFeedbackResponse) :
    Result DockingCommandFeedbackResponse :=
  if result.response.status = success then result
  else if result.ok then ⟨⟨DockingHelperErrorCode.commandFailed.code, ""⟩, result.response⟩
  else result

/-- `WaitOnFeedback` up to its next call, or to its return. -/
def step (call : DockCall) (cmdId : UInt32) (success progress : Int) (w : FeedbackWait)
    (e : DockEvent) : Option (FeedbackWait ⊕ Result DockingCommandFeedbackResponse) :=
  match w.next, e with
  | .sleep, .sleepFor duration =>
      if duration = w.sleepDuration then some (.inl { w with next := .request }) else none
  | .request, .dockingCommandFeedbackAsync id =>
      if id = cmdId then some (.inl { w with next := .readStart }) else none
  | .readStart, .nsecSinceEpoch now => some (.inl ({ w with rpcStart := now }.poll call))
  | .askEnd, .earlyEnd ended =>
      some (.inl { w with next := if ended then .readStop else .waitFor })
  | .waitFor, .waitFor ready =>
      some (.inl (if ready then { w with next := .readStop } else w.poll call))
  | .readStop, .nsecSinceEpoch now =>
      some (.inl { w with next := .get, sleepDuration := call.interval - (now - w.rpcStart) })
  | .get, .dockingCommandFeedback result =>
      if !result.ok || result.response.status = progress then
        some (.inl { w with
          result := result, next := if call.earlyEnd then .askAgain else .sleep })
      else some (.inr (answer success result))
  | .askAgain, .earlyEnd ended =>
      if ended then some (.inr (answer success w.result))
      else some (.inl { w with next := .sleep })
  | _, _ => none

end FeedbackWait

/-! ## The attempts -/

/-- The next call of `BlockingDock`. The attempts and the final command to the prep
pose go through the same calls, except that only an attempt asks before it sends. -/
inductive DockingCall
  | readClock
  | build (endTime : Int)
  | askSend (request : DockingCommandRequest)
  | send (request : DockingCommandRequest)
  | askEnd
  | waitFor
  | get
  | giveId (id : UInt32)
  | feedback (id : UInt32) (wait : FeedbackWait)
  | leave (status : Status)
  | left
  deriving DecidableEq

/-- The state of `BlockingDock`. `attemptsMade` is an unbounded number: an `int` that
overflows is undefined. -/
structure BlockingDock where
  attemptsMade : Nat := 0
  prepping : Bool := false
  next : DockingCall := .readClock
  deriving DecidableEq

namespace BlockingDock

/-- The condition of the loop over the attempts. -/
def nextRound (call : DockCall) (s : BlockingDock) : BlockingDock :=
  { s with
    next := .readClock
    prepping := !(call.numAttempts ≤ 0 || s.attemptsMade < call.numAttempts) }

def start (call : DockCall) : BlockingDock :=
  nextRound call {}

def leave (s : BlockingDock) (status : Status) : BlockingDock :=
  { s with next := .leave status }

/-- The head of the loop that waits for the answer to a command. -/
def poll (call : DockCall) (s : BlockingDock) : BlockingDock :=
  { s with next := if call.earlyEnd then .askEnd else .waitFor }

/-- After the builder. -/
def built (call : DockCall) (s : BlockingDock) (result : Result DockingCommandRequest) :
    BlockingDock :=
  if !result.ok then s.leave result.status
  else if !s.prepping && call.earlyEnd then { s with next := .askSend result.response }
  else { s with next := .send result.response }

/-- The prep pose of the next command: every other attempt skips it. -/
def pose (s : BlockingDock) : PrepPoseBehavior :=
  if s.prepping then .onlyPose
  else if (s.attemptsMade + 1) % 2 = 1 then .usePose
  else .skipPose

/-- After a command was sent. -/
def sent (call : DockCall) (s : BlockingDock) : BlockingDock :=
  poll call (if s.prepping then s else { s with attemptsMade := s.attemptsMade + 1 })

/-- After the answer to a command. -/
def commanded (call : DockCall) (s : BlockingDock) (result : Result DockingCommandResponse) :
    BlockingDock :=
  let id := result.response.dockingCommandId
  if result.ok then
    { s with next := if call.cmdIdGiven then .giveId id else .feedback id {} }
  else if s.prepping then s.leave result.status
  else s.nextRound call

/-- The status whose feedback ends a command well. -/
def success (s : BlockingDock) : Int :=
  if s.prepping then statusAtPrepPose else statusDocked

/-- After the feedback on a command. -/
def fedBack (call : DockCall) (s : BlockingDock)
    (result : Result DockingCommandFeedbackResponse) : BlockingDock :=
  if s.prepping then s.leave ⟨DockingHelperErrorCode.retriesExceeded.code, ""⟩
  else if result.ok then s.leave ⟨SDKErrorCode.success.code, ""⟩
  else s.nextRound call

/-- `BlockingDock` up to its next call, or to its return. -/
def step (call : DockCall) (s : BlockingDock) (e : DockEvent) : Option BlockingDock :=
  match s.next, e with
  | .readClock, .nsecSinceEpoch now =>
      some { s with next := .build (now + call.endDuration) }
  | .build endTime, .dockingCommandBuilder dockId localEndTime result =>
      if dockId = call.dockId ∧ localEndTime = endTime then some (s.built call result) else none
  | .askSend request, .earlyEnd ended =>
      some (if ended then s.leave ⟨DockingHelperErrorCode.cancelled.code, ""⟩
        else { s with next := .send request })
  | .send request, .dockingCommandAsync sentRequest =>
      if sentRequest = { request with prepPoseBehavior := s.pose } then some (s.sent call)
      else none
  | .askEnd, .earlyEnd ended =>
      some (if ended then s.leave ⟨DockingHelperErrorCode.cancelled.code, ""⟩
        else { s with next := .waitFor })
  | .waitFor, .waitFor ready => some (if ready then { s with next := .get } else s.poll call)
  | .get, .dockingCommand result => some (s.commanded call result)
  | .giveId id, .cmdIdGiven given =>
      if given = id then some { s with next := .feedback id {} } else none
  | .feedback id wait, e =>
      (wait.step call id s.success statusInProgress e).map fun
        | .inl wait => { s with next := .feedback id wait }
        | .inr result => s.fedBack call result
  | .leave status, .returns returned attemptsMade =>
      if returned = status ∧ attemptsMade = s.attemptsMade then some { s with next := .left }
      else none
  | _, _ => none

/-- The steps of `BlockingDock`, one for each call. -/
inductive Takes (call : DockCall) (s : BlockingDock) : DockEvent → BlockingDock → Prop
  | readClock {now} (next : s.next = .readClock) :
      Takes call s (.nsecSinceEpoch now) { s with next := .build (now + call.endDuration) }
  | build {endTime result} (next : s.next = .build endTime) :
      Takes call s (.dockingCommandBuilder call.dockId endTime result) (s.built call result)
  | askSend {request ended} (next : s.next = .askSend request) :
      Takes call s (.earlyEnd ended)
        (if ended then s.leave ⟨DockingHelperErrorCode.cancelled.code, ""⟩
          else { s with next := .send request })
  | send {request} (next : s.next = .send request) :
      Takes call s (.dockingCommandAsync { request with prepPoseBehavior := s.pose })
        (s.sent call)
  | askEnd {ended} (next : s.next = .askEnd) :
      Takes call s (.earlyEnd ended)
        (if ended then s.leave ⟨DockingHelperErrorCode.cancelled.code, ""⟩
          else { s with next := .waitFor })
  | waitFor {ready} (next : s.next = .waitFor) :
      Takes call s (.waitFor ready) (if ready then { s with next := .get } else s.poll call)
  | get {result} (next : s.next = .get) :
      Takes call s (.dockingCommand result) (s.commanded call result)
  | giveId {id} (next : s.next = .giveId id) :
      Takes call s (.cmdIdGiven id) { s with next := .feedback id {} }
  | feedback {id wait wait' e} (next : s.next = .feedback id wait)
      (waits : wait.step call id s.success statusInProgress e = some (.inl wait')) :
      Takes call s e { s with next := .feedback id wait' }
  | fedBack {id wait result e} (next : s.next = .feedback id wait)
      (returns : wait.step call id s.success statusInProgress e = some (.inr result)) :
      Takes call s e (s.fedBack call result)
  | leave {status} (next : s.next = .leave status) :
      Takes call s (.returns status s.attemptsMade) { s with next := .left }

variable {call : DockCall} {s t : BlockingDock} {e : DockEvent} {h : List DockEvent}

theorem step_cases (hstep : StepOf (step call) s e t) : Takes call s e t := by
  unfold StepOf step at hstep
  split at hstep
  case h_1 now next => exact Option.some.inj hstep ▸ .readClock next
  case h_2 endTime dockId localEndTime result next =>
    split_ifs at hstep with args
    obtain ⟨rfl, rfl⟩ := args
    exact Option.some.inj hstep ▸ .build next
  case h_3 request ended next => exact Option.some.inj hstep ▸ .askSend next
  case h_4 request sentRequest next =>
    split_ifs at hstep with same
    subst same
    exact Option.some.inj hstep ▸ .send next
  case h_5 ended next => exact Option.some.inj hstep ▸ .askEnd next
  case h_6 ready next => exact Option.some.inj hstep ▸ .waitFor next
  case h_7 result next => exact Option.some.inj hstep ▸ .get next
  case h_8 id given next =>
    split_ifs at hstep with same
    subst same
    exact Option.some.inj hstep ▸ .giveId next
  case h_9 id wait next =>
    obtain ⟨out, waits, rfl⟩ := Option.map_eq_some_iff.mp hstep
    cases out with
    | inl wait' => exact .feedback next waits
    | inr result => exact .fedBack next waits
  case h_10 status returned attemptsMade next =>
    split_ifs at hstep with same
    obtain ⟨rfl, rfl⟩ := same
    exact Option.some.inj hstep ▸ .leave next
  case h_11 => cases hstep

end BlockingDock

/-! ## Attempts and the final command -/

def DockEvent.isAttempt : DockEvent → Bool
  | .dockingCommandAsync request => request.prepPoseBehavior != .onlyPose
  | _ => false

def DockEvent.isPrep : DockEvent → Bool
  | .dockingCommandAsync request => request.prepPoseBehavior == .onlyPose
  | _ => false

/-- Feedback that ends an attempt well. -/
def Docked (result : Result DockingCommandFeedbackResponse) : Prop :=
  result.ok = true ∧ result.response.status = statusDocked

/-- The command of this round is still to be sent. -/
def DockingCall.beforeSend : DockingCall → Bool
  | .readClock => true
  | .build _ => true
  | .askSend _ => true
  | .send _ => true
  | _ => false

def DockingCall.isOver : DockingCall → Bool
  | .leave _ => true
  | .left => true
  | _ => false

namespace FeedbackWait

variable {call : DockCall} {id : UInt32} {success progress : Int} {w : FeedbackWait}
  {e : DockEvent} {out : FeedbackWait ⊕ Result DockingCommandFeedbackResponse}
  {result : Result DockingCommandFeedbackResponse}

theorem step_quiet (hstep : w.step call id success progress e = some out) :
    e.isAttempt = false ∧ e.isPrep = false := by
  cases e with
  | dockingCommandAsync request => simp [step] at hstep
  | _ => exact ⟨rfl, rfl⟩

/-- Feedback that says docked is returned at once. -/
theorem step_docked
    (hstep : w.step call id statusDocked statusInProgress (.dockingCommandFeedback result) =
      some out) (docked : Docked result) : out = .inr result := by
  unfold step at hstep
  split at hstep <;> try contradiction
  case h_7 got next same =>
    obtain rfl := DockEvent.dockingCommandFeedback.inj same
    have final : (!result.ok || decide (result.response.status = statusInProgress)) = false := by
      simp [docked.1, docked.2, statusDocked, statusInProgress]
    rw [final] at hstep
    simpa [answer, docked.2] using hstep.symm

end FeedbackWait

namespace BlockingDock

variable {call : DockCall} {s t : BlockingDock} {e : DockEvent} {h : List DockEvent}

/-- The commands sent so far, and what they allow: the final one comes after all
attempts, none of which docked the robot. -/
structure Counted (call : DockCall) (h : List DockEvent) (s : BlockingDock) : Prop where
  made : h.countP DockEvent.isAttempt = s.attemptsMade
  room : s.prepping = false → s.next.beforeSend = true → 0 < call.numAttempts →
    s.attemptsMade < call.numAttempts
  atMost : 0 < call.numAttempts → s.attemptsMade ≤ call.numAttempts
  last : s.prepping = true → 0 < call.numAttempts ∧ s.attemptsMade = call.numAttempts
  preps : h.countP DockEvent.isPrep ≤ 1
  unprepped : (s.prepping = true → s.next.beforeSend = true) →
    h.countP DockEvent.isPrep = 0
  undocked : s.next.isOver = false → (s.prepping = true → s.next.beforeSend = true) →
    ∀ result, .dockingCommandFeedback result ∈ h → ¬ Docked result

theorem Counted.start (call : DockCall) : Counted call [] (start call) where
  made := rfl
  room stage _ _ := by
    simp [BlockingDock.start, nextRound] at stage ⊢
    omega
  atMost positive := by
    simp [BlockingDock.start, nextRound]
    omega
  last stage := by
    simp [BlockingDock.start, nextRound] at stage
    omega
  preps := Nat.zero_le 1
  unprepped _ := rfl
  undocked _ _ result mem := absurd mem List.not_mem_nil

/-- An event that sends nothing. It must not give docked feedback to an attempt that
goes on. -/
theorem Counted.quiet (inv : Counted call h s) (quiet : e.isAttempt = false ∧ e.isPrep = false)
    (made : t.attemptsMade = s.attemptsMade) (stage : t.prepping = s.prepping)
    (before : t.next.beforeSend = true → s.next.beforeSend = true)
    (live : t.next.isOver = false → s.next.isOver = false)
    (undocked : t.next.isOver = false → (t.prepping = true → t.next.beforeSend = true) →
      ∀ result, .dockingCommandFeedback result = e → ¬ Docked result) :
    Counted call (h ++ [e]) t where
  made := by simp [inv.made, quiet.1, made]
  room attempt sends positive := made ▸ inv.room (stage ▸ attempt) (before sends) positive
  atMost positive := made ▸ inv.atMost positive
  last prepping := made ▸ inv.last (stage ▸ prepping)
  preps := by simpa [quiet.2] using inv.preps
  unprepped sends := by
    simpa [quiet.2] using inv.unprepped fun prepping => before (sends (stage ▸ prepping))
  undocked goes sends result mem := by
    have old := inv.undocked (live goes) fun prepping => before (sends (stage ▸ prepping))
    rcases List.mem_append.mp mem with mem | mem
    · exact old result mem
    · exact undocked goes sends result (List.mem_singleton.mp mem)

/-- A round of the attempts that failed. -/
theorem Counted.nextRound (inv : Counted call h s) (attempt : s.prepping = false)
    (quiet : e.isAttempt = false ∧ e.isPrep = false) (live : s.next.isOver = false)
    (undocked : ∀ result, .dockingCommandFeedback result = e → ¬ Docked result) :
    Counted call (h ++ [e]) (s.nextRound call) where
  made := by simp [inv.made, quiet.1, BlockingDock.nextRound]
  room stage _ positive := by
    simp [BlockingDock.nextRound] at stage ⊢
    omega
  atMost positive := inv.atMost positive
  last stage := by
    simp only [BlockingDock.nextRound, Bool.not_eq_true', Bool.or_eq_false_iff,
      decide_eq_false_iff_not] at stage ⊢
    have atMost := inv.atMost (by omega)
    omega
  preps := by simpa [quiet.2] using inv.preps
  unprepped _ := by
    simpa [quiet.2] using inv.unprepped fun prepping => by simp [attempt] at prepping
  undocked _ _ result mem := by
    have old := inv.undocked live fun prepping => by simp [attempt] at prepping
    rcases List.mem_append.mp mem with mem | mem
    · exact old result mem
    · exact undocked result (List.mem_singleton.mp mem)

/-- A command is sent: an attempt that there is room for, or the final one. -/
theorem Counted.send {request : DockingCommandRequest} (inv : Counted call h s)
    (next : s.next = .send request) :
    Counted call (h ++ [.dockingCommandAsync { request with prepPoseBehavior := s.pose }])
      (s.sent call) := by
  have before : s.next.beforeSend = true := by rw [next]; rfl
  have live : s.next.isOver = false := by rw [next]; rfl
  have after : (s.sent call).next.beforeSend = false := by
    unfold sent poll; dsimp only; split <;> rfl
  have unprepped := inv.unprepped fun _ => before
  have undocked := inv.undocked live fun _ => before
  cases stage : s.prepping with
  | false =>
      have room := inv.room stage before
      have pose : s.pose ≠ .onlyPose := by
        simp only [BlockingDock.pose, stage, Bool.false_eq_true, if_false]
        split <;> decide
      have attempts : (s.sent call).attemptsMade = s.attemptsMade + 1 := by
        simp [sent, poll, stage]
      have stage' : (s.sent call).prepping = false := by simp [sent, poll, stage]
      refine ⟨?_, fun _ sends => ?_, fun positive => ?_, fun prepping => ?_, ?_, fun _ => ?_, ?_⟩
      · simp [inv.made, DockEvent.isAttempt, pose, attempts]
      · simp [after] at sends
      · have := room positive
        rw [attempts]
        omega
      · simp [stage'] at prepping
      · simp [DockEvent.isPrep, pose, unprepped]
      · simp [DockEvent.isPrep, pose, unprepped]
      · intro _ _ result mem
        exact undocked result (by simpa using mem)
  | true =>
      have pose : s.pose = .onlyPose := by simp [BlockingDock.pose, stage]
      have same : (s.sent call).attemptsMade = s.attemptsMade := by simp [sent, poll, stage]
      have stage' : (s.sent call).prepping = true := by simp [sent, poll, stage]
      have last := inv.last stage
      refine ⟨?_, fun attempt => ?_, fun _ => ?_, fun _ => same ▸ last, ?_, fun sends => ?_,
        fun _ sends => ?_⟩
      · simp [inv.made, DockEvent.isAttempt, pose, same]
      · simp [stage'] at attempt
      · rw [same]
        omega
      · simp [DockEvent.isPrep, pose, unprepped]
      · simp [after] at sends; simp [sends] at stage'
      · simp [after] at sends; simp [sends] at stage'

/-- A call that goes on had not ended before. -/
theorem Takes.live (takes : Takes call s e t) (goes : t.next.isOver = false) :
    s.next.isOver = false := by
  cases takes with
  | leave next => cases goes
  | _ => simp [DockingCall.isOver, *]

/-- One step keeps the count. -/
theorem Counted.step (inv : Counted call h s) (hstep : StepOf (step call) s e t) :
    Counted call (h ++ [e]) t := by
  have live := (step_cases hstep).live
  cases step_cases hstep with
  | readClock next =>
      exact inv.quiet ⟨rfl, rfl⟩ rfl rfl (fun _ => by simp [next, DockingCall.beforeSend])
        live nofun
  | build next =>
      unfold built at live ⊢
      split_ifs at live ⊢ <;>
      exact inv.quiet ⟨rfl, rfl⟩ rfl rfl (fun _ => by simp [next, DockingCall.beforeSend])
        live nofun
  | askSend next =>
      split_ifs at live ⊢ <;>
      exact inv.quiet ⟨rfl, rfl⟩ rfl rfl (fun _ => by simp [next, DockingCall.beforeSend])
        live nofun
  | send next => exact inv.send next
  | askEnd next =>
      split_ifs at live ⊢ <;>
      exact inv.quiet ⟨rfl, rfl⟩ rfl rfl nofun live nofun
  | waitFor next =>
      unfold poll at live ⊢
      split_ifs at live ⊢ <;>
      exact inv.quiet ⟨rfl, rfl⟩ rfl rfl nofun live nofun
  | get next =>
      unfold commanded at live ⊢
      dsimp only at live ⊢
      split_ifs at live ⊢ with ok given stage
      · exact inv.quiet ⟨rfl, rfl⟩ rfl rfl nofun live nofun
      · exact inv.quiet ⟨rfl, rfl⟩ rfl rfl nofun live nofun
      · exact inv.quiet ⟨rfl, rfl⟩ rfl rfl nofun live nofun
      · exact inv.nextRound (Bool.eq_false_iff.mpr stage) ⟨rfl, rfl⟩ (live rfl) nofun
  | giveId next =>
      exact inv.quiet ⟨rfl, rfl⟩ rfl rfl nofun live nofun
  | feedback next waits =>
      refine inv.quiet (FeedbackWait.step_quiet waits) rfl rfl nofun live ?_
      rintro _ attempt result rfl docked
      have stage : s.prepping = false := Bool.eq_false_iff.mpr fun prepping => by
        simpa [DockingCall.beforeSend] using attempt prepping
      rw [success, stage] at waits
      cases FeedbackWait.step_docked waits docked
  | fedBack next returns =>
      have quiet := FeedbackWait.step_quiet returns
      have live : s.next.isOver = false := by rw [next]; rfl
      unfold fedBack
      split_ifs with stage ok
      · exact inv.quiet quiet rfl rfl nofun (fun _ => live) nofun
      · exact inv.quiet quiet rfl rfl nofun (fun _ => live) nofun
      · apply inv.nextRound (Bool.eq_false_iff.mpr stage) quiet live
        rintro result rfl docked
        rw [success, Bool.eq_false_iff.mpr stage] at returns
        obtain rfl := Sum.inr.inj (FeedbackWait.step_docked returns docked)
        exact ok docked.1
  | leave next =>
      exact inv.quiet ⟨rfl, rfl⟩ rfl rfl nofun nofun nofun

theorem counted (run : Run (StepOf (step call)) (start call) h s) : Counted call h s :=
  run.recorded (I := Counted call) (Counted.start call) Counted.step

end BlockingDock

end SpotSdk.Client
