import SpotSdk.Estop.EstopEndpoint
import SpotSdk.Foundations.LabelledRuns

/-!
# The E-Stop keep-alive

A background thread checks in at the desired stop level and waits on a condition
variable that a change of the level signals. Every block under the lock is one step;
the loop releases the lock between its check-in and its wait.
-/

namespace SpotSdk.Client

open Foundations Common

inductive EstopKeepAliveStatus
  | ok
  | error
  | disabled
  deriving DecidableEq, Repr

/-- The statements of `StopKeepAliveThread`. -/
inductive StopBlock
  | clearAlive
  | notifyOne
  | updateStatus
  deriving DecidableEq, Repr

/-- Where the background thread is in `PeriodicCheckIn`. -/
inductive KeepAliveLoop
  | test
  | checkIn (execStart : Int)
  | report (execStart : Int) (status : Status)
  | stop (execStart : Int) (block : StopBlock) (errorMsg : String)
  | beginWait (execStart : Int)
  | waiting (waitTime : Int)
  | exited
  deriving DecidableEq, Repr

def KeepAliveLoop.isWaiting : KeepAliveLoop → Bool
  | .waiting _ => true
  | _ => false

/-- The check-in of this turn is made and the wait is not begun. -/
def KeepAliveLoop.hasCheckedIn : KeepAliveLoop → Bool
  | .report .. => true
  | .stop .. => true
  | .beginWait _ => true
  | _ => false

/-- The members, the place of the background thread, and the check-ins made so far. -/
structure EstopKeepAlive where
  endpoint : EstopEndpoint
  threadIsAlive : Bool := true
  desiredStopLevel : EstopStopLevel := .none
  rpcInterval : Int
  rpcTimeout : Int
  statusAndMessage : EstopKeepAliveStatus × String := (.ok, "")
  loop : KeepAliveLoop := .test
  checkIns : List CheckIn := []

/-- The blocks of all threads. `stopBlock` is run by a thread other than the loop. -/
inductive KeepAliveEvent
  | setStopLevel (desiredStopLevel : EstopStopLevel)
  | stopBlock (block : StopBlock) (errorMsg : String)
  | test (execStart : Int)
  | checkIn (outcome : CheckInOutcome)
  | report
  | loopStop (block : StopBlock)
  | beginWait (now : Int)
  | wake

/-- The categories that call every code of theirs an SDK error. -/
def sdkErrorTypeNames : List String :=
  ["SDKErrorCode", "DirectoryHelperErrorCode", "TimeSyncHelperErrorCode",
    "EstablishTimeSyncErrorCode", "RobotTimeSyncErrorCode", "ClientCreationErrorCode",
    "LeaseWalletErrorCode", "JointControlStreamErrorCode", "DockingHelperErrorCode",
    "BlockingRobotCommandErrorCode"]

def statusEndpointUnknown : ErrorCode := ⟨estopCheckInStatusCategory, 2⟩

namespace EstopKeepAlive

variable (chain : EstopProcessorChain)

/-- `UpdateStatus`: once disabled, the status stays. -/
def updateStatus (s : EstopKeepAlive) (status : EstopKeepAliveStatus) (errorMsg : String) :
    EstopKeepAlive :=
  if s.statusAndMessage.1 = .disabled then s
  else { s with statusAndMessage := (status, errorMsg) }

/-- `notify_one`: it wakes the loop if that waits, and is lost otherwise. -/
def notifyOne (s : EstopKeepAlive) : EstopKeepAlive :=
  match s.loop with
  | .waiting _ => { s with loop := .test }
  | _ => s

/-- `CheckIn`. -/
def checkIn (s : EstopKeepAlive) (outcome : CheckInOutcome) : EstopKeepAlive × Status :=
  let result := s.endpoint.checkInAtLevel chain s.desiredStopLevel outcome
  ({ s with endpoint := result.endpoint, checkIns := s.checkIns ++ result.checkIns },
    result.status)

/-- The constructor, with how its initial check-in ends. -/
def new (endpoint : EstopEndpoint) (rpcTimeout rpcInterval : Int)
    (outcome : CheckInOutcome) : EstopKeepAlive :=
  let built : EstopKeepAlive :=
    { endpoint
      rpcTimeout := if rpcTimeout = 0 then endpoint.estopTimeout else rpcTimeout
      rpcInterval := if rpcInterval = 0 then endpoint.estopTimeout.tdiv 3 else rpcInterval }
  ((built.updateStatus .ok "").checkIn chain outcome).1

/-- `SetStopLevel`. -/
def setStopLevel (s : EstopKeepAlive) (desiredStopLevel : EstopStopLevel) : EstopKeepAlive :=
  if s.desiredStopLevel = desiredStopLevel then s
  else { s with desiredStopLevel := desiredStopLevel }.notifyOne

/-- One statement of `StopKeepAliveThread`. -/
def stopKeepAliveThread (s : EstopKeepAlive) (errorMsg : String) : StopBlock → EstopKeepAlive
  | .clearAlive => { s with threadIsAlive := false }
  | .notifyOne => s.notifyOne
  | .updateStatus => s.updateStatus .disabled errorMsg

/-- What the loop reports of a check-in. A status in a message is printed as the
`bool` it converts to. -/
def reported (s : EstopKeepAlive) (checkinStatus : Status) : EstopKeepAliveStatus × String :=
  if checkinStatus.code.category = rpcErrorCategory then
    if checkinStatus.code = RPCErrorCode.timedOutError.code then
      (.error, "RPC took longer than " ++ toString s.rpcTimeout ++ "[ms].")
    else
      (.error, "Transport exception during check-in: " ++
        (if checkinStatus.ok then "1" else "0") ++ "\n (resuming check-in)")
  else if checkinStatus.code.category.name ∈ sdkErrorTypeNames ∧
      checkinStatus.code ≠ SDKErrorCode.success.code then
    (.error, checkinStatus.message)
  else if checkinStatus.code = statusEndpointUnknown then (.disabled, checkinStatus.message)
  else if !checkinStatus.ok then (.error, checkinStatus.message)
  else (.ok, "")

/-- The next place of the loop after a statement of `StopKeepAliveThread`. -/
def afterStop (execStart : Int) (errorMsg : String) : StopBlock → KeepAliveLoop
  | .clearAlive => .stop execStart .notifyOne errorMsg
  | .notifyOne => .stop execStart .updateStatus errorMsg
  | .updateStatus => .beginWait execStart

/-- One block of one thread. A timeout and a spurious wakeup are both `wake`. -/
def step (s : EstopKeepAlive) (e : KeepAliveEvent) : Option EstopKeepAlive :=
  match s.loop, e with
  | _, .setStopLevel level => some (s.setStopLevel level)
  | _, .stopBlock block errorMsg => some (s.stopKeepAliveThread errorMsg block)
  | .test, .test execStart =>
      some { s with loop := if s.threadIsAlive then .checkIn execStart else .exited }
  | .checkIn execStart, .checkIn outcome =>
      let checked := s.checkIn chain outcome
      some { checked.1 with loop := .report execStart checked.2 }
  | .report execStart status, .report =>
      let report := s.reported status
      some { s.updateStatus report.1 report.2 with
        loop := if report.1 = .disabled then .stop execStart .clearAlive report.2
          else .beginWait execStart }
  | .stop execStart block errorMsg, .loopStop next =>
      if next = block then
        some { s.stopKeepAliveThread errorMsg block with
          loop := afterStop execStart errorMsg block }
      else none
  | .beginWait execStart, .beginWait now =>
      some { s with loop := .waiting (s.rpcInterval - (now - execStart)) }
  | .waiting _, .wake => some { s with loop := .test }
  | _, _ => none

/-- The stop level most recently sent. -/
def sent (s : EstopKeepAlive) : Option EstopStopLevel :=
  s.checkIns.getLast?.map (·.stopLevel)

/-- The steps of the keep-alive, one for each block. -/
inductive Takes (s : EstopKeepAlive) : KeepAliveEvent → EstopKeepAlive → Prop
  | setStopLevel {level} : Takes s (.setStopLevel level) (s.setStopLevel level)
  | stopBlock {block errorMsg} :
      Takes s (.stopBlock block errorMsg) (s.stopKeepAliveThread errorMsg block)
  | test {execStart} (place : s.loop = .test) :
      Takes s (.test execStart)
        { s with loop := if s.threadIsAlive then .checkIn execStart else .exited }
  | checkIn {execStart outcome} (place : s.loop = .checkIn execStart) :
      Takes s (.checkIn outcome)
        { (s.checkIn chain outcome).1 with
          loop := .report execStart (s.checkIn chain outcome).2 }
  | report {execStart status} (place : s.loop = .report execStart status) :
      Takes s .report
        { s.updateStatus (s.reported status).1 (s.reported status).2 with
          loop := if (s.reported status).1 = .disabled
            then .stop execStart .clearAlive (s.reported status).2 else .beginWait execStart }
  | loopStop {execStart block errorMsg} (place : s.loop = .stop execStart block errorMsg) :
      Takes s (.loopStop block)
        { s.stopKeepAliveThread errorMsg block with loop := afterStop execStart errorMsg block }
  | beginWait {execStart now} (place : s.loop = .beginWait execStart) :
      Takes s (.beginWait now) { s with loop := .waiting (s.rpcInterval - (now - execStart)) }
  | wake {waitTime} (place : s.loop = .waiting waitTime) :
      Takes s .wake { s with loop := .test }

variable {chain} {s t : EstopKeepAlive} {e : KeepAliveEvent} {h : List KeepAliveEvent}

theorem step_cases (hstep : StepOf (step chain) s e t) : Takes chain s e t := by
  unfold StepOf step at hstep
  split at hstep
  case h_1 => exact Option.some.inj hstep ▸ .setStopLevel
  case h_2 => exact Option.some.inj hstep ▸ .stopBlock
  case h_3 execStart loop => exact Option.some.inj hstep ▸ .test loop
  case h_4 execStart outcome loop => exact Option.some.inj hstep ▸ .checkIn loop
  case h_5 execStart status loop => exact Option.some.inj hstep ▸ .report loop
  case h_6 execStart block errorMsg next loop =>
    split_ifs at hstep with same
    subst same
    exact Option.some.inj hstep ▸ .loopStop loop
  case h_7 execStart now loop => exact Option.some.inj hstep ▸ .beginWait loop
  case h_8 waitTime loop => exact Option.some.inj hstep ▸ .wake loop
  case h_9 => cases hstep

/-! ## What the helpers leave alone -/

@[simp] theorem updateStatus_threadIsAlive (status : EstopKeepAliveStatus) (msg : String) :
    (s.updateStatus status msg).threadIsAlive = s.threadIsAlive := by
  unfold updateStatus
  split <;> rfl

@[simp] theorem updateStatus_desiredStopLevel (status : EstopKeepAliveStatus) (msg : String) :
    (s.updateStatus status msg).desiredStopLevel = s.desiredStopLevel := by
  unfold updateStatus
  split <;> rfl

@[simp] theorem updateStatus_checkIns (status : EstopKeepAliveStatus) (msg : String) :
    (s.updateStatus status msg).checkIns = s.checkIns := by
  unfold updateStatus
  split <;> rfl

@[simp] theorem updateStatus_loop (status : EstopKeepAliveStatus) (msg : String) :
    (s.updateStatus status msg).loop = s.loop := by
  unfold updateStatus
  split <;> rfl

@[simp] theorem notifyOne_threadIsAlive : s.notifyOne.threadIsAlive = s.threadIsAlive := by
  unfold notifyOne
  split <;> rfl

@[simp] theorem notifyOne_desiredStopLevel :
    s.notifyOne.desiredStopLevel = s.desiredStopLevel := by
  unfold notifyOne
  split <;> rfl

@[simp] theorem notifyOne_checkIns : s.notifyOne.checkIns = s.checkIns := by
  unfold notifyOne
  split <;> rfl

@[simp] theorem notifyOne_hasCheckedIn :
    s.notifyOne.loop.hasCheckedIn = s.loop.hasCheckedIn := by
  unfold notifyOne
  split
  case h_1 loop => rw [loop]; rfl
  case h_2 => rfl

/-- Nobody waits after a signal. -/
@[simp] theorem notifyOne_isWaiting : s.notifyOne.loop.isWaiting = false := by
  unfold notifyOne
  split
  case h_1 => rfl
  case h_2 other =>
    cases loop : s.loop with
    | waiting waitTime => exact absurd loop (other waitTime)
    | _ => rfl

@[simp] theorem setStopLevel_threadIsAlive (level : EstopStopLevel) :
    (s.setStopLevel level).threadIsAlive = s.threadIsAlive := by
  unfold setStopLevel
  split <;> simp

@[simp] theorem setStopLevel_desiredStopLevel (level : EstopStopLevel) :
    (s.setStopLevel level).desiredStopLevel = level := by
  unfold setStopLevel
  split <;> simp_all

@[simp] theorem setStopLevel_checkIns (level : EstopStopLevel) :
    (s.setStopLevel level).checkIns = s.checkIns := by
  unfold setStopLevel
  split <;> simp

@[simp] theorem stopKeepAliveThread_desiredStopLevel (msg : String) (block : StopBlock) :
    (s.stopKeepAliveThread msg block).desiredStopLevel = s.desiredStopLevel := by
  cases block <;> simp [stopKeepAliveThread]

@[simp] theorem stopKeepAliveThread_checkIns (msg : String) (block : StopBlock) :
    (s.stopKeepAliveThread msg block).checkIns = s.checkIns := by
  cases block <;> simp [stopKeepAliveThread]

@[simp] theorem stopKeepAliveThread_threadIsAlive (msg : String) (block : StopBlock) :
    (s.stopKeepAliveThread msg block).threadIsAlive =
      (s.threadIsAlive && block != .clearAlive) := by
  cases block <;> simp [stopKeepAliveThread]

@[simp] theorem setStopLevel_hasCheckedIn (level : EstopStopLevel) :
    (s.setStopLevel level).loop.hasCheckedIn = s.loop.hasCheckedIn := by
  unfold setStopLevel
  split
  · rfl
  · exact notifyOne_hasCheckedIn

@[simp] theorem stopKeepAliveThread_hasCheckedIn (msg : String) (block : StopBlock) :
    (s.stopKeepAliveThread msg block).loop.hasCheckedIn = s.loop.hasCheckedIn := by
  cases block <;> simp [stopKeepAliveThread]

theorem checkIn_sent (outcome : CheckInOutcome) :
    (s.checkIn chain outcome).1.sent = some s.desiredStopLevel := by
  simp [checkIn, sent, EstopEndpoint.checkInAtLevel]

end EstopKeepAlive

end SpotSdk.Client
