import Mathlib.Tactic.Linarith
import SpotSdk.Lease.LeaseProcessors
import SpotSdk.Power.PollingLoop

/-!
# Powering the robot off

`SafePowerOffRobot` and `SafePowerCycleRobot` first have the robot sit and power off its
motors, and only then cut the power of its computers. Each helper waits for the robot in
its own polling loop.
-/

namespace SpotSdk.Client

open Common

/-! ## The RPCs -/

structure RobotCommandResponse where
  header : ResponseHeader := {}
  leaseUseResult : Option LeaseUseResult := none
  status : Int := 0
  deriving DecidableEq, Repr, Inhabited

/-- Of the state of the robot, only that of its motors. -/
structure RobotStateResponse where
  motorPowerState : Int := 0
  deriving DecidableEq, Repr

structure PowerCommandResponse where
  header : ResponseHeader := {}
  leaseUseResult : Option LeaseUseResult := none
  status : Int := 0
  powerCommandId : UInt32 := 0
  deriving DecidableEq, Repr, Inhabited

structure PowerCommandFeedbackResponse where
  status : Int := 0
  deriving DecidableEq, Repr

namespace PowerState

def stateOff : Int := 1

end PowerState

namespace PowerCommandStatus

def statusInProgress : Int := 1

def statusSuccess : Int := 2

end PowerCommandStatus

namespace PowerCommandRequest

def requestOffRobot : Int := 3

def requestCycleRobot : Int := 4

end PowerCommandRequest

open PowerState PowerCommandStatus PowerCommandRequest

def robotCommandStatusCategory : ErrorCategory := ⟨"RobotCommandResponse_Status", [1]⟩

def powerCommandStatusCategory : ErrorCategory := ⟨"PowerCommandStatus", [1, 2]⟩

/-- The status made of a power command status. -/
def powerCommandStatus (status : Int) : Status :=
  ⟨⟨powerCommandStatusCategory, status⟩, ""⟩

/-- The completion of a command, over the fields of its response. -/
def onCommandComplete {M : Type*} (header : M → ResponseHeader)
    (leaseUseResult : M → Option LeaseUseResult) (code : M → ErrorCode)
    (chain : List (ResponseProcessor M)) (wallet : LeaseWallet) (response : M)
    (status : GrpcStatus) : LeaseWallet × Result M :=
  let (wallet, retStatus) :=
    processResponseWithLeaseAndGetFinalStatus chain status (header response) response
      (code response) wallet (leaseUseResult response)
  (wallet, ⟨retStatus, response⟩)

/-- `RobotCommandClient::OnRobotCommandComplete`. -/
def onRobotCommandComplete : List (ResponseProcessor RobotCommandResponse) → LeaseWallet →
    RobotCommandResponse → GrpcStatus → LeaseWallet × Result RobotCommandResponse :=
  onCommandComplete RobotCommandResponse.header RobotCommandResponse.leaseUseResult
    fun response => ⟨robotCommandStatusCategory, response.status⟩

/-- `PowerClient::OnPowerCommandComplete`. -/
def onPowerCommandComplete : List (ResponseProcessor PowerCommandResponse) → LeaseWallet →
    PowerCommandResponse → GrpcStatus → LeaseWallet × Result PowerCommandResponse :=
  onCommandComplete PowerCommandResponse.header PowerCommandResponse.leaseUseResult
    fun response => ⟨powerCommandStatusCategory, response.status⟩

/-- How the RPC of a command goes: the processors and the wallet of its client when it
completes, and its end. -/
structure CommandRpc (M : Type*) where
  chain : List (ResponseProcessor M)
  wallet : LeaseWallet
  outcome : RpcOutcome M

/-- What the promise of a command is given, over its completion. -/
def CommandRpc.result {M : Type*} [Inhabited M]
    (onComplete : List (ResponseProcessor M) → LeaseWallet → M → GrpcStatus →
      LeaseWallet × Result M) (rpc : CommandRpc M) : Result M :=
  match rpc.outcome with
  | .notSent status _ => ⟨status, default⟩
  | .failed status _ => (onComplete rpc.chain rpc.wallet default status).2
  | .answered response => (onComplete rpc.chain rpc.wallet response {}).2

def robotCommandResult (rpc : CommandRpc RobotCommandResponse) : Result RobotCommandResponse :=
  rpc.result onRobotCommandComplete

def powerCommandResult (rpc : CommandRpc PowerCommandResponse) : Result PowerCommandResponse :=
  rpc.result onPowerCommandComplete

/-! ## The helpers -/

/-- The frequency that the helpers assert not to be zero. -/
abbrev UpdateFrequency := { frequency : ℚ // frequency ≠ 0 }

/-- The calls of the helpers, in their order. -/
inductive PowerEvent
  | safePowerOff
  | robotCommandResult (result : Result RobotCommandResponse)
  | robotState (event : PollEvent RobotStateResponse)
  | powerCommand (request : Int)
  | powerCommandResult (result : Result PowerCommandResponse)
  | powerCommandFeedback (id : UInt32) (event : PollEvent PowerCommandFeedbackResponse)

/-- What `SafePowerOffMotors` reads from the clock and receives from the robot. -/
structure MotorsOffWorld where
  startClock : Int
  command : CommandRpc RobotCommandResponse
  turns : List (PollTurn RobotStateResponse)

/-- What `PowerCommand` reads and receives. It does not read the clock when its command is
answered: that time is only for the statements below. -/
structure PowerCommandWorld where
  startClock : Int
  command : CommandRpc PowerCommandResponse
  answeredAt : Int
  turns : List (PollTurn PowerCommandFeedbackResponse)

/-- What `SafePowerOffRobot` and `SafePowerCycleRobot` read and receive. -/
structure SafePowerWorld where
  startClock : Int
  motorsClock : Int
  motors : MotorsOffWorld
  powerClock : Int
  power : PowerCommandWorld

/-- The deadline of a helper that began at a reading of the clock. -/
def helperEndTime (startClock timeout : Int) : ℚ :=
  nsecToSec startClock + nsecToSec timeout

/-- What `SafePowerOffMotors` makes of a state of the robot. -/
def onRobotState (robotState : Result RobotStateResponse) : Option Status :=
  if !robotState.ok then some robotState.status
  else if robotState.response.motorPowerState = stateOff then
    some ⟨SDKErrorCode.success.code, ""⟩
  else none

/-- `SafePowerOffMotors`. -/
def safePowerOffMotors (timeout : Int) (updateFrequency : UpdateFrequency)
    (world : MotorsOffWorld) : HelperRun PowerEvent :=
  let updateTime := 1 / updateFrequency.val
  let result := robotCommandResult world.command
  if !result.ok then ⟨[.safePowerOff, .robotCommandResult result], some result.status⟩
  else
    let polled := pollUntil (helperEndTime world.startClock timeout) updateTime onRobotState
      world.turns
    ⟨.safePowerOff :: .robotCommandResult result :: polled.events.map .robotState,
      polled.status⟩

/-- What `PowerCommand` makes of feedback. -/
def onPowerFeedback (feedback : Result PowerCommandFeedbackResponse) : Option Status :=
  if !feedback.ok then some feedback.status
  else if feedback.response.status = statusSuccess then some ⟨SDKErrorCode.success.code, ""⟩
  else if feedback.response.status ≠ statusInProgress then
    some (powerCommandStatus feedback.response.status)
  else none

/-- `PowerCommand`. -/
def powerCommand (request timeout : Int) (updateFrequency : UpdateFrequency)
    (world : PowerCommandWorld) : HelperRun PowerEvent :=
  let updateTime := 1 / updateFrequency.val
  let result := powerCommandResult world.command
  if !result.ok then
    ⟨[.powerCommand request, .powerCommandResult result], some result.status⟩
  else if result.response.status = statusSuccess then
    ⟨[.powerCommand request, .powerCommandResult result],
      some ⟨SDKErrorCode.success.code, ""⟩⟩
  else
    let powerCommandId := result.response.powerCommandId
    let polled := pollUntil (helperEndTime world.startClock timeout) updateTime onPowerFeedback
      world.turns
    ⟨.powerCommand request :: .powerCommandResult result ::
        polled.events.map (.powerCommandFeedback powerCommandId),
      polled.status⟩

def powerOffRobot : Int → UpdateFrequency → PowerCommandWorld → HelperRun PowerEvent :=
  powerCommand requestOffRobot

def powerCycleRobot : Int → UpdateFrequency → PowerCommandWorld → HelperRun PowerEvent :=
  powerCommand requestCycleRobot

/-- The motors first, then the command, each with the time that is left for it. -/
def safePower (command : Int → UpdateFrequency → PowerCommandWorld → HelperRun PowerEvent)
    (timeout : Int) (updateFrequency : UpdateFrequency) (world : SafePowerWorld) :
    HelperRun PowerEvent :=
  let endTime := world.startClock + timeout
  let motors := safePowerOffMotors (endTime - world.motorsClock) updateFrequency world.motors
  match motors.status with
  | none => motors
  | some safePowerOffStatus =>
      if !safePowerOffStatus.ok then motors
      else
        let power := command (endTime - world.powerClock) updateFrequency world.power
        ⟨motors.events ++ power.events, power.status⟩

/-- `SafePowerOffRobot`. -/
def safePowerOffRobot : Int → UpdateFrequency → SafePowerWorld → HelperRun PowerEvent :=
  safePower powerOffRobot

/-- `SafePowerCycleRobot`. -/
def safePowerCycleRobot : Int → UpdateFrequency → SafePowerWorld → HelperRun PowerEvent :=
  safePower powerCycleRobot

/-! ## What the helpers promise -/

/-- The robot answered well and reports its motors off. -/
def ReportsOff (state : Result RobotStateResponse) : Prop :=
  state.ok = true ∧ state.response.motorPowerState = stateOff

/-- The robot answered well and reports a status of the command. -/
def CommandReports (status : Int) (result : Result PowerCommandResponse) : Prop :=
  result.ok = true ∧ result.response.status = status

def FeedbackReports (status : Int) (result : Result PowerCommandFeedbackResponse) : Prop :=
  result.ok = true ∧ result.response.status = status

/-- The robot accepted a safe power off, and later answered a request for its state that
was sent after that, reporting its motors off. -/
def MotorsSeenOff (events : List PowerEvent) : Prop :=
  ∃ (before : List PowerEvent) (result : Result RobotCommandResponse)
      (between : List PowerEvent) (state : Result RobotStateResponse) (after : List PowerEvent),
    events = before ++ .safePowerOff :: .robotCommandResult result ::
      (between ++ .robotState .request :: .robotState (.received state) :: after) ∧
    result.ok = true ∧ ReportsOff state

/-- Every power command is the given one, and comes after the motors were seen off. -/
def OnlyAfterMotorsOff (request : Int) (events : List PowerEvent) : Prop :=
  ∀ before issued after, events = before ++ .powerCommand issued :: after →
    issued = request ∧ MotorsSeenOff before

section Promises

variable (timeout : Int) (updateFrequency : UpdateFrequency)

/-- The robot computers lose their power only after the motors, and the helpers succeed
exactly on the responses that their polls receive. -/
structure PowersSafely : Prop where
  offOrdered : ∀ world, OnlyAfterMotorsOff requestOffRobot
    (safePowerOffRobot timeout updateFrequency world).events
  cycleOrdered : ∀ world, OnlyAfterMotorsOff requestCycleRobot
    (safePowerCycleRobot timeout updateFrequency world).events
  motorsOff : ∀ world, (safePowerOffMotors timeout updateFrequency world).Succeeds ↔
    (robotCommandResult world.command).ok = true ∧
      ReceivedAmong (PollTurn.Receives (helperEndTime world.startClock timeout)) ReportsOff
        (fun state => state.ok = true) world.turns
  commanded : ∀ request world, (powerCommand request timeout updateFrequency world).Succeeds ↔
    CommandReports statusSuccess (powerCommandResult world.command) ∨
      CommandReports statusInProgress (powerCommandResult world.command) ∧
        ReceivedAmong (PollTurn.Receives (helperEndTime world.startClock timeout))
          (FeedbackReports statusSuccess) (FeedbackReports statusInProgress) world.turns

/-- `SafePowerOffMotors` succeeds exactly on a response before its deadline. -/
def MotorsOffByDeadline (world : MotorsOffWorld) : Prop :=
  (safePowerOffMotors timeout updateFrequency world).Succeeds ↔
    (robotCommandResult world.command).ok = true ∧
      ReceivedAmong (PollTurn.ReceivesBefore (helperEndTime world.startClock timeout)) ReportsOff
        (fun state => state.ok = true) world.turns

/-- `PowerCommand` succeeds exactly on a response before its deadline. -/
def CommandedByDeadline (request : Int) (world : PowerCommandWorld) : Prop :=
  (powerCommand request timeout updateFrequency world).Succeeds ↔
    nsecToSec world.answeredAt < helperEndTime world.startClock timeout ∧
      (CommandReports statusSuccess (powerCommandResult world.command) ∨
        CommandReports statusInProgress (powerCommandResult world.command) ∧
          ReceivedAmong (PollTurn.ReceivesBefore (helperEndTime world.startClock timeout))
            (FeedbackReports statusSuccess) (FeedbackReports statusInProgress) world.turns)

end Promises

/-! ## Answers to the commands -/

section Answers

variable {M : Type*} [Inhabited M] {header : M → ResponseHeader}
  {leaseUseResult : M → Option LeaseUseResult} {code : M → ErrorCode} {rpc : CommandRpc M}

/-- A command succeeds when the robot answered it, with an accepted response, a lease used
well and a successful status. -/
theorem CommandRpc.answered_of_ok
    (h : (rpc.result (onCommandComplete header leaseUseResult code)).ok = true) :
    ∃ response, rpc.outcome = .answered response ∧
      (rpc.result (onCommandComplete header leaseUseResult code)).response = response ∧
      Accepts rpc.chain {} (header response) response ∧
      (∀ used, leaseUseResult response = some used → used.status = .ok) ∧
      (Status.mk (code response) "").ok = true := by
  unfold result at h ⊢
  cases outcome : rpc.outcome with
  | notSent status failed =>
      rw [outcome] at h
      exact absurd h (by simp [Result.ok, failed])
  | failed status failed =>
      rw [outcome] at h
      obtain ⟨accepted, _⟩ := finalStatusWithLease_ok_iff.mp h
      exact absurd accepted.1 (by simp [failed])
  | answered response =>
      rw [outcome] at h
      obtain ⟨accepted, used, ok⟩ := finalStatusWithLease_ok_iff.mp h
      exact ⟨response, rfl, rfl, accepted, used, ok⟩

end Answers

@[simp] theorem powerCommandStatus_ok_iff (status : Int) :
    (powerCommandStatus status).ok = true ↔
      status = statusInProgress ∨ status = statusSuccess := by
  simp [powerCommandStatus, Status.ok, powerCommandStatusCategory, statusInProgress,
    statusSuccess]

/-- A power command whose RPC succeeds is done or in progress. -/
theorem powerCommandResult_status {rpc : CommandRpc PowerCommandResponse}
    (h : (powerCommandResult rpc).ok = true) :
    (powerCommandResult rpc).response.status = statusInProgress ∨
      (powerCommandResult rpc).response.status = statusSuccess := by
  obtain ⟨response, _, same, _, _, ok⟩ := CommandRpc.answered_of_ok h
  rw [powerCommandResult, onPowerCommandComplete, same]
  exact (powerCommandStatus_ok_iff response.status).mp ok

/-! ## The two loops -/

section RobotState

variable {state : Result RobotStateResponse}

theorem onRobotState_of_failed (failed : state.ok = false) :
    onRobotState state = some state.status := by
  simp [onRobotState, failed]

theorem onRobotState_of_off (off : ReportsOff state) :
    onRobotState state = some ⟨SDKErrorCode.success.code, ""⟩ := by
  simp [onRobotState, off.1, off.2]

theorem onRobotState_of_on (answered : state.ok = true) (on : ¬ ReportsOff state) :
    onRobotState state = none := by
  have notOff : state.response.motorPowerState ≠ stateOff := fun off => on ⟨answered, off⟩
  simp [onRobotState, answered, notOff]

/-- `SafePowerOffMotors` waits for a state with the motors off. -/
theorem onRobotState_decides :
    Decides onRobotState ReportsOff (fun state => state.ok = true) where
  success state off := ⟨_, onRobotState_of_off off, rfl⟩
  only state status decided ok := by
    cases answered : state.ok with
    | false =>
        rw [onRobotState_of_failed answered] at decided
        obtain rfl := Option.some.inj decided
        exact absurd (answered.symm.trans ok) Bool.false_ne_true
    | true =>
        by_contra on
        rw [onRobotState_of_on answered on] at decided
        cases decided
  passes state undecided := by
    by_contra failed
    rw [onRobotState_of_failed (Bool.eq_false_iff.mpr failed)] at undecided
    cases undecided
  goesOn state := onRobotState_of_on

end RobotState

section PowerFeedback

variable {feedback : Result PowerCommandFeedbackResponse}

theorem onPowerFeedback_of_failed (failed : feedback.ok = false) :
    onPowerFeedback feedback = some feedback.status := by
  simp [onPowerFeedback, failed]

theorem onPowerFeedback_of_done (done : FeedbackReports statusSuccess feedback) :
    onPowerFeedback feedback = some ⟨SDKErrorCode.success.code, ""⟩ := by
  simp [onPowerFeedback, done.1, done.2]

theorem onPowerFeedback_of_going (going : FeedbackReports statusInProgress feedback) :
    onPowerFeedback feedback = none := by
  have notDone : statusInProgress ≠ statusSuccess := by decide
  simp [onPowerFeedback, going.1, going.2, notDone]

/-- A terminal status is returned as it is. -/
theorem onPowerFeedback_of_terminal (answered : feedback.ok = true)
    (notDone : feedback.response.status ≠ statusSuccess)
    (notGoing : feedback.response.status ≠ statusInProgress) :
    onPowerFeedback feedback = some (powerCommandStatus feedback.response.status) := by
  simp [onPowerFeedback, answered, notDone, notGoing]

/-- What feedback makes of the loop, by its status. -/
theorem onPowerFeedback_cases (feedback : Result PowerCommandFeedbackResponse) :
    FeedbackReports statusSuccess feedback ∨ FeedbackReports statusInProgress feedback ∨
      ∃ status, onPowerFeedback feedback = some status ∧ status.ok = false := by
  cases answered : feedback.ok with
  | false => exact .inr (.inr ⟨feedback.status, onPowerFeedback_of_failed answered, answered⟩)
  | true =>
      by_cases done : feedback.response.status = statusSuccess
      · exact .inl ⟨answered, done⟩
      by_cases going : feedback.response.status = statusInProgress
      · exact .inr (.inl ⟨answered, going⟩)
      · refine .inr (.inr ⟨_, onPowerFeedback_of_terminal answered done going, ?_⟩)
        rw [Bool.eq_false_iff, ne_eq, powerCommandStatus_ok_iff]
        exact fun known => known.elim going done

/-- `PowerCommand` waits for feedback that its command is done. -/
theorem onPowerFeedback_decides :
    Decides onPowerFeedback (FeedbackReports statusSuccess)
      (FeedbackReports statusInProgress) where
  success feedback done := ⟨_, onPowerFeedback_of_done done, rfl⟩
  only feedback status decided ok := by
    rcases onPowerFeedback_cases feedback with done | going | ⟨other, terminal, failed⟩
    · exact done
    · rw [onPowerFeedback_of_going going] at decided
      cases decided
    · obtain rfl := Option.some.inj (terminal.symm.trans decided)
      exact absurd (failed.symm.trans ok) Bool.false_ne_true
  passes feedback undecided := by
    rcases onPowerFeedback_cases feedback with done | going | ⟨other, terminal, _⟩
    · rw [onPowerFeedback_of_done done] at undecided
      cases undecided
    · exact going
    · rw [terminal] at undecided
      cases undecided
  goesOn feedback going _ := onPowerFeedback_of_going going

end PowerFeedback

/-! ## The helpers as a whole -/

section Helpers

variable {timeout : Int} {updateFrequency : UpdateFrequency}

/-- The loop of `SafePowerOffMotors`. -/
def MotorsOffWorld.polled (timeout : Int) (updateFrequency : UpdateFrequency)
    (world : MotorsOffWorld) : HelperRun (PollEvent RobotStateResponse) :=
  pollUntil (helperEndTime world.startClock timeout) (1 / updateFrequency.val) onRobotState
    world.turns

/-- The loop of `PowerCommand`. -/
def PowerCommandWorld.polled (timeout : Int) (updateFrequency : UpdateFrequency)
    (world : PowerCommandWorld) : HelperRun (PollEvent PowerCommandFeedbackResponse) :=
  pollUntil (helperEndTime world.startClock timeout) (1 / updateFrequency.val)
    onPowerFeedback world.turns

section Motors

variable {world : MotorsOffWorld}

theorem safePowerOffMotors_of_refused (refused : (robotCommandResult world.command).ok = false) :
    safePowerOffMotors timeout updateFrequency world =
      ⟨[.safePowerOff, .robotCommandResult (robotCommandResult world.command)],
        some (robotCommandResult world.command).status⟩ := by
  simp [safePowerOffMotors, refused]

theorem safePowerOffMotors_of_accepted
    (accepted : (robotCommandResult world.command).ok = true) :
    safePowerOffMotors timeout updateFrequency world =
      ⟨.safePowerOff :: .robotCommandResult (robotCommandResult world.command) ::
          (world.polled timeout updateFrequency).events.map .robotState,
        (world.polled timeout updateFrequency).status⟩ := by
  simp [safePowerOffMotors, accepted, MotorsOffWorld.polled]

theorem safePowerOffMotors_succeeds_iff :
    (safePowerOffMotors timeout updateFrequency world).Succeeds ↔
      (robotCommandResult world.command).ok = true ∧
        ReceivedAmong (PollTurn.Receives (helperEndTime world.startClock timeout)) ReportsOff
          (fun state => state.ok = true) world.turns := by
  cases accepted : (robotCommandResult world.command).ok with
  | false =>
      rw [safePowerOffMotors_of_refused accepted]
      apply iff_of_false
      · exact HelperRun.not_succeeds _ accepted
      · exact fun h => absurd h.1 Bool.false_ne_true
  | true =>
      rw [safePowerOffMotors_of_accepted accepted, ← pollUntil_succeeds_iff onRobotState_decides]
      exact (and_iff_right rfl).symm

theorem MotorsSeenOff.append {events : List PowerEvent} (h : MotorsSeenOff events)
    (later : List PowerEvent) : MotorsSeenOff (events ++ later) := by
  obtain ⟨before, result, between, state, after, rfl, accepted, off⟩ := h
  exact ⟨before, result, between, state, after ++ later, by simp, accepted, off⟩

/-- `SafePowerOffMotors` succeeds only after the motors were seen off. -/
theorem safePowerOffMotors_seenOff
    (h : (safePowerOffMotors timeout updateFrequency world).Succeeds) :
    MotorsSeenOff (safePowerOffMotors timeout updateFrequency world).events := by
  have accepted := (safePowerOffMotors_succeeds_iff.mp h).1
  rw [safePowerOffMotors_of_accepted accepted] at h ⊢
  obtain ⟨status, returned, ok⟩ := h
  obtain ⟨before, state, events, decided⟩ := pollUntil_success_received returned ok
  have off : ReportsOff state := onRobotState_decides.only state status decided ok
  refine ⟨[], robotCommandResult world.command, before.map .robotState, state, [], ?_,
    accepted, off⟩
  simp [MotorsOffWorld.polled, -one_div, events]

/-- `SafePowerOffMotors` sends no power command. -/
theorem safePowerOffMotors_quiet (request : Int) :
    .powerCommand request ∉ (safePowerOffMotors timeout updateFrequency world).events := by
  cases accepted : (robotCommandResult world.command).ok with
  | false => simp [safePowerOffMotors_of_refused accepted]
  | true => simp [safePowerOffMotors_of_accepted accepted]

end Motors

section Command

variable {request issued : Int} {world : PowerCommandWorld}

theorem powerCommand_of_failed (failed : (powerCommandResult world.command).ok = false) :
    powerCommand request timeout updateFrequency world =
      ⟨[.powerCommand request, .powerCommandResult (powerCommandResult world.command)],
        some (powerCommandResult world.command).status⟩ := by
  simp [powerCommand, failed]

theorem powerCommand_of_done
    (done : CommandReports statusSuccess (powerCommandResult world.command)) :
    powerCommand request timeout updateFrequency world =
      ⟨[.powerCommand request, .powerCommandResult (powerCommandResult world.command)],
        some ⟨SDKErrorCode.success.code, ""⟩⟩ := by
  simp [powerCommand, done.1, done.2]

theorem powerCommand_of_going
    (going : CommandReports statusInProgress (powerCommandResult world.command)) :
    powerCommand request timeout updateFrequency world =
      ⟨.powerCommand request :: .powerCommandResult (powerCommandResult world.command) ::
          (world.polled timeout updateFrequency).events.map
            (.powerCommandFeedback (powerCommandResult world.command).response.powerCommandId),
        (world.polled timeout updateFrequency).status⟩ := by
  have notDone : statusInProgress ≠ statusSuccess := by decide
  simp [powerCommand, going.1, going.2, notDone, PowerCommandWorld.polled]

/-- The command fails, or the robot answers that it is done or in progress. -/
theorem powerCommandResult_cases (rpc : CommandRpc PowerCommandResponse) :
    (powerCommandResult rpc).ok = false ∨
      CommandReports statusInProgress (powerCommandResult rpc) ∨
        CommandReports statusSuccess (powerCommandResult rpc) := by
  cases answered : (powerCommandResult rpc).ok with
  | false => exact .inl rfl
  | true =>
      rcases powerCommandResult_status answered with going | done
      · exact .inr (.inl ⟨answered, going⟩)
      · exact .inr (.inr ⟨answered, done⟩)

theorem powerCommand_succeeds_iff :
    (powerCommand request timeout updateFrequency world).Succeeds ↔
      CommandReports statusSuccess (powerCommandResult world.command) ∨
        CommandReports statusInProgress (powerCommandResult world.command) ∧
          ReceivedAmong (PollTurn.Receives (helperEndTime world.startClock timeout))
            (FeedbackReports statusSuccess) (FeedbackReports statusInProgress)
            world.turns := by
  rcases powerCommandResult_cases world.command with failed | going | done
  · rw [powerCommand_of_failed failed]
    have silent (status : Int) : ¬ CommandReports status (powerCommandResult world.command) :=
      fun reports => absurd (failed.symm.trans reports.1) Bool.false_ne_true
    apply iff_of_false
    · exact HelperRun.not_succeeds _ failed
    · rintro (done | ⟨going, _⟩)
      · exact silent _ done
      · exact silent _ going
  · rw [powerCommand_of_going going, ← pollUntil_succeeds_iff onPowerFeedback_decides]
    have notDone : ¬ CommandReports statusSuccess (powerCommandResult world.command) :=
      fun done => absurd (going.2.symm.trans done.2) (by decide)
    rw [or_iff_right notDone, and_iff_right going]
    rfl
  · rw [powerCommand_of_done done]
    exact iff_of_true ⟨_, rfl, rfl⟩ (.inl done)

/-- `PowerCommand` sends its own request and no other. -/
theorem powerCommand_request
    (sent : .powerCommand issued ∈ (powerCommand request timeout updateFrequency world).events) :
    issued = request := by
  rcases powerCommandResult_cases world.command with failed | going | done
  · simpa [powerCommand_of_failed failed] using sent
  · simpa [powerCommand_of_going going] using sent
  · simpa [powerCommand_of_done done] using sent

end Command

section SafePower

variable {command : Int → UpdateFrequency → PowerCommandWorld → HelperRun PowerEvent}
  {world : SafePowerWorld}

/-- How `SafePowerOffMotors` runs in the helpers that start with it. -/
def SafePowerWorld.motorsRun (timeout : Int) (updateFrequency : UpdateFrequency)
    (world : SafePowerWorld) : HelperRun PowerEvent :=
  safePowerOffMotors (world.startClock + timeout - world.motorsClock) updateFrequency
    world.motors

/-- A helper that does not succeed with the motors goes no further. -/
theorem safePower_of_not_succeeds
    (h : ¬ (world.motorsRun timeout updateFrequency).Succeeds) :
    safePower command timeout updateFrequency world =
      world.motorsRun timeout updateFrequency := by
  unfold SafePowerWorld.motorsRun at h ⊢
  simp only [safePower]
  split
  · rfl
  · next status returned =>
    have failed : status.ok = false := Bool.eq_false_iff.mpr fun ok => h ⟨status, returned, ok⟩
    simp [failed]

theorem safePower_of_succeeds (h : (world.motorsRun timeout updateFrequency).Succeeds) :
    (safePower command timeout updateFrequency world).events =
      (world.motorsRun timeout updateFrequency).events ++
        (command (world.startClock + timeout - world.powerClock) updateFrequency
          world.power).events := by
  obtain ⟨status, returned, ok⟩ := h
  unfold SafePowerWorld.motorsRun at returned ⊢
  simp [safePower, returned, ok]

/-- The command of a helper that powers the motors off first comes after that. -/
theorem safePower_ordered (request : Int) (world : SafePowerWorld) :
    OnlyAfterMotorsOff request
      (safePower (powerCommand request) timeout updateFrequency world).events := by
  intro before issued after split
  have sent : .powerCommand issued ∈
      (safePower (powerCommand request) timeout updateFrequency world).events := by
    rw [split]
    simp
  have quiet : .powerCommand issued ∉ (world.motorsRun timeout updateFrequency).events :=
    safePowerOffMotors_quiet issued
  by_cases h : (world.motorsRun timeout updateFrequency).Succeeds
  · have seenOff : MotorsSeenOff (world.motorsRun timeout updateFrequency).events :=
      safePowerOffMotors_seenOff h
    rw [safePower_of_succeeds h] at split sent
    refine ⟨powerCommand_request ((List.mem_append.mp sent).resolve_left quiet), ?_⟩
    rcases List.append_eq_append_iff.mp split with ⟨first, rfl, _⟩ | ⟨rest, motors, later⟩
    · exact seenOff.append first
    · cases rest with
      | nil =>
          rw [List.append_nil] at motors
          exact motors ▸ seenOff
      | cons first rest =>
          -- The power command would be one of the first helper's calls.
          obtain ⟨rfl, _⟩ := List.cons.inj later
          exact absurd (motors ▸ by simp) quiet
  · rw [safePower_of_not_succeeds h] at sent
    exact absurd sent quiet

end SafePower

/-- The helpers keep their promises in every run. -/
theorem powersSafely (timeout : Int) (updateFrequency : UpdateFrequency) :
    PowersSafely timeout updateFrequency where
  offOrdered := safePower_ordered requestOffRobot
  cycleOrdered := safePower_ordered requestCycleRobot
  motorsOff _ := safePowerOffMotors_succeeds_iff
  commanded _ _ := powerCommand_succeeds_iff

end Helpers

/-! ## Answers after the deadline -/

def oneSecond : Int := 1000000000

def oncePerSecond : UpdateFrequency := ⟨1, by decide⟩

/-- The robot accepts the command to power off safely, and a poll that begins in time is
held up: its response reports the motors off, a tenth of a second after the deadline. -/
def lateState : MotorsOffWorld where
  startClock := 0
  command := ⟨[commonResponseProcessor], { clientName := "client" },
    .answered { header := ⟨⟨1, ""⟩⟩, status := 1 }⟩
  turns := [{
    loopClock := 900000000
    waitClock := 1100000000
    callClock := 1100000000
    response := some (0, ⟨⟨SDKErrorCode.success.code, ""⟩, ⟨stateOff⟩⟩)
    doneClock := 1100000000 }]

/-- The robot answers a power command after five seconds, and it is done. -/
def lateCommand : PowerCommandWorld where
  startClock := 0
  command := ⟨[commonResponseProcessor], { clientName := "client" },
    .answered { header := ⟨⟨1, ""⟩⟩, status := statusSuccess }⟩
  answeredAt := 5000000000
  turns := []

theorem lateState_succeeds :
    (safePowerOffMotors oneSecond oncePerSecond lateState).Succeeds := by
  have received : PollTurn.Receives (helperEndTime lateState.startClock oneSecond)
      (lateState.turns.head (by decide)) ⟨⟨SDKErrorCode.success.code, ""⟩, ⟨stateOff⟩⟩ := by
    refine ⟨?_, 0, rfl, .inl le_rfl⟩
    norm_num [lateState, helperEndTime, nsecToSec, oneSecond]
  rw [safePowerOffMotors_succeeds_iff]
  refine ⟨by decide, receivedAmong_cons.mpr (.inl ⟨_, received, ?_⟩)⟩
  exact ⟨rfl, rfl⟩

/-- No response to `lateState` comes before the deadline. -/
theorem lateState_not_before {result : Result RobotStateResponse}
    {turn : PollTurn RobotStateResponse} (member : turn ∈ lateState.turns) :
    ¬ turn.ReceivesBefore (helperEndTime lateState.startClock oneSecond) result := by
  obtain rfl := List.mem_singleton.mp member
  rintro ⟨_, arrival, _, inTime⟩
  have early : (11 / 10 : ℚ) + max 0 arrival < 1 := by
    convert inTime using 1
    · norm_num [nsecToSec]
    · norm_num [lateState, helperEndTime, nsecToSec, oneSecond]
  linarith [le_max_left 0 arrival]

/-- Both helpers succeed with a response that comes after a deadline of one second. -/
theorem not_byDeadline_late :
    ¬ MotorsOffByDeadline oneSecond oncePerSecond lateState ∧
      ¬ CommandedByDeadline oneSecond oncePerSecond requestOffRobot lateCommand := by
  constructor
  · intro promise
    obtain ⟨_, before, turn, after, split, ⟨result, received, _⟩, _⟩ :=
      promise.mp lateState_succeeds
    exact lateState_not_before (split ▸ by simp) received
  · intro promise
    have succeeds :
        (powerCommand requestOffRobot oneSecond oncePerSecond lateCommand).Succeeds :=
      powerCommand_succeeds_iff.mpr (.inl ⟨by decide, rfl⟩)
    have inTime := (promise.mp succeeds).1
    norm_num [lateCommand, helperEndTime, nsecToSec, oneSecond] at inTime

end SpotSdk.Client
