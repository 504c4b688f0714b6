import SpotSdk.Foundations.Deadlines
import SpotSdk.RobotCommand.FeedbackPolling

/-!
# What the feedback helpers decide

A helper should poll on while its calls time out or its command is underway, and return at
the first feedback that is terminal, at the first other failure, or at the deadline. It does
unless a call that timed out brings a terminal response, as the empty one is for the arm, an
impedance command was cancelled, or the deadline wraps.
-/

namespace SpotSdk.Api

/-- What a feedback says of its command. -/
inductive CommandProgress
  | underway
  | goalReached
  | stalled
  | cancelled
  deriving DecidableEq, Repr

def ArmCartesianCommand.FeedbackStatus.progress :
    ArmCartesianCommand.FeedbackStatus → CommandProgress
  | trajectoryComplete => .goalReached
  | trajectoryStalled => .stalled
  | trajectoryCancelled => .cancelled
  | _ => .underway

def GazeCommand.FeedbackStatus.progress : GazeCommand.FeedbackStatus → CommandProgress
  | trajectoryComplete => .goalReached
  | toolTrajectoryStalled => .stalled
  | _ => .underway

def ArmImpedanceCommand.FeedbackStatus.progress :
    ArmImpedanceCommand.FeedbackStatus → CommandProgress
  | trajectoryComplete => .goalReached
  | trajectoryStalled => .stalled
  | trajectoryCancelled => .cancelled
  | _ => .underway

def ArmJointMoveCommand.FeedbackStatus.progress :
    ArmJointMoveCommand.FeedbackStatus → CommandProgress
  | complete => .goalReached
  | stalled => .stalled
  | _ => .underway

def NamedArmPositionsCommand.FeedbackStatus.progress :
    NamedArmPositionsCommand.FeedbackStatus → CommandProgress
  | complete => .goalReached
  | stalledHoldingItem => .stalled
  | _ => .underway

/-- How far a command of the arm is, if it is of a kind that is waited for. -/
def ArmFeedback.progress? : ArmFeedback → Option CommandProgress
  | armCartesianFeedback status => some status.progress
  | armJointMoveFeedback status => some status.progress
  | namedArmPositionFeedback status => some status.progress
  | armGazeFeedback status => some status.progress
  | armImpedanceFeedback status => some status.progress
  | armVelocityFeedback | armStopFeedback | armDragFeedback => none

def ClawGripperCommand.FeedbackStatus.progress :
    ClawGripperCommand.FeedbackStatus → CommandProgress
  | atGoal | applyingForce => .goalReached
  | _ => .underway

def StandCommand.FeedbackStatus.progress : StandCommand.FeedbackStatus → CommandProgress
  | isStanding => .goalReached
  | _ => .underway

def SE2TrajectoryCommand.FeedbackStatus.progress :
    SE2TrajectoryCommand.FeedbackStatus → CommandProgress
  | stopped => .goalReached
  | _ => .underway

end SpotSdk.Api

namespace SpotSdk.Client

open Foundations Common Api

namespace FeedbackHelper

/-- The status for a command that has come to its end. -/
def progressStatus : CommandProgress → Option Status
  | .underway => none
  | .goalReached => some commandSucceeded
  | .stalled | .cancelled => some commandFeedbackError

/-- The status that a feedback asks for, if it is terminal. -/
def decision : FeedbackHelper → RobotCommandFeedbackResponse → Option Status
  | armArrives, response =>
      match response.synchronizedFeedback.armCommandFeedback.bind ArmFeedback.progress? with
      | some progress => progressStatus progress
      | none => some unexpectedArmFeedback
  | gripperArrives, response => progressStatus response.clawGripperStatus.progress
  | standComplete, response => progressStatus response.standStatus.progress
  | se2TrajectoryComplete, response => progressStatus response.se2TrajectoryStatus.progress

/-- The feedback that the helper for the arm does not look for. -/
def Overlooks (helper : FeedbackHelper) (response : RobotCommandFeedbackResponse) : Prop :=
  helper = armArrives ∧
    response.synchronizedFeedback.armCommandFeedback =
      some (.armImpedanceFeedback .trajectoryCancelled)

variable {helper : FeedbackHelper} {response : RobotCommandFeedbackResponse}

theorem onFeedback_of_overlooks (overlooks : helper.Overlooks response) :
    helper.onFeedback response = none := by
  obtain ⟨rfl, cancelled⟩ := overlooks
  simp [onFeedback, onArmFeedback, cancelled]

theorem decision_of_overlooks (overlooks : helper.Overlooks response) :
    helper.decision response = some commandFeedbackError := by
  obtain ⟨rfl, cancelled⟩ := overlooks
  simp only [decision, cancelled]
  rfl

theorem onFeedback_eq_decision (seen : ¬ helper.Overlooks response) :
    helper.onFeedback response = helper.decision response := by
  cases helper with
  | armArrives =>
      unfold Overlooks at seen
      simp only [onFeedback, onArmFeedback, decision]
      cases kind : response.synchronizedFeedback.armCommandFeedback with
      | none => rfl
      | some feedback =>
          cases feedback with
          | armImpedanceFeedback status =>
              cases status with
              | trajectoryCancelled => exact absurd ⟨rfl, kind⟩ seen
              | _ => rfl
          | armCartesianFeedback status => cases status <;> rfl
          | armJointMoveFeedback status => cases status <;> rfl
          | namedArmPositionFeedback status => cases status <;> rfl
          | armGazeFeedback status => cases status <;> rfl
          | _ => rfl
  | gripperArrives =>
      simp only [onFeedback, onGripperFeedback, decision]
      cases response.clawGripperStatus <;> rfl
  | standComplete =>
      simp only [onFeedback, onStandFeedback, decision]
      cases response.standStatus <;> rfl
  | se2TrajectoryComplete =>
      simp only [onFeedback, onTrajectoryFeedback, decision]
      cases response.se2TrajectoryStatus <;> rfl

theorem progressStatus_code {progress : CommandProgress} {status : Status}
    (decided : progressStatus progress = some status) :
    status.code ≠ BlockingRobotCommandErrorCode.commandTimeoutError.code := by
  cases progress with
  | underway => cases decided
  | _ =>
      obtain rfl := Option.some.inj decided
      decide

/-- No feedback asks for the status of a late turn. -/
theorem decision_code {status : Status} (decided : helper.decision response = some status) :
    status.code ≠ BlockingRobotCommandErrorCode.commandTimeoutError.code := by
  cases helper with
  | armArrives =>
      rw [decision] at decided
      split at decided
      · exact progressStatus_code decided
      · obtain rfl := Option.some.inj decided
        decide
  | gripperArrives => exact progressStatus_code decided
  | standComplete => exact progressStatus_code decided
  | se2TrajectoryComplete => exact progressStatus_code decided

/-- A response without any feedback is terminal for the arm alone. -/
theorem decision_empty (helper : FeedbackHelper) :
    helper.decision {} = none ↔ helper ≠ armArrives := by
  cases helper with
  | armArrives => exact iff_of_false (Option.some_ne_none _) (absurd rfl)
  | _ => exact iff_of_true rfl FeedbackHelper.noConfusion

end FeedbackHelper

/-- The call of a turn failed because it timed out. -/
def FeedbackTurn.TimesOut (turn : FeedbackTurn) : Prop :=
  turn.result.ok = false ∧ turn.result.status.code = RPCErrorCode.timedOutError.code

/-- The call of a turn failed in another way. -/
def FeedbackTurn.Fails (turn : FeedbackTurn) : Prop :=
  turn.result.ok = false ∧ turn.result.status.code ≠ RPCErrorCode.timedOutError.code

/-- The turn begins before the deadline, if there is one. -/
def FeedbackTurn.InTime (startTime timeout : Int64) (turn : FeedbackTurn) : Prop :=
  timeout ≤ 0 ∨ Before startTime timeout turn.clock

/-- The turn begins before the deadline as the code computes it, in a sum that wraps. -/
def FeedbackTurn.SeenInTime (startTime timeout : Int64) (turn : FeedbackTurn) : Prop :=
  timeout ≤ 0 ∨ turn.clock < startTime + timeout

/-- The turn decides nothing: its call timed out, or its feedback is not terminal. -/
structure FeedbackTurn.PollsOn (helper : FeedbackHelper) (startTime timeout : Int64)
    (turn : FeedbackTurn) : Prop where
  inTime : turn.InTime startTime timeout
  undecided : turn.TimesOut ∨
    turn.result.ok = true ∧ helper.decision turn.result.response = none

/-- The result of the last call, after the turns. -/
def lastResult (result : FeedbackResult) (turns : List FeedbackTurn) : FeedbackResult :=
  turns.foldl (fun _ turn => turn.result) result

/-- What is promised of a run of a helper. The first turn that does not poll on decides. -/
structure DecidedRightly (helper : FeedbackHelper) (startTime timeout : Int64)
    (turns : List FeedbackTurn) (run : Nat × Option FeedbackResult) : Prop where
  failed : ∀ before turn after, turns = before ++ turn :: after →
    (∀ earlier ∈ before, earlier.PollsOn helper startTime timeout) →
    turn.InTime startTime timeout → turn.Fails →
    run = (before.length, some turn.result)
  received : ∀ before turn after, turns = before ++ turn :: after →
    (∀ earlier ∈ before, earlier.PollsOn helper startTime timeout) →
    turn.InTime startTime timeout → turn.result.ok = true →
    ∀ status, helper.decision turn.result.response = some status →
    run = (before.length, some ⟨status, turn.result.response⟩)
  deadline : ∀ before turn after, turns = before ++ turn :: after →
    (∀ earlier ∈ before, earlier.PollsOn helper startTime timeout) →
    ¬ turn.InTime startTime timeout →
    run = (before.length, some ⟨commandTimeoutError helper.message,
      (lastResult ⟨Status.unset, {}⟩ before).response⟩)
  polling : (∀ turn ∈ turns, turn.PollsOn helper startTime timeout) →
    run = (turns.length, none)

/-- One turn as it is promised. -/
def promisedTurn (helper : FeedbackHelper) (startTime timeout : Int64) (last : FeedbackResult)
    (turn : FeedbackTurn) : Except FeedbackResult FeedbackResult :=
  if timeout ≤ 0 ∨ Before startTime timeout turn.clock then
    if turn.result.ok then
      match helper.decision turn.result.response with
      | some status => .error ⟨status, turn.result.response⟩
      | none => .ok turn.result
    else if turn.result.status.code = RPCErrorCode.timedOutError.code then .ok turn.result
    else .error turn.result
  else .error ⟨commandTimeoutError helper.message, last.response⟩

section Promise

variable {helper : FeedbackHelper} {startTime timeout : Int64} {turn : FeedbackTurn}
  {turns before : List FeedbackTurn} {last next : FeedbackResult}
  {run : Nat × Option FeedbackResult}

theorem promisedTurn_late (late : ¬ turn.InTime startTime timeout) :
    promisedTurn helper startTime timeout last turn =
      .error ⟨commandTimeoutError helper.message, last.response⟩ :=
  if_neg late

theorem promisedTurn_inTime (inTime : turn.InTime startTime timeout) :
    promisedTurn helper startTime timeout last turn =
      if turn.result.ok then
        match helper.decision turn.result.response with
        | some status => .error ⟨status, turn.result.response⟩
        | none => .ok turn.result
      else if turn.result.status.code = RPCErrorCode.timedOutError.code then .ok turn.result
      else .error turn.result :=
  if_pos inTime

theorem promisedTurn_fails (inTime : turn.InTime startTime timeout) (fails : turn.Fails) :
    promisedTurn helper startTime timeout last turn = .error turn.result := by
  rw [promisedTurn_inTime inTime, if_neg (Bool.eq_false_iff.mp fails.1), if_neg fails.2]

theorem promisedTurn_timesOut (inTime : turn.InTime startTime timeout) (timesOut : turn.TimesOut) :
    promisedTurn helper startTime timeout last turn = .ok turn.result := by
  rw [promisedTurn_inTime inTime, if_neg (Bool.eq_false_iff.mp timesOut.1), if_pos timesOut.2]

theorem promisedTurn_ok (inTime : turn.InTime startTime timeout) (ok : turn.result.ok = true) :
    promisedTurn helper startTime timeout last turn =
      match helper.decision turn.result.response with
      | some status => .error ⟨status, turn.result.response⟩
      | none => .ok turn.result := by
  rw [promisedTurn_inTime inTime, if_pos ok]

/-- The ways the call of a turn can go. -/
theorem FeedbackTurn.calls (turn : FeedbackTurn) :
    turn.Fails ∨ turn.TimesOut ∨ turn.result.ok = true := by
  cases ok : turn.result.ok with
  | true => exact .inr (.inr rfl)
  | false =>
      by_cases timedOut : turn.result.status.code = RPCErrorCode.timedOutError.code
      · exact .inr (.inl ⟨ok, timedOut⟩)
      · exact .inl ⟨ok, timedOut⟩

/-- The ways a turn can go. -/
theorem FeedbackTurn.cases (startTime timeout : Int64) (turn : FeedbackTurn) :
    ¬ turn.InTime startTime timeout ∨ turn.InTime startTime timeout ∧
      (turn.Fails ∨ turn.TimesOut ∨ turn.result.ok = true) := by
  by_cases inTime : turn.InTime startTime timeout
  · exact .inr ⟨inTime, turn.calls⟩
  · exact .inl inTime

/-- The loop goes on as promised after the turns that poll on. -/
theorem promisedTurn_eq_ok_iff :
    promisedTurn helper startTime timeout last turn = .ok next ↔
      turn.PollsOn helper startTime timeout ∧ next = turn.result := by
  constructor
  · intro goesOn
    rcases turn.cases startTime timeout with late | ⟨inTime, fails | timesOut | ok⟩
    · rw [promisedTurn_late late] at goesOn
      cases goesOn
    · rw [promisedTurn_fails inTime fails] at goesOn
      cases goesOn
    · rw [promisedTurn_timesOut inTime timesOut] at goesOn
      exact ⟨⟨inTime, .inl timesOut⟩, (Except.ok.inj goesOn).symm⟩
    · rw [promisedTurn_ok inTime ok] at goesOn
      cases decision : helper.decision turn.result.response with
      | some status =>
          rw [decision] at goesOn
          cases goesOn
      | none =>
          rw [decision] at goesOn
          exact ⟨⟨inTime, .inr ⟨ok, decision⟩⟩, (Except.ok.inj goesOn).symm⟩
  · rintro ⟨⟨inTime, timesOut | ⟨ok, undecided⟩⟩, rfl⟩
    · exact promisedTurn_timesOut inTime timesOut
    · rw [promisedTurn_ok inTime ok, undecided]

theorem promised_run_iff :
    Run (Continues (promisedTurn helper startTime timeout)) last turns next ↔
      (∀ turn ∈ turns, turn.PollsOn helper startTime timeout) ∧ next = lastResult last turns := by
  induction turns generalizing last with
  | nil =>
      constructor
      · intro run
        cases run
        exact ⟨fun _ member => absurd member List.not_mem_nil, rfl⟩
      · rintro ⟨_, rfl⟩
        exact .nil _
  | cons turn turns ih =>
      constructor
      · intro run
        cases run with
        | cons step tail =>
            obtain ⟨polls, rfl⟩ := promisedTurn_eq_ok_iff.mp step
            obtain ⟨rest, rfl⟩ := ih.mp tail
            exact ⟨List.forall_mem_cons.mpr ⟨polls, rest⟩, rfl⟩
      · rintro ⟨polls, rfl⟩
        obtain ⟨first, rest⟩ := List.forall_mem_cons.mp polls
        exact .cons (promisedTurn_eq_ok_iff.mpr ⟨first, rfl⟩) (ih.mpr ⟨rest, rfl⟩)

/-- The promise fixes the run. -/
theorem decidedRightly_iff_eq :
    DecidedRightly helper startTime timeout turns run ↔
      run = takeTurns (promisedTurn helper startTime timeout)
        ⟨Status.unset, {}⟩ turns := by
  constructor
  · intro promise
    rcases takeTurns_cases (promisedTurn helper startTime timeout)
        ⟨Status.unset, {}⟩ turns with ⟨_, going⟩ | ⟨before, turn, after, _, _, rfl, going, ends⟩
    · rw [takeTurns_open going]
      exact promise.polling (promised_run_iff.mp going).1
    · rw [takeTurns_of_run going ends]
      obtain ⟨polls, rfl⟩ := promised_run_iff.mp going
      rcases turn.cases startTime timeout with
        late | ⟨inTime, fails | timesOut | ok⟩
      · rw [promisedTurn_late late] at ends
        rw [promise.deadline before turn after rfl polls late, Except.error.inj ends]
      · rw [promisedTurn_fails inTime fails] at ends
        rw [promise.failed before turn after rfl polls inTime fails, Except.error.inj ends]
      · rw [promisedTurn_timesOut inTime timesOut] at ends
        cases ends
      · rw [promisedTurn_ok inTime ok] at ends
        cases decision : helper.decision turn.result.response with
        | none =>
            rw [decision] at ends
            cases ends
        | some status =>
            rw [decision] at ends
            rw [promise.received before turn after rfl polls inTime ok status decision,
              Except.error.inj ends]
  · rintro rfl
    constructor
    · rintro before turn after rfl polls inTime fails
      exact takeTurns_of_run (promised_run_iff.mpr ⟨polls, rfl⟩)
        (promisedTurn_fails inTime fails) after
    · rintro before turn after rfl polls inTime ok status decided
      apply takeTurns_of_run (promised_run_iff.mpr ⟨polls, rfl⟩)
      rw [promisedTurn_ok inTime ok, decided]
    · rintro before turn after rfl polls late
      exact takeTurns_of_run (promised_run_iff.mpr ⟨polls, rfl⟩) (promisedTurn_late late) after
    · intro polls
      exact takeTurns_open (promised_run_iff.mpr ⟨polls, rfl⟩)

end Promise

/-! ## When the promise is kept -/

/-- The feedback of the turn is looked at as promised: what a call that timed out brings is
not terminal, and what another one brings is not overlooked. -/
structure FeedbackTurn.ReadRightly (helper : FeedbackHelper) (turn : FeedbackTurn) : Prop where
  timedOut : turn.TimesOut → helper.decision turn.result.response = none ∨
    helper.Overlooks turn.result.response
  received : turn.result.ok = true → ¬ helper.Overlooks turn.result.response

/-- The turn is not taken for a late one, or its call fails with what a late one returns. -/
def FeedbackTurn.TimedRightly (helper : FeedbackHelper) (startTime timeout : Int64)
    (last : FeedbackResult) (turn : FeedbackTurn) : Prop :=
  turn.SeenInTime startTime timeout ∨
    turn.result = ⟨commandTimeoutError helper.message, last.response⟩

section Turns

variable {helper : FeedbackHelper} {startTime timeout : Int64} {turn : FeedbackTurn}
  {last next : FeedbackResult}

/-- The wrapped deadline is never later than the true one. -/
theorem FeedbackTurn.SeenInTime.inTime (seen : turn.SeenInTime startTime timeout) :
    turn.InTime startTime timeout := by
  by_cases forever : timeout ≤ 0
  · exact .inl forever
  · have positive := Int64.not_le.mp forever
    exact .inr (before_of_lt (Int64.le_of_lt positive) (seen.resolve_left forever))

/-- A turn in time is seen in time, unless the deadline wraps. -/
theorem FeedbackTurn.InTime.timedRightly (inTime : turn.InTime startTime timeout)
    (fits : timeout ≤ 0 ∨ DeadlineFits startTime timeout) :
    turn.TimedRightly helper startTime timeout last := by
  by_cases forever : timeout ≤ 0
  · exact .inl (.inl forever)
  · have nonneg := Int64.le_of_lt (Int64.not_le.mp forever)
    have early := inTime.resolve_left forever
    exact .inl (.inr ((lt_iff_before nonneg (fits.resolve_left forever)).mpr early))

/-- With a deadline that wraps, every turn from the start on is taken for a late one. -/
theorem FeedbackTurn.not_seenInTime (positive : 0 < timeout)
    (wraps : ¬ DeadlineFits startTime timeout) (since : startTime ≤ turn.clock) :
    ¬ turn.SeenInTime startTime timeout := by
  rintro (forever | early)
  · exact Int64.not_le.mpr positive forever
  · exact not_lt_of_overflows (Int64.le_of_lt positive) wraps since early

/-- A call that fails otherwise than by a timeout leaves nothing to read. -/
theorem FeedbackTurn.Fails.readRightly (fails : turn.Fails) : turn.ReadRightly helper where
  timedOut timesOut := absurd timesOut.2 fails.2
  received ok := absurd (fails.1.symm.trans ok) Bool.false_ne_true

/-- What a late turn returns is such a failure. -/
theorem FeedbackTurn.fails_of_result
    (result : turn.result = ⟨commandTimeoutError helper.message, last.response⟩) :
    turn.Fails := by
  rw [FeedbackTurn.Fails, result]
  refine ⟨rfl, ?_⟩
  have different : BlockingRobotCommandErrorCode.commandTimeoutError.code ≠
      RPCErrorCode.timedOutError.code := by decide
  exact different

theorem feedbackTurn_late (late : ¬ turn.SeenInTime startTime timeout) :
    feedbackTurn helper.onFeedback helper.message timeout (startTime + timeout) last turn =
      .error ⟨commandTimeoutError helper.message, last.response⟩ :=
  if_neg late

theorem feedbackTurn_fails (seen : turn.SeenInTime startTime timeout) (fails : turn.Fails) :
    feedbackTurn helper.onFeedback helper.message timeout (startTime + timeout) last turn =
      .error turn.result :=
  (if_pos seen).trans (if_pos fails)

/-- Every other response is looked at, that of a call that timed out as well. -/
theorem feedbackTurn_looks (seen : turn.SeenInTime startTime timeout) (looks : ¬ turn.Fails) :
    feedbackTurn helper.onFeedback helper.message timeout (startTime + timeout) last turn =
      match helper.onFeedback turn.result.response with
      | some status => .error ⟨status, turn.result.response⟩
      | none => .ok turn.result :=
  (if_pos seen).trans (if_neg looks)

/-- Where both loops go on, they go on with the same state. -/
theorem feedbackTurn_same (a b : FeedbackResult)
    (codeGoesOn : feedbackTurn helper.onFeedback helper.message timeout (startTime + timeout)
      last turn = .ok a)
    (promiseGoesOn : promisedTurn helper startTime timeout last turn = .ok b) : a = b := by
  obtain ⟨polls, rfl⟩ := promisedTurn_eq_ok_iff.mp promiseGoesOn
  by_cases seen : turn.SeenInTime startTime timeout
  · have looks : ¬ turn.Fails := by
      intro fails
      rw [feedbackTurn_fails seen fails] at codeGoesOn
      cases codeGoesOn
    rw [feedbackTurn_looks seen looks] at codeGoesOn
    cases read : helper.onFeedback turn.result.response with
    | none =>
        rw [read] at codeGoesOn
        exact (Except.ok.inj codeGoesOn).symm
    | some status =>
        rw [read] at codeGoesOn
        cases codeGoesOn
  · rw [feedbackTurn_late seen] at codeGoesOn
    cases codeGoesOn

/-- The code takes a turn that it sees in time as promised exactly if it reads its feedback
rightly. -/
theorem feedbackTurn_eq_iff_of_seen (seen : turn.SeenInTime startTime timeout) :
    feedbackTurn helper.onFeedback helper.message timeout (startTime + timeout) last turn =
      promisedTurn helper startTime timeout last turn ↔ turn.ReadRightly helper := by
  have inTime := seen.inTime
  rcases turn.calls with fails | timesOut | ok
  · rw [feedbackTurn_fails seen fails, promisedTurn_fails inTime fails]
    exact iff_of_true rfl fails.readRightly
  · rw [feedbackTurn_looks seen fun fails => fails.2 timesOut.2,
      promisedTurn_timesOut inTime timesOut]
    have failed : turn.result.ok ≠ true := Bool.eq_false_iff.mp timesOut.1
    by_cases overlooks : helper.Overlooks turn.result.response
    · rw [helper.onFeedback_of_overlooks overlooks]
      exact iff_of_true rfl ⟨fun _ => .inr overlooks, fun ok => absurd ok failed⟩
    · rw [helper.onFeedback_eq_decision overlooks]
      cases decision : helper.decision turn.result.response with
      | none => exact iff_of_true rfl ⟨fun _ => .inl decision, fun ok => absurd ok failed⟩
      | some status =>
          apply iff_of_false
          · intro same
            cases same
          · intro reads
            rcases reads.timedOut timesOut with undecided | overlooked
            · rw [decision] at undecided
              cases undecided
            · exact overlooks overlooked
  · rw [feedbackTurn_looks seen fun fails => Bool.false_ne_true (fails.1.symm.trans ok),
      promisedTurn_ok inTime ok]
    have answered : ¬ turn.TimesOut := fun timesOut =>
      Bool.false_ne_true (timesOut.1.symm.trans ok)
    by_cases overlooks : helper.Overlooks turn.result.response
    · rw [helper.onFeedback_of_overlooks overlooks, helper.decision_of_overlooks overlooks]
      apply iff_of_false
      · intro same
        cases same
      · intro reads
        exact reads.received ok overlooks
    · rw [helper.onFeedback_eq_decision overlooks]
      exact iff_of_true rfl ⟨fun timesOut => absurd timesOut answered, fun _ => overlooks⟩

/-- A turn in time that the code takes for a late one goes as promised only if its call fails
with what a late one returns. -/
theorem feedbackTurn_eq_iff_of_unseen (inTime : turn.InTime startTime timeout)
    (unseen : ¬ turn.SeenInTime startTime timeout) :
    feedbackTurn helper.onFeedback helper.message timeout (startTime + timeout) last turn =
      promisedTurn helper startTime timeout last turn ↔
        turn.result = ⟨commandTimeoutError helper.message, last.response⟩ := by
  rw [feedbackTurn_late unseen]
  rcases turn.calls with fails | timesOut | ok
  · rw [promisedTurn_fails inTime fails, Except.error.injEq]
    exact eq_comm
  · rw [promisedTurn_timesOut inTime timesOut]
    apply iff_of_false
    · intro same
      cases same
    · intro result
      exact (FeedbackTurn.fails_of_result result).2 timesOut.2
  · rw [promisedTurn_ok inTime ok]
    apply iff_of_false
    · cases decision : helper.decision turn.result.response with
      | none =>
          intro same
          cases same
      | some status =>
          intro same
          have asked := congrArg (fun result => result.status.code) (Except.error.inj same)
          exact helper.decision_code decision asked.symm
    · intro result
      exact Bool.false_ne_true ((FeedbackTurn.fails_of_result result).1.symm.trans ok)

/-- The code takes a turn as promised exactly if it reads its feedback and the clock rightly. -/
theorem feedbackTurn_eq_iff :
    feedbackTurn helper.onFeedback helper.message timeout (startTime + timeout) last turn =
      promisedTurn helper startTime timeout last turn ↔
        (turn.InTime startTime timeout →
          turn.ReadRightly helper ∧ turn.TimedRightly helper startTime timeout last) := by
  by_cases inTime : turn.InTime startTime timeout
  · rw [forall_prop_of_true inTime, FeedbackTurn.TimedRightly]
    by_cases seen : turn.SeenInTime startTime timeout
    · rw [feedbackTurn_eq_iff_of_seen seen]
      exact ⟨fun reads => ⟨reads, .inl seen⟩, And.left⟩
    · rw [feedbackTurn_eq_iff_of_unseen inTime seen]
      exact ⟨fun result => ⟨(FeedbackTurn.fails_of_result result).readRightly, .inr result⟩,
        fun timed => timed.2.resolve_left seen⟩
  · rw [feedbackTurn_late (mt FeedbackTurn.SeenInTime.inTime inTime), promisedTurn_late inTime]
    exact iff_of_true rfl fun early => absurd early inTime

/-- A call that timed out without a response is read rightly for every helper but that of
the arm, which takes it for a feedback of no known kind. -/
theorem FeedbackTurn.readRightly_empty (timesOut : turn.TimesOut)
    (empty : turn.result.response = {}) : turn.ReadRightly helper ↔ helper ≠ .armArrives := by
  constructor
  · intro reads
    rcases reads.timedOut timesOut with undecided | ⟨_, cancelled⟩
    · rw [empty] at undecided
      exact helper.decision_empty.mp undecided
    · rw [empty] at cancelled
      cases cancelled
  · intro other
    constructor
    · intro _
      rw [empty]
      exact .inl (helper.decision_empty.mpr other)
    · intro ok
      exact absurd (timesOut.1.symm.trans ok) Bool.false_ne_true

end Turns

/-- The promise is kept exactly when the feedback and the clock of each turn in time, up to
the one that decides, are read rightly. -/
theorem decidedRightly_iff (helper : FeedbackHelper) (startTime timeout : Int64)
    (turns : List FeedbackTurn) :
    DecidedRightly helper startTime timeout turns (helper.block startTime timeout turns) ↔
      ∀ before turn after, turns = before ++ turn :: after →
        (∀ earlier ∈ before, earlier.PollsOn helper startTime timeout) →
        turn.InTime startTime timeout →
          turn.ReadRightly helper ∧
            turn.TimedRightly helper startTime timeout (lastResult ⟨Status.unset, {}⟩ before) := by
  rw [decidedRightly_iff_eq, helper.block_eq, blockUntil,
    takeTurns_eq_iff fun _ _ => feedbackTurn_same]
  constructor
  · intro alike before turn after split polls
    exact feedbackTurn_eq_iff.mp
      (alike before turn after _ split (promised_run_iff.mpr ⟨polls, rfl⟩))
  · intro reads before turn after last split run
    obtain ⟨polls, rfl⟩ := promised_run_iff.mp run
    exact feedbackTurn_eq_iff.mpr (reads before turn after split polls)

/-- The arm reaches its goal after a call that timed out, without a response. -/
theorem not_decidedRightly_timedOut :
    let turns : List FeedbackTurn :=
      [⟨0, ⟨⟨RPCErrorCode.timedOutError.code, ""⟩, {}⟩⟩,
        ⟨1, ⟨⟨RPCErrorCode.success.code, ""⟩,
          ⟨some (.synchronizedFeedback
            { armCommandFeedback := some (.armCartesianFeedback .trajectoryComplete) })⟩⟩⟩]
    ¬ DecidedRightly .armArrives 0 0 turns (blockUntilArmArrives 0 0 turns) := by
  intro turns promise
  have polls : ∀ earlier ∈ turns.take 1, earlier.PollsOn .armArrives 0 0 := by
    intro earlier first
    rw [List.mem_singleton.mp first]
    exact ⟨.inl (Int64.le_refl 0), .inl ⟨by decide, rfl⟩⟩
  have decided := promise.received (turns.take 1) (turns.get 1) [] rfl polls
    (.inl (Int64.le_refl 0)) (by decide) commandSucceeded rfl
  exact absurd (congrArg Prod.fst decided) (by decide)

/-- A cancelled trajectory of the impedance command is polled for, without an end. -/
theorem not_decidedRightly_cancelled :
    let turns : List FeedbackTurn :=
      [⟨0, ⟨⟨RPCErrorCode.success.code, ""⟩,
        ⟨some (.synchronizedFeedback
          { armCommandFeedback := some (.armImpedanceFeedback .trajectoryCancelled) })⟩⟩⟩]
    ¬ DecidedRightly .armArrives 0 0 turns (blockUntilArmArrives 0 0 turns) := by
  intro turns promise
  have decided := promise.received [] (turns.get 0) [] rfl
    (fun _ member => absurd member List.not_mem_nil) (.inl (Int64.le_refl 0)) (by decide)
    commandFeedbackError rfl
  exact absurd (congrArg Prod.fst decided) (by decide)

/-- With a deadline that wraps, a helper gives up before its first call. -/
theorem block_wraps (helper : FeedbackHelper) {startTime timeout : Int64} (positive : 0 < timeout)
    (wraps : ¬ DeadlineFits startTime timeout) {first : FeedbackTurn}
    (since : startTime ≤ first.clock) (rest : List FeedbackTurn) :
    helper.block startTime timeout (first :: rest) =
      (0, some ⟨commandTimeoutError helper.message, {}⟩) := by
  rw [helper.block_eq, blockUntil]
  exact takeTurns_ends (feedbackTurn_late (first.not_seenInTime positive wraps since)) rest

/-- With the longest timeout the sum wraps: the helper gives up at once, though its first
call finds the robot standing. -/
theorem not_decidedRightly_wrapped :
    let turns : List FeedbackTurn :=
      [⟨2, ⟨⟨RPCErrorCode.success.code, ""⟩,
        ⟨some (.synchronizedFeedback
          { mobilityCommandFeedback := some (.standFeedback .isStanding) })⟩⟩⟩]
    ¬ DecidedRightly .standComplete 1 Int64.maxValue turns
      (blockUntilStandComplete 1 Int64.maxValue turns) := by
  intro turns promise
  have gaveUp : blockUntilStandComplete 1 Int64.maxValue turns = _ :=
    block_wraps .standComplete (by decide) (by decide) (by decide) []
  have decided := promise.received [] (turns.get 0) [] rfl
    (fun _ member => absurd member List.not_mem_nil) (.inr (by decide)) (by decide)
    commandSucceeded rfl
  rw [gaveUp] at decided
  exact absurd decided (by decide)

end SpotSdk.Client
