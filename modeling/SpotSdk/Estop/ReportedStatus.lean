import SpotSdk.Estop.StopLevelWait
import SpotSdk.Foundations.RunMeasures

/-!
# The status of the keep-alive, and the end of its thread

Until it is disabled, the status is what the last reported check-in gave. It is disabled by
a thread that stops the keep-alive, or by a check-in whose endpoint the robot does not know,
and then stays. A stopped thread makes at most one more check-in, and ends.
-/

namespace SpotSdk.Client

open Foundations Common

/-- The check-ins of the thread. -/
def KeepAliveEvent.isCheckIn : KeepAliveEvent → Bool
  | .checkIn _ => true
  | _ => false

/-- The event is no check-in and no report. -/
def KeepAliveEvent.isSilent : KeepAliveEvent → Bool
  | .checkIn _ | .report => false
  | _ => true

theorem KeepAliveEvent.ne_report {e : KeepAliveEvent} (silent : e.isSilent = true) :
    e ≠ .report := by
  rintro rfl
  cases silent

/-- The blocks of the background thread. -/
def KeepAliveEvent.isLoopStep : KeepAliveEvent → Bool
  | .setStopLevel _ => false
  | .stopBlock .. => false
  | _ => true

namespace KeepAliveLoop

/-- The thread is in `StopKeepAliveThread`. -/
def isStopping : KeepAliveLoop → Bool
  | .stop .. => true
  | _ => false

/-- The check-ins that a stopped thread still makes. -/
@[simp] def checkInsLeft : KeepAliveLoop → Nat
  | .checkIn _ => 1
  | _ => 0

/-- The blocks that a stopped thread still runs, at most. -/
@[simp] def stepsLeft : KeepAliveLoop → Nat
  | .exited => 0
  | .test => 1
  | .waiting _ => 2
  | .beginWait _ => 3
  | .stop _ .updateStatus _ => 4
  | .stop _ .notifyOne _ => 5
  | .stop _ .clearAlive _ => 6
  | .report .. => 7
  | .checkIn _ => 8

end KeepAliveLoop

namespace EstopKeepAlive

variable {chain : EstopProcessorChain} {endpoint : EstopEndpoint} {rpcTimeout rpcInterval : Int}
  {outcome : CheckInOutcome} {start s t : EstopKeepAlive} {e : KeepAliveEvent}
  {h pre post : List KeepAliveEvent}

/-! ## What the blocks do to the status -/

theorem updateStatus_statusAndMessage (status : EstopKeepAliveStatus) (msg : String) :
    (s.updateStatus status msg).statusAndMessage =
      if s.statusAndMessage.1 = .disabled then s.statusAndMessage else (status, msg) := by
  unfold updateStatus
  split <;> rfl

@[simp] theorem notifyOne_statusAndMessage :
    s.notifyOne.statusAndMessage = s.statusAndMessage := by
  unfold notifyOne
  split <;> rfl

@[simp] theorem setStopLevel_statusAndMessage (level : EstopStopLevel) :
    (s.setStopLevel level).statusAndMessage = s.statusAndMessage := by
  unfold setStopLevel
  split <;> simp

@[simp] theorem updateStatus_rpcTimeout (status : EstopKeepAliveStatus) (msg : String) :
    (s.updateStatus status msg).rpcTimeout = s.rpcTimeout := by
  unfold updateStatus
  split <;> rfl

@[simp] theorem notifyOne_rpcTimeout : s.notifyOne.rpcTimeout = s.rpcTimeout := by
  unfold notifyOne
  split <;> rfl

@[simp] theorem setStopLevel_rpcTimeout (level : EstopStopLevel) :
    (s.setStopLevel level).rpcTimeout = s.rpcTimeout := by
  unfold setStopLevel
  split <;> simp

@[simp] theorem stopKeepAliveThread_rpcTimeout (msg : String) (block : StopBlock) :
    (s.stopKeepAliveThread msg block).rpcTimeout = s.rpcTimeout := by
  cases block <;> simp [stopKeepAliveThread]

/-- A block of another thread leaves the loop where it is, or wakes it. -/
def LoopKept (s t : EstopKeepAlive) : Prop :=
  t.loop = s.loop ∨ s.loop.isWaiting = true ∧ t.loop = .test

theorem notifyOne_loop : LoopKept s s.notifyOne := by
  unfold notifyOne
  split
  · next place => exact .inr ⟨by rw [place]; rfl, rfl⟩
  · exact .inl rfl

theorem setStopLevel_loop (level : EstopStopLevel) : LoopKept s (s.setStopLevel level) := by
  unfold setStopLevel
  split
  · exact .inl rfl
  · exact notifyOne_loop

theorem stopKeepAliveThread_loop (msg : String) (block : StopBlock) :
    LoopKept s (s.stopKeepAliveThread msg block) := by
  cases block with
  | clearAlive => exact .inl rfl
  | notifyOne => exact notifyOne_loop
  | updateStatus => exact .inl (updateStatus_loop _ _)

theorem reported_unknown {status : Status} (unknown : status.code = statusEndpointUnknown) :
    s.reported status = (.disabled, status.message) := by
  have rpc : statusEndpointUnknown.category ≠ rpcErrorCategory := by decide
  have sdk : statusEndpointUnknown.category.name ∉ sdkErrorTypeNames := by decide
  rw [reported, unknown, if_neg rpc, if_neg (fun both => sdk both.1), if_pos rfl]

/-- Only an unknown endpoint is reported as a reason to disable. -/
theorem reported_disabled_iff (status : Status) :
    (s.reported status).1 = .disabled ↔ status.code = statusEndpointUnknown := by
  constructor
  · intro disabled
    unfold reported at disabled
    split_ifs at disabled with rpc timedOut sdk unknown
    exact unknown
  · intro unknown
    rw [reported_unknown unknown]

/-- Once disabled, no block changes the status. -/
theorem statusAndMessage_of_disabled (hstep : StepOf (step chain) s e t)
    (disabled : s.statusAndMessage.1 = .disabled) :
    t.statusAndMessage = s.statusAndMessage := by
  have kept (status : EstopKeepAliveStatus) (msg : String) :
      (s.updateStatus status msg).statusAndMessage = s.statusAndMessage := by
    rw [updateStatus_statusAndMessage, if_pos disabled]
  cases step_cases hstep with
  | setStopLevel => exact setStopLevel_statusAndMessage _
  | @stopBlock block msg =>
      cases block with
      | clearAlive => rfl
      | notifyOne => exact notifyOne_statusAndMessage
      | updateStatus => exact kept _ _
  | test place => rfl
  | checkIn place => rfl
  | report place => exact kept _ _
  | @loopStop _ block msg place =>
      cases block with
      | clearAlive => rfl
      | notifyOne => exact notifyOne_statusAndMessage
      | updateStatus => exact kept _ _
  | beginWait place => rfl
  | wake place => rfl

theorem statusAndMessage_of_run (run : Run (StepOf (step chain)) s h t)
    (disabled : s.statusAndMessage.1 = .disabled) :
    t.statusAndMessage = s.statusAndMessage := by
  induction run with
  | nil s => rfl
  | cons hstep _ ih =>
      have kept := statusAndMessage_of_disabled hstep disabled
      rw [ih (kept ▸ disabled), kept]

/-! ## Where the status comes from -/

/-- A check-in, the report of its status with no other check-in or report between them, and
what follows. -/
structure ReportedIn (chain : EstopProcessorChain) (start : EstopKeepAlive)
    (h post : List KeepAliveEvent) (status : Status) : Prop where
  turn : ∃ pre outcome mid u, h = pre ++ .checkIn outcome :: (mid ++ .report :: post) ∧
    (∀ e ∈ mid, e.isSilent = true) ∧
    Run (StepOf (step chain)) start pre u ∧ status = (u.checkIn chain outcome).2

/-- The status of a keep-alive after a run. -/
structure ShowsStatus (chain : EstopProcessorChain) (start : EstopKeepAlive)
    (h : List KeepAliveEvent) (t : EstopKeepAlive) : Prop where
  /-- Until it is disabled it is the report of the last turn. -/
  current : t.statusAndMessage.1 ≠ .disabled →
    t.statusAndMessage = (.ok, "") ∧ .report ∉ h ∨
      ∃ post status, ReportedIn chain start h post status ∧ .report ∉ post ∧
        t.statusAndMessage = start.reported status
  /-- It is disabled by a caller, or by an endpoint that the robot does not know. -/
  disabled : t.statusAndMessage.1 = .disabled →
    (∃ msg, .stopBlock .updateStatus msg ∈ h ∧ t.statusAndMessage = (.disabled, msg)) ∨
      ∃ post status, ReportedIn chain start h post status ∧
        status.code = statusEndpointUnknown ∧ t.statusAndMessage = (.disabled, status.message)
  /-- And then it stays. -/
  stays : ∀ pre post u, h = pre ++ post → Run (StepOf (step chain)) start pre u →
    Run (StepOf (step chain)) u post t → u.statusAndMessage.1 = .disabled →
      t.statusAndMessage = u.statusAndMessage

theorem ReportedIn.snoc {status : Status} (reported : ReportedIn chain start h post status) :
    ReportedIn chain start (h ++ [e]) (post ++ [e]) status := by
  obtain ⟨pre, outcome, mid, u, rfl, between, run, same⟩ := reported.turn
  exact ⟨pre, outcome, mid, u, by simp, between, run, same⟩

/-- What a history says of the status, of the report that is due, and of a thread that
stops itself. -/
structure Posts (chain : EstopProcessorChain) (start : EstopKeepAlive)
    (h : List KeepAliveEvent) (s : EstopKeepAlive) : Prop where
  run : Run (StepOf (step chain)) start h s
  timeout : s.rpcTimeout = start.rpcTimeout
  due : ∀ execStart status, s.loop = .report execStart status →
    ∃ pre outcome mid u, h = pre ++ .checkIn outcome :: mid ∧
      (∀ e ∈ mid, e.isSilent = true) ∧
      Run (StepOf (step chain)) start pre u ∧ status = (u.checkIn chain outcome).2
  stopping : s.loop.isStopping = true → s.statusAndMessage.1 = .disabled
  current : s.statusAndMessage.1 ≠ .disabled →
    s.statusAndMessage = (.ok, "") ∧ .report ∉ h ∨
      ∃ post status, ReportedIn chain start h post status ∧ .report ∉ post ∧
        s.statusAndMessage = start.reported status
  disabled : s.statusAndMessage.1 = .disabled →
    (∃ msg, .stopBlock .updateStatus msg ∈ h ∧ s.statusAndMessage = (.disabled, msg)) ∨
      ∃ post status, ReportedIn chain start h post status ∧
        status.code = statusEndpointUnknown ∧ s.statusAndMessage = (.disabled, status.message)

/-- What made the status holds of a longer history, unless a report replaces it. -/
theorem Posts.kept (inv : Posts chain start h s)
    (same : t.statusAndMessage = s.statusAndMessage)
    (quiet : s.statusAndMessage.1 = .disabled ∨ e ≠ .report) :
    (t.statusAndMessage.1 ≠ .disabled →
      t.statusAndMessage = (.ok, "") ∧ .report ∉ h ++ [e] ∨
        ∃ post status, ReportedIn chain start (h ++ [e]) post status ∧ .report ∉ post ∧
          t.statusAndMessage = start.reported status) ∧
    (t.statusAndMessage.1 = .disabled →
      (∃ msg, .stopBlock .updateStatus msg ∈ h ++ [e] ∧ t.statusAndMessage = (.disabled, msg)) ∨
        ∃ post status, ReportedIn chain start (h ++ [e]) post status ∧
          status.code = statusEndpointUnknown ∧
          t.statusAndMessage = (.disabled, status.message)) := by
  rw [same]
  constructor
  · intro enabled
    have silent := quiet.resolve_left enabled
    rcases inv.current enabled with ⟨first, none⟩ | ⟨post, status, reported, last, shown⟩
    · refine .inl ⟨first, fun mem => ?_⟩
      rcases List.mem_append.mp mem with before | now
      · exact none before
      · exact silent (List.mem_singleton.mp now).symm
    · refine .inr ⟨post ++ [e], status, reported.snoc, fun mem => ?_, shown⟩
      rcases List.mem_append.mp mem with before | now
      · exact last before
      · exact silent (List.mem_singleton.mp now).symm
  · intro off
    rcases inv.disabled off with ⟨msg, mem, shown⟩ | ⟨post, status, reported, unknown, shown⟩
    · exact .inl ⟨msg, List.mem_append_left _ mem, shown⟩
    · exact .inr ⟨post ++ [e], status, reported.snoc, unknown, shown⟩

/-- A block that reports nothing and leaves the status and a report that is due alone. -/
theorem Posts.quiet (inv : Posts chain start h s) (hstep : StepOf (step chain) s e t)
    (silent : e.isSilent = true) (same : t.statusAndMessage = s.statusAndMessage)
    (timeout : t.rpcTimeout = s.rpcTimeout)
    (due : ∀ execStart status, t.loop = .report execStart status →
      s.loop = .report execStart status)
    (stopping : t.loop.isStopping = true → s.loop.isStopping = true) :
    Posts chain start (h ++ [e]) t where
  run := inv.run.append (.single hstep)
  timeout := timeout.trans inv.timeout
  due execStart status here := by
    obtain ⟨pre, outcome, mid, u, rfl, between, run, given⟩ := inv.due execStart status
      (due execStart status here)
    refine ⟨pre, outcome, mid ++ [e], u, by simp, ?_, run, given⟩
    exact List.forall_mem_append.mpr ⟨between, List.forall_mem_singleton.mpr silent⟩
  stopping here := by
    rw [same]
    exact inv.stopping (stopping here)
  current := (inv.kept same (.inr (KeepAliveEvent.ne_report silent))).1
  disabled := (inv.kept same (.inr (KeepAliveEvent.ne_report silent))).2

/-- The same for a block of another thread. -/
theorem Posts.other (inv : Posts chain start h s) (hstep : StepOf (step chain) s e t)
    (silent : e.isSilent = true) (same : t.statusAndMessage = s.statusAndMessage)
    (timeout : t.rpcTimeout = s.rpcTimeout) (loop : LoopKept s t) :
    Posts chain start (h ++ [e]) t := by
  refine inv.quiet hstep silent same timeout (fun execStart status here => ?_) fun here => ?_
  · rcases loop with kept | ⟨-, woken⟩
    · rwa [kept] at here
    · rw [woken] at here
      cases here
  · rcases loop with kept | ⟨-, woken⟩
    · rwa [kept] at here
    · rw [woken] at here
      cases here

/-- The block in which another thread disables the keep-alive. -/
theorem Posts.disable (inv : Posts chain start h s) {msg : String}
    (hstep : StepOf (step chain) s (.stopBlock .updateStatus msg) t)
    (made : t = s.updateStatus .disabled msg) :
    Posts chain start (h ++ [.stopBlock .updateStatus msg]) t := by
  subst made
  by_cases disabled : s.statusAndMessage.1 = .disabled
  · exact inv.other hstep rfl (statusAndMessage_of_disabled hstep disabled) (by simp)
      (.inl (updateStatus_loop _ _))
  · have off : (s.updateStatus .disabled msg).statusAndMessage = (.disabled, msg) := by
      rw [updateStatus_statusAndMessage, if_neg disabled]
    constructor
    case run => exact inv.run.append (.single hstep)
    case timeout => exact (updateStatus_rpcTimeout _ _).trans inv.timeout
    case due =>
      intro execStart status here
      rw [updateStatus_loop] at here
      obtain ⟨pre, outcome, mid, u, rfl, between, run, given⟩ := inv.due execStart status here
      refine ⟨pre, outcome, mid ++ [.stopBlock .updateStatus msg], u, by simp, ?_, run, given⟩
      exact List.forall_mem_append.mpr ⟨between, List.forall_mem_singleton.mpr rfl⟩
    case stopping => exact fun _ => congrArg Prod.fst off
    case current => exact fun enabled => absurd (congrArg Prod.fst off) enabled
    case disabled => exact fun _ => .inl ⟨msg, by simp, off⟩

/-- The block that reports the check-in of the turn. -/
theorem Posts.report (inv : Posts chain start h s) {execStart : Int} {status : Status}
    (hstep : StepOf (step chain) s .report t) (place : s.loop = .report execStart status)
    (made : t = { s.updateStatus (s.reported status).1 (s.reported status).2 with
      loop := if (s.reported status).1 = .disabled
        then .stop execStart .clearAlive (s.reported status).2 else .beginWait execStart }) :
    Posts chain start (h ++ [.report]) t := by
  obtain ⟨pre, outcome, mid, u, split, between, run, given⟩ := inv.due execStart status place
  have turn : ReportedIn chain start (h ++ [.report]) [] status :=
    ⟨pre, outcome, mid, u, by simp [split], between, run, given⟩
  have shown : t.statusAndMessage =
      if s.statusAndMessage.1 = .disabled then s.statusAndMessage else s.reported status := by
    rw [made]
    exact updateStatus_statusAndMessage _ _
  have timeout : t.rpcTimeout = start.rpcTimeout := by
    rw [made]
    exact (updateStatus_rpcTimeout _ _).trans inv.timeout
  have places : ∀ execStart status, t.loop ≠ .report execStart status := by
    intro execStart status here
    rw [made] at here
    dsimp only at here
    split at here <;> cases here
  have reports : s.reported status = start.reported status := by
    simp only [reported, inv.timeout]
  have stopping : t.loop.isStopping = true → (s.reported status).1 = .disabled := by
    intro here
    rw [made] at here
    dsimp only at here
    split at here
    · next disabling => exact disabling
    · cases here
  by_cases disabled : s.statusAndMessage.1 = .disabled
  · rw [if_pos disabled] at shown
    refine ⟨inv.run.append (.single hstep), timeout, fun _ _ here => (places _ _ here).elim,
      fun _ => by rw [shown]; exact disabled, ?_, ?_⟩
    · exact (inv.kept shown (.inl disabled)).1
    · exact (inv.kept shown (.inl disabled)).2
  · rw [if_neg disabled] at shown
    refine ⟨inv.run.append (.single hstep), timeout, fun _ _ here => (places _ _ here).elim,
      fun here => by rw [shown]; exact stopping here, fun _ => ?_, fun off => ?_⟩
    · exact .inr ⟨[], status, turn, by simp, shown.trans reports⟩
    · rw [shown, reported_disabled_iff] at off
      refine .inr ⟨[], status, turn, off, ?_⟩
      rw [shown, reported_unknown off]

/-- What every block keeps. -/
theorem Posts.step (inv : Posts chain start h s) (hstep : StepOf (step chain) s e t) :
    Posts chain start (h ++ [e]) t := by
  cases step_cases hstep with
  | setStopLevel =>
      exact inv.other hstep rfl (by simp) (by simp) (setStopLevel_loop _)
  | @stopBlock block msg =>
      cases block with
      | clearAlive => exact inv.other hstep rfl rfl rfl (.inl rfl)
      | notifyOne =>
          exact inv.other hstep rfl notifyOne_statusAndMessage notifyOne_rpcTimeout
            notifyOne_loop
      | updateStatus => exact inv.disable hstep rfl
  | test place =>
      refine inv.quiet hstep rfl rfl rfl (fun _ _ here => ?_) fun here => ?_
      · dsimp only at here
        split at here <;> cases here
      · dsimp only at here
        split at here <;> cases here
  | @checkIn execStart outcome place =>
      have kept := inv.kept (e := .checkIn outcome)
        (t := { (s.checkIn chain outcome).1 with
          loop := .report execStart (s.checkIn chain outcome).2 }) rfl (.inr (by simp))
      refine ⟨inv.run.append (.single hstep), inv.timeout, ?_, nofun, kept.1, kept.2⟩
      rintro _ _ ⟨⟩
      exact ⟨h, outcome, [], s, rfl, List.forall_mem_nil _, inv.run, rfl⟩
  | report place => exact inv.report hstep place rfl
  | @loopStop execStart block msg place =>
      have stopping : s.loop.isStopping = true := by
        rw [place]
        rfl
      have same := statusAndMessage_of_disabled hstep (inv.stopping stopping)
      refine inv.quiet hstep rfl same (by simp) (fun _ _ here => ?_) fun _ => stopping
      dsimp only at here
      cases block <;> cases here
  | beginWait place => exact inv.quiet hstep rfl rfl rfl nofun nofun
  | wake place => exact inv.quiet hstep rfl rfl rfl nofun nofun

/-- In every run the status shows the last reported check-in, until a caller or an unknown
endpoint disables it for good. -/
theorem shows_status
    (run : Run (StepOf (EstopKeepAlive.step chain))
      (new chain endpoint rpcTimeout rpcInterval outcome) h t) :
    ShowsStatus chain (new chain endpoint rpcTimeout rpcInterval outcome) h t := by
  have base : Posts chain (new chain endpoint rpcTimeout rpcInterval outcome) []
      (new chain endpoint rpcTimeout rpcInterval outcome) :=
    ⟨.nil _, rfl, nofun, nofun, fun _ => .inl ⟨rfl, by simp⟩, nofun⟩
  have posts : Posts chain (new chain endpoint rpcTimeout rpcInterval outcome) h t :=
    run.recorded (I := Posts chain _) base Posts.step
  exact ⟨posts.current, posts.disabled,
    fun _ _ _ _ _ rest disabled => statusAndMessage_of_run rest disabled⟩

/-- A check-in that is answered well, and one whose endpoint the robot does not know. -/
def knownThenUnknown : List KeepAliveEvent :=
  [.test 0, .checkIn (.answered { status := 1 }), .report, .beginWait 1, .wake, .test 2,
    .checkIn (.answered { status := 2 }), .report]

theorem shows_status_unknown :
    ∃ t, ShowsStatus [] (new [] { endpointName := "estop", estopTimeout := 9 } 0 0
        (.answered { status := 1 })) knownThenUnknown t ∧
      t.statusAndMessage.1 = .disabled :=
  ⟨_, shows_status (.cons rfl (.cons rfl (.cons rfl (.cons rfl (.cons rfl (.cons rfl (.cons rfl
    (.cons rfl (.nil _))))))))), rfl⟩

/-! ## The end of the thread -/

/-- The thread is stopped, or about to stop itself. -/
def Winding (s : EstopKeepAlive) : Prop :=
  s.threadIsAlive = false ∨ ∃ execStart msg, s.loop = .stop execStart .clearAlive msg

/-- What a block does to a thread that winds up. -/
structure WindsUp (s : EstopKeepAlive) (e : KeepAliveEvent) (t : EstopKeepAlive) : Prop where
  winding : t.Winding
  checkIns : e.isCheckIn.toNat + t.loop.checkInsLeft ≤ s.loop.checkInsLeft
  steps : e.isLoopStep.toNat + t.loop.stepsLeft ≤ s.loop.stepsLeft

theorem Winding.other (winding : s.Winding) (check : e.isCheckIn = false)
    (other : e.isLoopStep = false) (alive : s.threadIsAlive = false → t.threadIsAlive = false)
    (loop : LoopKept s t) : WindsUp s e t := by
  rw [LoopKept] at loop
  rcases loop with kept | ⟨waits, woken⟩
  · refine ⟨?_, by simp [kept, check], by simp [kept, other]⟩
    rcases winding with stopped | ⟨execStart, msg, place⟩
    · exact .inl (alive stopped)
    · exact .inr ⟨execStart, msg, kept.trans place⟩
  · have stopped : s.threadIsAlive = false := by
      rcases winding with stopped | ⟨execStart, msg, place⟩
      · exact stopped
      · rw [place] at waits
        cases waits
    cases place : s.loop with
    | waiting waitTime =>
        exact ⟨.inl (alive stopped), by simp [woken, check], by simp [woken, other, place]⟩
    | _ => simp [place, KeepAliveLoop.isWaiting] at waits

theorem Winding.stopped (winding : s.Winding)
    (elsewhere : ∀ execStart msg, s.loop ≠ .stop execStart .clearAlive msg) :
    s.threadIsAlive = false :=
  winding.resolve_right fun ⟨execStart, msg, place⟩ => elsewhere execStart msg place

theorem Winding.step (winding : s.Winding) (hstep : StepOf (step chain) s e t) :
    WindsUp s e t := by
  cases step_cases hstep with
  | setStopLevel =>
      exact winding.other rfl rfl (fun stopped => by simpa using stopped) (setStopLevel_loop _)
  | stopBlock =>
      exact winding.other rfl rfl (fun stopped => by simp [stopped])
        (stopKeepAliveThread_loop _ _)
  | test place =>
      have stopped := winding.stopped fun _ _ here => by simp [place] at here
      exact ⟨.inl stopped, by simp [place, stopped, KeepAliveEvent.isCheckIn],
        by simp [place, stopped, KeepAliveEvent.isLoopStep]⟩
  | checkIn place =>
      have stopped := winding.stopped fun _ _ here => by simp [place] at here
      exact ⟨.inl stopped, by simp [place, KeepAliveEvent.isCheckIn],
        by simp [place, KeepAliveEvent.isLoopStep]⟩
  | @report execStart status place =>
      have stopped := winding.stopped fun _ _ here => by simp [place] at here
      refine ⟨.inl (by simpa using stopped), ?_, ?_⟩
      · dsimp only
        split <;> simp [place, KeepAliveEvent.isCheckIn]
      · dsimp only
        split <;> simp [place, KeepAliveEvent.isLoopStep]
  | @loopStop execStart block msg place =>
      cases block with
      | clearAlive =>
          exact ⟨.inl rfl, by simp [place, afterStop, KeepAliveEvent.isCheckIn],
            by simp [place, afterStop, KeepAliveEvent.isLoopStep]⟩
      | notifyOne =>
          have stopped := winding.stopped fun _ _ here => by simp [place] at here
          exact ⟨.inl (by simp [stopped]), by simp [place, afterStop, KeepAliveEvent.isCheckIn],
            by simp [place, afterStop, KeepAliveEvent.isLoopStep]⟩
      | updateStatus =>
          have stopped := winding.stopped fun _ _ here => by simp [place] at here
          exact ⟨.inl (by simp [stopped]), by simp [place, afterStop, KeepAliveEvent.isCheckIn],
            by simp [place, afterStop, KeepAliveEvent.isLoopStep]⟩
  | beginWait place =>
      have stopped := winding.stopped fun _ _ here => by simp [place] at here
      exact ⟨.inl stopped, by simp [place, KeepAliveEvent.isCheckIn],
        by simp [place, KeepAliveEvent.isLoopStep]⟩
  | wake place =>
      have stopped := winding.stopped fun _ _ here => by simp [place] at here
      exact ⟨.inl stopped, by simp [place, KeepAliveEvent.isCheckIn],
        by simp [place, KeepAliveEvent.isLoopStep]⟩

theorem pays_checkIns : Pays (StepOf (EstopKeepAlive.step chain)) Winding
    KeepAliveEvent.isCheckIn (·.loop.checkInsLeft) :=
  ⟨fun winding hstep => (winding.step hstep).winding,
    fun winding hstep => (winding.step hstep).checkIns⟩

theorem pays_steps : Pays (StepOf (EstopKeepAlive.step chain)) Winding
    KeepAliveEvent.isLoopStep (·.loop.stepsLeft) :=
  ⟨fun winding hstep => (winding.step hstep).winding,
    fun winding hstep => (winding.step hstep).steps⟩

/-- Until it has exited the thread can run its next block. -/
theorem exists_loopStep (running : s.loop ≠ .exited) :
    ∃ e, e.isLoopStep = true ∧ (EstopKeepAlive.step chain s e).isSome = true := by
  cases place : s.loop with
  | test => exact ⟨.test 0, rfl, by simp [EstopKeepAlive.step, place]⟩
  | checkIn execStart =>
      exact ⟨.checkIn (.answered { status := 1 }), rfl, by simp [EstopKeepAlive.step, place]⟩
  | report execStart status => exact ⟨.report, rfl, by simp [EstopKeepAlive.step, place]⟩
  | stop execStart block msg =>
      exact ⟨.loopStop block, rfl, by simp [EstopKeepAlive.step, place]⟩
  | beginWait execStart => exact ⟨.beginWait 0, rfl, by simp [EstopKeepAlive.step, place]⟩
  | waiting waitTime => exact ⟨.wake, rfl, by simp [EstopKeepAlive.step, place]⟩
  | exited => exact absurd place running

theorem threadIsAlive_of_clearsAlive (hstep : StepOf (EstopKeepAlive.step chain) s e t)
    (clears : e.clearsAlive = true) : t.threadIsAlive = false := by
  cases step_cases hstep with
  | @stopBlock block msg => cases block <;> simp_all [KeepAliveEvent.clearsAlive]
  | @loopStop _ block msg place => cases block <;> simp_all [KeepAliveEvent.clearsAlive]
  | _ => cases clears

/-- After the flag is cleared, by whichever thread, the background thread makes at most one
more check-in and ends within eight of its blocks, whether or not it hears the signal. -/
theorem estop_thread_ends
    (run : Run (StepOf (EstopKeepAlive.step chain)) s (pre ++ e :: post) t)
    (clears : e.clearsAlive = true) :
    post.countP KeepAliveEvent.isCheckIn ≤ 1 ∧ post.countP KeepAliveEvent.isLoopStep ≤ 8 ∧
      (t.loop ≠ .exited →
        ∃ e, e.isLoopStep = true ∧ (EstopKeepAlive.step chain t e).isSome = true) := by
  obtain ⟨u, -, after⟩ := run.split
  cases after with
  | @cons _ _ v _ _ cleared tail =>
      have winding : v.Winding := .inl (threadIsAlive_of_clearsAlive cleared clears)
      have checkIns := pays_checkIns.countP_le tail winding
      have steps := pays_steps.countP_le tail winding
      refine ⟨Nat.le_trans checkIns ?_, Nat.le_trans steps ?_, exists_loopStep⟩
      · cases v.loop <;> simp
      · cases v.loop with
        | stop _ block _ => cases block <;> simp
        | _ => simp

/-- The thread is stopped while it checks in, and the signal is lost. -/
def stoppedInCheckIn : List KeepAliveEvent :=
  [.stopBlock .notifyOne "", .checkIn (.answered { status := 1 }),
    .stopBlock .updateStatus "", .report, .beginWait 1, .wake, .test 2]

theorem estop_thread_ends_inCheckIn :
    stoppedInCheckIn.countP KeepAliveEvent.isCheckIn ≤ 1 ∧
      stoppedInCheckIn.countP KeepAliveEvent.isLoopStep ≤ 8 := by
  have run : Run (StepOf (EstopKeepAlive.step []))
      (new [] { endpointName := "estop", estopTimeout := 9 } 0 0 (.answered { status := 1 }))
      ([.test 0] ++ .stopBlock .clearAlive "" :: stoppedInCheckIn) _ :=
    .cons rfl (.cons rfl (.cons rfl (.cons rfl (.cons rfl (.cons rfl (.cons rfl (.cons rfl
      (.cons rfl (.nil _)))))))))
  have ends := estop_thread_ends run rfl
  exact ⟨ends.1, ends.2.1⟩

/-- Once a check-in finds that the robot does not know the endpoint, the report disables the
keep-alive, no check-in follows, and the thread ends within six of its blocks. -/
theorem unknown_endpoint_ends {execStart : Int} {status : Status}
    (place : s.loop = .report execStart status) (unknown : status.code = statusEndpointUnknown)
    (run : Run (StepOf (EstopKeepAlive.step chain)) s (.report :: post) t) :
    t.statusAndMessage.1 = .disabled ∧ post.countP KeepAliveEvent.isCheckIn = 0 ∧
      post.countP KeepAliveEvent.isLoopStep ≤ 6 ∧
      (t.loop ≠ .exited →
        ∃ e, e.isLoopStep = true ∧ (EstopKeepAlive.step chain t e).isSome = true) := by
  cases run with
  | @cons _ _ v _ _ hstep tail =>
      have disabling := reported_unknown (s := s) unknown
      have stops : v.loop = .stop execStart .clearAlive status.message ∧
          v.statusAndMessage.1 = .disabled := by
        cases step_cases hstep with
        | report here =>
            obtain ⟨rfl, rfl⟩ := KeepAliveLoop.report.inj (here.symm.trans place)
            simp only [disabling, if_true, true_and]
            rw [updateStatus_statusAndMessage]
            split
            · next disabled => exact disabled
            · rfl
      have winding : v.Winding := .inr ⟨execStart, status.message, stops.1⟩
      have checkIns := pays_checkIns.countP_le tail winding
      have steps := pays_steps.countP_le tail winding
      rw [stops.1] at checkIns steps
      exact ⟨statusAndMessage_of_run tail stops.2 ▸ stops.2, Nat.le_zero.mp checkIns, steps,
        exists_loopStep⟩

/-- The report of a check-in that was refused is due. -/
def refusedCheckIn : EstopKeepAlive :=
  { new [] { endpointName := "estop", estopTimeout := 9 } 0 0 (.answered { status := 1 }) with
    loop := .report 0 ⟨statusEndpointUnknown, "unknown"⟩ }

/-- The thread stops itself and leaves its loop. -/
def afterRefusal : List KeepAliveEvent :=
  [.loopStop .clearAlive, .loopStop .notifyOne, .loopStop .updateStatus, .beginWait 1, .wake,
    .test 2]

theorem unknown_endpoint_ends_refused :
    ∃ t, Run (StepOf (EstopKeepAlive.step [])) refusedCheckIn (.report :: afterRefusal) t ∧
      t.loop = .exited ∧ t.statusAndMessage.1 = .disabled ∧
      afterRefusal.countP KeepAliveEvent.isCheckIn = 0 ∧
      afterRefusal.countP KeepAliveEvent.isLoopStep ≤ 6 := by
  have place : refusedCheckIn.loop = .report 0 ⟨statusEndpointUnknown, "unknown"⟩ := rfl
  have run : Run (StepOf (EstopKeepAlive.step [])) refusedCheckIn (.report :: afterRefusal) _ :=
    .cons rfl (.cons rfl (.cons rfl (.cons rfl (.cons rfl (.cons rfl (.cons rfl (.nil _)))))))
  obtain ⟨disabled, checkIns, steps, _⟩ := unknown_endpoint_ends place rfl run
  exact ⟨_, run, rfl, disabled, checkIns, steps⟩

end EstopKeepAlive

end SpotSdk.Client
