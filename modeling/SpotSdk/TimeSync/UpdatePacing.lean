import SpotSdk.Foundations.RunMeasures
import SpotSdk.TimeSync.TimeSyncEndpoint

/-!
# Pacing the updates of time sync

`TimeSyncThreadMethod` looks at the last result, waits for as long as that calls for, and
makes the next update. Other threads update the same endpoint and tell the thread to exit.

## Implementation notes

The clock is read by events, and nothing is assumed of what it shows. `Start` has no effect
while the thread is not stopped, so one life of the thread is modelled.
-/

namespace SpotSdk.Client.TimeSync

open Foundations Common TimeSyncEndpoint

/-- `STATUS_SERVICE_NOT_READY` of the time sync state. -/
def TimeSyncState.statusServiceNotReady : Int := 3

/-- `kTimeSyncServiceNotReadyInterval`, in nanoseconds. -/
def kTimeSyncServiceNotReadyInterval : Int64 := 5000000000

/-- `sleep_nanos` for a result. -/
def sleepNanos (timeSyncInterval : Int64) (result : TimeSyncUpdateResult) : Int64 :=
  if result.status.ok && result.response.state.status = TimeSyncState.statusServiceNotReady then
    kTimeSyncServiceNotReadyInterval
  else if result.status.ok && result.response.state.status = TimeSyncState.statusOk then
    timeSyncInterval
  else 0

/-- Where the thread is in `TimeSyncThreadMethod`. -/
inductive SyncPoint
  | testExit
  | look
  | beginWait (nanos : Int64)
  | testClock (endTime : Int64)
  | asleep (endTime : Int64)
  | testExitAwake (endTime : Int64)
  | send
  | inUpdate
  | record (updateResult : TimeSyncUpdateResult) (rxTime : Timestamp)
  | setStopped
  | exited
  deriving DecidableEq

namespace SyncPoint

/-- The updates that a thread which is told to exit still makes. -/
@[simp] def sendsLeft : SyncPoint → Nat
  | .look | .beginWait _ | .testClock _ | .send => 1
  | .testExit | .testExitAwake _ | .asleep _ => 0
  | .inUpdate | .record .. | .setStopped | .exited => 0

/-- The steps that a thread which is told to exit still takes, at most. -/
@[simp] def stepsLeft : SyncPoint → Nat
  | .exited => 0
  | .setStopped => 1
  | .testExit => 2
  | .testExitAwake _ => 2
  | .asleep _ => 3
  | .record .. => 3
  | .inUpdate => 4
  | .send => 5
  | .testClock _ => 6
  | .beginWait _ => 7
  | .look => 8

end SyncPoint

/-- The members of a `TimeSyncThread` that its method uses. -/
structure SyncThread where
  timeSyncInterval : Int64
  endpoint : TimeSyncEndpoint := {}
  shouldExit : Bool := false
  threadStopped : Bool := false
  point : SyncPoint := .testExit
  deriving DecidableEq

/-- The steps of the thread, the first block of `Stop`, and an estimate of another thread. -/
inductive SyncEvent
  | testExit
  | look
  | beginWait (now : Int64)
  | readClock (now : Int64)
  | wake
  | send
  | answer (updateResult : TimeSyncUpdateResult) (rxTime : Timestamp)
  | record (updateResult : TimeSyncUpdateResult) (rxTime : Timestamp)
  | setStopped
  | requestExit
  | estimate (updateResult : TimeSyncUpdateResult) (rxTime : Timestamp)
  deriving DecidableEq

namespace SyncEvent

def isSend : SyncEvent → Bool
  | .send => true
  | _ => false

/-- The steps of the background thread. -/
def isLoopStep : SyncEvent → Bool
  | .requestExit => false
  | .estimate .. => false
  | _ => true

/-- The outcome that an event offers to the endpoint. -/
def outcome? : SyncEvent → Option (TimeSyncUpdateResult × Timestamp)
  | .record updateResult rxTime => some (updateResult, rxTime)
  | .estimate updateResult rxTime => some (updateResult, rxTime)
  | _ => none

end SyncEvent

namespace SyncThread

def step (s : SyncThread) : SyncEvent → Option SyncThread
  | .testExit =>
      match s.point with
      | .testExit => some { s with point := if s.shouldExit then .setStopped else .look }
      | .testExitAwake endTime =>
          some { s with point := if s.shouldExit then .setStopped else .testClock endTime }
      | _ => none
  | .look =>
      match s.point with
      | .look => some { s with
          point := .beginWait (sleepNanos s.timeSyncInterval s.endpoint.previousResult) }
      | _ => none
  | .beginWait now =>
      match s.point with
      | .beginWait nanos => some { s with point := .testClock (now + nanos) }
      | _ => none
  | .readClock now =>
      match s.point with
      | .testClock endTime =>
          some { s with point := if now < endTime then .asleep endTime else .send }
      | _ => none
  | .wake =>
      match s.point with
      | .asleep endTime => some { s with point := .testExitAwake endTime }
      | _ => none
  | .send =>
      match s.point with
      | .send => some { s with point := .inUpdate }
      | _ => none
  -- a failed update is reported on `cerr` alone
  | .answer updateResult rxTime =>
      match s.point with
      | .inUpdate => some { s with
          point := if updateResult.status.ok then .record updateResult rxTime else .testExit }
      | _ => none
  | .record updateResult rxTime =>
      if s.point = .record updateResult rxTime then
        some { s with endpoint := updateState updateResult rxTime, point := .testExit }
      else none
  | .setStopped =>
      match s.point with
      | .setStopped => some { s with threadStopped := true, point := .exited }
      | _ => none
  | .requestExit => some { s with shouldExit := true }
  | .estimate updateResult rxTime =>
      some { s with endpoint := (s.endpoint.getNewEstimate updateResult rxTime).2 }

/-- The thread as `Start` creates it. -/
def new (timeSyncInterval : Int64) : SyncThread := { timeSyncInterval := timeSyncInterval }

/-- What a step does, by its kind and where the thread was. -/
inductive Takes (s : SyncThread) : SyncEvent → SyncThread → Prop
  | testExit (place : s.point = .testExit) :
      Takes s .testExit { s with point := if s.shouldExit then .setStopped else .look }
  | testExitAwake {endTime} (place : s.point = .testExitAwake endTime) :
      Takes s .testExit
        { s with point := if s.shouldExit then .setStopped else .testClock endTime }
  | look (place : s.point = .look) :
      Takes s .look { s with
        point := .beginWait (sleepNanos s.timeSyncInterval s.endpoint.previousResult) }
  | beginWait {now nanos} (place : s.point = .beginWait nanos) :
      Takes s (.beginWait now) { s with point := .testClock (now + nanos) }
  | early {now endTime} (place : s.point = .testClock endTime) (before : now < endTime) :
      Takes s (.readClock now) { s with point := .asleep endTime }
  | late {now endTime} (place : s.point = .testClock endTime) (after : ¬now < endTime) :
      Takes s (.readClock now) { s with point := .send }
  | wake {endTime} (place : s.point = .asleep endTime) :
      Takes s .wake { s with point := .testExitAwake endTime }
  | send (place : s.point = .send) : Takes s .send { s with point := .inUpdate }
  | failed {updateResult rxTime} (place : s.point = .inUpdate)
      (failed : updateResult.status.ok = false) :
      Takes s (.answer updateResult rxTime) { s with point := .testExit }
  | answered {updateResult rxTime} (place : s.point = .inUpdate)
      (ok : updateResult.status.ok = true) :
      Takes s (.answer updateResult rxTime) { s with point := .record updateResult rxTime }
  | record {updateResult rxTime} (place : s.point = .record updateResult rxTime) :
      Takes s (.record updateResult rxTime)
        { s with endpoint := updateState updateResult rxTime, point := .testExit }
  | setStopped (place : s.point = .setStopped) :
      Takes s .setStopped { s with threadStopped := true, point := .exited }
  | requestExit : Takes s .requestExit { s with shouldExit := true }
  | estimate {updateResult rxTime} :
      Takes s (.estimate updateResult rxTime)
        { s with endpoint := (s.endpoint.getNewEstimate updateResult rxTime).2 }

variable {s t : SyncThread} {e : SyncEvent} {h pre post : List SyncEvent}
  {timeSyncInterval : Int64}

theorem step_cases (hstep : StepOf step s e t) : s.Takes e t := by
  rw [StepOf] at hstep
  cases e with
  | testExit =>
      cases place : s.point <;> simp only [step, place] at hstep <;> cases hstep
      · exact .testExit place
      · exact .testExitAwake place
  | look =>
      cases place : s.point <;> simp only [step, place] at hstep <;> cases hstep
      exact .look place
  | beginWait now =>
      cases place : s.point <;> simp only [step, place] at hstep <;> cases hstep
      exact .beginWait place
  | readClock now =>
      cases place : s.point <;> simp only [step, place] at hstep <;> cases hstep
      split
      · next before => exact .early place before
      · next after => exact .late place after
  | wake =>
      cases place : s.point <;> simp only [step, place] at hstep <;> cases hstep
      exact .wake place
  | send =>
      cases place : s.point <;> simp only [step, place] at hstep <;> cases hstep
      exact .send place
  | answer updateResult rxTime =>
      cases place : s.point <;> simp only [step, place] at hstep <;> cases hstep
      split
      · next ok => exact .answered place ok
      · next failed => exact .failed place (Bool.eq_false_iff.mpr failed)
  | record updateResult rxTime =>
      simp only [step] at hstep
      split at hstep
      · next place =>
          cases hstep
          exact .record place
      · cases hstep
  | setStopped =>
      cases place : s.point <;> simp only [step, place] at hstep <;> cases hstep
      exact .setStopped place
  | requestExit =>
      cases hstep
      exact .requestExit
  | estimate updateResult rxTime =>
      cases hstep
      exact .estimate

/-! ## What the updates wait for -/

/-- The outcomes that a history offered to the endpoint, in order. -/
def recorded (h : List SyncEvent) : Outcomes := h.filterMap SyncEvent.outcome?

/-- What the thread does in its wait without ending it: the clock is early, it sleeps, and it
is not told to exit. -/
def Waits (endTime : Int64) : SyncEvent → Prop
  | .readClock now => now < endTime
  | .wake => True
  | .testExit => True
  | _ => False

/-- After the last look of a history, at what was recorded by then, the thread took these
steps of its own. -/
def LookedThen (timeSyncInterval : Int64) (h : List SyncEvent) (nanos : Int64)
    (own : List SyncEvent) : Prop :=
  ∃ before after, h = before ++ .look :: after ∧ after.filter SyncEvent.isLoopStep = own ∧
    nanos = sleepNanos timeSyncInterval (estimates (recorded before)).previousResult

/-- An update that is due: the time that the result it looked at calls for has gone by, from a
reading of the clock after the look to the last reading, and no earlier reading was as late. -/
def Due (timeSyncInterval : Int64) (h : List SyncEvent) : Prop :=
  ∃ nanos now waiting late,
    LookedThen timeSyncInterval h nanos (.beginWait now :: (waiting ++ [.readClock late])) ∧
      (∀ e ∈ waiting, Waits (now + nanos) e) ∧ ¬late < now + nanos

/-- What every history of the thread shows. -/
structure Synchronizes (timeSyncInterval : Int64) (h : List SyncEvent) (t : SyncThread) :
    Prop where
  endpoint : t.endpoint = estimates (recorded h)
  due : ∀ pre post, h = pre ++ .send :: post → Due timeSyncInterval pre
  told : t.point = .setStopped ∨ t.point = .exited → .requestExit ∈ h
  stopped : t.threadStopped = true ↔ t.point = .exited

/-- What is known of the wait that the thread is in. -/
def InWait (timeSyncInterval : Int64) (h : List SyncEvent) (endTime : Int64) : Prop :=
  ∃ nanos now waiting,
    LookedThen timeSyncInterval h nanos (.beginWait now :: waiting) ∧
      (∀ e ∈ waiting, Waits (now + nanos) e) ∧ endTime = now + nanos

/-- What the place of the thread tells of the history. -/
def PlaceKnown (timeSyncInterval : Int64) (h : List SyncEvent) : SyncPoint → Prop
  | .beginWait nanos => LookedThen timeSyncInterval h nanos []
  | .testClock endTime => InWait timeSyncInterval h endTime
  | .asleep endTime => InWait timeSyncInterval h endTime
  | .testExitAwake endTime => InWait timeSyncInterval h endTime
  | .send => Due timeSyncInterval h
  | .record updateResult _ => updateResult.status.ok = true
  | _ => True

/-- The invariant of a history and the state it leaves. -/
structure Paced (timeSyncInterval : Int64) (h : List SyncEvent) (t : SyncThread) : Prop
    extends Synchronizes timeSyncInterval h t where
  interval : t.timeSyncInterval = timeSyncInterval
  exit : t.shouldExit = true ↔ .requestExit ∈ h
  place : PlaceKnown timeSyncInterval h t.point

theorem recorded_snoc (h : List SyncEvent) (e : SyncEvent) :
    estimates (recorded (h ++ [e])) =
      match e.outcome? with
      | none => estimates (recorded h)
      | some outcome => ((estimates (recorded h)).getNewEstimate outcome.1 outcome.2).2 := by
  unfold recorded
  rw [List.filterMap_append]
  cases offered : e.outcome? with
  | none => simp [offered]
  | some outcome => simp [offered, estimates, List.foldl_append]

/-- A step of another thread leaves what the thread has done as it is. -/
theorem LookedThen.other {nanos : Int64} {own : List SyncEvent}
    (looked : LookedThen timeSyncInterval h nanos own) (other : e.isLoopStep = false) :
    LookedThen timeSyncInterval (h ++ [e]) nanos own := by
  obtain ⟨before, after, rfl, steps, same⟩ := looked
  exact ⟨before, after ++ [e], by simp, by simp [steps, other], same⟩

theorem LookedThen.own {nanos : Int64} {own : List SyncEvent}
    (looked : LookedThen timeSyncInterval h nanos own) (own' : e.isLoopStep = true) :
    LookedThen timeSyncInterval (h ++ [e]) nanos (own ++ [e]) := by
  obtain ⟨before, after, rfl, steps, same⟩ := looked
  exact ⟨before, after ++ [e], by simp, by simp [steps, own'], same⟩

theorem InWait.own {endTime : Int64} (inWait : InWait timeSyncInterval h endTime)
    (own : e.isLoopStep = true) (waits : Waits endTime e) :
    InWait timeSyncInterval (h ++ [e]) endTime := by
  obtain ⟨nanos, now, waiting, looked, early, rfl⟩ := inWait
  refine ⟨nanos, now, waiting ++ [e], looked.own own, ?_, rfl⟩
  intro x member
  rcases List.mem_append.mp member with before | last
  · exact early x before
  · rwa [List.mem_singleton.mp last]

/-- A reading that is not early makes the update due. -/
theorem InWait.due {endTime late : Int64} (inWait : InWait timeSyncInterval h endTime)
    (after : ¬late < endTime) : Due timeSyncInterval (h ++ [.readClock late]) := by
  obtain ⟨nanos, now, waiting, looked, early, rfl⟩ := inWait
  exact ⟨nanos, now, waiting, late, looked.own rfl, early, after⟩

theorem PlaceKnown.other {point : SyncPoint} (known : PlaceKnown timeSyncInterval h point)
    (other : e.isLoopStep = false) : PlaceKnown timeSyncInterval (h ++ [e]) point := by
  have kept {endTime : Int64} (inWait : InWait timeSyncInterval h endTime) :
      InWait timeSyncInterval (h ++ [e]) endTime := by
    obtain ⟨nanos, now, waiting, looked, rest⟩ := inWait
    exact ⟨nanos, now, waiting, looked.other other, rest⟩
  cases point with
  | beginWait nanos => exact LookedThen.other known other
  | testClock endTime => exact kept known
  | asleep endTime => exact kept known
  | testExitAwake endTime => exact kept known
  | send =>
      obtain ⟨nanos, now, waiting, late, looked, rest⟩ := known
      exact ⟨nanos, now, waiting, late, looked.other other, rest⟩
  | record updateResult rxTime => exact known
  | _ => trivial

theorem Synchronizes.due_snoc (shows : Synchronizes timeSyncInterval h s)
    (sends : e = .send → Due timeSyncInterval h) :
    ∀ pre post, h ++ [e] = pre ++ .send :: post → Due timeSyncInterval pre := by
  intro pre post split
  rcases split_snoc split with ⟨_, same, rfl⟩ | ⟨rest, _, earlier⟩
  · exact sends same
  · exact shows.due pre rest earlier

/-- A step of the thread that goes to another place. -/
theorem Paced.goTo (paced : Paced timeSyncInterval h s) {point : SyncPoint}
    (silent : e.outcome? = none) (sends : e = .send → Due timeSyncInterval h)
    (noRequest : e ≠ .requestExit) (told : point = .setStopped → s.shouldExit = true)
    (running : s.point ≠ .exited) (unended : point ≠ .exited)
    (known : PlaceKnown timeSyncInterval (h ++ [e]) point) :
    Paced timeSyncInterval (h ++ [e]) { s with point := point } := by
  constructor
  case toSynchronizes =>
    constructor
    case endpoint => rw [recorded_snoc, silent, paced.endpoint]
    case due => exact paced.due_snoc sends
    case told =>
      intro place
      have request := paced.exit.mp (told (place.resolve_right unended))
      exact List.mem_append_left _ request
    case stopped =>
      have unstopped : ¬s.threadStopped = true := fun stopped => running (paced.stopped.mp stopped)
      exact ⟨fun stopped => absurd stopped unstopped, fun ended => absurd ended unended⟩
  case interval => exact paced.interval
  case exit => simp [paced.exit, noRequest.symm]
  case place => exact known

/-- A change of the endpoint by an outcome. -/
theorem Paced.offer (paced : Paced timeSyncInterval h s)
    {outcome : TimeSyncUpdateResult × Timestamp} {point : SyncPoint}
    (offered : e.outcome? = some outcome)
    (stopped : s.threadStopped = true ↔ point = .exited)
    (told : point = .setStopped ∨ point = .exited → .requestExit ∈ h)
    (known : PlaceKnown timeSyncInterval (h ++ [e]) point) :
    Paced timeSyncInterval (h ++ [e])
      { s with
        endpoint := (s.endpoint.getNewEstimate outcome.1 outcome.2).2
        point := point } := by
  constructor
  case toSynchronizes =>
    constructor
    case endpoint => rw [recorded_snoc, offered, paced.endpoint]
    case due => exact paced.due_snoc fun sends => by simp [sends, SyncEvent.outcome?] at offered
    case told => exact fun place => List.mem_append_left _ (told place)
    case stopped => exact stopped
  case interval => exact paced.interval
  case exit =>
    have noRequest : SyncEvent.requestExit ≠ e := by
      rintro rfl
      cases offered
    simp [paced.exit, noRequest]
  case place => exact known

theorem Paced.step (paced : Paced timeSyncInterval h s)
    (hstep : StepOf SyncThread.step s e t) : Paced timeSyncInterval (h ++ [e]) t := by
  have known := paced.place
  cases step_cases hstep with
  | testExit place =>
      split
      · next set =>
        exact paced.goTo rfl nofun nofun (fun _ => set) (by simp [place]) nofun trivial
      · exact paced.goTo rfl nofun nofun nofun (by simp [place]) nofun trivial
  | testExitAwake place =>
      rw [place] at known
      split
      · next set =>
        exact paced.goTo rfl nofun nofun (fun _ => set) (by simp [place]) nofun trivial
      · exact paced.goTo rfl nofun nofun nofun (by simp [place]) nofun
          (InWait.own known rfl trivial)
  | look place =>
      refine paced.goTo rfl nofun nofun nofun (by simp [place]) nofun ?_
      exact ⟨h, [], rfl, rfl, by rw [paced.interval, paced.endpoint]⟩
  | @beginWait now nanos place =>
      rw [place] at known
      refine paced.goTo rfl nofun nofun nofun (by simp [place]) nofun ?_
      exact ⟨nanos, now, [], LookedThen.own known rfl, by simp, rfl⟩
  | early place before =>
      rw [place] at known
      exact paced.goTo rfl nofun nofun nofun (by simp [place]) nofun
        (InWait.own known rfl before)
  | late place after =>
      rw [place] at known
      exact paced.goTo rfl nofun nofun nofun (by simp [place]) nofun (InWait.due known after)
  | wake place =>
      rw [place] at known
      exact paced.goTo rfl nofun nofun nofun (by simp [place]) nofun
        (InWait.own known rfl trivial)
  | send place =>
      rw [place] at known
      exact paced.goTo rfl (fun _ => known) nofun nofun (by simp [place]) nofun trivial
  | failed place _ =>
      exact paced.goTo rfl nofun nofun nofun (by simp [place]) nofun trivial
  | answered place ok =>
      exact paced.goTo rfl nofun nofun nofun (by simp [place]) nofun ok
  | @record updateResult rxTime place =>
      rw [place] at known
      rw [← getNewEstimate_ok s.endpoint known rxTime]
      refine paced.offer (e := .record updateResult rxTime) rfl ?_ nofun trivial
      simp [paced.stopped, place]
  | setStopped place =>
      have told := paced.told (.inl place)
      exact
        { endpoint := by rw [recorded_snoc]; exact paced.endpoint
          due := paced.due_snoc nofun
          told := fun _ => List.mem_append_left _ told
          stopped := by simp
          interval := paced.interval
          exit := by simp [paced.exit]
          place := trivial }
  | requestExit =>
      exact
        { endpoint := by rw [recorded_snoc]; exact paced.endpoint
          due := paced.due_snoc nofun
          told := fun _ => by simp
          stopped := paced.stopped
          interval := paced.interval
          exit := by simp
          place := known.other rfl }
  | @estimate updateResult rxTime =>
      exact paced.offer (e := .estimate updateResult rxTime) rfl paced.stopped paced.told
        (known.other rfl)

/-- In every interleaving the endpoint holds the last success that was recorded, by whichever
thread; every update of the thread waits for as long as the result it looked at calls for, and
no longer than the clock allows; and the thread goes on, also after failures, until it is told
to exit. -/
theorem updates_keep_pace
    (run : Run (StepOf SyncThread.step) (new timeSyncInterval) h t) :
    Synchronizes timeSyncInterval h t := by
  have base : Paced timeSyncInterval [] (new timeSyncInterval) :=
    { endpoint := rfl
      due := by simp
      told := by simp [new]
      stopped := by simp [new]
      interval := rfl
      exit := by simp [new]
      place := trivial }
  have paced : Paced timeSyncInterval h t := run.recorded (I := Paced timeSyncInterval) base Paced.step
  exact paced.toSynchronizes

/-- A first update that succeeds, and a second one after a minute. -/
def minuteRun : List SyncEvent :=
  let ok : TimeSyncUpdateResult :=
    ⟨⟨SDKErrorCode.success.code, ""⟩, { state := { status := TimeSyncState.statusOk } }⟩
  [.testExit, .look, .beginWait 0, .readClock 0, .send, .answer ok {}, .record ok {}, .testExit,
    .look, .beginWait 1, .readClock 1, .wake, .testExit, .readClock 60000000001, .send]

theorem updates_keep_pace_minute :
    ∃ t, Synchronizes 60000000000 minuteRun t ∧ t.endpoint.hasEstablishedTimeSync = true :=
  ⟨_, updates_keep_pace (.cons rfl (.cons rfl (.cons rfl (.cons rfl (.cons rfl (.cons rfl
    (.cons rfl (.cons rfl (.cons rfl (.cons rfl (.cons rfl (.cons rfl (.cons rfl (.cons rfl
      (.cons rfl (.nil _)))))))))))))))), by decide⟩

/-! ## The end of the thread -/

/-- What a step costs a thread that is told to exit. -/
structure Winds (s : SyncThread) (e : SyncEvent) (t : SyncThread) : Prop where
  told : t.shouldExit = true
  sends : e.isSend.toNat + t.point.sendsLeft ≤ s.point.sendsLeft
  steps : e.isLoopStep.toNat + t.point.stepsLeft ≤ s.point.stepsLeft

theorem winds_of_told (told : s.shouldExit = true) (hstep : StepOf SyncThread.step s e t) :
    Winds s e t := by
  cases step_cases hstep with
  | testExit place | testExitAwake place =>
      exact ⟨told, by simp [place, told, SyncEvent.isSend],
        by simp [place, told, SyncEvent.isLoopStep]⟩
  | requestExit => exact ⟨rfl, by simp [SyncEvent.isSend], by simp [SyncEvent.isLoopStep]⟩
  | estimate => exact ⟨told, by simp [SyncEvent.isSend], by simp [SyncEvent.isLoopStep]⟩
  | look place | beginWait place | early place _ | late place _ | wake place | send place
  | failed place _ | answered place _ | record place | setStopped place =>
      exact ⟨told, by simp [place, SyncEvent.isSend], by simp [place, SyncEvent.isLoopStep]⟩

theorem pays_sends : Pays (StepOf SyncThread.step) (·.shouldExit = true) SyncEvent.isSend
    (·.point.sendsLeft) :=
  ⟨fun told hstep => (winds_of_told told hstep).told,
    fun told hstep => (winds_of_told told hstep).sends⟩

theorem pays_steps : Pays (StepOf SyncThread.step) (·.shouldExit = true) SyncEvent.isLoopStep
    (·.point.stepsLeft) :=
  ⟨fun told hstep => (winds_of_told told hstep).told,
    fun told hstep => (winds_of_told told hstep).steps⟩

/-- Until it has exited the thread can take its next step. -/
theorem exists_loopStep (running : s.point ≠ .exited) :
    ∃ e, e.isLoopStep = true ∧ (SyncThread.step s e).isSome = true := by
  cases place : s.point with
  | testExit => exact ⟨.testExit, rfl, by simp [SyncThread.step, place]⟩
  | look => exact ⟨.look, rfl, by simp [SyncThread.step, place]⟩
  | beginWait nanos => exact ⟨.beginWait 0, rfl, by simp [SyncThread.step, place]⟩
  | testClock endTime => exact ⟨.readClock 0, rfl, by simp [SyncThread.step, place]⟩
  | asleep endTime => exact ⟨.wake, rfl, by simp [SyncThread.step, place]⟩
  | testExitAwake endTime => exact ⟨.testExit, rfl, by simp [SyncThread.step, place]⟩
  | send => exact ⟨.send, rfl, by simp [SyncThread.step, place]⟩
  | inUpdate =>
      exact ⟨.answer ⟨⟨SDKErrorCode.success.code, ""⟩, {}⟩ {}, rfl,
        by simp [SyncThread.step, place]⟩
  | record updateResult rxTime =>
      exact ⟨.record updateResult rxTime, rfl, by simp [SyncThread.step, place]⟩
  | setStopped => exact ⟨.setStopped, rfl, by simp [SyncThread.step, place]⟩
  | exited => exact absurd place running

/-- Told to exit, the thread makes at most one more update and ends within eight steps of its
own, so the `join` of `Stop` returns once they are taken. -/
theorem sync_thread_ends
    (run : Run (StepOf SyncThread.step) s (pre ++ .requestExit :: post) t) :
    post.countP SyncEvent.isSend ≤ 1 ∧ post.countP SyncEvent.isLoopStep ≤ 8 ∧
      (t.point ≠ .exited →
        ∃ e, e.isLoopStep = true ∧ (SyncThread.step t e).isSome = true) := by
  obtain ⟨u, -, after⟩ := run.split
  cases after with
  | @cons _ _ v _ _ request tail =>
      have told : v.shouldExit = true := by
        cases step_cases request
        rfl
      have sends := pays_sends.countP_le tail told
      have steps := pays_steps.countP_le tail told
      refine ⟨Nat.le_trans sends ?_, Nat.le_trans steps ?_, exists_loopStep⟩
      · cases v.point <;> simp
      · cases v.point <;> simp

/-- The thread is told to exit just after it has tested for that. -/
def toldTooLate : List SyncEvent :=
  let failed : TimeSyncUpdateResult := ⟨⟨previousTimeSyncUnavailableYet, ""⟩, {}⟩
  [.look, .beginWait 0, .readClock 0, .send, .answer failed {}, .testExit, .setStopped]

theorem sync_thread_ends_toldTooLate :
    toldTooLate.countP SyncEvent.isSend ≤ 1 ∧
      toldTooLate.countP SyncEvent.isLoopStep ≤ 8 := by
  have run : Run (StepOf SyncThread.step) (new 60000000000)
      ([.testExit] ++ .requestExit :: toldTooLate) _ :=
    .cons rfl (.cons rfl (.cons rfl (.cons rfl (.cons rfl (.cons rfl (.cons rfl (.cons rfl
      (.cons rfl (.nil _)))))))))
  have ends := sync_thread_ends run
  exact ⟨ends.1, ends.2.1⟩

end SyncThread

/-! ## Establishing time sync in the foreground -/

namespace TimeSyncEndpoint

/-- The rest of the loop of `EstablishTimeSync`, where `counter` estimates were taken. The
answers come in order; the second part counts the estimates taken. -/
def establishFrom (breakOnSuccess : Bool)
    (answers : Nat → TimeSyncUpdateResult × Timestamp) :
    Nat → Nat → TimeSyncEndpoint → Bool × Nat × TimeSyncEndpoint
  | 0, counter, endpoint => (endpoint.hasEstablishedTimeSync, counter, endpoint)
  | left + 1, counter, endpoint =>
      if breakOnSuccess && endpoint.hasEstablishedTimeSync then (true, counter, endpoint)
      else
        establishFrom breakOnSuccess answers left (counter + 1)
          (endpoint.getNewEstimate (answers counter).1 (answers counter).2).2

def establishTimeSync (endpoint : TimeSyncEndpoint) (maxSamples : Int) (breakOnSuccess : Bool)
    (answers : Nat → TimeSyncUpdateResult × Timestamp) : Bool × Nat × TimeSyncEndpoint :=
  establishFrom breakOnSuccess answers maxSamples.toNat 0 endpoint

/-- The endpoint after the first of the answers. -/
def sampled (endpoint : TimeSyncEndpoint) (answers : Nat → TimeSyncUpdateResult × Timestamp) :
    Nat → TimeSyncEndpoint
  | 0 => endpoint
  | n + 1 =>
      ((sampled endpoint answers n).getNewEstimate (answers n).1 (answers n).2).2

/-- What `EstablishTimeSync` returns, how many estimates it takes, and what they leave. -/
structure Establishes (endpoint : TimeSyncEndpoint) (maxSamples : Int) (breakOnSuccess : Bool)
    (answers : Nat → TimeSyncUpdateResult × Timestamp)
    (result : Bool × Nat × TimeSyncEndpoint) : Prop where
  bounded : result.2.1 ≤ maxSamples.toNat
  left : result.2.2 = sampled endpoint answers result.2.1
  reports : result.1 = result.2.2.hasEstablishedTimeSync
  all : breakOnSuccess = false → result.2.1 = maxSamples.toNat
  /-- With a break, an estimate is taken only while none of the samples has sufficed. -/
  first : breakOnSuccess = true →
    ∀ n, (n < result.2.1 ↔
      n < maxSamples.toNat ∧ ∀ k ≤ n, (sampled endpoint answers k).hasEstablishedTimeSync = false)
  succeeds : breakOnSuccess = true →
    (result.1 = true ↔
      ∃ k ≤ maxSamples.toNat, (sampled endpoint answers k).hasEstablishedTimeSync = true)

/-- From the samples taken so far the loop takes those that are still missing. -/
theorem establishFrom_spec (endpoint : TimeSyncEndpoint) (breakOnSuccess : Bool)
    (answers : Nat → TimeSyncUpdateResult × Timestamp) (left counter : Nat)
    (missing : breakOnSuccess = true → ∀ k < counter,
      (sampled endpoint answers k).hasEstablishedTimeSync = false) :
    ∃ n, counter ≤ n ∧ n ≤ counter + left ∧
      establishFrom breakOnSuccess answers left counter (sampled endpoint answers counter) =
        ((sampled endpoint answers n).hasEstablishedTimeSync, n, sampled endpoint answers n) ∧
      (n < counter + left → breakOnSuccess = true ∧
        (sampled endpoint answers n).hasEstablishedTimeSync = true) ∧
      (breakOnSuccess = true → ∀ k < n,
        (sampled endpoint answers k).hasEstablishedTimeSync = false) := by
  induction left generalizing counter with
  | zero => exact ⟨counter, Nat.le_refl _, Nat.le_refl _, rfl, by simp, missing⟩
  | succ left ih =>
      rw [establishFrom]
      split
      · next both =>
        obtain ⟨breaks, established⟩ := (Bool.and_eq_true_iff).mp both
        refine ⟨counter, Nat.le_refl _, by omega, by rw [established], fun _ => ⟨breaks, established⟩,
          missing⟩
      · next goesOn =>
        have missing' : breakOnSuccess = true → ∀ k < counter + 1,
            (sampled endpoint answers k).hasEstablishedTimeSync = false := by
          intro breaks k below
          rcases Nat.lt_succ_iff_lt_or_eq.mp below with before | rfl
          · exact missing breaks k before
          · simpa [breaks] using goesOn
        obtain ⟨n, low, high, result, stops, first⟩ := ih (counter + 1) missing'
        exact ⟨n, by omega, by omega, result, fun early => stops (by omega), first⟩

/-- Without a break all samples are taken. With one, exactly those are taken that come before
the first success, and success is returned exactly if one of the samples establishes it. -/
theorem establishTimeSync_establishes (endpoint : TimeSyncEndpoint) (maxSamples : Int)
    (breakOnSuccess : Bool) (answers : Nat → TimeSyncUpdateResult × Timestamp) :
    Establishes endpoint maxSamples breakOnSuccess answers
      (endpoint.establishTimeSync maxSamples breakOnSuccess answers) := by
  obtain ⟨n, -, high, result, stops, first⟩ :=
    establishFrom_spec endpoint breakOnSuccess answers maxSamples.toNat 0 (by simp)
  rw [Nat.zero_add] at high stops
  have taken : endpoint.establishTimeSync maxSamples breakOnSuccess answers = _ := result
  rw [taken]
  constructor
  case bounded => exact high
  case left => rfl
  case reports => rfl
  case all =>
    intro goesOn
    by_contra fewer
    have both := stops (Nat.lt_of_le_of_ne high fewer)
    rw [goesOn] at both
    cases both.1
  case first =>
    intro breaks m
    constructor
    · intro below
      exact ⟨Nat.lt_of_lt_of_le below high,
        fun k le => first breaks k (Nat.lt_of_le_of_lt le below)⟩
    · rintro ⟨inside, missing⟩
      by_contra beyond
      have atMost := Nat.not_lt.mp beyond
      have established := (stops (Nat.lt_of_le_of_lt atMost inside)).2
      rw [missing n atMost] at established
      cases established
  case succeeds =>
    intro breaks
    constructor
    · exact fun established => ⟨n, high, established⟩
    · rintro ⟨k, inside, established⟩
      by_contra failed
      have last : n = maxSamples.toNat := by
        by_contra fewer
        exact failed (stops (Nat.lt_of_le_of_ne high fewer)).2
      rcases Nat.lt_or_eq_of_le inside with before | rfl
      · rw [first breaks k (last ▸ before)] at established
        cases established
      · exact failed (last ▸ established)

end TimeSyncEndpoint

end SpotSdk.Client.TimeSync
