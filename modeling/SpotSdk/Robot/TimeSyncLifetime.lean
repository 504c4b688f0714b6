import Mathlib.Data.List.Count
import SpotSdk.Foundations.LabelledRuns
import SpotSdk.TimeSync.TimeSyncEndpoint

/-!
# The time sync thread of a robot

The public calls that start time sync share `SetTimeSyncMembers`, which makes a new
`TimeSyncThread` each time. The robot holds its thread by a shared pointer, so the old
object goes when the application holds no pointer to it, and runs on otherwise.
-/

namespace SpotSdk.Client

open Foundations Common
open TimeSync (TimeSyncEndpoint TimeSyncUpdateResult TimeSyncState Timestamp)

/-- A `TimeSyncThread` with its endpoint. `references` counts the shared pointers that
the application holds. -/
structure TimeSyncThread where
  endpoint : TimeSyncEndpoint := {}
  stopped : Bool := true
  references : Nat := 0
  destroyed : Bool := false
  deriving DecidableEq, Repr

namespace TimeSyncThread

/-- `Start`, which does nothing if the thread runs. -/
def start (thread : TimeSyncThread) : TimeSyncThread :=
  if !thread.stopped then thread else { thread with stopped := false }

/-- `Stop`, which joins the thread. -/
def stop (thread : TimeSyncThread) : TimeSyncThread :=
  if thread.stopped then thread else { thread with stopped := true }

/-- The destructor stops the thread. -/
def destroy (thread : TimeSyncThread) : TimeSyncThread :=
  { thread.stop with destroyed := true }

/-- One turn of its loop. -/
def getNewEstimate (thread : TimeSyncThread) (updateResult : TimeSyncUpdateResult)
    (rxTime : Timestamp) : TimeSyncThread :=
  { thread with endpoint := (thread.endpoint.getNewEstimate updateResult rxTime).2 }

/-- The robot lets go of the thread. -/
def dropFromRobot (thread : TimeSyncThread) : TimeSyncThread :=
  if thread.references = 0 then thread.destroy else thread

/-- The application lets go of one of its pointers. -/
def dropFromApp (usedByRobot : Bool) (thread : TimeSyncThread) : TimeSyncThread :=
  let left := { thread with references := thread.references - 1 }
  if left.references = 0 && !usedByRobot then left.destroy else left

end TimeSyncThread

/-- The time sync members of a `Robot`: every `TimeSyncThread` it made, in order, the
one `m_time_sync_thread` points to, the threads whose endpoint was returned, and the
thread that `StartTimeSyncAndGetEndpoint` waits for. -/
structure RobotTimeSync where
  threads : List TimeSyncThread := []
  timeSyncThread : Option Nat := none
  returned : List Nat := []
  waiting : Option Nat := none
  deriving DecidableEq

/-- The calls of the application, in the parts that RPCs may come between, and what
the background threads do. A call that starts time sync gets the status with which its
client was made. -/
inductive TimeSyncEvent
  | startTimeSync (client : Status)
  | getTimeSyncThread (client : Status)
  | startTimeSyncAndGetEndpoint (client : Status)
  | waitForSync (synced : Bool)
  | stopTimeSync
  | update (id : Nat) (updateResult : TimeSyncUpdateResult) (rxTime : Timestamp)
  | release (id : Nat)
  deriving DecidableEq

namespace RobotTimeSync

def modifyThread (s : RobotTimeSync) (id : Option Nat)
    (change : TimeSyncThread → TimeSyncThread) : RobotTimeSync :=
  match id with
  | none => s
  | some id => { s with threads := s.threads.modify id change }

/-- `SetTimeSyncMembers`. The new thread is made before the old one is let go. -/
def setTimeSyncMembers (s : RobotTimeSync) (client : Status) : RobotTimeSync × Status :=
  if !client.ok then (s, client)
  else
    let dropped := s.modifyThread s.timeSyncThread TimeSyncThread.dropFromRobot
    ({ dropped with
        threads := dropped.threads ++ [{}], timeSyncThread := some s.threads.length },
      ⟨SDKErrorCode.success.code, ""⟩)

/-- `StartTimeSync`. -/
def startTimeSync (s : RobotTimeSync) (client : Status) : RobotTimeSync × Status :=
  let set := s.setTimeSyncMembers client
  if !set.2.ok then set
  else (set.1.modifyThread set.1.timeSyncThread TimeSyncThread.start,
    ⟨SDKErrorCode.success.code, ""⟩)

/-- `StopTimeSync`. -/
def stopTimeSync (s : RobotTimeSync) : RobotTimeSync :=
  s.modifyThread s.timeSyncThread TimeSyncThread.stop

/-- `GetTimeSyncThread`, whose pointer the application keeps. -/
def getTimeSyncThread (s : RobotTimeSync) (client : Status) : RobotTimeSync × Status :=
  let started := s.startTimeSync client
  if !started.2.ok then started
  else (started.1.modifyThread started.1.timeSyncThread fun thread =>
    { thread with references := thread.references + 1 }, ⟨SDKErrorCode.success.code, ""⟩)

/-- `StartTimeSyncAndGetEndpoint` up to `WaitForSync`. Its own pointer to the thread is
not counted: the robot holds one as long. -/
def startTimeSyncAndGetEndpoint (s : RobotTimeSync) (client : Status) : RobotTimeSync :=
  let started := s.startTimeSync client
  if !started.2.ok then started.1
  else { started.1 with waiting := started.1.timeSyncThread }

/-- One event. The calls follow each other; only RPCs come between the two parts of
`StartTimeSyncAndGetEndpoint`. -/
def step (s : RobotTimeSync) (e : TimeSyncEvent) : Option RobotTimeSync :=
  match s.waiting, e with
  | none, .startTimeSync client => some (s.startTimeSync client).1
  | none, .getTimeSyncThread client => some (s.getTimeSyncThread client).1
  | none, .startTimeSyncAndGetEndpoint client => some (s.startTimeSyncAndGetEndpoint client)
  | none, .stopTimeSync => some s.stopTimeSync
  | some id, .waitForSync synced =>
      if !synced then some { s with waiting := none }
      else if (s.threads[id]?.map (·.endpoint.hasEstablishedTimeSync)).getD false then
        some { s with waiting := none, returned := s.returned ++ [id] }
      else none
  | _, .update id updateResult rxTime =>
      if (s.threads[id]?.map fun thread => !thread.stopped).getD false then
        some (s.modifyThread (some id) (·.getNewEstimate updateResult rxTime))
      else none
  | _, .release id =>
      if (s.threads[id]?.map fun thread => 0 < thread.references : Option Bool).getD false then
        some (s.modifyThread (some id)
          (TimeSyncThread.dropFromApp (s.timeSyncThread = some id)))
      else none
  | _, _ => none

/-- The sync that the robot uses is established. -/
def established (s : RobotTimeSync) : Bool :=
  (s.timeSyncThread.bind (s.threads[·]?)).elim false (·.endpoint.hasEstablishedTimeSync)

end RobotTimeSync

/-- A call that makes a new thread. -/
def TimeSyncEvent.starts : TimeSyncEvent → Bool
  | .startTimeSync client => client.ok
  | .getTimeSyncThread client => client.ok
  | .startTimeSyncAndGetEndpoint client => client.ok
  | _ => false

/-- A call that is to start time sync, whether or not its client could be made. -/
def TimeSyncEvent.isStart : TimeSyncEvent → Bool
  | .startTimeSync _ => true
  | .getTimeSyncThread _ => true
  | .startTimeSyncAndGetEndpoint _ => true
  | _ => false

/-- What the calls promise together: one thread object, one running thread, endpoints
that stay those the robot uses, and no start that loses an established sync. -/
structure KeepsOneSync (h : List TimeSyncEvent) (s : RobotTimeSync) : Prop where
  once : s.threads.length ≤ 1
  single : s.threads.countP (!·.stopped) ≤ 1
  endpoints : ∀ id ∈ s.returned, s.timeSyncThread = some id ∧
    ∃ thread, s.threads[id]? = some thread ∧ thread.destroyed = false
  kept : ∀ pre e post t u, h = pre ++ e :: post → e.isStart = true →
    Run (StepOf RobotTimeSync.step) {} pre t → StepOf RobotTimeSync.step t e u →
    t.established = true → u.established = true

namespace RobotTimeSync

variable {s t : RobotTimeSync} {e : TimeSyncEvent} {h : List TimeSyncEvent}

@[simp] theorem modifyThread_length (id : Option Nat)
    (change : TimeSyncThread → TimeSyncThread) :
    (s.modifyThread id change).threads.length = s.threads.length := by
  cases id <;> simp [modifyThread]

theorem setTimeSyncMembers_failed {client : Status} (failed : client.ok = false) :
    s.setTimeSyncMembers client = (s, client) := by
  simp [setTimeSyncMembers, failed]

theorem startTimeSync_failed {client : Status} (failed : client.ok = false) :
    s.startTimeSync client = (s, client) := by
  simp [startTimeSync, setTimeSyncMembers_failed, failed]

theorem startTimeSync_ok {client : Status} (ok : client.ok = true) :
    (s.startTimeSync client).2.ok = true := by
  simp [startTimeSync, setTimeSyncMembers, ok]

theorem startTimeSync_length {client : Status} (ok : client.ok = true) :
    (s.startTimeSync client).1.threads.length = s.threads.length + 1 := by
  simp [startTimeSync, setTimeSyncMembers, ok]

/-- The steps of the time sync members, one for each way an event goes. -/
inductive Takes (s : RobotTimeSync) : TimeSyncEvent → RobotTimeSync → Prop
  | startTimeSync {client} : Takes s (.startTimeSync client) (s.startTimeSync client).1
  | getTimeSyncThread {client} :
      Takes s (.getTimeSyncThread client) (s.getTimeSyncThread client).1
  | startTimeSyncAndGetEndpoint {client} :
      Takes s (.startTimeSyncAndGetEndpoint client) (s.startTimeSyncAndGetEndpoint client)
  | gaveUp : Takes s (.waitForSync false) { s with waiting := none }
  | synced {id} (waits : s.waiting = some id) :
      Takes s (.waitForSync true) { s with waiting := none, returned := s.returned ++ [id] }
  | stopTimeSync : Takes s .stopTimeSync s.stopTimeSync
  | update {id updateResult rxTime} :
      Takes s (.update id updateResult rxTime)
        (s.modifyThread (some id) (·.getNewEstimate updateResult rxTime))
  | release {id} :
      Takes s (.release id)
        (s.modifyThread (some id) (TimeSyncThread.dropFromApp (s.timeSyncThread = some id)))

theorem step_cases (hstep : StepOf step s e t) : Takes s e t := by
  unfold StepOf step at hstep
  split at hstep
  case h_1 => exact Option.some.inj hstep ▸ .startTimeSync
  case h_2 => exact Option.some.inj hstep ▸ .getTimeSyncThread
  case h_3 => exact Option.some.inj hstep ▸ .startTimeSyncAndGetEndpoint
  case h_4 => exact Option.some.inj hstep ▸ .stopTimeSync
  case h_5 id synced waits =>
    cases synced with
    | false => exact Option.some.inj hstep ▸ .gaveUp
    | true =>
        simp only [Bool.not_true, Bool.false_eq_true, if_false] at hstep
        split_ifs at hstep
        exact Option.some.inj hstep ▸ .synced waits
  case h_6 =>
    split_ifs at hstep
    exact Option.some.inj hstep ▸ .update
  case h_7 =>
    split_ifs at hstep
    exact Option.some.inj hstep ▸ .release
  case h_8 => cases hstep

/-- A start whose client could not be made changes nothing. -/
theorem unchanged_of_failed (hstep : StepOf step s e t) (start : e.isStart = true)
    (failed : e.starts = false) : t = s := by
  cases step_cases hstep with
  | @startTimeSync client => rw [startTimeSync_failed failed]
  | @getTimeSyncThread client =>
      have refused : client.ok = false := failed
      simp [getTimeSyncThread, startTimeSync_failed refused, refused]
  | @startTimeSyncAndGetEndpoint client =>
      have refused : client.ok = false := failed
      simp [startTimeSyncAndGetEndpoint, startTimeSync_failed refused, refused]
  | _ => cases start

/-- The steps that make no thread. -/
theorem quiet_cases (hstep : StepOf step s e t) (starts : e.starts = false) :
    t = s ∨ t = { s with waiting := none } ∨
      (∃ id, s.waiting = some id ∧
        t = { s with waiting := none, returned := s.returned ++ [id] }) ∨
      t = s.stopTimeSync ∨
      (∃ id updateResult rxTime,
        t = s.modifyThread (some id) (·.getNewEstimate updateResult rxTime)) ∨
      ∃ id, t = s.modifyThread (some id)
        (TimeSyncThread.dropFromApp (s.timeSyncThread = some id)) := by
  cases start : e.isStart with
  | true => exact .inl (unchanged_of_failed hstep start starts)
  | false =>
      cases step_cases hstep with
      | startTimeSync => cases start
      | getTimeSyncThread => cases start
      | startTimeSyncAndGetEndpoint => cases start
      | gaveUp => exact .inr (.inl rfl)
      | synced waits => exact .inr (.inr (.inl ⟨_, waits, rfl⟩))
      | stopTimeSync => exact .inr (.inr (.inr (.inl rfl)))
      | update => exact .inr (.inr (.inr (.inr (.inl ⟨_, _, _, rfl⟩))))
      | release => exact .inr (.inr (.inr (.inr (.inr ⟨_, rfl⟩))))

/-- Each successful start makes one thread. -/
theorem length_step (hstep : StepOf step s e t) :
    t.threads.length = s.threads.length + if e.starts then 1 else 0 := by
  cases starts : e.starts with
  | false =>
      obtain rfl | rfl | ⟨id, -, rfl⟩ | rfl | ⟨id, updateResult, rxTime, rfl⟩ | ⟨id, rfl⟩ :=
        quiet_cases hstep starts
      · rfl
      · rfl
      · rfl
      · simp [stopTimeSync]
      · simp
      · simp
  | true =>
      cases step_cases hstep with
      | @startTimeSync client => simpa using startTimeSync_length starts
      | @getTimeSyncThread client =>
          simp [getTimeSyncThread, startTimeSync_ok starts, startTimeSync_length starts]
      | @startTimeSyncAndGetEndpoint client =>
          simp [startTimeSyncAndGetEndpoint, startTimeSync_ok starts,
            startTimeSync_length starts]
      | _ => cases starts

theorem length_eq (run : Run (StepOf step) {} h s) :
    s.threads.length = h.countP TimeSyncEvent.starts := by
  refine run.recorded (I := fun h s => s.threads.length = h.countP TimeSyncEvent.starts)
    (List.countP_nil).symm ?_
  intro h s e t counted hstep
  rw [length_step hstep, counted, List.countP_append, List.countP_singleton]

/-- The robot made one thread, which it uses, and returned only endpoints of it. -/
structure Single (s : RobotTimeSync) (thread : TimeSyncThread) : Prop where
  threads : s.threads = [thread]
  used : s.timeSyncThread = some 0
  live : thread.destroyed = false
  returned : ∀ id ∈ s.returned, id = 0
  waiting : ∀ id, s.waiting = some id → id = 0

/-- A change of the thread that does not destroy it. -/
theorem Single.modify {thread : TimeSyncThread} (one : Single s thread) (id : Option Nat)
    (change : TimeSyncThread → TimeSyncThread) (live : (change thread).destroyed = false) :
    ∃ thread', Single (s.modifyThread id change) thread' := by
  rcases id with _ | _ | id
  · exact ⟨thread, one⟩
  · exact ⟨change thread, by simp [modifyThread, one.threads], one.used, live, one.returned,
      one.waiting⟩
  · exact ⟨thread, by simp [modifyThread, one.threads], one.used, one.live, one.returned,
      one.waiting⟩

theorem Single.step {thread : TimeSyncThread} (one : Single s thread)
    (hstep : StepOf step s e t) (starts : e.starts = false) : ∃ thread', Single t thread' := by
  obtain rfl | rfl | ⟨id, waits, rfl⟩ | rfl | ⟨id, updateResult, rxTime, rfl⟩ | ⟨id, rfl⟩ :=
    quiet_cases hstep starts
  · exact ⟨thread, one⟩
  · exact ⟨thread, one.threads, one.used, one.live, one.returned, nofun⟩
  · refine ⟨thread, one.threads, one.used, one.live, fun id' mem => ?_, nofun⟩
    rcases List.mem_append.mp mem with mem | mem
    · exact one.returned id' mem
    · rw [List.mem_singleton.mp mem]
      exact one.waiting _ waits
  · apply one.modify
    unfold TimeSyncThread.stop
    split
    · exact one.live
    · exact one.live
  · apply one.modify
    exact one.live
  · by_cases same : s.timeSyncThread = some id
    · apply one.modify
      simp [TimeSyncThread.dropFromApp, same, one.live]
    · cases id with
      | zero => exact absurd one.used same
      | succ id =>
          refine ⟨thread, ?_, one.used, one.live, one.returned, one.waiting⟩
          simp [modifyThread, one.threads]

/-- The first successful start makes the one thread and starts it. -/
theorem single_of_start (hstep : StepOf step {} e t) (starts : e.starts = true) :
    ∃ thread, Single t thread := by
  have started : ∀ client : Status, client.ok = true → (startTimeSync {} client).1 =
      { threads := [{ stopped := false }], timeSyncThread := some 0 } := by
    intro client ok
    simp [startTimeSync, setTimeSyncMembers, ok, modifyThread, TimeSyncThread.start]
  cases step_cases hstep with
  | @startTimeSync client =>
      rw [started client starts]
      exact ⟨_, rfl, rfl, rfl, nofun, nofun⟩
  | @getTimeSyncThread client =>
      refine ⟨{ stopped := false, references := 1 }, ?_⟩
      simp only [getTimeSyncThread, startTimeSync_ok starts, started client starts]
      exact ⟨rfl, rfl, rfl, nofun, nofun⟩
  | @startTimeSyncAndGetEndpoint client =>
      refine ⟨{ stopped := false }, ?_⟩
      simp only [startTimeSyncAndGetEndpoint, startTimeSync_ok starts, started client starts]
      exact ⟨rfl, rfl, rfl, nofun, fun _ same => (Option.some.inj same).symm⟩
  | _ => cases starts

/-- Before the first successful start nothing changes. -/
theorem fresh_of_quiet (hstep : StepOf step {} e t) (starts : e.starts = false) : t = {} := by
  obtain same | rfl | ⟨id, waits, -⟩ | rfl | ⟨id, updateResult, rxTime, rfl⟩ | ⟨id, rfl⟩ :=
    quiet_cases hstep starts
  · exact same
  · rfl
  · cases waits
  · rfl
  · simp [modifyThread]
  · simp [modifyThread]

/-- While there was at most one successful start, there is at most the one thread. -/
theorem fresh_or_single (run : Run (StepOf step) {} h s)
    (few : h.countP TimeSyncEvent.starts ≤ 1) :
    h.countP TimeSyncEvent.starts = 0 ∧ s = {} ∨
      h.countP TimeSyncEvent.starts = 1 ∧ ∃ thread, Single s thread := by
  revert few
  refine run.recorded (I := fun h s => h.countP TimeSyncEvent.starts ≤ 1 →
    h.countP TimeSyncEvent.starts = 0 ∧ s = {} ∨
      h.countP TimeSyncEvent.starts = 1 ∧ ∃ thread, Single s thread)
    (fun _ => .inl ⟨List.countP_nil, rfl⟩) ?_
  intro h s e t before hstep few
  rw [List.countP_append, List.countP_singleton] at few ⊢
  cases starts : e.starts with
  | false =>
      simp only [starts, Bool.false_eq_true, if_false, Nat.add_zero] at few ⊢
      rcases before few with ⟨none, rfl⟩ | ⟨one, thread, single⟩
      · exact .inl ⟨none, fresh_of_quiet hstep starts⟩
      · exact .inr ⟨one, single.step hstep starts⟩
  | true =>
      simp only [starts, if_true] at few ⊢
      have none : h.countP TimeSyncEvent.starts = 0 := by omega
      rcases before (by omega) with ⟨-, rfl⟩ | ⟨one, -⟩
      · exact .inr ⟨by omega, single_of_start hstep starts⟩
      · omega

/-- One Robot keeps one time sync exactly when at most one call started it. -/
theorem keepsOneSync_iff (run : Run (StepOf step) {} h s) :
    KeepsOneSync h s ↔ h.countP TimeSyncEvent.starts ≤ 1 := by
  constructor
  · intro keeps
    rw [← length_eq run]
    exact keeps.once
  · intro few
    refine ⟨by rw [length_eq run]; exact few, ?_, fun id returned => ?_,
      fun pre e post t u split start before hstep established => ?_⟩
    · calc
        s.threads.countP (!·.stopped) ≤ s.threads.length := List.countP_le_length
        _ ≤ 1 := by rw [length_eq run]; exact few
    · rcases fresh_or_single run few with ⟨-, rfl⟩ | ⟨-, thread, one⟩
      · cases returned
      · obtain rfl := one.returned id returned
        exact ⟨one.used, thread, by simp [one.threads], one.live⟩
    · subst split
      cases starts : e.starts with
      | false => rwa [unchanged_of_failed hstep start starts]
      | true =>
          rw [List.countP_append, List.countP_cons_of_pos starts] at few
          rcases fresh_or_single before (by omega) with ⟨-, rfl⟩ | ⟨one, -⟩
          · cases established
          · omega

def clientMade : Status := ⟨SDKErrorCode.success.code, ""⟩

def syncEstablished : TimeSyncUpdateResult :=
  ⟨clientMade, { state := { status := TimeSyncState.statusOk } }⟩

theorem keepsOneSync_stopped :
    KeepsOneSync [.startTimeSyncAndGetEndpoint clientMade, .update 0 syncEstablished {},
        .waitForSync true, .stopTimeSync]
      { threads := [{ endpoint := TimeSyncEndpoint.updateState syncEstablished {} }],
        timeSyncThread := some 0, returned := [0] } := by
  refine (keepsOneSync_iff ?_).mpr (by decide)
  exact .cons rfl (.cons rfl (.cons rfl (.cons rfl (.nil _))))

/-- After a second start the endpoint that the first call returned is destroyed. -/
theorem not_keepsOneSync_restarted :
    ¬ ∀ h s, Run (StepOf step) {} h s → KeepsOneSync h s := by
  intro keeps
  have run : Run (StepOf step) {} [.startTimeSyncAndGetEndpoint clientMade,
      .update 0 syncEstablished {}, .waitForSync true, .startTimeSync clientMade] _ :=
    .cons rfl (.cons rfl (.cons rfl (.cons rfl (.nil _))))
  obtain ⟨thread, made, live⟩ := ((keeps _ _ run).endpoints 0 (by decide)).2
  cases made
  cases live

end RobotTimeSync

end SpotSdk.Client
