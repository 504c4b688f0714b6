import SpotSdk.Estop.EstopKeepAlive

/-!
# The level that is waited on

When the background thread begins to wait, the level it sent should be the level
that is asked for. It is exactly when no other level was asked for between its
check-in and its wait: a signal in between finds nobody waiting.
-/

namespace SpotSdk.Client

open Foundations Common

/-- The stop level that was asked for last. -/
def requested (h : List KeepAliveEvent) : EstopStopLevel :=
  h.foldl (fun level e => match e with
    | .setStopLevel level => level
    | _ => level) .none

/-- The event stops the thread. -/
def KeepAliveEvent.clearsAlive : KeepAliveEvent → Bool
  | .stopBlock .clearAlive _ => true
  | .loopStop .clearAlive => true
  | _ => false

/-- The level asked for last before a wait is the one asked for last before the
check-in of that turn, unless the thread was stopped. -/
def RequestsKept (h : List KeepAliveEvent) : Prop :=
  ∀ pre outcome mid now post,
    h = pre ++ .checkIn outcome :: (mid ++ .beginWait now :: post) →
    (∀ outcome, .checkIn outcome ∉ mid) →
    (∀ e ∈ pre ++ .checkIn outcome :: mid, e.clearsAlive = false) →
    requested (pre ++ .checkIn outcome :: mid) = requested pre

theorem RequestsKept.before {h post : List KeepAliveEvent}
    (kept : RequestsKept (h ++ post)) : RequestsKept h := by
  intro pre last mid now rest split
  apply kept pre last mid now (rest ++ post)
  rw [split]
  simp

namespace EstopKeepAlive

/-- While the thread is alive, it waits only on a level it has sent. -/
structure WaitsFresh (chain : EstopProcessorChain) (start : EstopKeepAlive)
    (h : List KeepAliveEvent) : Prop where
  begins : ∀ pre now post s t, h = pre ++ .beginWait now :: post →
    Run (StepOf (step chain)) start pre s → StepOf (step chain) s (.beginWait now) t →
    s.threadIsAlive = true → s.sent = some s.desiredStopLevel
  throughout : ∀ pre post s, h = pre ++ post → Run (StepOf (step chain)) start pre s →
    s.loop.isWaiting = true → s.threadIsAlive = true → s.sent = some s.desiredStopLevel

variable {chain : EstopProcessorChain} {endpoint : EstopEndpoint} {rpcTimeout rpcInterval : Int}
  {outcome : CheckInOutcome} {s t : EstopKeepAlive} {e : KeepAliveEvent}
  {h pre mid post : List KeepAliveEvent}

/-- What the history says of the members and of the place of the loop. -/
structure Tracks (h : List KeepAliveEvent) (s : EstopKeepAlive) : Prop where
  desired : s.desiredStopLevel = requested h
  alive : s.threadIsAlive = true ↔ ∀ e ∈ h, e.clearsAlive = false
  checked : s.loop.hasCheckedIn = true → ∃ pre outcome mid,
    h = pre ++ .checkIn outcome :: mid ∧ ∀ outcome, .checkIn outcome ∉ mid

/-- A step that asks for no level, stops no thread and makes no check-in. -/
theorem Tracks.quiet (inv : Tracks h s)
    (unasked : requested (h ++ [e]) = requested h) (kept : e.clearsAlive = false)
    (unchecked : ∀ outcome, e ≠ .checkIn outcome)
    (desired : t.desiredStopLevel = s.desiredStopLevel)
    (alive : t.threadIsAlive = s.threadIsAlive)
    (checked : t.loop.hasCheckedIn = true → s.loop.hasCheckedIn = true) :
    Tracks (h ++ [e]) t where
  desired := by rw [desired, unasked, inv.desired]
  alive := by
    rw [alive, inv.alive]
    simp [or_imp, forall_and, kept]
  checked here := by
    obtain ⟨pre, outcome, mid, rfl, quiet⟩ := inv.checked (checked here)
    refine ⟨pre, outcome, mid ++ [e], by simp, fun outcome mem => ?_⟩
    rcases List.mem_append.mp mem with mem | mem
    · exact quiet outcome mem
    · exact unchecked outcome (List.mem_singleton.mp mem).symm

/-- The history of one more block. -/
theorem Tracks.step (inv : Tracks h s) (hstep : StepOf (step chain) s e t) :
    Tracks (h ++ [e]) t := by
  cases step_cases hstep with
  | @setStopLevel level =>
      refine ⟨by simp [requested], ?_, fun here => ?_⟩
      · rw [setStopLevel_threadIsAlive, inv.alive]
        simp [or_imp, forall_and, KeepAliveEvent.clearsAlive]
      · obtain ⟨pre, outcome, mid, rfl, quiet⟩ := inv.checked (by simpa using here)
        exact ⟨pre, outcome, mid ++ [.setStopLevel level], by simp, by simpa using quiet⟩
  | @stopBlock block msg =>
      refine ⟨by simp [requested, inv.desired], ?_, fun here => ?_⟩
      · rw [stopKeepAliveThread_threadIsAlive, Bool.and_eq_true, inv.alive]
        cases block <;> simp [or_imp, forall_and, KeepAliveEvent.clearsAlive]
      · obtain ⟨pre, outcome, mid, rfl, quiet⟩ := inv.checked (by simpa using here)
        exact ⟨pre, outcome, mid ++ [.stopBlock block msg], by simp, by simpa using quiet⟩
  | test place =>
      refine inv.quiet (by simp [requested]) rfl (by simp) rfl rfl fun here => ?_
      split_ifs at here <;> cases here
  | @checkIn _ outcome place =>
      refine ⟨by simp [requested, inv.desired, checkIn], ?_, fun _ => ?_⟩
      · have kept : (s.checkIn chain outcome).1.threadIsAlive = s.threadIsAlive := rfl
        rw [kept, inv.alive]
        simp [or_imp, forall_and, KeepAliveEvent.clearsAlive]
      · exact ⟨h, outcome, [], rfl, by simp⟩
  | report place =>
      refine inv.quiet (by simp [requested]) rfl (by simp) (by simp) (by simp) fun _ => ?_
      rw [place]
      rfl
  | @loopStop _ block msg place =>
      have checked : s.loop.hasCheckedIn = true := by rw [place]; rfl
      refine ⟨by simp [requested, inv.desired], ?_, fun _ => ?_⟩
      · rw [stopKeepAliveThread_threadIsAlive, Bool.and_eq_true, inv.alive]
        cases block <;> simp [or_imp, forall_and, KeepAliveEvent.clearsAlive]
      · obtain ⟨pre, outcome, mid, rfl, quiet⟩ := inv.checked checked
        exact ⟨pre, outcome, mid ++ [.loopStop block], by simp, by simpa using quiet⟩
  | beginWait place =>
      exact inv.quiet (by simp [requested]) rfl (by simp) rfl rfl (absurd · Bool.false_ne_true)
  | wake place =>
      exact inv.quiet (by simp [requested]) rfl (by simp) rfl rfl (absurd · Bool.false_ne_true)

theorem new_tracks : Tracks [] (new chain endpoint rpcTimeout rpcInterval outcome) where
  desired := by simp [new, checkIn, requested]
  alive := by simp [new, checkIn]
  checked here := by simp [new, checkIn, KeepAliveLoop.hasCheckedIn] at here

theorem tracks (run : Run (StepOf (step chain))
    (new chain endpoint rpcTimeout rpcInterval outcome) h s) : Tracks h s :=
  run.recorded (I := Tracks) new_tracks Tracks.step

/-- Only a check-in sends a level. -/
theorem sent_of_step (hstep : StepOf (step chain) s e t) (quiet : ∀ outcome, e ≠ .checkIn outcome) :
    t.sent = s.sent := by
  cases step_cases hstep with
  | checkIn place => exact absurd rfl (quiet _)
  | _ => simp [sent]

theorem sent_of_run (run : Run (StepOf (step chain)) s mid t)
    (quiet : ∀ outcome, .checkIn outcome ∉ mid) : t.sent = s.sent := by
  induction run with
  | nil s => rfl
  | cons hstep _ ih =>
      rw [ih fun outcome mem => quiet outcome (List.mem_cons_of_mem _ mem)]
      exact sent_of_step hstep fun outcome same => quiet outcome (same ▸ List.mem_cons_self)

/-- Since a check-in the level sent is the one asked for before it. -/
theorem sent_eq_requested {last : CheckInOutcome}
    (run : Run (StepOf (step chain)) (new chain endpoint rpcTimeout rpcInterval outcome)
      (pre ++ .checkIn last :: mid) s)
    (quiet : ∀ outcome, .checkIn outcome ∉ mid) : s.sent = some (requested pre) := by
  obtain ⟨u, before, after⟩ := run.split
  cases after with
  | cons hstep tail =>
      rw [sent_of_run tail quiet, ← (tracks before).desired]
      cases step_cases hstep with
      | checkIn _ => exact checkIn_sent last

/-- Where the history keeps the request, the level sent is the level desired when the
wait begins. -/
theorem sent_of_requestsKept {now : Int}
    (run : Run (StepOf (step chain)) (new chain endpoint rpcTimeout rpcInterval outcome) h s)
    (hstep : StepOf (step chain) s (.beginWait now) t) (alive : s.threadIsAlive = true)
    (kept : RequestsKept (h ++ [.beginWait now])) : s.sent = some s.desiredStopLevel := by
  have inv := tracks run
  have checked : s.loop.hasCheckedIn = true := by
    cases step_cases hstep with
    | beginWait place => rw [place]; rfl
  obtain ⟨pre, last, mid, rfl, quiet⟩ := inv.checked checked
  have same := kept pre last mid now [] (by simp) quiet (inv.alive.mp alive)
  rw [sent_eq_requested run quiet, inv.desired, same]

/-- A thread that waits keeps waiting on the level it began with: another level wakes it. -/
theorem waiting_step (hstep : StepOf (step chain) s e t) (waits : t.loop.isWaiting = true)
    (alive : t.threadIsAlive = true) (began : ∀ now, e ≠ .beginWait now) :
    s.loop.isWaiting = true ∧ s.threadIsAlive = true ∧ t.sent = s.sent ∧
      t.desiredStopLevel = s.desiredStopLevel := by
  cases step_cases hstep with
  | @setStopLevel level =>
      unfold setStopLevel at waits alive ⊢
      split_ifs at waits alive ⊢ with same
      · exact ⟨waits, alive, rfl, rfl⟩
      · simp at waits
  | @stopBlock block msg =>
      cases block with
      | clearAlive => simp [stopKeepAliveThread] at alive
      | notifyOne => simp [stopKeepAliveThread] at waits
      | updateStatus =>
          simp only [stopKeepAliveThread, updateStatus_loop, updateStatus_threadIsAlive]
            at waits alive
          exact ⟨waits, alive, by simp [sent, stopKeepAliveThread],
            by simp [stopKeepAliveThread]⟩
  | test place => split_ifs at waits <;> cases waits
  | checkIn place => cases waits
  | report place => split_ifs at waits <;> cases waits
  | @loopStop _ block _ place => cases block <;> cases waits
  | beginWait place => exact absurd rfl (began _)
  | wake place => cases waits

/-- The same throughout the wait. -/
theorem sent_of_waiting
    (run : Run (StepOf (step chain)) (new chain endpoint rpcTimeout rpcInterval outcome) h s) :
    RequestsKept h → s.loop.isWaiting = true → s.threadIsAlive = true →
      s.sent = some s.desiredStopLevel := by
  let start := new chain endpoint rpcTimeout rpcInterval outcome
  suffices Run (StepOf (step chain)) start h s ∧ (RequestsKept h → s.loop.isWaiting = true →
      s.threadIsAlive = true → s.sent = some s.desiredStopLevel) from this.2
  have base : RequestsKept [] → start.loop.isWaiting = true → start.threadIsAlive = true →
      start.sent = some start.desiredStopLevel := nofun
  refine run.recorded (I := fun h s => Run (StepOf (step chain)) start h s ∧
    (RequestsKept h → s.loop.isWaiting = true → s.threadIsAlive = true →
      s.sent = some s.desiredStopLevel)) ⟨.nil start, base⟩ ?_
  rintro h s e t ⟨before, waitsOn⟩ hstep
  refine ⟨before.append (.single hstep), fun kept waits alive => ?_⟩
  by_cases began : ∃ now, e = .beginWait now
  · obtain ⟨now, rfl⟩ := began
    cases step_cases hstep with
    | beginWait place =>
        have sent := sent_of_requestsKept before hstep alive kept
        exact sent
  · obtain ⟨waited, lived, sent, desired⟩ :=
      waiting_step hstep waits alive fun now same => began ⟨now, same⟩
    rw [sent, desired]
    exact waitsOn kept.before waited lived

/-- The thread waits on the level it has sent exactly when the last level asked for
before each wait is the one asked for before its check-in. -/
theorem waitsFresh_iff
    (run : Run (StepOf (step chain)) (new chain endpoint rpcTimeout rpcInterval outcome) h s) :
    WaitsFresh chain (new chain endpoint rpcTimeout rpcInterval outcome) h ↔
      RequestsKept h := by
  constructor
  · intro fresh pre last mid now post split quiet alive
    subst split
    rw [← List.cons_append, ← List.append_assoc] at run
    obtain ⟨u, before, after⟩ := run.split
    cases after with
    | cons hstep tail =>
        have inv := tracks before
        have sent := fresh.begins (pre ++ .checkIn last :: mid) now post u _ (by simp) before
          hstep (inv.alive.mpr alive)
        rw [sent_eq_requested before quiet, inv.desired] at sent
        exact (Option.some.inj sent).symm
  · intro kept
    refine ⟨fun pre now post u t split before hstep alive => ?_, fun pre post u split before => ?_⟩
    · apply sent_of_requestsKept before hstep alive
      rw [split, List.append_cons] at kept
      exact kept.before
    · subst split
      exact sent_of_waiting before kept.before

/-- A stop asked for just before the check-in. -/
theorem waitsFresh_iff_timely :
    WaitsFresh [] (new [] { endpointName := "estop", estopTimeout := 9 } 0 0
        (.answered { status := 1 }))
      [.test 0, .setStopLevel .cut, .checkIn (.answered { status := 1 }), .report, .beginWait 1] ↔
    RequestsKept
      [.test 0, .setStopLevel .cut, .checkIn (.answered { status := 1 }), .report, .beginWait 1] :=
  waitsFresh_iff (.cons rfl (.cons rfl (.cons rfl (.cons rfl (.cons rfl (.nil _))))))

/-- A stop asked for between the check-in and the wait: its signal is lost, and the
thread waits on the level before. -/
theorem not_waitsFresh_lostSignal :
    ¬ ∀ (chain : EstopProcessorChain) endpoint rpcTimeout rpcInterval outcome h s,
      Run (StepOf (step chain)) (new chain endpoint rpcTimeout rpcInterval outcome) h s →
        WaitsFresh chain (new chain endpoint rpcTimeout rpcInterval outcome) h := by
  intro fresh
  have run : Run (StepOf (step []))
      (new [] { endpointName := "estop", estopTimeout := 9 } 0 0 (.answered { status := 1 }))
      [.test 0, .checkIn (.answered { status := 1 }), .report, .setStopLevel .cut,
        .beginWait 1] _ :=
    .cons rfl (.cons rfl (.cons rfl (.cons rfl (.cons rfl (.nil _)))))
  have sent := (fresh _ _ _ _ _ _ _ run).throughout _ [] _ rfl run
  exact absurd (sent rfl rfl) (by decide)

end EstopKeepAlive

end SpotSdk.Client
