import SpotSdk.Docking.BlockingDock

/-!
# Cancelling a docking

No command may follow an answer of true from `early_end`. Only the wait for the
feedback on the last attempt can break this: it ends with that answer, and the final
command to the prep pose is sent without asking again.
-/

namespace SpotSdk.Client

open SpotSdk.Foundations SpotSdk.Common DockingCommandFeedbackResponse

namespace BlockingDock

/-- The feedback wait of the last attempt. -/
def inLastWait (call : DockCall) (s : BlockingDock) : Bool :=
  match s.next with
  | .feedback _ _ =>
      !s.prepping && !(call.numAttempts ≤ 0 || s.attemptsMade < call.numAttempts)
  | _ => false

end BlockingDock

/-- `BlockingDock`, and whether `early_end` returned true while the feedback on the
last attempt was waited for. -/
structure DockWatch where
  dock : BlockingDock
  endedInLastWait : Bool := false

namespace DockWatch

def start (call : DockCall) : DockWatch :=
  { dock := .start call }

def step (call : DockCall) (w : DockWatch) (e : DockEvent) : Option DockWatch :=
  (w.dock.step call e).map fun dock =>
    { dock, endedInLastWait :=
        w.endedInLastWait || (e = .earlyEnd true && w.dock.inLastWait call) }

/-- If `early_end` returned true in the last feedback wait, the command to the prep
pose is not built. -/
def Timely (w : DockWatch) : DockEvent → Prop
  | .dockingCommandBuilder _ _ result =>
      w.dock.prepping = true → result.ok = true → w.endedInLastWait = false
  | _ => True

end DockWatch

/-- Once `early_end` has returned true, it returns true ever after. -/
def Latched (h : List DockEvent) : Prop :=
  h.Pairwise fun e later => e = .earlyEnd true → later ≠ .earlyEnd false

/-- No command is sent after `early_end` has returned true. -/
def StopsWhenEnded (h : List DockEvent) : Prop :=
  ∀ pre request post, h = pre ++ .dockingCommandAsync request :: post → .earlyEnd true ∉ pre

theorem Latched.before {h later : List DockEvent} (latched : Latched (h ++ later)) :
    Latched h :=
  (List.pairwise_append.mp latched).1

theorem Latched.unended {h : List DockEvent} (latched : Latched (h ++ [.earlyEnd false])) :
    .earlyEnd true ∉ h := by
  intro ended
  exact (List.pairwise_append.mp latched).2.2 _ ended _ (List.mem_singleton_self _) rfl rfl

/-- The callback is asked next. -/
def FeedbackCall.asks : FeedbackCall → Bool
  | .askEnd => true
  | .askAgain => true
  | _ => false

def DockingCall.asks : DockingCall → Bool
  | .askSend _ => true
  | .askEnd => true
  | .feedback _ wait => wait.next.asks
  | _ => false

/-- The places that are reached only while `early_end` has not returned true. -/
def BlockingDock.isClear (s : BlockingDock) : Bool :=
  match s.next with
  | .send _ => true
  | .askEnd => !s.prepping
  | .waitFor => !s.prepping
  | .get => !s.prepping
  | .giveId _ => !s.prepping
  | _ => false

/-- From the feedback wait of the last attempt until the final command is built. -/
def BlockingDock.isLate (call : DockCall) (s : BlockingDock) : Bool :=
  match s.next with
  | .readClock => s.prepping
  | .build _ => s.prepping
  | _ => s.inLastWait call

theorem FeedbackWait.poll_asks {call : DockCall} {w : FeedbackWait}
    (asks : (w.poll call).next.asks = true) : call.earlyEnd = true := by
  by_contra unset
  simp [poll, unset, FeedbackCall.asks] at asks

theorem FeedbackWait.step_asks {call : DockCall} {id : UInt32} {success progress : Int}
    {w w' : FeedbackWait} {e : DockEvent}
    (hstep : w.step call id success progress e = some (.inl w'))
    (asks : w'.next.asks = true) : call.earlyEnd = true := by
  unfold step at hstep
  split at hstep
  case h_3 =>
    cases hstep
    exact poll_asks asks
  case h_4 ended _ =>
    cases hstep
    cases ended <;> cases asks
  case h_5 ready _ =>
    cases hstep
    cases ready with
    | false => exact poll_asks asks
    | true => cases asks
  case h_6 =>
    cases hstep
    cases asks
  case h_7 =>
    split_ifs at hstep with again set
    · exact set
    · cases hstep
      cases asks
    · cases hstep
  case h_8 =>
    split_ifs at hstep
    · cases hstep
    · cases hstep
      cases asks
  case h_9 => cases hstep
  all_goals
    -- The steps left only go on to the next call.
    split_ifs at hstep
    cases hstep
    cases asks

section Cancelling

open DockWatch BlockingDock

variable {call : DockCall} {s s' : BlockingDock} {w t u : DockWatch} {e e' : DockEvent}
  {h : List DockEvent}

/-- What the answers of `early_end` so far allow. -/
structure Watched (call : DockCall) (h : List DockEvent) (w : DockWatch) : Prop where
  asked : w.dock.next.asks = true → call.earlyEnd = true
  unasked : ∀ answer, .earlyEnd answer ∈ h → call.earlyEnd = true
  clear : Latched h → w.dock.isClear = true → .earlyEnd true ∉ h
  late : Latched h → .earlyEnd true ∈ h → w.dock.isLate call = true →
    w.endedInLastWait = true

theorem Watched.start (call : DockCall) : Watched call [] (start call) where
  asked := nofun
  unasked _ mem := absurd mem List.not_mem_nil
  clear _ _ := List.not_mem_nil
  late _ mem := absurd mem List.not_mem_nil

/-- A step without `early_end`. It stays clear, and gets late only from a place that
is clear or late. -/
theorem Watched.still (inv : Watched call h w) (quiet : ∀ answer, e ≠ .earlyEnd answer)
    (kept : w.endedInLastWait = true → t.endedInLastWait = true)
    (asked : t.dock.next.asks = true → call.earlyEnd = true)
    (clear : Latched h → t.dock.isClear = true → .earlyEnd true ∉ h)
    (late : t.dock.isLate call = true → w.dock.isLate call = true ∨ w.dock.isClear = true) :
    Watched call (h ++ [e]) t := by
  have same : ∀ answer, DockEvent.earlyEnd answer ∈ h ++ [e] ↔ .earlyEnd answer ∈ h := by
    intro answer
    have := quiet answer
    simp [this.symm]
  refine ⟨asked, fun answer mem => ?_, fun latched isClear => ?_, fun latched mem isLate => ?_⟩
  · exact inv.unasked answer ((same answer).mp mem)
  · rw [same]
    exact clear latched.before isClear
  · rw [same] at mem
    rcases late isLate with wasLate | wasClear
    · exact kept (inv.late latched.before mem wasLate)
    · exact absurd mem (inv.clear latched.before wasClear)

/-- A step that stays clear if it was. -/
theorem Watched.goesOn (inv : Watched call h w) (quiet : ∀ answer, e ≠ .earlyEnd answer)
    (kept : w.endedInLastWait = true → t.endedInLastWait = true)
    (asked : t.dock.next.asks = true → call.earlyEnd = true)
    (clear : t.dock.isClear = true → w.dock.isClear = true)
    (late : t.dock.isLate call = true → w.dock.isLate call = true ∨ w.dock.isClear = true) :
    Watched call (h ++ [e]) t :=
  inv.still quiet kept asked (fun latched isClear => inv.clear latched (clear isClear)) late

/-- The answer of `early_end` before a command or in the loop that waits for it. -/
theorem Watched.answered {answer : Bool} (inv : Watched call h w)
    (asks : w.dock.next.asks = true) (asked : t.dock.next.asks = false)
    (clear : t.dock.isClear = true → answer = false) (late : t.dock.isLate call = false) :
    Watched call (h ++ [.earlyEnd answer]) t := by
  refine ⟨fun again => ?_, fun _ _ => inv.asked asks, fun latched isClear => ?_,
    fun _ _ isLate => ?_⟩
  · rw [asked] at again
    cases again
  · obtain rfl := clear isClear
    simpa using latched.unended
  · rw [late] at isLate
    cases isLate

/-- A step within `WaitOnFeedback`, or out of it. -/
theorem Watched.fed {id : UInt32} {wait : FeedbackWait} (inv : Watched call h w)
    (next : w.dock.next = .feedback id wait)
    (asks : ∀ answer, e = .earlyEnd answer → w.dock.next.asks = true)
    (kept : t.endedInLastWait =
      (w.endedInLastWait || (e = .earlyEnd true && w.dock.inLastWait call)))
    (asked : t.dock.next.asks = true → call.earlyEnd = true)
    (clear : t.dock.isClear = false)
    (late : t.dock.isLate call = true → w.dock.inLastWait call = true) :
    Watched call (h ++ [e]) t := by
  refine ⟨asked, fun answer mem => ?_, fun _ isClear => ?_, fun latched mem isLate => ?_⟩
  · rcases List.mem_append.mp mem with mem | mem
    · exact inv.unasked answer mem
    · exact inv.asked (asks answer (List.mem_singleton.mp mem).symm)
  · rw [clear] at isClear
    cases isClear
  · have inWait := late isLate
    rw [kept]
    rcases List.mem_append.mp mem with mem | mem
    · have wasLate : w.dock.isLate call = true := by
        rw [BlockingDock.isLate, next]
        exact inWait
      simp [inv.late latched.before mem wasLate]
    · simp [← List.mem_singleton.mp mem, inWait]

theorem FeedbackWait.asks_of_step {id : UInt32} {success progress : Int} {wait : FeedbackWait}
    {answer : Bool} {out : FeedbackWait ⊕ Result DockingCommandFeedbackResponse}
    (hstep : wait.step call id success progress (.earlyEnd answer) = some out) :
    wait.next.asks = true := by
  cases next : wait.next with
  | askEnd => rfl
  | askAgain => rfl
  | _ => simp [FeedbackWait.step, next] at hstep

/-- One guarded step keeps what is watched. -/
theorem Watched.step (inv : Watched call h w)
    (hstep : Guard (StepOf (DockWatch.step call)) Timely w e t) :
    Watched call (h ++ [e]) t := by
  obtain ⟨taken, timely⟩ := hstep
  obtain ⟨dock, takes, rfl⟩ := Option.map_eq_some_iff.mp taken
  have stays : w.endedInLastWait = true →
      (w.endedInLastWait || (e = .earlyEnd true && w.dock.inLastWait call)) = true := by
    intro ended
    rw [ended, Bool.true_or]
  -- What the place of the call rules out.
  have never : ∀ {P : Prop}, false = true → P := fun same => absurd same Bool.false_ne_true
  cases BlockingDock.step_cases takes with
  | readClock next =>
      refine inv.goesOn (by simp) stays never never fun late => .inl ?_
      simpa [isLate, next] using late
  | @build _ result next =>
      unfold built
      split_ifs with failed asks
      · exact inv.goesOn (by simp) stays never never never
      · simp only [Bool.and_eq_true] at asks
        exact inv.goesOn (by simp) stays (fun _ => asks.2) never never
      · refine inv.still (by simp) stays never (fun latched _ ended => ?_) never
        have set := inv.unasked true ended
        have prepping : w.dock.prepping = true := by simpa [set] using asks
        have late : w.dock.isLate call = true := by simpa [isLate, next] using prepping
        have noted := inv.late latched ended late
        rw [timely prepping (by simpa using failed)] at noted
        cases noted
  | askSend next =>
      have asks : w.dock.next.asks = true := by rw [next]; rfl
      split_ifs with ended
      · exact inv.answered asks rfl never rfl
      · exact inv.answered asks rfl (fun _ => by simpa using ended) rfl
  | send next =>
      have clear : w.dock.isClear = true := by rw [isClear, next]
      refine inv.goesOn (by simp) stays (fun asks => ?_) (fun _ => clear) fun _ => .inr clear
      by_contra unset
      simp [sent, poll, unset, DockingCall.asks] at asks
  | askEnd next =>
      have asks : w.dock.next.asks = true := by rw [next]; rfl
      split_ifs with ended
      · exact inv.answered asks rfl never rfl
      · exact inv.answered asks rfl (fun _ => by simpa using ended) rfl
  | waitFor next =>
      unfold poll
      split_ifs with ready set
      · refine inv.goesOn (by simp) stays never (fun clear => ?_) never
        simpa [isClear, next] using clear
      · refine inv.goesOn (by simp) stays (fun _ => set) (fun clear => ?_) never
        simpa [isClear, next] using clear
      · refine inv.goesOn (by simp) stays never (fun clear => ?_) never
        simpa [isClear, next] using clear
  | @get result next =>
      unfold commanded
      dsimp only
      split_ifs with ok given prepping
      · refine inv.goesOn (by simp) stays never (fun clear => ?_) never
        simpa [isClear, next] using clear
      · refine inv.goesOn (by simp) stays never never fun late => .inr ?_
        simp only [isLate, inLastWait, Bool.and_eq_true] at late
        simpa [isClear, next] using late.1
      · exact inv.goesOn (by simp) stays never never never
      · refine inv.goesOn (by simp) stays never never fun _ => .inr ?_
        simpa [isClear, next] using prepping
  | giveId next =>
      refine inv.goesOn (by simp) stays never never fun late => .inr ?_
      simp only [isLate, inLastWait, Bool.and_eq_true] at late
      simpa [isClear, next] using late.1
  | feedback next waits =>
      refine inv.fed next ?_ rfl (FeedbackWait.step_asks waits) rfl fun late => ?_
      · rintro answer rfl
        rw [next]
        exact FeedbackWait.asks_of_step waits
      · simpa [isLate, inLastWait, next] using late
  | fedBack next returns =>
      have asks : ∀ answer, e = .earlyEnd answer → w.dock.next.asks = true := by
        rintro answer rfl
        rw [next]
        exact FeedbackWait.asks_of_step returns
      unfold fedBack
      split_ifs with prepping docked
      · exact inv.fed next asks rfl never rfl never
      · exact inv.fed next asks rfl never rfl never
      · refine inv.fed next asks rfl never rfl fun late => ?_
        simpa [isLate, nextRound, inLastWait, next, prepping] using late
  | leave next => exact inv.goesOn (by simp) stays never never never

theorem watched (run : Run (Guard (StepOf (DockWatch.step call)) Timely) (.start call) h w) :
    Watched call h w :=
  run.recorded (I := Watched call) (Watched.start call) Watched.step

/-- Watching changes nothing: every run of `BlockingDock` is watched by one. -/
theorem exists_watch (run : Run (StepOf (BlockingDock.step call)) s h s') :
    ∀ flag, ∃ flag', Run (StepOf (DockWatch.step call)) ⟨s, flag⟩ h ⟨s', flag'⟩ := by
  induction run with
  | nil s => exact fun flag => ⟨flag, .nil _⟩
  | cons hstep _ ih =>
      intro flag
      obtain ⟨flag', tail⟩ := ih _
      exact ⟨flag', .cons (Option.map_eq_some_iff.mpr ⟨_, hstep, rfl⟩) tail⟩

theorem dock_run (run : Run (StepOf (DockWatch.step call)) w h t) :
    Run (StepOf (BlockingDock.step call)) w.dock h t.dock :=
  run.map DockWatch.dock fun hstep => by
    obtain ⟨dock, takes, rfl⟩ := Option.map_eq_some_iff.mp hstep
    exact takes

end Cancelling

/-- What `BlockingDock` owes its caller: it stops sending when it was told to end,
and it sends no more commands than it may. -/
structure ObeysCaller (call : DockCall) (h : List DockEvent) : Prop where
  stops : Latched h → StopsWhenEnded h
  attempts : 0 < call.numAttempts → h.countP DockEvent.isAttempt ≤ call.numAttempts
  preps : h.countP DockEvent.isPrep ≤ 1
  prepLast : ∀ pre request post, h = pre ++ .dockingCommandAsync request :: post →
    request.prepPoseBehavior = .onlyPose →
    0 < call.numAttempts ∧ pre.countP DockEvent.isAttempt = call.numAttempts ∧
      ∀ result, .dockingCommandFeedback result ∈ pre → ¬ Docked result

section Obeying

open DockWatch

variable {call : DockCall} {s s' : BlockingDock} {w t u : DockWatch} {e e' : DockEvent}
  {h pre post : List DockEvent} {request : DockingCommandRequest}

/-- Where a command is sent from. -/
theorem BlockingDock.sends_of_step
    (hstep : StepOf (BlockingDock.step call) s (.dockingCommandAsync request) s') :
    ∃ built, s.next = .send built ∧ request.prepPoseBehavior = s.pose := by
  cases step_cases hstep with
  | send next => exact ⟨_, next, rfl⟩
  | feedback _ waits => simp [FeedbackWait.step] at waits
  | fedBack _ returns => simp [FeedbackWait.step] at returns

/-- With or without cancellation: the final command follows the allowed attempts. -/
theorem BlockingDock.prepLast (run : Run (StepOf (BlockingDock.step call)) (.start call) h s)
    (split : h = pre ++ .dockingCommandAsync request :: post)
    (only : request.prepPoseBehavior = .onlyPose) :
    0 < call.numAttempts ∧ pre.countP DockEvent.isAttempt = call.numAttempts ∧
      ∀ result, .dockingCommandFeedback result ∈ pre → ¬ Docked result := by
  subst split
  obtain ⟨t, before, after⟩ := run.split
  cases after with
  | cons hstep _ =>
      obtain ⟨built, next, pose⟩ := sends_of_step hstep
      have inv := counted before
      have prepping : t.prepping = true := by
        by_contra attempt
        rw [pose, BlockingDock.pose, if_neg attempt] at only
        split_ifs at only
      obtain ⟨positive, all⟩ := inv.last prepping
      refine ⟨positive, ?_, inv.undocked (by rw [next]; rfl) fun _ => by rw [next]; rfl⟩
      rw [inv.made, all]

/-- If `early_end` never ends the last feedback wait of a call that then sends its
final command, the call obeys: no command follows an answer of true. -/
theorem blockingDock_obeysCaller
    (run : Run (Guard (StepOf (DockWatch.step call)) Timely) (.start call) h w) :
    ObeysCaller call h := by
  have plain := dock_run (run.mono fun hstep => hstep.1)
  have counts := BlockingDock.counted plain
  refine ⟨fun latched pre request post split => ?_, fun positive => ?_, counts.preps,
    fun _ _ _ split only => BlockingDock.prepLast plain split only⟩
  · subst split
    obtain ⟨t, before, after⟩ := run.split
    cases after with
    | cons hstep _ =>
        obtain ⟨dock, takes, -⟩ := Option.map_eq_some_iff.mp hstep.1
        obtain ⟨built, next, -⟩ := BlockingDock.sends_of_step takes
        have clear : t.dock.isClear = true := by rw [BlockingDock.isClear, next]
        exact (watched before).clear latched.before clear
  · rw [counts.made]
    exact counts.atMost positive

theorem DockWatch.ended_of_noted (run : Run (StepOf (DockWatch.step call)) (.start call) h w) :
    w.endedInLastWait = true → .earlyEnd true ∈ h := by
  have base : (start call).endedInLastWait = true → DockEvent.earlyEnd true ∈ [] := nofun
  apply run.recorded (I := fun h w => w.endedInLastWait = true → .earlyEnd true ∈ h) base
  intro h w e t earlier hstep noted
  obtain ⟨dock, -, rfl⟩ := Option.map_eq_some_iff.mp hstep
  simp only [Bool.or_eq_true, Bool.and_eq_true, decide_eq_true_eq] at noted
  rcases noted with noted | ⟨rfl, -⟩
  · exact List.mem_append_left _ (earlier noted)
  · exact List.mem_append_right _ (List.mem_singleton_self _)

/-- A step out of time leaves `BlockingDock` no choice but to send, against the answer
that `early_end` gave. -/
theorem not_stopsWhenEnded_of_untimely
    (run : Run (StepOf (DockWatch.step call)) (.start call) h w)
    (hstep : StepOf (DockWatch.step call) w e t) (untimely : ¬ Timely w e)
    (hnext : StepOf (DockWatch.step call) t e' u) : ¬ StopsWhenEnded (h ++ [e, e']) := by
  cases e with
  | dockingCommandBuilder dockId endTime result =>
      obtain ⟨dock, takes, rfl⟩ := Option.map_eq_some_iff.mp hstep
      obtain ⟨dock', takes', -⟩ := Option.map_eq_some_iff.mp hnext
      simp only [Timely, Classical.not_imp] at untimely
      obtain ⟨prepping, ok, noted⟩ := untimely
      have ended := ended_of_noted run (by simpa using noted)
      have sends : dock.next = .send result.response := by
        cases BlockingDock.step_cases takes with
        | build _ => simp [BlockingDock.built, ok, prepping]
        | feedback _ waits => simp [FeedbackWait.step] at waits
        | fedBack _ returns => simp [FeedbackWait.step] at returns
      have command : ∃ request, e' = .dockingCommandAsync request := by
        cases BlockingDock.step_cases takes' <;> simp_all
      obtain ⟨request, rfl⟩ := command
      intro stops
      apply stops (h ++ [.dockingCommandBuilder dockId endTime result]) request []
      · rw [List.append_assoc, List.singleton_append]
      · exact List.mem_append_left _ ended
  | _ => exact absurd trivial untimely

/-- An attempt whose feedback wait `early_end` ends. -/
def endedAttempt : List DockEvent :=
  [.nsecSinceEpoch 0, .dockingCommandBuilder 7 100 ⟨⟨SDKErrorCode.success.code, ""⟩, {}⟩,
    .earlyEnd false, .dockingCommandAsync { prepPoseBehavior := .usePose }, .earlyEnd false,
    .waitFor true, .dockingCommand ⟨⟨SDKErrorCode.success.code, ""⟩, { dockingCommandId := 1 }⟩,
    .sleepFor 0, .dockingCommandFeedbackAsync 1, .nsecSinceEpoch 0, .earlyEnd true,
    .nsecSinceEpoch 0, .dockingCommandFeedback
      ⟨⟨SDKErrorCode.success.code, ""⟩, { status := statusInProgress }⟩,
    .earlyEnd true, .nsecSinceEpoch 0,
    .dockingCommandBuilder 7 100 ⟨⟨SDKErrorCode.success.code, ""⟩, {}⟩]

theorem obeysCaller_secondAttempt :
    ObeysCaller ⟨7, 2, 10, 100, true, false⟩
      (endedAttempt ++ [.earlyEnd true, .returns ⟨DockingHelperErrorCode.cancelled.code, ""⟩ 1]) :=
  blockingDock_obeysCaller
    (.cons ⟨rfl, trivial⟩ (.cons ⟨rfl, nofun⟩ (.cons ⟨rfl, trivial⟩ (.cons ⟨rfl, trivial⟩
    (.cons ⟨rfl, trivial⟩ (.cons ⟨rfl, trivial⟩ (.cons ⟨rfl, trivial⟩ (.cons ⟨rfl, trivial⟩
    (.cons ⟨rfl, trivial⟩ (.cons ⟨rfl, trivial⟩ (.cons ⟨rfl, trivial⟩ (.cons ⟨rfl, trivial⟩
    (.cons ⟨rfl, trivial⟩ (.cons ⟨rfl, trivial⟩ (.cons ⟨rfl, trivial⟩ (.cons ⟨rfl, nofun⟩
    (.cons ⟨rfl, trivial⟩ (.cons ⟨rfl, trivial⟩ (.nil _)))))))))))))))))))

/-- With one attempt allowed, the same answers do not keep the command to the prep
pose from being sent. -/
theorem not_obeysCaller_onlyAttempt :
    ¬ ∀ call h s, Run (StepOf (BlockingDock.step call)) (.start call) h s →
      ObeysCaller call h := by
  intro obeys
  have run : Run (StepOf (BlockingDock.step ⟨7, 1, 10, 100, true, false⟩))
      (.start ⟨7, 1, 10, 100, true, false⟩)
      (endedAttempt ++ [.dockingCommandAsync { prepPoseBehavior := .onlyPose }]) _ :=
    .cons rfl (.cons rfl (.cons rfl (.cons rfl (.cons rfl (.cons rfl (.cons rfl (.cons rfl
    (.cons rfl (.cons rfl (.cons rfl (.cons rfl (.cons rfl (.cons rfl (.cons rfl (.cons rfl
    (.cons rfl (.nil _)))))))))))))))))
  have latched : Latched (endedAttempt ++
      [.dockingCommandAsync { prepPoseBehavior := .onlyPose }]) := by
    unfold Latched endedAttempt
    decide
  exact (obeys _ _ _ run).stops latched endedAttempt _ [] rfl (by unfold endedAttempt; decide)

end Obeying

end SpotSdk.Client
