import Mathlib.Data.List.Basic
import SpotSdk.Robot.TokenSession

/-!
# Refreshing after a login

A login should leave the user token periodically refreshed until the robot goes or the
callback aborts the refresh. The manager is made only once, so a login after an abort
finds a manager whose thread has ended.
-/

namespace SpotSdk.Client

open Foundations Common

variable {ι : Type*}

/-- A robot on which nobody has logged in. -/
def RobotSession.new (serialNumber : String) : RobotSession ι :=
  { serialNumber }

/-- The thread is in its loop, and `IsAlive`. -/
def TokenManager.running (manager : TokenManager) : Bool :=
  manager.isAlive &&
    match manager.loop with
    | .leaving => false
    | .left => false
    | _ => true

/-- A token refresh loop is running. -/
def RobotSession.refreshing (s : RobotSession ι) : Bool :=
  s.tokenManager.elim false TokenManager.running

/-- The callback answers `kAbort`. -/
def SessionEvent.aborts : SessionEvent ι → Bool
  | .callbackAnswered (some .abort) => true
  | _ => false

/-- A login succeeds. -/
def SessionEvent.completesLogin : SessionEvent ι → Bool
  | .cacheLogin _ => true
  | _ => false

def SessionEvent.destroys : SessionEvent ι → Bool
  | .destroy => true
  | _ => false

/-- After a successful login the refresh loop runs until the robot is destroyed or the
callback aborts it. -/
def RefreshesAfterLogin [DecidableEq ι] (start : RobotSession ι) (h : List (SessionEvent ι)) :
    Prop :=
  ∀ pre i mid post t, h = pre ++ .cacheLogin i :: (mid ++ post) →
    (∀ e ∈ mid, e.aborts = false ∧ e.destroys = false) →
    Run (StepOf RobotSession.step) start (pre ++ .cacheLogin i :: mid) t → t.refreshing = true

/-- No login succeeds after an abort. -/
def NoLoginAfterAbort (h : List (SessionEvent ι)) : Prop :=
  h.Pairwise fun e later => e.aborts = true → later.completesLogin = false

namespace TokenManager

variable {manager : TokenManager}

/-- Every answer but an abort goes on with the loop. -/
theorem react_running (result : ErrorCallbackResult) :
    (manager.react result).running = (manager.isAlive && result != .abort) := by
  cases result <;> simp [react, resumeNormalOperation, running]

theorem failed_running (status : Status) :
    (manager.failed status).running = manager.isAlive := by
  unfold failed
  split
  · simp [running]
  · simp [react_running]

end TokenManager

namespace RobotSession

variable [DecidableEq ι] {s t : RobotSession ι} {e : SessionEvent ι}
  {h : List (SessionEvent ι)} {manager : TokenManager} {serialNumber : String}

omit [DecidableEq ι] in
theorem ensureTokenManager_eq : s.ensureTokenManager =
    { s with tokenManager := some (s.tokenManager.getD { callback := s.errorCallback }) } := by
  unfold ensureTokenManager
  split
  · next none => rw [none, Option.getD_none]
  · next some =>
      rw [some, Option.getD_some, ← some]

omit [DecidableEq ι] in
theorem updateTokenCache_tokenManager (username : String) :
    (s.updateTokenCache username).tokenManager =
      some (s.tokenManager.getD { callback := s.errorCallback }) := by
  simp only [updateTokenCache, writeTokenCache, ensureTokenManager_eq]
  split_ifs <;> rfl

omit [DecidableEq ι] in
@[simp] theorem updateTokenCache_destroyed (username : String) :
    (s.updateTokenCache username).destroyed = s.destroyed := by
  simp only [updateTokenCache, writeTokenCache, ensureTokenManager_eq]
  split_ifs <;> rfl

/-- An existing manager stays, and only an abort ends its loop. -/
theorem manager_step (hstep : StepOf step s e t) (made : s.tokenManager = some manager)
    (kept : e.destroys = false) :
    ∃ manager', t.tokenManager = some manager' ∧
      manager'.running = (manager.running && !e.aborts) := by
  cases (step_cases hstep).2 with
  | authenticate place => exact ⟨manager, made, by simp [SessionEvent.aborts]⟩
  | loginFailed place => exact ⟨manager, made, by simp [SessionEvent.aborts]⟩
  | loginAnswered place => exact ⟨manager, made, by simp [SessionEvent.aborts]⟩
  | storeLogin place => exact ⟨manager, made, by simp [SessionEvent.aborts]⟩
  | cacheLogin place =>
      refine ⟨manager, ?_, by simp [SessionEvent.aborts]⟩
      simp [setLogin, updateTokenCache_tokenManager, made]
  | readToken made' place =>
      obtain rfl := Option.some.inj (made.symm.trans made')
      exact ⟨_, rfl, by simp [TokenManager.running, place, SessionEvent.aborts]⟩
  | refreshFailed made' place =>
      obtain rfl := Option.some.inj (made.symm.trans made')
      refine ⟨_, rfl, ?_⟩
      rw [TokenManager.failed_running]
      simp [TokenManager.running, place, SessionEvent.aborts]
  | refreshAnswered made' place =>
      obtain rfl := Option.some.inj (made.symm.trans made')
      exact ⟨_, rfl, by simp [TokenManager.running, place, SessionEvent.aborts]⟩
  | storeRefresh made' place =>
      obtain rfl := Option.some.inj (made.symm.trans made')
      exact ⟨_, rfl, by simp [TokenManager.running, place, SessionEvent.aborts]⟩
  | cacheRefresh made' place =>
      obtain rfl := Option.some.inj (made.symm.trans made')
      refine ⟨_, rfl, ?_⟩
      simp [TokenManager.running, TokenManager.resumeNormalOperation, place,
        SessionEvent.aborts]
  | @callbackAnswered _ status answer made' place =>
      obtain rfl := Option.some.inj (made.symm.trans made')
      refine ⟨_, rfl, ?_⟩
      rw [TokenManager.called, TokenManager.react_running]
      rcases answer with _ | answer
      · simp [TokenManager.running, place, SessionEvent.aborts]
      · cases answer <;> simp [TokenManager.running, place, SessionEvent.aborts]
  | leaveLoop made' place =>
      obtain rfl := Option.some.inj (made.symm.trans made')
      exact ⟨_, rfl, by simp [TokenManager.running, TokenManager.leave, place]⟩
  | setCallback =>
      refine ⟨_, congrArg (Option.map _) made, ?_⟩
      simp [TokenManager.running, SessionEvent.aborts]
  | destroy => cases kept

/-- Without a manager there is nothing to abort, and a login makes one that runs. -/
theorem no_manager_step (hstep : StepOf step s e t) (unmade : s.tokenManager = none)
    (kept : e.destroys = false) :
    e.aborts = false ∧
      (e.completesLogin = false ∧ t.tokenManager = none ∨
        ∃ manager, t.tokenManager = some manager ∧ manager.running = true) := by
  cases (step_cases hstep).2 with
  | authenticate place => exact ⟨rfl, .inl ⟨rfl, unmade⟩⟩
  | loginFailed place => exact ⟨rfl, .inl ⟨rfl, unmade⟩⟩
  | loginAnswered place => exact ⟨rfl, .inl ⟨rfl, unmade⟩⟩
  | storeLogin place => exact ⟨rfl, .inl ⟨rfl, unmade⟩⟩
  | cacheLogin place =>
      refine ⟨rfl, .inr ⟨{ callback := s.errorCallback }, ?_, rfl⟩⟩
      simp [setLogin, updateTokenCache_tokenManager, unmade]
  | setCallback => exact ⟨rfl, .inl ⟨rfl, by simp [unmade]⟩⟩
  | destroy => cases kept
  | readToken made place => simp [made] at unmade
  | refreshFailed made place => simp [made] at unmade
  | refreshAnswered made place => simp [made] at unmade
  | storeRefresh made place => simp [made] at unmade
  | cacheRefresh made place => simp [made] at unmade
  | callbackAnswered made place => simp [made] at unmade
  | leaveLoop made place => simp [made] at unmade

/-- What the history says of the manager, while the robot lives: there is one once a
login succeeded, and its loop runs exactly until an abort. -/
structure ManagerTracks (h : List (SessionEvent ι)) (s : RobotSession ι) : Prop where
  made : (∃ e ∈ h, e.completesLogin = true) → s.tokenManager ≠ none
  running : ∀ manager, s.tokenManager = some manager →
    (manager.running = true ↔ ∀ e ∈ h, e.aborts = false)
  unmade : s.tokenManager = none → ∀ e ∈ h, e.aborts = false

theorem ManagerTracks.step (inv : ManagerTracks h s) (hstep : StepOf step s e t)
    (kept : e.destroys = false) : ManagerTracks (h ++ [e]) t := by
  cases current : s.tokenManager with
  | none =>
      have quiet := inv.unmade current
      obtain ⟨aborts, made⟩ := no_manager_step hstep current kept
      have all : ∀ e' ∈ h ++ [e], e'.aborts = false := by
        simpa [or_imp, forall_and, aborts] using quiet
      rcases made with ⟨unlogged, unmade⟩ | ⟨manager, made, running⟩
      · refine ⟨fun ⟨e', mem, logged⟩ => ?_, fun _ made => ?_, fun _ => all⟩
        · rcases List.mem_append.mp mem with mem | mem
          · exact absurd current (inv.made ⟨e', mem, logged⟩)
          · rw [List.mem_singleton.mp mem, unlogged] at logged
            cases logged
        · rw [unmade] at made
          cases made
      · refine ⟨fun _ => by simp [made], fun _ same => ?_, fun _ => all⟩
        obtain rfl := Option.some.inj (made.symm.trans same)
        exact iff_of_true running all
  | some manager =>
      obtain ⟨manager', made, running⟩ := manager_step hstep current kept
      refine ⟨fun _ => by simp [made], fun _ same => ?_, fun unmade => ?_⟩
      · obtain rfl := Option.some.inj (made.symm.trans same)
        rw [running, Bool.and_eq_true, inv.running manager current]
        simp [or_imp, forall_and]
      · rw [unmade] at made
        cases made

omit [DecidableEq ι] in
theorem new_managerTracks : ManagerTracks [] (new serialNumber : RobotSession ι) := by
  constructor
  case made =>
    rintro ⟨e, inside, _⟩
    exact absurd inside List.not_mem_nil
  case running =>
    intro manager made
    cases made
  case unmade => exact fun _ e inside => absurd inside List.not_mem_nil

/-- A robot that was destroyed takes no more steps. -/
theorem managerTracks (run : Run (StepOf step) (new serialNumber) h s) :
    (s.destroyed = false → ManagerTracks h s ∧ ∀ e ∈ h, e.destroys = false) := by
  have base : (new serialNumber : RobotSession ι).destroyed = false →
      ManagerTracks [] (new serialNumber : RobotSession ι) ∧
        ∀ e ∈ ([] : List (SessionEvent ι)), e.destroys = false :=
    fun _ => ⟨new_managerTracks, fun e inside => absurd inside List.not_mem_nil⟩
  refine run.recorded (I := fun h s => s.destroyed = false →
    ManagerTracks h s ∧ ∀ e ∈ h, e.destroys = false) base ?_
  intro h s e t before hstep live
  obtain ⟨lived, takes⟩ := step_cases hstep
  have kept : e.destroys = false := by
    cases takes with
    | destroy => cases live
    | _ => rfl
  obtain ⟨inv, quiet⟩ := before lived
  exact ⟨inv.step hstep kept, by simpa [or_imp, forall_and, kept] using quiet⟩

/-- Only the destructor destroys. -/
theorem live_step (hstep : StepOf step s e t) (kept : e.destroys = false) :
    t.destroyed = false := by
  obtain ⟨live, takes⟩ := step_cases hstep
  cases takes with
  | cacheLogin place => simp [setLogin, live]
  | cacheRefresh made place => simp [setManager, live]
  | destroy => cases kept
  | _ => exact live

theorem live_of_quiet (run : Run (StepOf step) s h t) (live : s.destroyed = false)
    (quiet : ∀ e ∈ h, e.destroys = false) : t.destroyed = false := by
  induction run with
  | nil s => exact live
  | cons hstep _ ih =>
      exact ih (live_step hstep (quiet _ List.mem_cons_self))
        fun e mem => quiet e (List.mem_cons_of_mem _ mem)

/-- A login is followed by refreshing exactly when no abort came before it. -/
theorem refreshing_iff (run : Run (StepOf step) (new serialNumber) h s)
    (live : s.destroyed = false) (logged : ∃ e ∈ h, e.completesLogin = true) :
    s.refreshing = true ↔ ∀ e ∈ h, e.aborts = false := by
  obtain ⟨inv, -⟩ := managerTracks run live
  obtain ⟨manager, made⟩ := Option.ne_none_iff_exists'.mp (inv.made logged)
  rw [refreshing, made]
  exact inv.running manager made

/-- After each login refreshing goes on until the robot goes or an abort, exactly when no
login came after an abort. -/
theorem refreshesAfterLogin_iff (run : Run (StepOf step) (new serialNumber) h s) :
    RefreshesAfterLogin (new serialNumber) h ↔ NoLoginAfterAbort h := by
  constructor
  · suffices Run (StepOf step) (new serialNumber) h s ∧
        (RefreshesAfterLogin (new serialNumber) h → NoLoginAfterAbort h) from this.2
    refine run.recorded (I := fun h s => Run (StepOf step) (new serialNumber) h s ∧
      (RefreshesAfterLogin (new serialNumber) h → NoLoginAfterAbort h))
      ⟨.nil _, fun _ => List.Pairwise.nil⟩ ?_
    rintro h s e t ⟨before, earlier⟩ hstep
    have after := before.append (.single hstep)
    refine ⟨after, fun refreshes => ?_⟩
    refine List.pairwise_append.mpr ⟨earlier ?_, List.pairwise_singleton _ _, ?_⟩
    · intro pre i mid post u split
      apply refreshes pre i mid (post ++ [e])
      rw [split]
      simp
    · intro a mem later last aborts
      obtain rfl := List.mem_singleton.mp last
      cases later with
      | cacheLogin i =>
          have running := refreshes h i [] [] t rfl nofun after
          have quiet := (refreshing_iff after (live_step hstep rfl)
            ⟨.cacheLogin i, by simp, rfl⟩).mp running
          rw [quiet a (List.mem_append_left _ mem)] at aborts
          cases aborts
      | _ => rfl
  · intro none pre i mid post t split quiet before
    subst split
    have logged : ∃ e ∈ pre ++ .cacheLogin i :: mid, e.completesLogin = true :=
      ⟨.cacheLogin i, by simp, rfl⟩
    have live : t.destroyed = false := by
      obtain ⟨u, -, after⟩ := before.split
      cases after with
      | cons hstep tail =>
          exact live_of_quiet tail (live_step hstep rfl) fun e mem => (quiet e mem).2
    have early : ∀ e ∈ pre, e.aborts = false := by
      intro e mem
      by_contra aborts
      have unlogged := (List.pairwise_append.mp none).2.2 e mem (.cacheLogin i)
        List.mem_cons_self (by simpa using aborts)
      cases unlogged
    refine (refreshing_iff before live logged).mpr fun e mem => ?_
    rcases List.mem_append.mp mem with mem | mem
    · exact early e mem
    · rcases List.mem_cons.mp mem with rfl | mem
      · rfl
      · exact (quiet e mem).1

/-- One caller logs in with its password. -/
def loginWith (username token : String) : List (SessionEvent Unit) :=
  [.authenticate () (.password username "secret"), .loginAnswered () token, .storeLogin (),
    .cacheLogin ()]

def tokenExpired : Status := ⟨⟨⟨"GetAuthTokenResponse_Status", [1]⟩, statusInvalidToken⟩, ""⟩

/-- A refresh fails, and the callback answers it. -/
def expires (answer : ErrorCallbackResult) : List (SessionEvent Unit) :=
  [.readToken, .refreshFailed tokenExpired, .callbackAnswered (some answer)]

theorem refreshesAfterLogin_resumed :
    RefreshesAfterLogin (new "robot")
      (.setTokenRefreshErrorCallback true :: loginWith "user" "first" ++
        expires .resumeNormalOperation ++ loginWith "user" "second") := by
  have run : Run (StepOf step) (new "robot")
      (.setTokenRefreshErrorCallback true :: loginWith "user" "first" ++
        expires .resumeNormalOperation ++ loginWith "user" "second") _ :=
    .cons rfl (.cons rfl (.cons rfl (.cons rfl (.cons rfl (.cons rfl (.cons rfl (.cons rfl
    (.cons rfl (.cons rfl (.cons rfl (.cons rfl (.nil _))))))))))))
  refine (refreshesAfterLogin_iff run).mpr ?_
  unfold NoLoginAfterAbort loginWith expires
  decide

/-- After an abort a new login finds the manager whose thread has ended. -/
theorem not_refreshesAfterLogin_aborted :
    ¬ ∀ (h : List (SessionEvent Unit)) s, Run (StepOf step) (new "robot") h s →
      RefreshesAfterLogin (new "robot") h := by
  intro refreshes
  have run : Run (StepOf step) (new "robot")
      (.setTokenRefreshErrorCallback true :: loginWith "user" "first" ++ expires .abort ++
        [.leaveLoop] ++ loginWith "user" "second") _ :=
    .cons rfl (.cons rfl (.cons rfl (.cons rfl (.cons rfl (.cons rfl (.cons rfl (.cons rfl
    (.cons rfl (.cons rfl (.cons rfl (.cons rfl (.cons rfl (.nil _)))))))))))))
  have running := refreshes _ _ run
    (.setTokenRefreshErrorCallback true :: loginWith "user" "first" ++ expires .abort ++
      [.leaveLoop] ++ (loginWith "user" "second").dropLast) () [] [] _ rfl nofun run
  cases running

end RobotSession

end SpotSdk.Client
