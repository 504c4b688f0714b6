import Mathlib.Data.Finset.Basic
import SpotSdk.Common.RpcErrorCode
import SpotSdk.Foundations.TurnLoops
import SpotSdk.Robot.ChannelHistory

/-!
# Waiting for services

`WaitForAllServices` lists the services of a robot until the names that are waited for are
all there. A failure that can be retried is only waited out, so that the services reported
missing are those of the latest listing that succeeded. After a success through the proxy
every service has its channel without a new listing.

## Implementation notes

A turn of the loop is what the directory answers in it and the time after the sleep. Times
are numbers of nanoseconds in 64 bits; the deadline is a sum that wraps.
-/

namespace SpotSdk.Client

open Foundations Common

def waitErrorCategory : ErrorCategory := ⟨"wait_error", [0]⟩

inductive WaitError
  | success
  | timeout
  deriving DecidableEq, Repr

def WaitError.code : WaitError → ErrorCode
  | success => ⟨waitErrorCategory, 0⟩
  | timeout => ⟨waitErrorCategory, 1⟩

structure WaitResult where
  status : Status := Status.unset
  missingServices : Finset String := ∅
  deriving DecidableEq

/-- What a turn of the loop meets. -/
structure WaitTurn where
  directory : Result (List ServiceEntry)
  now : Int64

/-- The robot and the services missing so far. -/
structure ServiceWait where
  robot : RobotChannels
  missingServices : Finset String := ∅

section Loop

variable (serviceNames : Finset String) (endTime : Int64)

/-- The names that no entry takes away. -/
def eraseListed (listing : List ServiceEntry) : Finset String :=
  listing.foldl (fun missing entry => missing.erase entry.name) serviceNames

/-- The end of a turn: the sleep and the test of the loop. -/
def sleepOn (now : Int64) (wait : ServiceWait) : Except (WaitResult × RobotChannels) ServiceWait :=
  if now < endTime then .ok wait
  else .error (⟨⟨WaitError.timeout.code, ""⟩, wait.missingServices⟩, wait.robot)

/-- One turn of the loop of `WaitForAllServices`. -/
def waitTurn (wait : ServiceWait) (turn : WaitTurn) :
    Except (WaitResult × RobotChannels) ServiceWait :=
  let (listResult, robot) := wait.robot.listServices turn.directory
  if !listResult.ok then
    if !listResult.status.code.meets .retryable then
      .error (⟨listResult.status, wait.missingServices⟩, robot)
    else sleepOn endTime turn.now ⟨robot, wait.missingServices⟩
  else
    let missing := eraseListed serviceNames listResult.response
    if missing = ∅ then .error (⟨⟨WaitError.success.code, ""⟩, missing⟩, robot)
    else sleepOn endTime turn.now ⟨robot, missing⟩

/-- `WaitForAllServices`: the turns it goes on after, and its result with the robot it leaves,
if it is not still waiting. -/
def waitForAllServices (robot : RobotChannels) (startTime timeout : Int64)
    (turns : List WaitTurn) : Nat × Option (WaitResult × RobotChannels) :=
  takeTurns (waitTurn serviceNames (startTime + timeout)) { robot } turns

end Loop

/-! ## What the turns say -/

/-- The turn lists the services. -/
def WaitTurn.Lists (turn : WaitTurn) : Prop := turn.directory.ok = true

/-- The turn lists the services, and this name is not among them. -/
def WaitTurn.Misses (name : String) (turn : WaitTurn) : Prop :=
  turn.Lists ∧ ¬ Client.Lists turn.directory.response name

/-- The turn fails in a way that can be retried. -/
def WaitTurn.Retries (turn : WaitTurn) : Prop :=
  turn.directory.ok = false ∧ turn.directory.status.code.meets .retryable = true

/-- The latest listing, if there is one, does not have the name. -/
def MissingSince (turns : List WaitTurn) (name : String) : Prop :=
  RaisedSince (WaitTurn.Misses name) WaitTurn.Lists turns

/-- The turn brings no end but that of the time. -/
def WaitTurn.Undecided (serviceNames : Finset String) (turn : WaitTurn) : Prop :=
  turn.Retries ∨ turn.Lists ∧ ∃ name ∈ serviceNames, turn.Misses name

/-- How a turn ends the wait after others. -/
inductive WaitEnds (serviceNames : Finset String) (endTime : Int64) (before : List WaitTurn)
    (turn : WaitTurn) : WaitResult → Prop
  | found (lists : turn.Lists) (all : ∀ name ∈ serviceNames, ¬ turn.Misses name) :
      WaitEnds serviceNames endTime before turn ⟨⟨WaitError.success.code, ""⟩, ∅⟩
  | refused {missing : Finset String} (failed : turn.directory.ok = false)
      (persistent : turn.directory.status.code.meets .retryable = false)
      (since : ∀ name, name ∈ missing ↔ name ∈ serviceNames ∧ MissingSince before name) :
      WaitEnds serviceNames endTime before turn ⟨turn.directory.status, missing⟩
  | timedOut {missing : Finset String} (undecided : turn.Undecided serviceNames)
      (late : endTime ≤ turn.now)
      (since : ∀ name, name ∈ missing ↔
        name ∈ serviceNames ∧ MissingSince (before ++ [turn]) name) :
      WaitEnds serviceNames endTime before turn ⟨⟨WaitError.timeout.code, ""⟩, missing⟩

/-- The robot after the listings of some turns. -/
def afterListings (robot : RobotChannels) (turns : List WaitTurn) : RobotChannels :=
  turns.foldl (fun robot turn => (robot.listServices turn.directory).2) robot

/-- What the listing of a turn leaves. -/
def ServiceWait.listed (serviceNames : Finset String) (wait : ServiceWait) (turn : WaitTurn) :
    ServiceWait where
  robot := (wait.robot.listServices turn.directory).2
  missingServices := if turn.directory.ok then eraseListed serviceNames turn.directory.response
    else wait.missingServices

/-- What the loop has recorded after some turns that did not end it. -/
structure ServiceWait.Tracks (serviceNames : Finset String) (robot : RobotChannels)
    (turns : List WaitTurn) (wait : ServiceWait) : Prop where
  listings : wait.robot = afterListings robot turns
  missing : ∀ name, name ∈ wait.missingServices ↔ name ∈ serviceNames ∧ MissingSince turns name

section Wait

variable {serviceNames : Finset String} {startTime timeout endTime : Int64}
  {wait next : ServiceWait} {robot robot' : RobotChannels} {turn : WaitTurn}
  {before turns : List WaitTurn} {name : String} {result : WaitResult} {n : Nat}

theorem mem_eraseListed (listing : List ServiceEntry) :
    name ∈ eraseListed serviceNames listing ↔ name ∈ serviceNames ∧ ¬ Lists listing name := by
  rw [eraseListed]
  induction listing generalizing serviceNames with
  | nil => simp [Lists]
  | cons entry rest ih =>
      rw [List.foldl_cons, ih, Finset.mem_erase, lists_cons, not_or]
      tauto

theorem eraseListed_eq_empty_iff (lists : turn.Lists) :
    eraseListed serviceNames turn.directory.response = ∅ ↔
      ∀ name ∈ serviceNames, ¬ turn.Misses name := by
  rw [Finset.eq_empty_iff_forall_notMem]
  constructor
  · rintro empty name member ⟨_, unlisted⟩
    exact empty name ((mem_eraseListed _).mpr ⟨member, unlisted⟩)
  · intro all name member
    obtain ⟨awaited, unlisted⟩ := (mem_eraseListed _).mp member
    exact all name awaited ⟨lists, unlisted⟩

/-- A turn by what the directory answers in it. -/
theorem waitTurn_eq : waitTurn serviceNames endTime wait turn =
    if turn.directory.ok then
      if eraseListed serviceNames turn.directory.response = ∅ then
        .error (⟨⟨WaitError.success.code, ""⟩, ∅⟩, (wait.listed serviceNames turn).robot)
      else sleepOn endTime turn.now (wait.listed serviceNames turn)
    else if turn.directory.status.code.meets .retryable then
      sleepOn endTime turn.now (wait.listed serviceNames turn)
    else .error (⟨turn.directory.status, wait.missingServices⟩,
      (wait.listed serviceNames turn).robot) := by
  rw [waitTurn]
  cases ok : turn.directory.ok with
  | true =>
      have response : (wait.robot.listServices turn.directory).1.response =
          turn.directory.response := by
        rw [RobotChannels.listServices_eq, RobotChannels.updateInformationFromListEntries,
          if_pos ok]
      simp only [RobotChannels.listServices_ok, ok, response, ServiceWait.listed]
      by_cases empty : eraseListed serviceNames turn.directory.response = ∅ <;> simp [empty]
  | false =>
      simp only [RobotChannels.listServices_ok, ok, RobotChannels.listServices_status ok,
        ServiceWait.listed]
      cases turn.directory.status.code.meets .retryable <;> simp

theorem sleepOn_ok_iff {now : Int64} : sleepOn endTime now wait = .ok next ↔
    now < endTime ∧ next = wait := by
  rw [sleepOn]
  split
  · next early => simp [early, eq_comm]
  · next late => simp [late]

theorem sleepOn_error_iff {now : Int64} : sleepOn endTime now wait = .error (result, robot') ↔
    endTime ≤ now ∧ result = ⟨⟨WaitError.timeout.code, ""⟩, wait.missingServices⟩ ∧
      robot' = wait.robot := by
  rw [sleepOn]
  split
  · next early => simp [Int64.not_le.mpr early]
  · next late => simp [Int64.not_lt.mp late, eq_comm]

theorem undecided_iff : turn.Undecided serviceNames ↔
    if turn.directory.ok then eraseListed serviceNames turn.directory.response ≠ ∅
    else turn.directory.status.code.meets .retryable = true := by
  cases ok : turn.directory.ok with
  | true =>
      rw [if_pos rfl, ne_eq, eraseListed_eq_empty_iff ok]
      simp [WaitTurn.Undecided, WaitTurn.Retries, WaitTurn.Lists, ok]
  | false => simp [WaitTurn.Undecided, WaitTurn.Retries, WaitTurn.Lists, ok]

/-- The loop goes on after an undecided turn that is in time. -/
theorem waitTurn_ok_iff : waitTurn serviceNames endTime wait turn = .ok next ↔
    turn.Undecided serviceNames ∧ turn.now < endTime ∧ next = wait.listed serviceNames turn := by
  rw [waitTurn_eq, undecided_iff]
  cases turn.directory.ok with
  | true =>
      by_cases empty : eraseListed serviceNames turn.directory.response = ∅
      · simp [empty]
      · simp [empty, sleepOn_ok_iff]
  | false => cases turn.directory.status.code.meets .retryable <;> simp [sleepOn_ok_iff]

theorem afterListings_snoc : afterListings robot (turns ++ [turn]) =
    ((afterListings robot turns).listServices turn.directory).2 :=
  List.foldl_append

theorem ServiceWait.Tracks.listed (tracks : wait.Tracks serviceNames robot turns) :
    (wait.listed serviceNames turn).Tracks serviceNames robot (turns ++ [turn]) where
  listings := by
    rw [afterListings_snoc, ← tracks.listings]
    rfl
  missing name := by
    rw [MissingSince, raisedSince_snoc, ServiceWait.listed]
    cases ok : turn.directory.ok with
    | true =>
        rw [if_pos rfl, mem_eraseListed]
        simp [WaitTurn.Misses, WaitTurn.Lists, ok]
    | false =>
        rw [if_neg Bool.false_ne_true, tracks.missing]
        simp [WaitTurn.Misses, WaitTurn.Lists, ok, MissingSince]

theorem ServiceWait.Tracks.start (serviceNames : Finset String) (robot : RobotChannels) :
    ServiceWait.Tracks serviceNames robot [] { robot } where
  listings := rfl
  missing name := by simp [MissingSince, not_raisedSince_nil]

/-- The ways a turn ends the loop. -/
theorem waitTurn_error_iff (tracks : wait.Tracks serviceNames robot before) :
    waitTurn serviceNames endTime wait turn = .error (result, robot') ↔
      WaitEnds serviceNames endTime before turn result ∧
        robot' = afterListings robot (before ++ [turn]) := by
  have after : (wait.listed serviceNames turn).Tracks serviceNames robot (before ++ [turn]) :=
    tracks.listed
  have sameMissing : ∀ {missing : Finset String} {turns : List WaitTurn} {wait : ServiceWait},
      wait.Tracks serviceNames robot turns →
      (∀ name, name ∈ missing ↔ name ∈ serviceNames ∧ MissingSince turns name) →
      missing = wait.missingServices := by
    intro missing turns wait tracks since
    ext name
    rw [since, tracks.missing]
  rw [waitTurn_eq, ← after.listings]
  constructor
  · intro ends
    cases ok : turn.directory.ok with
    | true =>
        rw [ok, if_pos rfl] at ends
        split at ends
        · next empty =>
          obtain ⟨rfl, rfl⟩ := Prod.mk.inj (Except.error.inj ends)
          exact ⟨.found ok ((eraseListed_eq_empty_iff ok).mp empty), rfl⟩
        · next some =>
          obtain ⟨late, rfl, rfl⟩ := sleepOn_error_iff.mp ends
          have undecided : turn.Undecided serviceNames := by
            rw [undecided_iff, if_pos ok]
            exact some
          exact ⟨.timedOut undecided late after.missing, rfl⟩
    | false =>
        rw [ok, if_neg Bool.false_ne_true] at ends
        split at ends
        · next retryable =>
          obtain ⟨late, rfl, rfl⟩ := sleepOn_error_iff.mp ends
          exact ⟨.timedOut (.inl ⟨ok, retryable⟩) late after.missing, rfl⟩
        · next persistent =>
          obtain ⟨rfl, rfl⟩ := Prod.mk.inj (Except.error.inj ends)
          exact ⟨.refused ok (Bool.eq_false_iff.mpr persistent) tracks.missing, rfl⟩
  · rintro ⟨ends, rfl⟩
    cases ends with
    | found lists all =>
        rw [if_pos (show turn.directory.ok = true from lists),
          if_pos ((eraseListed_eq_empty_iff lists).mpr all)]
    | refused failed persistent since =>
        rw [if_neg (Bool.eq_false_iff.mp failed), if_neg (Bool.eq_false_iff.mp persistent),
          sameMissing tracks since]
    | timedOut undecided late since =>
        have timesOut : sleepOn endTime _ (wait.listed serviceNames turn) = .error (_, _) :=
          sleepOn_error_iff.mpr ⟨late, rfl, rfl⟩
        rw [undecided_iff] at undecided
        rw [sameMissing after since]
        cases ok : turn.directory.ok with
        | true =>
            rw [ok, if_pos rfl] at undecided
            rw [if_pos rfl, if_neg undecided, timesOut]
        | false =>
            rw [ok, if_neg Bool.false_ne_true] at undecided
            rw [if_neg Bool.false_ne_true, if_pos undecided, timesOut]

/-- The loop is still going after turns that are all undecided and in time. -/
theorem waitTurn_run_iff {s : ServiceWait} :
    (∃ u, Run (Continues (waitTurn serviceNames endTime)) s turns u) ↔
      ∀ turn ∈ turns, turn.Undecided serviceNames ∧ turn.now < endTime := by
  induction turns generalizing s with
  | nil => exact iff_of_true ⟨s, .nil s⟩ (by simp)
  | cons turn turns ih =>
      rw [List.forall_mem_cons, ← ih (s := s.listed serviceNames turn)]
      constructor
      · rintro ⟨u, run⟩
        cases run with
        | cons step tail =>
            obtain ⟨undecided, early, rfl⟩ := waitTurn_ok_iff.mp step
            exact ⟨⟨undecided, early⟩, u, tail⟩
      · rintro ⟨⟨undecided, early⟩, u, tail⟩
        exact ⟨u, .cons (waitTurn_ok_iff.mpr ⟨undecided, early, rfl⟩) tail⟩

theorem tracks_of_run
    (run : Run (Continues (waitTurn serviceNames endTime)) { robot } turns wait) :
    wait.Tracks serviceNames robot turns := by
  apply run.recorded (I := fun turns wait => ServiceWait.Tracks serviceNames robot turns wait)
    (.start serviceNames robot)
  intro turns wait turn next tracks step
  obtain ⟨_, _, rfl⟩ := waitTurn_ok_iff.mp step
  exact tracks.listed

theorem takeTurns_waitTurn_iff :
    takeTurns (waitTurn serviceNames endTime) { robot } turns = (n, some (result, robot')) ↔
      ∃ before turn after, turns = before ++ turn :: after ∧ before.length = n ∧
        (∀ earlier ∈ before, earlier.Undecided serviceNames ∧ earlier.now < endTime) ∧
        WaitEnds serviceNames endTime before turn result ∧
        robot' = afterListings robot (before ++ [turn]) := by
  rw [takeTurns_eq_some_iff]
  constructor
  · rintro ⟨before, turn, after, wait, split, length, run, ends⟩
    exact ⟨before, turn, after, split, length, waitTurn_run_iff.mp ⟨wait, run⟩,
      (waitTurn_error_iff (tracks_of_run run)).mp ends⟩
  · rintro ⟨before, turn, after, split, length, open_, ends⟩
    obtain ⟨wait, run⟩ := waitTurn_run_iff.mpr open_
    exact ⟨before, turn, after, wait, split, length, run,
      (waitTurn_error_iff (tracks_of_run run)).mpr ends⟩

/-- The wait ends in the first turn that decides it or is late, with the services that the
latest successful listing does not have. -/
theorem waitForAllServices_iff (serviceNames : Finset String) (robot robot' : RobotChannels)
    (startTime timeout : Int64) (turns : List WaitTurn) (n : Nat) (result : WaitResult) :
    waitForAllServices serviceNames robot startTime timeout turns = (n, some (result, robot')) ↔
      ∃ before turn after, turns = before ++ turn :: after ∧ before.length = n ∧
        (∀ earlier ∈ before,
          earlier.Undecided serviceNames ∧ earlier.now < startTime + timeout) ∧
        WaitEnds serviceNames (startTime + timeout) before turn result ∧
        robot' = afterListings robot (before ++ [turn]) :=
  takeTurns_waitTurn_iff

/-! ## The channels after a wait -/

/-- A wait that succeeds ends in a listing with every name. -/
theorem WaitEnds.lists_of_ok (ends : WaitEnds serviceNames endTime before turn result)
    (ok : result.status.ok = true) :
    turn.Lists ∧ ∀ name ∈ serviceNames, Lists turn.directory.response name := by
  cases ends with
  | found lists all =>
      refine ⟨lists, fun name awaited => ?_⟩
      by_contra unlisted
      exact all name awaited ⟨lists, unlisted⟩
  | refused failed => exact absurd (failed.symm.trans ok) Bool.false_ne_true
  | timedOut => exact absurd ok Bool.false_ne_true

/-- The listings of a wait are calls like any others. -/
theorem afterListings_run (robot : RobotChannels) (turns : List WaitTurn) :
    Run (StepOf RobotChannels.step) robot
      (turns.map fun turn => .listServices turn.directory) (afterListings robot turns) := by
  induction turns generalizing robot with
  | nil => exact .nil robot
  | cons turn turns ih => exact .cons rfl (ih _)

theorem latestListing_append {calls after : List ChannelCall}
    (unlisted : ∀ call ∈ after, call.listing = none) :
    latestListing (calls ++ after) = latestListing calls := by
  induction after generalizing calls with
  | nil => rw [List.append_nil]
  | cons call after ih =>
      obtain ⟨first, rest⟩ := List.forall_mem_cons.mp unlisted
      rw [List.append_cons, ih rest, latestListing_snoc, first, Option.getD_none]

/-- After a wait that succeeded, and until the directory is listed again, each service that
was waited for gets its channel through the proxy without a listing: for its bootstrap
authority, or the one that the last turn lists. -/
theorem awaited_services_have_channels {calls after : List ChannelCall} {later : RobotChannels}
    (history : Run (StepOf RobotChannels.step) (.new false) calls robot)
    (waited : waitForAllServices serviceNames robot startTime timeout turns =
      (n, some (result, robot')))
    (succeeded : result.status.ok = true)
    (onward : Run (StepOf RobotChannels.step) robot' after later)
    (unlisted : ∀ call ∈ after, call.listing = none)
    (awaited : name ∈ serviceNames) (serviceType : String)
    (directory : Result (List ServiceEntry)) :
    ∃ last authority channel, turns[n]? = some last ∧
      (bootstrapAuthoritiesByName.lookup name).or
        (listedAuthority last.directory.response name) = some authority ∧
      later.asksDirectory name = false ∧
      (later.ensureChannel name serviceType directory).1 =
        ⟨⟨SDKErrorCode.success.code, ""⟩, some channel⟩ ∧
      channel.target = .secure authority := by
  obtain ⟨before, turn, rest, rfl, rfl, _, ends, rfl⟩ := takeTurns_waitTurn_iff.mp waited
  obtain ⟨lists, all⟩ := ends.lists_of_ok succeeded
  have remembers := RobotChannels.remembers
    ((history.append (afterListings_run robot (before ++ [turn]))).append onward)
  have latest : latestListing
      (calls ++ (before ++ [turn]).map (fun turn => .listServices turn.directory) ++ after) =
        turn.directory.response := by
    rw [latestListing_append unlisted, List.map_append, ← List.append_assoc]
    exact (latestListing_snoc ..).trans (by
      rw [ChannelCall.listing, if_pos (show turn.directory.ok = true from lists),
        Option.getD_some])
  have known : ∃ authority, (bootstrapAuthoritiesByName.lookup name).or
      (listedAuthority turn.directory.response name) = some authority := by
    apply Option.ne_none_iff_exists'.mp
    intro unknown
    exact listedAuthority_eq_none_iff.mp (Option.or_eq_none_iff.mp unknown).2 (all name awaited)
  obtain ⟨authority, known⟩ := known
  have cached : (bootstrapAuthoritiesByName.lookup name).or (later.authoritiesByName name) =
      some authority := by
    rw [remembers.authorities, latest, known]
  obtain ⟨channel, made, target, _⟩ :=
    RobotChannels.ensureSecureChannel_spec remembers.toSound remembers.mode authority
  refine ⟨turn, authority, channel, by simp, known, ?_, ?_, target⟩
  · rw [RobotChannels.asksDirectory_proxy remembers.mode, cached]
    rfl
  · rw [← made, RobotChannels.ensureChannel, RobotChannels.ensureChannelOver,
      if_neg (Bool.eq_false_iff.mp remembers.mode), RobotChannels.lookUp_known cached]

/-- The lease service is listed in the second turn. -/
def leaseTurns : List WaitTurn :=
  [⟨⟨⟨SDKErrorCode.success.code, ""⟩, []⟩, 1⟩,
    ⟨⟨⟨SDKErrorCode.success.code, ""⟩,
      [⟨"lease", "bosdyn.api.LeaseService", "lease.spot.robot"⟩]⟩, 2⟩]

theorem awaited_services_have_channels_lease :
    ∃ last authority channel, leaseTurns[1]? = some last ∧
      (bootstrapAuthoritiesByName.lookup "lease").or
        (listedAuthority last.directory.response "lease") = some authority ∧
      (afterListings (.new false) leaseTurns).asksDirectory "lease" = false ∧
      ((afterListings (.new false) leaseTurns).ensureChannel "lease" "bosdyn.api.LeaseService"
        ⟨Status.unset, []⟩).1 = ⟨⟨SDKErrorCode.success.code, ""⟩, some channel⟩ ∧
      channel.target = .secure authority := by
  have waited : waitForAllServices {"lease"} (.new false) 0 5 leaseTurns =
      (1, some (⟨⟨WaitError.success.code, ""⟩, ∅⟩, afterListings (.new false) leaseTurns)) := rfl
  exact awaited_services_have_channels (.nil _) waited rfl (.nil _) (List.forall_mem_nil _)
    (Finset.mem_singleton_self _) _ _

end Wait

end SpotSdk.Client
