import SpotSdk.Estop.EstopEndpoint
import SpotSdk.Foundations.WordNarrowing

/-!
# Challenges and responses

The robot sends 64-bit challenges and the endpoint keeps them in an `int`. A check-in
answers the last stored challenge exactly when that challenge fits.
-/

namespace SpotSdk.Client

open Common Foundations

/-- The challenge a check-in received and stored. -/
def CheckIn.stored (chain : EstopProcessorChain) (checkIn : CheckIn) : Option (BitVec 64) :=
  match checkIn.outcome with
  | .answered response =>
      if checkIn.endpoint.lockedFirstCheckin = true ∨
          (estopCheckIn chain checkIn.outcome).status.ok = true then
        some response.challenge
      else none
  | _ => none

/-- The last challenge stored by a list of check-ins. -/
def lastStored (chain : EstopProcessorChain) (before : List CheckIn) : Option (BitVec 64) :=
  (before.filterMap (CheckIn.stored chain)).getLast?

/-- The request answers the challenge by its complement, or carries nothing. -/
def Carries (request : EstopCheckInRequest) : Option (BitVec 64) → Prop
  | some challenge => request.challenge = challenge ∧ request.response = ~~~challenge
  | none => request.challenge = 0 ∧ request.response = 0

/-- Every check-in answers the challenge stored before it. -/
def AnswersChallenges (chain : EstopProcessorChain) (history : List CheckIn) : Prop :=
  ∀ before checkIn after, history = before ++ checkIn :: after →
    Carries checkIn.request (lastStored chain before)

/-- A challenge that a non-zero `int` can represent. -/
def FitsInt (challenge : BitVec 64) : Prop :=
  0 < challenge.toNat ∧ challenge.toNat < 2 ^ 31 ∨ 2 ^ 64 - 2 ^ 31 ≤ challenge.toNat

/-- Every stored challenge that a later check-in answers fits. -/
def ChallengesFit (chain : EstopProcessorChain) (history : List CheckIn) : Prop :=
  ∀ before checkIn after, history = before ++ checkIn :: after →
    ∀ challenge, lastStored chain before = some challenge → FitsInt challenge

/-- The endpoint of a constructor call; it has no challenge yet. -/
def EstopEndpoint.new (name : String) (estopTimeout : Int) (role : String)
    (firstCheckin : Bool) (estopCutPowerTimeout : Int) : EstopEndpoint where
  endpointName := name
  estopTimeout := estopTimeout
  estopCutPowerTimeout := estopCutPowerTimeout
  lockedFirstCheckin := firstCheckin
  endpointRole := role

/-! ## One request -/

variable {chain : EstopProcessorChain} {endpoint : EstopEndpoint} {before : List CheckIn}
  {checkIn : CheckIn}

theorem pos_of_narrow_ne_zero {c : BitVec 64} (hne : c.setWidth 32 ≠ 0) : 0 < c.toNat := by
  apply Nat.pos_of_ne_zero
  intro hzero
  apply hne
  have hc : c = 0 := BitVec.eq_of_toNat_eq hzero
  rw [hc]
  rfl

/-- An endpoint that keeps a challenge as an `int` answers it exactly when it fits. -/
theorem carries_narrow_iff (stopLevel : EstopStopLevel) (c : BitVec 64)
    (h : endpoint.challenge = c.setWidth 32) :
    Carries (endpoint.makeCheckInRequest stopLevel endpoint.challenge endpoint.getResponse)
      (some c) ↔ FitsInt c := by
  simp only [Carries, EstopEndpoint.makeCheckInRequest, EstopEndpoint.getResponse, h]
  by_cases hzero : c.setWidth 32 = 0
  · -- A challenge that becomes zero is answered by zero.
    rw [if_pos hzero, hzero]
    have hext : (0 : BitVec 32).signExtend 64 = 0 := by decide
    rw [hext]
    constructor
    · rintro ⟨rfl, hresponse⟩
      exact absurd hresponse (by decide)
    · intro hfits
      have hmod := congrArg BitVec.toNat hzero
      rw [BitVec.toNat_setWidth] at hmod
      have hmod' : c.toNat % 2 ^ 32 = 0 := hmod
      have hlt := c.isLt
      unfold FitsInt at hfits
      omega
  · rw [if_neg hzero]
    simp only [EstopEndpoint.generateChallengeResponse,
      BitVec.signExtend_not (by decide : 0 < 32)]
    have hsurvive := widen_narrow_int_iff c
    constructor
    · rintro ⟨heq, _⟩
      have hpos := pos_of_narrow_ne_zero hzero
      exact (hsurvive.mp heq).imp (fun hlow => ⟨hpos, hlow⟩) id
    · intro hfits
      have heq := hsurvive.mpr (hfits.imp And.right id)
      exact ⟨heq, congrArg _ heq⟩

theorem carries_none (stopLevel : EstopStopLevel) (h : endpoint.challenge = 0) :
    Carries (endpoint.makeCheckInRequest stopLevel endpoint.challenge endpoint.getResponse)
      none := by
  have hext : (0 : BitVec 32).signExtend 64 = 0 := by decide
  simp only [Carries, EstopEndpoint.makeCheckInRequest, EstopEndpoint.getResponse, h, if_true,
    hext, and_self]

/-! ## Runs -/

/-- The endpoint keeps the last stored challenge as an `int`, and before the first
check-in nothing was stored. -/
structure KeepsChallenge (chain : EstopProcessorChain) (endpoint : EstopEndpoint)
    (before : List CheckIn) : Prop where
  challenge : endpoint.challenge =
    match lastStored chain before with
    | some challenge => challenge.setWidth 32
    | none => 0
  first : endpoint.lockedFirstCheckin = true → lastStored chain before = none

theorem KeepsChallenge.congr {endpoint' : EstopEndpoint}
    (h : KeepsChallenge chain endpoint before)
    (hsame : EstopEndpoint.SameChallenge endpoint' endpoint) :
    KeepsChallenge chain endpoint' before :=
  ⟨hsame.1.trans h.challenge, fun hfirst => h.first (hsame.2 ▸ hfirst)⟩

theorem lastStored_append (chain : EstopProcessorChain) (before : List CheckIn)
    (checkIn : CheckIn) :
    lastStored chain (before ++ [checkIn]) =
      ((checkIn.stored chain).or (lastStored chain before)) := by
  simp only [lastStored, List.filterMap_append, List.getLast?_append]
  cases h : checkIn.stored chain <;> simp [h]

/-- A check-in stores its challenge, changes nothing, or fails as the first one. -/
theorem result_cases (chain : EstopProcessorChain) (checkIn : CheckIn) :
    (∃ c, checkIn.stored chain = some c ∧
        (checkIn.result chain).1 = (checkIn.endpoint.setChallenge c).setFirstCheckIn false) ∨
      checkIn.stored chain = none ∧ (checkIn.result chain).1 = checkIn.endpoint ∨
      checkIn.stored chain = none ∧ checkIn.endpoint.lockedFirstCheckin = true ∧
        (checkIn.result chain).1 = (checkIn.endpoint.setChallenge 0).setFirstCheckIn false := by
  obtain ⟨endpoint, stopLevel, outcome⟩ := checkIn
  simp only [CheckIn.result, EstopEndpoint.onCheckInResult, CheckIn.stored]
  cases hfirst : endpoint.lockedFirstCheckin with
  | true =>
      cases outcome with
      | answered response => exact Or.inl ⟨response.challenge, by simp, rfl⟩
      | notSent status hs => exact Or.inr (Or.inr ⟨rfl, rfl, rfl⟩)
      | failed status hs => exact Or.inr (Or.inr ⟨rfl, rfl, rfl⟩)
  | false =>
      cases hok : (estopCheckIn chain outcome).status.ok with
      | true =>
          have hanswered : outcome.Answered := RpcOutcome.answered_of_ok hok
          cases outcome with
          | answered response => exact Or.inl ⟨response.challenge, by simp, rfl⟩
          | notSent status hs => exact absurd hanswered id
          | failed status hs => exact absurd hanswered id
      | false =>
          refine Or.inr (Or.inl ⟨?_, rfl⟩)
          cases outcome <;> simp

/-- A check-in keeps the last stored challenge up to date. -/
theorem KeepsChallenge.after (h : KeepsChallenge chain checkIn.endpoint before) :
    KeepsChallenge chain (checkIn.result chain).1 (before ++ [checkIn]) := by
  have happend := lastStored_append chain before checkIn
  obtain ⟨c, hstored, hresult⟩ | ⟨hstored, hresult⟩ | ⟨hstored, hfirst, hresult⟩ :=
    result_cases chain checkIn
  · rw [hstored, Option.some_or] at happend
    rw [hresult]
    refine ⟨?_, fun hfalse => nomatch hfalse⟩
    rw [happend]
    rfl
  · rw [hstored, Option.none_or] at happend
    rw [hresult]
    exact ⟨by rw [happend]; exact h.challenge, by rw [happend]; exact h.first⟩
  · rw [hstored, Option.none_or, h.first hfirst] at happend
    rw [hresult]
    refine ⟨?_, fun hfalse => nomatch hfalse⟩
    rw [happend]
    rfl

/-- At every check-in of a run the endpoint keeps the last challenge stored before. -/
theorem keepsChallenge_of_mem {calls : List EstopCall} {mid after : List CheckIn}
    (h : KeepsChallenge chain endpoint before)
    (heq : checkIns chain endpoint calls = mid ++ checkIn :: after) :
    KeepsChallenge chain checkIn.endpoint (before ++ mid) := by
  induction calls generalizing endpoint before mid with
  | nil => simp [checkIns] at heq
  | cons call calls ih =>
      obtain ⟨hsame, hnone⟩ | ⟨first, hsame, hperform⟩ :=
        EstopEndpoint.perform_cases chain endpoint call
      · rw [checkIns, hnone, List.nil_append] at heq
        exact ih (h.congr hsame) heq
      · rw [checkIns, hperform, List.singleton_append] at heq
        cases mid with
        | nil =>
            obtain ⟨rfl, _⟩ := List.cons.inj heq
            rw [List.append_nil]
            exact h.congr hsame
        | cons head mid =>
            obtain ⟨rfl, htail⟩ := List.cons.inj heq
            have hafter := ih (h.congr hsame).after htail
            rwa [List.append_assoc, List.singleton_append] at hafter

theorem new_keepsChallenge (name : String) (estopTimeout : Int) (role : String)
    (firstCheckin : Bool) (cutPowerTimeout : Int) :
    KeepsChallenge chain
      (EstopEndpoint.new name estopTimeout role firstCheckin cutPowerTimeout) [] :=
  ⟨rfl, fun _ => rfl⟩

/-- One check-in answers the last challenge exactly when that challenge fits. -/
theorem KeepsChallenge.carries_iff (h : KeepsChallenge chain checkIn.endpoint before) :
    Carries checkIn.request (lastStored chain before) ↔
      ∀ challenge, lastStored chain before = some challenge → FitsInt challenge := by
  have hchallenge := h.challenge
  cases hlast : lastStored chain before with
  | none =>
      rw [hlast] at hchallenge
      exact iff_of_true (carries_none checkIn.stopLevel hchallenge) (by simp)
  | some c =>
      rw [hlast] at hchallenge
      rw [CheckIn.request, carries_narrow_iff checkIn.stopLevel c hchallenge]
      simp

/-- In a run of a new endpoint every check-in answers the last challenge exactly when
all the answered challenges are representable as a non-zero `int`. -/
theorem answersChallenges_iff (chain : EstopProcessorChain) (name : String)
    (estopTimeout : Int) (role : String) (firstCheckin : Bool) (cutPowerTimeout : Int)
    (calls : List EstopCall) :
    AnswersChallenges chain (checkIns chain
        (EstopEndpoint.new name estopTimeout role firstCheckin cutPowerTimeout) calls) ↔
      ChallengesFit chain (checkIns chain
        (EstopEndpoint.new name estopTimeout role firstCheckin cutPowerTimeout) calls) := by
  have hkeeps : ∀ {mid checkIn after}, checkIns chain
        (EstopEndpoint.new name estopTimeout role firstCheckin cutPowerTimeout) calls =
          mid ++ checkIn :: after → KeepsChallenge chain checkIn.endpoint mid :=
    fun heq => keepsChallenge_of_mem (new_keepsChallenge ..) heq
  constructor
  · intro hanswers before checkIn after heq
    exact (hkeeps heq).carries_iff.mp (hanswers before checkIn after heq)
  · intro hfit before checkIn after heq
    exact (hkeeps heq).carries_iff.mpr (hfit before checkIn after heq)

/-- An answer of the robot that accepts the check-in and sends a challenge. -/
def accepts (challenge : BitVec 64) : CheckInOutcome :=
  .answered { header := { error := { code := 1 } }, challenge, status := 1 }

/-- The challenge `2 ^ 31` is answered as a negative number. -/
theorem not_answersChallenges_highBit :
    ¬ AnswersChallenges [commonResponseProcessor]
      (checkIns [commonResponseProcessor] (EstopEndpoint.new "estop" 0 "PDB_rooted" true 0)
        [.stop (accepts 0x80000000), .stop (accepts 1)]) := by
  intro hanswers
  have hsecond := hanswers [_] _ [] rfl
  exact absurd hsecond.1 (by decide)

end SpotSdk.Client
