import Mathlib.Algebra.Field.Rat
import Mathlib.Algebra.Order.Field.Basic
import Mathlib.Algebra.Order.Ring.Rat
import Mathlib.Data.List.DropRight
import Mathlib.Tactic.Linarith
import SpotSdk.Frames.Poses

/-!
# Buffers of timed poses

`MaybeAddPose` keeps the newest accepted poses in increasing order of time, and
`Lookup` answers a query from such a buffer. Numbers are elements of an ordered
field, and the functions of the maths library that `Slerp` calls are parameters.

## Implementation notes

`Lookup` searches with two indices that both start at zero. The buffer is split
at the first entry that is not older than the query: the two parts of that split
decide the outcome, so the search is only evaluated over them.
-/

namespace SpotSdk.Api

variable {K : Type*}

/-- The functions that `proto_math.cpp` and `Slerp` take from the maths library. -/
structure MathLibrary (K : Type*) where
  acos : K → K
  sin : K → K
  cos : K → K
  sqrt : K → K

structure TimedPose (K : Type*) where
  timestamp : Int64
  pose : SE3Pose K

/-- A `std::deque` of timed poses, its front first. -/
abbrev PoseBuffer (K : Type*) := List (TimedPose K)

section Interpolation

variable [Field K]

namespace Quaternion

/-- `operator+`. -/
instance instAddQuaternion : Add (Quaternion K) :=
  ⟨fun a b => ⟨a.w + b.w, a.x + b.x, a.y + b.y, a.z + b.z⟩⟩

/-- `operator-`. -/
instance instSubQuaternion : Sub (Quaternion K) :=
  ⟨fun a b => ⟨a.w - b.w, a.x - b.x, a.y - b.y, a.z - b.z⟩⟩

/-- The unary `operator-`. -/
instance instNegQuaternion : Neg (Quaternion K) := ⟨fun a => ⟨-a.w, -a.x, -a.y, -a.z⟩⟩

/-- `operator*(double, Quaternion)`. -/
instance instScaleQuaternion : HMul K (Quaternion K) (Quaternion K) :=
  ⟨fun s a => ⟨a.w * s, a.x * s, a.y * s, a.z * s⟩⟩

theorem add_def (a b : Quaternion K) :
    a + b = ⟨a.w + b.w, a.x + b.x, a.y + b.y, a.z + b.z⟩ := rfl

theorem sub_def (a b : Quaternion K) :
    a - b = ⟨a.w - b.w, a.x - b.x, a.y - b.y, a.z - b.z⟩ := rfl

theorem neg_def (a : Quaternion K) : -a = ⟨-a.w, -a.x, -a.y, -a.z⟩ := rfl

theorem scale_def (s : K) (a : Quaternion K) :
    s * a = ⟨a.w * s, a.x * s, a.y * s, a.z * s⟩ := rfl

end Quaternion

def dotProduct (a b : Quaternion K) : K :=
  a.x * b.x + a.y * b.y + a.z * b.z + a.w * b.w

def normalize (lib : MathLibrary K) (q : Quaternion K) : Quaternion K :=
  let len := lib.sqrt (q.x * q.x + q.y * q.y + q.z * q.z + q.w * q.w)
  (1 / len) * q

def lerp (a b : Vec3 K) (t : K) : Vec3 K :=
  a * (1 - t) + b * t

variable [LinearOrder K]

/-- `Slerp` takes the shorter path, and interpolates linearly between close rotations. -/
def slerp (lib : MathLibrary K) (a b : Quaternion K) (t : K) : Quaternion K :=
  let v0 := a
  let v1 := if dotProduct v0 b < 0 then -b else b
  let dot := if dotProduct v0 b < 0 then -dotProduct v0 b else dotProduct v0 b
  let dotThreshold : K := 1 - 1 / 10000
  if dot > dotThreshold then
    normalize lib (v0 + t * (v1 - v0))
  else
    let theta0 := lib.acos dot
    let theta := theta0 * t
    let sinTheta := lib.sin theta
    let sinTheta0 := lib.sin theta0
    let s0 := lib.cos theta - dot * sinTheta / sinTheta0
    let s1 := sinTheta / sinTheta0
    (s0 * v0) + (s1 * v1)

/-- `Interp(SE3Pose, SE3Pose, double)`. -/
def interp (lib : MathLibrary K) (a b : SE3Pose K) (t : K) : SE3Pose K :=
  ⟨lerp a.position b.position t, slerp lib a.rotation b.rotation t⟩

/-- The interpolating value of `Interp(TimedPose, TimedPose, int64_t)`; both differences
are taken in 64 bits. -/
def interpolationFactor (a b : TimedPose K) (timestamp : Int64) : K :=
  min (max (((timestamp - a.timestamp).toInt : K) / ((b.timestamp - a.timestamp).toInt : K)) 0) 1

/-- `Interp(TimedPose, TimedPose, int64_t)`. -/
def interpTimed (lib : MathLibrary K) (a b : TimedPose K) (timestamp : Int64) : SE3Pose K :=
  interp lib a.pose b.pose (interpolationFactor a b timestamp)

end Interpolation

inductive PoseLookupResult
  | emptyBuffer
  | exact
  | interpolated
  | clampedTooOld
  | clampedTooNew
  deriving DecidableEq, Repr

/-- The loop of `Lookup` from index `i` on: the final `greatest` and `least`. -/
def search (timestamp : Int64) (greatest : Nat) : PoseBuffer K → Nat → Nat → Nat × Nat
  | [], _, least => (greatest, least)
  | pose :: rest, i, least =>
      let least := if pose.timestamp ≤ timestamp then i else least
      if pose.timestamp ≥ timestamp then (i, least)
      else search timestamp greatest rest (i + 1) least

/-- `Lookup` gives its result and what it writes to `out`; `none` where `at` throws. -/
def lookup [Field K] [LinearOrder K] (lib : MathLibrary K) (buffer : PoseBuffer K)
    (timestamp : Int64) : Option (PoseLookupResult × Option (SE3Pose K)) :=
  if buffer.isEmpty then
    some (.emptyBuffer, none)
  else
    let (greatest, least) := search timestamp 0 buffer 0 0
    do
      let found ← buffer[greatest]?
      if found.timestamp = timestamp then
        return (.exact, some found.pose)
      if found.timestamp < timestamp then
        let newest ← buffer.getLast?
        return (.clampedTooNew, some newest.pose)
      if greatest = 0 then
        let oldest ← buffer.head?
        return (.clampedTooOld, some oldest.pose)
      let older ← buffer[least]?
      return (.interpolated, some (interpTimed lib older found timestamp))

/-- `MaybeAddPose`: whether the pose is accepted, and the buffer afterwards. -/
def maybeAddPose (timestamp : Int64) (pose : SE3Pose K) (buffer : PoseBuffer K)
    (maxPoses : Nat) : Bool × PoseBuffer K :=
  if buffer.getLast?.any (fun back => decide (back.timestamp ≥ timestamp)) then
    (false, buffer)
  else
    let pushed := buffer ++ [⟨timestamp, pose⟩]
    (true, if pushed.length > maxPoses then pushed.tail else pushed)

/-- A buffer whose entries increase strictly in time. -/
def Increasing (buffer : PoseBuffer K) : Prop :=
  buffer.Pairwise fun a b => a.timestamp < b.timestamp

section Adding

/-- One call of a sequence of `MaybeAddPose` calls, with the poses accepted so far. -/
def addCall (maxPoses : Nat) (s : PoseBuffer K × List (TimedPose K)) (call : TimedPose K) :
    PoseBuffer K × List (TimedPose K) :=
  let (accepted, buffer) := maybeAddPose call.timestamp call.pose s.1 maxPoses
  (buffer, if accepted then s.2 ++ [call] else s.2)

/-- A sequence of `MaybeAddPose` calls from an empty buffer: the buffer it leaves, and
the poses it accepted in order. -/
def addPoses (maxPoses : Nat) (calls : List (TimedPose K)) :
    PoseBuffer K × List (TimedPose K) :=
  calls.foldl (addCall maxPoses) ([], [])

/-- Erasing the front of a buffer that is too large by one keeps its newest entries. -/
theorem erase_front_eq_rtake {pushed : PoseBuffer K} {maxPoses : Nat}
    (h : pushed.length ≤ maxPoses + 1) :
    (if pushed.length > maxPoses then pushed.tail else pushed) = pushed.rtake maxPoses := by
  unfold List.rtake
  split
  · have one : pushed.length - maxPoses = 1 := by omega
    rw [one, List.drop_one]
  · have none : pushed.length - maxPoses = 0 := by omega
    rw [none, List.drop_zero]

/-- The newest entries of a list that has grown by one. -/
theorem rtake_append_singleton (accepted : List (TimedPose K)) (call : TimedPose K)
    (maxPoses : Nat) :
    (accepted ++ [call]).rtake maxPoses = (accepted.rtake maxPoses ++ [call]).rtake maxPoses := by
  cases maxPoses with
  | zero => simp only [List.rtake_zero]
  | succ n =>
      have twice : (accepted.rtake (n + 1)).rtake n = accepted.rtake n := by
        simp [List.rtake_eq_reverse_take_reverse, List.take_take]
      rw [List.rtake_concat_succ, List.rtake_concat_succ, twice]

/-- A call is rejected and changes nothing, or its pose is newer than the last entry and
the newest entries are kept. -/
theorem maybeAddPose_cases (call : TimedPose K) {buffer : PoseBuffer K} {maxPoses : Nat}
    (size : buffer.length ≤ maxPoses) :
    maybeAddPose call.timestamp call.pose buffer maxPoses = (false, buffer) ∨
      (∀ back, buffer.getLast? = some back → back.timestamp < call.timestamp) ∧
        maybeAddPose call.timestamp call.pose buffer maxPoses =
          (true, (buffer ++ [call]).rtake maxPoses) := by
  by_cases h : buffer.getLast?.any fun back => decide (back.timestamp ≥ call.timestamp)
  · exact .inl (if_pos h)
  · refine .inr ⟨?_, ?_⟩
    · intro back hback
      simpa [hback, Int64.not_le] using h
    · have room : (buffer ++ [call]).length ≤ maxPoses + 1 := by simpa using size
      rw [← erase_front_eq_rtake room]
      exact if_neg h

/-- In an increasing buffer no entry is newer than the last one. -/
theorem Increasing.append_singleton {buffer : PoseBuffer K} {call : TimedPose K}
    (h : Increasing buffer)
    (newer : ∀ back, buffer.getLast? = some back → back.timestamp < call.timestamp) :
    Increasing (buffer ++ [call]) := by
  refine List.pairwise_append.mpr ⟨h, List.pairwise_singleton _ _, ?_⟩
  rintro entry hentry _ hcall
  obtain rfl := List.mem_singleton.mp hcall
  rcases List.eq_nil_or_concat' buffer with rfl | ⟨init, back, rfl⟩
  · exact absurd hentry List.not_mem_nil
  · have last := newer back List.getLast?_concat
    rcases List.mem_append.mp hentry with inside | atEnd
    · have order := (List.pairwise_append.mp h).2.2 entry inside back (List.mem_singleton_self _)
      exact Int64.lt_trans order last
    · obtain rfl := List.mem_singleton.mp atEnd
      exact last

/-- What holds of the buffer and the accepted poses after every call. -/
structure Buffered (maxPoses : Nat) (s : PoseBuffer K × List (TimedPose K)) : Prop where
  increasing : Increasing s.1
  newest : s.1 = s.2.rtake maxPoses

theorem Buffered.size {maxPoses : Nat} {s : PoseBuffer K × List (TimedPose K)}
    (h : Buffered maxPoses s) : s.1.length = min maxPoses s.2.length := by
  rw [h.newest, List.rtake, List.length_drop]
  omega

theorem Buffered.eq_last {maxPoses : Nat} {s : PoseBuffer K × List (TimedPose K)}
    (h : Buffered maxPoses s) : s.1 = s.2.rtake (min maxPoses s.2.length) := by
  rw [h.newest, List.rtake, List.rtake]
  congr 1
  omega

theorem Buffered.addCall {maxPoses : Nat} {s : PoseBuffer K × List (TimedPose K)}
    (h : Buffered maxPoses s) (call : TimedPose K) :
    Buffered maxPoses (addCall maxPoses s call) := by
  obtain ⟨buffer, accepted⟩ := s
  have size : buffer.length ≤ maxPoses := h.size.trans_le (Nat.min_le_left _ _)
  rcases maybeAddPose_cases call size with same | ⟨newer, pushed⟩
  · simpa [Api.addCall, same] using h
  · have grown : Increasing (buffer ++ [call]) := h.increasing.append_singleton newer
    rw [Api.addCall, pushed]
    constructor
    · exact grown.sublist (List.drop_sublist _ _)
    · have newest : buffer = accepted.rtake maxPoses := h.newest
      calc
        (buffer ++ [call]).rtake maxPoses =
            (accepted.rtake maxPoses ++ [call]).rtake maxPoses := by rw [newest]
        _ = (accepted ++ [call]).rtake maxPoses := (rtake_append_singleton accepted call _).symm

/-- Every sequence of calls leaves the newest accepted poses, in increasing order. -/
theorem buffered_addPoses (maxPoses : Nat) (calls : List (TimedPose K)) :
    Buffered maxPoses (addPoses maxPoses calls) := by
  induction calls using List.reverseRecOn with
  | nil => exact ⟨List.Pairwise.nil, (List.rtake_nil _).symm⟩
  | append_singleton calls call ih =>
      have step : addPoses maxPoses (calls ++ [call]) =
          addCall maxPoses (addPoses maxPoses calls) call := by
        simp only [addPoses, List.foldl_append, List.foldl_cons, List.foldl_nil]
      rw [step]
      exact ih.addCall call

end Adding

section Searching

variable {timestamp : Int64} {older : PoseBuffer K}

/-- The search passes entries that are older than the query, and remembers the last. -/
theorem search_append_older (h : ∀ entry ∈ older, entry.timestamp < timestamp) (greatest : Nat)
    (rest : PoseBuffer K) (i least : Nat) :
    search timestamp greatest (older ++ rest) i least =
      search timestamp greatest rest (i + older.length)
        (if older = [] then least else i + older.length - 1) := by
  induction older generalizing i least with
  | nil => rfl
  | cons entry older ih =>
      have before : entry.timestamp < timestamp := h entry List.mem_cons_self
      have notAfter : ¬entry.timestamp ≥ timestamp := Int64.not_le.mpr before
      have tail := ih (fun e he => h e (List.mem_cons_of_mem _ he)) (i + 1) i
      rw [List.cons_append, search, if_pos (Int64.le_of_lt before)]
      simp only [if_neg notAfter]
      rw [tail]
      have length : i + 1 + older.length = i + (entry :: older).length := by
        rw [List.length_cons]
        omega
      have last : (if older = [] then i else i + 1 + older.length - 1) =
          if entry :: older = [] then least else i + (entry :: older).length - 1 := by
        cases older with
        | nil => rfl
        | cons _ _ => simp only [reduceCtorEq, if_false, length]
      rw [last, length]

/-- Where all entries are older, both indices keep their first values or the last index. -/
theorem search_all_older (h : ∀ entry ∈ older, entry.timestamp < timestamp) :
    (search timestamp 0 older 0 0).1 = 0 := by
  have all := search_append_older h 0 [] 0 0
  rw [List.append_nil] at all
  rw [all]
  rfl

/-- The search stops at the first entry that is not older than the query. -/
theorem search_stops {found : TimedPose K} {newer : PoseBuffer K}
    (h : ∀ entry ∈ older, entry.timestamp < timestamp) (stop : timestamp ≤ found.timestamp) :
    search timestamp 0 (older ++ found :: newer) 0 0 =
      (older.length, if found.timestamp ≤ timestamp then older.length else older.length - 1) := by
  rw [search_append_older h, search, if_pos stop]
  cases older with
  | nil => simp
  | cons entry older => simp

/-- Every buffer is older than the query, or has a first entry that is not. -/
theorem split_at_query (buffer : PoseBuffer K) (timestamp : Int64) :
    (∀ entry ∈ buffer, entry.timestamp < timestamp) ∨
      ∃ older found newer, buffer = older ++ found :: newer ∧
        (∀ entry ∈ older, entry.timestamp < timestamp) ∧ timestamp ≤ found.timestamp := by
  induction buffer with
  | nil => exact .inl (fun _ h => absurd h List.not_mem_nil)
  | cons entry buffer ih =>
      by_cases h : timestamp ≤ entry.timestamp
      · exact .inr ⟨[], entry, buffer, rfl, fun _ h => absurd h List.not_mem_nil, h⟩
      · have before : entry.timestamp < timestamp := Int64.not_le.mp h
        rcases ih with all | ⟨older, found, newer, rfl, all, stop⟩
        · exact .inl (List.forall_mem_cons.mpr ⟨before, all⟩)
        · exact .inr ⟨entry :: older, found, newer, rfl, List.forall_mem_cons.mpr ⟨before, all⟩,
            stop⟩

end Searching

section Factor

variable [Field K] [LinearOrder K] [IsStrictOrderedRing K]

/-- The difference of two timestamps is a 64 bit number. -/
def DifferenceFits (a b : Int64) : Prop :=
  Int64.minValue.toInt ≤ b.toInt - a.toInt ∧ b.toInt - a.toInt ≤ Int64.maxValue.toInt

theorem toInt_sub_of_fits {a b : Int64} (h : DifferenceFits a b) :
    (b - a).toInt = b.toInt - a.toInt := by
  have low : Int64.minValue.toInt = -9223372036854775808 := rfl
  have high : Int64.maxValue.toInt = 9223372036854775807 := rfl
  unfold DifferenceFits at h
  rw [Int64.toInt_sub]
  apply Int.bmod_eq_of_le <;> omega

/-- The factor of a query between two entries is its exact position between them. -/
theorem interpolationFactor_between {a b : TimedPose K} {timestamp : Int64}
    (after : a.timestamp < timestamp) (before : timestamp < b.timestamp)
    (fits : DifferenceFits a.timestamp b.timestamp) :
    0 < interpolationFactor a b timestamp ∧ interpolationFactor a b timestamp < 1 ∧
      interpolationFactor a b timestamp * (b.timestamp.toInt - a.timestamp.toInt : K) =
        timestamp.toInt - a.timestamp.toInt := by
  rw [Int64.lt_iff_toInt_lt] at after before
  have queryFits : DifferenceFits a.timestamp timestamp := by
    unfold DifferenceFits at fits ⊢
    have low : Int64.minValue.toInt = -9223372036854775808 := rfl
    omega
  have num : (0 : K) < timestamp.toInt - a.timestamp.toInt := by
    rw [sub_pos]
    exact_mod_cast after
  have den : (timestamp.toInt - a.timestamp.toInt : K) < b.timestamp.toInt - a.timestamp.toInt := by
    apply sub_lt_sub_right
    exact_mod_cast before
  have pos := num.trans den
  have factor : interpolationFactor a b timestamp =
      (timestamp.toInt - a.timestamp.toInt : K) / (b.timestamp.toInt - a.timestamp.toInt) := by
    have low := (div_pos num pos).le
    have high := ((div_lt_one pos).mpr den).le
    rw [interpolationFactor, toInt_sub_of_fits queryFits, toInt_sub_of_fits fits, Int.cast_sub,
      Int.cast_sub, max_eq_left low, min_eq_left high]
  rw [factor]
  refine ⟨div_pos num pos, (div_lt_one pos).mpr den, ?_⟩
  exact div_mul_cancel₀ _ pos.ne'

/-- The value at which a query between two entries is interpolated: its exact place between
them, or the clamped quotient of the wrapped differences where these overflow. -/
structure FactorBetween (a b : TimedPose K) (timestamp : Int64) (t : K) : Prop where
  fits : DifferenceFits a.timestamp b.timestamp →
    0 < t ∧ t < 1 ∧ t * (b.timestamp.toInt - a.timestamp.toInt : K) =
      timestamp.toInt - a.timestamp.toInt
  overflows : ¬DifferenceFits a.timestamp b.timestamp →
    t = min (max (((timestamp - a.timestamp).toInt : K) / (b.timestamp - a.timestamp).toInt) 0) 1

theorem interpolationFactor_factorBetween {a b : TimedPose K} {timestamp : Int64}
    (after : a.timestamp < timestamp) (before : timestamp < b.timestamp) :
    FactorBetween a b timestamp (interpolationFactor a b timestamp) :=
  ⟨interpolationFactor_between after before, fun _ => rfl⟩

/-- Two different values do not both place a query between the same entries. -/
theorem FactorBetween.unique {a b : TimedPose K} {timestamp : Int64} {s t : K}
    (after : a.timestamp < timestamp) (before : timestamp < b.timestamp)
    (hs : FactorBetween a b timestamp s) (ht : FactorBetween a b timestamp t) : s = t := by
  by_cases fits : DifferenceFits a.timestamp b.timestamp
  · obtain ⟨_, _, hs⟩ := hs.fits fits
    obtain ⟨_, _, ht⟩ := ht.fits fits
    have apart : (b.timestamp.toInt - a.timestamp.toInt : K) ≠ 0 := by
      have order := Int64.lt_trans after before
      rw [Int64.lt_iff_toInt_lt] at order
      rw [sub_ne_zero]
      exact_mod_cast order.ne'
    exact mul_right_cancel₀ apart (hs.trans ht.symm)
  · rw [hs.overflows fits, ht.overflows fits]

end Factor

section Looking

variable [Field K] [LinearOrder K]

/-- What a query is meant to find in a buffer. -/
inductive LooksUp (lib : MathLibrary K) (buffer : PoseBuffer K) (timestamp : Int64) :
    PoseLookupResult → Option (SE3Pose K) → Prop
  | empty (h : buffer = []) : LooksUp lib buffer timestamp .emptyBuffer none
  | found {entry} (h : entry ∈ buffer) (same : entry.timestamp = timestamp) :
      LooksUp lib buffer timestamp .exact (some entry.pose)
  | tooOld {first rest} (h : buffer = first :: rest)
      (older : ∀ entry ∈ buffer, timestamp < entry.timestamp) :
      LooksUp lib buffer timestamp .clampedTooOld (some first.pose)
  | tooNew {init last} (h : buffer = init ++ [last])
      (newer : ∀ entry ∈ buffer, entry.timestamp < timestamp) :
      LooksUp lib buffer timestamp .clampedTooNew (some last.pose)
  | between {init a b rest t} (h : buffer = init ++ a :: b :: rest)
      (after : a.timestamp < timestamp) (before : timestamp < b.timestamp)
      (factor : FactorBetween a b timestamp t) :
      LooksUp lib buffer timestamp .interpolated (some (interp lib a.pose b.pose t))

variable {lib : MathLibrary K} {buffer older newer : PoseBuffer K} {timestamp : Int64}
  {found : TimedPose K}

/-- Where every entry is older, the newest pose is returned. -/
theorem lookup_all_older {last : TimedPose K}
    (h : ∀ entry ∈ buffer, entry.timestamp < timestamp) (back : buffer.getLast? = some last) :
    lookup lib buffer timestamp = some (.clampedTooNew, some last.pose) := by
  cases buffer with
  | nil => simp at back
  | cons first rest =>
      have before : first.timestamp < timestamp := h first List.mem_cons_self
      have different : first.timestamp ≠ timestamp := Int64.ne_of_lt before
      simp [lookup, search_all_older h, before, different, back]

/-- The first entry that is not older decides the outcome, with the entry before it. -/
theorem lookup_split (h : ∀ entry ∈ older, entry.timestamp < timestamp)
    (stop : timestamp ≤ found.timestamp) :
    lookup lib (older ++ found :: newer) timestamp =
      if found.timestamp = timestamp then some (.exact, some found.pose)
      else match older.getLast? with
        | none => some (.clampedTooOld, some found.pose)
        | some a => some (.interpolated, some (interpTimed lib a found timestamp)) := by
  have notOlder : ¬found.timestamp < timestamp := Int64.not_lt.mpr stop
  have nonempty : ¬(older ++ found :: newer).isEmpty := by simp
  rw [lookup, if_neg nonempty, search_stops h stop]
  by_cases same : found.timestamp = timestamp
  · simp [same]
  · have later : ¬found.timestamp ≤ timestamp :=
      fun le => same (Int64.le_antisymm le stop)
    rcases List.eq_nil_or_concat' older with rfl | ⟨init, a, rfl⟩
    · simp [notOlder, same]
    · simp [notOlder, same, later]

section Outcomes

variable [IsStrictOrderedRing K]

/-- What the outcome promises is what `Lookup` returns, in an increasing buffer. -/
theorem LooksUp.lookup_eq {result : PoseLookupResult} {out : Option (SE3Pose K)}
    (increasing : Increasing buffer) (h : LooksUp lib buffer timestamp result out) :
    lookup lib buffer timestamp = some (result, out) := by
  cases h with
  | empty h => rw [h, lookup, if_pos List.isEmpty_nil]
  | @found entry member same =>
      obtain ⟨older, newer, rfl⟩ := List.append_of_mem member
      have before : ∀ e ∈ older, e.timestamp < timestamp := by
        intro e he
        rw [← same]
        exact (List.pairwise_append.mp increasing).2.2 e he entry List.mem_cons_self
      rw [lookup_split before (Int64.le_of_eq same.symm), if_pos same]
  | @tooOld first rest h older =>
      subst h
      have first := older _ List.mem_cons_self
      have stops : lookup lib ([] ++ _ :: rest) timestamp = _ :=
        lookup_split (fun _ h => absurd h List.not_mem_nil) (Int64.le_of_lt first)
      rwa [if_neg (Int64.ne_of_lt first).symm] at stops
  | tooNew h newer =>
      exact lookup_all_older newer (by rw [h, List.getLast?_concat])
  | @between init a b rest t h after before factor =>
      have older : ∀ e ∈ init ++ [a], e.timestamp < timestamp := by
        intro e he
        rcases List.mem_append.mp he with inside | atEnd
        · rw [h] at increasing
          have order := (List.pairwise_append.mp increasing).2.2 e inside a List.mem_cons_self
          exact Int64.lt_trans order after
        · rwa [List.mem_singleton.mp atEnd]
      have stops : lookup lib (init ++ [a] ++ b :: rest) timestamp = _ :=
        lookup_split older (Int64.le_of_lt before)
      rw [if_neg (Int64.ne_of_lt before).symm, List.getLast?_concat] at stops
      have exactly : t = interpolationFactor a b timestamp :=
        factor.unique after before (interpolationFactor_factorBetween after before)
      rw [h, List.append_cons, stops, exactly]
      rfl

/-- Every query has an outcome. -/
theorem exists_looksUp (lib : MathLibrary K) (buffer : PoseBuffer K) (timestamp : Int64)
    (increasing : Increasing buffer) :
    ∃ result out, LooksUp lib buffer timestamp result out := by
  rcases split_at_query buffer timestamp with all | ⟨older, found, newer, split, all, stop⟩
  · rcases List.eq_nil_or_concat' buffer with h | ⟨init, last, h⟩
    · exact ⟨_, _, .empty h⟩
    · exact ⟨_, _, .tooNew h all⟩
  · by_cases same : found.timestamp = timestamp
    · exact ⟨_, _, .found (by simp [split]) same⟩
    · have before : timestamp < found.timestamp := Int64.lt_of_le_of_ne stop (Ne.symm same)
      rcases List.eq_nil_or_concat' older with rfl | ⟨init, a, rfl⟩
      · refine ⟨_, _, .tooOld split ?_⟩
        intro entry hentry
        rw [split, Increasing, List.nil_append, List.pairwise_cons] at increasing
        rw [split] at hentry
        rcases List.mem_cons.mp hentry with rfl | later
        · exact before
        · exact Int64.lt_trans before (increasing.1 entry later)
      · rw [List.append_assoc] at split
        have after : a.timestamp < timestamp := all a (by simp)
        exact ⟨_, _, .between split after before (interpolationFactor_factorBetween after before)⟩

/-- `Lookup` returns exactly the outcome that the buffer and the query call for. -/
theorem lookup_eq_some_iff (increasing : Increasing buffer) {result : PoseLookupResult}
    {out : Option (SE3Pose K)} :
    lookup lib buffer timestamp = some (result, out) ↔
      LooksUp lib buffer timestamp result out := by
  constructor
  · intro h
    obtain ⟨result', out', looked⟩ := exists_looksUp lib buffer timestamp increasing
    rw [looked.lookup_eq increasing] at h
    obtain ⟨rfl, rfl⟩ := Prod.mk.inj (Option.some.inj h)
    exact looked
  · exact LooksUp.lookup_eq increasing

/-- The contract of the buffer and its queries. -/
theorem poseBuffer_contract (lib : MathLibrary K) (maxPoses : Nat) (calls : List (TimedPose K)) :
    let (buffer, accepted) := addPoses maxPoses calls
    (buffer.Pairwise fun a b => a.timestamp < b.timestamp) ∧ buffer.length ≤ maxPoses ∧
      buffer = accepted.rtake (min maxPoses accepted.length) ∧
      ∀ timestamp,
        (lookup lib buffer timestamp).isSome ∧
        ∀ result out, lookup lib buffer timestamp = some (result, out) ↔
          LooksUp lib buffer timestamp result out := by
  have state := buffered_addPoses maxPoses calls
  have increasing := state.increasing
  refine ⟨increasing, state.size.trans_le (Nat.min_le_left _ _), state.eq_last, ?_⟩
  intro timestamp
  obtain ⟨result, out, looked⟩ := exists_looksUp lib _ timestamp increasing
  exact ⟨Option.isSome_of_eq_some (looked.lookup_eq increasing),
    fun result out => lookup_eq_some_iff increasing⟩

end Outcomes

end Looking

/-- The functions of the maths library at the values that a pose without a rotation calls
them with. -/
def unrotatedLibrary : MathLibrary ℚ where
  acos _ := 0
  sin x := x
  cos _ := 1
  sqrt x := x

/-- Three poses in steps of ten nanoseconds, and one that comes too late. -/
def timedPoses : List (TimedPose ℚ) :=
  [⟨-10, ⟨⟨7, 7, 7⟩, 1⟩⟩, ⟨0, ⟨⟨0, 0, 0⟩, 1⟩⟩, ⟨0, ⟨⟨5, 5, 5⟩, 1⟩⟩, ⟨10, ⟨⟨1, 0, 0⟩, 1⟩⟩]

/-- Between the two poses that a buffer of two keeps, halfway in time is halfway in space. -/
theorem poseBuffer_contract_halfway :
    (addPoses 2 timedPoses).1.length ≤ 2 ∧
      ∃ pose, lookup unrotatedLibrary (addPoses 2 timedPoses).1 5 =
          some (.interpolated, some pose) ∧
        pose.position = ⟨1 / 2, 0, 0⟩ := by
  obtain ⟨_, size, _, answers⟩ := poseBuffer_contract unrotatedLibrary 2 timedPoses
  obtain ⟨_, outcomes⟩ := answers 5
  have kept : (addPoses 2 timedPoses).1 =
      [] ++ ⟨0, ⟨⟨0, 0, 0⟩, 1⟩⟩ :: ⟨10, ⟨⟨1, 0, 0⟩, 1⟩⟩ :: [] := rfl
  refine ⟨size, _, (outcomes _ _).mpr (.between (t := 1 / 2) kept ?_ ?_ ?_), ?_⟩
  · decide
  · decide
  · refine ⟨fun _ => ?_, fun overflows => absurd ?_ overflows⟩
    · refine ⟨by norm_num, by norm_num, ?_⟩
      change (1 / 2 : ℚ) * ((10 : ℤ) - (0 : ℤ)) = (5 : ℤ) - (0 : ℤ)
      norm_num
    · unfold DifferenceFits
      decide
  · ext <;> simp [interp, lerp]

end SpotSdk.Api
