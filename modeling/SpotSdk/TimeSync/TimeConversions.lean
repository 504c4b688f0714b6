import SpotSdk.TimeSync.TimeSyncEndpoint

/-!
# Timestamps and durations as nanoseconds

Both messages hold seconds and nanoseconds. The nanoseconds of a valid timestamp are not
negative, those of a valid duration have the sign of its seconds. `SetTimestamp` and
`SetDuration` both split a time by a division that truncates.

## Implementation notes

Signed overflow wraps here; the statements say where it does not occur. What the protobuf
library converts is a parameter.
-/

namespace SpotSdk.Client.TimeSync

/-- A number that an `int64_t` holds. -/
def FitsInt64 (n : Int) : Prop :=
  -9223372036854775808 ≤ n ∧ n ≤ 9223372036854775807

theorem fitsInt64_toInt (n : Int64) : FitsInt64 n.toInt :=
  ⟨Int64.le_toInt n, Int.le_of_lt_add_one (Int64.toInt_lt n)⟩

theorem FitsInt64.bmod {n : Int} (h : FitsInt64 n) : n.bmod Int64.size = n := by
  obtain ⟨low, high⟩ := h
  have size : Int64.size = 18446744073709551616 := rfl
  apply Int.bmod_eq_of_le <;> omega

/-! ## Timestamps -/

namespace Timestamp

/-- The instant of a timestamp, in nanoseconds since the epoch. -/
def nsec (timestamp : Timestamp) : Int :=
  timestamp.seconds.toInt * 1000000000 + timestamp.nanos.toInt

/-- From the first instant of the year 1 to the last one of the year 9999. -/
structure Valid (timestamp : Timestamp) : Prop where
  seconds : -62135596800 ≤ timestamp.seconds.toInt ∧ timestamp.seconds.toInt ≤ 253402300799
  nanos : 0 ≤ timestamp.nanos.toInt ∧ timestamp.nanos.toInt < 1000000000

/-- An instant has one valid timestamp at most. -/
theorem Valid.unique {a b : Timestamp} (ha : a.Valid) (hb : b.Valid) (same : a.nsec = b.nsec) :
    a = b := by
  obtain ⟨aSeconds, aNanos⟩ := a
  obtain ⟨bSeconds, bNanos⟩ := b
  obtain ⟨aLow, aHigh⟩ := ha.nanos
  obtain ⟨bLow, bHigh⟩ := hb.nanos
  simp only [nsec] at same aLow aHigh bLow bHigh
  have seconds : aSeconds.toInt = bSeconds.toInt := by omega
  have nanos : aNanos.toInt = bNanos.toInt := by omega
  rw [Int64.toInt_inj.mp seconds, Int32.toInt_inj.mp nanos]

end Timestamp

/-- The conversions of `google::protobuf::util::TimeUtil`. -/
structure TimeUtil where
  nanosecondsToTimestamp : Int64 → Timestamp
  timestampToNanoseconds : Timestamp → Int64

/-- `TimeUtil` normalizes the timestamps it makes, and reads every valid timestamp whose
instant an `int64_t` holds. -/
structure TimeUtil.Normalizes (util : TimeUtil) : Prop where
  makes : ∀ nanos, (util.nanosecondsToTimestamp nanos).Valid ∧
    (util.nanosecondsToTimestamp nanos).nsec = nanos.toInt
  reads : ∀ timestamp : Timestamp, timestamp.Valid → FitsInt64 timestamp.nsec →
    (util.timestampToNanoseconds timestamp).toInt = timestamp.nsec

section Timestamps

variable (util : TimeUtil)

/-- `Timestamp(nanos)`. -/
def timestamp (nanos : Int64) : Timestamp :=
  util.nanosecondsToTimestamp nanos

def timestampToNsec (timestamp : Timestamp) : Int64 :=
  util.timestampToNanoseconds timestamp

/-- `RobotTimeConverter::RobotTimestampFromLocalTimestamp`. -/
def RobotTimeConverter.robotTimestampFromLocalTimestamp (converter : RobotTimeConverter)
    (localTimestamp : Timestamp) : Timestamp :=
  converter.robotTimestampFromLocal (timestampToNsec util localTimestamp)

/-- `SetTimestamp` makes the valid timestamp of a time, and the time is read back. -/
structure StampsExactly (nsec : Int64) : Prop where
  valid : (setTimestamp nsec).Valid
  denotes : (setTimestamp nsec).nsec = nsec.toInt
  normalized : setTimestamp nsec = timestamp util nsec
  read : timestampToNsec util (setTimestamp nsec) = nsec

/-- The converter makes the valid timestamp of a local time plus its skew. -/
structure ConvertsExactly (converter : RobotTimeConverter) (localTime : Int64) : Prop where
  fromLocal : (converter.robotTimestampFromLocal localTime).Valid ∧
    (converter.robotTimestampFromLocal localTime).nsec =
      localTime.toInt + converter.clockSkew.toInt
  fromTimestamp : ∀ localTimestamp : Timestamp, localTimestamp.Valid →
    localTimestamp.nsec = localTime.toInt →
    (converter.robotTimestampFromLocalTimestamp util localTimestamp).Valid ∧
      (converter.robotTimestampFromLocalTimestamp util localTimestamp).nsec =
        localTime.toInt + converter.clockSkew.toInt

/-- The times that a truncating division leaves no negative remainder of. -/
def LeavesNonneg (nsec : Int) : Prop :=
  0 ≤ nsec ∨ 1000000000 ∣ nsec

variable {util}

theorem leavesNonneg_iff (nsec : Int) : LeavesNonneg nsec ↔ 0 ≤ nsec.tmod 1000000000 := by
  constructor
  · rintro (later | whole)
    · exact Int.tmod_nonneg _ later
    · exact Int.le_of_eq (Int.tmod_eq_zero_of_dvd whole).symm
  · intro nonneg
    obtain ⟨_, _, _, ⟨later, _⟩ | ⟨_, nonpos⟩⟩ := truncated_split nsec
    · exact .inl later
    · exact .inr (Int.dvd_of_tmod_eq_zero (Int.le_antisymm nonpos nonneg))

theorem setTimestamp_valid_iff (nsec : Int64) :
    (setTimestamp nsec).Valid ↔ LeavesNonneg nsec.toInt := by
  have nanos : (setTimestamp nsec).nanos.toInt = nsec.toInt.tmod 1000000000 :=
    nsecRemainder_toInt nsec
  have seconds : (setTimestamp nsec).seconds.toInt = nsec.toInt.tdiv 1000000000 :=
    wholeSeconds_toInt nsec
  rw [leavesNonneg_iff, ← nanos]
  constructor
  · intro valid
    exact valid.nanos.1
  · intro nonneg
    obtain ⟨low, high⟩ := fitsInt64_toInt nsec
    have split := truncated_split nsec.toInt
    rw [← nanos, ← seconds] at split
    exact ⟨by omega, nonneg, by omega⟩

/-- The timestamp of an instant that is not earlier than the epoch, or of a whole second,
is the one that `TimeUtil` makes. -/
theorem StampsExactly.of_leavesNonneg (normalizes : util.Normalizes) {nsec : Int64}
    (h : LeavesNonneg nsec.toInt) : StampsExactly util nsec := by
  have valid := (setTimestamp_valid_iff nsec).mpr h
  have denotes : (setTimestamp nsec).nsec = nsec.toInt := setTimestamp_nsec nsec
  refine ⟨valid, denotes, ?_, ?_⟩
  · obtain ⟨made, instant⟩ := normalizes.makes nsec
    exact valid.unique made (denotes.trans instant.symm)
  · have fits : FitsInt64 (setTimestamp nsec).nsec := by
      rw [denotes]
      exact fitsInt64_toInt nsec
    apply Int64.toInt_inj.mp
    calc
      (timestampToNsec util (setTimestamp nsec)).toInt = (setTimestamp nsec).nsec :=
        normalizes.reads _ valid fits
      _ = nsec.toInt := denotes

/-- The time that the converter stamps, where the sum does not overflow. -/
theorem robotTime_toInt {localTime skew : Int64} (fits : FitsInt64 (localTime.toInt + skew.toInt)) :
    (localTime + skew).toInt = localTime.toInt + skew.toInt := by
  rw [Int64.toInt_add]
  exact fits.bmod

/-- A time is stamped exactly if it is not earlier than the epoch or a whole second. A
local time is converted exactly if this holds of its sum with the skew. -/
theorem stampsExactly_iff (normalizes : util.Normalizes) :
    (∀ nsec : Int64, StampsExactly util nsec ↔ LeavesNonneg nsec.toInt) ∧
      ∀ (converter : RobotTimeConverter) (localTime : Int64),
        FitsInt64 (localTime.toInt + converter.clockSkew.toInt) →
        (ConvertsExactly util converter localTime ↔
          LeavesNonneg (localTime.toInt + converter.clockSkew.toInt)) := by
  constructor
  · intro nsec
    constructor
    · intro stamped
      exact (setTimestamp_valid_iff nsec).mp stamped.valid
    · exact StampsExactly.of_leavesNonneg normalizes
  · intro converter localTime fits
    have sum := robotTime_toInt fits
    constructor
    · intro converts
      rw [← sum]
      exact (setTimestamp_valid_iff _).mp converts.fromLocal.1
    · intro leaves
      rw [← sum] at leaves
      have stamped := StampsExactly.of_leavesNonneg normalizes leaves
      refine ⟨⟨stamped.valid, stamped.denotes.trans sum⟩, ?_⟩
      intro localTimestamp valid instant
      have read : timestampToNsec util localTimestamp = localTime := by
        apply Int64.toInt_inj.mp
        rw [← instant]
        apply normalizes.reads localTimestamp valid
        rw [instant]
        exact fitsInt64_toInt localTime
      rw [RobotTimeConverter.robotTimestampFromLocalTimestamp, read]
      exact ⟨stamped.valid, stamped.denotes.trans sum⟩

end Timestamps

/-- Seconds and nanoseconds as `int64_t` arithmetic adds them up. -/
theorem nsecOf_toInt (seconds : Int64) (nanos : Int32) :
    (seconds * kBillion + nanos.toInt64).toInt =
      (seconds.toInt * 1000000000 + nanos.toInt).bmod Int64.size := by
  have billion : kBillion.toInt = 1000000000 := by decide
  rw [Int64.toInt_add, Int64.toInt_mul, Int32.toInt_toInt64, billion]
  exact Int.bmod_add_bmod ..

/-- `TimeUtil` as the library has it. -/
def flooringTimeUtil : TimeUtil where
  nanosecondsToTimestamp nanos :=
    ⟨Int64.ofInt (nanos.toInt / 1000000000), Int32.ofInt (nanos.toInt % 1000000000)⟩
  timestampToNanoseconds timestamp := timestamp.seconds * kBillion + timestamp.nanos.toInt64

theorem flooringTimeUtil_normalizes : flooringTimeUtil.Normalizes where
  makes nanos := by
    obtain ⟨low, high⟩ := fitsInt64_toInt nanos
    have seconds : (Int64.ofInt (nanos.toInt / 1000000000)).toInt = nanos.toInt / 1000000000 := by
      apply Int64.toInt_ofInt_of_le <;> omega
    have rest : (Int32.ofInt (nanos.toInt % 1000000000)).toInt = nanos.toInt % 1000000000 := by
      apply Int32.toInt_ofInt_of_le <;> omega
    refine ⟨⟨?_, ?_⟩, ?_⟩
    · simp only [flooringTimeUtil, seconds]
      omega
    · simp only [flooringTimeUtil, rest]
      omega
    · simp only [flooringTimeUtil, Timestamp.nsec, seconds, rest]
      omega
  reads timestamp _ fits := by
    calc
      (timestamp.seconds * kBillion + timestamp.nanos.toInt64).toInt =
          timestamp.nsec.bmod Int64.size := nsecOf_toInt timestamp.seconds timestamp.nanos
      _ = timestamp.nsec := fits.bmod

/-- One and a half seconds after the epoch, and then half a second of skew. -/
theorem stampsExactly_afterEpoch :
    StampsExactly flooringTimeUtil 1500000000 ∧
      ConvertsExactly flooringTimeUtil ⟨500000000⟩ 1500000000 := by
  obtain ⟨stamps, converts⟩ := stampsExactly_iff flooringTimeUtil_normalizes
  constructor
  · apply (stamps 1500000000).mpr
    exact .inl (by decide)
  · apply (converts ⟨500000000⟩ 1500000000 (by unfold FitsInt64; decide)).mpr
    exact .inl (by decide)

/-- One nanosecond before the epoch, as a time and as a local time with its skew. -/
theorem setTimestamp_beforeEpoch :
    setTimestamp (-1) = ⟨0, -1⟩ ∧ ¬(setTimestamp (-1)).Valid ∧
      ¬((⟨-2⟩ : RobotTimeConverter).robotTimestampFromLocal 1).Valid := by
  have stamped : setTimestamp (-1) = ⟨0, -1⟩ := by decide
  have converted : (⟨-2⟩ : RobotTimeConverter).robotTimestampFromLocal 1 = ⟨0, -1⟩ := by decide
  refine ⟨stamped, ?_, ?_⟩
  · rw [stamped]
    intro valid
    exact absurd valid.nanos.1 (by decide)
  · rw [converted]
    intro valid
    exact absurd valid.nanos.1 (by decide)

/-! ## Durations -/

/-- `SetDuration`, which writes both fields. -/
def setDuration (nsec : Int64) : Duration :=
  let seconds := nsec / kBillion
  let nsecRemainder := nsec - kBillion * seconds
  { seconds := seconds, nanos := nsecRemainder.toInt32 }

def durationIsLessThan (d1 d2 : Duration) : Bool :=
  if d1.seconds < d2.seconds then true
  else if d1.seconds > d2.seconds then false
  else d1.nanos < d2.nanos

def durationIsLE (d1 d2 : Duration) : Bool :=
  if d1.seconds < d2.seconds then true
  else if d1.seconds > d2.seconds then false
  else d1.nanos ≤ d2.nanos

namespace Duration

/-- The length of a duration in nanoseconds. -/
def nsec (duration : Duration) : Int :=
  duration.seconds.toInt * 1000000000 + duration.nanos.toInt

/-- Up to some 10,000 years in each direction, with two fields of one sign. -/
structure Valid (duration : Duration) : Prop where
  seconds : -315576000000 ≤ duration.seconds.toInt ∧ duration.seconds.toInt ≤ 315576000000
  nanos : -1000000000 < duration.nanos.toInt ∧ duration.nanos.toInt < 1000000000
  signs : 0 ≤ duration.seconds.toInt ∧ 0 ≤ duration.nanos.toInt ∨
    duration.seconds.toInt ≤ 0 ∧ duration.nanos.toInt ≤ 0

/-- `DurationToNsec` overflows nowhere and returns the length, from which `SetDuration`
restores the duration. -/
structure ConvertsExactly (duration : Duration) : Prop where
  product : FitsInt64 (duration.seconds.toInt * 1000000000)
  sum : FitsInt64 duration.nsec
  length : (durationToNsec duration).toInt = duration.nsec
  restored : setDuration (durationToNsec duration) = duration

variable {duration d1 d2 : Duration}

/-- The fields of a valid duration are those that its length is split into. -/
theorem Valid.split (valid : duration.Valid) :
    duration.nsec.tdiv 1000000000 = duration.seconds.toInt ∧
      duration.nsec.tmod 1000000000 = duration.nanos.toInt := by
  obtain ⟨low, high⟩ := valid.nanos
  have signs := valid.signs
  have split := truncated_split duration.nsec
  have length : duration.nsec = duration.seconds.toInt * 1000000000 + duration.nanos.toInt := rfl
  constructor <;> omega

/-- A valid duration is converted and restored exactly when an `int64_t` holds its length. -/
theorem Valid.convertsExactly_iff (valid : duration.Valid) :
    duration.ConvertsExactly ↔ FitsInt64 duration.nsec := by
  constructor
  · intro converts
    exact converts.sum
  · intro fits
    have length : (durationToNsec duration).toInt = duration.nsec :=
      (nsecOf_toInt duration.seconds duration.nanos).trans fits.bmod
    obtain ⟨wholeSeconds, remainder⟩ := valid.split
    rw [← length] at wholeSeconds remainder
    have seconds : (setDuration (durationToNsec duration)).seconds = duration.seconds :=
      Int64.toInt_inj.mp ((wholeSeconds_toInt _).trans wholeSeconds)
    have nanos : (setDuration (durationToNsec duration)).nanos = duration.nanos :=
      Int32.toInt_inj.mp ((nsecRemainder_toInt _).trans remainder)
    refine ⟨?_, fits, length, congrArg₂ Duration.mk seconds nanos⟩
    -- the seconds alone are nearer to zero than the length
    obtain ⟨low, high⟩ := fits
    have signs := valid.signs
    rw [nsec] at low high
    constructor <;> omega

/-- Of two valid durations the one with fewer seconds is the shorter one. -/
theorem Valid.nsec_lt (h1 : d1.Valid) (h2 : d2.Valid) (fewer : d1.seconds < d2.seconds) :
    d1.nsec < d2.nsec := by
  rw [Int64.lt_iff_toInt_lt] at fewer
  have nanos1 := h1.nanos
  have nanos2 := h2.nanos
  have signs1 := h1.signs
  have signs2 := h2.signs
  rw [nsec, nsec]
  omega

/-- The comparisons of two valid durations, which differ where their seconds agree. -/
theorem Valid.compare (h1 : d1.Valid) (h2 : d2.Valid) :
    (durationIsLessThan d1 d2 = true ↔ d1.nsec < d2.nsec) ∧
      (durationIsLE d1 d2 = true ↔ d1.nsec ≤ d2.nsec) := by
  rw [durationIsLessThan, durationIsLE]
  by_cases fewer : d1.seconds < d2.seconds
  · have shorter := h1.nsec_lt h2 fewer
    simp [fewer, shorter, Int.le_of_lt shorter]
  · by_cases more : d1.seconds > d2.seconds
    · have longer := h2.nsec_lt h1 more
      simp [fewer, more, Int.not_lt_of_ge (Int.le_of_lt longer), Int.not_le_of_gt longer]
    · have same : d1.seconds.toInt = d2.seconds.toInt := by
        rw [gt_iff_lt, Int64.lt_iff_toInt_lt] at more
        rw [Int64.lt_iff_toInt_lt] at fewer
        omega
      rw [if_neg fewer, if_neg more, if_neg fewer, if_neg more, decide_eq_true_iff,
        decide_eq_true_iff, Int32.lt_iff_toInt_lt, Int32.le_iff_toInt_le, nsec, nsec, same]
      constructor <;> omega

/-- Exactly the valid durations whose length an `int64_t` holds are converted and restored;
all of them are compared by their length. -/
theorem Valid.laws (valid : duration.Valid) :
    (duration.ConvertsExactly ↔ FitsInt64 duration.nsec) ∧ ∀ other : Duration, other.Valid →
      (durationIsLessThan duration other = true ↔ duration.nsec < other.nsec) ∧
      (durationIsLE duration other = true ↔ duration.nsec ≤ other.nsec) := by
  constructor
  · exact valid.convertsExactly_iff
  · intro other validOther
    exact valid.compare validOther

/-- Minus one and a half seconds, which are less than five nanoseconds. -/
theorem Valid.laws_negative :
    (⟨-1, -500000000⟩ : Duration).ConvertsExactly ∧
      durationIsLessThan ⟨-1, -500000000⟩ ⟨0, 5⟩ = true := by
  have negative : (⟨-1, -500000000⟩ : Duration).Valid := ⟨by decide, by decide, by decide⟩
  have positive : (⟨0, 5⟩ : Duration).Valid := ⟨by decide, by decide, by decide⟩
  obtain ⟨converts, compares⟩ := negative.laws
  constructor
  · apply converts.mpr
    unfold FitsInt64
    decide
  · apply (compares ⟨0, 5⟩ positive).1.mpr
    decide

/-- Some 292 years, one second more than an `int64_t` holds. -/
theorem valid_overflows :
    (⟨9223372037, 0⟩ : Duration).Valid ∧
      (durationToNsec ⟨9223372037, 0⟩).toInt ≠ (⟨9223372037, 0⟩ : Duration).nsec ∧
      setDuration (durationToNsec ⟨9223372037, 0⟩) ≠ ⟨9223372037, 0⟩ := by
  refine ⟨⟨by decide, by decide, by decide⟩, by decide, by decide⟩

end Duration

end SpotSdk.Client.TimeSync
