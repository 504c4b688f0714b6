import Mathlib.Data.List.Flatten
import SpotSdk.Common.Status
import SpotSdk.Foundations.WordNarrowing

/-!
# Data chunks

A serialized message is sent in chunks that repeat its total size. Sizes are C++ `int`s
inside and `uint64` on the wire. A result is absent where the source throws
`std::length_error`.
-/

namespace SpotSdk.Client

open Common Foundations

/-- The fields of `DataChunk`. -/
structure DataChunk where
  totalSize : BitVec 64 := 0
  data : List UInt8 := []
  deriving DecidableEq, Repr

/-- The chunk size of `StringToDataChunks`. -/
def chunkSize : Int := 2 * 1024 * 1024

/-- A length stored in an `int`. -/
def lengthAsInt (length : Nat) : Int := (BitVec.ofNat 32 length).toInt

/-- The loop of `StringToDataChunks`. No sum or difference leaves the `int` range. -/
def chunksFrom (data : List UInt8) (totalSize startIndex : Int) : Option (List DataChunk) :=
  let left := totalSize - startIndex
  if left < chunkSize then
    -- A negative length is converted to a `size_t` that no string can have.
    if left < 0 then none
    else some [⟨BitVec.ofInt 64 totalSize, (data.drop startIndex.toNat).take left.toNat⟩]
  else
    (chunksFrom data totalSize (startIndex + chunkSize)).map
      (⟨BitVec.ofInt 64 totalSize, (data.drop startIndex.toNat).take chunkSize.toNat⟩ :: ·)
termination_by (totalSize - startIndex).toNat
decreasing_by
  simp only [chunkSize] at *
  omega

/-- `StringToDataChunks`, which appends to the chunks it is given. -/
def stringToDataChunks (data : List UInt8) (chunks : List DataChunk) :
    Option (List DataChunk) :=
  (chunksFrom data (lengthAsInt data.length) 0).map (chunks ++ ·)

/-- The loop of `StringFromDataChunks`, with the data appended so far. -/
def appendChunks (reportedTotalSize : BitVec 32) (fullData : List UInt8) :
    List DataChunk → Result (List UInt8)
  | [] =>
      if fullData.length ≠ (reportedTotalSize.signExtend 64).toNat then
        ⟨⟨SDKErrorCode.genericSDKError.code, "Size mismatch in StringFromDataChunks"⟩, []⟩
      else ⟨⟨SDKErrorCode.success.code, ""⟩, fullData⟩
  | chunk :: rest =>
      if chunk.totalSize ≠ reportedTotalSize.signExtend 64 then
        ⟨⟨SDKErrorCode.genericSDKError.code,
          "Mismatch in reported total size in vector of data chunks"⟩, []⟩
      else appendChunks reportedTotalSize (fullData ++ chunk.data) rest

/-- `StringFromDataChunks`. -/
def stringFromDataChunks (dataChunks : List DataChunk) : Option (Result (List UInt8)) :=
  match dataChunks with
  | [] => some ⟨⟨SDKErrorCode.success.code, ""⟩, []⟩
  | first :: _ =>
      let reportedTotalSize := first.totalSize.setWidth 32
      -- `reserve` with a negative size.
      if reportedTotalSize.msb then none
      else some (appendChunks reportedTotalSize [] dataChunks)

/-- `MessageFromDataChunks`, over the parser of the message. -/
def messageFromDataChunks {M : Type*} [Inhabited M] (parse : List UInt8 → Option M)
    (dataChunks : List DataChunk) : Option (Result M) :=
  (stringFromDataChunks dataChunks).map fun result =>
    if !result.ok then ⟨result.status, default⟩
    else
      match parse result.response with
      | none =>
          ⟨⟨SDKErrorCode.genericSDKError.code,
            "Could not deserialize concatenated chunks into message"⟩, default⟩
      | some output => ⟨⟨SDKErrorCode.success.code, ""⟩, output⟩

/-! ## Splitting -/

theorem lengthAsInt_eq {length : Nat} (h : length < 2 ^ 31) : lengthAsInt length = length := by
  rw [lengthAsInt, BitVec.toInt_ofNat']
  apply Int.bmod_eq_of_le <;> omega

theorem ofInt_length {length : Nat} (h : length < 2 ^ 31) :
    (BitVec.ofInt 64 (length : Int)).toNat = length := by
  rw [BitVec.ofInt_natCast, BitVec.toNat_ofNat, Nat.mod_eq_of_lt (by omega)]

/-- Each chunk of a split carries the size of the whole and at most one chunk of it. -/
structure ChunkOf (data : List UInt8) (chunk : DataChunk) : Prop where
  totalSize : chunk.totalSize.toNat = data.length
  bounded : (chunk.data.length : Int) ≤ chunkSize

variable {data : List UInt8} {start : Nat}

theorem chunksFrom_last (hs : start ≤ data.length)
    (last : (data.length : Int) - start < chunkSize) :
    chunksFrom data data.length start =
      some [⟨BitVec.ofInt 64 data.length, data.drop start⟩] := by
  have nonneg : ¬ (data.length : Int) - start < 0 := by omega
  have whole : (data.drop start).take ((data.length : Int) - start).toNat = data.drop start := by
    apply List.take_of_length_le
    rw [List.length_drop]
    omega
  rw [chunksFrom, if_pos last, if_neg nonneg, Int.toNat_natCast, whole]

theorem chunksFrom_more {size : Nat} (hsize : chunkSize = size)
    (more : ¬ (data.length : Int) - start < chunkSize) :
    chunksFrom data data.length start =
      (chunksFrom data data.length ((start + size : Nat) : Int)).map
        (⟨BitVec.ofInt 64 data.length, (data.drop start).take size⟩ :: ·) := by
  rw [chunksFrom, if_neg more, hsize, Int.toNat_natCast, Int.toNat_natCast, Int.natCast_add]

/-- The chunks from an index on are not none, and their data is the rest. -/
theorem chunksFrom_spec (h : data.length < 2 ^ 31) (start : Nat) (hs : start ≤ data.length) :
    ∃ chunks, chunksFrom data data.length start = some chunks ∧ chunks ≠ [] ∧
      (∀ chunk ∈ chunks, ChunkOf data chunk) ∧
      chunks.flatMap DataChunk.data = data.drop start := by
  obtain ⟨size, hsize, pos⟩ : ∃ size : Nat, chunkSize = size ∧ 0 < size :=
    ⟨2097152, rfl, by decide⟩
  by_cases last : (data.length : Int) - start < chunkSize
  · refine ⟨_, chunksFrom_last hs last, List.cons_ne_nil _ _, ?_, ?_⟩
    · intro chunk hc
      obtain rfl := List.mem_singleton.mp hc
      refine ⟨ofInt_length h, ?_⟩
      simp only [List.length_drop]
      omega
    · simp
  · have next : start + size ≤ data.length := by omega
    obtain ⟨chunks, split, _, each, rest⟩ := chunksFrom_spec h (start + size) next
    refine ⟨_, by rw [chunksFrom_more hsize last, split]; rfl, List.cons_ne_nil _ _, ?_, ?_⟩
    · intro chunk hc
      cases hc with
      | head =>
          refine ⟨ofInt_length h, ?_⟩
          simp only [List.length_take]
          omega
      | tail _ later => exact each chunk later
    · rw [List.flatMap_cons, rest, ← List.drop_drop]
      exact List.take_append_drop _ _
termination_by data.length - start

/-! ## Joining -/

/-- The bytes that chunks carry. -/
def carried (chunks : List DataChunk) : List UInt8 := chunks.flatMap DataChunk.data

/-- Every chunk reports the size of what is carried, and it fits an `int`. -/
def Complete (chunks : List DataChunk) : Prop :=
  ∀ chunk ∈ chunks, chunk.totalSize.toNat = (carried chunks).length ∧
    (carried chunks).length < 2 ^ 31

/-- The loop succeeds exactly when all chunks report one size and it is that of the
bytes. -/
theorem appendChunks_cases (reported : BitVec 32) (full : List UInt8)
    (chunks : List DataChunk) :
    ((∀ chunk ∈ chunks, chunk.totalSize = reported.signExtend 64) ∧
        (full ++ carried chunks).length = (reported.signExtend 64).toNat ∧
        appendChunks reported full chunks =
          ⟨⟨SDKErrorCode.success.code, ""⟩, full ++ carried chunks⟩) ∨
      (¬ ((∀ chunk ∈ chunks, chunk.totalSize = reported.signExtend 64) ∧
          (full ++ carried chunks).length = (reported.signExtend 64).toNat) ∧
        ∃ message, appendChunks reported full chunks =
          ⟨⟨SDKErrorCode.genericSDKError.code, message⟩, []⟩) := by
  induction chunks generalizing full with
  | nil =>
      rw [appendChunks]
      by_cases size : full.length = (reported.signExtend 64).toNat
      · simp [carried, size]
      · simp [carried, size]
  | cons chunk rest ih =>
      have joined : full ++ carried (chunk :: rest) = (full ++ chunk.data) ++ carried rest := by
        simp [carried]
      rw [appendChunks, joined]
      by_cases same : chunk.totalSize = reported.signExtend 64
      · simpa [same] using ih (full ++ chunk.data)
      · simp [same]

/-- A size that fits an `int` is read back unchanged. -/
theorem signExtend_narrow {size : BitVec 64} (h : size.toNat < 2 ^ 31) :
    (size.setWidth 32).signExtend 64 = size ∧ (size.setWidth 32).msb = false := by
  refine ⟨(widen_narrow_int_iff size).mpr (.inl h), ?_⟩
  rw [BitVec.msb_eq_false_iff_two_mul_lt, BitVec.toNat_setWidth]
  omega

/-- A narrow size that is not negative stays below `2 ^ 31`. -/
theorem signExtend_lt {reported : BitVec 32} (h : reported.msb = false) :
    (reported.signExtend 64).toNat < 2 ^ 31 := by
  rw [BitVec.signExtend_eq_setWidth_of_msb_false h, BitVec.toNat_setWidth]
  have := BitVec.msb_eq_false_iff_two_mul_lt.mp h
  omega

/-- Complete chunks are joined to what they carry, and all others fail. -/
theorem stringFromDataChunks_cases (chunks : List DataChunk) :
    (Complete chunks ∧ stringFromDataChunks chunks =
        some ⟨⟨SDKErrorCode.success.code, ""⟩, carried chunks⟩) ∨
      (¬ Complete chunks ∧ (stringFromDataChunks chunks = none ∨
        ∃ message, stringFromDataChunks chunks =
          some ⟨⟨SDKErrorCode.genericSDKError.code, message⟩, []⟩)) := by
  cases chunks with
  | nil => exact .inl ⟨fun _ h => absurd h List.not_mem_nil, rfl⟩
  | cons first rest =>
      generalize hall : first :: rest = chunks
      have hfirst : first ∈ chunks := by
        rw [← hall]
        exact List.mem_cons_self
      have unfolded : stringFromDataChunks chunks =
          if (first.totalSize.setWidth 32).msb then none
          else some (appendChunks (first.totalSize.setWidth 32) [] chunks) := by
        rw [← hall]
        rfl
      rw [unfolded]
      cases negative : (first.totalSize.setWidth 32).msb with
      | true =>
          refine .inr ⟨fun complete => ?_, .inl rfl⟩
          obtain ⟨size, small⟩ := complete first hfirst
          rw [← size] at small
          rw [(signExtend_narrow small).2] at negative
          cases negative
      | false =>
          simp only [Bool.false_eq_true, if_false, Option.some.injEq, reduceCtorEq, false_or]
          rcases appendChunks_cases (first.totalSize.setWidth 32) [] chunks with
            ⟨same, size, result⟩ | ⟨differ, message, result⟩
          · rw [List.nil_append] at size result
            refine .inl ⟨fun chunk hc => ?_, result⟩
            rw [same chunk hc, size]
            exact ⟨rfl, signExtend_lt negative⟩
          · refine .inr ⟨fun complete => differ ?_, message, result⟩
            obtain ⟨size, small⟩ := complete first hfirst
            rw [← size] at small
            rw [(signExtend_narrow small).1, List.nil_append]
            refine ⟨fun chunk hc => BitVec.eq_of_toNat_eq ?_, size.symm⟩
            rw [(complete chunk hc).1, size]

section Messages

variable {M : Type*} [Inhabited M] {parse : List UInt8 → Option M} {chunks : List DataChunk}

/-- The chunks are complete and their bytes are a message. -/
def Decodes (parse : List UInt8 → Option M) (chunks : List DataChunk) : Prop :=
  Complete chunks ∧ (parse (carried chunks)).isSome = true

/-- Chunks that decode give their message, and all others fail. -/
theorem messageFromDataChunks_cases (parse : List UInt8 → Option M) (chunks : List DataChunk) :
    (Decodes parse chunks ∧ ∃ output, messageFromDataChunks parse chunks =
        some ⟨⟨SDKErrorCode.success.code, ""⟩, output⟩) ∨
      (¬ Decodes parse chunks ∧ (messageFromDataChunks parse chunks = none ∨
        ∃ message, messageFromDataChunks parse chunks =
          some ⟨⟨SDKErrorCode.genericSDKError.code, message⟩, default⟩)) := by
  rcases stringFromDataChunks_cases chunks with ⟨complete, joined⟩ | ⟨incomplete, thrown⟩
  · cases parsed : parse (carried chunks) with
    | none =>
        refine .inr ⟨fun decodes => ?_, .inr
          ⟨"Could not deserialize concatenated chunks into message", ?_⟩⟩
        · have known := decodes.2
          rw [parsed] at known
          cases known
        · simp [messageFromDataChunks, joined, Result.ok, parsed]
    | some output =>
        refine .inl ⟨⟨complete, by rw [parsed]; rfl⟩, output, ?_⟩
        simp [messageFromDataChunks, joined, Result.ok, parsed]
  · refine .inr ⟨fun decodes => incomplete decodes.1, ?_⟩
    rcases thrown with thrown | ⟨message, failed⟩
    · exact .inl (by rw [messageFromDataChunks, thrown]; rfl)
    · exact .inr ⟨message, by rw [messageFromDataChunks, failed]; rfl⟩

end Messages

/-! ## The round trip -/

/-- What splitting and joining promise of a string. -/
structure RoundTrips (data : List UInt8) (chunks : List DataChunk) : Prop where
  split : ∀ before, stringToDataChunks data before = some (before ++ chunks)
  nonempty : chunks ≠ []
  each : ∀ chunk ∈ chunks, ChunkOf data chunk
  joined : stringFromDataChunks chunks = some ⟨⟨SDKErrorCode.success.code, ""⟩, data⟩

theorem RoundTrips.carried_eq {chunks : List DataChunk} (h : RoundTrips data chunks) :
    carried chunks = data := by
  rcases stringFromDataChunks_cases chunks with ⟨_, joined⟩ | ⟨_, thrown | ⟨message, failed⟩⟩
  · rw [h.joined] at joined
    simpa using joined.symm
  · rw [h.joined] at thrown
    cases thrown
  · rw [h.joined] at failed
    simp [SDKErrorCode.code] at failed

/-- A string of less than `2 ^ 31` bytes is split into chunks that give it back. -/
theorem stringToDataChunks_roundTrips (h : data.length < 2 ^ 31) :
    ∃ chunks, RoundTrips data chunks := by
  obtain ⟨chunks, split, nonempty, each, whole⟩ := chunksFrom_spec h 0 (Nat.zero_le _)
  rw [List.drop_zero] at whole
  have complete : Complete chunks := by
    intro chunk hc
    rw [carried, whole]
    exact ⟨(each chunk hc).totalSize, h⟩
  refine ⟨chunks, { split := ?_, nonempty := nonempty, each := each, joined := ?_ }⟩
  · intro before
    rw [stringToDataChunks, lengthAsInt_eq h]
    exact congrArg (Option.map (before ++ ·)) split
  · rcases stringFromDataChunks_cases chunks with ⟨_, joined⟩ | ⟨incomplete, _⟩
    · rw [joined, carried, whole]
    · exact absurd complete incomplete

/-- Chunks carry no more than one chunk each. -/
theorem carried_length_le {chunks : List DataChunk} (each : ∀ chunk ∈ chunks, ChunkOf data chunk) :
    ((carried chunks).length : Int) ≤ chunks.length * chunkSize := by
  induction chunks with
  | nil => simp [carried]
  | cons chunk rest ih =>
      have bounded := (each chunk List.mem_cons_self).bounded
      have later := ih fun other member => each other (List.mem_cons_of_mem _ member)
      have joined : (carried (chunk :: rest)).length =
          chunk.data.length + (carried rest).length := by
        simp [carried]
      rw [joined, List.length_cons]
      rw [Int.natCast_add, Int.natCast_add, Int.natCast_one, Int.add_mul, Int.one_mul]
      omega

/-- A string that needs a third chunk. -/
theorem roundTrips_threeChunks :
    ∃ chunks, RoundTrips (List.replicate 5000000 7) chunks ∧ 3 ≤ chunks.length := by
  have size : (List.replicate 5000000 (7 : UInt8)).length = 5000000 := List.length_replicate
  obtain ⟨chunks, trip⟩ := stringToDataChunks_roundTrips (by rw [size]; omega)
  have whole : carried chunks = List.replicate 5000000 7 := trip.carried_eq
  have enough := carried_length_le trip.each
  rw [whole, size, chunkSize] at enough
  exact ⟨chunks, trip, by omega⟩
/-! ## Sizes that a peer reports -/

/-- Every chunk reports the length of what the chunks carry together. -/
def Agreed (chunks : List DataChunk) : Prop :=
  ∀ chunk ∈ chunks, chunk.totalSize.toNat = (carried chunks).length

/-- Agreed chunks are joined, all others give an error status, and nothing is thrown. -/
structure JoinsAgreed (chunks : List DataChunk) (result : Result (List UInt8)) : Prop where
  returns : stringFromDataChunks chunks = some result
  ok_iff : result.ok = true ↔ Agreed chunks
  joined : Agreed chunks → result.response = carried chunks

/-- The lower half of the first size is a nonnegative `int`, and it is the whole size if
the chunks agree on that. -/
def SizeFitsInt : List DataChunk → Prop
  | [] => True
  | first :: rest =>
      first.totalSize.toNat % 2 ^ 32 < 2 ^ 31 ∧
        (Agreed (first :: rest) → first.totalSize.toNat < 2 ^ 31)

theorem complete_iff_agreed {first : DataChunk} {rest : List DataChunk} :
    Complete (first :: rest) ↔
      Agreed (first :: rest) ∧ first.totalSize.toNat < 2 ^ 31 := by
  constructor
  · intro complete
    obtain ⟨size, small⟩ := complete first List.mem_cons_self
    exact ⟨fun chunk hc => (complete chunk hc).1, size ▸ small⟩
  · rintro ⟨agreed, small⟩ chunk hc
    refine ⟨agreed chunk hc, ?_⟩
    rw [← agreed first List.mem_cons_self]
    exact small

/-- The size is reserved exactly when its lower half is not negative. -/
theorem stringFromDataChunks_isSome_iff (first : DataChunk) (rest : List DataChunk) :
    (stringFromDataChunks (first :: rest)).isSome = true ↔
      first.totalSize.toNat % 2 ^ 32 < 2 ^ 31 := by
  have negative : (first.totalSize.setWidth 32).msb = false ↔
      first.totalSize.toNat % 2 ^ 32 < 2 ^ 31 := by
    rw [BitVec.msb_eq_false_iff_two_mul_lt, BitVec.toNat_setWidth]
    omega
  rw [← negative, stringFromDataChunks]
  cases (first.totalSize.setWidth 32).msb <;> simp

/-- Joining does what it promises exactly for sizes that an `int` can tell apart. -/
theorem joinsAgreed_iff_sizeFitsInt (chunks : List DataChunk) :
    (∃ result, JoinsAgreed chunks result) ↔ SizeFitsInt chunks := by
  cases chunks with
  | nil =>
      refine iff_of_true ⟨_, rfl, ?_, fun _ => rfl⟩ trivial
      exact iff_of_true rfl fun _ hc => absurd hc List.not_mem_nil
  | cons first rest =>
      constructor
      · rintro ⟨result, returns, ok_iff, joined⟩
        refine ⟨(stringFromDataChunks_isSome_iff first rest).mp (by rw [returns]; rfl), ?_⟩
        intro agreed
        -- An error status would contradict the agreement, so the chunks are complete.
        rcases stringFromDataChunks_cases (first :: rest) with
          ⟨complete, _⟩ | ⟨_, thrown | ⟨message, failed⟩⟩
        · exact (complete_iff_agreed.mp complete).2
        · rw [thrown] at returns
          cases returns
        · rw [failed] at returns
          cases returns
          exact absurd (ok_iff.mpr agreed) Bool.false_ne_true
      · rintro ⟨reserved, small⟩
        have some := (stringFromDataChunks_isSome_iff first rest).mpr reserved
        rcases stringFromDataChunks_cases (first :: rest) with
          ⟨complete, result⟩ | ⟨incomplete, thrown | ⟨message, failed⟩⟩
        · have agreed := (complete_iff_agreed.mp complete).1
          exact ⟨_, result, iff_of_true rfl agreed, fun _ => rfl⟩
        · rw [thrown] at some
          cases some
        · have differ : ¬ Agreed (first :: rest) := fun agreed =>
            incomplete (complete_iff_agreed.mpr ⟨agreed, small agreed⟩)
          exact ⟨_, failed, iff_of_false Bool.false_ne_true differ,
            fun agreed => absurd agreed differ⟩

/-- One chunk without data that reports `2 ^ 31` bytes makes `reserve` throw. -/
theorem not_joinsAgreed_negative_size :
    stringFromDataChunks [⟨0x80000000#64, []⟩] = none ∧
      ¬ ∀ chunks, ∃ result, JoinsAgreed chunks result := by
  have thrown : stringFromDataChunks [⟨0x80000000#64, []⟩] = none := by decide
  refine ⟨thrown, fun all => ?_⟩
  obtain ⟨result, returns, _, _⟩ := all [⟨0x80000000#64, []⟩]
  rw [thrown] at returns
  cases returns

end SpotSdk.Client
