import SpotSdk.ErrorCodes.CachedMessages
import SpotSdk.Foundations.TracedMemory

/-!
# Moving a string in reverse, access by access

`reverseAndMove` reverses the overlap of its two ranges in place and copies the rest in
reverse. It is run here on a memory that records every access, with the reversal and the
copy as the loops they are; the run leaves the buffer that the block operations leave, and
all its accesses are to the two ranges.
-/

namespace SpotSdk.Client

open SpotSdk.Foundations SpotSdk.Foundations.TracedMemory

/-- What `reverseAndMove` determines first: the overlap of the two ranges, and where the
part outside of it begins in each. -/
structure Overlap where
  overlapBytes : Nat
  overlap : Nat
  nonoverlapSrc : Nat
  nonoverlapDst : Nat

def findOverlap (dst src len : Nat) : Overlap :=
  if dst < src ∧ src ≤ dst + len then
    let overlapBytes := dst + len - src
    ⟨overlapBytes, src, src + overlapBytes, dst⟩
  else if src ≤ dst ∧ dst < src + len then
    let overlapBytes := src + len - dst
    ⟨overlapBytes, dst, src, dst + overlapBytes⟩
  else
    ⟨0, src, src, dst⟩

/-- `reverseAndMove(dst, src, len)` on a memory that records its accesses. -/
def tracedReverseAndMove (memory : TracedMemory UInt8) (dst src len : Nat) :
    Option (TracedMemory UInt8) :=
  let parts := findOverlap dst src len
  let nonoverlapBytes := len - parts.overlapBytes
  (reverseRange parts.overlap parts.overlapBytes memory).bind
    (copyReversed parts.nonoverlapDst parts.nonoverlapSrc nonoverlapBytes nonoverlapBytes)

/-- `std::reverse(src, src + len)`, then `memmove(dst, src, len)`. -/
def simpleReverseAndMove (buffer : List UInt8) (dst src len : Nat) : Option (List UInt8) :=
  (reverseBlock buffer src len).bind fun reversed =>
    writeBlock reversed dst (block reversed src len)

section Moving

variable {memory : TracedMemory UInt8} {buffer : List UInt8} {dst src len : Nat}

/-- A position of one of the two ranges. -/
def InRanges (dst src len i : Nat) : Prop :=
  (dst ≤ i ∧ i < dst + len) ∨ (src ≤ i ∧ i < src + len)

/-- What is reversed in place is inside the source, and what is copied goes from the
source to the destination. -/
structure Overlap.Inside (parts : Overlap) (dst src len : Nat) : Prop where
  reversed : src ≤ parts.overlap ∧ parts.overlap + parts.overlapBytes ≤ src + len
  written : dst ≤ parts.nonoverlapDst ∧
    parts.nonoverlapDst + (len - parts.overlapBytes) ≤ dst + len
  read : src ≤ parts.nonoverlapSrc ∧
    parts.nonoverlapSrc + (len - parts.overlapBytes) ≤ src + len

theorem findOverlap_inside (dst src len : Nat) : (findOverlap dst src len).Inside dst src len := by
  rw [findOverlap]
  split
  · refine ⟨?_, ?_, ?_⟩ <;> dsimp only <;> omega
  · split
    · refine ⟨?_, ?_, ?_⟩ <;> dsimp only <;> omega
    · refine ⟨?_, ?_, ?_⟩ <;> dsimp only <;> omega

/-- The block operations take the same parts. -/
theorem reverseAndMove_eq_parts (srcRoom : src + len ≤ buffer.length) :
    reverseAndMove buffer dst src len =
      (reverseBlock buffer (findOverlap dst src len).overlap
        (findOverlap dst src len).overlapBytes).bind
          (moveReversed (findOverlap dst src len).nonoverlapDst
            (findOverlap dst src len).nonoverlapSrc
            (len - (findOverlap dst src len).overlapBytes)
            (len - (findOverlap dst src len).overlapBytes)) := by
  rw [reverseAndMove, findOverlap]
  split
  · rfl
  · split
    · rfl
    · -- Nothing is reversed where the ranges are apart.
      have nothing : reverseBlock buffer src 0 = some buffer :=
        reverseBlock_short (by omega) (Nat.zero_le 1)
      rw [nothing, Option.bind_some, Nat.sub_zero]

/-- The run does to the buffer what the block operations do, and no access leaves the two
ranges. -/
theorem tracedReverseAndMove_implements (dstRoom : dst + len ≤ memory.cells.length)
    (srcRoom : src + len ≤ memory.cells.length) :
    Implements (InRanges dst src len) memory (tracedReverseAndMove memory dst src len)
      (reverseAndMove memory.cells dst src len) := by
  obtain ⟨reversed, written, read⟩ := findOverlap_inside dst src len
  rw [reverseAndMove_eq_parts srcRoom, tracedReverseAndMove]
  apply Implements.bind
  · apply (reverseRange_implements _).mono
    · intro i inside
      exact Or.inr (by omega)
    · omega
  · intro after length
    apply (copyReversed_implements _ _ (Nat.le_refl _)).mono
    · intro i inside
      exact inside.imp (fun there => by omega) (fun there => by omega)
    · omega
    · omega

/-- After `reverseAndMove`, the destination holds the source in reverse, all bytes outside
the two ranges are as before, and no access was made outside of them. -/
theorem tracedReverseAndMove_reverses (buffer : List UInt8) (dst src len : Nat)
    (dstRoom : dst + len ≤ buffer.length) (srcRoom : src + len ≤ buffer.length) :
    ∃ after, tracedReverseAndMove (fresh buffer) dst src len = some after ∧
      after.cells.length = buffer.length ∧
      (∀ i < len, after.cells[dst + i]? = buffer[src + (len - 1 - i)]?) ∧
      (∀ i, ¬InRanges dst src len i → after.cells[i]? = buffer[i]?) ∧
      ∀ i ∈ after.accesses, InRanges dst src len i := by
  obtain ⟨after, runs, same, length, confined⟩ : Implements (InRanges dst src len)
      (fresh buffer) (tracedReverseAndMove (fresh buffer) dst src len)
      (reverseAndMove buffer dst src len) :=
    tracedReverseAndMove_implements dstRoom srcRoom
  have size : (block buffer src len).reverse.length = len := by
    rw [List.length_reverse, length_block srcRoom]
  have cells : after.cells = overwrite buffer dst (block buffer src len).reverse :=
    Option.some.inj (same.symm.trans (RetError.reverseAndMove_eq dstRoom srcRoom))
  refine ⟨after, runs, length, ?_, ?_, ?_⟩
  · intro i inside
    rw [cells, getElem?_overwrite_inside (by omega) (by omega),
      getElem?_reverse_block srcRoom inside]
  · intro i outside
    rw [InRanges] at outside
    rw [cells, getElem?_overwrite_outside (by omega) (by omega)]
  · intro i made
    cases confined i made with
    | inl earlier => exact absurd earlier List.not_mem_nil
    | inr inside => exact inside

/-- Three bytes move up by one place: two of them are exchanged, the third is copied. -/
theorem tracedReverseAndMove_reverses_up :
    tracedReverseAndMove (fresh [1, 2, 3, 4, 5]) 1 0 3 =
        some ⟨[1, 3, 2, 1, 5], [1, 2, 1, 2, 0, 3]⟩ ∧
      ∃ after, tracedReverseAndMove (fresh [1, 2, 3, 4, 5]) 1 0 3 = some after ∧
        after.cells.length = 5 ∧
        (∀ i < 3, after.cells[1 + i]? = [1, 2, 3, 4, 5][0 + (3 - 1 - i)]?) ∧
        (∀ i, ¬InRanges 1 0 3 i → after.cells[i]? = [1, 2, 3, 4, 5][i]?) ∧
        ∀ i ∈ after.accesses, InRanges 1 0 3 i :=
  ⟨by decide, tracedReverseAndMove_reverses [1, 2, 3, 4, 5] 1 0 3 (by decide) (by decide)⟩

/-- The simple implementation differs from it in the source range alone: there it leaves
the reversed bytes. -/
theorem simpleReverseAndMove_agrees (dstRoom : dst + len ≤ buffer.length)
    (srcRoom : src + len ≤ buffer.length) :
    ∃ simple optimized, simpleReverseAndMove buffer dst src len = some simple ∧
      reverseAndMove buffer dst src len = some optimized ∧
      ∀ i, (dst ≤ i ∧ i < dst + len) ∨ ¬(src ≤ i ∧ i < src + len) →
        simple[i]? = optimized[i]? := by
  have size : (block buffer src len).reverse.length = len := by
    rw [List.length_reverse, length_block srcRoom]
  have reversedRoom : src + (block buffer src len).reverse.length ≤ buffer.length := by omega
  have same : block (overwrite buffer src (block buffer src len).reverse) src len =
      (block buffer src len).reverse := by
    have inside := block_overwrite_inside (k := 0) (n := len) reversedRoom (by omega)
    rw [Nat.add_zero] at inside
    rw [inside, block, List.drop_zero, List.take_of_length_le (by omega)]
  have moveRoom : dst + (block buffer src len).reverse.length ≤
      (overwrite buffer src (block buffer src len).reverse).length := by
    rw [length_overwrite reversedRoom]
    omega
  refine ⟨overwrite (overwrite buffer src (block buffer src len).reverse) dst
    (block buffer src len).reverse, _, ?_, RetError.reverseAndMove_eq dstRoom srcRoom, ?_⟩
  · rw [simpleReverseAndMove, reverseBlock, if_pos srcRoom, Option.bind_some, same,
      writeBlock_eq moveRoom]
  · intro i there
    by_cases inside : dst ≤ i ∧ i < dst + len
    · obtain ⟨k, rfl⟩ : ∃ k, i = dst + k := ⟨i - dst, by omega⟩
      rw [getElem?_overwrite_inside moveRoom (by omega),
        getElem?_overwrite_inside (by omega) (by omega)]
    · rw [getElem?_overwrite_outside moveRoom (by omega),
        getElem?_overwrite_outside (by omega) (by omega),
        getElem?_overwrite_outside (by omega) (by omega)]

end Moving

end SpotSdk.Client
