import SpotSdk.ErrorCodes.ErrorMessages

/-!
# Context before a cached message

To add context, the old message is cached in reverse at the end of the same buffer, the
context is written over the front, and so much of the message as still fits is moved back
behind a separator. Each function is described by the text it leaves.
-/

namespace SpotSdk.Client

open SpotSdk.Common SpotSdk.Foundations

namespace RetError

section Context

variable {self : RetError} {text m : List UInt8} {buffer : List UInt8} {dst src len : Nat}

/-- Within the buffer, the block is reversed and put in its place. -/
theorem reverseAndMove_eq (dstRoom : dst + len ≤ buffer.length)
    (srcRoom : src + len ≤ buffer.length) :
    reverseAndMove buffer dst src len =
      some (overwrite buffer dst (block buffer src len).reverse) := by
  have size : ∀ start n, start + n ≤ buffer.length →
      (block buffer start n).reverse.length = n := by
    intro start n room
    rw [List.length_reverse, length_block room]
  rw [reverseAndMove]
  split
  · -- The cells before the message are filled from its back, the overlap with its front.
    rename_i before
    obtain ⟨n, rfl⟩ : ∃ n, src = dst + n := ⟨src - dst, by omega⟩
    obtain ⟨k, rfl⟩ : ∃ k, len = k + n := ⟨len - n, by omega⟩
    have overlap : dst + (k + n) - (dst + n) = k := by omega
    have rest : k + n - k = n := by omega
    have front := size (dst + n) k (by omega)
    have back := size (dst + n + k) n (by omega)
    simp only [overlap, rest]
    rw [reverseBlock_moveReversed (by omega) (by omega) (by omega) (by omega) (by omega),
      overwrite_comm (by omega) (by omega) (by omega), block_append, List.reverse_append,
      overwrite_append (by omega) (by rw [List.length_append]; omega)]
  · split
    · -- The overlap with the back of the message comes first.
      rename_i after
      obtain ⟨n, rfl⟩ : ∃ n, dst = src + n := ⟨dst - src, by omega⟩
      obtain ⟨k, rfl⟩ : ∃ k, len = n + k := ⟨len - n, by omega⟩
      have overlap : src + (n + k) - (src + n) = k := by omega
      have rest : n + k - k = n := by omega
      have front := size src n (by omega)
      have back := size (src + n) k (by omega)
      simp only [overlap, rest]
      rw [reverseBlock_moveReversed (by omega) (by omega) (by omega) (by omega) (by omega),
        block_append, List.reverse_append,
        overwrite_append (by omega) (by rw [List.length_append]; omega)]
    · rw [moveReversed_eq (by omega) dstRoom srcRoom (Nat.le_refl len), Nat.sub_self,
        Nat.add_zero]

/-- The message is kept in reverse at the end of the buffer. -/
theorem cacheMsg_eq (h : self.Carries m) :
    self.cacheMsg = some ({ self with
      buffer := overwrite self.buffer (self.bufferSize - m.length) m.reverse }, m.length) := by
  have lt := h.inside
  have inside : ¬self.bufferSize < m.length := by omega
  have cached : block self.buffer 0 m.length = m := h.begins
  have room : self.bufferSize - m.length + m.length ≤ self.buffer.length := by
    change _ ≤ self.bufferSize
    omega
  rw [cacheMsg, h.length]
  simp only [if_neg inside]
  rw [reverseAndMove_eq room (by rw [Nat.zero_add]; exact Nat.le_of_lt lt), cached]
  rfl

theorem length_cached (h : self.Carries m) :
    (overwrite self.buffer (self.bufferSize - m.length) m.reverse).length =
      self.bufferSize := by
  have lt := h.inside
  have size : self.buffer.length = self.bufferSize := rfl
  rw [length_overwrite, size]
  rw [List.length_reverse]
  omega

/-- The front of a message that was kept at the end of the buffer, read back. -/
theorem block_cached {written : List UInt8} {k : Nat} (room : m.length ≤ buffer.length)
    (part : k ≤ m.length) (before : written.length + k ≤ buffer.length) :
    (block (overwrite (overwrite buffer (buffer.length - m.length) m.reverse) 0 written)
      (buffer.length - k) k).reverse = m.take k := by
  have cachedRoom : buffer.length - m.length + m.reverse.length ≤ buffer.length := by
    rw [List.length_reverse]
    omega
  have size := length_overwrite cachedRoom
  have position : buffer.length - k = buffer.length - m.length + (m.length - k) := by omega
  have last : block m.reverse (m.length - k) k = (m.take k).reverse := by
    rw [List.reverse_take, block]
    apply List.take_of_length_le
    rw [List.length_drop, List.length_reverse]
    omega
  rw [block_overwrite (by omega) (by omega) (by omega), position,
    block_overwrite_inside cachedRoom (by rw [List.length_reverse]; omega), last,
    List.reverse_reverse]

/-- What `UnCacheMsg` leaves in a buffer that has room for a separator: the added bytes,
the separator and the part of the cached message that still fits. -/
theorem unCacheMsg_ends {cachedLen bytesAdded size : Nat} {added kept : List UInt8}
    (sized : self.bufferSize = size) (room : minSize ≤ size)
    (front : self.buffer.take (min bytesAdded (size - minSize)) = added)
    (back : (block self.buffer (size - kept.length) kept.length).reverse = kept)
    (count : kept.length = min cachedLen (size - 1 - (added.length + 3))) :
    Ends (self.unCacheMsg cachedLen bytesAdded) self.code size
      (added ++ separator ++ kept) := by
  subst sized
  have four : 4 ≤ self.bufferSize := room
  have size : self.buffer.length = self.bufferSize := rfl
  have three : separator.length = 3 := rfl
  have n : min bytesAdded (self.bufferSize - minSize) = added.length := by
    rw [← front, List.length_take, size]
    omega
  have fits : added.length ≤ self.bufferSize - 4 := by
    rw [← n]
    exact Nat.min_le_right _ _
  rw [n] at front
  have first : added.length + separator.length ≤ self.buffer.length := by omega
  have both : added.length + (separator ++ kept).length ≤ self.buffer.length := by
    rw [List.length_append]
    omega
  have all : added.length + (separator ++ kept ++ [0]).length ≤ self.buffer.length := by
    rw [List.length_append, List.length_append, List.length_singleton]
    omega
  have restored : reverseAndMove (overwrite self.buffer added.length separator)
      (added.length + 3) (self.bufferSize - kept.length) kept.length =
        some (overwrite self.buffer added.length (separator ++ kept)) := by
    have length := length_overwrite first
    rw [reverseAndMove_eq (by omega) (by omega),
      block_overwrite first (by omega) (by omega), back, overwrite_append (by omega) both]
  have terminated : writeBlock (overwrite self.buffer added.length (separator ++ kept))
      (added.length + 3 + kept.length) [0] =
        some (overwrite self.buffer added.length (separator ++ kept ++ [0])) := by
    rw [writeBlock_eq, overwrite_append _ all]
    · rw [List.length_append]
      omega
    · rw [length_overwrite both, List.length_singleton]
      omega
  refine ⟨⟨self.code, overwrite self.buffer added.length (separator ++ kept ++ [0]),
    added.length + 3 + kept.length⟩, ?_, rfl, length_overwrite all, ?_⟩
  · rw [unCacheMsg, if_neg (by omega)]
    simp only [n, ← count, writeBlock_eq first, restored, terminated, Option.bind_eq_bind,
      Option.bind_some]
    rfl
  · apply carries_of_buffer_eq (self.buffer.drop
      (added.length + (separator ++ kept ++ [0]).length))
    · change self.buffer.take _ ++ _ ++ _ = _
      simp only [front, List.append_assoc, List.singleton_append]
    · simp only [List.length_append, three]

/-- Some bytes over the front of the cached message, and the message read back. -/
theorem cached_ends (bytes : Nat) (written : List UInt8) (h : self.Carries m)
    (room : minSize ≤ self.bufferSize) (fits : written.length ≤ self.bufferSize)
    (short : written.length ≤ bytes + 1)
    (long : min bytes (self.bufferSize - minSize) ≤ written.length) :
    Ends (unCacheMsg { self with buffer := overwrite (overwrite self.buffer
        (self.bufferSize - m.length) m.reverse) 0 written } m.length bytes)
      self.code self.bufferSize
      ((written.take (min bytes (self.bufferSize - minSize)) ++ separator ++ m).take
        (self.bufferSize - 1)) := by
  have four : 4 ≤ self.bufferSize := room
  have size : self.buffer.length = self.bufferSize := rfl
  have lt := h.inside
  set n := min bytes (self.bufferSize - minSize) with count
  have least : n = min bytes (self.bufferSize - 4) := count
  have added : (written.take n).length = n := by
    rw [List.length_take, Nat.min_eq_left long]
  set k := min m.length (self.bufferSize - 1 - (n + 3)) with rest
  have kept : (m.take k).length = k := by
    rw [List.length_take]
    omega
  have full : (written.take n ++ separator ++ m).take (self.bufferSize - 1) =
      written.take n ++ separator ++ m.take k := by
    have length : (written.take n ++ separator).length = n + 3 := by
      rw [List.length_append, added]
      rfl
    rw [List.take_append, List.take_of_length_le (by omega), length]
    congr 1
    rw [rest, Nat.min_comm, ← List.take_take, List.take_of_length_le (Nat.le_refl m.length)]
  have sized := length_cached h
  have writtenRoom : 0 + written.length ≤
      (overwrite self.buffer (self.bufferSize - m.length) m.reverse).length := by omega
  rw [full]
  apply unCacheMsg_ends _ room
  · simp only [overwrite, Nat.zero_add, List.take_zero, List.nil_append]
    rw [← count, List.take_append_of_le_length long]
  · rw [kept]
    exact block_cached (Nat.le_of_lt lt) (Nat.min_le_left _ _) (by omega)
  · rw [kept, added]
  · exact (length_overwrite writtenRoom).trans sized

theorem addContextLen_eq {len : Int} {msg : CString} (h : self.Carries m)
    (error : self.isError) (nonneg : 0 ≤ len) (short : len ≤ msg.val.length) :
    self.addContextLen len msg = unCacheMsg { self with
      buffer := overwrite (overwrite self.buffer (self.bufferSize - m.length) m.reverse) 0
        (msg.val.take (min len.toNat (self.bufferSize - 1))) } m.length
      (min len.toNat (self.bufferSize - 1)) := by
  have lt := h.inside
  have count : min len ((self.bufferSize : Int) - 1) =
      (min len.toNat (self.bufferSize - 1) : Nat) := by omega
  have fits : 0 + (msg.val.take (min len.toNat (self.bufferSize - 1))).length ≤
      (overwrite self.buffer (self.bufferSize - m.length) m.reverse).length := by
    rw [length_cached h, List.length_take]
    omega
  rw [addContextLen, if_neg (by rw [error]; decide)]
  simp only [count, Int.toNat_natCast]
  rw [if_neg (by omega), cacheMsg_eq h]
  simp only [Option.bind_eq_bind, Option.bind_some, writeBlock_eq fits]

theorem addContextLen_ends {len : Int} {msg : CString} (h : self.Carries m)
    (error : self.isError) (room : minSize ≤ self.bufferSize) (nonneg : 0 ≤ len)
    (short : len ≤ msg.val.length) :
    Ends (self.addContextLen len msg) self.code self.bufferSize
      (((msg.val.take len.toNat).take (self.bufferSize - minSize) ++ separator ++ m).take
        (self.bufferSize - 1)) := by
  have four : 4 ≤ self.bufferSize := room
  have minFour : minSize = 4 := rfl
  set n := min len.toNat (self.bufferSize - 1) with count
  have length : (msg.val.take n).length = n := by
    rw [List.length_take]
    omega
  have front : (msg.val.take n).take (min n (self.bufferSize - minSize)) =
      (msg.val.take len.toNat).take (self.bufferSize - minSize) := by
    rw [List.take_take, List.take_take]
    congr 1
    omega
  rw [addContextLen_eq h error nonneg short, ← front]
  exact cached_ends n (msg.val.take n) h room (by omega) (by omega) (by omega)

/-- Cutting texts without a NUL and putting a separator between them brings in no NUL. -/
theorem nulFree_context {context old : List UInt8} (contextFree : 0 ∉ context)
    (oldFree : 0 ∉ old) (n k : Nat) : 0 ∉ (context.take n ++ separator ++ old).take k := by
  intro member
  have inside := List.mem_of_mem_take member
  simp only [List.mem_append] at inside
  rcases inside with (inContext | inSeparator) | inOld
  · exact contextFree (List.mem_of_mem_take inContext)
  · exact absurd inSeparator (by decide)
  · exact oldFree inOld

/-- What is cut off a text before does not change the room for it behind another. -/
theorem take_append_take (front old : List UInt8) (k : Nat) :
    (front ++ old.take k).take k = (front ++ old).take k := by
  rw [List.take_append, List.take_append, List.take_take, Nat.min_eq_left (Nat.sub_le _ _)]

theorem addContextLen_leaves {len : Int} {msg : CString} (h : self.Holds m)
    (error : self.isError) (room : minSize ≤ self.bufferSize) (nonneg : 0 ≤ len)
    (short : len ≤ msg.val.length) :
    Leaves (self.addContextLen len msg) self.code self.bufferSize
      (((msg.val.take len.toNat).take (self.bufferSize - minSize) ++ separator ++ m).take
        (self.bufferSize - 1)) :=
  (addContextLen_ends h.carries error room nonneg short).leaves
    (nulFree_context (fun member => msg.property (List.mem_of_mem_take member)) h.nulFree _ _)

theorem addContextv_eq {text : CString} (h : self.Carries m) (error : self.isError) :
    self.addContextv text = unCacheMsg { self with
      buffer := overwrite (overwrite self.buffer (self.bufferSize - m.length) m.reverse) 0
        (text.val.take (self.bufferSize - 1) ++ [0]) } m.length text.val.length := by
  have lt := h.inside
  have fits : 0 + (text.val.take (self.bufferSize - 1) ++ [0]).length ≤
      (overwrite self.buffer (self.bufferSize - m.length) m.reverse).length := by
    rw [length_cached h, List.length_append, List.length_take, List.length_singleton]
    omega
  rw [addContextv, if_neg (by rw [error]; decide), cacheMsg_eq h]
  simp only [vsnprintf, length_cached h, Option.bind_eq_bind, Option.bind_some, Option.map_some,
    writeBlock_eq fits, Int.toNat_natCast]
  rw [if_pos (Int.natCast_nonneg _)]

theorem addContextv_ends {text : CString} (h : self.Carries m)
    (error : self.isError) (room : minSize ≤ self.bufferSize) :
    Ends (self.addContextv text) self.code self.bufferSize
      ((text.val.take (self.bufferSize - minSize) ++ separator ++ m).take
        (self.bufferSize - 1)) := by
  have four : 4 ≤ self.bufferSize := room
  have minFour : minSize = 4 := rfl
  have taken : (text.val.take (self.bufferSize - 1)).length =
      min (self.bufferSize - 1) text.val.length := List.length_take
  have length : (text.val.take (self.bufferSize - 1) ++ [0]).length =
      min (self.bufferSize - 1) text.val.length + 1 := by
    rw [List.length_append, taken]
    rfl
  have front : (text.val.take (self.bufferSize - 1) ++ [0]).take
      (min text.val.length (self.bufferSize - minSize)) =
        text.val.take (self.bufferSize - minSize) := by
    rw [List.take_append_of_le_length (by omega), List.take_take, Nat.min_comm,
      List.take_eq_take_iff]
    omega
  rw [addContextv_eq h error, ← front]
  exact cached_ends _ _ h room (by omega) (by omega) (by omega)

theorem addContextv_leaves {text : CString} (h : self.Holds m)
    (error : self.isError) (room : minSize ≤ self.bufferSize) :
    Leaves (self.addContextv text) self.code self.bufferSize
      ((text.val.take (self.bufferSize - minSize) ++ separator ++ m).take
        (self.bufferSize - 1)) :=
  (addContextv_ends h.carries error room).leaves
    (nulFree_context text.property h.nulFree _ _)

/-- Without room for a separator the context replaces the message, and needs a NUL that
is already after it. -/
theorem addContextLen_leaves_small {len : Int} {msg : CString} (h : self.Holds m)
    (error : self.isError) (small : self.bufferSize < minSize) (nonneg : 0 ≤ len)
    (short : len ≤ msg.val.length)
    (fits : min len.toNat (self.bufferSize - 1) + m.length < self.bufferSize)
    (terminated : self.buffer[min len.toNat (self.bufferSize - 1)]? = some 0) :
    Leaves (self.addContextLen len msg) self.code self.bufferSize
      (msg.val.take (min len.toNat (self.bufferSize - 1))) := by
  set n := min len.toNat (self.bufferSize - 1)
  have size : self.buffer.length = self.bufferSize := rfl
  have length : (msg.val.take n).length = n := by
    rw [List.length_take]
    omega
  have cachedRoom : self.bufferSize - m.length + m.reverse.length ≤ self.buffer.length := by
    rw [List.length_reverse]
    omega
  have room : 0 + (msg.val.take n).length ≤
      (overwrite self.buffer (self.bufferSize - m.length) m.reverse).length := by
    rw [length_cached h.carries, length]
    omega
  have sized := (length_overwrite room).trans (length_cached h.carries)
  refine ⟨⟨self.code, overwrite (overwrite self.buffer (self.bufferSize - m.length)
    m.reverse) 0 (msg.val.take n), n⟩, ?_, rfl, sized, ?_⟩
  · rw [addContextLen_eq h.carries error nonneg short, unCacheMsg,
      if_pos (by rwa [bufferSize, sized])]
  · exact
      { length := length.symm
        begins := by
          have start := take_overwrite room
          rwa [Nat.zero_add, List.take_zero, List.nil_append] at start
        terminated := by
          rw [getElem?_overwrite_outside room (by omega), length,
            getElem?_overwrite_outside cachedRoom (by omega), terminated]
        nulFree := fun member => msg.property (List.mem_of_mem_take member) }

theorem addContextv_leaves_small {text : CString} (h : self.Holds m) (error : self.isError)
    (small : self.bufferSize < minSize) (fits : text.val.length < self.bufferSize) :
    Leaves (self.addContextv text) self.code self.bufferSize text.val := by
  have whole : text.val.take (self.bufferSize - 1) = text.val :=
    List.take_of_length_le (by omega)
  have room : 0 + (text.val ++ [0]).length ≤
      (overwrite self.buffer (self.bufferSize - m.length) m.reverse).length := by
    rw [length_cached h.carries, List.length_append, List.length_singleton]
    omega
  have sized := (length_overwrite room).trans (length_cached h.carries)
  refine ⟨⟨self.code, overwrite (overwrite self.buffer (self.bufferSize - m.length)
    m.reverse) 0 (text.val ++ [0]), text.val.length⟩, ?_, rfl, sized,
    holds_overwrite self.code _ text.property⟩
  rw [addContextv_eq h.carries error, whole, unCacheMsg, if_pos (by rwa [bufferSize, sized])]

end Context

end RetError

end SpotSdk.Client
