import SpotSdk.ErrorCodes.RetError

/-!
# What error buffers hold

A buffer holds a text when it begins with the text and a NUL, and the stored length is
that of the text. Each function that sets an error is described by the text it leaves.
-/

namespace SpotSdk.Client

open SpotSdk.Common SpotSdk.Foundations

theorem lengthAsInt_le (length : Nat) : lengthAsInt length ≤ length := by
  rw [lengthAsInt, BitVec.toInt_ofNat', Int.bmod_def]
  split <;> omega

namespace RetError

/-- The length is inside the buffer, a NUL is at it and none is before it. -/
structure WellFormed (err : RetError) : Prop where
  inside : err.msgLen < err.bufferSize
  terminated : err.buffer[err.msgLen]? = some 0
  nulFree : 0 ∉ err.message

/-- The buffer begins with the text and a NUL, and the length is that of the text. -/
structure Holds (err : RetError) (text : List UInt8) : Prop where
  length : err.msgLen = text.length
  begins : err.buffer.take text.length = text
  terminated : err.buffer[text.length]? = some 0
  nulFree : 0 ∉ text

/-- The buffer begins with the text, whatever its bytes, and has room for a NUL after it;
the length is that of the text. -/
structure Carries (err : RetError) (text : List UInt8) : Prop where
  length : err.msgLen = text.length
  begins : err.buffer.take text.length = text
  inside : text.length < err.bufferSize

section Holding

variable {err self : RetError} {text m : List UInt8}

theorem Holds.length_lt (h : err.Holds text) : text.length < err.bufferSize :=
  (List.getElem?_eq_some_iff.mp h.terminated).choose

theorem Holds.carries (h : err.Holds text) : err.Carries text :=
  ⟨h.length, h.begins, h.length_lt⟩

theorem Carries.message_eq (h : err.Carries text) : err.message = text := by
  rw [message, h.length, h.begins]

theorem Holds.message_eq (h : err.Holds text) : err.message = text :=
  h.carries.message_eq

theorem carries_message (inside : err.msgLen < err.bufferSize) : err.Carries err.message := by
  have size : err.buffer.length = err.bufferSize := rfl
  have length : err.message.length = err.msgLen := by
    rw [message, List.length_take]
    omega
  refine ⟨length.symm, ?_, by omega⟩
  rw [length, message]

theorem Holds.wellFormed (h : err.Holds text) : err.WellFormed where
  inside := by
    rw [h.length]
    exact h.length_lt
  terminated := by
    rw [h.length]
    exact h.terminated
  nulFree := by
    rw [h.message_eq]
    exact h.nulFree

theorem WellFormed.length_message (h : err.WellFormed) : err.message.length = err.msgLen := by
  rw [message, List.length_take]
  exact Nat.min_eq_left (Nat.le_of_lt h.inside)

theorem WellFormed.holds (h : err.WellFormed) : err.Holds err.message where
  length := h.length_message.symm
  begins := by rw [h.length_message, message]
  terminated := by
    rw [h.length_message]
    exact h.terminated
  nulFree := h.nulFree

theorem Holds.buffer_eq (h : err.Holds text) :
    err.buffer = text ++ 0 :: err.buffer.drop (text.length + 1) := by
  obtain ⟨inside, zero⟩ := List.getElem?_eq_some_iff.mp h.terminated
  have here := List.drop_eq_getElem_cons inside
  rw [zero] at here
  calc err.buffer = err.buffer.take text.length ++ err.buffer.drop text.length :=
        (List.take_append_drop _ _).symm
    _ = text ++ 0 :: err.buffer.drop (text.length + 1) := by rw [h.begins, here]

/-- The characters before the first NUL are the text. -/
theorem Holds.takeWhile_eq (h : err.Holds text) : err.buffer.takeWhile (· != 0) = text := by
  have nonzero : ∀ byte ∈ text, (byte != 0) = true := by
    intro byte member
    exact bne_iff_ne.mpr fun zero => h.nulFree (zero ▸ member)
  rw [h.buffer_eq, List.takeWhile_append_of_pos nonzero]
  simp

theorem WellFormed.errMsg_eq (h : err.WellFormed) (error : err.isError) :
    err.errMsg = err.message := by
  rw [errMsg, if_pos error, h.holds.takeWhile_eq]

/-- A buffer that is the text, a NUL and a rest. -/
theorem carries_of_buffer_eq (rest : List UInt8) (begins : err.buffer = text ++ 0 :: rest)
    (length : err.msgLen = text.length) :
    err.Carries text ∧ err.buffer[text.length]? = some 0 := by
  have terminated : err.buffer[text.length]? = some 0 := by
    rw [begins, List.getElem?_append_right (Nat.le_refl _), Nat.sub_self]
    rfl
  refine ⟨⟨length, ?_, (List.getElem?_eq_some_iff.mp terminated).choose⟩, terminated⟩
  rw [begins, List.take_left]

/-- A text that the buffer begins with is held if a NUL comes after it. -/
theorem holds_of_buffer_eq (rest : List UInt8) (begins : err.buffer = text ++ 0 :: rest)
    (length : err.msgLen = text.length) (nulFree : 0 ∉ text) : err.Holds text := by
  obtain ⟨carried, terminated⟩ := carries_of_buffer_eq rest begins length
  exact ⟨carried.length, carried.begins, terminated, nulFree⟩

/-- A text written at the start with a NUL is held. -/
theorem holds_overwrite (code : ErrorCode) (buffer : List UInt8) (nulFree : 0 ∉ text) :
    Holds ⟨code, overwrite buffer 0 (text ++ [0]), text.length⟩ text := by
  refine holds_of_buffer_eq (buffer.drop (text.length + 1)) ?_ rfl nulFree
  simp [overwrite]

end Holding

/-- The call returns, with this code and a buffer of this size that holds the text. -/
def Leaves (result : Option RetError) (code : ErrorCode) (size : Nat) (text : List UInt8) :
    Prop :=
  ∃ err, result = some err ∧ err.code = code ∧ err.bufferSize = size ∧ err.Holds text

/-- The call returns, with this code and a buffer of this size that carries the text with a
NUL after it. -/
def Ends (result : Option RetError) (code : ErrorCode) (size : Nat) (text : List UInt8) :
    Prop :=
  ∃ err, result = some err ∧ err.code = code ∧ err.bufferSize = size ∧ err.Carries text ∧
    err.buffer[text.length]? = some 0

theorem Ends.leaves {result : Option RetError} {code : ErrorCode} {size : Nat}
    {text : List UInt8} (h : Ends result code size text) (nulFree : 0 ∉ text) :
    Leaves result code size text := by
  obtain ⟨err, returned, sameCode, sized, carried, terminated⟩ := h
  exact ⟨err, returned, sameCode, sized, carried.length, carried.begins, terminated, nulFree⟩

/-! ## Setting an error -/

section Setting

variable {self err : RetError} {code : ErrorCode} {text : CString}

theorem retErrorBuf_holds {size : Nat} (positive : 0 < size) : (retErrorBuf size).Holds [] where
  length := rfl
  begins := rfl
  terminated := by
    rw [retErrorBuf, List.getElem?_replicate]
    exact if_pos positive
  nulFree := List.not_mem_nil

theorem reset_leaves (positive : 0 < self.bufferSize) :
    Leaves self.reset noErrorCode self.bufferSize [] := by
  have room : 0 + [(0 : UInt8)].length ≤ self.buffer.length := positive
  rw [reset, writeBlock_eq room]
  exact ⟨_, rfl, rfl, length_overwrite room, holds_overwrite _ _ List.not_mem_nil⟩

theorem setErrorLen_leaves {len : Int} (positive : 0 < self.bufferSize)
    (nonneg : 0 ≤ len) (short : len ≤ text.val.length) :
    Leaves (self.setErrorLen code len text) code self.bufferSize
      (text.val.take (min len (self.bufferSize - 1)).toNat) := by
  obtain ⟨n, count⟩ : ∃ n : Nat, min len ((self.bufferSize : Int) - 1) = n :=
    Int.eq_ofNat_of_zero_le (by omega)
  have length : (text.val.take n).length = n := by
    rw [List.length_take]
    omega
  have lt : (text.val.take n).length < self.buffer.length := by
    change _ < self.bufferSize
    omega
  have room : 0 + (text.val.take n ++ [0]).length ≤ self.buffer.length := by
    rw [List.length_append, List.length_singleton]
    omega
  have first : 0 + (text.val.take n).length ≤ self.buffer.length := by omega
  have second : 0 + (text.val.take n).length + [(0 : UInt8)].length ≤
      (overwrite self.buffer 0 (text.val.take n)).length := by
    rw [length_overwrite first, List.length_singleton]
    omega
  have written := writeBlock_eq second
  rw [overwrite_append rfl room, Nat.zero_add, length] at written
  refine ⟨⟨code, overwrite self.buffer 0 (text.val.take n ++ [0]), n⟩, ?_, rfl,
    length_overwrite room, ?_⟩
  · have same : min len (({ self with code := code } : RetError).bufferSize - 1 : Int) = n :=
      count
    rw [setErrorLen]
    simp only [same, Int.toNat_natCast, writeBlock_eq first, written, Option.bind_eq_bind,
      Option.bind_some]
    rw [if_neg (by omega)]
    rfl
  · have nulFree : 0 ∉ text.val.take n := fun member =>
      text.property (List.mem_of_mem_take member)
    have held := holds_overwrite code self.buffer nulFree
    rw [count, Int.toNat_natCast]
    rwa [length] at held

theorem setErrorv_leaves (fits : text.val.length < self.bufferSize) :
    Leaves (self.setErrorv code text) code self.bufferSize text.val := by
  have whole : text.val.take (self.buffer.length - 1) = text.val := by
    apply List.take_of_length_le
    change _ ≤ self.bufferSize - 1
    omega
  have room : 0 + (text.val ++ [0]).length ≤ self.buffer.length := by
    rw [List.length_append, List.length_singleton]
    change _ ≤ self.bufferSize
    omega
  refine ⟨⟨code, overwrite self.buffer 0 (text.val ++ [0]), text.val.length⟩, ?_, rfl,
    length_overwrite room, holds_overwrite code self.buffer text.property⟩
  rw [setErrorv, vsnprintf, whole, writeBlock_eq room]
  simp only [Option.map_some, Option.bind_eq_bind, Option.bind_some, Int.toNat_natCast]
  rw [if_neg (by omega), if_neg (by omega)]
  rfl

/-- A copy of a message of the length that is already stored. -/
theorem copyFrom_leaves (self : RetError) {m : List UInt8} (h : err.Holds m)
    (fits : m.length < self.bufferSize)
    (same : m.length = self.msgLen) :
    Leaves (self.copyFrom err) err.code self.bufferSize m := by
  have short : (m.take self.bufferSize) = m := List.take_of_length_le (by omega)
  have length : (m ++ List.replicate (self.bufferSize - m.length) (0 : UInt8)).length =
      self.bufferSize := by
    rw [List.length_append, List.length_replicate]
    omega
  have room : 0 + (m ++ List.replicate (self.bufferSize - m.length) (0 : UInt8)).length ≤
      self.buffer.length := by
    rw [length, Nat.zero_add]
    exact Nat.le_refl _
  have notAll : ¬(m.length = err.buffer.length ∧ m.length < self.bufferSize) :=
    fun ⟨all, _⟩ => absurd h.length_lt (by rw [bufferSize]; omega)
  refine ⟨⟨err.code, overwrite self.buffer 0
    (m ++ List.replicate (self.bufferSize - m.length) 0), self.msgLen⟩, ?_, rfl,
    length_overwrite room, ?_⟩
  · rw [copyFrom, strncpy]
    simp only [h.takeWhile_eq, short]
    rw [if_neg notAll, writeBlock_eq room]
    rfl
  · have split : self.bufferSize - m.length = self.bufferSize - (m.length + 1) + 1 := by omega
    refine holds_of_buffer_eq (List.replicate (self.bufferSize - (m.length + 1)) 0 ++
      self.buffer.drop self.bufferSize) ?_ same.symm h.nulFree
    rw [overwrite, length, Nat.zero_add, List.take_zero, List.nil_append, split,
      List.replicate_succ, List.append_assoc]
    rfl

end Setting

end RetError

end SpotSdk.Client
