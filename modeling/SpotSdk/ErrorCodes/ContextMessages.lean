import SpotSdk.ErrorCodes.CachedMessages

/-!
# The message after a context is added

In a buffer with room for a separator, a context goes before the message with the separator
between them, and what does not fit is cut from the end of the message. The length of the
context is narrowed to an `int` on the way; the contexts it does this to without harm are
named, and on all others the context is dropped or cut too short.
-/

namespace SpotSdk.Client

open SpotSdk.Common SpotSdk.Foundations RetError

/-- A message with a context before it: so much of the context is used that the separator
fits, and the end of the message is lost. -/
def contextMessage (size : Nat) (context old : List UInt8) : List UInt8 :=
  (context.take (size - minSize) ++ separator ++ old).take (size - 1)

/-- On every error in a buffer of this size, the call puts the context before the message,
with a NUL at the end. The separator is complete, and what is kept of the message is a front
of it. -/
def PutsContext (size : Nat) (call : RetError → Option RetError) (context : List UInt8) : Prop :=
  ∀ err, err.isError → err.bufferSize = size → err.msgLen < size →
    Ends (call err) err.code size (contextMessage size context err.message) ∧
      ∃ kept, kept <+: err.message ∧ contextMessage size context err.message =
        context.take (size - minSize) ++ separator ++ kept

def AddsContext (size : Nat) (context : CString) : Prop :=
  PutsContext size (fun err => err.addContext (some context)) context.val

/-- As an `int` the length is itself, or still covers the room for a context. -/
def LengthSurvives (size length : Nat) : Prop :=
  length < 2147483648 ∨
    (size - minSize ≤ length % 4294967296 ∧ length % 4294967296 < 2147483648)

/-- Several calls of `AddContext`, one after the other. -/
def addContexts (err : RetError) (contexts : List CString) : Option RetError :=
  contexts.foldlM (fun err context => err.addContext (some context)) err

/-- Contexts with their separators, the one added last in front. -/
def outermostFirst (size : Nat) (contexts : List CString) : List UInt8 :=
  contexts.reverse.flatMap fun context => context.val.take (size - minSize) ++ separator

/-- On every error in a buffer of this size, the calls leave the contexts before the
message, cut to the room there is. -/
def NestsContexts (size : Nat) (contexts : List CString) : Prop :=
  ∀ err, err.isError → err.bufferSize = size → err.msgLen < size →
    ∃ after, addContexts err contexts = some after ∧ after.code = err.code ∧
      after.bufferSize = size ∧
      after.Carries ((outermostFirst size contexts ++ err.message).take (size - 1))

section Narrowing

variable {length : Nat}

theorem lengthAsInt_of_low (low : length % 4294967296 < 2147483648) :
    lengthAsInt length = (length % 4294967296 : Nat) := by
  rw [lengthAsInt, BitVec.toInt_ofNat', Int.bmod_def]
  split <;> omega

theorem lengthAsInt_of_high (high : 2147483648 ≤ length % 4294967296) :
    lengthAsInt length < 0 := by
  rw [lengthAsInt, BitVec.toInt_ofNat', Int.bmod_def]
  split <;> omega

end Narrowing

section Messages

variable {size : Nat} {context old : List UInt8}

/-- The separator fits, and a front of the message after it. -/
theorem contextMessage_eq (room : minSize ≤ size) (context old : List UInt8) :
    ∃ n, contextMessage size context old =
      context.take (size - minSize) ++ separator ++ old.take n := by
  have four : 4 ≤ size := room
  have minFour : minSize = 4 := rfl
  have length : (context.take (size - minSize) ++ separator).length ≤ size - 1 := by
    rw [List.length_append, List.length_take]
    have three : separator.length = 3 := rfl
    omega
  refine ⟨size - 1 - (context.take (size - minSize) ++ separator).length, ?_⟩
  rw [contextMessage, List.take_append, List.take_of_length_le length]

theorem length_contextMessage_nil (room : minSize ≤ size) :
    (contextMessage size context []).length = min (size - 4) context.length + 3 := by
  obtain ⟨n, whole⟩ := contextMessage_eq room context []
  rw [whole, List.take_nil, List.append_nil, List.length_append, List.length_take]
  rfl

theorem outermostFirst_cons (size : Nat) (context : CString) (contexts : List CString) :
    outermostFirst size (context :: contexts) =
      outermostFirst size contexts ++ (context.val.take (size - minSize) ++ separator) := by
  rw [outermostFirst, List.reverse_cons, List.flatMap_append, List.flatMap_singleton,
    outermostFirst]

end Messages

section Contexts

variable {size : Nat} {context : CString} {err : RetError}

/-- A call that leaves the message puts the context before it. -/
theorem putsContext_of_ends {call : RetError → Option RetError} {context : List UInt8}
    (room : minSize ≤ size)
    (ends : ∀ err, err.isError → err.bufferSize = size → err.Carries err.message →
      Ends (call err) err.code size (contextMessage size context err.message)) :
    PutsContext size call context := by
  intro err error sized inside
  obtain ⟨n, whole⟩ := contextMessage_eq room context err.message
  have carried : err.Carries err.message := carries_message (by rw [sized]; exact inside)
  exact ⟨ends err error sized carried, _, List.take_prefix n _, whole⟩

/-- A text that is formatted into the buffer is put before the message as it is. -/
theorem addContextv_putsContext (room : minSize ≤ size) (text : CString) :
    PutsContext size (fun err => err.addContextv text) text.val := by
  apply putsContext_of_ends room
  intro err error sized carried
  subst sized
  exact addContextv_ends carried error room

theorem addContextf_putsContext (room : minSize ≤ size) (text : CString) :
    PutsContext size (fun err => err.addContextf text) text.val := by
  apply putsContext_of_ends room
  intro err error sized carried
  subst sized
  rw [addContextf, if_pos error]
  exact addContextv_ends carried error room

theorem addContext_eq (error : err.isError) : err.addContext (some context) =
    err.addContextLen (lengthAsInt context.val.length) context :=
  if_pos error

/-- A context whose length survives is put before the message. -/
theorem LengthSurvives.addsContext (survives : LengthSurvives size context.val.length)
    (room : minSize ≤ size) : AddsContext size context := by
  apply putsContext_of_ends room
  intro err error sized carried
  subst sized
  have low : context.val.length % 4294967296 < 2147483648 := by
    cases survives with
    | inl short => omega
    | inr covers => exact covers.2
  have narrowed := lengthAsInt_of_low low
  have same : (context.val.take (lengthAsInt context.val.length).toNat).take
      (err.bufferSize - minSize) = context.val.take (err.bufferSize - minSize) := by
    rw [narrowed, Int.toNat_natCast]
    cases survives with
    | inl short => rw [Nat.mod_eq_of_lt (by omega), List.take_length]
    | inr covers => rw [List.take_take, Nat.min_eq_left covers.1]
  have ends := addContextLen_ends carried error room (by rw [narrowed]; exact Int.natCast_nonneg _)
    (lengthAsInt_le context.val.length)
  rw [same, ← addContext_eq error] at ends
  exact ends

/-- A negative length drops the context. -/
theorem addContext_negative (negative : lengthAsInt context.val.length < 0)
    (error : err.isError) : err.addContext (some context) = some err := by
  rw [addContext_eq error, addContextLen, if_neg (by rw [error]; decide)]
  simp only
  rw [if_pos (by omega)]

/-- An error with an empty message. -/
def emptyError (size : Nat) : RetError :=
  { retErrorBuf size with code := ⟨systemCategory, 1⟩ }

theorem emptyError_carries (positive : 0 < size) : (emptyError size).Carries [] := by
  have empty := retErrorBuf_holds positive
  exact ⟨empty.length, empty.begins, empty.length_lt⟩

theorem bufferSize_emptyError : (emptyError size).bufferSize = size :=
  List.length_replicate

/-- Put before an empty message, a context whose length does not survive comes out shorter. -/
theorem AddsContext.lengthSurvives (adds : AddsContext size context) (room : minSize ≤ size) :
    LengthSurvives size context.val.length := by
  have four : 4 ≤ size := room
  have minFour : minSize = 4 := rfl
  have carried : (emptyError size).Carries [] := emptyError_carries (by omega)
  have sized : (emptyError size).bufferSize = size := bufferSize_emptyError
  have error : (emptyError size).isError = true := rfl
  obtain ⟨added, _⟩ := adds _ error sized (by rw [carried.length]; exact Nat.zero_lt_of_lt four)
  rw [carried.message_eq] at added
  obtain ⟨after, returned, _, _, kept, _⟩ := added
  have count := kept.length
  rw [length_contextMessage_nil room] at count
  by_contra fails
  rw [LengthSurvives, not_or, minFour] at fails
  by_cases high : 2147483648 ≤ context.val.length % 4294967296
  · have dropped := addContext_negative (lengthAsInt_of_high high) error
    have same : emptyError size = after := Option.some.inj (dropped.symm.trans returned)
    rw [← same, carried.length] at count
    exact absurd count (Nat.ne_of_lt (Nat.zero_lt_succ _))
  · have narrowed := lengthAsInt_of_low (Nat.not_le.mp high)
    obtain ⟨cut, cutReturned, _, _, cutKept, _⟩ :=
      addContextLen_ends carried error (by rwa [sized])
        (by rw [narrowed]; exact Int.natCast_nonneg _) (lengthAsInt_le context.val.length)
    rw [← addContext_eq error] at cutReturned
    have same : cut = after := Option.some.inj (cutReturned.symm.trans returned)
    have cutCount : cut.msgLen =
        (contextMessage size (context.val.take (context.val.length % 4294967296)) []).length := by
      rw [cutKept.length, sized, narrowed]
      rfl
    rw [length_contextMessage_nil room, List.length_take] at cutCount
    rw [← same] at count
    omega

/-- Calls whose contexts all survive leave them before the message, the last one in front. -/
theorem nestsContexts (room : minSize ≤ size) (contexts : List CString)
    (survive : ∀ context ∈ contexts, LengthSurvives size context.val.length) :
    NestsContexts size contexts := by
  intro err error sized inside
  induction contexts generalizing err with
  | nil =>
      have carried : err.Carries err.message := carries_message (by rw [sized]; exact inside)
      have whole : err.message.take (size - 1) = err.message :=
        List.take_of_length_le (by rw [← carried.length]; omega)
      refine ⟨err, rfl, rfl, sized, ?_⟩
      rw [outermostFirst, List.reverse_nil, List.flatMap_nil, List.nil_append, whole]
      exact carried
  | cons context contexts ih =>
      have adds := (survive context List.mem_cons_self).addsContext room
      obtain ⟨⟨middle, returned, code, middleSized, kept, _⟩, _⟩ := adds err error sized inside
      have middleError : middle.isError = true := by
        rw [isError, code]
        exact error
      have returned : err.addContext (some context) = some middle := returned
      have middleInside : middle.msgLen < size := by
        have short := kept.inside
        rw [kept.length]
        omega
      obtain ⟨after, runs, afterCode, afterSized, carried⟩ :=
        ih (fun other member => survive other (List.mem_cons_of_mem _ member)) middle
          middleError middleSized middleInside
      refine ⟨after, ?_, afterCode.trans code, afterSized, ?_⟩
      · rw [addContexts, List.foldlM_cons, returned]
        exact runs
      · rw [kept.message_eq, contextMessage, take_append_take] at carried
        rw [outermostFirst_cons, List.append_assoc]
        exact carried

/-- In a buffer with room for a separator, `AddContext` puts a context before every message
exactly if the length of the context survives as an `int`, and such contexts nest. The
formatted calls put every text before it. -/
theorem addContext_nests (size : Nat) (room : minSize ≤ size) :
    (∀ context, AddsContext size context ↔ LengthSurvives size context.val.length) ∧
      (∀ contexts : List CString,
        (∀ context ∈ contexts, LengthSurvives size context.val.length) →
          NestsContexts size contexts) ∧
      ∀ text : CString, PutsContext size (fun err => err.addContextv text) text.val ∧
        PutsContext size (fun err => err.addContextf text) text.val := by
  refine ⟨fun context => ⟨fun adds => ?_, fun survives => ?_⟩, nestsContexts room,
    fun text => ⟨?_, ?_⟩⟩
  · exact adds.lengthSurvives room
  · exact survives.addsContext room
  · exact addContextv_putsContext room text
  · exact addContextf_putsContext room text

/-- An error with the message `fault` in 16 bytes. -/
def faultError : RetError where
  code := ⟨systemCategory, 1⟩
  buffer := [102, 97, 117, 108, 116] ++ List.replicate 11 0
  msgLen := 5

/-- The contexts `arm` and `up`. -/
def armUp : List CString :=
  [⟨[97, 114, 109], by decide⟩, ⟨[117, 112], by decide⟩]

/-- Both contexts go before the message, `up` in front, and the last letter of the message is
cut. -/
theorem addContext_nests_armUp :
    (∀ context ∈ armUp, AddsContext 16 context) ∧
      ∃ after, addContexts faultError armUp = some after ∧ after.code = faultError.code ∧
        after.message = [117, 112] ++ separator ++ [97, 114, 109] ++ separator ++
          [102, 97, 117, 108] := by
  obtain ⟨adds, nests, _⟩ := addContext_nests 16 (by decide)
  have survive : ∀ context ∈ armUp, LengthSurvives 16 context.val.length := by
    intro context member
    simp only [armUp, List.mem_cons, List.not_mem_nil, or_false] at member
    rcases member with rfl | rfl <;> exact .inl (by decide)
  refine ⟨fun context member => (adds context).mpr (survive context member), ?_⟩
  obtain ⟨after, added, code, _, carried⟩ :=
    nests armUp survive faultError (by decide) (by decide) (by decide)
  exact ⟨after, added, code, carried.message_eq.trans (by decide)⟩

/-- A context of one letter, this many times. -/
def letters (n : Nat) : CString :=
  ⟨List.replicate n 97, fun member => absurd (List.eq_of_mem_replicate member) (by decide)⟩

/-- The length of a context of `2 ^ 31` bytes is negative as an `int`, and the context is
dropped. -/
theorem not_addsContext_long : minSize ≤ 16 ∧ ¬AddsContext 16 (letters 2147483648) ∧
    ∀ err : RetError, err.isError → err.addContext (some (letters 2147483648)) = some err := by
  have length : (letters 2147483648).val.length = 2147483648 := List.length_replicate
  refine ⟨by decide, ?_, ?_⟩
  · intro adds
    have survives := adds.lengthSurvives (by decide)
    rw [length, LengthSurvives] at survives
    exact absurd survives (by decide)
  · intro err error
    apply addContext_negative _ error
    apply lengthAsInt_of_high
    rw [length]

end Contexts

end SpotSdk.Client
