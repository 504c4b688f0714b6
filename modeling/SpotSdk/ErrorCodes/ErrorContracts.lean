import SpotSdk.ErrorCodes.CachedMessages
import SpotSdk.Foundations.LabelledRuns

/-!
# Runs over error buffers

Calls are made on a family of buffers, in any order. A call fits its buffer when a
formatted text leaves room for the NUL, when a context has room for its separator or for
itself, and when a copied message has the length that is already stored. While all calls
fit, every buffer holds its message and a copied message stays below the contexts.
-/

namespace SpotSdk.Client

open SpotSdk.Common SpotSdk.Foundations

/-- The calls on one buffer, with formatted texts for the formats and their arguments. -/
inductive ErrorCall
  | setError (code : ErrorCode) (msg : CString)
  | setErrorv (code : ErrorCode) (text : CString)
  | setErrorf (code : ErrorCode) (text : CString)
  | setErrorFromErrno (errno : Int) (msg : CString)
  | setErrorFromErrnov (errno : Int) (text : CString)
  | setErrorFromErrnof (errno : Int) (text : CString)
  | addContext (context : Option CString)
  | addContextv (text : CString)
  | addContextf (text : CString)
  | reset

namespace ErrorCall

def run (err : RetError) : ErrorCall → Option RetError
  | .setError code msg => err.setError code msg
  | .setErrorv code text => err.setErrorv code text
  | .setErrorf code text => err.setErrorf code text
  | .setErrorFromErrno errno msg => err.setErrorFromErrno errno msg
  | .setErrorFromErrnov errno text => err.setErrorFromErrnov errno text
  | .setErrorFromErrnof errno text => err.setErrorFromErrnof errno text
  | .addContext context => err.addContext context
  | .addContextv text => err.addContextv text
  | .addContextf text => err.addContextf text
  | .reset => err.reset

/-- The context that a call adds to an error; a length that is negative as an `int` and a
null pointer add none. -/
def context : ErrorCall → Option (List UInt8)
  | .addContext (some context) =>
      if 0 ≤ lengthAsInt context.val.length then
        some (context.val.take (lengthAsInt context.val.length).toNat)
      else none
  | .addContextv text => some text.val
  | .addContextf text => some text.val
  | _ => none

def isContext : ErrorCall → Bool
  | .addContext _ | .addContextv _ | .addContextf _ => true
  | _ => false

/-- The condition on a call and the buffer before it. -/
def Fits (err : RetError) : ErrorCall → Prop
  | .setErrorv _ text | .setErrorf _ text
  | .setErrorFromErrnov _ text | .setErrorFromErrnof _ text =>
      text.val.length < err.bufferSize
  | .addContext (some context) =>
      err.isError → 0 ≤ lengthAsInt context.val.length → err.bufferSize < RetError.minSize →
        let len := min (lengthAsInt context.val.length).toNat (err.bufferSize - 1)
        len + err.msgLen < err.bufferSize ∧ err.buffer[len]? = some 0
  | .addContextv text | .addContextf text =>
      err.isError → err.bufferSize < RetError.minSize → text.val.length < err.bufferSize
  | _ => True

end ErrorCall

/-- A text with a context before it; where there is room for a separator, so much of the
context is used that the separator fits. -/
def withContext (size : Nat) (msg context : List UInt8) : List UInt8 :=
  (if size < RetError.minSize then context else context.take (size - RetError.minSize)) ++
    RetError.separator ++ msg

/-- A text with the contexts of calls before it, the last call's first. -/
def withContexts (size : Nat) (msg : List UInt8) (calls : List ErrorCall) : List UInt8 :=
  (calls.filterMap ErrorCall.context).foldl (withContext size) msg

/-- A message is as much of the full text as the buffer has room for. -/
structure Truncation (size : Nat) (full message : List UInt8) : Prop where
  begins : message <+: full
  whole : message = full ∨ size ≤ full.length
  fills : RetError.minSize ≤ size → message = full.take (size - 1)

theorem Truncation.refl {size : Nat} {message : List UInt8} (h : message.length < size) :
    Truncation size message message where
  begins := List.prefix_refl message
  whole := .inl rfl
  fills _ := (List.take_of_length_le (by omega)).symm

/-- A truncated message with a context before it is truncated again. -/
theorem Truncation.withContext {size : Nat} {full message context : List UInt8}
    (h : Truncation size full message) (room : RetError.minSize ≤ size) :
    Truncation size (Client.withContext size full context)
      ((context.take (size - RetError.minSize) ++ RetError.separator ++ message).take
        (size - 1)) := by
  have large : ¬size < RetError.minSize := Nat.not_lt.mpr room
  have same : (context.take (size - RetError.minSize) ++ RetError.separator ++
      message).take (size - 1) = (Client.withContext size full context).take (size - 1) := by
    rw [Client.withContext, if_neg large, h.fills room, RetError.take_append_take]
  rw [same]
  refine ⟨List.take_prefix _ _, ?_, fun _ => rfl⟩
  by_cases short : (Client.withContext size full context).length ≤ size - 1
  · exact .inl (List.take_of_length_le short)
  · exact .inr (by omega)

/-- Without room for a separator only the context is left. -/
theorem Truncation.small {size : Nat} (small : size < RetError.minSize)
    (context full : List UInt8) (n : Nat) :
    Truncation size (Client.withContext size full context) (context.take n) where
  begins := by
    rw [Client.withContext, if_pos small, List.append_assoc]
    exact (List.take_prefix n context).trans (List.prefix_append _ _)
  whole := by
    have three : RetError.separator.length = 3 := rfl
    have four : size < 4 := small
    refine .inr ?_
    rw [Client.withContext, List.length_append, List.length_append]
    omega
  fills room := absurd room (Nat.not_le.mpr small)

namespace ErrorCall

variable {err : RetError} {m : List UInt8} {call : ErrorCall}

/-- Without an error no context is added. -/
theorem run_eq_of_not_isError (kind : call.isContext) (error : err.isError = false) :
    call.run err = some err := by
  cases call with
  | addContext given =>
      cases given with
      | none => rfl
      | some given =>
          simp only [run, RetError.addContext, error]
          rfl
  | addContextv text =>
      simp only [run, RetError.addContextv, error]
      rfl
  | addContextf text =>
      simp only [run, RetError.addContextf, error]
      rfl
  | _ => exact absurd kind Bool.false_ne_true

/-- A call that adds no context leaves the buffer as it is. -/
theorem run_eq_of_context_none (kind : call.isContext) (none : call.context = none) :
    call.run err = some err := by
  cases call with
  | addContext given =>
      cases given with
      | none => rfl
      | some given =>
          have negative : ¬0 ≤ lengthAsInt given.val.length := by
            intro nonneg
            rw [context, if_pos nonneg] at none
            exact Option.some_ne_none _ none
          cases error : err.isError with
          | false => exact run_eq_of_not_isError kind error
          | true =>
              rw [run, RetError.addContext, if_pos error, RetError.addContextLen,
                if_neg (by rw [error]; decide)]
              simp only
              rw [if_pos (by omega)]
  | addContextv text => exact absurd none (Option.some_ne_none _)
  | addContextf text => exact absurd none (Option.some_ne_none _)
  | _ => exact absurd kind Bool.false_ne_true

/-- A context is put before the message. -/
theorem run_context {added : List UInt8} (h : err.Holds m) (fits : call.Fits err)
    (error : err.isError) (some : call.context = some added) :
    ∃ text, RetError.Leaves (call.run err) err.code err.bufferSize text ∧
      ∀ full, Truncation err.bufferSize full m →
        Truncation err.bufferSize (withContext err.bufferSize full added) text := by
  -- A formatted context that fits is used whole where the separator has no room.
  have formatted : ∀ text : CString, (err.bufferSize < RetError.minSize →
      text.val.length < err.bufferSize) →
      ∃ left, RetError.Leaves (err.addContextv text) err.code err.bufferSize left ∧
        ∀ full, Truncation err.bufferSize full m →
          Truncation err.bufferSize (withContext err.bufferSize full text.val) left := by
    intro text fits
    by_cases small : err.bufferSize < RetError.minSize
    · refine ⟨_, RetError.addContextv_leaves_small h error small (fits small), ?_⟩
      intro full _
      have whole := Truncation.small small text.val full text.val.length
      rwa [List.take_length] at whole
    · have room := Nat.not_lt.mp small
      exact ⟨_, RetError.addContextv_leaves h error room, fun full kept =>
        kept.withContext room⟩
  cases call with
  | addContext given =>
      cases given with
      | none => simp [context] at some
      | some given =>
          have nonneg : 0 ≤ lengthAsInt given.val.length := by
            by_contra negative
            rw [context, if_neg negative] at some
            exact Option.some_ne_none _ some.symm
          have short := lengthAsInt_le given.val.length
          rw [context, if_pos nonneg] at some
          obtain rfl := Option.some.inj some
          rw [run, RetError.addContext, if_pos error]
          by_cases small : err.bufferSize < RetError.minSize
          · obtain ⟨room, terminated⟩ := fits error nonneg small
            rw [h.length] at room
            refine ⟨_, RetError.addContextLen_leaves_small h error small nonneg short room
              terminated, ?_⟩
            intro full _
            have part := Truncation.small small
              (given.val.take (lengthAsInt given.val.length).toNat) full (err.bufferSize - 1)
            rwa [List.take_take, Nat.min_comm] at part
          · have room := Nat.not_lt.mp small
            exact ⟨_, RetError.addContextLen_leaves h error room nonneg short, fun full kept =>
              kept.withContext room⟩
  | addContextv text =>
      obtain rfl := Option.some.inj some
      exact formatted text (fits error)
  | addContextf text =>
      obtain rfl := Option.some.inj some
      rw [run, RetError.addContextf, if_pos error]
      exact formatted text (fits error)
  | _ => simp [context] at some

/-- A message that is set with its length is cut to the room there is. -/
theorem setErrorLen_leaves (h : err.Holds m) (code : ErrorCode) (msg : CString) :
    ∃ text, RetError.Leaves (err.setErrorLen code (lengthAsInt msg.val.length) msg) code
      err.bufferSize text := by
  by_cases nonneg : 0 ≤ lengthAsInt msg.val.length
  · exact ⟨_, RetError.setErrorLen_leaves (Nat.zero_lt_of_lt h.length_lt) nonneg
      (lengthAsInt_le _)⟩
  · refine ⟨m, { err with code := code }, ?_, rfl, rfl,
      ⟨h.length, h.begins, h.terminated, h.nulFree⟩⟩
    rw [RetError.setErrorLen]
    simp only
    rw [if_pos (by omega)]

/-- A call that fits leaves a text. -/
theorem run_leaves (h : err.Holds m) (fits : call.Fits err) :
    ∃ code text, RetError.Leaves (call.run err) code err.bufferSize text := by
  have kept : call.isContext →
      ∃ code text, RetError.Leaves (call.run err) code err.bufferSize text := by
    intro kind
    cases error : err.isError with
    | false => exact ⟨_, m, err, run_eq_of_not_isError kind error, rfl, rfl, h⟩
    | true =>
        cases added : call.context with
        | none => exact ⟨_, m, err, run_eq_of_context_none kind added, rfl, rfl, h⟩
        | some added =>
            obtain ⟨text, leaves, _⟩ := run_context h fits error added
            exact ⟨_, text, leaves⟩
  cases call with
  | setError code msg => exact ⟨code, setErrorLen_leaves h code msg⟩
  | setErrorFromErrno errno msg => exact ⟨_, setErrorLen_leaves h (RetError.errnoCode errno) msg⟩
  | setErrorv code text | setErrorf code text
  | setErrorFromErrnov errno text | setErrorFromErrnof errno text =>
      exact ⟨_, text.val, RetError.setErrorv_leaves fits⟩
  | addContext given | addContextv text | addContextf text => exact kept rfl
  | reset => exact ⟨noErrorCode, [], RetError.reset_leaves (Nat.zero_lt_of_lt h.length_lt)⟩

end ErrorCall

/-! ## Families of buffers -/

variable {ι : Type*}

/-- A call on one of the buffers, or a copy from one to another. -/
inductive ErrorEvent (ι : Type*)
  | call (i : ι) (call : ErrorCall)
  | copyFrom (i j : ι)

def stepErrors [DecidableEq ι] (errs : ι → RetError) : ErrorEvent ι → Option (ι → RetError)
  | .call i call => (call.run (errs i)).map (Function.update errs i)
  | .copyFrom i j => ((errs i).copyFrom (errs j)).map (Function.update errs i)

/-- The condition on an event and the buffers before it. -/
def FitsErrors (errs : ι → RetError) : ErrorEvent ι → Prop
  | .call i call => call.Fits (errs i)
  | .copyFrom i j =>
      (errs j).msgLen < (errs i).bufferSize ∧ (errs j).msgLen = (errs i).msgLen

/-- New buffers of these sizes. -/
def newErrors (size : ι → Nat) (i : ι) : RetError := retErrorBuf (size i)

/-- The buffers have their sizes and hold their messages. -/
structure HoldsAll (size : ι → Nat) (errs : ι → RetError) : Prop where
  sized (i : ι) : (errs i).bufferSize = size i
  wellFormed (i : ι) : (errs i).WellFormed

section Steps

variable [DecidableEq ι] {size : ι → Nat} {errs next : ι → RetError} {i j : ι}

omit [DecidableEq ι] in
theorem newErrors_holdsAll (positive : ∀ i, 0 < size i) : HoldsAll size (newErrors size) where
  sized _ := List.length_replicate
  wellFormed i := by
    apply RetError.Holds.wellFormed
    exact RetError.retErrorBuf_holds (positive i)

/-- One buffer after a call or a copy, and the others as they were. -/
theorem HoldsAll.update (h : HoldsAll size errs) {err : RetError}
    (sized : err.bufferSize = size i) (wellFormed : err.WellFormed) :
    HoldsAll size (Function.update errs i err) where
  sized k := by
    by_cases same : k = i
    · subst same
      rw [Function.update_self, sized]
    · rw [Function.update_of_ne same, h.sized k]
  wellFormed k := by
    by_cases same : k = i
    · subst same
      rwa [Function.update_self]
    · rw [Function.update_of_ne same]
      exact h.wellFormed k

/-- An event that fits returns, and leaves a text in its buffer. -/
theorem HoldsAll.returns (h : HoldsAll size errs) {event : ErrorEvent ι}
    (fits : FitsErrors errs event) :
    ∃ next, stepErrors errs event = some next ∧ HoldsAll size next := by
  cases event with
  | call i call =>
      obtain ⟨code, text, err, returned, rfl, sized, held⟩ :=
        ErrorCall.run_leaves (h.wellFormed i).holds fits
      refine ⟨Function.update errs i err, ?_, h.update (sized.trans (h.sized i)) held.wellFormed⟩
      rw [stepErrors, returned]
      rfl
  | copyFrom i j =>
      obtain ⟨room, same⟩ := fits
      have length := (h.wellFormed j).length_message
      obtain ⟨err, returned, _, sized, held⟩ :=
        RetError.copyFrom_leaves (errs i) (h.wellFormed j).holds (by omega) (by omega)
      refine ⟨Function.update errs i err, ?_, h.update (sized.trans (h.sized i)) held.wellFormed⟩
      rw [stepErrors, returned]
      rfl

/-- A guarded step keeps the buffers. -/
theorem HoldsAll.step (h : HoldsAll size errs) {event : ErrorEvent ι}
    (step : Guard (StepOf stepErrors) FitsErrors errs event next) : HoldsAll size next := by
  obtain ⟨taken, fits⟩ := step
  obtain ⟨other, same, holds⟩ := h.returns fits
  obtain rfl := Option.some.inj (taken.symm.trans same)
  exact holds

/-- A call in a guarded run is made on its own buffer. -/
theorem call_step {call : ErrorCall} {err : RetError} (returned : call.run (errs i) = some err)
    (step : StepOf stepErrors errs (.call i call) next) : next = Function.update errs i err := by
  rw [StepOf, stepErrors, returned] at step
  exact (Option.some.inj step).symm

/-- While the buffer has no error, contexts leave it as it is. -/
theorem contexts_without_error {calls : List ErrorCall} (error : (errs i).isError = false)
    (kind : ∀ call ∈ calls, call.isContext)
    (run : Run (Guard (StepOf stepErrors) FitsErrors) errs (calls.map (.call i)) next) :
    next i = errs i := by
  induction calls generalizing errs with
  | nil =>
      cases run
      rfl
  | cons call calls ih =>
      cases run with
      | cons step tail =>
          obtain rfl := call_step (ErrorCall.run_eq_of_not_isError (kind call (by simp)) error)
            step.1
          rw [Function.update_eq_self] at tail
          exact ih error (fun other member => kind other (by simp [member])) tail

/-- Contexts stay before the message, which is cut to the room there is. -/
theorem contexts_kept {calls : List ErrorCall} {full : List UInt8} (h : HoldsAll size errs)
    (error : (errs i).isError) (kind : ∀ call ∈ calls, call.isContext)
    (kept : Truncation (size i) full (errs i).message)
    (run : Run (Guard (StepOf stepErrors) FitsErrors) errs (calls.map (.call i)) next) :
    Truncation (size i) (withContexts (size i) full calls) (next i).message := by
  induction calls generalizing errs full with
  | nil =>
      cases run
      exact kept
  | cons call calls ih =>
      cases run with
      | cons step tail =>
          have later : ∀ other ∈ calls, other.isContext :=
            fun other member => kind other (by simp [member])
          have now := h.step step
          cases added : call.context with
          | none =>
              obtain rfl := call_step
                (ErrorCall.run_eq_of_context_none (kind call (by simp)) added) step.1
              rw [Function.update_eq_self] at tail
              have rest := ih h error later kept tail
              rwa [withContexts, List.filterMap_cons_none added]
          | some context =>
              obtain ⟨text, ⟨err, returned, code, sized, held⟩, put⟩ :=
                ErrorCall.run_context (h.wellFormed i).holds step.2 error added
              obtain rfl := call_step returned step.1
              have before := h.sized i
              rw [before] at put
              have more := put full kept
              rw [withContexts, List.filterMap_cons_some added, List.foldl_cons]
              apply ih now _ later _ tail
              · rw [Function.update_self, RetError.isError, code]
                exact error
              · rw [Function.update_self, held.message_eq]
                exact more

/-- A copied message stays below the contexts that are added after. -/
theorem copied_kept {calls : List ErrorCall} (h : HoldsAll size errs)
    (kind : ∀ call ∈ calls, call.isContext)
    (run : Run (Guard (StepOf stepErrors) FitsErrors) errs
      (.copyFrom i j :: calls.map (.call i)) next) :
    Truncation (size i) (if (errs j).isError then withContexts (size i) (errs j).message calls
      else (errs j).message) (next i).message := by
  cases run with
  | cons step tail =>
      have now := h.step step
      obtain ⟨taken, room, same⟩ := step
      have length := (h.wellFormed j).length_message
      have sized := h.sized i
      obtain ⟨err, returned, code, _, held⟩ :=
        RetError.copyFrom_leaves (errs i) (h.wellFormed j).holds (by omega) (by omega)
      rw [StepOf, stepErrors, returned] at taken
      obtain rfl := Option.some.inj taken
      have here : Function.update errs i err i = err := Function.update_self ..
      have whole : Truncation (size i) (errs j).message (errs j).message :=
        Truncation.refl (by omega)
      have error : (Function.update errs i err i).isError = (errs j).isError := by
        rw [here, RetError.isError, code]
        rfl
      cases isError : (errs j).isError with
      | false =>
          rw [isError] at error
          rw [contexts_without_error error kind tail, here, held.message_eq]
          exact whole
      | true =>
          rw [isError] at error
          apply contexts_kept now error kind _ tail
          rwa [here, held.message_eq]

end Steps

/-- What the buffers promise in a state: the length is that of the message that the buffer
holds, no event leaves a buffer, and a copied message stays below the contexts added after
it, cut to the room there is. -/
structure KeepsMessages [DecidableEq ι] (fits : (ι → RetError) → ErrorEvent ι → Prop)
    (size : ι → Nat) (errs : ι → RetError) : Prop where
  sized (i : ι) : (errs i).bufferSize = size i
  wellFormed (i : ι) : (errs i).WellFormed
  errMsg (i : ι) (error : (errs i).isError) : (errs i).errMsg.length = (errs i).msgLen
  returns (event : ErrorEvent ι) : fits errs event → (stepErrors errs event).isSome
  copied (i j : ι) (calls : List ErrorCall) (next : ι → RetError) :
    (∀ call ∈ calls, call.isContext) →
    Run (Guard (StepOf stepErrors) fits) errs (.copyFrom i j :: calls.map (.call i)) next →
    Truncation (size i) (if (errs j).isError then withContexts (size i) (errs j).message calls
      else (errs j).message) (next i).message

/-- In a run whose events all fit, the buffers keep their promise. -/
theorem fitting_keepsMessages [DecidableEq ι] {size : ι → Nat} {events : List (ErrorEvent ι)}
    {errs : ι → RetError} (positive : ∀ i, 0 < size i)
    (run : Run (Guard (StepOf stepErrors) FitsErrors) (newErrors size) events errs) :
    KeepsMessages FitsErrors size errs := by
  have holds : HoldsAll size errs :=
    run.invariant (newErrors_holdsAll positive) fun h step => h.step step
  refine
    { sized := holds.sized
      wellFormed := holds.wellFormed
      errMsg := ?_
      returns := ?_
      copied := ?_ }
  · intro i error
    rw [(holds.wellFormed i).errMsg_eq error, (holds.wellFormed i).length_message]
  · intro event fits
    obtain ⟨next, returned, _⟩ := holds.returns fits
    rw [returned]
    rfl
  · intro i j calls next kind run
    exact copied_kept holds kind run

/-- Some error. -/
def someError : ErrorCode := ⟨systemCategory, 22⟩

/-- The texts `"a"`, `"b"` and `"abcd"`. -/
def textA : CString := ⟨[97], by decide⟩
def textB : CString := ⟨[98], by decide⟩
def textABCD : CString := ⟨[97, 98, 99, 100], by decide⟩

/-- Two errors, a copy and a context. -/
def copyEvents : List (ErrorEvent Bool) :=
  [.call true (.setError someError textA), .call false (.setError someError textB),
    .copyFrom true false, .call true (.addContext (some textABCD))]

theorem fitting_keepsMessages_copy :
    ∃ errs, Run (Guard (StepOf stepErrors) FitsErrors) (newErrors fun _ => 8) copyEvents errs ∧
      KeepsMessages FitsErrors (fun _ => 8) errs := by
  have run : ∃ errs, Run (Guard (StepOf stepErrors) FitsErrors) (newErrors fun _ => 8)
      copyEvents errs := by
    refine ⟨_, .cons ⟨rfl, trivial⟩ (.cons ⟨rfl, trivial⟩ (.cons ⟨rfl, ?_⟩
      (.cons ⟨rfl, ?_⟩ (.nil _))))⟩
    · exact ⟨by decide, by decide⟩
    · intro _ _ small
      exact absurd small (by decide)
  obtain ⟨errs, run⟩ := run
  exact ⟨errs, run, fitting_keepsMessages (fun _ => by decide) run⟩

/-- A formatted text as long as the buffer leaves the length at its end, and a copy keeps
the old length, so that a context takes the place of the copied message. -/
theorem unfitting_not_keepsMessages :
    (∃ errs, Run (Guard (StepOf stepErrors) fun _ _ => True) (newErrors fun _ : Unit => 4)
        [.call () (.setErrorf someError textABCD)] errs ∧
      ¬KeepsMessages (fun _ _ => True) (fun _ => 4) errs) ∧
    ∃ errs, Run (Guard (StepOf stepErrors) fun _ _ => True) (newErrors fun _ : Bool => 16)
        [.call false (.setError someError textB)] errs ∧
      ¬KeepsMessages (fun _ _ => True) (fun _ => 16) errs := by
  constructor
  · refine ⟨_, .cons ⟨rfl, trivial⟩ (.nil _), ?_⟩
    intro keeps
    exact absurd (keeps.wellFormed ()).inside (by decide)
  · refine ⟨_, .cons ⟨rfl, trivial⟩ (.nil _), ?_⟩
    intro keeps
    have kept := keeps.copied true false [.addContext (some textA)] _ (by decide)
      (.cons ⟨rfl, trivial⟩ (.cons ⟨rfl, trivial⟩ (.nil _)))
    exact absurd (kept.fills (by decide)) (by decide)

end SpotSdk.Client
