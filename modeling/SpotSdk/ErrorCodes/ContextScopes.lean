import Mathlib.Data.List.ReduceOption
import Mathlib.Data.List.TakeWhile
import SpotSdk.ErrorCodes.ContextMessages
import SpotSdk.ErrorCodes.ErrorContracts
import SpotSdk.Foundations.ScopedPrograms

/-!
# Contexts of nested scopes

`WithContext`, `WithContextFn` and `WithContextStrFn` add context to an error when the
scope they are in is left. Programs of such scopes, with calls on one buffer and early
returns, do to the buffer what they do to an unbounded text, as far as there is room.
-/

namespace SpotSdk.Client

open SpotSdk.Common SpotSdk.Foundations

/-- The object that a scope begins with: its context, or a function that sets contexts. An
empty function is absent. -/
inductive ContextGuard
  | withContext (context : CString)
  | withContextFn (fn : Option (List (Option CString)))
  | withContextStrFn (fn : Option (List (List UInt8)))

/-- `c_str()`, read up to the first NUL. -/
def cStr (string : List UInt8) : CString :=
  ⟨string.takeWhile (· != 0), fun member => by simpa using List.mem_takeWhile_imp member⟩

/-- The contexts that a guard gives to `AddContext`, in order. -/
def ContextGuard.contexts : ContextGuard → List (Option CString)
  | .withContext context => [some context]
  | .withContextFn fn => fn.getD []
  | .withContextStrFn fn => (fn.getD []).map fun string => some (cStr string)

/-- The destructors. -/
def ContextGuard.leave (err : RetError) (guard : ContextGuard) : Option RetError :=
  if err.isError then guard.contexts.foldlM RetError.addContext err else some err

/-- A program runs on one buffer, and branches on `IsError()`. -/
def errorScopes : ScopeActions RetError ErrorCall ContextGuard where
  call := ErrorCall.run
  leave := ContextGuard.leave
  test := RetError.isError

abbrev ErrorProgram := ScopedProgram ErrorCall ContextGuard

/-! ## The meaning of a program -/

/-- An error with a text of any length. -/
structure TextError where
  code : ErrorCode := noErrorCode
  text : List UInt8 := []

namespace TextError

def isError (err : TextError) : Bool := err.code.value != 0

/-- A context before the text; a null pointer adds none. -/
def addContext (size : Nat) (err : TextError) : Option CString → TextError
  | none => err
  | some context =>
      if err.isError then { err with text := withContext size err.text context.val } else err

def call (size : Nat) (err : TextError) : ErrorCall → TextError
  | .setError code msg => ⟨code, msg.val⟩
  | .setErrorv code text | .setErrorf code text => ⟨code, text.val⟩
  | .setErrorFromErrno errno msg => ⟨RetError.errnoCode errno, msg.val⟩
  | .setErrorFromErrnov errno text | .setErrorFromErrnof errno text =>
      ⟨RetError.errnoCode errno, text.val⟩
  | .addContext context => err.addContext size context
  | .addContextv text | .addContextf text => err.addContext size (some text)
  | .reset => {}

def leave (size : Nat) (err : TextError) (guard : ContextGuard) : TextError :=
  guard.contexts.foldl (addContext size) err

end TextError

/-- What calls and scopes mean for a buffer of this size. -/
def textScopes (size : Nat) : ScopeActions TextError ErrorCall ContextGuard where
  call err call := some (err.call size call)
  leave err guard := some (err.leave size guard)
  test := TextError.isError

/-- The lengths fit an `int`, and formatted texts the buffer. -/
def ErrorCall.FitsSize (size : Nat) : ErrorCall → Prop
  | .setError _ msg | .setErrorFromErrno _ msg => msg.val.length < 2147483648
  | .setErrorv _ text | .setErrorf _ text
  | .setErrorFromErrnov _ text | .setErrorFromErrnof _ text => text.val.length < size
  | .addContext (some context) => context.val.length < 2147483648
  | _ => True

def ContextGuard.FitsInt (guard : ContextGuard) : Prop :=
  ∀ context, some context ∈ guard.contexts → context.val.length < 2147483648

/-- A buffer holds as much of an error's text as it has room for. -/
structure Cut (size : Nat) (err : RetError) (whole : TextError) : Prop where
  sized : err.bufferSize = size
  code : err.code = whole.code
  holds : err.Holds (whole.text.take (size - 1))

section Cuts

variable {size : Nat} {err : RetError} {whole : TextError}

theorem Cut.isError (cut : Cut size err whole) : err.isError = whole.isError := by
  rw [RetError.isError, TextError.isError, cut.code]

/-- What a call leaves, as a cut. -/
theorem Cut.of_leaves {result : Option RetError} (code : ErrorCode) (text : List UInt8)
    (leaves : RetError.Leaves result code size (text.take (size - 1))) :
    ∃ err', result = some err' ∧ Cut size err' ⟨code, text⟩ := by
  obtain ⟨err', returned, code, sized, holds⟩ := leaves
  exact ⟨err', returned, sized, code, holds⟩

theorem truncation_take (size : Nat) (full : List UInt8) :
    Truncation size full (full.take (size - 1)) where
  begins := List.take_prefix _ _
  whole := by
    by_cases short : full.length ≤ size - 1
    · exact .inl (List.take_of_length_le short)
    · exact .inr (by omega)
  fills _ := rfl

theorem lengthAsInt_of_lt {length : Nat} (h : length < 2147483648) :
    lengthAsInt length = length := by
  have same : length % 4294967296 = length := Nat.mod_eq_of_lt (by omega)
  rw [lengthAsInt_of_low (by omega), same]

/-- With room for a separator every call that adds context fits. -/
theorem ErrorCall.fits_of_room (room : RetError.minSize ≤ err.bufferSize) {call : ErrorCall}
    (kind : call.isContext) : call.Fits err := by
  have large : ¬ err.bufferSize < RetError.minSize := Nat.not_lt.mpr room
  cases call with
  | addContext context =>
      cases context with
      | none => trivial
      | some given => exact fun _ _ small => absurd small large
  | addContextv text | addContextf text => exact fun _ small => absurd small large
  | _ => exact absurd kind Bool.false_ne_true

/-- A call that adds this context to an error adds it to the text. -/
theorem Cut.context (room : RetError.minSize ≤ size) (cut : Cut size err whole)
    {call : ErrorCall} {given : CString} (kind : call.isContext)
    (context : call.context = some given.val) :
    ∃ err', call.run err = some err' ∧ Cut size err' (whole.addContext size (some given)) := by
  rw [TextError.addContext, ← cut.isError]
  cases error : err.isError with
  | false => exact ⟨err, ErrorCall.run_eq_of_not_isError kind error, cut⟩
  | true =>
      have fits := ErrorCall.fits_of_room (cut.sized.symm ▸ room) kind
      obtain ⟨text, leaves, longer⟩ := ErrorCall.run_context cut.holds fits error context
      rw [cut.sized, cut.code] at leaves
      rw [cut.sized] at longer
      have kept := (longer _ (truncation_take size whole.text)).fills room
      rw [kept] at leaves
      exact Cut.of_leaves _ _ leaves

theorem Cut.addContext (room : RetError.minSize ≤ size) (cut : Cut size err whole)
    (context : Option CString)
    (fits : ∀ given, context = some given → given.val.length < 2147483648) :
    ∃ err', err.addContext context = some err' ∧ Cut size err' (whole.addContext size context) := by
  cases context with
  | none => exact ⟨err, rfl, cut⟩
  | some given =>
      have length := lengthAsInt_of_lt (fits given rfl)
      apply cut.context room (show (ErrorCall.addContext (some given)).isContext from rfl)
      rw [ErrorCall.context, if_pos (by omega), length, Int.toNat_natCast, List.take_length]

theorem Cut.addContexts (room : RetError.minSize ≤ size) (cut : Cut size err whole)
    {contexts : List (Option CString)}
    (fits : ∀ context, some context ∈ contexts → context.val.length < 2147483648) :
    ∃ err', contexts.foldlM RetError.addContext err = some err' ∧
      Cut size err' (contexts.foldl (TextError.addContext size) whole) := by
  induction contexts generalizing err whole with
  | nil => exact ⟨err, rfl, cut⟩
  | cons context contexts ih =>
      obtain ⟨mid, added, cut'⟩ := cut.addContext room context fun given same =>
        fits given (same ▸ List.mem_cons_self)
      obtain ⟨last, rest, cut''⟩ := ih cut' fun other member =>
        fits other (List.mem_cons_of_mem _ member)
      refine ⟨last, ?_, cut''⟩
      rw [List.foldlM_cons, added]
      exact rest

theorem TextError.addContexts_noError (error : whole.isError = false)
    (contexts : List (Option CString)) : contexts.foldl (addContext size) whole = whole := by
  induction contexts with
  | nil => rfl
  | cons context contexts ih =>
      have same : whole.addContext size context = whole := by
        cases context with
        | none => rfl
        | some given => rw [addContext, error, if_neg Bool.false_ne_true]
      rw [List.foldl_cons, same, ih]

theorem Cut.leave (room : RetError.minSize ≤ size) {guard : ContextGuard} (fits : guard.FitsInt)
    (cut : Cut size err whole) :
    ∃ err', guard.leave err = some err' ∧ Cut size err' (whole.leave size guard) := by
  rw [ContextGuard.leave]
  cases error : err.isError with
  | true =>
      rw [if_pos rfl]
      exact cut.addContexts room fits
  | false =>
      rw [if_neg Bool.false_ne_true, TextError.leave,
        TextError.addContexts_noError (cut.isError ▸ error)]
      exact ⟨err, rfl, cut⟩

/-- A text that is set with its length. -/
theorem Cut.setErrorLen (room : RetError.minSize ≤ size) (sized : err.bufferSize = size)
    (code : ErrorCode) {msg : CString} (fits : msg.val.length < 2147483648) :
    ∃ err', err.setErrorLen code (lengthAsInt msg.val.length) msg = some err' ∧
      Cut size err' ⟨code, msg.val⟩ := by
  have positive : 0 < err.bufferSize := by
    rw [sized]
    exact Nat.lt_of_lt_of_le (by decide) room
  have length := lengthAsInt_of_lt fits
  have count : (min (lengthAsInt msg.val.length) ((err.bufferSize : Int) - 1)).toNat =
      min (size - 1) msg.val.length := by
    rw [length, sized]
    omega
  have leaves : RetError.Leaves (err.setErrorLen code (lengthAsInt msg.val.length) msg) code
      err.bufferSize (msg.val.take (min (lengthAsInt msg.val.length)
        ((err.bufferSize : Int) - 1)).toNat) :=
    RetError.setErrorLen_leaves positive (by omega) (lengthAsInt_le msg.val.length)
  rw [count, List.take_eq_take_min.symm, sized] at leaves
  exact Cut.of_leaves code msg.val leaves

/-- A formatted text that fits the buffer. -/
theorem Cut.setErrorv (sized : err.bufferSize = size) (code : ErrorCode) {text : CString}
    (fits : text.val.length < size) :
    ∃ err', err.setErrorv code text = some err' ∧ Cut size err' ⟨code, text.val⟩ := by
  have leaves : RetError.Leaves (err.setErrorv code text) code err.bufferSize text.val :=
    RetError.setErrorv_leaves (by rwa [sized])
  have all : text.val.take (size - 1) = text.val := List.take_of_length_le (by omega)
  rw [sized, ← all] at leaves
  exact Cut.of_leaves code text.val leaves

theorem Cut.call (room : RetError.minSize ≤ size) {call : ErrorCall} (fits : call.FitsSize size)
    (cut : Cut size err whole) :
    ∃ err', call.run err = some err' ∧ Cut size err' (whole.call size call) := by
  cases call with
  | setError code msg => exact Cut.setErrorLen room cut.sized code fits
  | setErrorFromErrno errno msg => exact Cut.setErrorLen room cut.sized _ fits
  | setErrorv code text | setErrorf code text
  | setErrorFromErrnov errno text | setErrorFromErrnof errno text =>
      exact Cut.setErrorv cut.sized _ fits
  | addContext context =>
      apply cut.addContext room
      rintro given rfl
      exact fits
  | addContextv text | addContextf text => exact cut.context room rfl rfl
  | reset =>
      have positive : 0 < err.bufferSize := cut.sized.symm ▸ Nat.lt_of_lt_of_le (by decide) room
      have leaves := RetError.reset_leaves positive
      have none : List.take (size - 1) ([] : List UInt8) = [] := List.take_nil
      rw [cut.sized, ← none] at leaves
      exact Cut.of_leaves noErrorCode [] leaves

end Cuts

theorem errorScopes_follows {size : Nat} (room : RetError.minSize ≤ size) :
    errorScopes.Follows (textScopes size) (Cut size) (ErrorCall.FitsSize size)
      ContextGuard.FitsInt where
  test cut := cut.isError
  call := by
    rintro err whole call _ cut fits ⟨⟩
    exact cut.call room fits
  leave := by
    rintro err whole guard _ cut fits ⟨⟩
    exact cut.leave room fits

/-! ## What unwinding adds -/

/-- The code and the text that a call sets. -/
def ErrorCall.sets : ErrorCall → Option (ErrorCode × CString)
  | .setError code msg => some (code, msg)
  | .setErrorv code text | .setErrorf code text => some (code, text)
  | .setErrorFromErrno errno msg => some (RetError.errnoCode errno, msg)
  | .setErrorFromErrnov errno text | .setErrorFromErrnof errno text =>
      some (RetError.errnoCode errno, text)
  | _ => none

theorem TextError.call_sets {size : Nat} {whole : TextError} {call : ErrorCall} {code : ErrorCode}
    {text : CString} (sets : call.sets = some (code, text)) :
    whole.call size call = ⟨code, text.val⟩ := by
  cases call with
  | addContext context => exact absurd sets.symm (Option.some_ne_none _)
  | addContextv text | addContextf text => exact absurd sets.symm (Option.some_ne_none _)
  | reset => exact absurd sets.symm (Option.some_ne_none _)
  | _ =>
      obtain ⟨rfl, rfl⟩ := Prod.mk.inj (Option.some.inj sets)
      rfl

/-- Contexts that are added to an error come before its text, the last one in front. -/
theorem TextError.addContexts_eq {size : Nat} (room : RetError.minSize ≤ size)
    (contexts : List (Option CString)) {whole : TextError} (error : whole.isError) :
    contexts.foldl (addContext size) whole =
      { whole with text := outermostFirst size contexts.reduceOption ++ whole.text } := by
  induction contexts generalizing whole with
  | nil => rfl
  | cons context contexts ih =>
      cases context with
      | none => exact ih error
      | some given =>
          have added : whole.addContext size (some given) =
              ⟨whole.code, withContext size whole.text given.val⟩ := if_pos error
          have still : (whole.addContext size (some given)).isError := by
            rw [added]
            exact error
          have large : ¬ size < RetError.minSize := Nat.not_lt.mpr room
          rw [List.foldl_cons, ih still, added, List.reduceOption_cons_of_some,
            outermostFirst_cons, withContext, if_neg large]
          simp only [List.append_assoc]

/-- Guards that are left one after the other add their contexts in this order. -/
theorem textScopes_leaves (size : Nat) (guards : List ContextGuard) (whole : TextError) :
    guards.foldlM (textScopes size).leave whole =
      some ((guards.flatMap ContextGuard.contexts).foldl (TextError.addContext size) whole) := by
  induction guards generalizing whole with
  | nil => rfl
  | cons guard guards ih =>
      rw [List.flatMap_cons, List.foldl_append]
      exact ih _

/-- What a program with scopes leaves in a buffer: it returns and marks what it would over a
text without a bound, in which each context is cut so that its separator fits, and the message
is that text, cut to the room there is. Where only scopes are left after an error is set, the
contexts of all scopes open then come before its text, the outermost in front. -/
structure NestsScopes (size : Nat) (program : ErrorProgram) : Prop where
  returns : (program.run errorScopes (retErrorBuf size)).isSome
  texts (o : ScopeOutcome RetError ErrorCall ContextGuard) :
    program.run errorScopes (retErrorBuf size) = some o →
      o.state.WellFormed ∧ ∃ whole, program.run (textScopes size) {} = some whole ∧
        o.Alike (Cut size) whole
  unwinds (o : ScopeOutcome RetError ErrorCall ContextGuard)
    (pre post : List (ScopeMark ErrorCall ContextGuard)) (call : ErrorCall) (code : ErrorCode)
    (text : CString) :
    program.run errorScopes (retErrorBuf size) = some o → o.marks = pre ++ .made call :: post →
      (∀ mark ∈ post, mark.isClosed) → call.sets = some (code, text) → code.value ≠ 0 →
        o.state.code = code ∧ o.state.message =
          (outermostFirst size
            ((openAfter [] pre).flatMap ContextGuard.contexts).reduceOption ++ text.val).take
              (size - 1)

section Programs

variable {size : Nat} {program : ErrorProgram} {o : ScopeOutcome RetError ErrorCall ContextGuard}

theorem cut_retErrorBuf (room : RetError.minSize ≤ size) : Cut size (retErrorBuf size) {} where
  sized := List.length_replicate
  code := rfl
  holds := by
    rw [List.take_nil]
    exact RetError.retErrorBuf_holds (Nat.lt_of_lt_of_le (by decide) room)

theorem textScopes_run (size : Nat) (program : ErrorProgram) :
    ∃ whole, program.run (textScopes size) {} = some whole :=
  Option.isSome_iff_exists.mp
    (program.run_isSome (fun _ _ => rfl) (fun _ _ => rfl) ({} : TextError))

theorem textScopes_unwinds (room : RetError.minSize ≤ size)
    {whole : ScopeOutcome TextError ErrorCall ContextGuard}
    (ran : program.run (textScopes size) {} = some whole)
    {pre post : List (ScopeMark ErrorCall ContextGuard)} {call : ErrorCall} {code : ErrorCode}
    {text : CString} (marks : whole.marks = pre ++ .made call :: post)
    (closings : ∀ mark ∈ post, mark.isClosed) (sets : call.sets = some (code, text))
    (error : code.value ≠ 0) :
    whole.state = ⟨code, outermostFirst size
      ((openAfter [] pre).flatMap ContextGuard.contexts).reduceOption ++ text.val⟩ := by
  obtain ⟨balances, leads⟩ := ScopedProgram.marks_of_run ran
  have split : whole.marks = (pre ++ [.made call]) ++ post := by
    rw [marks, List.append_assoc]
    rfl
  rw [split] at balances
  have closed := balances.closings closings
  rw [openAfter_append] at closed
  rw [marks, closed, replay_append] at leads
  obtain ⟨before, _, after⟩ := Option.bind_eq_some_iff.mp leads
  have set : (textScopes size).call before call = some ⟨code, text.val⟩ :=
    congrArg some (TextError.call_sets sets)
  rw [replay, set, Option.bind_some, replay_closings, textScopes_leaves,
    TextError.addContexts_eq room _ (bne_iff_ne.mpr error)] at after
  exact (Option.some.inj after).symm

/-- In a buffer with room for a separator, every program of calls whose lengths fit nests the
contexts of its scopes. -/
theorem scopes_nest (room : RetError.minSize ≤ size)
    (fits : program.All (ErrorCall.FitsSize size) ContextGuard.FitsInt) :
    NestsScopes size program := by
  obtain ⟨whole, ranText⟩ := textScopes_run size program
  obtain ⟨o, ran, alike⟩ := (errorScopes_follows room).run fits (cut_retErrorBuf room) ranText
  constructor
  · rw [ran]
    rfl
  · intro o' ran'
    obtain rfl : o = o' := Option.some.inj (ran.symm.trans ran')
    exact ⟨alike.state.holds.wellFormed, whole, ranText, alike⟩
  · intro o' pre post call code text ran' marks closings sets error
    obtain rfl : o = o' := Option.some.inj (ran.symm.trans ran')
    have unwound := textScopes_unwinds room ranText (alike.marks ▸ marks) closings sets error
    have code := alike.state.code
    have message := alike.state.holds.message_eq
    rw [unwound] at code message
    exact ⟨code, message⟩

end Programs

/-- A function that sets an error in a scope of its own and returns before it resets it, called
in the scope of a caller that returns on an error. -/
def nestedScopes : ErrorProgram :=
  .scope (.withContext textA)
    (.seq
      (.function
        (.scope (.withContextFn (some [none, some textB]))
          (.seq (.call (.setErrorf someError textABCD)) (.seq .ret (.call .reset)))))
      (.branch .ret (.call (.setError someError textB))))

theorem nestedScopes_fits : nestedScopes.All (ErrorCall.FitsSize 16) ContextGuard.FitsInt := by
  refine ⟨?_, ⟨?_, ⟨?_, trivial, trivial⟩⟩, trivial, ?_⟩
  · intro context member
    obtain rfl := Option.some.inj (List.mem_singleton.mp member)
    decide
  · intro context member
    have last : some context ∈ [some textB] :=
      (List.mem_cons.mp member).resolve_left (Option.some_ne_none context)
    obtain rfl := Option.some.inj (List.mem_singleton.mp last)
    decide
  · change textABCD.val.length < 16
    decide
  · change textB.val.length < 2147483648
    decide

theorem scopes_nest_return : RetError.minSize ≤ 16 ∧
    nestedScopes.All (ErrorCall.FitsSize 16) ContextGuard.FitsInt ∧
      NestsScopes 16 nestedScopes :=
  ⟨by decide, nestedScopes_fits, scopes_nest (by decide) nestedScopes_fits⟩

end SpotSdk.Client
