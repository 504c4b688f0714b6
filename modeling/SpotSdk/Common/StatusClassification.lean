import Mathlib.Data.List.Infix
import SpotSdk.Common.RpcErrorCode

/-!
# What a converted status stands for

The conversion of a gRPC status is a list of substring tests, of which the first one that
matches decides, and a default for each gRPC code. One of its tests takes the position
that `find` returns for a truth value.
-/

namespace SpotSdk.Common

/-! ## Where `find` finds a text -/

theorem findFrom_isSome_iff (needle : List Char) (i : Nat) (text : List Char) :
    (findFrom needle i text).isSome = true ↔ needle <:+: text := by
  induction text generalizing i with
  | nil =>
      rw [findFrom, List.infix_nil]
      by_cases empty : needle = []
      · simp [empty]
      · simp [empty]
  | cons c text ih =>
      rw [findFrom, List.infix_cons_iff, ← List.isPrefixOf_iff_prefix, ← ih (i + 1)]
      by_cases here : needle.isPrefixOf (c :: text) = true
      · simp [here]
      · simp [here]

theorem le_of_findFrom {needle text : List Char} {i position : Nat}
    (found : findFrom needle i text = some position) : i ≤ position := by
  induction text generalizing i with
  | nil =>
      rw [findFrom] at found
      split at found
      · exact Nat.le_of_eq (Option.some.inj found)
      · cases found
  | cons c text ih =>
      rw [findFrom] at found
      split at found
      · exact Nat.le_of_eq (Option.some.inj found)
      · exact Nat.le_of_succ_le (ih found)

/-- A text occurs in another, at any position. -/
def Occurs (needle text : String) : Prop :=
  needle.toList <:+: text.toList

instance decidableOccurs (needle text : String) : Decidable (Occurs needle text) :=
  inferInstanceAs (Decidable (needle.toList <:+: text.toList))

/-- A text begins with another. -/
def BeginsWith (text needle : String) : Prop :=
  needle.toList <+: text.toList

theorem contains_iff (text needle : String) : contains text needle = true ↔ Occurs needle text :=
  findFrom_isSome_iff needle.toList 0 text.toList

/-- Position 0 is where a text is found that the other one begins with. -/
theorem find_eq_zero_iff (text needle : String) :
    find text needle = some 0 ↔ BeginsWith text needle := by
  rw [find, BeginsWith]
  cases text.toList with
  | nil =>
      rw [findFrom, List.prefix_nil]
      by_cases empty : needle.toList = []
      · simp [empty]
      · simp [empty]
  | cons c text =>
      rw [findFrom, ← List.isPrefixOf_iff_prefix]
      split
      · rename_i here
        exact ⟨fun _ => here, fun _ => rfl⟩
      · rename_i notHere
        constructor
        · intro found
          exact absurd (le_of_findFrom found) (Nat.not_succ_le_zero 0)
        · intro here
          exact absurd here notHere

/-! ## The substring tests -/

/-- The string that a test is made on. -/
inductive TestedString
  | message
  | details
  deriving DecidableEq, Repr

/-- A substring test: the gRPC codes for which it is made, the string it is made on, the
texts of which one has to occur, and the code that it chooses. -/
structure SubstringTest where
  grpcCodes : List GrpcStatusCode
  tested : TestedString
  needles : List String
  rpcCode : RPCErrorCode

/-- The codes that no test of a code alone decides before the message is looked at. -/
def messageCodes : List GrpcStatusCode :=
  [.unknown, .invalidArgument, .notFound, .alreadyExists, .resourceExhausted,
    .failedPrecondition, .aborted, .outOfRange, .internal, .dataLoss]

def tooLargeMessage : String := "Received message larger than max"

/-- The substring tests in the order in which they are written. -/
def substringTests : List SubstringTest :=
  [⟨[.cancelled], .details, ["401"], .unauthenticatedError⟩,
    ⟨[.cancelled], .details, ["403"], .invalidAppTokenError⟩,
    ⟨[.cancelled], .details, ["404"], .notFoundError⟩,
    ⟨[.cancelled], .details, ["429"], .tooManyRequestsError⟩,
    ⟨[.cancelled], .details, ["502"], .serviceUnavailableError⟩,
    ⟨[.cancelled], .details, ["504"], .timedOutError⟩,
    ⟨[.resourceExhausted], .message, [tooLargeMessage], .responseTooLargeError⟩,
    ⟨[.unavailable], .message, ["Socket closed", "Connection reset by peer"],
      .retryableUnavailableError⟩,
    ⟨[.unavailable], .details, ["502"], .serviceUnavailableError⟩,
    ⟨[.unavailable], .details, ["429"], .tooManyRequestsError⟩,
    ⟨messageCodes, .message, ["is not in peer certificate"], .nonexistentAuthorityError⟩,
    ⟨messageCodes, .message, ["Failed to connect to remote host", "Failed to create subchannel"],
      .proxyConnectionError⟩,
    ⟨messageCodes, .message, ["Exception calling application"],
      .serviceFailedDuringExecutionError⟩,
    ⟨messageCodes, .message, ["Handshake failed"], .invalidClientCertificateError⟩,
    ⟨messageCodes, .message, ["Name resolution failure"], .unknownDnsNameError⟩,
    ⟨messageCodes, .message, ["channel is in state TRANSIENT_FAILURE"], .transientFailureError⟩,
    ⟨messageCodes, .message, ["Connect Failed"], .unableToConnectToRobotError⟩]

/-- The code for a status that no substring test matches. -/
def GrpcStatusCode.rpcCode : GrpcStatusCode → RPCErrorCode
  | .ok => .success
  | .cancelled => .clientCancelledOperationError
  | .deadlineExceeded => .timedOutError
  | .permissionDenied => .permissionDeniedError
  | .unauthenticated => .unauthenticatedError
  | .unavailable => .unableToConnectToRobotError
  | _ => .unimplementedError

def TestedString.of (status : GrpcStatus) : TestedString → String
  | message => status.errorMessage
  | details => status.errorDetails

/-- The test is made for a status, and one of its texts occurs. -/
def SubstringTest.Matches (test : SubstringTest) (status : GrpcStatus) : Prop :=
  status.errorCode ∈ test.grpcCodes ∧
    ∃ needle ∈ test.needles, Occurs needle (test.tested.of status)

/-- The conversion is right for a status: it is a success exactly if the status is ok; it
is `ResponseTooLargeError` exactly for an exhausted resource with the text for that in the
message; a test that matches decides, if none that is written before it does, and without
one the gRPC code does. -/
structure Classified (status : GrpcStatus) : Prop where
  success : (convertGRPCStatus status).ok = true ↔ status.ok = true
  tooLarge : (convertGRPCStatus status).code = RPCErrorCode.responseTooLargeError.code ↔
    status.errorCode = .resourceExhausted ∧ Occurs tooLargeMessage status.errorMessage
  first : ∀ before test after, substringTests = before ++ test :: after →
    test.Matches status → (∀ earlier ∈ before, ¬earlier.Matches status) →
    (convertGRPCStatus status).code = test.rpcCode.code
  otherwise : (∀ test ∈ substringTests, ¬test.Matches status) →
    (convertGRPCStatus status).code = status.errorCode.rpcCode.code

/-! ## The tests as a list -/

namespace SubstringTest

variable {status : GrpcStatus} {test : SubstringTest} {tests before after : List SubstringTest}

/-- `Matches`, as the conversion computes it. -/
def holds (status : GrpcStatus) (test : SubstringTest) : Bool :=
  test.grpcCodes.contains status.errorCode &&
    test.needles.any (contains (test.tested.of status))

theorem holds_iff : test.holds status = true ↔ test.Matches status := by
  simp only [holds, Bool.and_eq_true, List.contains_iff_mem, List.any_eq_true, contains_iff,
    Matches]

/-- The code of the first test that holds, if any does. -/
def firstCode (status : GrpcStatus) : List SubstringTest → RPCErrorCode
  | [] => status.errorCode.rpcCode
  | test :: tests => if test.holds status then test.rpcCode else firstCode status tests

theorem firstCode_of_matches (matched : test.Matches status)
    (first : ∀ earlier ∈ before, ¬earlier.Matches status) :
    firstCode status (before ++ test :: after) = test.rpcCode := by
  induction before with
  | nil => exact if_pos (holds_iff.mpr matched)
  | cons earlier before ih =>
      have other : ¬earlier.holds status = true :=
        fun holds => first earlier List.mem_cons_self (holds_iff.mp holds)
      rw [List.cons_append, firstCode, if_neg other]
      exact ih fun earlier member => first earlier (List.mem_cons_of_mem _ member)

theorem firstCode_otherwise (none : ∀ test ∈ tests, ¬test.Matches status) :
    firstCode status tests = status.errorCode.rpcCode := by
  induction tests with
  | nil => rfl
  | cons test tests ih =>
      have other : ¬test.holds status = true :=
        fun holds => none test List.mem_cons_self (holds_iff.mp holds)
      rw [firstCode, if_neg other]
      exact ih fun later member => none later (List.mem_cons_of_mem _ member)

end SubstringTest

/-- The code that the list of tests chooses. -/
def classifiedCode (status : GrpcStatus) : RPCErrorCode :=
  SubstringTest.firstCode status substringTests

theorem convertCancelled_code (message details : String) :
    (convertCancelled details).1 = classifiedCode ⟨.cancelled, message, details⟩ := by
  simp [classifiedCode, substringTests, SubstringTest.firstCode, SubstringTest.holds,
    messageCodes, TestedString.of, GrpcStatusCode.rpcCode, convertCancelled, apply_ite Prod.fst]

theorem convertUnavailable_code (message details : String) :
    (convertUnavailable message details).1 = classifiedCode ⟨.unavailable, message, details⟩ := by
  simp [classifiedCode, substringTests, SubstringTest.firstCode, SubstringTest.holds,
    messageCodes, TestedString.of, GrpcStatusCode.rpcCode, convertUnavailable, apply_ite Prod.fst]

/-- The message decides for the codes without a test of their own, and for an exhausted
resource unless the response was too large. -/
theorem convertMessage_code {code : GrpcStatusCode} (tested : code ∈ messageCodes)
    (message details : String)
    (notTooLarge : code = .resourceExhausted → contains message tooLargeMessage = false) :
    (convertMessage code message).1 = classifiedCode ⟨code, message, details⟩ := by
  by_cases exhausted : code = .resourceExhausted
  · have other := notTooLarge exhausted
    subst exhausted
    simp [classifiedCode, substringTests, SubstringTest.firstCode, SubstringTest.holds, other,
      messageCodes, TestedString.of, GrpcStatusCode.rpcCode, convertMessage, apply_ite Prod.fst]
  · cases code
    case resourceExhausted => exact absurd rfl exhausted
    case ok | cancelled | deadlineExceeded | permissionDenied | unimplemented | unavailable |
        unauthenticated => exact absurd tested (by decide)
    all_goals
      simp [classifiedCode, substringTests, SubstringTest.firstCode, SubstringTest.holds,
        messageCodes, TestedString.of, GrpcStatusCode.rpcCode, convertMessage, apply_ite Prod.fst]

/-- What is left to the message, when no code decides before. -/
theorem convertFailure_message {code : GrpcStatusCode} (tested : code ∈ messageCodes)
    (message details : String)
    (falls : code = .resourceExhausted → find message tooLargeMessage = some 0) :
    (convertFailure ⟨code, message, details⟩).1 = (convertMessage code message).1 := by
  have otherwise : (convertFailure ⟨code, message, details⟩).1 =
      if message ≠ "" then (convertMessage code message).1 else .unimplementedError := by
    cases code
    case resourceExhausted =>
      have begins := falls rfl
      rw [tooLargeMessage] at begins
      simp [convertFailure, begins, apply_ite Prod.fst]
    case ok | cancelled | deadlineExceeded | permissionDenied | unimplemented | unavailable |
        unauthenticated => exact absurd tested (by decide)
    all_goals simp [convertFailure, apply_ite Prod.fst]
  by_cases empty : message = ""
  · subst empty
    rw [otherwise]
    rfl
  · rw [otherwise, if_pos empty]

/-- The one test that is not made as it is written: where it is made, its text occurs, but
not at position 0. -/
def TooLargeTested (status : GrpcStatus) : Prop :=
  status.errorCode = .resourceExhausted →
    Occurs tooLargeMessage status.errorMessage ∧ ¬BeginsWith status.errorMessage tooLargeMessage

/-- The conversion chooses the code of the first test that matches. -/
theorem convertFailure_code {status : GrpcStatus} (failed : status.errorCode ≠ .ok)
    (tested : TooLargeTested status) :
    (convertFailure status).1 = classifiedCode status := by
  obtain ⟨code, message, details⟩ := status
  cases code
  case ok => exact absurd rfl failed
  case cancelled => exact convertCancelled_code message details
  case unavailable => exact convertUnavailable_code message details
  case deadlineExceeded | permissionDenied | unimplemented | unauthenticated => rfl
  case resourceExhausted =>
    obtain ⟨occurs, later⟩ := tested rfl
    rw [← contains_iff] at occurs
    rw [← find_eq_zero_iff] at later
    simp [classifiedCode, substringTests, SubstringTest.firstCode, SubstringTest.holds,
      TestedString.of, occurs]
    simp [convertFailure, tooLargeMessage] at later ⊢
    simp [later]
  all_goals
    exact (convertFailure_message (by decide) message details (by rintro ⟨⟩)).trans
      (convertMessage_code (by decide) message details (by rintro ⟨⟩))

theorem convertGRPCStatus_code {status : GrpcStatus} (tested : TooLargeTested status) :
    (convertGRPCStatus status).code = (classifiedCode status).code := by
  by_cases ok : status.errorCode = .ok
  · obtain ⟨code, message, details⟩ := status
    subst ok
    rfl
  · have failed : ¬status.ok = true := by
      rw [GrpcStatus.ok, beq_iff_eq]
      exact ok
    rw [convertGRPCStatus, if_neg failed, convertFailure_code ok tested]

/-! ## When the response was too large -/

theorem convertCancelled_ne_tooLarge (details : String) :
    (convertCancelled details).1 ≠ .responseTooLargeError := by
  unfold convertCancelled
  repeat' split
  all_goals simp

theorem convertUnavailable_ne_tooLarge (message details : String) :
    (convertUnavailable message details).1 ≠ .responseTooLargeError := by
  unfold convertUnavailable
  repeat' split
  all_goals simp

theorem convertMessage_ne_tooLarge (code : GrpcStatusCode) (message : String) :
    (convertMessage code message).1 ≠ .responseTooLargeError := by
  unfold convertMessage
  repeat' split
  all_goals simp

/-- The test for a response that was too large is one for a text that the message does not
begin with. -/
theorem convertFailure_tooLarge_iff {status : GrpcStatus} (failed : status.errorCode ≠ .ok) :
    (convertFailure status).1 = .responseTooLargeError ↔
      status.errorCode = .resourceExhausted ∧
        find status.errorMessage tooLargeMessage ≠ some 0 := by
  obtain ⟨code, message, details⟩ := status
  cases code
  case cancelled =>
    constructor
    · intro tooLarge
      exact absurd tooLarge (convertCancelled_ne_tooLarge details)
    · rintro ⟨⟨⟩, _⟩
  case unavailable =>
    constructor
    · intro tooLarge
      exact absurd tooLarge (convertUnavailable_ne_tooLarge message details)
    · rintro ⟨⟨⟩, _⟩
  case deadlineExceeded | permissionDenied | unimplemented | unauthenticated =>
    constructor
    · rintro ⟨⟩
    · rintro ⟨⟨⟩, _⟩
  case resourceExhausted =>
    by_cases begins : find message tooLargeMessage = some 0
    · rw [convertFailure_message (by decide) message details fun _ => begins]
      constructor
      · intro tooLarge
        exact absurd tooLarge (convertMessage_ne_tooLarge _ message)
      · rintro ⟨_, later⟩
        exact absurd begins later
    · constructor
      · intro _
        exact ⟨rfl, begins⟩
      · intro _
        rw [tooLargeMessage] at begins
        simp [convertFailure, begins]
  case ok => exact absurd rfl failed
  all_goals
    rw [convertFailure_message (by decide) message details (by rintro ⟨⟩)]
    constructor
    · intro tooLarge
      exact absurd tooLarge (convertMessage_ne_tooLarge _ message)
    · rintro ⟨⟨⟩, _⟩

theorem tooLarge_code_iff (code : RPCErrorCode) :
    code.code = RPCErrorCode.responseTooLargeError.code ↔ code = .responseTooLargeError := by
  cases code <;> simp [RPCErrorCode.code, RPCErrorCode.number]

theorem convertGRPCStatus_tooLarge_iff (status : GrpcStatus) :
    (convertGRPCStatus status).code = RPCErrorCode.responseTooLargeError.code ↔
      status.errorCode = .resourceExhausted ∧ ¬BeginsWith status.errorMessage tooLargeMessage := by
  rw [convertGRPCStatus, ← find_eq_zero_iff]
  by_cases ok : status.ok = true
  · rw [if_pos ok, tooLarge_code_iff]
    constructor
    · rintro ⟨⟩
    · rintro ⟨exhausted, _⟩
      rw [GrpcStatus.ok, exhausted] at ok
      cases ok
  · rw [if_neg ok, tooLarge_code_iff]
    rw [GrpcStatus.ok, beq_iff_eq] at ok
    exact convertFailure_tooLarge_iff ok

theorem BeginsWith.occurs {text needle : String} (begins : BeginsWith text needle) :
    Occurs needle text :=
  List.IsPrefix.isInfix begins

/-- The conversion is right exactly for the statuses other than those of an exhausted
resource whose message lacks the text for a response that was too large, or begins with
it. -/
theorem classified_iff (status : GrpcStatus) : Classified status ↔ TooLargeTested status := by
  constructor
  · intro classified exhausted
    have tooLarge := (convertGRPCStatus_tooLarge_iff status).symm.trans classified.tooLarge
    simp only [exhausted, true_and] at tooLarge
    have later : ¬BeginsWith status.errorMessage tooLargeMessage :=
      fun begins => tooLarge.mpr begins.occurs begins
    exact ⟨tooLarge.mp later, later⟩
  · intro tested
    have code := convertGRPCStatus_code tested
    constructor
    · rw [convertGRPCStatus_ok]
    · rw [convertGRPCStatus_tooLarge_iff]
      apply and_congr_right
      intro exhausted
      exact ⟨fun _ => (tested exhausted).1, fun _ => (tested exhausted).2⟩
    · intro before test after split matched first
      rw [code, classifiedCode, split, SubstringTest.firstCode_of_matches matched first]
    · intro none
      rw [code, classifiedCode, SubstringTest.firstCode_otherwise none]

/-- An exhausted resource of another kind, and a message that begins with the text. -/
theorem resourceExhausted_not_classified :
    (convertGRPCStatus ⟨.resourceExhausted, "Quota exceeded", ""⟩).code =
        RPCErrorCode.responseTooLargeError.code ∧
      ¬Classified ⟨.resourceExhausted, "Quota exceeded", ""⟩ ∧
      (convertGRPCStatus ⟨.resourceExhausted,
        "Received message larger than max (5242890 vs. 4194304)", ""⟩).code =
        RPCErrorCode.unimplementedError.code ∧
      ¬Classified ⟨.resourceExhausted,
        "Received message larger than max (5242890 vs. 4194304)", ""⟩ := by
  refine ⟨by decide, ?_, by decide, ?_⟩
  · intro classified
    have occurs := ((classified_iff _).mp classified rfl).1
    exact absurd occurs (by decide)
  · intro classified
    have later := ((classified_iff _).mp classified rfl).2
    exact later ((find_eq_zero_iff _ _).mp (by decide))

end SpotSdk.Common
