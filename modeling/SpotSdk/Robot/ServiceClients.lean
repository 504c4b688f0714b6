import Mathlib.Logic.Function.Basic
import SpotSdk.Common.Status
import SpotSdk.Foundations.LabelledRuns

/-!
# The service clients of a robot

Any number of threads call `EnsureServiceClient`. A call looks for a client in the map
first, and only if it finds none takes the mutex under which it makes one and adds it.
The mutex is recursive: making a client may call `EnsureServiceClient` again, for the
directory client.

## Implementation notes

All clients being made are the work of the one thread that holds the mutex, so they form
one stack. Clients are numbered in the order they are made.
-/

namespace SpotSdk.Client

open Foundations Common

variable {ι : Type} [DecidableEq ι]

def clientCreationErrorCategory : ErrorCategory := ⟨"ClientCreationErrorCode", [0]⟩

/-- `ClientCreationErrorCode::Success`. -/
def clientCreated : Status := ⟨⟨clientCreationErrorCategory, 0⟩, ""⟩

/-- `ClientCreationErrorCode::IncorrectServiceType`, with the message of the cached client. -/
def incorrectServiceType (serviceName cachedType expectedType : String) : Status :=
  ⟨⟨clientCreationErrorCategory, 1⟩, "Cached service client for " ++ serviceName ++
    " has service type " ++ cachedType ++ ". The expected type is: " ++ expectedType⟩

structure CachedServiceClient where
  serviceType : String
  serviceClient : Nat
  deriving DecidableEq, Repr

/-- A client that is being made for a call. -/
structure ClientSetup where
  serviceName : String
  serviceType : String
  client : Nat
  deriving DecidableEq, Repr

/-- A call that has returned. -/
structure EnsuredClient where
  serviceName : String
  serviceType : String
  result : Result (Option Nat)
  deriving DecidableEq, Repr

/-- The clients of a robot. `missed` are the calls that have found no client and have yet
to take the mutex. -/
structure ServiceClients (ι : Type) where
  serviceClientMap : String → Option CachedServiceClient := fun _ => none
  missed : ι → Option (String × String) := fun _ => none
  owner : Option ι := none
  setups : List ClientSetup := []
  made : Nat := 0
  destroyed : List Nat := []
  returned : List EnsuredClient := []

inductive EnsureStep (ι : Type)
  | lookup (thread : ι) (serviceName serviceType : String)
  | create (thread : ι)
  | setupEnds (thread : ι) (status : Status)

namespace ServiceClients

/-- A call returns. -/
def returns (s : ServiceClients ι) (serviceName serviceType : String)
    (result : Result (Option Nat)) : ServiceClients ι :=
  { s with returned := s.returned ++ [⟨serviceName, serviceType, result⟩] }

/-- Use an existing client if one exists. -/
def lookup (s : ServiceClients ι) (thread : ι) (serviceName serviceType : String) :
    ServiceClients ι :=
  match s.serviceClientMap serviceName with
  | none =>
      { s with missed := Function.update s.missed thread (some (serviceName, serviceType)) }
  | some cached =>
      if serviceType ≠ cached.serviceType then
        s.returns serviceName serviceType
          ⟨incorrectServiceType serviceName cached.serviceType serviceType, none⟩
      else s.returns serviceName serviceType ⟨clientCreated, some cached.serviceClient⟩

/-- The client that an assignment to the map entry destroys. -/
def replaced (s : ServiceClients ι) (serviceName : String) : List Nat :=
  ((s.serviceClientMap serviceName).map CachedServiceClient.serviceClient).toList

/-- `SetupClient` has returned: add the client to the map, or drop it. -/
def setupEnds (s : ServiceClients ι) (setup : ClientSetup) (status : Status) :
    ServiceClients ι :=
  if status.ok then
    { s with
      serviceClientMap := Function.update s.serviceClientMap setup.serviceName
        (some ⟨setup.serviceType, setup.client⟩)
      destroyed := s.destroyed ++ s.replaced setup.serviceName }.returns
      setup.serviceName setup.serviceType ⟨status, some setup.client⟩
  else
    { s with destroyed := s.destroyed ++ [setup.client] }.returns
      setup.serviceName setup.serviceType ⟨status, none⟩

def step (s : ServiceClients ι) : EnsureStep ι → Option (ServiceClients ι)
  | .lookup thread serviceName serviceType =>
      if s.missed thread = none then some (s.lookup thread serviceName serviceType) else none
  -- the mutex is taken by its owner again, or when it is free
  | .create thread =>
      match s.missed thread with
      | none => none
      | some (serviceName, serviceType) =>
          if s.owner = none ∨ s.owner = some thread then
            some { s with
              missed := Function.update s.missed thread none
              owner := some thread
              setups := ⟨serviceName, serviceType, s.made⟩ :: s.setups
              made := s.made + 1 }
          else none
  | .setupEnds thread status =>
      match s.setups with
      | [] => none
      | setup :: setups =>
          if s.owner = some thread ∧ s.missed thread = none then
            some { s.setupEnds setup status with
              setups := setups
              owner := if setups.isEmpty then none else some thread }
          else none

end ServiceClients

/-- The calls that returned a success for one service name and type returned one client,
and no client that was returned is destroyed. -/
structure Ensured (s : ServiceClients ι) : Prop where
  same : ∀ a ∈ s.returned, ∀ b ∈ s.returned, a.result.status.ok = true →
    b.result.status.ok = true → a.serviceName = b.serviceName → a.serviceType = b.serviceType →
    a.result.response = b.result.response
  alive : ∀ a ∈ s.returned, a.result.status.ok = true →
    ∃ client, a.result.response = some client ∧ client ∉ s.destroyed

/-- A client that was made is added under a name that the map does not have. -/
def AddsFresh (s : ServiceClients ι) : EnsureStep ι → Prop
  | .setupEnds _ status => ∀ setup ∈ s.setups.head?, status.ok = true →
      s.serviceClientMap setup.serviceName = none
  | _ => True

/-- What holds of the clients in every run: one that is being made is new, and one that is
cached was returned. -/
structure Tracked (s : ServiceClients ι) : Prop where
  setups : ∀ setup ∈ s.setups, setup.client < s.made ∧ setup.client ∉ s.destroyed ∧
    ∀ a ∈ s.returned, a.result.response ≠ some setup.client
  distinct : (s.setups.map (·.client)).Nodup
  destroyed : ∀ client ∈ s.destroyed, client < s.made
  returned : ∀ a ∈ s.returned, ∀ client, a.result.response = some client → client < s.made
  cached : ∀ serviceName cached, s.serviceClientMap serviceName = some cached →
    ∃ a ∈ s.returned, a.serviceName = serviceName ∧ a.serviceType = cached.serviceType ∧
      a.result.status.ok = true ∧ a.result.response = some cached.serviceClient

/-- The client of every success is the one in the map, and alive. -/
def Cached (s : ServiceClients ι) : Prop :=
  ∀ a ∈ s.returned, a.result.status.ok = true → ∃ client, a.result.response = some client ∧
    client ∉ s.destroyed ∧ s.serviceClientMap a.serviceName = some ⟨a.serviceType, client⟩

/-- A client that was returned is destroyed. -/
def Dangling (s : ServiceClients ι) : Prop :=
  ∃ a ∈ s.returned, a.result.status.ok = true ∧
    ∃ client ∈ s.destroyed, a.result.response = some client

section Lemmas

variable {s t : ServiceClients ι} {thread : ι} {serviceName serviceType : String}

omit [DecidableEq ι] in
theorem Cached.ensured (h : Cached s) : Ensured s := by
  constructor
  · intro a ha b hb aOk bOk name type
    obtain ⟨client, response, _, entry⟩ := h a ha aOk
    obtain ⟨client', response', _, entry'⟩ := h b hb bOk
    rw [name, entry'] at entry
    obtain ⟨_, rfl⟩ := CachedServiceClient.mk.inj (Option.some.inj entry)
    rw [response, response']
  · intro a ha ok
    obtain ⟨client, response, alive, _⟩ := h a ha ok
    exact ⟨client, response, alive⟩

omit [DecidableEq ι] in
theorem Dangling.not_ensured (h : Dangling s) : ¬Ensured s := by
  rintro ensured
  obtain ⟨a, ha, ok, client, gone, response⟩ := h
  obtain ⟨client', response', alive⟩ := ensured.alive a ha ok
  rw [response] at response'
  exact alive (Option.some.inj response' ▸ gone)

theorem incorrectServiceType_ok (serviceName cachedType expectedType : String) :
    (incorrectServiceType serviceName cachedType expectedType).ok = false := by
  simp [Status.ok, incorrectServiceType, clientCreationErrorCategory]

/-- What a lookup does: it remembers the call, or returns the cached client or an error. -/
theorem lookup_cases (s : ServiceClients ι) (thread : ι) (serviceName serviceType : String) :
    (s.serviceClientMap serviceName = none ∧ s.lookup thread serviceName serviceType =
      { s with missed := Function.update s.missed thread (some (serviceName, serviceType)) }) ∨
    (∃ status, status.ok = false ∧ s.lookup thread serviceName serviceType =
      s.returns serviceName serviceType ⟨status, none⟩) ∨
    ∃ client, s.serviceClientMap serviceName = some ⟨serviceType, client⟩ ∧
      s.lookup thread serviceName serviceType =
        s.returns serviceName serviceType ⟨clientCreated, some client⟩ := by
  cases h : s.serviceClientMap serviceName with
  | none => exact .inl ⟨rfl, by simp [ServiceClients.lookup, h]⟩
  | some cached =>
      by_cases same : serviceType = cached.serviceType
      · subst same
        exact .inr (.inr ⟨cached.serviceClient, rfl, by simp [ServiceClients.lookup, h]⟩)
      · exact .inr (.inl ⟨_, incorrectServiceType_ok serviceName cached.serviceType serviceType,
          by simp [ServiceClients.lookup, h, same]⟩)

/-- The three things a step can do, with the state it leads to. -/
theorem step_cases {e : EnsureStep ι} (next : s.step e = some t) :
    (∃ thread serviceName serviceType, e = .lookup thread serviceName serviceType ∧
      t = s.lookup thread serviceName serviceType) ∨
    (∃ thread serviceName serviceType, e = .create thread ∧
      t = { s with
        missed := Function.update s.missed thread none
        owner := some thread
        setups := ⟨serviceName, serviceType, s.made⟩ :: s.setups
        made := s.made + 1 }) ∨
    ∃ thread status setup setups, e = .setupEnds thread status ∧ s.setups = setup :: setups ∧
      t = { s.setupEnds setup status with
        setups := setups, owner := if setups.isEmpty then none else some thread } := by
  cases e with
  | lookup thread serviceName serviceType =>
      simp only [ServiceClients.step] at next
      split at next
      · exact .inl ⟨_, _, _, rfl, (Option.some.inj next).symm⟩
      · simp at next
  | create thread =>
      simp only [ServiceClients.step] at next
      split at next
      · simp at next
      · split at next
        · exact .inr (.inl ⟨_, _, _, rfl, (Option.some.inj next).symm⟩)
        · simp at next
  | setupEnds thread status =>
      simp only [ServiceClients.step] at next
      split at next
      · simp at next
      · rename_i setup setups here
        split at next
        · exact .inr (.inr ⟨_, _, _, _, rfl, here, (Option.some.inj next).symm⟩)
        · simp at next

omit [DecidableEq ι] in
/-- The end of a setup does not look at the stack. -/
theorem setupEnds_pop (s : ServiceClients ι) (setup : ClientSetup) (status : Status)
    (setups : List ClientSetup) (owner : Option ι) :
    { s.setupEnds setup status with setups := setups, owner := owner } =
      { s with setups := setups, owner := owner }.setupEnds setup status := by
  simp only [ServiceClients.setupEnds]
  split <;> rfl

end Lemmas

namespace Tracked

variable {s t : ServiceClients ι}

omit [DecidableEq ι] in
theorem start : Tracked ({} : ServiceClients ι) :=
  ⟨fun _ h => absurd h List.not_mem_nil, List.nodup_nil, fun _ h => absurd h List.not_mem_nil,
    fun _ h => absurd h List.not_mem_nil, fun _ _ h => by simp at h⟩

omit [DecidableEq ι] in
/-- A call may return a client that was made and is not being made. -/
theorem returns (h : Tracked s) {serviceName serviceType : String} {result : Result (Option Nat)}
    (known : ∀ client, result.response = some client →
      client < s.made ∧ ∀ setup ∈ s.setups, setup.client ≠ client) :
    Tracked (s.returns serviceName serviceType result) := by
  refine ⟨?_, h.distinct, h.destroyed, ?_, ?_⟩
  · intro setup member
    obtain ⟨made, alive, unreturned⟩ := h.setups setup member
    refine ⟨made, alive, ?_⟩
    intro a ha
    rcases List.mem_append.mp ha with before | last
    · exact unreturned a before
    · obtain rfl := List.mem_singleton.mp last
      intro response
      exact (known _ response).2 setup member rfl
  · intro a ha client response
    rcases List.mem_append.mp ha with before | last
    · exact h.returned a before client response
    · obtain rfl := List.mem_singleton.mp last
      exact (known client response).1
  · intro name cached entry
    obtain ⟨a, ha, rest⟩ := h.cached name cached entry
    exact ⟨a, List.mem_append_left _ ha, rest⟩

omit [DecidableEq ι] in
/-- A cached client was made, and is not being made. -/
theorem cached_known (h : Tracked s) {serviceName : String} {cached : CachedServiceClient}
    (entry : s.serviceClientMap serviceName = some cached) :
    cached.serviceClient < s.made ∧ ∀ setup ∈ s.setups, setup.client ≠ cached.serviceClient := by
  obtain ⟨a, ha, _, _, _, response⟩ := h.cached serviceName cached entry
  refine ⟨h.returned a ha _ response, ?_⟩
  intro setup member same
  exact (h.setups setup member).2.2 a ha (same ▸ response)

theorem lookup (h : Tracked s) (thread : ι) (serviceName serviceType : String) :
    Tracked (s.lookup thread serviceName serviceType) := by
  rcases lookup_cases s thread serviceName serviceType with
    ⟨_, same⟩ | ⟨status, _, same⟩ | ⟨client, entry, same⟩
  · rw [same]
    exact ⟨h.setups, h.distinct, h.destroyed, h.returned, h.cached⟩
  · rw [same]
    exact h.returns (by simp)
  · rw [same]
    apply h.returns
    intro _ response
    obtain rfl := Option.some.inj response
    exact h.cached_known entry

omit [DecidableEq ι] in
theorem create (h : Tracked s) (missed : ι → Option (String × String)) (owner : Option ι)
    (serviceName serviceType : String) :
    Tracked { s with
      missed := missed, owner := owner
      setups := ⟨serviceName, serviceType, s.made⟩ :: s.setups, made := s.made + 1 } := by
  refine ⟨?_, ?_, ?_, ?_, h.cached⟩
  · intro setup member
    rcases List.mem_cons.mp member with rfl | before
    · refine ⟨Nat.lt_succ_self _, ?_, ?_⟩
      · intro gone
        exact absurd (h.destroyed _ gone) (Nat.lt_irrefl _)
      · intro a ha response
        exact absurd (h.returned a ha _ response) (Nat.lt_irrefl _)
    · obtain ⟨made, rest⟩ := h.setups setup before
      exact ⟨Nat.lt_succ_of_lt made, rest⟩
  · rw [List.map_cons, List.nodup_cons]
    refine ⟨?_, h.distinct⟩
    intro member
    obtain ⟨setup, before, same⟩ := List.mem_map.mp member
    have made := (h.setups setup before).1
    rw [same] at made
    exact absurd made (Nat.lt_irrefl _)
  · exact fun client gone => Nat.lt_succ_of_lt (h.destroyed client gone)
  · exact fun a ha client response => Nat.lt_succ_of_lt (h.returned a ha client response)

omit [DecidableEq ι] in
/-- The client on top of the stack leaves it. -/
theorem pop (h : Tracked s) {setup : ClientSetup} {setups : List ClientSetup}
    (here : s.setups = setup :: setups) (owner : Option ι) :
    Tracked { s with setups := setups, owner := owner } ∧
      setup.client < s.made ∧ ∀ other ∈ setups, other.client ≠ setup.client := by
  have distinct := h.distinct
  rw [here, List.map_cons, List.nodup_cons] at distinct
  refine ⟨⟨?_, distinct.2, h.destroyed, h.returned, h.cached⟩, ?_, ?_⟩
  · intro other member
    exact h.setups other (by rw [here]; exact List.mem_cons_of_mem _ member)
  · exact (h.setups setup (by rw [here]; exact List.mem_cons_self)).1
  · intro other member same
    exact distinct.1 (List.mem_map.mpr ⟨other, member, same⟩)

omit [DecidableEq ι] in
/-- Clients that were made and are not being made may be destroyed. -/
theorem destroy (h : Tracked s) {gone : List Nat}
    (known : ∀ client ∈ gone, client < s.made ∧ ∀ setup ∈ s.setups, setup.client ≠ client) :
    Tracked { s with destroyed := s.destroyed ++ gone } := by
  refine ⟨?_, h.distinct, ?_, h.returned, h.cached⟩
  · intro setup member
    obtain ⟨made, alive, unreturned⟩ := h.setups setup member
    refine ⟨made, ?_, unreturned⟩
    intro destroyed
    rcases List.mem_append.mp destroyed with before | now
    · exact alive before
    · exact (known _ now).2 setup member rfl
  · intro client destroyed
    rcases List.mem_append.mp destroyed with before | now
    · exact h.destroyed client before
    · exact (known client now).1

omit [DecidableEq ι] in
theorem setupEnds (h : Tracked s) {setup : ClientSetup} (made : setup.client < s.made)
    (new : ∀ other ∈ s.setups, other.client ≠ setup.client) (status : Status) :
    Tracked (s.setupEnds setup status) := by
  rw [ServiceClients.setupEnds]
  split
  · rename_i ok
    have old : ∀ client ∈ s.replaced setup.serviceName,
        client < s.made ∧ ∀ setup ∈ s.setups, setup.client ≠ client := by
      intro client member
      obtain ⟨cached, entry, rfl⟩ := Option.map_eq_some_iff.mp (Option.mem_toList.mp member)
      exact h.cached_known entry
    have ended : Tracked ({ s with
        destroyed := s.destroyed ++ s.replaced setup.serviceName }.returns setup.serviceName
          setup.serviceType ⟨status, some setup.client⟩) := by
      apply (h.destroy old).returns
      intro client response
      obtain rfl := Option.some.inj response
      exact ⟨made, new⟩
    refine ⟨ended.setups, ended.distinct, ended.destroyed, ended.returned, ?_⟩
    intro name cached entry
    by_cases same : name = setup.serviceName
    · subst same
      obtain rfl : ⟨setup.serviceType, setup.client⟩ = cached := by
        simpa [ServiceClients.returns] using entry
      exact ⟨_, List.mem_append_right _ (List.mem_singleton_self _), rfl, rfl, ok, rfl⟩
    · exact ended.cached name cached (by simpa [ServiceClients.returns, same] using entry)
  · apply (h.destroy _).returns
    · simp
    · intro client member
      obtain rfl := List.mem_singleton.mp member
      exact ⟨made, new⟩

theorem step (h : Tracked s) {e : EnsureStep ι} (next : StepOf ServiceClients.step s e t) :
    Tracked t := by
  rcases step_cases next with ⟨thread, serviceName, serviceType, rfl, rfl⟩ |
    ⟨thread, serviceName, serviceType, rfl, rfl⟩ | ⟨thread, status, setup, setups, rfl, here, rfl⟩
  · exact h.lookup thread serviceName serviceType
  · exact h.create _ _ serviceName serviceType
  · obtain ⟨popped, made, new⟩ := h.pop here (if setups.isEmpty then none else some thread)
    rw [setupEnds_pop]
    exact popped.setupEnds made new status

end Tracked

section Runs

variable {s t u : ServiceClients ι} {es : List (EnsureStep ι)}

omit [DecidableEq ι] in
/-- A call may return an error, or the client in the map. -/
theorem Cached.returns (h : Cached s) {serviceName serviceType : String}
    {result : Result (Option Nat)} (entry : result.status.ok = true → ∃ client,
      result.response = some client ∧ client ∉ s.destroyed ∧
      s.serviceClientMap serviceName = some ⟨serviceType, client⟩) :
    Cached (s.returns serviceName serviceType result) := by
  intro a ha ok
  rcases List.mem_append.mp ha with before | last
  · exact h a before ok
  · obtain rfl := List.mem_singleton.mp last
    exact entry ok

/-- Adding clients under fresh names keeps every client that was returned. -/
theorem Cached.step (h : Cached s) (tracked : Tracked s) {e : EnsureStep ι}
    (next : Guard (StepOf ServiceClients.step) AddsFresh s e t) : Cached t := by
  obtain ⟨next, fresh⟩ := next
  rcases step_cases next with ⟨thread, serviceName, serviceType, rfl, rfl⟩ |
    ⟨thread, serviceName, serviceType, rfl, rfl⟩ | ⟨thread, status, setup, setups, rfl, here, rfl⟩
  · rcases lookup_cases s thread serviceName serviceType with
      ⟨_, same⟩ | ⟨status, failed, same⟩ | ⟨client, entry, same⟩
    · rw [same]
      exact h
    · rw [same]
      apply h.returns
      intro ok
      rw [failed] at ok
      simp at ok
    · rw [same]
      apply h.returns
      intro _
      obtain ⟨a, ha, name, type, ok, response⟩ := tracked.cached _ _ entry
      obtain ⟨client', response', alive, _⟩ := h a ha ok
      rw [response] at response'
      obtain rfl := Option.some.inj response'
      exact ⟨_, rfl, alive, entry⟩
  · exact h
  · have top := tracked.setups setup (by rw [here]; exact List.mem_cons_self)
    rw [setupEnds_pop, ServiceClients.setupEnds]
    cases ok : status.ok with
    | true =>
        have free : s.serviceClientMap setup.serviceName = none :=
          fresh setup (by rw [here]; rfl) ok
        have kept : s.replaced setup.serviceName = [] := by
          rw [ServiceClients.replaced, free]
          rfl
        rw [if_pos rfl]
        apply Cached.returns
        · intro a ha aOk
          obtain ⟨client, response, alive, entry⟩ := h a ha aOk
          have other : a.serviceName ≠ setup.serviceName := by
            intro same
            rw [same, free] at entry
            simp at entry
          refine ⟨client, response, ?_, by simpa [other] using entry⟩
          simpa [ServiceClients.replaced, free] using alive
        · intro _
          refine ⟨setup.client, rfl, ?_, by simp⟩
          simpa [ServiceClients.replaced, free] using top.2.1
    | false =>
        rw [if_neg Bool.false_ne_true]
        apply Cached.returns
        · intro a ha aOk
          obtain ⟨client, response, alive, entry⟩ := h a ha aOk
          refine ⟨client, response, ?_, entry⟩
          rintro gone
          rcases List.mem_append.mp gone with before | now
          · exact alive before
          · obtain rfl := List.mem_singleton.mp now
            exact top.2.2 a ha response
        · intro impossible
          rw [ok] at impossible
          simp at impossible

/-- No step forgets what was returned or destroyed. -/
theorem step_grows {e : EnsureStep ι} (next : StepOf ServiceClients.step s e t) :
    (∀ a ∈ s.returned, a ∈ t.returned) ∧ ∀ client ∈ s.destroyed, client ∈ t.destroyed := by
  rcases step_cases next with ⟨thread, serviceName, serviceType, rfl, rfl⟩ |
    ⟨thread, serviceName, serviceType, rfl, rfl⟩ | ⟨thread, status, setup, setups, rfl, here, rfl⟩
  · rcases lookup_cases s thread serviceName serviceType with
      ⟨_, same⟩ | ⟨status, _, same⟩ | ⟨client, _, same⟩
    · rw [same]
      exact ⟨fun _ ha => ha, fun _ gone => gone⟩
    · rw [same]
      exact ⟨fun _ ha => List.mem_append_left _ ha, fun _ gone => gone⟩
    · rw [same]
      exact ⟨fun _ ha => List.mem_append_left _ ha, fun _ gone => gone⟩
  · exact ⟨fun _ ha => ha, fun _ gone => gone⟩
  · rw [setupEnds_pop, ServiceClients.setupEnds]
    split
    · exact ⟨fun _ ha => List.mem_append_left _ ha, fun _ gone => List.mem_append_left _ gone⟩
    · exact ⟨fun _ ha => List.mem_append_left _ ha, fun _ gone => List.mem_append_left _ gone⟩

theorem Dangling.step (h : Dangling s) {e : EnsureStep ι}
    (next : StepOf ServiceClients.step s e t) : Dangling t := by
  obtain ⟨a, ha, ok, client, gone, response⟩ := h
  obtain ⟨returned, destroyed⟩ := step_grows next
  exact ⟨a, returned a ha, ok, client, destroyed client gone, response⟩

/-- An entry that is assigned over held a client that was returned. -/
theorem dangling_of_not_addsFresh (tracked : Tracked s) {e : EnsureStep ι}
    (next : StepOf ServiceClients.step s e t) (taken : ¬AddsFresh s e) : Dangling t := by
  rcases step_cases next with ⟨thread, serviceName, serviceType, rfl, rfl⟩ |
    ⟨thread, serviceName, serviceType, rfl, rfl⟩ | ⟨thread, status, setup, setups, rfl, here, rfl⟩
  · exact absurd trivial taken
  · exact absurd trivial taken
  · simp only [AddsFresh, here, List.head?_cons, Option.mem_def, Option.some.injEq,
      forall_eq', not_forall] at taken
    obtain ⟨ok, entry⟩ := taken
    obtain ⟨cached, entry⟩ := Option.ne_none_iff_exists'.mp entry
    obtain ⟨a, ha, _, _, aOk, response⟩ := tracked.cached _ _ entry
    obtain ⟨returned, _⟩ := step_grows next
    refine ⟨a, returned a ha, aOk, cached.serviceClient, ?_, response⟩
    rw [setupEnds_pop, ServiceClients.setupEnds, if_pos ok]
    apply List.mem_append_right
    rw [ServiceClients.replaced, entry]
    exact List.mem_singleton_self _

/-- A run to a state without a dangling client only adds clients under fresh names. -/
theorem addsFresh_of_not_dangling (run : Run (StepOf ServiceClients.step) s es u)
    (tracked : Tracked s) (alive : ¬Dangling u) :
    Run (Guard (StepOf ServiceClients.step) AddsFresh) s es u := by
  induction run with
  | nil s => exact .nil s
  | @cons s e t es u next tail ih =>
      have rest := ih (tracked.step next) alive
      have before : ¬Dangling t := fun dangling =>
        alive (tail.invariant dangling (fun h next => h.step next))
      by_cases fresh : AddsFresh s e
      · exact .cons ⟨next, fresh⟩ rest
      · exact absurd (dangling_of_not_addsFresh tracked next fresh) before

/-- A run to a state without a dangling client, and only such a run, returns one client
for each name and type. -/
theorem ensured_iff (run : Run (StepOf ServiceClients.step) {} es s) :
    Ensured s ↔ Run (Guard (StepOf ServiceClients.step) AddsFresh) {} es s := by
  constructor
  · intro ensured
    exact addsFresh_of_not_dangling run Tracked.start (fun dangling =>
      dangling.not_ensured ensured)
  · intro fresh
    have kept : Tracked s ∧ Cached s := by
      apply fresh.invariant (I := fun s => Tracked s ∧ Cached s)
      · exact ⟨Tracked.start, fun _ h => absurd h List.not_mem_nil⟩
      · intro s e t h next
        exact ⟨h.1.step next.1, h.2.step h.1 next⟩
    exact kept.2.ensured

end Runs

/-- Both threads miss the directory client, which one of them makes and adds while it
makes the image client. The directory client of the other fails. -/
def sharedClients : List (EnsureStep Bool) :=
  [.lookup true "image" "bosdyn.api.ImageService",
    .lookup false "directory" "bosdyn.api.DirectoryService", .create true,
    .lookup true "directory" "bosdyn.api.DirectoryService", .create true,
    .setupEnds true clientCreated, .setupEnds true clientCreated, .create false,
    .setupEnds false (incorrectServiceType "" "" ""),
    .lookup false "image" "bosdyn.api.ImageService",
    .lookup true "image" "bosdyn.api.ImageService"]

theorem ensured_iff_sharedClients :
    ∃ s : ServiceClients Bool, Run (StepOf ServiceClients.step) {} sharedClients s ∧
      s.destroyed = [2] ∧
      s.returned.map (·.result.response) = [some 1, some 0, none, some 0, some 0] ∧
      Ensured s := by
  have run : ∃ s : ServiceClients Bool,
      Run (Guard (StepOf ServiceClients.step) AddsFresh) {} sharedClients s ∧
      s.destroyed = [2] ∧
      s.returned.map (·.result.response) = [some 1, some 0, none, some 0, some 0] := by
    refine ⟨_, .cons ⟨rfl, trivial⟩ (.cons ⟨rfl, trivial⟩ (.cons ⟨rfl, trivial⟩
      (.cons ⟨rfl, trivial⟩ (.cons ⟨rfl, trivial⟩ (.cons ⟨rfl, ?_⟩ (.cons ⟨rfl, ?_⟩
      (.cons ⟨rfl, trivial⟩ (.cons ⟨rfl, ?_⟩ (.cons ⟨rfl, trivial⟩ (.cons ⟨rfl, trivial⟩
      (.nil _))))))))))), rfl, rfl⟩
    · intro setup top _
      obtain rfl := Option.some.inj top
      rfl
    · intro setup top _
      obtain rfl := Option.some.inj top
      rfl
    · intro _ _ ok
      rw [incorrectServiceType_ok] at ok
      cases ok
  obtain ⟨s, run, destroyed, returned⟩ := run
  have all := run.mono fun h => h.1
  exact ⟨s, all, destroyed, returned, (ensured_iff all).mpr run⟩

/-- Both threads find no client before either has made one. -/
theorem twoThreads_not_ensured :
    ∃ s : ServiceClients Bool,
      Run (StepOf ServiceClients.step) {}
        [.lookup true "image" "bosdyn.api.ImageService",
          .lookup false "image" "bosdyn.api.ImageService", .create true,
          .setupEnds true clientCreated, .create false, .setupEnds false clientCreated] s ∧
      ¬Ensured s := by
  have run : ∃ s : ServiceClients Bool, Run (StepOf ServiceClients.step) {}
        [.lookup true "image" "bosdyn.api.ImageService",
          .lookup false "image" "bosdyn.api.ImageService", .create true,
          .setupEnds true clientCreated, .create false, .setupEnds false clientCreated] s ∧
      s.destroyed = [0] ∧ s.returned =
        [⟨"image", "bosdyn.api.ImageService", ⟨clientCreated, some 0⟩⟩,
          ⟨"image", "bosdyn.api.ImageService", ⟨clientCreated, some 1⟩⟩] :=
    ⟨_, .cons rfl (.cons rfl (.cons rfl (.cons rfl (.cons rfl (.cons rfl (.nil _)))))), rfl, rfl⟩
  obtain ⟨s, run, destroyed, returned⟩ := run
  refine ⟨s, run, Dangling.not_ensured ?_⟩
  refine ⟨⟨"image", "bosdyn.api.ImageService", ⟨clientCreated, some 0⟩⟩, ?_, rfl, 0, ?_, rfl⟩
  · rw [returned]
    exact List.mem_cons_self
  · rw [destroyed]
    exact List.mem_cons_self

end SpotSdk.Client
