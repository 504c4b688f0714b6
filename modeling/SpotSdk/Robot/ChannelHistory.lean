import SpotSdk.Robot.EnsureChannel

/-!
# The channels of a robot over its calls

A run lists the calls to `ListServices` and `EnsureChannel`, with what the directory answered
to those that asked it. The map of authorities is always that of the latest listing. The map
of endpoints stays empty, since no listing fills it.
-/

namespace SpotSdk.Client

open Foundations Common

/-- A call that uses the channels, with what the directory answers if the call asks it. -/
inductive ChannelCall
  | listServices (directory : Result (List ServiceEntry))
  | ensureChannel (serviceName serviceType : String)
      (directory : Option (Result (List ServiceEntry)))

/-- The listing that a call brings. -/
def ChannelCall.listing : ChannelCall → Option (List ServiceEntry)
  | listServices directory => if directory.ok then some directory.response else none
  | ensureChannel _ _ (some directory) => if directory.ok then some directory.response else none
  | ensureChannel _ _ none => none

/-- The listing that came last. -/
def latestListing (calls : List ChannelCall) : List ServiceEntry :=
  calls.foldl (fun listing call => call.listing.getD listing) []

/-- The authority that a listing gives for a name, in the last entry of that name. -/
def listedAuthority : List ServiceEntry → String → Option String
  | [], _ => none
  | entry :: rest, serviceName =>
      (listedAuthority rest serviceName).or
        (if entry.name = serviceName then some entry.authority else none)

/-- The listing has an entry of the name. -/
def Lists (listing : List ServiceEntry) (serviceName : String) : Prop :=
  ∃ entry ∈ listing, entry.name = serviceName

theorem latestListing_snoc (calls : List ChannelCall) (call : ChannelCall) :
    latestListing (calls ++ [call]) = call.listing.getD (latestListing calls) := by
  rw [latestListing, List.foldl_append]
  rfl

theorem lists_cons {entry : ServiceEntry} {rest : List ServiceEntry} {serviceName : String} :
    Lists (entry :: rest) serviceName ↔ entry.name = serviceName ∨ Lists rest serviceName :=
  List.exists_mem_cons_iff ..

theorem listedAuthority_eq_none_iff {listing : List ServiceEntry} {serviceName : String} :
    listedAuthority listing serviceName = none ↔ ¬ Lists listing serviceName := by
  induction listing with
  | nil => simp [listedAuthority, Lists]
  | cons entry rest ih =>
      rw [listedAuthority, Option.or_eq_none_iff, ih, lists_cons, not_or, and_comm]
      simp

theorem authoritiesOf_foldl (listing : List ServiceEntry) (authorities : String → Option String)
    (serviceName : String) :
    listing.foldl (fun (authorities : String → Option String) entry =>
        Function.update authorities entry.name (some entry.authority)) authorities serviceName =
      (listedAuthority listing serviceName).or (authorities serviceName) := by
  induction listing generalizing authorities with
  | nil => rfl
  | cons entry rest ih =>
      rw [List.foldl_cons, ih, listedAuthority, Option.or_assoc]
      by_cases same : entry.name = serviceName
      · rw [if_pos same, ← same, Function.update_self]
        rfl
      · rw [if_neg same, Function.update_of_ne (Ne.symm same)]
        rfl

theorem authoritiesOf_eq (listing : List ServiceEntry) :
    authoritiesOf listing = listedAuthority listing := by
  funext serviceName
  rw [authoritiesOf, authoritiesOf_foldl, Option.or_none]

namespace RobotChannels

def new (bypassProxy : Bool) : RobotChannels := { bypassProxy := bypassProxy }

/-- The name is found neither among the bootstrap services nor in the map of the robot. -/
def asksDirectory (robot : RobotChannels) (serviceName : String) : Bool :=
  if robot.bypassProxy then
    ((bootstrapEndpointsByName.lookup serviceName).or
      (robot.endpointsByName serviceName)).isNone
  else
    ((bootstrapAuthoritiesByName.lookup serviceName).or
      (robot.authoritiesByName serviceName)).isNone

/-- The call to `EnsureChannel`, with the answer that it asks for. -/
def ensureCall (robot : RobotChannels) (serviceName serviceType : String)
    (directory : Result (List ServiceEntry)) : ChannelCall :=
  .ensureChannel serviceName serviceType
    (if robot.asksDirectory serviceName then some directory else none)

def step (robot : RobotChannels) : ChannelCall → Option RobotChannels
  | .listServices directory => some (robot.listServices directory).2
  | .ensureChannel serviceName serviceType none =>
      if robot.asksDirectory serviceName then none
      else some (robot.ensureChannel serviceName serviceType ⟨Status.unset, []⟩).2
  | .ensureChannel serviceName serviceType (some directory) =>
      if robot.asksDirectory serviceName then
        some (robot.ensureChannel serviceName serviceType directory).2
      else none

/-- What every robot keeps: no endpoint is ever stored, and each channel is kept under the
key of what it was made for. -/
structure Sound (robot : RobotChannels) : Prop where
  endpoints : ∀ serviceName, robot.endpointsByName serviceName = none
  insecure : robot.bypassProxy = true → ∀ key channel, robot.channels key = some channel →
    channel.target = directoryEndpoint.target
  secure : robot.bypassProxy = false → ∀ key channel, robot.channels key = some channel →
    channel.target = .secure key

/-- The ways a call to `EnsureChannel` can go. -/
inductive Ensures (robot : RobotChannels) (serviceName serviceType : String)
    (directory : Result (List ServiceEntry)) : ChannelResult × RobotChannels → Prop
  | authority {authority : String} (proxy : robot.bypassProxy = false)
      (known : (bootstrapAuthoritiesByName.lookup serviceName).or
        (robot.authoritiesByName serviceName) = some authority) :
      Ensures robot serviceName serviceType directory (robot.ensureSecureChannel authority)
  | listed {authority : String} (proxy : robot.bypassProxy = false)
      (unknown : (bootstrapAuthoritiesByName.lookup serviceName).or
        (robot.authoritiesByName serviceName) = none)
      (answered : directory.ok = true)
      (listed : listedAuthority directory.response serviceName = some authority) :
      Ensures robot serviceName serviceType directory
        ((robot.listServices directory).2.ensureSecureChannel authority)
  | unlisted (proxy : robot.bypassProxy = false)
      (unknown : (bootstrapAuthoritiesByName.lookup serviceName).or
        (robot.authoritiesByName serviceName) = none)
      (answered : directory.ok = true)
      (unlisted : listedAuthority directory.response serviceName = none) :
      Ensures robot serviceName serviceType directory
        (⟨unregisteredService ("Could not find authority for " ++ serviceName), none⟩,
          (robot.listServices directory).2)
  | endpoint {endpoint : Endpoint} (bypass : robot.bypassProxy = true)
      (known : bootstrapEndpointsByName.lookup serviceName = some endpoint)
      (correct : endpoint.serviceType = serviceType) :
      Ensures robot serviceName serviceType directory (robot.ensureInsecureChannel endpoint)
  | incorrectType {endpoint : Endpoint} (bypass : robot.bypassProxy = true)
      (known : bootstrapEndpointsByName.lookup serviceName = some endpoint)
      (incorrect : endpoint.serviceType ≠ serviceType) :
      Ensures robot serviceName serviceType directory
        (⟨incorrectEndpointType serviceName endpoint.serviceType serviceType, none⟩, robot)
  | noEndpoint (bypass : robot.bypassProxy = true)
      (unknown : bootstrapEndpointsByName.lookup serviceName = none)
      (answered : directory.ok = true) :
      Ensures robot serviceName serviceType directory
        (⟨unregisteredService ("Could not find endpoint for " ++ serviceName), none⟩,
          (robot.listServices directory).2)
  | failedListing (asks : robot.asksDirectory serviceName = true)
      (failed : directory.ok = false) :
      Ensures robot serviceName serviceType directory
        (⟨directory.status, none⟩, (robot.listServices directory).2)

/-- What a robot keeps of its history. -/
structure Remembers (bypassProxy : Bool) (calls : List ChannelCall) (robot : RobotChannels) :
    Prop extends Sound robot where
  mode : robot.bypassProxy = bypassProxy
  authorities : robot.authoritiesByName = listedAuthority (latestListing calls)

section History

variable {robot next : RobotChannels} {bypassProxy : Bool} {calls : List ChannelCall}
  {serviceName serviceType : String} {directory : Result (List ServiceEntry)}
  {endpoint : Endpoint} {authority : String} {outcome : ChannelResult × RobotChannels}

theorem bootstrapEndpoint_target
    (found : bootstrapEndpointsByName.lookup serviceName = some endpoint) :
    endpoint.target = directoryEndpoint.target := by
  obtain ⟨before, after, split, _⟩ := List.lookup_eq_some_iff.mp found
  have member : (serviceName, endpoint) ∈ bootstrapEndpointsByName := by
    rw [split]
    exact List.mem_append_right _ List.mem_cons_self
  simp only [bootstrapEndpointsByName, List.mem_cons, Prod.mk.injEq, List.not_mem_nil,
    or_false] at member
  rcases member with ⟨_, rfl⟩ | ⟨_, rfl⟩ <;> rfl

theorem ensureSecureChannel_sound (sound : Sound robot) (proxy : robot.bypassProxy = false) :
    Sound (robot.ensureSecureChannel authority).2 where
  endpoints name := by
    rw [ensureSecureChannel, channelUnder_endpointsByName]
    exact sound.endpoints name
  insecure bypass := by
    rw [ensureSecureChannel, channelUnder_bypassProxy, proxy] at bypass
    cases bypass
  secure _ key channel held := by
    rcases channelUnder_channels held with held | ⟨rfl, target⟩
    · exact sound.secure proxy key channel held
    · exact target

theorem ensureInsecureChannel_sound (sound : Sound robot) (bypass : robot.bypassProxy = true)
    (target : endpoint.target = directoryEndpoint.target) :
    Sound (robot.ensureInsecureChannel endpoint).2 where
  endpoints name := by
    rw [ensureInsecureChannel, channelUnder_endpointsByName]
    exact sound.endpoints name
  insecure _ key channel held := by
    rcases channelUnder_channels held with held | ⟨_, made⟩
    · exact sound.insecure bypass key channel held
    · exact made.trans target
  secure proxy := by
    rw [ensureInsecureChannel, channelUnder_bypassProxy, bypass] at proxy
    cases proxy

theorem ensureSecureChannel_spec (sound : Sound robot) (proxy : robot.bypassProxy = false)
    (authority : String) :
    ∃ channel, (robot.ensureSecureChannel authority).1 =
        ⟨⟨SDKErrorCode.success.code, ""⟩, some channel⟩ ∧
      channel.target = .secure authority ∧
      (robot.ensureSecureChannel authority).2.channels channel.target.key = some channel := by
  obtain ⟨channel, result, target, held⟩ := channelUnder_spec (sound.secure proxy authority)
  refine ⟨channel, result, target, ?_⟩
  rw [target]
  exact held

theorem ensureInsecureChannel_spec (sound : Sound robot) (bypass : robot.bypassProxy = true)
    (target : endpoint.target = directoryEndpoint.target) :
    ∃ channel, (robot.ensureInsecureChannel endpoint).1 =
        ⟨⟨SDKErrorCode.success.code, ""⟩, some channel⟩ ∧
      channel.target = endpoint.target ∧
      (robot.ensureInsecureChannel endpoint).2.channels channel.target.key = some channel := by
  obtain ⟨channel, result, made, held⟩ := channelUnder_spec fun channel held =>
    (sound.insecure bypass endpoint.getEndpointString channel held).trans target.symm
  refine ⟨channel, result, made, ?_⟩
  rw [made]
  exact held

theorem listServices_sound (sound : Sound robot) : Sound (listServices directory robot).2 := by
  have kept : Sound robot.directoryChannel.2 := by
    rw [directoryChannel_eq]
    split
    · next bypass => exact ensureInsecureChannel_sound sound bypass rfl
    · next proxy => exact ensureSecureChannel_sound sound (Bool.eq_false_iff.mpr proxy)
  rw [listServices_eq, updateInformationFromListEntries]
  split
  · exact ⟨kept.endpoints, kept.insecure, kept.secure⟩
  · exact kept

theorem asksDirectory_proxy (proxy : robot.bypassProxy = false) :
    robot.asksDirectory serviceName = ((bootstrapAuthoritiesByName.lookup serviceName).or
      (robot.authoritiesByName serviceName)).isNone :=
  if_neg (Bool.eq_false_iff.mp proxy)

theorem asksDirectory_bypass (sound : Sound robot) (bypass : robot.bypassProxy = true) :
    robot.asksDirectory serviceName = (bootstrapEndpointsByName.lookup serviceName).isNone := by
  rw [asksDirectory, if_pos bypass, sound.endpoints, Option.or_none]

theorem ensureChannel_cases (sound : Sound robot) :
    robot.Ensures serviceName serviceType directory
      (robot.ensureChannel serviceName serviceType directory) := by
  rw [ensureChannel, ensureChannelOver]
  cases mode : robot.bypassProxy with
  | true =>
      rw [if_pos rfl]
      cases known : bootstrapEndpointsByName.lookup serviceName with
      | some endpoint =>
          rw [lookUp_known (by rw [known]; rfl)]
          dsimp only
          by_cases correct : endpoint.serviceType = serviceType
          · rw [if_neg (not_not.mpr correct)]
            exact .endpoint mode known correct
          · rw [if_pos correct]
            exact .incorrectType mode known correct
      | none =>
          have unknown : (bootstrapEndpointsByName.lookup serviceName).or
              (robot.endpointsByName serviceName) = none := by
            rw [known, sound.endpoints]
            rfl
          rw [lookUp_unknown unknown, listServices_ok, listServices_endpointsByName,
            sound.endpoints]
          cases answered : directory.ok with
          | true => exact .noEndpoint mode known answered
          | false =>
              rw [if_neg Bool.false_ne_true, listServices_status answered]
              apply Ensures.failedListing _ answered
              rw [asksDirectory_bypass sound mode, known]
              rfl
  | false =>
      rw [if_neg Bool.false_ne_true]
      cases known : (bootstrapAuthoritiesByName.lookup serviceName).or
          (robot.authoritiesByName serviceName) with
      | some authority =>
          rw [lookUp_known known]
          exact .authority mode known
      | none =>
          rw [lookUp_unknown known, listServices_ok, listServices_authoritiesByName,
            authoritiesOf_eq]
          cases answered : directory.ok with
          | true =>
              rw [if_pos rfl, if_pos rfl]
              cases listed : listedAuthority directory.response serviceName with
              | some authority => exact .listed mode known answered listed
              | none => exact .unlisted mode known answered listed
          | false =>
              rw [if_neg Bool.false_ne_true, listServices_status answered]
              apply Ensures.failedListing _ answered
              rw [asksDirectory_proxy mode, known]
              rfl

theorem Ensures.sound (ensures : robot.Ensures serviceName serviceType directory outcome)
    (sound : Sound robot) : Sound outcome.2 := by
  cases ensures with
  | authority proxy => exact ensureSecureChannel_sound sound proxy
  | listed proxy =>
      apply ensureSecureChannel_sound (listServices_sound sound)
      exact listServices_bypassProxy.trans proxy
  | unlisted => exact listServices_sound sound
  | endpoint bypass known =>
      exact ensureInsecureChannel_sound sound bypass (bootstrapEndpoint_target known)
  | incorrectType => exact sound
  | noEndpoint => exact listServices_sound sound
  | failedListing => exact listServices_sound sound

theorem Ensures.mode (ensures : robot.Ensures serviceName serviceType directory outcome) :
    outcome.2.bypassProxy = robot.bypassProxy := by
  cases ensures with
  | authority => exact channelUnder_bypassProxy
  | listed => exact channelUnder_bypassProxy.trans listServices_bypassProxy
  | endpoint => exact channelUnder_bypassProxy
  | incorrectType => rfl
  | _ => exact listServices_bypassProxy

/-- A call that asks the directory leaves what a listing leaves. -/
theorem Ensures.authoritiesByName
    (ensures : robot.Ensures serviceName serviceType directory outcome) (sound : Sound robot) :
    outcome.2.authoritiesByName =
      if robot.asksDirectory serviceName then
        (listServices directory robot).2.authoritiesByName
      else robot.authoritiesByName := by
  cases ensures with
  | authority proxy known =>
      rw [asksDirectory_proxy proxy, known]
      exact channelUnder_authoritiesByName
  | listed proxy unknown =>
      rw [asksDirectory_proxy proxy, unknown]
      exact channelUnder_authoritiesByName
  | unlisted proxy unknown =>
      rw [asksDirectory_proxy proxy, unknown]
      rfl
  | endpoint bypass known =>
      rw [asksDirectory_bypass sound bypass, known]
      exact channelUnder_authoritiesByName
  | incorrectType bypass known =>
      rw [asksDirectory_bypass sound bypass, known]
      rfl
  | noEndpoint bypass unknown =>
      rw [asksDirectory_bypass sound bypass, unknown]
      rfl
  | failedListing asks => rw [if_pos asks]

/-- The answer of the directory does not matter to a call that does not ask for it. -/
theorem ensureChannel_unasked (unasked : robot.asksDirectory serviceName = false)
    (other : Result (List ServiceEntry)) :
    robot.ensureChannel serviceName serviceType other =
      robot.ensureChannel serviceName serviceType directory := by
  rw [ensureChannel, ensureChannel, ensureChannelOver, ensureChannelOver]
  cases mode : robot.bypassProxy with
  | true =>
      rw [asksDirectory, if_pos mode] at unasked
      obtain ⟨endpoint, known⟩ :=
        Option.isSome_iff_exists.mp (Option.isNone_eq_false_iff.mp unasked)
      rw [if_pos rfl, if_pos rfl, lookUp_known known, lookUp_known known]
  | false =>
      rw [asksDirectory_proxy mode] at unasked
      obtain ⟨authority, known⟩ :=
        Option.isSome_iff_exists.mp (Option.isNone_eq_false_iff.mp unasked)
      rw [if_neg Bool.false_ne_true, if_neg Bool.false_ne_true, lookUp_known known,
        lookUp_known known]

/-- The event of a call leads to what the call leaves. -/
theorem step_ensureCall : robot.step (robot.ensureCall serviceName serviceType directory) =
    some (robot.ensureChannel serviceName serviceType directory).2 := by
  cases asks : robot.asksDirectory serviceName with
  | true =>
      rw [ensureCall, asks, if_pos rfl, step, if_pos asks]
  | false =>
      rw [ensureCall, asks, if_neg Bool.false_ne_true, step,
        if_neg (Bool.eq_false_iff.mp asks), ensureChannel_unasked asks]

/-- Every event is a listing or that of a call. -/
theorem step_cases {call : ChannelCall} (hstep : StepOf step robot call next) :
    (∃ directory, call = .listServices directory ∧ next = (robot.listServices directory).2) ∨
      ∃ serviceName serviceType directory,
        call = robot.ensureCall serviceName serviceType directory ∧
          next = (robot.ensureChannel serviceName serviceType directory).2 := by
  cases call with
  | listServices directory => exact .inl ⟨directory, rfl, (Option.some.inj hstep).symm⟩
  | ensureChannel serviceName serviceType answer =>
      refine .inr ⟨serviceName, serviceType, answer.getD ⟨Status.unset, []⟩, ?_⟩
      unfold StepOf at hstep
      cases answer with
      | none =>
          rw [step] at hstep
          split at hstep
          · cases hstep
          · next unasked =>
            rw [ensureCall, if_neg unasked]
            exact ⟨rfl, (Option.some.inj hstep).symm⟩
      | some directory =>
          rw [step] at hstep
          split at hstep
          · next asks =>
            rw [ensureCall, if_pos asks]
            exact ⟨rfl, (Option.some.inj hstep).symm⟩
          · cases hstep

theorem listServices_remembers {call : ChannelCall} (inv : Remembers bypassProxy calls robot)
    (lists : call.listing = if directory.ok then some directory.response else none) :
    (listServices directory robot).2.authoritiesByName =
      listedAuthority (latestListing (calls ++ [call])) := by
  rw [listServices_authoritiesByName, latestListing_snoc, lists, inv.authorities,
    authoritiesOf_eq]
  split <;> rfl

theorem Remembers.step {call : ChannelCall} (inv : Remembers bypassProxy calls robot)
    (hstep : StepOf step robot call next) : Remembers bypassProxy (calls ++ [call]) next := by
  rcases step_cases hstep with ⟨directory, rfl, rfl⟩ | ⟨name, type, directory, rfl, rfl⟩
  · exact ⟨listServices_sound inv.toSound, listServices_bypassProxy.trans inv.mode,
      listServices_remembers inv rfl⟩
  · have ensures : robot.Ensures name type directory _ := ensureChannel_cases inv.toSound
    refine ⟨ensures.sound inv.toSound, ensures.mode.trans inv.mode, ?_⟩
    rw [ensures.authoritiesByName inv.toSound]
    cases asks : robot.asksDirectory name with
    | true =>
        apply listServices_remembers inv
        rw [ensureCall, asks]
        rfl
    | false =>
        rw [ensureCall, asks, latestListing_snoc]
        exact inv.authorities

theorem new_remembers : Remembers bypassProxy [] (new bypassProxy) where
  endpoints _ := rfl
  insecure _ _ _ held := by cases held
  secure _ _ _ held := by cases held
  mode := rfl
  authorities := rfl

theorem remembers (run : Run (StepOf step) (new bypassProxy) calls robot) :
    Remembers bypassProxy calls robot :=
  run.recorded (I := Remembers bypassProxy) new_remembers Remembers.step

end History

end RobotChannels

end SpotSdk.Client
