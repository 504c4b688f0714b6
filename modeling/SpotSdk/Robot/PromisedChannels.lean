import SpotSdk.Robot.ChannelHistory

/-!
# The channels that are promised

A call to `EnsureChannel` should find every bootstrap service and every service that the
directory lists, and return the channel for what the latest listing gives. Through the proxy
it does, but for a bootstrap service that is listed with another authority. Past the proxy it
finds the two bootstrap endpoints only.
-/

namespace SpotSdk.Client

open Foundations Common

/-- A bootstrap service of the mode. -/
def isBootstrapService (bypassProxy : Bool) (serviceName : String) : Bool :=
  if bypassProxy then (bootstrapEndpointsByName.lookup serviceName).isSome
  else (bootstrapAuthoritiesByName.lookup serviceName).isSome

/-- What the channel should be made for: the authority that the latest listing gives, or that
of a bootstrap service. No listing gives an endpoint. -/
def promisedTarget (bypassProxy : Bool) (latest : List ServiceEntry) (serviceName : String) :
    Option ChannelTarget :=
  if bypassProxy then (bootstrapEndpointsByName.lookup serviceName).map Endpoint.target
  else ((listedAuthority latest serviceName).or
    (bootstrapAuthoritiesByName.lookup serviceName)).map .secure

/-- What is promised of a call: `cached` is the listing that was the latest one before it,
`latest` the one that is so after it, `directory` what the directory lists. -/
structure EnsuresRightly (bypassProxy : Bool) (cached latest directory : List ServiceEntry)
    (serviceName serviceType : String) (outcome : ChannelResult × RobotChannels) : Prop where
  bootstrapSucceeds : isBootstrapService bypassProxy serviceName = true →
    (∀ endpoint, bypassProxy = true →
      bootstrapEndpointsByName.lookup serviceName = some endpoint →
      endpoint.serviceType = serviceType) → outcome.1.ok = true
  listedSucceeds : (∃ entry ∈ directory, entry.name = serviceName ∧
    (bypassProxy = true → entry.type = serviceType)) → outcome.1.ok = true
  unregistered : outcome.1.status.code = unregisteredServiceCode ↔
    isBootstrapService bypassProxy serviceName = false ∧ ¬ Lists cached serviceName ∧
      ¬ Lists directory serviceName
  channel : outcome.1.ok = true → ∃ channel, outcome.1.response = some channel ∧
    some channel.target = promisedTarget bypassProxy latest serviceName ∧
    outcome.2.channels channel.target.key = some channel

/-- The calls that go as promised. Through the proxy, a bootstrap service has to be listed
with its bootstrap authority, if it is listed. Past the proxy, a bootstrap service has to be
listed with its own type or asked for by it, and no other service may be listed. -/
structure Servable (bypassProxy : Bool) (cached directory : List ServiceEntry)
    (serviceName serviceType : String) : Prop where
  proxy : bypassProxy = false → ∀ bootstrap,
    bootstrapAuthoritiesByName.lookup serviceName = some bootstrap →
    ∀ authority, listedAuthority cached serviceName = some authority → authority = bootstrap
  bypassBootstrap : bypassProxy = true → ∀ endpoint,
    bootstrapEndpointsByName.lookup serviceName = some endpoint →
    endpoint.serviceType = serviceType ∨
      ¬ ∃ entry ∈ directory, entry.name = serviceName ∧ entry.type = serviceType
  bypassOther : bypassProxy = true → bootstrapEndpointsByName.lookup serviceName = none →
    ¬ Lists cached serviceName ∧ ¬ Lists directory serviceName

section Promise

variable {bypassProxy : Bool} {cached latest directory : List ServiceEntry}
  {serviceName serviceType : String} {outcome : ChannelResult × RobotChannels}
  {channel : Channel} {message : String}

/-- A channel for a service that is known somewhere has to be for the right target. -/
theorem ensuresRightly_success_iff
    (result : outcome.1 = ⟨⟨SDKErrorCode.success.code, ""⟩, some channel⟩)
    (held : outcome.2.channels channel.target.key = some channel)
    (known : isBootstrapService bypassProxy serviceName = true ∨ Lists cached serviceName ∨
      Lists directory serviceName) :
    EnsuresRightly bypassProxy cached latest directory serviceName serviceType outcome ↔
      some channel.target = promisedTarget bypassProxy latest serviceName := by
  have ok : outcome.1.ok = true := by
    rw [result]
    rfl
  have response : outcome.1.response = some channel := congrArg Result.response result
  constructor
  · intro promise
    obtain ⟨returned, isReturned, target, _⟩ := promise.channel ok
    obtain rfl := Option.some.inj (isReturned.symm.trans response)
    exact target
  · intro target
    refine ⟨fun _ _ => ok, fun _ => ok, iff_of_false ?_ ?_, fun _ => ⟨_, response, target, held⟩⟩
    · rw [result]
      exact (by decide : SDKErrorCode.success.code ≠ unregisteredServiceCode)
    · rintro ⟨unknown, uncached, unlisted⟩
      rcases known with bootstrap | wasCached | listed
      · exact Bool.false_ne_true (unknown.symm.trans bootstrap)
      · exact uncached wasCached
      · exact unlisted listed

/-- A service that is not found has to be one that nothing knows. -/
theorem ensuresRightly_unregistered_iff
    (result : outcome.1 = ⟨unregisteredService message, none⟩)
    (unknown : isBootstrapService bypassProxy serviceName = false) :
    EnsuresRightly bypassProxy cached latest directory serviceName serviceType outcome ↔
      ¬ Lists cached serviceName ∧ ¬ Lists directory serviceName := by
  have failed : outcome.1.ok ≠ true := by
    rw [result]
    exact Bool.false_ne_true
  have code : outcome.1.status.code = unregisteredServiceCode := by
    rw [result]
    rfl
  constructor
  · intro promise
    exact (promise.unregistered.mp code).2
  · rintro ⟨uncached, unlisted⟩
    refine ⟨fun bootstrap => ?_, ?_, ?_, fun ok => absurd ok failed⟩
    · exact absurd (unknown.symm.trans bootstrap) Bool.false_ne_true
    · rintro ⟨entry, member, named, _⟩
      exact absurd ⟨entry, member, named⟩ unlisted
    · exact iff_of_true code ⟨unknown, uncached, unlisted⟩

/-- An endpoint of another type is not promised. -/
theorem ensuresRightly_incorrectType_iff {endpoint : Endpoint}
    (result : outcome.1 =
      ⟨incorrectEndpointType serviceName endpoint.serviceType serviceType, none⟩)
    (known : bootstrapEndpointsByName.lookup serviceName = some endpoint)
    (incorrect : endpoint.serviceType ≠ serviceType) :
    EnsuresRightly true cached latest directory serviceName serviceType outcome ↔
      ¬ ∃ entry ∈ directory, entry.name = serviceName ∧ entry.type = serviceType := by
  have failed : outcome.1.ok ≠ true := by
    rw [result]
    exact Bool.false_ne_true
  have bootstrap : isBootstrapService true serviceName = true := by
    rw [isBootstrapService, if_pos rfl, known]
    rfl
  constructor
  · rintro promise ⟨entry, member, named, typed⟩
    exact failed (promise.listedSucceeds ⟨entry, member, named, fun _ => typed⟩)
  · intro untyped
    refine ⟨fun _ types => ?_, ?_, iff_of_false ?_ ?_, fun ok => absurd ok failed⟩
    · exact absurd (types endpoint rfl known) incorrect
    · rintro ⟨entry, member, named, typed⟩
      exact absurd ⟨entry, member, named, typed rfl⟩ untyped
    · rw [result]
      exact (by decide : (⟨clientCreationErrorCategory, 1⟩ : ErrorCode) ≠ unregisteredServiceCode)
    · rintro ⟨unknown, _⟩
      exact Bool.false_ne_true (unknown.symm.trans bootstrap)

/-- The authority that is found is the one that is promised, unless a bootstrap service is
listed with another one. -/
theorem promised_authority_iff {bootstrap listed : Option String} {authority : String}
    (found : bootstrap.or listed = some authority) :
    some (ChannelTarget.secure authority) = (listed.or bootstrap).map .secure ↔
      ∀ b, bootstrap = some b → ∀ a, listed = some a → a = b := by
  cases bootstrap with
  | none =>
      rw [Option.none_or] at found
      rw [found]
      exact iff_of_true rfl fun _ none_eq => by cases none_eq
  | some b =>
      rw [Option.some_or] at found
      obtain rfl := Option.some.inj found
      cases listed with
      | none => exact iff_of_true rfl fun _ _ _ none_eq => by cases none_eq
      | some a =>
          constructor
          · intro same b' isBootstrap a' isListed
            obtain rfl := Option.some.inj isBootstrap
            obtain rfl := Option.some.inj isListed
            exact (ChannelTarget.secure.inj (Option.some.inj same)).symm
          · intro agree
            rw [agree b rfl a rfl]
            rfl

/-- A service whose authority is found is a bootstrap service or was listed. -/
theorem known_of_authority {authority : String}
    (found : (bootstrapAuthoritiesByName.lookup serviceName).or
      (listedAuthority cached serviceName) = some authority) :
    isBootstrapService false serviceName = true ∨ Lists cached serviceName ∨
      Lists directory serviceName := by
  rw [isBootstrapService, if_neg Bool.false_ne_true]
  cases bootstrap : bootstrapAuthoritiesByName.lookup serviceName with
  | some authority => exact .inl rfl
  | none =>
      rw [bootstrap, Option.none_or] at found
      refine .inr (.inl ?_)
      by_contra uncached
      cases found.symm.trans (listedAuthority_eq_none_iff.mpr uncached)

theorem servable_proxy_iff : Servable false cached directory serviceName serviceType ↔
    ∀ bootstrap, bootstrapAuthoritiesByName.lookup serviceName = some bootstrap →
      ∀ authority, listedAuthority cached serviceName = some authority →
        authority = bootstrap := by
  constructor
  · intro servable
    exact servable.proxy rfl
  · intro agree
    exact ⟨fun _ => agree, fun bypass => absurd bypass Bool.false_ne_true,
      fun bypass => absurd bypass Bool.false_ne_true⟩

theorem servable_proxy_of_unknown (missing : bootstrapAuthoritiesByName.lookup serviceName = none) :
    Servable false cached directory serviceName serviceType := by
  rw [servable_proxy_iff, missing]
  intro bootstrap found
  cases found

theorem servable_endpoint_iff {endpoint : Endpoint}
    (known : bootstrapEndpointsByName.lookup serviceName = some endpoint) :
    Servable true cached directory serviceName serviceType ↔
      endpoint.serviceType = serviceType ∨
        ¬ ∃ entry ∈ directory, entry.name = serviceName ∧ entry.type = serviceType := by
  constructor
  · intro servable
    exact servable.bypassBootstrap rfl endpoint known
  · intro typed
    refine ⟨fun proxy => absurd proxy.symm Bool.false_ne_true, fun _ other found => ?_,
      fun _ missing => ?_⟩
    · obtain rfl := Option.some.inj (known.symm.trans found)
      exact typed
    · rw [known] at missing
      cases missing

theorem servable_noEndpoint_iff
    (missing : bootstrapEndpointsByName.lookup serviceName = none) :
    Servable true cached directory serviceName serviceType ↔
      ¬ Lists cached serviceName ∧ ¬ Lists directory serviceName := by
  constructor
  · intro servable
    exact servable.bypassOther rfl missing
  · intro unlisted
    refine ⟨fun proxy => absurd proxy.symm Bool.false_ne_true, fun _ other found => ?_,
      fun _ _ => unlisted⟩
    rw [missing] at found
    cases found

end Promise

/-- The answer of a directory with these entries. -/
def directoryLists (listing : List ServiceEntry) : Result (List ServiceEntry) :=
  ⟨⟨SDKErrorCode.success.code, ""⟩, listing⟩

theorem latestListing_ensureCall (calls : List ChannelCall) (robot : RobotChannels)
    (serviceName serviceType : String) (directory : List ServiceEntry) :
    latestListing (calls ++
      [robot.ensureCall serviceName serviceType (directoryLists directory)]) =
        if robot.asksDirectory serviceName then directory else latestListing calls := by
  rw [latestListing_snoc, RobotChannels.ensureCall]
  split <;> rfl

/-- A call goes as promised exactly if it is one of those that do: the refresh never fills the
map of endpoints. -/
theorem ensuresRightly_iff {bypassProxy : Bool} {calls : List ChannelCall} {robot : RobotChannels}
    (run : Run (StepOf RobotChannels.step) (.new bypassProxy) calls robot)
    (serviceName serviceType : String) (directory : List ServiceEntry) :
    EnsuresRightly bypassProxy (latestListing calls)
      (latestListing (calls ++
        [robot.ensureCall serviceName serviceType (directoryLists directory)]))
      directory serviceName serviceType
      (robot.ensureChannel serviceName serviceType (directoryLists directory)) ↔
    Servable bypassProxy (latestListing calls) directory serviceName serviceType := by
  obtain ⟨sound, rfl, authorities⟩ := RobotChannels.remembers run
  have ensures : robot.Ensures serviceName serviceType (directoryLists directory) _ :=
    RobotChannels.ensureChannel_cases sound
  rw [latestListing_ensureCall]
  generalize robot.ensureChannel serviceName serviceType (directoryLists directory) = outcome
    at ensures
  cases ensures with
  | @authority authority proxy known =>
      obtain ⟨channel, result, target, held⟩ :=
        RobotChannels.ensureSecureChannel_spec sound proxy authority
      rw [RobotChannels.asksDirectory_proxy proxy, known, proxy]
      rw [authorities] at known
      rw [ensuresRightly_success_iff result held (known_of_authority known), target,
        servable_proxy_iff]
      exact promised_authority_iff known
  | @listed authority proxy unknown _ listed =>
      obtain ⟨channel, result, target, held⟩ := RobotChannels.ensureSecureChannel_spec
        (RobotChannels.listServices_sound sound)
        (RobotChannels.listServices_bypassProxy.trans proxy) authority
      have missing := (Option.or_eq_none_iff.mp unknown).1
      have isListed : Lists directory serviceName := by
        by_contra unlisted
        cases listed.symm.trans (listedAuthority_eq_none_iff.mpr unlisted)
      rw [RobotChannels.asksDirectory_proxy proxy, unknown, proxy,
        ensuresRightly_success_iff result held (.inr (.inr isListed)), target]
      refine iff_of_true ?_ (servable_proxy_of_unknown missing)
      apply (promised_authority_iff ?_).mpr
      · intro bootstrap found
        rw [missing] at found
        cases found
      · rw [missing]
        exact listed
  | unlisted proxy unknown _ unlisted =>
      obtain ⟨missing, uncached⟩ := Option.or_eq_none_iff.mp unknown
      have unregistered : isBootstrapService false serviceName = false := by
        rw [isBootstrapService, if_neg Bool.false_ne_true, missing]
        rfl
      rw [authorities] at uncached
      rw [proxy, ensuresRightly_unregistered_iff rfl unregistered]
      exact iff_of_true
        ⟨listedAuthority_eq_none_iff.mp uncached, listedAuthority_eq_none_iff.mp unlisted⟩
        (servable_proxy_of_unknown missing)
  | @endpoint endpoint bypass known correct =>
      obtain ⟨channel, result, target, held⟩ := RobotChannels.ensureInsecureChannel_spec sound
        bypass (RobotChannels.bootstrapEndpoint_target known)
      have bootstrap : isBootstrapService true serviceName = true := by
        rw [isBootstrapService, if_pos rfl, known]
        rfl
      rw [bypass, ensuresRightly_success_iff result held (.inl bootstrap), target,
        promisedTarget, if_pos rfl, known]
      exact iff_of_true rfl ((servable_endpoint_iff known).mpr (.inl correct))
  | incorrectType bypass known incorrect =>
      rw [bypass, ensuresRightly_incorrectType_iff rfl known incorrect,
        servable_endpoint_iff known]
      exact (or_iff_right incorrect).symm
  | noEndpoint bypass unknown =>
      have unregistered : isBootstrapService true serviceName = false := by
        rw [isBootstrapService, if_pos rfl, unknown]
        rfl
      rw [bypass, ensuresRightly_unregistered_iff rfl unregistered,
        servable_noEndpoint_iff unknown]
  | failedListing _ failed => cases failed

def estopEntry : ServiceEntry := ⟨"estop", "bosdyn.api.EstopService", "estop.spot.robot"⟩

/-- A robot that has listed its directory through the proxy finds the service in its map. -/
theorem ensuresRightly_cached :
    let call : ChannelCall := .listServices (directoryLists [estopEntry])
    let robot := (RobotChannels.listServices (directoryLists [estopEntry]) (.new false)).2
    EnsuresRightly false (latestListing [call])
      (latestListing ([call] ++
        [robot.ensureCall "estop" "bosdyn.api.EstopService" (directoryLists [])]))
      [] "estop" "bosdyn.api.EstopService"
      (robot.ensureChannel "estop" "bosdyn.api.EstopService" (directoryLists [])) := by
  intro call robot
  have run : Run (StepOf RobotChannels.step) (.new false) [call] robot := .single rfl
  apply (ensuresRightly_iff run "estop" "bosdyn.api.EstopService" []).mpr
  apply servable_proxy_of_unknown
  simp [bootstrapAuthoritiesByName]

/-- Past the proxy, a service that the directory lists is not found. -/
theorem not_ensuresRightly_bypassed :
    let robot := RobotChannels.new true
    ¬ EnsuresRightly true (latestListing [])
      (latestListing
        [robot.ensureCall "estop" "bosdyn.api.EstopService" (directoryLists [estopEntry])])
      [estopEntry] "estop" "bosdyn.api.EstopService"
      (robot.ensureChannel "estop" "bosdyn.api.EstopService" (directoryLists [estopEntry])) := by
  intro robot promise
  have found := promise.listedSucceeds ⟨estopEntry, List.mem_singleton_self _, rfl, fun _ => rfl⟩
  revert found
  decide

end SpotSdk.Client
