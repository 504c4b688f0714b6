import SpotSdk.Robot.ServiceClients

/-!
# The channel to a service

`EnsureChannel` looks for the authority of a service, or for its endpoint when the proxy is
bypassed: first among the bootstrap services, then in what the last listing of the directory
left, then in a new listing. A listing fills the map of authorities only.

## Implementation notes

What the directory client answers is an input, as a failure if the client could not be made.
A map is a function of its key. The address, the port and the credentials of a secure channel
are left out; channels are numbered in the order they are made.
-/

namespace SpotSdk.Client

open Foundations Common

/-- `ServiceEntry`, which has no endpoint. -/
structure ServiceEntry where
  name : String
  type : String
  authority : String
  deriving DecidableEq, Repr

structure Endpoint where
  hostIp : String
  port : Int
  serviceType : String
  deriving DecidableEq, Repr

/-- `GetEndpointString`. -/
def Endpoint.getEndpointString (endpoint : Endpoint) : String :=
  endpoint.hostIp ++ "_" ++ toString endpoint.port

/-- What a channel was made for. -/
inductive ChannelTarget
  | secure (authority : String)
  | insecure (hostIp : String) (port : Int)
  deriving DecidableEq, Repr

/-- The key of a channel in the map. -/
def ChannelTarget.key : ChannelTarget → String
  | secure authority => authority
  | insecure hostIp port => hostIp ++ "_" ++ toString port

def Endpoint.target (endpoint : Endpoint) : ChannelTarget :=
  .insecure endpoint.hostIp endpoint.port

structure Channel where
  number : Nat
  target : ChannelTarget
  deriving DecidableEq, Repr

abbrev ChannelResult := Result (Option Channel)

def bootstrapAuthoritiesByName : List (String × String) :=
  [("directory", "api.spot.robot"),
    ("directory-registration", "api.spot.robot"),
    ("robot-id", "id.spot.robot"),
    ("auth", "auth.spot.robot"),
    ("payload-registration", "payload-registration.spot.robot")]

def directoryServiceType : String := "bosdyn.api.DirectoryService"

def directoryEndpoint : Endpoint := ⟨"127.0.0.1", 31063, directoryServiceType⟩

def bootstrapEndpointsByName : List (String × Endpoint) :=
  [("directory", directoryEndpoint),
    ("directory-registration",
      ⟨"127.0.0.1", 31063, "bosdyn.api.DirectoryRegistrationService"⟩)]

/-- `ClientCreationErrorCode::UnregisteredService`. -/
def unregisteredServiceCode : ErrorCode := ⟨clientCreationErrorCategory, 2⟩

def unregisteredService (message : String) : Status := ⟨unregisteredServiceCode, message⟩

/-- `ClientCreationErrorCode::IncorrectServiceType`, with the message for an endpoint. -/
def incorrectEndpointType (serviceName endpointType expectedType : String) : Status :=
  ⟨⟨clientCreationErrorCategory, 1⟩, "Endpoint for " ++ serviceName ++ " has service type " ++
    endpointType ++ ". The expected type is: " ++ expectedType⟩

/-- The members of a robot that its channels depend on. -/
structure RobotChannels where
  bypassProxy : Bool
  authoritiesByName : String → Option String := fun _ => none
  endpointsByName : String → Option Endpoint := fun _ => none
  channels : String → Option Channel := fun _ => none
  made : Nat := 0

/-- The authorities that a listing leaves; a later entry of a name replaces an earlier one. -/
def authoritiesOf (listing : List ServiceEntry) : String → Option String :=
  listing.foldl (fun authorities entry =>
    Function.update authorities entry.name (some entry.authority)) fun _ => none

/-- The value for a service, from the bootstrap services, the map of the robot, or the map
after a new listing. -/
def lookUp {α : Type} (bootstrap : List (String × α)) (byName : RobotChannels → String → Option α)
    (listServices : RobotChannels → Result (List ServiceEntry) × RobotChannels)
    (message : String) (robot : RobotChannels) (serviceName : String) :
    Except Status α × RobotChannels :=
  match bootstrap.lookup serviceName with
  | some value => (.ok value, robot)
  | none =>
      match byName robot serviceName with
      | some value => (.ok value, robot)
      | none =>
          let (servicesResult, robot) := listServices robot
          if servicesResult.ok then
            match byName robot serviceName with
            | some value => (.ok value, robot)
            | none => (.error (unregisteredService (message ++ serviceName)), robot)
          else (.error servicesResult.status, robot)

namespace RobotChannels

/-- A channel that exists under the key, or a new one. -/
def channelUnder (robot : RobotChannels) (key : String) (target : ChannelTarget) :
    ChannelResult × RobotChannels :=
  match robot.channels key with
  | some channel => (⟨⟨SDKErrorCode.success.code, ""⟩, some channel⟩, robot)
  | none =>
      let channel : Channel := ⟨robot.made, target⟩
      (⟨⟨SDKErrorCode.success.code, ""⟩, some channel⟩,
        { robot with
          channels := Function.update robot.channels key (some channel)
          made := robot.made + 1 })

/-- `EnsureSecureChannel`. -/
def ensureSecureChannel (robot : RobotChannels) (authority : String) :
    ChannelResult × RobotChannels :=
  robot.channelUnder authority (.secure authority)

/-- `EnsureInsecureChannel`. -/
def ensureInsecureChannel (robot : RobotChannels) (endpoint : Endpoint) :
    ChannelResult × RobotChannels :=
  robot.channelUnder endpoint.getEndpointString endpoint.target

/-- `EnsureChannel`, over `ListServices`. -/
def ensureChannelOver (listServices : RobotChannels → Result (List ServiceEntry) × RobotChannels)
    (robot : RobotChannels) (serviceName serviceType : String) :
    ChannelResult × RobotChannels :=
  if robot.bypassProxy then
    match lookUp bootstrapEndpointsByName endpointsByName listServices
        "Could not find endpoint for " robot serviceName with
    | (.error status, robot) => (⟨status, none⟩, robot)
    | (.ok endpoint, robot) =>
        if endpoint.serviceType ≠ serviceType then
          (⟨incorrectEndpointType serviceName endpoint.serviceType serviceType, none⟩, robot)
        else robot.ensureInsecureChannel endpoint
  else
    match lookUp bootstrapAuthoritiesByName authoritiesByName listServices
        "Could not find authority for " robot serviceName with
    | (.error status, robot) => (⟨status, none⟩, robot)
    | (.ok authority, robot) => robot.ensureSecureChannel authority

/-- `UpdateInformationFromListEntries`, with the answer to `ListServiceEntries`. -/
def updateInformationFromListEntries (robot : RobotChannels)
    (directory : Result (List ServiceEntry)) : Result (List ServiceEntry) × RobotChannels :=
  if directory.ok then
    (⟨⟨SDKErrorCode.success.code, ""⟩, directory.response⟩,
      { robot with authoritiesByName := authoritiesOf directory.response })
  else (⟨directory.status, []⟩, robot)

/-- The channel to the directory. It is a bootstrap service, for which nothing is listed. -/
def directoryChannel (robot : RobotChannels) : ChannelResult × RobotChannels :=
  robot.ensureChannelOver (fun robot => (⟨Status.unset, []⟩, robot)) "directory"
    directoryServiceType

/-- `ListServices`. -/
def listServices (directory : Result (List ServiceEntry)) (robot : RobotChannels) :
    Result (List ServiceEntry) × RobotChannels :=
  let (dirChannelResult, robot) := robot.directoryChannel
  if dirChannelResult.ok then robot.updateInformationFromListEntries directory
  else (⟨dirChannelResult.status, []⟩, robot)

/-- `EnsureChannel`, with what the directory answers if it is asked. -/
def ensureChannel (robot : RobotChannels) (serviceName serviceType : String)
    (directory : Result (List ServiceEntry)) : ChannelResult × RobotChannels :=
  robot.ensureChannelOver (listServices directory) serviceName serviceType

/-! ## Lookups -/

section LookUp

variable {α : Type} {bootstrap : List (String × α)} {byName : RobotChannels → String → Option α}
  {list : RobotChannels → Result (List ServiceEntry) × RobotChannels} {message : String}
  {robot : RobotChannels} {serviceName : String} {value : α}

theorem lookUp_known
    (known : (bootstrap.lookup serviceName).or (byName robot serviceName) = some value) :
    lookUp bootstrap byName list message robot serviceName = (.ok value, robot) := by
  rw [lookUp]
  cases found : bootstrap.lookup serviceName with
  | some bootstrapped =>
      rw [found, Option.some_or] at known
      obtain rfl := Option.some.inj known
      rfl
  | none =>
      rw [found, Option.none_or] at known
      simp only [known]

/-- A name that is found nowhere is looked for in a new listing. -/
theorem lookUp_unknown
    (unknown : (bootstrap.lookup serviceName).or (byName robot serviceName) = none) :
    lookUp bootstrap byName list message robot serviceName =
      if (list robot).1.ok then
        match byName (list robot).2 serviceName with
        | some value => (.ok value, (list robot).2)
        | none => (.error (unregisteredService (message ++ serviceName)), (list robot).2)
      else (.error (list robot).1.status, (list robot).2) := by
  obtain ⟨missing, uncached⟩ := Option.or_eq_none_iff.mp unknown
  rw [lookUp, missing]
  simp only [uncached]

end LookUp

/-! ## Channels -/

section Channels

variable {robot : RobotChannels} {key key' : String} {target : ChannelTarget} {channel : Channel}

@[simp] theorem channelUnder_bypassProxy :
    (robot.channelUnder key target).2.bypassProxy = robot.bypassProxy := by
  unfold channelUnder
  split <;> rfl

@[simp] theorem channelUnder_authoritiesByName :
    (robot.channelUnder key target).2.authoritiesByName = robot.authoritiesByName := by
  unfold channelUnder
  split <;> rfl

@[simp] theorem channelUnder_endpointsByName :
    (robot.channelUnder key target).2.endpointsByName = robot.endpointsByName := by
  unfold channelUnder
  split <;> rfl

theorem channelUnder_status :
    (robot.channelUnder key target).1.status = ⟨SDKErrorCode.success.code, ""⟩ := by
  unfold channelUnder
  split <;> rfl

@[simp] theorem channelUnder_ok : (robot.channelUnder key target).1.ok = true := by
  rw [Result.ok, channelUnder_status]
  rfl

/-- The other channels stay. -/
theorem channelUnder_channels
    (held : (robot.channelUnder key target).2.channels key' = some channel) :
    robot.channels key' = some channel ∨ key' = key ∧ channel.target = target := by
  unfold channelUnder at held
  split at held
  · exact .inl held
  · change Function.update robot.channels key (some ⟨robot.made, target⟩) key' = _ at held
    rw [Function.update_apply] at held
    split at held
    · next same =>
      obtain rfl := Option.some.inj held
      exact .inr ⟨same, rfl⟩
    · exact .inl held

/-- The channel is the one under the key, and is made for the target if those there are. -/
theorem channelUnder_spec
    (sound : ∀ channel, robot.channels key = some channel → channel.target = target) :
    ∃ channel,
      (robot.channelUnder key target).1 = ⟨⟨SDKErrorCode.success.code, ""⟩, some channel⟩ ∧
      channel.target = target ∧ (robot.channelUnder key target).2.channels key = some channel := by
  unfold channelUnder
  split
  · next channel held => exact ⟨channel, rfl, sound channel held, held⟩
  · exact ⟨⟨robot.made, target⟩, rfl, rfl, Function.update_self ..⟩

end Channels

/-! ## Listings -/

section Listing

variable {robot : RobotChannels} {directory : Result (List ServiceEntry)}

/-- The directory is a bootstrap service in both modes. -/
theorem directoryChannel_eq : robot.directoryChannel =
    if robot.bypassProxy then robot.ensureInsecureChannel directoryEndpoint
    else robot.ensureSecureChannel "api.spot.robot" := by
  unfold directoryChannel ensureChannelOver
  split
  · have found : bootstrapEndpointsByName.lookup "directory" = some directoryEndpoint := by
      simp [bootstrapEndpointsByName]
    rw [lookUp_known (by rw [found]; rfl)]
    exact if_neg (not_not.mpr rfl)
  · have found : bootstrapAuthoritiesByName.lookup "directory" = some "api.spot.robot" := by
      simp [bootstrapAuthoritiesByName]
    rw [lookUp_known (by rw [found]; rfl)]

theorem listServices_eq : listServices directory robot =
    robot.directoryChannel.2.updateInformationFromListEntries directory := by
  have ok : robot.directoryChannel.1.ok = true := by
    rw [directoryChannel_eq]
    split <;> exact channelUnder_ok
  exact if_pos ok

@[simp] theorem listServices_ok : (listServices directory robot).1.ok = directory.ok := by
  rw [listServices_eq, updateInformationFromListEntries]
  split
  · next ok => exact ok.symm
  · rfl

theorem listServices_status (failed : directory.ok = false) :
    (listServices directory robot).1.status = directory.status := by
  rw [listServices_eq, updateInformationFromListEntries, if_neg (Bool.eq_false_iff.mp failed)]

@[simp] theorem listServices_bypassProxy :
    (listServices directory robot).2.bypassProxy = robot.bypassProxy := by
  rw [listServices_eq, updateInformationFromListEntries, directoryChannel_eq]
  split <;> split <;> exact channelUnder_bypassProxy

/-- A listing leaves the endpoints as they are. -/
@[simp] theorem listServices_endpointsByName :
    (listServices directory robot).2.endpointsByName = robot.endpointsByName := by
  rw [listServices_eq, updateInformationFromListEntries, directoryChannel_eq]
  split <;> split <;> exact channelUnder_endpointsByName

theorem listServices_authoritiesByName : (listServices directory robot).2.authoritiesByName =
    if directory.ok then authoritiesOf directory.response else robot.authoritiesByName := by
  rw [listServices_eq, updateInformationFromListEntries, directoryChannel_eq]
  split
  · rfl
  · split <;> exact channelUnder_authoritiesByName

end Listing

end RobotChannels

end SpotSdk.Client
