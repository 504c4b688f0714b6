import SpotSdk.Common.RpcErrorCode
import SpotSdk.Foundations.LabelledRuns

/-!
# A session of the SDK

An application names its `ClientSdk`, initializes it, adds its processors and creates its
robots. Every robot gets copies of the processor chains and every service client gets copies
of those of its robot, so what reaches the clients is fixed by the preconditions on the order
of the calls, as long as the chains of a robot are not replaced. A precondition that fails
terminates the program.

## Implementation notes

Of a lease wallet only the client name is kept, and a null pointer is `none`. Processors and
clients are not null.
-/

namespace SpotSdk.Client

open Foundations Common

variable {P Q : Type}

/-- A request processor: the default one with its client name, or one of the application. -/
inductive SessionRequestProcessor (P : Type)
  | common (clientName : String)
  | custom (processor : P)
  deriving DecidableEq

inductive SessionResponseProcessor (Q : Type)
  | common
  | custom (processor : Q)
  deriving DecidableEq

inductive ProxyUseType
  | useProxy
  | bypassProxy
  | autoDetermine
  deriving DecidableEq

/-- The processor chains that a service client is set up with. -/
structure ClientChains (P Q : Type) where
  requestProcessorChain : List (SessionRequestProcessor P)
  responseProcessorChain : List (SessionResponseProcessor Q)
  deriving DecidableEq

/-- What a robot gets from its `ClientSdk`, its wallet, and the chains that it has set clients
up with. -/
structure SessionRobot (P Q : Type) where
  leaseWallet : Option String
  bypassProxy : Bool
  networkAddress : String := ""
  cert : String := ""
  chains : ClientChains P Q := ⟨[], []⟩
  clients : List (ClientChains P Q) := []
  deriving DecidableEq

structure ClientSdk (P Q : Type) where
  isInitialized : Bool := false
  isRobotCreated : Bool := false
  clientName : String := ""
  cert : String := ""
  chains : ClientChains P Q := ⟨[], []⟩
  robots : List (SessionRobot P Q) := []
  deriving DecidableEq

/-- The calls of an application. The robots are numbered in the order of their creation. -/
inductive SessionCall (P Q : Type)
  | setClientName (clientName : String)
  | loadRobotCert (cert : String)
  | init
  | addCustomRequestProcessor (processor : P)
  | addCustomResponseProcessor (processor : Q)
  | createRobot (networkAddress : String) (proxyUse : ProxyUseType) (leaseWallet : Option String)
  | setWallet (robot : Nat) (wallet : Option String)
  | setGlobalProcessorChains (robot : Nat) (chains : ClientChains P Q)
  | addRobotRequestProcessor (robot : Nat) (processor : P)
  | addRobotResponseProcessor (robot : Nat) (processor : Q)
  | setupClient (robot : Nat)

/-- The address that is taken for one with a port. -/
def passesPort (networkAddress : String) : Bool :=
  contains networkAddress ":" && !contains networkAddress "::"

def bypassesProxy (networkAddress : String) : ProxyUseType → Bool
  | .bypassProxy => true
  | .useProxy => false
  | .autoDetermine =>
      networkAddress = "127.0.0.1" || networkAddress = "::1" || networkAddress = "localhost"

namespace ClientChains

def appendRequest (chains : ClientChains P Q) (processor : SessionRequestProcessor P) :
    ClientChains P Q :=
  { chains with requestProcessorChain := chains.requestProcessorChain ++ [processor] }

def appendResponse (chains : ClientChains P Q) (processor : SessionResponseProcessor Q) :
    ClientChains P Q :=
  { chains with responseProcessorChain := chains.responseProcessorChain ++ [processor] }

end ClientChains

namespace SessionRobot

/-- The constructor, which makes a wallet of the given name. -/
def new (clientName : String) (bypassProxy : Bool) : SessionRobot P Q where
  leaseWallet := some clientName
  bypassProxy := bypassProxy

def setNetworkAddress (r : SessionRobot P Q) (networkAddress : String) : SessionRobot P Q :=
  { r with networkAddress := networkAddress }

def setRobotCert (r : SessionRobot P Q) (cert : String) : SessionRobot P Q :=
  { r with cert := cert }

def setWallet (r : SessionRobot P Q) (wallet : Option String) : SessionRobot P Q :=
  { r with leaseWallet := wallet }

def setGlobalProcessorChains (r : SessionRobot P Q) (chains : ClientChains P Q) :
    SessionRobot P Q :=
  { r with chains := chains }

end SessionRobot

namespace ClientSdk

/-- The robot that `CreateRobot` makes. -/
def newRobot (s : ClientSdk P Q) (networkAddress : String) (bypassProxy : Bool)
    (leaseWallet : Option String) : SessionRobot P Q :=
  let robot := SessionRobot.new s.clientName bypassProxy
  let robot := (robot.setNetworkAddress networkAddress).setGlobalProcessorChains s.chains
  let robot := if bypassProxy then robot else robot.setRobotCert s.cert
  if leaseWallet.isSome then robot.setWallet leaseWallet else robot

/-- `CreateRobot` past its precondition. -/
def createRobot (s : ClientSdk P Q) (networkAddress : String) (proxyUse : ProxyUseType)
    (leaseWallet : Option String) : ClientSdk P Q :=
  if passesPort networkAddress then s
  else
    let bypassProxy := bypassesProxy networkAddress proxyUse
    { s with
      isRobotCreated := true
      robots := s.robots ++ [s.newRobot networkAddress bypassProxy leaseWallet] }

section NewRobot

variable (s : ClientSdk P Q) (networkAddress : String) (bypassProxy : Bool)
  (leaseWallet : Option String)

@[simp] theorem newRobot_leaseWallet :
    (s.newRobot networkAddress bypassProxy leaseWallet).leaseWallet =
      some (leaseWallet.getD s.clientName) := by
  cases leaseWallet <;> cases bypassProxy <;> rfl

@[simp] theorem newRobot_chains :
    (s.newRobot networkAddress bypassProxy leaseWallet).chains = s.chains := by
  cases leaseWallet <;> cases bypassProxy <;> rfl

@[simp] theorem newRobot_clients :
    (s.newRobot networkAddress bypassProxy leaseWallet).clients = [] := by
  cases leaseWallet <;> cases bypassProxy <;> rfl

end NewRobot

/-- A call of a robot that exists. -/
def onRobot (s : ClientSdk P Q) (robot : Nat) (f : SessionRobot P Q → SessionRobot P Q) :
    Option (ClientSdk P Q) :=
  if robot < s.robots.length then some { s with robots := s.robots.modify robot f } else none

def step (s : ClientSdk P Q) : SessionCall P Q → Option (ClientSdk P Q)
  | .setClientName clientName =>
      if !s.isInitialized && !s.isRobotCreated then some { s with clientName := clientName }
      else none
  | .loadRobotCert cert => some { s with cert := cert }
  -- `CreateDefaultProcessors` appends the two default processors
  | .init =>
      if !s.isInitialized && !s.isRobotCreated && s.clientName ≠ "" then
        some { s with
          isInitialized := true
          chains := (s.chains.appendRequest (.common s.clientName)).appendResponse .common }
      else none
  | .addCustomRequestProcessor processor =>
      if s.isInitialized && !s.isRobotCreated then
        some { s with chains := s.chains.appendRequest (.custom processor) }
      else none
  | .addCustomResponseProcessor processor =>
      if s.isInitialized && !s.isRobotCreated then
        some { s with chains := s.chains.appendResponse (.custom processor) }
      else none
  | .createRobot networkAddress proxyUse leaseWallet =>
      if s.isInitialized then some (s.createRobot networkAddress proxyUse leaseWallet) else none
  | .setWallet robot wallet => s.onRobot robot fun r => r.setWallet wallet
  | .setGlobalProcessorChains robot chains =>
      s.onRobot robot fun r => r.setGlobalProcessorChains chains
  | .addRobotRequestProcessor robot processor =>
      s.onRobot robot fun r => { r with chains := r.chains.appendRequest (.custom processor) }
  | .addRobotResponseProcessor robot processor =>
      s.onRobot robot fun r => { r with chains := r.chains.appendResponse (.custom processor) }
  | .setupClient robot =>
      s.onRobot robot fun r => { r with clients := r.clients ++ [r.chains] }

end ClientSdk

/-! ## What the calls say -/

namespace SessionCall

def setsName? : SessionCall P Q → Option String
  | .setClientName clientName => some clientName
  | _ => none

def isInit : SessionCall P Q → Bool
  | .init => true
  | _ => false

/-- The call creates a robot, once its precondition holds. -/
def creates : SessionCall P Q → Bool
  | .createRobot networkAddress _ _ => !passesPort networkAddress
  | _ => false

/-- The wallet that a call creates a robot with, which may be none. -/
def creation? : SessionCall P Q → Option (Option String)
  | .createRobot networkAddress _ leaseWallet =>
      if passesPort networkAddress then none else some leaseWallet
  | _ => none

/-- The wallet that a robot is set to. -/
def wallet? (robot : Nat) : SessionCall P Q → Option (Option String)
  | .setWallet r wallet => if r = robot then some wallet else none
  | _ => none

/-- The call replaces the chains of a robot. -/
def replaces (robot : Nat) : SessionCall P Q → Bool
  | .setGlobalProcessorChains r _ => r = robot
  | _ => false

def customRequest? : SessionCall P Q → Option P
  | .addCustomRequestProcessor processor => some processor
  | _ => none

def customResponse? : SessionCall P Q → Option Q
  | .addCustomResponseProcessor processor => some processor
  | _ => none

def robotRequest? (robot : Nat) : SessionCall P Q → Option P
  | .addRobotRequestProcessor r processor => if r = robot then some processor else none
  | _ => none

def robotResponse? (robot : Nat) : SessionCall P Q → Option Q
  | .addRobotResponseProcessor r processor => if r = robot then some processor else none
  | _ => none

end SessionCall

section History

variable (h : List (SessionCall P Q))

/-- The last name that a history sets. -/
def sessionName : String := (h.filterMap SessionCall.setsName?).getLastD ""

/-- The chains of the SDK: the default processors and then those that were added. -/
def sessionChains : ClientChains P Q :=
  ⟨.common (sessionName h) :: (h.filterMap SessionCall.customRequest?).map .custom,
    .common :: (h.filterMap SessionCall.customResponse?).map .custom⟩

/-- The chains of a robot: those of the SDK and then its own processors. -/
def robotChains (robot : Nat) : ClientChains P Q :=
  ⟨(sessionChains h).requestProcessorChain ++
      (h.filterMap (SessionCall.robotRequest? robot)).map .custom,
    (sessionChains h).responseProcessorChain ++
      (h.filterMap (SessionCall.robotResponse? robot)).map .custom⟩

/-- The wallet of a robot: the last one that it was set to, or the one that it was created with,
or else one of the SDK's name. -/
def robotWallet (robot : Nat) : Option String :=
  (h.filterMap (SessionCall.wallet? robot)).getLastD
    (some ((h.filterMap SessionCall.creation?)[robot]?.join.getD (sessionName h)))

/-- No call replaces the chains of the robot. -/
def Untouched (robot : Nat) : Prop := h.any (SessionCall.replaces robot) = false

/-- A call whose precondition holds after a history. -/
def Permitted : SessionCall P Q → Prop
  | .setClientName _ => h.any SessionCall.isInit = false
  | .loadRobotCert _ => True
  | .init => h.any SessionCall.isInit = false ∧ sessionName h ≠ ""
  | .addCustomRequestProcessor _ =>
      h.any SessionCall.isInit = true ∧ h.any SessionCall.creates = false
  | .addCustomResponseProcessor _ =>
      h.any SessionCall.isInit = true ∧ h.any SessionCall.creates = false
  | .createRobot .. => h.any SessionCall.isInit = true
  | .setWallet robot _ => robot < h.countP SessionCall.creates
  | .setGlobalProcessorChains robot _ => robot < h.countP SessionCall.creates
  | .addRobotRequestProcessor robot _ => robot < h.countP SessionCall.creates
  | .addRobotResponseProcessor robot _ => robot < h.countP SessionCall.creates
  | .setupClient robot => robot < h.countP SessionCall.creates

end History

/-- Chains that extend those below and are extended by those above. -/
structure ClientChains.Between (chains below above : ClientChains P Q) : Prop where
  requestLow : below.requestProcessorChain <+: chains.requestProcessorChain
  requestHigh : chains.requestProcessorChain <+: above.requestProcessorChain
  responseLow : below.responseProcessorChain <+: chains.responseProcessorChain
  responseHigh : chains.responseProcessorChain <+: above.responseProcessorChain

/-- What every robot of a session has. -/
structure SharesSession (h : List (SessionCall P Q)) (robot : Nat) (r : SessionRobot P Q) :
    Prop where
  wallet : r.leaseWallet = robotWallet h robot
  chains : Untouched h robot → r.chains = robotChains h robot
  /-- The chains that its clients are set up with begin with those of the SDK. -/
  clients : Untouched h robot →
    ∀ chains ∈ r.clients, chains.Between (sessionChains h) (robotChains h robot)

/-- What holds of the SDK after a history. -/
structure SessionState (h : List (SessionCall P Q)) (s : ClientSdk P Q) : Prop where
  initialized : s.isInitialized = h.any SessionCall.isInit
  created : s.isRobotCreated = h.any SessionCall.creates
  ordered : s.isRobotCreated = true → s.isInitialized = true
  name : s.clientName = sessionName h
  chains : s.chains = if s.isInitialized then sessionChains h else ⟨[], []⟩
  /-- No processor is added before the SDK is initialized, or to a robot before it is made. -/
  early : s.isInitialized = false → h.filterMap SessionCall.customRequest? = [] ∧
    h.filterMap SessionCall.customResponse? = []
  unborn : ∀ robot, s.robots.length ≤ robot →
    h.filterMap (SessionCall.robotRequest? robot) = [] ∧
      h.filterMap (SessionCall.robotResponse? robot) = [] ∧
      h.filterMap (SessionCall.wallet? robot) = []
  robots : s.robots.length = h.countP SessionCall.creates
  shares : ∀ robot r, s.robots[robot]? = some r → SharesSession h robot r

section Steps

variable {h : List (SessionCall P Q)} {s t : ClientSdk P Q} {e : SessionCall P Q} {robot : Nat}
  {r : SessionRobot P Q}

/-- The call adds nothing to the chains of the SDK and does not name it. -/
def SessionCall.KeepsSession (e : SessionCall P Q) : Prop :=
  e.setsName? = none ∧ e.customRequest? = none ∧ e.customResponse? = none

/-- The call adds nothing to the chains of a robot and does not set its wallet. -/
def SessionCall.KeepsRobot (robot : Nat) (e : SessionCall P Q) : Prop :=
  e.robotRequest? robot = none ∧ e.robotResponse? robot = none ∧ e.wallet? robot = none

theorem sessionName_kept (keeps : e.KeepsSession) : sessionName (h ++ [e]) = sessionName h := by
  simp [sessionName, List.filterMap_append, keeps.1]

theorem sessionChains_kept (keeps : e.KeepsSession) :
    sessionChains (h ++ [e]) = sessionChains h := by
  simp [sessionChains, sessionName_kept keeps, List.filterMap_append, keeps.2.1, keeps.2.2]

theorem robotChains_kept (keeps : e.KeepsSession) (request : e.robotRequest? robot = none)
    (response : e.robotResponse? robot = none) :
    robotChains (h ++ [e]) robot = robotChains h robot := by
  simp [robotChains, sessionChains_kept keeps, List.filterMap_append, request, response]

/-- A call that keeps the session only adds to the chains of a robot. -/
theorem robotChains_grow (keeps : e.KeepsSession) :
    (robotChains h robot).requestProcessorChain <+:
        (robotChains (h ++ [e]) robot).requestProcessorChain ∧
      (robotChains h robot).responseProcessorChain <+:
        (robotChains (h ++ [e]) robot).responseProcessorChain := by
  have grown : h <+: h ++ [e] := List.prefix_append h [e]
  rw [robotChains, robotChains, sessionChains_kept keeps]
  constructor
  · exact (List.prefix_append_right_inj _).mpr ((grown.filterMap _).map _)
  · exact (List.prefix_append_right_inj _).mpr ((grown.filterMap _).map _)

theorem sessionChains_between (h : List (SessionCall P Q)) (robot : Nat) :
    (robotChains h robot).Between (sessionChains h) (robotChains h robot) where
  requestLow := List.prefix_append _ _
  requestHigh := List.prefix_rfl
  responseLow := List.prefix_append _ _
  responseHigh := List.prefix_rfl

theorem length_creations (h : List (SessionCall P Q)) :
    (h.filterMap SessionCall.creation?).length = h.countP SessionCall.creates := by
  have same : (fun call : SessionCall P Q => call.creation?.isSome) = SessionCall.creates := by
    funext call
    cases call with
    | createRobot networkAddress proxyUse leaseWallet =>
        simp only [SessionCall.creation?, SessionCall.creates]
        cases passesPort networkAddress <;> rfl
    | _ => rfl
  rw [List.length_filterMap_eq_countP, same]

/-- The wallet of a robot that exists stays, unless a call sets it. -/
theorem robotWallet_kept (keeps : e.KeepsSession) (own : e.wallet? robot = none)
    (inside : robot < h.countP SessionCall.creates) :
    robotWallet (h ++ [e]) robot = robotWallet h robot := by
  rw [← length_creations] at inside
  rw [robotWallet, robotWallet, sessionName_kept keeps, List.filterMap_append,
    List.filterMap_append, List.getElem?_append_left inside]
  simp [own]

theorem Untouched.before (untouched : Untouched (h ++ [e]) robot) : Untouched h robot := by
  rw [Untouched, List.any_append, Bool.or_eq_false_iff] at untouched
  exact untouched.1

/-- What a robot shares stays while its own chains follow the history. -/
theorem SharesSession.snoc (shares : SharesSession h robot r) (keeps : e.KeepsSession)
    (wallet : robotWallet (h ++ [e]) robot = robotWallet h robot) {chains : ClientChains P Q}
    (follow : Untouched h robot → chains = robotChains (h ++ [e]) robot) :
    SharesSession (h ++ [e]) robot { r with chains := chains } := by
  have grow := @robotChains_grow P Q h e robot keeps
  obtain ⟨request, response⟩ := grow
  constructor
  case wallet => exact shares.wallet.trans wallet.symm
  case chains => exact fun untouched => follow untouched.before
  case clients =>
    intro untouched client member
    have between := shares.clients untouched.before client member
    rw [sessionChains_kept keeps]
    exact ⟨between.requestLow, between.requestHigh.trans request, between.responseLow,
      between.responseHigh.trans response⟩

theorem SharesSession.kept (shares : SharesSession h robot r) (keeps : e.KeepsSession)
    (own : e.KeepsRobot robot) (inside : robot < h.countP SessionCall.creates) :
    SharesSession (h ++ [e]) robot r :=
  shares.snoc keeps (robotWallet_kept keeps own.2.2 inside) fun untouched =>
    (shares.chains untouched).trans (robotChains_kept keeps own.1 own.2.1).symm

/-! ### The calls of a robot -/

theorem SharesSession.setWallet (shares : SharesSession h robot r) (wallet : Option String) :
    SharesSession (h ++ [.setWallet robot wallet]) robot (r.setWallet wallet) := by
  have keeps : SessionCall.KeepsSession (P := P) (Q := Q) (.setWallet robot wallet) :=
    ⟨rfl, rfl, rfl⟩
  have sets : SessionCall.wallet? (P := P) (Q := Q) robot (.setWallet robot wallet) =
      some wallet := if_pos rfl
  constructor
  case wallet =>
    rw [robotWallet, List.filterMap_append]
    simp [sets, SessionRobot.setWallet]
  case chains =>
    intro untouched
    exact (shares.chains untouched.before).trans (robotChains_kept keeps rfl rfl).symm
  case clients =>
    intro untouched client member
    rw [sessionChains_kept keeps, robotChains_kept keeps rfl rfl]
    exact shares.clients untouched.before client member

/-- Of a robot whose chains are replaced only the wallet is known. -/
theorem SharesSession.setGlobalProcessorChains (shares : SharesSession h robot r)
    (chains : ClientChains P Q) (inside : robot < h.countP SessionCall.creates) :
    SharesSession (h ++ [.setGlobalProcessorChains robot chains]) robot
      (r.setGlobalProcessorChains chains) := by
  have touched : ¬ Untouched (h ++ [.setGlobalProcessorChains robot chains]) robot := by
    simp [Untouched, SessionCall.replaces]
  constructor
  case wallet => exact shares.wallet.trans (robotWallet_kept ⟨rfl, rfl, rfl⟩ rfl inside).symm
  case chains => exact fun untouched => absurd untouched touched
  case clients => exact fun untouched => absurd untouched touched

theorem SharesSession.addRequestProcessor (shares : SharesSession h robot r) (processor : P)
    (inside : robot < h.countP SessionCall.creates) :
    SharesSession (h ++ [.addRobotRequestProcessor robot processor]) robot
      { r with chains := r.chains.appendRequest (.custom processor) } := by
  have keeps : SessionCall.KeepsSession (P := P) (Q := Q)
      (.addRobotRequestProcessor robot processor) := ⟨rfl, rfl, rfl⟩
  refine shares.snoc keeps (robotWallet_kept keeps rfl inside) fun untouched => ?_
  have own : SessionCall.robotRequest? (P := P) (Q := Q) robot
      (.addRobotRequestProcessor robot processor) = some processor := if_pos rfl
  have none : SessionCall.robotResponse? (P := P) (Q := Q) robot
      (.addRobotRequestProcessor robot processor) = none := rfl
  rw [shares.chains untouched, robotChains, robotChains, sessionChains_kept keeps]
  simp [ClientChains.appendRequest, List.filterMap_append, own, none]

theorem SharesSession.addResponseProcessor (shares : SharesSession h robot r) (processor : Q)
    (inside : robot < h.countP SessionCall.creates) :
    SharesSession (h ++ [.addRobotResponseProcessor robot processor]) robot
      { r with chains := r.chains.appendResponse (.custom processor) } := by
  have keeps : SessionCall.KeepsSession (P := P) (Q := Q)
      (.addRobotResponseProcessor robot processor) := ⟨rfl, rfl, rfl⟩
  refine shares.snoc keeps (robotWallet_kept keeps rfl inside) fun untouched => ?_
  have own : SessionCall.robotResponse? (P := P) (Q := Q) robot
      (.addRobotResponseProcessor robot processor) = some processor := if_pos rfl
  have none : SessionCall.robotRequest? (P := P) (Q := Q) robot
      (.addRobotResponseProcessor robot processor) = none := rfl
  rw [shares.chains untouched, robotChains, robotChains, sessionChains_kept keeps]
  simp [ClientChains.appendResponse, List.filterMap_append, own, none]

/-- A client is set up with the chains of its robot. -/
theorem SharesSession.setupClient (shares : SharesSession h robot r)
    (inside : robot < h.countP SessionCall.creates) :
    SharesSession (h ++ [.setupClient robot]) robot
      { r with clients := r.clients ++ [r.chains] } := by
  have keeps : SessionCall.KeepsSession (P := P) (Q := Q) (.setupClient robot) :=
    ⟨rfl, rfl, rfl⟩
  have kept := shares.kept keeps ⟨rfl, rfl, rfl⟩ inside
  refine ⟨kept.wallet, kept.chains, ?_⟩
  intro untouched client member
  rcases List.mem_append.mp member with before | last
  · exact kept.clients untouched client before
  · rw [List.mem_singleton.mp last, shares.chains untouched.before, sessionChains_kept keeps,
      robotChains_kept keeps rfl rfl]
    exact sessionChains_between h robot

/-! ### The state after a history -/

theorem SessionState.inside (state : SessionState h s) (found : s.robots[robot]? = some r) :
    robot < h.countP SessionCall.creates := by
  rw [← state.robots]
  exact (List.getElem?_eq_some_iff.mp found).1

/-- Without a robot nothing is shared. -/
theorem SessionState.alone (state : SessionState h s) (uncreated : s.isRobotCreated = false) :
    s.robots = [] := by
  have none : h.countP SessionCall.creates = 0 := by
    rw [state.created] at uncreated
    rw [List.countP_eq_zero]
    intro e member creates
    have found := List.any_eq_true.mpr ⟨e, member, creates⟩
    rw [uncreated] at found
    cases found
  exact List.eq_nil_of_length_eq_zero (state.robots.trans none)

/-- A call that changes nothing but the certificate. -/
theorem SessionState.quiet (state : SessionState h s) (keeps : e.KeepsSession)
    (noInit : e.isInit = false) (noCreate : e.creates = false) (own : ∀ i, e.KeepsRobot i)
    (cert : String) : SessionState (h ++ [e]) { s with cert := cert } := by
  constructor
  case initialized => simp [state.initialized, noInit]
  case created => simp [state.created, noCreate]
  case ordered => exact state.ordered
  case name => exact state.name.trans (sessionName_kept keeps).symm
  case chains =>
    rw [sessionChains_kept keeps]
    exact state.chains
  case early =>
    intro uninitialized
    have early := state.early uninitialized
    simp [List.filterMap_append, early.1, early.2, keeps.2.1, keeps.2.2]
  case unborn =>
    intro i beyond
    have unborn := state.unborn i beyond
    simp [List.filterMap_append, unborn, (own i).1, (own i).2.1, (own i).2.2]
  case robots => simp [state.robots, List.countP_append, noCreate]
  case shares =>
    exact fun i r found => (state.shares i r found).kept keeps (own i) (state.inside found)

/-- A call of a robot that exists. -/
theorem SessionState.onRobot (state : SessionState h s) {f : SessionRobot P Q → SessionRobot P Q}
    (called : s.onRobot robot f = some t) (keeps : e.KeepsSession) (noInit : e.isInit = false)
    (noCreate : e.creates = false) (others : ∀ i, i ≠ robot → e.KeepsRobot i)
    (own : ∀ r, robot < h.countP SessionCall.creates → SharesSession h robot r →
      SharesSession (h ++ [e]) robot (f r)) :
    SessionState (h ++ [e]) t := by
  rw [ClientSdk.onRobot] at called
  split at called
  case isFalse => cases called
  case isTrue inside =>
    cases called
    constructor
    case initialized => simp [state.initialized, noInit]
    case created => simp [state.created, noCreate]
    case ordered => exact state.ordered
    case name => exact state.name.trans (sessionName_kept keeps).symm
    case chains =>
      rw [sessionChains_kept keeps]
      exact state.chains
    case early =>
      intro uninitialized
      have early := state.early uninitialized
      simp [List.filterMap_append, early.1, early.2, keeps.2.1, keeps.2.2]
    case unborn =>
      intro i beyond
      rw [List.length_modify] at beyond
      have unborn := state.unborn i beyond
      have other := others i (by omega)
      simp [List.filterMap_append, unborn, other.1, other.2.1, other.2.2]
    case robots => simp [state.robots, List.countP_append, noCreate]
    case shares =>
      intro i r found
      rw [List.getElem?_modify] at found
      obtain ⟨r', old, rfl⟩ := Option.map_eq_some_iff.mp found
      have shares := state.shares i r' old
      split
      · next same =>
        obtain rfl := same
        exact own r' (state.inside old) shares
      · next other => exact shares.kept keeps (others i (Ne.symm other)) (state.inside old)

/-- A call that changes the SDK alone, while there is no robot. -/
theorem SessionState.beforeRobots (state : SessionState h s) (uncreated : s.isRobotCreated = false)
    (noRobot : ∀ i, e.KeepsRobot i) (noCreate : e.creates = false)
    (initialized : t.isInitialized = (h ++ [e]).any SessionCall.isInit)
    (same : t.isRobotCreated = s.isRobotCreated) (robots : t.robots = s.robots)
    (name : t.clientName = sessionName (h ++ [e]))
    (chains : t.chains = if t.isInitialized then sessionChains (h ++ [e]) else ⟨[], []⟩)
    (early : t.isInitialized = false → (h ++ [e]).filterMap SessionCall.customRequest? = [] ∧
      (h ++ [e]).filterMap SessionCall.customResponse? = []) :
    SessionState (h ++ [e]) t := by
  have alone := state.alone uncreated
  constructor
  case initialized => exact initialized
  case created => simp [same, state.created, noCreate]
  case ordered =>
    intro created
    rw [same, uncreated] at created
    cases created
  case name => exact name
  case chains => exact chains
  case early => exact early
  case unborn =>
    intro i beyond
    rw [robots] at beyond
    have unborn := state.unborn i beyond
    have other := noRobot i
    simp [List.filterMap_append, unborn, other.1, other.2.1, other.2.2]
  case robots => simp [robots, state.robots, List.countP_append, noCreate]
  case shares =>
    intro i r found
    rw [robots, alone] at found
    simp at found

/-- `CreateRobot` hands the session to a new robot, or refuses the address. -/
theorem SessionState.createRobot (state : SessionState h s) (initialized : s.isInitialized = true)
    (networkAddress : String) (proxyUse : ProxyUseType) (leaseWallet : Option String) :
    SessionState (h ++ [.createRobot networkAddress proxyUse leaseWallet])
      (s.createRobot networkAddress proxyUse leaseWallet) := by
  generalize made : SessionCall.createRobot networkAddress proxyUse leaseWallet = e
  have keeps : SessionCall.KeepsSession (P := P) (Q := Q) e := by
    subst made
    exact ⟨rfl, rfl, rfl⟩
  have own (i : Nat) : e.KeepsRobot i := by
    subst made
    exact ⟨rfl, rfl, rfl⟩
  have noInit : e.isInit = false := by
    subst made
    rfl
  have chains : s.chains = sessionChains h := by rw [state.chains, if_pos initialized]
  rw [ClientSdk.createRobot]
  split
  case isTrue refused =>
    have quiet : e.creates = false := by simp [← made, SessionCall.creates, refused]
    exact state.quiet keeps noInit quiet own s.cert
  case isFalse accepted =>
    have creates : e.creates = true := by simp [← made, SessionCall.creates, accepted]
    have creation : e.creation? = some leaseWallet := by
      simp [← made, SessionCall.creation?, accepted]
    constructor
    case initialized => simp [state.initialized, noInit]
    case created => simp [creates]
    case ordered => exact fun _ => initialized
    case name => exact state.name.trans (sessionName_kept keeps).symm
    case chains =>
      rw [sessionChains_kept keeps]
      exact state.chains
    case early =>
      intro uninitialized
      rw [initialized] at uninitialized
      cases uninitialized
    case unborn =>
      intro i beyond
      rw [List.length_append, List.length_singleton] at beyond
      have unborn := state.unborn i (by omega)
      simp [List.filterMap_append, unborn, (own i).1, (own i).2.1, (own i).2.2]
    case robots => simp [state.robots, List.countP_append, creates]
    case shares =>
      intro i r found
      rcases Nat.lt_trichotomy i s.robots.length with before | rfl | beyond
      · rw [List.getElem?_append_left before] at found
        exact (state.shares i r found).kept keeps (own i) (state.inside found)
      · rw [List.getElem?_concat_length] at found
        obtain rfl := Option.some.inj found
        obtain ⟨request, response, wallet⟩ := state.unborn s.robots.length (Nat.le_refl _)
        constructor
        case wallet =>
          have last : s.robots.length = (h.filterMap SessionCall.creation?).length := by
            rw [length_creations, state.robots]
          rw [robotWallet, sessionName_kept keeps, List.filterMap_append, List.filterMap_append,
            wallet, last]
          simp only [List.filterMap_cons, (own _).2.2, creation, List.filterMap_nil]
          rw [List.getElem?_concat_length, ← state.name, ClientSdk.newRobot_leaseWallet]
          rfl
        case chains =>
          intro _
          rw [robotChains_kept keeps (own _).1 (own _).2.1, robotChains, request, response]
          simp [chains]
        case clients =>
          intro _ client member
          rw [ClientSdk.newRobot_clients] at member
          exact absurd member List.not_mem_nil
      · rw [List.getElem?_eq_none (by simp; omega)] at found
        cases found

theorem SessionState.step (state : SessionState h s) (hstep : StepOf ClientSdk.step s e t) :
    SessionState (h ++ [e]) t := by
  rw [StepOf] at hstep
  cases e with
  | setClientName clientName =>
      simp only [ClientSdk.step] at hstep
      split at hstep
      case isFalse => cases hstep
      case isTrue both =>
        cases hstep
        simp only [Bool.and_eq_true, Bool.not_eq_true'] at both
        refine state.beforeRobots both.2 (fun _ => ⟨rfl, rfl, rfl⟩) rfl ?_ rfl rfl ?_ ?_ ?_
        · simp [state.initialized, SessionCall.isInit]
        · simp [sessionName, List.filterMap_append, SessionCall.setsName?]
        · simp [state.chains, both.1]
        · intro uninitialized
          have early := state.early uninitialized
          simp [List.filterMap_append, early.1, early.2, SessionCall.customRequest?,
            SessionCall.customResponse?]
  | loadRobotCert cert =>
      cases hstep
      exact state.quiet ⟨rfl, rfl, rfl⟩ rfl rfl (fun _ => ⟨rfl, rfl, rfl⟩) cert
  | init =>
      simp only [ClientSdk.step] at hstep
      split at hstep
      case isFalse => cases hstep
      case isTrue both =>
        cases hstep
        simp only [Bool.and_eq_true, Bool.not_eq_true'] at both
        have early := state.early both.1.1
        refine state.beforeRobots both.1.2 (fun _ => ⟨rfl, rfl, rfl⟩) rfl ?_ rfl rfl ?_ ?_ nofun
        · simp [SessionCall.isInit]
        · exact state.name.trans (sessionName_kept ⟨rfl, rfl, rfl⟩).symm
        · rw [sessionChains_kept ⟨rfl, rfl, rfl⟩, state.chains, if_neg (by simp [both.1.1]),
            sessionChains, early.1, early.2, state.name]
          rfl
  | addCustomRequestProcessor processor =>
      simp only [ClientSdk.step] at hstep
      split at hstep
      case isFalse => cases hstep
      case isTrue both =>
        cases hstep
        simp only [Bool.and_eq_true, Bool.not_eq_true'] at both
        refine state.beforeRobots both.2 (fun _ => ⟨rfl, rfl, rfl⟩) rfl ?_ rfl rfl ?_ ?_ ?_
        · simp [state.initialized, SessionCall.isInit]
        · simp [state.name, sessionName, List.filterMap_append, SessionCall.setsName?]
        · simp [state.chains, both.1, ClientChains.appendRequest, sessionChains, sessionName,
            List.filterMap_append, SessionCall.setsName?, SessionCall.customRequest?,
            SessionCall.customResponse?]
        · simp [both.1]
  | addCustomResponseProcessor processor =>
      simp only [ClientSdk.step] at hstep
      split at hstep
      case isFalse => cases hstep
      case isTrue both =>
        cases hstep
        simp only [Bool.and_eq_true, Bool.not_eq_true'] at both
        refine state.beforeRobots both.2 (fun _ => ⟨rfl, rfl, rfl⟩) rfl ?_ rfl rfl ?_ ?_ ?_
        · simp [state.initialized, SessionCall.isInit]
        · simp [state.name, sessionName, List.filterMap_append, SessionCall.setsName?]
        · simp [state.chains, both.1, ClientChains.appendResponse, sessionChains, sessionName,
            List.filterMap_append, SessionCall.setsName?, SessionCall.customRequest?,
            SessionCall.customResponse?]
        · simp [both.1]
  | createRobot networkAddress proxyUse leaseWallet =>
      simp only [ClientSdk.step] at hstep
      split at hstep
      case isFalse => cases hstep
      case isTrue initialized =>
        cases hstep
        exact state.createRobot initialized networkAddress proxyUse leaseWallet
  | setWallet robot wallet =>
      exact state.onRobot hstep ⟨rfl, rfl, rfl⟩ rfl rfl
        (fun _ other => ⟨rfl, rfl, if_neg other.symm⟩) fun _ _ shares => shares.setWallet wallet
  | setGlobalProcessorChains robot chains =>
      exact state.onRobot hstep ⟨rfl, rfl, rfl⟩ rfl rfl (fun _ _ => ⟨rfl, rfl, rfl⟩)
        fun _ inside shares => shares.setGlobalProcessorChains chains inside
  | addRobotRequestProcessor robot processor =>
      exact state.onRobot hstep ⟨rfl, rfl, rfl⟩ rfl rfl
        (fun _ other => ⟨if_neg other.symm, rfl, rfl⟩)
        fun _ inside shares => shares.addRequestProcessor processor inside
  | addRobotResponseProcessor robot processor =>
      exact state.onRobot hstep ⟨rfl, rfl, rfl⟩ rfl rfl
        (fun _ other => ⟨rfl, if_neg other.symm, rfl⟩)
        fun _ inside shares => shares.addResponseProcessor processor inside
  | setupClient robot =>
      exact state.onRobot hstep ⟨rfl, rfl, rfl⟩ rfl rfl (fun _ _ => ⟨rfl, rfl, rfl⟩)
        fun _ inside shares => shares.setupClient inside

/-- In a known state a call goes through exactly if it is permitted after the history. -/
theorem SessionState.step_iff (state : SessionState h s) :
    (ClientSdk.step s e).isSome = true ↔ Permitted h e := by
  have uncreated : s.isInitialized = false → s.isRobotCreated = false := by
    intro uninitialized
    by_contra created
    have initialized := state.ordered (by simpa using created)
    rw [uninitialized] at initialized
    cases initialized
  have onRobot (robot : Nat) (f : SessionRobot P Q → SessionRobot P Q) :
      (s.onRobot robot f).isSome = true ↔ robot < h.countP SessionCall.creates := by
    rw [ClientSdk.onRobot, ← state.robots]
    split <;> simp_all
  cases e with
  | loadRobotCert cert => exact ⟨fun _ => trivial, fun _ => rfl⟩
  | setClientName clientName =>
      rw [Permitted, ← state.initialized]
      cases init : s.isInitialized <;> simp [ClientSdk.step, init, uncreated]
  | init =>
      rw [Permitted, ← state.initialized, ← state.name]
      cases init : s.isInitialized <;> simp [ClientSdk.step, init, uncreated]
  | addCustomRequestProcessor processor =>
      rw [Permitted, ← state.initialized, ← state.created]
      cases init : s.isInitialized <;> simp [ClientSdk.step, init]
  | addCustomResponseProcessor processor =>
      rw [Permitted, ← state.initialized, ← state.created]
      cases init : s.isInitialized <;> simp [ClientSdk.step, init]
  | createRobot networkAddress proxyUse leaseWallet =>
      rw [Permitted, ← state.initialized]
      cases init : s.isInitialized <;> simp [ClientSdk.step, init]
  | setWallet robot wallet => exact onRobot robot _
  | setGlobalProcessorChains robot chains => exact onRobot robot _
  | addRobotRequestProcessor robot processor => exact onRobot robot _
  | addRobotResponseProcessor robot processor => exact onRobot robot _
  | setupClient robot => exact onRobot robot _

theorem sessionState_start : SessionState ([] : List (SessionCall P Q)) {} where
  initialized := rfl
  created := rfl
  ordered := nofun
  name := rfl
  chains := rfl
  early _ := ⟨rfl, rfl⟩
  unborn _ _ := ⟨rfl, rfl, rfl⟩
  robots := rfl
  shares _ _ found := by simp at found

end Steps

/-! ## The session -/

variable {h : List (SessionCall P Q)} {s : ClientSdk P Q}

/-- A sequence of calls terminates no program exactly if each of them is permitted after those
before it: the SDK is named before it is initialized, once and with a name, its processors are
added after that and before the first robot, and robots are made of an initialized SDK. -/
theorem session_runs_iff (h : List (SessionCall P Q)) :
    (∃ s, Run (StepOf ClientSdk.step) {} h s) ↔
      ∀ pre call post, h = pre ++ call :: post → Permitted pre call :=
  Run.exists_iff (I := SessionState) sessionState_start SessionState.step SessionState.step_iff

end SpotSdk.Client
