import SpotSdk.Robot.RefreshLiveness

/-!
# Whose token is stored

The stored token and the tokens in the cache should belong to the user they are kept
for. The robot answers with tokens of the user it was asked for; which token is whose is
a parameter. Below is what each step does to this.
-/

namespace SpotSdk.Client

open Foundations Common

variable {ι : Type*}

/-- The user whom credentials are of. -/
def Credentials.user (issuedTo : String → String) : Credentials → String
  | .password username _ => username
  | .token asked => issuedTo asked

/-- The token that a refresh is made with, and later the one it got. -/
def RefreshLoop.token : RefreshLoop → Option String
  | .authenticating token => some token
  | .storing token => some token
  | _ => none

/-- A step that stores a token in the robot. -/
def SessionEvent.stores : SessionEvent ι → Bool
  | .storeLogin _ => true
  | .storeRefresh => true
  | _ => false

namespace RobotSession

/-- The robot answers an RPC with a token of the user it was asked for. -/
def Answers (issuedTo : String → String) (s : RobotSession ι) : SessionEvent ι → Prop
  | .loginAnswered i token => ∀ credentials, s.logins i = .authenticating credentials →
      issuedTo token = credentials.user issuedTo
  | .refreshAnswered token => ∀ manager asked, s.tokenManager = some manager →
      manager.loop = .authenticating asked → issuedTo token = issuedTo asked
  | _ => True

/-- A login for the user is between its store and its update of the cache, which makes
the user current. -/
def Naming (s : RobotSession ι) (user : String) : Prop :=
  user ≠ "" ∧ ∃ i, s.logins i = .caching user

/-- A login for the user may store its token: no login for another user is between its
two steps, and a login that names nobody is for the current user. -/
def MayStore (s : RobotSession ι) (user username : String) : Prop :=
  (∀ named, s.Naming named → named = user) ∧
    (username = "" → (∀ named, ¬ s.Naming named) → s.currentUser ≠ "" →
      s.currentUser = user)

/-- A call that names nobody may write the cache: no login for another user than the
current one is between its two steps. -/
def MayWrite (s : RobotSession ι) : Prop :=
  s.currentUser ≠ "" → ∀ named, s.Naming named → named = s.currentUser

end RobotSession

/-- The stored token is the current user's and the cached ones are those of the users
they are kept for. While a login is between its two steps the current user is the one
it names. -/
structure TokensHeld (issuedTo : String → String) (s : RobotSession ι) : Prop where
  named : ∀ user, s.Naming user → issuedTo s.userToken = user
  current : (∀ user, ¬ s.Naming user) → s.currentUser ≠ "" →
    issuedTo s.userToken = s.currentUser
  written : ∀ write ∈ s.cacheWrites,
    issuedTo write.token = write.user ∧ write.key = s.getTokenId write.user

namespace RobotSession

variable [DecidableEq ι] {s : RobotSession ι} {i : ι} {login : Login}
  {user username token : String}

theorem setLogin_self : (s.setLogin i login).logins i = login :=
  Function.update_self ..

theorem setLogin_of_ne {j : ι} (other : j ≠ i) : (s.setLogin i login).logins j = s.logins j :=
  Function.update_of_ne other ..

omit [DecidableEq ι] in
@[simp] theorem updateTokenCache_logins : (s.updateTokenCache username).logins = s.logins := by
  simp only [updateTokenCache, writeTokenCache, ensureTokenManager_eq]
  split_ifs <;> rfl

omit [DecidableEq ι] in
@[simp] theorem updateTokenCache_userToken :
    (s.updateTokenCache username).userToken = s.userToken := by
  simp only [updateTokenCache, writeTokenCache, ensureTokenManager_eq]
  split_ifs <;> rfl

omit [DecidableEq ι] in
@[simp] theorem updateTokenCache_serialNumber :
    (s.updateTokenCache username).serialNumber = s.serialNumber := by
  simp only [updateTokenCache, writeTokenCache, ensureTokenManager_eq]
  split_ifs <;> rfl

omit [DecidableEq ι] in
theorem updateTokenCache_currentUser : (s.updateTokenCache username).currentUser =
    if username ≠ "" then username else s.currentUser := by
  simp only [updateTokenCache, writeTokenCache, ensureTokenManager_eq]
  split_ifs <;> rfl

omit [DecidableEq ι] in
/-- What is written is the stored token, under the key of the user who is then current. -/
theorem updateTokenCache_cacheWrites : (s.updateTokenCache username).cacheWrites =
    if (s.updateTokenCache username).currentUser ≠ "" then
      s.cacheWrites ++ [⟨(s.updateTokenCache username).currentUser,
        s.getTokenId (s.updateTokenCache username).currentUser, s.userToken⟩]
    else s.cacheWrites := by
  rw [updateTokenCache_currentUser]
  simp only [updateTokenCache, writeTokenCache, ensureTokenManager_eq]
  split_ifs <;> rfl

omit [DecidableEq ι] in
theorem mem_updateTokenCache {write : CacheWrite}
    (mem : write ∈ (s.updateTokenCache username).cacheWrites) :
    write ∈ s.cacheWrites ∨
      (s.updateTokenCache username).currentUser ≠ "" ∧
        write = ⟨(s.updateTokenCache username).currentUser,
          s.getTokenId (s.updateTokenCache username).currentUser, s.userToken⟩ := by
  rw [updateTokenCache_cacheWrites] at mem
  split_ifs at mem with nonempty
  · rcases List.mem_append.mp mem with mem | mem
    · exact .inl mem
    · exact .inr ⟨nonempty, List.mem_singleton.mp mem⟩
  · exact .inl mem

omit [DecidableEq ι] in
theorem updateTokenCache_writes (nonempty : (s.updateTokenCache username).currentUser ≠ "") :
    ⟨(s.updateTokenCache username).currentUser,
      s.getTokenId (s.updateTokenCache username).currentUser, s.userToken⟩ ∈
        (s.updateTokenCache username).cacheWrites := by
  rw [updateTokenCache_cacheWrites, if_pos nonempty]
  exact List.mem_append_right _ (List.mem_singleton_self _)

/-- A caller that neither gets to its update of the cache nor leaves it. -/
theorem naming_setLogin (before : ∀ username, s.logins i ≠ .caching username)
    (after : ∀ username, login ≠ .caching username) :
    (s.setLogin i login).Naming user ↔ s.Naming user := by
  refine and_congr_right fun _ => ⟨fun ⟨j, place⟩ => ⟨j, ?_⟩, fun ⟨j, place⟩ => ⟨j, ?_⟩⟩
  · rcases eq_or_ne j i with rfl | other
    · exact absurd (setLogin_self.symm.trans place) (after user)
    · exact (setLogin_of_ne other).symm.trans place
  · have other : j ≠ i := by
      rintro rfl
      exact before user place
    exact (setLogin_of_ne other).trans place

theorem naming_store (before : ∀ username, s.logins i ≠ .caching username) :
    (s.setLogin i (.caching username)).Naming user ↔
      user ≠ "" ∧ user = username ∨ s.Naming user := by
  constructor
  · rintro ⟨nonempty, j, place⟩
    rcases eq_or_ne j i with rfl | other
    · exact .inl ⟨nonempty, (Login.caching.inj (setLogin_self.symm.trans place)).symm⟩
    · exact .inr ⟨nonempty, j, (setLogin_of_ne other).symm.trans place⟩
  · rintro (⟨nonempty, rfl⟩ | ⟨nonempty, j, place⟩)
    · exact ⟨nonempty, i, setLogin_self⟩
    · have other : j ≠ i := by
        rintro rfl
        exact before user place
      exact ⟨nonempty, j, (setLogin_of_ne other).trans place⟩

/-- A login that stores names its user then. -/
theorem naming_stored (place : s.logins i = .storing token username) (user : String) :
    ((s.setUserToken token).setLogin i (.caching username)).Naming user ↔
      user ≠ "" ∧ user = username ∨ s.Naming user := by
  refine naming_store fun other => ?_
  simp [setUserToken, place]

/-- A caller that leaves its update of the cache. -/
theorem naming_leave (naming : (s.setLogin i .idle).Naming user) : s.Naming user := by
  obtain ⟨nonempty, j, place⟩ := naming
  rcases eq_or_ne j i with rfl | other
  · cases setLogin_self.symm.trans place
  · exact ⟨nonempty, j, (setLogin_of_ne other).symm.trans place⟩

/-- If someone was naming a user and nobody is any more, it was the caller that left. -/
theorem naming_left (place : s.logins i = .caching username) (naming : s.Naming user)
    (none : ∀ user, ¬ (s.setLogin i .idle).Naming user) : user = username := by
  obtain ⟨nonempty, j, other⟩ := naming
  rcases eq_or_ne j i with rfl | ne
  · exact Login.caching.inj (other.symm.trans place)
  · exact absurd ⟨nonempty, j, (setLogin_of_ne ne).trans other⟩ (none user)

/-- The token that a login got is the named user's. -/
def LoginsAnswered (issuedTo : String → String) (s : RobotSession ι) : Prop :=
  ∀ i token username, s.logins i = .storing token username → username ≠ "" →
    issuedTo token = username

/-- The refresh has a token of the user whose token is stored. -/
def RefreshesStored (issuedTo : String → String) (s : RobotSession ι) : Prop :=
  ∀ manager token, s.tokenManager = some manager → manager.loop.token = some token →
    issuedTo token = issuedTo s.userToken

omit [DecidableEq ι] in
theorem updateTokenCache_current_of_named (named : username ≠ "") :
    (s.updateTokenCache username).currentUser = username := by
  rw [updateTokenCache_currentUser, if_pos named]

omit [DecidableEq ι] in
theorem updateTokenCache_current_of_nameless (nameless : username = "") :
    (s.updateTokenCache username).currentUser = s.currentUser := by
  rw [updateTokenCache_currentUser, if_neg (not_not.mpr nameless)]

end RobotSession

namespace TokensHeld

open RobotSession

variable [DecidableEq ι] {issuedTo : String → String} {s : RobotSession ι}
  {i : ι} {login : Login} {username token : String}

omit [DecidableEq ι] in
/-- The update of the cache finds the token of the user it writes for. -/
theorem token_of_write (held : TokensHeld issuedTo s)
    (naming : username ≠ "" → s.Naming username) (may : username = "" → s.MayWrite)
    (nonempty : (s.updateTokenCache username).currentUser ≠ "") :
    issuedTo s.userToken = (s.updateTokenCache username).currentUser := by
  by_cases nameless : username = ""
  · rw [updateTokenCache_current_of_nameless nameless] at nonempty ⊢
    by_cases busy : ∃ user, s.Naming user
    · obtain ⟨user, named⟩ := busy
      calc issuedTo s.userToken = user := held.named user named
        _ = s.currentUser := may nameless nonempty user named
    · exact held.current (not_exists.mp busy) nonempty
  · rw [updateTokenCache_current_of_named nameless]
    exact held.named username (naming nameless)

omit [DecidableEq ι] in
theorem updateTokenCache (held : TokensHeld issuedTo s)
    (naming : username ≠ "" → s.Naming username) (may : username = "" → s.MayWrite) :
    TokensHeld issuedTo (s.updateTokenCache username) := by
  have same : ∀ user, (s.updateTokenCache username).Naming user ↔ s.Naming user := by
    simp [Naming]
  refine ⟨fun user named => ?_, fun _ nonempty => ?_, fun write mem => ?_⟩
  · rw [updateTokenCache_userToken]
    exact held.named user ((same user).mp named)
  · rw [updateTokenCache_userToken]
    exact held.token_of_write naming may nonempty
  · rw [getTokenId, updateTokenCache_serialNumber]
    rcases mem_updateTokenCache mem with mem | ⟨nonempty, rfl⟩
    · exact held.written write mem
    · exact ⟨held.token_of_write naming may nonempty, rfl⟩

/-- When the last caller leaves its update of the cache, the user it named is current. -/
theorem leave (held : TokensHeld issuedTo s)
    (place : s.logins i = .caching username)
    (current : username ≠ "" → s.currentUser = username) :
    TokensHeld issuedTo (s.setLogin i .idle) := by
  refine ⟨fun user named => held.named user (naming_leave named), fun none nonempty => ?_,
    held.written⟩
  by_cases busy : ∃ user, s.Naming user
  · obtain ⟨user, named⟩ := busy
    obtain rfl := naming_left place named none
    exact (held.named user named).trans (current named.1).symm
  · exact held.current (not_exists.mp busy) nonempty

/-- A caller elsewhere in its call. -/
theorem move (held : TokensHeld issuedTo s)
    (before : ∀ username, s.logins i ≠ .caching username)
    (after : ∀ username, login ≠ .caching username) :
    TokensHeld issuedTo (s.setLogin i login) := by
  have same : ∀ user, (s.setLogin i login).Naming user ↔ s.Naming user :=
    fun _ => naming_setLogin before after
  refine ⟨fun user named => held.named user ((same user).mp named),
    fun none nonempty => ?_, held.written⟩
  exact held.current (fun user => mt (same user).mpr (none user)) nonempty

/-- A login that may store keeps the tokens with their users. -/
theorem storeLogin (held : TokensHeld issuedTo s)
    (place : s.logins i = .storing token username)
    (answered : username ≠ "" → issuedTo token = username)
    (may : s.MayStore (issuedTo token) username) :
    TokensHeld issuedTo ((s.setUserToken token).setLogin i (.caching username)) := by
  have same := naming_stored place
  refine ⟨fun user named => ?_, fun none nonempty => ?_, held.written⟩
  · rcases (same user).mp named with ⟨nonempty, rfl⟩ | named
    · exact answered nonempty
    · exact (may.1 user named).symm
  · have nameless : username = "" := by
      by_contra named
      exact none username ((same username).mpr (.inl ⟨named, rfl⟩))
    have free : ∀ user, ¬ s.Naming user := fun user named =>
      none user ((same user).mpr (.inr named))
    exact (may.2 nameless free nonempty).symm

/-- A login that leaves the tokens with their users was one that may store. -/
theorem mayStore (after : TokensHeld issuedTo
      ((s.setUserToken token).setLogin i (.caching username)))
    (place : s.logins i = .storing token username) :
    s.MayStore (issuedTo token) username := by
  have same := naming_stored place
  refine ⟨fun user named => ?_, fun nameless none nonempty => ?_⟩
  · exact (after.named user ((same user).mpr (.inr named))).symm
  · refine (after.current (fun user named => ?_) nonempty).symm
    rcases (same user).mp named with ⟨some, rfl⟩ | named
    · exact some nameless
    · exact none user named

omit [DecidableEq ι] in
/-- A call that names nobody and writes a user's token was one that may write. -/
theorem mayWrite (held : TokensHeld issuedTo s)
    (written : ∀ write ∈ (s.updateTokenCache "").cacheWrites,
      issuedTo write.token = write.user) : s.MayWrite := by
  intro nonempty user named
  have current : (s.updateTokenCache "").currentUser = s.currentUser :=
    updateTokenCache_current_of_nameless rfl
  rw [← current] at nonempty ⊢
  calc user = issuedTo s.userToken := (held.named user named).symm
    _ = (s.updateTokenCache "").currentUser :=
        written _ (updateTokenCache_writes nonempty)

omit [DecidableEq ι] in
/-- A token of the same user may replace the stored one. -/
theorem setUserToken (held : TokensHeld issuedTo s)
    (same : issuedTo token = issuedTo s.userToken) :
    TokensHeld issuedTo (s.setUserToken token) := by
  refine ⟨fun user named => ?_, fun none nonempty => ?_, held.written⟩
  · exact same.trans (held.named user named)
  · exact same.trans (held.current none nonempty)

end TokensHeld

namespace RobotSession

variable [DecidableEq ι] {issuedTo : String → String} {s t : RobotSession ι}
  {e : SessionEvent ι} {manager : TokenManager} {token : String}

/-- Credentials that name a user are of that user. -/
theorem user_of_named {credentials : Credentials} (named : credentials.username ≠ "") :
    credentials.user issuedTo = credentials.username := by
  cases credentials with
  | password => rfl
  | token => exact absurd rfl named

theorem LoginsAnswered.setLogin {i : ι} {login : Login} (answered : s.LoginsAnswered issuedTo)
    (stored : ∀ token username, login = .storing token username → username ≠ "" →
      issuedTo token = username) : (s.setLogin i login).LoginsAnswered issuedTo := by
  intro j token username place
  rcases eq_or_ne j i with rfl | other
  · exact stored token username (setLogin_self.symm.trans place)
  · exact answered j token username ((setLogin_of_ne other).symm.trans place)

theorem LoginsAnswered.step (answered : s.LoginsAnswered issuedTo) (takes : Takes s e t)
    (answers : s.Answers issuedTo e) : t.LoginsAnswered issuedTo := by
  cases takes with
  | authenticate place => exact answered.setLogin nofun
  | loginFailed place => exact answered.setLogin nofun
  | loginAnswered place =>
      refine answered.setLogin fun token username stored named => ?_
      obtain ⟨rfl, rfl⟩ := Login.storing.inj stored
      exact (answers _ place).trans (user_of_named named)
  | storeLogin place => exact LoginsAnswered.setLogin answered nofun
  | @cacheLogin _ username place =>
      have same : (s.updateTokenCache username).LoginsAnswered issuedTo := by
        unfold LoginsAnswered
        rwa [updateTokenCache_logins]
      exact same.setLogin nofun
  | cacheRefresh made place =>
      have same : (s.updateTokenCache "").LoginsAnswered issuedTo := by
        unfold LoginsAnswered
        rwa [updateTokenCache_logins]
      exact same
  | _ => exact answered

theorem userToken_of_quiet (takes : Takes s e t) (quiet : e.stores = false) :
    t.userToken = s.userToken := by
  cases takes with
  | storeLogin place => cases quiet
  | storeRefresh made place => cases quiet
  | cacheLogin place => exact updateTokenCache_userToken
  | cacheRefresh made place => exact updateTokenCache_userToken
  | _ => rfl

theorem react_token (result : ErrorCallbackResult) :
    (manager.react result).loop.token = none := by
  cases result <;> rfl

theorem failed_token (status : Status) : (manager.failed status).loop.token = none := by
  unfold TokenManager.failed
  split
  · rfl
  · exact react_token _

/-- The token of a refresh was just read, or the refresh had one before. -/
theorem token_cases (takes : Takes s e t) (made : t.tokenManager = some manager)
    (holds : manager.loop.token = some token) :
    (e = .readToken ∧ token = t.userToken) ∨
      e ≠ .readToken ∧ e ≠ .storeRefresh ∧ ∃ old held, s.tokenManager = some old ∧
        old.loop.token = some held ∧
          (token = held ∨ e = .refreshAnswered token ∧ old.loop = .authenticating held) := by
  cases takes with
  | @cacheLogin _ username place =>
      have same : (s.updateTokenCache username).tokenManager = some manager := made
      rw [updateTokenCache_tokenManager] at same
      obtain rfl := Option.some.inj same
      cases old : s.tokenManager with
      | none =>
          rw [old] at holds
          cases holds
      | some manager =>
          rw [old] at holds
          exact .inr ⟨by simp, by simp, manager, token, rfl, holds, .inl rfl⟩
  | readToken before place =>
      obtain rfl := Option.some.inj made
      exact .inl ⟨rfl, (Option.some.inj holds).symm⟩
  | refreshFailed before place =>
      obtain rfl := Option.some.inj made
      rw [failed_token] at holds
      cases holds
  | @refreshAnswered old held answer before place =>
      obtain rfl := Option.some.inj made
      obtain rfl := Option.some.inj holds
      refine .inr ⟨by simp, by simp, old, held, before, ?_, .inr ⟨rfl, place⟩⟩
      rw [place]
      rfl
  | callbackAnswered before place =>
      obtain rfl := Option.some.inj made
      rw [TokenManager.called, react_token] at holds
      cases holds
  | storeRefresh before place =>
      obtain rfl := Option.some.inj made
      cases holds
  | cacheRefresh before place =>
      obtain rfl := Option.some.inj made
      cases holds
  | leaveLoop before place =>
      obtain rfl := Option.some.inj made
      cases holds
  | setCallback =>
      obtain ⟨old, before, rfl⟩ := Option.map_eq_some_iff.mp made
      exact .inr ⟨by simp, by simp, old, token, before, holds, .inl rfl⟩
  | destroy => cases made
  | _ => exact .inr ⟨by simp, by simp, manager, token, made, holds, .inl rfl⟩

theorem refreshesStored_read (takes : Takes s .readToken t) : t.RefreshesStored issuedTo := by
  intro manager token made holds
  rcases token_cases takes made holds with ⟨-, rfl⟩ | ⟨other, -⟩
  · rfl
  · exact absurd rfl other

/-- Only a login's store parts the refresh from the stored token. -/
theorem RefreshesStored.step (stored : s.RefreshesStored issuedTo) (takes : Takes s e t)
    (answers : s.Answers issuedTo e) (undisturbed : ∀ i, e ≠ .storeLogin i) :
    t.RefreshesStored issuedTo := by
  intro manager token made holds
  rcases token_cases takes made holds with ⟨-, rfl⟩ | ⟨-, ends, old, held, before, had, same⟩
  · rfl
  · have quiet : e.stores = false := by
      cases e with
      | storeLogin i => exact absurd rfl (undisturbed i)
      | storeRefresh => exact absurd rfl ends
      | _ => rfl
    rw [userToken_of_quiet takes quiet]
    rcases same with rfl | ⟨rfl, place⟩
    · exact stored old token before had
    · exact (answers old held before place).trans (stored old held before had)

end RobotSession

end SpotSdk.Client
