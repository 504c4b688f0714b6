import SpotSdk.Robot.TokenOwnership

/-!
# Refreshes and logins in each other's way

A refresh should not replace the token of a login that was not over when the refresh
began, and no token should become another user's. Nothing in the code keeps the steps of
logins and refreshes apart, so this takes an order of them. The session is watched for
what the order depends on.
-/

namespace SpotSdk.Client

open Foundations Common

variable {ι : Type*}

/-- The token of the login is still stored after these further steps. -/
def LastStored (h : List (SessionEvent ι)) (i : ι) (since : List (SessionEvent ι)) : Prop :=
  ∃ before, h = before ++ .storeLogin i :: since ∧ ∀ e ∈ since, e.stores = false

/-- The login was over, and then the refresh read the token. -/
def ReadAfterLogin (i : ι) (since : List (SessionEvent ι)) : Prop :=
  ∃ front back, since = front ++ .cacheLogin i :: back ∧ .readToken ∈ back

/-- No refresh replaced the token of a login that was not over when it began. -/
def LoginsKept (h : List (SessionEvent ι)) : Prop :=
  ∀ before i since after, h = before ++ .storeRefresh :: after →
    LastStored before i since → ReadAfterLogin i since

/-- The tokens of a session are their users', and those of logins were kept. -/
structure TokensMatch (issuedTo : String → String) (h : List (SessionEvent ι))
    (s : RobotSession ι) : Prop extends TokensHeld issuedTo s where
  kept : LoginsKept h

section History

variable {h since : List (SessionEvent ι)} {e : SessionEvent ι} {i : ι}

theorem lastStored_snoc : LastStored (h ++ [e]) i since ↔
    (e = .storeLogin i ∧ since = []) ∨
      e.stores = false ∧ ∃ rest, since = rest ++ [e] ∧ LastStored h i rest := by
  constructor
  · rintro ⟨before, split, quiet⟩
    rcases split_snoc split with ⟨rfl, rfl, -⟩ | ⟨rest, rfl, rfl⟩
    · exact .inl ⟨rfl, rfl⟩
    · refine .inr ⟨quiet e (by simp), rest, rfl, before, rfl, fun e' mem => ?_⟩
      exact quiet e' (List.mem_append_left _ mem)
  · rintro (⟨rfl, rfl⟩ | ⟨quiet, rest, rfl, before, rfl, stays⟩)
    · exact ⟨h, rfl, nofun⟩
    · refine ⟨before, by simp, fun e' mem => ?_⟩
      rcases List.mem_append.mp mem with mem | mem
      · exact stays e' mem
      · exact List.mem_singleton.mp mem ▸ quiet

theorem LastStored.snoc (stored : LastStored h i since) (quiet : e.stores = false) :
    LastStored (h ++ [e]) i (since ++ [e]) :=
  lastStored_snoc.mpr (.inr ⟨quiet, since, rfl, stored⟩)

/-- Unless it is a login's store, a step leaves the last login the last one. -/
theorem LastStored.before (stored : LastStored (h ++ [e]) i since)
    (stays : ∀ i, e ≠ .storeLogin i) : ∃ rest, since = rest ++ [e] ∧ LastStored h i rest := by
  rcases lastStored_snoc.mp stored with ⟨login, -⟩ | ⟨-, earlier⟩
  · exact absurd login (stays i)
  · exact earlier

theorem ReadAfterLogin.snoc (read : ReadAfterLogin i since) :
    ReadAfterLogin i (since ++ [e]) := by
  obtain ⟨front, back, rfl, mem⟩ := read
  exact ⟨front, back ++ [e], by simp, List.mem_append_left _ mem⟩

theorem not_readAfterLogin_snoc (unread : ¬ ReadAfterLogin i since) (quiet : e ≠ .readToken) :
    ¬ ReadAfterLogin i (since ++ [e]) := by
  rintro ⟨front, back, split, mem⟩
  rcases split_snoc split with ⟨rfl, -, -⟩ | ⟨rest, rfl, rfl⟩
  · cases mem
  · rcases List.mem_append.mp mem with mem | last
    · exact unread ⟨front, rest, rfl, mem⟩
    · exact quiet (List.mem_singleton.mp last).symm

/-- A refresh that stores is the only step that can fail to keep a login's token. -/
theorem LoginsKept.snoc (kept : LoginsKept h)
    (refreshed : e = .storeRefresh → ∀ i since, LastStored h i since →
      ReadAfterLogin i since) : LoginsKept (h ++ [e]) := by
  intro before i since after split stored
  rcases split_snoc split with ⟨-, same, rfl⟩ | ⟨rest, rfl, rfl⟩
  · exact refreshed same i since stored
  · exact kept before i since rest rfl stored

end History

/-- The session, the login that stored last while its update is not over, and whether
the refresh read its token when there was none such and no login has stored since. -/
structure TokenWatch (ι : Type*) where
  session : RobotSession ι
  unfinished : Option ι := none
  undisturbed : Bool := false

namespace TokenWatch

def new (serialNumber : String) : TokenWatch ι :=
  { session := .new serialNumber }

variable [DecidableEq ι]

/-- The watch after a step of its session. -/
def note (w : TokenWatch ι) (session : RobotSession ι) : SessionEvent ι → TokenWatch ι
  | .storeLogin i => { session, unfinished := some i, undisturbed := false }
  | .cacheLogin i =>
      { w with session, unfinished := if w.unfinished = some i then none else w.unfinished }
  | .storeRefresh => { w with session, unfinished := none }
  | .readToken => { w with session, undisturbed := w.unfinished.isNone }
  | _ => { w with session }

def step (w : TokenWatch ι) (e : SessionEvent ι) : Option (TokenWatch ι) :=
  (w.session.step e).map (w.note · e)

/-- A login stores only when it may, a call that names nobody writes only when it may,
and a refresh stores only if no login disturbed it. -/
def Orderly (issuedTo : String → String) (w : TokenWatch ι) : SessionEvent ι → Prop
  | .storeLogin i => ∀ token username, w.session.logins i = .storing token username →
      w.session.MayStore (issuedTo token) username
  | .cacheLogin i => w.session.logins i = .caching "" → w.session.MayWrite
  | .storeRefresh => w.undisturbed = true
  | .cacheRefresh => w.session.MayWrite
  | _ => True

end TokenWatch

/-- The tokens on their way are of the users they will be stored for. -/
structure TokenWatch.Follows (issuedTo : String → String) (w : TokenWatch ι) : Prop where
  held : TokensHeld issuedTo w.session
  answered : w.session.LoginsAnswered issuedTo
  refreshed : w.undisturbed = true → w.session.RefreshesStored issuedTo

/-- What the watch tells of the last login that stored a token, while that is still the
stored one. -/
structure TokenWatch.Notes (h : List (SessionEvent ι)) (w : TokenWatch ι) : Prop where
  kept : LoginsKept h
  finished : w.unfinished = none → ∀ i since, LastStored h i since → .cacheLogin i ∈ since
  last : ∀ j, w.unfinished = some j → ∀ i since, LastStored h i since → i = j
  read : w.undisturbed = true → ∀ i since, LastStored h i since → ReadAfterLogin i since

namespace TokenWatch

open RobotSession

variable [DecidableEq ι] {issuedTo : String → String} {w t : TokenWatch ι}
  {e : SessionEvent ι} {h : List (SessionEvent ι)} {serialNumber : String}

theorem step_cases (hstep : StepOf step w e t) :
    ∃ session, StepOf RobotSession.step w.session e session ∧ t = w.note session e := by
  obtain ⟨session, stepped, same⟩ := Option.map_eq_some_iff.mp hstep
  exact ⟨session, stepped, same.symm⟩

@[simp] theorem note_session (session : RobotSession ι) :
    (w.note session e).session = session := by
  cases e <;> rfl

/-- Only a new read makes a refresh undisturbed, and a login's store disturbs it. -/
theorem undisturbed_of_note {session : RobotSession ι}
    (undisturbed : (w.note session e).undisturbed = true) :
    e = .readToken ∨ (∀ i, e ≠ .storeLogin i) ∧ w.undisturbed = true := by
  cases e with
  | storeLogin i => cases undisturbed
  | readToken => exact .inl rfl
  | _ => exact .inr ⟨nofun, undisturbed⟩

theorem held_step {session : RobotSession ι} (follows : Follows issuedTo w)
    (takes : Takes w.session e session) (orderly : w.Orderly issuedTo e) :
    TokensHeld issuedTo session := by
  have held := follows.held
  cases takes with
  | authenticate place => exact held.move (by simp [place]) nofun
  | loginFailed place => exact held.move (by simp [place]) nofun
  | loginAnswered place => exact held.move (by simp [place]) nofun
  | storeLogin place =>
      exact held.storeLogin place (follows.answered _ _ _ place) (orderly _ _ place)
  | cacheLogin place =>
      refine TokensHeld.leave (held.updateTokenCache ?_ ?_) ?_
        updateTokenCache_current_of_named
      · exact fun named => ⟨named, _, place⟩
      · exact fun nameless => orderly (nameless ▸ place)
      · rwa [updateTokenCache_logins]
  | storeRefresh made place =>
      have same := follows.refreshed orderly _ _ made (by rw [place]; rfl)
      obtain ⟨named, current, written⟩ := held.setUserToken same
      exact ⟨named, current, written⟩
  | cacheRefresh made place =>
      obtain ⟨named, current, written⟩ :=
        held.updateTokenCache (fun named => absurd rfl named) fun _ => orderly
      exact ⟨named, current, written⟩
  | _ => exact ⟨held.named, held.current, held.written⟩

theorem follows_step (follows : Follows issuedTo w) (hstep : StepOf step w e t)
    (answers : w.session.Answers issuedTo e) (orderly : w.Orderly issuedTo e) :
    Follows issuedTo t := by
  obtain ⟨session, stepped, rfl⟩ := step_cases hstep
  have takes := (RobotSession.step_cases stepped).2
  refine ⟨?_, ?_, fun undisturbed => ?_⟩
  · rw [note_session]
    exact held_step follows takes orderly
  · rw [note_session]
    exact follows.answered.step takes answers
  · rw [note_session]
    rcases undisturbed_of_note undisturbed with rfl | ⟨quiet, before⟩
    · exact refreshesStored_read takes
    · exact (follows.refreshed before).step takes answers quiet

omit [DecidableEq ι] in
/-- The last login is known after a step that stores nothing and ends no login. -/
theorem Notes.keep {session : RobotSession ι} (notes : Notes h w)
    (kept : LoginsKept (h ++ [e])) (stays : ∀ i, e ≠ .storeLogin i) :
    Notes (h ++ [e]) { w with session } := by
  refine ⟨kept, fun none i since stored => ?_, fun j same i since stored => ?_,
    fun undisturbed i since stored => ?_⟩
  all_goals obtain ⟨rest, rfl, before⟩ := stored.before stays
  · exact List.mem_append_left _ (notes.finished none i rest before)
  · exact notes.last j same i rest before
  · exact (notes.read undisturbed i rest before).snoc

omit [DecidableEq ι] in
/-- A refresh reads when no login is unfinished, or is disturbed. -/
theorem Notes.readToken {session : RobotSession ι} (notes : Notes h w)
    (kept : LoginsKept (h ++ [.readToken])) :
    Notes (h ++ [.readToken]) { w with session, undisturbed := w.unfinished.isNone } := by
  have keep : Notes (h ++ [_]) { w with session } := notes.keep kept nofun
  refine ⟨kept, keep.finished, keep.last, fun undisturbed i since stored => ?_⟩
  obtain ⟨rest, rfl, before⟩ := stored.before nofun
  have finished := notes.finished (Option.isNone_iff_eq_none.mp undisturbed) i rest before
  obtain ⟨front, back, rfl⟩ := List.append_of_mem finished
  exact ⟨front, back ++ [.readToken], by simp, by simp⟩

/-- A login that ends is the unfinished one, or leaves that one unfinished. -/
theorem Notes.cacheLogin {session : RobotSession ι} {j : ι} (notes : Notes h w)
    (kept : LoginsKept (h ++ [.cacheLogin j])) :
    Notes (h ++ [.cacheLogin j])
      { w with session, unfinished := if w.unfinished = some j then none else w.unfinished } := by
  have keep : Notes (h ++ [_]) { w with session } := notes.keep kept nofun
  refine ⟨kept, fun none i since stored => ?_, fun k same i since stored => ?_, keep.read⟩
  · dsimp only at none
    split_ifs at none with last
    · obtain ⟨rest, rfl, before⟩ := stored.before nofun
      obtain rfl := notes.last j last i rest before
      exact List.mem_append_right _ (List.mem_singleton_self _)
    · exact keep.finished none i since stored
  · dsimp only at same
    split_ifs at same with last
    exact keep.last k same i since stored

theorem notes_step (notes : Notes h w) (hstep : StepOf step w e t)
    (orderly : w.Orderly issuedTo e) : Notes (h ++ [e]) t := by
  obtain ⟨session, -, rfl⟩ := step_cases hstep
  have kept : LoginsKept (h ++ [e]) := by
    refine notes.kept.snoc ?_
    rintro rfl
    exact notes.read orderly
  cases e with
  | storeLogin j =>
      refine ⟨kept, nofun, fun _ same i since stored => ?_, nofun⟩
      rcases lastStored_snoc.mp stored with ⟨login, -⟩ | ⟨quiet, -⟩
      · obtain rfl := SessionEvent.storeLogin.inj login
        exact Option.some.inj same
      · cases quiet
  | storeRefresh =>
      have none : ∀ i since, ¬ LastStored (h ++ [.storeRefresh]) i since := by
        intro i since stored
        rcases lastStored_snoc.mp stored with ⟨login, -⟩ | ⟨quiet, -⟩
        · cases login
        · cases quiet
      exact ⟨kept, fun _ i since stored => absurd stored (none i since), nofun,
        fun _ i since stored => absurd stored (none i since)⟩
  | cacheLogin j => exact notes.cacheLogin kept
  | readToken => exact notes.readToken kept
  | _ => exact notes.keep kept nofun

theorem tokensMatch_of_orderly
    (run : Run (Guard (StepOf step) fun w e =>
      w.session.Answers issuedTo e ∧ w.Orderly issuedTo e) (new serialNumber) h w) :
    TokensMatch issuedTo h w.session := by
  have follows : Follows issuedTo (new serialNumber : TokenWatch ι) := by
    refine ⟨⟨?_, ?_, nofun⟩, nofun, nofun⟩
    · rintro user ⟨-, i, place⟩
      cases place
    · exact fun _ nonempty => absurd rfl nonempty
  have nobody : ∀ i since, ¬ LastStored ([] : List (SessionEvent ι)) i since := by
    rintro i since ⟨before, split, -⟩
    simp at split
  have notes : Notes [] (new serialNumber : TokenWatch ι) :=
    ⟨fun before i since after split => by simp at split,
      fun _ i since stored => absurd stored (nobody i since), nofun, nofun⟩
  obtain ⟨⟨held, -, -⟩, noted⟩ := run.recorded
    (I := fun h w => Follows issuedTo w ∧ Notes h w) ⟨follows, notes⟩
    fun ⟨follows, notes⟩ ⟨hstep, answers, orderly⟩ =>
      ⟨follows_step follows hstep answers orderly, notes_step notes hstep orderly⟩
  exact ⟨held, noted.kept⟩

/-- While a login is unfinished its token is the stored one, and a disturbed refresh
would replace the token of a login that was not over when it read. -/
structure Blames (h : List (SessionEvent ι)) (w : TokenWatch ι) : Prop where
  unfinished : ∀ j, w.unfinished = some j →
    ∃ since, LastStored h j since ∧ .cacheLogin j ∉ since
  disturbed : w.undisturbed = false → ∀ manager token,
    w.session.tokenManager = some manager → manager.loop.token = some token →
      ∃ i since, LastStored h i since ∧ ¬ ReadAfterLogin i since

/-- A disturbed refresh stays so until it stores or a refresh reads anew. -/
theorem Blames.disturbed_step {session : RobotSession ι} (blames : Blames h w)
    (takes : Takes w.session e session) (disturbed : w.undisturbed = false)
    (quiet : e.stores = false) (other : e ≠ .readToken) : ∀ manager token,
    session.tokenManager = some manager → manager.loop.token = some token →
      ∃ i since, LastStored (h ++ [e]) i since ∧ ¬ ReadAfterLogin i since := by
  intro manager token made holds
  rcases token_cases takes made holds with ⟨same, -⟩ | ⟨-, -, old, held, before, had, -⟩
  · exact absurd same other
  · obtain ⟨i, since, stored, unread⟩ := blames.disturbed disturbed old held before had
    exact ⟨i, since ++ [e], stored.snoc quiet, not_readAfterLogin_snoc unread other⟩

omit [DecidableEq ι] in
theorem Blames.unfinished_step {j : ι} (blames : Blames h w) (last : w.unfinished = some j)
    (quiet : e.stores = false) (other : e ≠ .cacheLogin j) :
    ∃ since, LastStored (h ++ [e]) j since ∧ .cacheLogin j ∉ since := by
  obtain ⟨since, stored, absent⟩ := blames.unfinished j last
  refine ⟨since ++ [e], stored.snoc quiet, fun mem => ?_⟩
  rcases List.mem_append.mp mem with mem | mem
  · exact absent mem
  · exact other (List.mem_singleton.mp mem).symm

theorem blames_step (blames : Blames h w) (hstep : StepOf step w e t) :
    Blames (h ++ [e]) t := by
  obtain ⟨session, stepped, rfl⟩ := step_cases hstep
  have takes := (RobotSession.step_cases stepped).2
  have disturbed := blames.disturbed_step takes
  cases e with
  | storeLogin i =>
      have stored : LastStored (h ++ [.storeLogin i]) i [] :=
        lastStored_snoc.mpr (.inl ⟨rfl, rfl⟩)
      refine ⟨fun j same => ?_, fun _ _ _ _ _ => ⟨i, [], stored, ?_⟩⟩
      · obtain rfl := Option.some.inj same
        exact ⟨[], stored, nofun⟩
      · rintro ⟨front, back, split, -⟩
        simp at split
  | storeRefresh =>
      refine ⟨nofun, fun _ manager token made holds => ?_⟩
      rcases token_cases takes made holds with ⟨other, -⟩ | ⟨-, other, -⟩
      · cases other
      · exact absurd rfl other
  | cacheLogin i =>
      refine ⟨fun j same => ?_, fun dirty => disturbed dirty rfl nofun⟩
      dsimp only [note] at same
      split_ifs at same with last
      refine blames.unfinished_step same rfl fun again => last ?_
      rw [same, SessionEvent.cacheLogin.inj again]
  | readToken =>
      refine ⟨fun j same => blames.unfinished_step same rfl nofun, fun dirty _ _ _ _ => ?_⟩
      have some : w.unfinished.isNone = false := dirty
      obtain ⟨j, last⟩ := Option.isSome_iff_exists.mp (Option.isNone_eq_false_iff.mp some)
      obtain ⟨since, stored, absent⟩ := blames.unfinished_step last (e := .readToken) rfl nofun
      refine ⟨j, since, stored, ?_⟩
      rintro ⟨front, back, rfl, -⟩
      exact absent (by simp)
  | _ =>
      exact ⟨fun j same => blames.unfinished_step same rfl nofun,
        fun dirty => disturbed dirty rfl nofun⟩

theorem blames_run (run : Run (StepOf step) (new serialNumber) h w) : Blames h w := by
  have base : Blames [] (new serialNumber : TokenWatch ι) :=
    ⟨nofun, fun _ _ _ made => nomatch made⟩
  exact run.recorded (I := Blames) base blames_step

/-- A step that is not orderly takes a token from its user or a login's token away. -/
theorem orderly_of_tokensMatch (run : Run (StepOf step) (new serialNumber) h w)
    (hstep : StepOf step w e t) (before : TokensHeld issuedTo w.session)
    (after : TokensMatch issuedTo (h ++ [e]) t.session) : w.Orderly issuedTo e := by
  obtain ⟨session, stepped, rfl⟩ := step_cases hstep
  have held := after.toTokensHeld
  rw [note_session] at held
  cases (RobotSession.step_cases stepped).2 with
  | storeLogin place =>
      intro token username same
      obtain ⟨rfl, rfl⟩ := Login.storing.inj (place.symm.trans same)
      exact held.mayStore place
  | @cacheLogin i username place =>
      intro nameless
      obtain rfl := Login.caching.inj (place.symm.trans nameless)
      exact before.mayWrite fun write mem => (held.written write mem).1
  | cacheRefresh made place =>
      exact before.mayWrite fun write mem => (held.written write mem).1
  | storeRefresh made place =>
      by_contra disturbed
      obtain ⟨i, since, stored, unread⟩ := (blames_run run).disturbed
        (Bool.eq_false_iff.mpr disturbed) _ _ made (by rw [place]; rfl)
      exact unread (after.kept h i since [] rfl stored)
  | _ => trivial

/-- Watching changes nothing: every run of the session is watched by one. -/
theorem exists_watch {s s' : RobotSession ι} (run : Run (StepOf RobotSession.step) s h s') :
    ∀ w : TokenWatch ι, w.session = s → ∃ v, v.session = s' ∧ Run (StepOf step) w h v := by
  induction run with
  | nil s => exact fun w same => ⟨w, same, .nil w⟩
  | cons hstep _ ih =>
      rintro w rfl
      obtain ⟨v, same, tail⟩ := ih (w.note _ _) (note_session _)
      exact ⟨v, same, .cons (Option.map_eq_some_iff.mpr ⟨_, hstep, rfl⟩) tail⟩

/-- Which user the tokens of the two robots below are of. -/
def tokenUser (token : String) : String :=
  if token = "b1" then "bob" else "alice"

/-- A login and then a whole refresh. -/
theorem tokensMatch_refreshed : ∃ w : TokenWatch Unit, w.session.userToken = "a2" ∧
    TokensMatch tokenUser (loginWith "alice" "a1" ++
      [.readToken, .refreshAnswered "a2", .storeRefresh, .cacheRefresh]) w.session := by
  have run : ∃ w, Run (Guard (StepOf step) fun w e =>
      w.session.Answers tokenUser e ∧ w.Orderly tokenUser e) (new "robot" : TokenWatch Unit)
      (loginWith "alice" "a1" ++
        [.readToken, .refreshAnswered "a2", .storeRefresh, .cacheRefresh]) w ∧
      w.session.userToken = "a2" := by
    refine ⟨_, .cons ⟨rfl, trivial, trivial⟩ (.cons ⟨rfl, ?_, trivial⟩ (.cons ⟨rfl, trivial, ?_⟩
      (.cons ⟨rfl, trivial, ?_⟩ (.cons ⟨rfl, trivial, trivial⟩ (.cons ⟨rfl, ?_, trivial⟩
      (.cons ⟨rfl, trivial, rfl⟩ (.cons ⟨rfl, trivial, ?_⟩ (.nil _)))))))), rfl⟩
    · rintro credentials place
      cases place
      decide
    · rintro token username place
      cases place
      refine ⟨?_, nofun⟩
      rintro user ⟨-, i, naming⟩
      cases naming
    · exact fun place => absurd (Login.caching.inj place) (by decide)
    · rintro manager asked made place
      cases made
      cases place
      decide
    · rintro - user ⟨-, i, naming⟩
      cases naming
  obtain ⟨w, run, stored⟩ := run
  exact ⟨w, stored, tokensMatch_of_orderly run⟩

/-- A refresh begun for the first user ends after the login of the second. -/
theorem not_tokensMatch_overtaken :
    ¬ ∀ (issuedTo : String → String) (h : List (SessionEvent Unit)) s,
      Run (Guard (StepOf RobotSession.step) (RobotSession.Answers issuedTo)) (.new "robot") h s →
        TokensMatch issuedTo h s := by
  intro all
  have run : ∃ s, Run (Guard (StepOf RobotSession.step) (RobotSession.Answers tokenUser))
      (.new "robot") (loginWith "alice" "a1" ++ .readToken :: loginWith "bob" "b1" ++
        [.refreshAnswered "a2", .storeRefresh]) s ∧
      (∀ user, ¬ s.Naming user) ∧ s.userToken = "a2" ∧ s.currentUser = "bob" := by
    refine ⟨_, .cons ⟨rfl, trivial⟩ (.cons ⟨rfl, ?_⟩ (.cons ⟨rfl, trivial⟩
      (.cons ⟨rfl, trivial⟩ (.cons ⟨rfl, trivial⟩ (.cons ⟨rfl, trivial⟩ (.cons ⟨rfl, ?_⟩
      (.cons ⟨rfl, trivial⟩ (.cons ⟨rfl, trivial⟩ (.cons ⟨rfl, ?_⟩
      (.cons ⟨rfl, trivial⟩ (.nil _))))))))))), ?_, rfl, rfl⟩
    · rintro credentials place
      cases place
      decide
    · rintro credentials place
      cases place
      decide
    · rintro manager asked made place
      cases made
      cases place
      decide
    · rintro user ⟨-, i, naming⟩
      cases naming
  obtain ⟨s, run, none, stored, user⟩ := run
  have current := (all tokenUser _ s run).current none
  rw [stored, user] at current
  revert current
  decide

end TokenWatch

end SpotSdk.Client
