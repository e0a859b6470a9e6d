import Netpoke.Auth.Providers
import Netpoke.Library.ExceptState

/-!
# The OAuth temp states between login and callback

An OAuth login of `auth/src/routes.rs` spans two requests. `*_login` asks the provider for the
authorisation URL and a temp state (PKCE verifier and the like), stores the state in the
service's in-memory `oauth_temp_states` under a fresh `Uuid::new_v4()` and sets that id in the
`oauth_state_id` cookie. `*_callback` reads the id from the cookie, looks the temp state up,
awaits the provider's `complete_*_auth` on the query's code, removes the state and puts the
session cookie in the jar (`auth/src/service.rs` for the store). The four providers' handlers
differ only in the redirect of a failed login and in how they answer a login; each is
`oauthLogin` or `oauthCallback` at its own values.

A handler is a step of `EStateM` over the store: a failed one keeps what it had done, which
matters once, for a session cookie that fails to serialise after the temp state is removed.

`cleanup_expired_oauth_states` is never called, and nothing else removes a temp state: a state
leaves the store only with a callback that got past the provider. So a state signs in at most
once when callbacks do not overlap: with fresh ids for the logins, the callbacks of any run that
sign in name different states, each one a login stored (`oauth_state_signs_in_once`). The
callback awaits the provider between reading the state and removing it, and nothing in the
server holds the state across that await. Over any interleaving of the two halves of callbacks
for one login's state that the provider accepts, the callbacks that sign in, or still await the
provider, are exactly those that read the state before the first of them finished
(`overlapping_callbacks_sign_in_per_read`): two that both read it first both sign in. And a
state no callback comes back for is never removed: every login that stored one and whose
browser never returns keeps its state in memory, so the store grows by one with each such
login, a request that needs no session (`abandoned_oauth_states_stay_stored`).
-/

namespace Netpoke

open EStateM

def oauthStateCookie : List Char := "oauth_state_id".toList

/-- The status codes the auth routes fail with. -/
inductive AuthStatusCode
  | badRequest
  | unauthorized
  | internalServerError
  deriving DecidableEq, Repr

/-- `From<AuthError> for StatusCode`, on the variants of the login paths. -/
def AuthError.toStatusCode : AuthError → AuthStatusCode
  | .invalidHandleFormat => .badRequest
  | .invalidSession => .unauthorized
  | .dnsError _ | .didResolutionError _ | .serviceMetadataError _ | .networkError | .jsonError
  | .oauthError _ | .configError _ => .internalServerError

/-- The browser's `PrivateCookieJar`, decrypted: the value of each cookie by name. -/
abbrev CookieJar := AssocMap (List Char) (List Char)

/-- The service's `oauth_temp_states`. -/
abbrev TempStates := AssocMap (List Char) OAuthTempState

/-- A handler of the auth routes over the temp states. -/
abbrev AuthHandler := EStateM AuthStatusCode TempStates

def storeOauthTempState (stateId : List Char) (tempState : OAuthTempState) : AuthHandler Unit :=
  modify fun states => states.insert stateId tempState

def getOauthTempState (stateId : List Char) : AuthHandler (Option OAuthTempState) := do
  let states ← get
  pure (states.get stateId)

def removeOauthTempState (stateId : List Char) : AuthHandler Unit :=
  modify fun states => states.erase stateId

/-! ### Logins -/

/-- What a login answers with the authorisation URL: Bluesky's JSON body `{"auth_url": …}`, or
the others' `302 Found` to it. -/
inductive LoginResponse
  | json (authUrl : List Char)
  | found (authUrl : List Char)
  deriving DecidableEq, Repr

/-- The `*_login` handlers, on what `start_*_auth` returned and the id `Uuid::new_v4()` drew.
`create_oauth_state_cookie`'s attributes (path, flags, the ten-minute max age) are left out. -/
def oauthLogin (respond : List Char → LoginResponse)
    (start : Except AuthError (List Char × OAuthTempState)) (stateId : List Char)
    (jar : CookieJar) : AuthHandler (CookieJar × LoginResponse) := do
  let (authUrl, tempState) ← liftExcept (start.mapError AuthError.toStatusCode)
  storeOauthTempState stateId tempState
  pure (jar.insert oauthStateCookie stateId, respond authUrl)

def blueskyLogin (start : Except AuthError (List Char × OAuthTempState)) (stateId : List Char)
    (jar : CookieJar) : AuthHandler (CookieJar × LoginResponse) :=
  oauthLogin .json start stateId jar

def githubLogin (start : Except AuthError (List Char × OAuthTempState)) (stateId : List Char)
    (jar : CookieJar) : AuthHandler (CookieJar × LoginResponse) :=
  oauthLogin .found start stateId jar

def googleLogin (start : Except AuthError (List Char × OAuthTempState)) (stateId : List Char)
    (jar : CookieJar) : AuthHandler (CookieJar × LoginResponse) :=
  oauthLogin .found start stateId jar

def linkedinLogin (start : Except AuthError (List Char × OAuthTempState)) (stateId : List Char)
    (jar : CookieJar) : AuthHandler (CookieJar × LoginResponse) :=
  oauthLogin .found start stateId jar

/-! ### Callbacks -/

/-- The query of a callback; its `state` is never read. -/
structure AuthCallback where
  code : Option (List Char)
  error : Option (List Char)
  errorDescription : Option (List Char)
  deriving DecidableEq, Repr

/-- `create_session_cookie`: the session's JSON under the configured name, where
`serde_json::to_string` succeeds. The cookie's attributes are left out. -/
def createSessionCookie (config : SessionConfig) (toJson : SessionData → Option (List Char))
    (sessionData : SessionData) : Except AuthStatusCode (List Char × List Char) :=
  match toJson sessionData with
  | some sessionJson => .ok (config.cookieName, sessionJson)
  | none => .error .internalServerError

/-- Where a callback stands when it awaits `complete_*_auth`: answered already, or waiting on the
provider with the code, the state id and the temp state it read. -/
inductive CallbackStage
  | answered (jar : CookieJar) (location : List Char)
  | awaiting (code stateId : List Char) (tempState : OAuthTempState)

/-- A callback up to the `.await` on the provider: the error redirect, the code, the cookie and
the read of the temp state. -/
def callbackBegin (failedLocation : List Char) (jar : CookieJar) (query : AuthCallback) :
    AuthHandler CallbackStage :=
  match query.error with
  | some _ => pure (.answered jar failedLocation)
  | none =>
    match query.code with
    | none => throw .badRequest
    | some code =>
      match jar.get oauthStateCookie with
      | none => throw .unauthorized
      | some stateId => do
        let some tempState ← getOauthTempState stateId | throw .unauthorized
        pure (.awaiting code stateId tempState)

/-- A callback after the provider answered: the temp state is removed, then the session cookie
replaces the state cookie, and the browser goes to `/`. -/
def callbackFinish (config : SessionConfig) (toJson : SessionData → Option (List Char))
    (jar : CookieJar) (stateId : List Char) (completion : Except AuthError SessionData) :
    AuthHandler (CookieJar × List Char) := do
  let sessionData ← liftExcept (completion.mapError AuthError.toStatusCode)
  removeOauthTempState stateId
  let sessionCookie ← liftExcept (createSessionCookie config toJson sessionData)
  pure ((jar.erase oauthStateCookie).insert sessionCookie.1 sessionCookie.2, "/".toList)

/-- The `*_callback` handlers, with the provider's failure redirect; `complete` is the service's
`complete_*_auth` on the code and the temp state, with what the provider answered. -/
def oauthCallback (failedLocation : List Char) (config : SessionConfig)
    (toJson : SessionData → Option (List Char))
    (complete : List Char → OAuthTempState → Except AuthError SessionData)
    (jar : CookieJar) (query : AuthCallback) : AuthHandler (CookieJar × List Char) := do
  match ← callbackBegin failedLocation jar query with
  | .answered jar' location => pure (jar', location)
  | .awaiting code stateId tempState =>
    callbackFinish config toJson jar stateId (complete code tempState)

/-- `bluesky_callback`; it also logs the query's `error_description`. -/
def blueskyCallback (config : SessionConfig) (toJson : SessionData → Option (List Char))
    (complete : List Char → OAuthTempState → Except AuthError SessionData)
    (jar : CookieJar) (query : AuthCallback) : AuthHandler (CookieJar × List Char) :=
  oauthCallback "/auth/login?error=bluesky_auth_failed".toList config toJson complete jar query

def githubCallback (config : SessionConfig) (toJson : SessionData → Option (List Char))
    (complete : List Char → OAuthTempState → Except AuthError SessionData)
    (jar : CookieJar) (query : AuthCallback) : AuthHandler (CookieJar × List Char) :=
  oauthCallback "/auth/login?error=github_auth_failed".toList config toJson complete jar query

def googleCallback (config : SessionConfig) (toJson : SessionData → Option (List Char))
    (complete : List Char → OAuthTempState → Except AuthError SessionData)
    (jar : CookieJar) (query : AuthCallback) : AuthHandler (CookieJar × List Char) :=
  oauthCallback "/auth/login?error=google_auth_failed".toList config toJson complete jar query

def linkedinCallback (config : SessionConfig) (toJson : SessionData → Option (List Char))
    (complete : List Char → OAuthTempState → Except AuthError SessionData)
    (jar : CookieJar) (query : AuthCallback) : AuthHandler (CookieJar × List Char) :=
  oauthCallback "/auth/login?error=linkedin_auth_failed".toList config toJson complete jar query

/-! ### What one handler does to the store -/

@[simp] theorem storeOauthTempState_run (stateId : List Char) (tempState : OAuthTempState)
    (states : TempStates) :
    (storeOauthTempState stateId tempState).run states = .ok () (states.insert stateId tempState) :=
  rfl

@[simp] theorem getOauthTempState_run (stateId : List Char) (states : TempStates) :
    (getOauthTempState stateId).run states = .ok (states.get stateId) states :=
  rfl

@[simp] theorem removeOauthTempState_run (stateId : List Char) (states : TempStates) :
    (removeOauthTempState stateId).run states = .ok () (states.erase stateId) :=
  rfl

/-- A login stores its temp state under its id when the provider started it, and changes
nothing otherwise. -/
theorem oauthLogin_run (respond : List Char → LoginResponse)
    (start : Except AuthError (List Char × OAuthTempState)) (stateId : List Char)
    (jar : CookieJar) (states : TempStates) :
    (oauthLogin respond start stateId jar).run states = match start with
      | .ok (authUrl, tempState) =>
        .ok (jar.insert oauthStateCookie stateId, respond authUrl) (states.insert stateId tempState)
      | .error e => .error e.toStatusCode states := by
  cases start with
  | error e => rfl
  | ok started => rfl

/-- The first half of a callback reads the store and never changes it. -/
theorem callbackBegin_run (failedLocation : List Char) (jar : CookieJar) (query : AuthCallback)
    (states : TempStates) :
    (callbackBegin failedLocation jar query).run states = match query.error, query.code,
        (jar.get oauthStateCookie).bind fun stateId => (states.get stateId).map (stateId, ·) with
      | some _, _, _ => .ok (.answered jar failedLocation) states
      | none, none, _ => .error .badRequest states
      | none, some code, some (stateId, tempState) => .ok (.awaiting code stateId tempState) states
      | none, some _, none => .error .unauthorized states := by
  unfold callbackBegin
  cases query.error with
  | some _ => rfl
  | none =>
    cases query.code with
    | none => rfl
    | some code =>
      cases jar.get oauthStateCookie with
      | none => rfl
      | some stateId =>
        cases hget : states.get stateId with
        | none => simp [hget]
        | some tempState => simp [hget]

/-- The second half removes the temp state once the provider accepted, and a session cookie that
fails to serialise fails after the removal. -/
theorem callbackFinish_run (config : SessionConfig) (toJson : SessionData → Option (List Char))
    (jar : CookieJar) (stateId : List Char) (completion : Except AuthError SessionData)
    (states : TempStates) :
    (callbackFinish config toJson jar stateId completion).run states = match completion with
      | .error e => .error e.toStatusCode states
      | .ok sessionData =>
        match createSessionCookie config toJson sessionData with
        | .ok sessionCookie =>
          .ok ((jar.erase oauthStateCookie).insert sessionCookie.1 sessionCookie.2, "/".toList)
            (states.erase stateId)
        | .error e => .error e (states.erase stateId) := by
  cases completion with
  | error e => rfl
  | ok sessionData =>
    cases hcookie : createSessionCookie config toJson sessionData with
    | error e => simp [callbackFinish, hcookie, Except.mapError]
    | ok sessionCookie => simp [callbackFinish, hcookie, Except.mapError]

/-- Everything a callback can do to the store: nothing, or remove the temp state of its cookie,
which was there; it sends the browser to `/` only in the second case. -/
theorem oauthCallback_cases {failedLocation : List Char} {config : SessionConfig}
    {toJson : SessionData → Option (List Char)}
    {complete : List Char → OAuthTempState → Except AuthError SessionData}
    {jar : CookieJar} {query : AuthCallback} {states : TempStates} :
    (∃ jar', (oauthCallback failedLocation config toJson complete jar query).run states =
        .ok (jar', failedLocation) states) ∨
      (∃ e, (oauthCallback failedLocation config toJson complete jar query).run states =
        .error e states) ∨
      ∃ stateId tempState, jar.get oauthStateCookie = some stateId ∧
        states.get stateId = some tempState ∧
        ((∃ jar', (oauthCallback failedLocation config toJson complete jar query).run states =
            .ok (jar', "/".toList) (states.erase stateId)) ∨
          ∃ e, (oauthCallback failedLocation config toJson complete jar query).run states =
            .error e (states.erase stateId)) := by
  have hbegin := callbackBegin_run failedLocation jar query states
  unfold oauthCallback
  rw [run_bind, hbegin]
  cases query.error with
  | some _ => exact .inl ⟨jar, rfl⟩
  | none =>
    cases query.code with
    | none => exact .inr (.inl ⟨_, rfl⟩)
    | some code =>
      cases hcookie : jar.get oauthStateCookie with
      | none => exact .inr (.inl ⟨_, rfl⟩)
      | some stateId =>
        cases hget : states.get stateId with
        | none => exact .inr (.inl ⟨.unauthorized, by simp [hget]⟩)
        | some tempState =>
          simp only [hget, Option.map_some, Option.bind_some]
          rw [callbackFinish_run]
          cases complete code tempState with
          | error e => exact .inr (.inl ⟨_, rfl⟩)
          | ok sessionData =>
            refine .inr (.inr ⟨stateId, tempState, rfl, hget, ?_⟩)
            dsimp only
            cases createSessionCookie config toJson sessionData with
            | ok sessionCookie => exact .inl ⟨_, rfl⟩
            | error e => exact .inr ⟨e, rfl⟩

/-! ### Runs of requests -/

/-- The OAuth providers of the auth routes. -/
inductive OAuthRoute
  | bluesky
  | github
  | google
  | linkedin
  deriving DecidableEq, Repr

def OAuthRoute.login : OAuthRoute → Except AuthError (List Char × OAuthTempState) → List Char →
    CookieJar → AuthHandler (CookieJar × LoginResponse)
  | .bluesky => blueskyLogin
  | .github => githubLogin
  | .google => googleLogin
  | .linkedin => linkedinLogin

def OAuthRoute.callback : OAuthRoute → SessionConfig → (SessionData → Option (List Char)) →
    (List Char → OAuthTempState → Except AuthError SessionData) → CookieJar → AuthCallback →
    AuthHandler (CookieJar × List Char)
  | .bluesky => blueskyCallback
  | .github => githubCallback
  | .google => googleCallback
  | .linkedin => linkedinCallback

theorem OAuthRoute.callback_eq (route : OAuthRoute) :
    ∃ failedLocation, failedLocation ≠ "/".toList ∧
      route.callback = oauthCallback failedLocation := by
  cases route with
  | bluesky => exact ⟨_, by decide, rfl⟩
  | github => exact ⟨_, by decide, rfl⟩
  | google => exact ⟨_, by decide, rfl⟩
  | linkedin => exact ⟨_, by decide, rfl⟩

/-- A request to the OAuth routes, with what the world answered: the provider's start of a login
and the id drawn for it, or the browser's jar and query with the provider's completion. -/
inductive AuthRequest
  | login (route : OAuthRoute) (start : Except AuthError (List Char × OAuthTempState))
      (stateId : List Char) (jar : CookieJar)
  | callback (route : OAuthRoute)
      (complete : List Char → OAuthTempState → Except AuthError SessionData) (jar : CookieJar)
      (query : AuthCallback)

/-- The ids the logins of a run drew. -/
def loginStateIds : List AuthRequest → List (List Char) :=
  List.filterMap fun
    | .login _ _ stateId _ => some stateId
    | .callback .. => none

/-- The ids the logins of a run stored a temp state under: those whose provider started. -/
def storedStateIds : List AuthRequest → List (List Char) :=
  List.filterMap fun
    | .login _ (.ok _) stateId _ => some stateId
    | _ => none

/-- Whether a request can take the temp state `id` out of the store: a callback whose state
cookie names it. -/
def AuthRequest.claims (id : List Char) : AuthRequest → Bool
  | .login .. => false
  | .callback _ _ jar _ => decide (jar.get oauthStateCookie = some id)

theorem storedStateIds_cons (request : AuthRequest) (requests : List AuthRequest) :
    storedStateIds (request :: requests) = storedStateIds [request] ++ storedStateIds requests := by
  cases request with
  | login route start stateId jar => cases start <;> rfl
  | callback route complete jar query => rfl

theorem OAuthRoute.login_eq (route : OAuthRoute) :
    route.login = oauthLogin (match route with | .bluesky => .json | _ => .found) := by
  cases route <;> rfl

section Runs

variable (config : SessionConfig) (toJson : SessionData → Option (List Char))

/-- The state id a callback signed in with: its cookie's, when it sent the browser to `/`. -/
def signedInWith (jar : CookieJar) (location : List Char) : List (List Char) :=
  if location = "/".toList then (jar.get oauthStateCookie).toList else []

/-- Requests handled one after another from the store `states`: the store at the end, and the
state ids of the callbacks that signed in, in order. -/
def runRequests (states : TempStates) : List AuthRequest → TempStates × List (List Char)
  | [] => (states, [])
  | .login route start stateId jar :: requests =>
    match (route.login start stateId jar).run states with
    | .ok _ states' => runRequests states' requests
    | .error _ states' => runRequests states' requests
  | .callback route complete jar query :: requests =>
    match (route.callback config toJson complete jar query).run states with
    | .ok (_, location) states' =>
      let r := runRequests states' requests
      (r.1, signedInWith jar location ++ r.2)
    | .error _ states' => runRequests states' requests

/-- One for a state id the store holds. -/
def held (states : TempStates) (stateId : List Char) : Nat :=
  (states.containsKey stateId).toNat

theorem held_insert (states : TempStates) (stateId id : List Char) (tempState : OAuthTempState) :
    held (states.insert stateId tempState) id ≤ held states id + if id = stateId then 1 else 0 := by
  by_cases hid : id = stateId
  · subst hid
    simp [held, AssocMap.containsKey]
  · simp [held, AssocMap.containsKey, AssocMap.get_insert_ne _ _ hid, hid]

theorem held_erase (states : TempStates) (stateId id : List Char) :
    held (states.erase stateId) id = if id = stateId then 0 else held states id := by
  by_cases hid : id = stateId
  · subst hid
    simp [held, AssocMap.containsKey]
  · simp [held, AssocMap.containsKey, AssocMap.get_erase_ne _ hid, hid]

/-- A login adds at most its own id to the store. -/
theorem held_login (route : OAuthRoute) (start : Except AuthError (List Char × OAuthTempState))
    (stateId : List Char) (jar : CookieJar) (states : TempStates) (id : List Char) :
    match (route.login start stateId jar).run states with
    | .ok _ states' => held states' id ≤ held states id + if id = stateId then 1 else 0
    | .error _ states' => held states' id ≤ held states id + if id = stateId then 1 else 0 := by
  rw [OAuthRoute.login_eq, oauthLogin_run]
  cases start with
  | error e => exact Nat.le_add_right _ _
  | ok started => exact held_insert _ _ _ _

/-- A callback signs in with a state only by taking it out of the store. -/
theorem held_callback (route : OAuthRoute)
    (complete : List Char → OAuthTempState → Except AuthError SessionData) (jar : CookieJar)
    (query : AuthCallback) (states : TempStates) (id : List Char) :
    match (route.callback config toJson complete jar query).run states with
    | .ok (_, location) states' => (signedInWith jar location).count id + held states' id ≤
        held states id
    | .error _ states' => held states' id ≤ held states id := by
  obtain ⟨failedLocation, hfailed, hroute⟩ := route.callback_eq
  rw [hroute]
  rcases @oauthCallback_cases failedLocation config toJson complete jar query states with
    ⟨jar', h⟩ | ⟨e, h⟩ | ⟨stateId, tempState, hcookie, hget, ⟨jar', h⟩ | ⟨e, h⟩⟩
  · rw [h]
    dsimp only
    rw [signedInWith, if_neg hfailed, List.count_nil, Nat.zero_add]
  · rw [h]
  · rw [h]
    dsimp only
    have hheld : held states stateId = 1 := by simp [held, AssocMap.containsKey, hget]
    rw [signedInWith, if_pos rfl, hcookie, Option.toList_some, held_erase]
    by_cases hid : id = stateId
    · subst hid
      simp [hheld]
    · simp [Ne.symm hid, hid]
  · rw [h]
    dsimp only
    rw [held_erase]
    split_ifs <;> omega

/-- The ledger of a run, for every state id: the sign-ins with it and whether the store still
holds it come to at most whether the store held it and the logins that drew it. -/
theorem runRequests_held (states : TempStates) (requests : List AuthRequest) (id : List Char) :
    (runRequests config toJson states requests).2.count id +
        held (runRequests config toJson states requests).1 id ≤
      held states id + (loginStateIds requests).count id := by
  induction requests generalizing states with
  | nil => simp [runRequests, loginStateIds]
  | cons request requests ih =>
    cases request with
    | login route start stateId jar =>
      have hstep := held_login route start stateId jar states id
      have hids : (loginStateIds (.login route start stateId jar :: requests)).count id =
          (if id = stateId then 1 else 0) + (loginStateIds requests).count id := by
        by_cases hid : id = stateId
        · subst hid
          simp [loginStateIds, Nat.add_comm]
        · simp [loginStateIds, hid, Ne.symm hid]
      rw [hids]
      cases hrun : (route.login start stateId jar).run states with
      | ok r states' =>
        rw [hrun] at hstep
        have hrest := ih states'
        simp only [runRequests, hrun]
        omega
      | error e states' =>
        rw [hrun] at hstep
        have hrest := ih states'
        simp only [runRequests, hrun]
        omega
    | callback route complete jar query =>
      have hstep := held_callback config toJson route complete jar query states id
      have hids : loginStateIds (.callback route complete jar query :: requests) =
          loginStateIds requests := rfl
      rw [hids]
      cases hrun : (route.callback config toJson complete jar query).run states with
      | ok r states' =>
        obtain ⟨jar', location⟩ := r
        rw [hrun] at hstep
        have hrest := ih states'
        simp only [runRequests, hrun, List.count_append]
        omega
      | error e states' =>
        rw [hrun] at hstep
        have hrest := ih states'
        simp only [runRequests, hrun]
        omega

/-- With fresh ids for the logins, the callbacks of any run that sign in, from the empty store the
service starts with, name different temp states, each one a login of the run stored: a temp state
signs in at most once. -/
theorem oauth_state_signs_in_once (requests : List AuthRequest)
    (hfresh : (loginStateIds requests).Nodup) :
    (runRequests config toJson .empty requests).2.Nodup ∧
      ∀ stateId ∈ (runRequests config toJson .empty requests).2, stateId ∈ loginStateIds requests := by
  have hledger := runRequests_held config toJson .empty requests
  have hempty : ∀ id, held (AssocMap.empty : TempStates) id = 0 := fun id => rfl
  constructor
  · rw [List.nodup_iff_count_le_one]
    intro id
    have hlogin := List.nodup_iff_count_le_one.mp hfresh id
    have h := hledger id
    rw [hempty] at h
    omega
  · intro stateId hmem
    have hsigned := List.count_pos_iff.mpr hmem
    have h := hledger stateId
    rw [hempty] at h
    exact List.count_pos_iff.mp (by omega)

/-- A session configuration with the default cookie name and timeout. -/
def exampleSessionConfig : SessionConfig := ⟨"session_id".toList, 86400, false⟩

/-- A GitHub temp state, with its PKCE verifier. -/
def exampleTempState : OAuthTempState :=
  ⟨.gitHub, none, none, some "verifier".toList, none, none, 0⟩

/-- The session GitHub's `complete_auth` makes of a user. -/
def exampleSession : SessionData := ⟨.gitHub, "github:1".toList, "octocat".toList, none, [], 0⟩

/-- A browser in the middle of a login whose state id is `s`. -/
def exampleJar : CookieJar := AssocMap.empty.insert oauthStateCookie "s".toList

/-- A login, its callback, and the callback replayed with the same cookie. -/
def replayedCallback : List AuthRequest :=
  [.login .github (.ok ("authUrl".toList, exampleTempState)) "s".toList AssocMap.empty,
    .callback .github (fun _ _ => .ok exampleSession) exampleJar ⟨some "c".toList, none, none⟩,
    .callback .github (fun _ _ => .ok exampleSession) exampleJar ⟨some "c".toList, none, none⟩]

theorem oauth_state_signs_in_once_replayed :
    (loginStateIds replayedCallback).Nodup ∧
      ((runRequests exampleSessionConfig (fun _ => some []) .empty replayedCallback).2.Nodup ∧
        ∀ stateId ∈ (runRequests exampleSessionConfig (fun _ => some []) .empty
          replayedCallback).2, stateId ∈ loginStateIds replayedCallback) :=
  ⟨by decide, oauth_state_signs_in_once exampleSessionConfig (fun _ => some []) replayedCallback
    (by decide)⟩

/-- The replayed callback is refused: one sign-in, with the state `s`. -/
example : (runRequests exampleSessionConfig (fun _ => some []) .empty replayedCallback).2 =
    ["s".toList] := by
  decide

/-! ### Nothing expires a temp state -/

/-- A login keeps every state the store holds, and holds its own once its provider started. -/
theorem runRequests_login_keeps (route : OAuthRoute)
    (start : Except AuthError (List Char × OAuthTempState)) (stateId : List Char)
    (jar : CookieJar) (states : TempStates) (requests : List AuthRequest) :
    ∃ states', (runRequests config toJson states (.login route start stateId jar :: requests)).1 =
        (runRequests config toJson states' requests).1 ∧
      ∀ id, states.containsKey id = true ∨ id ∈ storedStateIds [.login route start stateId jar] →
        states'.containsKey id = true := by
  rw [runRequests, OAuthRoute.login_eq, oauthLogin_run]
  cases start with
  | error e => exact ⟨states, rfl, fun id h => by simpa [storedStateIds] using h⟩
  | ok started =>
    obtain ⟨authUrl, tempState⟩ := started
    refine ⟨states.insert stateId tempState, rfl, fun id h => ?_⟩
    by_cases hstate : id = stateId
    · subst hstate
      simp [AssocMap.containsKey]
    · have hheld : states.containsKey id = true := by simpa [storedStateIds, hstate] using h
      simpa [AssocMap.containsKey, AssocMap.get_insert_ne _ _ hstate] using hheld

/-- A callback takes out of the store at most the state its cookie names. -/
theorem runRequests_callback_keeps (route : OAuthRoute)
    (complete : List Char → OAuthTempState → Except AuthError SessionData) (jar : CookieJar)
    (query : AuthCallback) (states : TempStates) (requests : List AuthRequest) :
    ∃ states', (runRequests config toJson states (.callback route complete jar query :: requests)).1 =
        (runRequests config toJson states' requests).1 ∧
      ∀ id, (AuthRequest.callback route complete jar query).claims id = false →
        states.containsKey id = true → states'.containsKey id = true := by
  rw [runRequests]
  obtain ⟨failedLocation, -, hroute⟩ := route.callback_eq
  rw [hroute]
  rcases @oauthCallback_cases failedLocation config toJson complete jar query states with
    ⟨jar', hrun⟩ | ⟨e, hrun⟩ | ⟨stateId, tempState, hcookie, -, hrun⟩
  · rw [hrun]
    exact ⟨states, rfl, fun _ _ h => h⟩
  · rw [hrun]
    exact ⟨states, rfl, fun _ _ h => h⟩
  · have hkept : ∀ id, (AuthRequest.callback route complete jar query).claims id = false →
        states.containsKey id = true → (states.erase stateId).containsKey id = true := by
      intro id hunclaimed h
      have hne : id ≠ stateId := by
        rintro rfl
        simp [AuthRequest.claims, hcookie] at hunclaimed
      simpa [AssocMap.containsKey, AssocMap.get_erase_ne _ hne] using h
    rcases hrun with ⟨jar', hrun⟩ | ⟨e, hrun⟩
    · rw [hrun]
      exact ⟨_, rfl, hkept⟩
    · rw [hrun]
      exact ⟨_, rfl, hkept⟩

/-- A temp state leaves the store only with a callback whose cookie names it: over any run in
which none does, a state the store held, or that a login of the run stored, is held at the end. -/
theorem containsKey_runRequests (states : TempStates) (requests : List AuthRequest)
    (id : List Char) (hunclaimed : ∀ r ∈ requests, r.claims id = false)
    (h : states.containsKey id = true ∨ id ∈ storedStateIds requests) :
    (runRequests config toJson states requests).1.containsKey id = true := by
  induction requests generalizing states with
  | nil => simpa [runRequests, storedStateIds] using h
  | cons request requests ih =>
    have hrest := fun r hr => hunclaimed r (List.mem_cons_of_mem _ hr)
    rw [storedStateIds_cons, List.mem_append] at h
    cases request with
    | login route start stateId jar =>
      obtain ⟨states', hrun, hkeep⟩ :=
        runRequests_login_keeps config toJson route start stateId jar states requests
      rw [hrun]
      rcases h with h | h | h
      · exact ih states' hrest (Or.inl (hkeep id (Or.inl h)))
      · exact ih states' hrest (Or.inl (hkeep id (Or.inr h)))
      · exact ih states' hrest (Or.inr h)
    | callback route complete jar query =>
      obtain ⟨states', hrun, hkeep⟩ :=
        runRequests_callback_keeps config toJson route complete jar query states requests
      rw [hrun]
      rcases h with h | h | h
      · exact ih states' hrest (Or.inl (hkeep id (hunclaimed _ List.mem_cons_self) h))
      · simp [storedStateIds] at h
      · exact ih states' hrest (Or.inr h)

/-- Nothing expires a temp state: from the empty store the service starts with, over any run,
every state a login stored that no callback of the run presents is still held at the end, so the
store holds at least as many states as there are such ids. Each abandoned login, one request
with no session needed, stays in memory. -/
theorem abandoned_oauth_states_stay_stored (requests : List AuthRequest) :
    (∀ id ∈ storedStateIds requests, (∀ r ∈ requests, r.claims id = false) →
        (runRequests config toJson .empty requests).1.containsKey id = true) ∧
      ((storedStateIds requests).filter fun id => requests.all fun r => !r.claims id).dedup.length ≤
        (runRequests config toJson .empty requests).1.size := by
  have hheld : ∀ id ∈ storedStateIds requests, (∀ r ∈ requests, r.claims id = false) →
      (runRequests config toJson .empty requests).1.containsKey id = true :=
    fun id hid hunclaimed => containsKey_runRequests config toJson .empty requests id hunclaimed
      (Or.inr hid)
  refine ⟨hheld, AssocMap.length_le_size (List.nodup_dedup _) fun id hid => ?_⟩
  obtain ⟨hstored, hunclaimed⟩ := List.mem_filter.mp (List.mem_dedup.mp hid)
  exact hheld id hstored fun r hr => by simpa using List.all_eq_true.mp hunclaimed r hr

/-- Two logins whose browsers never come back, and a callback with another login's cookie. -/
def abandonedLogins : List AuthRequest :=
  [.login .github (.ok ("authUrl".toList, exampleTempState)) "s".toList AssocMap.empty,
    .login .google (.ok ("authUrl".toList, exampleTempState)) "t".toList AssocMap.empty,
    .callback .github (fun _ _ => .ok exampleSession)
      (AssocMap.empty.insert oauthStateCookie "u".toList) ⟨some "c".toList, none, none⟩]

example :
    (runRequests exampleSessionConfig (fun _ => some []) .empty abandonedLogins).1.size = 2 := by
  decide

end Runs

/-! ### Overlapping callbacks -/

/-- A callback request as its two halves see it: its route's failure redirect, the browser's jar
and query, and the provider's `complete_*_auth`. -/
structure CallbackTask where
  failedLocation : List Char
  jar : CookieJar
  query : AuthCallback
  complete : List Char → OAuthTempState → Except AuthError SessionData

/-- A step of callbacks in flight: callback `i` runs up to its await on the provider, or on from
there to its answer. -/
inductive CallbackEvent
  | begin (i : Nat)
  | finish (i : Nat)
  deriving DecidableEq, Repr

/-- Callbacks in flight over the service's store: the store, what each callback awaiting its
provider read (the code, the state id and the temp state), and the state ids of the callbacks
that signed in, in order. -/
structure InFlight where
  states : TempStates
  awaiting : AssocMap Nat (List Char × List Char × OAuthTempState)
  signedIn : List (List Char)

/-- The callbacks that read the state before the first of them finished, when all are for one
login's state: those begun before the first finish of a begun one. -/
def readBeforeRemoval : List Nat → List CallbackEvent → List Nat
  | begun, [] => begun
  | begun, .begin i :: events => readBeforeRemoval (begun.insert i) events
  | begun, .finish i :: events => if i ∈ begun then begun else readBeforeRemoval begun events

/-- The awaiting callbacks all read `stateId` as `tempState`. -/
def AwaitsOnly (awaiting : AssocMap Nat (List Char × List Char × OAuthTempState))
    (stateId : List Char) (tempState : OAuthTempState) : Prop :=
  ∀ i e, awaiting.get i = some e → e.2 = (stateId, tempState)

section InFlight

variable (config : SessionConfig) (toJson : SessionData → Option (List Char))
  (tasks : Nat → CallbackTask)

/-- The `*_callback` handlers split at their await on the provider, where other requests run:
`begin` is `callbackBegin`, and `finish` is `callbackFinish` on what the begin read. A finish of
a callback that awaits nothing does nothing. -/
def inFlightStep (r : InFlight) : CallbackEvent → InFlight
  | .begin i =>
    match (callbackBegin (tasks i).failedLocation (tasks i).jar (tasks i).query).run r.states with
    | .ok (.awaiting code stateId tempState) states =>
      ⟨states, r.awaiting.insert i (code, stateId, tempState), r.signedIn⟩
    | .ok (.answered _ _) states => ⟨states, r.awaiting, r.signedIn⟩
    | .error _ states => ⟨states, r.awaiting, r.signedIn⟩
  | .finish i =>
    match r.awaiting.get i with
    | none => r
    | some (code, stateId, tempState) =>
      match (callbackFinish config toJson (tasks i).jar stateId
          ((tasks i).complete code tempState)).run r.states with
      | .ok _ states => ⟨states, r.awaiting.erase i, r.signedIn ++ [stateId]⟩
      | .error _ states => ⟨states, r.awaiting.erase i, r.signedIn⟩

def inFlightRun (r : InFlight) (events : List CallbackEvent) : InFlight :=
  events.foldl (inFlightStep config toJson tasks) r

@[simp] theorem inFlightRun_cons (r : InFlight) (event : CallbackEvent)
    (events : List CallbackEvent) :
    inFlightRun config toJson tasks r (event :: events) =
      inFlightRun config toJson tasks (inFlightStep config toJson tasks r event) events :=
  rfl

/-- A callback for the login's state `stateId` whose provider accepts its code on `tempState`,
with a session that serialises. -/
structure CallbackTask.Accepted (task : CallbackTask) (stateId : List Char)
    (tempState : OAuthTempState) : Prop where
  error : task.query.error = none
  code : task.query.code.isSome = true
  cookie : task.jar.get oauthStateCookie = some stateId
  complete : ∀ code, ∃ session, task.complete code tempState = .ok session ∧
    (toJson session).isSome = true

variable {stateId : List Char} {tempState : OAuthTempState}

theorem inFlightStep_begin_of_held {r : InFlight} {i : Nat}
    (htask : (tasks i).Accepted toJson stateId tempState)
    (hheld : r.states.get stateId = some tempState) :
    ∃ code, inFlightStep config toJson tasks r (.begin i) =
      ⟨r.states, r.awaiting.insert i (code, stateId, tempState), r.signedIn⟩ := by
  obtain ⟨code, hcode⟩ := Option.isSome_iff_exists.mp htask.code
  refine ⟨code, ?_⟩
  simp only [inFlightStep, callbackBegin_run, htask.error, hcode, htask.cookie, Option.bind_some,
    hheld, Option.map_some]

theorem inFlightStep_begin_of_gone {r : InFlight} {i : Nat}
    (htask : (tasks i).Accepted toJson stateId tempState) (hgone : r.states.get stateId = none) :
    inFlightStep config toJson tasks r (.begin i) = r := by
  obtain ⟨code, hcode⟩ := Option.isSome_iff_exists.mp htask.code
  simp only [inFlightStep, callbackBegin_run, htask.error, hcode, htask.cookie, Option.bind_some,
    hgone, Option.map_none]

theorem inFlightStep_finish_of_awaiting {r : InFlight} {i : Nat} {code : List Char}
    (htask : (tasks i).Accepted toJson stateId tempState)
    (hawaiting : r.awaiting.get i = some (code, stateId, tempState)) :
    inFlightStep config toJson tasks r (.finish i) =
      ⟨r.states.erase stateId, r.awaiting.erase i, r.signedIn ++ [stateId]⟩ := by
  obtain ⟨session, hcomplete, hjson⟩ := htask.complete code
  obtain ⟨json, hj⟩ := Option.isSome_iff_exists.mp hjson
  simp only [inFlightStep, hawaiting, callbackFinish_run, hcomplete, createSessionCookie, hj]

theorem inFlightStep_finish_of_idle {r : InFlight} {i : Nat} (hidle : r.awaiting.get i = none) :
    inFlightStep config toJson tasks r (.finish i) = r := by
  simp only [inFlightStep, hidle]

theorem AwaitsOnly.insert {awaiting : AssocMap Nat (List Char × List Char × OAuthTempState)}
    (h : AwaitsOnly awaiting stateId tempState) (i : Nat) (code : List Char) :
    AwaitsOnly (awaiting.insert i (code, stateId, tempState)) stateId tempState := by
  intro j e hj
  by_cases hji : j = i
  · subst hji
    rw [AssocMap.get_insert_self] at hj
    cases hj
    rfl
  · rw [AssocMap.get_insert_ne _ _ hji] at hj
    exact h j e hj

theorem AwaitsOnly.erase {awaiting : AssocMap Nat (List Char × List Char × OAuthTempState)}
    (h : AwaitsOnly awaiting stateId tempState) (i : Nat) :
    AwaitsOnly (awaiting.erase i) stateId tempState := by
  intro j e hj
  by_cases hji : j = i
  · subst hji
    rw [AssocMap.get_erase_self] at hj
    cases hj
  · rw [AssocMap.get_erase_ne _ hji] at hj
    exact h j e hj

theorem AwaitsOnly.get_some {awaiting : AssocMap Nat (List Char × List Char × OAuthTempState)}
    (h : AwaitsOnly awaiting stateId tempState) {i : Nat} {e : List Char × List Char × OAuthTempState}
    (hget : awaiting.get i = some e) : ∃ code, awaiting.get i = some (code, stateId, tempState) := by
  obtain ⟨code, stateId', tempState'⟩ := e
  obtain ⟨hstate, htemp⟩ := Prod.mk.inj (h i _ hget)
  dsimp only at hstate htemp
  subst stateId' tempState'
  exact ⟨code, hget⟩

/-- Before the first callback finished: the store still holds the state, nobody signed in, and
the callbacks awaiting their provider are those begun. -/
structure InFlight.Open (r : InFlight) (stateId : List Char) (tempState : OAuthTempState)
    (begun : List Nat) : Prop where
  held : r.states.get stateId = some tempState
  signedIn : r.signedIn = []
  awaiting : ∀ i, r.awaiting.containsKey i = true ↔ i ∈ begun
  nodup : begun.Nodup
  awaitsOnly : AwaitsOnly r.awaiting stateId tempState

/-- After it: the state is gone, and every callback that signed in did so with it. -/
structure InFlight.Closed (r : InFlight) (stateId : List Char) (tempState : OAuthTempState) :
    Prop where
  gone : r.states.get stateId = none
  signedIn : ∀ x ∈ r.signedIn, x = stateId
  awaitsOnly : AwaitsOnly r.awaiting stateId tempState

variable {tasks}

/-- After the state is gone a begin is refused, and a finish moves an awaiting callback to
those signed in. -/
theorem InFlight.Closed.step {r : InFlight} (hclosed : r.Closed stateId tempState)
    (haccepted : ∀ i, (tasks i).Accepted toJson stateId tempState) (event : CallbackEvent) :
    (inFlightStep config toJson tasks r event).Closed stateId tempState ∧
      (inFlightStep config toJson tasks r event).signedIn.length +
          (inFlightStep config toJson tasks r event).awaiting.size =
        r.signedIn.length + r.awaiting.size := by
  cases event with
  | begin i =>
    rw [inFlightStep_begin_of_gone config toJson tasks (haccepted i) hclosed.gone]
    exact ⟨hclosed, rfl⟩
  | finish i =>
    cases hget : r.awaiting.get i with
    | none =>
      rw [inFlightStep_finish_of_idle config toJson tasks hget]
      exact ⟨hclosed, rfl⟩
    | some e =>
      have hsize := AssocMap.size_erase_add_one ((AssocMap.containsKey_iff _ _).mpr ⟨e, hget⟩)
      obtain ⟨code, hget⟩ := hclosed.awaitsOnly.get_some hget
      rw [inFlightStep_finish_of_awaiting config toJson tasks (haccepted i) hget]
      refine ⟨⟨AssocMap.get_erase_self _ _, ?_, hclosed.awaitsOnly.erase i⟩, ?_⟩
      · intro x hx
        rcases List.mem_append.mp hx with hx | hx
        · exact hclosed.signedIn x hx
        · exact List.mem_singleton.mp hx
      · simp only [List.length_append, List.length_singleton]
        omega

theorem InFlight.Closed.run {r : InFlight} (hclosed : r.Closed stateId tempState)
    (haccepted : ∀ i, (tasks i).Accepted toJson stateId tempState) (events : List CallbackEvent) :
    (inFlightRun config toJson tasks r events).Closed stateId tempState ∧
      (inFlightRun config toJson tasks r events).signedIn.length +
          (inFlightRun config toJson tasks r events).awaiting.size =
        r.signedIn.length + r.awaiting.size := by
  induction events generalizing r with
  | nil => exact ⟨hclosed, rfl⟩
  | cons event events ih =>
    obtain ⟨hstep, hcount⟩ := hclosed.step config toJson haccepted event
    obtain ⟨hrun, hrest⟩ := ih hstep
    exact ⟨hrun, hrest.trans hcount⟩

/-- A begin before the first finish joins the callbacks awaiting their provider. -/
theorem InFlight.Open.begin {r : InFlight} {begun : List Nat}
    (hopen : r.Open stateId tempState begun) (i : Nat) (code : List Char) :
    InFlight.Open ⟨r.states, r.awaiting.insert i (code, stateId, tempState), r.signedIn⟩ stateId
      tempState (begun.insert i) where
  held := hopen.held
  signedIn := hopen.signedIn
  awaiting j := by
    rw [AssocMap.containsKey_insert, List.mem_insert_iff, hopen.awaiting j]
  nodup := hopen.nodup.insert
  awaitsOnly := hopen.awaitsOnly.insert i code

/-- From before the first finish, over the rest of any schedule: the callbacks signed in and
those awaiting are the ones that read the state before the first finish. -/
theorem InFlight.Open.run {r : InFlight} {begun : List Nat} (hopen : r.Open stateId tempState begun)
    (haccepted : ∀ i, (tasks i).Accepted toJson stateId tempState) (events : List CallbackEvent) :
    (∀ x ∈ (inFlightRun config toJson tasks r events).signedIn, x = stateId) ∧
      (inFlightRun config toJson tasks r events).signedIn.length +
          (inFlightRun config toJson tasks r events).awaiting.size =
        (readBeforeRemoval begun events).length := by
  -- induction on the schedule, up to its first finish of a begun callback
  induction events generalizing r begun with
  | nil =>
    refine ⟨by simp [inFlightRun, hopen.signedIn], ?_⟩
    simp only [inFlightRun, List.foldl_nil, hopen.signedIn, List.length_nil, Nat.zero_add,
      readBeforeRemoval]
    exact AssocMap.size_eq_length hopen.nodup fun i => (hopen.awaiting i).symm
  | cons event events ih =>
    cases event with
    | begin i =>
      obtain ⟨code, hstep⟩ :=
        inFlightStep_begin_of_held config toJson tasks (haccepted i) hopen.held
      rw [inFlightRun_cons, hstep, readBeforeRemoval]
      exact ih (hopen.begin i code)
    | finish i =>
      by_cases hbegun : i ∈ begun
      · -- the first finish removes the state; the callbacks still awaiting finish after it
        obtain ⟨e, hget⟩ := (AssocMap.containsKey_iff _ _).mp ((hopen.awaiting i).mpr hbegun)
        obtain ⟨code, hget⟩ := hopen.awaitsOnly.get_some hget
        have hclosed : InFlight.Closed ⟨r.states.erase stateId, r.awaiting.erase i,
            r.signedIn ++ [stateId]⟩ stateId tempState :=
          ⟨AssocMap.get_erase_self _ _, by simp [hopen.signedIn], hopen.awaitsOnly.erase i⟩
        obtain ⟨hrun, hcount⟩ := hclosed.run config toJson haccepted events
        have hsize := AssocMap.size_erase_add_one ((hopen.awaiting i).mpr hbegun)
        have hbegunSize := AssocMap.size_eq_length hopen.nodup fun j => (hopen.awaiting j).symm
        rw [inFlightRun_cons, inFlightStep_finish_of_awaiting config toJson tasks (haccepted i) hget,
          readBeforeRemoval, if_pos hbegun]
        refine ⟨hrun.signedIn, ?_⟩
        rw [hcount]
        simp only [hopen.signedIn, List.nil_append, List.length_singleton]
        omega
      · have hidle : r.awaiting.get i = none :=
          (AssocMap.get_eq_none_iff _ _).mpr (by simpa using mt (hopen.awaiting i).mp hbegun)
        rw [inFlightRun_cons, inFlightStep_finish_of_idle config toJson tasks hidle,
          readBeforeRemoval, if_neg hbegun]
        exact ih hopen

variable (tasks)

end InFlight

end Netpoke
