import Netpoke.Auth.Config
import Netpoke.Library.Text
import Netpoke.Library.AssocMap
import Netpoke.Library.Except

/-!
# Login providers

The five ways to a `SessionData` (`auth/src/providers`, behind the `AuthService` methods of
`auth/src/service.rs`): the plain login's `authenticate`, `complete_auth` of GitHub, Google and
LinkedIn on the user record of their user info endpoint, and Bluesky's `start_auth` followed by
`complete_auth` on the token response. The answers of the network are inputs. `Account` is the
account an identity provider authenticated; for Bluesky that is the `sub` of the token response.
-/

namespace Netpoke

open CharList

/-- The `AuthError` variants of the login paths, with their texts. `NetworkError`,
`DidResolutionError` and `ServiceMetadataError` come from the network. -/
inductive AuthError
  | dnsError (msg : List Char)
  | didResolutionError (msg : List Char)
  | serviceMetadataError (msg : List Char)
  | networkError
  | jsonError
  | invalidHandleFormat
  | invalidSession
  | oauthError (msg : List Char)
  | configError (msg : List Char)
  deriving DecidableEq, Repr

/-- The `ok_or_else(|| AuthError::ConfigError("… provider not enabled"))` of every `AuthService`
login method. -/
def requireProvider {α : Type} (enabled : Bool) (name : List Char)
    (run : Unit → Except AuthError α) : Except AuthError α :=
  if enabled then run () else .error (.configError (name ++ " provider not enabled".toList))

theorem requireProvider_eq_ok {α : Type} {enabled : Bool} {name : List Char}
    {run : Unit → Except AuthError α} {a : α} (h : requireProvider enabled name run = .ok a) :
    enabled = true ∧ run () = .ok a := by
  unfold requireProvider at h
  split at h
  · exact ⟨‹_›, h⟩
  · cases h

/-! ### Plain login -/

/-- The users of `PlainLoginProvider::new`, by name; a later entry replaces an earlier one. -/
def PlainLoginProvider.users (config : PlainLoginConfig) : AssocMap (List Char) UserCredentials :=
  config.users.foldl (fun users user => users.insert user.username user) AssocMap.empty

/-- `PlainLoginProvider::authenticate` at the time `now`; `bcryptVerify` is `bcrypt::verify`,
with the text of its error. -/
def PlainLoginProvider.authenticate (bcryptVerify : List Char → List Char → Except (List Char) Bool)
    (users : AssocMap (List Char) UserCredentials) (username password : List Char) (now : Nat) :
    Except AuthError SessionData := do
  let some user := users.get username
    | throw (.oauthError "Invalid username or password".toList)
  let passwordValid ←
    if "$2".toList.isPrefixOf user.password then
      (bcryptVerify password user.password).mapError fun e =>
        .oauthError ("Password verification failed: ".toList ++ e)
    else pure (password == user.password)
  if !passwordValid then throw (.oauthError "Invalid username or password".toList)
  pure ⟨.plainLogin, "local:".toList ++ username, username, user.displayName, [], now⟩

theorem PlainLoginProvider.authenticate_eq_ok
    {bcryptVerify : List Char → List Char → Except (List Char) Bool}
    {users : AssocMap (List Char) UserCredentials} {username password : List Char} {now : Nat}
    {session : SessionData}
    (h : PlainLoginProvider.authenticate bcryptVerify users username password now = .ok session) :
    session.authProvider = .plainLogin ∧ session.userId = "local:".toList ++ username ∧
      session.handle = username := by
  unfold PlainLoginProvider.authenticate at h
  cases hget : users.get username with
  | none =>
    rw [hget] at h
    exact absurd h Except.throw_ne_ok
  | some user =>
    rw [hget] at h
    dsimp only at h
    -- bcrypt or the plain comparison, then the `if !password_valid`
    split at h <;> obtain ⟨passwordValid, -, h⟩ := Except.bind_eq_ok h <;> split at h
    all_goals first
      | exact absurd h Except.throw_bind_ne_ok
      | cases h
        exact ⟨rfl, rfl, rfl⟩

/-! ### GitHub, Google, LinkedIn -/

/-- `GitHubUser`, the answer of `https://api.github.com/user`. -/
structure GitHubUser where
  login : List Char
  name : Option (List Char)
  email : Option (List Char)
  id : Nat
  deriving DecidableEq, Repr

/-- `GoogleUserInfo` and `LinkedInUserInfo`, which have the same fields. -/
structure OidcUserInfo where
  sub : List Char
  name : Option (List Char)
  email : Option (List Char)
  deriving DecidableEq, Repr

/-- The session `GitHubProvider::complete_auth` builds from the user record; the errors of the
token exchange and of the user request are returned as they are. -/
def GitHubProvider.completeAuth (user : GitHubUser) (now : Nat) : SessionData :=
  ⟨.gitHub, "github:".toList ++ Nat.toDigits 10 user.id, user.login, user.name, [], now⟩

/-- The session Google's and LinkedIn's `complete_auth` build: the id under the provider's
prefix, the email or else the `sub` as handle. -/
def oidcSession (provider : AuthProvider) (idPrefix : List Char) (user : OidcUserInfo)
    (now : Nat) : SessionData :=
  ⟨provider, idPrefix ++ user.sub, user.email.getD user.sub, user.name, [], now⟩

def GoogleProvider.completeAuth (user : OidcUserInfo) (now : Nat) : SessionData :=
  oidcSession .google "google:".toList user now

def LinkedInProvider.completeAuth (user : OidcUserInfo) (now : Nat) : SessionData :=
  oidcSession .linkedIn "linkedin:".toList user now

/-! ### Bluesky -/

/-- The answers of the network to Bluesky's discovery. -/
structure BlueskyNetwork where
  /-- `txt_lookup`: the texts of the records, `none` on a lookup error. -/
  txtLookup : List Char → Option (List (List Char))
  /-- The body of `https://{domain}/.well-known/atproto-did`, or the error of the request. -/
  wellKnownDid : List Char → Except AuthError (List Char)
  /-- `resolve_did` and the two metadata requests of `discover_oauth_endpoints`. -/
  endpoints : List Char → Except AuthError OAuthEndpoints

/-- The secrets `start_auth` draws: the PKCE verifier and the DPoP key. -/
structure BlueskySecrets where
  pkceVerifier : List Char
  dpopPrivateKey : List Char

/-- The DID of one TXT record, if it is `did=` and a DID. -/
def txtRecordDid (record : List Char) : Option (List Char) :=
  if "did=".toList.isPrefixOf record then
    let did := trimBy (· == '"') (record.drop 4)
    if "did:".toList.isPrefixOf did then some did else none
  else none

/-- `BlueskyProvider::resolve_handle_to_did`: a `did=` TXT record of `_atproto.{domain}.`, else
the `did:` served at the domain's `.well-known/atproto-did`. -/
def BlueskyProvider.resolveHandleToDid (net : BlueskyNetwork) (handle : List Char) :
    Except AuthError (List Char) :=
  match handle with
  | '@' :: domain =>
    match (net.txtLookup ("_atproto.".toList ++ domain ++ ['.'])).bind
        (·.findSome? txtRecordDid) with
    | some did => .ok did
    | none => do
      let body ← net.wellKnownDid domain
      let did := trimBy isUnicodeWhiteSpace body
      if "did:".toList.isPrefixOf did then pure did
      else throw (.dnsError ("Invalid DID format from HTTPS endpoint: ".toList ++ did))
  | _ => .error .invalidHandleFormat

/-- `BlueskyProvider::start_auth` at the time `now`: the state kept for the callback. -/
def BlueskyProvider.startAuth (net : BlueskyNetwork) (secrets : BlueskySecrets)
    (handle : List Char) (now : Nat) : Except AuthError OAuthTempState := do
  let userDid ← BlueskyProvider.resolveHandleToDid net handle
  let oauthEndpoints ← net.endpoints userDid
  pure ⟨.bluesky, some handle, some userDid, some secrets.pkceVerifier, some oauthEndpoints,
    some secrets.dpopPrivateKey, now⟩

theorem txtRecordDid_isPrefixOf {record did : List Char} (h : txtRecordDid record = some did) :
    "did:".toList.isPrefixOf did = true := by
  unfold txtRecordDid at h
  split at h
  · dsimp only at h
    split at h
    · cases h
      assumption
    · cases h
  · cases h

theorem BlueskyProvider.resolveHandleToDid_isPrefixOf {net : BlueskyNetwork}
    {handle did : List Char} (h : BlueskyProvider.resolveHandleToDid net handle = .ok did) :
    "did:".toList.isPrefixOf did = true := by
  unfold BlueskyProvider.resolveHandleToDid at h
  split at h
  · split at h
    · -- a TXT record
      rename_i found hfound
      cases h
      obtain ⟨records, -, hfind⟩ := Option.bind_eq_some_iff.mp hfound
      obtain ⟨record, -, hrecord⟩ := List.exists_of_findSome?_eq_some hfind
      exact txtRecordDid_isPrefixOf hrecord
    · -- the `.well-known` fallback
      obtain ⟨body, -, h⟩ := Except.bind_eq_ok h
      dsimp only at h
      split at h
      · cases h
        assumption
      · exact absurd h Except.throw_ne_ok
  · cases h

theorem BlueskyProvider.startAuth_eq_ok {net : BlueskyNetwork} {secrets : BlueskySecrets}
    {handle : List Char} {now : Nat} {tempState : OAuthTempState}
    (h : BlueskyProvider.startAuth net secrets handle now = .ok tempState) :
    ∃ did, BlueskyProvider.resolveHandleToDid net handle = .ok did ∧
      tempState.handle = some handle ∧ tempState.userDid = some did := by
  unfold BlueskyProvider.startAuth at h
  obtain ⟨did, hdid, h⟩ := Except.bind_eq_ok h
  obtain ⟨oauthEndpoints, -, h⟩ := Except.bind_eq_ok h
  cases h
  exact ⟨did, hdid, rfl, rfl⟩

/-- The fields of the token response's JSON. -/
structure TokenData where
  accessToken : Option (List Char)
  /-- The DID of the account the authorization server signed in. -/
  sub : List Char
  deriving DecidableEq, Repr

/-- The answer of the token endpoint, after the retry with a DPoP nonce. -/
structure TokenResponse where
  isSuccess : Bool
  text : List Char
  /-- The body parsed as JSON, `none` if it is not JSON. -/
  data : Option TokenData
  deriving DecidableEq, Repr

/-- `BlueskyProvider::complete_auth` at the time `now`; `displayName` is what `fetch_profile`
found, if anything. -/
def BlueskyProvider.completeAuth (tempState : OAuthTempState) (token : TokenResponse)
    (displayName : Option (List Char)) (now : Nat) : Except AuthError SessionData := do
  let some _ := tempState.pkceVerifier | throw .invalidSession
  let some _ := tempState.dpopPrivateKey | throw .invalidSession
  let some _ := tempState.oauthEndpoints | throw .invalidSession
  let some userDid := tempState.userDid | throw .invalidSession
  let some handle := tempState.handle | throw .invalidSession
  if !token.isSuccess then throw (.oauthError ("Token exchange failed: ".toList ++ token.text))
  let some data := token.data | throw .jsonError
  let some _ := data.accessToken | throw (.oauthError "No access_token in response".toList)
  pure ⟨.bluesky, userDid, handle, displayName, [], now⟩

/-- The session is the DID and the handle of the state; of the token only its status, its JSON
and its access token count. -/
theorem BlueskyProvider.completeAuth_eq_ok {tempState : OAuthTempState} {token : TokenResponse}
    {displayName : Option (List Char)} {now : Nat} {session : SessionData}
    (h : BlueskyProvider.completeAuth tempState token displayName now = .ok session) :
    ∃ did handle data, tempState.userDid = some did ∧ tempState.handle = some handle ∧
      token.data = some data ∧ session = ⟨.bluesky, did, handle, displayName, [], now⟩ := by
  obtain ⟨provider, handle, userDid, pkceVerifier, endpoints, dpopKey, createdAt⟩ := tempState
  obtain ⟨isSuccess, text, data⟩ := token
  unfold BlueskyProvider.completeAuth at h
  -- each `ok_or_else` on the state, the status, the JSON and the access token
  cases pkceVerifier <;> cases dpopKey <;> cases endpoints <;> cases userDid <;> cases handle <;>
    dsimp only at h
  all_goals try exact absurd h Except.throw_ne_ok
  rename_i did handle
  split at h
  · exact absurd h Except.throw_bind_ne_ok
  cases data with
  | none => exact absurd h Except.throw_ne_ok
  | some data =>
    obtain ⟨accessToken, sub⟩ := data
    cases accessToken
    · exact absurd h Except.throw_ne_ok
    · cases h
      exact ⟨did, handle, ⟨_, sub⟩, rfl, rfl, rfl, rfl⟩

theorem BlueskyProvider.completeAuth_sub (tempState : OAuthTempState) (token : TokenResponse)
    (displayName : Option (List Char)) (now : Nat) (sub : List Char) :
    BlueskyProvider.completeAuth tempState
        ⟨token.isSuccess, token.text, token.data.map fun data => ⟨data.accessToken, sub⟩⟩
        displayName now =
      BlueskyProvider.completeAuth tempState token displayName now := by
  obtain ⟨isSuccess, text, data⟩ := token
  cases data <;> rfl

/-! ### Logins and accounts -/

/-- One login, with what its identity provider answered. -/
inductive Login
  | plain (username password : List Char)
  | gitHub (user : GitHubUser)
  | google (user : OidcUserInfo)
  | linkedIn (user : OidcUserInfo)
  | bluesky (handle : List Char) (token : TokenResponse) (displayName : Option (List Char))
  deriving DecidableEq, Repr

/-- An account at an identity provider. -/
inductive Account
  | plainLogin (username : List Char)
  | gitHub (id : Nat)
  | google (sub : List Char)
  | linkedIn (sub : List Char)
  | bluesky (did : List Char)
  deriving DecidableEq, Repr

/-- The account a login's identity provider authenticated. -/
def Login.account : Login → Option Account
  | .plain username _ => some (.plainLogin username)
  | .gitHub user => some (.gitHub user.id)
  | .google user => some (.google user.sub)
  | .linkedIn user => some (.linkedIn user.sub)
  | .bluesky _ token _ => token.data.map fun data => .bluesky data.sub

def Login.isBluesky : Login → Bool
  | .bluesky .. => true
  | _ => false

/-- The `user_id` a session of the account carries. -/
def Account.userId : Account → List Char
  | .plainLogin username => "local:".toList ++ username
  | .gitHub id => "github:".toList ++ Nat.toDigits 10 id
  | .google sub => "google:".toList ++ sub
  | .linkedIn sub => "linkedin:".toList ++ sub
  | .bluesky did => did

/-- What the providers read besides the login: the configuration, the password check, Bluesky's
network and secrets, and the clock. -/
structure LoginContext where
  config : AuthConfig
  bcryptVerify : List Char → List Char → Except (List Char) Bool
  network : BlueskyNetwork
  secrets : BlueskySecrets
  now : Nat

/-- The session a login ends with: the login handler, then the callback. -/
def LoginContext.completeLogin (ctx : LoginContext) : Login → Except AuthError SessionData
  | .plain username password =>
    requireProvider ctx.config.plainLogin.enabled "Plain login".toList fun _ =>
      PlainLoginProvider.authenticate ctx.bcryptVerify (PlainLoginProvider.users ctx.config.plainLogin)
        username password ctx.now
  | .gitHub user =>
    requireProvider ctx.config.oauth.enableGithub "GitHub".toList fun _ =>
      .ok (GitHubProvider.completeAuth user ctx.now)
  | .google user =>
    requireProvider ctx.config.oauth.enableGoogle "Google".toList fun _ =>
      .ok (GoogleProvider.completeAuth user ctx.now)
  | .linkedIn user =>
    requireProvider ctx.config.oauth.enableLinkedin "LinkedIn".toList fun _ =>
      .ok (LinkedInProvider.completeAuth user ctx.now)
  | .bluesky handle token displayName => do
    let tempState ← requireProvider ctx.config.oauth.enableBluesky "Bluesky".toList fun _ =>
      BlueskyProvider.startAuth ctx.network ctx.secrets handle ctx.now
    requireProvider ctx.config.oauth.enableBluesky "Bluesky".toList fun _ =>
      BlueskyProvider.completeAuth tempState token displayName ctx.now

/-- The handle each login puts in the session. -/
def Login.handle : Login → List Char
  | .plain username _ => username
  | .gitHub user => user.login
  | .google user | .linkedIn user => user.email.getD user.sub
  | .bluesky handle _ _ => handle

def Account.isBluesky : Account → Bool
  | .bluesky _ => true
  | _ => false

/-! ### What a login gives -/

theorem toDigits_injective {a b : Nat} (h : Nat.toDigits 10 a = Nat.toDigits 10 b) : a = b := by
  have hvalue := congrArg digitsValue h
  rwa [digitsValue_toDigits, digitsValue_toDigits] at hvalue

/-- The four prefixes `local:`, `github:`, `google:` and `linkedin:` keep the accounts of the
other providers apart. -/
theorem Account.userId_injective {a b : Account} (ha : a.isBluesky = false)
    (hb : b.isBluesky = false) (h : a.userId = b.userId) : a = b := by
  -- `dsimp`: the equation lemmas of `Account.userId` are slow to generate
  cases a <;> cases b <;> simp only [Account.isBluesky, Bool.true_eq_false] at ha hb <;>
    dsimp only [Account.userId] at h
  case gitHub.gitHub a b => rw [toDigits_injective (List.append_cancel_left h)]
  -- one prefix and equal ids, or two prefixes that differ in a character
  all_goals first
    | (simp at h; done)
    | rw [List.append_cancel_left h]

theorem Account.userId_not_did {a : Account} (ha : a.isBluesky = false) :
    "did:".toList.isPrefixOf a.userId = false := by
  cases a <;> simp only [Account.isBluesky, Bool.true_eq_false] at ha <;> rfl

theorem LoginContext.completeLogin_bluesky_eq_ok {ctx : LoginContext} {handle : List Char}
    {token : TokenResponse} {displayName : Option (List Char)} {session : SessionData}
    (h : ctx.completeLogin (.bluesky handle token displayName) = .ok session) :
    ∃ did data, BlueskyProvider.resolveHandleToDid ctx.network handle = .ok did ∧
      token.data = some data ∧ session = ⟨.bluesky, did, handle, displayName, [], ctx.now⟩ := by
  obtain ⟨tempState, hstart, hcomplete⟩ := Except.bind_eq_ok h
  obtain ⟨-, hstart⟩ := requireProvider_eq_ok hstart
  obtain ⟨-, hcomplete⟩ := requireProvider_eq_ok hcomplete
  obtain ⟨did, hdid, hhandle, huserDid⟩ := BlueskyProvider.startAuth_eq_ok hstart
  obtain ⟨did', handle', data, huserDid', hhandle', hdata, rfl⟩ :=
    BlueskyProvider.completeAuth_eq_ok hcomplete
  have hsameDid : did' = did := Option.some.inj (huserDid'.symm.trans huserDid)
  have hsameHandle : handle' = handle := Option.some.inj (hhandle'.symm.trans hhandle)
  subst hsameDid hsameHandle
  exact ⟨did', data, hdid, hdata, rfl⟩

/-- Every login that ends with a session authenticated an account; the session's handle is the
login's, and its `user_id` that account's unless the login is Bluesky's. -/
theorem LoginContext.completeLogin_eq_ok {ctx : LoginContext} {login : Login}
    {session : SessionData} (h : ctx.completeLogin login = .ok session) :
    session.handle = login.handle ∧ ∃ account, login.account = some account ∧
      (login.isBluesky = false → session.userId = account.userId) := by
  cases login with
  | plain username password =>
    dsimp only [LoginContext.completeLogin] at h
    obtain ⟨-, h⟩ := requireProvider_eq_ok h
    obtain ⟨-, huserId, hhandle⟩ := PlainLoginProvider.authenticate_eq_ok h
    exact ⟨hhandle, _, rfl, fun _ => huserId⟩
  | gitHub user | google user | linkedIn user =>
    dsimp only [LoginContext.completeLogin] at h
    obtain ⟨-, h⟩ := requireProvider_eq_ok h
    cases h
    exact ⟨rfl, _, rfl, fun _ => rfl⟩
  | bluesky handle token displayName =>
    obtain ⟨did, data, -, hdata, rfl⟩ := LoginContext.completeLogin_bluesky_eq_ok h
    refine ⟨rfl, .bluesky data.sub, ?_, fun hbluesky => by cases hbluesky⟩
    simp only [Login.account, hdata, Option.map_some]

theorem Login.account_isBluesky {login : Login} {account : Account}
    (hlogin : login.isBluesky = false) (h : login.account = some account) :
    account.isBluesky = false := by
  cases login <;> simp only [Login.isBluesky, Bool.true_eq_false] at hlogin <;>
    simp only [Login.account, Option.some.injEq] at h <;> subst h <;> rfl

/-- Bluesky and GitHub on, and the plain login with the user `alice`; the handles
`@victim.example` and `alice` are allowed. -/
def victimConfig : AuthConfig where
  enableAuth := true
  oauth := ⟨true, true, false, false⟩
  plainLogin := ⟨true, [⟨"alice".toList, "pw".toList, none⟩]⟩
  session := ⟨"session".toList, 3600, true⟩
  allowedUsers := ["@victim.example".toList, "alice".toList]
  magicKeys := MagicKeyConfig.default

/-- `@victim.example` resolves, by its TXT record, to `did:plc:victim`. -/
def victimNetwork : BlueskyNetwork where
  txtLookup domain :=
    if domain = "_atproto.victim.example.".toList then some ["did=did:plc:victim".toList] else none
  wellKnownDid _ := .error .networkError
  endpoints _ := .ok ⟨"https://as.example/authorize".toList, "https://as.example/token".toList,
    "https://pds.example".toList⟩

def victimContext : LoginContext :=
  ⟨victimConfig, fun _ _ => .ok false, victimNetwork, ⟨"v".toList, "k".toList⟩, 1700000000⟩

/-- A token response of the authorization server after `did` signed in. -/
def signedInAs (did : List Char) : TokenResponse :=
  ⟨true, [], some ⟨some "token".toList, did⟩⟩

/-- Who types `@victim.example` and signs in as `did:plc:attacker` gets the victim's session,
which `is_user_allowed` admits; and GitHub's `alice` and the plain `alice`, two accounts, share one
handle. -/
theorem bluesky_login_ignores_token_subject :
    let victim := Login.bluesky "@victim.example".toList (signedInAs "did:plc:victim".toList) none
    let attacker :=
      Login.bluesky "@victim.example".toList (signedInAs "did:plc:attacker".toList) none
    let gitHubAlice := Login.gitHub ⟨"alice".toList, none, none, 7⟩
    let plainAlice := Login.plain "alice".toList "pw".toList
    victimContext.completeLogin attacker = victimContext.completeLogin victim ∧
    victimContext.completeLogin victim =
      .ok ⟨.bluesky, "did:plc:victim".toList, "@victim.example".toList, none, [], 1700000000⟩ ∧
    attacker.account ≠ victim.account ∧
    victimConfig.isUserAllowed "@victim.example".toList = true ∧
    (victimContext.completeLogin gitHubAlice).toOption.map SessionData.handle = some "alice".toList ∧
    (victimContext.completeLogin plainAlice).toOption.map SessionData.handle = some "alice".toList ∧
    gitHubAlice.account ≠ plainAlice.account ∧
    victimConfig.isUserAllowed "alice".toList = true := by
  decide

/-- Who a handle grants to. A session's handle is what the login named: a GitHub login, an email
or else a `sub`, a configured username, or for Bluesky the handle typed into the form, so equal
handles come from logins of any provider. The `user_id` does tell accounts apart over the plain,
GitHub, Google and LinkedIn logins. A Bluesky session holds the DID the typed handle resolves to,
which no other provider's `user_id` equals, whatever account the authorization server signed in:
the session is the same for every `sub` of the token response. At `victimContext` an attacker who
types `@victim.example` is admitted with the victim's session. -/
theorem login_identity (ctx : LoginContext) :
    (∀ login session, ctx.completeLogin login = .ok session → session.handle = login.handle) ∧
    (∀ l₁ l₂ s₁ s₂, l₁.isBluesky = false → l₂.isBluesky = false →
      ctx.completeLogin l₁ = .ok s₁ → ctx.completeLogin l₂ = .ok s₂ →
      (s₁.userId = s₂.userId ↔ l₁.account = l₂.account)) ∧
    (∀ handle token displayName session,
      ctx.completeLogin (.bluesky handle token displayName) = .ok session →
      session.handle = handle ∧ ∃ did, BlueskyProvider.resolveHandleToDid ctx.network handle = .ok did ∧
        session.userId = did ∧
        ∀ login s, login.isBluesky = false → ctx.completeLogin login = .ok s → s.userId ≠ did) ∧
    (∀ handle token displayName sub,
      ctx.completeLogin (.bluesky handle
          ⟨token.isSuccess, token.text, token.data.map fun data => ⟨data.accessToken, sub⟩⟩
          displayName) =
        ctx.completeLogin (.bluesky handle token displayName)) ∧
    (let victim := Login.bluesky "@victim.example".toList (signedInAs "did:plc:victim".toList) none
     let attacker :=
       Login.bluesky "@victim.example".toList (signedInAs "did:plc:attacker".toList) none
     let gitHubAlice := Login.gitHub ⟨"alice".toList, none, none, 7⟩
     let plainAlice := Login.plain "alice".toList "pw".toList
     victimContext.completeLogin attacker = victimContext.completeLogin victim ∧
     victimContext.completeLogin victim =
       .ok ⟨.bluesky, "did:plc:victim".toList, "@victim.example".toList, none, [], 1700000000⟩ ∧
     attacker.account ≠ victim.account ∧
     victimConfig.isUserAllowed "@victim.example".toList = true ∧
     (victimContext.completeLogin gitHubAlice).toOption.map SessionData.handle = some "alice".toList ∧
     (victimContext.completeLogin plainAlice).toOption.map SessionData.handle = some "alice".toList ∧
     gitHubAlice.account ≠ plainAlice.account ∧
     victimConfig.isUserAllowed "alice".toList = true) := by
  refine ⟨fun login session h => (LoginContext.completeLogin_eq_ok h).1, ?_, ?_, ?_,
    bluesky_login_ignores_token_subject⟩
  · intro l₁ l₂ s₁ s₂ hl₁ hl₂ h₁ h₂
    obtain ⟨-, a₁, ha₁, hid₁⟩ := LoginContext.completeLogin_eq_ok h₁
    obtain ⟨-, a₂, ha₂, hid₂⟩ := LoginContext.completeLogin_eq_ok h₂
    rw [hid₁ hl₁, hid₂ hl₂, ha₁, ha₂, Option.some.injEq]
    constructor
    · exact Account.userId_injective (Login.account_isBluesky hl₁ ha₁)
        (Login.account_isBluesky hl₂ ha₂)
    · rintro rfl
      rfl
  · intro handle token displayName session h
    obtain ⟨did, data, hdid, -, rfl⟩ := LoginContext.completeLogin_bluesky_eq_ok h
    refine ⟨rfl, did, hdid, rfl, ?_⟩
    intro login s hlogin hs hsame
    obtain ⟨-, a, ha, hid⟩ := LoginContext.completeLogin_eq_ok hs
    -- a DID starts with `did:`, the other providers' ids do not
    have hprefix := BlueskyProvider.resolveHandleToDid_isPrefixOf hdid
    rw [← hsame, hid hlogin, Account.userId_not_did (Login.account_isBluesky hlogin ha)] at hprefix
    cases hprefix
  · intro handle token displayName sub
    simp only [LoginContext.completeLogin, BlueskyProvider.completeAuth_sub]

end Netpoke
