import Mathlib

/-!
# Authentication configuration and session records

The configuration the `netpoke_auth` crate reads (`auth/src/config.rs`), the session record it
stores in the private cookie and the temporary OAuth state (`auth/src/session.rs`), and the
checks `AuthService` makes with them (`auth/src/service.rs`). Rust strings are lists of
characters and `u64` values are natural numbers; a `HashMap` is an association list read with
`List.lookup`. Time is the Unix time in seconds that `SystemTime::now` gives.
-/

namespace Netpoke

/-- `MagicKeyConfig`: the magic keys and the survey cookie settings. -/
structure MagicKeyConfig where
  enabled : Bool
  magicKeys : List (List Char)
  surveyCookieName : List Char
  surveyTimeoutSeconds : Nat
  maxMeasuringTimeSeconds : Nat
  magicKeyMaxMeasuringTime : List (List Char × Nat)
  deriving Repr, DecidableEq

def MagicKeyConfig.default : MagicKeyConfig where
  enabled := false
  magicKeys := []
  surveyCookieName := "survey_session_id".toList
  surveyTimeoutSeconds := 28800
  maxMeasuringTimeSeconds := 3600
  magicKeyMaxMeasuringTime := []

/-- `MagicKeyConfig::get_max_measuring_time_seconds`: the per-key override, else 120 for
`DEMO`, else the global default. -/
def MagicKeyConfig.getMaxMeasuringTimeSeconds (config : MagicKeyConfig) (magicKey : List Char) :
    Nat :=
  match config.magicKeyMaxMeasuringTime.lookup magicKey with
  | some overrideSeconds => overrideSeconds
  | none => if magicKey = "DEMO".toList then 120 else config.maxMeasuringTimeSeconds

/-- `SessionConfig` (the cookie secret only seeds the cookie key and is left out). -/
structure SessionConfig where
  cookieName : List Char
  timeoutSeconds : Nat
  secure : Bool
  deriving Repr, DecidableEq

/-- `UserCredentials` of the plain login. -/
structure UserCredentials where
  username : List Char
  password : List Char
  displayName : Option (List Char)
  deriving Repr, DecidableEq

structure PlainLoginConfig where
  enabled : Bool
  users : List UserCredentials
  deriving Repr, DecidableEq

/-- The provider switches of `OAuthConfig`; the client ids and secrets only configure the
HTTP exchanges, which the provider models take as inputs. -/
structure OAuthConfig where
  enableBluesky : Bool
  enableGithub : Bool
  enableGoogle : Bool
  enableLinkedin : Bool
  deriving Repr, DecidableEq

structure AuthConfig where
  enableAuth : Bool
  oauth : OAuthConfig
  plainLogin : PlainLoginConfig
  session : SessionConfig
  allowedUsers : List (List Char)
  magicKeys : MagicKeyConfig
  deriving Repr, DecidableEq

def AuthConfig.isEnabled (config : AuthConfig) : Bool :=
  config.enableAuth

def AuthConfig.hasEnabledProviders (config : AuthConfig) : Bool :=
  config.oauth.enableBluesky || config.oauth.enableGithub || config.oauth.enableGoogle ||
    config.oauth.enableLinkedin || config.plainLogin.enabled

/-- `AuthService::is_user_allowed`: every handle when `allowed_users` is empty, else the
handles in the list. -/
def AuthConfig.isUserAllowed (config : AuthConfig) (userHandle : List Char) : Bool :=
  if config.allowedUsers.isEmpty then true
  else config.allowedUsers.any fun allowed => allowed == userHandle

/-! ### Sessions -/

inductive AuthProvider
  | bluesky
  | gitHub
  | google
  | linkedIn
  | plainLogin
  deriving Repr, DecidableEq

/-- `SessionData`, the record serialised into the private session cookie. -/
structure SessionData where
  authProvider : AuthProvider
  userId : List Char
  handle : List Char
  displayName : Option (List Char)
  groups : List (List Char)
  createdAt : Nat
  deriving Repr, DecidableEq

/-- `SessionData::is_expired`: `now - created_at > timeout_seconds` in `u64`. The subtraction
panics under the release profile's overflow checks when `created_at` is later than `now`;
that panic is `none`. -/
def SessionData.isExpired (session : SessionData) (timeoutSeconds now : Nat) : Option Bool :=
  if session.createdAt ≤ now then some (decide (now - session.createdAt > timeoutSeconds))
  else none

/-- `AuthService::validate_session`: `some true` when the session has not expired. -/
def AuthConfig.validateSession (config : AuthConfig) (session : SessionData) (now : Nat) :
    Option Bool :=
  (session.isExpired config.session.timeoutSeconds now).map (!·)

/-- `OAuthEndpoints`, found by Bluesky's discovery. -/
structure OAuthEndpoints where
  authUrl : List Char
  tokenUrl : List Char
  serviceEndpoint : List Char
  deriving Repr, DecidableEq

/-- `OAuthTempState`, kept in server memory between `start_auth` and `complete_auth`. -/
structure OAuthTempState where
  authProvider : AuthProvider
  handle : Option (List Char)
  userDid : Option (List Char)
  pkceVerifier : Option (List Char)
  oauthEndpoints : Option OAuthEndpoints
  dpopPrivateKey : Option (List Char)
  createdAt : Nat
  deriving Repr, DecidableEq

end Netpoke
