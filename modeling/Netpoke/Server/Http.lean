import Netpoke.Auth.Config
import Netpoke.Server.SurveySession
import Netpoke.Library.Except

/-!
# Status codes and the authentication middlewares

The two middlewares the router puts in front of its route groups when authentication is on
and some provider is enabled: `require_auth` (`auth/src/middleware.rs`) and
`require_auth_or_survey_session` (`server/src/survey_middleware.rs`). Both read the session
cookie of the private jar, decrypted and parsed by `extract_session_from_jar`, which is the
`cookie` argument here; `from_request_parts` of a `PrivateCookieJar` cannot fail, so its error
branches are left out. `now` is the Unix time both read through `SystemTime::now`.

Only `require_auth` hands an identity on: it inserts the `SessionData` it validated, and a
request it lets through with authentication on always carries one
(`requireAuth_next_of_enabled`). `require_auth_or_survey_session` inserts nothing, whichever of
the two cookies let the request through.
-/

namespace Netpoke

/-- The `StatusCode`s of the modelled handlers. -/
inductive StatusCode
  | ok
  | partialContent
  | badRequest
  | forbidden
  | notFound
  | internalServerError
  | serviceUnavailable
  deriving DecidableEq, Repr

/-- What a middleware does with a request. -/
inductive MiddlewareOutcome
  /-- `next.run(request)`, with the `SessionData` extension when one was inserted -/
  | next (sessionData : Option SessionData)
  /-- `Redirect::to(location)` -/
  | redirect (location : List Char)
  /-- `403` with the access-denied page for the handle -/
  | accessDenied (handle : List Char)
  /-- the task panicked: `is_expired` subtracted a later `created_at` from `now` in `u64` -/
  | panicked
  deriving DecidableEq, Repr

def requireAuth (config : AuthConfig) (cookie : Option SessionData) (now : Nat) :
    MiddlewareOutcome :=
  if !config.isEnabled then .next none
  else
    match cookie with
    | none => .redirect "/auth/login".toList
    | some session =>
      match config.validateSession session now with
      | none => .panicked
      | some false => .redirect "/auth/login".toList
      | some true =>
        if !config.isUserAllowed session.handle then .accessDenied session.handle
        else .next (some session)

/-- The regular-session half of `require_auth_or_survey_session`: `regular_auth_valid`, or
`none` when the expiry check panics. -/
def regularAuthValid (config : AuthConfig) (cookie : Option SessionData) (now : Nat) :
    Option Bool :=
  match cookie with
  | none => some false
  | some session =>
    (config.validateSession session now).map fun valid =>
      valid && config.isUserAllowed session.handle

/-- `require_auth_or_survey_session`. `cookieHeaders` are the values of the `Cookie` headers
in order. -/
def requireAuthOrSurveySession (config : AuthConfig) (cookie : Option SessionData)
    (cookieHeaders : List (List Char)) (now : Nat) : MiddlewareOutcome :=
  if !config.isEnabled then .next none
  else
    match regularAuthValid config cookie now with
    | none => .panicked
    | some regular =>
      let magicKeyValid :=
        if config.magicKeys.enabled && !regular then
          match extractSessionId (collectAllCookies cookieHeaders)
              config.magicKeys.surveyCookieName with
          | some surveySessionId => validateSurveySession surveySessionId config.magicKeys now
          | none => false
        else false
      if regular || magicKeyValid then .next none else .redirect "/".toList

/-- With authentication on, `require_auth` lets a request through only with the session it
validated, whose handle is allowed. -/
theorem requireAuth_next_of_enabled {config : AuthConfig} {cookie : Option SessionData}
    {now : Nat} {sessionData : Option SessionData} (henabled : config.isEnabled = true)
    (h : requireAuth config cookie now = .next sessionData) :
    ∃ session, sessionData = some session ∧ cookie = some session ∧
      config.validateSession session now = some true ∧
      config.isUserAllowed session.handle = true := by
  simp only [requireAuth, henabled, Bool.not_true, Bool.false_eq_true, if_false] at h
  cases cookie with
  | none => cases h
  | some session =>
    simp only at h
    cases hvalid : config.validateSession session now with
    | none => simp [hvalid] at h
    | some valid =>
      cases valid with
      | false => simp [hvalid] at h
      | true =>
        cases hallowed : config.isUserAllowed session.handle with
        | false => simp [hvalid, hallowed] at h
        | true =>
          simp only [hvalid, hallowed, Bool.not_true, Bool.false_eq_true, if_false,
            MiddlewareOutcome.next.injEq] at h
          exact ⟨session, h.symm, rfl, hvalid, hallowed⟩

/-- With authentication on, `require_auth_or_survey_session` lets a request through only with a
valid regular session of an allowed user or, with magic keys on, a valid survey cookie. -/
theorem requireAuthOrSurveySession_admits {config : AuthConfig} {cookie : Option SessionData}
    {cookieHeaders : List (List Char)} {now : Nat} {sessionData : Option SessionData}
    (henabled : config.isEnabled = true)
    (h : requireAuthOrSurveySession config cookie cookieHeaders now = .next sessionData) :
    regularAuthValid config cookie now = some true ∨
      (config.magicKeys.enabled = true ∧ ∃ surveySessionId,
        extractSessionId (collectAllCookies cookieHeaders) config.magicKeys.surveyCookieName =
          some surveySessionId ∧
        validateSurveySession surveySessionId config.magicKeys now = true) := by
  simp only [requireAuthOrSurveySession, henabled, Bool.not_true, Bool.false_eq_true,
    if_false] at h
  cases hregular : regularAuthValid config cookie now with
  | none => simp [hregular] at h
  | some regular =>
    cases regular with
    | true => exact .inl rfl
    | false =>
      right
      simp only [hregular, Bool.not_false, Bool.and_true, Bool.false_or] at h
      cases hkeys : config.magicKeys.enabled with
      | false => simp [hkeys] at h
      | true =>
        refine ⟨rfl, ?_⟩
        cases hid : extractSessionId (collectAllCookies cookieHeaders)
            config.magicKeys.surveyCookieName with
        | none => simp [hkeys, hid] at h
        | some surveySessionId =>
          refine ⟨surveySessionId, rfl, ?_⟩
          cases hvalid : validateSurveySession surveySessionId config.magicKeys now with
          | false => simp [hkeys, hid, hvalid] at h
          | true => rfl

end Netpoke
