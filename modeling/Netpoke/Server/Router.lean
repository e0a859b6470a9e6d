import Netpoke.Server.Http
import Netpoke.Server.Diagnostics

/-!
# Route groups and the diagnostics endpoints

`get_make_service` (`main.rs`) puts each group of routes behind one middleware when
authentication is on and some provider is enabled, and behind none otherwise. The capture,
tracing and keylog endpoints (`capture_api.rs`, `tracing_api.rs`, `dtls_keylog_api.rs`) sit in
two kinds of group: the global downloads behind `require_auth`, everything else, the clear
endpoints included, behind `require_auth_or_survey_session`.

The session downloads read the survey session id from the query string and hand back what the
stores hold under it, whoever asks: the middleware passes no identity to the handlers.

A handler's response is its status with the JSON message, or the file it serves with its
content type and the file name of its `Content-Disposition: attachment` header; `now` is the
Unix time in seconds that `Utc::now` gives for the name. The short session id in a name is the
slice `&id[..8]`, which panics when byte 8 falls inside a character.
-/

namespace Netpoke

open CharList CivilDate

/-- The groups of routes `get_make_service` merges. -/
inductive RouteGroup
  | auth
  | publicApi
  | clientConfig
  | publicPages
  | nettest
  | signaling
  | captureSession
  | captureGlobal
  | tracingSession
  | tracingGlobal
  | keylog
  | dashboard
  | protectedStatic
  | upload
  | adminSurveys
  | analyst
  deriving DecidableEq, Repr

/-- The middleware a group is layered with. -/
inductive RouteLayer
  | unlayered
  | requireAuth
  | requireAuthOrSurveySession
  deriving DecidableEq, Repr

/-- The layer of each group when authentication is on and a provider is enabled. -/
def RouteGroup.authLayer : RouteGroup → RouteLayer
  | .auth | .publicApi | .clientConfig | .publicPages => .unlayered
  | .nettest | .signaling | .captureSession | .tracingSession | .keylog | .upload =>
    .requireAuthOrSurveySession
  | .captureGlobal | .tracingGlobal | .dashboard | .protectedStatic | .adminSurveys | .analyst =>
    .requireAuth

/-- The middleware in front of a group: layers only with an `AuthState` that is enabled and has
an enabled provider. -/
def routeMiddleware (authState : Option AuthConfig) (group : RouteGroup)
    (cookie : Option SessionData) (cookieHeaders : List (List Char)) (now : Nat) :
    MiddlewareOutcome :=
  match authState with
  | none => .next none
  | some config =>
    if config.isEnabled && config.hasEnabledProviders then
      match group.authLayer with
      | .unlayered => .next none
      | .requireAuth => requireAuth config cookie now
      | .requireAuthOrSurveySession => requireAuthOrSurveySession config cookie cookieHeaders now
    else .next none

/-- The capture, tracing and keylog endpoints; a session download carries the
`survey_session_id` of its query string, `none` when the query has none. -/
inductive DiagnosticsRoute
  | downloadPcapForSession (surveySessionId : Option (List Char))
  | captureStats
  | clearCapture
  | downloadPcap
  | tracingStats
  | clearTracing
  | downloadTracingBuffer
  | downloadKeylogForSession (surveySessionId : Option (List Char))
  | keylogStats
  | clearKeylog
  deriving DecidableEq, Repr

/-- The group each endpoint is registered in. -/
def DiagnosticsRoute.group : DiagnosticsRoute → RouteGroup
  | .downloadPcapForSession _ | .captureStats | .clearCapture => .captureSession
  | .downloadPcap => .captureGlobal
  | .tracingStats | .clearTracing => .tracingSession
  | .downloadTracingBuffer => .tracingGlobal
  | .downloadKeylogForSession _ | .keylogStats | .clearKeylog => .keylog

/-- What a request to a diagnostics endpoint gets. -/
inductive DiagnosticsResponse
  /-- the status with `{"error": message}` -/
  | error (status : StatusCode) (message : List Char)
  /-- `200` with `{"message": message}` -/
  | message (message : List Char)
  /-- `200` with a file of bytes -/
  | file (contentType filename : List Char) (body : List UInt8)
  /-- `200` with a text file -/
  | text (contentType filename : List Char) (body : List Char)
  | captureStats (enabled : Bool) (stats : Option CaptureStats)
  | keylogStats (enabled : Bool) (stats : Option KeylogStats)
  | tracingStats (stats : TracingStats)
  /-- the `Query` extractor's `400` for a query without `survey_session_id` -/
  | queryRejected
  | panicked
  /-- stopped by the route's middleware -/
  | middleware (outcome : MiddlewareOutcome)
  deriving DecidableEq, Repr

/-- The stores the endpoints read. -/
structure DiagnosticsState where
  capture : PacketCaptureService
  tracing : TracingService
  keylog : DtlsKeylogService

/-- The first eight bytes of a longer session id, for file names. -/
def shortSessionId (surveySessionId : List Char) : Option (List Char) :=
  if utf8Len surveySessionId > 8 then sliceTo surveySessionId 8 else some surveySessionId

def downloadPcap (svc : PacketCaptureService) (now : Int) : DiagnosticsResponse :=
  if !svc.config.enabled then
    .error .serviceUnavailable "Packet capture is not enabled".toList
  else
    .file "application/vnd.tcpdump.pcap".toList ("capture_".toList ++ formatCompact now ++
      ".pcap".toList) svc.generatePcap

def downloadPcapForSession (svc : PacketCaptureService) (now : Int)
    (surveySessionId : List Char) : DiagnosticsResponse :=
  if !svc.config.enabled then
    .error .serviceUnavailable "Packet capture is not enabled".toList
  else if surveySessionId.isEmpty then
    .error .badRequest "survey_session_id parameter is required".toList
  else
    match shortSessionId surveySessionId with
    | none => .panicked
    | some short =>
      .file "application/vnd.tcpdump.pcap".toList ("capture_".toList ++ short ++ '_' ::
        formatCompact now ++ ".pcap".toList) (svc.generatePcapForSession surveySessionId)

def captureStats (svc : PacketCaptureService) : DiagnosticsResponse :=
  .captureStats svc.config.enabled (if svc.config.enabled then some svc.buffer.stats else none)

def clearCapture (svc : PacketCaptureService) : PacketCaptureService × DiagnosticsResponse :=
  if !svc.config.enabled then
    (svc, .error .serviceUnavailable "Packet capture is not enabled".toList)
  else (svc.clear, .message "Capture buffer cleared".toList)

def downloadTracingBuffer (svc : TracingService) (now : Int) : DiagnosticsResponse :=
  if !svc.buffer.enabled then
    .error .serviceUnavailable "Tracing buffer is not enabled".toList
  else
    .text "text/plain; charset=utf-8".toList ("tracing_".toList ++ formatCompact now ++
      ".log".toList) svc.buffer.exportAsText

def tracingStats (svc : TracingService) : DiagnosticsResponse :=
  .tracingStats svc.stats

def clearTracing (svc : TracingService) : TracingService × DiagnosticsResponse :=
  if !svc.buffer.enabled then
    (svc, .error .serviceUnavailable "Tracing buffer is not enabled".toList)
  else (svc.clear, .message "Tracing buffer cleared".toList)

def downloadKeylogForSession (svc : DtlsKeylogService) (now : Int)
    (surveySessionId : List Char) : DiagnosticsResponse :=
  if !svc.config.enabled then
    .error .serviceUnavailable "DTLS keylog storage is not enabled".toList
  else if surveySessionId.isEmpty then
    .error .badRequest "survey_session_id parameter is required".toList
  else
    let keylogContent := svc.generateKeylogFile surveySessionId
    if keylogContent.isEmpty then
      .error .notFound "No DTLS keys found for this session".toList
    else
      match shortSessionId surveySessionId with
      | none => .panicked
      | some short =>
        .text "text/plain; charset=utf-8".toList ("dtls_keys_".toList ++ short ++ '_' ::
          formatCompact now ++ ".log".toList) keylogContent

def keylogStats (svc : DtlsKeylogService) : DiagnosticsResponse :=
  .keylogStats svc.config.enabled (if svc.config.enabled then some svc.stats else none)

def clearKeylog (svc : DtlsKeylogService) : DtlsKeylogService × DiagnosticsResponse :=
  if !svc.config.enabled then
    (svc, .error .serviceUnavailable "DTLS keylog storage is not enabled".toList)
  else (svc.clear, .message "DTLS keylog storage cleared".toList)

def handleDiagnostics (now : Int) (s : DiagnosticsState) :
    DiagnosticsRoute → DiagnosticsState × DiagnosticsResponse
  | .downloadPcapForSession none | .downloadKeylogForSession none => (s, .queryRejected)
  | .downloadPcapForSession (some surveySessionId) =>
    (s, downloadPcapForSession s.capture now surveySessionId)
  | .captureStats => (s, captureStats s.capture)
  | .clearCapture =>
    let result := clearCapture s.capture
    ({ s with capture := result.1 }, result.2)
  | .downloadPcap => (s, downloadPcap s.capture now)
  | .tracingStats => (s, tracingStats s.tracing)
  | .clearTracing =>
    let result := clearTracing s.tracing
    ({ s with tracing := result.1 }, result.2)
  | .downloadTracingBuffer => (s, downloadTracingBuffer s.tracing now)
  | .downloadKeylogForSession (some surveySessionId) =>
    (s, downloadKeylogForSession s.keylog now surveySessionId)
  | .keylogStats => (s, keylogStats s.keylog)
  | .clearKeylog =>
    let result := clearKeylog s.keylog
    ({ s with keylog := result.1 }, result.2)

/-- A request to a diagnostics endpoint through its route's middleware. -/
def serveDiagnostics (authState : Option AuthConfig) (cookie : Option SessionData)
    (cookieHeaders : List (List Char)) (now : Nat) (s : DiagnosticsState)
    (route : DiagnosticsRoute) : DiagnosticsState × DiagnosticsResponse :=
  match routeMiddleware authState route.group cookie cookieHeaders now with
  | .next _ => handleDiagnostics now s route
  | outcome => (s, .middleware outcome)

/-! ### What the layers let through -/

section Middleware

variable {config : AuthConfig} {group : RouteGroup} {cookie : Option SessionData}
  {cookieHeaders : List (List Char)} {now : Nat} {sessionData : Option SessionData}

/-- Behind `require_auth`, a request reaches the handler only with a validated session of an
allowed user. -/
theorem routeMiddleware_next_requireAuth
    (hon : (config.isEnabled && config.hasEnabledProviders) = true)
    (hlayer : group.authLayer = .requireAuth)
    (h : routeMiddleware (some config) group cookie cookieHeaders now = .next sessionData) :
    ∃ session, cookie = some session ∧ config.validateSession session now = some true ∧
      config.isUserAllowed session.handle = true := by
  simp only [routeMiddleware, hon, if_true, hlayer] at h
  obtain ⟨session, -, hcookie, hvalid, hallowed⟩ :=
    requireAuth_next_of_enabled (Bool.and_eq_true_iff.mp hon).1 h
  exact ⟨session, hcookie, hvalid, hallowed⟩

/-- Behind either layer, a request reaches the handler only with a valid regular session of an
allowed user or with a valid survey cookie. -/
theorem routeMiddleware_next_layered
    (hon : (config.isEnabled && config.hasEnabledProviders) = true)
    (hlayer : group.authLayer ≠ .unlayered)
    (h : routeMiddleware (some config) group cookie cookieHeaders now = .next sessionData) :
    regularAuthValid config cookie now = some true ∨
      (config.magicKeys.enabled = true ∧ ∃ surveySessionId,
        extractSessionId (collectAllCookies cookieHeaders) config.magicKeys.surveyCookieName =
          some surveySessionId ∧
        validateSurveySession surveySessionId config.magicKeys now = true) := by
  have henabled : config.isEnabled = true := (Bool.and_eq_true_iff.mp hon).1
  cases hgroup : group.authLayer with
  | unlayered => exact absurd hgroup hlayer
  | requireAuth =>
    left
    obtain ⟨session, rfl, hvalid, hallowed⟩ := routeMiddleware_next_requireAuth hon hgroup h
    simp [regularAuthValid, hvalid, hallowed]
  | requireAuthOrSurveySession =>
    simp only [routeMiddleware, hon, if_true, hgroup] at h
    exact requireAuthOrSurveySession_admits henabled h

end Middleware

/-! ### What the handlers hand back -/

theorem downloadKeylogForSession_text {svc : DtlsKeylogService} {now : Int}
    {surveySessionId contentType filename body : List Char}
    (h : downloadKeylogForSession svc now surveySessionId = .text contentType filename body) :
    body = svc.generateKeylogFile surveySessionId ∧ body ≠ [] := by
  unfold downloadKeylogForSession at h
  split at h
  · cases h
  · split at h
    · cases h
    · dsimp only at h
      split at h
      · cases h
      · rename_i hcontent
        split at h
        · cases h
        · cases h
          exact ⟨rfl, fun hnil => by simp [hnil] at hcontent⟩

theorem downloadPcapForSession_file {svc : PacketCaptureService} {now : Int}
    {surveySessionId contentType filename : List Char} {body : List UInt8}
    (h : downloadPcapForSession svc now surveySessionId = .file contentType filename body) :
    body = svc.generatePcapForSession surveySessionId := by
  unfold downloadPcapForSession at h
  split at h
  · cases h
  · split at h
    · cases h
    · split at h
      · cases h
      · cases h
        rfl

/-- The keylog file has one line for each entry stored under the session id. -/
theorem generateKeylogFile_of_ne_nil (svc : DtlsKeylogService) (surveySessionId : List Char)
    (h : svc.generateKeylogFile surveySessionId ≠ []) :
    svc.getKeylogs surveySessionId ≠ [] ∧ svc.generateKeylogFile surveySessionId =
      ['\n'].intercalate ((svc.getKeylogs surveySessionId).map DtlsKeylogEntry.toSslkeylogLine) ++
        ['\n'] := by
  unfold DtlsKeylogService.generateKeylogFile at h ⊢
  dsimp only at h ⊢
  by_cases hentries : (svc.getKeylogs surveySessionId).isEmpty = true
  · rw [if_pos hentries] at h
    exact absurd rfl h
  · rw [if_neg hentries]
    exact ⟨fun hnil => hentries (by simp [hnil]), rfl⟩

/-- Only the three clear endpoints change the stores. -/
theorem handleDiagnostics_state (now : Int) (s : DiagnosticsState) (route : DiagnosticsRoute)
    (h : route ≠ .clearCapture ∧ route ≠ .clearTracing ∧ route ≠ .clearKeylog) :
    (handleDiagnostics now s route).1 = s := by
  obtain ⟨hcapture, htracing, hkeylog⟩ := h
  cases route with
  | downloadPcapForSession surveySessionId => cases surveySessionId <;> rfl
  | downloadKeylogForSession surveySessionId => cases surveySessionId <;> rfl
  | clearCapture => exact absurd rfl hcapture
  | clearTracing => exact absurd rfl htracing
  | clearKeylog => exact absurd rfl hkeylog
  | _ => rfl

theorem serveDiagnostics_cases (authState : Option AuthConfig) (cookie : Option SessionData)
    (cookieHeaders : List (List Char)) (now : Nat) (s : DiagnosticsState)
    (route : DiagnosticsRoute) :
    (∃ sessionData, routeMiddleware authState route.group cookie cookieHeaders now =
        .next sessionData ∧
      serveDiagnostics authState cookie cookieHeaders now s route = handleDiagnostics now s route) ∨
      ∃ outcome, serveDiagnostics authState cookie cookieHeaders now s route =
        (s, .middleware outcome) := by
  unfold serveDiagnostics
  split
  · rename_i sessionData hnext
    exact .inl ⟨sessionData, hnext, rfl⟩
  · exact .inr ⟨_, rfl⟩

/-- With authentication on, a diagnostics request reaches its handler only with a valid regular
session or a valid survey cookie, and the global downloads only with a validated session of an
allowed user; the session downloads hand back exactly what the stores hold under the id in the
query; and only the clear endpoints change the stores. -/
theorem diagnostics_access (config : AuthConfig)
    (hon : (config.isEnabled && config.hasEnabledProviders) = true)
    (cookie : Option SessionData) (cookieHeaders : List (List Char)) (now : Nat)
    (s : DiagnosticsState) (route : DiagnosticsRoute) :
    (∀ sessionData, routeMiddleware (some config) route.group cookie cookieHeaders now =
        .next sessionData →
      (regularAuthValid config cookie now = some true ∨
        (config.magicKeys.enabled = true ∧ ∃ surveySessionId,
          extractSessionId (collectAllCookies cookieHeaders) config.magicKeys.surveyCookieName =
            some surveySessionId ∧
          validateSurveySession surveySessionId config.magicKeys now = true)) ∧
      ((route = .downloadPcap ∨ route = .downloadTracingBuffer) →
        ∃ session, cookie = some session ∧ config.validateSession session now = some true ∧
          config.isUserAllowed session.handle = true)) ∧
    (∀ surveySessionId contentType filename body,
      (serveDiagnostics (some config) cookie cookieHeaders now s
          (.downloadKeylogForSession (some surveySessionId))).2 =
        .text contentType filename body →
      s.keylog.getKeylogs surveySessionId ≠ [] ∧
        body = ['\n'].intercalate
          ((s.keylog.getKeylogs surveySessionId).map DtlsKeylogEntry.toSslkeylogLine) ++ ['\n']) ∧
    (∀ surveySessionId contentType filename body,
      (serveDiagnostics (some config) cookie cookieHeaders now s
          (.downloadPcapForSession (some surveySessionId))).2 =
        .file contentType filename body →
      body = packetsToPcap (s.capture.getPacketsForSession surveySessionId)
          s.capture.buffer.datalink (asU32 s.capture.config.snaplen) ∧
        ∀ p ∈ s.capture.getPacketsForSession surveySessionId,
          p.surveySessionId = some surveySessionId) ∧
    ((serveDiagnostics (some config) cookie cookieHeaders now s route).1 ≠ s →
      route = .clearCapture ∨ route = .clearTracing ∨ route = .clearKeylog) := by
  refine ⟨fun sessionData hnext => ⟨?_, ?_⟩, ?_, ?_, ?_⟩
  · apply routeMiddleware_next_layered hon _ hnext
    cases route <;> simp [DiagnosticsRoute.group, RouteGroup.authLayer]
  · rintro (rfl | rfl)
    · exact routeMiddleware_next_requireAuth hon rfl hnext
    · exact routeMiddleware_next_requireAuth hon rfl hnext
  · intro surveySessionId contentType filename body h
    rcases serveDiagnostics_cases (some config) cookie cookieHeaders now s
        (.downloadKeylogForSession (some surveySessionId)) with ⟨-, -, hserve⟩ | ⟨outcome, hserve⟩
    · rw [hserve] at h
      obtain ⟨rfl, hne⟩ := downloadKeylogForSession_text h
      exact generateKeylogFile_of_ne_nil s.keylog surveySessionId hne
    · rw [hserve] at h
      cases h
  · intro surveySessionId contentType filename body h
    rcases serveDiagnostics_cases (some config) cookie cookieHeaders now s
        (.downloadPcapForSession (some surveySessionId)) with ⟨-, -, hserve⟩ | ⟨outcome, hserve⟩
    · rw [hserve] at h
      refine ⟨downloadPcapForSession_file h, fun p hp => ?_⟩
      have htag := (List.mem_filter.mp hp).2
      simpa using htag
    · rw [hserve] at h
      cases h
  · intro hchanged
    by_contra hclear
    simp only [not_or] at hclear
    apply hchanged
    rcases serveDiagnostics_cases (some config) cookie cookieHeaders now s route with
      ⟨-, -, hserve⟩ | ⟨outcome, hserve⟩
    · rw [hserve]
      exact handleDiagnostics_state now s route hclear
    · rw [hserve]

/-- Authentication on with the plain login of one user `analyst`, and magic keys `K1` and `K2`. -/
def surveyAuthConfig : AuthConfig where
  enableAuth := true
  oauth := ⟨false, false, false, false⟩
  plainLogin := ⟨true, [⟨"analyst".toList, "pw".toList, none⟩]⟩
  session := ⟨"netpoke_session".toList, 86400, true⟩
  allowedUsers := []
  magicKeys :=
    { MagicKeyConfig.default with enabled := true, magicKeys := ["K1".toList, "K2".toList] }

/-- The stores after the DTLS handshake of a survey session of key `K2`. -/
def surveyDiagnostics : DiagnosticsState where
  capture := PacketCaptureService.new ⟨10, 65535, true⟩
  tracing := ⟨TracingBuffer.new 10 true⟩
  keylog := (DtlsKeylogService.new DtlsKeylogConfig.default).addKeylog
    "survey_K2_1700000000_b".toList [1] [2]

/-- A request with only the survey cookie of key `K1` downloads the DTLS keys of a survey session
of key `K2`, and clears the keylog store. -/
theorem survey_cookie_reads_other_survey_keys :
    regularAuthValid surveyAuthConfig none 1700000100 = some false ∧
      extractSessionId (collectAllCookies ["survey_session_id=survey_K1_1700000000_a".toList])
          surveyAuthConfig.magicKeys.surveyCookieName =
        some "survey_K1_1700000000_a".toList ∧
      extractMagicKeyFromSession "survey_K2_1700000000_b".toList = some "K2".toList ∧
      (serveDiagnostics (some surveyAuthConfig) none
          ["survey_session_id=survey_K1_1700000000_a".toList] 1700000100 surveyDiagnostics
          (.downloadKeylogForSession (some "survey_K2_1700000000_b".toList))).2 =
        .text "text/plain; charset=utf-8".toList "dtls_keys_survey_K_20231114_221500.log".toList
          "CLIENT_RANDOM 01 02\n".toList ∧
      (serveDiagnostics (some surveyAuthConfig) none
          ["survey_session_id=survey_K1_1700000000_a".toList] 1700000100 surveyDiagnostics
          .clearKeylog).2 = .message "DTLS keylog storage cleared".toList ∧
      ((serveDiagnostics (some surveyAuthConfig) none
          ["survey_session_id=survey_K1_1700000000_a".toList] 1700000100 surveyDiagnostics
          .clearKeylog).1.keylog.getKeylogs "survey_K2_1700000000_b".toList) = [] := by
  decide

theorem diagnostics_access_survey :
    (surveyAuthConfig.isEnabled && surveyAuthConfig.hasEnabledProviders) = true ∧
      ∀ contentType filename body,
        (serveDiagnostics (some surveyAuthConfig) none
            ["survey_session_id=survey_K1_1700000000_a".toList] 1700000100 surveyDiagnostics
            (.downloadKeylogForSession (some "survey_K2_1700000000_b".toList))).2 =
          .text contentType filename body →
        surveyDiagnostics.keylog.getKeylogs "survey_K2_1700000000_b".toList ≠ [] ∧
          body = ['\n'].intercalate ((surveyDiagnostics.keylog.getKeylogs
            "survey_K2_1700000000_b".toList).map DtlsKeylogEntry.toSslkeylogLine) ++ ['\n'] :=
  ⟨by decide, (diagnostics_access surveyAuthConfig (by decide) none
    ["survey_session_id=survey_K1_1700000000_a".toList] 1700000100 surveyDiagnostics
    .clearKeylog).2.1 "survey_K2_1700000000_b".toList⟩

end Netpoke
