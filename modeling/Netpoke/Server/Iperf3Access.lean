import Netpoke.Server.SurveySession
import Netpoke.Iperf3.Admission

/-!
# Who the iperf3 server admits

With `require_auth`, `server/src/main.rs` gives the iperf3 server a callback that asks the
authenticated address cache (`auth_cache.rs`), and three things write the cache. The handlers of
`/api/auth/magic-key` and `/api/auth/status`, `magic_key_auth_with_cache` and
`auth_status_with_cache` (`auth_handlers.rs`), record the client address of a request they
accept; those two routes exist only when authentication is enabled with a provider
(`get_make_service`). And a task spawned beside the cache records, once a second, the peer
address of every WebRTC session in `clients`, then drops expired entries.

Each writer is a list of calls on the cache (`CacheWriter.cacheCalls`, with
`apply_eq_cacheCalls` relating it to the handlers), so a run of writers is a run of cache calls,
and the law of the cache's runs (`isIpAllowed_cacheCallback_run_iff`) carries over. Over every
run of writers at nondecreasing instants, the iperf3 server admits a peer exactly when, less than
`auth_timeout_secs` before, a client at an address of the same normal form was told it is
authenticated, by a magic key it sent or by a session or survey cookie that `auth_status`
accepted, or was the peer of a WebRTC session (`iperf3_admits_vouched`).

The sync task checks nothing of a session: whoever opened it, its peer is admitted. With
authentication off, signaling needs no login and the two routes are absent, so the WebRTC
sessions alone decide, and every client that opens one may run iperf3 tests.
-/

namespace Netpoke

/-! ### `auth_status` -/

/-- `format!("{:?}", auth_provider)`, the auth source a full login is recorded with. -/
def AuthProvider.debugName : AuthProvider → List Char
  | .bluesky => "Bluesky".toList
  | .gitHub => "GitHub".toList
  | .google => "Google".toList
  | .linkedIn => "LinkedIn".toList
  | .plainLogin => "PlainLogin".toList

/-- `AuthStatusResponse` without its `stats`, which are constant zeros; `user` is the name of
its `UserInfo`. -/
structure AuthStatusResponse where
  authenticated : Bool
  authType : Option (List Char)
  user : Option (List Char)
  magicKey : Option (List Char)
  deriving DecidableEq, Repr

/-- What the auth status handlers find: a valid session of an allowed user, else a valid survey
session cookie, else neither. -/
inductive AuthStatusFound
  | full (session : SessionData)
  | magicKey (surveySessionId : List Char)
  | unauthenticated
  deriving DecidableEq, Repr

/-- The checks both auth status handlers make, at the Unix second `wallSecs`: `cookie` is the
session the private jar decrypts, `cookieHeaders` the `Cookie` headers. `none` when the expiry
check of `validate_session` panics. -/
def authStatusFound (authState : AuthConfig) (cookie : Option SessionData)
    (cookieHeaders : List (List Char)) (wallSecs : Nat) : Option AuthStatusFound :=
  if !authState.isEnabled then some .unauthenticated
  else
    -- the session of the private jar takes precedence
    let regular : Option (Option SessionData) :=
      match cookie with
      | some session =>
        (authState.validateSession session wallSecs).map fun valid =>
          if valid && authState.isUserAllowed session.handle then some session else none
      | none => some none
    regular.map fun
      | some session => .full session
      | none =>
        -- a survey session cookie is the fallback
        if authState.magicKeys.enabled then
          match extractSessionId (collectAllCookies cookieHeaders)
              authState.magicKeys.surveyCookieName with
          | some surveySessionId =>
            if validateSurveySession surveySessionId authState.magicKeys wallSecs then
              .magicKey surveySessionId
            else .unauthenticated
          | none => .unauthenticated
        else .unauthenticated

/-- The response for what was found. -/
def AuthStatusFound.response : AuthStatusFound → AuthStatusResponse
  | .full session => ⟨true, some "full".toList, some session.handle, none⟩
  | .magicKey surveySessionId =>
    ⟨true, some "magic_key".toList, none, extractMagicKeyFromSession surveySessionId⟩
  | .unauthenticated => ⟨false, none, none, none⟩

/-- What `auth_status_with_cache` records for what was found, at the instant `now`. -/
def AuthStatusFound.record (cache : AuthAddressCache) (ip : IpAddr) (now : Nat) :
    AuthStatusFound → AuthAddressCache
  | .full session =>
    cache.recordAuth ip session.handle session.displayName session.authProvider.debugName now
  | .magicKey _ => cache.recordAuth ip "magic_key_user".toList none "magic_key".toList now
  | .unauthenticated => cache

def authStatus (authState : AuthConfig) (cookie : Option SessionData)
    (cookieHeaders : List (List Char)) (wallSecs : Nat) : Option AuthStatusResponse :=
  (authStatusFound authState cookie cookieHeaders wallSecs).map AuthStatusFound.response

/-- `auth_status_with_cache`: the checks of `auth_status`, and the client address recorded in
the cache, when there is one, at the instant `now`. -/
def authStatusWithCache (authState : AuthConfig) (authCache : Option AuthAddressCache)
    (addr : SocketAddr) (cookie : Option SessionData) (cookieHeaders : List (List Char))
    (wallSecs now : Nat) : Option (Option AuthAddressCache × AuthStatusResponse) :=
  (authStatusFound authState cookie cookieHeaders wallSecs).map fun found =>
    (authCache.map fun cache => found.record cache addr.ip now, found.response)

/-! ### The WebRTC sync task -/

/-- One pass of the task `main` spawns beside the cache, at the instant `now`: each WebRTC
session of `clients`, in the order the pass reads the map, whose `peer_address` is set and
parses as an IP, is recorded as `webrtc:<id>`, and then expired entries are dropped. -/
def webrtcCacheSync (cache : AuthAddressCache) (clients : List (List Char × Option IpAddr))
    (now : Nat) : AuthAddressCache :=
  (clients.foldl (fun cache session =>
      match session.2 with
      | some peerIp =>
        cache.recordAuth peerIp ("webrtc:".toList ++ session.1) none "webrtc".toList now
      | none => cache) cache).cleanupExpired now

/-! ### The writers of the cache -/

/-- The configuration the two public auth routes run with: they are routed only when
authentication is enabled and a provider is. -/
def publicApiConfig (authState : Option AuthConfig) : Option AuthConfig :=
  authState.filter fun config => config.isEnabled && config.hasEnabledProviders

/-- What writes the cache. -/
inductive CacheWriter
  /-- a `POST /api/auth/magic-key` from `addr` -/
  | magicKeyAuth (addr : SocketAddr) (magicKey : List Char) (timestamp : UInt64) (uuid : Uuid)
  /-- a `GET /api/auth/status` from `addr`, at the Unix second `wallSecs` -/
  | authStatus (addr : SocketAddr) (cookie : Option SessionData)
      (cookieHeaders : List (List Char)) (wallSecs : Nat)
  /-- a pass of the WebRTC sync task over the sessions as it reads them -/
  | webrtcSync (clients : List (List Char × Option IpAddr))

/-- One writer at the instant `now`. A request to a route that is not there, or whose handler
panics, leaves the cache alone. -/
def CacheWriter.apply (authState : Option AuthConfig) (cache : AuthAddressCache) (now : Nat) :
    CacheWriter → AuthAddressCache
  | .magicKeyAuth addr magicKey timestamp uuid =>
    match publicApiConfig authState with
    | some config =>
      ((magicKeyAuthWithCache config.magicKeys (some cache) addr magicKey timestamp uuid
        now).1).getD cache
    | none => cache
  | .authStatus addr cookie cookieHeaders wallSecs =>
    match publicApiConfig authState with
    | some config =>
      match authStatusWithCache config (some cache) addr cookie cookieHeaders wallSecs now with
      | some (authCache, _) => authCache.getD cache
      | none => cache
    | none => cache
  | .webrtcSync clients => webrtcCacheSync cache clients now

/-- The cache after a run of writers, each at its instant, from the one `create_auth_cache`
makes. -/
def cacheWriterRun (authState : Option AuthConfig) (timeoutSecs : Nat)
    (writes : List (Nat × CacheWriter)) : AuthAddressCache :=
  writes.foldl (fun cache write => write.2.apply authState cache write.1)
    (AuthAddressCache.new timeoutSecs)

/-- Whether a writer vouches for the address `x`: a request from an address of the same normal
form, on a routed public API, that sent one of the enabled magic keys or that `auth_status`
answered authenticated; or a pass that saw a WebRTC session with such a peer. -/
def CacheWriter.Vouches (authState : Option AuthConfig) (x : IpAddr) : CacheWriter → Prop
  | .magicKeyAuth addr magicKey _ _ =>
    normalizeIp addr.ip = normalizeIp x ∧ ∃ config, publicApiConfig authState = some config ∧
      config.magicKeys.enabled = true ∧ magicKey ∈ config.magicKeys.magicKeys
  | .authStatus addr cookie cookieHeaders wallSecs =>
    normalizeIp addr.ip = normalizeIp x ∧ ∃ config, publicApiConfig authState = some config ∧
      (Netpoke.authStatus config cookie cookieHeaders wallSecs).map AuthStatusResponse.authenticated =
        some true
  | .webrtcSync clients =>
    ∃ sessionId peerIp, (sessionId, some peerIp) ∈ clients ∧ normalizeIp peerIp = normalizeIp x

/-! ### Writers as runs of cache calls -/

/-- The address a call records, for a `record_auth`. -/
def CacheCall.recordedIp : CacheCall → Option IpAddr
  | .recordAuth ip _ _ _ => some ip
  | _ => none

/-- The `record_auth` `auth_status_with_cache` makes for what was found. -/
def AuthStatusFound.cacheCalls (ip : IpAddr) : AuthStatusFound → List CacheCall
  | .full session =>
    [.recordAuth ip session.handle session.displayName session.authProvider.debugName]
  | .magicKey _ => [.recordAuth ip "magic_key_user".toList none "magic_key".toList]
  | .unauthenticated => []

/-- The `record_auth` calls of a pass of the WebRTC sync task. -/
def webrtcRecords (clients : List (List Char × Option IpAddr)) : List CacheCall :=
  clients.filterMap fun session => session.2.map fun peerIp =>
    .recordAuth peerIp ("webrtc:".toList ++ session.1) none "webrtc".toList

/-- The calls a writer makes on the cache, in order. -/
def CacheWriter.cacheCalls (authState : Option AuthConfig) : CacheWriter → List CacheCall
  | .magicKeyAuth addr magicKey _ _ =>
    match publicApiConfig authState with
    | some config =>
      match magicKeyRejection config.magicKeys magicKey with
      | some _ => []
      | none => [.recordAuth addr.ip ("magic_key:".toList ++ magicKey) none "magic_key".toList]
    | none => []
  | .authStatus addr cookie cookieHeaders wallSecs =>
    match (publicApiConfig authState).bind fun config =>
        authStatusFound config cookie cookieHeaders wallSecs with
    | some found => found.cacheCalls addr.ip
    | none => []
  | .webrtcSync clients => webrtcRecords clients ++ [.cleanupExpired]

/-- The timed cache calls of a run of writers. -/
def writerCalls (authState : Option AuthConfig) (writes : List (Nat × CacheWriter)) :
    List (Nat × CacheCall) :=
  writes.flatMap fun write => (write.2.cacheCalls authState).map (write.1, ·)

/-- Only a `record_auth` renews an address. -/
theorem foldl_cacheStep_renewals (calls : List (Nat × CacheCall))
    (hrecord : ∀ call ∈ calls, ∀ ip, call.2 ≠ .refreshAuth ip)
    (state : AuthAddressCache × List (IpAddr × Nat)) :
    (calls.foldl cacheStep state).2 =
      state.2 ++ calls.filterMap fun call => call.2.recordedIp.map (·, call.1) := by
  induction calls generalizing state with
  | nil => simp
  | cons call calls ih =>
    have hrest := ih (fun c hc => hrecord c (List.mem_cons_of_mem _ hc))
    obtain ⟨now, call⟩ := call
    rw [List.foldl_cons, hrest, List.filterMap_cons]
    cases call with
    | recordAuth ip userId displayName authSource =>
      simp [cacheStep, CacheCall.recordedIp]
    | refreshAuth ip => exact absurd rfl (hrecord _ List.mem_cons_self ip)
    | cleanupExpired => simp [cacheStep, CacheCall.recordedIp]

theorem AuthStatusFound.apply_eq_cacheCalls (found : AuthStatusFound) (cache : AuthAddressCache)
    (ip : IpAddr) (now : Nat) (renewals : List (IpAddr × Nat)) :
    (((found.cacheCalls ip).map (now, ·)).foldl cacheStep (cache, renewals)).1 =
      found.record cache ip now := by
  cases found <;> rfl

theorem webrtcCacheSync_eq_cacheCalls (clients : List (List Char × Option IpAddr))
    (cache : AuthAddressCache) (now : Nat) (renewals : List (IpAddr × Nat)) :
    (((webrtcRecords clients ++ [CacheCall.cleanupExpired]).map (now, ·)).foldl cacheStep
      (cache, renewals)).1 = webrtcCacheSync cache clients now := by
  suffices hrecords : ∀ (cache : AuthAddressCache) (renewals : List (IpAddr × Nat)),
      (((webrtcRecords clients).map (now, ·)).foldl cacheStep (cache, renewals)).1 =
        clients.foldl (fun cache session =>
          match session.2 with
          | some peerIp =>
            cache.recordAuth peerIp ("webrtc:".toList ++ session.1) none "webrtc".toList now
          | none => cache) cache by
    rw [List.map_append, List.foldl_append, webrtcCacheSync, ← hrecords cache renewals]
    rfl
  induction clients with
  | nil => exact fun _ _ => rfl
  | cons session clients ih =>
    intro cache renewals
    obtain ⟨sessionId, peerIp⟩ := session
    cases peerIp with
    | none => exact ih cache renewals
    | some peerIp => exact ih _ _

/-- A writer does to the cache what its calls do, whatever the renewals so far. -/
theorem CacheWriter.apply_eq_cacheCalls (authState : Option AuthConfig) (write : CacheWriter)
    (cache : AuthAddressCache) (now : Nat) (renewals : List (IpAddr × Nat)) :
    (((write.cacheCalls authState).map (now, ·)).foldl cacheStep (cache, renewals)).1 =
      write.apply authState cache now := by
  cases write with
  | magicKeyAuth addr magicKey timestamp uuid =>
    simp only [cacheCalls, apply]
    cases publicApiConfig authState with
    | none => rfl
    | some config =>
      dsimp only
      unfold magicKeyAuthWithCache
      cases magicKeyRejection config.magicKeys magicKey <;> rfl
  | authStatus addr cookie cookieHeaders wallSecs =>
    simp only [cacheCalls, apply]
    cases publicApiConfig authState with
    | none => rfl
    | some config =>
      simp only [Option.bind_some, authStatusWithCache]
      cases authStatusFound config cookie cookieHeaders wallSecs with
      | none => rfl
      | some found => exact found.apply_eq_cacheCalls cache addr.ip now renewals
  | webrtcSync clients => exact webrtcCacheSync_eq_cacheCalls clients cache now renewals

theorem cacheWriterRun_eq (authState : Option AuthConfig) (timeoutSecs : Nat)
    (writes : List (Nat × CacheWriter)) :
    cacheWriterRun authState timeoutSecs writes =
      (cacheRun timeoutSecs (writerCalls authState writes)).1 := by
  suffices h : ∀ (cache : AuthAddressCache) (renewals : List (IpAddr × Nat)),
      ((writerCalls authState writes).foldl cacheStep (cache, renewals)).1 =
        writes.foldl (fun cache write => write.2.apply authState cache write.1) cache from
    (h _ []).symm
  induction writes with
  | nil => exact fun _ _ => rfl
  | cons write writes ih =>
    intro cache renewals
    rw [writerCalls, List.flatMap_cons, List.foldl_append, List.foldl_cons, ← writerCalls,
      ← CacheWriter.apply_eq_cacheCalls authState write.2 cache write.1 renewals]
    exact ih _ _

/-! ### What the writers record -/

theorem AuthStatusFound.recordedIps (found : AuthStatusFound) (ip : IpAddr) :
    (found.cacheCalls ip).filterMap CacheCall.recordedIp =
      if found.response.authenticated then [ip] else [] := by
  cases found <;> rfl

theorem webrtcRecords_recordedIps (clients : List (List Char × Option IpAddr)) :
    (webrtcRecords clients).filterMap CacheCall.recordedIp = clients.filterMap Prod.snd := by
  induction clients with
  | nil => rfl
  | cons session clients ih =>
    obtain ⟨sessionId, peerIp⟩ := session
    cases peerIp with
    | none => exact ih
    | some peerIp => exact congrArg (peerIp :: ·) ih

/-- No writer refreshes: every renewal is a `record_auth`. -/
theorem CacheWriter.cacheCalls_ne_refreshAuth (authState : Option AuthConfig)
    (write : CacheWriter) : ∀ call ∈ write.cacheCalls authState, ∀ ip, call ≠ .refreshAuth ip := by
  intro call hcall ip hrefresh
  subst hrefresh
  cases write with
  | magicKeyAuth addr magicKey timestamp uuid =>
    simp only [cacheCalls] at hcall
    split at hcall
    · split at hcall <;> simp at hcall
    · cases hcall
  | authStatus addr cookie cookieHeaders wallSecs =>
    simp only [cacheCalls] at hcall
    split at hcall
    · rename_i found _
      cases found <;> simp [AuthStatusFound.cacheCalls] at hcall
    · cases hcall
  | webrtcSync clients =>
    simp only [cacheCalls, webrtcRecords, List.mem_append, List.mem_filterMap,
      List.mem_singleton] at hcall
    rcases hcall with ⟨session, -, hsession⟩ | hcleanup
    · cases h : session.2 <;> simp [h] at hsession
    · cases hcleanup

/-- A writer vouches for an address exactly when it records one of the same normal form. -/
theorem CacheWriter.vouches_iff (authState : Option AuthConfig) (x : IpAddr)
    (write : CacheWriter) :
    write.Vouches authState x ↔
      ∃ ip ∈ (write.cacheCalls authState).filterMap CacheCall.recordedIp,
        normalizeIp ip = normalizeIp x := by
  cases write with
  | magicKeyAuth addr magicKey timestamp uuid =>
    simp only [Vouches, cacheCalls]
    cases publicApiConfig authState with
    | none => simp
    | some config =>
      simp only [Option.some.injEq, exists_eq_left', ← magicKeyRejection_eq_none_iff]
      cases magicKeyRejection config.magicKeys magicKey <;> simp [CacheCall.recordedIp]
  | authStatus addr cookie cookieHeaders wallSecs =>
    simp only [Vouches, cacheCalls, Netpoke.authStatus]
    cases publicApiConfig authState with
    | none => simp
    | some config =>
      simp only [Option.some.injEq, exists_eq_left', Option.bind_some]
      cases authStatusFound config cookie cookieHeaders wallSecs with
      | none => simp
      | some found =>
        rw [AuthStatusFound.recordedIps]
        by_cases hauth : found.response.authenticated = true <;> simp [hauth]
  | webrtcSync clients =>
    have hcleanup : [CacheCall.cleanupExpired].filterMap CacheCall.recordedIp = [] := rfl
    simp only [Vouches, cacheCalls, List.filterMap_append, webrtcRecords_recordedIps, hcleanup,
      List.append_nil]
    constructor
    · rintro ⟨sessionId, peerIp, hmem, hip⟩
      exact ⟨peerIp, List.mem_filterMap.mpr ⟨(sessionId, some peerIp), hmem, rfl⟩, hip⟩
    · rintro ⟨ip, hmem, hip⟩
      obtain ⟨⟨sessionId, peerIp⟩, hsession, hpeer⟩ := List.mem_filterMap.mp hmem
      dsimp only at hpeer
      subst hpeer
      exact ⟨sessionId, ip, hsession, hip⟩

/-! ### Admission -/

theorem writerCalls_sorted (authState : Option AuthConfig) {writes : List (Nat × CacheWriter)}
    (hsorted : (writes.map Prod.fst).Pairwise (· ≤ ·)) :
    ((writerCalls authState writes).map Prod.fst).Pairwise (· ≤ ·) := by
  rw [writerCalls, List.map_flatMap, List.pairwise_flatMap]
  refine ⟨fun write _ => ?_, ?_⟩
  · -- the calls of one writer share its instant
    rw [List.map_map]
    exact List.pairwise_of_forall_mem_list fun a ha b hb => by
      obtain ⟨_, _, rfl⟩ := List.mem_map.mp ha
      obtain ⟨_, _, rfl⟩ := List.mem_map.mp hb
      exact le_refl _
  · refine (List.pairwise_map.mp hsorted).imp fun hle a ha b hb => ?_
    obtain ⟨_, _, rfl⟩ := List.mem_map.mp (List.map_map ▸ ha)
    obtain ⟨_, _, rfl⟩ := List.mem_map.mp (List.map_map ▸ hb)
    exact hle

/-- With authentication required, over every run of the cache's writers at nondecreasing
instants up to `now`, the iperf3 server admits a peer exactly when, less than
`auth_timeout_secs` before, a writer vouched for an address of the same normal form: a request
that sent an enabled magic key or that `auth_status` answered authenticated, or a WebRTC session
the sync task saw. -/
theorem iperf3_admits_vouched (iperf3 : Iperf3Config) (admission : Iperf3Admission)
    (authState : Option AuthConfig) (hauth : iperf3.requireAuth = true)
    (writes : List (Nat × CacheWriter)) (hsorted : (writes.map Prod.fst).Pairwise (· ≤ ·))
    (now : Nat) (hnow : ∀ write ∈ writes, write.1 ≤ now) (x : IpAddr) :
    (admission.setAuthCallback (cacheAuthCallback
        (cacheWriterRun authState iperf3.authTimeoutSecs writes) now)).isIpAllowed iperf3 x =
        true ↔
      ∃ write ∈ writes, now - write.1 < iperf3.authTimeoutSecs * 1000000000 ∧
        write.2.Vouches authState x := by
  have hcallsNow : ∀ call ∈ writerCalls authState writes, call.1 ≤ now := by
    intro call hcall
    obtain ⟨write, hwrite, hcall⟩ := List.mem_flatMap.mp hcall
    obtain ⟨_, _, rfl⟩ := List.mem_map.mp hcall
    exact hnow write hwrite
  have hrenewals : (cacheRun iperf3.authTimeoutSecs (writerCalls authState writes)).2 =
      (writerCalls authState writes).filterMap fun call => call.2.recordedIp.map (·, call.1) := by
    rw [cacheRun, foldl_cacheStep_renewals _ ?_, List.nil_append]
    intro call hcall
    obtain ⟨write, -, hcall⟩ := List.mem_flatMap.mp hcall
    obtain ⟨c, hc, rfl⟩ := List.mem_map.mp hcall
    exact write.2.cacheCalls_ne_refreshAuth authState c hc
  rw [cacheWriterRun_eq]
  refine (isIpAllowed_cacheCallback_run_iff iperf3 admission hauth (writerCalls authState writes)
    (writerCalls_sorted authState hsorted) now hcallsNow x).trans ?_
  rw [hrenewals]
  constructor
  · rintro ⟨p, hp, hip, htime⟩
    obtain ⟨call, hcall, hrecord⟩ := List.mem_filterMap.mp hp
    obtain ⟨write, hwrite, hcall⟩ := List.mem_flatMap.mp hcall
    obtain ⟨c, hc, rfl⟩ := List.mem_map.mp hcall
    obtain ⟨ip, hcip, rfl⟩ := Option.map_eq_some_iff.mp hrecord
    exact ⟨write, hwrite, htime,
      (write.2.vouches_iff authState x).mpr ⟨ip, List.mem_filterMap.mpr ⟨c, hc, hcip⟩, hip⟩⟩
  · rintro ⟨write, hwrite, htime, hvouch⟩
    obtain ⟨ip, hmem, hip⟩ := (write.2.vouches_iff authState x).mp hvouch
    obtain ⟨c, hc, hcip⟩ := List.mem_filterMap.mp hmem
    refine ⟨(ip, write.1), List.mem_filterMap.mpr ⟨(write.1, c), ?_, by simp [hcip]⟩, hip, htime⟩
    exact List.mem_flatMap.mpr ⟨write, hwrite, List.mem_map.mpr ⟨c, hc, rfl⟩⟩

/-- Authentication on with the plain login of one user `analyst`, and the magic key `K`. -/
def accessAuthConfig : AuthConfig where
  enableAuth := true
  oauth := ⟨false, false, false, false⟩
  plainLogin := ⟨true, [⟨"analyst".toList, "pw".toList, none⟩]⟩
  session := ⟨"netpoke_session".toList, 86400, true⟩
  allowedUsers := []
  magicKeys := { MagicKeyConfig.default with enabled := true, magicKeys := ["K".toList] }

/-- An iperf3 server that requires authentication. -/
def accessIperf3Config : Iperf3Config :=
  { Iperf3Config.default with enabled := true, requireAuth := true }

/-- A survey client at `192.168.0.2` sends its magic key, and a second later the sync task sees
its WebRTC session. -/
def surveyClientWrites : List (Nat × CacheWriter) :=
  [(0, .magicKeyAuth ⟨.v4 0xc0a80002#32, 40000⟩ "K".toList 1700000000 ⟨0#128⟩),
    (1000000000, .webrtcSync [("c1".toList, some (.v4 0xc0a80002#32))])]

theorem iperf3_admits_vouched_survey_client :
    accessIperf3Config.requireAuth = true ∧
      (surveyClientWrites.map Prod.fst).Pairwise (· ≤ ·) ∧
      (∀ write ∈ surveyClientWrites, write.1 ≤ 2000000000) ∧
      ((Iperf3Admission.new.setAuthCallback (cacheAuthCallback
          (cacheWriterRun (some accessAuthConfig) accessIperf3Config.authTimeoutSecs
            surveyClientWrites) 2000000000)).isIpAllowed accessIperf3Config (.v4 0xc0a80002#32) =
          true ↔
        ∃ write ∈ surveyClientWrites,
          2000000000 - write.1 < accessIperf3Config.authTimeoutSecs * 1000000000 ∧
            write.2.Vouches (some accessAuthConfig) (.v4 0xc0a80002#32)) :=
  have hauth : accessIperf3Config.requireAuth = true := rfl
  have hsorted : (surveyClientWrites.map Prod.fst).Pairwise (· ≤ ·) := by decide
  have hnow : ∀ write ∈ surveyClientWrites, write.1 ≤ 2000000000 := by decide
  ⟨hauth, hsorted, hnow, iperf3_admits_vouched accessIperf3Config Iperf3Admission.new
    (some accessAuthConfig) hauth surveyClientWrites hsorted 2000000000 hnow (.v4 0xc0a80002#32)⟩

end Netpoke
