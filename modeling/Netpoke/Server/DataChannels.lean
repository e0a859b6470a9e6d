import Netpoke.Server.SurveySession
import Netpoke.Server.Database
import Netpoke.Server.Router

/-!
# The survey key of a data channel session

`handle_control_message` (`server/src/data_channels.rs`) over the fields of `ClientSession` that
decide the measuring limit. A connection starts with no magic key (`signaling_start`); only
`StartSurveySession` writes one: the message's `magic_key`, else the key read from its
`survey_session_id`. `GetMeasuringTime` answers with `get_max_measuring_time_seconds` of that key
in milliseconds, `StartProbeStreams` sets it as `max_measuring_duration`, which the probe sender
then enforces, and with no key the answer is `DEFAULT_MEASURING_TIME_MS` and no limit is set.
A panic of a handler ends the channel's read loop, so no later message is handled.

Before it parses a message the handler logs its text cut at byte 200, and a message that does
not parse is logged cut at byte 100; the session downloads of the router cut the survey session
id at byte 8 for the file name. A `str` slice panics off a character boundary, so a client text
with a character of two bytes over the cut panics the handler (`client_text_slices_panic`).
-/

namespace Netpoke

namespace DataChannel

open CharList

def defaultMeasuringTimeMs : Nat := 10000000

structure StartSurveySessionMessage where
  surveySessionId : List Char
  connId : List Char
  magicKey : Option (List Char)
  deriving DecidableEq, Repr

structure GetMeasuringTimeMessage where
  connId : List Char
  surveySessionId : List Char
  deriving DecidableEq, Repr

structure MeasuringTimeResponseMessage where
  connId : List Char
  surveySessionId : List Char
  maxDurationMs : Nat
  deriving DecidableEq, Repr

structure StartProbeStreamsMessage where
  connId : List Char
  surveySessionId : List Char
  deriving DecidableEq, Repr

/-- The variants of `ControlMessage` that write the fields modelled here. `StartTraceroute`,
`StartMtuTraceroute` and `StartServerTraffic` are their update of the survey session id; `other`
is every variant that writes none of these fields. -/
inductive ControlMessage
  | startSurveySession (msg : StartSurveySessionMessage)
  | getMeasuringTime (msg : GetMeasuringTimeMessage)
  | startProbeStreams (msg : StartProbeStreamsMessage)
  | stopProbeStreams (connId : List Char)
  | startTraceroute (connId surveySessionId : List Char)
  | startMtuTraceroute (connId surveySessionId : List Char)
  | startServerTraffic (connId surveySessionId : List Char)
  | other
  deriving DecidableEq, Repr

/-- The fields of `ClientSession` and of its `MeasurementState` that these handlers use; times
are milliseconds of one clock. -/
structure ClientSession where
  connId : List Char
  surveySessionId : List Char
  magicKey : Option (List Char)
  magicKeyConfig : Option MagicKeyConfig
  controlOpen : Bool
  probeStreamsActive : Bool
  probeStreamsStartedAt : Option Nat
  maxMeasuringDuration : Option Nat
  deriving DecidableEq, Repr

/-- A session and the survey database of its `session_manager`. -/
structure DataChannelState (μ : Type) where
  session : ClientSession
  sessionManager : Option (SurveyDb μ)

variable {μ : Type}

namespace ClientSession

/-- The `if let (Some(ref config), Some(ref key))` of `GetMeasuringTime` and
`StartProbeStreams`: the limit in seconds of the stored key. -/
def maxMeasuringSeconds (session : ClientSession) : Option Nat :=
  match session.magicKeyConfig, session.magicKey with
  | some config, some key => some (config.getMaxMeasuringTimeSeconds key)
  | _, _ => none

/-- `max_duration_ms`; `none` is the panic of `seconds * 1000` past `u64`. -/
def maxDurationMs (session : ClientSession) : Option Nat :=
  match session.maxMeasuringSeconds with
  | some seconds => if seconds * 1000 < 2 ^ 64 then some (seconds * 1000) else none
  | none => some defaultMeasuringTimeMs

/-- "Update survey session ID if provided", shared by the start handlers. -/
def updateSurveySessionId (session : ClientSession) (surveySessionId : List Char) :
    ClientSession :=
  if surveySessionId.isEmpty then session else { session with surveySessionId }

end ClientSession

open Netpoke.DataChannel.ClientSession

/-- The `StartSurveySession` handler at the time `nowMs`. The capture registration and the keylog
entry it also makes are modelled in `PacketCapture` and `KeylogStore`. -/
def handleStartSurveySession (s : DataChannelState μ) (msg : StartSurveySessionMessage)
    (nowMs : Nat) : DataChannelState μ :=
  if msg.connId ≠ s.session.connId then s
  else
    let session := { s.session with surveySessionId := msg.surveySessionId }
    let session :=
      match msg.magicKey with
      | some magicKey => { session with magicKey := some magicKey }
      | none =>
        match extractMagicKeyFromSessionId msg.surveySessionId with
        | some extracted => { session with magicKey := some extracted }
        | none => session
    let sessionManager := s.sessionManager.map fun db =>
      let magicKeyOwned :=
        match msg.magicKey with
        | some key => key
        | none => (extractMagicKeyFromSessionId msg.surveySessionId).getD "unknown".toList
      -- a refused `INSERT` is logged and leaves the table as it was
      (db.createSession msg.surveySessionId magicKeyOwned none nowMs).getD db
    { session, sessionManager }

/-- The `GetMeasuringTime` handler: the response it sends, if the control channel is open. -/
def handleGetMeasuringTime (session : ClientSession) (msg : GetMeasuringTimeMessage) :
    Option (Option MeasuringTimeResponseMessage) :=
  if msg.connId ≠ session.connId then some none
  else
    session.maxDurationMs.map fun maxDurationMs =>
      if session.controlOpen then some ⟨session.connId, session.surveySessionId, maxDurationMs⟩
      else none

/-- The `StartProbeStreams` handler at the time `now`, without the probe data it clears. -/
def handleStartProbeStreams (session : ClientSession) (msg : StartProbeStreamsMessage)
    (now : Nat) : ClientSession :=
  if msg.connId ≠ session.connId then session
  else
    let session := session.updateSurveySessionId msg.surveySessionId
    { session with
      probeStreamsActive := true
      probeStreamsStartedAt := some now
      maxMeasuringDuration := session.maxMeasuringSeconds }

/-- `StartTraceroute`, `StartMtuTraceroute` and `StartServerTraffic` on the survey session id. -/
def handleSurveyIdUpdate (session : ClientSession) (connId surveySessionId : List Char) :
    ClientSession :=
  if connId ≠ session.connId then session else session.updateSurveySessionId surveySessionId

def handleStopProbeStreams (session : ClientSession) (connId : List Char) : ClientSession :=
  if connId ≠ session.connId then session else { session with probeStreamsActive := false }

/-- `handle_control_message` at the time `now`; `none` is a panic. -/
def handleControlMessage (s : DataChannelState μ) (now : Nat) :
    ControlMessage → Option (DataChannelState μ × Option MeasuringTimeResponseMessage)
  | .startSurveySession msg => some (handleStartSurveySession s msg now, none)
  | .getMeasuringTime msg => (handleGetMeasuringTime s.session msg).map fun r => (s, r)
  | .startProbeStreams msg =>
    some ({ s with session := handleStartProbeStreams s.session msg now }, none)
  | .stopProbeStreams connId => some ({ s with session := handleStopProbeStreams s.session connId }, none)
  | .startTraceroute connId surveySessionId
  | .startMtuTraceroute connId surveySessionId
  | .startServerTraffic connId surveySessionId =>
    some ({ s with session := handleSurveyIdUpdate s.session connId surveySessionId }, none)
  | .other => some (s, none)

/-- What `handle_control_message` does with the bytes of a message before it dispatches on it.
`body` is the text when the bytes are UTF-8, `parsed` what `serde_json::from_slice` makes of
them. The 200-byte preview is cut whenever the body is text, outside the `debug!` that logs it;
the 100-byte one when the body does not parse, for the warning, whose level is on by default.
`none` is a panic, `some` the message handed on. -/
def controlMessageIntake (body : Option (List Char)) (parsed : Option ControlMessage) :
    Option (Option ControlMessage) := do
  if let some text := body then
    let _ ← bytePrefix 200 text
  match parsed with
  | some msg => return some msg
  | none =>
    if let some text := body then
      let _ ← bytePrefix 100 text
    return none

/-- The messages of a connection, each at its time, handled in order, with the responses sent. -/
def runControl (s : DataChannelState μ) :
    List (Nat × ControlMessage) → DataChannelState μ × List MeasuringTimeResponseMessage
  | [] => (s, [])
  | (now, msg) :: rest =>
    match handleControlMessage s now msg with
    -- the panic ends the read loop of the data channel
    | none => (s, [])
    | some (s', response) =>
      let (s'', responses) := runControl s' rest
      (s'', response.toList ++ responses)

/-- The check at the top of each round of `start_measurement_probe_sender` at the time `now`:
whether the sender goes on, and the session after it. -/
def probeSenderCheck (session : ClientSession) (now : Nat) : ClientSession × Bool :=
  if !session.probeStreamsActive then (session, false)
  else
    match session.probeStreamsStartedAt, session.maxMeasuringDuration with
    | some startedAt, some maxDuration =>
      if now - startedAt ≥ maxDuration * 1000 then
        ({ session with probeStreamsActive := false }, false)
      else (session, true)
    | _, _ => (session, true)

/-- The key a message makes the session store on the connection `connId`, if any. -/
def ControlMessage.sentMagicKey (connId : List Char) : ControlMessage → Option (List Char)
  | .startSurveySession msg =>
    if msg.connId = connId then msg.magicKey.or (extractMagicKeyFromSessionId msg.surveySessionId)
    else none
  | _ => none

/-! ### One message -/

/-- What no handler but `StartSurveySession` changes: the connection, its key and the
configuration. -/
structure KeepsKey (before after : ClientSession) : Prop where
  connId : after.connId = before.connId
  magicKey : after.magicKey = before.magicKey
  magicKeyConfig : after.magicKeyConfig = before.magicKeyConfig

theorem KeepsKey.refl (session : ClientSession) : KeepsKey session session :=
  ⟨rfl, rfl, rfl⟩

theorem keepsKey_updateSurveySessionId (session : ClientSession) (surveySessionId : List Char) :
    KeepsKey session (session.updateSurveySessionId surveySessionId) := by
  unfold updateSurveySessionId
  split
  · exact KeepsKey.refl session
  · exact ⟨rfl, rfl, rfl⟩

theorem keepsKey_handleStartProbeStreams (session : ClientSession)
    (msg : StartProbeStreamsMessage) (now : Nat) :
    KeepsKey session (handleStartProbeStreams session msg now) := by
  unfold handleStartProbeStreams
  split
  · exact KeepsKey.refl session
  · obtain ⟨hconn, hkey, hconfig⟩ := keepsKey_updateSurveySessionId session msg.surveySessionId
    exact ⟨hconn, hkey, hconfig⟩

theorem keepsKey_handleSurveyIdUpdate (session : ClientSession) (connId surveySessionId : List Char) :
    KeepsKey session (handleSurveyIdUpdate session connId surveySessionId) := by
  unfold handleSurveyIdUpdate
  split
  · exact KeepsKey.refl session
  · exact keepsKey_updateSurveySessionId session surveySessionId

theorem keepsKey_handleStopProbeStreams (session : ClientSession) (connId : List Char) :
    KeepsKey session (handleStopProbeStreams session connId) := by
  unfold handleStopProbeStreams
  split
  · exact KeepsKey.refl session
  · exact ⟨rfl, rfl, rfl⟩

/-- `StartSurveySession` keeps the connection and the configuration and stores the key the
message carries, verbatim or inside its survey session id, if it carries one. -/
theorem handleStartSurveySession_session (s : DataChannelState μ)
    (msg : StartSurveySessionMessage) (nowMs : Nat) :
    let session := (handleStartSurveySession s msg nowMs).session
    session.connId = s.session.connId ∧ session.magicKeyConfig = s.session.magicKeyConfig ∧
      session.magicKey =
        ((ControlMessage.startSurveySession msg).sentMagicKey s.session.connId).or
          s.session.magicKey := by
  simp only [handleStartSurveySession, ControlMessage.sentMagicKey]
  by_cases hconn : msg.connId = s.session.connId
  · rw [if_neg (not_not.mpr hconn), if_pos hconn]
    -- the two branches of `if let Some(ref magic_key)`, then of the extraction
    rcases msg.magicKey with _ | magicKey
    · rcases extractMagicKeyFromSessionId msg.surveySessionId with _ | extracted
      · exact ⟨rfl, rfl, rfl⟩
      · exact ⟨rfl, rfl, rfl⟩
    · exact ⟨rfl, rfl, rfl⟩
  · rw [if_pos hconn, if_neg hconn]
    exact ⟨rfl, rfl, rfl⟩

theorem maxMeasuringSeconds_eq_some {session : ClientSession} {seconds : Nat}
    (h : session.maxMeasuringSeconds = some seconds) :
    ∃ config key, session.magicKeyConfig = some config ∧ session.magicKey = some key ∧
      seconds = config.getMaxMeasuringTimeSeconds key := by
  unfold maxMeasuringSeconds at h
  split at h
  · rename_i config key hconfig hkey
    exact ⟨config, key, hconfig, hkey, (Option.some.inj h).symm⟩
  · cases h

theorem maxDurationMs_eq_some {session : ClientSession} {maxDurationMs : Nat}
    (h : session.maxDurationMs = some maxDurationMs) :
    maxDurationMs = defaultMeasuringTimeMs ∨
      ∃ config key, session.magicKeyConfig = some config ∧ session.magicKey = some key ∧
        maxDurationMs = config.getMaxMeasuringTimeSeconds key * 1000 := by
  unfold ClientSession.maxDurationMs at h
  split at h
  · rename_i seconds hseconds
    obtain ⟨config, key, hconfig, hkey, rfl⟩ := maxMeasuringSeconds_eq_some hseconds
    split at h
    · exact .inr ⟨config, key, hconfig, hkey, (Option.some.inj h).symm⟩
    · cases h
  · exact .inl (Option.some.inj h).symm

/-- What one message does to the key: the connection and the configuration stay, the key is the
one the message sends or else the old one, and a response carries the answer of the session
before it. -/
theorem handleControlMessage_spec {s s' : DataChannelState μ} {now : Nat} {msg : ControlMessage}
    {response : Option MeasuringTimeResponseMessage}
    (h : handleControlMessage s now msg = some (s', response)) :
    s'.session.connId = s.session.connId ∧
      s'.session.magicKeyConfig = s.session.magicKeyConfig ∧
      s'.session.magicKey = (msg.sentMagicKey s.session.connId).or s.session.magicKey ∧
      ∀ r ∈ response, s.session.maxDurationMs = some r.maxDurationMs := by
  have hkeeps : ∀ after, KeepsKey s.session after → response = none →
      msg.sentMagicKey s.session.connId = none → s'.session = after →
      s'.session.connId = s.session.connId ∧
        s'.session.magicKeyConfig = s.session.magicKeyConfig ∧
        s'.session.magicKey = (msg.sentMagicKey s.session.connId).or s.session.magicKey ∧
        ∀ r ∈ response, s.session.maxDurationMs = some r.maxDurationMs := by
    rintro after ⟨hconn, hkey, hconfig⟩ rfl hsent rfl
    refine ⟨hconn, hconfig, ?_, fun r hr => by cases hr⟩
    rw [hsent, Option.none_or, hkey]
  cases msg
  case startSurveySession msg =>
    simp only [handleControlMessage, Option.some.injEq, Prod.mk.injEq] at h
    obtain ⟨rfl, rfl⟩ := h
    obtain ⟨hconn, hconfig, hkey⟩ := handleStartSurveySession_session s msg now
    exact ⟨hconn, hconfig, hkey, fun r hr => by cases hr⟩
  case getMeasuringTime msg =>
    simp only [handleControlMessage, Option.map_eq_some_iff, Prod.mk.injEq] at h
    obtain ⟨r, hr, rfl, rfl⟩ := h
    refine ⟨rfl, rfl, rfl, ?_⟩
    intro resp hresp
    unfold handleGetMeasuringTime at hr
    split at hr
    · cases hr
      cases hresp
    · obtain ⟨d, hd, hrd⟩ := Option.map_eq_some_iff.mp hr
      rw [← hrd] at hresp
      split at hresp
      · cases hresp
        exact hd
      · cases hresp
  all_goals
    simp only [handleControlMessage, Option.some.injEq, Prod.mk.injEq] at h
    obtain ⟨rfl, rfl⟩ := h
    first
      | exact hkeeps _ (keepsKey_handleStartProbeStreams _ _ _) rfl rfl rfl
      | exact hkeeps _ (keepsKey_handleStopProbeStreams _ _) rfl rfl rfl
      | exact hkeeps _ (keepsKey_handleSurveyIdUpdate _ _ _) rfl rfl rfl
      | exact hkeeps _ (KeepsKey.refl _) rfl rfl rfl

/-! ### Whole runs -/

section Runs

variable {s s' : DataChannelState μ} {now : Nat} {msg : ControlMessage}
  {response : Option MeasuringTimeResponseMessage} {rest : List (Nat × ControlMessage)}

theorem runControl_cons_of_some (h : handleControlMessage s now msg = some (s', response)) :
    runControl s ((now, msg) :: rest) =
      ((runControl s' rest).1, response.toList ++ (runControl s' rest).2) := by
  rw [runControl, h]

theorem runControl_cons_of_none (h : handleControlMessage s now msg = none) :
    runControl s ((now, msg) :: rest) = (s, []) := by
  rw [runControl, h]

/-- The key a client sent: the one the session started with, or one a message sent. -/
def SentKey (s : DataChannelState μ) (msgs : List (Nat × ControlMessage)) (key : List Char) :
    Prop :=
  s.session.magicKey = some key ∨ ∃ tm ∈ msgs, tm.2.sentMagicKey s.session.connId = some key

theorem SentKey.cons (h : handleControlMessage s now msg = some (s', response))
    {key : List Char} (hsent : SentKey s' rest key) : SentKey s ((now, msg) :: rest) key := by
  obtain ⟨hconn, -, hkey, -⟩ := handleControlMessage_spec h
  rcases hsent with hkey' | ⟨tm, htm, hmsg⟩
  · rw [hkey] at hkey'
    cases hnew : msg.sentMagicKey s.session.connId with
    | none =>
      rw [hnew, Option.none_or] at hkey'
      exact .inl hkey'
    | some k =>
      rw [hnew, Option.some_or] at hkey'
      exact .inr ⟨(now, msg), List.mem_cons_self, hnew.trans hkey'⟩
  · rw [hconn] at hmsg
    exact .inr ⟨tm, List.mem_cons_of_mem _ htm, hmsg⟩

/-- The key a session holds after any run is one the client sent. -/
theorem magicKey_runControl (s : DataChannelState μ) (msgs : List (Nat × ControlMessage))
    {key : List Char} (h : (runControl s msgs).1.session.magicKey = some key) :
    SentKey s msgs key := by
  induction msgs generalizing s with
  | nil => exact .inl h
  | cons tm rest ih =>
    obtain ⟨now, msg⟩ := tm
    cases hstep : handleControlMessage s now msg with
    | none =>
      rw [runControl_cons_of_none hstep] at h
      exact .inl h
    | some step =>
      obtain ⟨s', response⟩ := step
      rw [runControl_cons_of_some hstep] at h
      exact SentKey.cons hstep (ih s' h)

/-- Every `MeasuringTimeResponse` of a run grants the default or the limit of a key the client
sent. -/
theorem maxDurationMs_runControl (s : DataChannelState μ) (msgs : List (Nat × ControlMessage))
    {r : MeasuringTimeResponseMessage} (hr : r ∈ (runControl s msgs).2) :
    r.maxDurationMs = defaultMeasuringTimeMs ∨
      ∃ config key, s.session.magicKeyConfig = some config ∧ SentKey s msgs key ∧
        r.maxDurationMs = config.getMaxMeasuringTimeSeconds key * 1000 := by
  induction msgs generalizing s with
  | nil => cases hr
  | cons tm rest ih =>
    obtain ⟨now, msg⟩ := tm
    cases hstep : handleControlMessage s now msg with
    | none =>
      rw [runControl_cons_of_none hstep] at hr
      cases hr
    | some step =>
      obtain ⟨s', response⟩ := step
      obtain ⟨-, hconfig, -, hanswer⟩ := handleControlMessage_spec hstep
      rw [runControl_cons_of_some hstep, List.mem_append] at hr
      rcases hr with hnow | hlater
      · -- the answer of this message, from the key held before it
        rcases maxDurationMs_eq_some (hanswer r (Option.mem_toList.mp hnow)) with
          hdefault | ⟨config, key, hc, hkey, hd⟩
        · exact .inl hdefault
        · exact .inr ⟨config, key, hc, .inl hkey, hd⟩
      · rcases ih s' hlater with hdefault | ⟨config, key, hc, hsent, hd⟩
        · exact .inl hdefault
        · exact .inr ⟨config, key, hconfig ▸ hc, SentKey.cons hstep hsent, hd⟩

end Runs

/-! ### A key of the client's choice -/

/-- `StartSurveySession` with a key stores it as it is: nothing compares it with
`magic_keys`. -/
theorem handleStartSurveySession_of_key (s : DataChannelState μ) (surveySessionId key : List Char)
    (nowMs : Nat) :
    (handleStartSurveySession s ⟨surveySessionId, s.session.connId, some key⟩ nowMs).session =
      { s.session with surveySessionId, magicKey := some key } := by
  simp only [handleStartSurveySession, ne_eq, not_true_eq_false, if_false]

theorem findSession_handleStartSurveySession (s : DataChannelState μ)
    (surveySessionId key : List Char) (nowMs : Nat) {db : SurveyDb μ}
    (hdb : s.sessionManager = some db)
    (hfresh : surveySessionId ∉ db.sessions.map SurveySessionRow.sessionId) :
    (handleStartSurveySession s ⟨surveySessionId, s.session.connId, some key⟩ nowMs).sessionManager.bind
        (·.findSession surveySessionId) =
      some (SurveyDb.newSessionRow surveySessionId key none nowMs) := by
  obtain ⟨db', hdb'⟩ : ∃ db', db.createSession surveySessionId key none nowMs = some db' :=
    ⟨_, dif_neg hfresh⟩
  simp only [handleStartSurveySession, ne_eq, not_true_eq_false, if_false, hdb, Option.map_some,
    hdb', Option.getD_some, Option.bind_some]
  exact db.findSession_createSession hdb'

/-- `GetMeasuringTime` on a session holding `key` answers with the limit of `key`, or panics
when it does not fit in `u64` milliseconds. -/
theorem handleGetMeasuringTime_of_key {session : ClientSession} {config : MagicKeyConfig}
    {key : List Char} (hconfig : session.magicKeyConfig = some config)
    (hkey : session.magicKey = some key) (surveySessionId : List Char) :
    handleGetMeasuringTime session ⟨session.connId, surveySessionId⟩ =
      if config.getMaxMeasuringTimeSeconds key * 1000 < 2 ^ 64 then
        some (if session.controlOpen then
          some ⟨session.connId, session.surveySessionId,
            config.getMaxMeasuringTimeSeconds key * 1000⟩ else none)
      else none := by
  have hseconds : session.maxMeasuringSeconds = some (config.getMaxMeasuringTimeSeconds key) := by
    simp only [maxMeasuringSeconds, hconfig, hkey]
  simp only [handleGetMeasuringTime, ne_eq, not_true_eq_false, if_false, maxDurationMs, hseconds]
  by_cases hfit : config.getMaxMeasuringTimeSeconds key * 1000 < 2 ^ 64
  · rw [if_pos hfit, if_pos hfit, Option.map_some]
  · rw [if_neg hfit, if_neg hfit, Option.map_none]

/-- After `StartProbeStreams` at `t0`, the probe sender goes on at `now` exactly while the streams
have run for less than the stored key's limit, and forever without a key. -/
theorem probeSenderCheck_handleStartProbeStreams (session : ClientSession)
    (surveySessionId : List Char) (t0 now : Nat) :
    (probeSenderCheck (handleStartProbeStreams session ⟨session.connId, surveySessionId⟩ t0)
        now).2 =
      match session.maxMeasuringSeconds with
      | some seconds => decide (now - t0 < seconds * 1000)
      | none => true := by
  have hkeeps := keepsKey_updateSurveySessionId session surveySessionId
  have hseconds : (session.updateSurveySessionId surveySessionId).maxMeasuringSeconds =
      session.maxMeasuringSeconds := by
    simp only [maxMeasuringSeconds, hkeeps.magicKey, hkeeps.magicKeyConfig]
  simp only [handleStartProbeStreams, ne_eq, not_true_eq_false, if_false, probeSenderCheck,
    Bool.not_true, Bool.false_eq_true, hseconds]
  cases session.maxMeasuringSeconds with
  | none => rfl
  | some seconds =>
    by_cases hover : seconds * 1000 ≤ now - t0
    · simp [hover]
    · simp [hover, Nat.lt_of_not_le hover]

/-- The measuring limit is the client's to choose. Over any run the stored key, and the key of
every limit that `GetMeasuringTime` grants, is one the client's own messages sent; and one
`StartSurveySession` naming any key, configured or not, stores it, files the survey under it and
makes `GetMeasuringTime` and the probe sender grant that key's limit. -/
theorem client_chooses_measuring_limit (s : DataChannelState μ) (config : MagicKeyConfig)
    (hconfig : s.session.magicKeyConfig = some config) :
    (∀ msgs key, (runControl s msgs).1.session.magicKey = some key → SentKey s msgs key) ∧
    (∀ msgs, ∀ r ∈ (runControl s msgs).2, r.maxDurationMs = defaultMeasuringTimeMs ∨
      ∃ key, SentKey s msgs key ∧
        r.maxDurationMs = config.getMaxMeasuringTimeSeconds key * 1000) ∧
    ∀ (surveySessionId key otherId : List Char) (nowMs t0 now : Nat),
      let s1 := handleStartSurveySession s ⟨surveySessionId, s.session.connId, some key⟩ nowMs
      s1.session.magicKey = some key ∧
      handleGetMeasuringTime s1.session ⟨s.session.connId, otherId⟩ =
        (if config.getMaxMeasuringTimeSeconds key * 1000 < 2 ^ 64 then
          some (if s.session.controlOpen then
            some ⟨s.session.connId, surveySessionId,
              config.getMaxMeasuringTimeSeconds key * 1000⟩ else none)
        else none) ∧
      (probeSenderCheck (handleStartProbeStreams s1.session ⟨s.session.connId, otherId⟩ t0)
        now).2 = decide (now - t0 < config.getMaxMeasuringTimeSeconds key * 1000) ∧
      ∀ db, s.sessionManager = some db →
        surveySessionId ∉ db.sessions.map SurveySessionRow.sessionId →
        (s1.sessionManager.bind (·.findSession surveySessionId)).map SurveySessionRow.magicKey =
          some key := by
  refine ⟨fun msgs key h => magicKey_runControl s msgs h, ?_, ?_⟩
  · intro msgs r hr
    rcases maxDurationMs_runControl s msgs hr with hdefault | ⟨config', key, hc, hsent, hd⟩
    · exact .inl hdefault
    · rw [hconfig, Option.some.injEq] at hc
      exact .inr ⟨key, hsent, hc ▸ hd⟩
  · intro surveySessionId key otherId nowMs t0 now
    dsimp only
    have hs1 := handleStartSurveySession_of_key s surveySessionId key nowMs
    have hkey1 : (handleStartSurveySession s ⟨surveySessionId, s.session.connId, some key⟩
        nowMs).session.magicKey = some key := by rw [hs1]
    have hconfig1 : (handleStartSurveySession s ⟨surveySessionId, s.session.connId, some key⟩
        nowMs).session.magicKeyConfig = some config := by rw [hs1]; exact hconfig
    refine ⟨hkey1, ?_, ?_, ?_⟩
    · have hanswer := handleGetMeasuringTime_of_key hconfig1 hkey1 otherId
      rw [hs1] at hanswer ⊢
      exact hanswer
    · have hseconds : (handleStartSurveySession s ⟨surveySessionId, s.session.connId, some key⟩
          nowMs).session.maxMeasuringSeconds = some (config.getMaxMeasuringTimeSeconds key) := by
        simp only [maxMeasuringSeconds, hconfig1, hkey1]
      have hcheck := probeSenderCheck_handleStartProbeStreams
        (handleStartSurveySession s ⟨surveySessionId, s.session.connId, some key⟩ nowMs).session
        otherId t0 now
      rw [hseconds, hs1] at hcheck
      rw [hs1]
      exact hcheck
    · intro db hdb hfresh
      rw [findSession_handleStartSurveySession s surveySessionId key nowMs hdb hfresh]
      rfl

/-- Magic keys on with the one key `DEMO`, whose built-in limit is 120 seconds. -/
def demoConfig : MagicKeyConfig :=
  { MagicKeyConfig.default with enabled := true, magicKeys := ["DEMO".toList] }

/-- The connection `c` of a client that passed the survey cookie check, with an empty survey
database. -/
def demoSession : DataChannelState Unit where
  session := ⟨"c".toList, [], none, some demoConfig, true, false, none, none⟩
  sessionManager := some ⟨[], [], [], List.nodup_nil, List.nodup_nil⟩

theorem client_chooses_measuring_limit_demo :
    demoSession.session.magicKeyConfig = some demoConfig ∧
      ((∀ msgs key, (runControl demoSession msgs).1.session.magicKey = some key →
        SentKey demoSession msgs key) ∧
      (∀ msgs, ∀ r ∈ (runControl demoSession msgs).2, r.maxDurationMs = defaultMeasuringTimeMs ∨
        ∃ key, SentKey demoSession msgs key ∧
          r.maxDurationMs = demoConfig.getMaxMeasuringTimeSeconds key * 1000) ∧
      ∀ (surveySessionId key otherId : List Char) (nowMs t0 now : Nat),
        let s1 := handleStartSurveySession demoSession
          ⟨surveySessionId, demoSession.session.connId, some key⟩ nowMs
        s1.session.magicKey = some key ∧
        handleGetMeasuringTime s1.session ⟨demoSession.session.connId, otherId⟩ =
          (if demoConfig.getMaxMeasuringTimeSeconds key * 1000 < 2 ^ 64 then
            some (if demoSession.session.controlOpen then
              some ⟨demoSession.session.connId, surveySessionId,
                demoConfig.getMaxMeasuringTimeSeconds key * 1000⟩ else none)
          else none) ∧
        (probeSenderCheck
          (handleStartProbeStreams s1.session ⟨demoSession.session.connId, otherId⟩ t0) now).2 =
            decide (now - t0 < demoConfig.getMaxMeasuringTimeSeconds key * 1000) ∧
        ∀ db, demoSession.sessionManager = some db →
          surveySessionId ∉ db.sessions.map SurveySessionRow.sessionId →
          (s1.sessionManager.bind (·.findSession surveySessionId)).map
            SurveySessionRow.magicKey = some key) :=
  ⟨rfl, client_chooses_measuring_limit demoSession demoConfig rfl⟩

/-- The survey key `DEMO` in the cookie, the unconfigured key `FREE` in the message. -/
def forgedKeyTrace : List (Nat × ControlMessage) :=
  [(0, .startSurveySession ⟨"survey_DEMO_1700000000_u".toList, "c".toList, some "FREE".toList⟩),
    (0, .getMeasuringTime ⟨"c".toList, []⟩), (0, .startProbeStreams ⟨"c".toList, []⟩)]

/-- No `StartSurveySession` at all. -/
def keylessTrace : List (Nat × ControlMessage) :=
  [(0, .getMeasuringTime ⟨"c".toList, []⟩), (0, .startProbeStreams ⟨"c".toList, []⟩)]

/-- A client whose cookie carries the 120-second key `DEMO` gets 3600 seconds by naming the
unconfigured key `FREE`, and its survey is filed under `FREE`; without a key it is told
10,000,000 ms and no limit is enforced. -/
theorem forged_magic_key_raises_limit :
    validateSurveySession "survey_DEMO_1700000000_u".toList demoConfig 1700000100 = true ∧
    demoConfig.getMaxMeasuringTimeSeconds "DEMO".toList = 120 ∧
    "FREE".toList ∉ demoConfig.magicKeys ∧
    (runControl demoSession forgedKeyTrace).1.session.magicKey = some "FREE".toList ∧
    (runControl demoSession forgedKeyTrace).2.map (·.maxDurationMs) = [3600000] ∧
    (runControl demoSession forgedKeyTrace).1.session.maxMeasuringDuration = some 3600 ∧
    ((runControl demoSession forgedKeyTrace).1.sessionManager.bind
      (·.findSession "survey_DEMO_1700000000_u".toList)).map SurveySessionRow.magicKey =
        some "FREE".toList ∧
    (runControl demoSession keylessTrace).2.map (·.maxDurationMs) = [10000000] ∧
    (runControl demoSession keylessTrace).1.session.maxMeasuringDuration = none := by
  decide

/-! ### Client text in the logs and file names -/

/-- A text body panics the handler exactly when it is longer than 200 bytes and byte 200 is not
where a character starts; one that fits and does not parse panics the same way at byte 100. -/
theorem controlMessageIntake_eq_none_iff (text : List Char) (parsed : Option ControlMessage) :
    controlMessageIntake (some text) parsed = none ↔
      bytePrefix 200 text = none ∨ (parsed = none ∧ bytePrefix 100 text = none) := by
  unfold controlMessageIntake
  cases hlong : bytePrefix 200 text with
  | none => simp [hlong]
  | some preview =>
    cases parsed with
    | some msg => simp [hlong]
    | none => cases hshort : bytePrefix 100 text <;> simp [hlong, hshort]

/-- `k` letters and a character of two bytes, which straddles byte `k + 1`. -/
theorem bytePrefix_straddled (k : Nat) : bytePrefix (k + 1) (List.replicate k 'a' ++ ['é']) = none := by
  have ha : 'a'.utf8Size = 1 := by decide
  have he : 'é'.utf8Size = 2 := by decide
  have hlen : utf8Len (List.replicate k 'a' ++ ['é']) = k + 2 := by
    simp [utf8Len, List.sum_replicate, ha, he]
  unfold bytePrefix
  rw [hlen, if_pos (by omega), sliceTo_replicate_append ha k 1]
  rfl

/-- Texts of 201 and 101 bytes whose last character, of two bytes, straddles byte 200 and byte
100. -/
def straddled200 : List Char := List.replicate 199 'a' ++ ['é']

def straddled100 : List Char := List.replicate 99 'a' ++ ['é']

/-- A survey session id with a two-byte character over byte 8. -/
def straddledSessionId : List Char := "1234567é".toList

theorem client_text_slices_panic :
    (∀ parsed, controlMessageIntake (some straddled200) parsed = none) ∧
    controlMessageIntake (some straddled100) none = none ∧
    (∀ (svc : PacketCaptureService) now, svc.config.enabled = true →
      downloadPcapForSession svc now straddledSessionId = .panicked) ∧
    (∀ (svc : DtlsKeylogService) now, svc.config.enabled = true →
      svc.generateKeylogFile straddledSessionId ≠ [] →
        downloadKeylogForSession svc now straddledSessionId = .panicked) := by
  have h200 : bytePrefix 200 straddled200 = none := bytePrefix_straddled 199
  have h100 : bytePrefix 100 straddled100 = none := bytePrefix_straddled 99
  have hshort : shortSessionId straddledSessionId = none := by decide
  refine ⟨fun parsed => (controlMessageIntake_eq_none_iff _ _).mpr (.inl h200),
    (controlMessageIntake_eq_none_iff _ _).mpr (.inr ⟨rfl, h100⟩), ?_, ?_⟩
  · intro svc now henabled
    have hne : straddledSessionId.isEmpty = false := by decide
    simp only [downloadPcapForSession, henabled, Bool.not_true, Bool.false_eq_true, if_false, hne,
      hshort]
  · intro svc now henabled hkeys
    have hne : straddledSessionId.isEmpty = false := by decide
    have hkeys' : (svc.generateKeylogFile straddledSessionId).isEmpty = false :=
      List.isEmpty_eq_false_iff.mpr hkeys
    simp only [downloadKeylogForSession, henabled, Bool.not_true, Bool.false_eq_true, if_false, hne,
      hkeys', hshort]

end DataChannel

end Netpoke
