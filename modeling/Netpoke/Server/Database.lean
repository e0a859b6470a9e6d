import Mathlib

/-!
# The survey database

The tables of `migrations/001_survey_upload_schema.sql` that the analyst and upload handlers
read and write, a row a record with the columns those handlers use. The primary keys
`session_id` and `recording_id` are fields of `SurveyDb`, so that every table the model builds
keeps them. A `WHERE` is a filter and a `query_row` the first row found, which the primary key
makes the only one. Time columns are milliseconds since the Unix epoch.

The files the rows name are a map from paths to contents (`Files`).
-/

namespace Netpoke

/-- A row of `survey_sessions`, with the columns the handlers use. -/
structure SurveySessionRow where
  sessionId : List Char
  magicKey : List Char
  userLogin : Option (List Char)
  startTime : Int
  lastUpdateTime : Int
  pcapPath : Option (List Char)
  keylogPath : Option (List Char)
  deleted : Bool
  deriving DecidableEq, Repr

/-- A row of `recordings`, with the columns the handlers use. -/
structure RecordingRow where
  recordingId : List Char
  sessionId : List Char
  videoPath : List Char
  sensorPath : List Char
  videoSizeBytes : Int
  sensorSizeBytes : Int
  videoUploadedBytes : Int
  sensorUploadedBytes : Int
  uploadStatus : List Char
  deviceInfoJson : Option (List Char)
  userNotes : Option (List Char)
  createdAt : Int
  completedAt : Option Int
  deleted : Bool
  deriving DecidableEq, Repr

/-- A row of `survey_metrics`. The handler copies the measured columns, which are `values`,
without reading them. -/
structure MetricRow (μ : Type) where
  sessionId : List Char
  timestampMs : Int
  source : List Char
  connId : Option (List Char)
  direction : Option (List Char)
  values : μ
  deleted : Bool
  deriving DecidableEq, Repr

/-- The tables with their primary keys `session_id` and `recording_id`. -/
structure SurveyDb (μ : Type) where
  sessions : List SurveySessionRow
  recordings : List RecordingRow
  metrics : List (MetricRow μ)
  sessions_nodup : (sessions.map SurveySessionRow.sessionId).Nodup
  recordings_nodup : (recordings.map RecordingRow.recordingId).Nodup

/-- The readable files and their contents. -/
abbrev Files := List Char → Option (List UInt8)

namespace SurveyDb

variable {μ : Type} (db : SurveyDb μ)

/-- `SELECT .. FROM survey_sessions WHERE session_id = ? AND deleted = 0`. -/
def findSession (sessionId : List Char) : Option SurveySessionRow :=
  db.sessions.find? fun s => s.sessionId == sessionId && !s.deleted

/-- The row `SurveySessionManager::create_session` inserts at the time `nowMs`. -/
def newSessionRow (sessionId magicKey : List Char) (userLogin : Option (List Char))
    (nowMs : Int) : SurveySessionRow :=
  ⟨sessionId, magicKey, userLogin, nowMs, nowMs, none, none, false⟩

/-- `SurveySessionManager::create_session`: the `INSERT`, which the primary key refuses with an
`Err` when a row of the id exists, deleted or not. -/
def createSession (sessionId magicKey : List Char) (userLogin : Option (List Char))
    (nowMs : Int) : Option (SurveyDb μ) :=
  if h : sessionId ∈ db.sessions.map SurveySessionRow.sessionId then none
  else some
    { db with
      sessions := db.sessions ++ [newSessionRow sessionId magicKey userLogin nowMs]
      sessions_nodup := by
        rw [List.map_append, List.map_singleton]
        exact db.sessions_nodup.append (List.nodup_singleton _)
          (List.disjoint_singleton.mpr h) }

theorem findSession_createSession {sessionId magicKey : List Char}
    {userLogin : Option (List Char)} {nowMs : Int} {db' : SurveyDb μ}
    (h : db.createSession sessionId magicKey userLogin nowMs = some db') :
    db'.findSession sessionId = some (newSessionRow sessionId magicKey userLogin nowMs) := by
  unfold createSession at h
  split at h
  · cases h
  rename_i hfresh
  cases h
  have hold : db.sessions.find? (fun s => s.sessionId == sessionId && !s.deleted) = none := by
    rw [List.find?_eq_none]
    intro s hs hmatch
    simp only [Bool.and_eq_true, beq_iff_eq] at hmatch
    exact hfresh (List.mem_map.mpr ⟨s, hs, hmatch.1⟩)
  simp [findSession, List.find?_append, hold, newSessionRow]

end SurveyDb

end Netpoke
