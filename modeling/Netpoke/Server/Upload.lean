import Netpoke.Library.LexicalPath
import Netpoke.Library.CivilDate
import Netpoke.Server.Database
import Netpoke.Server.Http
import Netpoke.Library.FloatArith

/-!
# Uploading survey recordings

`server/src/upload_api.rs`. `prepare_upload` checks that the survey session exists, builds
the session's directory `storage_base_path/magic_key/YYYY/MM/DD/session_id` with
`PathBuf::join`, and stores `recording_id.webm` and `recording_id.json` in it as the paths of
the recording; `upload_chunk` writes a chunk into the file at the path stored for the
recording it names, opened with `create(true)`; `finalize_upload` checks the files against the
client's checksums. The magic key and session id of a session are the strings its client sent
in `StartSurveySession`, and the recording id is the one of the request body; nothing checks
any of them.

`PathBuf::join` replaces the path when its argument is absolute and keeps `..`, so a recording
id like `/tmp/x` makes `prepare_upload` store `/tmp/x.webm`, which `upload_chunk` then creates
and writes (`upload_path_escapes_storage`). When the magic keys and session ids of the
sessions are not `..` and have no separator, and the recording ids have none, every path
`prepare_upload` stores is strictly inside the storage root once normalised, and over every
run of upload requests `upload_chunk` writes nothing outside it (`upload_storage_confined`).

The handlers take the connection lock once for each statement; a run is modelled with the
requests one after the other. Creating directories and opening for writing succeed as the
operating system answers (`UploadEnv`), and `calculate_checksum` is the SHA-256 digest in
lowercase hex. A read of a file returns a whole chunk while there are bytes left, and the chunk
count of `calculate_file_checksums`, computed in `f64`, is the exact ceiling, as it is for
every size below 2^53.
-/

namespace Netpoke

open CharList LexicalPath CivilDate

/-- `UploadState` without the connection: the storage root. -/
structure UploadState where
  storageBasePath : List Char
  deriving DecidableEq, Repr

/-- What the handlers get from the operating system and from `sha2`. -/
structure UploadEnv where
  /-- `tokio::fs::create_dir_all` succeeds -/
  createDirAll : List Char → Bool
  /-- `OpenOptions::new().create(true).write(true).open` succeeds -/
  openForWrite : List Char → Bool
  /-- `calculate_checksum` -/
  calculateChecksum : List UInt8 → List Char

/-- How an upload handler fails: a status with the `error` of its `UploadError`, or a panic. -/
inductive UploadFailure
  | error (status : StatusCode) (message : List Char)
  | panicked
  deriving DecidableEq, Repr

def databaseUnavailable : UploadFailure :=
  .error .serviceUnavailable "Upload feature is unavailable - database not configured".toList

def chunkSize : Nat := 1048576

/-! ### Recording rows -/

namespace SurveyDb

variable {μ : Type} (db : SurveyDb μ)

/-- `SELECT magic_key, start_time FROM survey_sessions WHERE session_id = ?`. -/
def sessionDetails (sessionId : List Char) : Option (List Char × Int) :=
  (db.sessions.find? fun s => s.sessionId == sessionId).map fun s => (s.magicKey, s.startTime)

/-- `SELECT .. FROM recordings WHERE recording_id = ?`. -/
def findRecording (recordingId : List Char) : Option RecordingRow :=
  db.recordings.find? fun r => r.recordingId == recordingId

theorem map_recordingId_map {f : RecordingRow → RecordingRow}
    (hf : ∀ r, (f r).recordingId = r.recordingId) (l : List RecordingRow) :
    (l.map f).map RecordingRow.recordingId = l.map RecordingRow.recordingId := by
  rw [List.map_map]
  exact List.map_congr_left fun r _ => hf r

/-- An `UPDATE recordings SET .. WHERE recording_id = ?`, which keeps the key. -/
def updateRecording (recordingId : List Char) (f : RecordingRow → RecordingRow)
    (hf : ∀ r, (f r).recordingId = r.recordingId) : SurveyDb μ :=
  { db with
    recordings := db.recordings.map fun r => if r.recordingId == recordingId then f r else r
    recordings_nodup := by
      rw [map_recordingId_map (fun r => by split <;> simp [hf])]
      exact db.recordings_nodup }

theorem nodup_snoc_key {row : RecordingRow}
    (hnew : (db.recordings.any fun r => r.recordingId == row.recordingId) = false) :
    ((db.recordings ++ [row]).map RecordingRow.recordingId).Nodup := by
  rw [List.map_append, List.nodup_append]
  refine ⟨db.recordings_nodup, List.nodup_singleton _, ?_⟩
  intro a ha b hb hab
  obtain ⟨r, hr, rfl⟩ := List.mem_map.mp ha
  rw [List.map_singleton, List.mem_singleton] at hb
  subst hb
  exact List.any_eq_false.mp hnew r hr (by simpa using hab)

/-- The `INSERT .. ON CONFLICT(recording_id) DO UPDATE SET video_uploaded_bytes = ?,
sensor_uploaded_bytes = ?, user_notes = COALESCE(?, user_notes)` of `prepare_upload`. -/
def upsertRecording (row : RecordingRow) : SurveyDb μ :=
  if hnew : (db.recordings.any fun r => r.recordingId == row.recordingId) = false then
    { db with recordings := db.recordings ++ [row], recordings_nodup := db.nodup_snoc_key hnew }
  else
    db.updateRecording row.recordingId
      (fun r => { r with videoUploadedBytes := row.videoUploadedBytes,
                         sensorUploadedBytes := row.sensorUploadedBytes,
                         userNotes := row.userNotes.or r.userNotes })
      fun _ => rfl

/-- The rows of `db'` have the paths of the rows of `db`. -/
def PathsFrom (db' : SurveyDb μ) : Prop :=
  ∀ r ∈ db'.recordings, ∃ r₀ ∈ db.recordings, r.videoPath = r₀.videoPath ∧
    r.sensorPath = r₀.sensorPath

theorem pathsFrom_updateRecording {recordingId : List Char} {f : RecordingRow → RecordingRow}
    {hf : ∀ r, (f r).recordingId = r.recordingId}
    (hpaths : ∀ r, (f r).videoPath = r.videoPath ∧ (f r).sensorPath = r.sensorPath) :
    db.PathsFrom (db.updateRecording recordingId f hf) := by
  intro r hr
  obtain ⟨r₀, hr₀, rfl⟩ := List.mem_map.mp hr
  refine ⟨r₀, hr₀, ?_⟩
  split
  · exact hpaths r₀
  · exact ⟨rfl, rfl⟩

theorem sessions_upsertRecording {row : RecordingRow} :
    (db.upsertRecording row).sessions = db.sessions := by
  unfold upsertRecording
  split <;> rfl

/-- After the upsert every row has the paths of the new row or of a row that was there. -/
theorem paths_upsertRecording {row : RecordingRow} :
    ∀ r ∈ (db.upsertRecording row).recordings,
      (r.videoPath = row.videoPath ∧ r.sensorPath = row.sensorPath) ∨
        ∃ r₀ ∈ db.recordings, r.videoPath = r₀.videoPath ∧ r.sensorPath = r₀.sensorPath := by
  unfold upsertRecording
  split
  · intro r hr
    rcases List.mem_append.mp hr with hold | hrow
    · exact .inr ⟨r, hold, rfl, rfl⟩
    · rw [List.mem_singleton.mp hrow]
      exact .inl ⟨rfl, rfl⟩
  · -- a conflict only updates the byte counts and the notes
    exact fun r hr => .inr (db.pathsFrom_updateRecording (by intro _; exact ⟨rfl, rfl⟩) r hr)

end SurveyDb

/-! ### Prepare -/

/-- `PrepareUploadRequest`; `device_info` is the JSON text `serde_json::to_string` makes of it,
which cannot fail for a `Value`. -/
structure PrepareUploadRequest where
  sessionId : List Char
  recordingId : List Char
  videoSizeBytes : Nat
  sensorSizeBytes : Nat
  deviceInfo : List Char
  userNotes : Option (List Char)
  deriving DecidableEq, Repr

structure ChunkInfo where
  chunkIndex : Nat
  checksum : List Char
  deriving DecidableEq, Repr

structure PrepareUploadResponse where
  recordingId : List Char
  videoChunks : List (Option ChunkInfo)
  sensorChunks : List (Option ChunkInfo)
  videoUploadedBytes : Nat
  sensorUploadedBytes : Nat
  deriving DecidableEq, Repr

/-- `((total_size as f64) / CHUNK_SIZE as f64).ceil() as usize`. `CHUNK_SIZE` is a power of two,
so the division of the rounded size is exact, and the ceiling rounds the quotient up. -/
def numChunks (totalSize : Nat) : Nat :=
  (roundSig 53 totalSize + chunkSize - 1) / chunkSize

/-- `calculate_file_checksums`: nothing for a missing file, else one checksum for each of the
`num_chunks` chunks that has bytes. -/
def calculateFileChecksums (calculateChecksum : List UInt8 → List Char) (files : Files)
    (filePath : List Char) (totalSize : Nat) : List (Option (List Char)) :=
  match files filePath with
  | none => []
  | some data =>
    (List.range (numChunks totalSize)).map fun i =>
      let chunk := (data.drop (i * chunkSize)).take chunkSize
      if chunk.isEmpty then none else some (calculateChecksum chunk)

/-- The `ChunkInfo`s of the checksums, numbered from 0. -/
def chunkInfos (checksums : List (Option (List Char))) : List (Option ChunkInfo) :=
  checksums.mapIdx fun idx checksum => checksum.map (ChunkInfo.mk idx)

/-- `session_dir`: `storage_base_path/magic_key/YYYY/MM/DD/session_id`. -/
def sessionDir (storageBasePath magicKey : List Char) (date : Int × Nat × Nat)
    (sessionId : List Char) : List Char :=
  join (join (join (join (join storageBasePath magicKey) (formatYear date.1))
    (padDigits 2 date.2.1)) (padDigits 2 date.2.2)) sessionId

/-- `prepare_upload` at the time `now`, on the files as they are. -/
def prepareUpload {μ : Type} (state : UploadState) (env : UploadEnv) (files : Files) (now : Int)
    (db : Option (SurveyDb μ)) (req : PrepareUploadRequest) :
    Except UploadFailure (SurveyDb μ × PrepareUploadResponse) := do
  let some db := db | throw databaseUnavailable
  -- step 1: `COUNT(*) .. WHERE session_id = ? AND deleted = 0`
  if (db.sessions.filter fun s => s.sessionId == req.sessionId && !s.deleted).length = 0 then
    throw (.error .notFound ("Session not found: ".toList ++ req.sessionId))
  -- step 2
  let some (magicKey, startTime) := db.sessionDetails req.sessionId
    | throw (.error .internalServerError "Database error".toList)
  -- step 3
  let some date := fromTimestampMillis startTime
    | throw (.error .internalServerError "Invalid session timestamp".toList)
  let dir := sessionDir state.storageBasePath magicKey date req.sessionId
  if !env.createDirAll dir then
    throw (.error .internalServerError "Failed to create storage directory".toList)
  let videoPath := join dir (req.recordingId ++ ".webm".toList)
  let sensorPath := join dir (req.recordingId ++ ".json".toList)
  -- step 4
  let videoChunks := chunkInfos
    (calculateFileChecksums env.calculateChecksum files videoPath req.videoSizeBytes)
  let sensorChunks := chunkInfos
    (calculateFileChecksums env.calculateChecksum files sensorPath req.sensorSizeBytes)
  let videoUploadedBytes := ((files videoPath).map List.length).getD 0
  let sensorUploadedBytes := ((files sensorPath).map List.length).getD 0
  -- step 5: rusqlite refuses a `u64` above `i64::MAX`
  if req.videoSizeBytes ≥ 2 ^ 63 ∨ req.sensorSizeBytes ≥ 2 ^ 63 then
    throw (.error .internalServerError "Failed to create recording".toList)
  let row : RecordingRow :=
    { recordingId := req.recordingId, sessionId := req.sessionId, videoPath, sensorPath,
      videoSizeBytes := req.videoSizeBytes, sensorSizeBytes := req.sensorSizeBytes,
      videoUploadedBytes := videoUploadedBytes, sensorUploadedBytes := sensorUploadedBytes,
      uploadStatus := "uploading".toList, deviceInfoJson := some req.deviceInfo,
      userNotes := req.userNotes, createdAt := now, completedAt := none, deleted := false }
  return (db.upsertRecording row,
    { recordingId := req.recordingId, videoChunks, sensorChunks, videoUploadedBytes,
      sensorUploadedBytes })

/-! ### Chunks -/

structure ChunkUploadResponse where
  status : List Char
  chunkIndex : Nat
  bytesReceived : Nat
  deriving DecidableEq, Repr

/-- A header as text: `headers.get(name).and_then(|v| v.to_str().ok())`, with the names
lowercase as `HeaderMap` keeps them. -/
def headerStr (headers : List (List Char × List Char)) (name : List Char) : Option (List Char) :=
  (headers.lookup name).bind headerToStr

/-- The file after writing `bytes` at `offset`, past its end after zeros. -/
def writeAt (data bytes : List UInt8) (offset : Nat) : List UInt8 :=
  data.take offset ++ List.replicate (offset - data.length) 0 ++ bytes ++
    data.drop (offset + bytes.length)

/-- Steps 0 to 3 of `upload_chunk`: the database, recording id, file type, chunk index and the
path stored for the file. -/
def chunkTarget {μ : Type} (env : UploadEnv) (db : Option (SurveyDb μ))
    (headers : List (List Char × List Char)) (body : List UInt8) :
    Except UploadFailure (SurveyDb μ × List Char × List Char × Nat × List Char) := do
  let some db := db | throw databaseUnavailable
  let some recordingId := headerStr headers "x-recording-id".toList
    | throw (.error .badRequest "Missing X-Recording-Id header".toList)
  let some fileType := headerStr headers "x-file-type".toList
    | throw (.error .badRequest "Missing X-File-Type header".toList)
  if fileType != "video".toList && fileType != "sensor".toList then
    throw (.error .badRequest ("Invalid file type: ".toList ++ fileType))
  let some chunkIndex := (headerStr headers "x-chunk-index".toList).bind (parseUnsigned (2 ^ 64))
    | throw (.error .badRequest "Missing or invalid X-Chunk-Index header".toList)
  let some expectedChecksum := headerStr headers "x-chunk-checksum".toList
    | throw (.error .badRequest "Missing X-Chunk-Checksum header".toList)
  if env.calculateChecksum body != expectedChecksum then
    throw (.error .badRequest "Checksum mismatch".toList)
  -- the `_` arm of the column match is unreachable after the check above
  let column := if fileType = "video".toList then RecordingRow.videoPath else RecordingRow.sensorPath
  let some filePath := (db.findRecording recordingId).map column
    | throw (.error .notFound ("Recording not found: ".toList ++ recordingId))
  return (db, recordingId, fileType, chunkIndex, filePath)

/-- The `UPDATE recordings SET video_uploaded_bytes = MAX(video_uploaded_bytes, ?)` (or the
sensor's) of `upload_chunk`. -/
def SurveyDb.recordUploaded {μ : Type} (db : SurveyDb μ) (recordingId fileType : List Char)
    (uploaded : Nat) : SurveyDb μ :=
  db.updateRecording recordingId
    (fun r => if fileType = "video".toList then
        { r with videoUploadedBytes := max r.videoUploadedBytes uploaded }
      else { r with sensorUploadedBytes := max r.sensorUploadedBytes uploaded })
    fun r => by split <;> rfl

/-- `upload_chunk`: the files after it, which keep a chunk written before a later failure, and
its answer with the database. -/
def uploadChunk {μ : Type} (env : UploadEnv) (files : Files) (db : Option (SurveyDb μ))
    (headers : List (List Char × List Char)) (body : List UInt8) :
    Files × Except UploadFailure (SurveyDb μ × ChunkUploadResponse) :=
  match chunkTarget env db headers body with
  | .error failure => (files, .error failure)
  | .ok (db, recordingId, fileType, chunkIndex, filePath) =>
    if !env.openForWrite filePath then
      (files, .error (.error .internalServerError "Failed to open file for writing".toList))
    -- `chunk_index * CHUNK_SIZE` overflows `usize`
    else if chunkIndex * chunkSize ≥ 2 ^ 64 then (files, .error .panicked)
    else
      let offset := chunkIndex * chunkSize
      let files :=
        Function.update files filePath (some (writeAt ((files filePath).getD []) body offset))
      let newUploaded := offset + body.length
      -- `offset + bytes_received as u64` overflows
      if newUploaded ≥ 2 ^ 64 then (files, .error .panicked)
      else if newUploaded ≥ 2 ^ 63 then
        (files, .error (.error .internalServerError "Failed to update uploaded bytes".toList))
      else
        (files, .ok (db.recordUploaded recordingId fileType newUploaded,
          { status := "received".toList, chunkIndex, bytesReceived := body.length }))

/-! ### Finalize -/

structure FinalizeUploadRequest where
  recordingId : List Char
  videoFinalChecksum : List Char
  sensorFinalChecksum : List Char
  deriving DecidableEq, Repr

structure FinalizeUploadResponse where
  status : List Char
  videoVerified : Bool
  sensorVerified : Bool
  deriving DecidableEq, Repr

/-- `calculate_combined_checksum`: the digest of the UTF-8 bytes of the concatenated
checksums. -/
def calculateCombinedChecksum (calculateChecksum : List UInt8 → List Char)
    (checksums : List (List Char)) : List Char :=
  calculateChecksum (checksums.flatten.flatMap String.utf8EncodeChar)

/-- `finalize_upload` at the time `now`. The sizes are read as `i64` and cast `as u64`. -/
def finalizeUpload {μ : Type} (env : UploadEnv) (files : Files) (now : Int)
    (db : Option (SurveyDb μ)) (req : FinalizeUploadRequest) :
    Except UploadFailure (SurveyDb μ × FinalizeUploadResponse) := do
  let some db := db | throw databaseUnavailable
  let some r := db.findRecording req.recordingId
    | throw (.error .notFound ("Recording not found: ".toList ++ req.recordingId))
  let videoChecksums := (calculateFileChecksums env.calculateChecksum files r.videoPath
    (r.videoSizeBytes % 2 ^ 64).toNat).filterMap id
  let sensorChecksums := (calculateFileChecksums env.calculateChecksum files r.sensorPath
    (r.sensorSizeBytes % 2 ^ 64).toNat).filterMap id
  let videoVerified :=
    calculateCombinedChecksum env.calculateChecksum videoChecksums == req.videoFinalChecksum
  let sensorVerified :=
    calculateCombinedChecksum env.calculateChecksum sensorChecksums == req.sensorFinalChecksum
  let verified := videoVerified && sensorVerified
  let db :=
    db.updateRecording req.recordingId
      (fun r => if verified then { r with uploadStatus := "complete".toList, completedAt := some now }
        else { r with uploadStatus := "failed".toList })
      fun r => by split <;> rfl
  return (db, { status := if verified then "complete".toList else "failed".toList,
                videoVerified, sensorVerified })

/-! ### Runs of upload requests -/

inductive UploadCall
  | prepare (req : PrepareUploadRequest) (now : Int)
  | chunk (headers : List (List Char × List Char)) (body : List UInt8)
  | finalize (req : FinalizeUploadRequest) (now : Int)

def uploadStep {μ : Type} (state : UploadState) (env : UploadEnv) (s : SurveyDb μ × Files) :
    UploadCall → SurveyDb μ × Files
  | .prepare req now =>
    match prepareUpload state env s.2 now (some s.1) req with
    | .ok (db, _) => (db, s.2)
    | .error _ => s
  | .chunk headers body =>
    match uploadChunk env s.2 (some s.1) headers body with
    | (files, .ok (db, _)) => (db, files)
    | (files, .error _) => (s.1, files)
  | .finalize req now =>
    match finalizeUpload env s.2 now (some s.1) req with
    | .ok (db, _) => (db, s.2)
    | .error _ => s

def uploadRun {μ : Type} (state : UploadState) (env : UploadEnv) (s : SurveyDb μ × Files)
    (calls : List UploadCall) : SurveyDb μ × Files :=
  calls.foldl (uploadStep state env) s

/-! ### Paths stay in the storage root -/

/-- A magic key or session id that `PathBuf::join` keeps inside the directory it is joined to:
no separator, and not `..`. -/
def SafeName (name : List Char) : Prop :=
  '/' ∉ name ∧ name ≠ ['.', '.']

instance : DecidablePred SafeName := fun name =>
  inferInstanceAs (Decidable ('/' ∉ name ∧ name ≠ ['.', '.']))

/-- The requests whose recording ids have no separator. -/
def UploadCall.separatorFree : UploadCall → Bool
  | .prepare req _ => !req.recordingId.contains '/'
  | _ => true

/-- A recording path built from safe names and a recording id without separator is strictly
inside the storage root. -/
theorem strictlyInside_recordingPath {base magicKey sessionId recordingId ext : List Char}
    (date : Int × Nat × Nat) (hkey : SafeName magicKey) (hsid : SafeName sessionId)
    (hrid : '/' ∉ recordingId) (hext : ext = ".webm".toList ∨ ext = ".json".toList) :
    strictlyInside base (join (sessionDir base magicKey date sessionId) (recordingId ++ ext)) =
      true := by
  have hextSep : '/' ∉ ext := by rcases hext with rfl | rfl <;> decide
  have hextLen : ext.length = 5 := by rcases hext with rfl | rfl <;> rfl
  have hlen : (recordingId ++ ext).length ≥ 5 := by simp [hextLen]
  have hfile : '/' ∉ recordingId ++ ext := by
    rw [List.mem_append, not_or]
    exact ⟨hrid, hextSep⟩
  have hne : ∀ short : List Char, short.length < 5 → recordingId ++ ext ≠ short :=
    fun short hshort heq => by rw [heq] at hlen; omega
  have hyear := formatYear_noSep date.1
  have hmonth := padDigits_noSep 2 date.2.1
  have hday := padDigits_noSep 2 date.2.2
  have hdot : ∀ field : List Char, '.' ∉ field → field ≠ ['.', '.'] :=
    fun field hfield heq => hfield (heq ▸ List.mem_cons_self)
  apply strictlyInside_joinAll base
    [magicKey, formatYear date.1, padDigits 2 date.2.1, padDigits 2 date.2.2, sessionId,
      recordingId ++ ext]
  · simp only [List.mem_cons, List.not_mem_nil, or_false]
    rintro c (rfl | rfl | rfl | rfl | rfl | rfl)
    exacts [hkey.1, hyear.1, hmonth.1, hday.1, hsid.1, hfile]
  · simp only [List.mem_cons, List.not_mem_nil, or_false]
    rintro c (rfl | rfl | rfl | rfl | rfl | rfl)
    exacts [hkey.2, hdot _ hyear.2, hdot _ hmonth.2, hdot _ hday.2, hsid.2, hne _ (by decide)]
  · exact ⟨recordingId ++ ext, by simp, hne _ (by decide), hne _ (by decide)⟩

theorem sessionDetails_spec {μ : Type} {db : SurveyDb μ} {sessionId magicKey : List Char}
    {startTime : Int} (h : db.sessionDetails sessionId = some (magicKey, startTime)) :
    ∃ s ∈ db.sessions, s.sessionId = sessionId ∧ s.magicKey = magicKey := by
  obtain ⟨s, hs, hpair⟩ := Option.map_eq_some_iff.mp h
  exact ⟨s, List.mem_of_find?_eq_some hs, by simpa using List.find?_some hs,
    (Prod.mk.inj hpair).1⟩

/-- What an accepted `prepare_upload` does to the database: the sessions stay, and every row
has the paths built for the request's recording id in its session's directory, or the paths of
a row that was there. -/
theorem prepareUpload_ok {μ : Type} {state : UploadState} {env : UploadEnv} {files : Files}
    {now : Int} {db db' : SurveyDb μ} {req : PrepareUploadRequest}
    {response : PrepareUploadResponse}
    (h : prepareUpload state env files now (some db) req = .ok (db', response)) :
    db'.sessions = db.sessions ∧ ∃ s ∈ db.sessions, s.sessionId = req.sessionId ∧
      ∃ date, ∀ r ∈ db'.recordings,
        (r.videoPath = join (sessionDir state.storageBasePath s.magicKey date req.sessionId)
            (req.recordingId ++ ".webm".toList) ∧
          r.sensorPath = join (sessionDir state.storageBasePath s.magicKey date req.sessionId)
            (req.recordingId ++ ".json".toList)) ∨
        ∃ r₀ ∈ db.recordings, r.videoPath = r₀.videoPath ∧ r.sensorPath = r₀.sensorPath := by
  unfold prepareUpload at h
  dsimp only at h
  split at h
  · cases h
  · split at h
    · rename_i magicKey startTime hdetails
      split at h
      · rename_i date _
        split at h
        · cases h
        · split at h
          · cases h
          · cases h
            obtain ⟨s, hs, hsid, rfl⟩ := sessionDetails_spec hdetails
            exact ⟨db.sessions_upsertRecording, s, hs, hsid, date, db.paths_upsertRecording⟩
      · cases h
    · cases h

theorem chunkTarget_ok {μ : Type} {env : UploadEnv} {db db' : SurveyDb μ}
    {headers : List (List Char × List Char)} {body : List UInt8}
    {recordingId fileType filePath : List Char} {chunkIndex : Nat}
    (h : chunkTarget env (some db) headers body =
      .ok (db', recordingId, fileType, chunkIndex, filePath)) :
    db' = db ∧ ∃ r ∈ db.recordings, filePath = r.videoPath ∨ filePath = r.sensorPath := by
  unfold chunkTarget at h
  dsimp only at h
  split at h
  · split at h
    · split at h
      · cases h
      · split at h
        · split at h
          · split at h
            · cases h
            · split at h
              · rename_i path hpath
                cases h
                obtain ⟨r, hr, hcolumn⟩ := Option.map_eq_some_iff.mp hpath
                refine ⟨rfl, r, List.mem_of_find?_eq_some hr, ?_⟩
                rw [← hcolumn]
                split
                · exact .inl rfl
                · exact .inr rfl
              · cases h
          · cases h
        · cases h
    · cases h
  · cases h

/-- `upload_chunk` changes at most the file at the path stored for its recording. The lemmas
about it take the whole result as an equation: its offset is a product with the 1 MiB chunk
size, which the kernel unfolds digit by digit when it has to reduce a projection of the
result. -/
theorem uploadChunk_frame {μ : Type} {env : UploadEnv} {files files' : Files} {db : SurveyDb μ}
    {headers : List (List Char × List Char)} {body : List UInt8}
    {result : Except UploadFailure (SurveyDb μ × ChunkUploadResponse)}
    (h : uploadChunk env files (some db) headers body = (files', result)) {p : List Char}
    (hp : files' p ≠ files p) : ∃ r ∈ db.recordings, p = r.videoPath ∨ p = r.sensorPath := by
  unfold uploadChunk at h
  split at h
  · cases h
    exact absurd rfl hp
  · rename_i db' recordingId fileType chunkIndex filePath htarget
    obtain ⟨-, r, hr, hpath⟩ := chunkTarget_ok htarget
    have hwritten : p = filePath := by
      by_contra hne
      apply hp
      split at h
      · cases h
        rfl
      · split at h
        · cases h
          rfl
        · dsimp only at h
          split at h <;> (try split at h) <;>
            (cases h; exact Function.update_of_ne hne _ _)
    exact ⟨r, hr, hwritten ▸ hpath⟩

theorem uploadChunk_ok {μ : Type} {env : UploadEnv} {files files' : Files}
    {db db' : SurveyDb μ} {headers : List (List Char × List Char)} {body : List UInt8}
    {response : ChunkUploadResponse}
    (h : uploadChunk env files (some db) headers body = (files', .ok (db', response))) :
    db'.sessions = db.sessions ∧ db.PathsFrom db' := by
  unfold uploadChunk at h
  split at h
  · cases h
  · rename_i db'' recordingId fileType chunkIndex filePath htarget
    obtain ⟨rfl, -⟩ := chunkTarget_ok htarget
    split at h
    · cases h
    · split at h
      · cases h
      · dsimp only at h
        split at h
        · cases h
        · split at h
          · cases h
          · cases h
            exact ⟨rfl, db''.pathsFrom_updateRecording (fun r => by split <;> exact ⟨rfl, rfl⟩)⟩

theorem finalizeUpload_ok {μ : Type} {env : UploadEnv} {files : Files} {now : Int}
    {db db' : SurveyDb μ} {req : FinalizeUploadRequest} {response : FinalizeUploadResponse}
    (h : finalizeUpload env files now (some db) req = .ok (db', response)) :
    db'.sessions = db.sessions ∧ db.PathsFrom db' := by
  unfold finalizeUpload at h
  dsimp only at h
  split at h
  · cases h
    exact ⟨rfl, db.pathsFrom_updateRecording (fun r => by split <;> exact ⟨rfl, rfl⟩)⟩
  · cases h

/-- What keeps uploads in the storage root: sessions whose magic keys and ids are safe names,
and recording paths strictly inside the root. -/
structure UploadConfined {μ : Type} (base : List Char) (db : SurveyDb μ) : Prop where
  sessions_safe : ∀ s ∈ db.sessions, SafeName s.magicKey ∧ SafeName s.sessionId
  paths_inside : ∀ r ∈ db.recordings,
    strictlyInside base r.videoPath = true ∧ strictlyInside base r.sensorPath = true

theorem UploadConfined.of_pathsFrom {μ : Type} {base : List Char} {db db' : SurveyDb μ}
    (h : UploadConfined base db) (hsessions : db'.sessions = db.sessions)
    (hpaths : db.PathsFrom db') : UploadConfined base db' where
  sessions_safe := hsessions ▸ h.sessions_safe
  paths_inside r hr := by
    obtain ⟨r₀, hr₀, hvideo, hsensor⟩ := hpaths r hr
    rw [hvideo, hsensor]
    exact h.paths_inside r₀ hr₀

section Run

variable {μ : Type} {state : UploadState} {env : UploadEnv}

theorem uploadStep_confined {s : SurveyDb μ × Files} {call : UploadCall}
    (h : UploadConfined state.storageBasePath s.1) (hcall : call.separatorFree = true) :
    UploadConfined state.storageBasePath (uploadStep state env s call).1 ∧
      ∀ p, (uploadStep state env s call).2 p ≠ s.2 p →
        strictlyInside state.storageBasePath p = true := by
  cases call with
  | prepare req now =>
    have hrid : '/' ∉ req.recordingId := by simpa [UploadCall.separatorFree] using hcall
    dsimp only [uploadStep]
    split
    · rename_i db' response hprepare
      refine ⟨?_, fun p hp => absurd rfl hp⟩
      obtain ⟨hsessions, session, hsession, hsid, date, hrows⟩ := prepareUpload_ok hprepare
      have hsafe := h.sessions_safe session hsession
      refine ⟨hsessions ▸ h.sessions_safe, fun r hr => ?_⟩
      rcases hrows r hr with ⟨hvideo, hsensor⟩ | ⟨r₀, hr₀, hvideo, hsensor⟩
      · rw [hvideo, hsensor, ← hsid]
        exact ⟨strictlyInside_recordingPath date hsafe.1 hsafe.2 hrid (.inl rfl),
          strictlyInside_recordingPath date hsafe.1 hsafe.2 hrid (.inr rfl)⟩
      · rw [hvideo, hsensor]
        exact h.paths_inside r₀ hr₀
    · exact ⟨h, fun p hp => absurd rfl hp⟩
  | chunk headers body =>
    dsimp only [uploadStep]
    split
    · rename_i files db' response hchunk
      obtain ⟨hsessions, hpaths⟩ := uploadChunk_ok hchunk
      refine ⟨h.of_pathsFrom hsessions hpaths, fun p hp => ?_⟩
      obtain ⟨r, hr, rfl | rfl⟩ := uploadChunk_frame hchunk hp
      · exact (h.paths_inside r hr).1
      · exact (h.paths_inside r hr).2
    · rename_i files failure hchunk
      refine ⟨h, fun p hp => ?_⟩
      obtain ⟨r, hr, rfl | rfl⟩ := uploadChunk_frame hchunk hp
      · exact (h.paths_inside r hr).1
      · exact (h.paths_inside r hr).2
  | finalize req now =>
    dsimp only [uploadStep]
    split
    · rename_i db' response hfinal
      obtain ⟨hsessions, hpaths⟩ := finalizeUpload_ok hfinal
      exact ⟨h.of_pathsFrom hsessions hpaths, fun p hp => absurd rfl hp⟩
    · exact ⟨h, fun p hp => absurd rfl hp⟩

/-- Over a run of upload requests whose recording ids have no separator, the confinement holds
at every step, and every file the run changes is strictly inside the root. -/
theorem uploadRun_confined (calls : List UploadCall) (s : SurveyDb μ × Files)
    (h : UploadConfined state.storageBasePath s.1)
    (hcalls : ∀ call ∈ calls, call.separatorFree = true) :
    UploadConfined state.storageBasePath (uploadRun state env s calls).1 ∧
      ∀ p, (uploadRun state env s calls).2 p ≠ s.2 p →
        strictlyInside state.storageBasePath p = true := by
  induction calls generalizing s with
  | nil => exact ⟨h, fun p hp => absurd rfl hp⟩
  | cons call calls ih =>
    obtain ⟨hstep, hstepFiles⟩ :=
      @uploadStep_confined _ _ env _ _ h (hcalls call List.mem_cons_self)
    obtain ⟨hrun, hrunFiles⟩ :=
      ih (uploadStep state env s call) hstep fun c hc => hcalls c (List.mem_cons_of_mem _ hc)
    refine ⟨hrun, fun p hp => ?_⟩
    by_cases hfirst : (uploadStep state env s call).2 p = s.2 p
    · exact hrunFiles p (hfirst ▸ hp)
    · exact hstepFiles p hfirst

/-- From safe session names and recording rows inside the storage root, every run of upload
requests whose recording ids have no separator keeps every stored path strictly inside the root
and changes no file outside it. -/
theorem upload_storage_confined (state : UploadState) (env : UploadEnv) (db : SurveyDb μ)
    (files : Files) (calls : List UploadCall)
    (hsessions : ∀ s ∈ db.sessions, SafeName s.magicKey ∧ SafeName s.sessionId)
    (hpaths : ∀ r ∈ db.recordings, strictlyInside state.storageBasePath r.videoPath = true ∧
      strictlyInside state.storageBasePath r.sensorPath = true)
    (hcalls : ∀ call ∈ calls, call.separatorFree = true) :
    (∀ r ∈ (uploadRun state env (db, files) calls).1.recordings,
        strictlyInside state.storageBasePath r.videoPath = true ∧
          strictlyInside state.storageBasePath r.sensorPath = true) ∧
      ∀ p, (uploadRun state env (db, files) calls).2 p ≠ files p →
        strictlyInside state.storageBasePath p = true := by
  obtain ⟨hrun, hfiles⟩ := uploadRun_confined calls (db, files) ⟨hsessions, hpaths⟩ hcalls
  exact ⟨hrun.paths_inside, hfiles⟩

end Run

/-- A survey session, a storage root and a checksum function for the runs below: the digest
every chunk is checked against is the SHA-256 of the empty body. -/
def exampleUploadState : UploadState := ⟨"/var/lib/netpoke/uploads".toList⟩

def exampleUploadEnv : UploadEnv :=
  ⟨fun _ => true, fun _ => true,
    fun _ => "e3b0c44298fc1c149afbf4c8996fb92427ae41e4649b934ca495991b7852b855".toList⟩

/-- Named, so that the database below does not share its proof with another module's. -/
theorem exampleUploadDb_recordings_nodup : (([] : List RecordingRow).map RecordingRow.recordingId).Nodup :=
  List.nodup_nil

def exampleUploadDb : SurveyDb Unit :=
  ⟨[⟨"s1".toList, "K".toList, none, 1700000000000, 1700000000000, none, none, false⟩], [], [],
    List.nodup_singleton _, exampleUploadDb_recordings_nodup⟩

/-- Prepare a recording of the session and upload its first, empty video chunk. -/
def exampleUploadCalls (recordingId : List Char) : List UploadCall :=
  [.prepare ⟨"s1".toList, recordingId, 10, 10, "{}".toList, none⟩ 1700000000500,
    .chunk [("x-recording-id".toList, recordingId), ("x-file-type".toList, "video".toList),
      ("x-chunk-index".toList, "0".toList),
      ("x-chunk-checksum".toList,
        "e3b0c44298fc1c149afbf4c8996fb92427ae41e4649b934ca495991b7852b855".toList)] []]

theorem upload_storage_confined_r1 :
    (∀ s ∈ exampleUploadDb.sessions, SafeName s.magicKey ∧ SafeName s.sessionId) ∧
      (∀ call ∈ exampleUploadCalls "r1".toList, call.separatorFree = true) ∧
      (uploadRun exampleUploadState exampleUploadEnv (exampleUploadDb, fun _ => none)
        (exampleUploadCalls "r1".toList)).2
          "/var/lib/netpoke/uploads/K/2023/11/14/s1/r1.webm".toList = some [] ∧
      ∀ p, (uploadRun exampleUploadState exampleUploadEnv (exampleUploadDb, fun _ => none)
        (exampleUploadCalls "r1".toList)).2 p ≠ none →
          strictlyInside exampleUploadState.storageBasePath p = true := by
  have hsessions : ∀ s ∈ exampleUploadDb.sessions, SafeName s.magicKey ∧ SafeName s.sessionId := by
    decide
  have hcalls : ∀ call ∈ exampleUploadCalls "r1".toList, call.separatorFree = true := by decide
  refine ⟨hsessions, hcalls, by decide, ?_⟩
  exact (upload_storage_confined exampleUploadState exampleUploadEnv exampleUploadDb
    (fun _ => none) (exampleUploadCalls "r1".toList) hsessions (fun r hr => by cases hr)
    hcalls).2

/-- An absolute recording id: the run stores and writes "/tmp/x.webm", outside the root. -/
theorem upload_path_escapes_storage :
    ((uploadRun exampleUploadState exampleUploadEnv (exampleUploadDb, fun _ => none)
        (exampleUploadCalls "/tmp/x".toList)).1.recordings.map RecordingRow.videoPath =
        ["/tmp/x.webm".toList]) ∧
      (uploadRun exampleUploadState exampleUploadEnv (exampleUploadDb, fun _ => none)
        (exampleUploadCalls "/tmp/x".toList)).2 "/tmp/x.webm".toList = some [] ∧
      strictlyInside exampleUploadState.storageBasePath "/tmp/x.webm".toList = false := by
  decide

end Netpoke
