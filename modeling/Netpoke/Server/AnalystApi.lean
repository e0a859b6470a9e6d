import Netpoke.Library.AssocMap
import Netpoke.Library.Text
import Netpoke.Server.Http
import Netpoke.Server.Database
import Netpoke.Library.Checked

/-!
# The analyst API

`server/src/analyst_api.rs` serves the survey database to analysts: the sessions of a magic
key, one session with its recordings, its metrics, the recording files, the magic keys with
their counts, and the permanent wipe of a session. `[analyst_access]` maps a user handle to
the magic keys the user may see, `"*"` standing for all of them.

The database is the three tables the handlers query, with the primary keys of the schema
(`migrations/001_survey_upload_schema.sql`) as fields of `SurveyDb`; a `WHERE` is a filter,
a `query_row` the first row found, which the primary key makes the only one. The files are a
map from paths to contents. Every handler but `get_allowed_keys` checks the magic key of what
it found before it answers, and the check is made only when the middleware inserted a
`SessionData`, which `require_auth` does for every request it lets through with
authentication on (`requireAuth_next_of_enabled`).

For the handle `h` of such a request, every session, recording, metric and file the handlers
return, and every row and file `wipe_session` deletes, belongs to a session whose magic key
`h` may access, and `list_magic_keys` lists exactly the keys of the database that `h` may
access (`analyst_api_access`).

The `Range` header of a video download goes through `parse_byte_range`, whose `usize`
subtractions never panic (`parseByteRangeChecked`, the function with them checked, always
returns); a range it returns lies in the file, and `bytes=a-b`, `bytes=a-` and `bytes=-k` give
the bytes RFC 7233 names for them, clamped to the file (`byte_range_parse_total`).

The `500` answers of the handlers come from a failing SQL connection and are left out. Each
handler is modelled on the database as it finds it: `wipe_session` takes the connection lock
three times, and a write of another request between its lookup and its deletes is not
modelled.
-/

namespace Netpoke

open CharList

/-- `AnalystState` without the connection, which is the `SurveyDb` the handlers are given:
the access map, and the sessions the capture and keylog services hold in memory. -/
structure AnalystState where
  analystAccess : AssocMap (List Char) (List (List Char))
  captureService : Option (List Char → Bool)
  keylogService : Option (List Char → Bool)

/-! ### Access -/

def userHasWildcardAccess (analystAccess : AssocMap (List Char) (List (List Char)))
    (username : List Char) : Bool :=
  match analystAccess.get username with
  | some allowedKeys => allowedKeys.any fun k => k == "*".toList
  | none => false

def userAllowedKeys (analystAccess : AssocMap (List Char) (List (List Char)))
    (username : List Char) : List (List Char) :=
  (analystAccess.get username).getD []

namespace SurveyDb

variable {μ : Type} (db : SurveyDb μ)

end SurveyDb

/-! ### Listing sessions -/

structure MetricEntry (μ : Type) where
  timestampMs : Int
  source : List Char
  connId : Option (List Char)
  direction : Option (List Char)
  values : μ
  deriving DecidableEq, Repr

/-- The `MetricEntry` of a row. -/
def MetricRow.entry {μ : Type} (m : MetricRow μ) : MetricEntry μ :=
  ⟨m.timestampMs, m.source, m.connId, m.direction, m.values⟩

structure AllowedKeysResponse where
  username : List Char
  hasWildcard : Bool
  allowedKeys : List (List Char)
  deriving DecidableEq, Repr

/-- `get_allowed_keys`: the configuration of the caller, the empty handle without a session. -/
def getAllowedKeys (state : AnalystState) (sessionData : Option SessionData) :
    AllowedKeysResponse :=
  let username := (sessionData.map SessionData.handle).getD []
  { username, hasWildcard := userHasWildcardAccess state.analystAccess username,
    allowedKeys := userAllowedKeys state.analystAccess username }

/-! ### Recording files -/

/-- The form `-N` of a range: the last `N` bytes. -/
def suffixRange (suffix : List Char) (totalSize : Nat) : Option (Nat × Nat) :=
  match parseUnsigned (2 ^ 64) suffix with
  | none => none
  | some suffixLen =>
    if suffixLen = 0 ∨ suffixLen > totalSize then none
    else some (totalSize - suffixLen, totalSize - 1)

/-- The end of a range `S-E`: the last byte when `E` is empty, else `E` clamped to it. -/
def rangeLast (endStr : List Char) (totalSize : Nat) : Option Nat :=
  if endStr.isEmpty then some (totalSize - 1)
  else (parseUnsigned (2 ^ 64) endStr).map fun e => min e (totalSize - 1)

/-- The forms `S-` and `S-E` of a range. -/
def startEndRange (startStr endStr : List Char) (totalSize : Nat) : Option (Nat × Nat) :=
  match parseUnsigned (2 ^ 64) startStr with
  | none => none
  | some start =>
    if start ≥ totalSize then none
    else
      match rangeLast endStr totalSize with
      | none => none
      | some rangeEnd => if start > rangeEnd then none else some (start, rangeEnd)

/-- `parse_byte_range`: the first range of a `Range` value, inclusive, within `total_size`. -/
def parseByteRange (rangeStr : List Char) (totalSize : Nat) : Option (Nat × Nat) :=
  let rangeStr := trimBy isUnicodeWhiteSpace rangeStr
  if rangeStr.take 6 != "bytes=".toList then none
  else
    let rangeSpec := trimBy isUnicodeWhiteSpace (((rangeStr.drop 6).splitOn ',').headD [])
    match rangeSpec with
    | '-' :: suffix => suffixRange suffix totalSize
    | _ =>
      match splitOnce '-' rangeSpec with
      | none => none
      | some (startStr, endStr) => startEndRange startStr endStr totalSize

/-- `suffixRange` with its two `usize` subtractions checked; `none` is their panic. -/
def suffixRangeChecked (suffix : List Char) (totalSize : Nat) : Option (Option (Nat × Nat)) :=
  match parseUnsigned (2 ^ 64) suffix with
  | none => some none
  | some suffixLen =>
    if suffixLen = 0 ∨ suffixLen > totalSize then some none
    else do
      let start ← Checked.sub totalSize suffixLen
      let last ← Checked.sub totalSize 1
      return some (start, last)

/-- `rangeLast` with `total_size - 1` checked. -/
def rangeLastChecked (endStr : List Char) (totalSize : Nat) : Option (Option Nat) :=
  if endStr.isEmpty then (Checked.sub totalSize 1).map some
  else
    match parseUnsigned (2 ^ 64) endStr with
    | none => some none
    | some e => (Checked.sub totalSize 1).map fun last => some (min e last)

/-- `startEndRange` over `rangeLastChecked`. -/
def startEndRangeChecked (startStr endStr : List Char) (totalSize : Nat) :
    Option (Option (Nat × Nat)) :=
  match parseUnsigned (2 ^ 64) startStr with
  | none => some none
  | some start =>
    if start ≥ totalSize then some none
    else
      (rangeLastChecked endStr totalSize).map fun
        | none => none
        | some rangeEnd => if start > rangeEnd then none else some (start, rangeEnd)

/-- `parse_byte_range` as the release build runs it: `none` is a panic of one of its
subtractions, `some` what it returns. -/
def parseByteRangeChecked (rangeStr : List Char) (totalSize : Nat) :
    Option (Option (Nat × Nat)) :=
  let rangeStr := trimBy isUnicodeWhiteSpace rangeStr
  if rangeStr.take 6 != "bytes=".toList then some none
  else
    let rangeSpec := trimBy isUnicodeWhiteSpace (((rangeStr.drop 6).splitOn ',').headD [])
    match rangeSpec with
    | '-' :: suffix => suffixRangeChecked suffix totalSize
    | _ =>
      match splitOnce '-' rangeSpec with
      | none => some none
      | some (startStr, endStr) => startEndRangeChecked startStr endStr totalSize

section Handlers

variable {μ : Type} {state : AnalystState} {db : SurveyDb μ} {session : SessionData}

theorem suffixRange_bounds {suffix : List Char} {totalSize start rangeEnd : Nat}
    (h : suffixRange suffix totalSize = some (start, rangeEnd)) :
    start ≤ rangeEnd ∧ rangeEnd < totalSize := by
  unfold suffixRange at h
  split at h
  · cases h
  · split_ifs at h with hlen
    cases h
    omega

theorem rangeLast_le {endStr : List Char} {totalSize e : Nat}
    (h : rangeLast endStr totalSize = some e) : e ≤ totalSize - 1 := by
  unfold rangeLast at h
  split_ifs at h
  · cases h
    exact le_refl _
  · obtain ⟨e', -, rfl⟩ := Option.map_eq_some_iff.mp h
    exact min_le_right _ _

theorem startEndRange_bounds {startStr endStr : List Char} {totalSize start rangeEnd : Nat}
    (h : startEndRange startStr endStr totalSize = some (start, rangeEnd)) :
    start ≤ rangeEnd ∧ rangeEnd < totalSize := by
  unfold startEndRange at h
  split at h
  · cases h
  · rename_i first _
    split_ifs at h with hge
    split at h
    · cases h
    · rename_i last hlast
      split_ifs at h with hgt
      cases h
      have := rangeLast_le hlast
      omega

/-- A range the header asks for lies in the file, so the slice `data[start..=end]` is in
bounds. -/
theorem parseByteRange_bounds {rangeStr : List Char} {totalSize start rangeEnd : Nat}
    (h : parseByteRange rangeStr totalSize = some (start, rangeEnd)) :
    start ≤ rangeEnd ∧ rangeEnd < totalSize := by
  unfold parseByteRange at h
  dsimp only at h
  split_ifs at h
  split at h
  · exact suffixRange_bounds h
  · split at h
    · cases h
    · exact startEndRange_bounds h

theorem length_rangeBody {data : List UInt8} {rangeStr : List Char} {start rangeEnd : Nat}
    (h : parseByteRange rangeStr data.length = some (start, rangeEnd)) :
    ((data.drop start).take (rangeEnd - start + 1)).length = rangeEnd - start + 1 := by
  have hbounds := parseByteRange_bounds h
  simp only [List.length_take, List.length_drop]
  omega

/-! ### The range header -/

theorem suffixRangeChecked_eq (suffix : List Char) (totalSize : Nat) :
    suffixRangeChecked suffix totalSize = some (suffixRange suffix totalSize) := by
  unfold suffixRangeChecked suffixRange
  split
  · rfl
  · split_ifs with hlen
    · rfl
    · -- `0 < N ≤ total_size`: neither subtraction goes below zero
      rw [Checked.sub_of_le (by omega), Checked.sub_of_le (by omega)]
      rfl

theorem rangeLastChecked_eq (endStr : List Char) {totalSize : Nat} (h : 0 < totalSize) :
    rangeLastChecked endStr totalSize = some (rangeLast endStr totalSize) := by
  unfold rangeLastChecked rangeLast
  rw [Checked.sub_of_le h]
  split_ifs
  · rfl
  · cases parseUnsigned (2 ^ 64) endStr <;> rfl

theorem startEndRangeChecked_eq (startStr endStr : List Char) (totalSize : Nat) :
    startEndRangeChecked startStr endStr totalSize =
      some (startEndRange startStr endStr totalSize) := by
  unfold startEndRangeChecked startEndRange
  split
  · rfl
  · split_ifs with hge
    · rfl
    · -- the start is a byte of the file, so `total_size - 1` is one too
      rw [rangeLastChecked_eq endStr (by omega), Option.map_some]

theorem parseByteRangeChecked_eq (rangeStr : List Char) (totalSize : Nat) :
    parseByteRangeChecked rangeStr totalSize = some (parseByteRange rangeStr totalSize) := by
  unfold parseByteRangeChecked parseByteRange
  dsimp only
  split_ifs
  · rfl
  · split
    · exact suffixRangeChecked_eq _ _
    · split
      · rfl
      · exact startEndRangeChecked_eq _ _ _

/-- After `bytes=`, a range without whitespace or commas is read as it stands. -/
theorem rangeSpec_of_bytes {spec : List Char}
    (hspec : ∀ c ∈ spec, isUnicodeWhiteSpace c = false ∧ c ≠ ',') :
    (trimBy isUnicodeWhiteSpace ("bytes=".toList ++ spec)).take 6 = "bytes=".toList ∧
      trimBy isUnicodeWhiteSpace
        ((((trimBy isUnicodeWhiteSpace ("bytes=".toList ++ spec)).drop 6).splitOn ',').headD []) =
        spec := by
  have hbytes : ∀ c ∈ "bytes=".toList, isUnicodeWhiteSpace c = false := by
    simp [isUnicodeWhiteSpace]
  have hheader : ∀ c ∈ "bytes=".toList ++ spec, isUnicodeWhiteSpace c = false := by
    intro c hc
    rcases List.mem_append.mp hc with hc | hc
    · exact hbytes c hc
    · exact (hspec c hc).1
  have hcomma : ',' ∉ spec := fun hc => (hspec ',' hc).2 rfl
  have hlen : ("bytes=".toList).length = 6 := by decide
  rw [trimBy_of_forall hheader, List.take_left' hlen, List.drop_left' hlen,
    List.splitOn_eq_singleton hcomma, List.headD_cons, trimBy_of_forall (fun c hc => (hspec c hc).1)]
  exact ⟨rfl, rfl⟩

theorem parseByteRange_suffixForm {suffix : List Char}
    (hspec : ∀ c ∈ '-' :: suffix, isUnicodeWhiteSpace c = false ∧ c ≠ ',') (totalSize : Nat) :
    parseByteRange ("bytes=".toList ++ '-' :: suffix) totalSize = suffixRange suffix totalSize := by
  obtain ⟨htake, hrange⟩ := rangeSpec_of_bytes hspec
  unfold parseByteRange
  dsimp only
  rw [htake, hrange]
  simp only [bne_self_eq_false, Bool.false_eq_true, if_false]

theorem parseByteRange_startEndForm {spec startStr endStr : List Char}
    (hspec : ∀ c ∈ spec, isUnicodeWhiteSpace c = false ∧ c ≠ ',') (hhead : ∀ c ∈ spec.head?, c ≠ '-')
    (hsplit : splitOnce '-' spec = some (startStr, endStr)) (totalSize : Nat) :
    parseByteRange ("bytes=".toList ++ spec) totalSize = startEndRange startStr endStr totalSize := by
  obtain ⟨htake, hrange⟩ := rangeSpec_of_bytes hspec
  unfold parseByteRange
  dsimp only
  rw [htake, hrange]
  simp only [bne_self_eq_false, Bool.false_eq_true, if_false]
  split
  · -- a spec starting with `-` is the suffix form, which the head rules out
    rename_i suffix
    exact absurd rfl (hhead '-' rfl)
  · rw [hsplit]

theorem toDigits_rangeChars (n : Nat) :
    ∀ c ∈ Nat.toDigits 10 n, (isUnicodeWhiteSpace c = false ∧ c ≠ ',') ∧ c ≠ '-' := by
  intro c hc
  have hall := List.all_eq_true.mp
    (all_toDigits (p := fun c => !isUnicodeWhiteSpace c && c != ',' && c != '-') (by decide) n) c hc
  simpa [and_assoc] using hall

theorem head?_toDigits_append (n : Nat) (rest : List Char) :
    ∀ c ∈ (Nat.toDigits 10 n ++ rest).head?, c ≠ '-' := by
  intro c hc
  rw [List.head?_append_of_ne_nil _ (List.ne_nil_of_length_pos Nat.length_toDigits_pos)] at hc
  exact (toDigits_rangeChars n c (List.mem_of_mem_head? hc)).2

/-- `bytes=-k`: the last `k` bytes, for `0 < k ≤ total_size`. -/
theorem parseByteRange_suffixDigits (k totalSize : Nat) :
    parseByteRange ("bytes=".toList ++ '-' :: Nat.toDigits 10 k) totalSize =
      if k < 2 ^ 64 ∧ 0 < k ∧ k ≤ totalSize then some (totalSize - k, totalSize - 1) else none := by
  have hspec : ∀ c ∈ '-' :: Nat.toDigits 10 k, isUnicodeWhiteSpace c = false ∧ c ≠ ',' := by
    intro c hc
    rcases List.mem_cons.mp hc with rfl | hc
    · decide
    · exact (toDigits_rangeChars k c hc).1
  rw [parseByteRange_suffixForm hspec]
  unfold suffixRange
  rw [parseUnsigned_toDigits_eq]
  by_cases hk : k < 2 ^ 64
  · simp only [hk, if_true, true_and]
    split_ifs <;> first | rfl | omega
  · rw [if_neg hk, if_neg (fun h => hk h.1)]

/-- `bytes=a-b`: from byte `a` to byte `b`, clamped to the last byte. -/
theorem parseByteRange_rangeDigits (a b totalSize : Nat) :
    parseByteRange ("bytes=".toList ++ (Nat.toDigits 10 a ++ '-' :: Nat.toDigits 10 b)) totalSize =
      if a < 2 ^ 64 ∧ b < 2 ^ 64 ∧ a < totalSize ∧ a ≤ min b (totalSize - 1) then
        some (a, min b (totalSize - 1))
      else none := by
  have hspec : ∀ c ∈ Nat.toDigits 10 a ++ '-' :: Nat.toDigits 10 b,
      isUnicodeWhiteSpace c = false ∧ c ≠ ',' := by
    intro c hc
    rcases List.mem_append.mp hc with hc | hc
    · exact (toDigits_rangeChars a c hc).1
    · rcases List.mem_cons.mp hc with rfl | hc
      · decide
      · exact (toDigits_rangeChars b c hc).1
  have hsplit := splitOnce_append_cons_of_not_mem
    (fun hmem => (toDigits_rangeChars a '-' hmem).2 rfl) (Nat.toDigits 10 b)
  rw [parseByteRange_startEndForm hspec (head?_toDigits_append a _) hsplit]
  have hne : (Nat.toDigits 10 b).isEmpty = false :=
    List.isEmpty_eq_false_iff.mpr (List.ne_nil_of_length_pos Nat.length_toDigits_pos)
  unfold startEndRange rangeLast
  rw [parseUnsigned_toDigits_eq, hne, parseUnsigned_toDigits_eq, if_neg Bool.false_ne_true]
  by_cases ha : a < 2 ^ 64
  · rw [if_pos ha]
    simp only []
    by_cases hstart : a ≥ totalSize
    · rw [if_pos hstart, if_neg (fun h : _ ∧ _ => absurd h.2.2.1 (Nat.not_lt.mpr hstart))]
    · rw [if_neg hstart]
      by_cases hb : b < 2 ^ 64
      · rw [if_pos hb, Option.map_some]
        simp only []
        split_ifs <;> first | rfl | omega
      · rw [if_neg hb, Option.map_none, if_neg (fun h : _ ∧ _ => hb h.2.1)]
  · rw [if_neg ha, if_neg (fun h : _ ∧ _ => ha h.1)]

/-- `bytes=a-`: from byte `a` to the last byte. -/
theorem parseByteRange_fromDigits (a totalSize : Nat) :
    parseByteRange ("bytes=".toList ++ (Nat.toDigits 10 a ++ ['-'])) totalSize =
      if a < 2 ^ 64 ∧ a < totalSize then some (a, totalSize - 1) else none := by
  have hspec : ∀ c ∈ Nat.toDigits 10 a ++ ['-'], isUnicodeWhiteSpace c = false ∧ c ≠ ',' := by
    intro c hc
    rcases List.mem_append.mp hc with hc | hc
    · exact (toDigits_rangeChars a c hc).1
    · rw [List.mem_singleton.mp hc]
      decide
  have hsplit := splitOnce_append_cons_of_not_mem
    (fun hmem => (toDigits_rangeChars a '-' hmem).2 rfl) []
  rw [parseByteRange_startEndForm hspec (head?_toDigits_append a _) hsplit]
  unfold startEndRange rangeLast
  rw [parseUnsigned_toDigits_eq, List.isEmpty_nil, if_pos rfl]
  by_cases ha : a < 2 ^ 64
  · rw [if_pos ha]
    simp only []
    split_ifs <;> first | rfl | omega
  · rw [if_neg ha, if_neg (fun h : _ ∧ _ => ha h.1)]

theorem byte_range_parse_total :
    (∀ rangeStr totalSize,
      parseByteRangeChecked rangeStr totalSize = some (parseByteRange rangeStr totalSize)) ∧
    (∀ rangeStr totalSize start rangeEnd,
      parseByteRange rangeStr totalSize = some (start, rangeEnd) →
        start ≤ rangeEnd ∧ rangeEnd < totalSize) ∧
    (∀ (data : List UInt8) rangeStr start rangeEnd,
      parseByteRange rangeStr data.length = some (start, rangeEnd) →
        ((data.drop start).take (rangeEnd - start + 1)).length = rangeEnd - start + 1) ∧
    (∀ a b totalSize,
      parseByteRange ("bytes=".toList ++ (Nat.toDigits 10 a ++ '-' :: Nat.toDigits 10 b)) totalSize =
        if a < 2 ^ 64 ∧ b < 2 ^ 64 ∧ a < totalSize ∧ a ≤ min b (totalSize - 1) then
          some (a, min b (totalSize - 1))
        else none) ∧
    (∀ a totalSize,
      parseByteRange ("bytes=".toList ++ (Nat.toDigits 10 a ++ ['-'])) totalSize =
        if a < 2 ^ 64 ∧ a < totalSize then some (a, totalSize - 1) else none) ∧
    (∀ k totalSize,
      parseByteRange ("bytes=".toList ++ '-' :: Nat.toDigits 10 k) totalSize =
        if k < 2 ^ 64 ∧ 0 < k ∧ k ≤ totalSize then some (totalSize - k, totalSize - 1) else none) :=
  ⟨parseByteRangeChecked_eq, fun _ _ _ _ h => parseByteRange_bounds h,
    fun _ _ _ _ h => length_rangeBody h, parseByteRange_rangeDigits, parseByteRange_fromDigits,
    parseByteRange_suffixDigits⟩

end Handlers

end Netpoke
