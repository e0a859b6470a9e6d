import Netpoke.Library.Text
import Netpoke.Auth.Config
import Netpoke.Server.AuthCache

/-!
# Survey session ids

A magic key login (`magic_key_auth`, `magic_key_auth_with_cache` in `server/src/auth_handlers.rs`)
issues the survey session id `survey_{key}_{timestamp}_{uuid}`, each `-` of the key written as
`_`, and sets it as a plain cookie. The id comes back through `collect_all_cookies` and
`extract_session_id`, is checked by `validate_survey_session`, and is decoded to a magic key by
`extract_magic_key_from_session` (`auth_handlers.rs`) and `extract_magic_key_from_session_id`
(`data_channels.rs`). `auth_handlers.rs` and `survey_middleware.rs` hold equal copies of the
cookie functions and of `validate_survey_session` (they differ in logging only), so each is
one definition here.

Every decoder splits at `_` and joins the key pieces with `-`, so what it reads from an issued
id is the issued key with each `_` turned into `-`: the codec is exact on keys without `_`.
The cookie parse splits at `;` and `=`, so the round trip also needs a key without those and
a header that `HeaderValue::to_str` accepts; a key with a control character is answered with a
`500`, since its `Set-Cookie` is no `HeaderValue` (`survey_session_restrictions_needed`).
-/

namespace Netpoke

open CharList

/-! ### UUIDs -/

/-- A UUID, a 128-bit value. -/
structure Uuid where
  value : BitVec 128
  deriving DecidableEq

/-- The 32 lowercase hexadecimal digits of a UUID, most significant first. -/
def Uuid.hexDigits (uuid : Uuid) : List Char :=
  (List.range 32).map fun i => Nat.digitChar (uuid.value.toNat / 16 ^ (31 - i) % 16)

/-- The hyphenated `8-4-4-4-12` form that `Display for Uuid` prints. -/
def Uuid.hyphenated (uuid : Uuid) : List Char :=
  let hex := uuid.hexDigits
  hex.take 8 ++ '-' :: (hex.drop 8).take 4 ++ '-' :: (hex.drop 12).take 4 ++ '-' ::
    (hex.drop 16).take 4 ++ '-' :: hex.drop 20

theorem Uuid.mem_hexDigits {uuid : Uuid} {c : Char} (h : c ∈ uuid.hexDigits) :
    ∃ n < 16, c = Nat.digitChar n := by
  obtain ⟨i, -, rfl⟩ := List.mem_map.mp h
  exact ⟨_, Nat.mod_lt _ (by decide), rfl⟩

/-- A property of `-` and of the hexadecimal digits holds of every character of a UUID. -/
theorem Uuid.all_hyphenated {p : Char → Bool} (hdash : p '-' = true)
    (hdigit : ∀ n < 16, p (Nat.digitChar n) = true) (uuid : Uuid) :
    uuid.hyphenated.all p = true := by
  have hhex : ∀ c ∈ uuid.hexDigits, p c = true := fun c hc => by
    obtain ⟨n, hn, rfl⟩ := Uuid.mem_hexDigits hc
    exact hdigit n hn
  simp only [Uuid.hyphenated]
  -- the digits are only taken and dropped, never computed
  generalize uuid.hexDigits = hex at hhex
  rw [List.all_eq_true]
  intro c hc
  simp only [List.mem_append, List.mem_cons, or_assoc] at hc
  rcases hc with h | rfl | h | rfl | h | rfl | h | rfl | h
  all_goals first
    | exact hdash
    | exact hhex c (List.mem_of_mem_take h)
    | exact hhex c (List.mem_of_mem_drop (List.mem_of_mem_take h))
    | exact hhex c (List.mem_of_mem_drop h)

theorem Uuid.hyphenated_ne_nil (uuid : Uuid) : uuid.hyphenated ≠ [] := by
  simp [Uuid.hyphenated]

/-! ### Issuing and decoding the id -/

/-- The id `magic_key_auth` issues:
`format!("survey_{}_{}_{}", magic_key.replace("-", "_"), timestamp, uuid)`. -/
def surveySessionId (magicKey : List Char) (timestamp : UInt64) (uuid : Uuid) : List Char :=
  "survey_".toList ++ replaceChar '-' '_' magicKey ++
    '_' :: (Nat.toDigits 10 timestamp.toNat ++ '_' :: uuid.hyphenated)

def validateSurveySession (sessionId : List Char) (config : MagicKeyConfig) (currentTime : Nat) :
    Bool :=
  if !"survey_".toList.isPrefixOf sessionId then false
  else
    let parts := sessionId.splitOn '_'
    if parts.length < 4 then false
    else
      match parseUnsigned (2 ^ 64) (parts.getD (parts.length - 2) []) with
      | none => false
      | some timestamp =>
        -- `saturating_sub` on `u64`
        let elapsed := currentTime - timestamp
        if elapsed > config.surveyTimeoutSeconds then false
        else
          let magicKey := ['-'].intercalate ((parts.take (parts.length - 2)).drop 1)
          config.magicKeys.contains magicKey

/-- `extract_magic_key_from_session` (`auth_handlers.rs`). -/
def extractMagicKeyFromSession (sessionId : List Char) : Option (List Char) :=
  if !"survey_".toList.isPrefixOf sessionId then none
  else
    let parts := sessionId.splitOn '_'
    if parts.length < 4 then none
    else
      let keyParts := (parts.take (parts.length - 2)).drop 1
      if keyParts.isEmpty then none else some (['-'].intercalate keyParts)

/-- `extract_magic_key_from_session_id` (`data_channels.rs`): the same as
`extract_magic_key_from_session`, with the timestamp piece also checked to be a `u64`. -/
def extractMagicKeyFromSessionId (sessionId : List Char) : Option (List Char) :=
  if !"survey_".toList.isPrefixOf sessionId then none
  else
    let parts := sessionId.splitOn '_'
    if parts.length < 4 then none
    else
      let timestampIdx := parts.length - 2
      if (parseUnsigned (2 ^ 64) (parts.getD timestampIdx [])).isNone then none
      else
        let magicKeyParts := (parts.take timestampIdx).drop 1
        if magicKeyParts.isEmpty then none else some (['-'].intercalate magicKeyParts)

/-- The two key decoders differ only on ids whose timestamp piece is not a `u64`, where the
one of `data_channels.rs` gives up. -/
theorem extractMagicKeyFromSessionId_eq (sessionId : List Char) :
    extractMagicKeyFromSessionId sessionId =
      let parts := sessionId.splitOn '_'
      if (parseUnsigned (2 ^ 64) (parts.getD (parts.length - 2) [])).isNone then none
      else extractMagicKeyFromSession sessionId := by
  simp only [extractMagicKeyFromSessionId, extractMagicKeyFromSession]
  split_ifs <;> rfl

example : extractMagicKeyFromSession "survey_a_b_c".toList = some "a".toList ∧
    extractMagicKeyFromSessionId "survey_a_b_c".toList = none := by decide

lemma survey_prefix_eq : "survey_".toList = "survey".toList ++ ['_'] := rfl

theorem isPrefixOf_surveySessionId (magicKey : List Char) (timestamp : UInt64) (uuid : Uuid) :
    "survey_".toList.isPrefixOf (surveySessionId magicKey timestamp uuid) = true := by
  rw [ List.isPrefixOf_iff_prefix]
  unfold surveySessionId
  exact List.prefix_append _ _

theorem splitOn_surveySessionId (magicKey : List Char) (timestamp : UInt64) (uuid : Uuid) :
    (surveySessionId magicKey timestamp uuid).splitOn '_' =
      "survey".toList :: ((replaceChar '-' '_' magicKey).splitOn '_' ++
        [Nat.toDigits 10 timestamp.toNat, uuid.hyphenated]) := by
  have huuid : '_' ∉ uuid.hyphenated :=
    not_mem_of_all (Uuid.all_hyphenated (p := fun c => c != '_') (by decide) (by decide) uuid)
      (by decide)
  have hdigits : '_' ∉ Nat.toDigits 10 timestamp.toNat := not_mem_toDigits (by decide) _
  have hsurvey : '_' ∉ "survey".toList := by decide
  unfold surveySessionId
  rw [survey_prefix_eq]
  simp only [List.append_assoc, List.cons_append, List.nil_append]
  rw [List.splitOn_append_cons_self_of_not_mem hsurvey, List.splitOn_append_cons_self,
    List.splitOn_append_cons_self_of_not_mem hdigits, List.splitOn_eq_singleton huuid]

/-! The pieces of an issued id: the prefix, the key pieces, the timestamp and the UUID. -/

lemma length_pieces (a x y : List Char) (pieces : List (List Char)) :
    (a :: (pieces ++ [x, y])).length - 2 = pieces.length + 1 := by
  simp

lemma getD_pieces (a x y : List Char) (pieces : List (List Char)) :
    (a :: (pieces ++ [x, y])).getD (pieces.length + 1) [] = x := by
  simp [List.getD_eq_getElem?_getD]

lemma take_drop_pieces (a x y : List Char) (pieces : List (List Char)) :
    ((a :: (pieces ++ [x, y])).take (pieces.length + 1)).drop 1 = pieces := by
  simp

/-- What the decoders read from an issued id: enough pieces, the printed timestamp, and key
pieces that join to the key with every `_` turned into `-`. -/
theorem surveySessionId_pieces (magicKey : List Char) (timestamp : UInt64) (uuid : Uuid) :
    let parts := (surveySessionId magicKey timestamp uuid).splitOn '_'
    ¬ parts.length < 4 ∧ parts.getD (parts.length - 2) [] = Nat.toDigits 10 timestamp.toNat ∧
      ((parts.take (parts.length - 2)).drop 1).isEmpty = false ∧
      ['-'].intercalate ((parts.take (parts.length - 2)).drop 1) = replaceChar '_' '-' magicKey := by
  intro parts
  have hparts : parts = _ := splitOn_surveySessionId magicKey timestamp uuid
  have hkey := List.splitOn_ne_nil '_' (replaceChar '-' '_' magicKey)
  rw [hparts, length_pieces, getD_pieces, take_drop_pieces, intercalate_splitOn_eq_replaceChar,
    replaceChar_replaceChar]
  refine ⟨?_, rfl, List.isEmpty_eq_false_iff.mpr hkey, rfl⟩
  have hlen : 0 < ((replaceChar '-' '_' magicKey).splitOn '_').length :=
    List.length_pos_of_ne_nil hkey
  simp only [List.length_cons, List.length_append, List.length_nil]
  omega

theorem parseUnsigned_timestamp (timestamp : UInt64) :
    parseUnsigned (2 ^ 64) (Nat.toDigits 10 timestamp.toNat) = some timestamp.toNat :=
  parseUnsigned_toDigits (UInt64.toNat_lt timestamp)

theorem extractMagicKeyFromSession_surveySessionId (magicKey : List Char) (timestamp : UInt64)
    (uuid : Uuid) :
    extractMagicKeyFromSession (surveySessionId magicKey timestamp uuid) =
      some (replaceChar '_' '-' magicKey) := by
  obtain ⟨hlen, -, hempty, hkey⟩ := surveySessionId_pieces magicKey timestamp uuid
  simp only [extractMagicKeyFromSession, isPrefixOf_surveySessionId, Bool.not_true,
    Bool.false_eq_true, if_false, hlen, hempty, hkey]

theorem extractMagicKeyFromSessionId_surveySessionId (magicKey : List Char) (timestamp : UInt64)
    (uuid : Uuid) :
    extractMagicKeyFromSessionId (surveySessionId magicKey timestamp uuid) =
      some (replaceChar '_' '-' magicKey) := by
  obtain ⟨-, htime, -, -⟩ := surveySessionId_pieces magicKey timestamp uuid
  rw [extractMagicKeyFromSessionId_eq]
  simp only [htime, parseUnsigned_timestamp, Option.isNone_some, Bool.false_eq_true, if_false]
  exact extractMagicKeyFromSession_surveySessionId magicKey timestamp uuid

/-- An issued id passes `validate_survey_session` exactly while it is at most
`survey_timeout_seconds` old and the key with `_` turned into `-` is configured. -/
theorem validateSurveySession_surveySessionId (magicKey : List Char) (timestamp : UInt64)
    (uuid : Uuid) (config : MagicKeyConfig) (currentTime : Nat) :
    validateSurveySession (surveySessionId magicKey timestamp uuid) config currentTime =
      (decide (currentTime - timestamp.toNat ≤ config.surveyTimeoutSeconds) &&
        config.magicKeys.contains (replaceChar '_' '-' magicKey)) := by
  obtain ⟨hlen, htime, -, hkey⟩ := surveySessionId_pieces magicKey timestamp uuid
  simp only [validateSurveySession, isPrefixOf_surveySessionId, Bool.not_true,
    Bool.false_eq_true, if_false, hlen, htime, parseUnsigned_timestamp, hkey]
  by_cases hold : currentTime - timestamp.toNat ≤ config.surveyTimeoutSeconds
  · simp [hold]
  · simp [hold, Nat.lt_of_not_le hold]

/-- An id that starts with `survey_` splits into `survey` and the pieces of the rest. -/
lemma splitOn_survey_append (rest : List Char) :
    ("survey_".toList ++ rest).splitOn '_' = "survey".toList :: rest.splitOn '_' := by
  have hsurvey : '_' ∉ "survey".toList := by decide
  rw [survey_prefix_eq, List.append_assoc, List.singleton_append,
    List.splitOn_append_cons_self_of_not_mem hsurvey]

/-- What `validate_survey_session` accepts at the time `currentTime`: `survey_`, a key whose `_`
turned into `-` is configured, a numeral of a `u64` time, and a last piece. The time is at least
`currentTime - survey_timeout_seconds`; `saturating_sub` puts no bound on how far ahead of
`currentTime` it is. -/
theorem validateSurveySession_accepts {sessionId : List Char} {config : MagicKeyConfig}
    {currentTime : Nat} (h : validateSurveySession sessionId config currentTime = true) :
    ∃ magicKey timestampStr timestamp uuid,
      sessionId = "survey_".toList ++ magicKey ++ '_' :: (timestampStr ++ '_' :: uuid) ∧
      '_' ∉ timestampStr ∧ '_' ∉ uuid ∧ parseUnsigned (2 ^ 64) timestampStr = some timestamp ∧
      config.magicKeys.contains (replaceChar '_' '-' magicKey) = true ∧
      currentTime - config.surveyTimeoutSeconds ≤ timestamp := by
  unfold validateSurveySession at h
  dsimp only at h
  split at h
  · cases h
  rename_i hprefix
  split at h
  · cases h
  rename_i hlen
  split at h
  · cases h
  rename_i timestamp htimestamp
  split at h
  · cases h
  rename_i hfresh
  obtain ⟨rest, hrest⟩ : "survey_".toList <+: sessionId :=
    List.isPrefixOf_iff_prefix.mp (by simpa using hprefix)
  subst hrest
  rw [splitOn_survey_append] at hlen htimestamp h
  have hthree : 3 ≤ (rest.splitOn '_').length := by
    simp only [List.length_cons] at hlen
    omega
  obtain ⟨timestampStr, uuid, hlast⟩ := List.length_eq_two.mp
    (show ((rest.splitOn '_').drop ((rest.splitOn '_').length - 2)).length = 2 by
      rw [List.length_drop]
      omega)
  have hpieces : rest.splitOn '_' =
      (rest.splitOn '_').take ((rest.splitOn '_').length - 2) ++ [timestampStr, uuid] := by
    rw [← hlast, List.take_append_drop]
  have hkey_ne : (rest.splitOn '_').take ((rest.splitOn '_').length - 2) ≠ [] := by
    apply List.ne_nil_of_length_pos
    rw [List.length_take]
    omega
  have hsep : ∀ p ∈ rest.splitOn '_', '_' ∉ p := not_mem_of_mem_splitOn '_' rest
  generalize (rest.splitOn '_').take ((rest.splitOn '_').length - 2) = keyPieces
    at hpieces hkey_ne
  rw [hpieces, length_pieces, getD_pieces] at htimestamp
  rw [hpieces, length_pieces, take_drop_pieces] at h
  rw [hpieces] at hsep
  have hkeySep : ∀ p ∈ keyPieces, '_' ∉ p := fun p hp => hsep p (by simp [hp])
  refine ⟨['_'].intercalate keyPieces, timestampStr, timestamp, uuid, ?_, hsep _ (by simp),
    hsep _ (by simp), htimestamp, ?_, by omega⟩
  · -- the rest is its pieces joined again by `_`
    have hjoin : ['_'].intercalate (rest.splitOn '_') = rest := List.intercalate_splitOn '_'
    rw [hpieces, intercalate_append_cons _ _ _ hkey_ne, List.intercalate_cons_cons,
      List.intercalate_singleton] at hjoin
    rw [← hjoin]
    simp only [List.append_assoc, List.cons_append, List.nil_append]
  · rw [← intercalate_splitOn_eq_replaceChar, List.splitOn_intercalate '_' hkeySep hkey_ne]
    exact h

/-- Magic keys on, with the one key `K`. -/
def surveyKeyConfig : MagicKeyConfig :=
  { MagicKeyConfig.default with enabled := true, magicKeys := ["K".toList] }

theorem validateSurveySession_accepts_current :
    validateSurveySession "survey_K_1700000000_u".toList surveyKeyConfig 1700000100 = true ∧
      ∃ magicKey timestampStr timestamp uuid,
        "survey_K_1700000000_u".toList =
          "survey_".toList ++ magicKey ++ '_' :: (timestampStr ++ '_' :: uuid) ∧
        '_' ∉ timestampStr ∧ '_' ∉ uuid ∧ parseUnsigned (2 ^ 64) timestampStr = some timestamp ∧
        surveyKeyConfig.magicKeys.contains (replaceChar '_' '-' magicKey) = true ∧
        1700000100 - surveyKeyConfig.surveyTimeoutSeconds ≤ timestamp :=
  ⟨by decide, validateSurveySession_accepts (by decide)⟩

/-- A cookie dated far after the current time passes: here an id of the configured key `K`
dated 9999999999 at the time 1700000000. -/
theorem validateSurveySession_future_timestamp :
    validateSurveySession "survey_K_9999999999_u".toList surveyKeyConfig 1700000000 = true ∧
      1700000000 < 9999999999 := by
  decide

/-! ### Cookies -/

/-- `is_visible_ascii` of the `http` crate: the bytes `HeaderValue::to_str` accepts. -/
def isVisibleAscii (c : Char) : Bool :=
  (32 ≤ c.toNat && c.toNat < 127) || c == '\t'

/-- `HeaderValue::to_str`. -/
def headerToStr (value : List Char) : Option (List Char) :=
  if value.all isVisibleAscii then some value else none

/-- The characters whose bytes a `HeaderValue` holds: visible ASCII, tab, and every byte from
`0x80` on, so every character beyond ASCII. -/
def isHeaderValueChar (c : Char) : Bool :=
  isVisibleAscii c || 128 ≤ c.toNat

/-- `collect_all_cookies` over the values of the `Cookie` headers, in order. -/
def collectAllCookies (cookieHeaders : List (List Char)) : List Char :=
  (cookieHeaders.filterMap headerToStr).foldl
    (fun acc s => (if acc.isEmpty then acc else acc ++ "; ".toList) ++ s) []

/-- The closure `extract_session_id` applies to each `;`-separated piece. -/
def sessionCookieValue (cookieName cookie : List Char) : Option (List Char) :=
  let parts := (trimBy isUnicodeWhiteSpace cookie).splitOn '='
  if parts.length == 2 && parts.getD 0 [] == cookieName then some (parts.getD 1 []) else none

def extractSessionId (cookieStr cookieName : List Char) : Option (List Char) :=
  (cookieStr.splitOn ';').findSome? (sessionCookieValue cookieName)

/-- The `Cookie` header a user agent sends for the cookies it holds: `name=value` pairs joined
by `; `. -/
def cookieHeader (cookies : List (List Char × List Char)) : List Char :=
  "; ".toList.intercalate (cookies.map fun cookie => cookie.1 ++ '=' :: cookie.2)

/-- A cookie name the parse can match: visible ASCII without `;` and `=`, not starting with
whitespace. -/
def isCookieName (name : List Char) : Bool :=
  name.all (fun c => isVisibleAscii c && c != ';' && c != '=') &&
    name.head?.all (fun c => !isUnicodeWhiteSpace c)

/-- A cookie that can be sent back in a `Cookie` header that `to_str` accepts. -/
def isCookiePair (cookie : List Char × List Char) : Bool :=
  isCookieName cookie.1 && cookie.2.all (fun c => isVisibleAscii c && c != ';')

section CookiePair

variable {name value : List Char}

lemma isCookiePair_iff :
    isCookiePair (name, value) = true ↔
      (∀ c ∈ name, isVisibleAscii c = true ∧ c ≠ ';' ∧ c ≠ '=') ∧
        (∀ c ∈ name.head?, isUnicodeWhiteSpace c = false) ∧
        ∀ c ∈ value, isVisibleAscii c = true ∧ c ≠ ';' := by
  simp [isCookiePair, isCookieName, List.all_eq_true, Option.all_eq_true, and_assoc]

lemma isCookiePair_item (h : isCookiePair (name, value) = true) :
    (name ++ '=' :: value).all isVisibleAscii = true ∧ ';' ∉ name ++ '=' :: value := by
  obtain ⟨hname, -, hvalue⟩ := isCookiePair_iff.mp h
  constructor
  · simp only [List.all_append, List.all_cons]
    refine Bool.and_eq_true_iff.mpr ⟨List.all_eq_true.mpr fun c hc => (hname c hc).1, ?_⟩
    exact Bool.and_eq_true_iff.mpr ⟨rfl, List.all_eq_true.mpr fun c hc => (hvalue c hc).1⟩
  · simp only [List.mem_append, List.mem_cons, not_or]
    exact ⟨fun h => (hname _ h).2.1 rfl, by decide, fun h => (hvalue _ h).2 rfl⟩

/-- Trimmed and split at `=`, a cookie is its name followed by the pieces of its value: the
name starts with no whitespace and holds no `=`. -/
lemma splitOn_trimBy_cookie (h : isCookiePair (name, value) = true) :
    (trimBy isUnicodeWhiteSpace (name ++ '=' :: value)).splitOn '=' =
      name :: (value.reverse.dropWhile isUnicodeWhiteSpace).reverse.splitOn '=' := by
  obtain ⟨hname, hhead, -⟩ := isCookiePair_iff.mp h
  have heq : '=' ∉ name := fun hmem => (hname _ hmem).2.2 rfl
  rw [trimBy_append_cons (c := '=') (by decide) hhead, List.splitOn_append_cons_self_of_not_mem heq]

theorem sessionCookieValue_of_ne (cookieName : List Char) (h : isCookiePair (name, value) = true)
    (hne : name ≠ cookieName) : sessionCookieValue cookieName (name ++ '=' :: value) = none := by
  simp only [sessionCookieValue, splitOn_trimBy_cookie h]
  simp [hne]

/-- The piece of the cookie itself yields its value when the value has no `=` and does not
end with whitespace. -/
theorem sessionCookieValue_self (h : isCookiePair (name, value) = true) (heq : '=' ∉ value)
    (hlast : ∀ c ∈ value.getLast?, isUnicodeWhiteSpace c = false) :
    sessionCookieValue name (name ++ '=' :: value) = some value := by
  simp only [sessionCookieValue, splitOn_trimBy_cookie h, reverse_dropWhile_reverse hlast,
    List.splitOn_eq_singleton heq]
  simp

end CookiePair

theorem sessionCookieValue_pad (cookieName cookie : List Char) :
    sessionCookieValue cookieName (' ' :: cookie) = sessionCookieValue cookieName cookie := by
  have h := trimBy_append_left (p := isUnicodeWhiteSpace) (w := [' ']) cookie
    (fun c hc => by rw [List.mem_singleton.mp hc]; decide)
  simp only [List.singleton_append] at h
  simp only [sessionCookieValue, h]

/-- `extract_session_id` on a `Cookie` header reads the cookies in order. -/
theorem extractSessionId_cookieHeader (cookieName : List Char)
    (cookies : List (List Char × List Char)) (h : ∀ cookie ∈ cookies, isCookiePair cookie = true) :
    extractSessionId (cookieHeader cookies) cookieName =
      cookies.findSome? fun cookie => sessionCookieValue cookieName (cookie.1 ++ '=' :: cookie.2) := by
  cases cookies with
  | nil => rfl
  | cons first rest =>
    have hitem : ∀ cookie ∈ first :: rest, ';' ∉ cookie.1 ++ '=' :: cookie.2 :=
      fun cookie hc => (isCookiePair_item (h cookie hc)).2
    have hsplit := splitOn_intercalate_padded ';' [' '] (first.1 ++ '=' :: first.2)
      (rest.map fun cookie => cookie.1 ++ '=' :: cookie.2) (by decide)
      (hitem first List.mem_cons_self)
      (fun r hr => by
        obtain ⟨cookie, hc, rfl⟩ := List.mem_map.mp hr
        exact hitem cookie (List.mem_cons_of_mem _ hc))
    -- the separator `; ` splits into `;` and a blank that the trim drops again
    have hpad : (sessionCookieValue cookieName ∘ fun item => [' '] ++ item) =
        sessionCookieValue cookieName := by
      funext item
      exact sessionCookieValue_pad cookieName item
    rw [extractSessionId, cookieHeader, List.map_cons, show "; ".toList = [';', ' '] from rfl,
      hsplit, List.findSome?_cons, List.findSome?_cons, List.map_map, List.findSome?_map,
      ← Function.comp_assoc, hpad]
    rfl

theorem collectAllCookies_single {header : List Char} (h : header.all isVisibleAscii = true) :
    collectAllCookies [header] = header := by
  simp [collectAllCookies, headerToStr, h]

theorem cookieHeader_visible (cookies : List (List Char × List Char))
    (h : ∀ cookie ∈ cookies, isCookiePair cookie = true) :
    (cookieHeader cookies).all isVisibleAscii = true := by
  apply all_intercalate (by decide)
  intro item hitem
  obtain ⟨cookie, hc, rfl⟩ := List.mem_map.mp hitem
  exact (isCookiePair_item (h cookie hc)).1

/-- A cookie sent back among other cookies is found by `extract_session_id` when the cookies
before it have other names. -/
theorem extractSessionId_collectAllCookies (before after : List (List Char × List Char))
    {name value : List Char} (hcookie : isCookiePair (name, value) = true) (heq : '=' ∉ value)
    (hlast : ∀ c ∈ value.getLast?, isUnicodeWhiteSpace c = false)
    (hbefore : ∀ cookie ∈ before, isCookiePair cookie = true ∧ cookie.1 ≠ name)
    (hafter : ∀ cookie ∈ after, isCookiePair cookie = true) :
    extractSessionId (collectAllCookies [cookieHeader (before ++ (name, value) :: after)]) name =
      some value := by
  have hall : ∀ cookie ∈ before ++ (name, value) :: after, isCookiePair cookie = true := by
    intro cookie hc
    rcases List.mem_append.mp hc with hb | ha
    · exact (hbefore cookie hb).1
    · rcases List.mem_cons.mp ha with rfl | ha
      · exact hcookie
      · exact hafter cookie ha
  have hnone : (before.findSome? fun cookie =>
      sessionCookieValue name (cookie.1 ++ '=' :: cookie.2)) = none := by
    rw [List.findSome?_eq_none_iff]
    intro cookie hc
    exact sessionCookieValue_of_ne name (hbefore cookie hc).1 (hbefore cookie hc).2
  rw [collectAllCookies_single (cookieHeader_visible _ hall), extractSessionId_cookieHeader _ _ hall,
    List.findSome?_append, hnone, Option.none_or, List.findSome?_cons,
    sessionCookieValue_self hcookie heq hlast]

/-! ### Cookie facts of an issued id -/

theorem all_surveySessionId {p : Char → Bool} (hstart : "survey_".toList.all p = true)
    (hsep : p '_' = true) (hdigit : ∀ n < 16, p (Nat.digitChar n) = true) (hdash : p '-' = true)
    {magicKey : List Char} (hkey : magicKey.all p = true) (timestamp : UInt64) (uuid : Uuid) :
    (surveySessionId magicKey timestamp uuid).all p = true := by
  have hdigits := all_toDigits (fun d hd => hdigit d (by omega)) timestamp.toNat
  unfold surveySessionId
  simp only [List.all_append, List.all_cons, hstart, hsep, hdigits,
    all_replaceChar '-' hsep hkey, Uuid.all_hyphenated hdash hdigit uuid, Bool.and_self]

theorem getLast?_surveySessionId (magicKey : List Char) (timestamp : UInt64) (uuid : Uuid) :
    ∀ c ∈ (surveySessionId magicKey timestamp uuid).getLast?, isUnicodeWhiteSpace c = false := by
  intro c hc
  have hlast : (surveySessionId magicKey timestamp uuid).getLast? = uuid.hyphenated.getLast? := by
    have hsplit : surveySessionId magicKey timestamp uuid =
        ("survey_".toList ++ replaceChar '-' '_' magicKey ++ '_' ::
          Nat.toDigits 10 timestamp.toNat ++ ['_']) ++ uuid.hyphenated := by
      unfold surveySessionId
      simp only [List.append_assoc, List.cons_append, List.nil_append]
    rw [hsplit, List.getLast?_append_of_ne_nil _ (Uuid.hyphenated_ne_nil uuid)]
  rw [hlast] at hc
  have hall := List.all_eq_true.mp (Uuid.all_hyphenated (p := fun c => !isUnicodeWhiteSpace c)
    (by decide) (by decide) uuid) c (List.mem_of_getLast? hc)
  simpa using hall

/-! ### Issuing the session -/

/-- The response of `magic_key_auth`: `404`, `401` with its message, `200` with the
`Set-Cookie` header and its message, or the `500` of `into_response` for a `Set-Cookie` that is
no `HeaderValue`. -/
inductive MagicKeyResponse
  | notFound
  | unauthorized (message : List Char)
  | ok (setCookie : List Char) (message : List Char)
  | internalServerError
  deriving Repr, DecidableEq

/-- The `Set-Cookie` header of a survey session. -/
def surveySetCookie (config : MagicKeyConfig) (sessionId : List Char) : List Char :=
  config.surveyCookieName ++ '=' :: sessionId ++
    "; Path=/; HttpOnly; SameSite=Lax; Max-Age=".toList ++
    Nat.toDigits 10 config.surveyTimeoutSeconds

/-- The `200` of both handlers for an issued session. -/
def surveyResponse (config : MagicKeyConfig) (sessionId : List Char) : MagicKeyResponse :=
  let setCookie := surveySetCookie config sessionId
  if setCookie.all isHeaderValueChar then .ok setCookie "Magic Key validated successfully".toList
  else .internalServerError

/-- The checks both magic key handlers make first: the error response, or none when the key
is accepted. -/
def magicKeyRejection (config : MagicKeyConfig) (magicKey : List Char) :
    Option MagicKeyResponse :=
  if !config.enabled || config.magicKeys.isEmpty then some .notFound
  else if !config.magicKeys.contains magicKey then
    some (.unauthorized "Invalid Magic Key. Please check your key and try again.".toList)
  else none

/-- `magic_key_auth`, which reads the magic key section of the configuration, with the clock
reading and the fresh UUID as inputs. -/
def magicKeyAuth (config : MagicKeyConfig) (magicKey : List Char) (timestamp : UInt64)
    (uuid : Uuid) : MagicKeyResponse :=
  match magicKeyRejection config magicKey with
  | some rejection => rejection
  | none => surveyResponse config (surveySessionId magicKey timestamp uuid)

/-- `magic_key_auth_with_cache`: the checks of `magic_key_auth`, then the client address
recorded in the authentication cache, when there is one, at the instant `now`. -/
def magicKeyAuthWithCache (config : MagicKeyConfig) (authCache : Option AuthAddressCache)
    (addr : SocketAddr) (magicKey : List Char) (timestamp : UInt64) (uuid : Uuid) (now : Nat) :
    Option AuthAddressCache × MagicKeyResponse :=
  match magicKeyRejection config magicKey with
  | some rejection => (authCache, rejection)
  | none =>
    (authCache.map fun cache =>
        cache.recordAuth addr.ip ("magic_key:".toList ++ magicKey) none "magic_key".toList now,
      surveyResponse config (surveySessionId magicKey timestamp uuid))

theorem magicKeyRejection_eq_none_iff (config : MagicKeyConfig) (magicKey : List Char) :
    magicKeyRejection config magicKey = none ↔
      config.enabled = true ∧ magicKey ∈ config.magicKeys := by
  unfold magicKeyRejection
  by_cases hen : config.enabled = true
  · by_cases hmem : magicKey ∈ config.magicKeys
    · have hne : config.magicKeys.isEmpty = false :=
        List.isEmpty_eq_false_iff.mpr (List.ne_nil_of_mem hmem)
      simp [hen, hne, hmem]
    · by_cases hempty : config.magicKeys.isEmpty = true <;> simp [hen, hempty, hmem]
  · simp [hen]

theorem magicKeyAuthWithCache_response (config : MagicKeyConfig)
    (authCache : Option AuthAddressCache) (addr : SocketAddr) (magicKey : List Char)
    (timestamp : UInt64) (uuid : Uuid) (now : Nat) :
    (magicKeyAuthWithCache config authCache addr magicKey timestamp uuid now).2 =
      magicKeyAuth config magicKey timestamp uuid := by
  unfold magicKeyAuthWithCache magicKeyAuth
  cases magicKeyRejection config magicKey <;> rfl

/-- The `Set-Cookie` of a cookie that can be sent back is a `HeaderValue`. -/
theorem surveySetCookie_headerValue {config : MagicKeyConfig} {sessionId : List Char}
    (h : isCookiePair (config.surveyCookieName, sessionId) = true) :
    (surveySetCookie config sessionId).all isHeaderValueChar = true := by
  have hitem := (isCookiePair_item h).1
  have hattributes : "; Path=/; HttpOnly; SameSite=Lax; Max-Age=".toList.all isVisibleAscii = true := by
    decide
  have hdigits := all_toDigits (p := isVisibleAscii)
    (fun d hd => by interval_cases d <;> rfl) config.surveyTimeoutSeconds
  have hvisible : (surveySetCookie config sessionId).all isVisibleAscii = true := by
    simp only [List.all_append] at hitem
    simp only [surveySetCookie, List.all_append, hitem, hattributes, hdigits, Bool.and_self]
  rw [List.all_eq_true] at hvisible ⊢
  intro c hc
  simp [isHeaderValueChar, hvisible c hc]

theorem magicKeyAuth_accepted {config : MagicKeyConfig} {magicKey : List Char}
    (henabled : config.enabled = true) (haccepted : magicKey ∈ config.magicKeys)
    {timestamp : UInt64} {uuid : Uuid}
    (hheader : (surveySetCookie config (surveySessionId magicKey timestamp uuid)).all
      isHeaderValueChar = true) :
    magicKeyAuth config magicKey timestamp uuid =
      .ok (surveySetCookie config (surveySessionId magicKey timestamp uuid))
        "Magic Key validated successfully".toList := by
  unfold magicKeyAuth surveyResponse
  rw [(magicKeyRejection_eq_none_iff config magicKey).mpr ⟨henabled, haccepted⟩]
  exact if_pos hheader

/-- Each restriction of the round trip is needed. A key with `_` is accepted but decodes to the
key with `-`, whose session `validate_survey_session` refuses; the cookie parse cuts a key at
`;`, and a cookie with `=` in its value is no `name=value` pair; the `Cookie` header of a key
beyond ASCII is refused by `to_str`, and a key with a control character gets a `500` instead of
its cookie. A cookie name that starts with a blank is trimmed into another name. -/
theorem survey_session_restrictions_needed :
    (let config : MagicKeyConfig :=
        { MagicKeyConfig.default with enabled := true, magicKeys := ["MY_KEY".toList] }
      let sessionId := surveySessionId "MY_KEY".toList 1700000000 ⟨0⟩
      magicKeyAuth config "MY_KEY".toList 1700000000 ⟨0⟩ =
          .ok (surveySetCookie config sessionId) "Magic Key validated successfully".toList ∧
        extractMagicKeyFromSession sessionId = some "MY-KEY".toList ∧
        extractMagicKeyFromSessionId sessionId = some "MY-KEY".toList ∧
        validateSurveySession sessionId config 1700000000 = false) ∧
    (let config : MagicKeyConfig :=
        { MagicKeyConfig.default with enabled := true, magicKeys := ["MY;KEY".toList] }
      let sessionId := surveySessionId "MY;KEY".toList 1700000000 ⟨0⟩
      magicKeyAuth config "MY;KEY".toList 1700000000 ⟨0⟩ =
          .ok (surveySetCookie config sessionId) "Magic Key validated successfully".toList ∧
        extractSessionId (collectAllCookies [cookieHeader [(config.surveyCookieName, sessionId)]])
          config.surveyCookieName = some "survey_MY".toList) ∧
    (let config : MagicKeyConfig :=
        { MagicKeyConfig.default with enabled := true, magicKeys := ["MY=KEY".toList] }
      let sessionId := surveySessionId "MY=KEY".toList 1700000000 ⟨0⟩
      magicKeyAuth config "MY=KEY".toList 1700000000 ⟨0⟩ =
          .ok (surveySetCookie config sessionId) "Magic Key validated successfully".toList ∧
        extractSessionId (collectAllCookies [cookieHeader [(config.surveyCookieName, sessionId)]])
          config.surveyCookieName = none) ∧
    (let config : MagicKeyConfig :=
        { MagicKeyConfig.default with enabled := true, magicKeys := ["MYKÉY".toList] }
      let sessionId := surveySessionId "MYKÉY".toList 1700000000 ⟨0⟩
      magicKeyAuth config "MYKÉY".toList 1700000000 ⟨0⟩ =
          .ok (surveySetCookie config sessionId) "Magic Key validated successfully".toList ∧
        extractSessionId (collectAllCookies [cookieHeader [(config.surveyCookieName, sessionId)]])
          config.surveyCookieName = none) ∧
    magicKeyAuth { MagicKeyConfig.default with enabled := true, magicKeys := ["MY\nKEY".toList] }
      "MY\nKEY".toList 1700000000 ⟨0⟩ = .internalServerError ∧
    (let config : MagicKeyConfig := { MagicKeyConfig.default with
        enabled := true, magicKeys := ["K".toList], surveyCookieName := " survey".toList }
      let sessionId := surveySessionId "K".toList 1700000000 ⟨0⟩
      magicKeyAuth config "K".toList 1700000000 ⟨0⟩ =
          .ok (surveySetCookie config sessionId) "Magic Key validated successfully".toList ∧
        extractSessionId (collectAllCookies [cookieHeader [(config.surveyCookieName, sessionId)]])
          config.surveyCookieName = none) := by
  refine ⟨⟨magicKeyAuth_accepted rfl (by decide) (by decide), ?_, ?_, ?_⟩,
    ⟨magicKeyAuth_accepted rfl (by decide) (by decide), by decide⟩,
    ⟨magicKeyAuth_accepted rfl (by decide) (by decide), by decide⟩,
    ⟨magicKeyAuth_accepted rfl (by decide) (by decide), by decide⟩, by decide,
    ⟨magicKeyAuth_accepted rfl (by decide) (by decide), by decide⟩⟩
  · rw [extractMagicKeyFromSession_surveySessionId]
    decide
  · rw [extractMagicKeyFromSessionId_surveySessionId]
    decide
  · rw [validateSurveySession_surveySessionId]
    decide

/-- The survey session round trip, for keys of visible ASCII without `_`, `=` and `;` and a
cookie name the parse can match: the session issued for an accepted key is found in the
`Cookie` header among other cookies, passes `validate_survey_session` while it is at most
`survey_timeout_seconds` old, and both decoders return the key. -/
theorem survey_session_round_trip (config : MagicKeyConfig) (magicKey : List Char)
    (timestamp : UInt64) (uuid : Uuid) (henabled : config.enabled = true)
    (haccepted : magicKey ∈ config.magicKeys)
    (hkey : magicKey.all (fun c => isVisibleAscii c && c != '_' && c != '=' && c != ';') = true)
    (hname : isCookieName config.surveyCookieName = true) :
    let sessionId := surveySessionId magicKey timestamp uuid
    magicKeyAuth config magicKey timestamp uuid =
        .ok (surveySetCookie config sessionId) "Magic Key validated successfully".toList ∧
      (∀ authCache addr now,
        (magicKeyAuthWithCache config authCache addr magicKey timestamp uuid now).2 =
          magicKeyAuth config magicKey timestamp uuid) ∧
      (∀ before after : List (List Char × List Char),
        (∀ cookie ∈ before, isCookiePair cookie = true ∧ cookie.1 ≠ config.surveyCookieName) →
        (∀ cookie ∈ after, isCookiePair cookie = true) →
        extractSessionId
          (collectAllCookies [cookieHeader (before ++ (config.surveyCookieName, sessionId) :: after)])
          config.surveyCookieName = some sessionId) ∧
      (∀ currentTime, currentTime ≤ timestamp.toNat + config.surveyTimeoutSeconds →
        validateSurveySession sessionId config currentTime = true) ∧
      extractMagicKeyFromSession sessionId = some magicKey ∧
      extractMagicKeyFromSessionId sessionId = some magicKey := by
  intro sessionId
  have hkey_us : '_' ∉ magicKey := not_mem_of_all hkey (by decide)
  have hdecode : replaceChar '_' '-' magicKey = magicKey := replaceChar_of_not_mem '-' hkey_us
  have hvalue : sessionId.all (fun c => isVisibleAscii c && c != ';' && c != '=') = true := by
    refine all_surveySessionId (by decide) (by decide) (by decide) (by decide) ?_ timestamp uuid
    rw [List.all_eq_true] at hkey ⊢
    intro c hc
    have := hkey c hc
    simp only [Bool.and_eq_true] at this ⊢
    exact ⟨⟨this.1.1.1, this.2⟩, this.1.2⟩
  have hpair : isCookiePair (config.surveyCookieName, sessionId) = true := by
    simp only [isCookiePair, hname, Bool.true_and, List.all_eq_true] at hvalue ⊢
    intro c hc
    simp only [Bool.and_eq_true] at hvalue ⊢
    exact (hvalue c hc).1
  have heq : '=' ∉ sessionId := not_mem_of_all hvalue (by decide)
  refine ⟨magicKeyAuth_accepted henabled haccepted (surveySetCookie_headerValue hpair),
    fun authCache addr now => magicKeyAuthWithCache_response config authCache addr magicKey
      timestamp uuid now, ?_, ?_, ?_, ?_⟩
  · intro before after hbefore hafter
    exact extractSessionId_collectAllCookies before after hpair heq
      (getLast?_surveySessionId magicKey timestamp uuid) hbefore hafter
  · intro currentTime hnow
    rw [validateSurveySession_surveySessionId, hdecode, List.contains_iff_mem.mpr haccepted]
    simp only [Bool.and_true, decide_eq_true_eq]
    omega
  · rw [extractMagicKeyFromSession_surveySessionId, hdecode]
  · rw [extractMagicKeyFromSessionId_surveySessionId, hdecode]

theorem survey_session_round_trip_survey_001 :
    extractMagicKeyFromSessionId (surveySessionId "SURVEY-001".toList 1700000000 ⟨0⟩) =
      some "SURVEY-001".toList :=
  (survey_session_round_trip
    { MagicKeyConfig.default with enabled := true, magicKeys := ["SURVEY-001".toList] }
    "SURVEY-001".toList 1700000000 ⟨0⟩ rfl (by decide) (by decide) (by decide)).2.2.2.2.2

end Netpoke
