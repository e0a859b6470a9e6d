import Netpoke.Library.Text

/-!
# Which ICE candidates a session keeps

A client asks for a session with an `ip_version` text (`SignalingStartRequest`,
`server/src/signaling.rs`). The server reads that text twice. `IpFamily::from_str_loose`
(`common/src/protocol.rs`) turns it into the family `create_peer_connection` restricts ICE to,
accepting `ipv4`, `4`, `v4` (and the same for 6) in any case and reading every other text as both
families. Three filters compare it, up to ASCII case, with the family they detect in a candidate's
address, `ipv4` or `ipv6`: `filter_sdp_candidates` on the candidate lines of the answer, the
server's `on_ice_candidate` handler on its own candidates, and `ice_candidate` on the client's.
All three drop name-based (mDNS) candidates and keep those whose family they cannot tell.

The three filters decide alike (`keepCandidate`), and a candidate they keep is always of a family
the peer connection may use. They keep exactly the candidates of the family `from_str_loose`
names only for the spellings `ipv4` and `ipv6`: for `4` or `v6` they drop every candidate of the
requested family, and for a text read as both families they drop every candidate
(`ip_version_spellings_drop_candidates`).

Rust's `to_lowercase` is modelled by the ASCII lowercase: the only character outside ASCII that it
turns into an ASCII one is the Kelvin sign, into `k`, and none of the six spellings holds a `k`,
so both decide the same match.
-/

namespace Netpoke

inductive IpFamily
  | IPv4
  | IPv6
  | Both
  deriving DecidableEq, Repr

/-- `to_ascii_lowercase`. -/
def asciiLowercase (s : List Char) : List Char :=
  s.map Char.toLower

def IpFamily.fromStrLoose (s : List Char) : IpFamily :=
  let lower := asciiLowercase s
  if lower = "ipv4".toList ∨ lower = "4".toList ∨ lower = "v4".toList then .IPv4
  else if lower = "ipv6".toList ∨ lower = "6".toList ∨ lower = "v6".toList then .IPv6
  else .Both

def eqIgnoreAsciiCase (a b : List Char) : Bool :=
  asciiLowercase a == asciiLowercase b

/-- The network types ICE gathers on: `Udp4` or `Udp6` alone for one family, and the default
ones, both, otherwise. -/
inductive NetworkType
  | udp4
  | udp6
  deriving DecidableEq, Repr

/-- The network types `create_peer_connection` sets for `ip_family`. -/
def createPeerConnectionNetworkTypes : Option IpFamily → List NetworkType
  | some .IPv4 => [.udp4]
  | some .IPv6 => [.udp6]
  | some .Both | none => [.udp4, .udp6]

/-! ### Candidates -/

def splitWhitespace (s : List Char) : List (List Char) :=
  (s.splitOnP CharList.isUnicodeWhiteSpace).filter (· ≠ [])

/-- The fifth field of a `candidate:` text, where both helpers of `common/src/ice_candidate.rs`
read the address. -/
def candidateAddress (candidateStr : List Char) : Option (List Char) :=
  if "candidate:".toList.isPrefixOf candidateStr then
    (splitWhitespace (candidateStr.drop "candidate:".length))[4]?
  else none

def isNameBasedCandidate (candidateStr : List Char) : Bool :=
  match candidateAddress candidateStr with
  | some ip => ".local".toList.isSuffixOf ip
  | none => false

/-- The family an address names, by the characters it holds. -/
def addressIpVersion (ip : List Char) : Option (List Char) :=
  if ':' ∈ ip then some "ipv6".toList else if '.' ∈ ip then some "ipv4".toList else none

def getCandidateIpVersion (candidateStr : List Char) : Option (List Char) :=
  (candidateAddress candidateStr).bind addressIpVersion

/-- What the three filters decide: a name-based candidate is dropped, and with an expected
version a candidate of a detected version is kept when the two agree up to ASCII case. -/
def keepCandidate (nameBased : Bool) (detectedVersion expectedVersion : Option (List Char)) :
    Bool :=
  if nameBased then false
  else
    match expectedVersion, detectedVersion with
    | some expected, some detected => eqIgnoreAsciiCase detected expected
    | _, _ => true

/-- Whether `filter_sdp_candidates` keeps a line of the SDP. -/
def keepSdpLine (ipVersion : Option (List Char)) (line : List Char) : Bool :=
  if "a=candidate:".toList.isPrefixOf line then
    -- `&line[2..]`
    keepCandidate (isNameBasedCandidate (line.drop 2)) (getCandidateIpVersion (line.drop 2))
      ipVersion
  else true

/-- `str::lines`: split at line feeds, dropping the carriage return before one, with no line
after a final line feed. -/
def lines (s : List Char) : List (List Char) :=
  let pieces := s.splitOn '\n'
  (pieces.dropLast.map fun line => if line.getLast? = some '\r' then line.dropLast else line) ++
    if pieces.getLast? = some [] then [] else pieces.getLast?.toList

def filterSdpCandidates (sdp : List Char) (ipVersion : Option (List Char)) : List Char :=
  "\r\n".toList.intercalate ((lines sdp).filter (keepSdpLine ipVersion)) ++ "\r\n".toList

/-- The `should_store` of the server's `on_ice_candidate` handler, on the candidate's address;
it detects the version itself, writing `""` for none. -/
def serverCandidateShouldStore (ipVersionFilter : Option (List Char))
    (candidateAddress : List Char) : Bool :=
  if ".local".toList.isSuffixOf candidateAddress then false
  else
    match ipVersionFilter with
    | some expectedVersion =>
      let detectedVersion :=
        if ':' ∈ candidateAddress then "ipv6".toList
        else if '.' ∈ candidateAddress then "ipv4".toList else []
      if detectedVersion ≠ [] then eqIgnoreAsciiCase detectedVersion expectedVersion else true
    | none => true

/-- The `should_add` of `ice_candidate`, for a session started with `sessionIpVersion`. -/
def iceCandidateShouldAdd (sessionIpVersion : Option (List Char)) (candidateStr : List Char) :
    Bool :=
  keepCandidate (isNameBasedCandidate candidateStr) (getCandidateIpVersion candidateStr)
    sessionIpVersion

/-! ### The filters decide alike -/

theorem serverCandidateShouldStore_eq (ipVersionFilter : Option (List Char))
    (candidateAddress : List Char) :
    serverCandidateShouldStore ipVersionFilter candidateAddress =
      keepCandidate (".local".toList.isSuffixOf candidateAddress)
        (addressIpVersion candidateAddress) ipVersionFilter := by
  unfold serverCandidateShouldStore keepCandidate addressIpVersion
  by_cases hlocal : ".local".toList.isSuffixOf candidateAddress = true
  · rw [if_pos hlocal, if_pos hlocal]
  · rw [if_neg hlocal, if_neg hlocal]
    cases ipVersionFilter with
    | none => rfl
    | some expected =>
      dsimp only
      -- the server writes `""` where the helper returns `None`
      by_cases hcolon : ':' ∈ candidateAddress
      · rw [if_pos hcolon, if_pos hcolon, if_pos (by decide)]
      · rw [if_neg hcolon, if_neg hcolon]
        by_cases hdot : '.' ∈ candidateAddress
        · rw [if_pos hdot, if_pos hdot, if_pos (by decide)]
        · rw [if_neg hdot, if_neg hdot, if_neg (by decide)]

theorem isPrefixOf_of_candidateAddress {candidateStr ip : List Char}
    (hip : candidateAddress candidateStr = some ip) :
    "candidate:".toList.isPrefixOf candidateStr = true := by
  unfold candidateAddress at hip
  by_cases hprefix : "candidate:".toList.isPrefixOf candidateStr = true
  · exact hprefix
  · rw [if_neg hprefix] at hip
    cases hip

theorem iceCandidateShouldAdd_of_address {candidateStr ip : List Char}
    (hip : candidateAddress candidateStr = some ip) (sessionIpVersion : Option (List Char)) :
    iceCandidateShouldAdd sessionIpVersion candidateStr =
      keepCandidate (".local".toList.isSuffixOf ip) (addressIpVersion ip) sessionIpVersion := by
  unfold iceCandidateShouldAdd isNameBasedCandidate getCandidateIpVersion
  rw [hip]
  rfl

/-- The SDP filter decides a candidate line as `ice_candidate` decides the candidate. -/
theorem keepSdpLine_candidate {candidateStr ip : List Char}
    (hip : candidateAddress candidateStr = some ip) (ipVersion : Option (List Char)) :
    keepSdpLine ipVersion ("a=".toList ++ candidateStr) =
      iceCandidateShouldAdd ipVersion candidateStr := by
  have hprefix : "a=candidate:".toList.isPrefixOf ("a=".toList ++ candidateStr) = true := by
    have hsplit : "a=candidate:".toList = "a=".toList ++ "candidate:".toList := rfl
    rw [hsplit, List.isPrefixOf_iff_prefix, List.prefix_append_right_inj,
      ← List.isPrefixOf_iff_prefix]
    exact isPrefixOf_of_candidateAddress hip
  have hdrop : ("a=".toList ++ candidateStr).drop 2 = candidateStr := List.drop_left' rfl
  unfold keepSdpLine
  rw [if_pos hprefix, hdrop]
  rfl

/-! ### Lines of the answer -/

theorem not_mem_lines (s : List Char) : ∀ l ∈ lines s, '\n' ∉ l := by
  intro l hl
  have hpiece : ∀ p ∈ s.splitOn '\n', '\n' ∉ p := CharList.not_mem_of_mem_splitOn '\n' s
  unfold lines at hl
  rcases List.mem_append.mp hl with hl | hl
  · -- a terminated line, its carriage return dropped or not
    obtain ⟨p, hp, rfl⟩ := List.mem_map.mp hl
    have hnot := hpiece p (List.mem_of_mem_dropLast hp)
    split
    · exact fun hmem => hnot (List.mem_of_mem_dropLast hmem)
    · exact hnot
  · split at hl
    · cases hl
    · cases hlast : (s.splitOn '\n').getLast? with
      | none => simp [hlast] at hl
      | some p =>
        rw [hlast, Option.toList_some, List.mem_singleton] at hl
        rw [hl]
        exact hpiece p (List.mem_of_getLast? hlast)

theorem lines_join {kept : List (List Char)} (hne : kept ≠ []) (hnl : ∀ l ∈ kept, '\n' ∉ l) :
    lines ("\r\n".toList.intercalate kept ++ "\r\n".toList) = kept := by
  have hmapne : kept.map (· ++ ['\r']) ≠ [] := by simpa using hne
  have hcrlf : "\r\n".toList = ['\r'] ++ ['\n'] := rfl
  have hjoin : "\r\n".toList.intercalate kept ++ "\r\n".toList =
      ['\n'].intercalate (kept.map (· ++ ['\r']) ++ [[]]) := by
    rw [CharList.intercalate_append_sep _ hne, CharList.intercalate_append_cons ['\n'] [] [] hmapne,
      List.intercalate_singleton, List.append_nil, CharList.intercalate_append_sep _ hmapne,
      List.flatMap_map, hcrlf]
    simp only [List.append_assoc]
  have hpieces : ∀ l ∈ kept.map (· ++ ['\r']) ++ [[]], '\n' ∉ l := by
    intro l hl
    rcases List.mem_append.mp hl with hl | hl
    · obtain ⟨k, hk, rfl⟩ := List.mem_map.mp hl
      simpa using hnl k hk
    · rw [List.mem_singleton.mp hl]
      exact List.not_mem_nil
  have hstrip : (kept.map (· ++ ['\r'])).map
      (fun line => if line.getLast? = some '\r' then line.dropLast else line) = kept := by
    rw [List.map_map]
    conv_rhs => rw [← List.map_id kept]
    apply List.map_congr_left
    intro l _
    simp
  unfold lines
  dsimp only
  rw [hjoin, List.splitOn_intercalate '\n' hpieces (by simp),
    List.dropLast_append_of_ne_nil (List.cons_ne_nil _ _), List.dropLast_singleton,
    List.append_nil, hstrip, List.getLast?_append, List.getLast?_singleton]
  simp

/-- A nonempty line is in the filtered SDP exactly when it is a line of the SDP the filter
keeps. -/
theorem mem_lines_filterSdpCandidates (sdp : List Char) (ipVersion : Option (List Char))
    {line : List Char} (hline : line ≠ []) :
    line ∈ lines (filterSdpCandidates sdp ipVersion) ↔
      line ∈ lines sdp ∧ keepSdpLine ipVersion line = true := by
  unfold filterSdpCandidates
  by_cases hkept : (lines sdp).filter (keepSdpLine ipVersion) = []
  · have hempty : lines "\r\n".toList = [[]] := by decide
    rw [hkept, List.intercalate_nil, List.nil_append, hempty, List.mem_singleton]
    constructor
    · intro heq
      exact absurd heq hline
    · rintro ⟨hmem, hkeep⟩
      exact absurd hkeep (by simpa using List.filter_eq_nil_iff.mp hkept line hmem)
  · rw [lines_join hkept fun l hl => not_mem_lines sdp l (List.mem_of_mem_filter hl),
      List.mem_filter]

/-! ### Families -/

theorem eqIgnoreAsciiCase_of_lower {family : List Char} (hfamily : asciiLowercase family = family)
    (v : List Char) : eqIgnoreAsciiCase family v = true ↔ asciiLowercase v = family := by
  unfold eqIgnoreAsciiCase
  rw [hfamily, beq_iff_eq, eq_comm]

theorem fromStrLoose_of_ipv4 {v : List Char} (h : asciiLowercase v = "ipv4".toList) :
    IpFamily.fromStrLoose v = .IPv4 := by
  unfold IpFamily.fromStrLoose
  dsimp only
  rw [h, if_pos (Or.inl rfl)]

theorem fromStrLoose_of_ipv6 {v : List Char} (h : asciiLowercase v = "ipv6".toList) :
    IpFamily.fromStrLoose v = .IPv6 := by
  unfold IpFamily.fromStrLoose
  dsimp only
  rw [h, if_neg (by decide), if_pos (Or.inl rfl)]

/-- The spellings `4` and `v4` name IPv4 for the peer connection, yet all three filters drop an
IPv4 host candidate; `any` names both families, and the filters drop candidates of either. -/
theorem ip_version_spellings_drop_candidates :
    IpFamily.fromStrLoose "4".toList = .IPv4 ∧
    keepSdpLine (some "4".toList) "a=candidate:1 1 udp 1 1.2.3.4 9 typ host".toList = false ∧
    serverCandidateShouldStore (some "4".toList) "1.2.3.4".toList = false ∧
    iceCandidateShouldAdd (some "4".toList) "candidate:1 1 udp 1 1.2.3.4 9 typ host".toList =
      false ∧
    IpFamily.fromStrLoose "v4".toList = .IPv4 ∧
    iceCandidateShouldAdd (some "v4".toList) "candidate:1 1 udp 1 1.2.3.4 9 typ host".toList =
      false ∧
    IpFamily.fromStrLoose "any".toList = .Both ∧
    iceCandidateShouldAdd (some "any".toList) "candidate:1 1 udp 1 1.2.3.4 9 typ host".toList =
      false ∧
    iceCandidateShouldAdd (some "any".toList) "candidate:1 1 udp 1 2001:db8::1 9 typ host".toList =
      false := by
  decide

theorem candidate_filters_agree :
    (∀ (ipVersion : Option (List Char)) (sdp candidateStr ip : List Char),
    candidateAddress candidateStr = some ip →
    ("a=".toList ++ candidateStr ∈ lines (filterSdpCandidates sdp ipVersion) ↔
      "a=".toList ++ candidateStr ∈ lines sdp ∧
        iceCandidateShouldAdd ipVersion candidateStr = true) ∧
    serverCandidateShouldStore ipVersion ip = iceCandidateShouldAdd ipVersion candidateStr ∧
    (∀ v, ".local".toList.isSuffixOf ip = false → addressIpVersion ip = some "ipv4".toList →
      (iceCandidateShouldAdd (some v) candidateStr = true ↔ asciiLowercase v = "ipv4".toList) ∧
      (iceCandidateShouldAdd (some v) candidateStr = true →
        IpFamily.fromStrLoose v = .IPv4 ∧
          createPeerConnectionNetworkTypes (some (IpFamily.fromStrLoose v)) = [.udp4])) ∧
    (∀ v, ".local".toList.isSuffixOf ip = false → addressIpVersion ip = some "ipv6".toList →
      (iceCandidateShouldAdd (some v) candidateStr = true ↔ asciiLowercase v = "ipv6".toList) ∧
      (iceCandidateShouldAdd (some v) candidateStr = true →
        IpFamily.fromStrLoose v = .IPv6 ∧
          createPeerConnectionNetworkTypes (some (IpFamily.fromStrLoose v)) = [.udp6]))) ∧
    IpFamily.fromStrLoose "4".toList = .IPv4 ∧
    keepSdpLine (some "4".toList) "a=candidate:1 1 udp 1 1.2.3.4 9 typ host".toList = false ∧
    serverCandidateShouldStore (some "4".toList) "1.2.3.4".toList = false ∧
    iceCandidateShouldAdd (some "4".toList) "candidate:1 1 udp 1 1.2.3.4 9 typ host".toList =
      false ∧
    IpFamily.fromStrLoose "v4".toList = .IPv4 ∧
    iceCandidateShouldAdd (some "v4".toList) "candidate:1 1 udp 1 1.2.3.4 9 typ host".toList =
      false ∧
    IpFamily.fromStrLoose "any".toList = .Both ∧
    iceCandidateShouldAdd (some "any".toList) "candidate:1 1 udp 1 1.2.3.4 9 typ host".toList =
      false ∧
    iceCandidateShouldAdd (some "any".toList) "candidate:1 1 udp 1 2001:db8::1 9 typ host".toList =
      false := by
  refine ⟨fun ipVersion sdp candidateStr ip hip => ?_, ip_version_spellings_drop_candidates⟩
  have hice := iceCandidateShouldAdd_of_address hip
  refine ⟨?_, ?_, fun v hlocal hfamily => ?_, fun v hlocal hfamily => ?_⟩
  · rw [mem_lines_filterSdpCandidates sdp ipVersion (by simp), keepSdpLine_candidate hip]
  · rw [serverCandidateShouldStore_eq, hice]
  · -- a detected IPv4 address is kept exactly for the spelling `ipv4`
    have hkeep : iceCandidateShouldAdd (some v) candidateStr = true ↔
        asciiLowercase v = "ipv4".toList := by
      rw [hice, hlocal, hfamily]
      exact eqIgnoreAsciiCase_of_lower (by decide) v
    refine ⟨hkeep, fun hkept => ?_⟩
    rw [fromStrLoose_of_ipv4 (hkeep.mp hkept)]
    exact ⟨rfl, rfl⟩
  · have hkeep : iceCandidateShouldAdd (some v) candidateStr = true ↔
        asciiLowercase v = "ipv6".toList := by
      rw [hice, hlocal, hfamily]
      exact eqIgnoreAsciiCase_of_lower (by decide) v
    refine ⟨hkeep, fun hkept => ?_⟩
    rw [fromStrLoose_of_ipv6 (hkeep.mp hkept)]
    exact ⟨rfl, rfl⟩

end Netpoke
