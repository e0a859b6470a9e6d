import Netpoke.Server.IcmpCorrelation

/-!
# Tagging captured frames with their survey session

`PacketCaptureService::add_packet` (`server/src/packet_capture.rs`) tags every frame libpcap
delivers with the survey session its addresses are registered for
(`extract_session_id_from_packet`). It reads the UDP addresses of the frame
(`parse_packet_addresses`) and looks them up; for an ICMP error it reads the destination of the
quoted UDP packet (`extract_embedded_destination`) and looks up its port, then the address. Each
of the three parsers first guesses where the IP header starts (`captureIpStart`): after an
Ethernet header whose EtherType is IPv4 or IPv6, else at the start of a frame whose first byte
has IP version 4 or 6.

The models return `none` for a panic and `some` of what the source returns. No frame makes the
tagging panic, and once the IP header is found it reads exactly the addresses and ports of the
IP and UDP headers, or of the quoted packet (`capture_tagging_total`). The guess is right for
every Ethernet frame, but a raw IP frame whose bytes 12 and 13 happen to read as an IPv4 or IPv6
EtherType is taken for an Ethernet frame: an IPv4 datagram from `8.0.0.1` is looked up at the
wrong offset and goes untagged (`raw_ipv4_frame_misread`).
-/

namespace Netpoke

/-- `SessionRegistry`; `registered_session_ids` is read only by `has_session`. -/
structure SessionRegistry where
  addressToSession : AssocMap SocketAddr (List Char)
  serverPortToSession : AssocMap Nat (List (List Char))

namespace SessionRegistry

def new : SessionRegistry :=
  ⟨AssocMap.empty, AssocMap.empty⟩

/-- `register`: the client address, and the server port unless it is 0. -/
def register (r : SessionRegistry) (clientAddr : SocketAddr) (serverPort : Nat)
    (surveySessionId : List Char) : SessionRegistry :=
  { addressToSession := r.addressToSession.insert clientAddr surveySessionId
    serverPortToSession :=
      if serverPort > 0 then
        r.serverPortToSession.insert serverPort
          ((r.serverPortToSession.get serverPort).getD [] ++ [surveySessionId])
      else r.serverPortToSession }

def unregister (r : SessionRegistry) (clientAddr : SocketAddr) : SessionRegistry :=
  { r with addressToSession := r.addressToSession.erase clientAddr }

def lookup (r : SessionRegistry) (addr : SocketAddr) : Option (List Char) :=
  r.addressToSession.get addr

def lookupByEither (r : SessionRegistry) (src dst : SocketAddr) : Option (List Char) :=
  (r.addressToSession.get src).or (r.addressToSession.get dst)

/-- `lookup_by_server_port`: the first session registered for the port. -/
def lookupByServerPort (r : SessionRegistry) (port : Nat) : Option (List Char) :=
  (r.serverPortToSession.get port).bind List.head?

end SessionRegistry

/-! ### The parsers -/

/-- Where the IP header starts, as each of the three parsers guesses it; `none` inside for a
frame none of them reads. -/
def captureIpStart (data : List UInt8) : Option (Option Nat) := do
  if data.length ≥ 14 then
    let ethertype ← readU16 data 12
    if ethertype = 0x0800 ∨ ethertype = 0x86DD then return some 14
    -- raw IP, which the source takes for Linux cooked capture
    let first : UInt8 ← data[0]?
    if first >>> 4 = 4 ∨ first >>> 4 = 6 then return some 0
    return none
  else return some 0

/-- `parse_ipv4_udp_addresses`; the four bytes of an address are read one by one, which panics
exactly where the slice does. -/
def parseIpv4UdpAddresses (data : List UInt8) (ipStart : Nat) :
    Option (Option (SocketAddr × SocketAddr)) := do
  if data.length < ipStart + 20 then return none
  let first : UInt8 ← data[ipStart]?
  -- at most 60, so the `u8` product does not overflow
  let ihl := (first &&& 0x0F).toNat * 4
  let protocol ← data[ipStart + 9]?
  if protocol != 17 && protocol != 1 then return none
  let srcIp ← slice data (ipStart + 12) (ipStart + 16)
  let dstIp ← slice data (ipStart + 16) (ipStart + 20)
  let udpStart := ipStart + ihl
  -- ICMP gets port 0, whether or not eight more bytes follow
  if data.length < udpStart + 8 then
    if protocol = 1 then
      return some (⟨.v4 (ipv4OfBytes srcIp), 0⟩, ⟨.v4 (ipv4OfBytes dstIp), 0⟩)
    return none
  if protocol = 1 then
    return some (⟨.v4 (ipv4OfBytes srcIp), 0⟩, ⟨.v4 (ipv4OfBytes dstIp), 0⟩)
  let srcPort ← readU16 data udpStart
  let dstPort ← readU16 data (udpStart + 2)
  return some (⟨.v4 (ipv4OfBytes srcIp), srcPort⟩, ⟨.v4 (ipv4OfBytes dstIp), dstPort⟩)

def parseIpv6UdpAddresses (data : List UInt8) (ipStart : Nat) :
    Option (Option (SocketAddr × SocketAddr)) := do
  if data.length < ipStart + 40 then return none
  let nextHeader ← data[ipStart + 6]?
  if nextHeader != 17 && nextHeader != 58 then return none
  -- the 16-byte slices always convert to `[u8; 16]`
  let srcIp ← slice data (ipStart + 8) (ipStart + 24)
  let dstIp ← slice data (ipStart + 24) (ipStart + 40)
  let udpStart := ipStart + 40
  if nextHeader = 58 then
    return some (⟨.v6 (ipv6OfBytes srcIp), 0⟩, ⟨.v6 (ipv6OfBytes dstIp), 0⟩)
  if data.length < udpStart + 8 then return none
  let srcPort ← readU16 data udpStart
  let dstPort ← readU16 data (udpStart + 2)
  return some (⟨.v6 (ipv6OfBytes srcIp), srcPort⟩, ⟨.v6 (ipv6OfBytes dstIp), dstPort⟩)

def parsePacketAddresses (data : List UInt8) : Option (Option (SocketAddr × SocketAddr)) := do
  if data.length < 42 then return none
  let some ipStart ← captureIpStart data | return none
  if ipStart ≥ data.length then return none
  let first : UInt8 ← data[ipStart]?
  let ipVersion := (first >>> 4) &&& 0x0F
  if ipVersion = 4 then parseIpv4UdpAddresses data ipStart
  else if ipVersion = 6 then parseIpv6UdpAddresses data ipStart
  else return none

def isIcmpErrorPacket (data : List UInt8) : Option Bool := do
  if data.length < 34 then return false
  let some ipStart ← captureIpStart data | return false
  if ipStart ≥ data.length then return false
  let first : UInt8 ← data[ipStart]?
  let ipVersion := (first >>> 4) &&& 0x0F
  if ipVersion = 4 then
    if data.length < ipStart + 21 then return false
    let protocol ← data[ipStart + 9]?
    if protocol != 1 then return false
    let ihl := (first &&& 0x0F).toNat * 4
    if data.length < ipStart + ihl + 1 then return false
    let icmpType ← data[ipStart + ihl]?
    return ([3, 11, 12] : List UInt8).contains icmpType
  else if ipVersion = 6 then
    if data.length < ipStart + 41 then return false
    let nextHeader ← data[ipStart + 6]?
    if nextHeader != 58 then return false
    let icmpv6Type ← data[ipStart + 40]?
    return ([1, 2, 3] : List UInt8).contains icmpv6Type
  else return false

def extractEmbeddedIpv4Destination (data : List UInt8) (ipStart : Nat) :
    Option (Option SocketAddr) := do
  let first : UInt8 ← data[ipStart]?
  let ihl := (first &&& 0x0F).toNat * 4
  let icmpStart := ipStart + ihl
  let embeddedIpStart := icmpStart + 8
  if data.length < embeddedIpStart + 28 then return none
  let embeddedFirst : UInt8 ← data[embeddedIpStart]?
  let embeddedIhl := (embeddedFirst &&& 0x0F).toNat * 4
  let embeddedProtocol ← data[embeddedIpStart + 9]?
  if embeddedProtocol != 17 then return none
  let dstIp ← slice data (embeddedIpStart + 16) (embeddedIpStart + 20)
  let embeddedUdpStart := embeddedIpStart + embeddedIhl
  if data.length < embeddedUdpStart + 4 then return none
  let dstPort ← readU16 data (embeddedUdpStart + 2)
  return some ⟨.v4 (ipv4OfBytes dstIp), dstPort⟩

def extractEmbeddedIpv6Destination (data : List UInt8) (ipStart : Nat) :
    Option (Option SocketAddr) := do
  let icmpv6Start := ipStart + 40
  let embeddedIpStart := icmpv6Start + 8
  if data.length < embeddedIpStart + 48 then return none
  let embeddedNextHeader ← data[embeddedIpStart + 6]?
  if embeddedNextHeader != 17 then return none
  let dstIp ← slice data (embeddedIpStart + 24) (embeddedIpStart + 40)
  let embeddedUdpStart := embeddedIpStart + 40
  if data.length < embeddedUdpStart + 4 then return none
  let dstPort ← readU16 data (embeddedUdpStart + 2)
  return some ⟨.v6 (ipv6OfBytes dstIp), dstPort⟩

/-- `extract_embedded_destination`; it reads the first IP byte unchecked, which its one caller
makes safe. -/
def extractEmbeddedDestination (data : List UInt8) : Option (Option SocketAddr) := do
  let some ipStart ← captureIpStart data | return none
  let first : UInt8 ← data[ipStart]?
  let ipVersion := (first >>> 4) &&& 0x0F
  if ipVersion = 4 then extractEmbeddedIpv4Destination data ipStart
  else if ipVersion = 6 then extractEmbeddedIpv6Destination data ipStart
  else return none

def extractSessionIdFromPacket (registry : SessionRegistry) (data : List UInt8) :
    Option (Option (List Char)) := do
  let some (srcAddr, dstAddr) ← parsePacketAddresses data | return none
  match registry.lookupByEither srcAddr dstAddr with
  | some sessionId => return some sessionId
  | none =>
    -- an ICMP error is looked up by the destination of the packet it quotes
    if ← isIcmpErrorPacket data then
      match ← extractEmbeddedDestination data with
      | some embeddedDst =>
        return (registry.lookupByServerPort embeddedDst.port).or (registry.lookup embeddedDst)
      | none => return none
    else return none

/-! ### No frame panics -/

theorem captureIpStart_ne_none (data : List UInt8) : captureIpStart data ≠ none := by
  unfold captureIpStart
  by_cases h14 : data.length ≥ 14
  · simp +contextual (disch := omega) only [h14, if_true, List.getElem?_eq_getElem,
      Option.bind_eq_bind, Option.bind_some, readU16_of_lt]
    split_ifs <;> simp
  · simp [h14]

theorem captureIpStart_cases {data : List UInt8} {ipStart : Nat}
    (h : captureIpStart data = some (some ipStart)) : ipStart = 0 ∨ ipStart = 14 := by
  unfold captureIpStart at h
  by_cases h14 : data.length ≥ 14
  · simp +contextual (disch := omega) only [h14, if_true, List.getElem?_eq_getElem,
      Option.bind_eq_bind, Option.bind_some, readU16_of_lt] at h
    split_ifs at h <;> simp_all
  · simp only [h14, if_false] at h
    cases h
    exact .inl rfl

/-- Where `capture_ip_start` puts the IP header: nowhere, at 0 or at 14. -/
theorem captureIpStart_spec (data : List UInt8) :
    captureIpStart data = some none ∨
      ∃ ipStart, captureIpStart data = some (some ipStart) ∧ (ipStart = 0 ∨ ipStart = 14) := by
  cases hstart : captureIpStart data with
  | none => exact absurd hstart (captureIpStart_ne_none data)
  | some start =>
    cases start with
    | none => exact .inl rfl
    | some ipStart => exact .inr ⟨ipStart, rfl, captureIpStart_cases hstart⟩

theorem lt_length_of_captureIpStart {data : List UInt8} {ipStart : Nat}
    (hstart : captureIpStart data = some (some ipStart)) (h : 14 < data.length) :
    ipStart < data.length := by
  rcases captureIpStart_cases hstart with rfl | rfl <;> omega

theorem parseIpv4UdpAddresses_ne_none (data : List UInt8) (ipStart : Nat) :
    parseIpv4UdpAddresses data ipStart ≠ none := by
  unfold parseIpv4UdpAddresses
  by_cases hlen : data.length < ipStart + 20
  · simp [hlen]
  · simp +contextual (disch := omega) only [hlen, if_false, List.getElem?_eq_getElem,
      Option.bind_eq_bind, Option.bind_some, slice_of_le, readU16_of_lt]
    split_ifs <;> simp

theorem parseIpv6UdpAddresses_ne_none (data : List UInt8) (ipStart : Nat) :
    parseIpv6UdpAddresses data ipStart ≠ none := by
  unfold parseIpv6UdpAddresses
  by_cases hlen : data.length < ipStart + 40
  · simp [hlen]
  · simp +contextual (disch := omega) only [hlen, if_false, List.getElem?_eq_getElem,
      Option.bind_eq_bind, Option.bind_some, slice_of_le, readU16_of_lt]
    split_ifs <;> simp

theorem parsePacketAddresses_ne_none (data : List UInt8) : parsePacketAddresses data ≠ none := by
  unfold parsePacketAddresses
  by_cases hlen : data.length < 42
  · simp [hlen]
  · rw [if_neg hlen]
    rcases captureIpStart_spec data with hstart | ⟨ipStart, hstart, hip⟩
    · simp [hstart]
    · -- the header starts at 0 or 14, well inside a frame of 42 bytes
      have hlt : ipStart < data.length := by rcases hip with rfl | rfl <;> omega
      simp only [hstart, Option.bind_eq_bind, Option.bind_some]
      rw [if_neg (by omega), List.getElem?_eq_getElem hlt, Option.bind_some]
      split_ifs
      · exact parseIpv4UdpAddresses_ne_none data ipStart
      · exact parseIpv6UdpAddresses_ne_none data ipStart
      · simp

theorem isIcmpErrorPacket_ne_none (data : List UInt8) : isIcmpErrorPacket data ≠ none := by
  unfold isIcmpErrorPacket
  by_cases hlen : data.length < 34
  · simp [hlen]
  · rw [if_neg hlen]
    rcases captureIpStart_spec data with hstart | ⟨ipStart, hstart, -⟩
    · simp [hstart]
    · simp only [hstart, Option.bind_eq_bind, Option.bind_some]
      by_cases hend : ipStart ≥ data.length
      · simp [hend]
      · rw [if_neg hend, List.getElem?_eq_getElem (by omega), Option.bind_some]
        split
        · -- IPv4: the protocol byte, then the ICMP type after the header
          by_cases hshort : data.length < ipStart + 21
          · rw [if_pos hshort]
            simp
          · rw [if_neg hshort, List.getElem?_eq_getElem (by omega), Option.bind_some]
            split
            · simp
            · generalize (data[ipStart] &&& 0x0F).toNat * 4 = ihl
              by_cases htype : data.length < ipStart + ihl + 1
              · rw [if_pos htype]
                simp
              · rw [if_neg htype, List.getElem?_eq_getElem (by omega)]
                simp
        · split
          · -- IPv6: the next header, then the ICMPv6 type after the fixed header
            by_cases hshort : data.length < ipStart + 41
            · rw [if_pos hshort]
              simp
            · rw [if_neg hshort, List.getElem?_eq_getElem (by omega), Option.bind_some]
              split
              · simp
              · rw [List.getElem?_eq_getElem (by omega)]
                simp
          · simp

theorem extractEmbeddedIpv4Destination_ne_none {data : List UInt8} {ipStart : Nat}
    (h : ipStart < data.length) : extractEmbeddedIpv4Destination data ipStart ≠ none := by
  unfold extractEmbeddedIpv4Destination
  rw [List.getElem?_eq_getElem h]
  simp only [Option.bind_eq_bind, Option.bind_some]
  generalize (data[ipStart] &&& 0x0F).toNat * 4 = ihl
  by_cases hroom : data.length < ipStart + ihl + 8 + 28
  · rw [if_pos hroom]
    simp
  · -- the quoted header's first 28 bytes are there
    rw [if_neg hroom, List.getElem?_eq_getElem (by omega), Option.bind_some,
      List.getElem?_eq_getElem (by omega), Option.bind_some]
    generalize (data[ipStart + ihl + 8] &&& 0x0F).toNat * 4 = embeddedIhl
    split
    · simp
    · rw [slice_of_le (by omega) (by omega), Option.bind_some]
      split
      · simp
      · rw [readU16_of_lt (by omega)]
        simp

theorem extractEmbeddedIpv6Destination_ne_none (data : List UInt8) (ipStart : Nat) :
    extractEmbeddedIpv6Destination data ipStart ≠ none := by
  unfold extractEmbeddedIpv6Destination
  by_cases hroom : data.length < ipStart + 40 + 8 + 48
  · rw [if_pos hroom]
    simp
  · rw [if_neg hroom, List.getElem?_eq_getElem (by omega)]
    simp only [Option.bind_eq_bind, Option.bind_some]
    split
    · simp
    · rw [slice_of_le (by omega) (by omega), Option.bind_some, if_neg (by omega),
        readU16_of_lt (by omega)]
      simp

/-- `extract_embedded_destination` reads its first byte in range once the frame is longer than
an Ethernet header. -/
theorem extractEmbeddedDestination_ne_none {data : List UInt8} (h : 14 < data.length) :
    extractEmbeddedDestination data ≠ none := by
  unfold extractEmbeddedDestination
  rcases captureIpStart_spec data with hstart | ⟨ipStart, hstart, hip⟩
  · simp [hstart]
  · have hlt : ipStart < data.length := by rcases hip with rfl | rfl <;> omega
    simp only [hstart, Option.bind_eq_bind, Option.bind_some]
    rw [List.getElem?_eq_getElem hlt, Option.bind_some]
    split_ifs
    · exact extractEmbeddedIpv4Destination_ne_none hlt
    · exact extractEmbeddedIpv6Destination_ne_none data ipStart
    · simp

theorem length_of_parsePacketAddresses {data : List UInt8} {addrs : SocketAddr × SocketAddr}
    (h : parsePacketAddresses data = some (some addrs)) : 42 ≤ data.length := by
  unfold parsePacketAddresses at h
  by_cases hlen : data.length < 42
  · simp [hlen] at h
  · omega

theorem extractSessionIdFromPacket_ne_none (registry : SessionRegistry) (data : List UInt8) :
    extractSessionIdFromPacket registry data ≠ none := by
  unfold extractSessionIdFromPacket
  cases hparse : parsePacketAddresses data with
  | none => exact absurd hparse (parsePacketAddresses_ne_none data)
  | some parsed =>
    cases parsed with
    | none => simp
    | some addrs =>
      have hlen := length_of_parsePacketAddresses hparse
      obtain ⟨srcAddr, dstAddr⟩ := addrs
      simp only [Option.bind_eq_bind, Option.bind_some]
      cases registry.lookupByEither srcAddr dstAddr with
      | some sessionId => simp
      | none =>
        cases hicmp : isIcmpErrorPacket data with
        | none => exact absurd hicmp (isIcmpErrorPacket_ne_none data)
        | some isError =>
          cases isError with
          | false => simp
          | true =>
            cases hdst : extractEmbeddedDestination data with
            | none => exact absurd hdst (extractEmbeddedDestination_ne_none (by omega))
            | some dst => cases dst <;> simp

/-! ### Where the IP header is found -/

theorem captureIpStart_ethernet {data : List UInt8} (h14 : 14 ≤ data.length)
    (hethertype : be16At data 12 = 0x0800 ∨ be16At data 12 = 0x86DD) :
    captureIpStart data = some (some 14) := by
  unfold captureIpStart
  rw [if_pos h14, readU16_of_lt (by omega)]
  simp only [Option.bind_eq_bind, Option.bind_some]
  rw [if_pos hethertype]
  rfl

theorem captureIpStart_raw {data : List UInt8} {first : UInt8} (h14 : 14 ≤ data.length)
    (hethertype : ¬(be16At data 12 = 0x0800 ∨ be16At data 12 = 0x86DD))
    (hfirst : data[0]? = some first) (hversion : first >>> 4 = 4 ∨ first >>> 4 = 6) :
    captureIpStart data = some (some 0) := by
  unfold captureIpStart
  rw [if_pos h14, readU16_of_lt (by omega)]
  simp only [Option.bind_eq_bind, Option.bind_some]
  rw [if_neg hethertype, hfirst, Option.bind_some, if_pos hversion]
  rfl

/-! ### What the parsers read -/

theorem parseIpv4UdpAddresses_udp {data : List UInt8} {ipStart : Nat} {first : UInt8}
    (h20 : ipStart + 20 ≤ data.length) (hfirst : data[ipStart]? = some first)
    (hprotocol : data[ipStart + 9]? = some 17)
    (hudp : ipStart + (first &&& 0x0F).toNat * 4 + 8 ≤ data.length) :
    parseIpv4UdpAddresses data ipStart =
      some (some (⟨.v4 (ipv4OfBytes ((data.drop (ipStart + 12)).take 4)),
          be16At data (ipStart + (first &&& 0x0F).toNat * 4)⟩,
        ⟨.v4 (ipv4OfBytes ((data.drop (ipStart + 16)).take 4)),
          be16At data (ipStart + (first &&& 0x0F).toNat * 4 + 2)⟩)) := by
  unfold parseIpv4UdpAddresses
  rw [if_neg (by omega)]
  simp only [Option.bind_eq_bind, hfirst, hprotocol, Option.bind_some]
  rw [if_neg (by decide), slice_of_le (by omega) (by omega), Option.bind_some,
    slice_of_le (by omega) (by omega), Option.bind_some, if_neg (by omega), if_neg (by decide),
    readU16_of_lt (by omega), Option.bind_some, readU16_of_lt (by omega), Option.bind_some,
    Nat.add_sub_add_left, Nat.add_sub_add_left]
  rfl

theorem parseIpv4UdpAddresses_icmp {data : List UInt8} {ipStart : Nat}
    (h20 : ipStart + 20 ≤ data.length) (hprotocol : data[ipStart + 9]? = some 1) :
    parseIpv4UdpAddresses data ipStart =
      some (some (⟨.v4 (ipv4OfBytes ((data.drop (ipStart + 12)).take 4)), 0⟩,
        ⟨.v4 (ipv4OfBytes ((data.drop (ipStart + 16)).take 4)), 0⟩)) := by
  unfold parseIpv4UdpAddresses
  rw [if_neg (by omega), List.getElem?_eq_getElem (by omega)]
  simp only [Option.bind_eq_bind, hprotocol, Option.bind_some]
  rw [if_neg (by decide), slice_of_le (by omega) (by omega), Option.bind_some,
    slice_of_le (by omega) (by omega), Option.bind_some, Nat.add_sub_add_left,
    Nat.add_sub_add_left]
  simp only [if_true]
  split <;> rfl

theorem parseIpv6UdpAddresses_udp {data : List UInt8} {ipStart : Nat}
    (h48 : ipStart + 48 ≤ data.length) (hnextHeader : data[ipStart + 6]? = some 17) :
    parseIpv6UdpAddresses data ipStart =
      some (some (⟨.v6 (ipv6OfBytes ((data.drop (ipStart + 8)).take 16)),
          be16At data (ipStart + 40)⟩,
        ⟨.v6 (ipv6OfBytes ((data.drop (ipStart + 24)).take 16)), be16At data (ipStart + 40 + 2)⟩)) := by
  unfold parseIpv6UdpAddresses
  rw [if_neg (by omega)]
  simp only [Option.bind_eq_bind, hnextHeader, Option.bind_some]
  rw [if_neg (by decide), slice_of_le (by omega) (by omega), Option.bind_some,
    slice_of_le (by omega) (by omega), Option.bind_some, if_neg (by decide), if_neg (by omega),
    readU16_of_lt (by omega), Option.bind_some, readU16_of_lt (by omega), Option.bind_some,
    Nat.add_sub_add_left, Nat.add_sub_add_left]
  rfl

theorem parseIpv6UdpAddresses_icmpv6 {data : List UInt8} {ipStart : Nat}
    (h40 : ipStart + 40 ≤ data.length) (hnextHeader : data[ipStart + 6]? = some 58) :
    parseIpv6UdpAddresses data ipStart =
      some (some (⟨.v6 (ipv6OfBytes ((data.drop (ipStart + 8)).take 16)), 0⟩,
        ⟨.v6 (ipv6OfBytes ((data.drop (ipStart + 24)).take 16)), 0⟩)) := by
  unfold parseIpv6UdpAddresses
  rw [if_neg (by omega)]
  simp only [Option.bind_eq_bind, hnextHeader, Option.bind_some]
  rw [if_neg (by decide), slice_of_le (by omega) (by omega), Option.bind_some,
    slice_of_le (by omega) (by omega), Option.bind_some, if_true, Nat.add_sub_add_left,
    Nat.add_sub_add_left]
  rfl

theorem parsePacketAddresses_of_start {data : List UInt8} {ipStart : Nat} {first : UInt8}
    (h42 : 42 ≤ data.length) (hstart : captureIpStart data = some (some ipStart))
    (hfirst : data[ipStart]? = some first) :
    parsePacketAddresses data =
      if (first >>> 4) &&& 0x0F = 4 then parseIpv4UdpAddresses data ipStart
      else if (first >>> 4) &&& 0x0F = 6 then parseIpv6UdpAddresses data ipStart
      else some none := by
  have hlt := lt_length_of_captureIpStart hstart (by omega)
  unfold parsePacketAddresses
  rw [if_neg (by omega), hstart]
  simp only [Option.bind_eq_bind, Option.bind_some]
  rw [if_neg (by omega), hfirst, Option.bind_some]
  rfl

theorem isIcmpErrorPacket_udp {data : List UInt8} {ipStart : Nat} {first : UInt8}
    (h42 : 42 ≤ data.length) (hstart : captureIpStart data = some (some ipStart))
    (hfirst : data[ipStart]? = some first)
    (hudp : ((first >>> 4) &&& 0x0F = 4 ∧ data[ipStart + 9]? = some 17 ∧ ipStart + 21 ≤ data.length) ∨
      ((first >>> 4) &&& 0x0F = 6 ∧ data[ipStart + 6]? = some 17 ∧ ipStart + 41 ≤ data.length)) :
    isIcmpErrorPacket data = some false := by
  have hlt := lt_length_of_captureIpStart hstart (by omega)
  unfold isIcmpErrorPacket
  rw [if_neg (by omega), hstart]
  simp only [Option.bind_eq_bind, Option.bind_some]
  rw [if_neg (by omega), hfirst, Option.bind_some]
  rcases hudp with ⟨hversion, hprotocol, h21⟩ | ⟨hversion, hnextHeader, h41⟩
  · rw [if_pos hversion, if_neg (by omega), hprotocol, Option.bind_some, if_pos (by decide)]
    rfl
  · rw [if_neg (by rw [hversion]; decide), if_pos hversion, if_neg (by omega), hnextHeader,
      Option.bind_some, if_pos (by decide)]
    rfl

theorem isIcmpErrorPacket_icmp {data : List UInt8} {ipStart : Nat} {first icmpType : UInt8}
    (h42 : 42 ≤ data.length) (hstart : captureIpStart data = some (some ipStart))
    (hfirst : data[ipStart]? = some first) (hversion : (first >>> 4) &&& 0x0F = 4)
    (h20 : 20 ≤ (first &&& 0x0F).toNat * 4) (hprotocol : data[ipStart + 9]? = some 1)
    (htype : data[ipStart + (first &&& 0x0F).toNat * 4]? = some icmpType) :
    isIcmpErrorPacket data = some (([3, 11, 12] : List UInt8).contains icmpType) := by
  have hlt := lt_length_of_captureIpStart hstart (by omega)
  have htypeLt : ipStart + (first &&& 0x0F).toNat * 4 < data.length :=
    (List.getElem?_eq_some_iff.mp htype).1
  unfold isIcmpErrorPacket
  rw [if_neg (by omega), hstart]
  simp only [Option.bind_eq_bind, Option.bind_some]
  rw [if_neg (by omega), hfirst, Option.bind_some, if_pos hversion, if_neg (by omega), hprotocol,
    Option.bind_some, if_neg (by decide), if_neg (by omega), htype, Option.bind_some]
  rfl

theorem isIcmpErrorPacket_icmpv6 {data : List UInt8} {ipStart : Nat} {first icmpv6Type : UInt8}
    (h42 : 42 ≤ data.length) (hstart : captureIpStart data = some (some ipStart))
    (hfirst : data[ipStart]? = some first) (hversion : (first >>> 4) &&& 0x0F = 6)
    (hnextHeader : data[ipStart + 6]? = some 58) (htype : data[ipStart + 40]? = some icmpv6Type) :
    isIcmpErrorPacket data = some (([1, 2, 3] : List UInt8).contains icmpv6Type) := by
  have hlt := lt_length_of_captureIpStart hstart (by omega)
  have htypeLt : ipStart + 40 < data.length := (List.getElem?_eq_some_iff.mp htype).1
  unfold isIcmpErrorPacket
  rw [if_neg (by omega), hstart]
  simp only [Option.bind_eq_bind, Option.bind_some]
  rw [if_neg (by omega), hfirst, Option.bind_some, if_neg (by rw [hversion]; decide),
    if_pos hversion, if_neg (by omega), hnextHeader, Option.bind_some, if_neg (by decide), htype,
    Option.bind_some]
  rfl

theorem extractEmbeddedDestination_of_start {data : List UInt8} {ipStart : Nat} {first : UInt8}
    (hstart : captureIpStart data = some (some ipStart)) (hfirst : data[ipStart]? = some first) :
    extractEmbeddedDestination data =
      if (first >>> 4) &&& 0x0F = 4 then extractEmbeddedIpv4Destination data ipStart
      else if (first >>> 4) &&& 0x0F = 6 then extractEmbeddedIpv6Destination data ipStart
      else some none := by
  unfold extractEmbeddedDestination
  rw [hstart]
  simp only [Option.bind_eq_bind, Option.bind_some]
  rw [hfirst, Option.bind_some]
  rfl

/-- The destination of the quoted UDP packet, after the ICMP header and the quoted IP header. -/
theorem extractEmbeddedIpv4Destination_udp {data : List UInt8} {ipStart : Nat}
    {first embeddedFirst : UInt8} (hfirst : data[ipStart]? = some first)
    (hroom : ipStart + (first &&& 0x0F).toNat * 4 + 8 + 28 ≤ data.length)
    (hembeddedFirst : data[ipStart + (first &&& 0x0F).toNat * 4 + 8]? = some embeddedFirst)
    (hprotocol : data[ipStart + (first &&& 0x0F).toNat * 4 + 8 + 9]? = some 17)
    (hport : ipStart + (first &&& 0x0F).toNat * 4 + 8 + (embeddedFirst &&& 0x0F).toNat * 4 + 4 ≤
      data.length) :
    extractEmbeddedIpv4Destination data ipStart =
      some (some ⟨.v4 (ipv4OfBytes ((data.drop (ipStart + (first &&& 0x0F).toNat * 4 + 8 + 16)).take 4)),
        be16At data (ipStart + (first &&& 0x0F).toNat * 4 + 8 + (embeddedFirst &&& 0x0F).toNat * 4 + 2)⟩) := by
  unfold extractEmbeddedIpv4Destination
  simp only [Option.bind_eq_bind, hfirst, Option.bind_some]
  rw [if_neg (by omega), hembeddedFirst, Option.bind_some, hprotocol, Option.bind_some,
    if_neg (by decide), slice_of_le (by omega) (by omega), Option.bind_some, if_neg (by omega),
    readU16_of_lt (by omega), Option.bind_some, Nat.add_sub_add_left]
  rfl

theorem extractEmbeddedIpv6Destination_udp {data : List UInt8} {ipStart : Nat}
    (hroom : ipStart + 40 + 8 + 48 ≤ data.length)
    (hnextHeader : data[ipStart + 40 + 8 + 6]? = some 17) :
    extractEmbeddedIpv6Destination data ipStart =
      some (some ⟨.v6 (ipv6OfBytes ((data.drop (ipStart + 40 + 8 + 24)).take 16)),
        be16At data (ipStart + 40 + 8 + 40 + 2)⟩) := by
  unfold extractEmbeddedIpv6Destination
  rw [if_neg (by omega)]
  simp only [Option.bind_eq_bind, hnextHeader, Option.bind_some]
  rw [if_neg (by decide), slice_of_le (by omega) (by omega), Option.bind_some, if_neg (by omega),
    readU16_of_lt (by omega), Option.bind_some, Nat.add_sub_add_left]
  rfl

/-- The tagging of a frame whose addresses were read: their session, else for an ICMP error the
session of the quoted destination's port, else of the quoted destination. -/
theorem extractSessionIdFromPacket_eq (registry : SessionRegistry) {data : List UInt8}
    {srcAddr dstAddr : SocketAddr} {isError : Bool} {embeddedDst : Option SocketAddr}
    (hparse : parsePacketAddresses data = some (some (srcAddr, dstAddr)))
    (hicmp : isIcmpErrorPacket data = some isError)
    (hembedded : isError = true → extractEmbeddedDestination data = some embeddedDst) :
    extractSessionIdFromPacket registry data =
      some ((registry.lookupByEither srcAddr dstAddr).or
        (if isError then embeddedDst.bind fun dst =>
          (registry.lookupByServerPort dst.port).or (registry.lookup dst) else none)) := by
  unfold extractSessionIdFromPacket
  rw [hparse]
  simp only [Option.bind_eq_bind, Option.bind_some]
  cases registry.lookupByEither srcAddr dstAddr with
  | some sessionId => rfl
  | none =>
    rw [hicmp, Option.bind_some]
    cases isError with
    | false => rfl
    | true =>
      rw [hembedded rfl, Option.bind_some]
      cases embeddedDst <;> rfl

-- the same raw datagram from `10.0.0.1:1` is tagged with the session of its source
example : extractSessionIdFromPacket
    (SessionRegistry.new.register ⟨.v4 (ipv4OfBytes [10, 0, 0, 1]), 1⟩ 0 "s".toList)
    ([0x45, 0, 0, 42, 0, 0, 0, 0, 64, 17, 0, 0, 10, 0, 0, 1, 10, 0, 0, 2, 0, 1, 0, 2, 0, 22, 0, 0] ++
      List.replicate 14 0) = some (some "s".toList) := by
  decide

/-- A raw IPv4 UDP datagram from `8.0.0.1:1` to `10.0.0.2:2`, whose source address begins with
the bytes of the IPv4 EtherType: its source is registered, yet the frame is read as Ethernet and
goes untagged. -/
theorem raw_ipv4_frame_misread :
    (SessionRegistry.new.register ⟨.v4 (ipv4OfBytes [8, 0, 0, 1]), 1⟩ 0 "s".toList).lookupByEither
        ⟨.v4 (ipv4OfBytes [8, 0, 0, 1]), 1⟩ ⟨.v4 (ipv4OfBytes [10, 0, 0, 2]), 2⟩ = some "s".toList ∧
    extractSessionIdFromPacket
        (SessionRegistry.new.register ⟨.v4 (ipv4OfBytes [8, 0, 0, 1]), 1⟩ 0 "s".toList)
        ([0x45, 0, 0, 42, 0, 0, 0, 0, 64, 17, 0, 0, 8, 0, 0, 1, 10, 0, 0, 2, 0, 1, 0, 2, 0, 22, 0, 0] ++
          List.replicate 14 0) = some none := by
  decide

theorem capture_tagging_total (registry : SessionRegistry) :
    (∀ data, extractSessionIdFromPacket registry data ≠ none) ∧
    (∀ data, 14 ≤ data.length → (be16At data 12 = 0x0800 ∨ be16At data 12 = 0x86DD) →
      captureIpStart data = some (some 14)) ∧
    (∀ data (first : UInt8), 14 ≤ data.length → ¬(be16At data 12 = 0x0800 ∨ be16At data 12 = 0x86DD) →
      data[0]? = some first → (first >>> 4 = 4 ∨ first >>> 4 = 6) →
      captureIpStart data = some (some 0)) ∧
    (∀ data ipStart (first : UInt8), captureIpStart data = some (some ipStart) →
      42 ≤ data.length →
      data[ipStart]? = some first →
      ((first >>> 4) &&& 0x0F = 4 → 20 ≤ (first &&& 0x0F).toNat * 4 →
        data[ipStart + 9]? = some 17 → ipStart + (first &&& 0x0F).toNat * 4 + 8 ≤ data.length →
        extractSessionIdFromPacket registry data =
          some (registry.lookupByEither
            ⟨.v4 (ipv4OfBytes ((data.drop (ipStart + 12)).take 4)),
              be16At data (ipStart + (first &&& 0x0F).toNat * 4)⟩
            ⟨.v4 (ipv4OfBytes ((data.drop (ipStart + 16)).take 4)),
              be16At data (ipStart + (first &&& 0x0F).toNat * 4 + 2)⟩)) ∧
      ((first >>> 4) &&& 0x0F = 6 → data[ipStart + 6]? = some 17 → ipStart + 48 ≤ data.length →
        extractSessionIdFromPacket registry data =
          some (registry.lookupByEither
            ⟨.v6 (ipv6OfBytes ((data.drop (ipStart + 8)).take 16)), be16At data (ipStart + 40)⟩
            ⟨.v6 (ipv6OfBytes ((data.drop (ipStart + 24)).take 16)),
              be16At data (ipStart + 40 + 2)⟩)) ∧
      (∀ icmpType embeddedFirst : UInt8, (first >>> 4) &&& 0x0F = 4 → 20 ≤ (first &&& 0x0F).toNat * 4 →
        data[ipStart + 9]? = some 1 → data[ipStart + (first &&& 0x0F).toNat * 4]? = some icmpType →
        ([3, 11, 12] : List UInt8).contains icmpType = true →
        ipStart + (first &&& 0x0F).toNat * 4 + 8 + 28 ≤ data.length →
        data[ipStart + (first &&& 0x0F).toNat * 4 + 8]? = some embeddedFirst →
        data[ipStart + (first &&& 0x0F).toNat * 4 + 8 + 9]? = some 17 →
        ipStart + (first &&& 0x0F).toNat * 4 + 8 + (embeddedFirst &&& 0x0F).toNat * 4 + 4 ≤
          data.length →
        extractSessionIdFromPacket registry data =
          some ((registry.lookupByEither ⟨.v4 (ipv4OfBytes ((data.drop (ipStart + 12)).take 4)), 0⟩
              ⟨.v4 (ipv4OfBytes ((data.drop (ipStart + 16)).take 4)), 0⟩).or
            ((registry.lookupByServerPort (be16At data (ipStart + (first &&& 0x0F).toNat * 4 + 8 +
                (embeddedFirst &&& 0x0F).toNat * 4 + 2))).or
              (registry.lookup ⟨.v4 (ipv4OfBytes
                  ((data.drop (ipStart + (first &&& 0x0F).toNat * 4 + 8 + 16)).take 4)),
                be16At data (ipStart + (first &&& 0x0F).toNat * 4 + 8 +
                  (embeddedFirst &&& 0x0F).toNat * 4 + 2)⟩)))) ∧
      (∀ icmpv6Type : UInt8, (first >>> 4) &&& 0x0F = 6 → data[ipStart + 6]? = some 58 →
        data[ipStart + 40]? = some icmpv6Type → ([1, 2, 3] : List UInt8).contains icmpv6Type = true →
        ipStart + 40 + 8 + 48 ≤ data.length → data[ipStart + 40 + 8 + 6]? = some 17 →
        extractSessionIdFromPacket registry data =
          some ((registry.lookupByEither ⟨.v6 (ipv6OfBytes ((data.drop (ipStart + 8)).take 16)), 0⟩
              ⟨.v6 (ipv6OfBytes ((data.drop (ipStart + 24)).take 16)), 0⟩).or
            ((registry.lookupByServerPort (be16At data (ipStart + 40 + 8 + 40 + 2))).or
              (registry.lookup ⟨.v6 (ipv6OfBytes ((data.drop (ipStart + 40 + 8 + 24)).take 16)),
                be16At data (ipStart + 40 + 8 + 40 + 2)⟩))))) ∧
    (SessionRegistry.new.register ⟨.v4 (ipv4OfBytes [8, 0, 0, 1]), 1⟩ 0 "s".toList).lookupByEither
        ⟨.v4 (ipv4OfBytes [8, 0, 0, 1]), 1⟩ ⟨.v4 (ipv4OfBytes [10, 0, 0, 2]), 2⟩ = some "s".toList ∧
    extractSessionIdFromPacket
        (SessionRegistry.new.register ⟨.v4 (ipv4OfBytes [8, 0, 0, 1]), 1⟩ 0 "s".toList)
        ([0x45, 0, 0, 42, 0, 0, 0, 0, 64, 17, 0, 0, 8, 0, 0, 1, 10, 0, 0, 2, 0, 1, 0, 2, 0, 22, 0, 0] ++
          List.replicate 14 0) = some none := by
  refine ⟨extractSessionIdFromPacket_ne_none registry, fun data h14 hethertype =>
    captureIpStart_ethernet h14 hethertype, fun data first h14 hethertype hfirst hversion =>
    captureIpStart_raw h14 hethertype hfirst hversion,
    fun data ipStart first hstart h42 hfirst => ⟨?_, ?_, ?_, ?_⟩, raw_ipv4_frame_misread⟩
  · intro hversion h20 hprotocol hudp
    have hparse := (parsePacketAddresses_of_start h42 hstart hfirst).trans
      ((if_pos hversion).trans (parseIpv4UdpAddresses_udp (by omega) hfirst hprotocol hudp))
    have hicmp := isIcmpErrorPacket_udp h42 hstart hfirst (.inl ⟨hversion, hprotocol, by omega⟩)
    rw [@extractSessionIdFromPacket_eq registry data _ _ false none hparse hicmp
      (fun h => absurd h Bool.false_ne_true)]
    simp only [Bool.false_eq_true, if_false, Option.or_none]
  · intro hversion hnextHeader h48
    have hnot4 : ¬((first >>> 4) &&& 0x0F = 4) := by
      rw [hversion]
      decide
    have hparse := (parsePacketAddresses_of_start h42 hstart hfirst).trans ((if_neg hnot4).trans
      ((if_pos hversion).trans (parseIpv6UdpAddresses_udp h48 hnextHeader)))
    have hicmp := isIcmpErrorPacket_udp h42 hstart hfirst (.inr ⟨hversion, hnextHeader, by omega⟩)
    rw [@extractSessionIdFromPacket_eq registry data _ _ false none hparse hicmp
      (fun h => absurd h Bool.false_ne_true)]
    simp only [Bool.false_eq_true, if_false, Option.or_none]
  · intro icmpType embeddedFirst hversion h20 hprotocol htype hisError hroom hembeddedFirst
      hembeddedProtocol hport
    have hparse := (parsePacketAddresses_of_start h42 hstart hfirst).trans
      ((if_pos hversion).trans (parseIpv4UdpAddresses_icmp (by omega) hprotocol))
    have hicmp := isIcmpErrorPacket_icmp h42 hstart hfirst hversion h20 hprotocol htype
    rw [hisError] at hicmp
    have hembedded := (extractEmbeddedDestination_of_start hstart hfirst).trans
      ((if_pos hversion).trans
        (extractEmbeddedIpv4Destination_udp hfirst hroom hembeddedFirst hembeddedProtocol hport))
    rw [extractSessionIdFromPacket_eq registry hparse hicmp fun _ => hembedded]
    rfl
  · intro icmpv6Type hversion hnextHeader htype hisError hroom hembeddedNextHeader
    have hnot4 : ¬((first >>> 4) &&& 0x0F = 4) := by
      rw [hversion]
      decide
    have hparse := (parsePacketAddresses_of_start h42 hstart hfirst).trans ((if_neg hnot4).trans
      ((if_pos hversion).trans (parseIpv6UdpAddresses_icmpv6 (by omega) hnextHeader)))
    have hicmp := isIcmpErrorPacket_icmpv6 h42 hstart hfirst hversion hnextHeader htype
    rw [hisError] at hicmp
    have hembedded := (extractEmbeddedDestination_of_start hstart hfirst).trans ((if_neg hnot4).trans
      ((if_pos hversion).trans (extractEmbeddedIpv6Destination_udp hroom hembeddedNextHeader)))
    rw [extractSessionIdFromPacket_eq registry hparse hicmp fun _ => hembedded]
    rfl

end Netpoke
