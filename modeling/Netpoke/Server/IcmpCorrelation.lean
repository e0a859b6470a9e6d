import Netpoke.Library.AssocMap
import Netpoke.Server.AuthCache

/-!
# ICMP errors matched to tracked packets

`server/src/icmp_listener.rs` reads every datagram of the raw ICMPv4 and ICMPv6 sockets, and
`parse_icmp_error` / `parse_icmpv6_error` pull out the UDP header of the packet the error quotes:
the ICMPv4 one at `28 + 4 * IHL` (the outer IP header is taken to be 20 bytes, the quoted one's
length is read from its first byte), the ICMPv6 one at 48. `PacketTracker::match_icmp_error`
(`server/src/packet_tracker.rs`) then looks the error up by destination, UDP length and UDP
checksum, removes the tracked packet it finds, and queues an event carrying the quoted IP
length `udp_length + 20` (or `+ 40`), computed in `u16` with overflow checks.

A byte read past the end of the packet panics, and so does the `u16` sum: the models return
`none` for a panic, and `some` of what the source returns.

The parsers never panic, and return exactly the fields at those offsets
(`icmp_correlation_total`). The sum does overflow for a tracked packet whose UDP length is above
65495 (`+ 40`) or 65515 (`+ 20`), which a matching error then turns into a panic of the
listener task (`icmpv6_match_length_overflow`).

The ICMPv6 classes follow the source as written: type 1 is an error, type 2 (packet too big) is
counted as an expired hop limit and type 3 (time exceeded) is ignored.
-/

namespace Netpoke

/-! ### Bytes -/

/-- `u16::from_be_bytes([packet[i], packet[i + 1]])`. -/
def readU16 (packet : List UInt8) (i : Nat) : Option Nat := do
  let hi ← packet[i]?
  let lo ← packet[i + 1]?
  return hi.toNat * 256 + lo.toNat

/-- The big-endian value of the two bytes at `i`, read within the packet. -/
def be16At (packet : List UInt8) (i : Nat) : Nat :=
  (packet.getD i 0).toNat * 256 + (packet.getD (i + 1) 0).toNat

/-- `packet[start..stop]`, which panics unless `start ≤ stop ≤ packet.len()`. -/
def slice (packet : List UInt8) (start stop : Nat) : Option (List UInt8) :=
  if start ≤ stop ∧ stop ≤ packet.length then some ((packet.drop start).take (stop - start))
  else none

/-- The address of four bytes, the first the most significant. -/
def ipv4OfBytes (bytes : List UInt8) : BitVec 32 :=
  BitVec.ofNat 32 (bytes.foldl (fun acc b => acc * 256 + b.toNat) 0)

/-- `Ipv6Addr::from([u8; 16])`. -/
def ipv6OfBytes (bytes : List UInt8) : BitVec 128 :=
  BitVec.ofNat 128 (bytes.foldl (fun acc b => acc * 256 + b.toNat) 0)

def maxPayloadPrefixSize : Nat := 64

/-! ### Parsing the quoted packet -/

inductive IcmpMessageClass
  | error
  | ignore
  | ttlExpired
  deriving DecidableEq, Repr

structure EmbeddedUdpInfo where
  srcPort : Nat
  destAddr : SocketAddr
  udpLength : Nat
  payloadPrefix : List UInt8
  udpChecksum : Nat
  deriving DecidableEq, Repr

/-- The UDP header and payload prefix at `embeddedUdpStart`, quoted with `destIp`: the common
tail of both parsers. -/
def readEmbeddedUdp (packet : List UInt8) (embeddedUdpStart : Nat) (destIp : IpAddr) :
    Option EmbeddedUdpInfo := do
  let srcPort ← readU16 packet embeddedUdpStart
  let destPort ← readU16 packet (embeddedUdpStart + 2)
  let udpLength ← readU16 packet (embeddedUdpStart + 4)
  let udpChecksum ← readU16 packet (embeddedUdpStart + 6)
  let payloadStart := embeddedUdpStart + 8
  let payloadEnd := min (payloadStart + maxPayloadPrefixSize) packet.length
  let payloadPrefix ← slice packet payloadStart payloadEnd
  return ⟨srcPort, ⟨destIp, destPort⟩, udpLength, payloadPrefix, udpChecksum⟩

def parseIcmpError (packet : List UInt8) : Option (Option (EmbeddedUdpInfo × IcmpMessageClass)) :=
  do
  if packet.length < 56 then return none
  let icmpType ← packet[20]?
  let _icmpCode ← packet[21]?
  if !([3, 11, 12] : List UInt8).contains icmpType then return none
  let icmpClass := if icmpType = 3 then IcmpMessageClass.error
    else if icmpType = 11 then .ttlExpired else .ignore
  let embeddedIpStart := 28
  let first : UInt8 ← packet[embeddedIpStart]?
  if (first >>> 4) &&& 0x0F != 4 then return none
  -- `(first & 0x0F) * 4` is at most 60, so the `u8` product does not overflow
  let embeddedIpHeaderLen := (first &&& 0x0F).toNat * 4
  let embeddedProtocol ← packet[embeddedIpStart + 9]?
  if embeddedProtocol != 17 then return none
  let destIp ← slice packet (embeddedIpStart + 16) (embeddedIpStart + 20)
  let embeddedUdpStart := embeddedIpStart + embeddedIpHeaderLen
  if packet.length < embeddedUdpStart + 8 then return none
  let info ← readEmbeddedUdp packet embeddedUdpStart (.v4 (ipv4OfBytes destIp))
  return some (info, icmpClass)

/-- `parse_icmpv6_error`; the raw ICMPv6 socket delivers no outer IP header. -/
def parseIcmpv6Error (packet : List UInt8) :
    Option (Option (EmbeddedUdpInfo × IcmpMessageClass)) := do
  -- `MIN_ICMPV6_PACKET_SIZE`
  if packet.length < 8 + 40 + 8 then return none
  let icmpv6Type ← packet[0]?
  let _icmpv6Code ← packet[1]?
  if !([1, 2, 3] : List UInt8).contains icmpv6Type then return none
  let icmpClass := if icmpv6Type = 1 then IcmpMessageClass.error
    else if icmpv6Type = 2 then .ttlExpired else .ignore
  -- `ICMPV6_HEADER_SIZE`
  let embeddedIpStart := 8
  if packet.length < embeddedIpStart + 40 then return none
  let first : UInt8 ← packet[embeddedIpStart]?
  if (first >>> 4) &&& 0x0F != 6 then return none
  let nextHeader ← packet[embeddedIpStart + 6]?
  if nextHeader != 17 then return none
  -- the 16-byte slice always converts to `[u8; 16]`
  let destIp ← slice packet (embeddedIpStart + 24) (embeddedIpStart + 40)
  let embeddedUdpStart := embeddedIpStart + 40
  if packet.length < embeddedUdpStart + 8 then return none
  let info ← readEmbeddedUdp packet embeddedUdpStart (.v6 (ipv6OfBytes destIp))
  return some (info, icmpClass)

/-! ### The parsers read in range -/

theorem readU16_of_lt {packet : List UInt8} {i : Nat} (h : i + 1 < packet.length) :
    readU16 packet i = some (be16At packet i) := by
  simp only [readU16, List.getElem?_eq_getElem (show i < packet.length by omega),
    List.getElem?_eq_getElem h, be16At, List.getD_eq_getElem?_getD]
  rfl

theorem slice_of_le {packet : List UInt8} {start stop : Nat} (h : start ≤ stop)
    (h' : stop ≤ packet.length) :
    slice packet start stop = some ((packet.drop start).take (stop - start)) := by
  simp [slice, h, h']

theorem readEmbeddedUdp_of_le {packet : List UInt8} {u : Nat} (ip : IpAddr)
    (h : u + 8 ≤ packet.length) :
    readEmbeddedUdp packet u ip = some ⟨be16At packet u, ⟨ip, be16At packet (u + 2)⟩,
      be16At packet (u + 4), (packet.drop (u + 8)).take maxPayloadPrefixSize,
      be16At packet (u + 6)⟩ := by
  have hprefix : (packet.drop (u + 8)).take (min (u + 8 + maxPayloadPrefixSize) packet.length -
      (u + 8)) = (packet.drop (u + 8)).take maxPayloadPrefixSize := by
    unfold maxPayloadPrefixSize
    by_cases hroom : u + 8 + 64 ≤ packet.length
    · rw [Nat.min_eq_left hroom, Nat.add_sub_cancel_left]
    · have hleft : (packet.drop (u + 8)).length = packet.length - (u + 8) := List.length_drop
      rw [Nat.min_eq_right (by omega), List.take_of_length_le (by omega),
        List.take_of_length_le (by omega)]
  simp (disch := omega) only [readEmbeddedUdp, readU16_of_lt, Option.bind_eq_bind,
    Option.bind_some, slice_of_le, hprefix]
  rfl

theorem parseIcmpError_ne_none (packet : List UInt8) : parseIcmpError packet ≠ none := by
  unfold parseIcmpError
  by_cases hlen : packet.length < 56
  · simp [hlen]
  · simp +contextual (disch := omega) only [hlen, if_false, List.getElem?_eq_getElem,
      Option.bind_eq_bind, Option.bind_some, slice_of_le, readEmbeddedUdp_of_le]
    split_ifs <;> simp

theorem parseIcmpv6Error_ne_none (packet : List UInt8) : parseIcmpv6Error packet ≠ none := by
  unfold parseIcmpv6Error
  by_cases hlen : packet.length < 8 + 40 + 8
  · simp [hlen]
  · simp +contextual (disch := omega) only [hlen, if_false, List.getElem?_eq_getElem,
      Option.bind_eq_bind, Option.bind_some, slice_of_le, readEmbeddedUdp_of_le]
    split_ifs <;> simp

theorem parseIcmpError_some {packet : List UInt8} {info : EmbeddedUdpInfo}
    {icmpClass : IcmpMessageClass} (h : parseIcmpError packet = some (some (info, icmpClass))) :
    28 + (packet.getD 28 0 &&& 0x0F).toNat * 4 + 8 ≤ packet.length ∧
      info = ⟨be16At packet (28 + (packet.getD 28 0 &&& 0x0F).toNat * 4),
        ⟨.v4 (ipv4OfBytes ((packet.drop 44).take 4)),
          be16At packet (28 + (packet.getD 28 0 &&& 0x0F).toNat * 4 + 2)⟩,
        be16At packet (28 + (packet.getD 28 0 &&& 0x0F).toNat * 4 + 4),
        (packet.drop (28 + (packet.getD 28 0 &&& 0x0F).toNat * 4 + 8)).take maxPayloadPrefixSize,
        be16At packet (28 + (packet.getD 28 0 &&& 0x0F).toNat * 4 + 6)⟩ := by
  unfold parseIcmpError at h
  by_cases hlen : packet.length < 56
  · simp [hlen] at h
  · have h28 : packet.getD 28 0 = packet[28] := by
      rw [List.getD_eq_getElem?_getD, List.getElem?_eq_getElem (by omega)]
      rfl
    simp +contextual (disch := omega) only [hlen, if_false, List.getElem?_eq_getElem,
      Option.bind_eq_bind, Option.bind_some, slice_of_le, readEmbeddedUdp_of_le] at h
    rw [h28]
    -- each check either returns `None` or lets the parse go on
    by_cases h1 : (! ([3, 11, 12] : List UInt8).contains packet[20]) = true
    · rw [if_pos h1] at h
      cases h
    rw [if_neg h1] at h
    by_cases h2 : (packet[28] >>> 4 &&& 15 != 4) = true
    · rw [if_pos h2] at h
      cases h
    rw [if_neg h2] at h
    by_cases h3 : (packet[28 + 9] != 17) = true
    · rw [if_pos h3] at h
      cases h
    rw [if_neg h3] at h
    by_cases h4 : packet.length < 28 + (packet[28] &&& 15).toNat * 4 + 8
    · rw [if_pos h4] at h
      cases h
    rw [if_neg h4] at h
    cases h
    exact ⟨by omega, rfl⟩

theorem parseIcmpv6Error_length {packet : List UInt8} {result : EmbeddedUdpInfo × IcmpMessageClass}
    (h : parseIcmpv6Error packet = some (some result)) : 56 ≤ packet.length := by
  unfold parseIcmpv6Error at h
  by_cases hlen : packet.length < 8 + 40 + 8
  · simp [hlen] at h
  · omega

theorem parseIcmpv6Error_some {packet : List UInt8} {info : EmbeddedUdpInfo}
    {icmpClass : IcmpMessageClass}
    (h : parseIcmpv6Error packet = some (some (info, icmpClass))) :
    info = ⟨be16At packet 48, ⟨.v6 (ipv6OfBytes ((packet.drop 32).take 16)), be16At packet 50⟩,
      be16At packet 52, (packet.drop 56).take maxPayloadPrefixSize, be16At packet 54⟩ := by
  unfold parseIcmpv6Error at h
  by_cases hlen : packet.length < 8 + 40 + 8
  · simp [hlen] at h
  · simp +contextual (disch := omega) only [hlen, if_false, List.getElem?_eq_getElem,
      Option.bind_eq_bind, Option.bind_some, slice_of_le, readEmbeddedUdp_of_le] at h
    by_cases h1 : (! ([1, 2, 3] : List UInt8).contains packet[0]) = true
    · rw [if_pos h1] at h
      cases h
    rw [if_neg h1] at h
    by_cases h2 : packet.length < 8 + 40
    · rw [if_pos h2] at h
      cases h
    rw [if_neg h2] at h
    by_cases h3 : (packet[8] >>> 4 &&& 15 != 6) = true
    · rw [if_pos h3] at h
      cases h
    rw [if_neg h3] at h
    by_cases h4 : (packet[8 + 6] != 17) = true
    · rw [if_pos h4] at h
      cases h
    rw [if_neg h4] at h
    cases h
    rfl

/-! ### The tracker -/

/-- The parts of `SendOptions` that are read: the TTL, which the traceroute rounds read off the
events, and how long the tracker keeps a packet; the others are only copied along. -/
structure SendOptions where
  ttl : Option UInt8
  trackForMs : Nat
  deriving DecidableEq, Repr

structure ChecksumKey where
  destAddr : SocketAddr
  udpLength : Nat
  udpChecksum : Nat
  deriving DecidableEq, Repr

/-- `TrackedPacket`, its `Instant`s in milliseconds. -/
structure TrackedPacket where
  cleartext : List UInt8
  udpPacket : List UInt8
  sentAt : Nat
  expiresAt : Nat
  sendOptions : SendOptions
  destAddr : SocketAddr
  srcPort : Nat
  payloadPrefix : List UInt8
  connId : List Char
  udpChecksum : Nat
  deriving DecidableEq, Repr

/-- `TrackedPacketEvent`; `original_dest_addr` holds the text of the address, kept here as the
address. -/
structure TrackedPacketEvent where
  icmpPacket : List UInt8
  udpPacket : List UInt8
  trackedIpLength : Nat
  cleartext : List UInt8
  sentAt : Nat
  icmpReceivedAt : Nat
  sendOptions : SendOptions
  routerIp : Option (List Char)
  connId : List Char
  originalSrcPort : Nat
  originalDestAddr : SocketAddr
  deriving DecidableEq, Repr

/-- `UdpPacketInfo`, the tracking data the UDP layer sends. -/
structure UdpPacketInfo where
  destAddr : SocketAddr
  srcAddr : Option SocketAddr
  udpLength : Nat
  cleartext : List UInt8
  sendOptions : SendOptions
  sentAt : Nat
  connId : List Char
  udpChecksum : Nat
  deriving DecidableEq, Repr

/-- `PacketTracker`: the checksum index, the event queue, and whether the callback for
unmatched errors is set. -/
structure PacketTracker where
  checksumIndex : AssocMap ChecksumKey TrackedPacket
  eventQueue : List TrackedPacketEvent
  hasCallback : Bool

namespace PacketTracker

/-- One message of `tracking_receiver_task`. -/
def trackPacket (t : PacketTracker) (info : UdpPacketInfo) : PacketTracker :=
  if info.sendOptions.trackForMs = 0 then t
  else
    let tracked : TrackedPacket :=
      ⟨info.cleartext, [], info.sentAt, info.sentAt + info.sendOptions.trackForMs,
        info.sendOptions, info.destAddr, 0, info.cleartext.take maxPayloadPrefixSize, info.connId,
        info.udpChecksum⟩
    if info.udpChecksum ≠ 0 then
      { t with checksumIndex :=
          t.checksumIndex.insert ⟨info.destAddr, info.udpLength, info.udpChecksum⟩ tracked }
    else t

/-- `match_icmp_error` at the time `now`: the tracker after it and the error handed to the
callback, if any; `none` when the `u16` sum panics. -/
def matchIcmpError (t : PacketTracker) (icmpPacket : List UInt8) (icmpClass : IcmpMessageClass)
    (isIp6 : Bool) (info : EmbeddedUdpInfo) (routerIp : Option (List Char)) (now : Nat) :
    Option (PacketTracker × Option EmbeddedUdpInfo) :=
  let checksumKey : ChecksumKey := ⟨info.destAddr, info.udpLength, info.udpChecksum⟩
  -- checksum-based matching, which removes the entry it finds
  let found := if info.udpChecksum ≠ 0 then t.checksumIndex.get checksumKey else none
  let checksumIndex :=
    if found.isSome then t.checksumIndex.erase checksumKey else t.checksumIndex
  match found with
  | some tracked =>
    let trackedIpLength := info.udpLength + if isIp6 then 40 else 20
    -- the `u16` sum, with overflow checks
    if trackedIpLength ≥ 2 ^ 16 then none
    else
      some ({ t with
        checksumIndex
        eventQueue := t.eventQueue ++ [⟨icmpPacket, tracked.udpPacket, trackedIpLength,
          tracked.cleartext, tracked.sentAt, now, tracked.sendOptions, routerIp, tracked.connId,
          info.srcPort, info.destAddr⟩] }, none)
  | none =>
    some ({ t with checksumIndex },
      if icmpClass = .error ∧ t.hasCallback = true then some info else none)

def cleanupExpired (t : PacketTracker) (now : Nat) : PacketTracker :=
  { t with checksumIndex := t.checksumIndex.retain fun _ tracked => !decide (tracked.expiresAt ≤ now) }

/-- The sum panics exactly when an entry is found and the quoted length does not fit. -/
theorem matchIcmpError_eq_none_iff (t : PacketTracker) (icmpPacket : List UInt8)
    (icmpClass : IcmpMessageClass) (isIp6 : Bool) (info : EmbeddedUdpInfo)
    (routerIp : Option (List Char)) (now : Nat) :
    t.matchIcmpError icmpPacket icmpClass isIp6 info routerIp now = none ↔
      info.udpChecksum ≠ 0 ∧
        t.checksumIndex.containsKey ⟨info.destAddr, info.udpLength, info.udpChecksum⟩ = true ∧
        2 ^ 16 ≤ info.udpLength + if isIp6 then 40 else 20 := by
  unfold matchIcmpError
  by_cases hzero : info.udpChecksum ≠ 0
  · cases hget : t.checksumIndex.get ⟨info.destAddr, info.udpLength, info.udpChecksum⟩ with
    | none => simp [AssocMap.containsKey, hget]
    | some tracked =>
      simp only [AssocMap.containsKey, hget, Option.isSome_some, true_and]
      split <;> simp_all
  · simp [hzero]

theorem get_matchIcmpError {t t' : PacketTracker} {icmpPacket : List UInt8}
    {icmpClass : IcmpMessageClass} {isIp6 : Bool} {info : EmbeddedUdpInfo}
    {routerIp : Option (List Char)} {now : Nat} {reported : Option EmbeddedUdpInfo}
    (h : t.matchIcmpError icmpPacket icmpClass isIp6 info routerIp now = some (t', reported))
    (k : ChecksumKey) :
    t'.checksumIndex.get k =
      if info.udpChecksum ≠ 0 ∧ k = ⟨info.destAddr, info.udpLength, info.udpChecksum⟩ then none
      else t.checksumIndex.get k := by
  unfold matchIcmpError at h
  by_cases hzero : info.udpChecksum ≠ 0
  · simp only [if_pos hzero] at h
    cases hget : t.checksumIndex.get ⟨info.destAddr, info.udpLength, info.udpChecksum⟩ with
    | none =>
      simp only [hget, Option.isSome_none, Bool.false_eq_true, if_false] at h
      cases h
      by_cases hk : k = ⟨info.destAddr, info.udpLength, info.udpChecksum⟩
      · rw [if_pos (And.intro hzero hk), hk, hget]
      · rw [if_neg (fun hboth : _ ∧ _ => hk hboth.2)]
    | some tracked =>
      simp only [hget, Option.isSome_some, if_true] at h
      by_cases hfit : info.udpLength + (if isIp6 then 40 else 20) ≥ 2 ^ 16
      · rw [if_pos hfit] at h
        cases h
      · rw [if_neg hfit] at h
        cases h
        by_cases hk : k = ⟨info.destAddr, info.udpLength, info.udpChecksum⟩
        · rw [if_pos (And.intro hzero hk), hk]
          exact AssocMap.get_erase_self _ _
        · rw [if_neg (fun hboth : _ ∧ _ => hk hboth.2)]
          exact AssocMap.get_erase_ne _ hk
  · simp only [if_neg hzero, Option.isSome_none, Bool.false_eq_true, if_false] at h
    cases h
    rw [if_neg (fun hboth : _ ∧ _ => hzero hboth.1)]

end PacketTracker

/-! ### The listener -/

/-- One datagram of `icmp_listener_task_v6` (when `isIp6`) or `icmp_listener_task_v4`, received
from `routerIp` at `now`. -/
def icmpListenerStep (t : PacketTracker) (isIp6 : Bool) (icmpPacket : List UInt8)
    (routerIp : List Char) (now : Nat) : Option (PacketTracker × Option EmbeddedUdpInfo) :=
  (if isIp6 then parseIcmpv6Error icmpPacket else parseIcmpError icmpPacket).bind fun parsed =>
    match parsed with
    | some (embeddedInfo, msgClass) =>
      t.matchIcmpError icmpPacket msgClass isIp6 embeddedInfo (some routerIp) now
    | none => some (t, none)

/-- The listener panics on a datagram exactly when it parses to an error that matches a tracked
packet whose quoted IP length does not fit in 16 bits. -/
theorem icmpListenerStep_eq_none_iff (t : PacketTracker) (isIp6 : Bool) (icmpPacket : List UInt8)
    (routerIp : List Char) (now : Nat) :
    icmpListenerStep t isIp6 icmpPacket routerIp now = none ↔
      ∃ info icmpClass,
        (if isIp6 then parseIcmpv6Error icmpPacket else parseIcmpError icmpPacket) =
          some (some (info, icmpClass)) ∧
        info.udpChecksum ≠ 0 ∧
        t.checksumIndex.containsKey ⟨info.destAddr, info.udpLength, info.udpChecksum⟩ = true ∧
        2 ^ 16 ≤ info.udpLength + if isIp6 then 40 else 20 := by
  have htotal : (if isIp6 then parseIcmpv6Error icmpPacket else parseIcmpError icmpPacket) ≠
      none := by
    cases isIp6
    · exact parseIcmpError_ne_none icmpPacket
    · exact parseIcmpv6Error_ne_none icmpPacket
  unfold icmpListenerStep
  cases hparse : (if isIp6 then parseIcmpv6Error icmpPacket else parseIcmpError icmpPacket) with
  | none => exact absurd hparse htotal
  | some parsed =>
    cases parsed with
    | none => simp
    | some result =>
      obtain ⟨info, icmpClass⟩ := result
      simp only [Option.bind_some, Option.some.injEq, Prod.mk.injEq]
      rw [PacketTracker.matchIcmpError_eq_none_iff]
      constructor
      · intro hmatch
        exact ⟨info, icmpClass, ⟨rfl, rfl⟩, hmatch⟩
      · rintro ⟨info', icmpClass', ⟨rfl, rfl⟩, hmatch⟩
        exact hmatch

theorem length_payloadPrefix_of_eq {packet : List UInt8} {info : EmbeddedUdpInfo} {u : Nat}
    (h : info.payloadPrefix = (packet.drop u).take maxPayloadPrefixSize) :
    info.payloadPrefix.length = min maxPayloadPrefixSize (packet.length - u) := by
  rw [h, List.length_take, List.length_drop]

/-- A tracked datagram of the largest UDP length, sent to port 0 of the IPv6 address 0 with
checksum 1, and the ICMPv6 destination unreachable error quoting it: the listener panics. -/
theorem icmpv6_match_length_overflow :
    icmpListenerStep
      ((⟨AssocMap.empty, [], false⟩ : PacketTracker).trackPacket
        ⟨⟨.v6 0, 0⟩, none, 65535, [], ⟨some 1, 1000⟩, 0, [], 1⟩)
      true ([1, 0, 0, 0, 0, 0, 0, 0, 0x60, 0, 0, 0, 0, 0, 17] ++ List.replicate 37 0 ++
        [255, 255, 0, 1]) [] 0 = none := by
  rw [icmpListenerStep_eq_none_iff]
  refine ⟨⟨0, ⟨.v6 0, 0⟩, 65535, [], 1⟩, .error, ?_, by decide, by decide, by decide⟩
  decide

theorem icmp_correlation_total :
    (∀ packet, parseIcmpError packet ≠ none ∧ parseIcmpv6Error packet ≠ none) ∧
    (∀ packet info icmpClass, parseIcmpError packet = some (some (info, icmpClass)) →
      28 + (packet.getD 28 0 &&& 0x0F).toNat * 4 + 8 ≤ packet.length ∧
      info = ⟨be16At packet (28 + (packet.getD 28 0 &&& 0x0F).toNat * 4),
        ⟨.v4 (ipv4OfBytes ((packet.drop 44).take 4)),
          be16At packet (28 + (packet.getD 28 0 &&& 0x0F).toNat * 4 + 2)⟩,
        be16At packet (28 + (packet.getD 28 0 &&& 0x0F).toNat * 4 + 4),
        (packet.drop (28 + (packet.getD 28 0 &&& 0x0F).toNat * 4 + 8)).take maxPayloadPrefixSize,
        be16At packet (28 + (packet.getD 28 0 &&& 0x0F).toNat * 4 + 6)⟩ ∧
      info.payloadPrefix.length = min maxPayloadPrefixSize
        (packet.length - (28 + (packet.getD 28 0 &&& 0x0F).toNat * 4 + 8))) ∧
    (∀ packet info icmpClass, parseIcmpv6Error packet = some (some (info, icmpClass)) →
      56 ≤ packet.length ∧
      info = ⟨be16At packet 48, ⟨.v6 (ipv6OfBytes ((packet.drop 32).take 16)), be16At packet 50⟩,
        be16At packet 52, (packet.drop 56).take maxPayloadPrefixSize, be16At packet 54⟩ ∧
      info.payloadPrefix.length = min maxPayloadPrefixSize (packet.length - 56)) ∧
    (∀ t isIp6 icmpPacket routerIp now,
      icmpListenerStep t isIp6 icmpPacket routerIp now = none ↔
        ∃ info icmpClass,
          (if isIp6 then parseIcmpv6Error icmpPacket else parseIcmpError icmpPacket) =
            some (some (info, icmpClass)) ∧
          info.udpChecksum ≠ 0 ∧
          t.checksumIndex.containsKey ⟨info.destAddr, info.udpLength, info.udpChecksum⟩ = true ∧
          2 ^ 16 ≤ info.udpLength + if isIp6 then 40 else 20) ∧
    (∀ (t t' : PacketTracker) icmpPacket icmpClass isIp6 (info : EmbeddedUdpInfo) routerIp now
      reported, t.matchIcmpError icmpPacket icmpClass isIp6 info routerIp now = some (t', reported) →
      ∀ k, t'.checksumIndex.get k =
        if info.udpChecksum ≠ 0 ∧ k = ⟨info.destAddr, info.udpLength, info.udpChecksum⟩ then none
        else t.checksumIndex.get k) ∧
    icmpListenerStep
      ((⟨AssocMap.empty, [], false⟩ : PacketTracker).trackPacket
        ⟨⟨.v6 0, 0⟩, none, 65535, [], ⟨some 1, 1000⟩, 0, [], 1⟩)
      true ([1, 0, 0, 0, 0, 0, 0, 0, 0x60, 0, 0, 0, 0, 0, 17] ++ List.replicate 37 0 ++
        [255, 255, 0, 1]) [] 0 = none := by
  refine ⟨fun packet => ⟨parseIcmpError_ne_none packet, parseIcmpv6Error_ne_none packet⟩,
    fun packet info icmpClass h => ?_, fun packet info icmpClass h => ?_,
    icmpListenerStep_eq_none_iff, fun _ _ _ _ _ _ _ _ _ h => PacketTracker.get_matchIcmpError h,
    icmpv6_match_length_overflow⟩
  · obtain ⟨hlen, hinfo⟩ := parseIcmpError_some h
    refine ⟨hlen, hinfo, length_payloadPrefix_of_eq ?_⟩
    rw [hinfo]
  · have hinfo := parseIcmpv6Error_some h
    refine ⟨parseIcmpv6Error_length h, hinfo, length_payloadPrefix_of_eq ?_⟩
    rw [hinfo]

end Netpoke
