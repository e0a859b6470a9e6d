import Netpoke.Library.OverwriteRing
import Netpoke.Library.AssocMap
import Netpoke.Library.CivilDate

/-!
# Packet capture, DTLS keys and the tracing buffer

The three stores behind the diagnostics endpoints. `PacketRingBuffer` (`packet_capture.rs`)
and `TracingBuffer` (`tracing_buffer.rs`) are overwriting ring buffers, both read through
`OverwriteRing.Buffer`: after any run of captures the buffered packets are the last
`max_packets` captured, oldest first, and those of a survey session are the ones among them
tagged with its id. `KeylogStorage` (`dtls_keylog.rs`) keeps the DTLS keys per survey session,
evicting the oldest session when it holds `max_sessions`; whatever it returns for a session id
was added under that id (`getKeylogs_keylogRun_sublist`).

The survey session a packet is tagged with is found by `extract_session_id_from_packet`, which
parses the packet's addresses and looks them up in the session registry; it is a parameter
here. Times are Unix times, in microseconds for log entries.
-/

namespace Netpoke

open OverwriteRing CivilDate
open scoped List

/-- `x as u32` for a signed value. -/
def asU32 (x : Int) : Nat :=
  (x % 2 ^ 32).toNat

/-- `to_le_bytes` of an unsigned value `width` bytes wide. -/
def leBytes (width n : Nat) : List UInt8 :=
  (List.range width).map fun i => UInt8.ofNat (n / 256 ^ i)

/-! ### Packet capture -/

structure CapturedPacket where
  tsSec : Int
  tsUsec : Int
  origLen : Nat
  data : List UInt8
  surveySessionId : Option (List Char)
  deriving DecidableEq, Repr

/-- The fields of `CaptureConfig` the buffer and the endpoints read; `interface` and
`promiscuous` only choose the capture device. -/
structure CaptureConfig where
  maxPackets : Nat
  snaplen : Int
  enabled : Bool
  deriving DecidableEq, Repr

structure PacketRingBuffer where
  config : CaptureConfig
  packets : List CapturedPacket
  writePos : Nat
  totalCaptured : Nat
  datalink : Int
  deriving DecidableEq, Repr

structure CaptureStats where
  packetsInBuffer : Nat
  maxPackets : Nat
  totalCaptured : Nat
  snaplen : Nat
  deriving DecidableEq, Repr

namespace PacketRingBuffer

/-- `PacketRingBuffer::new`, with `DLT_EN10MB` as the link type. -/
def new (config : CaptureConfig) : PacketRingBuffer :=
  ⟨config, [], 0, 0, 1⟩

/-- The vector and the write position as a ring buffer of `max_packets` packets. -/
def ring (b : PacketRingBuffer) : Buffer CapturedPacket :=
  ⟨b.config.maxPackets, b.packets, b.writePos⟩

/-- `add_packet`; `none` where it panics. -/
def addPacket (b : PacketRingBuffer) (tsSec tsUsec : Int) (origLen : Nat) (data : List UInt8)
    (surveySessionId : Option (List Char)) : Option PacketRingBuffer :=
  (b.ring.push ⟨tsSec, tsUsec, origLen, data, surveySessionId⟩).bind fun ring =>
    -- `total_captured += 1` on a `u64`
    if b.totalCaptured + 1 ≥ 2 ^ 64 then none
    else some ⟨b.config, ring.items, ring.writePos, b.totalCaptured + 1, b.datalink⟩

/-- `get_packets`: oldest first. -/
def getPackets (b : PacketRingBuffer) : List CapturedPacket :=
  b.ring.toList

def getPacketsForSession (b : PacketRingBuffer) (surveySessionId : List Char) :
    List CapturedPacket :=
  b.getPackets.filter fun p => p.surveySessionId == some surveySessionId

/-- `clear`: `total_captured` is kept. -/
def clear (b : PacketRingBuffer) : PacketRingBuffer :=
  { b with packets := [], writePos := 0 }

def stats (b : PacketRingBuffer) : CaptureStats :=
  ⟨b.packets.length, b.config.maxPackets, b.totalCaptured, asU32 b.config.snaplen⟩

end PacketRingBuffer

/-- `packets_to_pcap`: the 24-byte file header, then each packet's 16-byte record header and
its bytes. -/
def packetsToPcap (packets : List CapturedPacket) (datalink : Int) (snaplen : Nat) :
    List UInt8 :=
  leBytes 4 0xa1b2c3d4 ++ leBytes 2 2 ++ leBytes 2 4 ++ leBytes 4 0 ++ leBytes 4 0 ++
    leBytes 4 snaplen ++ leBytes 4 (asU32 datalink) ++
    packets.flatMap fun p =>
      leBytes 4 (asU32 p.tsSec) ++ leBytes 4 (asU32 p.tsUsec) ++ leBytes 4 (asU32 p.data.length) ++
        leBytes 4 p.origLen ++ p.data

/-- `PacketCaptureService`; the session registry is read only through
`extract_session_id_from_packet`. -/
structure PacketCaptureService where
  buffer : PacketRingBuffer
  config : CaptureConfig
  deriving DecidableEq, Repr

namespace PacketCaptureService

def new (config : CaptureConfig) : PacketCaptureService :=
  ⟨PacketRingBuffer.new config, config⟩

def setDatalink (svc : PacketCaptureService) (datalink : Int) : PacketCaptureService :=
  { svc with buffer := { svc.buffer with datalink } }

/-- `add_packet`: the packet is tagged with the survey session its addresses map to. -/
def addPacket (extractSessionIdFromPacket : List UInt8 → Option (List Char))
    (svc : PacketCaptureService) (tsSec tsUsec : Int) (origLen : Nat) (data : List UInt8) :
    Option PacketCaptureService :=
  if svc.config.enabled then
    (svc.buffer.addPacket tsSec tsUsec origLen data (extractSessionIdFromPacket data)).map
      fun buffer => { svc with buffer }
  else some svc

/-- The capture loop of `run_pcap_capture` over the packets libpcap delivers, each with its
timestamp, wire length and bytes; timeouts and errors deliver none. -/
def captureLoop (extractSessionIdFromPacket : List UInt8 → Option (List Char))
    (svc : PacketCaptureService) (packets : List (Int × Int × Nat × List UInt8)) :
    Option PacketCaptureService :=
  packets.foldlM (fun svc p => svc.addPacket extractSessionIdFromPacket p.1 p.2.1 p.2.2.1 p.2.2.2)
    svc

def getPacketsForSession (svc : PacketCaptureService) (surveySessionId : List Char) :
    List CapturedPacket :=
  svc.buffer.getPacketsForSession surveySessionId

def clear (svc : PacketCaptureService) : PacketCaptureService :=
  { svc with buffer := svc.buffer.clear }

def generatePcap (svc : PacketCaptureService) : List UInt8 :=
  packetsToPcap svc.buffer.getPackets svc.buffer.datalink (asU32 svc.config.snaplen)

def generatePcapForSession (svc : PacketCaptureService) (surveySessionId : List Char) :
    List UInt8 :=
  packetsToPcap (svc.buffer.getPacketsForSession surveySessionId) svc.buffer.datalink
    (asU32 svc.config.snaplen)

end PacketCaptureService

/-! ### DTLS keys -/

/-- `DtlsKeylogEntry`; its timestamp is read by nothing. -/
structure DtlsKeylogEntry where
  clientRandom : List UInt8
  masterSecret : List UInt8
  deriving DecidableEq, Repr

/-- `hex::encode`: two lowercase digits a byte. -/
def hexEncode (bytes : List UInt8) : List Char :=
  bytes.flatMap fun b => [Nat.digitChar (b.toNat / 16), Nat.digitChar (b.toNat % 16)]

def DtlsKeylogEntry.toSslkeylogLine (entry : DtlsKeylogEntry) : List Char :=
  "CLIENT_RANDOM ".toList ++ hexEncode entry.clientRandom ++ ' ' :: hexEncode entry.masterSecret

structure DtlsKeylogConfig where
  maxSessions : Nat
  enabled : Bool
  deriving DecidableEq, Repr

def DtlsKeylogConfig.default : DtlsKeylogConfig :=
  ⟨1000, true⟩

structure KeylogStorage where
  sessions : AssocMap (List Char) (List DtlsKeylogEntry)
  sessionOrder : List (List Char)
  config : DtlsKeylogConfig

structure KeylogStats where
  sessionsStored : Nat
  totalEntries : Nat
  maxSessions : Nat
  deriving DecidableEq, Repr

namespace KeylogStorage

def new (config : DtlsKeylogConfig) : KeylogStorage :=
  ⟨AssocMap.empty, [], config⟩

/-- The eviction loop of `add_entry`: while `max_sessions` sessions or more are stored and the
order is not empty, the oldest session in the order is removed. -/
def evictOldest (maxSessions : Nat) :
    AssocMap (List Char) (List DtlsKeylogEntry) → List (List Char) →
      AssocMap (List Char) (List DtlsKeylogEntry) × List (List Char)
  | sessions, [] => (sessions, [])
  | sessions, oldest :: rest =>
    if sessions.size ≥ maxSessions then evictOldest maxSessions (sessions.erase oldest) rest
    else (sessions, oldest :: rest)

/-- `add_entry`: an empty session id is skipped; a new session first makes room and goes at the
end of the order. -/
def addEntry (s : KeylogStorage) (surveySessionId : List Char) (entry : DtlsKeylogEntry) :
    KeylogStorage :=
  if surveySessionId.isEmpty then s
  else
    let s :=
      if !s.sessions.containsKey surveySessionId then
        let evicted := evictOldest s.config.maxSessions s.sessions s.sessionOrder
        { s with sessions := evicted.1, sessionOrder := evicted.2 ++ [surveySessionId] }
      else s
    let entries := (s.sessions.get surveySessionId).getD [] ++ [entry]
    { s with sessions := s.sessions.insert surveySessionId entries }

def getEntries (s : KeylogStorage) (surveySessionId : List Char) :
    Option (List DtlsKeylogEntry) :=
  s.sessions.get surveySessionId

def clear (s : KeylogStorage) : KeylogStorage :=
  { s with sessions := AssocMap.empty, sessionOrder := [] }

def stats (s : KeylogStorage) : KeylogStats :=
  ⟨s.sessions.size, (s.sessions.entries.map fun e => e.2.length).sum, s.config.maxSessions⟩

end KeylogStorage

structure DtlsKeylogService where
  storage : KeylogStorage
  config : DtlsKeylogConfig

namespace DtlsKeylogService

def new (config : DtlsKeylogConfig) : DtlsKeylogService :=
  ⟨KeylogStorage.new config, config⟩

def addKeylog (svc : DtlsKeylogService) (surveySessionId : List Char)
    (clientRandom masterSecret : List UInt8) : DtlsKeylogService :=
  if !svc.config.enabled then svc
  else { svc with storage := svc.storage.addEntry surveySessionId ⟨clientRandom, masterSecret⟩ }

def getKeylogs (svc : DtlsKeylogService) (surveySessionId : List Char) : List DtlsKeylogEntry :=
  (svc.storage.getEntries surveySessionId).getD []

/-- `generate_keylog_file`: one line an entry, each ended by a newline; empty without entries. -/
def generateKeylogFile (svc : DtlsKeylogService) (surveySessionId : List Char) : List Char :=
  let entries := svc.getKeylogs surveySessionId
  if entries.isEmpty then []
  else ['\n'].intercalate (entries.map DtlsKeylogEntry.toSslkeylogLine) ++ ['\n']

def clear (svc : DtlsKeylogService) : DtlsKeylogService :=
  { svc with storage := svc.storage.clear }

def stats (svc : DtlsKeylogService) : KeylogStats :=
  svc.storage.stats

end DtlsKeylogService

/-! ### The tracing buffer -/

inductive Level
  | trace
  | debug
  | info
  | warn
  | error
  deriving DecidableEq, Repr

/-- `Display for Level`. -/
def Level.display : Level → List Char
  | .trace => "TRACE".toList
  | .debug => "DEBUG".toList
  | .info => "INFO".toList
  | .warn => "WARN".toList
  | .error => "ERROR".toList

structure LogEntry where
  timestampUs : Nat
  level : Level
  target : List Char
  message : List Char
  deriving DecidableEq, Repr

structure TracingBuffer where
  entries : List LogEntry
  maxEntries : Nat
  nextIndex : Nat
  enabled : Bool
  deriving DecidableEq, Repr

structure TracingStats where
  entriesInBuffer : Nat
  maxEntries : Nat
  enabled : Bool
  deriving DecidableEq, Repr

namespace TracingBuffer

def new (maxEntries : Nat) (enabled : Bool) : TracingBuffer :=
  ⟨[], maxEntries, 0, enabled⟩

/-- The entries and the next index as a ring buffer of `max_entries` entries. -/
def ring (b : TracingBuffer) : Buffer LogEntry :=
  ⟨b.maxEntries, b.entries, b.nextIndex⟩

/-- `add_entry` at the time `timestampUs`; `none` where it panics. -/
def addEntry (b : TracingBuffer) (timestampUs : Nat) (level : Level)
    (target message : List Char) : Option TracingBuffer :=
  if !b.enabled then some b
  else
    -- `as_micros() as u64`
    (b.ring.push ⟨timestampUs % 2 ^ 64, level, target, message⟩).map fun ring =>
      { b with entries := ring.items, nextIndex := ring.writePos }

/-- `get_entries`: oldest first. -/
def getEntries (b : TracingBuffer) : List LogEntry :=
  b.ring.toList

def clear (b : TracingBuffer) : TracingBuffer :=
  { b with entries := [], nextIndex := 0 }

/-- One line of `export_as_text`. -/
def exportLine (entry : LogEntry) : List Char :=
  let secs := entry.timestampUs / 1000000
  let micros := entry.timestampUs % 1000000
  -- a time outside chrono's years is printed as the epoch
  let datetime := if timestampInRange secs then formatDateTime secs else formatDateTime 0
  '[' :: datetime ++ '.' :: padDigits 6 micros ++ " UTC] (".toList ++ Nat.toDigits 10 secs ++
    '.' :: padDigits 6 micros ++ ") ".toList ++ entry.level.display ++ ' ' :: entry.target ++
    " - ".toList ++ entry.message ++ ['\n']

def exportAsText (b : TracingBuffer) : List Char :=
  b.getEntries.flatMap exportLine

end TracingBuffer

structure TracingService where
  buffer : TracingBuffer
  deriving DecidableEq, Repr

namespace TracingService

def stats (svc : TracingService) : TracingStats :=
  ⟨svc.buffer.entries.length, svc.buffer.maxEntries, svc.buffer.enabled⟩

def clear (svc : TracingService) : TracingService :=
  ⟨svc.buffer.clear⟩

end TracingService

/-! ### Captured packets -/

namespace PacketRingBuffer

theorem ring_new (config : CaptureConfig) : (new config).ring = Buffer.empty config.maxPackets :=
  rfl

theorem ring_clear (b : PacketRingBuffer) : b.clear.ring = b.ring.clear :=
  rfl

/-- A capture into a valid buffer whose counter has room succeeds and appends the packet to the
last `max_packets` packets. -/
theorem addPacket_of_valid (b : PacketRingBuffer) (tsSec tsUsec : Int) (origLen : Nat)
    (data : List UInt8) (surveySessionId : Option (List Char)) (h : b.ring.Valid)
    (htotal : b.totalCaptured + 1 < 2 ^ 64) :
    ∃ b', b.addPacket tsSec tsUsec origLen data surveySessionId = some b' ∧ b'.ring.Valid ∧
      b'.config = b.config ∧ b'.totalCaptured = b.totalCaptured + 1 ∧
      b'.getPackets = lastN b.config.maxPackets
        (b.getPackets ++ [⟨tsSec, tsUsec, origLen, data, surveySessionId⟩]) := by
  obtain ⟨r, hpush, hvalid, hcap, hlist⟩ :=
    Buffer.push_of_valid b.ring ⟨tsSec, tsUsec, origLen, data, surveySessionId⟩ h
  have hring : (⟨b.config, r.items, r.writePos, b.totalCaptured + 1, b.datalink⟩ :
      PacketRingBuffer).ring = r := by
    obtain ⟨capacity, items, writePos⟩ := r
    cases hcap
    rfl
  refine ⟨⟨b.config, r.items, r.writePos, b.totalCaptured + 1, b.datalink⟩, ?_, hring ▸ hvalid,
    rfl, rfl, ?_⟩
  · simp only [addPacket, hpush, Option.bind_some]
    rw [if_neg (by omega)]
  · unfold getPackets
    rw [hring, hlist]
    rfl

end PacketRingBuffer

namespace PacketCaptureService

variable (extractSessionIdFromPacket : List UInt8 → Option (List Char))

/-- The packet `add_packet` stores for what libpcap delivered. -/
def tagged (p : Int × Int × Nat × List UInt8) : CapturedPacket :=
  ⟨p.1, p.2.1, p.2.2.1, p.2.2.2, extractSessionIdFromPacket p.2.2.2⟩

/-- A capture loop on an enabled service with a valid buffer keeps the last `max_packets`
packets of everything captured, each tagged with its survey session. -/
theorem getPackets_captureLoop (svc : PacketCaptureService)
    (packets : List (Int × Int × Nat × List UInt8)) (h : svc.buffer.ring.Valid)
    (henabled : svc.config.enabled = true)
    (htotal : svc.buffer.totalCaptured + packets.length < 2 ^ 64) :
    ∃ svc', captureLoop extractSessionIdFromPacket svc packets = some svc' ∧
      svc'.buffer.ring.Valid ∧ svc'.config = svc.config ∧
      svc'.buffer.getPackets = lastN svc.buffer.config.maxPackets
        (svc.buffer.getPackets ++ packets.map (tagged extractSessionIdFromPacket)) := by
  -- induction on the packets, each one a step of the library ring buffer
  induction packets generalizing svc with
  | nil =>
    refine ⟨svc, rfl, h, rfl, ?_⟩
    have hlen : svc.buffer.getPackets.length ≤ svc.buffer.config.maxPackets := by
      rw [PacketRingBuffer.getPackets, Buffer.length_toList _ h]
      exact h.length_le
    rw [List.map_nil, List.append_nil, Buffer.lastN_of_length_le hlen]
  | cons p packets ih =>
    have hroom : svc.buffer.totalCaptured + 1 < 2 ^ 64 := by
      simp only [List.length_cons] at htotal
      omega
    obtain ⟨buffer, hadd, hvalid, hconfig, hcount, hlist⟩ :=
      svc.buffer.addPacket_of_valid p.1 p.2.1 p.2.2.1 p.2.2.2
        (extractSessionIdFromPacket p.2.2.2) h hroom
    have hrest : buffer.totalCaptured + packets.length < 2 ^ 64 := by
      simp only [List.length_cons] at htotal
      omega
    obtain ⟨svc', hloop, hvalid', hconfig', hlist'⟩ :=
      ih { svc with buffer } hvalid henabled hrest
    refine ⟨svc', ?_, hvalid', hconfig', ?_⟩
    · simp only [captureLoop, List.foldlM_cons, addPacket, henabled, if_true, hadd,
        Option.map_some, Option.bind_eq_bind, Option.bind_some]
      exact hloop
    · rw [hlist', hlist, hconfig, Buffer.lastN_lastN_append, List.map_cons, List.append_assoc,
        List.singleton_append]
      rfl

end PacketCaptureService

-- a buffer of two: the first packet of session "a" falls out when a third packet is captured
example : ((PacketCaptureService.new ⟨2, 65535, true⟩).captureLoop
    (fun data => some (if data.head? = some 2 then "b".toList else "a".toList))
    [(1, 0, 1, [3]), (2, 0, 1, [2]), (3, 0, 1, [3])]).map
      (fun svc => svc.getPacketsForSession "a".toList) =
    some [⟨3, 0, 1, [3], some "a".toList⟩] := by
  decide

/-! ### DTLS keys per session -/

namespace KeylogStorage

theorem get_evictOldest (maxSessions : Nat) (sessions : AssocMap (List Char) (List DtlsKeylogEntry))
    (order : List (List Char)) (k : List Char) :
    (evictOldest maxSessions sessions order).1.get k = sessions.get k ∨
      (evictOldest maxSessions sessions order).1.get k = none := by
  induction order generalizing sessions with
  | nil => exact .inl rfl
  | cons oldest rest ih =>
    unfold evictOldest
    split
    · -- the oldest session goes; the rest of the loop removes more or nothing
      by_cases hk : k = oldest
      · subst hk
        rcases ih (sessions.erase k) with h | h
        · exact .inr (h.trans (AssocMap.get_erase_self sessions k))
        · exact .inr h
      · rcases ih (sessions.erase oldest) with h | h
        · exact .inl (h.trans (AssocMap.get_erase_ne sessions hk))
        · exact .inr h
    · exact .inl rfl

/-- Adding under a session id appends to that session's entries, which are empty when it was
not stored. -/
theorem getEntries_addEntry_self (s : KeylogStorage) (surveySessionId : List Char)
    (entry : DtlsKeylogEntry) (hid : surveySessionId ≠ []) :
    (s.addEntry surveySessionId entry).getEntries surveySessionId =
      some ((s.getEntries surveySessionId).getD [] ++ [entry]) := by
  have hne : surveySessionId.isEmpty = false := List.isEmpty_eq_false_iff.mpr hid
  unfold addEntry getEntries
  rw [if_neg (by simp [hne])]
  by_cases hstored : s.sessions.containsKey surveySessionId = true
  · simp [hstored]
  · have habsent : s.sessions.get surveySessionId = none := by
      simpa [AssocMap.containsKey] using hstored
    have hevicted : (evictOldest s.config.maxSessions s.sessions s.sessionOrder).1.get
        surveySessionId = none := by
      rcases get_evictOldest s.config.maxSessions s.sessions s.sessionOrder surveySessionId with
        h | h
      · exact h.trans habsent
      · exact h
    simp [hstored, hevicted, habsent]

/-- The entries of any other session are kept, or gone when it was evicted. -/
theorem getEntries_addEntry_ne (s : KeylogStorage) {surveySessionId other : List Char}
    (entry : DtlsKeylogEntry) (hne : other ≠ surveySessionId) :
    (s.addEntry surveySessionId entry).getEntries other = s.getEntries other ∨
      (s.addEntry surveySessionId entry).getEntries other = none := by
  unfold addEntry getEntries
  split
  · exact .inl rfl
  · dsimp only
    rw [AssocMap.get_insert_ne _ _ hne]
    split
    · exact get_evictOldest _ _ _ other
    · exact .inl rfl

end KeylogStorage

/-- The calls that change the keylog store: `add_keylog` when a DTLS handshake of a survey
session completes, and `clear`. -/
inductive KeylogEvent
  | add (surveySessionId : List Char) (clientRandom masterSecret : List UInt8)
  | clear
  deriving DecidableEq, Repr

namespace DtlsKeylogService

def keylogStep (svc : DtlsKeylogService) : KeylogEvent → DtlsKeylogService
  | .add surveySessionId clientRandom masterSecret =>
    svc.addKeylog surveySessionId clientRandom masterSecret
  | .clear => svc.clear

def keylogRun (svc : DtlsKeylogService) (events : List KeylogEvent) : DtlsKeylogService :=
  events.foldl keylogStep svc

/-- The entries the calls add under a session id. -/
def addedFor (surveySessionId : List Char) (events : List KeylogEvent) :
    List DtlsKeylogEntry :=
  events.filterMap fun
    | .add sid clientRandom masterSecret =>
      if sid = surveySessionId then some ⟨clientRandom, masterSecret⟩ else none
    | .clear => none

/-- One call leaves under a session id only entries it had or that the call added under it. -/
theorem getKeylogs_keylogStep_sublist (svc : DtlsKeylogService) (event : KeylogEvent)
    (surveySessionId : List Char) :
    (svc.keylogStep event).getKeylogs surveySessionId <+
      svc.getKeylogs surveySessionId ++ addedFor surveySessionId [event] := by
  cases event with
  | clear => exact List.nil_sublist _
  | add sid clientRandom masterSecret =>
    simp only [keylogStep, addKeylog]
    split
    · exact List.sublist_append_left _ _
    · by_cases hsame : sid = surveySessionId
      · subst hsame
        by_cases hid : sid = []
        · subst hid
          exact List.sublist_append_left _ _
        · have hadded : addedFor sid [.add sid clientRandom masterSecret] =
              [⟨clientRandom, masterSecret⟩] := by simp [addedFor]
          rw [hadded]
          unfold getKeylogs
          rw [KeylogStorage.getEntries_addEntry_self _ _ _ hid]
          exact List.Sublist.refl _
      · rcases KeylogStorage.getEntries_addEntry_ne svc.storage ⟨clientRandom, masterSecret⟩
            (Ne.symm hsame) with h | h
        · unfold getKeylogs
          rw [h]
          exact List.sublist_append_left _ _
        · unfold getKeylogs
          rw [h]
          exact List.nil_sublist _

/-- Whatever a run of calls leaves under a session id was there before or was added under that
id during the run, in order. -/
theorem getKeylogs_keylogRun_sublist (svc : DtlsKeylogService) (events : List KeylogEvent)
    (surveySessionId : List Char) :
    (svc.keylogRun events).getKeylogs surveySessionId <+
      svc.getKeylogs surveySessionId ++ addedFor surveySessionId events := by
  induction events generalizing svc with
  | nil => simp [keylogRun]
  | cons event events ih =>
    have hstep := getKeylogs_keylogStep_sublist svc event surveySessionId
    have hrun := ih (svc.keylogStep event)
    have hsplit : addedFor surveySessionId (event :: events) =
        addedFor surveySessionId [event] ++ addedFor surveySessionId events := by
      unfold addedFor
      rw [← List.singleton_append, List.filterMap_append]
    rw [hsplit, ← List.append_assoc]
    exact hrun.trans (hstep.append_right _)

end DtlsKeylogService

/-! ### Log entries -/

namespace TracingBuffer

/-- An entry logged into an enabled, valid buffer succeeds and is appended to the last
`max_entries` entries. -/
theorem addEntry_of_valid (b : TracingBuffer) (timestampUs : Nat) (level : Level)
    (target message : List Char) (h : b.ring.Valid) (henabled : b.enabled = true) :
    ∃ b', b.addEntry timestampUs level target message = some b' ∧ b'.ring.Valid ∧
      b'.getEntries = lastN b.maxEntries
        (b.getEntries ++ [⟨timestampUs % 2 ^ 64, level, target, message⟩]) := by
  obtain ⟨r, hpush, hvalid, hcap, hlist⟩ :=
    Buffer.push_of_valid b.ring ⟨timestampUs % 2 ^ 64, level, target, message⟩ h
  have hring : ({ b with entries := r.items, nextIndex := r.writePos } : TracingBuffer).ring =
      r := by
    obtain ⟨capacity, items, writePos⟩ := r
    cases hcap
    rfl
  refine ⟨{ b with entries := r.items, nextIndex := r.writePos }, ?_, hring ▸ hvalid, ?_⟩
  · simp only [addEntry, henabled, Bool.not_true, Bool.false_eq_true, if_false, hpush,
      Option.map_some]
  · unfold getEntries
    rw [hring, hlist]
    rfl

end TracingBuffer

/-! ### Runs of calls on the ring buffers -/

namespace PacketRingBuffer

/-- One call: `add_packet` of a packet's fields, or `clear`. -/
def step (b : PacketRingBuffer) : Event CapturedPacket → Option PacketRingBuffer
  | .push p => b.addPacket p.tsSec p.tsUsec p.origLen p.data p.surveySessionId
  | .clear => some b.clear

/-- A run of calls; `none` when one of them panics. -/
def run (b : PacketRingBuffer) (events : List (Event CapturedPacket)) :
    Option PacketRingBuffer :=
  events.foldlM step b

theorem length_getPackets (b : PacketRingBuffer) (h : b.ring.Valid) :
    b.getPackets.length = b.packets.length :=
  Buffer.length_toList b.ring h

/-- Over any run of calls whose captures fit the counter, a valid buffer holding the last
`max_packets` of `acc` ends holding the last `max_packets` packets captured since the last
clear, and the counter counts every capture. -/
theorem getPackets_run (b : PacketRingBuffer) (events : List (Event CapturedPacket))
    (acc : List CapturedPacket) (h : b.ring.Valid)
    (hacc : b.getPackets = lastN b.config.maxPackets acc)
    (htotal : b.totalCaptured + pushCount events < 2 ^ 64) :
    ∃ b', b.run events = some b' ∧ b'.ring.Valid ∧ b'.config = b.config ∧
      b'.totalCaptured = b.totalCaptured + pushCount events ∧
      b'.getPackets = lastN b.config.maxPackets (sinceClear acc events) := by
  induction events generalizing b acc with
  | nil => exact ⟨b, rfl, h, rfl, rfl, hacc⟩
  | cons event events ih =>
    cases event with
    | push p =>
      have hroom : b.totalCaptured + 1 < 2 ^ 64 := by
        simp only [pushCount] at htotal
        omega
      obtain ⟨b₁, hadd, hvalid, hconfig, hcount, hlist⟩ :=
        b.addPacket_of_valid p.tsSec p.tsUsec p.origLen p.data p.surveySessionId h hroom
      have hacc₁ : b₁.getPackets = lastN b₁.config.maxPackets (acc ++ [p]) := by
        rw [hlist, hconfig, hacc, Buffer.lastN_lastN_append]
      have htotal₁ : b₁.totalCaptured + pushCount events < 2 ^ 64 := by
        simp only [pushCount] at htotal
        omega
      obtain ⟨b', hrun, hvalid', hconfig', hcount', hlist'⟩ :=
        ih b₁ (acc ++ [p]) hvalid hacc₁ htotal₁
      refine ⟨b', ?_, hvalid', hconfig'.trans hconfig, ?_, hconfig ▸ hlist'⟩
      · simp only [run, List.foldlM_cons, step, hadd, Option.bind_eq_bind, Option.bind_some]
        exact hrun
      · rw [hcount', hcount, pushCount]
        omega
    | clear =>
      have hacc₁ : b.clear.getPackets = lastN b.clear.config.maxPackets [] := by
        rw [getPackets, ring_clear, Buffer.toList_clear _ h.capacity_pos, lastN, List.drop_nil]
      obtain ⟨b', hrun, hvalid', hconfig', hcount', hlist'⟩ :=
        ih b.clear [] h.clear hacc₁ htotal
      exact ⟨b', hrun, hvalid', hconfig', hcount', hlist'⟩

end PacketRingBuffer

/-- A buffer of a positive capacity, over any run of `add_packet` and `clear` calls with fewer
than `2^64` captures, never panics; it holds the last `max_packets` packets captured since the
last clear, oldest first, those of a survey session are the ones among them tagged with its
id, `packets_in_buffer` is their number and `total_captured` counts every capture. -/
theorem packetRingBuffer_refines_fifo (config : CaptureConfig) (hmax : 0 < config.maxPackets)
    (events : List (Event CapturedPacket)) (hcount : pushCount events < 2 ^ 64) :
    ∃ b, (PacketRingBuffer.new config).run events = some b ∧
      b.getPackets = lastN config.maxPackets (sinceClear [] events) ∧
      (∀ surveySessionId, b.getPacketsForSession surveySessionId =
        (lastN config.maxPackets (sinceClear [] events)).filter
          fun p => p.surveySessionId == some surveySessionId) ∧
      b.stats.packetsInBuffer = b.getPackets.length ∧
      b.stats.totalCaptured = pushCount events := by
  have hvalid : (PacketRingBuffer.new config).ring.Valid := Buffer.valid_empty hmax
  have hempty : (PacketRingBuffer.new config).getPackets = lastN config.maxPackets [] := by
    rw [PacketRingBuffer.getPackets, PacketRingBuffer.ring_new, Buffer.toList_empty _ hmax,
      lastN, List.drop_nil]
  obtain ⟨b, hrun, hvalid', hconfig, hcount', hlist⟩ :=
    (PacketRingBuffer.new config).getPackets_run events [] hvalid hempty
      (by simpa [PacketRingBuffer.new] using hcount)
  refine ⟨b, hrun, hlist, fun surveySessionId => ?_, ?_, ?_⟩
  · rw [PacketRingBuffer.getPacketsForSession, hlist]
    rfl
  · rw [PacketRingBuffer.length_getPackets b hvalid']
    rfl
  · rw [PacketRingBuffer.stats, hcount']
    simp [PacketRingBuffer.new]

theorem packetRingBuffer_refines_fifo_three :
    0 < (⟨3, 100, true⟩ : CaptureConfig).maxPackets ∧
      pushCount ([.push ⟨1000, 0, 1, [1], none⟩, .push ⟨1001, 0, 1, [2], none⟩, .clear,
        .push ⟨1002, 0, 1, [3], none⟩] : List (Event CapturedPacket)) < 2 ^ 64 ∧
      ∃ b, (PacketRingBuffer.new ⟨3, 100, true⟩).run [.push ⟨1000, 0, 1, [1], none⟩,
          .push ⟨1001, 0, 1, [2], none⟩, .clear, .push ⟨1002, 0, 1, [3], none⟩] = some b ∧
        b.getPackets = [⟨1002, 0, 1, [3], none⟩] := by
  obtain ⟨b, hrun, hlist, -⟩ := packetRingBuffer_refines_fifo ⟨3, 100, true⟩ (by decide)
    [.push ⟨1000, 0, 1, [1], none⟩, .push ⟨1001, 0, 1, [2], none⟩, .clear,
      .push ⟨1002, 0, 1, [3], none⟩] (by decide)
  exact ⟨by decide, by decide, b, hrun, by rw [hlist]; decide⟩

/-- With `max_packets = 0` the first capture panics: the vector is empty, so the overwrite
indexes past its end. -/
theorem packetRingBuffer_zero_capacity_panics :
    (PacketRingBuffer.new ⟨0, 65535, true⟩).run [.push ⟨1000, 0, 1, [1], none⟩] = none := by
  decide

/-- The entry `add_entry` stores: the time as `u64`. -/
def LogEntry.truncated (entry : LogEntry) : LogEntry :=
  { entry with timestampUs := entry.timestampUs % 2 ^ 64 }

namespace TracingBuffer

theorem ring_new (maxEntries : Nat) (enabled : Bool) :
    (new maxEntries enabled).ring = Buffer.empty maxEntries :=
  rfl

/-- One call: `add_entry` of an entry's fields at its time, or `clear`. -/
def step (b : TracingBuffer) : Event LogEntry → Option TracingBuffer
  | .push e => b.addEntry e.timestampUs e.level e.target e.message
  | .clear => some b.clear

/-- A run of calls; `none` when one of them panics. -/
def run (b : TracingBuffer) (events : List (Event LogEntry)) : Option TracingBuffer :=
  events.foldlM step b

theorem ring_clear (b : TracingBuffer) : b.clear.ring = b.ring.clear :=
  rfl

/-- Over any run of calls, an enabled valid buffer holding the last `max_entries` of `acc` ends
holding the last `max_entries` entries logged since the last clear. -/
theorem getEntries_run (b : TracingBuffer) (events : List (Event LogEntry))
    (acc : List LogEntry) (h : b.ring.Valid) (henabled : b.enabled = true)
    (hacc : b.getEntries = lastN b.maxEntries acc) :
    ∃ b', b.run events = some b' ∧ b'.ring.Valid ∧ b'.maxEntries = b.maxEntries ∧
      b'.enabled = b.enabled ∧
      b'.getEntries = lastN b.maxEntries (sinceClear acc (events.map (Event.map LogEntry.truncated))) := by
  induction events generalizing b acc with
  | nil => exact ⟨b, rfl, h, rfl, rfl, hacc⟩
  | cons event events ih =>
    cases event with
    | push e =>
      obtain ⟨b₁, hadd, hvalid, hlist⟩ :=
        b.addEntry_of_valid e.timestampUs e.level e.target e.message h henabled
      have hsame : b₁.maxEntries = b.maxEntries ∧ b₁.enabled = b.enabled := by
        simp only [addEntry, henabled, Bool.not_true, Bool.false_eq_true, if_false,
          Option.map_eq_some_iff] at hadd
        obtain ⟨r, -, rfl⟩ := hadd
        exact ⟨rfl, henabled.symm⟩
      have hacc₁ : b₁.getEntries = lastN b₁.maxEntries (acc ++ [e.truncated]) := by
        rw [hlist, hsame.1, hacc, Buffer.lastN_lastN_append]
        rfl
      obtain ⟨b', hrun, hvalid', hmax', henabled', hlist'⟩ :=
        ih b₁ (acc ++ [e.truncated]) hvalid (hsame.2.trans henabled) hacc₁
      refine ⟨b', ?_, hvalid', hmax'.trans hsame.1, henabled'.trans hsame.2, ?_⟩
      · simp only [run, List.foldlM_cons, step, hadd, Option.bind_eq_bind, Option.bind_some]
        exact hrun
      · rw [hlist', hsame.1]
        rfl
    | clear =>
      have hacc₁ : b.clear.getEntries = lastN b.clear.maxEntries [] := by
        rw [getEntries, ring_clear, Buffer.toList_clear _ h.capacity_pos, lastN, List.drop_nil]
      obtain ⟨b', hrun, hvalid', hmax', henabled', hlist'⟩ :=
        ih b.clear [] h.clear henabled hacc₁
      exact ⟨b', hrun, hvalid', hmax', henabled', hlist'⟩

/-- A disabled buffer ignores every entry, and stays empty. -/
theorem getEntries_run_disabled (maxEntries : Nat) (events : List (Event LogEntry)) :
    ∃ b, (new maxEntries false).run events = some b ∧ b.getEntries = [] := by
  have hstep : ∀ event, (new maxEntries false).step event = some (new maxEntries false) := by
    intro event
    cases event with
    | push e => rfl
    | clear => rfl
  have hrun : ∀ events : List (Event LogEntry),
      (new maxEntries false).run events = some (new maxEntries false) := by
    intro events
    induction events with
    | nil => rfl
    | cons event events ih =>
      simp only [run, List.foldlM_cons, hstep, Option.bind_eq_bind, Option.bind_some]
      exact ih
  refine ⟨new maxEntries false, hrun events, ?_⟩
  unfold getEntries Buffer.toList
  split <;> rfl

end TracingBuffer

/-- An enabled buffer of a positive capacity, over any run of `add_entry` and `clear` calls,
never panics and holds the last `max_entries` entries logged since the last clear, oldest first,
with their times as `u64`; a disabled buffer stays empty. -/
theorem tracingBuffer_refines_fifo (maxEntries : Nat) (hmax : 0 < maxEntries)
    (events : List (Event LogEntry)) :
    (∃ b, (TracingBuffer.new maxEntries true).run events = some b ∧
      b.getEntries = lastN maxEntries
        (sinceClear [] (events.map (Event.map LogEntry.truncated)))) ∧
    ∃ b, (TracingBuffer.new maxEntries false).run events = some b ∧ b.getEntries = [] := by
  have hvalid : (TracingBuffer.new maxEntries true).ring.Valid := Buffer.valid_empty hmax
  have hempty : (TracingBuffer.new maxEntries true).getEntries = lastN maxEntries [] := by
    rw [TracingBuffer.getEntries, TracingBuffer.ring_new, Buffer.toList_empty _ hmax, lastN,
      List.drop_nil]
  obtain ⟨b, hrun, -, -, -, hlist⟩ :=
    (TracingBuffer.new maxEntries true).getEntries_run events [] hvalid rfl hempty
  exact ⟨⟨b, hrun, hlist⟩, TracingBuffer.getEntries_run_disabled maxEntries events⟩

theorem tracingBuffer_refines_fifo_two :
    0 < 2 ∧ ∃ b, (TracingBuffer.new 2 true).run [.push ⟨1, .info, "a".toList, "x".toList⟩,
        .push ⟨2, .warn, "a".toList, "y".toList⟩, .push ⟨3, .error, "a".toList, "z".toList⟩] =
          some b ∧
      b.getEntries = [⟨2, .warn, "a".toList, "y".toList⟩, ⟨3, .error, "a".toList, "z".toList⟩] := by
  obtain ⟨⟨b, hrun, hlist⟩, -⟩ := tracingBuffer_refines_fifo 2 (by decide)
    [.push ⟨1, .info, "a".toList, "x".toList⟩, .push ⟨2, .warn, "a".toList, "y".toList⟩,
      .push ⟨3, .error, "a".toList, "z".toList⟩]
  exact ⟨by decide, b, hrun, by rw [hlist]; decide⟩

/-- With `max_entries = 0` the first entry logged panics. -/
theorem tracingBuffer_zero_capacity_panics :
    (TracingBuffer.new 0 true).run [.push ⟨1, .info, "server".toList, "start".toList⟩] = none := by
  decide

end Netpoke
