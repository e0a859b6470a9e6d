import Netpoke.Server.Diagnostics
import Netpoke.Library.ByteOrder

/-!
# The pcap files of the capture endpoints

`packets_to_pcap` (`server/src/packet_capture.rs`) writes the classic libpcap file: a 24-byte
header, then for each packet a 16-byte record header and the packet's bytes, every integer
little-endian. `readPcap` is a reader of that format, written from it: the header fields, then
records until the bytes run out, each as long as its `incl_len` says.

What the reader gets back is what was written (`pcap_round_trip`): the header the code fills in
and, for every packet in order, its timestamps and wire length as `u32` and its bytes, as long
as no packet holds `2 ^ 32` bytes or more, where `data.len() as u32` would cut the length.
After any run of the capture loop the file downloaded for a survey session reads back as that
session's packets among the last `max_packets` captured (`session_pcap_reads_back`).
-/

namespace Netpoke

open ByteOrder OverwriteRing

namespace Pcap

open Reader

structure Header where
  magic : Nat
  versionMajor : Nat
  versionMinor : Nat
  thiszone : Nat
  sigfigs : Nat
  snaplen : Nat
  network : Nat
  deriving DecidableEq, Repr

/-- A packet record: the timestamp, the length on the wire, and the bytes captured, as many as
the record's `incl_len`. -/
structure Record where
  tsSec : Nat
  tsUsec : Nat
  origLen : Nat
  data : List UInt8
  deriving DecidableEq, Repr

def readHeader : Reader Header := do
  let magic ← le 4
  let versionMajor ← le 2
  let versionMinor ← le 2
  let thiszone ← le 4
  let sigfigs ← le 4
  let snaplen ← le 4
  let network ← le 4
  return ⟨magic, versionMajor, versionMinor, thiszone, sigfigs, snaplen, network⟩

/-- One record: its header, then `incl_len` bytes. -/
def readRecord : Reader Record := do
  let tsSec ← le 4
  let tsUsec ← le 4
  let inclLen ← le 4
  let origLen ← le 4
  let data ← take inclLen
  return ⟨tsSec, tsUsec, origLen, data⟩

/-- Records until the bytes run out, at most `fuel` of them. -/
def readRecords : Nat → Reader (List Record)
  | 0 => do
    let bytes ← get
    if bytes.isEmpty then return [] else failure
  | fuel + 1 => do
    let bytes ← get
    if bytes.isEmpty then return []
    let record ← readRecord
    let records ← readRecords fuel
    return record :: records

/-- A pcap file: its header and its records. A record takes 16 bytes at least, so the file's
length is fuel enough. -/
def readPcap (file : List UInt8) : Option (Header × List Record) :=
  StateT.run' (do
    let header ← readHeader
    let records ← readRecords file.length
    return (header, records)) file

end Pcap

/-! ### What `packets_to_pcap` writes -/

/-- The header `packets_to_pcap` writes: microsecond timestamps, version 2.4, the snapshot
length and the link type. -/
def pcapHeader (datalink : Int) (snaplen : Nat) : Pcap.Header :=
  ⟨0xa1b2c3d4, 2, 4, 0, 0, snaplen % 2 ^ 32, asU32 datalink⟩

/-- The record of a captured packet as a reader sees it. -/
def CapturedPacket.toRecord (p : CapturedPacket) : Pcap.Record :=
  ⟨asU32 p.tsSec, asU32 p.tsUsec, p.origLen % 2 ^ 32, p.data⟩

/-- The bytes of one packet's record. -/
def pcapRecordBytes (p : CapturedPacket) : List UInt8 :=
  leBytes 4 (asU32 p.tsSec) ++ leBytes 4 (asU32 p.tsUsec) ++ leBytes 4 (asU32 p.data.length) ++
    leBytes 4 p.origLen ++ p.data

theorem packetsToPcap_eq (packets : List CapturedPacket) (datalink : Int) (snaplen : Nat) :
    packetsToPcap packets datalink snaplen =
      toLE 4 0xa1b2c3d4 ++ (toLE 2 2 ++ (toLE 2 4 ++ (toLE 4 0 ++ (toLE 4 0 ++
        (toLE 4 snaplen ++ (toLE 4 (asU32 datalink) ++ packets.flatMap pcapRecordBytes)))))) := by
  simp only [packetsToPcap, leBytes, toLE, List.append_assoc]
  rfl

theorem asU32_lt (x : Int) : asU32 x < 2 ^ 32 := by
  unfold asU32
  omega

theorem asU32_of_lt {n : Nat} (h : n < 2 ^ 32) : asU32 n = n := by
  unfold asU32
  omega

namespace Pcap

open Reader

theorem readHeader_run (datalink : Int) (snaplen : Nat) (rest : List UInt8) :
    readHeader.run (toLE 4 0xa1b2c3d4 ++ (toLE 2 2 ++ (toLE 2 4 ++ (toLE 4 0 ++ (toLE 4 0 ++
        (toLE 4 snaplen ++ (toLE 4 (asU32 datalink) ++ rest))))))) =
      some (pcapHeader datalink snaplen, rest) := by
  have hlink : asU32 datalink % 256 ^ 4 = asU32 datalink :=
    Nat.mod_eq_of_lt (by have := asU32_lt datalink; omega)
  simp only [readHeader, run_le_bind, hlink]
  rfl

/-- A packet's record reads back as its record, whatever follows it, unless its length does not
fit the `u32` it is written as. -/
theorem readRecord_run {p : CapturedPacket} (hlen : p.data.length < 2 ^ 32) (rest : List UInt8) :
    readRecord.run (pcapRecordBytes p ++ rest) = some (p.toRecord, rest) := by
  have hfield : ∀ x : Int, asU32 x % 256 ^ 4 = asU32 x := fun x =>
    Nat.mod_eq_of_lt (by have := asU32_lt x; omega)
  have hdata : asU32 p.data.length = p.data.length := asU32_of_lt hlen
  have hrec : pcapRecordBytes p ++ rest = toLE 4 (asU32 p.tsSec) ++ (toLE 4 (asU32 p.tsUsec) ++
      (toLE 4 p.data.length ++ (toLE 4 p.origLen ++ (p.data ++ rest)))) := by
    simp only [pcapRecordBytes, leBytes, toLE, hdata, List.append_assoc]
  have hlen' : p.data.length % 256 ^ 4 = p.data.length := Nat.mod_eq_of_lt (by omega)
  rw [hrec]
  simp only [readRecord, run_le_bind, hfield, hlen', run_take_bind]
  rfl

theorem readRecords_nil (fuel : Nat) : (readRecords fuel).run [] = some ([], []) := by
  cases fuel <;> rfl

theorem readRecords_succ_of_ne_nil {fuel : Nat} {bytes : List UInt8} (h : bytes ≠ []) :
    (readRecords (fuel + 1)).run bytes =
      (readRecord >>= fun record => readRecords fuel >>= fun records =>
        pure (record :: records)).run bytes := by
  simp [readRecords, h]

/-- The records of packets whose lengths fit their `u32` read back one by one, given a record of
fuel for each. -/
theorem readRecords_run {packets : List CapturedPacket}
    (hlen : ∀ p ∈ packets, p.data.length < 2 ^ 32) {fuel : Nat} (hfuel : packets.length ≤ fuel) :
    (readRecords fuel).run (packets.flatMap pcapRecordBytes) =
      some (packets.map CapturedPacket.toRecord, []) := by
  induction packets generalizing fuel with
  | nil => exact readRecords_nil fuel
  | cons p packets ih =>
    obtain ⟨fuel, rfl⟩ : ∃ f, fuel = f + 1 := ⟨fuel - 1, by simp at hfuel; omega⟩
    have hne : pcapRecordBytes p ++ packets.flatMap pcapRecordBytes ≠ [] := by
      simp [pcapRecordBytes, leBytes]
    rw [List.flatMap_cons, readRecords_succ_of_ne_nil hne,
      run_bind_of_run (readRecord_run (hlen p List.mem_cons_self) _),
      run_bind_of_run (ih (fun q hq => hlen q (List.mem_cons_of_mem p hq)) (by simpa using hfuel))]
    rfl

theorem length_le_length_flatMap (packets : List CapturedPacket) :
    packets.length ≤ (packets.flatMap pcapRecordBytes).length := by
  induction packets with
  | nil => simp
  | cons p packets ih =>
    rw [List.flatMap_cons, List.length_append, List.length_cons]
    have : 1 ≤ (pcapRecordBytes p).length := by
      simp only [pcapRecordBytes, leBytes, List.length_append, List.length_map, List.length_range]
      omega
    omega

end Pcap

/-- A pcap file `packets_to_pcap` writes reads back as its header and, in order, the record of
every packet, as long as no packet's length overflows the `u32` it is written as. -/
theorem pcap_round_trip (packets : List CapturedPacket) (datalink : Int) (snaplen : Nat)
    (hlen : ∀ p ∈ packets, p.data.length < 2 ^ 32) :
    Pcap.readPcap (packetsToPcap packets datalink snaplen) =
      some (pcapHeader datalink snaplen, packets.map CapturedPacket.toRecord) := by
  have hfuel : packets.length ≤ (packetsToPcap packets datalink snaplen).length := by
    rw [packetsToPcap_eq]
    simp only [List.length_append]
    have := Pcap.length_le_length_flatMap packets
    omega
  unfold Pcap.readPcap
  rw [StateT.run'_eq, packetsToPcap_eq] at *
  rw [Reader.run_bind_of_run (Pcap.readHeader_run datalink snaplen _),
    Reader.run_bind_of_run (Pcap.readRecords_run hlen hfuel)]
  rfl

/-- A packet of three bytes. -/
def examplePacket : CapturedPacket :=
  ⟨1700000000, 250000, 60, [1, 2, 3], some "survey".toList⟩

theorem pcap_round_trip_example :
    (∀ p ∈ [examplePacket], p.data.length < 2 ^ 32) ∧
      Pcap.readPcap (packetsToPcap [examplePacket] 1 65535) =
        some (pcapHeader 1 65535, [examplePacket].map CapturedPacket.toRecord) :=
  ⟨by simp [examplePacket], pcap_round_trip [examplePacket] 1 65535 (by simp [examplePacket])⟩

/-! ### The downloads -/

theorem PacketRingBuffer.datalink_addPacket {b b' : PacketRingBuffer} {tsSec tsUsec : Int}
    {origLen : Nat} {data : List UInt8} {surveySessionId : Option (List Char)}
    (h : b.addPacket tsSec tsUsec origLen data surveySessionId = some b') :
    b'.datalink = b.datalink := by
  unfold PacketRingBuffer.addPacket at h
  obtain ⟨ring, -, h⟩ := Option.bind_eq_some_iff.mp h
  split_ifs at h
  cases h
  rfl

theorem datalink_captureLoop (extractSessionIdFromPacket : List UInt8 → Option (List Char))
    {svc svc' : PacketCaptureService} {packets : List (Int × Int × Nat × List UInt8)}
    (h : svc.captureLoop extractSessionIdFromPacket packets = some svc') :
    svc'.buffer.datalink = svc.buffer.datalink := by
  induction packets generalizing svc with
  | nil =>
    cases h
    rfl
  | cons p packets ih =>
    simp only [PacketCaptureService.captureLoop, List.foldlM_cons, Option.bind_eq_bind] at h
    obtain ⟨svc₁, hadd, hrest⟩ := Option.bind_eq_some_iff.mp h
    rw [ih hrest]
    unfold PacketCaptureService.addPacket at hadd
    split_ifs at hadd
    · obtain ⟨buffer, hbuffer, rfl⟩ := Option.map_eq_some_iff.mp hadd
      exact PacketRingBuffer.datalink_addPacket hbuffer
    · cases hadd
      rfl

/-- After any run of the capture loop on an enabled service, the pcap file downloaded for a
survey session reads back as the records of that session's packets among the last
`max_packets` captured, oldest first. -/
theorem session_pcap_reads_back (extractSessionIdFromPacket : List UInt8 → Option (List Char))
    (svc : PacketCaptureService) (packets : List (Int × Int × Nat × List UInt8))
    (h : svc.buffer.ring.Valid) (henabled : svc.config.enabled = true)
    (htotal : svc.buffer.totalCaptured + packets.length < 2 ^ 64)
    (hbuffered : ∀ p ∈ svc.buffer.getPackets, p.data.length < 2 ^ 32)
    (hcaptured : ∀ p ∈ packets, p.2.2.2.length < 2 ^ 32) :
    ∃ svc', svc.captureLoop extractSessionIdFromPacket packets = some svc' ∧
      ∀ surveySessionId, Pcap.readPcap (svc'.generatePcapForSession surveySessionId) =
        some (pcapHeader svc.buffer.datalink (asU32 svc.config.snaplen),
          ((lastN svc.buffer.config.maxPackets (svc.buffer.getPackets ++
            packets.map (PacketCaptureService.tagged extractSessionIdFromPacket))).filter
              fun p => p.surveySessionId == some surveySessionId).map CapturedPacket.toRecord) := by
  obtain ⟨svc', hloop, -, hconfig, hlist⟩ :=
    PacketCaptureService.getPackets_captureLoop extractSessionIdFromPacket svc packets h henabled
      htotal
  refine ⟨svc', hloop, fun surveySessionId => ?_⟩
  -- every packet kept was buffered before or captured in the run, so its length fits a `u32`
  have hlen : ∀ p ∈ (lastN svc.buffer.config.maxPackets (svc.buffer.getPackets ++
      packets.map (PacketCaptureService.tagged extractSessionIdFromPacket))).filter
        (fun p => p.surveySessionId == some surveySessionId), p.data.length < 2 ^ 32 := by
    intro p hp
    have hmem := List.mem_of_mem_drop (List.mem_of_mem_filter hp)
    rcases List.mem_append.mp hmem with hold | hnew
    · exact hbuffered p hold
    · obtain ⟨q, hq, rfl⟩ := List.mem_map.mp hnew
      exact hcaptured q hq
  rw [PacketCaptureService.generatePcapForSession, PacketRingBuffer.getPacketsForSession, hlist,
    datalink_captureLoop extractSessionIdFromPacket hloop, hconfig]
  exact pcap_round_trip _ _ _ hlen

/-- A new capture service holding two packets. -/
def exampleCaptureService : PacketCaptureService :=
  PacketCaptureService.new ⟨2, 65535, true⟩

theorem session_pcap_reads_back_example :
    exampleCaptureService.buffer.ring.Valid ∧ exampleCaptureService.config.enabled = true ∧
      exampleCaptureService.buffer.totalCaptured + [(1700000000, 0, 3, [1, 2, 3])].length < 2 ^ 64 ∧
      (∀ p ∈ exampleCaptureService.buffer.getPackets, p.data.length < 2 ^ 32) ∧
      (∀ p ∈ [((1700000000 : Int), (0 : Int), 3, ([1, 2, 3] : List UInt8))],
        p.2.2.2.length < 2 ^ 32) ∧
      ∃ svc', exampleCaptureService.captureLoop (fun _ => some "survey".toList)
          [(1700000000, 0, 3, [1, 2, 3])] = some svc' ∧
        ∀ surveySessionId, Pcap.readPcap (svc'.generatePcapForSession surveySessionId) =
          some (pcapHeader exampleCaptureService.buffer.datalink
              (asU32 exampleCaptureService.config.snaplen),
            ((lastN exampleCaptureService.buffer.config.maxPackets
              (exampleCaptureService.buffer.getPackets ++
                [((1700000000 : Int), (0 : Int), 3, ([1, 2, 3] : List UInt8))].map
                  (PacketCaptureService.tagged fun _ => some "survey".toList))).filter
                fun p => p.surveySessionId == some surveySessionId).map CapturedPacket.toRecord) :=
  have hvalid : exampleCaptureService.buffer.ring.Valid := Buffer.valid_empty (by decide)
  have henabled : exampleCaptureService.config.enabled = true := rfl
  have htotal : exampleCaptureService.buffer.totalCaptured +
      [((1700000000 : Int), (0 : Int), 3, ([1, 2, 3] : List UInt8))].length < 2 ^ 64 := by decide
  have hbuffered : ∀ p ∈ exampleCaptureService.buffer.getPackets, p.data.length < 2 ^ 32 := by
    decide
  have hcaptured : ∀ p ∈ [((1700000000 : Int), (0 : Int), 3, ([1, 2, 3] : List UInt8))],
      p.2.2.2.length < 2 ^ 32 := by simp
  ⟨hvalid, henabled, htotal, hbuffered, hcaptured,
    session_pcap_reads_back (fun _ => some "survey".toList) exampleCaptureService
      [(1700000000, 0, 3, [1, 2, 3])] hvalid henabled htotal hbuffered hcaptured⟩

end Netpoke
