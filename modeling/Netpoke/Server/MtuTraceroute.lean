import Netpoke.Server.Measurements
import Netpoke.Library.Checked

/-!
# The TTL loop of an MTU traceroute round

`StartMtuTraceroute` (`server/src/data_channels.rs`) hands the client's `packet_size: u32`,
`path_ttl: i32` and `collect_timeout_ms` to `run_mtu_traceroute_round`
(`server/src/measurements.rs`) unchecked. For each `current_ttl` in `1..path_ttl` whose test-probe
channel is open, the round records the test probe (`sendTestprobe`, shared with the other
traceroute), builds it with TTL `current_ttl as u8`, and pads its JSON to `packet_size as usize`
less the IP, UDP and SCTP headers: `20 + 8 + 28` for the version text `"ipv4"`, `40 + 8 + 28` for
any other, nothing when the session has none. The `usize` subtraction panics below the headers
(`mtuTargetLen_eq_none_iff`), after the probe was recorded, and the cast keeps the low byte of the
counter (`ttlByte_toNat`), so past `path_ttl = 257` the probes go out with TTL 0, 1, ... again.

A round that does not panic sends one probe per open tick, with the TTL of its counter's low byte,
and leaves the session state the bookkeeping run of its test probes leaves (`mtuRound_ok`); a round
below the headers panics at its first open tick (`mtuRound_error`). The drains between the ticks
and after the loop, and the result of the send, change neither.
-/

namespace Netpoke

/-- The padding target of an MTU probe: `packet_size as usize` less the headers of the session's
IP version; `none` where the subtraction panics. -/
def mtuTargetLen (packetSize : Nat) (ipVersion : Option (List Char)) : Option Nat :=
  match ipVersion with
  | some ipVer =>
    if ipVer = "ipv4".toList then Checked.sub packetSize (20 + 8 + 28)
    else Checked.sub packetSize (40 + 8 + 28)
  | none => some packetSize

/-- `current_ttl as u8`: the low byte of the counter. -/
def ttlByte (currentTtl : Int) : UInt8 :=
  UInt8.ofNat (currentTtl % 256).toNat

/-- `json.resize(target_len, 0x23)` when the JSON is shorter than the target. -/
def paddedLen (jsonLen targetLen : Nat) : Nat :=
  if jsonLen < targetLen then targetLen else jsonLen

/-- The counters of `for current_ttl in 1..path_ttl`. -/
def mtuCounters (pathTtl : Int) : List Int :=
  (List.range (pathTtl - 1).toNat).map fun i : Nat => (i : Int) + 1

/-- What a tick finds: whether the test-probe channel is open, the clock, and the length of the
probe's JSON. -/
structure MtuTick where
  testprobeOpen : Bool
  sentAtMs : Nat
  jsonLen : Nat
  deriving DecidableEq, Repr

/-- A probe the round sends: its TTL, its test sequence number and its padded length. -/
structure MtuProbe where
  ttl : UInt8
  testSeq : Nat
  len : Nat
  deriving DecidableEq, Repr

/-- One tick of the loop on the session state and the probes sent so far; `.error` with the
state and the probes at the panic. -/
def mtuTick (ipVersion : Option (List Char)) (packetSize : Nat)
    (sp : MeasurementState × List MtuProbe) (currentTtl : Int) (tick : MtuTick) :
    Except (MeasurementState × List MtuProbe) (MeasurementState × List MtuProbe) :=
  if tick.testprobeOpen then
    -- `testprobe_seq += 1` panics at the end of `u64`
    if sp.1.testprobeSeq + 1 < 2 ^ 64 then
      let s' := sp.1.sendTestprobe tick.sentAtMs
      match mtuTargetLen packetSize ipVersion with
      | some targetLen =>
        .ok (s', sp.2 ++ [⟨ttlByte currentTtl, sp.1.testprobeSeq, paddedLen tick.jsonLen targetLen⟩])
      -- the padding target panics after the probe was recorded
      | none => .error (s', sp.2)
    else .error sp
  else .ok sp

/-- The TTL loop of `run_mtu_traceroute_round`, each counter meeting its tick. -/
def mtuRound (ipVersion : Option (List Char)) (packetSize : Nat) (pathTtl : Int)
    (ticks : Int → MtuTick) (s : MeasurementState) :
    Except (MeasurementState × List MtuProbe) (MeasurementState × List MtuProbe) :=
  (mtuCounters pathTtl).foldlM (fun sp c => mtuTick ipVersion packetSize sp c (ticks c)) (s, [])

theorem mtuTargetLen_eq_none_iff (packetSize : Nat) (ipVersion : Option (List Char)) :
    mtuTargetLen packetSize ipVersion = none ↔
      (ipVersion = some "ipv4".toList ∧ packetSize < 56) ∨
        (∃ ipVer, ipVersion = some ipVer ∧ ipVer ≠ "ipv4".toList ∧ packetSize < 76) := by
  cases ipVersion with
  | none => simp [mtuTargetLen]
  | some ipVer =>
    rw [mtuTargetLen]
    by_cases hv : ipVer = "ipv4".toList
    · rw [if_pos hv, Checked.sub_eq_none_iff]
      constructor
      · intro h
        exact .inl ⟨by rw [hv], h⟩
      · rintro (⟨-, h⟩ | ⟨v, hsome, hne, -⟩)
        · exact h
        · exact absurd ((Option.some.inj hsome).symm.trans hv) hne
    · rw [if_neg hv, Checked.sub_eq_none_iff]
      constructor
      · intro h
        exact .inr ⟨ipVer, rfl, hv, h⟩
      · rintro (⟨hsome, -⟩ | ⟨v, hsome, -, h⟩)
        · exact absurd (Option.some.inj hsome) hv
        · exact h

theorem ttlByte_toNat {c : Int} (hc : 0 ≤ c) : (ttlByte c).toNat = c.toNat % 256 := by
  unfold ttlByte
  rw [UInt8.toNat_ofNat']
  omega

theorem mem_mtuCounters {pathTtl c : Int} : c ∈ mtuCounters pathTtl ↔ 1 ≤ c ∧ c < pathTtl := by
  simp only [mtuCounters, List.mem_map]
  constructor
  · rintro ⟨i, hi, rfl⟩
    rw [List.mem_range] at hi
    omega
  · intro hc
    exact ⟨(c - 1).toNat, List.mem_range.mpr (by omega), by omega⟩

theorem length_mtuCounters (pathTtl : Int) : (mtuCounters pathTtl).length = (pathTtl - 1).toNat := by
  simp [mtuCounters]

theorem testprobeSeq_sendTestprobe {s : MeasurementState} (h : s.testprobeSeq + 1 < 2 ^ 64)
    (sentAtMs : Nat) : (s.sendTestprobe sentAtMs).testprobeSeq = s.testprobeSeq + 1 := by
  unfold MeasurementState.sendTestprobe
  rw [if_pos h]

section Loop

variable (ipVersion : Option (List Char)) (packetSize : Nat) (ticks : Int → MtuTick)

/-- The test probes the open ticks of the counters record. -/
def mtuProbeEvents (cs : List Int) : List ProbeEvent :=
  (cs.filter fun c => (ticks c).testprobeOpen).map fun c => .mtuTestprobeSent (ticks c).sentAtMs

/-- Above the headers and below the end of the counter, the loop sends one probe per open tick
with the low byte of its counter as TTL, and records them as the bookkeeping run does. -/
theorem foldlM_mtuTick_ok {targetLen : Nat} (htarget : mtuTargetLen packetSize ipVersion = some targetLen)
    (cs : List Int) (sp : MeasurementState × List MtuProbe)
    (hseq : sp.1.testprobeSeq + cs.length < 2 ^ 64) :
    ∃ probes, cs.foldlM (fun sp c => mtuTick ipVersion packetSize sp c (ticks c)) sp =
        .ok (sp.1.run (mtuProbeEvents ticks cs), sp.2 ++ probes) ∧
      probes.map MtuProbe.ttl = (cs.filter fun c => (ticks c).testprobeOpen).map ttlByte := by
  induction cs generalizing sp with
  | nil => exact ⟨[], by rw [List.foldlM_nil, List.append_nil]; rfl, rfl⟩
  | cons c cs ih =>
    rw [List.foldlM_cons]
    by_cases hopen : (ticks c).testprobeOpen = true
    · -- an open tick records its probe and sends it
      have hnext : sp.1.testprobeSeq + 1 < 2 ^ 64 := by
        simp only [List.length_cons] at hseq
        omega
      have htick : mtuTick ipVersion packetSize sp c (ticks c) =
          .ok (sp.1.sendTestprobe (ticks c).sentAtMs,
            sp.2 ++ [⟨ttlByte c, sp.1.testprobeSeq, paddedLen (ticks c).jsonLen targetLen⟩]) := by
        unfold mtuTick
        rw [if_pos hopen, if_pos hnext, htarget]
      have hseq' : (sp.1.sendTestprobe (ticks c).sentAtMs).testprobeSeq + cs.length < 2 ^ 64 := by
        rw [testprobeSeq_sendTestprobe hnext]
        simp only [List.length_cons] at hseq
        omega
      obtain ⟨probes, hrun, httl⟩ := ih (sp.1.sendTestprobe (ticks c).sentAtMs,
        sp.2 ++ [⟨ttlByte c, sp.1.testprobeSeq, paddedLen (ticks c).jsonLen targetLen⟩]) hseq'
      refine ⟨⟨ttlByte c, sp.1.testprobeSeq, paddedLen (ticks c).jsonLen targetLen⟩ :: probes, ?_, ?_⟩
      · rw [htick]
        simp only [bind, Except.bind]
        rw [hrun]
        simp [mtuProbeEvents, hopen, MeasurementState.run, MeasurementState.step]
      · simp [httl, hopen]
    · have htick : mtuTick ipVersion packetSize sp c (ticks c) = .ok sp := by
        unfold mtuTick
        rw [if_neg hopen]
      have hseq' : sp.1.testprobeSeq + cs.length < 2 ^ 64 := by
        simp only [List.length_cons] at hseq
        omega
      obtain ⟨probes, hrun, httl⟩ := ih sp hseq'
      refine ⟨probes, ?_, ?_⟩
      · rw [htick]
        simp only [bind, Except.bind]
        rw [hrun]
        simp [mtuProbeEvents, hopen]
      · simp [httl, hopen]

/-- Below the headers the loop panics at its first open tick. -/
theorem foldlM_mtuTick_error (htarget : mtuTargetLen packetSize ipVersion = none) (cs : List Int)
    (hopen : ∃ c ∈ cs, (ticks c).testprobeOpen = true) (sp : MeasurementState × List MtuProbe) :
    ∃ e, cs.foldlM (fun sp c => mtuTick ipVersion packetSize sp c (ticks c)) sp = .error e := by
  induction cs generalizing sp with
  | nil => simp at hopen
  | cons c cs ih =>
    rw [List.foldlM_cons]
    by_cases hc : (ticks c).testprobeOpen = true
    · have htick : ∃ e, mtuTick ipVersion packetSize sp c (ticks c) = .error e := by
        unfold mtuTick
        rw [if_pos hc]
        split
        · exact ⟨_, by rw [htarget]⟩
        · exact ⟨_, rfl⟩
      obtain ⟨e, he⟩ := htick
      exact ⟨e, by rw [he]; rfl⟩
    · have htick : mtuTick ipVersion packetSize sp c (ticks c) = .ok sp := by
        unfold mtuTick
        rw [if_neg hc]
      obtain ⟨c', hc', hopen'⟩ := hopen
      have hrest : ∃ c ∈ cs, (ticks c).testprobeOpen = true := by
        rcases List.mem_cons.mp hc' with rfl | hmem
        · exact absurd hopen' hc
        · exact ⟨c', hmem, hopen'⟩
      rw [htick]
      exact ih hrest sp

end Loop

theorem mtuRound_ok {ipVersion : Option (List Char)} {packetSize targetLen : Nat} {pathTtl : Int}
    (ticks : Int → MtuTick) {s : MeasurementState}
    (htarget : mtuTargetLen packetSize ipVersion = some targetLen)
    (hseq : s.testprobeSeq + (pathTtl - 1).toNat < 2 ^ 64) :
    ∃ probes, mtuRound ipVersion packetSize pathTtl ticks s =
        .ok (s.run (mtuProbeEvents ticks (mtuCounters pathTtl)), probes) ∧
      probes.map MtuProbe.ttl =
        ((mtuCounters pathTtl).filter fun c => (ticks c).testprobeOpen).map ttlByte := by
  have hlen : (s, ([] : List MtuProbe)).1.testprobeSeq + (mtuCounters pathTtl).length < 2 ^ 64 := by
    rw [length_mtuCounters]
    exact hseq
  obtain ⟨probes, hrun, httl⟩ := foldlM_mtuTick_ok ipVersion packetSize ticks htarget _ _ hlen
  exact ⟨probes, by rw [mtuRound, hrun, List.nil_append], httl⟩

theorem mtuRound_error {ipVersion : Option (List Char)} {packetSize : Nat} {pathTtl : Int}
    (ticks : Int → MtuTick) (s : MeasurementState)
    (htarget : mtuTargetLen packetSize ipVersion = none)
    (hopen : ∃ c, 1 ≤ c ∧ c < pathTtl ∧ (ticks c).testprobeOpen = true) :
    ∃ e, mtuRound ipVersion packetSize pathTtl ticks s = .error e := by
  obtain ⟨c, hlow, hhigh, hc⟩ := hopen
  exact foldlM_mtuTick_error ipVersion packetSize ticks htarget _
    ⟨c, mem_mtuCounters.mpr ⟨hlow, hhigh⟩, hc⟩ _

/-- A tick at one hour past the epoch with an open channel and a 100-byte probe. -/
def openMtuTick : MtuTick := ⟨true, 3600000, 100⟩

theorem mtu_round_unchecked :
    (∀ packetSize ipVersion, mtuTargetLen packetSize ipVersion = none ↔
      (ipVersion = some "ipv4".toList ∧ packetSize < 56) ∨
        (∃ ipVer, ipVersion = some ipVer ∧ ipVer ≠ "ipv4".toList ∧ packetSize < 76)) ∧
    (∀ ipVersion packetSize pathTtl ticks (s : MeasurementState),
      mtuTargetLen packetSize ipVersion = none →
      (∃ c, 1 ≤ c ∧ c < pathTtl ∧ (ticks c).testprobeOpen = true) →
      ∃ e, mtuRound ipVersion packetSize pathTtl ticks s = .error e) ∧
    (∀ ipVersion packetSize targetLen pathTtl ticks (s : MeasurementState),
      mtuTargetLen packetSize ipVersion = some targetLen →
      s.testprobeSeq + (pathTtl - 1).toNat < 2 ^ 64 →
      ∃ probes, mtuRound ipVersion packetSize pathTtl ticks s =
          .ok (s.run (mtuProbeEvents ticks (mtuCounters pathTtl)), probes) ∧
        probes.map MtuProbe.ttl =
          ((mtuCounters pathTtl).filter fun c => (ticks c).testprobeOpen).map ttlByte) ∧
    (∀ c : Int, 0 ≤ c → (ttlByte c).toNat = c.toNat % 256) ∧
    (∃ e, mtuRound (some "ipv4".toList) 55 2 (fun _ => openMtuTick) MeasurementState.new = .error e) ∧
    (∃ probes, mtuRound (some "ipv4".toList) 1500 258 (fun _ => openMtuTick) MeasurementState.new =
        .ok (MeasurementState.new.run (mtuProbeEvents (fun _ => openMtuTick) (mtuCounters 258)), probes) ∧
      (0 : UInt8) ∈ probes.map MtuProbe.ttl) := by
  refine ⟨mtuTargetLen_eq_none_iff, fun _ _ _ ticks s htarget hopen => mtuRound_error ticks s htarget hopen,
    fun _ _ _ _ ticks _ htarget hseq => mtuRound_ok ticks htarget hseq, fun _ hc => ttlByte_toNat hc,
    mtuRound_error _ _ (by decide) ⟨1, by decide, by decide, rfl⟩, ?_⟩
  obtain ⟨probes, hrun, httl⟩ := @mtuRound_ok (some "ipv4".toList) 1500 1444 258
    (fun _ => openMtuTick) MeasurementState.new (by decide) (by decide)
  refine ⟨probes, hrun, ?_⟩
  rw [httl, List.mem_map]
  exact ⟨256, List.mem_filter.mpr ⟨mem_mtuCounters.mpr ⟨by decide, by decide⟩, rfl⟩, by decide⟩

end Netpoke
