import Netpoke.Server.ProbeMetrics
import Netpoke.Library.IndexedQueue

/-!
# The probe streams of both ends

Once a measurement starts (`StartProbeStreams`), each end sends a stream of
`MeasurementProbePacket`s and records the stream it receives: the server in
`handle_measurement_probe_packet` (`server/src/measurements.rs`), the WASM client in the
`onmessage` closure of `setup_probe_channel` (`client/src/measurements.rs`). Each keeps the
probes of the last two seconds, a baseline delay (the mean of the delays admitted so far, outliers
excluded once ten are in) and the feedback counts of the last second. Once a second the server's
`calculate_probe_stream_stats` and the client's `calculate_client_s2c_stats` (`client/src/lib.rs`)
turn the probes of the last second into a `DirectionStats`.

The two handlers differ in their checks: the server drops a probe of another connection, and
computes the delay before it reads `probe_streams_active`, so that a probe whose delay overflows
panics it even between measurements; the client reads the flag first. While the streams are
active they are the same step (`handleMeasurementProbePacket_of_active`), and so are their runs
(`serverProbeRun_eq_clientProbeRun`). The two stats functions are one text compiled twice: on the
server `usize` has 64 bits, on `wasm32` 32, and `len * 99` is a `usize` product
(`directionStats` takes the width). They agree on every window of fewer than `2 ^ 32 / 99`
probes (`directionStats_usize_eq`).

Over an arrival-ordered timeline the server keeps exactly the probes of the last two seconds
(`ProbeStreamState.Keeps`), and the stats read exactly those of the last second.
-/

namespace Netpoke

/-- `ReceivedMeasurementProbe`, without the feedback its sender attached, which nothing here
reads. -/
structure ReceivedMeasurementProbe where
  seq : Nat
  sentAtMs : Nat
  receivedAtMs : Nat
  deriving DecidableEq, Repr

/-- The delay of a stored probe, exactly. -/
def ReceivedMeasurementProbe.delay (p : ReceivedMeasurementProbe) : Int :=
  (p.receivedAtMs : Int) - p.sentAtMs

/-- `ProbeFeedback`: what an end tells its peer of the stream it receives. -/
structure ProbeFeedback where
  highestSeq : Nat
  highestSeqReceivedAtMs : Nat
  recentCount : Nat
  recentReorders : Nat
  deriving DecidableEq, Repr

def ProbeFeedback.default : ProbeFeedback := ⟨0, 0, 0, 0⟩

/-- The fields of an end's `MeasurementState` that the probe streams read and write; both ends
have the same. -/
structure ProbeStreamState (F : Type) where
  probeStreamsActive : Bool
  receivedMeasurementProbes : List ReceivedMeasurementProbe
  baselineDelaySum : F
  baselineDelayCount : Nat
  lastFeedback : ProbeFeedback

/-- A `MeasurementProbePacket` as the handlers read it; neither reads its `direction`, and the
`feedback` it carries is not stored in what the stats read. -/
structure MeasurementProbePacket where
  seq : Nat
  sentAtMs : Nat
  connId : List Char
  deriving DecidableEq, Repr

/-- An `[f64; 4]` of order statistics: `[0]` the median, `[1]` the 99th percentile, `[2]` the
minimum, `[3]` the maximum. -/
structure Percentiles (F : Type) where
  p50 : F
  p99 : F
  min : F
  max : F

structure DirectionStats (F : Type) where
  delayDeviationMs : Percentiles F
  rttMs : Percentiles F
  jitterMs : Percentiles F
  lossRate : F
  reorderRate : F
  probeCount : Nat
  baselineDelayMs : F

def baselineMinSamples : Nat := 10

/-- `PROBE_STATS_WINDOW_MS`: how long an end keeps a probe. -/
def probeStatsWindowMs : Nat := 2000

/-- `PROBE_FEEDBACK_WINDOW_MS`: the probes the feedback and the stats read. -/
def probeFeedbackWindowMs : Nat := 1000

/-- One probe of the feedback loop over `(recent_count, recent_reorders, last_seq)`; both counts
are `u32`. -/
def feedbackStep (acc : Nat × Nat × Nat) (seq : Nat) : Option (Nat × Nat × Nat) :=
  (Checked.add 32 acc.1 1).bind fun recentCount =>
    (if seq < acc.2.2 then Checked.add 32 acc.2.1 1 else some acc.2.1).map fun recentReorders =>
      (recentCount, recentReorders, max acc.2.2 seq)

/-- The feedback loop over the probes received at or after `cutoff`. -/
def feedbackCounts (probes : List ReceivedMeasurementProbe) (cutoff : Nat) :
    Option (Nat × Nat × Nat) :=
  ((probes.filter fun p => p.receivedAtMs ≥ cutoff).map ReceivedMeasurementProbe.seq).foldlM
    feedbackStep (0, 0, 0)

/-- The pruning loop at `nowMs`: pop the front probe while it is older than two seconds
(`now_ms.saturating_sub(PROBE_STATS_WINDOW_MS)`). -/
def pruneReceived (probes : List ReceivedMeasurementProbe) (nowMs : Nat) :
    List ReceivedMeasurementProbe :=
  probes.dropWhile fun p => p.receivedAtMs < nowMs - probeStatsWindowMs

/-- The probes the stats read at `nowMs`: those received in the last second. -/
def ProbeStreamState.recentProbes {F : Type} (st : ProbeStreamState F) (nowMs : Nat) :
    List ReceivedMeasurementProbe :=
  st.receivedMeasurementProbes.filter fun p => p.receivedAtMs ≥ nowMs - probeFeedbackWindowMs

section Handlers

variable {F : Type} (A : Arith F)

def baselineOutlierMultiplier : F := A.ofNat 3

def baselineMinThresholdMs : F := A.ofNat 100

/-- The state `StartProbeStreams` leaves on either end: active, with every probe-stream field
cleared. -/
def ProbeStreamState.started : ProbeStreamState F := ⟨true, [], A.ofNat 0, 0, ProbeFeedback.default⟩

/-- The baseline delay: the mean of the admitted delays, or `fallback` before the first. -/
def ProbeStreamState.baseline (st : ProbeStreamState F) (fallback : F) : F :=
  if st.baselineDelayCount > 0 then A.div st.baselineDelaySum (A.ofNat st.baselineDelayCount)
  else fallback

/-- The baseline sum and `u64` count after `delay`: it is admitted while fewer than
`BASELINE_MIN_SAMPLES` are in, and later when it is within the outlier threshold. -/
def ProbeStreamState.admitDelay (st : ProbeStreamState F) (delay : F) : Option (F × Nat) :=
  let baseline := st.baseline A delay
  let deviationFromBaseline := A.abs (A.sub delay baseline)
  let baselineThreshold := A.mul (A.abs baseline) (baselineOutlierMultiplier A)
  if decide (st.baselineDelayCount < baselineMinSamples) ||
      A.lt deviationFromBaseline (A.max baselineThreshold (baselineMinThresholdMs A)) then
    (Checked.add 64 st.baselineDelayCount 1).map fun count => (A.add st.baselineDelaySum delay, count)
  else some (st.baselineDelaySum, st.baselineDelayCount)

/-- What both ends do with probe `seq`, sent at `sentAtMs` and received at `nowMs` with `delay`:
store it, update the baseline and the feedback, keep the probes of the last two seconds, and count
those of the last second. -/
def ProbeStreamState.recordMeasurementProbe (st : ProbeStreamState F) (seq sentAtMs nowMs : Nat)
    (delay : F) : Option (ProbeStreamState F) := do
  let admitted ← st.admitDelay A delay
  let receivedMeasurementProbes :=
    pruneReceived (st.receivedMeasurementProbes ++ [⟨seq, sentAtMs, nowMs⟩]) nowMs
  let counts ← feedbackCounts receivedMeasurementProbes (nowMs - probeFeedbackWindowMs)
  pure { st with
    receivedMeasurementProbes
    baselineDelaySum := admitted.1
    baselineDelayCount := admitted.2
    lastFeedback := ⟨max st.lastFeedback.highestSeq seq, nowMs, counts.1, counts.2.1⟩ }

/-- `handle_measurement_probe_packet` of the session `connId` at `nowMs`; `none` where it
panics. -/
def handleMeasurementProbePacket (connId : List Char) (st : ProbeStreamState F)
    (probe : MeasurementProbePacket) (nowMs : Nat) : Option (ProbeStreamState F) :=
  if probe.connId ≠ connId then some st
  else
    -- the delay is computed before `probe_streams_active` is read
    (signedDelay nowMs probe.sentAtMs).bind fun delay =>
      if st.probeStreamsActive then
        st.recordMeasurementProbe A probe.seq probe.sentAtMs nowMs (A.ofInt delay)
      else some st

/-- The `onmessage` closure of `setup_probe_channel` on a `MeasurementProbePacket` at `nowMs`.
Between measurements the message falls through to the legacy probe handling, which leaves these
fields alone. -/
def probeChannelOnmessage (st : ProbeStreamState F) (probe : MeasurementProbePacket) (nowMs : Nat) :
    Option (ProbeStreamState F) :=
  if st.probeStreamsActive then
    (signedDelay nowMs probe.sentAtMs).bind fun delay =>
      st.recordMeasurementProbe A probe.seq probe.sentAtMs nowMs (A.ofInt delay)
  else some st

/-- `[0.0; 4]`. -/
def Percentiles.zero : Percentiles F := ⟨A.ofNat 0, A.ofNat 0, A.ofNat 0, A.ofNat 0⟩

def DirectionStats.default : DirectionStats F :=
  ⟨Percentiles.zero A, Percentiles.zero A, Percentiles.zero A, A.ofNat 0, A.ofNat 0, 0, A.ofNat 0⟩

/-- The order statistics of the sorted `v` at the indices `i` and `j`, with `first()` and
`last()`; `none` where an index is out of range. -/
def percentilesAt (v : List F) (i j : Nat) : Option (Percentiles F) :=
  v[i]?.bind fun p50 => v[j]?.map fun p99 =>
    ⟨p50, p99, v.head?.getD (A.ofNat 0), v.getLast?.getD (A.ofNat 0)⟩

/-- The jitter loop: the absolute difference of each delay from the one before it. -/
def jitterLoop (delays : List F) : List F :=
  (delays.foldl (fun acc delay =>
    (match acc.2 with
      | some prev => acc.1 ++ [A.abs (A.sub delay prev)]
      | none => acc.1, some delay)) ([], none)).1

/-- `jitter_ms` from the sorted jitters on a `usize` of `w` bits. -/
def jitterPercentiles (w : Nat) (jitters : List F) : Option (Percentiles F) :=
  if jitters.isEmpty then some (Percentiles.zero A)
  else
    let jitterLen := max jitters.length 1
    (Checked.mul w jitterLen 99).bind fun scaled =>
      percentilesAt A jitters (jitterLen / 2) (scaled / 100)

/-- `loss_rate` from `expected` and the number of probes received. -/
def streamLossRate (expected received : Nat) : F :=
  if A.lt (A.ofNat 0) (A.ofNat expected) then
    A.max (A.mul (A.div (A.sub (A.ofNat expected) (A.ofNat received)) (A.ofNat expected))
      (A.ofNat 100)) (A.ofNat 0)
  else A.ofNat 0

/-- The body of both stats functions on a `usize` of `w` bits; `none` where it panics. -/
def directionStats (w : Nat) (st : ProbeStreamState F) (nowMs : Nat) : Option (DirectionStats F) :=
  let recentProbes := st.recentProbes nowMs
  if recentProbes.isEmpty then some (DirectionStats.default A)
  else do
    let baseline := st.baseline A (A.ofNat 0)
    -- the jitter loop computes the same delays again
    let delays ← recentProbes.mapM fun p => (signedDelay p.receivedAtMs p.sentAtMs).map A.ofInt
    let delayDeviations := A.sort (delays.map fun delay => A.sub delay baseline)
    let len := delayDeviations.length
    let p99Scaled ← Checked.mul w len 99
    let delayDeviationMs ←
      percentilesAt A delayDeviations (len / 2) (min (p99Scaled / 100) (len - 1))
    let jitterMs ← jitterPercentiles A w (A.sort (jitterLoop A delays))
    let seqs := recentProbes.map ReceivedMeasurementProbe.seq
    -- `max_seq.saturating_sub(min_seq) + 1` is a `u64` sum
    let expected ← Checked.add 64 (seqs.max?.getD 0 - seqs.min?.getD 0) 1
    -- `reorders` is an `i32`
    let reorders ← Checked.tally 31 (reorderCount max seqs)
    pure ⟨delayDeviationMs, Percentiles.zero A, jitterMs, streamLossRate A expected recentProbes.length,
      if recentProbes.length > 0 then reorderRate A reorders recentProbes.length else A.ofNat 0,
      recentProbes.length % 2 ^ 32, baseline⟩

/-- `calculate_probe_stream_stats`, on the server's 64-bit `usize`. -/
def calculateProbeStreamStats (st : ProbeStreamState F) (nowMs : Nat) : Option (DirectionStats F) :=
  directionStats A 64 st nowMs

/-- `calculate_client_s2c_stats`, compiled to `wasm32`, whose `usize` has 32 bits. -/
def calculateClientS2cStats (st : ProbeStreamState F) (nowMs : Nat) : Option (DirectionStats F) :=
  directionStats A 32 st nowMs

/-- The server's state after the probes of session `connId` in a timeline, each handled at its
`receivedAtMs`. -/
def serverProbeRun (connId : List Char) (st : ProbeStreamState F)
    (timeline : List ReceivedMeasurementProbe) : Option (ProbeStreamState F) :=
  timeline.foldlM (fun st p =>
    handleMeasurementProbePacket A connId st ⟨p.seq, p.sentAtMs, connId⟩ p.receivedAtMs) st

/-- The client's state after the same timeline. -/
def clientProbeRun (connId : List Char) (st : ProbeStreamState F)
    (timeline : List ReceivedMeasurementProbe) : Option (ProbeStreamState F) :=
  timeline.foldlM (fun st p => probeChannelOnmessage A st ⟨p.seq, p.sentAtMs, connId⟩ p.receivedAtMs) st

end Handlers

/-! ### One probe -/

section Steps

variable {F : Type} (A : Arith F)

/-- What recording a probe does: admit its delay, prune, and count the feedback; nothing else. -/
theorem recordMeasurementProbe_eq_some_iff {st st' : ProbeStreamState F} {seq sentAtMs nowMs : Nat}
    {delay : F} :
    st.recordMeasurementProbe A seq sentAtMs nowMs delay = some st' ↔
      ∃ admitted counts, st.admitDelay A delay = some admitted ∧
        feedbackCounts (pruneReceived (st.receivedMeasurementProbes ++ [⟨seq, sentAtMs, nowMs⟩]) nowMs)
          (nowMs - probeFeedbackWindowMs) = some counts ∧
        st' = { st with
          receivedMeasurementProbes :=
            pruneReceived (st.receivedMeasurementProbes ++ [⟨seq, sentAtMs, nowMs⟩]) nowMs
          baselineDelaySum := admitted.1
          baselineDelayCount := admitted.2
          lastFeedback := ⟨max st.lastFeedback.highestSeq seq, nowMs, counts.1, counts.2.1⟩ } := by
  simp only [ProbeStreamState.recordMeasurementProbe, Option.bind_eq_bind, Option.bind_eq_some_iff,
    Option.pure_def, Option.some.injEq]
  constructor
  · rintro ⟨admitted, hadmit, counts, hcounts, rfl⟩
    exact ⟨admitted, counts, hadmit, hcounts, rfl⟩
  · rintro ⟨admitted, counts, hadmit, hcounts, rfl⟩
    exact ⟨admitted, hadmit, counts, hcounts, rfl⟩

theorem probeStreamsActive_recordMeasurementProbe {st st' : ProbeStreamState F}
    {seq sentAtMs nowMs : Nat} {delay : F}
    (h : st.recordMeasurementProbe A seq sentAtMs nowMs delay = some st') :
    st'.probeStreamsActive = st.probeStreamsActive := by
  obtain ⟨admitted, counts, -, -, rfl⟩ := (recordMeasurementProbe_eq_some_iff A).mp h
  rfl

theorem probeStreamsActive_probeChannelOnmessage {st st' : ProbeStreamState F}
    {probe : MeasurementProbePacket} {nowMs : Nat} (h : probeChannelOnmessage A st probe nowMs = some st') :
    st'.probeStreamsActive = st.probeStreamsActive := by
  unfold probeChannelOnmessage at h
  split_ifs at h
  · obtain ⟨delay, -, h⟩ := Option.bind_eq_some_iff.mp h
    exact probeStreamsActive_recordMeasurementProbe A h
  · cases h
    rfl

/-- While the streams are active, the server's handler on a probe of its own session is the
client's. -/
theorem handleMeasurementProbePacket_of_active {connId : List Char} {st : ProbeStreamState F}
    {probe : MeasurementProbePacket} (hconn : probe.connId = connId)
    (hactive : st.probeStreamsActive = true) (nowMs : Nat) :
    handleMeasurementProbePacket A connId st probe nowMs = probeChannelOnmessage A st probe nowMs := by
  unfold handleMeasurementProbePacket probeChannelOnmessage
  rw [if_neg (not_not.mpr hconn), if_pos hactive]
  simp only [hactive, if_true]

/-- From an active state both ends reach the same state over every timeline, or both panic. -/
theorem serverProbeRun_eq_clientProbeRun (connId : List Char) :
    ∀ (timeline : List ReceivedMeasurementProbe) {st : ProbeStreamState F},
      st.probeStreamsActive = true →
        serverProbeRun A connId st timeline = clientProbeRun A connId st timeline
  | [], _, _ => rfl
  | p :: rest, st, hactive => by
    simp only [serverProbeRun, clientProbeRun, List.foldlM_cons]
    rw [@handleMeasurementProbePacket_of_active F A connId st ⟨p.seq, p.sentAtMs, connId⟩ rfl hactive]
    -- the step keeps the streams active, so the rest of the runs agree too
    cases hstep : probeChannelOnmessage A st ⟨p.seq, p.sentAtMs, connId⟩ p.receivedAtMs with
    | none => rfl
    | some st' =>
      have hactive' : st'.probeStreamsActive = true := by
        rw [probeStreamsActive_probeChannelOnmessage A hstep, hactive]
      exact serverProbeRun_eq_clientProbeRun connId rest hactive'

end Steps

/-! ### The stats -/

section Stats

variable {F : Type} (A : Arith F)

/-- The order statistics of `v` at the indices `i` and `j`, where both are in range. -/
def Percentiles.ofSorted (v : List F) (i j : Nat) : Percentiles F :=
  ⟨v.getD i (A.ofNat 0), v.getD j (A.ofNat 0), v.head?.getD (A.ofNat 0), v.getLast?.getD (A.ofNat 0)⟩

/-- `jitter_ms` of the sorted jitters, where nothing overflows. -/
def jitterOfSorted (jitters : List F) : Percentiles F :=
  if jitters = [] then Percentiles.zero A
  else Percentiles.ofSorted A jitters (jitters.length / 2) (jitters.length * 99 / 100)

/-- The jitter loop after a previous delay `prev`: the difference of each delay from the one
before it. -/
theorem foldl_jitterLoop : ∀ (delays js : List F) (prev : F),
    (delays.foldl (fun acc delay =>
      (match acc.2 with
        | some prev => acc.1 ++ [A.abs (A.sub delay prev)]
        | none => acc.1, some delay)) (js, some prev)).1 =
      js ++ List.zipWith (fun prev delay => A.abs (A.sub delay prev)) (prev :: delays) delays
  | [], js, _ => by simp
  | delay :: delays, js, prev => by
    rw [List.foldl_cons, foldl_jitterLoop delays]
    simp

theorem jitterLoop_eq_zipWith (delays : List F) :
    jitterLoop A delays = List.zipWith (fun prev delay => A.abs (A.sub delay prev)) delays delays.tail := by
  cases delays with
  | nil => rfl
  | cons delay delays =>
    unfold jitterLoop
    rw [List.foldl_cons]
    exact (foldl_jitterLoop A delays [] delay).trans (List.nil_append _)

theorem length_jitterLoop (delays : List F) : (jitterLoop A delays).length = delays.length - 1 := by
  rw [jitterLoop_eq_zipWith]
  simp

theorem percentilesAt_of_lt {v : List F} {i j : Nat} (hi : i < v.length) (hj : j < v.length) :
    percentilesAt A v i j = some (Percentiles.ofSorted A v i j) := by
  simp [percentilesAt, Percentiles.ofSorted, List.getElem?_eq_getElem hi, List.getElem?_eq_getElem hj,
    List.getD_eq_getElem?_getD]

theorem jitterPercentiles_eq {w : Nat} {jitters : List F} (h : max jitters.length 1 * 99 < 2 ^ w) :
    jitterPercentiles A w jitters = some (jitterOfSorted A jitters) := by
  unfold jitterPercentiles jitterOfSorted
  by_cases hnil : jitters = []
  · simp [hnil]
  · have hpos : 0 < jitters.length := List.length_pos_iff.mpr hnil
    have hmax : max jitters.length 1 = jitters.length := max_eq_left hpos
    rw [hmax] at h
    simp only [List.isEmpty_iff, hnil, if_false, hmax, Checked.mul_of_lt h, Option.bind_some]
    exact percentilesAt_of_lt A (by omega) (by omega)

theorem mapM_signedDelay {probes : List ReceivedMeasurementProbe}
    (hbound : ∀ p ∈ probes, p.sentAtMs < 2 ^ 63 ∧ p.receivedAtMs < 2 ^ 63) :
    probes.mapM (fun p => (signedDelay p.receivedAtMs p.sentAtMs).map A.ofInt) =
      some (probes.map fun p => A.ofInt p.delay) :=
  Checked.mapM_eq_some_of_forall fun p hp => by
    rw [signedDelay_of_lt (hbound p hp).2 (hbound p hp).1]
    rfl

theorem length_sort_deviations {delays : List F} {probes : List ReceivedMeasurementProbe}
    (hdelays : probes.mapM (fun p => (signedDelay p.receivedAtMs p.sentAtMs).map A.ofInt) = some delays)
    (baseline : F) :
    (A.sort (delays.map fun delay => A.sub delay baseline)).length = probes.length := by
  rw [A.length_sort, List.length_map]
  exact (Checked.forall₂_of_mapM_eq_some hdelays).length_eq.symm

/-- The two widths of `usize` give the same stats on a window of fewer than `2 ^ w / 99` probes
for both. -/
theorem directionStats_usize_eq {w w' : Nat} {st : ProbeStreamState F} {nowMs : Nat}
    (h : (st.recentProbes nowMs).length * 99 < 2 ^ w)
    (h' : (st.recentProbes nowMs).length * 99 < 2 ^ w') :
    directionStats A w st nowMs = directionStats A w' st nowMs := by
  unfold directionStats
  dsimp only
  by_cases hempty : (st.recentProbes nowMs).isEmpty
  · simp only [hempty, if_true]
  · rw [if_neg hempty, if_neg hempty]
    cases hdelays : (st.recentProbes nowMs).mapM fun p =>
        (signedDelay p.receivedAtMs p.sentAtMs).map A.ofInt with
    | none => rfl
    | some delays =>
      have hlen := length_sort_deviations A hdelays (st.baseline A (A.ofNat 0))
      have hjit : max (A.sort (jitterLoop A delays)).length 1 ≤ (st.recentProbes nowMs).length := by
        rw [A.length_sort, length_jitterLoop, ← (Checked.forall₂_of_mapM_eq_some hdelays).length_eq]
        have : 0 < (st.recentProbes nowMs).length := by
          simpa [List.isEmpty_iff, List.length_pos_iff] using hempty
        omega
      simp only [Option.bind_eq_bind, Option.bind_some, hlen, Checked.mul_of_lt h, Checked.mul_of_lt h',
        jitterPercentiles_eq A (lt_of_le_of_lt (Nat.mul_le_mul_right 99 hjit) h),
        jitterPercentiles_eq A (lt_of_le_of_lt (Nat.mul_le_mul_right 99 hjit) h')]

/-- The stats of a nonempty window where nothing overflows: the order statistics of the sorted
deviations from the baseline and of the sorted jitters, the loss from the span of the sequence
numbers, and the probes below the running maximum. -/
theorem directionStats_eq {w : Nat} {st : ProbeStreamState F} {nowMs : Nat}
    (hne : st.recentProbes nowMs ≠ [])
    (hbound : ∀ p ∈ st.recentProbes nowMs,
      p.sentAtMs < 2 ^ 63 ∧ p.receivedAtMs < 2 ^ 63 ∧ p.seq < 2 ^ 64 - 1)
    (hlen : (st.recentProbes nowMs).length * 99 < 2 ^ w)
    (hcount : (st.recentProbes nowMs).length ≤ 2 ^ 31) :
    directionStats A w st nowMs = some
      { delayDeviationMs := Percentiles.ofSorted A
          (A.sort ((st.recentProbes nowMs).map fun p =>
            A.sub (A.ofInt p.delay) (st.baseline A (A.ofNat 0))))
          ((st.recentProbes nowMs).length / 2)
          (min ((st.recentProbes nowMs).length * 99 / 100) ((st.recentProbes nowMs).length - 1))
        rttMs := Percentiles.zero A
        jitterMs := jitterOfSorted A
          (A.sort (jitterLoop A ((st.recentProbes nowMs).map fun p => A.ofInt p.delay)))
        lossRate := streamLossRate A
          (((st.recentProbes nowMs).map ReceivedMeasurementProbe.seq).max?.getD 0 -
            ((st.recentProbes nowMs).map ReceivedMeasurementProbe.seq).min?.getD 0 + 1)
          (st.recentProbes nowMs).length
        reorderRate := reorderRate A
          (reorderCount max ((st.recentProbes nowMs).map ReceivedMeasurementProbe.seq))
          (st.recentProbes nowMs).length
        probeCount := (st.recentProbes nowMs).length % 2 ^ 32
        baselineDelayMs := st.baseline A (A.ofNat 0) } := by
  have hpos : 0 < (st.recentProbes nowMs).length := List.length_pos_iff.mpr hne
  have hdelays := mapM_signedDelay A fun p hp => ⟨(hbound p hp).1, (hbound p hp).2.1⟩
  have hlen' := length_sort_deviations A hdelays (st.baseline A (A.ofNat 0))
  have hjit : max (A.sort (jitterLoop A ((st.recentProbes nowMs).map fun p => A.ofInt p.delay))).length 1 * 99 <
      2 ^ w := by
    rw [A.length_sort, length_jitterLoop, List.length_map]
    have : max ((st.recentProbes nowMs).length - 1) 1 ≤ (st.recentProbes nowMs).length := by omega
    exact lt_of_le_of_lt (Nat.mul_le_mul_right 99 this) hlen
  have hseqs : (st.recentProbes nowMs).map ReceivedMeasurementProbe.seq ≠ [] := by simpa using hne
  have hmax : ((st.recentProbes nowMs).map ReceivedMeasurementProbe.seq).max?.getD 0 < 2 ^ 64 - 1 := by
    obtain ⟨m, hm⟩ := Option.isSome_iff_exists.mp (List.isSome_max?_iff.mpr hseqs)
    obtain ⟨p, hp, rfl⟩ := List.mem_map.mp (List.max?_mem hm)
    rw [hm, Option.getD_some]
    exact (hbound p hp).2.2
  have hreorders := reorderCount_lt_length max hseqs
  rw [List.length_map] at hreorders
  unfold directionStats
  dsimp only
  rw [if_neg (by simpa [List.isEmpty_iff] using hne), hdelays]
  have hdev := percentilesAt_of_lt A (i := (st.recentProbes nowMs).length / 2)
    (j := min ((st.recentProbes nowMs).length * 99 / 100) ((st.recentProbes nowMs).length - 1))
    (by rw [hlen']; omega) (by rw [hlen']; omega)
  have hexpected := Checked.add_of_lt (w := 64) (show
    ((st.recentProbes nowMs).map ReceivedMeasurementProbe.seq).max?.getD 0 -
      ((st.recentProbes nowMs).map ReceivedMeasurementProbe.seq).min?.getD 0 + 1 < 2 ^ 64 by omega)
  have htally := Checked.tally_of_lt (w := 31) (show
    reorderCount max ((st.recentProbes nowMs).map ReceivedMeasurementProbe.seq) < 2 ^ 31 by omega)
  simp only [Option.bind_eq_bind, Option.bind_some, hlen', Checked.mul_of_lt hlen, hdev,
    jitterPercentiles_eq A hjit, hexpected, htally, if_pos hpos, Option.pure_def]
  simp only [List.map_map, Function.comp_def]

/-- `len * 99` overflows `usize` on a window of at least `2 ^ w / 99` probes. -/
theorem directionStats_eq_none_of_usize {w : Nat} {st : ProbeStreamState F} {nowMs : Nat}
    (hne : st.recentProbes nowMs ≠ []) (hlen : 2 ^ w ≤ (st.recentProbes nowMs).length * 99) :
    directionStats A w st nowMs = none := by
  unfold directionStats
  dsimp only
  rw [if_neg (by simpa [List.isEmpty_iff] using hne)]
  cases hdelays : (st.recentProbes nowMs).mapM fun p =>
      (signedDelay p.receivedAtMs p.sentAtMs).map A.ofInt with
  | none => rfl
  | some delays =>
    simp only [Option.bind_eq_bind, Option.bind_some, length_sort_deviations A hdelays,
      Checked.mul_eq_none_iff.mpr hlen, Option.bind_none]

/-- `max_seq.saturating_sub(min_seq) + 1` overflows on a window holding both `0` and `u64::MAX`. -/
theorem directionStats_eq_none_of_span {w : Nat} {st : ProbeStreamState F} {nowMs : Nat}
    (hne : st.recentProbes nowMs ≠ [])
    (hspan : 2 ^ 64 ≤ ((st.recentProbes nowMs).map ReceivedMeasurementProbe.seq).max?.getD 0 -
      ((st.recentProbes nowMs).map ReceivedMeasurementProbe.seq).min?.getD 0 + 1) :
    directionStats A w st nowMs = none := by
  unfold directionStats
  dsimp only
  rw [if_neg (by simpa [List.isEmpty_iff] using hne)]
  simp only [Option.bind_eq_bind, Option.bind_eq_none_iff]
  intro _ _ _ _ _ _ _ _
  simp [Checked.add_eq_none_iff.mpr hspan]

end Stats

/-! ### Arrival-ordered timelines -/

/-- The last arrival time of a timeline, `0` before the first probe. -/
def lastArrival (timeline : List ReceivedMeasurementProbe) : Nat :=
  (timeline.getLast?.map ReceivedMeasurementProbe.receivedAtMs).getD 0

theorem lastArrival_append_singleton (timeline : List ReceivedMeasurementProbe)
    (p : ReceivedMeasurementProbe) : lastArrival (timeline ++ [p]) = p.receivedAtMs := by
  simp [lastArrival]

theorem lastArrival_le {timeline : List ReceivedMeasurementProbe} {t : Nat}
    (hlate : ∀ q ∈ timeline, q.receivedAtMs ≤ t) : lastArrival timeline ≤ t := by
  unfold lastArrival
  cases hlast : timeline.getLast? with
  | none => exact Nat.zero_le t
  | some q => exact hlate q (List.mem_of_getLast? hlast)

/-- A feedback step that does not overflow counts the probe, and a reordering only with it. -/
theorem feedbackStep_eq {acc : Nat × Nat × Nat} (hcount : acc.1 + 1 < 2 ^ 32)
    (hreorders : acc.2.1 ≤ acc.1) (seq : Nat) :
    feedbackStep acc seq =
      some (acc.1 + 1, if seq < acc.2.2 then acc.2.1 + 1 else acc.2.1, max acc.2.2 seq) := by
  unfold feedbackStep
  rw [Checked.add_of_lt hcount, Option.bind_some]
  split_ifs
  · rw [Checked.add_of_lt (by omega)]
    rfl
  · rfl

theorem foldlM_feedbackStep_isSome : ∀ (seqs : List Nat) (acc : Nat × Nat × Nat),
    acc.2.1 ≤ acc.1 → acc.1 + seqs.length < 2 ^ 32 → (seqs.foldlM feedbackStep acc).isSome
  | [], _, _, _ => rfl
  | seq :: seqs, acc, hreorders, hlen => by
    rw [List.length_cons] at hlen
    rw [List.foldlM_cons, feedbackStep_eq (by omega) hreorders, Option.bind_eq_bind, Option.bind_some]
    apply foldlM_feedbackStep_isSome seqs
    · split_ifs <;> dsimp only <;> omega
    · dsimp only
      omega

theorem feedbackCounts_isSome {probes : List ReceivedMeasurementProbe} {cutoff : Nat}
    (h : (probes.filter fun p => p.receivedAtMs ≥ cutoff).length < 2 ^ 32) :
    (feedbackCounts probes cutoff).isSome := by
  apply foldlM_feedbackStep_isSome _ _ (Nat.zero_le 0)
  simp only [List.length_map]
  omega

section Timelines

variable {F : Type} (A : Arith F)

/-- Admitting a delay adds at most one sample, and does not overflow below `2 ^ 64`. -/
theorem admitDelay_isSome {st : ProbeStreamState F} (h : st.baselineDelayCount + 1 < 2 ^ 64)
    (delay : F) :
    ∃ admitted, st.admitDelay A delay = some admitted ∧ admitted.2 ≤ st.baselineDelayCount + 1 := by
  unfold ProbeStreamState.admitDelay
  dsimp only
  split_ifs
  · exact ⟨_, by rw [Checked.add_of_lt h]; rfl, le_rfl⟩
  · exact ⟨_, rfl, Nat.le_succ _⟩

/-- What an end holds after an arrival-ordered timeline since the start of the measurement: the
streams active, at most one baseline sample per probe, and exactly the probes of the two seconds
before the last arrival. -/
structure ProbeStreamState.Keeps (st : ProbeStreamState F) (timeline : List ReceivedMeasurementProbe) :
    Prop where
  active : st.probeStreamsActive = true
  count_le : st.baselineDelayCount ≤ timeline.length
  received_eq : st.receivedMeasurementProbes =
    timeline.filter fun p => p.receivedAtMs ≥ lastArrival timeline - probeStatsWindowMs

/-- Each arrival of the timeline finds fewer than `2 ^ 32` probes received in the second up to it,
itself included: the probes the `u32` feedback counters then count. -/
def FeedbackWindowsFit (timeline : List ReceivedMeasurementProbe) : Prop :=
  ∀ pre p, (pre ++ [p]).IsPrefix timeline →
    ((pre ++ [p]).filter fun q => q.receivedAtMs ≥ p.receivedAtMs - probeFeedbackWindowMs).length <
      2 ^ 32

theorem FeedbackWindowsFit.of_append {timeline : List ReceivedMeasurementProbe}
    {p : ReceivedMeasurementProbe} (h : FeedbackWindowsFit (timeline ++ [p])) :
    FeedbackWindowsFit timeline :=
  fun pre q hpre => h pre q (hpre.trans (List.prefix_append _ _))

theorem FeedbackWindowsFit.of_length_lt {timeline : List ReceivedMeasurementProbe}
    (h : timeline.length < 2 ^ 32) : FeedbackWindowsFit timeline := by
  intro pre p hpre
  have hfilter := List.length_filter_le
    (fun q : ReceivedMeasurementProbe => q.receivedAtMs ≥ p.receivedAtMs - probeFeedbackWindowMs)
    (pre ++ [p])
  have hprefix := hpre.length_le
  omega

theorem keeps_started : (ProbeStreamState.started A).Keeps [] :=
  ⟨rfl, le_rfl, rfl⟩

/-- Recording a probe that arrives after the timeline keeps the probes of the last two seconds. -/
theorem ProbeStreamState.Keeps.record {st : ProbeStreamState F}
    {timeline : List ReceivedMeasurementProbe} (hk : st.Keeps timeline)
    (hsorted : timeline.Pairwise fun p q => p.receivedAtMs ≤ q.receivedAtMs)
    {p : ReceivedMeasurementProbe} (hlate : ∀ q ∈ timeline, q.receivedAtMs ≤ p.receivedAtMs)
    (hcount : timeline.length + 1 < 2 ^ 64)
    (hwindow : ((timeline ++ [p]).filter fun q =>
      q.receivedAtMs ≥ p.receivedAtMs - probeFeedbackWindowMs).length < 2 ^ 32) (delay : F) :
    ∃ st', st.recordMeasurementProbe A p.seq p.sentAtMs p.receivedAtMs delay = some st' ∧
      st'.Keeps (timeline ++ [p]) := by
  obtain ⟨admitted, hadmit, hadmitted⟩ :=
    admitDelay_isSome A (show st.baselineDelayCount + 1 < 2 ^ 64 by have := hk.count_le; omega) delay
  -- the front of the queue is older than the new probe, so pruning keeps a window
  have hsorted' : (st.receivedMeasurementProbes ++ [p]).Pairwise
      fun p q => p.receivedAtMs ≤ q.receivedAtMs := by
    rw [hk.received_eq, List.pairwise_append]
    refine ⟨hsorted.filter _, List.pairwise_singleton _ _, fun a ha b hb => ?_⟩
    rw [List.mem_singleton] at hb
    rw [hb]
    exact hlate a (List.mem_filter.mp ha).1
  have hkept : pruneReceived (st.receivedMeasurementProbes ++ [p]) p.receivedAtMs =
      (timeline ++ [p]).filter fun q => q.receivedAtMs ≥ p.receivedAtMs - probeStatsWindowMs := by
    unfold pruneReceived
    rw [IndexedQueue.dropWhile_eq_filter_of_pairwise ReceivedMeasurementProbe.receivedAtMs hsorted',
      hk.received_eq, List.filter_append, List.filter_append,
      IndexedQueue.filter_ge_filter_ge _ (Nat.sub_le_sub_right (lastArrival_le hlate) _)]
  have hkeptWindow : ((pruneReceived (st.receivedMeasurementProbes ++ [p]) p.receivedAtMs).filter
      fun q => q.receivedAtMs ≥ p.receivedAtMs - probeFeedbackWindowMs).length < 2 ^ 32 := by
    rw [hkept, IndexedQueue.filter_ge_filter_ge _ (Nat.sub_le_sub_left (by decide) _)]
    exact hwindow
  obtain ⟨counts, hcounts⟩ := Option.isSome_iff_exists.mp (feedbackCounts_isSome hkeptWindow)
  refine ⟨_, (recordMeasurementProbe_eq_some_iff A).mpr ⟨admitted, counts, hadmit, hcounts, rfl⟩,
    hk.active, ?_, ?_⟩
  · simp only [List.length_append, List.length_singleton]
    have := hk.count_le
    omega
  · rw [lastArrival_append_singleton]
    exact hkept

theorem serverProbeRun_append_singleton (connId : List Char) (st : ProbeStreamState F)
    (timeline : List ReceivedMeasurementProbe) (p : ReceivedMeasurementProbe) :
    serverProbeRun A connId st (timeline ++ [p]) = (serverProbeRun A connId st timeline).bind fun st =>
      handleMeasurementProbePacket A connId st ⟨p.seq, p.sentAtMs, connId⟩ p.receivedAtMs := by
  simp [serverProbeRun, List.foldlM_append]

/-- From the start of a measurement the server handles every arrival-ordered timeline whose
times fit `i64`, of fewer than `2 ^ 64` probes (the `u64` baseline count) and fewer than `2 ^ 32`
in every second (the `u32` feedback counts), and keeps the probes of the last two seconds. -/
theorem serverProbeRun_keeps (connId : List Char) {timeline : List ReceivedMeasurementProbe}
    (hsorted : timeline.Pairwise fun p q => p.receivedAtMs ≤ q.receivedAtMs)
    (hbound : ∀ p ∈ timeline, p.sentAtMs < 2 ^ 63 ∧ p.receivedAtMs < 2 ^ 63)
    (hlen : timeline.length < 2 ^ 64) (hwindows : FeedbackWindowsFit timeline) :
    ∃ st, serverProbeRun A connId (ProbeStreamState.started A) timeline = some st ∧ st.Keeps timeline := by
  induction timeline using List.reverseRecOn with
  | nil => exact ⟨_, rfl, keeps_started A⟩
  | append_singleton timeline p ih =>
    obtain ⟨htimeline, -, hcross⟩ := List.pairwise_append.mp hsorted
    have hlate : ∀ q ∈ timeline, q.receivedAtMs ≤ p.receivedAtMs := fun q hq =>
      hcross q hq p (List.mem_singleton_self p)
    rw [List.length_append, List.length_singleton] at hlen
    obtain ⟨st, hrun, hk⟩ := ih htimeline (fun q hq => hbound q (List.mem_append_left _ hq)) (by omega)
      hwindows.of_append
    obtain ⟨hsent, hreceived⟩ := hbound p (List.mem_append_right _ (List.mem_singleton_self p))
    obtain ⟨st', hrecord, hk'⟩ := hk.record A htimeline hlate hlen
      (hwindows timeline p (List.prefix_refl _)) (A.ofInt p.delay)
    refine ⟨st', ?_, hk'⟩
    rw [serverProbeRun_append_singleton, hrun, Option.bind_some]
    unfold handleMeasurementProbePacket
    rw [if_neg (not_not.mpr rfl), signedDelay_of_lt hreceived hsent, Option.bind_some, if_pos hk.active]
    exact hrecord

/-- At a time no earlier than a second before the last arrival, the stats read exactly the probes
of the timeline received in the last second. -/
theorem ProbeStreamState.Keeps.recentProbes_eq {st : ProbeStreamState F}
    {timeline : List ReceivedMeasurementProbe} (hk : st.Keeps timeline) {nowMs : Nat}
    (hnow : lastArrival timeline ≤ nowMs + probeFeedbackWindowMs) :
    st.recentProbes nowMs =
      timeline.filter fun p => p.receivedAtMs ≥ nowMs - probeFeedbackWindowMs := by
  unfold ProbeStreamState.recentProbes
  rw [hk.received_eq, IndexedQueue.filter_ge_filter_ge _ (by
    unfold probeStatsWindowMs probeFeedbackWindowMs at *
    omega)]

end Timelines

/-! ### Overflow on the peer's fields

Every time and sequence number in a probe is the peer's `u64`. A send time at or above `2 ^ 63`
casts to a negative `i64`, and the delay `now as i64 - sent as i64` then overflows; sequence
numbers `0` and `u64::MAX` in one window make the span overflow. -/

section Overflow

variable {F : Type} (A : Arith F)

/-- The server computes the delay before it reads `probe_streams_active`, so such a probe panics
it in every state. -/
theorem handleMeasurementProbePacket_eq_none_of_sentAt {connId : List Char}
    {st : ProbeStreamState F} {probe : MeasurementProbePacket} {nowMs : Nat}
    (hconn : probe.connId = connId) (hnow : nowMs < 2 ^ 63) (hlow : 2 ^ 63 ≤ probe.sentAtMs)
    (hhigh : probe.sentAtMs ≤ nowMs + 2 ^ 63) :
    handleMeasurementProbePacket A connId st probe nowMs = none := by
  unfold handleMeasurementProbePacket
  rw [if_neg (not_not.mpr hconn), (signedDelay_eq_none_iff hnow (by omega)).mpr ⟨hlow, hhigh⟩]
  rfl

/-- A client-to-server probe stamped `2 ^ 63` panics `calculate_metrics` in every history. -/
theorem handleC2sProbePacket_eq_none_of_timestamp (h : MetricsHistory) (seq : Nat) {nowMs : Nat}
    (hlow : 60000 ≤ nowMs) (hnow : nowMs < 2 ^ 63) :
    handleC2sProbePacket A h seq (2 ^ 63) nowMs = none := by
  apply handleC2sProbePacket_eq_none A hlow
  apply serverWindowMetrics_eq_none_of_delay A (p := ⟨seq, 2 ^ 63, nowMs⟩)
  · -- the new probe survives the prune and is in the last second
    have hkept := IndexedQueue.mem_dropWhile_append_singleton ReceivedProbe.receivedAtMs
      h.receivedProbes (b := (⟨seq, 2 ^ 63, nowMs⟩ : ReceivedProbe))
      (show nowMs - 60000 ≤ nowMs by omega)
    exact List.mem_map.mpr ⟨_, List.mem_filter.mpr ⟨hkept, by simp⟩, rfl⟩
  · show signedDelay nowMs (2 ^ 63) = none
    exact (signedDelay_eq_none_iff hnow (by norm_num)).mpr ⟨le_rfl, by omega⟩

/-- After a probe `0`, a probe `u64::MAX` in the same second panics the loss of
`calculate_metrics`. -/
theorem handleC2sProbePacket_eq_none_of_span {h : MetricsHistory} {t : Nat} (hlow : 60000 ≤ t)
    (hq : h.receivedProbes = [⟨0, t, t⟩]) :
    handleC2sProbePacket A h (2 ^ 64 - 1) t t = none := by
  apply handleC2sProbePacket_eq_none A hlow
  have hkept : (([⟨0, t, t⟩, ⟨2 ^ 64 - 1, t, t⟩] : List ReceivedProbe).dropWhile fun p =>
      p.receivedAtMs < t - 60000).filter (fun p => p.receivedAtMs ≥ t - 1000) =
        [⟨0, t, t⟩, ⟨2 ^ 64 - 1, t, t⟩] := by
    have hkeep : ¬t < t - 60000 := by omega
    simp [hkeep]
  rw [hq, List.singleton_append, hkept]
  apply serverWindowMetrics_eq_none_of_loss
  show windowLossRate A _ [0, 2 ^ 64 - 1] = none
  unfold windowLossRate
  rw [if_pos (by decide)]
  exact spanLossRate_eq_none A (by decide : [0, 2 ^ 64 - 1].min? = some 0)
    (by decide : [0, 2 ^ 64 - 1].max? = some (2 ^ 64 - 1)) (by decide)

/-- Probes `0` and `u64::MAX` of one measurement, both sent and received at `1700000000000`. -/
def spanTimeline : List ReceivedMeasurementProbe :=
  [⟨0, 1700000000000, 1700000000000⟩, ⟨2 ^ 64 - 1, 1700000000000, 1700000000000⟩]

theorem calculateProbeStreamStats_spanTimeline (connId : List Char) :
    ∃ st, serverProbeRun A connId (ProbeStreamState.started A) spanTimeline = some st ∧
      calculateProbeStreamStats A st 1700000000000 = none := by
  obtain ⟨st, hrun, hk⟩ := serverProbeRun_keeps A connId
    (by decide : spanTimeline.Pairwise fun p q => p.receivedAtMs ≤ q.receivedAtMs)
    (by decide) (by decide) (.of_length_lt (by decide))
  refine ⟨st, hrun, ?_⟩
  have hrecent := hk.recentProbes_eq
    (show lastArrival spanTimeline ≤ 1700000000000 + probeFeedbackWindowMs by decide)
  unfold calculateProbeStreamStats
  apply directionStats_eq_none_of_span A
  · rw [hrecent]
    decide
  · rw [hrecent]
    decide

end Overflow

theorem probe_fields_overflow :
    (∀ a b : Nat, a < 2 ^ 63 → b < 2 ^ 64 →
      (signedDelay a b = none ↔ 2 ^ 63 ≤ b ∧ b ≤ a + 2 ^ 63)) ∧
    (∀ {F : Type} (A : Arith F) (h : MetricsHistory) (seq nowMs : Nat), 60000 ≤ nowMs →
      nowMs < 2 ^ 63 → handleC2sProbePacket A h seq (2 ^ 63) nowMs = none) ∧
    (∀ {F : Type} (A : Arith F) (h : MetricsHistory) (t : Nat), 60000 ≤ t →
      h.receivedProbes = [⟨0, t, t⟩] → handleC2sProbePacket A h (2 ^ 64 - 1) t t = none) ∧
    (∀ {F : Type} (A : Arith F) (connId : List Char) (st : ProbeStreamState F)
      (probe : MeasurementProbePacket) (nowMs : Nat), probe.connId = connId → nowMs < 2 ^ 63 →
      2 ^ 63 ≤ probe.sentAtMs → probe.sentAtMs ≤ nowMs + 2 ^ 63 →
        handleMeasurementProbePacket A connId st probe nowMs = none) ∧
    (∀ {F : Type} (A : Arith F) (connId : List Char),
      ∃ st, serverProbeRun A connId (ProbeStreamState.started A) spanTimeline = some st ∧
        calculateProbeStreamStats A st 1700000000000 = none) :=
  ⟨fun _ _ ha hb => signedDelay_eq_none_iff ha hb,
    fun A h seq _ hlow hnow => handleC2sProbePacket_eq_none_of_timestamp A h seq hlow hnow,
    fun A _ _ hlow hq => handleC2sProbePacket_eq_none_of_span A hlow hq,
    fun A _ _ _ _ hconn hnow hlow hhigh =>
      handleMeasurementProbePacket_eq_none_of_sentAt A hconn hnow hlow hhigh,
    fun A connId => calculateProbeStreamStats_spanTimeline A connId⟩

end Netpoke
