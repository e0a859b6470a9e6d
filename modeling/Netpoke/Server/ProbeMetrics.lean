import Netpoke.Server.Measurements
import Netpoke.Library.Checked
import Netpoke.Library.FloatArith
import Mathlib.Analysis.Real.Sqrt

/-!
# The 1 s, 10 s and 60 s metrics of both ends

Every probe the server receives or has echoed ends in `calculate_metrics`
(`server/src/measurements.rs`). For each window of `[1_000, 10_000, 60_000]` ms it takes the
probes that arrived in the window and computes a block of four metrics: the mean delay, its
population standard deviation, the loss from the span of the sequence numbers, and the share of
probes below the running maximum. It does this for the client's probes (`c2s`) and for the
echoes of its own (`s2c`), and adds the throughputs of the bulk messages. The client's
`MeasurementState::calculate_metrics` (`client/src/measurements.rs`) computes its `s2c` block
from the probes it received, but differently. It averages the absolute delay, counts a probe as
reordered when it is below the previous one, and keeps the old value of a metric it does not
write.

The arithmetic is a parameter (`Arith`). Delays are `i64` differences of `u64` times
(`signedDelay`), the span `max_seq - min_seq + 1` is a `u64` sum, and the counters are `i32`. Each
block is `none` where one of them overflows (`serverWindowMetrics_eq`, `clientWindowMetrics_eq`
state what the blocks compute when none does).
-/

namespace Netpoke

/-- A probe as a window block reads it: the sequence number, the peer's send time, and the
arrival time. -/
structure ProbeRecord where
  seq : Nat
  sentAtMs : Nat
  arrivalMs : Nat
  deriving DecidableEq, Repr

/-- `ReceivedProbe`, of the server and of the client. -/
structure ReceivedProbe where
  seq : Nat
  sentAtMs : Nat
  receivedAtMs : Nat
  deriving DecidableEq, Repr

def ReceivedProbe.toRecord (p : ReceivedProbe) : ProbeRecord := ⟨p.seq, p.sentAtMs, p.receivedAtMs⟩

def EchoedProbe.toRecord (p : EchoedProbe) : ProbeRecord := ⟨p.seq, p.sentAtMs, p.echoedAtMs⟩

structure ReceivedBulk where
  bytes : Nat
  receivedAtMs : Nat
  deriving DecidableEq, Repr

structure SentBulk where
  bytes : Nat
  sentAtMs : Nat
  deriving DecidableEq, Repr

/-- The deques of the server's `MeasurementState` that `calculate_metrics` reads. -/
structure MetricsHistory where
  receivedProbes : List ReceivedProbe
  receivedBulkBytes : List ReceivedBulk
  sentBulkPackets : List SentBulk
  echoedProbes : List EchoedProbe

/-- `arrival as i64 - sent as i64` of two `u64` times; `none` where the subtraction overflows. -/
def signedDelay (arrivalMs sentAtMs : Nat) : Option Int :=
  Checked.subSigned 63 (Checked.toSigned 63 arrivalMs) (Checked.toSigned 63 sentAtMs)

/-- A `reorders` loop: a sequence number below `last` counts, and `last` moves on by `next`. -/
def reorderCount (next : Nat → Nat → Nat) (seqs : List Nat) : Nat :=
  (seqs.foldl (fun acc seq => (if seq < acc.2 then acc.1 + 1 else acc.1, next acc.2 seq)) (0, 0)).1

/-- `bytes.iter().sum::<u64>()`; `none` where it overflows. -/
def sumBytes (bytes : List Nat) : Option Nat :=
  bytes.foldlM (Checked.add 64) 0

/-- The windows of `calculate_metrics`, in milliseconds. -/
def metricsWindows : List Nat := [1000, 10000, 60000]

/-- The delay, jitter, loss and reordering of one window and one direction. -/
structure WindowMetrics (F : Type) where
  delayAvg : F
  jitter : F
  lossRate : F
  reorderRate : F

/-- What `ClientMetrics` holds at the index of one window. -/
structure WindowReport (F : Type) where
  c2sThroughput : F
  s2cThroughput : F
  c2s : WindowMetrics F
  s2c : WindowMetrics F

section Blocks

variable {F : Type} (A : Arith F)

/-- `ClientMetrics::default` at one window. -/
def WindowMetrics.zero : WindowMetrics F := ⟨A.ofNat 0, A.ofNat 0, A.ofNat 0, A.ofNat 0⟩

/-- The mean of the delays, and their population standard deviation. -/
def meanAndDeviation (delays : List F) : F × F :=
  let avgDelay := A.div (A.sum delays) (A.ofNat delays.length)
  (avgDelay, A.sqrt (A.div (A.sum (delays.map fun d => A.mul (A.sub d avgDelay) (A.sub d avgDelay)))
    (A.ofNat delays.length)))

/-- `((expected - received) / expected * 100.0).max(0.0)` for `expected = max_seq - min_seq + 1`;
`none` where the `+ 1` overflows. -/
def spanLossRate (seqs : List Nat) : Option F := do
  let minSeq ← seqs.min?
  let maxSeq ← seqs.max?
  -- `max_seq - min_seq` cannot underflow
  let expected ← Checked.add 64 (maxSeq - minSeq) 1
  pure (A.max (A.mul (A.div (A.sub (A.ofNat expected) (A.ofNat seqs.length)) (A.ofNat expected))
    (A.ofNat 100)) (A.ofNat 0))

/-- The loss of a window: written once two probes arrived, else the old value kept. -/
def windowLossRate (old : F) (seqs : List Nat) : Option F :=
  if seqs.length ≥ 2 then spanLossRate A seqs else some old

/-- `(reorders as f64 / len as f64) * 100.0`. -/
def reorderRate (reorders len : Nat) : F :=
  A.mul (A.div (A.ofNat reorders) (A.ofNat len)) (A.ofNat 100)

/-- The server's block of one window and direction over `m`: the signed delay and its deviation,
the loss once two probes arrived, and the probes below the running maximum. -/
def serverWindowMetrics (m : WindowMetrics F) (recent : List ProbeRecord) :
    Option (WindowMetrics F) :=
  if recent.isEmpty then some m
  else do
    let delays ← recent.mapM fun p => (signedDelay p.arrivalMs p.sentAtMs).map A.ofInt
    let lossRate ← windowLossRate A m.lossRate (recent.map ProbeRecord.seq)
    -- `reorders` is an `i32`
    let reorders ← Checked.tally 31 (reorderCount max (recent.map ProbeRecord.seq))
    pure ⟨(meanAndDeviation A delays).1, (meanAndDeviation A delays).2, lossRate,
      reorderRate A reorders recent.length⟩

/-- The client's block: the absolute delay, and the probes below the previous one. -/
def clientWindowMetrics (m : WindowMetrics F) (recent : List ProbeRecord) :
    Option (WindowMetrics F) :=
  if recent.isEmpty then some m
  else do
    let delays ← recent.mapM fun p => do
      let delay ← signedDelay p.arrivalMs p.sentAtMs
      -- `i64::abs` overflows at `i64::MIN`
      let absDelay ← Checked.absSigned 63 delay
      pure (A.ofInt absDelay)
    let lossRate ← windowLossRate A m.lossRate (recent.map ProbeRecord.seq)
    let reorders ← Checked.tally 31 (reorderCount (fun _ seq => seq) (recent.map ProbeRecord.seq))
    pure ⟨(meanAndDeviation A delays).1, (meanAndDeviation A delays).2, lossRate,
      reorderRate A reorders recent.length⟩

/-- The throughput of the bulk messages of a window over `old`: their bytes per second. -/
def windowThroughput (old : F) (windowMs : Nat) (bytes : List Nat) : Option F :=
  if bytes.isEmpty then some old
  else (sumBytes bytes).map fun total => A.div (A.ofNat total) (A.div (A.ofNat windowMs) (A.ofNat 1000))

/-- The report of the server's `calculate_metrics` at `nowMs` for one window, from zero. -/
def serverWindowReport (h : MetricsHistory) (nowMs windowMs : Nat) : Option (WindowReport F) := do
  let cutoff := nowMs - windowMs
  let c2s ← serverWindowMetrics A (WindowMetrics.zero A)
    ((h.receivedProbes.filter fun p => p.receivedAtMs ≥ cutoff).map ReceivedProbe.toRecord)
  let c2sThroughput ← windowThroughput A (A.ofNat 0) windowMs
    ((h.receivedBulkBytes.filter fun b => b.receivedAtMs ≥ cutoff).map ReceivedBulk.bytes)
  let s2cThroughput ← windowThroughput A (A.ofNat 0) windowMs
    ((h.sentBulkPackets.filter fun b => b.sentAtMs ≥ cutoff).map SentBulk.bytes)
  let s2c ← serverWindowMetrics A (WindowMetrics.zero A)
    ((h.echoedProbes.filter fun p => p.echoedAtMs ≥ cutoff).map EchoedProbe.toRecord)
  pure ⟨c2sThroughput, s2cThroughput, c2s, s2c⟩

/-- The server's `calculate_metrics` at `nowMs`: one report per window. -/
def calculateMetrics (h : MetricsHistory) (nowMs : Nat) : Option (List (WindowReport F)) :=
  metricsWindows.mapM (serverWindowReport A h nowMs)

/-- The client's report for one window over the one it holds: the `s2c` block and throughput,
the rest kept. -/
def clientWindowReport (receivedProbes : List ReceivedProbe) (receivedBulkBytes : List ReceivedBulk)
    (nowMs : Nat) (windowReport : Nat × WindowReport F) : Option (WindowReport F) := do
  let (windowMs, report) := windowReport
  let cutoff := nowMs - windowMs
  let s2c ← clientWindowMetrics A report.s2c
    ((receivedProbes.filter fun p => p.receivedAtMs ≥ cutoff).map ReceivedProbe.toRecord)
  let s2cThroughput ← windowThroughput A report.s2cThroughput windowMs
    ((receivedBulkBytes.filter fun b => b.receivedAtMs ≥ cutoff).map ReceivedBulk.bytes)
  pure { report with s2c, s2cThroughput }

/-- The client's `calculate_metrics` at `nowMs` over the metrics it holds. -/
def clientCalculateMetrics (metrics : List (WindowReport F)) (receivedProbes : List ReceivedProbe)
    (receivedBulkBytes : List ReceivedBulk) (nowMs : Nat) : Option (List (WindowReport F)) :=
  (metricsWindows.zip metrics).mapM (clientWindowReport A receivedProbes receivedBulkBytes nowMs)

/-- `handle_probe_packet` for a client-to-server probe `seq` stamped `timestampMs` and received
at `nowMs`: the probe is queued, the probes of the last minute kept, and the metrics computed;
`none` where it panics (`now_ms - 60_000` before a minute past the epoch, or the metrics). -/
def handleC2sProbePacket (h : MetricsHistory) (seq timestampMs nowMs : Nat) :
    Option (MetricsHistory × List (WindowReport F)) :=
  if nowMs < 60000 then none
  else
    let h' := { h with
      receivedProbes := (h.receivedProbes ++ [(⟨seq, timestampMs, nowMs⟩ : ReceivedProbe)]).dropWhile fun p =>
        p.receivedAtMs < nowMs - 60000 }
    (calculateMetrics A h' nowMs).map fun metrics => (h', metrics)

end Blocks

/-! ### The integer parts -/

theorem signedDelay_of_lt {a b : Nat} (ha : a < 2 ^ 63) (hb : b < 2 ^ 63) :
    signedDelay a b = some ((a : Int) - b) :=
  Checked.subSigned_toSigned_of_lt ha hb

/-- Against a clock below `2 ^ 63`, a `u64` send time makes the `i64` delay overflow exactly when
its cast is negative and at most `2 ^ 63` below the clock's. -/
theorem signedDelay_eq_none_iff {a b : Nat} (ha : a < 2 ^ 63) (hb : b < 2 ^ 64) :
    signedDelay a b = none ↔ 2 ^ 63 ≤ b ∧ b ≤ a + 2 ^ 63 := by
  unfold signedDelay
  rw [Checked.toSigned_of_lt ha, Checked.subSigned_eq_none_iff]
  have ha' : (a : Int) < 2 ^ 63 := by exact_mod_cast ha
  by_cases hlow : b < 2 ^ 63
  · have hb' : (b : Int) < 2 ^ 63 := by exact_mod_cast hlow
    rw [Checked.toSigned_of_lt hlow]
    omega
  · rw [Checked.toSigned_of_le (Nat.not_lt.mp hlow)]
    have hb' : (b : Int) < 2 ^ 64 := by exact_mod_cast hb
    have hb'' : (2 : Int) ^ 63 ≤ b := by exact_mod_cast Nat.not_lt.mp hlow
    push_cast
    omega

/-- The count of a `reorders` loop grows by at most one per sequence number, from any
accumulator. -/
theorem foldl_reorders_le (next : Nat → Nat → Nat) (seqs : List Nat) :
    ∀ acc : Nat × Nat, (seqs.foldl (fun acc seq =>
      (if seq < acc.2 then acc.1 + 1 else acc.1, next acc.2 seq)) acc).1 ≤ acc.1 + seqs.length := by
  induction seqs with
  | nil => intro acc; simp
  | cons seq seqs ih =>
    intro acc
    rw [List.foldl_cons, List.length_cons]
    by_cases hlt : seq < acc.2
    · have := ih (acc.1 + 1, next acc.2 seq)
      rw [if_pos hlt]
      omega
    · have := ih (acc.1, next acc.2 seq)
      rw [if_neg hlt]
      omega

theorem reorderCount_le_length (next : Nat → Nat → Nat) (seqs : List Nat) :
    reorderCount next seqs ≤ seqs.length := by
  unfold reorderCount
  simpa using foldl_reorders_le next seqs (0, 0)

/-- The first probe is never below the start value `0`, so a window of `n` probes has at most
`n - 1` reorderings. -/
theorem reorderCount_cons_le (next : Nat → Nat → Nat) (seq : Nat) (seqs : List Nat) :
    reorderCount next (seq :: seqs) ≤ seqs.length := by
  unfold reorderCount
  rw [List.foldl_cons, if_neg (Nat.not_lt_zero seq)]
  simpa using foldl_reorders_le next seqs (0, next 0 seq)

theorem reorderCount_lt_length (next : Nat → Nat → Nat) {seqs : List Nat} (hne : seqs ≠ []) :
    reorderCount next seqs < seqs.length := by
  cases seqs with
  | nil => exact absurd rfl hne
  | cons seq seqs =>
    have := reorderCount_cons_le next seq seqs
    rw [List.length_cons]
    omega

/-- The last value of the running-maximum loop is the maximum of the start and the sequence
numbers. -/
theorem foldl_reorders_max_snd (seqs : List Nat) :
    ∀ acc : Nat × Nat, (seqs.foldl (fun acc seq =>
      (if seq < acc.2 then acc.1 + 1 else acc.1, max acc.2 seq)) acc).2 = seqs.foldl max acc.2 := by
  induction seqs with
  | nil => intro acc; rfl
  | cons seq seqs ih => intro acc; exact ih _

theorem reorderCount_max_append_singleton (seqs : List Nat) (seq : Nat) :
    reorderCount max (seqs ++ [seq]) =
      reorderCount max seqs + if seq < seqs.foldl max 0 then 1 else 0 := by
  unfold reorderCount
  rw [List.foldl_append, List.foldl_cons, List.foldl_nil, foldl_reorders_max_snd]
  split_ifs <;> rfl

/-- Counted against the running maximum, the reorderings are the probes below the largest
sequence number before them. -/
theorem reorderCount_max_eq_countP (seqs : List Nat) :
    reorderCount max seqs =
      (List.range seqs.length).countP fun i => seqs.getD i 0 < (seqs.take i).foldl max 0 := by
  induction seqs using List.reverseRecOn with
  | nil => rfl
  | append_singleton seqs seq ih =>
    rw [reorderCount_max_append_singleton, ih, List.length_append, List.length_singleton,
      List.range_succ, List.countP_append, List.countP_singleton]
    congr 1
    · -- the earlier probes see the same prefix
      apply List.countP_congr
      intro i hi
      have hi : i < seqs.length := List.mem_range.mp hi
      rw [List.getD_append seqs [seq] 0 i hi, List.take_append_of_le_length hi.le]
    · simp

/-- A probe below the previous one is below the running maximum, so the client never counts more
reorderings than the server. -/
theorem reorderCount_previous_le_max (seqs : List Nat) :
    reorderCount (fun _ seq => seq) seqs ≤ reorderCount max seqs := by
  unfold reorderCount
  -- the previous sequence number stays at most the running maximum
  suffices h : ∀ prev high : Nat × Nat, prev.1 ≤ high.1 → prev.2 ≤ high.2 →
      (seqs.foldl (fun acc seq => (if seq < acc.2 then acc.1 + 1 else acc.1, seq)) prev).1 ≤
        (seqs.foldl (fun acc seq => (if seq < acc.2 then acc.1 + 1 else acc.1, max acc.2 seq)) high).1 by
    exact h (0, 0) (0, 0) le_rfl le_rfl
  induction seqs with
  | nil => intro prev high hcount _; exact hcount
  | cons seq seqs ih =>
    intro prev high hcount hlast
    rw [List.foldl_cons, List.foldl_cons]
    apply ih
    · split_ifs <;> simp only <;> omega
    · exact le_max_right _ _

section Specs

variable {F : Type} (A : Arith F)

theorem spanLossRate_eq {seqs : List Nat} {lo hi : Nat} (hmin : seqs.min? = some lo)
    (hmax : seqs.max? = some hi) (hspan : hi - lo + 1 < 2 ^ 64) :
    spanLossRate A seqs = some (A.max (A.mul (A.div (A.sub (A.ofNat (hi - lo + 1))
      (A.ofNat seqs.length)) (A.ofNat (hi - lo + 1))) (A.ofNat 100)) (A.ofNat 0)) := by
  unfold spanLossRate
  rw [hmin, hmax]
  simp only [Option.bind_eq_bind, Option.bind_some]
  rw [Checked.add_of_lt hspan]
  rfl

/-- The server's block when no integer operation overflows. -/
theorem serverWindowMetrics_eq {m : WindowMetrics F} {recent : List ProbeRecord} (hne : recent ≠ [])
    {delay : ProbeRecord → Int}
    (hdelay : ∀ p ∈ recent, signedDelay p.arrivalMs p.sentAtMs = some (delay p)) {lossRate : F}
    (hloss : windowLossRate A m.lossRate (recent.map ProbeRecord.seq) = some lossRate)
    (hcount : reorderCount max (recent.map ProbeRecord.seq) < 2 ^ 31) :
    serverWindowMetrics A m recent =
      some ⟨(meanAndDeviation A (recent.map fun p => A.ofInt (delay p))).1,
        (meanAndDeviation A (recent.map fun p => A.ofInt (delay p))).2, lossRate,
        reorderRate A (reorderCount max (recent.map ProbeRecord.seq)) recent.length⟩ := by
  have hdelays : recent.mapM (fun p => (signedDelay p.arrivalMs p.sentAtMs).map A.ofInt) =
      some (recent.map fun p => A.ofInt (delay p)) :=
    Checked.mapM_eq_some_of_forall fun p hp => by rw [hdelay p hp]; rfl
  unfold serverWindowMetrics
  rw [if_neg (by simpa using hne), hdelays]
  simp only [Option.bind_eq_bind, Option.bind_some, hloss, Checked.tally_of_lt hcount,
    Option.pure_def]

/-- The client's block when no integer operation overflows. -/
theorem clientWindowMetrics_eq {m : WindowMetrics F} {recent : List ProbeRecord} (hne : recent ≠ [])
    {delay : ProbeRecord → Int}
    (hdelay : ∀ p ∈ recent, signedDelay p.arrivalMs p.sentAtMs = some (delay p))
    (habs : ∀ p ∈ recent, (delay p).natAbs < 2 ^ 63) {lossRate : F}
    (hloss : windowLossRate A m.lossRate (recent.map ProbeRecord.seq) = some lossRate)
    (hcount : reorderCount (fun _ seq => seq) (recent.map ProbeRecord.seq) < 2 ^ 31) :
    clientWindowMetrics A m recent =
      some ⟨(meanAndDeviation A (recent.map fun p => A.ofInt (delay p).natAbs)).1,
        (meanAndDeviation A (recent.map fun p => A.ofInt (delay p).natAbs)).2, lossRate,
        reorderRate A (reorderCount (fun _ seq => seq) (recent.map ProbeRecord.seq)) recent.length⟩ := by
  have hdelays : recent.mapM (fun p => do
      let delay ← signedDelay p.arrivalMs p.sentAtMs
      let absDelay ← Checked.absSigned 63 delay
      pure (A.ofInt absDelay)) = some (recent.map fun p => A.ofInt (delay p).natAbs) :=
    Checked.mapM_eq_some_of_forall fun p hp => by
      simp only [hdelay p hp, Option.bind_eq_bind, Option.bind_some,
        Checked.absSigned_of_lt (habs p hp), Option.pure_def]
  unfold clientWindowMetrics
  rw [if_neg (by simpa using hne), hdelays]
  simp only [Option.bind_eq_bind, Option.bind_some, hloss, Checked.tally_of_lt hcount,
    Option.pure_def]

/-- The loss never panics while every sequence number is below `u64::MAX`. -/
theorem windowLossRate_isSome (old : F) {seqs : List Nat} (hseqs : ∀ s ∈ seqs, s < 2 ^ 64 - 1) :
    (windowLossRate A old seqs).isSome := by
  unfold windowLossRate
  split_ifs with hlen
  · have hne : seqs ≠ [] := by rintro rfl; simp at hlen
    obtain ⟨lo, hmin⟩ := Option.isSome_iff_exists.mp (List.isSome_min?_iff.mpr hne)
    obtain ⟨hi, hmax⟩ := Option.isSome_iff_exists.mp (List.isSome_max?_iff.mpr hne)
    have hhi := hseqs hi (List.max?_mem hmax)
    rw [spanLossRate_eq A hmin hmax (by omega)]
    rfl
  · rfl

theorem spanLossRate_eq_none {seqs : List Nat} {lo hi : Nat} (hmin : seqs.min? = some lo)
    (hmax : seqs.max? = some hi) (hspan : 2 ^ 64 ≤ hi - lo + 1) : spanLossRate A seqs = none := by
  unfold spanLossRate
  rw [hmin, hmax]
  simp only [Option.bind_eq_bind, Option.bind_some]
  rw [Checked.add_eq_none_iff.mpr hspan]
  rfl

theorem serverWindowMetrics_eq_none_of_delay {m : WindowMetrics F} {recent : List ProbeRecord}
    {p : ProbeRecord} (hp : p ∈ recent) (hdelay : signedDelay p.arrivalMs p.sentAtMs = none) :
    serverWindowMetrics A m recent = none := by
  unfold serverWindowMetrics
  rw [if_neg (by simpa using List.ne_nil_of_mem hp),
    Checked.mapM_eq_none_of_mem (by rw [hdelay]; rfl) hp]
  rfl

theorem serverWindowMetrics_eq_none_of_loss {m : WindowMetrics F} {recent : List ProbeRecord}
    (hloss : windowLossRate A m.lossRate (recent.map ProbeRecord.seq) = none) :
    serverWindowMetrics A m recent = none := by
  have hne : recent ≠ [] := by
    rintro rfl
    simp [windowLossRate] at hloss
  unfold serverWindowMetrics
  rw [if_neg (by simpa using hne)]
  simp only [Option.bind_eq_bind, Option.bind_eq_none_iff]
  intro _ _
  simp [hloss]

theorem calculateMetrics_eq_none_of_c2s {h : MetricsHistory} {nowMs windowMs : Nat}
    (hw : windowMs ∈ metricsWindows)
    (hc2s : serverWindowMetrics A (WindowMetrics.zero A)
      ((h.receivedProbes.filter fun p => p.receivedAtMs ≥ nowMs - windowMs).map ReceivedProbe.toRecord) =
        none) :
    calculateMetrics A h nowMs = none :=
  Checked.mapM_eq_none_of_mem (by unfold serverWindowReport; dsimp only; rw [hc2s]; rfl) hw

/-- A client-to-server probe panics the handler where the last second's block panics once it is
queued. -/
theorem handleC2sProbePacket_eq_none {h : MetricsHistory} {seq timestampMs nowMs : Nat}
    (hnow : 60000 ≤ nowMs)
    (hc2s : serverWindowMetrics A (WindowMetrics.zero A)
      ((((h.receivedProbes ++ [(⟨seq, timestampMs, nowMs⟩ : ReceivedProbe)]).dropWhile fun p =>
          p.receivedAtMs < nowMs - 60000).filter fun p => p.receivedAtMs ≥ nowMs - 1000).map
        ReceivedProbe.toRecord) = none) :
    handleC2sProbePacket A h seq timestampMs nowMs = none := by
  unfold handleC2sProbePacket
  rw [if_neg (by omega)]
  dsimp only
  rw [calculateMetrics_eq_none_of_c2s A (by decide : 1000 ∈ metricsWindows) hc2s]
  rfl

end Specs

section Exact

variable {F : Type} [Field F] [LinearOrder F] (sqrt : F → F)

@[simp]
theorem reorderRate_fieldArith (reorders len : Nat) :
    reorderRate (fieldArith F sqrt) reorders len = reorders / len * 100 := by
  simp [reorderRate]

@[simp]
theorem meanAndDeviation_fieldArith_fst (delays : List F) :
    (meanAndDeviation (fieldArith F sqrt) delays).1 = delays.sum / delays.length := by
  simp [meanAndDeviation, sum_fieldArith]

end Exact

/-! ### The two blocks side by side -/

/-- Without clock skew the client's block is the server's with the reorderings counted against
the previous probe, at every arithmetic. -/
theorem clientWindowMetrics_of_no_skew {F : Type} (A : Arith F) (m : WindowMetrics F)
    {recent : List ProbeRecord} (hne : recent ≠ []) (hlen : recent.length < 2 ^ 31)
    (hskew : ∀ p ∈ recent, p.sentAtMs ≤ p.arrivalMs ∧ p.arrivalMs < 2 ^ 63) :
    clientWindowMetrics A m recent = (serverWindowMetrics A m recent).map fun w =>
      { w with reorderRate :=
          reorderRate A (reorderCount (fun _ seq => seq) (recent.map ProbeRecord.seq)) recent.length } := by
  have hdelay : ∀ p ∈ recent,
      signedDelay p.arrivalMs p.sentAtMs = some ((p.arrivalMs : Int) - p.sentAtMs) := fun p hp =>
    signedDelay_of_lt (hskew p hp).2 (by have := hskew p hp; omega)
  have habs : ∀ p ∈ recent, (((p.arrivalMs : Int) - p.sentAtMs).natAbs : Int) =
      (p.arrivalMs : Int) - p.sentAtMs := fun p hp => by
    have := (hskew p hp).1
    omega
  have hsame : (recent.map fun p => A.ofInt (((p.arrivalMs : Int) - p.sentAtMs).natAbs)) =
      recent.map fun p => A.ofInt ((p.arrivalMs : Int) - p.sentAtMs) :=
    List.map_congr_left fun p hp => by rw [habs p hp]
  have hcount : ∀ next, reorderCount next (recent.map ProbeRecord.seq) < 2 ^ 31 := fun next =>
    lt_of_le_of_lt ((reorderCount_le_length next _).trans (by simp)) hlen
  cases hloss : windowLossRate A m.lossRate (recent.map ProbeRecord.seq) with
  | none =>
    unfold serverWindowMetrics clientWindowMetrics
    simp [hne, hloss]
  | some lossRate =>
    have hbound : ∀ p ∈ recent, ((p.arrivalMs : Int) - p.sentAtMs).natAbs < 2 ^ 63 := fun p hp => by
      obtain ⟨hle, hlt⟩ := hskew p hp
      omega
    rw [clientWindowMetrics_eq A hne hdelay hbound hloss (hcount _),
      serverWindowMetrics_eq A hne hdelay hloss (hcount _), hsame]
    rfl

/-- Probes `1, 5, 2, 3, 4`, each sent at `1700000000000` and arriving ten milliseconds later. -/
def reorderedRecords : List ProbeRecord :=
  [1, 5, 2, 3, 4].map fun seq => ⟨seq, 1700000000000, 1700000000010⟩

/-- Two probes sent at `1700000000100` by a clock that runs ahead, arriving at `1700000000050`. -/
def skewedRecords : List ProbeRecord :=
  [⟨0, 1700000000100, 1700000000050⟩, ⟨1, 1700000000100, 1700000000050⟩]

theorem signedDelay_reorderedRecords :
    ∀ p ∈ reorderedRecords, signedDelay p.arrivalMs p.sentAtMs = some 10 := by
  decide

theorem signedDelay_skewedRecords :
    ∀ p ∈ skewedRecords, signedDelay p.arrivalMs p.sentAtMs = some (-50) := by
  decide

theorem windowLossRate_reorderedRecords (A : Arith ℝ) (old : ℝ) :
    ∃ lossRate, windowLossRate A old (reorderedRecords.map ProbeRecord.seq) = some lossRate :=
  Option.isSome_iff_exists.mp (windowLossRate_isSome A old
    (by decide : ∀ s ∈ reorderedRecords.map ProbeRecord.seq, s < 2 ^ 64 - 1))

theorem windowLossRate_skewedRecords (A : Arith ℝ) (old : ℝ) :
    ∃ lossRate, windowLossRate A old (skewedRecords.map ProbeRecord.seq) = some lossRate :=
  Option.isSome_iff_exists.mp (windowLossRate_isSome A old
    (by decide : ∀ s ∈ skewedRecords.map ProbeRecord.seq, s < 2 ^ 64 - 1))

/-- Three of the five probes are below the running maximum `5`. -/
theorem serverWindowMetrics_reorderedRecords :
    (serverWindowMetrics (fieldArith ℝ Real.sqrt) (WindowMetrics.zero (fieldArith ℝ Real.sqrt))
      reorderedRecords).map WindowMetrics.reorderRate = some 60 := by
  obtain ⟨lossRate, hloss⟩ := windowLossRate_reorderedRecords (fieldArith ℝ Real.sqrt) 0
  have hcount : reorderCount max (reorderedRecords.map ProbeRecord.seq) = 3 := by decide
  rw [serverWindowMetrics_eq _ (by decide) signedDelay_reorderedRecords hloss (by omega), hcount]
  norm_num [reorderedRecords]

/-- Only `2` is below the probe before it. -/
theorem clientWindowMetrics_reorderedRecords :
    (clientWindowMetrics (fieldArith ℝ Real.sqrt) (WindowMetrics.zero (fieldArith ℝ Real.sqrt))
      reorderedRecords).map WindowMetrics.reorderRate = some 20 := by
  obtain ⟨lossRate, hloss⟩ := windowLossRate_reorderedRecords (fieldArith ℝ Real.sqrt) 0
  have hcount : reorderCount (fun _ seq => seq) (reorderedRecords.map ProbeRecord.seq) = 1 := by
    decide
  rw [clientWindowMetrics_eq _ (by decide) signedDelay_reorderedRecords (by decide) hloss
    (by omega), hcount]
  norm_num [reorderedRecords]

theorem serverWindowMetrics_skewedRecords :
    (serverWindowMetrics (fieldArith ℝ Real.sqrt) (WindowMetrics.zero (fieldArith ℝ Real.sqrt))
      skewedRecords).map WindowMetrics.delayAvg = some (-50) := by
  obtain ⟨lossRate, hloss⟩ := windowLossRate_skewedRecords (fieldArith ℝ Real.sqrt) 0
  rw [serverWindowMetrics_eq _ (by decide) signedDelay_skewedRecords hloss (by decide)]
  norm_num [skewedRecords]

/-- The client turns the negative delays positive. -/
theorem clientWindowMetrics_skewedRecords :
    (clientWindowMetrics (fieldArith ℝ Real.sqrt) (WindowMetrics.zero (fieldArith ℝ Real.sqrt))
      skewedRecords).map WindowMetrics.delayAvg = some 50 := by
  obtain ⟨lossRate, hloss⟩ := windowLossRate_skewedRecords (fieldArith ℝ Real.sqrt) 0
  rw [clientWindowMetrics_eq _ (by decide) signedDelay_skewedRecords (by decide) hloss (by decide)]
  norm_num [skewedRecords]

theorem legacy_metrics_diverge :
    (∀ {F : Type} (A : Arith F) (m : WindowMetrics F) (recent : List ProbeRecord), recent ≠ [] →
      recent.length < 2 ^ 31 → (∀ p ∈ recent, p.sentAtMs ≤ p.arrivalMs ∧ p.arrivalMs < 2 ^ 63) →
      clientWindowMetrics A m recent = (serverWindowMetrics A m recent).map fun w =>
        { w with reorderRate :=
            reorderRate A (reorderCount (fun _ seq => seq) (recent.map ProbeRecord.seq)) recent.length }) ∧
    (∀ seqs, reorderCount (fun _ seq => seq) seqs ≤ reorderCount max seqs) ∧
    (serverWindowMetrics (fieldArith ℝ Real.sqrt) (WindowMetrics.zero (fieldArith ℝ Real.sqrt)) reorderedRecords).map
        WindowMetrics.reorderRate = some 60 ∧
    (clientWindowMetrics (fieldArith ℝ Real.sqrt) (WindowMetrics.zero (fieldArith ℝ Real.sqrt)) reorderedRecords).map
        WindowMetrics.reorderRate = some 20 ∧
    (serverWindowMetrics (fieldArith ℝ Real.sqrt) (WindowMetrics.zero (fieldArith ℝ Real.sqrt)) skewedRecords).map
        WindowMetrics.delayAvg = some (-50) ∧
    (clientWindowMetrics (fieldArith ℝ Real.sqrt) (WindowMetrics.zero (fieldArith ℝ Real.sqrt)) skewedRecords).map
        WindowMetrics.delayAvg = some 50 :=
  ⟨fun A m _ hne hlen hskew => clientWindowMetrics_of_no_skew A m hne hlen hskew,
    reorderCount_previous_le_max, serverWindowMetrics_reorderedRecords,
    clientWindowMetrics_reorderedRecords, serverWindowMetrics_skewedRecords,
    clientWindowMetrics_skewedRecords⟩

end Netpoke
