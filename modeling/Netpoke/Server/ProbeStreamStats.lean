import Netpoke.Server.ProbeStreams

/-!
# What the probe-stream stats say

In exact arithmetic (`fieldArith` over a linearly ordered field) the stats of a window of
`n ≥ 1` probes are what the report's fields are named for (`DirectionStats.Describes`): the
delay deviations are the median, the 99th percentile, the least and the greatest of the
deviations from the baseline; the jitters the same order statistics of the differences between
consecutive delays, all zero for one probe; the loss `max 0 (100 (1 - n / (max_seq - min_seq + 1)))`
and the reordering `100 · #{i : seq_i < max_{j < i} seq_j} / n`, both in `[0, 100)`.

The stats read the baseline only through the deviations, so these hold in every state
(`describes_directionStats`); with the runs of `Server/ProbeStreams` they hold of every
arrival-ordered timeline on both ends (`probe_stream_stats_agree`).
-/

namespace Netpoke

section OrderStatistics

variable {F : Type} [LinearOrder F]

/-- `q` holds the order statistics of the sorted `v`: the entries at `n / 2` and at
`min (99 n / 100) (n - 1)`, the first and the last. -/
structure Percentiles.OfSorted (v : List F) (q : Percentiles F) : Prop where
  sorted : v.Pairwise (· ≤ ·)
  p50_eq : v[v.length / 2]? = some q.p50
  -- inside the namespace `Percentiles`, a bare `min` would be the field
  p99_eq : v[Min.min (v.length * 99 / 100) (v.length - 1)]? = some q.p99
  min_eq : v[0]? = some q.min
  max_eq : v[v.length - 1]? = some q.max

theorem le_of_getElem?_eq {v : List F} (hv : v.Pairwise (· ≤ ·)) {i j : Nat} (hij : i ≤ j)
    {a b : F} (ha : v[i]? = some a) (hb : v[j]? = some b) : a ≤ b := by
  obtain ⟨hi, rfl⟩ := List.getElem?_eq_some_iff.mp ha
  obtain ⟨hj, rfl⟩ := List.getElem?_eq_some_iff.mp hb
  exact getElem_le_getElem_of_pairwise hv hij hi hj

theorem Percentiles.OfSorted.le {v : List F} {q : Percentiles F} (h : q.OfSorted v) :
    q.min ≤ q.p50 ∧ q.p50 ≤ q.p99 ∧ q.p99 ≤ q.max := by
  have hpos : 0 < v.length := (List.getElem?_eq_some_iff.mp h.min_eq).1
  refine ⟨le_of_getElem?_eq h.sorted (Nat.zero_le _) h.min_eq h.p50_eq,
    le_of_getElem?_eq h.sorted ?_ h.p50_eq h.p99_eq,
    le_of_getElem?_eq h.sorted (min_le_right _ _) h.p99_eq h.max_eq⟩
  omega

omit [LinearOrder F] in
theorem getElem?_eq_some_getD {v : List F} {i : Nat} (hi : i < v.length) (d : F) :
    v[i]? = some (v.getD i d) := by
  rw [List.getD_eq_getElem?_getD, List.getElem?_eq_getElem hi, Option.getD_some]

/-- The order statistics `percentilesAt` reads from a sorted nonempty list. -/
theorem ofSorted_ofSorted (A : Arith F) {v : List F} (hv : v.Pairwise (· ≤ ·)) (hne : v ≠ []) :
    (Percentiles.ofSorted A v (v.length / 2) (min (v.length * 99 / 100) (v.length - 1))).OfSorted v := by
  have hpos : 0 < v.length := List.length_pos_iff.mpr hne
  refine ⟨hv, getElem?_eq_some_getD (by omega) _, getElem?_eq_some_getD (by omega) _, ?_, ?_⟩
  · show v[0]? = some (v.head?.getD (A.ofNat 0))
    rw [List.head?_eq_getElem?, List.getElem?_eq_getElem hpos, Option.getD_some]
  · show v[v.length - 1]? = some (v.getLast?.getD (A.ofNat 0))
    rw [List.getLast?_eq_getElem?, List.getElem?_eq_getElem (by omega), Option.getD_some]

end OrderStatistics

section Exact

variable {F : Type} [Field F] [LinearOrder F] [IsStrictOrderedRing F] (sqrt : F → F)

theorem streamLossRate_fieldArith {expected : Nat} (he : 0 < expected) (received : Nat) :
    streamLossRate (fieldArith F sqrt) expected received =
      max 0 (100 * (1 - (received : F) / expected)) := by
  have he' : (0 : F) < expected := by exact_mod_cast he
  unfold streamLossRate
  simp only [fieldArith_lt, fieldArith_max, fieldArith_mul, fieldArith_div, fieldArith_sub,
    fieldArith_ofNat, Nat.cast_zero, Nat.cast_ofNat]
  rw [if_pos (decide_eq_true he'), max_comm, sub_div, div_self he'.ne', mul_comm]

theorem streamLossRate_lt {expected received : Nat} (he : 0 < expected) (hr : 0 < received) :
    0 ≤ streamLossRate (fieldArith F sqrt) expected received ∧
      streamLossRate (fieldArith F sqrt) expected received < 100 := by
  rw [streamLossRate_fieldArith sqrt he]
  have hpos : (0 : F) < received / expected := div_pos (by exact_mod_cast hr) (by exact_mod_cast he)
  refine ⟨le_max_left _ _, max_lt (by norm_num : (0 : F) < 100) ?_⟩
  linarith

theorem reorderRate_lt {reorders len : Nat} (h : reorders < len) :
    0 ≤ reorderRate (fieldArith F sqrt) reorders len ∧ reorderRate (fieldArith F sqrt) reorders len < 100 := by
  rw [reorderRate_fieldArith]
  have hlen : (0 : F) < len := by exact_mod_cast (Nat.zero_le reorders).trans_lt h
  have hlt : (reorders : F) / len < 1 := (div_lt_one hlen).mpr (by exact_mod_cast h)
  refine ⟨by positivity, ?_⟩
  linarith

/-- What the stats of the window `recent` say over the baseline `baseline`, in exact arithmetic. -/
structure DirectionStats.Describes (stats : DirectionStats F) (recent : List ReceivedMeasurementProbe)
    (baseline : F) : Prop where
  deviations : ∃ v, v.Perm (recent.map fun p => (p.delay : F) - baseline) ∧
    stats.delayDeviationMs.OfSorted v
  deviations_le : stats.delayDeviationMs.min ≤ stats.delayDeviationMs.p50 ∧
    stats.delayDeviationMs.p50 ≤ stats.delayDeviationMs.p99 ∧
    stats.delayDeviationMs.p99 ≤ stats.delayDeviationMs.max
  jitter_single : recent.length = 1 → stats.jitterMs = ⟨0, 0, 0, 0⟩
  jitters : 2 ≤ recent.length → ∃ u, u.Perm (List.zipWith (fun prev delay => |delay - prev|)
      (recent.map fun p => (p.delay : F)) (recent.map fun p => (p.delay : F)).tail) ∧
    stats.jitterMs.OfSorted u
  loss_eq : stats.lossRate = max 0 (100 * (1 - (recent.length : F) /
    (((recent.map ReceivedMeasurementProbe.seq).max?.getD 0 -
      (recent.map ReceivedMeasurementProbe.seq).min?.getD 0 + 1 : Nat) : F)))
  reorder_eq : stats.reorderRate = 100 * ((List.range recent.length).countP fun i =>
    (recent.map ReceivedMeasurementProbe.seq).getD i 0 <
      ((recent.map ReceivedMeasurementProbe.seq).take i).foldl max 0 : Nat) / (recent.length : F)
  loss_lt : 0 ≤ stats.lossRate ∧ stats.lossRate < 100
  reorder_lt : 0 ≤ stats.reorderRate ∧ stats.reorderRate < 100
  baseline_eq : stats.baselineDelayMs = baseline

omit [IsStrictOrderedRing F] in
/-- The order statistics of the sort of a nonempty list, at the indices of its length. -/
theorem ofSorted_sort {xs : List F} (hne : xs ≠ []) :
    (Percentiles.ofSorted (fieldArith F sqrt) ((fieldArith F sqrt).sort xs) (xs.length / 2)
      (min (xs.length * 99 / 100) (xs.length - 1))).OfSorted ((fieldArith F sqrt).sort xs) := by
  have hlen := Arith.length_sort (fieldArith F sqrt) xs
  have hsorted : (fieldArith F sqrt).sort xs ≠ [] := by
    rw [← List.length_pos_iff, hlen]
    exact List.length_pos_iff.mpr hne
  have h := ofSorted_ofSorted (fieldArith F sqrt) (pairwise_sort sqrt xs) hsorted
  rwa [hlen] at h

omit [IsStrictOrderedRing F] in
/-- The sorted jitters of a window of two or more probes, from the jitter loop. -/
theorem jitterOfSorted_ofSorted {delays : List F} (hlen : 2 ≤ delays.length) :
    (jitterOfSorted (fieldArith F sqrt) ((fieldArith F sqrt).sort (jitterLoop (fieldArith F sqrt) delays))).OfSorted
      ((fieldArith F sqrt).sort (jitterLoop (fieldArith F sqrt) delays)) := by
  have hjlen : ((fieldArith F sqrt).sort (jitterLoop (fieldArith F sqrt) delays)).length = delays.length - 1 := by
    rw [Arith.length_sort, length_jitterLoop]
  have hne : (fieldArith F sqrt).sort (jitterLoop (fieldArith F sqrt) delays) ≠ [] := by
    rw [← List.length_pos_iff, hjlen]
    omega
  -- the jitters' 99th-percentile index needs no `min`: it is below their count
  have hidx : ((fieldArith F sqrt).sort (jitterLoop (fieldArith F sqrt) delays)).length * 99 / 100 =
      min (((fieldArith F sqrt).sort (jitterLoop (fieldArith F sqrt) delays)).length * 99 / 100)
        (((fieldArith F sqrt).sort (jitterLoop (fieldArith F sqrt) delays)).length - 1) := by
    rw [hjlen]
    omega
  unfold jitterOfSorted
  rw [if_neg hne, hidx]
  exact ofSorted_ofSorted _ (pairwise_sort sqrt _) hne

/-- In every state, the stats of a nonempty window whose probes fit their types are the order
statistics, loss and reordering the report is named for. -/
theorem describes_directionStats {w : Nat} {st : ProbeStreamState F} {nowMs : Nat}
    (hne : st.recentProbes nowMs ≠ [])
    (hbound : ∀ p ∈ st.recentProbes nowMs,
      p.sentAtMs < 2 ^ 63 ∧ p.receivedAtMs < 2 ^ 63 ∧ p.seq < 2 ^ 64 - 1)
    (hlen : (st.recentProbes nowMs).length * 99 < 2 ^ w)
    (hcount : (st.recentProbes nowMs).length ≤ 2 ^ 31) :
    ∃ stats, directionStats (fieldArith F sqrt) w st nowMs = some stats ∧
      stats.Describes (st.recentProbes nowMs) (st.baseline (fieldArith F sqrt) 0) := by
  have hbase : st.baseline (fieldArith F sqrt) ((fieldArith F sqrt).ofNat 0) =
      st.baseline (fieldArith F sqrt) 0 := by
    rw [fieldArith_ofNat, Nat.cast_zero]
  rw [directionStats_eq _ hne hbound hlen hcount, hbase]
  refine ⟨_, rfl, ?_⟩
  have hpos : 0 < (st.recentProbes nowMs).length := List.length_pos_iff.mpr hne
  have hdevs : ((st.recentProbes nowMs).map fun p =>
      (fieldArith F sqrt).sub ((fieldArith F sqrt).ofInt p.delay) (st.baseline (fieldArith F sqrt) 0)) =
        (st.recentProbes nowMs).map fun p => (p.delay : F) - st.baseline (fieldArith F sqrt) 0 := by
    simp
  have hdev := ofSorted_sort sqrt (show ((st.recentProbes nowMs).map fun p =>
    (p.delay : F) - st.baseline (fieldArith F sqrt) 0) ≠ [] by simpa using hne)
  rw [List.length_map] at hdev
  have hdelays : ((st.recentProbes nowMs).map fun p => (fieldArith F sqrt).ofInt p.delay) =
      (st.recentProbes nowMs).map fun p => (p.delay : F) := by
    simp
  have hjitters : jitterLoop (fieldArith F sqrt) ((st.recentProbes nowMs).map fun p =>
      (fieldArith F sqrt).ofInt p.delay) =
        List.zipWith (fun prev delay => |delay - prev|) ((st.recentProbes nowMs).map fun p => (p.delay : F))
          ((st.recentProbes nowMs).map fun p => (p.delay : F)).tail := by
    rw [jitterLoop_eq_zipWith, hdelays]
    simp
  have hseqs : (st.recentProbes nowMs).map ReceivedMeasurementProbe.seq ≠ [] := by simpa using hne
  have hreorders := reorderCount_lt_length max hseqs
  rw [List.length_map] at hreorders
  have hspan : 0 < ((st.recentProbes nowMs).map ReceivedMeasurementProbe.seq).max?.getD 0 -
      ((st.recentProbes nowMs).map ReceivedMeasurementProbe.seq).min?.getD 0 + 1 := Nat.succ_pos _
  rw [hdevs]
  refine ⟨⟨_, Arith.perm_sort _ _, hdev⟩, hdev.le, fun hone => ?_, fun htwo => ?_,
    streamLossRate_fieldArith sqrt hspan _, ?_, streamLossRate_lt sqrt hspan hpos,
    reorderRate_lt sqrt hreorders, rfl⟩
  · obtain ⟨p, hp⟩ := List.length_eq_one_iff.mp hone
    simp [hp, jitterLoop, jitterOfSorted, Percentiles.zero, Arith.sort]
  · have htwo' : 2 ≤ ((st.recentProbes nowMs).map fun p => (fieldArith F sqrt).ofInt p.delay).length := by
      rw [List.length_map]
      exact htwo
    refine ⟨_, ?_, jitterOfSorted_ofSorted sqrt htwo'⟩
    rw [← hjitters]
    exact Arith.perm_sort _ _
  · rw [reorderRate_fieldArith, reorderCount_max_eq_countP, List.length_map]
    ring

end Exact

/-! ### Both ends over a timeline -/

/-- Both ends reach one state and one set of stats. The bounds are those of the counters: fewer
than `2 ^ 64` probes in all (the `u64` baseline count), fewer than `2 ^ 32` in every second (the
`u32` feedback counts), and for the client's `len * 99`, a `wasm32` `usize` product, fewer than
`43383509` in the second the stats read; at and above that the client panics. A stream of
`PROBE_STREAM_PPS = 100` probes a second stays far below all three. -/
theorem probe_stream_stats_agree :
    (∀ {F : Type} (A : Arith F) (connId : List Char) (st : ProbeStreamState F)
      (timeline : List ReceivedMeasurementProbe), st.probeStreamsActive = true →
        serverProbeRun A connId st timeline = clientProbeRun A connId st timeline) ∧
    (∀ {F : Type} (A : Arith F) (st : ProbeStreamState F) (nowMs : Nat),
      (st.recentProbes nowMs).length * 99 < 2 ^ 32 →
        calculateProbeStreamStats A st nowMs = calculateClientS2cStats A st nowMs) ∧
    (∀ {F : Type} (A : Arith F) (connId : List Char) (timeline : List ReceivedMeasurementProbe),
      timeline.Pairwise (fun p q => p.receivedAtMs ≤ q.receivedAtMs) →
      (∀ p ∈ timeline, p.seq < 2 ^ 53 ∧ p.sentAtMs < 2 ^ 53 ∧ p.receivedAtMs < 2 ^ 53) →
      timeline.length < 2 ^ 64 → FeedbackWindowsFit timeline →
        ∃ st, serverProbeRun A connId (ProbeStreamState.started A) timeline = some st ∧
          clientProbeRun A connId (ProbeStreamState.started A) timeline = some st ∧
          ∀ nowMs, lastArrival timeline ≤ nowMs + probeFeedbackWindowMs →
            st.recentProbes nowMs =
              timeline.filter fun p => p.receivedAtMs ≥ nowMs - probeFeedbackWindowMs) ∧
    (∀ {F : Type} [Field F] [LinearOrder F] [IsStrictOrderedRing F] (sqrt : F → F)
      (st : ProbeStreamState F) (nowMs : Nat), st.recentProbes nowMs ≠ [] →
      (∀ p ∈ st.recentProbes nowMs, p.seq < 2 ^ 53 ∧ p.sentAtMs < 2 ^ 53 ∧ p.receivedAtMs < 2 ^ 53) →
      (st.recentProbes nowMs).length * 99 < 2 ^ 32 →
        ∃ stats, calculateProbeStreamStats (fieldArith F sqrt) st nowMs = some stats ∧
          calculateClientS2cStats (fieldArith F sqrt) st nowMs = some stats ∧
          stats.Describes (st.recentProbes nowMs) (st.baseline (fieldArith F sqrt) 0)) ∧
    (∀ {F : Type} (A : Arith F) (st : ProbeStreamState F) (nowMs : Nat),
      st.recentProbes nowMs ≠ [] → 2 ^ 32 ≤ (st.recentProbes nowMs).length * 99 →
        calculateClientS2cStats A st nowMs = none) := by
  refine ⟨fun A connId st timeline hactive => serverProbeRun_eq_clientProbeRun A connId timeline hactive,
    fun A st nowMs hlen => directionStats_usize_eq A (by omega) hlen, ?_, ?_,
    fun A st nowMs hne hlen => directionStats_eq_none_of_usize A hne hlen⟩
  · intro F A connId timeline hsorted hbound hlen hwindows
    obtain ⟨st, hrun, hk⟩ := serverProbeRun_keeps A connId hsorted
      (fun p hp => ⟨by have := (hbound p hp).2.1; omega, by have := (hbound p hp).2.2; omega⟩) hlen
      hwindows
    refine ⟨st, hrun, ?_, fun nowMs hnow => hk.recentProbes_eq hnow⟩
    rw [← serverProbeRun_eq_clientProbeRun A connId timeline rfl]
    exact hrun
  · intro F _ _ _ sqrt st nowMs hne hbound hlen
    obtain ⟨stats, hstats, hdescribes⟩ := describes_directionStats sqrt (w := 64) hne
      (fun p hp => by obtain ⟨h1, h2, h3⟩ := hbound p hp; omega) (by omega) (by omega)
    refine ⟨stats, hstats, ?_, hdescribes⟩
    unfold calculateClientS2cStats
    rw [directionStats_usize_eq _ hlen (show _ < 2 ^ 64 by omega)]
    exact hstats

end Netpoke
