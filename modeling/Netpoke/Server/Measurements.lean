import Netpoke.Library.IndexedQueue

/-!
# Sent-probe bookkeeping of a session

Each session keeps the probes it sent twice: in a queue in sending order (`sent_probes`,
`sent_testprobes`) and in a map by sequence number (`sent_probes_map`, `sent_testprobes_map`),
which the echo handlers look up. Under the session's write lock, `start_probe_sender` and the two
traceroute rounds (`run_single_traceroute_round`, `run_mtu_traceroute_round`, which share
`testprobe_seq`) take the next sequence number, queue and index the probe and drop those sent more
than a minute before from the front (`recordSentProbe`); `StartServerTraffic` and `StopTraceroute`
clear the probe tables (`server/src/data_channels.rs`). A session is a run of these steps
(`ProbeEvent`, `step`, `run`), each done atomically under the lock.

Both tables stay consistent over every run (`probe_bookkeeping_consistent`): the map holds exactly
the queued probes under their sequence numbers, the queue is in increasing sequence order, and a
probe queued later has a larger number than any queued before. A panic in a step (`u64` overflow
of the counter, or a clock less than a minute past the epoch in `sent_at_ms - 60_000`) is modelled
by the state the source leaves at that point.

The echo queues are pruned from the front against the server's clock, but each echo is stamped
with the client's `timestamp_ms`. An echo stamped far in the future stays at the front, and from
then on every echo of a tracked probe is appended and nothing is dropped, however old
(`echo_history_unbounded`).
-/

namespace Netpoke

structure SentProbe where
  seq : Nat
  sentAtMs : Nat
  deriving DecidableEq, Repr

structure EchoedProbe where
  seq : Nat
  sentAtMs : Nat
  echoedAtMs : Nat
  deriving DecidableEq, Repr

/-- The fields of `MeasurementState` the probe bookkeeping reads or writes. -/
structure MeasurementState where
  probeSeq : Nat
  testprobeSeq : Nat
  pathTtl : Option Nat
  stopTraceroute : Bool
  trafficActive : Bool
  sentProbes : List SentProbe
  sentProbesMap : AssocMap Nat SentProbe
  echoedProbes : List EchoedProbe
  sentTestprobes : List SentProbe
  sentTestprobesMap : AssocMap Nat SentProbe
  echoedTestprobes : List EchoedProbe

namespace MeasurementState

def new : MeasurementState :=
  ⟨0, 0, none, false, false, [], AssocMap.empty, [], [], AssocMap.empty, []⟩

/-- The bookkeeping of every sender: probe `seq`, sent at `sentAtMs`, is queued and indexed,
and the probes sent more than a minute before are dropped from the front. Before a minute past
the epoch `sent_at_ms - 60_000` panics, leaving the new probe queued and nothing dropped. -/
def recordSentProbe (sent : List SentProbe) (sentMap : AssocMap Nat SentProbe)
    (seq sentAtMs : Nat) : List SentProbe × AssocMap Nat SentProbe :=
  let sentProbe : SentProbe := ⟨seq, sentAtMs⟩
  let pushed := IndexedQueue.pushBack SentProbe.seq sent sentMap sentProbe
  if sentAtMs < 60000 then pushed
  else
    IndexedQueue.popFrontWhile SentProbe.seq (fun p => decide (p.sentAtMs < sentAtMs - 60000))
      pushed.1 pushed.2

/-- A tick of `start_probe_sender` that sends, at `sentAtMs`; `probe_seq += 1` panics at the end
of `u64` before anything changes. -/
def sendProbe (s : MeasurementState) (sentAtMs : Nat) : MeasurementState :=
  if s.probeSeq + 1 < 2 ^ 64 then
    let recorded := recordSentProbe s.sentProbes s.sentProbesMap s.probeSeq sentAtMs
    { s with probeSeq := s.probeSeq + 1, sentProbes := recorded.1, sentProbesMap := recorded.2 }
  else s

/-- A TTL step of `run_single_traceroute_round` or of `run_mtu_traceroute_round`, which do the
same bookkeeping on the test probes. -/
def sendTestprobe (s : MeasurementState) (sentAtMs : Nat) : MeasurementState :=
  if s.testprobeSeq + 1 < 2 ^ 64 then
    let recorded := recordSentProbe s.sentTestprobes s.sentTestprobesMap s.testprobeSeq sentAtMs
    { s with
      testprobeSeq := s.testprobeSeq + 1
      sentTestprobes := recorded.1
      sentTestprobesMap := recorded.2 }
  else s

/-- `StartServerTraffic`; `probe_seq` is not reset. -/
def startServerTraffic (s : MeasurementState) : MeasurementState :=
  { s with
    trafficActive := true
    sentProbes := []
    sentProbesMap := AssocMap.empty
    echoedProbes := [] }

/-- `StopTraceroute`; the test probes and `testprobe_seq` are kept. -/
def stopTracerouteRequest (s : MeasurementState) : MeasurementState :=
  { s with
    stopTraceroute := true
    sentProbes := []
    sentProbesMap := AssocMap.empty
    echoedProbes := [] }

/-- `handle_probe_packet` for the echo of server-to-client probe `seq`, echoed at `echoedAtMs` and
received at `nowMs`. -/
def handleProbeEcho (s : MeasurementState) (seq echoedAtMs nowMs : Nat) : MeasurementState :=
  match s.sentProbesMap.get seq with
  | some sentProbe =>
    let echoedProbes := s.echoedProbes ++ [⟨seq, sentProbe.sentAtMs, echoedAtMs⟩]
    -- `now_ms - 60_000` panics before a minute past the epoch, with the echo kept
    if nowMs < 60000 then { s with echoedProbes }
    else
      { s with echoedProbes := echoedProbes.dropWhile fun p => decide (p.echoedAtMs < nowMs - 60000) }
  | none => s

/-- `handle_testprobe_echo_packet` for the echo of test probe `testSeq`; `ttl` is the TTL of its
send options, which only sets `path_ttl`. -/
def handleTestprobeEcho (s : MeasurementState) (testSeq echoedAtMs nowMs : Nat)
    (ttl : Option Nat) : MeasurementState :=
  match ttl with
  | some ttl => if s.pathTtl.isNone then { s with pathTtl := some ttl } else s
  | none =>
    match s.sentTestprobesMap.get testSeq with
    | some sentTestprobe =>
      let echoedTestprobes :=
        s.echoedTestprobes ++ [⟨testSeq, sentTestprobe.sentAtMs, echoedAtMs⟩]
      if nowMs < 60000 then { s with echoedTestprobes }
      else
        { s with
          echoedTestprobes :=
            echoedTestprobes.dropWhile fun p => decide (p.echoedAtMs < nowMs - 60000) }
    | none => s

end MeasurementState

/-- What one step of a session can be. -/
inductive ProbeEvent
  | probeSent (sentAtMs : Nat)
  | tracerouteTestprobeSent (sentAtMs : Nat)
  | mtuTestprobeSent (sentAtMs : Nat)
  | startServerTraffic
  | stopTraceroute
  | probeEchoed (seq echoedAtMs nowMs : Nat)
  | testprobeEchoed (testSeq echoedAtMs nowMs : Nat) (ttl : Option Nat)
  deriving DecidableEq, Repr

namespace MeasurementState

def step (s : MeasurementState) : ProbeEvent → MeasurementState
  | .probeSent sentAtMs => s.sendProbe sentAtMs
  | .tracerouteTestprobeSent sentAtMs => s.sendTestprobe sentAtMs
  | .mtuTestprobeSent sentAtMs => s.sendTestprobe sentAtMs
  | .startServerTraffic => s.startServerTraffic
  | .stopTraceroute => s.stopTracerouteRequest
  | .probeEchoed seq echoedAtMs nowMs => s.handleProbeEcho seq echoedAtMs nowMs
  | .testprobeEchoed testSeq echoedAtMs nowMs ttl => s.handleTestprobeEcho testSeq echoedAtMs nowMs ttl

def run (s : MeasurementState) (events : List ProbeEvent) : MeasurementState :=
  events.foldl step s

@[simp] theorem run_nil (s : MeasurementState) : s.run [] = s := rfl

theorem run_append (s : MeasurementState) (pre post : List ProbeEvent) :
    s.run (pre ++ post) = (s.run pre).run post :=
  List.foldl_append

end MeasurementState

/-! ### One table over one step -/

/-- A probe table with its counter: consistent, in increasing order, and below the counter. -/
structure SentTable (sent : List SentProbe) (sentMap : AssocMap Nat SentProbe) (next : Nat) :
    Prop where
  agrees : IndexedQueue.Agrees SentProbe.seq sent sentMap
  increasing : (sent.map SentProbe.seq).Pairwise (· < ·)
  lt_next : ∀ p ∈ sent, p.seq < next

theorem sentTable_nil (next : Nat) : SentTable [] AssocMap.empty next :=
  ⟨IndexedQueue.agrees_nil, List.Pairwise.nil, fun _ hp => absurd hp List.not_mem_nil⟩

/-- What a step does to one table: nothing, clear it, or record the probe numbered by the
counter. -/
inductive TableStep (sent : List SentProbe) (sentMap : AssocMap Nat SentProbe) (next : Nat) :
    List SentProbe → AssocMap Nat SentProbe → Nat → Prop
  | same : TableStep sent sentMap next sent sentMap next
  | clear : TableStep sent sentMap next [] AssocMap.empty next
  | record (sentAtMs : Nat) :
    TableStep sent sentMap next
      (MeasurementState.recordSentProbe sent sentMap next sentAtMs).1
      (MeasurementState.recordSentProbe sent sentMap next sentAtMs).2 (next + 1)

theorem SentTable.recordSentProbe {sent : List SentProbe} {sentMap : AssocMap Nat SentProbe}
    {next : Nat} (h : SentTable sent sentMap next) (sentAtMs : Nat) :
    SentTable (MeasurementState.recordSentProbe sent sentMap next sentAtMs).1
      (MeasurementState.recordSentProbe sent sentMap next sentAtMs).2 (next + 1) := by
  have hfresh : next ∉ sent.map SentProbe.seq := fun hmem => by
    obtain ⟨p, hp, hseq⟩ := List.mem_map.mp hmem
    exact absurd hseq (Nat.ne_of_lt (h.lt_next p hp))
  have hpushed : SentTable (IndexedQueue.pushBack SentProbe.seq sent sentMap ⟨next, sentAtMs⟩).1
      (IndexedQueue.pushBack SentProbe.seq sent sentMap ⟨next, sentAtMs⟩).2 (next + 1) := by
    refine ⟨h.agrees.pushBack hfresh, ?_, fun p hp => ?_⟩
    · unfold IndexedQueue.pushBack
      rw [List.map_append, List.pairwise_append]
      refine ⟨h.increasing, List.pairwise_singleton _ _, fun a ha b hb => ?_⟩
      obtain ⟨p, hp, rfl⟩ := List.mem_map.mp ha
      rw [List.map_singleton, List.mem_singleton] at hb
      rw [hb]
      exact h.lt_next p hp
    · unfold IndexedQueue.pushBack at hp
      rcases List.mem_append.mp hp with hp | hp
      · exact Nat.lt_succ_of_lt (h.lt_next p hp)
      · rw [List.mem_singleton.mp hp]
        exact Nat.lt_succ_self next
  unfold MeasurementState.recordSentProbe
  dsimp only
  split
  · exact hpushed
  · -- popping keeps a suffix, which keeps the order and the bound
    have hsuffix : (IndexedQueue.popFrontWhile SentProbe.seq
        (fun p => decide (p.sentAtMs < sentAtMs - 60000))
        (IndexedQueue.pushBack SentProbe.seq sent sentMap ⟨next, sentAtMs⟩).1
        (IndexedQueue.pushBack SentProbe.seq sent sentMap ⟨next, sentAtMs⟩).2).1 <:+
        (IndexedQueue.pushBack SentProbe.seq sent sentMap ⟨next, sentAtMs⟩).1 :=
      IndexedQueue.popFrontWhile_suffix _ _ _
    exact ⟨hpushed.agrees.popFrontWhile _, hpushed.increasing.sublist (hsuffix.sublist.map _),
      fun p hp => hpushed.lt_next p (hsuffix.subset hp)⟩

theorem SentTable.tableStep {sent sent' : List SentProbe} {sentMap sentMap' : AssocMap Nat SentProbe}
    {next next' : Nat} (h : SentTable sent sentMap next)
    (hstep : TableStep sent sentMap next sent' sentMap' next') : SentTable sent' sentMap' next' := by
  cases hstep with
  | same => exact h
  | clear => exact sentTable_nil next
  | record sentAtMs => exact h.recordSentProbe sentAtMs

theorem mem_recordSentProbe {sent : List SentProbe} {sentMap : AssocMap Nat SentProbe}
    {next sentAtMs : Nat} {p : SentProbe}
    (hp : p ∈ (MeasurementState.recordSentProbe sent sentMap next sentAtMs).1) :
    p ∈ sent ∨ next ≤ p.seq := by
  have hpushed : p ∈ (IndexedQueue.pushBack SentProbe.seq sent sentMap ⟨next, sentAtMs⟩).1 → p ∈ sent ∨ next ≤ p.seq := by
    intro hmem
    unfold IndexedQueue.pushBack at hmem
    rcases List.mem_append.mp hmem with hold | hnew
    · exact .inl hold
    · rw [List.mem_singleton.mp hnew]
      exact .inr (Nat.le_refl next)
  unfold MeasurementState.recordSentProbe at hp
  dsimp only at hp
  split at hp
  · exact hpushed hp
  · exact hpushed ((IndexedQueue.popFrontWhile_suffix _ _ _).subset hp)

/-- A probe in a table after a step was in it before or is numbered from the counter on. -/
theorem mem_of_tableStep {sent sent' : List SentProbe} {sentMap sentMap' : AssocMap Nat SentProbe}
    {next next' : Nat} (hstep : TableStep sent sentMap next sent' sentMap' next') {p : SentProbe}
    (hp : p ∈ sent') : p ∈ sent ∨ next ≤ p.seq := by
  cases hstep with
  | same => exact .inl hp
  | clear => exact absurd hp List.not_mem_nil
  | record sentAtMs => exact mem_recordSentProbe hp

theorem le_of_tableStep {sent sent' : List SentProbe} {sentMap sentMap' : AssocMap Nat SentProbe}
    {next next' : Nat} (hstep : TableStep sent sentMap next sent' sentMap' next') : next ≤ next' := by
  cases hstep with
  | same => exact Nat.le_refl next
  | clear => exact Nat.le_refl next
  | record sentAtMs => exact Nat.le_succ next

/-! ### Both tables over a run -/

namespace MeasurementState

theorem TableStep.of_eq {sent sent' : List SentProbe} {sentMap sentMap' : AssocMap Nat SentProbe}
    {next next' : Nat} (h : sent' = sent ∧ sentMap' = sentMap ∧ next' = next) :
    TableStep sent sentMap next sent' sentMap' next' := by
  obtain ⟨rfl, rfl, rfl⟩ := h
  exact .same

/-! Each handler leaves the table it does not record on as it is. -/

theorem probes_sendTestprobe (s : MeasurementState) (sentAtMs : Nat) :
    (s.sendTestprobe sentAtMs).sentProbes = s.sentProbes ∧
      (s.sendTestprobe sentAtMs).sentProbesMap = s.sentProbesMap ∧
      (s.sendTestprobe sentAtMs).probeSeq = s.probeSeq := by
  unfold sendTestprobe
  split <;> exact ⟨rfl, rfl, rfl⟩

theorem testprobes_sendProbe (s : MeasurementState) (sentAtMs : Nat) :
    (s.sendProbe sentAtMs).sentTestprobes = s.sentTestprobes ∧
      (s.sendProbe sentAtMs).sentTestprobesMap = s.sentTestprobesMap ∧
      (s.sendProbe sentAtMs).testprobeSeq = s.testprobeSeq := by
  unfold sendProbe
  split <;> exact ⟨rfl, rfl, rfl⟩

/-- The echo handlers change only the echo queues and `path_ttl`. -/
theorem handleProbeEcho_tables (s : MeasurementState) (seq echoedAtMs nowMs : Nat) :
    (s.handleProbeEcho seq echoedAtMs nowMs).sentProbes = s.sentProbes ∧
      (s.handleProbeEcho seq echoedAtMs nowMs).sentProbesMap = s.sentProbesMap ∧
      (s.handleProbeEcho seq echoedAtMs nowMs).probeSeq = s.probeSeq ∧
      (s.handleProbeEcho seq echoedAtMs nowMs).sentTestprobes = s.sentTestprobes ∧
      (s.handleProbeEcho seq echoedAtMs nowMs).sentTestprobesMap = s.sentTestprobesMap ∧
      (s.handleProbeEcho seq echoedAtMs nowMs).testprobeSeq = s.testprobeSeq := by
  unfold handleProbeEcho
  cases s.sentProbesMap.get seq with
  | none => exact ⟨rfl, rfl, rfl, rfl, rfl, rfl⟩
  | some sentProbe =>
    dsimp only
    split <;> exact ⟨rfl, rfl, rfl, rfl, rfl, rfl⟩

theorem handleTestprobeEcho_tables (s : MeasurementState) (testSeq echoedAtMs nowMs : Nat)
    (ttl : Option Nat) :
    (s.handleTestprobeEcho testSeq echoedAtMs nowMs ttl).sentProbes = s.sentProbes ∧
      (s.handleTestprobeEcho testSeq echoedAtMs nowMs ttl).sentProbesMap = s.sentProbesMap ∧
      (s.handleTestprobeEcho testSeq echoedAtMs nowMs ttl).probeSeq = s.probeSeq ∧
      (s.handleTestprobeEcho testSeq echoedAtMs nowMs ttl).sentTestprobes = s.sentTestprobes ∧
      (s.handleTestprobeEcho testSeq echoedAtMs nowMs ttl).sentTestprobesMap =
        s.sentTestprobesMap ∧
      (s.handleTestprobeEcho testSeq echoedAtMs nowMs ttl).testprobeSeq = s.testprobeSeq := by
  unfold handleTestprobeEcho
  cases ttl with
  | some ttl =>
    dsimp only
    split <;> exact ⟨rfl, rfl, rfl, rfl, rfl, rfl⟩
  | none =>
    dsimp only
    cases s.sentTestprobesMap.get testSeq with
    | none => exact ⟨rfl, rfl, rfl, rfl, rfl, rfl⟩
    | some sentTestprobe =>
      dsimp only
      split <;> exact ⟨rfl, rfl, rfl, rfl, rfl, rfl⟩

theorem probes_tableStep (s : MeasurementState) (e : ProbeEvent) :
    TableStep s.sentProbes s.sentProbesMap s.probeSeq (s.step e).sentProbes
      (s.step e).sentProbesMap (s.step e).probeSeq := by
  cases e with
  | probeSent sentAtMs =>
    show TableStep _ _ _ (s.sendProbe sentAtMs).sentProbes (s.sendProbe sentAtMs).sentProbesMap
      (s.sendProbe sentAtMs).probeSeq
    unfold sendProbe
    split
    · exact .record sentAtMs
    · exact .same
  | tracerouteTestprobeSent sentAtMs => exact TableStep.of_eq (s.probes_sendTestprobe sentAtMs)
  | mtuTestprobeSent sentAtMs => exact TableStep.of_eq (s.probes_sendTestprobe sentAtMs)
  | startServerTraffic => exact .clear
  | stopTraceroute => exact .clear
  | probeEchoed seq echoedAtMs nowMs =>
    obtain ⟨h1, h2, h3, -⟩ := s.handleProbeEcho_tables seq echoedAtMs nowMs
    exact TableStep.of_eq ⟨h1, h2, h3⟩
  | testprobeEchoed testSeq echoedAtMs nowMs ttl =>
    obtain ⟨h1, h2, h3, -⟩ := s.handleTestprobeEcho_tables testSeq echoedAtMs nowMs ttl
    exact TableStep.of_eq ⟨h1, h2, h3⟩

theorem testprobes_tableStep (s : MeasurementState) (e : ProbeEvent) :
    TableStep s.sentTestprobes s.sentTestprobesMap s.testprobeSeq (s.step e).sentTestprobes
      (s.step e).sentTestprobesMap (s.step e).testprobeSeq := by
  -- both traceroute rounds record on the test probe table
  have hsend : ∀ sentAtMs, TableStep s.sentTestprobes s.sentTestprobesMap s.testprobeSeq
      (s.sendTestprobe sentAtMs).sentTestprobes (s.sendTestprobe sentAtMs).sentTestprobesMap
      (s.sendTestprobe sentAtMs).testprobeSeq := by
    intro sentAtMs
    unfold sendTestprobe
    split
    · exact .record sentAtMs
    · exact .same
  cases e with
  | probeSent sentAtMs => exact TableStep.of_eq (s.testprobes_sendProbe sentAtMs)
  | tracerouteTestprobeSent sentAtMs => exact hsend sentAtMs
  | mtuTestprobeSent sentAtMs => exact hsend sentAtMs
  | startServerTraffic => exact .same
  | stopTraceroute => exact .same
  | probeEchoed seq echoedAtMs nowMs =>
    obtain ⟨-, -, -, h4, h5, h6⟩ := s.handleProbeEcho_tables seq echoedAtMs nowMs
    exact TableStep.of_eq ⟨h4, h5, h6⟩
  | testprobeEchoed testSeq echoedAtMs nowMs ttl =>
    obtain ⟨-, -, -, h4, h5, h6⟩ := s.handleTestprobeEcho_tables testSeq echoedAtMs nowMs ttl
    exact TableStep.of_eq ⟨h4, h5, h6⟩

structure Inv (s : MeasurementState) : Prop where
  probes : SentTable s.sentProbes s.sentProbesMap s.probeSeq
  testprobes : SentTable s.sentTestprobes s.sentTestprobesMap s.testprobeSeq

theorem inv_new : new.Inv :=
  ⟨sentTable_nil 0, sentTable_nil 0⟩

theorem Inv.step {s : MeasurementState} (h : s.Inv) (e : ProbeEvent) : (s.step e).Inv :=
  ⟨h.probes.tableStep (s.probes_tableStep e), h.testprobes.tableStep (s.testprobes_tableStep e)⟩

theorem Inv.run {s : MeasurementState} (h : s.Inv) (events : List ProbeEvent) :
    (s.run events).Inv := by
  induction events generalizing s with
  | nil => exact h
  | cons e events ih => exact ih (h.step e)

/-- Over a run of steps that each make a `TableStep` of one table, a queued probe was queued at
its start or is numbered from its counter on, and the counter only grows. -/
theorem tableStep_run (sent : MeasurementState → List SentProbe)
    (sentMap : MeasurementState → AssocMap Nat SentProbe) (next : MeasurementState → Nat)
    (hstep : ∀ s e, TableStep (sent s) (sentMap s) (next s) (sent (s.step e))
      (sentMap (s.step e)) (next (s.step e)))
    (s : MeasurementState) (events : List ProbeEvent) :
    next s ≤ next (s.run events) ∧ ∀ p ∈ sent (s.run events), p ∈ sent s ∨ next s ≤ p.seq := by
  induction events generalizing s with
  | nil => exact ⟨Nat.le_refl _, fun p hp => .inl hp⟩
  | cons e events ih =>
    obtain ⟨hle, hmem⟩ := ih (s.step e)
    have hfirst := hstep s e
    refine ⟨(le_of_tableStep hfirst).trans hle, fun p hp => ?_⟩
    rcases hmem p hp with hold | hnew
    · exact mem_of_tableStep hfirst hold
    · exact .inr ((le_of_tableStep hfirst).trans hnew)

/-- A probe that a later run queued is numbered after every probe queued before it. -/
theorem seq_lt_of_tableStep_run (sent : MeasurementState → List SentProbe)
    (sentMap : MeasurementState → AssocMap Nat SentProbe) (next : MeasurementState → Nat)
    (hstep : ∀ s e, TableStep (sent s) (sentMap s) (next s) (sent (s.step e))
      (sentMap (s.step e)) (next (s.step e)))
    {s : MeasurementState} (htable : SentTable (sent s) (sentMap s) (next s))
    (events : List ProbeEvent) {p q : SentProbe} (hp : p ∈ sent s) (hq : q ∈ sent (s.run events))
    (hnew : q ∉ sent s) : p.seq < q.seq := by
  rcases (tableStep_run sent sentMap next hstep s events).2 q hq with hold | hge
  · exact absurd hold hnew
  · exact Nat.lt_of_lt_of_le (htable.lt_next p hp) hge

end MeasurementState

theorem probe_bookkeeping_consistent (events : List ProbeEvent) :
    (∀ k p, (MeasurementState.new.run events).sentProbesMap.get k = some p ↔
      p ∈ (MeasurementState.new.run events).sentProbes ∧ p.seq = k) ∧
    ((MeasurementState.new.run events).sentProbes.map SentProbe.seq).Pairwise (· < ·) ∧
    (∀ k p, (MeasurementState.new.run events).sentTestprobesMap.get k = some p ↔
      p ∈ (MeasurementState.new.run events).sentTestprobes ∧ p.seq = k) ∧
    ((MeasurementState.new.run events).sentTestprobes.map SentProbe.seq).Pairwise (· < ·) ∧
    (∀ pre post p q, p ∈ (MeasurementState.new.run pre).sentProbes →
      q ∈ (MeasurementState.new.run (pre ++ post)).sentProbes →
      q ∉ (MeasurementState.new.run pre).sentProbes → p.seq < q.seq) ∧
    (∀ pre post p q, p ∈ (MeasurementState.new.run pre).sentTestprobes →
      q ∈ (MeasurementState.new.run (pre ++ post)).sentTestprobes →
      q ∉ (MeasurementState.new.run pre).sentTestprobes → p.seq < q.seq) := by
  have hinv := MeasurementState.inv_new.run events
  refine ⟨hinv.probes.agrees.get_iff, hinv.probes.increasing, hinv.testprobes.agrees.get_iff,
    hinv.testprobes.increasing, fun pre post p q hp hq hnew => ?_,
    fun pre post p q hp hq hnew => ?_⟩
  · -- a probe queued after `pre` is numbered from the counter at `pre` on
    rw [MeasurementState.run_append] at hq
    exact MeasurementState.seq_lt_of_tableStep_run _ _ _ MeasurementState.probes_tableStep
      (MeasurementState.inv_new.run pre).probes post hp hq hnew
  · rw [MeasurementState.run_append] at hq
    exact MeasurementState.seq_lt_of_tableStep_run _ _ _ MeasurementState.testprobes_tableStep
      (MeasurementState.inv_new.run pre).testprobes post hp hq hnew

/-- `StartServerTraffic` forgets the queued probes but not the counter, so the next probe is
numbered on. -/
example : ((MeasurementState.new.run [.probeSent 100000, .probeSent 100050, .startServerTraffic,
    .probeSent 100100]).sentProbes.map SentProbe.seq) = [2] := by
  decide

/-! ### The echo history -/

namespace MeasurementState

/-- While the front echo is stamped no more than a minute before the server's clock, an echo of a
tracked probe is appended and nothing is dropped. -/
theorem handleProbeEcho_of_front {s : MeasurementState} {seq : Nat} {sentProbe : SentProbe}
    {p : EchoedProbe} {rest : List EchoedProbe} (hsent : s.sentProbesMap.get seq = some sentProbe)
    (hfront : s.echoedProbes = p :: rest) (echoedAtMs nowMs : Nat)
    (hnow : nowMs ≤ p.echoedAtMs + 60000) :
    (s.handleProbeEcho seq echoedAtMs nowMs).echoedProbes =
      s.echoedProbes ++ [⟨seq, sentProbe.sentAtMs, echoedAtMs⟩] := by
  unfold handleProbeEcho
  rw [hsent]
  dsimp only
  split
  · rfl
  · have hkeep : ¬(p.echoedAtMs < nowMs - 60000) := by omega
    rw [hfront, List.cons_append, List.dropWhile_cons_of_neg (by simpa using hkeep)]

/-- Over echoes of a tracked probe at server times within a minute of the front's stamp, the
queue only grows. -/
theorem echoedProbes_run_of_front {s : MeasurementState} {seq : Nat} {sentProbe : SentProbe}
    {p : EchoedProbe} (hsent : s.sentProbesMap.get seq = some sentProbe) :
    ∀ (rest : List EchoedProbe), s.echoedProbes = p :: rest →
    ∀ echoes : List (Nat × Nat), (∀ e ∈ echoes, e.2 ≤ p.echoedAtMs + 60000) →
      (s.run (echoes.map fun e => .probeEchoed seq e.1 e.2)).echoedProbes =
        s.echoedProbes ++ echoes.map fun e => ⟨seq, sentProbe.sentAtMs, e.1⟩ := by
  intro rest hfront echoes
  -- the induction is on the echoes, with the state and the queue behind the front generalized
  induction echoes generalizing s rest with
  | nil => intro _; simp
  | cons e echoes ih =>
    intro hnow
    have hstep := handleProbeEcho_of_front hsent hfront e.1 e.2 (hnow e List.mem_cons_self)
    have hsent' : (s.handleProbeEcho seq e.1 e.2).sentProbesMap.get seq = some sentProbe := by
      rw [(handleProbeEcho_tables s seq e.1 e.2).2.1]
      exact hsent
    have hfront' : (s.handleProbeEcho seq e.1 e.2).echoedProbes =
        p :: (rest ++ [⟨seq, sentProbe.sentAtMs, e.1⟩]) := by
      rw [hstep, hfront, List.cons_append]
    have hrest := ih hsent' _ hfront' fun e' he' => hnow e' (List.mem_cons_of_mem _ he')
    rw [List.map_cons, run, List.foldl_cons, ← run]
    change ((s.handleProbeEcho seq e.1 e.2).run _).echoedProbes = _
    rw [hrest, hstep, List.append_assoc, List.singleton_append, List.map_cons]

end MeasurementState

/-- A probe sent at `1700000000000` is echoed with the stamp `u64::MAX`; a minute and a second
later the next probe is sent, which drops the first from the sent tables, and is echoed at once. -/
def poisonedEchoRun : List ProbeEvent :=
  [.probeSent 1700000000000, .probeEchoed 0 (2 ^ 64 - 1) 1700000000000, .probeSent 1700000061000,
    .probeEchoed 1 1700000061000 1700000061000]

theorem poisonedEchoRun_state :
    (MeasurementState.new.run poisonedEchoRun).echoedProbes =
        [⟨0, 1700000000000, 2 ^ 64 - 1⟩, ⟨1, 1700000061000, 1700000061000⟩] ∧
      (MeasurementState.new.run poisonedEchoRun).sentProbesMap.get 1 = some ⟨1, 1700000061000⟩ := by
  decide

theorem echo_history_unbounded :
    (∀ (s : MeasurementState) seq sentProbe p rest, s.sentProbesMap.get seq = some sentProbe →
      s.echoedProbes = p :: rest →
      ∀ echoes : List (Nat × Nat), (∀ e ∈ echoes, e.2 ≤ p.echoedAtMs + 60000) →
        (s.run (echoes.map fun e => .probeEchoed seq e.1 e.2)).echoedProbes =
          s.echoedProbes ++ echoes.map fun e => ⟨seq, sentProbe.sentAtMs, e.1⟩) ∧
    (MeasurementState.new.run poisonedEchoRun).echoedProbes =
      [⟨0, 1700000000000, 2 ^ 64 - 1⟩, ⟨1, 1700000061000, 1700000061000⟩] ∧
    (∀ echoes : List (Nat × Nat), (∀ e ∈ echoes, e.2 < 2 ^ 64) →
      ((MeasurementState.new.run poisonedEchoRun).run
          (echoes.map fun e => .probeEchoed 1 e.1 e.2)).echoedProbes =
        [⟨0, 1700000000000, 2 ^ 64 - 1⟩, ⟨1, 1700000061000, 1700000061000⟩] ++
          echoes.map fun e => ⟨1, 1700000061000, e.1⟩) := by
  obtain ⟨hechoed, hsent⟩ := poisonedEchoRun_state
  refine ⟨fun s seq sentProbe p rest hsent hfront =>
    MeasurementState.echoedProbes_run_of_front hsent rest hfront, hechoed, fun echoes hclock => ?_⟩
  -- every `u64` clock is within a minute of the stamp `u64::MAX`
  rw [MeasurementState.echoedProbes_run_of_front hsent _ hechoed echoes
    fun e he => by
      have := hclock e he
      show e.2 ≤ 2 ^ 64 - 1 + 60000
      omega, hechoed]

end Netpoke
