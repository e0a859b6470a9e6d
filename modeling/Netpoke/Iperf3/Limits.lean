import Netpoke.Iperf3.Admission
import Netpoke.Library.WindowLimiter

/-!
# iperf3 limits

Three limits of `Iperf3Config` reach a test. `run_session_protocol` clamps the client's test
time to `max_duration_secs` and a bandwidth above `max_bandwidth` down to it
(`applyServerLimits`). Each data stream then gets a sender task of its own
(`start_sender_background`, `start_udp_sender_background` in `iperf3-server/src/session.rs`)
that stops once its deadline has passed and paces itself with a one-second fixed-window
limiter, which for TCP is off when the bandwidth is zero. The accept loop of
`Iperf3Server::run` refuses a connection when the session table already holds
`max_sessions` sessions, but the table only gets the new session later, in the spawned
`handle_session`, once the cookie has arrived (`SessionTable`).

A sender pass reads the clock once: its cancellation and deadline checks, its limiter and
the start of its write happen at that reading. Time is an `Instant` in nanoseconds.

Every write of a sender task starts no later than its deadline (`senderRun_write_le`) and, when
the limiter is on, the bytes of each limiter window total at most the window budget plus one
block, with windows at least a second apart (`senderRun_window_total_le`,
`senderRun_window_gap`); `iperf3_sender_limits` puts these together with the clamping.
-/

namespace Netpoke

/-- The `TestParameters` fields the server acts on. -/
structure TestParameters where
  time : Nat
  parallel : Nat
  reverse : Bool
  bandwidth : Nat
  blksize : Nat
  udp : Bool
  deriving Repr, DecidableEq

/-- `TestParameters::default`, also the JSON defaults. -/
def TestParameters.default : TestParameters where
  time := 10
  parallel := 1
  reverse := false
  bandwidth := 0
  blksize := 128 * 1024
  udp := false

/-- The server-side limits `run_session_protocol` applies to the client's parameters. -/
def applyServerLimits (maxDurationSecs maxBandwidth : Nat) (params : TestParameters) :
    TestParameters :=
  let params :=
    if maxDurationSecs > 0 && params.time > maxDurationSecs then
      { params with time := maxDurationSecs }
    else params
  if maxBandwidth > 0 && params.bandwidth > maxBandwidth then
    { params with bandwidth := maxBandwidth }
  else params

theorem applyServerLimits_time (maxDurationSecs maxBandwidth : Nat) (params : TestParameters) :
    (applyServerLimits maxDurationSecs maxBandwidth params).time =
      if 0 < maxDurationSecs ∧ maxDurationSecs < params.time then maxDurationSecs
      else params.time := by
  unfold applyServerLimits
  by_cases htime : 0 < maxDurationSecs ∧ maxDurationSecs < params.time <;>
    by_cases hband : 0 < maxBandwidth ∧ maxBandwidth < params.bandwidth <;> simp [htime, hband]

theorem applyServerLimits_bandwidth (maxDurationSecs maxBandwidth : Nat)
    (params : TestParameters) :
    (applyServerLimits maxDurationSecs maxBandwidth params).bandwidth =
      if 0 < maxBandwidth ∧ maxBandwidth < params.bandwidth then maxBandwidth
      else params.bandwidth := by
  unfold applyServerLimits
  by_cases htime : 0 < maxDurationSecs ∧ maxDurationSecs < params.time <;>
    by_cases hband : 0 < maxBandwidth ∧ maxBandwidth < params.bandwidth <;> simp [htime, hband]

theorem time_applyServerLimits_le {maxDurationSecs : Nat} (maxBandwidth : Nat)
    (hmax : 0 < maxDurationSecs) (params : TestParameters) :
    (applyServerLimits maxDurationSecs maxBandwidth params).time ≤ maxDurationSecs := by
  rw [applyServerLimits_time]
  split_ifs with htime
  · exact le_refl _
  · omega

theorem bandwidth_applyServerLimits_le {maxBandwidth : Nat} (maxDurationSecs : Nat)
    (hmax : 0 < maxBandwidth) (params : TestParameters) :
    (applyServerLimits maxDurationSecs maxBandwidth params).bandwidth ≤ maxBandwidth := by
  rw [applyServerLimits_bandwidth]
  split_ifs with hband
  · exact le_refl _
  · omega

/-! ### Sender tasks -/

/-- The nanoseconds of the limiter's window, `Duration::from_secs(1)`. -/
def limiterWindow : Nat := 1000000000

/-- The TCP sender's budget per second: `bandwidth / 8`, or none (no limit) for 0. -/
def tcpBytesPerSecond (bandwidth : Nat) : Option Nat :=
  if bandwidth > 0 then some (bandwidth / 8) else none

/-- The UDP sender's budget per second; a zero bandwidth means `DEFAULT_UDP_BANDWIDTH_BPS`. -/
def udpBytesPerSecond (bandwidth : Nat) : Option Nat :=
  some (if bandwidth > 0 then bandwidth / 8 else 1000000 / 8)

/-- The UDP datagram size: `blksize`, or `DEFAULT_UDP_BLKSIZE` for 0. -/
def udpBlksize (blksize : Nat) : Nat :=
  if blksize > 0 then blksize else 8 * 1024

/-- One pass of a sender task's loop: the clock reading, whether the session was cancelled,
and whether the write succeeds. -/
structure SenderPass where
  now : Nat
  cancelled : Bool
  writeOk : Bool
  deriving DecidableEq, Repr

/-- A sender task: `last_send`, `bytes_this_second`, and whether the loop has ended. -/
structure SenderTask where
  lastSend : Nat
  bytesThisSecond : Nat
  stopped : Bool
  deriving DecidableEq, Repr

/-- One pass of the loop of a sender task: the task after it and the bytes it writes. The TCP
and UDP loops differ only in the budget and the block size they are given. -/
def senderPass (bytesPerSecond : Option Nat) (deadline blksize : Nat) (task : SenderTask)
    (pass : SenderPass) : SenderTask × Option Nat :=
  if task.stopped then (task, none)
  else if pass.cancelled || decide (pass.now > deadline) then
    (⟨task.lastSend, task.bytesThisSecond, true⟩, none)
  else
    let limited : Option SenderTask :=
      match bytesPerSecond with
      | none => some task
      | some limit =>
        if pass.now - task.lastSend ≥ limiterWindow then some ⟨pass.now, 0, false⟩
        else if task.bytesThisSecond ≥ limit then none
        else some task
    match limited with
    -- the task sleeps `BANDWIDTH_LIMIT_SLEEP_MS` and tries again
    | none => (task, none)
    | some task =>
      if pass.writeOk then (⟨task.lastSend, task.bytesThisSecond + blksize, false⟩, some blksize)
      else (⟨task.lastSend, task.bytesThisSecond, true⟩, none)

/-- A write of a sender task: the start of its limiter window, its time and its bytes. -/
structure SenderWrite where
  window : Nat
  time : Nat
  bytes : Nat
  deriving DecidableEq, Repr

/-- One pass, with the writes so far. -/
def senderStep (bytesPerSecond : Option Nat) (deadline blksize : Nat)
    (acc : SenderTask × List SenderWrite) (pass : SenderPass) : SenderTask × List SenderWrite :=
  let (task, written) := senderPass bytesPerSecond deadline blksize acc.1 pass
  match written with
  | none => (task, acc.2)
  | some bytes => (task, acc.2 ++ [⟨task.lastSend, pass.now, bytes⟩])

/-- A sender task started at `start` after a run of passes. -/
def senderRun (bytesPerSecond : Option Nat) (deadline blksize start : Nat)
    (passes : List SenderPass) : SenderTask × List SenderWrite :=
  passes.foldl (senderStep bytesPerSecond deadline blksize) (⟨start, 0, false⟩, [])

theorem senderRun_snoc (bytesPerSecond : Option Nat) (deadline blksize start : Nat)
    (passes : List SenderPass) (pass : SenderPass) :
    senderRun bytesPerSecond deadline blksize start (passes ++ [pass]) =
      senderStep bytesPerSecond deadline blksize
        (senderRun bytesPerSecond deadline blksize start passes) pass := by
  simp only [senderRun, List.foldl_append, List.foldl_cons, List.foldl_nil]

/-- A pass writes only when its clock reading is not past the deadline. -/
theorem senderPass_write_le {bytesPerSecond : Option Nat} {deadline blksize : Nat}
    {task : SenderTask} {pass : SenderPass} {bytes : Nat}
    (h : (senderPass bytesPerSecond deadline blksize task pass).2 = some bytes) :
    pass.now ≤ deadline := by
  by_contra hlate
  have hcheck : (pass.cancelled || decide (pass.now > deadline)) = true := by
    simp only [Bool.or_eq_true, decide_eq_true_eq]
    exact .inr (Nat.lt_of_not_le hlate)
  unfold senderPass at h
  simp only [hcheck, if_true] at h
  split_ifs at h

/-- Every write of a sender task starts at a clock reading not past its deadline. -/
theorem senderRun_write_le (bytesPerSecond : Option Nat) (deadline blksize start : Nat)
    (passes : List SenderPass) :
    ∀ w ∈ (senderRun bytesPerSecond deadline blksize start passes).2, w.time ≤ deadline := by
  induction passes using List.reverseRecOn with
  | nil => intro w hw; cases hw
  | append_singleton passes pass ih =>
    rw [senderRun_snoc]
    unfold senderStep
    cases hpass : senderPass bytesPerSecond deadline blksize
        (senderRun bytesPerSecond deadline blksize start passes).1 pass with
    | mk task written =>
      cases written with
      | none => exact ih
      | some bytes =>
        intro w hw
        rcases List.mem_append.mp hw with hw | hw
        · exact ih w hw
        · simp only [List.mem_singleton] at hw
          rw [hw]
          exact senderPass_write_le (by rw [hpass])

/-! ### The limiter of a sender task -/

def SenderTask.limiter (task : SenderTask) : WindowLimiter.State :=
  ⟨task.lastSend, task.bytesThisSecond⟩

/-- The limiter's log of a task's writes. -/
def limiterLog (writes : List SenderWrite) : List (Nat × Nat) :=
  writes.map fun w => (w.window, w.bytes)

/-- With a budget, a pass of a running task that passes its checks asks the fixed-window
limiter, and writes a block when it is let through. -/
theorem senderPass_of_limit (limit deadline blksize : Nat) {task : SenderTask}
    {pass : SenderPass} (hrunning : task.stopped = false)
    (hcheck : (pass.cancelled || decide (pass.now > deadline)) = false) :
    senderPass (some limit) deadline blksize task pass =
      match WindowLimiter.gate limiterWindow limit pass.now task.limiter with
      | none => (task, none)
      | some s =>
        if pass.writeOk then (⟨s.windowStart, s.used + blksize, false⟩, some blksize)
        else (⟨s.windowStart, s.used, true⟩, none) := by
  obtain ⟨lastSend, bytesThisSecond, stopped⟩ := task
  simp only at hrunning
  subst hrunning
  unfold senderPass WindowLimiter.gate SenderTask.limiter
  simp only [hcheck, Bool.false_eq_true, if_false]
  split_ifs <;> rfl

section Limited

variable {limit deadline blksize : Nat}

/-- One pass of a task with a budget keeps the limiter invariant. -/
theorem senderStep_inv {task : SenderTask} {writes : List SenderWrite} {clock : Nat}
    {pass : SenderPass}
    (h : WindowLimiter.Inv limiterWindow limit blksize task.limiter (limiterLog writes) clock)
    (hle : clock ≤ pass.now) :
    WindowLimiter.Inv limiterWindow limit blksize
      (senderStep (some limit) deadline blksize (task, writes) pass).1.limiter
      (limiterLog (senderStep (some limit) deadline blksize (task, writes) pass).2) pass.now := by
  have hnow := h.advance hle
  have hwindow : 0 < limiterWindow := by decide
  unfold senderStep
  by_cases hrunning : task.stopped = false
  · by_cases hcheck : (pass.cancelled || decide (pass.now > deadline)) = false
    · rw [senderPass_of_limit limit deadline blksize hrunning hcheck]
      cases hgate : WindowLimiter.gate limiterWindow limit pass.now task.limiter with
      | none => exact hnow
      | some s =>
        by_cases hok : pass.writeOk = true
        · -- the block is let through and counted in the window `s` belongs to
          simp only [hok, if_true, limiterLog, List.map_append, List.map_singleton]
          exact hnow.gate_record hwindow (le_refl _) hgate
        · simp only [hok, Bool.false_eq_true, if_false]
          exact hnow.after_gate hwindow hgate
    · have hstop : senderPass (some limit) deadline blksize task pass =
          (⟨task.lastSend, task.bytesThisSecond, true⟩, none) := by
        unfold senderPass
        rw [if_neg (by simp [hrunning]), if_pos (by rwa [Bool.not_eq_false] at hcheck)]
      rw [hstop]
      exact hnow
  · have hstop : senderPass (some limit) deadline blksize task pass = (task, none) := by
      unfold senderPass
      rw [if_pos (by rwa [Bool.not_eq_false] at hrunning)]
    rw [hstop]
    exact hnow

/-- The limiter invariant over any run of passes at nondecreasing clock readings. -/
theorem senderRun_inv (start : Nat) (passes : List SenderPass)
    (hsorted : (start :: passes.map SenderPass.now).Pairwise (· ≤ ·)) :
    WindowLimiter.Inv limiterWindow limit blksize
      (senderRun (some limit) deadline blksize start passes).1.limiter
      (limiterLog (senderRun (some limit) deadline blksize start passes).2)
      ((start :: passes.map SenderPass.now).getLast (List.cons_ne_nil _ _)) := by
  induction passes using List.reverseRecOn with
  | nil => exact WindowLimiter.Inv.init limiterWindow limit blksize start
  | append_singleton passes pass ih =>
    simp only [List.map_append, List.map_cons, List.map_nil] at hsorted
    rw [← List.cons_append] at hsorted
    have hinv := ih (List.pairwise_append.mp hsorted).1
    have hlast : (start :: passes.map SenderPass.now).getLast (List.cons_ne_nil _ _) ≤ pass.now :=
      (List.pairwise_append.mp hsorted).2.2 _ (List.getLast_mem _) _ List.mem_cons_self
    have hgoal : (start :: (passes ++ [pass]).map SenderPass.now).getLast (List.cons_ne_nil _ _) =
        pass.now := by
      simp
    rw [hgoal, senderRun_snoc]
    exact senderStep_inv hinv hlast

/-- With a budget, the bytes a sender task writes in each window of its limiter total at most
the budget plus one block. -/
theorem senderRun_window_total_le (start : Nat) (passes : List SenderPass)
    (hsorted : (start :: passes.map SenderPass.now).Pairwise (· ≤ ·)) (w : Nat) :
    WindowLimiter.windowTotal
      (limiterLog (senderRun (some limit) deadline blksize start passes).2) w ≤ limit + blksize :=
  (senderRun_inv start passes hsorted).total_le w

/-- The windows of a sender task's limiter start at least a second apart. -/
theorem senderRun_window_gap (start : Nat) (passes : List SenderPass)
    (hsorted : (start :: passes.map SenderPass.now).Pairwise (· ≤ ·))
    {w w' : SenderWrite} (hw : w ∈ (senderRun (some limit) deadline blksize start passes).2)
    (hw' : w' ∈ (senderRun (some limit) deadline blksize start passes).2)
    (hlt : w.window < w'.window) : w.window + limiterWindow ≤ w'.window :=
  (senderRun_inv start passes hsorted).sep _ (List.mem_map_of_mem hw) _
    (List.mem_map_of_mem hw') hlt

end Limited

/-! ### The session table -/

/-- The sessions of `Iperf3Server` and the connections the accept loop handed to a
`handle_session` task that has not read the cookie yet. -/
structure SessionTable where
  sessions : AssocMap (List Char) Unit
  waiting : List Nat

/-- What happens to the session table. -/
inductive SessionEvent
  /-- the accept loop takes an admitted connection -/
  | accept (conn : Nat)
  /-- `handle_session` has read the connection's cookie -/
  | cookie (conn : Nat) (cookie : List Char)
  /-- `run_session_protocol` of a session has returned -/
  | finish (cookie : List Char)
  deriving DecidableEq, Repr

def sessionTableStep (maxSessions : Nat) (t : SessionTable) : SessionEvent → SessionTable
  | .accept conn =>
    if t.sessions.entries.length ≥ maxSessions then t else ⟨t.sessions, t.waiting ++ [conn]⟩
  | .cookie conn cookie =>
    if conn ∈ t.waiting then
      -- a known cookie makes the connection a data stream of that session
      if t.sessions.containsKey cookie then ⟨t.sessions, t.waiting.erase conn⟩
      else ⟨t.sessions.insert cookie (), t.waiting.erase conn⟩
    else t
  | .finish cookie => ⟨t.sessions.erase cookie, t.waiting⟩

/-- The session table after a run of events on a new server. -/
def sessionTableRun (maxSessions : Nat) (events : List SessionEvent) : SessionTable :=
  events.foldl (sessionTableStep maxSessions) ⟨AssocMap.empty, []⟩

/-! ### The limits over a test -/

theorem bytesPerSecond_of_pos {bandwidth : Nat} (h : 0 < bandwidth) :
    tcpBytesPerSecond bandwidth = some (bandwidth / 8) ∧
      udpBytesPerSecond bandwidth = some (bandwidth / 8) := by
  simp [tcpBytesPerSecond, udpBytesPerSecond, h]

/-- Whatever a client asks for, a sender task of its test keeps two limits: with
`max_duration_secs` set, no write starts later than that long after the task started; with
`max_bandwidth` set and a nonzero bandwidth asked for, each window of the task's limiter,
the windows a second apart, gets at most `max_bandwidth / 8` bytes and one block. -/
theorem iperf3_sender_limits (config : Iperf3Config) (params : TestParameters)
    (setupTime start : Nat) (hstart : setupTime ≤ start) (passes : List SenderPass)
    (hsorted : (start :: passes.map SenderPass.now).Pairwise (· ≤ ·)) :
    let limited := applyServerLimits config.maxDurationSecs config.maxBandwidth params
    let deadline := setupTime + limited.time * 1000000000
    let bytesPerSecond :=
      if limited.udp then udpBytesPerSecond limited.bandwidth
      else tcpBytesPerSecond limited.bandwidth
    let blksize :=
      if limited.udp then udpBlksize limited.blksize else TestParameters.default.blksize
    let writes := (senderRun bytesPerSecond deadline blksize start passes).2
    (0 < config.maxDurationSecs →
      ∀ w ∈ writes, w.time ≤ start + config.maxDurationSecs * 1000000000) ∧
    (0 < config.maxBandwidth → 0 < params.bandwidth →
      (∀ window, WindowLimiter.windowTotal (limiterLog writes) window ≤
        config.maxBandwidth / 8 + blksize) ∧
      ∀ w ∈ writes, ∀ w' ∈ writes, w.window < w'.window → w.window + limiterWindow ≤ w'.window) := by
  intro limited deadline bytesPerSecond blksize writes
  constructor
  · intro hmax w hw
    have htime := time_applyServerLimits_le config.maxBandwidth hmax params
    have hdeadline : deadline ≤ start + config.maxDurationSecs * 1000000000 :=
      Nat.add_le_add hstart (Nat.mul_le_mul_right _ htime)
    exact le_trans (senderRun_write_le _ _ _ _ _ w hw) hdeadline
  · intro hmax hasked
    -- a nonzero bandwidth stays nonzero and at most the maximum, so the budget is on
    have hband := bandwidth_applyServerLimits_le config.maxDurationSecs hmax params
    have hpos : 0 < limited.bandwidth := by
      show 0 < (applyServerLimits config.maxDurationSecs config.maxBandwidth params).bandwidth
      rw [applyServerLimits_bandwidth]
      split_ifs <;> omega
    have hbps : bytesPerSecond = some (limited.bandwidth / 8) := by
      show (if limited.udp then udpBytesPerSecond limited.bandwidth
        else tcpBytesPerSecond limited.bandwidth) = _
      split
      · exact (bytesPerSecond_of_pos hpos).2
      · exact (bytesPerSecond_of_pos hpos).1
    have hwrites : writes =
        (senderRun (some (limited.bandwidth / 8)) deadline blksize start passes).2 := by
      show (senderRun bytesPerSecond deadline blksize start passes).2 = _
      rw [hbps]
    refine ⟨fun window => ?_, fun w hw w' hw' hlt => ?_⟩
    · calc WindowLimiter.windowTotal (limiterLog writes) window
          ≤ limited.bandwidth / 8 + blksize := by
            rw [hwrites]
            exact senderRun_window_total_le start passes hsorted window
        _ ≤ config.maxBandwidth / 8 + blksize := Nat.add_le_add_right (Nat.div_le_div_right hband) _
    · rw [hwrites] at hw hw'
      exact senderRun_window_gap start passes hsorted hw hw' hlt

theorem iperf3_sender_limits_default :
    ((senderRun (tcpBytesPerSecond 8000000) (0 + 10 * 1000000000) 131072 0
      [⟨0, false, true⟩]).2.all fun w => decide (w.time ≤ 0 + 3600 * 1000000000)) = true :=
  List.all_eq_true.mpr fun w hw => decide_eq_true
    ((iperf3_sender_limits { Iperf3Config.default with maxBandwidth := 8000000 }
      { TestParameters.default with bandwidth := 8000000 } 0 0 (le_refl 0) [⟨0, false, true⟩]
      (by decide)).1 (by decide) w hw)

/-- The limits fail as a whole. With `max_sessions = 1` two connections are both accepted
before either has sent its cookie, and both sessions run. With `max_bandwidth` 8 Mbit/s two
TCP streams send 8 blocks each within the first millisecond of a test, more than
`max_bandwidth / 8` and a block per stream. A bandwidth of 0 is not clamped, and the TCP
sender then has no limit. -/
theorem iperf3_limits_exceeded :
    (sessionTableRun 1 [.accept 1, .accept 2, .cookie 1 "A".toList, .cookie 2 "B".toList]
      ).sessions.entries.length = 2 ∧
    (let passes := (List.range 9).map fun k => (⟨k * 1000, false, true⟩ : SenderPass)
     let stream := (senderRun (tcpBytesPerSecond 8000000) 10000000000 131072 0 passes).2
     8000000 / 8 + 2 * 131072 < (stream.map SenderWrite.bytes).sum * 2) ∧
    (applyServerLimits 3600 8000000 TestParameters.default).bandwidth = 0 ∧
    (let passes := (List.range 9).map fun k => (⟨k * 1000, false, true⟩ : SenderPass)
     let stream := (senderRun (tcpBytesPerSecond 0) 10000000000 131072 0 passes).2
     8000000 / 8 + 131072 < (stream.map SenderWrite.bytes).sum) := by
  decide

end Netpoke
