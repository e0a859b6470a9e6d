import Netpoke.Iperf3.Limits
import Netpoke.Iperf3.UdpStreams
import Netpoke.Library.ByteOrder
import Netpoke.Library.ExceptState

/-!
# The iperf3 control connection

`run_session_protocol` (`iperf3-server/src/server.rs`) drives a test over the control
connection. It writes state bytes (`send_state`) and JSON messages (`write_json_message`: a
four-byte big-endian length, then the bytes of the JSON), and reads the client's (`read_state`,
and `read_json_message`, which refuses a length above `MAX_MESSAGE_SIZE`), all in
`iperf3-server/src/session.rs`. The connection is a `ControlStream`: what the client has sent
that the server has not read, what the server has written, and how much it can write before the
connection breaks; a write past the break fails with what fitted written. `serde_json` is a
parameter (`JsonCodec`); the data streams, the clock and the byte counters are inputs
(`SessionEnv`), with the UDP streams accepted by `acceptUdpStreams`.

A JSON message is written exactly when the connection takes its frame, and read back whole,
whatever follows it (`json_message_round_trip`). Over any client input and any connection the
server writes a prefix of one transcript, its state codes in the protocol's order with its
results between them, and all of it exactly when the session completes (`session_transcript`);
it completes exactly when the client sends its parameters, a state, its results and a state,
each message within the size limit and decodable, the data streams connect, and the connection
takes the whole transcript (`run_session_protocol_ok_iff`). The two states the client sends are only logged when
they are not `TEST_END` and `IPERF_DONE`: any known state lets the test go on.
-/

namespace Netpoke

namespace Iperf3

open ByteOrder EStateM

inductive State
  | paramExchange
  | createStreams
  | testStart
  | testRunning
  | testEnd
  | exchangeResults
  | displayResults
  | iperfDone
  | serverTerminate
  | accessDenied
  | serverError
  deriving DecidableEq, Repr

namespace State

/-- The `#[repr(i8)]` discriminant. -/
def toI8 : State → Int8
  | paramExchange => 9
  | createStreams => 10
  | testStart => 1
  | testRunning => 2
  | testEnd => 4
  | exchangeResults => 13
  | displayResults => 14
  | iperfDone => 16
  | serverTerminate => 15
  | accessDenied => -1
  | serverError => -2

/-- `to_byte`: `(self as i8) as u8`. -/
def toByte (s : State) : UInt8 :=
  s.toI8.toUInt8

/-- `from_byte`: the byte read as an `i8`. -/
def fromByte (b : UInt8) : Option State :=
  match b.toInt8.toInt with
  | 9 => some paramExchange
  | 10 => some createStreams
  | 1 => some testStart
  | 2 => some testRunning
  | 4 => some testEnd
  | 13 => some exchangeResults
  | 14 => some displayResults
  | 16 => some iperfDone
  | 15 => some serverTerminate
  | -1 => some accessDenied
  | -2 => some serverError
  | _ => none

end State

/-- The `Iperf3Error`s of the control protocol, with the values their messages print. -/
inductive Iperf3Error
  /-- `Io`: `read_exact` met the end of the stream -/
  | unexpectedEof
  /-- `Json`: bytes that are no JSON, or a value that is no `TestParameters` -/
  | json
  /-- `Protocol("Message too large: {len} bytes")` -/
  | messageTooLarge (len : Nat)
  /-- `Protocol("Unknown state: {byte}")` -/
  | unknownState (byte : UInt8)
  /-- `Protocol("Timeout waiting for {expected} data streams, got {got}")` -/
  | streamsTimeout (expected got : Nat)
  /-- a `Protocol` error of `accept_udp_streams` -/
  | udpAccept (error : UdpAcceptError)
  /-- `Io`: `write_all` on a connection that broke -/
  | connectionBroken
  deriving DecidableEq, Repr

/-! ### Exchange results -/

structure ExchangeStreamResult where
  id : Nat
  bytes : Nat
  retransmits : Int
  jitter : Float
  errors : Nat
  omittedErrors : Nat
  packets : Nat
  omittedPackets : Nat
  startTime : Float
  endTime : Float
  deriving Repr

structure ExchangeResultsData where
  cpuUtilTotal : Float
  cpuUtilUser : Float
  cpuUtilSystem : Float
  senderHasRetransmits : Int
  congestionUsed : Option (List Char)
  streams : List ExchangeStreamResult
  deriving Repr

/-- `generate_exchange_results`: one stream carrying `bytes_received`, whichever way the test
ran. -/
def generateExchangeResults (bytesReceived : Nat) (testDuration : Float) : ExchangeResultsData where
  cpuUtilTotal := 0
  cpuUtilUser := 0
  cpuUtilSystem := 0
  senderHasRetransmits := -1
  congestionUsed := some "cubic".toList
  streams := [⟨1, bytesReceived, -1, 0, 0, 0, 0, 0, 0, testDuration⟩]

/-- What the control protocol asks of `serde_json`, over its `Value` type `J`. -/
structure JsonCodec (J : Type) where
  /-- `serde_json::from_slice`, `none` where it fails -/
  fromSlice : List UInt8 → Option J
  /-- `serde_json::to_vec`, which does not fail on a `Value` -/
  toVec : J → List UInt8
  /-- `serde_json::from_value` into `TestParameters` -/
  toTestParameters : J → Option TestParameters
  /-- `serde_json::to_value` of the exchange results, which does not fail -/
  ofExchangeResults : ExchangeResultsData → J

/-! ### The connection -/

/-- The control connection as the server sees it. -/
structure ControlStream where
  /-- what the client has sent and the server has not read -/
  input : List UInt8
  /-- what the server has written, in order -/
  output : List UInt8
  /-- how many bytes the server can write in all before the connection breaks, if it does -/
  breaksAt : Option Nat
  deriving DecidableEq, Repr

/-- Whether the connection takes `n` more bytes before it breaks. -/
def ControlStream.takes (c : ControlStream) (n : Nat) : Bool :=
  c.breaksAt.all fun limit => decide (n ≤ limit - c.output.length)

/-- Work on the control connection; a failed step keeps what was written before it. -/
abbrev Control (α : Type) := EStateM Iperf3Error ControlStream α

/-- `read_exact` of `n` bytes; at the end of the stream what was left is consumed. -/
def readExact (n : Nat) : Control (List UInt8) := do
  let c ← get
  match takeExact n c.input with
  | some (bytes, rest) =>
    set { c with input := rest }
    return bytes
  | none =>
    set { c with input := [] }
    throw .unexpectedEof

/-- `write_all`; the `flush` after it does nothing on a `TcpStream`. On a connection that breaks,
the bytes that fit before the break are written and the write fails. -/
def writeAll (bytes : List UInt8) : Control Unit := do
  let c ← get
  match c.breaksAt with
  | some limit =>
    -- the room left before the break
    let room := limit - c.output.length
    if room < bytes.length then
      set { c with output := c.output ++ bytes.take room }
      throw .connectionBroken
    else set { c with output := c.output ++ bytes }
  | none => set { c with output := c.output ++ bytes }

def maxMessageSize : Nat := 1024 * 1024

variable {J : Type}

def readJsonMessage (codec : JsonCodec J) : Control J := do
  let lenBuf ← readExact 4
  -- `u32::from_be_bytes(len_buf) as usize`
  let len := ofBE lenBuf
  if len > maxMessageSize then throw (.messageTooLarge len)
  let data ← readExact len
  match codec.fromSlice data with
  | some json => return json
  | none => throw .json

/-- `write_json_message`: the length prefix is `data.len() as u32`. -/
def writeJsonMessage (codec : JsonCodec J) (json : J) : Control Unit := do
  let data := codec.toVec json
  writeAll (toBE 4 (data.length % 2 ^ 32))
  writeAll data

/-- `send_state`; the session's `state` field it also sets is read by nothing. -/
def sendState (s : State) : Control Unit :=
  writeAll [s.toByte]

def readState : Control State := do
  let buf ← readExact 1
  let b := buf.getD 0 0
  match State.fromByte b with
  | some s => return s
  | none => throw (.unknownState b)

/-- `serde_json::from_value(params_json)?`. -/
def decodeTestParameters (codec : JsonCodec J) (json : J) : Control TestParameters :=
  match codec.toTestParameters json with
  | some params => pure params
  | none => throw .json

/-! ### The session -/

/-- How the wait for TCP data streams ends: the main accept loop has added them all, or the
timeout passed with `got` of them. -/
inductive TcpWait
  | connected
  | timedOut (got : Nat)
  deriving DecidableEq, Repr

/-- What `run_session_protocol` learns from outside the control connection. -/
structure SessionEnv where
  tcpWait : TcpWait
  /-- what the network does in each round of `accept_udp_streams` -/
  udpRounds : Nat → UdpRound
  /-- `bytes_received` once the data tasks have stopped -/
  bytesReceived : Nat
  /-- `test_elapsed().as_secs_f64()` when the results are generated -/
  elapsedSecs : Float

/-- `STREAM_CONNECT_TIMEOUT_SECS`, in nanoseconds as the UDP rounds count time. -/
def streamConnectTimeout : Nat := 10 * 1000000000

/-- Step 4 of `run_session_protocol`: the `parallel` data streams connect, over UDP through
`accept_udp_streams` and over TCP on the main accept loop. -/
def waitForStreams (serverPort : Nat) (clientAddr : SocketAddr) (env : SessionEnv)
    (params : TestParameters) : Except Iperf3Error Unit :=
  if params.udp then
    match (acceptUdpStreams params.parallel serverPort streamConnectTimeout clientAddr
        env.udpRounds).2 with
    | some error => .error (.udpAccept error)
    | none => .ok ()
  else
    match env.tcpWait with
    | .connected => .ok ()
    | .timedOut got => .error (.streamsTimeout params.parallel got)

/-- The exchange results message the server sends. -/
def serverResults (codec : JsonCodec J) (env : SessionEnv) : List UInt8 :=
  codec.toVec (codec.ofExchangeResults (generateExchangeResults env.bytesReceived env.elapsedSecs))

/-- `run_session_protocol`. The data tasks run between `TEST_RUNNING` and the client's state;
what they count is `env.bytesReceived`. -/
def runSessionProtocol (codec : JsonCodec J) (maxDurationSecs maxBandwidth serverPort : Nat)
    (clientAddr : SocketAddr) (env : SessionEnv) : Control Unit := do
  sendState .paramExchange
  let paramsJson ← readJsonMessage codec
  let params ← decodeTestParameters codec paramsJson
  let params := applyServerLimits maxDurationSecs maxBandwidth params
  sendState .createStreams
  liftExcept (waitForStreams serverPort clientAddr env params)
  sendState .testStart
  sendState .testRunning
  -- a state other than `TEST_END` is only logged
  let _clientState ← readState
  sendState .exchangeResults
  let _clientResults ← readJsonMessage codec
  writeJsonMessage codec (codec.ofExchangeResults
    (generateExchangeResults env.bytesReceived env.elapsedSecs))
  sendState .displayResults
  -- a state other than `IPERF_DONE` is only logged
  let _clientState ← readState
  sendState .serverTerminate

/-! ### Wire formats -/

/-- A JSON message on the wire: its length, big-endian, then its bytes. -/
def frame (data : List UInt8) : List UInt8 :=
  toBE 4 data.length ++ data

/-- What the server writes in a session that completes. -/
def sessionTranscript (results : List UInt8) : List UInt8 :=
  [State.paramExchange.toByte, State.createStreams.toByte, State.testStart.toByte,
    State.testRunning.toByte, State.exchangeResults.toByte] ++ frame results ++
    [State.displayResults.toByte, State.serverTerminate.toByte]

/-- What the client sends in a session the server completes. -/
def clientTranscript (params : List UInt8) (testEnd : UInt8) (results : List UInt8)
    (iperfDone : UInt8) : List UInt8 :=
  frame params ++ testEnd :: (frame results ++ [iperfDone])

/-! ### One step at a time -/

theorem readExact_run (n : Nat) (c : ControlStream) :
    (readExact n).run c = match takeExact n c.input with
      | some (bytes, rest) => .ok bytes { c with input := rest }
      | none => .error .unexpectedEof { c with input := [] } := by
  cases htake : takeExact n c.input with
  | none => simp [readExact, htake]
  | some p => simp [readExact, htake]

theorem readExact_append {n : Nat} {front : List UInt8} (hn : front.length = n)
    (rest output : List UInt8) (breaksAt : Option Nat) :
    (readExact n).run ⟨front ++ rest, output, breaksAt⟩ = .ok front ⟨rest, output, breaksAt⟩ := by
  subst hn
  rw [readExact_run, takeExact_append]

theorem readExact_eq_ok {n : Nat} {c c' : ControlStream} {bytes : List UInt8}
    (h : (readExact n).run c = .ok bytes c') :
    bytes.length = n ∧ c.input = bytes ++ c'.input ∧ c'.output = c.output ∧
      c'.breaksAt = c.breaksAt := by
  rw [readExact_run] at h
  cases htake : takeExact n c.input with
  | none =>
    rw [htake] at h
    cases h
  | some p =>
    obtain ⟨front, rest⟩ := p
    rw [htake] at h
    cases h
    exact ⟨(takeExact_eq_some_iff.mp htake).1, (takeExact_eq_some_iff.mp htake).2, rfl, rfl⟩

theorem emits_readExact (n : Nat) : Emits ControlStream.output (readExact n) [] where
  ok h := by
    rw [(readExact_eq_ok h).2.2.1, List.append_nil]
  error h := by
    rw [readExact_run] at h
    split at h <;> cases h
    exact ⟨[], List.nil_prefix, by simp⟩

theorem ControlStream.takes_iff {c : ControlStream} {n : Nat} :
    c.takes n = true ↔ ∀ limit, c.breaksAt = some limit → n ≤ limit - c.output.length := by
  unfold ControlStream.takes
  cases c.breaksAt <;> simp

/-- After more is written, the connection takes what is left of the room it had. -/
theorem ControlStream.takes_of_written {c c' : ControlStream} {m n : Nat} (h : c.takes n = true)
    (hbreaks : c'.breaksAt = c.breaksAt) (hgrow : c.output.length ≤ c'.output.length)
    (hle : c'.output.length + m ≤ c.output.length + n) : c'.takes m = true := by
  rw [ControlStream.takes_iff] at h ⊢
  intro limit hlimit
  have hroom := h limit (hbreaks ▸ hlimit)
  omega

/-- A connection that still takes a byte after more was written took what was written. -/
theorem ControlStream.takes_of_written_pos {c c' : ControlStream} {m n : Nat}
    (h : c'.takes m = true) (hm : 0 < m) (hbreaks : c'.breaksAt = c.breaksAt)
    (hle : c.output.length + n ≤ c'.output.length + m) : c.takes n = true := by
  rw [ControlStream.takes_iff] at h ⊢
  intro limit hlimit
  have hroom := h limit (hbreaks.trans hlimit)
  omega

theorem writeAll_run (bytes : List UInt8) (c : ControlStream) :
    (writeAll bytes).run c =
      if c.takes bytes.length then .ok () { c with output := c.output ++ bytes }
      else .error .connectionBroken
        { c with output := c.output ++ bytes.take (c.breaksAt.getD 0 - c.output.length) } := by
  unfold writeAll ControlStream.takes
  cases hb : c.breaksAt with
  | none => simp [hb]
  | some limit =>
    by_cases hbreak : limit - c.output.length < bytes.length
    · simp [hb, hbreak]
    · simp [hb, hbreak, Nat.le_of_not_lt hbreak]

theorem writeAll_run_of_takes {bytes : List UInt8} {c : ControlStream}
    (h : c.takes bytes.length = true) :
    (writeAll bytes).run c = .ok () { c with output := c.output ++ bytes } := by
  rw [writeAll_run, if_pos h]

theorem writeAll_eq_ok {bytes : List UInt8} {c c' : ControlStream}
    (h : (writeAll bytes).run c = .ok () c') :
    c.takes bytes.length = true ∧ c' = { c with output := c.output ++ bytes } := by
  rw [writeAll_run] at h
  split_ifs at h with htakes
  · cases h
    exact ⟨htakes, rfl⟩

theorem emitsAll_writeAll (bytes : List UInt8) :
    EmitsAll ControlStream.output (writeAll bytes) bytes where
  ok h := by
    obtain ⟨-, rfl⟩ := writeAll_eq_ok h
    rfl
  error h := by
    rw [writeAll_run] at h
    split_ifs at h
    cases h
    exact ⟨_, List.take_prefix _ _, rfl⟩
  error_ne := fun {c _ _} h => by
    rw [writeAll_run] at h
    split_ifs at h with htakes
    cases h
    have hshort : c.breaksAt.getD 0 - c.output.length < bytes.length := by
      obtain ⟨limit, hb, hroom⟩ : ∃ limit, c.breaksAt = some limit ∧
          limit - c.output.length < bytes.length := by
        simpa [ControlStream.takes_iff] using htakes
      rw [hb]
      exact hroom
    intro hall
    have hlen := congrArg List.length (List.append_cancel_left hall)
    rw [List.length_take] at hlen
    omega

theorem sendState_run_of_takes {s : State} {c : ControlStream}
    (h : c.takes 1 = true) :
    (sendState s).run c = .ok () { c with output := c.output ++ [s.toByte] } :=
  writeAll_run_of_takes h

theorem sendState_eq_ok {s : State} {c c' : ControlStream} (h : (sendState s).run c = .ok () c') :
    c.takes 1 = true ∧ c' = { c with output := c.output ++ [s.toByte] } :=
  writeAll_eq_ok h

theorem emitsAll_sendState (s : State) :
    EmitsAll ControlStream.output (sendState s) [s.toByte] :=
  emitsAll_writeAll _

/-- `write_json_message` is the two writes of its frame: `as u32` keeps the length modulo
`2 ^ 32`, all that four big-endian bytes hold. -/
theorem writeJsonMessage_eq (codec : JsonCodec J) (json : J) :
    writeJsonMessage codec json =
      (writeAll (toBE 4 (codec.toVec json).length) >>= fun _ => writeAll (codec.toVec json)) := by
  unfold writeJsonMessage
  dsimp only
  rw [show (2 : Nat) ^ 32 = 256 ^ 4 by norm_num, toBE_mod]

theorem writeJsonMessage_run_of_takes (codec : JsonCodec J) (json : J) {c : ControlStream}
    (h : c.takes (frame (codec.toVec json)).length = true) :
    (writeJsonMessage codec json).run c =
      .ok () { c with output := c.output ++ frame (codec.toVec json) } := by
  have hlen : (frame (codec.toVec json)).length = 4 + (codec.toVec json).length := by
    rw [frame, List.length_append, length_toBE]
  rw [writeJsonMessage_eq, run_bind, writeAll_run_of_takes]
  · dsimp only
    rw [writeAll_run_of_takes]
    · simp [frame]
    · exact ControlStream.takes_of_written h rfl (by simp)
        (by simp only [List.length_append, length_toBE, hlen]; omega)
  · exact ControlStream.takes_of_written h rfl le_rfl (by rw [length_toBE, hlen]; omega)

theorem writeJsonMessage_eq_ok {codec : JsonCodec J} {json : J} {c c' : ControlStream}
    (h : (writeJsonMessage codec json).run c = .ok () c') :
    c.takes (frame (codec.toVec json)).length = true ∧
      c' = { c with output := c.output ++ frame (codec.toVec json) } := by
  rw [writeJsonMessage_eq] at h
  obtain ⟨_, c₁, h₁, h₂⟩ := bind_eq_ok h
  obtain ⟨hfirst, rfl⟩ := writeAll_eq_ok h₁
  obtain ⟨hdata, rfl⟩ := writeAll_eq_ok h₂
  refine ⟨?_, by simp [frame]⟩
  -- an empty message is its prefix alone; otherwise its last byte went through
  rcases Nat.eq_zero_or_pos (codec.toVec json).length with hempty | hpos
  · rwa [frame, List.length_append, hempty, Nat.add_zero]
  · exact ControlStream.takes_of_written_pos hdata hpos rfl (by simp [frame]; omega)

theorem emitsAll_writeJsonMessage (codec : JsonCodec J) (json : J) :
    EmitsAll ControlStream.output (writeJsonMessage codec json) (frame (codec.toVec json)) := by
  rw [writeJsonMessage_eq]
  exact (emitsAll_writeAll _).bind fun _ => emitsAll_writeAll _

/-- A message of at most `MAX_MESSAGE_SIZE` bytes is read whole, whatever follows it. -/
theorem readJsonMessage_frame (codec : JsonCodec J) {data : List UInt8}
    (hsize : data.length ≤ maxMessageSize) (rest output : List UInt8) (breaksAt : Option Nat) :
    (readJsonMessage codec).run ⟨frame data ++ rest, output, breaksAt⟩ =
      match codec.fromSlice data with
      | some json => .ok json ⟨rest, output, breaksAt⟩
      | none => .error .json ⟨rest, output, breaksAt⟩ := by
  have hlen : ofBE (toBE 4 data.length) = data.length := by
    rw [ofBE_toBE]
    exact Nat.mod_eq_of_lt (by unfold maxMessageSize at hsize; omega)
  unfold readJsonMessage
  rw [frame, List.append_assoc, run_bind, readExact_append (length_toBE 4 _)]
  simp only [hlen, gt_iff_lt, Nat.not_lt.mpr hsize, if_false]
  rw [run_bind, readExact_append rfl]
  cases hjson : codec.fromSlice data <;> simp [hjson]

theorem readJsonMessage_eq_ok {codec : JsonCodec J} {c c' : ControlStream} {json : J}
    (h : (readJsonMessage codec).run c = .ok json c') :
    ∃ data, data.length ≤ maxMessageSize ∧ codec.fromSlice data = some json ∧
      c.input = frame data ++ c'.input ∧ c'.output = c.output ∧ c'.breaksAt = c.breaksAt := by
  unfold readJsonMessage at h
  obtain ⟨lenBuf, c₁, hlenBuf, h⟩ := bind_eq_ok h
  obtain ⟨hlen4, hin₁, hout₁, hbreaks₁⟩ := readExact_eq_ok hlenBuf
  dsimp only at h
  split_ifs at h with hbig
  · rw [run_bind, run_throwError] at h
    cases h
  obtain ⟨data, c₂, hdata, h⟩ := bind_eq_ok h
  obtain ⟨hlen, hin₂, hout₂, hbreaks₂⟩ := readExact_eq_ok hdata
  cases hjson : codec.fromSlice data with
  | none =>
    rw [hjson, run_throwError] at h
    cases h
  | some j =>
    rw [hjson] at h
    cases h
    have hprefix : toBE 4 data.length = lenBuf := by
      rw [hlen, ← hlen4, toBE_ofBE]
    refine ⟨data, by omega, hjson, ?_, by rw [hout₂, hout₁], by rw [hbreaks₂, hbreaks₁]⟩
    rw [hin₁, hin₂, frame, hprefix, List.append_assoc]

theorem emits_readJsonMessage (codec : JsonCodec J) :
    Emits ControlStream.output (readJsonMessage codec) [] := by
  have hbody : ∀ len, Emits ControlStream.output (do
      let data ← readExact len
      match codec.fromSlice data with
      | some json => pure json
      | none => throw Iperf3Error.json : Control J) [] := fun len =>
    (emits_readExact len).bind fun data => by
      split
      · exact emits_pure _ _
      · exact emits_throw _ _
  unfold readJsonMessage
  refine (emits_readExact 4).bind fun lenBuf => ?_
  dsimp only
  split_ifs
  · exact (emits_throw _ _).bind fun _ => hbody _
  · exact hbody _

theorem readState_cons (b : UInt8) (rest output : List UInt8) (breaksAt : Option Nat) :
    readState.run ⟨b :: rest, output, breaksAt⟩ = match State.fromByte b with
      | some s => .ok s ⟨rest, output, breaksAt⟩
      | none => .error (.unknownState b) ⟨rest, output, breaksAt⟩ := by
  unfold readState
  rw [run_bind, show (⟨b :: rest, output, breaksAt⟩ : ControlStream) =
    ⟨[b] ++ rest, output, breaksAt⟩ from rfl, readExact_append List.length_singleton]
  cases hstate : State.fromByte b <;> simp [hstate]

theorem readState_eq_ok {c c' : ControlStream} {s : State} (h : readState.run c = .ok s c') :
    ∃ b, State.fromByte b = some s ∧ c.input = b :: c'.input ∧ c'.output = c.output ∧
      c'.breaksAt = c.breaksAt := by
  unfold readState at h
  obtain ⟨buf, c₁, hbuf, h⟩ := bind_eq_ok h
  obtain ⟨hlen, hin, hout, hbreaks⟩ := readExact_eq_ok hbuf
  obtain ⟨b, rfl⟩ := List.length_eq_one_iff.mp hlen
  have hb : [b].getD 0 0 = b := rfl
  dsimp only at h
  rw [hb] at h
  cases hstate : State.fromByte b with
  | none =>
    rw [hstate, run_throwError] at h
    cases h
  | some s' =>
    rw [hstate] at h
    cases h
    exact ⟨b, hstate, hin, hout, hbreaks⟩

theorem emits_readState : Emits ControlStream.output readState [] := by
  unfold readState
  refine (emits_readExact 1).bind fun buf => ?_
  dsimp only
  split
  · exact emits_pure _ _
  · exact emits_throw _ _

theorem decodeTestParameters_run (codec : JsonCodec J) (json : J) (c : ControlStream) :
    (decodeTestParameters codec json).run c = match codec.toTestParameters json with
      | some params => .ok params c
      | none => .error .json c := by
  unfold decodeTestParameters
  cases codec.toTestParameters json <;> rfl

theorem decodeTestParameters_eq_ok {codec : JsonCodec J} {json : J} {c c' : ControlStream}
    {params : TestParameters} (h : (decodeTestParameters codec json).run c = .ok params c') :
    codec.toTestParameters json = some params ∧ c' = c := by
  unfold decodeTestParameters at h
  cases hparams : codec.toTestParameters json with
  | none =>
    rw [hparams, run_throwError] at h
    cases h
  | some p =>
    rw [hparams] at h
    cases h
    exact ⟨rfl, rfl⟩

theorem emits_decodeTestParameters (codec : JsonCodec J) (json : J) :
    Emits ControlStream.output (decodeTestParameters codec json) [] := by
  unfold decodeTestParameters
  split
  · exact emits_pure _ _
  · exact emits_throw _ _

theorem emits_liftExcept {α : Type} (x : Except Iperf3Error α) :
    Emits ControlStream.output (liftExcept x : Control α) [] := by
  cases x with
  | error e => exact emits_throw _ _
  | ok a => exact emits_pure _ _

/-! ### Messages -/

/-- A JSON message the server writes is read back whole by a reader with the same size limit,
whatever the reader has still to read after it; the write succeeds exactly when the connection
takes the whole frame. -/
theorem json_message_round_trip (codec : JsonCodec J) {json : J}
    (hsize : (codec.toVec json).length ≤ maxMessageSize)
    (hjson : codec.fromSlice (codec.toVec json) = some json) :
    ∃ bytes, (∀ writer writer', (writeJsonMessage codec json).run writer = .ok () writer' ↔
        writer.takes bytes.length = true ∧
          writer' = { writer with output := writer.output ++ bytes }) ∧
      ∀ rest output breaksAt, (readJsonMessage codec).run ⟨bytes ++ rest, output, breaksAt⟩ =
        .ok json ⟨rest, output, breaksAt⟩ := by
  refine ⟨frame (codec.toVec json), fun writer writer' => ⟨writeJsonMessage_eq_ok, ?_⟩,
    fun rest output breaksAt => ?_⟩
  · rintro ⟨htakes, rfl⟩
    exact writeJsonMessage_run_of_takes codec json htakes
  · rw [readJsonMessage_frame codec hsize, hjson]

/-- The bytes themselves as their JSON. -/
def rawCodec : JsonCodec (List UInt8) where
  fromSlice := some
  toVec := id
  toTestParameters := fun _ => some TestParameters.default
  ofExchangeResults := fun _ => []

theorem json_message_round_trip_raw :
    (rawCodec.toVec [123, 125]).length ≤ maxMessageSize ∧
      rawCodec.fromSlice (rawCodec.toVec [123, 125]) = some [123, 125] ∧
      ∃ bytes, (writeJsonMessage rawCodec [123, 125]).run ⟨[], [], none⟩ =
          .ok () ⟨[], bytes, none⟩ ∧
        (readJsonMessage rawCodec).run ⟨bytes, [], none⟩ = .ok [123, 125] ⟨[], [], none⟩ := by
  refine ⟨by decide, rfl, ?_⟩
  obtain ⟨bytes, hwrite, hread⟩ :=
    @json_message_round_trip _ rawCodec [123, 125] (by decide) rfl
  have hback := hread [] [] none
  rw [List.append_nil] at hback
  exact ⟨bytes, (hwrite ⟨[], [], none⟩ ⟨[], bytes, none⟩).mpr ⟨rfl, rfl⟩, hback⟩

/-! ### The session -/

/-- Everything `run_session_protocol` writes, in order: the reads write nothing, the states and
the results message are written whole. -/
theorem emitsAll_runSessionProtocol (codec : JsonCodec J)
    (maxDurationSecs maxBandwidth serverPort : Nat) (clientAddr : SocketAddr) (env : SessionEnv) :
    EmitsAll ControlStream.output
      (runSessionProtocol codec maxDurationSecs maxBandwidth serverPort clientAddr env)
      (sessionTranscript (serverResults codec env)) := by
  unfold runSessionProtocol
  refine (emitsAll_sendState _).bind fun _ =>
    (emits_readJsonMessage codec).bind_emitsAll (fun paramsJson =>
      (emits_decodeTestParameters codec paramsJson).bind_emitsAll (fun params =>
        (emitsAll_sendState _).bind fun _ =>
          (emits_liftExcept _).bind_emitsAll (fun _ =>
            (emitsAll_sendState _).bind fun _ =>
              (emitsAll_sendState _).bind fun _ =>
                emits_readState.bind_emitsAll (fun _ =>
                  (emitsAll_sendState _).bind fun _ =>
                    (emits_readJsonMessage codec).bind_emitsAll (fun _ =>
                      (emitsAll_writeJsonMessage codec _).bind fun _ =>
                        (emitsAll_sendState _).bind fun _ =>
                          emits_readState.bind_emitsAll (fun _ => emitsAll_sendState _)
                            (List.cons_ne_nil _ _)) ?_) ?_) ?_) ?_) ?_
  all_goals simp [frame]

/-- Over any client input, a session that completes has written the whole transcript and one
that fails a proper prefix of it: the state codes in the protocol's order, never skipped. -/
theorem session_transcript (codec : JsonCodec J) (maxDurationSecs maxBandwidth serverPort : Nat)
    (clientAddr : SocketAddr) (env : SessionEnv) (c : ControlStream) :
    (∀ c', (runSessionProtocol codec maxDurationSecs maxBandwidth serverPort clientAddr env).run c =
        .ok () c' → c'.output = c.output ++ sessionTranscript (serverResults codec env)) ∧
      ∀ e c', (runSessionProtocol codec maxDurationSecs maxBandwidth serverPort clientAddr env).run c =
        .error e c' → ∃ t, t <+: sessionTranscript (serverResults codec env) ∧
          t ≠ sessionTranscript (serverResults codec env) ∧ c'.output = c.output ++ t := by
  have hall := emitsAll_runSessionProtocol codec maxDurationSecs maxBandwidth serverPort clientAddr env
  refine ⟨fun c' h => hall.ok h, fun e c' h => ?_⟩
  obtain ⟨t, ht, hout⟩ := hall.error h
  exact ⟨t, ht, fun heq => hall.error_ne h (by rw [hout, heq]), hout⟩

section Session

variable (codec : JsonCodec J) (maxDurationSecs maxBandwidth serverPort : Nat)
  (clientAddr : SocketAddr) (env : SessionEnv)

/-- What the server asks of the client's messages and states in a session it completes: both
messages within the size limit and decodable, parameters whose data streams connect, and states
it knows, whichever they are. -/
structure Conforms (params : List UInt8) (testEnd : UInt8) (results : List UInt8)
    (iperfDone : UInt8) : Prop where
  params_le : params.length ≤ maxMessageSize
  results_le : results.length ≤ maxMessageSize
  streams : ∃ testParameters, (codec.fromSlice params).bind codec.toTestParameters =
      some testParameters ∧
    waitForStreams serverPort clientAddr env
      (applyServerLimits maxDurationSecs maxBandwidth testParameters) = .ok ()
  results_decode : (codec.fromSlice results).isSome
  testEnd_known : (State.fromByte testEnd).isSome
  iperfDone_known : (State.fromByte iperfDone).isSome

variable {codec maxDurationSecs maxBandwidth serverPort clientAddr env}

/-- A completed session has read a conforming client's messages and states, and nothing else. -/
theorem runSessionProtocol_eq_ok {c c' : ControlStream}
    (h : (runSessionProtocol codec maxDurationSecs maxBandwidth serverPort clientAddr env).run c =
      .ok () c') :
    ∃ params testEnd results iperfDone,
      c.input = clientTranscript params testEnd results iperfDone ++ c'.input ∧
        Conforms codec maxDurationSecs maxBandwidth serverPort clientAddr env params testEnd results
          iperfDone ∧
        c'.breaksAt = c.breaksAt ∧
        c.takes (sessionTranscript (serverResults codec env)).length = true := by
  have hout := (emitsAll_runSessionProtocol codec maxDurationSecs maxBandwidth serverPort clientAddr
    env).ok h
  unfold runSessionProtocol at h
  -- one step of the protocol at a time; the writes leave the input alone
  obtain ⟨_, c₁, h₁, r₁⟩ := bind_eq_ok h
  obtain ⟨-, rfl⟩ := sendState_eq_ok h₁
  obtain ⟨paramsJson, c₂, h₂, r₂⟩ := bind_eq_ok r₁
  obtain ⟨params, hparams_le, hparams, hin₂, -, hbreaks₂⟩ := readJsonMessage_eq_ok h₂
  obtain ⟨testParameters, c₃, h₃, r₃⟩ := bind_eq_ok r₂
  obtain ⟨htest, hc₃⟩ := decodeTestParameters_eq_ok h₃
  subst hc₃
  dsimp only at r₃
  obtain ⟨_, c₄, h₄, r₄⟩ := bind_eq_ok r₃
  obtain ⟨-, rfl⟩ := sendState_eq_ok h₄
  obtain ⟨_, c₅, h₅, r₅⟩ := bind_eq_ok r₄
  rw [run_liftExcept] at h₅
  have hwait : waitForStreams serverPort clientAddr env
      (applyServerLimits maxDurationSecs maxBandwidth testParameters) = .ok () := by
    split at h₅
    · rename_i hok
      rw [hok]
    · cases h₅
  rw [hwait] at h₅
  cases h₅
  obtain ⟨_, c₆, h₆, r₆⟩ := bind_eq_ok r₅
  obtain ⟨-, rfl⟩ := sendState_eq_ok h₆
  obtain ⟨_, c₇, h₇, r₇⟩ := bind_eq_ok r₆
  obtain ⟨-, rfl⟩ := sendState_eq_ok h₇
  obtain ⟨s₁, c₈, h₈, r₈⟩ := bind_eq_ok r₇
  obtain ⟨testEnd, htestEnd, hin₈, -, hbreaks₈⟩ := readState_eq_ok h₈
  obtain ⟨_, c₉, h₉, r₉⟩ := bind_eq_ok r₈
  obtain ⟨-, rfl⟩ := sendState_eq_ok h₉
  obtain ⟨resultsJson, c₁₀, h₁₀, r₁₀⟩ := bind_eq_ok r₉
  obtain ⟨results, hresults_le, hresults, hin₁₀, -, hbreaks₁₀⟩ := readJsonMessage_eq_ok h₁₀
  obtain ⟨_, c₁₁, h₁₁, r₁₁⟩ := bind_eq_ok r₁₀
  obtain ⟨-, rfl⟩ := writeJsonMessage_eq_ok h₁₁
  obtain ⟨_, c₁₂, h₁₂, r₁₂⟩ := bind_eq_ok r₁₁
  obtain ⟨-, rfl⟩ := sendState_eq_ok h₁₂
  obtain ⟨s₂, c₁₃, h₁₃, r₁₃⟩ := bind_eq_ok r₁₂
  obtain ⟨iperfDone, hiperfDone, hin₁₃, -, hbreaks₁₃⟩ := readState_eq_ok h₁₃
  obtain ⟨hlast, rfl⟩ := sendState_eq_ok r₁₃
  have hbreaks : c₁₃.breaksAt = c.breaksAt := by
    simp only [hbreaks₁₃, hbreaks₁₀, hbreaks₈, hbreaks₂]
  have hlen := congrArg List.length hout
  simp only [List.length_append, List.length_singleton] at hlen
  refine ⟨params, testEnd, results, iperfDone, ?_, ⟨hparams_le, hresults_le,
    ⟨testParameters, by rw [hparams]; exact htest, hwait⟩, by rw [hresults]; rfl,
    by rw [htestEnd]; rfl, by rw [hiperfDone]; rfl⟩, hbreaks,
    ControlStream.takes_of_written_pos hlast Nat.one_pos hbreaks (by omega)⟩
  simp only at hin₂ hin₈ hin₁₀ hin₁₃
  rw [hin₂, hin₈, hin₁₀, hin₁₃]
  simp [clientTranscript]

/-- A conforming client's session completes, having read exactly what the client sent for it. -/
theorem runSessionProtocol_of_conforms {params : List UInt8} {testEnd : UInt8}
    {results : List UInt8} {iperfDone : UInt8}
    (hc : Conforms codec maxDurationSecs maxBandwidth serverPort clientAddr env params testEnd
      results iperfDone) {rest output : List UInt8} {breaksAt : Option Nat}
    (htakes : (⟨clientTranscript params testEnd results iperfDone ++ rest, output, breaksAt⟩ :
      ControlStream).takes (sessionTranscript (serverResults codec env)).length = true) :
    (runSessionProtocol codec maxDurationSecs maxBandwidth serverPort clientAddr env).run
        ⟨clientTranscript params testEnd results iperfDone ++ rest, output, breaksAt⟩ =
      .ok () ⟨rest, output ++ sessionTranscript (serverResults codec env), breaksAt⟩ := by
  obtain ⟨testParameters, hdecode, hwait⟩ := hc.streams
  obtain ⟨paramsJson, hparams, htest⟩ := Option.bind_eq_some_iff.mp hdecode
  obtain ⟨resultsJson, hresults⟩ := Option.isSome_iff_exists.mp hc.results_decode
  obtain ⟨s₁, hs₁⟩ := Option.isSome_iff_exists.mp hc.testEnd_known
  obtain ⟨s₂, hs₂⟩ := Option.isSome_iff_exists.mp hc.iperfDone_known
  unfold runSessionProtocol clientTranscript
  -- each write fits under the break, as the whole transcript does
  simp (disch :=
      exact ControlStream.takes_of_written htakes rfl (by simp <;> omega)
        (by simp [sessionTranscript, frame, serverResults] <;> omega)) only
    [List.append_assoc, List.cons_append, run_bind, sendState_run_of_takes,
    readJsonMessage_frame codec hc.params_le, hparams, readState_cons, hs₁,
    readJsonMessage_frame codec hc.results_le, hresults, hs₂, writeJsonMessage_run_of_takes,
    decodeTestParameters_run, htest, run_liftExcept, hwait, List.nil_append]
  rfl

/-- A session completes exactly when the client has sent its parameters, a state, its results
and a state that the server accepts, and the connection takes the whole transcript; it has then
read just those bytes and written its whole transcript. -/
theorem run_session_protocol_ok_iff (c c' : ControlStream) :
    (runSessionProtocol codec maxDurationSecs maxBandwidth serverPort clientAddr env).run c =
        .ok () c' ↔
      ∃ params testEnd results iperfDone,
        Conforms codec maxDurationSecs maxBandwidth serverPort clientAddr env params testEnd results
          iperfDone ∧
        c.takes (sessionTranscript (serverResults codec env)).length = true ∧
        c.input = clientTranscript params testEnd results iperfDone ++ c'.input ∧
        c'.output = c.output ++ sessionTranscript (serverResults codec env) ∧
        c'.breaksAt = c.breaksAt := by
  constructor
  · intro h
    obtain ⟨params, testEnd, results, iperfDone, hin, hc, hbreaks, htakes⟩ :=
      runSessionProtocol_eq_ok h
    exact ⟨params, testEnd, results, iperfDone, hc, htakes, hin,
      (emitsAll_runSessionProtocol codec maxDurationSecs maxBandwidth serverPort clientAddr env).ok h,
      hbreaks⟩
  · rintro ⟨params, testEnd, results, iperfDone, hc, htakes, hin, hout, hbreaks⟩
    obtain ⟨input, output, breaksAt⟩ := c
    obtain ⟨rest, output', breaksAt'⟩ := c'
    simp only at hin hout hbreaks
    subst hin hout hbreaks
    exact runSessionProtocol_of_conforms hc htakes

end Session

end Iperf3

end Netpoke
