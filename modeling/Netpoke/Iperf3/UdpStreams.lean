import Netpoke.Iperf3.Admission

/-!
# Accepting UDP data streams

For a UDP test `run_session_protocol` calls `accept_udp_streams`
(`iperf3-server/src/server.rs`), which for each expected stream binds the server port,
waits for the first datagram, and connects the socket to whoever sent it: the client address
parameter only picks the address family, and the `recv_from` result shadows it. What the
network does in one round (how long the wait has lasted, whether bind, connect and send
succeed, and what arrives first) is an input.

So a stranger's datagram that arrives first is accepted as a data stream of an admitted client
(`udp_stream_connected_to_unadmitted_peer`).
-/

namespace Netpoke

/-- The first thing `recv_from` returns within the remaining time. -/
inductive UdpReceive
  | datagram (source : SocketAddr)
  | recvError
  | timedOut
  deriving DecidableEq, Repr

/-- What the network does during one round of `accept_udp_streams`. -/
structure UdpRound where
  elapsed : Nat
  bindOk : Bool
  received : UdpReceive
  connectOk : Bool
  sendOk : Bool
  deriving DecidableEq, Repr

/-- The `Iperf3Error::Protocol` errors of `accept_udp_streams`, with the values they print. -/
inductive UdpAcceptError
  | timeout (streamNum expectedStreams : Nat)
  | bindFailed (bindAddr : SocketAddr)
  | recvFailed
  | recvTimeout (stream : Nat)
  | connectFailed
  | sendFailed
  deriving DecidableEq, Repr

/-- One round of the loop of `accept_udp_streams`: the peer the new socket is connected to. -/
def udpAcceptRound (expectedStreams serverPort timeout : Nat) (clientAddr : SocketAddr)
    (streamNum : Nat) (round : UdpRound) : Except UdpAcceptError SocketAddr :=
  if round.elapsed > timeout then .error (.timeout streamNum expectedStreams)
  else
    let bindAddr : SocketAddr :=
      if clientAddr.isIpv6 then ⟨.v6 0, serverPort⟩ else ⟨.v4 0, serverPort⟩
    if !round.bindOk then .error (.bindFailed bindAddr)
    else
      match round.received with
      | .recvError => .error .recvFailed
      | .timedOut => .error (.recvTimeout (streamNum + 1))
      -- the source of the datagram shadows `client_addr`
      | .datagram clientAddr =>
        if !round.connectOk then .error .connectFailed
        else if !round.sendOk then .error .sendFailed
        else .ok clientAddr

/-- The loop of `accept_udp_streams` over the stream numbers still to accept: the peers of
the sockets added to the session, in order, and the error that ended the loop, if any. -/
def acceptUdpStreamsLoop (expectedStreams serverPort timeout : Nat) (clientAddr : SocketAddr)
    (rounds : Nat → UdpRound) : List Nat → List SocketAddr × Option UdpAcceptError
  | [] => ([], none)
  | streamNum :: rest =>
    match udpAcceptRound expectedStreams serverPort timeout clientAddr streamNum
        (rounds streamNum) with
    | .error e => ([], some e)
    | .ok peer =>
      let (peers, err) := acceptUdpStreamsLoop expectedStreams serverPort timeout clientAddr
        rounds rest
      (peer :: peers, err)

def acceptUdpStreams (expectedStreams serverPort timeout : Nat) (clientAddr : SocketAddr)
    (rounds : Nat → UdpRound) : List SocketAddr × Option UdpAcceptError :=
  acceptUdpStreamsLoop expectedStreams serverPort timeout clientAddr rounds
    (List.range expectedStreams)

/-- An admitted client at `192.0.2.1` starts a one-stream UDP test, and the first datagram on
the port comes from `198.51.100.7`, which the admission check refuses: the stream is
connected to it. -/
theorem udp_stream_connected_to_unadmitted_peer :
    let config : Iperf3Config := { Iperf3Config.default with requireAuth := true }
    let admission := allowListRun [.add (.v4 0xc0000201#32)]
    let client : SocketAddr := ⟨.v4 0xc0000201#32, 40000⟩
    let stranger : SocketAddr := ⟨.v4 0xc6336407#32, 40001⟩
    admission.isIpAllowed config client.ip = true ∧
      acceptUdpStreams 1 5201 10000000000 client
          (fun _ => ⟨0, true, .datagram stranger, true, true⟩) = ([stranger], none) ∧
      admission.isIpAllowed config stranger.ip = false := by
  decide

end Netpoke
