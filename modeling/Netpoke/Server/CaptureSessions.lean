import Netpoke.Server.PacketCapture
import Netpoke.Server.Diagnostics

/-!
# Survey tags over the lives of peer connections

When a peer connection starts a survey (`StartSurveySession` in `server/src/data_channels.rs`),
the client address the stats loop stored for it (`peer_address`) is registered with the capture
service under the survey session, with server port 0. A connection whose address is not yet
known is not registered, and the registration is not retried. From then on the capture thread
tags with that survey every frame whose source or destination is the address
(`extract_session_id_from_packet`), and `generate_pcap_for_session` writes the frames with the
survey's tag. None of the teardown paths (`cleanup_client_handler`, the ICMP-error threshold in
`main`, the peer's disconnect) calls `unregister_session`: a registration outlives its
connection.

Over every run (`survey_tags_outlive_connections`), a teardown leaves the registry as it was,
the registry maps an address to the survey of the last registration at it whether or not that
connection is still open, and the port fallback never finds a session. A connection that starts
a survey and closes, followed by a connection from the same address that starts none, gets the
second connection's frames written into the first survey's pcap.
-/

namespace Netpoke

/-- What the server keeps of a peer connection: the client address the stats loop stored, whether
it is still open, and the surveys it started. -/
structure PeerConnection where
  peerAddress : Option SocketAddr
  isOpen : Bool
  surveys : List (List Char)
  deriving DecidableEq, Repr

/-- The peer connections in the order they opened, the session registry, and the capture
service. -/
structure CaptureSystem where
  connections : List PeerConnection
  registry : SessionRegistry
  capture : PacketCaptureService

inductive CaptureAction
  /-- a peer connection opens -/
  | connected
  /-- the stats loop stores the remote address of connection `conn`'s selected candidate pair -/
  | peerAddressStored (conn : Nat) (addr : SocketAddr)
  /-- connection `conn` receives `StartSurveySession` -/
  | surveyStarted (conn : Nat) (surveySessionId : List Char)
  /-- connection `conn` is torn down, by `cleanup_client_handler`, the ICMP-error threshold or
  the peer -/
  | closed (conn : Nat)
  /-- libpcap delivers a frame -/
  | captured (tsSec tsUsec : Int) (origLen : Nat) (data : List UInt8)

/-- What a step shows: the registration of an address with a survey. -/
inductive CaptureNote
  | quiet
  | registered (clientAddr : SocketAddr) (surveySessionId : List Char)
  deriving DecidableEq, Repr

/-- The tag `add_packet` gives a frame; the extraction never panics
(`extractSessionIdFromPacket_ne_none`). -/
def captureTag (registry : SessionRegistry) (data : List UInt8) : Option (List Char) :=
  (extractSessionIdFromPacket registry data).getD none

namespace CaptureSystem

/-- The server before any connection: an empty registry and an empty capture buffer. -/
def init (config : CaptureConfig) : CaptureSystem :=
  ⟨[], SessionRegistry.new, PacketCaptureService.new config⟩

/-- One step; `none` where the capture panics. -/
def step (s : CaptureSystem) : CaptureAction → Option (CaptureSystem × CaptureNote)
  | .connected => some ({ s with connections := s.connections ++ [⟨none, true, []⟩] }, .quiet)
  | .peerAddressStored conn addr =>
    some ({ s with connections := s.connections.modify conn fun c => { c with peerAddress := some addr } },
      .quiet)
  | .surveyStarted conn surveySessionId =>
    match s.connections[conn]? with
    | some c =>
      if c.isOpen then
        let connections :=
          s.connections.modify conn fun c => { c with surveys := c.surveys ++ [surveySessionId] }
        match c.peerAddress with
        | some clientAddr =>
          some ({ s with connections, registry := s.registry.register clientAddr 0 surveySessionId },
            .registered clientAddr surveySessionId)
        -- "capture registration deferred", and never retried
        | none => some ({ s with connections }, .quiet)
      else some (s, .quiet)
    | none => some (s, .quiet)
  -- no teardown path unregisters the connection's address
  | .closed conn =>
    some ({ s with connections := s.connections.modify conn fun c => { c with isOpen := false } }, .quiet)
  | .captured tsSec tsUsec origLen data =>
    (s.capture.addPacket (captureTag s.registry) tsSec tsUsec origLen data).map fun capture =>
      ({ s with capture }, .quiet)

/-- A run: the state after the steps and what each step showed; `none` where a step panics. -/
def run (s : CaptureSystem) (acts : List CaptureAction) : Option (CaptureSystem × List CaptureNote) :=
  acts.foldlM (fun sl a => (sl.1.step a).map fun sn => (sn.1, sl.2 ++ [sn.2])) (s, [])

@[simp]
theorem run_nil (s : CaptureSystem) : s.run [] = some (s, []) := rfl

theorem run_append_singleton (s : CaptureSystem) (acts : List CaptureAction) (a : CaptureAction) :
    s.run (acts ++ [a]) =
      (s.run acts).bind fun sl => (sl.1.step a).map fun sn => (sn.1, sl.2 ++ [sn.2]) := by
  simp [run, List.foldlM_append]

end CaptureSystem

/-! ### The registry -/

namespace SessionRegistry

theorem lookup_register (r : SessionRegistry) (clientAddr : SocketAddr) (serverPort : Nat)
    (surveySessionId : List Char) (addr : SocketAddr) :
    (r.register clientAddr serverPort surveySessionId).lookup addr =
      if addr = clientAddr then some surveySessionId else r.lookup addr := by
  unfold lookup
  show (r.addressToSession.insert clientAddr surveySessionId).get addr = _
  by_cases h : addr = clientAddr
  · rw [if_pos h, h, AssocMap.get_insert_self]
  · rw [if_neg h]
    exact AssocMap.get_insert_ne _ _ h

theorem serverPortToSession_register_zero (r : SessionRegistry) (clientAddr : SocketAddr)
    (surveySessionId : List Char) :
    (r.register clientAddr 0 surveySessionId).serverPortToSession = r.serverPortToSession := rfl

end SessionRegistry

/-- The survey a note registers at `addr`. -/
def CaptureNote.registeredAt (addr : SocketAddr) : CaptureNote → Option (List Char)
  | .registered clientAddr surveySessionId => if addr = clientAddr then some surveySessionId else none
  | .quiet => none

namespace CaptureSystem

/-- What a step can do to the registry: leave it and show nothing, or register one address with
server port `0`. -/
theorem step_registry {s s' : CaptureSystem} {a : CaptureAction} {note : CaptureNote}
    (h : s.step a = some (s', note)) :
    (s'.registry = s.registry ∧ note = .quiet) ∨
      ∃ clientAddr surveySessionId, s'.registry = s.registry.register clientAddr 0 surveySessionId ∧
        note = .registered clientAddr surveySessionId := by
  cases a with
  | connected | peerAddressStored | closed =>
    cases h
    exact .inl ⟨rfl, rfl⟩
  | surveyStarted conn surveySessionId =>
    simp only [step] at h
    split at h
    · split at h
      · split at h
        · rename_i clientAddr _
          cases h
          exact .inr ⟨clientAddr, surveySessionId, rfl, rfl⟩
        · cases h
          exact .inl ⟨rfl, rfl⟩
      · cases h
        exact .inl ⟨rfl, rfl⟩
    · cases h
      exact .inl ⟨rfl, rfl⟩
  | captured =>
    obtain ⟨capture, -, h⟩ := Option.map_eq_some_iff.mp h
    cases h
    exact .inl ⟨rfl, rfl⟩

/-- A step changes the registry only by its registration, and never its ports. -/
theorem registry_step {s s' : CaptureSystem} {a : CaptureAction} {note : CaptureNote}
    (h : s.step a = some (s', note)) :
    (∀ addr, s'.registry.lookup addr = (note.registeredAt addr).or (s.registry.lookup addr)) ∧
      s'.registry.serverPortToSession = s.registry.serverPortToSession := by
  rcases step_registry h with ⟨hreg, rfl⟩ | ⟨clientAddr, surveySessionId, hreg, rfl⟩
  · rw [hreg]
    exact ⟨fun _ => rfl, rfl⟩
  · rw [hreg]
    refine ⟨fun addr => ?_, SessionRegistry.serverPortToSession_register_zero _ _ _⟩
    rw [SessionRegistry.lookup_register]
    by_cases haddr : addr = clientAddr <;> simp [CaptureNote.registeredAt, haddr]

/-- After every run the registry maps each address to the survey of the last registration at
it, and no port to any session. -/
theorem registry_run {config : CaptureConfig} {acts : List CaptureAction} {s : CaptureSystem}
    {log : List CaptureNote} (h : (init config).run acts = some (s, log)) :
    (∀ addr, s.registry.lookup addr = (log.filterMap (CaptureNote.registeredAt addr)).getLast?) ∧
      s.registry.serverPortToSession = AssocMap.empty := by
  induction acts using List.reverseRecOn generalizing s log with
  | nil =>
    simp only [run_nil, Option.some.injEq, Prod.mk.injEq] at h
    obtain ⟨rfl, rfl⟩ := h
    exact ⟨fun _ => rfl, rfl⟩
  | append_singleton acts a ih =>
    rw [run_append_singleton] at h
    obtain ⟨⟨s₁, log₁⟩, h₁, h⟩ := Option.bind_eq_some_iff.mp h
    obtain ⟨⟨s₂, note⟩, hstep, h⟩ := Option.map_eq_some_iff.mp h
    simp only [Prod.mk.injEq] at h
    obtain ⟨rfl, rfl⟩ := h
    obtain ⟨hlookup, hports⟩ := ih h₁
    obtain ⟨hlookup', hports'⟩ := registry_step hstep
    refine ⟨fun addr => ?_, hports'.trans hports⟩
    rw [hlookup', hlookup, List.filterMap_append, List.getLast?_append]
    cases hnote : note.registeredAt addr <;> simp [hnote]

end CaptureSystem

/-! ### A survey's pcap after its connection closed -/

/-- The client address both connections come from. -/
def reusedClientAddr : SocketAddr := ⟨.v4 (ipv4OfBytes [10, 0, 0, 1]), 5000⟩

/-- An Ethernet frame of a UDP datagram from `10.0.0.1:5000` to the server at `10.0.0.2:3478`. -/
def reusedAddrFrame : List UInt8 :=
  [0, 0, 0, 0, 0, 2, 0, 0, 0, 0, 0, 1, 0x08, 0x00] ++
    [0x45, 0, 0, 28, 0, 0, 0, 0, 64, 17, 0, 0, 10, 0, 0, 1, 10, 0, 0, 2] ++
    [0x13, 0x88, 0x0D, 0x96, 0, 8, 0, 0]

/-- A connection from the address starts survey `s1` and is torn down; a new connection from the
same address starts no survey and sends one datagram. -/
def reusedAddrRun : List CaptureAction :=
  [.connected, .peerAddressStored 0 reusedClientAddr, .surveyStarted 0 "s1".toList, .closed 0,
    .connected, .peerAddressStored 1 reusedClientAddr, .captured 0 0 42 reusedAddrFrame]

/-- A capture buffer of ten packets. -/
def reusedAddrConfig : CaptureConfig := ⟨10, 65535, true⟩

theorem survey_tags_outlive_connections :
    (∀ (s : CaptureSystem) conn,
      ((s.step (.closed conn)).map fun sn => sn.1.registry) = some s.registry) ∧
    (∀ config acts (s : CaptureSystem) log, (CaptureSystem.init config).run acts = some (s, log) →
      (∀ addr, s.registry.lookup addr = (log.filterMap (CaptureNote.registeredAt addr)).getLast?) ∧
        ∀ port, s.registry.lookupByServerPort port = none) ∧
    ((CaptureSystem.init reusedAddrConfig).run reusedAddrRun).map
        (fun sl => (sl.1.connections, sl.1.capture.getPacketsForSession "s1".toList)) =
      some ([⟨some reusedClientAddr, false, ["s1".toList]⟩, ⟨some reusedClientAddr, true, []⟩],
        [⟨0, 0, 42, reusedAddrFrame, some "s1".toList⟩]) := by
  refine ⟨fun _ _ => rfl, fun config acts s log h => ?_, by decide⟩
  obtain ⟨hlookup, hports⟩ := CaptureSystem.registry_run h
  refine ⟨hlookup, fun port => ?_⟩
  simp [SessionRegistry.lookupByServerPort, hports]

end Netpoke
