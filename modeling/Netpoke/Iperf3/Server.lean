import Netpoke.Iperf3.Control

/-!
# The iperf3 accept loop and its data streams

Every TCP connection to the iperf3 port goes through the accept loop of `Iperf3Server::run`
(`iperf3-server/src/server.rs`). A peer that `is_ip_allowed` refuses, and any connection while
`session_count() >= max_sessions`, is sent the one byte of `ACCESS_DENIED` and closed
(`send_access_denied`). The others go to a `handle_session` task, which reads the 37-byte cookie:
a cookie of a session in the table makes the connection a data stream of that session
(`add_data_stream`), any other starts a new session under that cookie. A session leaves the table
when its `run_session_protocol` returns.

The model adds the data streams of each session, and what was written to refused connections, to
the session table of `Iperf3.Limits`, which it refines (`serverRun_table`).

The limit counts sessions, but the accept loop applies it to every connection, before the cookie
says what the connection is for. An iperf3 client opens its data streams only after the server has
sent `CREATE_STREAMS`, when its session is already in the table. So once the table is full, until a
session finishes, every connection is refused and no session gains a data stream, except from
connections accepted before the table filled (`full_table_refuses_data_streams`). With
`max_sessions` TCP tests running, or one when `max_sessions = 1`, the last session's data streams
are refused and its wait for them ends in the stream timeout.
-/

namespace Netpoke

namespace Iperf3

/-- What `send_access_denied` writes before the connection is closed. -/
def accessDeniedBytes : List UInt8 :=
  [State.accessDenied.toByte]

/-- The server's TCP connections: the sessions by cookie with the number of TCP data streams
each holds (`data_streams.len()`), the connections whose `handle_session` has not read the cookie
yet, and the refused connections with what was written to them. -/
structure ServerState where
  sessions : AssocMap (List Char) Nat
  waiting : List Nat
  refused : List (Nat × List UInt8)

/-- The state `Iperf3Server::new` starts from. -/
def ServerState.new : ServerState :=
  ⟨AssocMap.empty, [], []⟩

/-- What happens to the server's connections. -/
inductive ServerEvent
  /-- the listener accepts a connection from a peer -/
  | accept (conn : Nat) (peer : IpAddr)
  /-- `handle_session` has read the connection's cookie -/
  | cookie (conn : Nat) (cookie : List Char)
  /-- `read_exact` of the cookie failed, and `handle_session` returned its error -/
  | cookieEof (conn : Nat)
  /-- `run_session_protocol` of a session has returned -/
  | finish (cookie : List Char)

variable (config : Iperf3Config) (admission : Iperf3Admission)

/-- One event: the accept loop's two checks, then `handle_session`. -/
def serverStep (s : ServerState) : ServerEvent → ServerState
  | .accept conn peer =>
    if !Iperf3Admission.isIpAllowed config admission peer then
      { s with refused := s.refused ++ [(conn, accessDeniedBytes)] }
    else if s.sessions.size ≥ config.maxSessions then
      { s with refused := s.refused ++ [(conn, accessDeniedBytes)] }
    else { s with waiting := s.waiting ++ [conn] }
  | .cookie conn cookie =>
    if conn ∈ s.waiting then
      match s.sessions.get cookie with
      -- a data stream of a session in the table
      | some streams => ⟨s.sessions.insert cookie (streams + 1), s.waiting.erase conn, s.refused⟩
      -- a new control connection
      | none => ⟨s.sessions.insert cookie 0, s.waiting.erase conn, s.refused⟩
    else s
  | .cookieEof conn => { s with waiting := s.waiting.erase conn }
  | .finish cookie => { s with sessions := s.sessions.erase cookie }

def serverRun (s : ServerState) (events : List ServerEvent) : ServerState :=
  events.foldl (serverStep config admission) s

/-- The data streams a session holds, none for a cookie not in the table. -/
def ServerState.streams (s : ServerState) (cookie : List Char) : Nat :=
  (s.sessions.get cookie).getD 0

theorem serverRun_cons (s : ServerState) (event : ServerEvent) (events : List ServerEvent) :
    serverRun config admission s (event :: events) =
      serverRun config admission (serverStep config admission s event) events :=
  rfl

def ServerEvent.isFinish : ServerEvent → Bool
  | .finish _ => true
  | _ => false

/-! ### Refining the session table -/

/-- The session table of `Iperf3.Limits` a state shows: the same cookies, up to order, and the
same waiting connections. -/
def ServerState.Shows (s : ServerState) (t : SessionTable) : Prop :=
  (s.sessions.entries.map Prod.fst).Perm (t.sessions.entries.map Prod.fst) ∧ s.waiting = t.waiting

/-- The event of the session table an event is: an accepted connection that the peer check
refuses never reaches it, and the table has no failed cookie read. -/
def ServerEvent.toSessionEvent : ServerEvent → Option SessionEvent
  | .accept conn peer =>
    if Iperf3Admission.isIpAllowed config admission peer then some (.accept conn) else none
  | .cookie conn received => some (.cookie conn received)
  | .cookieEof _ => none
  | .finish received => some (.finish received)

theorem containsKey_of_keys_perm {β γ : Type} {m : AssocMap (List Char) β}
    {m' : AssocMap (List Char) γ} (h : (m.entries.map Prod.fst).Perm (m'.entries.map Prod.fst))
    (k : List Char) : m.containsKey k = m'.containsKey k := by
  apply Bool.eq_iff_iff.mpr
  rw [AssocMap.containsKey_iff_mem, AssocMap.containsKey_iff_mem]
  exact h.mem_iff

/-- One event keeps the table a state shows in step with the session table's own step. -/
theorem ServerState.Shows.step {s : ServerState} {t : SessionTable} (h : s.Shows t)
    (event : ServerEvent) (heof : ∀ conn, event ≠ .cookieEof conn) :
    (serverStep config admission s event).Shows
      (match event.toSessionEvent config admission with
        | some e => sessionTableStep config.maxSessions t e
        | none => t) := by
  obtain ⟨hkeys, hwaiting⟩ := h
  have hsize : s.sessions.size = t.sessions.entries.length := by
    rw [AssocMap.size, ← List.length_map Prod.fst, hkeys.length_eq, List.length_map]
  cases event with
  | accept conn peer =>
    by_cases hallowed : Iperf3Admission.isIpAllowed config admission peer = true
    · simp only [serverStep, ServerEvent.toSessionEvent, hallowed, if_true, sessionTableStep,
        Bool.not_true, Bool.false_eq_true, if_false, hsize]
      split_ifs
      · exact ⟨hkeys, hwaiting⟩
      · exact ⟨hkeys, by rw [hwaiting]⟩
    · simp only [serverStep, ServerEvent.toSessionEvent, hallowed, if_false, Bool.not_false,
        if_true, Bool.false_eq_true]
      exact ⟨hkeys, hwaiting⟩
  | cookie conn cookie =>
    have hknown := containsKey_of_keys_perm hkeys cookie
    simp only [serverStep, ServerEvent.toSessionEvent, sessionTableStep, ← hwaiting]
    by_cases hconn : conn ∈ s.waiting
    · rw [if_pos hconn, if_pos hconn]
      cases hget : s.sessions.get cookie with
      | some streams =>
        have hcontains := (AssocMap.containsKey_iff _ _).mpr ⟨streams, hget⟩
        rw [← hknown, if_pos hcontains]
        exact ⟨(AssocMap.keys_insert_perm hcontains _).trans hkeys, rfl⟩
      | none =>
        have hcontains := (AssocMap.get_eq_none_iff _ _).mp hget
        rw [← hknown, hcontains]
        simp only [Bool.false_eq_true, if_false]
        refine ⟨?_, rfl⟩
        rw [AssocMap.keys_insert, AssocMap.keys_insert]
        exact (hkeys.filter _).cons cookie
    · rw [if_neg hconn, if_neg hconn]
      exact ⟨hkeys, hwaiting⟩
  | cookieEof conn => exact absurd rfl (heof conn)
  | finish cookie =>
    simp only [serverStep, ServerEvent.toSessionEvent, sessionTableStep]
    refine ⟨?_, hwaiting⟩
    rw [AssocMap.keys_erase, AssocMap.keys_erase]
    exact hkeys.filter _

/-- Without failed cookie reads, the server's run shows the session table's run on its events:
the same sessions and the same waiting connections. -/
theorem serverRun_table (events : List ServerEvent)
    (heof : ∀ e ∈ events, ∀ conn, e ≠ .cookieEof conn) :
    (serverRun config admission .new events).Shows
      (sessionTableRun config.maxSessions (events.filterMap (ServerEvent.toSessionEvent config
        admission))) := by
  suffices h : ∀ (s : ServerState) (t : SessionTable), s.Shows t →
      (serverRun config admission s events).Shows
        ((events.filterMap (ServerEvent.toSessionEvent config admission)).foldl
          (sessionTableStep config.maxSessions) t) from
    h _ _ ⟨List.Perm.refl _, rfl⟩
  induction events with
  | nil => exact fun s t h => h
  | cons event events ih =>
    intro s t h
    have hstep := h.step config admission event (heof event List.mem_cons_self)
    have hrest := ih (fun e he => heof e (List.mem_cons_of_mem _ he)) _ _ hstep
    rw [serverRun_cons, List.filterMap_cons]
    cases hevent : event.toSessionEvent config admission with
    | none => simpa [hevent] using hrest
    | some e => simpa [hevent] using hrest

/-- A control connection and its session, a connection refused while the table of one is full,
and the session's end. -/
def exampleServerEvents : List ServerEvent :=
  [.accept 1 (.v4 0xC0000201#32), .cookie 1 "c".toList, .accept 2 (.v4 0xC0000201#32),
    .finish "c".toList]

theorem serverRun_table_one_session :
    (∀ e ∈ exampleServerEvents, ∀ conn, e ≠ .cookieEof conn) ∧
      (serverRun { Iperf3Config.default with maxSessions := 1 } .new .new exampleServerEvents).Shows
        (sessionTableRun 1 (exampleServerEvents.filterMap
          (ServerEvent.toSessionEvent { Iperf3Config.default with maxSessions := 1 } .new))) := by
  have heof : ∀ e ∈ exampleServerEvents, ∀ conn, e ≠ .cookieEof conn := by
    intro e he conn
    simp only [exampleServerEvents, List.mem_cons, List.not_mem_nil, or_false] at he
    rcases he with rfl | rfl | rfl | rfl <;> simp
  exact ⟨heof, serverRun_table _ _ exampleServerEvents heof⟩

/-! ### A full table refuses every connection -/

/-- A refusal, once written, stays: every event only adds to the refusals. -/
theorem refused_prefix_serverStep (s : ServerState) (event : ServerEvent) :
    s.refused <+: (serverStep config admission s event).refused := by
  cases event with
  | accept conn peer =>
    simp only [serverStep]
    split_ifs
    · exact List.prefix_append _ _
    · exact List.prefix_append _ _
    · exact List.prefix_refl _
  | cookie conn cookie =>
    simp only [serverStep]
    split_ifs
    · cases s.sessions.get cookie <;> exact List.prefix_refl _
    · exact List.prefix_refl _
  | cookieEof conn => exact List.prefix_refl _
  | finish cookie => exact List.prefix_refl _

theorem refused_prefix_serverRun (s : ServerState) (events : List ServerEvent) :
    s.refused <+: (serverRun config admission s events).refused := by
  induction events generalizing s with
  | nil => exact List.prefix_refl _
  | cons event events ih =>
    rw [serverRun_cons]
    exact (refused_prefix_serverStep config admission s event).trans (ih _)

/-- What holds from a state with a full table over events that end no session: the table stays
full, the waiting connections only leave, a session gains a data stream only from one of them,
and refusals are only added. -/
structure StaysFull (s₀ s : ServerState) : Prop where
  full : config.maxSessions ≤ s.sessions.size
  waiting : s.waiting.Sublist s₀.waiting
  streams : ∀ c, s.streams c + s.waiting.length ≤ s₀.streams c + s₀.waiting.length
  refused : s₀.refused <+: s.refused

theorem StaysFull.refl {s : ServerState} (hfull : config.maxSessions ≤ s.sessions.size) :
    StaysFull config s s :=
  ⟨hfull, List.Sublist.refl _, fun _ => le_refl _, List.prefix_refl _⟩

/-- A connection a `handle_session` takes from the waiting ones adds at most one data stream, to
the session it names. -/
theorem streams_take_waiting {s : ServerState} {conn : Nat} (hconn : conn ∈ s.waiting)
    (cookie : List Char) (v : Nat) (hv : v ≤ s.streams cookie + 1) (c : List Char) :
    (⟨s.sessions.insert cookie v, s.waiting.erase conn, s.refused⟩ : ServerState).streams c +
        (s.waiting.erase conn).length ≤ s.streams c + s.waiting.length := by
  have hlen := List.length_erase_of_mem hconn
  have hpos := List.length_pos_of_mem hconn
  by_cases hc : c = cookie
  · subst hc
    simp only [ServerState.streams, AssocMap.get_insert_self, Option.getD_some] at hv ⊢
    omega
  · simp only [ServerState.streams, AssocMap.get_insert_ne _ _ hc]
    omega

/-- A waiting connection's cookie stores, under that cookie, one more data stream or a new
session with none. -/
theorem serverStep_cookie_of_mem {s : ServerState} {conn : Nat} (hconn : conn ∈ s.waiting)
    (cookie : List Char) :
    ∃ v, v ≤ s.streams cookie + 1 ∧ serverStep config admission s (.cookie conn cookie) =
      ⟨s.sessions.insert cookie v, s.waiting.erase conn, s.refused⟩ := by
  cases hget : s.sessions.get cookie with
  | some streams =>
    refine ⟨streams + 1, by simp [ServerState.streams, hget], ?_⟩
    simp [serverStep, hconn, hget]
  | none =>
    refine ⟨0, Nat.zero_le _, ?_⟩
    simp [serverStep, hconn, hget]

/-- One event that ends no session, from a full table: it keeps the invariant, and an accepted
connection is refused. -/
theorem StaysFull.step {s₀ s : ServerState} (h : StaysFull config s₀ s) (event : ServerEvent)
    (hfinish : event.isFinish = false) :
    StaysFull config s₀ (serverStep config admission s event) ∧
      ∀ conn peer, event = .accept conn peer →
        (conn, accessDeniedBytes) ∈ (serverStep config admission s event).refused := by
  obtain ⟨hfull, hwaiting, hstreams, hrefused⟩ := h
  cases event with
  | accept conn peer =>
    have hstep : serverStep config admission s (.accept conn peer) =
        { s with refused := s.refused ++ [(conn, accessDeniedBytes)] } := by
      simp only [serverStep]
      split_ifs with hallowed
      · rfl
      · rfl
    rw [hstep]
    refine ⟨⟨hfull, hwaiting, hstreams, hrefused.trans (List.prefix_append _ _)⟩, ?_⟩
    rintro conn' peer' ⟨rfl, rfl⟩
    simp
  | cookie conn cookie =>
    by_cases hconn : conn ∈ s.waiting
    · obtain ⟨v, hv, hstep⟩ := serverStep_cookie_of_mem config admission hconn cookie
      rw [hstep]
      refine ⟨⟨hfull.trans (AssocMap.size_le_size_insert _ _ _),
        (@List.erase_sublist _ _ conn s.waiting).trans hwaiting,
        fun c => (streams_take_waiting hconn cookie v hv c).trans (hstreams c), hrefused⟩,
        fun _ _ h => by cases h⟩
    · have hstep : serverStep config admission s (.cookie conn cookie) = s := by
        simp [serverStep, hconn]
      rw [hstep]
      exact ⟨⟨hfull, hwaiting, hstreams, hrefused⟩, fun _ _ h => by cases h⟩
  | cookieEof conn =>
    refine ⟨⟨hfull, (List.erase_sublist).trans hwaiting, fun c => ?_, hrefused⟩,
      fun _ _ h => by cases h⟩
    have hlen := @List.length_erase_le _ _ conn s.waiting
    have hc := hstreams c
    simp only [serverStep, ServerState.streams] at hc ⊢
    omega
  | finish cookie => cases hfinish

/-- With a full table, until a session ends, every connection the listener accepts is sent
`ACCESS_DENIED`, whatever its cookie: the waiting connections only leave, and a session gains a
data stream only from a connection accepted before the table filled. -/
theorem full_table_refuses_data_streams (s : ServerState) (events : List ServerEvent)
    (hfull : config.maxSessions ≤ s.sessions.size)
    (hnofinish : ∀ e ∈ events, e.isFinish = false) :
    (serverRun config admission s events).waiting.Sublist s.waiting ∧
      (∀ cookie, (serverRun config admission s events).streams cookie ≤
        s.streams cookie + s.waiting.length) ∧
      ∀ conn peer, ServerEvent.accept conn peer ∈ events →
        (conn, accessDeniedBytes) ∈ (serverRun config admission s events).refused := by
  -- induction on the run, carrying the invariant from the start
  suffices hrun : ∀ s' : ServerState, StaysFull config s s' →
      StaysFull config s (serverRun config admission s' events) ∧
        ∀ conn peer, ServerEvent.accept conn peer ∈ events →
          (conn, accessDeniedBytes) ∈ (serverRun config admission s' events).refused by
    obtain ⟨hinv, haccepted⟩ := hrun s (StaysFull.refl config hfull)
    refine ⟨hinv.waiting, fun cookie => ?_, haccepted⟩
    have h := hinv.streams cookie
    omega
  induction events with
  | nil => exact fun s' h => ⟨h, fun _ _ hmem => absurd hmem List.not_mem_nil⟩
  | cons event events ih =>
    intro s' h
    obtain ⟨hstep, hrefused⟩ := h.step config admission event
      (hnofinish event List.mem_cons_self)
    obtain ⟨hinv, haccepted⟩ := ih (fun e he => hnofinish e (List.mem_cons_of_mem _ he)) _ hstep
    refine ⟨hinv, fun conn peer hmem => ?_⟩
    rcases List.mem_cons.mp hmem with heq | hmem
    · have hnow := hrefused conn peer heq.symm
      rw [serverRun_cons]
      exact (refused_prefix_serverRun config admission _ events).subset hnow
    · exact haccepted conn peer hmem

/-- A server that takes one test at a time. -/
def singleSessionConfig : Iperf3Config := { Iperf3Config.default with maxSessions := 1 }

def examplePeer : IpAddr := .v4 0xc0a80002#32

/-- The table once a client's control connection has sent its cookie `A`. -/
def controlConnected : ServerState :=
  serverRun singleSessionConfig .new .new [.accept 1 examplePeer, .cookie 1 "A".toList]

theorem full_table_refuses_data_streams_single :
    singleSessionConfig.maxSessions ≤ controlConnected.sessions.size ∧
      (∀ e ∈ [ServerEvent.accept 2 examplePeer, .cookie 2 "A".toList], e.isFinish = false) ∧
      ((serverRun singleSessionConfig .new controlConnected
          [.accept 2 examplePeer, .cookie 2 "A".toList]).waiting.Sublist controlConnected.waiting ∧
        (∀ cookie, (serverRun singleSessionConfig .new controlConnected
            [.accept 2 examplePeer, .cookie 2 "A".toList]).streams cookie ≤
          controlConnected.streams cookie + controlConnected.waiting.length) ∧
        ∀ conn peer, ServerEvent.accept conn peer ∈
            [ServerEvent.accept 2 examplePeer, .cookie 2 "A".toList] →
          (conn, accessDeniedBytes) ∈ (serverRun singleSessionConfig .new controlConnected
            [.accept 2 examplePeer, .cookie 2 "A".toList]).refused) :=
  have hfull : singleSessionConfig.maxSessions ≤ controlConnected.sessions.size := by decide
  have hnofinish : ∀ e ∈ [ServerEvent.accept 2 examplePeer, .cookie 2 "A".toList],
      e.isFinish = false := by decide
  ⟨hfull, hnofinish, full_table_refuses_data_streams singleSessionConfig .new controlConnected
    [.accept 2 examplePeer, .cookie 2 "A".toList] hfull hnofinish⟩

/-- The session's one data stream is refused: it never holds a stream. -/
example : (serverRun singleSessionConfig .new controlConnected
      [.accept 2 examplePeer, .cookie 2 "A".toList]).streams "A".toList = 0 := by
  decide

end Iperf3

end Netpoke
