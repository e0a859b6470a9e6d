import Netpoke.Server.IcmpCorrelation
import Netpoke.Library.Mailbox

/-!
# ICMP events over whole runs of the tracker

Four kinds of task share the `PacketTracker` (`server/src/packet_tracker.rs`):
`tracking_receiver_task` puts the packets the UDP layer reports into the checksum index, the
cleanup task expires them, the two ICMP listener tasks match errors against the index and queue
events, and each traceroute round drains the events of its connection
(`drain_events_for_conn_id`, then the `expect` on the TTL in `drain_traceroute_events` and
`drain_mtu_events`). The only sender of tracking messages is `main`'s global tracking callback,
which forwards a packet only when it was sent with a TTL. `match_icmp_error` releases the index
lock before it takes the queue lock, so a run interleaves the two halves of each match
(`icmpMatched`, `eventQueued`) with every other step; each other step is one critical section.
The atomic `matchIcmpError` is the two halves run back to back (`matchIcmpError_eq_halves`).

Over every run from the empty tracker (`icmp_events_delivered_once`): a drain returns, in
queueing order, exactly the events queued for its connection since that connection's previous
drain, and leaves the others queued in order, so each event goes to the first drain of its
connection after it is queued and to no other (the mailboxes of `Mailbox`); the events a
listener queues are, one each and in order, those of the packets it removed from the index; and
every event carries a TTL, so the `expect` never panics.

The dashboard's `/api/tracking/events` and `/api/tracking/stats` take the whole queue with the
deprecated `drain_events`; they are not steps of these runs.
-/

namespace Netpoke

/-- `main`'s global tracking callback: a packet sent with a TTL is tracked for five seconds under
send options that carry the TTL; any other is not tracked. -/
def trackingCallback (destAddr : SocketAddr) (srcAddr : Option SocketAddr) (udpLength : Nat)
    (ttl : Option UInt8) (cleartext : List UInt8) (sentAt : Nat) (connId : List Char)
    (udpChecksum : Nat) : Option UdpPacketInfo :=
  ttl.map fun ttlValue =>
    ⟨destAddr, srcAddr, udpLength, cleartext, ⟨some ttlValue, 5000⟩, sentAt, connId, udpChecksum⟩

namespace PacketTracker

/-- The first half of `match_icmp_error`, under the index lock: the checksum lookup, which
removes the entry it finds. -/
def takeTracked (t : PacketTracker) (info : EmbeddedUdpInfo) :
    PacketTracker × Option TrackedPacket :=
  let checksumKey : ChecksumKey := ⟨info.destAddr, info.udpLength, info.udpChecksum⟩
  let found := if info.udpChecksum ≠ 0 then t.checksumIndex.get checksumKey else none
  ({ t with
      checksumIndex := if found.isSome then t.checksumIndex.erase checksumKey else t.checksumIndex },
    found)

/-- The event the second half queues for a packet matched at `now`; `none` when the `u16` sum of
the quoted IP length panics. -/
def matchedEvent (tracked : TrackedPacket) (icmpPacket : List UInt8) (isIp6 : Bool)
    (info : EmbeddedUdpInfo) (routerIp : Option (List Char)) (now : Nat) :
    Option TrackedPacketEvent :=
  let trackedIpLength := info.udpLength + if isIp6 then 40 else 20
  if trackedIpLength ≥ 2 ^ 16 then none
  else
    some ⟨icmpPacket, tracked.udpPacket, trackedIpLength, tracked.cleartext, tracked.sentAt, now,
      tracked.sendOptions, routerIp, tracked.connId, info.srcPort, info.destAddr⟩

/-- `drain_events_for_conn_id`: the loop over `queue.drain(..)` partitions the queue. -/
def drainEventsForConnId (t : PacketTracker) (connId : List Char) :
    PacketTracker × List TrackedPacketEvent :=
  let (matching, remaining) := Mailbox.takeFrom TrackedPacketEvent.connId t.eventQueue connId
  ({ t with eventQueue := remaining }, matching)

theorem matchIcmpError_eq_halves (t : PacketTracker) (icmpPacket : List UInt8)
    (icmpClass : IcmpMessageClass) (isIp6 : Bool) (info : EmbeddedUdpInfo)
    (routerIp : Option (List Char)) (now : Nat) :
    t.matchIcmpError icmpPacket icmpClass isIp6 info routerIp now =
      match t.takeTracked info with
      | (t', some tracked) =>
        (matchedEvent tracked icmpPacket isIp6 info routerIp now).map fun event =>
          ({ t' with eventQueue := t'.eventQueue ++ [event] }, none)
      | (t', none) =>
        some (t', if icmpClass = .error ∧ t.hasCallback = true then some info else none) := by
  unfold matchIcmpError takeTracked matchedEvent
  dsimp only
  split
  · rename_i tracked hfound
    rw [hfound]
    split_ifs <;> rfl
  · rename_i hfound
    rw [hfound]

theorem eventQueue_trackPacket (t : PacketTracker) (info : UdpPacketInfo) :
    (t.trackPacket info).eventQueue = t.eventQueue := by
  unfold trackPacket
  split_ifs <;> rfl

theorem eventQueue_takeTracked {t t' : PacketTracker} {info : EmbeddedUdpInfo}
    {found : Option TrackedPacket} (h : t.takeTracked info = (t', found)) :
    t'.eventQueue = t.eventQueue := by
  unfold takeTracked at h
  cases h
  rfl

theorem takeTracked_some {t t' : PacketTracker} {info : EmbeddedUdpInfo} {tracked : TrackedPacket}
    (h : t.takeTracked info = (t', some tracked)) :
    info.udpChecksum ≠ 0 ∧
      t.checksumIndex.get ⟨info.destAddr, info.udpLength, info.udpChecksum⟩ = some tracked ∧
      t'.checksumIndex.get ⟨info.destAddr, info.udpLength, info.udpChecksum⟩ = none := by
  unfold takeTracked at h
  by_cases hzero : info.udpChecksum ≠ 0
  · simp only [if_pos hzero, Prod.mk.injEq] at h
    obtain ⟨rfl, hget⟩ := h
    rw [hget]
    exact ⟨hzero, rfl, AssocMap.get_erase_self _ _⟩
  · simp only [if_neg hzero, Prod.mk.injEq, reduceCtorEq, and_false] at h

theorem get_takeTracked (t : PacketTracker) (info : EmbeddedUdpInfo) (k : ChecksumKey) :
    (t.takeTracked info).1.checksumIndex.get k = none ∨
      (t.takeTracked info).1.checksumIndex.get k = t.checksumIndex.get k := by
  unfold takeTracked
  dsimp only
  cases (if info.udpChecksum ≠ 0 then
      t.checksumIndex.get ⟨info.destAddr, info.udpLength, info.udpChecksum⟩ else none).isSome
  · exact .inr rfl
  · by_cases hk : k = ⟨info.destAddr, info.udpLength, info.udpChecksum⟩
    · exact .inl (hk ▸ AssocMap.get_erase_self _ _)
    · exact .inr (AssocMap.get_erase_ne _ hk)

theorem matchedEvent_sendOptions {tracked : TrackedPacket} {icmpPacket : List UInt8}
    {isIp6 : Bool} {info : EmbeddedUdpInfo} {routerIp : Option (List Char)} {now : Nat}
    {event : TrackedPacketEvent} (h : matchedEvent tracked icmpPacket isIp6 info routerIp now = some event) :
    event.sendOptions = tracked.sendOptions ∧ event.connId = tracked.connId := by
  unfold matchedEvent at h
  simp only [Option.ite_none_left_eq_some, Option.some.injEq] at h
  obtain ⟨-, rfl⟩ := h
  exact ⟨rfl, rfl⟩

theorem drainEventsForConnId_eq (t : PacketTracker) (connId : List Char) :
    t.drainEventsForConnId connId =
      ({ t with eventQueue := (Mailbox.takeFrom TrackedPacketEvent.connId t.eventQueue connId).2 },
        (Mailbox.takeFrom TrackedPacketEvent.connId t.eventQueue connId).1) := by
  unfold drainEventsForConnId
  cases Mailbox.takeFrom TrackedPacketEvent.connId t.eventQueue connId
  rfl

end PacketTracker

/-- The two tasks of `start_icmp_listener`. -/
inductive Listener
  | v4
  | v6
  deriving DecidableEq, Repr

def Listener.isIp6 : Listener → Bool
  | .v4 => false
  | .v6 => true

/-- Where a listener task is: between datagrams, inside a match with the event of the packet it
removed still to queue, or ended by the panic of the `u16` sum. -/
inductive ListenerPhase
  | idle
  | queueing (event : TrackedPacketEvent)
  | stopped
  deriving DecidableEq, Repr

/-- The event a listener holds between the two halves of a match. -/
def ListenerPhase.held : ListenerPhase → Option TrackedPacketEvent
  | .queueing event => some event
  | _ => none

/-- The tracker with the tracking channel and the two listener tasks. -/
structure TrackerSystem where
  channel : List UdpPacketInfo
  tracker : PacketTracker
  phase : Listener → ListenerPhase

/-- What one task does in one critical section. -/
inductive TrackerAction
  /-- the UDP layer sends a datagram and calls the global tracking callback -/
  | udpSent (destAddr : SocketAddr) (srcAddr : Option SocketAddr) (udpLength : Nat)
      (ttl : Option UInt8) (cleartext : List UInt8) (sentAt : Nat) (connId : List Char)
      (udpChecksum : Nat)
  /-- `tracking_receiver_task` takes the next tracking message -/
  | trackingReceived
  /-- a tick of the cleanup task -/
  | cleanupTick (now : Nat)
  /-- a listener reads an ICMP error and runs `match_icmp_error` to the release of the index
  lock -/
  | icmpMatched (l : Listener) (icmpPacket : List UInt8) (icmpClass : IcmpMessageClass)
      (info : EmbeddedUdpInfo) (routerIp : Option (List Char)) (now : Nat)
  /-- the listener queues the event of its match -/
  | eventQueued (l : Listener)
  /-- a traceroute round drains the events of its connection -/
  | drained (connId : List Char)

/-- What a step shows: a packet a listener removed from the index, with the event it makes of
it; an event queued; the events a drain returned. -/
inductive TrackerNote
  | quiet
  | removed (l : Listener) (tracked : TrackedPacket) (event : Option TrackedPacketEvent)
  | queued (l : Listener) (event : TrackedPacketEvent)
  | drained (connId : List Char) (events : List TrackedPacketEvent)

namespace TrackerSystem

/-- The tracker `PacketTracker::new` makes, before any task ran. -/
def init (hasCallback : Bool) : TrackerSystem :=
  ⟨[], ⟨AssocMap.empty, [], hasCallback⟩, fun _ => .idle⟩

def step (s : TrackerSystem) : TrackerAction → TrackerSystem × TrackerNote
  | .udpSent destAddr srcAddr udpLength ttl cleartext sentAt connId udpChecksum =>
    ({ s with
        channel := s.channel ++
          (trackingCallback destAddr srcAddr udpLength ttl cleartext sentAt connId udpChecksum).toList },
      .quiet)
  | .trackingReceived =>
    match s.channel with
    | [] => (s, .quiet)
    | info :: rest => ({ s with channel := rest, tracker := s.tracker.trackPacket info }, .quiet)
  | .cleanupTick now => ({ s with tracker := s.tracker.cleanupExpired now }, .quiet)
  | .icmpMatched l icmpPacket _ info routerIp now =>
    match s.phase l with
    | .idle =>
      match s.tracker.takeTracked info with
      | (t', some tracked) =>
        let event := PacketTracker.matchedEvent tracked icmpPacket l.isIp6 info routerIp now
        ({ s with
            tracker := t'
            phase := Function.update s.phase l
              (match event with
                | some event => .queueing event
                | none => .stopped) },
          .removed l tracked event)
      -- an unmatched error goes to the callback, which leaves the tracker alone
      | (t', none) => ({ s with tracker := t' }, .quiet)
    -- a task inside a match, or ended, reads no datagram
    | _ => (s, .quiet)
  | .eventQueued l =>
    match s.phase l with
    | .queueing event =>
      ({ s with
          tracker := { s.tracker with eventQueue := s.tracker.eventQueue ++ [event] }
          phase := Function.update s.phase l .idle },
        .queued l event)
    | _ => (s, .quiet)
  | .drained connId =>
    let (t', events) := s.tracker.drainEventsForConnId connId
    ({ s with tracker := t' }, .drained connId events)

/-- A run: the state after the steps, and what each step showed. -/
def run (s : TrackerSystem) (acts : List TrackerAction) : TrackerSystem × List TrackerNote :=
  acts.foldl (fun sl a => ((sl.1.step a).1, sl.2 ++ [(sl.1.step a).2])) (s, [])

@[simp]
theorem run_append_singleton (s : TrackerSystem) (acts : List TrackerAction) (a : TrackerAction) :
    s.run (acts ++ [a]) =
      (((s.run acts).1.step a).1, (s.run acts).2 ++ [((s.run acts).1.step a).2]) := by
  simp [run, List.foldl_append]

theorem step_drained_eq (s : TrackerSystem) (connId : List Char) :
    s.step (.drained connId) =
      ({ s with tracker := (s.tracker.drainEventsForConnId connId).1 },
        .drained connId (s.tracker.drainEventsForConnId connId).2) := by
  dsimp only [step]

end TrackerSystem

/-! ### The queue -/

/-- What a note does to the queue, as an operation on mailboxes. -/
def TrackerNote.mailOp : TrackerNote → Option (Mailbox.Op TrackedPacketEvent (List Char))
  | .queued _ event => some (.post event)
  | .drained connId _ => some (.take connId)
  | _ => none

/-- The queue operations of a run. -/
def mailOps (log : List TrackerNote) : List (Mailbox.Op TrackedPacketEvent (List Char)) :=
  log.filterMap TrackerNote.mailOp

theorem filterMap_append_singleton {α β : Type} (f : α → Option β) (l : List α) (a : α) :
    (l ++ [a]).filterMap f = l.filterMap f ++ (f a).toList := by
  rw [List.filterMap_append]
  rfl

theorem mailOps_append_singleton (log : List TrackerNote) (note : TrackerNote) :
    mailOps (log ++ [note]) = mailOps log ++ note.mailOp.toList :=
  filterMap_append_singleton _ _ _

namespace TrackerSystem

theorem eventQueue_step (s : TrackerSystem) (a : TrackerAction) :
    (s.step a).1.tracker.eventQueue =
      match (s.step a).2.mailOp with
      | some op => Mailbox.sharedStep TrackedPacketEvent.connId s.tracker.eventQueue op
      | none => s.tracker.eventQueue := by
  cases a with
  | udpSent => rfl
  | trackingReceived =>
    simp only [step]
    split
    · rfl
    · exact PacketTracker.eventQueue_trackPacket _ _
  | cleanupTick => rfl
  | icmpMatched l icmpPacket icmpClass info routerIp now =>
    simp only [step]
    split
    · split
      · rename_i t' tracked htake
        exact PacketTracker.eventQueue_takeTracked htake
      · rename_i t' htake
        exact PacketTracker.eventQueue_takeTracked htake
    · rfl
  | eventQueued l =>
    simp only [step]
    split <;> rfl
  | drained connId =>
    rw [step_drained_eq, PacketTracker.drainEventsForConnId_eq]
    rfl

/-- The queue is the mailboxes of the run merged in queueing order. -/
theorem eventQueue_run (hasCallback : Bool) (acts : List TrackerAction) :
    ((init hasCallback).run acts).1.tracker.eventQueue =
      Mailbox.shared TrackedPacketEvent.connId (mailOps ((init hasCallback).run acts).2) := by
  induction acts using List.reverseRecOn with
  | nil => rfl
  | append_singleton acts a ih =>
    rw [run_append_singleton]
    dsimp only
    rw [eventQueue_step, ih, mailOps_append_singleton]
    split
    · rename_i op hop
      rw [hop, Option.toList_some, Mailbox.shared_append_singleton]
    · rename_i hop
      rw [hop, Option.toList_none, List.append_nil]

/-- A drain returns the connection's mailbox and leaves every other event queued, in order. -/
theorem step_drained (hasCallback : Bool) (pre : List TrackerAction) (connId : List Char) :
    (((init hasCallback).run pre).1.step (.drained connId)).2 =
        .drained connId
          (Mailbox.pending TrackedPacketEvent.connId connId (mailOps ((init hasCallback).run pre).2)) ∧
      (((init hasCallback).run pre).1.step (.drained connId)).1.tracker.eventQueue =
        ((init hasCallback).run pre).1.tracker.eventQueue.filter fun event => event.connId ≠ connId := by
  rw [step_drained_eq, PacketTracker.drainEventsForConnId_eq]
  refine ⟨?_, Mailbox.takeFrom_snd _ _ _⟩
  rw [eventQueue_run, Mailbox.take_shared]

/-- A drain note comes from a drain, and shows what the drain took from the queue. -/
theorem step_drainedNote {s : TrackerSystem} {a : TrackerAction} {connId : List Char}
    {events : List TrackedPacketEvent} (h : (s.step a).2 = .drained connId events) :
    a = .drained connId ∧
      events = (Mailbox.takeFrom TrackedPacketEvent.connId s.tracker.eventQueue connId).1 := by
  cases a with
  | drained connId' =>
    rw [step_drained_eq, PacketTracker.drainEventsForConnId_eq] at h
    simp only [TrackerNote.drained.injEq] at h
    obtain ⟨rfl, rfl⟩ := h
    exact ⟨rfl, rfl⟩
  | trackingReceived =>
    simp only [step] at h
    split at h <;> cases h
  | icmpMatched =>
    simp only [step] at h
    split at h
    · split at h <;> cases h
    · cases h
  | eventQueued =>
    simp only [step] at h
    split at h <;> cases h
  | udpSent | cleanupTick => cases h

end TrackerSystem

/-- The events a note shows drained for connection `connId`. -/
def TrackerNote.drainedFor (connId : List Char) : TrackerNote → List TrackedPacketEvent
  | .drained connId' events => if connId' = connId then events else []
  | _ => []

namespace TrackerSystem

/-- The drains of a connection over a run returned what the mailbox view says its takes return. -/
theorem drainedFor_run (hasCallback : Bool) (acts : List TrackerAction) (connId : List Char) :
    ((init hasCallback).run acts).2.flatMap (TrackerNote.drainedFor connId) =
      Mailbox.delivered TrackedPacketEvent.connId connId (mailOps ((init hasCallback).run acts).2) := by
  induction acts using List.reverseRecOn with
  | nil => rfl
  | append_singleton acts a ih =>
    rw [run_append_singleton]
    dsimp only
    rw [List.flatMap_append, ih, mailOps_append_singleton]
    simp only [List.flatMap_cons, List.flatMap_nil, List.append_nil]
    cases hnote : (((init hasCallback).run acts).1.step a).2 with
    | drained connId' events =>
      -- the drain takes the connection's mailbox, as the queue is the mailboxes merged
      obtain ⟨-, hevents⟩ := step_drainedNote hnote
      rw [hevents, eventQueue_run, Mailbox.take_shared]
      simp only [TrackerNote.mailOp, TrackerNote.drainedFor, Option.toList_some]
      rw [Mailbox.delivered_append_singleton]
      by_cases hc : connId' = connId
      · subst hc
        simp
      · simp [hc]
    | queued l event =>
      simp only [TrackerNote.mailOp, TrackerNote.drainedFor, Option.toList_some]
      rw [Mailbox.delivered_append_singleton, List.append_nil]
    | quiet | removed => simp [TrackerNote.mailOp, TrackerNote.drainedFor]

end TrackerSystem

/-! ### Removals and queueings -/

/-- The event a note shows listener `l` queueing. -/
def TrackerNote.queuedBy (l : Listener) : TrackerNote → Option TrackedPacketEvent
  | .queued l' event => if l' = l then some event else none
  | _ => none

/-- The event a note shows listener `l` making of a packet it removed. -/
def TrackerNote.removedBy (l : Listener) : TrackerNote → Option TrackedPacketEvent
  | .removed l' _ event => if l' = l then event else none
  | _ => none

namespace TrackerSystem

/-- One step of listener `l` either removes a packet while it holds nothing, and then holds the
packet's event, or queues the event it holds; no other step touches what it holds. -/
theorem held_step (s : TrackerSystem) (a : TrackerAction) (l : Listener) :
    ((s.step a).2.queuedBy l).toList ++ ((s.step a).1.phase l).held.toList =
      (s.phase l).held.toList ++ ((s.step a).2.removedBy l).toList := by
  cases a with
  | udpSent | cleanupTick => simp [step, TrackerNote.queuedBy, TrackerNote.removedBy]
  | trackingReceived =>
    simp only [step]
    split <;> simp [TrackerNote.queuedBy, TrackerNote.removedBy]
  | icmpMatched l' icmpPacket icmpClass info routerIp now =>
    simp only [step]
    split
    · rename_i hidle
      split
      · rename_i t' tracked htake
        by_cases hl : l' = l
        · -- the listener was idle and now holds the event of the packet it removed
          subst hl
          cases hevent : PacketTracker.matchedEvent tracked icmpPacket l'.isIp6 info routerIp now <;>
            simp [TrackerNote.queuedBy, TrackerNote.removedBy, hidle, ListenerPhase.held]
        · simp [TrackerNote.queuedBy, TrackerNote.removedBy, hl, Function.update_of_ne (Ne.symm hl)]
      · simp [TrackerNote.queuedBy, TrackerNote.removedBy]
    · simp [TrackerNote.queuedBy, TrackerNote.removedBy]
  | eventQueued l' =>
    simp only [step]
    split
    · rename_i event hqueueing
      by_cases hl : l' = l
      · subst hl
        simp [TrackerNote.queuedBy, TrackerNote.removedBy, hqueueing, ListenerPhase.held]
      · simp [TrackerNote.queuedBy, TrackerNote.removedBy, hl, Function.update_of_ne (Ne.symm hl)]
    · simp [TrackerNote.queuedBy, TrackerNote.removedBy]
  | drained connId =>
    rw [step_drained_eq]
    simp [TrackerNote.queuedBy, TrackerNote.removedBy]

/-- Over a run, the events a listener queued and the one it holds are, in order, those of the
packets it removed. -/
theorem held_run (hasCallback : Bool) (acts : List TrackerAction) (l : Listener) :
    ((init hasCallback).run acts).2.filterMap (TrackerNote.queuedBy l) ++
        (((init hasCallback).run acts).1.phase l).held.toList =
      ((init hasCallback).run acts).2.filterMap (TrackerNote.removedBy l) := by
  induction acts using List.reverseRecOn with
  | nil => rfl
  | append_singleton acts a ih =>
    rw [run_append_singleton]
    dsimp only
    rw [filterMap_append_singleton, filterMap_append_singleton]
    calc _ = ((init hasCallback).run acts).2.filterMap (TrackerNote.queuedBy l) ++
            ((((init hasCallback).run acts).1.step a).2.queuedBy l).toList ++
            ((((init hasCallback).run acts).1.step a).1.phase l).held.toList := rfl
      _ = ((init hasCallback).run acts).2.filterMap (TrackerNote.queuedBy l) ++
            ((((init hasCallback).run acts).1.phase l).held.toList ++
              ((((init hasCallback).run acts).1.step a).2.removedBy l).toList) := by
          rw [List.append_assoc, held_step]
      _ = _ := by rw [← List.append_assoc, ih]

/-- A removal is a match of an idle listener that took the packet out of the index, and the
event it makes is that packet's. -/
theorem step_removed {s : TrackerSystem} {a : TrackerAction} {l : Listener}
    {tracked : TrackedPacket} {event : Option TrackedPacketEvent}
    (h : (s.step a).2 = .removed l tracked event) :
    ∃ icmpPacket icmpClass info routerIp now,
      a = .icmpMatched l icmpPacket icmpClass info routerIp now ∧ s.phase l = .idle ∧
      s.tracker.checksumIndex.get ⟨info.destAddr, info.udpLength, info.udpChecksum⟩ = some tracked ∧
      (s.step a).1.tracker.checksumIndex.get ⟨info.destAddr, info.udpLength, info.udpChecksum⟩ =
        none ∧
      event = PacketTracker.matchedEvent tracked icmpPacket l.isIp6 info routerIp now := by
  cases a with
  | icmpMatched l' icmpPacket icmpClass info routerIp now =>
    simp only [step] at h ⊢
    split at h
    · rename_i hidle
      split at h
      · rename_i t' tracked' htake
        simp only [TrackerNote.removed.injEq] at h
        obtain ⟨rfl, rfl, rfl⟩ := h
        obtain ⟨-, hbefore, hafter⟩ := PacketTracker.takeTracked_some htake
        refine ⟨icmpPacket, icmpClass, info, routerIp, now, rfl, hidle, hbefore, ?_, rfl⟩
        exact hafter
      · cases h
    · cases h
  | trackingReceived =>
    simp only [step] at h
    split at h <;> cases h
  | eventQueued l' =>
    simp only [step] at h
    split at h <;> cases h
  | udpSent | cleanupTick | drained => cases h

end TrackerSystem

/-! ### The TTL of every event -/

/-- Every packet and event the tracker holds was sent with a TTL. -/
structure TrackerSystem.TtlInv (s : TrackerSystem) : Prop where
  channel : ∀ info ∈ s.channel, info.sendOptions.ttl.isSome
  index : ∀ k tracked, s.tracker.checksumIndex.get k = some tracked →
    tracked.sendOptions.ttl.isSome
  queue : ∀ event ∈ s.tracker.eventQueue, event.sendOptions.ttl.isSome
  held : ∀ l event, (s.phase l).held = some event → event.sendOptions.ttl.isSome

theorem trackingCallback_ttl {destAddr : SocketAddr} {srcAddr : Option SocketAddr}
    {udpLength : Nat} {ttl : Option UInt8} {cleartext : List UInt8} {sentAt : Nat}
    {connId : List Char} {udpChecksum : Nat} {info : UdpPacketInfo}
    (h : trackingCallback destAddr srcAddr udpLength ttl cleartext sentAt connId udpChecksum =
      some info) :
    info.sendOptions.ttl.isSome := by
  unfold trackingCallback at h
  obtain ⟨ttlValue, -, rfl⟩ := Option.map_eq_some_iff.mp h
  rfl

namespace PacketTracker

/-- What the tracking task stores it stores with the message's send options. -/
theorem get_trackPacket {t : PacketTracker} {info : UdpPacketInfo} {k : ChecksumKey}
    {tracked : TrackedPacket} (h : (t.trackPacket info).checksumIndex.get k = some tracked) :
    t.checksumIndex.get k = some tracked ∨ tracked.sendOptions = info.sendOptions := by
  unfold trackPacket at h
  split_ifs at h with hzero hsum
  · exact .inl h
  · by_cases hk : k = ⟨info.destAddr, info.udpLength, info.udpChecksum⟩
    · rw [hk, AssocMap.get_insert_self] at h
      cases h
      exact .inr rfl
    · rw [AssocMap.get_insert_ne _ _ hk] at h
      exact .inl h
  · exact .inl h

theorem get_cleanupExpired {t : PacketTracker} {now : Nat} {k : ChecksumKey}
    {tracked : TrackedPacket} (h : (t.cleanupExpired now).checksumIndex.get k = some tracked) :
    t.checksumIndex.get k = some tracked := by
  unfold cleanupExpired at h
  rw [AssocMap.get_retain] at h
  obtain ⟨v, hv, hkeep⟩ := Option.bind_eq_some_iff.mp h
  split_ifs at hkeep
  cases hkeep
  exact hv

end PacketTracker

namespace TrackerSystem

theorem ttlInv_init (hasCallback : Bool) : (init hasCallback).TtlInv where
  channel := by simp [init]
  index := by simp [init]
  queue := by simp [init]
  held := by simp [init, ListenerPhase.held]

theorem held_update {phase : Listener → ListenerPhase} {l : Listener} {p : ListenerPhase}
    (hp : ∀ event, p.held = some event → event.sendOptions.ttl.isSome)
    (hold : ∀ l event, (phase l).held = some event → event.sendOptions.ttl.isSome) :
    ∀ l' event, (Function.update phase l p l').held = some event → event.sendOptions.ttl.isSome := by
  intro l' event
  by_cases hl : l' = l
  · subst hl
    rw [Function.update_self]
    exact hp event
  · rw [Function.update_of_ne hl]
    exact hold l' event

theorem TtlInv.index_takeTracked {s : TrackerSystem} (hs : s.TtlInv) (info : EmbeddedUdpInfo)
    (k : ChecksumKey) (tracked : TrackedPacket)
    (h : (s.tracker.takeTracked info).1.checksumIndex.get k = some tracked) :
    tracked.sendOptions.ttl.isSome := by
  rcases PacketTracker.get_takeTracked s.tracker info k with hnone | hsame
  · rw [hnone] at h
    cases h
  · rw [hsame] at h
    exact hs.index k tracked h

/-- Every step keeps every TTL: the callback forwards only packets with one, and a match copies
the send options of the packet it removed into its event. -/
theorem TtlInv.step {s : TrackerSystem} (hs : s.TtlInv) (a : TrackerAction) :
    (s.step a).1.TtlInv := by
  cases a with
  | udpSent destAddr srcAddr udpLength ttl cleartext sentAt connId udpChecksum =>
    refine ⟨?_, hs.index, hs.queue, hs.held⟩
    intro info hinfo
    rcases List.mem_append.mp hinfo with hold | hnew
    · exact hs.channel info hold
    · exact trackingCallback_ttl (Option.mem_toList.mp hnew)
  | trackingReceived =>
    simp only [TrackerSystem.step]
    split
    · exact hs
    · rename_i info rest hchannel
      have hinfo : info.sendOptions.ttl.isSome := hs.channel info (by simp [hchannel])
      refine ⟨fun i hi => hs.channel i (by simp [hchannel, hi]), ?_, ?_, hs.held⟩
      · intro k tracked hget
        rcases PacketTracker.get_trackPacket hget with hold | hsend
        · exact hs.index k tracked hold
        · rw [hsend]
          exact hinfo
      · rw [PacketTracker.eventQueue_trackPacket]
        exact hs.queue
  | cleanupTick now =>
    exact ⟨hs.channel, fun k tracked hget => hs.index k tracked (PacketTracker.get_cleanupExpired hget),
      hs.queue, hs.held⟩
  | icmpMatched l icmpPacket icmpClass info routerIp now =>
    simp only [TrackerSystem.step]
    split
    · split
      · rename_i t' tracked htake
        have hindex := hs.index_takeTracked info
        rw [htake] at hindex
        have htracked : tracked.sendOptions.ttl.isSome :=
          hs.index _ _ (PacketTracker.takeTracked_some htake).2.1
        refine ⟨hs.channel, hindex, ?_, held_update ?_ hs.held⟩
        · rw [PacketTracker.eventQueue_takeTracked htake]
          exact hs.queue
        · intro event
          split
          · rename_i event' hevent
            intro hheld
            cases hheld
            rw [(PacketTracker.matchedEvent_sendOptions hevent).1]
            exact htracked
          · intro hheld
            cases hheld
      · rename_i t' htake
        have hindex := hs.index_takeTracked info
        rw [htake] at hindex
        exact ⟨hs.channel, hindex, PacketTracker.eventQueue_takeTracked htake ▸ hs.queue, hs.held⟩
    · exact hs
  | eventQueued l =>
    simp only [TrackerSystem.step]
    split
    · rename_i event hqueueing
      have hevent : event.sendOptions.ttl.isSome := hs.held l event (by rw [hqueueing]; rfl)
      refine ⟨hs.channel, hs.index, ?_, held_update (fun _ h => by cases h) hs.held⟩
      intro e he
      rcases List.mem_append.mp he with hold | hnew
      · exact hs.queue e hold
      · rw [List.mem_singleton.mp hnew]
        exact hevent
    · exact hs
  | drained connId =>
    refine ⟨hs.channel, hs.index, ?_, hs.held⟩
    intro e he
    rw [step_drained_eq, PacketTracker.drainEventsForConnId_eq, Mailbox.takeFrom_snd] at he
    exact hs.queue e (List.mem_filter.mp he).1

theorem ttlInv_run (hasCallback : Bool) (acts : List TrackerAction) :
    ((init hasCallback).run acts).1.TtlInv := by
  induction acts using List.reverseRecOn with
  | nil => exact ttlInv_init hasCallback
  | append_singleton acts a ih =>
    rw [run_append_singleton]
    exact ih.step a

theorem TtlInv.drain {s : TrackerSystem} (hs : s.TtlInv) (connId : List Char) :
    ∀ event ∈ (s.tracker.drainEventsForConnId connId).2, event.sendOptions.ttl.isSome := by
  intro event hevent
  rw [PacketTracker.drainEventsForConnId_eq, Mailbox.takeFrom_fst] at hevent
  exact hs.queue event (List.mem_filter.mp hevent).1

/-- Over every run of the tracking task, the cleanup task, the two listeners and the drains, from
the empty tracker: a drain returns its connection's mailbox (the events queued for it since its
previous drain, in order) and leaves every other event queued in order; every event queued for a
connection is returned by exactly one of its drains or still waits, in queueing order; the
events each listener queues are, one for one and in order, those of the packets it removed from
the index; a removal takes the matched packet out of the index; and a drain returns only events
with a TTL. -/
theorem icmp_events_delivered_once (hasCallback : Bool) :
    (∀ pre connId,
      (((init hasCallback).run pre).1.step (.drained connId)).2 =
          .drained connId
            (Mailbox.pending TrackedPacketEvent.connId connId (mailOps ((init hasCallback).run pre).2)) ∧
        (((init hasCallback).run pre).1.step (.drained connId)).1.tracker.eventQueue =
          ((init hasCallback).run pre).1.tracker.eventQueue.filter fun event => event.connId ≠ connId) ∧
    (∀ acts connId,
      ((init hasCallback).run acts).2.flatMap (TrackerNote.drainedFor connId) ++
          ((init hasCallback).run acts).1.tracker.eventQueue.filter (fun event => event.connId = connId) =
        Mailbox.posted TrackedPacketEvent.connId connId (mailOps ((init hasCallback).run acts).2)) ∧
    (∀ acts l,
      ((init hasCallback).run acts).2.filterMap (TrackerNote.queuedBy l) ++
          (((init hasCallback).run acts).1.phase l).held.toList =
        ((init hasCallback).run acts).2.filterMap (TrackerNote.removedBy l)) ∧
    (∀ pre a l tracked event,
      (((init hasCallback).run pre).1.step a).2 = .removed l tracked event →
      ∃ icmpPacket icmpClass info routerIp now,
        a = .icmpMatched l icmpPacket icmpClass info routerIp now ∧
        (((init hasCallback).run pre).1.phase l) = .idle ∧
        ((init hasCallback).run pre).1.tracker.checksumIndex.get
            ⟨info.destAddr, info.udpLength, info.udpChecksum⟩ = some tracked ∧
        (((init hasCallback).run pre).1.step a).1.tracker.checksumIndex.get
            ⟨info.destAddr, info.udpLength, info.udpChecksum⟩ = none ∧
        event = PacketTracker.matchedEvent tracked icmpPacket l.isIp6 info routerIp now) ∧
    (∀ pre connId,
      ∀ event ∈ (((init hasCallback).run pre).1.tracker.drainEventsForConnId connId).2,
        event.sendOptions.ttl.isSome) := by
  refine ⟨step_drained hasCallback, ?_, held_run hasCallback, fun _ _ _ _ _ h => step_removed h,
    fun pre => (ttlInv_run hasCallback pre).drain⟩
  intro acts connId
  rw [drainedFor_run, eventQueue_run, Mailbox.filter_shared, Mailbox.delivered_append_pending]

end TrackerSystem

end Netpoke
