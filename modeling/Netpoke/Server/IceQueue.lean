import Netpoke.Server.Signaling
import Netpoke.Library.SpawnedQueue

/-!
# The server's ICE candidates, from gathering to the client

The server's own ICE candidates reach the client by polling (`server/src/signaling.rs`). The
`on_ice_candidate` callback that `signaling_start` registers on the peer connection serialises
each gathered candidate and spawns a task for it; the task decides `should_store` on the
candidate's address and pushes the JSON onto the session's `ice_candidates` queue behind its
mutex. `get_ice_candidates` drains that queue. Tokio runs the spawned tasks once each, in an
order of its own, which is what the `SpawnedQueue` machine leaves open.

Over every run and every order of the tasks, the candidates the polls returned, those still
queued and those whose task has not run yet are the stored candidates, each once
(`ice_candidates_delivered_once`): no candidate is lost and none is returned twice. The lookup of
the session in `clients` is left out: the events are those of one session, from the empty queue
`signaling_start` creates for it.
-/

namespace Netpoke

open SpawnedQueue

/-- What the callback reads of a gathered `RTCIceCandidate`: its `address`, and the text
`serde_json::to_string` makes of it, `none` where that fails. -/
structure GatheredCandidate where
  address : List Char
  json : Option (List Char)
  deriving DecidableEq, Repr

/-- A spawned task: the address it filters on and the JSON it stores. -/
structure StoreTask where
  candidateAddress : List Char
  candidateJson : List Char
  deriving DecidableEq, Repr

/-- The `on_ice_candidate` callback: a task for a candidate that serialises, and nothing at the
end of gathering (`None`). -/
def onIceCandidateHandler : Option GatheredCandidate → Option StoreTask
  | some c => c.json.map fun candidateJson => ⟨c.address, candidateJson⟩
  | none => none

/-- The spawned task: `push_back` of the JSON when `should_store`. -/
def StoreTask.run (ipVersionFilter : Option (List Char)) (task : StoreTask) :
    Option (List Char) :=
  if serverCandidateShouldStore ipVersionFilter task.candidateAddress then
    some task.candidateJson
  else none

/-- What happens to one session's candidates. -/
inductive IceEvent
  /-- the peer connection hands the callback a candidate, or the end of gathering -/
  | onIceCandidate (candidate : Option GatheredCandidate)
  /-- tokio runs the waiting task at a position -/
  | storeTaskRuns (i : Nat)
  /-- the client polls `get_ice_candidates` -/
  | getIceCandidates
  deriving DecidableEq, Repr

/-- A session's `ice_candidates`, with the tasks spawned to fill it. -/
abbrev IceQueue := State StoreTask (List Char)

/-- An event on the queue; a callback that spawns nothing does nothing to it. -/
def IceEvent.op : IceEvent → Option (Op StoreTask)
  | .onIceCandidate candidate => (onIceCandidateHandler candidate).map .spawn
  | .storeTaskRuns i => some (.run i)
  | .getIceCandidates => some .drain

/-- A session's run from `signaling_start`: its queue at the end, and what the polls returned. -/
def runIceQueue (ipVersion : Option (List Char)) (events : List IceEvent) :
    IceQueue × List (List Char) :=
  run (StoreTask.run ipVersion) ⟨[], []⟩ (events.filterMap IceEvent.op)

/-- The tasks the callbacks of a run spawned, in order. -/
def spawnedTasks (events : List IceEvent) : List StoreTask :=
  events.filterMap fun
    | .onIceCandidate candidate => onIceCandidateHandler candidate
    | _ => none

/-- The candidates of a run that serialised and that `should_store` kept, in gathering order. -/
def storedCandidates (ipVersion : Option (List Char)) (events : List IceEvent) :
    List (List Char) :=
  (spawnedTasks events).filterMap (StoreTask.run ipVersion)

theorem spawned_filterMap_op (events : List IceEvent) :
    spawned (events.filterMap IceEvent.op) = spawnedTasks events := by
  induction events with
  | nil => rfl
  | cons event events ih =>
    cases event with
    | onIceCandidate candidate =>
      cases h : onIceCandidateHandler candidate <;>
        simp_all [spawned, spawnedTasks, IceEvent.op]
    | storeTaskRuns i => simpa [spawned, spawnedTasks, IceEvent.op] using ih
    | getIceCandidates => simpa [spawned, spawnedTasks, IceEvent.op] using ih

/-- Every candidate the server stores reaches the client once: over any run of one session, in
any order of the spawned tasks, what the polls returned, what is still queued and what the
waiting tasks will store are the stored candidates, each once. -/
theorem ice_candidates_delivered_once (ipVersion : Option (List Char)) (events : List IceEvent) :
    ((runIceQueue ipVersion events).2 ++ (runIceQueue ipVersion events).1.queue ++
        (runIceQueue ipVersion events).1.tasks.filterMap (StoreTask.run ipVersion)).Perm
      (storedCandidates ipVersion events) := by
  have h := ledger (StoreTask.run ipVersion) ⟨[], []⟩ (events.filterMap IceEvent.op)
  rw [spawned_filterMap_op] at h
  simpa [owed, List.append_assoc, runIceQueue, storedCandidates] using h

end Netpoke
