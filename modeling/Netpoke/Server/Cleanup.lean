import Netpoke.Library.AssocMap
import Netpoke.Library.ParentClosure
import Netpoke.Library.FairRwLock

/-!
# Removing a client and its descendants

`cleanup_client_handler` (`server/src/cleanup.rs`, the `DELETE /api/clients/{id}` route)
takes a read guard on `state.clients`, answers 404 when the client is absent, and otherwise
computes the set to remove by passes over the map until one adds nothing, closes the peer
connections, and then asks for the write guard to remove the set. The second `clients`
binding only shadows the read guard, which stays alive to the end of the function.

The set is the client with every session whose chain of `parent_id` links reaches it
(`cleanupClientHandler_toRemove`), and removing it removes nothing else
(`get_cleanupRemove`). But `state.clients` is a fair tokio `RwLock` (`FairRwLock`): the handler
waits for the write guard while its own read guard keeps it from being granted, and every
later request on the map queues behind it (`cleanup_handler_blocks_clients`), for every map
and every client present in it. Closing the
peer connections only acts on the WebRTC stack and is left out.
-/

namespace Netpoke

/-- The field of `ClientSession` the handler reads. -/
structure ClientSession where
  id : List Char
  parentId : Option (List Char)
  deriving DecidableEq, Repr

/-- The `(id, parent_id)` pairs of the clients map, in its iteration order. -/
def parentLinks (clients : AssocMap (List Char) ClientSession) :
    List (List Char × Option (List Char)) :=
  clients.entries.map fun e => (e.1, e.2.parentId)

/-- How far `cleanup_client_handler` gets on its read guard. -/
inductive CleanupProgress
  /-- `404` with `{"error": "Client not found"}`; the read guard is dropped on return -/
  | notFound (error : List Char)
  /-- the read guard is still held and the write guard asked for, to remove `toRemove` -/
  | awaitingWrite (toRemove : List (List Char))
  deriving DecidableEq, Repr

/-- `cleanup_client_handler` up to its call of `write`. -/
def cleanupClientHandler (clients : AssocMap (List Char) ClientSession) (clientId : List Char) :
    CleanupProgress :=
  if !clients.containsKey clientId then .notFound "Client not found".toList
  else .awaitingWrite (ParentClosure.closure (parentLinks clients) [clientId])

/-- The handler's events on `state.clients`, as far as it gets. -/
def cleanupLockEvents {τ : Type} (task : τ) : CleanupProgress → List (τ × FairRwLock.Event)
  | .notFound _ => [(task, .requestRead), (task, .releaseRead)]
  | .awaitingWrite _ => [(task, .requestRead), (task, .requestWrite)]

/-- The rest of the handler, had it the write guard: every id of the set removed, and the
removed ids as the `200` answer. -/
def cleanupRemove (clients : AssocMap (List Char) ClientSession) (toRemove : List (List Char)) :
    AssocMap (List Char) ClientSession × List (List Char) :=
  (toRemove.foldl (fun m id => m.erase id) clients, toRemove)

/-- For a present client the handler asks for the write guard to remove the client and every
session whose chain of parent links reaches it. -/
theorem cleanupClientHandler_toRemove (clients : AssocMap (List Char) ClientSession)
    {clientId : List Char} (hpresent : clients.containsKey clientId = true) :
    ∃ toRemove, cleanupClientHandler clients clientId = .awaitingWrite toRemove ∧
      ∀ x, x ∈ toRemove ↔ ParentClosure.Reaches (parentLinks clients) clientId x := by
  refine ⟨_, ?_, ParentClosure.mem_closure_iff (parentLinks clients) clientId⟩
  simp [cleanupClientHandler, hpresent]

theorem get_cleanupRemove (clients : AssocMap (List Char) ClientSession)
    (toRemove : List (List Char)) (k : List Char) :
    (cleanupRemove clients toRemove).1.get k = if k ∈ toRemove then none else clients.get k := by
  unfold cleanupRemove
  induction toRemove using List.reverseRecOn generalizing clients with
  | nil => simp
  | append_singleton ids id ih =>
    rw [List.foldl_append, List.foldl_cons, List.foldl_nil]
    by_cases hk : k = id
    · subst hk
      simp
    · rw [AssocMap.get_erase_ne _ hk, ih]
      simp [hk]

/-- The clients lock once the handler, starting on a free lock, has gone as far as it goes. -/
def cleanupHeldLock {τ : Type} [DecidableEq τ] (task : τ)
    (clients : AssocMap (List Char) ClientSession) (clientId : List Char) : FairRwLock.Lock τ :=
  FairRwLock.Lock.free.run (cleanupLockEvents task (cleanupClientHandler clients clientId))

/-- Deleting a present client: the handler asks for the write guard while it holds a read
guard, and whatever the other tasks then do on `state.clients`, it keeps waiting, and so does
every read asked for after it. -/
theorem cleanup_handler_blocks_clients {τ : Type} [DecidableEq τ]
    (clients : AssocMap (List Char) ClientSession) (clientId : List Char)
    (hpresent : clients.containsKey clientId = true) (task : τ) :
    (∃ toRemove, cleanupClientHandler clients clientId = .awaitingWrite toRemove) ∧
      (∀ events : List (τ × FairRwLock.Event), (∀ e ∈ events, e.1 ≠ task) →
        FairRwLock.Stuck task [] ((cleanupHeldLock task clients clientId).run events)) ∧
      (∀ (events later : List (τ × FairRwLock.Event)) (u : τ),
        (∀ e ∈ events ++ later, e.1 ≠ task) →
        FairRwLock.Stuck task [(u, .read)]
          ((((cleanupHeldLock task clients clientId).run events).step (u, .requestRead)).run
            later)) := by
  obtain ⟨toRemove, hprogress, -⟩ := cleanupClientHandler_toRemove clients hpresent
  -- the handler holds its read guard and its write request waits at the head of the queue
  have hstuck : FairRwLock.Stuck task [] (cleanupHeldLock task clients clientId) := by
    unfold cleanupHeldLock
    rw [hprogress]
    exact ⟨List.mem_cons_self, [], [], rfl, List.Sublist.slnil⟩
  refine ⟨⟨toRemove, hprogress⟩, fun events hothers => FairRwLock.Run.stuck hstuck events hothers,
    fun events later u hothers => ?_⟩
  have hbefore := FairRwLock.Run.stuck hstuck events
    (fun e he => hothers e (List.mem_append_left _ he))
  exact FairRwLock.Run.stuck (hbefore.request u).1 later
    (fun e he => hothers e (List.mem_append_right _ he))

theorem cleanup_handler_blocks_clients_root :
    let clients := (AssocMap.empty : AssocMap (List Char) ClientSession).insert "a".toList
      ⟨"a".toList, none⟩
    clients.containsKey "a".toList = true ∧
      (∃ toRemove, cleanupClientHandler clients "a".toList = .awaitingWrite toRemove) ∧
      ∀ events : List (Nat × FairRwLock.Event), (∀ e ∈ events, e.1 ≠ 0) →
        FairRwLock.Stuck 0 [] ((cleanupHeldLock 0 clients "a".toList).run events) := by
  intro clients
  have hpresent : clients.containsKey "a".toList = true := by
    simp [clients, AssocMap.containsKey]
  obtain ⟨hwrite, hstuck, -⟩ := cleanup_handler_blocks_clients clients "a".toList hpresent 0
  exact ⟨hpresent, hwrite, hstuck⟩

end Netpoke
