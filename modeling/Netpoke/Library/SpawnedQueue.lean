import Mathlib

/-!
# Tasks that push into one queue

A callback that may not wait spawns a task for each item it is handed; the task later pushes the
item's value, if it has one, onto a queue behind a lock, and a consumer drains the whole queue at
once. The runtime runs each spawned task once, in an order of its own choosing: `run i` runs the
task at position `i` among those still waiting.

The ledger of a run (`ledger`): what the drains returned, what is still queued and the values of
the tasks still waiting are, together, the values of everything spawned, each once. It is a
permutation and no more, since the order in which tasks run decides the order of the queue.
-/

namespace SpawnedQueue

/-- What happens to the queue: an item's task is spawned, the waiting task at a position runs, or
the consumer drains the queue. -/
inductive Op (α : Type) where
  | spawn (a : α)
  | run (i : Nat)
  | drain
  deriving DecidableEq, Repr

/-- The tasks spawned and not yet run, in spawning order, and the queue. -/
structure State (α β : Type) where
  tasks : List α
  queue : List β
  deriving DecidableEq, Repr

variable {α β : Type} (push : α → Option β)

/-- One operation, with what a drain returns. A position with no waiting task runs nothing. -/
def step (s : State α β) : Op α → State α β × List β
  | .spawn a => (⟨s.tasks ++ [a], s.queue⟩, [])
  | .run i =>
    match s.tasks[i]? with
    | some a => (⟨s.tasks.eraseIdx i, s.queue ++ (push a).toList⟩, [])
    | none => (s, [])
  | .drain => (⟨s.tasks, []⟩, s.queue)

/-- A run of operations: the last state, and what the drains returned, in order. -/
def run (s : State α β) : List (Op α) → State α β × List β
  | [] => (s, [])
  | op :: ops =>
    let r := run (step push s op).1 ops
    (r.1, (step push s op).2 ++ r.2)

/-- The items whose tasks a run spawns, in order. -/
def spawned : List (Op α) → List α :=
  List.filterMap fun
    | .spawn a => some a
    | _ => none

/-- What is owed to the consumer in a state: the queue, then the values still to be pushed. -/
def owed (s : State α β) : List β :=
  s.queue ++ s.tasks.filterMap push

@[simp] theorem run_nil (s : State α β) : run push s [] = (s, []) := rfl

theorem run_cons (s : State α β) (op : Op α) (ops : List (Op α)) :
    run push s (op :: ops) =
      ((run push (step push s op).1 ops).1, (step push s op).2 ++ (run push (step push s op).1 ops).2) :=
  rfl

@[simp] theorem spawned_nil : spawned ([] : List (Op α)) = [] := rfl

theorem spawned_cons (op : Op α) (ops : List (Op α)) :
    spawned (op :: ops) = spawned [op] ++ spawned ops := by
  cases op <;> rfl

theorem filterMap_cons_toList (a : α) (l : List α) :
    (a :: l).filterMap push = (push a).toList ++ l.filterMap push := by
  cases h : push a <;> simp [h]

/-- Running a waiting task moves its value, if any, from the tasks to the queue. -/
theorem owed_run_perm {s : State α β} {i : Nat} {a : α} (h : s.tasks[i]? = some a) :
    (owed push ⟨s.tasks.eraseIdx i, s.queue ++ (push a).toList⟩).Perm (owed push s) := by
  obtain ⟨hi, rfl⟩ := List.getElem?_eq_some_iff.mp h
  have htasks : (s.tasks.filterMap push).Perm
      ((push s.tasks[i]).toList ++ (s.tasks.eraseIdx i).filterMap push) := by
    have hperm := ((List.getElem_cons_eraseIdx_perm hi).filterMap push).symm
    rwa [filterMap_cons_toList] at hperm
  unfold owed
  rw [List.append_assoc]
  exact List.Perm.append_left s.queue htasks.symm

/-- One step: what it returns, followed by what is owed after it, is what was owed before it with
the value of what it spawned. -/
theorem step_ledger (s : State α β) (op : Op α) :
    ((step push s op).2 ++ owed push (step push s op).1).Perm
      (owed push s ++ (spawned [op]).filterMap push) := by
  cases op with
  | spawn a =>
    simp [step, owed, spawned, List.filterMap_append]
  | run i =>
    cases h : s.tasks[i]? with
    | none => simp [step, h, spawned]
    | some a =>
      simpa [step, h, spawned] using owed_run_perm push h
  | drain => simp [step, owed, spawned]

open List in
/-- The ledger of a run: what its drains returned, followed by what is still owed, is what was
owed at the start with the values of everything spawned, each once. -/
theorem ledger (s : State α β) (ops : List (Op α)) :
    ((run push s ops).2 ++ owed push (run push s ops).1).Perm
      (owed push s ++ (spawned ops).filterMap push) := by
  induction ops generalizing s with
  | nil => simp
  | cons op ops ih =>
    have hrest := ih (step push s op).1
    rw [run_cons, spawned_cons, List.filterMap_append, List.append_assoc]
    calc ((step push s op).2 ++ ((run push (step push s op).1 ops).2 ++
            owed push (run push (step push s op).1 ops).1))
        _ ~ (step push s op).2 ++ (owed push (step push s op).1 ++
            (spawned ops).filterMap push) := hrest.append_left _
        _ = ((step push s op).2 ++ owed push (step push s op).1) ++
            (spawned ops).filterMap push := by rw [List.append_assoc]
        _ ~ (owed push s ++ (spawned [op]).filterMap push) ++ (spawned ops).filterMap push :=
            (step_ledger push s op).append_right _
        _ = owed push s ++ ((spawned [op]).filterMap push ++ (spawned ops).filterMap push) := by
            rw [List.append_assoc]

end SpawnedQueue
