import Mathlib.Data.List.Induction

/-!
# Mailboxes over one shared queue

Items for many recipients go into one queue in the order they are posted, and a recipient takes
its items by partitioning the queue: what is its own comes out in order, the rest stays in order.
The abstract view is one mailbox per recipient (`pending`): an item waits in the mailbox of its
key from its post to the next take of that key, which returns the mailbox and empties it. The
shared queue holds exactly the mailboxes merged in posting order (`filter_shared`), so a take
from it returns what the mailbox view says (`take_shared`). Every item posted for `k` is
returned by exactly one take of `k`, the first after its post, or still waits: what the takes of
`k` returned, followed by the mailbox, is what was posted for `k`, in order
(`delivered_append_pending`).
-/

namespace Mailbox

/-- What happens to the queue: an item is posted, or recipient `k` takes its items. -/
inductive Op (α κ : Type) where
  | post (a : α)
  | take (k : κ)
  deriving DecidableEq, Repr

variable {α κ : Type} [DecidableEq κ] (key : α → κ)

def pendingStep (k : κ) (box : List α) : Op α κ → List α
  | .post a => if key a = k then box ++ [a] else box
  | .take k' => if k' = k then [] else box

/-- The items posted for `k` since `k` last took. -/
def pending (k : κ) (ops : List (Op α κ)) : List α :=
  ops.foldl (pendingStep key k) []

/-- Recipient `k`'s take from the shared queue: its items, and the queue without them. -/
def takeFrom (q : List α) (k : κ) : List α × List α :=
  q.partition fun a => decide (key a = k)

def sharedStep (q : List α) : Op α κ → List α
  | .post a => q ++ [a]
  | .take k => (takeFrom key q k).2

def shared (ops : List (Op α κ)) : List α :=
  ops.foldl (sharedStep key) []

/-- The items posted for `k`, in posting order. -/
def posted (k : κ) (ops : List (Op α κ)) : List α :=
  ops.filterMap fun
    | .post a => if key a = k then some a else none
    | .take _ => none

/-- The mailbox of `k` and what its takes returned so far, after one operation. -/
def deliverStep (k : κ) (st : List α × List α) (op : Op α κ) : List α × List α :=
  (pendingStep key k st.1 op,
    match op with
    | .take k' => if k' = k then st.2 ++ st.1 else st.2
    | .post _ => st.2)

/-- What the takes of `k` returned, in order. -/
def delivered (k : κ) (ops : List (Op α κ)) : List α :=
  (ops.foldl (deliverStep key k) ([], [])).2

@[simp]
theorem pending_nil (k : κ) : pending key k [] = [] := rfl

theorem pending_append_singleton (k : κ) (ops : List (Op α κ)) (op : Op α κ) :
    pending key k (ops ++ [op]) = pendingStep key k (pending key k ops) op := by
  simp [pending, List.foldl_append]

@[simp]
theorem shared_nil : shared key ([] : List (Op α κ)) = [] := rfl

theorem shared_append_singleton (ops : List (Op α κ)) (op : Op α κ) :
    shared key (ops ++ [op]) = sharedStep key (shared key ops) op := by
  simp [shared, List.foldl_append]

theorem takeFrom_fst (q : List α) (k : κ) : (takeFrom key q k).1 = q.filter fun a => key a = k := by
  simp [takeFrom, List.partition_eq_filter_filter]

theorem takeFrom_snd (q : List α) (k : κ) :
    (takeFrom key q k).2 = q.filter fun a => key a ≠ k := by
  simp [takeFrom, List.partition_eq_filter_filter, Function.comp_def]

/-- One operation does to each recipient's part of the shared queue what it does to the
mailbox. -/
theorem filter_sharedStep (q : List α) (op : Op α κ) (k : κ) :
    (sharedStep key q op).filter (fun a => key a = k) =
      pendingStep key k (q.filter fun a => key a = k) op := by
  cases op with
  | post a =>
    by_cases ha : key a = k <;> simp [sharedStep, pendingStep, List.filter_append, ha]
  | take k' =>
    rw [sharedStep, takeFrom_snd, List.filter_filter]
    by_cases hk : k' = k
    · subst hk
      simp [pendingStep]
    · simp only [pendingStep, hk, if_false]
      congr 1
      funext a
      by_cases ha : key a = k
      · simp [ha, Ne.symm hk]
      · simp [ha]

/-- The shared queue is the mailboxes merged in posting order. -/
theorem filter_shared (ops : List (Op α κ)) (k : κ) :
    (shared key ops).filter (fun a => key a = k) = pending key k ops := by
  induction ops using List.reverseRecOn with
  | nil => rfl
  | append_singleton ops op ih =>
    rw [shared_append_singleton, filter_sharedStep, ih, pending_append_singleton]

theorem take_shared (ops : List (Op α κ)) (k : κ) :
    (takeFrom key (shared key ops) k).1 = pending key k ops := by
  rw [takeFrom_fst, filter_shared]

theorem foldl_deliverStep_fst (k : κ) (ops : List (Op α κ)) :
    (ops.foldl (deliverStep key k) ([], [])).1 = pending key k ops := by
  induction ops using List.reverseRecOn with
  | nil => rfl
  | append_singleton ops op ih =>
    rw [List.foldl_append, pending_append_singleton, ← ih]
    rfl

/-- A take of `k` returns the mailbox; nothing else returns anything to `k`. -/
theorem delivered_append_singleton (k : κ) (ops : List (Op α κ)) (op : Op α κ) :
    delivered key k (ops ++ [op]) =
      delivered key k ops ++
        match op with
        | .take k' => if k' = k then pending key k ops else []
        | .post _ => [] := by
  unfold delivered
  rw [List.foldl_append]
  cases op with
  | post a => simp [deliverStep]
  | take k' =>
    by_cases hk : k' = k
    · simp [deliverStep, hk, foldl_deliverStep_fst]
    · simp [deliverStep, hk]

/-- Every item posted for `k` is returned once, by the first take of `k` after its post, or
still waits in the mailbox; the order is the posting order. -/
theorem delivered_append_pending (k : κ) (ops : List (Op α κ)) :
    delivered key k ops ++ pending key k ops = posted key k ops := by
  induction ops using List.reverseRecOn with
  | nil => rfl
  | append_singleton ops op ih =>
    rw [delivered_append_singleton, pending_append_singleton, posted, List.filterMap_append,
      ← posted, ← ih]
    cases op with
    | post a =>
      by_cases ha : key a = k <;> simp [pendingStep, ha]
    | take k' =>
      by_cases hk : k' = k <;> simp [pendingStep, hk]

end Mailbox
