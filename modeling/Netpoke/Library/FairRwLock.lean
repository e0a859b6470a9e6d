import Mathlib

/-!
# A fair read-write lock

A read-write lock that serves its waiters in the order they asked: a request is granted at
once only when nobody waits before it, a read needs no writer, and a write needs neither a
writer nor a reader. A release hands the lock to the waiters at the head of the queue, as many
readers as come before the first writer, or that writer once the lock is free.

A task that holds a read guard and asks for the write lock can never get it: its own read
guard is in the way, and it cannot release that guard while it waits. Whatever the other
tasks do, it stays queued, and so does every request queued behind it (`Run.stuck`).
-/

namespace FairRwLock

inductive Mode
  | read
  | write
  deriving DecidableEq, Repr

/-- The lock: the tasks holding read guards (one entry a guard), the task holding the write
guard, and the waiters in order. -/
structure Lock (τ : Type) where
  readers : List τ
  writer : Option τ
  waiting : List (τ × Mode)
  deriving DecidableEq, Repr

variable {τ : Type} [DecidableEq τ]

def Lock.free : Lock τ :=
  ⟨[], none, []⟩

/-- Serves the waiters at the head of the queue that can be served now. -/
def grantFrom (readers : List τ) (writer : Option τ) : List (τ × Mode) → Lock τ
  | [] => ⟨readers, writer, []⟩
  | (t, .read) :: rest =>
    if writer = none then grantFrom (t :: readers) writer rest
    else ⟨readers, writer, (t, .read) :: rest⟩
  | (t, .write) :: rest =>
    if writer = none ∧ readers = [] then ⟨readers, some t, rest⟩
    else ⟨readers, writer, (t, .write) :: rest⟩

/-- `read().await` asked by `t`: granted when nobody waits and nobody writes. -/
def Lock.requestRead (l : Lock τ) (t : τ) : Lock τ :=
  if l.writer = none ∧ l.waiting = [] then ⟨t :: l.readers, l.writer, l.waiting⟩
  else ⟨l.readers, l.writer, l.waiting ++ [(t, .read)]⟩

/-- `write().await` asked by `t`: granted when nobody waits, reads or writes. -/
def Lock.requestWrite (l : Lock τ) (t : τ) : Lock τ :=
  if l.writer = none ∧ l.readers = [] ∧ l.waiting = [] then ⟨l.readers, some t, l.waiting⟩
  else ⟨l.readers, l.writer, l.waiting ++ [(t, .write)]⟩

def Lock.releaseRead (l : Lock τ) (t : τ) : Lock τ :=
  grantFrom (l.readers.erase t) l.writer l.waiting

def Lock.releaseWrite (l : Lock τ) (t : τ) : Lock τ :=
  if l.writer = some t then grantFrom l.readers none l.waiting else l

inductive Event
  | requestRead
  | requestWrite
  | releaseRead
  | releaseWrite
  deriving DecidableEq, Repr

def Lock.step (l : Lock τ) : τ × Event → Lock τ
  | (t, .requestRead) => l.requestRead t
  | (t, .requestWrite) => l.requestWrite t
  | (t, .releaseRead) => l.releaseRead t
  | (t, .releaseWrite) => l.releaseWrite t

def Lock.run (l : Lock τ) (events : List (τ × Event)) : Lock τ :=
  events.foldl Lock.step l

/-- `t` holds a read guard and waits for the write lock, with at least `behind` queued after
it. -/
def Stuck (t : τ) (behind : List (τ × Mode)) (l : Lock τ) : Prop :=
  t ∈ l.readers ∧ ∃ before after, l.waiting = before ++ (t, .write) :: after ∧ behind.Sublist after

omit [DecidableEq τ] in
/-- Serving the queue never gets past a write request whose task holds a read guard, and
adds readers without removing any. -/
theorem grantFrom_stuck {t : τ} {readers : List τ} (ht : t ∈ readers) (writer : Option τ)
    (before after : List (τ × Mode)) :
    t ∈ (grantFrom readers writer (before ++ (t, .write) :: after)).readers ∧
      ∃ before', (grantFrom readers writer (before ++ (t, .write) :: after)).waiting =
        before' ++ (t, .write) :: after := by
  induction before generalizing readers with
  | nil =>
    have hne : readers ≠ [] := List.ne_nil_of_mem ht
    simp only [List.nil_append, grantFrom, hne, and_false, if_false]
    exact ⟨ht, [], rfl⟩
  | cons w before ih =>
    obtain ⟨u, mode⟩ := w
    cases mode with
    | read =>
      simp only [List.cons_append, grantFrom]
      split
      · exact ih (List.mem_cons_of_mem _ ht)
      · exact ⟨ht, (u, .read) :: before, rfl⟩
    | write =>
      simp only [List.cons_append, grantFrom]
      split
      · rename_i hfree
        exact absurd hfree.2 (List.ne_nil_of_mem ht)
      · exact ⟨ht, (u, .write) :: before, rfl⟩

/-- Every event of another task leaves a stuck task stuck, with the requests behind it still
behind it. -/
theorem Stuck.step {t : τ} {behind : List (τ × Mode)} {l : Lock τ} (h : Stuck t behind l)
    {u : τ} (hu : u ≠ t) (e : Event) : Stuck t behind (l.step (u, e)) := by
  obtain ⟨ht, before, after, hwaiting, hbehind⟩ := h
  cases e with
  | requestRead =>
    simp only [Lock.step, Lock.requestRead]
    have hq : ¬ (l.writer = none ∧ l.waiting = []) := fun hc => by simp [hwaiting] at hc
    rw [if_neg hq]
    exact ⟨ht, before, after ++ [(u, .read)], by simp [hwaiting],
      hbehind.trans (List.sublist_append_left _ _)⟩
  | requestWrite =>
    simp only [Lock.step, Lock.requestWrite]
    have hq : ¬ (l.writer = none ∧ l.readers = [] ∧ l.waiting = []) :=
      fun hc => List.ne_nil_of_mem ht hc.2.1
    rw [if_neg hq]
    exact ⟨ht, before, after ++ [(u, .write)], by simp [hwaiting],
      hbehind.trans (List.sublist_append_left _ _)⟩
  | releaseRead =>
    simp only [Lock.step, Lock.releaseRead]
    have ht' : t ∈ l.readers.erase u := (List.mem_erase_of_ne (Ne.symm hu)).mpr ht
    rw [hwaiting]
    obtain ⟨hr, before', hw⟩ := grantFrom_stuck ht' l.writer before after
    exact ⟨hr, before', after, hw, hbehind⟩
  | releaseWrite =>
    simp only [Lock.step, Lock.releaseWrite]
    split
    · rw [hwaiting]
      obtain ⟨hr, before', hw⟩ := grantFrom_stuck ht none before after
      exact ⟨hr, before', after, hw, hbehind⟩
    · exact ⟨ht, before, after, hwaiting, hbehind⟩

/-- Over any run of events of other tasks, a stuck task stays stuck: it never gets the write
lock, and no request queued behind it is served. -/
theorem Run.stuck {t : τ} {behind : List (τ × Mode)} {l : Lock τ} (h : Stuck t behind l)
    (events : List (τ × Event)) (hothers : ∀ e ∈ events, e.1 ≠ t) :
    Stuck t behind (l.run events) := by
  induction events generalizing l with
  | nil => exact h
  | cons e events ih =>
    obtain ⟨u, ev⟩ := e
    exact ih (h.step (hothers (u, ev) List.mem_cons_self) ev)
      (fun e he => hothers e (List.mem_cons_of_mem _ he))

/-- A request of another task made while a task is stuck is queued behind it. -/
theorem Stuck.request {t : τ} {behind : List (τ × Mode)} {l : Lock τ} (h : Stuck t behind l)
    (u : τ) :
    Stuck t (behind ++ [(u, .read)]) (l.step (u, .requestRead)) ∧
      Stuck t (behind ++ [(u, .write)]) (l.step (u, .requestWrite)) := by
  obtain ⟨ht, before, after, hwaiting, hbehind⟩ := h
  have hread : ¬ (l.writer = none ∧ l.waiting = []) := fun hc => by simp [hwaiting] at hc
  have hwrite : ¬ (l.writer = none ∧ l.readers = [] ∧ l.waiting = []) :=
    fun hc => List.ne_nil_of_mem ht hc.2.1
  constructor
  · simp only [Lock.step, Lock.requestRead, if_neg hread]
    exact ⟨ht, before, after ++ [(u, .read)], by simp [hwaiting], hbehind.append_right _⟩
  · simp only [Lock.step, Lock.requestWrite, if_neg hwrite]
    exact ⟨ht, before, after ++ [(u, .write)], by simp [hwaiting], hbehind.append_right _⟩

end FairRwLock
