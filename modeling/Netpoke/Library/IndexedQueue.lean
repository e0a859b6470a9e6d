import Netpoke.Library.AssocMap

/-!
# Queues indexed by key

A queue of records kept beside a map from each record's key to the record, as a `VecDeque` next
to a `HashMap`: a record is pushed at the back and inserted, records are popped at the front while
a test holds and removed, or both are cleared. `Agrees` says that the map holds exactly the queued
records, each under its key, and that no two share a key. Every operation keeps it, a push as long
as its key is fresh (`Agrees.pushBack`, `Agrees.popFrontWhile`); popping leaves a suffix of the
queue (`popFrontWhile_suffix`), so keys pushed in increasing order stay so.

A queue of records in order of arrival, popped at the front while the record is older than a
cutoff, keeps exactly the records that arrived at or after it (`dropWhile_eq_filter_of_pairwise`),
and a later cutoff within the window of an earlier one gives the later window
(`filter_ge_filter_ge`).
-/

namespace IndexedQueue

variable {κ β : Type} [DecidableEq κ] (key : β → κ)

/-- `push_back` of `b` and `insert` under its key. -/
def pushBack (queue : List β) (index : AssocMap κ β) (b : β) : List β × AssocMap κ β :=
  (queue ++ [b], index.insert (key b) b)

/-- While the front record passes `p`, `pop_front` it and `remove` its key. -/
def popFrontWhile (p : β → Bool) : List β → AssocMap κ β → List β × AssocMap κ β
  | [], index => ([], index)
  | b :: rest, index =>
    if p b then popFrontWhile p rest (index.erase (key b)) else (b :: rest, index)

/-- The index holds exactly the queued records, each under its own key, and keys are not
repeated. -/
structure Agrees (queue : List β) (index : AssocMap κ β) : Prop where
  get_iff : ∀ k b, index.get k = some b ↔ b ∈ queue ∧ key b = k
  nodup : (queue.map key).Nodup

variable {key}

theorem agrees_nil : Agrees key [] (AssocMap.empty : AssocMap κ β) :=
  ⟨fun k b => by simp, List.nodup_nil⟩

theorem Agrees.pushBack {queue : List β} {index : AssocMap κ β} (h : Agrees key queue index)
    {b : β} (hfresh : key b ∉ queue.map key) :
    Agrees key (IndexedQueue.pushBack key queue index b).1
      (IndexedQueue.pushBack key queue index b).2 := by
  refine ⟨fun k b' => ?_, ?_⟩
  · unfold IndexedQueue.pushBack
    rw [List.mem_append, List.mem_singleton]
    by_cases hk : k = key b
    · -- the new key finds the new record only: an old one under it would not be fresh
      rw [hk, AssocMap.get_insert_self, Option.some.injEq]
      constructor
      · rintro rfl
        exact ⟨.inr rfl, rfl⟩
      · rintro ⟨hold | rfl, hkey⟩
        · exact absurd (List.mem_map.mpr ⟨b', hold, hkey⟩) hfresh
        · rfl
    · rw [AssocMap.get_insert_ne _ _ hk, h.get_iff]
      constructor
      · rintro ⟨hold, hkey⟩
        exact ⟨.inl hold, hkey⟩
      · rintro ⟨hold | rfl, hkey⟩
        · exact ⟨hold, hkey⟩
        · exact absurd hkey.symm hk
  · unfold IndexedQueue.pushBack
    rw [List.map_append, List.nodup_append]
    refine ⟨h.nodup, List.nodup_singleton _, ?_⟩
    intro a ha c hc hac
    rw [List.map_singleton, List.mem_singleton] at hc
    rw [hac, hc] at ha
    exact hfresh ha

theorem Agrees.tail {b : β} {rest : List β} {index : AssocMap κ β}
    (h : Agrees key (b :: rest) index) : Agrees key rest (index.erase (key b)) := by
  have hfresh : key b ∉ rest.map key := (List.nodup_cons.mp h.nodup).1
  refine ⟨fun k b' => ?_, (List.nodup_cons.mp h.nodup).2⟩
  by_cases hk : k = key b
  · rw [hk, AssocMap.get_erase_self]
    constructor
    · intro hnone
      cases hnone
    · rintro ⟨hrest, hkey⟩
      exact absurd (List.mem_map.mpr ⟨b', hrest, hkey⟩) hfresh
  · rw [AssocMap.get_erase_ne _ hk, h.get_iff, List.mem_cons]
    constructor
    · rintro ⟨rfl | hrest, hkey⟩
      · exact absurd hkey.symm hk
      · exact ⟨hrest, hkey⟩
    · rintro ⟨hrest, hkey⟩
      exact ⟨.inr hrest, hkey⟩

theorem Agrees.popFrontWhile (p : β → Bool) :
    ∀ {queue : List β} {index : AssocMap κ β}, Agrees key queue index →
      Agrees key (IndexedQueue.popFrontWhile key p queue index).1
        (IndexedQueue.popFrontWhile key p queue index).2
  | [], _, h => h
  | b :: rest, index, h => by
    unfold IndexedQueue.popFrontWhile
    by_cases hp : p b = true
    · rw [if_pos hp]
      exact Agrees.popFrontWhile p h.tail
    · rw [if_neg hp]
      exact h

theorem popFrontWhile_suffix (p : β → Bool) :
    ∀ (queue : List β) (index : AssocMap κ β),
      (IndexedQueue.popFrontWhile key p queue index).1 <:+ queue
  | [], _ => List.suffix_refl []
  | b :: rest, index => by
    unfold IndexedQueue.popFrontWhile
    by_cases hp : p b = true
    · rw [if_pos hp]
      exact (popFrontWhile_suffix p rest _).trans (List.suffix_cons b rest)
    · rw [if_neg hp]

/-! ### Queues in order of arrival -/

section Arrival

variable {γ : Type} (time : γ → Nat)

theorem dropWhile_eq_filter_of_pairwise {cutoff : Nat} :
    ∀ {queue : List γ}, queue.Pairwise (fun a b => time a ≤ time b) →
      queue.dropWhile (fun b => time b < cutoff) = queue.filter fun b => time b ≥ cutoff
  | [], _ => rfl
  | b :: rest, h => by
    obtain ⟨hb, hrest⟩ := List.pairwise_cons.mp h
    by_cases hold : time b < cutoff
    · rw [List.dropWhile_cons_of_pos (by simpa using hold),
        List.filter_cons_of_neg (by simpa using hold)]
      exact dropWhile_eq_filter_of_pairwise hrest
    · -- every record behind the front one arrived no earlier
      have hkeep : ∀ c ∈ rest, time c ≥ cutoff := fun c hc =>
        le_trans (Nat.not_lt.mp hold) (hb c hc)
      rw [List.dropWhile_cons_of_neg (by simpa using hold),
        List.filter_cons_of_pos (by simpa using Nat.not_lt.mp hold),
        List.filter_eq_self.mpr (by simpa using hkeep)]

theorem filter_ge_filter_ge {c c' : Nat} (h : c' ≤ c) (queue : List γ) :
    (queue.filter fun b => time b ≥ c').filter (fun b => time b ≥ c) =
      queue.filter fun b => time b ≥ c := by
  rw [List.filter_filter]
  apply List.filter_congr
  intro b _
  by_cases hb : time b ≥ c
  · have : time b ≥ c' := le_trans h hb
    simp [hb, this]
  · simp [hb]

/-- A record pushed at the back survives a prune whose cutoff it does not precede. -/
theorem mem_dropWhile_append_singleton {cutoff : Nat} (queue : List γ) {b : γ}
    (hb : cutoff ≤ time b) : b ∈ (queue ++ [b]).dropWhile fun c => time c < cutoff := by
  rw [List.dropWhile_append]
  split
  · rw [List.dropWhile_cons_of_neg (by simpa using hb)]
    exact List.mem_singleton_self b
  · exact List.mem_append_right _ (List.mem_singleton_self b)

end Arrival

end IndexedQueue
