import Netpoke.Server.Diagnostics

/-!
# The DTLS keylog store over runs of calls

`KeylogStorage` keeps the eviction order `session_order` beside the map of sessions. Over any run
of `add_keylog` and `clear` calls the two stay in lock-step (`Inv`): the order lists every stored
session once and nothing else, never the empty id, and at most `max(1, max_sessions)` of them,
since the eviction loop stops either below the bound or with nothing left to evict. A new
session is appended at the end after the oldest ones are dropped from the front, so eviction is
first in, first out; and a stored session holds exactly the entries added for it since it was
last inserted.
-/

namespace Netpoke

open scoped List

namespace KeylogStorage

/-- The order and the map in lock-step. -/
structure Inv (s : KeylogStorage) : Prop where
  nodup : s.sessionOrder.Nodup
  mem_iff : ∀ k, k ∈ s.sessionOrder ↔ s.sessions.containsKey k = true
  empty_absent : [] ∉ s.sessionOrder
  length_le : s.sessionOrder.length ≤ max 1 s.config.maxSessions

theorem Inv.size_eq {s : KeylogStorage} (h : s.Inv) : s.sessions.size = s.sessionOrder.length :=
  AssocMap.size_eq_length h.nodup h.mem_iff

theorem inv_new (config : DtlsKeylogConfig) : (new config).Inv where
  nodup := List.nodup_nil
  mem_iff k := by simp [new, AssocMap.containsKey]
  empty_absent := List.not_mem_nil
  length_le := Nat.zero_le _

theorem inv_clear (s : KeylogStorage) : s.clear.Inv where
  nodup := List.nodup_nil
  mem_iff k := by simp [KeylogStorage.clear, AssocMap.containsKey]
  empty_absent := List.not_mem_nil
  length_le := Nat.zero_le _

/-- The eviction loop drops the first `order.length + 1 - max 1 maxSessions` sessions of the order
from both: it evicts until one place is free, and evicts everything when `max_sessions` is 0. -/
theorem evictOldest_spec (maxSessions : Nat)
    (sessions : AssocMap (List Char) (List DtlsKeylogEntry)) (order : List (List Char))
    (hnodup : order.Nodup) (hmem : ∀ k, k ∈ order ↔ sessions.containsKey k = true) :
    (evictOldest maxSessions sessions order).2 =
        order.drop (order.length + 1 - max 1 maxSessions) ∧
      ∀ k, (evictOldest maxSessions sessions order).1.get k =
        if k ∈ order.drop (order.length + 1 - max 1 maxSessions) then sessions.get k else none := by
  have hout : ∀ k, k ∉ order → sessions.get k = none := fun k hk => by
    have hcontains : sessions.containsKey k = false := by
      cases hc : sessions.containsKey k
      · rfl
      · exact absurd ((hmem k).mpr hc) hk
    simpa [AssocMap.containsKey] using hcontains
  induction order generalizing sessions with
  | nil =>
    simp only [evictOldest, List.drop_nil, List.not_mem_nil, if_false, true_and]
    exact fun k => hout k List.not_mem_nil
  | cons oldest rest ih =>
    have hfresh : oldest ∉ rest := (List.nodup_cons.mp hnodup).1
    have hsize := AssocMap.size_eq_length hnodup hmem
    rw [List.length_cons] at hsize ⊢
    unfold evictOldest
    split
    · -- the oldest goes; the loop goes on with the rest
      rename_i hfull
      have hmem' : ∀ k, k ∈ rest ↔ (sessions.erase oldest).containsKey k = true := by
        intro k
        by_cases hk : k = oldest
        · subst hk
          simp [hfresh, AssocMap.containsKey]
        · rw [AssocMap.containsKey, AssocMap.get_erase_ne _ hk, ← AssocMap.containsKey,
            ← hmem k]
          simp [hk]
      have hout' : ∀ k, k ∉ rest → (sessions.erase oldest).get k = none := fun k hk => by
        by_cases hko : k = oldest
        · subst hko
          exact AssocMap.get_erase_self _ _
        · rw [AssocMap.get_erase_ne _ hko]
          exact hout k (by simp [hko, hk])
      obtain ⟨horder, hget⟩ :=
        ih (sessions.erase oldest) (List.nodup_cons.mp hnodup).2 hmem' hout'
      have hcount : rest.length + 1 + 1 - max 1 maxSessions =
          (rest.length + 1 - max 1 maxSessions) + 1 := by omega
      rw [hcount, List.drop_succ_cons]
      refine ⟨horder, fun k => ?_⟩
      rw [hget k]
      split
      · rename_i hk
        have hne : k ≠ oldest := fun heq => hfresh (heq ▸ List.mem_of_mem_drop hk)
        rw [AssocMap.get_erase_ne _ hne]
      · rfl
    · have hcount : rest.length + 1 + 1 - max 1 maxSessions = 0 := by omega
      rw [hcount, List.drop_zero]
      refine ⟨rfl, fun k => ?_⟩
      split
      · rfl
      · rename_i hk
        exact hout k hk

@[simp] theorem config_addEntry (s : KeylogStorage) (surveySessionId : List Char)
    (entry : DtlsKeylogEntry) : (s.addEntry surveySessionId entry).config = s.config := by
  unfold addEntry
  split
  · rfl
  · dsimp only
    split <;> rfl

/-- A new session goes at the end of the order, after the oldest are evicted. -/
theorem addEntry_new_session {s : KeylogStorage} (h : s.Inv) {surveySessionId : List Char}
    (entry : DtlsKeylogEntry) (hid : surveySessionId ≠ [])
    (hnew : s.sessions.containsKey surveySessionId = false) :
    (s.addEntry surveySessionId entry).sessionOrder =
        s.sessionOrder.drop (s.sessionOrder.length + 1 - max 1 s.config.maxSessions) ++
          [surveySessionId] ∧
      ∀ k, (s.addEntry surveySessionId entry).sessions.get k =
        if k = surveySessionId then some [entry]
        else if k ∈ s.sessionOrder.drop (s.sessionOrder.length + 1 - max 1 s.config.maxSessions)
          then s.sessions.get k else none := by
  obtain ⟨horder, hget⟩ :=
    evictOldest_spec s.config.maxSessions s.sessions s.sessionOrder h.nodup h.mem_iff
  have hempty : surveySessionId.isEmpty = false := List.isEmpty_eq_false_iff.mpr hid
  refine ⟨?_, fun k => ?_⟩
  · simp [addEntry, hempty, hnew, horder]
  · simp only [addEntry, hempty, hnew, Bool.false_eq_true, if_false, Bool.not_false, if_true]
    by_cases hk : k = surveySessionId
    · subst hk
      rw [AssocMap.get_insert_self, hget, if_neg (fun hmem => ?_), if_pos rfl]
      · rfl
      · have := (h.mem_iff k).mp (List.mem_of_mem_drop hmem)
        rw [hnew] at this
        cases this
    · rw [AssocMap.get_insert_ne _ _ hk, hget, if_neg hk]

/-- A stored session only gets the entry appended; the order and the stored ids stay. -/
theorem addEntry_stored_session (s : KeylogStorage) {surveySessionId : List Char}
    (entry : DtlsKeylogEntry) (hstored : s.sessions.containsKey surveySessionId = true) :
    (s.addEntry surveySessionId entry).sessionOrder = s.sessionOrder ∧
      ∀ k, (s.addEntry surveySessionId entry).sessions.containsKey k =
        s.sessions.containsKey k := by
  unfold addEntry
  split
  · simp
  · simp only [hstored, Bool.not_true, Bool.false_eq_true, if_false]
    refine ⟨trivial, fun k => ?_⟩
    by_cases hk : k = surveySessionId
    · subst hk
      simpa [AssocMap.containsKey] using hstored
    · simp only [AssocMap.containsKey]
      rw [AssocMap.get_insert_ne _ _ hk]

theorem Inv.addEntry {s : KeylogStorage} (h : s.Inv) (surveySessionId : List Char)
    (entry : DtlsKeylogEntry) : (s.addEntry surveySessionId entry).Inv := by
  by_cases hid : surveySessionId = []
  · subst hid
    simpa [KeylogStorage.addEntry] using h
  cases hstored : s.sessions.containsKey surveySessionId with
  | true =>
    obtain ⟨horder, hcontains⟩ := addEntry_stored_session s entry hstored
    refine ⟨horder ▸ h.nodup, fun k => ?_, horder ▸ h.empty_absent, ?_⟩
    · rw [horder, hcontains]
      exact h.mem_iff k
    · rw [horder, config_addEntry]
      exact h.length_le
  | false =>
    obtain ⟨horder, hget⟩ := addEntry_new_session h entry hid hstored
    have hfresh : surveySessionId ∉
        s.sessionOrder.drop (s.sessionOrder.length + 1 - max 1 s.config.maxSessions) :=
      fun hmem => by
        have := (h.mem_iff _).mp (List.mem_of_mem_drop hmem)
        rw [hstored] at this
        cases this
    refine ⟨?_, fun k => ?_, ?_, ?_⟩
    · rw [horder, List.nodup_append]
      refine ⟨h.nodup.sublist (List.drop_sublist _ _), List.nodup_singleton _, ?_⟩
      intro a ha b hb hab
      rw [List.mem_singleton] at hb
      rw [hab, hb] at ha
      exact hfresh ha
    · rw [horder, AssocMap.containsKey, hget, List.mem_append, List.mem_singleton]
      by_cases hk : k = surveySessionId
      · simp [hk]
      · rw [if_neg hk]
        split
        · rename_i hmem
          simp only [hmem, hk, or_false, true_iff]
          exact (h.mem_iff k).mp (List.mem_of_mem_drop hmem)
        · rename_i hmem
          simp [hmem, hk]
    · rw [horder]
      simp only [List.mem_append, List.mem_singleton, not_or]
      exact ⟨fun hmem => h.empty_absent (List.mem_of_mem_drop hmem), Ne.symm hid⟩
    · rw [horder, config_addEntry, List.length_append, List.length_drop, List.length_singleton]
      omega

/-! ### Runs of calls -/

/-- One call: `add_entry` of a handshake's secrets under a session id, or `clear`. -/
def step (s : KeylogStorage) : KeylogEvent → KeylogStorage
  | .add surveySessionId clientRandom masterSecret =>
    s.addEntry surveySessionId ⟨clientRandom, masterSecret⟩
  | .clear => s.clear

def run (s : KeylogStorage) (events : List KeylogEvent) : KeylogStorage :=
  events.foldl step s

theorem run_append_singleton (s : KeylogStorage) (events : List KeylogEvent)
    (event : KeylogEvent) : s.run (events ++ [event]) = (s.run events).step event := by
  rw [run, List.foldl_append]
  rfl

@[simp] theorem config_step (s : KeylogStorage) (event : KeylogEvent) :
    (s.step event).config = s.config := by
  cases event with
  | add surveySessionId clientRandom masterSecret => exact config_addEntry _ _ _
  | clear => rfl

theorem config_run (s : KeylogStorage) (events : List KeylogEvent) :
    (s.run events).config = s.config := by
  induction events generalizing s with
  | nil => rfl
  | cons event events ih => exact (ih (s.step event)).trans (config_step s event)

theorem Inv.step {s : KeylogStorage} (h : s.Inv) (event : KeylogEvent) : (s.step event).Inv := by
  cases event with
  | add surveySessionId clientRandom masterSecret => exact h.addEntry _ _
  | clear => exact inv_clear s

theorem Inv.run {s : KeylogStorage} (h : s.Inv) (events : List KeylogEvent) :
    (s.run events).Inv := by
  induction events generalizing s with
  | nil => exact h
  | cons event events ih => exact ih (h.step event)

theorem addedFor_append (k : List Char) (events events' : List KeylogEvent) :
    DtlsKeylogService.addedFor k (events ++ events') =
      DtlsKeylogService.addedFor k events ++ DtlsKeylogService.addedFor k events' :=
  List.filterMap_append

/-- After one call a stored session either was stored and gained what the call added under it,
or was just inserted by the call. -/
theorem getEntries_step {s : KeylogStorage} (h : s.Inv) (event : KeylogEvent) {k : List Char}
    (hk : (s.step event).sessions.containsKey k = true) :
    (s.sessions.containsKey k = true ∧ (s.step event).getEntries k =
        some ((s.getEntries k).getD [] ++ DtlsKeylogService.addedFor k [event])) ∨
      (s.sessions.containsKey k = false ∧
        (s.step event).getEntries k = some (DtlsKeylogService.addedFor k [event])) := by
  cases event with
  | clear => simp [step, KeylogStorage.clear, AssocMap.containsKey, AssocMap.get_empty] at hk
  | add surveySessionId clientRandom masterSecret =>
    by_cases hsame : surveySessionId = k
    · -- the call adds under this very session, which is not the empty id
      subst hsame
      have hid : surveySessionId ≠ [] := by
        rintro rfl
        exact h.empty_absent ((h.mem_iff []).mpr (by simpa [step, addEntry] using hk))
      have hadded : DtlsKeylogService.addedFor surveySessionId
          [.add surveySessionId clientRandom masterSecret] = [⟨clientRandom, masterSecret⟩] := by
        simp [DtlsKeylogService.addedFor]
      rw [hadded, step, getEntries_addEntry_self _ _ _ hid]
      cases hstored : s.sessions.containsKey surveySessionId
      · have habsent : s.getEntries surveySessionId = none := by
          simpa [AssocMap.containsKey, getEntries] using hstored
        exact .inr ⟨rfl, by rw [habsent]; rfl⟩
      · exact .inl ⟨rfl, rfl⟩
    · -- any other session keeps its entries, unless the call evicted it
      have hadded : DtlsKeylogService.addedFor k
          [.add surveySessionId clientRandom masterSecret] = [] := by
        simp [DtlsKeylogService.addedFor, hsame]
      have hafter : ((s.addEntry surveySessionId ⟨clientRandom, masterSecret⟩).getEntries
          k).isSome = true := hk
      rw [hadded, List.append_nil]
      rcases getEntries_addEntry_ne s ⟨clientRandom, masterSecret⟩ (Ne.symm hsame) with
        hkeep | hgone
      · rw [hkeep] at hafter
        obtain ⟨l, hl⟩ := Option.isSome_iff_exists.mp hafter
        refine .inl ⟨hafter, ?_⟩
        show (s.addEntry surveySessionId ⟨clientRandom, masterSecret⟩).getEntries k = _
        rw [hkeep, hl]
        rfl
      · rw [hgone] at hafter
        cases hafter

/-- A session stays stored from after the calls `pre` through every prefix of the calls
`post`. -/
def StoredThrough (s : KeylogStorage) (k : List Char) (pre post : List KeylogEvent) : Prop :=
  ∀ n ≤ post.length, (s.run (pre ++ post.take n)).sessions.containsKey k = true

theorem StoredThrough.nil {s : KeylogStorage} {k : List Char} {pre : List KeylogEvent}
    (hk : (s.run pre).sessions.containsKey k = true) : s.StoredThrough k pre [] := by
  intro n hn
  rw [List.take_nil, List.append_nil]
  exact hk

theorem StoredThrough.snoc {s : KeylogStorage} {k : List Char} {pre post : List KeylogEvent}
    (h : s.StoredThrough k pre post) (event : KeylogEvent)
    (hk : (s.run (pre ++ post ++ [event])).sessions.containsKey k = true) :
    s.StoredThrough k pre (post ++ [event]) := by
  intro n hn
  rw [List.length_append, List.length_singleton] at hn
  by_cases hle : n ≤ post.length
  · rw [List.take_append_of_le_length hle]
    exact h n hle
  · have hall : (post ++ [event]).length ≤ n := by
      rw [List.length_append, List.length_singleton]
      omega
    rw [List.take_of_length_le hall, ← List.append_assoc]
    exact hk

/-- A session stored after a run from the new store was inserted by some call of the run, stayed
stored from then on, and holds exactly what the calls since then added under it. -/
theorem getEntries_run_new (config : DtlsKeylogConfig) (events : List KeylogEvent)
    {k : List Char} (hk : ((new config).run events).sessions.containsKey k = true) :
    ∃ pre event post, events = pre ++ event :: post ∧
      ((new config).run pre).sessions.containsKey k = false ∧
      (new config).StoredThrough k (pre ++ [event]) post ∧
      ((new config).run events).getEntries k =
        some (DtlsKeylogService.addedFor k (event :: post)) := by
  induction events using List.reverseRecOn with
  | nil => simp [run, new, AssocMap.containsKey, AssocMap.get_empty] at hk
  | append_singleton events event ih =>
    rw [run_append_singleton] at hk ⊢
    rcases getEntries_step ((inv_new config).run events) event hk with
      ⟨hbefore, hentries⟩ | ⟨hbefore, hentries⟩
    · obtain ⟨pre, first, post, hsplit, hout, hthrough, hget⟩ := ih hbefore
      have hsplit' : events ++ [event] = pre ++ first :: (post ++ [event]) := by
        rw [hsplit, List.append_assoc, List.cons_append]
      refine ⟨pre, first, post ++ [event], hsplit', hout, hthrough.snoc event ?_, ?_⟩
      · have hcalls : pre ++ [first] ++ post ++ [event] = events ++ [event] := by
          rw [hsplit]
          simp
        rw [hcalls, run_append_singleton]
        exact hk
      · rw [hentries, hget, Option.getD_some, ← addedFor_append, List.cons_append]
    · refine ⟨events, event, [], rfl, hbefore, StoredThrough.nil ?_, hentries⟩
      rw [run_append_singleton]
      exact hk

/-- The order is the order of insertion: a session before another in the order was stored, and
stayed stored, from a moment at which the other was not. -/
theorem sessionOrder_run_new (config : DtlsKeylogConfig) (events : List KeylogEvent)
    {k₁ k₂ : List Char} (hk : [k₁, k₂] <+ ((new config).run events).sessionOrder) :
    ∃ pre post, events = pre ++ post ∧
      ((new config).run pre).sessions.containsKey k₂ = false ∧
      (new config).StoredThrough k₁ pre post := by
  induction events using List.reverseRecOn with
  | nil => simp [run, new] at hk
  | append_singleton events event ih =>
    have hinv := (inv_new config).run events
    have hk₁ : ((new config).run (events ++ [event])).sessions.containsKey k₁ = true :=
      (((inv_new config).run _).mem_iff k₁).mp (hk.subset (by simp))
    -- a pair already in order before the call keeps its witness, one call longer
    have extend : [k₁, k₂] <+ ((new config).run events).sessionOrder →
        ∃ pre post, events ++ [event] = pre ++ post ∧
          ((new config).run pre).sessions.containsKey k₂ = false ∧
          (new config).StoredThrough k₁ pre post := by
      intro hprev
      obtain ⟨pre, post, hsplit, hout, hthrough⟩ := ih hprev
      refine ⟨pre, post ++ [event], by rw [hsplit, List.append_assoc], hout,
        hthrough.snoc event ?_⟩
      rw [← hsplit]
      exact hk₁
    rw [run_append_singleton] at hk
    cases event with
    | clear => simp [step, KeylogStorage.clear] at hk
    | add surveySessionId clientRandom masterSecret =>
      by_cases hid : surveySessionId = []
      · subst hid
        exact extend (by simpa [step, addEntry] using hk)
      cases hstored : ((new config).run events).sessions.containsKey surveySessionId with
      | true => exact extend ((addEntry_stored_session _ _ hstored).1 ▸ hk)
      | false =>
        obtain ⟨horder, -⟩ := addEntry_new_session hinv ⟨clientRandom, masterSecret⟩ hid hstored
        rw [step, horder] at hk
        obtain ⟨l₁, l₂, hl, h₁, h₂⟩ := List.sublist_append_iff.mp hk
        rcases List.sublist_singleton.mp h₂ with rfl | rfl
        · rw [List.append_nil] at hl
          exact extend (hl ▸ h₁.trans (List.drop_sublist _ _))
        · -- the pair is an older session and the new one
          have hl' : [k₁] ++ [k₂] = l₁ ++ [surveySessionId] := hl
          obtain ⟨hl₁, hl₂⟩ := List.append_inj' hl' rfl
          subst hl₁
          cases hl₂
          have hbefore : ((new config).run events).sessions.containsKey k₁ = true :=
            (hinv.mem_iff k₁).mp (List.mem_of_mem_drop (h₁.subset List.mem_cons_self))
          refine ⟨events, [.add k₂ clientRandom masterSecret], rfl, hstored,
            (StoredThrough.nil hbefore).snoc _ ?_⟩
          rw [List.append_nil]
          exact hk₁

end KeylogStorage

/-! ### The service over the store -/

namespace DtlsKeylogService

@[simp] theorem config_keylogStep (svc : DtlsKeylogService) (event : KeylogEvent) :
    (svc.keylogStep event).config = svc.config := by
  cases event with
  | add surveySessionId clientRandom masterSecret =>
    simp only [keylogStep, addKeylog]
    split <;> rfl
  | clear => rfl

/-- No line of the file has a newline inside: the hex digits, the space and the label have
none. -/
theorem toSslkeylogLine_no_newline (entry : DtlsKeylogEntry) :
    '\n' ∉ entry.toSslkeylogLine := by
  have hdigit : ∀ n < 16, Nat.digitChar n ≠ '\n' := by decide
  have hhex : ∀ bytes : List UInt8, '\n' ∉ hexEncode bytes := by
    intro bytes hmem
    obtain ⟨b, -, hb⟩ := List.mem_flatMap.mp hmem
    have hlt := UInt8.toNat_lt b
    rcases List.mem_pair.mp hb with h | h
    · exact hdigit _ (by omega) h.symm
    · exact hdigit _ (by omega) h.symm
  -- the label is a string literal: a rewrite that tries to close the goal by rfl would decode it
  intro hmem
  unfold DtlsKeylogEntry.toSslkeylogLine at hmem
  rcases List.mem_append.mp hmem with hmem | hmem
  · rcases List.mem_append.mp hmem with hlabel | hclientRandom
    · exact absurd hlabel (by simp)
    · exact hhex _ hclientRandom
  · rcases List.mem_cons.mp hmem with hspace | hmasterSecret
    · exact absurd hspace (by decide)
    · exact hhex _ hmasterSecret

/-- The keylog file is the session's lines, each ended by a newline. -/
theorem generateKeylogFile_eq_lines (svc : DtlsKeylogService) (surveySessionId : List Char) :
    svc.generateKeylogFile surveySessionId =
      ((svc.getKeylogs surveySessionId).map DtlsKeylogEntry.toSslkeylogLine).flatMap
        (· ++ ['\n']) := by
  unfold generateKeylogFile
  dsimp only
  cases svc.getKeylogs surveySessionId with
  | nil => rfl
  | cons entry rest =>
    rw [if_neg (by simp), CharList.intercalate_append_sep ['\n'] (by simp)]

end DtlsKeylogService

/-! ### The store over every run -/

/-- A new session evicts at most one session, the first of the order, when the store is full. -/
theorem addEntry_evicts_front {s : KeylogStorage} (h : s.Inv) {surveySessionId : List Char}
    (entry : DtlsKeylogEntry) (hid : surveySessionId ≠ [])
    (hnew : s.sessions.containsKey surveySessionId = false) :
    s.sessionOrder.length + 1 - max 1 s.config.maxSessions ≤ 1 ∧
      ∀ k ∈ s.sessionOrder.take (s.sessionOrder.length + 1 - max 1 s.config.maxSessions),
        (s.addEntry surveySessionId entry).sessions.containsKey k = false := by
  obtain ⟨-, hget⟩ := KeylogStorage.addEntry_new_session h entry hid hnew
  refine ⟨by have := h.length_le; omega, fun k hk => ?_⟩
  have hne : k ≠ surveySessionId := by
    rintro rfl
    have := (h.mem_iff k).mp (List.mem_of_mem_take hk)
    rw [hnew] at this
    cases this
  have hkept : k ∉ s.sessionOrder.drop
      (s.sessionOrder.length + 1 - max 1 s.config.maxSessions) := fun hdrop =>
    List.disjoint_of_nodup_append (by rw [List.take_append_drop]; exact h.nodup) hk hdrop
  simp [AssocMap.containsKey, hget k, hne, hkept]

example : ((KeylogStorage.new ⟨0, true⟩).run
    [.add ['a'] [1] [2], .add ['b'] [3] [4], .add ['b'] [5] [6]]).sessionOrder = [['b']] := by
  decide

/-- Over every run of calls from a new store, for every configuration: the order and the map
hold the same sessions once each, at most `max(1, max_sessions)` of them and never the empty id;
a new session evicts at most the first of the order and joins its end; the order is the order of
insertion; a stored session holds what was added under it since it was inserted; and its keylog
file is one `CLIENT_RANDOM` line per entry. -/
theorem keylog_store_fifo (config : DtlsKeylogConfig) (events : List KeylogEvent) :
    ((KeylogStorage.new config).run events).sessionOrder.Nodup ∧
      (∀ k, k ∈ ((KeylogStorage.new config).run events).sessionOrder ↔
        k ∈ ((KeylogStorage.new config).run events).sessions.entries.map Prod.fst) ∧
      ((KeylogStorage.new config).run events).stats.sessionsStored ≤ max 1 config.maxSessions ∧
      ((KeylogStorage.new config).run events).sessions.containsKey [] = false ∧
      (∀ (surveySessionId : List Char) (entry : DtlsKeylogEntry), surveySessionId ≠ [] →
        ((KeylogStorage.new config).run events).sessions.containsKey surveySessionId = false →
        (((KeylogStorage.new config).run events).addEntry surveySessionId entry).sessionOrder =
            ((KeylogStorage.new config).run events).sessionOrder.drop
              (((KeylogStorage.new config).run events).sessionOrder.length + 1 -
                max 1 config.maxSessions) ++ [surveySessionId] ∧
          ((KeylogStorage.new config).run events).sessionOrder.length + 1 -
            max 1 config.maxSessions ≤ 1 ∧
          ∀ k ∈ ((KeylogStorage.new config).run events).sessionOrder.take
              (((KeylogStorage.new config).run events).sessionOrder.length + 1 -
                max 1 config.maxSessions),
            (((KeylogStorage.new config).run events).addEntry surveySessionId
              entry).sessions.containsKey k = false) ∧
      (∀ k₁ k₂, [k₁, k₂] <+ ((KeylogStorage.new config).run events).sessionOrder →
        ∃ pre post, events = pre ++ post ∧
          ((KeylogStorage.new config).run pre).sessions.containsKey k₂ = false ∧
          (KeylogStorage.new config).StoredThrough k₁ pre post) ∧
      (∀ k, ((KeylogStorage.new config).run events).sessions.containsKey k = true →
        ∃ pre event post, events = pre ++ event :: post ∧
          ((KeylogStorage.new config).run pre).sessions.containsKey k = false ∧
          (KeylogStorage.new config).StoredThrough k (pre ++ [event]) post ∧
          ((KeylogStorage.new config).run events).getEntries k =
            some (DtlsKeylogService.addedFor k (event :: post))) ∧
      ∀ svc : DtlsKeylogService, svc.storage = (KeylogStorage.new config).run events →
        ∀ k, svc.generateKeylogFile k =
            (((((KeylogStorage.new config).run events).getEntries k).getD []).map
              DtlsKeylogEntry.toSslkeylogLine).flatMap (· ++ ['\n']) ∧
          ∀ line ∈ ((((KeylogStorage.new config).run events).getEntries k).getD []).map
              DtlsKeylogEntry.toSslkeylogLine,
            "CLIENT_RANDOM ".toList <+: line ∧ '\n' ∉ line := by
  have h := (KeylogStorage.inv_new config).run events
  have hconfig : ((KeylogStorage.new config).run events).config = config :=
    KeylogStorage.config_run _ _
  refine ⟨h.nodup, fun k => ?_, ?_, ?_, fun surveySessionId entry hid hnew => ?_,
    fun k₁ k₂ hk => KeylogStorage.sessionOrder_run_new config events hk,
    fun k hk => KeylogStorage.getEntries_run_new config events hk, fun svc hsvc k => ?_⟩
  · rw [h.mem_iff k, AssocMap.containsKey_iff_mem]
  · have hlen := h.length_le
    rw [hconfig] at hlen
    show ((KeylogStorage.new config).run events).sessions.size ≤ _
    rw [h.size_eq]
    exact hlen
  · cases hempty : ((KeylogStorage.new config).run events).sessions.containsKey []
    · rfl
    · exact absurd ((h.mem_iff []).mpr hempty) h.empty_absent
  · have horder := (KeylogStorage.addEntry_new_session h entry hid hnew).1
    have hfront := addEntry_evicts_front h entry hid hnew
    rw [hconfig] at horder hfront
    exact ⟨horder, hfront⟩
  · refine ⟨?_, fun line hline => ?_⟩
    · rw [DtlsKeylogService.generateKeylogFile_eq_lines, DtlsKeylogService.getKeylogs, hsvc]
    · obtain ⟨entry, -, rfl⟩ := List.mem_map.mp hline
      exact ⟨List.prefix_append _ _ |>.trans (List.prefix_append _ _),
        DtlsKeylogService.toSslkeylogLine_no_newline entry⟩

end Netpoke
