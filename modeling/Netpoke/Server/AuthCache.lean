import Netpoke.Library.AssocMap

/-!
# The authenticated address cache

`server/src/auth_cache.rs` keeps, for every address that recently authenticated over HTTP,
the time of its last authentication; the iperf3 server consults it to admit connections.
Every operation first normalises the address, turning an IPv4-mapped IPv6 address into the
IPv4 address. Time is an `Instant` counted in nanoseconds, and an entry is valid while less
than the timeout has elapsed since it was last set.

Over any run of `record_auth`, `refresh_auth` and `cleanup_expired` calls at nondecreasing
times, an address is authenticated exactly when some address with the same normal form was
recorded, or successfully refreshed, less than the timeout ago (`isAuthenticated_run_iff`).
The proof carries one invariant, `CacheInv`, relating the map to the renewals made so far.
-/

namespace Netpoke

/-- `std::net::IpAddr`, each address as its big-endian bits. -/
inductive IpAddr
  | v4 (bits : BitVec 32)
  | v6 (bits : BitVec 128)
  deriving DecidableEq, Repr

structure SocketAddr where
  ip : IpAddr
  port : Nat
  deriving DecidableEq, Repr

def SocketAddr.isIpv6 (addr : SocketAddr) : Bool :=
  match addr.ip with
  | .v4 _ => false
  | .v6 _ => true

/-- `Ipv6Addr::to_ipv4_mapped`: `::ffff:a.b.c.d` is `a.b.c.d`; other addresses have none. -/
def toIpv4Mapped (bits : BitVec 128) : Option (BitVec 32) :=
  if bits >>> 32 = 0xffff#128 then some (bits.setWidth 32) else none

/-- `normalize_ip`, written identically in `iperf3-server/src/server.rs` and
`server/src/auth_cache.rs`. -/
def normalizeIp : IpAddr → IpAddr
  | .v6 bits =>
    match toIpv4Mapped bits with
    | some v4 => .v4 v4
    | none => .v6 bits
  | .v4 bits => .v4 bits

@[simp] theorem normalizeIp_normalizeIp (ip : IpAddr) : normalizeIp (normalizeIp ip) = normalizeIp ip := by
  cases ip with
  | v4 bits => rfl
  | v6 bits =>
    cases h : toIpv4Mapped bits with
    | none => simp [normalizeIp, h]
    | some v4 => simp [normalizeIp, h]

structure AuthenticatedAddress where
  ip : IpAddr
  userId : List Char
  displayName : Option (List Char)
  lastAuthenticated : Nat
  authSource : List Char
  deriving DecidableEq, Repr

/-- `AuthAddressCache`: the map from normalised addresses and the timeout in nanoseconds. -/
structure AuthAddressCache where
  cache : AssocMap IpAddr AuthenticatedAddress
  timeout : Nat

namespace AuthAddressCache

def new (timeoutSecs : Nat) : AuthAddressCache :=
  ⟨AssocMap.empty, timeoutSecs * 1000000000⟩

def recordAuth (c : AuthAddressCache) (ip : IpAddr) (userId : List Char)
    (displayName : Option (List Char)) (authSource : List Char) (now : Nat) : AuthAddressCache :=
  let normalizedIp := normalizeIp ip
  let entry : AuthenticatedAddress := ⟨normalizedIp, userId, displayName, now, authSource⟩
  { c with cache := c.cache.insert normalizedIp entry }

/-- The entry under `ip`, if any, with its time set to `now` (`get_mut` in `refresh_auth`). -/
def touch (c : AuthAddressCache) (ip : IpAddr) (now : Nat) : AuthAddressCache :=
  ⟨c.cache.modify ip (fun entry => { entry with lastAuthenticated := now }), c.timeout⟩

/-- `refresh_auth` at time `now`: whether an entry was found, and the updated cache. -/
def refreshAuth (c : AuthAddressCache) (ip : IpAddr) (now : Nat) : Bool × AuthAddressCache :=
  let normalizedIp := normalizeIp ip
  match c.cache.get normalizedIp with
  | some _ => (true, c.touch normalizedIp now)
  | none => (false, c)

theorem refreshAuth_of_get_some {c : AuthAddressCache} {ip : IpAddr} {old : AuthenticatedAddress}
    (now : Nat) (h : c.cache.get (normalizeIp ip) = some old) :
    c.refreshAuth ip now = (true, c.touch (normalizeIp ip) now) := by
  simp [refreshAuth, h]

theorem refreshAuth_of_get_none {c : AuthAddressCache} {ip : IpAddr} (now : Nat)
    (h : c.cache.get (normalizeIp ip) = none) : c.refreshAuth ip now = (false, c) := by
  simp [refreshAuth, h]

def checkAuth (c : AuthAddressCache) (ip : IpAddr) (now : Nat) : Option AuthenticatedAddress :=
  match c.cache.get (normalizeIp ip) with
  | some entry => if now - entry.lastAuthenticated < c.timeout then some entry else none
  | none => none

def isAuthenticated (c : AuthAddressCache) (ip : IpAddr) (now : Nat) : Bool :=
  (c.checkAuth ip now).isSome

def cleanupExpired (c : AuthAddressCache) (now : Nat) : AuthAddressCache :=
  { c with cache := c.cache.retain fun _ entry => decide (now - entry.lastAuthenticated < c.timeout) }

end AuthAddressCache

/-- A call on the cache that changes it. -/
inductive CacheCall
  | recordAuth (ip : IpAddr) (userId : List Char) (displayName : Option (List Char))
      (authSource : List Char)
  | refreshAuth (ip : IpAddr)
  | cleanupExpired
  deriving DecidableEq, Repr

/-- One timed call, together with the renewals so far: the address and time of every
`record_auth`, and of every `refresh_auth` that found its entry. -/
def cacheStep (state : AuthAddressCache × List (IpAddr × Nat)) (call : Nat × CacheCall) :
    AuthAddressCache × List (IpAddr × Nat) :=
  match call.2 with
  | .recordAuth ip userId displayName authSource =>
    (state.1.recordAuth ip userId displayName authSource call.1, state.2 ++ [(ip, call.1)])
  | .refreshAuth ip =>
    let (found, cache) := state.1.refreshAuth ip call.1
    (cache, if found then state.2 ++ [(ip, call.1)] else state.2)
  | .cleanupExpired => (state.1.cleanupExpired call.1, state.2)

/-- The cache and the renewals after a run of timed calls on a new cache. -/
def cacheRun (timeoutSecs : Nat) (calls : List (Nat × CacheCall)) :
    AuthAddressCache × List (IpAddr × Nat) :=
  calls.foldl cacheStep (AuthAddressCache.new timeoutSecs, [])

/-- The cache invariant at time `clock`: a stored entry carries the time of the last renewal
of its key, and a key without an entry has only expired renewals. -/
structure CacheInv (c : AuthAddressCache) (renewals : List (IpAddr × Nat)) (clock : Nat) : Prop where
  renewed_le : ∀ p ∈ renewals, p.2 ≤ clock
  present : ∀ k e, c.cache.get k = some e → e.ip = k ∧
    (∃ a, (a, e.lastAuthenticated) ∈ renewals ∧ normalizeIp a = k) ∧
    ∀ p ∈ renewals, normalizeIp p.1 = k → p.2 ≤ e.lastAuthenticated
  absent : ∀ k, c.cache.get k = none → ∀ p ∈ renewals, normalizeIp p.1 = k → c.timeout ≤ clock - p.2

namespace CacheInv

variable {c : AuthAddressCache} {renewals : List (IpAddr × Nat)} {clock : Nat}

theorem init (timeoutSecs : Nat) : CacheInv (AuthAddressCache.new timeoutSecs) [] 0 :=
  ⟨by simp, by simp [AuthAddressCache.new], by simp⟩

theorem advance (h : CacheInv c renewals clock) {later : Nat} (hle : clock ≤ later) :
    CacheInv c renewals later := by
  refine ⟨fun p hp => le_trans (h.renewed_le p hp) hle, h.present, ?_⟩
  intro k hk p hp hpk
  have := h.absent k hk p hp hpk
  omega

theorem recordAuth (h : CacheInv c renewals clock) (ip : IpAddr) (userId : List Char)
    (displayName : Option (List Char)) (authSource : List Char) :
    CacheInv (c.recordAuth ip userId displayName authSource clock) (renewals ++ [(ip, clock)]) clock := by
  refine ⟨?_, ?_, ?_⟩
  · intro p hp
    rcases List.mem_append.mp hp with hp | hp
    · exact h.renewed_le p hp
    · simp at hp
      simp [hp]
  · intro k e hk
    by_cases hkn : k = normalizeIp ip
    · subst hkn
      simp only [AuthAddressCache.recordAuth, AssocMap.get_insert_self, Option.some.injEq] at hk
      subst hk
      refine ⟨rfl, ⟨ip, by simp, rfl⟩, ?_⟩
      intro p hp _
      rcases List.mem_append.mp hp with hp | hp
      · exact h.renewed_le p hp
      · simp at hp
        simp [hp]
    · simp only [AuthAddressCache.recordAuth, AssocMap.get_insert_ne _ _ hkn] at hk
      obtain ⟨hip, ⟨a, ha, hak⟩, hle⟩ := h.present k e hk
      refine ⟨hip, ⟨a, List.mem_append_left _ ha, hak⟩, ?_⟩
      intro p hp hpk
      rcases List.mem_append.mp hp with hp | hp
      · exact hle p hp hpk
      · simp at hp
        simp [hp] at hpk
        exact absurd hpk.symm hkn
  · intro k hk p hp hpk
    by_cases hkn : k = normalizeIp ip
    · subst hkn
      simp [AuthAddressCache.recordAuth] at hk
    · simp only [AuthAddressCache.recordAuth, AssocMap.get_insert_ne _ _ hkn] at hk
      rcases List.mem_append.mp hp with hp | hp
      · exact h.absent k hk p hp hpk
      · simp at hp
        simp [hp] at hpk
        exact absurd hpk.symm hkn

theorem refreshAuth (h : CacheInv c renewals clock) (ip : IpAddr) :
    CacheInv (c.refreshAuth ip clock).2
      (if (c.refreshAuth ip clock).1 then renewals ++ [(ip, clock)] else renewals) clock := by
  cases hold : c.cache.get (normalizeIp ip) with
  | some old =>
    rw [AuthAddressCache.refreshAuth_of_get_some clock hold]
    simp only [if_true]
    refine ⟨?_, ?_, ?_⟩
    · intro p hp
      rcases List.mem_append.mp hp with hp | hp
      · exact h.renewed_le p hp
      · simp at hp
        simp [hp]
    · intro k e hk
      simp only [AuthAddressCache.touch, AssocMap.get_modify] at hk
      by_cases hkn : k = normalizeIp ip
      · subst hkn
        simp only [if_true, hold, Option.map_some, Option.some.injEq] at hk
        subst hk
        refine ⟨(h.present _ old hold).1, ⟨ip, by simp, rfl⟩, ?_⟩
        intro p hp _
        rcases List.mem_append.mp hp with hp | hp
        · exact h.renewed_le p hp
        · simp at hp
          simp [hp]
      · simp only [hkn, if_false] at hk
        obtain ⟨hip, ⟨a, ha, hak⟩, hle⟩ := h.present k e hk
        refine ⟨hip, ⟨a, List.mem_append_left _ ha, hak⟩, ?_⟩
        intro p hp hpk
        rcases List.mem_append.mp hp with hp | hp
        · exact hle p hp hpk
        · simp at hp
          simp [hp] at hpk
          exact absurd hpk.symm hkn
    · intro k hk p hp hpk
      simp only [AuthAddressCache.touch, AssocMap.get_modify] at hk
      by_cases hkn : k = normalizeIp ip
      · subst hkn
        simp [hold] at hk
      · simp only [hkn, if_false] at hk
        rcases List.mem_append.mp hp with hp | hp
        · exact h.absent k hk p hp hpk
        · simp at hp
          simp [hp] at hpk
          exact absurd hpk.symm hkn
  | none =>
    rw [AuthAddressCache.refreshAuth_of_get_none clock hold]
    exact h

theorem cleanupExpired (h : CacheInv c renewals clock) :
    CacheInv (c.cleanupExpired clock) renewals clock := by
  refine ⟨h.renewed_le, ?_, ?_⟩
  · intro k e hk
    simp only [AuthAddressCache.cleanupExpired, AssocMap.get_retain] at hk
    cases hold : c.cache.get k with
    | none => simp [hold] at hk
    | some old =>
      rw [hold] at hk
      by_cases hlive : clock - old.lastAuthenticated < c.timeout
      · simp only [Option.bind_some, hlive, decide_true, if_true, Option.some.injEq] at hk
        subst hk
        exact h.present k old hold
      · simp [hlive] at hk
  · intro k hk p hp hpk
    simp only [AuthAddressCache.cleanupExpired, AssocMap.get_retain] at hk
    cases hold : c.cache.get k with
    | none => exact h.absent k hold p hp hpk
    | some old =>
      rw [hold] at hk
      by_cases hlive : clock - old.lastAuthenticated < c.timeout
      · simp [hlive] at hk
      · have hle := (h.present k old hold).2.2 p hp hpk
        show c.timeout ≤ clock - p.2
        omega

/-- At any time after the invariant's clock, an address is authenticated exactly when a
renewal with its normal form is younger than the timeout. -/
theorem isAuthenticated_iff (h : CacheInv c renewals clock) {now : Nat} (hnow : clock ≤ now)
    (x : IpAddr) : c.isAuthenticated x now = true ↔
      ∃ p ∈ renewals, normalizeIp p.1 = normalizeIp x ∧ now - p.2 < c.timeout := by
  unfold AuthAddressCache.isAuthenticated AuthAddressCache.checkAuth
  cases hk : c.cache.get (normalizeIp x) with
  | none =>
    simp only [Option.isSome_none, Bool.false_eq_true, false_iff, not_exists, not_and]
    intro p hp hpk
    have := h.absent _ hk p hp hpk
    omega
  | some e =>
    obtain ⟨_, ⟨a, ha, hak⟩, hle⟩ := h.present _ e hk
    constructor
    · intro hlive
      by_cases hlt : now - e.lastAuthenticated < c.timeout
      · exact ⟨(a, e.lastAuthenticated), ha, hak, hlt⟩
      · simp [hlt] at hlive
    · rintro ⟨p, hp, hpk, hlt⟩
      have := hle p hp hpk
      have hlt' : now - e.lastAuthenticated < c.timeout := by omega
      simp [hlt']

end CacheInv

theorem cacheStep_inv {state : AuthAddressCache × List (IpAddr × Nat)} {clock : Nat}
    (h : CacheInv state.1 state.2 clock) (call : Nat × CacheCall) (hle : clock ≤ call.1) :
    CacheInv (cacheStep state call).1 (cacheStep state call).2 call.1 := by
  have ha := h.advance hle
  obtain ⟨time, call⟩ := call
  cases call with
  | recordAuth ip userId displayName authSource => exact ha.recordAuth ip userId displayName authSource
  | refreshAuth ip => exact ha.refreshAuth ip
  | cleanupExpired => exact ha.cleanupExpired

theorem foldl_cacheStep_inv (calls : List (Nat × CacheCall)) :
    ∀ (state : AuthAddressCache × List (IpAddr × Nat)) (clock : Nat),
      CacheInv state.1 state.2 clock → (clock :: calls.map Prod.fst).Pairwise (· ≤ ·) →
      CacheInv (calls.foldl cacheStep state).1 (calls.foldl cacheStep state).2
        ((clock :: calls.map Prod.fst).getLast (List.cons_ne_nil _ _)) := by
  induction calls with
  | nil => intro state clock h _; simpa using h
  | cons call calls ih =>
    intro state clock h hsorted
    have hle : clock ≤ call.1 := List.rel_of_pairwise_cons hsorted (List.mem_cons_self)
    have hstep := cacheStep_inv h call hle
    have hrest := ih (cacheStep state call) call.1 hstep (List.pairwise_cons.mp hsorted).2
    simpa [List.getLast_cons] using hrest

/-- Over any run of record, refresh and cleanup calls at nondecreasing times, an address is
authenticated at a later time exactly when some address with the same normal form was
recorded, or refreshed while its entry was present, less than the timeout ago. -/
theorem isAuthenticated_run_iff (timeoutSecs : Nat) (calls : List (Nat × CacheCall))
    (hsorted : (calls.map Prod.fst).Pairwise (· ≤ ·)) (now : Nat)
    (hnow : ∀ call ∈ calls, call.1 ≤ now) (x : IpAddr) :
    (cacheRun timeoutSecs calls).1.isAuthenticated x now = true ↔
      ∃ p ∈ (cacheRun timeoutSecs calls).2, normalizeIp p.1 = normalizeIp x ∧
        now - p.2 < timeoutSecs * 1000000000 := by
  have hsorted0 : (0 :: calls.map Prod.fst).Pairwise (· ≤ ·) :=
    List.pairwise_cons.mpr ⟨fun _ _ => Nat.zero_le _, hsorted⟩
  have hinv := foldl_cacheStep_inv calls (AuthAddressCache.new timeoutSecs, []) 0
    (CacheInv.init timeoutSecs) hsorted0
  have hclock : (0 :: calls.map Prod.fst).getLast (List.cons_ne_nil _ _) ≤ now := by
    have hmem := List.getLast_mem (List.cons_ne_nil 0 (calls.map Prod.fst))
    rcases List.mem_cons.mp hmem with h0 | hcall
    · rw [h0]
      exact Nat.zero_le _
    · obtain ⟨call, hcall, heq⟩ := List.mem_map.mp hcall
      rw [← heq]
      exact hnow call hcall
  have htimeout : (cacheRun timeoutSecs calls).1.timeout = timeoutSecs * 1000000000 := by
    have hkeep : ∀ (calls : List (Nat × CacheCall)) (state : AuthAddressCache × List (IpAddr × Nat)),
        (calls.foldl cacheStep state).1.timeout = state.1.timeout := by
      intro calls
      induction calls with
      | nil => intro state; rfl
      | cons call calls ih =>
        intro state
        rw [List.foldl_cons, ih]
        obtain ⟨time, call⟩ := call
        cases call with
        | recordAuth => rfl
        | refreshAuth ip =>
          simp only [cacheStep, AuthAddressCache.refreshAuth]
          split <;> rfl
        | cleanupExpired => rfl
    exact hkeep calls _
  rw [← htimeout]
  exact hinv.isAuthenticated_iff hclock x

end Netpoke
