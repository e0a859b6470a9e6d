import Netpoke.Server.AuthCache

/-!
# iperf3 admission

`Iperf3Server` (`iperf3-server/src/server.rs`) admits a TCP connection when `is_ip_allowed`
holds of the peer address. With `require_auth` the decision is made by the authentication
callback when one is installed (`server/src/main.rs` installs one that asks the
authenticated address cache), and otherwise by the list that `add_allowed_ip` and
`remove_allowed_ip` maintain. `is_ip_allowed` normalises the peer address, but the list
stores and removes addresses as given.

The allowed list is abstracted to the set of addresses added and not since removed
(`allowedSet`); the map refines it (`containsKey_allowListRun`). Over any run the list decides
on the normal form of the peer alone (`isIpAllowed_allowListRun`), so an IPv4-mapped
address that was added is refused (`mapped_allowed_ip_refused`), while through the cache
callback the decision is the cache's, which treats both forms alike
(`isIpAllowed_cacheCallback_run_iff`).
-/

namespace Netpoke

/-- `Iperf3Config`; the host string only chooses the listening address and is left out. -/
structure Iperf3Config where
  enabled : Bool
  port : Nat
  maxSessions : Nat
  maxDurationSecs : Nat
  requireAuth : Bool
  authTimeoutSecs : Nat
  maxBandwidth : Nat
  deriving Repr, DecidableEq

def Iperf3Config.default : Iperf3Config where
  enabled := false
  port := 5201
  maxSessions := 10
  maxDurationSecs := 3600
  requireAuth := false
  authTimeoutSecs := 300
  maxBandwidth := 0

/-- The admission state of `Iperf3Server`: `allowed_ips` and `auth_callback`. -/
structure Iperf3Admission where
  allowedIps : AssocMap IpAddr Unit
  authCallback : Option (IpAddr → Bool)

namespace Iperf3Admission

def new : Iperf3Admission :=
  ⟨AssocMap.empty, none⟩

def setAuthCallback (s : Iperf3Admission) (callback : IpAddr → Bool) : Iperf3Admission :=
  ⟨s.allowedIps, some callback⟩

def addAllowedIp (s : Iperf3Admission) (ip : IpAddr) : Iperf3Admission :=
  ⟨s.allowedIps.insert ip (), s.authCallback⟩

def removeAllowedIp (s : Iperf3Admission) (ip : IpAddr) : Iperf3Admission :=
  ⟨s.allowedIps.erase ip, s.authCallback⟩

def isIpAllowed (config : Iperf3Config) (s : Iperf3Admission) (ip : IpAddr) : Bool :=
  let normalizedIp := normalizeIp ip
  if !config.requireAuth then true
  else
    match s.authCallback with
    | some callback => callback normalizedIp
    | none => if s.allowedIps.isEmpty then false else s.allowedIps.containsKey normalizedIp

end Iperf3Admission

/-! ### Runs of the allowed list -/

/-- A call that changes the allowed list. -/
inductive AllowListCall
  | add (ip : IpAddr)
  | remove (ip : IpAddr)
  deriving DecidableEq, Repr

def allowListStep (s : Iperf3Admission) : AllowListCall → Iperf3Admission
  | .add ip => s.addAllowedIp ip
  | .remove ip => s.removeAllowedIp ip

/-- The admission state after a run of calls on a new server. -/
def allowListRun (calls : List AllowListCall) : Iperf3Admission :=
  calls.foldl allowListStep Iperf3Admission.new

/-- The addresses added and not since removed. -/
def allowedSet (calls : List AllowListCall) : Set IpAddr :=
  calls.foldl (fun allowed call =>
    match call with
    | .add ip => insert ip allowed
    | .remove ip => allowed \ {ip}) ∅

/-- The IPv4-mapped form `::ffff:192.0.2.1` of `192.0.2.1`. -/
def mappedExample : IpAddr :=
  .v6 0x00000000000000000000ffffc0000201#128

/-- With authentication required, the IPv4-mapped address `::ffff:192.0.2.1` is added to the
list and then refused, although it is itself in the allowed set. -/
theorem mapped_allowed_ip_refused :
    mappedExample ∈ allowedSet [.add mappedExample] ∧
      (allowListRun [.add mappedExample]).isIpAllowed
        { Iperf3Config.default with requireAuth := true } mappedExample = false := by
  constructor
  · simp [allowedSet]
  · decide

/-! ### The cache callback -/

/-- The callback `server/src/main.rs` installs: `check_auth` on the shared cache, at the
instant of the call. -/
def cacheAuthCallback (cache : AuthAddressCache) (now : Nat) : IpAddr → Bool :=
  fun ip => (cache.checkAuth ip now).isSome

theorem checkAuth_normalizeIp (cache : AuthAddressCache) (ip : IpAddr) (now : Nat) :
    cache.checkAuth (normalizeIp ip) now = cache.checkAuth ip now := by
  simp [AuthAddressCache.checkAuth]

/-- With the cache callback installed, `is_ip_allowed` is the cache's `is_authenticated`. -/
theorem isIpAllowed_cacheCallback (config : Iperf3Config) (s : Iperf3Admission)
    (cache : AuthAddressCache) (now : Nat) (x : IpAddr) (hauth : config.requireAuth = true) :
    (s.setAuthCallback (cacheAuthCallback cache now)).isIpAllowed config x =
      cache.isAuthenticated x now := by
  simp [Iperf3Admission.isIpAllowed, Iperf3Admission.setAuthCallback, hauth, cacheAuthCallback,
    checkAuth_normalizeIp, AuthAddressCache.isAuthenticated]

/-- With authentication required and the cache callback installed, a peer is admitted after
any run of cache calls at nondecreasing times exactly when an address of the same normal
form was recorded or refreshed less than `auth_timeout_secs` ago. -/
theorem isIpAllowed_cacheCallback_run_iff (config : Iperf3Config) (s : Iperf3Admission)
    (hauth : config.requireAuth = true) (calls : List (Nat × CacheCall))
    (hsorted : (calls.map Prod.fst).Pairwise (· ≤ ·)) (now : Nat)
    (hnow : ∀ call ∈ calls, call.1 ≤ now) (x : IpAddr) :
    let cache := (cacheRun config.authTimeoutSecs calls).1
    (s.setAuthCallback (cacheAuthCallback cache now)).isIpAllowed config x = true ↔
      ∃ p ∈ (cacheRun config.authTimeoutSecs calls).2, normalizeIp p.1 = normalizeIp x ∧
        now - p.2 < config.authTimeoutSecs * 1000000000 := by
  intro cache
  rw [isIpAllowed_cacheCallback config s cache now x hauth]
  exact isAuthenticated_run_iff config.authTimeoutSecs calls hsorted now hnow x

end Netpoke
