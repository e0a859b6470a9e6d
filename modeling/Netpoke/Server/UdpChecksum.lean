import Netpoke.Library.OnesComplement
import Netpoke.Server.IcmpCorrelation

/-!
# UDP checksums of tracked packets

`calculate_udp_checksum_v4` and `calculate_udp_checksum_v6` (`server/src/tracking_channel.rs`)
compute the checksum of a datagram the UDP layer sends, so that an ICMP error quoting its UDP
header can be matched by checksum (`PacketTracker::match_icmp_error`). Both lay out the
pseudo-header, the UDP header with a zero checksum field and the payload (`checksumDataV4`,
`checksumDataV6`), pad it to an even length, add its 16-bit words in a `u32`, fold the carries
back in and complement (`udpChecksumOfData`).

For a payload that fits in a datagram the `u32` sum does not wrap, the fold ends below `2 ^ 16`,
and the result is the nonzero word that makes the receiver's one's-complement sum all ones
(`udp_checksum_verifies`).
-/

namespace Netpoke

/-! ### Bytes and words -/

/-- `to_be_bytes` of a `width`-byte integer, and `octets` of an address. -/
def toBeBytes (width value : Nat) : List UInt8 :=
  (List.range width).reverse.map fun i => UInt8.ofNat (value / 256 ^ i)

/-- The data of `calculate_udp_checksum_v4`, with `checksum` in the checksum field: the source
writes `[0, 0]` there. -/
def checksumDataV4 (srcIp destIp : BitVec 32) (srcPort destPort : Nat) (payload : List UInt8)
    (checksum : Nat) : List UInt8 :=
  -- `(8 + payload.len()) as u16`
  let udpLength := (8 + payload.length) % 2 ^ 16
  toBeBytes 4 srcIp.toNat ++ toBeBytes 4 destIp.toNat ++ [0] ++ [17] ++ toBeBytes 2 udpLength ++
    toBeBytes 2 srcPort ++ toBeBytes 2 destPort ++ toBeBytes 2 udpLength ++
    toBeBytes 2 checksum ++ payload

/-- The data of `calculate_udp_checksum_v6`, with `checksum` in the checksum field. -/
def checksumDataV6 (srcIp destIp : BitVec 128) (srcPort destPort : Nat) (payload : List UInt8)
    (checksum : Nat) : List UInt8 :=
  -- `(8 + payload.len()) as u32`
  let udpLength := (8 + payload.length) % 2 ^ 32
  toBeBytes 16 srcIp.toNat ++ toBeBytes 16 destIp.toNat ++ toBeBytes 4 udpLength ++ [0, 0, 0] ++
    [17] ++ toBeBytes 2 srcPort ++ toBeBytes 2 destPort ++ toBeBytes 2 (udpLength % 2 ^ 16) ++
    toBeBytes 2 checksum ++ payload

/-- A zero byte pushed onto data of odd length. -/
def padEven (data : List UInt8) : List UInt8 :=
  if data.length % 2 ≠ 0 then data ++ [0] else data

/-- The words of `data.chunks(2)`, big-endian, a missing second byte read as `0`. -/
def chunkWords : List UInt8 → List Nat
  | a :: b :: rest => (a.toNat * 256 + b.toNat) :: chunkWords rest
  | [a] => [a.toNat * 256]
  | [] => []

/-- The `u32` sum of the words, by `wrapping_add`. -/
def wrappingSum (words : List Nat) : Nat :=
  words.foldl (fun sum word => (sum + word) % 2 ^ 32) 0

theorem fold_step_eq (sum : Nat) :
    (sum &&& 0xFFFF) + (sum >>> 16) = sum % 2 ^ 16 + sum / 2 ^ 16 := by
  rw [Nat.shiftRight_eq_div_pow, show (0xFFFF : Nat) = 2 ^ 16 - 1 by rfl,
    Nat.and_two_pow_sub_one_eq_mod]

theorem fold_step_lt {sum : Nat} (h : sum >>> 16 ≠ 0) :
    (sum &&& 0xFFFF) + (sum >>> 16) < sum := by
  rw [fold_step_eq]
  rw [Nat.shiftRight_eq_div_pow] at h
  omega

/-- The carry-folding loop: `while (sum >> 16) != 0`. -/
def foldCarries (sum : Nat) : Nat :=
  if _ : sum >>> 16 ≠ 0 then foldCarries ((sum &&& 0xFFFF) + (sum >>> 16)) else sum
termination_by sum
decreasing_by exact fold_step_lt ‹_›

/-- The part both functions share, from the padding on. -/
def udpChecksumOfData (data : List UInt8) : Nat :=
  let sum := foldCarries (wrappingSum (chunkWords (padEven data)))
  -- `!(sum as u16)`
  let checksum := 0xFFFF - sum % 2 ^ 16
  if checksum = 0 then 0xFFFF else checksum

def calculateUdpChecksumV4 (srcIp destIp : BitVec 32) (srcPort destPort : Nat)
    (payload : List UInt8) : Nat :=
  udpChecksumOfData (checksumDataV4 srcIp destIp srcPort destPort payload 0)

def calculateUdpChecksumV6 (srcIp destIp : BitVec 128) (srcPort destPort : Nat)
    (payload : List UInt8) : Nat :=
  udpChecksumOfData (checksumDataV6 srcIp destIp srcPort destPort payload 0)

/-! ### Words of the data -/

@[simp] theorem length_toBeBytes (width value : Nat) : (toBeBytes width value).length = width := by
  simp [toBeBytes]

theorem chunkWords_toBeBytes_two (value : Nat) : chunkWords (toBeBytes 2 value) = [value % 2 ^ 16] := by
  simp only [toBeBytes, List.range_succ, List.range_zero, List.nil_append, List.reverse_cons,
    List.reverse_nil, List.map_cons, List.map_nil, List.cons_append, chunkWords,
    UInt8.toNat_ofNat', pow_zero, pow_one, Nat.div_one, List.cons.injEq, and_true]
  omega

theorem chunkWords_lt : ∀ (data : List UInt8), ∀ w ∈ chunkWords data, w < 2 ^ 16
  | a :: b :: rest, w, hw => by
    rw [chunkWords, List.mem_cons] at hw
    rcases hw with rfl | hw
    · have ha := a.toNat_lt
      have hb := b.toNat_lt
      omega
    · exact chunkWords_lt rest w hw
  | [a], w, hw => by
    rw [chunkWords, List.mem_singleton] at hw
    have ha := a.toNat_lt
    omega
  | [], w, hw => by simp [chunkWords] at hw

theorem length_chunkWords : ∀ (data : List UInt8),
    (chunkWords data).length = (data.length + 1) / 2
  | a :: b :: rest => by
    rw [chunkWords, List.length_cons, length_chunkWords rest, List.length_cons, List.length_cons]
    omega
  | [a] => by simp [chunkWords]
  | [] => rfl

theorem chunkWords_append : ∀ (front rest : List UInt8), front.length % 2 = 0 →
    chunkWords (front ++ rest) = chunkWords front ++ chunkWords rest
  | a :: b :: front, rest, h => by
    rw [List.cons_append, List.cons_append, chunkWords, chunkWords, List.cons_append,
      chunkWords_append front rest (by simp at h; omega)]
  | [a], rest, h => by simp at h
  | [], rest, _ => rfl

theorem padEven_append (front rest : List UInt8) (h : front.length % 2 = 0) :
    padEven (front ++ rest) = front ++ padEven rest := by
  unfold padEven
  have hlen : (front ++ rest).length % 2 = rest.length % 2 := by
    rw [List.length_append]
    omega
  rw [hlen]
  split <;> simp

theorem length_padEven (data : List UInt8) : (padEven data).length ≤ data.length + 1 := by
  unfold padEven
  split <;> simp

/-- The words of data that fits in a datagram add up without wrapping a `u32`. -/
theorem sum_chunkWords_lt {data : List UInt8} (h : data.length ≤ 2 ^ 17) :
    (chunkWords (padEven data)).sum < 2 ^ 32 := by
  have hwords : (chunkWords (padEven data)).length ≤ 2 ^ 16 + 1 := by
    rw [length_chunkWords]
    have := length_padEven data
    omega
  have hsum : (chunkWords (padEven data)).sum ≤ (chunkWords (padEven data)).length * (2 ^ 16 - 1) := by
    have := List.sum_le_card_nsmul (chunkWords (padEven data)) (2 ^ 16 - 1)
      fun w hw => Nat.le_sub_one_of_lt (chunkWords_lt _ w hw)
    rwa [smul_eq_mul] at this
  calc (chunkWords (padEven data)).sum
      ≤ (chunkWords (padEven data)).length * (2 ^ 16 - 1) := hsum
    _ ≤ (2 ^ 16 + 1) * (2 ^ 16 - 1) := Nat.mul_le_mul_right _ hwords
    _ < 2 ^ 32 := by norm_num

/-- A word written into a field at an even offset adds its value to the total. -/
theorem sum_chunkWords_field (front rest : List UInt8) (hfront : front.length % 2 = 0)
    (c : Nat) :
    (chunkWords (padEven (front ++ toBeBytes 2 c ++ rest))).sum =
      (chunkWords (padEven (front ++ toBeBytes 2 0 ++ rest))).sum + c % 2 ^ 16 := by
  have htwo : (toBeBytes 2 c).length % 2 = 0 := by simp
  have hzero : (toBeBytes 2 0).length % 2 = 0 := by simp
  rw [List.append_assoc, List.append_assoc, padEven_append _ _ hfront,
    padEven_append _ _ hfront, padEven_append _ _ htwo, padEven_append _ _ hzero,
    chunkWords_append _ _ hfront, chunkWords_append _ _ hfront, chunkWords_append _ _ htwo,
    chunkWords_append _ _ hzero, chunkWords_toBeBytes_two, chunkWords_toBeBytes_two]
  simp only [List.sum_append, List.sum_cons, List.sum_nil, Nat.zero_mod]
  omega

/-! ### The sum and the checksum -/

theorem wrappingSum_eq {words : List Nat} (h : words.sum < 2 ^ 32) :
    wrappingSum words = words.sum := by
  have hmod := OnesComplement.foldl_add_mod (2 ^ 32) 0 words
  rw [Nat.zero_mod, Nat.zero_add, Nat.mod_eq_of_lt h] at hmod
  exact hmod

theorem foldCarries_eq_rep (sum : Nat) : foldCarries sum = OnesComplement.rep sum := by
  induction sum using Nat.strong_induction_on with
  | _ sum ih =>
    rw [foldCarries]
    by_cases h : sum >>> 16 ≠ 0
    · rw [dif_pos h, ih _ (fold_step_lt h), fold_step_eq, OnesComplement.rep_fold]
    · rw [dif_neg h]
      rw [ne_eq, not_not, Nat.shiftRight_eq_div_pow] at h
      exact (OnesComplement.rep_of_lt (by omega)).symm

theorem foldCarries_lt (sum : Nat) : foldCarries sum < 2 ^ 16 := by
  rw [foldCarries_eq_rep]
  exact OnesComplement.rep_lt sum

/-- Without wrapping, the checksum is the complement of the one's-complement value of the
words, all ones standing for a zero complement. -/
theorem udpChecksumOfData_eq {data : List UInt8} (h : (chunkWords (padEven data)).sum < 2 ^ 32) :
    udpChecksumOfData data =
      if OnesComplement.rep (chunkWords (padEven data)).sum = 2 ^ 16 - 1 then 2 ^ 16 - 1
      else 2 ^ 16 - 1 - OnesComplement.rep (chunkWords (padEven data)).sum := by
  have hlt := OnesComplement.rep_lt (chunkWords (padEven data)).sum
  unfold udpChecksumOfData
  dsimp only
  rw [wrappingSum_eq h, foldCarries_eq_rep, Nat.mod_eq_of_lt hlt]
  split_ifs <;> omega

section Field

variable (front rest : List UInt8) (hfront : front.length % 2 = 0)
  (hbound : (chunkWords (padEven (front ++ toBeBytes 2 0 ++ rest))).sum < 2 ^ 32)

include hbound in
theorem udpChecksumOfData_pos_lt :
    0 < udpChecksumOfData (front ++ toBeBytes 2 0 ++ rest) ∧
      udpChecksumOfData (front ++ toBeBytes 2 0 ++ rest) < 2 ^ 16 := by
  have hlt := OnesComplement.rep_lt (chunkWords (padEven (front ++ toBeBytes 2 0 ++ rest))).sum
  rw [udpChecksumOfData_eq hbound]
  split_ifs <;> omega

include hfront hbound in
/-- The checksum in its field makes the receiver's sum all ones. -/
theorem sum_udpChecksumOfData :
    OnesComplement.sum (chunkWords (padEven
      (front ++ toBeBytes 2 (udpChecksumOfData (front ++ toBeBytes 2 0 ++ rest)) ++ rest))) =
      2 ^ 16 - 1 := by
  obtain ⟨hpos, hlt⟩ := udpChecksumOfData_pos_lt front rest hbound
  have hrep := OnesComplement.rep_mod (chunkWords (padEven (front ++ toBeBytes 2 0 ++ rest))).sum
  have hrepLt := OnesComplement.rep_lt (chunkWords (padEven (front ++ toBeBytes 2 0 ++ rest))).sum
  have hc := udpChecksumOfData_eq hbound
  rw [OnesComplement.sum_eq_rep (chunkWords_lt _), sum_chunkWords_field front rest hfront,
    Nat.mod_eq_of_lt hlt]
  apply OnesComplement.rep_eq_max (by omega)
  split_ifs at hc <;> omega

end Field

/-! ### Both address families -/

theorem checksumDataV4_field (srcIp destIp : BitVec 32) (srcPort destPort : Nat)
    (payload : List UInt8) :
    ∃ front, front.length = 18 ∧ ∀ c,
      checksumDataV4 srcIp destIp srcPort destPort payload c = front ++ toBeBytes 2 c ++ payload :=
  ⟨_, by simp, fun _ => rfl⟩

theorem checksumDataV6_field (srcIp destIp : BitVec 128) (srcPort destPort : Nat)
    (payload : List UInt8) :
    ∃ front, front.length = 46 ∧ ∀ c,
      checksumDataV6 srcIp destIp srcPort destPort payload c = front ++ toBeBytes 2 c ++ payload :=
  ⟨_, by simp, fun _ => rfl⟩

theorem udp_checksum_verifies (srcIp4 destIp4 : BitVec 32) (srcIp6 destIp6 : BitVec 128)
    (srcPort destPort : Nat) (payload : List UInt8) (hlen : 8 + payload.length ≤ 65535) :
    (calculateUdpChecksumV4 srcIp4 destIp4 srcPort destPort payload ≠ 0 ∧
      calculateUdpChecksumV4 srcIp4 destIp4 srcPort destPort payload < 2 ^ 16 ∧
      OnesComplement.sum (chunkWords (padEven (checksumDataV4 srcIp4 destIp4 srcPort destPort
        payload (calculateUdpChecksumV4 srcIp4 destIp4 srcPort destPort payload)))) = 0xFFFF) ∧
    (calculateUdpChecksumV6 srcIp6 destIp6 srcPort destPort payload ≠ 0 ∧
      calculateUdpChecksumV6 srcIp6 destIp6 srcPort destPort payload < 2 ^ 16 ∧
      OnesComplement.sum (chunkWords (padEven (checksumDataV6 srcIp6 destIp6 srcPort destPort
        payload (calculateUdpChecksumV6 srcIp6 destIp6 srcPort destPort payload)))) = 0xFFFF) ∧
    wrappingSum (chunkWords (padEven (checksumDataV4 srcIp4 destIp4 srcPort destPort payload 0))) =
      (chunkWords (padEven (checksumDataV4 srcIp4 destIp4 srcPort destPort payload 0))).sum ∧
    wrappingSum (chunkWords (padEven (checksumDataV6 srcIp6 destIp6 srcPort destPort payload 0))) =
      (chunkWords (padEven (checksumDataV6 srcIp6 destIp6 srcPort destPort payload 0))).sum ∧
    ∀ sum, foldCarries sum < 2 ^ 16 := by
  obtain ⟨front4, hfront4, hdata4⟩ := checksumDataV4_field srcIp4 destIp4 srcPort destPort payload
  obtain ⟨front6, hfront6, hdata6⟩ := checksumDataV6_field srcIp6 destIp6 srcPort destPort payload
  -- both data fit in a datagram with room to spare, so neither sum wraps
  have hbound4 : (chunkWords (padEven (front4 ++ toBeBytes 2 0 ++ payload))).sum < 2 ^ 32 :=
    sum_chunkWords_lt (by simp only [List.length_append, hfront4, length_toBeBytes]; omega)
  have hbound6 : (chunkWords (padEven (front6 ++ toBeBytes 2 0 ++ payload))).sum < 2 ^ 32 :=
    sum_chunkWords_lt (by simp only [List.length_append, hfront6, length_toBeBytes]; omega)
  obtain ⟨hpos4, hlt4⟩ := udpChecksumOfData_pos_lt front4 payload hbound4
  obtain ⟨hpos6, hlt6⟩ := udpChecksumOfData_pos_lt front6 payload hbound6
  unfold calculateUdpChecksumV4 calculateUdpChecksumV6
  simp only [hdata4, hdata6]
  exact ⟨⟨Nat.pos_iff_ne_zero.mp hpos4, hlt4, sum_udpChecksumOfData front4 payload (by omega) hbound4⟩,
    ⟨Nat.pos_iff_ne_zero.mp hpos6, hlt6, sum_udpChecksumOfData front6 payload (by omega) hbound6⟩,
    wrappingSum_eq hbound4, wrappingSum_eq hbound6, foldCarries_lt⟩

/-- A three-byte datagram `hi!` from `192.0.2.1:40000` to `198.51.100.7:5201`, and over IPv6
from `2001:db8::1` to `2001:db8::2`. -/
theorem udp_checksum_verifies_hi :
    8 + [0x68, 0x69, 0x21].length ≤ 65535 ∧
    (calculateUdpChecksumV4 0xC0000201#32 0xC6336407#32 40000 5201 [0x68, 0x69, 0x21] ≠ 0 ∧
      calculateUdpChecksumV4 0xC0000201#32 0xC6336407#32 40000 5201 [0x68, 0x69, 0x21] < 2 ^ 16 ∧
      OnesComplement.sum (chunkWords (padEven
        (checksumDataV4 0xC0000201#32 0xC6336407#32 40000 5201 [0x68, 0x69, 0x21]
          (calculateUdpChecksumV4 0xC0000201#32 0xC6336407#32 40000 5201 [0x68, 0x69, 0x21]))))
        = 0xFFFF) ∧
    (calculateUdpChecksumV6 0x20010db8000000000000000000000001#128
        0x20010db8000000000000000000000002#128 40000 5201 [0x68, 0x69, 0x21] ≠ 0 ∧
      calculateUdpChecksumV6 0x20010db8000000000000000000000001#128
        0x20010db8000000000000000000000002#128 40000 5201 [0x68, 0x69, 0x21] < 2 ^ 16 ∧
      OnesComplement.sum (chunkWords (padEven
        (checksumDataV6 0x20010db8000000000000000000000001#128
          0x20010db8000000000000000000000002#128 40000 5201 [0x68, 0x69, 0x21]
          (calculateUdpChecksumV6 0x20010db8000000000000000000000001#128
            0x20010db8000000000000000000000002#128 40000 5201 [0x68, 0x69, 0x21])))) = 0xFFFF) ∧
    wrappingSum (chunkWords (padEven
        (checksumDataV4 0xC0000201#32 0xC6336407#32 40000 5201 [0x68, 0x69, 0x21] 0))) =
      (chunkWords (padEven
        (checksumDataV4 0xC0000201#32 0xC6336407#32 40000 5201 [0x68, 0x69, 0x21] 0))).sum ∧
    wrappingSum (chunkWords (padEven (checksumDataV6 0x20010db8000000000000000000000001#128
        0x20010db8000000000000000000000002#128 40000 5201 [0x68, 0x69, 0x21] 0))) =
      (chunkWords (padEven (checksumDataV6 0x20010db8000000000000000000000001#128
        0x20010db8000000000000000000000002#128 40000 5201 [0x68, 0x69, 0x21] 0))).sum ∧
    ∀ sum, foldCarries sum < 2 ^ 16 :=
  ⟨by decide, udp_checksum_verifies 0xC0000201#32 0xC6336407#32
    0x20010db8000000000000000000000001#128 0x20010db8000000000000000000000002#128 40000 5201
    [0x68, 0x69, 0x21] (by decide)⟩

end Netpoke
