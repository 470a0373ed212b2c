import SysZerotier.Net.Emit
import SysZerotier.Library.Guard

/-! `checksum16` (`source/net/net.hpp`) on everything VNet computes it of.

VNet starts the sum at zero for IPv4 headers and ICMP messages, and at the sum of a
pseudo-header for UDP datagrams. `accumulated` is `checksum16` a second time, with every
addition into the accumulator guarded and any number of rounds for the carries. It agrees
with `checksum16`, which is the complement of the one's complement sum of the words, and
a field that the checksum is stored in makes the sum verify (`checksum16_complements`). -/
namespace SysZerotier.Net.InternetChecksum
open Library

/-- The big-endian words of the bytes, an odd last byte padded with zero. -/
def words : List U8 → List U16
  | [] => []
  | [hi] => [be16 hi 0]
  | hi :: lo :: rest => be16 hi lo :: words rest

/-- What VNet sums in front of the bytes. -/
inductive PseudoHeader where
  | absent
  | udp (srcIp dstIp : U32) (udpLen : U16)

namespace PseudoHeader

/-- `initial`. -/
def initial : PseudoHeader → U32
  | .absent => 0
  | .udp srcIp dstIp udpLen => VNet.udpPseudo srcIp dstIp udpLen.toNat

/-- The words of the pseudo-header. -/
def words : PseudoHeader → List U16
  | .absent => []
  | .udp srcIp dstIp udpLen =>
    [srcIp.extractLsb' 16 16, srcIp.extractLsb' 0 16, dstIp.extractLsb' 16 16, dstIp.extractLsb' 0 16,
      IpProto_UDP.setWidth 16, udpLen]

end PseudoHeader

/-! ### The accumulator -/

/-- `sum += word`, which has to fit. -/
def accumulate (sum word : U32) : Guarded U32 := do
  let n ← Guarded.add sum.toNat word.toNat (2 ^ 32)
  return BitVec.ofNat 32 n

def accumulateWords (p : Mem) : Nat → U32 → Guarded U32
  | 0, sum => .ok sum
  | 1, sum => accumulate sum ((p 0).setWidth 32 <<< 8)
  | len + 2, sum => do
    let sum ← accumulate sum ((be16 (p 0) (p 1)).setWidth 32)
    accumulateWords (p.advance 2) len sum

def accumulateCarry : Nat → U32 → Guarded U32
  | 0, _ => .error .diverges
  | fuel + 1, sum =>
    if sum >>> 16 = 0 then .ok sum
    else do
      let sum ← accumulate (sum &&& (0xFFFF : U32)) (sum >>> 16)
      accumulateCarry fuel sum

/-- `checksum16` in a guarded accumulator, with `fuel` tests of the carry loop. -/
def accumulated (fuel : Nat) (p : Mem) (len : Nat) (initial : U32) : Guarded U16 := do
  let sum ← accumulateWords p len initial
  let sum ← accumulateCarry fuel sum
  return (~~~sum &&& (0xFFFF : U32)).setWidth 16

theorem accumulate_ok {sum word : U32} (h : sum.toNat + word.toNat < 2 ^ 32) :
    accumulate sum word = .ok (sum + word) := by
  rw [accumulate, Guarded.add_ok h, ok_bind, pure_eq_ok, BitVec.ofNat_add, BitVec.ofNat_toNat, BitVec.ofNat_toNat]
  rfl

theorem accumulateWords_ok (p : Mem) (len : Nat) (sum : U32) (h : sum.toNat + wordSum p len < 2 ^ 32) :
    accumulateWords p len sum = .ok (sumWords p len sum) := by
  induction len using Nat.twoStepInduction generalizing p sum with
  | zero => rfl
  | one => exact accumulate_ok (by rwa [oddByte_toNat])
  | more n ih _ =>
    rw [wordSum, ← Nat.add_assoc, ← word_toNat] at h
    have hfits : sum.toNat + ((be16 (p 0) (p 1)).setWidth 32 : U32).toNat < 2 ^ 32 :=
      Nat.lt_of_le_of_lt (Nat.le_add_right _ _) h
    rw [accumulateWords, accumulate_ok hfits, ok_bind, sumWords]
    apply ih
    rwa [BitVec.toNat_add, Nat.mod_eq_of_lt hfits]

/-- The two halves of a sum fit. -/
theorem carry_fits (sum : U32) : (sum &&& (0xFFFF : U32)).toNat + (sum >>> 16).toNat < 2 ^ 32 := by
  have hsum := sum.isLt
  rw [low_toNat, high_toNat]
  omega

/-- More tests than the loop needs change nothing. -/
theorem accumulateCarry_ok (extra : Nat) {fuel : Nat} {sum r : U32} (h : foldCarry fuel sum = some r) :
    accumulateCarry (fuel + extra) sum = .ok r := by
  induction fuel generalizing sum with
  | zero => cases h
  | succ fuel ih =>
    rw [foldCarry] at h
    rw [Nat.succ_add, accumulateCarry]
    by_cases hdone : sum >>> 16 = 0
    · rw [if_pos hdone] at h ⊢
      rw [Option.some.inj h]
    · rw [if_neg hdone] at h ⊢
      rw [accumulate_ok (carry_fits sum), ok_bind]
      exact ih h

/-- Nothing overflows, and the loop for the carries ends at its third test at the latest. -/
theorem accumulated_ok {fuel : Nat} (hfuel : 3 ≤ fuel) {p : Mem} {len : Nat} {initial : U32}
    (h : initial.toNat + wordSum p len < 2 ^ 32) :
    accumulated fuel p len initial = .ok (checksum16 p len initial) := by
  obtain ⟨extra, rfl⟩ := Nat.exists_eq_add_of_le hfuel
  obtain ⟨r, hr⟩ := foldCarry_terminates (sumWords p len initial)
  rw [accumulated, accumulateWords_ok p len initial h, ok_bind, accumulateCarry_ok extra hr, ok_bind, pure_eq_ok,
    checksum16, hr, Option.getD_some]

/-! ### The words -/

theorem ofBytes_advance (hi lo : U8) (rest : List U8) :
    (Mem.ofBytes (hi :: lo :: rest)).advance 2 = Mem.ofBytes rest := by
  funext i
  rw [Mem.advance_apply, Nat.add_comm]
  rfl

theorem wordSum_words (bytes : List U8) :
    wordSum (Mem.ofBytes bytes) bytes.length = ((words bytes).map BitVec.toNat).sum := by
  induction bytes using words.induct with
  | case1 => rfl
  | case2 hi =>
    rw [words, List.map_singleton, List.sum_singleton, be16_toNat]
    exact (Nat.add_zero _).symm
  | case3 hi lo rest ih =>
    rw [words, List.map_cons, List.sum_cons, ← ih, ← ofBytes_advance hi lo rest]
    rfl

/-- Forming the sum of a pseudo-header does not overflow either. -/
theorem initial_toNat (pseudo : PseudoHeader) :
    pseudo.initial.toNat = (pseudo.words.map BitVec.toNat).sum := by
  cases pseudo with
  | absent => rfl
  | udp srcIp dstIp udpLen =>
    have hsrc := srcIp.isLt
    have hdst := dstIp.isLt
    have hproto : (IpProto_UDP.setWidth 16 : U16).toNat = 17 := rfl
    have hhigh : ∀ ip : U32, (ip.extractLsb' 16 16).toNat = ip.toNat / 65536 % 65536 := by
      intro ip
      rw [BitVec.extractLsb'_toNat, Nat.shiftRight_eq_div_pow]
    have hlow : ∀ ip : U32, (ip.extractLsb' 0 16).toNat = ip.toNat % 65536 := by
      intro ip
      rw [BitVec.extractLsb'_toNat, Nat.shiftRight_zero]
    rw [PseudoHeader.initial, VNet.udpPseudo_toNat srcIp dstIp udpLen.isLt]
    simp only [PseudoHeader.words, List.map_cons, List.map_nil, List.sum_cons, List.sum_nil, hhigh, hlow, hproto]
    omega

theorem initial_lt (pseudo : PseudoHeader) : pseudo.initial.toNat < 2 ^ 31 := by
  cases pseudo with
  | absent => decide
  | udp srcIp dstIp udpLen => exact VNet.udpPseudo_lt srcIp dstIp udpLen.toNat udpLen.isLt

/-! ### What VNet forms -/

theorem udpPseudo_initial (srcIp dstIp : U32) {udpLen : Nat} (h : udpLen < 65536) :
    ∃ pseudo : PseudoHeader, VNet.udpPseudo srcIp dstIp udpLen = pseudo.initial := by
  refine ⟨.udp srcIp dstIp (BitVec.ofNat 16 udpLen), ?_⟩
  rw [PseudoHeader.initial, BitVec.toNat_ofNat, Nat.mod_eq_of_lt h]

/-- The sum of a datagram that is sent. -/
theorem sent_initial (srcIp dstIp : U32) {len : Nat} (h : len ≤ MaxDatagram) :
    ∃ pseudo : PseudoHeader, VNet.udpPseudo srcIp dstIp (Udp4.Header + len) = pseudo.initial := by
  have hmax : Udp4.Header + MaxDatagram < 65536 := by decide
  exact udpPseudo_initial srcIp dstIp (by omega)

/-- What is put together from fragments has a 16-bit length. -/
theorem reassemble_len {s : VNet} {srcIp dstIp : U32} {id off : U16} {proto : U8} {more : Bool} {payload : Mem}
    {plen : Nat} {k : Packet} (h : (s.reassemble srcIp dstIp id proto off more payload plen).2 = some k) :
    k.len < 65536 := by
  unfold VNet.reassemble at h
  extract_lets slot t r r' at h
  split at h
  · cases h
  · split at h
    · cases h
      exact BitVec.isLt _
    · cases h

/-- So has what comes in one packet. -/
theorem ipv4Input_len {s : VNet} {srcMac : U64} {p : Mem} {len : Nat} {k : Packet}
    (h : (s.ipv4Input srcMac p len).2 = some k) : k.len < 65536 := by
  cases hf : s.fragment p len with
  | none =>
    obtain ⟨f, hnone⟩ := VNet.ipv4Input_none hf srcMac
    rw [hnone] at h
    cases h
  | some f =>
    obtain ⟨-, -, hbytes⟩ := VNet.fragment_reads hf
    have htotal := (rd16 p Ip4.TotalLen).isLt
    have hlen : f.bytes.length < 65536 := by
      rw [hbytes, Mem.bytes_length]
      split <;> omega
    rw [VNet.ipv4Input_accept hf, VNet.accept] at h
    split at h
    · cases h
      exact hlen
    · exact reassemble_len h

/-- The sum of a datagram that is received. -/
theorem received_initial {s : VNet} {srcMac : U64} {p : Mem} {len : Nat} {k : Packet}
    (h : (s.ipv4Input srcMac p len).2 = some k) :
    ∃ pseudo : PseudoHeader,
      VNet.udpPseudo k.srcIp k.dstIp (VNet.udpLength k.payload k.len) = pseudo.initial := by
  have hlen := ipv4Input_len h
  have hle : VNet.udpLength k.payload k.len ≤ k.len := by
    unfold VNet.udpLength
    split <;> omega
  exact udpPseudo_initial k.srcIp k.dstIp (Nat.lt_of_le_of_lt hle hlen)

/-! ### The checksum -/

theorem accumulator_fits (pseudo : PseudoHeader) {bytes : List U8} (hlen : bytes.length ≤ 65535) :
    pseudo.initial.toNat + wordSum (Mem.ofBytes bytes) bytes.length < 2 ^ 32 :=
  accumulator_bound _ _ _ hlen (initial_lt pseudo)

/-- The checksum is the complement of what the adder makes of all words. -/
theorem checksum16_sum (pseudo : PseudoHeader) {bytes : List U8} (hlen : bytes.length ≤ 65535) :
    checksum16 (Mem.ofBytes bytes) bytes.length pseudo.initial =
      ~~~OnesComplement.sum (pseudo.words ++ words bytes) := by
  apply BitVec.eq_of_toNat_eq
  rw [checksum16_toNat _ _ _ (accumulator_fits pseudo hlen), BitVec.toNat_not, OnesComplement.sum_toNat,
    List.map_append, List.sum_append, initial_toNat, wordSum_words]

/-- The last of an odd number of bytes is the high one of its word. -/
example : checksum16 (Mem.ofBytes [0x12, 0x34, 0x56]) 3 0 = ~~~(0x1234 + 0x5600) := by decide

/-- What is stored for a computed checksum: all ones may stand for zero. -/
def Stores (csum v : U16) : Prop := v = csum ∨ csum = 0 ∧ v = 0xFFFF

/-- **The checksum is the complement of the one's complement sum**, for up to 65535 bytes behind
whatever VNet sums in front of them: the accumulator does not overflow, the loop for the carries
ends, and stored in a field that was zero it makes the sum verify. -/
theorem checksum16_complements (pseudo : PseudoHeader) (bytes : List U8) (hlen : bytes.length ≤ 65535) :
    (∀ fuel, 3 ≤ fuel → accumulated fuel (Mem.ofBytes bytes) bytes.length pseudo.initial =
      .ok (checksum16 (Mem.ofBytes bytes) bytes.length pseudo.initial)) ∧
    checksum16 (Mem.ofBytes bytes) bytes.length pseudo.initial =
      ~~~OnesComplement.sum (pseudo.words ++ words bytes) ∧
    ∀ k v, 2 * k + 2 ≤ bytes.length →
      Stores (checksum16 (wr16 (Mem.ofBytes bytes) (2 * k) 0) bytes.length pseudo.initial) v →
      checksum16 (wr16 (wr16 (Mem.ofBytes bytes) (2 * k) 0) (2 * k) v) bytes.length pseudo.initial = 0 := by
  refine ⟨fun fuel hfuel => ?_, checksum16_sum pseudo hlen, fun k v hk hv => ?_⟩
  · exact accumulated_ok hfuel (accumulator_fits pseudo hlen)
  · exact checksum16_stored _ k _ _ hlen (initial_lt pseudo) hk (rd16_wr16 ..) v hv

/-- An IPv4 header, and the checksum it carries. -/
theorem checksum16_complements_header :
    checksum16 (wr16 (wr16 (Mem.ofBytes [0x45, 0x00, 0x00, 0x73, 0x00, 0x00, 0x40, 0x00, 0x40, 0x11, 0x00, 0x00,
      0xC0, 0xA8, 0x00, 0x01, 0xC0, 0xA8, 0x00, 0xC7]) 10 0) 10 0xB861) 20 0 = 0 :=
  (checksum16_complements .absent [0x45, 0x00, 0x00, 0x73, 0x00, 0x00, 0x40, 0x00, 0x40, 0x11, 0x00, 0x00,
    0xC0, 0xA8, 0x00, 0x01, 0xC0, 0xA8, 0x00, 0xC7] (by decide)).2.2 5 0xB861 (by decide) (.inl (by decide))

end SysZerotier.Net.InternetChecksum
