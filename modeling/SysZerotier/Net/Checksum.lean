import SysZerotier.Net.Bytes
import SysZerotier.Library.OnesComplement

/-! The RFC 1071 checksum (`checksum16` in `source/net/net.hpp`).

The code adds big-endian words into a 32-bit accumulator and folds the carries at
the end. `wordSum` is the same sum over natural numbers. While the accumulator
does not overflow, the checksum is the complement of the one's complement sum
(`checksum16_toNat`), and storing it in a zeroed field at an even offset makes the
verifying sum zero (`checksum16_stored`). -/
namespace SysZerotier.Net
open Library

/-- The word loop and the trailing odd byte. -/
def sumWords (p : Mem) : Nat → U32 → U32
  | 0, sum => sum
  | 1, sum => sum + ((p 0).setWidth 32 <<< 8)
  | len + 2, sum => sumWords (p.advance 2) len (sum + (be16 (p 0) (p 1)).setWidth 32)

/-- `while (sum >> 16) { sum = (sum & 0xFFFF) + (sum >> 16); }`, at most `fuel` tests. -/
def foldCarry : Nat → U32 → Option U32
  | 0, _ => none
  | fuel + 1, sum =>
    if sum >>> 16 = 0 then some sum else foldCarry fuel ((sum &&& (0xFFFF : U32)) + (sum >>> 16))

/-- Three tests of the carry loop always suffice (`foldCarry_terminates`). -/
def checksum16 (p : Mem) (len : Nat) (initial : U32) : U16 :=
  (~~~((foldCarry 3 (sumWords p len initial)).getD 0) &&& (0xFFFF : U32)).setWidth 16

/-- The sum of the words of `p`, an odd last byte padded with zero. -/
def wordSum (p : Mem) : Nat → Nat
  | 0 => 0
  | 1 => (p 0).toNat * 256
  | len + 2 => (be16 (p 0) (p 1)).toNat + wordSum (p.advance 2) len

/-! ### The sum -/

theorem wordSum_le (p : Mem) (len : Nat) : wordSum p len ≤ (len + 1) / 2 * 65535 := by
  induction len using Nat.twoStepInduction generalizing p with
  | zero => simp [wordSum]
  | one =>
    have := (p 0).isLt
    simp only [wordSum]
    omega
  | more n ih _ =>
    have h := ih (p.advance 2)
    have := (be16 (p 0) (p 1)).isLt
    simp only [wordSum]
    omega

theorem word_toNat (w : U16) : (w.setWidth 32 : U32).toNat = w.toNat := by
  have := w.isLt
  rw [BitVec.toNat_setWidth]
  omega

theorem oddByte_toNat (b : U8) : (b.setWidth 32 <<< 8 : U32).toNat = b.toNat * 256 := by
  have := b.isLt
  rw [BitVec.toNat_shiftLeft, BitVec.toNat_setWidth, Nat.shiftLeft_eq]
  omega

theorem sumWords_toNat (p : Mem) (len : Nat) (sum : U32) (h : sum.toNat + wordSum p len < 2 ^ 32) :
    (sumWords p len sum).toNat = sum.toNat + wordSum p len := by
  induction len using Nat.twoStepInduction generalizing p sum with
  | zero => simp [sumWords, wordSum]
  | one =>
    simp only [wordSum] at h
    simp only [sumWords, wordSum, BitVec.toNat_add, oddByte_toNat]
    exact Nat.mod_eq_of_lt h
  | more n ih _ =>
    simp only [wordSum] at h
    have hs : (sum + (be16 (p 0) (p 1)).setWidth 32).toNat = sum.toNat + (be16 (p 0) (p 1)).toNat := by
      rw [BitVec.toNat_add, word_toNat]
      exact Nat.mod_eq_of_lt (by omega)
    simp only [sumWords, wordSum]
    rw [ih (p.advance 2) _ (by rw [hs]; omega), hs]
    omega

theorem wordSum_congr {p q : Mem} {len : Nat} (h : ∀ i, i < len → p i = q i) :
    wordSum p len = wordSum q len := by
  induction len using Nat.twoStepInduction generalizing p q with
  | zero => rfl
  | one => simp only [wordSum, h 0 (by omega)]
  | more n ih _ =>
    simp only [wordSum, h 0 (by omega), h 1 (by omega)]
    rw [ih (p := p.advance 2) (q := q.advance 2) fun i hi => h (2 + i) (by omega)]

/-- Writing a field at an even offset replaces its word in the sum. -/
theorem wordSum_wr16 (p : Mem) (k len : Nat) (v : U16) (h : 2 * k + 2 ≤ len) :
    wordSum (wr16 p (2 * k) v) len + (rd16 p (2 * k)).toNat = wordSum p len + v.toNat := by
  induction k generalizing p len with
  | zero =>
    obtain ⟨n, rfl⟩ : ∃ n, len = n + 2 := ⟨len - 2, by omega⟩
    have hrest : wordSum ((wr16 p 0 v).advance 2) n = wordSum (p.advance 2) n :=
      wordSum_congr fun i _ => wr16_other p v (by omega) (by omega)
    have hword : be16 (wr16 p 0 v 0) (wr16 p 0 v 1) = v := rd16_wr16 p 0 v
    simp only [Nat.mul_zero, wordSum, hrest, hword, rd16, Nat.zero_add]
    omega
  | succ k ih =>
    obtain ⟨n, rfl⟩ : ∃ n, len = n + 2 := ⟨len - 2, by omega⟩
    have hshift : (wr16 p (2 * (k + 1)) v).advance 2 = wr16 (p.advance 2) (2 * k) v := by
      funext i
      simp only [Mem.advance, wr16, Mem.set]
      grind
    have hread : rd16 p (2 * (k + 1)) = rd16 (p.advance 2) (2 * k) := by
      unfold rd16 Mem.advance
      congr 2 <;> omega
    have h0 : wr16 p (2 * (k + 1)) v 0 = p 0 := wr16_other p v (by omega) (by omega)
    have h1 : wr16 p (2 * (k + 1)) v 1 = p 1 := wr16_other p v (by omega) (by omega)
    have := ih (p.advance 2) n (by omega)
    simp only [wordSum, hshift, hread, h0, h1]
    omega

/-! ### The fold -/

theorem low_toNat (x : U32) : (x &&& (0xFFFF : U32)).toNat = x.toNat % 65536 := by
  rw [BitVec.toNat_and]
  exact Nat.and_two_pow_sub_one_eq_mod _ 16

theorem high_toNat (x : U32) : (x >>> 16).toNat = x.toNat / 65536 := by
  rw [BitVec.toNat_ushiftRight, Nat.shiftRight_eq_div_pow]

private theorem carry_toNat (sum : U32) :
    ((sum &&& (0xFFFF : U32)) + (sum >>> 16)).toNat = sum.toNat % 65536 + sum.toNat / 65536 := by
  have hlt := sum.isLt
  rw [BitVec.toNat_add, low_toNat, high_toNat]
  omega

private theorem high_zero (sum : U32) : sum >>> 16 = 0 ↔ sum.toNat < 65536 := by
  rw [← BitVec.toNat_inj, high_toNat]
  show sum.toNat / 65536 = 0 ↔ _
  omega

theorem foldCarry_eq (fuel : Nat) (sum r : U32) (h : foldCarry fuel sum = some r) :
    r.toNat = OnesComplement.fold sum.toNat := by
  induction fuel generalizing sum with
  | zero => simp [foldCarry] at h
  | succ fuel ih =>
    unfold foldCarry at h
    split at h
    · rename_i hs
      have := (high_zero sum).mp hs
      rw [Option.some.inj h] at this ⊢
      exact (OnesComplement.fold_of_le (by omega)).symm
    · rw [ih _ h, carry_toNat, OnesComplement.fold_carry]

/-- The carry loop ends after at most two rounds: a 32-bit sum folds to at most
`0x1FFFE`, and that to 16 bits. -/
theorem foldCarry_terminates (sum : U32) : ∃ r, foldCarry 3 sum = some r := by
  have hlt := sum.isLt
  by_cases h0 : sum >>> 16 = 0
  · exact ⟨sum, by simp [foldCarry, h0]⟩
  · generalize h1s : (sum &&& (0xFFFF : U32)) + (sum >>> 16) = s1
    have h1 : s1.toNat = sum.toNat % 65536 + sum.toNat / 65536 := by rw [← h1s, carry_toNat]
    by_cases h1z : s1 >>> 16 = 0
    · exact ⟨s1, by simp only [foldCarry, h0, if_false, h1s, h1z, if_true]⟩
    · have h2 := carry_toNat s1
      have h2z : ((s1 &&& (0xFFFF : U32)) + (s1 >>> 16)) >>> 16 = 0 := by
        rw [high_zero, h2]
        rw [high_zero] at h1z
        omega
      exact ⟨(s1 &&& (0xFFFF : U32)) + (s1 >>> 16), by
        simp only [foldCarry, h0, if_false, h1s, h1z, h2z, if_true]⟩

/-- **While the accumulator does not overflow, the checksum is the complement of
the one's complement sum of the words.** -/
theorem checksum16_toNat (p : Mem) (len : Nat) (initial : U32)
    (h : initial.toNat + wordSum p len < 2 ^ 32) :
    (checksum16 p len initial).toNat =
      65535 - OnesComplement.fold (initial.toNat + wordSum p len) := by
  obtain ⟨r, hr⟩ := foldCarry_terminates (sumWords p len initial)
  have hfold := foldCarry_eq 3 _ r hr
  rw [sumWords_toNat p len initial h] at hfold
  have hle := OnesComplement.fold_le (initial.toNat + wordSum p len)
  unfold checksum16
  rw [hr, Option.getD_some, BitVec.toNat_setWidth, BitVec.toNat_and, BitVec.toNat_not]
  rw [show (0xFFFF : U32).toNat = 2 ^ 16 - 1 from rfl, Nat.and_two_pow_sub_one_eq_mod]
  omega

/-- A packet no longer than an IPv4 packet and a pseudo-header sum cannot
overflow the accumulator. -/
theorem accumulator_bound (p : Mem) (len : Nat) (initial : U32) (hl : len ≤ 65535)
    (hi : initial.toNat < 2 ^ 31) : initial.toNat + wordSum p len < 2 ^ 32 := by
  have := wordSum_le p len
  have : (len + 1) / 2 * 65535 ≤ 32768 * 65535 := Nat.mul_le_mul_right _ (by omega)
  omega

theorem checksum16_congr {p q : Mem} {len : Nat} (initial : U32) (hl : len ≤ 65535)
    (hi : initial.toNat < 2 ^ 31) (h : ∀ i, i < len → p i = q i) :
    checksum16 p len initial = checksum16 q len initial := by
  apply BitVec.eq_of_toNat_eq
  rw [checksum16_toNat p len initial (accumulator_bound p len initial hl hi),
    checksum16_toNat q len initial (accumulator_bound q len initial hl hi), wordSum_congr h]

/-- **A stored checksum verifies.** With the field at an even offset zeroed, the
checksum written back makes the sum over the whole buffer zero. So does `0xFFFF`
in place of a computed zero. -/
theorem checksum16_stored (p : Mem) (k len : Nat) (initial : U32) (hl : len ≤ 65535)
    (hi : initial.toNat < 2 ^ 31) (hk : 2 * k + 2 ≤ len) (hz : rd16 p (2 * k) = 0) (v : U16)
    (hv : v = checksum16 p len initial ∨ checksum16 p len initial = 0 ∧ v = 0xFFFF) :
    checksum16 (wr16 p (2 * k) v) len initial = 0 := by
  have hb := accumulator_bound (wr16 p (2 * k) v) len initial hl hi
  have hc := checksum16_toNat p len initial (accumulator_bound p len initial hl hi)
  have hsum : wordSum (wr16 p (2 * k) v) len = wordSum p len + v.toNat := by
    have := wordSum_wr16 p k len v hk
    rw [hz] at this
    simpa using this
  have hle := OnesComplement.fold_le (initial.toNat + wordSum p len)
  apply BitVec.eq_of_toNat_eq
  rw [checksum16_toNat _ len initial hb, hsum, ← Nat.add_assoc]
  rcases hv with rfl | ⟨h0, rfl⟩
  · rw [hc, OnesComplement.fold_complement]
    rfl
  · have hf : OnesComplement.fold (initial.toNat + wordSum p len) = 65535 := by
      have h0' : (checksum16 p len initial).toNat = 0 := by rw [h0]; rfl
      omega
    have := OnesComplement.fold_all_ones hf
    rw [show (0xFFFF : U16).toNat = 65535 from rfl, this]
    rfl

end SysZerotier.Net
