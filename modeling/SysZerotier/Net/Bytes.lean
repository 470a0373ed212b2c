import Mathlib

/-! Bytes, byte order and unaligned access (`source/net/net.hpp`).

A `const u8 *` is a function from offsets to bytes and pointer arithmetic shifts
it. How far a pointer may be read is not part of it: the functions of the shim
carry the length separately, as the source does, and `Checked` re-reads them
with every access guarded. -/
namespace SysZerotier.Net

abbrev U8 := BitVec 8
abbrev U16 := BitVec 16
abbrev U32 := BitVec 32
abbrev U64 := BitVec 64

/-- The bytes behind a pointer. -/
abbrev Mem := Nat → U8

namespace Mem

/-- A pointer to the first byte of a buffer holding `bytes`. -/
def ofBytes (bytes : List U8) : Mem := fun i => bytes.getD i 0

/-- `p + k`. -/
def advance (p : Mem) (k : Nat) : Mem := fun i => p (k + i)

/-- The `n` bytes from `p`. -/
def bytes (p : Mem) (n : Nat) : List U8 := (List.range n).map p

/-- `p[i] = v`. -/
def set (p : Mem) (i : Nat) (v : U8) : Mem := fun j => if j = i then v else p j

/-- A buffer of zero bytes (`u8 buf[n] = {}`). -/
def zero : Mem := fun _ => 0

theorem advance_apply (p : Mem) (k i : Nat) : p.advance k i = p (k + i) := rfl

theorem advance_advance (p : Mem) (j k : Nat) : (p.advance j).advance k = p.advance (j + k) := by
  funext i
  simp only [advance, Nat.add_assoc]

@[simp] theorem bytes_length (p : Mem) (n : Nat) : (p.bytes n).length = n := by
  simp [bytes]

theorem getElem?_bytes (p : Mem) (n i : Nat) (h : i < n) : (p.bytes n)[i]? = some (p i) := by
  simp [bytes, h]

theorem take_bytes (p : Mem) (n m : Nat) : (p.bytes n).take m = p.bytes (min m n) := by
  rw [bytes, ← List.map_take, List.take_range, bytes]

theorem bytes_slice (p : Mem) {n k m : Nat} (h : k + m ≤ n) :
    ((p.bytes n).drop k).take m = (p.advance k).bytes m := by
  apply List.ext_getElem
  · simp only [List.length_take, List.length_drop, bytes_length]
    omega
  · intro i hi _
    simp [bytes, advance]

theorem bytes_congr {p q : Mem} {n : Nat} (h : ∀ i, i < n → p i = q i) : p.bytes n = q.bytes n := by
  unfold bytes
  exact List.map_congr_left fun i hi => h i (List.mem_range.mp hi)

theorem ofBytes_bytes (p : Mem) (n i : Nat) (h : i < n) : ofBytes (p.bytes n) i = p i := by
  simp [ofBytes, bytes, h]

theorem bytes_ofBytes (l : List U8) : (ofBytes l).bytes l.length = l := by
  apply List.ext_getElem
  · simp
  · intro i hi _
    simp only [bytes_length] at hi
    simp [bytes, ofBytes, hi]

theorem bytes_inj {p q : Mem} {n : Nat} (h : p.bytes n = q.bytes n) (i : Nat) (hi : i < n) :
    p i = q i := by
  have := congrArg (fun l : List U8 => l[i]?) h
  simp only [getElem?_bytes, hi, Option.some.injEq] at this
  exact this

theorem set_same (p : Mem) (i : Nat) (v : U8) : p.set i v i = v := by simp [set]

theorem set_other (p : Mem) (v : U8) {i j : Nat} (h : j ≠ i) : p.set i v j = p j := by simp [set, h]

end Mem

/-- `memcpy(p + off, src, n)`. -/
def memcpy (p : Mem) (off : Nat) (src : Mem) (n : Nat) : Mem :=
  fun i => if off ≤ i ∧ i < off + n then src (i - off) else p i

theorem memcpy_inside (p : Mem) (off : Nat) (src : Mem) (n i : Nat) (h : i < n) :
    memcpy p off src n (off + i) = src i := by
  simp [memcpy, h]

theorem memcpy_outside (p : Mem) (off : Nat) (src : Mem) (n i : Nat) (h : i < off ∨ off + n ≤ i) :
    memcpy p off src n i = p i := by
  unfold memcpy
  rw [if_neg (by omega)]

/-! ### Big-endian fields -/

/-- The 16-bit value of two bytes in network order. -/
def be16 (hi lo : U8) : U16 := hi ++ lo

theorem be16_toNat (hi lo : U8) : (be16 hi lo).toNat = hi.toNat * 256 + lo.toNat := by
  unfold be16
  rw [BitVec.toNat_append, ← Nat.shiftLeft_add_eq_or_of_lt lo.isLt, Nat.shiftLeft_eq]

theorem be16_split (v : U16) : be16 (v.extractLsb' 8 8) (v.extractLsb' 0 8) = v := by
  apply BitVec.eq_of_toNat_eq
  rw [be16_toNat]
  simp only [BitVec.extractLsb'_toNat, Nat.shiftRight_eq_div_pow]
  have := v.isLt
  omega

def rd16 (p : Mem) (i : Nat) : U16 := be16 (p i) (p (i + 1))

def rd32 (p : Mem) (i : Nat) : U32 := rd16 p i ++ rd16 p (i + 2)

def wr16 (p : Mem) (i : Nat) (v : U16) : Mem :=
  (p.set i (v.extractLsb' 8 8)).set (i + 1) (v.extractLsb' 0 8)

def wr32 (p : Mem) (i : Nat) (v : U32) : Mem :=
  wr16 (wr16 p i (v.extractLsb' 16 16)) (i + 2) (v.extractLsb' 0 16)

theorem rd16_congr {p q : Mem} {i : Nat} (h : p i = q i) (h' : p (i + 1) = q (i + 1)) :
    rd16 p i = rd16 q i := by
  unfold rd16
  rw [h, h']

@[simp] theorem rd16_wr16 (p : Mem) (i : Nat) (v : U16) : rd16 (wr16 p i v) i = v := by
  simp [rd16, wr16, Mem.set, be16_split]

theorem wr16_other (p : Mem) (v : U16) {i j : Nat} (h : j ≠ i) (h' : j ≠ i + 1) :
    wr16 p i v j = p j := by
  simp [wr16, Mem.set, h, h']

theorem rd16_wr16_other (p : Mem) (v : U16) {i j : Nat} (h : j + 1 < i ∨ i + 1 < j) :
    rd16 (wr16 p i v) j = rd16 p j :=
  rd16_congr (wr16_other p v (by omega) (by omega)) (wr16_other p v (by omega) (by omega))

theorem append_split32 (v : U32) :
    ((v.extractLsb' 16 16 : U16) ++ (v.extractLsb' 0 16 : U16) : U32) = v := by
  apply BitVec.eq_of_toNat_eq
  rw [BitVec.toNat_append, ← Nat.shiftLeft_add_eq_or_of_lt (BitVec.isLt _), Nat.shiftLeft_eq]
  simp only [BitVec.extractLsb'_toNat, Nat.shiftRight_eq_div_pow]
  have := v.isLt
  omega

@[simp] theorem rd32_wr32 (p : Mem) (i : Nat) (v : U32) : rd32 (wr32 p i v) i = v := by
  unfold rd32 wr32
  rw [rd16_wr16, rd16_wr16_other _ _ (by omega), rd16_wr16, append_split32]

theorem wr32_other (p : Mem) (v : U32) {i j : Nat} (h : j < i ∨ i + 3 < j) :
    wr32 p i v j = p j := by
  unfold wr32
  rw [wr16_other _ _ (by omega) (by omega), wr16_other _ _ (by omega) (by omega)]

theorem rd16_set_other (p : Mem) (v : U8) {i j : Nat} (h : j + 1 < i ∨ i < j) :
    rd16 (p.set i v) j = rd16 p j :=
  rd16_congr (Mem.set_other p v (by omega)) (Mem.set_other p v (by omega))

theorem rd16_wr32_other (p : Mem) (v : U32) {i j : Nat} (h : j + 1 < i ∨ i + 3 < j) :
    rd16 (wr32 p i v) j = rd16 p j :=
  rd16_congr (wr32_other p v (by omega)) (wr32_other p v (by omega))

theorem rd32_wr32_other (p : Mem) (v : U32) {i j : Nat} (h : j + 3 < i ∨ i + 3 < j) :
    rd32 (wr32 p i v) j = rd32 p j := by
  unfold rd32
  rw [rd16_wr32_other p v (by omega), rd16_wr32_other p v (by omega)]

theorem rd32_congr {p q : Mem} {i : Nat} (h : ∀ j, i ≤ j → j < i + 4 → p j = q j) :
    rd32 p i = rd32 q i := by
  unfold rd32
  rw [rd16_congr (h i (by omega) (by omega)) (h (i + 1) (by omega) (by omega)),
    rd16_congr (h (i + 2) (by omega) (by omega)) (h (i + 3) (by omega) (by omega))]

/-! ### MAC addresses -/

def MacBroadcast : U64 := 0xFFFFFFFFFFFF

def macToBytes (mac : U64) (p : Mem) (off : Nat) : Mem :=
  fun j => if off ≤ j ∧ j < off + 6 then mac.extractLsb' (8 * (5 - (j - off))) 8 else p j

def macFromBytes (p : Mem) : U64 :=
  (p 0).setWidth 64 <<< 40 ||| (p 1).setWidth 64 <<< 32 ||| (p 2).setWidth 64 <<< 24 |||
    (p 3).setWidth 64 <<< 16 ||| (p 4).setWidth 64 <<< 8 ||| (p 5).setWidth 64

/-! ### Constants -/

def EtherType_IPv4 : U16 := 0x0800
def EtherType_ARP : U16 := 0x0806

def IpProto_ICMP : U8 := 1
def IpProto_UDP : U8 := 17

def IpBroadcast : U32 := 0xFFFFFFFF

end SysZerotier.Net
