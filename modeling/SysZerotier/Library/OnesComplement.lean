import Mathlib

/-! One's complement sums of 16-bit words, over natural numbers.

Adding with end-around carry is arithmetic modulo `65535` with two zeros. `fold`
is the representative an adder that folds its carries back reaches: zero only
for zero, and otherwise in `1 .. 65535`. That adder is `add`, and summing words with
it is folding their plain sum (`sum_toNat`). -/
namespace SysZerotier.Library.OnesComplement

/-- The 16-bit value an end-around-carry adder reaches from the plain sum `n`. -/
def fold (n : Nat) : Nat := if n = 0 then 0 else (n - 1) % 65535 + 1

theorem fold_le (n : Nat) : fold n ≤ 65535 := by
  unfold fold
  split <;> omega

theorem fold_of_le {n : Nat} (h : n ≤ 65535) : fold n = n := by
  unfold fold
  split <;> omega

/-- One carry folded back does not change the representative. -/
theorem fold_carry (n : Nat) : fold (n % 65536 + n / 65536) = fold n := by
  unfold fold
  have hn := Nat.div_add_mod n 65536
  by_cases h : n = 0
  · simp [h]
  · rw [if_neg h, if_neg (by omega)]
    have : n - 1 = (n % 65536 + n / 65536 - 1) + 65535 * (n / 65536) := by omega
    rw [this, Nat.add_mul_mod_self_left]

/-- What is added may be added to the representative. -/
theorem fold_add (n m : Nat) : fold (fold n + m) = fold (n + m) := by
  by_cases hn : n = 0
  · rw [hn]
    rfl
  · have hfold : fold n = (n - 1) % 65535 + 1 := if_neg hn
    have hsum : n + m - 1 = (fold n + m - 1) + 65535 * ((n - 1) / 65535) := by omega
    have hleft : fold (fold n + m) = (fold n + m - 1) % 65535 + 1 := if_neg (by omega)
    have hright : fold (n + m) = (n + m - 1) % 65535 + 1 := if_neg (by omega)
    rw [hleft, hright, hsum, Nat.add_mul_mod_self_left]

/-- Adding the complement of a sum makes the all-ones zero. -/
theorem fold_complement (n : Nat) : fold (n + (65535 - fold n)) = 65535 := by
  by_cases h : n = 0
  · rw [h]
    rfl
  · rw [fold, fold, if_neg h, if_neg (by omega)]
    omega

/-- All ones added to a sum whose complement is zero leaves all ones. -/
theorem fold_all_ones {n : Nat} (h : fold n = 65535) : fold (n + 65535) = 65535 := by
  unfold fold at h ⊢
  split at h <;> split <;> omega

/-! ### The adder -/

/-- Adding with the carry put back in at the low end. -/
def add (a b : BitVec 16) : BitVec 16 := if a.uaddOverflow b then a + b + 1 else a + b

/-- The one's complement sum of the words, one after the other. -/
def sum (ws : List (BitVec 16)) : BitVec 16 := ws.foldl add 0

/-- The carry of two words is one at most, and there is room for it. -/
theorem add_toNat (a b : BitVec 16) :
    (add a b).toNat = (a.toNat + b.toNat) % 65536 + (a.toNat + b.toNat) / 65536 := by
  have ha := a.isLt
  have hb := b.isLt
  have hone : (1 : BitVec 16).toNat = 1 := rfl
  rw [add]
  by_cases hover : a.uaddOverflow b = true
  · have hsum : 2 ^ 16 ≤ a.toNat + b.toNat := by simpa [BitVec.uaddOverflow] using hover
    rw [if_pos hover, BitVec.toNat_add, BitVec.toNat_add, hone]
    omega
  · have hsum : a.toNat + b.toNat < 2 ^ 16 := by simpa [BitVec.uaddOverflow] using hover
    rw [if_neg hover, BitVec.toNat_add]
    omega

theorem add_toNat_fold {n : Nat} {a : BitVec 16} (h : a.toNat = fold n) (b : BitVec 16) :
    (add a b).toNat = fold (n + b.toNat) := by
  have hle : (add a b).toNat ≤ 65535 := Nat.le_of_lt_succ (add a b).isLt
  calc (add a b).toNat = fold (add a b).toNat := (fold_of_le hle).symm
    _ = fold (a.toNat + b.toNat) := by rw [add_toNat, fold_carry]
    _ = fold (n + b.toNat) := by rw [h, fold_add]

theorem foldl_add_toNat {n : Nat} {a : BitVec 16} (h : a.toNat = fold n) (ws : List (BitVec 16)) :
    (ws.foldl add a).toNat = fold (n + (ws.map BitVec.toNat).sum) := by
  induction ws generalizing n a with
  | nil => exact h
  | cons w ws ih =>
    rw [List.foldl_cons, ih (add_toNat_fold h w), List.map_cons, List.sum_cons, Nat.add_assoc]

/-- The adder reaches the representative of the plain sum. -/
theorem sum_toNat (ws : List (BitVec 16)) : (sum ws).toNat = fold (ws.map BitVec.toNat).sum := by
  have h := foldl_add_toNat (n := 0) (a := 0) rfl ws
  rwa [Nat.zero_add] at h

end SysZerotier.Library.OnesComplement
