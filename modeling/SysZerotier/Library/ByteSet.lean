import Mathlib

/-! A set of numbers stored in bytes, eight to a byte, the lowest bit first. -/
namespace SysZerotier.Library.ByteSet

def has (k : Nat) (bytes : List (BitVec 8)) : Bool :=
  decide (k / 8 < bytes.length) && (bytes.getD (k / 8) 0).getLsbD (k % 8)

/-- A number for which there is no byte is left out. -/
def insert (k : Nat) (bytes : List (BitVec 8)) : List (BitVec 8) :=
  bytes.modify (k / 8) fun b => b ||| (1 : BitVec 8) <<< (k % 8)

/-- The numbers stored. -/
def elems (bytes : List (BitVec 8)) : Finset Nat :=
  (Finset.range (8 * bytes.length)).filter fun k => has k bytes = true

def card (bytes : List (BitVec 8)) : Nat := (elems bytes).card

@[simp] theorem length_insert (k : Nat) (bytes : List (BitVec 8)) :
    (insert k bytes).length = bytes.length := List.length_modify ..

theorem mem_elems {k : Nat} {bytes : List (BitVec 8)} : k ∈ elems bytes ↔ has k bytes = true := by
  simp only [elems, Finset.mem_filter, Finset.mem_range, and_iff_right_iff_imp]
  intro h
  simp only [has, Bool.and_eq_true, decide_eq_true_eq] at h
  omega

private theorem bit (i j : Fin 8) : ((1 : BitVec 8) <<< (i : Nat)).getLsbD j = decide (j = i) := by
  revert i j
  decide

theorem has_insert (j k : Nat) (bytes : List (BitVec 8)) :
    has j (insert k bytes) = (has j bytes || (decide (j = k) && decide (k / 8 < bytes.length))) := by
  unfold has
  rw [length_insert]
  by_cases hj : j / 8 < bytes.length
  · have hget : (insert k bytes).getD (j / 8) 0 =
        if k / 8 = j / 8 then bytes.getD (j / 8) 0 ||| (1 : BitVec 8) <<< (k % 8) else bytes.getD (j / 8) 0 := by
      simp only [insert, List.getD_eq_getElem?_getD, List.getElem?_modify, List.getElem?_eq_getElem hj]
      split <;> rfl
    rw [hget]
    by_cases hbyte : k / 8 = j / 8
    · have hb := bit ⟨k % 8, Nat.mod_lt _ (by decide)⟩ ⟨j % 8, Nat.mod_lt _ (by decide)⟩
      have hjk : (⟨j % 8, Nat.mod_lt _ (by decide)⟩ : Fin 8) = ⟨k % 8, Nat.mod_lt _ (by decide)⟩ ↔ j = k := by
        rw [Fin.mk.injEq]
        omega
      dsimp only at hb
      rw [if_pos hbyte, BitVec.getLsbD_or, hb, hbyte]
      simp only [hj, decide_true, Bool.true_and, Bool.and_true, hjk]
    · have hne : j ≠ k := fun h => hbyte (by rw [h])
      simp only [hbyte, if_false, hne, decide_false, Bool.false_and, Bool.or_false]
  · have hne : ¬(j = k ∧ k / 8 < bytes.length) := by
      rintro ⟨rfl, h⟩
      exact hj h
    simp only [hj, decide_false, Bool.false_and, Bool.false_or]
    rw [← Bool.decide_and, decide_eq_false hne]

/-- Inserting a number that has a byte adds it, once. -/
theorem card_insert {k : Nat} {bytes : List (BitVec 8)} (hk : k / 8 < bytes.length) :
    card (insert k bytes) = if has k bytes then card bytes else card bytes + 1 := by
  have helems : elems (insert k bytes) = Insert.insert k (elems bytes) := by
    ext j
    rw [Finset.mem_insert, mem_elems, mem_elems, has_insert]
    simp only [hk, decide_true, Bool.and_true, Bool.or_eq_true, decide_eq_true_eq]
    exact or_comm
  unfold card
  rw [helems]
  split
  · rename_i h
    rw [Finset.insert_eq_of_mem (mem_elems.mpr h)]
  · rename_i h
    exact Finset.card_insert_of_notMem fun hm => h (mem_elems.mp hm)

end SysZerotier.Library.ByteSet
