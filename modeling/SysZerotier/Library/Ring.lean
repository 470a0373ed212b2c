import Mathlib

/-! A ring buffer of fixed size with one slot kept free.

`head` is where the next element goes and `tail` the oldest element; they are
equal when the ring is empty, and the ring is full when `head + 1 = tail`. The
elements it holds are `contents`, oldest first: appending adds one at the end or,
on a full ring, does nothing (`contents_push`), taking removes the first
(`pop_eq_some`), and clearing removes all of them (`contents_clear`). -/
namespace SysZerotier.Library

structure Ring (α : Type) (n : Nat) where
  slots : Fin n → α
  head : Fin n
  tail : Fin n

namespace Ring
variable {α : Type} {n : Nat} [NeZero n]

def push (r : Ring α n) (x : α) : Ring α n :=
  if r.head + 1 = r.tail then r
  else { r with slots := Function.update r.slots r.head x, head := r.head + 1 }

def pop (r : Ring α n) : Option (α × Ring α n) :=
  if r.tail = r.head then none else some (r.slots r.tail, { r with tail := r.tail + 1 })

def clear (r : Ring α n) : Ring α n := { r with tail := r.head }

def length (r : Ring α n) : Nat := (r.head - r.tail).val

def contents (r : Ring α n) : List α :=
  (List.range r.length).map fun i => r.slots (r.tail + Fin.ofNat n i)

/-! ### Distances around the ring -/

theorem val_succ {d : Fin n} (h : d + 1 ≠ 0) : (d + 1).val = d.val + 1 := by
  have hval : (d + 1).val = (d.val + 1) % n := by
    rw [Fin.val_add, Fin.val_one']
    simp [Nat.add_mod]
  have hne : (d + 1).val ≠ 0 := fun h0 => h (Fin.ext (by rw [h0]; simp))
  have hlt := d.isLt
  by_cases hd : d.val + 1 < n
  · rw [hval, Nat.mod_eq_of_lt hd]
  · rw [hval, show d.val + 1 = n by omega, Nat.mod_self] at hne
    exact absurd rfl hne

theorem val_pred {d : Fin n} (h : d ≠ 0) : d.val = (d - 1).val + 1 := by
  have := val_succ (d := d - 1) (by rw [sub_add_cancel]; exact h)
  rwa [sub_add_cancel] at this

theorem length_eq_zero {r : Ring α n} : r.length = 0 ↔ r.tail = r.head := by
  unfold length
  constructor
  · intro h
    have hd : r.head - r.tail = 0 := Fin.ext (by rw [h]; simp)
    exact (sub_eq_zero.mp hd).symm
  · intro h
    rw [h, sub_self]
    simp

theorem contents_length (r : Ring α n) : r.contents.length = r.length := by
  simp [contents]

/-- Full is one element short of the size. -/
theorem full_iff {r : Ring α n} : r.head + 1 = r.tail ↔ r.length + 1 = n := by
  have hlt := (r.head - r.tail).isLt
  have hstep : r.head - r.tail + 1 = 0 ↔ r.head + 1 = r.tail := by
    rw [sub_add_eq_add_sub, sub_eq_zero]
  rw [← hstep, length]
  constructor
  · intro h
    by_contra hne
    have hval : (r.head - r.tail + 1).val = ((r.head - r.tail).val + 1) % n := by
      rw [Fin.val_add, Fin.val_one']
      simp [Nat.add_mod]
    rw [h, Nat.mod_eq_of_lt (by omega)] at hval
    simp at hval
  · intro h
    by_contra hne
    have := val_succ hne
    have := (r.head - r.tail + 1).isLt
    omega

/-- The oldest element is the first, and the rest is what the ring holds without it. -/
theorem contents_cons {r : Ring α n} (h : r.tail ≠ r.head) :
    r.contents = r.slots r.tail :: contents { r with tail := r.tail + 1 } := by
  have hlen : r.length = length { r with tail := r.tail + 1 } + 1 := by
    have hd : r.head - r.tail ≠ 0 := fun h0 => h (sub_eq_zero.mp h0).symm
    unfold length
    rw [val_pred hd, sub_sub]
  unfold contents
  rw [hlen, List.range_succ_eq_map, List.map_cons, List.map_map]
  congr 1
  · simp
  · refine List.map_congr_left fun i _ => ?_
    have hi : Fin.ofNat n (i + 1) = 1 + Fin.ofNat n i := by
      apply Fin.ext
      rw [Fin.val_add, Fin.val_one']
      simp [Nat.add_mod, Nat.add_comm]
    show r.slots (r.tail + Fin.ofNat n (i + 1)) = r.slots (r.tail + 1 + Fin.ofNat n i)
    rw [hi, add_assoc]

theorem contents_nil {r : Ring α n} (h : r.tail = r.head) : r.contents = [] := by
  unfold contents
  rw [length_eq_zero.mpr h]
  rfl

theorem contents_clear (r : Ring α n) : r.clear.contents = [] := contents_nil rfl

theorem pop_eq_none {r : Ring α n} : r.pop = none ↔ r.tail = r.head := by
  unfold pop
  split
  · rename_i hempty
    exact iff_of_true rfl hempty
  · rename_i hsome
    exact iff_of_false nofun hsome

theorem pop_eq_some {r r' : Ring α n} {x : α} (h : r.pop = some (x, r')) :
    r.contents = x :: r'.contents := by
  unfold pop at h
  split at h
  · cases h
  · rename_i hne
    cases h
    exact contents_cons hne

/-- A full ring refuses; otherwise the element becomes the last. -/
theorem contents_push (r : Ring α n) (x : α) :
    (r.push x).contents = if r.head + 1 = r.tail then r.contents else r.contents ++ [x] := by
  unfold push
  split
  · rfl
  · rename_i hfull
    have hd : r.head - r.tail + 1 ≠ 0 := by
      intro h0
      exact hfull (sub_eq_zero.mp (by rw [← h0, sub_add_eq_add_sub]))
    have hlen : length { r with slots := Function.update r.slots r.head x, head := r.head + 1 } =
        r.length + 1 := by
      unfold length
      rw [← val_succ hd, sub_add_eq_add_sub]
    have hlt : r.length < n := (r.head - r.tail).isLt
    unfold contents
    rw [hlen, List.range_succ, List.map_append, List.map_singleton]
    congr 1
    · refine List.map_congr_left fun i hi => ?_
      have hi' := List.mem_range.mp hi
      -- an older slot is not the one written
      have hne : r.tail + Fin.ofNat n i ≠ r.head := by
        intro heq
        have hlen' : r.length = i := by
          have hsub : r.head - r.tail = Fin.ofNat n i := by rw [← heq]; abel
          unfold length
          rw [hsub]
          exact Nat.mod_eq_of_lt (by omega)
        omega
      exact Function.update_of_ne hne ..
    · have hlast : r.tail + Fin.ofNat n r.length = r.head := by
        have : Fin.ofNat n r.length = r.head - r.tail := Fin.ext (Nat.mod_eq_of_lt hlt)
        rw [this]
        abel
      show [Function.update r.slots r.head x (r.tail + Fin.ofNat n r.length)] = [x]
      rw [hlast, Function.update_self]

end Ring

end SysZerotier.Library
