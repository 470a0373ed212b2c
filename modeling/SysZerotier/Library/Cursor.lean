import SysZerotier.Library.Guard

/-! A reading cursor over a buffer.

Elements are taken from the front of what is left, as long as there are enough.
`taken` is a record of the ranges taken, for results; nothing depends on it. -/
namespace SysZerotier.Library

/-- `size` elements from `start` on. -/
structure Range where
  start : Nat
  size : Nat
  deriving DecidableEq

structure Cursor where
  pos : Nat
  stop : Nat
  taken : List Range := []

namespace Cursor
variable {α : Type}

/-- The cursor behind the next `n` elements. -/
def past (c : Cursor) (n : Nat) : Cursor := { c with pos := c.pos + n, taken := c.taken ++ [⟨c.pos, n⟩] }

/-- Where the next `n` elements are, and the cursor behind them, in a buffer of `size`
elements: the pointer may come to stand one past its end. -/
def take (c : Cursor) (size n : Nat) : Guarded (Option (Nat × Cursor)) := do
  let left ← Guarded.sub c.stop c.pos
  if left < n then return none
  else do
    let next ← Guarded.add c.pos n (size + 1)
    return some (c.pos, { c with pos := next, taken := c.taken ++ [⟨c.pos, n⟩] })

/-- What is left. -/
def left (data : Nat → α) (c : Cursor) : List α := (List.range (c.stop - c.pos)).map fun i => data (c.pos + i)

/-- `c'` is `c` after more was taken. -/
structure Follows (c c' : Cursor) : Prop where
  stop : c'.stop = c.stop
  pos : c.pos ≤ c'.pos
  taken : c.taken <+: c'.taken

/-- What was taken between `c` and `c'`. -/
def since (c c' : Cursor) : List Range := c'.taken.drop c.taken.length

/-- The cursor stands within a buffer of `size` elements. -/
structure Within (c : Cursor) (size : Nat) : Prop where
  pos : c.pos ≤ c.stop
  stop : c.stop ≤ size

@[simp] theorem past_pos (c : Cursor) (n : Nat) : (c.past n).pos = c.pos + n := rfl

@[simp] theorem past_stop (c : Cursor) (n : Nat) : (c.past n).stop = c.stop := rfl

theorem Within.past {c : Cursor} {size n : Nat} (h : c.Within size) (hn : ¬c.stop - c.pos < n) :
    (c.past n).Within size := by
  have := h.pos
  exact ⟨by rw [past_pos, past_stop]; omega, h.stop⟩

theorem Within.take {c : Cursor} {size : Nat} (h : c.Within size) (n : Nat) :
    c.take size n = .ok (if c.stop - c.pos < n then none else some (c.pos, c.past n)) := by
  have hpos := h.pos
  have hstop := h.stop
  unfold Cursor.take
  rw [Guarded.sub_ok hpos, ok_bind]
  split
  · rfl
  · rw [Guarded.add_ok (by omega)]
    rfl

theorem left_length (data : Nat → α) (c : Cursor) : (c.left data).length = c.stop - c.pos := by
  rw [left, List.length_map, List.length_range]

theorem take_left (data : Nat → α) (c : Cursor) {n : Nat} (h : ¬c.stop - c.pos < n) :
    (c.left data).take n = (List.range n).map fun i => data (c.pos + i) := by
  rw [left, ← List.map_take, List.take_range, Nat.min_eq_left (by omega)]

theorem drop_left (data : Nat → α) (c : Cursor) (n : Nat) : (c.left data).drop n = (c.past n).left data := by
  apply List.ext_getElem
  · rw [List.length_drop, left_length, left_length, past_pos, past_stop]
    omega
  · intro i hi _
    simp [left, Nat.add_assoc]

/-! ### One after the other -/

theorem follows_refl (c : Cursor) : c.Follows c := ⟨rfl, le_refl _, List.prefix_refl _⟩

theorem Follows.trans {c d e : Cursor} (h : c.Follows d) (h' : d.Follows e) : c.Follows e :=
  ⟨h'.stop.trans h.stop, h.pos.trans h'.pos, h.taken.trans h'.taken⟩

theorem follows_past (c : Cursor) (n : Nat) : c.Follows (c.past n) :=
  ⟨rfl, Nat.le_add_right _ _, List.prefix_append _ _⟩

/-- What was taken, as elements. -/
theorem Follows.elements {c c' : Cursor} (h : c.Follows c') (hpos : c'.pos ≤ c'.stop) (data : Nat → α) :
    (c.left data).take ((c.left data).length - (c'.left data).length) =
      (List.range (c'.pos - c.pos)).map fun i => data (c.pos + i) := by
  have hstop := h.stop
  have hfrom := h.pos
  have hcount : (c.left data).length - (c'.left data).length = c'.pos - c.pos := by
    rw [left_length, left_length]
    omega
  rw [hcount, take_left _ _ (by omega)]

theorem since_refl (c : Cursor) : c.since c = [] := List.drop_length

theorem since_past {c c' : Cursor} {n : Nat} (h : (c.past n).Follows c') :
    c.since c' = ⟨c.pos, n⟩ :: (c.past n).since c' := by
  obtain ⟨more, hmore⟩ := h.taken
  rw [since, since, ← hmore]
  simp [past]

end Cursor

end SysZerotier.Library
