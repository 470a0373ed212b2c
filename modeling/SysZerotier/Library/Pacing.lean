import Mathlib.Data.List.Chain
import Mathlib.Algebra.Order.Group.Int

/-! Things done at intervals.

A loop looks at the clock in every round and acts only when it is long enough since it
last did. A time of zero stands for not yet. However the rounds fall, what is done is
spaced (`paced_chain`) and never overdue (`paced_fresh`). -/
namespace SysZerotier.Library

variable {α : Type} (time interval : α → Int)

/-- The rounds that act, when `last` is the time of the last that did. -/
def paced (last : Int) : List α → List α
  | [] => []
  | x :: xs => if last ≠ 0 ∧ time x - last < interval x then paced last xs else x :: paced (time x) xs

/-- When the last of the rounds acted. -/
def lastTime (last : Int) (xs : List α) : Int := (xs.getLast?.map time).getD last

variable {time interval}

theorem lastTime_cons {last : Int} {x : α} (xs : List α) : lastTime time last (x :: xs) = lastTime time (time x) xs := by
  rw [lastTime, lastTime, List.getLast?_cons]
  cases xs.getLast? <;> rfl

theorem paced_append {last : Int} (xs ys : List α) :
    paced time interval last (xs ++ ys) =
      paced time interval last xs ++ paced time interval (lastTime time last (paced time interval last xs)) ys := by
  induction xs generalizing last with
  | nil => rfl
  | cons x xs ih =>
    rw [List.cons_append, paced, paced]
    split
    · exact ih
    · rw [ih, List.cons_append, lastTime_cons]

variable (time interval) in
/-- What is done is spaced. -/
theorem paced_chain (xs : List α) :
    (paced time interval 0 xs).IsChain fun a b => time a = 0 ∨ time a + interval b ≤ time b := by
  induction xs using List.reverseRecOn with
  | nil => exact .nil
  | append_singleton xs x ih =>
    rw [paced_append, paced, paced]
    split
    · rw [List.append_nil]
      exact ih
    · rename_i hdue
      refine List.IsChain.append ih (.singleton _) fun a ha b hb => ?_
      obtain rfl := Option.some.inj hb
      rw [lastTime, show (paced time interval 0 xs).getLast? = some a from ha] at hdue
      have hlate : ¬(time a ≠ 0 ∧ time x - time a < interval x) := hdue
      omega

variable (time interval) in
/-- After every round, what was done last is not overdue. -/
theorem paced_fresh (xs : List α) {x : α} (hpos : 0 < interval x) :
    ∃ a, (paced time interval 0 (xs ++ [x])).getLast? = some a ∧ time x - time a < interval x := by
  rw [paced_append, paced, paced]
  split
  · rename_i hearly
    rw [List.append_nil]
    rw [lastTime] at hearly
    cases hlast : (paced time interval 0 xs).getLast? with
    | none =>
      rw [hlast] at hearly
      exact absurd rfl hearly.1
    | some a =>
      rw [hlast] at hearly
      exact ⟨a, rfl, hearly.2⟩
  · rw [paced, List.getLast?_concat]
    exact ⟨x, rfl, by rw [sub_self]; exact hpos⟩

end SysZerotier.Library
