import Mathlib

/-! A circuit breaker whose waits back off.

A breaker is working until it trips. It is down from then until something succeeds, and
proven until it is reset. The wait before the next attempt grows when the breaker trips and
with each attempt that fails. Through an outage, from a trip to the first success, the wait
keeps to the bounds of its schedule and never shrinks (`Outage.after`). -/
namespace SysZerotier.Library

/-- A schedule of waits: the wait of a breaker that has nothing to wait for, and the wait
that follows each. -/
structure Backoff (α : Type) [Preorder α] where
  zero : α
  least : α
  most : α
  grow : α → α
  least_le_grow : least ≤ grow zero
  le_grow : ∀ wait, wait ≤ most → wait ≤ grow wait
  grow_le_most : ∀ wait, grow wait ≤ most

/-- The wait doubles, from `least` up to `most`. -/
def Backoff.doubling (least most : ℕ) (h : least ≤ most) : Backoff ℕ where
  zero := 0
  least := least
  most := most
  grow wait := min (if wait = 0 then least else wait * 2) most
  least_le_grow := by simpa using h
  le_grow wait hwait := by
    refine le_min ?_ hwait
    split <;> omega
  grow_le_most _ := min_le_right _ _

inductive Phase where
  | working
  | down
  | proven
  deriving DecidableEq

structure Breaker (α : Type) where
  phase : Phase
  wait : α

namespace Breaker

inductive Event where
  | trip
  | retry
  | succeed
  | reset
  deriving DecidableEq

variable {α : Type} [Preorder α] (B : Backoff α)

def next (b : Breaker α) : Event → Breaker α
  | .trip => ⟨.down, B.grow (if b.phase = .working then B.zero else b.wait)⟩
  | .retry => ⟨b.phase, B.grow b.wait⟩
  | .succeed => if b.phase = .down then ⟨.proven, b.wait⟩ else b
  | .reset => if b.phase = .proven then ⟨.working, B.zero⟩ else b

def after (b : Breaker α) (es : List Event) : Breaker α := es.foldl (next B) b

/-- A breaker that is not working waits within the bounds. -/
def Sound (b : Breaker α) : Prop := b.phase ≠ .working → B.least ≤ b.wait ∧ b.wait ≤ B.most

/-- The breaker is down, and its wait is within the bounds and no less than `floor`. -/
structure Outage (floor : α) (b : Breaker α) : Prop where
  down : b.phase = .down
  least_le : B.least ≤ b.wait
  le_most : b.wait ≤ B.most
  floor_le : floor ≤ b.wait

variable {B} {b : Breaker α} {floor : α}

@[simp] theorem after_nil : b.after B [] = b := rfl

@[simp] theorem after_cons (e : Event) (es : List Event) : b.after B (e :: es) = (b.next B e).after B es := rfl

theorem Sound.next (h : Sound B b) (e : Event) : Sound B (b.next B e) := by
  have grows (hphase : b.phase ≠ .working) : B.least ≤ B.grow b.wait :=
    (h hphase).1.trans (B.le_grow _ (h hphase).2)
  cases e with
  | trip =>
    refine fun _ => ⟨?_, B.grow_le_most _⟩
    simp only [Breaker.next]
    split
    · exact B.least_le_grow
    · exact grows ‹_›
  | retry => exact fun hphase => ⟨grows hphase, B.grow_le_most _⟩
  | succeed =>
    simp only [Breaker.next]
    split
    · exact fun _ => h (by simp [*])
    · exact h
  | reset =>
    simp only [Breaker.next]
    split
    · exact fun hphase => absurd rfl hphase
    · exact h

theorem Sound.after (h : Sound B b) (es : List Event) : Sound B (b.after B es) := by
  induction es generalizing b with
  | nil => exact h
  | cons e es ih => exact ih (h.next e)

theorem Outage.grown (h : Outage B floor b) : Outage B floor ⟨.down, B.grow b.wait⟩ :=
  have hgrow := B.le_grow _ h.le_most
  ⟨rfl, h.least_le.trans hgrow, B.grow_le_most _, h.floor_le.trans hgrow⟩

theorem Outage.next (h : Outage B floor b) {e : Event} (he : e ≠ .succeed) : Outage B floor (b.next B e) := by
  cases e with
  | trip => simpa [Breaker.next, h.down] using h.grown
  | retry => simpa [Breaker.next, h.down] using h.grown
  | succeed => exact absurd rfl he
  | reset => simpa [Breaker.next, h.down] using h

/-- An outage lasts until something succeeds. -/
theorem Outage.after (h : Outage B floor b) (es : List Event) (hes : .succeed ∉ es) :
    Outage B floor (b.after B es) := by
  induction es generalizing b with
  | nil => exact h
  | cons e es ih =>
    rw [List.mem_cons, not_or] at hes
    exact ih (h.next (Ne.symm hes.1)) hes.2

/-- What the wait is now, it will not be less than. -/
theorem Outage.since (h : Outage B floor b) : Outage B b.wait b := ⟨h.down, h.least_le, h.le_most, le_rfl⟩

/-- A trip begins an outage. -/
theorem Sound.trip (h : Sound B b) : Outage B (b.next B .trip).wait (b.next B .trip) :=
  have hsound := h.next .trip (by simp [Breaker.next])
  ⟨rfl, hsound.1, hsound.2, le_rfl⟩

end Breaker

end SysZerotier.Library
