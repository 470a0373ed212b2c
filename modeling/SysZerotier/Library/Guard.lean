import Mathlib

/-! Memory accesses with their bounds checked.

A program whose accesses are undefined outside their bounds is read a second time
in `Guarded`, where each access is performed through a guard that reports a fault.
That the second reading returns `.ok` of the first is then memory safety, and each
guard has one lemma that discharges it. -/
namespace SysZerotier.Library

/-- What an access outside its bounds reports. -/
inductive Fault where
  | read (i size : Nat)
  | write (i size : Nat)
  | index (i : Int) (size : Nat)
  | underflow (a b : Nat)
  | diverges
  deriving DecidableEq

abbrev Guarded := Except Fault

@[simp] theorem ok_bind {α β : Type} (a : α) (f : α → Guarded β) :
    ((Except.ok a : Guarded α) >>= f) = f a := rfl

@[simp] theorem pure_eq_ok {α : Type} (a : α) : (pure a : Guarded α) = .ok a := rfl

namespace Guarded

/-- A signed index into an array of `size` entries. -/
def index (i : Int) (size : Nat) : Guarded Nat :=
  if 0 ≤ i ∧ i < size then .ok i.toNat else .error (.index i size)

/-- `a - b` on unsigned operands. -/
def sub (a b : Nat) : Guarded Nat := if b ≤ a then .ok (a - b) else .error (.underflow a b)

/-- `a + b`, which has to stay below `bound`. -/
def add (a b bound : Nat) : Guarded Nat := if a + b < bound then .ok (a + b) else .error (.index (a + b) bound)

/-- `a * b`, likewise. -/
def mul (a b bound : Nat) : Guarded Nat := if a * b < bound then .ok (a * b) else .error (.index (a * b) bound)

/-- `a / b`, which has to have a divisor. -/
def div (a b : Nat) : Guarded Nat := if b = 0 then .error (.underflow a b) else .ok (a / b)

/-- `a` as a value of a type with fewer, which has to be one of them. -/
def narrow (a bound : Nat) : Guarded Nat := if a < bound then .ok a else .error (.index a bound)

/-- The result of a loop given enough fuel. -/
def returns {α : Type} : Option α → Guarded α
  | some a => .ok a
  | none => .error .diverges

theorem index_of_nonneg {i : Int} {size : Nat} (h0 : 0 ≤ i) (h : i.toNat < size) :
    index i size = .ok i.toNat := by
  unfold index
  rw [if_pos ⟨h0, by omega⟩]

theorem index_ok {i size : Nat} (h : i < size) : index i size = .ok i :=
  index_of_nonneg (Int.natCast_nonneg i) h

theorem sub_ok {a b : Nat} (h : b ≤ a) : sub a b = .ok (a - b) := if_pos h

theorem add_ok {a b bound : Nat} (h : a + b < bound) : add a b bound = .ok (a + b) := if_pos h

theorem mul_ok {a b bound : Nat} (h : a * b < bound) : mul a b bound = .ok (a * b) := if_pos h

theorem div_ok {a b : Nat} (h : b ≠ 0) : div a b = .ok (a / b) := if_neg h

theorem narrow_ok {a bound : Nat} (h : a < bound) : narrow a bound = .ok a := if_pos h

/-- A reading that finds what the unchecked one finds: nothing, or values in the relation `R`. -/
def Agrees {α β : Type} (g : Guarded (Option α)) (l : Option β) (R : α → β → Prop) : Prop :=
  (g = .ok none ∧ l = none) ∨ ∃ a b, g = .ok (some a) ∧ l = some b ∧ R a b

theorem Agrees.none {α β : Type} {R : α → β → Prop} : Agrees (.ok .none) .none R := .inl ⟨rfl, rfl⟩

theorem Agrees.some {α β : Type} {R : α → β → Prop} {a : α} {b : β} (h : R a b) :
    Agrees (.ok (.some a)) (.some b) R := .inr ⟨a, b, rfl, rfl, h⟩

theorem Agrees.mono {α β : Type} {g : Guarded (Option α)} {l : Option β} {R S : α → β → Prop} (h : Agrees g l R)
    (himp : ∀ a b, R a b → S a b) : Agrees g l S := by
  rcases h with hnone | ⟨a, b, hg, hl, hab⟩
  · exact .inl hnone
  · exact .inr ⟨a, b, hg, hl, himp a b hab⟩

/-- One reading after another. -/
theorem Agrees.bind {α β γ δ : Type} {g : Guarded (Option α)} {l : Option β} {R : α → β → Prop}
    {k : Option α → Guarded (Option γ)} {k' : β → Option δ} {S : γ → δ → Prop} (h : Agrees g l R)
    (hnone : k .none = .ok .none) (hsome : ∀ a b, R a b → Agrees (k (.some a)) (k' b) S) :
    Agrees (g >>= k) (l >>= k') S := by
  rcases h with ⟨rfl, rfl⟩ | ⟨a, b, rfl, rfl, hab⟩
  · exact .inl ⟨hnone, rfl⟩
  · exact hsome a b hab

end Guarded

/-- A pointer together with the number of elements that may be accessed from it. -/
structure Buffer (α : Type) where
  data : Nat → α
  size : Nat

namespace Buffer
variable {α : Type}

/-- `p[i]`. -/
def get (p : Buffer α) (i : Nat) : Guarded α :=
  if i < p.size then .ok (p.data i) else .error (.read i p.size)

/-- `p[i] = v`. -/
def put (p : Buffer α) (i : Nat) (v : α) : Guarded (Buffer α) :=
  if i < p.size then .ok ⟨fun j => if j = i then v else p.data j, p.size⟩ else .error (.write i p.size)

/-- `p + k`, which may point one past the end but no further. -/
def shift (p : Buffer α) (k : Nat) : Guarded (Buffer α) :=
  if k ≤ p.size then .ok ⟨fun i => p.data (k + i), p.size - k⟩ else .error (.read k p.size)

/-- `n` elements of `src` copied to `p + off`. -/
def copy (p : Buffer α) (off : Nat) (src : Buffer α) (n : Nat) : Guarded (Buffer α) :=
  if src.size < n then .error (.read n src.size)
  else if p.size < off + n then .error (.write (off + n) p.size)
  else .ok ⟨fun i => if off ≤ i ∧ i < off + n then src.data (i - off) else p.data i, p.size⟩

/-- The first `n` elements, read. -/
def take (p : Buffer α) (n : Nat) : Guarded (List α) :=
  if n ≤ p.size then .ok ((List.range n).map p.data) else .error (.read n p.size)

/-- `n` elements from `p + off` on, read. -/
def slice (p : Buffer α) (off n : Nat) : Guarded (List α) := do
  let start ← p.shift off
  start.take n

theorem get_ok {p : Buffer α} {i : Nat} (h : i < p.size) : p.get i = .ok (p.data i) := if_pos h

theorem put_ok {p : Buffer α} {i : Nat} (h : i < p.size) (v : α) :
    p.put i v = .ok ⟨fun j => if j = i then v else p.data j, p.size⟩ := if_pos h

theorem shift_ok {p : Buffer α} {k : Nat} (h : k ≤ p.size) :
    p.shift k = .ok ⟨fun i => p.data (k + i), p.size - k⟩ := if_pos h

theorem copy_ok {p src : Buffer α} {off n : Nat} (hs : n ≤ src.size) (hp : off + n ≤ p.size) :
    p.copy off src n =
      .ok ⟨fun i => if off ≤ i ∧ i < off + n then src.data (i - off) else p.data i, p.size⟩ := by
  unfold copy
  rw [if_neg (by omega), if_neg (by omega)]

theorem take_ok {p : Buffer α} {n : Nat} (h : n ≤ p.size) : p.take n = .ok ((List.range n).map p.data) :=
  if_pos h

theorem slice_ok {p : Buffer α} {off n : Nat} (h : off + n ≤ p.size) :
    p.slice off n = .ok ((List.range n).map fun i => p.data (off + i)) := by
  rw [slice, shift_ok (by omega), ok_bind, take_ok (by dsimp only; omega)]

end Buffer

end SysZerotier.Library
