/-! Programs that call their surroundings.

A program makes calls and goes on with what they answer. Nothing is known of the answers,
so what holds of a program holds of every run of it. `Ensures` is the rule of postconditions over
the calls and answers of a run. -/
namespace SysZerotier.Library

/-- A program over calls `C` with answers `A`. -/
inductive Dialogue (C A α : Type) where
  | ret (r : α)
  | ask (c : C) (next : A → Dialogue C A α)

namespace Dialogue

variable {C A α β : Type}

def bind : Dialogue C A α → (α → Dialogue C A β) → Dialogue C A β
  | ret r, f => f r
  | ask c next, f => ask c fun a => bind (next a) f

instance : Monad (Dialogue C A) where
  pure := ret
  bind := bind

def call (c : C) : Dialogue C A A := ask c ret

/-- The calls of a run with their answers, and what the program returns. -/
inductive Runs : Dialogue C A α → List (C × A) → α → Prop
  | ret (r : α) : Runs (ret r) [] r
  | ask {c : C} {next : A → Dialogue C A α} {a : A} {t : List (C × A)} {r : α} (h : Runs (next a) t r) :
      Runs (ask c next) ((c, a) :: t) r

/-- What holds of every run. -/
def Ensures (p : Dialogue C A α) (post : List (C × A) → α → Prop) : Prop := ∀ t r, Runs p t r → post t r

/-! ### Rules -/

theorem ensures_pure {post : List (C × A) → α → Prop} {r : α} (h : post [] r) :
    Ensures (pure r : Dialogue C A α) post := by
  intro t r' hrun
  cases hrun
  exact h

theorem ensures_call {post : List (C × A) → β → Prop} {c : C} {f : A → Dialogue C A β}
    (h : ∀ a, Ensures (f a) fun t r => post ((c, a) :: t) r) : Ensures (call c >>= f) post := by
  intro t r hrun
  cases hrun with
  | ask hrest => exact h _ _ _ hrest

theorem runs_bind {p : Dialogue C A α} {f : α → Dialogue C A β} {t : List (C × A)} {r : β} (h : Runs (p.bind f) t r) :
    ∃ t₁ r₁ t₂, Runs p t₁ r₁ ∧ Runs (f r₁) t₂ r ∧ t = t₁ ++ t₂ := by
  induction p generalizing t with
  | ret r₁ => exact ⟨[], r₁, t, .ret r₁, h, rfl⟩
  | ask c next ih =>
    cases h with
    | ask h =>
      obtain ⟨t₁, r₁, t₂, h₁, h₂, rfl⟩ := ih _ h
      exact ⟨_, r₁, t₂, .ask h₁, h₂, rfl⟩

theorem ensures_bind {p : Dialogue C A α} {f : α → Dialogue C A β} {mid : List (C × A) → α → Prop}
    {post : List (C × A) → β → Prop} (hp : Ensures p mid)
    (hf : ∀ t r, mid t r → Ensures (f r) fun t' r' => post (t ++ t') r') : Ensures (p >>= f) post := by
  intro t r hrun
  obtain ⟨t₁, r₁, t₂, h₁, h₂, rfl⟩ := runs_bind hrun
  exact hf t₁ r₁ (hp t₁ r₁ h₁) t₂ r h₂

theorem Ensures.mono {p : Dialogue C A α} {post post' : List (C × A) → α → Prop} (h : Ensures p post)
    (himp : ∀ t r, post t r → post' t r) : Ensures p post' := fun t r hrun => himp t r (h t r hrun)

theorem ensures_ite {post : List (C × A) → α → Prop} {c : Prop} [Decidable c] {p q : Dialogue C A α}
    (hp : c → Ensures p post) (hq : ¬c → Ensures q post) : Ensures (if c then p else q) post := by
  split
  · exact hp ‹_›
  · exact hq ‹_›

end Dialogue

end SysZerotier.Library
