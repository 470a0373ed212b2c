import Mathlib

/-! Runs of a system that may refuse an event.

`run` takes the events of a list in turn; `meets` says that every step of the run
satisfies a condition on the state before it and the event. An invariant that
steps meeting the condition preserve (`Keeps`) holds in whatever state such a run
ends in (`Keeps.run`), which is proved here once, as is the rule for what relates a
state to the events that led to it (`run_induction`). -/
namespace SysZerotier.Library

/-- A system by its step function; `none` refuses the event. -/
structure System (σ ε : Type) where
  step : σ → ε → Option σ

namespace System
variable {σ ε : Type} (S : System σ ε)

def run (s : σ) : List ε → Option σ
  | [] => some s
  | e :: es => (S.step s e).bind fun t => run t es

/-- Every step of the run satisfies `cond`. -/
def meets (cond : σ → ε → Bool) (s : σ) : List ε → Bool
  | [] => true
  | e :: es => cond s e && (S.step s e).all fun t => meets cond t es

/-- Steps that satisfy `cond` preserve `Inv`. -/
def Keeps (cond : σ → ε → Bool) (Inv : σ → Prop) : Prop :=
  ∀ s e t, Inv s → cond s e = true → S.step s e = some t → Inv t

variable {S}

theorem Keeps.run {cond : σ → ε → Bool} {Inv : σ → Prop} (h : S.Keeps cond Inv) (es : List ε) {s t : σ}
    (hs : Inv s) (hm : S.meets cond s es = true) (hr : S.run s es = some t) : Inv t := by
  induction es generalizing s with
  | nil =>
    cases hr
    exact hs
  | cons e es ih =>
    rw [meets, Bool.and_eq_true] at hm
    obtain ⟨u, hu, hrest⟩ := Option.bind_eq_some_iff.mp hr
    have hmeets := hm.2
    rw [hu, Option.all_some] at hmeets
    exact ih (h s e u hs hm.1 hu) hmeets hrest

theorem run_append (es fs : List ε) (s : σ) : S.run s (es ++ fs) = (S.run s es).bind fun t => S.run t fs := by
  induction es generalizing s with
  | nil => rfl
  | cons e es ih =>
    rw [List.cons_append, run, run, Option.bind_assoc]
    exact congrArg _ (funext ih)

theorem run_snoc {es : List ε} {e : ε} {s t u : σ} (hr : S.run s es = some t) (hstep : S.step t e = some u) :
    S.run s (es ++ [e]) = some u := by
  rw [run_append, hr, Option.bind_some, run, hstep]
  rfl

/-- Induction on the last step of a run. -/
theorem run_induction {P : List ε → σ → Prop} {s : σ} (hnil : P [] s)
    (hstep : ∀ es e t u, S.run s es = some t → P es t → S.step t e = some u → P (es ++ [e]) u) (es : List ε)
    {t : σ} (hr : S.run s es = some t) : P es t := by
  induction es using List.reverseRecOn generalizing t with
  | nil =>
    cases hr
    exact hnil
  | append_singleton es e ih =>
    rw [run_append] at hr
    obtain ⟨u, hu, hlast⟩ := Option.bind_eq_some_iff.mp hr
    obtain ⟨v, hv, hend⟩ := Option.bind_eq_some_iff.mp hlast
    cases hend
    exact hstep es e u t hu (ih hu) hv

/-- A run that leaves a set of states does so in one step. -/
theorem run_leaves {P : σ → Prop} (es : List ε) {s t : σ} (hr : S.run s es = some t) (hs : P s) (ht : ¬P t) :
    ∃ es₁ e es₂ u v, es = es₁ ++ e :: es₂ ∧ S.run s es₁ = some u ∧ S.step u e = some v ∧ P u ∧ ¬P v := by
  induction es generalizing s with
  | nil =>
    cases hr
    exact absurd hs ht
  | cons e es ih =>
    obtain ⟨u, hu, hrest⟩ := Option.bind_eq_some_iff.mp hr
    by_cases hp : P u
    · obtain ⟨es₁, e', es₂, u', v, heq, hrun, hstep, hpu, hpv⟩ := ih hrest hp
      refine ⟨e :: es₁, e', es₂, u', v, by rw [heq, List.cons_append], ?_, hstep, hpu, hpv⟩
      rw [System.run, hu, Option.bind_some, hrun]
    · exact ⟨[], e, es, s, u, rfl, rfl, hu, hs, hp⟩

theorem meets_true (s : σ) (es : List ε) : S.meets (fun _ _ => true) s es = true := by
  induction es generalizing s with
  | nil => rfl
  | cons e es ih =>
    rw [System.meets, Bool.true_and, Option.all_eq_true]
    exact fun t _ => ih t

theorem meets_append {cond : σ → ε → Bool} (es fs : List ε) {s t : σ} (hr : S.run s es = some t) :
    S.meets cond s (es ++ fs) = (S.meets cond s es && S.meets cond t fs) := by
  induction es generalizing s with
  | nil =>
    cases hr
    simp [System.meets]
  | cons e es ih =>
    obtain ⟨u, hu, hrest⟩ := Option.bind_eq_some_iff.mp hr
    simp [System.meets, hu, ih hrest, Bool.and_assoc]

/-- A condition on the events alone may be added to one that the run meets. -/
theorem meets_and {cond : σ → ε → Bool} {p : ε → Bool} (es : List ε) {s : σ} (hp : ∀ e ∈ es, p e = true)
    (hm : S.meets cond s es = true) : S.meets (fun s e => p e && cond s e) s es = true := by
  induction es generalizing s with
  | nil => rfl
  | cons e es ih =>
    rw [System.meets, Bool.and_eq_true] at hm ⊢
    refine ⟨Bool.and_eq_true_iff.mpr ⟨hp e List.mem_cons_self, hm.1⟩, ?_⟩
    rw [Option.all_eq_true] at hm ⊢
    exact fun t ht => ih (fun e' he' => hp e' (List.mem_cons_of_mem e he')) (hm.2 t ht)

theorem meets_all {p : ε → Bool} (s : σ) (es : List ε) (hp : ∀ e ∈ es, p e = true) :
    S.meets (fun _ e => p e) s es = true := by
  have h := meets_and es hp (meets_true (S := S) s es)
  simpa only [Bool.and_true] using h

/-- What an invariant and a condition imply of a step, a run meets. -/
theorem Keeps.meets {cond cond' : σ → ε → Bool} {Inv : σ → Prop} (h : S.Keeps cond Inv)
    (himp : ∀ s e, Inv s → cond s e = true → cond' s e = true) (es : List ε) {s : σ} (hs : Inv s)
    (hm : S.meets cond s es = true) : S.meets cond' s es = true := by
  induction es generalizing s with
  | nil => rfl
  | cons e es ih =>
    rw [System.meets, Bool.and_eq_true] at hm ⊢
    refine ⟨himp s e hs hm.1, ?_⟩
    cases hstep : S.step s e with
    | none => rfl
    | some t =>
      have hrest := hm.2
      rw [hstep, Option.all_some] at hrest
      exact ih (h s e t hs hm.1 hstep) hrest

end System

end SysZerotier.Library
