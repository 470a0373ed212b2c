import Mathlib

/-! Resources that are kept in slots or in hand.

A resource becomes live when it is taken, is in hand while somebody works with it,
moves into a slot, leaves its slot again, and is released. `Accounted` says that no
live resource is lost, `Exclusive` that none is kept in two places. A wipe ends
every resource and leaves slots and hand as they are. It keeps both, but then what
is kept need not be live (`Backed`), and taking a resource anew may break
`Exclusive` (`Step.exclusive`). -/
namespace SysZerotier.Library

structure Ledger (ι ρ : Type*) where
  slot : ι → Option ρ
  hand : List ρ
  live : Set ρ

namespace Ledger
variable {ι ρ : Type*}

/-- Every live resource is kept somewhere. -/
def Accounted (L : Ledger ι ρ) : Prop := ∀ r ∈ L.live, (∃ i, L.slot i = some r) ∨ r ∈ L.hand

/-- No resource is kept twice. -/
structure Exclusive (L : Ledger ι ρ) : Prop where
  slots : ∀ i j r, L.slot i = some r → L.slot j = some r → i = j
  apart : ∀ i r, L.slot i = some r → r ∉ L.hand
  hand : L.hand.Nodup

/-- What is kept is live. -/
structure Backed (L : Ledger ι ρ) : Prop where
  slot : ∀ i r, L.slot i = some r → r ∈ L.live
  hand : ∀ r ∈ L.hand, r ∈ L.live

/-- A new resource, in hand. -/
def take (L : Ledger ι ρ) (r : ρ) : Ledger ι ρ := { L with hand := r :: L.hand, live := insert r L.live }

/-- The resource moves from the hand into a slot. -/
def put [DecidableEq ι] [DecidableEq ρ] (L : Ledger ι ρ) (i : ι) (r : ρ) : Ledger ι ρ :=
  { L with slot := Function.update L.slot i (some r), hand := L.hand.erase r }

/-- Slots are cleared, and what the slots of `order` among them held is in hand. -/
def clear (L : Ledger ι ρ) (p : ι → Bool) (order : List ι) : Ledger ι ρ :=
  { L with
    slot := fun i => if p i then none else L.slot i
    hand := (order.filter p).filterMap L.slot ++ L.hand }

/-- The resource in hand ends. -/
def release [DecidableEq ρ] (L : Ledger ι ρ) (r : ρ) : Ledger ι ρ :=
  { L with hand := L.hand.erase r, live := L.live \ {r} }

/-- All resources end. -/
def wipe (L : Ledger ι ρ) : Ledger ι ρ := { L with live := ∅ }

/-- The order of what is in hand does not matter. -/
structure Same (L L' : Ledger ι ρ) : Prop where
  slot : L'.slot = L.slot
  hand : L.hand.Perm L'.hand
  live : L'.live = L.live

/-- One step of somebody who keeps to the rules, and who takes a resource only if
`mayTake`. -/
inductive Step [DecidableEq ι] [DecidableEq ρ] (mayTake : Prop) (L L' : Ledger ι ρ) : Prop where
  | keep (h : Same L L')
  | take (may : mayTake) (r : ρ) (fresh : r ∉ L.live) (h : Same (L.take r) L')
  | put (i : ι) (r : ρ) (vacant : L.slot i = none) (held : r ∈ L.hand) (h : Same (L.put i r) L')
  | clear (p : ι → Bool) (order : List ι) (nodup : order.Nodup)
      (covers : ∀ i, p i = true → L.slot i ≠ none → i ∈ order) (h : Same (L.clear p order) L')
  | release (r : ρ) (held : r ∈ L.hand) (h : Same (L.release r) L')

variable {L : Ledger ι ρ} {r : ρ} {i : ι}

/-! ### No resource is lost -/

theorem Accounted.same (h : L.Accounted) {L' : Ledger ι ρ} (hs : Same L L') : L'.Accounted := by
  intro r hr
  rw [hs.live] at hr
  rw [hs.slot]
  exact (h r hr).imp_right hs.hand.mem_iff.mp

theorem Accounted.take (h : L.Accounted) : (L.take r).Accounted := by
  rintro x (rfl | hx)
  · exact .inr List.mem_cons_self
  · exact (h x hx).imp_right (List.mem_cons_of_mem r)

theorem Accounted.put [DecidableEq ι] [DecidableEq ρ] (h : L.Accounted) (hi : L.slot i = none) :
    (L.put i r).Accounted := by
  intro x hx
  rcases h x hx with ⟨j, hj⟩ | hhand
  · refine .inl ⟨j, ?_⟩
    have hji : j ≠ i := by
      rintro rfl
      rw [hi] at hj
      cases hj
    show Function.update L.slot i (some r) j = some x
    rw [Function.update_of_ne hji, hj]
  · by_cases hxr : x = r
    · subst hxr
      exact .inl ⟨i, Function.update_self ..⟩
    · exact .inr ((List.mem_erase_of_ne hxr).mpr hhand)

theorem Accounted.clear (h : L.Accounted) {p : ι → Bool} {order : List ι}
    (horder : ∀ i, p i = true → L.slot i ≠ none → i ∈ order) : (L.clear p order).Accounted := by
  intro x hx
  rcases h x hx with ⟨j, hj⟩ | hhand
  · by_cases hp : p j = true
    · right
      apply List.mem_append_left
      have hne : L.slot j ≠ none := by
        rw [hj]
        exact Option.some_ne_none x
      exact List.mem_filterMap.mpr ⟨j, List.mem_filter.mpr ⟨horder j hp hne, hp⟩, hj⟩
    · exact .inl ⟨j, (if_neg hp).trans hj⟩
  · exact .inr (List.mem_append_right _ hhand)

theorem Accounted.release [DecidableEq ρ] (h : L.Accounted) : (L.release r).Accounted := by
  rintro x ⟨hx, hne⟩
  exact (h x hx).imp_right (List.mem_erase_of_ne hne).mpr

theorem Accounted.wipe : L.wipe.Accounted := by
  rintro x ⟨⟩

/-! ### No resource is kept twice -/

theorem Exclusive.same (h : L.Exclusive) {L' : Ledger ι ρ} (hs : Same L L') : L'.Exclusive where
  slots i j r hi hj := h.slots i j r (hs.slot ▸ hi) (hs.slot ▸ hj)
  apart i r hi hr := h.apart i r (hs.slot ▸ hi) (hs.hand.mem_iff.mpr hr)
  hand := hs.hand.nodup_iff.mp h.hand

theorem Exclusive.take (h : L.Exclusive) (hr : r ∉ L.live) (hb : L.Backed) : (L.take r).Exclusive where
  slots := h.slots
  apart i x hi := by
    rintro (_ | ⟨_, hx⟩)
    · exact hr (hb.slot i _ hi)
    · exact h.apart i x hi hx
  hand := List.nodup_cons.mpr ⟨fun hmem => hr (hb.hand r hmem), h.hand⟩

theorem Exclusive.put [DecidableEq ι] [DecidableEq ρ] (h : L.Exclusive) (hr : r ∈ L.hand) :
    (L.put i r).Exclusive := by
  have hslot : ∀ j x, (L.put i r).slot j = some x → (j = i ∧ x = r) ∨ (j ≠ i ∧ L.slot j = some x) := by
    intro j x hj
    by_cases hji : j = i
    · subst hji
      have heq : Function.update L.slot j (some r) j = some x := hj
      rw [Function.update_self] at heq
      exact .inl ⟨rfl, (Option.some.inj heq).symm⟩
    · have heq : Function.update L.slot i (some r) j = some x := hj
      rw [Function.update_of_ne hji] at heq
      exact .inr ⟨hji, heq⟩
  refine ⟨fun j k x hj hk => ?_, fun j x hj => ?_, h.hand.erase r⟩
  · rcases hslot j x hj with ⟨hji, hx⟩ | ⟨-, hj'⟩ <;> rcases hslot k x hk with ⟨hki, hy⟩ | ⟨-, hk'⟩
    · rw [hji, hki]
    · exact absurd (hx ▸ hr) (h.apart k x hk')
    · exact absurd (hy ▸ hr) (h.apart j x hj')
    · exact h.slots j k x hj' hk'
  · rcases hslot j x hj with ⟨-, rfl⟩ | ⟨-, hj⟩
    · exact h.hand.not_mem_erase
    · exact fun hx => h.apart j x hj (List.mem_of_mem_erase hx)

theorem Exclusive.clear (h : L.Exclusive) {p : ι → Bool} {order : List ι} (horder : order.Nodup) :
    (L.clear p order).Exclusive := by
  have hslot : ∀ j x, (L.clear p order).slot j = some x → p j = false ∧ L.slot j = some x := by
    intro j x hj
    by_cases hp : p j = true
    · have : (none : Option ρ) = some x := (if_pos hp).symm.trans hj
      cases this
    · exact ⟨Bool.eq_false_iff.mpr hp, (if_neg hp).symm.trans hj⟩
  have hout : ∀ x ∈ (order.filter p).filterMap L.slot, ∃ j, p j = true ∧ L.slot j = some x := by
    intro x hx
    obtain ⟨j, hj, hjx⟩ := List.mem_filterMap.mp hx
    exact ⟨j, (List.mem_filter.mp hj).2, hjx⟩
  refine ⟨fun j k x hj hk => ?_, fun j x hj hmem => ?_, ?_⟩
  · exact h.slots j k x (hslot j x hj).2 (hslot k x hk).2
  · obtain ⟨hpj, hj⟩ := hslot j x hj
    rcases List.mem_append.mp hmem with hx | hx
    · obtain ⟨k, hpk, hk⟩ := hout x hx
      rw [h.slots j k x hj hk, hpk] at hpj
      cases hpj
    · exact h.apart j x hj hx
  · refine List.nodup_append.mpr ⟨?_, h.hand, ?_⟩
    · exact List.Nodup.filterMap (fun j k x hj hk => h.slots j k x hj hk) (horder.filter p)
    · rintro x hx y hy rfl
      obtain ⟨k, -, hk⟩ := hout x hx
      exact h.apart k x hk hy

theorem Exclusive.release [DecidableEq ρ] (h : L.Exclusive) : (L.release r).Exclusive where
  slots := h.slots
  apart i x hi hx := h.apart i x hi (List.mem_of_mem_erase hx)
  hand := h.hand.erase r

theorem Exclusive.wipe (h : L.Exclusive) : L.wipe.Exclusive := ⟨h.slots, h.apart, h.hand⟩

/-! ### Steps -/

variable [DecidableEq ι] [DecidableEq ρ] {mayTake : Prop} {L' : Ledger ι ρ}

theorem Step.mono {mayTake' : Prop} (h : Step mayTake L L') (hmay : mayTake → mayTake') :
    Step mayTake' L L' := by
  cases h with
  | keep h => exact .keep h
  | take may r fresh h => exact .take (hmay may) r fresh h
  | put i r vacant held h => exact .put i r vacant held h
  | clear p order nodup covers h => exact .clear p order nodup covers h
  | release r held h => exact .release r held h

theorem Step.accounted (h : Step mayTake L L') (hL : L.Accounted) : L'.Accounted := by
  cases h with
  | keep h => exact hL.same h
  | take may r fresh h => exact hL.take.same h
  | put i r vacant held h => exact (hL.put vacant).same h
  | clear p order nodup covers h => exact (hL.clear covers).same h
  | release r held h => exact hL.release.same h

/-- **A step keeps resources apart, if what is kept is live whenever it takes one.** -/
theorem Step.exclusive (h : Step mayTake L L') (hL : L.Exclusive) (hb : mayTake → L.Backed) :
    L'.Exclusive := by
  cases h with
  | keep h => exact hL.same h
  | take may r fresh h => exact (hL.take fresh (hb may)).same h
  | put i r vacant held h => exact (hL.put held).same h
  | clear p order nodup covers h => exact (hL.clear nodup).same h
  | release r held h => exact hL.release.same h

/-- **And what is kept stays live, unless it is wiped.** -/
theorem Step.backed (h : Step mayTake L L') (hL : L.Exclusive) (hb : L.Backed) : L'.Backed := by
  have hsame : ∀ {K : Ledger ι ρ}, Same K L' → K.Backed → L'.Backed := fun hs hK =>
    ⟨fun i r hi => hs.live ▸ hK.slot i r (hs.slot ▸ hi), fun r hr => hs.live ▸ hK.hand r (hs.hand.mem_iff.mpr hr)⟩
  cases h with
  | keep h => exact hsame h hb
  | take may r fresh h =>
    refine hsame h ⟨fun i x hi => .inr (hb.slot i x hi), fun x hx => ?_⟩
    rcases List.mem_cons.mp hx with rfl | hx
    · exact .inl rfl
    · exact .inr (hb.hand x hx)
  | put i r vacant held h =>
    refine hsame h ⟨fun j x hj => ?_, fun x hx => hb.hand x (List.mem_of_mem_erase hx)⟩
    have heq : Function.update L.slot i (some r) j = some x := hj
    by_cases hji : j = i
    · rw [hji, Function.update_self] at heq
      exact Option.some.inj heq ▸ hb.hand r held
    · rw [Function.update_of_ne hji] at heq
      exact hb.slot j x heq
  | clear p order nodup covers h =>
    refine hsame h ⟨fun j x hj => ?_, fun x hx => ?_⟩
    · have heq : (if p j then none else L.slot j) = some x := hj
      split at heq
      · cases heq
      · exact hb.slot j x heq
    · rcases List.mem_append.mp hx with hx | hx
      · obtain ⟨j, -, hj⟩ := List.mem_filterMap.mp hx
        exact hb.slot j x hj
      · exact hb.hand x hx
  | release r held h =>
    refine hsame h ⟨fun i x hi => ⟨hb.slot i x hi, ?_⟩, fun x hx => ⟨hb.hand x (List.mem_of_mem_erase hx), ?_⟩⟩
    · rintro rfl
      exact hL.apart i x hi held
    · rintro rfl
      exact hL.hand.not_mem_erase hx

end Ledger

end SysZerotier.Library
