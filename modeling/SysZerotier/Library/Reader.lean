import Mathlib.Data.List.Forall2
import Mathlib.Data.List.Infix

/-! Readers of a binary format.

A reader takes what it needs off the front of the data and keeps count of where it
stands. A format is the relation between its words and their values, and `Reads` says of
a reader that it is the format's: what it takes is a word, each word is taken whole
whatever follows it, and of a word that is cut short it says that data is missing. It is
kept by sequence, by a check and by repetition, so a reader put together from these
reads the format put together from the parts. -/
namespace SysZerotier.Library

/-- Where a reader stands, and what is left. -/
structure Tape (β : Type) where
  offset : Nat
  left : List β

abbrev Reading (ε β : Type) := StateT (Tape β) (Except ε)

namespace Reading
variable {ε α β γ : Type}

/-- The next `size` elements; `short` names the error when fewer are left. -/
def take (short : Nat → Nat → Nat → ε) (size : Nat) : Reading ε β (List β) := fun t =>
  if t.left.length < size then .error (short t.offset size t.left.length)
  else .ok (t.left.take size, ⟨t.offset + size, t.left.drop size⟩)

/-- A value `n` times. -/
def times (read : Reading ε β α) : Nat → Reading ε β (List α)
  | 0 => pure []
  | n + 1 => do
    let a ← read
    let as ← times read n
    return a :: as

end Reading

/-- **A reader of the words that `words` relates to their values.** `starved total e`: the
error `e` says that the data, `total` elements of it, ends too early. -/
structure Reads {ε α β : Type} (starved : Nat → ε → Prop) (read : Reading ε β α) (words : List β → α → Prop) :
    Prop where
  sound : ∀ {t t' : Tape β} {a : α}, read t = .ok (a, t') →
    ∃ w, words w a ∧ t.left = w ++ t'.left ∧ t'.offset = t.offset + w.length
  complete : ∀ {w : List β} {a : α}, words w a → ∀ offset rest,
    read ⟨offset, w ++ rest⟩ = .ok (a, ⟨offset + w.length, rest⟩)
  starves : ∀ {p q : List β} {a : α}, words (p ++ q) a → q ≠ [] → ∀ offset,
    ∃ e, read ⟨offset, p⟩ = .error e ∧ starved (offset + p.length) e

namespace Reads
variable {ε α β γ : Type} {starved : Nat → ε → Prop}

theorem congr {read : Reading ε β α} {words words' : List β → α → Prop} (h : Reads starved read words)
    (hw : ∀ w a, words w a ↔ words' w a) : Reads starved read words' := by
  have heq : words = words' := by
    funext w a
    exact propext (hw w a)
  exact heq ▸ h

theorem take {short : Nat → Nat → Nat → ε}
    (hshort : ∀ offset size left, left < size → starved (offset + left) (short offset size left)) (size : Nat) :
    Reads starved (Reading.take (β := β) short size) fun w a => w.length = size ∧ a = w where
  sound {t t' a} h := by
    rw [Reading.take] at h
    split at h
    · cases h
    · cases h
      exact ⟨_, ⟨List.length_take_of_le (by omega), rfl⟩, (List.take_append_drop ..).symm,
        by rw [List.length_take_of_le (by omega)]⟩
  complete {w a} h offset rest := by
    obtain ⟨rfl, rfl⟩ := h
    rw [Reading.take, if_neg (by simp)]
    simp
  starves {p q a} h hq offset := by
    have hlen : p.length < size := by
      have hpos := List.length_pos_iff.mpr hq
      have hsum := h.1
      rw [List.length_append] at hsum
      omega
    exact ⟨_, if_pos hlen, hshort offset size p.length hlen⟩

theorem pure (a : α) : Reads starved (Pure.pure a : Reading ε β α) fun w b => w = [] ∧ b = a where
  sound h := by
    cases h
    exact ⟨[], ⟨rfl, rfl⟩, rfl, rfl⟩
  complete h offset rest := by
    obtain ⟨rfl, rfl⟩ := h
    rfl
  starves h hq := absurd (List.append_eq_nil_iff.mp h.1).2 hq

/-- One word after the other. -/
theorem bind {read : Reading ε β α} {next : α → Reading ε β γ} {words : List β → α → Prop}
    {nexts : α → List β → γ → Prop} (h : Reads starved read words) (hn : ∀ a, Reads starved (next a) (nexts a)) :
    Reads starved (read >>= next) fun w c => ∃ u v a, w = u ++ v ∧ words u a ∧ nexts a v c := by
  have hstep (t : Tape β) : (read >>= next) t = (read t).bind fun p => next p.1 p.2 := rfl
  refine ⟨fun {t t' c} hr => ?_, fun {w c} hw offset rest => ?_, fun {p q c} hw hq offset => ?_⟩
  · rw [hstep] at hr
    cases hfirst : read t with
    | error e =>
      rw [hfirst] at hr
      cases hr
    | ok out =>
      obtain ⟨a, t₁⟩ := out
      rw [hfirst] at hr
      obtain ⟨u, hu, hleft, hoffset⟩ := h.sound hfirst
      obtain ⟨v, hv, hleft', hoffset'⟩ := (hn a).sound hr
      refine ⟨u ++ v, ⟨u, v, a, rfl, hu, hv⟩, ?_, ?_⟩
      · rw [hleft, hleft', List.append_assoc]
      · rw [hoffset', hoffset, List.length_append]
        omega
  · obtain ⟨u, v, a, rfl, hu, hv⟩ := hw
    rw [hstep, List.append_assoc, h.complete hu]
    refine ((hn a).complete hv _ _).trans ?_
    rw [List.length_append, Nat.add_assoc]
  · obtain ⟨u, v, a, hpq, hu, hv⟩ := hw
    -- the cut is in the first word, or the first word is whole
    rcases List.append_eq_append_iff.mp hpq with ⟨m, rfl, rfl⟩ | ⟨m, rfl, rfl⟩
    · rcases List.eq_nil_or_concat m with rfl | hm
      · rw [List.nil_append] at hq
        rw [List.append_nil] at hu
        obtain ⟨e, he, hstarved⟩ := (hn a).starves (p := []) hv hq (offset + p.length)
        refine ⟨e, ?_, by simpa using hstarved⟩
        rw [hstep, ← List.append_nil p, h.complete hu]
        exact he
      · obtain ⟨e, he, hstarved⟩ := h.starves hu (by obtain ⟨l, x, rfl⟩ := hm; simp) offset
        exact ⟨e, by rw [hstep, he]; rfl, hstarved⟩
    · obtain ⟨e, he, hstarved⟩ := (hn a).starves hv hq (offset + u.length)
      refine ⟨e, ?_, by rwa [List.length_append, ← Nat.add_assoc]⟩
      rw [hstep, h.complete hu]
      exact he

/-- A check that a value may fail. -/
theorem refuse {read : Reading ε β α} {words : List β → α → Prop} (c : Prop) [Decidable c] (e : ε)
    (h : Reads starved read words) :
    Reads starved (if c then throw e else read) fun w a => ¬c ∧ words w a where
  sound {t t' a} hr := by
    split at hr
    · cases hr
    · next hc =>
      obtain ⟨w, hw, hleft, hoffset⟩ := h.sound hr
      exact ⟨w, ⟨hc, hw⟩, hleft, hoffset⟩
  complete hw offset rest := by
    rw [if_neg hw.1]
    exact h.complete hw.2 offset rest
  starves hw hq offset := by
    rw [if_neg hw.1]
    exact h.starves hw.2 hq offset

theorem times {read : Reading ε β α} {words : List β → α → Prop} (h : Reads starved read words) (n : Nat) :
    Reads starved (read.times n) fun w as => as.length = n ∧ ∃ ws, w = ws.flatten ∧ List.Forall₂ words ws as := by
  induction n with
  | zero =>
    refine (Reads.pure []).congr fun w as => ⟨?_, ?_⟩
    · intro ⟨hw, has⟩
      exact ⟨by rw [has]; rfl, [], hw, has ▸ .nil⟩
    · intro ⟨hlen, ws, hw, hall⟩
      obtain rfl := List.eq_nil_of_length_eq_zero hlen
      cases hall
      exact ⟨hw, rfl⟩
  | succ n ih =>
    refine (h.bind fun a => ih.bind fun as => Reads.pure (a :: as)).congr fun w as => ⟨?_, ?_⟩
    · intro ⟨u, v, a, hw, ha, v₁, v₂, as', hv, ⟨hlen, ws, hws, hall⟩, hnil, has⟩
      subst hw hv hnil has hws
      exact ⟨by rw [List.length_cons, hlen], u :: ws, by simp, .cons ha hall⟩
    · intro ⟨hlen, ws, hw, hall⟩
      cases hall with
      | nil => cases hlen
      | @cons u a ws as' ha hall =>
        exact ⟨u, ws.flatten, a, by rw [hw, List.flatten_cons], ha, ws.flatten, [], as', (List.append_nil _).symm,
          ⟨Nat.succ.inj hlen, ws, rfl, hall⟩, rfl, rfl⟩

end Reads

end SysZerotier.Library
