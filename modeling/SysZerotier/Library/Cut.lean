import Mathlib

/-! Cutting an interval into consecutive spans.

Pieces of one cut do not overlap and together cover the interval, so counting
decides completeness: a set of pieces that holds as much as the whole is the
whole (`eq_of_sum`). -/
namespace SysZerotier.Library

structure Span where
  off : Nat
  len : Nat
  deriving DecidableEq

/-- The spans of the given lengths, one behind the other from `start`. -/
def spans : Nat → List Nat → List Span
  | _, [] => []
  | start, n :: rest => ⟨start, n⟩ :: spans (start + n) rest

namespace Cut
variable {start : Nat} {lens : List Nat} {a b : Span}

theorem bounds (h : a ∈ spans start lens) : start ≤ a.off ∧ a.off + a.len ≤ start + lens.sum := by
  induction lens generalizing start with
  | nil => cases h
  | cons n lens ih =>
    rw [List.sum_cons]
    rcases List.mem_cons.mp h with rfl | h
    · dsimp only
      omega
    · obtain ⟨h1, h2⟩ := ih h
      omega

theorem len_mem (h : a ∈ spans start lens) : a.len ∈ lens := by
  induction lens generalizing start with
  | nil => cases h
  | cons n lens ih =>
    rcases List.mem_cons.mp h with rfl | h
    · exact List.mem_cons_self ..
    · exact List.mem_cons_of_mem n (ih h)

/-- Two pieces of a cut do not overlap. -/
theorem apart (ha : a ∈ spans start lens) (hb : b ∈ spans start lens) (hne : a ≠ b) :
    a.off + a.len ≤ b.off ∨ b.off + b.len ≤ a.off := by
  induction lens generalizing start with
  | nil => cases ha
  | cons n lens ih =>
    rcases List.mem_cons.mp ha with rfl | ha <;> rcases List.mem_cons.mp hb with rfl | hb
    · exact absurd rfl hne
    · exact .inl (bounds hb).1
    · exact .inr (bounds ha).1
    · exact ih ha hb

/-- A piece that is not empty is determined by where it starts. -/
theorem eq_of_off (ha : a ∈ spans start lens) (hb : b ∈ spans start lens) (hoff : a.off = b.off)
    (hpos : ∀ n ∈ lens, 0 < n) : a = b := by
  by_contra hne
  have hla := hpos _ (len_mem ha)
  have hlb := hpos _ (len_mem hb)
  have := apart ha hb hne
  omega

/-- Every point of the interval is in a piece. -/
theorem cover {i : Nat} (h : start ≤ i) (h' : i < start + lens.sum) :
    ∃ a ∈ spans start lens, a.off ≤ i ∧ i < a.off + a.len := by
  induction lens generalizing start with
  | nil =>
    rw [List.sum_nil] at h'
    omega
  | cons n lens ih =>
    by_cases hi : i < start + n
    · exact ⟨⟨start, n⟩, List.mem_cons_self .., h, hi⟩
    · rw [List.sum_cons] at h'
      obtain ⟨a, ha, hin⟩ := @ih (start + n) (by omega) (by omega)
      exact ⟨a, List.mem_cons_of_mem _ ha, hin⟩

theorem nodup (hpos : ∀ n ∈ lens, 0 < n) : (spans start lens).Nodup := by
  induction lens generalizing start with
  | nil => exact List.nodup_nil
  | cons n lens ih =>
    refine List.nodup_cons.mpr ⟨fun hm => ?_, ih fun m hm => hpos m (List.mem_cons_of_mem n hm)⟩
    have := (bounds hm).1
    have := hpos n (List.mem_cons_self ..)
    dsimp only at *
    omega

theorem map_len : (spans start lens).map Span.len = lens := by
  induction lens generalizing start with
  | nil => rfl
  | cons n lens ih => rw [spans, List.map_cons, ih]

theorem sum_len (hpos : ∀ n ∈ lens, 0 < n) :
    ∑ a ∈ (spans start lens).toFinset, a.len = lens.sum := by
  rw [List.sum_toFinset _ (nodup hpos), map_len]

/-- **Pieces that hold as much as the interval are all of its pieces.** -/
theorem eq_of_sum {got : Finset Span} (hsub : got ⊆ (spans start lens).toFinset)
    (hpos : ∀ n ∈ lens, 0 < n) (hsum : lens.sum ≤ ∑ a ∈ got, a.len) :
    got = (spans start lens).toFinset := by
  by_contra hne
  obtain ⟨b, hb, hnot⟩ := Finset.exists_of_ssubset (hsub.ssubset_of_ne hne)
  have hbpos := hpos _ (len_mem (List.mem_toFinset.mp hb))
  have hlt : ∑ a ∈ got, a.len < ∑ a ∈ (spans start lens).toFinset, a.len :=
    Finset.sum_lt_sum_of_subset hsub hb hnot hbpos fun _ _ _ => Nat.zero_le _
  rw [sum_len hpos] at hlt
  omega

end Cut

end SysZerotier.Library
