import Mathlib.Data.List.Chain
import Mathlib.Tactic.Linarith

/-! New lows of a quantity.

A value is reported when it is at least `step` below the one reported last. However many
values there are, the reports are few (`lows_length`), and no value is ever as much as
`step` below the last report (`lows_tracks`). -/
namespace SysZerotier.Library

variable {step low : Int}

/-- The values that are reported, when `low` was the last. -/
def lows (step low : Int) : List Int → List Int
  | [] => []
  | v :: vs => if low < v + step then lows step low vs else v :: lows step v vs

/-- Each report is a step below the one before. -/
theorem lows_chain (vs : List Int) : (low :: lows step low vs).IsChain fun a b => b + step ≤ a := by
  induction vs generalizing low with
  | nil => exact .singleton low
  | cons v vs ih =>
    rw [lows]
    split
    · exact ih
    · exact .cons_cons (by omega) ih

theorem lows_last_le (low : Int) (hstep : 0 ≤ step) (vs : List Int) : (lows step low vs).getLastD low ≤ low := by
  induction vs generalizing low with
  | nil => exact le_rfl
  | cons v vs ih =>
    rw [lows]
    split
    · exact ih low
    · rw [List.getLastD_cons]
      have := ih v
      omega

/-- The last report is less than a step above anything seen. -/
theorem lows_tracks (hstep : 0 < step) {vs : List Int} {v : Int} (hv : v ∈ vs) :
    (lows step low vs).getLastD low < v + step := by
  induction vs generalizing low with
  | nil => cases hv
  | cons x vs ih =>
    rw [lows]
    rcases List.mem_cons.mp hv with rfl | hv
    · split
      · have := lows_last_le low hstep.le vs
        omega
      · rw [List.getLastD_cons]
        have := lows_last_le v hstep.le vs
        omega
    · split
      · exact ih hv
      · rw [List.getLastD_cons]
        exact ih hv

theorem lows_length_from {lo : Int} {vs : List Int} (h : ∀ v ∈ vs, lo ≤ v) (hlow : lo ≤ low) :
    (lows step low vs).length * step ≤ low - lo := by
  induction vs generalizing low with
  | nil =>
    rw [lows, List.length_nil]
    omega
  | cons v vs ih =>
    obtain ⟨hv, hvs⟩ := List.forall_mem_cons.mp h
    rw [lows]
    split
    · exact ih hvs hlow
    · have hrest := ih hvs hv
      rw [List.length_cons]
      push_cast
      linarith

/-- With the values between `lo` and `hi`, wherever `low` is. -/
theorem lows_length (low : Int) (hstep : 0 ≤ step) {lo hi : Int} (hle : lo ≤ hi) {vs : List Int}
    (h : ∀ v ∈ vs, lo ≤ v ∧ v ≤ hi) : (lows step low vs).length * step ≤ hi - lo + step := by
  induction vs generalizing low with
  | nil =>
    rw [lows, List.length_nil]
    omega
  | cons v vs ih =>
    obtain ⟨hv, hvs⟩ := List.forall_mem_cons.mp h
    rw [lows]
    split
    · exact ih low hvs
    · have hrest := @lows_length_from step v lo vs (fun w hw => (hvs w hw).1) hv.1
      rw [List.length_cons]
      push_cast
      linarith [hv.2]

end SysZerotier.Library
