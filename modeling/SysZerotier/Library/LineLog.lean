import Mathlib

/-! The newest lines of a log, in a fixed number of slots.

Line `i` goes to slot `i % n`, cut to what a slot holds. Writing the log out walks the
lines that are still there, oldest first, into a buffer, and stops before one that
might not fit. A buffer that has room for `n` full slots and a little more never stops
it, so what is written is the newest `n` lines (`written_newest`).

Lines are counted with a signed number of 32 bits, so all this is as long as there are
fewer than `2 ^ 31` of them: the next slot has a negative number. -/
namespace SysZerotier.Library

/-- `slots` lines of at most `width` characters. -/
structure LineLog (α : Type) where
  slot : Int → List α
  count : BitVec 32

namespace LineLog
variable {α : Type}

def empty : LineLog α := ⟨fun _ => [], 0⟩

def record (slots width : Nat) (r : LineLog α) (line : List α) : LineLog α :=
  ⟨Function.update r.slot (r.count.toInt.tmod slots) (line.take width), r.count + 1⟩

/-- The walk over the line numbers left, and the text so far. -/
def gather (slots width size : Nat) (stop : α) (r : LineLog α) : List Int → List α → List α
  | [], text => text
  | i :: rest, text =>
    if text.length + width + 3 < size then
      gather slots width size stop r rest (text ++ r.slot (i.tmod slots) ++ [stop])
    else text

/-- What is written out. A slot has a place for the terminator, so `width + 1` bytes. -/
def written (slots width size : Nat) (stop : α) (r : LineLog α) : List α :=
  let first : Int := if slots < r.count.toInt then r.count.toInt - slots else 0
  r.gather slots width size stop ((List.range (r.count.toInt - first).toNat).map fun k : Nat => first + k) []

/-- The newest `slots` lines, each cut and ended. -/
def newest (slots width : Nat) (stop : α) (lines : List (List α)) : List α :=
  (lines.drop (lines.length - slots)).flatMap fun line => line.take width ++ [stop]

/-- The slots hold the newest of these lines. -/
structure Holds (slots width : Nat) (r : LineLog α) (lines : List (List α)) : Prop where
  few : lines.length < 2 ^ 31
  count : r.count = BitVec.ofNat 32 lines.length
  slot : ∀ i line, lines[i]? = some line → lines.length ≤ i + slots →
    r.slot ((i % slots : Nat) : Int) = line.take width

theorem empty_holds (slots width : Nat) : Holds slots width (empty (α := α)) [] :=
  ⟨Nat.two_pow_pos 31, rfl, fun _ _ h => by cases h⟩

/-- Until the count overflows it is the number of lines. -/
theorem Holds.count_toInt {slots width : Nat} {r : LineLog α} {lines : List (List α)}
    (h : Holds slots width r lines) : r.count.toInt = lines.length := by
  have hfew := h.few
  have hmod : lines.length % 2 ^ 32 = lines.length := Nat.mod_eq_of_lt (by omega)
  rw [h.count, BitVec.toInt_eq_toNat_of_lt (by rw [BitVec.toNat_ofNat, hmod]; omega), BitVec.toNat_ofNat, hmod]

/-- Lines less than `slots` apart have different slots. -/
theorem mod_ne {slots i j : Nat} (hij : i < j) (hj : j < i + slots) : i % slots ≠ j % slots := by
  intro h
  obtain ⟨k, hk⟩ := (Nat.modEq_iff_dvd' hij.le).mp h
  rcases Nat.eq_zero_or_pos k with rfl | hpos
  · omega
  · have hle : slots ≤ slots * k := Nat.le_mul_of_pos_right slots hpos
    omega

theorem Holds.record {slots width : Nat} {r : LineLog α} {lines : List (List α)} (h : Holds slots width r lines)
    (line : List α) (hfew : lines.length + 1 < 2 ^ 31) :
    Holds slots width (r.record slots width line) (lines ++ [line]) where
  few := by simpa using hfew
  count := by
    rw [List.length_append, List.length_singleton, BitVec.ofNat_add]
    exact congrArg (· + 1) h.count
  slot i old hi hnew := by
    rw [List.length_append, List.length_singleton] at hnew
    by_cases hlast : i = lines.length
    · rw [hlast, List.getElem?_append_right le_rfl, Nat.sub_self] at hi
      obtain rfl := Option.some.inj hi
      show Function.update r.slot (r.count.toInt.tmod slots) (line.take width) _ = _
      rw [h.count_toInt, ← Int.ofNat_tmod, hlast, Function.update_self]
    · have hlt : i < lines.length := by
        have := (List.getElem?_eq_some_iff.mp hi).1
        rw [List.length_append, List.length_singleton] at this
        omega
      rw [List.getElem?_append_left hlt] at hi
      have hne : i % slots ≠ lines.length % slots := mod_ne hlt (by omega)
      show Function.update r.slot (r.count.toInt.tmod slots) (line.take width) _ = old.take width
      rw [h.count_toInt, ← Int.ofNat_tmod, Function.update_of_ne (by exact_mod_cast hne)]
      exact h.slot i old hi (by omega)

/-- The walk from any line on writes all lines from there. -/
theorem gather_all {slots width size : Nat} (hsize : slots * (width + 1) + 2 < size) (stop : α) {r : LineLog α}
    {lines : List (List α)} (h : Holds slots width r lines) (left : Nat) {i : Nat} {t : List α}
    (hi : i + left = lines.length) (hleft : left ≤ slots) (htext : t.length ≤ (slots - left) * (width + 1)) :
    r.gather slots width size stop ((List.range' i left).map fun j : Nat => (j : Int)) t =
      t ++ (lines.drop i).flatMap fun line => line.take width ++ [stop] := by
  induction left generalizing i t with
  | zero =>
    rw [List.range'_zero, List.map_nil, gather, List.drop_of_length_le (by omega)]
    simp
  | succ left ih =>
    have hlt : i < lines.length := by omega
    have hline : lines[i]? = some lines[i] := List.getElem?_eq_getElem hlt
    have hslot := h.slot i lines[i] hline (by omega)
    have hroom : (slots - (left + 1)) * (width + 1) + (width + 1) ≤ slots * (width + 1) := by
      calc (slots - (left + 1)) * (width + 1) + (width + 1) = (slots - (left + 1) + 1) * (width + 1) := by ring
        _ ≤ slots * (width + 1) := Nat.mul_le_mul_right _ (by omega)
    have hnext : (slots - (left + 1)) * (width + 1) + (width + 1) = (slots - left) * (width + 1) := by
      rw [← Nat.succ_mul, show (slots - (left + 1)).succ = slots - left by omega]
    have hcut : (lines[i].take width).length ≤ width := List.length_take_le _ _
    rw [List.range'_succ, List.map_cons, gather, if_pos (by omega), ← Int.ofNat_tmod, hslot, ih (by omega) (by omega)
      (by simp only [List.length_append, List.length_singleton]; omega), List.drop_eq_getElem_cons hlt,
      List.flatMap_cons, List.append_assoc, List.append_assoc, List.append_assoc]

theorem written_newest {slots width size : Nat} (hsize : slots * (width + 1) + 2 < size) (stop : α) {r : LineLog α}
    {lines : List (List α)} (h : Holds slots width r lines) :
    r.written slots width size stop = newest slots width stop lines := by
  have hwalk := gather_all hsize stop h (lines.length - (lines.length - slots)) (i := lines.length - slots)
    (t := []) (by omega) (by omega) (Nat.zero_le _)
  have hfirst : (if (slots : Int) < r.count.toInt then r.count.toInt - slots else 0) =
      ((lines.length - slots : Nat) : Int) := by
    rw [h.count_toInt]
    split <;> omega
  have hleft : (r.count.toInt - ((lines.length - slots : Nat) : Int)).toNat =
      lines.length - (lines.length - slots) := by
    rw [h.count_toInt]
    omega
  rw [List.range'_eq_map_range, List.map_map] at hwalk
  rw [written, hfirst, hleft, newest, ← List.nil_append (List.flatMap _ _), ← hwalk]
  refine congrArg (fun walk => r.gather slots width size stop walk []) (List.map_congr_left fun k _ => ?_)
  exact (Nat.cast_add _ _).symm

/-- What is written fits `slots` full slots. -/
theorem newest_length (slots width : Nat) (stop : α) (lines : List (List α)) :
    (newest slots width stop lines).length ≤ slots * (width + 1) := by
  have hlines : (lines.drop (lines.length - slots)).length ≤ slots := by simp; omega
  have heach : ∀ k ∈ (lines.drop (lines.length - slots)).map fun line => (line.take width ++ [stop]).length,
      k ≤ width + 1 := by
    intro k hk
    obtain ⟨line, -, rfl⟩ := List.mem_map.mp hk
    simp
  have hsum := List.sum_le_card_nsmul _ _ heach
  rw [List.length_map, smul_eq_mul] at hsum
  rw [newest, List.length_flatMap]
  exact hsum.trans (Nat.mul_le_mul_right _ hlines)

end LineLog

end SysZerotier.Library
