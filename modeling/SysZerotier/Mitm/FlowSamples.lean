import Mathlib
import SysZerotier.Net.Bytes

/-! Which exchanges the observation log samples (`SampleFlow` in
`source/mitm/bsd_shim.cpp`).

An exchange that repeats is logged at its first, second, fourth, eighth time and so on.
The table has 24 places, none of which is ever given back, so only the first 24 flows
are told apart and the others are not logged at all (`sampled_iff`). The counter has 32
bits, and is logged once more each time it comes round to zero. -/
namespace SysZerotier.Mitm.FlowSamples
open Net

def FlowSlots : Nat := 24

/-- What tells flows apart. -/
structure FlowKey where
  kind : U8
  fd : Int
  ip : U32
  port : U16
  len : U16
  deriving DecidableEq

structure FlowCounter where
  key : FlowKey := ⟨0, 0, 0, 0, 0⟩
  count : U32 := 0
  used : Bool := false

/-- `g_flows`. -/
abbrev Flows := Nat → FlowCounter

def Flows.empty : Flows := fun _ => {}

/-- The slot loop over the slots left to visit: it ends at the flow's own slot, and
otherwise has the first free one. -/
def flowScan (flows : Flows) (key : FlowKey) : List Nat → Option Nat → Option Nat
  | [], slot => slot
  | i :: rest, slot =>
    if (flows i).used && (flows i).key == key then some i
    else flowScan flows key rest (if !(flows i).used && slot.isNone then some i else slot)

/-- `SampleFlow`: the table, what is stored through `count`, the value. -/
def sampleFlow (flows : Flows) (enabled : Bool) (key : FlowKey) : Flows × Option U32 × Bool :=
  if !enabled then (flows, none, false)
  else
    match flowScan flows key (List.range FlowSlots) none with
    | none => (flows, none, false)
    | some i =>
      let slot := if !(flows i).used then { key := key, count := 0, used := true } else flows i
      let slot := { slot with count := slot.count + 1 }
      (Function.update flows i slot, some slot.count, slot.count &&& (slot.count - 1) == 0)

/-- The table after some calls, each with whether diagnostics were enabled. -/
def after (calls : List (Bool × FlowKey)) : Flows :=
  calls.foldl (fun flows c => (sampleFlow flows c.1 c.2).1) .empty

/-- The calls that count. -/
def counted (calls : List (Bool × FlowKey)) : List FlowKey := (calls.filter Prod.fst).map Prod.snd

/-- The flows told apart: the first `FlowSlots`. -/
def tracked (keys : List FlowKey) : List FlowKey :=
  keys.foldl (fun t key => if key ∈ t ∨ FlowSlots ≤ t.length then t else t ++ [key]) []

/-! ### The scan -/

def owns (flows : Flows) (key : FlowKey) (i : Nat) : Bool := (flows i).used && (flows i).key == key

theorem flowScan_eq (flows : Flows) (key : FlowKey) (l : List Nat) (slot : Option Nat) :
    flowScan flows key l slot = (l.find? (owns flows key)).or (slot.or (l.find? fun i => !(flows i).used)) := by
  induction l generalizing slot with
  | nil => cases slot <;> rfl
  | cons i l ih =>
    rw [flowScan, ← owns]
    cases hown : owns flows key i with
    | true => simp [hown]
    | false =>
      rw [if_neg (by simp), ih, List.find?_cons_of_neg (by simp [hown])]
      cases hu : (flows i).used <;> cases slot <;> simp [hu]

/-- The table holds these flows in order, each with how often it was counted. -/
structure Tracks (flows : Flows) (keys : List FlowKey) : Prop where
  le : (tracked keys).length ≤ FlowSlots
  nodup : (tracked keys).Nodup
  slot : ∀ i key, (tracked keys)[i]? = some key → flows i = ⟨key, BitVec.ofNat 32 (keys.count key), true⟩
  free : ∀ i, (tracked keys).length ≤ i → (flows i).used = false
  whole : (tracked keys).length < FlowSlots → ∀ key ∈ keys, key ∈ tracked keys

theorem tracked_append (keys : List FlowKey) (key : FlowKey) :
    tracked (keys ++ [key]) =
      if key ∈ tracked keys ∨ FlowSlots ≤ (tracked keys).length then tracked keys else tracked keys ++ [key] := by
  rw [tracked, List.foldl_append]
  rfl

theorem empty_tracks : Tracks .empty [] :=
  ⟨Nat.zero_le _, List.nodup_nil, fun _ _ h => by simp [tracked] at h, fun _ _ => rfl, fun _ _ h => by cases h⟩

variable {flows : Flows} {keys : List FlowKey}

theorem Tracks.owns_iff (h : Tracks flows keys) {key : FlowKey} {i : Nat} :
    owns flows key i = true ↔ (tracked keys)[i]? = some key := by
  rw [owns, Bool.and_eq_true, beq_iff_eq]
  cases hi : (tracked keys)[i]? with
  | none => simp [h.free i (List.getElem?_eq_none_iff.mp hi)]
  | some other =>
    rw [h.slot i other hi]
    simp

theorem Tracks.own (h : Tracks flows keys) {i : Nat} {key : FlowKey} (hi : (tracked keys)[i]? = some key) :
    flowScan flows key (List.range FlowSlots) none = some i := by
  have hlt := (List.getElem?_eq_some_iff.mp hi).1
  have hfind : (List.range FlowSlots).find? (owns flows key) = some i := by
    rw [List.find?_range_eq_some]
    refine ⟨h.owns_iff.mpr hi, List.mem_range.mpr (lt_of_lt_of_le hlt h.le), fun j hj => ?_⟩
    rw [Bool.not_eq_true', ← Bool.not_eq_true, h.owns_iff]
    intro hj'
    have hsame := h.nodup.getElem_inj_iff.mp
      ((List.getElem?_eq_some_iff.mp hj').2.trans (List.getElem?_eq_some_iff.mp hi).2.symm)
    omega
  rw [flowScan_eq, hfind, Option.some_or]

theorem Tracks.fresh (h : Tracks flows keys) {key : FlowKey} (hnew : key ∉ tracked keys) :
    flowScan flows key (List.range FlowSlots) none =
      if (tracked keys).length < FlowSlots then some (tracked keys).length else none := by
  have hnone : (List.range FlowSlots).find? (owns flows key) = none := by
    rw [List.find?_eq_none]
    intro i _
    rw [h.owns_iff]
    exact fun hi => hnew (List.mem_of_getElem? hi)
  have hused : ∀ j, j < (tracked keys).length → (flows j).used = true := fun j hj => by
    rw [h.slot j _ (List.getElem?_eq_getElem hj)]
  rw [flowScan_eq, hnone, Option.none_or, Option.none_or]
  split
  · rename_i hroom
    rw [List.find?_range_eq_some]
    refine ⟨by rw [h.free _ le_rfl]; rfl, List.mem_range.mpr hroom, fun j hj => by rw [hused j hj]; rfl⟩
  · rename_i hfull
    rw [List.find?_eq_none]
    intro i hi
    have hlt := List.mem_range.mp hi
    simp [hused i (by omega)]

/-! ### One call -/

/-- A call leaves the value of the scan's slot one higher. -/
theorem sampleFlow_slot {i : Nat} {key : FlowKey} {n : Nat}
    (hscan : flowScan flows key (List.range FlowSlots) none = some i)
    (hslot : (flows i).used = true → flows i = ⟨key, BitVec.ofNat 32 n, true⟩)
    (hfree : (flows i).used = false → n = 0) :
    sampleFlow flows true key =
      (Function.update flows i ⟨key, BitVec.ofNat 32 (n + 1), true⟩, some (BitVec.ofNat 32 (n + 1)),
        BitVec.ofNat 32 (n + 1) &&& (BitVec.ofNat 32 (n + 1) - 1) == 0) := by
  have hnext : BitVec.ofNat 32 n + 1 = BitVec.ofNat 32 (n + 1) := (BitVec.ofNat_add n 1).symm
  rw [sampleFlow, if_neg (by simp), hscan]
  dsimp only
  cases hu : (flows i).used with
  | true =>
    rw [if_neg (by simp), hslot hu]
    dsimp only
    rw [hnext]
  | false =>
    obtain rfl := hfree hu
    rfl

theorem count_other {key other : FlowKey} (h : other ≠ key) : (keys ++ [key]).count other = keys.count other := by
  rw [List.count_append, List.count_singleton, if_neg (by simpa using h.symm), Nat.add_zero]

theorem count_same (key : FlowKey) : (keys ++ [key]).count key = keys.count key + 1 := by
  rw [List.count_append, List.count_singleton, beq_self_eq_true, if_pos rfl]

/-- A flow that has its place. -/
theorem Tracks.again (h : Tracks flows keys) {i : Nat} {key : FlowKey} (hi : (tracked keys)[i]? = some key) :
    Tracks (Function.update flows i ⟨key, BitVec.ofNat 32 (keys.count key + 1), true⟩) (keys ++ [key]) := by
  have hmem : key ∈ tracked keys := List.mem_of_getElem? hi
  have hlt := (List.getElem?_eq_some_iff.mp hi).1
  have htracked : tracked (keys ++ [key]) = tracked keys := by rw [tracked_append, if_pos (.inl hmem)]
  refine ⟨?_, ?_, ?_, ?_, ?_⟩
  · rw [htracked]
    exact h.le
  · rw [htracked]
    exact h.nodup
  · rw [htracked]
    intro j other hj
    by_cases hji : j = i
    · rw [hji, hi] at hj
      obtain rfl := Option.some.inj hj
      rw [hji, Function.update_self, count_same]
    · have hother : other ≠ key := by
        rintro rfl
        exact hji (h.nodup.getElem_inj_iff.mp
          ((List.getElem?_eq_some_iff.mp hj).2.trans (List.getElem?_eq_some_iff.mp hi).2.symm))
      rw [Function.update_of_ne hji, count_other hother]
      exact h.slot j other hj
  · rw [htracked]
    intro j hj
    rw [Function.update_of_ne (by omega)]
    exact h.free j hj
  · rw [htracked]
    intro hroom other hother
    rcases List.mem_append.mp hother with hother | hother
    · exact h.whole hroom other hother
    · rw [List.mem_singleton.mp hother]
      exact hmem

/-- A flow that gets the next place. -/
theorem Tracks.enter (h : Tracks flows keys) {key : FlowKey} (hnew : key ∉ tracked keys)
    (hroom : (tracked keys).length < FlowSlots) :
    Tracks (Function.update flows (tracked keys).length ⟨key, BitVec.ofNat 32 1, true⟩) (keys ++ [key]) := by
  have hunseen : key ∉ keys := fun hm => hnew (h.whole hroom key hm)
  have htracked : tracked (keys ++ [key]) = tracked keys ++ [key] := by
    rw [tracked_append, if_neg (not_or.mpr ⟨hnew, not_le.mpr hroom⟩)]
  refine ⟨?_, ?_, ?_, ?_, ?_⟩
  · rw [htracked, List.length_append, List.length_singleton]
    exact hroom
  · rw [htracked]
    exact List.nodup_append.mpr ⟨h.nodup, List.nodup_singleton key, fun a ha b hb => by
      rw [List.mem_singleton.mp hb]
      rintro rfl
      exact hnew ha⟩
  · rw [htracked]
    intro j other hj
    by_cases hlast : j = (tracked keys).length
    · rw [hlast, List.getElem?_append_right le_rfl, Nat.sub_self] at hj
      obtain rfl := Option.some.inj hj
      rw [hlast, Function.update_self, count_same, List.count_eq_zero_of_not_mem hunseen]
    · have hlt : j < (tracked keys).length := by
        have := (List.getElem?_eq_some_iff.mp hj).1
        rw [List.length_append, List.length_singleton] at this
        omega
      rw [List.getElem?_append_left hlt] at hj
      have hother : other ≠ key := by
        rintro rfl
        exact hnew (List.mem_of_getElem? hj)
      rw [Function.update_of_ne hlast, count_other hother]
      exact h.slot j other hj
  · rw [htracked, List.length_append, List.length_singleton]
    intro j hj
    rw [Function.update_of_ne (by omega)]
    exact h.free j (by omega)
  · rw [htracked]
    intro _ other hother
    rcases List.mem_append.mp hother with hother | hother
    · exact List.mem_append_left _ (h.whole hroom other hother)
    · exact List.mem_append_right _ hother

/-- A flow for which there is no place left. -/
theorem Tracks.refuse (h : Tracks flows keys) {key : FlowKey} (hnew : key ∉ tracked keys)
    (hfull : FlowSlots ≤ (tracked keys).length) : Tracks flows (keys ++ [key]) := by
  have htracked : tracked (keys ++ [key]) = tracked keys := by rw [tracked_append, if_pos (.inr hfull)]
  refine ⟨?_, ?_, ?_, ?_, ?_⟩
  · rw [htracked]
    exact h.le
  · rw [htracked]
    exact h.nodup
  · rw [htracked]
    intro j other hj
    have hother : other ≠ key := by
      rintro rfl
      exact hnew (List.mem_of_getElem? hj)
    rw [count_other hother]
    exact h.slot j other hj
  · rw [htracked]
    exact h.free
  · rw [htracked]
    exact fun hroom => absurd hroom (not_lt.mpr hfull)

/-- The table and the value of one call that counts. -/
theorem Tracks.step (h : Tracks flows keys) (key : FlowKey) :
    Tracks (sampleFlow flows true key).1 (keys ++ [key]) ∧
      (sampleFlow flows true key).2.2 = (decide (key ∈ tracked keys ∨ (tracked keys).length < FlowSlots) &&
        BitVec.ofNat 32 (keys.count key + 1) &&& (BitVec.ofNat 32 (keys.count key + 1) - 1) == 0) := by
  by_cases hmem : key ∈ tracked keys
  · obtain ⟨i, hi⟩ := List.getElem?_of_mem hmem
    have hslot := h.slot i key hi
    rw [sampleFlow_slot (h.own hi) (fun _ => hslot) (fun hu => by rw [hslot] at hu; cases hu)]
    exact ⟨h.again hi, by simp [hmem]⟩
  · by_cases hroom : (tracked keys).length < FlowSlots
    · have hscan := h.fresh hmem
      rw [if_pos hroom] at hscan
      have hzero : keys.count key = 0 := List.count_eq_zero_of_not_mem fun hm => hmem (h.whole hroom key hm)
      rw [sampleFlow_slot (n := 0) hscan (fun hu => by rw [h.free _ le_rfl] at hu; cases hu) (fun _ => rfl), hzero]
      exact ⟨h.enter hmem hroom, by simp [hroom]⟩
    · have hscan := h.fresh hmem
      rw [if_neg hroom] at hscan
      rw [sampleFlow, if_neg (by simp), hscan]
      exact ⟨h.refuse hmem (not_lt.mp hroom), by simp [hmem, hroom]⟩

/-! ### Runs -/

theorem after_tracks (calls : List (Bool × FlowKey)) : Tracks (after calls) (counted calls) := by
  induction calls using List.reverseRecOn with
  | nil => exact empty_tracks
  | append_singleton calls c ih =>
    have hafter : after (calls ++ [c]) = (sampleFlow (after calls) c.1 c.2).1 := by
      rw [after, List.foldl_append]
      rfl
    rw [hafter]
    obtain ⟨enabled, key⟩ := c
    cases enabled with
    | true =>
      have hcounted : counted (calls ++ [(true, key)]) = counted calls ++ [key] := by simp [counted]
      rw [hcounted]
      exact (ih.step key).1
    | false =>
      have hcounted : counted (calls ++ [(false, key)]) = counted calls := by simp [counted]
      rw [hcounted]
      exact ih

/-- **An exchange is sampled exactly when its flow is one of the first 24 and the number
of its times, this one included, is a power of two or, in 32 bits, zero.** -/
theorem sampled_iff (calls : List (Bool × FlowKey)) (key : FlowKey) :
    (sampleFlow (after calls) true key).2.2 = true ↔
      (key ∈ tracked (counted calls) ∨ (tracked (counted calls)).length < FlowSlots) ∧
        (((counted calls).count key + 1) % 2 ^ 32 = 0 ∨
          (((counted calls).count key + 1) % 2 ^ 32).isPowerOfTwo) := by
  rw [((after_tracks calls).step key).2, Bool.and_eq_true, decide_eq_true_eq, beq_iff_eq]
  refine and_congr_right fun _ => ?_
  generalize (counted calls).count key + 1 = n
  have hval : (BitVec.ofNat 32 n).toNat = n % 2 ^ 32 := BitVec.toNat_ofNat n 32
  rw [← hval]
  generalize BitVec.ofNat 32 n = c
  rw [← BitVec.toNat_inj, BitVec.toNat_and]
  by_cases hc : c.toNat = 0
  · simp [hc]
  · have hsub : (c - 1).toNat = c.toNat - 1 := by
      rw [BitVec.toNat_sub]
      have := c.isLt
      simp
      omega
    rw [hsub]
    simp only [hc, false_or]
    exact Nat.and_sub_one_eq_zero_iff_isPowerOfTwo hc

end SysZerotier.Mitm.FlowSamples
