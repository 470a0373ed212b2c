import SysZerotier.Net.Bytes
import Mathlib.Data.List.Basic

/-! The clock of the port (`NowMs` in `source/zt_port.cpp`).

Milliseconds of wall-clock time: the time service is asked for an epoch until it has one,
and from then on only the system tick is read. The tick does not go back, and so the clock
does not either (`now_steady`): what the service says later moves nothing. -/
namespace SysZerotier.Port
open Net

/-- What a call finds: `armGetSystemTick`, and `timeGetCurrentTime` unless it fails. -/
structure ClockReading where
  ticks : U64
  seconds : Option U64

/-- `s_anchorMs`, the bits of it, and `s_anchorTick` -/
structure Clock where
  anchorMs : U64
  anchorTick : U64

/-- Whether the service gives no epoch. -/
def ClockReading.Mute (r : ClockReading) : Prop := ∀ seconds, r.seconds = some seconds → seconds = 0

/-- Whether the epoch, if there is one, leaves room for its milliseconds. -/
def ClockReading.Plausible (r : ClockReading) : Prop := ∀ seconds ∈ r.seconds, seconds.toNat < 2 ^ 53

namespace Clock

def start : Clock := ⟨0, 0⟩

/-- Without an epoch the time is zero, and the next call asks again. -/
def nowMs (c : Clock) (r : ClockReading) : Clock × Int :=
  if c.anchorMs = 0 then
    match r.seconds with
    | none => (c, 0)
    | some seconds => (⟨seconds * 1000, r.ticks⟩, (seconds * 1000).toInt)
  else (c, (c.anchorMs + (r.ticks - c.anchorTick) / 19200).toInt)

/-- The times of a sequence of calls. -/
def times (c : Clock) : List ClockReading → List Int
  | [] => []
  | r :: rs => (c.nowMs r).2 :: times (c.nowMs r).1 rs

/-! ### With an epoch -/

/-- The time `seconds` after the epoch was read at `first`. -/
def since (seconds : U64) (first r : ClockReading) : Int :=
  seconds.toNat * 1000 + ((r.ticks.toNat - first.ticks.toNat) / 19200 : Nat)

theorem since_mono {seconds : U64} {first a b : ClockReading} (h : a.ticks.toNat ≤ b.ticks.toNat) :
    since seconds first a ≤ since seconds first b := by
  have hdiv := Nat.div_le_div_right (c := 19200) (Nat.sub_le_sub_right h first.ticks.toNat)
  rw [since, since]
  omega

theorem millis_toNat {seconds : U64} (hs : seconds.toNat < 2 ^ 53) : (seconds * 1000).toNat = seconds.toNat * 1000 := by
  rw [BitVec.toNat_mul]
  exact Nat.mod_eq_of_lt (by show seconds.toNat * 1000 < 2 ^ 64; omega)

theorem epoch_toInt {seconds : U64} (hs : seconds.toNat < 2 ^ 53) : (seconds * 1000).toInt = seconds.toNat * 1000 := by
  rw [BitVec.toInt_eq_toNat_of_lt (by rw [millis_toNat hs]; omega), millis_toNat hs]
  rfl

/-- The sum is an `int64_t` without overflow. -/
theorem millis_toInt {seconds : U64} (hs : seconds.toNat < 2 ^ 53) (d : U64) :
    (seconds * 1000 + d / 19200).toInt = seconds.toNat * 1000 + (d.toNat / 19200 : Nat) := by
  have hd : (d / 19200).toNat = d.toNat / 19200 := BitVec.toNat_udiv
  have hlt := d.isLt
  have hsum : (seconds * 1000 + d / 19200).toNat = seconds.toNat * 1000 + d.toNat / 19200 := by
    rw [BitVec.toNat_add, millis_toNat hs, hd]
    exact Nat.mod_eq_of_lt (by omega)
  rw [BitVec.toInt_eq_toNat_of_lt (by omega), hsum]
  omega

/-- Once there is an epoch the service is not asked. -/
theorem times_since {seconds : U64} (hs : seconds ≠ 0) (hroom : seconds.toNat < 2 ^ 53) {first : ClockReading}
    {rs : List ClockReading} (h : ∀ r ∈ rs, first.ticks.toNat ≤ r.ticks.toNat) :
    times ⟨seconds * 1000, first.ticks⟩ rs = rs.map (since seconds first) := by
  induction rs with
  | nil => rfl
  | cons r rs ih =>
    obtain ⟨hr, hrs⟩ := List.forall_mem_cons.mp h
    have hset : seconds * 1000 ≠ 0 := by
      intro hz
      have hzero := congrArg BitVec.toNat hz
      rw [millis_toNat hroom] at hzero
      have hnone : seconds.toNat * 1000 = 0 := hzero
      exact hs (BitVec.eq_of_toNat_eq (by show seconds.toNat = 0; omega))
    have hticks : (r.ticks - first.ticks).toNat = r.ticks.toNat - first.ticks.toNat :=
      BitVec.toNat_sub_of_le hr
    have hnow : nowMs ⟨seconds * 1000, first.ticks⟩ r =
        (⟨seconds * 1000, first.ticks⟩, since seconds first r) := by
      rw [nowMs, if_neg hset, millis_toInt hroom, hticks, since]
    rw [times, hnow, ih hrs, List.map_cons]

/-! ### From the start -/

theorem nowMs_mute {c : Clock} (hc : c.anchorMs = 0) {r : ClockReading} (h : r.Mute) :
    (c.nowMs r).1.anchorMs = 0 ∧ (c.nowMs r).2 = 0 := by
  rw [nowMs, if_pos hc]
  cases hr : r.seconds with
  | none => exact ⟨hc, rfl⟩
  | some seconds =>
    obtain rfl := h seconds hr
    exact ⟨rfl, rfl⟩

/-- The times up to the call that gets the epoch, and after it. -/
def Timed (rs : List ClockReading) (times : List Int) : Prop :=
  (∀ r ∈ rs, r.Mute) ∧ times = List.replicate rs.length 0 ∨
    ∃ early first late seconds, rs = early ++ first :: late ∧ (∀ r ∈ early, r.Mute) ∧
      first.seconds = some seconds ∧ seconds ≠ 0 ∧
      times = List.replicate early.length 0 ++ (first :: late).map (since seconds first)

theorem times_timed {rs : List ClockReading} (hticks : rs.Pairwise fun a b => a.ticks.toNat ≤ b.ticks.toNat)
    (hroom : ∀ r ∈ rs, r.Plausible) {c : Clock} (hc : c.anchorMs = 0) : Timed rs (c.times rs) := by
  induction rs generalizing c with
  | nil => exact .inl ⟨by simp, rfl⟩
  | cons r rs ih =>
    obtain ⟨hr, hrs⟩ := List.pairwise_cons.mp hticks
    obtain ⟨hfits, hroom⟩ := List.forall_mem_cons.mp hroom
    by_cases hmute : r.Mute
    · obtain ⟨hnext, hzero⟩ := nowMs_mute hc hmute
      rw [times, hzero]
      rcases ih hrs hroom hnext with ⟨hall, heq⟩ | ⟨early, first, late, seconds, rfl, hearly, hfirst, hs, heq⟩
      · exact .inl ⟨List.forall_mem_cons.mpr ⟨hmute, hall⟩, by rw [heq]; rfl⟩
      · exact .inr ⟨r :: early, first, late, seconds, rfl, List.forall_mem_cons.mpr ⟨hmute, hearly⟩, hfirst, hs,
          by rw [heq]; rfl⟩
    · obtain ⟨seconds, hsome, hs⟩ : ∃ seconds, r.seconds = some seconds ∧ seconds ≠ 0 := by
        rw [ClockReading.Mute] at hmute
        push Not at hmute
        exact hmute
      have hnow : c.nowMs r = (⟨seconds * 1000, r.ticks⟩, since seconds r r) := by
        rw [nowMs, if_pos hc, hsome, since, Nat.sub_self, ← epoch_toInt (hfits seconds hsome)]
        simp
      refine .inr ⟨[], r, rs, seconds, rfl, by simp, hsome, hs, ?_⟩
      rw [times, hnow, times_since hs (hfits seconds hsome) hr]
      rfl

/-- **The clock is steady.** Over every sequence of calls the times do not go back; they are
zero until the service first gives an epoch, and are from then on the epoch and the
milliseconds that the tick has counted since, whatever the service says later. -/
theorem now_steady (rs : List ClockReading) (hticks : rs.Pairwise fun a b => a.ticks.toNat ≤ b.ticks.toNat)
    (hroom : ∀ r ∈ rs, r.Plausible) :
    (start.times rs).Pairwise (· ≤ ·) ∧ Timed rs (start.times rs) := by
  have htimed : Timed rs (start.times rs) := times_timed hticks hroom rfl
  refine ⟨?_, htimed⟩
  rcases htimed with ⟨-, heq⟩ | ⟨early, first, late, seconds, rfl, -, -, -, heq⟩
  · rw [heq]
    exact List.pairwise_replicate.mpr (.inr le_rfl)
  · have hlate := (List.pairwise_append.mp hticks).2.1
    rw [heq, List.pairwise_append]
    refine ⟨List.pairwise_replicate.mpr (.inr le_rfl), ?_, fun a ha b hb => ?_⟩
    · exact List.pairwise_map.mpr (hlate.imp since_mono)
    · rw [List.eq_of_mem_replicate ha]
      obtain ⟨r, -, rfl⟩ := List.mem_map.mp hb
      rw [since]
      omega

/-- Ten seconds without an epoch, and then ten with one, though the service says something
else in the end. -/
theorem now_steady_late :
    start.times [⟨0, none⟩, ⟨192000000, some 1700000000⟩, ⟨384000000, some 5⟩] =
        [0, 1700000000000, 1700000010000] ∧
      (start.times [⟨0, none⟩, ⟨192000000, some 1700000000⟩, ⟨384000000, some 5⟩]).Pairwise (· ≤ ·) :=
  ⟨by decide, (now_steady _ (by decide) (by simp [ClockReading.Plausible])).1⟩

end Clock

end SysZerotier.Port
