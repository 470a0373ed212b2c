import SysZerotier.Net.Bytes
import SysZerotier.Library.Guard

/-! The boot trace (`Trace` in `source/zt_port.cpp`).

A line is dropped when the buffer has less than 128 bytes left, and otherwise formatted into
it behind a time stamp, truncated at its end. The length that is then added is the one that
the message would have had. The index stays in the buffer, and so does the terminator,
exactly when every message that is not dropped fits behind its stamp
(`trace_bounded_iff`). -/
namespace SysZerotier.Port.BootTrace
open Net Library

def TraceCapacity : Nat := 4096

/-- `g_trace` and `g_traceLen`. -/
structure State where
  trace : Buffer U8 := ⟨fun _ => 0, TraceCapacity⟩
  len : Nat := 0

/-- A call: the system tick, and what the message is formatted to. -/
structure Call where
  tick : U64
  message : List U8

/-- `"[%6llu] "` -/
def stamp (ms : Nat) : List U8 :=
  let digits := (Nat.toDigits 10 ms).map fun c => BitVec.ofNat 8 c.toNat
  91 :: (List.replicate (6 - digits.length) 32 ++ digits ++ [93, 32])

/-- `snprintf` to the `size` bytes from `off` on: what fits of the text, and its end. -/
def snprintf (p : Buffer U8) (off size : Nat) (text : List U8) : Guarded (Buffer U8) :=
  if size = 0 then .ok p
  else
    let written := text.take (size - 1) ++ [0]
    p.copy off ⟨fun i => written.getD i 0, written.length⟩ written.length

def Call.ms (c : Call) : Nat := c.tick.toNat / 19200

/-- The newline, if there is room for it, and the terminator. -/
def endLine (p : Buffer U8) (len : Nat) : Guarded State :=
  if len < TraceCapacity - 1 then do
    let p ← p.put len 10
    let p ← p.put (len + 1) 0
    return ⟨p, len + 1⟩
  else do
    let p ← p.put len 0
    return ⟨p, len⟩

def trace (s : State) (c : Call) : Guarded State :=
  if TraceCapacity ≤ s.len + 128 then .ok s
  else do
    let room ← Guarded.sub TraceCapacity s.len
    let p ← snprintf s.trace s.len room (stamp c.ms)
    let len := s.len + (stamp c.ms).length
    let room ← Guarded.sub TraceCapacity len
    let p ← snprintf p len room c.message
    endLine p (len + c.message.length)

/-! ### One line -/

/-- What a line adds, but for its newline. -/
def Call.length (c : Call) : Nat := (stamp c.ms).length + c.message.length

/-- The message is dropped, or fits behind its stamp. -/
def Fits (len : Nat) (c : Call) : Prop := len + 128 < TraceCapacity → len + c.length < TraceCapacity

/-- The index after the line. -/
def after (len : Nat) (c : Call) : Nat :=
  if TraceCapacity ≤ len + 128 then len else min (len + c.length + 1) (TraceCapacity - 1)

theorem stamp_length_le (c : Call) : (stamp c.ms).length ≤ 18 := by
  have hlt : c.ms < 10 ^ 15 := by
    have hbound : 2 ^ 64 / 19200 < 10 ^ 15 := by decide
    have htick := c.tick.isLt
    have hms : c.ms ≤ 2 ^ 64 / 19200 := Nat.div_le_div_right htick.le
    exact Nat.lt_of_le_of_lt hms hbound
  have hdigits : (Nat.toDigits 10 c.ms).length ≤ 15 := Nat.toDigits_length 10 c.ms 15 (by decide) hlt
  rw [stamp]
  simp only [List.length_cons, List.length_append, List.length_replicate, List.length_map, List.length_nil]
  omega

theorem snprintf_ok (p : Buffer U8) (off size : Nat) (h : off + size ≤ p.size) (text : List U8) :
    ∃ q, snprintf p off size text = .ok q ∧ q.size = p.size := by
  rw [snprintf]
  by_cases hsize : size = 0
  · rw [if_pos hsize]
    exact ⟨p, rfl, rfl⟩
  · have hlen : (text.take (size - 1) ++ [(0 : U8)]).length ≤ size := by
      rw [List.length_append, List.length_take, List.length_singleton]
      omega
    rw [if_neg hsize]
    have hfit : off + (text.take (size - 1) ++ [(0 : U8)]).length ≤ p.size := by omega
    dsimp only
    rw [Buffer.copy_ok (Nat.le_refl _) hfit]
    exact ⟨_, rfl, rfl⟩

/-- Where a line is not dropped its stamp fits, and as much of the message as there is room for. -/
theorem trace_formatted {s : State} (hsize : s.trace.size = TraceCapacity) {c : Call}
    (hroom : s.len + 128 < TraceCapacity) :
    ∃ p : Buffer U8, p.size = TraceCapacity ∧ trace s c = endLine p (s.len + c.length) := by
  have hstamp := stamp_length_le c
  obtain ⟨p, hp, hpsize⟩ := snprintf_ok s.trace s.len (TraceCapacity - s.len) (by omega) (stamp c.ms)
  obtain ⟨q, hq, hqsize⟩ := snprintf_ok p (s.len + (stamp c.ms).length)
    (TraceCapacity - (s.len + (stamp c.ms).length)) (by omega) c.message
  refine ⟨q, by omega, ?_⟩
  rw [trace, if_neg (by omega), Guarded.sub_ok (by omega), ok_bind, hp, ok_bind]
  dsimp only
  rw [Guarded.sub_ok (by omega), ok_bind, hq, ok_bind, Nat.add_assoc]
  rfl

theorem endLine_ok {p : Buffer U8} (hsize : p.size = TraceCapacity) {len : Nat} (h : len < TraceCapacity) :
    ∃ t, endLine p len = .ok t ∧ t.trace.size = TraceCapacity ∧ t.len = min (len + 1) (TraceCapacity - 1) := by
  rw [endLine]
  by_cases hnewline : len < TraceCapacity - 1
  · have hlast : len + 1 < p.size := by omega
    rw [if_pos hnewline, Buffer.put_ok (by omega), ok_bind, Buffer.put_ok (by exact hlast), ok_bind]
    refine ⟨_, rfl, hsize, ?_⟩
    dsimp only
    omega
  · rw [if_neg hnewline, Buffer.put_ok (by omega), ok_bind]
    refine ⟨_, rfl, hsize, ?_⟩
    dsimp only
    omega

/-- The terminator behind the buffer. -/
theorem endLine_faults {p : Buffer U8} (hsize : p.size = TraceCapacity) {len : Nat} (h : TraceCapacity ≤ len) :
    endLine p len = .error (.write len p.size) := by
  rw [endLine, if_neg (by omega), Buffer.put, if_neg (by omega)]
  rfl

/-- A message that fits leaves the index in the buffer. -/
theorem trace_fits {s : State} (hsize : s.trace.size = TraceCapacity) {c : Call} (h : Fits s.len c) :
    ∃ t, trace s c = .ok t ∧ t.trace.size = TraceCapacity ∧ t.len = after s.len c := by
  by_cases hroom : TraceCapacity ≤ s.len + 128
  · exact ⟨s, if_pos hroom, hsize, (if_pos hroom).symm⟩
  · obtain ⟨p, hpsize, htrace⟩ := trace_formatted hsize (c := c) (Nat.not_le.mp hroom)
    rw [htrace, after, if_neg hroom]
    exact endLine_ok hpsize (h (Nat.not_le.mp hroom))

theorem trace_faults {s : State} (hsize : s.trace.size = TraceCapacity) {c : Call} (h : ¬Fits s.len c) :
    ∃ fault, trace s c = .error fault := by
  obtain ⟨hroom, hlong⟩ := Classical.not_imp.mp h
  obtain ⟨p, hpsize, htrace⟩ := trace_formatted hsize (c := c) hroom
  exact ⟨_, htrace.trans (endLine_faults hpsize (Nat.not_lt.mp hlong))⟩

theorem after_lt {len : Nat} (h : len < TraceCapacity) (c : Call) : after len c < TraceCapacity := by
  rw [after]
  split
  · exact h
  · exact Nat.lt_of_le_of_lt (Nat.min_le_right _ _) (by decide)

/-! ### All lines -/

def run (s : State) : List Call → Guarded State
  | [] => .ok s
  | c :: cs => do
    let s ← trace s c
    run s cs

/-- Every message of a run fits, or is dropped. -/
def AllFit : Nat → List Call → Prop
  | _, [] => True
  | len, c :: cs => Fits len c ∧ AllFit (after len c) cs

/-- No call writes out of bounds, and the index is in the buffer after each. -/
def Bounded (s : State) (cs : List Call) : Prop :=
  ∀ before, before <+: cs → ∃ t, run s before = .ok t ∧ t.len < TraceCapacity

theorem bounded_cons {s t : State} {c : Call} (h : trace s c = .ok t) (hlen : s.len < TraceCapacity)
    (cs : List Call) :
    Bounded s (c :: cs) ↔ Bounded t cs := by
  constructor
  · intro hb before hprefix
    obtain ⟨u, hu, hulen⟩ := hb (c :: before) (List.cons_prefix_cons.mpr ⟨rfl, hprefix⟩)
    rw [run, h, ok_bind] at hu
    exact ⟨u, hu, hulen⟩
  · intro hb before hprefix
    cases before with
    | nil => exact ⟨s, rfl, hlen⟩
    | cons c' before =>
      obtain ⟨hc, hrest⟩ := List.cons_prefix_cons.mp hprefix
      obtain ⟨u, hu, hulen⟩ := hb before hrest
      exact ⟨u, by rw [run, hc, h, ok_bind, hu], hulen⟩

theorem bounded_iff (cs : List Call) {s : State} (hsize : s.trace.size = TraceCapacity)
    (hlen : s.len < TraceCapacity) :
    Bounded s cs ↔ AllFit s.len cs := by
  induction cs generalizing s with
  | nil =>
    refine iff_of_true (fun before hprefix => ?_) trivial
    rw [List.prefix_nil.mp hprefix]
    exact ⟨s, rfl, hlen⟩
  | cons c cs ih =>
    rw [AllFit]
    by_cases hfits : Fits s.len c
    · obtain ⟨t, ht, htsize, htlen⟩ := trace_fits hsize hfits
      rw [bounded_cons ht hlen, ih htsize (by rw [htlen]; exact after_lt hlen c), htlen]
      exact (and_iff_right hfits).symm
    · refine iff_of_false (fun hb => ?_) fun h => hfits h.1
      obtain ⟨fault, hfault⟩ := trace_faults hsize hfits
      obtain ⟨t, ht, -⟩ := hb [c] (List.cons_prefix_cons.mpr ⟨rfl, List.nil_prefix⟩)
      rw [run, hfault] at ht
      cases ht

/-- **The trace stays in its buffer**, terminator included, exactly when each message that is not
dropped fits behind its stamp. -/
theorem trace_bounded_iff (cs : List Call) : Bounded {} cs ↔ AllFit 0 cs :=
  bounded_iff cs rfl (by decide)

theorem not_fits {c : Call} (h : TraceCapacity ≤ c.message.length) : ¬Fits 0 c := fun hfits => by
  have hlt : 0 + c.length < TraceCapacity := hfits (by decide)
  rw [Call.length] at hlt
  omega

/-- A message as long as the buffer. -/
theorem long_message_overruns : ¬∀ cs : List Call, Bounded {} cs := by
  intro h
  have hlong : ¬Fits 0 ⟨0, List.replicate 4096 65⟩ := not_fits (List.length_replicate ..).ge
  obtain ⟨fault, hfault⟩ := trace_faults (s := {}) rfl hlong
  obtain ⟨t, ht, -⟩ := h [⟨0, List.replicate 4096 65⟩] _ (List.prefix_refl _)
  rw [run, hfault] at ht
  cases ht

end SysZerotier.Port.BootTrace
