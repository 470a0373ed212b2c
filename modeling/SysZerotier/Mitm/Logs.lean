import SysZerotier.Library.LineLog
import SysZerotier.Library.Runs
import SysZerotier.Net.Bytes

/-! The bounded logs: uplink events (`Event` in `source/zt_port.cpp`), bsd observations
and NIFM requests (`source/mitm/bsd_shim.cpp`).

The three differ in their size and in when they write the file. The event log has its
storage from the start and writes the whole file with every line. The other two take
theirs when the first line comes with diagnostics enabled, and a line only marks them
dirty; a flush writes the file and is what the `Sync` variants do after the line, each
under the lock of its own.

`lines` is not in the source. It records the lines that were taken, and nothing reads
it. -/
namespace SysZerotier.Mitm.Logs
open Net Library

/-- A log's constants. -/
structure Shape where
  lines : Nat
  lineLen : Nat
  lineLen_pos : 0 < lineLen

/-- `EventLines` and `EventLineLen`. -/
def eventLog : Shape := ⟨48, 96, by decide⟩

/-- `LogLines` and `LogLineLen`. -/
def bsdLog : Shape := ⟨96, 112, by decide⟩

/-- `NifmLogLines` and `NifmLogLineLen`. -/
def nifmLog : Shape := ⟨24, 112, by decide⟩

namespace Shape

/-- The size of the buffer the file is put together in. -/
def textSize (k : Shape) : Nat := k.lines * k.lineLen + 64

/-- What of a line a slot holds, whose last byte is the terminator. -/
def width (k : Shape) : Nat := k.lineLen - 1

theorem width_succ (k : Shape) : k.width + 1 = k.lineLen := Nat.succ_pred_eq_of_pos k.lineLen_pos

end Shape

structure Log where
  allocated : Bool
  ring : LineLog U8
  dirty : Bool
  file : Option (List U8)
  lines : List (List U8)

/-- A log whose buffers have yet to be taken. -/
def Log.lazy : Log := ⟨false, .empty, false, none, []⟩

/-- A log with buffers of its own. -/
def Log.static : Log := ⟨true, .empty, false, none, []⟩

namespace Log

/-- What a flush puts together, up to the terminator. -/
def text (k : Shape) (s : Log) : List U8 := s.ring.written k.lines k.width k.textSize 10

/-- `Note` and `NoteNifm`: whether diagnostics are enabled, whether the buffers are to be
had, and what the message is formatted to. -/
def note (k : Shape) (s : Log) (enabled allocates : Bool) (line : List U8) : Log :=
  if !enabled then s
  else if !(s.allocated || allocates) then s
  else
    { s with
      allocated := true
      ring := s.ring.record k.lines k.width line
      dirty := true
      lines := s.lines ++ [line] }

/-- `FlushObservations` and `FlushNifmTrace`. A write that fails leaves the file in some
other state, and the log clean all the same. -/
def flush (k : Shape) (s : Log) (failed : Option (Option (List U8))) : Log :=
  if !s.dirty || !s.allocated then s
  else { s with dirty := false, file := failed.getD (some (s.text k)) }

inductive Use where
  | note (enabled allocates : Bool) (line : List U8)
  | flush (failed : Option (Option (List U8)))

def step (k : Shape) (s : Log) : Use → Option Log
  | .note enabled allocates line => some (s.note k enabled allocates line)
  | .flush failed => some (s.flush k failed)

def logging (k : Shape) : System Log Use := ⟨step k⟩

/-- `"[%8llu] "` -/
def stamp (ms : Nat) : List U8 :=
  let digits := (Nat.toDigits 10 ms).map fun c => BitVec.ofNat 8 c.toNat
  91 :: (List.replicate (8 - digits.length) 32 ++ digits ++ [93, 32])

/-! ### What a log holds -/

/-- The newest lines, each cut to what a slot holds and ended. -/
def newest (k : Shape) (lines : List (List U8)) : List U8 := LineLog.newest k.lines k.width 10 lines

/-- Of a log whose count has not overflown. -/
structure Inv (k : Shape) (s : Log) : Prop where
  holds : s.lines.length < 2 ^ 31 → LineLog.Holds k.lines k.width s.ring s.lines
  taken : s.lines ≠ [] → s.allocated = true
  clean : s.lines.length < 2 ^ 31 → s.dirty = false → s.lines ≠ [] → s.file = some (newest k s.lines)

theorem Inv.text {k : Shape} {s : Log} (h : Inv k s) (hfew : s.lines.length < 2 ^ 31) :
    s.text k = newest k s.lines := by
  refine LineLog.written_newest ?_ 10 (h.holds hfew)
  rw [k.width_succ, Shape.textSize]
  omega

theorem lazy_inv (k : Shape) : Inv k .lazy :=
  ⟨fun _ => LineLog.empty_holds _ _, fun h => absurd rfl h, fun _ _ h => absurd rfl h⟩

theorem Inv.note {k : Shape} {s : Log} (h : Inv k s) (enabled allocates : Bool) (line : List U8) :
    Inv k (s.note k enabled allocates line) := by
  unfold Log.note
  split
  · exact h
  · split
    · exact h
    · refine ⟨fun hfew => ?_, fun _ => rfl, fun _ hd => by cases hd⟩
      have hnext : s.lines.length + 1 < 2 ^ 31 := by simpa using hfew
      exact (h.holds (by omega)).record line hnext

theorem Inv.flush {k : Shape} {s : Log} (h : Inv k s) : Inv k (s.flush k none) := by
  unfold Log.flush
  split
  · exact h
  · exact ⟨h.holds, h.taken, fun hfew _ _ => congrArg some (h.text hfew)⟩

/-- The file was written. -/
def writes (_ : Log) : Use → Bool
  | .flush failed => failed.isNone
  | _ => true

theorem keeps_inv (k : Shape) : (logging k).Keeps writes (Inv k) := by
  intro s e t h hw hs
  cases e with
  | note enabled allocates line =>
    cases hs
    exact h.note enabled allocates line
  | flush failed =>
    cases hs
    cases failed with
    | none => exact h.flush
    | some left => cases hw

/-- The lines a run takes, from whether there are buffers yet. -/
def recorded : Bool → List Use → List (List U8)
  | _, [] => []
  | allocated, .note enabled allocates line :: es =>
    if enabled && (allocated || allocates) then line :: recorded true es else recorded allocated es
  | allocated, .flush _ :: es => recorded allocated es

theorem run_lines {k : Shape} (es : List Use) {s t : Log} (hr : (logging k).run s es = some t) :
    t.lines = s.lines ++ recorded s.allocated es := by
  induction es generalizing s with
  | nil =>
    cases hr
    simp [recorded]
  | cons e es ih =>
    obtain ⟨u, hu, hrest⟩ := Option.bind_eq_some_iff.mp hr
    rw [ih hrest]
    cases e with
    | note enabled allocates line =>
      cases hu
      rw [recorded, Log.note]
      cases enabled with
      | false => simp
      | true => cases s.allocated || allocates <;> simp
    | flush failed =>
      cases hu
      rw [recorded, Log.flush]
      split <;> rfl

/-- **A log that is clean has its newest lines in the file, oldest first, and the buffer
they are put together in always has room for them and the terminator, whatever the
order of lines and flushes, as long as the file can be written and the count of the
lines does not overflow.** -/
theorem newest_written (k : Shape) (es : List Use) (t : Log) (hw : (logging k).meets writes .lazy es = true)
    (hfew : (recorded false es).length < 2 ^ 31) (hr : (logging k).run .lazy es = some t) :
    t.text k = newest k (recorded false es) ∧ (t.text k).length < k.textSize ∧
      (t.dirty = false → recorded false es ≠ [] → t.file = some (newest k (recorded false es))) := by
  have hinv := (keeps_inv k).run es (lazy_inv k) hw hr
  have hlines : t.lines = recorded false es := run_lines es hr
  have hle := LineLog.newest_length k.lines k.width 10 t.lines
  rw [k.width_succ] at hle
  rw [← hlines] at hfew
  rw [← hlines, hinv.text hfew]
  exact ⟨rfl, lt_of_le_of_lt hle (Nat.lt_add_of_pos_right (by decide)), hinv.clean hfew⟩

theorem newest_written_bsd :
    ∃ t, (logging bsdLog).run .lazy
        [.note false true [1], .note true false [2], .note true true [3, 3], .flush none, .note true false [4]] =
          some t ∧ t.text bsdLog = newest bsdLog [[3, 3], [4]] :=
  ⟨_, rfl, (newest_written bsdLog [.note false true [1], .note true false [2], .note true true [3, 3], .flush none,
    .note true false [4]] _ rfl (by decide) rfl).1⟩

/-! ### The event log -/

/-- A call of `Event`: the system tick, and what the message is formatted to. -/
structure EventCall where
  tick : U64
  message : List U8

def EventCall.line (c : EventCall) : List U8 := stamp (c.tick.toNat / 19200) ++ c.message

/-- `Event` writes the file in the same hold of the lock. -/
def event (s : Log) (c : EventCall) (failed : Option (Option (List U8))) : Log :=
  (s.note eventLog true true c.line).flush eventLog failed

def events (s : Log) (calls : List (EventCall × Option (Option (List U8)))) : Log :=
  calls.foldl (fun s c => s.event c.1 c.2) s

theorem event_holds {s : Log} (h : LineLog.Holds eventLog.lines eventLog.width s.ring s.lines)
    (hfew : s.lines.length + 1 < 2 ^ 31) (c : EventCall) (failed : Option (Option (List U8))) :
    LineLog.Holds eventLog.lines eventLog.width (s.event c failed).ring (s.lines ++ [c.line]) ∧
      (s.event c failed).lines = s.lines ++ [c.line] ∧
      (s.event c failed).file = failed.getD (some (newest eventLog (s.lines ++ [c.line]))) := by
  have hnext := h.record c.line hfew
  have htext : (s.note eventLog true true c.line).text eventLog = newest eventLog (s.lines ++ [c.line]) := by
    rw [Log.note, if_neg (by simp), if_neg (by simp)]
    exact LineLog.written_newest (by decide) 10 hnext
  rw [event, Log.flush, htext, Log.note, if_neg (by simp), if_neg (by simp), if_neg (by simp)]
  exact ⟨hnext, rfl, rfl⟩

theorem events_holds (calls : List (EventCall × Option (Option (List U8)))) {s : Log}
    (h : LineLog.Holds eventLog.lines eventLog.width s.ring s.lines)
    (hfew : s.lines.length + calls.length < 2 ^ 31) :
    LineLog.Holds eventLog.lines eventLog.width (s.events calls).ring (s.events calls).lines ∧
      (s.events calls).lines = s.lines ++ calls.map fun c => c.1.line := by
  induction calls generalizing s with
  | nil => exact ⟨h, by simp [events]⟩
  | cons c calls ih =>
    rw [List.length_cons] at hfew
    obtain ⟨hnext, hlines, -⟩ := event_holds h (by omega) c.1 c.2
    obtain ⟨hholds, heq⟩ := ih (s := s.event c.1 c.2) (by rw [hlines]; exact hnext) (by
      rw [hlines, List.length_append, List.length_singleton]
      omega)
    refine ⟨hholds, heq.trans ?_⟩
    rw [hlines, List.map_cons, List.append_assoc, List.singleton_append]

/-- **After every call whose write succeeds the event file holds the newest lines,
whatever became of the writes before, until the count of the calls overflows.** -/
theorem event_written (calls : List (EventCall × Option (Option (List U8)))) (c : EventCall)
    (hfew : calls.length + 1 < 2 ^ 31) :
    ((Log.static.events calls).event c none).file =
      some (newest eventLog ((calls.map fun call => call.1.line) ++ [c.line])) := by
  obtain ⟨hholds, hlines⟩ := events_holds calls (s := .static) (LineLog.empty_holds _ _) (by
    rw [show Log.static.lines = [] from rfl, List.length_nil]
    omega)
  have hone : (Log.static.events calls).lines.length + 1 < 2 ^ 31 := by
    rw [hlines, List.length_append, List.length_map]
    exact (Nat.add_le_add_right (Nat.zero_add _).le 1).trans_lt hfew
  rw [(event_holds hholds hone c none).2.2, hlines]
  rfl

/-- The first line is not written out, and is there with the second. -/
theorem event_written_second :
    ((Log.static.events [(⟨19200, [97]⟩, some none)]).event ⟨38400, [98]⟩ none).file =
      some (newest eventLog [EventCall.line ⟨19200, [97]⟩, EventCall.line ⟨38400, [98]⟩]) :=
  event_written [(⟨19200, [97]⟩, some none)] ⟨38400, [98]⟩ (by decide)

end Log

end SysZerotier.Mitm.Logs
