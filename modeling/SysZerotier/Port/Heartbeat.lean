import SysZerotier.Library.Pacing
import SysZerotier.Mitm.Logs
import SysZerotier.Port.Status

/-! The heartbeat (`Port::heartbeat` in `source/zt_port.cpp`).

One line in the event log every thirty seconds, or every five while the wire is down, so
that a session can be read from its log: what was sent and received since the line before.
`beats_account` is that the lines add up; `beat_rates` is that while the network has not
authorised the console, what was received is cut from the line. -/
namespace SysZerotier.Port
open Net Library Config

/-- A line, before it is formatted: the rates and the rest of what it says. -/
structure Beat where
  now : Int
  port : Reported
  tx : U32
  rx : U32

namespace Beat

/-- The line up to the rates. -/
def head (b : Beat) : Text :=
  ascii "beat " ++ (if b.port.online then ascii "ONLINE " else ascii "offline") ++ ascii " " ++
    netStatusName b.port.netStatus ++ ascii " " ++ (if b.port.wireRecovering then ascii "PAUSED " else ascii "running") ++
    ascii " tx +"

/-- The line behind the rates. -/
def tail (number : Errno → U32) (b : Beat) : Text :=
  ascii " fail " ++ dec b.port.wireTxFail.toNat ++ ascii " errno " ++ signed b.port.wireErrno.toInt ++ ascii " " ++
    errnoName number b.port.wireErrno ++ ascii " v6skip " ++ dec b.port.wireSkipV6.toNat

def rates (b : Beat) : Text := dec b.tx.toNat ++ ascii " rx +" ++ dec b.rx.toNat

def line (number : Errno → U32) (b : Beat) : Text := b.head ++ b.rates ++ b.tail number

end Beat

/-- `m_lastBeatMs`, `m_beatLastTx` and `m_beatLastRx` -/
structure Heart where
  lastBeatMs : Int
  beatLastTx : U32
  beatLastRx : U32

/-- How long the next line can wait. -/
def beatInterval (p : Reported) : Int := if p.wireFd.toInt < 0 ∨ p.wireRecovering = true then 5000 else 30000

namespace Heart

def start : Heart := ⟨0, 0, 0⟩

def heartbeat (h : Heart) (now : Int) (p : Reported) : Heart × Option Beat :=
  if h.lastBeatMs ≠ 0 ∧ now - h.lastBeatMs < beatInterval p then (h, none)
  else (⟨now, p.wireTx, p.wireRx⟩, some ⟨now, p, p.wireTx - h.beatLastTx, p.wireRx - h.beatLastRx⟩)

/-- The heartbeat of each pass of a session. -/
def run (h : Heart) (passes : List (Int × Reported)) : Heart :=
  passes.foldl (fun h pass => (h.heartbeat pass.1 pass.2).1) h

def beats (h : Heart) : List (Int × Reported) → List Beat
  | [] => []
  | pass :: passes => (h.heartbeat pass.1 pass.2).2.toList ++ beats (h.heartbeat pass.1 pass.2).1 passes

theorem beats_append (h : Heart) (passes more : List (Int × Reported)) :
    h.beats (passes ++ more) = h.beats passes ++ (h.run passes).beats more := by
  induction passes generalizing h with
  | nil => rfl
  | cons pass passes ih =>
    rw [List.cons_append, beats, ih, beats, List.append_assoc]
    rfl

/-- What the last line leaves behind. -/
def after : Option Beat → Heart
  | none => start
  | some b => ⟨b.now, b.port.wireTx, b.port.wireRx⟩

theorem beats_snoc (passes : List (Int × Reported)) (pass : Int × Reported) :
    start.beats (passes ++ [pass]) =
      start.beats passes ++ ((start.run passes).heartbeat pass.1 pass.2).2.toList := by
  rw [beats_append, beats, beats, List.append_nil]

theorem run_after (passes : List (Int × Reported)) : start.run passes = after (start.beats passes).getLast? := by
  induction passes using List.reverseRecOn with
  | nil => rfl
  | append_singleton passes pass ih =>
    rw [run, List.foldl_append, beats_snoc]
    show ((start.run passes).heartbeat pass.1 pass.2).1 = _
    rw [heartbeat]
    split
    · rw [ih, Option.toList_none, List.append_nil]
    · rw [Option.toList_some, List.getLast?_concat]
      rfl

/-- The rates so far add up to the counters of the last line. -/
theorem rates_sum (passes : List (Int × Reported)) :
    ((start.beats passes).map Beat.tx).sum = (start.run passes).beatLastTx ∧
      ((start.beats passes).map Beat.rx).sum = (start.run passes).beatLastRx := by
  induction passes using List.reverseRecOn with
  | nil => exact ⟨rfl, rfl⟩
  | append_singleton passes pass ih =>
    rw [run, List.foldl_append, beats_snoc]
    show _ = ((start.run passes).heartbeat pass.1 pass.2).1.beatLastTx ∧
      _ = ((start.run passes).heartbeat pass.1 pass.2).1.beatLastRx
    rw [heartbeat]
    split
    · rw [Option.toList_none, List.append_nil]
      exact ih
    · simp only [Option.toList_some, List.map_append, List.map_singleton, List.sum_append, List.sum_singleton, ih.1,
        ih.2]
      exact ⟨add_sub_cancel _ _, add_sub_cancel _ _⟩

/-- The passes with a line. -/
theorem beats_paced (h : Heart) (passes : List (Int × Reported)) :
    (h.beats passes).map (fun b => (b.now, b.port)) =
      paced Prod.fst (fun pass => beatInterval pass.2) h.lastBeatMs passes := by
  induction passes generalizing h with
  | nil => rfl
  | cons pass passes ih =>
    rw [beats, paced, List.map_append, ih, heartbeat]
    split <;> rfl

theorem beatInterval_pos (p : Reported) : 0 < beatInterval p := by
  rw [beatInterval]
  split <;> decide

/-- A line does not come too early; a time of zero stands for no line yet. -/
def InTime (a b : Beat) : Prop := a.now = 0 ∨ a.now + beatInterval b.port ≤ b.now

end Heart

/-! ### What the log keeps of a line -/

open Mitm.Logs

/-- What a slot of the event log keeps of a line. -/
def keptLine (number : Errno → U32) (tick : U64) (b : Beat) : Text :=
  (Log.EventCall.line ⟨tick, b.line number⟩).take eventLog.width

def uptimeStamp (tick : U64) : Text := Log.stamp (tick.toNat / 19200)

/-- The uptime in milliseconds has fifteen digits at most. -/
theorem uptimeStamp_length (tick : U64) : 11 ≤ (uptimeStamp tick).length ∧ (uptimeStamp tick).length ≤ 18 := by
  have hdigits : (Nat.toDigits 10 (tick.toNat / 19200)).length ≤ 15 :=
    (Nat.length_toDigits_le_iff (by decide) (by decide)).mpr (by have := tick.isLt; omega)
  rw [uptimeStamp, Log.stamp]
  simp only [List.length_cons, List.length_append, List.length_replicate, List.length_map, List.length_nil]
  omega

theorem head_length (b : Beat) : b.head.length = (netStatusName b.port.netStatus).length + 26 := by
  have honline : (if b.port.online then ascii "ONLINE " else ascii "offline").length = 7 := by
    cases b.port.online <;> decide +kernel
  have hrunning : (if b.port.wireRecovering then ascii "PAUSED " else ascii "running").length = 7 := by
    cases b.port.wireRecovering <;> decide +kernel
  have hbeat : (ascii "beat ").length = 5 := by decide +kernel
  have hblank : (ascii " ").length = 1 := by decide +kernel
  have htx : (ascii " tx +").length = 5 := by decide +kernel
  simp only [Beat.head, List.length_append, honline, hrunning, hbeat, hblank, htx]
  omega

theorem netStatusName_short {st : U32} (h2 : st ≠ 2) (h3 : st ≠ 3) : (netStatusName st).length ≤ 24 := by
  rw [netStatusName, if_neg h2, if_neg h3]
  repeat' split
  all_goals decide +kernel

theorem netStatusName_denied : (netStatusName 2).length = 55 := by decide +kernel

theorem rates_length (b : Beat) : 7 ≤ b.rates.length ∧ b.rates.length ≤ 25 := by
  have htx := (dec_prints32 b.tx).1
  have hrx := (dec_prints32 b.rx).1
  have htx' := List.length_pos_of_ne_nil (dec_ne_nil b.tx.toNat)
  have hrx' := List.length_pos_of_ne_nil (dec_ne_nil b.rx.toNat)
  have hbetween : (ascii " rx +").length = 5 := by decide +kernel
  simp only [Beat.rates, List.length_append, hbetween]
  omega

/-- **In the log a beat shows its rates**, whatever they are, unless the network is not
found or does not let the console in; and in the latter case the line is cut before what was
received, so that it is the same whatever that was. -/
theorem beat_rates (number : Errno → U32) (tick : U64) (b : Beat) :
    (b.port.netStatus ≠ 2 → b.port.netStatus ≠ 3 →
      uptimeStamp tick ++ (b.head ++ b.rates) <+: keptLine number tick b) ∧
    (b.port.netStatus = 2 → ∀ b' : Beat, b'.head = b.head → b'.tx = b.tx →
      keptLine number tick b' = keptLine number tick b) := by
  have hstamp := uptimeStamp_length tick
  have hwidth : eventLog.width = 95 := rfl
  constructor
  · intro h2 h3
    have hname := netStatusName_short h2 h3
    have hhead := head_length b
    have hrates := rates_length b
    rw [keptLine, Log.EventCall.line, List.prefix_take_iff]
    refine ⟨?_, ?_⟩
    · exact ⟨b.tail number, by rw [List.append_assoc]; rfl⟩
    · simp only [List.length_append]
      omega
  · intro hdenied b' hhead htx
    -- what the two have in common reaches to the end of the slot
    have hcut : ∀ c : Beat, c.head = b.head → c.tx = b.tx → keptLine number tick c =
        (uptimeStamp tick ++ (b.head ++ (dec b.tx.toNat ++ ascii " rx +"))).take eventLog.width := by
      intro c hc htxc
      have hline : Log.EventCall.line ⟨tick, c.line number⟩ =
          uptimeStamp tick ++ (b.head ++ (dec b.tx.toNat ++ ascii " rx +")) ++ (dec c.rx.toNat ++ c.tail number) := by
        rw [← hc, ← htxc]
        simp only [Log.EventCall.line, Beat.line, Beat.rates, uptimeStamp, List.append_assoc]
      have hlong : eventLog.width ≤ (uptimeStamp tick ++ (b.head ++ (dec b.tx.toNat ++ ascii " rx +"))).length := by
        have hhead := head_length b
        rw [hdenied, netStatusName_denied] at hhead
        have hdigit := List.length_pos_of_ne_nil (dec_ne_nil b.tx.toNat)
        have hbetween : (ascii " rx +").length = 5 := by decide +kernel
        simp only [List.length_append, hbetween]
        omega
      rw [keptLine, hline, List.take_append_of_le_length hlong]
    rw [hcut b' hhead htx, hcut b rfl rfl]

end SysZerotier.Port
