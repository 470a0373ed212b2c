import SysZerotier.Library.Reader
import SysZerotier.Net.Bytes

/-! Thread dumps of a crash (`tools/parse_dti2.py`).

A DTI2 file is a header of sixteen bytes and one record for each thread: its id, its
context, its thread-local storage, its name, a part of its stack and a trace. The trace
is of the record's own length, so records have no common length and only the reading of
one says where the next begins.

`Dump` is what a file stands for, and `parse_ok_iff` says that the files that are
accepted are those of dumps. The tool keeps less than a dump holds: of the context it
keeps the general registers, `pstate` and `tpidr`, and of the name what stands before its
first zero byte. -/
namespace SysZerotier.Tools.Dti2
open Net Library

/-! ### Numbers, least significant byte first -/

def leBytes : Nat → Nat → List U8
  | 0, _ => []
  | n + 1, v => BitVec.ofNat 8 v :: leBytes n (v / 256)

def leValue : List U8 → Nat
  | [] => 0
  | b :: bs => b.toNat + 256 * leValue bs

@[simp] theorem leBytes_length (n v : Nat) : (leBytes n v).length = n := by
  induction n generalizing v with
  | zero => rfl
  | succ n ih => rw [leBytes, List.length_cons, ih]

theorem leValue_lt (w : List U8) : leValue w < 256 ^ w.length := by
  induction w with
  | nil => exact Nat.one_pos
  | cons b bs ih =>
    have hb := b.isLt
    rw [leValue, List.length_cons, Nat.pow_succ]
    omega

theorem leBytes_leValue (w : List U8) : leBytes w.length (leValue w) = w := by
  induction w with
  | nil => rfl
  | cons b bs ih =>
    have hb : b.toNat < 256 := b.isLt
    have hdiv : (b.toNat + 256 * leValue bs) / 256 = leValue bs := by omega
    have hlow : BitVec.ofNat 8 (b.toNat + 256 * leValue bs) = b := by
      apply BitVec.eq_of_toNat_eq
      rw [BitVec.toNat_ofNat]
      omega
    rw [List.length_cons, leBytes, leValue, hdiv, hlow, ih]

theorem leValue_leBytes {n v : Nat} (h : v < 256 ^ n) : leValue (leBytes n v) = v := by
  induction n generalizing v with
  | zero =>
    have hv : v = 0 := by simpa using h
    rw [hv]
    rfl
  | succ n ih =>
    rw [Nat.pow_succ] at h
    rw [leBytes, leValue, ih (by omega), BitVec.toNat_ofNat]
    omega

def le64 (v : U64) : List U8 := leBytes 8 v.toNat

theorem le64_iff {w : List U8} {v : U64} : w.length = 8 ∧ v = BitVec.ofNat 64 (leValue w) ↔ w = le64 v := by
  constructor
  · intro ⟨hlen, hv⟩
    have hlt := leValue_lt w
    rw [hlen] at hlt
    rw [hv, le64, BitVec.toNat_ofNat, Nat.mod_eq_of_lt (by omega), ← hlen, leBytes_leValue]
  · intro h
    subst h
    refine ⟨leBytes_length _ _, ?_⟩
    rw [le64, leValue_leBytes (by have := v.isLt; omega), BitVec.ofNat_toNat, BitVec.setWidth_eq]

/-! ### The file -/

/-- `DTI2` -/
def MAGIC : List U8 := [0x44, 0x54, 0x49, 0x32]

def CONTEXT_SIZE : Nat := 0x320

def TLS_SIZE : Nat := 0x100

def NAME_SIZE : Nat := 0x21

def STACK_DUMP_SIZE : Nat := 0x100

structure Record where
  tid : U64
  context : List.Vector U8 CONTEXT_SIZE
  tlsAddress : U64
  tls : List.Vector U8 TLS_SIZE
  name : List.Vector U8 NAME_SIZE
  stackBottom : U64
  stackTop : U64
  stackDumpBase : U64
  stackDump : List.Vector U8 STACK_DUMP_SIZE
  trace : {l : List U8 // l.length ≤ 0x20}

def Record.bytes (r : Record) : List U8 :=
  le64 r.tid ++ (r.context.toList ++ (le64 r.tlsAddress ++ (r.tls.toList ++ (r.name.toList ++
    (le64 r.stackBottom ++ (le64 r.stackTop ++ (le64 r.stackDumpBase ++ (r.stackDump.toList ++
      (le64 (BitVec.ofNat 64 r.trace.1.length) ++ r.trace.1)))))))))

structure Dump where
  crashedTid : U64
  records : {l : List Record // l.length ≤ 0x60}

def Dump.bytes (d : Dump) : List U8 :=
  MAGIC ++ (leBytes 4 d.records.1.length ++ le64 d.crashedTid) ++ d.records.1.flatMap Record.bytes

/-! ### The reader -/

structure Thread where
  tid : U64
  registers : List U64
  fp : U64
  lr : U64
  sp : U64
  pc : U64
  pstate : U32
  tpidr : U64
  tlsAddress : U64
  tls : List U8
  name : List Char
  stackBottom : U64
  stackTop : U64
  stackDumpBase : U64
  stackDump : List U8
  traceCount : U64
  traceFragment : List U8
  deriving DecidableEq

inductive Error where
  | truncated (offset size remain : Nat)
  | badMagic (magic : List U8)
  | threadCount (count : Nat)
  | traceCount (tid count : U64)
  | trailing (parsed size : Nat)
  deriving DecidableEq

def hex (n : Nat) : String := String.ofList (Nat.toDigits 16 n)

/-- `repr` of one byte between single quotes. -/
def reprByte (b : U8) : String :=
  if b = 9 then "\\t"
  else if b = 10 then "\\n"
  else if b = 13 then "\\r"
  else if b = 39 ∨ b = 92 then String.ofList [Char.ofNat 92, Char.ofNat b.toNat]
  else if b < 32 ∨ 127 ≤ b then "\\x" ++ (if b < 16 then "0" else "") ++ hex b.toNat
  else String.ofList [Char.ofNat b.toNat]

/-- `repr` of bytes: between double quotes when there are single ones only among them. -/
def reprBytes (bytes : List U8) : String :=
  if bytes.contains 39 && !bytes.contains 34 then
    "b\"" ++ String.join (bytes.map fun b => if b = 39 then "'" else reprByte b) ++ "\""
  else "b'" ++ String.join (bytes.map reprByte) ++ "'"

/-- The text of the `ValueError`. -/
def Error.message : Error → String
  | .truncated offset size remain =>
    "truncated at 0x" ++ hex offset ++ ": need 0x" ++ hex size ++ " bytes, only 0x" ++ hex remain ++ " remain"
  | .badMagic magic => "bad magic " ++ reprBytes magic ++ "; expected " ++ reprBytes MAGIC
  | .threadCount count => "invalid thread count " ++ toString count ++ " (Atmosphere maximum is 96)"
  | .traceCount tid count => "thread " ++ hex tid.toNat ++ " has invalid trace count " ++ toString count.toNat
  | .trailing parsed size => "parsed 0x" ++ hex parsed ++ " bytes but file is 0x" ++ hex size

abbrev Parse := Reading Error U8

def take (size : Nat) : Parse (List U8) := Reading.take Error.truncated size

def u64 : Parse U64 := do
  let value ← take 8
  return BitVec.ofNat 64 (leValue value)

/-- What the decoder is in the middle of: the bits so far, how many bytes are missing, and
the range of the next one. -/
structure Sequence where
  bits : Nat
  missing : Nat
  low : U8 := 0x80
  high : U8 := 0xBF

/-- A byte where a character begins. -/
def lead (b : U8) : List Char × Option Sequence :=
  if b < 0x80 then ([Char.ofNat b.toNat], none)
  else if b < 0xC2 then (['�'], none)
  else if b < 0xE0 then ([], some { bits := b.toNat - 0xC0, missing := 1 })
  else if b < 0xF0 then
    ([], some { bits := b.toNat - 0xE0, missing := 2, low := if b = 0xE0 then 0xA0 else 0x80,
                high := if b = 0xED then 0x9F else 0xBF })
  else if b < 0xF5 then
    ([], some { bits := b.toNat - 0xF0, missing := 3, low := if b = 0xF0 then 0x90 else 0x80,
                high := if b = 0xF4 then 0x8F else 0xBF })
  else (['�'], none)

/-- `decode("utf-8", "replace")`: what no character begins with, and a character that is
not completed, becomes one replacement character. -/
def decode : Option Sequence → List U8 → List Char
  | none, [] => []
  | some _, [] => ['�']
  | none, b :: bs => (lead b).1 ++ decode (lead b).2 bs
  | some s, b :: bs =>
    if b < s.low ∨ s.high < b then '�' :: ((lead b).1 ++ decode (lead b).2 bs)
    else
      let bits := s.bits * 64 + (b.toNat - 0x80)
      if s.missing ≤ 1 then Char.ofNat bits :: decode none bs
      else decode (some { bits := bits, missing := s.missing - 1 }) bs

/-- `struct.unpack_from("<Q", context, offset)` -/
def quad (context : List U8) (offset : Nat) : U64 := BitVec.ofNat 64 (leValue ((context.drop offset).take 8))

/-- The thread with these fields. -/
def ofFields (tid : U64) (context : List U8) (tlsAddress : U64) (tls rawName : List U8)
    (stackBottom stackTop stackDumpBase : U64) (stackDump : List U8) (traceCount : U64) (traceFragment : List U8) :
    Thread where
  tid := tid
  registers := (List.range 29).map fun i => quad context (i * 8)
  fp := quad context (29 * 8)
  lr := quad context (30 * 8)
  sp := quad context (31 * 8)
  pc := quad context (32 * 8)
  pstate := BitVec.ofNat 32 (leValue ((context.drop (33 * 8)).take 4))
  tpidr := quad context (CONTEXT_SIZE - 8)
  tlsAddress := tlsAddress
  tls := tls
  name := decode none (rawName.takeWhile fun b => b != 0)
  stackBottom := stackBottom
  stackTop := stackTop
  stackDumpBase := stackDumpBase
  stackDump := stackDump
  traceCount := traceCount
  traceFragment := traceFragment

/-- One round of the loop over the threads. -/
def thread : Parse Thread := do
  let tid ← u64
  let context ← take CONTEXT_SIZE
  let tlsAddress ← u64
  let tls ← take TLS_SIZE
  let rawName ← take NAME_SIZE
  let stackBottom ← u64
  let stackTop ← u64
  let stackDumpBase ← u64
  let stackDump ← take STACK_DUMP_SIZE
  let traceCount ← u64
  if traceCount.toNat > 0x20 then throw (.traceCount tid traceCount)
  else do
    let traceFragment ← take traceCount.toNat
    return ofFields tid context tlsAddress tls rawName stackBottom stackTop stackDumpBase stackDump traceCount
      traceFragment

/-- The header, and a thread for each that it counts. -/
def threads : Parse (U64 × List Thread) := do
  let header ← take 16
  if header.take 4 ≠ MAGIC then throw (.badMagic (header.take 4))
  else if leValue ((header.drop 4).take 4) > 0x60 then throw (.threadCount (leValue ((header.drop 4).take 4)))
  else do
    let threads ← thread.times (leValue ((header.drop 4).take 4))
    return (BitVec.ofNat 64 (leValue (header.drop 8)), threads)

def parse (data : List U8) : Except Error (U64 × List Thread × Nat) :=
  match threads ⟨0, data⟩ with
  | .error e => .error e
  | .ok ((crashedTid, threads), reader) =>
    if reader.offset ≠ data.length then .error (.trailing reader.offset data.length)
    else .ok (crashedTid, threads, data.length)

/-- What the tool keeps of a record. -/
def Record.kept (r : Record) : Thread :=
  ofFields r.tid r.context.toList r.tlsAddress r.tls.toList r.name.toList r.stackBottom r.stackTop r.stackDumpBase
    r.stackDump.toList (BitVec.ofNat 64 r.trace.1.length) r.trace.1

/-! ### What is accepted -/

/-- The error says where data is missing, and how much of it there is. -/
def Starved (total : Nat) (e : Error) : Prop :=
  ∃ offset size remain, e = .truncated offset size remain ∧ remain < size ∧ offset + remain = total

theorem take_reads (size : Nat) : Reads Starved (take size) fun w a => w.length = size ∧ a = w :=
  Reads.take (fun offset size left h => ⟨offset, size, left, rfl, h, rfl⟩) size

theorem u64_reads : Reads Starved u64 fun w v => w = le64 v := by
  refine ((take_reads 8).bind fun value => Reads.pure _).congr fun w v => ⟨?_, fun h => ?_⟩
  · intro ⟨u, t, value, hw, hu, ht, hv⟩
    subst hw ht
    rw [List.append_nil]
    exact le64_iff.mp ⟨hu.1, hu.2 ▸ hv⟩
  · obtain ⟨hlen, hv⟩ := le64_iff.mpr h
    exact ⟨w, [], w, (List.append_nil w).symm, ⟨hlen, rfl⟩, rfl, hv⟩

theorem thread_reads : Reads Starved thread fun w t => ∃ r : Record, w = r.bytes ∧ t = r.kept := by
  apply Reads.congr
  · rw [thread]
    exact u64_reads.bind fun tid => (take_reads CONTEXT_SIZE).bind fun context => u64_reads.bind fun tlsAddress =>
      (take_reads TLS_SIZE).bind fun tls => (take_reads NAME_SIZE).bind fun rawName => u64_reads.bind fun stackBottom =>
      u64_reads.bind fun stackTop => u64_reads.bind fun stackDumpBase => (take_reads STACK_DUMP_SIZE).bind fun stackDump =>
      u64_reads.bind fun traceCount => Reads.refuse (traceCount.toNat > 0x20) (.traceCount tid traceCount)
        ((take_reads traceCount.toNat).bind fun traceFragment => Reads.pure _)
  intro w t
  constructor
  · intro ⟨_, _, tid, hw, htid, _, _, context, h₁, ⟨hcontext, hc⟩, _, _, tlsAddress, h₂, htlsAddress, _, _, tls, h₃,
      ⟨htls, ht⟩, _, _, rawName, h₄, ⟨hname, hn⟩, _, _, stackBottom, h₅, hbottom, _, _, stackTop, h₆, htop, _, _,
      stackDumpBase, h₇, hbase, _, _, stackDump, h₈, ⟨hdump, hd⟩, _, _, traceCount, h₉, hcount, hle, trace, _,
      traceFragment, h₁₀, ⟨htrace, hf⟩, hnil, hthread⟩
    subst hc ht hn hd hf hnil
    have hfew : traceFragment.length ≤ 0x20 := by omega
    have hvalue : BitVec.ofNat 64 traceFragment.length = traceCount := by
      rw [htrace, BitVec.ofNat_toNat, BitVec.setWidth_eq]
    subst hvalue
    refine ⟨⟨tid, ⟨context, hcontext⟩, tlsAddress, ⟨tls, htls⟩, ⟨rawName, hname⟩, stackBottom, stackTop, stackDumpBase,
      ⟨stackDump, hdump⟩, ⟨traceFragment, hfew⟩⟩, ?_, hthread⟩
    rw [hw, htid, h₁, h₂, htlsAddress, h₃, h₄, h₅, hbottom, h₆, htop, h₇, hbase, h₈, h₉, hcount, h₁₀, List.append_nil]
    rfl
  · intro ⟨r, hw, ht⟩
    have hle := r.trace.2
    have hcount : (BitVec.ofNat 64 r.trace.1.length).toNat = r.trace.1.length := by
      rw [BitVec.toNat_ofNat, Nat.mod_eq_of_lt (by omega)]
    exact ⟨_, _, r.tid, hw, rfl, _, _, r.context.toList, rfl, ⟨r.context.2, rfl⟩, _, _, r.tlsAddress, rfl, rfl, _, _,
      r.tls.toList, rfl, ⟨r.tls.2, rfl⟩, _, _, r.name.toList, rfl, ⟨r.name.2, rfl⟩, _, _, r.stackBottom, rfl, rfl, _, _,
      r.stackTop, rfl, rfl, _, _, r.stackDumpBase, rfl, rfl, _, _, r.stackDump.toList, rfl, ⟨r.stackDump.2, rfl⟩, _, _,
      BitVec.ofNat 64 r.trace.1.length, rfl, rfl, by omega, r.trace.1, [], r.trace.1, (List.append_nil _).symm,
      ⟨hcount.symm, rfl⟩, rfl, ht⟩

/-- Records, one after the other. -/
theorem records_iff (ws : List (List U8)) (ts : List Thread) :
    List.Forall₂ (fun w t => ∃ r : Record, w = r.bytes ∧ t = r.kept) ws ts ↔
      ∃ rs : List Record, ws = rs.map Record.bytes ∧ ts = rs.map Record.kept := by
  constructor
  · intro h
    induction h with
    | nil => exact ⟨[], rfl, rfl⟩
    | cons hfirst _ ih =>
      obtain ⟨r, rfl, rfl⟩ := hfirst
      obtain ⟨rs, rfl, rfl⟩ := ih
      exact ⟨r :: rs, rfl, rfl⟩
  · intro ⟨rs, hws, hts⟩
    subst hws hts
    rw [List.forall₂_map_left_iff, List.forall₂_map_right_iff]
    exact List.forall₂_same.mpr fun r _ => ⟨r, rfl, rfl⟩

/-- The header of a file with `count` threads. -/
def header (count : Nat) (crashedTid : U64) : List U8 := MAGIC ++ (leBytes 4 count ++ le64 crashedTid)

theorem header_of {w : List U8} (hlen : w.length = 16) (hmagic : w.take 4 = MAGIC) :
    w = header (leValue ((w.drop 4).take 4)) (BitVec.ofNat 64 (leValue (w.drop 8))) := by
  have hcount := leBytes_leValue ((w.drop 4).take 4)
  rw [show ((w.drop 4).take 4).length = 4 by simp [hlen]] at hcount
  have hcrashed := le64_iff.mp ⟨(by simp [hlen] : (w.drop 8).length = 8), rfl⟩
  rw [header, hcount, ← hcrashed, ← hmagic, ← List.drop_drop (i := 4) (j := 4), List.take_append_drop,
    List.take_append_drop]

theorem header_parts {count : Nat} (hcount : count ≤ 0x60) (crashedTid : U64) :
    (header count crashedTid).length = 16 ∧ (header count crashedTid).take 4 = MAGIC ∧
      leValue (((header count crashedTid).drop 4).take 4) = count ∧
      BitVec.ofNat 64 (leValue ((header count crashedTid).drop 8)) = crashedTid := by
  have hdrop : (header count crashedTid).drop 4 = leBytes 4 count ++ le64 crashedTid := List.drop_left' rfl
  have hlen : (leBytes 4 count).length = 4 := leBytes_length 4 count
  refine ⟨?_, List.take_left' rfl, ?_, ?_⟩
  · rw [header, List.length_append, List.length_append, hlen, le64, leBytes_length]
    rfl
  · rw [hdrop, List.take_left' hlen, leValue_leBytes (by omega)]
  · rw [show 8 = 4 + 4 from rfl, ← List.drop_drop, hdrop, List.drop_left' hlen]
    exact (le64_iff.mpr rfl).2.symm

theorem threads_reads : Reads Starved threads fun w out =>
    ∃ d : Dump, w = d.bytes ∧ out = (d.crashedTid, d.records.1.map Record.kept) := by
  apply Reads.congr
  · rw [threads]
    exact (take_reads 16).bind fun w => Reads.refuse (w.take 4 ≠ MAGIC) (.badMagic (w.take 4))
      (Reads.refuse (leValue ((w.drop 4).take 4) > 0x60) (.threadCount (leValue ((w.drop 4).take 4)))
        ((thread_reads.times _).bind fun threads => Reads.pure _))
  intro w out
  constructor
  · intro ⟨_, _, u, hw, ⟨hlen, hu⟩, hmagic, hcount, _, _, ts, hv, ⟨hmany, ws, hws, hall⟩, hnil, hout⟩
    subst hu hnil
    obtain ⟨rs, hrs, hts⟩ := (records_iff ws ts).mp hall
    have hlength : rs.length = leValue ((u.drop 4).take 4) := by rw [← hmany, hts, List.length_map]
    have hfew : rs.length ≤ 0x60 := by omega
    refine ⟨⟨BitVec.ofNat 64 (leValue (u.drop 8)), rs, hfew⟩, ?_, hts ▸ hout⟩
    calc w = u ++ (rs.map Record.bytes).flatten := by rw [hw, hv, List.append_nil, hws, hrs]
      _ = header rs.length (BitVec.ofNat 64 (leValue (u.drop 8))) ++ rs.flatMap Record.bytes := by
        rw [hlength, ← header_of hlen (not_not.mp hmagic), List.flatMap_def]
  · intro ⟨d, hw, hout⟩
    have hle := d.records.2
    obtain ⟨hlen, hmagic, hcount, hcrashed⟩ := header_parts hle d.crashedTid
    refine ⟨header d.records.1.length d.crashedTid, _, _, hw, ⟨hlen, rfl⟩, not_not.mpr hmagic, by omega, _, [],
      d.records.1.map Record.kept, (List.append_nil _).symm, ⟨?_, d.records.1.map Record.bytes, ?_, ?_⟩, rfl, ?_⟩
    · rw [List.length_map, hcount]
    · rw [List.flatMap_def]
    · exact (records_iff _ _).mpr ⟨d.records.1, rfl, rfl⟩
    · rw [hout, hcrashed]

/-- **The files that are accepted are those of dumps**, and what is read off one is what
the tool keeps of its dump. -/
theorem parse_ok_iff (data : List U8) (out : U64 × List Thread × Nat) :
    parse data = .ok out ↔
      ∃ d : Dump, data = d.bytes ∧ out = (d.crashedTid, d.records.1.map Record.kept, data.length) := by
  rw [parse]
  constructor
  · intro h
    cases hread : threads ⟨0, data⟩ with
    | error e =>
      rw [hread] at h
      cases h
    | ok found =>
      obtain ⟨⟨crashedTid, ts⟩, reader⟩ := found
      rw [hread] at h
      obtain ⟨w, ⟨d, hw, hd⟩, hleft, hoffset⟩ := threads_reads.sound hread
      dsimp only at h hleft hoffset
      split at h
      · cases h
      · next hend =>
        have hnone : reader.left = [] := by
          apply List.eq_nil_of_length_eq_zero
          have hsum := congrArg List.length hleft
          rw [List.length_append] at hsum
          omega
        obtain ⟨rfl, rfl⟩ := Prod.mk.inj hd
        cases h
        exact ⟨d, by rw [hleft, hnone, List.append_nil, hw], rfl⟩
  · intro ⟨d, hdata, hout⟩
    have hread := threads_reads.complete ⟨d, rfl, rfl⟩ 0 []
    rw [List.append_nil, ← hdata, Nat.zero_add] at hread
    rw [hread, hout]
    exact if_neg (not_not.mpr rfl)

/-- **A file that is cut short, or that goes on, is refused**: the first for the want of
data where it ends, the second for what its threads do not account for. -/
theorem parse_cut (d : Dump) :
    (∀ p q, d.bytes = p ++ q → q ≠ [] → ∃ e, parse p = .error e ∧ Starved p.length e) ∧
      ∀ q, q ≠ [] → parse (d.bytes ++ q) = .error (.trailing d.bytes.length (d.bytes.length + q.length)) := by
  refine ⟨fun p q hcut hq => ?_, fun q hq => ?_⟩
  · obtain ⟨e, he, hstarved⟩ := threads_reads.starves ⟨d, hcut.symm, rfl⟩ hq 0
    refine ⟨e, ?_, by rwa [Nat.zero_add] at hstarved⟩
    rw [parse, he]
  · have hread := threads_reads.complete ⟨d, rfl, rfl⟩ 0 q
    have hpos := List.length_pos_iff.mpr hq
    rw [parse, hread, Nat.zero_add, List.length_append]
    exact if_pos (by dsimp only; omega)

end SysZerotier.Tools.Dti2
