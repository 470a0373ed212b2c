import SysZerotier.Library.Rows
import SysZerotier.Net.VNet
import SysZerotier.Port.Printing

/-! The status file (`Port::writeStatus` in `source/zt_port.cpp`).

The file is written again when what it says of the connection has changed, every ten
seconds otherwise, and always at the end of a switch of networks. Its text is cut off by
the buffer it is formatted in, and `head_fits` says how far it is safe: to the line of
the address. -/
namespace SysZerotier.Port
open Net Library Config

/-! ### Names -/

/-- The error numbers with a name of their own. Which numbers they are, the toolchain says. -/
inductive Errno where
  | EACCES | EAGAIN | EBADF | EINVAL | EIO | EMSGSIZE | ENOBUFS | ENOTSOCK | EPERM | EPIPE | ETIMEDOUT
  | ECONNREFUSED | ECONNRESET | ECONNABORTED | ENETDOWN | ENETUNREACH | ENOTCONN | EALREADY | EINPROGRESS
  | EHOSTUNREACH | EDESTADDRREQ | ENETRESET | EHOSTDOWN
  deriving DecidableEq

def Errno.name : Errno → Text
  | .EACCES => ascii "EACCES"
  | .EAGAIN => ascii "EAGAIN"
  | .EBADF => ascii "EBADF"
  | .EINVAL => ascii "EINVAL"
  | Errno.EIO => ascii "EIO"
  | .EMSGSIZE => ascii "EMSGSIZE"
  | .ENOBUFS => ascii "ENOBUFS"
  | .ENOTSOCK => ascii "ENOTSOCK"
  | .EPERM => ascii "EPERM"
  | .EPIPE => ascii "EPIPE"
  | .ETIMEDOUT => ascii "ETIMEDOUT"
  | .ECONNREFUSED => ascii "ECONNREFUSED"
  | .ECONNRESET => ascii "ECONNRESET"
  | .ECONNABORTED => ascii "ECONNABORTED"
  | .ENETDOWN => ascii "ENETDOWN"
  | .ENETUNREACH => ascii "ENETUNREACH"
  | .ENOTCONN => ascii "ENOTCONN"
  | .EALREADY => ascii "EALREADY"
  | .EINPROGRESS => ascii "EINPROGRESS"
  | .EHOSTUNREACH => ascii "EHOSTUNREACH"
  | .EDESTADDRREQ => ascii "EDESTADDRREQ"
  | .ENETRESET => ascii "ENETRESET"
  | .EHOSTDOWN => ascii "EHOSTDOWN"

def Errno.all : List Errno :=
  [.EACCES, .EAGAIN, .EBADF, .EINVAL, Errno.EIO, .EMSGSIZE, .ENOBUFS, .ENOTSOCK, .EPERM, .EPIPE, .ETIMEDOUT, .ECONNREFUSED,
   .ECONNRESET, .ECONNABORTED, .ENETDOWN, .ENETUNREACH, .ENOTCONN, .EALREADY, .EINPROGRESS, .EHOSTUNREACH,
   .EDESTADDRREQ, .ENETRESET, .EHOSTDOWN]

def errnoName (number : Errno → U32) (e : U32) : Text :=
  if e = 0 then ascii "ok"
  else
    match Errno.all.find? fun name => number name == e with
    | some name => name.name
    | none => ascii "?"

/-- `ZT_VirtualNetworkStatus`; the port has `-1` before there is one. -/
def netStatusName (st : U32) : Text :=
  if st = 0 then ascii "requesting-configuration"
  else if st = 1 then ascii "ok"
  else if st = 2 then ascii "access-denied (authorise this node in ZeroTier Central)"
  else if st = 3 then ascii "not-found (check the network id in config.ini)"
  else if st = 4 then ascii "port-error"
  else if st = 5 then ascii "client-too-old"
  else if st = 6 then ascii "authentication-required"
  else ascii "no-config-yet"

/-! ### The text -/

/-- On a little-endian machine. -/
def ntohl (v : U32) : U32 :=
  (v &&& 0xFF) <<< 24 ||| (v >>> 8 &&& 0xFF) <<< 16 ||| (v >>> 16 &&& 0xFF) <<< 8 ||| v >>> 24

/-- `__builtin_popcount` -/
def popcount (v : U32) : Nat := (List.range 32).countP fun i => v.getLsbD i

/-- What the port has to report. The numbers printed with `%d` are two's complement. -/
structure Reported where
  /-- `armGetSystemTick()` -/
  tick : U64
  loops : U64
  wireFd : U32
  wireRecovering : Bool
  wireLocalPort : U16
  wireEphemeral : Bool
  wireTx : U32
  wireRx : U32
  wireTxFail : U32
  wireSkipV6 : U32
  wireErrno : U32
  wireLastDstIp : U32
  wireLastDstPort : U16
  natEnabled : Bool
  mappedPort : U16
  natAddress : U32
  natPublicPort : U16
  pollErr : U32
  pollErrno : U32
  pollZero : U32
  pollBad : U32
  nwid : U64
  online : Bool
  netStatus : U32
  lastError : U32
  vnet : VNet

namespace Reported

/-- The lines: what each is about, and what it says. -/
def fields (p : Reported) (number : Errno → U32) (writeFails : U32) : List (Text × Text) :=
  let s := p.vnet.stats
  [(ascii "uptime", dec (p.tick.toNat / (19200 * 1000)) ++ ascii " s   loops " ++ dec p.loops.toNat),
   (ascii "wire", ascii "fd " ++ signed p.wireFd.toInt ++ ascii "  " ++
      (if p.wireRecovering then ascii "paused" else ascii "running") ++ ascii "  local " ++ dec p.wireLocalPort.toNat ++
      ascii " (" ++ (if p.wireEphemeral then ascii "adaptive" else ascii "primary") ++ ascii ")  tx " ++
      dec p.wireTx.toNat ++ ascii "  rx " ++ dec p.wireRx.toNat ++ ascii "  fail " ++ dec p.wireTxFail.toNat ++
      ascii "  v6skip " ++ dec p.wireSkipV6.toNat ++ ascii "  errno " ++ signed p.wireErrno.toInt ++ ascii " " ++
      errnoName number p.wireErrno),
   (ascii "wirelast", ascii "dst " ++ dotted p.wireLastDstIp ++ ascii ":" ++ dec p.wireLastDstPort.toNat),
   (ascii "nat", (if p.natEnabled then ascii "enabled" else ascii "disabled") ++ ascii " local " ++
      dec p.mappedPort.toNat ++ ascii " public " ++ dotted (ntohl p.natAddress) ++ ascii ":" ++
      dec p.natPublicPort.toNat),
   (ascii "poll", ascii "err " ++ dec p.pollErr.toNat ++ ascii " (" ++ errnoName number p.pollErrno ++
      ascii ")  timeout " ++ dec p.pollZero.toNat ++ ascii "  hup " ++ dec p.pollBad.toNat),
   (ascii "writefail", dec writeFails.toNat),
   (ascii "network", hexText 16 p.nwid),
   (ascii "online", if p.online then ascii "yes" else ascii "no"),
   (ascii "netstatus", netStatusName p.netStatus),
   (ascii "lasterror", signed p.lastError.toInt),
   (ascii "address", dotted p.vnet.ip ++ ascii "/" ++ dec (popcount p.vnet.netmask)),
   (ascii "mac", hexText 12 p.vnet.mac),
   (ascii "rx", ascii "frames " ++ dec s.rxFrames.toNat ++ ascii "  ip " ++ dec s.rxIp.toNat ++ ascii "  udp " ++
      dec s.rxUdp.toNat ++ ascii "  arp " ++ dec s.rxArp.toNat ++ ascii "  icmp " ++ dec s.rxIcmp.toNat),
   (ascii "tx", ascii "frames " ++ dec s.txFrames.toNat ++ ascii "  udp " ++ dec s.txUdp.toNat ++ ascii "  arp " ++
      dec s.txArp.toNat ++ ascii "  icmp " ++ dec s.txIcmp.toNat),
   (ascii "drops", ascii "nosock " ++ dec s.dropNoSocket.toNat ++ ascii "  nobuf " ++ dec s.dropNoBuffer.toNat ++
      ascii "  csum " ++ dec s.dropBadChecksum.toNat ++ ascii "  malformed " ++ dec s.dropMalformed.toNat),
   (ascii "nosock", ascii "last " ++ dotted s.lastNoSocketSrcIp ++ ascii ":" ++ dec s.lastNoSocketSrcPort.toNat ++
      ascii " -> port " ++ dec s.lastNoSocketDstPort.toNat ++ ascii " len " ++ dec s.lastNoSocketLen.toNat)]

end Reported

/-- A line; what it says begins in the eleventh column. -/
def row (field : Text × Text) : Text := field.1 ++ List.replicate (10 - field.1.length) 32 ++ field.2

/-- `char text[768]`, less the zero at its end. -/
def statusRoom : Nat := 767

def Reported.text (p : Reported) (number : Errno → U32) (writeFails : U32) : Text :=
  (page 10 ((p.fields number writeFails).map row)).take statusRoom

/-! ### How long it gets -/

theorem errnoName_prints (number : Errno → U32) (e : U32) : Prints 12 (errnoName number e) := by
  have hname : ∀ name ∈ Errno.all, Prints 12 name.name := by decide +kernel
  rw [errnoName]
  split
  · decide +kernel
  · split
    · next name hfind => exact hname name (List.mem_of_find?_eq_some hfind)
    · decide +kernel

theorem netStatusName_prints (st : U32) : Prints 57 (netStatusName st) := by
  rw [netStatusName]
  repeat' split
  all_goals decide +kernel

theorem popcount_prints (v : U32) : Prints 2 (dec (popcount v)) := by
  have hle : popcount v ≤ 32 := List.countP_le_length
  exact dec_prints (by decide +kernel) (by omega)

/-- The lines up to the address, and how long what each says can get. -/
theorem head_prints (p : Reported) (number : Errno → U32) (writeFails : U32) :
    List.Forall₂ (fun field n => Prints n field.2) ((p.fields number writeFails).take 11)
      [51, 145, 25, 49, 65, 10, 16, 3, 57, 11, 18] := by
  refine .cons ?uptime (.cons ?wire (.cons ?wirelast (.cons ?nat (.cons ?poll (.cons (dec_prints32 _) (.cons
    (hexText_prints (by decide +kernel) _) (.cons ?online (.cons (netStatusName_prints _) (.cons (signed_prints32 _)
    (.cons ?address .nil))))))))))
  case uptime =>
    have huptime : Prints 20 (dec (p.tick.toNat / (19200 * 1000))) :=
      dec_prints (by decide +kernel) (by have := p.tick.isLt; omega)
    exact huptime |>.append (m := 11) (by decide +kernel) |>.append (dec_prints64 _)
  case wire =>
    have hfd : Prints 3 (ascii "fd ") := by decide +kernel
    exact hfd |>.append (signed_prints32 _) |>.append (m := 2) (by decide +kernel)
      |>.append (m := 7) (.ite (by decide +kernel) (by decide +kernel)) |>.append (m := 8) (by decide +kernel) |>.append (dec_prints16 _)
      |>.append (m := 2) (by decide +kernel) |>.append (m := 8) (.ite (by decide +kernel) (by decide +kernel))
      |>.append (m := 6) (by decide +kernel) |>.append (dec_prints32 _) |>.append (m := 5) (by decide +kernel)
      |>.append (dec_prints32 _) |>.append (m := 7) (by decide +kernel) |>.append (dec_prints32 _)
      |>.append (m := 9) (by decide +kernel) |>.append (dec_prints32 _) |>.append (m := 8) (by decide +kernel)
      |>.append (signed_prints32 _) |>.append (m := 1) (by decide +kernel) |>.append (errnoName_prints number _)
  case wirelast =>
    have hdst : Prints 4 (ascii "dst ") := by decide +kernel
    exact hdst |>.append (dotted_prints _) |>.append (m := 1) (by decide +kernel) |>.append (dec_prints16 _)
  case nat =>
    have hnat : Prints 8 (if p.natEnabled then ascii "enabled" else ascii "disabled") :=
      .ite (by decide +kernel) (by decide +kernel)
    exact hnat |>.append (m := 7) (by decide +kernel) |>.append (dec_prints16 _) |>.append (m := 8) (by decide +kernel)
      |>.append (dotted_prints _) |>.append (m := 1) (by decide +kernel) |>.append (dec_prints16 _)
  case poll =>
    have herr : Prints 4 (ascii "err ") := by decide +kernel
    exact herr |>.append (dec_prints32 _) |>.append (m := 2) (by decide +kernel) |>.append (errnoName_prints number _)
      |>.append (m := 11) (by decide +kernel) |>.append (dec_prints32 _) |>.append (m := 6) (by decide +kernel)
      |>.append (dec_prints32 _)
  case online => exact .ite (by decide +kernel) (by decide +kernel)
  case address => exact dotted_prints _ |>.append (m := 1) (by decide +kernel) |>.append (popcount_prints _)

/-- A label that the overlay can look for. -/
def IsLabel (label : Text) : Prop := label ≠ [] ∧ (∀ c ∈ label, 32 < c.toNat) ∧ label.length ≤ 9

instance (label : Text) : Decidable (IsLabel label) :=
  decidable_of_iff ((!label.isEmpty && (label.all fun c => Nat.blt 32 c.toNat) && label.length.ble 9) = true)
    (by simp [IsLabel, and_assoc])

/-- The labels up to the address. -/
def headLabels : List Text :=
  [ascii "uptime", ascii "wire", ascii "wirelast", ascii "nat", ascii "poll", ascii "writefail", ascii "network",
   ascii "online", ascii "netstatus", ascii "lasterror", ascii "address"]

theorem map_fst_head (p : Reported) (number : Errno → U32) (writeFails : U32) :
    ((p.fields number writeFails).take 11).map Prod.fst = headLabels := rfl

theorem head_labels (p : Reported) (number : Errno → U32) (writeFails : U32) :
    ∀ field ∈ (p.fields number writeFails).take 11, IsLabel field.1 := by
  have hlabels : ∀ label ∈ headLabels, IsLabel label := by decide +kernel
  exact fun field h => hlabels field.1 (List.mem_map_of_mem h)

theorem row_prints {field : Text × Text} {n : Nat} (hlabel : IsLabel field.1) (h : Prints n field.2) :
    Prints (10 + n) (row field) := by
  refine Prints.append ⟨?_, fun c hc => ?_⟩ h
  · rw [List.length_append, List.length_replicate]
    have := hlabel.2.2
    omega
  · rcases List.mem_append.mp hc with hc | hc
    · exact (hlabel.2.1 c hc).le
    · rw [List.eq_of_mem_replicate hc]
      decide

theorem page_length {fields : List (Text × Text)} {bounds : List Nat} (hlabels : ∀ field ∈ fields, IsLabel field.1)
    (h : List.Forall₂ (fun field n => Prints n field.2) fields bounds) :
    (page 10 (fields.map row)).length ≤ (bounds.map (· + 11)).sum := by
  induction h with
  | nil => exact Nat.le_refl 0
  | @cons field n fields bounds hfirst _ ih =>
    have hrow := (row_prints (hlabels field List.mem_cons_self) hfirst).1
    have hrest := ih fun f hf => hlabels f (List.mem_cons_of_mem _ hf)
    rw [page] at hrest ⊢
    rw [List.map_cons, List.flatMap_cons, List.length_append, List.length_append, List.length_singleton,
      List.map_cons, List.sum_cons]
    omega

theorem prints_le {fields : List (Text × Text)} {bounds : List Nat} {m : Nat} (hle : ∀ n ∈ bounds, n ≤ m)
    (h : List.Forall₂ (fun field n => Prints n field.2) fields bounds) : ∀ field ∈ fields, Prints m field.2 := by
  induction h with
  | nil => exact fun _ hnone => absurd hnone List.not_mem_nil
  | cons hfirst _ ih =>
    obtain ⟨hn, hrest⟩ := List.forall_mem_cons.mp hle
    exact List.forall_mem_cons.mpr ⟨hfirst.mono hn, ih hrest⟩

theorem head_short (p : Reported) (number : Errno → U32) (writeFails : U32) :
    ∀ field ∈ (p.fields number writeFails).take 11, Prints 145 field.2 :=
  prints_le (by decide) (head_prints p number writeFails)

/-- The line of the address and those before it are never cut off. -/
theorem head_fits (p : Reported) (number : Errno → U32) (writeFails : U32) :
    (page 10 (((p.fields number writeFails).take 11).map row)).length ≤ statusRoom :=
  (page_length (head_labels p number writeFails) (head_prints p number writeFails)).trans (by decide +kernel)

/-! ### Writing it -/

structure Reporter where
  port : Reported
  lastStatusMs : Int
  lastStatusOnline : Bool
  lastStatusIp : U32
  lastStatusNetStatus : U32
  writeFails : U32
  file : File
  /-- Not in the source: what the file was written from, unless writing failed. -/
  printed : Option Reported

namespace Reporter

/-- Before the first call. -/
def start (port : Reported) (file : File) : Reporter where
  port := port
  lastStatusMs := 0
  lastStatusOnline := false
  lastStatusIp := 0
  lastStatusNetStatus := -2
  writeFails := 0
  file := file
  printed := none

def writeStatus (s : Reporter) (number : Errno → U32) (force : Bool) (now : Int) (faults : WriteFaults) : Reporter :=
  let changed := s.port.online != s.lastStatusOnline || s.port.vnet.ip != s.lastStatusIp ||
    s.port.netStatus != s.lastStatusNetStatus
  if !force && !changed && decide (now - s.lastStatusMs < 10000) then s
  else
    let written := writeWholeFile s.file (s.port.text number s.writeFails) faults
    { port := s.port
      lastStatusMs := now
      lastStatusOnline := s.port.online
      lastStatusIp := s.port.vnet.ip
      lastStatusNetStatus := s.port.netStatus
      writeFails := if written.2 then s.writeFails else s.writeFails + 1
      file := written.1
      printed := if written.2 then some s.port else none }

/-- What happens on the thread of the node. -/
inductive Event where
  /-- Anything else that is reported. -/
  | changed (port : Reported)
  /-- The join at the start or a switch of networks, whatever came of it. -/
  | switched (port : Reported) (now : Int) (faults : WriteFaults)
  /-- A pass of the loop. -/
  | pass (now : Int) (faults : WriteFaults)

def step (number : Errno → U32) (s : Reporter) : Event → Reporter
  | .changed port => { s with port := { port with nwid := s.port.nwid } }
  | .switched port now faults => ({ s with port := port }).writeStatus number true now faults
  | .pass now faults => s.writeStatus number false now faults

def run (number : Errno → U32) (s : Reporter) (es : List Event) : Reporter := es.foldl (step number) s

/-- What has been written is of the network the port is on and of what it compares with. -/
def Inv (number : Errno → U32) (s : Reporter) : Prop :=
  ∀ p ∈ s.printed, (∃ writeFails, s.file = some (p.text number writeFails)) ∧ p.nwid = s.port.nwid ∧
    p.online = s.lastStatusOnline ∧ p.vnet.ip = s.lastStatusIp ∧ p.netStatus = s.lastStatusNetStatus

theorem writeWholeFile_written {file : File} {text : Text} {faults : WriteFaults}
    (h : (writeWholeFile file text faults).2 = true) : (writeWholeFile file text faults).1 = some text := by
  obtain ⟨deleteFile, createFile, openFile, writeFile⟩ := faults
  rw [writeWholeFile] at h ⊢
  cases deleteFile <;> cases createFile <;> cases openFile <;> cases writeFile <;> cases file <;> simp_all

/-- After a call, what has been written is up to date. -/
theorem writeStatus_inv {number : Errno → U32} {s : Reporter} {force : Bool} (h : force = true ∨ s.Inv number)
    (now : Int) (faults : WriteFaults) :
    let t := s.writeStatus number force now faults
    t.Inv number ∧ t.port = s.port ∧ t.lastStatusOnline = s.port.online ∧ t.lastStatusIp = s.port.vnet.ip ∧
      t.lastStatusNetStatus = s.port.netStatus ∧ now - t.lastStatusMs < 10000 := by
  intro t
  by_cases hskip : (!force && !(s.port.online != s.lastStatusOnline || s.port.vnet.ip != s.lastStatusIp ||
      s.port.netStatus != s.lastStatusNetStatus) && decide (now - s.lastStatusMs < 10000)) = true
  · have ht : t = s := if_pos hskip
    simp only [Bool.and_eq_true, Bool.not_eq_true', Bool.or_eq_false_iff, bne_eq_false_iff_eq,
      decide_eq_true_eq] at hskip
    obtain ⟨⟨hforce, ⟨honline, hip⟩, hstatus⟩, hlate⟩ := hskip
    rw [ht]
    exact ⟨h.resolve_left (by simp [hforce]), rfl, honline.symm, hip.symm, hstatus.symm, hlate⟩
  · have ht : t = _ := if_neg hskip
    rw [ht]
    refine ⟨fun p hp => ?_, rfl, rfl, rfl, rfl, by dsimp only; omega⟩
    dsimp only at hp ⊢
    split at hp
    · next hwritten =>
      obtain rfl := Option.some.inj hp
      exact ⟨⟨s.writeFails, writeWholeFile_written hwritten⟩, rfl, rfl, rfl, rfl⟩
    · cases hp

theorem step_inv {number : Errno → U32} {s : Reporter} (h : s.Inv number) (e : Event) :
    (step number s e).Inv number := by
  cases e with
  | changed port => exact h
  | switched port now faults => exact (writeStatus_inv (.inl rfl) now faults).1
  | pass now faults => exact (writeStatus_inv (.inr h) now faults).1

theorem run_inv {number : Errno → U32} {s : Reporter} (h : s.Inv number) (es : List Event) :
    (s.run number es).Inv number := by
  induction es generalizing s with
  | nil => exact h
  | cons e es ih => exact ih (step_inv h e)

end Reporter

end SysZerotier.Port
