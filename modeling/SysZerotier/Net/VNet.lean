import SysZerotier.Net.Checksum

/-! The virtual network interface: its state, its packet pool and its socket
table (`source/net/vnet.hpp`, `source/net/vnet.cpp`).

The C arrays are functions from indices; the sizes bound the loops, and that no
index leaves them is a theorem about reachable states, not part of the types.
The pool is the source's: one free list and a queue per socket, all threaded
through the `next` fields, with `-1` for "none".

`m_emit` is a callback that never calls back. Whether one is installed is
`emitSet`; functions that may call it return the frames they hand it. -/
namespace SysZerotier.Net

def MaxSockets : Nat := 8
def PoolPackets : Nat := 32
def MaxDatagram : Nat := 2048
def ArpEntries : Nat := 16
def ReasmSlots : Nat := 4
def ReasmMax : Nat := 2176
def MaxFrame : Nat := 1520

def InvalidSocket : Int := -1

/-- One call of `m_emit`. -/
structure Frame where
  dstMac : U64
  etherType : U16
  payload : List U8
  deriving DecidableEq

/-- A UDP payload and where it came from. -/
structure Datagram where
  bytes : List U8
  srcIp : U32
  srcPort : U16
  deriving DecidableEq

structure Stats where
  rxFrames : U32 := 0
  rxIp : U32 := 0
  rxUdp : U32 := 0
  rxArp : U32 := 0
  rxIcmp : U32 := 0
  txFrames : U32 := 0
  txUdp : U32 := 0
  txArp : U32 := 0
  txIcmp : U32 := 0
  dropNotForUs : U32 := 0
  dropBadChecksum : U32 := 0
  dropNoSocket : U32 := 0
  dropNoBuffer : U32 := 0
  dropTooBig : U32 := 0
  dropMalformed : U32 := 0
  dropReasm : U32 := 0
  lastNoSocketSrcIp : U32 := 0
  lastNoSocketSrcPort : U16 := 0
  lastNoSocketDstPort : U16 := 0
  lastNoSocketLen : U16 := 0
  deriving DecidableEq

structure Pkt where
  len : U16
  srcIp : U32
  srcPort : U16
  next : Int
  data : Mem

structure Socket where
  used : Bool := false
  broadcast : Bool := false
  localIp : U32 := 0
  localPort : U16 := 0
  qHead : Int := 0
  qTail : Int := 0
  qCount : Int := 0
  deriving DecidableEq

structure ArpEntry where
  ip : U32 := 0
  mac : U64 := 0
  lastUsed : U32 := 0
  deriving DecidableEq

structure Reasm where
  used : Bool
  srcIp : U32
  dstIp : U32
  id : U16
  proto : U8
  received : U16
  total : U16
  age : U32
  data : Mem

structure VNet where
  emitSet : Bool
  configured : Bool
  mac : U64
  ip : U32
  netmask : U32
  mtu : U16
  echoSeq : U16
  ipId : U16
  nextEphemeral : U16
  tick : U32
  socks : Nat → Socket
  pool : Nat → Pkt
  freeList : Int
  arp : Nat → ArpEntry
  reasm : Nat → Reasm
  stats : Stats

/-- A socket with an empty queue. -/
def Socket.empty : Socket := { qHead := -1, qTail := -1 }

namespace VNet

def count (s : VNet) (f : Stats → Stats) : VNet := { s with stats := f s.stats }

def setSock (s : VNet) (i : Nat) (k : Socket) : VNet :=
  { s with socks := Function.update s.socks i k }

def setPkt (s : VNet) (i : Nat) (k : Pkt) : VNet :=
  { s with pool := Function.update s.pool i k }

/-! ### Lifecycle -/

/-- The object as constructed, before `reset`: every field zero but the MTU, the
IP id and the first ephemeral port. -/
def fresh : VNet where
  emitSet := false
  configured := false
  mac := 0
  ip := 0
  netmask := 0
  mtu := 1500
  echoSeq := 0
  ipId := 1
  nextEphemeral := 49152
  tick := 0
  socks := fun _ => {}
  pool := fun _ => ⟨0, 0, 0, 0, Mem.zero⟩
  freeList := 0
  arp := fun _ => {}
  reasm := fun _ => ⟨false, 0, 0, 0, 0, 0, 0, 0, Mem.zero⟩
  stats := {}

/-- A reset leaves the emit callback, the echo sequence number and the stale
contents of pool and reassembly buffers, their ages included. -/
def reset (s : VNet) : VNet :=
  { s with
    configured := false
    mac := 0
    ip := 0
    netmask := 0
    mtu := 1500
    ipId := 1
    nextEphemeral := 49152
    tick := 0
    socks := fun _ => Socket.empty
    pool := fun i => { s.pool i with next := if i + 1 < PoolPackets then (i + 1 : Nat) else -1 }
    freeList := 0
    arp := fun _ => {}
    reasm := fun i => { s.reasm i with used := false }
    stats := {} }

def configure (s : VNet) (mac : U64) (ip netmask : U32) (mtu : U16) : VNet :=
  { s with
    mac := mac
    ip := ip
    netmask := netmask
    mtu := if 576 ≤ mtu.toNat ∧ mtu.toNat ≤ MaxFrame - 14 then mtu else 1500
    configured := true }

def setEmit (s : VNet) : VNet := { s with emitSet := true }

/-! ### Address helpers -/

def broadcastIp (s : VNet) : U32 := s.ip ||| ~~~s.netmask

def isBroadcast (s : VNet) (dstIp : U32) : Bool :=
  dstIp == IpBroadcast || (s.netmask != 0 && dstIp == (s.ip ||| ~~~s.netmask))

def isForUs (s : VNet) (dstIp : U32) : Bool := dstIp == s.ip || s.isBroadcast dstIp

def lookupMac (s : VNet) (ip : U32) : U64 :=
  if s.isBroadcast ip then MacBroadcast
  else
    match (List.range ArpEntries).find? fun i => (s.arp i).mac != 0 && (s.arp i).ip == ip with
    | some i => (s.arp i).mac
    | none => 0

/-- The scan of `learnMac` over the entries left to visit: the entry that already
holds `ip` (`inl`), or the one to overwrite (`inr`). It stops at a free entry. -/
def learnScan (arp : Nat → ArpEntry) (ip : U32) : List Nat → Nat → Nat ⊕ Nat
  | [], oldest => .inr oldest
  | i :: rest, oldest =>
    if (arp i).mac ≠ 0 ∧ (arp i).ip = ip then .inl i
    else if (arp i).mac = 0 then .inr i
    else learnScan arp ip rest (if (arp i).lastUsed < (arp oldest).lastUsed then i else oldest)

def learnMac (s : VNet) (ip : U32) (mac : U64) : VNet :=
  if ip = 0 ∨ mac = 0 ∨ mac = MacBroadcast then s
  else
    match learnScan s.arp ip (List.range ArpEntries) 0 with
    | .inl i =>
      { s with
        arp := Function.update s.arp i { s.arp i with mac := mac, lastUsed := s.tick + 1 }
        tick := s.tick + 1 }
    | .inr i =>
      { s with arp := Function.update s.arp i ⟨ip, mac, s.tick + 1⟩, tick := s.tick + 1 }

/-! ### Packet pool -/

def allocPkt (s : VNet) : VNet × Int :=
  if s.freeList < 0 then (s, -1)
  else
    let idx := s.freeList.toNat
    ({ s.setPkt idx { s.pool idx with next := -1 } with freeList := (s.pool idx).next }, s.freeList)

def freePkt (s : VNet) (idx : Int) : VNet :=
  if idx < 0 ∨ (PoolPackets : Int) ≤ idx then s
  else { s.setPkt idx.toNat { s.pool idx.toNat with next := s.freeList } with freeList := idx }

/-! ### Socket table -/

def pushToSocket (s : VNet) (sockIdx : Nat) (srcIp : U32) (srcPort : U16) (data : Mem) (len : Nat) :
    VNet :=
  if MaxDatagram < len then s.count fun t => { t with dropTooBig := t.dropTooBig + 1 }
  else
    match s.allocPkt with
    | (s, idx) =>
      if idx < 0 then s.count fun t => { t with dropNoBuffer := t.dropNoBuffer + 1 }
      else
        let s := s.setPkt idx.toNat
          { len := BitVec.ofNat 16 len, srcIp := srcIp, srcPort := srcPort, next := -1,
            data := memcpy (s.pool idx.toNat).data 0 data len }
        let k := s.socks sockIdx
        if k.qTail < 0 then
          s.setSock sockIdx { k with qHead := idx, qTail := idx, qCount := k.qCount + 1 }
        else
          (s.setPkt k.qTail.toNat { s.pool k.qTail.toNat with next := idx }).setSock sockIdx
            { k with qTail := idx, qCount := k.qCount + 1 }

def udpOpen (s : VNet) : VNet × Int :=
  match (List.range MaxSockets).find? fun i => !(s.socks i).used with
  | some i => (s.setSock i { Socket.empty with used := true }, i)
  | none => (s, InvalidSocket)

/-- `vfd < 0 || vfd >= MaxSockets || !m_socks[vfd].used`, negated. -/
def isOpen (s : VNet) (vfd : Int) : Bool :=
  decide (0 ≤ vfd) && decide (vfd < MaxSockets) && (s.socks vfd.toNat).used

def portTaken (s : VNet) (port : U16) : Bool :=
  (List.range MaxSockets).any fun i => (s.socks i).used && (s.socks i).localPort == port

/-- The search for an ephemeral port: the port found, zero if the tries run out,
and the counter it leaves. -/
def ephemeralPort (s : VNet) : Nat → U16 → U16 × U16
  | 0, next => (0, next)
  | tries + 1, next =>
    let after := if next + 1 = 0 then 49152 else next + 1
    if s.portTaken next then s.ephemeralPort tries after else (next, after)

def udpBind (s : VNet) (vfd : Int) (ip : U32) (port : U16) : VNet × Int :=
  if !s.isOpen vfd then (s, -1)
  else
    let found := if port = 0 then s.ephemeralPort 4096 s.nextEphemeral else (port, s.nextEphemeral)
    let s := { s with nextEphemeral := found.2 }
    if found.1 = 0 then (s, -1)
    else
      (s.setSock vfd.toNat
        { s.socks vfd.toNat with localIp := if ip = s.ip then 0 else ip, localPort := found.1 }, 0)

def udpSetBroadcast (s : VNet) (vfd : Int) (on : Bool) : VNet :=
  if s.isOpen vfd then s.setSock vfd.toNat { s.socks vfd.toNat with broadcast := on } else s

def udpLocalPort (s : VNet) (vfd : Int) : U16 :=
  if s.isOpen vfd then (s.socks vfd.toNat).localPort else 0

def udpReadable (s : VNet) (vfd : Int) : Bool :=
  s.isOpen vfd && decide (0 < (s.socks vfd.toNat).qCount)

/-- `none` is the return value `-1`; otherwise the value returned is the number of
bytes stored through `buf`. -/
def udpRecvFrom (s : VNet) (vfd : Int) (max : Nat) (peek : Bool) : VNet × Option Datagram :=
  if !s.isOpen vfd then (s, none)
  else
    let k := s.socks vfd.toNat
    if k.qHead < 0 then (s, none)
    else
      let pk := s.pool k.qHead.toNat
      let n := if pk.len.toNat < max then pk.len.toNat else max
      let received : Datagram := ⟨pk.data.bytes n, pk.srcIp, pk.srcPort⟩
      if peek then (s, some received)
      else
        ((s.setSock vfd.toNat
          { k with
            qHead := pk.next
            qTail := if pk.next < 0 then -1 else k.qTail
            qCount := k.qCount - 1 }).freePkt k.qHead, some received)

/-- `while (idx >= 0)` of `udpClose`, at most `fuel` rounds. -/
def freeQueue (s : VNet) : Nat → Int → VNet
  | 0, _ => s
  | fuel + 1, idx =>
    if idx < 0 then s else (s.freePkt idx).freeQueue fuel (s.pool idx.toNat).next

/-- A queue is never longer than the pool, so the fuel is never what ends it. -/
def udpClose (s : VNet) (vfd : Int) : VNet :=
  if !s.isOpen vfd then s
  else (s.freeQueue PoolPackets (s.socks vfd.toNat).qHead).setSock vfd.toNat Socket.empty

end VNet

end SysZerotier.Net
