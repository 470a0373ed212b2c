import SysZerotier.Net.Receive
import SysZerotier.Library.Guard

/-! The packet path read a second time, every access guarded.

These are the functions `onFrame` reaches (`source/net/vnet.cpp`), under the same
names and in the same order, in `Guarded`: a buffer carries the size it was
declared with, an array index is checked against the array, an unsigned
subtraction against underflow, and a loop that runs out of fuel reports it.
`Safety` proves that no guard ever fails. -/
namespace SysZerotier.Net.Checked
open Library

abbrev Ptr := Buffer U8

/-- `u8 buf[size]`. -/
def buffer (size : Nat) : Ptr := ⟨Mem.zero, size⟩

/-! ### Bytes (`source/net/net.hpp`) -/

def rd16 (p : Ptr) (i : Nat) : Guarded U16 := do
  let hi ← p.get i
  let lo ← p.get (i + 1)
  return be16 hi lo

def rd32 (p : Ptr) (i : Nat) : Guarded U32 := do
  let hi ← rd16 p i
  let lo ← rd16 p (i + 2)
  return hi ++ lo

def wr16 (p : Ptr) (i : Nat) (v : U16) : Guarded Ptr := do
  let p ← p.put i (v.extractLsb' 8 8)
  p.put (i + 1) (v.extractLsb' 0 8)

def wr32 (p : Ptr) (i : Nat) (v : U32) : Guarded Ptr := do
  let p ← wr16 p i (v.extractLsb' 16 16)
  wr16 p (i + 2) (v.extractLsb' 0 16)

def macToBytes (mac : U64) (p : Ptr) (off : Nat) : Guarded Ptr :=
  p.copy off ⟨fun k => mac.extractLsb' (8 * (5 - k)) 8, 6⟩ 6

def macFromBytes (p : Ptr) : Guarded U64 := do
  let b0 ← p.get 0
  let b1 ← p.get 1
  let b2 ← p.get 2
  let b3 ← p.get 3
  let b4 ← p.get 4
  let b5 ← p.get 5
  return b0.setWidth 64 <<< 40 ||| b1.setWidth 64 <<< 32 ||| b2.setWidth 64 <<< 24 |||
    b3.setWidth 64 <<< 16 ||| b4.setWidth 64 <<< 8 ||| b5.setWidth 64

def sumWords (p : Ptr) : Nat → U32 → Guarded U32
  | 0, sum => return sum
  | 1, sum => do
    let hi ← p.get 0
    return sum + (hi.setWidth 32 <<< 8)
  | len + 2, sum => do
    let hi ← p.get 0
    let lo ← p.get 1
    let next ← p.shift 2
    sumWords next len (sum + (be16 hi lo).setWidth 32)

def checksum16 (p : Ptr) (len : Nat) (initial : U32) : Guarded U16 := do
  let sum ← sumWords p len initial
  let sum ← Guarded.returns (foldCarry 3 sum)
  return (~~~sum &&& (0xFFFF : U32)).setWidth 16

/-! ### Address helpers -/

def arpAt (s : VNet) (i : Nat) : Guarded ArpEntry := do
  let i ← Guarded.index i ArpEntries
  return s.arp i

def lookupScan (s : VNet) (ip : U32) : List Nat → Guarded U64
  | [] => return 0
  | i :: rest => do
    let e ← arpAt s i
    if e.mac != 0 && e.ip == ip then return e.mac else lookupScan s ip rest

def lookupMac (s : VNet) (ip : U32) : Guarded U64 :=
  if s.isBroadcast ip then return MacBroadcast else lookupScan s ip (List.range ArpEntries)

def learnScan (s : VNet) (ip : U32) : List Nat → Nat → Guarded (Nat ⊕ Nat)
  | [], oldest => return .inr oldest
  | i :: rest, oldest => do
    let e ← arpAt s i
    if e.mac ≠ 0 ∧ e.ip = ip then return .inl i
    else if e.mac = 0 then return .inr i
    else
      let o ← arpAt s oldest
      learnScan s ip rest (if e.lastUsed < o.lastUsed then i else oldest)

def learnMac (s : VNet) (ip : U32) (mac : U64) : Guarded VNet :=
  if ip = 0 ∨ mac = 0 ∨ mac = MacBroadcast then return s
  else do
    let found ← learnScan s ip (List.range ArpEntries) 0
    match found with
    | .inl i =>
      let i ← Guarded.index i ArpEntries
      return { s with
        arp := Function.update s.arp i { s.arp i with mac := mac, lastUsed := s.tick + 1 }
        tick := s.tick + 1 }
    | .inr i =>
      let i ← Guarded.index i ArpEntries
      return { s with arp := Function.update s.arp i ⟨ip, mac, s.tick + 1⟩, tick := s.tick + 1 }

/-! ### Packet pool and socket queues -/

def allocPkt (s : VNet) : Guarded (VNet × Int) :=
  if s.freeList < 0 then return (s, -1)
  else do
    let idx ← Guarded.index s.freeList PoolPackets
    return ({ s.setPkt idx { s.pool idx with next := -1 } with freeList := (s.pool idx).next },
      s.freeList)

def pushToSocket (s : VNet) (sockIdx : Nat) (srcIp : U32) (srcPort : U16) (data : Ptr) (len : Nat) :
    Guarded VNet :=
  if MaxDatagram < len then return s.count fun t => { t with dropTooBig := t.dropTooBig + 1 }
  else do
    let alloc ← allocPkt s
    let s := alloc.1
    if alloc.2 < 0 then return s.count fun t => { t with dropNoBuffer := t.dropNoBuffer + 1 }
    else
      let idx ← Guarded.index alloc.2 PoolPackets
      let stored ← Buffer.copy ⟨(s.pool idx).data, MaxDatagram⟩ 0 data len
      let s := s.setPkt idx
        { len := BitVec.ofNat 16 len, srcIp := srcIp, srcPort := srcPort, next := -1,
          data := stored.data }
      let sockIdx ← Guarded.index sockIdx MaxSockets
      let k := s.socks sockIdx
      if k.qTail < 0 then
        return s.setSock sockIdx { k with qHead := idx, qTail := idx, qCount := k.qCount + 1 }
      else
        let tail ← Guarded.index k.qTail PoolPackets
        return (s.setPkt tail { s.pool tail with next := idx }).setSock sockIdx
          { k with qTail := idx, qCount := k.qCount + 1 }

/-! ### Outbound -/

def ipHeader (srcIp dstIp : U32) (proto : U8) (id fragOffsetBlocks : U16) (more : Bool) (len : Nat) :
    Guarded Ptr := do
  let pkt := buffer MaxFrame
  let pkt ← pkt.put Ip4.VerIhl 0x45
  let pkt ← pkt.put Ip4.Tos 0
  let pkt ← wr16 pkt Ip4.TotalLen (BitVec.ofNat 16 (Ip4.MinHeader + len))
  let pkt ← wr16 pkt Ip4.Id id
  let pkt ← wr16 pkt Ip4.FlagsFrag ((if more then Ip4.FlagMoreFragments else 0) ||| fragOffsetBlocks)
  let pkt ← pkt.put Ip4.Ttl 64
  let pkt ← pkt.put Ip4.Proto proto
  let pkt ← wr16 pkt Ip4.Csum 0
  let pkt ← wr32 pkt Ip4.Src srcIp
  wr32 pkt Ip4.Dst dstIp

def emitIpFragment (s : VNet) (dstMac : U64) (dstIp : U32) (proto : U8) (id fragOffsetBlocks : U16)
    (more : Bool) (payload : Ptr) (len : Nat) : Guarded (VNet × List Frame) :=
  if !s.emitSet then return (s, [])
  else if MaxFrame < Ip4.MinHeader + len then
    return (s.count fun t => { t with dropTooBig := t.dropTooBig + 1 }, [])
  else do
    let pkt ← ipHeader s.ip dstIp proto id fragOffsetBlocks more len
    let csum ← checksum16 pkt Ip4.MinHeader 0
    let pkt ← wr16 pkt Ip4.Csum csum
    let pkt ← pkt.copy Ip4.MinHeader payload len
    let sent ← pkt.take (Ip4.MinHeader + len)
    return (s.count fun t => { t with txFrames := t.txFrames + 1 }, [⟨dstMac, EtherType_IPv4, sent⟩])

/-- The twenty-eight bytes of an ARP packet. -/
def arpPacket (op : U16) (senderMac : U64) (senderIp : U32) (targetMac : U64) (targetIp : U32) :
    Guarded (List U8) := do
  let req := buffer Arp4.Size
  let req ← wr16 req Arp4.HwType 1
  let req ← wr16 req Arp4.ProtoType EtherType_IPv4
  let req ← req.put Arp4.HwLen 6
  let req ← req.put Arp4.ProtoLen 4
  let req ← wr16 req Arp4.Op op
  let req ← macToBytes senderMac req Arp4.SenderMac
  let req ← wr32 req Arp4.SenderIp senderIp
  let req ← macToBytes targetMac req Arp4.TargetMac
  let req ← wr32 req Arp4.TargetIp targetIp
  req.take Arp4.Size

def sendArpRequest (s : VNet) (targetIp : U32) : Guarded (VNet × List Frame) :=
  if !s.emitSet then return (s, [])
  else do
    let req ← arpPacket Arp4.OpRequest s.mac s.ip 0 targetIp
    return (s.count fun t => { t with txFrames := t.txFrames + 1, txArp := t.txArp + 1 },
      [⟨MacBroadcast, EtherType_ARP, req⟩])

def sendFragments (dstMac : U64) (dstIp : U32) (proto : U8) (id : U16) (payload : Ptr)
    (len chunk : Nat) : Nat → VNet → Nat → Guarded (VNet × List Frame)
  | 0, _, _ => throw .diverges
  | fuel + 1, s, off =>
    if off < len then do
      let left ← Guarded.sub len off
      let take := if left > chunk then chunk else left
      let more := decide (off + take < len)
      let from' ← payload.shift off
      let sent ← emitIpFragment s dstMac dstIp proto id (BitVec.ofNat 16 (off / 8)) more from' take
      let rest ← sendFragments dstMac dstIp proto id payload len chunk fuel sent.1 (off + take)
      return (rest.1, sent.2 ++ rest.2)
    else return (s, [])

def sendIpv4 (s : VNet) (dstIp : U32) (proto : U8) (payload : Ptr) (len : Nat) :
    Guarded (VNet × List Frame) := do
  let dstMac ← lookupMac s dstIp
  if dstMac = 0 then sendArpRequest s dstIp
  else
    let maxPayload ← Guarded.sub s.mtu.toNat Ip4.MinHeader
    let id := s.ipId
    let s := { s with ipId := s.ipId + 1 }
    if len ≤ maxPayload then emitIpFragment s dstMac dstIp proto id 0 false payload len
    else sendFragments dstMac dstIp proto id payload len (maxPayload / 8 * 8) (len + 1) s 0

/-! ### Inbound -/

def reasmAt (s : VNet) (i : Nat) : Guarded Reasm := do
  let i ← Guarded.index i ReasmSlots
  return s.reasm i

def reasmScan (s : VNet) (srcIp dstIp : U32) (id : U16) (proto : U8) :
    List Nat → Nat → Guarded (Nat ⊕ Nat)
  | [], victim => return .inr victim
  | i :: rest, victim => do
    let r ← reasmAt s i
    if r.holds srcIp dstIp id proto then return .inl i
    else if !r.used then reasmScan s srcIp dstIp id proto rest i
    else
      let v ← reasmAt s victim
      reasmScan s srcIp dstIp id proto rest (if r.age < v.age then i else victim)

def reasmSlot (s : VNet) (srcIp dstIp : U32) (id : U16) (proto : U8) : Guarded (Nat × Reasm) := do
  let found ← reasmScan s srcIp dstIp id proto (List.range ReasmSlots) 0
  match found with
  | .inl i =>
    let r ← reasmAt s i
    return (i, r)
  | .inr i =>
    let r ← reasmAt s i
    return (i, { r with
      used := true, srcIp := srcIp, dstIp := dstIp, id := id, proto := proto,
      received := 0, total := 0 })

/-- The socket loop of `onUdp`. -/
def udpDemux (srcIp dstIp : U32) (srcPort dstPort : U16) (p : Ptr) (udpLen : Nat) :
    List Nat → VNet → Bool → Guarded (VNet × Bool)
  | [], s, delivered => return (s, delivered)
  | sock :: rest, s, delivered => do
    let sock ← Guarded.index sock MaxSockets
    if s.listens sock dstIp dstPort then
      let data ← p.shift Udp4.Header
      let len ← Guarded.sub udpLen Udp4.Header
      let s ← pushToSocket s sock srcIp srcPort data len
      udpDemux srcIp dstIp srcPort dstPort p udpLen rest s true
    else udpDemux srcIp dstIp srcPort dstPort p udpLen rest s delivered

def udpLength (p : Ptr) (len : Nat) : Guarded Nat := do
  let field ← rd16 p Udp4.Length
  return if field.toNat < Udp4.Header ∨ len < field.toNat then len else field.toNat

def udpBadChecksum (srcIp dstIp : U32) (p : Ptr) (udpLen : Nat) : Guarded Bool := do
  let csum ← rd16 p Udp4.Csum
  if csum = 0 then return false
  else
    let check ← checksum16 p udpLen (VNet.udpPseudo srcIp dstIp udpLen)
    return decide (check ≠ 0)

def onUdp (s : VNet) (srcIp dstIp : U32) (p : Ptr) (len : Nat) : Guarded VNet :=
  let s := s.count fun t => { t with rxUdp := t.rxUdp + 1 }
  if len < Udp4.Header then return s.count fun t => { t with dropMalformed := t.dropMalformed + 1 }
  else do
    let srcPort ← rd16 p Udp4.SrcPort
    let dstPort ← rd16 p Udp4.DstPort
    let udpLen ← udpLength p len
    let bad ← udpBadChecksum srcIp dstIp p udpLen
    if bad then
      return s.count fun t => { t with dropBadChecksum := t.dropBadChecksum + 1 }
    else
      let demux ← udpDemux srcIp dstIp srcPort dstPort p udpLen (List.range MaxSockets) s false
      if demux.2 then return demux.1
      else
        let lost ← Guarded.sub udpLen Udp4.Header
        return demux.1.count fun t =>
          { t with
            dropNoSocket := t.dropNoSocket + 1
            lastNoSocketSrcIp := srcIp
            lastNoSocketSrcPort := srcPort
            lastNoSocketDstPort := dstPort
            lastNoSocketLen := BitVec.ofNat 16 lost }

def onIcmp (s : VNet) (srcIp : U32) (p : Ptr) (len : Nat) : Guarded (VNet × List Frame) :=
  let s := s.count fun t => { t with rxIcmp := t.rxIcmp + 1 }
  if len < 8 then return (s, [])
  else do
    let type ← p.get Icmp4.MsgType
    if type ≠ Icmp4.EchoRequest then return (s, [])
    else
      let check ← checksum16 p len 0
      if check ≠ 0 then
        return (s.count fun t => { t with dropBadChecksum := t.dropBadChecksum + 1 }, [])
      else if MaxDatagram < len then
        return (s.count fun t => { t with dropTooBig := t.dropTooBig + 1 }, [])
      else
        let reply ← (buffer MaxDatagram).copy 0 p len
        let reply ← reply.put Icmp4.MsgType Icmp4.EchoReply
        let reply ← wr16 reply Icmp4.Csum 0
        let csum ← checksum16 reply len 0
        let reply ← wr16 reply Icmp4.Csum csum
        let sent ← sendIpv4 s srcIp IpProto_ICMP reply len
        return (sent.1.count fun t => { t with txIcmp := t.txIcmp + 1 }, sent.2)

def deliverIpv4 (s : VNet) (srcIp dstIp : U32) (proto : U8) (payload : Ptr) (len : Nat) :
    Guarded (VNet × List Frame) :=
  if proto = IpProto_UDP then do
    let s ← onUdp s srcIp dstIp payload len
    return (s, [])
  else if proto = IpProto_ICMP then onIcmp s srcIp payload len
  else return (s, [])

def reassemble (s : VNet) (srcIp dstIp : U32) (id : U16) (proto : U8) (fragOffset : U16) (more : Bool)
    (payload : Ptr) (plen : Nat) : Guarded (VNet × List Frame) := do
  let slot ← reasmSlot s srcIp dstIp id proto
  let i ← Guarded.index slot.1 ReasmSlots
  let s := { s with tick := s.tick + 1 }
  let r : Reasm := { slot.2 with age := s.tick }
  if ReasmMax < fragOffset.toNat + plen then
    return ((s.setReasm i { r with used := false }).count
      fun t => { t with dropReasm := t.dropReasm + 1 }, [])
  else
    let stored ← Buffer.copy ⟨r.data, ReasmMax⟩ fragOffset.toNat payload plen
    let r : Reasm :=
      { r with
        data := stored.data
        received := r.received + BitVec.ofNat 16 plen
        total := if more then r.total else BitVec.ofNat 16 (fragOffset.toNat + plen) }
    if r.total ≠ 0 ∧ r.total ≤ r.received then
      deliverIpv4 (s.setReasm i { r with used := false }) srcIp dstIp proto stored r.total.toNat
    else return (s.setReasm i r, [])

def onIpv4 (s : VNet) (srcMac : U64) (p : Ptr) (len : Nat) : Guarded (VNet × List Frame) :=
  let s := s.count fun t => { t with rxIp := t.rxIp + 1 }
  let malformed := s.count fun t => { t with dropMalformed := t.dropMalformed + 1 }
  if len < Ip4.MinHeader then return (malformed, [])
  else do
    let verIhl ← p.get Ip4.VerIhl
    let ihl := (verIhl &&& (0x0F : U8)).toNat * 4
    if verIhl >>> 4 ≠ 4 ∨ ihl < Ip4.MinHeader ∨ len < ihl then return (malformed, [])
    else
      let check ← checksum16 p ihl 0
      if check ≠ 0 then
        return (s.count fun t => { t with dropBadChecksum := t.dropBadChecksum + 1 }, [])
      else
        let field ← rd16 p Ip4.TotalLen
        if field.toNat < ihl then return (malformed, [])
        else
          let total := if len < field.toNat then len else field.toNat
          let srcIp ← rd32 p Ip4.Src
          let dstIp ← rd32 p Ip4.Dst
          if !s.isForUs dstIp then
            return (s.count fun t => { t with dropNotForUs := t.dropNotForUs + 1 }, [])
          else
            let s ← learnMac s srcIp srcMac
            let proto ← p.get Ip4.Proto
            let flagsFrag ← rd16 p Ip4.FlagsFrag
            let fragOffset := (flagsFrag &&& Ip4.FragOffsetMask) * 8
            let more := flagsFrag &&& Ip4.FlagMoreFragments != 0
            let payload ← p.shift ihl
            let plen ← Guarded.sub total ihl
            if fragOffset = 0 ∧ more = false then deliverIpv4 s srcIp dstIp proto payload plen
            else
              let id ← rd16 p Ip4.Id
              reassemble s srcIp dstIp id proto fragOffset more payload plen

def onArp (s : VNet) (srcMac : U64) (p : Ptr) (len : Nat) : Guarded (VNet × List Frame) :=
  let s := s.count fun t => { t with rxArp := t.rxArp + 1 }
  if len < Arp4.Size then return (s.count fun t => { t with dropMalformed := t.dropMalformed + 1 }, [])
  else do
    let hwType ← rd16 p Arp4.HwType
    let protoType ← rd16 p Arp4.ProtoType
    if hwType ≠ 1 ∨ protoType ≠ EtherType_IPv4 then return (s, [])
    else
      let hwLen ← p.get Arp4.HwLen
      let protoLen ← p.get Arp4.ProtoLen
      if hwLen ≠ 6 ∨ protoLen ≠ 4 then return (s, [])
      else
        let op ← rd16 p Arp4.Op
        let senderIp ← rd32 p Arp4.SenderIp
        let targetIp ← rd32 p Arp4.TargetIp
        let sender ← p.shift Arp4.SenderMac
        let senderMac ← macFromBytes sender
        let s ← learnMac s senderIp (if senderMac ≠ 0 then senderMac else srcMac)
        if op ≠ Arp4.OpRequest ∨ targetIp ≠ s.ip then return (s, [])
        else
          let reply ← arpPacket Arp4.OpReply s.mac s.ip senderMac senderIp
          if !s.emitSet then return (s, [])
          else
            return (s.count fun t => { t with txFrames := t.txFrames + 1, txArp := t.txArp + 1 },
              [⟨senderMac, EtherType_ARP, reply⟩])

def onFrame (s : VNet) (srcMac dstMac : U64) (etherType : U16) (payload : List U8) :
    Guarded (VNet × List Frame) :=
  let s := s.count fun t => { t with rxFrames := t.rxFrames + 1 }
  if !s.configured || payload.isEmpty then return (s, [])
  else if dstMac ≠ s.mac ∧ dstMac ≠ MacBroadcast then
    return (s.count fun t => { t with dropNotForUs := t.dropNotForUs + 1 }, [])
  else
    let p : Ptr := ⟨Mem.ofBytes payload, payload.length⟩
    if etherType = EtherType_ARP then onArp s srcMac p payload.length
    else if etherType = EtherType_IPv4 then onIpv4 s srcMac p payload.length
    else return (s, [])

end SysZerotier.Net.Checked
