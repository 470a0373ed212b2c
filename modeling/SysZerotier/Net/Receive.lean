import SysZerotier.Net.Transmit

/-! The receive path of the virtual network interface: ARP, IPv4 with
reassembly, UDP demultiplexing and ICMP echo (`source/net/vnet.cpp`, "inbound").

Both calls of `deliverIpv4` in `onIpv4` are its last action, so `onIpv4` is
`ipv4Input`, which yields the packet to deliver if there is one, followed by
`deliverIpv4`. -/
namespace SysZerotier.Net

/-- The arguments of one call of `deliverIpv4`. -/
structure Packet where
  srcIp : U32
  dstIp : U32
  proto : U8
  payload : Mem
  len : Nat

def Packet.bytes (k : Packet) : List U8 := k.payload.bytes k.len

/-- The slot is in use for this datagram. -/
def Reasm.holds (r : Reasm) (srcIp dstIp : U32) (id : U16) (proto : U8) : Bool :=
  r.used && r.id == id && r.srcIp == srcIp && r.dstIp == dstIp && r.proto == proto

namespace VNet

def setReasm (s : VNet) (i : Nat) (r : Reasm) : VNet :=
  { s with reasm := Function.update s.reasm i r }

/-- The slot scan of `onIpv4` over the slots left to visit: the slot in use for
the datagram (`inl`), or the victim (`inr`). A free slot replaces the victim so
far; a slot in use replaces it when its age is lower, whatever the victim is. -/
def reasmScan (reasm : Nat → Reasm) (srcIp dstIp : U32) (id : U16) (proto : U8) :
    List Nat → Nat → Nat ⊕ Nat
  | [], victim => .inr victim
  | i :: rest, victim =>
    if (reasm i).holds srcIp dstIp id proto then .inl i
    else
      reasmScan reasm srcIp dstIp id proto rest
        (if !(reasm i).used then i
          else if (reasm i).age < (reasm victim).age then i else victim)

/-- The slot a fragment goes to, as it is before the fragment is stored. -/
def reasmSlot (s : VNet) (srcIp dstIp : U32) (id : U16) (proto : U8) : Nat × Reasm :=
  match reasmScan s.reasm srcIp dstIp id proto (List.range ReasmSlots) 0 with
  | .inl i => (i, s.reasm i)
  | .inr i =>
    (i, { s.reasm i with
          used := true, srcIp := srcIp, dstIp := dstIp, id := id, proto := proto,
          received := 0, total := 0 })

/-- The reassembly half of `onIpv4`. -/
def reassemble (s : VNet) (srcIp dstIp : U32) (id : U16) (proto : U8) (fragOffset : U16) (more : Bool)
    (payload : Mem) (plen : Nat) : VNet × Option Packet :=
  let slot := s.reasmSlot srcIp dstIp id proto
  let s := { s with tick := s.tick + 1 }
  let r : Reasm := { slot.2 with age := s.tick }
  if ReasmMax < fragOffset.toNat + plen then
    ((s.setReasm slot.1 { r with used := false }).count
      fun t => { t with dropReasm := t.dropReasm + 1 }, none)
  else
    let r : Reasm :=
      { r with
        data := memcpy r.data fragOffset.toNat payload plen
        received := r.received + BitVec.ofNat 16 plen
        total := if more then r.total else BitVec.ofNat 16 (fragOffset.toNat + plen) }
    if r.total ≠ 0 ∧ r.total ≤ r.received then
      (s.setReasm slot.1 { r with used := false }, some ⟨srcIp, dstIp, proto, r.data, r.total.toNat⟩)
    else (s.setReasm slot.1 r, none)

/-- `onIpv4` up to its calls of `deliverIpv4`. -/
def ipv4Input (s : VNet) (srcMac : U64) (p : Mem) (len : Nat) : VNet × Option Packet :=
  let s := s.count fun t => { t with rxIp := t.rxIp + 1 }
  let malformed := s.count fun t => { t with dropMalformed := t.dropMalformed + 1 }
  if len < Ip4.MinHeader then (malformed, none)
  else
    let ihl := (p Ip4.VerIhl &&& (0x0F : U8)).toNat * 4
    if p Ip4.VerIhl >>> 4 ≠ 4 ∨ ihl < Ip4.MinHeader ∨ len < ihl then (malformed, none)
    else if checksum16 p ihl 0 ≠ 0 then
      (s.count fun t => { t with dropBadChecksum := t.dropBadChecksum + 1 }, none)
    else if (rd16 p Ip4.TotalLen).toNat < ihl then (malformed, none)
    else
      let total := if len < (rd16 p Ip4.TotalLen).toNat then len else (rd16 p Ip4.TotalLen).toNat
      let srcIp := rd32 p Ip4.Src
      let dstIp := rd32 p Ip4.Dst
      if !s.isForUs dstIp then
        (s.count fun t => { t with dropNotForUs := t.dropNotForUs + 1 }, none)
      else
        let s := s.learnMac srcIp srcMac
        let proto := p Ip4.Proto
        let flagsFrag := rd16 p Ip4.FlagsFrag
        let fragOffset := (flagsFrag &&& Ip4.FragOffsetMask) * 8
        let more := flagsFrag &&& Ip4.FlagMoreFragments != 0
        let payload := p.advance ihl
        let plen := total - ihl
        if fragOffset = 0 ∧ more = false then (s, some ⟨srcIp, dstIp, proto, payload, plen⟩)
        else s.reassemble srcIp dstIp (rd16 p Ip4.Id) proto fragOffset more payload plen

/-- The socket takes datagrams for this address and port. -/
def listens (s : VNet) (sock : Nat) (dstIp : U32) (dstPort : U16) : Bool :=
  (s.socks sock).used && (s.socks sock).localPort == dstPort &&
    ((s.socks sock).localIp == dstIp || (s.socks sock).localIp == 0 || s.isBroadcast dstIp)

/-- The socket loop of `onUdp`: the state it leaves and `delivered`. -/
def udpDemux (srcIp dstIp : U32) (srcPort dstPort : U16) (data : Mem) (len : Nat) :
    List Nat → VNet → Bool → VNet × Bool
  | [], s, delivered => (s, delivered)
  | sock :: rest, s, delivered =>
    if s.listens sock dstIp dstPort then
      udpDemux srcIp dstIp srcPort dstPort data len rest
        (s.pushToSocket sock srcIp srcPort data len) true
    else udpDemux srcIp dstIp srcPort dstPort data len rest s delivered

/-- `udpLen` of `onUdp`. -/
def udpLength (p : Mem) (len : Nat) : Nat :=
  if (rd16 p Udp4.Length).toNat < Udp4.Header ∨ len < (rd16 p Udp4.Length).toNat then len
  else (rd16 p Udp4.Length).toNat

def onUdp (s : VNet) (srcIp dstIp : U32) (p : Mem) (len : Nat) : VNet :=
  let s := s.count fun t => { t with rxUdp := t.rxUdp + 1 }
  if len < Udp4.Header then s.count fun t => { t with dropMalformed := t.dropMalformed + 1 }
  else
    let srcPort := rd16 p Udp4.SrcPort
    let dstPort := rd16 p Udp4.DstPort
    let udpLen := udpLength p len
    if rd16 p Udp4.Csum ≠ 0 ∧ checksum16 p udpLen (udpPseudo srcIp dstIp udpLen) ≠ 0 then
      s.count fun t => { t with dropBadChecksum := t.dropBadChecksum + 1 }
    else
      let demux := udpDemux srcIp dstIp srcPort dstPort (p.advance Udp4.Header)
        (udpLen - Udp4.Header) (List.range MaxSockets) s false
      if demux.2 then demux.1
      else
        demux.1.count fun t =>
          { t with
            dropNoSocket := t.dropNoSocket + 1
            lastNoSocketSrcIp := srcIp
            lastNoSocketSrcPort := srcPort
            lastNoSocketDstPort := dstPort
            lastNoSocketLen := BitVec.ofNat 16 (udpLen - Udp4.Header) }

def onIcmp (s : VNet) (srcIp : U32) (p : Mem) (len : Nat) : VNet × List Frame :=
  let s := s.count fun t => { t with rxIcmp := t.rxIcmp + 1 }
  if len < 8 ∨ p Icmp4.MsgType ≠ Icmp4.EchoRequest then (s, [])
  else if checksum16 p len 0 ≠ 0 then
    (s.count fun t => { t with dropBadChecksum := t.dropBadChecksum + 1 }, [])
  else if MaxDatagram < len then
    (s.count fun t => { t with dropTooBig := t.dropTooBig + 1 }, [])
  else
    let reply := memcpy Mem.zero 0 p len
    let reply := reply.set Icmp4.MsgType Icmp4.EchoReply
    let reply := wr16 reply Icmp4.Csum 0
    let reply := wr16 reply Icmp4.Csum (checksum16 reply len 0)
    let sent := s.sendIpv4 srcIp IpProto_ICMP reply len
    (sent.1.count fun t => { t with txIcmp := t.txIcmp + 1 }, sent.2)

def deliverIpv4 (s : VNet) (k : Packet) : VNet × List Frame :=
  if k.proto = IpProto_UDP then (s.onUdp k.srcIp k.dstIp k.payload k.len, [])
  else if k.proto = IpProto_ICMP then s.onIcmp k.srcIp k.payload k.len
  else (s, [])

def onIpv4 (s : VNet) (srcMac : U64) (p : Mem) (len : Nat) : VNet × List Frame :=
  match s.ipv4Input srcMac p len with
  | (s, none) => (s, [])
  | (s, some k) => s.deliverIpv4 k

def onArp (s : VNet) (srcMac : U64) (p : Mem) (len : Nat) : VNet × List Frame :=
  let s := s.count fun t => { t with rxArp := t.rxArp + 1 }
  if len < Arp4.Size then (s.count fun t => { t with dropMalformed := t.dropMalformed + 1 }, [])
  else if rd16 p Arp4.HwType ≠ 1 ∨ rd16 p Arp4.ProtoType ≠ EtherType_IPv4 then (s, [])
  else if p Arp4.HwLen ≠ 6 ∨ p Arp4.ProtoLen ≠ 4 then (s, [])
  else
    let op := rd16 p Arp4.Op
    let senderIp := rd32 p Arp4.SenderIp
    let targetIp := rd32 p Arp4.TargetIp
    let senderMac := macFromBytes (p.advance Arp4.SenderMac)
    let s := s.learnMac senderIp (if senderMac ≠ 0 then senderMac else srcMac)
    if op ≠ Arp4.OpRequest ∨ targetIp ≠ s.ip then (s, [])
    else if !s.emitSet then (s, [])
    else
      let reply := Mem.zero
      let reply := wr16 reply Arp4.HwType 1
      let reply := wr16 reply Arp4.ProtoType EtherType_IPv4
      let reply := reply.set Arp4.HwLen 6
      let reply := reply.set Arp4.ProtoLen 4
      let reply := wr16 reply Arp4.Op Arp4.OpReply
      let reply := macToBytes s.mac reply Arp4.SenderMac
      let reply := wr32 reply Arp4.SenderIp s.ip
      let reply := macToBytes senderMac reply Arp4.TargetMac
      let reply := wr32 reply Arp4.TargetIp senderIp
      (s.count fun t => { t with txFrames := t.txFrames + 1, txArp := t.txArp + 1 },
        [⟨senderMac, EtherType_ARP, reply.bytes Arp4.Size⟩])

/-- A null payload is the empty one. -/
def onFrame (s : VNet) (srcMac dstMac : U64) (etherType : U16) (payload : List U8) :
    VNet × List Frame :=
  let s := s.count fun t => { t with rxFrames := t.rxFrames + 1 }
  if !s.configured || payload.isEmpty then (s, [])
  else if dstMac ≠ s.mac ∧ dstMac ≠ MacBroadcast then
    (s.count fun t => { t with dropNotForUs := t.dropNotForUs + 1 }, [])
  else if etherType = EtherType_ARP then s.onArp srcMac (Mem.ofBytes payload) payload.length
  else if etherType = EtherType_IPv4 then s.onIpv4 srcMac (Mem.ofBytes payload) payload.length
  else (s, [])

/-- The frame reaches `onIpv4`. -/
def takesIpv4 (s : VNet) (dstMac : U64) (etherType : U16) (payload : List U8) : Bool :=
  s.configured && !payload.isEmpty && (dstMac == s.mac || dstMac == MacBroadcast) &&
    etherType == EtherType_IPv4

theorem onFrame_ipv4 {s : VNet} {dstMac : U64} {etherType : U16} {payload : List U8}
    (h : s.takesIpv4 dstMac etherType payload = true) (srcMac : U64) :
    s.onFrame srcMac dstMac etherType payload =
      (s.count fun t => { t with rxFrames := t.rxFrames + 1 }).onIpv4 srcMac (Mem.ofBytes payload)
        payload.length := by
  simp only [takesIpv4, Bool.and_eq_true, Bool.or_eq_true, beq_iff_eq, Bool.not_eq_true'] at h
  obtain ⟨⟨⟨hc, hp⟩, hm⟩, rfl⟩ := h
  have hmac : ¬(dstMac ≠ (s.count fun t => { t with rxFrames := t.rxFrames + 1 }).mac ∧
      dstMac ≠ MacBroadcast) := by
    rintro ⟨h1, h2⟩
    exact hm.elim h1 h2
  have hidle : ¬(!(s.count fun t => { t with rxFrames := t.rxFrames + 1 }).configured ||
      payload.isEmpty) = true := by
    show ¬(!s.configured || payload.isEmpty) = true
    rw [hc, hp]
    decide
  unfold onFrame
  dsimp only
  rw [if_neg hidle, if_neg hmac, if_neg (by decide), if_pos rfl]

/-! ### Operations and runs -/

/-- Everything the owner of the interface can do to it. -/
inductive Op where
  | reset
  | configure (mac : U64) (ip netmask : U32) (mtu : U16)
  | setEmit
  | udpOpen
  | udpBind (vfd : Int) (ip : U32) (port : U16)
  | udpSetBroadcast (vfd : Int) (on : Bool)
  | onFrame (srcMac dstMac : U64) (etherType : U16) (payload : List U8)
  | udpRecvFrom (vfd : Int) (max : Nat) (peek : Bool)
  | udpSendTo (vfd : Int) (dstIp : U32) (dstPort : U16) (buf : List U8)
  | sendEchoRequest (dstIp : U32)
  | udpClose (vfd : Int)

/-- What an operation shows its caller: the value returned, what was received,
the frames emitted. -/
structure Reply where
  ret : Int := 0
  received : Option Datagram := none
  frames : List Frame := []

def exec (s : VNet) : Op → VNet × Reply
  | .reset => (s.reset, {})
  | .configure mac ip netmask mtu => (s.configure mac ip netmask mtu, {})
  | .setEmit => (s.setEmit, {})
  | .udpOpen => (s.udpOpen.1, { ret := s.udpOpen.2 })
  | .udpBind vfd ip port => ((s.udpBind vfd ip port).1, { ret := (s.udpBind vfd ip port).2 })
  | .udpSetBroadcast vfd on => (s.udpSetBroadcast vfd on, {})
  | .onFrame srcMac dstMac etherType payload =>
    ((s.onFrame srcMac dstMac etherType payload).1,
      { frames := (s.onFrame srcMac dstMac etherType payload).2 })
  | .udpRecvFrom vfd max peek =>
    let r := s.udpRecvFrom vfd max peek
    (r.1, { ret := r.2.elim (-1) fun d => d.bytes.length, received := r.2 })
  | .udpSendTo vfd dstIp dstPort buf =>
    let r := s.udpSendTo vfd dstIp dstPort (Mem.ofBytes buf) buf.length
    (r.1, { ret := r.2.2, frames := r.2.1 })
  | .sendEchoRequest dstIp =>
    let r := s.sendEchoRequest dstIp
    (r.1, { ret := if r.2.2 then 1 else 0, frames := r.2.1 })
  | .udpClose vfd => (s.udpClose vfd, {})

/-- A run: the state it ends in and what each operation showed. -/
def execAll (s : VNet) : List Op → VNet × List Reply
  | [] => (s, [])
  | op :: rest =>
    let step := s.exec op
    let tail := step.1.execAll rest
    (tail.1, step.2 :: tail.2)

end VNet

end SysZerotier.Net
