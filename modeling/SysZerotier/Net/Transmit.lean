import SysZerotier.Net.VNet

/-! The transmit path of the virtual network interface: UDP and ICMP assembly,
IPv4 fragmentation, ARP requests (`source/net/vnet.cpp`, "outbound").

Each function returns the state it leaves and the frames it handed to `m_emit`,
in order. -/
namespace SysZerotier.Net

/-! ### Header field offsets -/

namespace Ip4
def VerIhl : Nat := 0
def Tos : Nat := 1
def TotalLen : Nat := 2
def Id : Nat := 4
def FlagsFrag : Nat := 6
def Ttl : Nat := 8
def Proto : Nat := 9
def Csum : Nat := 10
def Src : Nat := 12
def Dst : Nat := 16
def MinHeader : Nat := 20
def FlagMoreFragments : U16 := 0x2000
def FragOffsetMask : U16 := 0x1FFF
end Ip4

namespace Udp4
def SrcPort : Nat := 0
def DstPort : Nat := 2
def Length : Nat := 4
def Csum : Nat := 6
def Header : Nat := 8
end Udp4

namespace Icmp4
def MsgType : Nat := 0
def Code : Nat := 1
def Csum : Nat := 2
def EchoRequest : U8 := 8
def EchoReply : U8 := 0
end Icmp4

namespace Arp4
def HwType : Nat := 0
def ProtoType : Nat := 2
def HwLen : Nat := 4
def ProtoLen : Nat := 5
def Op : Nat := 6
def SenderMac : Nat := 8
def SenderIp : Nat := 14
def TargetMac : Nat := 18
def TargetIp : Nat := 24
def Size : Nat := 28
def OpRequest : U16 := 1
def OpReply : U16 := 2
end Arp4

namespace VNet

/-- The twenty header bytes of `emitIpFragment` before the checksum is stored. -/
def ipHeader (srcIp dstIp : U32) (proto : U8) (id fragOffsetBlocks : U16) (more : Bool) (len : Nat) :
    Mem :=
  let pkt := Mem.zero
  let pkt := pkt.set Ip4.VerIhl 0x45
  let pkt := pkt.set Ip4.Tos 0
  let pkt := wr16 pkt Ip4.TotalLen (BitVec.ofNat 16 (Ip4.MinHeader + len))
  let pkt := wr16 pkt Ip4.Id id
  let pkt := wr16 pkt Ip4.FlagsFrag ((if more then Ip4.FlagMoreFragments else 0) ||| fragOffsetBlocks)
  let pkt := pkt.set Ip4.Ttl 64
  let pkt := pkt.set Ip4.Proto proto
  let pkt := wr16 pkt Ip4.Csum 0
  let pkt := wr32 pkt Ip4.Src srcIp
  wr32 pkt Ip4.Dst dstIp

def emitIpFragment (s : VNet) (dstMac : U64) (dstIp : U32) (proto : U8) (id fragOffsetBlocks : U16)
    (more : Bool) (payload : Mem) (len : Nat) : VNet × List Frame :=
  if !s.emitSet then (s, [])
  else if MaxFrame < Ip4.MinHeader + len then
    (s.count fun t => { t with dropTooBig := t.dropTooBig + 1 }, [])
  else
    let pkt := ipHeader s.ip dstIp proto id fragOffsetBlocks more len
    let pkt := wr16 pkt Ip4.Csum (checksum16 pkt Ip4.MinHeader 0)
    let pkt := memcpy pkt Ip4.MinHeader payload len
    (s.count fun t => { t with txFrames := t.txFrames + 1 },
      [⟨dstMac, EtherType_IPv4, pkt.bytes (Ip4.MinHeader + len)⟩])

def sendArpRequest (s : VNet) (targetIp : U32) : VNet × List Frame :=
  if !s.emitSet then (s, [])
  else
    let req := Mem.zero
    let req := wr16 req Arp4.HwType 1
    let req := wr16 req Arp4.ProtoType EtherType_IPv4
    let req := req.set Arp4.HwLen 6
    let req := req.set Arp4.ProtoLen 4
    let req := wr16 req Arp4.Op Arp4.OpRequest
    let req := macToBytes s.mac req Arp4.SenderMac
    let req := wr32 req Arp4.SenderIp s.ip
    let req := macToBytes 0 req Arp4.TargetMac
    let req := wr32 req Arp4.TargetIp targetIp
    (s.count fun t => { t with txFrames := t.txFrames + 1, txArp := t.txArp + 1 },
      [⟨MacBroadcast, EtherType_ARP, req.bytes Arp4.Size⟩])

/-- `while (off < len)` of `sendIpv4`, at most `fuel` rounds. With a chunk of at
least one byte, `len` rounds and the failing test are enough. -/
def sendFragments (dstMac : U64) (dstIp : U32) (proto : U8) (id : U16) (payload : Mem)
    (len chunk : Nat) : Nat → VNet → Nat → VNet × List Frame
  | 0, s, _ => (s, [])
  | fuel + 1, s, off =>
    if off < len then
      let take := if len - off > chunk then chunk else len - off
      let more := decide (off + take < len)
      let sent := s.emitIpFragment dstMac dstIp proto id (BitVec.ofNat 16 (off / 8)) more
        (payload.advance off) take
      let rest := sendFragments dstMac dstIp proto id payload len chunk fuel sent.1 (off + take)
      (rest.1, sent.2 ++ rest.2)
    else (s, [])

/-- An unknown neighbour gets an ARP request in place of the packet. -/
def sendIpv4 (s : VNet) (dstIp : U32) (proto : U8) (payload : Mem) (len : Nat) : VNet × List Frame :=
  let dstMac := s.lookupMac dstIp
  if dstMac = 0 then s.sendArpRequest dstIp
  else
    let maxPayload := s.mtu.toNat - Ip4.MinHeader
    let id := s.ipId
    let s := { s with ipId := s.ipId + 1 }
    if len ≤ maxPayload then s.emitIpFragment dstMac dstIp proto id 0 false payload len
    else sendFragments dstMac dstIp proto id payload len (maxPayload / 8 * 8) (len + 1) s 0

/-- `(src >> 16) + (src & 0xFFFF) + (dst >> 16) + (dst & 0xFFFF) + IpProto_UDP + udpLen`. -/
def udpPseudo (srcIp dstIp : U32) (udpLen : Nat) : U32 :=
  (srcIp >>> 16) + (srcIp &&& (0xFFFF : U32)) + (dstIp >>> 16) + (dstIp &&& (0xFFFF : U32)) +
    IpProto_UDP.setWidth 32 + BitVec.ofNat 32 udpLen

/-- The datagram of `udpSendTo` with its checksum field still zero. -/
def udpDatagram (srcPort dstPort : U16) (buf : Mem) (len : Nat) : Mem :=
  let datagram := Mem.zero
  let datagram := wr16 datagram Udp4.SrcPort srcPort
  let datagram := wr16 datagram Udp4.DstPort dstPort
  let datagram := wr16 datagram Udp4.Length (BitVec.ofNat 16 (Udp4.Header + len))
  let datagram := wr16 datagram Udp4.Csum 0
  memcpy datagram Udp4.Header buf len

/-- The checksum `udpSendTo` stores. A computed checksum of zero goes out as all
ones, since zero means "no checksum". -/
def udpChecksum (srcIp dstIp : U32) (datagram : Mem) (udpLen : Nat) : U16 :=
  let csum := checksum16 datagram udpLen (udpPseudo srcIp dstIp udpLen)
  if csum = 0 then 0xFFFF else csum

/-- `s.localPort == 0 && udpBind(vfd, 0, 0) != 0`: a socket without a port is
bound to an ephemeral one first. -/
def implicitBind (s : VNet) (vfd : Int) : VNet × Int :=
  if (s.socks vfd.toNat).localPort = 0 then s.udpBind vfd 0 0 else (s, 0)

/-- The result is the number of bytes sent, or `-1`. -/
def udpSendTo (s : VNet) (vfd : Int) (dstIp : U32) (dstPort : U16) (buf : Mem) (len : Nat) :
    VNet × List Frame × Int :=
  if !s.isOpen vfd then (s, [], -1)
  else if !s.configured then (s, [], -1)
  else if MaxDatagram < len then
    (s.count fun t => { t with dropTooBig := t.dropTooBig + 1 }, [], -1)
  else
    let bound := s.implicitBind vfd
    if bound.2 ≠ 0 then (bound.1, [], -1)
    else
      let s := bound.1
      let datagram := udpDatagram (s.socks vfd.toNat).localPort dstPort buf len
      let udpLen := Udp4.Header + len
      let datagram := wr16 datagram Udp4.Csum (udpChecksum s.ip dstIp datagram udpLen)
      let sent := s.sendIpv4 dstIp IpProto_UDP datagram udpLen
      (sent.1.count fun t => { t with txUdp := t.txUdp + 1 }, sent.2, len)

def sendEchoRequest (s : VNet) (dstIp : U32) : VNet × List Frame × Bool :=
  if !s.configured || dstIp == 0 then (s, [], false)
  else
    let icmp := Mem.zero
    let icmp := icmp.set Icmp4.MsgType Icmp4.EchoRequest
    let icmp := icmp.set Icmp4.Code 0
    let icmp := wr16 icmp Icmp4.Csum 0
    let icmp := wr16 icmp 4 0x5A54
    let icmp := wr16 icmp 6 s.echoSeq
    let icmp := memcpy icmp 8 (fun _ => 0x5A) 8
    let icmp := wr16 icmp Icmp4.Csum (checksum16 icmp 16 0)
    let s := { s with echoSeq := s.echoSeq + 1 }
    let sent := s.sendIpv4 dstIp IpProto_ICMP icmp 16
    (sent.1.count fun t => { t with txIcmp := t.txIcmp + 1 }, sent.2, true)

end VNet

end SysZerotier.Net
