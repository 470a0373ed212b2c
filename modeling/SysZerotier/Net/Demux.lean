import SysZerotier.Net.Fifo
import SysZerotier.Net.Emit

/-! What one datagram does to the sockets.

`UdpMessage.OnWire` is a UDP datagram as any host may put it on the wire in one
unfragmented packet. `demux_exact` says what becomes of it in a state some run has
led to: which sockets have it, and that it is all that changed about them. -/
namespace SysZerotier.Net
open Library

/-- The Internet checksum over the `len` bytes from `p` verifies. -/
def Verifies (p : Mem) (len initial : Nat) : Prop :=
  OnesComplement.fold (initial + wordSum p len) = 65535

instance (p : Mem) (len initial : Nat) : Decidable (Verifies p len initial) :=
  inferInstanceAs (Decidable (_ = _))

theorem Verifies.checksum16 {p : Mem} {len : Nat} {initial : U32} (h : Verifies p len initial.toNat)
    (hl : len ≤ 65535) (hi : initial.toNat < 2 ^ 31) : checksum16 p len initial = 0 := by
  apply BitVec.eq_of_toNat_eq
  rw [checksum16_toNat p len initial (accumulator_bound p len initial hl hi), h]
  rfl

/-- A UDP payload with both its ends. -/
structure UdpMessage where
  srcIp : U32
  dstIp : U32
  srcPort : U16
  dstPort : U16
  data : List U8

namespace UdpMessage

def datagram (m : UdpMessage) : Datagram := ⟨m.data, m.srcIp, m.srcPort⟩

def udpLen (m : UdpMessage) : Nat := Udp4.Header + m.data.length

end UdpMessage

/-- The frame is a well-formed unfragmented packet with the message. Bytes may follow
the datagram in the packet, and the packet in the frame. -/
structure UdpMessage.OnWire (m : UdpMessage) (frame : List U8) : Prop where
  version : Mem.ofBytes frame Ip4.VerIhl >>> 4 = 4
  header : Ip4.MinHeader ≤ VNet.headerLen (Mem.ofBytes frame)
  headerSum : Verifies (Mem.ofBytes frame) (VNet.headerLen (Mem.ofBytes frame)) 0
  total : (rd16 (Mem.ofBytes frame) Ip4.TotalLen).toNat ≤ frame.length
  unfragmented : rd16 (Mem.ofBytes frame) Ip4.FlagsFrag &&& (Ip4.FlagMoreFragments ||| Ip4.FragOffsetMask) = 0
  proto : Mem.ofBytes frame Ip4.Proto = IpProto_UDP
  srcIp : rd32 (Mem.ofBytes frame) Ip4.Src = m.srcIp
  dstIp : rd32 (Mem.ofBytes frame) Ip4.Dst = m.dstIp
  room : VNet.headerLen (Mem.ofBytes frame) + m.udpLen ≤ (rd16 (Mem.ofBytes frame) Ip4.TotalLen).toNat
  srcPort : rd16 ((Mem.ofBytes frame).advance (VNet.headerLen (Mem.ofBytes frame))) Udp4.SrcPort = m.srcPort
  dstPort : rd16 ((Mem.ofBytes frame).advance (VNet.headerLen (Mem.ofBytes frame))) Udp4.DstPort = m.dstPort
  length : (rd16 ((Mem.ofBytes frame).advance (VNet.headerLen (Mem.ofBytes frame))) Udp4.Length).toNat = m.udpLen
  udpSum : rd16 ((Mem.ofBytes frame).advance (VNet.headerLen (Mem.ofBytes frame))) Udp4.Csum = 0 ∨
    Verifies ((Mem.ofBytes frame).advance (VNet.headerLen (Mem.ofBytes frame))) m.udpLen
      (VNet.udpPseudo m.srcIp m.dstIp m.udpLen).toNat
  data : (((Mem.ofBytes frame).advance (VNet.headerLen (Mem.ofBytes frame))).advance Udp4.Header).bytes
    m.data.length = m.data

namespace VNet

/-- The datagrams waiting in a socket's queue, first in first. -/
def queued (s : VNet) (k : Nat) : List Datagram :=
  (Links.walk s.next PoolPackets (s.socks k).qHead).map s.datagram

/-- How many packet buffers are free. -/
def spare (s : VNet) : Nat := (Links.walk s.next PoolPackets s.freeList).length

/-- The open sockets a message is for, in table order. -/
def matching (s : VNet) (m : UdpMessage) : List Nat :=
  (List.range MaxSockets).filter fun k =>
    (s.socks k).used ∧ (s.socks k).localPort = m.dstPort ∧
      ((s.socks k).localIp = 0 ∨ (s.socks k).localIp = m.dstIp ∨ s.isBroadcast m.dstIp)

end VNet

/-- All of a socket but its queue. -/
def Socket.binding (k : Socket) : Bool × Bool × U32 × U16 := (k.used, k.broadcast, k.localIp, k.localPort)

/-! ### Reading a frame -/

namespace UdpMessage
variable {m : UdpMessage} {frame : List U8}

/-- The packet that `onIpv4` finds in the frame. -/
def OnWire.packet (_ : m.OnWire frame) : Packet :=
  ⟨m.srcIp, m.dstIp, IpProto_UDP, (Mem.ofBytes frame).advance (VNet.headerLen (Mem.ofBytes frame)),
    (rd16 (Mem.ofBytes frame) Ip4.TotalLen).toNat - VNet.headerLen (Mem.ofBytes frame)⟩

theorem OnWire.whole (h : m.OnWire frame) :
    (rd16 (Mem.ofBytes frame) Ip4.FlagsFrag &&& Ip4.FragOffsetMask) * 8 = 0 ∧
      rd16 (Mem.ofBytes frame) Ip4.FlagsFrag &&& Ip4.FlagMoreFragments = 0 := by
  have hboth := h.unfragmented
  generalize rd16 (Mem.ofBytes frame) Ip4.FlagsFrag = flags at hboth ⊢
  have hmask : flags &&& Ip4.FragOffsetMask =
      (flags &&& (Ip4.FlagMoreFragments ||| Ip4.FragOffsetMask)) &&& Ip4.FragOffsetMask := by
    rw [BitVec.and_assoc]
    rfl
  have hmore : flags &&& Ip4.FlagMoreFragments =
      (flags &&& (Ip4.FlagMoreFragments ||| Ip4.FragOffsetMask)) &&& Ip4.FlagMoreFragments := by
    rw [BitVec.and_assoc]
    rfl
  rw [hmask, hmore, hboth]
  exact ⟨by decide, by decide⟩

theorem OnWire.input (h : m.OnWire frame) (s : VNet) (hfor : s.isForUs m.dstIp = true) (srcMac : U64) :
    s.ipv4Input srcMac (Mem.ofBytes frame) frame.length =
      ((s.count fun t => { t with rxIp := t.rxIp + 1 }).learnMac m.srcIp srcMac, some h.packet) := by
  have hhdr : Udp4.Header = 8 := rfl
  have hroom := h.room
  have hmin := h.header
  have htotal := h.total
  obtain ⟨hoff, hmore⟩ := h.whole
  have hsum : checksum16 (Mem.ofBytes frame) (VNet.headerLen (Mem.ofBytes frame)) 0 = 0 := by
    have := (rd16 (Mem.ofBytes frame) Ip4.TotalLen).isLt
    exact @Verifies.checksum16 _ _ 0 h.headerSum (by omega) (by decide)
  have hfor' : ¬(!(s.count fun t => { t with rxIp := t.rxIp + 1 }).isForUs m.dstIp) = true := by
    show ¬(!s.isForUs m.dstIp) = true
    simp [hfor]
  have hul : m.udpLen = Udp4.Header + m.data.length := rfl
  have hshape : ¬(Mem.ofBytes frame Ip4.VerIhl >>> 4 ≠ 4 ∨ VNet.headerLen (Mem.ofBytes frame) < Ip4.MinHeader ∨
      frame.length < VNet.headerLen (Mem.ofBytes frame)) := by
    rintro (hv | hv | hv)
    · exact hv h.version
    · omega
    · omega
  have hfit : ¬frame.length < (rd16 (Mem.ofBytes frame) Ip4.TotalLen).toNat := by omega
  have hread : ¬(rd16 (Mem.ofBytes frame) Ip4.TotalLen).toNat < VNet.headerLen (Mem.ofBytes frame) := by omega
  have hshort : ¬frame.length < Ip4.MinHeader := by omega
  unfold VNet.headerLen at hsum hshape hread
  unfold OnWire.packet VNet.headerLen VNet.ipv4Input
  dsimp only
  rw [if_neg hshort, if_neg hshape, if_neg (not_not.mpr hsum), if_neg hread, h.dstIp, if_neg hfor', hoff, hmore,
    if_pos ⟨rfl, by decide⟩, if_neg hfit, h.srcIp, h.proto]

theorem OnWire.arrival (h : m.OnWire frame) :
    h.packet.arrival = some ⟨m.srcIp, m.dstIp, m.srcPort, m.dstPort,
      ((Mem.ofBytes frame).advance (VNet.headerLen (Mem.ofBytes frame))).advance Udp4.Header, m.data.length⟩ := by
  have hhdr : Udp4.Header = 8 := rfl
  have hroom := h.room
  have hlen := (rd16 ((Mem.ofBytes frame).advance (VNet.headerLen (Mem.ofBytes frame))) Udp4.Length).isLt
  have hul : m.udpLen = Udp4.Header + m.data.length := rfl
  rw [h.length] at hlen
  have hlength : VNet.udpLength h.packet.payload h.packet.len = m.udpLen := by
    unfold VNet.udpLength OnWire.packet
    dsimp only
    rw [h.length, if_neg (by omega)]
  have hsum : ¬(rd16 h.packet.payload Udp4.Csum ≠ 0 ∧
      checksum16 h.packet.payload m.udpLen (VNet.udpPseudo h.packet.srcIp h.packet.dstIp m.udpLen) ≠ 0) := by
    rintro ⟨hne, hbad⟩
    exact hbad ((h.udpSum.resolve_left hne).checksum16 (by omega) (VNet.udpPseudo_lt _ _ _ hlen))
  unfold Packet.arrival
  dsimp only
  rw [hlength, if_neg hsum, if_neg]
  · simp only [OnWire.packet, h.srcPort, h.dstPort, udpLen, Nat.add_sub_cancel_left]
  · simp only [OnWire.packet, ne_eq, not_true_eq_false, false_or]
    omega

end UdpMessage

namespace VNet

/-! ### What a state's queues hold -/

theorem Models.queued {s : VNet} {b : Queues} (h : Models s b) (k : Fin MaxSockets) :
    (b.queue k).getD [] = s.queued k ∧ (b.queue k).isSome = (s.socks k).used := by
  obtain ⟨⟨free, q, hs, hq⟩, -⟩ := h
  have hlen : (q k).length ≤ PoolPackets := by
    have hsum := hs.shares.length
    have hle := Finset.single_le_sum (f := fun m => (q m).length) (fun _ _ => Nat.zero_le _) (Finset.mem_univ k)
    omega
  rw [VNet.queued, (hs.chain k).walk hlen, hq k]
  by_cases hu : (s.socks k).used
  · simp only [hu, if_true, Option.getD_some, Option.isSome_some, and_self]
  · rw [if_neg hu, hs.closed k (by simpa using hu)]
    simp only [Bool.not_eq_true] at hu
    simp only [hu, Option.getD_none, List.map_nil, Option.isSome_none, and_self]

theorem Models.spare {s : VNet} {b : Queues} (h : Models s b) : s.spare = PoolPackets - b.held := by
  obtain ⟨⟨free, q, hs, hq⟩, -⟩ := h
  have hsum := hs.shares.length
  rw [VNet.spare, hs.freeChain.walk (by omega), hq.held hs]
  omega

/-! ### Appending a datagram -/

theorem setSock_binding (s : VNet) {k : Nat} {v : Socket} (h : v.binding = (s.socks k).binding) (i : Nat) :
    ((s.setSock k v).socks i).binding = (s.socks i).binding := by
  by_cases hik : i = k
  · subst hik
    simp only [setSock, Function.update_self, h]
  · simp only [setSock, Function.update_of_ne hik]

theorem pushToSocket_kept (s : VNet) (k : Nat) (srcIp : U32) (srcPort : U16) (data : Mem) (len : Nat) :
    (∀ i, ((s.pushToSocket k srcIp srcPort data len).socks i).binding = (s.socks i).binding) ∧
      (s.pushToSocket k srcIp srcPort data len).stats.dropNoSocket = s.stats.dropNoSocket := by
  by_cases hl : MaxDatagram < len
  · rw [pushToSocket_tooBig s k srcIp srcPort data len hl]
    exact ⟨fun i => rfl, rfl⟩
  by_cases hf : s.freeList < 0
  · rw [pushToSocket_full s k srcIp srcPort data len hf (by omega)]
    exact ⟨fun i => rfl, rfl⟩
  simp only [pushToSocket, allocPkt, if_neg hl, if_neg hf]
  split
  · exact ⟨setSock_binding _ rfl, rfl⟩
  · exact ⟨setSock_binding _ rfl, rfl⟩

theorem pushAll_kept (a : Arrival) (l : List Nat) (s : VNet) :
    (∀ i, ((s.pushAll a l).socks i).binding = (s.socks i).binding) ∧
      (s.pushAll a l).stats.dropNoSocket = s.stats.dropNoSocket := by
  induction l generalizing s with
  | nil => exact ⟨fun i => rfl, rfl⟩
  | cons k l ih =>
    obtain ⟨hbind, hstats⟩ := pushToSocket_kept s k a.srcIp a.srcPort a.data a.len
    obtain ⟨hbind', hstats'⟩ := ih (s.pushToSocket k a.srcIp a.srcPort a.data a.len)
    exact ⟨fun i => (hbind' i).trans (hbind i), hstats'.trans hstats⟩

/-- `onUdp` counts a datagram nobody listens for, and only that one. -/
theorem onUdp_kept (s : VNet) {k : Packet} {a : Arrival} (h : k.arrival = some a) :
    (∀ i, ((s.onUdp k.srcIp k.dstIp k.payload k.len).socks i).binding = (s.socks i).binding) ∧
      (s.onUdp k.srcIp k.dstIp k.payload k.len).stats.dropNoSocket =
        s.stats.dropNoSocket + if s.listeners a = [] then 1 else 0 := by
  unfold Packet.arrival at h
  dsimp only at h
  split at h
  · cases h
  · rename_i hlen
    split at h
    · cases h
    · rename_i hc
      obtain rfl := Option.some.inj h
      have hnil : s.listeners ⟨k.srcIp, k.dstIp, rd16 k.payload Udp4.SrcPort, rd16 k.payload Udp4.DstPort,
          k.payload.advance Udp4.Header, udpLength k.payload k.len - Udp4.Header⟩ = [] ↔
          ¬((List.range MaxSockets).any fun i => s.listens i k.dstIp (rd16 k.payload Udp4.DstPort)) = true := by
        rw [← List.map_eq_nil_iff, listeners_val, List.filter_eq_nil_iff]
        simp
      obtain ⟨hbind, hstats⟩ := pushAll_kept ⟨k.srcIp, k.dstIp, rd16 k.payload Udp4.SrcPort,
        rd16 k.payload Udp4.DstPort, k.payload.advance Udp4.Header, udpLength k.payload k.len - Udp4.Header⟩
        ((List.range MaxSockets).filter fun i => s.listens i k.dstIp (rd16 k.payload Udp4.DstPort))
        (s.count fun t => { t with rxUdp := t.rxUdp + 1 })
      unfold onUdp
      dsimp only
      rw [if_neg fun hl => hlen (.inr hl), if_neg hc, udpDemux_eq, Bool.false_or]
      split
      · rename_i hany
        rw [if_neg fun hn => hnil.mp hn hany]
        exact ⟨hbind, hstats.trans (BitVec.add_zero _).symm⟩
      · rename_i hany
        rw [if_pos (hnil.mpr hany)]
        exact ⟨hbind, congrArg (· + 1) hstats⟩

/-! ### One frame -/

theorem matching_eq (s : VNet) (m : UdpMessage) :
    s.matching m = (List.range MaxSockets).filter fun k => s.listens k m.dstIp m.dstPort := by
  refine List.filter_congr fun k _ => ?_
  rw [Bool.eq_iff_iff]
  simp only [listens, decide_eq_true_eq, Bool.and_eq_true, Bool.or_eq_true, beq_iff_eq]
  tauto

theorem learnMac_stats (s : VNet) (ip : U32) (mac : U64) : (s.learnMac ip mac).stats = s.stats := by
  unfold learnMac
  split
  · rfl
  · split <;> rfl

theorem onFrame_message {s : VNet} {m : UdpMessage} {frame : List U8} (h : m.OnWire frame)
    (hconf : s.configured = true) {dstMac : U64} (hmac : dstMac = s.mac ∨ dstMac = MacBroadcast)
    (hfor : s.isForUs m.dstIp = true) (srcMac : U64) :
    ∃ t : VNet, Hears s t ∧ t.stats.dropNoSocket = s.stats.dropNoSocket ∧
      (s.onFrame srcMac dstMac EtherType_IPv4 frame).1 = (t.deliverIpv4 h.packet).1 := by
  have hne : frame.isEmpty = false := by
    have hroom := h.room
    have htotal := h.total
    have hhdr : Udp4.Header = 8 := rfl
    have hul : m.udpLen = Udp4.Header + m.data.length := rfl
    cases frame with
    | nil => simp only [List.length_nil] at htotal; omega
    | cons x l => rfl
  have htakes : s.takesIpv4 dstMac EtherType_IPv4 frame = true := by
    simp only [takesIpv4, hconf, hne, hmac, Bool.not_false, Bool.and_self, Bool.or_eq_true, beq_iff_eq, BEq.rfl,
      Bool.and_true, Bool.true_and]
  refine ⟨((s.count fun t => { t with rxFrames := t.rxFrames + 1 }).count fun t =>
    { t with rxIp := t.rxIp + 1 }).learnMac m.srcIp srcMac, ?_, ?_, ?_⟩
  · exact (hears_count s _ rfl).trans ((hears_count _ _ rfl).trans (learnMac_hears ..))
  · rw [learnMac_stats]
    rfl
  · have hfor' : (s.count fun t => { t with rxFrames := t.rxFrames + 1 }).isForUs m.dstIp = true := hfor
    rw [onFrame_ipv4 htakes, onIpv4, h.input _ hfor']

/-- **Demultiplexing is exact.** A well-formed unfragmented datagram of at most 2048
bytes that reaches a configured interface goes to the open sockets bound to its port
on ANY or its address, or on whatever address if it is a broadcast: to the first of
them, in table order, for which there are free buffers, and behind what each has
queued. No other queue changes, no socket's binding or flags do, and only a datagram
without such a socket is counted as one. -/
theorem demux_exact (s₀ : VNet) (ops : List Op) (s : VNet) (hs : s = (s₀.reset.execAll ops).1)
    (hconf : s.configured = true) (srcMac dstMac : U64) (hmac : dstMac = s.mac ∨ dstMac = MacBroadcast)
    (m : UdpMessage) (frame : List U8) (hframe : m.OnWire frame) (hfor : s.isForUs m.dstIp = true)
    (hlen : m.data.length ≤ MaxDatagram) :
    let u := (s.onFrame srcMac dstMac EtherType_IPv4 frame).1
    (∀ k < MaxSockets, u.queued k =
      if k ∈ (s.matching m).take s.spare then s.queued k ++ [m.datagram] else s.queued k) ∧
      (∀ k, (u.socks k).binding = (s.socks k).binding) ∧
      u.stats.dropNoSocket = s.stats.dropNoSocket + if s.matching m = [] then 1 else 0 := by
  intro u
  obtain ⟨b, hb⟩ : ∃ b, Models s b := ⟨_, by rw [hs]; exact (execAll_models ops (reset_models s₀)).1⟩
  obtain ⟨t, hears, hcount, hu⟩ := onFrame_message hframe hconf hmac hfor srcMac
  generalize ha : Arrival.mk m.srcIp m.dstIp m.srcPort m.dstPort
    (((Mem.ofBytes frame).advance (headerLen (Mem.ofBytes frame))).advance Udp4.Header) m.data.length = a
  have harr : hframe.packet.arrival = some a := by rw [hframe.arrival, ha]
  have hdata : a.datagram = m.datagram := by
    rw [← ha, Arrival.datagram, UdpMessage.datagram, hframe.data]
  have hval : (s.listeners a).map Fin.val = s.matching m := by
    rw [listeners_val, matching_eq, ← ha]
  -- the bank of queues after the frame
  have hfits : ((s.listeners a).map fun k => (k, a.datagram)).filter (fun item => item.2.fits) =
      (s.listeners a).map fun k => (k, a.datagram) := by
    refine List.filter_eq_self.mpr fun item hitem => ?_
    obtain ⟨k, -, rfl⟩ := List.mem_map.mp hitem
    rw [hdata]
    exact decide_eq_true hlen
  have hafter := (hb.hears hears).deliver hframe.packet
  rw [harr, Option.elim_some, hears.listeners, hfits, ← hu, hdata] at hafter
  refine ⟨fun k hk => ?_, fun k => ?_, ?_⟩
  · have hqueue := Bank.putAll_queue b m.datagram (l := s.listeners a) ((List.nodup_finRange _).filter _)
      (fun j hj => by rw [(hb.queued j).2]; exact listeners_used hj) ⟨k, hk⟩
    have hmem : ⟨k, hk⟩ ∈ (s.listeners a).take (PoolPackets - b.held) ↔ k ∈ (s.matching m).take s.spare := by
      rw [← hval, hb.spare, ← List.map_take, List.mem_map]
      refine ⟨fun h => ⟨_, h, rfl⟩, ?_⟩
      rintro ⟨j, hj, rfl⟩
      exact hj
    have hold := (hb.queued ⟨k, hk⟩).1
    have hnew := (hafter.queued ⟨k, hk⟩).1
    rw [hqueue] at hnew
    show u.queued k = _
    rw [← hnew]
    by_cases htaken : k ∈ (s.matching m).take s.spare
    · have hlisten := List.mem_of_mem_take (hmem.mpr htaken)
      obtain ⟨q, hq⟩ := Option.isSome_iff_exists.mp ((hb.queued ⟨k, hk⟩).2.trans (listeners_used hlisten))
      rw [if_pos htaken, if_pos (hmem.mpr htaken), ← hold, hq]
      rfl
    · rw [if_neg htaken, if_neg fun h => htaken (hmem.mp h), hold]
  · show (((s.onFrame srcMac dstMac EtherType_IPv4 frame).1).socks k).binding = _
    rw [hu, deliverIpv4, if_pos (by rfl)]
    refine ((onUdp_kept t harr).1 k).trans ?_
    rw [hears.eq]
  · show ((s.onFrame srcMac dstMac EtherType_IPv4 frame).1).stats.dropNoSocket = _
    rw [hu, deliverIpv4, if_pos (by rfl)]
    refine ((onUdp_kept t harr).2).trans ?_
    rw [hcount, hears.listeners, ← hval]
    simp only [List.map_eq_nil_iff]

/-- Two bytes broadcast from 10.0.0.2 port 5000 to port 6000. -/
def greeting : UdpMessage := ⟨0x0A000002, 0x0A0000FF, 5000, 6000, [0x68, 0x69]⟩

def greetingFrame : List U8 :=
  [0x45, 0x00, 0x00, 0x1e, 0x00, 0x01, 0x00, 0x00, 0x40, 0x11, 0x65, 0xce, 0x0a, 0x00, 0x00, 0x02,
    0x0a, 0x00, 0x00, 0xff, 0x13, 0x88, 0x17, 0x70, 0x00, 0x0a, 0x57, 0x78, 0x68, 0x69]

/-- Two of three sockets are bound to the port, one of them on the interface's own
address, and both get the broadcast. -/
theorem demux_exact_fanout :
    let s := (fresh.reset.execAll [.configure 0x020000000001 0x0A000001 0xFFFFFF00 1500, .udpOpen, .udpOpen,
      .udpOpen, .udpBind 0 0x0A000001 6000, .udpBind 1 0 7000, .udpBind 2 0 6000]).1
    let u := (s.onFrame 0x020000000002 MacBroadcast EtherType_IPv4 greetingFrame).1
    u.queued 0 = [greeting.datagram] ∧ u.queued 1 = [] ∧ u.queued 2 = [greeting.datagram] := by
  intro s u
  have hframe : greeting.OnWire greetingFrame := by constructor <;> decide +kernel
  obtain ⟨hqueues, -, -⟩ := demux_exact fresh _ s rfl (by decide) 0x020000000002 MacBroadcast (.inr rfl) greeting
    greetingFrame hframe (by decide) (by decide)
  have htaken : (s.matching greeting).take s.spare = [0, 2] := by decide +kernel
  rw [htaken] at hqueues
  refine ⟨(hqueues 0 (by decide)).trans ?_, (hqueues 1 (by decide)).trans ?_, (hqueues 2 (by decide)).trans ?_⟩
  all_goals decide +kernel

end VNet

end SysZerotier.Net
