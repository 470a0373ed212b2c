import SysZerotier.Net.RoundTrip
import SysZerotier.Net.ArpCache

/-! What an interface tells its neighbours.

Every frame it emits is an ARP request to everyone, an ARP reply, or an IPv4 packet to
the MAC its cache names for the destination, and each carries the interface's own
address and MAC (`exec_emits`, `onFrame_answers`). A frame teaches its receiver at most
one pair of address and MAC (`onFrame_host`). -/
namespace SysZerotier.Net

/-! ### ARP packets -/

theorem macToBytes_inside (mac : U64) (p : Mem) (off : Nat) {i : Nat} (h : i < 6) :
    macToBytes mac p off (off + i) = mac.extractLsb' (8 * (5 - i)) 8 := by
  rw [macToBytes, if_pos (by omega), Nat.add_sub_cancel_left]

theorem macToBytes_outside (mac : U64) (p : Mem) {off i : Nat} (h : i < off ∨ off + 6 ≤ i) :
    macToBytes mac p off i = p i := by
  rw [macToBytes, if_neg (by omega)]

/-- Six bytes hold a MAC of 48 bits. -/
theorem macFromBytes_eq {p : Mem} {mac : U64} (hmac : mac.toNat < 2 ^ 48)
    (h : ∀ i, i < 6 → p i = mac.extractLsb' (8 * (5 - i)) 8) : macFromBytes p = mac := by
  unfold macFromBytes
  rw [h 0 (by omega), h 1 (by omega), h 2 (by omega), h 3 (by omega), h 4 (by omega), h 5 (by omega)]
  apply BitVec.eq_of_getLsbD_eq
  intro i hi
  have htop : 48 ≤ i → mac.getLsbD i = false := fun h48 =>
    Nat.testBit_lt_two_pow (lt_of_lt_of_le hmac (Nat.pow_le_pow_right (by omega) h48))
  simp only [BitVec.getLsbD_or, BitVec.getLsbD_shiftLeft, BitVec.getLsbD_setWidth, BitVec.getLsbD_extractLsb']
  by_cases h48 : 48 ≤ i
  · rw [htop h48]
    simp [show ¬i - 40 < 8 by omega, show ¬i - 32 < 8 by omega, show ¬i - 24 < 8 by omega,
      show ¬i - 16 < 8 by omega, show ¬i - 8 < 8 by omega, show ¬i < 8 by omega]
  · interval_cases i <;> simp

namespace VNet

/-- The packet of `sendArpRequest` and the reply of `onArp`. -/
def arpPacket (op : U16) (senderMac : U64) (senderIp : U32) (targetMac : U64) (targetIp : U32) : Mem :=
  let req := Mem.zero
  let req := wr16 req Arp4.HwType 1
  let req := wr16 req Arp4.ProtoType EtherType_IPv4
  let req := req.set Arp4.HwLen 6
  let req := req.set Arp4.ProtoLen 4
  let req := wr16 req Arp4.Op op
  let req := macToBytes senderMac req Arp4.SenderMac
  let req := wr32 req Arp4.SenderIp senderIp
  let req := macToBytes targetMac req Arp4.TargetMac
  wr32 req Arp4.TargetIp targetIp

/-- What the receiver of an ARP packet reads. -/
structure ArpFields (p : Mem) (op : U16) (senderMac : U64) (senderIp targetIp : U32) : Prop where
  hwType : rd16 p Arp4.HwType = 1
  protoType : rd16 p Arp4.ProtoType = EtherType_IPv4
  hwLen : p Arp4.HwLen = 6
  protoLen : p Arp4.ProtoLen = 4
  op : rd16 p Arp4.Op = op
  senderMac : macFromBytes (p.advance Arp4.SenderMac) = senderMac
  senderIp : rd32 p Arp4.SenderIp = senderIp
  targetIp : rd32 p Arp4.TargetIp = targetIp

theorem rd16_macToBytes_other (mac : U64) (p : Mem) {off i : Nat} (h : i + 1 < off ∨ off + 6 ≤ i) :
    rd16 (macToBytes mac p off) i = rd16 p i :=
  rd16_congr (macToBytes_outside mac p (by omega)) (macToBytes_outside mac p (by omega))

theorem rd32_macToBytes_other (mac : U64) (p : Mem) {off i : Nat} (h : i + 3 < off ∨ off + 6 ≤ i) :
    rd32 (macToBytes mac p off) i = rd32 p i :=
  rd32_congr fun j _ _ => macToBytes_outside mac p (by omega)

theorem arpPacket_fields (op : U16) {senderMac : U64} (senderIp : U32) (targetMac : U64) (targetIp : U32)
    (hmac : senderMac.toNat < 2 ^ 48) :
    ArpFields (Mem.ofBytes ((arpPacket op senderMac senderIp targetMac targetIp).bytes Arp4.Size)) op senderMac
      senderIp targetIp := by
  have hread : ∀ i, i < Arp4.Size →
      Mem.ofBytes ((arpPacket op senderMac senderIp targetMac targetIp).bytes Arp4.Size) i =
        arpPacket op senderMac senderIp targetMac targetIp i := fun i hi => Mem.ofBytes_bytes _ _ i hi
  have h16 : ∀ i, i + 1 < Arp4.Size →
      rd16 (Mem.ofBytes ((arpPacket op senderMac senderIp targetMac targetIp).bytes Arp4.Size)) i =
        rd16 (arpPacket op senderMac senderIp targetMac targetIp) i :=
    fun i hi => rd16_congr (hread i (by omega)) (hread (i + 1) hi)
  have h32 : ∀ i, i + 3 < Arp4.Size →
      rd32 (Mem.ofBytes ((arpPacket op senderMac senderIp targetMac targetIp).bytes Arp4.Size)) i =
        rd32 (arpPacket op senderMac senderIp targetMac targetIp) i :=
    fun i hi => rd32_congr fun j _ _ => hread j (by omega)
  refine ⟨?_, ?_, ?_, ?_, ?_, macFromBytes_eq hmac fun i hi => ?_, ?_, ?_⟩
  · rw [h16 _ (by decide)]
    simp (disch := decide) only [arpPacket, rd16_wr32_other, rd16_macToBytes_other, rd16_wr16_other,
      rd16_set_other, rd16_wr16]
  · rw [h16 _ (by decide)]
    simp (disch := decide) only [arpPacket, rd16_wr32_other, rd16_macToBytes_other, rd16_wr16_other,
      rd16_set_other, rd16_wr16]
  · rw [hread _ (by decide)]
    simp (disch := decide) only [arpPacket, wr32_other, macToBytes_outside, wr16_other, Mem.set_other,
      Mem.set_same]
  · rw [hread _ (by decide)]
    simp (disch := decide) only [arpPacket, wr32_other, macToBytes_outside, wr16_other, Mem.set_same]
  · rw [h16 _ (by decide)]
    simp (disch := decide) only [arpPacket, rd16_wr32_other, rd16_macToBytes_other, rd16_wr16]
  · have hlt : Arp4.SenderMac + i < Arp4.SenderIp := by
      have h8 : Arp4.SenderMac = 8 := rfl
      have h14 : Arp4.SenderIp = 14 := rfl
      omega
    rw [Mem.advance_apply, hread _ (lt_trans hlt (by decide)), arpPacket, wr32_other _ _ (.inl (lt_trans hlt (by decide))),
      macToBytes_outside _ _ (.inl (lt_trans hlt (by decide))), wr32_other _ _ (.inl hlt), macToBytes_inside _ _ _ hi]
  · rw [h32 _ (by decide)]
    simp (disch := decide) only [arpPacket, rd32_wr32_other, rd32_macToBytes_other, rd32_wr32]
  · rw [h32 _ (by decide)]
    simp only [arpPacket, rd32_wr32]

/-! ### What a host is -/

/-- Its addresses, its MTU and its ARP cache are as they were. -/
structure SameHost (s t : VNet) : Prop where
  configured : t.configured = s.configured
  mac : t.mac = s.mac
  ip : t.ip = s.ip
  netmask : t.netmask = s.netmask
  mtu : t.mtu = s.mtu
  arp : t.arp = s.arp

theorem SameHost.refl (s : VNet) : SameHost s s := ⟨rfl, rfl, rfl, rfl, rfl, rfl⟩

theorem SameHost.trans {s t u : VNet} (h : SameHost s t) (h' : SameHost t u) : SameHost s u :=
  ⟨h'.configured.trans h.configured, h'.mac.trans h.mac, h'.ip.trans h.ip, h'.netmask.trans h.netmask,
    h'.mtu.trans h.mtu, h'.arp.trans h.arp⟩

theorem SameHost.symm {s t : VNet} (h : SameHost s t) : SameHost t s :=
  ⟨h.configured.symm, h.mac.symm, h.ip.symm, h.netmask.symm, h.mtu.symm, h.arp.symm⟩

theorem SameHost.lookupMac {s t : VNet} (h : SameHost s t) (ip : U32) : t.lookupMac ip = s.lookupMac ip := by
  unfold VNet.lookupMac isBroadcast
  rw [h.netmask, h.ip, h.arp]

theorem Sends.sameHost {s t : VNet} (h : Sends s t) : SameHost s t := by
  rw [h.eq]
  exact ⟨rfl, rfl, rfl, rfl, rfl, rfl⟩

theorem implicitBind_sameHost (s : VNet) (vfd : Int) : SameHost s (s.implicitBind vfd).1 := by
  obtain ⟨k, n, heq⟩ := implicitBind_frame s vfd
  rw [heq]
  exact ⟨rfl, rfl, rfl, rfl, rfl, rfl⟩

theorem udpSendTo_sameHost (s : VNet) (vfd : Int) (dstIp : U32) (dstPort : U16) (buf : Mem) (len : Nat) :
    SameHost s (s.udpSendTo vfd dstIp dstPort buf len).1 := by
  unfold udpSendTo
  dsimp only
  split
  · exact .refl s
  · split
    · exact .refl s
    · split
      · exact ⟨rfl, rfl, rfl, rfl, rfl, rfl⟩
      · split
        · exact implicitBind_sameHost s vfd
        · exact (implicitBind_sameHost s vfd).trans ((sendIpv4_sends ..).sameHost.trans ⟨rfl, rfl, rfl, rfl, rfl, rfl⟩)

theorem sendEchoRequest_sameHost (s : VNet) (dstIp : U32) : SameHost s (s.sendEchoRequest dstIp).1 := by
  have hseq : SameHost s { s with echoSeq := s.echoSeq + 1 } := ⟨rfl, rfl, rfl, rfl, rfl, rfl⟩
  unfold sendEchoRequest
  dsimp only
  split
  · exact .refl s
  · exact hseq.trans ((sendIpv4_sends ..).sameHost.trans ⟨rfl, rfl, rfl, rfl, rfl, rfl⟩)

theorem freePkt_sameHost (s : VNet) (idx : Int) : SameHost s (s.freePkt idx) := by
  unfold freePkt
  split <;> exact ⟨rfl, rfl, rfl, rfl, rfl, rfl⟩

theorem freeQueue_sameHost (fuel : Nat) (s : VNet) (idx : Int) : SameHost s (s.freeQueue fuel idx) := by
  induction fuel generalizing s idx with
  | zero => exact .refl s
  | succ fuel ih =>
    rw [freeQueue]
    split
    · exact .refl s
    · exact (freePkt_sameHost s idx).trans (ih ..)

theorem udpRecvFrom_sameHost (s : VNet) (vfd : Int) (max : Nat) (peek : Bool) :
    SameHost s (s.udpRecvFrom vfd max peek).1 := by
  unfold udpRecvFrom
  dsimp only
  split
  · exact .refl s
  · split
    · exact .refl s
    · split
      · exact .refl s
      · exact ⟨(freePkt_sameHost ..).configured, (freePkt_sameHost ..).mac, (freePkt_sameHost ..).ip,
          (freePkt_sameHost ..).netmask, (freePkt_sameHost ..).mtu, (freePkt_sameHost ..).arp⟩

/-- The socket calls leave the host as it is. -/
theorem exec_sameHost (s : VNet) {op : Op} (hreset : op ≠ .reset)
    (hconf : ∀ mac ip netmask mtu, op ≠ .configure mac ip netmask mtu)
    (hframe : ∀ srcMac dstMac etherType payload, op ≠ .onFrame srcMac dstMac etherType payload) :
    SameHost s (s.exec op).1 := by
  cases op with
  | reset => exact absurd rfl hreset
  | configure mac ip netmask mtu => exact absurd rfl (hconf mac ip netmask mtu)
  | setEmit => exact ⟨rfl, rfl, rfl, rfl, rfl, rfl⟩
  | udpOpen =>
    show SameHost s s.udpOpen.1
    unfold udpOpen
    split <;> exact ⟨rfl, rfl, rfl, rfl, rfl, rfl⟩
  | udpBind vfd ip port =>
    show SameHost s (s.udpBind vfd ip port).1
    unfold udpBind
    dsimp only
    split_ifs <;> exact ⟨rfl, rfl, rfl, rfl, rfl, rfl⟩
  | udpSetBroadcast vfd on =>
    show SameHost s (s.udpSetBroadcast vfd on)
    unfold udpSetBroadcast
    split <;> exact ⟨rfl, rfl, rfl, rfl, rfl, rfl⟩
  | onFrame srcMac dstMac etherType payload => exact absurd rfl (hframe srcMac dstMac etherType payload)
  | udpRecvFrom vfd max peek => exact udpRecvFrom_sameHost s vfd max peek
  | udpSendTo vfd dstIp dstPort buf => exact udpSendTo_sameHost s vfd dstIp dstPort _ _
  | sendEchoRequest dstIp => exact sendEchoRequest_sameHost s dstIp
  | udpClose vfd =>
    show SameHost s (s.udpClose vfd)
    unfold udpClose
    split
    · exact .refl s
    · exact (freeQueue_sameHost PoolPackets s (s.socks vfd.toNat).qHead).trans ⟨rfl, rfl, rfl, rfl, rfl, rfl⟩

/-! ### What it emits -/

/-- The frame of `sendArpRequest`. -/
def arpRequest (s : VNet) (targetIp : U32) : Frame :=
  ⟨MacBroadcast, EtherType_ARP, (arpPacket Arp4.OpRequest s.mac s.ip 0 targetIp).bytes Arp4.Size⟩

/-- The frame `onArp` answers with. -/
def arpReply (s : VNet) (toMac : U64) (toIp : U32) : Frame :=
  ⟨toMac, EtherType_ARP, (arpPacket Arp4.OpReply s.mac s.ip toMac toIp).bytes Arp4.Size⟩

/-- A packet from the host's address to a neighbour its cache knows. -/
structure PacketTo (s : VNet) (dstIp : U32) (proto : U8) (fragOffsetBlocks : U16) (more : Bool)
    (data : Mem) (len : Nat) (f : Frame) : Prop where
  known : s.lookupMac dstIp ≠ 0
  dstMac : f.dstMac = s.lookupMac dstIp
  etherType : f.etherType = EtherType_IPv4
  built : ∃ id, Built s.ip dstIp proto id fragOffsetBlocks more data len f.payload

theorem PacketTo.congr {s t : VNet} (h : SameHost s t) {dstIp : U32} {proto : U8} {off : U16} {more : Bool}
    {data : Mem} {len : Nat} {f : Frame} (hp : PacketTo t dstIp proto off more data len f) :
    PacketTo s dstIp proto off more data len f := by
  obtain ⟨hknown, hmac, htype, hbuilt⟩ := hp
  rw [h.lookupMac] at hknown hmac
  rw [h.ip] at hbuilt
  exact ⟨hknown, hmac, htype, hbuilt⟩

theorem arpRequest_congr {s t : VNet} (h : SameHost s t) (ip : U32) : t.arpRequest ip = s.arpRequest ip := by
  unfold arpRequest
  rw [h.mac, h.ip]

theorem sendArpRequest_emits (s : VNet) (ip : U32) {f : Frame} (hf : f ∈ (s.sendArpRequest ip).2) :
    f = s.arpRequest ip := by
  unfold sendArpRequest at hf
  split at hf
  · cases hf
  · exact List.mem_singleton.mp hf

theorem emitIpFragment_emits {s : VNet} {dstMac : U64} {dstIp : U32} {proto : U8} {id off : U16} {more : Bool}
    {payload : Mem} {len : Nat} {f : Frame}
    (hf : f ∈ (s.emitIpFragment dstMac dstIp proto id off more payload len).2) :
    f.dstMac = dstMac ∧ f.etherType = EtherType_IPv4 ∧
      Built s.ip dstIp proto id off more payload len f.payload := by
  by_cases hemit : s.emitSet = true
  · by_cases hlen : Ip4.MinHeader + len ≤ MaxFrame
    · obtain ⟨pkt, hsent, hbuilt⟩ := emitIpFragment_built s dstMac dstIp proto id off more payload len hemit hlen
      rw [hsent, List.mem_singleton] at hf
      rw [hf]
      exact ⟨rfl, rfl, hbuilt⟩
    · rw [emitIpFragment, if_neg (by simp [hemit]), if_pos (by omega)] at hf
      cases hf
  · rw [emitIpFragment, if_pos (by simp [hemit])] at hf
    cases hf

theorem sendFragments_emits {dstMac : U64} {dstIp : U32} {proto : U8} {id : U16} {payload : Mem}
    {len chunk fuel : Nat} {s : VNet} {off : Nat} {f : Frame}
    (hf : f ∈ (sendFragments dstMac dstIp proto id payload len chunk fuel s off).2) :
    f.dstMac = dstMac ∧ f.etherType = EtherType_IPv4 ∧
      ∃ off more data n, Built s.ip dstIp proto id off more data n f.payload := by
  induction fuel generalizing s off with
  | zero => cases hf
  | succ fuel ih =>
    rw [sendFragments] at hf
    split at hf
    · rcases List.mem_append.mp hf with hf | hf
      · obtain ⟨hmac, htype, hbuilt⟩ := emitIpFragment_emits hf
        exact ⟨hmac, htype, _, _, _, _, hbuilt⟩
      · have hrest := ih hf
        rw [(emitIpFragment_sends ..).sameHost.ip] at hrest
        exact hrest
    · cases hf

/-- What `sendIpv4` emits: a request for the neighbour's MAC, or packets to it, and
one with the whole payload when that fits the MTU. -/
theorem sendIpv4_emits (s : VNet) (dstIp : U32) (proto : U8) (payload : Mem) (len : Nat) {f : Frame}
    (hf : f ∈ (s.sendIpv4 dstIp proto payload len).2) :
    s.lookupMac dstIp = 0 ∧ f = s.arpRequest dstIp ∨
      ∃ off more data n, PacketTo s dstIp proto off more data n f ∧
        (len ≤ s.mtu.toNat - Ip4.MinHeader → off = 0 ∧ more = false ∧ data = payload ∧ n = len) := by
  have hid : SameHost s { s with ipId := s.ipId + 1 } := ⟨rfl, rfl, rfl, rfl, rfl, rfl⟩
  unfold sendIpv4 at hf
  dsimp only at hf
  split at hf
  · exact .inl ⟨‹_›, sendArpRequest_emits s dstIp hf⟩
  · rename_i hknown
    split at hf
    · obtain ⟨hmac, htype, hbuilt⟩ := emitIpFragment_emits hf
      exact .inr ⟨0, false, payload, len, ⟨hknown, hmac, htype, _, hbuilt⟩, fun _ => ⟨rfl, rfl, rfl, rfl⟩⟩
    · rename_i hlarge
      obtain ⟨hmac, htype, off, more, data, n, hbuilt⟩ := sendFragments_emits hf
      exact .inr ⟨off, more, data, n, ⟨hknown, hmac, htype, _, hbuilt⟩, fun h => absurd h hlarge⟩

/-- What fits the MTU goes out in one frame at most. -/
theorem sendIpv4_single (s : VNet) (dstIp : U32) (proto : U8) (payload : Mem) {len : Nat}
    (hlen : len ≤ s.mtu.toNat - Ip4.MinHeader) : (s.sendIpv4 dstIp proto payload len).2.length ≤ 1 := by
  unfold sendIpv4
  dsimp only
  rw [if_pos hlen]
  split
  · unfold sendArpRequest
    split <;> simp
  · unfold emitIpFragment
    split
    · simp
    · split <;> simp

/-- A packet of a datagram: the whole datagram when that fits the MTU. -/
def DatagramTo (s : VNet) (dstIp : U32) (dstPort : U16) (buf : Mem) (len : Nat) (f : Frame) : Prop :=
  ∃ srcPort off more data n, PacketTo s dstIp IpProto_UDP off more data n f ∧
    (Udp4.Header + len ≤ s.mtu.toNat - Ip4.MinHeader → off = 0 ∧ more = false ∧
      data = wr16 (udpDatagram srcPort dstPort buf len) Udp4.Csum
        (udpChecksum s.ip dstIp (udpDatagram srcPort dstPort buf len) (Udp4.Header + len)) ∧
      n = Udp4.Header + len)

/-- A send asks for the neighbour's MAC, or it emits the datagram's packets. -/
theorem udpSendTo_emits {s : VNet} {vfd : Int} {dstIp : U32} {dstPort : U16} {buf : Mem} {len : Nat} {f : Frame}
    (hf : f ∈ (s.udpSendTo vfd dstIp dstPort buf len).2.1) :
    s.configured = true ∧ len ≤ MaxDatagram ∧
      (s.lookupMac dstIp = 0 ∧ f = s.arpRequest dstIp ∨ DatagramTo s dstIp dstPort buf len f) := by
  have hbound := implicitBind_sameHost s vfd
  unfold udpSendTo at hf
  dsimp only at hf
  split at hf
  · cases hf
  · split at hf
    · cases hf
    · rename_i hconf
      split at hf
      · cases hf
      · rename_i hlen
        split at hf
        · cases hf
        · refine ⟨by simpa using hconf, not_lt.mp hlen, ?_⟩
          rcases sendIpv4_emits _ _ _ _ _ hf with ⟨hunknown, heq⟩ | ⟨off, more, data, n, hp, hwhole⟩
          · exact .inl ⟨(hbound.lookupMac dstIp).symm.trans hunknown, heq.trans (arpRequest_congr hbound dstIp)⟩
          · rw [hbound.mtu, hbound.ip] at hwhole
            exact .inr ⟨_, off, more, data, n, hp.congr hbound, hwhole⟩

/-- What a host emits of its own accord: requests for a neighbour's MAC, the datagrams
it is given and echo requests in one piece. -/
theorem exec_emits {s : VNet} {op : Op} (hmtu : 576 ≤ s.mtu.toNat)
    (hframe : ∀ srcMac dstMac etherType payload, op ≠ .onFrame srcMac dstMac etherType payload) {f : Frame}
    (hf : f ∈ (s.exec op).2.frames) :
    s.configured = true ∧ ((∃ ip, f = s.arpRequest ip) ∨
      (∃ vfd dstIp dstPort buf, op = .udpSendTo vfd dstIp dstPort buf ∧ buf.length ≤ MaxDatagram ∧
        DatagramTo s dstIp dstPort (Mem.ofBytes buf) buf.length f) ∨
      ∃ dstIp data, PacketTo s dstIp IpProto_ICMP 0 false data 16 f) := by
  cases op with
  | onFrame srcMac dstMac etherType payload => exact absurd rfl (hframe srcMac dstMac etherType payload)
  | udpSendTo vfd dstIp dstPort buf =>
    obtain ⟨hconf, hlen, ⟨-, heq⟩ | hto⟩ := udpSendTo_emits hf
    · exact ⟨hconf, .inl ⟨dstIp, heq⟩⟩
    · exact ⟨hconf, .inr (.inl ⟨vfd, dstIp, dstPort, buf, rfl, hlen, hto⟩)⟩
  | sendEchoRequest dstIp =>
    have hseq : SameHost s { s with echoSeq := s.echoSeq + 1 } := ⟨rfl, rfl, rfl, rfl, rfl, rfl⟩
    change f ∈ (s.sendEchoRequest dstIp).2.1 at hf
    unfold sendEchoRequest at hf
    dsimp only at hf
    split at hf
    · cases hf
    · rename_i hidle
      simp only [Bool.or_eq_true, Bool.not_eq_true', not_or, Bool.not_eq_false] at hidle
      refine ⟨hidle.1, ?_⟩
      have hmin : Ip4.MinHeader = 20 := rfl
      rcases sendIpv4_emits _ _ _ _ _ hf with ⟨-, heq⟩ | ⟨off, more, data, n, hp, hwhole⟩
      · exact .inl ⟨dstIp, heq.trans (arpRequest_congr hseq dstIp)⟩
      · obtain ⟨rfl, rfl, -, rfl⟩ := hwhole (show 16 ≤ s.mtu.toNat - Ip4.MinHeader by omega)
        exact .inr (.inr ⟨dstIp, data, hp.congr hseq⟩)
  | _ => cases hf

/-! ### What it makes of a frame -/

/-- The reply of `onIcmp`. -/
def echoReply (p : Mem) (len : Nat) : Mem :=
  let reply := memcpy Mem.zero 0 p len
  let reply := reply.set Icmp4.MsgType Icmp4.EchoReply
  let reply := wr16 reply Icmp4.Csum 0
  wr16 reply Icmp4.Csum (checksum16 reply len 0)

theorem reassemble_sameHost (s : VNet) (srcIp dstIp : U32) (id : U16) (proto : U8) (off : U16) (more : Bool)
    (payload : Mem) (plen : Nat) :
    SameHost s (s.reassemble srcIp dstIp id proto off more payload plen).1 := by
  unfold reassemble
  dsimp only
  split_ifs <;> exact ⟨rfl, rfl, rfl, rfl, rfl, rfl⟩

theorem reassemble_packet {s t : VNet} {srcIp dstIp : U32} {id : U16} {proto : U8} {off : U16} {more : Bool}
    {payload : Mem} {plen : Nat} {k : Packet}
    (h : s.reassemble srcIp dstIp id proto off more payload plen = (t, some k)) :
    k.srcIp = srcIp ∧ k.proto = proto := by
  have hk := congrArg Prod.snd h
  unfold reassemble at hk
  dsimp only at hk
  split_ifs at hk <;> cases hk <;> exact ⟨rfl, rfl⟩

/-- An IPv4 packet is dropped, or it has taught its source's MAC; what it hands on
comes from that source. -/
theorem ipv4Input_host (s : VNet) (srcMac : U64) (p : Mem) (len : Nat) :
    SameHost s (s.ipv4Input srcMac p len).1 ∧ (s.ipv4Input srcMac p len).2 = none ∨
      SameHost (s.learnMac (rd32 p Ip4.Src) srcMac) (s.ipv4Input srcMac p len).1 ∧
        ∀ k, (s.ipv4Input srcMac p len).2 = some k → k.srcIp = rd32 p Ip4.Src ∧ k.proto = p Ip4.Proto := by
  unfold ipv4Input
  dsimp only
  split
  · exact .inl ⟨⟨rfl, rfl, rfl, rfl, rfl, rfl⟩, rfl⟩
  · split
    · exact .inl ⟨⟨rfl, rfl, rfl, rfl, rfl, rfl⟩, rfl⟩
    · split
      · exact .inl ⟨⟨rfl, rfl, rfl, rfl, rfl, rfl⟩, rfl⟩
      · split
        · exact .inl ⟨⟨rfl, rfl, rfl, rfl, rfl, rfl⟩, rfl⟩
        · split
          · exact .inl ⟨⟨rfl, rfl, rfl, rfl, rfl, rfl⟩, rfl⟩
          · rw [learnMac_count]
            have hlearn : SameHost (s.learnMac (rd32 p Ip4.Src) srcMac)
              ((s.learnMac (rd32 p Ip4.Src) srcMac).count fun t => { t with rxIp := t.rxIp + 1 }) :=
              ⟨rfl, rfl, rfl, rfl, rfl, rfl⟩
            split
            · refine .inr ⟨hlearn, fun k hk => ?_⟩
              rw [← Option.some.inj hk]
              exact ⟨rfl, rfl⟩
            · exact .inr ⟨hlearn.trans (reassemble_sameHost ..), fun k hk => reassemble_packet (Prod.ext rfl hk)⟩

theorem onIcmp_host (s : VNet) (srcIp : U32) (p : Mem) (len : Nat) :
    SameHost s (s.onIcmp srcIp p len).1 := (onIcmp_sends s srcIp p len).sameHost

/-- An echo request is answered with what `sendIpv4` makes of the reply. -/
theorem onIcmp_answers (s : VNet) (srcIp : U32) (p : Mem) (len : Nat) :
    (s.onIcmp srcIp p len).2 = [] ∨ p Icmp4.MsgType = Icmp4.EchoRequest ∧
      ∃ t, SameHost s t ∧
        (s.onIcmp srcIp p len).2 = (t.sendIpv4 srcIp IpProto_ICMP (echoReply p len) len).2 := by
  unfold onIcmp
  dsimp only
  split
  · exact .inl rfl
  · rename_i hreq
    split
    · exact .inl rfl
    · split
      · exact .inl rfl
      · exact .inr ⟨not_ne_iff.mp (not_or.mp hreq).2, s.count fun t => { t with rxIcmp := t.rxIcmp + 1 },
          ⟨rfl, rfl, rfl, rfl, rfl, rfl⟩, rfl⟩

theorem pushAll_host (a : Arrival) (l : List Nat) (s : VNet) : SameHost s (s.pushAll a l) := by
  induction l generalizing s with
  | nil => exact .refl s
  | cons i l ih =>
    obtain ⟨⟨f, p, q, t, heq⟩, -⟩ := pushToSocket_frame s i a.srcIp a.srcPort a.data a.len
    have hpush : SameHost s (s.pushToSocket i a.srcIp a.srcPort a.data a.len) := by
      rw [heq]
      exact ⟨rfl, rfl, rfl, rfl, rfl, rfl⟩
    exact hpush.trans (ih _)

theorem deliverIpv4_host (s : VNet) (k : Packet) : SameHost s (s.deliverIpv4 k).1 := by
  unfold deliverIpv4
  split
  · rename_i hudp
    cases ha : k.arrival with
    | none =>
      obtain ⟨f, -, heq⟩ := onUdp_none s hudp ha
      rw [heq]
      exact ⟨rfl, rfl, rfl, rfl, rfl, rfl⟩
    | some a =>
      obtain ⟨f, -, heq⟩ := onUdp_some s ha
      have hall := pushAll_host a ((s.listeners a).map Fin.val) (s.count fun t => { t with rxUdp := t.rxUdp + 1 })
      rw [heq]
      exact ⟨hall.configured, hall.mac, hall.ip, hall.netmask, hall.mtu, hall.arp⟩
  · split
    · exact onIcmp_host ..
    · exact .refl s

/-- What a frame teaches: an ARP packet the pair its sender names, an IPv4 packet its
source address and the MAC it came from. -/
def Teaches (srcMac : U64) (etherType : U16) (payload : List U8) (ip : U32) (mac : U64) : Prop :=
  let p := Mem.ofBytes payload
  etherType = EtherType_ARP ∧ Arp4.Size ≤ payload.length ∧ ip = rd32 p Arp4.SenderIp ∧
      mac = (if macFromBytes (p.advance Arp4.SenderMac) ≠ 0 then macFromBytes (p.advance Arp4.SenderMac)
        else srcMac) ∨
    etherType = EtherType_IPv4 ∧ ip = rd32 p Ip4.Src ∧ mac = srcMac

theorem onArp_host (s : VNet) (srcMac : U64) (p : Mem) (len : Nat) :
    SameHost s (s.onArp srcMac p len).1 ∨ Arp4.Size ≤ len ∧
      SameHost (s.learnMac (rd32 p Arp4.SenderIp)
        (if macFromBytes (p.advance Arp4.SenderMac) ≠ 0 then macFromBytes (p.advance Arp4.SenderMac) else srcMac))
        (s.onArp srcMac p len).1 := by
  unfold onArp
  dsimp only
  split
  · exact .inl ⟨rfl, rfl, rfl, rfl, rfl, rfl⟩
  · rename_i hlen
    split
    · exact .inl ⟨rfl, rfl, rfl, rfl, rfl, rfl⟩
    · split
      · exact .inl ⟨rfl, rfl, rfl, rfl, rfl, rfl⟩
      · refine .inr ⟨not_lt.mp hlen, ?_⟩
        generalize (if macFromBytes (p.advance Arp4.SenderMac) ≠ 0 then macFromBytes (p.advance Arp4.SenderMac)
          else srcMac) = mac
        rw [learnMac_count]
        split
        · exact ⟨rfl, rfl, rfl, rfl, rfl, rfl⟩
        · split <;> exact ⟨rfl, rfl, rfl, rfl, rfl, rfl⟩

/-- An ARP request for the host's address is answered, and nothing else is. -/
theorem onArp_answers (s : VNet) (srcMac : U64) (p : Mem) (len : Nat) :
    (s.onArp srcMac p len).2 = [] ∨ rd16 p Arp4.Op = Arp4.OpRequest ∧
      (s.onArp srcMac p len).2 = [s.arpReply (macFromBytes (p.advance Arp4.SenderMac)) (rd32 p Arp4.SenderIp)] := by
  have hears := (learnMac_hears (s.count fun t => { t with rxArp := t.rxArp + 1 }) (rd32 p Arp4.SenderIp)
    (if macFromBytes (p.advance Arp4.SenderMac) ≠ 0 then macFromBytes (p.advance Arp4.SenderMac) else srcMac)).eq
  unfold onArp
  dsimp only
  generalize (s.count fun t => { t with rxArp := t.rxArp + 1 }).learnMac (rd32 p Arp4.SenderIp)
    (if macFromBytes (p.advance Arp4.SenderMac) ≠ 0 then macFromBytes (p.advance Arp4.SenderMac) else srcMac) = t
    at hears ⊢
  split
  · exact .inl rfl
  · split
    · exact .inl rfl
    · split
      · exact .inl rfl
      · split
        · exact .inl rfl
        · rename_i hreq
          split
          · exact .inl rfl
          · refine .inr ⟨not_ne_iff.mp (not_or.mp hreq).1, ?_⟩
            rw [hears]
            rfl

/-- A frame leaves the host as it was, but for what it teaches. -/
theorem onFrame_host (s : VNet) (srcMac dstMac : U64) (etherType : U16) (payload : List U8) :
    SameHost s (s.onFrame srcMac dstMac etherType payload).1 ∨ ∃ ip mac,
      Teaches srcMac etherType payload ip mac ∧
        SameHost (s.learnMac ip mac) (s.onFrame srcMac dstMac etherType payload).1 := by
  have hcount : SameHost s (s.count fun t => { t with rxFrames := t.rxFrames + 1 }) :=
    ⟨rfl, rfl, rfl, rfl, rfl, rfl⟩
  have hlearn : ∀ ip mac, SameHost (s.learnMac ip mac)
      ((s.count fun t => { t with rxFrames := t.rxFrames + 1 }).learnMac ip mac) := by
    intro ip mac
    rw [learnMac_count]
    exact ⟨rfl, rfl, rfl, rfl, rfl, rfl⟩
  unfold onFrame
  dsimp only
  generalize (s.count fun t => { t with rxFrames := t.rxFrames + 1 }) = t at hcount hlearn ⊢
  split
  · exact .inl hcount
  · split
    · exact .inl (hcount.trans ⟨rfl, rfl, rfl, rfl, rfl, rfl⟩)
    · split
      · rename_i harp
        rcases onArp_host t srcMac (Mem.ofBytes payload) payload.length with h | ⟨hlen, h⟩
        · exact .inl (hcount.trans h)
        · exact .inr ⟨_, _, .inl ⟨harp, hlen, rfl, rfl⟩, (hlearn _ _).trans h⟩
      · split
        · rename_i hip
          have hinput := ipv4Input_host t srcMac (Mem.ofBytes payload) payload.length
          rw [onIpv4]
          generalize t.ipv4Input srcMac (Mem.ofBytes payload) payload.length = input at hinput ⊢
          obtain ⟨u, _ | k⟩ := input
          · rcases hinput with ⟨h, -⟩ | ⟨h, -⟩
            · exact .inl (hcount.trans h)
            · exact .inr ⟨_, _, .inr ⟨hip, rfl, rfl⟩, (hlearn _ _).trans h⟩
          · rcases hinput with ⟨-, h⟩ | ⟨h, -⟩
            · cases h
            · exact .inr ⟨_, _, .inr ⟨hip, rfl, rfl⟩, (hlearn _ _).trans (h.trans (deliverIpv4_host u k))⟩
        · exact .inl hcount

/-- A packet that was not cut is handed on as it is. -/
theorem ipv4Input_whole {s : VNet} {srcMac : U64} {pkt : List U8} {srcIp dstIp : U32} {proto : U8} {id : U16}
    {data : Mem} {len : Nat} (hb : Built srcIp dstIp proto id 0 false data len pkt)
    (hlen : Ip4.MinHeader + len < 65536) {k : Packet}
    (hk : (s.ipv4Input srcMac (Mem.ofBytes pkt) pkt.length).2 = some k) :
    k = ⟨srcIp, dstIp, proto, (Mem.ofBytes pkt).advance Ip4.MinHeader, len⟩ := by
  have hmin : Ip4.MinHeader = 20 := rfl
  have hihl : (Mem.ofBytes pkt Ip4.VerIhl &&& (0x0F : U8)).toNat * 4 = Ip4.MinHeader := by
    rw [hb.fields.verIhl]
    rfl
  have hflags : rd16 (Mem.ofBytes pkt) Ip4.FlagsFrag = 0 := by
    rw [hb.fields.flagsFrag]
    rfl
  have htotal : (rd16 (Mem.ofBytes pkt) Ip4.TotalLen).toNat = Ip4.MinHeader + len := by
    rw [hb.fields.totalLen, BitVec.toNat_ofNat]
    exact Nat.mod_eq_of_lt hlen
  unfold ipv4Input at hk
  have huncut : (0 &&& Ip4.FragOffsetMask) * 8 = 0 ∧ ((0 &&& Ip4.FlagMoreFragments != 0) = false) := by
    simp
  simp only [hihl, hflags, htotal, hb.length, hb.fields.src, hb.fields.dst, hb.fields.proto, lt_irrefl,
    if_false, if_pos huncut] at hk
  split_ifs at hk
  rw [Nat.add_sub_cancel_left] at hk
  exact (Option.some.inj hk).symm

/-- What a frame is answered with: a request for the host's MAC with the MAC, an echo
request with what `sendIpv4` makes of the reply. -/
theorem onFrame_answers (s : VNet) (srcMac dstMac : U64) (etherType : U16) (payload : List U8) :
    (s.onFrame srcMac dstMac etherType payload).2 = [] ∨ s.configured = true ∧
      (etherType = EtherType_ARP ∧ rd16 (Mem.ofBytes payload) Arp4.Op = Arp4.OpRequest ∧
          (s.onFrame srcMac dstMac etherType payload).2 =
            [s.arpReply (macFromBytes ((Mem.ofBytes payload).advance Arp4.SenderMac))
              (rd32 (Mem.ofBytes payload) Arp4.SenderIp)] ∨
        etherType = EtherType_IPv4 ∧ ∃ (t u : VNet) (k : Packet),
          SameHost (s.onFrame srcMac dstMac etherType payload).1 t ∧
          (u.ipv4Input srcMac (Mem.ofBytes payload) payload.length).2 = some k ∧ k.proto = IpProto_ICMP ∧
          k.payload Icmp4.MsgType = Icmp4.EchoRequest ∧
          (s.onFrame srcMac dstMac etherType payload).2 =
            (t.sendIpv4 k.srcIp IpProto_ICMP (echoReply k.payload k.len) k.len).2) := by
  have hconf : (s.count fun t => { t with rxFrames := t.rxFrames + 1 }).configured = s.configured := rfl
  have hreply : ∀ mac ip,
      (s.count fun t => { t with rxFrames := t.rxFrames + 1 }).arpReply mac ip = s.arpReply mac ip :=
    fun _ _ => rfl
  unfold onFrame
  dsimp only
  generalize (s.count fun t => { t with rxFrames := t.rxFrames + 1 }) = v at hconf hreply ⊢
  split
  · exact .inl rfl
  · rename_i hidle
    simp only [Bool.or_eq_true, Bool.not_eq_true', not_or, Bool.not_eq_false] at hidle
    rw [hconf] at hidle
    split
    · exact .inl rfl
    · split
      · rename_i harp
        rcases onArp_answers v srcMac (Mem.ofBytes payload) payload.length with h | ⟨hreq, h⟩
        · exact .inl h
        · exact .inr ⟨hidle.1, .inl ⟨harp, hreq, h.trans (by rw [hreply])⟩⟩
      · split
        · rename_i hip
          rw [onIpv4]
          generalize hinput : v.ipv4Input srcMac (Mem.ofBytes payload) payload.length = input
          obtain ⟨u, _ | k⟩ := input
          · exact .inl rfl
          · dsimp only
            have hhost := deliverIpv4_host u k
            unfold deliverIpv4 at hhost ⊢
            split
            · exact .inl rfl
            · rename_i hudp
              rw [if_neg hudp] at hhost
              split
              · rename_i hicmp
                rw [if_pos hicmp] at hhost
                rcases onIcmp_answers u k.srcIp k.payload k.len with h | ⟨hreq, t, ht, h⟩
                · exact .inl h
                · exact .inr ⟨hidle.1, .inr ⟨hip, t, v, k, hhost.symm.trans ht, by rw [hinput], hicmp, hreq, h⟩⟩
              · exact .inl rfl
        · exact .inl rfl

end VNet

end SysZerotier.Net
