import SysZerotier.Net.FirstContact

/-! An echo request to everybody.

A console that only waits is not found: no neighbour's cache names it. Its port therefore
sends an echo request to the broadcast address now and then. Whoever gets it learns from it
where the sender is, and the reply tells the sender in turn (`introduced`). -/
namespace SysZerotier.Net
namespace VNet

/-! ### A packet in one frame -/

/-- What fits into one frame is sent in one. -/
theorem sendIpv4_oneFrame {s : VNet} (hemit : s.emitSet = true) {dstIp : U32} (hmac : s.lookupMac dstIp ≠ 0)
    (proto : U8) (payload : Mem) {len : Nat} (hmtu : Ip4.MinHeader + len ≤ s.mtu.toNat)
    (hframe : Ip4.MinHeader + len ≤ MaxFrame) :
    ∃ pkt, (s.sendIpv4 dstIp proto payload len).2 = [⟨s.lookupMac dstIp, EtherType_IPv4, pkt⟩] ∧
      Built s.ip dstIp proto s.ipId 0 false payload len pkt := by
  obtain ⟨pkt, hpkt, hbuilt⟩ := emitIpFragment_built { s with ipId := s.ipId + 1 } (s.lookupMac dstIp) dstIp proto
    s.ipId 0 false payload len hemit hframe
  refine ⟨pkt, ?_, hbuilt⟩
  rw [sendIpv4, if_neg hmac, if_pos (by omega), hpkt]

/-- A packet that was not cut, for the interface, is learnt from and handed on. -/
theorem onFrame_whole {s : VNet} (hconf : s.configured = true) {dstMac : U64}
    (hdst : dstMac = s.mac ∨ dstMac = MacBroadcast) {srcIp dstIp : U32} (hfor : s.isForUs dstIp = true) {proto : U8}
    {id : U16} {data : Mem} {len : Nat} {pkt : List U8} (hb : Built srcIp dstIp proto id 0 false data len pkt)
    (hlen : Ip4.MinHeader + len < 65536) (srcMac : U64) :
    ∃ t : VNet, SameHost (s.learnMac srcIp srcMac) t ∧ t.emitSet = s.emitSet ∧
      s.onFrame srcMac dstMac EtherType_IPv4 pkt =
        t.deliverIpv4 ⟨srcIp, dstIp, proto, (Mem.ofBytes pkt).advance Ip4.MinHeader, len⟩ := by
  have hmin : Ip4.MinHeader = 20 := rfl
  have hihl : (Mem.ofBytes pkt Ip4.VerIhl &&& (0x0F : U8)).toNat * 4 = Ip4.MinHeader := by
    rw [hb.fields.verIhl]
    rfl
  have hversion : Mem.ofBytes pkt Ip4.VerIhl >>> 4 = 4 := by
    rw [hb.fields.verIhl]
    rfl
  have hflags : rd16 (Mem.ofBytes pkt) Ip4.FlagsFrag = 0 := by
    rw [hb.fields.flagsFrag]
    rfl
  have htotal : (rd16 (Mem.ofBytes pkt) Ip4.TotalLen).toNat = Ip4.MinHeader + len := by
    rw [hb.fields.totalLen, BitVec.toNat_ofNat]
    exact Nat.mod_eq_of_lt hlen
  have htakes : s.takesIpv4 dstMac EtherType_IPv4 pkt = true := by
    have hsome : pkt.isEmpty = false := by
      rw [List.isEmpty_eq_false_iff, ← List.length_pos_iff, hb.length]
      omega
    have hours : (dstMac == s.mac || dstMac == MacBroadcast) = true := by simpa using hdst
    rw [takesIpv4, hconf, hsome, hours]
    rfl
  have huncut : (0 &&& Ip4.FragOffsetMask) * 8 = 0 ∧ ((0 &&& Ip4.FlagMoreFragments != 0) = false) := by
    decide
  have hinput : (s.count fun t => { t with rxFrames := t.rxFrames + 1 }).ipv4Input srcMac (Mem.ofBytes pkt)
      pkt.length = (((s.count fun t => { t with rxFrames := t.rxFrames + 1 }).count
        fun t => { t with rxIp := t.rxIp + 1 }).learnMac srcIp srcMac,
          some ⟨srcIp, dstIp, proto, (Mem.ofBytes pkt).advance Ip4.MinHeader, len⟩) := by
    have hheader : ¬((4 : U8) ≠ 4 ∨ Ip4.MinHeader < Ip4.MinHeader ∨ Ip4.MinHeader + len < Ip4.MinHeader) := by
      rw [not_or, not_ne_iff]
      exact ⟨rfl, by omega⟩
    have hours : ¬((!s.isForUs dstIp) = true) := by
      rw [hfor]
      decide
    rw [ipv4Input]
    dsimp only
    rw [hihl, hversion, hflags, htotal, hb.length, hb.fields.src, hb.fields.dst, hb.fields.proto, hb.checksum,
      if_neg (by omega), if_neg hheader, if_neg (not_ne_iff.mpr rfl), if_neg (by omega), if_pos huncut, ite_self,
      Nat.add_sub_cancel_left]
    exact if_neg hours
  refine ⟨((s.count fun t => { t with rxFrames := t.rxFrames + 1 }).count
    fun t => { t with rxIp := t.rxIp + 1 }).learnMac srcIp srcMac, ?_, ?_, ?_⟩
  · rw [learnMac_count, learnMac_count]
    exact ⟨rfl, rfl, rfl, rfl, rfl, rfl⟩
  · rw [(learnMac_hears _ srcIp srcMac).eq]
    rfl
  · rw [onFrame_ipv4 htakes srcMac, onIpv4, hinput]

/-! ### The echo -/

/-- What a station makes of a packet it is pinged with. -/
structure Echo (p : Mem) (len : Nat) : Prop where
  msgType : p Icmp4.MsgType = Icmp4.EchoRequest
  header : 8 ≤ len
  checksum : checksum16 p len 0 = 0

theorem onIcmp_echo {s : VNet} {p : Mem} {len : Nat} (h : Echo p len) (hmax : len ≤ MaxDatagram) (srcIp : U32) :
    ∃ t, SameHost s t ∧ t.emitSet = s.emitSet ∧
      (s.onIcmp srcIp p len).2 = (t.sendIpv4 srcIp IpProto_ICMP (echoReply p len) len).2 := by
  have hasked : ¬(len < 8 ∨ p Icmp4.MsgType ≠ Icmp4.EchoRequest) := by
    rw [not_or, not_ne_iff]
    exact ⟨not_lt.mpr h.header, h.msgType⟩
  refine ⟨s.count fun t => { t with rxIcmp := t.rxIcmp + 1 }, ⟨rfl, rfl, rfl, rfl, rfl, rfl⟩, rfl, ?_⟩
  rw [onIcmp, if_neg hasked, if_neg (not_ne_iff.mpr h.checksum), if_neg (not_lt.mpr hmax)]
  rfl

/-- A reply is not answered. -/
theorem onIcmp_reply {s : VNet} {p : Mem} (h : p Icmp4.MsgType = Icmp4.EchoReply) (srcIp : U32) (len : Nat) :
    (s.onIcmp srcIp p len).2 = [] := by
  have hother : len < 8 ∨ p Icmp4.MsgType ≠ Icmp4.EchoRequest := by
    rw [h]
    exact .inr (by decide)
  rw [onIcmp, if_pos hother]

theorem echoReply_msgType (p : Mem) (len : Nat) : echoReply p len Icmp4.MsgType = Icmp4.EchoReply := by
  rw [echoReply, wr16_other _ _ (by decide) (by decide), wr16_other _ _ (by decide) (by decide), Mem.set_same]

/-- The sixteen bytes of `sendEchoRequest`, with the checksum field still zero. -/
def echoBytes (seq : U16) : Mem :=
  let icmp := Mem.zero
  let icmp := icmp.set Icmp4.MsgType Icmp4.EchoRequest
  let icmp := icmp.set Icmp4.Code 0
  let icmp := wr16 icmp Icmp4.Csum 0
  let icmp := wr16 icmp 4 0x5A54
  let icmp := wr16 icmp 6 seq
  memcpy icmp 8 (fun _ => 0x5A) 8

def echoRequest (seq : U16) : Mem := wr16 (echoBytes seq) Icmp4.Csum (checksum16 (echoBytes seq) 16 0)

theorem echoRequest_echo (seq : U16) : Echo (echoRequest seq) 16 := by
  have hzero : rd16 (echoBytes seq) (2 * 1) = 0 := (@rd16_congr (echoBytes seq) Mem.zero 2 rfl rfl).trans rfl
  exact ⟨rfl, by decide, checksum16_stored _ 1 16 0 (by decide) (by decide) (by decide) hzero _ (.inl rfl)⟩

theorem Echo.congr {p q : Mem} {len : Nat} (h : Echo p len) (hmax : len ≤ 65535) (heq : q.bytes len = p.bytes len) :
    Echo q len := by
  have hbyte := Mem.bytes_inj heq
  have htype : Icmp4.MsgType = 0 := rfl
  have hheader := h.header
  exact ⟨(hbyte _ (by omega)).trans h.msgType, hheader,
    (checksum16_congr 0 hmax (by decide) hbyte).trans h.checksum⟩

theorem sendEchoRequest_frames {s : VNet} (hconf : s.configured = true) {dstIp : U32} (hdst : dstIp ≠ 0) :
    ∃ t, SameHost s t ∧ t.emitSet = s.emitSet ∧
      (s.sendEchoRequest dstIp).2.1 = (t.sendIpv4 dstIp IpProto_ICMP (echoRequest s.echoSeq) 16).2 := by
  have hidle : ¬((!s.configured || dstIp == 0) = true) := by
    rw [hconf, beq_false_of_ne hdst]
    decide
  refine ⟨{ s with echoSeq := s.echoSeq + 1 }, ⟨rfl, rfl, rfl, rfl, rfl, rfl⟩, rfl, ?_⟩
  rw [sendEchoRequest, if_neg hidle]
  rfl

/-- Whoever takes an ICMP packet in looks its sender up from then on. -/
theorem onFrame_icmp {s : VNet} (hconf : s.configured = true) {dstMac : U64}
    (hdst : dstMac = s.mac ∨ dstMac = MacBroadcast) {r : VNet} (hr : Station r) (hnear : s.isBroadcast r.ip = false)
    {dstIp : U32} (hfor : s.isForUs dstIp = true) {id : U16} {data : Mem} {len : Nat} {pkt : List U8}
    (hb : Built r.ip dstIp IpProto_ICMP id 0 false data len pkt) (hlen : Ip4.MinHeader + len < 65536) :
    (s.onFrame r.mac dstMac EtherType_IPv4 pkt).1.lookupMac r.ip = r.mac ∧
      ∃ t : VNet, SameHost (s.learnMac r.ip r.mac) t ∧ t.emitSet = s.emitSet ∧
        (s.onFrame r.mac dstMac EtherType_IPv4 pkt).2 =
          (t.onIcmp r.ip ((Mem.ofBytes pkt).advance Ip4.MinHeader) len).2 := by
  obtain ⟨t, ht, hemit, heq⟩ := onFrame_whole hconf hdst hfor hb hlen r.mac
  have hdeliver : t.deliverIpv4 ⟨r.ip, dstIp, IpProto_ICMP, (Mem.ofBytes pkt).advance Ip4.MinHeader, len⟩ =
      t.onIcmp r.ip ((Mem.ofBytes pkt).advance Ip4.MinHeader) len := by
    rw [deliverIpv4, if_neg (show ¬IpProto_ICMP = IpProto_UDP by decide), if_pos rfl]
  rw [heq, hdeliver]
  refine ⟨?_, t, ht, hemit, rfl⟩
  rw [(ht.trans (onIcmp_host t _ _ _)).lookupMac]
  exact learnMac_lookupMac s hr.ip_ne_zero hr.mac_ne_zero hr.mac_ne_broadcast hnear

/-! ### Who hears it -/

theorem broadcastIp_ne_zero {s : VNet} (hip : s.ip ≠ 0) : s.broadcastIp ≠ 0 := by
  intro h
  apply hip
  exact (BitVec.or_eq_zero_iff.mp h).1

theorem broadcastIp_isBroadcast (s : VNet) : s.isBroadcast s.broadcastIp = true := by
  by_cases hmask : s.netmask = 0
  · have hall : s.broadcastIp = IpBroadcast := by
      rw [broadcastIp, hmask]
      exact BitVec.or_allOnes
    rw [isBroadcast, hall, BEq.rfl, Bool.true_or]
  · have hsubnet : (s.netmask != 0 && s.broadcastIp == s.ip ||| ~~~s.netmask) = true := by
      rw [broadcastIp, BEq.rfl, Bool.and_true, bne_iff_ne]
      exact hmask
    rw [isBroadcast, hsubnet, Bool.or_true]

/-- The one frame of a ping of the broadcast address. -/
theorem ping_frame {s : VNet} (hs : Station s) (hmtu : AcceptedMtu s.mtu) :
    ∃ id pkt, (s.sendEchoRequest s.broadcastIp).2.1 = [⟨MacBroadcast, EtherType_IPv4, pkt⟩] ∧
      Built s.ip s.broadcastIp IpProto_ICMP id 0 false (echoRequest s.echoSeq) 16 pkt := by
  have hmin : Ip4.MinHeader = 20 := rfl
  have hmaxf : MaxFrame = 1520 := rfl
  have hlow := hmtu.1
  obtain ⟨u, hu, huemit, hping⟩ := sendEchoRequest_frames hs.configured (broadcastIp_ne_zero hs.ip_ne_zero)
  have hall : u.lookupMac s.broadcastIp = MacBroadcast := by
    rw [hu.lookupMac, lookupMac, if_pos s.broadcastIp_isBroadcast]
  have hknown : u.lookupMac s.broadcastIp ≠ 0 := by
    rw [hall]
    decide
  have humtu : Ip4.MinHeader + 16 ≤ u.mtu.toNat := by
    rw [hu.mtu]
    omega
  obtain ⟨pkt, hframe, hbuilt⟩ := sendIpv4_oneFrame (huemit.trans hs.emitSet) hknown IpProto_ICMP
    (echoRequest s.echoSeq) humtu (by omega)
  rw [hall] at hframe
  rw [hu.ip] at hbuilt
  exact ⟨u.ipId, pkt, hping.trans hframe, hbuilt⟩

/-- **A ping of the broadcast address introduces the two ends to each other**: every
station of the subnet learns where the sender is and says so, and the sender, whatever
happened to it meanwhile, learns where the station is and is quiet. -/
theorem introduced {s r : VNet} (hs : Station s) (hr : Station r) (hmtu : AcceptedMtu s.mtu) (hmtu' : AcceptedMtu r.mtu)
    (hfor : r.isForUs s.broadcastIp = true) (hnear : r.isBroadcast s.ip = false)
    (hfar : s.isBroadcast r.ip = false) :
    ∃ ping pong : Frame, (s.sendEchoRequest s.broadcastIp).2.1 = [ping] ∧
      ping.dstMac = MacBroadcast ∧
      (r.onFrame s.mac ping.dstMac ping.etherType ping.payload).2 = [pong] ∧
      (r.onFrame s.mac ping.dstMac ping.etherType ping.payload).1.lookupMac s.ip = s.mac ∧
      pong.dstMac = s.mac ∧
      ∀ t : VNet, t.configured = true → t.mac = s.mac → t.ip = s.ip → t.netmask = s.netmask →
        (t.onFrame r.mac pong.dstMac pong.etherType pong.payload).1.lookupMac r.ip = r.mac ∧
          (t.onFrame r.mac pong.dstMac pong.etherType pong.payload).2 = [] := by
  have hmin : Ip4.MinHeader = 20 := rfl
  have hmaxf : MaxFrame = 1520 := rfl
  have hmaxd : MaxDatagram = 2048 := rfl
  have hlow' := hmtu'.1
  obtain ⟨id, ping, hping, hbuilt⟩ := ping_frame hs hmtu
  -- the reply
  obtain ⟨hheard, v, hv, hvemit, hasked⟩ := onFrame_icmp hr.configured (.inr rfl) hs hnear hfor hbuilt (by omega)
  obtain ⟨w, hw, hwemit, hanswer⟩ :=
    onIcmp_echo ((echoRequest_echo s.echoSeq).congr (by decide) hbuilt.data) (by omega) s.ip (s := v)
  have hback : w.lookupMac s.ip = s.mac := by
    rw [(hv.trans hw).lookupMac]
    exact learnMac_lookupMac r hs.ip_ne_zero hs.mac_ne_zero hs.mac_ne_broadcast hnear
  have hsame : (r.learnMac s.ip s.mac).mtu = r.mtu ∧ (r.learnMac s.ip s.mac).ip = r.ip := by
    rw [(learnMac_hears r s.ip s.mac).eq]
    exact ⟨rfl, rfl⟩
  have hwmtu : Ip4.MinHeader + 16 ≤ w.mtu.toNat := by
    rw [hw.mtu, hv.mtu, hsame.1]
    omega
  obtain ⟨pong, hpong, hbuilt'⟩ := sendIpv4_oneFrame (hwemit.trans (hvemit.trans hr.emitSet))
    (hback.trans_ne hs.mac_ne_zero) IpProto_ICMP (echoReply ((Mem.ofBytes ping).advance Ip4.MinHeader) 16) hwmtu
    (by omega)
  have hwip : w.ip = r.ip := by
    rw [hw.ip, hv.ip, hsame.2]
  rw [hback] at hpong
  rw [hwip] at hbuilt'
  refine ⟨_, _, hping, rfl, hasked.trans (hanswer.trans hpong), hheard, rfl, ?_⟩
  -- the reply arrives
  intro t hconf hmac hip hmask
  have hours : t.isForUs s.ip = true := by rw [isForUs, hip, BEq.rfl, Bool.true_or]
  have hothers : t.isBroadcast r.ip = false := by
    rw [isBroadcast, hip, hmask]
    exact hfar
  obtain ⟨htold, x, -, -, hquiet⟩ := onFrame_icmp hconf (.inl hmac.symm) hr hothers hours hbuilt' (by omega)
  refine ⟨htold, hquiet.trans (onIcmp_reply ?_ _ _)⟩
  exact (Mem.bytes_inj hbuilt'.data Icmp4.MsgType (by decide)).trans (echoReply_msgType _ _)

/-- Two stations that have not met. -/
theorem introduced_pair :
    asking.lookupMac answering.ip = 0 ∧ ∃ ping pong : Frame,
      (asking.sendEchoRequest asking.broadcastIp).2.1 = [ping] ∧
      (answering.onFrame asking.mac ping.dstMac ping.etherType ping.payload).2 = [pong] ∧
      ((asking.sendEchoRequest asking.broadcastIp).1.onFrame answering.mac pong.dstMac pong.etherType
        pong.payload).1.lookupMac answering.ip = answering.mac := by
  obtain ⟨ping, pong, hping, -, hpong, -, -, htold⟩ := introduced (s := asking) (r := answering)
    ⟨rfl, rfl, by decide, by decide, by decide⟩ ⟨rfl, rfl, by decide, by decide, by decide⟩
    ⟨by decide, by decide⟩ ⟨by decide, by decide⟩ (by decide) (by decide) (by decide)
  have hsame := sendEchoRequest_sameHost asking asking.broadcastIp
  exact ⟨by decide, ping, pong, hping, hpong, (htold _ hsame.configured hsame.mac hsame.ip hsame.netmask).1⟩

end VNet

end SysZerotier.Net
