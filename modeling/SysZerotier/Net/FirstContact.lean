import SysZerotier.Net.Neighbours
import SysZerotier.Net.Outgoing

/-! The first datagram to a neighbour.

A neighbour the cache does not name is asked for its MAC; the datagram itself is
dropped, though the caller is told it went out. Question and answer teach both sides
(`first_contact`), so from the second datagram on the packets leave. -/
namespace SysZerotier.Net
namespace VNet

/-! ### What is learnt is looked up -/

/-- The entry for an address. -/
def names (arp : Nat → ArpEntry) (ip : U32) (i : Nat) : Bool := (arp i).mac != 0 && (arp i).ip == ip

theorem names_iff {arp : Nat → ArpEntry} {ip : U32} {i : Nat} :
    names arp ip i = true ↔ (arp i).mac ≠ 0 ∧ (arp i).ip = ip := by
  rw [names, Bool.and_eq_true, bne_iff_ne, beq_iff_eq]

/-- The scan and the lookup find the same entry. -/
theorem learnScan_names {arp : Nat → ArpEntry} {ip : U32} {l : List Nat} {oldest i : Nat}
    (h : learnScan arp ip l oldest = .inl i) : l.find? (names arp ip) = some i := by
  induction l generalizing oldest with
  | nil => cases h
  | cons k l ih =>
    rw [learnScan] at h
    by_cases hk : (arp k).mac ≠ 0 ∧ (arp k).ip = ip
    · rw [if_pos hk] at h
      obtain rfl := Sum.inl.inj h
      rw [List.find?_cons_of_pos (names_iff.mpr hk)]
    · rw [if_neg hk] at h
      split at h
      · cases h
      · rw [List.find?_cons_of_neg (mt names_iff.mp hk)]
        exact ih h

/-- An entry written where no earlier one is for the address is the one looked up. -/
theorem find_names {arp : Nat → ArpEntry} {ip : U32} {pre post : List Nat} {i : Nat} {mac : U64} {stamp : U32}
    (hmac : mac ≠ 0) (hpre : ∀ j ∈ pre, j ≠ i ∧ (arp j).ip ≠ ip) :
    (pre ++ i :: post).find? (names (Function.update arp i ⟨ip, mac, stamp⟩) ip) = some i := by
  rw [List.find?_eq_some_iff_append]
  refine ⟨names_iff.mpr ?_, pre, post, rfl, fun j hj => ?_⟩
  · rw [Function.update_self]
    exact ⟨hmac, rfl⟩
  · obtain ⟨hne, hnot⟩ := hpre j hj
    rw [Bool.not_eq_true', ← Bool.not_eq_true, names_iff, Function.update_of_ne hne]
    exact fun h => hnot h.2

theorem learnMac_lookupMac (s : VNet) {ip : U32} {mac : U64} (hip : ip ≠ 0) (hmac : mac ≠ 0)
    (hown : mac ≠ MacBroadcast) (hnear : s.isBroadcast ip = false) : (s.learnMac ip mac).lookupMac ip = mac := by
  have hlook : ∀ t : VNet, t.isBroadcast ip = false → ∀ i, (List.range ArpEntries).find? (names t.arp ip) = some i →
      t.lookupMac ip = (t.arp i).mac := by
    intro t ht i hi
    unfold lookupMac
    rw [if_neg (by simp [ht])]
    rw [show (List.range ArpEntries).find? (fun i => (t.arp i).mac != 0 && (t.arp i).ip == ip) = some i from hi]
  unfold learnMac
  rw [if_neg (by rintro (h | h | h); exacts [hip h, hmac h, hown h])]
  rcases learnScan_cases s.arp ip (List.range ArpEntries) 0 with ⟨i, hi, heq, hu, hhit⟩ |
    ⟨pre, i, post, hl, heq, hfree, hpre⟩ | ⟨i, hi, heq, hnone, -⟩
  · rw [heq]
    refine (hlook { s with arp := Function.update s.arp i { s.arp i with mac := mac, lastUsed := s.tick + 1 },
                           tick := s.tick + 1 } hnear i ?_).trans (by simp)
    have hsame : names (Function.update s.arp i { s.arp i with mac := mac, lastUsed := s.tick + 1 }) ip =
        names s.arp ip := by
      funext j
      by_cases hj : j = i
      · rw [hj, Bool.eq_iff_iff, names_iff, names_iff, Function.update_self]
        exact ⟨fun h => ⟨hu, h.2⟩, fun h => ⟨hmac, h.2⟩⟩
      · rw [names, Function.update_of_ne hj, names]
    show (List.range ArpEntries).find? (names (Function.update s.arp i _) ip) = some i
    rw [hsame]
    exact learnScan_names heq
  · rw [heq]
    refine (hlook { s with arp := Function.update s.arp i ⟨ip, mac, s.tick + 1⟩, tick := s.tick + 1 } hnear i
      ?_).trans (by simp)
    rw [hl]
    refine find_names hmac fun j hj => ⟨?_, ?_⟩
    · rintro rfl
      exact (hpre j hj).1 hfree
    · exact (hpre j hj).2
  · rw [heq]
    refine (hlook { s with arp := Function.update s.arp i ⟨ip, mac, s.tick + 1⟩, tick := s.tick + 1 } hnear i
      ?_).trans (by simp)
    have hmem : i ∈ List.range ArpEntries := by
      rcases List.mem_cons.mp hi with rfl | hi
      · decide
      · exact hi
    obtain ⟨pre, post, hl⟩ := List.mem_iff_append.mp hmem
    have hnodup : (pre ++ i :: post).Nodup := hl ▸ List.nodup_range
    show (List.range ArpEntries).find? _ = some i
    rw [hl]
    refine find_names hmac fun j hj => ⟨?_, ?_⟩
    · rintro rfl
      exact (List.disjoint_of_nodup_append hnodup) hj List.mem_cons_self
    · exact (hnone j (hl ▸ List.mem_append_left _ hj)).2

/-! ### Question and answer -/

/-- An interface in use, with addresses a neighbour can have. -/
structure Station (s : VNet) : Prop where
  emitSet : s.emitSet = true
  configured : s.configured = true
  mac_ne_zero : s.mac ≠ 0
  mac_lt : s.mac.toNat < MacBroadcast.toNat
  ip_ne_zero : s.ip ≠ 0

namespace Station

theorem mac_lt_48 {s : VNet} (h : Station s) : s.mac.toNat < 2 ^ 48 := lt_trans h.mac_lt (by decide)

theorem mac_ne_broadcast {s : VNet} (h : Station s) : s.mac ≠ MacBroadcast := by
  intro heq
  have hlt := h.mac_lt
  rw [heq] at hlt
  exact lt_irrefl _ hlt

end Station

/-- An ARP packet for the host teaches it the sender's pair; a question is answered. -/
theorem onFrame_arp {s : VNet} (hs : Station s) {dstMac : U64} (hdst : dstMac = s.mac ∨ dstMac = MacBroadcast)
    (srcMac : U64) (op : U16) {senderMac : U64} (senderIp : U32) (hmac : senderMac.toNat < 2 ^ 48)
    (hne : senderMac ≠ 0) (targetMac : U64) :
    let out := s.onFrame srcMac dstMac EtherType_ARP ((arpPacket op senderMac senderIp targetMac s.ip).bytes
      Arp4.Size)
    SameHost (s.learnMac senderIp senderMac) out.1 ∧ out.1.emitSet = true ∧
      out.2 = if op = Arp4.OpRequest then [s.arpReply senderMac senderIp] else [] := by
  have hfields := arpPacket_fields op senderIp targetMac s.ip hmac
  have hlen : ((arpPacket op senderMac senderIp targetMac s.ip).bytes Arp4.Size).length = Arp4.Size := by simp
  have hlearn := (learnMac_hears s senderIp senderMac).eq
  generalize (arpPacket op senderMac senderIp targetMac s.ip).bytes Arp4.Size = payload at hfields hlen ⊢
  have hidle : ¬((!s.configured || payload.isEmpty) = true) := by
    have hpos : payload ≠ [] := by
      rintro rfl
      cases hlen
    simp [hs.configured, hpos]
  have hours : ¬(dstMac ≠ s.mac ∧ dstMac ≠ MacBroadcast) := fun h => hdst.elim h.1 h.2
  unfold onFrame
  dsimp only
  rw [if_neg (show ¬((!(s.count _).configured || payload.isEmpty) = true) from hidle),
    if_neg (show ¬(dstMac ≠ (s.count _).mac ∧ dstMac ≠ MacBroadcast) from hours), if_pos rfl]
  unfold onArp
  dsimp only
  rw [hlen, if_neg (lt_irrefl _), if_neg (by simp [hfields.hwType, hfields.protoType]),
    if_neg (by simp [hfields.hwLen, hfields.protoLen]), hfields.op, hfields.senderMac, hfields.senderIp,
    hfields.targetIp, if_pos hne, learnMac_count, learnMac_count]
  have hip : (s.learnMac senderIp senderMac).ip = s.ip := by rw [hlearn]
  have hown : (s.learnMac senderIp senderMac).mac = s.mac := by rw [hlearn]
  have hemit : (s.learnMac senderIp senderMac).emitSet = true := by
    rw [hlearn]
    exact hs.emitSet
  generalize s.learnMac senderIp senderMac = t at hip hown hemit ⊢
  by_cases hop : op = Arp4.OpRequest
  · have hasked : ¬(op ≠ Arp4.OpRequest ∨ s.ip ≠ t.ip) := by simp [hop, hip]
    have hwired : ¬((!t.emitSet) = true) := by simp [hemit]
    rw [if_neg (show ¬(op ≠ Arp4.OpRequest ∨ s.ip ≠ ((t.count _).count _).ip) from hasked),
      if_neg (show ¬((!((t.count _).count _).emitSet) = true) from hwired), if_pos hop]
    refine ⟨⟨rfl, rfl, rfl, rfl, rfl, rfl⟩, hemit, ?_⟩
    rw [arpReply, ← hip, ← hown]
    rfl
  · rw [if_pos (.inl hop), if_neg hop]
    exact ⟨⟨rfl, rfl, rfl, rfl, rfl, rfl⟩, hemit, rfl⟩

/-- The sends of a host that does not know the neighbour. -/
theorem udpSendTo_unknown {s : VNet} (hs : Station s) {vfd : Int} (hopen : s.isOpen vfd = true) {dstIp : U32}
    (hunknown : s.lookupMac dstIp = 0) (dstPort : U16) {buf : List U8} (hlen : buf.length ≤ MaxDatagram) :
    let sent := s.exec (.udpSendTo vfd dstIp dstPort buf)
    sent.2.ret = buf.length ∧ sent.2.frames = [s.arpRequest dstIp] ∧ SameHost s sent.1 ∧ sent.1.emitSet = true := by
  have hbound := implicitBind_bound hopen
  have hsame := implicitBind_sameHost s vfd
  have hemit : (s.implicitBind vfd).1.emitSet = true := by
    obtain ⟨k, n, heq⟩ := implicitBind_frame s vfd
    rw [heq]
    exact hs.emitSet
  have hhost := udpSendTo_sameHost s vfd dstIp dstPort (Mem.ofBytes buf) buf.length
  show (s.udpSendTo vfd dstIp dstPort (Mem.ofBytes buf) buf.length).2.2 = _ ∧
    (s.udpSendTo vfd dstIp dstPort (Mem.ofBytes buf) buf.length).2.1 = _ ∧
    SameHost s (s.udpSendTo vfd dstIp dstPort (Mem.ofBytes buf) buf.length).1 ∧
    (s.udpSendTo vfd dstIp dstPort (Mem.ofBytes buf) buf.length).1.emitSet = true
  unfold udpSendTo at hhost ⊢
  dsimp only at hhost ⊢
  rw [if_neg (by simp [hopen]), if_neg (by simp [hs.configured]), if_neg (by omega), if_neg (by simp [hbound])]
    at hhost ⊢
  have hsends := fun p => (sendIpv4_sends (s.implicitBind vfd).1 dstIp IpProto_UDP p (Udp4.Header + buf.length)).eq
  refine ⟨rfl, ?_, hhost, ?_⟩
  · rw [sendIpv4, hsame.lookupMac, if_pos hunknown, sendArpRequest, if_neg (by simp [hemit]),
      ← arpRequest_congr hsame]
    rfl
  · show ((s.implicitBind vfd).1.sendIpv4 dstIp IpProto_UDP _ (Udp4.Header + buf.length)).1.emitSet = true
    rw [hsends]
    exact hemit

/-- A host that has learnt an address is one still, with the MTU it had. -/
theorem Station.learnt {s t : VNet} (hs : Station s) {ip : U32} {mac : U64} (h : SameHost (s.learnMac ip mac) t)
    (hemit : t.emitSet = true) : Station t ∧ t.mtu = s.mtu := by
  have heq := (learnMac_hears s ip mac).eq
  have hconf : (s.learnMac ip mac).configured = s.configured := by rw [heq]
  have hmac : (s.learnMac ip mac).mac = s.mac := by rw [heq]
  have hip : (s.learnMac ip mac).ip = s.ip := by rw [heq]
  have hmtu : (s.learnMac ip mac).mtu = s.mtu := by rw [heq]
  refine ⟨⟨hemit, (h.configured.trans hconf).trans hs.configured, ?_, ?_, ?_⟩, h.mtu.trans hmtu⟩
  · rw [h.mac, hmac]
    exact hs.mac_ne_zero
  · rw [h.mac, hmac]
    exact hs.mac_lt
  · rw [h.ip, hip]
    exact hs.ip_ne_zero

/-- What a host sends to a neighbour whose MAC it knows leaves. -/
theorem udpSendTo_known {s : VNet} (hs : Station s) (hmtu : AcceptedMtu s.mtu) {vfd : Int} (hopen : s.isOpen vfd = true)
    {dstIp : U32} (hknown : s.lookupMac dstIp ≠ 0) (dstPort : U16) {buf : List U8} (hlen : buf.length ≤ MaxDatagram) :
    (s.exec (.udpSendTo vfd dstIp dstPort buf)).2.frames ≠ [] := by
  have hbound := implicitBind_bound hopen
  have hsame := implicitBind_sameHost s vfd
  have hemit : (s.implicitBind vfd).1.emitSet = true := by
    obtain ⟨k, n, heq⟩ := implicitBind_frame s vfd
    rw [heq]
    exact hs.emitSet
  have hmax : MaxDatagram = 2048 := rfl
  have hheader : Udp4.Header = 8 := rfl
  show (s.udpSendTo vfd dstIp dstPort (Mem.ofBytes buf) buf.length).2.1 ≠ []
  unfold udpSendTo
  dsimp only
  rw [if_neg (by simp [hopen]), if_neg (by simp [hs.configured]), if_neg (by omega), if_neg (by simp [hbound])]
  exact (sendIpv4_wire _ (by rw [hsame.mtu]; exact hmtu) dstIp IpProto_UDP _ hemit
    (by rw [hsame.lookupMac]; exact hknown) (by omega) (by omega)).nonempty

/-- **The first datagram to a neighbour the cache does not name is lost, though the
caller is told its length: all that leaves is the question for the neighbour's MAC.
Once question and answer have arrived, each side looks the other up, and what is sent
then leaves, and goes to the neighbour.** -/
theorem first_contact {s r : VNet} (hs : Station s) (hr : Station r) (vfd : Int) (hopen : s.isOpen vfd = true)
    (hunknown : s.lookupMac r.ip = 0) (hnear : r.isBroadcast s.ip = false) (dstPort : U16) (buf : List U8)
    (hlen : buf.length ≤ MaxDatagram) :
    let sent := s.exec (.udpSendTo vfd r.ip dstPort buf)
    let heard := r.onFrame s.mac MacBroadcast EtherType_ARP (s.arpRequest r.ip).payload
    let told := sent.1.onFrame r.mac s.mac EtherType_ARP (r.arpReply s.mac s.ip).payload
    sent.2.ret = buf.length ∧ sent.2.frames = [s.arpRequest r.ip] ∧
      heard.2 = [r.arpReply s.mac s.ip] ∧ heard.1.lookupMac s.ip = s.mac ∧
      told.2 = [] ∧ told.1.lookupMac r.ip = r.mac ∧
      ∀ vfd' dstPort' buf', (∀ f ∈ (told.1.exec (.udpSendTo vfd' r.ip dstPort' buf')).2.frames,
          f.dstMac = r.mac ∧ f.etherType = EtherType_IPv4) ∧
        (AcceptedMtu s.mtu → told.1.isOpen vfd' = true → buf'.length ≤ MaxDatagram →
          (told.1.exec (.udpSendTo vfd' r.ip dstPort' buf')).2.frames ≠ []) := by
  intro sent heard told
  obtain ⟨hret, hframes, hsent, hemit⟩ := udpSendTo_unknown hs hopen hunknown dstPort hlen
  have hfar : s.isBroadcast r.ip = false := by
    rw [Bool.eq_false_iff]
    intro hb
    rw [lookupMac, if_pos hb] at hunknown
    cases hunknown
  have hstation : Station sent.1 :=
    ⟨hemit, hsent.configured.trans hs.configured, by rw [hsent.mac]; exact hs.mac_ne_zero,
      by rw [hsent.mac]; exact hs.mac_lt, by rw [hsent.ip]; exact hs.ip_ne_zero⟩
  obtain ⟨hlearnt, -, hanswer⟩ :=
    onFrame_arp hr (.inr rfl) s.mac Arp4.OpRequest s.ip hs.mac_lt_48 hs.mac_ne_zero 0
  obtain ⟨htaught, hready, hquiet⟩ := onFrame_arp hstation (.inl hsent.mac.symm) r.mac Arp4.OpReply r.ip hr.mac_lt_48
    hr.mac_ne_zero s.mac
  rw [hsent.ip] at htaught hready hquiet
  have hknown : told.1.lookupMac r.ip = r.mac := by
    refine (htaught.lookupMac r.ip).trans (learnMac_lookupMac _ hr.ip_ne_zero hr.mac_ne_zero hr.mac_ne_broadcast ?_)
    rw [isBroadcast, hsent.netmask, hsent.ip]
    exact hfar
  refine ⟨hret, hframes, hanswer.trans (if_pos rfl), ?_, hquiet.trans (if_neg (by decide)), hknown, ?_⟩
  · exact (hlearnt.lookupMac s.ip).trans
      (learnMac_lookupMac r hs.ip_ne_zero hs.mac_ne_zero hs.mac_ne_broadcast hnear)
  · refine fun vfd' dstPort' buf' => ⟨fun f hf => ?_, fun hmtu hopen' hlen' => ?_⟩
    · obtain ⟨-, -, ⟨hnone, -⟩ | ⟨srcPort, off, more, data, n, hto, -⟩⟩ := udpSendTo_emits hf
      · exact absurd (hknown.symm.trans hnone) hr.mac_ne_zero
      · exact ⟨hto.dstMac.trans hknown, hto.etherType⟩
    · have hstill : Station told.1 ∧ told.1.mtu = sent.1.mtu := hstation.learnt htaught hready
      have hfits : AcceptedMtu told.1.mtu := by
        rw [hstill.2, hsent.mtu]
        exact hmtu
      have hmac : told.1.lookupMac r.ip ≠ 0 := by
        rw [hknown]
        exact hr.mac_ne_zero
      exact udpSendTo_known hstill.1 hfits hopen' hmac dstPort' hlen'

/-- 10.0.0.1 with a socket. -/
def asking : VNet :=
  (fresh.reset.execAll [.setEmit, .configure 0x020000000001 0x0A000001 0xFFFFFF00 1500, .udpOpen]).1

/-- 10.0.0.2. -/
def answering : VNet := (fresh.reset.execAll [.setEmit, .configure 0x020000000002 0x0A000002 0xFFFFFF00 1500]).1

theorem first_contact_pair :
    (asking.exec (.udpSendTo 0 answering.ip 6000 [0x68, 0x69])).2.ret = 2 ∧
      (asking.exec (.udpSendTo 0 answering.ip 6000 [0x68, 0x69])).2.frames = [asking.arpRequest answering.ip] ∧
      (answering.onFrame asking.mac MacBroadcast EtherType_ARP (asking.arpRequest answering.ip).payload).2 =
        [answering.arpReply asking.mac asking.ip] := by
  obtain ⟨hret, hframes, hheard, -⟩ := first_contact (s := asking) (r := answering)
    ⟨rfl, rfl, by decide, by decide, by decide⟩ ⟨rfl, rfl, by decide, by decide, by decide⟩ 0 (by decide)
    (by decide) (by decide) 6000 [0x68, 0x69] (by decide)
  exact ⟨hret, hframes, hheard⟩

end VNet

end SysZerotier.Net
