import SysZerotier.Net.Checked
import SysZerotier.Net.Slots
import SysZerotier.Net.Fifo

/-! Memory safety of the packet path.

Every function of `Checked` returns what the unguarded function computes
(`checksum16_ok`, …, `onFrame_ok`), given that its buffer holds the length it is
passed and that the interface is `Safe`: its pool is linked as in `PoolShape`, its
MTU leaves room for a fragment, and no slot in use announces more bytes than its
buffer holds. Every run keeps the interface `Safe` (`execAll_safe`), so no frame
makes it read or write outside a buffer (`packet_path_safe`). -/
namespace SysZerotier.Net.Checked
open Library

/-! ### Bytes -/

theorem put_mem {p : Ptr} {i : Nat} (h : i < p.size) (v : U8) :
    p.put i v = .ok ⟨Mem.set p.data i v, p.size⟩ := Buffer.put_ok h v

theorem copy_mem {p src : Ptr} {off n : Nat} (hs : n ≤ src.size) (hp : off + n ≤ p.size) :
    p.copy off src n = .ok ⟨memcpy p.data off src.data n, p.size⟩ := Buffer.copy_ok hs hp

theorem shift_mem {p : Ptr} {k : Nat} (h : k ≤ p.size) :
    p.shift k = .ok ⟨Mem.advance p.data k, p.size - k⟩ := Buffer.shift_ok h

theorem take_mem {p : Ptr} {n : Nat} (h : n ≤ p.size) : p.take n = .ok (Mem.bytes p.data n) :=
  Buffer.take_ok h

theorem rd16_ok {p : Ptr} {i : Nat} (h : i + 1 < p.size) : rd16 p i = .ok (Net.rd16 p.data i) := by
  unfold rd16
  rw [Buffer.get_ok (by omega), ok_bind, Buffer.get_ok h]
  rfl

theorem rd32_ok {p : Ptr} {i : Nat} (h : i + 3 < p.size) : rd32 p i = .ok (Net.rd32 p.data i) := by
  unfold rd32
  rw [rd16_ok (by omega), ok_bind, rd16_ok (by omega)]
  rfl

theorem wr16_ok {p : Ptr} {i : Nat} (h : i + 1 < p.size) (v : U16) :
    wr16 p i v = .ok ⟨Net.wr16 p.data i v, p.size⟩ := by
  unfold wr16
  rw [put_mem (by omega), ok_bind]
  exact put_mem (p := ⟨Mem.set p.data i (v.extractLsb' 8 8), p.size⟩) h _

theorem wr32_ok {p : Ptr} {i : Nat} (h : i + 3 < p.size) (v : U32) :
    wr32 p i v = .ok ⟨Net.wr32 p.data i v, p.size⟩ := by
  unfold wr32
  rw [wr16_ok (by omega), ok_bind]
  exact wr16_ok (p := ⟨Net.wr16 p.data i (v.extractLsb' 16 16), p.size⟩) h _

theorem macToBytes_ok {p : Ptr} {off : Nat} (h : off + 6 ≤ p.size) (mac : U64) :
    macToBytes mac p off = .ok ⟨Net.macToBytes mac p.data off, p.size⟩ := copy_mem (le_refl 6) h

theorem macFromBytes_ok {p : Ptr} (h : 6 ≤ p.size) : macFromBytes p = .ok (Net.macFromBytes p.data) := by
  unfold macFromBytes
  simp (disch := omega) only [Buffer.get_ok, ok_bind]
  rfl

theorem sumWords_ok {p : Ptr} {len : Nat} (h : len ≤ p.size) (sum : U32) :
    sumWords p len sum = .ok (Net.sumWords p.data len sum) := by
  induction len using Nat.twoStepInduction generalizing p sum with
  | zero => rfl
  | one =>
    unfold sumWords
    rw [Buffer.get_ok (by omega)]
    rfl
  | more n ih _ =>
    have hrest : n ≤ p.size - 2 := by omega
    unfold sumWords
    rw [Buffer.get_ok (by omega), ok_bind, Buffer.get_ok (by omega), ok_bind, shift_mem (by omega),
      ok_bind, ih hrest]
    rfl

theorem checksum16_ok {p : Ptr} {len : Nat} (h : len ≤ p.size) (initial : U32) :
    checksum16 p len initial = .ok (Net.checksum16 p.data len initial) := by
  unfold checksum16 Net.checksum16
  obtain ⟨r, hr⟩ := foldCarry_terminates (Net.sumWords p.data len initial)
  rw [sumWords_ok h, ok_bind, hr]
  rfl

/-! ### Address helpers -/

theorem arpAt_ok (s : VNet) {i : Nat} (h : i < ArpEntries) : arpAt s i = .ok (s.arp i) := by
  unfold arpAt
  rw [Guarded.index_ok h]
  rfl

theorem lookupScan_ok (s : VNet) (ip : U32) (l : List Nat) (h : ∀ i ∈ l, i < ArpEntries) :
    lookupScan s ip l =
      .ok (match l.find? fun i => (s.arp i).mac != 0 && (s.arp i).ip == ip with
        | some i => (s.arp i).mac
        | none => 0) := by
  induction l with
  | nil => rfl
  | cons i l ih =>
    unfold lookupScan
    rw [arpAt_ok s (h i (List.mem_cons_self ..)), ok_bind, List.find?_cons,
      ih fun j hj => h j (List.mem_cons_of_mem i hj)]
    cases (s.arp i).mac != 0 && (s.arp i).ip == ip <;> rfl

theorem lookupMac_ok (s : VNet) (ip : U32) : lookupMac s ip = .ok (s.lookupMac ip) := by
  unfold lookupMac VNet.lookupMac
  split
  · rfl
  · exact lookupScan_ok s ip _ fun i hi => List.mem_range.mp hi

/-- The scan yields an entry of the table, whichever way it ends. -/
theorem learnScan_lt (arp : Nat → ArpEntry) (ip : U32) (l : List Nat) (oldest : Nat)
    (h : ∀ i ∈ l, i < ArpEntries) (ho : oldest < ArpEntries) :
    (VNet.learnScan arp ip l oldest).elim id id < ArpEntries := by
  induction l generalizing oldest with
  | nil => exact ho
  | cons i l ih =>
    have hi := h i (List.mem_cons_self ..)
    unfold VNet.learnScan
    split
    · exact hi
    · split
      · exact hi
      · refine ih _ (fun j hj => h j (List.mem_cons_of_mem i hj)) ?_
        split
        · exact hi
        · exact ho

theorem learnScan_ok (s : VNet) (ip : U32) (l : List Nat) (oldest : Nat)
    (h : ∀ i ∈ l, i < ArpEntries) (ho : oldest < ArpEntries) :
    learnScan s ip l oldest = .ok (VNet.learnScan s.arp ip l oldest) := by
  induction l generalizing oldest with
  | nil => rfl
  | cons i l ih =>
    have hi := h i (List.mem_cons_self ..)
    unfold learnScan VNet.learnScan
    rw [arpAt_ok s hi, ok_bind]
    split
    · rfl
    · split
      · rfl
      · rw [arpAt_ok s ho, ok_bind]
        refine ih _ (fun j hj => h j (List.mem_cons_of_mem i hj)) ?_
        split
        · exact hi
        · exact ho

theorem learnMac_ok (s : VNet) (ip : U32) (mac : U64) : learnMac s ip mac = .ok (s.learnMac ip mac) := by
  have hrange : ∀ i ∈ List.range ArpEntries, i < ArpEntries := fun i hi => List.mem_range.mp hi
  have hlt := learnScan_lt s.arp ip _ 0 hrange (by decide)
  unfold learnMac VNet.learnMac
  split
  · rfl
  · rw [learnScan_ok s ip _ 0 hrange (by decide), ok_bind]
    cases hscan : VNet.learnScan s.arp ip (List.range ArpEntries) 0 with
    | inl i =>
      have hi : i < ArpEntries := by rwa [hscan] at hlt
      dsimp only
      rw [Guarded.index_ok hi]
      rfl
    | inr i =>
      have hi : i < ArpEntries := by rwa [hscan] at hlt
      dsimp only
      rw [Guarded.index_ok hi]
      rfl

/-! ### Outbound -/

theorem ipHeader_ok (srcIp dstIp : U32) (proto : U8) (id off : U16) (more : Bool) (len : Nat) :
    ipHeader srcIp dstIp proto id off more len =
      .ok ⟨VNet.ipHeader srcIp dstIp proto id off more len, MaxFrame⟩ := by
  unfold ipHeader buffer
  simp (disch := (dsimp only; decide)) only [put_mem, wr16_ok, wr32_ok, ok_bind]
  rfl

theorem emitIpFragment_ok (s : VNet) (dstMac : U64) (dstIp : U32) (proto : U8) (id off : U16)
    (more : Bool) {payload : Ptr} {len : Nat} (h : len ≤ payload.size) :
    emitIpFragment s dstMac dstIp proto id off more payload len =
      .ok (s.emitIpFragment dstMac dstIp proto id off more payload.data len) := by
  unfold emitIpFragment VNet.emitIpFragment
  split
  · rfl
  · split
    · rfl
    · rename_i hfit
      rw [ipHeader_ok, ok_bind, checksum16_ok (by show Ip4.MinHeader ≤ MaxFrame; decide), ok_bind,
        wr16_ok (by show Ip4.Csum + 1 < MaxFrame; decide), ok_bind,
        copy_mem h (by show Ip4.MinHeader + len ≤ MaxFrame; omega), ok_bind,
        take_mem (by show Ip4.MinHeader + len ≤ MaxFrame; omega)]
      rfl

theorem arpPacket_ok (op : U16) (senderMac : U64) (senderIp : U32) (targetMac : U64) (targetIp : U32) :
    arpPacket op senderMac senderIp targetMac targetIp =
      .ok ((Net.wr32 (Net.macToBytes targetMac (Net.wr32 (Net.macToBytes senderMac
        (Net.wr16 (((Net.wr16 (Net.wr16 Mem.zero Arp4.HwType 1) Arp4.ProtoType EtherType_IPv4).set
          Arp4.HwLen 6).set Arp4.ProtoLen 4) Arp4.Op op) Arp4.SenderMac) Arp4.SenderIp senderIp)
        Arp4.TargetMac) Arp4.TargetIp targetIp).bytes Arp4.Size) := by
  unfold arpPacket buffer
  simp (disch := (dsimp only; decide)) only [put_mem, wr16_ok, wr32_ok, macToBytes_ok, take_mem, ok_bind]

theorem sendArpRequest_ok (s : VNet) (targetIp : U32) :
    sendArpRequest s targetIp = .ok (s.sendArpRequest targetIp) := by
  unfold sendArpRequest VNet.sendArpRequest
  split
  · rfl
  · rw [arpPacket_ok]
    rfl

/-- Each round sends at least one byte, so one more round of fuel than bytes left suffices. -/
theorem sendFragments_ok (dstMac : U64) (dstIp : U32) (proto : U8) (id : U16) {payload : Ptr}
    {len chunk : Nat} (h : len ≤ payload.size) (hchunk : 0 < chunk) (fuel : Nat) (s : VNet) (off : Nat)
    (hfuel : len - off < fuel) :
    sendFragments dstMac dstIp proto id payload len chunk fuel s off =
      .ok (VNet.sendFragments dstMac dstIp proto id payload.data len chunk fuel s off) := by
  induction fuel generalizing s off with
  | zero => omega
  | succ fuel ih =>
    unfold sendFragments VNet.sendFragments
    by_cases hoff : off < len
    · rw [if_pos hoff, if_pos hoff, Guarded.sub_ok (by omega), ok_bind, shift_mem (by omega), ok_bind]
      have htake : 0 < (if len - off > chunk then chunk else len - off) ∧
          (if len - off > chunk then chunk else len - off) ≤ len - off := by
        split <;> omega
      generalize (if len - off > chunk then chunk else len - off) = take at htake ⊢
      rw [emitIpFragment_ok s dstMac dstIp proto id _ _ (by show take ≤ payload.size - off; omega), ok_bind,
        ih _ _ (by omega)]
      rfl
    · rw [if_neg hoff, if_neg hoff]
      rfl

theorem sendIpv4_ok {s : VNet} (hmtu : 576 ≤ s.mtu.toNat) (dstIp : U32) (proto : U8) {payload : Ptr}
    {len : Nat} (h : len ≤ payload.size) :
    sendIpv4 s dstIp proto payload len = .ok (s.sendIpv4 dstIp proto payload.data len) := by
  have hmin : Ip4.MinHeader = 20 := rfl
  unfold sendIpv4 VNet.sendIpv4
  rw [lookupMac_ok, ok_bind]
  dsimp only
  split
  · exact sendArpRequest_ok s dstIp
  · rw [Guarded.sub_ok (by omega), ok_bind]
    split
    · exact emitIpFragment_ok _ _ _ _ _ _ _ h
    · exact sendFragments_ok _ _ _ _ h (by omega) _ _ _ (by omega)

/-! ### The pool -/

section Pool
variable {s : VNet} {b : Queues} (hm : VNet.Models s b)
include hm

theorem freeList_lt (h : ¬s.freeList < 0) : s.freeList.toNat < PoolPackets := by
  obtain ⟨⟨free, q, hs, -⟩, -⟩ := hm
  obtain ⟨rest, rfl, -⟩ := hs.freeChain.cons_of_nonneg h
  exact hs.shares.lt_of_free (List.mem_cons_self ..)

theorem qTail_lt {k : Nat} (hk : k < MaxSockets) (h : ¬(s.socks k).qTail < 0) :
    (s.socks k).qTail.toNat < PoolPackets := by
  obtain ⟨⟨free, q, hs, -⟩, -⟩ := hm
  have htail := hs.tail ⟨k, hk⟩
  have hne : q ⟨k, hk⟩ ≠ [] := fun he => h (by rw [htail, he]; decide)
  obtain ⟨front, t, hq, ht⟩ := Links.eq_append_tail hne
  have hlt := hs.shares.lt_of_queue (k := ⟨k, hk⟩) (i := t) (by rw [hq]; simp)
  rw [htail, ht]
  exact hlt

theorem pushToSocket_ok {k : Nat} (hk : k < MaxSockets) (srcIp : U32) (srcPort : U16) {data : Ptr}
    {len : Nat} (h : len ≤ data.size) :
    pushToSocket s k srcIp srcPort data len = .ok (s.pushToSocket k srcIp srcPort data.data len) := by
  unfold pushToSocket VNet.pushToSocket
  by_cases hbig : MaxDatagram < len
  · rw [if_pos hbig, if_pos hbig]
    rfl
  · rw [if_neg hbig, if_neg hbig]
    unfold allocPkt VNet.allocPkt
    by_cases hfree : s.freeList < 0
    · rw [if_pos hfree, if_pos hfree]
      rfl
    · have hidx := Guarded.index_of_nonneg (by omega) (freeList_lt hm hfree)
      rw [if_neg hfree, if_neg hfree, hidx, ok_bind, pure_eq_ok, ok_bind]
      dsimp only
      rw [if_neg hfree, if_neg hfree, hidx, ok_bind, copy_mem h (by show 0 + len ≤ MaxDatagram; omega),
        ok_bind, Guarded.index_ok hk, ok_bind]
      dsimp only [VNet.setPkt]
      rw [show ((s.freeList.toNat : Nat) : Int) = s.freeList by omega]
      by_cases htail : (s.socks k).qTail < 0
      · simp only [htail, if_true]
        rfl
      · simp only [htail, if_false]
        rw [Guarded.index_of_nonneg (by omega) (qTail_lt hm hk htail)]
        rfl

end Pool

/-! ### Delivery -/

theorem udpDemux_ok (srcIp dstIp : U32) (srcPort dstPort : U16) {p : Ptr} {udpLen : Nat}
    (hmin : Udp4.Header ≤ udpLen) (h : udpLen ≤ p.size) (l : List Nat) (hl : ∀ i ∈ l, i < MaxSockets)
    {s : VNet} {b : Queues} (hm : VNet.Models s b) (delivered : Bool) :
    udpDemux srcIp dstIp srcPort dstPort p udpLen l s delivered =
      .ok (VNet.udpDemux srcIp dstIp srcPort dstPort (Mem.advance p.data Udp4.Header)
        (udpLen - Udp4.Header) l s delivered) := by
  induction l generalizing s b delivered with
  | nil => rfl
  | cons k l ih =>
    have hk := hl k (List.mem_cons_self ..)
    have hrest : ∀ i ∈ l, i < MaxSockets := fun i hi => hl i (List.mem_cons_of_mem k hi)
    unfold udpDemux VNet.udpDemux
    rw [Guarded.index_ok hk, ok_bind]
    by_cases hlisten : s.listens k dstIp dstPort = true
    · have hused : (s.socks k).used = true := by
        simp only [VNet.listens, Bool.and_eq_true] at hlisten
        exact hlisten.1.1
      have hdata : udpLen - Udp4.Header ≤ p.size - Udp4.Header := by omega
      rw [if_pos hlisten, if_pos hlisten, shift_mem (by omega), ok_bind, Guarded.sub_ok hmin, ok_bind,
        pushToSocket_ok hm hk srcIp srcPort (by exact hdata), ok_bind]
      exact ih hrest (hm.push ⟨k, hk⟩ hused srcIp srcPort _ _) true
    · rw [if_neg hlisten, if_neg hlisten]
      exact ih hrest hm delivered

theorem udpLength_ok {p : Ptr} (h : Udp4.Length + 1 < p.size) (len : Nat) :
    udpLength p len = .ok (VNet.udpLength p.data len) := by
  unfold udpLength
  rw [rd16_ok h]
  rfl

theorem udpBadChecksum_ok (srcIp dstIp : U32) {p : Ptr} {udpLen : Nat} (hmin : Udp4.Header ≤ udpLen)
    (h : udpLen ≤ p.size) :
    udpBadChecksum srcIp dstIp p udpLen =
      .ok (decide (Net.rd16 p.data Udp4.Csum ≠ 0 ∧
        Net.checksum16 p.data udpLen (VNet.udpPseudo srcIp dstIp udpLen) ≠ 0)) := by
  have hfields : Udp4.Csum = 6 ∧ Udp4.Header = 8 := ⟨rfl, rfl⟩
  unfold udpBadChecksum
  rw [rd16_ok (by omega), ok_bind, checksum16_ok h]
  by_cases hzero : Net.rd16 p.data Udp4.Csum = 0
  · rw [if_pos hzero, decide_eq_false fun hbad => hbad.1 hzero]
    rfl
  · rw [if_neg hzero]
    simp only [hzero, ne_eq, not_false_eq_true, true_and]
    rfl

theorem onUdp_ok {s : VNet} {b : Queues} (hm : VNet.Models s b) (srcIp dstIp : U32) {p : Ptr} {len : Nat}
    (h : len ≤ p.size) : onUdp s srcIp dstIp p len = .ok (s.onUdp srcIp dstIp p.data len) := by
  have hfields : Udp4.SrcPort = 0 ∧ Udp4.DstPort = 2 ∧ Udp4.Length = 4 ∧ Udp4.Header = 8 :=
    ⟨rfl, rfl, rfl, rfl⟩
  unfold onUdp VNet.onUdp
  dsimp only
  by_cases hmin : len < Udp4.Header
  · rw [if_pos hmin, if_pos hmin]
    rfl
  · have hlength : Udp4.Header ≤ VNet.udpLength p.data len ∧ VNet.udpLength p.data len ≤ len := by
      unfold VNet.udpLength
      split <;> omega
    rw [if_neg hmin, if_neg hmin, rd16_ok (by omega), ok_bind, rd16_ok (by omega), ok_bind,
      udpLength_ok (by omega), ok_bind]
    generalize VNet.udpLength p.data len = udpLen at hlength ⊢
    have hle : udpLen ≤ p.size := by omega
    have hdemux := udpDemux_ok srcIp dstIp (Net.rd16 p.data Udp4.SrcPort) (Net.rd16 p.data Udp4.DstPort)
      hlength.1 hle (List.range MaxSockets) (fun i hi => List.mem_range.mp hi)
      (hm.count (fun t => { t with rxUdp := t.rxUdp + 1 }) rfl) false
    rw [udpBadChecksum_ok srcIp dstIp hlength.1 hle, ok_bind]
    by_cases hbad : Net.rd16 p.data Udp4.Csum ≠ 0 ∧
        Net.checksum16 p.data udpLen (VNet.udpPseudo srcIp dstIp udpLen) ≠ 0
    · rw [if_pos hbad, if_pos (decide_eq_true hbad)]
      rfl
    · rw [if_neg hbad, if_neg (by rw [decide_eq_false hbad]; decide), hdemux, ok_bind,
        Guarded.sub_ok hlength.1]
      split <;> rfl

theorem onIcmp_ok {s : VNet} (hmtu : 576 ≤ s.mtu.toNat) (srcIp : U32) {p : Ptr} {len : Nat}
    (h : len ≤ p.size) : onIcmp s srcIp p len = .ok (s.onIcmp srcIp p.data len) := by
  have hfirst : Icmp4.MsgType = 0 := rfl
  unfold onIcmp VNet.onIcmp
  dsimp only
  by_cases hshort : len < 8
  · rw [if_pos hshort, if_pos (.inl hshort)]
    rfl
  · rw [if_neg hshort, Buffer.get_ok (by omega), ok_bind]
    by_cases htype : p.data Icmp4.MsgType ≠ Icmp4.EchoRequest
    · rw [if_pos htype, if_pos (.inr htype)]
      rfl
    · rw [if_neg htype, if_neg (not_or.mpr ⟨hshort, htype⟩), checksum16_ok h, ok_bind]
      split
      · rfl
      · split
        · rfl
        · rename_i hbig
          have hfit : len ≤ MaxDatagram := by omega
          rw [copy_mem h (by show 0 + len ≤ MaxDatagram; omega), ok_bind,
            put_mem (by show Icmp4.MsgType < MaxDatagram; decide), ok_bind,
            wr16_ok (by show Icmp4.Csum + 1 < MaxDatagram; decide), ok_bind, checksum16_ok hfit, ok_bind,
            wr16_ok (by show Icmp4.Csum + 1 < MaxDatagram; decide), ok_bind,
            sendIpv4_ok (by exact hmtu) _ _ (by exact hfit)]
          rfl

theorem deliverIpv4_ok {s : VNet} {b : Queues} (hm : VNet.Models s b) (hmtu : 576 ≤ s.mtu.toNat)
    (srcIp dstIp : U32) (proto : U8) {payload : Ptr} {len : Nat} (h : len ≤ payload.size) :
    deliverIpv4 s srcIp dstIp proto payload len =
      .ok (s.deliverIpv4 ⟨srcIp, dstIp, proto, payload.data, len⟩) := by
  unfold deliverIpv4 VNet.deliverIpv4
  dsimp only
  split
  · rw [onUdp_ok hm srcIp dstIp h]
    rfl
  · split
    · exact onIcmp_ok hmtu srcIp h
    · rfl

/-! ### Reassembly -/

theorem reasmAt_ok (s : VNet) {i : Nat} (h : i < ReasmSlots) : reasmAt s i = .ok (s.reasm i) := by
  unfold reasmAt
  rw [Guarded.index_ok h]
  rfl

theorem reasmScan_ok (s : VNet) (srcIp dstIp : U32) (id : U16) (proto : U8) (l : List Nat) (victim : Nat)
    (h : ∀ i ∈ l, i < ReasmSlots) (hv : victim < ReasmSlots) :
    reasmScan s srcIp dstIp id proto l victim =
      .ok (VNet.reasmScan s.reasm srcIp dstIp id proto l victim) := by
  induction l generalizing victim with
  | nil => rfl
  | cons i l ih =>
    have hi := h i (List.mem_cons_self ..)
    have hrest : ∀ j ∈ l, j < ReasmSlots := fun j hj => h j (List.mem_cons_of_mem i hj)
    unfold reasmScan VNet.reasmScan
    rw [reasmAt_ok s hi, ok_bind]
    split
    · rfl
    · split
      · exact ih i hrest hi
      · rw [reasmAt_ok s hv, ok_bind]
        refine ih _ hrest ?_
        split
        · exact hi
        · exact hv

theorem reasmSlot_ok (s : VNet) (srcIp dstIp : U32) (id : U16) (proto : U8) :
    reasmSlot s srcIp dstIp id proto = .ok (s.reasmSlot srcIp dstIp id proto) := by
  unfold reasmSlot VNet.reasmSlot
  rw [reasmScan_ok s _ _ _ _ _ 0 (fun i hi => List.mem_range.mp hi) (by decide), ok_bind]
  cases hscan : VNet.reasmScan s.reasm srcIp dstIp id proto (List.range ReasmSlots) 0 with
  | inl i =>
    have hi := (VNet.reasmScan_inl (k := ⟨srcIp, dstIp, id, proto⟩) hscan).1
    dsimp only
    rw [reasmAt_ok s (List.mem_range.mp hi)]
    rfl
  | inr i =>
    have hi := (VNet.reasmScan_inr (k := ⟨srcIp, dstIp, id, proto⟩) hscan).1
    have hlt : i < ReasmSlots := by
      rcases List.mem_cons.mp hi with rfl | hi
      · decide
      · exact List.mem_range.mp hi
    dsimp only
    rw [reasmAt_ok s hlt]
    rfl

/-- No slot in use announces more bytes than its buffer holds. -/
def FitsBuffers (s : VNet) : Prop :=
  ∀ i < ReasmSlots, (s.reasm i).used = true → (s.reasm i).total.toNat ≤ ReasmMax

theorem FitsBuffers.slot {s : VNet} (h : FitsBuffers s) (srcIp dstIp : U32) (id : U16) (proto : U8) :
    (s.reasmSlot srcIp dstIp id proto).1 < ReasmSlots ∧
      (s.reasmSlot srcIp dstIp id proto).2.total.toNat ≤ ReasmMax := by
  rcases VNet.reasmSlot_cases s ⟨srcIp, dstIp, id, proto⟩ with ⟨i, hi, hu, -, heq⟩ | ⟨-, i, hi, -, heq⟩
  · dsimp only at heq
    rw [heq]
    exact ⟨hi, h i hi hu⟩
  · dsimp only at heq
    rw [heq]
    exact ⟨hi, Nat.zero_le _⟩

/-- The total a slot has after storing a fragment that fits. -/
theorem total_le {total : U16} (h : total.toNat ≤ ReasmMax) {n : Nat} (hn : n ≤ ReasmMax) (more : Bool) :
    (if more then total else BitVec.ofNat 16 n).toNat ≤ ReasmMax := by
  have hmax : ReasmMax = 2176 := rfl
  split
  · exact h
  · rw [BitVec.toNat_ofNat, Nat.mod_eq_of_lt (by omega)]
    exact hn

theorem reassemble_ok {s : VNet} {b : Queues} (hm : VNet.Models s b) (hmtu : 576 ≤ s.mtu.toNat)
    (hfit : FitsBuffers s) (srcIp dstIp : U32) (id : U16) (proto : U8) (fragOffset : U16) (more : Bool)
    {payload : Ptr} {plen : Nat} (h : plen ≤ payload.size) :
    reassemble s srcIp dstIp id proto fragOffset more payload plen =
      .ok (match s.reassemble srcIp dstIp id proto fragOffset more payload.data plen with
        | (s, none) => (s, [])
        | (s, some k) => s.deliverIpv4 k) := by
  obtain ⟨hslot, htotal⟩ := hfit.slot srcIp dstIp id proto
  unfold reassemble VNet.reassemble
  rw [reasmSlot_ok, ok_bind]
  generalize s.reasmSlot srcIp dstIp id proto = slot at hslot htotal ⊢
  rw [Guarded.index_ok hslot, ok_bind]
  dsimp only
  by_cases hbig : ReasmMax < fragOffset.toNat + plen
  · rw [if_pos hbig, if_pos hbig]
    rfl
  · have hlen := total_le htotal (Nat.le_of_not_lt hbig) more
    rw [if_neg hbig, if_neg hbig, copy_mem h (by show fragOffset.toNat + plen ≤ ReasmMax; omega), ok_bind]
    dsimp only
    generalize (if more then slot.2.total else BitVec.ofNat 16 (fragOffset.toNat + plen)) = total at hlen ⊢
    split
    · have hkeep : VNet.SamePool s
          (VNet.setReasm { s with tick := s.tick + 1 } slot.1
            { slot.2 with
              age := s.tick + 1, used := false, total := total,
              received := slot.2.received + BitVec.ofNat 16 plen,
              data := memcpy slot.2.data fragOffset.toNat payload.data plen }) := .of_socks rfl rfl rfl
      exact deliverIpv4_ok (hm.of_samePool hkeep rfl) hmtu srcIp dstIp proto hlen
    · rfl

/-! ### Input -/

/-- What keeps every frame within bounds. -/
structure Safe (s : VNet) : Prop where
  pool : ∃ b, VNet.Models s b
  mtu : 576 ≤ s.mtu.toNat
  fits : FitsBuffers s

theorem Safe.count {s : VNet} (h : Safe s) (f : Stats → Stats)
    (hf : (f s.stats).dropNoBuffer = s.stats.dropNoBuffer) : Safe (s.count f) := by
  obtain ⟨⟨b, hm⟩, hmtu, hfit⟩ := h
  exact ⟨⟨b, hm.count f hf⟩, hmtu, hfit⟩

theorem Safe.hears {s t : VNet} (h : Safe s) (hs : VNet.Hears s t) (hr : t.reasm = s.reasm) : Safe t := by
  obtain ⟨⟨b, hm⟩, hmtu, hfit⟩ := h
  refine ⟨⟨b, hm.hears hs⟩, ?_, ?_⟩
  · rw [hs.eq]
    exact hmtu
  · unfold FitsBuffers
    rw [hr]
    exact hfit

theorem onIpv4_ok {s : VNet} (hs : Safe s) (srcMac : U64) {p : Ptr} {len : Nat} (h : len ≤ p.size) :
    onIpv4 s srcMac p len = .ok (s.onIpv4 srcMac p.data len) := by
  have hmin : Ip4.MinHeader = 20 := rfl
  have hfields : Ip4.VerIhl = 0 ∧ Ip4.TotalLen = 2 ∧ Ip4.Id = 4 ∧ Ip4.FlagsFrag = 6 ∧ Ip4.Proto = 9 ∧
      Ip4.Src = 12 ∧ Ip4.Dst = 16 :=
    ⟨rfl, rfl, rfl, rfl, rfl, rfl, rfl⟩
  unfold onIpv4 VNet.onIpv4 VNet.ipv4Input
  dsimp only
  by_cases hshort : len < Ip4.MinHeader
  · rw [if_pos hshort, if_pos hshort]
    rfl
  · rw [if_neg hshort, if_neg hshort, Buffer.get_ok (by omega), ok_bind]
    generalize hihl : (p.data Ip4.VerIhl &&& (0x0F : U8)).toNat * 4 = ihl
    split
    · rfl
    · rename_i hgood
      obtain ⟨-, hbad⟩ := not_or.mp hgood
      obtain ⟨hihl1, hihl2⟩ := not_or.mp hbad
      rw [checksum16_ok (by omega), ok_bind]
      split
      · rfl
      · rw [rd16_ok (by omega), ok_bind]
        split
        · rfl
        · rename_i htotal
          have hle : ihl ≤ (if len < (Net.rd16 p.data Ip4.TotalLen).toNat then len
              else (Net.rd16 p.data Ip4.TotalLen).toNat) ∧
              (if len < (Net.rd16 p.data Ip4.TotalLen).toNat then len
              else (Net.rd16 p.data Ip4.TotalLen).toNat) ≤ len := by
            split <;> omega
          generalize (if len < (Net.rd16 p.data Ip4.TotalLen).toNat then len
              else (Net.rd16 p.data Ip4.TotalLen).toNat) = total at hle ⊢
          rw [rd32_ok (by omega), ok_bind,
            rd32_ok (by omega), ok_bind]
          split
          · rfl
          · rw [learnMac_ok, ok_bind, Buffer.get_ok (by omega), ok_bind,
              rd16_ok (by omega), ok_bind,
              shift_mem (by omega), ok_bind, Guarded.sub_ok hle.1, ok_bind]
            obtain ⟨⟨b, hm⟩, hmtu, hfit⟩ := (hs.count (fun t => { t with rxIp := t.rxIp + 1 }) rfl).hears
              (VNet.learnMac_hears _ (Net.rd32 p.data Ip4.Src) srcMac) (VNet.learnMac_reasm ..)
            split
            · exact deliverIpv4_ok hm hmtu _ _ _ (by show total - ihl ≤ p.size - ihl; omega)
            · rw [rd16_ok (by omega), ok_bind]
              exact reassemble_ok hm hmtu hfit _ _ _ _ _ _ (by show total - ihl ≤ p.size - ihl; omega)

theorem onArp_ok (s : VNet) (srcMac : U64) {p : Ptr} {len : Nat} (h : len ≤ p.size) :
    onArp s srcMac p len = .ok (s.onArp srcMac p.data len) := by
  have hsize : Arp4.Size = 28 := rfl
  have hfields : Arp4.HwType = 0 ∧ Arp4.ProtoType = 2 ∧ Arp4.HwLen = 4 ∧ Arp4.ProtoLen = 5 ∧ Arp4.Op = 6 ∧
      Arp4.SenderMac = 8 ∧ Arp4.SenderIp = 14 ∧ Arp4.TargetIp = 24 :=
    ⟨rfl, rfl, rfl, rfl, rfl, rfl, rfl, rfl⟩
  unfold onArp VNet.onArp
  dsimp only
  by_cases hshort : len < Arp4.Size
  · rw [if_pos hshort, if_pos hshort]
    rfl
  · rw [if_neg hshort, if_neg hshort, rd16_ok (by omega), ok_bind, rd16_ok (by omega), ok_bind]
    split
    · rfl
    · rw [Buffer.get_ok (by omega), ok_bind, Buffer.get_ok (by omega), ok_bind]
      split
      · rfl
      · rw [rd16_ok (by omega), ok_bind, rd32_ok (by omega), ok_bind, rd32_ok (by omega), ok_bind,
          shift_mem (by omega), ok_bind,
          macFromBytes_ok (by show 6 ≤ p.size - Arp4.SenderMac; omega), ok_bind, learnMac_ok, ok_bind]
        dsimp only
        generalize (if Net.macFromBytes (Mem.advance p.data Arp4.SenderMac) ≠ 0 then
          Net.macFromBytes (Mem.advance p.data Arp4.SenderMac) else srcMac) = mac
        split
        · rfl
        · rw [arpPacket_ok, ok_bind]
          split <;> rfl

/-- One frame: the guarded reading returns what `onFrame` computes. -/
theorem onFrame_ok {s : VNet} (hs : Safe s) (srcMac dstMac : U64) (etherType : U16) (payload : List U8) :
    onFrame s srcMac dstMac etherType payload = .ok (s.onFrame srcMac dstMac etherType payload) := by
  unfold onFrame VNet.onFrame
  dsimp only
  split
  · rfl
  · split
    · rfl
    · split
      · exact onArp_ok _ _ (le_refl _)
      · split
        · exact onIpv4_ok (hs.count _ rfl) _ (le_refl _)
        · rfl

/-! ### Runs -/

theorem accept_fits {s : VNet} (h : FitsBuffers s) (f : Fragment) (hoff : f.off < 65536) (payload : Mem) :
    FitsBuffers (s.accept f payload).1 := by
  by_cases hw : f.whole = true
  · rw [VNet.accept_whole s hw]
    exact h
  · have hacc := VNet.accept_accepts s (by simpa using hw) hoff payload
    obtain ⟨-, htotal⟩ := h.slot f.key.srcIp f.key.dstIp f.key.id f.key.proto
    generalize s.reasmSlot f.key.srcIp f.key.dstIp f.key.id f.key.proto = slot at hacc htotal
    intro i hi hu
    by_cases hslot : i = slot.1
    · subst hslot
      by_cases hbig : ReasmMax < f.off + f.bytes.length
      · rw [(hacc.tooBig hbig).1] at hu
        cases hu
      · have hfit : f.off + f.bytes.length ≤ ReasmMax := by omega
        by_cases hfull : (slot.2.store f.off f.more payload f.bytes.length).full
        · rw [(hacc.full hfit hfull).1] at hu
          cases hu
        · rw [(hacc.part hfit hfull).1]
          exact total_le htotal hfit f.more
    · rw [hacc.other i hslot] at hu ⊢
      exact h i hi hu

/-- A configured MTU leaves room for a fragment, whatever was asked for. -/
theorem exec_mtu {s : VNet} (h : 576 ≤ s.mtu.toNat) (op : VNet.Op) : 576 ≤ (s.exec op).1.mtu.toNat := by
  rcases VNet.exec_mtu_cases s op with heq | haccepted
  · rw [heq]
    exact h
  · exact haccepted.1

theorem exec_fits {s : VNet} (h : FitsBuffers s) (op : VNet.Op) : FitsBuffers (s.exec op).1 := by
  by_cases hr : op = .reset
  · subst hr
    intro i hi hu
    cases hu
  · cases hin : s.inbound op with
    | none =>
      unfold FitsBuffers
      rw [(VNet.exec_quiet hin hr).1]
      exact h
    | some f =>
      obtain ⟨t, payload, ht, -, hoff, heq, -⟩ := VNet.exec_inbound hin
      have hfits : FitsBuffers t := by
        unfold FitsBuffers
        rw [ht]
        exact h
      unfold FitsBuffers
      rw [heq]
      exact accept_fits hfits f hoff payload

theorem reset_safe (s : VNet) : Safe s.reset where
  pool := ⟨_, VNet.reset_models s⟩
  mtu := by show 576 ≤ (1500 : U16).toNat; decide
  fits := fun _ _ hu => by cases hu

theorem exec_safe {s : VNet} (h : Safe s) (op : VNet.Op) : Safe (s.exec op).1 := by
  obtain ⟨⟨b, hm⟩, hmtu, hfit⟩ := h
  exact ⟨⟨_, (VNet.exec_models hm op).1⟩, exec_mtu hmtu op, exec_fits hfit op⟩

theorem execAll_safe (ops : List VNet.Op) {s : VNet} (h : Safe s) : Safe (s.execAll ops).1 := by
  induction ops generalizing s with
  | nil => exact h
  | cons op ops ih => exact ih (exec_safe h op)

/-- **No frame makes the packet path leave a buffer, a table or a loop.** In every
state a run reaches after a reset, and for every frame, the guarded reading of
`onFrame` ends without a fault, in the state and with the frames of `onFrame`. -/
theorem packet_path_safe (s : VNet) (ops : List VNet.Op) (srcMac dstMac : U64) (etherType : U16)
    (payload : List U8) :
    onFrame (s.reset.execAll ops).1 srcMac dstMac etherType payload =
      .ok ((s.reset.execAll ops).1.onFrame srcMac dstMac etherType payload) :=
  onFrame_ok (execAll_safe ops (reset_safe s)) srcMac dstMac etherType payload

end SysZerotier.Net.Checked
