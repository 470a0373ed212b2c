import Mathlib
import SysZerotier.Library.Medium
import SysZerotier.Net.Neighbours

/-! The consoles of one virtual network.

The controller gives each console a MAC and an address of its own (`Roster`). A
console's port sends the frames its interface emits under the interface's MAC, and
the network hands a frame to the console it is addressed to, a broadcast to all
others; it may lose frames, change their order and hand one over twice. What the
port's own queue loses or delays is among these.

Whatever happens, no cache holds a pair that is not some console's, so a unicast
packet reaches only the console whose address it carries (`caches_truthful`). An
answer weighs less than what it answers, so the consoles never keep the network busy
by themselves (`no_storm`). -/
namespace SysZerotier.Net
open Library VNet

structure Roster (n : Nat) where
  mac : Fin n → U64
  ip : Fin n → U32
  mac_ne_zero : ∀ i, mac i ≠ 0
  mac_lt : ∀ i, (mac i).toNat < MacBroadcast.toNat
  mac_injective : Function.Injective mac
  ip_injective : Function.Injective ip

/-- A frame and the MAC it is sent under. -/
structure OnAir where
  srcMac : U64
  frame : Frame

/-! ### What a console may send -/

/-- Console `k`'s own pair, as an ARP packet. -/
def ArpFrom {n : Nat} (r : Roster n) (k : Fin n) (f : Frame) : Prop :=
  f.etherType = EtherType_ARP ∧
    ∃ op targetIp, ArpFields (Mem.ofBytes f.payload) op (r.mac k) (r.ip k) targetIp

/-- A packet from console `k`'s address, broadcast or addressed to the console that
owns its destination. Pings are in one piece. -/
structure PacketFrom {n : Nat} (r : Roster n) (k : Fin n) (f : Frame) (dstIp : U32) (proto : U8) : Prop where
  etherType : f.etherType = EtherType_IPv4
  built : ∃ id off more data len, Built (r.ip k) dstIp proto id off more data len f.payload ∧
    (proto = IpProto_ICMP → off = 0 ∧ more = false ∧ len = 16)
  addressed : f.dstMac = MacBroadcast ∨ ∃ l, dstIp = r.ip l ∧ f.dstMac = r.mac l
  proto : proto = IpProto_UDP ∨ proto = IpProto_ICMP

def SaidBy {n : Nat} (r : Roster n) (k : Fin n) (f : Frame) : Prop :=
  ArpFrom r k f ∨ ∃ dstIp proto, PacketFrom r k f dstIp proto

/-- A frame on its way to console `j`. -/
structure Genuine {n : Nat} (r : Roster n) (j : Fin n) (m : OnAir) : Prop where
  reaches : m.frame.dstMac = r.mac j ∨ m.frame.dstMac = MacBroadcast
  said : ∃ k, m.srcMac = r.mac k ∧ SaidBy r k m.frame

/-- What holds of a console at any time. -/
structure Truthful {n : Nat} (r : Roster n) (i : Fin n) (s : VNet) : Prop where
  mtu : 576 ≤ s.mtu.toNat
  own : s.configured = true → s.mac = r.mac i ∧ s.ip = r.ip i
  arp : ∀ slot, (s.arp slot).mac ≠ 0 → ∃ k, (s.arp slot).ip = r.ip k ∧ (s.arp slot).mac = r.mac k

namespace Roster
variable {n : Nat} (r : Roster n)

theorem mac_lt_48 (i : Fin n) : (r.mac i).toNat < 2 ^ 48 :=
  lt_trans (r.mac_lt i) (by decide)

theorem mac_ne_broadcast (i : Fin n) : r.mac i ≠ MacBroadcast := by
  intro h
  have hlt := r.mac_lt i
  rw [h] at hlt
  exact lt_irrefl _ hlt

/-- A console is set up with what the controller gave it, and hears from the network
alone. -/
def Allowed (i : Fin n) : Op → Prop
  | .onFrame .. => False
  | .configure mac ip _ _ => mac = r.mac i ∧ ip = r.ip i
  | _ => True

/-- The consoles a frame from console `i` is carried to. -/
def receivers (i : Fin n) (m : OnAir) : List (Fin n) :=
  (List.finRange n).filter fun j => j ≠ i ∧ (m.frame.dstMac = r.mac j ∨ m.frame.dstMac = MacBroadcast)

def consoles : Parties (Fin n) VNet Op OnAir where
  act _ s op := ((s.exec op).1, (s.exec op).2.frames.map (OnAir.mk s.mac))
  react _ s m :=
    let out := s.onFrame m.srcMac m.frame.dstMac m.frame.etherType m.frame.payload
    (out.1, out.2.map (OnAir.mk s.mac))
  route := r.receivers

theorem mem_receivers {i j : Fin n} {m : OnAir} (h : j ∈ r.receivers i m) :
    j ≠ i ∧ (m.frame.dstMac = r.mac j ∨ m.frame.dstMac = MacBroadcast) := by
  simpa [receivers] using h

end Roster

variable {n : Nat} {r : Roster n}

/-! ### What a console learns -/

theorem Truthful.congr {i : Fin n} {s t : VNet} (h : Truthful r i s) (hs : SameHost s t) : Truthful r i t where
  mtu := by rw [hs.mtu]; exact h.mtu
  own := by rw [hs.configured, hs.mac, hs.ip]; exact h.own
  arp := by rw [hs.arp]; exact h.arp

theorem reset_truthful (i : Fin n) (s : VNet) : Truthful r i s.reset where
  mtu := show 576 ≤ (1500 : U16).toNat by decide
  own := by intro h; cases h
  arp := fun _ h => absurd rfl h

theorem configure_truthful {i : Fin n} {s : VNet} (h : Truthful r i s) (netmask : U32) (mtu : U16) :
    Truthful r i (s.configure (r.mac i) (r.ip i) netmask mtu) where
  mtu := by
    show 576 ≤ (if 576 ≤ mtu.toNat ∧ mtu.toNat ≤ MaxFrame - 14 then mtu else 1500).toNat
    split
    · exact (‹_ ∧ _›).1
    · decide
  own _ := ⟨rfl, rfl⟩
  arp := h.arp

/-- Learning some console's pair keeps the cache truthful. -/
theorem learnMac_truthful {i : Fin n} {s : VNet} (h : Truthful r i s) (k : Fin n) :
    Truthful r i (s.learnMac (r.ip k) (r.mac k)) := by
  unfold learnMac
  split
  · exact h
  · split
    · rename_i slot hslot
      refine ⟨h.mtu, h.own, fun other hother => ?_⟩
      rcases learnScan_cases s.arp (r.ip k) (List.range ArpEntries) 0 with ⟨i, -, heq, -, hip⟩ |
        ⟨-, i, -, -, heq, -⟩ | ⟨i, -, heq, -⟩
      · obtain rfl := Sum.inl.inj (heq.symm.trans hslot)
        by_cases hsame : other = i
        · refine ⟨k, ?_, ?_⟩ <;> simp [hsame, hip]
        · simp only [Function.update_of_ne hsame] at hother ⊢
          exact h.arp other hother
      · cases heq.symm.trans hslot
      · cases heq.symm.trans hslot
    · rename_i slot hslot
      refine ⟨h.mtu, h.own, fun other hother => ?_⟩
      by_cases hsame : other = slot
      · refine ⟨k, ?_, ?_⟩ <;> simp [hsame]
      · simp only [Function.update_of_ne hsame] at hother ⊢
        exact h.arp other hother

/-- A cached MAC is a broadcast's or the owner's. -/
theorem lookupMac_truthful {i : Fin n} {s : VNet} (h : Truthful r i s) {ip : U32} (hknown : s.lookupMac ip ≠ 0) :
    s.lookupMac ip = MacBroadcast ∨ ∃ l, ip = r.ip l ∧ s.lookupMac ip = r.mac l := by
  unfold lookupMac at hknown ⊢
  split
  · exact .inl rfl
  · rename_i hunicast
    rw [if_neg hunicast] at hknown
    split
    · rename_i slot hslot
      have hhit := List.find?_some hslot
      simp only [Bool.and_eq_true, bne_iff_ne, ne_eq, beq_iff_eq] at hhit
      obtain ⟨l, hip, hmac⟩ := h.arp slot hhit.1
      exact .inr ⟨l, hhit.2.symm.trans hip, hmac⟩
    · rename_i hmiss
      rw [hmiss] at hknown
      exact absurd rfl hknown

theorem packetTo_from {i : Fin n} {s : VNet} (h : Truthful r i s) (hconf : s.configured = true) {dstIp : U32}
    {proto : U8} {off : U16} {more : Bool} {data : Mem} {len : Nat} {f : Frame}
    (hp : PacketTo s dstIp proto off more data len f)
    (hproto : proto = IpProto_UDP ∨ proto = IpProto_ICMP ∧ off = 0 ∧ more = false ∧ len = 16) :
    PacketFrom r i f dstIp proto where
  etherType := hp.etherType
  built := by
    obtain ⟨id, hbuilt⟩ := hp.built
    rw [(h.own hconf).2] at hbuilt
    refine ⟨id, off, more, data, len, hbuilt, fun hicmp => ?_⟩
    rcases hproto with rfl | ⟨-, hwhole⟩
    · exact absurd hicmp (by decide)
    · exact hwhole
  addressed := by
    rw [hp.dstMac]
    exact lookupMac_truthful h hp.known
  proto := hproto.imp_right And.left

theorem arpRequest_from {i : Fin n} {s : VNet} (h : Truthful r i s) (hconf : s.configured = true) (ip : U32) :
    ArpFrom r i (s.arpRequest ip) := by
  refine ⟨rfl, Arp4.OpRequest, ip, ?_⟩
  rw [arpRequest, (h.own hconf).1, (h.own hconf).2]
  exact arpPacket_fields _ _ _ _ (r.mac_lt_48 i)

theorem arpReply_from {i : Fin n} {s : VNet} (h : Truthful r i s) (hconf : s.configured = true) (toMac : U64)
    (toIp : U32) : ArpFrom r i (s.arpReply toMac toIp) := by
  refine ⟨rfl, Arp4.OpReply, toIp, ?_⟩
  rw [arpReply, (h.own hconf).1, (h.own hconf).2]
  exact arpPacket_fields _ _ _ _ (r.mac_lt_48 i)

/-! ### What a console does -/

theorem exec_truthful {i : Fin n} {s : VNet} (h : Truthful r i s) {op : Op} (ha : r.Allowed i op) :
    Truthful r i (s.exec op).1 := by
  cases op with
  | onFrame srcMac dstMac etherType payload => exact ha.elim
  | reset => exact reset_truthful i s
  | configure mac ip netmask mtu =>
    obtain ⟨rfl, rfl⟩ := ha
    exact configure_truthful h netmask mtu
  | _ =>
    refine h.congr (exec_sameHost s ?_ ?_ ?_)
    · intro hop; cases hop
    · intro mac ip netmask mtu hop; cases hop
    · intro srcMac dstMac etherType payload hop; cases hop

theorem exec_said {i : Fin n} {s : VNet} (h : Truthful r i s) {op : Op} (ha : r.Allowed i op) {f : Frame}
    (hf : f ∈ (s.exec op).2.frames) : s.mac = r.mac i ∧ SaidBy r i f := by
  have hframe : ∀ srcMac dstMac etherType payload, op ≠ .onFrame srcMac dstMac etherType payload := by
    intro srcMac dstMac etherType payload hop
    rw [hop] at ha
    exact ha
  obtain ⟨hconf, ⟨ip, rfl⟩ | ⟨vfd, dstIp, dstPort, buf, -, -, srcPort, off, more, data, len, hp, -⟩ |
    ⟨dstIp, data, hp⟩⟩ := exec_emits h.mtu hframe hf
  · exact ⟨(h.own hconf).1, .inl (arpRequest_from h hconf ip)⟩
  · exact ⟨(h.own hconf).1, .inr ⟨dstIp, _, packetTo_from h hconf hp (.inl rfl)⟩⟩
  · exact ⟨(h.own hconf).1, .inr ⟨dstIp, _, packetTo_from h hconf hp (.inr ⟨rfl, rfl, rfl, rfl⟩)⟩⟩

/-- What a genuine frame teaches is its sender's pair. -/
theorem teaches_own {j : Fin n} {m : OnAir} (hm : Genuine r j m) {ip : U32} {mac : U64}
    (h : Teaches m.srcMac m.frame.etherType m.frame.payload ip mac) : ∃ k, ip = r.ip k ∧ mac = r.mac k := by
  obtain ⟨k, hsrc, ⟨htype, op, targetIp, hfields⟩ | ⟨dstIp, proto, hp⟩⟩ := hm.said
  · rcases h with ⟨-, -, rfl, rfl⟩ | ⟨htype', -⟩
    · rw [hfields.senderMac, hfields.senderIp, if_pos (r.mac_ne_zero k)]
      exact ⟨k, rfl, rfl⟩
    · exact absurd (htype.symm.trans htype') (by decide)
  · rcases h with ⟨htype', -⟩ | ⟨-, rfl, rfl⟩
    · exact absurd (hp.etherType.symm.trans htype') (by decide)
    · obtain ⟨id, off, more, data, len, hbuilt, -⟩ := hp.built
      exact ⟨k, hbuilt.fields.src, hsrc⟩

theorem onFrame_truthful {i : Fin n} {s : VNet} (h : Truthful r i s) {m : OnAir} (hm : Genuine r i m) :
    Truthful r i (s.onFrame m.srcMac m.frame.dstMac m.frame.etherType m.frame.payload).1 := by
  rcases onFrame_host s m.srcMac m.frame.dstMac m.frame.etherType m.frame.payload with hs | ⟨ip, mac, ht, hs⟩
  · exact h.congr hs
  · obtain ⟨k, rfl, rfl⟩ := teaches_own hm ht
    exact (learnMac_truthful h k).congr hs

/-- The packet a ping arrives as, as its sender built it. -/
theorem ping_whole {k : Fin n} {f : Frame} {dstIp : U32} {proto : U8} (hp : PacketFrom r k f dstIp proto)
    {u : VNet} {srcMac : U64} {pkt : Packet} (hicmp : pkt.proto = IpProto_ICMP)
    (hpkt : (u.ipv4Input srcMac (Mem.ofBytes f.payload) f.payload.length).2 = some pkt) :
    proto = IpProto_ICMP ∧
      pkt = ⟨r.ip k, dstIp, proto, (Mem.ofBytes f.payload).advance Ip4.MinHeader, 16⟩ := by
  obtain ⟨id, off, more, data, len, hbuilt, hwhole⟩ := hp.built
  have hproto : proto = IpProto_ICMP := by
    rcases ipv4Input_host u srcMac (Mem.ofBytes f.payload) f.payload.length with ⟨-, hnone⟩ | ⟨-, hsome⟩
    · rw [hnone] at hpkt
      cases hpkt
    · rw [← hicmp, (hsome pkt hpkt).2]
      exact hbuilt.fields.proto.symm
  obtain ⟨rfl, rfl, rfl⟩ := hwhole hproto
  exact ⟨hproto, ipv4Input_whole hbuilt (by decide) hpkt⟩

/-! ### What a console answers -/

def isArpRequest (f : Frame) : Bool :=
  f.etherType == EtherType_ARP && rd16 (Mem.ofBytes f.payload) Arp4.Op == Arp4.OpRequest

def isPing (f : Frame) : Bool :=
  f.etherType == EtherType_IPv4 && Mem.ofBytes f.payload Ip4.Proto == IpProto_ICMP &&
    Mem.ofBytes f.payload (Ip4.MinHeader + Icmp4.MsgType) == Icmp4.EchoRequest

theorem onFrame_configured (s : VNet) (srcMac dstMac : U64) (etherType : U16) (payload : List U8) :
    (s.onFrame srcMac dstMac etherType payload).1.configured = s.configured := by
  rcases onFrame_host s srcMac dstMac etherType payload with h | ⟨ip, mac, -, h⟩
  · exact h.configured
  · rw [h.configured, (learnMac_hears s ip mac).eq]

/-- A console answers a request for its MAC to the one who asked, and a ping with a
request for the sender's MAC or a packet that is no ping. -/
theorem onFrame_genuine {i : Fin n} {s : VNet} (h : Truthful r i s) {m : OnAir} (hm : Genuine r i m) {f : Frame}
    (hf : f ∈ (s.onFrame m.srcMac m.frame.dstMac m.frame.etherType m.frame.payload).2) :
    (s.onFrame m.srcMac m.frame.dstMac m.frame.etherType m.frame.payload).2.length ≤ 1 ∧
      s.mac = r.mac i ∧ SaidBy r i f ∧
      (f.etherType = EtherType_IPv4 → Mem.ofBytes f.payload Ip4.Proto = IpProto_ICMP) ∧
      (isArpRequest m.frame = true ∧ isArpRequest f = false ∧ isPing f = false ∧ (∃ k, f.dstMac = r.mac k) ∨
        isPing m.frame = true ∧ isPing f = false) := by
  have htruthful := onFrame_truthful h hm
  have hsame := onFrame_configured s m.srcMac m.frame.dstMac m.frame.etherType m.frame.payload
  rcases onFrame_answers s m.srcMac m.frame.dstMac m.frame.etherType m.frame.payload with hnone |
    ⟨hconf, ⟨htype, hreq, hout⟩ | ⟨htype, t, u, pkt, ht, hpkt, hicmp, hping, hout⟩⟩
  · rw [hnone] at hf
    cases hf
  · rw [hout] at hf ⊢
    rw [List.mem_singleton.mp hf]
    obtain ⟨k, -, ⟨-, op, targetIp, hfields⟩ | ⟨dstIp, proto, hp⟩⟩ := hm.said
    · refine ⟨le_rfl, (h.own hconf).1, .inl (arpReply_from h hconf _ _),
        fun hip => absurd hip (show EtherType_ARP ≠ EtherType_IPv4 by decide),
        .inl ⟨?_, ?_, rfl, k, hfields.senderMac⟩⟩
      · rw [isArpRequest, htype, hreq]
        rfl
      · have hmac : s.mac.toNat < 2 ^ 48 := (h.own hconf).1 ▸ r.mac_lt_48 i
        rw [isArpRequest, arpReply, (arpPacket_fields Arp4.OpReply s.ip _ _ hmac).op]
        rfl
    · exact absurd (hp.etherType.symm.trans htype) (by decide)
  · obtain ⟨k, -, ⟨htype', -⟩ | ⟨dstIp, proto, hp⟩⟩ := hm.said
    · exact absurd (htype'.symm.trans htype) (by decide)
    obtain ⟨hproto, rfl⟩ := ping_whole hp hicmp hpkt
    have hmtu : 16 ≤ t.mtu.toNat - Ip4.MinHeader := by
      have hfits := (htruthful.congr ht).mtu
      have hmin : Ip4.MinHeader = 20 := rfl
      omega
    have hconf' : t.configured = true := by rw [ht.configured, hsame, hconf]
    have hasked : isPing m.frame = true := by
      obtain ⟨id, off, more, data, len, hbuilt, -⟩ := hp.built
      rw [isPing, htype, hbuilt.fields.proto, hproto]
      simpa [Mem.advance_apply] using hping
    rw [hout] at hf ⊢
    refine ⟨sendIpv4_single t _ _ _ hmtu, (h.own hconf).1, ?_⟩
    rcases sendIpv4_emits t _ _ _ _ hf with ⟨-, rfl⟩ | ⟨off, more, data, len, hto, hwhole⟩
    · exact ⟨.inl (arpRequest_from (htruthful.congr ht) hconf' _),
        fun hip => absurd hip (show EtherType_ARP ≠ EtherType_IPv4 by decide),
        .inr ⟨hasked, rfl⟩⟩
    · obtain ⟨rfl, rfl, rfl, rfl⟩ := hwhole hmtu
      refine ⟨.inr ⟨_, _, packetTo_from (htruthful.congr ht) hconf' hto (.inr ⟨rfl, rfl, rfl, rfl⟩)⟩,
        fun _ => ?_, .inr ⟨hasked, ?_⟩⟩
      · obtain ⟨id, hbuilt⟩ := hto.built
        exact hbuilt.fields.proto
      obtain ⟨id, hbuilt⟩ := hto.built
      have htypeByte := Mem.bytes_inj hbuilt.data Icmp4.MsgType (show 0 < 16 by decide)
      rw [Mem.advance_apply, echoReply, wr16_other _ _ (by decide) (by decide),
        wr16_other _ _ (by decide) (by decide), Mem.set_same] at htypeByte
      rw [isPing, htypeByte]
      simp [Icmp4.EchoReply, Icmp4.EchoRequest]

/-! ### The network -/

theorem consoles_local : Parties.Local r.consoles r.Allowed (Truthful r) (Genuine r) where
  act i s op h ha := by
    refine ⟨exec_truthful h ha, fun m hm j hj => ?_⟩
    obtain ⟨f, hf, rfl⟩ := List.mem_map.mp hm
    obtain ⟨hmac, hsaid⟩ := exec_said h ha hf
    exact ⟨(r.mem_receivers hj).2, i, hmac, hsaid⟩
  react i s m h hm := by
    refine ⟨onFrame_truthful h hm, fun m' hm' j hj => ?_⟩
    obtain ⟨f, hf, rfl⟩ := List.mem_map.mp hm'
    obtain ⟨-, hmac, hsaid, -⟩ := onFrame_genuine h hm hf
    exact ⟨(r.mem_receivers hj).2, i, hmac, hsaid⟩

/-- The consoles as their ports start them, whatever their memory holds, and nothing
on its way. -/
def Roster.start (_ : Roster n) (s : Fin n → VNet) : Medium (Fin n) VNet OnAir := ⟨fun i => (s i).reset, []⟩

theorem start_holds (s : Fin n → VNet) : Parties.Holds (Truthful r) (Genuine r) (r.start s) :=
  ⟨fun i => reset_truthful i (s i), fun _ hd => by cases hd⟩

/-- **Whatever the consoles do and the network does to their frames, a cache holds
only pairs that are some console's, and a packet to a console's address that is not
broadcast is on its way to that console only.** -/
theorem caches_truthful (r : Roster n) (s : Fin n → VNet) (es : List (Happening (Fin n) Op))
    (ha : ∀ e ∈ es, e.Permitted r.Allowed) (t : Medium (Fin n) VNet OnAir)
    (hr : r.consoles.system.run (r.start s) es = some t) :
    (∀ i slot, ((t.state i).arp slot).mac ≠ 0 →
      ∃ k, ((t.state i).arp slot).ip = r.ip k ∧ ((t.state i).arp slot).mac = r.mac k) ∧
    ∀ d ∈ t.pending, ∀ j, d.2.frame.etherType = EtherType_IPv4 → d.2.frame.dstMac ≠ MacBroadcast →
      rd32 (Mem.ofBytes d.2.frame.payload) Ip4.Dst = r.ip j → d.1 = j := by
  have hholds := consoles_local.run es (start_holds s) ha hr
  refine ⟨fun i => (hholds.state i).arp, fun d hd j htype hunicast hdst => ?_⟩
  obtain ⟨hreaches, k, -, ⟨harp, -⟩ | ⟨dstIp, proto, hp⟩⟩ := hholds.pending d hd
  · exact absurd (harp.symm.trans htype) (by decide)
  obtain ⟨id, off, more, data, len, hbuilt, -⟩ := hp.built
  rcases hp.addressed with hall | ⟨l, hip, hmac⟩
  · exact absurd hall hunicast
  · have hown : l = j := r.ip_injective (hip.symm.trans (hbuilt.fields.dst.symm.trans hdst))
    rcases hreaches with hto | hall
    · exact (r.mac_injective (hto.symm.trans hmac)).trans hown
    · exact absurd hall hunicast

/-- Two consoles. -/
def pair : Roster 2 where
  mac := ![0x020000000001, 0x020000000002]
  ip := ![0x0A000001, 0x0A000002]
  mac_ne_zero := by decide
  mac_lt := by decide
  mac_injective := by decide
  ip_injective := by decide

/-- The first of them. -/
abbrev here : Fin 2 := 0

/-- The second one. -/
abbrev there : Fin 2 := 1

/-- Both consoles are set up and the first one pings the second. -/
def pinging : List (Happening (Fin 2) Op) :=
  [.act 0 (.configure (pair.mac 0) (pair.ip 0) 0xFFFFFF00 1500), .act 0 .setEmit,
    .act 1 (.configure (pair.mac 1) (pair.ip 1) 0xFFFFFF00 1500), .act 1 .setEmit,
    .act 0 (.sendEchoRequest (pair.ip 1))]

theorem pinging_permitted : ∀ e ∈ pinging, e.Permitted pair.Allowed := by
  simp [pinging, Happening.Permitted, Roster.Allowed]

/-- The question for the second console's MAC is handed over twice, answered twice,
and the answers are handed over. -/
theorem caches_truthful_pair :
    ∃ t, pair.consoles.system.run (pair.start fun _ => .fresh)
        (pinging ++ [.duplicate 0, .deliver 0, .deliver 0, .deliver 1]) = some t ∧
      ∀ i slot, ((t.state i).arp slot).mac ≠ 0 →
        ∃ k, ((t.state i).arp slot).ip = pair.ip k ∧ ((t.state i).arp slot).mac = pair.mac k :=
  ⟨_, rfl, (caches_truthful pair (fun _ => .fresh) (pinging ++ [.duplicate 0, .deliver 0, .deliver 0, .deliver 1])
    (by simp [pinging, Happening.Permitted, Roster.Allowed]) _ rfl).1⟩

/-! ### Silence -/

/-- A ping may be answered to all, with a request that all but the sender may answer. -/
def OnAir.weight (n : Nat) (m : OnAir) : Nat :=
  if isPing m.frame then 2 * n + 1 else if isArpRequest m.frame then 2 else 1

theorem OnAir.one_le_weight (n : Nat) (m : OnAir) : 1 ≤ m.weight n := by
  unfold OnAir.weight
  split_ifs <;> omega

theorem OnAir.weight_le {n : Nat} (hn : 0 < n) (m : OnAir) : m.weight n ≤ 2 * n + 1 := by
  unfold OnAir.weight
  split_ifs <;> omega

theorem receivers_length (i : Fin n) (m : OnAir) : (r.receivers i m).length ≤ n := by
  have hle := List.length_filter_le
    (fun j => decide (j ≠ i ∧ (m.frame.dstMac = r.mac j ∨ m.frame.dstMac = MacBroadcast))) (List.finRange n)
  rw [List.length_finRange] at hle
  exact hle

theorem receivers_unicast (i : Fin n) {m : OnAir} {k : Fin n} (h : m.frame.dstMac = r.mac k) :
    (r.receivers i m).length ≤ 1 := by
  have hall : ∀ j ∈ r.receivers i m, j = k := by
    intro j hj
    rcases (r.mem_receivers hj).2 with hto | hall
    · exact r.mac_injective (hto.symm.trans h)
    · exact absurd (h.symm.trans hall) (r.mac_ne_broadcast k)
  have hnodup : (r.receivers i m).Nodup := (List.nodup_finRange n).filter _
  by_contra hlen
  obtain ⟨a, b, rest, heq⟩ : ∃ a b rest, r.receivers i m = a :: b :: rest := by
    match hl : r.receivers i m with
    | [] => simp [hl] at hlen
    | [_] => simp [hl] at hlen
    | a :: b :: rest => exact ⟨a, b, rest, rfl⟩
  rw [heq] at hall hnodup
  have hab : a = b := (hall a (by simp)).trans (hall b (by simp)).symm
  simp [hab] at hnodup

theorem consoles_wane : Parties.Wanes r.consoles (Truthful r) (Genuine r) (OnAir.weight n) := by
  intro i s m h hm
  have hpos : 0 < n := i.pos
  have hgenuine : ∀ f ∈ (s.onFrame m.srcMac m.frame.dstMac m.frame.etherType m.frame.payload).2, _ :=
    fun f hf => onFrame_genuine h hm hf
  show Parties.load (OnAir.weight n) (r.consoles.deliveries i
    ((s.onFrame m.srcMac m.frame.dstMac m.frame.etherType m.frame.payload).2.map (OnAir.mk s.mac))) < m.weight n
  generalize (s.onFrame m.srcMac m.frame.dstMac m.frame.etherType m.frame.payload).2 = out at hgenuine ⊢
  cases out with
  | nil =>
    exact OnAir.one_le_weight n m
  | cons f rest =>
    obtain ⟨hone, -, -, -, hcase⟩ := hgenuine f List.mem_cons_self
    obtain rfl : rest = [] := by simpa using hone
    rcases hcase with ⟨hreq, hreq', hping', k, hto⟩ | ⟨hping, hping'⟩
    · have hload := Parties.load_deliveries (P := r.consoles) (OnAir.weight n) i (l := [⟨s.mac, f⟩]) (c := 1)
        fun m' hm' => by
          rw [List.mem_singleton.mp hm', OnAir.weight, hping', hreq']
          exact (Nat.mul_one _).le.trans (receivers_unicast i (m := ⟨s.mac, f⟩) hto)
      refine lt_of_le_of_lt hload ?_
      rw [OnAir.weight, hreq, if_pos rfl, List.length_singleton]
      split_ifs <;> omega
    · have hload := Parties.load_deliveries (P := r.consoles) (OnAir.weight n) i (l := [⟨s.mac, f⟩]) (c := n * 2)
        fun m' hm' => by
          rw [List.mem_singleton.mp hm', OnAir.weight, hping']
          refine Nat.mul_le_mul (receivers_length i _) ?_
          split_ifs <;> simp_all
      refine lt_of_le_of_lt hload ?_
      rw [OnAir.weight, hping, if_pos rfl, List.length_singleton]
      omega

/-- **Consoles left to themselves fall silent.** -/
theorem no_storm (r : Roster n) (s : Fin n → VNet) (es fs : List (Happening (Fin n) Op))
    (ha : ∀ e ∈ es, e.Permitted r.Allowed) (hq : ∀ e ∈ fs, e.quiet = true) (t u : Medium (Fin n) VNet OnAir)
    (hr : r.consoles.system.run (r.start s) es = some t) (hr' : r.consoles.system.run t fs = some u) :
    fs.length + u.pending.length ≤ (2 * n + 1) * t.pending.length := by
  have hsilent := consoles_local.settles consoles_wane fs (consoles_local.run es (start_holds s) ha hr) hq hr'
  have hleft : u.pending.length ≤ Parties.load (OnAir.weight n) u.pending := by
    have hsum := List.length_le_sum_of_one_le (u.pending.map fun d => d.2.weight n) (by
      intro w hw
      obtain ⟨d, -, rfl⟩ := List.mem_map.mp hw
      exact d.2.one_le_weight n)
    rw [List.length_map] at hsum
    exact hsum
  have hload : Parties.load (OnAir.weight n) t.pending ≤ (2 * n + 1) * t.pending.length := by
    have hsum := List.sum_le_card_nsmul (t.pending.map fun d => d.2.weight n) (2 * n + 1) (by
      intro w hw
      obtain ⟨d, -, rfl⟩ := List.mem_map.mp hw
      exact d.2.weight_le d.1.pos)
    rw [List.length_map, smul_eq_mul, Nat.mul_comm] at hsum
    exact hsum
  omega

theorem no_storm_pair :
    ∃ t u, pair.consoles.system.run (pair.start fun _ => .fresh) pinging = some t ∧
      pair.consoles.system.run t [.deliver 0, .deliver 0] = some u ∧ 2 + u.pending.length ≤ 5 * 1 :=
  ⟨_, _, rfl, rfl, no_storm pair (fun _ => .fresh) pinging [.deliver 0, .deliver 0] pinging_permitted (by decide)
    _ _ rfl rfl⟩

end SysZerotier.Net
