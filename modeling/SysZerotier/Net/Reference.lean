import SysZerotier.Net.InternetChecksum
import SysZerotier.Net.Neighbours
import SysZerotier.Net.RoundTrip

/-! The reference packets (`tests/reference.py`), and the interface's.

The tests compare packets of the interface with packets that a second implementation
builds, from the same standards and from lists of bytes. They compare a few;
`udp_agrees` and `arp_agrees` compare them all: what the interface sends is, byte by byte,
what the reference builds. -/
namespace SysZerotier.Net.Reference
open Library InternetChecksum VNet

/-! ### The reference -/

/-- `struct.pack("!H", v)` -/
def pack16 (v : U16) : List U8 := [v.extractLsb' 8 8, v.extractLsb' 0 8]

/-- The four bytes of an address. -/
def inetAton (ip : U32) : List U8 := pack16 (ip.extractLsb' 16 16) ++ pack16 (ip.extractLsb' 0 16)

/-- The six bytes of a hardware address. -/
def macBytes (mac : U64) : List U8 := (List.range 6).map fun i => mac.extractLsb' (8 * (5 - i)) 8

/-- `struct.unpack("!%dH", data)` for an even number of bytes. -/
def unpack16 : List U8 → List Nat
  | hi :: lo :: rest => (hi.toNat * 256 + lo.toNat) :: unpack16 rest
  | _ => []

/-- `while total >> 16: total = (total & 0xFFFF) + (total >> 16)` -/
def carry (total : Nat) : Nat :=
  if total >>> 16 = 0 then total else carry ((total &&& 0xFFFF) + (total >>> 16))
termination_by total
decreasing_by
  rename_i h
  rw [Nat.shiftRight_eq_div_pow] at h ⊢
  rw [show (0xFFFF : Nat) = 2 ^ 16 - 1 from rfl, Nat.and_two_pow_sub_one_eq_mod]
  omega

def onesComplementSum (data : List U8) (initial : Nat) : U16 :=
  let data := if data.length % 2 = 0 then data else data ++ [0]
  ~~~BitVec.ofNat 16 (carry (initial + (unpack16 data).sum))

def arpReply (ourMac : U64) (ourIp : U32) (peerMac : U64) (peerIp : U32) : List U8 :=
  pack16 1 ++ pack16 0x0800 ++ [6, 4] ++ pack16 2 ++ macBytes ourMac ++ inetAton ourIp ++ macBytes peerMac ++
    inetAton peerIp

def ipv4 (src dst : U32) (proto : U8) (payload : List U8) (ident : U16) : List U8 :=
  let header := [0x45, 0] ++ pack16 (BitVec.ofNat 16 (20 + payload.length)) ++ pack16 ident ++ pack16 0 ++
    [64, proto] ++ pack16 0 ++ inetAton src ++ inetAton dst
  let csum := onesComplementSum header 0
  let header := header.take 10 ++ pack16 csum ++ header.drop 12
  header ++ payload

def udp (src dst : U32) (sport dport : U16) (payload : List U8) : List U8 :=
  let length := BitVec.ofNat 16 (8 + payload.length)
  let body := pack16 sport ++ pack16 dport ++ pack16 length ++ pack16 0 ++ payload
  let pseudo := inetAton src ++ inetAton dst ++ [0, 17] ++ pack16 length
  let csum := onesComplementSum (pseudo ++ body) 0
  let csum := if csum = 0 then 0xFFFF else csum
  body.take 6 ++ pack16 csum ++ body.drop 8

/-! ### The two checksums -/

theorem carry_eq (n : Nat) : carry n = OnesComplement.fold n := by
  induction n using Nat.strongRecOn with
  | ind n ih =>
    rw [carry]
    have hdiv : n >>> 16 = n / 65536 := Nat.shiftRight_eq_div_pow n 16
    have hmod : n &&& 0xFFFF = n % 65536 := Nat.and_two_pow_sub_one_eq_mod n 16
    rw [hdiv, hmod]
    split
    · exact (OnesComplement.fold_of_le (by omega)).symm
    · rw [ih _ (by omega), OnesComplement.fold_carry]

/-- Padded to an even number of bytes, the data is the words of the interface. -/
theorem unpack16_words (data : List U8) :
    unpack16 (if data.length % 2 = 0 then data else data ++ [0]) = (words data).map BitVec.toNat := by
  induction data using words.induct with
  | case1 => rfl
  | case2 hi =>
    rw [words, List.map_singleton, be16_toNat]
    rfl
  | case3 hi lo rest ih =>
    have hparity : (hi :: lo :: rest).length % 2 = rest.length % 2 := by
      rw [List.length_cons, List.length_cons]
      omega
    have hpad : (if (hi :: lo :: rest).length % 2 = 0 then hi :: lo :: rest else hi :: lo :: rest ++ [0]) =
        hi :: lo :: (if rest.length % 2 = 0 then rest else rest ++ [0]) := by
      rw [hparity]
      split <;> rfl
    rw [hpad, unpack16, ih, words, List.map_cons, be16_toNat]

theorem onesComplementSum_eq (data : List U8) : onesComplementSum data 0 = ~~~OnesComplement.sum (words data) := by
  have hsum := OnesComplement.sum_toNat (words data)
  rw [onesComplementSum, unpack16_words, Nat.zero_add, carry_eq, ← hsum, BitVec.ofNat_toNat, BitVec.setWidth_eq]

theorem words_pack16 (v : U16) (rest : List U8) : words (pack16 v ++ rest) = v :: words rest := by
  rw [pack16, List.cons_append, List.cons_append, List.nil_append, words, be16_split]

theorem words_inetAton (ip : U32) (rest : List U8) :
    words (inetAton ip ++ rest) = ip.extractLsb' 16 16 :: ip.extractLsb' 0 16 :: words rest := by
  rw [inetAton, List.append_assoc, words_pack16, words_pack16]

/-- What is summed of memory is summed of its bytes. -/
theorem checksum16_bytes (pseudo : PseudoHeader) (p : Mem) {len : Nat} (hlen : len ≤ 65535) :
    checksum16 p len pseudo.initial = ~~~OnesComplement.sum (pseudo.words ++ words (p.bytes len)) := by
  have hbytes : (p.bytes len).length = len := Mem.bytes_length p len
  have hsum := @checksum16_sum pseudo (p.bytes len) (by omega)
  rw [hbytes] at hsum
  rw [← hsum]
  exact checksum16_congr _ hlen (initial_lt pseudo) fun i hi => (Mem.ofBytes_bytes p len i hi).symm

/-! ### The packets of the interface -/

theorem bytes_add (p : Mem) (n m : Nat) : p.bytes (n + m) = p.bytes n ++ (p.advance n).bytes m := by
  rw [Mem.bytes, List.range_add, List.map_append, List.map_map]
  rfl

theorem udpDatagram_bytes (srcPort dstPort : U16) (buf : Mem) (len : Nat) (csum : U16) :
    (wr16 (udpDatagram srcPort dstPort buf len) Udp4.Csum csum).bytes (Udp4.Header + len) =
      pack16 srcPort ++ pack16 dstPort ++ pack16 (BitVec.ofNat 16 (8 + len)) ++ pack16 csum ++ buf.bytes len := by
  rw [bytes_add]
  congr 1
  apply Mem.bytes_congr
  intro i hi
  have hhdr : Udp4.Header = 8 := rfl
  have hcsum : Udp4.Csum = 6 := rfl
  rw [Mem.advance_apply, wr16_other _ _ (by omega) (by omega), udpDatagram, memcpy_inside _ _ _ _ _ hi]

/-- Before its checksum is stored it has a zero there. -/
theorem udpDatagram_bytes_zero (srcPort dstPort : U16) (buf : Mem) (len : Nat) :
    (udpDatagram srcPort dstPort buf len).bytes (Udp4.Header + len) =
      pack16 srcPort ++ pack16 dstPort ++ pack16 (BitVec.ofNat 16 (8 + len)) ++ pack16 0 ++ buf.bytes len := by
  rw [bytes_add]
  congr 1
  exact Mem.bytes_congr fun i hi => memcpy_inside _ _ _ _ _ hi

theorem udp_bytes (srcIp dstIp : U32) (srcPort dstPort : U16) (buf : Mem) {len : Nat} (hlen : len ≤ MaxDatagram) :
    (wr16 (udpDatagram srcPort dstPort buf len) Udp4.Csum
      (udpChecksum srcIp dstIp (udpDatagram srcPort dstPort buf len) (Udp4.Header + len))).bytes
        (Udp4.Header + len) = udp srcIp dstIp srcPort dstPort (buf.bytes len) := by
  have hmax : MaxDatagram = 2048 := rfl
  have hhdr : Udp4.Header = 8 := rfl
  have hpseudo : udpPseudo srcIp dstIp (Udp4.Header + len) =
      (PseudoHeader.udp srcIp dstIp (BitVec.ofNat 16 (8 + len))).initial := by
    rw [PseudoHeader.initial, BitVec.toNat_ofNat, Nat.mod_eq_of_lt (by omega), hhdr]
  have hsum : checksum16 (udpDatagram srcPort dstPort buf len) (Udp4.Header + len)
      (udpPseudo srcIp dstIp (Udp4.Header + len)) =
      onesComplementSum (inetAton srcIp ++ inetAton dstIp ++ [0, 17] ++ pack16 (BitVec.ofNat 16 (8 + len)) ++
        (pack16 srcPort ++ pack16 dstPort ++ pack16 (BitVec.ofNat 16 (8 + len)) ++ pack16 0 ++ buf.bytes len)) 0 := by
    rw [hpseudo, checksum16_bytes _ _ (by omega), udpDatagram_bytes_zero, onesComplementSum_eq,
      show ([0, 17] : List U8) = pack16 17 from rfl]
    simp only [List.append_assoc, words_inetAton, words_pack16]
    rfl
  rw [udpDatagram_bytes, udpChecksum, hsum, udp, Mem.bytes_length]
  rfl

theorem ipHeader_bytes (srcIp dstIp : U32) (proto : U8) (id : U16) (len : Nat) :
    (ipHeader srcIp dstIp proto id 0 false len).bytes Ip4.MinHeader =
      [0x45, 0] ++ pack16 (BitVec.ofNat 16 (20 + len)) ++ pack16 id ++ pack16 0 ++ [64, proto] ++ pack16 0 ++
        inetAton srcIp ++ inetAton dstIp := rfl

/-- The checksum takes the place of the two bytes that were zero. -/
theorem wr16_bytes (p : Mem) (csum : U16) :
    (wr16 p Ip4.Csum csum).bytes Ip4.MinHeader =
      (p.bytes Ip4.MinHeader).take 10 ++ pack16 csum ++ (p.bytes Ip4.MinHeader).drop 12 := rfl

theorem emitIpFragment_bytes {s : VNet} (hemit : s.emitSet = true) (dstMac : U64) (dstIp : U32) (proto : U8) (id : U16)
    (payload : Mem) {len : Nat} (hlen : Ip4.MinHeader + len ≤ MaxFrame) :
    (s.emitIpFragment dstMac dstIp proto id 0 false payload len).2 =
      [⟨dstMac, EtherType_IPv4, ipv4 s.ip dstIp proto (payload.bytes len) id⟩] := by
  have hmin : Ip4.MinHeader = 20 := rfl
  have hcsum : checksum16 (ipHeader s.ip dstIp proto id 0 false len) Ip4.MinHeader 0 =
      onesComplementSum ((ipHeader s.ip dstIp proto id 0 false len).bytes Ip4.MinHeader) 0 := by
    rw [onesComplementSum_eq]
    exact checksum16_bytes .absent _ (by omega)
  have hhead (pkt : Mem) : (memcpy pkt Ip4.MinHeader payload len).bytes Ip4.MinHeader = pkt.bytes Ip4.MinHeader :=
    Mem.bytes_congr fun i hi => memcpy_outside _ _ _ _ _ (.inl hi)
  have hbody (pkt : Mem) : ((memcpy pkt Ip4.MinHeader payload len).advance Ip4.MinHeader).bytes len = payload.bytes len :=
    Mem.bytes_congr fun i hi => memcpy_inside _ _ _ _ _ hi
  rw [emitIpFragment, if_neg (by simp [hemit]), if_neg (by omega)]
  simp only [bytes_add, hhead, hbody, wr16_bytes, hcsum]
  rw [ipHeader_bytes, ipv4, Mem.bytes_length]

/-! ### They agree -/

/-- The port a send leaves in the socket is the one the datagram was built with. -/
theorem udpSendTo_port {s : VNet} {vfd : Int} (dstIp : U32) (dstPort : U16) (buf : Mem) {len : Nat}
    (hconf : s.configured = true) (hopen : s.isOpen vfd = true) (hlen : len ≤ MaxDatagram) :
    (s.udpSendTo vfd dstIp dstPort buf len).1.udpLocalPort vfd =
        ((s.implicitBind vfd).1.socks vfd.toNat).localPort ∧
      (s.udpSendTo vfd dstIp dstPort buf len).2.1 =
        ((s.implicitBind vfd).1.sendIpv4 dstIp IpProto_UDP
          (wr16 (udpDatagram ((s.implicitBind vfd).1.socks vfd.toNat).localPort dstPort buf len) Udp4.Csum
            (udpChecksum (s.implicitBind vfd).1.ip dstIp
              (udpDatagram ((s.implicitBind vfd).1.socks vfd.toNat).localPort dstPort buf len) (Udp4.Header + len)))
          (Udp4.Header + len)).2 := by
  have hbound := implicitBind_bound hopen
  have hused : ((s.implicitBind vfd).1.socks vfd.toNat).used = (s.socks vfd.toNat).used :=
    (implicitBind_samePool s vfd).used _
  rw [udpSendTo, if_neg (by simp [hopen]), if_neg (by simp [hconf]), if_neg (by omega)]
  dsimp only
  rw [if_neg (by simp [hbound])]
  generalize (s.implicitBind vfd).1 = t at hused ⊢
  refine ⟨?_, rfl⟩
  have hsends := sendIpv4_sends t dstIp IpProto_UDP (wr16 (udpDatagram (t.socks vfd.toNat).localPort dstPort buf len)
    Udp4.Csum (udpChecksum t.ip dstIp (udpDatagram (t.socks vfd.toNat).localPort dstPort buf len)
      (Udp4.Header + len))) (Udp4.Header + len)
  rw [isOpen, ← hused] at hopen
  rw [udpLocalPort, if_pos]
  · show (VNet.socks _ _).localPort = _
    rw [VNet.count, hsends.eq]
  · rw [isOpen, VNet.count, hsends.eq]
    exact hopen

/-- **Every datagram goes out as the reference builds it.** Whatever the MTU, what the
frames of a send carry is the reference's datagram, from the port the socket then has; and
where one frame is enough, that frame is the reference's packet, header and all. -/
theorem udp_agrees (s : VNet) (vfd : Int) (dstIp : U32) (dstPort : U16) (buf : Mem) (len : Nat)
    (hemit : s.emitSet = true) (hconf : s.configured = true) (hopen : s.isOpen vfd = true)
    (hmac : s.lookupMac dstIp ≠ 0) (hmtu : 576 ≤ s.mtu.toNat) (hmtu' : s.mtu.toNat ≤ MaxFrame - 14)
    (hlen : len ≤ MaxDatagram) :
    let sent := s.udpSendTo vfd dstIp dstPort buf len
    let datagram := udp s.ip dstIp (sent.1.udpLocalPort vfd) dstPort (buf.bytes len)
    (∃ d : Sent, d.key = ⟨s.ip, dstIp, s.ipId, IpProto_UDP⟩ ∧ d.bytes = datagram ∧
      List.Forall₂ (Carries (s.lookupMac dstIp)) d.fragments sent.2.1) ∧
    (Ip4.MinHeader + Udp4.Header + len ≤ s.mtu.toNat →
      sent.2.1 = [⟨s.lookupMac dstIp, EtherType_IPv4, ipv4 s.ip dstIp IpProto_UDP datagram s.ipId⟩]) := by
  intro sent datagram
  obtain ⟨-, d, hkey, hbytes, hcarry⟩ := udpSendTo_frames dstIp dstPort buf hemit hconf hopen hmac hmtu hmtu' hlen
  rw [udp_bytes _ _ _ _ _ hlen] at hbytes
  refine ⟨⟨d, hkey, hbytes, hcarry⟩, fun hsingle => ?_⟩
  obtain ⟨hport, hframes⟩ := udpSendTo_port dstIp dstPort buf hconf hopen hlen
  obtain ⟨socks, n, hbind⟩ := implicitBind_frame s vfd
  have hmaxf : MaxFrame = 1520 := rfl
  have hmin : Ip4.MinHeader = 20 := rfl
  have hhdr : Udp4.Header = 8 := rfl
  show sent.2.1 = [⟨s.lookupMac dstIp, EtherType_IPv4,
    ipv4 s.ip dstIp IpProto_UDP (udp s.ip dstIp (sent.1.udpLocalPort vfd) dstPort (buf.bytes len)) s.ipId⟩]
  rw [hframes, hport, ← udp_bytes _ _ _ _ _ hlen]
  generalize (s.implicitBind vfd).1 = t at hbind ⊢
  have hip : t.ip = s.ip := by rw [hbind]
  have hid : t.ipId = s.ipId := by rw [hbind]
  have hfits : Udp4.Header + len ≤ t.mtu.toNat - Ip4.MinHeader := by
    rw [hbind]
    show Udp4.Header + len ≤ s.mtu.toNat - Ip4.MinHeader
    omega
  have hlookup : t.lookupMac dstIp = s.lookupMac dstIp := by
    rw [hbind]
    rfl
  have hset : t.emitSet = true := by
    rw [hbind]
    exact hemit
  rw [sendIpv4, hlookup, if_neg hmac, if_pos hfits]
  rw [emitIpFragment_bytes (s := { t with ipId := t.ipId + 1 }) hset _ _ _ _ _ (by omega), ← hip, ← hid]

/-- The interface of the tests, with the socket of their broadcast. -/
def announcer : VNet :=
  (fresh.reset.execAll
    [.setEmit, .configure 0x02ABCD001122 0x0A931432 0xFFFFFF00 1500, .udpOpen, .udpBind 0 0 11451]).1

/-- `udp broadcast (all)`, and the bytes `test_udp_send_broadcast` expects. -/
theorem udp_agrees_scan :
    (announcer.udpSendTo 0 0x0A9314FF 11451 (Mem.ofBytes [0x53, 0x43, 0x41, 0x4e]) 4).2.1 =
      [⟨MacBroadcast, EtherType_IPv4,
        [0x45, 0x00, 0x00, 0x20, 0x00, 0x01, 0x00, 0x00, 0x40, 0x11, 0x3c, 0x76, 0x0a, 0x93, 0x14, 0x32,
          0x0a, 0x93, 0x14, 0xff, 0x2c, 0xbb, 0x2c, 0xbb, 0x00, 0x0c, 0xd3, 0x77, 0x53, 0x43, 0x41, 0x4e]⟩] := by
  obtain ⟨-, h⟩ := udp_agrees announcer 0 0x0A9314FF 11451 (Mem.ofBytes [0x53, 0x43, 0x41, 0x4e]) 4 (by decide)
    (by decide) (by decide) (by decide) (by decide) (by decide) (by decide)
  rw [h (by decide)]
  decide +kernel

/-- A question for the interface's MAC. -/
structure Asked (s : VNet) (p : Mem) (len : Nat) : Prop where
  emitSet : s.emitSet = true
  whole : Arp4.Size ≤ len
  fields : ArpFields p Arp4.OpRequest (macFromBytes (p.advance Arp4.SenderMac)) (rd32 p Arp4.SenderIp) s.ip

theorem onArp_asked {s : VNet} {p : Mem} {len : Nat} (h : Asked s p len) (srcMac : U64) :
    (s.onArp srcMac p len).2 =
      [s.arpReply (macFromBytes (p.advance Arp4.SenderMac)) (rd32 p Arp4.SenderIp)] := by
  have hlearn := (learnMac_hears (s.count fun t => { t with rxArp := t.rxArp + 1 }) (rd32 p Arp4.SenderIp)
    (if macFromBytes (p.advance Arp4.SenderMac) ≠ 0 then macFromBytes (p.advance Arp4.SenderMac) else srcMac)).eq
  obtain ⟨hemit, hwhole, hfields⟩ := h
  rw [onArp, if_neg (by omega), if_neg (by simp [hfields.hwType, hfields.protoType]),
    if_neg (by simp [hfields.hwLen, hfields.protoLen])]
  dsimp only
  generalize (s.count fun t => { t with rxArp := t.rxArp + 1 }).learnMac (rd32 p Arp4.SenderIp)
    (if macFromBytes (p.advance Arp4.SenderMac) ≠ 0 then macFromBytes (p.advance Arp4.SenderMac) else srcMac) = t
    at hlearn ⊢
  have hours : ¬(rd16 p Arp4.Op ≠ Arp4.OpRequest ∨ rd32 p Arp4.TargetIp ≠ t.ip) := by
    rw [hfields.op, hfields.targetIp, hlearn]
    exact fun h => h.elim (absurd rfl) (absurd rfl)
  have hset : ¬(!t.emitSet) = true := by
    rw [hlearn]
    show ¬(!s.emitSet) = true
    rw [hemit]
    decide
  rw [if_neg hours, if_neg hset, hlearn]
  rfl

theorem onArp_other {s : VNet} {p : Mem} {len : Nat} (h : ¬Asked s p len) (srcMac : U64) :
    (s.onArp srcMac p len).2 = [] := by
  have hlearn := (learnMac_hears (s.count fun t => { t with rxArp := t.rxArp + 1 }) (rd32 p Arp4.SenderIp)
    (if macFromBytes (p.advance Arp4.SenderMac) ≠ 0 then macFromBytes (p.advance Arp4.SenderMac) else srcMac)).eq
  rw [onArp]
  dsimp only
  generalize (s.count fun t => { t with rxArp := t.rxArp + 1 }).learnMac (rd32 p Arp4.SenderIp)
    (if macFromBytes (p.advance Arp4.SenderMac) ≠ 0 then macFromBytes (p.advance Arp4.SenderMac) else srcMac) = t
    at hlearn ⊢
  split
  · rfl
  · rename_i hwhole
    split
    · rfl
    · rename_i htypes
      split
      · rfl
      · rename_i hlens
        split
        · rfl
        · rename_i hours
          split
          · rfl
          · rename_i hset
            rw [hlearn] at hours hset
            rw [not_or, not_ne_iff, not_ne_iff] at htypes hlens hours
            have hemit : ¬(!s.emitSet) = true := hset
            exact absurd ⟨by simpa using hemit, not_lt.mp hwhole,
              ⟨htypes.1, htypes.2, hlens.1, hlens.2, hours.1, rfl, rfl, hours.2⟩⟩ h

/-- **Every ARP request is answered as the reference answers it**, and nothing else of
ARP is answered. -/
theorem arp_agrees (s : VNet) (srcMac dstMac : U64) (payload : List U8) :
    let asked := Mem.ofBytes payload
    let peer := macFromBytes (asked.advance Arp4.SenderMac)
    let answer := (s.onFrame srcMac dstMac EtherType_ARP payload).2
    (s.configured = true ∧ (dstMac = s.mac ∨ dstMac = MacBroadcast) ∧ Asked s asked payload.length →
      answer = [⟨peer, EtherType_ARP, arpReply s.mac s.ip peer (rd32 asked Arp4.SenderIp)⟩]) ∧
    (¬(s.configured = true ∧ (dstMac = s.mac ∨ dstMac = MacBroadcast) ∧ Asked s asked payload.length) →
      answer = []) := by
  intro asked peer answer
  show (_ → (s.onFrame srcMac dstMac EtherType_ARP payload).2 = _) ∧
    (_ → (s.onFrame srcMac dstMac EtherType_ARP payload).2 = [])
  rw [onFrame]
  constructor
  · intro ⟨hconf, hours, hasked⟩
    have hsome : payload.isEmpty = false := by
      cases payload with
      | nil => exact absurd hasked.whole (by decide)
      | cons => rfl
    have hready : ¬((!s.configured || payload.isEmpty) = true) := by simp [hconf, hsome]
    have hforus : ¬(dstMac ≠ s.mac ∧ dstMac ≠ MacBroadcast) := fun h => hours.elim h.1 h.2
    rw [if_neg (show ¬((!(s.count _).configured || payload.isEmpty) = true) from hready),
      if_neg (show ¬(dstMac ≠ (s.count _).mac ∧ dstMac ≠ MacBroadcast) from hforus), if_pos rfl]
    exact onArp_asked (s := s.count _) ⟨hasked.emitSet, hasked.whole, hasked.fields⟩ srcMac
  · intro hnot
    split
    · rfl
    · rename_i hready
      split
      · rfl
      · rename_i hours
        rw [if_pos rfl]
        refine onArp_other (fun hasked => hnot ?_) srcMac
        have hconf : ¬((!s.configured || payload.isEmpty) = true) := hready
        have hforus : ¬(dstMac ≠ s.mac ∧ dstMac ≠ MacBroadcast) := hours
        rw [not_and_or, not_ne_iff, not_ne_iff] at hforus
        rw [Bool.or_eq_true, not_or] at hconf
        exact ⟨by simpa using hconf.1, hforus, hasked.emitSet, hasked.whole, hasked.fields⟩

end SysZerotier.Net.Reference
