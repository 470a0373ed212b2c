import SysZerotier.Net.Emit
import SysZerotier.Net.Completeness

/-! A datagram from one interface to another.

The frames of a send are the fragments of one datagram. Fed in any order to a host
that takes its destination, they leave the pool alone until the last one missing
completes it (`receive_all`); its checksum verifies, and every listener with a place
in the pool gets exactly the bytes sent (`roundtrip`). -/
namespace SysZerotier.Net.VNet
open Library

/-- The frames arriving from one neighbour. -/
def arrivals (srcMac : U64) (frames : List Frame) : List Op :=
  frames.map fun frame => .onFrame srcMac frame.dstMac frame.etherType frame.payload

/-! ### Receiving -/

theorem onFrame_carries {s : VNet} {mac : U64} {f : Fragment} {frame : Frame} (hc : Carries mac f frame)
    (hconf : s.configured = true) (hfor : s.isForUs f.key.dstIp = true)
    (hmac : mac = s.mac ∨ mac = MacBroadcast) (srcMac : U64) :
    ∃ (t : VNet) (payload : Mem), Hears s t ∧ t.reasm = s.reasm ∧
      payload.bytes f.bytes.length = f.bytes ∧ f.off < 65536 ∧
      (s.onFrame srcMac frame.dstMac frame.etherType frame.payload).1 =
        match t.accept f payload with
        | (t, none) => t
        | (t, some k) => (t.deliverIpv4 k).1 := by
  have htakes : s.takesIpv4 frame.dstMac frame.etherType frame.payload = true := by
    have hne := hc.nonempty
    simp only [takesIpv4, hconf, hc.dstMac, hc.etherType, Bool.and_eq_true, Bool.or_eq_true, beq_iff_eq,
      Bool.not_eq_true', List.isEmpty_eq_false_iff, true_and, and_true]
    exact ⟨hne, hmac⟩
  obtain ⟨t, payload, hears, hreasm, hbytes, hoff, heq⟩ := ipv4Input_some
    (hc.read (s.count fun t => { t with rxFrames := t.rxFrames + 1 }) hfor) srcMac
  refine ⟨t, payload, (hears_count s _ rfl).trans hears, hreasm, hbytes, hoff, ?_⟩
  rw [onFrame_ipv4 htakes, onIpv4, heq]
  obtain ⟨u, _ | k⟩ := t.accept f payload <;> rfl

/-- All remaining fragments of a datagram, in any order, complete it with the last. -/
theorem receive_all {r : VNet} {d : Sent} {mac : U64} (hconf : r.configured = true)
    (hfor : r.isForUs d.key.dstIp = true) (hmac : mac = r.mac ∨ mac = MacBroadcast)
    (hmax : d.bytes.length ≤ ReasmMax) (srcMac : U64) (rest : List Span) {frames : List Frame} {s : VNet}
    {got : Finset Span} (hears : Hears r s) (htrack : Tracks s d got)
    (hcarry : List.Forall₂ (fun a frame => Carries mac (d.fragment a) frame) rest frames)
    (hnodup : rest.Nodup) (hrest : ∀ a ∈ rest, a ∈ d.spans ∧ a ∉ got)
    (hall : got ∪ rest.toFinset = d.spans.toFinset) (hne : rest ≠ []) :
    ∃ t k, Hears r t ∧ Delivers k d ∧ (s.execAll (arrivals srcMac frames)).1 = (t.deliverIpv4 k).1 := by
  induction rest generalizing frames s got with
  | nil => exact absurd rfl hne
  | cons a rest ih =>
    cases hcarry with
    | cons hc hcarry =>
      rename_i frame frames
      obtain ⟨ha, hnot⟩ := hrest a (List.mem_cons_self ..)
      have hconf' : s.configured = true := by rw [hears.eq]; exact hconf
      have hfor' : s.isForUs (d.fragment a).key.dstIp = true := by rw [hears.eq]; exact hfor
      have hmac' : mac = s.mac ∨ mac = MacBroadcast := by rw [hears.eq]; exact hmac
      obtain ⟨t, payload, ht, hreasm, hbytes, hoff, hstep⟩ := onFrame_carries hc hconf' hfor' hmac' srcMac
      have hgot : ∀ b ∈ got, b ∈ d.spans := fun b hb => by
        have := Finset.mem_union_left rest.toFinset hb
        rw [← List.mem_toFinset, ← hall]
        exact Finset.mem_union_left _ hb
      have hwhole : (d.fragment a).whole = true → got = ∅ := by
        intro hw
        by_contra hne
        obtain ⟨b, hb⟩ := Finset.nonempty_iff_ne_empty.mpr hne
        rw [Sent.eq_of_whole ha hw (hgot b hb)] at hb
        exact hnot hb
      obtain ⟨hown, hout⟩ := (htrack.congr hreasm).own ha hnot hmax hoff hwhole hbytes
      have haccept := accept_hears t (d.fragment a) payload
      have hunion : insert a got ∪ rest.toFinset = d.spans.toFinset := by
        rw [← hall, List.toFinset_cons, Finset.insert_union, Finset.union_insert]
      show ∃ t k, Hears r t ∧ Delivers k d ∧
        ((s.onFrame srcMac frame.dstMac frame.etherType frame.payload).1.execAll (arrivals srcMac frames)).1 =
          (t.deliverIpv4 k).1
      rw [hstep]
      generalize t.accept (d.fragment a) payload = out at hown hout haccept ⊢
      obtain ⟨u, pkt⟩ := out
      have hears' : Hears r u := (hears.trans ht).trans haccept
      cases rest with
      | nil =>
        cases hcarry
        rw [List.toFinset_nil, Finset.union_empty] at hunion
        rw [if_pos hunion] at hout
        obtain ⟨k, rfl, hk⟩ := hout
        exact ⟨u, k, hears', hk, rfl⟩
      | cons b rest =>
        have hb : b ∉ insert a got := by
          rw [Finset.mem_insert, not_or]
          refine ⟨?_, (hrest b (by simp)).2⟩
          rintro rfl
          exact (List.nodup_cons.mp hnodup).1 (List.mem_cons_self ..)
        have hpart : insert a got ≠ d.spans.toFinset := by
          intro he
          rw [he] at hb
          exact hb (List.mem_toFinset.mpr (hrest b (by simp)).1)
        rw [if_neg hpart] at hout
        obtain rfl := hout
        rw [held, if_neg hpart] at hown
        refine ih hears' hown hcarry (List.nodup_cons.mp hnodup).2 (fun c hcr => ?_) hunion (by simp)
        obtain ⟨hcs, hcn⟩ := hrest c (List.mem_cons_of_mem a hcr)
        refine ⟨hcs, fun hm => ?_⟩
        rcases Finset.mem_insert.mp hm with rfl | hm
        · exact (List.nodup_cons.mp hnodup).1 hcr
        · exact hcn hm

/-- A packet that holds the bytes of a UDP datagram with its checksum stored passes
the checks of `onUdp`. -/
theorem arrival_of_bytes {k : Packet} {srcPort dstPort : U16} {buf : Mem} {len : Nat}
    (hlen : Udp4.Header + len < 65536) (hproto : k.proto = IpProto_UDP)
    (hbytes : k.bytes = (wr16 (udpDatagram srcPort dstPort buf len) Udp4.Csum
      (udpChecksum k.srcIp k.dstIp (udpDatagram srcPort dstPort buf len) (Udp4.Header + len))).bytes
        (Udp4.Header + len)) :
    ∃ a : Arrival, k.arrival = some a ∧ a.dstIp = k.dstIp ∧ a.dstPort = dstPort ∧
      a.datagram = ⟨buf.bytes len, k.srcIp, srcPort⟩ := by
  have hhdr : Udp4.Header = 8 := rfl
  obtain ⟨hsrc, hdst, hl, -, hdata⟩ := udpDatagram_fields srcPort dstPort buf len
  obtain ⟨hne, hverify⟩ := udpChecksum_verifies k.srcIp k.dstIp srcPort dstPort buf hlen
  generalize udpChecksum k.srcIp k.dstIp (udpDatagram srcPort dstPort buf len) (Udp4.Header + len) = csum
    at hbytes hne hverify
  generalize udpDatagram srcPort dstPort buf len = p at hbytes hsrc hdst hl hdata hverify
  have hklen : k.len = Udp4.Header + len := by
    have := congrArg List.length hbytes
    simpa [Packet.bytes] using this
  have hread : ∀ i, i < Udp4.Header + len → k.payload i = wr16 p Udp4.Csum csum i := by
    unfold Packet.bytes at hbytes
    rw [hklen] at hbytes
    exact Mem.bytes_inj hbytes
  have h16 : ∀ i, i + 1 < Udp4.Csum → rd16 k.payload i = rd16 p i := by
    intro i hi
    have hc : Udp4.Csum = 6 := rfl
    rw [rd16_congr (hread i (by omega)) (hread (i + 1) (by omega)), rd16_wr16_other _ _ (.inl hi)]
  have hcsum : rd16 k.payload Udp4.Csum = csum := by
    rw [rd16_congr (hread _ (by rw [hhdr, Udp4.Csum]; omega)) (hread _ (by rw [hhdr, Udp4.Csum]; omega)),
      rd16_wr16]
  have hlength : udpLength k.payload k.len = Udp4.Header + len := by
    have : (rd16 k.payload Udp4.Length).toNat = Udp4.Header + len := by
      rw [h16 _ (by decide), hl, BitVec.toNat_ofNat]
      exact Nat.mod_eq_of_lt hlen
    unfold udpLength
    rw [this, if_neg (by omega)]
  have hsum : checksum16 k.payload (Udp4.Header + len) (udpPseudo k.srcIp k.dstIp (Udp4.Header + len)) = 0 := by
    rw [checksum16_congr _ (by omega) (udpPseudo_lt _ _ _ hlen) hread]
    exact hverify
  unfold Packet.arrival
  dsimp only
  rw [hlength, hsum, hcsum, hproto, hklen, if_neg (by simp), if_neg (by simp), Nat.add_sub_cancel_left,
    h16 _ (by decide), h16 _ (by decide), hsrc, hdst]
  refine ⟨_, rfl, rfl, rfl, ?_⟩
  have hpay : (k.payload.advance Udp4.Header).bytes len = buf.bytes len := by
    rw [← hdata]
    refine Mem.bytes_congr fun i hi => ?_
    have hc : Udp4.Csum = 6 := rfl
    rw [Mem.advance_apply, Mem.advance_apply, hread _ (by omega), wr16_other _ _ (by omega) (by omega)]
  simp only [Arrival.datagram, hpay]

/-! ### Sending -/

/-- The frames of a send are the fragments of the UDP datagram, named by the next IP
id and sent from the socket's port. -/
theorem udpSendTo_frames {s : VNet} {vfd : Int} (dstIp : U32) (dstPort : U16) (buf : Mem) {len : Nat}
    (hemit : s.emitSet = true) (hconf : s.configured = true) (hopen : s.isOpen vfd = true)
    (hmac : s.lookupMac dstIp ≠ 0) (hmtu : 576 ≤ s.mtu.toNat) (hmtu' : s.mtu.toNat ≤ MaxFrame - 14)
    (hlen : len ≤ MaxDatagram) :
    (s.udpSendTo vfd dstIp dstPort buf len).2.2 = len ∧
      ∃ d : Sent, d.key = ⟨s.ip, dstIp, s.ipId, IpProto_UDP⟩ ∧
        d.bytes = (wr16 (udpDatagram ((s.udpSendTo vfd dstIp dstPort buf len).1.udpLocalPort vfd) dstPort buf
          len) Udp4.Csum (udpChecksum s.ip dstIp (udpDatagram
            ((s.udpSendTo vfd dstIp dstPort buf len).1.udpLocalPort vfd) dstPort buf len)
            (Udp4.Header + len))).bytes (Udp4.Header + len) ∧
        List.Forall₂ (Carries (s.lookupMac dstIp)) d.fragments (s.udpSendTo vfd dstIp dstPort buf len).2.1 := by
  have hmax : MaxDatagram = 2048 := rfl
  have hhdr : Udp4.Header = 8 := rfl
  have hbound := implicitBind_bound hopen
  obtain ⟨socks, n, hframe⟩ := implicitBind_frame s vfd
  have hused : ∀ i, ((s.implicitBind vfd).1.socks i).used = (s.socks i).used :=
    (implicitBind_samePool s vfd).used
  have heq : s.udpSendTo vfd dstIp dstPort buf len =
      let t := (s.implicitBind vfd).1
      let p := udpDatagram (t.socks vfd.toNat).localPort dstPort buf len
      let sent := t.sendIpv4 dstIp IpProto_UDP
        (wr16 p Udp4.Csum (udpChecksum t.ip dstIp p (Udp4.Header + len))) (Udp4.Header + len)
      (sent.1.count fun t => { t with txUdp := t.txUdp + 1 }, sent.2, (len : Int)) := by
    unfold udpSendTo
    dsimp only
    rw [if_neg (by simp [hopen]), if_neg (by simp [hconf]), if_neg (by omega), if_neg (by simp [hbound])]
  generalize s.implicitBind vfd = bound at hframe hused heq
  obtain ⟨t, ret⟩ := bound
  dsimp only at hframe hused heq
  generalize hp : wr16 (udpDatagram (t.socks vfd.toNat).localPort dstPort buf len) Udp4.Csum
    (udpChecksum t.ip dstIp (udpDatagram (t.socks vfd.toNat).localPort dstPort buf len)
      (Udp4.Header + len)) = p at heq
  have hsends := sendIpv4_sends t dstIp IpProto_UDP p (Udp4.Header + len)
  have hport : (s.udpSendTo vfd dstIp dstPort buf len).1.udpLocalPort vfd =
      (t.socks vfd.toNat).localPort := by
    have hsocks : (s.udpSendTo vfd dstIp dstPort buf len).1.socks = t.socks := by
      rw [heq]
      show (t.sendIpv4 dstIp IpProto_UDP p (Udp4.Header + len)).1.socks = t.socks
      rw [hsends.eq]
    have hstill : (s.udpSendTo vfd dstIp dstPort buf len).1.isOpen vfd = true := by
      unfold isOpen at hopen ⊢
      rw [hsocks, hused]
      exact hopen
    rw [udpLocalPort, if_pos hstill, hsocks]
  rw [hport]
  refine ⟨by rw [heq], ?_⟩
  have hip : t.ip = s.ip := by rw [hframe]
  have hid : t.ipId = s.ipId := by rw [hframe]
  have hlookup : t.lookupMac dstIp = s.lookupMac dstIp := by rw [hframe]; rfl
  obtain ⟨d, hkey, hbytes, hcarry⟩ := sendIpv4_frames t dstIp IpProto_UDP p (Udp4.Header + len)
    (by rw [hframe]; exact hemit) (by rw [hlookup]; exact hmac) (by rw [hframe]; exact hmtu)
    (by rw [hframe]; exact hmtu') (by omega) (by omega)
  rw [hip] at hkey hp
  rw [hid] at hkey
  rw [hlookup] at hcarry
  refine ⟨d, hkey, by rw [hbytes, ← hp], ?_⟩
  rw [heq]
  exact hcarry

/-! ### The round trip -/

/-- Reading a queue's head leaves its tail. -/
theorem Models.drain {s : VNet} {b : Queues} (h : Models s b) (k : Fin MaxSockets) (max : Nat)
    {old rest : List Datagram} (hq : b.queue k = some (old ++ rest)) :
    ∃ b', Models (s.execAll (List.replicate old.length (.udpRecvFrom k max false))).1 b' ∧
      b'.queue k = some rest := by
  induction old generalizing s b with
  | nil => exact ⟨b, h, hq⟩
  | cons d old ih =>
    have hk := socketOf_val k
    have hfront : b.front k = some d := by rw [Bank.front, hq]; rfl
    have hstep := h.recv (k : Nat) max false
    dsimp only [Queues.step] at hstep
    rw [hk, Option.elim_some, Queues.recv, hfront] at hstep
    refine ih hstep ?_
    simp only [Bool.false_eq_true, if_false, Bank.drop, Bank.shrink, Function.update_self, hq,
      Option.map_some, List.cons_append, List.tail_cons]

/-- How many sockets in front of `k` take datagrams for the address and port. -/
def listenersBefore (r : VNet) (k : Fin MaxSockets) (dstIp : U32) (dstPort : U16) : Nat :=
  (((List.finRange MaxSockets).filter fun m : Fin MaxSockets => r.listens m dstIp dstPort).filter
    fun m => decide (m < k)).length

theorem listeners_split {r : VNet} {a : Arrival} {k : Fin MaxSockets} (hk : k ∈ r.listeners a) :
    ∃ pre post, r.listeners a = pre ++ k :: post ∧ pre.length = r.listenersBefore k a.dstIp a.dstPort := by
  obtain ⟨pre, post, heq⟩ := List.append_of_mem hk
  have hsorted : (r.listeners a).Pairwise (· < ·) := (List.pairwise_lt_finRange _).filter _
  refine ⟨pre, post, heq, ?_⟩
  show pre.length = ((r.listeners a).filter fun m => decide (m < k)).length
  rw [heq] at hsorted ⊢
  obtain ⟨-, hpost, hpre⟩ := List.pairwise_append.mp hsorted
  have h1 : pre.filter (fun m => decide (m < k)) = pre :=
    List.filter_eq_self.mpr fun m hm => decide_eq_true (hpre m hm k (List.mem_cons_self ..))
  have h2 : (k :: post).filter (fun m => decide (m < k)) = [] := by
    refine List.filter_eq_nil_iff.mpr fun m hm => ?_
    rcases List.mem_cons.mp hm with rfl | hm
    · simp
    · have := (List.pairwise_cons.mp hpost).1 m hm
      simpa using this.le
  rw [List.filter_append, h1, h2, List.append_nil]

/-- **Round trip.** Let a configured interface send up to 2048 bytes, and feed the
frames it emits to another one in any order. If the receiver takes the destination
address, the frames reach its MAC and it has no reassembly in progress for that
datagram, then every socket bound to the port on ANY that finds a free buffer queues
exactly one datagram more, and reads from it the original bytes, the sender's
address and the sender's port. -/
theorem roundtrip (s r₀ : VNet) (hist : List Op) (vfd : Int) (dstIp : U32) (dstPort : U16)
    (bytes : List U8) (srcMac : U64) (r : VNet) (frames : List Frame)
    (hemit : s.emitSet = true) (hconf : s.configured = true) (hopen : s.isOpen vfd = true)
    (hmtu : 576 ≤ s.mtu.toNat) (hmtu' : s.mtu.toNat ≤ MaxFrame - 14) (hlen : bytes.length ≤ MaxDatagram)
    (hr : r = (r₀.reset.execAll hist).1) (hrconf : r.configured = true) (hfor : r.isForUs dstIp = true)
    (hmac : s.isBroadcast dstIp = true ∨ s.lookupMac dstIp = r.mac ∧ r.mac ≠ 0)
    (hidle : ¬r.hasSlot ⟨s.ip, dstIp, s.ipId, IpProto_UDP⟩)
    (hframes : frames.Perm (s.udpSendTo vfd dstIp dstPort (Mem.ofBytes bytes) bytes.length).2.1) :
    let sent := s.udpSendTo vfd dstIp dstPort (Mem.ofBytes bytes) bytes.length
    let b := (Queues.run .empty (r₀.reset.queueOps hist)).1
    let u := (r.execAll (arrivals srcMac frames)).1
    sent.2.2 = bytes.length ∧
      ∃ b', Models u b' ∧ ∀ k : Fin MaxSockets, (r.socks k).used = true → (r.socks k).localPort = dstPort →
        (r.socks k).localIp = 0 →
        b.held + r.listenersBefore k dstIp dstPort < PoolPackets →
        ∃ old, b.queue k = some old ∧
          b'.queue k = some (old ++ [⟨bytes, s.ip, sent.1.udpLocalPort vfd⟩]) ∧
          ∀ m max peek, bytes.length ≤ max →
            ((u.execAll (List.replicate old.length (.udpRecvFrom k m false))).1.udpRecvFrom k max peek).2 =
              some ⟨bytes, s.ip, sent.1.udpLocalPort vfd⟩ := by
  have hmaxd : MaxDatagram = 2048 := rfl
  have hhdr : Udp4.Header = 8 := rfl
  have hmaxr : ReasmMax = 2176 := rfl
  have hlookup : s.lookupMac dstIp ≠ 0 ∧ (s.lookupMac dstIp = r.mac ∨ s.lookupMac dstIp = MacBroadcast) := by
    rcases hmac with hb | ⟨hm, hne⟩
    · rw [lookupMac, if_pos hb]
      exact ⟨by decide, .inr rfl⟩
    · rw [hm]
      exact ⟨hne, .inl rfl⟩
  obtain ⟨hret, d, hkey, hbytes, hcarry⟩ := udpSendTo_frames dstIp dstPort (Mem.ofBytes bytes) hemit hconf
    hopen hlookup.1 hmtu hmtu' hlen
  generalize s.udpSendTo vfd dstIp dstPort (Mem.ofBytes bytes) bytes.length = sent at *
  intro _ b u
  refine ⟨hret, ?_⟩
  have hmodels : Models r b := by
    rw [hr]
    exact (execAll_models hist (reset_models r₀)).1
  -- the frames in the order they arrive, and the pieces they carry
  obtain ⟨spans', hspans', hperm⟩ : ∃ l : List Span,
      List.Forall₂ (fun a frame => Carries (s.lookupMac dstIp) (d.fragment a) frame) l frames ∧
        l.Perm d.spans := by
    rw [Sent.fragments, List.forall₂_map_left_iff] at hcarry
    obtain ⟨l, hl, hp⟩ := List.perm_comp_forall₂ hframes hcarry.flip
    exact ⟨l, hl.flip, hp⟩
  have hne : spans' ≠ [] := by
    rintro rfl
    exact Sent.spans_nonempty d (by rw [hperm.nil_eq.symm]; rfl)
  obtain ⟨t, k, hears, hdel, hu⟩ := receive_all hrconf (by rw [hkey]; exact hfor) hlookup.2
    (by rw [hbytes, Mem.bytes_length]; omega) srcMac spans' (Hears.refl r)
    (.inl ⟨rfl, by rw [hkey]; exact hidle⟩) hspans' (hperm.nodup_iff.mpr (Cut.nodup d.pos))
    (fun a ha => ⟨hperm.mem_iff.mp ha, Finset.notMem_empty a⟩)
    (by rw [Finset.empty_union, List.toFinset_eq_of_perm _ _ hperm]) hne
  have hksrc : k.srcIp = s.ip := by rw [hdel.srcIp, hkey]
  have hkdst : k.dstIp = dstIp := by rw [hdel.dstIp, hkey]
  have hkproto : k.proto = IpProto_UDP := by rw [hdel.proto, hkey]
  have hkbytes := hdel.bytes
  rw [hbytes, ← hksrc, ← hkdst] at hkbytes
  obtain ⟨a, ha, hadst, haport, hdata⟩ := arrival_of_bytes (by omega) hkproto hkbytes
  rw [Mem.bytes_ofBytes, hksrc] at hdata
  have hfinal := (hmodels.hears hears).deliver k
  rw [← hu, ha, Option.elim_some, hears.listeners] at hfinal
  have hfits : ((r.listeners a).map fun m => (m, a.datagram)).filter (fun item => item.2.fits) =
      (r.listeners a).map fun m => (m, a.datagram) := by
    refine List.filter_eq_self.mpr fun item hitem => ?_
    obtain ⟨m, -, rfl⟩ := List.mem_map.mp hitem
    rw [hdata]
    exact decide_eq_true hlen
  rw [hfits] at hfinal
  refine ⟨_, hfinal, fun m hused hport hany hroom => ?_⟩
  have hlisten : m ∈ r.listeners a := by
    refine List.mem_filter.mpr ⟨List.mem_finRange m, ?_⟩
    simp only [listens, hused, hport, hany, haport, BEq.rfl, Bool.and_self, Bool.or_true, Bool.true_or]
  have hopenq : ∀ j ∈ r.listeners a, (b.queue j).isSome = true := by
    intro j hj
    obtain ⟨⟨free, q, -, hq⟩, -⟩ := hmodels
    rw [hq j, if_pos (listeners_used hj)]
    rfl
  obtain ⟨old, hold⟩ := Option.isSome_iff_exists.mp (hopenq m hlisten)
  obtain ⟨pre, post, hsplit, hpre⟩ := listeners_split hlisten
  have hnodup : (pre ++ m :: post).Nodup := by
    rw [← hsplit]
    exact (List.nodup_finRange _).filter _
  have hqueue := Bank.putAll_spread b a.datagram hnodup
    (fun j hj => hopenq j (by rw [hsplit]; exact List.mem_append_left _ hj)) hold (by
      rw [hpre, hadst, hkdst, haport]
      exact hroom)
  rw [← hsplit, hdata] at hqueue
  rw [hdata]
  refine ⟨old, hold, hqueue, fun n max peek hmaxlen => ?_⟩
  rw [hdata] at hfinal
  obtain ⟨b', hb', hq'⟩ := hfinal.drain m n hqueue
  have hk : socketOf (m : Nat) = some m := socketOf_val m
  rw [udpRecvFrom_front hb', hk, Option.bind_some, Bank.front, hq']
  show some (Datagram.truncate ⟨bytes, s.ip, sent.1.udpLocalPort vfd⟩ max) = _
  rw [Datagram.truncate, List.take_of_length_le hmaxlen]

/-- 10.0.0.2 with a small MTU and a socket on port 5000. -/
def sender : VNet :=
  (fresh.reset.execAll
    [.setEmit, .configure 0x020000000002 0x0A000002 0xFFFFFF00 576, .udpOpen, .udpBind 0 0 5000]).1

/-- 10.0.0.1 with a socket on port 6000. -/
def receiverSetup : List Op :=
  [.configure 0x020000000001 0x0A000001 0xFFFFFF00 1500, .udpOpen, .udpBind 0 0 6000]

/-- A thousand bytes broadcast in two fragments, the second of which arrives first. -/
theorem roundtrip_reversed :
    (((fresh.reset.execAll receiverSetup).1.execAll (arrivals 0x020000000002
      (sender.udpSendTo 0 0x0A0000FF 6000 (Mem.ofBytes (List.replicate 1000 0x5A))
        (List.replicate 1000 (0x5A : U8)).length).2.1.reverse)).1.udpRecvFrom 0 2048 false).2 =
      some ⟨List.replicate 1000 0x5A, 0x0A000002, 5000⟩ := by
  obtain ⟨-, b', -, h⟩ := roundtrip sender fresh receiverSetup 0 0x0A0000FF 6000
    (List.replicate 1000 0x5A) 0x020000000002 _ _ (by decide) (by decide) (by decide) (by decide) (by decide)
    (by rw [List.length_replicate]; decide) rfl (by decide) (by decide) (.inl (by decide)) (by decide)
    (List.reverse_perm _)
  obtain ⟨old, hold, -, hread⟩ := h ⟨0, by decide⟩ (by decide) (by decide) (by decide) (by decide)
  obtain rfl : [] = old := Option.some.inj hold
  have hport : (sender.udpSendTo 0 0x0A0000FF 6000 (Mem.ofBytes (List.replicate 1000 0x5A))
      (List.replicate 1000 (0x5A : U8)).length).1.udpLocalPort 0 = 5000 := by
    rw [List.length_replicate]
    decide +kernel
  rw [hport] at hread
  have hshort : (List.replicate 1000 (0x5A : U8)).length ≤ 2048 := by
    rw [List.length_replicate]
    decide
  generalize List.replicate 1000 (0x5A : U8) = payload at hread hshort ⊢
  exact hread 0 2048 false hshort

end SysZerotier.Net.VNet
