import SysZerotier.Net.Slots

/-! Packets with fewer bytes than their length field says.

`onIpv4` reads such a packet as if it ended with the last byte present. `Unnoticed` is what
dropping it would look like: counters aside, the frame does no more than to teach its
sender's address. `truncated_unnoticed_iff` says when that is what happens. A fragment is
never unnoticed: it moves the clock by which the slots are given up. -/
namespace SysZerotier.Net
open Library

/-- No frame went out, and nothing has changed but the counters and what the frame teaches
of its sender. -/
structure Unnoticed (s : VNet) (srcIp : U32) (srcMac : U64) (r : VNet × List Frame) : Prop where
  state : ∃ f : Stats → Stats, r.1 = s.count f ∨ r.1 = (s.learnMac srcIp srcMac).count f
  silent : r.2 = []

/-- Nothing comes of delivering the packet. -/
def Packet.ignored (k : Packet) (s : VNet) : Prop :=
  if k.proto = IpProto_UDP then
    ∀ a, k.arrival = some a → s.listeners a = [] ∨ MaxDatagram < a.len ∨ s.freeList < 0
  else if k.proto = IpProto_ICMP then
    k.len < 8 ∨ k.payload Icmp4.MsgType ≠ Icmp4.EchoRequest ∨ checksum16 k.payload k.len 0 ≠ 0 ∨
      MaxDatagram < k.len ∨ (s.emitSet = false ∧ s.lookupMac k.srcIp = 0)
  else True

namespace VNet

/-! ### Queues only grow -/

theorem pushToSocket_grows (s : VNet) (k : Nat) (srcIp : U32) (srcPort : U16) (data : Mem) (len i : Nat) :
    (s.socks i).qCount ≤ ((s.pushToSocket k srcIp srcPort data len).socks i).qCount := by
  by_cases hl : MaxDatagram < len
  · rw [pushToSocket_tooBig s k srcIp srcPort data len hl]
    exact le_rfl
  by_cases hf : s.freeList < 0
  · rw [pushToSocket_full s k srcIp srcPort data len hf (by omega)]
    exact le_rfl
  simp only [pushToSocket, allocPkt, if_neg hl, if_neg hf]
  by_cases hi : i = k
  · subst hi
    split
    · simp only [setSock, setPkt, Function.update_self]
      omega
    · simp only [setSock, setPkt, Function.update_self]
      omega
  · split
    · simp only [setSock, setPkt, Function.update_of_ne hi]
      exact le_rfl
    · simp only [setSock, setPkt, Function.update_of_ne hi]
      exact le_rfl

theorem pushToSocket_queued (s : VNet) (k : Nat) (srcIp : U32) (srcPort : U16) (data : Mem) {len : Nat}
    (hl : ¬MaxDatagram < len) (hf : ¬s.freeList < 0) :
    ((s.pushToSocket k srcIp srcPort data len).socks k).qCount = (s.socks k).qCount + 1 := by
  simp only [pushToSocket, allocPkt, if_neg hl, if_neg hf]
  split
  · simp only [setSock, setPkt, Function.update_self]
  · simp only [setSock, setPkt, Function.update_self]

theorem pushAll_grows (a : Arrival) (l : List Nat) (s : VNet) (i : Nat) :
    (s.socks i).qCount ≤ ((s.pushAll a l).socks i).qCount := by
  induction l generalizing s with
  | nil => exact le_rfl
  | cons k l ih => exact (pushToSocket_grows s k ..).trans (ih _)

/-- A datagram that cannot be queued is counted. -/
theorem pushAll_refused {a : Arrival} (l : List Nat) {s : VNet} (h : MaxDatagram < a.len ∨ s.freeList < 0) :
    ∃ f : Stats → Stats, s.pushAll a l = s.count f := by
  induction l generalizing s with
  | nil => exact ⟨id, rfl⟩
  | cons k l ih =>
    have hpush : ∃ f : Stats → Stats, s.pushToSocket k a.srcIp a.srcPort a.data a.len = s.count f := by
      by_cases hl : MaxDatagram < a.len
      · exact ⟨_, pushToSocket_tooBig s k a.srcIp a.srcPort a.data a.len hl⟩
      · exact ⟨_, pushToSocket_full s k a.srcIp a.srcPort a.data a.len (h.resolve_left hl) (by omega)⟩
    obtain ⟨f, hpush⟩ := hpush
    obtain ⟨g, hrest⟩ := ih (s := s.count f) h
    refine ⟨fun t => g (f t), ?_⟩
    show (s.pushToSocket k a.srcIp a.srcPort a.data a.len).pushAll a l = _
    rw [hpush, hrest]
    rfl

/-- A datagram is queued unless nobody listens, it is too long or the pool is empty. -/
theorem pushAll_socks_iff (a : Arrival) (l : List Nat) (s : VNet) :
    (s.pushAll a l).socks = s.socks ↔ l = [] ∨ MaxDatagram < a.len ∨ s.freeList < 0 := by
  constructor
  · intro h
    by_contra hne
    simp only [not_or] at hne
    obtain ⟨hl, hlen, hfree⟩ := hne
    obtain ⟨k, rest, rfl⟩ := List.exists_cons_of_ne_nil hl
    have hfirst := pushToSocket_queued s k a.srcIp a.srcPort a.data hlen hfree
    have hgrown := pushAll_grows a rest (s.pushToSocket k a.srcIp a.srcPort a.data a.len) k
    have hsame : (((s.pushToSocket k a.srcIp a.srcPort a.data a.len).pushAll a rest).socks k).qCount =
      (s.socks k).qCount := congrArg (fun socks => (socks k).qCount) h
    omega
  · rintro (rfl | h)
    · rfl
    · obtain ⟨f, heq⟩ := pushAll_refused l h
      rw [heq]
      rfl

/-! ### The clock -/

theorem pushAll_tick (a : Arrival) (l : List Nat) (s : VNet) : (s.pushAll a l).tick = s.tick := by
  induction l generalizing s with
  | nil => rfl
  | cons k l ih =>
    obtain ⟨⟨f, p, q, t, heq⟩, -⟩ := pushToSocket_frame s k a.srcIp a.srcPort a.data a.len
    show ((s.pushToSocket k a.srcIp a.srcPort a.data a.len).pushAll a l).tick = s.tick
    rw [ih, heq]

theorem deliverIpv4_tick (s : VNet) (k : Packet) : (s.deliverIpv4 k).1.tick = s.tick := by
  unfold deliverIpv4
  split
  · rename_i hudp
    cases ha : k.arrival with
    | none =>
      obtain ⟨f, -, heq⟩ := onUdp_none s hudp ha
      dsimp only
      rw [heq]
      rfl
    | some a =>
      obtain ⟨f, -, heq⟩ := onUdp_some s ha
      dsimp only
      rw [heq]
      exact pushAll_tick ..
  · split
    · rw [(onIcmp_sends s k.srcIp k.payload k.len).eq]
    · rfl

/-- A fragment of several moves the clock. -/
theorem accept_tick (s : VNet) {f : Fragment} (hw : f.whole = false) (payload : Mem) :
    (s.accept f payload).1.tick = s.tick + 1 := by
  unfold accept
  rw [if_neg (by rw [hw]; decide)]
  unfold reassemble
  dsimp only
  split_ifs <;> rfl

theorem learnMac_tick (s : VNet) (ip : U32) (mac : U64) :
    (s.learnMac ip mac).tick = s.tick ∨ (s.learnMac ip mac).tick = s.tick + 1 := by
  unfold learnMac
  split
  · exact .inl rfl
  · split <;> exact .inr rfl

end VNet

namespace Unnoticed
open VNet
variable {s : VNet} {srcIp : U32} {srcMac : U64} {r : VNet × List Frame}

/-- What goes unnoticed moves the clock no further than learning does. -/
theorem tick (h : Unnoticed s srcIp srcMac r) : r.1.tick ≠ (s.learnMac srcIp srcMac).tick + 1 := by
  obtain ⟨f, heq | heq⟩ := h.state
  · rw [heq]
    show s.tick ≠ _
    rcases s.learnMac_tick srcIp srcMac with hl | hl <;> rw [hl] <;> bv_omega
  · rw [heq]
    show (s.learnMac srcIp srcMac).tick ≠ _
    bv_omega

theorem socks (h : Unnoticed s srcIp srcMac r) : r.1.socks = s.socks := by
  obtain ⟨f, heq | heq⟩ := h.state
  · rw [heq]
    rfl
  · rw [heq]
    show (s.learnMac srcIp srcMac).socks = s.socks
    rw [(s.learnMac_hears srcIp srcMac).eq]

theorem ipId (h : Unnoticed s srcIp srcMac r) : r.1.ipId = s.ipId := by
  obtain ⟨f, heq | heq⟩ := h.state
  · rw [heq]
    rfl
  · rw [heq]
    show (s.learnMac srcIp srcMac).ipId = s.ipId
    rw [(s.learnMac_hears srcIp srcMac).eq]

/-- Counting beforehand makes no difference. -/
theorem count (f : Stats → Stats) :
    Unnoticed (s.count f) srcIp srcMac r ↔ Unnoticed s srcIp srcMac r := by
  constructor
  · rintro ⟨⟨g, heq | heq⟩, hsilent⟩
    · exact ⟨⟨fun t => g (f t), .inl heq⟩, hsilent⟩
    · refine ⟨⟨fun t => g (f t), .inr ?_⟩, hsilent⟩
      rw [heq, learnMac_count]
      rfl
  · rintro ⟨⟨g, heq | heq⟩, hsilent⟩
    · exact ⟨⟨fun _ => g s.stats, .inl heq⟩, hsilent⟩
    · refine ⟨⟨fun _ => g (s.learnMac srcIp srcMac).stats, .inr ?_⟩, hsilent⟩
      rw [heq, learnMac_count]
      rfl

end Unnoticed

namespace VNet

/-! ### Delivery -/

theorem emitIpFragment_ipId (s : VNet) (dstMac : U64) (dstIp : U32) (proto : U8) (id off : U16) (more : Bool)
    (payload : Mem) (len : Nat) : (s.emitIpFragment dstMac dstIp proto id off more payload len).1.ipId = s.ipId := by
  unfold emitIpFragment
  split
  · rfl
  · split <;> rfl

theorem sendFragments_ipId (dstMac : U64) (dstIp : U32) (proto : U8) (id : U16) (payload : Mem) (len chunk fuel : Nat)
    (s : VNet) (off : Nat) :
    (sendFragments dstMac dstIp proto id payload len chunk fuel s off).1.ipId = s.ipId := by
  induction fuel generalizing s off with
  | zero => rfl
  | succ fuel ih =>
    unfold sendFragments
    split
    · exact (ih _ _).trans (emitIpFragment_ipId ..)
    · rfl

/-- What is sent to an address that is known takes a number. -/
theorem sendIpv4_ipId (s : VNet) {dstIp : U32} (hmac : s.lookupMac dstIp ≠ 0) (proto : U8) (payload : Mem) (len : Nat) :
    (s.sendIpv4 dstIp proto payload len).1.ipId = s.ipId + 1 := by
  unfold sendIpv4
  dsimp only
  rw [if_neg hmac]
  split
  · exact emitIpFragment_ipId ..
  · exact sendFragments_ipId ..

theorem sendIpv4_idle_iff (s : VNet) (dstIp : U32) (proto : U8) (payload : Mem) (len : Nat) :
    ((s.sendIpv4 dstIp proto payload len).2 = [] ∧ (s.sendIpv4 dstIp proto payload len).1.ipId = s.ipId) ↔
      s.emitSet = false ∧ s.lookupMac dstIp = 0 := by
  by_cases hmac : s.lookupMac dstIp = 0
  · have hsend : s.sendIpv4 dstIp proto payload len = s.sendArpRequest dstIp := by
      simp only [sendIpv4, if_pos hmac]
    rw [hsend]
    cases hemit : s.emitSet with
    | true => simp [sendArpRequest, hemit]
    | false => simp [sendArpRequest, hemit, hmac]
  · refine ⟨fun h => ?_, fun h => absurd h.2 hmac⟩
    have hid := h.2
    rw [sendIpv4_ipId s hmac] at hid
    bv_omega

/-- Where the packet is ignored, it is counted. -/
theorem deliverIpv4_ignored {s : VNet} {k : Packet} (h : k.ignored s) :
    ∃ f : Stats → Stats, s.deliverIpv4 k = (s.count f, []) := by
  unfold Packet.ignored at h
  unfold deliverIpv4
  split
  · rename_i hudp
    rw [if_pos hudp] at h
    cases ha : k.arrival with
    | none =>
      obtain ⟨f, -, heq⟩ := onUdp_none s hudp ha
      exact ⟨f, by rw [heq]⟩
    | some a =>
      obtain ⟨f, -, heq⟩ := onUdp_some s ha
      rw [heq]
      rcases h a ha with hnone | hrefused
      · rw [hnone]
        exact ⟨fun t => f { t with rxUdp := t.rxUdp + 1 }, rfl⟩
      · obtain ⟨g, hpush⟩ := pushAll_refused (s := s.count fun t => { t with rxUdp := t.rxUdp + 1 })
          ((s.listeners a).map Fin.val) hrefused
        rw [hpush]
        exact ⟨fun t => f (g { t with rxUdp := t.rxUdp + 1 }), rfl⟩
  · rename_i hudp
    rw [if_neg hudp] at h
    split
    · rename_i hicmp
      rw [if_pos hicmp] at h
      unfold onIcmp
      dsimp only
      split_ifs with h1 h2 h3
      · exact ⟨fun t => { t with rxIcmp := t.rxIcmp + 1 }, rfl⟩
      · exact ⟨fun t => { t with rxIcmp := t.rxIcmp + 1, dropBadChecksum := t.dropBadChecksum + 1 }, rfl⟩
      · exact ⟨fun t => { t with rxIcmp := t.rxIcmp + 1, dropTooBig := t.dropTooBig + 1 }, rfl⟩
      · obtain ⟨hemit, hmac⟩ : s.emitSet = false ∧ s.lookupMac k.srcIp = 0 := by tauto
        refine ⟨fun t => { t with rxIcmp := t.rxIcmp + 1, txIcmp := t.txIcmp + 1 }, ?_⟩
        have hsend : ∀ p : Mem,
            (s.count fun t => { t with rxIcmp := t.rxIcmp + 1 }).sendIpv4 k.srcIp IpProto_ICMP p k.len =
              (s.count fun t => { t with rxIcmp := t.rxIcmp + 1 }, []) := by
          intro p
          have hmac' : (s.count fun t => { t with rxIcmp := t.rxIcmp + 1 }).lookupMac k.srcIp = 0 := hmac
          simp only [sendIpv4, if_pos hmac']
          simp [sendArpRequest, VNet.count, hemit]
        rw [hsend]
        rfl
    · exact ⟨id, rfl⟩

/-- A packet that queues nothing, sends nothing and takes no number is ignored. -/
theorem deliverIpv4_idle {s : VNet} {k : Packet} (hsocks : (s.deliverIpv4 k).1.socks = s.socks)
    (hid : (s.deliverIpv4 k).1.ipId = s.ipId) (hsilent : (s.deliverIpv4 k).2 = []) : k.ignored s := by
  unfold Packet.ignored
  split
  · rename_i hudp
    intro a ha
    obtain ⟨f, -, heq⟩ := onUdp_some s ha
    simp only [deliverIpv4, if_pos hudp] at hsocks
    rw [heq] at hsocks
    have hiff := pushAll_socks_iff a ((s.listeners a).map Fin.val) (s.count fun t => { t with rxUdp := t.rxUdp + 1 })
    rw [List.map_eq_nil_iff] at hiff
    exact hiff.mp hsocks
  · rename_i hudp
    split
    · rename_i hicmp
      have hdel : s.deliverIpv4 k = s.onIcmp k.srcIp k.payload k.len := by
        simp only [deliverIpv4, if_neg hudp, if_pos hicmp]
      rw [hdel] at hid hsilent
      by_contra hno
      simp only [not_or] at hno
      obtain ⟨h1, h2, h3, h4, h5⟩ := hno
      simp only [onIcmp, if_neg (not_or.mpr ⟨h1, h2⟩), if_neg h3, if_neg h4] at hid hsilent
      exact h5 ((sendIpv4_idle_iff (s.count fun t => { t with rxIcmp := t.rxIcmp + 1 }) ..).mp ⟨hsilent, hid⟩)
    · trivial

/-! ### Truncated packets -/

/-- The length field exceeds the bytes there are. -/
def Truncated (payload : List U8) : Prop :=
  payload.length < (rd16 (Mem.ofBytes payload) Ip4.TotalLen).toNat

instance (payload : List U8) : Decidable (Truncated payload) := Nat.decLt ..

/-- The packet made of the bytes there are. -/
def present (payload : List U8) : Packet :=
  let p := Mem.ofBytes payload
  ⟨rd32 p Ip4.Src, rd32 p Ip4.Dst, p Ip4.Proto, p.advance (headerLen p), payload.length - headerLen p⟩

/-- An IPv4 frame that is not taken is counted at most. -/
theorem onFrame_refused {s : VNet} {dstMac : U64} {payload : List U8}
    (h : ¬s.takesIpv4 dstMac EtherType_IPv4 payload = true) (srcMac : U64) :
    ∃ f : Stats → Stats, s.onFrame srcMac dstMac EtherType_IPv4 payload = (s.count f, []) := by
  simp only [takesIpv4, Bool.and_eq_true, beq_self_eq_true, and_true, Bool.not_eq_true', Bool.or_eq_true,
    beq_iff_eq] at h
  unfold onFrame
  dsimp only
  split
  · exact ⟨_, rfl⟩
  · rename_i hidle
    split
    · exact ⟨fun t => { t with rxFrames := t.rxFrames + 1, dropNotForUs := t.dropNotForUs + 1 }, rfl⟩
    · rename_i hmac
      have hidle' : ¬(!s.configured || payload.isEmpty) = true := hidle
      have hmac' : ¬(dstMac ≠ s.mac ∧ dstMac ≠ MacBroadcast) := hmac
      simp only [Bool.or_eq_true, Bool.not_eq_true', not_or, Bool.not_eq_false, Bool.not_eq_true] at hidle'
      rw [not_and_or, not_ne_iff, not_ne_iff] at hmac'
      exact absurd ⟨⟨hidle'.1, hidle'.2⟩, hmac'⟩ h

theorem onIpv4_unnoticed_iff (s : VNet) (srcMac : U64) {payload : List U8} (htrunc : Truncated payload) :
    Unnoticed s (present payload).srcIp srcMac (s.onIpv4 srcMac (Mem.ofBytes payload) payload.length) ↔
      ∀ f, s.fragment (Mem.ofBytes payload) payload.length = some f →
        f.whole = true ∧ (present payload).ignored (s.learnMac (present payload).srcIp srcMac) := by
  cases hf : s.fragment (Mem.ofBytes payload) payload.length with
  | none =>
    obtain ⟨g, heq⟩ := ipv4Input_none hf srcMac
    refine ⟨fun _ _ h => (by cases h), fun _ => ?_⟩
    rw [onIpv4, heq]
    exact ⟨⟨g, .inl rfl⟩, rfl⟩
  | some f =>
    have heq := ipv4Input_accept hf srcMac
    rw [learnMac_count] at heq
    obtain ⟨hkey, -, hbytes⟩ := fragment_reads hf
    have hlen : f.bytes.length = payload.length - headerLen (Mem.ofBytes payload) := by
      rw [hbytes, Mem.bytes_length, if_pos (show _ < _ from htrunc)]
    by_cases hw : f.whole = true
    · have hpacket : s.onIpv4 srcMac (Mem.ofBytes payload) payload.length =
          ((s.learnMac (present payload).srcIp srcMac).count fun t => { t with rxIp := t.rxIp + 1 }).deliverIpv4
            (present payload) := by
        rw [onIpv4, heq, accept_whole _ hw, hkey, hlen]
        rfl
      rw [hpacket]
      constructor
      · intro h f' hf'
        obtain rfl := Option.some.inj hf'
        have hlearn := s.learnMac_hears (present payload).srcIp srcMac
        refine ⟨hw, deliverIpv4_idle (s := (s.learnMac (present payload).srcIp srcMac).count _) ?_ ?_ h.silent⟩
        · rw [h.socks]
          show _ = (s.learnMac (present payload).srcIp srcMac).socks
          rw [hlearn.eq]
        · rw [h.ipId]
          show _ = (s.learnMac (present payload).srcIp srcMac).ipId
          rw [hlearn.eq]
      · intro h
        obtain ⟨g, hdeliver⟩ := deliverIpv4_ignored (s := (s.learnMac (present payload).srcIp srcMac).count fun t =>
          { t with rxIp := t.rxIp + 1 }) (h f rfl).2
        rw [hdeliver]
        exact ⟨⟨fun t => g { t with rxIp := t.rxIp + 1 }, .inr rfl⟩, rfl⟩
    · refine ⟨fun h => absurd ?_ h.tick, fun h => absurd (h f rfl).1 hw⟩
      have hw' : f.whole = false := by simpa using hw
      have htick := accept_tick ((s.learnMac (present payload).srcIp srcMac).count fun t => { t with rxIp := t.rxIp + 1 })
        hw' ((Mem.ofBytes payload).advance (headerLen (Mem.ofBytes payload)))
      have hafter : ∀ (r : VNet × Option Packet), s.ipv4Input srcMac (Mem.ofBytes payload) payload.length = r →
          (s.onIpv4 srcMac (Mem.ofBytes payload) payload.length).1.tick = r.1.tick := by
        intro r hr
        rw [onIpv4, hr]
        obtain ⟨t, k⟩ := r
        cases k with
        | none => rfl
        | some k => exact deliverIpv4_tick t k
      rw [hafter _ heq]
      exact htick

/-- **A truncated packet goes unnoticed just when something else stops it.** In every state
of the interface and for every IPv4 frame with fewer bytes than its length field says: it
does no more than to be counted and to teach its sender's address if and only if it is
refused before its payload is looked at or, unfragmented, the packet made of the bytes
present is ignored. -/
theorem truncated_unnoticed_iff (ops : List Op) (srcMac dstMac : U64) (payload : List U8)
    (htrunc : Truncated payload) :
    Unnoticed (fresh.execAll ops).1 (present payload).srcIp srcMac
        ((fresh.execAll ops).1.onFrame srcMac dstMac EtherType_IPv4 payload) ↔
      ((fresh.execAll ops).1.takesIpv4 dstMac EtherType_IPv4 payload = true →
        ∀ f, (fresh.execAll ops).1.fragment (Mem.ofBytes payload) payload.length = some f →
          f.whole = true ∧
            (present payload).ignored ((fresh.execAll ops).1.learnMac (present payload).srcIp srcMac)) := by
  generalize (fresh.execAll ops).1 = s
  by_cases hip : s.takesIpv4 dstMac EtherType_IPv4 payload = true
  · have hcounted := onIpv4_unnoticed_iff (s.count fun t => { t with rxFrames := t.rxFrames + 1 }) srcMac htrunc
    rw [onFrame_ipv4 hip, ← Unnoticed.count fun t => { t with rxFrames := t.rxFrames + 1 }, hcounted, learnMac_count]
    exact ⟨fun h _ => h, fun h => h hip⟩
  · obtain ⟨f, heq⟩ := onFrame_refused hip srcMac
    rw [heq]
    exact ⟨fun _ h => absurd h hip, fun _ => ⟨⟨f, .inl rfl⟩, rfl⟩⟩

/-- A UDP packet of 64 bytes of which 30 arrive; its checksum says "not computed". -/
def cutShort : List U8 :=
  [0x45, 0x00, 0x00, 0x40, 0x00, 0x01, 0x00, 0x00, 0x40, 0x11, 0x66, 0xAA, 0x0A, 0x00, 0x00, 0x02, 0x0A, 0x00, 0x00, 0x01,
    0x13, 0x88, 0x17, 0x70, 0x00, 0x2C, 0x00, 0x00, 0x5A, 0x5A]

def listening : List Op := [.reset, .configure 2 0x0A000001 0xFFFFFF00 1500, .udpOpen, .udpBind 0 0 6000]

/-- Two of its thirty-six bytes are queued as the datagram. -/
theorem cutShort_queued :
    ¬∀ (ops : List Op) (srcMac dstMac : U64) (payload : List U8), Truncated payload →
      Unnoticed (fresh.execAll ops).1 (present payload).srcIp srcMac
        ((fresh.execAll ops).1.onFrame srcMac dstMac EtherType_IPv4 payload) := by
  intro h
  have hqueues := (h listening 1 MacBroadcast cutShort (by decide)).socks
  have hcount : (((fresh.execAll listening).1.onFrame 1 MacBroadcast EtherType_IPv4 cutShort).1.socks 0).qCount =
      1 := by decide +kernel
  rw [hqueues] at hcount
  revert hcount
  decide +kernel

/-- A truncated packet whose header checksum is wrong as well goes unnoticed. -/
theorem truncated_refused :
    Unnoticed (fresh.execAll listening).1 (present (cutShort.set 10 0)).srcIp 1
      ((fresh.execAll listening).1.onFrame 1 MacBroadcast EtherType_IPv4 (cutShort.set 10 0)) :=
  (truncated_unnoticed_iff listening 1 MacBroadcast (cutShort.set 10 0) (by decide)).mpr fun _ f hf => by
    rw [show VNet.fragment _ _ _ = none by decide +kernel] at hf
    cases hf

end VNet

end SysZerotier.Net
