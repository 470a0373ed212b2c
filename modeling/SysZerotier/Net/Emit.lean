import SysZerotier.Net.Fragment

/-! What the sender puts on the wire.

A packet `emitIpFragment` builds is read back as the fragment it was built from
(`emitIpFragment_fragment`), and the frames `sendIpv4` emits are the fragments of one
datagram, in order (`sendIpv4_frames`). -/
namespace SysZerotier.Net
open Library

namespace VNet

/-! ### One packet -/

/-- The header fields before the checksum is stored. -/
structure HeaderFields (p : Mem) (srcIp dstIp : U32) (proto : U8) (id fragOffsetBlocks : U16) (more : Bool)
    (len : Nat) : Prop where
  verIhl : p Ip4.VerIhl = 0x45
  totalLen : rd16 p Ip4.TotalLen = BitVec.ofNat 16 (Ip4.MinHeader + len)
  id : rd16 p Ip4.Id = id
  flagsFrag : rd16 p Ip4.FlagsFrag = ((if more then Ip4.FlagMoreFragments else 0) ||| fragOffsetBlocks)
  proto : p Ip4.Proto = proto
  src : rd32 p Ip4.Src = srcIp
  dst : rd32 p Ip4.Dst = dstIp

theorem HeaderFields.congr {p q : Mem} {srcIp dstIp : U32} {proto : U8} {id off : U16} {more : Bool}
    {len : Nat} (h : HeaderFields p srcIp dstIp proto id off more len)
    (heq : ∀ i, i < Ip4.MinHeader → i ≠ Ip4.Csum → i ≠ Ip4.Csum + 1 → q i = p i) :
    HeaderFields q srcIp dstIp proto id off more len := by
  have h16 : ∀ i, i + 1 < Ip4.MinHeader → i + 1 < Ip4.Csum ∨ Ip4.Csum + 1 < i → rd16 q i = rd16 p i :=
    fun i hi hc => rd16_congr (heq i (by omega) (by omega) (by omega)) (heq (i + 1) hi (by omega) (by omega))
  have h32 : ∀ i, i + 3 < Ip4.MinHeader → Ip4.Csum + 1 < i → rd32 q i = rd32 p i :=
    fun i hi hc => rd32_congr fun j _ _ => heq j (by omega) (by omega) (by omega)
  refine ⟨?_, ?_, ?_, ?_, ?_, ?_, ?_⟩
  · rw [heq _ (by decide) (by decide) (by decide)]
    exact h.verIhl
  · rw [h16 _ (by decide) (by decide)]
    exact h.totalLen
  · rw [h16 _ (by decide) (by decide)]
    exact h.id
  · rw [h16 _ (by decide) (by decide)]
    exact h.flagsFrag
  · rw [heq _ (by decide) (by decide) (by decide)]
    exact h.proto
  · rw [h32 _ (by decide) (by decide)]
    exact h.src
  · rw [h32 _ (by decide) (by decide)]
    exact h.dst

theorem ipHeader_fields (srcIp dstIp : U32) (proto : U8) (id off : U16) (more : Bool) (len : Nat) :
    HeaderFields (ipHeader srcIp dstIp proto id off more len) srcIp dstIp proto id off more len ∧
      rd16 (ipHeader srcIp dstIp proto id off more len) Ip4.Csum = 0 := by
  unfold ipHeader
  dsimp only
  refine ⟨⟨?_, ?_, ?_, ?_, ?_, ?_, rd32_wr32 ..⟩, ?_⟩
  · simp (disch := decide) only [wr32_other, wr16_other, Mem.set_other, Mem.set_same]
  · simp (disch := decide) only [rd16_wr32_other, rd16_wr16_other, rd16_set_other, rd16_wr16]
  · simp (disch := decide) only [rd16_wr32_other, rd16_wr16_other, rd16_set_other, rd16_wr16]
  · simp (disch := decide) only [rd16_wr32_other, rd16_wr16_other, rd16_set_other, rd16_wr16]
  · simp (disch := decide) only [wr32_other, wr16_other, Mem.set_same]
  · rw [rd32_wr32_other _ _ (by decide), rd32_wr32]
  · simp (disch := decide) only [rd16_wr32_other, rd16_wr16]

/-- Offset and flag are read back from the word they were packed into. -/
theorem flagsFrag_read (more : Bool) (off : U16) (h : off.toNat < 8192) :
    (((if more then Ip4.FlagMoreFragments else 0) ||| off) &&& Ip4.FragOffsetMask = off) ∧
      ((((if more then Ip4.FlagMoreFragments else 0) ||| off) &&& Ip4.FlagMoreFragments != 0) = more) := by
  have hmask : off &&& Ip4.FragOffsetMask = off := by
    apply BitVec.eq_of_toNat_eq
    rw [BitVec.toNat_and, show Ip4.FragOffsetMask.toNat = 2 ^ 13 - 1 from rfl,
      Nat.and_two_pow_sub_one_eq_mod]
    exact Nat.mod_eq_of_lt h
  have hflag : off &&& Ip4.FlagMoreFragments = 0 := by
    apply BitVec.eq_of_toNat_eq
    rw [BitVec.toNat_and, show Ip4.FlagMoreFragments.toNat = 2 ^ 13 from rfl, Nat.and_two_pow,
      Nat.testBit_lt_two_pow h]
    rfl
  rw [BitVec.and_or_distrib_right, BitVec.and_or_distrib_right, hmask, hflag]
  cases more
  · simp
  · simp only [if_true]
    constructor
    · simp [Ip4.FlagMoreFragments, Ip4.FragOffsetMask]
    · decide

/-- A packet as `emitIpFragment` builds it, read back. -/
structure Built (srcIp dstIp : U32) (proto : U8) (id fragOffsetBlocks : U16) (more : Bool) (payload : Mem)
    (len : Nat) (pkt : List U8) : Prop where
  length : pkt.length = Ip4.MinHeader + len
  fields : HeaderFields (Mem.ofBytes pkt) srcIp dstIp proto id fragOffsetBlocks more len
  checksum : checksum16 (Mem.ofBytes pkt) Ip4.MinHeader 0 = 0
  data : ((Mem.ofBytes pkt).advance Ip4.MinHeader).bytes len = payload.bytes len

theorem emitIpFragment_built (s : VNet) (dstMac : U64) (dstIp : U32) (proto : U8) (id off : U16)
    (more : Bool) (payload : Mem) (len : Nat) (hemit : s.emitSet = true)
    (hlen : Ip4.MinHeader + len ≤ MaxFrame) :
    ∃ pkt : List U8,
      (s.emitIpFragment dstMac dstIp proto id off more payload len).2 = [⟨dstMac, EtherType_IPv4, pkt⟩] ∧
      Built s.ip dstIp proto id off more payload len pkt := by
  obtain ⟨hfields, hcsum⟩ := ipHeader_fields s.ip dstIp proto id off more len
  generalize hp : ipHeader s.ip dstIp proto id off more len = p at hfields hcsum
  have hmin : Ip4.MinHeader = 20 := rfl
  refine ⟨(memcpy (wr16 p Ip4.Csum (checksum16 p Ip4.MinHeader 0)) Ip4.MinHeader payload len).bytes
    (Ip4.MinHeader + len), ?_, ?_⟩
  · unfold emitIpFragment
    rw [if_neg (by simp [hemit]), if_neg (by omega)]
    simp only [hp]
  · have hread : ∀ i, i < Ip4.MinHeader + len →
        Mem.ofBytes ((memcpy (wr16 p Ip4.Csum (checksum16 p Ip4.MinHeader 0)) Ip4.MinHeader
          payload len).bytes (Ip4.MinHeader + len)) i =
        memcpy (wr16 p Ip4.Csum (checksum16 p Ip4.MinHeader 0)) Ip4.MinHeader payload len i :=
      fun i hi => Mem.ofBytes_bytes _ _ i hi
    refine ⟨Mem.bytes_length .., ?_, ?_, ?_⟩ <;>
      generalize Mem.ofBytes ((memcpy (wr16 p Ip4.Csum (checksum16 p Ip4.MinHeader 0)) Ip4.MinHeader
        payload len).bytes (Ip4.MinHeader + len)) = q at hread ⊢
    · refine hfields.congr fun i hi h1 h2 => ?_
      rw [hread i (by omega), memcpy_outside _ _ _ _ _ (.inl hi), wr16_other _ _ h1 h2]
    · have hhead : ∀ i, i < Ip4.MinHeader → q i = wr16 p Ip4.Csum (checksum16 p Ip4.MinHeader 0) i := by
        intro i hi
        rw [hread i (by omega), memcpy_outside _ _ _ _ _ (.inl hi)]
      rw [checksum16_congr 0 (by omega) (by decide) hhead]
      exact checksum16_stored p 5 Ip4.MinHeader 0 (by omega) (by decide) (by omega) hcsum _ (.inl rfl)
    · refine Mem.bytes_congr fun i hi => ?_
      rw [Mem.advance_apply, hread _ (by omega), memcpy_inside _ _ _ _ _ hi]

theorem Built.totalLen {srcIp dstIp : U32} {proto : U8} {id off : U16} {more : Bool} {payload : Mem}
    {len : Nat} {pkt : List U8} (h : Built srcIp dstIp proto id off more payload len pkt)
    (hlen : Ip4.MinHeader + len ≤ MaxFrame) :
    (rd16 (Mem.ofBytes pkt) Ip4.TotalLen).toNat = Ip4.MinHeader + len := by
  have hmax : MaxFrame = 1520 := rfl
  rw [h.fields.totalLen, BitVec.toNat_ofNat]
  exact Nat.mod_eq_of_lt (by omega)

/-- **A packet that `emitIpFragment` builds carries the fragment it was built from**,
to every host that takes the destination address. -/
theorem emitIpFragment_fragment (s : VNet) (dstMac : U64) (dstIp : U32) (proto : U8) (id off : U16)
    (more : Bool) (payload : Mem) (len : Nat) (hemit : s.emitSet = true)
    (hlen : Ip4.MinHeader + len ≤ MaxFrame) (hoff : off.toNat < 8192) :
    ∃ pkt : List U8,
      (s.emitIpFragment dstMac dstIp proto id off more payload len).2 = [⟨dstMac, EtherType_IPv4, pkt⟩] ∧
      pkt ≠ [] ∧ ∀ r : VNet, r.isForUs dstIp = true →
        r.fragment (Mem.ofBytes pkt) pkt.length =
          some ⟨⟨s.ip, dstIp, id, proto⟩, off.toNat * 8, more, payload.bytes len⟩ := by
  obtain ⟨pkt, hsent, hb⟩ := emitIpFragment_built s dstMac dstIp proto id off more payload len hemit hlen
  have hmin : Ip4.MinHeader = 20 := rfl
  refine ⟨pkt, hsent, ?_, fun r hr => ?_⟩
  · rw [← List.length_pos_iff, hb.length]
    omega
  · obtain ⟨hoff', hmore⟩ := flagsFrag_read more off hoff
    unfold fragment
    dsimp only
    rw [hb.length, hb.fields.verIhl, show ((0x45 : U8) &&& 0x0F).toNat * 4 = Ip4.MinHeader from rfl,
      hb.checksum, hb.totalLen hlen, hb.fields.dst, hr, if_neg (by simp), if_neg (by omega), hb.fields.src,
      hb.fields.id, hb.fields.proto, hb.fields.flagsFrag, hoff', hmore, Nat.add_sub_cancel_left, hb.data]
    have hmul : (off * 8).toNat = off.toNat * 8 := by
      rw [BitVec.toNat_mul]
      exact Nat.mod_eq_of_lt (by simp; omega)
    rw [hmul]

/-! ### A whole datagram -/

/-- The frame carries the fragment to every host that takes its destination. -/
structure Carries (dstMac : U64) (f : Fragment) (frame : Frame) : Prop where
  dstMac : frame.dstMac = dstMac
  etherType : frame.etherType = EtherType_IPv4
  nonempty : frame.payload ≠ []
  read : ∀ r : VNet, r.isForUs f.key.dstIp = true →
    r.fragment (Mem.ofBytes frame.payload) frame.payload.length = some f

/-- The lengths `sendIpv4` cuts `rest` bytes into. -/
def cutLens (chunk : Nat) : Nat → Nat → List Nat
  | 0, _ => []
  | fuel + 1, rest =>
    if 0 < rest then
      (if rest > chunk then chunk else rest) ::
        cutLens chunk fuel (rest - (if rest > chunk then chunk else rest))
    else []

theorem cutLens_sum {chunk : Nat} (hc : 0 < chunk) (fuel rest : Nat) (hf : rest ≤ fuel) :
    (cutLens chunk fuel rest).sum = rest := by
  induction fuel generalizing rest with
  | zero =>
    have : rest = 0 := by omega
    rw [this]
    rfl
  | succ fuel ih =>
    unfold cutLens
    split
    · rw [List.sum_cons, ih _ (by split <;> omega)]
      split <;> omega
    · rw [List.sum_nil]
      omega

theorem cutLens_pos {chunk : Nat} (hc : 0 < chunk) (fuel rest : Nat) :
    ∀ n ∈ cutLens chunk fuel rest, 0 < n := by
  induction fuel generalizing rest with
  | zero =>
    intro n hn
    cases hn
  | succ fuel ih =>
    unfold cutLens
    split
    · intro n hn
      rcases List.mem_cons.mp hn with rfl | hn
      · split <;> omega
      · exact ih _ n hn
    · intro n hn
      cases hn

/-- What a round of `sendFragments` sends: a full chunk, unless it is the last. -/
theorem take_bounds {len off chunk : Nat} (hc : 0 < chunk) (hmore : off < len) {take : Nat}
    (htake : (if len - off > chunk then chunk else len - off) = take) :
    0 < take ∧ take ≤ chunk ∧ off + take ≤ len ∧ (off + take < len → take = chunk) := by
  split at htake <;> omega

theorem blocks_toNat (off : Nat) (h : off < 65536) : (BitVec.ofNat 16 (off / 8)).toNat = off / 8 := by
  rw [BitVec.toNat_ofNat]
  exact Nat.mod_eq_of_lt (by omega)

theorem sendFragments_frames (dstMac : U64) (dstIp : U32) (proto : U8) (id : U16) (payload : Mem)
    {len chunk : Nat} (hc : 0 < chunk) (h8 : 8 ∣ chunk) (hmax : Ip4.MinHeader + chunk ≤ MaxFrame)
    (hlen : len < 65536) (fuel : Nat) (s : VNet) (off : Nat) (hemit : s.emitSet = true) (hoff : 8 ∣ off)
    (hle : off ≤ len) (hf : len - off < fuel) :
    List.Forall₂ (fun (a : Span) frame => Carries dstMac
        ⟨⟨s.ip, dstIp, id, proto⟩, a.off, decide (a.off + a.len < len), (payload.advance a.off).bytes a.len⟩
        frame)
      (spans off (cutLens chunk fuel (len - off)))
      (sendFragments dstMac dstIp proto id payload len chunk fuel s off).2 := by
  induction fuel generalizing s off with
  | zero => omega
  | succ fuel ih =>
    unfold sendFragments cutLens
    by_cases hmore : off < len
    · rw [if_pos hmore, if_pos (by omega)]
      dsimp only
      generalize htake : (if len - off > chunk then chunk else len - off) = take
      obtain ⟨hpos, hchunk, hend, hfull⟩ := take_bounds hc hmore htake
      have hblocks := blocks_toNat off (by omega)
      have hmul : off / 8 * 8 = off := Nat.div_mul_cancel hoff
      obtain ⟨pkt, hpkt, hne, hread⟩ := emitIpFragment_fragment s dstMac dstIp proto id
        (BitVec.ofNat 16 (off / 8)) (decide (off + take < len)) (payload.advance off) take hemit
        (by omega) (by omega)
      have hsends := emitIpFragment_sends s dstMac dstIp proto id (BitVec.ofNat 16 (off / 8))
        (decide (off + take < len)) (payload.advance off) take
      generalize s.emitIpFragment dstMac dstIp proto id (BitVec.ofNat 16 (off / 8))
        (decide (off + take < len)) (payload.advance off) take = sent at hpkt hsends ⊢
      rw [hblocks, hmul] at hread
      rw [hpkt, spans]
      have hip : sent.1.ip = s.ip := by rw [hsends.eq]
      have hemit' : sent.1.emitSet = true := by
        rw [hsends.eq]
        exact hemit
      refine List.Forall₂.cons ⟨rfl, rfl, hne, hread⟩ ?_
      rw [← hip]
      by_cases hlast : off + take = len
      · -- nothing is left for a further round
        have hnil : len - off - take = 0 := by omega
        rw [hnil, hlast]
        cases fuel with
        | zero => omega
        | succ fuel =>
          simp only [cutLens, sendFragments, lt_irrefl, if_false, spans]
          exact .nil
      · have hrest : len - off - take = len - (off + take) := by omega
        have hdvd : 8 ∣ take := hfull (by omega) ▸ h8
        rw [hrest]
        exact ih _ _ hemit' (Nat.dvd_add hoff hdvd) hend (by omega)
    · rw [if_neg hmore, if_neg (by omega)]
      exact .nil

/-- **The frames `sendIpv4` emits to a known neighbour are the fragments of one
datagram**, which the next IP id names. -/
theorem sendIpv4_frames (s : VNet) (dstIp : U32) (proto : U8) (payload : Mem) (len : Nat)
    (hemit : s.emitSet = true) (hmac : s.lookupMac dstIp ≠ 0) (hmtu : 576 ≤ s.mtu.toNat)
    (hmtu' : s.mtu.toNat ≤ MaxFrame - 14) (hpos : 0 < len) (hlen : len < 65536) :
    ∃ d : Sent, d.key = ⟨s.ip, dstIp, s.ipId, proto⟩ ∧ d.bytes = payload.bytes len ∧
      List.Forall₂ (Carries (s.lookupMac dstIp)) d.fragments (s.sendIpv4 dstIp proto payload len).2 := by
  have hmin : Ip4.MinHeader = 20 := rfl
  have hmax : MaxFrame = 1520 := rfl
  have hne : payload.bytes len ≠ [] := by
    rw [← List.length_pos_iff, Mem.bytes_length]
    exact hpos
  unfold sendIpv4
  dsimp only
  rw [if_neg hmac]
  by_cases hsmall : len ≤ s.mtu.toNat - Ip4.MinHeader
  · rw [if_pos hsmall]
    refine ⟨⟨⟨s.ip, dstIp, s.ipId, proto⟩, payload.bytes len, [len], by simp, by simpa using hpos, hne⟩,
      rfl, rfl, ?_⟩
    obtain ⟨pkt, hpkt, hp, hread⟩ := emitIpFragment_fragment { s with ipId := s.ipId + 1 }
      (s.lookupMac dstIp) dstIp proto s.ipId 0 false payload len hemit (by omega) (by decide)
    rw [hpkt]
    refine .cons ⟨rfl, rfl, hp, fun r hr => (hread r hr).trans ?_⟩ .nil
    simp [Sent.fragment, Mem.take_bytes]
  · rw [if_neg hsmall]
    have hchunk : 0 < (s.mtu.toNat - Ip4.MinHeader) / 8 * 8 := by omega
    refine ⟨⟨⟨s.ip, dstIp, s.ipId, proto⟩, payload.bytes len,
      cutLens ((s.mtu.toNat - Ip4.MinHeader) / 8 * 8) (len + 1) len, ?_, cutLens_pos hchunk _ _, hne⟩,
      rfl, rfl, ?_⟩
    · rw [cutLens_sum hchunk _ _ (by omega), Mem.bytes_length]
    · have hframes := sendFragments_frames (s.lookupMac dstIp) dstIp proto s.ipId payload hchunk
        (Nat.dvd_mul_left 8 _) (by omega) hlen (len + 1) { s with ipId := s.ipId + 1 } 0 hemit
        (Nat.dvd_zero 8) (Nat.zero_le _) (by omega)
      rw [Sent.fragments, List.forall₂_map_left_iff]
      refine ((List.forall₂_and_left _ _).mpr ⟨fun a ha => ha, hframes⟩).imp ?_
      rintro a frame ⟨ha, hc⟩
      have hstop := (Cut.bounds ha).2
      rw [cutLens_sum hchunk _ _ (by omega)] at hstop
      simp only [Sent.fragment, Mem.bytes_length]
      rw [Mem.bytes_slice payload (by omega)]
      exact hc

/-! ### The implicit bind -/

/-- The ephemeral port counter one candidate on. -/
def afterPort (port : U16) : U16 := if port + 1 = 0 then 49152 else port + 1

theorem afterPort_iterate (port : U16) (i : Nat) (h : i < 16384) :
    (afterPort^[i] port).toNat =
      if port.toNat + i < 65536 then port.toNat + i else port.toNat + i - 16384 := by
  have hlt := port.isLt
  induction i with
  | zero =>
    rw [if_pos (by omega)]
    rfl
  | succ i ih =>
    have ih := ih (by omega)
    rw [Function.iterate_succ_apply']
    generalize afterPort^[i] port = p at ih
    have hp := p.isLt
    have hsucc : (p + 1).toNat = (p.toNat + 1) % 65536 := BitVec.toNat_add p 1
    unfold afterPort
    by_cases h0 : p + 1 = 0
    · rw [if_pos h0]
      have : (p + 1).toNat = 0 := by rw [h0]; rfl
      rw [show (49152 : U16).toNat = 49152 from rfl]
      split at ih <;> split <;> omega
    · rw [if_neg h0]
      have : (p + 1).toNat ≠ 0 := fun he => h0 (BitVec.eq_of_toNat_eq he)
      split at ih <;> split <;> omega

theorem ephemeralPort_free (s : VNet) {tries i : Nat} {port : U16} (hi : i < tries)
    (hfree : s.portTaken (afterPort^[i] port) = false) :
    s.portTaken (s.ephemeralPort tries port).1 = false := by
  induction tries generalizing port i with
  | zero => omega
  | succ tries ih =>
    unfold ephemeralPort
    dsimp only
    split
    · rename_i htaken
      cases i with
      | zero => simp [htaken] at hfree
      | succ i => exact ih (by omega) hfree
    · rename_i htaken
      simpa using htaken

/-- Nine candidates in a row cannot all be taken by eight sockets. -/
theorem ephemeralPort_exists (s : VNet) (port : U16) :
    ∃ i < 9, s.portTaken (afterPort^[i] port) = false := by
  by_contra hall
  have htaken : ∀ i < 9, s.portTaken (afterPort^[i] port) = true := fun i hi => by
    by_contra hne
    exact hall ⟨i, hi, by simpa using hne⟩
  have hnodup : ((List.range 9).map fun i => afterPort^[i] port).Nodup := by
    refine List.Nodup.map_on (fun i hi j hj heq => ?_) List.nodup_range
    have hi := List.mem_range.mp hi
    have hj := List.mem_range.mp hj
    have heq := congrArg BitVec.toNat heq
    rw [afterPort_iterate port i (by omega), afterPort_iterate port j (by omega)] at heq
    split at heq <;> split at heq <;> omega
  have hsub : ∀ p ∈ (List.range 9).map fun i => afterPort^[i] port,
      p ∈ (List.range MaxSockets).map fun i => (s.socks i).localPort := by
    intro p hp
    obtain ⟨i, hi, rfl⟩ := List.mem_map.mp hp
    have := htaken i (List.mem_range.mp hi)
    simp only [portTaken, List.any_eq_true, Bool.and_eq_true, beq_iff_eq] at this
    obtain ⟨j, hj, -, hport⟩ := this
    exact List.mem_map.mpr ⟨j, hj, hport⟩
  have hlen := (List.subperm_of_subset hnodup hsub).length_le
  simp [MaxSockets] at hlen

/-- An open socket without a port always gets one. -/
theorem implicitBind_bound {s : VNet} {vfd : Int} (hopen : s.isOpen vfd = true) :
    (s.implicitBind vfd).2 = 0 := by
  unfold implicitBind
  split
  · rename_i hport
    have hzero : s.portTaken 0 = true := by
      unfold isOpen at hopen
      simp only [Bool.and_eq_true, decide_eq_true_eq] at hopen
      simp only [portTaken, List.any_eq_true, List.mem_range, Bool.and_eq_true, beq_iff_eq]
      exact ⟨vfd.toNat, by omega, hopen.2, hport⟩
    obtain ⟨i, hi, hfree⟩ := ephemeralPort_exists s s.nextEphemeral
    have hport := ephemeralPort_free s (show i < 4096 by omega) hfree
    unfold udpBind
    dsimp only
    rw [if_neg (by simp [hopen]), if_pos rfl, if_neg]
    intro h0
    rw [h0, hzero] at hport
    cases hport
  · rfl

theorem implicitBind_frame (s : VNet) (vfd : Int) :
    ∃ k n, (s.implicitBind vfd).1 = { s with socks := k, nextEphemeral := n } := by
  unfold implicitBind
  split
  · unfold udpBind
    dsimp only
    generalize (if (0 : U16) = 0 then s.ephemeralPort 4096 s.nextEphemeral else (0, s.nextEphemeral)) = found
    split
    · exact ⟨_, _, rfl⟩
    · split
      · exact ⟨_, _, rfl⟩
      · exact ⟨_, _, rfl⟩
  · exact ⟨_, _, rfl⟩

/-! ### The UDP datagram -/

theorem udpDatagram_fields (srcPort dstPort : U16) (buf : Mem) (len : Nat) :
    rd16 (udpDatagram srcPort dstPort buf len) Udp4.SrcPort = srcPort ∧
      rd16 (udpDatagram srcPort dstPort buf len) Udp4.DstPort = dstPort ∧
      rd16 (udpDatagram srcPort dstPort buf len) Udp4.Length = BitVec.ofNat 16 (Udp4.Header + len) ∧
      rd16 (udpDatagram srcPort dstPort buf len) Udp4.Csum = 0 ∧
      ((udpDatagram srcPort dstPort buf len).advance Udp4.Header).bytes len = buf.bytes len := by
  unfold udpDatagram
  dsimp only
  generalize hh : wr16 (wr16 (wr16 (wr16 Mem.zero Udp4.SrcPort srcPort) Udp4.DstPort dstPort) Udp4.Length
    (BitVec.ofNat 16 (Udp4.Header + len))) Udp4.Csum 0 = head
  have hhead : ∀ i, i + 1 < Udp4.Header → rd16 (memcpy head Udp4.Header buf len) i = rd16 head i :=
    fun i hi => rd16_congr (memcpy_outside _ _ _ _ _ (.inl (by omega))) (memcpy_outside _ _ _ _ _ (.inl hi))
  refine ⟨?_, ?_, ?_, ?_, ?_⟩
  · rw [hhead _ (by decide), ← hh]
    simp (disch := decide) only [rd16_wr16_other, rd16_wr16]
  · rw [hhead _ (by decide), ← hh]
    simp (disch := decide) only [rd16_wr16_other, rd16_wr16]
  · rw [hhead _ (by decide), ← hh]
    simp (disch := decide) only [rd16_wr16_other, rd16_wr16]
  · rw [hhead _ (by decide), ← hh, rd16_wr16]
  · exact Mem.bytes_congr fun i hi => memcpy_inside _ _ _ _ _ hi

theorem udpPseudo_toNat (srcIp dstIp : U32) {udpLen : Nat} (h : udpLen < 65536) :
    (udpPseudo srcIp dstIp udpLen).toNat =
      srcIp.toNat / 65536 + srcIp.toNat % 65536 + dstIp.toNat / 65536 + dstIp.toNat % 65536 + 17 + udpLen := by
  have hsrc := srcIp.isLt
  have hdst := dstIp.isLt
  have hproto : (IpProto_UDP.setWidth 32 : U32).toNat = 17 := rfl
  rw [udpPseudo]
  simp only [BitVec.toNat_add, low_toNat, high_toNat, hproto, BitVec.toNat_ofNat]
  omega

theorem udpPseudo_lt (srcIp dstIp : U32) (udpLen : Nat) (h : udpLen < 65536) :
    (udpPseudo srcIp dstIp udpLen).toNat < 2 ^ 31 := by
  have hsrc := srcIp.isLt
  have hdst := dstIp.isLt
  rw [udpPseudo_toNat srcIp dstIp h]
  omega

/-- A datagram with its checksum stored verifies, and its checksum is not the zero
that means "not computed". -/
theorem udpChecksum_verifies (srcIp dstIp : U32) (srcPort dstPort : U16) (buf : Mem) {len : Nat}
    (h : Udp4.Header + len < 65536) :
    udpChecksum srcIp dstIp (udpDatagram srcPort dstPort buf len) (Udp4.Header + len) ≠ 0 ∧
      checksum16 (wr16 (udpDatagram srcPort dstPort buf len) Udp4.Csum
        (udpChecksum srcIp dstIp (udpDatagram srcPort dstPort buf len) (Udp4.Header + len)))
        (Udp4.Header + len) (udpPseudo srcIp dstIp (Udp4.Header + len)) = 0 := by
  obtain ⟨-, -, -, hcsum, -⟩ := udpDatagram_fields srcPort dstPort buf len
  generalize udpDatagram srcPort dstPort buf len = p at hcsum
  have hhdr : Udp4.Header = 8 := rfl
  constructor
  · unfold udpChecksum
    dsimp only
    split
    · decide
    · assumption
  · refine checksum16_stored p 3 _ _ (by omega) (udpPseudo_lt _ _ _ h) (by omega) hcsum _ ?_
    unfold udpChecksum
    dsimp only
    split
    · rename_i h0
      exact .inr ⟨h0, rfl⟩
    · exact .inl rfl

end VNet

end SysZerotier.Net
