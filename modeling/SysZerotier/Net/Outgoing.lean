import SysZerotier.Net.Emit

/-! What a peer reads from the frames `sendIpv4` emits.

`Covers` is the receiver's side of fragmentation: every frame is a well-formed packet
of one datagram, says at which offset its bytes belong, and the offsets follow one
behind the other. `sendIpv4_covers` proves it of every datagram a configured
interface sends to a known neighbour, and that the loop producing the frames ends. -/
namespace SysZerotier.Net
open Library

/-! ### Reading a frame -/

namespace Frame

def packet (f : Frame) : Mem := Mem.ofBytes f.payload

def totalLen (f : Frame) : Nat := (rd16 f.packet Ip4.TotalLen).toNat

def key (f : Frame) : Key :=
  ⟨rd32 f.packet Ip4.Src, rd32 f.packet Ip4.Dst, rd16 f.packet Ip4.Id, f.packet Ip4.Proto⟩

/-- The offset in bytes; the field counts blocks of eight. -/
def fragOffset (f : Frame) : Nat := (rd16 f.packet Ip4.FlagsFrag &&& Ip4.FragOffsetMask).toNat * 8

def moreFragments (f : Frame) : Bool := rd16 f.packet Ip4.FlagsFrag &&& Ip4.FlagMoreFragments != 0

def data (f : Frame) : List U8 := f.payload.drop Ip4.MinHeader

end Frame

/-- The frame is an IPv4 packet with a plain header, sent to `dstMac`, that belongs to
the datagram `k` names and stays within the MTU. -/
structure OnWire (mtu : Nat) (dstMac : U64) (k : Key) (f : Frame) : Prop where
  dstMac : f.dstMac = dstMac
  etherType : f.etherType = EtherType_IPv4
  verIhl : f.packet Ip4.VerIhl = 0x45
  key : f.key = k
  totalLen : f.totalLen = f.payload.length
  fits : f.payload.length ≤ mtu
  checksum : checksum16 f.packet Ip4.MinHeader 0 = 0
  nonempty : f.data ≠ []

/-- The frames carry `bytes`, which start `off` bytes into the datagram, in order:
each starts where the one before it ended, all but the last announce more and hold
whole blocks of eight bytes. -/
inductive Covers (mtu : Nat) (dstMac : U64) (k : Key) : Nat → List U8 → List Frame → Prop
  | last {off : Nat} {f : Frame} (wire : OnWire mtu dstMac k f) (offset : f.fragOffset = off)
      (more : f.moreFragments = false) : Covers mtu dstMac k off f.data [f]
  | more {off : Nat} {bytes : List U8} {f : Frame} {rest : List Frame} (wire : OnWire mtu dstMac k f)
      (offset : f.fragOffset = off) (more : f.moreFragments = true) (blocks : 8 ∣ f.data.length)
      (covers : Covers mtu dstMac k (off + f.data.length) bytes rest) :
      Covers mtu dstMac k off (f.data ++ bytes) (f :: rest)

theorem Covers.nonempty {mtu : Nat} {dstMac : U64} {k : Key} {off : Nat} {bytes : List U8}
    {frames : List Frame} (h : Covers mtu dstMac k off bytes frames) : frames ≠ [] := by
  cases h with
  | last => exact List.cons_ne_nil _ _
  | more => exact List.cons_ne_nil _ _

/-- The frames put together give the bytes back. -/
theorem Covers.flatMap {mtu : Nat} {dstMac : U64} {k : Key} {off : Nat} {bytes : List U8}
    {frames : List Frame} (h : Covers mtu dstMac k off bytes frames) :
    frames.flatMap Frame.data = bytes := by
  induction h with
  | last => simp
  | more _ _ _ _ _ ih => rw [List.flatMap_cons, ih]

namespace VNet

/-! ### The loop without a bound -/

/-- `while (off < len)` of `sendIpv4`, run to its end. -/
inductive FragmentLoop (dstMac : U64) (dstIp : U32) (proto : U8) (id : U16) (payload : Mem)
    (len chunk : Nat) : VNet → Nat → VNet → List Frame → Prop
  | done {s : VNet} {off : Nat} (h : ¬off < len) :
      FragmentLoop dstMac dstIp proto id payload len chunk s off s []
  | round {s t : VNet} {off take : Nat} {sent : VNet × List Frame} {frames : List Frame} (h : off < len)
      (htake : take = if len - off > chunk then chunk else len - off)
      (hsent : sent = s.emitIpFragment dstMac dstIp proto id (BitVec.ofNat 16 (off / 8))
        (decide (off + take < len)) (payload.advance off) take)
      (rest : FragmentLoop dstMac dstIp proto id payload len chunk sent.1 (off + take) t frames) :
      FragmentLoop dstMac dstIp proto id payload len chunk s off t (sent.2 ++ frames)

/-- `sendIpv4` with its loop run to its end. -/
inductive Sending (s : VNet) (dstIp : U32) (proto : U8) (payload : Mem) (len : Nat) :
    VNet → List Frame → Prop
  | unknown (h : s.lookupMac dstIp = 0) :
      Sending s dstIp proto payload len (s.sendArpRequest dstIp).1 (s.sendArpRequest dstIp).2
  | single {sent : VNet × List Frame} (h : s.lookupMac dstIp ≠ 0) (hsmall : len ≤ s.mtu.toNat - Ip4.MinHeader)
      (hsent : sent = { s with ipId := s.ipId + 1 }.emitIpFragment (s.lookupMac dstIp) dstIp proto s.ipId 0
        false payload len) :
      Sending s dstIp proto payload len sent.1 sent.2
  | fragmented {t : VNet} {frames : List Frame} (h : s.lookupMac dstIp ≠ 0)
      (hlarge : ¬len ≤ s.mtu.toNat - Ip4.MinHeader)
      (hloop : FragmentLoop (s.lookupMac dstIp) dstIp proto s.ipId payload len
        ((s.mtu.toNat - Ip4.MinHeader) / 8 * 8) { s with ipId := s.ipId + 1 } 0 t frames) :
      Sending s dstIp proto payload len t frames

theorem sendFragments_loop (dstMac : U64) (dstIp : U32) (proto : U8) (id : U16) (payload : Mem)
    {len chunk : Nat} (hc : 0 < chunk) (fuel : Nat) (s : VNet) (off : Nat) (hf : len - off < fuel) :
    FragmentLoop dstMac dstIp proto id payload len chunk s off
      (sendFragments dstMac dstIp proto id payload len chunk fuel s off).1
      (sendFragments dstMac dstIp proto id payload len chunk fuel s off).2 := by
  induction fuel generalizing s off with
  | zero => omega
  | succ fuel ih =>
    rw [sendFragments]
    by_cases hmore : off < len
    · rw [if_pos hmore]
      refine .round hmore rfl rfl (ih _ _ ?_)
      split <;> omega
    · rw [if_neg hmore]
      exact .done hmore

/-- A chunk of at least one byte lets the loop end. -/
theorem sendIpv4_sending (s : VNet) (hmtu : AcceptedMtu s.mtu) (dstIp : U32) (proto : U8) (payload : Mem)
    (len : Nat) :
    Sending s dstIp proto payload len (s.sendIpv4 dstIp proto payload len).1
      (s.sendIpv4 dstIp proto payload len).2 := by
  have hmin : Ip4.MinHeader = 20 := rfl
  have hlow := hmtu.1
  unfold sendIpv4
  dsimp only
  split
  · exact .unknown ‹_›
  · split
    · exact .single ‹_› ‹_› rfl
    · exact .fragmented ‹_› ‹_› (sendFragments_loop _ _ _ _ _ (by omega) _ _ _ (by omega))

/-! ### The frames -/

/-- One packet of `emitIpFragment` as its receiver reads it. -/
theorem emitIpFragment_wire (s : VNet) (dstMac : U64) (dstIp : U32) (proto : U8) (id off : U16)
    (more : Bool) (payload : Mem) {len mtu : Nat} (hemit : s.emitSet = true) (hpos : 0 < len)
    (hfits : Ip4.MinHeader + len ≤ mtu) (hmtu : mtu ≤ MaxFrame) (hoff : off.toNat < 8192) :
    ∃ f : Frame, (s.emitIpFragment dstMac dstIp proto id off more payload len).2 = [f] ∧
      OnWire mtu dstMac ⟨s.ip, dstIp, id, proto⟩ f ∧ f.fragOffset = off.toNat * 8 ∧
      f.moreFragments = more ∧ f.data = payload.bytes len := by
  obtain ⟨pkt, hsent, hb⟩ := emitIpFragment_built s dstMac dstIp proto id off more payload len hemit (by omega)
  obtain ⟨hread, hflag⟩ := flagsFrag_read more off hoff
  have hdata : pkt.drop Ip4.MinHeader = payload.bytes len := by
    have hslice := Mem.bytes_slice (Mem.ofBytes pkt) (show Ip4.MinHeader + len ≤ pkt.length by rw [hb.length])
    rw [Mem.bytes_ofBytes, hb.data, List.take_of_length_le] at hslice
    · exact hslice
    · rw [List.length_drop, hb.length]
      omega
  refine ⟨⟨dstMac, EtherType_IPv4, pkt⟩, hsent, ⟨rfl, rfl, hb.fields.verIhl, ?_, ?_, ?_, hb.checksum, ?_⟩,
    ?_, ?_, hdata⟩
  · simp only [Frame.key, Frame.packet, hb.fields.src, hb.fields.dst, hb.fields.id, hb.fields.proto]
  · simp only [Frame.totalLen, Frame.packet, hb.totalLen (by omega), hb.length]
  · rw [hb.length]
    exact hfits
  · rw [Frame.data, hdata, ← List.length_pos_iff, Mem.bytes_length]
    exact hpos
  · simp only [Frame.fragOffset, Frame.packet, hb.fields.flagsFrag, hread]
  · simp only [Frame.moreFragments, Frame.packet, hb.fields.flagsFrag, hflag]

theorem sendFragments_covers (dstMac : U64) (dstIp : U32) (proto : U8) (id : U16) (payload : Mem)
    {len chunk mtu : Nat} (hc : 0 < chunk) (h8 : 8 ∣ chunk) (hfits : Ip4.MinHeader + chunk ≤ mtu)
    (hmtu : mtu ≤ MaxFrame) (hlen : len < 65536) (fuel : Nat) (s : VNet) (off : Nat)
    (hemit : s.emitSet = true) (hoff : 8 ∣ off) (hlt : off < len) (hf : len - off < fuel) :
    Covers mtu dstMac ⟨s.ip, dstIp, id, proto⟩ off ((payload.advance off).bytes (len - off))
      (sendFragments dstMac dstIp proto id payload len chunk fuel s off).2 := by
  induction fuel generalizing s off with
  | zero => omega
  | succ fuel ih =>
    rw [sendFragments, if_pos hlt]
    dsimp only
    generalize htake : (if len - off > chunk then chunk else len - off) = take
    obtain ⟨hpos, hchunk, hend, hfull⟩ := take_bounds hc hlt htake
    have hblocks := blocks_toNat off (by omega)
    obtain ⟨f, hf', hwire, hoffset, hmore, hdata⟩ := emitIpFragment_wire s dstMac dstIp proto id
      (BitVec.ofNat 16 (off / 8)) (decide (off + take < len)) (payload.advance off) hemit hpos
      (show Ip4.MinHeader + take ≤ mtu by omega) hmtu (by omega)
    have hsends := emitIpFragment_sends s dstMac dstIp proto id (BitVec.ofNat 16 (off / 8))
      (decide (off + take < len)) (payload.advance off) take
    generalize s.emitIpFragment dstMac dstIp proto id (BitVec.ofNat 16 (off / 8))
      (decide (off + take < len)) (payload.advance off) take = sent at hf' hsends ⊢
    rw [hblocks, Nat.div_mul_cancel hoff] at hoffset
    rw [hf']
    by_cases hlast : off + take < len
    · -- a full chunk, and the rest by induction
      have hfull := hfull hlast
      have hlength : f.data.length = take := by rw [hdata, Mem.bytes_length]
      have hsplit : (payload.advance off).bytes (len - off) =
          f.data ++ (payload.advance (off + take)).bytes (len - (off + take)) := by
        rw [hdata, ← Mem.advance_advance, ← List.take_append_drop take ((payload.advance off).bytes (len - off)),
          Mem.take_bytes, Nat.min_eq_left (by omega)]
        congr 1
        have hslice := Mem.bytes_slice (payload.advance off)
          (show take + (len - (off + take)) ≤ len - off by omega)
        rw [← hslice, List.take_of_length_le]
        rw [List.length_drop, Mem.bytes_length]
        omega
      have hip : sent.1.ip = s.ip := by rw [hsends.eq]
      have hemit' : sent.1.emitSet = true := by
        rw [hsends.eq]
        exact hemit
      have hrest := ih sent.1 (off + take) hemit' (Nat.dvd_add hoff (hfull ▸ h8)) hlast (by omega)
      rw [hip] at hrest
      rw [hsplit]
      refine .more hwire hoffset (by rw [hmore, decide_eq_true hlast]) ?_ ?_
      · rw [hlength, hfull]
        exact h8
      · rw [hlength]
        exact hrest
    · have hall : len - off = take := by omega
      have hnone : (sendFragments dstMac dstIp proto id payload len chunk fuel sent.1 (off + take)).2 = [] := by
        cases fuel with
        | zero => rfl
        | succ fuel => rw [sendFragments, if_neg hlast]
      rw [hnone, hall, ← hdata]
      exact .last hwire hoffset (by rw [hmore, decide_eq_false hlast])

/-- What a datagram sent to a known neighbour looks like on the wire, for every MTU
`configure` accepts. -/
theorem sendIpv4_wire (s : VNet) (hmtu : AcceptedMtu s.mtu) (dstIp : U32) (proto : U8) (payload : Mem)
    {len : Nat} (hemit : s.emitSet = true) (hmac : s.lookupMac dstIp ≠ 0) (hpos : 0 < len)
    (hlen : len < 65536) :
    Covers s.mtu.toNat (s.lookupMac dstIp) ⟨s.ip, dstIp, s.ipId, proto⟩ 0 (payload.bytes len)
      (s.sendIpv4 dstIp proto payload len).2 := by
  obtain ⟨hlow, hhigh⟩ := hmtu
  have hmin : Ip4.MinHeader = 20 := rfl
  have hmax : MaxFrame = 1520 := rfl
  unfold sendIpv4
  dsimp only
  rw [if_neg hmac]
  split
  · obtain ⟨f, hf, hwire, hoffset, hmore, hdata⟩ := emitIpFragment_wire { s with ipId := s.ipId + 1 }
      (s.lookupMac dstIp) dstIp proto s.ipId 0 false payload hemit hpos
      (show Ip4.MinHeader + len ≤ s.mtu.toNat by omega) (by omega) (by decide)
    rw [hf, ← hdata]
    exact .last hwire hoffset hmore
  · have hchunk : 0 < (s.mtu.toNat - Ip4.MinHeader) / 8 * 8 := by omega
    have hstart : payload.advance 0 = payload := by
      funext i
      rw [Mem.advance_apply, Nat.zero_add]
    have hcovers := sendFragments_covers (s.lookupMac dstIp) dstIp proto s.ipId payload hchunk
      (Nat.dvd_mul_left 8 _) (show Ip4.MinHeader + (s.mtu.toNat - Ip4.MinHeader) / 8 * 8 ≤ s.mtu.toNat by omega)
      (by omega) hlen (len + 1) { s with ipId := s.ipId + 1 } 0 hemit (Nat.dvd_zero 8) hpos (by omega)
    rw [hstart] at hcovers
    exact hcovers

theorem execAll_mtu {s : VNet} (h : AcceptedMtu s.mtu) (ops : List Op) : AcceptedMtu (s.execAll ops).1.mtu := by
  induction ops generalizing s with
  | nil => exact h
  | cons op ops ih =>
    apply ih
    rcases exec_mtu_cases s op with heq | haccepted
    · rw [heq]
      exact h
    · exact haccepted

/-- **Outgoing fragmentation is the one a peer expects.** Whatever happens after a
`configure`, a datagram of at most 2056 bytes to a neighbour whose MAC is known is
sent by a loop that ends, as frames of one IP id that stay within the MTU and cover
the datagram from its first byte to its last. -/
theorem sendIpv4_covers (s₀ : VNet) (mac : U64) (ip netmask : U32) (mtu : U16) (ops : List Op) (dstIp : U32)
    (proto : U8) (payload : Mem) (len : Nat)
    (hemit : ((s₀.configure mac ip netmask mtu).execAll ops).1.emitSet = true)
    (hmac : ((s₀.configure mac ip netmask mtu).execAll ops).1.lookupMac dstIp ≠ 0) (hpos : 0 < len)
    (hlen : len ≤ 2056) :
    let s := ((s₀.configure mac ip netmask mtu).execAll ops).1
    Sending s dstIp proto payload len (s.sendIpv4 dstIp proto payload len).1
        (s.sendIpv4 dstIp proto payload len).2 ∧
      Covers s.mtu.toNat (s.lookupMac dstIp) ⟨s.ip, dstIp, s.ipId, proto⟩ 0 (payload.bytes len)
        (s.sendIpv4 dstIp proto payload len).2 := by
  have haccepted := execAll_mtu (configure_mtu s₀ mac ip netmask mtu) ops
  exact ⟨sendIpv4_sending _ haccepted dstIp proto payload len,
    sendIpv4_wire _ haccepted dstIp proto payload hemit hmac hpos (by omega)⟩

/-- A thousand bytes broadcast over the smallest MTU. -/
theorem sendIpv4_covers_broadcast :
    Covers 576 MacBroadcast ⟨0x0A000002, IpBroadcast, 1, IpProto_UDP⟩ 0 (Mem.zero.bytes 1000)
      ((fresh.setEmit.configure 2 0x0A000002 0xFFFFFF00 576).sendIpv4 IpBroadcast IpProto_UDP Mem.zero
        1000).2 :=
  (sendIpv4_covers fresh.setEmit 2 0x0A000002 0xFFFFFF00 576 [] IpBroadcast IpProto_UDP Mem.zero 1000
    rfl (by decide) (by decide) (by decide)).2

end VNet

end SysZerotier.Net
