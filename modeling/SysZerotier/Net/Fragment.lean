import SysZerotier.Net.Fifo
import SysZerotier.Library.Cut

/-! Fragments on the wire and the datagrams they were cut from.

`fragment` reads an IPv4 packet the way `onIpv4` does and yields the fragment it
carries if it passes every check; `ipv4Input` then does nothing but `accept` that
fragment (`ipv4Input_some`). A `Sent` is a datagram with the way its sender cut
it. -/
namespace SysZerotier.Net
open Library

/-- What tells datagrams under reassembly apart. -/
structure Key where
  srcIp : U32
  dstIp : U32
  id : U16
  proto : U8
  deriving DecidableEq

structure Fragment where
  key : Key
  off : Nat
  more : Bool
  bytes : List U8
  deriving DecidableEq

/-- Offset zero and nothing to follow: no reassembly. -/
def Fragment.whole (f : Fragment) : Bool := f.off == 0 && !f.more

theorem Fragment.whole_iff (key : Key) (off : U16) (more : Bool) (bytes : List U8) :
    (Fragment.mk key off.toNat more bytes).whole = true ↔ off = 0 ∧ more = false := by
  simp only [Fragment.whole, Bool.and_eq_true, beq_iff_eq, Bool.not_eq_true']
  exact and_congr_left' ⟨fun h => BitVec.eq_of_toNat_eq h, fun h => by rw [h]; rfl⟩

/-- A datagram and the lengths of the fragments it was cut into. That all but the
last are multiples of eight is not asked: no header can carry the fragments of
another cut. -/
structure Sent where
  key : Key
  bytes : List U8
  lens : List Nat
  sum : lens.sum = bytes.length
  pos : ∀ n ∈ lens, 0 < n
  nonempty : bytes ≠ []

namespace Sent

def spans (d : Sent) : List Span := Library.spans 0 d.lens

def fragment (d : Sent) (a : Span) : Fragment :=
  ⟨d.key, a.off, decide (a.off + a.len < d.bytes.length), (d.bytes.drop a.off).take a.len⟩

def fragments (d : Sent) : List Fragment := d.spans.map d.fragment

variable {d : Sent} {a b : Span}

theorem stop_le (h : a ∈ d.spans) : a.off + a.len ≤ d.bytes.length := by
  have := (Cut.bounds h).2
  rw [d.sum] at this
  omega

theorem len_pos (h : a ∈ d.spans) : 0 < a.len := d.pos _ (Cut.len_mem h)

theorem fragment_length (h : a ∈ d.spans) : (d.fragment a).bytes.length = a.len := by
  have := stop_le h
  simp only [fragment, List.length_take, List.length_drop]
  omega

theorem fragment_byte (d : Sent) (a : Span) {i : Nat} (hi : i < a.len) :
    (d.fragment a).bytes[i]? = d.bytes[a.off + i]? := by
  simp only [fragment]
  rw [List.getElem?_take_of_lt hi, List.getElem?_drop]

theorem fragment_inj (ha : a ∈ d.spans) (hb : b ∈ d.spans) (h : d.fragment a = d.fragment b) : a = b :=
  Cut.eq_of_off ha hb (congrArg Fragment.off h) d.pos

theorem mem_fragments {f : Fragment} : f ∈ d.fragments ↔ ∃ a ∈ d.spans, d.fragment a = f := List.mem_map

/-- A fragment that needs no reassembly is the whole datagram. -/
theorem bytes_of_whole (h : a ∈ d.spans) (hw : (d.fragment a).whole = true) :
    (d.fragment a).bytes = d.bytes := by
  have hstop := stop_le h
  simp only [Fragment.whole, fragment, Bool.and_eq_true, beq_iff_eq, Bool.not_eq_true',
    decide_eq_false_iff_not, not_lt] at hw
  simp only [fragment, hw.1, List.drop_zero]
  exact List.take_of_length_le (by omega)

/-- Beside a fragment that needs no reassembly there is no other. -/
theorem eq_of_whole (ha : a ∈ d.spans) (hw : (d.fragment a).whole = true) (hb : b ∈ d.spans) : b = a := by
  by_contra hne
  have hlen := fragment_length ha
  rw [bytes_of_whole ha hw] at hlen
  have := stop_le ha
  have := stop_le hb
  have := len_pos hb
  have := Cut.apart ha hb (Ne.symm hne)
  omega

end Sent

namespace VNet

/-- The fragment an IPv4 packet carries, when it passes the checks of `onIpv4`. -/
def fragment (s : VNet) (p : Mem) (len : Nat) : Option Fragment :=
  let ihl := (p Ip4.VerIhl &&& (0x0F : U8)).toNat * 4
  let total := if len < (rd16 p Ip4.TotalLen).toNat then len else (rd16 p Ip4.TotalLen).toNat
  if len < Ip4.MinHeader ∨ (p Ip4.VerIhl >>> 4 ≠ 4 ∨ ihl < Ip4.MinHeader ∨ len < ihl) ∨
      checksum16 p ihl 0 ≠ 0 ∨ (rd16 p Ip4.TotalLen).toNat < ihl ∨ !s.isForUs (rd32 p Ip4.Dst) then none
  else
    some
      { key := ⟨rd32 p Ip4.Src, rd32 p Ip4.Dst, rd16 p Ip4.Id, p Ip4.Proto⟩
        off := ((rd16 p Ip4.FlagsFrag &&& Ip4.FragOffsetMask) * 8).toNat
        more := rd16 p Ip4.FlagsFrag &&& Ip4.FlagMoreFragments != 0
        bytes := (p.advance ihl).bytes (total - ihl) }

/-- What `onIpv4` does with a fragment. -/
def accept (s : VNet) (f : Fragment) (payload : Mem) : VNet × Option Packet :=
  if f.whole then (s, some ⟨f.key.srcIp, f.key.dstIp, f.key.proto, payload, f.bytes.length⟩)
  else
    s.reassemble f.key.srcIp f.key.dstIp f.key.id f.key.proto (BitVec.ofNat 16 f.off) f.more payload
      f.bytes.length

theorem accept_hears (s : VNet) (f : Fragment) (payload : Mem) : Hears s (s.accept f payload).1 := by
  unfold accept
  split
  · exact .refl s
  · exact reassemble_hears ..

theorem ipv4Input_none {s : VNet} {p : Mem} {len : Nat} (h : s.fragment p len = none) (srcMac : U64) :
    ∃ f, s.ipv4Input srcMac p len = (s.count f, none) := by
  unfold fragment at h
  unfold ipv4Input
  dsimp only at h ⊢
  split at h
  · rename_i hbad
    by_cases h1 : len < Ip4.MinHeader
    · rw [if_pos h1]
      exact ⟨fun t => { t with rxIp := t.rxIp + 1, dropMalformed := t.dropMalformed + 1 }, rfl⟩
    rw [if_neg h1]
    split
    · exact ⟨fun t => { t with rxIp := t.rxIp + 1, dropMalformed := t.dropMalformed + 1 }, rfl⟩
    rename_i h2
    split
    · exact ⟨fun t => { t with rxIp := t.rxIp + 1, dropBadChecksum := t.dropBadChecksum + 1 }, rfl⟩
    rename_i h3
    split
    · exact ⟨fun t => { t with rxIp := t.rxIp + 1, dropMalformed := t.dropMalformed + 1 }, rfl⟩
    rename_i h4
    have h5 : !s.isForUs (rd32 p Ip4.Dst) := by
      rcases hbad with h | h | h | h | h
      · exact absurd h h1
      · exact absurd h h2
      · exact absurd h h3
      · exact absurd h h4
      · exact h
    split
    · exact ⟨fun t => { t with rxIp := t.rxIp + 1, dropNotForUs := t.dropNotForUs + 1 }, rfl⟩
    · rename_i h6
      exact absurd h5 h6
  · cases h

def headerLen (p : Mem) : Nat := (p Ip4.VerIhl &&& (0x0F : U8)).toNat * 4

/-- What a fragment is read from: the bytes behind the header, as many as the length
field says and the packet has. -/
theorem fragment_reads {s : VNet} {p : Mem} {len : Nat} {f : Fragment} (h : s.fragment p len = some f) :
    f.key = ⟨rd32 p Ip4.Src, rd32 p Ip4.Dst, rd16 p Ip4.Id, p Ip4.Proto⟩ ∧ f.off < 65536 ∧
      f.bytes = (p.advance (headerLen p)).bytes
        ((if len < (rd16 p Ip4.TotalLen).toNat then len else (rd16 p Ip4.TotalLen).toNat) - headerLen p) := by
  unfold fragment at h
  dsimp only at h
  split at h
  · cases h
  · rw [← Option.some.inj h]
    exact ⟨rfl, BitVec.isLt _, rfl⟩

/-- A packet that carries a fragment teaches its sender's MAC, and the fragment is
accepted. -/
theorem ipv4Input_accept {s : VNet} {p : Mem} {len : Nat} {f : Fragment} (h : s.fragment p len = some f)
    (srcMac : U64) :
    s.ipv4Input srcMac p len =
      ((s.count fun t => { t with rxIp := t.rxIp + 1 }).learnMac (rd32 p Ip4.Src) srcMac).accept f
        (p.advance (headerLen p)) := by
  unfold fragment at h
  dsimp only at h
  split at h
  · cases h
  · rename_i hok
    simp only [not_or] at hok
    obtain ⟨h1, h2, h3, h4, h5⟩ := hok
    have h2' := not_or.mpr ⟨h2.1, not_or.mpr h2.2⟩
    rw [← Option.some.inj h]
    unfold ipv4Input accept headerLen
    dsimp only
    rw [if_neg h1, if_neg h2', if_neg h3, if_neg h4]
    have h5' : ¬(!(s.count fun t => { t with rxIp := t.rxIp + 1 }).isForUs (rd32 p Ip4.Dst)) = true := h5
    rw [if_neg h5', Mem.bytes_length]
    generalize (rd16 p Ip4.FlagsFrag &&& Ip4.FragOffsetMask) * 8 = off
    generalize (rd16 p Ip4.FlagsFrag &&& Ip4.FlagMoreFragments != 0) = more
    have hoff : BitVec.ofNat 16 off.toNat = off := by rw [BitVec.ofNat_toNat, BitVec.setWidth_eq]
    simp only [Fragment.whole_iff, hoff]

theorem ipv4Input_some {s : VNet} {p : Mem} {len : Nat} {f : Fragment} (h : s.fragment p len = some f)
    (srcMac : U64) :
    ∃ t payload, Hears s t ∧ t.reasm = s.reasm ∧ payload.bytes f.bytes.length = f.bytes ∧
      f.off < 65536 ∧ s.ipv4Input srcMac p len = t.accept f payload := by
  obtain ⟨-, hoff, hbytes⟩ := fragment_reads h
  refine ⟨_, _, (hears_count s _ rfl).trans (learnMac_hears ..), learnMac_reasm .., ?_, hoff,
    ipv4Input_accept h srcMac⟩
  rw [hbytes, Mem.bytes_length]

/-! ### Operations -/

/-- The fragment an operation brings in. -/
def inbound (s : VNet) : Op → Option Fragment
  | .onFrame _ dstMac etherType payload =>
    if s.takesIpv4 dstMac etherType payload then s.fragment (Mem.ofBytes payload) payload.length
    else none
  | _ => none

/-- The packet an operation hands to `deliverIpv4`. -/
def handed (s : VNet) : Op → Option Packet
  | .onFrame srcMac dstMac etherType payload =>
    if s.takesIpv4 dstMac etherType payload then
      ((s.count fun t => { t with rxFrames := t.rxFrames + 1 }).ipv4Input srcMac (Mem.ofBytes payload)
        payload.length).2
    else none
  | _ => none

/-- The fragments a run brings in, in order. -/
def inbounds (s : VNet) : List Op → List Fragment
  | [] => []
  | op :: rest => (s.inbound op).toList ++ (s.exec op).1.inbounds rest

/-- The packets a run hands to `deliverIpv4`, in order. -/
def handedAll (s : VNet) : List Op → List Packet
  | [] => []
  | op :: rest => (s.handed op).toList ++ (s.exec op).1.handedAll rest

theorem pushAll_still (a : Arrival) (l : List Nat) (s : VNet) : Still s (s.pushAll a l) := by
  induction l generalizing s with
  | nil => exact .refl s
  | cons i l ih =>
    obtain ⟨⟨f, p, q, t, heq⟩, -⟩ := pushToSocket_frame s i a.srcIp a.srcPort a.data a.len
    have hpush : Still s (s.pushToSocket i a.srcIp a.srcPort a.data a.len) := by
      rw [heq]
      exact ⟨rfl, rfl, rfl⟩
    exact hpush.trans (ih _)

theorem deliverIpv4_still (s : VNet) (k : Packet) : Still s (s.deliverIpv4 k).1 := by
  unfold deliverIpv4
  split
  · rename_i hudp
    cases ha : k.arrival with
    | none =>
      obtain ⟨f, -, heq⟩ := onUdp_none s hudp ha
      rw [heq]
      exact ⟨rfl, rfl, rfl⟩
    | some a =>
      obtain ⟨f, -, heq⟩ := onUdp_some s ha
      rw [heq]
      have hall := pushAll_still a ((s.listeners a).map Fin.val)
        (s.count fun t => { t with rxUdp := t.rxUdp + 1 })
      exact ⟨hall.reasm, hall.mtu, hall.configured⟩
  · split
    · exact (onIcmp_sends s k.srcIp k.payload k.len).still
    · exact .refl s

theorem onIpv4_still (s : VNet) (srcMac : U64) (p : Mem) (len : Nat) :
    Still (s.ipv4Input srcMac p len).1 (s.onIpv4 srcMac p len).1 := by
  unfold onIpv4
  split
  · rename_i heq
    rw [heq]
    exact .refl _
  · rename_i heq
    rw [heq]
    exact deliverIpv4_still ..

/-- A frame is heard, and what it carries is delivered. -/
theorem onFrame_effect (s : VNet) (srcMac dstMac : U64) (etherType : U16) (payload : List U8) :
    ∃ t, Hears s t ∧ Still t (s.onFrame srcMac dstMac etherType payload).1 := by
  by_cases hip : s.takesIpv4 dstMac etherType payload = true
  · rw [onFrame_ipv4 hip]
    have hrx := hears_count s (fun t => { t with rxFrames := t.rxFrames + 1 }) rfl
    exact ⟨_, hrx.trans (ipv4Input_hears ..), onIpv4_still ..⟩
  · exact ⟨_, (onFrame_other hip srcMac).1, .refl _⟩

theorem onFrame_mtu (s : VNet) (srcMac dstMac : U64) (etherType : U16) (payload : List U8) :
    (s.onFrame srcMac dstMac etherType payload).1.mtu = s.mtu := by
  obtain ⟨t, hears, still⟩ := onFrame_effect s srcMac dstMac etherType payload
  exact still.mtu.trans hears.mtu

/-- The MTUs `configure` takes over. -/
def AcceptedMtu (mtu : U16) : Prop := 576 ≤ mtu.toNat ∧ mtu.toNat ≤ MaxFrame - 14

theorem configure_mtu (s : VNet) (mac : U64) (ip netmask : U32) (mtu : U16) :
    AcceptedMtu (s.configure mac ip netmask mtu).mtu := by
  show AcceptedMtu (if 576 ≤ mtu.toNat ∧ mtu.toNat ≤ MaxFrame - 14 then mtu else 1500 : U16)
  split
  · assumption
  · exact (by decide : 576 ≤ (1500 : U16).toNat ∧ (1500 : U16).toNat ≤ MaxFrame - 14)

/-- An operation leaves the MTU alone or sets one that is accepted. -/
theorem exec_mtu_cases (s : VNet) (op : Op) :
    (s.exec op).1.mtu = s.mtu ∨ AcceptedMtu (s.exec op).1.mtu := by
  cases op with
  | reset => exact .inr (by decide : 576 ≤ (1500 : U16).toNat ∧ (1500 : U16).toNat ≤ MaxFrame - 14)
  | configure mac ip netmask mtu => exact .inr (configure_mtu s mac ip netmask mtu)
  | setEmit => exact .inl rfl
  | udpOpen => exact .inl (udpOpen_still s).mtu
  | udpBind vfd ip port => exact .inl (udpBind_still s vfd ip port).mtu
  | udpSetBroadcast vfd on => exact .inl (udpSetBroadcast_still s vfd on).mtu
  | onFrame srcMac dstMac etherType payload => exact .inl (onFrame_mtu s srcMac dstMac etherType payload)
  | udpRecvFrom vfd max peek => exact .inl (udpRecvFrom_still s vfd max peek).mtu
  | udpSendTo vfd dstIp dstPort buf => exact .inl (udpSendTo_still s vfd dstIp dstPort _ _).mtu
  | sendEchoRequest dstIp => exact .inl (sendEchoRequest_still s dstIp).mtu
  | udpClose vfd => exact .inl (udpClose_still s vfd).mtu

/-- An operation that brings in no fragment and resets nothing leaves the
reassembly slots alone. -/
theorem exec_quiet {s : VNet} {op : Op} (h : s.inbound op = none) (hr : op ≠ .reset) :
    (s.exec op).1.reasm = s.reasm ∧ s.handed op = none := by
  cases op with
  | reset => exact absurd rfl hr
  | configure | setEmit => exact ⟨rfl, rfl⟩
  | udpOpen => exact ⟨(udpOpen_still s).reasm, rfl⟩
  | udpBind vfd ip port => exact ⟨(udpBind_still s vfd ip port).reasm, rfl⟩
  | udpSetBroadcast vfd on => exact ⟨(udpSetBroadcast_still s vfd on).reasm, rfl⟩
  | udpRecvFrom vfd max peek => exact ⟨(udpRecvFrom_still s vfd max peek).reasm, rfl⟩
  | udpSendTo vfd dstIp dstPort buf => exact ⟨(udpSendTo_still ..).reasm, rfl⟩
  | sendEchoRequest dstIp => exact ⟨(sendEchoRequest_still ..).reasm, rfl⟩
  | udpClose vfd => exact ⟨(udpClose_still s vfd).reasm, rfl⟩
  | onFrame srcMac dstMac etherType payload =>
    show (s.onFrame srcMac dstMac etherType payload).1.reasm = _ ∧ _
    simp only [inbound, handed] at h ⊢
    by_cases hip : s.takesIpv4 dstMac etherType payload = true
    · rw [if_pos hip] at h ⊢
      have hrx : (s.count fun t => { t with rxFrames := t.rxFrames + 1 }).fragment (Mem.ofBytes payload)
        payload.length = none := h
      obtain ⟨f, heq⟩ := ipv4Input_none hrx srcMac
      rw [onFrame_ipv4 hip, (onIpv4_still ..).reasm, heq]
      exact ⟨rfl, rfl⟩
    · rw [if_neg hip]
      exact ⟨(onFrame_other hip srcMac).2, rfl⟩

/-- An operation that brings in a fragment accepts it. -/
theorem exec_inbound {s : VNet} {op : Op} {f : Fragment} (h : s.inbound op = some f) :
    ∃ (t : VNet) (payload : Mem), t.reasm = s.reasm ∧ payload.bytes f.bytes.length = f.bytes ∧ f.off < 65536 ∧
      (s.exec op).1.reasm = (t.accept f payload).1.reasm ∧ s.handed op = (t.accept f payload).2 := by
  cases op with
  | onFrame srcMac dstMac etherType payload =>
    simp only [inbound, handed] at h ⊢
    split at h
    · rename_i hip
      have hrx : (s.count fun t => { t with rxFrames := t.rxFrames + 1 }).fragment (Mem.ofBytes payload)
        payload.length = some f := h
      obtain ⟨t, bytes, -, hreasm, hbytes, hoff, heq⟩ := ipv4Input_some hrx srcMac
      refine ⟨t, bytes, hreasm, hbytes, hoff, ?_, ?_⟩
      · show (s.onFrame srcMac dstMac etherType payload).1.reasm = _
        rw [onFrame_ipv4 hip, (onIpv4_still ..).reasm, heq]
      · rw [if_pos hip, heq]
    · cases h
  | _ => cases h

end VNet

end SysZerotier.Net
