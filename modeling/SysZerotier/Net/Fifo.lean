import SysZerotier.Net.Pool
import SysZerotier.Library.Bank

/-! The packet pool is a bank of FIFO queues.

`Queues` says what the pool is for: every open socket owns a list of datagrams
and all lists together hold at most 32. `Models` relates a state to the queues it
implements, `exec_models` carries it over one operation, and
`pool_refines_queues` over every run from a reset. -/
namespace SysZerotier.Net
open Library

abbrev Queues := Bank MaxSockets PoolPackets Datagram

/-- What an operation does to the queues. -/
inductive QueueOp where
  | reset
  | udpOpen
  | udpClose (vfd : Int)
  | udpRecvFrom (vfd : Int) (max : Nat) (peek : Bool)
  | arrive (accepted : List (Fin MaxSockets × Datagram))

/-- What an operation shows of the queues: the descriptor opened, or the number of
bytes read (`-1` for none) and the datagram they are from. -/
structure Seen where
  ret : Int := 0
  received : Option Datagram := none
  deriving DecidableEq

def socketOf (vfd : Int) : Option (Fin MaxSockets) :=
  if h : 0 ≤ vfd ∧ vfd < MaxSockets then some ⟨vfd.toNat, by omega⟩ else none

def Datagram.truncate (d : Datagram) (max : Nat) : Datagram := { d with bytes := d.bytes.take max }

def Datagram.fits (d : Datagram) : Bool := decide (d.bytes.length ≤ MaxDatagram)

namespace Queues

def recv (b : Queues) (k : Fin MaxSockets) (max : Nat) (peek : Bool) : Queues × Seen :=
  match b.front k with
  | none => (b, { ret := -1 })
  | some d => (if peek then b else b.drop k, ⟨(d.truncate max).bytes.length, some (d.truncate max)⟩)

def step (b : Queues) : QueueOp → Queues × Seen
  | .reset => (.empty, {})
  | .udpOpen =>
    match b.firstClosed with
    | some k => (b.opened k, { ret := (k : Nat) })
    | none => (b, { ret := InvalidSocket })
  | .udpClose vfd => ((socketOf vfd).elim b b.closed, {})
  | .udpRecvFrom vfd max peek => (socketOf vfd).elim (b, { ret := -1 }) fun k => recv b k max peek
  | .arrive accepted => (b.putAll (accepted.filter fun item => item.2.fits), {})

def run (b : Queues) : List QueueOp → Queues × List Seen
  | [] => (b, [])
  | op :: rest => ((run (step b op).1 rest).1, (step b op).2 :: (run (step b op).1 rest).2)

end Queues

/-! ### What a frame brings -/

/-- A UDP datagram that passed the checks of `onUdp`. -/
structure Arrival where
  srcIp : U32
  dstIp : U32
  srcPort : U16
  dstPort : U16
  data : Mem
  len : Nat

def Arrival.datagram (a : Arrival) : Datagram := ⟨a.data.bytes a.len, a.srcIp, a.srcPort⟩

/-- The checks of `deliverIpv4` and `onUdp` before the socket loop. -/
def Packet.arrival (k : Packet) : Option Arrival :=
  let udpLen := VNet.udpLength k.payload k.len
  if k.proto ≠ IpProto_UDP ∨ k.len < Udp4.Header then none
  else if rd16 k.payload Udp4.Csum ≠ 0 ∧
      checksum16 k.payload udpLen (VNet.udpPseudo k.srcIp k.dstIp udpLen) ≠ 0 then none
  else
    some ⟨k.srcIp, k.dstIp, rd16 k.payload Udp4.SrcPort, rd16 k.payload Udp4.DstPort,
      k.payload.advance Udp4.Header, udpLen - Udp4.Header⟩

namespace VNet

/-- The datagram a frame completes, if it completes one that passes every check. -/
def arrival (s : VNet) (srcMac dstMac : U64) (etherType : U16) (payload : List U8) : Option Arrival :=
  if s.takesIpv4 dstMac etherType payload then
    ((s.count fun t => { t with rxFrames := t.rxFrames + 1 }).ipv4Input srcMac (Mem.ofBytes payload)
      payload.length).2.bind Packet.arrival
  else none

/-- The sockets bound to the arrival's port and address, in table order. -/
def listeners (s : VNet) (a : Arrival) : List (Fin MaxSockets) :=
  (List.finRange MaxSockets).filter fun k => s.listens k a.dstIp a.dstPort

/-- The datagrams a frame is accepted as, each with its socket. -/
def accepted (s : VNet) (srcMac dstMac : U64) (etherType : U16) (payload : List U8) :
    List (Fin MaxSockets × Datagram) :=
  match s.arrival srcMac dstMac etherType payload with
  | none => []
  | some a => (s.listeners a).map fun k => (k, a.datagram)

/-- What an operation is to the queues. -/
def queueOp (s : VNet) : Op → QueueOp
  | .reset => .reset
  | .udpOpen => .udpOpen
  | .udpClose vfd => .udpClose vfd
  | .udpRecvFrom vfd max peek => .udpRecvFrom vfd max peek
  | .onFrame srcMac dstMac etherType payload => .arrive (s.accepted srcMac dstMac etherType payload)
  | _ => .arrive []

def queueOps (s : VNet) : List Op → List QueueOp
  | [] => []
  | op :: rest => s.queueOp op :: (s.exec op).1.queueOps rest

/-- The part of a reply that shows the queues. -/
def Reply.seen (r : Reply) : Op → Seen
  | .udpOpen => { ret := r.ret }
  | .udpRecvFrom .. => ⟨r.ret, r.received⟩
  | _ => {}

/-! ### The relation -/

/-- The lists a state's queues spell out. -/
def Spells (s : VNet) (q : Fin MaxSockets → List Nat) (b : Queues) : Prop :=
  ∀ k : Fin MaxSockets, b.queue k = if (s.socks k).used then some ((q k).map s.datagram) else none

/-- The state implements the queues. -/
structure Models (s : VNet) (b : Queues) : Prop where
  shape : ∃ free q, PoolShape s free q ∧ Spells s q b
  refused : s.stats.dropNoBuffer = BitVec.ofNat 32 b.refused

theorem Spells.held {s : VNet} {q : Fin MaxSockets → List Nat} {b : Queues} {free : List Nat}
    (h : Spells s q b) (hs : PoolShape s free q) : b.held = ∑ k, (q k).length := by
  unfold Bank.held
  refine Finset.sum_congr rfl fun k _ => ?_
  rw [h k]
  by_cases hu : (s.socks k).used
  · rw [if_pos hu, Option.getD_some, List.length_map]
  · rw [if_neg hu, hs.closed k (by simpa using hu)]
    rfl

/-- The pool has a slot to spare just when the bank has a place. -/
theorem Spells.room {s : VNet} {q : Fin MaxSockets → List Nat} {b : Queues} {free : List Nat}
    (h : Spells s q b) (hs : PoolShape s free q) : free ≠ [] ↔ b.held < PoolPackets := by
  have hlen := hs.shares.length
  have hheld := h.held hs
  rw [← List.length_pos_iff]
  omega

theorem Models.of_samePool {s t : VNet} {b : Queues} (h : Models s b) (hp : SamePool s t)
    (hr : t.stats.dropNoBuffer = s.stats.dropNoBuffer) : Models t b := by
  obtain ⟨⟨free, q, hs, hq⟩, hrefused⟩ := h
  refine ⟨⟨free, q, hp.shape hs, fun k => ?_⟩, hr.trans hrefused⟩
  rw [hq k, hp.used, hp.datagram]

theorem Models.sends {s t : VNet} {b : Queues} (h : Models s b) (hs : Sends s t) : Models t b :=
  h.of_samePool hs.samePool hs.refused

theorem Models.hears {s t : VNet} {b : Queues} (h : Models s b) (hs : Hears s t) : Models t b :=
  h.of_samePool hs.samePool hs.refused

/-! ### Appending -/

/-- What appending leaves alone. -/
theorem pushToSocket_frame (s : VNet) (k : Nat) (srcIp : U32) (srcPort : U16) (data : Mem) (len : Nat) :
    (∃ f p q t, s.pushToSocket k srcIp srcPort data len =
      { s with freeList := f, pool := p, socks := q, stats := t }) ∧
    ∀ i, ((s.pushToSocket k srcIp srcPort data len).socks i).used = (s.socks i).used ∧
      ((s.pushToSocket k srcIp srcPort data len).socks i).localIp = (s.socks i).localIp ∧
      ((s.pushToSocket k srcIp srcPort data len).socks i).localPort = (s.socks i).localPort := by
  have hself : ∀ (t : VNet) (v : Socket), v.used = (t.socks k).used → v.localIp = (t.socks k).localIp →
      v.localPort = (t.socks k).localPort → ∀ i, ((t.setSock k v).socks i).used = (t.socks i).used ∧
        ((t.setSock k v).socks i).localIp = (t.socks i).localIp ∧
        ((t.setSock k v).socks i).localPort = (t.socks i).localPort := by
    intro t v hu hi hp i
    by_cases hik : i = k
    · subst hik
      simp only [setSock, Function.update_self]
      exact ⟨hu, hi, hp⟩
    · rw [show (t.setSock k v).socks i = t.socks i from Function.update_of_ne hik ..]
      exact ⟨rfl, rfl, rfl⟩
  by_cases hl : MaxDatagram < len
  · rw [pushToSocket_tooBig s k srcIp srcPort data len hl]
    exact ⟨⟨_, _, _, _, rfl⟩, fun i => ⟨rfl, rfl, rfl⟩⟩
  · by_cases hf : s.freeList < 0
    · rw [pushToSocket_full s k srcIp srcPort data len hf (by omega)]
      exact ⟨⟨_, _, _, _, rfl⟩, fun i => ⟨rfl, rfl, rfl⟩⟩
    · unfold pushToSocket
      rw [if_neg hl]
      simp only [allocPkt, hf, if_false]
      split
      · exact ⟨⟨_, _, _, _, rfl⟩, hself _ _ rfl rfl rfl⟩
      · exact ⟨⟨_, _, _, _, rfl⟩, hself _ _ rfl rfl rfl⟩

theorem pushToSocket_listens (s : VNet) (k : Nat) (srcIp : U32) (srcPort : U16) (data : Mem)
    (len : Nat) : (s.pushToSocket k srcIp srcPort data len).listens = s.listens := by
  obtain ⟨⟨f, p, q, t, heq⟩, hsock⟩ := pushToSocket_frame s k srcIp srcPort data len
  funext i dstIp dstPort
  have hb : (s.pushToSocket k srcIp srcPort data len).isBroadcast dstIp = s.isBroadcast dstIp := by
    rw [heq]
    rfl
  simp only [listens, (hsock i).1, (hsock i).2.1, (hsock i).2.2, hb]

/-- Appending a datagram to an open socket puts it into the socket's queue. -/
theorem Models.push {s : VNet} {b : Queues} (h : Models s b) (k : Fin MaxSockets)
    (hu : (s.socks k).used = true) (srcIp : U32) (srcPort : U16) (data : Mem) (len : Nat) :
    Models (s.pushToSocket k srcIp srcPort data len)
      (if len ≤ MaxDatagram then b.put k ⟨data.bytes len, srcIp, srcPort⟩ else b) := by
  obtain ⟨⟨free, q, hs, hq⟩, hrefused⟩ := h
  by_cases hl : len ≤ MaxDatagram
  · rw [if_pos hl]
    have hopen : b.queue k = some ((q k).map s.datagram) := by rw [hq k, if_pos hu]
    cases hfree : free with
    | nil =>
      subst hfree
      have hf : s.freeList < 0 := hs.freeChain.head_neg.mpr rfl
      have hfull : ¬b.held < PoolPackets := fun hr => (hq.room hs).mpr hr rfl
      rw [pushToSocket_full s k srcIp srcPort data len hf hl,
        Bank.put_refused (by rw [hopen]; exact Option.some_ne_none _) hfull]
      have hsame : SamePool s (s.count fun t => { t with dropNoBuffer := t.dropNoBuffer + 1 }) :=
        .of_socks rfl rfl rfl
      refine ⟨⟨[], q, hsame.shape hs, hq⟩, ?_⟩
      show s.stats.dropNoBuffer + 1 = BitVec.ofNat 32 (b.refused + 1)
      rw [hrefused, BitVec.ofNat_add]
      rfl
    | cons i free =>
      subst hfree
      have hf : s.freeList = i := hs.freeChain.1
      have htail : (s.socks k).qTail ≠ i := by
        intro he
        have ht := hs.tail k
        rw [he] at ht
        have hne : q k ≠ [] := fun h0 => by rw [h0] at ht; simp [Links.tail] at ht
        obtain ⟨front, t, hqk, htt⟩ := Links.eq_append_tail hne
        rw [htt] at ht
        have hit : i = t := by omega
        exact hs.shares.free_not_queue (i := i) (List.mem_cons_self ..) k (by rw [hqk, hit]; simp)
      have hp := pushToSocket_pushes s k i srcIp srcPort data len hf hl htail
      have hshape := hs.push k hu (by simpa using hl) hp
      obtain ⟨hput, hputr⟩ := Bank.put_queue ⟨data.bytes len, srcIp, srcPort⟩ hopen
        ((hq.room hs).mp (List.cons_ne_nil _ _))
      refine ⟨⟨free, _, hshape, fun m => ?_⟩, ?_⟩
      · have hused := ((pushToSocket_frame s k srcIp srcPort data len).2 m).1
        have hold : ∀ j ∈ q m, Function.update s.datagram i ⟨data.bytes len, srcIp, srcPort⟩ j =
            s.datagram j := by
          intro j hj
          refine Function.update_of_ne ?_ ..
          rintro rfl
          exact hs.shares.free_not_queue (List.mem_cons_self ..) m hj
        rw [hput, hused, hp.datagram]
        by_cases hm : m = k
        · subst hm
          rw [Function.update_self, Function.update_self, if_pos hu, List.map_append,
            List.map_congr_left hold, List.map_singleton, Function.update_self]
        · rw [Function.update_of_ne hm, Function.update_of_ne hm, hq m, List.map_congr_left hold]
      · rw [hputr, ← hrefused, hp.eq]
  · rw [if_neg hl, pushToSocket_tooBig s k srcIp srcPort data len (by omega)]
    exact (Models.mk ⟨free, q, hs, hq⟩ hrefused).of_samePool (.of_socks rfl rfl rfl) rfl

/-- The socket loop hands the datagram to each listener of the state it started in. -/
theorem udpDemux_eq (srcIp dstIp : U32) (srcPort dstPort : U16) (data : Mem) (len : Nat) (l : List Nat)
    (s : VNet) (delivered : Bool) :
    udpDemux srcIp dstIp srcPort dstPort data len l s delivered =
      ((l.filter fun i => s.listens i dstIp dstPort).foldl
        (fun s i => s.pushToSocket i srcIp srcPort data len) s,
        delivered || l.any fun i => s.listens i dstIp dstPort) := by
  induction l generalizing s delivered with
  | nil => simp [udpDemux]
  | cons i l ih =>
    unfold udpDemux
    by_cases h : s.listens i dstIp dstPort
    · rw [if_pos h, ih, pushToSocket_listens, List.filter_cons, if_pos h, List.foldl_cons,
        List.any_cons, h]
      simp
    · rw [if_neg h, ih, List.filter_cons, if_neg h, List.any_cons]
      simp [h]

/-- One datagram appended to several sockets in turn. -/
def pushAll (s : VNet) (a : Arrival) (l : List Nat) : VNet :=
  l.foldl (fun s i => s.pushToSocket i a.srcIp a.srcPort a.data a.len) s

theorem Models.pushAll (a : Arrival) (l : List (Fin MaxSockets)) {s : VNet} {b : Queues} (h : Models s b)
    (hl : ∀ k ∈ l, (s.socks k).used = true) :
    Models (s.pushAll a (l.map Fin.val))
      (b.putAll ((l.map fun k => (k, a.datagram)).filter fun item => item.2.fits)) := by
  induction l generalizing s b with
  | nil => exact h
  | cons k l ih =>
    have hpush := h.push k (hl k (List.mem_cons_self ..)) a.srcIp a.srcPort a.data a.len
    have hopen : ∀ m ∈ l, ((s.pushToSocket k a.srcIp a.srcPort a.data a.len).socks m).used = true := by
      intro m hm
      rw [((pushToSocket_frame s k a.srcIp a.srcPort a.data a.len).2 m).1]
      exact hl m (List.mem_cons_of_mem k hm)
    have hrest := ih hpush hopen
    have hfits : a.datagram.fits = decide (a.len ≤ MaxDatagram) := by
      simp [Datagram.fits, Arrival.datagram]
    rw [VNet.pushAll, List.map_cons, List.foldl_cons, List.map_cons, List.filter_cons]
    by_cases hle : a.len ≤ MaxDatagram
    · simp only [hfits, hle, decide_true, if_true] at hrest ⊢
      exact hrest
    · simp only [hfits, hle, decide_false, if_false] at hrest ⊢
      exact hrest

/-! ### One frame -/

theorem listeners_val (s : VNet) (a : Arrival) :
    (s.listeners a).map Fin.val =
      (List.range MaxSockets).filter fun i => s.listens i a.dstIp a.dstPort := by
  rw [listeners, ← List.map_coe_finRange_eq_range, List.filter_map]
  rfl

theorem listeners_used {s : VNet} {a : Arrival} {k : Fin MaxSockets} (h : k ∈ s.listeners a) :
    (s.socks k).used = true := by
  have := (List.mem_filter.mp h).2
  unfold listens at this
  simp only [Bool.and_eq_true] at this
  exact this.1.1

/-- `onUdp` on a packet that is no datagram only counts. -/
theorem onUdp_none (s : VNet) {k : Packet} (hk : k.proto = IpProto_UDP) (h : k.arrival = none) :
    ∃ f : Stats → Stats, (f s.stats).dropNoBuffer = s.stats.dropNoBuffer ∧
      s.onUdp k.srcIp k.dstIp k.payload k.len = s.count f := by
  unfold Packet.arrival at h
  unfold onUdp
  dsimp only at h ⊢
  by_cases hlen : k.len < Udp4.Header
  · rw [if_pos hlen]
    exact ⟨fun t => { t with rxUdp := t.rxUdp + 1, dropMalformed := t.dropMalformed + 1 }, rfl, rfl⟩
  · rw [if_neg (by simp only [hk, hlen, ne_eq, not_true_eq_false, or_self, not_false_eq_true])] at h
    rw [if_neg hlen]
    split at h
    · rename_i hc
      rw [if_pos hc]
      exact ⟨fun t => { t with rxUdp := t.rxUdp + 1, dropBadChecksum := t.dropBadChecksum + 1 }, rfl, rfl⟩
    · cases h

/-- `onUdp` on a datagram appends it to every listener and counts. -/
theorem onUdp_some (s : VNet) {k : Packet} {a : Arrival} (h : k.arrival = some a) :
    ∃ f : Stats → Stats, (∀ t, (f t).dropNoBuffer = t.dropNoBuffer) ∧
      s.onUdp k.srcIp k.dstIp k.payload k.len =
        ((s.count fun t => { t with rxUdp := t.rxUdp + 1 }).pushAll a
          ((s.listeners a).map Fin.val)).count f := by
  unfold Packet.arrival at h
  dsimp only at h
  split at h
  · cases h
  · rename_i hlen
    split at h
    · cases h
    · rename_i hc
      rw [← Option.some.inj h, listeners_val, pushAll]
      unfold onUdp
      dsimp only
      rw [if_neg fun hl => hlen (.inr hl), if_neg hc, udpDemux_eq]
      split
      · exact ⟨id, fun _ => rfl, rfl⟩
      · exact ⟨fun t =>
          { t with
            dropNoSocket := t.dropNoSocket + 1
            lastNoSocketSrcIp := k.srcIp
            lastNoSocketSrcPort := rd16 k.payload Udp4.SrcPort
            lastNoSocketDstPort := rd16 k.payload Udp4.DstPort
            lastNoSocketLen := BitVec.ofNat 16 (udpLength k.payload k.len - Udp4.Header) },
          fun _ => rfl, rfl⟩

theorem Models.count {s : VNet} {b : Queues} (h : Models s b) (f : Stats → Stats)
    (hf : (f s.stats).dropNoBuffer = s.stats.dropNoBuffer) : Models (s.count f) b :=
  h.of_samePool (.of_socks rfl rfl rfl) hf

theorem Hears.listeners {s t : VNet} (h : Hears s t) : t.listeners = s.listeners := by
  rw [h.eq]
  rfl

/-- Delivering a packet puts the datagram it carries into the queues of its listeners. -/
theorem Models.deliver {s : VNet} {b : Queues} (h : Models s b) (k : Packet) :
    Models (s.deliverIpv4 k).1
      (b.putAll ((k.arrival.elim [] fun a => (s.listeners a).map fun m => (m, a.datagram)).filter
        fun item => item.2.fits)) := by
  unfold deliverIpv4
  by_cases hudp : k.proto = IpProto_UDP
  · rw [if_pos hudp]
    cases ha : k.arrival with
    | none =>
      obtain ⟨f, hf, heq⟩ := onUdp_none s hudp ha
      rw [heq]
      exact h.count f hf
    | some a =>
      obtain ⟨f, hf, heq⟩ := onUdp_some s ha
      rw [heq]
      have hrx : Models (s.count fun t => { t with rxUdp := t.rxUdp + 1 }) b := h.count _ rfl
      exact (hrx.pushAll a (s.listeners a) fun m hm => listeners_used (s := s) hm).count f (hf _)
  · have hnone : k.arrival = none := by
      unfold Packet.arrival
      exact if_pos (.inl hudp)
    rw [if_neg hudp, hnone]
    split
    · exact h.sends (onIcmp_sends ..)
    · exact h

theorem Models.onFrame {s : VNet} {b : Queues} (h : Models s b) (srcMac dstMac : U64) (etherType : U16)
    (payload : List U8) :
    Models (s.onFrame srcMac dstMac etherType payload).1
      (b.putAll ((s.accepted srcMac dstMac etherType payload).filter fun item => item.2.fits)) := by
  unfold accepted arrival
  by_cases hip : s.takesIpv4 dstMac etherType payload = true
  · rw [if_pos hip, onFrame_ipv4 hip]
    have hrx : Models (s.count fun t => { t with rxFrames := t.rxFrames + 1 }) b := h.count _ rfl
    have hl : (s.count fun t => { t with rxFrames := t.rxFrames + 1 }).listeners = s.listeners := rfl
    generalize (s.count fun t => { t with rxFrames := t.rxFrames + 1 }) = s' at hrx hl ⊢
    have hears := ipv4Input_hears s' srcMac (Mem.ofBytes payload) payload.length
    unfold onIpv4
    generalize s'.ipv4Input srcMac (Mem.ofBytes payload) payload.length = r at hears ⊢
    obtain ⟨t, pkt⟩ := r
    cases pkt with
    | none => exact hrx.hears hears
    | some k =>
      have hd := (hrx.hears hears).deliver k
      dsimp only at hears hd ⊢
      rw [hears.listeners, hl] at hd
      rw [Option.bind_some]
      cases ha : k.arrival with
      | none => rw [ha] at hd; exact hd
      | some a => rw [ha] at hd; exact hd
  · rw [if_neg hip]
    exact h.hears (onFrame_other hip srcMac).1

/-! ### Reading, closing, opening -/

theorem socketOf_val (k : Fin MaxSockets) : socketOf (k : Nat) = some k := by
  have hr : (0 : Int) ≤ (k : Nat) ∧ ((k : Nat) : Int) < MaxSockets := by
    have := k.isLt
    omega
  unfold socketOf
  rw [dif_pos hr]
  rfl

theorem socketOf_eq_some {vfd : Int} {k : Fin MaxSockets} (h : socketOf vfd = some k) :
    vfd.toNat = k ∧ 0 ≤ vfd ∧ vfd < MaxSockets := by
  unfold socketOf at h
  split at h
  · rename_i hr
    rw [← Option.some.inj h]
    exact ⟨rfl, hr⟩
  · cases h

/-- A descriptor is open just when it names an open queue. -/
theorem Models.isOpen {s : VNet} {b : Queues} (h : Models s b) (vfd : Int) :
    s.isOpen vfd = ((socketOf vfd).bind b.queue).isSome := by
  obtain ⟨⟨free, q, -, hq⟩, -⟩ := h
  unfold VNet.isOpen socketOf
  by_cases hr : 0 ≤ vfd ∧ vfd < MaxSockets
  · rw [dif_pos hr, Option.bind_some, hq]
    simp only [hr.1, hr.2, decide_true, Bool.true_and]
    cases (s.socks vfd.toNat).used <;> rfl
  · rw [dif_neg hr, Option.bind_none]
    simp only [Option.isSome_none, Bool.and_eq_false_imp, Bool.and_eq_true, decide_eq_true_eq]
    intro hr'
    exact absurd hr' hr

/-- What a read shows is the head of the queue, cut to the buffer. -/
theorem udpRecvFrom_front {s : VNet} {b : Queues} (h : Models s b) (vfd : Int) (max : Nat) (peek : Bool) :
    (s.udpRecvFrom vfd max peek).2 = (((socketOf vfd).bind b.front).map fun d => d.truncate max) := by
  have hopen := h.isOpen vfd
  obtain ⟨⟨free, q, hs, hq⟩, -⟩ := h
  unfold udpRecvFrom
  cases hk : socketOf vfd with
  | none =>
    rw [hk] at hopen
    rw [if_pos (by rw [hopen]; rfl)]
    rfl
  | some k =>
    obtain ⟨hval, -, -⟩ := socketOf_eq_some hk
    rw [hk, Option.bind_some, hq k] at hopen
    rw [Option.bind_some, Bank.front, hq k, hopen, hval]
    by_cases hu : (s.socks k).used
    · rw [if_pos hu]
      have hchain := hs.chain k
      cases hqk : q k with
      | nil =>
        rw [hqk] at hchain
        have hneg : (s.socks k).qHead < 0 := hchain.head_neg.mpr rfl
        simp [hneg]
      | cons i l =>
        rw [hqk] at hchain
        have hhead := hchain.1
        have htake : (s.pool i).data.bytes
            (if (s.pool i).len.toNat < max then (s.pool i).len.toNat else max) =
            ((s.pool i).data.bytes (s.pool i).len.toNat).take max := by
          rw [Mem.take_bytes, Nat.min_def]
          congr 1
          split <;> split <;> omega
        have hneg : ¬(i : Int) < 0 := by omega
        simp only [Option.isSome_some, Bool.not_true, Bool.false_eq_true, if_false, hhead, hneg,
          Int.toNat_natCast, htake]
        cases peek <;> rfl
    · rw [if_neg hu]
      rfl

theorem udpRecvFrom_peek (s : VNet) (vfd : Int) (max : Nat) : (s.udpRecvFrom vfd max true).1 = s := by
  unfold udpRecvFrom
  dsimp only
  split
  · rfl
  · split <;> rfl

theorem udpRecvFrom_none {s : VNet} {vfd : Int} {max : Nat} {peek : Bool}
    (h : (s.udpRecvFrom vfd max peek).2 = none) : (s.udpRecvFrom vfd max peek).1 = s := by
  unfold udpRecvFrom at h ⊢
  dsimp only at h ⊢
  split
  · rfl
  · rename_i hopen
    rw [if_neg hopen] at h
    split
    · rfl
    · rename_i hhead
      rw [if_neg hhead] at h
      cases peek <;> cases h

/-- A read that shows a datagram consumes it. -/
theorem udpRecvFrom_some {s : VNet} {vfd : Int} {max : Nat} {d : Datagram}
    (h : (s.udpRecvFrom vfd max false).2 = some d) :
    (s.udpRecvFrom vfd max false).1 = s.popped vfd.toNat := by
  unfold udpRecvFrom at h ⊢
  dsimp only at h ⊢
  split
  · rename_i hopen
    rw [if_pos hopen] at h
    cases h
  · rename_i hopen
    rw [if_neg hopen] at h
    split
    · rename_i hhead
      rw [if_pos hhead] at h
      cases h
    · rfl

theorem Models.popped {s : VNet} {b : Queues} (h : Models s b) (k : Fin MaxSockets)
    (hf : b.front k ≠ none) : Models (s.popped k) (b.drop k) := by
  obtain ⟨⟨free, q, hs, hq⟩, hrefused⟩ := h
  have hu : (s.socks k).used = true := by
    by_contra hu
    exact hf (by rw [Bank.front, hq k, if_neg hu]; rfl)
  cases hqk : q k with
  | nil => exact absurd (by rw [Bank.front, hq k, if_pos hu, hqk]; rfl) hf
  | cons i l =>
    obtain ⟨hshape, hdata, hused⟩ := hs.pop k hqk
    refine ⟨⟨_, _, hshape, fun m => ?_⟩, ?_⟩
    · rw [hused, hdata]
      by_cases hm : m = k
      · subst hm
        simp only [Bank.drop, Bank.shrink, Function.update_self, hq m, hu, if_true, hqk, List.map_cons,
          Option.map_some, List.tail_cons]
      · simp only [Bank.drop, Bank.shrink, Function.update_of_ne hm]
        exact hq m
    · have hlt : i < PoolPackets := hs.shares.lt_of_queue (by rw [hqk]; exact List.mem_cons_self ..)
      have hhead : (s.socks k).qHead = i := by
        have := hs.chain k
        rw [hqk] at this
        exact this.1
      rw [VNet.popped, hhead, freePkt_eq _ hlt]
      exact hrefused

theorem Models.recv {s : VNet} {b : Queues} (h : Models s b) (vfd : Int) (max : Nat) (peek : Bool) :
    Models (s.udpRecvFrom vfd max peek).1 (b.step (.udpRecvFrom vfd max peek)).1 := by
  have hfront := udpRecvFrom_front h vfd max peek
  dsimp only [Queues.step]
  cases hk : socketOf vfd with
  | none =>
    have hopen := h.isOpen vfd
    rw [hk] at hopen
    unfold udpRecvFrom
    rw [if_pos (by rw [hopen]; rfl)]
    exact h
  | some k =>
    rw [hk, Option.bind_some] at hfront
    rw [Option.elim_some, Queues.recv]
    cases peek with
    | true =>
      rw [udpRecvFrom_peek]
      cases b.front k <;> exact h
    | false =>
      cases hb : b.front k with
      | none =>
        rw [hb] at hfront
        rw [udpRecvFrom_none hfront]
        exact h
      | some d =>
        rw [hb] at hfront
        rw [udpRecvFrom_some hfront, (socketOf_eq_some hk).1]
        exact h.popped k (by rw [hb]; exact Option.some_ne_none d)

theorem Models.close {s : VNet} {b : Queues} (h : Models s b) (vfd : Int) :
    Models (s.udpClose vfd) (b.step (.udpClose vfd)).1 := by
  have hopen := h.isOpen vfd
  unfold udpClose
  dsimp only [Queues.step]
  cases hk : socketOf vfd with
  | none =>
    rw [hk] at hopen
    rw [if_pos (by rw [hopen]; rfl)]
    exact h
  | some k =>
    rw [hk, Option.bind_some] at hopen
    rw [Option.elim_some, (socketOf_eq_some hk).1]
    cases hb : b.queue k with
    | none =>
      rw [hb] at hopen
      rw [if_pos (by rw [hopen]; rfl)]
      have hsame : b.closed k = b := by
        refine Bank.ext (fun m => ?_) rfl
        by_cases hm : m = k
        · subst hm
          rw [hb]
          exact Function.update_self ..
        · exact Function.update_of_ne hm ..
      rw [hsame]
      exact h
    | some l =>
      rw [hb] at hopen
      rw [if_neg (by rw [hopen]; simp)]
      show Models (s.closedSock k) (b.closed k)
      obtain ⟨⟨free, q, hs, hq⟩, hrefused⟩ := h
      obtain ⟨hshape, hdata, heq⟩ := hs.close k
      refine ⟨⟨_, _, hshape, fun m => ?_⟩, ?_⟩
      · rw [hdata, show (s.closedSock k).socks = Function.update s.socks k Socket.empty by rw [heq]]
        by_cases hm : m = k
        · subst hm
          simp only [Bank.closed, Bank.shrink, Function.update_self]
          rfl
        · have hv : (m : Nat) ≠ k := fun he => hm (Fin.ext he)
          simp only [Bank.closed, Bank.shrink, Function.update_of_ne hm, Function.update_of_ne hv]
          exact hq m
      · rw [heq]
        exact hrefused

/-- The first unused entry is the first closed queue. -/
theorem Models.udpOpen {s : VNet} {b : Queues} (h : Models s b) :
    Models s.udpOpen.1 (b.step .udpOpen).1 ∧ s.udpOpen.2 = (b.step .udpOpen).2.ret := by
  obtain ⟨⟨free, q, hs, hq⟩, hrefused⟩ := h
  have hclosed : ∀ k : Fin MaxSockets, (b.queue k).isNone = !(s.socks k).used := by
    intro k
    rw [hq k]
    cases (s.socks k).used <;> rfl
  have hfind : (List.range MaxSockets).find? (fun i => !(s.socks i).used) =
      b.firstClosed.map Fin.val := by
    rw [Bank.firstClosed, ← List.map_coe_finRange_eq_range, List.find?_map]
    congr 2
    funext k
    exact (hclosed k).symm
  unfold VNet.udpOpen Queues.step
  rw [hfind]
  cases hb : b.firstClosed with
  | none => exact ⟨⟨⟨free, q, hs, hq⟩, hrefused⟩, rfl⟩
  | some k =>
    have hu : (s.socks k).used = false := by
      have := List.find?_some hb
      rw [hclosed k] at this
      simpa using this
    refine ⟨⟨⟨free, q, hs.open k hu, fun m => ?_⟩, hrefused⟩, rfl⟩
    by_cases hm : m = k
    · subst hm
      simp only [Option.map_some, Bank.opened, Bank.shrink, setSock, Function.update_self, if_true,
        hs.closed m hu, List.map_nil]
    · have hv : (m : Nat) ≠ k := fun he => hm (Fin.ext he)
      simp only [Option.map_some, Bank.opened, Bank.shrink, setSock, Function.update_of_ne hm,
        Function.update_of_ne hv]
      exact hq m

theorem reset_models (s : VNet) : Models s.reset .empty :=
  ⟨⟨_, _, reset_shape s, fun _ => rfl⟩, rfl⟩

/-- A queue is readable when it has a datagram. -/
theorem Models.readable {s : VNet} {b : Queues} (h : Models s b) (vfd : Int) :
    s.udpReadable vfd = ((socketOf vfd).bind b.front).isSome := by
  have hopen := h.isOpen vfd
  obtain ⟨⟨free, q, hs, hq⟩, -⟩ := h
  unfold udpReadable
  rw [hopen]
  cases hk : socketOf vfd with
  | none => rfl
  | some k =>
    rw [(socketOf_eq_some hk).1, Option.bind_some, Option.bind_some, Bank.front, hq k, hs.count k]
    by_cases hu : (s.socks k).used
    · rw [if_pos hu]
      cases q k <;> simp
    · rw [if_neg hu]
      rfl

/-! ### The counter of missing buffers -/

theorem udpBind_refused (s : VNet) (vfd : Int) (ip : U32) (port : U16) :
    (s.udpBind vfd ip port).1.stats.dropNoBuffer = s.stats.dropNoBuffer := by
  unfold udpBind
  dsimp only
  split_ifs <;> rfl

theorem udpSetBroadcast_refused (s : VNet) (vfd : Int) (on : Bool) :
    (s.udpSetBroadcast vfd on).stats.dropNoBuffer = s.stats.dropNoBuffer := by
  unfold udpSetBroadcast
  split_ifs <;> rfl

theorem udpSendTo_refused (s : VNet) (vfd : Int) (dstIp : U32) (dstPort : U16) (buf : Mem) (len : Nat) :
    (s.udpSendTo vfd dstIp dstPort buf len).1.stats.dropNoBuffer = s.stats.dropNoBuffer := by
  have hbind : (s.implicitBind vfd).1.stats.dropNoBuffer = s.stats.dropNoBuffer := by
    unfold implicitBind
    split
    · exact udpBind_refused ..
    · rfl
  unfold udpSendTo
  dsimp only
  split
  · rfl
  · split
    · rfl
    · split
      · rfl
      · split
        · exact hbind
        · exact (sendIpv4_sends ..).refused.trans hbind

theorem sendEchoRequest_refused (s : VNet) (dstIp : U32) :
    (s.sendEchoRequest dstIp).1.stats.dropNoBuffer = s.stats.dropNoBuffer := by
  unfold sendEchoRequest
  dsimp only
  split
  · rfl
  · exact (sendIpv4_sends ..).refused

/-! ### Runs -/

/-- **One operation does to the queues what `Queues.step` says, and shows it.** -/
theorem exec_models {s : VNet} {b : Queues} (h : Models s b) (op : Op) :
    Models (s.exec op).1 (b.step (s.queueOp op)).1 ∧ (s.exec op).2.seen op = (b.step (s.queueOp op)).2 := by
  cases op with
  | reset => exact ⟨reset_models s, rfl⟩
  | configure mac ip netmask mtu => exact ⟨h.of_samePool (.of_socks rfl rfl rfl) rfl, rfl⟩
  | setEmit => exact ⟨h.of_samePool (.of_socks rfl rfl rfl) rfl, rfl⟩
  | udpOpen =>
    obtain ⟨hm, hret⟩ := h.udpOpen
    refine ⟨hm, ?_⟩
    show Seen.mk s.udpOpen.2 none = _
    rw [hret]
    dsimp only [queueOp, Queues.step]
    cases b.firstClosed <;> rfl
  | udpBind vfd ip port => exact ⟨h.of_samePool (udpBind_samePool s vfd ip port) (udpBind_refused ..), rfl⟩
  | udpSetBroadcast vfd on =>
    exact ⟨h.of_samePool (udpSetBroadcast_samePool s vfd on) (udpSetBroadcast_refused ..), rfl⟩
  | onFrame srcMac dstMac etherType payload => exact ⟨h.onFrame srcMac dstMac etherType payload, rfl⟩
  | udpRecvFrom vfd max peek =>
    refine ⟨h.recv vfd max peek, ?_⟩
    show Seen.mk ((s.udpRecvFrom vfd max peek).2.elim (-1) fun d => d.bytes.length)
      (s.udpRecvFrom vfd max peek).2 = _
    rw [udpRecvFrom_front h]
    dsimp only [queueOp, Queues.step]
    cases socketOf vfd with
    | none => rfl
    | some k =>
      rw [Option.bind_some, Option.elim_some, Queues.recv]
      cases b.front k <;> rfl
  | udpSendTo vfd dstIp dstPort buf =>
    exact ⟨h.of_samePool (udpSendTo_samePool ..) (udpSendTo_refused ..), rfl⟩
  | sendEchoRequest dstIp =>
    exact ⟨h.of_samePool (sendEchoRequest_samePool ..) (sendEchoRequest_refused ..), rfl⟩
  | udpClose vfd => exact ⟨h.close vfd, rfl⟩

theorem execAll_models (ops : List Op) {s : VNet} {b : Queues} (h : Models s b) :
    Models (s.execAll ops).1 (b.run (s.queueOps ops)).1 ∧
      List.zipWith (fun op r => r.seen op) ops (s.execAll ops).2 = (b.run (s.queueOps ops)).2 := by
  induction ops generalizing s b with
  | nil => exact ⟨h, rfl⟩
  | cons op ops ih =>
    obtain ⟨hm, hseen⟩ := exec_models h op
    obtain ⟨hrest, hshown⟩ := ih hm
    refine ⟨hrest, ?_⟩
    show (s.exec op).2.seen op :: _ = _
    rw [hshown, hseen]
    rfl

/-- **After a reset the pool is a bank of FIFO queues.** Every run leaves the
queues the abstract run leaves and shows what it shows; a socket is readable just
when its queue has a datagram; a peek shows what a read shows and changes nothing;
and while the bank is full, appending only counts a missing buffer. -/
theorem pool_refines_queues (s : VNet) (ops : List Op) :
    let t := (s.reset.execAll ops).1
    let b := Queues.run .empty (s.reset.queueOps ops)
    Models t b.1 ∧
      List.zipWith (fun op r => r.seen op) ops (s.reset.execAll ops).2 = b.2 ∧
      (∀ vfd, t.udpReadable vfd = ((socketOf vfd).bind b.1.front).isSome) ∧
      (∀ vfd max, (t.udpRecvFrom vfd max true).1 = t ∧
        (t.udpRecvFrom vfd max true).2 = (t.udpRecvFrom vfd max false).2) ∧
      (b.1.held = PoolPackets → ∀ sock srcIp srcPort data len, len ≤ MaxDatagram →
        t.pushToSocket sock srcIp srcPort data len =
          t.count fun n => { n with dropNoBuffer := n.dropNoBuffer + 1 }) := by
  obtain ⟨hm, hshown⟩ := execAll_models ops (reset_models s)
  refine ⟨hm, hshown, hm.readable, fun vfd max => ⟨udpRecvFrom_peek .., ?_⟩, ?_⟩
  · rw [udpRecvFrom_front hm, udpRecvFrom_front hm]
  · intro hfull sock srcIp srcPort data len hl
    obtain ⟨⟨free, q, hs, hq⟩, -⟩ := hm
    have hnil : free = [] := by
      by_contra hne
      have := (hq.room hs).mp hne
      omega
    exact pushToSocket_full _ _ _ _ _ _ (hs.freeChain.head_neg.mpr hnil) hl

end VNet

end SysZerotier.Net
