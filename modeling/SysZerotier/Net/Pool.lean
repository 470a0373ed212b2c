import SysZerotier.Net.Effects
import SysZerotier.Library.Links

/-! The packet pool's shape, and what the four operations on it do to it.

`PoolShape` says that the free list and the eight socket queues thread the pool's
slots through `next`, that head, tail and count of each socket describe its
queue, and that every slot is in exactly one of the nine lists. Appending,
reading, closing and resetting each move slots between the free list and one
queue; everything else leaves the pool alone. -/
namespace SysZerotier.Net.VNet
open Library

/-- The links of the pool. -/
def next (s : VNet) : Nat → Int := fun i => (s.pool i).next

/-- The datagram a slot holds. -/
def datagram (s : VNet) (i : Nat) : Datagram :=
  ⟨(s.pool i).data.bytes (s.pool i).len.toNat, (s.pool i).srcIp, (s.pool i).srcPort⟩

structure PoolShape (s : VNet) (free : List Nat) (q : Fin MaxSockets → List Nat) : Prop where
  freeChain : Links.Chain s.next s.freeList free
  chain : ∀ k : Fin MaxSockets, Links.Chain s.next (s.socks k).qHead (q k)
  tail : ∀ k : Fin MaxSockets, (s.socks k).qTail = Links.tail (q k)
  count : ∀ k : Fin MaxSockets, (s.socks k).qCount = (q k).length
  closed : ∀ k : Fin MaxSockets, (s.socks k).used = false → q k = []
  shares : Links.Shares PoolPackets free q
  len : ∀ k : Fin MaxSockets, ∀ i ∈ q k, (s.pool i).len.toNat ≤ MaxDatagram

/-- What the shape says of one socket and its queue. -/
structure SocketShape (s : VNet) (k : Socket) (l : List Nat) : Prop where
  chain : Links.Chain s.next k.qHead l
  tail : k.qTail = Links.tail l
  count : k.qCount = l.length
  closed : k.used = false → l = []
  len : ∀ i ∈ l, (s.pool i).len.toNat ≤ MaxDatagram

theorem PoolShape.socket {s : VNet} {free : List Nat} {q : Fin MaxSockets → List Nat}
    (h : PoolShape s free q) (k : Fin MaxSockets) : SocketShape s (s.socks k) (q k) :=
  ⟨h.chain k, h.tail k, h.count k, h.closed k, h.len k⟩

theorem PoolShape.of_sockets {s : VNet} {free : List Nat} {q : Fin MaxSockets → List Nat}
    (hfree : Links.Chain s.next s.freeList free) (h : ∀ k : Fin MaxSockets, SocketShape s (s.socks k) (q k))
    (hshares : Links.Shares PoolPackets free q) : PoolShape s free q :=
  ⟨hfree, fun k => (h k).chain, fun k => (h k).tail, fun k => (h k).count, fun k => (h k).closed,
    hshares, fun k => (h k).len⟩

theorem SocketShape.congr {s t : VNet} {k : Socket} {l : List Nat} (h : SocketShape s k l)
    (hnext : ∀ j ∈ l, t.next j = s.next j) (hlen : ∀ j ∈ l, (t.pool j).len = (s.pool j).len) :
    SocketShape t k l := by
  refine ⟨h.chain.congr hnext, h.tail, h.count, h.closed, fun i hi => ?_⟩
  rw [hlen i hi]
  exact h.len i hi

/-- Slots move between one socket's queue and the free list; the other queues keep
their links and their datagrams. -/
theorem PoolShape.update {s t : VNet} {free free' l : List Nat} {q : Fin MaxSockets → List Nat}
    (h : PoolShape s free q) (k : Fin MaxSockets) (hfree : Links.Chain t.next t.freeList free')
    (hself : SocketShape t (t.socks k) l) (hsocks : ∀ m : Fin MaxSockets, m ≠ k → t.socks m = s.socks m)
    (hnext : ∀ m, m ≠ k → ∀ j ∈ q m, t.next j = s.next j)
    (hlen : ∀ m, m ≠ k → ∀ j ∈ q m, (t.pool j).len = (s.pool j).len)
    (hperm : (free' ++ l).Perm (free ++ q k)) : PoolShape t free' (Function.update q k l) := by
  refine .of_sockets hfree (fun m => ?_) (h.shares.move k l hperm)
  by_cases hm : m = k
  · subst hm
    rw [Function.update_self]
    exact hself
  · rw [Function.update_of_ne hm, hsocks m hm]
    exact (h.socket m).congr (hnext m hm) (hlen m hm)

/-! ### Operations that leave the pool alone -/

/-- The pool, and of each socket what the pool's shape mentions. -/
structure SamePool (s t : VNet) : Prop where
  freeList : t.freeList = s.freeList
  pool : t.pool = s.pool
  used : ∀ i, (t.socks i).used = (s.socks i).used
  qHead : ∀ i, (t.socks i).qHead = (s.socks i).qHead
  qTail : ∀ i, (t.socks i).qTail = (s.socks i).qTail
  qCount : ∀ i, (t.socks i).qCount = (s.socks i).qCount

theorem SamePool.refl (s : VNet) : SamePool s s :=
  ⟨rfl, rfl, fun _ => rfl, fun _ => rfl, fun _ => rfl, fun _ => rfl⟩

theorem SamePool.trans {s t u : VNet} (h : SamePool s t) (h' : SamePool t u) : SamePool s u :=
  ⟨h'.freeList.trans h.freeList, h'.pool.trans h.pool, fun i => (h'.used i).trans (h.used i),
    fun i => (h'.qHead i).trans (h.qHead i), fun i => (h'.qTail i).trans (h.qTail i),
    fun i => (h'.qCount i).trans (h.qCount i)⟩

theorem SamePool.of_socks {s t : VNet} (hf : t.freeList = s.freeList) (hp : t.pool = s.pool)
    (hk : t.socks = s.socks) : SamePool s t :=
  ⟨hf, hp, fun _ => by rw [hk], fun _ => by rw [hk], fun _ => by rw [hk], fun _ => by rw [hk]⟩

theorem SamePool.datagram {s t : VNet} (h : SamePool s t) : t.datagram = s.datagram := by
  funext i
  simp only [VNet.datagram, h.pool]

theorem SamePool.shape {s t : VNet} (h : SamePool s t) {free : List Nat}
    {q : Fin MaxSockets → List Nat} (hs : PoolShape s free q) : PoolShape t free q := by
  have hnext : t.next = s.next := by
    funext i
    simp only [next, h.pool]
  refine ⟨?_, fun k => ?_, fun k => ?_, fun k => ?_, fun k hk => ?_, hs.shares, fun k i hi => ?_⟩
  · rw [hnext, h.freeList]
    exact hs.freeChain
  · rw [hnext, h.qHead]
    exact hs.chain k
  · rw [h.qTail]
    exact hs.tail k
  · rw [h.qCount]
    exact hs.count k
  · exact hs.closed k (by rw [← h.used]; exact hk)
  · rw [h.pool]
    exact hs.len k i hi

theorem Sends.samePool {s t : VNet} (h : Sends s t) : SamePool s t :=
  .of_socks (by rw [h.eq]) (by rw [h.eq]) (by rw [h.eq])

theorem Hears.samePool {s t : VNet} (h : Hears s t) : SamePool s t :=
  .of_socks (by rw [h.eq]) (by rw [h.eq]) (by rw [h.eq])

/-- Rewriting a socket's address, port or flag does not move its queue. -/
theorem setSock_samePool (s : VNet) (i : Nat) (k : Socket) (hu : k.used = (s.socks i).used)
    (hh : k.qHead = (s.socks i).qHead) (ht : k.qTail = (s.socks i).qTail)
    (hc : k.qCount = (s.socks i).qCount) : SamePool s (s.setSock i k) := by
  have hall : ∀ {β : Type} (f : Socket → β), f k = f (s.socks i) →
      ∀ j, f (Function.update s.socks i k j) = f (s.socks j) := by
    intro β f hf j
    by_cases hj : j = i
    · subst hj
      rw [Function.update_self, hf]
    · rw [Function.update_of_ne hj]
  exact ⟨rfl, rfl, hall _ hu, hall _ hh, hall _ ht, hall _ hc⟩

theorem udpBind_samePool (s : VNet) (vfd : Int) (ip : U32) (port : U16) :
    SamePool s (s.udpBind vfd ip port).1 := by
  unfold udpBind
  split
  · exact .refl s
  · generalize (if port = 0 then s.ephemeralPort 4096 s.nextEphemeral else (port, s.nextEphemeral)) = found
    have hn : SamePool s { s with nextEphemeral := found.2 } := .of_socks rfl rfl rfl
    dsimp only
    split
    · exact hn
    · exact hn.trans (setSock_samePool _ _ _ rfl rfl rfl rfl)

theorem udpSetBroadcast_samePool (s : VNet) (vfd : Int) (on : Bool) :
    SamePool s (s.udpSetBroadcast vfd on) := by
  unfold udpSetBroadcast
  split
  · exact setSock_samePool _ _ _ rfl rfl rfl rfl
  · exact .refl s

theorem implicitBind_samePool (s : VNet) (vfd : Int) : SamePool s (s.implicitBind vfd).1 := by
  unfold implicitBind
  split
  · exact udpBind_samePool ..
  · exact .refl s

theorem udpSendTo_samePool (s : VNet) (vfd : Int) (dstIp : U32) (dstPort : U16) (buf : Mem)
    (len : Nat) : SamePool s (s.udpSendTo vfd dstIp dstPort buf len).1 := by
  unfold udpSendTo
  split
  · exact .refl s
  · split
    · exact .refl s
    · split
      · exact .of_socks rfl rfl rfl
      · have hb := implicitBind_samePool s vfd
        dsimp only
        split
        · exact hb
        · exact (hb.trans (sendIpv4_sends ..).samePool).trans (.of_socks rfl rfl rfl)

theorem sendEchoRequest_samePool (s : VNet) (dstIp : U32) :
    SamePool s (s.sendEchoRequest dstIp).1 := by
  unfold sendEchoRequest
  split
  · exact .refl s
  · dsimp only
    have he : SamePool s { s with echoSeq := s.echoSeq + 1 } := .of_socks rfl rfl rfl
    exact (he.trans (sendIpv4_sends ..).samePool).trans (.of_socks rfl rfl rfl)

/-! ### Appending a datagram -/

/-- Appending with a slot to spare: slot `i` leaves the free list, receives the
datagram and becomes the queue's last. -/
structure Pushes (s : VNet) (k i : Nat) (d : Datagram) (t : VNet) : Prop where
  eq : t = { s with freeList := t.freeList, pool := t.pool, socks := t.socks }
  freeList : t.freeList = s.next i
  next : t.next = fun j : Nat =>
    if j = i then (-1 : Int) else if (j : Int) = (s.socks k).qTail then (i : Int) else s.next j
  datagram : t.datagram = Function.update s.datagram i d
  len : ∀ j, j ≠ i → (t.pool j).len = (s.pool j).len
  length : (t.pool i).len.toNat = d.bytes.length
  socks : t.socks = Function.update s.socks k
    { s.socks k with
      qHead := if (s.socks k).qTail < 0 then (i : Int) else (s.socks k).qHead
      qTail := i
      qCount := (s.socks k).qCount + 1 }

theorem pushToSocket_pushes (s : VNet) (k i : Nat) (srcIp : U32) (srcPort : U16) (data : Mem)
    (len : Nat) (hf : s.freeList = i) (hl : len ≤ MaxDatagram) (hi : (s.socks k).qTail ≠ i) :
    Pushes s k i ⟨data.bytes len, srcIp, srcPort⟩ (s.pushToSocket k srcIp srcPort data len) := by
  have hmod : (BitVec.ofNat 16 len).toNat = len := by
    rw [BitVec.toNat_ofNat]
    exact Nat.mod_eq_of_lt (by unfold MaxDatagram at hl; omega)
  have hcopy : ∀ old : Mem, (memcpy old 0 data len).bytes len = data.bytes len := by
    intro old
    exact Mem.bytes_congr fun j hj => by simpa using memcpy_inside old 0 data len j hj
  have hneg : ¬(i : Int) < 0 := by omega
  unfold pushToSocket
  rw [if_neg (by omega)]
  simp only [allocPkt, hf, hneg, if_false, Int.toNat_natCast, setPkt]
  split
  · -- the queue was empty
    rename_i htail
    refine ⟨rfl, rfl, ?_, ?_, ?_, ?_, ?_⟩
    · funext j
      have : (j : Int) ≠ (s.socks k).qTail := by omega
      simp only [next, setSock, Function.update_apply, this, if_false]
      split <;> rfl
    · funext j
      by_cases hj : j = i
      · subst hj
        simp only [VNet.datagram, setSock, Function.update_self, hmod, hcopy]
      · simp only [VNet.datagram, setSock, Function.update_of_ne hj]
    · intro j hj
      simp only [setSock, Function.update_of_ne hj]
    · simp only [setSock, Function.update_self, hmod, Mem.bytes_length]
    · simp only [setSock] at htail ⊢
      rw [if_pos htail]
  · rename_i htail
    simp only [setSock] at htail ⊢
    have hne : ((s.socks k).qTail).toNat ≠ i := by omega
    refine ⟨rfl, rfl, ?_, ?_, ?_, ?_, ?_⟩
    · funext j
      by_cases hj : j = i
      · subst hj
        simp only [next, Function.update_of_ne hne.symm, Function.update_self, if_true]
      · by_cases hjt : j = ((s.socks k).qTail).toNat
        · subst hjt
          have : ((((s.socks k).qTail).toNat : Nat) : Int) = (s.socks k).qTail := by omega
          simp only [next, Function.update_self, hj, if_false, this, if_true]
        · have : (j : Int) ≠ (s.socks k).qTail := by omega
          simp only [next, Function.update_of_ne hjt, Function.update_of_ne hj, hj, if_false, this]
    · funext j
      by_cases hj : j = i
      · subst hj
        simp only [VNet.datagram, Function.update_of_ne hne.symm, Function.update_self, hmod, hcopy]
      · by_cases hjt : j = ((s.socks k).qTail).toNat
        · subst hjt
          simp only [VNet.datagram, Function.update_self, Function.update_of_ne hj]
        · simp only [VNet.datagram, Function.update_of_ne hjt, Function.update_of_ne hj]
    · intro j hj
      by_cases hjt : j = ((s.socks k).qTail).toNat
      · subst hjt
        simp only [Function.update_self, Function.update_of_ne hj]
      · simp only [Function.update_of_ne hjt, Function.update_of_ne hj]
    · simp only [Function.update_of_ne hne.symm, Function.update_self, hmod, Mem.bytes_length]
    · rw [if_neg htail]

/-- With no slot to spare only the counter of missing buffers moves. -/
theorem pushToSocket_full (s : VNet) (k : Nat) (srcIp : U32) (srcPort : U16) (data : Mem) (len : Nat)
    (hf : s.freeList < 0) (hl : len ≤ MaxDatagram) :
    s.pushToSocket k srcIp srcPort data len =
      s.count fun t => { t with dropNoBuffer := t.dropNoBuffer + 1 } := by
  unfold pushToSocket
  rw [if_neg (by omega)]
  simp [allocPkt, hf]

theorem pushToSocket_tooBig (s : VNet) (k : Nat) (srcIp : U32) (srcPort : U16) (data : Mem)
    (len : Nat) (hl : MaxDatagram < len) :
    s.pushToSocket k srcIp srcPort data len =
      s.count fun t => { t with dropTooBig := t.dropTooBig + 1 } := by
  unfold pushToSocket
  rw [if_pos hl]

theorem PoolShape.push {s t : VNet} {i : Nat} {free : List Nat} {q : Fin MaxSockets → List Nat}
    {d : Datagram} (h : PoolShape s (i :: free) q) (k : Fin MaxSockets)
    (hu : (s.socks k).used = true) (hd : d.bytes.length ≤ MaxDatagram) (hp : Pushes s k i d t) :
    PoolShape t free (Function.update q k (q k ++ [i])) := by
  have hfree : ∀ j ∈ free, j ≠ i := by
    intro j hj he
    subst he
    exact (List.nodup_cons.mp h.shares.free_nodup).1 hj
  have hqueue : ∀ m, ∀ j ∈ q m, j ≠ i := by
    intro m j hj he
    subst he
    exact h.shares.free_not_queue (List.mem_cons_self ..) m hj
  have htail : ∀ j : Nat, (j : Int) = (s.socks k).qTail → j ∈ q k := by
    intro j hj
    rw [h.tail k] at hj
    by_cases hne : q k = []
    · rw [hne] at hj
      simp only [Links.tail] at hj
      omega
    · obtain ⟨front, t', heq, ht⟩ := Links.eq_append_tail hne
      rw [ht] at hj
      have : j = t' := by omega
      subst this
      rw [heq]
      simp
  -- links of slots outside the queue and off the new slot are untouched
  have hother : ∀ j, j ≠ i → j ∉ q k → t.next j = s.next j := by
    intro j hj hm
    rw [hp.next]
    simp only [hj, if_false]
    rw [if_neg fun he => hm (htail j he)]
  have hsock : ∀ m : Fin MaxSockets, m ≠ k → t.socks m = s.socks m := by
    intro m hm
    rw [hp.socks, Function.update_of_ne]
    exact fun he => hm (Fin.ext he)
  have hself := congrFun hp.socks (k : Nat)
  rw [Function.update_self] at hself
  refine h.update k ?_ ?_ hsock ?_ (fun m _ j hj => hp.len j (hqueue m j hj)) ?_
  · rw [hp.freeList]
    refine h.freeChain.2.congr fun j hj => hother j (hfree j hj) ?_
    exact h.shares.free_not_queue (List.mem_cons_of_mem i hj) k
  · rw [hself]
    refine ⟨?_, by rw [Links.tail_append], ?_, fun hc => ?_, fun j hj => ?_⟩
    · have hin : t.next i = -1 := by rw [hp.next]; simp
      by_cases hne : q k = []
      · have htl : (s.socks k).qTail < 0 := by rw [h.tail k, hne]; decide
        simp only [hne, htl, if_true, List.nil_append]
        exact ⟨rfl, hin⟩
      · obtain ⟨front, tl, heq, htl⟩ := Links.eq_append_tail hne
        have hq := h.tail k
        rw [htl] at hq
        have hneg : ¬(s.socks k).qTail < 0 := by omega
        have hnodup := h.shares.queue_nodup k
        rw [heq] at hnodup
        have hfront : tl ∉ front := by
          have := List.nodup_append.mp hnodup
          exact fun hm' => this.2.2 tl hm' tl (by simp) rfl
        simp only [hneg, if_false]
        have hchain := h.chain k
        rw [heq] at hchain ⊢
        have htli : tl ≠ i := hqueue k tl (by rw [heq]; simp)
        rw [List.append_assoc]
        refine hchain.append ?_ hin hfront fun j hj => ?_
        · rw [hp.next]
          simp only [htli, if_false, hq, if_true]
        · have hji : j ≠ i := hqueue k j (by rw [heq]; simp [hj])
          have hjt : (j : Int) ≠ (s.socks k).qTail := by
            rw [hq]
            intro he
            exact hfront (by rwa [show j = tl by omega] at hj)
          rw [hp.next]
          simp only [hji, if_false, hjt]
    · have := h.count k
      simp only [List.length_append, List.length_singleton]
      omega
    · rw [show (s.socks k).used = false from hc] at hu
      cases hu
    · rcases List.mem_append.mp hj with hj | hj
      · rw [hp.len j (hqueue k j hj)]
        exact h.len k j hj
      · rw [List.mem_singleton.mp hj, hp.length]
        exact hd
  · exact fun m hm j hj => hother j (hqueue m j hj) (h.shares.queue_not_other hj (Ne.symm hm))
  · rw [← List.append_assoc]
    exact List.perm_append_singleton i _

/-! ### Giving slots back -/

theorem freePkt_eq (s : VNet) {i : Nat} (h : i < PoolPackets) :
    s.freePkt i =
      { s with
        freeList := i
        pool := Function.update s.pool i { s.pool i with next := s.freeList } } := by
  unfold freePkt
  rw [if_neg (by omega)]
  rfl

theorem freePkt_next (s : VNet) {i : Nat} (h : i < PoolPackets) (j : Nat) :
    (s.freePkt i).next j = if j = i then s.freeList else s.next j := by
  rw [freePkt_eq s h]
  simp only [next, Function.update_apply]
  split <;> rfl

theorem freePkt_datagram (s : VNet) {i : Nat} (h : i < PoolPackets) :
    (s.freePkt i).datagram = s.datagram ∧ ∀ j, ((s.freePkt i).pool j).len = (s.pool j).len := by
  rw [freePkt_eq s h]
  refine ⟨funext fun j => ?_, fun j => ?_⟩
  all_goals
    by_cases hj : j = i
    · subst hj
      simp only [datagram, Function.update_self]
    · simp only [datagram, Function.update_of_ne hj]

/-- A consuming read: the queue's first slot goes back to the free list. -/
def popped (s : VNet) (k : Nat) : VNet :=
  (s.setSock k
    { s.socks k with
      qHead := s.next ((s.socks k).qHead).toNat
      qTail := if s.next ((s.socks k).qHead).toNat < 0 then -1 else (s.socks k).qTail
      qCount := (s.socks k).qCount - 1 }).freePkt (s.socks k).qHead

theorem PoolShape.pop {s : VNet} {i : Nat} {free l : List Nat} {q : Fin MaxSockets → List Nat}
    (h : PoolShape s free q) (k : Fin MaxSockets) (hq : q k = i :: l) :
    PoolShape (s.popped k) (i :: free) (Function.update q k l) ∧
      (s.popped k).datagram = s.datagram ∧ ∀ m, ((s.popped k).socks m).used = (s.socks m).used := by
  have hlt : i < PoolPackets := h.shares.lt_of_queue (by rw [hq]; exact List.mem_cons_self ..)
  have hchain := h.chain k
  rw [hq] at hchain
  obtain ⟨hhead, hrest⟩ := hchain
  have hnodup := h.shares.queue_nodup k
  rw [hq] at hnodup
  generalize hs' : s.setSock k
    { s.socks k with
      qHead := s.next i
      qTail := if s.next i < 0 then -1 else (s.socks k).qTail
      qCount := (s.socks k).qCount - 1 } = s'
  have hpop : s.popped k = s'.freePkt i := by
    rw [← hs']
    simp only [popped, hhead, Int.toNat_natCast]
  have hfl : s'.freeList = s.freeList := by rw [← hs']; rfl
  have hnx : s'.next = s.next := by rw [← hs']; rfl
  have hsocks : (s'.freePkt i).socks = s'.socks := by rw [freePkt_eq s' hlt]
  have hother : ∀ m : Nat, m ≠ k → s'.socks m = s.socks m := by
    intro m hm
    rw [← hs']
    exact Function.update_of_ne hm ..
  have hself : s'.socks k =
      { s.socks k with
        qHead := s.next i
        qTail := if s.next i < 0 then -1 else (s.socks k).qTail
        qCount := (s.socks k).qCount - 1 } := by
    rw [← hs']
    exact Function.update_self ..
  have hkeep : ∀ m : Fin MaxSockets, m ≠ k → s'.socks m = s.socks m :=
    fun m hm => hother m fun he => hm (Fin.ext he)
  have hnext : ∀ j, j ≠ i → (s'.freePkt i).next j = s.next j := by
    intro j hj
    rw [freePkt_next s' hlt, if_neg hj, hnx]
  have hlen : ∀ j, ((s'.freePkt i).pool j).len = (s.pool j).len := by
    intro j
    rw [(freePkt_datagram s' hlt).2, show s'.pool = s.pool by rw [← hs']; rfl]
  have hnot : ∀ j ∈ l, j ≠ i := fun j hj he => (List.nodup_cons.mp hnodup).1 (he ▸ hj)
  rw [hpop]
  refine ⟨h.update k ?_ ?_ (fun m hm => ?_) (fun m hm j hj => ?_) (fun _ _ j _ => hlen j) ?_, ?_, fun m => ?_⟩
  · rw [show (s'.freePkt i).freeList = (i : Int) by rw [freePkt_eq s' hlt]]
    refine h.freeChain.push ?_ fun j hj => hnext j ?_
    · rw [freePkt_next s' hlt, if_pos rfl, hfl]
    · rintro rfl
      exact h.shares.free_not_queue hj k (by rw [hq]; exact List.mem_cons_self ..)
  · rw [hsocks, hself]
    refine ⟨hrest.congr fun j hj => hnext j (hnot j hj), ?_, ?_, fun hc => ?_, fun j hj => ?_⟩
    · have htail := h.tail k
      rw [hq] at htail
      dsimp only
      by_cases hl : l = []
      · rw [if_pos (hrest.head_neg.mpr hl), hl]
        rfl
      · rw [if_neg (fun hn => hl (hrest.head_neg.mp hn)), htail, Links.tail_cons hl]
    · have := h.count k
      rw [hq] at this
      simp only [List.length_cons] at this ⊢
      omega
    · have := h.closed k hc
      rw [hq] at this
      cases this
    · rw [hlen]
      exact h.len k j (by rw [hq]; exact List.mem_cons_of_mem i hj)
  · rw [hsocks]
    exact hkeep m hm
  · refine hnext j ?_
    rintro rfl
    exact h.shares.queue_not_other (by rw [hq]; exact List.mem_cons_self ..) hm hj
  · rw [hq]
    exact List.perm_middle.symm
  · rw [(freePkt_datagram s' hlt).1, ← hs']
    rfl
  · rw [hsocks]
    by_cases hm : m = k
    · subst hm
      rw [hself]
    · rw [hother m hm]

/-- What the closing loop does to a queue and the free list: the queue's slots end
up on the free list, last freed first. -/
theorem freeQueue_links (l : List Nat) (s : VNet) (free : List Nat) (fuel : Nat) (idx : Int)
    (hfuel : l.length ≤ fuel) (hfree : Links.Chain s.next s.freeList free)
    (hl : Links.Chain s.next idx l) (hnodup : l.Nodup) (hlt : ∀ i ∈ l, i < PoolPackets)
    (hdis : ∀ i ∈ l, i ∉ free) :
    Links.Chain (s.freeQueue fuel idx).next (s.freeQueue fuel idx).freeList (l.reverse ++ free) ∧
      (∀ j, j ∉ l → (s.freeQueue fuel idx).next j = s.next j) ∧
      (s.freeQueue fuel idx).datagram = s.datagram ∧
      (∀ j, ((s.freeQueue fuel idx).pool j).len = (s.pool j).len) ∧
      s.freeQueue fuel idx = { s with
        freeList := (s.freeQueue fuel idx).freeList, pool := (s.freeQueue fuel idx).pool } := by
  induction l generalizing s free fuel idx with
  | nil =>
    have : s.freeQueue fuel idx = s := by
      have hneg := hl.head_neg.mpr rfl
      cases fuel with
      | zero => rfl
      | succ fuel => simp only [freeQueue, hneg, if_true]
    rw [this]
    exact ⟨hfree, fun _ _ => rfl, rfl, fun _ => rfl, rfl⟩
  | cons i l ih =>
    obtain ⟨hhead, hrest⟩ := hl
    obtain ⟨fuel, rfl⟩ : ∃ n, fuel = n + 1 := ⟨fuel - 1, by simp at hfuel; omega⟩
    have hi := hlt i (List.mem_cons_self ..)
    have hil := (List.nodup_cons.mp hnodup).1
    have hstep : s.freeQueue (fuel + 1) idx = (s.freePkt i).freeQueue fuel (s.next i) := by
      have hneg : ¬(i : Int) < 0 := by omega
      rw [hhead]
      simp only [freeQueue, hneg, if_false, Int.toNat_natCast]
      rfl
    have hpush : Links.Chain (s.freePkt i).next (s.freePkt i).freeList (i :: free) := by
      rw [show (s.freePkt i).freeList = (i : Int) by rw [freePkt_eq s hi]]
      refine hfree.push (by rw [freePkt_next s hi, if_pos rfl]) fun j hj => ?_
      rw [freePkt_next s hi, if_neg]
      rintro rfl
      exact hdis j (List.mem_cons_self ..) hj
    have hkeep : ∀ j ∈ l, (s.freePkt i).next j = s.next j := by
      intro j hj
      rw [freePkt_next s hi, if_neg]
      rintro rfl
      exact hil hj
    obtain ⟨h1, h2, h3, h4, h5⟩ := ih (s.freePkt i) (i :: free) fuel (s.next i)
      (by simp at hfuel; omega) hpush (hrest.congr hkeep) (List.nodup_cons.mp hnodup).2
      (fun j hj => hlt j (List.mem_cons_of_mem i hj)) (by
        intro j hj hm
        rcases List.mem_cons.mp hm with rfl | hm
        · exact hil hj
        · exact hdis j (List.mem_cons_of_mem i hj) hm)
    rw [hstep]
    refine ⟨?_, fun j hj => ?_, ?_, fun j => ?_, ?_⟩
    · rw [List.reverse_cons, List.append_assoc]
      exact h1
    · rw [h2 j fun hm => hj (List.mem_cons_of_mem i hm), freePkt_next s hi, if_neg]
      rintro rfl
      exact hj (List.mem_cons_self ..)
    · rw [h3, (freePkt_datagram s hi).1]
    · rw [h4, (freePkt_datagram s hi).2]
    · rw [h5, freePkt_eq s hi]

/-- Closing an open socket. -/
def closedSock (s : VNet) (k : Nat) : VNet :=
  (s.freeQueue PoolPackets (s.socks k).qHead).setSock k Socket.empty

theorem PoolShape.close {s : VNet} {free : List Nat} {q : Fin MaxSockets → List Nat}
    (h : PoolShape s free q) (k : Fin MaxSockets) :
    PoolShape (s.closedSock k) ((q k).reverse ++ free) (Function.update q k []) ∧
      (s.closedSock k).datagram = s.datagram ∧
      s.closedSock k = { s with
        freeList := (s.closedSock k).freeList
        pool := (s.closedSock k).pool
        socks := Function.update s.socks k Socket.empty } := by
  have hlen : (q k).length ≤ PoolPackets := by
    have := h.shares.length
    have := Finset.single_le_sum (f := fun k => (q k).length) (fun _ _ => Nat.zero_le _)
      (Finset.mem_univ k)
    omega
  obtain ⟨h1, h2, h3, h4, h5⟩ := freeQueue_links (q k) s free PoolPackets (s.socks k).qHead hlen
    h.freeChain (h.chain k) (h.shares.queue_nodup k) (fun i hi => h.shares.lt_of_queue hi)
    (fun i hi hf => h.shares.free_not_queue hf k hi)
  have heq : s.closedSock k = { s with
      freeList := (s.freeQueue PoolPackets (s.socks k).qHead).freeList
      pool := (s.freeQueue PoolPackets (s.socks k).qHead).pool
      socks := Function.update s.socks k Socket.empty } := by
    unfold closedSock
    rw [h5]
    rfl
  have hnext : (s.closedSock k).next = (s.freeQueue PoolPackets (s.socks k).qHead).next := rfl
  have hsocks : (s.closedSock k).socks = Function.update s.socks k Socket.empty := by rw [heq]
  have hother : ∀ m : Fin MaxSockets, m ≠ k → (s.closedSock k).socks m = s.socks m := by
    intro m hm
    rw [hsocks]
    exact Function.update_of_ne (fun he => hm (Fin.ext he)) ..
  have hself : (s.closedSock k).socks k = Socket.empty := by rw [hsocks, Function.update_self]
  refine ⟨h.update k h1 ?_ hother (fun m hm j hj => ?_) (fun m hm j hj => h4 j) ?_, h3, heq⟩
  · rw [hself]
    exact ⟨rfl, rfl, rfl, fun _ => rfl, fun j hj => by cases hj⟩
  · exact h2 j (h.shares.queue_not_other hj (Ne.symm hm))
  · rw [List.append_nil]
    exact (List.perm_append_comm).trans ((List.reverse_perm _).append_left free)

/-! ### Opening and resetting -/

theorem PoolShape.open {s : VNet} {free : List Nat} {q : Fin MaxSockets → List Nat}
    (h : PoolShape s free q) (i : Nat) (hi : (s.socks i).used = false) :
    PoolShape (s.setSock i { Socket.empty with used := true }) free q := by
  have hempty : ∀ k : Fin MaxSockets, (k : Nat) = i → q k = [] := by
    rintro k rfl
    exact h.closed k hi
  have hsock : ∀ k : Fin MaxSockets, (k : Nat) ≠ i →
      (s.setSock i { Socket.empty with used := true }).socks k = s.socks k :=
    fun k hk => Function.update_of_ne hk ..
  have hself : ∀ k : Fin MaxSockets, (k : Nat) = i →
      (s.setSock i { Socket.empty with used := true }).socks k = { Socket.empty with used := true } := by
    rintro k rfl
    exact Function.update_self ..
  refine .of_sockets h.freeChain (fun k => ?_) h.shares
  by_cases hki : (k : Nat) = i
  · rw [hself k hki, hempty k hki]
    exact ⟨rfl, rfl, rfl, fun _ => rfl, fun j hj => by cases hj⟩
  · rw [hsock k hki]
    exact (h.socket k).congr (fun _ _ => rfl) fun _ _ => rfl

theorem reset_shape (s : VNet) : PoolShape s.reset (List.range PoolPackets) fun _ => [] := by
  refine ⟨?_, fun _ => rfl, fun _ => rfl, fun _ => rfl, fun _ _ => rfl, Links.shares_empty _,
    fun _ _ hi => by cases hi⟩
  rw [List.range_eq_range']
  show Links.Chain s.reset.next _ (List.range' 0 (PoolPackets - 0))
  exact Links.chain_range PoolPackets 0 (Nat.zero_le _) fun i _ _ => rfl

end SysZerotier.Net.VNet
