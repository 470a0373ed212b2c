import SysZerotier.Net.Emit
import SysZerotier.Net.Sockets

/-! Ephemeral ports.

The counter never leaves the ephemeral range (`Ranged`), and among nine candidates in
a row one is held by none of the eight sockets, so the bounded search always finds a
port (`ephemeralPort_found`), wherever the run before has left the counter. -/
namespace SysZerotier.Net.VNet

/-- The counter is in the ephemeral range, 49152 to 65535. -/
def Ranged (s : VNet) : Prop := 49152 ≤ s.nextEphemeral.toNat

/-- `t` is `s` with the socket bound to an ephemeral port that no open socket had. -/
structure BoundFresh (s t : VNet) (vfd : Nat) : Prop where
  range : 49152 ≤ (t.socks vfd).localPort.toNat ∧ (t.socks vfd).localPort.toNat ≤ 65535
  unheld : ∀ i < MaxSockets, (s.socks i).used = true → (s.socks i).localPort ≠ (t.socks vfd).localPort
  others : ∀ i, i ≠ vfd → t.socks i = s.socks i

/-! ### The search -/

theorem afterPort_ranged {port : U16} (h : 49152 ≤ port.toNat) : 49152 ≤ (afterPort port).toNat := by
  have hlt := port.isLt
  have hstep := afterPort_iterate port 1 (by decide)
  rw [Function.iterate_one] at hstep
  rw [hstep]
  split <;> omega

theorem ephemeralPort_ranged (s : VNet) (tries : Nat) {port : U16} (h : 49152 ≤ port.toNat) :
    ((s.ephemeralPort tries port).1 = 0 ∨ 49152 ≤ (s.ephemeralPort tries port).1.toNat) ∧
      49152 ≤ (s.ephemeralPort tries port).2.toNat := by
  induction tries generalizing port with
  | zero => exact ⟨.inl rfl, h⟩
  | succ tries ih =>
    unfold ephemeralPort
    dsimp only
    split
    · exact ih (afterPort_ranged h)
    · exact ⟨.inr h, afterPort_ranged h⟩

/-- The first of the candidates that is not taken is the port found. -/
theorem ephemeralPort_first (s : VNet) {tries i : Nat} {port : U16} (hi : i < tries)
    (hfree : s.portTaken (afterPort^[i] port) = false) :
    ∃ j ≤ i, (s.ephemeralPort tries port).1 = afterPort^[j] port := by
  induction tries generalizing port i with
  | zero => omega
  | succ tries ih =>
    unfold ephemeralPort
    dsimp only
    split
    · rename_i htaken
      cases i with
      | zero => simp [htaken] at hfree
      | succ i =>
        have hrest : s.portTaken (afterPort^[i] (afterPort port)) = false := hfree
        obtain ⟨j, hj, heq⟩ := ih (by omega) hrest
        exact ⟨j + 1, by omega, heq⟩
    · exact ⟨0, Nat.zero_le _, rfl⟩

theorem ephemeralPort_found {s : VNet} (h : Ranged s) :
    s.portTaken (s.ephemeralPort 4096 s.nextEphemeral).1 = false ∧
      49152 ≤ (s.ephemeralPort 4096 s.nextEphemeral).1.toNat := by
  obtain ⟨i, hi, hfree⟩ := ephemeralPort_exists s s.nextEphemeral
  refine ⟨ephemeralPort_free s (by omega) hfree, ?_⟩
  obtain ⟨j, hj, heq⟩ := ephemeralPort_first s (show i < 4096 by omega) hfree
  have hlt := s.nextEphemeral.isLt
  unfold Ranged at h
  rw [heq, afterPort_iterate _ _ (by omega)]
  split <;> omega

/-! ### Binding -/

theorem udpBind_fresh {s : VNet} (h : Ranged s) {vfd : Int} (hopen : s.isOpen vfd = true) (ip : U32) :
    (s.udpBind vfd ip 0).2 = 0 ∧ BoundFresh s (s.udpBind vfd ip 0).1 vfd.toNat := by
  obtain ⟨hfree, hrange⟩ := ephemeralPort_found h
  have hne : (s.ephemeralPort 4096 s.nextEphemeral).1 ≠ 0 := by
    intro h0
    rw [h0] at hrange
    exact absurd hrange (by decide)
  have heq : s.udpBind vfd ip 0 =
      (setSock { s with nextEphemeral := (s.ephemeralPort 4096 s.nextEphemeral).2 } vfd.toNat
        { s.socks vfd.toNat with
          localIp := if ip = s.ip then 0 else ip
          localPort := (s.ephemeralPort 4096 s.nextEphemeral).1 }, 0) := by
    unfold udpBind
    dsimp only
    rw [if_neg (by simp [hopen]), if_pos rfl, if_neg hne]
  rw [heq]
  refine ⟨rfl, ?_, ?_, fun i hi => setSock_other _ _ hi⟩
  · rw [setSock_self]
    have := (s.ephemeralPort 4096 s.nextEphemeral).1.isLt
    exact ⟨hrange, by omega⟩
  · intro i hi hu hport
    rw [setSock_self] at hport
    have htaken : s.portTaken (s.ephemeralPort 4096 s.nextEphemeral).1 = true := by
      simp only [portTaken, List.any_eq_true, List.mem_range, Bool.and_eq_true, beq_iff_eq]
      exact ⟨i, hi, hu, hport⟩
    rw [hfree] at htaken
    cases htaken

theorem BoundFresh.congr {s t u : VNet} {vfd : Nat} (h : BoundFresh s t vfd) (hsocks : u.socks = t.socks) :
    BoundFresh s u vfd := by
  obtain ⟨h1, h2, h3⟩ := h
  refine ⟨?_, ?_, ?_⟩ <;> rw [hsocks]
  · exact h1
  · exact h2
  · exact h3

/-- A datagram from a socket without a port binds it first. -/
theorem udpSendTo_fresh {s : VNet} (h : Ranged s) {vfd : Int} (hopen : s.isOpen vfd = true)
    (hconf : s.configured = true) (hport : (s.socks vfd.toNat).localPort = 0) (dstIp : U32) (dstPort : U16)
    (buf : Mem) {len : Nat} (hlen : len ≤ MaxDatagram) :
    (s.udpSendTo vfd dstIp dstPort buf len).2.2 = len ∧
      BoundFresh s (s.udpSendTo vfd dstIp dstPort buf len).1 vfd.toNat := by
  have himplicit : s.implicitBind vfd = s.udpBind vfd 0 0 := if_pos hport
  obtain ⟨hret, hfresh⟩ := udpBind_fresh h hopen 0
  rw [← himplicit] at hret hfresh
  unfold udpSendTo
  dsimp only
  rw [if_neg (by simp [hopen]), if_neg (by simp [hconf]), if_neg (by omega), if_neg (not_not.mpr hret)]
  refine ⟨rfl, hfresh.congr ?_⟩
  show ((s.implicitBind vfd).1.sendIpv4 ..).1.socks = _
  rw [(sendIpv4_sends ..).eq]

/-! ### The counter along a run -/

theorem udpBind_ranged {s : VNet} (h : Ranged s) (vfd : Int) (ip : U32) (port : U16) :
    Ranged (s.udpBind vfd ip port).1 := by
  have hfound : 49152 ≤
      (if port = 0 then s.ephemeralPort 4096 s.nextEphemeral else (port, s.nextEphemeral)).2.toNat := by
    split
    · exact (ephemeralPort_ranged s 4096 h).2
    · exact h
  unfold udpBind
  split
  · exact h
  · dsimp only
    generalize (if port = 0 then s.ephemeralPort 4096 s.nextEphemeral else (port, s.nextEphemeral)) = found
      at hfound ⊢
    split
    · exact hfound
    · exact hfound

theorem udpSendTo_ranged {s : VNet} (h : Ranged s) (vfd : Int) (dstIp : U32) (dstPort : U16) (buf : Mem)
    (len : Nat) : Ranged (s.udpSendTo vfd dstIp dstPort buf len).1 := by
  have hbind : Ranged (s.implicitBind vfd).1 := by
    unfold implicitBind
    split
    · exact udpBind_ranged h ..
    · exact h
  unfold udpSendTo
  dsimp only
  split_ifs
  · exact h
  · exact h
  · exact h
  · exact hbind
  · show 49152 ≤ ((s.implicitBind vfd).1.sendIpv4 ..).1.nextEphemeral.toNat
    rw [(sendIpv4_sends ..).eq]
    exact hbind

theorem pushAll_ranged (a : Arrival) (l : List Nat) {s : VNet} (h : Ranged s) : Ranged (s.pushAll a l) := by
  induction l generalizing s with
  | nil => exact h
  | cons i l ih =>
    obtain ⟨⟨f, p, q, t, heq⟩, -⟩ := pushToSocket_frame s i a.srcIp a.srcPort a.data a.len
    have hpush : Ranged (s.pushToSocket i a.srcIp a.srcPort a.data a.len) := by
      rw [heq]
      exact h
    exact ih hpush

theorem deliverIpv4_ranged {s : VNet} (h : Ranged s) (k : Packet) : Ranged (s.deliverIpv4 k).1 := by
  unfold deliverIpv4
  split
  · rename_i hudp
    cases ha : k.arrival with
    | none =>
      obtain ⟨f, -, heq⟩ := onUdp_none s hudp ha
      rw [heq]
      exact h
    | some a =>
      obtain ⟨f, -, heq⟩ := onUdp_some s ha
      rw [heq]
      have hrx : Ranged (s.count fun t => { t with rxUdp := t.rxUdp + 1 }) := h
      exact pushAll_ranged a ((s.listeners a).map Fin.val) hrx
  · split
    · unfold Ranged
      rw [(onIcmp_sends s k.srcIp k.payload k.len).eq]
      exact h
    · exact h

theorem Hears.ranged {s t : VNet} (hears : Hears s t) (h : Ranged s) : Ranged t := by
  unfold Ranged
  rw [hears.eq]
  exact h

theorem onFrame_ranged {s : VNet} (h : Ranged s) (srcMac dstMac : U64) (etherType : U16) (payload : List U8) :
    Ranged (s.onFrame srcMac dstMac etherType payload).1 := by
  by_cases hip : s.takesIpv4 dstMac etherType payload = true
  · rw [onFrame_ipv4 hip]
    have hrx := hears_count s (fun t => { t with rxFrames := t.rxFrames + 1 }) rfl
    have hin := (hrx.trans (ipv4Input_hears (s.count fun t => { t with rxFrames := t.rxFrames + 1 }) srcMac
      (Mem.ofBytes payload) payload.length)).ranged h
    unfold onIpv4
    split
    · rename_i heq
      rw [heq] at hin
      exact hin
    · rename_i heq
      rw [heq] at hin
      exact deliverIpv4_ranged hin _
  · exact (onFrame_other hip srcMac).1.ranged h

theorem freePkt_ranged {s : VNet} (h : Ranged s) (idx : Int) : Ranged (s.freePkt idx) := by
  unfold freePkt
  split <;> exact h

theorem freeQueue_ranged (fuel : Nat) {s : VNet} (h : Ranged s) (idx : Int) : Ranged (s.freeQueue fuel idx) := by
  induction fuel generalizing s idx with
  | zero => exact h
  | succ fuel ih =>
    unfold freeQueue
    split
    · exact h
    · exact ih (freePkt_ranged h idx) _

theorem udpRecvFrom_ranged {s : VNet} (h : Ranged s) (vfd : Int) (max : Nat) (peek : Bool) :
    Ranged (s.udpRecvFrom vfd max peek).1 := by
  unfold udpRecvFrom
  dsimp only
  split
  · exact h
  · split
    · exact h
    · split
      · exact h
      · exact freePkt_ranged (s := s.setSock ..) h _

theorem exec_ranged {s : VNet} (h : Ranged s) (op : Op) : Ranged (s.exec op).1 := by
  cases op with
  | reset => exact (by decide : 49152 ≤ (49152 : U16).toNat)
  | configure mac ip netmask mtu => exact h
  | setEmit => exact h
  | udpOpen =>
    show Ranged s.udpOpen.1
    unfold udpOpen
    split <;> exact h
  | udpBind vfd ip port => exact udpBind_ranged h vfd ip port
  | udpSetBroadcast vfd on =>
    show Ranged (s.udpSetBroadcast vfd on)
    unfold udpSetBroadcast
    split <;> exact h
  | onFrame srcMac dstMac etherType payload => exact onFrame_ranged h srcMac dstMac etherType payload
  | udpRecvFrom vfd max peek => exact udpRecvFrom_ranged h vfd max peek
  | udpSendTo vfd dstIp dstPort buf => exact udpSendTo_ranged h vfd dstIp dstPort _ _
  | sendEchoRequest dstIp =>
    show Ranged (s.sendEchoRequest dstIp).1
    unfold sendEchoRequest
    dsimp only
    split
    · exact h
    · unfold Ranged
      rw [(sendIpv4_sends ..).eq]
      exact h
  | udpClose vfd =>
    show Ranged (s.udpClose vfd)
    unfold udpClose
    split
    · exact h
    · exact freeQueue_ranged PoolPackets h (s.socks vfd.toNat).qHead

theorem execAll_ranged (ops : List Op) {s : VNet} (h : Ranged s) : Ranged (s.execAll ops).1 := by
  induction ops generalizing s with
  | nil => exact h
  | cons op ops ih => exact ih (exec_ranged h op)

/-- **An ephemeral bind always succeeds.** In every state a run leads to, binding an
open socket to port 0, and sending from one that has no port, gives it a port from
49152 to 65535 that no open socket had, and leaves every other socket as it is. -/
theorem ephemeral_bind (ops : List Op) (s : VNet) (hs : s = (fresh.execAll ops).1) (vfd : Int)
    (hopen : s.isOpen vfd = true) :
    (∀ ip, (s.udpBind vfd ip 0).2 = 0 ∧ BoundFresh s (s.udpBind vfd ip 0).1 vfd.toNat) ∧
      ((s.socks vfd.toNat).localPort = 0 → s.configured = true → ∀ dstIp dstPort buf len, len ≤ MaxDatagram →
        (s.udpSendTo vfd dstIp dstPort buf len).2.2 = len ∧
          BoundFresh s (s.udpSendTo vfd dstIp dstPort buf len).1 vfd.toNat) := by
  have hranged : Ranged s := by
    rw [hs]
    exact execAll_ranged ops (by decide : 49152 ≤ (49152 : U16).toNat)
  refine ⟨udpBind_fresh hranged hopen, fun hport hconf dstIp dstPort buf len hlen => ?_⟩
  exact udpSendTo_fresh hranged hopen hconf hport dstIp dstPort buf hlen

/-- Two sockets already hold the first ephemeral ports; the third is bound by sending
and gets the next. -/
theorem ephemeral_bind_skips :
    let s := (fresh.execAll [.reset, .configure 0x020000000001 0x0A000001 0xFFFFFF00 1500, .udpOpen, .udpOpen,
      .udpOpen, .udpBind 1 0 49152, .udpBind 2 0 0]).1
    let t := (s.udpSendTo 0 0x0A0000FF 6000 Mem.zero 4).1
    BoundFresh s t 0 ∧ (t.socks 0).localPort = 49154 := by
  intro s t
  have h := (ephemeral_bind _ s rfl 0 (by decide)).2 (by decide) (by decide) 0x0A0000FF 6000 Mem.zero 4 (by decide)
  exact ⟨h.2, by decide +kernel⟩

end SysZerotier.Net.VNet
