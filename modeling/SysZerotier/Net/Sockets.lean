import SysZerotier.Net.Fragment
import SysZerotier.Net.Pool
import SysZerotier.Port.Lan

/-! Which sockets an operation opens and closes, and which it touches.

`udpOpen` opens a free one, `udpClose` closes its own, a reset closes all; nothing
else changes which are open (`SameOpen`). What is done to one socket leaves the
table's other entries as they are (`OnlySock`). -/
namespace SysZerotier.Net.VNet

/-- The same sockets are open. -/
structure SameOpen (s t : VNet) : Prop where
  used : ∀ i, (t.socks i).used = (s.socks i).used

/-- Socket `k` apart, the table is the same. -/
structure OnlySock (k : Nat) (s t : VNet) : Prop where
  other : ∀ i, i ≠ k → t.socks i = s.socks i

theorem SameOpen.refl (s : VNet) : SameOpen s s := ⟨fun _ => rfl⟩

theorem SameOpen.trans {s t u : VNet} (h : SameOpen s t) (h' : SameOpen t u) : SameOpen s u :=
  ⟨fun i => (h'.used i).trans (h.used i)⟩

theorem SameOpen.of_socks {s t : VNet} (h : t.socks = s.socks) : SameOpen s t := ⟨fun i => by rw [h]⟩

theorem SamePool.sameOpen {s t : VNet} (h : SamePool s t) : SameOpen s t := ⟨h.used⟩

theorem SameOpen.isOpen {s t : VNet} (h : SameOpen s t) (vfd : Int) : t.isOpen vfd = s.isOpen vfd := by
  unfold VNet.isOpen
  rw [h.used]

theorem OnlySock.refl (k : Nat) (s : VNet) : OnlySock k s s := ⟨fun _ _ => rfl⟩

theorem OnlySock.trans {k : Nat} {s t u : VNet} (h : OnlySock k s t) (h' : OnlySock k t u) :
    OnlySock k s u :=
  ⟨fun i hi => (h'.other i hi).trans (h.other i hi)⟩

theorem setSock_self (s : VNet) (k : Nat) (v : Socket) : (s.setSock k v).socks k = v :=
  Function.update_self ..

theorem setSock_other (s : VNet) {k i : Nat} (v : Socket) (hi : i ≠ k) :
    (s.setSock k v).socks i = s.socks i :=
  Function.update_of_ne hi ..

theorem OnlySock.setSock (s : VNet) (k : Nat) (v : Socket) : OnlySock k s (s.setSock k v) :=
  ⟨fun _ hi => s.setSock_other v hi⟩

theorem OnlySock.of_socks {k : Nat} {s t : VNet} (h : t.socks = s.socks) : OnlySock k s t :=
  ⟨fun i _ => congrFun h i⟩

theorem freePkt_socks (s : VNet) (idx : Int) : (s.freePkt idx).socks = s.socks := by
  unfold freePkt
  split <;> rfl

/-! ### Frames -/

theorem pushAll_sameOpen (a : Arrival) (l : List Nat) (s : VNet) : SameOpen s (s.pushAll a l) := by
  induction l generalizing s with
  | nil => exact .refl s
  | cons i l ih =>
    have hpush : SameOpen s (s.pushToSocket i a.srcIp a.srcPort a.data a.len) :=
      ⟨fun j => ((pushToSocket_frame s i a.srcIp a.srcPort a.data a.len).2 j).1⟩
    exact hpush.trans (ih _)

theorem deliverIpv4_sameOpen (s : VNet) (k : Packet) : SameOpen s (s.deliverIpv4 k).1 := by
  unfold deliverIpv4
  split
  · rename_i hudp
    cases ha : k.arrival with
    | none =>
      obtain ⟨f, -, heq⟩ := onUdp_none s hudp ha
      rw [heq]
      exact .of_socks rfl
    | some a =>
      obtain ⟨f, -, heq⟩ := onUdp_some s ha
      rw [heq]
      exact ⟨(pushAll_sameOpen a ((s.listeners a).map Fin.val)
        (s.count fun t => { t with rxUdp := t.rxUdp + 1 })).used⟩
  · split
    · exact (onIcmp_sends s k.srcIp k.payload k.len).samePool.sameOpen
    · exact .refl s

theorem onFrame_sameOpen (s : VNet) (srcMac dstMac : U64) (etherType : U16) (payload : List U8) :
    SameOpen s (s.onFrame srcMac dstMac etherType payload).1 := by
  by_cases hip : s.takesIpv4 dstMac etherType payload = true
  · rw [onFrame_ipv4 hip]
    have hrx := hears_count s (fun t => { t with rxFrames := t.rxFrames + 1 }) rfl
    unfold onIpv4
    have hin := hrx.trans (ipv4Input_hears (s.count fun t => { t with rxFrames := t.rxFrames + 1 })
      srcMac (Mem.ofBytes payload) payload.length)
    split
    · rename_i heq
      rw [heq] at hin
      exact hin.samePool.sameOpen
    · rename_i heq
      rw [heq] at hin
      exact hin.samePool.sameOpen.trans (deliverIpv4_sameOpen ..)
  · exact (onFrame_other hip srcMac).1.samePool.sameOpen

/-! ### Opening and closing -/

theorem isOpen_iff {s : VNet} {vfd : Int} :
    s.isOpen vfd = true ↔ ∃ i : Nat, vfd = i ∧ i < MaxSockets ∧ (s.socks i).used = true := by
  unfold isOpen
  simp only [Bool.and_eq_true, decide_eq_true_eq]
  constructor
  · rintro ⟨⟨h0, hlt⟩, hu⟩
    exact ⟨vfd.toNat, by omega, by omega, hu⟩
  · rintro ⟨i, rfl, hlt, hu⟩
    exact ⟨⟨by omega, by omega⟩, hu⟩

/-- `udpOpen` fails and changes nothing, or opens a socket that was closed. -/
theorem udpOpen_cases (s : VNet) :
    s.udpOpen = (s, InvalidSocket) ∨
      ∃ i : Nat, i < MaxSockets ∧ (s.socks i).used = false ∧
        s.udpOpen = (s.setSock i { Socket.empty with used := true }, (i : Int)) := by
  unfold udpOpen
  cases hfree : (List.range MaxSockets).find? fun i => !(s.socks i).used with
  | none => exact .inl rfl
  | some i =>
    have hunused := List.find?_some hfree
    rw [Bool.not_eq_true'] at hunused
    exact .inr ⟨i, List.mem_range.mp (List.mem_of_find?_eq_some hfree), hunused, rfl⟩

theorem isOpen_setSock {s : VNet} {i : Nat} (hi : i < MaxSockets) (k : Socket) (vfd : Int) :
    (s.setSock i k).isOpen vfd = true ↔ (vfd = i ∧ k.used = true) ∨ (vfd ≠ i ∧ s.isOpen vfd = true) := by
  rw [isOpen_iff, isOpen_iff]
  constructor
  · rintro ⟨j, rfl, hj, hu⟩
    by_cases hji : j = i
    · subst hji
      rw [setSock_self] at hu
      exact .inl ⟨rfl, hu⟩
    · rw [setSock_other s k hji] at hu
      exact .inr ⟨by omega, j, rfl, hj, hu⟩
  · rintro (⟨rfl, hu⟩ | ⟨hne, j, rfl, hj, hu⟩)
    · refine ⟨i, rfl, hi, ?_⟩
      rw [setSock_self]
      exact hu
    · refine ⟨j, rfl, hj, ?_⟩
      rw [setSock_other s k (by omega)]
      exact hu

theorem freeQueue_socks (fuel : Nat) (s : VNet) (idx : Int) : (s.freeQueue fuel idx).socks = s.socks := by
  induction fuel generalizing s idx with
  | zero => rfl
  | succ fuel ih =>
    unfold freeQueue
    split
    · rfl
    · rw [ih, freePkt_socks]

theorem udpClose_only (s : VNet) (vfd : Int) : OnlySock vfd.toNat s (s.udpClose vfd) := by
  unfold udpClose
  split
  · exact .refl _ s
  · exact (OnlySock.of_socks (freeQueue_socks ..)).trans (.setSock ..)

theorem udpClose_isOpen (s : VNet) (vfd other : Int) :
    (s.udpClose vfd).isOpen other = true ↔ other ≠ vfd ∧ s.isOpen other = true := by
  unfold udpClose
  cases ho : s.isOpen vfd with
  | false =>
    simp only [Bool.not_false, if_true]
    refine ⟨fun h => ⟨?_, h⟩, fun h => h.2⟩
    rintro rfl
    rw [ho] at h
    cases h
  | true =>
    obtain ⟨i, rfl, hi, -⟩ := isOpen_iff.mp ho
    have hsame : SameOpen s (s.freeQueue PoolPackets (s.socks i).qHead) := .of_socks (freeQueue_socks ..)
    rw [if_neg (by decide), Int.toNat_natCast, isOpen_setSock hi, hsame.isOpen]
    exact ⟨fun h => h.elim (fun h => (by cases h.2)) id, .inr⟩

/-! ### One socket at a time -/

theorem udpBind_only (s : VNet) (vfd : Int) (ip : U32) (port : U16) :
    OnlySock vfd.toNat s (s.udpBind vfd ip port).1 := by
  unfold udpBind
  split
  · exact .refl _ s
  · generalize (if port = 0 then s.ephemeralPort 4096 s.nextEphemeral else (port, s.nextEphemeral)) = found
    dsimp only
    split
    · exact .of_socks rfl
    · exact ⟨fun i hi => Function.update_of_ne hi ..⟩

theorem udpSendTo_only (s : VNet) (vfd : Int) (dstIp : U32) (dstPort : U16) (buf : Mem) (len : Nat) :
    OnlySock vfd.toNat s (s.udpSendTo vfd dstIp dstPort buf len).1 := by
  have hbind : OnlySock vfd.toNat s (s.implicitBind vfd).1 := by
    unfold implicitBind
    split
    · exact udpBind_only ..
    · exact .refl _ s
  unfold udpSendTo
  dsimp only
  split
  · exact .refl _ s
  · split
    · exact .refl _ s
    · split
      · exact .of_socks rfl
      · split
        · exact hbind
        · refine hbind.trans (.of_socks ?_)
          show ((s.implicitBind vfd).1.sendIpv4 ..).1.socks = _
          rw [(sendIpv4_sends ..).eq]

theorem udpRecvFrom_only (s : VNet) (vfd : Int) (max : Nat) (peek : Bool) :
    OnlySock vfd.toNat s (s.udpRecvFrom vfd max peek).1 := by
  unfold udpRecvFrom
  dsimp only
  split
  · exact .refl _ s
  · split
    · exact .refl _ s
    · split
      · exact .refl _ s
      · exact (OnlySock.setSock s vfd.toNat _).trans (.of_socks (freePkt_socks ..))

theorem udpRecvFrom_sameOpen (s : VNet) (vfd : Int) (max : Nat) (peek : Bool) :
    SameOpen s (s.udpRecvFrom vfd max peek).1 := by
  unfold udpRecvFrom
  dsimp only
  split
  · exact .refl s
  · split
    · exact .refl s
    · split
      · exact .refl s
      · refine SameOpen.trans ?_ (.of_socks (freePkt_socks ..))
        refine ⟨fun i => ?_⟩
        by_cases hi : i = vfd.toNat
        · rw [hi, setSock_self]
        · rw [setSock_other s _ hi]

end SysZerotier.Net.VNet

namespace SysZerotier.Port
open Net

/-! ### The calls of the port layer -/

theorem openLanSocket_cases (v : VNet) :
    openLanSocket v = (v, InvalidSocket) ∨
      ∃ i : Nat, i < MaxSockets ∧ (v.socks i).used = false ∧
        openLanSocket v = (v.setSock i { Socket.empty with used := true }, (i : Int)) := by
  unfold openLanSocket
  split
  · exact VNet.udpOpen_cases v
  · exact .inl rfl

theorem bindLanSocket_sameOpen (v : VNet) (vfd : Int) (port : U16) :
    VNet.SameOpen v (bindLanSocket v vfd port).1 := by
  unfold bindLanSocket
  split
  · exact .refl v
  · exact (VNet.udpBind_samePool ..).sameOpen

theorem SendCall.exec_sameOpen (v : VNet) (c : SendCall) : VNet.SameOpen v (c.exec v).1 := by
  have hsend : ∀ vfd dstIp port data len, VNet.SameOpen v (mirrorTo v vfd dstIp port data len).1 :=
    fun vfd dstIp port data len => (VNet.udpSendTo_samePool v vfd dstIp port data _).sameOpen
  cases c with
  | mirrorLanDatagram vfd dstIp port data =>
    simp only [SendCall.exec, Port.mirrorLanDatagram]
    split
    · exact .refl v
    · split
      · exact .refl v
      · exact hsend ..
  | mirrorLanBroadcast vfd port data =>
    simp only [SendCall.exec, Port.mirrorLanBroadcast]
    split
    · exact .refl v
    · exact hsend ..

/-- The virtual socket a call sends from. -/
def SendCall.vfd : SendCall → Int
  | .mirrorLanDatagram vfd _ _ _ => vfd
  | .mirrorLanBroadcast vfd _ _ => vfd

theorem SendCall.exec_only (v : VNet) (c : SendCall) : VNet.OnlySock c.vfd.toNat v (c.exec v).1 := by
  cases c with
  | mirrorLanDatagram vfd dstIp port data =>
    simp only [SendCall.exec, Port.mirrorLanDatagram]
    split
    · exact .refl _ v
    · split
      · exact .refl _ v
      · exact VNet.udpSendTo_only ..
  | mirrorLanBroadcast vfd port data =>
    simp only [SendCall.exec, Port.mirrorLanBroadcast]
    split
    · exact .refl _ v
    · exact VNet.udpSendTo_only ..

/-- The callback closes every socket or none. -/
theorem cbNetworkConfig_isOpen (v : VNet) (op : ConfigOperation) (conf : NetworkConfig) :
    if op = .destroy ∨ op = .down then ∀ vfd, (cbNetworkConfig v op conf).isOpen vfd = false
    else VNet.SameOpen v (cbNetworkConfig v op conf) := by
  unfold cbNetworkConfig
  split
  · intro vfd
    rw [← Bool.not_eq_true, VNet.isOpen_iff]
    rintro ⟨i, -, -, hu⟩
    cases hu
  · split <;> exact .of_socks rfl

end SysZerotier.Port
