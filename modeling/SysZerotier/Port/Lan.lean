import SysZerotier.Net.Receive

/-! The LAN calls of the port layer and its network configuration callback
(`source/zt_port.cpp`).

Each call holds the interface's lock from its first line to its last, so it is a
function on the interface; `cbEmit` is called while it runs, and the frames it was
handed are part of the result. The network id the callback stores is left to
`Switch`, which owns it. -/
namespace SysZerotier.Port
open Net

/-! ### LAN calls -/

def openLanSocket (v : VNet) : VNet × Int := if v.configured then v.udpOpen else (v, InvalidSocket)

def bindLanSocket (v : VNet) (vfd : Int) (port : U16) : VNet × Bool :=
  if !v.configured then (v, false) else ((v.udpBind vfd 0 port).1, (v.udpBind vfd 0 port).2 == 0)

/-- A call of `udpSendTo` that reports whether the datagram was taken. -/
def mirrorTo (v : VNet) (vfd : Int) (dstIp : U32) (port : U16) (data : Mem) (len : U32) :
    VNet × List Frame × Bool :=
  let sent := v.udpSendTo vfd dstIp port data len.toNat
  (sent.1, sent.2.1, decide (0 ≤ sent.2.2))

def mirrorLanDatagram (v : VNet) (vfd : Int) (dstIp : U32) (port : U16) (data : Mem) (len : U32) :
    VNet × List Frame × Bool :=
  if !v.configured then (v, [], false)
  else if dstIp &&& v.netmask ≠ v.ip &&& v.netmask then (v, [], false)
  else mirrorTo v vfd dstIp port data len

def mirrorLanBroadcast (v : VNet) (vfd : Int) (port : U16) (data : Mem) (len : U32) :
    VNet × List Frame × Bool :=
  if !v.configured then (v, [], false) else mirrorTo v vfd v.broadcastIp port data len

/-- A datagram handed to the port, by which of its two calls. -/
inductive SendCall where
  | mirrorLanDatagram (vfd : Int) (dstIp : U32) (port : U16) (data : List U8)
  | mirrorLanBroadcast (vfd : Int) (port : U16) (data : List U8)
  deriving DecidableEq

/-- The length is passed as an `unsigned int`. -/
def SendCall.exec (v : VNet) : SendCall → VNet × List Frame × Bool
  | .mirrorLanDatagram vfd dstIp port data =>
    Port.mirrorLanDatagram v vfd dstIp port (Mem.ofBytes data) (BitVec.ofNat 32 data.length)
  | .mirrorLanBroadcast vfd port data =>
    Port.mirrorLanBroadcast v vfd port (Mem.ofBytes data) (BitVec.ofNat 32 data.length)

/-- A datagram the interface took. -/
structure Handed where
  vfd : Int
  dstIp : U32
  port : U16
  data : List U8
  deriving DecidableEq

/-- What a call hands to the interface. -/
def SendCall.datagram (v : VNet) : SendCall → Handed
  | .mirrorLanDatagram vfd dstIp port data => ⟨vfd, dstIp, port, data⟩
  | .mirrorLanBroadcast vfd port data => ⟨vfd, v.broadcastIp, port, data⟩

/-- The datagram the call hands over, if the interface takes it. -/
def SendCall.handed (v : VNet) (c : SendCall) : Option Handed :=
  if (c.exec v).2.2 then some (c.datagram v) else none

def receiveLanDatagram (v : VNet) (vfd : Int) (max : Nat) (peek : Bool) : VNet × Option Datagram :=
  v.udpRecvFrom vfd max peek

def closeLanSocket (v : VNet) (vfd : Int) : VNet := v.udpClose vfd

/-- The managed address and mask. -/
def getLanIpConfig (v : VNet) : Option (U32 × U32) := if !v.configured then none else some (v.ip, v.netmask)

/-! ### When a datagram is taken -/

/-- The interface takes a datagram of this length from the socket. -/
def takes (v : VNet) (vfd : Int) (len : Nat) : Bool :=
  v.configured && v.isOpen vfd && decide (len ≤ MaxDatagram) && (v.implicitBind vfd).2 == 0

theorem udpSendTo_of_takes {v : VNet} {vfd : Int} {len : Nat} (h : takes v vfd len = true) (dstIp : U32)
    (port : U16) (data : Mem) : (v.udpSendTo vfd dstIp port data len).2.2 = len := by
  simp only [takes, Bool.and_eq_true, decide_eq_true_eq, beq_iff_eq] at h
  obtain ⟨⟨⟨hc, ho⟩, hl⟩, hb⟩ := h
  unfold VNet.udpSendTo
  rw [ho, hc]
  dsimp only
  rw [if_neg (by decide), if_neg (by decide), if_neg (by omega), if_neg (by rw [hb]; decide)]

theorem udpSendTo_of_not_takes {v : VNet} {vfd : Int} {len : Nat} (h : takes v vfd len = false)
    (dstIp : U32) (port : U16) (data : Mem) :
    (v.udpSendTo vfd dstIp port data len).2.2 = -1 ∧ (v.udpSendTo vfd dstIp port data len).2.1 = [] := by
  unfold VNet.udpSendTo
  dsimp only
  split
  · exact ⟨rfl, rfl⟩
  · rename_i ho
    split
    · exact ⟨rfl, rfl⟩
    · rename_i hc
      split
      · exact ⟨rfl, rfl⟩
      · rename_i hl
        split
        · exact ⟨rfl, rfl⟩
        · rename_i hb
          simp only [Bool.not_eq_true', Bool.not_eq_false] at ho hc
          simp [takes, ho, hc, not_ne_iff.mp hb, Nat.le_of_not_lt hl] at h

theorem mirrorTo_ok (v : VNet) (vfd : Int) (dstIp : U32) (port : U16) (data : Mem) (len : U32) :
    (mirrorTo v vfd dstIp port data len).2.2 = takes v vfd len.toNat := by
  unfold mirrorTo
  cases h : takes v vfd len.toNat with
  | true => simp [udpSendTo_of_takes h]
  | false => simp [udpSendTo_of_not_takes h]

theorem mirrorLanDatagram_ok (v : VNet) (vfd : Int) (dstIp : U32) (port : U16) (data : Mem) (len : U32) :
    (mirrorLanDatagram v vfd dstIp port data len).2.2 =
      (dstIp &&& v.netmask == v.ip &&& v.netmask && takes v vfd len.toNat) := by
  unfold mirrorLanDatagram
  by_cases hc : v.configured = true
  · rw [hc, if_neg (by decide)]
    split
    · rename_i hne
      rw [beq_eq_false_iff_ne.mpr hne]
      rfl
    · rename_i heq
      rw [mirrorTo_ok, beq_iff_eq.mpr (not_ne_iff.mp heq), Bool.true_and]
  · simp only [Bool.not_eq_true] at hc
    simp [takes, hc]

theorem mirrorLanBroadcast_ok (v : VNet) (vfd : Int) (port : U16) (data : Mem) (len : U32) :
    (mirrorLanBroadcast v vfd port data len).2.2 = takes v vfd len.toNat := by
  unfold mirrorLanBroadcast
  by_cases hc : v.configured = true
  · rw [hc, if_neg (by decide), mirrorTo_ok]
  · simp only [Bool.not_eq_true] at hc
    simp [takes, hc]

/-- A datagram that is not taken leaves no frame. -/
theorem SendCall.frames_of_refused (v : VNet) (c : SendCall) (h : (c.exec v).2.2 = false) :
    (c.exec v).2.1 = [] := by
  have hrefused : ∀ vfd dstIp port data (len : U32), takes v vfd len.toNat = false →
      (mirrorTo v vfd dstIp port data len).2.1 = [] :=
    fun vfd dstIp port data len h => (udpSendTo_of_not_takes h dstIp port data).2
  cases c with
  | mirrorLanDatagram vfd dstIp port data =>
    simp only [SendCall.exec, Port.mirrorLanDatagram] at h ⊢
    split
    · rfl
    · split
      · rfl
      · rename_i hc heq
        rw [if_neg hc, if_neg heq, mirrorTo_ok] at h
        exact hrefused vfd dstIp port _ _ h
  | mirrorLanBroadcast vfd port data =>
    simp only [SendCall.exec, Port.mirrorLanBroadcast] at h ⊢
    split
    · rfl
    · rename_i hc
      rw [if_neg hc, mirrorTo_ok] at h
      exact hrefused vfd _ port _ _ h

/-! ### The network configuration callback -/

/-- `ZT_VirtualNetworkConfigOperation`. -/
inductive ConfigOperation where
  | up
  | configUpdate
  | down
  | destroy
  deriving DecidableEq

/-- One assigned address, a `sockaddr`; ZeroTier keeps the prefix length in the
port of an `AF_INET` one. -/
structure AssignedAddress where
  inet : Bool
  ip : U32
  bits : U16

/-- What the callback reads of `ZT_VirtualNetworkConfig`. -/
structure NetworkConfig where
  mac : U64
  mtu : U32
  assignedAddresses : List AssignedAddress

/-- `bits ? (0xFFFFFFFFu << (32 - bits)) : 0`, defined for `bits ≤ 32`. -/
def prefixMask (bits : U16) : U32 := if bits = 0 then 0 else (0xFFFFFFFF : U32) <<< (32 - bits.toNat)

/-- What the callback does to the interface. -/
def cbNetworkConfig (v : VNet) (op : ConfigOperation) (conf : NetworkConfig) : VNet :=
  if op = .destroy ∨ op = .down then v.reset.setEmit
  else
    match conf.assignedAddresses.find? fun a => a.inet with
    | none => v
    | some a => v.configure conf.mac a.ip (prefixMask a.bits) (conf.mtu.setWidth 16)

end SysZerotier.Port
