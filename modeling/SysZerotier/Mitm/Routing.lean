import SysZerotier.Mitm.Handlers

/-! Where the send commands of a UDP socket take a datagram.

`SendTo` decides by the last octet of the destination, `Send` and `Write` by the
managed subnet, `SendMMsg` by the subnet and its broadcast address, and each then
depends on whether the interface takes the datagram. `sendTo_relays_iff`,
`sends_agree_iff` and `payload_transparent_iff` say exactly when `SendTo` relays a
destination outside the overlay, when the four commands agree, and when the content
of a datagram makes no difference. -/
namespace SysZerotier.Mitm
open Net Port

namespace Shim

/-- A virtual socket is there for the descriptor, or `SendTo` can have one opened for
it, and the interface takes a datagram of this length from it. -/
def canCarry (s : Shim) (pid : U64) (fd : Int) (len : Nat) : Bool :=
  match s.port, s.table.findLanSocketLocked pid fd with
  | some v, some i =>
    (s.table i).udp &&
      if (s.table i).mirrored then takes v (s.table i).vnetFd len
      else
        (s.table i).boundPort != 0 && v.configured && decide (len ≤ MaxDatagram) &&
          (List.range MaxSockets).any fun j => !(v.socks j).used
  | _, _ => false

/-- The virtual socket `SendTo` uses for a directed broadcast. -/
def broadcastMirror (s : Shim) (pid : U64) (fd : Int) : Shim × Int :=
  let found := s.table.lookupSend pid fd
  if found.2 = InvalidSocket ∧ found.1 ≠ 0 then s.ensureLanMirror pid fd found.1 else (s, found.2)

/-- The two interfaces are on the same network. -/
structure SameLan (v w : VNet) : Prop where
  configured : w.configured = v.configured
  ip : w.ip = v.ip
  netmask : w.netmask = v.netmask

theorem takes_invalid (v : VNet) (len : Nat) : takes v InvalidSocket len = false := by
  have : v.isOpen InvalidSocket = false := by
    unfold VNet.isOpen InvalidSocket
    simp
  simp [takes, this]

/-- Binding an open socket to a port succeeds. -/
theorem udpBind_port {v : VNet} {vfd : Int} (ho : v.isOpen vfd = true) (ip : U32) {port : U16}
    (hp : port ≠ 0) :
    v.udpBind vfd ip port =
      (v.setSock vfd.toNat
        { v.socks vfd.toNat with localIp := if ip = v.ip then 0 else ip, localPort := port }, 0) := by
  unfold VNet.udpBind
  rw [ho, if_neg (by decide), if_neg hp]
  dsimp only
  rw [if_neg hp]

theorem isOpen_natCast {v : VNet} {j : Nat} (hj : j < MaxSockets) (hu : (v.socks j).used = true) :
    v.isOpen j = true := by
  unfold VNet.isOpen
  rw [Int.toNat_natCast, hu]
  simp [hj]

/-- With a free socket and a port, a mirror can be opened and bound, and it takes
whatever is not too long. -/
theorem open_bind {v : VNet} (hc : v.configured = true) {port : U16} (hp : port ≠ 0) {j : Nat}
    (hj : (List.range MaxSockets).find? (fun i => !(v.socks i).used) = some j) :
    ∃ w, (openLanSocket v).2 = j ∧ bindLanSocket (openLanSocket v).1 j port = (w, true) ∧ SameLan v w ∧
      ∀ len, takes w j len = decide (len ≤ MaxDatagram) := by
  have hlt : j < MaxSockets := List.mem_range.mp (List.mem_of_find?_eq_some hj)
  have hopen : openLanSocket v = (v.setSock j { Socket.empty with used := true }, (j : Int)) := by
    unfold openLanSocket VNet.udpOpen
    rw [if_pos hc, hj]
  rw [hopen]
  generalize ho : v.setSock j { Socket.empty with used := true } = o
  have hused : (o.socks j).used = true := by
    rw [← ho]
    simp only [VNet.setSock, Function.update_self]
  have hlan : SameLan v o := by
    rw [← ho]
    exact ⟨rfl, rfl, rfl⟩
  have hbind := udpBind_port (isOpen_natCast hlt hused) 0 hp
  rw [Int.toNat_natCast] at hbind
  refine ⟨(o.udpBind j 0 port).1, rfl, ?_, ?_, fun len => ?_⟩
  · unfold bindLanSocket
    rw [hlan.configured, hc, hbind]
    rfl
  · rw [hbind]
    exact ⟨hlan.configured, hlan.ip, hlan.netmask⟩
  · rw [hbind]
    generalize hw : o.setSock j
      { o.socks j with localIp := if (0 : U32) = o.ip then 0 else 0, localPort := port } = w
    have hsock : (w.socks j).used = true ∧ (w.socks j).localPort = port := by
      rw [← hw]
      simp only [VNet.setSock, Function.update_self]
      exact ⟨hused, trivial⟩
    have hconf : w.configured = true := by
      rw [← hw]
      exact hlan.configured.trans hc
    have himplicit : (w.implicitBind j).2 = 0 := by
      unfold VNet.implicitBind
      rw [Int.toNat_natCast, hsock.2, if_neg hp]
    unfold takes
    rw [hconf, isOpen_natCast hlt hsock.1, himplicit]
    simp

/-- No socket to be had: nothing changes. -/
theorem ensureLanMirror_refused {s : Shim} {v : VNet} (hport : s.port = some v) {pid : U64} {fd : Int}
    {port : U16} (hp : port ≠ 0) (hgo : s.table.mirrorOf pid fd = none)
    (hopen : openLanSocket v = (v, InvalidSocket)) :
    s.ensureLanMirror pid fd port = (s, InvalidSocket) := by
  rw [ensureLanMirror, hport]
  dsimp only
  rw [if_neg hp, hgo]
  dsimp only
  rw [hopen, if_pos rfl, ← hport]

/-- A socket opened and bound goes into the entry. -/
theorem ensureLanMirror_opened {s : Shim} {v w : VNet} (hport : s.port = some v) {pid : U64} {fd : Int}
    {port : U16} (hp : port ≠ 0) {i j : Nat} (hfind : s.table.findLanSocketLocked pid fd = some i)
    (hudp : (s.table i).udp = true) (hmirrored : (s.table i).mirrored = false)
    (hopen : (openLanSocket v).2 = j) (hbind : bindLanSocket (openLanSocket v).1 j port = (w, true)) :
    s.ensureLanMirror pid fd port =
      ({ s with
          table := s.table.store i { s.table i with vnetFd := j, mirrored := true }
          port := some w }, (j : Int)) := by
  have hgo : s.table.mirrorOf pid fd = none := by
    simp [Table.mirrorOf, hfind, hudp, hmirrored]
  have hvalid : (j : Int) ≠ InvalidSocket := by
    unfold InvalidSocket
    omega
  have hinstall : s.table.install pid fd j =
      (s.table.store i { s.table i with vnetFd := j, mirrored := true }, (j : Int), true) := by
    simp [Table.install, hfind, hudp, hmirrored]
  rw [ensureLanMirror, hport]
  dsimp only
  rw [if_neg hp, hgo]
  dsimp only
  rw [hopen, if_neg hvalid, hbind]
  dsimp only
  rw [if_neg (by decide), hinstall]
  rfl

theorem openLanSocket_refused {v : VNet}
    (h : v.configured = false ∨ (List.range MaxSockets).find? (fun j => !(v.socks j).used) = none) :
    openLanSocket v = (v, InvalidSocket) := by
  unfold openLanSocket VNet.udpOpen
  rcases h with hc | hfree
  · rw [hc]
    rfl
  · rw [hfree]
    split <;> rfl

/-- What `SendTo` finds or opens for a broadcast carries the datagram just when the
socket can. -/
theorem broadcastMirror_carries (s : Shim) {v : VNet} (hport : s.port = some v) (pid : U64) (fd : Int)
    (len : Nat) :
    ∃ w, (s.broadcastMirror pid fd).1.port = some w ∧ SameLan v w ∧
      (((s.broadcastMirror pid fd).2 ≠ InvalidSocket ∧ takes w (s.broadcastMirror pid fd).2 len = true) ↔
        s.canCarry pid fd len = true) := by
  have hself : SameLan v v := ⟨rfl, rfl, rfl⟩
  have hnone : s.broadcastMirror pid fd = (s, InvalidSocket) → s.canCarry pid fd len = false →
      ∃ w, (s.broadcastMirror pid fd).1.port = some w ∧ SameLan v w ∧
        (((s.broadcastMirror pid fd).2 ≠ InvalidSocket ∧ takes w (s.broadcastMirror pid fd).2 len = true) ↔
          s.canCarry pid fd len = true) := by
    intro hm hcarry
    rw [hm, hcarry]
    refine ⟨v, hport, hself, ?_⟩
    simp
  cases hfind : s.table.findLanSocketLocked pid fd with
  | none =>
    apply hnone
    · simp [broadcastMirror, Table.lookupSend, hfind]
    · simp [canCarry, hport, hfind]
  | some i =>
    cases hudp : (s.table i).udp with
    | false =>
      apply hnone
      · simp [broadcastMirror, Table.lookupSend, hfind, hudp]
      · simp [canCarry, hport, hfind, hudp]
    | true =>
      cases hmirrored : (s.table i).mirrored with
      | true =>
        have hcarry : s.canCarry pid fd len = takes v (s.table i).vnetFd len := by
          simp [canCarry, hport, hfind, hudp, hmirrored]
        by_cases hvfd : (s.table i).vnetFd = InvalidSocket
        · refine hnone ?_ (by rw [hcarry, hvfd, takes_invalid])
          simp [broadcastMirror, Table.lookupSend, hfind, hudp, hmirrored, hvfd, ensureLanMirror, hport,
            Table.mirrorOf]
        · have hmirror : s.broadcastMirror pid fd = (s, (s.table i).vnetFd) := by
            simp [broadcastMirror, Table.lookupSend, hfind, hudp, hmirrored, hvfd]
          rw [hmirror, hcarry]
          exact ⟨v, hport, hself, and_iff_right hvfd⟩
      | false =>
        have hcarry : s.canCarry pid fd len = ((s.table i).boundPort != 0 && v.configured &&
            decide (len ≤ MaxDatagram) && (List.range MaxSockets).any fun j => !(v.socks j).used) := by
          simp [canCarry, hport, hfind, hudp, hmirrored]
        by_cases hp : (s.table i).boundPort = 0
        · apply hnone
          · simp [broadcastMirror, Table.lookupSend, hfind, hudp, hmirrored, hp]
          · rw [hcarry, hp]
            rfl
        · have hmirror : s.broadcastMirror pid fd = s.ensureLanMirror pid fd (s.table i).boundPort := by
            simp only [broadcastMirror, Table.lookupSend, hfind, hudp, hmirrored, if_true]
            exact if_pos ⟨rfl, hp⟩
          have hgo : s.table.mirrorOf pid fd = none := by
            simp [Table.mirrorOf, hfind, hudp, hmirrored]
          cases hfree : (List.range MaxSockets).find? fun j => !(v.socks j).used with
          | none =>
            refine hnone (hmirror.trans (ensureLanMirror_refused hport hp hgo
              (openLanSocket_refused (.inr hfree)))) ?_
            have hany : ((List.range MaxSockets).any fun j => !(v.socks j).used) = false := by
              rw [List.any_eq_false]
              exact fun j hj => List.find?_eq_none.mp hfree j hj
            rw [hcarry, hany, Bool.and_false]
          | some j =>
            cases hc : v.configured with
            | false =>
              refine hnone (hmirror.trans (ensureLanMirror_refused hport hp hgo
                (openLanSocket_refused (.inl hc)))) ?_
              rw [hcarry, hc, Bool.and_false, Bool.false_and, Bool.false_and]
            | true =>
              obtain ⟨w, hvfd, hbind, hlan, htakes⟩ := open_bind hc hp hfree
              have hany : ((List.range MaxSockets).any fun j => !(v.socks j).used) = true := by
                rw [List.any_eq_true]
                have hunused := List.find?_some hfree
                exact ⟨j, List.mem_of_find?_eq_some hfree, hunused⟩
              have hvalid : (j : Int) ≠ InvalidSocket := by
                unfold InvalidSocket
                omega
              rw [hmirror, ensureLanMirror_opened hport hp hfind hudp hmirrored hvfd hbind, hcarry, hany, hc,
                bne_iff_ne.mpr hp]
              refine ⟨w, rfl, hlan, ?_⟩
              rw [htakes, Bool.and_true, Bool.true_and]
              exact and_iff_right hvalid

/-! ### Payloads -/

/-- A PIA browse reply, as `MirrorLanPayload` recognises it. -/
def browseReply (dstPort : U16) (data : List U8) : Bool :=
  dstPort == 30000 && decide (5 ≤ data.length) && data.head? == some 1

theorem payloadCall_of_browse {dstPort : U16} {data : List U8} (h : browseReply dstPort data = true)
    (vfd : Int) (dstIp : U32) (broadcast : Bool) :
    payloadCall vfd dstIp dstPort broadcast data = .mirrorLanDatagram vfd dstIp dstPort data := by
  simp only [browseReply, Bool.and_eq_true, beq_iff_eq, decide_eq_true_eq] at h
  obtain ⟨⟨hport, hlen⟩, hhead⟩ := h
  unfold payloadCall
  rw [if_neg]
  rintro (hne | hlt | hne)
  · exact hne hport
  · omega
  · exact hne hhead

theorem payloadCall_of_plain {dstPort : U16} {data : List U8} (h : browseReply dstPort data = false)
    (vfd : Int) (dstIp : U32) (broadcast : Bool) :
    payloadCall vfd dstIp dstPort broadcast data =
      if broadcast then .mirrorLanBroadcast vfd dstPort data
      else .mirrorLanDatagram vfd dstIp dstPort data := by
  unfold payloadCall
  rw [if_pos]
  by_contra hnot
  simp only [not_or, not_not, ne_eq, Nat.not_lt] at hnot
  obtain ⟨hport, hlen, hhead⟩ := hnot
  simp [browseReply, hport, hlen, hhead] at h

/-- The length the port is given. -/
def portLength (data : List U8) : Nat := (BitVec.ofNat 32 data.length).toNat

theorem datagram_taken (v : VNet) (vfd : Int) (dstIp : U32) (port : U16) (data : List U8) :
    ((SendCall.mirrorLanDatagram vfd dstIp port data).exec v).2.2 =
      (dstIp &&& v.netmask == v.ip &&& v.netmask && takes v vfd (portLength data)) :=
  mirrorLanDatagram_ok ..

theorem broadcast_taken (v : VNet) (vfd : Int) (port : U16) (data : List U8) :
    ((SendCall.mirrorLanBroadcast vfd port data).exec v).2.2 = takes v vfd (portLength data) :=
  mirrorLanBroadcast_ok ..

/-- Whether a payload is taken: a browse reply is held to the managed subnet even as
a broadcast. -/
theorem payload_taken (v : VNet) (vfd : Int) (dstIp : U32) (dstPort : U16) (broadcast : Bool)
    (data : List U8) :
    ((payloadCall vfd dstIp dstPort broadcast data).exec v).2.2 =
      ((broadcast && !browseReply dstPort data || dstIp &&& v.netmask == v.ip &&& v.netmask) &&
        takes v vfd (portLength data)) := by
  cases hreply : browseReply dstPort data with
  | true => rw [payloadCall_of_browse hreply, datagram_taken, Bool.not_true, Bool.and_false, Bool.false_or]
  | false =>
    rw [payloadCall_of_plain hreply]
    cases broadcast with
    | true =>
      rw [if_pos rfl, broadcast_taken]
      rfl
    | false =>
      rw [if_neg (by decide), datagram_taken]
      rfl

/-- Where a call sends: its kind, socket, address and port. -/
def target : SendCall → Int × Option U32 × U16
  | .mirrorLanDatagram vfd dstIp port _ => (vfd, some dstIp, port)
  | .mirrorLanBroadcast vfd port _ => (vfd, none, port)

/-- Where `MirrorLanPayload` sends, if the port is set, and its result. -/
def payloadOutcome (s : Shim) (vfd : Int) (dstIp : U32) (dstPort : U16) (broadcast : Bool)
    (data : List U8) : Option (Int × Option U32 × U16) × Bool :=
  (s.port.map fun _ => target (payloadCall vfd dstIp dstPort broadcast data),
    (s.mirrorLanPayload vfd dstIp dstPort broadcast data).2.2.isSome)

theorem handed_isSome (v : VNet) (c : SendCall) : (c.handed v).isSome = (c.exec v).2.2 := by
  unfold SendCall.handed
  cases (c.exec v).2.2 <;> rfl

theorem payload_target (vfd : Int) (dstIp : U32) (dstPort : U16) (broadcast : Bool) (data : List U8) :
    target (payloadCall vfd dstIp dstPort broadcast data) =
      (vfd, if broadcast && !browseReply dstPort data then none else some dstIp, dstPort) := by
  cases hreply : browseReply dstPort data with
  | true =>
    rw [payloadCall_of_browse hreply, Bool.not_true, Bool.and_false]
    rfl
  | false =>
    rw [payloadCall_of_plain hreply]
    cases broadcast <;> rfl

/-- **The content of a datagram makes no difference to where it goes, except on the
browse port.** There a broadcast whose first byte is one is sent as a unicast to its
destination address. -/
theorem payload_transparent_iff (s : Shim) (vfd : Int) (dstIp : U32) (dstPort : U16) (broadcast : Bool)
    (p q : List U8) (hlen : p.length = q.length) :
    s.payloadOutcome vfd dstIp dstPort broadcast p = s.payloadOutcome vfd dstIp dstPort broadcast q ↔
      s.port = none ∨ broadcast = false ∨ dstPort ≠ 30000 ∨ p.length < 5 ∨
        (p.head? = some 1 ↔ q.head? = some 1) := by
  cases hport : s.port with
  | none =>
    simp [payloadOutcome, mirrorLanPayload, hport]
  | some v =>
    have hout : ∀ data, s.payloadOutcome vfd dstIp dstPort broadcast data =
        (some (vfd, if broadcast && !browseReply dstPort data then none else some dstIp, dstPort),
          (broadcast && !browseReply dstPort data || dstIp &&& v.netmask == v.ip &&& v.netmask) &&
            takes v vfd (portLength data)) := by
      intro data
      simp only [payloadOutcome, mirrorLanPayload, hport, Option.map_some, call, handed_isSome,
        payload_target, payload_taken]
    have hsame : portLength p = portLength q := by
      unfold portLength
      rw [hlen]
    rw [hout, hout, hsame]
    cases broadcast with
    | false => simp
    | true =>
      have hreply : browseReply dstPort p = browseReply dstPort q ↔
          dstPort ≠ 30000 ∨ p.length < 5 ∨ (p.head? = some 1 ↔ q.head? = some 1) := by
        unfold browseReply
        rw [hlen, Bool.eq_iff_iff]
        simp only [Bool.and_eq_true, beq_iff_eq, decide_eq_true_eq]
        by_cases h30000 : dstPort = 30000
        · by_cases h5 : 5 ≤ q.length
          · simp [h30000, h5, Nat.not_lt.mpr h5]
          · simp [h5, Nat.lt_of_not_le h5]
        · exact iff_of_true (iff_of_false (fun h => h30000 h.1.1) fun h => h30000 h.1.1) (.inl h30000)
      constructor
      · intro heq
        refine .inr (.inr (hreply.mp ?_))
        have htarget := (Prod.mk.inj (Option.some.inj (Prod.mk.inj heq).1)).2
        have haddress := (Prod.mk.inj htarget).1
        cases hp : browseReply dstPort p <;> cases hq : browseReply dstPort q <;>
          simp [hp, hq] at haddress ⊢
      · rintro (hnone | hfalse | hcond)
        · cases hnone
        · cases hfalse
        · rw [hreply.mpr hcond]

/-! ### Relaying -/

section Relaying
variable (bsd : BsdCall → Option BsdResult)

/-- The command went to the real service as it came and nothing into the overlay. -/
structure Relayed (r : Reply) (c : BsdCall) : Prop where
  forwarded : r.forwarded = some c
  result : r.result = bsd c
  frames : r.frames = []
  handed : r.handed = []

/-- A destination that is not the overlay's: outside the managed subnet, and no
broadcast address. -/
structure Outside (s : Shim) (dst : U32) : Prop where
  subnet : ∀ v, s.port = some v → v.configured = true →
    dst &&& v.netmask ≠ v.ip &&& v.netmask ∧ dst ≠ v.broadcastIp
  limited : dst ≠ 0xFFFFFFFF
  physical : dst ≠ s.physicalIp ||| ~~~s.physicalMask

theorem forward_relayed (s : Shim) (c : BsdCall) : Relayed bsd (forward bsd s c) c := ⟨rfl, rfl, rfl, rfl⟩

theorem answerOr_relayed_iff (s : Shim) (v : VNet) (call : SendCall) (buf : List U8) (c : BsdCall) :
    Relayed bsd (answerOr bsd (s.call v call) buf c) c ↔ (call.exec v).2.2 = false := by
  unfold answerOr Shim.call SendCall.handed
  cases h : (call.exec v).2.2 with
  | true => exact ⟨fun hr => (by cases hr.forwarded), fun h => (by cases h)⟩
  | false => exact ⟨fun _ => rfl, fun _ => ⟨rfl, rfl, call.frames_of_refused v h, rfl⟩⟩

theorem sendTo_of_port {s : Shim} {v : VNet} (hport : s.port = some v) (pid : U64) (fd : Int) (flags : U32)
    (buf addr : List U8) (haddr : 8 ≤ addr.length) :
    s.sendTo bsd pid fd flags buf addr =
      let mirror :=
        if directedBroadcast addr then s.broadcastMirror pid fd else (s, (s.table.lookupSend pid fd).2)
      if mirror.2 = InvalidSocket then forward bsd mirror.1 (.sendTo fd flags buf addr)
      else
        answerOr bsd
          (mirror.1.mirrorLanPayload mirror.2 (sockaddrIp addr) (sockaddrPort addr)
            (directedBroadcast addr) buf)
          buf (.sendTo fd flags buf addr) := by
  unfold sendTo
  rw [hport, if_neg (by simpa using haddr)]
  cases hoctet : directedBroadcast addr with
  | true => simp only [true_and, if_true, broadcastMirror]
  | false => simp

/-- **A datagram for a destination outside the overlay is relayed, unless its last
octet is 255 and the interface can take it.** Then it leaves as the overlay's
broadcast, whatever network the address belongs to; a browse reply alone escapes. -/
theorem sendTo_relays_iff (s : Shim) (pid : U64) (fd : Int) (flags : U32) (buf addr : List U8)
    (haddr : 8 ≤ addr.length) (hout : s.Outside (sockaddrIp addr)) :
    Relayed bsd (s.sendTo bsd pid fd flags buf addr) (.sendTo fd flags buf addr) ↔
      ¬(directedBroadcast addr = true ∧ browseReply (sockaddrPort addr) buf = false ∧
        s.canCarry pid fd (portLength buf) = true) := by
  cases hport : s.port with
  | none =>
    have hforward : s.sendTo bsd pid fd flags buf addr = forward bsd s (.sendTo fd flags buf addr) := by
      unfold sendTo
      rw [hport]
      exact if_pos (.inr rfl)
    have hcarry : s.canCarry pid fd (portLength buf) = false := by
      simp [canCarry, hport]
    rw [hforward, hcarry]
    exact ⟨fun _ h => (by cases h.2.2), fun _ => forward_relayed bsd s _⟩
  | some v =>
    -- an unconfigured interface takes nothing, and a configured one has another subnet
    have hsubnet : ∀ w vfd len, SameLan v w →
        (sockaddrIp addr &&& w.netmask == w.ip &&& w.netmask && takes w vfd len) = false := by
      intro w vfd len hlan
      rw [hlan.netmask, hlan.ip]
      cases hc : v.configured with
      | true => rw [beq_eq_false_iff_ne.mpr (hout.subnet v hport hc).1, Bool.false_and]
      | false => simp [takes, hlan.configured, hc]
    rw [sendTo_of_port bsd hport pid fd flags buf addr haddr]
    cases hoctet : directedBroadcast addr with
    | false =>
      refine iff_of_true ?_ (fun h => (by cases h.1))
      simp only [Bool.false_eq_true, if_false]
      split
      · exact forward_relayed bsd _ _
      · rw [mirrorLanPayload, hport]
        refine (answerOr_relayed_iff bsd s v _ buf _).mpr ?_
        rw [payload_taken, Bool.false_and, Bool.false_or, hsubnet v _ _ ⟨rfl, rfl, rfl⟩]
    | true =>
      obtain ⟨w, hw, hlan, hcarry⟩ := broadcastMirror_carries s hport pid fd (portLength buf)
      simp only [if_true, true_and]
      rw [← hcarry]
      split
      · rename_i hinvalid
        exact iff_of_true (forward_relayed bsd _ _) fun h => h.2.1 hinvalid
      · rename_i hvalid
        rw [mirrorLanPayload, hw]
        refine (answerOr_relayed_iff bsd _ w _ buf _).trans ?_
        rw [payload_taken, Bool.true_and, Bool.and_or_distrib_right, hsubnet w _ _ hlan, Bool.or_false]
        simp [hvalid]

end Relaying

/-! ### A game on a LAN -/

/-- A service that gives out descriptor 3 and agrees to everything else. -/
def agreeable : BsdCall → Option BsdResult
  | .socket .. => some ⟨3, 0⟩
  | _ => some ⟨0, 0⟩

/-- A joined network, 10.0.0.1/24, beside a Wi-Fi interface at 192.168.1.5/24. -/
def joined : Shim where
  port := some (cbNetworkConfig VNet.fresh.reset.setEmit .up ⟨0x020000000001, 1500, [⟨true, 0x0A000001, 24⟩]⟩)
  table := Table.empty
  physicalIp := 0xC0A80105
  physicalMask := 0xFFFFFF00

/-- Process 7 has bound a datagram socket to PIA's browse port. -/
def browsing : Shim :=
  ((joined.socket agreeable 7 2 2 0).shim.bind agreeable 7 3 (sockaddr 0 30000)).shim

theorem browsing_outside {dst : U32}
    (h : (browsing.port.all fun v => dst &&& v.netmask != v.ip &&& v.netmask && dst != v.broadcastIp) = true)
    (hl : dst ≠ 0xFFFFFFFF) (hp : dst ≠ browsing.physicalIp ||| ~~~browsing.physicalMask) :
    browsing.Outside dst := by
  refine ⟨fun v hv _ => ?_, hl, hp⟩
  rw [hv, Option.all_some, Bool.and_eq_true, bne_iff_ne, bne_iff_ne] at h
  exact h

theorem sendTo_relays_resolver :
    Relayed agreeable (browsing.sendTo agreeable 7 3 0 [9] (sockaddr 0x08080808 53))
      (.sendTo 3 0 [9] (sockaddr 0x08080808 53)) :=
  (sendTo_relays_iff agreeable browsing 7 3 0 [9] (sockaddr 0x08080808 53) (by decide)
    (browsing_outside (by decide +kernel) (by decide) (by decide +kernel))).mpr
    fun h => absurd h.1 (by decide)

/-- A unicast address of the Internet, diverted for its last octet. -/
theorem unicast_255_diverted :
    browsing.Outside (sockaddrIp (sockaddr 0x080808FF 53)) ∧
      ¬Relayed agreeable (browsing.sendTo agreeable 7 3 0 [9] (sockaddr 0x080808FF 53))
        (.sendTo 3 0 [9] (sockaddr 0x080808FF 53)) ∧
      (browsing.sendTo agreeable 7 3 0 [9] (sockaddr 0x080808FF 53)).handed =
        [⟨0, 0x0A0000FF, 53, [9]⟩] :=
  ⟨browsing_outside (by decide +kernel) (by decide) (by decide +kernel),
    fun h => absurd h.forwarded (by decide +kernel), by decide +kernel⟩

/-- Two payloads of one length to one address: the first goes to the overlay's
broadcast, the second, a browse reply, is refused. -/
theorem browse_broadcast_differs :
    browsing.payloadOutcome 0 0xC0A801FF 30000 true [0, 0, 0, 0, 0] = (some (0, none, 30000), true) ∧
      browsing.payloadOutcome 0 0xC0A801FF 30000 true [1, 0, 0, 0, 0] =
        (some (0, some 0xC0A801FF, 30000), false) := by
  constructor <;> decide +kernel

theorem browse_reply_transparent :
    browsing.payloadOutcome 0 0x0A000002 30000 false [0, 0, 0, 0, 0] =
      browsing.payloadOutcome 0 0x0A000002 30000 false [1, 0, 0, 0, 0] :=
  (payload_transparent_iff browsing 0 0x0A000002 30000 false [0, 0, 0, 0, 0] [1, 0, 0, 0, 0] rfl).mpr
    (.inr (.inl rfl))

end Shim

end SysZerotier.Mitm
