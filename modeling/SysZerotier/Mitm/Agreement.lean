import SysZerotier.Mitm.Routing

/-! The four ways of sending a datagram, compared.

On a mirrored socket a datagram for an address can be sent by `SendTo`, by `Send` or
`Write` after `Connect`, and by `SendMMsg` with the address in the message or after
`Connect`. Each is first reduced to what it does in terms of three facts about the
address (`lastOctet`, the managed subnet, its broadcast address) and of whether the
interface takes the datagram; `sends_agree_iff` compares the results. -/
namespace SysZerotier.Mitm
open Net Port

namespace Shim

/-- The bytes are an IPv4 socket address naming this address and port. -/
structure Names (addr : List U8) (ip : U32) (port : U16) : Prop where
  length : 8 ≤ addr.length
  family : sockaddrFamily addr = 2
  ip : sockaddrIp addr = ip
  port : sockaddrPort addr = port

theorem sockaddr_names (ip : U32) (port : U16) : Names (sockaddr ip port) ip port := by
  have hbytes : ∀ j, j < 16 → Mem.ofBytes (sockaddr ip port) j =
      wr32 (wr16 ((Mem.zero.set 0 16).set 1 2) 2 port) 4 ip j :=
    fun j hj => Mem.ofBytes_bytes _ 16 j hj
  refine ⟨?_, ?_, ?_, ?_⟩
  · unfold sockaddr
    rw [Mem.bytes_length]
    decide
  · unfold sockaddrFamily
    rw [hbytes 1 (by decide), wr32_other _ _ (by decide), wr16_other _ _ (by decide) (by decide),
      Mem.set_same]
  · unfold sockaddrIp
    rw [rd32_congr fun j _ hj => hbytes j (by omega), rd32_wr32]
  · unfold sockaddrPort
    rw [rd16_congr (hbytes 2 (by decide)) (hbytes 3 (by decide)), rd16_wr32_other _ _ (by decide),
      rd16_wr16]

/-- A buffer for `SendMMsg` whose first message has this name and payload. -/
def Carries (buf name data : List U8) : Prop :=
  ∃ view rest, parseMMsg (buf.drop 1) = some (view, rest) ∧ view.name = name ∧
    assembleMMsgPayload view = some data

/-- The descriptor has a mirrored entry. -/
structure Mirrored (s : Shim) (pid : U64) (fd : Int) (i : Nat) : Prop where
  find : s.table.findLanSocketLocked pid fd = some i
  udp : (s.table i).udp = true
  mirrored : (s.table i).mirrored = true

/-- The entry as `Connect` leaves it. -/
def connected (s : Shim) (i : Nat) (ip : U32) (port : U16) : Shim :=
  { s with table := s.table.recordPeer i (some (ip, port)) }

def lastOctet (ip : U32) : U8 := ip.extractLsb' 0 8

/-- `IsOverlayDestination`'s test for a broadcast. -/
def overlayBroadcast (v : VNet) (ip : U32) : Bool := ip == 0xFFFFFFFF || ip == v.broadcastIp

/-- What becomes of a datagram that the command takes for a broadcast, or does not. -/
def route (v : VNet) (vfd : Int) (ip : U32) (port : U16) (data : List U8) (broadcast : Bool) :
    Option Handed :=
  if (broadcast || ip &&& v.netmask == v.ip &&& v.netmask) && takes v vfd (portLength data) then
    some ⟨vfd, if broadcast then v.broadcastIp else ip, port, data⟩
  else none

theorem directedBroadcast_eq (addr : List U8) :
    directedBroadcast addr = (lastOctet (sockaddrIp addr) == 0xFF) := by
  have hoctet : lastOctet (sockaddrIp addr) = Mem.ofBytes addr 7 := by
    unfold lastOctet sockaddrIp rd32 rd16 be16
    apply BitVec.eq_of_getLsbD_eq
    intro k hk
    rw [BitVec.getLsbD_extractLsb', BitVec.getLsbD_append, BitVec.getLsbD_append]
    simp [hk, show k < 16 by omega]
  unfold directedBroadcast
  rw [hoctet]

theorem broadcast_in_subnet (v : VNet) : v.broadcastIp &&& v.netmask = v.ip &&& v.netmask := by
  unfold VNet.broadcastIp
  apply BitVec.eq_of_getLsbD_eq
  intro k hk
  simp only [BitVec.getLsbD_and, BitVec.getLsbD_or, BitVec.getLsbD_not, hk, decide_true, Bool.true_and]
  cases v.netmask.getLsbD k <;> simp

theorem overlay_eq {v : VNet} (ip : U32) :
    isOverlayDestination (some v) ip =
      if v.configured && (overlayBroadcast v ip || ip &&& v.netmask == v.ip &&& v.netmask) then
        some (overlayBroadcast v ip)
      else none := by
  unfold isOverlayDestination getLanIpConfig
  cases hc : v.configured with
  | false => simp [hc]
  | true =>
    simp only [Option.bind_some, hc, Bool.not_true, Bool.false_eq_true, if_false, Bool.true_and]
    rfl

theorem call_handed (v : VNet) (vfd : Int) (ip : U32) (port : U16) (data : List U8) (broadcast : Bool) :
    SendCall.handed v
        (if broadcast then .mirrorLanBroadcast vfd port data else .mirrorLanDatagram vfd ip port data) =
      route v vfd ip port data broadcast := by
  unfold SendCall.handed route
  cases broadcast with
  | true =>
    rw [if_pos rfl, broadcast_taken]
    rfl
  | false =>
    simp only [Bool.false_eq_true, if_false, Bool.false_or, datagram_taken]
    rfl

theorem route_of_refused {v : VNet} {vfd : Int} {data : List U8} (h : takes v vfd (portLength data) = false)
    (ip : U32) (port : U16) (broadcast : Bool) : route v vfd ip port data broadcast = none := by
  unfold route
  rw [h, Bool.and_false]
  rfl

section Sending
variable (bsd : BsdCall → Option BsdResult)

/-- What a send command did: handed over a datagram, or forwarded the command. -/
inductive Outcome (r : Reply) (c : BsdCall) : Option Handed → Prop where
  | handed {d : Handed} (h : r.handed = [d]) (hf : r.forwarded = none) : Outcome r c (some d)
  | forwarded (h : r.handed = []) (hf : r.forwarded = some c) : Outcome r c none

theorem Outcome.unique {r : Reply} {c : BsdCall} {o o' : Option Handed} (h : Outcome r c o)
    (h' : Outcome r c o') : o = o' := by
  cases h with
  | handed hd hf =>
    cases h' with
    | handed hd' hf' =>
      rw [hd] at hd'
      rw [(List.cons.inj hd').1]
    | forwarded hd' hf' =>
      rw [hf] at hf'
      cases hf'
  | forwarded hd hf =>
    cases h' with
    | handed hd' hf' =>
      rw [hf] at hf'
      cases hf'
    | forwarded hd' hf' => rfl

theorem answerOr_outcome (s : Shim) (v : VNet) (call : SendCall) (buf : List U8) (c : BsdCall) :
    Outcome (answerOr bsd (s.call v call) buf c) c (call.handed v) := by
  unfold answerOr Shim.call
  dsimp only
  cases call.handed v with
  | none => exact .forwarded rfl rfl
  | some d => exact .handed rfl rfl

theorem forward_outcome (s : Shim) (c : BsdCall) : Outcome (forward bsd s c) c none := .forwarded rfl rfl

/-! ### Each command on a mirrored socket -/

section Mirror
variable {s : Shim} {pid : U64} {fd : Int} {i : Nat}

theorem Mirrored.vfd (hm : s.Mirrored pid fd i) : s.table.getLanVfd pid fd = (s.table i).vnetFd := by
  unfold Table.getLanVfd
  rw [hm.find]
  dsimp only
  rw [if_pos hm.mirrored]

theorem Mirrored.connected (hm : s.Mirrored pid fd i) (ip : U32) (port : U16) :
    (s.connected i ip port).Mirrored pid fd i ∧
      ((s.connected i ip port).table i).vnetFd = (s.table i).vnetFd ∧
      (s.connected i ip port).table.getConnectedLanPeer pid fd = some ((s.table i).vnetFd, ip, port) := by
  have hfind : (s.connected i ip port).table.findLanSocketLocked pid fd = some i :=
    (Table.find_recordPeer s.table i _ pid fd).trans hm.find
  have hentry : (s.connected i ip port).table i =
      { s.table i with connectedPort := port, connectedIp := ip, connected := true } := by
    simp [Shim.connected, Table.recordPeer, Table.store]
  refine ⟨⟨hfind, by rw [hentry]; exact hm.udp, by rw [hentry]; exact hm.mirrored⟩, by rw [hentry], ?_⟩
  unfold Table.getConnectedLanPeer
  rw [hfind]
  dsimp only
  rw [hentry]
  simp [hm.mirrored]

/-- **A successful `Connect` to an IPv4 address records it**, whether the shim or the
real service answered. -/
theorem connect_records (hm : s.Mirrored pid fd i) {addr : List U8} {ip : U32} {port : U16}
    (hn : Names addr ip port) {err : Int} (hok : (s.connect bsd pid fd addr).result = some ⟨0, err⟩) :
    (s.connect bsd pid fd addr).shim = s.connected i ip port := by
  have hrecord : s.connected i ip port =
      { s with table := s.table.recordPeer i (some (sockaddrIp addr, sockaddrPort addr)) } := by
    rw [hn.ip, hn.port]
    rfl
  have hfamily : sockaddrFamily addr ≠ 0 := by
    rw [hn.family]
    decide
  have h2 : 2 ≤ addr.length := le_trans (by decide) hn.length
  have hforwarded : s.connectForwarded pid fd addr = s.connected i ip port := by
    unfold connectForwarded
    rw [hm.find]
    dsimp only
    rw [hm.udp, if_neg (by decide), if_pos ⟨hn.family, hn.length⟩, hrecord]
  have hoverlay : ∀ t, s.connectOverlay pid fd addr = some t → t = s.connected i ip port := by
    intro t ht
    unfold connectOverlay at ht
    rw [hm.find] at ht
    dsimp only at ht
    rw [if_neg hfamily, if_pos (show sockaddrFamily addr = 2 ∧ 8 ≤ addr.length from ⟨hn.family, hn.length⟩)]
      at ht
    split at ht
    · split at ht
      · rw [hrecord, Option.some.inj ht]
      · cases ht
    · cases ht
  unfold connect at hok ⊢
  cases ho : s.connectOverlay pid fd addr with
  | some t => exact hoverlay t ho
  | none =>
    rw [ho] at hok
    dsimp only [forward] at hok ⊢
    cases hr : bsd (.connect fd addr) with
    | none =>
      rw [hr] at hok
      cases hok
    | some out =>
      rw [hr] at hok
      dsimp only at hok ⊢
      have hret : out.ret = 0 := by
        split at hok
        · rename_i h
          exact h.1
        · rw [Option.some.inj hok]
      rw [if_pos ⟨hret, h2⟩, hforwarded]

theorem sendTo_outcome (hm : s.Mirrored pid fd i) {v : VNet} (hport : s.port = some v) {addr data : List U8}
    {ip : U32} {port : U16} (hn : Names addr ip port) (hplain : browseReply port data = false) (flags : U32) :
    Outcome (s.sendTo bsd pid fd flags data addr) (.sendTo fd flags data addr)
      (route v (s.table i).vnetFd ip port data (lastOctet ip == 0xFF)) := by
  have hlookup : (s.table.lookupSend pid fd).2 = (s.table i).vnetFd := by
    simp [Table.lookupSend, hm.find, hm.udp, hm.mirrored]
  by_cases hvfd : (s.table i).vnetFd = InvalidSocket
  · have hforward : ∃ t, s.sendTo bsd pid fd flags data addr = forward bsd t (.sendTo fd flags data addr) := by
      unfold sendTo
      rw [hport, if_neg (by simpa using hn.length)]
      dsimp only
      rw [hlookup, hvfd]
      split
      · have hmirror : (s.ensureLanMirror pid fd (s.table.lookupSend pid fd).1).2 = InvalidSocket := by
          simp [ensureLanMirror, hport, Table.mirrorOf, hm.find, hm.udp, hm.mirrored, hvfd]
        rw [if_pos hmirror]
        exact ⟨_, rfl⟩
      · exact ⟨s, if_pos rfl⟩
    obtain ⟨t, ht⟩ := hforward
    rw [ht, hvfd, route_of_refused (takes_invalid v _)]
    exact forward_outcome bsd t _
  · have hmirror : s.broadcastMirror pid fd = (s, (s.table i).vnetFd) := by
      unfold broadcastMirror
      rw [if_neg (fun h => hvfd (hlookup ▸ h.1)), hlookup]
    rw [sendTo_of_port bsd hport pid fd flags data addr hn.length, hmirror, hlookup]
    simp only [ite_self]
    rw [if_neg hvfd, mirrorLanPayload, hport, hn.ip, hn.port, directedBroadcast_eq, hn.ip]
    dsimp only
    rw [payloadCall_of_plain hplain, ← call_handed]
    exact answerOr_outcome bsd s v _ data _

/-- `Send` and `Write` to the peer of `Connect`. -/
theorem connected_outcome (hm : s.Mirrored pid fd i) {v : VNet} (hport : s.port = some v) (ip : U32)
    (port : U16) (data : List U8) (c : BsdCall) :
    Outcome (answerOr bsd ((s.connected i ip port).mirrorConnectedLanDatagram pid fd data) data c) c
      (route v (s.table i).vnetFd ip port data false) := by
  unfold mirrorConnectedLanDatagram
  rw [show (s.connected i ip port).port = some v from hport, (hm.connected ip port).2.2]
  dsimp only
  rw [← call_handed]
  exact answerOr_outcome bsd _ v _ data c

/-- One message, by what its destination resolves to. -/
theorem sendMMsg_outcome {v : VNet} (hport : s.port = some v) {buf name data : List U8}
    (hbuf : Carries buf name data) {vfd : Int} {ip : U32} {port : U16}
    (hres : ∀ view : MMsgView, view.name = name →
      (s.resolveMMsgDestination pid fd view = (isOverlayDestination (some v) ip).map fun b => (vfd, ip, port, b)) ∨
        (s.resolveMMsgDestination pid fd view = none ∧ vfd = InvalidSocket)) (flags : Int) :
    Outcome (s.sendMMsg bsd pid fd 1 flags buf) (.sendMMsg fd 1 flags buf)
      (route v vfd ip port data (overlayBroadcast v ip)) := by
  obtain ⟨view, rest, hparse, hname, hdata⟩ := hbuf
  have hlen : ¬buf.length < 1 := by
    intro h
    rw [List.length_eq_zero_iff.mp (Nat.lt_one_iff.mp h)] at hparse
    cases hparse
  have hguard : ¬(s.port.isNone = true ∨ (1 : Int) ≤ 0 ∨ (64 : Int) < 1 ∨ buf.length < 1) := by
    rw [hport]
    rintro (h | h | h | h)
    · cases h
    · omega
    · omega
    · exact hlen h
  have hsent : ∀ o : Option Handed,
      (s.mirrorMMsgBuffer pid fd 1 buf).2.2 = o.toList →
      Outcome (s.sendMMsg bsd pid fd 1 flags buf) (.sendMMsg fd 1 flags buf) o := by
    intro o ho
    unfold sendMMsg
    dsimp only
    rw [ho]
    cases o with
    | none => exact .forwarded rfl rfl
    | some d => exact .handed rfl rfl
  apply hsent
  have hcheck : s.checkMMsgs pid fd (1 : Int).toNat (buf.drop 1) =
      (s.resolveMMsgDestination pid fd view).isSome := by
    show s.checkMMsgs pid fd 1 (buf.drop 1) = _
    unfold checkMMsgs
    rw [hparse]
    exact Bool.and_true _
  unfold mirrorMMsgBuffer
  rw [if_neg hguard, hcheck]
  have hunresolved : s.resolveMMsgDestination pid fd view = none →
      route v vfd ip port data (overlayBroadcast v ip) = none := by
    intro hnone
    rcases hres view hname with hsome | ⟨-, hvfd⟩
    · rw [hnone, overlay_eq] at hsome
      split at hsome
      · cases hsome
      · rename_i hout
        unfold route
        rw [if_neg]
        intro h
        rw [Bool.and_eq_true] at h
        simp only [takes, Bool.and_eq_true] at h
        exact hout (by rw [h.2.1.1.1, h.1]; rfl)
    · rw [hvfd]
      exact route_of_refused (takes_invalid v _) ip port _
  cases hr : s.resolveMMsgDestination pid fd view with
  | none =>
    rw [hunresolved hr]
    rfl
  | some dest =>
    have hdest : dest = (vfd, ip, port, overlayBroadcast v ip) := by
      rcases hres view hname with hsome | ⟨hnone, -⟩
      · rw [hr, overlay_eq] at hsome
        split at hsome
        · exact Option.some.inj hsome
        · cases hsome
      · rw [hr] at hnone
        cases hnone
    have hcall : s.mmsgCall pid fd (buf.drop 1) =
        some (if overlayBroadcast v ip then .mirrorLanBroadcast vfd port data
          else .mirrorLanDatagram vfd ip port data, rest) := by
      unfold mmsgCall
      rw [hparse]
      simp [hr, hdest, hdata]
    show (sendMMsgs pid fd 1 s (buf.drop 1)).2.2 = _
    unfold sendMMsgs
    rw [hport, hcall]
    dsimp only [Shim.call]
    rw [call_handed]
    cases route v vfd ip port data (overlayBroadcast v ip) with
    | none => rfl
    | some d => rfl

theorem resolve_named (hm : s.Mirrored pid fd i) {v : VNet} (hport : s.port = some v) {name : List U8}
    {ip : U32} {port : U16} (hn : Names name ip port) {view : MMsgView} (hview : view.name = name) :
    (s.resolveMMsgDestination pid fd view =
        (isOverlayDestination (some v) ip).map fun b => ((s.table i).vnetFd, ip, port, b)) ∨
      (s.resolveMMsgDestination pid fd view = none ∧ (s.table i).vnetFd = InvalidSocket) := by
  have hlen := hn.length
  unfold resolveMMsgDestination
  rw [hview, if_neg (by omega), if_neg (fun h => h.elim (by omega) fun hf => hf hn.family), hm.vfd, hport, hn.ip,
    hn.port]
  by_cases hvfd : (s.table i).vnetFd = InvalidSocket
  · exact .inr ⟨if_pos hvfd, hvfd⟩
  · rw [if_neg hvfd]
    left
    cases isOverlayDestination (some v) ip <;> rfl

theorem resolve_unnamed (hm : s.Mirrored pid fd i) {v : VNet} (hport : s.port = some v) (ip : U32)
    (port : U16) {view : MMsgView} (hview : view.name = []) :
    (s.connected i ip port).resolveMMsgDestination pid fd view =
      (isOverlayDestination (some v) ip).map fun b => ((s.table i).vnetFd, ip, port, b) := by
  unfold resolveMMsgDestination
  rw [hview, if_pos List.length_nil, (hm.connected ip port).2.2,
    show (s.connected i ip port).port = some v from hport]
  show (isOverlayDestination (some v) ip).bind (fun b => some ((s.table i).vnetFd, ip, port, b)) = _
  cases isOverlayDestination (some v) ip <;> rfl

/-- The commands all handed over one datagram, or were all forwarded. -/
def SameFate (sends : List (Reply × BsdCall)) : Prop := ∃ o, ∀ p ∈ sends, Outcome p.1 p.2 o

/-- The ways to send `data` to one destination: by `SendTo`, by `Send` and `Write`
after a `Connect` that left `t`, and by `SendMMsg` with the name in the message and,
after that `Connect`, without. -/
def waysToSend (s t : Shim) (pid : U64) (fd : Int) (flags : U32) (mmsgFlags : Int) (data addr named unnamed : List U8) :
    List (Reply × BsdCall) :=
  [(s.sendTo bsd pid fd flags data addr, .sendTo fd flags data addr),
    (t.send bsd pid fd flags data, .send fd flags data),
    (t.write bsd pid fd data, .write fd data),
    (s.sendMMsg bsd pid fd 1 mmsgFlags named, .sendMMsg fd 1 mmsgFlags named),
    (t.sendMMsg bsd pid fd 1 mmsgFlags unnamed, .sendMMsg fd 1 mmsgFlags unnamed)]

theorem waysToSend_forwarded (hport : s.port = none) (ip : U32) (port : U16)
    (flags : U32) (mmsgFlags : Int) (data addr named unnamed : List U8) :
    SameFate (waysToSend bsd s (s.connected i ip port) pid fd flags mmsgFlags data addr named unnamed) := by
  have hconnected : (s.connected i ip port).port = none := hport
  refine ⟨none, fun p hp => ?_⟩
  simp only [waysToSend, List.mem_cons, List.not_mem_nil, or_false] at hp
  rcases hp with rfl | rfl | rfl | rfl | rfl
  · exact .forwarded (by simp [sendTo, hport, forward]) (by simp [sendTo, hport, forward])
  · constructor <;> simp [send, mirrorConnectedLanDatagram, hconnected, answerOr, forward]
  · constructor <;> simp [write, mirrorConnectedLanDatagram, hconnected, answerOr, forward]
  · constructor <;> simp [sendMMsg, mirrorMMsgBuffer, hport, forward]
  · constructor <;> simp [sendMMsg, mirrorMMsgBuffer, hconnected, forward]

/-- **The commands agree, unless the last octet is 255, the address is not the
overlay's broadcast, and the interface takes the datagram.** Then `SendTo` hands over
a broadcast where the others send to the address itself or forward the command. -/
theorem sends_agree_iff (hm : s.Mirrored pid fd i) {addr peer name named unnamed data : List U8} {ip : U32}
    {port : U16} (haddr : Names addr ip port) (hpeer : Names peer ip port) (hname : Names name ip port)
    (hnamed : Carries named name data) (hunnamed : Carries unnamed [] data) (hlen : data.length ≤ MaxDatagram)
    (hplain : ¬(port = 30000 ∧ data.head? = some 1)) {err : Int}
    (hok : (s.connect bsd pid fd peer).result = some ⟨0, err⟩) (flags : U32) (mmsgFlags : Int) :
    SameFate (waysToSend bsd s (s.connect bsd pid fd peer).shim pid fd flags mmsgFlags data addr named unnamed) ↔
      ¬∃ v, s.port = some v ∧ lastOctet ip = 0xFF ∧ ip ≠ v.broadcastIp ∧
        takes v (s.table i).vnetFd data.length = true := by
  rw [connect_records bsd hm hpeer hok]
  cases hport : s.port with
  | none =>
    refine iff_of_true (waysToSend_forwarded bsd hport ip port flags mmsgFlags data addr named unnamed) ?_
    rintro ⟨v, hv, -⟩
    cases hv
  | some v =>
    have hbrowse : browseReply port data = false := by
      simp only [browseReply, Bool.and_eq_false_iff, beq_eq_false_iff_ne, ne_eq]
      by_contra hnot
      simp only [not_or, not_not, Bool.not_eq_false] at hnot
      exact hplain ⟨hnot.1.1, hnot.2⟩
    have hportLength : portLength data = data.length := by
      unfold portLength
      rw [BitVec.toNat_ofNat]
      exact Nat.mod_eq_of_lt (lt_of_le_of_lt hlen (by decide))
    have hsendTo := sendTo_outcome bsd hm hport haddr hbrowse flags
    have hsend := connected_outcome bsd hm hport ip port data (.send fd flags data)
    have hwrite := connected_outcome bsd hm hport ip port data (.write fd data)
    have hmmsg := sendMMsg_outcome bsd hport hnamed (fun view hview => resolve_named hm hport hname hview)
      mmsgFlags
    have hmmsg' := sendMMsg_outcome bsd (s := s.connected i ip port) hport hunnamed
      (fun view hview => .inl (resolve_unnamed hm hport ip port hview)) mmsgFlags
    have hfate : SameFate (waysToSend bsd s (s.connected i ip port) pid fd flags mmsgFlags data addr named unnamed) ↔
        route v (s.table i).vnetFd ip port data (lastOctet ip == 0xFF) =
            route v (s.table i).vnetFd ip port data false ∧
          route v (s.table i).vnetFd ip port data (overlayBroadcast v ip) =
            route v (s.table i).vnetFd ip port data false := by
      constructor
      · rintro ⟨o, ho⟩
        have hsent := (ho _ (.tail _ (.head _))).unique hsend
        have hto := (ho _ (.head _)).unique hsendTo
        have hmm := (ho _ (.tail _ (.tail _ (.tail _ (.head _))))).unique hmmsg
        exact ⟨hto.symm.trans hsent, hmm.symm.trans hsent⟩
      · rintro ⟨hto, hmm⟩
        refine ⟨route v (s.table i).vnetFd ip port data false, fun p hp => ?_⟩
        simp only [waysToSend, List.mem_cons, List.not_mem_nil, or_false] at hp
        rcases hp with rfl | rfl | rfl | rfl | rfl
        · exact hto ▸ hsendTo
        · exact hsend
        · exact hwrite
        · exact hmm ▸ hmmsg
        · exact hmm ▸ hmmsg'
    rw [hfate]
    cases htakes : takes v (s.table i).vnetFd data.length with
    | false =>
      have hrefused := route_of_refused (hportLength.symm ▸ htakes) ip port
      refine iff_of_true ⟨by rw [hrefused, hrefused], by rw [hrefused, hrefused]⟩ ?_
      rintro ⟨w, hw, -, -, hyes⟩
      rw [← Option.some.inj hw, htakes] at hyes
      cases hyes
    | true =>
      have hroute : ∀ b, route v (s.table i).vnetFd ip port data b =
          if (b || ip &&& v.netmask == v.ip &&& v.netmask) = true then
            some ⟨(s.table i).vnetFd, if b then v.broadcastIp else ip, port, data⟩
          else none := by
        intro b
        unfold route
        rw [hportLength, htakes, Bool.and_true]
      have hsame : ∀ b, (b = true → ip = v.broadcastIp) → route v (s.table i).vnetFd ip port data b =
          route v (s.table i).vnetFd ip port data false := by
        intro b hb
        cases b with
        | false => rfl
        | true =>
          rw [hroute, hroute, hb rfl]
          simp [broadcast_in_subnet]
      have hdiffers : ip ≠ v.broadcastIp → route v (s.table i).vnetFd ip port data true ≠
          route v (s.table i).vnetFd ip port data false := by
        intro hne heq
        rw [hroute, hroute, Bool.true_or, if_pos rfl, if_pos rfl] at heq
        simp only [Bool.false_eq_true, if_false] at heq
        split at heq
        · exact hne (Handed.mk.inj (Option.some.inj heq)).2.1.symm
        · cases heq
      by_cases hoctet : lastOctet ip = 0xFF
      · rw [hoctet, beq_self_eq_true]
        by_cases hb : ip = v.broadcastIp
        · refine iff_of_true ⟨hsame true fun _ => hb, hsame _ fun _ => hb⟩ ?_
          rintro ⟨w, hw, -, hne, -⟩
          rw [← Option.some.inj hw] at hne
          exact hne hb
        · exact iff_of_false (fun h => hdiffers hb h.1) fun h => h ⟨v, rfl, rfl, hb, htakes⟩
      · rw [beq_eq_false_iff_ne.mpr hoctet]
        refine iff_of_true ⟨rfl, hsame _ fun hb => ?_⟩ ?_
        · -- the limited broadcast ends in 255, so only the subnet's remains
          rw [overlayBroadcast, Bool.or_eq_true, beq_iff_eq, beq_iff_eq] at hb
          rcases hb with hlimited | hmanaged
          · rw [hlimited] at hoctet
            exact absurd rfl hoctet
          · exact hmanaged
        · rintro ⟨w, -, h255, -⟩
          exact hoctet h255

end Mirror

end Sending

/-! ### The game on a LAN, connected -/

/-- One message with one part, the payload 9. -/
def message (name : List U8) : List U8 :=
  [0, BitVec.ofNat 8 name.length, 0, 0, 0] ++ name ++ [1, 0, 0, 0, 1, 0, 0, 0, 0, 0, 0, 0, 9] ++
    List.replicate 12 0

theorem message_carries {name : List U8} (h : parseMMsg ((message name).drop 1) =
    some (⟨name, [1, 0, 0, 0, 0, 0, 0, 0, 9], 1, 1⟩, [])) : Carries (message name) name [9] :=
  ⟨_, _, h, rfl, rfl⟩

theorem browsing_mirrored : browsing.Mirrored 7 3 0 := by
  constructor <;> decide +kernel

theorem sends_agree_on_peer :
    SameFate (waysToSend agreeable browsing
      (browsing.connect agreeable 7 3 (sockaddr 0x0A000002 4000)).shim 7 3 0 0 [9] (sockaddr 0x0A000002 4000)
      (message (sockaddr 0x0A000002 4000)) (message [])) :=
  have hname := sockaddr_names 0x0A000002 4000
  have hok : (browsing.connect agreeable 7 3 (sockaddr 0x0A000002 4000)).result = some ⟨0, 0⟩ := by
    decide +kernel
  (sends_agree_iff agreeable browsing_mirrored hname hname hname (message_carries (by decide +kernel))
    (message_carries (by decide +kernel)) (by decide) (by decide) hok 0 0).mpr
    fun ⟨_, _, hoctet, _⟩ => absurd hoctet (by decide)

/-- The Wi-Fi network's broadcast address: `SendTo` hands over a broadcast, and `Send`
after a `Connect` to the same address is forwarded. -/
theorem wifi_broadcast_splits :
    (browsing.connect agreeable 7 3 (sockaddr 0xC0A801FF 4000)).result = some ⟨0, 0⟩ ∧
      (browsing.sendTo agreeable 7 3 0 [9] (sockaddr 0xC0A801FF 4000)).handed =
        [⟨0, 0x0A0000FF, 4000, [9]⟩] ∧
      ((browsing.connect agreeable 7 3 (sockaddr 0xC0A801FF 4000)).shim.send agreeable 7 3 0 [9]).forwarded =
        some (.send 3 0 [9]) ∧
      ¬SameFate (waysToSend agreeable browsing
        (browsing.connect agreeable 7 3 (sockaddr 0xC0A801FF 4000)).shim 7 3 0 0 [9]
        (sockaddr 0xC0A801FF 4000) (message (sockaddr 0xC0A801FF 4000)) (message [])) := by
  have hto : (browsing.sendTo agreeable 7 3 0 [9] (sockaddr 0xC0A801FF 4000)).handed =
      [⟨0, 0x0A0000FF, 4000, [9]⟩] := by decide +kernel
  have hsend : ((browsing.connect agreeable 7 3 (sockaddr 0xC0A801FF 4000)).shim.send agreeable 7 3 0
      [9]).forwarded = some (.send 3 0 [9]) := by decide +kernel
  refine ⟨by decide +kernel, hto, hsend, ?_⟩
  rintro ⟨o, ho⟩
  cases ho _ (.head _) with
  | forwarded h => exact absurd (hto.symm.trans h) (by simp)
  | handed =>
    cases ho _ (.tail _ (.head _)) with
    | handed _ hf => exact absurd (hsend.symm.trans hf) (by simp)

end Shim

end SysZerotier.Mitm
