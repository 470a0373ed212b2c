import SysZerotier.Mitm.Commands
import SysZerotier.Net.Authenticity

/-! The games of one virtual network.

On every console games issue their commands through the shim, which serves them by calls
to the interface; the port thread sets the interface up and hands it frames. A command
comes down to operations of the interface that send nothing but what the game was sending
(`exec_serves`), so that what holds of the consoles of `Net/Segment` holds of the games on
them: what a game receives through the shim a game has sent (`games_hear_games`). -/
namespace SysZerotier.Mitm
open Net Port Library VNet

/-! ### What a command sends -/

/-- The payloads of the messages in the buffer of a `SendMMsg`. -/
def mmsgPayloads : Nat → List U8 → List (List U8)
  | 0, _ => []
  | count + 1, cursor =>
    match parseMMsg cursor with
    | none => []
    | some (view, cursor) => (assembleMMsgPayload view).toList ++ mmsgPayloads count cursor

def Request.payloads : Request → List (List U8)
  | .send _ _ buf => [buf]
  | .sendTo _ _ buf _ => [buf]
  | .write _ buf => [buf]
  | .sendMMsg _ vlen _ buf => mmsgPayloads vlen.toNat (buf.drop 1)
  | _ => []

/-- What the shim does to the interface for a client that sends these payloads. -/
def Client (sends : List (List U8)) : Op → Prop
  | .udpOpen => True
  | .udpBind .. => True
  | .udpClose _ => True
  | .udpRecvFrom .. => True
  | .udpSendTo _ _ _ buf => buf ∈ sends
  | _ => False

theorem Client.mono {sends sends' : List (List U8)} (h : ∀ p ∈ sends, p ∈ sends') {op : Op} (hop : Client sends op) :
    Client sends' op := by
  cases op with
  | udpSendTo vfd dstIp dstPort buf => exact h buf hop
  | _ => exact hop

/-- The interface keeps its MAC. -/
theorem Client.sameMac {sends : List (List U8)} {op : Op} (h : Client sends op) (v : VNet) :
    (v.exec op).1.mac = v.mac := by
  refine (exec_sameHost v ?_ ?_ ?_).mac
  · intro hop
    rw [hop] at h
    exact h
  · intro mac ip netmask mtu hop
    rw [hop] at h
    exact h
  · intro srcMac dstMac etherType payload hop
    rw [hop] at h
    exact h

/-- Operations one after the other, and the frames they emit. -/
inductive Performs (sends : List (List U8)) : VNet → VNet → List Frame → Prop
  | refl (v : VNet) : Performs sends v v []
  | op {v w : VNet} {frames : List Frame} (op : Op) (hop : Client sends op)
      (rest : Performs sends (v.exec op).1 w frames) : Performs sends v w ((v.exec op).2.frames ++ frames)

namespace Performs

variable {sends : List (List U8)}

theorem one (v : VNet) (op : Op) (hop : Client sends op) : Performs sends v (v.exec op).1 (v.exec op).2.frames := by
  have h := Performs.op op hop (.refl (v.exec op).1)
  rwa [List.append_nil] at h

theorem trans {u v w : VNet} {frames frames' : List Frame} (h : Performs sends u v frames)
    (h' : Performs sends v w frames') : Performs sends u w (frames ++ frames') := by
  induction h with
  | refl => exact h'
  | op op hop _ ih =>
    rw [List.append_assoc]
    exact .op op hop (ih h')

theorem mono {sends' : List (List U8)} (hsub : ∀ p ∈ sends, p ∈ sends') {v w : VNet} {frames : List Frame}
    (h : Performs sends v w frames) : Performs sends' v w frames := by
  induction h with
  | refl => exact .refl _
  | op op hop _ ih => exact .op op (hop.mono hsub) ih

end Performs

/-- What a command does to the interface, if there is one. -/
structure Serves (sends : List (List U8)) (s t : Shim) (frames : List Frame) : Prop where
  absent : s.port = none → t.port = none ∧ frames = []
  present : ∀ v, s.port = some v → ∃ w, t.port = some w ∧ Performs sends v w frames

namespace Serves

variable {sends : List (List U8)}

/-- The interface is left alone. -/
theorem idle {s t : Shim} (h : t.port = s.port) : Serves sends s t [] where
  absent hnone := ⟨h.trans hnone, rfl⟩
  present v hv := ⟨v, h.trans hv, .refl v⟩

theorem trans {s t u : Shim} {frames frames' : List Frame} (h : Serves sends s t frames)
    (h' : Serves sends t u frames') : Serves sends s u (frames ++ frames') where
  absent hnone := by
    obtain ⟨hport, rfl⟩ := h.absent hnone
    exact h'.absent hport
  present v hv := by
    obtain ⟨w, hw, hfirst⟩ := h.present v hv
    obtain ⟨x, hx, hrest⟩ := h'.present w hw
    exact ⟨x, hx, hfirst.trans hrest⟩

theorem mono {sends' : List (List U8)} (hsub : ∀ p ∈ sends, p ∈ sends') {s t : Shim} {frames : List Frame}
    (h : Serves sends s t frames) : Serves sends' s t frames where
  absent := h.absent
  present v hv := by
    obtain ⟨w, hw, hperforms⟩ := h.present v hv
    exact ⟨w, hw, hperforms.mono hsub⟩

/-- What became of the table before is no matter. -/
theorem before {s s' t : Shim} {frames : List Frame} (h : Serves sends s' t frames) (hs : s'.port = s.port) :
    Serves sends s t frames where
  absent hnone := h.absent (hs.trans hnone)
  present v hv := h.present v (hs.trans hv)

/-- An interface that is there performs operations. -/
theorem of_performs {s t : Shim} {v w : VNet} (hs : s.port = some v) (ht : t.port = some w) {frames : List Frame}
    (h : Performs sends v w frames) : Serves sends s t frames where
  absent hnone := by rw [hs] at hnone; cases hnone
  present u hu := by
    obtain rfl := Option.some.inj (hs.symm.trans hu)
    exact ⟨w, ht, h⟩

end Serves

namespace Shim

variable {sends : List (List U8)}

/-! ### Mirroring -/

theorem openLanSocket_performs (v : VNet) : Performs sends v (openLanSocket v).1 [] := by
  rw [openLanSocket]
  split
  · exact .one v .udpOpen trivial
  · exact .refl v

theorem bindLanSocket_performs (v : VNet) (vfd : Int) (port : U16) :
    Performs sends v (bindLanSocket v vfd port).1 [] := by
  rw [bindLanSocket]
  split
  · exact .refl v
  · exact .one v (.udpBind vfd 0 port) trivial

theorem closeLanSocket_performs (v : VNet) (vfd : Int) : Performs sends v (closeLanSocket v vfd) [] :=
  .one v (.udpClose vfd) trivial

theorem ensureLanMirror_serves (s : Shim) (pid : U64) (fd : Int) (port : U16) :
    Serves sends s (s.ensureLanMirror pid fd port).1 [] := by
  rw [ensureLanMirror]
  cases hport : s.port with
  | none => exact .idle rfl
  | some v =>
    have hopen : Performs sends v (openLanSocket v).1 [] := openLanSocket_performs v
    have hbind := hopen.trans (bindLanSocket_performs (openLanSocket v).1 (openLanSocket v).2 port)
    have hclose := hbind.trans (closeLanSocket_performs _ (openLanSocket v).2)
    dsimp only
    split
    · exact .idle rfl
    · split
      · exact .idle rfl
      · split
        · exact .of_performs hport rfl hopen
        · split
          · exact .of_performs hport rfl hclose
          · refine .of_performs hport rfl ?_
            split
            · exact hbind
            · exact hclose

theorem closeVfd_serves (s : Shim) (vfd : Int) : Serves sends s (closeVfd s vfd) [] := by
  rw [closeVfd]
  split
  · exact .idle rfl
  · cases hport : s.port with
    | none => exact .idle hport.symm
    | some v => exact .of_performs hport rfl (closeLanSocket_performs v vfd)

theorem closeVfds_serves (vfds : List Int) (s : Shim) : Serves sends s (vfds.foldl closeVfd s) [] := by
  induction vfds generalizing s with
  | nil => exact .idle rfl
  | cons vfd vfds ih => exact (closeVfd_serves s vfd).trans (ih _)

/-! ### Sending -/

theorem mirrorTo_performs (v : VNet) (vfd : Int) (dstIp : U32) (port : U16) {data : List U8}
    (hlen : data.length < 2 ^ 32) (hmem : data ∈ sends) :
    Performs sends v (mirrorTo v vfd dstIp port (Mem.ofBytes data) (BitVec.ofNat 32 data.length)).1
      (mirrorTo v vfd dstIp port (Mem.ofBytes data) (BitVec.ofNat 32 data.length)).2.1 := by
  rw [mirrorTo, BitVec.toNat_ofNat, Nat.mod_eq_of_lt hlen]
  exact .one v (.udpSendTo vfd dstIp port data) hmem

theorem sendCall_performs (v : VNet) (c : SendCall) (hlen : (c.datagram v).data.length < 2 ^ 32)
    (hmem : (c.datagram v).data ∈ sends) : Performs sends v (c.exec v).1 (c.exec v).2.1 := by
  cases c with
  | mirrorLanDatagram vfd dstIp port data =>
    rw [SendCall.exec, mirrorLanDatagram]
    split
    · exact .refl v
    · split
      · exact .refl v
      · exact mirrorTo_performs v vfd dstIp port hlen hmem
  | mirrorLanBroadcast vfd port data =>
    rw [SendCall.exec, mirrorLanBroadcast]
    split
    · exact .refl v
    · exact mirrorTo_performs v vfd v.broadcastIp port hlen hmem

theorem call_serves {s : Shim} {v : VNet} (hport : s.port = some v) (c : SendCall)
    (hlen : (c.datagram v).data.length < 2 ^ 32) (hmem : (c.datagram v).data ∈ sends) :
    Serves sends s (s.call v c).1 (s.call v c).2.1 :=
  .of_performs hport rfl (sendCall_performs v c hlen hmem)

theorem mirrorLanPayload_serves (s : Shim) (vfd : Int) (dstIp : U32) (dstPort : U16) (broadcast : Bool)
    {data : List U8} (hlen : data.length < 2 ^ 32) (hmem : data ∈ sends) :
    Serves sends s (s.mirrorLanPayload vfd dstIp dstPort broadcast data).1
      (s.mirrorLanPayload vfd dstIp dstPort broadcast data).2.1 := by
  rw [mirrorLanPayload]
  cases hport : s.port with
  | none => exact .idle rfl
  | some v =>
    have hdata : ((payloadCall vfd dstIp dstPort broadcast data).datagram v).data = data := by
      rw [payloadCall]
      split
      · split <;> rfl
      · rfl
    exact call_serves hport _ (by rwa [hdata]) (by rwa [hdata])

theorem mirrorConnectedLanDatagram_serves (s : Shim) (pid : U64) (fd : Int) {data : List U8}
    (hlen : data.length < 2 ^ 32) (hmem : data ∈ sends) :
    Serves sends s (s.mirrorConnectedLanDatagram pid fd data).1 (s.mirrorConnectedLanDatagram pid fd data).2.1 := by
  rw [mirrorConnectedLanDatagram]
  split
  · rename_i v vfd ip port hport _
    exact call_serves hport (.mirrorLanDatagram vfd ip port data) hlen hmem
  · exact .idle rfl

/-- A message that is sent is one in the buffer. -/
theorem mmsgCall_payload {s : Shim} {pid : U64} {fd : Int} {cursor rest : List U8} {c : SendCall}
    (h : s.mmsgCall pid fd cursor = some (c, rest)) (v : VNet) (count : Nat) :
    mmsgPayloads (count + 1) cursor = (c.datagram v).data :: mmsgPayloads count rest := by
  rw [mmsgCall] at h
  obtain ⟨⟨view, cursor'⟩, hview, h⟩ := Option.bind_eq_some_iff.mp h
  obtain ⟨⟨vfd, ip, port, broadcast⟩, -, h⟩ := Option.bind_eq_some_iff.mp h
  obtain ⟨payload, hpayload, h⟩ := Option.bind_eq_some_iff.mp h
  obtain ⟨rfl, rfl⟩ := Prod.mk.inj (Option.some.inj h)
  rw [mmsgPayloads, hview]
  dsimp only
  rw [hpayload]
  cases broadcast <;> rfl

theorem sendMMsgs_serves (pid : U64) (fd : Int) (count : Nat) (s : Shim) (cursor : List U8)
    (hlen : ∀ p ∈ mmsgPayloads count cursor, p.length < 2 ^ 32)
    (hmem : ∀ p ∈ mmsgPayloads count cursor, p ∈ sends) :
    Serves sends s (sendMMsgs pid fd count s cursor).1 (sendMMsgs pid fd count s cursor).2.1 := by
  induction count generalizing s cursor with
  | zero => exact .idle rfl
  | succ count ih =>
    rw [sendMMsgs]
    split
    · rename_i v c rest hport hcall
      have hpayloads := mmsgCall_payload hcall v count
      rw [hpayloads] at hlen hmem
      obtain ⟨hlen, hlater⟩ := List.forall_mem_cons.mp hlen
      obtain ⟨hmem, hlater'⟩ := List.forall_mem_cons.mp hmem
      have hfirst := call_serves hport c hlen hmem
      dsimp only
      split
      · exact hfirst
      · exact hfirst.trans (ih _ rest hlater hlater')
    · exact .idle rfl

theorem mirrorMMsgBuffer_serves (s : Shim) (pid : U64) (fd vlen : Int) (buf : List U8)
    (hlen : ∀ p ∈ mmsgPayloads vlen.toNat (buf.drop 1), p.length < 2 ^ 32)
    (hmem : ∀ p ∈ mmsgPayloads vlen.toNat (buf.drop 1), p ∈ sends) :
    Serves sends s (s.mirrorMMsgBuffer pid fd vlen buf).1 (s.mirrorMMsgBuffer pid fd vlen buf).2.1 := by
  rw [mirrorMMsgBuffer]
  split
  · exact .idle rfl
  · split
    · exact .idle rfl
    · exact sendMMsgs_serves pid fd vlen.toNat s (buf.drop 1) hlen hmem

theorem answerOr_serves (bsd : BsdCall → Option BsdResult) {s : Shim} {sent : Shim × List Frame × Option Handed}
    (h : Serves sends s sent.1 sent.2.1) (buf : List U8) (c : BsdCall) :
    Serves sends s (answerOr bsd sent buf c).shim (answerOr bsd sent buf c).frames := by
  rw [answerOr]
  split <;> exact h

theorem sendTo_serves (bsd : BsdCall → Option BsdResult) (s : Shim) (pid : U64) (fd : Int) (flags : U32)
    {buf : List U8} (addr : List U8) (hlen : buf.length < 2 ^ 32) (hmem : buf ∈ sends) :
    Serves sends s (s.sendTo bsd pid fd flags buf addr).shim (s.sendTo bsd pid fd flags buf addr).frames := by
  rw [sendTo]
  dsimp only
  split
  · exact .idle rfl
  · split
    · have hmirror : Serves sends s (s.ensureLanMirror pid fd (s.table.lookupSend pid fd).1).1 [] :=
        ensureLanMirror_serves s pid fd _
      split
      · exact hmirror
      · exact answerOr_serves bsd (hmirror.trans (mirrorLanPayload_serves _ _ _ _ _ hlen hmem)) buf _
    · split
      · exact .idle rfl
      · exact answerOr_serves bsd (mirrorLanPayload_serves _ _ _ _ _ hlen hmem) buf _

theorem sendMMsg_serves (bsd : BsdCall → Option BsdResult) (s : Shim) (pid : U64) (fd vlen flags : Int)
    (buf : List U8) (hlen : ∀ p ∈ mmsgPayloads vlen.toNat (buf.drop 1), p.length < 2 ^ 32)
    (hmem : ∀ p ∈ mmsgPayloads vlen.toNat (buf.drop 1), p ∈ sends) :
    Serves sends s (s.sendMMsg bsd pid fd vlen flags buf).shim (s.sendMMsg bsd pid fd vlen flags buf).frames := by
  have h := mirrorMMsgBuffer_serves s pid fd vlen buf hlen hmem
  rw [sendMMsg]
  dsimp only
  split <;> exact h

/-! ### Everything else -/

theorem socket_serves (bsd : BsdCall → Option BsdResult) (s : Shim) (pid : U64) (domain type protocol : Int) :
    Serves sends s (s.socket bsd pid domain type protocol).shim (s.socket bsd pid domain type protocol).frames := by
  rw [socket]
  dsimp only [forward]
  split
  · exact .idle rfl
  · split <;> exact .idle rfl

theorem bind_serves (bsd : BsdCall → Option BsdResult) (s : Shim) (pid : U64) (fd : Int) (addr : List U8) :
    Serves sends s (s.bind bsd pid fd addr).shim (s.bind bsd pid fd addr).frames := by
  rw [bind]
  dsimp only [forward]
  split
  · exact .idle rfl
  · split
    · split
      · exact Serves.before (ensureLanMirror_serves _ pid fd _) rfl
      · exact .idle rfl
    · exact .idle rfl

theorem connectOverlay_port {s t : Shim} {pid : U64} {fd : Int} {addr : List U8}
    (h : s.connectOverlay pid fd addr = some t) : t.port = s.port := by
  rw [connectOverlay] at h
  split at h
  · split at h
    · cases h
    · split at h
      · split at h
        · rw [← Option.some.inj h]
        · cases h
      · split at h
        · split at h
          · rw [← Option.some.inj h]
          · cases h
        · cases h
  · cases h

theorem connect_serves (bsd : BsdCall → Option BsdResult) (s : Shim) (pid : U64) (fd : Int) (addr : List U8) :
    Serves sends s (s.connect bsd pid fd addr).shim (s.connect bsd pid fd addr).frames := by
  have hforwarded : (s.connectForwarded pid fd addr).port = s.port := by
    rw [connectForwarded]
    split
    · rfl
    · split
      · rfl
      · split
        · rfl
        · split <;> rfl
  rw [connect]
  split
  · rename_i t ht
    exact .idle (connectOverlay_port ht)
  · dsimp only [forward]
    split
    · exact .idle rfl
    · split
      · exact .idle hforwarded
      · exact .idle rfl

section Commands
variable (real : Request → Except U32 Answer)

/-- A command that the real service answers. -/
theorem relayThen_serves {s s' : Shim} (h : Serves sends s' s []) (r : Request) {f : Answer → Shim × Answer}
    (hf : ∀ a, Serves sends s (f a).1 []) :
    Serves sends s' (relayThen real s r f).shim (relayThen real s r f).frames := by
  rw [relayThen]
  split
  · exact h
  · exact h.trans (hf _)

theorem receiveLanDatagram_serves (s : Shim) (pid : U64) (fd : Int) (max : Nat) (peek : Bool) :
    Serves sends s (s.receiveLanDatagram pid fd max peek).1 [] := by
  rw [receiveLanDatagram]
  cases hport : s.port with
  | none => exact .idle rfl
  | some v =>
    dsimp only
    split
    · exact .idle rfl
    · exact .of_performs hport rfl (.one v (.udpRecvFrom _ _ _) trivial)

theorem receiveOr_serves (s : Shim) (pid : U64) (fd : Int) (max : Nat) (peek : Bool) (r : Request)
    (answer : Datagram → Answer) (suppressed : Answer → Answer) :
    Serves sends s (receiveOr real s pid fd max peek r answer suppressed).shim
      (receiveOr real s pid fd max peek r answer suppressed).frames := by
  have h : Serves sends s (s.receiveLanDatagram pid fd max peek).1 [] := receiveLanDatagram_serves s pid fd max peek
  rw [receiveOr]
  split
  · exact h
  · exact relayThen_serves real h r fun a => .idle rfl

theorem setSockOpt_serves (s : Shim) (pid : U64) (fd level optname : Int) (optval : List U8) :
    Serves sends s (setSockOpt real s pid fd level optname optval).shim
      (setSockOpt real s pid fd level optname optval).frames := by
  rw [setSockOpt]
  refine relayThen_serves real (.idle rfl) _ fun a => ?_
  dsimp only
  split
  · split
    · exact Serves.before (ensureLanMirror_serves _ pid fd _) rfl
    · exact .idle rfl
  · exact .idle rfl

theorem close_serves (s : Shim) (pid : U64) (fd : Int) :
    Serves sends s (close real s pid fd).shim (close real s pid fd).frames := by
  rw [close]
  refine relayThen_serves real (.idle rfl) _ fun a => ?_
  split
  · exact Serves.before (closeVfd_serves _ _) rfl
  · exact .idle rfl

theorem shutdownAllSockets_serves (s : Shim) (pid : U64) (how : Int) :
    Serves sends s (shutdownAllSockets real s pid how).shim (shutdownAllSockets real s pid how).frames := by
  rw [shutdownAllSockets]
  refine relayThen_serves real (.idle rfl) _ fun a => ?_
  split
  · exact Serves.before (closeVfds_serves _ _) rfl
  · exact .idle rfl

theorem getSockName_serves (s : Shim) (pid : U64) (fd : Int) (addr : Nat) :
    Serves sends s (getSockName real s pid fd addr).shim (getSockName real s pid fd addr).frames := by
  rw [getSockName]
  refine relayThen_serves real (.idle rfl) _ fun a => .idle ?_
  dsimp only
  -- the port found in the answer is entered first, and what is named after that changes no state
  generalize hs' : (if a.ret = 0 ∧ 4 ≤ addr then _ else s : Shim) = s'
  have hport : s'.port = s.port := by
    rw [← hs']
    split
    · split
      · split <;> rfl
      · rfl
    · rfl
  split
  · split <;> exact hport
  · exact hport

/-- **A command comes down to operations of the interface**, and sends what its client sends. -/
theorem exec_serves (s : Shim) (mem : Memory) (pid : U64) (r : Request)
    (hlen : ∀ p ∈ r.payloads, p.length < 2 ^ 32) :
    Serves r.payloads s (s.exec real mem pid r).shim (s.exec real mem pid r).frames := by
  cases r with
  | socket domain type protocol => exact socket_serves _ s pid domain type protocol
  | select nfds timeout rd wr ex ord owr oex =>
    refine relayThen_serves real (.idle rfl) _ fun a => .idle ?_
    dsimp only
    split <;> rfl
  | poll nfds timeout inFds outFds =>
    refine relayThen_serves real (.idle rfl) _ fun a => .idle ?_
    dsimp only
    split <;> rfl
  | sysctl name oldp newp => exact relayThen_serves real (.idle rfl) _ fun a => .idle rfl
  | recv fd flags buf => exact receiveOr_serves real s pid fd buf _ _ _ _
  | recvFrom fd flags buf addr => exact receiveOr_serves real s pid fd buf _ _ _ _
  | read fd buf => exact receiveOr_serves real s pid fd buf _ _ _ _
  | send fd flags buf =>
    exact answerOr_serves _ (mirrorConnectedLanDatagram_serves s pid fd (hlen buf (.head _)) (.head _)) buf _
  | write fd buf =>
    exact answerOr_serves _ (mirrorConnectedLanDatagram_serves s pid fd (hlen buf (.head _)) (.head _)) buf _
  | sendTo fd flags buf addr => exact sendTo_serves _ s pid fd flags addr (hlen buf (.head _)) (.head _)
  | sendMMsg fd vlen flags buf => exact sendMMsg_serves _ s pid fd vlen flags buf hlen fun p hp => hp
  | bind fd addr => exact bind_serves _ s pid fd addr
  | connect fd addr => exact connect_serves _ s pid fd addr
  | getPeerName fd addr =>
    show Serves _ s (getPeerName real s pid fd addr).shim (getPeerName real s pid fd addr).frames
    rw [getPeerName]
    split
    · split <;> exact .idle rfl
    · exact .idle rfl
  | getSockName fd addr => exact getSockName_serves real s pid fd addr
  | setSockOpt fd level optname optval => exact setSockOpt_serves real s pid fd level optname optval
  | close fd => exact close_serves real s pid fd
  | shutdownAllSockets how => exact shutdownAllSockets_serves real s pid how
  | _ => exact .idle rfl

end Commands

end Shim

/-! ### The network -/

/-- What happens on a console. What the real service would answer is part of a command, as
is the client's memory, and whatever other threads make of the table in between is a
happening of its own. -/
inductive Deed where
  | command (real : Request → Except U32 Answer) (mem : Memory) (pid : U64) (r : Request)
  | interface (op : Op)
  | others (table : Table)

def Shim.does (s : Shim) : Deed → Shim × List Frame
  | .command real mem pid r => ((s.exec real mem pid r).shim, (s.exec real mem pid r).frames)
  | .interface op =>
    match s.port with
    | none => (s, [])
    | some v => ({ s with port := some (v.exec op).1 }, (v.exec op).2.frames)
  | .others table => ({ s with table := table }, [])

/-- A frame that the network hands to the console. -/
def Shim.hears (s : Shim) (m : OnAir) : Shim × List Frame :=
  match s.port with
  | none => (s, [])
  | some v =>
    let out := v.onFrame m.srcMac m.frame.dstMac m.frame.etherType m.frame.payload
    ({ s with port := some out.1 }, out.2)

/-- The MAC that the console's frames bear. -/
def Shim.mac (s : Shim) : U64 := s.port.elim 0 VNet.mac

variable {n : Nat}

def servers (r : Roster n) : Parties (Fin n) Shim Deed OnAir where
  act _ s d := ((s.does d).1, (s.does d).2.map (OnAir.mk s.mac))
  react _ s m := ((s.hears m).1, (s.hears m).2.map (OnAir.mk s.mac))
  route := r.receivers

/-- The consoles as their ports start them, whatever is in the tables. -/
def boot (s : Fin n → Shim) : Medium (Fin n) Shim OnAir :=
  ⟨fun i => { s i with port := (s i).port.map VNet.reset }, []⟩

/-- A console is set up with what the controller gave it, and leaves room for `size` bytes in
one packet; games send no more than that, and only what `sent` has. -/
def Serving (r : Roster n) (size : Nat) (sent : Fin n → List U8 → Prop) (i : Fin n) : Deed → Prop
  | .command _ _ _ req => ∀ p ∈ req.payloads, p.length ≤ size ∧ sent i p
  | .interface op => r.Allowed i op ∧ Roster.Whole size (fun _ _ => False) i op
  | .others _ => True

/-- The game on console `k` issued a command that sends these bytes. -/
def toldIn (es : List (Happening (Fin n) Deed)) (k : Fin n) (bytes : List U8) : Prop :=
  ∃ real mem pid req, .act k (.command real mem pid req) ∈ es ∧ bytes ∈ req.payloads

section Network
variable {r : Roster n} {size : Nat} {sent : Fin n → List U8 → Prop}

theorem Client.allowed {sends : List (List U8)} {op : Op} (h : Client sends op) (i : Fin n)
    (hsends : ∀ p ∈ sends, p.length ≤ size ∧ sent i p) : r.Allowed i op ∧ Roster.Whole size sent i op := by
  cases op with
  | udpSendTo vfd dstIp dstPort buf => exact ⟨trivial, hsends buf h⟩
  | reset => exact h.elim
  | configure => exact h.elim
  | setEmit => exact h.elim
  | udpSetBroadcast => exact h.elim
  | onFrame => exact h.elim
  | sendEchoRequest => exact h.elim
  | _ => exact ⟨trivial, trivial⟩

/-- Nothing is sent but by games. -/
theorem Whole.interface {i : Fin n} {op : Op} (h : Roster.Whole size (fun _ _ => False) i op) :
    Roster.Whole size sent i op := by
  cases op with
  | udpSendTo vfd dstIp dstPort buf => exact h.2.elim
  | configure mac ip netmask mtu => exact h
  | _ => trivial

/-- What the operations of a command keep, and what their frames are. -/
theorem performs_faithful (hsize : Ip4.MinHeader + (Udp4.Header + size) ≤ 1500) {i : Fin n}
    {sends : List (List U8)} (hsends : ∀ p ∈ sends, p.length ≤ size ∧ sent i p) {v w : VNet} {frames : List Frame}
    (hp : Performs sends v w frames) (h : Faithful r size sent i v) :
    Faithful r size sent i w ∧
      ∀ m ∈ frames.map (OnAir.mk v.mac), ∀ j ∈ r.receivers i m, Carried r sent j m := by
  induction hp with
  | refl => exact ⟨h, fun m hm => by cases hm⟩
  | @op v w frames op hop rest ih =>
    obtain ⟨hnext, hfirst⟩ := (consoles_faithful hsize).act i v op h (hop.allowed i hsends)
    obtain ⟨hlast, hrest⟩ := ih hnext
    refine ⟨hlast, fun m hm => ?_⟩
    rw [List.map_append] at hm
    rcases List.mem_append.mp hm with hm | hm
    · exact hfirst m hm
    · refine hrest m ?_
      rw [hop.sameMac v]
      exact hm

/-- The interface of a console, if it has one. -/
def Sound (r : Roster n) (size : Nat) (sent : Fin n → List U8 → Prop) (i : Fin n) (s : Shim) : Prop :=
  ∀ v, s.port = some v → Faithful r size sent i v

theorem servers_sound (hsize : Ip4.MinHeader + (Udp4.Header + size) ≤ 1500) :
    Parties.Local (servers r) (Serving r size sent) (Sound r size sent) (Carried r sent) where
  act i s d h ha := by
    cases d with
    | command real mem pid req =>
      have hmax : ∀ p ∈ req.payloads, p.length < 2 ^ 32 := by
        intro p hp
        have hle := (ha p hp).1
        omega
      have hserves := Shim.exec_serves real s mem pid req hmax
      cases hport : s.port with
      | none =>
        obtain ⟨hnone, hframes⟩ := hserves.absent hport
        refine ⟨(fun v hv => by cases hnone.symm.trans hv), fun m hm => ?_⟩
        have hm' : m ∈ (s.exec real mem pid req).frames.map (OnAir.mk s.mac) := hm
        rw [hframes] at hm'
        cases hm'
      | some v =>
        obtain ⟨w, hw, hp⟩ := hserves.present v hport
        obtain ⟨hfaithful, hframes⟩ := performs_faithful hsize ha hp (h v hport)
        have hmac : s.mac = v.mac := by rw [Shim.mac, hport]; rfl
        refine ⟨fun u hu => ?_, fun m hm => hframes m ?_⟩
        · obtain rfl := Option.some.inj (hw.symm.trans hu)
          exact hfaithful
        · rw [← hmac]
          exact hm
    | interface op =>
      show Sound r size sent i (s.does (.interface op)).1 ∧
        ∀ m ∈ (s.does (.interface op)).2.map (OnAir.mk s.mac), _
      rw [Shim.does, Shim.mac]
      cases hport : s.port with
      | none => exact ⟨h, fun m hm => by cases hm⟩
      | some v =>
        obtain ⟨hnext, hframes⟩ := (consoles_faithful hsize).act i v op (h v hport) ⟨ha.1, Whole.interface ha.2⟩
        refine ⟨fun u hu => ?_, hframes⟩
        obtain rfl := Option.some.inj hu
        exact hnext
    | others table => exact ⟨h, fun m hm => by cases hm⟩
  react i s m h hm := by
    show Sound r size sent i (s.hears m).1 ∧ ∀ m' ∈ (s.hears m).2.map (OnAir.mk s.mac), _
    rw [Shim.hears, Shim.mac]
    cases hport : s.port with
    | none => exact ⟨h, fun m' hm' => by cases hm'⟩
    | some v =>
      obtain ⟨hnext, hframes⟩ := (consoles_faithful hsize).react i v m (h v hport) hm
      refine ⟨fun u hu => ?_, hframes⟩
      obtain rfl := Option.some.inj hu
      exact hnext

theorem boot_sound (hsize : Ip4.MinHeader + (Udp4.Header + size) ≤ 1500) (s : Fin n → Shim) :
    Parties.Holds (Sound r size sent) (Carried r sent) (boot s) where
  state i v hv := by
    obtain ⟨u, -, rfl⟩ := Option.map_eq_some_iff.mp hv
    exact (start_faithful hsize fun _ => u).state i
  pending _ hd := by cases hd

/-- What is received was sent. -/
theorem received_heard {i : Fin n} {v : VNet} (h : Faithful r size sent i v) {vfd : Int} {max : Nat} {peek : Bool}
    {d : Datagram} (hd : (receiveLanDatagram v vfd max peek).2 = some d) :
    ∃ k bytes, sent k bytes ∧ d.srcIp = r.ip k ∧ d.bytes = bytes.take max := by
  obtain ⟨b, hmodels, hamong⟩ := h.queued
  rw [receiveLanDatagram, udpRecvFrom_front hmodels] at hd
  obtain ⟨first, hfirst, rfl⟩ := Option.map_eq_some_iff.mp hd
  obtain ⟨k, -, hfront⟩ := Option.bind_eq_some_iff.mp hfirst
  obtain ⟨queue, hqueue, hhead⟩ := Option.bind_eq_some_iff.mp hfront
  obtain ⟨j, hip, hsent⟩ := hamong k first (by rw [hqueue]; exact List.mem_of_mem_head? hhead)
  exact ⟨j, first.bytes, hsent, hip, rfl⟩

/-- What the shim answers a command to receive with, `max` being the length of the buffer and
`name` what is said of the sender. -/
def Heard (r : Roster n) (sent : Fin n → List U8 → Prop) (max : Nat) (name : U32 → U16 → List (List U8))
    (e : Execution) : Prop :=
  e.forwarded = none → ∃ k bytes port a, sent k bytes ∧ e.reply = .ok a ∧
    a.outs = bytes.take (BitVec.ofNat 32 max).toNat :: name (r.ip k) port ∧
    a.ret = (bytes.take (BitVec.ofNat 32 max).toNat).length

theorem receiveOr_heard (real : Request → Except U32 Answer) {i : Fin n} {s : Shim} (h : Sound r size sent i s)
    (pid : U64) (fd : Int) (max : Nat) (peek : Bool) (req : Request) {answer : Datagram → Answer}
    {suppressed : Answer → Answer} {name : U32 → U16 → List (List U8)}
    (hanswer : ∀ d, (answer d).outs = d.bytes :: name d.srcIp d.srcPort ∧ (answer d).ret = d.bytes.length) :
    Heard r sent max name (Shim.receiveOr real s pid fd max peek req answer suppressed) := by
  rw [Heard, Shim.receiveOr]
  split
  · rename_i d hd
    intro _
    rw [Shim.receiveLanDatagram] at hd
    cases hport : s.port with
    | none =>
      rw [hport] at hd
      cases hd
    | some v =>
      rw [hport] at hd
      dsimp only at hd
      split at hd
      · cases hd
      · obtain ⟨k, bytes, hsent, hip, hbytes⟩ := received_heard (h v hport) hd
        obtain ⟨houts, hret⟩ := hanswer d
        rw [hip, hbytes] at houts
        rw [hbytes] at hret
        exact ⟨k, bytes, d.srcPort, answer d, hsent, rfl, houts, hret⟩
  · intro hforwarded
    rw [Shim.relayThen] at hforwarded
    split at hforwarded <;> cases hforwarded

/-- **What games hear, games have said.** Whatever the games of a network do, the ports and the
network to their frames: where every datagram fits one packet, what a game receives through the
shim is what a game has passed to a command that sends, cut to the buffer, and the address
that comes with it names that game's console. -/
theorem games_hear_games (r : Roster n) (size : Nat) (hsize : Ip4.MinHeader + (Udp4.Header + size) ≤ 1500)
    (s : Fin n → Shim) (es : List (Happening (Fin n) Deed))
    (ha : ∀ e ∈ es, e.Permitted (Serving r size fun _ _ => True)) (t : Medium (Fin n) Shim OnAir)
    (hr : (servers r).system.run (boot s) es = some t) (i : Fin n) (real : Request → Except U32 Answer) (mem : Memory)
    (pid : U64) (fd : Int) (buf : Nat) :
    (∀ flags, Heard r (toldIn es) buf (fun _ _ => []) ((t.state i).exec real mem pid (.recv fd flags buf))) ∧
    Heard r (toldIn es) buf (fun _ _ => []) ((t.state i).exec real mem pid (.read fd buf)) ∧
    ∀ flags addr, Heard r (toldIn es) buf (fun ip port => [if 16 ≤ addr then sockaddr ip port else []])
      ((t.state i).exec real mem pid (.recvFrom fd flags buf addr)) := by
  have hpermitted : ∀ e ∈ es, e.Permitted (Serving r size (toldIn es)) := by
    intro e he
    have hp := ha e he
    cases e with
    | act i d =>
      cases d with
      | command real mem pid req => exact fun p hp' => ⟨(hp p hp').1, real, mem, pid, req, he, hp'⟩
      | interface op => exact hp
      | others table => trivial
    | _ => trivial
  have hsound : Sound r size (toldIn es) i (t.state i) :=
    ((servers_sound hsize).run es (boot_sound hsize s) hpermitted hr).state i
  refine ⟨fun flags => ?_, ?_, fun flags addr => ?_⟩
  · exact receiveOr_heard real hsound pid fd buf _ _ fun d => ⟨rfl, rfl⟩
  · exact receiveOr_heard real hsound pid fd buf _ _ fun d => ⟨rfl, rfl⟩
  · exact receiveOr_heard real hsound pid fd buf _ _ fun d => ⟨rfl, rfl⟩

/-- A service that gives out the descriptor 3 and agrees to everything. -/
def giving : Request → Except U32 Answer
  | .socket .. => .ok { ret := 3, err := 0 }
  | _ => .ok { ret := 0, err := 0 }

/-- On both consoles of a pair a game binds a socket to a port of the LAN, and the first one's
sends two bytes to everybody. -/
def hailing : List (Happening (Fin 2) Deed) :=
  [.act here (.interface (.configure (pair.mac here) (pair.ip here) 0xFFFFFF00 1500)), .act here (.interface .setEmit),
    .act there (.interface (.configure (pair.mac there) (pair.ip there) 0xFFFFFF00 1500)),
    .act there (.interface .setEmit),
    .act here (.command giving .unread 80 (.socket 2 2 0)),
    .act here (.command giving .unread 80 (.bind 3 (sockaddr 0 30000))),
    .act there (.command giving .unread 81 (.socket 2 2 0)),
    .act there (.command giving .unread 81 (.bind 3 (sockaddr 0 30000))),
    .act here (.command giving .unread 80 (.sendTo 3 0 [0x68, 0x69] (sockaddr 0x0A0000FF 30000))), .deliver 0]

/-- The second one's game receives them. -/
theorem games_hear_games_pair :
    ∃ t, (servers pair).system.run (boot fun _ => ⟨some .fresh, .empty, 0, 0⟩) hailing = some t ∧
      ((t.state 1).exec giving .unread 81 (.recvFrom 3 0 2048 16)).forwarded = none ∧
      Heard pair (toldIn hailing) 2048 (fun ip port => [if 16 ≤ 16 then sockaddr ip port else []])
        ((t.state 1).exec giving .unread 81 (.recvFrom 3 0 2048 16)) :=
  ⟨_, rfl, by decide +kernel, (games_hear_games pair 1472 (by decide) (fun _ => ⟨some .fresh, .empty, 0, 0⟩) hailing
    (by simp [hailing, Happening.Permitted, Serving, Roster.Allowed, Roster.Whole, Request.payloads, Ip4.MinHeader,
      Udp4.Header]) _ rfl 1 giving .unread 81 3 2048).2.2 0 16⟩

end Network

end SysZerotier.Mitm
