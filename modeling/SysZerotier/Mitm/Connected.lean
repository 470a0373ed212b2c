import SysZerotier.Mitm.Relay
import SysZerotier.Library.Runs

/-! A connected socket: the shadow's peer and the real socket's.

`Connect` on a mirrored socket is answered by the shim when the address is its own
business, and by the real service otherwise, so the peer is kept twice. The two agree
with the last `Connect` reported successful as long as the shim answers none while the
real socket is connected elsewhere (`connected_coherent`): only the shadow is told. -/
namespace SysZerotier.Mitm
open Net Port Library

abbrev Peer := U32 × U16

/-- The peer an address names; one of the unspecified family names none. -/
def named (addr : List U8) : Option Peer :=
  if sockaddrFamily addr = 2 then some (sockaddrIp addr, sockaddrPort addr) else none

/-- The command was carried out and returned zero. -/
def succeeded : Except U32 Answer → Bool
  | .ok a => a.ret == 0
  | .error _ => false

def LanSocket.peer (k : LanSocket) : Option Peer :=
  if k.connected then some (k.connectedIp, k.connectedPort) else none

/-! ### The shadow's side -/

namespace Table

/-- Every descriptor keeps its entry, and every entry its peer. -/
structure SamePeers (t u : Table) : Prop where
  find : ∀ pid fd, u.findLanSocketLocked pid fd = t.findLanSocketLocked pid fd
  udp : ∀ i, (u i).udp = (t i).udp
  peer : ∀ i, (u i).peer = (t i).peer

theorem SamePeers.refl (t : Table) : SamePeers t t := ⟨fun _ _ => rfl, fun _ => rfl, fun _ => rfl⟩

theorem SamePeers.trans {t u v : Table} (h : SamePeers t u) (h' : SamePeers u v) : SamePeers t v :=
  ⟨fun pid fd => (h'.find pid fd).trans (h.find pid fd), fun i => (h'.udp i).trans (h.udp i),
    fun i => (h'.peer i).trans (h.peer i)⟩

theorem store_samePeers (t : Table) {i : Nat} {k : LanSocket} (hp : k.pid = (t i).pid)
    (hf : k.bsdFd = (t i).bsdFd) (hu : k.udp = (t i).udp) (hpeer : k.peer = (t i).peer) :
    SamePeers t (t.store i k) :=
  ⟨find_store hp hf, store_field LanSocket.udp t hu, store_field LanSocket.peer t hpeer⟩

theorem recordBind_samePeers (t : Table) (pid : U64) (fd : Int) (port : U16) :
    SamePeers t (t.recordBind pid fd port).1 := by
  rcases t.recordBind_cases pid fd port with heq | ⟨i, -, heq⟩ <;> rw [heq]
  · exact .refl t
  · apply store_samePeers <;> rfl

theorem recordBroadcast_samePeers (t : Table) (pid : U64) (fd : Int) (on : Bool) :
    SamePeers t (t.recordBroadcast pid fd on).1 := by
  rcases t.recordBroadcast_cases pid fd on with heq | ⟨i, -, heq⟩ <;> rw [heq]
  · exact .refl t
  · apply store_samePeers <;> rfl

theorem install_samePeers (t : Table) (pid : U64) (fd candidate : Int) :
    SamePeers t (t.install pid fd candidate).1 := by
  rcases t.install_cases pid fd candidate with ⟨heq, -⟩ | ⟨i, -, -, heq⟩ <;> rw [heq]
  · exact .refl t
  · apply store_samePeers <;> rfl

theorem recordPeer_peer (t : Table) (i : Nat) (peer : Option Peer) : (t.recordPeer i peer i).peer = peer := by
  unfold recordPeer LanSocket.peer
  rw [store_self]
  cases peer <;> rfl

theorem recordPeer_udp (t : Table) (i : Nat) (peer : Option Peer) : (t.recordPeer i peer i).udp = (t i).udp := by
  unfold recordPeer
  rw [store_self]

theorem getConnectedLanPeer_peer {t : Table} {pid : U64} {fd vfd : Int} {ip : U32} {port : U16} {i : Nat}
    (hfind : t.findLanSocketLocked pid fd = some i)
    (h : t.getConnectedLanPeer pid fd = some (vfd, ip, port)) : (t i).peer = some (ip, port) := by
  unfold getConnectedLanPeer at h
  rw [hfind] at h
  dsimp only at h
  split_ifs at h with hno
  rw [Bool.or_eq_true, not_or] at hno
  rw [LanSocket.peer, if_pos (by simpa using hno.2)]
  cases h
  rfl

end Table

namespace Shim

theorem ensureLanMirror_samePeers (s : Shim) (pid : U64) (fd : Int) (port : U16) :
    Table.SamePeers s.table (s.ensureLanMirror pid fd port).1.table := by
  unfold ensureLanMirror
  split
  · exact .refl _
  · split
    · exact .refl _
    · split
      · exact .refl _
      · dsimp only
        split
        · exact .refl _
        · split
          · exact .refl _
          · exact Table.install_samePeers ..

/-- `Connect` is answered without the real service: the socket is mirrored and the
address unspecified or in the managed subnet. -/
def answersConnect (s : Shim) (pid : U64) (fd : Int) (addr : List U8) : Bool :=
  decide (2 ≤ addr.length) && s.table.getLanVfd pid fd != InvalidSocket &&
    (sockaddrFamily addr == 0 ||
      sockaddrFamily addr == 2 && decide (8 ≤ addr.length) &&
        (isOverlayDestination s.port (sockaddrIp addr)).isSome)

section Commands
variable (real : Request → Except U32 Answer) {s : Shim} {mem : Memory} {pid : U64} {fd : Int} {i : Nat}

theorem bind_samePeers (s : Shim) (pid : U64) (fd : Int) (addr : List U8) :
    Table.SamePeers s.table (exec real s mem pid (.bind fd addr)).shim.table := by
  show Table.SamePeers s.table (s.bind (bsdOf real) pid fd addr).shim.table
  unfold bind
  dsimp only [forward]
  split
  · exact .refl _
  · split
    · split
      · exact (Table.recordBind_samePeers ..).trans (ensureLanMirror_samePeers
          { s with table := (s.table.recordBind pid fd (sockaddrPort addr)).1 } pid fd _)
      · exact Table.recordBind_samePeers ..
    · exact .refl _

theorem setSockOpt_samePeers (s : Shim) (pid : U64) (fd level optname : Int) (optval : List U8) :
    Table.SamePeers s.table (exec real s mem pid (.setSockOpt fd level optname optval)).shim.table := by
  show Table.SamePeers s.table (setSockOpt real s pid fd level optname optval).shim.table
  unfold setSockOpt relayThen
  split
  · exact .refl _
  · dsimp only
    split
    · dsimp only
      split
      · exact (Table.recordBroadcast_samePeers ..).trans (ensureLanMirror_samePeers
          { s with table := (s.table.recordBroadcast pid fd (optionValue optval != 0)).1 } pid fd _)
      · exact Table.recordBroadcast_samePeers ..
    · exact .refl _

/-- A `Connect` that the shim answers records the address as the shadow's peer. -/
theorem connectOverlay_records {t : Shim} {addr : List U8} (h : s.connectOverlay pid fd addr = some t) :
    s.answersConnect pid fd addr = true ∧ ∃ i, s.table.findLanSocketLocked pid fd = some i ∧
      t = { s with table := s.table.recordPeer i (named addr) } := by
  unfold connectOverlay at h
  split at h
  · rename_i hmirrored
    cases hfind : s.table.findLanSocketLocked pid fd with
    | none =>
      rw [hfind] at h
      cases h
    | some i =>
      rw [hfind] at h
      dsimp only at h
      have hanswers : s.answersConnect pid fd addr =
          (sockaddrFamily addr == 0 || sockaddrFamily addr == 2 && decide (8 ≤ addr.length) &&
            (isOverlayDestination s.port (sockaddrIp addr)).isSome) := by
        unfold answersConnect
        rw [decide_eq_true hmirrored.1, bne_iff_ne.mpr hmirrored.2, Bool.true_and, Bool.true_and]
      rw [hanswers]
      split_ifs at h with hunspec hudp hinet hoverlay
      · refine ⟨by rw [hunspec]; rfl, i, rfl, ?_⟩
        rw [named, if_neg (by rw [hunspec]; decide)]
        exact (Option.some.inj h).symm
      · refine ⟨?_, i, rfl, ?_⟩
        · rw [hinet.1, decide_eq_true hinet.2, hoverlay.1]
          rfl
        · rw [named, if_pos hinet.1]
          exact (Option.some.inj h).symm
  · cases h

/-- So does one that the real service carried out. -/
theorem connectForwarded_records {addr : List U8} (hfind : s.table.findLanSocketLocked pid fd = some i)
    (hudp : (s.table i).udp = true)
    (haddr : sockaddrFamily addr = 2 ∧ 8 ≤ addr.length ∨ sockaddrFamily addr = 0) :
    s.connectForwarded pid fd addr = { s with table := s.table.recordPeer i (named addr) } := by
  unfold connectForwarded named
  rw [hfind]
  dsimp only
  rw [hudp, if_neg (by decide)]
  rcases haddr with hinet | hunspec
  · rw [if_pos hinet, if_pos hinet.1]
  · have hne : sockaddrFamily addr ≠ 2 := by
      rw [hunspec]
      decide
    rw [if_neg fun h => hne h.1, if_pos hunspec, if_neg hne]

theorem connect_of_overlay {t : Shim} {addr : List U8} (h : s.connectOverlay pid fd addr = some t) :
    exec real s mem pid (.connect fd addr) = { shim := t, reply := .ok { ret := 0, err := 0 } } := by
  show ofReply real (s.connect (bsdOf real) pid fd addr) = _
  unfold connect
  rw [h]
  rfl

theorem connect_of_forwarded {addr : List U8} (h : s.connectOverlay pid fd addr = none) :
    exec real s mem pid (.connect fd addr) =
      { shim := if succeeded (real (.connect fd addr)) ∧ 2 ≤ addr.length then s.connectForwarded pid fd addr else s
        forwarded := some (.connect fd addr)
        reply := real (.connect fd addr) } := by
  show ofReply real (s.connect (bsdOf real) pid fd addr) = _
  unfold connect
  rw [h]
  dsimp only [forward, bsdOf, BsdCall.request]
  cases hreal : real (.connect fd addr) with
  | error rc =>
    rw [if_neg fun h => Bool.false_ne_true h.1]
    simp only [ofReply, BsdCall.request, hreal, Except.toOption, Option.map]
  | ok a =>
    dsimp only [Except.toOption, Option.map]
    by_cases hret : a.ret = 0 ∧ 2 ≤ addr.length
    · rw [if_pos hret, if_pos ⟨beq_iff_eq.mpr hret.1, hret.2⟩]
      simp only [ofReply, BsdCall.request, hreal, Option.map]
    · rw [if_neg hret, if_neg fun hs => hret ⟨beq_iff_eq.mp hs.1, hs.2⟩]
      simp only [ofReply, BsdCall.request, hreal, Option.map]

theorem connect_handed (s : Shim) (mem : Memory) (pid : U64) (fd : Int) (addr : List U8) :
    (exec real s mem pid (.connect fd addr)).handed = [] ∧
      ((exec real s mem pid (.connect fd addr)).forwarded = none ∨
        (exec real s mem pid (.connect fd addr)).forwarded = some (.connect fd addr)) := by
  cases h : s.connectOverlay pid fd addr with
  | some t =>
    rw [connect_of_overlay real h]
    exact ⟨rfl, .inl rfl⟩
  | none =>
    rw [connect_of_forwarded real h]
    exact ⟨rfl, .inr rfl⟩

/-- A datagram that the interface takes goes to the shadow's peer. -/
theorem mirrorConnectedLanDatagram_handed {data : List U8} {d : Handed}
    (hfind : s.table.findLanSocketLocked pid fd = some i)
    (h : (s.mirrorConnectedLanDatagram pid fd data).2.2 = some d) :
    (s.table i).peer = some (d.dstIp, d.port) := by
  unfold mirrorConnectedLanDatagram at h
  split at h
  · rename_i v vfd ip port hport hpeer
    rw [Table.getConnectedLanPeer_peer hfind hpeer]
    dsimp only [call, SendCall.handed] at h
    split at h
    · rw [← Option.some.inj h]
      rfl
    · cases h
  · cases h

/-- `Send` and `Write` leave the table alone, hand a datagram only to the peer, and forward
nothing but themselves. -/
theorem answerOr_connected (hfind : s.table.findLanSocketLocked pid fd = some i) (buf : List U8) (c : BsdCall)
    {e : Execution} (he : e = ofReply real (answerOr (bsdOf real) (s.mirrorConnectedLanDatagram pid fd buf) buf c)) :
    e.shim.table = s.table ∧ (∀ d ∈ e.handed, (s.table i).peer = some (d.dstIp, d.port)) ∧
      (e.forwarded = none ∨ e.forwarded = some c.request) := by
  have htable : (s.mirrorConnectedLanDatagram pid fd buf).1.table = s.table := by
    unfold mirrorConnectedLanDatagram
    split <;> rfl
  rw [he]
  cases hsent : (s.mirrorConnectedLanDatagram pid fd buf).2.2 with
  | none =>
    unfold answerOr
    rw [hsent]
    exact ⟨htable, fun d hd => absurd hd List.not_mem_nil, .inr rfl⟩
  | some d =>
    unfold answerOr
    rw [hsent]
    refine ⟨htable, fun d' hd' => ?_, .inl rfl⟩
    rw [List.mem_singleton.mp hd']
    exact mirrorConnectedLanDatagram_handed hfind hsent

end Commands

end Shim

/-! ### Both sides -/

/-- A tracked socket: the peer of the real one, and the peer of the last `Connect` that
was reported successful. -/
structure Connection where
  shim : Shim
  peer : Option Peer
  last : Option Peer

/-- A command on the socket. -/
inductive Use where
  | bind (addr : List U8)
  | setSockOpt (level optname : Int) (optval : List U8)
  | connect (addr : List U8)
  | send (flags : U32) (buf : List U8)
  | write (buf : List U8)

def Use.request (fd : Int) : Use → Request
  | .bind addr => .bind fd addr
  | .setSockOpt level optname optval => .setSockOpt fd level optname optval
  | .connect addr => .connect fd addr
  | .send flags buf => .send fd flags buf
  | .write buf => .write fd buf

namespace Connection

/-- A command comes with what the real service answers, should it be asked, and whether
a connect that it refuses dissolves the peer it had. The network goes up and down, and
carries traffic, as a change of the interface. -/
inductive Event where
  | use (c : Use) (answer : Except U32 Answer) (dissolves : Bool)
  | interface (change : Option VNet → Option VNet)

/-- The network configuration callback. -/
def Event.networkConfig (op : ConfigOperation) (conf : NetworkConfig) : Event :=
  .interface (Option.map fun v => cbNetworkConfig v op conf)

/-- The real service connects to what an address names, and to nothing else. -/
def Event.standard : Event → Bool
  | .use (.connect addr) answer _ =>
    !succeeded answer || sockaddrFamily addr == 2 && decide (8 ≤ addr.length) ||
      sockaddrFamily addr == 0 && decide (2 ≤ addr.length)
  | _ => true

/-- The real socket's peer after what was forwarded. -/
def realPeer (peer : Option Peer) (answer : Except U32 Answer) (dissolves : Bool) :
    Option Request → Option Peer
  | some (.connect _ addr) => if succeeded answer then named addr else if dissolves then none else peer
  | _ => peer

/-- Where the real service sends a datagram forwarded to it. -/
def realSends (peer : Option Peer) : Option Request → List Peer
  | some (.send _ _ _) | some (.write _ _) => peer.toList
  | _ => []

section Steps
variable (pid : U64) (fd : Int)

/-- No command among them polls. -/
def execution (s : Connection) (c : Use) (answer : Except U32 Answer) : Execution :=
  s.shim.exec (fun _ => answer) .unread pid (c.request fd)

/-- Where the datagrams of a step go: those the interface took to the address they were
handed over with, one that is forwarded to the real socket's peer. -/
def leaves (s : Connection) : Event → List Peer
  | .use c answer _ =>
    let e := s.execution pid fd c answer
    e.handed.map (fun d => (d.dstIp, d.port)) ++ realSends s.peer e.forwarded
  | .interface _ => []

def step (s : Connection) : Event → Option Connection
  | .use c answer dissolves =>
    let e := s.execution pid fd c answer
    some {
      shim := e.shim
      peer := realPeer s.peer answer dissolves e.forwarded
      last :=
        match c with
        | .connect addr => if succeeded e.reply then named addr else s.last
        | _ => s.last }
  | .interface change => some { s with shim := { s.shim with port := change s.shim.port } }

def uses : System Connection Event := ⟨step pid fd⟩

/-- Every datagram of the step goes to the peer of the last successful `Connect`. -/
def coherent (s : Connection) (e : Event) : Bool := (s.leaves pid fd e).all fun p => s.last == some p

/-- The shim answers a `Connect` only while the real socket has no other peer. -/
def agrees (s : Connection) : Event → Bool
  | .use (.connect addr) _ _ =>
    !s.shim.answersConnect pid fd addr || s.peer.isNone || s.peer == named addr
  | _ => true

/-- The socket has just been created and tracked. -/
structure Opened (s : Connection) : Prop where
  entry : ∃ i, s.shim.table.findLanSocketLocked pid fd = some i ∧ (s.shim.table i).udp = true ∧
    (s.shim.table i).connected = false
  peer : s.peer = none
  last : s.last = none

/-- The shadow is connected as last reported, the real socket so or not at all. -/
structure Coherent (s : Connection) : Prop where
  entry : ∃ i, s.shim.table.findLanSocketLocked pid fd = some i ∧ (s.shim.table i).udp = true ∧
    (s.shim.table i).peer = s.last
  peer : s.peer = none ∨ s.peer = s.last

end Steps

variable {pid : U64} {fd : Int}

theorem Opened.coherent {s : Connection} (h : s.Opened pid fd) : s.Coherent pid fd := by
  obtain ⟨i, hfind, hudp, hc⟩ := h.entry
  refine ⟨⟨i, hfind, hudp, ?_⟩, .inl h.peer⟩
  rw [h.last, LanSocket.peer, hc, if_neg Bool.false_ne_true]

/-- A step that changes neither peer. -/
theorem Coherent.samePeers {s t : Connection} (h : s.Coherent pid fd)
    (ht : Table.SamePeers s.shim.table t.shim.table) (hp : t.peer = s.peer) (hl : t.last = s.last) :
    t.Coherent pid fd := by
  obtain ⟨i, hfind, hudp, hpeer⟩ := h.entry
  refine ⟨⟨i, ?_, ?_, ?_⟩, ?_⟩
  · rw [ht.find, hfind]
  · rw [ht.udp, hudp]
  · rw [ht.peer, hpeer, hl]
  · rw [hp, hl]
    exact h.peer

/-- A step that records a peer. -/
theorem Coherent.recorded {s t : Connection} (h : s.Coherent pid fd) {i : Nat} {peer : Option Peer}
    (hfind : s.shim.table.findLanSocketLocked pid fd = some i)
    (ht : t.shim.table = s.shim.table.recordPeer i peer) (hp : t.peer = none ∨ t.peer = peer)
    (hl : t.last = peer) : t.Coherent pid fd := by
  obtain ⟨j, hj, hudp, -⟩ := h.entry
  obtain rfl : i = j := Option.some.inj (hfind.symm.trans hj)
  refine ⟨⟨i, ?_, ?_, ?_⟩, ?_⟩
  · rw [ht, Table.find_recordPeer, hfind]
  · rw [ht, Table.recordPeer_udp, hudp]
  · rw [ht, Table.recordPeer_peer, hl]
  · rw [hl]
    exact hp

theorem connect_coherent {s : Connection} (h : s.Coherent pid fd) {addr : List U8} {answer : Except U32 Answer}
    {dissolves : Bool} (hstd : (Event.use (.connect addr) answer dissolves).standard = true)
    (hagree : s.agrees pid fd (.use (.connect addr) answer dissolves) = true) {t : Connection}
    (ht : s.step pid fd (.use (.connect addr) answer dissolves) = some t) : t.Coherent pid fd := by
  cases ht
  cases hoverlay : s.shim.connectOverlay pid fd addr with
  | some u =>
    obtain ⟨hanswers, i, hfind, rfl⟩ := Shim.connectOverlay_records hoverlay
    have hexec : s.execution pid fd (.connect addr) answer = _ :=
      Shim.connect_of_overlay (fun _ => answer) hoverlay
    rw [hexec]
    refine h.recorded hfind rfl ?_ rfl
    simp only [agrees, hanswers, Bool.not_true, Bool.false_or, Bool.or_eq_true, Option.isNone_iff_eq_none,
      beq_iff_eq] at hagree
    exact hagree
  | none =>
    have hexec : s.execution pid fd (.connect addr) answer = _ :=
      Shim.connect_of_forwarded (fun _ => answer) hoverlay
    rw [hexec]
    dsimp only [realPeer]
    cases hdone : succeeded answer with
    | false =>
      rw [if_neg fun hs => Bool.false_ne_true hs.1, if_neg Bool.false_ne_true, if_neg Bool.false_ne_true]
      refine ⟨h.entry, ?_⟩
      cases dissolves with
      | false => exact h.peer
      | true => exact .inl rfl
    | true =>
      obtain ⟨i, hfind, hudp, -⟩ := h.entry
      have haddr : sockaddrFamily addr = 2 ∧ 8 ≤ addr.length ∨ sockaddrFamily addr = 0 ∧ 2 ≤ addr.length := by
        simpa only [Event.standard, hdone, Bool.not_true, Bool.false_or, Bool.or_eq_true, Bool.and_eq_true,
          beq_iff_eq, decide_eq_true_eq] using hstd
      have hlen : 2 ≤ addr.length := by
        rcases haddr with haddr | haddr <;> omega
      rw [if_pos ⟨rfl, hlen⟩, if_pos rfl, if_pos rfl,
        Shim.connectForwarded_records hfind hudp (haddr.imp id And.left)]
      exact h.recorded hfind rfl (.inr rfl) rfl

theorem realSends_mem {peer : Option Peer} {r : Option Request} {p : Peer} (h : p ∈ realSends peer r) :
    p ∈ peer.toList := by
  unfold realSends at h
  split at h
  · exact h
  · exact h
  · cases h

/-- `Send` and `Write` change no peer, and a datagram goes to the one both sides have. -/
theorem sent_coherent {s : Connection} (h : s.Coherent pid fd) {answer : Except U32 Answer} {buf : List U8}
    {c : BsdCall} {e : Execution}
    (he : e = Shim.ofReply (fun _ => answer)
      (Shim.answerOr (Shim.bsdOf fun _ => answer) (s.shim.mirrorConnectedLanDatagram pid fd buf) buf c)) :
    Table.SamePeers s.shim.table e.shim.table ∧ (e.forwarded = none ∨ e.forwarded = some c.request) ∧
      ∀ p ∈ e.handed.map (fun d => (d.dstIp, d.port)) ++ realSends s.peer e.forwarded, s.last = some p := by
  obtain ⟨i, hfind, -, hpeer⟩ := h.entry
  obtain ⟨htable, hhanded, hforwarded⟩ := Shim.answerOr_connected (fun _ => answer) hfind buf c he
  refine ⟨htable ▸ .refl _, hforwarded, fun p hp => ?_⟩
  rcases List.mem_append.mp hp with hp | hp
  · obtain ⟨d, hd, rfl⟩ := List.mem_map.mp hp
    rw [← hpeer, hhanded d hd]
  · have hsome : s.peer = some p := Option.mem_toList.mp (realSends_mem hp)
    rcases h.peer with hnone | hsame
    · rw [hsome] at hnone
      cases hnone
    · rw [← hsame, hsome]

/-- A command other than `Connect` changes neither peer. -/
theorem Coherent.used {s t : Connection} (h : s.Coherent pid fd) {c : Use} {answer : Except U32 Answer}
    {dissolves : Bool} (hc : ∀ addr, c ≠ .connect addr)
    (hstep : s.step pid fd (.use c answer dissolves) = some t)
    (htable : Table.SamePeers s.shim.table (s.execution pid fd c answer).shim.table)
    (hforwarded : (s.execution pid fd c answer).forwarded = none ∨
      (s.execution pid fd c answer).forwarded = some (c.request fd)) : t.Coherent pid fd := by
  cases hstep
  refine h.samePeers htable ?_ ?_
  · dsimp only
    rcases hforwarded with hf | hf
    · rw [hf]
      rfl
    · rw [hf]
      cases c with
      | connect addr => exact absurd rfl (hc addr)
      | _ => rfl
  · cases c with
    | connect addr => exact absurd rfl (hc addr)
    | _ => rfl

theorem keeps_coherent : (uses pid fd).Keeps (fun s e => e.standard && s.agrees pid fd e) (Coherent pid fd) := by
  intro s e t h hcond hstep
  obtain ⟨hstd, hagree⟩ := Bool.and_eq_true_iff.mp hcond
  cases e with
  | interface change =>
    cases hstep
    exact h.samePeers (.refl _) rfl rfl
  | use c answer dissolves =>
    cases c with
    | connect addr => exact connect_coherent h hstd hagree hstep
    | bind addr =>
      exact h.used (fun _ => by nofun) hstep (Shim.bind_samePeers ..)
        (.inr (Shim.bind_transparent _ .unread ..).forwarded)
    | setSockOpt level optname optval =>
      exact h.used (fun _ => by nofun) hstep (Shim.setSockOpt_samePeers ..)
        (.inr (Shim.setSockOpt_transparent _ .unread ..).forwarded)
    | send flags buf =>
      obtain ⟨htable, hforwarded, -⟩ := sent_coherent (e := s.execution pid fd (.send flags buf) answer) h rfl
      exact h.used (fun _ => by nofun) hstep htable hforwarded
    | write buf =>
      obtain ⟨htable, hforwarded, -⟩ := sent_coherent (e := s.execution pid fd (.write buf) answer) h rfl
      exact h.used (fun _ => by nofun) hstep htable hforwarded

/-- In a coherent state every datagram of the next step goes where it should. -/
theorem Coherent.leaves {s : Connection} (h : s.Coherent pid fd) (e : Event) : s.coherent pid fd e = true := by
  refine List.all_eq_true.mpr fun p hp => beq_iff_eq.mpr ?_
  cases e with
  | interface change => cases hp
  | use c answer dissolves =>
    -- the other commands hand nothing over and forward no datagram
    have hnone : ∀ r, realSends s.peer (some r) = [] → (s.execution pid fd c answer).handed = [] →
        ((s.execution pid fd c answer).forwarded = none ∨ (s.execution pid fd c answer).forwarded = some r) →
        s.last = some p := by
      intro r hr hh hf
      have hp : p ∈ (s.execution pid fd c answer).handed.map (fun d => (d.dstIp, d.port)) ++
        realSends s.peer (s.execution pid fd c answer).forwarded := hp
      rcases hf with hf | hf
      · rw [hh, hf] at hp
        cases hp
      · rw [hh, hf, hr] at hp
        cases hp
    cases c with
    | bind addr =>
      have ht := Shim.bind_transparent (fun _ => answer) .unread s.shim pid fd addr
      exact hnone (.bind fd addr) rfl ht.handed (.inr ht.forwarded)
    | setSockOpt level optname optval =>
      have ht := Shim.setSockOpt_transparent (fun _ => answer) .unread s.shim pid fd level optname optval
      exact hnone (.setSockOpt fd level optname optval) rfl ht.handed (.inr ht.forwarded)
    | connect addr =>
      have hc := Shim.connect_handed (fun _ => answer) s.shim .unread pid fd addr
      exact hnone (.connect fd addr) rfl hc.1 hc.2
    | send flags buf =>
      exact (sent_coherent (e := s.execution pid fd (.send flags buf) answer) h rfl).2.2 p hp
    | write buf =>
      exact (sent_coherent (e := s.execution pid fd (.write buf) answer) h rfl).2.2 p hp

/-- **Along every run of a tracked socket in which the shim answers a `Connect` itself
only while the real socket has no other peer, every datagram goes to the peer of the last
`Connect` reported successful, and none leaves after that named no peer.** -/
theorem connected_coherent {s : Connection} (h : s.Opened pid fd) {es : List Event}
    (hstd : ∀ e ∈ es, e.standard = true) (hm : (uses pid fd).meets (agrees pid fd) s es = true) :
    (uses pid fd).meets (coherent pid fd) s es = true :=
  keeps_coherent.meets (fun _ e hs _ => hs.leaves e) es h.coherent (System.meets_and es hstd hm)

/-- A socket of process 80 has just been tracked; the interface is there. -/
def opened : Connection := ⟨⟨some VNet.fresh, Table.empty.track 80 3, 0, 0⟩, none, none⟩

theorem opened_opened : opened.Opened 80 3 := ⟨⟨0, by decide, by decide, by decide⟩, rfl, rfl⟩

/-- The network comes up, the socket is bound and connected where it is not mirrored, and
then mirrored for its broadcasts. -/
def mirroredConnected : List Event :=
  [.networkConfig .up ⟨2, 2800, [⟨true, 0x0A000001, 24⟩]⟩,
    .use (.bind (sockaddr 0 6000)) (.ok { ret := 0, err := 0 }) false,
    .use (.connect (sockaddr 0x0A000007 49152)) (.ok { ret := 0, err := 0 }) false,
    .use (.setSockOpt 0xFFFF 0x20 [1, 0, 0, 0]) (.ok { ret := 0, err := 0 }) false,
    .use (.send 0 [1]) (.ok { ret := 1, err := 0 }) false]

theorem connected_coherent_mirrored : (uses 80 3).meets (coherent 80 3) opened mirroredConnected = true :=
  connected_coherent opened_opened (by decide) (by decide +kernel)

/-- The socket is disconnected: the shim says so to the client and not to the real
service, which sends the next datagram to the former peer. -/
theorem disconnect_unheard :
    ¬∀ (pid : U64) (fd : Int) (s : Connection) (es : List Event), s.Opened pid fd →
      (∀ e ∈ es, e.standard = true) → (uses pid fd).meets (coherent pid fd) s es = true := by
  intro h
  exact absurd
    (h 80 3 opened
      (mirroredConnected ++
        [.use (.connect [16, 0]) (.ok { ret := 0, err := 0 }) false,
          .use (.send 0 [1]) (.ok { ret := 1, err := 0 }) false])
      opened_opened (by decide))
    (by decide +kernel)

end Connection

end SysZerotier.Mitm
