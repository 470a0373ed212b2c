import SysZerotier.Mitm.Handlers
import SysZerotier.Library.Runs

/-! The shim between its two threads (`source/mitm/bsd_shim.cpp`, `source/main.cpp`).

One thread serves the commands of all clients, one after the other. The node thread
makes ZeroTier's callbacks into the interface and reaps the table entries of
processes that have exited. A step of the system is what one of them does under one
acquisition of the table's lock or of the interface's; `Pc` is how far the server
thread has got with the command it serves, `reaping` the virtual sockets the node
thread has yet to close.

A command is an event once the real service has answered it, or, if it consults
the table first, when it arrives; the answer then comes with it. A command whose
forwarding fails does nothing here. The port is set before the server starts.
`history` is what the clients did, newest first; nothing reads it. -/
namespace SysZerotier.Mitm
open Net Port Library

/-- A call of `EnsureLanMirror`, and what `SendTo` goes on to send. -/
structure Mirroring where
  pid : U64
  fd : Int
  port : U16
  datagram : Option (U32 × U16 × List U8)
  deriving DecidableEq

/-- A call into the port with a virtual socket found in the table. -/
inductive PortCall where
  | send (c : SendCall)
  | receive (vfd : Int) (max : Nat) (peek : Bool)
  | readable (vfd : Int)
  deriving DecidableEq

def PortCall.exec (v : VNet) : PortCall → VNet
  | .send c => (c.exec v).1
  | .receive vfd max peek => (receiveLanDatagram v vfd max peek).1
  | .readable _ => v

/-- What a command that only reads the table asks it for: `Recv`, `Read` and
`RecvFrom`; `Select` and `Poll`, for one descriptor; `Send` and `Write`; `SendMMsg`,
for one message; `GetPeerName`. -/
inductive Query where
  | receive (max : Nat) (peek : Bool)
  | readable
  | send (data : List U8)
  | message (name data : List U8)
  | peerName
  deriving DecidableEq

/-- A client's command. `ret` is the real service's answer. -/
inductive Command where
  | socket (domain type protocol ret : Int)
  /-- `SocketExempt`, `Open`, `Accept`, `DuplicateSocket` and `EventFd`. -/
  | otherDescriptor (ret : Int)
  | bind (fd : Int) (addr : List U8) (ret : Int)
  /-- `v` is the option's value, or -1 if the buffer is too short for one. -/
  | setSockOpt (fd level optname v ret : Int)
  | sendTo (fd : Int) (buf addr : List U8)
  | connect (fd : Int) (addr : List U8) (ret : Int)
  /-- `name` is the address the real service answered with. -/
  | getSockName (fd : Int) (name : List U8) (ret : Int)
  | close (fd ret : Int)
  | shutdownAllSockets (ret : Int)
  | query (fd : Int) (q : Query)
  deriving DecidableEq

/-- Where the server thread is. -/
inductive Pc where
  | idle
  /-- `EnsureLanMirror`, from its first line. -/
  | ensuring (m : Mirroring)
  | opening (m : Mirroring)
  | binding (m : Mirroring) (candidate : Int)
  | installing (m : Mirroring) (candidate : Int)
  /-- The candidate is to be closed; `selected` is what is returned then. -/
  | discarding (m : Mirroring) (candidate selected : Int)
  /-- The entries are cleared and their virtual sockets yet to be closed. -/
  | releasing (vfds : List Int)
  | calling (pid : U64) (fd : Int) (c : PortCall)
  /-- `ResolveMMsgDestination` has its address and asks for the overlay's. -/
  | resolving (pid : U64) (fd vfd : Int) (ip : U32) (port : U16) (data : List U8)
  /-- `Connect` asks for the overlay's address. -/
  | connecting (pid : U64) (fd : Int) (addr : List U8) (ret : Int)
  /-- `Connect` is to record a peer without the real service. -/
  | peering (pid : U64) (fd : Int) (peer : Option (U32 × U16)) (addr : List U8) (ret : Int)
  /-- `GetSockName` has noted the port and looks for a virtual socket. -/
  | locating (pid : U64) (fd : Int)
  /-- The answer to a name query comes from the table or the interface. -/
  | naming (pid : U64) (fd : Int)
  deriving DecidableEq

/-- The virtual sockets the server thread is to install or close. -/
def Pc.held : Pc → List Int
  | .binding _ candidate => [candidate]
  | .installing _ candidate => [candidate]
  | .discarding _ candidate _ => [candidate]
  | .releasing vfds => vfds
  | _ => []

/-- The descriptor for which the interface or the table is about to answer. -/
def Pc.diverts : Pc → Option (U64 × Int)
  | .opening m => some (m.pid, m.fd)
  | .binding m _ => some (m.pid, m.fd)
  | .installing m _ => some (m.pid, m.fd)
  | .calling pid fd _ => some (pid, fd)
  | .resolving pid fd _ _ _ _ => some (pid, fd)
  | .connecting pid fd _ _ => some (pid, fd)
  | .peering pid fd _ _ _ => some (pid, fd)
  | .naming pid fd => some (pid, fd)
  | _ => none

structure Threads where
  vnet : VNet
  table : Table
  server : Pc
  reaping : List Int
  history : List (U64 × Command)

inductive Event where
  /-- The server thread takes the next command. -/
  | command (pid : U64) (c : Command)
  /-- It goes on with the command it serves. -/
  | serve
  /-- `CleanupAbandonedServices` finds that a process has exited. -/
  | reap (pid : U64)
  | reapNext
  /-- The configuration callback; `Initialize` resets the interface as `DOWN` does. -/
  | networkConfig (op : ConfigOperation) (conf : NetworkConfig)
  | virtualFrame (srcMac dstMac : U64) (etherType : U16) (payload : List U8)
  | probe (dstIp : U32)

/-- `GetSockName`: the port is noted. -/
def Table.recordName (t : Table) (pid : U64) (fd : Int) (port : U16) : Table :=
  match t.findLanSocketLocked pid fd with
  | some i => if (t i).udp ∧ port ≠ 0 then t.store i { t i with boundPort := port } else t
  | none => t

/-- What `Connect` notes once the real service has answered. -/
def Table.forwardedConnect (t : Table) (pid : U64) (fd : Int) (addr : List U8) (ret : Int) : Table :=
  if ret = 0 ∧ 2 ≤ addr.length then (Shim.connectForwarded ⟨none, t, 0, 0⟩ pid fd addr).table else t

/-- Where `EnsureLanMirror` returns to. -/
def Mirroring.next (m : Mirroring) (selected : Int) : Pc :=
  match m.datagram with
  | some (ip, port, buf) =>
    if selected = InvalidSocket then .idle
    else .calling m.pid m.fd (.send (Shim.payloadCall selected ip port true buf))
  | none => .idle

namespace Threads

/-- The virtual sockets in hand: the server thread's and the node thread's. -/
def held (s : Threads) : List Int := s.server.held ++ s.reaping

/-- No handler and no reaper is mid-way. -/
def Quiet (s : Threads) : Prop := s.server = .idle ∧ s.reaping = []

def query (t : Table) (pid : U64) (fd : Int) : Query → Pc
  | .receive max peek =>
    if t.getLanVfd pid fd = InvalidSocket then .idle
    else .calling pid fd (.receive (t.getLanVfd pid fd) max peek)
  | .readable =>
    if t.getLanVfd pid fd = InvalidSocket then .idle else .calling pid fd (.readable (t.getLanVfd pid fd))
  | .send data =>
    match t.getConnectedLanPeer pid fd with
    | some (vfd, ip, port) => .calling pid fd (.send (.mirrorLanDatagram vfd ip port data))
    | none => .idle
  | .message name data =>
    if name.length = 0 then
      match t.getConnectedLanPeer pid fd with
      | some (vfd, ip, port) => .resolving pid fd vfd ip port data
      | none => .idle
    else if name.length < 8 ∨ sockaddrFamily name ≠ 2 then .idle
    else if t.getLanVfd pid fd = InvalidSocket then .idle
    else .resolving pid fd (t.getLanVfd pid fd) (sockaddrIp name) (sockaddrPort name) data
  | .peerName => if (t.getConnectedLanPeer pid fd).isSome then .naming pid fd else .idle

/-- The first block of a command on the table. -/
def command (t : Table) (pid : U64) : Command → Table × Pc
  | .socket domain type protocol ret =>
    (if 0 ≤ ret ∧ domain = 2 ∧ type = 2 ∧ (protocol = 0 ∨ protocol = 17) then t.track pid ret else t, .idle)
  | .otherDescriptor _ => (t, .idle)
  | .bind fd addr ret =>
    if ret = 0 ∧ 8 ≤ addr.length then
      let recorded := t.recordBind pid fd (sockaddrPort addr)
      (recorded.1, if recorded.2 then .ensuring ⟨pid, fd, sockaddrPort addr, none⟩ else .idle)
    else (t, .idle)
  | .setSockOpt fd level optname v ret =>
    if ret = 0 ∧ level = 0xFFFF ∧ optname = 0x20 then
      let recorded := t.recordBroadcast pid fd (v != 0)
      (recorded.1, if v ≠ 0 ∧ recorded.2 ≠ 0 then .ensuring ⟨pid, fd, recorded.2, none⟩ else .idle)
    else (t, .idle)
  | .sendTo fd buf addr =>
    let found := t.lookupSend pid fd
    if addr.length < 8 then (t, .idle)
    else if found.2 = InvalidSocket ∧ directedBroadcast addr ∧ found.1 ≠ 0 then
      (t, .ensuring ⟨pid, fd, found.1, some (sockaddrIp addr, sockaddrPort addr, buf)⟩)
    else if found.2 = InvalidSocket then (t, .idle)
    else
      (t, .calling pid fd (.send (Shim.payloadCall found.2 (sockaddrIp addr) (sockaddrPort addr)
        (directedBroadcast addr) buf)))
  | .connect fd addr ret =>
    if 2 ≤ addr.length ∧ t.getLanVfd pid fd ≠ InvalidSocket then
      if sockaddrFamily addr = 0 then (t, .peering pid fd none addr ret)
      else if sockaddrFamily addr = 2 ∧ 8 ≤ addr.length then (t, .connecting pid fd addr ret)
      else (t.forwardedConnect pid fd addr ret, .idle)
    else (t.forwardedConnect pid fd addr ret, .idle)
  | .getSockName fd name ret =>
    if ret = 0 then
      (if 4 ≤ name.length then t.recordName pid fd (sockaddrPort name) else t,
        if 8 ≤ name.length then .locating pid fd else .idle)
    else (t, .idle)
  | .close fd ret =>
    if ret = 0 then
      let forgot := t.forget pid fd
      (forgot.1, .releasing (if forgot.2 = InvalidSocket then [] else [forgot.2]))
    else (t, .idle)
  | .shutdownAllSockets ret =>
    if ret = 0 then ((t.forgetForPid pid).1, .releasing (t.forgetForPid pid).2) else (t, .idle)
  | .query fd q => (t, query t pid fd q)

/-- The next block of the command being served. -/
def serve (s : Threads) : Option Threads :=
  match s.server with
  | .idle => none
  | .ensuring m =>
    if m.port = 0 then some { s with server := m.next InvalidSocket }
    else
      match s.table.mirrorOf m.pid m.fd with
      | some vfd => some { s with server := m.next vfd }
      | none => some { s with server := .opening m }
  | .opening m =>
    let opened := openLanSocket s.vnet
    some { s with
      vnet := opened.1
      server := if opened.2 = InvalidSocket then m.next InvalidSocket else .binding m opened.2 }
  | .binding m candidate =>
    let bound := bindLanSocket s.vnet candidate m.port
    some { s with
      vnet := bound.1
      server := if bound.2 then .installing m candidate else .discarding m candidate InvalidSocket }
  | .installing m candidate =>
    let installed := s.table.install m.pid m.fd candidate
    some { s with
      table := installed.1
      server := if installed.2.2 then m.next installed.2.1 else .discarding m candidate installed.2.1 }
  | .discarding m candidate selected =>
    some { s with vnet := closeLanSocket s.vnet candidate, server := m.next selected }
  | .releasing [] => some { s with server := .idle }
  | .releasing (vfd :: vfds) => some { s with vnet := closeLanSocket s.vnet vfd, server := .releasing vfds }
  | .calling _ _ c => some { s with vnet := c.exec s.vnet, server := .idle }
  | .resolving pid fd vfd ip port data =>
    match isOverlayDestination (some s.vnet) ip with
    | some broadcast =>
      some { s with server := .calling pid fd (.send
        (if broadcast then .mirrorLanBroadcast vfd port data else .mirrorLanDatagram vfd ip port data)) }
    | none => some { s with server := .idle }
  | .connecting pid fd addr ret =>
    if (isOverlayDestination (some s.vnet) (sockaddrIp addr)).isSome then
      some { s with server := .peering pid fd (some (sockaddrIp addr, sockaddrPort addr)) addr ret }
    else some { s with table := s.table.forwardedConnect pid fd addr ret, server := .idle }
  | .peering pid fd peer addr ret =>
    let forwarded := { s with table := s.table.forwardedConnect pid fd addr ret, server := .idle }
    match s.table.findLanSocketLocked pid fd with
    | some i =>
      if (s.table i).udp ∧ (peer.isSome → (s.table i).mirrored) then
        some { s with table := s.table.recordPeer i peer, server := .idle }
      else some forwarded
    | none => some forwarded
  | .locating pid fd =>
    some { s with
      server := if s.table.getLanVfd pid fd = InvalidSocket then .idle else .naming pid fd }
  | .naming _ _ => some { s with server := .idle }

/-- No client has process id zero. -/
def step (s : Threads) : Event → Option Threads
  | .command pid c =>
    if s.server ≠ .idle ∨ pid = 0 then none
    else
      some { s with
        table := (command s.table pid c).1
        server := (command s.table pid c).2
        history := (pid, c) :: s.history }
  | .serve => s.serve
  | .reap pid =>
    if s.reaping ≠ [] ∨ pid = 0 then none
    else some { s with table := (s.table.forgetForPid pid).1, reaping := (s.table.forgetForPid pid).2 }
  | .reapNext =>
    match s.reaping with
    | [] => none
    | vfd :: vfds => some { s with vnet := closeLanSocket s.vnet vfd, reaping := vfds }
  | .networkConfig op conf =>
    if s.reaping ≠ [] then none else some { s with vnet := cbNetworkConfig s.vnet op conf }
  | .virtualFrame srcMac dstMac etherType payload =>
    if s.reaping ≠ [] then none else some { s with vnet := (s.vnet.onFrame srcMac dstMac etherType payload).1 }
  | .probe dstIp =>
    if s.reaping ≠ [] then none else some { s with vnet := (s.vnet.sendEchoRequest dstIp).1 }

def serving : System Threads Event := ⟨step⟩

/-- The module has started, and no command has come yet. -/
def started : Threads := ⟨VNet.fresh, Table.empty, .idle, [], []⟩

end Threads

end SysZerotier.Mitm
