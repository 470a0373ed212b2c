import SysZerotier.Mitm.Handlers

/-! Every command of the interface, and what the shim does with it
(`source/mitm/bsd_shim.hpp`, `source/mitm/bsd_shim.cpp`).

A command goes to the real service `real`, unless the shim answers it. An answer
fails with a `Result` or holds the leading `ret` and `errno`, a length, a token and
the bytes of the output buffers; what a command's signature lacks plays no part in
it. An output buffer is asked for by its size, and an answer has the bytes that were
written to its front; of `Poll`, which writes to it before it forwards, the client is
given the whole buffer. The registration of Splatoon 2, which the shim keeps for itself,
is left out. The commands that `Handlers` has are taken from there. -/
namespace SysZerotier.Mitm
open Net Port

structure ServiceConfig where
  version : U32
  tcpTxBufSize : U32
  tcpRxBufSize : U32
  tcpTxBufMaxSize : U32
  tcpRxBufMaxSize : U32
  udpTxBufSize : U32
  udpRxBufSize : U32
  sbEfficiency : U32
  deriving DecidableEq

structure SelectTimeval where
  seconds : Int
  microseconds : Int
  isNull : Bool
  deriving DecidableEq

inductive Request where
  | registerClient (config : ServiceConfig) (tmemSize : U64) (tmem : U32)
  | startMonitoring (pid : U64)
  | socket (domain type protocol : Int)
  | socketExempt (domain type protocol : Int)
  | open (flags : Int) (path : List U8)
  | select (nfds : Int) (timeout : SelectTimeval) (rd wr ex : List U8) (ord owr oex : Nat)
  | poll (nfds timeout : Int) (inFds : List U8) (outFds : Nat)
  | sysctl (name oldp : List U8) (newp : Nat)
  | recv (fd : Int) (flags : U32) (buf : Nat)
  | recvFrom (fd : Int) (flags : U32) (buf addr : Nat)
  | send (fd : Int) (flags : U32) (buf : List U8)
  | sendTo (fd : Int) (flags : U32) (buf addr : List U8)
  | accept (fd : Int) (addr : Nat)
  | bind (fd : Int) (addr : List U8)
  | connect (fd : Int) (addr : List U8)
  | getPeerName (fd : Int) (addr : Nat)
  | getSockName (fd : Int) (addr : Nat)
  | getSockOpt (fd level optname : Int) (optval : Nat)
  | listen (fd backlog : Int)
  | ioctl (fd request : Int) (bufcount : U32) (b1 b2 : List U8) (b3 b4 : Nat)
  | fcntl (fd cmd arg : Int)
  | setSockOpt (fd level optname : Int) (optval : List U8)
  | shutdown (fd how : Int)
  | shutdownAllSockets (how : Int)
  | write (fd : Int) (buf : List U8)
  | read (fd : Int) (buf : Nat)
  | close (fd : Int)
  | duplicateSocket (fd : Int) (reserved : U64)
  | getResourceStatistics (pid : U64) (stats : Nat)
  | recvMMsg (fd vlen flags timeout : Int) (buf : Nat)
  | sendMMsg (fd vlen flags : Int) (buf : List U8)
  | eventFd (initialValue : U64) (flags : Int)
  | registerResourceStatisticsName (pid : U64) (name : List U8)
  | registerClientShared (config : ServiceConfig) (workSize : U64)
  deriving DecidableEq

structure Answer where
  ret : Int
  err : Int
  len : U32 := 0
  token : U64 := 0
  outs : List (List U8) := []
  deriving DecidableEq

/-- What a command changed, emitted, handed over and forwarded, and its reply. -/
structure Execution where
  shim : Shim
  frames : List Frame := []
  handed : List Handed := []
  forwarded : Option Request := none
  reply : Except U32 Answer

/-- The commands of `Handlers`, as requests. -/
def BsdCall.request : BsdCall → Request
  | .socket domain type protocol => .socket domain type protocol
  | .bind fd addr => .bind fd addr
  | .send fd flags buf => .send fd flags buf
  | .sendTo fd flags buf addr => .sendTo fd flags buf addr
  | .connect fd addr => .connect fd addr
  | .write fd buf => .write fd buf
  | .sendMMsg fd vlen flags buf => .sendMMsg fd vlen flags buf

/-! ### Descriptor sets -/

/-- `FdIsSet`. -/
def fdIsSet (fd : Nat) (fds : List U8) : Bool := decide (fd / 8 < fds.length) && (fds.getD (fd / 8) 0).getLsbD (fd % 8)

/-- `FdSet`. -/
def fdSet (fd : Nat) (fds : List U8) : List U8 := fds.modify (fd / 8) fun b => b ||| (1 : U8) <<< (fd % 8)

structure PollFd where
  fd : Int
  events : U16
  revents : U16
  deriving DecidableEq

/-- The `i`-th `PollFd` from `fds` on, numbers in the console's order. -/
def pollAt (fds : Mem) (i : Nat) : PollFd :=
  let p := fds.advance (8 * i)
  ⟨(p 3 ++ p 2 ++ p 1 ++ p 0 : U32).toInt, p 5 ++ p 4, p 7 ++ p 6⟩

/-- The `i`-th entry of an array of `PollFd`. -/
def pollFd (fds : List U8) (i : Nat) : PollFd := pollAt (Mem.ofBytes fds) i

/-- `p.events & PollIn`. -/
def PollFd.pollsIn (p : PollFd) : Bool := p.events.getLsbD 0

/-- `p.revents |= PollIn`, in place. -/
def setPollIn (fds : List U8) (i : Nat) : List U8 := fds.modify (8 * i + 6) fun b => b ||| 1

/-- What `Poll` finds besides its arguments: the memory behind the client's input, by the
distance from where the input starts, and what the client's output buffer holds. -/
structure Memory where
  behind : Mem
  held : Mem

/-- The memory of a client that does not poll. -/
def Memory.unread : Memory := ⟨Mem.zero, Mem.zero⟩

/-- `under`, after `bytes` were written to its front. -/
def overwrite (bytes : List U8) (under : Mem) : Mem := fun j => bytes.getD j (under j)

/-- The output buffer of `Poll` as the real service finds it: the input is copied if it fits. -/
def Memory.copied (mem : Memory) (inFds : List U8) (outFds : Nat) : Mem :=
  if inFds.length ≤ outFds then overwrite inFds mem.held else mem.held

namespace Shim

/-! ### Looking at a socket's shadow -/

/-- `LanSocketReadable`. -/
def lanSocketReadable (s : Shim) (pid : U64) (fd : Int) : Bool :=
  s.table.getLanVfd pid fd != InvalidSocket && s.port.any fun v => v.udpReadable (s.table.getLanVfd pid fd)

/-- `ReceiveLanDatagram`: `none` is the return value `-1`. -/
def receiveLanDatagram (s : Shim) (pid : U64) (fd : Int) (max : Nat) (peek : Bool) : Shim × Option Datagram :=
  match s.port with
  | none => (s, none)
  | some v =>
    if s.table.getLanVfd pid fd = InvalidSocket then (s, none)
    else
      let received := Port.receiveLanDatagram v (s.table.getLanVfd pid fd) (BitVec.ofNat 32 max).toNat peek
      ({ s with port := some received.1 }, received.2)

/-- The errors of a physical route: `ENETUNREACH`, `ENETRESET`, `ECONNRESET`, `ETIMEDOUT`,
`ECONNREFUSED` and `EHOSTUNREACH`. -/
def routeErrors : List Int := [101, 102, 104, 110, 111, 113]

/-- `SuppressPhysicalUdpError` returns `true`. -/
def suppresses (s : Shim) (pid : U64) (fd : Int) (a : Answer) : Bool :=
  decide (a.ret < 0) && s.table.getLanVfd pid fd != InvalidSocket && routeErrors.contains a.err

section Commands
variable (real : Request → Except U32 Answer)

/-- The request goes to the real service and its answer to the client. -/
def relay (s : Shim) (r : Request) : Execution := { shim := s, forwarded := some r, reply := real r }

/-- The request goes to the real service, and its answer, unless that failed, is acted upon. -/
def relayThen (s : Shim) (r : Request) (f : Answer → Shim × Answer) : Execution :=
  match real r with
  | .error rc => { shim := s, forwarded := some r, reply := .error rc }
  | .ok a => { shim := (f a).1, forwarded := some r, reply := .ok (f a).2 }

/-- A command of `Handlers`: what it does not answer itself, the real service has answered. -/
def ofReply (reply : Reply) : Execution where
  shim := reply.shim
  frames := reply.frames
  handed := reply.handed
  forwarded := reply.forwarded.map BsdCall.request
  reply :=
    match reply.forwarded, reply.result with
    | none, some out => .ok { ret := out.ret, err := out.err }
    | none, none => .error 0
    | some c, _ => real c.request

/-- The real service as `Handlers` takes it. -/
def bsdOf (c : BsdCall) : Option BsdResult := (real c.request).toOption.map fun a => ⟨a.ret, a.err⟩

/-! ### Commands that are only relayed -/

def registerClient (s : Shim) (config : ServiceConfig) (tmemSize : U64) (tmem : U32) : Execution :=
  relay real s (.registerClient config tmemSize tmem)

def startMonitoring (s : Shim) (pid : U64) : Execution := relay real s (.startMonitoring pid)

def socketExempt (s : Shim) (domain type protocol : Int) : Execution :=
  relay real s (.socketExempt domain type protocol)

def «open» (s : Shim) (flags : Int) (path : List U8) : Execution := relay real s (.open flags path)

def accept (s : Shim) (fd : Int) (addr : Nat) : Execution := relay real s (.accept fd addr)

def getSockOpt (s : Shim) (fd level optname : Int) (optval : Nat) : Execution :=
  relay real s (.getSockOpt fd level optname optval)

def listen (s : Shim) (fd backlog : Int) : Execution := relay real s (.listen fd backlog)

def ioctl (s : Shim) (fd request : Int) (bufcount : U32) (b1 b2 : List U8) (b3 b4 : Nat) : Execution :=
  relay real s (.ioctl fd request bufcount b1 b2 b3 b4)

def fcntl (s : Shim) (fd cmd arg : Int) : Execution := relay real s (.fcntl fd cmd arg)

def shutdown (s : Shim) (fd how : Int) : Execution := relay real s (.shutdown fd how)

def duplicateSocket (s : Shim) (fd : Int) (reserved : U64) : Execution :=
  relay real s (.duplicateSocket fd reserved)

def getResourceStatistics (s : Shim) (pid : U64) (stats : Nat) : Execution :=
  relay real s (.getResourceStatistics pid stats)

def recvMMsg (s : Shim) (fd vlen flags timeout : Int) (buf : Nat) : Execution :=
  relay real s (.recvMMsg fd vlen flags timeout buf)

def eventFd (s : Shim) (initialValue : U64) (flags : Int) : Execution := relay real s (.eventFd initialValue flags)

def registerResourceStatisticsName (s : Shim) (pid : U64) (name : List U8) : Execution :=
  relay real s (.registerResourceStatisticsName pid name)

def registerClientShared (s : Shim) (config : ServiceConfig) (workSize : U64) : Execution :=
  relay real s (.registerClientShared config workSize)

/-! ### Commands that change the table -/

/-- The option's value, or -1 if the buffer is too short for one. -/
def optionValue (optval : List U8) : Int :=
  if 4 ≤ optval.length then
    let p := Mem.ofBytes optval
    (p 3 ++ p 2 ++ p 1 ++ p 0 : U32).toInt
  else -1

def setSockOpt (s : Shim) (pid : U64) (fd level optname : Int) (optval : List U8) : Execution :=
  relayThen real s (.setSockOpt fd level optname optval) fun a =>
    let v := optionValue optval
    if a.ret = 0 ∧ level = 0xFFFF ∧ optname = 0x20 then
      let recorded := s.table.recordBroadcast pid fd (v != 0)
      let s := { s with table := recorded.1 }
      (if v ≠ 0 ∧ recorded.2 ≠ 0 then (s.ensureLanMirror pid fd recorded.2).1 else s, a)
    else (s, a)

/-- `if (vfd != InvalidSocket && g_port != nullptr) { g_port->CloseLanSocket(vfd); }`. -/
def closeVfd (s : Shim) (vfd : Int) : Shim :=
  if vfd = InvalidSocket then s else { s with port := s.port.map fun v => closeLanSocket v vfd }

def close (s : Shim) (pid : U64) (fd : Int) : Execution :=
  relayThen real s (.close fd) fun a =>
    if a.ret = 0 then
      let forgot := s.table.forget pid fd
      (closeVfd { s with table := forgot.1 } forgot.2, a)
    else (s, a)

def shutdownAllSockets (s : Shim) (pid : U64) (how : Int) : Execution :=
  relayThen real s (.shutdownAllSockets how) fun a =>
    if a.ret = 0 then
      let forgot := s.table.forgetForPid pid
      (forgot.2.foldl closeVfd { s with table := forgot.1 }, a)
    else (s, a)

/-! ### Receiving -/

/-- What is received through the shadow is answered here; a physical error is no news. -/
def receiveOr (s : Shim) (pid : U64) (fd : Int) (max : Nat) (peek : Bool) (r : Request)
    (answer : Datagram → Answer) (suppressed : Answer → Answer) : Execution :=
  let received := s.receiveLanDatagram pid fd max peek
  match received.2 with
  | some d => { shim := received.1, reply := .ok (answer d) }
  | none =>
    relayThen real received.1 r fun a =>
      (received.1, if received.1.suppresses pid fd a then suppressed a else a)

/-- `flags & MsgPeek`. -/
def msgPeek (flags : U32) : Bool := flags.getLsbD 1

def recv (s : Shim) (pid : U64) (fd : Int) (flags : U32) (buf : Nat) : Execution :=
  receiveOr real s pid fd buf (msgPeek flags) (.recv fd flags buf)
    (fun d => { ret := d.bytes.length, err := 0, outs := [d.bytes] }) fun a => { a with err := 11 }

def read (s : Shim) (pid : U64) (fd : Int) (buf : Nat) : Execution :=
  receiveOr real s pid fd buf false (.read fd buf)
    (fun d => { ret := d.bytes.length, err := 0, outs := [d.bytes] }) fun a => { a with err := 11 }

def recvFrom (s : Shim) (pid : U64) (fd : Int) (flags : U32) (buf addr : Nat) : Execution :=
  receiveOr real s pid fd buf (msgPeek flags) (.recvFrom fd flags buf addr)
    (fun d =>
      { ret := d.bytes.length
        err := 0
        len := if 16 ≤ addr then 16 else 0
        outs := [d.bytes, if 16 ≤ addr then sockaddr d.srcIp d.srcPort else []] })
    fun a => { a with err := 11, len := 0 }

/-! ### Names -/

def getPeerName (s : Shim) (pid : U64) (fd : Int) (addr : Nat) : Execution :=
  match s.table.getConnectedLanPeer pid fd with
  | some (_, ip, port) =>
    if 16 ≤ addr then { shim := s, reply := .ok { ret := 0, err := 0, len := 16, outs := [sockaddr ip port] } }
    else { shim := s, reply := .ok { ret := -1, err := 22, len := 0 } }
  | none => relay real s (.getPeerName fd addr)

/-- `GetSockName`: the managed address in place of the physical one. -/
def managedName (ip : U32) (name : List U8) : List U8 :=
  (wr32 (((Mem.ofBytes name).set 0 16).set 1 2) 4 ip).bytes (max 8 name.length)

def getSockName (s : Shim) (pid : U64) (fd : Int) (addr : Nat) : Execution :=
  relayThen real s (.getSockName fd addr) fun a =>
    let name := a.outs.headD []
    let port := sockaddrPort name
    let s :=
      if a.ret = 0 ∧ 4 ≤ addr then
        match s.table.findLanSocketLocked pid fd with
        | some i =>
          if (s.table i).udp ∧ port ≠ 0 then
            { s with table := s.table.store i { s.table i with boundPort := port } }
          else s
        | none => s
      else s
    if a.ret = 0 ∧ 8 ≤ addr ∧ s.table.getLanVfd pid fd ≠ InvalidSocket then
      match s.port.bind getLanIpConfig with
      | some (ip, _) =>
        (s, { a with outs := [managedName ip name], len := if a.len < 16 then 16 else a.len })
      | none => (s, a)
    else (s, a)

/-! ### Waiting -/

/-- A mirrored descriptor of the read set. -/
def watches (s : Shim) (pid : U64) (nfds : Nat) (rd : List U8) : Bool :=
  (List.range nfds).any fun fd => fdIsSet fd rd && s.table.getLanVfd pid fd != InvalidSocket

/-- One that has a datagram queued. -/
def readyNow (s : Shim) (pid : U64) (nfds : Nat) (rd : List U8) : Bool :=
  (List.range nfds).any fun fd => fdIsSet fd rd && s.lanSocketReadable pid fd

/-- The wait is bounded to 10 ms while a mirrored descriptor is watched. -/
def boundedTimeval (timeout : SelectTimeval) (watching ready : Bool) : SelectTimeval :=
  if ready then ⟨0, 0, false⟩
  else if watching && (timeout.isNull || timeout.seconds != 0 || decide (10000 < timeout.microseconds)) then
    ⟨0, 10000, false⟩
  else timeout

/-- The readable shadows are added to the set that is returned, and counted. -/
def mergeReadable (s : Shim) (pid : U64) (rd : List U8) : List Nat → Int × List U8 → Int × List U8
  | [], merged => merged
  | fd :: fds, (count, ord) =>
    if fdIsSet fd rd && s.lanSocketReadable pid fd then
      mergeReadable s pid rd fds (if fdIsSet fd ord then count else count + 1, fdSet fd ord)
    else mergeReadable s pid rd fds (count, ord)

def select (s : Shim) (pid : U64) (nfds : Int) (timeout : SelectTimeval) (rd wr ex : List U8)
    (ord owr oex : Nat) : Execution :=
  let watching := s.watches pid nfds.toNat rd
  let wait := boundedTimeval timeout watching (s.readyNow pid nfds.toNat rd)
  relayThen real s (.select nfds wait rd wr ex ord owr oex) fun a =>
    if 0 ≤ a.ret ∧ watching then
      let merged := mergeReadable s pid rd (List.range nfds.toNat) (a.ret, a.outs.headD [])
      (s, { a with ret := merged.1, err := 0, outs := merged.2 :: a.outs.tail })
    else (s, a)

/-- The readable shadows are marked in the array that is returned, and counted. -/
def mergePolled (s : Shim) (pid : U64) : List Nat → Int × List U8 → Int × List U8
  | [], merged => merged
  | i :: rest, (count, out) =>
    let p := pollFd out i
    if p.pollsIn && s.lanSocketReadable pid p.fd then
      mergePolled s pid rest (if p.revents = 0 then count + 1 else count, setPollIn out i)
    else mergePolled s pid rest (count, out)

def poll (s : Shim) (mem : Memory) (pid : U64) (nfds timeout : Int) (inFds : List U8) (outFds : Nat) :
    Execution :=
  let count := min nfds.toNat (outFds / 8)
  -- an entry is read whether or not the input has it
  let polled := pollAt (overwrite inFds mem.behind)
  let watching := (List.range count).any fun i =>
    (polled i).pollsIn && s.table.getLanVfd pid (polled i).fd != InvalidSocket
  let ready := (List.range count).any fun i => (polled i).pollsIn && s.lanSocketReadable pid (polled i).fd
  let physicalTimeout :=
    if ready then 0 else if watching && (decide (timeout < 0) || decide (10 < timeout)) then 10 else timeout
  relayThen real s (.poll nfds physicalTimeout inFds outFds) fun a =>
    let out := (overwrite (a.outs.headD []) (mem.copied inFds outFds)).bytes outFds
    if 0 ≤ a.ret ∧ watching then
      let merged := mergePolled s pid (List.range count) (a.ret, out)
      (s, { a with ret := merged.1, err := 0, outs := merged.2 :: a.outs.tail })
    else (s, { a with outs := out :: a.outs.tail })

/-! ### And one more -/

/-- The answer's `ret`, `errno` and length are not looked at. -/
def sysctl (s : Shim) (name oldp : List U8) (newp : Nat) : Execution :=
  relayThen real s (.sysctl name oldp newp) fun a => (s, { a with ret := 0, err := 0, len := 0 })

/-- A command of a client. -/
def exec (s : Shim) (mem : Memory) (pid : U64) : Request → Execution
  | .registerClient config tmemSize tmem => registerClient real s config tmemSize tmem
  | .startMonitoring p => startMonitoring real s p
  | .socket domain type protocol => ofReply real (s.socket (bsdOf real) pid domain type protocol)
  | .socketExempt domain type protocol => socketExempt real s domain type protocol
  | .open flags path => «open» real s flags path
  | .select nfds timeout rd wr ex ord owr oex => select real s pid nfds timeout rd wr ex ord owr oex
  | .poll nfds timeout inFds outFds => poll real s mem pid nfds timeout inFds outFds
  | .sysctl name oldp newp => sysctl real s name oldp newp
  | .recv fd flags buf => recv real s pid fd flags buf
  | .recvFrom fd flags buf addr => recvFrom real s pid fd flags buf addr
  | .send fd flags buf => ofReply real (s.send (bsdOf real) pid fd flags buf)
  | .sendTo fd flags buf addr => ofReply real (s.sendTo (bsdOf real) pid fd flags buf addr)
  | .accept fd addr => accept real s fd addr
  | .bind fd addr => ofReply real (s.bind (bsdOf real) pid fd addr)
  | .connect fd addr => ofReply real (s.connect (bsdOf real) pid fd addr)
  | .getPeerName fd addr => getPeerName real s pid fd addr
  | .getSockName fd addr => getSockName real s pid fd addr
  | .getSockOpt fd level optname optval => getSockOpt real s fd level optname optval
  | .listen fd backlog => listen real s fd backlog
  | .ioctl fd request bufcount b1 b2 b3 b4 => ioctl real s fd request bufcount b1 b2 b3 b4
  | .fcntl fd cmd arg => fcntl real s fd cmd arg
  | .setSockOpt fd level optname optval => setSockOpt real s pid fd level optname optval
  | .shutdown fd how => shutdown real s fd how
  | .shutdownAllSockets how => shutdownAllSockets real s pid how
  | .write fd buf => ofReply real (s.write (bsdOf real) pid fd buf)
  | .read fd buf => read real s pid fd buf
  | .close fd => close real s pid fd
  | .duplicateSocket fd reserved => duplicateSocket real s fd reserved
  | .getResourceStatistics p stats => getResourceStatistics real s p stats
  | .recvMMsg fd vlen flags timeout buf => recvMMsg real s fd vlen flags timeout buf
  | .sendMMsg fd vlen flags buf => ofReply real (s.sendMMsg (bsdOf real) pid fd vlen flags buf)
  | .eventFd initialValue flags => eventFd real s initialValue flags
  | .registerResourceStatisticsName p name => registerResourceStatisticsName real s p name
  | .registerClientShared config workSize => registerClientShared real s config workSize

end Commands

end Shim

end SysZerotier.Mitm
