import SysZerotier.Mitm.SocketTable
import SysZerotier.Mitm.MMsg

/-! The socket commands of the shim, each run from its first line to its last
(`source/mitm/bsd_shim.cpp`).

The real `bsd` service is the parameter `bsd`: what it answers to a forwarded call,
or `none` when the forwarding itself fails, which ends the command. A reply says
what the command changed, which frames the interface emitted, which datagrams it
took, and the call that was forwarded, if any. Logging and captures are left out:
no command reads them back. `Ownership` runs the same blocks interleaved. -/
namespace SysZerotier.Mitm
open Net Port

/-- A command forwarded to the real service, with its arguments. -/
inductive BsdCall where
  | socket (domain type protocol : Int)
  | bind (fd : Int) (addr : List U8)
  | send (fd : Int) (flags : U32) (buf : List U8)
  | sendTo (fd : Int) (flags : U32) (buf addr : List U8)
  | connect (fd : Int) (addr : List U8)
  | write (fd : Int) (buf : List U8)
  | sendMMsg (fd vlen flags : Int) (buf : List U8)
  deriving DecidableEq

structure BsdResult where
  ret : Int
  err : Int
  deriving DecidableEq

structure Shim where
  /-- The interface behind `g_port`, once the port is set. -/
  port : Option VNet
  table : Table
  physicalIp : U32
  physicalMask : U32

structure Reply where
  shim : Shim
  frames : List Frame := []
  handed : List Handed := []
  forwarded : Option BsdCall := none
  result : Option BsdResult

/-! ### Addresses -/

def sockaddrFamily (addr : List U8) : U8 := Mem.ofBytes addr 1

def sockaddrPort (addr : List U8) : U16 := rd16 (Mem.ofBytes addr) 2

def sockaddrIp (addr : List U8) : U32 := rd32 (Mem.ofBytes addr) 4

/-- The `sockaddr_in` of an address and a port. -/
def sockaddr (ip : U32) (port : U16) : List U8 :=
  (wr32 (wr16 ((Mem.zero.set 0 16).set 1 2) 2 port) 4 ip).bytes 16

/-- `p[7] == 0xff`. -/
def directedBroadcast (addr : List U8) : Bool := Mem.ofBytes addr 7 == 0xFF

/-- `none` is the return value `false`; otherwise whether the address is a broadcast. -/
def isOverlayDestination (port : Option VNet) (ip : U32) : Option Bool :=
  match port.bind getLanIpConfig with
  | none => none
  | some (localIp, mask) =>
    let broadcast := ip == 0xFFFFFFFF || ip == (localIp ||| ~~~mask)
    if broadcast || (ip &&& mask) == (localIp &&& mask) then some broadcast else none

namespace Shim

/-! ### Handing a datagram to the port -/

/-- A call into the port: the frames emitted and the datagram taken. -/
def call (s : Shim) (v : VNet) (c : SendCall) : Shim × List Frame × Option Handed :=
  ({ s with port := some (c.exec v).1 }, (c.exec v).2.1, c.handed v)

/-- The call `MirrorLanPayload` makes. A browse reply goes past the diagnostics and is
sent by a call of its own. -/
def payloadCall (vfd : Int) (dstIp : U32) (dstPort : U16) (broadcast : Bool) (data : List U8) : SendCall :=
  if dstPort ≠ 30000 ∨ data.length < 5 ∨ data.head? ≠ some 1 then
    if broadcast then .mirrorLanBroadcast vfd dstPort data
    else .mirrorLanDatagram vfd dstIp dstPort data
  else .mirrorLanDatagram vfd dstIp dstPort data

/-- It returned `true` when a datagram was taken. -/
def mirrorLanPayload (s : Shim) (vfd : Int) (dstIp : U32) (dstPort : U16) (broadcast : Bool)
    (data : List U8) : Shim × List Frame × Option Handed :=
  match s.port with
  | none => (s, [], none)
  | some v => s.call v (payloadCall vfd dstIp dstPort broadcast data)

def mirrorConnectedLanDatagram (s : Shim) (pid : U64) (fd : Int) (data : List U8) :
    Shim × List Frame × Option Handed :=
  match s.port, s.table.getConnectedLanPeer pid fd with
  | some v, some (vfd, ip, port) => s.call v (.mirrorLanDatagram vfd ip port data)
  | _, _ => (s, [], none)

def ensureLanMirror (s : Shim) (pid : U64) (fd : Int) (port : U16) : Shim × Int :=
  match s.port with
  | none => (s, InvalidSocket)
  | some v =>
    if port = 0 then (s, InvalidSocket)
    else
      match s.table.mirrorOf pid fd with
      | some vfd => (s, vfd)
      | none =>
        let opened := openLanSocket v
        if opened.2 = InvalidSocket then ({ s with port := some opened.1 }, InvalidSocket)
        else
          let bound := bindLanSocket opened.1 opened.2 port
          if !bound.2 then ({ s with port := some (closeLanSocket bound.1 opened.2) }, InvalidSocket)
          else
            let installed := s.table.install pid fd opened.2
            ({ s with
                table := installed.1
                port := some (if installed.2.2 then bound.1 else closeLanSocket bound.1 opened.2) },
              installed.2.1)

/-! ### Commands -/

section Commands
variable (bsd : BsdCall → Option BsdResult)

/-- `ret.SetValue(static_cast<s32>(buf.GetSize()))`. -/
def sizeResult (buf : List U8) : BsdResult := ⟨(BitVec.ofNat 32 buf.length).toInt, 0⟩

/-- The command goes to the real service and its answer back to the client. -/
def forward (s : Shim) (c : BsdCall) : Reply := { shim := s, forwarded := some c, result := bsd c }

/-- A datagram the interface took is answered here; otherwise the command is forwarded. -/
def answerOr (sent : Shim × List Frame × Option Handed) (buf : List U8) (c : BsdCall) : Reply :=
  match sent.2.2 with
  | some d => { shim := sent.1, frames := sent.2.1, handed := [d], result := some (sizeResult buf) }
  | none => { forward bsd sent.1 c with frames := sent.2.1 }

def socket (s : Shim) (pid : U64) (domain type protocol : Int) : Reply :=
  let reply := forward bsd s (.socket domain type protocol)
  match reply.result with
  | none => reply
  | some out =>
    if 0 ≤ out.ret ∧ domain = 2 ∧ type = 2 ∧ (protocol = 0 ∨ protocol = 17) then
      { reply with shim := { s with table := s.table.track pid out.ret } }
    else reply

def bind (s : Shim) (pid : U64) (fd : Int) (addr : List U8) : Reply :=
  let reply := forward bsd s (.bind fd addr)
  match reply.result with
  | none => reply
  | some out =>
    if out.ret = 0 ∧ 8 ≤ addr.length ∧ s.port.isSome then
      let recorded := s.table.recordBind pid fd (sockaddrPort addr)
      let s := { s with table := recorded.1 }
      if recorded.2 then { reply with shim := (s.ensureLanMirror pid fd (sockaddrPort addr)).1 }
      else { reply with shim := s }
    else reply

def sendTo (s : Shim) (pid : U64) (fd : Int) (flags : U32) (buf addr : List U8) : Reply :=
  let c : BsdCall := .sendTo fd flags buf addr
  if addr.length < 8 ∨ s.port.isNone then forward bsd s c
  else
    let found := s.table.lookupSend pid fd
    let mirror :=
      if found.2 = InvalidSocket ∧ directedBroadcast addr ∧ found.1 ≠ 0 then
        s.ensureLanMirror pid fd found.1
      else (s, found.2)
    if mirror.2 = InvalidSocket then forward bsd mirror.1 c
    else
      answerOr bsd
        (mirror.1.mirrorLanPayload mirror.2 (sockaddrIp addr) (sockaddrPort addr) (directedBroadcast addr)
          buf)
        buf c

/-- The part of `Connect` that answers for a mirrored socket itself. -/
def connectOverlay (s : Shim) (pid : U64) (fd : Int) (addr : List U8) : Option Shim :=
  if 2 ≤ addr.length ∧ s.table.getLanVfd pid fd ≠ InvalidSocket then
    match s.table.findLanSocketLocked pid fd with
    | none => none
    | some i =>
      if sockaddrFamily addr = 0 then
        if (s.table i).udp then some { s with table := s.table.recordPeer i none } else none
      else if sockaddrFamily addr = 2 ∧ 8 ≤ addr.length then
        if (isOverlayDestination s.port (sockaddrIp addr)).isSome ∧ (s.table i).udp ∧ (s.table i).mirrored then
          some { s with table := s.table.recordPeer i (some (sockaddrIp addr, sockaddrPort addr)) }
        else none
      else none
  else none

/-- What `Connect` notes after the real service has connected. -/
def connectForwarded (s : Shim) (pid : U64) (fd : Int) (addr : List U8) : Shim :=
  match s.table.findLanSocketLocked pid fd with
  | none => s
  | some i =>
    if !(s.table i).udp then s
    else if sockaddrFamily addr = 2 ∧ 8 ≤ addr.length then
      { s with table := s.table.recordPeer i (some (sockaddrIp addr, sockaddrPort addr)) }
    else if sockaddrFamily addr = 0 then { s with table := s.table.recordPeer i none }
    else s

def connect (s : Shim) (pid : U64) (fd : Int) (addr : List U8) : Reply :=
  match s.connectOverlay pid fd addr with
  | some t => { shim := t, result := some ⟨0, 0⟩ }
  | none =>
    let reply := forward bsd s (.connect fd addr)
    match reply.result with
    | none => reply
    | some out =>
      if out.ret = 0 ∧ 2 ≤ addr.length then { reply with shim := s.connectForwarded pid fd addr } else reply

def send (s : Shim) (pid : U64) (fd : Int) (flags : U32) (buf : List U8) : Reply :=
  answerOr bsd (s.mirrorConnectedLanDatagram pid fd buf) buf (.send fd flags buf)

def write (s : Shim) (pid : U64) (fd : Int) (buf : List U8) : Reply :=
  answerOr bsd (s.mirrorConnectedLanDatagram pid fd buf) buf (.write fd buf)

/-! ### SendMMsg -/

/-- The virtual socket, address, port and broadcast flag of a message. -/
def resolveMMsgDestination (s : Shim) (pid : U64) (fd : Int) (view : MMsgView) :
    Option (Int × U32 × U16 × Bool) :=
  if view.name.length = 0 then do
    let (vfd, ip, port) ← s.table.getConnectedLanPeer pid fd
    let broadcast ← isOverlayDestination s.port ip
    return (vfd, ip, port, broadcast)
  else if view.name.length < 8 ∨ sockaddrFamily view.name ≠ 2 then none
  else if s.table.getLanVfd pid fd = InvalidSocket then none
  else do
    let broadcast ← isOverlayDestination s.port (sockaddrIp view.name)
    return (s.table.getLanVfd pid fd, sockaddrIp view.name, sockaddrPort view.name, broadcast)

/-- The pass that validates every message before the first is sent. -/
def checkMMsgs (s : Shim) (pid : U64) (fd : Int) : Nat → List U8 → Bool
  | 0, _ => true
  | count + 1, cursor =>
    match parseMMsg cursor with
    | none => false
    | some (view, cursor) => (s.resolveMMsgDestination pid fd view).isSome && s.checkMMsgs pid fd count cursor

/-- The call that sends a message, and the cursor behind it. -/
def mmsgCall (s : Shim) (pid : U64) (fd : Int) (cursor : List U8) : Option (SendCall × List U8) := do
  let (view, cursor) ← parseMMsg cursor
  let (vfd, ip, port, broadcast) ← s.resolveMMsgDestination pid fd view
  let payload ← assembleMMsgPayload view
  return (if broadcast then .mirrorLanBroadcast vfd port payload else .mirrorLanDatagram vfd ip port payload,
    cursor)

/-- The pass that sends, up to the first message the interface does not take. -/
def sendMMsgs (pid : U64) (fd : Int) : Nat → Shim → List U8 → Shim × List Frame × List Handed
  | 0, s, _ => (s, [], [])
  | count + 1, s, cursor =>
    match s.port, s.mmsgCall pid fd cursor with
    | some v, some (c, cursor) =>
      let sent := s.call v c
      match sent.2.2 with
      | none => (sent.1, sent.2.1, [])
      | some d =>
        let rest := sendMMsgs pid fd count sent.1 cursor
        (rest.1, sent.2.1 ++ rest.2.1, d :: rest.2.2)
    | _, _ => (s, [], [])

/-- The messages sent are counted by the datagrams taken; none means `false`. The
first byte of the buffer is not part of the messages. -/
def mirrorMMsgBuffer (s : Shim) (pid : U64) (fd vlen : Int) (buf : List U8) :
    Shim × List Frame × List Handed :=
  if s.port.isNone ∨ vlen ≤ 0 ∨ 64 < vlen ∨ buf.length < 1 then (s, [], [])
  else if !s.checkMMsgs pid fd vlen.toNat (buf.drop 1) then (s, [], [])
  else sendMMsgs pid fd vlen.toNat s (buf.drop 1)

def sendMMsg (s : Shim) (pid : U64) (fd vlen flags : Int) (buf : List U8) : Reply :=
  let sent := s.mirrorMMsgBuffer pid fd vlen buf
  if sent.2.2 = [] then { forward bsd sent.1 (.sendMMsg fd vlen flags buf) with frames := sent.2.1 }
  else { shim := sent.1, frames := sent.2.1, handed := sent.2.2, result := some ⟨sent.2.2.length, 0⟩ }

end Commands

end Shim

end SysZerotier.Mitm
