import SysZerotier.Port.NatWire
import SysZerotier.Port.Switch
import SysZerotier.Port.Startup

/-! The wire socket and its recovery (`Port::maintainWireSocket` and `Port::cbWireSend`, with
`maintainNatWire`, `HandleSleep` and the receives of `RunLoop` in `source/zt_port.cpp`).

The node thread's calls may come in any order here, with any clock and any results; the run
loop makes them in one. ZeroTier calls back into `cbWireSend` and `cbEvent` at any time, also
from inside `drainOutbound` and `switchNetwork`. The queue that is drained, and the game
threads that fill it, are those of `Port`. The counters, ZeroTier's deadline and what is
logged are left out.

`m_wireFailStreak` and `m_wireReopenFail` are `int`s and counted without a bound here. The
run loop closes the socket in the pass after the eighth failure, and a closed socket counts
none, so the first stays below eight and the sends of one pass; the second counts attempts
to reopen within one outage, which are two seconds apart. -/
namespace SysZerotier.Port
open Net Library

def FailStreakMax : Nat := 8

def BackoffMaxMs : Nat := 30000

/-- The members of the port that the wire socket and the mapped socket use, with how many
sockets have been bound so far and which of them the two are, which nothing reads. -/
structure Uplink extends NatWire where
  nodeAddress : U64 := 0
  wireEphemeral : Bool := false
  wireFailStreak : Nat := 0
  wireBackoffMs : Nat := 0
  wireReopenAtMs : Int := 0
  wireDownAtMs : Int := 0
  wireReopenFail : Nat := 0
  wireRecovering : Bool := false
  wireRecoveryConfirmed : Bool := false
  wireReachable : Bool := false
  wireHup : Bool := false
  socketsBound : Nat := 0
  wireSocket : Nat := 0
  mappedSocket : Nat := 0

/-- What `socket` returns to `openWireSocket`, and whether `bind` to a port succeeds. -/
structure WireOpening where
  fd : Int
  bound : U16 → Bool

namespace Uplink

/-- `m_wireFd < 0 || m_wireRecovering`. -/
def paused (u : Uplink) : Bool := decide (u.wireFd < 0) || u.wireRecovering

def openWireSocket (u : Uplink) (o : WireOpening) : Uplink × Bool :=
  if o.fd < 0 then ({ u with wireFd := o.fd }, false)
  else if o.bound (if u.wireEphemeral then 0 else DefaultWirePort) then
    ({ u with wireFd := o.fd, socketsBound := u.socketsBound + 1, wireSocket := u.socketsBound }, true)
  else ({ u with wireFd := -1 }, false)

/-- The mapper, which is told too, is left to `NatPort`. -/
def closeNatWire (u : Uplink) : Uplink := { u with toNatWire := u.toNatWire.closed }

/-- `maintainNatWire` up to its poll, `GetNatEndpoint` returning `endpoint`. -/
def maintainNatWire (u : Uplink) (nowMs fd : Int) (bound : Bool) (endpoint : NatEndpoint) : Uplink :=
  if !u.natEnabled then u
  else if u.wireFd < 0 then u.closeNatWire
  else
    let o : Opening := ⟨u.wireReachable, nowMs, fd, bound⟩
    let wire := (u.toNatWire.opened u.nodeAddress o).refreshed endpoint
    if u.mustOpen o ∧ 0 ≤ fd ∧ bound then
      { u with toNatWire := wire, socketsBound := u.socketsBound + 1, mappedSocket := u.socketsBound }
    else { u with toNatWire := wire }

/-- A datagram has arrived. -/
def received (u : Uplink) : Uplink :=
  { u with wireReachable := true, wireRecoveryConfirmed := u.wireRecoveryConfirmed || u.wireRecovering }

/-- The callback and what it returns, `delivered` if `sendto` takes the whole packet. -/
def cbWireSend (u : Uplink) (localSocket : Int) (inet delivered : Bool) : Uplink × Int :=
  if u.wireFd < 0 then (u, -1)
  else if 0 < localSocket ∧ (localSocket ≠ u.mappedSocketId ∨ u.mappedFd < 0) then (u, -1)
  else if !inet then (u, -1)
  else if delivered then
    ({ u with
        wireFailStreak := 0, wireReachable := true
        wireRecoveryConfirmed := u.wireRecoveryConfirmed || u.wireRecovering }, 0)
  else
    ({ u with
        wireFailStreak := if 0 < localSocket then u.wireFailStreak else u.wireFailStreak + 1
        wireReachable := false }, -1)

/-! ### The recycler -/

/-- `maintainWireSocket` after a recovery is confirmed. -/
def resumed (u : Uplink) : Uplink :=
  if u.wireRecoveryConfirmed then
    { u with
      wireRecoveryConfirmed := false, wireRecovering := false, wireFailStreak := 0, wireBackoffMs := 0
      wireReopenFail := 0, wireHup := false }
  else u

def nextBackoffMs (ms : Nat) : Nat :=
  let next := if ms = 0 then 2000 else ms * 2
  if BackoffMaxMs < next then BackoffMaxMs else next

/-- The wire socket is down, and it is opened again if it can be. -/
def reopened (u : Uplink) (now : Int) (o : WireOpening) : Uplink :=
  let opened := u.openWireSocket o
  if opened.2 then
    { opened.1 with wireReopenFail := opened.1.wireReopenFail + 1, wireFailStreak := 0, wireHup := false }
  else
    let backoff := nextBackoffMs opened.1.wireBackoffMs
    { opened.1 with
      wireBackoffMs := backoff, wireReopenAtMs := now + backoff, wireReopenFail := opened.1.wireReopenFail + 1 }

/-- The branch that logs `PAUSE`. -/
def pause (u : Uplink) (now : Int) : Uplink :=
  let u := { u.closeNatWire with wireReachable := false, wireFd := -1 }
  let u := if !u.wireRecovering then { u with wireDownAtMs := now, wireReopenFail := 0, wireBackoffMs := 0 } else u
  let backoff := nextBackoffMs u.wireBackoffMs
  { u with
    wireRecovering := true, wireRecoveryConfirmed := false, wireEphemeral := !u.wireEphemeral
    wireBackoffMs := backoff, wireReopenAtMs := now + backoff }

def maintainWireSocket (u : Uplink) (now : Int) (o : WireOpening) : Uplink :=
  let u := u.resumed
  if u.wireFd < 0 then if now < u.wireReopenAtMs then u else u.reopened now o
  else if u.wireFailStreak < FailStreakMax ∧ !u.wireHup then u
  else u.pause now

/-- The call reaches the branch that logs `PAUSE`. -/
def mustPause (u : Uplink) : Bool :=
  !decide (u.resumed.wireFd < 0) && !(decide (u.resumed.wireFailStreak < FailStreakMax) && !u.resumed.wireHup)

/-! ### Sleep -/

/-- `HandleSleep` after the resume signal: one attempt, then up to thirty more while the
socket is not open. An attempt that is not in the list fails. -/
def woken (u : Uplink) (attempts : List WireOpening) : Uplink :=
  (attempts.take 31).foldl (fun u o => if u.wireFd < 0 then (u.openWireSocket o).1 else u) u

def handleSleep (u : Uplink) (attempts : List WireOpening) : Uplink :=
  let u := u.closeNatWire
  let u := if 0 ≤ u.wireFd then { u with wireReachable := false, wireFd := -1 } else u
  u.woken attempts

/-- What the run loop does with the two sockets. A receive is of `n` bytes. -/
inductive Call where
  | maintainWireSocket (now : Int) (o : WireOpening)
  | maintainNatWire (nowMs fd : Int) (bound : Bool) (endpoint : NatEndpoint)
  | pollMapped (hangup : Bool)
  | receiveMapped (n : Int)
  | pollWire (hangup : Bool)
  | receiveWire (n : Int)
  | handleSleep (attempts : List WireOpening)

def exec (u : Uplink) : Call → Uplink
  | .maintainWireSocket now o => u.maintainWireSocket now o
  | .maintainNatWire nowMs fd bound endpoint => u.maintainNatWire nowMs fd bound endpoint
  | .pollMapped hangup => if 0 ≤ u.mappedFd ∧ hangup then u.closeNatWire else u
  | .receiveMapped n => if 0 ≤ u.mappedFd ∧ 0 < n then u.received else u
  | .pollWire hangup => if 0 ≤ u.wireFd ∧ hangup then { u with wireReachable := false, wireHup := true } else u
  | .receiveWire n => if 0 ≤ u.wireFd ∧ 0 < n then u.received else u
  | .handleSleep attempts => u.handleSleep attempts

/-- The socket that a call receives on. -/
def hears (u : Uplink) : Call → Option Nat
  | .receiveMapped n => if 0 ≤ u.mappedFd ∧ 0 < n then some u.mappedSocket else none
  | .receiveWire n => if 0 ≤ u.wireFd ∧ 0 < n then some u.wireSocket else none
  | _ => none

/-- The socket that the callback sends on. -/
def delivers (u : Uplink) (localSocket : Int) (inet delivered : Bool) : Option Nat :=
  if (u.cbWireSend localSocket inet delivered).2 = 0 then
    some (if 0 < localSocket then u.mappedSocket else u.wireSocket)
  else none

end Uplink

/-! ### The node loop -/

/-- The node thread and its sockets, and the queue with the threads that fill it. -/
structure NodeLoop where
  uplink : Uplink
  port : Port

namespace NodeLoop

inductive Event where
  | call (c : Uplink.Call)
  | cbWireSend (localSocket : Int) (inet delivered : Bool)
  /-- `cbEvent` with `ZT_EVENT_OFFLINE` or `ZT_EVENT_DOWN`. -/
  | offline
  | drainOutbound
  | port (e : Port.Event)

/-- `drainOutbound` begins as an event of its own, with the socket as it is, and
`probePeer` does nothing while it would be discarded. -/
def admits (s : NodeLoop) : Port.Event → Bool
  | .wire _ => false
  | .drain => false
  | .probe _ => !s.uplink.paused
  | _ => true

/-- `switchNetwork` and the configuration callback mark the wire as not reachable. -/
def unreaches (s : NodeLoop) : Port.Event → Bool
  | .switchNetwork nwid => !(nwid == 0 || nwid == s.port.nwid)
  | .destroy _ => true
  | .networkConfig _ op _ => op == .destroy || op == .down
  | _ => false

def step (s : NodeLoop) : Event → Option NodeLoop
  | .call c => if s.port.pc = .running then some { s with uplink := s.uplink.exec c } else none
  | .cbWireSend localSocket inet delivered =>
    some { s with uplink := (s.uplink.cbWireSend localSocket inet delivered).1 }
  | .offline => some { s with uplink := { s.uplink with wireReachable := false } }
  | .drainOutbound =>
    ((s.port.step (.wire s.uplink.paused)).bind fun port => port.step .drain).map fun port =>
      { s with port := port }
  | .port e =>
    if s.admits e then
      (s.port.step e).map fun port =>
        ⟨{ s.uplink with wireReachable := s.uplink.wireReachable && !s.unreaches e }, port⟩
    else none

def loop : System NodeLoop Event := ⟨step⟩

/-- `Initialize` has opened the wire socket and started the mapper, if it could. -/
def initialized (nodeAddress : U64) (o : WireOpening) (natEnabled : Bool) (v : VNet) (nwid : U64) : NodeLoop where
  uplink := { ((({} : Uplink).openWireSocket o).1) with nodeAddress := nodeAddress, natEnabled := natEnabled }
  port := Port.initialized v nwid

/-- The event is a `PAUSE`. -/
def pauses (s : NodeLoop) : Event → Bool
  | .call (.maintainWireSocket _ _) => s.uplink.mustPause
  | _ => false

/-- The socket on which the event sends or receives successfully. -/
def succeedsOn (s : NodeLoop) : Event → Option Nat
  | .call c => s.uplink.hears c
  | .cbWireSend localSocket inet delivered => s.uplink.delivers localSocket inet delivered
  | _ => none

/-- Nothing is sent or received on a socket opened when `mark` others had been. -/
def quietSince (mark : Nat) (s : NodeLoop) (e : Event) : Bool :=
  (s.succeedsOn e).all fun socket => decide (socket < mark)

end NodeLoop

end SysZerotier.Port
