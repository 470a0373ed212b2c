import SysZerotier.Port.Lan
import SysZerotier.Library.Ring
import SysZerotier.Library.Runs

/-! The outbound frame queue and the network switch (`source/zt_port.cpp`).

Game threads call into the interface under `m_vnetLock`; while one of them sends,
`cbEmit` stores its frames one by one under `g_frameLock`. The node thread switches
networks, handles ZeroTier's callbacks and drains the queue. A step is what happens
between two points at which another thread may run: `pc` is how far `switchNetwork`
or `drainOutbound` has got, `sending` is the game thread inside the interface and
the frames it has yet to store.

ZeroTier calls the configuration callback for the network it has joined, and with
`DESTROY` from inside `ZT_Node_leave`. A callback made from inside `ZT_Node_join`
counts as made right after it, since the node thread does nothing in between.

`lan` and the `lan` of a frame are not in the source. They record which network the
interface was configured for, and nothing reads them. -/
namespace SysZerotier
open Net Library

namespace Port

def FrameQueueDepth : Nat := 32

instance : NeZero FrameQueueDepth := ⟨by decide⟩

/-- A frame of the queue, and the network the interface was configured for when it
emitted the frame. -/
structure QueuedFrame where
  frame : Frame
  lan : Option U64
  deriving DecidableEq

/-- One call of `ZT_Node_processVirtualNetworkFrame`. -/
structure PassedFrame where
  nwid : U64
  srcMac : U64
  frame : QueuedFrame
  deriving DecidableEq

/-- Where the node thread is. -/
inductive Pc where
  | running
  /-- In `drainOutbound`, with the value of `paused`. -/
  | draining (paused : Bool)
  /-- In `switchNetwork`, the queue flushed, `ZT_Node_leave` yet to call back. -/
  | flushed (oldNwid nwid : U64)
  /-- The `DESTROY` callback has run. -/
  | destroyed (oldNwid nwid : U64)
  /-- The new id is stored, `ZT_Node_join` yet to return. -/
  | joining (oldNwid nwid : U64)
  /-- The join failed and the old id is stored again. -/
  | restoring (oldNwid : U64)
  deriving DecidableEq

/-- Outside `switchNetwork`. -/
def Pc.settled : Pc → Bool
  | .running => true
  | .draining _ => true
  | _ => false

end Port

open Port in
structure Port where
  vnet : VNet
  nwid : U64
  queue : Ring QueuedFrame FrameQueueDepth
  /-- `m_wireFd < 0 || m_wireRecovering`. -/
  paused : Bool
  pc : Pc
  /-- The holder of `m_vnetLock` and the frames it has yet to hand to `cbEmit`. -/
  sending : Option (List Frame)
  /-- The network ZeroTier has joined. -/
  joined : Option U64
  lan : Option U64
  passed : List PassedFrame

namespace Port

/-- What a game thread calls. -/
inductive LanCall where
  | openSocket
  | bindSocket (vfd : Int) (port : U16)
  | send (c : SendCall)
  | receive (vfd : Int) (max : Nat) (peek : Bool)
  | closeSocket (vfd : Int)

/-- The interface after a call, and the frames it emitted. -/
def LanCall.exec (v : VNet) : LanCall → VNet × List Frame
  | .openSocket => ((openLanSocket v).1, [])
  | .bindSocket vfd port => ((bindLanSocket v vfd port).1, [])
  | .send c => ((c.exec v).1, (c.exec v).2.1)
  | .receive vfd max peek => ((receiveLanDatagram v vfd max peek).1, [])
  | .closeSocket vfd => (closeLanSocket v vfd, [])

inductive Event where
  /-- A game thread takes the lock and calls the interface. -/
  | call (c : LanCall)
  /-- It stores its next frame. -/
  | emit
  /-- It leaves the interface. -/
  | unlock
  | virtualFrame (nwid srcMac dstMac : U64) (etherType : U16) (payload : List U8)
  | probe (dstIp : U32)
  | networkConfig (nwid : U64) (op : ConfigOperation) (conf : NetworkConfig)
  | wire (paused : Bool)
  | switchNetwork (nwid : U64)
  | destroy (conf : NetworkConfig)
  | leaveFailed
  | left
  | joinOk
  | joinFailed
  | restoreOk
  | restoreFailed
  | drain
  | drainNext

def initialized (v : VNet) (nwid : U64) : Port where
  vnet := v.reset.setEmit
  nwid := nwid
  queue := ⟨fun _ => ⟨⟨0, 0, []⟩, none⟩, 0, 0⟩
  paused := false
  pc := .running
  sending := none
  joined := some nwid
  lan := none
  passed := []

/-- A full queue drops the frame. -/
def cbEmit (s : Port) (f : Frame) : Port :=
  if MaxFrame < f.payload.length then s else { s with queue := s.queue.push ⟨f, s.lan⟩ }

/-- The node thread's own call of the interface, whose frames are stored before
another of its steps. -/
def nodeCall (s : Port) (r : VNet × List Frame) : Port := r.2.foldl cbEmit { s with vnet := r.1 }

theorem cbEmit_stores (s : Port) (f : Frame) : ∃ queue, s.cbEmit f = { s with queue := queue } := by
  unfold cbEmit
  split
  · exact ⟨s.queue, rfl⟩
  · exact ⟨_, rfl⟩

theorem nodeCall_stores (s : Port) (r : VNet × List Frame) :
    ∃ queue, s.nodeCall r = { s with vnet := r.1, queue := queue } := by
  refine List.foldlRecOn (motive := fun t : Port => ∃ queue, t = { s with vnet := r.1, queue := queue }) r.2 _
    ⟨s.queue, rfl⟩ fun t ht f _ => ?_
  obtain ⟨queue, rfl⟩ := ht
  obtain ⟨queue', heq⟩ := cbEmit_stores { s with vnet := r.1, queue := queue } f
  exact ⟨queue', heq⟩

/-- The configuration callback. It takes the lock only to touch the interface. -/
def networkConfig (s : Port) (nwid : U64) (op : ConfigOperation) (conf : NetworkConfig) : Option Port :=
  let v := cbNetworkConfig s.vnet op conf
  if op = .destroy ∨ op = .down then
    if s.sending.isSome then none else some { s with vnet := v, lan := none }
  else if conf.assignedAddresses.any fun a => a.inet then
    if s.sending.isSome then none else some { s with vnet := v, nwid := nwid, lan := some nwid }
  else some { s with nwid := nwid }

def step (s : Port) : Event → Option Port
  | .call c =>
    if s.sending.isSome then none
    else some { s with vnet := (c.exec s.vnet).1, sending := some (c.exec s.vnet).2 }
  | .emit =>
    match s.sending with
    | some (f :: rest) => some { s.cbEmit f with sending := some rest }
    | _ => none
  | .unlock => if s.sending = some [] then some { s with sending := none } else none
  | .virtualFrame nwid srcMac dstMac etherType payload =>
    if !s.pc.settled then none
    else if nwid ≠ s.nwid then some s
    else if s.sending.isSome then none
    else some (s.nodeCall (s.vnet.onFrame srcMac dstMac etherType payload))
  | .probe dstIp =>
    -- `probePeer` calls without the lock
    if s.pc ≠ .running then none
    else some (s.nodeCall ((s.vnet.sendEchoRequest dstIp).1, (s.vnet.sendEchoRequest dstIp).2.1))
  | .networkConfig nwid op conf =>
    if s.pc = .running ∧ s.joined = some nwid ∧ op ≠ .destroy then s.networkConfig nwid op conf else none
  | .wire paused => if s.pc = .running then some { s with paused := paused } else none
  | .switchNetwork nwid =>
    if s.pc ≠ .running then none
    else if nwid = 0 ∨ nwid = s.nwid then some s
    else some { s with queue := s.queue.clear, pc := .flushed s.nwid nwid }
  | .destroy conf =>
    match s.pc with
    | .flushed oldNwid nwid =>
      (s.networkConfig oldNwid .destroy conf).map fun s =>
        { s with joined := none, pc := .destroyed oldNwid nwid }
    | _ => none
  | .leaveFailed =>
    match s.pc with
    | .flushed _ _ => some { s with pc := .running }
    | _ => none
  | .left =>
    match s.pc with
    | .destroyed oldNwid nwid => some { s with nwid := nwid, pc := .joining oldNwid nwid }
    | _ => none
  | .joinOk =>
    match s.pc with
    | .joining _ nwid => some { s with joined := some nwid, pc := .running }
    | _ => none
  | .joinFailed =>
    match s.pc with
    | .joining oldNwid _ => some { s with nwid := oldNwid, pc := .restoring oldNwid }
    | _ => none
  | .restoreOk =>
    match s.pc with
    | .restoring oldNwid => some { s with joined := some oldNwid, pc := .running }
    | _ => none
  | .restoreFailed =>
    match s.pc with
    | .restoring _ => some { s with pc := .running }
    | _ => none
  | .drain => if s.pc = .running then some { s with pc := .draining s.paused } else none
  | .drainNext =>
    match s.pc with
    | .draining paused =>
      match s.queue.pop with
      | none => some { s with pc := .running }
      | some (f, queue) =>
        some { s with
          queue := queue
          passed := if paused then s.passed else s.passed ++ [⟨s.nwid, s.vnet.mac, f⟩] }
    | _ => none

def switching : System Port Event := ⟨step⟩

/-! ### Network separation -/

/-- Every frame ZeroTier was given was emitted on the network it was given for. -/
def Separated (s : Port) : Prop := ∀ f ∈ s.passed, f.frame.lan = some f.nwid

/-- The queue is empty when the join of the new network succeeds. -/
def joinsEmpty (s : Port) : Event → Bool
  | .joinOk => s.pc.settled || s.queue.tail == s.queue.head
  | _ => true

/-- No frame is stored between the flush and the `DESTROY` callback. -/
def quietSwitch (s : Port) : Event → Bool
  | .emit => match s.pc with
    | .flushed _ _ => false
    | _ => true
  | _ => true

end Port

end SysZerotier
