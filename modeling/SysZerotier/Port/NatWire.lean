import SysZerotier.Port.NatMapper

/-! The mapped socket of the node thread and the mapper behind it
(`Port::closeNatWire`, `Port::maintainNatWire` and `QuiesceNatMapper`).

The node thread and the worker take turns in any order, one access of shared state at a
time, with any answers from the router and any clock. -/
namespace SysZerotier.Port
open Net Library

/-! ### The node thread -/

/-- The node thread's fields, `-1` for no socket. `surfaces` is what ZeroTier was given
by `ZT_Node_addLocalInterfaceAddress` and not told to clear. -/
structure NatWire where
  natEnabled : Bool := false
  wireFd : Int := -1
  mappedFd : Int := -1
  mappedSocketId : Int := 0
  mappedPort : U16 := 0
  natRetryMs : Int := 0
  natAddress : U32 := 0
  natPublicPort : U16 := 0
  surfaces : List NatEndpoint := []

/-- What `maintainNatWire` finds when it comes to open the mapped socket: whether the
wire is reachable, the time, and what `socket` and `bind` return. -/
structure Opening where
  reachable : Bool
  nowMs : Int
  fd : Int
  bound : Bool

namespace NatWire

/-- `closeNatWire` after its call of `ConfigureNatMapper`. -/
def closed (w : NatWire) : NatWire :=
  { w with
    mappedFd := -1, mappedPort := 0, natAddress := 0, natPublicPort := 0
    surfaces := if w.natAddress ≠ 0 ∨ w.natPublicPort ≠ 0 then [] else w.surfaces }

def mustOpen (w : NatWire) (o : Opening) : Bool :=
  decide (w.mappedFd < 0) && o.reachable && decide (w.natRetryMs ≤ o.nowMs)

/-- `20000 + (ZT_Node_address(m_node) % 40000)`. -/
def localPort (nodeAddress : U64) : U16 := (20000 + nodeAddress % 40000).setWidth 16

/-- The mapped socket is opened, if it can be. -/
def opened (w : NatWire) (nodeAddress : U64) (o : Opening) : NatWire :=
  if w.mustOpen o then
    let w := { w with natRetryMs := o.nowMs + 30000 }
    if 0 ≤ o.fd ∧ o.bound then
      { w with mappedFd := o.fd, mappedPort := localPort nodeAddress, mappedSocketId := w.mappedSocketId + 1 }
    else w
  else w

/-- The endpoint given to ZeroTier when this one is what the mapper has. -/
def announces (w : NatWire) (endpoint : NatEndpoint) : Option NatEndpoint :=
  if (endpoint.address ≠ w.natAddress ∨ endpoint.port ≠ w.natPublicPort) ∧
      0 ≤ w.mappedFd ∧ endpoint.address ≠ 0 ∧ endpoint.port ≠ 0 then some endpoint
  else none

def refreshed (w : NatWire) (endpoint : NatEndpoint) : NatWire :=
  if endpoint.address ≠ w.natAddress ∨ endpoint.port ≠ w.natPublicPort then
    { w with
      natAddress := endpoint.address, natPublicPort := endpoint.port
      surfaces := (w.announces endpoint).toList }
  else w

@[simp] theorem opened_wireFd (w : NatWire) (nodeAddress : U64) (o : Opening) :
    (w.opened nodeAddress o).wireFd = w.wireFd := by
  simp only [opened]
  split_ifs <;> rfl

theorem opened_mappedFd {w : NatWire} {o : Opening} (h : ¬(w.mustOpen o = true ∧ 0 ≤ o.fd ∧ o.bound = true))
    (nodeAddress : U64) : (w.opened nodeAddress o).mappedFd = w.mappedFd := by
  simp only [opened]
  split_ifs with hmust hbound
  · exact absurd ⟨hmust, hbound⟩ h
  · rfl
  · rfl

@[simp] theorem refreshed_wireFd (w : NatWire) (endpoint : NatEndpoint) :
    (w.refreshed endpoint).wireFd = w.wireFd := by
  simp only [refreshed]
  split <;> rfl

@[simp] theorem refreshed_mappedFd (w : NatWire) (endpoint : NatEndpoint) :
    (w.refreshed endpoint).mappedFd = w.mappedFd := by
  simp only [refreshed]
  split <;> rfl

@[simp] theorem refreshed_mappedPort (w : NatWire) (endpoint : NatEndpoint) :
    (w.refreshed endpoint).mappedPort = w.mappedPort := by
  simp only [refreshed]
  split <;> rfl

end NatWire

/-- What the node thread is in: nothing of this, `maintainNatWire` before it looks at the
mapper and before it polls the mapped socket, `QuiesceNatMapper` in its loop and at its
return. -/
inductive NatNode where
  | elsewhere
  | refreshing
  | polling
  | waitingIdle (limit : Nat)
  | answering
  deriving DecidableEq

structure NatPort where
  mapper : Mapper := {}
  wire : NatWire := {}
  nodeAddress : U64
  node : NatNode := .elsewhere
  now : Nat := 0
  sleepRequested : Bool := false
  log : RouterLog := {}
  /-- `QuiesceNatMapper` has returned true with the worker started, and
  `ConfigureNatMapper` was not called with a port since. -/
  quiesced : Bool := false

namespace NatPort

/-- Time passes; the power monitor asks for sleep or takes it back; the worker performs
its next operation; the node thread performs one of its own. -/
inductive Event where
  | tick (ms : Nat)
  | sleep (requested : Bool)
  | worker (answers : Answers)
  | startNatMapper
  | wireSocket (fd : Int)
  | closeNatWire
  | maintainNatWire (o : Opening)
  | getNatEndpoint
  | pollMapped (hangup : Bool)
  | quiesceNatMapper
  | awaitIdle
  | answer

def configure (s : NatPort) (port : U16) : NatPort :=
  { s with
    mapper := s.mapper.configureNatMapper port
    quiesced := s.quiesced && port == 0 }

def closeNatWire (s : NatPort) : NatPort := { s.configure 0 with wire := s.wire.closed }

/-- `maintainNatWire` up to its call of `GetNatEndpoint`. -/
def maintainNatWire (s : NatPort) (o : Opening) : NatPort :=
  if !s.wire.natEnabled then s
  else if s.wire.wireFd < 0 then s.closeNatWire
  else
    let wire := s.wire.opened s.nodeAddress o
    if s.wire.mustOpen o ∧ 0 ≤ o.fd ∧ o.bound then
      { s.configure wire.mappedPort with wire := wire, node := .refreshing }
    else { s with wire := wire, node := .refreshing }

def step (s : NatPort) : Event → Option NatPort
  | .tick ms => some { s with now := s.now + ms }
  | .sleep requested => some { s with sleepRequested := requested }
  | .worker answers =>
    if s.mapper.started then
      some
        { s with
          mapper := s.mapper.advance s.now s.sleepRequested answers
          log := s.mapper.logged s.log s.now answers }
    else none
  | .startNatMapper =>
    if s.node = .elsewhere then
      some { s with mapper := { s.mapper with started := true }, wire := { s.wire with natEnabled := true } }
    else none
  | .wireSocket fd => if s.node = .elsewhere then some { s with wire := { s.wire with wireFd := fd } } else none
  | .closeNatWire => if s.node = .elsewhere then some s.closeNatWire else none
  | .maintainNatWire o => if s.node = .elsewhere then some (s.maintainNatWire o) else none
  | .getNatEndpoint =>
    if s.node = .refreshing then
      let wire := s.wire.refreshed (s.mapper.getNatEndpoint s.now)
      some { s with wire := wire, node := if wire.mappedFd < 0 then .elsewhere else .polling }
    else none
  | .pollMapped hangup =>
    if s.node = .polling then
      some (if hangup then { s.closeNatWire with node := .elsewhere } else { s with node := .elsewhere })
    else none
  | .quiesceNatMapper =>
    if s.node = .elsewhere then some { s.configure 0 with node := .waitingIdle (s.now + 2000) } else none
  | .awaitIdle =>
    match s.node with
    | .waitingIdle limit =>
      if s.mapper.started && !s.mapper.idle && decide (s.now < limit) then some s
      else some { s with node := .answering }
    | _ => none
  | .answer =>
    if s.node = .answering then
      some
        { s with
          node := .elsewhere
          quiesced := s.quiesced || (s.mapper.started && s.mapper.idle) }
    else none

def threads : System NatPort Event := ⟨step⟩

/-- Before the worker is started. -/
def initial (nodeAddress : U64) : NatPort := { nodeAddress := nodeAddress }

/-- The endpoint that the node thread's next operation gives to ZeroTier. -/
def announced (s : NatPort) : Option NatEndpoint :=
  if s.node = .refreshing then s.wire.announces (s.mapper.getNatEndpoint s.now) else none

end NatPort

end SysZerotier.Port
