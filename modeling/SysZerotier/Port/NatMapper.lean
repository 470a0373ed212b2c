import SysZerotier.Net.Bytes
import SysZerotier.Library.Runs

/-! The NAT port mapper (`source/nat_mapper.cpp`).

One low-priority worker asks the router for a public endpoint of the local port that
the node thread desires. What is desired is one word, a generation over a port, so a
result can be told from an obsolete one; `idle` says that the worker is in none of its
calls. `advance` is `Main` one access of shared state at a time: the calls into nifm
and into the router are the steps `nifm`, `mapPmp` and `mapUpnp`, and a test of
`ztnx_nat_cancelled` is three steps, one for each thing it reads.

`RouterLog` is not in the source, and nothing of the model reads it: the worker's calls
into the router, as they were made and answered. -/
namespace SysZerotier.Port
open Net

structure NatEndpoint where
  address : U32 := 0
  port : U16 := 0
  deriving DecidableEq

/-! ### The router -/

/-- What a NAT-PMP gateway answers: the public address, and the mapping it made. `none`
stands for a call that fails, times out or is cancelled. -/
structure PmpAnswers where
  publicAddress : Option U32 := none
  mapping : Option (U16 × U16 × U32) := none
  deriving DecidableEq

/-- `mapped`, `lease` and `ok` after `MapPmp`; the mapping is the private port, the
public port and the lifetime. -/
def mapPmp (port : U16) (answers : PmpAnswers) : NatEndpoint × U32 × Bool :=
  match answers.publicAddress with
  | none => ({}, 600, false)
  | some address =>
    if address = 0 then ({}, 600, false)
    else
      match answers.mapping with
      | none => (⟨address, 0⟩, 600, false)
      | some (privatePort, publicPort, lifetime) =>
        (⟨address, publicPort⟩, lifetime,
          privatePort == port && publicPort != 0 && decide (30 ≤ lifetime.toNat))

/-- One round of the candidate loop of `MapUpnp`: the port belongs to someone else, the
gateway refuses it, or the mapping is made. -/
inductive Attempt where
  | taken
  | refused
  | added
  deriving DecidableEq

/-- What a UPnP gateway answers: the external address, if one is found, and each
candidate tried. -/
structure UpnpAnswers where
  externalAddress : Option U32 := none
  attempts : List Attempt := []
  deriving DecidableEq

def upnpCandidate (port : U16) (attempt : Nat) : U16 :=
  (20000 + (port.setWidth 32 - 20000 + BitVec.ofNat 32 attempt) % 40000 : U32).setWidth 16

def mapUpnp (port : U16) (answers : UpnpAnswers) : Option NatEndpoint :=
  match answers.externalAddress with
  | none => none
  | some address =>
    if address = 0 then none
    else
      ((answers.attempts.take 4).findIdx? fun attempt => attempt == .added).map fun attempt =>
        ⟨address, upnpCandidate port attempt⟩

/-- The answers to the calls of one step: whether nifm comes up, the address and gateway
it reports, and the router's. -/
structure Answers where
  nifmInitialize : Bool := false
  ipConfig : Option (U32 × U32) := none
  pmp : PmpAnswers := {}
  upnp : UpnpAnswers := {}

/-! ### The worker -/

/-- Where `ztnx_nat_cancelled` is called: before the calls, before each way to map,
before the result is published, and in the pauses that end a pass. -/
inductive Test where
  | start
  | retry
  | upnp
  | result
  | pause (passes : Nat)
  deriving DecidableEq

/-- What `ztnx_nat_cancelled` reads next. -/
inductive Reading where
  | desired
  | sleepRequested
  | now
  deriving DecidableEq

/-- The operation of `Main` that the worker performs next. -/
inductive WorkerPc where
  | setIdle
  | loadRequest
  | testRequest
  | clearIdle
  | setActive
  | cancelled (test : Test) (reading : Reading)
  | nifm
  | publishNone
  | compare
  | testRetry
  | mapPmp
  | mapUpnp
  | takeLease
  | publish (expiry : Nat)
  | renew
  | postpone
  | reload
  | finish
  deriving DecidableEq

/-- The globals of the file, and the locals of `Main`. Times are milliseconds. -/
structure Mapper where
  desired : U64 := 0
  idle : Bool := true
  started : Bool := false
  active : U64 := 0
  gateway : U32 := 0
  deadline : Nat := 0
  endpoint : NatEndpoint := {}
  endpointGeneration : U64 := 0
  endpointExpiry : Nat := 0
  pc : WorkerPc := .setIdle
  nifmReady : Bool := false
  previousIp : U32 := 0
  previousGateway : U32 := 0
  retryAt : Nat := 0
  previousGeneration : U64 := 0
  request : U64 := 0
  ip : U32 := 0
  gw : U32 := 0
  mapped : NatEndpoint := {}
  lease : U32 := 600
  ok : Bool := false

/-- `uint16_t(word)`. -/
def portOf (word : U64) : U16 := word.setWidth 16

namespace Mapper

/-- `Publish`. -/
def published (m : Mapper) (value : NatEndpoint) (expiry : Nat) : Mapper :=
  { m with endpoint := value, endpointGeneration := m.active, endpointExpiry := expiry }

/-- Where the worker goes when the test says that the request is cancelled. -/
def Test.onCancelled : Test → WorkerPc
  | .start => .setIdle
  | .retry => .finish
  | .upnp => .cancelled .result .desired
  | .result => .reload
  | .pause _ => .setIdle

/-- Where it goes when it is not. The pauses are nine at most. -/
def Test.onCurrent (m : Mapper) : Test → WorkerPc
  | .start => .nifm
  | .retry => .mapPmp
  | .upnp => .mapUpnp
  | .result => if m.ok then .takeLease else .postpone
  | .pause passes => if passes + 1 < 9 then .cancelled (.pause (passes + 1)) .desired else .setIdle

def leaseSeconds (m : Mapper) : Nat := min m.lease.toNat 600

/-- One operation of `Main`. -/
def advance (m : Mapper) (now : Nat) (sleepRequested : Bool) (answers : Answers) : Mapper :=
  match m.pc with
  | .setIdle => { m with idle := true, pc := .loadRequest }
  | .loadRequest => { m with request := m.desired, pc := .testRequest }
  | .testRequest =>
    if portOf m.request = 0 ∨ sleepRequested = true then { m with pc := .setIdle } else { m with pc := .clearIdle }
  | .clearIdle => { m with idle := false, pc := .setActive }
  | .setActive => { m with active := m.request, deadline := now + 15000, pc := .cancelled .start .desired }
  | .cancelled test .desired =>
    { m with pc := if m.desired ≠ m.active then Test.onCancelled test else .cancelled test .sleepRequested }
  | .cancelled test .sleepRequested =>
    { m with pc := if sleepRequested then Test.onCancelled test else .cancelled test .now }
  | .cancelled test .now =>
    { m with pc := if m.deadline ≤ now then Test.onCancelled test else Test.onCurrent m test }
  | .nifm =>
    let ready := m.nifmReady || answers.nifmInitialize
    match answers.ipConfig with
    | none => { m with nifmReady := ready, pc := .publishNone }
    | some (ip, gw) =>
      if !ready || ip == 0 || gw == 0 then { m with nifmReady := ready, pc := .publishNone }
      else { m with nifmReady := ready, ip := ip, gw := gw, pc := .compare }
  | .publishNone => { m.published {} 0 with previousIp := 0, previousGateway := 0, pc := .setIdle }
  | .compare =>
    let m := { m with gateway := m.gw }
    if m.ip ≠ m.previousIp ∨ m.gw ≠ m.previousGateway ∨ m.active ≠ m.previousGeneration then
      { m.published {} 0 with
        retryAt := 0, previousIp := m.ip, previousGateway := m.gw, previousGeneration := m.active
        pc := .testRetry }
    else { m with pc := .testRetry }
  | .testRetry => { m with pc := if m.retryAt ≤ now then .cancelled .retry .desired else .finish }
  | .mapPmp =>
    let result := Port.mapPmp (portOf m.active) answers.pmp
    { m with
      mapped := result.1, lease := result.2.1, ok := result.2.2
      pc := .cancelled (if result.2.2 then .result else .upnp) .desired }
  | .mapUpnp =>
    match Port.mapUpnp (portOf m.active) answers.upnp with
    | none => { m with pc := .cancelled .result .desired }
    | some endpoint => { m with mapped := endpoint, ok := true, pc := .cancelled .result .desired }
  | .takeLease => { m with pc := .publish (now + m.leaseSeconds * 1000) }
  | .publish expiry => { m.published m.mapped expiry with pc := .renew }
  | .renew => { m with retryAt := now + m.leaseSeconds * 500, pc := .finish }
  | .postpone => { m with retryAt := now + 60000, pc := .finish }
  | .reload => { m with pc := if m.desired = m.active then .postpone else .finish }
  | .finish => { m with idle := true, pc := .cancelled (.pause 0) .desired }

/-! ### The node thread's side -/

/-- `((old >> 16) + 1) << 16 | port`. -/
def nextRequest (old : U64) (port : U16) : U64 := (((old >>> 16) + 1) <<< 16) ||| port.setWidth 64

def configureNatMapper (m : Mapper) (port : U16) : Mapper :=
  if portOf m.desired ≠ port then { m with desired := nextRequest m.desired port } else m

def getNatEndpoint (m : Mapper) (now : Nat) : NatEndpoint :=
  if m.endpointGeneration ≠ m.desired ∨ m.endpointExpiry ≤ now then {} else m.endpoint

end Mapper

/-! ### The calls into the router -/

/-- A call of `MapPmp` or `MapUpnp`: the request that had been loaded, the local port it is
made for, what the router answers and when the answers are there, and the next time that
is noted for a lease. -/
structure RouterCall where
  word : U64
  port : U16
  answers : PmpAnswers ⊕ UpnpAnswers
  answered : Nat
  taken : Option Nat := none
  deriving DecidableEq

/-- The request that was loaded last, and the calls, newest first. -/
structure RouterLog where
  word : U64 := 0
  calls : List RouterCall := []

namespace RouterLog

def called (log : RouterLog) (port : U16) (answers : PmpAnswers ⊕ UpnpAnswers) (now : Nat) : RouterLog :=
  { log with calls := ⟨log.word, port, answers, now, none⟩ :: log.calls }

/-- A lease is dated, once for each call. -/
def dated (log : RouterLog) (now : Nat) : RouterLog :=
  match log.calls with
  | [] => log
  | c :: rest => { log with calls := { c with taken := c.taken.or (some now) } :: rest }

end RouterLog

/-- What the worker's next operation adds to the log. -/
def Mapper.logged (m : Mapper) (log : RouterLog) (now : Nat) (answers : Answers) : RouterLog :=
  match m.pc with
  | .loadRequest => { log with word := m.desired }
  | .mapPmp => log.called (portOf m.active) (.inl answers.pmp) now
  | .mapUpnp => log.called (portOf m.active) (.inr answers.upnp) now
  | .takeLease => log.dated now
  | _ => log

/-- The router maps the endpoint to the port of the call, for these seconds; UPnP is asked
for 600. -/
def RouterCall.Grants (c : RouterCall) (endpoint : NatEndpoint) (seconds : Nat) : Prop :=
  match c.answers with
  | .inl pmp =>
    pmp.publicAddress = some endpoint.address ∧
      ∃ lifetime : U32, pmp.mapping = some (c.port, endpoint.port, lifetime) ∧ seconds = lifetime.toNat
  | .inr upnp =>
    upnp.externalAddress = some endpoint.address ∧
      (∃ attempt, upnp.attempts[attempt]? = some .added ∧ endpoint.port = upnpCandidate c.port attempt) ∧
      seconds = 600

end SysZerotier.Port
