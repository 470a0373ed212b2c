import SysZerotier.Mitm.Holdings
import SysZerotier.Library.Runs

/-! The life of the sessions across the threads of the module
(`source/mitm/bsd_shim.cpp`, `source/net/lifetime.hpp`).

One thread serves the sessions: their registrations, `ShutdownAllSockets`, and the
destruction of their objects. The node thread runs `CleanupAbandonedServices`, another
one answers the queries of `ShouldMitm`, and processes are launched and exit all the
while. A step is what one of them does under one lock, or one call out of the module.
`g_splatoon2_registration_lock` is held where `Server.locks` says. -/
namespace SysZerotier.Mitm
open Net Library

/-! ### Registration requests -/

structure BsdServiceConfig where
  version : U32 := 0
  tcpTxBufSize : U32 := 0
  tcpRxBufSize : U32 := 0
  tcpTxBufMaxSize : U32 := 0
  tcpRxBufMaxSize : U32 := 0
  udpTxBufSize : U32 := 0
  udpRxBufSize : U32 := 0
  sbEfficiency : U32 := 0
  deriving DecidableEq

def isSplatoon2ProgramId (id : U64) : Bool :=
  id == 0x01003C700009C000 || id == 0x01003BC0000A0000 || id == 0x0100F8F0000A2000

def BsdWorkPage : U64 := 0x1000

def Splatoon2ProxyTmemSize : U64 := 0x94000

/-- The configuration and the minimum work size, or `none` for one that does not fit. -/
def buildSplatoon2ProxyConfig (requested : BsdServiceConfig) : Option (BsdServiceConfig × U64) :=
  if requested.sbEfficiency = 0 then none
  else
    let proxy := { requested with
      tcpTxBufMaxSize := requested.tcpTxBufSize, tcpRxBufMaxSize := requested.tcpRxBufSize }
    let sum : U64 := proxy.tcpTxBufSize.setWidth 64 + proxy.tcpRxBufSize.setWidth 64 +
      proxy.udpTxBufSize.setWidth 64 + proxy.udpRxBufSize.setWidth 64
    let aligned := (sum + (BsdWorkPage - 1)) &&& ~~~(BsdWorkPage - 1)
    if aligned < BsdWorkPage ∨ Splatoon2ProxyTmemSize < aligned then none
    else
      let maximumEfficiency := Splatoon2ProxyTmemSize / aligned
      let efficiency :=
        if maximumEfficiency < proxy.sbEfficiency.setWidth 64 then maximumEfficiency.setWidth 32
        else proxy.sbEfficiency
      if efficiency = 0 ∨ Splatoon2ProxyTmemSize < aligned * efficiency.setWidth 64 then none
      else some ({ proxy with sbEfficiency := efficiency }, aligned * efficiency.setWidth 64)

/-- The configuration that `RegisterClient` forwards with the proxy buffer, if it does. -/
def proxyConfig (programId : U64) (config : BsdServiceConfig) : Option BsdServiceConfig :=
  if isSplatoon2ProgramId programId then (buildSplatoon2ProxyConfig config).map Prod.fst else none

def ShutRdwr : Int := 2

/-- What the real service is sent to register a session: the configuration, the size of
the transfer memory or of the work area, and whether the memory is the proxy buffer. -/
structure Registration where
  service : Nat
  config : BsdServiceConfig
  size : U64
  proxy : Bool

/-- A `ShutdownAllSockets` that the real service was sent for a session, and its answer. -/
structure Shutdown where
  service : Nat
  how : Int
  answer : Except U32 Int

/-! ### Processes -/

/-- What `svcGetProcessList` answers. -/
structure ProcessList where
  success : Bool := false
  count : Int := 0
  live : List U64 := []

def processListConfirmsExit (pid : U64) (live : List U64) (count : Int) (capacity : Nat) (success : Bool) : Bool :=
  if pid = 0 ∨ success = false ∨ count < 0 ∨ capacity ≤ count then false
  else !(live.take count.toNat).contains pid

def processHasExited (pid : U64) (list : ProcessList) : Bool :=
  processListConfirmsExit pid list.live list.count 128 list.success

/-- The kernel's promise: a successful answer with room to spare lists every process
that is alive. -/
def ProcessList.promised (list : ProcessList) (alive : List U64) : Bool :=
  !(list.success && decide (0 ≤ list.count) && decide (list.count < 128)) ||
    alive.all fun pid => (list.live.take list.count.toNat).contains pid

/-! ### Session counters -/

def MaxTrackedClients : Nat := 32

/-- `count` is an `int`, in two's complement. -/
structure ClientSessions where
  pid : U64 := 0
  count : U32 := 0

/-- The number of the session, or -1 if there is no room. -/
def countClientSession (counters : Nat → ClientSessions) (pid : U64) : (Nat → ClientSessions) × Int :=
  match (List.range MaxTrackedClients).find? fun k => (counters k).pid == pid with
  | some k =>
    (Function.update counters k ⟨pid, (counters k).count + 1⟩, ((counters k).count + 1).toInt)
  | none =>
    match (List.range MaxTrackedClients).find? fun k => (counters k).pid == 0 with
    | some k => (Function.update counters k ⟨pid, 1⟩, 1)
    | none => (counters, -1)

def clearCounters (counters : Nat → ClientSessions) (pid : U64) : Nat → ClientSessions :=
  fun k => if k < MaxTrackedClients ∧ (counters k).pid = pid then {} else counters k

namespace Lifetimes

/-! ### Threads -/

/-- Where the server thread is: in `RegisterClient` (with the configuration requested,
the one for the proxy buffer and the size of the client's memory), in
`RegisterClientShared`, in `ShutdownAllSockets` or in `~BsdShim`. -/
inductive Server where
  | idle
  | registering (i : Nat) (config : BsdServiceConfig) (tmemSize : U64)
  | asking (i : Nat) (config proxy : BsdServiceConfig) (tmemSize : U64)
  | retiring (i : Nat) (config proxy : BsdServiceConfig) (tmemSize : U64)
  | creating (i : Nat) (config proxy : BsdServiceConfig) (tmemSize : U64)
  | proxying (i : Nat) (proxy : BsdServiceConfig)
  | forwarding (i : Nat) (config : BsdServiceConfig) (tmemSize : U64)
  | sharing (i : Nat) (config : BsdServiceConfig) (workSize : U64)
  | shuttingDown (i : Nat) (how : Int)
  /-- The real service has answered `SHUT_RDWR` with success. -/
  | releasing (i : Nat)
  | destroying (i : Nat)
  | examining (i : Nat)
  | parking (i : Nat)
  | dropping (i : Nat)
  deriving DecidableEq

def Server.locks : Server → Bool
  | .asking .. | .retiring .. | .creating .. | .proxying .. => true
  | _ => false

/-- The object that the server thread is destroying. -/
def Server.destroys : Server → Option Nat
  | .destroying i | .examining i | .parking i | .dropping i => some i
  | _ => none

/-- Where `CleanupAbandonedServices` is: collecting its candidates, asking for the list
of processes, and going through the candidates with it. -/
inductive Reaper where
  | idle
  | counters (candidates : List U64)
  | registration (candidates : List U64)
  | querying (candidates : List U64)
  | testing (candidates : List U64) (list : ProcessList)
  | forgetting (pid : U64) (candidates : List U64) (list : ProcessList)
  | closing (pid : U64) (candidates : List U64) (list : ProcessList)
  | releasing (pid : U64) (candidates : List U64) (list : ProcessList)
  | retiring (pid : U64) (candidates : List U64) (list : ProcessList)
  | clearing (pid : U64) (candidates : List U64) (list : ProcessList)

/-- What the handler of a registration returns. -/
inductive ClientReply where
  | token (out : U64)
  | busy
  | failed (rc : U32)
  deriving DecidableEq

/-- `remember`: of the candidates, 128 at most. -/
def remember (candidates : List U64) (pids : List U64) : List U64 :=
  pids.foldl (fun candidates pid =>
    if pid = 0 ∨ candidates.length = 128 ∨ pid ∈ candidates then candidates else candidates ++ [pid]) candidates

end Lifetimes

open Lifetimes in
/-- The state of the module, and of the processes. -/
structure Lifetimes where
  holdings : Holdings := {}
  counters : Nat → ClientSessions := fun _ => {}
  proxyTmemReady : Bool := false
  server : Server := .idle
  reaper : Reaper := .idle
  launched : List U64 := []
  alive : List U64 := []
  /-- The processes whose exit a list of processes has confirmed. -/
  confirmed : List U64 := []
  /-- What the real service has been sent, newest first. -/
  registrations : List Registration := []
  shutdowns : List Shutdown := []
  /-- What the clients were answered, newest first. -/
  replies : List (Nat × ClientReply) := []
  /-- The processes registered with the proxy buffer, and their tokens, newest first. -/
  lendings : List (U64 × U64) := []

namespace Lifetimes

/-- What the calls out of the module return in a step of the server thread. -/
structure Calls where
  processes : ProcessList := {}
  transferMemory : Bool := true
  registered : Except U32 U64 := .error 1
  shutdown : Except U32 Int := .error 1

inductive Event where
  | launch (pid : U64)
  | exit (pid : U64)
  | shouldMitm (pid : U64)
  | accept (pid programId : U64)
  | copyReference (i : Nat)
  | dropReference (i : Nat)
  | registerClient (i : Nat) (config : BsdServiceConfig) (tmemSize : U64)
  | registerClientShared (i : Nat) (config : BsdServiceConfig) (workSize : U64)
  | shutdownAllSockets (i : Nat) (how : Int)
  | destroy (i : Nat)
  /-- The server thread goes on. -/
  | serve (calls : Calls)
  | reap (list : ProcessList)

variable (s : Lifetimes)

def ownerUseCount : Nat := (s.holdings.owner.map s.holdings.useCount).getD 0

/-- The handler of session `i` returns. -/
def answer (i : Nat) (reply : ClientReply) : Lifetimes :=
  { s with server := .idle, replies := (i, reply) :: s.replies }

/-- Command 0 or 33 of session `i`, to the real service. -/
def sent (i : Nat) (config : BsdServiceConfig) (size : U64) (proxy : Bool) : Lifetimes :=
  { s with registrations := ⟨i, config, size, proxy⟩ :: s.registrations }

/-- Command 23 of session `i`, to the real service. -/
def shutDown (i : Nat) (how : Int) (answer : Except U32 Int) : Lifetimes :=
  { s with shutdowns := ⟨i, how, answer⟩ :: s.shutdowns }

/-- `RegisterClient` and `RegisterClientShared` after the forward without the proxy buffer. -/
def forwarded (i : Nat) (config : BsdServiceConfig) (size : U64) (registered : Except U32 U64) : Lifetimes :=
  match registered with
  | .error rc => (s.sent i config size false).answer i (.failed rc)
  | .ok out => { (s.sent i config size false).answer i (.token out) with holdings := s.holdings.register i }

/-- `RegisterClient` after the forward with it. -/
def proxied (i : Nat) (proxy : BsdServiceConfig) (registered : Except U32 U64) : Lifetimes :=
  match registered with
  | .error rc => (s.sent i proxy Splatoon2ProxyTmemSize true).answer i (.failed rc)
  | .ok out =>
    { (s.sent i proxy Splatoon2ProxyTmemSize true).answer i (.token out) with
      holdings := s.holdings.lend i out
      lendings := ((s.holdings.session i).pid, out) :: s.lendings }

def serve (calls : Calls) : Option Lifetimes :=
  match s.server with
  | .idle => none
  | .registering i config tmemSize =>
    match proxyConfig (s.holdings.session i).programId config with
    | none => some { s with server := .forwarding i config tmemSize }
    | some proxy =>
      if s.holdings.registeredPid = (s.holdings.session i).pid then
        some { s.answer i (.token s.holdings.registeredOut) with holdings := s.holdings.reuse i }
      else if s.holdings.registeredPid ≠ 0 then some { s with server := .asking i config proxy tmemSize }
      else some { s with server := .creating i config proxy tmemSize }
  | .asking i config proxy tmemSize =>
    if processHasExited s.holdings.registeredPid calls.processes then
      some
        { s with
          server := .retiring i config proxy tmemSize
          confirmed := s.holdings.registeredPid :: s.confirmed }
    else some (s.answer i .busy)
  | .retiring i config proxy tmemSize =>
    if s.ownerUseCount ≤ 1 then
      some { s with server := .creating i config proxy tmemSize, holdings := s.holdings.releaseOwner }
    else some (s.answer i .busy)
  | .creating i config proxy tmemSize =>
    if s.proxyTmemReady || calls.transferMemory then
      some { s with server := .proxying i proxy, proxyTmemReady := true }
    else some { s with server := .forwarding i config tmemSize }
  | .proxying i proxy => some (s.proxied i proxy calls.registered)
  | .forwarding i config tmemSize => some (s.forwarded i config tmemSize calls.registered)
  | .sharing i config workSize => some (s.forwarded i config workSize calls.registered)
  | .shuttingDown i how =>
    match calls.shutdown with
    | .error rc => some { s.shutDown i how (.error rc) with server := .idle }
    | .ok ret =>
      some { s.shutDown i how (.ok ret) with server := if ret = 0 ∧ how = ShutRdwr then .releasing i else .idle }
  | .releasing i => some { s with server := .idle, holdings := s.holdings.releaseParked (s.holdings.session i).pid }
  | .destroying i =>
    if !(s.holdings.session i).forwardService then some { s with server := .idle }
    else if (s.holdings.session i).proxyRegistrationOwner ∧ s.holdings.registeredPid = (s.holdings.session i).pid then
      some { s with server := .idle, holdings := s.holdings.retain i }
    else some { s with server := .examining i }
  | .examining i =>
    if processHasExited (s.holdings.session i).pid calls.processes then
      some { s with server := .parking i, confirmed := (s.holdings.session i).pid :: s.confirmed }
    else some { s with server := if (s.holdings.session i).registered then .dropping i else .parking i }
  | .parking i => some { s with server := .idle, holdings := s.holdings.park i }
  | .dropping i => some { s with server := .idle, holdings := s.holdings.reset i }

/-- The next step of `CleanupAbandonedServices`. -/
def reap (list : ProcessList) : Lifetimes :=
  match s.reaper with
  | .idle => { s with reaper := .counters (remember [] (s.holdings.parked.map ParkedService.pid)) }
  | .counters candidates =>
    { s with
      reaper := .registration
        (remember candidates ((List.range MaxTrackedClients).map fun k => (s.counters k).pid)) }
  | .registration candidates =>
    if s.server.locks then { s with reaper := .idle }
    else { s with reaper := .querying (remember candidates [s.holdings.registeredPid]) }
  | .querying candidates =>
    if candidates = [] ∨ list.success = false ∨ list.count < 0 ∨ 128 ≤ list.count then { s with reaper := .idle }
    else { s with reaper := .testing candidates list }
  | .testing [] _ => { s with reaper := .idle }
  | .testing (pid :: candidates) list =>
    if processHasExited pid list then
      { s with reaper := .forgetting pid candidates list, confirmed := pid :: s.confirmed }
    else { s with reaper := .testing candidates list }
  | .forgetting pid candidates list => { s with reaper := .closing pid candidates list }
  | .closing pid candidates list => { s with reaper := .releasing pid candidates list }
  | .releasing pid candidates list =>
    { s with reaper := .retiring pid candidates list, holdings := s.holdings.releaseParked pid }
  | .retiring pid candidates list =>
    if s.server.locks then { s with reaper := .testing candidates list }
    else if s.holdings.registeredPid = pid then
      if 1 < s.ownerUseCount then { s with reaper := .testing candidates list }
      else { s with reaper := .clearing pid candidates list, holdings := s.holdings.releaseOwner }
    else { s with reaper := .clearing pid candidates list }
  | .clearing pid candidates list =>
    { s with reaper := .testing candidates list, counters := clearCounters s.counters pid }

/-- Process ids are not zero and are not used again; a session is of a process that has
been launched; and the server thread serves one session at a time. -/
def step (s : Lifetimes) : Event → Option Lifetimes
  | .launch pid =>
    if pid = 0 ∨ pid ∈ s.launched then none
    else some { s with launched := pid :: s.launched, alive := pid :: s.alive }
  | .exit pid => some { s with alive := s.alive.filter (· ≠ pid) }
  | .shouldMitm pid =>
    if pid ∈ s.launched then some { s with counters := (countClientSession s.counters pid).1 } else none
  | .accept pid programId =>
    if s.server matches .idle ∧ pid ∈ s.launched then some { s with holdings := s.holdings.accept pid programId }
    else none
  | .copyReference i =>
    if (s.holdings.session i).object ∨ 0 < (s.holdings.session i).framework then
      some { s with holdings := s.holdings.copyReference i }
    else none
  | .dropReference i =>
    if 0 < (s.holdings.session i).framework then some { s with holdings := s.holdings.dropReference i } else none
  | .registerClient i config tmemSize =>
    if s.server matches .idle ∧ (s.holdings.session i).object then
      some { s with server := .registering i config tmemSize }
    else none
  | .registerClientShared i config workSize =>
    if s.server matches .idle ∧ (s.holdings.session i).object then
      some { s with server := .sharing i config workSize }
    else none
  | .shutdownAllSockets i how =>
    if s.server matches .idle ∧ (s.holdings.session i).object then some { s with server := .shuttingDown i how }
    else none
  | .destroy i =>
    if s.server matches .idle ∧ (s.holdings.session i).object then
      some { s with server := .destroying i, holdings := s.holdings.destroy i }
    else none
  | .serve calls => if calls.processes.promised s.alive then s.serve calls else none
  | .reap list => if list.promised s.alive then some (s.reap list) else none

def lives : System Lifetimes Event := ⟨step⟩

/-- The module has started, and no process has been launched. -/
def started : Lifetimes := {}

end Lifetimes

end SysZerotier.Mitm
