import SysZerotier.Port.Lan
import SysZerotier.Library.Runs

/-! Bringing the port up (`Port::Initialize` in `source/zt_port.cpp`), as often as
`NodeThreadMain` in `source/main.cpp` tries.

The sockets and nodes of the process are part of the state, so what an attempt leaves
behind is there for the next one. An attempt that fails leaves nothing behind, and
every later one whose calls succeed brings the port up, exactly when none fails after
the wire socket is bound for want of memory or of the network
(`initialize_atomic_iff`): these two exits keep what they have. What is logged, and the
groups that are subscribed to on success, are left out. -/
namespace SysZerotier.Port
open Net Library

def DefaultWirePort : U16 := 9993

def NodeAllocLowWater : Nat := 384 * 1024

/-- The members of the port that `Initialize` uses, and what the process has open. -/
structure Startup where
  nwid : U64
  vnet : VNet
  wireFd : Int
  wireLocalPort : U16
  wireEphemeral : Bool
  node : Option Nat
  lastError : Int
  natEnabled : Bool
  startedMs : Int
  /-- The open sockets with their local ports, zero when not bound. -/
  sockets : List (Nat × U16)
  nodes : List Nat

/-- What the calls of an attempt bring: a descriptor, the port of an ephemeral binding,
the socket's name, the arena's largest free block if there is an allocator, a node,
the result of joining, the mapper's thread and the time. -/
structure Outcome where
  socket : Option Nat
  ephemeralPort : U16
  sockname : Option U16
  allocatable : Option Nat
  node : Option Nat
  join : Int
  natMapper : Bool
  now : Int

namespace Outcome

/-- The arena refuses `ZT_Node_new`. -/
def refused (x : Outcome) : Bool := x.allocatable.any fun largest => decide (largest < NodeAllocLowWater)

/-- On a clean system the attempt succeeds. -/
def succeeds (x : Outcome) : Bool := x.socket.isSome && !x.refused && x.node.isSome && x.join == 0

/-- The attempt fails between the binding of its socket and its end: the arena is too
small, or the network is not joined. -/
def strands (x : Outcome) : Bool := x.socket.isSome && (x.refused || x.node.isSome && x.join != 0)

theorem strands_of_succeeds {x : Outcome} (h : x.succeeds = true) : x.strands = false := by
  simp only [succeeds, Bool.and_eq_true, Bool.not_eq_true', beq_iff_eq] at h
  obtain ⟨⟨⟨-, hr⟩, -⟩, hj⟩ := h
  simp [strands, hr, hj]

end Outcome

namespace Startup

def holds (p : Startup) (port : U16) : Bool := p.sockets.any fun k => k.2 == port

def close (p : Startup) (fd : Int) : Startup :=
  { p with sockets := p.sockets.filter fun k => (k.1 : Int) != fd }

/-- A port that an open socket holds cannot be bound. -/
def openWireSocket (p : Startup) (x : Outcome) : Startup × Bool :=
  match x.socket with
  | none => ({ p with wireFd := -1 }, false)
  | some fd =>
    if p.wireEphemeral || !p.holds DefaultWirePort then
      ({ p with
          wireFd := fd
          sockets := (fd, if p.wireEphemeral then x.ephemeralPort else DefaultWirePort) :: p.sockets
          wireLocalPort := x.sockname.getD 0 }, true)
    else
      let opened := { p with wireFd := fd, sockets := (fd, 0) :: p.sockets }
      ({ opened.close opened.wireFd with wireFd := -1 }, false)

/-- `Initialize`. -/
def initializePort (p : Startup) (nwid : U64) (x : Outcome) : Startup × Bool :=
  let p := { p with nwid := nwid, vnet := p.vnet.reset.setEmit }
  let opened := p.openWireSocket x
  if !opened.2 then (opened.1, false)
  else if x.refused then (opened.1, false)
  else
    match x.node with
    | none => ({ opened.1.close opened.1.wireFd with wireFd := -1, node := none }, false)
    | some node =>
      let p := { opened.1 with node := some node, nodes := node :: opened.1.nodes }
      if x.join ≠ 0 then ({ p with lastError := x.join }, false)
      else ({ p with natEnabled := x.natMapper, startedMs := x.now }, true)

/-- The system hands out descriptors and nodes that are not in use. -/
def offers (p : Startup) (x : Outcome) : Bool :=
  x.socket.all (fun fd => !(p.sockets.map Prod.fst).contains fd) && x.node.all fun node => !p.nodes.contains node

/-- Nothing of an attempt is left. -/
def Restored (p q : Startup) : Prop :=
  q.wireFd = -1 ∧ q.node = none ∧ q.sockets = p.sockets ∧ q.nodes = p.nodes

instance (p q : Startup) : Decidable (Restored p q) :=
  inferInstanceAs (Decidable (_ ∧ _ ∧ _ ∧ _))

/-- No attempt has been made, or none has left anything. -/
structure Clean (p : Startup) : Prop where
  wireFd : p.wireFd = -1
  node : p.node = none
  free : p.holds DefaultWirePort = false

theorem Clean.restored {p q : Startup} (h : p.Clean) (hr : Restored p q) : q.Clean := by
  obtain ⟨hfd, hnode, hsockets, -⟩ := hr
  refine ⟨hfd, hnode, ?_⟩
  rw [holds, hsockets]
  exact h.free

/-- Closing the descriptor just opened leaves the ones before it. -/
theorem close_opened {p : Startup} {x : Outcome} (ho : p.offers x = true) {fd : Nat} (hfd : x.socket = some fd) :
    p.sockets.filter (fun k => (k.1 : Int) != fd) = p.sockets := by
  refine List.filter_eq_self.mpr fun k hk => bne_iff_ne.mpr fun heq => ?_
  rw [offers, hfd, Option.all_some, Bool.and_eq_true, Bool.not_eq_true', ← Bool.not_eq_true,
    List.contains_iff_mem] at ho
  exact ho.1 (List.mem_map.mpr ⟨k, hk, Int.ofNat.inj heq⟩)

/-- On a clean system the wire socket opens if there is a descriptor for it. -/
theorem Clean.opens {p : Startup} (h : p.Clean) {x : Outcome} {fd : Nat} (hfd : x.socket = some fd) :
    ∃ port, p.openWireSocket x =
      ({ p with wireFd := fd, sockets := (fd, port) :: p.sockets, wireLocalPort := x.sockname.getD 0 }, true) := by
  refine ⟨if p.wireEphemeral then x.ephemeralPort else DefaultWirePort, ?_⟩
  unfold openWireSocket
  rw [hfd]
  dsimp only
  rw [h.free, if_pos (by simp)]

/-- What an attempt does to a clean system. -/
theorem Clean.initializePort {p : Startup} (h : p.Clean) {x : Outcome} (ho : p.offers x = true) (nwid : U64) :
    (p.initializePort nwid x).2 = x.succeeds ∧
      (x.strands = true → (p.initializePort nwid x).1.wireFd ≠ -1) ∧
      (x.succeeds = false → x.strands = false → Restored p (p.initializePort nwid x).1) := by
  have hclean : Clean { p with nwid := nwid, vnet := p.vnet.reset.setEmit } := ⟨h.wireFd, h.node, h.free⟩
  unfold Startup.initializePort
  dsimp only
  cases hfd : x.socket with
  | none =>
    have hopened : ∀ q : Startup, q.openWireSocket x = ({ q with wireFd := -1 }, false) := by
      intro q
      rw [openWireSocket, hfd]
    rw [hopened, Outcome.succeeds, Outcome.strands, hfd]
    exact ⟨rfl, fun hs => (by cases hs), fun _ _ => ⟨rfl, h.node, rfl, rfl⟩⟩
  | some fd =>
    obtain ⟨port, hopened⟩ := hclean.opens hfd
    rw [hopened, Outcome.succeeds, Outcome.strands, hfd]
    cases hr : x.refused with
    | true => exact ⟨rfl, fun _ => (by nofun), fun _ hs => (by cases hs)⟩
    | false =>
      cases hnode : x.node with
      | none =>
        refine ⟨rfl, fun hs => (by cases hs), fun _ _ => ⟨rfl, rfl, ?_, rfl⟩⟩
        show List.filter (fun k => (k.1 : Int) != fd) ((fd, port) :: p.sockets) = p.sockets
        rw [List.filter_cons_of_neg (by simp), close_opened ho hfd]
      | some node =>
        by_cases hj : x.join = 0
        · simp [hj]
        · simp [hj]

/-- The attempt fails without a trace, or succeeds; and it succeeds if it would on a clean
system. -/
def atomic (p : Startup) (nwid : U64) (x : Outcome) : Bool :=
  ((p.initializePort nwid x).2 || decide (Restored p (p.initializePort nwid x).1)) &&
    (!x.succeeds || (p.initializePort nwid x).2)

theorem Clean.atomic_iff {p : Startup} (h : p.Clean) {x : Outcome} (ho : p.offers x = true) (nwid : U64) :
    p.atomic nwid x = true ↔ x.strands = false := by
  obtain ⟨hok, hstrands, hrestored⟩ := h.initializePort ho nwid
  unfold atomic
  rw [hok]
  cases hs : x.succeeds with
  | true => simp [Outcome.strands_of_succeeds hs]
  | false =>
    simp only [Bool.false_or, Bool.not_false, Bool.true_or, Bool.and_true, decide_eq_true_eq]
    cases ht : x.strands with
    | true => exact iff_of_false (fun hr => hstrands ht hr.1) (by decide)
    | false => exact iff_of_true (hrestored hs ht) rfl

end Startup

/-! ### Attempt after attempt -/

/-- The loop of `NodeThreadMain`. -/
structure Starting where
  startup : Startup
  initialized : Bool

namespace Starting

/-- An attempt, unless one has succeeded. -/
def step (nwid : U64) (s : Starting) (x : Outcome) : Option Starting :=
  if s.initialized || !s.startup.offers x then none
  else some ⟨(s.startup.initializePort nwid x).1, (s.startup.initializePort nwid x).2⟩

def attempts (nwid : U64) : System Starting Outcome := ⟨step nwid⟩

theorem step_some {nwid : U64} {s t : Starting} {x : Outcome} (ht : s.step nwid x = some t) :
    s.startup.offers x = true ∧ t.initialized = (s.startup.initializePort nwid x).2 ∧
      t.startup = (s.startup.initializePort nwid x).1 := by
  unfold step at ht
  split at ht
  · cases ht
  · rename_i hgo
    rw [Bool.or_eq_true, not_or] at hgo
    cases ht
    exact ⟨by simpa using hgo.2, rfl, rfl⟩

/-- Once the port is up no attempt follows. -/
theorem run_initialized {nwid : U64} {s t : Starting} (hs : s.initialized = true) {xs : List Outcome}
    (hr : (attempts nwid).run s xs = some t) : xs = [] := by
  cases xs with
  | nil => rfl
  | cons x xs =>
    obtain ⟨u, hu, -⟩ := Option.bind_eq_some_iff.mp hr
    have hu : s.step nwid x = some u := hu
    rw [step, hs, Bool.true_or, if_pos rfl] at hu
    cases hu

/-- **From a clean system, every attempt that fails leaves no descriptor, no node and nothing
open, and every one whose calls succeed succeeds, exactly when none of them is stranded
between the binding of its socket and its end.** -/
theorem initialize_atomic_iff {nwid : U64} {s t : Starting} (hs : s.startup.Clean) {xs : List Outcome}
    (hr : (attempts nwid).run s xs = some t) :
    (attempts nwid).meets (fun s x => s.startup.atomic nwid x) s xs = true ↔ ∀ x ∈ xs, x.strands = false := by
  induction xs generalizing s with
  | nil => exact iff_of_true rfl fun x hx => absurd hx List.not_mem_nil
  | cons x xs ih =>
    obtain ⟨u, hu, hrest⟩ := Option.bind_eq_some_iff.mp hr
    obtain ⟨hoffers, hinit, hstartup⟩ := step_some hu
    rw [System.meets, Bool.and_eq_true, hs.atomic_iff hoffers, hu, Option.all_some, List.forall_mem_cons]
    refine and_congr_right fun hx => ?_
    cases hok : u.initialized with
    | true =>
      obtain rfl := run_initialized hok hrest
      exact iff_of_true rfl fun x hx => absurd hx List.not_mem_nil
    | false =>
      refine ih (hs.restored ?_) hrest
      rw [hstartup]
      obtain ⟨hsucceeds, -, hrestored⟩ := hs.initializePort hoffers nwid
      exact hrestored (hsucceeds.symm.trans (hinit.symm.trans hok)) hx

/-- The process has started. -/
def fresh : Starting := ⟨⟨0, VNet.fresh, -1, 0, false, none, 0, false, 0, [], []⟩, false⟩

/-- A descriptor and a node, of an arena that is large enough or not. -/
def outcome (fd : Nat) (largest : Nat) : Outcome := ⟨some fd, 0, some 9993, some largest, some fd, 0, true, 0⟩

/-- There is no socket at first. -/
theorem initialize_atomic_late :
    ∃ t, (attempts 1).run fresh [{ outcome 3 NodeAllocLowWater with socket := none }, outcome 3 NodeAllocLowWater] =
        some t ∧ t.initialized = true ∧
      ((attempts 1).meets (fun s x => s.startup.atomic 1 x) fresh
          [{ outcome 3 NodeAllocLowWater with socket := none }, outcome 3 NodeAllocLowWater] = true ↔
        ∀ x ∈ [{ outcome 3 NodeAllocLowWater with socket := none }, outcome 3 NodeAllocLowWater],
          x.strands = false) := by
  obtain ⟨t, ht, hp⟩ := (Option.any_eq_true (fun t : Starting => t.initialized) _).mp
    (by decide : ((attempts 1).run fresh
      [{ outcome 3 NodeAllocLowWater with socket := none }, outcome 3 NodeAllocLowWater]).any _ = true)
  exact ⟨t, ht, hp, initialize_atomic_iff ⟨rfl, rfl, rfl⟩ ht⟩

/-- An attempt refused for want of memory keeps its socket, and the next one cannot bind. -/
theorem refused_attempt_blocks :
    ¬∀ (nwid : U64) (s t : Starting) (xs : List Outcome), s.startup.Clean → (attempts nwid).run s xs = some t →
      (attempts nwid).meets (fun s x => s.startup.atomic nwid x) s xs = true := by
  intro h
  obtain ⟨t, ht, -⟩ := (Option.any_eq_true (fun t : Starting => !t.initialized) _).mp
    (by decide : ((attempts 1).run fresh [outcome 3 0, outcome 4 NodeAllocLowWater]).any _ = true)
  exact absurd (h 1 fresh t _ ⟨rfl, rfl, rfl⟩ ht) (by decide)

end Starting

end SysZerotier.Port
