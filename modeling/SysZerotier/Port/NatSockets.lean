import SysZerotier.Library.Dialogue
import SysZerotier.Net.Bytes

/-! The sockets of the port mapping (`compat/nat/support.c`).

The mapper's HTTP goes through `connecthostport` and `receivedata`. What it is to connect
to comes from the network, and the gateway is the only address that is let through
(`connect_clean`); waiting is in slices, so that it can be cancelled (`receivedata_prompt`). -/
namespace SysZerotier.Port
open Net Library Library.Dialogue

/-- The calls: the mapper's two, and the system's. -/
inductive NatCall where
  | ztnx_nat_cancelled
  | ztnx_nat_gateway
  | socket
  | getFlags (fd : Int)
  | setFlags (fd flags : Int)
  | connect (fd : Int) (address : U32) (port : U16)
  | poll (fd : Int) (events : U32) (milliseconds : Int)
  | soError (fd : Int)
  | rcvTimeo (fd : Int)
  | sndTimeo (fd : Int)
  | recv (fd : Int) (length : Int)
  | close (fd : Int)

/-- The error numbers that are told apart. -/
inductive NatErrno where
  | EINTR
  | EINPROGRESS
  | other
  deriving DecidableEq

/-- What is returned, `errno` after it, and what is stored through a pointer: the events of
a poll, the error of a socket. The gateway is an address. -/
structure NatAnswer where
  rc : Int
  errno : NatErrno
  word : U32

/-- A program of the mapper. -/
abbrev NatCalls := Dialogue NatCall NatAnswer

/-- What the toolchain's headers say. -/
structure SocketFlags where
  POLLIN : U32
  POLLOUT : U32
  /-- `flags | O_NONBLOCK` -/
  nonblocking : Int → Int

/-- The loop of `wait_socket`, at most `fuel` rounds of it; a poll that is interrupted is
repeated, and does not count. -/
def wait_socket (fd : Int) (events : U32) : Nat → Int → NatCalls (Option Int)
  | 0, _ => pure none
  | fuel + 1, milliseconds =>
    if milliseconds ≤ 0 then pure (some 0)
    else do
      let stop ← call .ztnx_nat_cancelled
      if stop.rc ≠ 0 then pure (some 0)
      else
        let slice := if milliseconds < 100 then milliseconds else 100
        let p ← call (.poll fd events slice)
        if p.rc < 0 then
          if p.errno = .EINTR then wait_socket fd events fuel milliseconds else pure (some (-1))
        else if 0 < p.rc then pure (some (if p.word &&& events ≠ 0 then 1 else -1))
        else wait_socket fd events fuel (milliseconds - slice)

/-- `connect`, and the wait for what it began. -/
def connected (k : SocketFlags) (fuel : Nat) (fd : Int) (address : U32) (port : U16) : NatCalls (Option Bool) := do
  let c ← call (.connect fd address port)
  if 0 ≤ c.rc then pure (some true)
  else if c.errno ≠ .EINPROGRESS then pure (some false)
  else do
    match ← wait_socket fd k.POLLOUT fuel 2000 with
    | none => pure none
    | some w =>
      if w ≠ 1 then pure (some false)
      else do
        let e ← call (.soError fd)
        pure (some (decide (0 ≤ e.rc ∧ e.word = 0)))

/-- The flags as they were, and half a second to send and to receive. -/
def settled (fd flags : Int) : NatCalls Bool := do
  let f ← call (.setFlags fd flags)
  if f.rc < 0 then pure false
  else do
    let r ← call (.rcvTimeo fd)
    if r.rc < 0 then pure false
    else do
      let w ← call (.sndTimeo fd)
      pure (decide (0 ≤ w.rc))

/-- What `connecthostport` does with its socket; `false` is a jump to `fail`. -/
def established (k : SocketFlags) (fuel : Nat) (fd : Int) (address : U32) (port : U16) : NatCalls (Option Bool) := do
  let f ← call (.getFlags fd)
  if f.rc < 0 then pure (some false)
  else do
    let n ← call (.setFlags fd (k.nonblocking f.rc))
    if n.rc < 0 then pure (some false)
    else do
      match ← connected k fuel fd address port with
      | none => pure none
      | some false => pure (some false)
      | some true => do
        let done ← settled fd f.rc
        pure (some done)

/-- `host` is what `inet_pton` makes of the host. -/
def connecthostport (k : SocketFlags) (fuel : Nat) (host : Option U32) (port : U16) : NatCalls (Option Int) := do
  let stop ← call .ztnx_nat_cancelled
  if stop.rc ≠ 0 then pure (some (-1))
  else
    match host with
    | none => pure (some (-1))
    | some address => do
      let g ← call .ztnx_nat_gateway
      if address ≠ g.word then pure (some (-1))
      else do
        let s ← call .socket
        if s.rc < 0 then pure (some (-1))
        else do
          match ← established k fuel s.rc address port with
          | none => pure none
          | some true => pure (some s.rc)
          | some false => do
            let _ ← call (.close s.rc)
            pure (some (-1))

def receivedata (k : SocketFlags) (fuel : Nat) (fd length timeout : Int) : NatCalls (Option Int) := do
  match ← wait_socket fd k.POLLIN fuel (if timeout > 2000 then 2000 else timeout) with
  | none => pure none
  | some w =>
    if w ≠ 1 then pure (some (-1))
    else do
      let r ← call (.recv fd length)
      pure (some r.rc)

/-! ### Waiting -/

/-- The rounds of a wait: each asks whether it was cancelled, and is a poll of at most a
tenth of a second if it was not. -/
inductive Polled (fd : Int) (events : U32) : List (NatCall × NatAnswer) → Prop
  | nil : Polled fd events []
  | cancelled {a : NatAnswer} (h : a.rc ≠ 0) : Polled fd events [(.ztnx_nat_cancelled, a)]
  | round {a b : NatAnswer} {slice : Int} {t : List (NatCall × NatAnswer)} (h : a.rc = 0) (hpos : 0 < slice)
      (hmax : slice ≤ 100) (rest : Polled fd events t) :
      Polled fd events ((.ztnx_nat_cancelled, a) :: (.poll fd events slice, b) :: t)

/-- The time that went by in polls that ran out. -/
def idleTime : List (NatCall × NatAnswer) → Int
  | [] => 0
  | (.poll _ _ slice, a) :: t => (if a.rc = 0 then slice else 0) + idleTime t
  | _ :: t => idleTime t

/-- How many polls were interrupted. -/
def interrupted : List (NatCall × NatAnswer) → Nat
  | [] => 0
  | (.poll _ _ _, a) :: t => (if a.rc < 0 ∧ a.errno = .EINTR then 1 else 0) + interrupted t
  | _ :: t => interrupted t

/-- What a wait is. -/
structure Waited (fd : Int) (events : U32) (fuel : Nat) (milliseconds : Int) (t : List (NatCall × NatAnswer))
    (r : Option Int) : Prop where
  polled : Polled fd events t
  idle : 0 < milliseconds → idleTime t ≤ milliseconds
  skipped : milliseconds ≤ 0 → t = []
  ready : r = some 1 → ∃ slice a, t.getLast? = some (.poll fd events slice, a) ∧ 0 < a.rc ∧ a.word &&& events ≠ 0
  /-- Interruptions apart, the rounds are enough. -/
  ends : r = none → fuel ≤ interrupted t + milliseconds.toNat

/-- A round in front of the rest of a wait. -/
theorem Waited.round {fd : Int} {events : U32} {fuel : Nat} {milliseconds slice rest : Int} {stop p : NatAnswer}
    {t : List (NatCall × NatAnswer)} {r : Option Int} (h : Waited fd events fuel rest t r) (hstop : stop.rc = 0)
    (hpos : 0 < slice) (hmax : slice ≤ 100) (hslice : slice ≤ milliseconds)
    (hrest : p.rc = 0 ∧ rest = milliseconds - slice ∨ p.rc < 0 ∧ p.errno = .EINTR ∧ rest = milliseconds) :
    Waited fd events (fuel + 1) milliseconds ((.ztnx_nat_cancelled, stop) :: (.poll fd events slice, p) :: t) r := by
  refine ⟨.round hstop hpos hmax h.polled, fun _ => ?_, fun hnone => by omega, fun hready => ?_, fun hr => ?_⟩
  · show (if p.rc = 0 then slice else 0) + idleTime t ≤ milliseconds
    have hidle := h.idle
    have hnone := h.skipped
    rcases hrest with ⟨hout, rfl⟩ | ⟨hearly, -, rfl⟩
    · rw [if_pos hout]
      by_cases hover : milliseconds - slice ≤ 0
      · rw [hnone hover, idleTime]
        omega
      · have := hidle (by omega)
        omega
    · rw [if_neg (by omega)]
      have := hidle (by omega)
      omega
  · obtain ⟨s, a, hlast, hfacts⟩ := h.ready hready
    refine ⟨s, a, ?_, hfacts⟩
    rw [List.getLast?_cons, List.getLast?_cons, hlast]
    rfl
  · have hends := h.ends hr
    show fuel + 1 ≤ (if p.rc < 0 ∧ p.errno = .EINTR then 1 else 0) + interrupted t + milliseconds.toNat
    rcases hrest with ⟨-, rfl⟩ | ⟨hearly, hintr, rfl⟩
    · omega
    · rw [if_pos ⟨hearly, hintr⟩]
      omega

theorem wait_socket_ensures (fd : Int) (events : U32) (fuel : Nat) (milliseconds : Int) :
    Ensures (wait_socket fd events fuel milliseconds) (Waited fd events fuel milliseconds) := by
  induction fuel generalizing milliseconds with
  | zero => exact ensures_pure ⟨.nil, fun h => h.le, fun _ => rfl, (fun h => by cases h), fun _ => Nat.zero_le _⟩
  | succ fuel ih =>
    rw [wait_socket]
    refine ensures_ite (fun hdone => ?_) fun hleft => ensures_call fun stop => ?_
    · exact ensures_pure ⟨.nil, fun h => h.le, fun _ => rfl, (fun h => by cases h), fun h => by cases h⟩
    · refine ensures_ite (fun hstop => ?_) fun hgo => ensures_call fun p => ?_
      · exact ensures_pure ⟨.cancelled hstop, fun h => h.le, fun h => absurd h hleft, (fun h => by cases h),
          fun h => by cases h⟩
      · rw [not_ne_iff] at hgo
        have hslice : 0 < (if milliseconds < 100 then milliseconds else 100) ∧
            (if milliseconds < 100 then milliseconds else 100) ≤ 100 ∧
            (if milliseconds < 100 then milliseconds else 100) ≤ milliseconds := by
          split <;> omega
        generalize (if milliseconds < 100 then milliseconds else 100) = slice at hslice ⊢
        obtain ⟨hpos, hmax, hle⟩ := hslice
        -- what a poll that ends the wait leaves
        have hend : ∀ r : Int, p.rc ≠ 0 → (r = 1 → 0 < p.rc ∧ p.word &&& events ≠ 0) →
            Waited fd events (fuel + 1) milliseconds [(.ztnx_nat_cancelled, stop), (.poll fd events slice, p)]
              (some r) := by
          intro r hrc hr
          refine ⟨.round hgo hpos hmax .nil, fun _ => ?_, fun hnone => by omega, fun hready => ?_, fun h => by cases h⟩
          · show (if p.rc = 0 then slice else 0) + 0 ≤ milliseconds
            rw [if_neg hrc]
            omega
          · exact ⟨slice, p, rfl, hr (Option.some.inj hready)⟩
        refine ensures_ite (fun hfailed => ensures_ite (fun hintr => ?_) fun hother => ?_) fun hok =>
          ensures_ite (fun hready => ?_) fun hout => ?_
        · exact (ih milliseconds).mono fun t r h => h.round hgo hpos hmax hle (.inr ⟨hfailed, hintr, rfl⟩)
        · exact ensures_pure (hend (-1) (by omega) fun h => by cases h)
        · refine ensures_pure (hend _ (by omega) fun h => ⟨hready, fun hnone => ?_⟩)
          rw [if_neg (not_ne_iff.mpr hnone)] at h
          cases h
        · exact (ih (milliseconds - slice)).mono fun t r h => h.round hgo hpos hmax hle (.inl ⟨by omega, rfl⟩)

/-! ### Connecting -/

/-- A call on the socket, of the ones between its opening and its return. -/
def OnSocket (fd : Int) (address : U32) (port : U16) : NatCall → Prop
  | .ztnx_nat_cancelled => True
  | .getFlags fd' => fd' = fd
  | .setFlags fd' _ => fd' = fd
  | .connect fd' address' port' => fd' = fd ∧ address' = address ∧ port' = port
  | .poll fd' _ _ => fd' = fd
  | .soError fd' => fd' = fd
  | .rcvTimeo fd' => fd' = fd
  | .sndTimeo fd' => fd' = fd
  | _ => False

/-- Whether the run says that the socket is connected. -/
def Reached (fd : Int) (address : U32) (port : U16) (t : List (NatCall × NatAnswer)) : Prop :=
  (∃ c, (.connect fd address port, c) ∈ t ∧ 0 ≤ c.rc) ∨ ∃ e, (.soError fd, e) ∈ t ∧ 0 ≤ e.rc ∧ e.word = 0

theorem Polled.onSocket {fd : Int} {events : U32} {t : List (NatCall × NatAnswer)} (h : Polled fd events t)
    (address : U32) (port : U16) : ∀ e ∈ t, OnSocket fd address port e.1 := by
  induction h with
  | nil => simp
  | cancelled => simp [OnSocket]
  | round _ _ _ _ ih =>
    intro e he
    rcases List.mem_cons.mp he with rfl | he
    · trivial
    · rcases List.mem_cons.mp he with rfl | he
      · rfl
      · exact ih e he

theorem connected_ensures (k : SocketFlags) (fuel : Nat) (fd : Int) (address : U32) (port : U16) :
    Ensures (connected k fuel fd address port) fun t r =>
      (∀ e ∈ t, OnSocket fd address port e.1) ∧ (r = some true → Reached fd address port t) ∧
        (r = none → fuel ≤ interrupted t + 2000) := by
  have hconnect : ∀ c : NatAnswer, OnSocket fd address port (NatCall.connect fd address port, c).1 :=
    fun _ => ⟨rfl, rfl, rfl⟩
  rw [connected]
  refine ensures_call fun c => ensures_ite (fun hok => ensures_pure ⟨?_, fun _ => ?_, fun h => by cases h⟩) fun hfailed =>
    ensures_ite (fun hother => ensures_pure ⟨?_, (fun h => by cases h), fun h => by cases h⟩) fun hbegun =>
      ensures_bind (wait_socket_ensures fd k.POLLOUT fuel 2000) fun t r hwait => ?_
  · exact List.forall_mem_singleton.mpr (hconnect c)
  · exact .inl ⟨c, List.mem_singleton_self _, hok⟩
  · exact List.forall_mem_singleton.mpr (hconnect c)
  · have hon := hwait.polled.onSocket address port
    cases r with
    | none =>
      refine ensures_pure ?_
      rw [List.append_nil]
      exact ⟨List.forall_mem_cons.mpr ⟨hconnect c, hon⟩, (fun h => by cases h), fun _ => hwait.ends rfl⟩
    | some w =>
      refine ensures_ite (fun hnot => ensures_pure ⟨?_, (fun h => by cases h), fun h => by cases h⟩) fun hready =>
        ensures_call fun e => ensures_pure ⟨?_, (fun h => .inr ?_), fun h => by cases h⟩
      · rw [List.append_nil]
        exact List.forall_mem_cons.mpr ⟨hconnect c, hon⟩
      · refine List.forall_mem_cons.mpr ⟨hconnect c, List.forall_mem_append.mpr ⟨hon, ?_⟩⟩
        exact List.forall_mem_singleton.mpr rfl
      · have hdone := of_decide_eq_true (Option.some.inj h)
        exact ⟨e, List.mem_cons_of_mem _ (List.mem_append_right _ (List.mem_singleton_self _)), hdone⟩

/-- The last three calls of a connection that is handed out. -/
def Settled (fd flags : Int) (t : List (NatCall × NatAnswer)) : Prop :=
  ∃ f r w, t = [(.setFlags fd flags, f), (.rcvTimeo fd, r), (.sndTimeo fd, w)] ∧ 0 ≤ f.rc ∧ 0 ≤ r.rc ∧ 0 ≤ w.rc

theorem settled_ensures (fd flags : Int) (address : U32) (port : U16) :
    Ensures (settled fd flags) fun t r =>
      (∀ e ∈ t, OnSocket fd address port e.1) ∧ (r = true → Settled fd flags t) := by
  rw [settled]
  refine ensures_call fun f => ensures_ite (fun hf => ensures_pure ⟨by simp [OnSocket], fun h => by cases h⟩) fun hf =>
    ensures_call fun r => ensures_ite (fun hr => ensures_pure ⟨by simp [OnSocket], fun h => by cases h⟩) fun hr =>
      ensures_call fun w => ensures_pure ⟨by simp [OnSocket], fun h => ?_⟩
  exact ⟨f, r, w, rfl, not_lt.mp hf, not_lt.mp hr, of_decide_eq_true h⟩

/-- A connection as it is handed out: reached, and with the flags it was opened with. -/
def Ready (fd : Int) (address : U32) (port : U16) (t : List (NatCall × NatAnswer)) : Prop :=
  ∃ before last flags, t = before ++ last ∧ (.getFlags fd, flags) ∈ before ∧ Reached fd address port before ∧
    Settled fd flags.rc last

theorem established_ensures (k : SocketFlags) (fuel : Nat) (fd : Int) (address : U32) (port : U16) :
    Ensures (established k fuel fd address port) fun t r =>
      (∀ e ∈ t, OnSocket fd address port e.1) ∧ (r = some true → Ready fd address port t) ∧
        (r = none → fuel ≤ interrupted t + 2000) := by
  rw [established]
  refine ensures_call fun f => ensures_ite
      (fun hf => ensures_pure ⟨by simp [OnSocket], (fun h => by cases h), fun h => by cases h⟩) fun hf =>
    ensures_call fun n => ensures_ite
      (fun hn => ensures_pure ⟨by simp [OnSocket], (fun h => by cases h), fun h => by cases h⟩) fun hn =>
    ensures_bind (connected_ensures k fuel fd address port) fun t r ⟨hon, hreached, hends⟩ => ?_
  have hfirst : ∀ t' : List (NatCall × NatAnswer), (∀ e ∈ t', OnSocket fd address port e.1) →
      ∀ e ∈ (.getFlags fd, f) :: (.setFlags fd (k.nonblocking f.rc), n) :: t', OnSocket fd address port e.1 :=
    fun t' h => List.forall_mem_cons.mpr ⟨rfl, List.forall_mem_cons.mpr ⟨rfl, h⟩⟩
  match r, hreached, hends with
  | none, _, hends =>
    refine ensures_pure ?_
    rw [List.append_nil]
    exact ⟨hfirst t hon, (fun h => by cases h), fun _ => hends rfl⟩
  | some false, _, _ =>
    refine ensures_pure ?_
    rw [List.append_nil]
    exact ⟨hfirst t hon, (fun h => by cases h), fun h => by cases h⟩
  | some true, hreached, _ =>
    refine ensures_bind (settled_ensures fd f.rc address port) fun t' done ⟨hon', hsettled⟩ => ensures_pure ?_
    rw [List.append_nil]
    refine ⟨hfirst _ (List.forall_mem_append.mpr ⟨hon, hon'⟩), fun hdone => ?_, fun h => by cases h⟩
    refine ⟨(.getFlags fd, f) :: (.setFlags fd (k.nonblocking f.rc), n) :: t, t', f, rfl, List.mem_cons_self, ?_,
      hsettled (Option.some.inj hdone)⟩
    rcases hreached rfl with ⟨c, hc, hok⟩ | ⟨e, he, hok⟩
    · exact .inl ⟨c, List.mem_cons_of_mem _ (List.mem_cons_of_mem _ hc), hok⟩
    · exact .inr ⟨e, List.mem_cons_of_mem _ (List.mem_cons_of_mem _ he), hok⟩

/-- The sockets that a run leaves open, besides those that were. -/
def held (fds : List Int) : List (NatCall × NatAnswer) → List Int
  | [] => fds
  | (.socket, a) :: t => held (if a.rc < 0 then fds else a.rc :: fds) t
  | (.close fd, _) :: t => held (fds.erase fd) t
  | _ :: t => held fds t

theorem held_onSocket {fd : Int} {address : U32} {port : U16} {t : List (NatCall × NatAnswer)}
    (h : ∀ e ∈ t, OnSocket fd address port e.1) (fds : List Int) (rest : List (NatCall × NatAnswer)) :
    held fds (t ++ rest) = held fds rest := by
  induction t with
  | nil => rfl
  | cons e t ih =>
    obtain ⟨he, ht⟩ := List.forall_mem_cons.mp h
    obtain ⟨c, a⟩ := e
    have hrest := ih ht
    cases c <;> first | exact absurd he id | exact hrest

/-- What there is to say of a run that connects. -/
structure Clean (fuel : Nat) (host : Option U32) (port : U16) (t : List (NatCall × NatAnswer)) (r : Option Int) : Prop where
  refused : ∀ ret, r = some ret → ret < 0 → held [] t = []
  accepted : ∀ ret, r = some ret → 0 ≤ ret → held [] t = [ret] ∧ ∃ address, host = some address ∧
    ∃ before during, t = before ++ during ∧ Ready ret address port during
  gateway : ∀ fd address port' a, (.connect fd address port', a) ∈ t →
    host = some address ∧ port' = port ∧ ∃ g, (.ztnx_nat_gateway, g) ∈ t ∧ g.word = address
  /-- Interruptions apart, it comes to an end. -/
  ends : r = none → fuel ≤ interrupted t + 2000

/-- Nothing is opened, and nothing is connected to. -/
theorem clean_early {fuel : Nat} {host : Option U32} {port : U16} {t : List (NatCall × NatAnswer)}
    (hheld : held [] t = []) (hnone : ∀ e ∈ t, ∀ fd address port', e.1 ≠ .connect fd address port') :
    Clean fuel host port t (some (-1)) := by
  refine ⟨fun ret hret _ => hheld, fun ret hret hpos => ?_, 
    (fun fd address port' a h => absurd rfl (hnone _ h _ _ _)), fun h => by cases h⟩
  obtain rfl := Option.some.inj hret
  exact absurd hpos (by decide)

/-- **Connecting is clean.** Whatever the system answers: a connection that is handed out is
the one socket that was opened, it has been reached, and its flags are what they were; when none
is handed out, none is left open; nothing but the gateway is ever connected to; and it comes to
an end, unless polls are interrupted without end. -/
theorem connect_clean (k : SocketFlags) (fuel : Nat) (host : Option U32) (port : U16) :
    Ensures (connecthostport k fuel host port) (Clean fuel host port) := by
  unfold connecthostport
  refine ensures_call fun stop => ensures_ite (fun hstop => ensures_pure (clean_early rfl (by simp))) fun hgo => ?_
  cases host with
  | none => exact ensures_pure (clean_early rfl (by simp))
  | some address =>
    refine ensures_call fun g => ensures_ite (fun hother => ensures_pure (clean_early rfl (by simp))) fun hsame =>
      ensures_call fun s => ensures_ite (fun hfailed => ensures_pure (clean_early ?_ (by simp))) fun hopened =>
        ensures_bind (established_ensures k fuel s.rc address port) fun t r ⟨hon, hready, hends⟩ => ?_
    · exact if_pos hfailed
    rw [not_ne_iff] at hsame
    -- a call on the socket connects to the gateway
    have hgateway : ∀ rest, (∀ e ∈ rest, ∀ fd address' port', e.1 ≠ NatCall.connect fd address' port') →
        ∀ fd address' port' a, (NatCall.connect fd address' port', a) ∈
          (.ztnx_nat_cancelled, stop) :: (.ztnx_nat_gateway, g) :: (.socket, s) :: (t ++ rest) →
        some address = some address' ∧ port' = port ∧ ∃ g', (NatCall.ztnx_nat_gateway, g') ∈
          (.ztnx_nat_cancelled, stop) :: (.ztnx_nat_gateway, g) :: (.socket, s) :: (t ++ rest) ∧ g'.word = address' := by
      intro rest hrest fd address' port' a h
      simp only [List.mem_cons, List.mem_append, Prod.mk.injEq, reduceCtorEq, false_and, false_or] at h
      rcases h with h | h
      · obtain ⟨-, rfl, rfl⟩ := hon _ h
        exact ⟨rfl, rfl, g, List.mem_cons_of_mem _ List.mem_cons_self, hsame.symm⟩
      · exact absurd rfl (hrest _ h _ _ _)
    have hheld : ∀ rest, held [] ((.ztnx_nat_cancelled, stop) :: (.ztnx_nat_gateway, g) :: (.socket, s) ::
        (t ++ rest)) = held [s.rc] rest := by
      intro rest
      show held (if s.rc < 0 then [] else [s.rc]) (t ++ rest) = _
      rw [if_neg hopened, held_onSocket hon]
    match r, hready, hends with
    | none, _, hends =>
      refine ensures_pure ⟨(fun ret hret => by cases hret), (fun ret hret => by cases hret), hgateway [] (by simp),
        fun _ => ?_⟩
      rw [List.append_nil]
      exact hends rfl
    | some false, _, _ =>
      refine ensures_call fun c => ensures_pure ⟨fun ret hret _ => ?_, fun ret hret hpos => ?_, hgateway _ (by simp),
        fun h => by cases h⟩
      · rw [hheld]
        exact List.erase_cons_head s.rc []
      · obtain rfl := Option.some.inj hret
        exact absurd hpos (by decide)
    | some true, hready, _ =>
      refine ensures_pure ⟨fun ret hret hneg => ?_, fun ret hret hpos => ⟨?_, address, rfl, ?_⟩, hgateway [] (by simp),
        fun h => by cases h⟩
      · obtain rfl := Option.some.inj hret
        exact absurd hneg hopened
      · obtain rfl := Option.some.inj hret
        exact hheld []
      · obtain rfl := Option.some.inj hret
        refine ⟨[(.ztnx_nat_cancelled, stop), (.ztnx_nat_gateway, g), (.socket, s)], t, ?_, hready rfl⟩
        rw [List.append_nil]
        rfl

/-! ### Receiving -/

/-- What there is to say of a run that receives: a wait, and then one `recv` of a socket that
has been reported to be readable, or none. -/
structure Prompt (POLLIN : U32) (fuel : Nat) (fd length timeout : Int) (wait last : List (NatCall × NatAnswer))
    (r : Option Int) : Prop where
  polled : Polled fd POLLIN wait
  idle : 0 < timeout → idleTime wait ≤ min timeout 2000
  skipped : timeout ≤ 0 → wait = []
  received : last ≠ [] → ∃ slice p d, wait.getLast? = some (.poll fd POLLIN slice, p) ∧ 0 < p.rc ∧
    p.word &&& POLLIN ≠ 0 ∧ last = [(.recv fd length, d)] ∧ r = some d.rc
  nothing : last = [] → r = some (-1) ∨ r = none ∧ fuel ≤ interrupted wait + 2000

/-- **Receiving is prompt.** Whatever the system answers, a tenth of a second at most goes by
between two questions whether it was cancelled, and not more than the timeout or two seconds in
all, interruptions apart; a cancelled wait receives nothing, and `recv` is called only when the
socket is readable. -/
theorem receivedata_prompt (k : SocketFlags) (fuel : Nat) (fd length timeout : Int) :
    Ensures (receivedata k fuel fd length timeout) fun t r =>
      ∃ wait last, t = wait ++ last ∧ Prompt k.POLLIN fuel fd length timeout wait last r := by
  rw [receivedata]
  refine ensures_bind (wait_socket_ensures fd k.POLLIN fuel _) fun wait w h => ?_
  have hidle : 0 < timeout → idleTime wait ≤ min timeout 2000 := by
    intro hpos
    have hle := h.idle (by split <;> omega)
    split at hle <;> omega
  have hskipped : timeout ≤ 0 → wait = [] := fun hnone => h.skipped (by rw [if_neg (by omega)]; exact hnone)
  cases w with
  | none =>
    refine ensures_pure ⟨wait, [], rfl, h.polled, hidle, hskipped, fun hsome => absurd rfl hsome, fun _ => .inr ⟨rfl, ?_⟩⟩
    have hends := h.ends rfl
    split at hends <;> omega
  | some w =>
    refine ensures_ite (fun hnot => ensures_pure ?_) fun hready => ensures_call fun d => ensures_pure ?_
    · exact ⟨wait, [], rfl, h.polled, hidle, hskipped, fun hsome => absurd rfl hsome, fun _ => .inl rfl⟩
    · rw [not_ne_iff] at hready
      obtain ⟨slice, p, hlast, hrc, hevents⟩ := h.ready (congrArg some hready)
      exact ⟨wait, [(.recv fd length, d)], rfl, h.polled, hidle, hskipped,
        fun _ => ⟨slice, p, d, hlast, hrc, hevents, rfl, rfl⟩, fun hnil => by cases hnil⟩

end SysZerotier.Port
