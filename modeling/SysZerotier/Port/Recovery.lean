import SysZerotier.Port.Uplink
import SysZerotier.Library.Breaker

/-! Recovery of the wire socket.

`m_wireRecovering`, `m_wireRecoveryConfirmed` and `m_wireBackoffMs` are a circuit breaker:
`PAUSE` trips it, a failed reopening is a retry, and what is sent or received on an open
socket succeeds (`exec_moves`). After a `PAUSE` both sockets are closed, so whatever is open
was opened since (`Fresh`), and the breaker stays down until something succeeds there. -/
namespace SysZerotier.Port
open Net Library

namespace Uplink

/-! ### The breaker -/

def wireBackoff : Backoff ℕ := .doubling 2000 BackoffMaxMs (by decide)

theorem nextBackoffMs_eq (ms : Nat) : nextBackoffMs ms = wireBackoff.grow ms := by
  simp only [nextBackoffMs, wireBackoff, Backoff.doubling, min_def]
  split_ifs <;> omega

def breaker (u : Uplink) : Breaker ℕ where
  phase := if !u.wireRecovering then .working else if u.wireRecoveryConfirmed then .proven else .down
  wait := u.wireBackoffMs

/-- A recovery is confirmed only while there is one. -/
def Coherent (u : Uplink) : Prop := u.wireRecoveryConfirmed = true → u.wireRecovering = true

/-- What a call does to the breaker. -/
def moves (u : Uplink) : Call → List Breaker.Event
  | .maintainWireSocket now o =>
    .reset ::
      if u.mustPause then [.trip]
      else if u.resumed.wireFd < 0 ∧ u.resumed.wireReopenAtMs ≤ now ∧ (u.resumed.openWireSocket o).2 = false then
        [.retry]
      else []
  | c => if (u.hears c).isSome then [.succeed] else []

/-- `v` is coherent, and its breaker is that of `u` after the events. -/
structure Moves (u : Uplink) (es : List Breaker.Event) (v : Uplink) : Prop where
  coherent : v.Coherent
  breaker : v.breaker = u.breaker.after wireBackoff es

theorem Moves.trans {u v w : Uplink} {es fs : List Breaker.Event} (h : Moves u es v) (h' : Moves v fs w) :
    Moves u (es ++ fs) w :=
  ⟨h'.coherent, by rw [h'.breaker, h.breaker, Breaker.after, Breaker.after, Breaker.after, List.foldl_append]⟩

theorem Moves.still {u v : Uplink} (h : u.Coherent) (hrecovering : v.wireRecovering = u.wireRecovering)
    (hconfirmed : v.wireRecoveryConfirmed = u.wireRecoveryConfirmed)
    (hbackoff : v.wireBackoffMs = u.wireBackoffMs) : Moves u [] v := by
  refine ⟨?_, ?_⟩
  · rw [Coherent, hrecovering, hconfirmed]
    exact h
  · simp [Uplink.breaker, hrecovering, hconfirmed, hbackoff]

variable {u : Uplink}

/-- `openWireSocket` leaves no socket, or one that was just bound. -/
theorem openWireSocket_cases (u : Uplink) (o : WireOpening) :
    (∃ fd < 0, u.openWireSocket o = ({ u with wireFd := fd }, false)) ∨
      0 ≤ o.fd ∧ u.openWireSocket o =
        ({ u with wireFd := o.fd, socketsBound := u.socketsBound + 1, wireSocket := u.socketsBound }, true) := by
  by_cases hfd : o.fd < 0
  · exact .inl ⟨o.fd, hfd, by simp [openWireSocket, hfd]⟩
  · by_cases hbound : o.bound (if u.wireEphemeral then 0 else DefaultWirePort) = true
    · exact .inr ⟨not_lt.mp hfd, by rw [openWireSocket, if_neg hfd, if_pos hbound]⟩
    · exact .inl ⟨-1, by decide, by rw [openWireSocket, if_neg hfd, if_neg hbound]⟩

theorem openWireSocket_moves (h : u.Coherent) (o : WireOpening) : Moves u [] (u.openWireSocket o).1 := by
  obtain ⟨fd, -, heq⟩ | ⟨-, heq⟩ := u.openWireSocket_cases o
  · rw [heq]
    exact .still h rfl rfl rfl
  · rw [heq]
    exact .still h rfl rfl rfl

theorem maintainNatWire_moves (h : u.Coherent) (nowMs fd : Int) (bound : Bool) (endpoint : NatEndpoint) :
    Moves u [] (u.maintainNatWire nowMs fd bound endpoint) := by
  simp only [maintainNatWire]
  split_ifs <;> exact .still h rfl rfl rfl

theorem received_moves (h : u.Coherent) : Moves u [.succeed] u.received := by
  cases hr : u.wireRecovering with
  | false =>
    have hc : u.wireRecoveryConfirmed = false := by
      rw [← Bool.not_eq_true]
      exact fun hc => absurd ((h hc).symm.trans hr) (by decide)
    constructor <;> simp [Coherent, breaker, received, Breaker.next, hr, hc]
  | true =>
    refine ⟨fun _ => hr, ?_⟩
    cases hc : u.wireRecoveryConfirmed <;> simp [breaker, received, Breaker.next, hr, hc]

theorem resumed_moves (h : u.Coherent) : Moves u [.reset] u.resumed := by
  unfold resumed
  split
  · rename_i hc
    exact ⟨nofun, by simp [breaker, Breaker.next, hc, h hc, wireBackoff, Backoff.doubling]⟩
  · rename_i hc
    exact ⟨h, by cases hr : u.wireRecovering <;> simp [breaker, Breaker.next, hc, hr]⟩

theorem pause_moves (u : Uplink) (now : Int) : Moves u [.trip] (u.pause now) := by
  cases hr : u.wireRecovering with
  | false =>
    exact ⟨nofun, by simp [breaker, pause, closeNatWire, Breaker.next, hr, nextBackoffMs_eq, wireBackoff,
      Backoff.doubling]⟩
  | true =>
    refine ⟨nofun, ?_⟩
    cases hc : u.wireRecoveryConfirmed <;>
      simp [breaker, pause, closeNatWire, Breaker.next, hr, hc, nextBackoffMs_eq]

theorem reopened_moves (h : u.Coherent) (now : Int) (o : WireOpening) :
    Moves u (if (u.openWireSocket o).2 then [] else [.retry]) (u.reopened now o) := by
  have hopened := openWireSocket_moves h o
  simp only [reopened]
  split
  · exact hopened.trans (.still hopened.coherent rfl rfl rfl)
  · refine ⟨hopened.coherent, ?_⟩
    have hbreaker : (u.openWireSocket o).1.breaker = u.breaker := hopened.breaker
    rw [Breaker.after_cons, Breaker.after_nil, ← hbreaker]
    simp [breaker, Breaker.next, nextBackoffMs_eq]

/-- Whatever an attempt to open the socket keeps, waking up keeps. -/
theorem woken_keeps {P : Uplink → Prop} (hopen : ∀ v o, P v → P (v.openWireSocket o).1) (hu : P u)
    (attempts : List WireOpening) : P (u.woken attempts) := by
  refine List.foldlRecOn (attempts.take 31) _ hu fun v hv o _ => ?_
  split
  · exact hopen v o hv
  · exact hv

theorem handleSleep_moves (h : u.Coherent) (attempts : List WireOpening) :
    Moves u [] (u.handleSleep attempts) := by
  simp only [handleSleep]
  refine woken_keeps (fun v o hv => hv.trans (openWireSocket_moves hv.coherent o)) ?_ attempts
  split
  · exact .still h rfl rfl rfl
  · exact .still h rfl rfl rfl

theorem maintainWireSocket_pause (hpause : u.mustPause = true) (now : Int) (o : WireOpening) :
    u.maintainWireSocket now o = u.resumed.pause now := by
  rw [mustPause, Bool.and_eq_true, Bool.not_eq_true', Bool.not_eq_true', decide_eq_false_iff_not] at hpause
  rw [maintainWireSocket, if_neg hpause.1, if_neg]
  rintro ⟨hstreak, hhup⟩
  simp [hstreak, hhup] at hpause

theorem maintainWireSocket_moves (h : u.Coherent) (now : Int) (o : WireOpening) :
    Moves u (u.moves (.maintainWireSocket now o)) (u.maintainWireSocket now o) := by
  have hresumed := resumed_moves h
  by_cases hfd : u.resumed.wireFd < 0
  · by_cases hnow : now < u.resumed.wireReopenAtMs
    · simpa [moves, maintainWireSocket, mustPause, hfd, hnow, not_le.mpr hnow] using hresumed
    · have hreopened := hresumed.trans (reopened_moves hresumed.coherent now o)
      cases hopened : (u.resumed.openWireSocket o).2 <;>
        simpa [moves, maintainWireSocket, mustPause, hfd, hnow, not_lt.mp hnow, hopened] using hreopened
  · cases hpause : u.mustPause with
    | false =>
      have hquiet : u.resumed.wireFailStreak < FailStreakMax ∧ u.resumed.wireHup = false := by
        simpa [mustPause, hfd] using hpause
      simpa [moves, maintainWireSocket, hfd, hpause, hquiet] using hresumed
    | true =>
      rw [maintainWireSocket_pause hpause]
      simpa [moves, hpause] using hresumed.trans (pause_moves u.resumed now)

/-- What a call of the run loop does to the breaker. -/
theorem exec_moves (h : u.Coherent) (c : Call) : Moves u (u.moves c) (u.exec c) := by
  cases c with
  | maintainWireSocket now o => exact maintainWireSocket_moves h now o
  | maintainNatWire nowMs fd bound endpoint => exact maintainNatWire_moves h nowMs fd bound endpoint
  | handleSleep attempts => exact handleSleep_moves h attempts
  | pollMapped hangup | pollWire hangup =>
    simp only [exec]
    split
    · exact .still h rfl rfl rfl
    · exact .still h rfl rfl rfl
  | receiveMapped n | receiveWire n =>
    simp only [exec, moves, hears]
    split
    · exact received_moves h
    · exact .still h rfl rfl rfl

theorem cbWireSend_moves (h : u.Coherent) (localSocket : Int) (inet delivered : Bool) :
    Moves u (if (u.delivers localSocket inet delivered).isSome then [.succeed] else [])
      (u.cbWireSend localSocket inet delivered).1 := by
  simp only [delivers, cbWireSend]
  split_ifs <;> first
    | exact .still h rfl rfl rfl
    | exact (received_moves h).trans (.still (received_moves h).coherent rfl rfl rfl)
    | contradiction

/-! ### The open sockets -/

/-- The sockets that are open were opened when `mark` others had been. -/
structure Fresh (mark : Nat) (u : Uplink) : Prop where
  bound : mark ≤ u.socketsBound
  wire : 0 ≤ u.wireFd → mark ≤ u.wireSocket
  mapped : 0 ≤ u.mappedFd → mark ≤ u.mappedSocket

variable {mark : Nat} {now : Int}

theorem Fresh.same {v : Uplink} (h : Fresh mark u) (hbound : v.socketsBound = u.socketsBound)
    (hfd : v.wireFd = u.wireFd) (hwire : v.wireSocket = u.wireSocket) (hmappedFd : v.mappedFd = u.mappedFd)
    (hmapped : v.mappedSocket = u.mappedSocket) : Fresh mark v :=
  ⟨hbound ▸ h.bound, by rw [hfd, hwire]; exact h.wire, by rw [hmappedFd, hmapped]; exact h.mapped⟩

theorem Fresh.closeNatWire (h : Fresh mark u) : Fresh mark u.closeNatWire :=
  ⟨h.bound, h.wire, fun hfd => absurd hfd (show ¬(0 : Int) ≤ -1 by decide)⟩

theorem Fresh.closeWire (h : Fresh mark u) (fd : Int) (hfd : fd < 0) : Fresh mark { u with wireFd := fd } :=
  ⟨h.bound, fun hopen => absurd hfd (not_lt.mpr hopen), h.mapped⟩

theorem Fresh.openWireSocket (h : Fresh mark u) (o : WireOpening) : Fresh mark (u.openWireSocket o).1 := by
  obtain ⟨fd, hfd, heq⟩ | ⟨-, heq⟩ := u.openWireSocket_cases o
  · rw [heq]
    exact h.closeWire fd hfd
  · rw [heq]
    exact ⟨h.bound.trans (Nat.le_succ _), fun _ => h.bound, h.mapped⟩

theorem Fresh.maintainNatWire (h : Fresh mark u) (nowMs fd : Int) (bound : Bool) (endpoint : NatEndpoint) :
    Fresh mark (u.maintainNatWire nowMs fd bound endpoint) := by
  simp only [Uplink.maintainNatWire]
  split_ifs with henabled hfd hopened
  · exact h
  · exact h.closeNatWire
  · exact ⟨h.bound.trans (Nat.le_succ _), fun hwire => h.wire (by simpa using hwire), fun _ => h.bound⟩
  · refine ⟨h.bound, fun hwire => h.wire (by simpa using hwire), fun hmapped => h.mapped ?_⟩
    simpa [NatWire.opened_mappedFd hopened] using hmapped

theorem Fresh.handleSleep (h : Fresh mark u) (attempts : List WireOpening) :
    Fresh mark (u.handleSleep attempts) := by
  simp only [Uplink.handleSleep]
  refine woken_keeps (fun v o hv => hv.openWireSocket o) ?_ attempts
  split
  · exact (h.closeNatWire.closeWire (-1) (by decide)).same rfl rfl rfl rfl rfl
  · exact h.closeNatWire

theorem Fresh.resumed (h : Fresh mark u) : Fresh mark u.resumed := by
  unfold Uplink.resumed
  split
  · exact h.same rfl rfl rfl rfl rfl
  · exact h

/-- A `PAUSE` leaves no socket open. -/
theorem pause_sockets (u : Uplink) (now : Int) :
    (u.pause now).socketsBound = u.socketsBound ∧ (u.pause now).wireFd = -1 ∧ (u.pause now).mappedFd = -1 := by
  simp only [pause]
  split <;> exact ⟨rfl, rfl, rfl⟩

theorem pause_fresh (hbound : mark ≤ (u.pause now).socketsBound) : Fresh mark (u.pause now) := by
  obtain ⟨-, hwire, hmapped⟩ := u.pause_sockets now
  exact ⟨hbound, by simp [hwire], by simp [hmapped]⟩

theorem Fresh.maintainWireSocket (h : Fresh mark u) (now : Int) (o : WireOpening) :
    Fresh mark (u.maintainWireSocket now o) := by
  simp only [Uplink.maintainWireSocket]
  split_ifs
  · exact h.resumed
  · simp only [reopened]
    split
    · exact (h.resumed.openWireSocket o).same rfl rfl rfl rfl rfl
    · exact (h.resumed.openWireSocket o).same rfl rfl rfl rfl rfl
  · exact h.resumed
  · exact pause_fresh ((u.resumed.pause_sockets now).1 ▸ h.resumed.bound)

theorem Fresh.exec (h : Fresh mark u) (c : Call) : Fresh mark (u.exec c) := by
  cases c with
  | maintainWireSocket now o => exact h.maintainWireSocket now o
  | maintainNatWire nowMs fd bound endpoint => exact h.maintainNatWire nowMs fd bound endpoint
  | handleSleep attempts => exact h.handleSleep attempts
  | pollMapped hangup =>
    simp only [Uplink.exec]
    split
    · exact h.closeNatWire
    · exact h
  | pollWire hangup | receiveMapped n | receiveWire n =>
    simp only [Uplink.exec]
    split
    · exact h.same rfl rfl rfl rfl rfl
    · exact h

theorem Fresh.cbWireSend (h : Fresh mark u) (localSocket : Int) (inet delivered : Bool) :
    Fresh mark (u.cbWireSend localSocket inet delivered).1 := by
  simp only [Uplink.cbWireSend]
  split_ifs <;> exact h.same rfl rfl rfl rfl rfl

/-- What is received, is received on an open socket. -/
theorem Fresh.hears (h : Fresh mark u) {c : Call} {socket : Nat} (hears : u.hears c = some socket) :
    mark ≤ socket := by
  cases c with
  | receiveMapped n =>
    obtain ⟨⟨hfd, -⟩, ⟨⟩⟩ := Option.ite_none_right_eq_some.mp hears
    exact h.mapped hfd
  | receiveWire n =>
    obtain ⟨⟨hfd, -⟩, ⟨⟩⟩ := Option.ite_none_right_eq_some.mp hears
    exact h.wire hfd
  | _ => cases hears

/-- What is sent, is sent on an open socket. -/
theorem Fresh.delivers (h : Fresh mark u) {localSocket : Int} {inet delivered : Bool} {socket : Nat}
    (hdelivers : u.delivers localSocket inet delivered = some socket) : mark ≤ socket := by
  obtain ⟨hsent, ⟨⟩⟩ := Option.ite_none_right_eq_some.mp hdelivers
  simp only [Uplink.cbWireSend] at hsent
  split_ifs at hsent with hfd hmapped
  · cases hsent
  · cases hsent
  · cases hsent
  · rw [not_and_or, not_or, not_lt, not_lt] at hmapped
    split
    · rename_i hlocal
      exact h.mapped (hmapped.resolve_left (not_le.mpr hlocal)).2
    · exact h.wire (not_lt.mp hfd)
  · cases hsent
  · cases hsent

end Uplink

/-! ### The queue -/

/-- The node thread is not passing frames, and the frames passed are these. -/
structure Held (passed : List PassedFrame) (s : Port) : Prop where
  pc : s.pc ≠ .draining false
  passed : s.passed = passed

theorem Held.step {passed : List PassedFrame} {s t : Port} {e : Event} (h : Held passed s) (he : e ≠ .drain)
    (hstep : s.step e = some t) : Held passed t := by
  cases e with
  | drain => exact absurd rfl he
  | call | unlock | wire =>
    simp only [Port.step] at hstep
    split at hstep
    · cases hstep <;> exact ⟨h.pc, h.passed⟩
    · cases hstep <;> exact ⟨h.pc, h.passed⟩
  | emit =>
    simp only [Port.step] at hstep
    split at hstep
    · rename_i f rest _
      obtain ⟨queue, heq⟩ := cbEmit_stores s f
      cases hstep
      rw [heq]
      exact ⟨h.pc, h.passed⟩
    · cases hstep
  | virtualFrame nwid srcMac dstMac etherType payload =>
    simp only [Port.step] at hstep
    split_ifs at hstep
    · cases hstep
      exact h
    · obtain ⟨queue, heq⟩ := nodeCall_stores s (s.vnet.onFrame srcMac dstMac etherType payload)
      rw [heq] at hstep
      cases hstep
      exact ⟨h.pc, h.passed⟩
  | probe dstIp =>
    simp only [Port.step] at hstep
    split_ifs at hstep
    obtain ⟨queue, heq⟩ := nodeCall_stores s ((s.vnet.sendEchoRequest dstIp).1, (s.vnet.sendEchoRequest dstIp).2.1)
    rw [heq] at hstep
    cases hstep
    exact ⟨h.pc, h.passed⟩
  | networkConfig nwid op conf =>
    simp only [Port.step, Port.networkConfig] at hstep
    split_ifs at hstep <;> cases hstep <;> exact ⟨h.pc, h.passed⟩
  | switchNetwork nwid =>
    simp only [Port.step] at hstep
    split_ifs at hstep
    · cases hstep
      exact h
    · cases hstep
      exact ⟨nofun, h.passed⟩
  | destroy conf =>
    simp only [Port.step, Port.networkConfig, true_or, if_true] at hstep
    split at hstep
    · split at hstep
      · cases hstep
      · cases hstep
        exact ⟨nofun, h.passed⟩
    · cases hstep
  | leaveFailed | left | joinOk | joinFailed | restoreOk | restoreFailed =>
    simp only [Port.step] at hstep
    split at hstep
    · cases hstep
      exact ⟨nofun, h.passed⟩
    · cases hstep
  | drainNext =>
    simp only [Port.step] at hstep
    split at hstep
    · rename_i paused hpc
      have hpaused : paused = true := by
        rw [← Bool.not_eq_false]
        exact fun hfalse => h.pc (hfalse ▸ hpc)
      split at hstep
      · cases hstep
        exact ⟨nofun, h.passed⟩
      · cases hstep
        exact ⟨h.pc, by simp [hpaused, h.passed]⟩
    · cases hstep

theorem recovering_of_down {u : Uplink} (h : u.breaker.phase = .down) : u.wireRecovering = true := by
  cases hr : u.wireRecovering with
  | false => simp [Uplink.breaker, hr] at h
  | true => rfl

/-! ### The node loop -/

namespace NodeLoop
variable {s t : NodeLoop} {e : Event}

/-- What an event does to the breaker. -/
def moves (s : NodeLoop) : Event → List Breaker.Event
  | .call c => s.uplink.moves c
  | e => if (s.succeedsOn e).isSome then [.succeed] else []

/-- **The node loop refines the breaker.** -/
theorem step_moves (h : s.uplink.Coherent) (hstep : s.step e = some t) :
    s.uplink.Moves (s.moves e) t.uplink := by
  cases e with
  | call c =>
    obtain ⟨-, ⟨⟩⟩ := Option.ite_none_right_eq_some.mp hstep
    exact Uplink.exec_moves h c
  | cbWireSend localSocket inet delivered =>
    cases hstep
    exact Uplink.cbWireSend_moves h localSocket inet delivered
  | offline =>
    cases hstep
    exact .still h rfl rfl rfl
  | drainOutbound =>
    obtain ⟨port, -, ⟨⟩⟩ := Option.map_eq_some_iff.mp hstep
    exact .still h rfl rfl rfl
  | port e =>
    obtain ⟨-, hport⟩ := Option.ite_none_right_eq_some.mp hstep
    obtain ⟨port, -, ⟨⟩⟩ := Option.map_eq_some_iff.mp hport
    exact .still h rfl rfl rfl

theorem step_fresh {mark : Nat} (h : s.uplink.Fresh mark) (hstep : s.step e = some t) : t.uplink.Fresh mark := by
  cases e with
  | call c =>
    obtain ⟨-, ⟨⟩⟩ := Option.ite_none_right_eq_some.mp hstep
    exact h.exec c
  | cbWireSend localSocket inet delivered =>
    cases hstep
    exact h.cbWireSend localSocket inet delivered
  | offline =>
    cases hstep
    exact h.same rfl rfl rfl rfl rfl
  | drainOutbound =>
    obtain ⟨port, -, ⟨⟩⟩ := Option.map_eq_some_iff.mp hstep
    exact h
  | port e =>
    obtain ⟨-, hport⟩ := Option.ite_none_right_eq_some.mp hstep
    obtain ⟨port, -, ⟨⟩⟩ := Option.map_eq_some_iff.mp hport
    exact h.same rfl rfl rfl rfl rfl

/-- While the wire is recovering, `drainOutbound` discards what it takes. -/
theorem step_held {passed : List PassedFrame} (h : Held passed s.port)
    (hrecovering : s.uplink.wireRecovering = true) (hstep : s.step e = some t) : Held passed t.port := by
  cases e with
  | call c =>
    obtain ⟨-, ⟨⟩⟩ := Option.ite_none_right_eq_some.mp hstep
    exact h
  | cbWireSend localSocket inet delivered =>
    cases hstep
    exact h
  | offline =>
    cases hstep
    exact h
  | drainOutbound =>
    have hpaused : s.uplink.paused = true := by rw [Uplink.paused, hrecovering, Bool.or_true]
    obtain ⟨port, hport, ⟨⟩⟩ := Option.map_eq_some_iff.mp hstep
    obtain ⟨port', hwire, hdrain⟩ := Option.bind_eq_some_iff.mp hport
    obtain ⟨-, ⟨⟩⟩ := Option.ite_none_right_eq_some.mp hwire
    obtain ⟨-, ⟨⟩⟩ := Option.ite_none_right_eq_some.mp hdrain
    exact ⟨by simp [hpaused], h.passed⟩
  | port e =>
    obtain ⟨hadmits, hmap⟩ := Option.ite_none_right_eq_some.mp hstep
    obtain ⟨port, hport, ⟨⟩⟩ := Option.map_eq_some_iff.mp hmap
    exact h.step (fun hdrain => by rw [hdrain] at hadmits; cases hadmits) hport

/-- A recovery is confirmed only while there is one, and the wait is then within its bounds. -/
structure Inv (s : NodeLoop) : Prop where
  coherent : s.uplink.Coherent
  sound : Breaker.Sound Uplink.wireBackoff s.uplink.breaker

theorem keeps_inv : loop.Keeps (fun _ _ => true) Inv := fun s e t h _ hstep => by
  have hmoves := step_moves h.coherent hstep
  exact ⟨hmoves.coherent, hmoves.breaker ▸ h.sound.after (s.moves e)⟩

theorem initialized_inv (nodeAddress : U64) (o : WireOpening) (natEnabled : Bool) (v : VNet) (nwid : U64) :
    Inv (initialized nodeAddress o natEnabled v nwid) := by
  have hopened := Uplink.openWireSocket_moves (u := {}) nofun o
  have hstarted := hopened.trans (v := ((({} : Uplink).openWireSocket o).1))
    (.still hopened.coherent (v := (initialized nodeAddress o natEnabled v nwid).uplink) rfl rfl rfl)
  refine ⟨hstarted.coherent, ?_⟩
  rw [hstarted.breaker]
  exact Breaker.Sound.after (fun hphase => absurd rfl hphase) _

/-- An outage that began when `mark` sockets had been bound, with the frames passed so far. -/
structure Outage (mark floor : Nat) (passed : List PassedFrame) (s : NodeLoop) : Prop where
  coherent : s.uplink.Coherent
  down : Breaker.Outage Uplink.wireBackoff floor s.uplink.breaker
  fresh : s.uplink.Fresh mark
  held : Held passed s.port

variable {mark floor : Nat} {passed : List PassedFrame}

/-- Nothing succeeds on a socket that is open, so nothing is a success to the breaker. -/
theorem Outage.quiet (h : Outage mark floor passed s) (hquiet : quietSince mark s e = true) :
    .succeed ∉ s.moves e := by
  have hnone : s.succeedsOn e = none := by
    cases hon : s.succeedsOn e with
    | none => rfl
    | some socket =>
      rw [quietSince, hon, Option.all_some, decide_eq_true_eq] at hquiet
      have hmark : mark ≤ socket := by
        cases e with
        | call c => exact h.fresh.hears hon
        | cbWireSend localSocket inet delivered => exact h.fresh.delivers hon
        | _ => cases hon
      exact absurd hquiet (not_lt.mpr hmark)
  cases e with
  | call c =>
    cases c with
    | maintainWireSocket now o =>
      simp only [moves, Uplink.moves]
      split_ifs <;> simp
    | _ =>
      simp only [succeedsOn] at hnone
      simp [moves, Uplink.moves, hnone]
  | _ => simp [moves, hnone]

theorem keeps_outage : loop.Keeps (quietSince mark) (Outage mark floor passed) := fun s e t h hquiet hstep => by
  have hmoves := step_moves h.coherent hstep
  exact ⟨hmoves.coherent, hmoves.breaker ▸ h.down.after _ (h.quiet hquiet), step_fresh h.fresh hstep,
    step_held h.held (recovering_of_down h.down.down) hstep⟩

/-- A `PAUSE` begins an outage. -/
theorem outage_of_pause (h : Inv s) (hpause : s.pauses e = true) (hstep : s.step e = some t) :
    Outage t.uplink.socketsBound t.uplink.wireBackoffMs t.port.passed t := by
  cases e with
  | call c =>
    cases c with
    | maintainWireSocket now o =>
      have hmoves := step_moves h.coherent hstep
      have hbreaker : t.uplink.breaker =
          (s.uplink.breaker.next Uplink.wireBackoff .reset).next Uplink.wireBackoff .trip := by
        simpa [moves, Uplink.moves, show s.uplink.mustPause = true from hpause] using hmoves.breaker
      obtain ⟨hpc, ⟨⟩⟩ := Option.ite_none_right_eq_some.mp hstep
      refine ⟨hmoves.coherent, ?_, ?_, ⟨?_, rfl⟩⟩
      · have hdown := (h.sound.next .reset).trip
        rw [← hbreaker] at hdown
        exact hdown
      · show (s.uplink.maintainWireSocket now o).Fresh (s.uplink.maintainWireSocket now o).socketsBound
        rw [Uplink.maintainWireSocket_pause hpause]
        exact Uplink.pause_fresh le_rfl
      · rw [hpc]
        exact nofun
    | _ => cases hpause
  | _ => cases hpause

/-- **Recovery.** In every run, a recovery is confirmed only while there is one. And from a
`PAUSE` on, as long as nothing is sent or received on a socket opened after it: the wire is
recovering, `drainOutbound` has passed no frame to ZeroTier, and the backoff keeps between 2000
and 30000 and never decreases. -/
theorem pause_recovers (nodeAddress : U64) (o : WireOpening) (natEnabled : Bool) (v : VNet) (nwid : U64)
    (before : List Event) (hrun : loop.run (initialized nodeAddress o natEnabled v nwid) before = some s) :
    (s.uplink.wireRecoveryConfirmed = true → s.uplink.wireRecovering = true) ∧
    ∀ e p, s.pauses e = true → loop.step s e = some p →
      ∀ es fs q t, loop.run p es = some q → loop.run q fs = some t →
        loop.meets (quietSince p.uplink.socketsBound) p (es ++ fs) = true →
        t.uplink.wireRecovering = true ∧ t.port.passed = p.port.passed ∧
          2000 ≤ t.uplink.wireBackoffMs ∧ t.uplink.wireBackoffMs ≤ 30000 ∧
          q.uplink.wireBackoffMs ≤ t.uplink.wireBackoffMs := by
  have hstart := initialized_inv nodeAddress o natEnabled v nwid
  have h := keeps_inv.run before hstart (System.meets_true _ before) hrun
  refine ⟨h.coherent, fun e p hpause hstep es fs q t hq ht hquiet => ?_⟩
  rw [System.meets_append es fs hq, Bool.and_eq_true] at hquiet
  have houtage := keeps_outage.run es (outage_of_pause h hpause hstep) hquiet.1 hq
  have hbegun : Outage p.uplink.socketsBound q.uplink.wireBackoffMs p.port.passed q :=
    { houtage with down := houtage.down.since }
  have hended := keeps_outage.run fs hbegun hquiet.2 ht
  exact ⟨recovering_of_down hended.down.down, hended.held.passed, hended.down.least_le, hended.down.le_most,
    hended.down.floor_le⟩

/-- The interface is configured and has a frame in the queue when the eighth send fails. -/
def failing : List Event :=
  let conf : NetworkConfig := ⟨0x020000000001, 1500, [⟨true, 0x0A000001, 24⟩]⟩
  [.port (.networkConfig 1 .up conf), .port (.probe 0x0A000002)] ++ List.replicate 8 (.cbWireSend 0 true false)

/-- The queue is drained, and the socket cannot be opened again. -/
def discarding : List Event :=
  [.drainOutbound, .port .drainNext, .port .drainNext, .call (.maintainWireSocket 2000 ⟨-1, fun _ => false⟩)]

/-- It is opened on an ephemeral port, where every send fails too. -/
def failingAgain : List Event :=
  .call (.maintainWireSocket 6000 ⟨6, fun port => port == 0⟩) ::
    List.replicate 8 (.cbWireSend 0 true false) ++ [.call (.maintainWireSocket 6000 ⟨-1, fun _ => false⟩)]

theorem pause_recovers_twice :
    ∃ s p q t, loop.run (initialized 0 ⟨5, fun _ => true⟩ true VNet.fresh 1) failing = some s ∧
      s.port.queue.head ≠ s.port.queue.tail ∧
      loop.step s (.call (.maintainWireSocket 0 ⟨-1, fun _ => false⟩)) = some p ∧ p.uplink.wireBackoffMs = 2000 ∧
      loop.run p discarding = some q ∧ q.uplink.wireBackoffMs = 4000 ∧
      loop.run q failingAgain = some t ∧ t.uplink.wireBackoffMs = 8000 ∧
      t.uplink.wireRecovering = true ∧ t.port.passed = p.port.passed ∧
      2000 ≤ t.uplink.wireBackoffMs ∧ t.uplink.wireBackoffMs ≤ 30000 ∧
      q.uplink.wireBackoffMs ≤ t.uplink.wireBackoffMs := by
  have hsome : ((loop.run (initialized 0 ⟨5, fun _ => true⟩ true VNet.fresh 1) failing).any fun s =>
      s.port.queue.head != s.port.queue.tail && s.pauses (.call (.maintainWireSocket 0 ⟨-1, fun _ => false⟩)) &&
      (loop.step s (.call (.maintainWireSocket 0 ⟨-1, fun _ => false⟩))).any fun p =>
        p.uplink.wireBackoffMs == 2000 &&
        loop.meets (quietSince p.uplink.socketsBound) p (discarding ++ failingAgain) &&
        (loop.run p discarding).any fun q => q.uplink.wireBackoffMs == 4000 &&
          (loop.run q failingAgain).any fun t => t.uplink.wireBackoffMs == 8000) = true := by
    decide +kernel
  simp only [Option.any_eq_true, Bool.and_eq_true, bne_iff_ne, beq_iff_eq] at hsome
  obtain ⟨s, hs, ⟨hqueue, hpause⟩, p, hp, ⟨hwait, hquiet⟩, q, hq, hwait', t, ht, hwait''⟩ := hsome
  exact ⟨s, p, q, t, hs, hqueue, hp, hwait, hq, hwait', ht, hwait'',
    (pause_recovers 0 ⟨5, fun _ => true⟩ true VNet.fresh 1 failing hs).2 _ p hpause hp discarding failingAgain q t
      hq ht hquiet⟩

end NodeLoop

end SysZerotier.Port
