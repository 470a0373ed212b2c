import SysZerotier.Port.Recovery

/-! A wire socket on which every send fails.

`m_wireFailStreak` counts the failed sends of the wire socket alone, but a send on the
mapped socket sets it back too, and so does a recovery that is found confirmed. While
neither happens, the streak is at least the number of sends that have failed since the
last one that did not, and a socket of which eight sends fail in that time, with no other
between them, is closed by the next call of `maintainWireSocket`
(`dead_socket_recycled`). -/
namespace SysZerotier.Port
open Net Library

namespace Uplink

/-! ### The streak between two sends -/

/-- From `u` to `v` the wire socket stays, or is another, or is closed; one that stays loses
nothing of its streak if nothing is forgotten. -/
structure Continues (kept : Prop) (u v : Uplink) : Prop where
  bound : u.socketsBound ≤ v.socketsBound
  wire : 0 ≤ v.wireFd → u.socketsBound ≤ v.wireSocket ∨
    0 ≤ u.wireFd ∧ v.wireSocket = u.wireSocket ∧ (kept → u.wireFailStreak ≤ v.wireFailStreak)
  bounded : (0 ≤ u.wireFd → u.wireSocket < u.socketsBound) → 0 ≤ v.wireFd → v.wireSocket < v.socketsBound

variable {kept : Prop} {u v w : Uplink}

theorem Continues.same (hfd : v.wireFd = u.wireFd) (hsocket : v.wireSocket = u.wireSocket)
    (hbound : u.socketsBound ≤ v.socketsBound) (hstreak : kept → u.wireFailStreak ≤ v.wireFailStreak) :
    Continues kept u v := by
  refine ⟨hbound, fun hopen => .inr ⟨hfd ▸ hopen, hsocket, hstreak⟩, fun hu hopen => ?_⟩
  rw [hsocket]
  exact (hu (hfd ▸ hopen)).trans_le hbound

theorem Continues.closed (hbound : u.socketsBound ≤ v.socketsBound) (hfd : v.wireFd < 0) :
    Continues kept u v :=
  ⟨hbound, fun hopen => absurd hopen (not_le.mpr hfd), fun _ hopen => absurd hopen (not_le.mpr hfd)⟩

theorem Continues.trans (h : Continues kept u v) (h' : Continues kept v w) : Continues kept u w := by
  refine ⟨h.bound.trans h'.bound, fun hopen => ?_, fun hu => h'.bounded (h.bounded hu)⟩
  rcases h'.wire hopen with hnew | ⟨hv, hsocket, hstreak⟩
  · exact .inl (h.bound.trans hnew)
  · rcases h.wire hv with hnew | ⟨hu, hsame, hless⟩
    · exact .inl (hsocket ▸ hnew)
    · exact .inr ⟨hu, hsocket.trans hsame, fun hkept => (hless hkept).trans (hstreak hkept)⟩

theorem openWireSocket_continues (u : Uplink) (o : WireOpening) :
    Continues kept u (u.openWireSocket o).1 := by
  obtain ⟨fd, hfd, heq⟩ | ⟨-, heq⟩ := u.openWireSocket_cases o
  · rw [heq]
    exact .closed (Nat.le_refl _) hfd
  · rw [heq]
    exact ⟨Nat.le_succ _, fun _ => .inl (Nat.le_refl _), fun _ _ => Nat.lt_succ_self _⟩

theorem maintainNatWire_continues (u : Uplink) (nowMs fd : Int) (bound : Bool) (endpoint : NatEndpoint) :
    Continues kept u (u.maintainNatWire nowMs fd bound endpoint) := by
  simp only [maintainNatWire]
  split_ifs with henabled hfd hopened
  · exact .same rfl rfl (Nat.le_refl _) fun _ => Nat.le_refl _
  · exact .same rfl rfl (Nat.le_refl _) fun _ => Nat.le_refl _
  · exact .same (by simp) rfl (Nat.le_succ _) fun _ => Nat.le_refl _
  · exact .same (by simp) rfl (Nat.le_refl _) fun _ => Nat.le_refl _

theorem handleSleep_continues (u : Uplink) (attempts : List WireOpening) :
    Continues kept u (u.handleSleep attempts) := by
  simp only [handleSleep]
  refine woken_keeps (fun v o hv => hv.trans (openWireSocket_continues v o)) ?_ attempts
  split
  · exact .closed (Nat.le_refl _) (show (-1 : Int) < 0 by decide)
  · exact .same rfl rfl (Nat.le_refl _) fun _ => Nat.le_refl _

theorem reopened_continues (u : Uplink) (now : Int) (o : WireOpening) :
    Continues kept u (u.reopened now o) := by
  obtain ⟨fd, hfd, heq⟩ | ⟨-, heq⟩ := u.openWireSocket_cases o
  · simp only [reopened, heq]
    exact .closed (Nat.le_refl _) hfd
  · simp only [reopened, heq]
    exact ⟨Nat.le_succ _, fun _ => .inl (Nat.le_refl _), fun _ _ => Nat.lt_succ_self _⟩

/-- The call finds a recovery confirmed, and the socket open with a streak. -/
def resumesStreak (u : Uplink) : Bool :=
  decide (0 ≤ u.wireFd) && u.wireRecoveryConfirmed && decide (u.wireFailStreak ≠ 0)

theorem resumed_continues (h : kept → u.resumesStreak = false) : Continues kept u u.resumed := by
  unfold resumed
  split
  · rename_i hconfirmed
    by_cases hopen : 0 ≤ u.wireFd
    · have hzero : kept → u.wireFailStreak = 0 := by simpa [resumesStreak, hopen, hconfirmed] using h
      exact .same rfl rfl (Nat.le_refl _) fun hkept => (hzero hkept).le
    · exact .closed (Nat.le_refl _) (not_le.mp hopen)
  · exact .same rfl rfl (Nat.le_refl _) fun _ => Nat.le_refl _

theorem maintainWireSocket_continues (h : kept → u.resumesStreak = false) (now : Int) (o : WireOpening) :
    Continues kept u (u.maintainWireSocket now o) := by
  have hresumed := resumed_continues h
  simp only [maintainWireSocket]
  split_ifs
  · exact hresumed
  · exact hresumed.trans (reopened_continues _ now o)
  · exact hresumed
  · obtain ⟨hbound, hfd, -⟩ := u.resumed.pause_sockets now
    exact .closed (hresumed.bound.trans hbound.ge) (by rw [hfd]; decide)

/-- A socket with a streak of eight is closed. -/
theorem maintainWireSocket_closes (hopen : 0 ≤ u.wireFd) (hstreak : FailStreakMax ≤ u.wireFailStreak)
    (h : u.resumesStreak = false) (now : Int) (o : WireOpening) : (u.maintainWireSocket now o).wireFd < 0 := by
  have hstreak' : u.wireFailStreak ≠ 0 := by
    unfold FailStreakMax at hstreak
    omega
  have hsame : u.resumed = u := by
    unfold resumed
    rw [if_neg]
    intro hconfirmed
    simp [resumesStreak, hopen, hconfirmed, hstreak'] at h
  have hdead : ¬(u.wireFailStreak < FailStreakMax ∧ (!u.wireHup) = true) := fun hless =>
    absurd hless.1 (not_lt.mpr hstreak)
  rw [maintainWireSocket, hsame, if_neg (not_lt.mpr hopen), if_neg hdead, (u.pause_sockets now).2.1]
  decide

/-- A call of the run loop forgets only if it resumes with a streak. -/
theorem exec_continues (c : Call) (h : kept → ∀ now o, c = .maintainWireSocket now o → u.resumesStreak = false) :
    Continues kept u (u.exec c) := by
  cases c with
  | maintainWireSocket now o => exact maintainWireSocket_continues (fun hkept => h hkept now o rfl) now o
  | maintainNatWire nowMs fd bound endpoint => exact maintainNatWire_continues u nowMs fd bound endpoint
  | handleSleep attempts => exact handleSleep_continues u attempts
  | pollMapped hangup | pollWire hangup | receiveMapped n | receiveWire n =>
    simp only [exec]
    split
    · exact .same rfl rfl (Nat.le_refl _) fun _ => Nat.le_refl _
    · exact .same rfl rfl (Nat.le_refl _) fun _ => Nat.le_refl _

end Uplink

/-! ### The sends on the wire socket -/

/-- The node loop, and for each send on the wire socket, newest first, the socket and
whether it took the packet. -/
structure Sends where
  loop : NodeLoop
  sent : List (Nat × Bool)

namespace Sends
open NodeLoop

/-- What the callback sends on the wire socket. -/
def sentOn (s : NodeLoop) : NodeLoop.Event → Option (Nat × Bool)
  | .cbWireSend localSocket inet delivered =>
    if 0 ≤ s.uplink.wireFd ∧ localSocket ≤ 0 ∧ inet then some (s.uplink.wireSocket, delivered) else none
  | _ => none

def step (s : Sends) (e : NodeLoop.Event) : Option Sends :=
  (s.loop.step e).map fun t => ⟨t, (sentOn s.loop e).toList ++ s.sent⟩

def sending : System Sends NodeLoop.Event := ⟨step⟩

/-- The sends on the socket that is open, newest first. -/
def own (s : Sends) : List Bool :=
  (s.sent.filter fun x => x.1 == s.loop.uplink.wireSocket).map Prod.snd

/-- The socket is open, and the last eight sends on it have failed. -/
def Dead (s : Sends) : Prop := 0 ≤ s.loop.uplink.wireFd ∧ List.replicate 8 false <+: s.own

instance (s : Sends) : Decidable s.Dead := inferInstanceAs (Decidable (_ ∧ _))

/-- The event sets a streak back, other than by a send on the wire socket. -/
def forgets (s : NodeLoop) : NodeLoop.Event → Bool
  | .cbWireSend localSocket inet delivered =>
    decide (0 < localSocket) && (s.uplink.delivers localSocket inet delivered).isSome &&
      decide (s.uplink.wireFailStreak ≠ 0)
  | .call (.maintainWireSocket _ _) => s.uplink.resumesStreak
  | _ => false

/-- The condition on a step. -/
def remembers (s : Sends) (e : NodeLoop.Event) : Bool := !forgets s.loop e

def initialized (nodeAddress : U64) (o : WireOpening) (natEnabled : Bool) (v : VNet) (nwid : U64) : Sends :=
  ⟨NodeLoop.initialized nodeAddress o natEnabled v nwid, []⟩

/-- What is known of the sends, and of the streak if nothing was forgotten. -/
structure Inv (kept : Prop) (s : Sends) : Prop where
  bounded : 0 ≤ s.loop.uplink.wireFd → s.loop.uplink.wireSocket < s.loop.uplink.socketsBound
  known : ∀ x ∈ s.sent, x.1 < s.loop.uplink.socketsBound
  counted : kept → 0 ≤ s.loop.uplink.wireFd → ∀ k, List.replicate k false <+: s.own →
    k ≤ s.loop.uplink.wireFailStreak

variable {kept : Prop}

/-- Before anything is sent. -/
theorem Inv.unsent {l : NodeLoop} (hbounded : 0 ≤ l.uplink.wireFd → l.uplink.wireSocket < l.uplink.socketsBound) :
    Inv kept ⟨l, []⟩ := by
  refine ⟨hbounded, fun _ hx => absurd hx List.not_mem_nil, fun _ _ k hk => ?_⟩
  rw [show own ⟨l, []⟩ = [] from rfl, List.prefix_nil, List.replicate_eq_nil_iff] at hk
  rw [hk]
  exact Nat.zero_le _

/-- Between two sends the streak keeps up with the failures. -/
theorem Inv.continues {s : Sends} (h : Inv kept s) {l : NodeLoop}
    (hc : Uplink.Continues kept s.loop.uplink l.uplink) : Inv kept ⟨l, s.sent⟩ := by
  refine ⟨hc.bounded h.bounded, fun x hx => (h.known x hx).trans_le hc.bound, fun hkept hopen k hk => ?_⟩
  rcases hc.wire hopen with hnew | ⟨hold, hsocket, hstreak⟩
  · have hnone : own ⟨l, s.sent⟩ = [] := by
      rw [own, List.filter_eq_nil_iff.mpr, List.map_nil]
      intro x hx
      have hless := (h.known x hx).trans_le hnew
      simpa using hless.ne
    rw [hnone, List.prefix_nil, List.replicate_eq_nil_iff] at hk
    rw [hk]
    exact Nat.zero_le _
  · have hsame : own ⟨l, s.sent⟩ = s.own := by
      rw [own, own, hsocket]
    rw [hsame] at hk
    exact (h.counted hkept hold k hk).trans (hstreak hkept)

/-- A send on the wire socket is counted. -/
theorem Inv.counts {s : Sends} (h : Inv kept s) (hopen : 0 ≤ s.loop.uplink.wireFd) (delivered : Bool) {l : NodeLoop}
    (hsocket : l.uplink.wireSocket = s.loop.uplink.wireSocket)
    (hbound : l.uplink.socketsBound = s.loop.uplink.socketsBound)
    (hstreak : l.uplink.wireFailStreak = if delivered then 0 else s.loop.uplink.wireFailStreak + 1) :
    Inv kept ⟨l, (s.loop.uplink.wireSocket, delivered) :: s.sent⟩ := by
  have hown : own ⟨l, (s.loop.uplink.wireSocket, delivered) :: s.sent⟩ = delivered :: s.own := by
    rw [own, own, hsocket, List.filter_cons_of_pos (by simp), List.map_cons]
  refine ⟨fun _ => ?_, fun x hx => ?_, fun hkept _ k hk => ?_⟩
  · rw [hsocket, hbound]
    exact h.bounded hopen
  · rw [hbound]
    rcases List.mem_cons.mp hx with rfl | hold
    · exact h.bounded hopen
    · exact h.known x hold
  · rw [hown] at hk
    rw [hstreak]
    cases k with
    | zero => exact Nat.zero_le _
    | succ k =>
      rw [List.replicate_succ, List.cons_prefix_cons] at hk
      obtain ⟨rfl, hrest⟩ := hk
      exact Nat.succ_le_succ (h.counted hkept hopen k hrest)

theorem Inv.cbWireSend {s : Sends} (h : Inv kept s) (localSocket : Int) (inet delivered : Bool)
    (hkeep : kept → forgets s.loop (.cbWireSend localSocket inet delivered) = false) :
    Inv kept ⟨{ s.loop with uplink := (s.loop.uplink.cbWireSend localSocket inet delivered).1 },
      (sentOn s.loop (.cbWireSend localSocket inet delivered)).toList ++ s.sent⟩ := by
  have hstill : Uplink.Continues kept s.loop.uplink s.loop.uplink :=
    .same rfl rfl (Nat.le_refl _) fun _ => Nat.le_refl _
  rw [forgets, Uplink.delivers] at hkeep
  rw [sentOn]
  rw [Uplink.cbWireSend] at hkeep ⊢
  by_cases hclosed : s.loop.uplink.wireFd < 0
  · rw [if_pos hclosed, if_neg (fun hsent => absurd hsent.1 (not_le.mpr hclosed))]
    exact h.continues hstill
  · have hopen := not_lt.mp hclosed
    rw [if_neg hclosed] at hkeep ⊢
    by_cases hstale : 0 < localSocket ∧ (localSocket ≠ s.loop.uplink.mappedSocketId ∨ s.loop.uplink.mappedFd < 0)
    · rw [if_pos hstale, if_neg (fun hsent => absurd hsent.2.1 (not_le.mpr hstale.1))]
      exact h.continues hstill
    · rw [if_neg hstale] at hkeep ⊢
      cases inet with
      | false =>
        rw [if_pos (show (!false) = true from rfl), if_neg (fun hsent => Bool.false_ne_true hsent.2.2)]
        exact h.continues hstill
      | true =>
        rw [if_neg (show ¬(!true) = true by decide)] at hkeep ⊢
        by_cases hmapped : 0 < localSocket
        · have hnone : ¬(0 ≤ s.loop.uplink.wireFd ∧ localSocket ≤ 0 ∧ true = true) :=
            fun hsent => absurd hsent.2.1 (not_le.mpr hmapped)
          rw [if_neg hnone]
          cases delivered with
          | true =>
            have hzero : kept → s.loop.uplink.wireFailStreak = 0 := by simpa [hmapped] using hkeep
            exact h.continues (l := { s.loop with uplink := _ })
              (.same rfl rfl (Nat.le_refl _) fun hkept => (hzero hkept).le)
          | false =>
            exact h.continues (l := { s.loop with uplink := _ })
              (.same rfl rfl (Nat.le_refl _) fun _ => by simp [hmapped])
        · have hsent : 0 ≤ s.loop.uplink.wireFd ∧ localSocket ≤ 0 ∧ true = true := ⟨hopen, not_lt.mp hmapped, rfl⟩
          rw [if_pos hsent]
          cases delivered with
          | true => exact h.counts (l := { s.loop with uplink := _ }) hopen true rfl rfl rfl
          | false => exact h.counts (l := { s.loop with uplink := _ }) hopen false rfl rfl (by simp [hmapped])

theorem Inv.step {s t : Sends} {e : NodeLoop.Event} (hs : Inv kept s)
    (hkeep : kept → remembers s e = true) (hstep : sending.step s e = some t) : Inv kept t := by
  obtain ⟨l, hl, rfl⟩ := Option.map_eq_some_iff.mp hstep
  simp only [remembers, Bool.not_eq_true'] at hkeep
  cases e with
  | call c =>
    obtain ⟨-, ⟨⟩⟩ := Option.ite_none_right_eq_some.mp hl
    refine hs.continues (Uplink.exec_continues c ?_)
    rintro hkept now o rfl
    exact hkeep hkept
  | cbWireSend localSocket inet delivered =>
    cases hl
    exact hs.cbWireSend localSocket inet delivered hkeep
  | offline =>
    cases hl
    exact hs.continues (.same rfl rfl (Nat.le_refl _) fun _ => Nat.le_refl _)
  | drainOutbound =>
    obtain ⟨port, -, rfl⟩ := Option.map_eq_some_iff.mp hl
    exact hs.continues (.same rfl rfl (Nat.le_refl _) fun _ => Nat.le_refl _)
  | port e =>
    obtain ⟨-, hport⟩ := Option.ite_none_right_eq_some.mp hl
    obtain ⟨port, -, rfl⟩ := Option.map_eq_some_iff.mp hport
    exact hs.continues (.same rfl rfl (Nat.le_refl _) fun _ => Nat.le_refl _)

theorem initialized_inv (nodeAddress : U64) (o : WireOpening) (natEnabled : Bool) (v : VNet) (nwid : U64) :
    Inv kept (initialized nodeAddress o natEnabled v nwid) := by
  have hopened : Uplink.Continues kept {} (({} : Uplink).openWireSocket o).1 := Uplink.openWireSocket_continues {} o
  exact .unsent (hopened.bounded (fun hopen => absurd hopen (show ¬(0 : Int) ≤ -1 by decide)))

/-! ### The sends of a part of a run -/

/-- What a run records comes before what was recorded. -/
theorem run_recent (es : List NodeLoop.Event) {l : NodeLoop} {old : List (Nat × Bool)} {s : Sends}
    (h : sending.run ⟨l, old⟩ es = some s) :
    ∃ recent, s.sent = recent ++ old ∧ sending.run ⟨l, []⟩ es = some ⟨s.loop, recent⟩ := by
  induction es using List.reverseRecOn generalizing s with
  | nil =>
    cases h
    exact ⟨[], rfl, rfl⟩
  | append_singleton es e ih =>
    rw [System.run_append] at h
    obtain ⟨u, hu, hlast⟩ := Option.bind_eq_some_iff.mp h
    obtain ⟨t, ht, hend⟩ := Option.bind_eq_some_iff.mp hlast
    cases hend
    obtain ⟨recent, hsent, hrun⟩ := ih hu
    obtain ⟨m, hm, rfl⟩ := Option.map_eq_some_iff.mp ht
    refine ⟨(sentOn u.loop e).toList ++ recent, ?_, System.run_snoc hrun ?_⟩
    · show (sentOn u.loop e).toList ++ u.sent = _
      rw [hsent, List.append_assoc]
    · show (u.loop.step e).map _ = _
      rw [hm]
      rfl

/-- The condition is one on the loop. -/
theorem meets_recent (es : List NodeLoop.Event) (l : NodeLoop) (old old' : List (Nat × Bool)) :
    sending.meets remembers ⟨l, old⟩ es = sending.meets remembers ⟨l, old'⟩ es := by
  induction es generalizing l old old' with
  | nil => rfl
  | cons e es ih =>
    rw [System.meets, System.meets]
    cases hstep : l.step e with
    | none => simp [remembers, sending, step, hstep]
    | some m =>
      simp only [remembers, sending, step, hstep, Option.map_some, Option.all_some]
      exact congrArg _ (ih m _ _)

/-- Of the sends on the socket that is open the last eight fail, and they come after `old`. -/
theorem recent_dead {s : Sends} {recent old : List (Nat × Bool)} (hsent : s.sent = recent ++ old)
    (hdead : s.Dead) (hrecent : (own ⟨s.loop, old⟩).length + 8 ≤ s.own.length) :
    List.replicate 8 false <+: own ⟨s.loop, recent⟩ := by
  have hown : s.own = own ⟨s.loop, recent⟩ ++ own ⟨s.loop, old⟩ := by
    rw [own, own, own, hsent, List.filter_append, List.map_append]
  have hprefix := hdead.2
  rw [hown] at hprefix
  refine List.prefix_of_prefix_length_le hprefix (List.prefix_append ..) ?_
  rw [hown, List.length_append] at hrecent
  rw [List.length_replicate]
  omega

/-- **A dead wire socket is closed.** Whatever came before, when at least eight sends on the
wire socket have followed, the last eight of them failed, and nothing but a successful send
on the wire socket has set a streak back since, a call of `maintainWireSocket` that finds
the socket open closes it. -/
theorem dead_socket_recycled (nodeAddress : U64) (o : WireOpening) (natEnabled : Bool) (v : VNet) (nwid : U64)
    (before after : List NodeLoop.Event) (now : Int) (reopening : WireOpening) {r s t : Sends}
    (hbefore : sending.run (initialized nodeAddress o natEnabled v nwid) before = some r)
    (hafter : sending.run r after = some s)
    (hstep : sending.step s (.call (.maintainWireSocket now reopening)) = some t)
    (hmeets : sending.meets remembers r (after ++ [.call (.maintainWireSocket now reopening)]) = true)
    (hdead : s.Dead) (hrecent : (own ⟨s.loop, r.sent⟩).length + 8 ≤ s.own.length) : t.loop.uplink.wireFd < 0 := by
  have hkeeps : sending.Keeps (fun _ _ => true) (Inv False) := fun s e t hs _ hstep => hs.step False.elim hstep
  have hreached : Inv False r := hkeeps.run before (initialized_inv nodeAddress o natEnabled v nwid)
    (System.meets_true _ before) hbefore
  obtain ⟨recent, hsent, hrun⟩ := run_recent after hafter
  rw [meets_recent _ r.loop r.sent [], System.meets_append after _ hrun, Bool.and_eq_true, System.meets,
    Bool.and_eq_true] at hmeets
  obtain ⟨hremembered, hkeep, -⟩ := hmeets
  have hinv : Inv True ⟨s.loop, recent⟩ := System.Keeps.run
    (fun s e t hs hkeep hstep => hs.step (fun _ => hkeep) hstep) after (.unsent hreached.bounded) hremembered hrun
  rw [remembers, Bool.not_eq_true'] at hkeep
  obtain ⟨l, hl, rfl⟩ := Option.map_eq_some_iff.mp hstep
  obtain ⟨-, ⟨⟩⟩ := Option.ite_none_right_eq_some.mp hl
  have hcounted := hinv.counted trivial hdead.1 8 (recent_dead hsent hdead hrecent)
  exact Uplink.maintainWireSocket_closes hdead.1 hcounted hkeep now reopening

/-- The mapped socket is opened, and seven sends on the wire socket fail. -/
def fading : List NodeLoop.Event :=
  [.cbWireSend 0 true true, .call (.maintainNatWire 0 6 true ⟨0, 0⟩)] ++ List.replicate 7 (.cbWireSend 0 true false)

/-- One send on the mapped socket succeeds before the eighth fails, and the wire socket
stays open. -/
theorem mapped_send_keeps_dead_socket :
    ¬∀ (nodeAddress : U64) (o : WireOpening) (natEnabled : Bool) (v : VNet) (nwid : U64) (es : List NodeLoop.Event)
      (now : Int) (reopening : WireOpening) (s t : Sends),
      sending.run (initialized nodeAddress o natEnabled v nwid) es = some s →
      sending.step s (.call (.maintainWireSocket now reopening)) = some t → s.Dead → t.loop.uplink.wireFd < 0 := by
  intro h
  have hsome : ((sending.run (initialized 0 ⟨5, fun _ => true⟩ true VNet.fresh 1)
      (fading ++ [.cbWireSend 1 true true, .cbWireSend 0 true false])).any fun s => decide s.Dead &&
        (sending.step s (.call (.maintainWireSocket 1000 ⟨-1, fun _ => false⟩))).any fun t =>
          decide (0 ≤ t.loop.uplink.wireFd)) = true := by decide +kernel
  simp only [Option.any_eq_true, Bool.and_eq_true, decide_eq_true_eq] at hsome
  obtain ⟨s, hs, hdead, t, ht, hopen⟩ := hsome
  have hrecycled := h 0 ⟨5, fun _ => true⟩ true VNet.fresh 1 _ 1000 ⟨-1, fun _ => false⟩ s t hs ht hdead
  exact absurd hrecycled (not_lt.mpr hopen)

/-- The send on the mapped socket succeeds, and eight on the wire socket fail after it. -/
theorem dead_socket_recycled_both :
    ∃ r s t, sending.run (initialized 0 ⟨5, fun _ => true⟩ true VNet.fresh 1)
        (fading ++ [.cbWireSend 1 true true]) = some r ∧
      sending.run r (List.replicate 8 (.cbWireSend 0 true false)) = some s ∧ s.Dead ∧
      sending.step s (.call (.maintainWireSocket 1000 ⟨-1, fun _ => false⟩)) = some t ∧
      t.loop.uplink.wireFd < 0 := by
  have hsome : ((sending.run (initialized 0 ⟨5, fun _ => true⟩ true VNet.fresh 1)
      (fading ++ [.cbWireSend 1 true true])).any fun r =>
        sending.meets remembers r (List.replicate 8 (.cbWireSend 0 true false) ++
          [.call (.maintainWireSocket 1000 ⟨-1, fun _ => false⟩)]) &&
        (sending.run r (List.replicate 8 (.cbWireSend 0 true false))).any fun s => decide s.Dead &&
          decide ((own ⟨s.loop, r.sent⟩).length + 8 ≤ s.own.length) &&
          (sending.step s (.call (.maintainWireSocket 1000 ⟨-1, fun _ => false⟩))).isSome) = true := by
    decide +kernel
  simp only [Option.any_eq_true, Bool.and_eq_true, decide_eq_true_eq, Option.isSome_iff_exists] at hsome
  obtain ⟨r, hr, hmeets, s, hs, ⟨hdead, hrecent⟩, t, ht⟩ := hsome
  exact ⟨r, s, t, hr, hs, hdead, ht, dead_socket_recycled 0 ⟨5, fun _ => true⟩ true VNet.fresh 1 _ _ 1000
    ⟨-1, fun _ => false⟩ hr hs ht hmeets hdead hrecent⟩

end Sends

end SysZerotier.Port
