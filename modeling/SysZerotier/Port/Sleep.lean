import SysZerotier.Library.Runs

/-! The sleep gate between the power monitor and the node thread
(`source/main.cpp`, `source/zt_port.cpp`).

`PscThreadMain` asks the node thread to let go of its services and waits for the
answer; `Port::HandleSleep` closes the socket, answers, and waits to be resumed. The
two manual-clear events and the flag are operated one at a time, in any interleaving.
An answer is the current request's as long as the node thread does not slip through
between the two events being cleared (`acknowledged_quiesced`), and a request finds an
answer as long as it does not clear the one of a node thread that already sleeps
(`never_wedged`). -/
namespace SysZerotier.Port
open Library

/-- `psc::PmState`. -/
inductive PmState where
  | fullAwake
  | minimumAwake
  | sleepReady
  | essentialServicesSleepReady
  | essentialServicesAwake
  | shutdownReady
  | unknown
  deriving DecidableEq

/-- The operation that the power monitor performs next; `idle` waits for a notification. -/
inductive PscThread where
  | idle
  | clearingQuiesced
  | clearingResumed
  | settingRequested
  | waitingQuiesced
  | clearingRequested
  | signallingResumed
  deriving DecidableEq

/-- The operation that the node thread performs next. `running` is the body of the run
loop, `checking` its test of the flag, and the rest is `HandleSleep`: the log line and
the mapped socket, the wire socket, the two events, the attempts to reopen the wire
socket that are left, and the last log line. -/
inductive NodeThread where
  | running
  | checking
  | logging
  | closing
  | signallingQuiesced
  | waitingResumed
  | reopening (attempts : Nat)
  | finishing
  deriving DecidableEq

structure SleepGate where
  quiesced : Bool
  resumed : Bool
  sleepRequested : Bool
  /-- The wire socket is open. -/
  wire : Bool
  node : NodeThread
  psc : PscThread
  /-- `WaitQuiesced` has returned `true`, and `g_resumed` was not signalled since. -/
  acknowledged : Bool
  deriving DecidableEq

namespace SleepGate

/-- A notification arrives; a thread performs its next operation; the wait for
`g_quiesced` times out; the run loop does its work, which may open or close the wire
socket. An attempt to open a socket has an outcome. -/
inductive Event where
  | notify (state : PmState)
  | psc
  | timeout
  | work (wire : Bool)
  | node (ok : Bool)
  deriving DecidableEq

/-- The `switch` of `PscThreadMain`. -/
def handle : PmState → PscThread
  | .sleepReady | .essentialServicesSleepReady | .shutdownReady => .clearingQuiesced
  | .fullAwake | .minimumAwake | .essentialServicesAwake => .clearingRequested
  | .unknown => .idle

/-- `RequestQuiesce`, `WaitQuiesced` and `SignalResume`. -/
def pscStep (s : SleepGate) : Option SleepGate :=
  match s.psc with
  | .idle => none
  | .clearingQuiesced => some { s with quiesced := false, psc := .clearingResumed }
  | .clearingResumed => some { s with resumed := false, psc := .settingRequested }
  | .settingRequested => some { s with sleepRequested := true, psc := .waitingQuiesced }
  | .waitingQuiesced => if s.quiesced then some { s with acknowledged := true, psc := .idle } else none
  | .clearingRequested => some { s with sleepRequested := false, psc := .signallingResumed }
  | .signallingResumed => some { s with resumed := true, acknowledged := false, psc := .idle }

/-- The run loop and `Port::HandleSleep`. -/
def nodeStep (s : SleepGate) (ok : Bool) : Option SleepGate :=
  match s.node with
  | .running => some { s with node := .checking }
  | .checking => some { s with node := if s.sleepRequested then .logging else .running }
  | .logging => some { s with node := .closing }
  | .closing => some { s with wire := false, node := .signallingQuiesced }
  | .signallingQuiesced => some { s with quiesced := true, node := .waitingResumed }
  | .waitingResumed => if s.resumed then some { s with node := .reopening 30 } else none
  | .reopening attempts =>
    if ok then some { s with wire := true, node := .finishing }
    else
      match attempts with
      | 0 => some { s with node := .finishing }
      | left + 1 => some { s with node := .reopening left }
  | .finishing => some { s with node := .running }

def step (s : SleepGate) : Event → Option SleepGate
  | .notify state => if s.psc = .idle then some { s with psc := handle state } else none
  | .psc => s.pscStep
  | .timeout => if s.psc = .waitingQuiesced then some { s with psc := .idle } else none
  | .work wire => if s.node = .running then some { s with wire := wire } else none
  | .node ok => s.nodeStep ok

def handshake : System SleepGate Event := ⟨step⟩

/-- The port has been initialized, and the console is awake. -/
def awake : SleepGate := ⟨false, false, false, true, .running, .idle, false⟩

/-- The step is a filesystem or socket operation of the node thread. -/
def touches (s : SleepGate) : Event → Bool
  | .work _ => s.node == .running
  | .node _ =>
    match s.node with
    | .logging | .closing | .reopening _ | .finishing => true
    | _ => false
  | _ => false

/-! ### What an acknowledgement means -/

/-- The node thread does not leave its wait between `g_quiesced`, which it has signalled
there, and `g_resumed` being cleared. -/
def orderly (s : SleepGate) : Event → Bool
  | .node _ => !(s.node == .waitingResumed && s.psc == .clearingResumed && s.quiesced)
  | _ => true

/-- A notification leads to the first operation of a request or of a resume. -/
theorem handle_unrequested (state : PmState) :
    handle state ≠ .clearingResumed ∧ handle state ≠ .settingRequested ∧ handle state ≠ .waitingQuiesced := by
  cases state <;> decide

/-- The node thread is in `HandleSleep`, with its socket closed, and waits. -/
def Asleep (s : SleepGate) : Prop := s.node = .waitingResumed ∧ s.wire = false

/-- The request has cleared `g_resumed`. -/
def Requesting (s : SleepGate) : Prop := s.psc = .settingRequested ∨ s.psc = .waitingQuiesced

theorem not_requesting {s : SleepGate} (hs : s.psc ≠ .settingRequested) (hw : s.psc ≠ .waitingQuiesced) :
    ¬s.Requesting := fun h => h.elim hs hw

structure Sound (s : SleepGate) : Prop where
  wire : s.node = .signallingQuiesced ∨ s.node = .waitingResumed → s.wire = false
  resumed : s.acknowledged = true ∨ s.Requesting → s.resumed = false
  acknowledged : s.acknowledged = true → s.node = .waitingResumed
  /-- A signal seen by the request is the node thread's that waits. -/
  fresh : s.quiesced = true → s.psc = .clearingResumed ∨ s.Requesting → s.node = .waitingResumed

theorem sound_awake : Sound awake :=
  ⟨fun h => (by rcases h with h | h <;> cases h), fun _ => rfl, fun h => (by cases h), fun h => (by cases h)⟩

/-- The power monitor turns to an operation that is not part of a request. -/
theorem Sound.unrequested {s : SleepGate} (h : s.Sound) {psc : PscThread} (sleepRequested : Bool)
    (hc : psc ≠ .clearingResumed) (hs : psc ≠ .settingRequested) (hw : psc ≠ .waitingQuiesced) :
    Sound { s with sleepRequested := sleepRequested, psc := psc } := by
  have hnot : ¬Requesting { s with sleepRequested := sleepRequested, psc := psc } := not_requesting hs hw
  exact ⟨h.wire, fun ha => h.resumed (ha.imp_right fun hr => absurd hr hnot), h.acknowledged,
    fun _ hr => hr.elim (fun hp => absurd hp hc) fun hr => absurd hr hnot⟩

theorem psc_sound {s t : SleepGate} (h : s.Sound) (ht : s.pscStep = some t) : t.Sound := by
  unfold pscStep at ht
  split at ht <;> rename_i hpsc
  · cases ht
  · cases ht
    have hnot : ¬Requesting { s with quiesced := false, psc := .clearingResumed } :=
      not_requesting nofun nofun
    exact ⟨h.wire, fun ha => h.resumed (ha.imp_right fun hr => absurd hr hnot), h.acknowledged,
      fun hq => (by cases hq)⟩
  · cases ht
    exact ⟨h.wire, fun _ => rfl, h.acknowledged, fun hq _ => h.fresh hq (.inl hpsc)⟩
  · cases ht
    have hreq : s.Requesting := .inl hpsc
    exact ⟨h.wire, fun _ => h.resumed (.inr hreq), h.acknowledged, fun hq _ => h.fresh hq (.inr hreq)⟩
  · split at ht
    · rename_i hq
      cases ht
      have hreq : s.Requesting := .inr hpsc
      refine ⟨h.wire, fun _ => h.resumed (.inr hreq), fun _ => h.fresh hq (.inr hreq), fun _ hr => ?_⟩
      exact h.fresh hq (.inr hreq)
    · cases ht
  · cases ht
    exact h.unrequested false nofun nofun nofun
  · cases ht
    have hnot : ¬Requesting { s with resumed := true, acknowledged := false, psc := .idle } :=
      not_requesting nofun nofun
    exact ⟨h.wire, fun ha => absurd ha (not_or.mpr ⟨nofun, hnot⟩), fun ha => (by cases ha),
      fun _ hr => absurd hr (not_or.mpr ⟨nofun, hnot⟩)⟩

theorem node_sound {s t : SleepGate} {ok : Bool} (h : s.Sound) (ho : s.orderly (.node ok) = true)
    (ht : s.nodeStep ok = some t) : t.Sound := by
  -- outside its wait the node thread is not what an acknowledgement or a fresh signal speaks of
  have hmoves : ∀ {wire : Bool} {node : NodeThread}, s.node ≠ .waitingResumed →
      (node = .signallingQuiesced ∨ node = .waitingResumed → wire = false) →
      Sound { s with wire := wire, node := node } := by
    intro wire node hne hwire
    exact ⟨hwire, h.resumed, fun ha => absurd (h.acknowledged ha) hne, fun hq hp => absurd (h.fresh hq hp) hne⟩
  unfold nodeStep at ht
  split at ht <;> rename_i hnode
  · cases ht
    exact hmoves (by rw [hnode]; decide) fun hn => by rcases hn with hn | hn <;> cases hn
  · cases ht
    refine hmoves (by rw [hnode]; decide) fun hn => ?_
    split at hn <;> rcases hn with hn | hn <;> cases hn
  · cases ht
    exact hmoves (by rw [hnode]; decide) fun hn => by rcases hn with hn | hn <;> cases hn
  · cases ht
    exact hmoves (by rw [hnode]; decide) fun _ => rfl
  · cases ht
    exact ⟨fun _ => h.wire (.inl hnode), h.resumed, fun _ => rfl, fun _ _ => rfl⟩
  · split at ht
    · rename_i hresumed
      cases ht
      -- whoever relies on the wait has cleared `g_resumed`, or forbids this step
      have hlate : ¬(s.acknowledged = true ∨ s.Requesting) := by
        intro hp
        rw [h.resumed hp] at hresumed
        cases hresumed
      refine ⟨fun hn => ?_, h.resumed, fun ha => absurd (.inl ha) hlate, fun hq hp => ?_⟩
      · rcases hn with hn | hn <;> cases hn
      · rcases hp with hp | hp
        · rw [orderly, hnode, hp, hq] at ho
          cases ho
        · exact absurd (.inr hp) hlate
    · cases ht
  · split at ht
    · cases ht
      exact hmoves (by rw [hnode]; nofun) fun hn => by rcases hn with hn | hn <;> cases hn
    · split at ht <;> cases ht <;>
        exact hmoves (by rw [hnode]; nofun) fun hn => by rcases hn with hn | hn <;> cases hn
  · cases ht
    exact hmoves (by rw [hnode]; decide) fun hn => by rcases hn with hn | hn <;> cases hn

theorem keeps_sound : handshake.Keeps orderly Sound := by
  intro s e t h ho ht
  cases e with
  | notify state =>
    dsimp only [handshake, step] at ht
    split at ht
    · cases ht
      obtain ⟨hc, hs, hw⟩ := handle_unrequested state
      exact h.unrequested s.sleepRequested hc hs hw
    · cases ht
  | psc => exact psc_sound h ht
  | timeout =>
    dsimp only [handshake, step] at ht
    split at ht
    · cases ht
      exact h.unrequested s.sleepRequested nofun nofun nofun
    · cases ht
  | work wire =>
    dsimp only [handshake, step] at ht
    split at ht
    · rename_i hnode
      cases ht
      exact ⟨fun hn => (by rcases hn with hn | hn <;> rw [hnode] at hn <;> cases hn), h.resumed, h.acknowledged,
        h.fresh⟩
    · cases ht
  | node ok => exact node_sound h ho ht

theorem Sound.asleep {s : SleepGate} (h : s.Sound) (ha : s.acknowledged = true) : s.Asleep :=
  ⟨h.acknowledged ha, h.wire (.inr (h.acknowledged ha))⟩

theorem Asleep.untouched {s : SleepGate} (h : s.Asleep) (e : Event) : s.touches e = false := by
  cases e with
  | work wire => exact beq_eq_false_iff_ne.mpr (by rw [h.1]; decide)
  | node ok =>
    rw [touches, h.1]
  | _ => rfl

/-- **In every run whose steps are orderly, once `WaitQuiesced` has returned `true` and until
`g_resumed` is signalled, the node thread waits in `HandleSleep` with its socket closed, and
performs no filesystem or socket operation.** -/
theorem acknowledged_quiesced {es : List Event} {s : SleepGate} (hr : handshake.run awake es = some s)
    (hm : handshake.meets orderly awake es = true) :
    (s.acknowledged = true → s.Asleep) ∧
      handshake.meets (fun s e => !(s.acknowledged && s.touches e)) awake es = true := by
  refine ⟨(keeps_sound.run es sound_awake hm hr).asleep, keeps_sound.meets (fun s e h _ => ?_) es sound_awake hm⟩
  cases ha : s.acknowledged with
  | false => rfl
  | true => rw [(h.asleep ha).untouched e]; rfl

/-- A notification, and all that the power monitor does of its own accord. -/
def notified (state : PmState) : List Event := [.notify state, .psc, .psc, .psc]

/-- The node thread checks the flag, closes its socket and signals. -/
def quiesces : List Event := [.node true, .node true, .node true, .node true, .node true]

theorem acknowledged_quiesced_sleep :
    ∃ s, handshake.run awake (notified .sleepReady ++ quiesces ++ [.psc]) = some s ∧ s.acknowledged = true ∧
      s.Asleep := by
  obtain ⟨s, hs, ha⟩ := (Option.any_eq_true (fun s : SleepGate => s.acknowledged)
    (handshake.run awake (notified .sleepReady ++ quiesces ++ [.psc]))).mp (by decide)
  exact ⟨s, hs, ha, (acknowledged_quiesced hs (by decide)).1 ha⟩

/-- A request times out with the node thread about to signal. -/
def timesOut : List Event := notified .sleepReady ++ List.replicate 4 (.node true) ++ [.timeout]

/-- The console wakes. -/
def resumes : List Event := [.notify .fullAwake, .psc, .psc]

/-- The next request, with the node thread signalling, taking the resume and reopening its
socket between the two events being cleared. -/
def answeredLate : List Event :=
  [.notify .sleepReady, .psc, .node true, .node true, .node true, .psc, .psc, .psc]

/-- The first request times out and the console wakes before the node thread answers. Its
answer falls between the two events being cleared by the next request, which takes it for
its own while the node thread reopens the socket. -/
theorem stale_acknowledgement :
    ¬∀ (es : List Event) (s : SleepGate), handshake.run awake es = some s → s.acknowledged = true → s.Asleep := by
  intro h
  obtain ⟨s, hs, ha⟩ := (Option.any_eq_true (fun s : SleepGate => s.acknowledged && s.node == .finishing && s.wire)
    (handshake.run awake (timesOut ++ resumes ++ answeredLate))).mp (by decide)
  rw [Bool.and_eq_true, Bool.and_eq_true] at ha
  rw [(h _ s hs ha.1.1).2] at ha
  cases ha.2

/-! ### A request that cannot be answered -/

/-- The power monitor waits for a signal that the node thread, itself waiting, will not give. -/
def Wedged (s : SleepGate) : Prop := s.psc = .waitingQuiesced ∧ s.quiesced = false ∧ s.node = .waitingResumed

/-- No request clears `g_resumed` while the node thread waits for it and has had its
answer cleared. -/
def answerable (s : SleepGate) : Event → Bool
  | .psc => !(s.psc == .clearingResumed && s.node == .waitingResumed && !s.quiesced)
  | _ => true

/-- A node thread that waits while a request is under way has answered it. -/
def Answered (s : SleepGate) : Prop := s.Requesting → s.node = .waitingResumed → s.quiesced = true

theorem answered_of_not_requesting {s : SleepGate} (h : ¬s.Requesting) : s.Answered :=
  fun hr => absurd hr h

theorem psc_answered {s t : SleepGate} (h : s.Answered) (ha : s.answerable .psc = true)
    (ht : s.pscStep = some t) : t.Answered := by
  unfold pscStep at ht
  split at ht <;> rename_i hpsc
  · cases ht
  · cases ht
    exact answered_of_not_requesting (not_requesting nofun nofun)
  · cases ht
    intro _ hn
    rw [answerable, hpsc, hn] at ha
    simpa using ha
  · cases ht
    exact fun _ hn => h (.inl hpsc) hn
  · split at ht
    · cases ht
      exact answered_of_not_requesting (not_requesting nofun nofun)
    · cases ht
  · cases ht
    exact answered_of_not_requesting (not_requesting nofun nofun)
  · cases ht
    exact answered_of_not_requesting (not_requesting nofun nofun)

/-- The node thread signals before it waits. -/
theorem node_answered {s t : SleepGate} {ok : Bool} (ht : s.nodeStep ok = some t) : t.Answered := by
  unfold nodeStep at ht
  intro _ hn
  split at ht
  · cases ht
    cases hn
  · cases ht
    dsimp only at hn
    split at hn <;> cases hn
  · cases ht
    cases hn
  · cases ht
    cases hn
  · cases ht
    rfl
  · split at ht <;> cases ht
    cases hn
  · split at ht
    · cases ht
      cases hn
    · split at ht <;> cases ht <;> cases hn
  · cases ht
    cases hn

theorem keeps_answered : handshake.Keeps answerable Answered := by
  intro s e t h ha ht
  cases e with
  | notify state =>
    dsimp only [handshake, step] at ht
    split at ht
    · cases ht
      exact answered_of_not_requesting (not_requesting (handle_unrequested state).2.1 (handle_unrequested state).2.2)
    · cases ht
  | psc => exact psc_answered h ha ht
  | timeout =>
    dsimp only [handshake, step] at ht
    split at ht
    · cases ht
      exact answered_of_not_requesting (not_requesting nofun nofun)
    · cases ht
  | work wire =>
    dsimp only [handshake, step] at ht
    split at ht
    · cases ht
      exact h
    · cases ht
  | node ok => exact node_answered ht

theorem answered_awake : Answered awake := answered_of_not_requesting (not_requesting nofun nofun)

/-- **In every run in which no request clears the answer of a node thread that then goes on
waiting, no request waits for one that it cannot get.** -/
theorem never_wedged {es : List Event} {s : SleepGate} (hr : handshake.run awake es = some s)
    (hm : handshake.meets answerable awake es = true) : ¬s.Wedged := by
  rintro ⟨hpsc, hq, hn⟩
  rw [keeps_answered.run es answered_awake hm hr (.inr hpsc) hn] at hq
  cases hq

/-- A request that clears such an answer is wedged two steps later. -/
theorem wedged_of_not_answerable {s : SleepGate} (h : s.answerable .psc = false) :
    ∃ t, handshake.run s [.psc, .psc] = some t ∧ t.Wedged := by
  simp only [answerable, Bool.not_eq_false', Bool.and_eq_true, beq_iff_eq, Bool.not_eq_true'] at h
  obtain ⟨⟨hpsc, hn⟩, hq⟩ := h
  refine ⟨{ s with resumed := false, sleepRequested := true, psc := .waitingQuiesced }, ?_, rfl, hq, hn⟩
  simp only [System.run, handshake, step, pscStep, hpsc, Option.bind_some]

theorem never_wedged_cycle :
    ∃ s, handshake.run awake
        (notified .sleepReady ++ quiesces ++ [.psc, .notify .fullAwake, .psc, .psc, .node true] ++
          notified .sleepReady) = some s ∧ s.psc = .waitingQuiesced ∧ ¬s.Wedged := by
  obtain ⟨s, hs, hp⟩ := (Option.any_eq_true (fun s : SleepGate => s.psc == .waitingQuiesced)
    (handshake.run awake
        (notified .sleepReady ++ quiesces ++ [.psc, .notify .fullAwake, .psc, .psc, .node true] ++
          notified .sleepReady))).mp (by decide)
  exact ⟨s, hs, beq_iff_eq.mp hp, never_wedged hs (by decide)⟩

/-- A second sleep state follows the first: the request clears the answer to the one before. -/
theorem second_sleep_wedges :
    ¬∀ (es : List Event) (s : SleepGate), handshake.run awake es = some s → ¬s.Wedged := by
  intro h
  obtain ⟨s, hs, hw⟩ := (Option.any_eq_true
    (fun s : SleepGate => s.psc == .waitingQuiesced && !s.quiesced && s.node == .waitingResumed)
    (handshake.run awake
        (notified .sleepReady ++ quiesces ++ [.psc] ++ notified .essentialServicesSleepReady))).mp (by decide)
  simp only [Bool.and_eq_true, beq_iff_eq, Bool.not_eq_true'] at hw
  exact h _ s hs ⟨hw.1.1, hw.1.2, hw.2⟩

end SleepGate

end SysZerotier.Port
