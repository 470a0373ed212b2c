import SysZerotier.Port.NatWire

/-! What the NAT mapper and the node thread can rely on.

The invariant is one structure for the worker (`Sound`) and one for the two threads
together (`Inv`). From it follow that an endpoint is never used for another socket than
the one it was obtained for, nor after its lease (`endpoint_fresh`), and that a worker
found idle makes no call before it is configured anew (`quiesced_calls_nothing`).

A lease counts from the time that the worker notes after the router's answer, not from the
answer itself (`lease_outlived`). -/
namespace SysZerotier.Port
open Net Library

/-! ### Places in the worker's loop -/

namespace WorkerPc

/-- A request is loaded, and not taken over yet. -/
def requested : WorkerPc → Bool
  | .testRequest | .clearIdle | .setActive => true
  | _ => false

/-- The request is known to have a port. -/
def asked : WorkerPc → Bool
  | .clearIdle | .setActive => true
  | _ => false

/-- Between taking over a request and giving up on it. -/
def inPass : WorkerPc → Bool
  | .setIdle | .loadRequest | .testRequest | .clearIdle | .setActive | .cancelled (.pause _) _ => false
  | _ => true

/-- `idle` is cleared. -/
def claimed (pc : WorkerPc) : Bool := pc == .setActive || pc.inPass

/-- The request was found to be the desired one after `idle` was cleared. -/
def busy (pc : WorkerPc) : Bool := pc.inPass && pc != .cancelled .start .desired

/-- A call into nifm or into the router is in progress. -/
def calling : WorkerPc → Bool
  | .nifm | .mapPmp | .mapUpnp => true
  | _ => false

/-- NAT-PMP failed, and UPnP has not been tried to its end. -/
def failing : WorkerPc → Bool
  | .cancelled .upnp _ | .mapUpnp => true
  | _ => false

/-- The ways to map have been tried, and no lease is dated yet. -/
def tried : WorkerPc → Bool
  | .cancelled .result _ | .takeLease => true
  | _ => false

theorem busy_of_calling {pc : WorkerPc} (h : pc.calling = true) : pc.busy = true := by
  cases pc with
  | nifm | mapPmp | mapUpnp => rfl
  | _ => cases h

theorem inPass_of_failing {pc : WorkerPc} (h : pc.failing = true) : pc.inPass = true := by
  cases pc with
  | cancelled test => cases test <;> first | rfl | cases h
  | mapUpnp => rfl
  | _ => cases h

theorem inPass_of_tried {pc : WorkerPc} (h : pc.tried = true) : pc.inPass = true := by
  cases pc with
  | cancelled test => cases test <;> first | rfl | cases h
  | takeLease => rfl
  | _ => cases h

theorem claimed_of_busy {pc : WorkerPc} (h : pc.busy = true) : pc.claimed = true := by
  rw [busy, Bool.and_eq_true] at h
  rw [WorkerPc.claimed, h.1, Bool.or_true]

end WorkerPc

namespace RouterCall

/-- The call, made for this request, was granted the endpoint, and its lease runs until then. -/
def Leases (c : RouterCall) (word : U64) (endpoint : NatEndpoint) (expiry : Nat) : Prop :=
  c.word = word ∧ c.port = portOf word ∧ c.port ≠ 0 ∧
    ∃ seconds t, c.Grants endpoint seconds ∧ c.taken = some t ∧ expiry ≤ t + seconds * 1000

/-- The call, made for this request, was granted the endpoint, and its lease is not dated. -/
def Undated (c : RouterCall) (word : U64) (endpoint : NatEndpoint) (least : Nat) : Prop :=
  c.word = word ∧ c.port = portOf word ∧ c.taken = none ∧ ∃ seconds, c.Grants endpoint seconds ∧ least ≤ seconds

/-- A lease is dated after the answers, neither of them in the future. -/
def Past (c : RouterCall) (now : Nat) : Prop :=
  c.answered ≤ now ∧ ∀ t, c.taken = some t → c.answered ≤ t

end RouterCall

/-- Some call has the lease. -/
def RouterLog.Leases (log : RouterLog) (word : U64) (endpoint : NatEndpoint) (expiry : Nat) : Prop :=
  ∃ c ∈ log.calls, c.Leases word endpoint expiry

/-- What `MapPmp` returns, the answers grant. -/
theorem mapPmp_grants {port : U16} {answers : PmpAnswers} {endpoint : NatEndpoint} {lifetime : U32}
    (h : mapPmp port answers = (endpoint, lifetime, true)) (word : U64) (now : Nat) :
    (RouterCall.mk word port (.inl answers) now none).Grants endpoint lifetime.toNat := by
  unfold mapPmp at h
  split at h
  · cases h
  · rename_i address haddress
    split at h
    · cases h
    · split at h
      · cases h
      · rename_i privatePort publicPort seconds hmapping
        obtain ⟨rfl, hrest⟩ := Prod.mk.inj h
        obtain ⟨rfl, hok⟩ := Prod.mk.inj hrest
        simp only [Bool.and_eq_true, beq_iff_eq] at hok
        obtain ⟨⟨rfl, -⟩, -⟩ := hok
        exact ⟨haddress, seconds, hmapping, rfl⟩

theorem mapUpnp_grants {port : U16} {answers : UpnpAnswers} {endpoint : NatEndpoint}
    (h : mapUpnp port answers = some endpoint) (word : U64) (now : Nat) :
    (RouterCall.mk word port (.inr answers) now none).Grants endpoint 600 := by
  unfold mapUpnp at h
  split at h
  · cases h
  · rename_i address haddress
    split at h
    · cases h
    · obtain ⟨attempt, hfound, rfl⟩ := Option.map_eq_some_iff.mp h
      refine ⟨haddress, ⟨attempt, ?_, rfl⟩, rfl⟩
      obtain ⟨hlt, hadded, -⟩ := List.findIdx?_eq_some_iff_getElem.mp hfound
      have hfirst : (answers.attempts.take 4)[attempt]? = some .added :=
        List.getElem?_eq_some_iff.mpr ⟨hlt, beq_iff_eq.mp hadded⟩
      rw [List.getElem?_take] at hfirst
      exact (Option.ite_none_right_eq_some.mp hfirst).2

namespace Mapper
open WorkerPc (requested asked inPass busy failing tried)

/-! ### One operation -/

/-- Nothing but bookkeeping and the place in the loop has changed. -/
def Bookkept (m t : Mapper) : Prop :=
  t = { m with
    gateway := t.gateway, deadline := t.deadline, pc := t.pc, nifmReady := t.nifmReady
    previousIp := t.previousIp, previousGateway := t.previousGateway, retryAt := t.retryAt
    previousGeneration := t.previousGeneration, ip := t.ip, gw := t.gw }

theorem Bookkept.pass {m t : Mapper} (h : Bookkept m t) :
    t.request = m.request ∧ t.active = m.active ∧ t.idle = m.idle ∧ t.ok = m.ok ∧ t.mapped = m.mapped ∧
      t.leaseSeconds = m.leaseSeconds := by
  rw [Bookkept] at h
  exact ⟨(congrArg Mapper.request h :), (congrArg Mapper.active h :), (congrArg Mapper.idle h :),
    (congrArg Mapper.ok h :), (congrArg Mapper.mapped h :), (congrArg Mapper.leaseSeconds h :)⟩

theorem Bookkept.globals {m t : Mapper} (h : Bookkept m t) :
    t.desired = m.desired ∧ t.endpoint = m.endpoint ∧ t.endpointGeneration = m.endpointGeneration ∧
      t.endpointExpiry = m.endpointExpiry := by
  rw [Bookkept] at h
  exact ⟨(congrArg Mapper.desired h :), (congrArg Mapper.endpoint h :), (congrArg Mapper.endpointGeneration h :),
    (congrArg Mapper.endpointExpiry h :)⟩

/-- What the worker's new place says of the one before. -/
structure Follows (m : Mapper) (pc : WorkerPc) : Prop where
  requested : pc.requested = true → m.pc.requested = true
  asked : pc.asked = true → portOf m.request ≠ 0
  inPass : pc.inPass = true → m.pc.inPass = true
  busy : pc.busy = true → m.pc.busy = true ∨ m.desired = m.active
  failing : pc.failing = true → m.pc.failing = true
  tried : pc.tried = true → m.pc.tried = true ∨ m.pc.failing = true
  leased : pc = .takeLease → m.ok = true
  unpublished : ∀ n, pc ≠ .publish n
  away : pc ≠ .setActive

/-- The operations of the worker by what they do, to it and to the log of its calls. -/
inductive Advanced (m : Mapper) (log : RouterLog) (now : Nat) : Mapper → RouterLog → Prop
  | moved {t : Mapper} (same : Bookkept m t) (follows : Follows m t.pc) : Advanced m log now t log
  | rested {pc : WorkerPc} (h : pc = .loadRequest ∨ pc = .cancelled (.pause 0) .desired) :
      Advanced m log now { m with idle := true, pc := pc } log
  | loaded :
      Advanced m log now { m with request := m.desired, pc := .testRequest } { log with word := m.desired }
  | claimed (h : m.pc = .clearIdle) : Advanced m log now { m with idle := false, pc := .setActive } log
  | tookOver (h : m.pc = .setActive) :
      Advanced m log now
        { m with active := m.request, deadline := now + 15000, pc := .cancelled .start .desired } log
  | mapped (h : m.pc = .mapPmp) (answers : PmpAnswers) {result : NatEndpoint × U32 × Bool}
      (hr : Port.mapPmp (portOf m.active) answers = result) :
      Advanced m log now
        { m with
          mapped := result.1, lease := result.2.1, ok := result.2.2
          pc := .cancelled (if result.2.2 then .result else .upnp) .desired }
        (log.called (portOf m.active) (.inl answers) now)
  | refused (h : m.pc = .mapUpnp) (answers : UpnpAnswers) :
      Advanced m log now { m with pc := .cancelled .result .desired }
        (log.called (portOf m.active) (.inr answers) now)
  | mappedUpnp (h : m.pc = .mapUpnp) (answers : UpnpAnswers) {endpoint : NatEndpoint}
      (hr : Port.mapUpnp (portOf m.active) answers = some endpoint) :
      Advanced m log now { m with mapped := endpoint, ok := true, pc := .cancelled .result .desired }
        (log.called (portOf m.active) (.inr answers) now)
  | took (h : m.pc = .takeLease) :
      Advanced m log now { m with pc := .publish (now + m.leaseSeconds * 1000) } (log.dated now)
  | cleared {t : Mapper} (h : m.pc = .publishNone ∨ m.pc = .compare) (same : Bookkept (m.published {} 0) t)
      (hpc : t.pc = .setIdle ∨ t.pc = .testRetry) : Advanced m log now t log
  | published {n : Nat} (h : m.pc = .publish n) :
      Advanced m log now { m.published m.mapped n with pc := .renew } log

theorem follows_cancelled (m : Mapper) {test : Test} {reading : Reading} (h : m.pc = .cancelled test reading) :
    Follows m (Test.onCancelled test) := by
  constructor <;> cases test <;> simp [Test.onCancelled, requested, asked, inPass, busy, failing, tried, h]

theorem follows_current (m : Mapper) {test : Test} (h : m.pc = .cancelled test .now) :
    Follows m (Test.onCurrent m test) := by
  cases test with
  | start | retry | upnp =>
    constructor <;> simp [Test.onCurrent, requested, asked, inPass, busy, failing, tried, h]
  | result =>
    unfold Test.onCurrent
    cases hok : m.ok <;> constructor <;> simp [requested, asked, inPass, busy, failing, tried, h, hok]
  | pause passes =>
    by_cases hp : passes + 1 < 9 <;> constructor <;>
      simp [Test.onCurrent, hp, requested, asked, inPass, busy, failing, tried, h]

theorem follows_reading (m : Mapper) {test : Test} {reading next : Reading} (h : m.pc = .cancelled test reading)
    (hdesired : reading = .desired → m.desired = m.active) : Follows m (.cancelled test next) := by
  refine ⟨fun hrequested => (by cases hrequested), fun hasked => (by cases hasked), fun hpass => ?_, fun hbusy => ?_,
    fun hfailing => ?_, fun htried => ?_, fun hleased => (by cases hleased), fun n hn => (by cases hn),
    fun hactive => (by cases hactive)⟩
  · rw [h]
    cases test with
    | pause passes => cases hpass
    | _ => rfl
  · by_cases hreading : reading = .desired
    · exact .inr (hdesired hreading)
    · rw [busy, Bool.and_eq_true] at hbusy
      refine .inl ?_
      rw [h, busy, Bool.and_eq_true, bne_iff_ne]
      refine ⟨?_, fun hstart => ?_⟩
      · cases test with
        | pause passes => cases hbusy.1
        | _ => rfl
      · injection hstart with _ hread
        exact hreading hread
  · rw [h]
    cases test with
    | upnp => rfl
    | _ => cases hfailing
  · rw [h]
    cases test with
    | result => exact .inl rfl
    | _ => cases htried

/-- Places that say nothing may be reached from anywhere in a pass. -/
theorem follows_plain {m : Mapper} {pc : WorkerPc} (h : m.pc.busy = true)
    (hpc : pc = .setIdle ∨ pc = .publishNone ∨ pc = .compare ∨ pc = .testRetry ∨ pc = .cancelled .retry .desired ∨
      pc = .finish ∨ pc = .postpone) : Follows m pc := by
  have hpass : m.pc.inPass = true := by
    rw [busy, Bool.and_eq_true] at h
    exact h.1
  rcases hpc with rfl | rfl | rfl | rfl | rfl | rfl | rfl <;> constructor <;>
    simp [requested, asked, failing, tried, h, hpass]

/-- Every operation is one of `Advanced`. -/
theorem advance_advanced (m : Mapper) (log : RouterLog) (now : Nat) (sleepRequested : Bool) (answers : Answers) :
    Advanced m log now (m.advance now sleepRequested answers) (m.logged log now answers) := by
  have hbusy : ∀ {pc : WorkerPc}, m.pc = pc → pc.busy = true → m.pc.busy = true := fun h hb => h ▸ hb
  unfold advance logged
  cases hpc : m.pc with
  | setIdle => exact .rested (.inl rfl)
  | loadRequest => exact .loaded
  | testRequest =>
    dsimp only
    split
    · refine .moved rfl ?_
      constructor <;> simp [requested, asked, inPass, busy, failing, tried]
    · rename_i hport
      refine .moved rfl ?_
      rw [not_or] at hport
      exact ⟨fun _ => by rw [hpc]; rfl, fun _ => hport.1, nofun, nofun, nofun, nofun, nofun, nofun, nofun⟩
  | clearIdle => exact .claimed hpc
  | setActive => exact .tookOver hpc
  | cancelled test reading =>
    cases reading with
    | desired =>
      refine .moved rfl ?_
      dsimp only
      split
      · exact follows_cancelled m hpc
      · exact follows_reading m hpc fun _ => by rwa [not_ne_iff] at *
    | sleepRequested =>
      refine .moved rfl ?_
      dsimp only
      split
      · exact follows_cancelled m hpc
      · exact follows_reading m hpc nofun
    | now =>
      refine .moved rfl ?_
      dsimp only
      split
      · exact follows_cancelled m hpc
      · exact follows_current m hpc
  | nifm =>
    have hb := hbusy hpc rfl
    dsimp only
    split
    · exact .moved rfl (follows_plain hb (by simp))
    · split
      · exact .moved rfl (follows_plain hb (by simp))
      · exact .moved rfl (follows_plain hb (by simp))
  | publishNone => exact .cleared (.inl hpc) rfl (.inl rfl)
  | compare =>
    dsimp only
    split
    · exact .cleared (.inr hpc) rfl (.inr rfl)
    · exact .moved rfl (follows_plain (hbusy hpc rfl) (by simp))
  | testRetry =>
    refine .moved rfl (follows_plain (hbusy hpc rfl) ?_)
    dsimp only
    split <;> simp
  | mapPmp => exact .mapped hpc answers.pmp rfl
  | mapUpnp =>
    dsimp only
    split
    · exact .refused hpc answers.upnp
    · exact .mappedUpnp hpc answers.upnp ‹_›
  | takeLease => exact .took hpc
  | publish n => exact .published hpc
  | renew => exact .moved rfl (follows_plain (hbusy hpc rfl) (by simp))
  | postpone => exact .moved rfl (follows_plain (hbusy hpc rfl) (by simp))
  | reload =>
    refine .moved rfl (follows_plain (hbusy hpc rfl) ?_)
    dsimp only
    split <;> simp
  | finish => exact .rested (.inr rfl)

/-! ### The log -/

variable {m t : Mapper} {log : RouterLog} {now : Nat}

theorem called_leases {word : U64} {endpoint : NatEndpoint} {expiry : Nat} (h : log.Leases word endpoint expiry)
    (port : U16) (answers : PmpAnswers ⊕ UpnpAnswers) (now : Nat) :
    (log.called port answers now).Leases word endpoint expiry := by
  obtain ⟨c, hc, hleases⟩ := h
  exact ⟨c, List.mem_cons_of_mem _ hc, hleases⟩

theorem dated_calls {c : RouterCall} {rest : List RouterCall} (h : log.calls = c :: rest) (now : Nat) :
    (log.dated now).calls = { c with taken := c.taken.or (some now) } :: rest := by
  rw [RouterLog.dated, h]

@[simp] theorem dated_word (log : RouterLog) (now : Nat) : (log.dated now).word = log.word := by
  unfold RouterLog.dated
  split <;> rfl

theorem dated_leases {word : U64} {endpoint : NatEndpoint} {expiry : Nat} (h : log.Leases word endpoint expiry)
    (now : Nat) : (log.dated now).Leases word endpoint expiry := by
  obtain ⟨c, hc, hword, hport, hne, seconds, t, hgrants, htaken, hexpiry⟩ := h
  cases hcalls : log.calls with
  | nil =>
    rw [hcalls] at hc
    cases hc
  | cons first rest =>
    rw [hcalls] at hc
    rw [RouterLog.Leases, dated_calls hcalls]
    rcases List.mem_cons.mp hc with rfl | hc
    · refine ⟨_, List.mem_cons_self, hword, hport, hne, seconds, t, hgrants, ?_, hexpiry⟩
      show c.taken.or (some now) = some t
      rw [htaken]
      rfl
    · exact ⟨c, List.mem_cons_of_mem _ hc, hword, hport, hne, seconds, t, hgrants, htaken, hexpiry⟩

/-- A call that is dated has its lease. -/
theorem dated_first {c : RouterCall} {rest : List RouterCall} (h : log.calls = c :: rest) {word : U64}
    {endpoint : NatEndpoint} {least : Nat} (hc : c.Undated word endpoint least) (hport : portOf word ≠ 0) (now : Nat) :
    (log.dated now).Leases word endpoint (now + least * 1000) := by
  obtain ⟨hword, hcport, htaken, seconds, hgrants, hleast⟩ := hc
  rw [RouterLog.Leases, dated_calls h]
  refine ⟨_, List.mem_cons_self, hword, hcport, hcport.trans_ne hport, seconds, now, hgrants, ?_, ?_⟩
  · show c.taken.or (some now) = some now
    rw [htaken]
    rfl
  · exact Nat.add_le_add_left (Nat.mul_le_mul_right 1000 hleast) now

theorem logged_past (h : ∀ c ∈ log.calls, c.Past now) (m : Mapper) (answers : Answers) :
    ∀ c ∈ (m.logged log now answers).calls, c.Past now := by
  have hcalled : ∀ port a, ∀ c ∈ (log.called port a now).calls, c.Past now := fun port a c hc => by
    rcases List.mem_cons.mp hc with rfl | hc
    · exact ⟨le_rfl, nofun⟩
    · exact h c hc
  unfold logged
  split
  · exact h
  · exact hcalled _ _
  · exact hcalled _ _
  · cases hcalls : log.calls with
    | nil =>
      rw [RouterLog.dated, hcalls]
      exact h
    | cons first rest =>
      rw [dated_calls hcalls]
      rw [hcalls] at h
      obtain ⟨hanswered, htaken⟩ := h first List.mem_cons_self
      intro c hc
      rcases List.mem_cons.mp hc with rfl | hc
      · refine ⟨hanswered, fun t ht => ?_⟩
        rcases Option.or_eq_some_iff.mp ht with hold | ⟨-, hnew⟩
        · exact htaken t hold
        · cases hnew
          exact hanswered
      · exact h c (List.mem_cons_of_mem _ hc)
  · exact h

/-! ### The worker's invariant -/

/-- What the worker knows at each place, and what its results rest on. -/
structure Sound (m : Mapper) (log : RouterLog) : Prop where
  requested : m.pc.requested = true → log.word = m.request
  asked : m.pc.asked = true → portOf m.request ≠ 0
  taken : m.pc.inPass = true → portOf m.active ≠ 0 ∧ log.word = m.active
  claimed : m.pc.claimed = true → m.idle = false
  failing : m.pc.failing = true → m.ok = false
  tried : m.pc.tried = true → m.ok = true →
    ∃ c rest, log.calls = c :: rest ∧ c.Undated m.active m.mapped m.leaseSeconds
  leased : m.pc = .takeLease → m.ok = true
  pending : ∀ n, m.pc = .publish n → log.Leases m.active m.mapped n
  result : 0 < m.endpointExpiry → log.Leases m.endpointGeneration m.endpoint m.endpointExpiry

theorem Sound.moved (h : Sound m log) (same : Bookkept m t) (follows : Follows m t.pc) : Sound t log := by
  obtain ⟨hrequest, hactive, hidle, hok, hmapped, hlease⟩ := same.pass
  obtain ⟨-, hendpoint, hgeneration, hexpiry⟩ := same.globals
  refine ⟨fun hp => ?_, fun hp => ?_, fun hp => ?_, fun hp => ?_, fun hp => ?_, fun hp ht => ?_, fun hp => ?_,
    fun n hp => ?_, fun hp => ?_⟩
  · rw [hrequest]
    exact h.requested (follows.requested hp)
  · rw [hrequest]
    exact follows.asked hp
  · rw [hactive]
    exact h.taken (follows.inPass hp)
  · rw [hidle]
    rw [WorkerPc.claimed, Bool.or_eq_true, beq_iff_eq] at hp
    have hpass := follows.inPass (hp.resolve_left follows.away)
    exact h.claimed (by rw [WorkerPc.claimed, hpass, Bool.or_true])
  · rw [hok]
    exact h.failing (follows.failing hp)
  · rw [hok] at ht
    rw [hactive, hmapped, hlease]
    rcases follows.tried hp with hm | hm
    · exact h.tried hm ht
    · exact absurd ht (by rw [h.failing hm]; decide)
  · rw [hok]
    exact follows.leased hp
  · exact absurd hp (follows.unpublished n)
  · rw [hexpiry] at hp ⊢
    rw [hgeneration, hendpoint]
    exact h.result hp

/-- A place outside of a pass asks nothing of the worker, but to know its request. -/
theorem Sound.away (hpc : m.pc.asked = false ∧ m.pc.claimed = false)
    (requested : m.pc.requested = true → log.word = m.request)
    (result : 0 < m.endpointExpiry → log.Leases m.endpointGeneration m.endpoint m.endpointExpiry) :
    Sound m log := by
  have hpass : ¬m.pc.inPass = true := by
    intro hp
    rw [WorkerPc.claimed, hp, Bool.or_true] at hpc
    cases hpc.2
  exact ⟨requested, fun hp => absurd (hpc.1.symm.trans hp) (by decide), fun hp => absurd hp hpass,
    fun hp => absurd (hpc.2.symm.trans hp) (by decide), fun hp => absurd (WorkerPc.inPass_of_failing hp) hpass,
    fun hp => absurd (WorkerPc.inPass_of_tried hp) hpass, fun hp => absurd (by rw [hp]; rfl) hpass,
    fun n hn => absurd (by rw [hn]; rfl) hpass, result⟩

/-- An operation of the worker keeps its invariant. -/
theorem Sound.advance (h : Sound m log) (now : Nat) (sleepRequested : Bool) (answers : Answers) :
    Sound (m.advance now sleepRequested answers) (m.logged log now answers) := by
  have hidle : m.pc.inPass = true → m.idle = false := fun hp =>
    h.claimed (by rw [WorkerPc.claimed, hp, Bool.or_true])
  have hstep := advance_advanced m log now sleepRequested answers
  generalize m.advance now sleepRequested answers = t, m.logged log now answers = log' at hstep ⊢
  cases hstep with
  | moved same follows => exact h.moved same follows
  | rested hpc =>
    rcases hpc with rfl | rfl
    · exact .away ⟨rfl, rfl⟩ nofun h.result
    · exact .away ⟨rfl, rfl⟩ nofun h.result
  | loaded => exact .away ⟨rfl, rfl⟩ (fun _ => rfl) h.result
  | claimed hpc =>
    exact ⟨fun _ => h.requested (by rw [hpc]; rfl), fun _ => h.asked (by rw [hpc]; rfl), nofun, fun _ => rfl, nofun,
      nofun, nofun, nofun, h.result⟩
  | tookOver hpc =>
    exact ⟨nofun, nofun, fun _ => ⟨h.asked (by rw [hpc]; rfl), h.requested (by rw [hpc]; rfl)⟩,
      fun _ => h.claimed (by rw [hpc]; rfl), nofun, nofun, nofun, nofun, h.result⟩
  | @mapped hpc answers result hr =>
    have hpass : m.pc.inPass = true := by rw [hpc]; rfl
    obtain ⟨hport, hword⟩ := h.taken hpass
    obtain ⟨endpoint, lifetime, ok⟩ := result
    have hresult : 0 < m.endpointExpiry → (log.called (portOf m.active) (.inl answers) now).Leases
        m.endpointGeneration m.endpoint m.endpointExpiry := fun hp => called_leases (h.result hp) ..
    cases ok with
    | false =>
      exact ⟨nofun, nofun, fun _ => ⟨hport, hword⟩, fun _ => hidle hpass, fun _ => rfl, nofun, nofun, nofun, hresult⟩
    | true =>
      refine ⟨nofun, nofun, fun _ => ⟨hport, hword⟩, fun _ => hidle hpass, nofun, fun _ _ => ?_, nofun, nofun,
        hresult⟩
      exact ⟨_, log.calls, rfl, hword, rfl, rfl, _, mapPmp_grants hr _ _, min_le_left _ _⟩
  | refused hpc answers =>
    have hpass : m.pc.inPass = true := by rw [hpc]; rfl
    have hfailed : m.ok = false := h.failing (by rw [hpc]; rfl)
    refine ⟨nofun, nofun, fun _ => h.taken hpass, fun _ => hidle hpass, nofun, fun _ hok => ?_, nofun, nofun,
      fun hp => called_leases (h.result hp) ..⟩
    exact absurd (hfailed.symm.trans hok) (by decide)
  | mappedUpnp hpc answers hr =>
    have hpass : m.pc.inPass = true := by rw [hpc]; rfl
    obtain ⟨hport, hword⟩ := h.taken hpass
    refine ⟨nofun, nofun, fun _ => ⟨hport, hword⟩, fun _ => hidle hpass, nofun, fun _ _ => ?_, nofun, nofun,
      fun hp => called_leases (h.result hp) ..⟩
    exact ⟨_, log.calls, rfl, hword, rfl, rfl, _, mapUpnp_grants hr _ _, min_le_right _ _⟩
  | took hpc =>
    have hpass : m.pc.inPass = true := by rw [hpc]; rfl
    obtain ⟨hport, hword⟩ := h.taken hpass
    obtain ⟨c, rest, hcalls, hundated⟩ := h.tried (by rw [hpc]; rfl) (h.leased hpc)
    refine ⟨nofun, nofun, fun _ => ⟨hport, by rw [dated_word]; exact hword⟩, fun _ => hidle hpass, nofun, nofun, nofun,
      fun n hn => ?_, fun hp => dated_leases (h.result hp) now⟩
    cases hn
    exact dated_first hcalls hundated hport now
  | cleared hpc same hpc' =>
    have hcleared : Sound (m.published {} 0) log :=
      ⟨h.requested, h.asked, h.taken, h.claimed, h.failing, h.tried, h.leased, h.pending, nofun⟩
    have hbusy : (m.published {} 0).pc.busy = true := by
      show m.pc.busy = true
      rcases hpc with hpc | hpc <;> rw [hpc] <;> rfl
    exact hcleared.moved same (follows_plain hbusy (by rcases hpc' with hpc' | hpc' <;> simp [hpc']))
  | published hpc =>
    have hpass : m.pc.inPass = true := by rw [hpc]; rfl
    exact ⟨nofun, nofun, fun _ => h.taken hpass, fun _ => hidle hpass, nofun, nofun, nofun, nofun,
      fun _ => h.pending _ hpc⟩

/-- A worker that is busy is so for the desired request, or was before. -/
theorem Sound.busy_advance (h : Sound m log) (now : Nat) (sleepRequested : Bool) (answers : Answers)
    (hport : portOf m.desired = 0) (hbusy : m.pc.busy = false) :
    (m.advance now sleepRequested answers).pc.busy = false := by
  have hnot : ∀ {pc : WorkerPc}, m.pc = pc → pc.busy = true → False := fun hpc hb => by
    rw [hpc, hb] at hbusy
    cases hbusy
  have hstep := advance_advanced m log now sleepRequested answers
  generalize m.advance now sleepRequested answers = t, m.logged log now answers = log' at hstep ⊢
  cases hstep with
  | moved same follows =>
    by_contra hb
    rw [Bool.not_eq_false] at hb
    rcases follows.busy hb with hm | hm
    · exact hnot rfl hm
    · have hpass : t.pc.inPass = true := by
        rw [busy, Bool.and_eq_true] at hb
        exact hb.1
      exact (h.taken (follows.inPass hpass)).1 (hm ▸ hport)
  | rested hpc => rcases hpc with rfl | rfl <;> rfl
  | loaded => rfl
  | claimed => rfl
  | tookOver => rfl
  | mapped hpc => exact (hnot hpc rfl).elim
  | refused hpc => exact (hnot hpc rfl).elim
  | mappedUpnp hpc => exact (hnot hpc rfl).elim
  | took hpc => exact (hnot hpc rfl).elim
  | cleared hpc => rcases hpc with hpc | hpc <;> exact (hnot hpc rfl).elim
  | published hpc => exact (hnot hpc rfl).elim

@[simp] theorem advance_desired (m : Mapper) (now : Nat) (sleepRequested : Bool) (answers : Answers) :
    (m.advance now sleepRequested answers).desired = m.desired := by
  have hstep := advance_advanced m {} now sleepRequested answers
  generalize m.advance now sleepRequested answers = t, m.logged {} now answers = log' at hstep ⊢
  cases hstep with
  | moved same => exact same.globals.1
  | cleared _ same => exact same.globals.1
  | _ => rfl

theorem portOf_nextRequest (old : U64) (port : U16) : portOf (nextRequest old port) = port := by
  rw [nextRequest, portOf]
  generalize (old >>> 16) + 1 = generation
  apply BitVec.eq_of_getElem_eq
  intro i hi
  simp

theorem portOf_configureNatMapper (m : Mapper) (port : U16) :
    portOf (m.configureNatMapper port).desired = port := by
  unfold configureNatMapper
  split
  · exact portOf_nextRequest m.desired port
  · exact not_ne_iff.mp ‹_›

theorem configureNatMapper_pc (m : Mapper) (port : U16) : (m.configureNatMapper port).pc = m.pc := by
  unfold configureNatMapper
  split <;> rfl

theorem Sound.configured (h : Sound m log) (port : U16) : Sound (m.configureNatMapper port) log := by
  unfold configureNatMapper
  split
  · exact ⟨h.requested, h.asked, h.taken, h.claimed, h.failing, h.tried, h.leased, h.pending, h.result⟩
  · exact h

end Mapper

/-! ### Both threads -/

def NatNode.quiescing : NatNode → Bool
  | .waitingIdle _ | .answering => true
  | _ => false

namespace NatPort

/-- What holds between the threads: the port that is desired is that of the mapped
socket, if any, and a worker that was found idle stays out of its calls. -/
structure Inv (s : NatPort) : Prop where
  sound : s.mapper.Sound s.log
  past : ∀ c ∈ s.log.calls, c.Past s.now
  lined : portOf s.mapper.desired ≠ 0 → 0 ≤ s.wire.mappedFd ∧ s.wire.mappedPort = portOf s.mapper.desired
  quiescing : s.node.quiescing = true → portOf s.mapper.desired = 0
  quiet : s.quiesced = true → portOf s.mapper.desired = 0 ∧ s.mapper.pc.busy = false

variable {s t : NatPort}

theorem inv_initial (nodeAddress : U64) : Inv (initial nodeAddress) :=
  ⟨.away ⟨rfl, rfl⟩ nofun nofun, nofun, fun h => absurd rfl h, nofun, nofun⟩

/-- `ConfigureNatMapper` along with what the node thread does about the mapped socket. -/
theorem Inv.configured (h : Inv s) (port : U16) (wire : NatWire) (node : NatNode)
    (hwire : port ≠ 0 → 0 ≤ wire.mappedFd ∧ wire.mappedPort = port) (hnode : node.quiescing = true → port = 0) :
    Inv { s.configure port with wire := wire, node := node } := by
  have hport : portOf (s.mapper.configureNatMapper port).desired = port := s.mapper.portOf_configureNatMapper port
  refine ⟨h.sound.configured port, h.past, fun hp => ?_, fun hn => hport.trans (hnode hn), fun hq => ?_⟩
  · show 0 ≤ wire.mappedFd ∧ wire.mappedPort = portOf (s.mapper.configureNatMapper port).desired
    rw [hport]
    exact hwire fun h0 => hp (hport.trans h0)
  · have hq' : (s.quiesced && port == 0) = true := hq
    rw [Bool.and_eq_true, beq_iff_eq] at hq'
    refine ⟨hport.trans hq'.2, ?_⟩
    show (s.mapper.configureNatMapper port).pc.busy = false
    rw [Mapper.configureNatMapper_pc]
    exact (h.quiet hq'.1).2

/-- The node thread does something that touches neither the mapper nor the socket. -/
theorem Inv.passed (h : Inv s) (wire : NatWire) (node : NatNode)
    (hwire : wire.mappedFd = s.wire.mappedFd ∧ wire.mappedPort = s.wire.mappedPort)
    (hnode : node.quiescing = true → s.node.quiescing = true) : Inv { s with wire := wire, node := node } := by
  refine ⟨h.sound, h.past, fun hp => ?_, fun hn => h.quiescing (hnode hn), h.quiet⟩
  show 0 ≤ wire.mappedFd ∧ wire.mappedPort = _
  rw [hwire.1, hwire.2]
  exact h.lined hp

theorem Inv.closed (h : Inv s) (hnode : s.node.quiescing = false) : Inv s.closeNatWire :=
  h.configured 0 s.wire.closed s.node (fun h0 => absurd rfl h0) fun hn => absurd (hnode.symm.trans hn) (by decide)

theorem Inv.maintained (h : Inv s) (hnode : s.node = .elsewhere) (o : Opening) : Inv (s.maintainNatWire o) := by
  unfold maintainNatWire
  split
  · exact h
  · split
    · exact h.closed (by rw [hnode]; rfl)
    · dsimp only
      split
      · rename_i hopen
        obtain ⟨hmust, hfd, hbound⟩ := hopen
        refine h.configured _ _ .refreshing (fun _ => ⟨?_, rfl⟩) nofun
        rw [NatWire.opened, if_pos hmust, if_pos ⟨hfd, hbound⟩]
        exact hfd
      · rename_i hopen
        refine h.passed _ .refreshing ?_ nofun
        rw [NatWire.opened]
        split
        · rename_i hmust
          rw [if_neg fun hb => hopen ⟨hmust, hb⟩]
          exact ⟨rfl, rfl⟩
        · exact ⟨rfl, rfl⟩

/-- The worker performs an operation. -/
theorem Inv.worked (h : Inv s) (answers : Answers) :
    Inv
      { s with
        mapper := s.mapper.advance s.now s.sleepRequested answers
        log := s.mapper.logged s.log s.now answers } := by
  refine ⟨h.sound.advance s.now s.sleepRequested answers, Mapper.logged_past h.past s.mapper answers,
    fun hp => ?_, fun hn => ?_, fun hq => ?_⟩
  · simp only [Mapper.advance_desired] at hp ⊢
    exact h.lined hp
  · simp only [Mapper.advance_desired]
    exact h.quiescing hn
  · simp only [Mapper.advance_desired]
    obtain ⟨hport, hbusy⟩ := h.quiet hq
    exact ⟨hport, h.sound.busy_advance s.now s.sleepRequested answers hport hbusy⟩

/-- The answer of `QuiesceNatMapper`: the worker that is idle has given up on what it was
doing, or has not begun. -/
theorem Inv.answered (h : Inv s) (hnode : s.node = .answering) :
    Inv { s with node := .elsewhere, quiesced := s.quiesced || (s.mapper.started && s.mapper.idle) } := by
  refine ⟨h.sound, h.past, h.lined, nofun, fun hq => ?_⟩
  rw [Bool.or_eq_true] at hq
  rcases hq with hq | hq
  · exact h.quiet hq
  · refine ⟨h.quiescing (by rw [hnode]; rfl), ?_⟩
    rw [Bool.and_eq_true] at hq
    by_contra hb
    rw [Bool.not_eq_false] at hb
    exact absurd (hq.2.symm.trans (h.sound.claimed (WorkerPc.claimed_of_busy hb))) (by decide)

theorem inv_step {e : Event} (h : Inv s) (hstep : step s e = some t) : Inv t := by
  have helse : ∀ {node : NatNode}, s.node = node → node.quiescing = false → s.node.quiescing = false :=
    fun hn hq => hn ▸ hq
  cases e with
  | tick ms =>
    cases hstep
    refine ⟨h.sound, fun c hc => ?_, h.lined, h.quiescing, h.quiet⟩
    obtain ⟨hanswered, htaken⟩ := h.past c hc
    exact ⟨Nat.le_add_right_of_le hanswered, htaken⟩
  | sleep requested =>
    cases hstep
    exact ⟨h.sound, h.past, h.lined, h.quiescing, h.quiet⟩
  | worker answers =>
    obtain ⟨_, heq⟩ := Option.ite_none_right_eq_some.mp hstep
    cases heq
    exact h.worked answers
  | startNatMapper =>
    obtain ⟨_, heq⟩ := Option.ite_none_right_eq_some.mp hstep
    cases heq
    obtain ⟨h₁, h₂, h₃, h₄, h₅, h₆, h₇, h₈, h₉⟩ := h.sound
    exact ⟨⟨h₁, h₂, h₃, h₄, h₅, h₆, h₇, h₈, h₉⟩, h.past, h.lined, h.quiescing, h.quiet⟩
  | wireSocket fd =>
    obtain ⟨_, heq⟩ := Option.ite_none_right_eq_some.mp hstep
    cases heq
    exact h.passed _ s.node ⟨rfl, rfl⟩ id
  | closeNatWire =>
    obtain ⟨hnode, heq⟩ := Option.ite_none_right_eq_some.mp hstep
    cases heq
    exact h.closed (helse hnode rfl)
  | maintainNatWire o =>
    obtain ⟨hnode, heq⟩ := Option.ite_none_right_eq_some.mp hstep
    cases heq
    exact h.maintained hnode o
  | getNatEndpoint =>
    obtain ⟨_, heq⟩ := Option.ite_none_right_eq_some.mp hstep
    cases heq
    refine h.passed _ _ ⟨NatWire.refreshed_mappedFd .., NatWire.refreshed_mappedPort ..⟩ ?_
    split <;> exact nofun
  | pollMapped hangup =>
    obtain ⟨_, heq⟩ := Option.ite_none_right_eq_some.mp hstep
    cases heq
    cases hangup with
    | false => exact h.passed s.wire .elsewhere ⟨rfl, rfl⟩ nofun
    | true => exact h.configured 0 s.wire.closed .elsewhere (fun h0 => absurd rfl h0) nofun
  | quiesceNatMapper =>
    obtain ⟨_, heq⟩ := Option.ite_none_right_eq_some.mp hstep
    cases heq
    obtain ⟨h₁, h₂, h₃, _, h₅⟩ := h.configured 0 s.wire .elsewhere (fun h0 => absurd rfl h0) nofun
    exact ⟨h₁, h₂, h₃, fun _ => s.mapper.portOf_configureNatMapper 0, h₅⟩
  | awaitIdle =>
    simp only [step] at hstep
    split at hstep
    · rename_i limit hnode
      split at hstep
      · cases hstep
        exact h
      · cases hstep
        exact h.passed s.wire .answering ⟨rfl, rfl⟩ fun _ => by rw [hnode]; rfl
    · cases hstep
  | answer =>
    obtain ⟨hnode, heq⟩ := Option.ite_none_right_eq_some.mp hstep
    cases heq
    exact h.answered hnode

theorem inv_run (nodeAddress : U64) (events : List Event)
    (hrun : threads.run (initial nodeAddress) events = some s) : Inv s := by
  have hkeeps : threads.Keeps (fun _ _ => true) Inv := fun _ _ _ h _ hstep => inv_step h hstep
  exact hkeeps.run events (inv_initial nodeAddress) (System.meets_true _ events) hrun

/-! ### Results -/

/-- What the mapper gives out, a call made for the desired request was granted, and its
lease has not expired. -/
theorem Inv.fresh (h : Inv s) (hsome : s.mapper.getNatEndpoint s.now ≠ {}) :
    portOf s.mapper.desired ≠ 0 ∧
      ∃ c ∈ s.log.calls, c.word = s.mapper.desired ∧ c.port = portOf s.mapper.desired ∧
        ∃ seconds t, c.Grants (s.mapper.getNatEndpoint s.now) seconds ∧ c.taken = some t ∧ c.answered ≤ t ∧
          s.now < t + seconds * 1000 := by
  unfold Mapper.getNatEndpoint at hsome ⊢
  split at hsome
  · exact absurd rfl hsome
  · rename_i hvalid
    rw [if_neg hvalid]
    rw [not_or, not_ne_iff, Nat.not_le] at hvalid
    obtain ⟨c, hc, hword, hport, hne, seconds, t, hgrants, htaken, hexpiry⟩ :=
      h.sound.result (Nat.zero_lt_of_lt hvalid.2)
    rw [hvalid.1] at hword hport
    exact ⟨hport ▸ hne, c, hc, hword, hport, seconds, t, hgrants, htaken, (h.past c hc).2 t htaken,
      Nat.lt_of_lt_of_le hvalid.2 hexpiry⟩

/-- **The endpoint in use is fresh.** Whatever the two threads do, in any order: an
endpoint returned by `GetNatEndpoint` was granted to a call into the router for the request
that is desired, with its port, and the lease has not expired, counted from the first time
that the worker noted after the answer; and an endpoint given to ZeroTier was so granted
for the port of the mapped socket, which is open. -/
theorem endpoint_fresh (nodeAddress : U64) (events : List Event)
    (hrun : threads.run (initial nodeAddress) events = some s) :
    (s.mapper.getNatEndpoint s.now ≠ {} →
      ∃ c ∈ s.log.calls, c.word = s.mapper.desired ∧ c.port = portOf s.mapper.desired ∧
        ∃ seconds t, c.Grants (s.mapper.getNatEndpoint s.now) seconds ∧ c.taken = some t ∧ c.answered ≤ t ∧
          s.now < t + seconds * 1000) ∧
    ∀ endpoint, s.announced = some endpoint →
      0 ≤ s.wire.mappedFd ∧
      ∃ c ∈ s.log.calls, c.word = s.mapper.desired ∧ c.port = s.wire.mappedPort ∧
        ∃ seconds t, c.Grants endpoint seconds ∧ c.taken = some t ∧ c.answered ≤ t ∧
          s.now < t + seconds * 1000 := by
  have h := inv_run nodeAddress events hrun
  refine ⟨fun hsome => (h.fresh hsome).2, fun endpoint hannounced => ?_⟩
  unfold announced NatWire.announces at hannounced
  obtain ⟨_, hannounced⟩ := Option.ite_none_right_eq_some.mp hannounced
  obtain ⟨⟨_, hfd, haddress, _⟩, heq⟩ := Option.ite_none_right_eq_some.mp hannounced
  cases heq
  obtain ⟨hport, hgranted⟩ := h.fresh fun h0 => haddress (by rw [h0])
  rw [(h.lined hport).2]
  exact ⟨hfd, hgranted⟩

/-- The mapped socket is opened, and the worker comes to the call of `MapPmp` for its
port. -/
def mapping : List Event :=
  [.startNatMapper, .wireSocket 5, .maintainNatWire ⟨true, 0, 7, true⟩] ++
    List.replicate 14 (.worker { nifmInitialize := true, ipConfig := some (0x0a000002, 0x0a000001) })

/-- `MapPmp` succeeds, and its result is published. -/
def mappedTo (endpoint : NatEndpoint) : List Event :=
  .worker { pmp := ⟨some endpoint.address, some (30000, endpoint.port, 600)⟩ } :: List.replicate 5 (.worker {})

theorem endpoint_fresh_mapped :
    ∃ s, threads.run (initial 10000) (mapping ++ mappedTo ⟨0x01020304, 30001⟩) = some s ∧
      s.announced = some ⟨0x01020304, 30001⟩ ∧
      ∃ c ∈ s.log.calls, c.word = s.mapper.desired ∧ c.port = s.wire.mappedPort ∧
        ∃ seconds t, c.Grants ⟨0x01020304, 30001⟩ seconds ∧ c.taken = some t ∧ c.answered ≤ t ∧
          s.now < t + seconds * 1000 := by
  have hsome : ((threads.run (initial 10000) (mapping ++ mappedTo ⟨0x01020304, 30001⟩)).bind announced) =
      some ⟨0x01020304, 30001⟩ := by decide +kernel
  obtain ⟨s, hrun, hannounced⟩ := Option.bind_eq_some_iff.mp hsome
  exact ⟨s, hrun, hannounced, ((endpoint_fresh 10000 _ hrun).2 _ hannounced).2⟩

/-- `MapPmp` is granted a lease of 30 seconds, the worker notes the time 100 ms later, and
30050 ms have passed since the answer. -/
def lateLease : List Event :=
  mapping ++ [.worker { pmp := ⟨some 0x01020304, some (30000, 30001, 30)⟩ }, .tick 100] ++
    List.replicate 5 (.worker {}) ++ [.tick 29950]

/-- `GetNatEndpoint` returns an endpoint whose lease, counted from the router's answer, has
expired. -/
theorem lease_outlived :
    ¬∀ (nodeAddress : U64) (events : List Event) (s : NatPort),
      threads.run (initial nodeAddress) events = some s → s.mapper.getNatEndpoint s.now ≠ {} →
        ∃ c ∈ s.log.calls, ∃ seconds, c.Grants (s.mapper.getNatEndpoint s.now) seconds ∧
          s.now < c.answered + seconds * 1000 := by
  intro hall
  obtain ⟨s, hrun, hp⟩ := (Option.any_eq_true
    (fun s : NatPort => decide (s.mapper.getNatEndpoint s.now ≠ {}) && decide (s.now = 30050) &&
      decide (s.log.calls.map (fun c => (c.answers, c.answered)) =
        [(.inl ⟨some 0x01020304, some (30000, 30001, 30)⟩, 0)]))
    (threads.run (initial 10000) lateLease)).mp (by decide +kernel)
  simp only [Bool.and_eq_true, decide_eq_true_eq] at hp
  obtain ⟨⟨hsome, hnow⟩, hcalls⟩ := hp
  obtain ⟨c, hc, seconds, hgrants, hlasts⟩ := hall 10000 lateLease s hrun hsome
  have hmem := List.mem_map_of_mem (f := fun c : RouterCall => (c.answers, c.answered)) hc
  rw [hcalls, List.mem_singleton, Prod.mk.injEq] at hmem
  unfold RouterCall.Grants at hgrants
  rw [hmem.1] at hgrants
  obtain ⟨-, lifetime, hmapping, rfl⟩ := hgrants
  obtain ⟨-, hgranted⟩ := Prod.mk.inj (Option.some.inj hmapping)
  obtain ⟨-, rfl⟩ := Prod.mk.inj hgranted
  rw [hmem.2, hnow] at hlasts
  revert hlasts
  decide

/-- **A worker found idle makes no call.** Once `QuiesceNatMapper` has returned true with
the worker started, no call of the worker into nifm or into the router is in progress and
none begins, until `ConfigureNatMapper` is called with a port. -/
theorem quiesced_calls_nothing (nodeAddress : U64) (events : List Event)
    (hrun : threads.run (initial nodeAddress) events = some s) (hquiesced : s.quiesced = true) :
    s.mapper.pc.calling = false := by
  have hbusy := ((inv_run nodeAddress events hrun).quiet hquiesced).2
  by_contra hcalling
  rw [Bool.not_eq_false] at hcalling
  exact absurd (hbusy.symm.trans (WorkerPc.busy_of_calling hcalling)) (by decide)

/-- The node thread goes to sleep while the worker is in `MapPmp`. -/
def quiescing : List Event :=
  [.getNatEndpoint, .pollMapped false, .quiesceNatMapper, .awaitIdle] ++ List.replicate 5 (.worker {}) ++
    [.awaitIdle, .answer]

theorem quiesced_calls_nothing_mapping :
    ∃ s, threads.run (initial 10000) (mapping ++ quiescing) = some s ∧ s.quiesced = true ∧
      s.mapper.pc.calling = false := by
  have hsome : ((threads.run (initial 10000) (mapping ++ quiescing)).map quiesced) = some true := by decide +kernel
  obtain ⟨s, hrun, hquiesced⟩ := Option.map_eq_some_iff.mp hsome
  exact ⟨s, hrun, hquiesced, quiesced_calls_nothing 10000 _ hrun hquiesced⟩

end NatPort

end SysZerotier.Port
