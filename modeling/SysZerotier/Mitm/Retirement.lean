import SysZerotier.Mitm.Custody

/-! When sessions, and the proxy buffer, are given up.

A forward session ends in one of three ways (`Ending`). From them follow that the proxy
buffer is lent to one process at a time (`proxy_exclusive`), and that a session that never
registered is closed by its handle, once its process is gone or the real service has shut
all its sockets down (`closed_rightly`).

`shutdowns` is not in the source: what the real service answered `ShutdownAllSockets`,
newest first. -/
namespace SysZerotier.Mitm
open Net Library

namespace Lifetimes

/-! ### Shutdowns -/

/-- Services are released for session `j` right after the real service has shut its
sockets down both ways. -/
def Released (s : Lifetimes) : Prop := ∀ j, s.server = .releasing j → s.shutdowns.head? = some ⟨j, ShutRdwr, .ok 0⟩

theorem serve_released {s t : Lifetimes} {calls : Calls} (hstep : s.serve calls = some t) : Released t := by
  intro j hj
  unfold serve at hstep
  split at hstep
  case h_9 i how hserver =>
    split at hstep
    · cases hstep
      cases hj
    · cases hstep
      dsimp only at hj
      split at hj
      · rename_i ret _ hshut
        cases hj
        rw [shutDown, hshut.1, hshut.2]
        rfl
      · cases hj
  case h_6 | h_7 | h_8 =>
    cases hstep
    first | unfold proxied at hj | unfold forwarded at hj
    split at hj <;> cases hj
  all_goals
    try split at hstep
    all_goals
      try split_ifs at hstep
      all_goals
        cases hstep
        try split at hj
        all_goals cases hj

theorem reap_server (s : Lifetimes) (list : ProcessList) :
    (s.reap list).server = s.server ∧ (s.reap list).shutdowns = s.shutdowns := by
  unfold reap
  split <;> (try split_ifs) <;> exact ⟨rfl, rfl⟩

theorem keeps_released : lives.Keeps (fun _ _ => true) Released := by
  intro s e t hs _ hstep
  cases e with
  | launch =>
    obtain ⟨_, heq⟩ := Option.ite_none_left_eq_some.mp hstep
    cases heq
    exact hs
  | exit =>
    cases hstep
    exact hs
  | shouldMitm | accept | copyReference | dropReference =>
    obtain ⟨_, heq⟩ := Option.ite_none_right_eq_some.mp hstep
    cases heq
    exact hs
  | registerClient | registerClientShared | shutdownAllSockets | destroy =>
    obtain ⟨_, heq⟩ := Option.ite_none_right_eq_some.mp hstep
    cases heq
    exact fun j hj => nomatch hj
  | serve calls =>
    obtain ⟨_, heq⟩ := Option.ite_none_right_eq_some.mp hstep
    exact serve_released heq
  | reap list =>
    obtain ⟨_, heq⟩ := Option.ite_none_right_eq_some.mp hstep
    cases heq
    obtain ⟨hserver, hshutdowns⟩ := s.reap_server list
    intro j hj
    rw [hshutdowns]
    exact hs j (hserver.symm.trans hj)

theorem released_run {es : List Event} {s : Lifetimes} (hrun : lives.run started es = some s) : Released s :=
  keeps_released.run es (fun _ hj => Server.noConfusion hj) (System.meets_true _ es) hrun

/-! ### The end of a forward session -/

/-- How the forward session of `i` ends in a step: the last reference to it goes; its
process is known to be gone; or the real service has shut all sockets of its process down
both ways, and the session is parked. -/
inductive Ending (s t : Lifetimes) (i : Nat) : Prop where
  | closed (link : (t.holdings.session i).link = .closed) (owner : s.holdings.owns i = false)
      (registered : (s.holdings.session i).registered = true)
  | exited (link : (t.holdings.session i).link = .handleClosed) (uses : s.holdings.useCount i = 1)
      (held : 0 < s.holdings.parkedCount i ∨ s.holdings.owns i = true)
      (exited : (s.holdings.session i).pid ∈ s.confirmed)
  | shutDown (link : (t.holdings.session i).link = .handleClosed) (uses : s.holdings.useCount i = 1)
      (parked : 0 < s.holdings.parkedCount i) (j : Nat) (server : s.server = .releasing j)
      (pid : (s.holdings.session j).pid = (s.holdings.session i).pid)

variable {s t : Lifetimes} {i : Nat}

/-- The forward session stays, and with it what it was lent. -/
def Stays (h x : Holdings) (i : Nat) : Prop :=
  (x.session i).link = .connected ∧ ((h.session i).lent = true → (x.session i).lent = true)

theorem not_ended {h x : Holdings} (hsame : h.SameServices x) (hs : (h.session i).link = .connected)
    (hgone : ¬Stays h x i) : False := hgone ⟨(hsame i).2.1.trans hs, (hsame i).2.2⟩

theorem Ending.dropped (h : Inv s) (hi : Inv t) (hd : s.holdings.Dropped t.holdings)
    (hs : (s.holdings.session i).link = .connected) (hgone : ¬Stays s.holdings t.holdings i) : Ending s t i := by
  have hlent : (t.holdings.session i).lent = (s.holdings.session i).lent := (congrArg Session.lent (hd.session i) :)
  have hregistered : (t.holdings.session i).registered = (s.holdings.session i).registered :=
    (congrArg Session.registered (hd.session i) :)
  have ht : (t.holdings.session i).link ≠ .connected := fun hlink => hgone ⟨hlink, hlent.trans⟩
  have hclosed := (hd.link i).resolve_left fun heq => ht (heq.trans hs)
  have hopened : i < t.holdings.opened := hd.opened ▸ h.holdings.opened hs
  refine .closed hclosed ?_ (hregistered.symm.trans (hi.holdings.closed i hopened hclosed))
  by_contra hown
  rw [Bool.not_eq_false] at hown
  apply ht ((hi.holdings.session i).linked (.inr (.inr (.inr ?_))))
  rw [Holdings.owns, hd.owner]
  exact hown

/-- A release of parked services ends those it names, which nothing else refers to. -/
theorem Inv.released (h : Inv s) {pid : U64} (hs : (s.holdings.session i).link = .connected)
    (hgone : ¬Stays s.holdings (s.holdings.releaseParked pid) i) :
    ((s.holdings.releaseParked pid).session i).link = .handleClosed ∧ s.holdings.useCount i = 1 ∧
      0 < s.holdings.parkedCount i ∧ (s.holdings.session i).pid = pid := by
  rw [Stays, Holdings.releaseParked_session] at hgone
  rw [Holdings.releaseParked_session]
  split at hgone
  · rename_i hrel
    rw [if_pos hrel]
    obtain ⟨hparked, hpid, huses⟩ := (h.holdings.released_iff pid i).mp hrel
    exact ⟨rfl, Nat.le_antisymm huses ((h.holdings.session i).counted.mp hs), hparked, hpid⟩
  · exact absurd ⟨hs, id⟩ hgone

theorem Inv.ownerEnded (h : Inv s) (huses : s.ownerUseCount ≤ 1) (hs : (s.holdings.session i).link = .connected)
    (hgone : ¬Stays s.holdings s.holdings.releaseOwner i) :
    (s.holdings.releaseOwner.session i).link = .handleClosed ∧ s.holdings.useCount i = 1 ∧
      s.holdings.owns i = true ∧ (s.holdings.session i).pid = s.holdings.registeredPid := by
  unfold Holdings.releaseOwner at hgone ⊢
  split at hgone
  · exact absurd ⟨hs, id⟩ hgone
  · rename_i j howner
    by_cases hij : i = j
    · subst hij
      rw [ownerUseCount, howner] at huses
      refine ⟨?_, Nat.le_antisymm huses ((h.holdings.session i).counted.mp hs), beq_iff_eq.mpr howner,
        h.holdings.owner i howner⟩
      show ((s.holdings.store i _).session i).link = .handleClosed
      rw [Holdings.store_self]
    · exfalso
      refine hgone ?_
      show Stays s.holdings (s.holdings.store j _) i
      rw [Stays, Holdings.store_other _ _ hij]
      exact ⟨hs, id⟩

theorem served_ending (h : Inv s) (ht : Inv t) {calls : Calls} (hstep : s.serve calls = some t)
    (hlink : (s.holdings.session i).link = .connected) (hgone : ¬Stays s.holdings t.holdings i) :
    Ending s t i := by
  have hv := h.server
  have hsame : t.holdings = s.holdings → Ending s t i := fun heq => absurd (by rw [heq]; exact ⟨hlink, id⟩) hgone
  unfold serve at hstep
  split at hstep
  · cases hstep
  · split at hstep
    · cases hstep
      exact hsame rfl
    · split_ifs at hstep
      · cases hstep
        exact (not_ended (s.holdings.reuse_sameServices _) hlink hgone).elim
      · cases hstep
        exact hsame rfl
      · cases hstep
        exact hsame rfl
  · split_ifs at hstep <;> cases hstep <;> exact hsame rfl
  · rename_i j config proxy tmemSize hserver
    rw [hserver] at hv
    split_ifs at hstep with huses
    · cases hstep
      obtain ⟨hclosed, hone, hown, hpid⟩ := h.ownerEnded huses hlink hgone
      exact .exited hclosed hone (.inr hown) (hpid ▸ hv.2)
    · cases hstep
      exact hsame rfl
  · split_ifs at hstep <;> cases hstep <;> exact hsame rfl
  · cases hstep
    unfold proxied at hgone
    split at hgone
    · exact absurd ⟨hlink, id⟩ hgone
    · exact (not_ended (s.holdings.lend_sameServices _ _) hlink hgone).elim
  · cases hstep
    unfold forwarded at hgone
    split at hgone
    · exact absurd ⟨hlink, id⟩ hgone
    · exact (not_ended (s.holdings.register_sameServices _) hlink hgone).elim
  · cases hstep
    unfold forwarded at hgone
    split at hgone
    · exact absurd ⟨hlink, id⟩ hgone
    · exact (not_ended (s.holdings.register_sameServices _) hlink hgone).elim
  · split at hstep <;> cases hstep <;> exact hsame rfl
  · rename_i j hserver
    cases hstep
    obtain ⟨hclosed, hone, hparked, hpid⟩ := h.released hlink hgone
    exact .shutDown hclosed hone hparked j hserver hpid.symm
  · rename_i j hserver
    rw [hserver] at hv
    split_ifs at hstep with hforward howner
    · cases hstep
      exact hsame rfl
    · cases hstep
      refine .dropped h ht ?_ hlink hgone
      show s.holdings.Dropped (s.holdings.retain j)
      rw [h.holdings.retain_reset hv.2 howner.1]
      exact s.holdings.reset_dropped j
    · cases hstep
      exact hsame rfl
  · split_ifs at hstep <;> cases hstep <;> exact hsame rfl
  · cases hstep
    exact (not_ended (s.holdings.park_sameServices _) hlink hgone).elim
  · cases hstep
    exact .dropped h ht (s.holdings.reset_dropped _) hlink hgone

theorem reaped_ending (h : Inv s) {list : ProcessList} (hstep : s.reap list = t)
    (hlink : (s.holdings.session i).link = .connected) (hgone : ¬Stays s.holdings t.holdings i) :
    Ending s t i := by
  have hr := h.reaper
  have hsame : t.holdings = s.holdings → Ending s t i := fun heq => absurd (by rw [heq]; exact ⟨hlink, id⟩) hgone
  unfold reap at hstep
  split at hstep
  case h_9 pid candidates list' hreaper =>
    rw [hreaper] at hr
    subst hstep
    obtain ⟨hclosed, hone, hparked, hpid⟩ := h.released hlink hgone
    exact .exited hclosed hone (.inl hparked) (hpid ▸ hr.1)
  case h_10 pid candidates list' hreaper =>
    rw [hreaper] at hr
    split_ifs at hstep with hlocks hpid huses
    · subst hstep
      exact hsame rfl
    · subst hstep
      exact hsame rfl
    · subst hstep
      obtain ⟨hclosed, hone, hown, howner⟩ := h.ownerEnded (Nat.not_lt.mp huses) hlink hgone
      exact .exited hclosed hone (.inr hown) (howner ▸ hpid ▸ hr.1)
    · subst hstep
      exact hsame rfl
  all_goals
    try split at hstep
    all_goals
      subst hstep
      exact hsame rfl

/-- **A forward session ends in one of these ways.** -/
theorem step_ending {e : Event} (h : Inv s) (hstep : s.step e = some t)
    (hlink : (s.holdings.session i).link = .connected) (hgone : ¬Stays s.holdings t.holdings i) :
    Ending s t i := by
  have ht := inv_step h hstep
  cases e with
  | launch =>
    obtain ⟨_, heq⟩ := Option.ite_none_left_eq_some.mp hstep
    cases heq
    exact absurd ⟨hlink, id⟩ hgone
  | exit =>
    cases hstep
    exact absurd ⟨hlink, id⟩ hgone
  | accept pid programId =>
    obtain ⟨_, heq⟩ := Option.ite_none_right_eq_some.mp hstep
    cases heq
    have hne : i ≠ s.holdings.opened := (h.holdings.opened hlink).ne
    exfalso
    refine hgone ?_
    show Stays s.holdings (s.holdings.store s.holdings.opened _) i
    rw [Stays, Holdings.store_other _ _ hne]
    exact ⟨hlink, id⟩
  | copyReference j =>
    obtain ⟨_, heq⟩ := Option.ite_none_right_eq_some.mp hstep
    cases heq
    exact (not_ended (s.holdings.copyReference_sameServices j) hlink hgone).elim
  | dropReference j =>
    obtain ⟨_, heq⟩ := Option.ite_none_right_eq_some.mp hstep
    cases heq
    exact .dropped h ht (s.holdings.dropReference_dropped j) hlink hgone
  | destroy j =>
    obtain ⟨_, heq⟩ := Option.ite_none_right_eq_some.mp hstep
    cases heq
    exact (not_ended (s.holdings.destroy_sameServices j) hlink hgone).elim
  | serve calls =>
    obtain ⟨_, heq⟩ := Option.ite_none_right_eq_some.mp hstep
    exact served_ending h ht heq hlink hgone
  | reap list =>
    obtain ⟨_, heq⟩ := Option.ite_none_right_eq_some.mp hstep
    cases heq
    exact reaped_ending h rfl hlink hgone
  | _ =>
    obtain ⟨_, heq⟩ := Option.ite_none_right_eq_some.mp hstep
    cases heq
    exact absurd ⟨hlink, id⟩ hgone

/-! ### The proxy buffer -/

/-- The real service holds a registration of the session that is backed by the proxy
buffer. -/
def lent (s : Lifetimes) (i : Nat) : Prop :=
  (s.holdings.session i).lent = true ∧ (s.holdings.session i).link = .connected

theorem Inv.lent_owns (h : Inv s) (hlent : s.lent i) : s.holdings.owns i = true :=
  (h.holdings.session i).lent hlent.1 hlent.2

theorem Inv.lent_unique (h : Inv s) {j : Nat} (hi : s.lent i) (hj : s.lent j) : i = j := by
  have howner := beq_iff_eq.mp (h.lent_owns hi)
  exact Option.some.inj (howner.symm.trans (beq_iff_eq.mp (h.lent_owns hj)))

theorem inv_runs {es : List Event} (h : Inv s) (hrun : lives.run s es = some t) : Inv t := by
  have hkeeps : lives.Keeps (fun _ _ => true) Inv := fun _ _ _ h _ hstep => inv_step h hstep
  exact hkeeps.run es h (System.meets_true s es) hrun

/-- The buffer changes hands only after the process that had it is known to be gone, in a
state where nothing but the registration refers to its service. -/
theorem Inv.handedOver (h : Inv s) {es : List Event} (hrun : lives.run s es = some t) {j : Nat} (hi : s.lent i)
    (hj : t.lent j) (hne : i ≠ j) :
    ∃ es₁ e es₂ u, es = es₁ ++ e :: es₂ ∧ lives.run s es₁ = some u ∧ u.lent i ∧ u.holdings.useCount i = 1 ∧
      (u.holdings.session i).pid ∈ u.confirmed ∧ (u.holdings.session i).pid ∉ u.alive := by
  have hlast : ¬t.lent i := fun hlent => hne ((inv_runs h hrun).lent_unique hlent hj)
  obtain ⟨es₁, e, es₂, u, v, heq, hpre, hstep, hu, hv⟩ := System.run_leaves (P := fun u => u.lent i) es hrun hi hlast
  have hinv := inv_runs h hpre
  have hown := hinv.lent_owns hu
  refine ⟨es₁, e, es₂, u, heq, hpre, hu, ?_⟩
  cases step_ending hinv hstep hu.2 fun hstays => hv ⟨hstays.2 hu.1, hstays.1⟩ with
  | closed _ hnot => exact absurd (hown.symm.trans hnot) (by decide)
  | exited _ huses _ hexited => exact ⟨huses, hexited, (hinv.confirmed _ hexited).2⟩
  | shutDown _ _ hparked =>
    exact absurd (hown.symm.trans ((hinv.holdings.session i).parked hparked).2.2) (by decide)

/-- A process that has the registration is answered from it. -/
theorem Inv.answered (h : Inv s) {config : BsdServiceConfig} {tmemSize : U64} {calls : Calls} {out : U64}
    (hserver : s.server = .registering i config tmemSize)
    (hfits : proxyConfig (s.holdings.session i).programId config ≠ none)
    (hlending : ((s.holdings.session i).pid, out) ∈ s.lendings) (halive : (s.holdings.session i).pid ∈ s.alive)
    (hstep : s.step (.serve calls) = some t) :
    t.server = .idle ∧ t.replies = (i, .token out) :: s.replies ∧ t.registrations = s.registrations := by
  obtain ⟨_, heq⟩ := Option.ite_none_right_eq_some.mp hstep
  obtain ⟨hpid, hout⟩ := (h.lendings _ hlending).2 halive
  obtain ⟨proxy, hproxy⟩ := Option.ne_none_iff_exists'.mp hfits
  simp only [serve, hserver, hproxy, hpid, if_true] at heq
  cases heq
  exact ⟨rfl, by rw [hout]; rfl, rfl⟩

/-- **The proxy buffer is lent to one process at a time.** In every state: the registered
process id is set when the owner is; one session at most has a registration of the real
service that is backed by the buffer; another one gets it only after the process of the
first is known to be gone, with nothing but the registration referring to it any more; and
a request that fits, of a process that was lent the buffer and is alive, is answered with
its first token and not forwarded. -/
theorem proxy_exclusive {es : List Event} (hrun : lives.run started es = some s) :
    (s.holdings.registeredPid ≠ 0 ↔ s.holdings.owner ≠ none) ∧
      (∀ i j, s.lent i → s.lent j → i = j) ∧
      (∀ es' t i j, lives.run s es' = some t → s.lent i → t.lent j → i ≠ j →
        ∃ es₁ e es₂ u, es' = es₁ ++ e :: es₂ ∧ lives.run s es₁ = some u ∧ u.lent i ∧ u.holdings.useCount i = 1 ∧
          (u.holdings.session i).pid ∈ u.confirmed ∧ (u.holdings.session i).pid ∉ u.alive) ∧
      ∀ i config tmemSize, s.server = .registering i config tmemSize →
        proxyConfig (s.holdings.session i).programId config ≠ none →
        ∀ out, ((s.holdings.session i).pid, out) ∈ s.lendings → (s.holdings.session i).pid ∈ s.alive →
        ∀ calls t, s.step (.serve calls) = some t →
          t.server = .idle ∧ t.replies = (i, .token out) :: s.replies ∧ t.registrations = s.registrations := by
  have h := inv_run hrun
  refine ⟨not_congr h.holdings.paired, fun i j hi hj => h.lent_unique hi hj,
    fun es' t i j hrun' hi hj hne => h.handedOver hrun' hi hj hne, ?_⟩
  intro i config tmemSize hserver hfits out hlending halive calls t hstep
  exact h.answered hserver hfits hlending halive hstep

/-- The configuration of Splatoon 2, which fills the proxy buffer. -/
def splatoonConfig : BsdServiceConfig :=
  { version := 1, tcpTxBufSize := 0x8000, tcpRxBufSize := 0x10000, tcpTxBufMaxSize := 0x40000,
    tcpRxBufMaxSize := 0x40000, udpTxBufSize := 0x2400, udpRxBufSize := 0xA500, sbEfficiency := 4 }

/-- The process 5 is launched, and has a session. -/
def joins : List Event := [.launch 5, .accept 5 0x01003BC0000A0000]

/-- It registers with the proxy buffer, and is given the token 7. -/
def registers : List Event :=
  [.registerClient 0 splatoonConfig 0x5E0000, .serve {}, .serve {}, .serve { registered := .ok 7 }]

theorem proxy_exclusive_again :
    ∃ s t, lives.run started (joins ++ registers ++ [.accept 5 0x01003BC0000A0000,
        .registerClient 1 splatoonConfig 0x5E0000]) = some s ∧ s.step (.serve {}) = some t ∧
      t.server = .idle ∧ t.replies = (1, .token 7) :: s.replies ∧ t.registrations = s.registrations := by
  obtain ⟨s, hs, hp⟩ := (Option.any_eq_true
    (fun s : Lifetimes => decide (s.server = .registering 1 splatoonConfig 0x5E0000) &&
      decide (proxyConfig (s.holdings.session 1).programId splatoonConfig ≠ none) &&
      decide (((s.holdings.session 1).pid, 7) ∈ s.lendings) && decide ((s.holdings.session 1).pid ∈ s.alive) &&
      (s.step (.serve {})).isSome)
    (lives.run started (joins ++ registers ++ [.accept 5 0x01003BC0000A0000,
      .registerClient 1 splatoonConfig 0x5E0000]))).mp (by decide +kernel)
  simp only [Bool.and_eq_true, decide_eq_true_eq] at hp
  obtain ⟨⟨⟨⟨hserver, hfits⟩, hlending⟩, halive⟩, hsome⟩ := hp
  obtain ⟨t, ht⟩ := Option.isSome_iff_exists.mp hsome
  exact ⟨s, t, hs, ht, (proxy_exclusive hs).2.2.2 1 splatoonConfig 0x5E0000 hserver hfits 7 hlending halive {} t ht⟩

/-- The process exits with its next request taken up, and the node thread reaps it. -/
def reaped : List Event :=
  [.destroy 0, .serve {}, .dropReference 0, .accept 5 0x01003BC0000A0000,
    .registerClient 1 splatoonConfig 0x5E0000, .exit 5] ++ List.replicate 9 (.reap { success := true })

/-- A process that registered first with a configuration that does not fit is registered
again, with the proxy buffer; and so is one that has exited and been reaped when its
request comes to the lock. -/
theorem registers_twice :
    (¬∀ (es : List Event) (s : Lifetimes), lives.run started es = some s → ∀ i config tmemSize,
      s.server = .registering i config tmemSize → proxyConfig (s.holdings.session i).programId config ≠ none →
      (∃ j out, (j, .token out) ∈ s.replies ∧ (s.holdings.session j).pid = (s.holdings.session i).pid) →
      (s.holdings.session i).pid ∈ s.alive → ∀ calls t, s.step (.serve calls) = some t → t.server = .idle) ∧
    ¬∀ (es : List Event) (s : Lifetimes), lives.run started es = some s → ∀ i config tmemSize,
      s.server = .registering i config tmemSize → proxyConfig (s.holdings.session i).programId config ≠ none →
      (∃ out, ((s.holdings.session i).pid, out) ∈ s.lendings) →
      ∀ calls t, s.step (.serve calls) = some t → t.server = .idle := by
  constructor
  · intro hall
    obtain ⟨s, hs, hp⟩ := (Option.any_eq_true
      (fun s : Lifetimes => decide (s.server = .registering 0 splatoonConfig 0x5E0000) &&
        decide (proxyConfig (s.holdings.session 0).programId splatoonConfig ≠ none) &&
        decide ((0, .token 7) ∈ s.replies) && decide ((s.holdings.session 0).pid ∈ s.alive) &&
        (s.step (.serve {})).any fun t => decide (t.server ≠ .idle))
      (lives.run started (joins ++ [.registerClient 0 {} 0x5E0000, .serve {}, .serve { registered := .ok 7 },
        .registerClient 0 splatoonConfig 0x5E0000]))).mp (by decide +kernel)
    simp only [Bool.and_eq_true, decide_eq_true_eq] at hp
    obtain ⟨⟨⟨⟨hserver, hfits⟩, hreply⟩, halive⟩, hstep⟩ := hp
    obtain ⟨t, ht, hbusy⟩ := (Option.any_eq_true ..).mp hstep
    exact of_decide_eq_true hbusy (hall _ s hs 0 _ _ hserver hfits ⟨0, 7, hreply, rfl⟩ halive _ t ht)
  · intro hall
    obtain ⟨s, hs, hp⟩ := (Option.any_eq_true
      (fun s : Lifetimes => decide (s.server = .registering 1 splatoonConfig 0x5E0000) &&
        decide (proxyConfig (s.holdings.session 1).programId splatoonConfig ≠ none) &&
        decide (((s.holdings.session 1).pid, 7) ∈ s.lendings) &&
        (s.step (.serve {})).any fun t => decide (t.server ≠ .idle))
      (lives.run started (joins ++ registers ++ reaped))).mp (by decide +kernel)
    simp only [Bool.and_eq_true, decide_eq_true_eq] at hp
    obtain ⟨⟨⟨hserver, hfits⟩, hlending⟩, hstep⟩ := hp
    obtain ⟨t, ht, hbusy⟩ := (Option.any_eq_true ..).mp hstep
    exact of_decide_eq_true hbusy (hall _ s hs 1 _ _ hserver hfits ⟨7, hlending⟩ _ t ht)

/-! ### Sessions that never registered -/

/-- The destructor of a session that never registered leaves its service parked. -/
theorem Inv.destroyed (h : Inv s) {calls : Calls} (hdestroys : s.server.destroys = some i)
    (hregistered : (s.holdings.session i).registered = false) (hstep : s.serve calls = some t)
    (hdone : t.server.destroys = none) : 0 < t.holdings.parkedCount i := by
  have hv := h.server
  have hnot : ¬(s.holdings.session i).registered = true := by rw [hregistered]; decide
  cases hserver : s.server with
  | destroying j =>
    rw [hserver] at hv hdestroys
    cases hdestroys
    simp only [serve, hserver, hv.2, Bool.not_true, Bool.false_eq_true, if_false] at hstep
    split_ifs at hstep with howner
    · exact absurd ((h.holdings.session i).owner ((h.holdings.session i).flagged howner.1 hv.2)).1 hnot
    · cases hstep
      cases hdone
  | examining j =>
    rw [hserver] at hdestroys
    cases hdestroys
    simp only [serve, hserver, if_neg hnot] at hstep
    split_ifs at hstep <;> cases hstep <;> cases hdone
  | parking j =>
    rw [hserver] at hdestroys
    cases hdestroys
    simp only [serve, hserver] at hstep
    cases hstep
    show 0 < (s.holdings.parked ++ [ParkedService.mk _ i]).countP fun e => e.service == i
    rw [List.countP_append, List.countP_singleton, if_pos (beq_iff_eq.mpr rfl)]
    omega
  | dropping j =>
    rw [hserver] at hv hdestroys
    cases hdestroys
    exact absurd hv.2.2 hnot
  | _ =>
    rw [hserver] at hdestroys
    cases hdestroys

/-- **A session that never registered is never closed normally.** In every state: what was
closed by its last reference had registered; while its forward session stands, a session
that has not is referred to by its object or is parked, and its destructor parks it; and
its forward session ends by its handle alone, with nothing but the parked reference left,
once its process is known to be gone, or when the last `ShutdownAllSockets` was one of its
process, with `SHUT_RDWR`, that the real service has carried out. -/
theorem closed_rightly {es : List Event} (hrun : lives.run started es = some s) :
    (∀ i, i < s.holdings.opened → (s.holdings.session i).link = .closed →
      (s.holdings.session i).registered = true) ∧
    (∀ i, (s.holdings.session i).link = .connected → (s.holdings.session i).registered = false →
      (s.holdings.session i).forwardService = true ∨ 0 < s.holdings.parkedCount i) ∧
    (∀ calls t i, s.step (.serve calls) = some t → s.server.destroys = some i → t.server.destroys = none →
      (s.holdings.session i).registered = false → 0 < t.holdings.parkedCount i) ∧
    ∀ e t i, s.step e = some t → (s.holdings.session i).registered = false →
      (s.holdings.session i).link = .connected → (t.holdings.session i).link ≠ .connected →
      (t.holdings.session i).link = .handleClosed ∧ 0 < s.holdings.parkedCount i ∧ s.holdings.useCount i = 1 ∧
        (((s.holdings.session i).pid ∈ s.confirmed ∧ (s.holdings.session i).pid ∉ s.alive) ∨
          ∃ j, s.shutdowns.head? = some ⟨j, ShutRdwr, .ok 0⟩ ∧
            (s.holdings.session j).pid = (s.holdings.session i).pid) := by
  have h := inv_run hrun
  refine ⟨h.holdings.closed, fun i => (h.holdings.session i).kept, fun calls t i hstep hdestroys hdone hno => ?_,
    fun e t i hstep hno hlink hgone => ?_⟩
  · exact h.destroyed hdestroys hno (Option.ite_none_right_eq_some.mp hstep).2 hdone
  · have hnot : ¬(s.holdings.session i).registered = true := by rw [hno]; decide
    cases step_ending h hstep hlink fun hstays => hgone hstays.1 with
    | closed _ _ hregistered => exact absurd hregistered hnot
    | exited hclosed huses hheld hexited =>
      refine ⟨hclosed, hheld.resolve_right fun hown => ?_, huses, .inl ⟨hexited, (h.confirmed _ hexited).2⟩⟩
      exact hnot ((h.holdings.session i).owner hown).1
    | shutDown hclosed huses hparked j hserver hpid =>
      exact ⟨hclosed, hparked, huses, .inr ⟨j, released_run hrun j hserver, hpid⟩⟩

/-- The session is given up without a registration, the process exits, and the node
thread has confirmed it. -/
def parksUnregistered : List Event :=
  joins ++ [.destroy 0, .serve {}, .serve {}, .serve {}, .dropReference 0, .exit 5] ++
    List.replicate 7 (.reap { success := true })

theorem closed_rightly_exited :
    ∃ s t, lives.run started parksUnregistered = some s ∧ s.step (.reap { success := true }) = some t ∧
      (t.holdings.session 0).link = .handleClosed ∧ 0 < s.holdings.parkedCount 0 ∧ s.holdings.useCount 0 = 1 ∧
        (((s.holdings.session 0).pid ∈ s.confirmed ∧ (s.holdings.session 0).pid ∉ s.alive) ∨
          ∃ j, s.shutdowns.head? = some ⟨j, ShutRdwr, .ok 0⟩ ∧
            (s.holdings.session j).pid = (s.holdings.session 0).pid) := by
  obtain ⟨s, hs, hp⟩ := (Option.any_eq_true
    (fun s : Lifetimes => decide ((s.holdings.session 0).registered = false) &&
      decide ((s.holdings.session 0).link = .connected) &&
      (s.step (.reap { success := true })).any fun t : Lifetimes => decide ((t.holdings.session 0).link ≠ .connected))
    (lives.run started parksUnregistered)).mp (by decide +kernel)
  simp only [Bool.and_eq_true, decide_eq_true_eq] at hp
  obtain ⟨t, ht, hgone⟩ := (Option.any_eq_true ..).mp hp.2
  exact ⟨s, t, hs, ht, (closed_rightly hs).2.2.2 _ t 0 ht hp.1.1 hp.1.2 (of_decide_eq_true hgone)⟩

end Lifetimes

end SysZerotier.Mitm
