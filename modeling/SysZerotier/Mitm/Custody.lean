import SysZerotier.Mitm.Lifetimes

/-! What the threads of the module can rely on about each other.

`Inv` ties the holdings to the places of the server thread and of the node thread, and to
the processes: the session in hand still has its object, the registration stands while its
lock is held, and a process that a list lacks is not alive. -/
namespace SysZerotier.Mitm
open Net Library

namespace Holdings

/-! ### What the operations leave alone -/

/-- The objects and the registrations of all sessions are as before. -/
def SameObjects (h t : Holdings) : Prop :=
  ∀ i, t.session i = { h.session i with framework := (t.session i).framework, link := (t.session i).link }

variable {h t : Holdings}

theorem SameObjects.object (hs : SameObjects h t) (i : Nat) :
    (t.session i).object = (h.session i).object ∧ (t.session i).forwardService = (h.session i).forwardService ∧
      (t.session i).registered = (h.session i).registered :=
  ⟨(congrArg Session.object (hs i) :), (congrArg Session.forwardService (hs i) :),
    (congrArg Session.registered (hs i) :)⟩

theorem SameObjects.pid (hs : SameObjects h t) (i : Nat) : (t.session i).pid = (h.session i).pid :=
  (congrArg Session.pid (hs i) :)

theorem store_sameObjects (h : Holdings) (i : Nat) {k : Session}
    (hk : k = { h.session i with framework := k.framework, link := k.link }) :
    SameObjects h (h.store i k) := fun j => by
  by_cases hj : j = i
  · rw [hj, store_self]
    exact hk
  · rw [store_other h k hj]

/-- The processes and the forward sessions of all sessions are as before, and those that
were lent the proxy buffer still are. -/
def SameServices (h t : Holdings) : Prop :=
  ∀ i, (t.session i).pid = (h.session i).pid ∧ (t.session i).link = (h.session i).link ∧
    ((h.session i).lent = true → (t.session i).lent = true)

theorem store_sameServices (h : Holdings) (i : Nat) {k : Session} (hpid : k.pid = (h.session i).pid)
    (hlink : k.link = (h.session i).link) (hlent : (h.session i).lent = true → k.lent = true) :
    SameServices h (h.store i k) := fun j => by
  by_cases hj : j = i
  · rw [hj, store_self]
    exact ⟨hpid, hlink, hlent⟩
  · rw [store_other h k hj]
    exact ⟨rfl, rfl, id⟩

theorem copyReference_sameServices (h : Holdings) (i : Nat) : SameServices h (h.copyReference i) :=
  store_sameServices h i (by rfl) (by rfl) id

theorem destroy_sameServices (h : Holdings) (i : Nat) : SameServices h (h.destroy i) :=
  store_sameServices h i (by rfl) (by rfl) id

theorem register_sameServices (h : Holdings) (i : Nat) : SameServices h (h.register i) :=
  store_sameServices h i (by rfl) (by rfl) id

theorem reuse_sameServices (h : Holdings) (i : Nat) : SameServices h (h.reuse i) :=
  store_sameServices h i (by rfl) (by rfl) id

theorem lend_sameServices (h : Holdings) (i : Nat) (out : U64) : SameServices h (h.lend i out) := by
  show SameServices h (h.store i _)
  exact store_sameServices h i (by rfl) (by rfl) fun _ => rfl

theorem park_sameServices (h : Holdings) (i : Nat) : SameServices h (h.park i) := by
  show SameServices h (h.store i _)
  exact store_sameServices h i (by rfl) (by rfl) id

/-- References have gone, and with the last one to a service its forward session. -/
structure Dropped (h t : Holdings) : Prop where
  session : ∀ i, t.session i =
    { h.session i with
      forwardService := (t.session i).forwardService
      framework := (t.session i).framework
      link := (t.session i).link }
  link : ∀ i, (t.session i).link = (h.session i).link ∨ (t.session i).link = .closed
  owner : t.owner = h.owner
  opened : t.opened = h.opened

theorem Dropped.pid {h t : Holdings} (hd : Dropped h t) (i : Nat) : (t.session i).pid = (h.session i).pid :=
  (congrArg Session.pid (hd.session i) :)

theorem settle_dropped (h : Holdings) (i : Nat) {k : Session}
    (hk : k = { h.session i with forwardService := k.forwardService, framework := k.framework }) :
    Dropped h ((h.store i k).settle i) := by
  rw [store_settle]
  refine ⟨fun j => ?_, fun j => ?_, rfl, rfl⟩
  · by_cases hj : j = i
    · rw [hj, store_self, hk]
      unfold Session.settled
      split <;> rfl
    · rw [store_other h _ hj]
  · by_cases hj : j = i
    · rw [hj, store_self, hk]
      unfold Session.settled
      split
      · exact .inr rfl
      · exact .inl rfl
    · rw [store_other h _ hj]
      exact .inl rfl

theorem dropReference_dropped (h : Holdings) (i : Nat) : Dropped h (h.dropReference i) := settle_dropped h i (by rfl)

theorem reset_dropped (h : Holdings) (i : Nat) : Dropped h (h.reset i) := settle_dropped h i (by rfl)

/-- The owner's session gives its reference up, and the registration keeps its own. -/
theorem Inv.retain_reset {h : Holdings} (hi : h.Inv) {i : Nat} (hforward : (h.session i).forwardService = true)
    (hflag : (h.session i).proxyRegistrationOwner = true) : h.retain i = h.reset i := by
  have hown := (hi.session i).flagged hflag hforward
  refine if_neg fun hnone => ?_
  rw [owns, hnone] at hown
  cases hown

theorem copyReference_sameObjects (h : Holdings) (i : Nat) : SameObjects h (h.copyReference i) :=
  store_sameObjects h i rfl

theorem dropReference_sameObjects (h : Holdings) (i : Nat) : SameObjects h (h.dropReference i) := by
  rw [dropReference, store_settle]
  apply store_sameObjects
  unfold Session.settled
  split <;> rfl

theorem releaseParked_sameObjects (h : Holdings) (pid : U64) : SameObjects h (h.releaseParked pid) := fun i => by
  rw [releaseParked_session]
  split <;> rfl

theorem releaseOwner_sameObjects (h : Holdings) : SameObjects h h.releaseOwner := by
  unfold releaseOwner
  split
  · exact fun i => rfl
  · exact store_sameObjects h _ rfl

theorem releaseOwner_owner (h : Holdings) : h.releaseOwner.owner = none := by
  unfold releaseOwner
  split
  · assumption
  · rfl

end Holdings

namespace Lifetimes

/-! ### Places of the threads -/

/-- What the server thread relies on in each place. -/
def Server.Valid (h : Holdings) (confirmed : List U64) : Server → Prop
  | .idle => True
  | .registering i _ _ | .forwarding i _ _ | .sharing i _ _ | .shuttingDown i _ | .releasing i =>
    (h.session i).object = true
  | .asking i _ _ _ => (h.session i).object = true ∧ h.registeredPid ≠ 0
  | .retiring i _ _ _ => (h.session i).object = true ∧ h.registeredPid ∈ confirmed
  | .creating i _ _ _ | .proxying i _ => (h.session i).object = true ∧ h.owner = none
  | .destroying i => (h.session i).object = false ∧ (h.session i).forwardService = true
  | .examining i | .parking i =>
    (h.session i).object = false ∧ (h.session i).forwardService = true ∧ h.owns i = false
  | .dropping i =>
    (h.session i).object = false ∧ (h.session i).forwardService = true ∧ (h.session i).registered = true

theorem Server.Valid.same {v : Server} {h t : Holdings} {c d : List U64} (hv : v.Valid h c)
    (hs : h.SameObjects t) (hc : ∀ pid ∈ c, pid ∈ d)
    (howner : v.locks = true → t.owner = h.owner ∧ t.registeredPid = h.registeredPid)
    (howns : ∀ i, h.owns i = false → t.owns i = false) : v.Valid t d := by
  cases v with
  | idle => trivial
  | registering i | forwarding i | sharing i | shuttingDown i | releasing i => exact (hs.object i).1.trans hv
  | asking i => exact ⟨(hs.object i).1.trans hv.1, by rw [(howner rfl).2]; exact hv.2⟩
  | retiring i => exact ⟨(hs.object i).1.trans hv.1, by rw [(howner rfl).2]; exact hc _ hv.2⟩
  | creating i | proxying i => exact ⟨(hs.object i).1.trans hv.1, (howner rfl).1.trans hv.2⟩
  | destroying i => exact ⟨(hs.object i).1.trans hv.1, (hs.object i).2.1.trans hv.2⟩
  | examining i | parking i =>
    exact ⟨(hs.object i).1.trans hv.1, (hs.object i).2.1.trans hv.2.1, howns i hv.2.2⟩
  | dropping i =>
    exact ⟨(hs.object i).1.trans hv.1, (hs.object i).2.1.trans hv.2.1, (hs.object i).2.2.trans hv.2.2⟩

/-- What the node thread relies on: its candidates have been launched, and those that
its list lacks are gone. -/
def Reaper.Valid (launched alive confirmed : List U64) : Reaper → Prop
  | .idle => True
  | .counters c | .registration c | .querying c => ∀ pid ∈ c, pid ∈ launched
  | .testing c list => ∀ pid ∈ c, pid ∈ launched ∧ (processHasExited pid list = true → pid ∉ alive)
  | .forgetting pid c list | .closing pid c list | .releasing pid c list | .retiring pid c list
  | .clearing pid c list =>
    pid ∈ confirmed ∧ ∀ pid ∈ c, pid ∈ launched ∧ (processHasExited pid list = true → pid ∉ alive)

theorem not_alive {pid : U64} {list : ProcessList} {alive : List U64} (hexited : processHasExited pid list = true)
    (hpromised : list.promised alive = true) : pid ∉ alive := by
  intro halive
  rw [processHasExited, processListConfirmsExit] at hexited
  split at hexited
  · cases hexited
  · rename_i hno
    simp only [not_or, Bool.not_eq_false, not_lt, Nat.cast_ofNat, not_le] at hno
    rw [ProcessList.promised, hno.2.1, decide_eq_true hno.2.2.1, decide_eq_true hno.2.2.2, Bool.and_self,
      Bool.and_self, Bool.not_true, Bool.false_or, List.all_eq_true] at hpromised
    rw [hpromised pid halive] at hexited
    cases hexited

structure Inv (s : Lifetimes) : Prop where
  holdings : s.holdings.Inv
  alive : ∀ pid ∈ s.alive, pid ∈ s.launched
  nonzero : ∀ pid ∈ s.launched, pid ≠ 0
  known : ∀ i, i < s.holdings.opened → (s.holdings.session i).pid ∈ s.launched
  counters : ∀ k, (s.counters k).pid ≠ 0 → (s.counters k).pid ∈ s.launched
  confirmed : ∀ pid ∈ s.confirmed, pid ∈ s.launched ∧ pid ∉ s.alive
  lendings : ∀ x ∈ s.lendings,
    x.1 ∈ s.launched ∧ (x.1 ∈ s.alive → s.holdings.registeredPid = x.1 ∧ s.holdings.registeredOut = x.2)
  server : s.server.Valid s.holdings s.confirmed
  reaper : s.reaper.Valid s.launched s.alive s.confirmed

theorem Reaper.Valid.mono {r : Reaper} {l a c l' a' c' : List U64} (hv : r.Valid l a c) (hl : ∀ pid ∈ l, pid ∈ l')
    (ha : ∀ pid ∈ l, pid ∉ a → pid ∉ a') (hc : ∀ pid ∈ c, pid ∈ c') : r.Valid l' a' c' := by
  have htesting : ∀ {candidates : List U64} {list : ProcessList},
      (∀ pid ∈ candidates, pid ∈ l ∧ (processHasExited pid list = true → pid ∉ a)) →
      ∀ pid ∈ candidates, pid ∈ l' ∧ (processHasExited pid list = true → pid ∉ a') := fun h pid hp =>
    ⟨hl pid (h pid hp).1, fun hexited => ha pid (h pid hp).1 ((h pid hp).2 hexited)⟩
  cases r with
  | idle => trivial
  | counters | registration | querying => exact fun pid hp => hl pid (hv pid hp)
  | testing => exact htesting hv
  | forgetting | closing | releasing | retiring | clearing => exact ⟨hc _ hv.1, htesting hv.2⟩

variable {s t : Lifetimes}

theorem Inv.started : Inv started :=
  ⟨.initial, nofun, nofun, nofun, fun _ h => absurd rfl h, nofun, nofun, trivial, trivial⟩

/-! ### Processes -/

theorem Inv.launched (h : Inv s) {pid : U64} (hpid : pid ≠ 0) (hnew : pid ∉ s.launched) :
    Inv { s with launched := pid :: s.launched, alive := pid :: s.alive } := by
  have hold : ∀ p ∈ s.launched, p ≠ pid := fun p hp heq => hnew (heq ▸ hp)
  have halive : ∀ p ∈ s.launched, p ∉ s.alive → p ∉ pid :: s.alive := fun p hp hno hmem =>
    (List.mem_cons.mp hmem).elim (hold p hp) hno
  have hmem : ∀ {p}, p ∈ s.launched → p ∈ pid :: s.launched := List.mem_cons_of_mem pid
  refine ⟨h.holdings, fun p hp => ?_, fun p hp => ?_, fun i hi => hmem (h.known i hi),
    fun k hk => hmem (h.counters k hk), fun p hp => ?_, fun x hx => ?_, h.server,
    h.reaper.mono (fun p hp => hmem hp) halive fun _ hp => hp⟩
  · rcases List.mem_cons.mp hp with rfl | hp
    · exact List.mem_cons_self
    · exact hmem (h.alive p hp)
  · rcases List.mem_cons.mp hp with rfl | hp
    · exact hpid
    · exact h.nonzero p hp
  · obtain ⟨hl, ha⟩ := h.confirmed p hp
    exact ⟨hmem hl, halive p hl ha⟩
  · obtain ⟨hl, ha⟩ := h.lendings x hx
    exact ⟨hmem hl, fun hx => ha ((List.mem_cons.mp hx).resolve_left (hold x.1 hl))⟩

theorem Inv.exited (h : Inv s) (pid : U64) : Inv { s with alive := s.alive.filter (· ≠ pid) } := by
  have hsub : ∀ {p}, p ∈ s.alive.filter (· ≠ pid) → p ∈ s.alive := fun hp => (List.mem_filter.mp hp).1
  refine ⟨h.holdings, fun p hp => h.alive p (hsub hp), h.nonzero, h.known, h.counters, fun p hp => ?_,
    fun x hx => ?_, h.server, h.reaper.mono (fun _ hp => hp) (fun p _ hno hp => hno (hsub hp)) fun _ hp => hp⟩
  · obtain ⟨hl, ha⟩ := h.confirmed p hp
    exact ⟨hl, fun hp => ha (hsub hp)⟩
  · obtain ⟨hl, ha⟩ := h.lendings x hx
    exact ⟨hl, fun hx => ha (hsub hx)⟩

/-- The first slot of the process counts on, or else the first free one is taken for it. -/
theorem countClientSession_cases (counters : Nat → ClientSessions) (pid : U64) :
    (∃ k, k < MaxTrackedClients ∧ (counters k).pid = pid ∧
      countClientSession counters pid =
        (Function.update counters k ⟨pid, (counters k).count + 1⟩, ((counters k).count + 1).toInt)) ∨
    (∀ k, k < MaxTrackedClients → (counters k).pid ≠ pid) ∧
      ((∃ k, k < MaxTrackedClients ∧ (counters k).pid = 0 ∧
        countClientSession counters pid = (Function.update counters k ⟨pid, 1⟩, 1)) ∨
      (∀ k, k < MaxTrackedClients → (counters k).pid ≠ 0) ∧ countClientSession counters pid = (counters, -1)) := by
  have hfound : ∀ {q : U64} {k : Nat}, (List.range MaxTrackedClients).find? (fun k => (counters k).pid == q) = some k →
      k < MaxTrackedClients ∧ (counters k).pid = q := fun hk =>
    ⟨List.mem_range.mp (List.mem_of_find?_eq_some hk), by simpa using List.find?_some hk⟩
  have hnone : ∀ {q : U64}, (List.range MaxTrackedClients).find? (fun k => (counters k).pid == q) = none →
      ∀ k, k < MaxTrackedClients → (counters k).pid ≠ q := fun hq k hk => by
    simpa using List.find?_eq_none.mp hq k (List.mem_range.mpr hk)
  rw [countClientSession]
  split
  · rename_i k hk
    obtain ⟨hlt, hpid⟩ := hfound hk
    exact .inl ⟨k, hlt, hpid, rfl⟩
  · rename_i hno
    refine .inr ⟨hnone hno, ?_⟩
    split
    · rename_i k hk
      obtain ⟨hlt, hfree⟩ := hfound hk
      exact .inl ⟨k, hlt, hfree, rfl⟩
    · rename_i hfull
      exact .inr ⟨hnone hfull, rfl⟩

theorem countClientSession_pid (counters : Nat → ClientSessions) (pid : U64) (k : Nat) :
    ((countClientSession counters pid).1 k).pid = pid ∨
      (countClientSession counters pid).1 k = counters k := by
  have hupdate : ∀ (j : Nat) (n : U32), (Function.update counters j ⟨pid, n⟩ k).pid = pid ∨
      Function.update counters j ⟨pid, n⟩ k = counters k := fun j n => by
    by_cases hk : k = j
    · rw [hk, Function.update_self]
      exact .inl rfl
    · exact .inr (Function.update_of_ne hk ..)
  rcases countClientSession_cases counters pid with ⟨j, -, -, heq⟩ | ⟨-, ⟨j, -, -, heq⟩ | ⟨-, heq⟩⟩
  · rw [heq]
    exact hupdate _ _
  · rw [heq]
    exact hupdate _ _
  · rw [heq]
    exact .inr rfl

theorem Inv.tallied (h : Inv s) {counters : Nat → ClientSessions}
    (hc : ∀ k, (counters k).pid ≠ 0 → (counters k).pid ∈ s.launched) : Inv { s with counters := counters } :=
  ⟨h.holdings, h.alive, h.nonzero, h.known, hc, h.confirmed, h.lendings, h.server, h.reaper⟩

theorem Inv.counted (h : Inv s) {pid : U64} (hpid : pid ∈ s.launched) :
    Inv { s with counters := (countClientSession s.counters pid).1 } := by
  refine h.tallied fun k hk => ?_
  rcases countClientSession_pid s.counters pid k with heq | heq
  · rw [heq]
    exact hpid
  · rw [heq] at hk ⊢
    exact h.counters k hk

theorem Inv.cleared (h : Inv s) (pid : U64) : Inv { s with counters := clearCounters s.counters pid } := by
  refine h.tallied fun k hk => ?_
  unfold clearCounters at hk ⊢
  split at hk
  · exact absurd rfl hk
  · rename_i hno
    rw [if_neg hno]
    exact h.counters k hk

/-- An exit has been confirmed. -/
theorem Inv.confirms (h : Inv s) {pid : U64} (hl : pid ∈ s.launched) (ha : pid ∉ s.alive) :
    Inv { s with confirmed := pid :: s.confirmed } := by
  have hmem : ∀ p ∈ s.confirmed, p ∈ pid :: s.confirmed := fun p => List.mem_cons_of_mem pid
  refine ⟨h.holdings, h.alive, h.nonzero, h.known, h.counters, fun p hp => ?_, h.lendings,
    h.server.same (fun _ => rfl) hmem (fun _ => ⟨rfl, rfl⟩) fun _ => id,
    h.reaper.mono (fun _ hp => hp) (fun _ _ => id) hmem⟩
  rcases List.mem_cons.mp hp with rfl | hp
  · exact ⟨hl, ha⟩
  · exact h.confirmed p hp

theorem Inv.reaps (h : Inv s) {r : Reaper} (hr : r.Valid s.launched s.alive s.confirmed) :
    Inv { s with reaper := r } :=
  ⟨h.holdings, h.alive, h.nonzero, h.known, h.counters, h.confirmed, h.lendings, h.server, hr⟩

/-! ### Holdings -/

/-- The server thread moves on, and the holdings change but for the registration. -/
theorem Inv.moved (h : Inv s) {x : Holdings} {v : Server} {ready : Bool} {g : List Registration}
    {d : List Shutdown} {r : List (Nat × ClientReply)} (hx : x.Inv)
    (hpids : ∀ i, (x.session i).pid = (s.holdings.session i).pid) (hopened : x.opened = s.holdings.opened)
    (hpid : x.registeredPid = s.holdings.registeredPid) (hout : x.registeredOut = s.holdings.registeredOut)
    (hv : v.Valid x s.confirmed) :
    Inv
      { s with
        holdings := x, server := v, proxyTmemReady := ready, registrations := g, shutdowns := d, replies := r } := by
  refine ⟨hx, h.alive, h.nonzero, fun i hi => ?_, h.counters, h.confirmed, fun y hy => ?_, hv, h.reaper⟩
  · rw [hpids]
    exact h.known i (hopened ▸ hi)
  · rw [hpid, hout]
    exact h.lendings y hy

/-- The server thread moves on. -/
theorem Inv.proceeds (h : Inv s) {v : Server} {ready : Bool} {g : List Registration} {d : List Shutdown}
    {r : List (Nat × ClientReply)} (hv : v.Valid s.holdings s.confirmed) :
    Inv { s with server := v, proxyTmemReady := ready, registrations := g, shutdowns := d, replies := r } :=
  h.moved h.holdings (fun _ => rfl) rfl rfl rfl hv

/-- The holdings change, but not the objects, nor the registration. -/
theorem Inv.held (h : Inv s) {x : Holdings} (hx : x.Inv) (hs : s.holdings.SameObjects x)
    (hopened : x.opened = s.holdings.opened) (howner : x.owner = s.holdings.owner)
    (hpid : x.registeredPid = s.holdings.registeredPid) (hout : x.registeredOut = s.holdings.registeredOut) :
    Inv { s with holdings := x } := by
  refine h.moved hx hs.pid hopened hpid hout
    (h.server.same hs (fun _ hp => hp) (fun _ => ⟨howner, hpid⟩) fun i hi => ?_)
  rw [Holdings.owns, howner]
  exact hi

/-- The registration is released: its process is gone, and so the proxy buffer is not
lent to anyone alive. -/
theorem Inv.ownerReleased (h : Inv s) (huses : s.ownerUseCount ≤ 1)
    (hconfirmed : s.holdings.registeredPid ∈ s.confirmed) {v : Server}
    (hv : v.Valid s.holdings.releaseOwner s.confirmed) :
    Inv { s with holdings := s.holdings.releaseOwner, server := v } := by
  have hx : s.holdings.releaseOwner.Inv := h.holdings.releaseOwner fun i hi => by
    rw [ownerUseCount, hi] at huses
    exact huses
  have hopened : s.holdings.releaseOwner.opened = s.holdings.opened := by
    unfold Holdings.releaseOwner
    split <;> rfl
  refine ⟨hx, h.alive, h.nonzero, fun i hi => ?_, h.counters, h.confirmed, fun x hx => ?_, hv, h.reaper⟩
  · rw [s.holdings.releaseOwner_sameObjects.pid]
    exact h.known i (hopened ▸ hi)
  · obtain ⟨hl, ha⟩ := h.lendings x hx
    refine ⟨hl, fun halive => absurd halive ?_⟩
    rw [← (ha halive).1]
    exact (h.confirmed _ hconfirmed).2

theorem Inv.registered (h : Inv s) (hpid : s.holdings.registeredPid ≠ 0) :
    s.holdings.registeredPid ∈ s.launched := by
  obtain ⟨i, hi⟩ := Option.ne_none_iff_exists'.mp fun hnone => hpid (h.holdings.paired.mpr hnone)
  have hlink := (h.holdings.session i).linked (.inr (.inr (.inr (beq_iff_eq.mpr hi))))
  rw [← h.holdings.owner i hi]
  exact h.known i (h.holdings.opened hlink)

/-- The proxy buffer is lent to a process. -/
theorem Inv.lends (h : Inv s) {i : Nat} (hobject : (s.holdings.session i).object = true)
    (howner : s.holdings.owner = none) (out : U64) {g : List Registration} {r : List (Nat × ClientReply)} :
    Inv
      { s with
        holdings := s.holdings.lend i out
        server := .idle
        registrations := g
        replies := r
        lendings := ((s.holdings.session i).pid, out) :: s.lendings } := by
  have hl : (s.holdings.session i).pid ∈ s.launched := h.known i (h.holdings.opened (h.holdings.connected hobject))
  refine ⟨h.holdings.lend hobject howner (h.nonzero _ hl) out, h.alive, h.nonzero, fun j hj => ?_, h.counters,
    h.confirmed, fun x hx => ?_, trivial, h.reaper⟩
  · rw [(s.holdings.lend_sameServices i out j).1]
    exact h.known j hj
  · rcases List.mem_cons.mp hx with rfl | hx
    · exact ⟨hl, fun _ => ⟨rfl, rfl⟩⟩
    · obtain ⟨hxl, ha⟩ := h.lendings x hx
      refine ⟨hxl, fun halive => absurd ((ha halive).1.symm.trans (h.holdings.paired.mpr howner)) ?_⟩
      exact h.nonzero _ hxl

theorem Inv.forwarded (h : Inv s) {i : Nat} (hobject : (s.holdings.session i).object = true) (config : BsdServiceConfig)
    (size : U64) (registered : Except U32 U64) : Inv (s.forwarded i config size registered) := by
  unfold Lifetimes.forwarded
  split
  · exact h.proceeds trivial
  · exact h.moved (h.holdings.register hobject) (fun j => (s.holdings.register_sameServices i j).1) rfl rfl rfl
      trivial

/-! ### Steps of the threads -/

theorem Inv.served (h : Inv s) {calls : Calls} (hpromised : calls.processes.promised s.alive = true)
    (hstep : s.serve calls = some t) : Inv t := by
  have hv := h.server
  have hi := h.holdings
  unfold serve at hstep
  split at hstep
  · cases hstep
  · rename_i i config tmemSize hserver
    rw [hserver] at hv
    split at hstep
    · cases hstep
      exact h.proceeds hv
    · split_ifs at hstep with hpid hzero
      · cases hstep
        exact h.moved (hi.reuse hv) (fun j => (s.holdings.reuse_sameServices i j).1) rfl rfl rfl trivial
      · cases hstep
        exact h.proceeds ⟨hv, hzero⟩
      · cases hstep
        exact h.proceeds ⟨hv, hi.paired.mp (not_ne_iff.mp hzero)⟩
  · rename_i i config proxy tmemSize hserver
    rw [hserver] at hv
    split_ifs at hstep with hexited
    · cases hstep
      exact (h.confirms (h.registered hv.2) (not_alive hexited hpromised)).proceeds ⟨hv.1, List.mem_cons_self⟩
    · cases hstep
      exact h.proceeds trivial
  · rename_i i config proxy tmemSize hserver
    rw [hserver] at hv
    split_ifs at hstep with huses
    · cases hstep
      refine h.ownerReleased huses hv.2 ⟨?_, s.holdings.releaseOwner_owner⟩
      exact (s.holdings.releaseOwner_sameObjects.object i).1.trans hv.1
    · cases hstep
      exact h.proceeds trivial
  · rename_i i config proxy tmemSize hserver
    rw [hserver] at hv
    split_ifs at hstep with hready
    · cases hstep
      exact h.proceeds hv
    · cases hstep
      exact h.proceeds hv.1
  · rename_i i proxy hserver
    rw [hserver] at hv
    cases hstep
    unfold proxied
    split
    · exact h.proceeds trivial
    · exact h.lends hv.1 hv.2 _
  · rename_i i config tmemSize hserver
    rw [hserver] at hv
    cases hstep
    exact h.forwarded hv config tmemSize _
  · rename_i i config workSize hserver
    rw [hserver] at hv
    cases hstep
    exact h.forwarded hv config workSize _
  · rename_i i how hserver
    rw [hserver] at hv
    split at hstep
    · cases hstep
      exact h.proceeds trivial
    · cases hstep
      refine h.proceeds ?_
      split
      · exact hv
      · trivial
  · rename_i i hserver
    cases hstep
    exact h.moved (hi.releaseParked _) (s.holdings.releaseParked_pid _) rfl rfl rfl trivial
  · rename_i i hserver
    rw [hserver] at hv
    split_ifs at hstep with hforward howner
    · cases hstep
      exact h.proceeds trivial
    · cases hstep
      rw [hi.retain_reset hv.2 howner.1]
      have hown := (hi.session i).flagged howner.1 hv.2
      have hlink := (hi.session i).linked (.inl hv.2)
      exact h.moved (hi.reset hv.1 hlink ((hi.session i).owner hown).1) (s.holdings.reset_dropped i).pid rfl rfl rfl
        trivial
    · cases hstep
      refine h.proceeds ⟨hv.1, hv.2, ?_⟩
      by_contra hown
      rw [Bool.not_eq_false] at hown
      have hpid := hi.owner i (beq_iff_eq.mp hown)
      exact howner ⟨((hi.session i).owner hown).2.2, hpid.symm⟩
  · rename_i i hserver
    rw [hserver] at hv
    split_ifs at hstep with hexited hregistered
    · cases hstep
      have hlink := (hi.session i).linked (.inl hv.2.1)
      exact (h.confirms (h.known i (hi.opened hlink)) (not_alive hexited hpromised)).proceeds hv
    · cases hstep
      exact h.proceeds ⟨hv.1, hv.2.1, hregistered⟩
    · cases hstep
      exact h.proceeds hv
  · rename_i i hserver
    rw [hserver] at hv
    cases hstep
    exact h.moved (hi.park hv.1 hv.2.1 hv.2.2) (fun j => (s.holdings.park_sameServices i j).1) rfl rfl rfl trivial
  · rename_i i hserver
    rw [hserver] at hv
    cases hstep
    have hlink := (hi.session i).linked (.inl hv.2.1)
    exact h.moved (hi.reset hv.1 hlink hv.2.2) (s.holdings.reset_dropped i).pid rfl rfl rfl trivial

theorem mem_remember {candidates pids : List U64} {pid : U64} (h : pid ∈ remember candidates pids) :
    pid ∈ candidates ∨ (pid ∈ pids ∧ pid ≠ 0) := by
  induction pids generalizing candidates with
  | nil => exact .inl h
  | cons p pids ih =>
    rw [remember, List.foldl_cons] at h
    rcases ih h with hin | ⟨hin, hne⟩
    · split at hin
      · exact .inl hin
      · rename_i hno
        rcases List.mem_append.mp hin with hin | hin
        · exact .inl hin
        · rw [List.mem_singleton.mp hin]
          exact .inr ⟨List.mem_cons_self, fun h0 => hno (.inl h0)⟩
    · exact .inr ⟨List.mem_cons_of_mem p hin, hne⟩

theorem Inv.parked_launched (h : Inv s) {e : ParkedService} (he : e ∈ s.holdings.parked) : e.pid ∈ s.launched := by
  have hpos : 0 < s.holdings.parkedCount e.service := List.countP_pos_iff.mpr ⟨e, he, beq_iff_eq.mpr rfl⟩
  have hlink := (h.holdings.session e.service).linked (.inr (.inr (.inl hpos)))
  rw [h.holdings.parked e he]
  exact h.known _ (h.holdings.opened hlink)

/-- A step of the node thread keeps the invariant. -/
theorem Inv.reaped (h : Inv s) {list : ProcessList} (hpromised : list.promised s.alive = true) :
    Inv (s.reap list) := by
  have hr := h.reaper
  unfold reap
  split
  · refine h.reaps fun pid hp => ?_
    rcases mem_remember hp with hp | ⟨hp, _⟩
    · cases hp
    · obtain ⟨e, he, rfl⟩ := List.mem_map.mp hp
      exact h.parked_launched he
  · rename_i candidates hreaper
    rw [hreaper] at hr
    refine h.reaps fun pid hp => ?_
    rcases mem_remember hp with hp | ⟨hp, hne⟩
    · exact hr pid hp
    · obtain ⟨k, _, rfl⟩ := List.mem_map.mp hp
      exact h.counters k hne
  · rename_i candidates hreaper
    rw [hreaper] at hr
    split
    · exact h.reaps trivial
    · refine h.reaps fun pid hp => ?_
      rcases mem_remember hp with hp | ⟨hp, hne⟩
      · exact hr pid hp
      · obtain rfl := List.mem_singleton.mp hp
        exact h.registered hne
  · rename_i candidates hreaper
    rw [hreaper] at hr
    split
    · exact h.reaps trivial
    · exact h.reaps fun pid hp => ⟨hr pid hp, fun hexited => not_alive hexited hpromised⟩
  · exact h.reaps trivial
  · rename_i pid candidates list hreaper
    rw [hreaper] at hr
    obtain ⟨hl, ha⟩ := hr pid List.mem_cons_self
    split
    · rename_i hexited
      exact (h.confirms hl (ha hexited)).reaps ⟨List.mem_cons_self, fun p hp => hr p (List.mem_cons_of_mem pid hp)⟩
    · exact h.reaps fun p hp => hr p (List.mem_cons_of_mem pid hp)
  · rename_i pid candidates list hreaper
    rw [hreaper] at hr
    exact h.reaps hr
  · rename_i pid candidates list hreaper
    rw [hreaper] at hr
    exact h.reaps hr
  · rename_i pid candidates list hreaper
    rw [hreaper] at hr
    have hheld := h.held (h.holdings.releaseParked pid) (s.holdings.releaseParked_sameObjects pid) rfl rfl rfl rfl
    exact hheld.reaps hr
  · rename_i pid candidates list hreaper
    rw [hreaper] at hr
    split_ifs with hlocks hpid huses
    · exact h.reaps hr.2
    · exact h.reaps hr.2
    · have hv : s.server.Valid s.holdings.releaseOwner s.confirmed := by
        refine h.server.same s.holdings.releaseOwner_sameObjects (fun _ hp => hp) (fun hl => absurd hl hlocks)
          fun i _ => ?_
        rw [Holdings.owns, s.holdings.releaseOwner_owner]
        rfl
      exact (h.ownerReleased (Nat.not_lt.mp huses) (hpid ▸ hr.1) hv).reaps hr
    · exact h.reaps hr
  · rename_i pid candidates list hreaper
    rw [hreaper] at hr
    exact (h.cleared pid).reaps hr.2

theorem Inv.accepted (h : Inv s) (hserver : s.server = .idle) {pid : U64} (hl : pid ∈ s.launched) (programId : U64) :
    Inv { s with holdings := s.holdings.accept pid programId } := by
  refine ⟨h.holdings.accept pid programId, h.alive, h.nonzero, fun i hi => ?_, h.counters, h.confirmed, h.lendings, ?_,
    h.reaper⟩
  · show ((s.holdings.store s.holdings.opened _).session i).pid ∈ s.launched
    have hlt : i < s.holdings.opened + 1 := hi
    by_cases hi : i = s.holdings.opened
    · rw [hi, Holdings.store_self]
      exact hl
    · rw [Holdings.store_other _ _ hi]
      exact h.known i (by omega)
  · rw [hserver]
    trivial

theorem Inv.object_connected (h : Inv s) {i : Nat}
    (hi : (s.holdings.session i).object = true ∨ 0 < (s.holdings.session i).framework) :
    (s.holdings.session i).link = .connected := by
  rcases hi with hi | hi
  · exact h.holdings.connected hi
  · exact (h.holdings.session i).linked (.inr (.inl hi))

/-- **Every step keeps the invariant.** -/
theorem inv_step {e : Event} (h : Inv s) (hstep : s.step e = some t) : Inv t := by
  cases e with
  | launch pid =>
    obtain ⟨hno, heq⟩ := Option.ite_none_left_eq_some.mp hstep
    cases heq
    rw [not_or] at hno
    exact h.launched hno.1 hno.2
  | exit pid =>
    cases hstep
    exact h.exited pid
  | shouldMitm pid =>
    obtain ⟨hl, heq⟩ := Option.ite_none_right_eq_some.mp hstep
    cases heq
    exact h.counted hl
  | accept pid programId =>
    obtain ⟨⟨hserver, hl⟩, heq⟩ := Option.ite_none_right_eq_some.mp hstep
    cases heq
    refine h.accepted ?_ hl programId
    cases hs : s.server with
    | idle => rfl
    | _ => rw [hs] at hserver; cases hserver
  | copyReference i =>
    obtain ⟨hi, heq⟩ := Option.ite_none_right_eq_some.mp hstep
    cases heq
    exact h.held (h.holdings.copyReference (h.object_connected hi)) (s.holdings.copyReference_sameObjects i) rfl rfl
      rfl
      rfl
  | dropReference i =>
    obtain ⟨hi, heq⟩ := Option.ite_none_right_eq_some.mp hstep
    cases heq
    exact h.held (h.holdings.dropReference hi) (s.holdings.dropReference_sameObjects i) rfl rfl rfl rfl
  | registerClient i config tmemSize =>
    obtain ⟨⟨_, hobject⟩, heq⟩ := Option.ite_none_right_eq_some.mp hstep
    cases heq
    exact h.proceeds hobject
  | registerClientShared i config workSize =>
    obtain ⟨⟨_, hobject⟩, heq⟩ := Option.ite_none_right_eq_some.mp hstep
    cases heq
    exact h.proceeds hobject
  | shutdownAllSockets i how =>
    obtain ⟨⟨_, hobject⟩, heq⟩ := Option.ite_none_right_eq_some.mp hstep
    cases heq
    exact h.proceeds hobject
  | destroy i =>
    obtain ⟨⟨_, hobject⟩, heq⟩ := Option.ite_none_right_eq_some.mp hstep
    cases heq
    refine h.moved (h.holdings.destroy hobject) (fun j => (s.holdings.destroy_sameServices i j).1) rfl rfl rfl ?_
    show ((s.holdings.store i _).session i).object = false ∧ ((s.holdings.store i _).session i).forwardService = true
    rw [Holdings.store_self]
    exact ⟨rfl, (h.holdings.session i).object hobject⟩
  | serve calls =>
    obtain ⟨hpromised, heq⟩ := Option.ite_none_right_eq_some.mp hstep
    exact h.served hpromised heq
  | reap list =>
    obtain ⟨hpromised, heq⟩ := Option.ite_none_right_eq_some.mp hstep
    cases heq
    exact h.reaped hpromised

theorem inv_run {es : List Event} (hrun : lives.run started es = some s) : Inv s := by
  have hkeeps : lives.Keeps (fun _ _ => true) Inv := fun _ _ _ h _ hstep => inv_step h hstep
  exact hkeeps.run es .started (System.meets_true _ es) hrun

end Lifetimes

end SysZerotier.Mitm
