import SysZerotier.Mitm.Custody
import SysZerotier.Mitm.Leaks

/-! The node thread's maintenance beside the clients
(`BsdShim::CleanupAbandonedServices` in `source/mitm/bsd_shim.cpp`).

`Lifetimes` and `Threads` side by side: the sessions and the processes, and the socket
table with the interface behind it. The node thread couples them, which forgets the
shadow sockets of a process between confirming its exit and releasing its services. -/
namespace SysZerotier.Mitm
open Net Library

structure Reaping where
  lifetimes : Lifetimes
  threads : Threads

namespace Reaping

/-- A step of the sessions and processes, of the sockets, or of the node thread's
maintenance. -/
inductive Event where
  | lifetimes (e : Lifetimes.Event)
  | threads (e : Mitm.Event)
  | reap (list : ProcessList)

/-- `CleanupAbandonedServices`: `ForgetLanSocketsForPid` clears the entries, and then
closes their virtual sockets. -/
def reap (s : Reaping) (list : ProcessList) : Option Reaping :=
  match s.lifetimes.reaper with
  | .forgetting pid _ _ =>
    (s.threads.step (.reap pid)).bind fun threads =>
      (s.lifetimes.step (.reap list)).map fun lifetimes => ⟨lifetimes, threads⟩
  | .closing .. =>
    match s.threads.reaping with
    | [] => (s.lifetimes.step (.reap list)).map fun lifetimes => { s with lifetimes := lifetimes }
    | _ :: _ => (s.threads.step .reapNext).map fun threads => { s with threads := threads }
  | _ => (s.lifetimes.step (.reap list)).map fun lifetimes => { s with lifetimes := lifetimes }

def step (s : Reaping) : Event → Option Reaping
  | .lifetimes e =>
    if e matches .reap _ then none
    else (s.lifetimes.step e).map fun lifetimes => { s with lifetimes := lifetimes }
  | .threads e =>
    if e matches .reap _ | .reapNext then none
    else (s.threads.step e).map fun threads => { s with threads := threads }
  | .reap list => s.reap list

def maintained : System Reaping Event := ⟨step⟩

end Reaping

/-! ### Sessions, counters and registrations -/

namespace Lifetimes
variable {s t : Lifetimes} {pid : U64}

/-- What belongs to the process is as before. -/
structure Spared (s t : Lifetimes) (pid : U64) : Prop where
  parked : (t.holdings.parked.filter fun e => e.pid == pid) = s.holdings.parked.filter fun e => e.pid == pid
  link : ∀ i, (s.holdings.session i).pid = pid → (t.holdings.session i).link = (s.holdings.session i).link
  counters : ∀ k, (s.counters k).pid = pid → t.counters k = s.counters k
  registration : s.holdings.registeredPid = pid →
    t.holdings.registeredPid = pid ∧ t.holdings.registeredOut = s.holdings.registeredOut ∧
      t.holdings.owner = s.holdings.owner

theorem Spared.same (hholdings : t.holdings = s.holdings) (hcounters : t.counters = s.counters) : Spared s t pid := by
  refine ⟨by rw [hholdings], fun i _ => by rw [hholdings], fun k _ => by rw [hcounters], fun hpid => ?_⟩
  rw [hholdings]
  exact ⟨hpid, rfl, rfl⟩

theorem Inv.releaseParked_spares (h : Inv s) {other : U64} (hne : other ≠ pid) {r : Reaper} :
    Spared s { s with reaper := r, holdings := s.holdings.releaseParked other } pid := by
  refine ⟨?_, fun i hi => ?_, fun _ _ => rfl, fun hpid => ⟨hpid, rfl, rfl⟩⟩
  · show ((s.holdings.parked.filter fun e => !s.holdings.retires other e).filter fun e => e.pid == pid) = _
    rw [List.filter_filter]
    refine List.filter_congr fun e _ => ?_
    by_cases hpid : e.pid = pid
    · have hno : s.holdings.retires other e = false := by
        rw [Holdings.retires, hpid, beq_eq_false_iff_ne.mpr hne.symm, Bool.false_and]
      rw [hno, Bool.not_false, Bool.and_true]
    · rw [beq_eq_false_iff_ne.mpr hpid, Bool.false_and]
  · have hno : ¬s.holdings.released other i = true := fun hrel =>
      hne (((h.holdings.released_iff other i).mp hrel).2.1.symm.trans hi)
    show ((s.holdings.releaseParked other).session i).link = _
    rw [Holdings.releaseParked_session, if_neg hno]

theorem Inv.releaseOwner_spares (h : Inv s) (hne : s.holdings.registeredPid ≠ pid) {r : Reaper} :
    Spared s { s with reaper := r, holdings := s.holdings.releaseOwner } pid := by
  refine ⟨?_, fun i hi => ?_, fun _ _ => rfl, fun hpid => absurd hpid hne⟩
  · show (s.holdings.releaseOwner.parked.filter fun e => e.pid == pid) = _
    unfold Holdings.releaseOwner
    split <;> rfl
  · show (s.holdings.releaseOwner.session i).link = _
    unfold Holdings.releaseOwner
    split
    · rfl
    · rename_i j howner
      have hij : i ≠ j := by
        rintro rfl
        exact hne ((h.holdings.owner i howner).symm.trans hi)
      show ((s.holdings.store j _).session i).link = _
      rw [Holdings.store_other _ _ hij]

theorem clearCounters_spares {other : U64} (hne : other ≠ pid) {r : Reaper} :
    Spared s { s with reaper := r, counters := clearCounters s.counters other } pid :=
  ⟨rfl, fun _ _ => rfl, fun _ hk => if_neg fun hcleared => hne (hcleared.2.symm.trans hk),
    fun hpid => ⟨hpid, rfl, rfl⟩⟩

/-- The maintenance leaves alone what belongs to a process that is alive. -/
theorem Inv.reap_spares (h : Inv s) (halive : pid ∈ s.alive) (list : ProcessList) : Spared s (s.reap list) pid := by
  have hr := h.reaper
  have hne : ∀ {other}, other ∈ s.confirmed → other ≠ pid := fun hother heq =>
    (h.confirmed _ hother).2 (heq ▸ halive)
  unfold reap
  split
  case h_9 other candidates list' hreaper =>
    rw [hreaper] at hr
    exact h.releaseParked_spares (hne hr.1)
  case h_10 other candidates list' hreaper =>
    rw [hreaper] at hr
    split_ifs with hlocks hother huses
    · exact .same rfl rfl
    · exact .same rfl rfl
    · exact h.releaseOwner_spares (hother ▸ hne hr.1)
    · exact .same rfl rfl
  case h_11 other candidates list' hreaper =>
    rw [hreaper] at hr
    exact clearCounters_spares (hne hr.1)
  all_goals
    try split
    all_goals exact .same rfl rfl

end Lifetimes

/-! ### Sockets -/

namespace Threads
variable {s t : Threads} {pid : U64}

/-- Without a reset, what the table and the threads name is open and named once. -/
theorem keeps_backed :
    serving.Keeps (fun _ e => !resets e) fun s => s.Inv ∧ s.ledger.Exclusive ∧ s.ledger.Backed := by
  rintro s e t ⟨hi, hexcl, hback⟩ hquiet h
  obtain ⟨hi', hledger⟩ := step_ledger hi h
  rw [Bool.not_eq_true'] at hquiet
  rw [if_neg (by rw [hquiet]; decide)] at hledger
  exact ⟨hi', hledger.exclusive hexcl fun _ => hback, hledger.backed hexcl hback⟩

theorem reap_table {other : U64} (hne : other ≠ pid) (h : s.step (.reap other) = some t) {k : Nat}
    (hk : (s.table k).pid = pid) : t.table k = s.table k ∧ t.vnet = s.vnet := by
  obtain ⟨_, heq⟩ := Option.ite_none_left_eq_some.mp h
  cases heq
  refine ⟨if_neg fun hcleared => hne (hcleared.2.symm.trans hk), rfl⟩

theorem reapNext_table (h : s.step .reapNext = some t) : t.table = s.table := by
  rw [step] at h
  split at h <;> cases h
  rfl

/-- A virtual socket that the maintenance has yet to close is not named by any entry. -/
theorem reapNext_socket (hi : s.Inv) (hexcl : s.ledger.Exclusive) (h : s.step .reapNext = some t) {k : Nat}
    (hk : (s.table k).mirrored = true) :
    t.vnet.socks (s.table k).vnetFd.toNat = s.vnet.socks (s.table k).vnetFd.toNat := by
  rw [step] at h
  split at h
  · cases h
  · rename_i vfd vfds hreaping
    cases h
    have hheld : vfd ∈ s.held := by
      rw [held, hreaping]
      exact List.mem_append_right _ List.mem_cons_self
    have hne : (s.table k).vnetFd ≠ vfd := fun heq => hexcl.apart k vfd (by rw [← heq]; exact if_pos hk) hheld
    have hpos := hi.held vfd hheld
    have hvalid := (hi.tidy.entry k).valid hk
    refine (VNet.udpClose_only ..).other _ ?_
    omega

end Threads

namespace Reaping
variable {s t : Reaping}

def resets : Event → Bool
  | .threads e => Threads.resets e
  | _ => false

/-- A virtual socket is opened only when those that are named are open. -/
def settled (s : Reaping) : Event → Bool
  | .threads e => s.threads.settled e
  | _ => true

/-- A step is one of the sessions and processes, of the sockets, or of both. -/
theorem step_parts {e : Event} (h : s.step e = some t) :
    (t.lifetimes = s.lifetimes ∨ ∃ e', s.lifetimes.step e' = some t.lifetimes) ∧
      (t.threads = s.threads ∨ ∃ e', s.threads.step e' = some t.threads ∧ Threads.resets e' = resets e ∧
        s.threads.settled e' = s.settled e) := by
  have hlifetimes : ∀ {e'}, (s.lifetimes.step e').map (fun l => { s with lifetimes := l }) = some t →
      (∃ e', s.lifetimes.step e' = some t.lifetimes) ∧ t.threads = s.threads := fun hmap => by
    obtain ⟨l, hl, rfl⟩ := Option.map_eq_some_iff.mp hmap
    exact ⟨⟨_, hl⟩, rfl⟩
  have hthreads : ∀ {e'}, (s.threads.step e').map (fun x => { s with threads := x }) = some t →
      s.threads.step e' = some t.threads ∧ t.lifetimes = s.lifetimes := fun hmap => by
    obtain ⟨x, hx, rfl⟩ := Option.map_eq_some_iff.mp hmap
    exact ⟨hx, rfl⟩
  cases e with
  | lifetimes e =>
    obtain ⟨_, h⟩ := Option.ite_none_left_eq_some.mp h
    exact ⟨.inr (hlifetimes h).1, .inl (hlifetimes h).2⟩
  | threads e =>
    obtain ⟨_, h⟩ := Option.ite_none_left_eq_some.mp h
    exact ⟨.inl (hthreads h).2, .inr ⟨_, (hthreads h).1, rfl, rfl⟩⟩
  | reap list =>
    rw [step, reap] at h
    split at h
    · obtain ⟨x, hx, hmap⟩ := Option.bind_eq_some_iff.mp h
      obtain ⟨l, hl, rfl⟩ := Option.map_eq_some_iff.mp hmap
      exact ⟨.inr ⟨_, hl⟩, .inr ⟨_, hx, rfl, rfl⟩⟩
    · split at h
      · exact ⟨.inr (hlifetimes h).1, .inl (hlifetimes h).2⟩
      · exact ⟨.inl (hthreads h).2, .inr ⟨_, (hthreads h).1, rfl, rfl⟩⟩
    · exact ⟨.inr (hlifetimes h).1, .inl (hlifetimes h).2⟩

theorem keeps_inv : maintained.Keeps (fun _ _ => true) fun s => s.lifetimes.Inv ∧ s.threads.Inv := by
  rintro s e t ⟨hl, hi⟩ - h
  obtain ⟨hlife, hthreads⟩ := step_parts h
  constructor
  · rcases hlife with heq | ⟨e', hstep⟩
    · rw [heq]
      exact hl
    · exact Lifetimes.inv_step hl hstep
  · rcases hthreads with heq | ⟨e', hstep, -, -⟩
    · rw [heq]
      exact hi
    · exact (Threads.step_ledger hi hstep).1

theorem keeps_backed : maintained.Keeps (fun _ e => !resets e)
    fun s => s.threads.Inv ∧ s.threads.ledger.Exclusive ∧ s.threads.ledger.Backed := by
  rintro s e t hi hquiet h
  rcases (step_parts h).2 with heq | ⟨e', hstep, hresets, -⟩
  · rw [heq]
    exact hi
  · refine Threads.keeps_backed s.threads e' t.threads hi ?_ hstep
    show (!Threads.resets e') = true
    rw [hresets]
    exact hquiet

theorem keeps_exclusive : maintained.Keeps settled fun s => s.threads.Inv ∧ s.threads.ledger.Exclusive := by
  rintro s e t hi hsettled h
  rcases (step_parts h).2 with heq | ⟨e', hstep, -, hsame⟩
  · rw [heq]
    exact hi
  · exact Threads.keeps_exclusive s.threads e' t.threads hi (hsame.trans hsettled) hstep

/-- The module has started, and no process has been launched. -/
def started : Reaping := ⟨.started, .started⟩

theorem started_backed : started.threads.Inv ∧ started.threads.ledger.Exclusive ∧ started.threads.ledger.Backed :=
  ⟨.started, ⟨fun i j vfd hi => (by cases hi), fun i vfd hi => (by cases hi), List.nodup_nil⟩,
    fun i vfd hi => (by cases hi), nofun⟩

/-- A run in which the interface is not reset is settled. -/
theorem settled_of_quiet {es : List Event} (hquiet : ∀ e ∈ es, resets e = false) :
    maintained.meets settled started es = true := by
  refine keeps_backed.meets (fun s e hi _ => ?_) es started_backed
    (System.meets_all (p := fun e => !resets e) started es fun e he => by rw [hquiet e he]; rfl)
  cases e with
  | lifetimes e => rfl
  | threads e => exact Threads.settled_of_backed hi.2.2 e
  | reap list => rfl

/-- **The maintenance spares the living.** Whatever the clients, the processes and the
lists of processes do, a step of `CleanupAbandonedServices` leaves what belongs to a process
that is alive as it was: its parked sessions and the handles of its services, its session
counter, the registration if it is its own, its shadow sockets in the table, and, if no
virtual socket was opened while one that a reset has closed was still named, the virtual
sockets behind them. -/
theorem maintenance_spares_living {es : List Event} (hrun : maintained.run started es = some s) {list : ProcessList}
    (hstep : s.step (.reap list) = some t) {pid : U64} (halive : pid ∈ s.lifetimes.alive) :
    s.lifetimes.Spared t.lifetimes pid ∧
      (∀ k, (s.threads.table k).pid = pid → t.threads.table k = s.threads.table k) ∧
      (maintained.meets settled started es = true → ∀ k, (s.threads.table k).pid = pid →
        (s.threads.table k).mirrored = true → t.threads.vnet.socks (s.threads.table k).vnetFd.toNat =
          s.threads.vnet.socks (s.threads.table k).vnetFd.toNat) := by
  obtain ⟨hl, hi⟩ := keeps_inv.run es ⟨.started, .started⟩ (System.meets_true _ es) hrun
  have hr := hl.reaper
  have hreap : ∀ {lifetimes}, s.lifetimes.step (.reap list) = some lifetimes →
      s.lifetimes.Spared lifetimes pid := fun h => by
    obtain ⟨_, heq⟩ := Option.ite_none_right_eq_some.mp h
    cases heq
    exact hl.reap_spares halive list
  rw [step, reap] at hstep
  split at hstep
  · rename_i other candidates list' hreaper
    rw [hreaper] at hr
    have hne : other ≠ pid := fun heq => (hl.confirmed _ hr.1).2 (heq ▸ halive)
    obtain ⟨threads, hthreads, hmap⟩ := Option.bind_eq_some_iff.mp hstep
    obtain ⟨lifetimes, hlife, rfl⟩ := Option.map_eq_some_iff.mp hmap
    have htable : ∀ k, (s.threads.table k).pid = pid → _ := fun k hk => Threads.reap_table hne hthreads hk
    exact ⟨hreap hlife, fun k hk => (htable k hk).1, fun _ k hk _ => by rw [(htable k hk).2]⟩
  · split at hstep
    · obtain ⟨lifetimes, hlife, rfl⟩ := Option.map_eq_some_iff.mp hstep
      exact ⟨hreap hlife, fun _ _ => rfl, fun _ _ _ _ => rfl⟩
    · obtain ⟨threads, hthreads, rfl⟩ := Option.map_eq_some_iff.mp hstep
      have htable := Threads.reapNext_table hthreads
      refine ⟨.same rfl rfl, fun k _ => congrFun htable k, fun hmeets k _ hk => ?_⟩
      have hexcl := keeps_exclusive.run es ⟨started_backed.1, started_backed.2.1⟩ hmeets hrun
      exact Threads.reapNext_socket hi hexcl.2 hthreads hk
  · obtain ⟨lifetimes, hlife, rfl⟩ := Option.map_eq_some_iff.mp hstep
    exact ⟨hreap hlife, fun _ _ => rfl, fun _ _ _ _ => rfl⟩

/-- The processes 5 and 6 each have a mirrored socket; 5 exits, its entry is forgotten, and
its virtual socket is yet to be closed. -/
def forgetting : List Event :=
  [.lifetimes (.launch 5), .lifetimes (.launch 6), .lifetimes (.shouldMitm 5)] ++
    (.networkConfig .up Threads.lanConfig :: Threads.opensLan 5 3 30000 ++ Threads.opensLan 6 4 35000).map .threads ++
    [.lifetimes (.exit 5)] ++ List.replicate 6 (.reap ⟨true, 1, [6]⟩)

theorem maintenance_spares_living_lan :
    ∃ s t, maintained.run started forgetting = some s ∧ s.step (.reap ⟨true, 1, [6]⟩) = some t ∧
      s.threads.reaping = [0] ∧ (s.threads.table 1).pid = 6 ∧ t.threads.table 1 = s.threads.table 1 ∧
      t.threads.vnet.socks (s.threads.table 1).vnetFd.toNat = s.threads.vnet.socks (s.threads.table 1).vnetFd.toNat := by
  obtain ⟨s, hs, hp⟩ := (Option.any_eq_true
    (fun s : Reaping => decide (6 ∈ s.lifetimes.alive) && decide (s.threads.reaping = [0]) &&
      decide ((s.threads.table 1).pid = 6) && (s.threads.table 1).mirrored &&
      (s.step (.reap ⟨true, 1, [6]⟩)).isSome)
    (maintained.run started forgetting)).mp (by decide +kernel)
  simp only [Bool.and_eq_true, decide_eq_true_eq] at hp
  obtain ⟨⟨⟨⟨halive, hreaping⟩, hpid⟩, hmirrored⟩, hsome⟩ := hp
  obtain ⟨t, ht⟩ := Option.isSome_iff_exists.mp hsome
  obtain ⟨-, htable, hsocket⟩ := maintenance_spares_living hs ht halive
  exact ⟨s, t, hs, ht, hreaping, hpid, htable 1 hpid, hsocket (settled_of_quiet (by decide)) 1 hpid hmirrored⟩

end Reaping

end SysZerotier.Mitm
