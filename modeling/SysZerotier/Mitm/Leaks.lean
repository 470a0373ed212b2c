import SysZerotier.Mitm.Ownership
import SysZerotier.Mitm.History

/-! What becomes of the interface's sockets over whole runs.

`openDescriptors` counts what a process has open; the table never holds more of its
entries (`Counted`). With the ledger this says that every open virtual socket shadows
a descriptor that is open (`no_socket_leaks`), and that no two entries share one as
long as no socket is opened while an entry still names one that a reset has closed
(`mirrors_distinct`). -/
namespace SysZerotier.Mitm
open Net Port Library

/-! ### Descriptors -/

/-- What a process has open after the command, an entry for each descriptor it was given. -/
def Command.descriptors (fds : List Int) : Command → List Int
  | .socket _ _ _ ret => if 0 ≤ ret then ret :: fds else fds
  | .otherDescriptor ret => if 0 ≤ ret then ret :: fds else fds
  | .close fd ret => if ret = 0 then fds.erase fd else fds
  | .shutdownAllSockets ret => if ret = 0 then [] else fds
  | _ => fds

/-- A process that is reaped has nothing open. -/
def Event.descriptors (pid : U64) (fds : List Int) : Event → List Int
  | .command p c => if p = pid then c.descriptors fds else fds
  | .reap p => if p = pid then [] else fds
  | _ => fds

/-- What a process has open at the end of a run. -/
def openDescriptors (pid : U64) (es : List Event) : List Int := es.foldl (Event.descriptors pid) []

namespace Table

/-- The entries of a descriptor. -/
def owners (t : Table) (pid : U64) (fd : Int) : Finset Nat :=
  (Finset.range MaxLanSockets).filter fun i => (t i).pid = pid ∧ (t i).bsdFd = fd

theorem mem_owners {t : Table} {pid : U64} {fd : Int} {i : Nat} :
    i ∈ t.owners pid fd ↔ i < MaxLanSockets ∧ (t i).pid = pid ∧ (t i).bsdFd = fd := by
  rw [owners, Finset.mem_filter, Finset.mem_range]

/-- No descriptor has more entries than it was given and not closed; the table is
compared with the lists of all processes. -/
structure Counted (fds : U64 → List Int) (t : Table) : Prop where
  count : ∀ pid, pid ≠ 0 → ∀ fd, (t.owners pid fd).card ≤ (fds pid).count fd
  valid : ∀ i, (t i).pid ≠ 0 → 0 ≤ (t i).bsdFd

theorem owners_congr {t u : Table} (hp : ∀ i, (u i).pid = (t i).pid) (hf : ∀ i, (u i).bsdFd = (t i).bsdFd)
    (pid : U64) (fd : Int) : u.owners pid fd = t.owners pid fd := by
  ext i
  rw [mem_owners, mem_owners, hp, hf]

theorem Counted.congr {fds : U64 → List Int} {t u : Table} (h : Counted fds t)
    (hp : ∀ i, (u i).pid = (t i).pid) (hf : ∀ i, (u i).bsdFd = (t i).bsdFd) : Counted fds u := by
  refine ⟨fun pid hpid fd => ?_, fun i hi => ?_⟩
  · rw [owners_congr hp hf]
    exact h.count pid hpid fd
  · rw [hf]
    exact h.valid i (hp i ▸ hi)

theorem Counted.mono {fds gds : U64 → List Int} {t : Table} (h : Counted fds t)
    (hle : ∀ pid fd, (fds pid).count fd ≤ (gds pid).count fd) : Counted gds t :=
  ⟨fun pid hpid fd => (h.count pid hpid fd).trans (hle pid fd), h.valid⟩

/-- Storing an entry adds at most its own place. -/
theorem owners_store_subset (t : Table) (i : Nat) (k : LanSocket) (pid : U64) (fd : Int) :
    (t.store i k).owners pid fd ⊆ insert i (t.owners pid fd) := by
  intro j hj
  rw [mem_owners] at hj
  rw [Finset.mem_insert]
  by_cases hji : j = i
  · exact .inl hji
  · rw [store_other t k hji] at hj
    exact .inr (mem_owners.mpr hj)

theorem owners_store_other {t : Table} {i : Nat} {k : LanSocket} {pid : U64} {fd : Int}
    (hk : ¬(k.pid = pid ∧ k.bsdFd = fd)) : (t.store i k).owners pid fd = (t.owners pid fd).erase i := by
  ext j
  rw [mem_owners, Finset.mem_erase, mem_owners]
  by_cases hji : j = i
  · subst hji
    rw [store_self]
    exact ⟨fun h => absurd h.2 hk, fun h => absurd rfl h.1⟩
  · rw [store_other t k hji]
    exact ⟨fun h => ⟨hji, h⟩, fun h => h.2⟩

/-- A descriptor that is given may have another entry. -/
theorem Counted.cons {fds : U64 → List Int} {t : Table} (h : Counted fds t) (pid : U64) (fd : Int) :
    Counted (Function.update fds pid (fd :: fds pid)) t := by
  refine h.mono fun p f => ?_
  by_cases hp : p = pid
  · rw [hp, Function.update_self]
    exact List.count_le_count_cons
  · rw [Function.update_of_ne hp]

theorem Counted.track {fds : U64 → List Int} {t : Table} (h : Counted fds t) {pid : U64} {fd : Int}
    (hfd : 0 ≤ fd) : Counted (Function.update fds pid (fd :: fds pid)) (t.track pid fd) := by
  have hmore := h.cons pid fd
  unfold Table.track
  split
  · rename_i i hfree
    refine ⟨fun p hp f => ?_, fun j hj => ?_⟩
    · by_cases hk : pid = p ∧ fd = f
      · obtain ⟨rfl, rfl⟩ := hk
        rw [Function.update_self, List.count_cons_self]
        exact (Finset.card_le_card (owners_store_subset ..)).trans
          ((Finset.card_insert_le ..).trans (Nat.succ_le_succ (h.count pid hp fd)))
      · rw [owners_store_other hk]
        exact Finset.card_erase_le.trans (hmore.count p hp f)
    · by_cases hji : j = i
      · rw [hji, store_self]
        exact hfd
      · rw [store_other t _ hji] at hj ⊢
        exact h.valid j hj
  · exact hmore

/-- A descriptor that is closed loses an entry, if it has any. -/
theorem Counted.erase {fds : U64 → List Int} {t u : Table} (h : Counted fds t) {pid : U64} {fd : Int}
    (hsub : ∀ p, p ≠ 0 → ∀ f, u.owners p f ⊆ t.owners p f)
    (hfd : pid ≠ 0 → (u.owners pid fd).card ≤ (t.owners pid fd).card - 1)
    (hvalid : ∀ j, (u j).pid ≠ 0 → 0 ≤ (u j).bsdFd) :
    Counted (Function.update fds pid ((fds pid).erase fd)) u := by
  refine ⟨fun p hp f => ?_, hvalid⟩
  have hold := (Finset.card_le_card (hsub p hp f)).trans (h.count p hp f)
  by_cases hpp : p = pid
  · subst hpp
    rw [Function.update_self, List.count_erase]
    by_cases hf : fd = f
    · subst hf
      rw [beq_self_eq_true, if_pos rfl]
      exact (hfd hp).trans (Nat.sub_le_sub_right (h.count p hp fd) 1)
    · rw [beq_eq_false_iff_ne.mpr hf, if_neg Bool.false_ne_true]
      exact hold
  · rw [Function.update_of_ne hpp]
    exact hold

theorem Counted.forget {fds : U64 → List Int} {t : Table} (h : Counted fds t) {pid : U64} {fd : Int} :
    Counted (Function.update fds pid ((fds pid).erase fd)) (t.forget pid fd).1 := by
  unfold Table.forget
  split
  · rename_i i hfind
    obtain ⟨hlt, hpid, hbsd⟩ := find_some hfind
    have howners : ∀ p, p ≠ 0 → ∀ f, (t.store i {}).owners p f = (t.owners p f).erase i :=
      fun p hp f => owners_store_other fun hk => hp hk.1.symm
    refine h.erase (fun p hp f => ?_) (fun hp => ?_) fun j hj => ?_
    · rw [howners p hp f]
      exact Finset.erase_subset ..
    · rw [howners pid hp fd, Finset.card_erase_of_mem (mem_owners.mpr ⟨hlt, hpid, hbsd⟩)]
    · dsimp only at hj ⊢
      by_cases hji : j = i
      · rw [hji, store_self] at hj
        exact absurd rfl hj
      · rw [store_other t _ hji] at hj ⊢
        exact h.valid j hj
  · rename_i hnone
    refine h.erase (fun _ _ _ => subset_rfl) (fun hp => ?_) h.valid
    -- nothing was forgotten, since the descriptor has no entry
    have hempty : t.owners pid fd = ∅ := by
      rw [Finset.eq_empty_iff_forall_notMem]
      intro i hi
      obtain ⟨hlt, hpid, hbsd⟩ := mem_owners.mp hi
      have hvalid := h.valid i (hpid ▸ hp)
      exact find_none hnone (by unfold InvalidSocket; omega) hlt hpid hbsd
    rw [hempty]
    exact Nat.zero_le _

theorem Counted.forgetForPid {fds : U64 → List Int} {t : Table} (h : Counted fds t) (pid : U64) :
    Counted (Function.update fds pid []) (t.forgetForPid pid).1 := by
  have hsub : ∀ p, p ≠ 0 → ∀ f, (t.forgetForPid pid).1.owners p f ⊆ t.owners p f := by
    intro p hp f i hi
    rw [mem_owners] at hi ⊢
    rw [forgetForPid_entry (hi.2.1 ▸ hp)] at hi
    exact hi
  refine ⟨fun p hp f => ?_, fun i hi => ?_⟩
  · by_cases hpp : p = pid
    · have hempty : (t.forgetForPid pid).1.owners p f = ∅ := by
        rw [Finset.eq_empty_iff_forall_notMem]
        intro i hi
        obtain ⟨hlt, hpid, -⟩ := mem_owners.mp hi
        have hsame := forgetForPid_entry (hpid ▸ hp)
        rw [hsame] at hpid
        have hcleared : (t.forgetForPid pid).1 i = {} := if_pos ⟨hlt, hpid.trans hpp⟩
        rw [hcleared] at hsame
        rw [← hsame] at hpid
        exact hp hpid.symm
      rw [hempty]
      exact Nat.zero_le _
    · rw [Function.update_of_ne hpp]
      exact (Finset.card_le_card (hsub p hp f)).trans (h.count p hp f)
  · have hsame := forgetForPid_entry hi
    rw [hsame] at hi ⊢
    exact h.valid i hi

end Table

namespace Threads
open Table (Counted SameMirrors)

theorem command_counted {fds : U64 → List Int} {t : Table} (h : Counted fds t) (pid : U64) (c : Command) :
    Counted (Function.update fds pid (c.descriptors (fds pid))) (command t pid c).1 := by
  have hsame : ∀ {u : Table}, SameMirrors t u → Counted (Function.update fds pid (fds pid)) u := by
    intro u hu
    rw [Function.update_eq_self]
    exact h.congr hu.pid hu.bsdFd
  have hgiven : ∀ fd, Counted (Function.update fds pid (if 0 ≤ fd then fd :: fds pid else fds pid)) t := by
    intro fd
    split
    · exact h.cons pid fd
    · exact hsame (.refl t)
  cases c with
  | socket domain type protocol ret =>
    rw [command, Command.descriptors]
    by_cases htrack : 0 ≤ ret ∧ domain = 2 ∧ type = 2 ∧ (protocol = 0 ∨ protocol = 17)
    · rw [if_pos htrack, if_pos htrack.1]
      exact h.track htrack.1
    · rw [if_neg htrack]
      exact hgiven ret
  | otherDescriptor ret => exact hgiven ret
  | bind fd addr ret =>
    rw [command]
    split
    · exact hsame (Table.recordBind_same ..)
    · exact hsame (.refl t)
  | setSockOpt fd level optname v ret =>
    rw [command]
    split
    · exact hsame (Table.recordBroadcast_same ..)
    · exact hsame (.refl t)
  | sendTo fd buf addr =>
    rw [command]
    split_ifs <;> exact hsame (.refl t)
  | connect fd addr ret =>
    rw [command]
    split_ifs
    · exact hsame (.refl t)
    · exact hsame (.refl t)
    · exact hsame (Table.forwardedConnect_peerOnly ..).same
    · exact hsame (Table.forwardedConnect_peerOnly ..).same
  | getSockName fd name ret =>
    rw [command]
    split_ifs
    · exact hsame (Table.recordName_same ..)
    · exact hsame (Table.recordName_same ..)
    · exact hsame (.refl t)
    · exact hsame (.refl t)
    · exact hsame (.refl t)
  | close fd ret =>
    rw [command, Command.descriptors]
    split
    · exact h.forget
    · exact hsame (.refl t)
  | shutdownAllSockets ret =>
    rw [command, Command.descriptors]
    split
    · exact h.forgetForPid pid
    · exact hsame (.refl t)
  | query fd q => exact hsame (.refl t)

theorem step_counted {fds : U64 → List Int} {s s' : Threads} {e : Event} (h : Counted fds s.table)
    (hstep : s.step e = some s') : Counted (fun pid => e.descriptors pid (fds pid)) s'.table := by
  have hone : ∀ (pid : U64) (f : List Int → List Int),
      (fun p => if pid = p then f (fds p) else fds p) = Function.update fds pid (f (fds pid)) := by
    intro pid f
    funext p
    by_cases hp : pid = p
    · rw [if_pos hp, ← hp, Function.update_self]
    · rw [if_neg hp, Function.update_of_ne (Ne.symm hp)]
  cases e with
  | command pid c =>
    rw [step] at hstep
    split at hstep <;> cases hstep
    exact (hone pid c.descriptors) ▸ command_counted h pid c
  | serve =>
    obtain ⟨-, hpeer | ⟨m, candidate, -, htable⟩⟩ := serve_table hstep
    · exact h.congr hpeer.same.pid hpeer.same.bsdFd
    · rw [htable]
      rcases Table.install_cases s.table m.pid m.fd candidate with ⟨heq, -⟩ | ⟨i, -, -, heq⟩
      · rw [heq]
        exact h
      · rw [heq]
        exact h.congr (Table.store_field LanSocket.pid _ rfl) (Table.store_field LanSocket.bsdFd _ rfl)
  | reap pid =>
    rw [step] at hstep
    split at hstep <;> cases hstep
    exact (hone pid fun _ => []) ▸ h.forgetForPid pid
  | reapNext =>
    rw [step] at hstep
    split at hstep <;> cases hstep
    exact h
  | networkConfig op conf =>
    rw [step] at hstep
    split at hstep <;> cases hstep
    exact h
  | virtualFrame srcMac dstMac etherType payload =>
    rw [step] at hstep
    split at hstep <;> cases hstep
    exact h
  | probe dstIp =>
    rw [step] at hstep
    split at hstep <;> cases hstep
    exact h

/-- The table counts right at the end of every run. -/
theorem run_counted (es : List Event) {fds : U64 → List Int} {s s' : Threads} (h : Counted fds s.table)
    (hr : serving.run s es = some s') :
    Counted (fun pid => es.foldl (Event.descriptors pid) (fds pid)) s'.table := by
  induction es generalizing fds s with
  | nil =>
    cases hr
    exact h
  | cons e es ih =>
    obtain ⟨u, hu, hrest⟩ := Option.bind_eq_some_iff.mp hr
    exact ih (step_counted h hu) hrest

theorem started_counted : Counted (fun _ => []) started.table := by
  refine ⟨fun pid hp fd => ?_, fun i hi => absurd rfl hi⟩
  have hempty : started.table.owners pid fd = ∅ := by
    rw [Finset.eq_empty_iff_forall_notMem]
    intro i hi
    exact hp (Table.mem_owners.mp hi).2.1.symm
  rw [hempty]
  exact Nat.zero_le _

/-- **Every open virtual socket shadows an open descriptor, whenever no handler and no
reaper is mid-way.** So a process that has closed everything, or has been reaped, keeps
no virtual socket. -/
theorem no_socket_leaks {es : List Event} {s : Threads} (h : serving.run started es = some s) (hq : s.Quiet)
    {vfd : Int} (ho : s.vnet.isOpen vfd = true) :
    ∃ i, (s.table i).mirrored = true ∧ (s.table i).vnetFd = vfd ∧
      (s.table i).bsdFd ∈ openDescriptors (s.table i).pid es := by
  have hstart : started.ledger.Accounted := by
    intro vfd hvfd
    obtain ⟨i, -, -, hu⟩ := VNet.isOpen_iff.mp (mem_live.mp hvfd)
    cases hu
  obtain ⟨hi, hacc⟩ := keeps_accounted.run es ⟨.started, hstart⟩ (System.meets_true started es) h
  have hcount := run_counted es started_counted h
  rcases hacc vfd ho with ⟨i, hslot⟩ | hhand
  · obtain ⟨hm, hvfd⟩ := Table.mem_slots hslot
    obtain ⟨hlt, hp, -⟩ := hi.tidy.slot hslot
    refine ⟨i, hm, hvfd, ?_⟩
    have hcard : 0 < (s.table.owners (s.table i).pid (s.table i).bsdFd).card :=
      Finset.card_pos.mpr ⟨i, Table.mem_owners.mpr ⟨hlt, rfl, rfl⟩⟩
    exact List.count_pos_iff.mp (hcard.trans_le (hcount.count _ hp _))
  · have hnone : s.held = [] := by rw [held, hq.1, hq.2]; rfl
    rw [show s.ledger.hand = [] from hnone] at hhand
    cases hhand

/-! ### A network with one console -/

/-- The managed address 10.0.0.1/24. -/
def lanConfig : NetworkConfig := ⟨2, 2800, [⟨true, 0x0A000001, 24⟩]⟩

/-- A process opens a UDP socket and binds it to a LAN port. -/
def opensLan (pid : U64) (fd : Int) (port : U16) : List Event :=
  [.command pid (.socket 2 2 17 fd), .command pid (.bind fd (sockaddr 0 port) 0), .serve, .serve, .serve, .serve]

theorem no_socket_leaks_lan :
    ∃ s : Threads, serving.run started (.networkConfig .up lanConfig :: opensLan 7 3 30000) = some s ∧
      s.vnet.isOpen 0 = true ∧
      ∃ i, (s.table i).mirrored = true ∧ (s.table i).vnetFd = 0 ∧
        (s.table i).bsdFd ∈
          openDescriptors (s.table i).pid (.networkConfig .up lanConfig :: opensLan 7 3 30000) := by
  obtain ⟨s, hs, hp⟩ := (Option.any_eq_true
    (fun s : Threads => decide (s.server = .idle) && s.reaping.isEmpty && s.vnet.isOpen 0)
    (serving.run started (.networkConfig .up lanConfig :: opensLan 7 3 30000))).mp (by decide +kernel)
  rw [Bool.and_eq_true, Bool.and_eq_true, decide_eq_true_eq, List.isEmpty_iff] at hp
  exact ⟨s, hs, hp.2, no_socket_leaks hs hp.1 hp.2⟩

/-! ### Sharing -/

/-- A virtual socket is opened only when the mirrored entries and the two threads
name open ones. -/
def settled (s : Threads) : Event → Bool
  | .serve =>
    match s.server with
    | .opening _ =>
      ((List.range MaxLanSockets).all fun i => !(s.table i).mirrored || s.vnet.isOpen (s.table i).vnetFd) &&
        s.held.all s.vnet.isOpen
    | _ => true
  | _ => true

/-- What is done with the virtual socket of entry `i` is not done with that of `j`. -/
structure Apart (s : Threads) (i j : Nat) : Prop where
  vnetFd : (s.table i).vnetFd ≠ (s.table j).vnetFd
  close : (closeLanSocket s.vnet (s.table i).vnetFd).socks (s.table j).vnetFd.toNat =
    s.vnet.socks (s.table j).vnetFd.toNat
  receive : ∀ max peek, (receiveLanDatagram s.vnet (s.table i).vnetFd max peek).1.socks (s.table j).vnetFd.toNat =
    s.vnet.socks (s.table j).vnetFd.toNat
  send : ∀ c : SendCall, c.vfd = (s.table i).vnetFd →
    (c.exec s.vnet).1.socks (s.table j).vnetFd.toNat = s.vnet.socks (s.table j).vnetFd.toNat

theorem settled_backed {s : Threads} {e : Event} (hi : s.Inv) (hc : s.settled e = true) (ho : s.opens e) :
    s.ledger.Backed := by
  obtain ⟨rfl, m, hm⟩ := ho
  simp only [settled, hm, Bool.and_eq_true, List.all_eq_true] at hc
  refine ⟨fun i vfd hslot => ?_, fun vfd hvfd => hc.2 vfd hvfd⟩
  obtain ⟨hmirrored, hvfd⟩ := Table.mem_slots hslot
  have hopen := hc.1 i (List.mem_range.mpr (hi.tidy.slot hslot).1)
  rw [hmirrored, hvfd, Bool.not_true, Bool.false_or] at hopen
  exact hopen

/-- While everything that is named is open, every step is settled. -/
theorem settled_of_backed {s : Threads} (hback : s.ledger.Backed) (e : Event) : s.settled e = true := by
  unfold settled
  split
  · split
    · refine Bool.and_eq_true_iff.mpr ⟨List.all_eq_true.mpr fun i _ => ?_, List.all_eq_true.mpr hback.hand⟩
      cases hm : (s.table i).mirrored with
      | false => rfl
      | true => exact hback.slot i (s.table i).vnetFd (if_pos hm)
    · rfl
  · rfl

theorem keeps_exclusive : serving.Keeps settled fun s => s.Inv ∧ s.ledger.Exclusive := by
  rintro s e s' ⟨hi, hexcl⟩ hc h
  obtain ⟨hi', hledger⟩ := step_ledger hi h
  refine ⟨hi', ?_⟩
  split at hledger
  · rw [hledger]
    exact hexcl.wipe
  · exact hledger.exclusive hexcl (settled_backed hi hc)

/-- **Mirrored entries never share a virtual socket, unless one is opened while an
entry or a thread still names one that a reset has closed.** -/
theorem mirrors_distinct {es : List Event} {s : Threads} (h : serving.run started es = some s)
    (hm : serving.meets settled started es = true) {i j : Nat} (hij : i ≠ j)
    (hi : (s.table i).mirrored = true) (hj : (s.table j).mirrored = true) : s.Apart i j := by
  have hstart : started.ledger.Exclusive :=
    ⟨fun i j vfd hi => (by cases hi), fun i vfd hi => (by cases hi), List.nodup_nil⟩
  obtain ⟨hinv, hexcl⟩ := keeps_exclusive.run es ⟨.started, hstart⟩ hm h
  have hne : (s.table i).vnetFd ≠ (s.table j).vnetFd := by
    intro heq
    refine hij (hexcl.slots i j (s.table i).vnetFd (if_pos hi) ?_)
    rw [heq]
    exact if_pos hj
  have hnat : (s.table j).vnetFd.toNat ≠ (s.table i).vnetFd.toNat := by
    have := (hinv.tidy.entry i).valid hi
    have := (hinv.tidy.entry j).valid hj
    omega
  refine ⟨hne, (VNet.udpClose_only ..).other _ hnat, fun max peek => (VNet.udpRecvFrom_only ..).other _ hnat,
    fun c hc => (SendCall.exec_only s.vnet c).other _ ?_⟩
  rw [hc]
  exact hnat

theorem mirrors_distinct_lan :
    ∃ s : Threads,
      serving.run started (.networkConfig .up lanConfig :: opensLan 7 3 30000 ++ opensLan 7 4 35000) = some s ∧
        (s.table 0).mirrored = true ∧ (s.table 1).mirrored = true ∧ s.Apart 0 1 := by
  obtain ⟨s, hs, hp⟩ := (Option.any_eq_true
    (fun s : Threads => (s.table 0).mirrored && (s.table 1).mirrored)
    (serving.run started (.networkConfig .up lanConfig :: opensLan 7 3 30000 ++ opensLan 7 4 35000))).mp
      (by decide +kernel)
  rw [Bool.and_eq_true] at hp
  exact ⟨s, hs, hp.1, hp.2, mirrors_distinct hs (by decide +kernel) (by decide) hp.1 hp.2⟩

/-- The network is destroyed under a mirrored socket and joined again: the next socket
is given the same virtual one. -/
theorem stale_mirror_shared :
    ¬∀ (es : List Event) (s : Threads), serving.run started es = some s →
      serving.meets freshDescriptor started es = true → s.Quiet →
      ∀ i j, i ≠ j → (s.table i).mirrored = true → (s.table j).mirrored = true →
        (s.table i).vnetFd ≠ (s.table j).vnetFd := by
  intro hall
  obtain ⟨s, hs, hp⟩ := (Option.any_eq_true
    (fun s : Threads => decide (s.server = .idle) && s.reaping.isEmpty && (s.table 0).mirrored &&
      (s.table 1).mirrored && (s.table 0).vnetFd == (s.table 1).vnetFd)
    (serving.run started (.networkConfig .up lanConfig :: opensLan 7 3 30000 ++
      [.networkConfig .destroy lanConfig, .networkConfig .up lanConfig] ++ opensLan 7 4 35000))).mp
      (by decide +kernel)
  simp only [Bool.and_eq_true, decide_eq_true_eq, List.isEmpty_iff, beq_iff_eq] at hp
  exact hall _ s hs (by decide +kernel) hp.1.1.1 0 1 (by decide) hp.1.1.2 hp.1.2 hp.2

end Threads

end SysZerotier.Mitm
