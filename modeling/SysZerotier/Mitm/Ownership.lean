import SysZerotier.Mitm.Threads
import SysZerotier.Net.Sockets
import SysZerotier.Library.Ledger

/-! Who owns the interface's sockets.

The mirrored entries of the table and the two threads keep virtual sockets as a
ledger's slots and hand keep resources, and every step of the system is a step of
the ledger, except that `DOWN` and `DESTROY` wipe it (`step_ledger`). So no open
virtual socket is ever lost (`no_socket_leaks`), and as long as nothing is kept when
the interface is reset no two entries share one (`mirrors_distinct`). The reset
closes the sockets and leaves the table's entries as they are, which is what breaks
that (`stale_mirror_shared`). -/
namespace SysZerotier.Mitm
open Net Port Library

/-- Only an entry in use is mirrored, and just then it names a virtual socket. -/
structure LanSocket.Tidy (k : LanSocket) : Prop where
  free : k.pid = 0 → k.mirrored = false
  valid : k.mirrored = true → 0 ≤ k.vnetFd
  clear : k.pid ≠ 0 → k.mirrored = false → k.vnetFd = InvalidSocket

theorem LanSocket.Tidy.ne {k : LanSocket} (h : k.Tidy) (hm : k.mirrored = true) :
    k.vnetFd ≠ InvalidSocket := by
  have := h.valid hm
  unfold InvalidSocket
  omega

theorem LanSocket.Tidy.empty : LanSocket.Tidy {} := ⟨fun _ => rfl, fun h => (by cases h), fun h => absurd rfl h⟩

namespace Table

/-- The virtual socket of a mirrored entry. -/
def slots (t : Table) (i : Nat) : Option Int := if (t i).mirrored then some (t i).vnetFd else none

structure Tidy (t : Table) : Prop where
  entry : ∀ i, (t i).Tidy
  beyond : ∀ i, MaxLanSockets ≤ i → (t i).mirrored = false

theorem mem_slots {t : Table} {i : Nat} {vfd : Int} (h : t.slots i = some vfd) :
    (t i).mirrored = true ∧ (t i).vnetFd = vfd := by
  unfold slots at h
  split at h
  · exact ⟨‹_›, Option.some.inj h⟩
  · cases h

theorem Tidy.slot {t : Table} (ht : t.Tidy) {i : Nat} {vfd : Int} (h : t.slots i = some vfd) :
    i < MaxLanSockets ∧ (t i).pid ≠ 0 ∧ 0 ≤ vfd := by
  obtain ⟨hm, rfl⟩ := mem_slots h
  refine ⟨?_, fun hp => ?_, (ht.entry i).valid hm⟩
  · by_contra hi
    rw [ht.beyond i (by omega)] at hm
    cases hm
  · rw [(ht.entry i).free hp] at hm
    cases hm

/-- The same descriptors have the same virtual sockets. -/
structure SameMirrors (t u : Table) : Prop where
  pid : ∀ i, (u i).pid = (t i).pid
  bsdFd : ∀ i, (u i).bsdFd = (t i).bsdFd
  mirrored : ∀ i, (u i).mirrored = (t i).mirrored
  vnetFd : ∀ i, (u i).vnetFd = (t i).vnetFd

theorem SameMirrors.refl (t : Table) : SameMirrors t t := ⟨fun _ => rfl, fun _ => rfl, fun _ => rfl, fun _ => rfl⟩

theorem SameMirrors.slots {t u : Table} (h : SameMirrors t u) : u.slots = t.slots := by
  funext i
  unfold Table.slots
  rw [h.mirrored, h.vnetFd]

theorem SameMirrors.tidy {t u : Table} (h : SameMirrors t u) (ht : t.Tidy) : u.Tidy := by
  refine ⟨fun i => ⟨fun hp => ?_, fun hm => ?_, fun hp hm => ?_⟩, fun i hi => ?_⟩
  · rw [h.mirrored]
    exact (ht.entry i).free (h.pid i ▸ hp)
  · rw [h.vnetFd]
    exact (ht.entry i).valid (h.mirrored i ▸ hm)
  · rw [h.vnetFd]
    exact (ht.entry i).clear (h.pid i ▸ hp) (h.mirrored i ▸ hm)
  · rw [h.mirrored]
    exact ht.beyond i hi

theorem Tidy.store {t : Table} (ht : t.Tidy) {i : Nat} (hi : i < MaxLanSockets) {k : LanSocket}
    (hk : k.Tidy) : (t.store i k).Tidy := by
  refine ⟨fun j => ?_, fun j hj => ?_⟩ <;> by_cases hji : j = i
  · rw [hji, store_self]
    exact hk
  · rw [store_other t k hji]
    exact ht.entry j
  · omega
  · rw [store_other t k hji]
    exact ht.beyond j hj

theorem store_sameMirrors (t : Table) {i : Nat} {k : LanSocket} (hp : k.pid = (t i).pid)
    (hf : k.bsdFd = (t i).bsdFd) (hm : k.mirrored = (t i).mirrored) (hv : k.vnetFd = (t i).vnetFd) :
    SameMirrors t (t.store i k) :=
  ⟨store_field LanSocket.pid t hp, store_field LanSocket.bsdFd t hf, store_field LanSocket.mirrored t hm,
    store_field LanSocket.vnetFd t hv⟩

/-! ### The blocks that only keep notes -/

theorem recordBind_same (t : Table) (pid : U64) (fd : Int) (port : U16) :
    SameMirrors t (t.recordBind pid fd port).1 := by
  rcases t.recordBind_cases pid fd port with heq | ⟨i, -, heq⟩ <;> rw [heq]
  · exact .refl t
  · apply store_sameMirrors <;> rfl

theorem recordBroadcast_same (t : Table) (pid : U64) (fd : Int) (on : Bool) :
    SameMirrors t (t.recordBroadcast pid fd on).1 := by
  rcases t.recordBroadcast_cases pid fd on with heq | ⟨i, -, heq⟩ <;> rw [heq]
  · exact .refl t
  · apply store_sameMirrors <;> rfl

/-- `GetSockName` notes the port that the name has. -/
theorem recordName_cases (t : Table) (pid : U64) (fd : Int) (port : U16) :
    t.recordName pid fd port = t ∨ ∃ i, t.findLanSocketLocked pid fd = some i ∧
      t.recordName pid fd port = t.store i { t i with boundPort := port } := by
  unfold recordName
  cases hfind : t.findLanSocketLocked pid fd with
  | none => exact .inl rfl
  | some i =>
    dsimp only
    split
    · exact .inr ⟨i, rfl, rfl⟩
    · exact .inl rfl

theorem recordName_same (t : Table) (pid : U64) (fd : Int) (port : U16) :
    SameMirrors t (t.recordName pid fd port) := by
  rcases t.recordName_cases pid fd port with heq | ⟨i, -, heq⟩ <;> rw [heq]
  · exact .refl t
  · apply store_sameMirrors <;> rfl

/-- Nothing but the peers may differ. -/
structure PeerOnly (t u : Table) : Prop where
  entry : ∀ i, ∃ port ip connected,
    u i = { t i with connectedPort := port, connectedIp := ip, connected := connected }

theorem PeerOnly.refl (t : Table) : PeerOnly t t := ⟨fun _ => ⟨_, _, _, rfl⟩⟩

theorem PeerOnly.same {t u : Table} (h : PeerOnly t u) : SameMirrors t u := by
  have hall : ∀ {β : Type} (f : LanSocket → β),
      (∀ k port ip connected,
        f { k with connectedPort := port, connectedIp := ip, connected := connected } = f k) →
      ∀ i, f (u i) = f (t i) := by
    intro β f hf i
    obtain ⟨port, ip, connected, heq⟩ := h.entry i
    rw [heq, hf]
  exact ⟨hall _ fun _ _ _ _ => rfl, hall _ fun _ _ _ _ => rfl, hall _ fun _ _ _ _ => rfl,
    hall _ fun _ _ _ _ => rfl⟩

theorem recordPeer_peerOnly (t : Table) (i : Nat) (peer : Option (U32 × U16)) :
    PeerOnly t (t.recordPeer i peer) := by
  refine ⟨fun j => ?_⟩
  unfold recordPeer
  by_cases hj : j = i
  · rw [hj, store_self]
    exact ⟨_, _, _, rfl⟩
  · rw [store_other t _ hj]
    exact ⟨_, _, _, rfl⟩

theorem forwardedConnect_peerOnly (t : Table) (pid : U64) (fd : Int) (addr : List U8) (ret : Int) :
    PeerOnly t (t.forwardedConnect pid fd addr ret) := by
  unfold forwardedConnect
  split
  · unfold Shim.connectForwarded
    dsimp only
    split
    · exact .refl t
    · split_ifs
      · exact .refl t
      · exact recordPeer_peerOnly ..
      · exact recordPeer_peerOnly ..
      · exact .refl t
  · exact .refl t

/-! ### The blocks that change who is mirrored -/

/-- `Socket` fills a free entry, and the new one is not mirrored. -/
theorem track_mirrors {t : Table} (ht : t.Tidy) (pid : U64) (fd : Int) :
    (t.track pid fd).slots = t.slots ∧ (t.track pid fd).Tidy := by
  unfold track
  split
  · rename_i i hi
    have hfree := List.find?_some hi
    rw [beq_iff_eq] at hfree
    refine ⟨?_, ht.store (List.mem_range.mp (List.mem_of_find?_eq_some hi))
      ⟨fun _ => rfl, fun h => (by cases h), fun _ _ => rfl⟩⟩
    funext j
    unfold slots
    by_cases hj : j = i
    · rw [hj, store_self, (ht.entry i).free hfree]
      rfl
    · rw [store_other t _ hj]
  · exact ⟨rfl, ht⟩

theorem install_slots (t : Table) (i : Nat) (candidate : Int) :
    (t.store i { t i with vnetFd := candidate, mirrored := true }).slots =
      Function.update t.slots i (some candidate) := by
  funext j
  unfold slots
  by_cases hj : j = i
  · rw [hj, store_self, Function.update_self, if_pos rfl]
  · rw [store_other t _ hj, Function.update_of_ne hj]

theorem Tidy.install {t : Table} (ht : t.Tidy) {i : Nat} (hi : i < MaxLanSockets) (hp : (t i).pid ≠ 0)
    {candidate : Int} (hc : 0 ≤ candidate) :
    (t.store i { t i with vnetFd := candidate, mirrored := true }).Tidy :=
  ht.store hi ⟨fun h => absurd h hp, fun _ => hc, fun _ h => (by cases h)⟩

/-- Clearing entries leaves the others as they are. -/
theorem Tidy.cleared {t u : Table} (ht : t.Tidy) (h : ∀ i, u i = {} ∨ u i = t i) : u.Tidy := by
  refine ⟨fun i => ?_, fun i hi => ?_⟩ <;> rcases h i with he | he <;> rw [he]
  · exact .empty
  · exact ht.entry i
  · exact ht.beyond i hi

/-- The slots cleared and the virtual sockets taken from them. -/
theorem forgetForPid_slots {t : Table} (ht : t.Tidy) {pid : U64} (hp : pid ≠ 0) :
    (t.forgetForPid pid).1.slots =
        (fun i => if decide (i < MaxLanSockets) && (t i).pid == pid then none else t.slots i) ∧
      (t.forgetForPid pid).2 =
        ((List.range MaxLanSockets).filter fun i => decide (i < MaxLanSockets) && (t i).pid == pid).filterMap
          t.slots := by
  constructor
  · funext i
    unfold forgetForPid slots
    simp only [Bool.and_eq_true, decide_eq_true_eq, beq_iff_eq]
    split <;> rfl
  · unfold forgetForPid
    dsimp only
    rw [← List.filterMap_eq_map, List.filterMap_filter, List.filterMap_filter]
    apply List.filterMap_congr
    intro i hi
    rw [decide_eq_true (List.mem_range.mp hi), Bool.true_and]
    by_cases hpid : (t i).pid = pid
    · have hne : (t i).pid ≠ 0 := hpid ▸ hp
      cases hm : (t i).mirrored with
      | true => simp [hpid, slots, hm, (ht.entry i).ne hm]
      | false => simp [hpid, slots, hm, (ht.entry i).clear hne hm]
    · simp [hpid]

theorem forgetForPid_entry {t : Table} {pid : U64} {i : Nat} (h : ((t.forgetForPid pid).1 i).pid ≠ 0) :
    (t.forgetForPid pid).1 i = t i := by
  unfold forgetForPid at h ⊢
  dsimp only at h ⊢
  split
  · rename_i hcleared
    rw [if_pos hcleared] at h
    exact absurd rfl h
  · rfl

/-- `ForgetLanSocket` clears one entry, if there is one, and hands over its virtual socket. -/
theorem forget_cases {t : Table} (ht : t.Tidy) {pid : U64} (hp : pid ≠ 0) (fd : Int) :
    t.forget pid fd = (t, InvalidSocket) ∨
      ∃ i, i < MaxLanSockets ∧ (t i).pid = pid ∧ (t.forget pid fd).1 = t.store i {} ∧
        (if (t.forget pid fd).2 = InvalidSocket then [] else [(t.forget pid fd).2]) = (t.slots i).toList := by
  unfold forget
  cases hfind : t.findLanSocketLocked pid fd with
  | none => exact .inl rfl
  | some i =>
    obtain ⟨hi, hpid, -⟩ := find_some hfind
    refine .inr ⟨i, hi, hpid, rfl, ?_⟩
    unfold slots
    cases hm : (t i).mirrored with
    | true => simp [(ht.entry i).ne hm]
    | false => simp [(ht.entry i).clear (hpid ▸ hp) hm]

theorem store_empty_slots (t : Table) (i : Nat) :
    (t.store i {}).slots = fun j => if j == i then none else t.slots j := by
  funext j
  unfold slots
  by_cases hj : j = i
  · simp [hj, store_self]
  · rw [store_other t _ hj, beq_eq_false_iff_ne.mpr hj]
    rfl

end Table

/-- The call of `EnsureLanMirror` in progress. -/
def Pc.mirroring : Pc → Option Mirroring
  | .ensuring m => some m
  | .opening m => some m
  | .binding m _ => some m
  | .installing m _ => some m
  | .discarding m _ _ => some m
  | _ => none

namespace Threads

/-- The sockets of the interface and who keeps them. -/
def ledgerOf (t : Table) (hand : List Int) (v : VNet) : Ledger Nat Int :=
  ⟨t.slots, hand, {vfd | v.isOpen vfd = true}⟩

theorem mem_live {t : Table} {l : List Int} {v : VNet} {vfd : Int} :
    vfd ∈ (ledgerOf t l v).live ↔ v.isOpen vfd = true := Iff.rfl

def ledger (s : Threads) : Ledger Nat Int := ledgerOf s.table s.held s.vnet

/-- What every state keeps, whatever the network does. -/
structure Inv (s : Threads) : Prop where
  tidy : s.table.Tidy
  held : ∀ vfd ∈ s.held, 0 ≤ vfd
  pid : ∀ m, s.server.mirroring = some m → m.pid ≠ 0

/-! ### Steps of the ledger -/

theorem ledgerOf_same {t u : Table} {l k : List Int} {v w : VNet} (ht : u.slots = t.slots) (hl : l.Perm k)
    (hv : VNet.SameOpen v w) : Ledger.Step False (ledgerOf t l v) (ledgerOf u k w) := by
  refine .keep ⟨ht, hl, ?_⟩
  ext vfd
  rw [mem_live, mem_live, hv.isOpen]

theorem ledgerOf_open {v : VNet} {i : Nat} (hi : i < MaxSockets) (hfree : (v.socks i).used = false)
    (t : Table) {l k : List Int} (hl : k = (i : Int) :: l) :
    Ledger.Step True (ledgerOf t l v) (ledgerOf t k (v.setSock i { Socket.empty with used := true })) := by
  have hclosed : v.isOpen i = false := by
    rw [← Bool.not_eq_true, VNet.isOpen_iff]
    rintro ⟨j, hj, -, hu⟩
    rw [← Int.natCast_inj.mp hj, hfree] at hu
    cases hu
  refine .take trivial i (fun h => Bool.false_ne_true (hclosed.symm.trans h)) ⟨rfl, ?_, ?_⟩
  · rw [hl]
    exact .refl _
  · ext vfd
    show vfd ∈ (ledgerOf t k _).live ↔ vfd ∈ insert (i : Int) (ledgerOf t l v).live
    rw [mem_live, VNet.isOpen_setSock hi, Set.mem_insert_iff, mem_live]
    constructor
    · exact Or.imp And.left And.right
    · rintro (rfl | h)
      · exact .inl ⟨rfl, rfl⟩
      · refine .inr ⟨?_, h⟩
        rintro rfl
        exact Bool.false_ne_true (hclosed.symm.trans h)

theorem ledgerOf_close (t : Table) (v : VNet) {vfd : Int} {l k : List Int} (hmem : vfd ∈ l)
    (hl : (l.erase vfd).Perm k) : Ledger.Step False (ledgerOf t l v) (ledgerOf t k (closeLanSocket v vfd)) := by
  refine .release vfd hmem ⟨rfl, hl, ?_⟩
  ext other
  show other ∈ (ledgerOf t k _).live ↔ other ∈ (ledgerOf t l v).live \ {vfd}
  rw [mem_live, closeLanSocket, VNet.udpClose_isOpen, Set.mem_sdiff, mem_live, Set.mem_singleton_iff,
    and_comm]

/-! ### What a step does -/

/-- The first block of a command, on a table that was tidy. -/
structure Served (t : Table) (r : Table × Pc) : Prop where
  tidy : r.1.Tidy
  held : ∀ vfd ∈ r.2.held, 0 ≤ vfd
  pid : ∀ m, r.2.mirroring = some m → m.pid ≠ 0
  ledger : ∀ l v, Ledger.Step False (ledgerOf t l v) (ledgerOf r.1 (r.2.held ++ l) v)

/-- A block that mirrors nobody and takes nothing into hand. -/
theorem Served.of_slots {t u : Table} {pc : Pc} (hs : u.slots = t.slots) (hu : u.Tidy) (hpc : pc.held = [])
    (hm : ∀ m, pc.mirroring = some m → m.pid ≠ 0) : Served t (u, pc) := by
  refine ⟨hu, ?_, hm, fun l v => ?_⟩
  · intro vfd hvfd
    rw [show (u, pc).2.held = [] from hpc] at hvfd
    cases hvfd
  · rw [show (u, pc).2.held ++ l = l from congrArg (· ++ l) hpc]
    exact ledgerOf_same hs (.refl l) (.refl v)

theorem Served.notes {t u : Table} (ht : t.Tidy) (h : Table.SameMirrors t u) {pc : Pc} (hpc : pc.held = [])
    (hm : ∀ m, pc.mirroring = some m → m.pid ≠ 0) : Served t (u, pc) :=
  .of_slots h.slots (h.tidy ht) hpc hm

theorem query_plain (t : Table) (pid : U64) (fd : Int) (q : Query) :
    (query t pid fd q).held = [] ∧ (query t pid fd q).mirroring = none := by
  cases q with
  | receive max peek =>
    rw [query]
    split_ifs <;> exact ⟨rfl, rfl⟩
  | readable =>
    rw [query]
    split_ifs <;> exact ⟨rfl, rfl⟩
  | send data =>
    rw [query]
    cases t.getConnectedLanPeer pid fd <;> exact ⟨rfl, rfl⟩
  | message name data =>
    rw [query]
    cases t.getConnectedLanPeer pid fd <;> dsimp only <;> split_ifs <;> exact ⟨rfl, rfl⟩
  | peerName =>
    rw [query]
    split_ifs <;> exact ⟨rfl, rfl⟩

theorem forget_served {t : Table} (ht : t.Tidy) {pid : U64} (hp : pid ≠ 0) (fd : Int) :
    Served t ((t.forget pid fd).1,
      .releasing (if (t.forget pid fd).2 = InvalidSocket then [] else [(t.forget pid fd).2])) := by
  rcases Table.forget_cases ht hp fd with heq | ⟨i, hi, hpid, htable, hout⟩
  · rw [heq]
    exact .notes ht (.refl t) rfl (fun m h => (by cases h))
  · refine ⟨htable ▸ ht.store hi .empty, fun vfd h => ?_, fun m h => (by cases h), fun l v => ?_⟩
    · replace h : vfd ∈ (t.slots i).toList := hout ▸ h
      exact (ht.slot (Option.mem_toList.mp h)).2.2
    · refine .clear (fun j => j == i) [i] (List.nodup_singleton i) ?_ ⟨?_, ?_, rfl⟩
      · intro j hj _
        exact List.mem_singleton.mpr (beq_iff_eq.mp hj)
      · show (t.forget pid fd).1.slots = _
        rw [htable, Table.store_empty_slots]
        rfl
      · show ((([i].filter fun j => j == i).filterMap t.slots) ++ l).Perm ((if _ then _ else _) ++ l)
        rw [hout]
        cases ht : t.slots i <;> simp [ht]

theorem forgetForPid_step {t : Table} (ht : t.Tidy) {pid : U64} (hp : pid ≠ 0) {l k : List Int} (v : VNet)
    (hl : ((t.forgetForPid pid).2 ++ l).Perm k) :
    Ledger.Step False (ledgerOf t l v) (ledgerOf (t.forgetForPid pid).1 k v) := by
  obtain ⟨hslots, hout⟩ := Table.forgetForPid_slots ht hp
  refine .clear (fun i => decide (i < MaxLanSockets) && (t i).pid == pid) (List.range MaxLanSockets)
    List.nodup_range ?_ ⟨hslots, ?_, rfl⟩
  · intro i hi _
    rw [Bool.and_eq_true, decide_eq_true_eq] at hi
    exact List.mem_range.mpr hi.1
  · rw [hout] at hl
    exact hl

theorem forgetForPid_tidy {t : Table} (ht : t.Tidy) (pid : U64) : (t.forgetForPid pid).1.Tidy := by
  refine ht.cleared fun i => ?_
  unfold Table.forgetForPid
  dsimp only
  split
  · exact .inl rfl
  · exact .inr rfl

theorem forgetForPid_valid {t : Table} (ht : t.Tidy) {pid : U64} (hp : pid ≠ 0) :
    ∀ vfd ∈ (t.forgetForPid pid).2, 0 ≤ vfd := by
  intro vfd hvfd
  rw [(Table.forgetForPid_slots ht hp).2] at hvfd
  obtain ⟨i, -, hi⟩ := List.mem_filterMap.mp hvfd
  exact (ht.slot hi).2.2

/-- **What the first block of a command does to the ledger.** -/
theorem command_served {t : Table} (ht : t.Tidy) {pid : U64} (hp : pid ≠ 0) (c : Command) :
    Served t (command t pid c) := by
  have hidle : ∀ {u : Table}, Table.SameMirrors t u → Served t (u, .idle) :=
    fun h => .notes ht h rfl (fun m hm => (by cases hm))
  have hensure : ∀ {u : Table} (fd : Int) (port : U16) (d : Option (U32 × U16 × List U8)),
      Table.SameMirrors t u → Served t (u, .ensuring ⟨pid, fd, port, d⟩) := by
    intro u fd port d h
    refine .notes ht h rfl fun m hm => ?_
    cases hm
    exact hp
  cases c with
  | socket domain type protocol ret =>
    rw [command]
    split
    · obtain ⟨hslots, htidy⟩ := Table.track_mirrors ht pid ret
      exact .of_slots hslots htidy rfl (fun m hm => (by cases hm))
    · exact hidle (.refl t)
  | otherDescriptor ret => exact hidle (.refl t)
  | bind fd addr ret =>
    rw [command]
    split
    · dsimp only
      split
      · exact hensure _ _ _ (Table.recordBind_same ..)
      · exact hidle (Table.recordBind_same ..)
    · exact hidle (.refl t)
  | setSockOpt fd level optname v ret =>
    rw [command]
    split
    · dsimp only
      split
      · exact hensure _ _ _ (Table.recordBroadcast_same ..)
      · exact hidle (Table.recordBroadcast_same ..)
    · exact hidle (.refl t)
  | sendTo fd buf addr =>
    rw [command]
    split_ifs
    · exact hidle (.refl t)
    · exact hensure _ _ _ (.refl t)
    · exact hidle (.refl t)
    · exact .notes ht (.refl t) rfl (fun m hm => (by cases hm))
  | connect fd addr ret =>
    rw [command]
    split_ifs
    · exact .notes ht (.refl t) rfl (fun m hm => (by cases hm))
    · exact .notes ht (.refl t) rfl (fun m hm => (by cases hm))
    · exact hidle (Table.forwardedConnect_peerOnly ..).same
    · exact hidle (Table.forwardedConnect_peerOnly ..).same
  | getSockName fd name ret =>
    have hname : Table.SameMirrors t (if 4 ≤ name.length then t.recordName pid fd (sockaddrPort name) else t) := by
      split
      · exact Table.recordName_same ..
      · exact .refl t
    rw [command]
    by_cases hret : ret = 0
    · rw [if_pos hret]
      by_cases hlen : 8 ≤ name.length
      · rw [if_pos hlen]
        exact .notes ht hname rfl (fun m hm => (by cases hm))
      · rw [if_neg hlen]
        exact hidle hname
    · rw [if_neg hret]
      exact hidle (.refl t)
  | close fd ret =>
    rw [command]
    split
    · exact forget_served ht hp fd
    · exact hidle (.refl t)
  | shutdownAllSockets ret =>
    rw [command]
    split
    · exact ⟨forgetForPid_tidy ht pid, forgetForPid_valid ht hp, fun m hm => (by cases hm),
        fun l v => forgetForPid_step ht hp v (.refl _)⟩
    · exact hidle (.refl t)
  | query fd q =>
    refine .notes ht (.refl t) (query_plain t pid fd q).1 fun m hm => ?_
    rw [(query_plain t pid fd q).2] at hm
    cases hm

theorem next_plain (m : Mirroring) (selected : Int) :
    (m.next selected).held = [] ∧ (m.next selected).mirroring = none := by
  unfold Mirroring.next
  split
  · split_ifs <;> exact ⟨rfl, rfl⟩
  · exact ⟨rfl, rfl⟩

/-- What a step does that opens a virtual socket only if `mayOpen`. -/
structure Stepped (mayOpen : Prop) (s s' : Threads) : Prop where
  inv : s'.Inv
  ledger : Ledger.Step mayOpen s.ledger s'.ledger

theorem Stepped.mono {mayOpen mayOpen' : Prop} {s s' : Threads} (h : Stepped mayOpen s s')
    (hmay : mayOpen → mayOpen') : Stepped mayOpen' s s' := ⟨h.inv, h.ledger.mono hmay⟩

theorem Stepped.server {mayOpen : Prop} {s : Threads} (hi : s.Inv) {v : VNet} {t : Table} {pc : Pc} (ht : t.Tidy)
    (hheld : ∀ vfd ∈ pc.held, 0 ≤ vfd) (hpid : ∀ m, pc.mirroring = some m → m.pid ≠ 0)
    (hl : Ledger.Step mayOpen s.ledger (ledgerOf t (pc.held ++ s.reaping) v)) :
    Stepped mayOpen s { s with vnet := v, table := t, server := pc } := by
  refine ⟨⟨ht, fun vfd hvfd => ?_, hpid⟩, hl⟩
  rcases List.mem_append.mp hvfd with h | h
  · exact hheld vfd h
  · exact hi.held vfd (List.mem_append_right _ h)

/-- The server thread goes from a place where it holds nothing to another, and mirrors nobody. -/
theorem Stepped.plain {s : Threads} (hi : s.Inv) (hs : s.server.held = []) {v : VNet} {t : Table} {pc : Pc}
    (ht : Table.SameMirrors s.table t) (hv : VNet.SameOpen s.vnet v)
    (hpc : pc.held = [] ∧ pc.mirroring = none) : Stepped False s { s with vnet := v, table := t, server := pc } := by
  refine .server hi (ht.tidy hi.tidy) (fun vfd h => ?_) (fun m h => ?_) (ledgerOf_same ht.slots ?_ hv)
  · rw [hpc.1] at h
    cases h
  · rw [hpc.2] at h
    cases h
  · rw [held, hs, hpc.1]

theorem Stepped.ensuring {mayOpen : Prop} {s : Threads} (hi : s.Inv) {m : Mirroring} (hs : s.server.mirroring = some m)
    {v : VNet} {t : Table} {pc : Pc} (ht : t.Tidy) (hpc : pc.mirroring = some m)
    (hheld : ∀ vfd ∈ pc.held, 0 ≤ vfd)
    (hl : Ledger.Step mayOpen s.ledger (ledgerOf t (pc.held ++ s.reaping) v)) :
    Stepped mayOpen s { s with vnet := v, table := t, server := pc } := by
  refine .server hi ht hheld (fun m' h => ?_) hl
  rw [hpc] at h
  cases h
  exact hi.pid m hs

/-! The blocks of `EnsureLanMirror`, from the opening of the candidate. -/

theorem opening_stepped {s : Threads} (hi : s.Inv) {m : Mirroring} (hs : s.server = .opening m) :
    Stepped True s { s with
      vnet := (openLanSocket s.vnet).1
      server := if (openLanSocket s.vnet).2 = InvalidSocket then m.next InvalidSocket
        else .binding m (openLanSocket s.vnet).2 } := by
  rcases openLanSocket_cases s.vnet with heq | ⟨i, hlt, hfree, heq⟩
  · rw [heq]
    exact (Stepped.plain hi (by rw [hs]; rfl) (.refl _) (.refl _) (next_plain m _)).mono False.elim
  · rw [heq, if_neg (show (i : Int) ≠ InvalidSocket by unfold InvalidSocket; omega)]
    refine .ensuring hi (m := m) (by rw [hs]; rfl) hi.tidy rfl (fun vfd h => ?_) ?_
    · rw [List.mem_singleton.mp h]
      exact Int.natCast_nonneg i
    · unfold ledger held
      rw [hs]
      exact ledgerOf_open hlt hfree s.table rfl

theorem binding_stepped {s : Threads} (hi : s.Inv) {m : Mirroring} {candidate : Int}
    (hs : s.server = .binding m candidate) :
    Stepped False s { s with
      vnet := (bindLanSocket s.vnet candidate m.port).1
      server := if (bindLanSocket s.vnet candidate m.port).2 then .installing m candidate
        else .discarding m candidate InvalidSocket } := by
  have hheld : ∀ {pc : Pc}, pc.held = [candidate] → ∀ vfd ∈ pc.held, 0 ≤ vfd := by
    intro pc hpc vfd h
    rw [hpc] at h
    apply hi.held
    rw [held, hs]
    exact List.mem_append_left _ h
  have hstep : ∀ {pc : Pc}, pc.held = [candidate] → pc.mirroring = some m →
      Stepped False s { s with vnet := (bindLanSocket s.vnet candidate m.port).1, server := pc } := by
    intro pc hpc hm
    refine .ensuring hi (m := m) (by rw [hs]; rfl) hi.tidy hm (hheld hpc) ?_
    refine ledgerOf_same rfl ?_ (bindLanSocket_sameOpen ..)
    rw [held, hs, hpc]
    exact .refl _
  split
  · exact hstep rfl rfl
  · exact hstep rfl rfl

theorem installing_stepped {s : Threads} (hi : s.Inv) {m : Mirroring} {candidate : Int}
    (hs : s.server = .installing m candidate) :
    Stepped False s { s with
      table := (s.table.install m.pid m.fd candidate).1
      server := if (s.table.install m.pid m.fd candidate).2.2 then
          m.next (s.table.install m.pid m.fd candidate).2.1
        else .discarding m candidate (s.table.install m.pid m.fd candidate).2.1 } := by
  have hvalid : 0 ≤ candidate := by
    apply hi.held
    rw [held, hs]
    exact List.mem_append_left _ List.mem_cons_self
  rcases Table.install_cases s.table m.pid m.fd candidate with ⟨htable, hno⟩ | ⟨i, hfind, hm, heq⟩
  · rw [htable, hno, if_neg Bool.false_ne_true]
    refine .ensuring hi (m := m) (by rw [hs]; rfl) hi.tidy rfl (fun vfd h => ?_) ?_
    · rw [List.mem_singleton.mp h]
      exact hvalid
    · unfold ledger held
      rw [hs]
      exact ledgerOf_same rfl (.refl _) (.refl _)
  · obtain ⟨hlt, hpid, -⟩ := Table.find_some hfind
    have hp : (s.table i).pid ≠ 0 := hpid ▸ hi.pid m (by rw [hs]; rfl)
    rw [heq, if_pos rfl]
    obtain ⟨hnext, hnone⟩ := next_plain m candidate
    refine .server hi (hi.tidy.install hlt hp hvalid) (fun vfd h => ?_) (fun m' h => ?_) ?_
    · rw [hnext] at h
      cases h
    · rw [hnone] at h
      cases h
    · unfold ledger held
      rw [hs, hnext]
      refine .put i candidate ?_ List.mem_cons_self ⟨?_, ?_, rfl⟩
      · show s.table.slots i = none
        rw [Table.slots, hm]
        rfl
      · exact Table.install_slots ..
      · show (List.erase (candidate :: s.reaping) candidate).Perm s.reaping
        rw [List.erase_cons_head]

/-- Closing the first virtual socket in the server thread's hand. -/
theorem closing_stepped {s : Threads} (hi : s.Inv) {vfd : Int} {pc : Pc} (hs : s.server.held = vfd :: pc.held)
    (hpc : pc.mirroring = none) :
    Stepped False s { s with vnet := closeLanSocket s.vnet vfd, server := pc } := by
  refine .server hi hi.tidy (fun other h => ?_) (fun m h => ?_) ?_
  · apply hi.held
    rw [held, hs]
    exact List.mem_append_left _ (List.mem_cons_of_mem vfd h)
  · rw [hpc] at h
    cases h
  · unfold ledger held
    rw [hs]
    refine ledgerOf_close s.table s.vnet List.mem_cons_self ?_
    rw [List.cons_append, List.erase_cons_head]

/-- **What the server thread does to the ledger as it goes on.** -/
theorem serve_stepped {s s' : Threads} (hi : s.Inv) (h : s.serve = some s') :
    Stepped (∃ m, s.server = .opening m) s s' := by
  have hplain : ∀ {v : VNet} {t : Table} {pc : Pc}, s.server.held = [] → Table.SameMirrors s.table t →
      VNet.SameOpen s.vnet v → pc.held = [] ∧ pc.mirroring = none →
      Stepped (∃ m, s.server = .opening m) s { s with vnet := v, table := t, server := pc } :=
    fun hs ht hv hpc => (Stepped.plain hi hs ht hv hpc).mono False.elim
  unfold serve at h
  split at h
  · cases h
  · rename_i m hs
    have hheld : s.server.held = [] := by rw [hs]; rfl
    split at h
    · cases h
      exact hplain hheld (.refl _) (.refl _) (next_plain m _)
    · split at h
      · cases h
        exact hplain hheld (.refl _) (.refl _) (next_plain m _)
      · cases h
        refine .ensuring hi (m := m) (by rw [hs]; rfl) hi.tidy rfl (fun vfd h => (by cases h)) ?_
        refine (ledgerOf_same rfl ?_ (.refl _)).mono False.elim
        rw [held, hheld]
        exact .refl _
  · rename_i m hs
    cases h
    exact (opening_stepped hi hs).mono fun _ => ⟨m, hs⟩
  · rename_i m candidate hs
    cases h
    exact (binding_stepped hi hs).mono False.elim
  · rename_i m candidate hs
    cases h
    exact (installing_stepped hi hs).mono False.elim
  · rename_i m candidate selected hs
    cases h
    obtain ⟨hnext, hnone⟩ := next_plain m selected
    refine (closing_stepped hi ?_ hnone).mono False.elim
    rw [hs, hnext]
    rfl
  · rename_i hs
    cases h
    exact hplain (by rw [hs]; rfl) (.refl _) (.refl _) ⟨rfl, rfl⟩
  · rename_i vfd vfds hs
    cases h
    refine (closing_stepped hi ?_ rfl).mono False.elim
    rw [hs]
    rfl
  · rename_i pid fd c hs
    cases h
    refine hplain (by rw [hs]; rfl) (.refl _) ?_ ⟨rfl, rfl⟩
    cases c with
    | send c => exact SendCall.exec_sameOpen ..
    | receive vfd max peek => exact VNet.udpRecvFrom_sameOpen ..
    | readable vfd => exact .refl _
  · rename_i pid fd vfd ip port data hs
    have hheld : s.server.held = [] := by rw [hs]; rfl
    split at h <;> cases h <;> exact hplain hheld (.refl _) (.refl _) ⟨rfl, rfl⟩
  · rename_i pid fd addr ret hs
    have hheld : s.server.held = [] := by rw [hs]; rfl
    split at h
    · cases h
      exact hplain hheld (.refl _) (.refl _) ⟨rfl, rfl⟩
    · cases h
      exact hplain hheld (Table.forwardedConnect_peerOnly ..).same (.refl _) ⟨rfl, rfl⟩
  · rename_i pid fd peer addr ret hs
    have hheld : s.server.held = [] := by rw [hs]; rfl
    have hforwarded : Stepped (∃ m, s.server = .opening m) s
        { s with table := s.table.forwardedConnect pid fd addr ret, server := .idle } :=
      hplain hheld (Table.forwardedConnect_peerOnly ..).same (.refl _) ⟨rfl, rfl⟩
    split at h
    · split at h
      · cases h
        exact hplain hheld (Table.recordPeer_peerOnly ..).same (.refl _) ⟨rfl, rfl⟩
      · cases h
        exact hforwarded
    · cases h
      exact hforwarded
  · rename_i pid fd hs
    have hheld : s.server.held = [] := by rw [hs]; rfl
    cases h
    split <;> exact hplain hheld (.refl _) (.refl _) ⟨rfl, rfl⟩
  · rename_i pid fd hs
    cases h
    exact hplain (by rw [hs]; rfl) (.refl _) (.refl _) ⟨rfl, rfl⟩

/-- What going on does to the table. -/
theorem serve_table {s s' : Threads} (h : s.serve = some s') :
    s'.history = s.history ∧
      (Table.PeerOnly s.table s'.table ∨
        ∃ m candidate, s.server = .installing m candidate ∧
          s'.table = (s.table.install m.pid m.fd candidate).1) := by
  unfold serve at h
  split at h
  case h_1 => cases h
  case h_2 m hs =>
    split at h
    · cases h
      exact ⟨rfl, .inl (.refl _)⟩
    · split at h <;> cases h <;> exact ⟨rfl, .inl (.refl _)⟩
  case h_5 m candidate hs =>
    cases h
    exact ⟨rfl, .inr ⟨m, candidate, hs, rfl⟩⟩
  case h_11 pid fd addr ret hs =>
    split at h <;> cases h
    · exact ⟨rfl, .inl (.refl _)⟩
    · exact ⟨rfl, .inl (Table.forwardedConnect_peerOnly ..)⟩
  case h_12 pid fd peer addr ret hs =>
    split at h
    · split at h <;> cases h
      · exact ⟨rfl, .inl (Table.recordPeer_peerOnly ..)⟩
      · exact ⟨rfl, .inl (Table.forwardedConnect_peerOnly ..)⟩
    · cases h
      exact ⟨rfl, .inl (Table.forwardedConnect_peerOnly ..)⟩
  case h_10 pid fd vfd ip port data hs => split at h <;> cases h <;> exact ⟨rfl, .inl (.refl _)⟩
  all_goals
    cases h
    exact ⟨rfl, .inl (.refl _)⟩

/-- `DOWN` and `DESTROY` reset the interface. -/
def resets : Event → Bool
  | .networkConfig op _ => op = .destroy ∨ op = .down
  | _ => false

theorem Stepped.vnet {s : Threads} (hi : s.Inv) {v : VNet} (hv : VNet.SameOpen s.vnet v) :
    Stepped False s { s with vnet := v } :=
  ⟨⟨hi.tidy, hi.held, hi.pid⟩, ledgerOf_same rfl (.refl _) hv⟩

theorem command_stepped {s : Threads} (hi : s.Inv) (hidle : s.server = .idle) {pid : U64} (hp : pid ≠ 0)
    (c : Command) :
    Stepped False s { s with
      table := (command s.table pid c).1
      server := (command s.table pid c).2
      history := (pid, c) :: s.history } := by
  obtain ⟨htidy, hheld, hpid, hledger⟩ := command_served hi.tidy hp c
  refine ⟨⟨htidy, fun vfd h => ?_, hpid⟩, ?_⟩
  · rcases List.mem_append.mp h with h | h
    · exact hheld vfd h
    · exact hi.held vfd (List.mem_append_right _ h)
  · unfold ledger
    rw [show s.held = s.reaping by rw [held, hidle]; rfl]
    exact hledger s.reaping s.vnet

theorem reap_stepped {s : Threads} (hi : s.Inv) (hnone : s.reaping = []) {pid : U64} (hp : pid ≠ 0) :
    Stepped False s { s with
      table := (s.table.forgetForPid pid).1
      reaping := (s.table.forgetForPid pid).2 } := by
  refine ⟨⟨forgetForPid_tidy hi.tidy pid, fun vfd h => ?_, hi.pid⟩, ?_⟩
  · rcases List.mem_append.mp h with h | h
    · exact hi.held vfd (List.mem_append_left _ h)
    · exact forgetForPid_valid hi.tidy hp vfd h
  · refine forgetForPid_step hi.tidy hp s.vnet ?_
    unfold held
    rw [hnone, List.append_nil]
    exact List.perm_append_comm

theorem reapNext_stepped {s : Threads} (hi : s.Inv) {vfd : Int} {vfds : List Int}
    (hs : s.reaping = vfd :: vfds) :
    Stepped False s { s with vnet := closeLanSocket s.vnet vfd, reaping := vfds } := by
  refine ⟨⟨hi.tidy, fun other h => ?_, hi.pid⟩, ?_⟩
  · apply hi.held
    unfold held
    rw [hs]
    rcases List.mem_append.mp h with h | h
    · exact List.mem_append_left _ h
    · exact List.mem_append_right _ (List.mem_cons_of_mem vfd h)
  · refine ledgerOf_close s.table s.vnet ?_ ?_
    · unfold held
      rw [hs]
      exact List.mem_append_right _ List.mem_cons_self
    · unfold held
      rw [hs]
      exact (List.perm_middle.erase vfd).trans (by rw [List.erase_cons_head])

/-- The server thread is about to open a virtual socket. -/
def opens (s : Threads) (e : Event) : Prop := e = .serve ∧ ∃ m, s.server = .opening m

/-- **Every step but a reset is a step of the ledger.** -/
theorem step_ledger {s s' : Threads} {e : Event} (hi : s.Inv) (h : s.step e = some s') :
    s'.Inv ∧ if resets e then s'.ledger = s.ledger.wipe else Ledger.Step (s.opens e) s.ledger s'.ledger := by
  have hstepped : ∀ {t : Threads}, Stepped False s t → t.Inv ∧ Ledger.Step (s.opens e) s.ledger t.ledger :=
    fun h => ⟨h.inv, h.ledger.mono False.elim⟩
  cases e with
  | command pid c =>
    rw [step] at h
    split at h
    · cases h
    · rename_i hno
      cases h
      exact hstepped (command_stepped hi (by_contra fun hne => hno (.inl hne)) (fun hp => hno (.inr hp)) c)
  | serve =>
    have hserve := serve_stepped hi h
    exact ⟨hserve.inv, hserve.ledger.mono fun hm => ⟨rfl, hm⟩⟩
  | reap pid =>
    rw [step] at h
    split at h
    · cases h
    · rename_i hno
      cases h
      exact hstepped (reap_stepped hi (by_contra fun hne => hno (.inl hne)) (fun hp => hno (.inr hp)))
  | reapNext =>
    rw [step] at h
    split at h
    · cases h
    · rename_i vfd vfds hs
      cases h
      exact hstepped (reapNext_stepped hi hs)
  | networkConfig op conf =>
    rw [step] at h
    split at h
    · cases h
    · cases h
      have hopen := cbNetworkConfig_isOpen s.vnet op conf
      by_cases hreset : op = .destroy ∨ op = .down
      · rw [if_pos hreset] at hopen
        refine ⟨⟨hi.tidy, hi.held, hi.pid⟩, ?_⟩
        rw [if_pos (show resets (.networkConfig op conf) = true from decide_eq_true hreset)]
        have hnone : ({vfd | (cbNetworkConfig s.vnet op conf).isOpen vfd = true} : Set Int) = ∅ := by
          ext vfd
          exact ⟨fun ho => absurd ((hopen vfd).symm.trans ho) Bool.false_ne_true, fun ho => (by cases ho)⟩
        show Ledger.mk s.table.slots s.held _ = Ledger.mk s.table.slots s.held ∅
        rw [hnone]
      · rw [if_neg hreset] at hopen
        rw [if_neg (show ¬resets (.networkConfig op conf) = true from fun h => hreset (of_decide_eq_true h))]
        exact hstepped (.vnet hi hopen)
  | virtualFrame srcMac dstMac etherType payload =>
    rw [step] at h
    split at h
    · cases h
    · cases h
      exact hstepped (.vnet hi (VNet.onFrame_sameOpen ..))
  | probe dstIp =>
    rw [step] at h
    split at h
    · cases h
    · cases h
      exact hstepped (.vnet hi (VNet.sendEchoRequest_samePool ..).sameOpen)

theorem Inv.started : started.Inv := by
  refine ⟨⟨fun _ => .empty, fun _ _ => rfl⟩, ?_, fun m h => (by cases h)⟩
  intro vfd h
  cases h

/-- The invariant holds in every run, and no live virtual socket is ever lost. -/
theorem keeps_accounted :
    serving.Keeps (fun _ _ => true) fun s => s.Inv ∧ s.ledger.Accounted := by
  rintro s e s' ⟨hi, hacc⟩ - h
  obtain ⟨hi', hledger⟩ := step_ledger hi h
  refine ⟨hi', ?_⟩
  split at hledger
  · rw [hledger]
    exact .wipe
  · exact hledger.accounted hacc

end Threads

end SysZerotier.Mitm
