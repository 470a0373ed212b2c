import SysZerotier.Mitm.Leaks

/-! Whose traffic goes to the overlay.

A descriptor is `Virtual` if its process created it as a UDP socket and has since
given it a local port and announced it: bound it to a LAN port, allowed it to
broadcast, or sent a broadcast from it. The table's entries note no more than the
history says (`Noted`), so only virtual descriptors are mirrored, and for no other does
a handler turn to the interface or the table (`keeps_compliant`). -/
namespace SysZerotier.Mitm
open Net Port Library

/-! ### What the history says of a descriptor -/

namespace Command

/-- The command taught the shim the descriptor's local port. -/
def learns (fd : Int) (port : U16) : Command → Bool
  | .bind f addr ret => f == fd && ret == 0 && decide (8 ≤ addr.length) && sockaddrPort addr == port
  | .getSockName f name ret => f == fd && ret == 0 && decide (4 ≤ name.length) && sockaddrPort name == port
  | _ => false

/-- The descriptor was bound to a LAN port, had `SO_BROADCAST` set or sent to an
address that ends in .255. -/
def announces (fd : Int) : Command → Bool
  | .bind f addr ret => f == fd && ret == 0 && decide (8 ≤ addr.length) && isPiaLanPort (sockaddrPort addr)
  | .setSockOpt f level optname v ret => f == fd && ret == 0 && level == 0xFFFF && optname == 0x20 && v != 0
  | .sendTo f _ addr => f == fd && decide (8 ≤ addr.length) && directedBroadcast addr
  | _ => false

end Command

/-- A UDP socket of the process that has a port and has been announced. -/
def Virtual (history : List (U64 × Command)) (pid : U64) (fd : Int) : Prop :=
  ∃ created later, since pid fd history = some (created, later) ∧ created.udp = true ∧
    (∃ port, port ≠ 0 ∧ ∃ c ∈ later, c.learns fd port = true) ∧ ∃ c ∈ later, c.announces fd = true

/-- An entry notes what the commands since its creation said. -/
structure Life (later : List Command) (k : LanSocket) : Prop where
  port : k.boundPort ≠ 0 → ∃ c ∈ later, c.learns k.bsdFd k.boundPort = true
  broadcast : k.broadcast = true → ∃ c ∈ later, c.announces k.bsdFd = true
  mirrored : k.mirrored = true →
    (∃ port, port ≠ 0 ∧ ∃ c ∈ later, c.learns k.bsdFd port = true) ∧ ∃ c ∈ later, c.announces k.bsdFd = true

def Noted (history : List (U64 × Command)) (k : LanSocket) : Prop :=
  ∃ created later, since k.pid k.bsdFd history = some (created, later) ∧ created.udp = true ∧ Life later k

theorem Noted.virtual {history : List (U64 × Command)} {k : LanSocket} (h : Noted history k)
    (hm : k.mirrored = true) : Virtual history k.pid k.bsdFd := by
  obtain ⟨created, later, hs, hu, hlife⟩ := h
  exact ⟨created, later, hs, hu, hlife.mirrored hm⟩

theorem Noted.some {history : List (U64 × Command)} {k : LanSocket} (h : Noted history k) :
    since k.pid k.bsdFd history ≠ none := by
  obtain ⟨created, later, hs, -⟩ := h
  rw [hs]
  exact Option.some_ne_none _

theorem Noted.valid {history : List (U64 × Command)} {k : LanSocket} (h : Noted history k) : 0 ≤ k.bsdFd := by
  obtain ⟨created, later, hs, -⟩ := h
  exact since_valid hs

/-- What a command of `pid` may change of an entry. -/
structure Kept (pid : U64) (c : Command) (k k' : LanSocket) : Prop where
  owner : k'.pid = k.pid
  bsdFd : k'.bsdFd = k.bsdFd
  mirrored : k'.mirrored = k.mirrored
  port : k'.boundPort = k.boundPort ∨ k.pid = pid ∧ c.learns k.bsdFd k'.boundPort = true
  broadcast : k'.broadcast = true → k.broadcast = true ∨ k.pid = pid ∧ c.announces k.bsdFd = true

theorem Kept.refl (pid : U64) (c : Command) (k : LanSocket) : Kept pid c k k :=
  ⟨rfl, rfl, rfl, .inl rfl, .inl⟩

theorem Noted.kept {history : List (U64 × Command)} {pid : U64} {c : Command} {k k' : LanSocket}
    (h : Noted history k) (hk : Kept pid c k k') (hg : k.pid = pid → c.gives k.bsdFd = false)
    (hc : k.pid = pid → c.closes k.bsdFd = false) : Noted ((pid, c) :: history) k' := by
  obtain ⟨created, later, hs, hu, hport, hbroadcast, hmirrored⟩ := h
  unfold Noted
  rw [hk.owner, hk.bsdFd]
  by_cases hp : k.pid = pid
  · have hmem : ∀ {p : Command → Prop}, (∃ d ∈ later, p d) → ∃ d ∈ c :: later, p d :=
      fun ⟨d, hd, hpd⟩ => ⟨d, List.mem_cons_of_mem c hd, hpd⟩
    refine ⟨created, c :: later, ?_, hu, fun hne => ?_, fun hb => ?_, fun hm => ?_⟩
    · rw [hp, since_cons (hg hp) (hc hp), ← hp, hs]
      rfl
    · rw [hk.bsdFd]
      rcases hk.port with heq | ⟨-, hlearn⟩
      · rw [heq] at hne ⊢
        exact hmem (hport hne)
      · exact ⟨c, List.mem_cons_self, hlearn⟩
    · rw [hk.bsdFd]
      rcases hk.broadcast hb with hb | ⟨-, ha⟩
      · exact hmem (hbroadcast hb)
      · exact ⟨c, List.mem_cons_self, ha⟩
    · rw [hk.bsdFd]
      obtain ⟨⟨port, hne, hlearn⟩, ha⟩ := hmirrored (hk.mirrored ▸ hm)
      exact ⟨⟨port, hne, hmem hlearn⟩, hmem ha⟩
  · refine ⟨created, later, ?_, hu, fun hne => ?_, fun hb => ?_, fun hm => ?_⟩
    · rw [since_other (fun h => hp h.symm), hs]
    · rw [hk.bsdFd]
      have heq := hk.port.resolve_right fun h => hp h.1
      rw [heq] at hne ⊢
      exact hport hne
    · rw [hk.bsdFd]
      exact hbroadcast ((hk.broadcast hb).resolve_right fun h => hp h.1)
    · rw [hk.bsdFd]
      exact hmirrored (hk.mirrored ▸ hm)

/-- A command that completes what makes a descriptor virtual. -/
theorem Noted.announced {history : List (U64 × Command)} {k : LanSocket} (h : Noted history k) {pid : U64}
    {fd : Int} (hp : k.pid = pid) (hf : k.bsdFd = fd) {c : Command} (hg : c.gives fd = false)
    (hc : c.closes fd = false) {port : U16} (hne : port ≠ 0)
    (hport : port = k.boundPort ∨ c.learns fd port = true)
    (ha : k.broadcast = true ∨ c.announces fd = true) : Virtual ((pid, c) :: history) pid fd := by
  subst hp hf
  have hk : Kept k.pid c k { k with boundPort := port, broadcast := true } :=
    ⟨rfl, rfl, rfl, hport.imp_right fun hl => ⟨rfl, hl⟩, fun _ => ha.imp_right fun ha => ⟨rfl, ha⟩⟩
  obtain ⟨created, later, hs, hu, hlife⟩ := h.kept hk (fun _ => hg) (fun _ => hc)
  exact ⟨created, later, hs, hu, ⟨port, hne, hlife.port hne⟩, hlife.broadcast rfl⟩

theorem Virtual.cons {history : List (U64 × Command)} {pid : U64} {fd : Int} {c : Command}
    (h : Virtual history pid fd) (hg : c.gives fd = false) (hc : c.closes fd = false) :
    Virtual ((pid, c) :: history) pid fd := by
  obtain ⟨created, later, hs, hu, ⟨port, hne, d, hd, hlearn⟩, e, he, ha⟩ := h
  refine ⟨created, c :: later, ?_, hu, ⟨port, hne, d, List.mem_cons_of_mem c hd, hlearn⟩, e,
    List.mem_cons_of_mem c he, ha⟩
  rw [since_cons hg hc, hs]
  rfl

/-! ### What the table says of a descriptor -/

namespace Table

/-- Every entry notes its descriptor's life, and no descriptor has two. -/
structure Policed (history : List (U64 × Command)) (t : Table) : Prop where
  entry : ∀ i, i < MaxLanSockets → (t i).pid ≠ 0 → Noted history (t i)
  unique : ∀ i j, i < MaxLanSockets → j < MaxLanSockets → (t i).pid ≠ 0 → (t i).pid = (t j).pid →
    (t i).bsdFd = (t j).bsdFd → i = j

theorem Policed.virtual {history : List (U64 × Command)} {t : Table} (h : Policed history t) (ht : t.Tidy)
    {pid : U64} {fd : Int} (hm : t.Mirrors pid fd) : Virtual history pid fd := by
  obtain ⟨i, hfind, hm⟩ := hm
  obtain ⟨hlt, rfl, rfl⟩ := find_some hfind
  exact (h.entry i hlt (ht.slot (if_pos hm)).2.1).virtual hm

/-- Rewriting entries in place keeps the table policed. -/
theorem Policed.kept {history : List (U64 × Command)} {t u : Table} (h : Policed history t) {pid : U64}
    {c : Command} (hk : ∀ i, Kept pid c (t i) (u i)) (hg : ∀ i, i < MaxLanSockets → (t i).pid ≠ 0 →
      (t i).pid = pid → c.gives (t i).bsdFd = false)
    (hc : ∀ fd, c.closes fd = false) : Policed ((pid, c) :: history) u := by
  refine ⟨fun i hi hp => ?_, fun i j hi hj hp hpp hff => ?_⟩
  · have hp' : (t i).pid ≠ 0 := (hk i).owner ▸ hp
    exact (h.entry i hi hp').kept (hk i) (hg i hi hp') (fun _ => hc _)
  · rw [(hk i).owner] at hp hpp
    rw [(hk j).owner] at hpp
    rw [(hk i).bsdFd, (hk j).bsdFd] at hff
    exact h.unique i j hi hj hp hpp hff

/-- Clearing every entry whose descriptor the command closes keeps it policed. -/
theorem Policed.cleared {history : List (U64 × Command)} {t u : Table} (h : Policed history t) {pid : U64}
    {c : Command} (hu : ∀ i, i < MaxLanSockets →
      u i = {} ∨ (u i = t i ∧ ((t i).pid = pid → c.closes (t i).bsdFd = false)))
    (hg : ∀ fd, c.gives fd = false) : Policed ((pid, c) :: history) u := by
  have hstay : ∀ i, i < MaxLanSockets → (u i).pid ≠ 0 →
      u i = t i ∧ ((t i).pid = pid → c.closes (t i).bsdFd = false) := by
    intro i hi hp
    refine (hu i hi).resolve_left fun he => ?_
    rw [he] at hp
    exact hp rfl
  refine ⟨fun i hi hp => ?_, fun i j hi hj hp hpp hff => ?_⟩
  · obtain ⟨heq, hclose⟩ := hstay i hi hp
    rw [heq] at hp ⊢
    exact (h.entry i hi hp).kept (.refl pid c _) (fun _ => hg _) hclose
  · obtain ⟨heqj, -⟩ := hstay j hj (hpp ▸ hp)
    obtain ⟨heqi, -⟩ := hstay i hi hp
    rw [heqi] at hp hpp hff
    rw [heqj] at hpp hff
    exact h.unique i j hi hj hp hpp hff

/-- A new entry for a descriptor that was not open. -/
theorem Policed.track {history : List (U64 × Command)} {t : Table} (h : Policed history t) {pid : U64}
    (hp : pid ≠ 0) {c : Command} {fd : Int} (hg : ∀ f, c.gives f = true ↔ f = fd) (hc : ∀ f, c.closes f = false)
    (hu : c.udp = true) (hfresh : since pid fd history = none) : Policed ((pid, c) :: history) (t.track pid fd) := by
  have hother : ∀ i, i < MaxLanSockets → (t i).pid ≠ 0 → (t i).pid = pid → (t i).bsdFd ≠ fd := by
    rintro i hi hne rfl rfl
    exact (h.entry i hi hne).some hfresh
  have hold : ∀ i, i < MaxLanSockets → (t i).pid ≠ 0 → Noted ((pid, c) :: history) (t i) := by
    intro i hi hne
    refine (h.entry i hi hne).kept (.refl pid c _) (fun hpp => ?_) (fun _ => hc _)
    rw [← Bool.not_eq_true, hg]
    exact hother i hi hne hpp
  unfold Table.track
  split
  · rename_i i hfree
    refine ⟨fun j hj hne => ?_, fun j k hj hk hne hpp hff => ?_⟩
    · by_cases hji : j = i
      · subst hji
        rw [store_self]
        exact ⟨c, [], since_gives ((hg fd).mpr rfl) history, hu, fun hz => absurd rfl hz, fun hb => (by cases hb),
          fun hm => (by cases hm)⟩
      · rw [store_other t _ hji] at hne ⊢
        exact hold j hj hne
    · by_cases hji : j = i <;> by_cases hki : k = i
      · rw [hji, hki]
      · subst hji
        rw [store_self, store_other t _ hki] at hpp hff
        exact absurd hff.symm (hother k hk (hpp ▸ hp) hpp.symm)
      · subst hki
        rw [store_self, store_other t _ hji] at hpp hff
        rw [store_other t _ hji] at hne
        exact absurd hff (hother j hj hne hpp)
      · rw [store_other t _ hji] at hne hpp hff
        rw [store_other t _ hki] at hpp hff
        exact h.unique j k hj hk hne hpp hff
  · refine ⟨hold, h.unique⟩

theorem kept_store (t : Table) (pid : U64) (c : Command) {i : Nat} {k : LanSocket} (hk : Kept pid c (t i) k)
    (j : Nat) : Kept pid c (t j) (t.store i k j) := by
  by_cases hj : j = i
  · rw [hj, store_self]
    exact hk
  · rw [store_other t k hj]
    exact .refl pid c _

/-- The entry learns a port that the command reports. -/
theorem learned_kept (t : Table) {pid : U64} {fd : Int} {c : Command} {j : Nat} {port : U16}
    (hfind : t.findLanSocketLocked pid fd = some j) (hc : c.learns fd port = true) (i : Nat) :
    Kept pid c (t i) (t.store j { t j with boundPort := port } i) := by
  obtain ⟨-, hp, hf⟩ := find_some hfind
  apply kept_store
  refine ⟨rfl, rfl, rfl, .inr ⟨hp, ?_⟩, .inl⟩
  rw [hf]
  exact hc

theorem recordBind_kept (t : Table) (pid : U64) {fd : Int} {addr : List U8} (hlen : 8 ≤ addr.length) (i : Nat) :
    Kept pid (.bind fd addr 0) (t i) ((t.recordBind pid fd (sockaddrPort addr)).1 i) := by
  rcases t.recordBind_cases pid fd (sockaddrPort addr) with heq | ⟨j, hfind, heq⟩ <;> rw [heq]
  · exact .refl ..
  · exact t.learned_kept hfind (by simp [Command.learns, hlen]) i

theorem recordBroadcast_kept (t : Table) (pid : U64) (fd v : Int) (i : Nat) :
    Kept pid (.setSockOpt fd 0xFFFF 0x20 v 0) (t i) ((t.recordBroadcast pid fd (v != 0)).1 i) := by
  rcases t.recordBroadcast_cases pid fd (v != 0) with heq | ⟨j, hfind, heq⟩ <;> rw [heq]
  · exact .refl ..
  · obtain ⟨-, hp, hf⟩ := find_some hfind
    apply kept_store
    refine ⟨rfl, rfl, rfl, .inl rfl, fun hv => .inr ⟨hp, ?_⟩⟩
    have hv' : (v != 0) = true := hv
    simp [Command.announces, hf, hv']

theorem recordName_kept (t : Table) (pid : U64) {fd : Int} {name : List U8} (hlen : 4 ≤ name.length) (i : Nat) :
    Kept pid (.getSockName fd name 0) (t i) (t.recordName pid fd (sockaddrPort name) i) := by
  rcases t.recordName_cases pid fd (sockaddrPort name) with heq | ⟨j, hfind, heq⟩ <;> rw [heq]
  · exact .refl ..
  · exact t.learned_kept hfind (by simp [Command.learns, hlen]) i

theorem PeerOnly.kept {t u : Table} (h : PeerOnly t u) (pid : U64) (c : Command) (i : Nat) :
    Kept pid c (t i) (u i) := by
  obtain ⟨port, ip, connected, heq⟩ := h.entry i
  rw [heq]
  exact ⟨rfl, rfl, rfl, .inl rfl, .inl⟩

theorem PeerOnly.policed {history : List (U64 × Command)} {t u : Table} (h : PeerOnly t u)
    (ht : Policed history t) : Policed history u := by
  have hnoted : ∀ i, Noted history (t i) → Noted history (u i) := by
    intro i hn
    obtain ⟨port, ip, connected, heq⟩ := h.entry i
    rw [heq]
    obtain ⟨created, later, hs, hu, hport, hbroadcast, hmirrored⟩ := hn
    exact ⟨created, later, hs, hu, hport, hbroadcast, hmirrored⟩
  refine ⟨fun i hi hp => hnoted i (ht.entry i hi (h.same.pid i ▸ hp)), fun i j hi hj hp hpp hff => ?_⟩
  rw [h.same.pid] at hp hpp
  rw [h.same.pid] at hpp
  rw [h.same.bsdFd, h.same.bsdFd] at hff
  exact ht.unique i j hi hj hp hpp hff

/-- Mirroring a descriptor that is virtual. -/
theorem Policed.install {history : List (U64 × Command)} {t : Table} (h : Policed history t) {pid : U64}
    {fd : Int} (hv : Virtual history pid fd) (candidate : Int) :
    Policed history (t.install pid fd candidate).1 := by
  rcases install_cases t pid fd candidate with ⟨heq, -⟩ | ⟨i, hfind, -, heq⟩
  · rw [heq]
    exact h
  · rw [heq]
    show Policed history (t.store i { t i with vnetFd := candidate, mirrored := true })
    obtain ⟨hlt, hpid, hf⟩ := find_some hfind
    refine ⟨fun j hj hp => ?_, fun j k hj hk hp hpp hff => ?_⟩
    · by_cases hji : j = i
      · subst hji
        rw [store_self] at hp ⊢
        obtain ⟨created, later, hs, hu, hport, hbroadcast, -⟩ := h.entry j hj hp
        refine ⟨created, later, hs, hu, hport, hbroadcast, fun _ => ?_⟩
        obtain ⟨created', later', hs', -, hlearn, hann⟩ := hv
        rw [← hpid, ← hf, hs] at hs'
        cases hs'
        exact hf ▸ ⟨hlearn, hann⟩
      · rw [store_other t _ hji] at hp ⊢
        exact h.entry j hj hp
    · have hpids := store_field (k := { t i with vnetFd := candidate, mirrored := true }) LanSocket.pid t (i := i) rfl
      have hfds := store_field (k := { t i with vnetFd := candidate, mirrored := true }) LanSocket.bsdFd t (i := i) rfl
      rw [hpids] at hp
      rw [hpids, hpids] at hpp
      rw [hfds, hfds] at hff
      exact h.unique j k hj hk hp hpp hff

/-- `Close` clears the one entry the descriptor has. -/
theorem Policed.forget {history : List (U64 × Command)} {t : Table} (h : Policed history t) {pid : U64}
    (hp : pid ≠ 0) (fd : Int) : Policed ((pid, .close fd 0) :: history) (t.forget pid fd).1 := by
  have hother : ∀ {f : Int}, f ≠ fd → (Command.close fd 0).closes f = false :=
    fun hne => by simp [Command.closes, Ne.symm hne]
  refine h.cleared (fun i hi => ?_) (fun _ => rfl)
  unfold Table.forget
  cases hfind : t.findLanSocketLocked pid fd with
  | none =>
    refine .inr ⟨rfl, fun hpid => hother fun hf => ?_⟩
    have hvalid := (h.entry i hi (hpid ▸ hp)).valid
    exact find_none hfind (by unfold InvalidSocket; omega) hi hpid hf
  | some j =>
    obtain ⟨hj, hpid, hf⟩ := find_some hfind
    by_cases hij : i = j
    · rw [hij]
      exact .inl (store_self ..)
    · refine .inr ⟨store_other t _ hij, fun hpi => hother fun hfi => hij ?_⟩
      exact h.unique i j hi hj (hpi ▸ hp) (hpi.trans hpid.symm) (hfi.trans hf.symm)

/-- `ShutdownAllSockets` clears all entries of the process. -/
theorem Policed.forgetForPid {history : List (U64 × Command)} {t : Table} (h : Policed history t) (pid : U64) :
    Policed ((pid, .shutdownAllSockets 0) :: history) (t.forgetForPid pid).1 := by
  refine h.cleared (fun i hi => ?_) (fun _ => rfl)
  unfold Table.forgetForPid
  dsimp only
  split
  · exact .inl rfl
  · rename_i hno
    exact .inr ⟨rfl, fun hpid => absurd ⟨hi, hpid⟩ hno⟩

/-- A process that is reaped loses its entries; the others stay. -/
theorem Policed.reaped {history : List (U64 × Command)} {t : Table} (h : Policed history t) (pid : U64) :
    Policed history (t.forgetForPid pid).1 := by
  refine ⟨fun i hi hp => ?_, fun i j hi hj hp hpp hff => ?_⟩
  · have hsame := forgetForPid_entry hp
    rw [hsame] at hp ⊢
    exact h.entry i hi hp
  · have hsamej := forgetForPid_entry (hpp ▸ hp)
    have hsamei := forgetForPid_entry hp
    rw [hsamei] at hp hpp hff
    rw [hsamej] at hpp hff
    exact h.unique i j hi hj hp hpp hff

end Table

namespace Threads
open Table (Policed Mirrors)

/-- The server thread mirrors and diverts for virtual descriptors only. -/
structure Shown (history : List (U64 × Command)) (pc : Pc) : Prop where
  mirroring : ∀ m, pc.mirroring = some m → (pc = .ensuring m ∧ m.port = 0) ∨ Virtual history m.pid m.fd
  diverts : ∀ pid fd, pc.diverts = some (pid, fd) → Virtual history pid fd

theorem Shown.plain {history : List (U64 × Command)} {pc : Pc} (hm : pc.mirroring = none)
    (hd : pc.diverts = none) : Shown history pc := by
  refine ⟨fun m h => ?_, fun pid fd h => ?_⟩
  · rw [hm] at h
    cases h
  · rw [hd] at h
    cases h

theorem Shown.diverting {history : List (U64 × Command)} {pc : Pc} {pid : U64} {fd : Int}
    (hv : Virtual history pid fd) (hm : pc.mirroring = none) (hd : pc.diverts = some (pid, fd)) :
    Shown history pc := by
  refine ⟨fun m h => ?_, fun p f h => ?_⟩
  · rw [hm] at h
    cases h
  · rw [hd] at h
    cases h
    exact hv

theorem Shown.ensuring {history : List (U64 × Command)} {m : Mirroring}
    (h : m.port ≠ 0 → Virtual history m.pid m.fd) : Shown history (.ensuring m) := by
  refine ⟨fun m' hm => ?_, fun p f hd => (by cases hd)⟩
  cases hm
  by_cases hz : m.port = 0
  · exact .inl ⟨rfl, hz⟩
  · exact .inr (h hz)

theorem command_policed {history : List (U64 × Command)} {t : Table} (h : Policed history t) {pid : U64}
    (hp : pid ≠ 0) {c : Command} (hfresh : ∀ fd, c.gives fd = true → since pid fd history = none) :
    Policed ((pid, c) :: history) (command t pid c).1 := by
  have hg : ∀ i, i < MaxLanSockets → (t i).pid ≠ 0 → (t i).pid = pid → c.gives (t i).bsdFd = false := by
    rintro i hi hne rfl
    rw [← Bool.not_eq_true]
    exact fun hgives => (h.entry i hi hne).some (hfresh _ hgives)
  have hsame : (∀ fd, c.closes fd = false) → Policed ((pid, c) :: history) t :=
    h.kept (fun i => .refl pid c _) hg
  cases c with
  | socket domain type protocol ret =>
    rw [command]
    by_cases htrack : 0 ≤ ret ∧ domain = 2 ∧ type = 2 ∧ (protocol = 0 ∨ protocol = 17)
    · rw [if_pos htrack]
      have hgives : ∀ f, (Command.socket domain type protocol ret).gives f = true ↔ f = ret := by
        intro f
        rw [Command.gives, decide_eq_true htrack.1, Bool.true_and, beq_iff_eq, eq_comm]
      refine h.track hp hgives (fun _ => rfl) ?_ (hfresh ret ((hgives ret).mpr rfl))
      simpa [Command.udp, and_assoc] using htrack.2
    · rw [if_neg htrack]
      exact hsame fun _ => rfl
  | otherDescriptor ret => exact hsame fun _ => rfl
  | bind fd addr ret =>
    rw [command]
    split
    · rename_i hok
      obtain ⟨rfl, hlen⟩ := hok
      exact h.kept (Table.recordBind_kept t pid hlen) hg (fun _ => rfl)
    · exact hsame fun _ => rfl
  | setSockOpt fd level optname v ret =>
    rw [command]
    split
    · rename_i hok
      obtain ⟨rfl, rfl, rfl⟩ := hok
      exact h.kept (Table.recordBroadcast_kept t pid fd v) hg (fun _ => rfl)
    · exact hsame fun _ => rfl
  | sendTo fd buf addr =>
    rw [command]
    split_ifs <;> exact hsame fun _ => rfl
  | connect fd addr ret =>
    have hpeer := h.kept ((Table.forwardedConnect_peerOnly t pid fd addr ret).kept pid (.connect fd addr ret)) hg
      (fun _ => rfl)
    rw [command]
    split_ifs
    · exact hsame fun _ => rfl
    · exact hsame fun _ => rfl
    · exact hpeer
    · exact hpeer
  | getSockName fd name ret =>
    rw [command]
    by_cases hret : ret = 0
    · subst hret
      rw [if_pos rfl]
      by_cases hlen : 4 ≤ name.length
      · rw [if_pos hlen]
        exact h.kept (Table.recordName_kept t pid hlen) hg (fun _ => rfl)
      · rw [if_neg hlen]
        exact hsame fun _ => rfl
    · rw [if_neg hret]
      exact hsame fun _ => rfl
  | close fd ret =>
    rw [command]
    split
    · rename_i hret
      subst hret
      exact h.forget hp fd
    · rename_i hret
      exact hsame fun f => by simp [Command.closes, hret]
  | shutdownAllSockets ret =>
    rw [command]
    split
    · rename_i hret
      subst hret
      exact h.forgetForPid pid
    · rename_i hret
      exact hsame fun f => by simp [Command.closes, hret]
  | query fd q => exact hsame fun _ => rfl

/-- What a query goes on to do, it does for a mirrored descriptor. -/
theorem query_diverts (t : Table) (pid : U64) (fd : Int) (q : Query) :
    (query t pid fd q).diverts = none ∨
      (t.Mirrors pid fd ∧ (query t pid fd q).diverts = some (pid, fd)) := by
  cases q with
  | receive max peek =>
    rw [query]
    split_ifs with h
    · exact .inl rfl
    · exact .inr ⟨Table.getLanVfd_mirrors h, rfl⟩
  | readable =>
    rw [query]
    split_ifs with h
    · exact .inl rfl
    · exact .inr ⟨Table.getLanVfd_mirrors h, rfl⟩
  | send data =>
    rw [query]
    cases h : t.getConnectedLanPeer pid fd with
    | none => exact .inl rfl
    | some peer => exact .inr ⟨Table.getConnectedLanPeer_mirrors h, rfl⟩
  | message name data =>
    rw [query]
    cases h : t.getConnectedLanPeer pid fd with
    | none =>
      dsimp only
      split_ifs with _ _ hvfd
      · exact .inl rfl
      · exact .inl rfl
      · exact .inl rfl
      · exact .inr ⟨Table.getLanVfd_mirrors hvfd, rfl⟩
    | some peer =>
      dsimp only
      split_ifs with _ _ hvfd
      · exact .inr ⟨Table.getConnectedLanPeer_mirrors h, rfl⟩
      · exact .inl rfl
      · exact .inl rfl
      · exact .inr ⟨Table.getLanVfd_mirrors hvfd, rfl⟩
  | peerName =>
    rw [query]
    split_ifs with h
    · obtain ⟨peer, hpeer⟩ := Option.isSome_iff_exists.mp h
      exact .inr ⟨Table.getConnectedLanPeer_mirrors hpeer, rfl⟩
    · exact .inl rfl

theorem command_shown {history : List (U64 × Command)} {t : Table} (h : Policed history t) (ht : t.Tidy)
    {pid : U64} (hp : pid ≠ 0) (c : Command) : Shown ((pid, c) :: history) (command t pid c).2 := by
  have hentry : ∀ {fd i}, t.findLanSocketLocked pid fd = some i →
      Noted history (t i) ∧ (t i).pid = pid ∧ (t i).bsdFd = fd := by
    intro fd i hfind
    obtain ⟨hi, hpid, hf⟩ := Table.find_some hfind
    exact ⟨h.entry i hi (hpid ▸ hp), hpid, hf⟩
  cases c with
  | socket domain type protocol ret => exact .plain rfl rfl
  | otherDescriptor ret => exact .plain rfl rfl
  | bind fd addr ret =>
    rw [command]
    split
    · rename_i hok
      obtain ⟨rfl, hlen⟩ := hok
      dsimp only
      split
      · rename_i hmirror
        refine .ensuring fun hne => ?_
        unfold Table.recordBind at hmirror
        split at hmirror
        · rename_i i hfind
          obtain ⟨hnoted, hpid, hf⟩ := hentry hfind
          split at hmirror
          · refine hnoted.announced hpid hf rfl rfl hne (.inr ?_) ?_
            · simp [Command.learns, hlen]
            · refine ((Bool.or_eq_true ..).mp hmirror).symm.imp_right fun hpia => ?_
              simp [Command.announces, hlen, hpia]
          · cases hmirror
        · cases hmirror
      · exact .plain rfl rfl
    · exact .plain rfl rfl
  | setSockOpt fd level optname v ret =>
    rw [command]
    split
    · rename_i hok
      obtain ⟨rfl, rfl, rfl⟩ := hok
      dsimp only
      split
      · rename_i hmirror
        refine .ensuring fun hne => ?_
        have hport : (t.recordBroadcast pid fd (v != 0)).2 ≠ 0 := hne
        unfold Table.recordBroadcast at hport
        split at hport
        · rename_i i hfind
          obtain ⟨hnoted, hpid, hf⟩ := hentry hfind
          refine hnoted.announced hpid hf rfl rfl hport (.inl rfl) (.inr ?_)
          simp [Command.announces, hmirror.1]
        · exact absurd rfl hport
      · exact .plain rfl rfl
    · exact .plain rfl rfl
  | sendTo fd buf addr =>
    rw [command]
    split_ifs with hlen hfirst hnone
    · exact .plain rfl rfl
    · refine .ensuring fun hne => ?_
      have hport : (t.lookupSend pid fd).1 ≠ 0 := hne
      unfold Table.lookupSend at hport
      split at hport
      · rename_i i hfind
        obtain ⟨hnoted, hpid, hf⟩ := hentry hfind
        split at hport
        · refine hnoted.announced hpid hf rfl rfl hport (.inl rfl) (.inr ?_)
          simp [Command.announces, hfirst.2.1, Nat.le_of_not_lt hlen]
        · exact absurd rfl hport
      · exact absurd rfl hport
    · exact .plain rfl rfl
    · exact .diverting ((h.virtual ht (Table.lookupSend_mirrors hnone)).cons rfl rfl) rfl rfl
  | connect fd addr ret =>
    rw [command]
    split_ifs with hmirrored
    · exact .diverting ((h.virtual ht (Table.getLanVfd_mirrors hmirrored.2)).cons rfl rfl) rfl rfl
    · exact .diverting ((h.virtual ht (Table.getLanVfd_mirrors hmirrored.2)).cons rfl rfl) rfl rfl
    · exact .plain rfl rfl
    · exact .plain rfl rfl
  | getSockName fd name ret =>
    rw [command]
    split_ifs <;> exact .plain rfl rfl
  | close fd ret =>
    rw [command]
    split <;> exact .plain rfl rfl
  | shutdownAllSockets ret =>
    rw [command]
    split <;> exact .plain rfl rfl
  | query fd q =>
    obtain ⟨-, hm⟩ := query_plain t pid fd q
    rcases query_diverts t pid fd q with hd | ⟨hmirrors, hd⟩
    · exact .plain hm hd
    · exact .diverting ((h.virtual ht hmirrors).cons rfl rfl) hm hd

theorem Shown.next {history : List (U64 × Command)} {m : Mirroring} {selected : Int}
    (h : selected ≠ InvalidSocket → Virtual history m.pid m.fd) : Shown history (m.next selected) := by
  unfold Mirroring.next
  split
  · split
    · exact .plain rfl rfl
    · rename_i hne
      exact .diverting (h hne) rfl rfl
  · exact .plain rfl rfl

/-- On the way through `EnsureLanMirror`. -/
theorem Shown.stage {history : List (U64 × Command)} {m : Mirroring} (h : Virtual history m.pid m.fd) {pc : Pc}
    (hm : pc.mirroring = some m) (hd : pc.diverts = some (m.pid, m.fd) ∨ pc.diverts = none) :
    Shown history pc := by
  refine ⟨fun m' hm' => ?_, fun p f hd' => ?_⟩
  · rw [hm] at hm'
    cases hm'
    exact .inr h
  · rcases hd with hd | hd <;> rw [hd] at hd' <;> cases hd'
    exact h

theorem serve_shown {s s' : Threads} (hi : s.Inv) (ht : Policed s.history s.table)
    (hs : Shown s.history s.server) (h : s.serve = some s') : Shown s.history s'.server := by
  unfold serve at h
  split at h
  case h_1 => cases h
  case h_2 m hpc =>
    rw [hpc] at hs
    split at h
    · cases h
      exact .next fun hne => absurd rfl hne
    · rename_i hport
      split at h
      · rename_i vfd hmirror
        cases h
        exact .next fun hne => ht.virtual hi.tidy (Table.mirrorOf_mirrors hmirror hne)
      · cases h
        exact .stage ((hs.mirroring m rfl).resolve_left fun hz => hport hz.2) rfl (.inl rfl)
  case h_3 m hpc =>
    rw [hpc] at hs
    cases h
    dsimp only
    split
    · exact .next fun hne => absurd rfl hne
    · exact .stage (hs.diverts _ _ rfl) rfl (.inl rfl)
  case h_4 m candidate hpc =>
    rw [hpc] at hs
    cases h
    dsimp only
    split
    · exact .stage (hs.diverts _ _ rfl) rfl (.inl rfl)
    · exact .stage (hs.diverts _ _ rfl) rfl (.inr rfl)
  case h_5 m candidate hpc =>
    rw [hpc] at hs
    cases h
    dsimp only
    split
    · exact .next fun _ => hs.diverts _ _ rfl
    · exact .stage (hs.diverts _ _ rfl) rfl (.inr rfl)
  case h_6 m candidate selected hpc =>
    rw [hpc] at hs
    cases h
    exact .next fun _ => (hs.mirroring m rfl).resolve_left fun hz => (by cases hz.1)
  case h_10 pid fd vfd ip port data hpc =>
    rw [hpc] at hs
    split at h <;> cases h
    · exact .diverting (hs.diverts _ _ rfl) rfl rfl
    · exact .plain rfl rfl
  case h_11 pid fd addr ret hpc =>
    rw [hpc] at hs
    split at h <;> cases h
    · exact .diverting (hs.diverts _ _ rfl) rfl rfl
    · exact .plain rfl rfl
  case h_12 pid fd peer addr ret hpc =>
    split at h
    · split at h <;> cases h <;> exact .plain rfl rfl
    · cases h
      exact .plain rfl rfl
  case h_13 pid fd hpc =>
    cases h
    dsimp only
    split
    · exact .plain rfl rfl
    · rename_i hne
      exact .diverting (ht.virtual hi.tidy (Table.getLanVfd_mirrors hne)) rfl rfl
  all_goals
    cases h
    exact .plain rfl rfl

theorem serve_policed {s s' : Threads} (ht : Policed s.history s.table) (hs : Shown s.history s.server)
    (h : s.serve = some s') : s'.history = s.history ∧ Policed s.history s'.table := by
  obtain ⟨hh, hpeer | ⟨m, candidate, hpc, htable⟩⟩ := serve_table h
  · exact ⟨hh, hpeer.policed ht⟩
  · rw [hpc] at hs
    rw [htable]
    exact ⟨hh, ht.install (hs.diverts _ _ rfl) candidate⟩

/-- Where it diverts nothing, the server thread does no more to the interface than close
sockets. -/
theorem serve_undiverted {s s' : Threads} (h : s.serve = some s') (hd : s.server.diverts = none) :
    s'.vnet = s.vnet ∨ ∃ vfd ∈ s.server.held, s'.vnet = closeLanSocket s.vnet vfd := by
  unfold serve at h
  split at h
  case h_1 => cases h
  case h_2 m hpc =>
    split at h
    · cases h
      exact .inl rfl
    · split at h <;> cases h <;> exact .inl rfl
  case h_6 m candidate selected hpc =>
    cases h
    rw [hpc]
    exact .inr ⟨candidate, List.mem_cons_self, rfl⟩
  case h_7 hpc =>
    cases h
    exact .inl rfl
  case h_8 vfd vfds hpc =>
    cases h
    rw [hpc]
    exact .inr ⟨vfd, List.mem_cons_self, rfl⟩
  case h_13 pid fd hpc =>
    cases h
    exact .inl rfl
  all_goals
    rename_i hpc
    rw [hpc] at hd
    cases hd

/-- What the policy needs of a state. -/
structure Compliant (s : Threads) : Prop where
  inv : s.Inv
  table : Policed s.history s.table
  server : Shown s.history s.server

theorem keeps_compliant : serving.Keeps freshDescriptor Compliant := by
  rintro s e s' ⟨hi, ht, hs⟩ hfresh h
  have hi' := (step_ledger hi h).1
  cases e with
  | command pid c =>
    replace h : s.step (.command pid c) = some s' := h
    rw [step] at h
    split at h
    · cases h
    · rename_i hno
      have hp : pid ≠ 0 := fun hz => hno (.inr hz)
      have hnew : ∀ fd, c.gives fd = true → since pid fd s.history = none := by
        intro fd hg
        have hvalid := gives_valid hg
        cases c with
        | socket domain type protocol ret =>
          simp only [Command.gives, Bool.and_eq_true, decide_eq_true_eq, beq_iff_eq] at hg
          simp only [freshDescriptor, Bool.or_eq_true, decide_eq_true_eq, Option.isNone_iff_eq_none] at hfresh
          exact hg.2 ▸ hfresh.resolve_left (by omega)
        | otherDescriptor ret =>
          simp only [Command.gives, Bool.and_eq_true, decide_eq_true_eq, beq_iff_eq] at hg
          simp only [freshDescriptor, Bool.or_eq_true, decide_eq_true_eq, Option.isNone_iff_eq_none] at hfresh
          exact hg.2 ▸ hfresh.resolve_left (by omega)
        | _ => cases hg
      cases h
      exact ⟨hi', command_policed ht hp hnew, command_shown ht hi.tidy hp c⟩
  | serve =>
    obtain ⟨hh, hpoliced⟩ := serve_policed ht hs h
    exact ⟨hi', hh ▸ hpoliced, hh ▸ serve_shown hi ht hs h⟩
  | reap pid =>
    replace h : s.step (.reap pid) = some s' := h
    rw [step] at h
    split at h <;> cases h
    exact ⟨hi', ht.reaped pid, hs⟩
  | reapNext =>
    replace h : s.step .reapNext = some s' := h
    rw [step] at h
    split at h <;> cases h
    exact ⟨hi', ht, hs⟩
  | networkConfig op conf =>
    replace h : s.step (.networkConfig op conf) = some s' := h
    rw [step] at h
    split at h <;> cases h
    exact ⟨hi', ht, hs⟩
  | virtualFrame srcMac dstMac etherType payload =>
    replace h : s.step (.virtualFrame srcMac dstMac etherType payload) = some s' := h
    rw [step] at h
    split at h <;> cases h
    exact ⟨hi', ht, hs⟩
  | probe dstIp =>
    replace h : s.step (.probe dstIp) = some s' := h
    rw [step] at h
    split at h <;> cases h
    exact ⟨hi', ht, hs⟩

theorem Compliant.started : started.Compliant :=
  ⟨.started, ⟨fun _ _ hp => absurd rfl hp, fun _ _ _ _ hp => absurd rfl hp⟩, .plain rfl rfl⟩

end Threads

end SysZerotier.Mitm
