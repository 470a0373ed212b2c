import SysZerotier.Port.Lan

/-! The shim's table of UDP sockets (`g_lan_sockets` in `source/mitm/bsd_shim.cpp`).

An entry belongs to a descriptor of a client process and holds, once the descriptor
is mirrored, the virtual socket that shadows it. Every access happens under
`g_lan_sockets_lock`; the functions here are the blocks the handlers run under one
acquisition of it. A free entry has process id zero, which no client has. -/
namespace SysZerotier.Mitm
open Net Port

def MaxLanSockets : Nat := 8

structure LanSocket where
  pid : U64 := 0
  bsdFd : Int := 0
  vnetFd : Int := 0
  boundPort : U16 := 0
  connectedPort : U16 := 0
  connectedIp : U32 := 0
  udp : Bool := false
  broadcast : Bool := false
  mirrored : Bool := false
  connected : Bool := false
  deriving DecidableEq

abbrev Table := Nat → LanSocket

/-- PIA's LAN ports. -/
def isPiaLanPort (port : U16) : Bool :=
  port == 30000 || port == 35000 || port == 40000 ||
    (decide (49152 ≤ port.toNat) && decide (port.toNat ≤ 49155))

namespace Table

def empty : Table := fun _ => {}

def store (t : Table) (i : Nat) (k : LanSocket) : Table := Function.update t i k

def findLanSocketLocked (t : Table) (pid : U64) (fd : Int) : Option Nat :=
  if fd = InvalidSocket then none
  else (List.range MaxLanSockets).find? fun i => (t i).pid == pid && (t i).bsdFd == fd

/-- `Socket`: the first free entry takes the descriptor; a full table leaves it untracked. -/
def track (t : Table) (pid : U64) (fd : Int) : Table :=
  match (List.range MaxLanSockets).find? fun i => (t i).pid == 0 with
  | some i => t.store i { pid := pid, bsdFd := fd, vnetFd := InvalidSocket, udp := true }
  | none => t

/-- `Bind`: the port is noted; the result is `should_mirror`. -/
def recordBind (t : Table) (pid : U64) (fd : Int) (port : U16) : Table × Bool :=
  match t.findLanSocketLocked pid fd with
  | some i =>
    if (t i).udp then
      (t.store i { t i with boundPort := port }, isPiaLanPort port || (t i).broadcast)
    else (t, false)
  | none => (t, false)

/-- `SetSockOpt`: `SO_BROADCAST` is noted; the result is the bound port. -/
def recordBroadcast (t : Table) (pid : U64) (fd : Int) (on : Bool) : Table × U16 :=
  match t.findLanSocketLocked pid fd with
  | some i => (t.store i { t i with broadcast := on }, (t i).boundPort)
  | none => (t, 0)

/-- `SendTo`: the bound port and the virtual socket. -/
def lookupSend (t : Table) (pid : U64) (fd : Int) : U16 × Int :=
  match t.findLanSocketLocked pid fd with
  | some i =>
    if (t i).udp then ((t i).boundPort, if (t i).mirrored then (t i).vnetFd else InvalidSocket)
    else (0, InvalidSocket)
  | none => (0, InvalidSocket)

/-- The first block of `EnsureLanMirror`: what it returns, or `none` to go on. -/
def mirrorOf (t : Table) (pid : U64) (fd : Int) : Option Int :=
  match t.findLanSocketLocked pid fd with
  | some i =>
    if !(t i).udp then some InvalidSocket
    else if (t i).mirrored then some (t i).vnetFd
    else none
  | none => some InvalidSocket

/-- The second block of `EnsureLanMirror`: `selected` and `installed`. -/
def install (t : Table) (pid : U64) (fd : Int) (candidate : Int) : Table × Int × Bool :=
  match t.findLanSocketLocked pid fd with
  | some i =>
    if (t i).udp then
      if !(t i).mirrored then
        (t.store i { t i with vnetFd := candidate, mirrored := true }, candidate, true)
      else (t, (t i).vnetFd, false)
    else (t, InvalidSocket, false)
  | none => (t, InvalidSocket, false)

def getLanVfd (t : Table) (pid : U64) (fd : Int) : Int :=
  match t.findLanSocketLocked pid fd with
  | some i => if (t i).mirrored then (t i).vnetFd else InvalidSocket
  | none => InvalidSocket

def getConnectedLanPeer (t : Table) (pid : U64) (fd : Int) : Option (Int × U32 × U16) :=
  match t.findLanSocketLocked pid fd with
  | some i =>
    if !(t i).mirrored || !(t i).connected then none
    else some ((t i).vnetFd, (t i).connectedIp, (t i).connectedPort)
  | none => none

/-- `Connect` on a UDP entry: the peer, or its absence. -/
def recordPeer (t : Table) (i : Nat) (peer : Option (U32 × U16)) : Table :=
  t.store i { t i with
    connectedPort := (peer.map Prod.snd).getD 0
    connectedIp := (peer.map Prod.fst).getD 0
    connected := peer.isSome }

/-- `ForgetLanSocket`: the entry is cleared; the result is the virtual socket to close. -/
def forget (t : Table) (pid : U64) (fd : Int) : Table × Int :=
  match t.findLanSocketLocked pid fd with
  | some i => (t.store i {}, (t i).vnetFd)
  | none => (t, InvalidSocket)

/-- `ForgetLanSocketsForPid`: the entries are cleared; the result is what to close. -/
def forgetForPid (t : Table) (pid : U64) : Table × List Int :=
  (fun i => if i < MaxLanSockets ∧ (t i).pid = pid then {} else t i,
    ((List.range MaxLanSockets).filter fun i => (t i).pid == pid && (t i).vnetFd != InvalidSocket).map
      fun i => (t i).vnetFd)

theorem store_self (t : Table) (i : Nat) (k : LanSocket) : t.store i k i = k := Function.update_self ..

theorem store_other (t : Table) {i j : Nat} (k : LanSocket) (h : j ≠ i) : t.store i k j = t j :=
  Function.update_of_ne h ..

/-- What a stored entry has in common with the old one, every entry keeps. -/
theorem store_field {β : Type} (f : LanSocket → β) (t : Table) {i : Nat} {k : LanSocket} (h : f k = f (t i))
    (j : Nat) : f (t.store i k j) = f (t j) := by
  by_cases hj : j = i
  · rw [hj, store_self, h]
  · rw [store_other t k hj]

theorem find_some {t : Table} {pid : U64} {fd : Int} {i : Nat} (h : t.findLanSocketLocked pid fd = some i) :
    i < MaxLanSockets ∧ (t i).pid = pid ∧ (t i).bsdFd = fd := by
  unfold findLanSocketLocked at h
  split at h
  · cases h
  · have hp := List.find?_some h
    rw [Bool.and_eq_true, beq_iff_eq, beq_iff_eq] at hp
    exact ⟨List.mem_range.mp (List.mem_of_find?_eq_some h), hp⟩

theorem find_none {t : Table} {pid : U64} {fd : Int} (h : t.findLanSocketLocked pid fd = none)
    (hfd : fd ≠ InvalidSocket) {i : Nat} (hi : i < MaxLanSockets) (hpid : (t i).pid = pid) :
    (t i).bsdFd ≠ fd := by
  unfold findLanSocketLocked at h
  rw [if_neg hfd] at h
  intro hf
  have := List.find?_eq_none.mp h i (List.mem_range.mpr hi)
  simp [hpid, hf] at this

/-- Rewriting what a lookup does not compare leaves every lookup as it was. -/
theorem find_store {t : Table} {i : Nat} {k : LanSocket} (hp : k.pid = (t i).pid)
    (hf : k.bsdFd = (t i).bsdFd) (pid : U64) (fd : Int) :
    (t.store i k).findLanSocketLocked pid fd = t.findLanSocketLocked pid fd := by
  unfold findLanSocketLocked
  have heq : (fun j => ((t.store i k) j).pid == pid && ((t.store i k) j).bsdFd == fd) =
      fun j => (t j).pid == pid && (t j).bsdFd == fd := by
    funext j
    by_cases hj : j = i
    · subst hj
      simp only [store, Function.update_self, hp, hf]
    · simp only [store, Function.update_of_ne hj]
  rw [heq]

theorem find_recordPeer (t : Table) (i : Nat) (peer : Option (U32 × U16)) (pid : U64) (fd : Int) :
    (t.recordPeer i peer).findLanSocketLocked pid fd = t.findLanSocketLocked pid fd := by
  apply find_store <;> rfl

/-- `Bind` notes the port in the descriptor's entry, or changes nothing. -/
theorem recordBind_cases (t : Table) (pid : U64) (fd : Int) (port : U16) :
    (t.recordBind pid fd port).1 = t ∨ ∃ i, t.findLanSocketLocked pid fd = some i ∧
      (t.recordBind pid fd port).1 = t.store i { t i with boundPort := port } := by
  unfold recordBind
  cases hfind : t.findLanSocketLocked pid fd with
  | none => exact .inl rfl
  | some i =>
    dsimp only
    split
    · exact .inr ⟨i, rfl, rfl⟩
    · exact .inl rfl

/-- `SetSockOpt` notes the flag there. -/
theorem recordBroadcast_cases (t : Table) (pid : U64) (fd : Int) (on : Bool) :
    (t.recordBroadcast pid fd on).1 = t ∨ ∃ i, t.findLanSocketLocked pid fd = some i ∧
      (t.recordBroadcast pid fd on).1 = t.store i { t i with broadcast := on } := by
  unfold recordBroadcast
  cases hfind : t.findLanSocketLocked pid fd with
  | none => exact .inl rfl
  | some i => exact .inr ⟨i, rfl, rfl⟩

/-- The second block of `EnsureLanMirror` puts the candidate into an entry that has
none, or changes nothing. -/
theorem install_cases (t : Table) (pid : U64) (fd candidate : Int) :
    ((t.install pid fd candidate).1 = t ∧ (t.install pid fd candidate).2.2 = false) ∨
      ∃ i, t.findLanSocketLocked pid fd = some i ∧ (t i).mirrored = false ∧
        t.install pid fd candidate =
          (t.store i { t i with vnetFd := candidate, mirrored := true }, candidate, true) := by
  unfold install
  cases hfind : t.findLanSocketLocked pid fd with
  | none => exact .inl ⟨rfl, rfl⟩
  | some i =>
    cases hu : (t i).udp with
    | false => simp [hu]
    | true =>
      cases hm : (t i).mirrored with
      | true => simp [hu, hm]
      | false =>
        right
        refine ⟨i, rfl, hm, ?_⟩
        simp [hu, hm]

/-! ### Mirrored descriptors -/

/-- The descriptor has a mirrored entry. -/
def Mirrors (t : Table) (pid : U64) (fd : Int) : Prop :=
  ∃ i, t.findLanSocketLocked pid fd = some i ∧ (t i).mirrored = true

instance (t : Table) (pid : U64) (fd : Int) : Decidable (t.Mirrors pid fd) :=
  decidable_of_iff ((t.findLanSocketLocked pid fd).any fun i => (t i).mirrored) (Option.any_eq_true ..)

/-- Rewriting neither the key nor the flag changes which descriptors are mirrored. -/
theorem mirrors_store {t : Table} {i : Nat} {k : LanSocket} (hp : k.pid = (t i).pid)
    (hf : k.bsdFd = (t i).bsdFd) (hm : k.mirrored = (t i).mirrored) (pid : U64) (fd : Int) :
    (t.store i k).Mirrors pid fd ↔ t.Mirrors pid fd := by
  have hflag : ∀ j, (t.store i k j).mirrored = (t j).mirrored := store_field LanSocket.mirrored t hm
  unfold Mirrors
  simp only [find_store hp hf, hflag]

theorem getLanVfd_mirrors {t : Table} {pid : U64} {fd : Int} (h : t.getLanVfd pid fd ≠ InvalidSocket) :
    t.Mirrors pid fd := by
  unfold getLanVfd at h
  split at h
  · rename_i i hfind
    split at h
    · exact ⟨i, hfind, ‹_›⟩
    · exact absurd rfl h
  · exact absurd rfl h

theorem getConnectedLanPeer_mirrors {t : Table} {pid : U64} {fd : Int} {peer : Int × U32 × U16}
    (h : t.getConnectedLanPeer pid fd = some peer) : t.Mirrors pid fd := by
  unfold getConnectedLanPeer at h
  split at h
  · rename_i i hfind
    split at h
    · cases h
    · rename_i hno
      rw [Bool.or_eq_true, not_or] at hno
      exact ⟨i, hfind, by simpa using hno.1⟩
  · cases h

theorem lookupSend_mirrors {t : Table} {pid : U64} {fd : Int} (h : (t.lookupSend pid fd).2 ≠ InvalidSocket) :
    t.Mirrors pid fd := by
  unfold lookupSend at h
  split at h
  · rename_i i hfind
    split at h
    · dsimp only at h
      split at h
      · exact ⟨i, hfind, ‹_›⟩
      · exact absurd rfl h
    · exact absurd rfl h
  · exact absurd rfl h

theorem mirrorOf_mirrors {t : Table} {pid : U64} {fd vfd : Int} (h : t.mirrorOf pid fd = some vfd)
    (hne : vfd ≠ InvalidSocket) : t.Mirrors pid fd := by
  unfold mirrorOf at h
  split at h
  · rename_i i hfind
    split at h
    · exact absurd (Option.some.inj h).symm hne
    · split at h
      · exact ⟨i, hfind, ‹_›⟩
      · cases h
  · exact absurd (Option.some.inj h).symm hne

theorem install_mirrors {t : Table} {pid : U64} {fd candidate : Int}
    (h : (t.install pid fd candidate).2.1 ≠ InvalidSocket) : (t.install pid fd candidate).1.Mirrors pid fd := by
  unfold install at h ⊢
  cases hfind : t.findLanSocketLocked pid fd with
  | none =>
    rw [hfind] at h
    exact absurd rfl h
  | some i =>
    rw [hfind] at h
    dsimp only at h ⊢
    split_ifs at h ⊢ with hu hm
    · refine ⟨i, ?_, ?_⟩
      · rw [← hfind]
        apply find_store <;> rfl
      · dsimp only
        rw [store_self]
    · exact ⟨i, hfind, by simpa using hm⟩
    · exact absurd rfl h

end Table

end SysZerotier.Mitm
