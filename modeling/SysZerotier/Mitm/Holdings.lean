import SysZerotier.Mitm.SocketTable

/-! The sessions of the shim, and who refers to the services behind them
(`source/mitm/bsd_shim.cpp`).

Every session has a forward session with the real service behind it, which is a shared
`Service`: the session's object refers to it, the server framework does, and what the
object gave up is parked or is the registration owner of Splatoon 2. The last reference
to go closes the forward session, unless `ReleaseRetiredService` has closed its handle
and zeroed it before; forward sessions own their handles. -/
namespace SysZerotier.Mitm
open Net

/-- The forward session of a `Service`: connected, its handle closed by
`ReleaseRetiredService`, or closed by the last reference to it. -/
inductive Link where
  | connected
  | handleClosed
  | closed
  deriving DecidableEq

/-- A session: its object, with the fields of `BsdShim`, the references of the framework
to its forward service, and the forward session. `lent` says that the real service has
registered it with the proxy buffer. -/
structure Session where
  pid : U64 := 0
  programId : U64 := 0
  object : Bool := false
  forwardService : Bool := false
  registered : Bool := false
  proxyRegistration : Bool := false
  proxyRegistrationOwner : Bool := false
  framework : Nat := 0
  link : Link := .closed
  lent : Bool := false

structure ParkedService where
  pid : U64
  service : Nat
  deriving DecidableEq

/-- The sessions, of which `opened` have been opened so far, and the globals that refer
to a forward service: `g_parked_forward_services` and `g_splatoon2_registration_owner`
with its process id and token. A service is named by its session. -/
structure Holdings where
  session : Nat → Session := fun _ => {}
  opened : Nat := 0
  parked : List ParkedService := []
  owner : Option Nat := none
  registeredPid : U64 := 0
  registeredOut : U64 := 0

/-- The references to a service: its session's, how often it is parked, and whether it is
the registration owner. -/
def Session.uses (k : Session) (parked : Nat) (owner : Bool) : Nat :=
  k.forwardService.toNat + k.framework + parked + owner.toNat

/-- A reference to the service has gone. -/
def Session.settled (k : Session) (parked : Nat) (owner : Bool) : Session :=
  if k.uses parked owner = 0 ∧ k.link = .connected then { k with link := .closed } else k

namespace Holdings

def parkedCount (h : Holdings) (i : Nat) : Nat := h.parked.countP fun e => e.service == i

def owns (h : Holdings) (i : Nat) : Bool := h.owner == some i

/-- `use_count()`. -/
def useCount (h : Holdings) (i : Nat) : Nat := (h.session i).uses (h.parkedCount i) (h.owns i)

def store (h : Holdings) (i : Nat) (k : Session) : Holdings := { h with session := Function.update h.session i k }

def settle (h : Holdings) (i : Nat) : Holdings := h.store i ((h.session i).settled (h.parkedCount i) (h.owns i))

/-! ### Sessions -/

/-- `OnNeedsToAccept`: the framework keeps a reference of its own. -/
def accept (h : Holdings) (pid programId : U64) : Holdings :=
  { h.store h.opened
      { pid := pid, programId := programId, object := true, forwardService := true, framework := 1, link := .connected }
    with opened := h.opened + 1 }

def copyReference (h : Holdings) (i : Nat) : Holdings :=
  h.store i { h.session i with framework := (h.session i).framework + 1 }

def dropReference (h : Holdings) (i : Nat) : Holdings :=
  (h.store i { h.session i with framework := (h.session i).framework - 1 }).settle i

/-- The object is being destroyed. -/
def destroy (h : Holdings) (i : Nat) : Holdings := h.store i { h.session i with object := false }

/-- `m_forward_service.reset()`. -/
def reset (h : Holdings) (i : Nat) : Holdings := (h.store i { h.session i with forwardService := false }).settle i

/-- `g_parked_forward_services.push_back`. -/
def park (h : Holdings) (i : Nat) : Holdings :=
  { h.store i { h.session i with forwardService := false } with
    parked := h.parked ++ [⟨(h.session i).pid, i⟩] }

/-- The owner's branch of `~BsdShim`, where it still has the registration. -/
def retain (h : Holdings) (i : Nat) : Holdings :=
  if h.owner = none then { h.store i { h.session i with forwardService := false } with owner := some i }
  else h.reset i

/-! ### Registrations -/

/-- `RegisterClient` and `RegisterClientShared` after the real service's answer. -/
def register (h : Holdings) (i : Nat) : Holdings := h.store i { h.session i with registered := true }

/-- `RegisterClient` answers from the registration there is. -/
def reuse (h : Holdings) (i : Nat) : Holdings := h.store i { h.session i with proxyRegistration := true }

/-- `RegisterClient` after the real service has registered the session with the proxy
buffer. -/
def lend (h : Holdings) (i : Nat) (out : U64) : Holdings :=
  { h.store i
      { h.session i with
        registered := true, proxyRegistration := true, proxyRegistrationOwner := true, lent := true }
    with owner := some i, registeredPid := (h.session i).pid, registeredOut := out }

/-! ### Retirement -/

/-- The handle of the service is closed, and the `Service` zeroed. -/
def closeHandle (h : Holdings) (i : Nat) : Holdings := h.store i { h.session i with link := .handleClosed }

/-- `ReleaseRetiredService(g_splatoon2_registration_owner)`. -/
def releaseOwner (h : Holdings) : Holdings :=
  match h.owner with
  | none => { h with registeredPid := 0, registeredOut := 0 }
  | some i => { h.closeHandle i with owner := none, registeredPid := 0, registeredOut := 0 }

def retires (h : Holdings) (pid : U64) (e : ParkedService) : Bool := e.pid == pid && decide (h.useCount e.service ≤ 1)

/-- The service of session `i` is among what is released for the process. -/
def released (h : Holdings) (pid : U64) (i : Nat) : Bool := h.parked.any fun e => h.retires pid e && e.service == i

/-- The loop over `g_parked_forward_services` for a process: what nothing else refers to
is released. A release leaves the counts of the other services alone. -/
def releaseParked (h : Holdings) (pid : U64) : Holdings :=
  { h with
    session := fun i => if h.released pid i then { h.session i with link := .handleClosed } else h.session i
    parked := h.parked.filter fun e => !h.retires pid e }

end Holdings

/-! ### What holds of every session -/

/-- What holds of a session in every state, given how often its service is parked and
whether it is the registration owner. -/
structure Session.Sound (k : Session) (n : Nat) (own : Bool) : Prop where
  counted : k.link = .connected ↔ 0 < k.uses n own
  object : k.object = true → k.forwardService = true
  parked : 0 < n → n = 1 ∧ k.forwardService = false ∧ own = false
  owner : own = true → k.registered = true ∧ k.lent = true ∧ k.proxyRegistrationOwner = true
  lent : k.lent = true → k.link = .connected → own = true
  flagged : k.proxyRegistrationOwner = true → k.forwardService = true → own = true
  kept : k.link = .connected → k.registered = false → k.forwardService = true ∨ 0 < n

namespace Session.Sound
variable {k : Session} {n : Nat} {own : Bool}

/-- Any reference keeps the service connected. -/
theorem linked (h : k.Sound n own)
    (huse : k.forwardService = true ∨ 0 < k.framework ∨ 0 < n ∨ own = true) : k.link = .connected := by
  apply h.counted.mpr
  rw [uses]
  obtain hforward | hframework | hparked | howner := huse
  · rw [hforward, Bool.toNat_true]
    omega
  · omega
  · omega
  · rw [howner, Bool.toNat_true]
    omega

theorem connected (h : k.Sound n own) (hobject : k.object = true) : k.link = .connected :=
  h.linked (.inl (h.object hobject))

/-- The framework takes another reference. -/
theorem copied (h : k.Sound n own) (hlink : k.link = .connected) :
    Sound { k with framework := k.framework + 1 } n own := by
  refine ⟨⟨fun _ => ?_, fun _ => hlink⟩, h.object, h.parked, h.owner, h.lent, h.flagged, h.kept⟩
  simp only [uses]
  omega

/-- The framework gives one back. -/
theorem dropped (h : k.Sound n own) (hframework : 0 < k.framework) :
    Sound (settled { k with framework := k.framework - 1 } n own) n own := by
  have hlink : k.link = .connected := h.linked (.inr (.inl hframework))
  unfold settled
  split
  · rename_i hnone
    refine ⟨⟨nofun, fun hpos => ?_⟩, h.object, h.parked, h.owner, nofun, h.flagged, nofun⟩
    exact absurd hnone.1 (Nat.ne_of_gt hpos)
  · rename_i hsome
    refine ⟨⟨fun _ => ?_, fun _ => hlink⟩, h.object, h.parked, h.owner, h.lent, h.flagged, h.kept⟩
    exact Nat.pos_of_ne_zero fun h0 => hsome ⟨h0, hlink⟩

/-- The object gives up the last reference only if the session is registered. -/
theorem reset (h : k.Sound n own) (hobject : k.object = false) (hlink : k.link = .connected)
    (hregistered : k.registered = true) : Sound (settled { k with forwardService := false } n own) n own := by
  have hnot : ¬k.object = true := by rw [hobject]; decide
  unfold settled
  split
  · rename_i hnone
    refine ⟨⟨nofun, fun hpos => ?_⟩, fun ho => absurd ho hnot, fun hn => ⟨(h.parked hn).1, rfl, (h.parked hn).2.2⟩,
      h.owner, nofun, nofun, nofun⟩
    exact absurd hnone.1 (Nat.ne_of_gt hpos)
  · rename_i hsome
    refine ⟨⟨fun _ => ?_, fun _ => hlink⟩, fun ho => absurd ho hnot,
      fun hn => ⟨(h.parked hn).1, rfl, (h.parked hn).2.2⟩, h.owner, h.lent, nofun,
      fun _ hno => absurd hregistered (by rw [hno]; decide)⟩
    exact Nat.pos_of_ne_zero fun h0 => hsome ⟨h0, hlink⟩

/-- The object's reference is moved to the parked services. -/
theorem parks (h : k.Sound n own) (hobject : k.object = false) (hforward : k.forwardService = true)
    (howner : own = false) : Sound { k with forwardService := false } (n + 1) own := by
  have hlink : k.link = .connected := h.linked (.inl hforward)
  have hzero : n = 0 := by
    by_contra hn
    exact absurd (hforward.symm.trans (h.parked (Nat.pos_of_ne_zero hn)).2.1) (by decide)
  refine ⟨⟨fun _ => ?_, fun _ => hlink⟩, fun ho => absurd (hobject.symm.trans ho) (by decide),
    fun _ => ⟨by omega, rfl, howner⟩, fun ho => absurd (howner.symm.trans ho) (by decide), h.lent, nofun,
    fun _ _ => .inr n.succ_pos⟩
  simp only [uses]
  omega

/-- The handle of a service is closed along with the last reference to it. -/
theorem retired (h : k.Sound n own) (huses : k.uses n own ≤ 1) (hheld : 0 < n ∨ own = true) :
    Sound { k with link := .handleClosed } 0 false := by
  have hforward : k.forwardService = false := by
    by_contra hf
    rw [Bool.not_eq_false] at hf
    rcases hheld with hn | ho
    · exact absurd (hf.symm.trans (h.parked hn).2.1) (by decide)
    · rw [uses, hf, ho, Bool.toNat_true] at huses
      omega
  have hframework : k.framework = 0 := by
    rcases hheld with hn | ho
    · rw [uses] at huses
      omega
    · rw [uses, ho, Bool.toNat_true] at huses
      omega
  refine ⟨⟨nofun, fun hpos => ?_⟩, h.object, fun hn => absurd hn (by decide), nofun, nofun,
    fun _ hf => absurd (hforward.symm.trans hf) (by decide), nofun⟩
  simp only [uses, hforward, hframework, Bool.toNat_false] at hpos
  omega

/-- The session is registered with the proxy buffer, and its service is the owner. -/
theorem lends (h : k.Sound n own) (hobject : k.object = true) :
    Sound
      { k with registered := true, proxyRegistration := true, proxyRegistrationOwner := true, lent := true }
      n true := by
  have hforward := h.object hobject
  refine ⟨⟨fun _ => ?_, fun _ => h.connected hobject⟩, h.object, fun hn => ?_, fun _ => ⟨rfl, rfl, rfl⟩,
    fun _ _ => rfl, fun _ _ => rfl, fun _ => nofun⟩
  · simp only [uses, Bool.toNat_true]
    omega
  · exact absurd (hforward.symm.trans (h.parked hn).2.1) (by decide)

end Session.Sound

namespace Holdings

structure Inv (h : Holdings) : Prop where
  session : ∀ i, (h.session i).Sound (h.parkedCount i) (h.owns i)
  unopened : ∀ i, h.opened ≤ i → h.session i = {}
  closed : ∀ i, i < h.opened → (h.session i).link = .closed → (h.session i).registered = true
  parked : ∀ e ∈ h.parked, e.pid = (h.session e.service).pid
  paired : h.registeredPid = 0 ↔ h.owner = none
  owner : ∀ i, h.owner = some i → (h.session i).pid = h.registeredPid

variable {h : Holdings} {i j : Nat}

@[simp] theorem store_self (h : Holdings) (i : Nat) (k : Session) : (h.store i k).session i = k :=
  Function.update_self ..

theorem store_other (h : Holdings) (k : Session) (hij : j ≠ i) : (h.store i k).session j = h.session j :=
  Function.update_of_ne hij ..

@[simp] theorem store_parkedCount (h : Holdings) (i j : Nat) (k : Session) :
    (h.store i k).parkedCount j = h.parkedCount j := rfl

@[simp] theorem store_owns (h : Holdings) (i j : Nat) (k : Session) : (h.store i k).owns j = h.owns j := rfl

theorem store_settle (h : Holdings) (i : Nat) (k : Session) :
    (h.store i k).settle i = h.store i (k.settled (h.parkedCount i) (h.owns i)) := by
  show (h.store i k).store i _ = _
  rw [store_self, store_parkedCount, store_owns]
  simp only [store, Function.update_idem]

theorem settled_pid (k : Session) (n : Nat) (own : Bool) : (k.settled n own).pid = k.pid := by
  unfold Session.settled
  split <;> rfl

theorem Inv.initial : Inv {} :=
  ⟨fun _ => ⟨⟨nofun, nofun⟩, nofun, nofun, nofun, nofun, nofun, nofun⟩, fun _ _ => rfl, nofun, nofun,
    ⟨fun _ => rfl, fun _ => rfl⟩, nofun⟩

/-- Only the session `i` and the references to its service have changed. -/
theorem Inv.only (hi : Inv h) {t : Holdings} (hopened : i < h.opened) (hcount : t.opened = h.opened)
    (hother : ∀ j, j ≠ i →
      t.session j = h.session j ∧ t.parkedCount j = h.parkedCount j ∧ t.owns j = h.owns j)
    (hpid : (t.session i).pid = (h.session i).pid) (hsound : (t.session i).Sound (t.parkedCount i) (t.owns i))
    (hclosed : (t.session i).link = .closed → (t.session i).registered = true)
    (hparked : ∀ e ∈ t.parked, e.pid = (h.session e.service).pid)
    (hpaired : t.registeredPid = 0 ↔ t.owner = none)
    (howner : ∀ j, t.owner = some j → (h.session j).pid = t.registeredPid) : Inv t := by
  have hsame : ∀ j, (t.session j).pid = (h.session j).pid := fun j => by
    by_cases hj : j = i
    · rw [hj, hpid]
    · rw [(hother j hj).1]
  refine ⟨fun j => ?_, fun j hj => ?_, fun j hj hlink => ?_, fun e he => ?_, hpaired, fun j hj => ?_⟩
  · by_cases hj : j = i
    · rw [hj]
      exact hsound
    · rw [(hother j hj).1, (hother j hj).2.1, (hother j hj).2.2]
      exact hi.session j
  · rw [(hother j (by omega)).1]
    exact hi.unopened j (by omega)
  · by_cases hji : j = i
    · rw [hji] at hlink ⊢
      exact hclosed hlink
    · rw [(hother j hji).1] at hlink ⊢
      exact hi.closed j (by omega) hlink
  · rw [hsame]
    exact hparked e he
  · rw [hsame]
    exact howner j hj

/-- Only the session `i` is rewritten, and keeps its process. -/
theorem Inv.stored (hi : Inv h) (hopened : i < h.opened) {k : Session} (hpid : k.pid = (h.session i).pid)
    (hsound : k.Sound (h.parkedCount i) (h.owns i)) (hclosed : k.link = .closed → k.registered = true) :
    Inv (h.store i k) := by
  refine hi.only hopened rfl (fun j hj => ⟨store_other h k hj, rfl, rfl⟩) ?_ ?_ ?_ hi.parked hi.paired hi.owner
  · rw [store_self, hpid]
  · rw [store_self]
    exact hsound
  · rw [store_self]
    exact hclosed

theorem Inv.opened (hi : Inv h) (hlink : (h.session i).link = .connected) : i < h.opened := by
  by_contra hno
  rw [hi.unopened i (Nat.not_lt.mp hno)] at hlink
  cases hlink

theorem Inv.connected (hi : Inv h) (hobject : (h.session i).object = true) : (h.session i).link = .connected :=
  (hi.session i).connected hobject

/-! ### Each operation keeps the invariant -/

theorem Inv.accept (hi : Inv h) (pid programId : U64) : Inv (h.accept pid programId) := by
  have hfresh := hi.session h.opened
  have hnone : h.parkedCount h.opened = 0 ∧ h.owns h.opened = false := by
    have hcounted := hfresh.counted
    rw [hi.unopened _ le_rfl, Session.uses] at hcounted
    have hzero : h.parkedCount h.opened + (h.owns h.opened).toNat = 0 := by
      by_contra hpos
      cases hcounted.mpr (by simp only [Bool.toNat_false]; omega)
    refine ⟨by omega, ?_⟩
    cases hown : h.owns h.opened with
    | false => rfl
    | true =>
      rw [hown, Bool.toNat_true] at hzero
      omega
  have hother : ∀ {j}, j ≠ h.opened → (h.accept pid programId).session j = h.session j := store_other h _
  have hparked : ∀ e ∈ h.parked, e.service ≠ h.opened := by
    intro e he heq
    have hpos : 0 < h.parkedCount h.opened := List.countP_pos_iff.mpr ⟨e, he, beq_iff_eq.mpr heq⟩
    omega
  refine ⟨fun j => ?_, fun j hj => ?_, fun j hj hlink => ?_, fun e he => ?_, hi.paired, fun j hj => ?_⟩
  · by_cases hj : j = h.opened
    · subst hj
      show Session.Sound ((h.store _ _).session _) (h.parkedCount _) (h.owns _)
      rw [store_self, hnone.1, hnone.2]
      exact ⟨⟨fun _ => Nat.zero_lt_two, fun _ => rfl⟩, fun _ => rfl, nofun, nofun, nofun, nofun, fun _ _ => .inl rfl⟩
    · rw [hother hj]
      exact hi.session j
  · have hj' : h.opened + 1 ≤ j := hj
    rw [hother (by omega)]
    exact hi.unopened j (by omega)
  · by_cases hj' : j = h.opened
    · subst hj'
      rw [Holdings.accept, store_self] at hlink
      cases hlink
    · have hlt : j < h.opened + 1 := hj
      rw [hother hj'] at hlink ⊢
      exact hi.closed j (by omega) hlink
  · rw [hother (hparked e he)]
    exact hi.parked e he
  · have hne : j ≠ h.opened := by
      rintro rfl
      have hown : h.owns h.opened = true := beq_iff_eq.mpr hj
      exact absurd (hown.symm.trans hnone.2) (by decide)
    rw [hother hne]
    exact hi.owner j hj

theorem Inv.copyReference (hi : Inv h) (hlink : (h.session i).link = .connected) : Inv (h.copyReference i) :=
  hi.stored (hi.opened hlink) rfl ((hi.session i).copied hlink) fun hc => absurd (hlink.symm.trans hc) (by decide)

/-- The last reference of all closes only a session that is registered. -/
theorem settled_closed {k : Session} {n : Nat} {own : Bool} (hkept : k.registered = false → 0 < k.uses n own)
    (hlink : k.link = .connected) (hclosed : (k.settled n own).link = .closed) :
    (k.settled n own).registered = true := by
  unfold Session.settled at hclosed ⊢
  split
  · rename_i hnone
    by_contra hno
    rw [Bool.not_eq_true] at hno
    exact absurd hnone.1 (Nat.ne_of_gt (hkept hno))
  · rename_i hsome
    rw [if_neg hsome] at hclosed
    exact absurd (hlink.symm.trans hclosed) (by decide)

theorem Inv.dropReference (hi : Inv h) (hframework : 0 < (h.session i).framework) : Inv (h.dropReference i) := by
  have hlink := (hi.session i).linked (.inr (.inl hframework))
  rw [Holdings.dropReference, store_settle]
  refine hi.stored (hi.opened hlink) (settled_pid ..) ((hi.session i).dropped hframework)
    (settled_closed (fun hno => ?_) hlink)
  rcases (hi.session i).kept hlink hno with hf | hn
  · simp only [Session.uses, hf, Bool.toNat_true]
    omega
  · simp only [Session.uses]
    omega

theorem Inv.destroy (hi : Inv h) (hobject : (h.session i).object = true) : Inv (h.destroy i) := by
  have hlink := hi.connected hobject
  have hs := hi.session i
  exact hi.stored (hi.opened hlink) rfl ⟨hs.counted, nofun, hs.parked, hs.owner, hs.lent, hs.flagged, hs.kept⟩
    fun hc => absurd (hlink.symm.trans hc) (by decide)

theorem Inv.reset (hi : Inv h) (hobject : (h.session i).object = false) (hlink : (h.session i).link = .connected)
    (hregistered : (h.session i).registered = true) : Inv (h.reset i) := by
  rw [Holdings.reset, store_settle]
  exact hi.stored (hi.opened hlink) (settled_pid ..) ((hi.session i).reset hobject hlink hregistered)
    (settled_closed (fun hno => absurd (hregistered.symm.trans hno) (by decide)) hlink)

theorem Inv.register (hi : Inv h) (hobject : (h.session i).object = true) : Inv (h.register i) := by
  have hs := hi.session i
  exact hi.stored (hi.opened (hi.connected hobject)) rfl
    ⟨hs.counted, hs.object, hs.parked, fun ho => ⟨rfl, (hs.owner ho).2⟩, hs.lent, hs.flagged, fun _ => nofun⟩
    fun _ => rfl

theorem Inv.reuse (hi : Inv h) (hobject : (h.session i).object = true) : Inv (h.reuse i) := by
  have hs := hi.session i
  have hlink := hi.connected hobject
  exact hi.stored (hi.opened hlink) rfl
    ⟨hs.counted, hs.object, hs.parked, hs.owner, hs.lent, hs.flagged, hs.kept⟩
    fun hc => absurd (hlink.symm.trans hc) (by decide)

theorem Inv.park (hi : Inv h) (hobject : (h.session i).object = false)
    (hforward : (h.session i).forwardService = true) (howner : h.owns i = false) : Inv (h.park i) := by
  have hlink := (hi.session i).linked (.inl hforward)
  have hcount : ∀ j, (h.park i).parkedCount j = h.parkedCount j + if i = j then 1 else 0 := fun j => by
    rw [Holdings.park, parkedCount, List.countP_append, List.countP_singleton]
    simp only [beq_iff_eq]
    rfl
  refine hi.only (hi.opened hlink) rfl (fun j hj => ⟨store_other h _ hj, ?_, rfl⟩) ?_ ?_ ?_ (fun e he => ?_) hi.paired
    hi.owner
  · rw [hcount, if_neg fun heq => hj heq.symm, Nat.add_zero]
  · rw [Holdings.park, store_self]
  · rw [hcount, if_pos rfl, Holdings.park, store_self]
    exact (hi.session i).parks hobject hforward howner
  · rw [Holdings.park, store_self]
    exact fun hc => absurd (hlink.symm.trans hc) (by decide)
  · rcases List.mem_append.mp he with he | he
    · exact hi.parked e he
    · rw [List.mem_singleton.mp he]

theorem Inv.lend (hi : Inv h) (hobject : (h.session i).object = true) (howner : h.owner = none)
    (hpid : (h.session i).pid ≠ 0) (out : U64) : Inv (h.lend i out) := by
  have hlink := hi.connected hobject
  refine hi.only (hi.opened hlink) rfl (fun j hj => ⟨store_other h _ hj, rfl, ?_⟩) ?_ ?_ ?_ hi.parked
    ⟨fun h0 => absurd h0 hpid, nofun⟩ (fun j hj => ?_)
  · rw [owns, owns, howner]
    exact beq_eq_false_iff_ne.mpr fun heq => hj (Option.some.inj heq).symm
  · rw [Holdings.lend, store_self]
  · rw [Holdings.lend, store_self, show owns _ i = true from beq_iff_eq.mpr rfl]
    exact (hi.session i).lends hobject
  · rw [Holdings.lend, store_self]
    exact fun _ => rfl
  · cases hj
    rfl

theorem Inv.releaseOwner (hi : Inv h) (huses : ∀ i, h.owner = some i → h.useCount i ≤ 1) : Inv h.releaseOwner := by
  unfold Holdings.releaseOwner
  split
  · rename_i hnone
    exact ⟨hi.session, hi.unopened, hi.closed, hi.parked, ⟨fun _ => hnone, fun _ => rfl⟩,
      fun i hi => absurd (hnone.symm.trans hi) nofun⟩
  · rename_i i howner
    have hs := hi.session i
    have hown : h.owns i = true := beq_iff_eq.mpr howner
    have hlink := hs.linked (.inr (.inr (.inr hown)))
    have hparked : h.parkedCount i = 0 := by
      by_contra hn
      exact absurd (hown.symm.trans (hs.parked (Nat.pos_of_ne_zero hn)).2.2) (by decide)
    refine hi.only (hi.opened hlink) rfl (fun j hj => ⟨store_other h _ hj, rfl, ?_⟩) ?_ ?_ ?_ hi.parked
      ⟨fun _ => rfl, fun _ => rfl⟩ nofun
    · rw [owns, owns, howner]
      exact (beq_eq_false_iff_ne.mpr fun heq => hj (Option.some.inj heq).symm).symm
    · rw [closeHandle, store_self]
    · show Session.Sound ((h.store i _).session i) (h.parkedCount i) false
      rw [store_self, hparked]
      exact hs.retired (huses i howner) (.inr hown)
    · rw [closeHandle, store_self]
      exact nofun

/-- A service is parked once at most, so it is released or left alone as a whole. -/
theorem Inv.retires_count (hi : Inv h) (pid : U64) (i : Nat) :
    (h.parked.filter fun e => !h.retires pid e).countP (fun e => e.service == i) =
      if (h.session i).pid = pid ∧ h.useCount i ≤ 1 then 0 else h.parkedCount i := by
  rw [List.countP_filter]
  have hpred : ∀ e ∈ h.parked, (e.service == i && !h.retires pid e) =
      (e.service == i && !decide ((h.session i).pid = pid ∧ h.useCount i ≤ 1)) := by
    intro e he
    by_cases hs : e.service = i
    · subst hs
      rw [retires, hi.parked e he]
      simp only [Bool.decide_and, beq_eq_decide]
    · rw [beq_eq_false_iff_ne.mpr hs, Bool.false_and, Bool.false_and]
  rw [List.countP_congr fun e he => by rw [hpred e he]]
  split
  · rename_i hret
    simp [hret]
  · rename_i hret
    simp [hret, parkedCount]

theorem Inv.released_iff (hi : Inv h) (pid : U64) (i : Nat) :
    h.released pid i = true ↔ 0 < h.parkedCount i ∧ (h.session i).pid = pid ∧ h.useCount i ≤ 1 := by
  rw [released, List.any_eq_true, parkedCount, List.countP_pos_iff]
  constructor
  · rintro ⟨e, he, hret⟩
    rw [Bool.and_eq_true, beq_iff_eq, retires, Bool.and_eq_true, beq_iff_eq, decide_eq_true_eq] at hret
    obtain ⟨⟨hpid, huses⟩, rfl⟩ := hret
    exact ⟨⟨e, he, beq_iff_eq.mpr rfl⟩, (hi.parked e he).symm.trans hpid, huses⟩
  · rintro ⟨⟨e, he, hs⟩, hpid, huses⟩
    obtain rfl := beq_iff_eq.mp hs
    refine ⟨e, he, ?_⟩
    rw [Bool.and_eq_true, retires, Bool.and_eq_true, beq_iff_eq, decide_eq_true_eq]
    exact ⟨⟨(hi.parked e he).trans hpid, huses⟩, hs⟩

theorem releaseParked_session (h : Holdings) (pid : U64) (i : Nat) :
    (h.releaseParked pid).session i =
      if h.released pid i then { h.session i with link := .handleClosed } else h.session i := rfl

theorem releaseParked_pid (h : Holdings) (pid : U64) (i : Nat) :
    ((h.releaseParked pid).session i).pid = (h.session i).pid := by
  rw [releaseParked_session]
  split <;> rfl

theorem Inv.releaseParked (hi : Inv h) (pid : U64) : Inv (h.releaseParked pid) := by
  have hcount := hi.retires_count pid
  refine ⟨fun i => ?_, fun i hn => ?_, fun i hn hlink => ?_, fun e he => ?_, hi.paired, fun i ho => ?_⟩
  · rw [releaseParked_session]
    show Session.Sound _ ((h.parked.filter fun e => !h.retires pid e).countP _) (h.owns i)
    rw [hcount]
    have hs := hi.session i
    cases hrel : h.released pid i with
    | true =>
      obtain ⟨hparked, hpid, huses⟩ := (hi.released_iff pid i).mp hrel
      rw [if_pos rfl, if_pos ⟨hpid, huses⟩, (hs.parked hparked).2.2]
      exact hs.retired huses (.inl hparked)
    | false =>
      rw [if_neg (by decide)]
      split
      · rename_i hret
        have hzero : h.parkedCount i = 0 := by
          by_contra hn
          have := (hi.released_iff pid i).mpr ⟨Nat.pos_of_ne_zero hn, hret⟩
          exact absurd (this.symm.trans hrel) (by decide)
        rw [← hzero]
        exact hs
      · exact hs
  · have hnone : ¬h.released pid i = true := fun hrel => by
      have hlink := (hi.session i).linked (.inr (.inr (.inl ((hi.released_iff pid i).mp hrel).1)))
      exact absurd (hi.opened hlink) (Nat.not_lt.mpr hn)
    rw [releaseParked_session, if_neg hnone]
    exact hi.unopened i hn
  · rw [releaseParked_session] at hlink ⊢
    split at hlink
    · cases hlink
    · rename_i hrel
      rw [if_neg hrel]
      exact hi.closed i hn hlink
  · rw [releaseParked_pid]
    exact hi.parked e (List.mem_filter.mp he).1
  · rw [releaseParked_pid]
    exact hi.owner i ho

end Holdings

end SysZerotier.Mitm
