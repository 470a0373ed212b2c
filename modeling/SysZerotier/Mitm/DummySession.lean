import SysZerotier.Mitm.Custody

/-! The `bsd:u` sessions of a game that the module takes (`BsdShim::ShouldMitm` and
`CountClientSession` in `source/mitm/bsd_shim.cpp`, `source/mitm/lan_titles.hpp`).

The first session of a process is a dummy, which must go to the real service; every later
one is taken. A process keeps its slot of the table for as long as it lives (`Tallied`), and
its counter is the number of its attempts, as an `int`: the policy holds for as long as
these are fewer than 2^31 (`dummy_session_declined`). -/
namespace SysZerotier.Mitm
open Net Library

/-! ### Titles -/

structure LanTitle where
  id : U64
  name : String

def Splatoon3ProgramId : U64 := 0x0100C2500FC20000

def LanTitles : List LanTitle :=
  [⟨0x01009B500007C000, "ARMS"⟩,
   ⟨0x01007960049A0000, "Bayonetta 2"⟩,
   ⟨0x010044500C182000, "Civilization VI"⟩,
   ⟨0x01007EF00CB88000, "Duke Nukem 3D: 20th Anniversary"⟩,
   ⟨0x010002C00C270000, "Mario & Sonic Tokyo 2020 (JP)"⟩,
   ⟨0x010003000E146000, "Mario & Sonic Tokyo 2020 (US)"⟩,
   ⟨0x010086000E148000, "Mario & Sonic Tokyo 2020 (EU)"⟩,
   ⟨0x010012700F232000, "Mario & Sonic Tokyo 2020 (CN)"⟩,
   ⟨0x0100152000022000, "Mario Kart 8 Deluxe"⟩,
   ⟨0x0100BDE00862A000, "Mario Tennis Aces"⟩,
   ⟨0x0100D2F00D5C0000, "Nintendo Switch Sports"⟩,
   ⟨0x0100B3F000BE2000, "Pokken Tournament DX"⟩,
   ⟨0x0100ABF008968000, "Pokemon Sword"⟩,
   ⟨0x01008DB008C2C000, "Pokemon Shield"⟩,
   ⟨0x0100DE600BEEE000, "Saints Row: The Third"⟩,
   ⟨0x01008D100D43E000, "Saints Row IV: Re-Elected"⟩,
   ⟨0x01003C700009C000, "Splatoon 2 (JP)"⟩,
   ⟨0x01003BC0000A0000, "Splatoon 2 (US/CN)"⟩,
   ⟨0x0100F8F0000A2000, "Splatoon 2 (EU)"⟩,
   ⟨Splatoon3ProgramId, "Splatoon 3"⟩,
   ⟨0x0100605008268000, "Titan Quest"⟩]

def findLanTitle (id : U64) : Option LanTitle := LanTitles.find? fun title => title.id == id

/-! ### The answer to a connection attempt -/

structure MitmProcessInfo where
  processId : U64
  programId : U64

def OwnProgramId : U64 := 0x4200000000005A54

/-- The counters afterwards, and whether the session is taken. `isApplicationId` is
`ncm::IsApplicationId`. -/
def shouldMitm (isApplicationId : U64 → Bool) (counters : Nat → ClientSessions) (client : MitmProcessInfo) :
    (Nat → ClientSessions) × Bool :=
  if isApplicationId client.programId = false ∨ findLanTitle client.programId = none then (counters, false)
  else if client.programId = OwnProgramId then (counters, false)
  else
    let (counters, n) := countClientSession counters client.processId
    if n < 0 then (counters, false)
    else if n = 1 then (counters, false)
    else (counters, true)

/-- A slot of the table is the process's, or free. -/
def hasSlot (counters : Nat → ClientSessions) (pid : U64) : Bool :=
  (List.range MaxTrackedClients).any fun k => (counters k).pid == pid || (counters k).pid == 0

/-- A connection attempt, whether there was a slot for it, and the answer. -/
structure Attempt where
  pid : U64
  hasSlot : Bool
  accepted : Bool

/-- The module and the processes, and the attempts that have been made, the last one at the
end. -/
structure Attempts where
  lifetimes : Lifetimes
  made : List Attempt

namespace Attempts
variable (isApplicationId : U64 → Bool) (programId : U64 → U64)

def attempt (s : Attempts) (pid : U64) : Attempts :=
  let (counters, accepted) := shouldMitm isApplicationId s.lifetimes.counters ⟨pid, programId pid⟩
  { lifetimes := { s.lifetimes with counters := counters }
    made := s.made ++ [⟨pid, hasSlot s.lifetimes.counters pid, accepted⟩] }

/-- `programId pid` is the program of a process. A process that has been launched may make
attempts, of a LAN title or not. -/
def step (s : Attempts) : Lifetimes.Event → Option Attempts
  | .shouldMitm pid =>
    if s.lifetimes.launched.contains pid then some (s.attempt isApplicationId programId pid) else none
  | e => (s.lifetimes.step e).map fun lifetimes => { s with lifetimes := lifetimes }

def attempted : System Attempts Lifetimes.Event := ⟨step isApplicationId programId⟩

def started : Attempts := ⟨.started, []⟩

def attemptsOf (s : Attempts) (pid : U64) : List Attempt := s.made.filter fun a => a.pid == pid

end Attempts

/-! ### The table of counters -/

/-- No process has two slots. -/
def Distinct (counters : Nat → ClientSessions) : Prop :=
  ∀ i j, i < MaxTrackedClients → j < MaxTrackedClients → (counters i).pid ≠ 0 →
    (counters i).pid = (counters j).pid → i = j

open Lifetimes (countClientSession_cases)
variable {counters counters' : Nat → ClientSessions} {pid : U64}

theorem Distinct.blanked (h : Distinct counters) (hkept : ∀ k, counters' k = counters k ∨ counters' k = {}) :
    Distinct counters' := by
  have hsame : ∀ {k}, (counters' k).pid ≠ 0 → counters' k = counters k := fun {k} hne =>
    (hkept k).resolve_right fun hblank => hne (by rw [hblank])
  intro i j hi hj hne heq
  have hi' := hsame hne
  have hj' := hsame (heq ▸ hne)
  rw [hi'] at hne heq
  rw [hj'] at heq
  exact h i j hi hj hne heq

theorem Distinct.updated (h : Distinct counters) {k : Nat} (hk : k < MaxTrackedClients) {n : U32}
    (hpid : (counters k).pid = pid ∨ ∀ j, j < MaxTrackedClients → (counters j).pid ≠ pid) :
    Distinct (Function.update counters k ⟨pid, n⟩) := by
  have honly : pid ≠ 0 → ∀ j, j < MaxTrackedClients → (counters j).pid = pid → j = k := fun hne j hj hjpid => by
    rcases hpid with hpid | hno
    · exact h j k hj hk (hjpid ▸ hne) (hjpid.trans hpid.symm)
    · exact absurd hjpid (hno j hj)
  intro i j hi hj hne heq
  by_cases hik : i = k
  · by_cases hjk : j = k
    · rw [hik, hjk]
    · rw [hik, Function.update_self] at hne heq
      rw [Function.update_of_ne hjk] at heq
      exact absurd (honly hne j hj heq.symm) hjk
  · rw [Function.update_of_ne hik] at hne heq
    by_cases hjk : j = k
    · rw [hjk, Function.update_self] at heq
      rw [heq] at hne
      exact absurd (honly hne i hi heq) hik
    · rw [Function.update_of_ne hjk] at heq
      exact h i j hi hj hne heq

theorem Distinct.counted (h : Distinct counters) (pid : U64) : Distinct (countClientSession counters pid).1 := by
  rcases countClientSession_cases counters pid with ⟨k, hk, hpid, heq⟩ | ⟨hno, ⟨k, hk, -, heq⟩ | ⟨-, heq⟩⟩
  · rw [heq]
    exact h.updated hk (.inl hpid)
  · rw [heq]
    exact h.updated hk (.inr hno)
  · rw [heq]
    exact h

/-- An attempt moves no slot of another process. -/
theorem countClientSession_other {k : Nat} (hk : (counters k).pid ≠ 0) (hne : (counters k).pid ≠ pid) :
    (countClientSession counters pid).1 k = counters k := by
  rcases countClientSession_cases counters pid with ⟨j, -, hpid, heq⟩ | ⟨-, ⟨j, -, hfree, heq⟩ | ⟨-, heq⟩⟩
  · have hkj : k ≠ j := fun hkj => hne (hkj ▸ hpid)
    rw [heq]
    exact Function.update_of_ne hkj ..
  · have hkj : k ≠ j := fun hkj => hk (hkj ▸ hfree)
    rw [heq]
    exact Function.update_of_ne hkj ..
  · rw [heq]

theorem hasSlot_iff : hasSlot counters pid = true ↔
    ∃ k, k < MaxTrackedClients ∧ ((counters k).pid = pid ∨ (counters k).pid = 0) := by
  simp [hasSlot, List.any_eq_true]

/-- The slot holds the number of sessions so far, and a further one is given the next. -/
theorem Distinct.counts_on (h : Distinct counters) {k m : Nat} (hk : k < MaxTrackedClients) (hpid : pid ≠ 0)
    (hcounter : counters k = ⟨pid, BitVec.ofNat 32 m⟩) :
    (countClientSession counters pid).1 k = ⟨pid, BitVec.ofNat 32 (m + 1)⟩ ∧
      (countClientSession counters pid).2 = (BitVec.ofNat 32 (m + 1)).toInt := by
  have hkpid : (counters k).pid = pid := by rw [hcounter]
  rcases countClientSession_cases counters pid with ⟨j, hj, hjpid, heq⟩ | ⟨hno, -⟩
  · obtain rfl := h k j hk hj (hkpid ▸ hpid) (hkpid.trans hjpid.symm)
    rw [heq, hcounter, BitVec.ofNat_add]
    exact ⟨Function.update_self .., rfl⟩
  · exact absurd hkpid (hno k hk)

/-- A process that has no slot is given a free one, and number 1. -/
theorem countClientSession_first (hno : ∀ k, k < MaxTrackedClients → (counters k).pid ≠ pid)
    (hslot : hasSlot counters pid = true) :
    ∃ k, k < MaxTrackedClients ∧ (countClientSession counters pid).1 k = ⟨pid, 1⟩ ∧
      (countClientSession counters pid).2 = 1 := by
  obtain ⟨k, hk, hpid | hfree⟩ := hasSlot_iff.mp hslot
  · exact absurd hpid (hno k hk)
  · rcases countClientSession_cases counters pid with ⟨j, hj, hjpid, -⟩ | ⟨-, ⟨j, hj, -, heq⟩ | ⟨hfull, -⟩⟩
    · exact absurd hjpid (hno j hj)
    · rw [heq]
      exact ⟨j, hj, Function.update_self .., rfl⟩
    · exact absurd hfree (hfull k hk)

/-- The decision on a session of that number. -/
def takesSession (n : Int) : Bool := !(decide (n < 0) || decide (n = 1))

/-- `ShouldMitm` counts the sessions of a LAN title, and decides by their number. -/
theorem shouldMitm_lan {isApplicationId : U64 → Bool} (hids : ∀ title ∈ LanTitles, isApplicationId title.id = true)
    (counters : Nat → ClientSessions) (client : MitmProcessInfo)
    (hlan : (findLanTitle client.programId).isSome = true) :
    shouldMitm isApplicationId counters client =
      ((countClientSession counters client.processId).1,
        takesSession (countClientSession counters client.processId).2) := by
  obtain ⟨title, htitle⟩ := Option.isSome_iff_exists.mp hlan
  have hid : title.id = client.programId := by simpa using List.find?_some htitle
  have happ := hids title (List.mem_of_find?_eq_some htitle)
  have hown : client.programId ≠ OwnProgramId := fun heq => by
    have hnone : findLanTitle OwnProgramId = none := by decide
    rw [heq, hnone] at hlan
    cases hlan
  rw [hid] at happ
  have hpass : ¬(isApplicationId client.programId = false ∨ findLanTitle client.programId = none) := by
    rw [happ, htitle]
    simp
  rw [shouldMitm, if_neg hpass, if_neg hown]
  unfold takesSession
  dsimp only
  split_ifs with hneg hone
  · rw [decide_eq_true hneg]
    rfl
  · rw [decide_eq_true hone, Bool.or_true]
    rfl
  · rw [decide_eq_false hneg, decide_eq_false hone]
    rfl

/-- `ShouldMitm` on another program leaves the counters alone. -/
theorem shouldMitm_other (isApplicationId : U64 → Bool) (counters : Nat → ClientSessions) (client : MitmProcessInfo)
    (hlan : findLanTitle client.programId = none) :
    shouldMitm isApplicationId counters client = (counters, false) := if_pos (.inr hlan)

/-! ### The other steps -/

namespace Lifetimes
variable {s t : Lifetimes}

/-- The slots are as before, but for those cleared of processes that are gone. -/
def Clears (s t : Lifetimes) : Prop :=
  ∀ k, t.counters k = s.counters k ∨ t.counters k = {} ∧ (s.counters k).pid ∉ s.alive

theorem Clears.same (h : t.counters = s.counters) : Clears s t := fun k => .inl (congrFun h k)

/-- The server thread leaves the counters and the processes alone. -/
theorem serve_processes {calls : Calls} (h : s.serve calls = some t) :
    t.counters = s.counters ∧ t.launched = s.launched ∧ t.alive = s.alive := by
  rw [serve] at h
  split at h
  case h_1 => cases h
  case h_6 i proxy hserver =>
    cases h
    cases calls.registered <;> exact ⟨rfl, rfl, rfl⟩
  case h_7 | h_8 =>
    cases h
    cases calls.registered <;> exact ⟨rfl, rfl, rfl⟩
  all_goals
    repeat' split at h
    all_goals
      cases h
      exact ⟨rfl, rfl, rfl⟩

theorem reap_processes (s : Lifetimes) (list : ProcessList) :
    (s.reap list).launched = s.launched ∧ (s.reap list).alive = s.alive := by
  rw [reap]
  repeat' split
  all_goals exact ⟨rfl, rfl⟩

theorem Inv.reap_clears (h : Inv s) (list : ProcessList) : Clears s (s.reap list) := by
  have hr := h.reaper
  rw [reap]
  split
  case h_11 other candidates list' hreaper =>
    rw [hreaper] at hr
    intro k
    show clearCounters s.counters other k = _ ∨ clearCounters s.counters other k = _ ∧ _
    rw [clearCounters]
    split
    · rename_i hcleared
      rw [hcleared.2]
      exact .inr ⟨rfl, (h.confirmed other hr.1).2⟩
    · exact .inl rfl
  all_goals
    repeat' split
    all_goals exact .same rfl

/-- What a step other than an attempt does to the counters and the processes. -/
structure Passes (s t : Lifetimes) : Prop where
  clears : Clears s t
  launched : ∀ pid ∈ s.launched, pid ∈ t.launched
  alive : ∀ pid ∈ t.alive, pid ∈ s.alive ∨ pid ∉ s.launched

theorem Passes.same (hcounters : t.counters = s.counters) (hlaunched : t.launched = s.launched)
    (halive : t.alive = s.alive) : Passes s t :=
  ⟨.same hcounters, fun _ hp => hlaunched ▸ hp, fun _ hp => .inl (halive ▸ hp)⟩

theorem step_passes {e : Event} (h : Inv s) (hstep : s.step e = some t) (hother : ∀ pid, e ≠ .shouldMitm pid) :
    Passes s t := by
  cases e with
  | launch pid =>
    obtain ⟨hno, heq⟩ := Option.ite_none_left_eq_some.mp hstep
    cases heq
    refine ⟨.same rfl, fun p hp => List.mem_cons_of_mem pid hp, fun p hp => ?_⟩
    rcases List.mem_cons.mp hp with rfl | hp
    · exact .inr fun hlaunched => hno (.inr hlaunched)
    · exact .inl hp
  | exit pid =>
    cases hstep
    exact ⟨.same rfl, fun p hp => hp, fun p hp => .inl (List.mem_filter.mp hp).1⟩
  | shouldMitm pid => exact absurd rfl (hother pid)
  | accept pid programId | copyReference i | dropReference i | registerClient i config tmemSize
  | registerClientShared i config workSize | shutdownAllSockets i how | destroy i =>
    obtain ⟨-, heq⟩ := Option.ite_none_right_eq_some.mp hstep
    cases heq
    exact .same rfl rfl rfl
  | serve calls =>
    obtain ⟨-, heq⟩ := Option.ite_none_right_eq_some.mp hstep
    obtain ⟨hcounters, hlaunched, halive⟩ := serve_processes heq
    exact .same hcounters hlaunched halive
  | reap list =>
    obtain ⟨-, heq⟩ := Option.ite_none_right_eq_some.mp hstep
    cases heq
    obtain ⟨hlaunched, halive⟩ := reap_processes s list
    exact ⟨h.reap_clears list, fun p hp => hlaunched ▸ hp, fun p hp => .inl (halive ▸ hp)⟩

end Lifetimes

/-! ### The attempts of a process -/

namespace Attempts
variable {s t : Attempts}

/-- The counter of the process is the number of its attempts, and each was decided by its
number. -/
structure Counted (s : Attempts) (pid : U64) : Prop where
  slot : ∃ k, k < MaxTrackedClients ∧ s.lifetimes.counters k = ⟨pid, BitVec.ofNat 32 (s.attemptsOf pid).length⟩
  answers : (s.attemptsOf pid).map Attempt.accepted =
    (List.range (s.attemptsOf pid).length).map fun i => takesSession (BitVec.ofNat 32 (i + 1)).toInt

/-- What the table says of the attempts: of a process that is alive and found a slot, all. -/
structure Tallied (programId : U64 → U64) (s : Attempts) : Prop where
  lifetimes : s.lifetimes.Inv
  launched : ∀ a ∈ s.made, a.pid ∈ s.lifetimes.launched
  distinct : Distinct s.lifetimes.counters
  slots : ∀ k, k < MaxTrackedClients → (s.lifetimes.counters k).pid ≠ 0 →
    s.attemptsOf (s.lifetimes.counters k).pid ≠ []
  counted : ∀ pid ∈ s.lifetimes.alive, (findLanTitle (programId pid)).isSome = true →
    ∀ first later, s.attemptsOf pid = first :: later → first.hasSlot = true → Counted s pid

theorem Tallied.started (programId : U64 → U64) : Tallied programId started :=
  ⟨.started, nofun, fun _ _ _ _ hne => absurd rfl hne, fun _ _ hne => absurd rfl hne, nofun⟩

variable {programId : U64 → U64}

/-- Nothing was attempted, and the slots of the living stay. -/
theorem Tallied.passes (h : Tallied programId s) {lifetimes : Lifetimes} (hinv : lifetimes.Inv)
    (hp : Lifetimes.Passes s.lifetimes lifetimes) : Tallied programId { s with lifetimes := lifetimes } := by
  refine ⟨hinv, fun a ha => hp.launched _ (h.launched a ha),
    h.distinct.blanked fun k => (hp.clears k).imp_right And.left, fun k hk hne => ?_,
    fun pid halive hlan first later heq hslot => ?_⟩
  · show s.attemptsOf (lifetimes.counters k).pid ≠ []
    rcases hp.clears k with hkept | ⟨hblank, -⟩
    · rw [hkept] at hne ⊢
      exact h.slots k hk hne
    · exact absurd (by rw [hblank]) hne
  · have hmade : first ∈ s.made ∧ (first.pid == pid) = true :=
      List.mem_filter.mp (heq.symm ▸ List.mem_cons_self : first ∈ s.attemptsOf pid)
    have hlaunched : pid ∈ s.lifetimes.launched := beq_iff_eq.mp hmade.2 ▸ h.launched first hmade.1
    have halive' := (hp.alive pid halive).resolve_right fun hno => hno hlaunched
    obtain ⟨⟨k, hk, hcounter⟩, hanswers⟩ := h.counted pid halive' hlan first later heq hslot
    refine ⟨⟨k, hk, ?_⟩, hanswers⟩
    rcases hp.clears k with hkept | ⟨-, hgone⟩
    · exact hkept.trans hcounter
    · rw [hcounter] at hgone
      exact absurd halive' hgone

section Attempt
variable (isApplicationId : U64 → Bool) (programId : U64 → U64)

theorem attempt_self (s : Attempts) (pid : U64) :
    (s.attempt isApplicationId programId pid).attemptsOf pid = s.attemptsOf pid ++
      [⟨pid, hasSlot s.lifetimes.counters pid,
        (shouldMitm isApplicationId s.lifetimes.counters ⟨pid, programId pid⟩).2⟩] := by
  rw [attemptsOf, attempt, List.filter_append]
  simp [attemptsOf]

theorem attempt_other (s : Attempts) {pid other : U64} (hne : pid ≠ other) :
    (s.attempt isApplicationId programId pid).attemptsOf other = s.attemptsOf other := by
  rw [attemptsOf, attempt, List.filter_append]
  simp [attemptsOf, hne]

variable {isApplicationId programId} {pid : U64}

/-- An attempt of a process that found a slot at the first one is counted. -/
theorem Tallied.attempt_counted (h : Tallied programId s)
    (hids : ∀ title ∈ LanTitles, isApplicationId title.id = true) (halive : pid ∈ s.lifetimes.alive)
    (hlan : (findLanTitle (programId pid)).isSome = true) {first : Attempt} {later : List Attempt}
    (heq : (s.attempt isApplicationId programId pid).attemptsOf pid = first :: later)
    (hslot : first.hasSlot = true) : Counted (s.attempt isApplicationId programId pid) pid := by
  have hpid : pid ≠ 0 := h.lifetimes.nonzero pid (h.lifetimes.alive pid halive)
  have hlist := attempt_self isApplicationId programId s pid
  have hlong :
      ((s.attempt isApplicationId programId pid).attemptsOf pid).length = (s.attemptsOf pid).length + 1 := by
    rw [hlist, List.length_append, List.length_singleton]
  have hlan' := shouldMitm_lan hids s.lifetimes.counters ⟨pid, programId pid⟩ hlan
  have hcounters : (s.attempt isApplicationId programId pid).lifetimes.counters =
      (countClientSession s.lifetimes.counters pid).1 := congrArg Prod.fst hlan'
  have haccepted := congrArg Prod.snd hlan'
  have hnext : ∃ k, k < MaxTrackedClients ∧
      (countClientSession s.lifetimes.counters pid).1 k = ⟨pid, BitVec.ofNat 32 ((s.attemptsOf pid).length + 1)⟩ ∧
      (countClientSession s.lifetimes.counters pid).2 =
        (BitVec.ofNat 32 ((s.attemptsOf pid).length + 1)).toInt ∧
      (s.attemptsOf pid).map Attempt.accepted =
        (List.range (s.attemptsOf pid).length).map fun i => takesSession (BitVec.ofNat 32 (i + 1)).toInt := by
    rw [hlist] at heq
    cases hbefore : s.attemptsOf pid with
    | nil =>
      rw [hbefore, List.nil_append] at heq
      obtain ⟨hfirst, -⟩ := List.cons.inj heq
      have hno : ∀ k, k < MaxTrackedClients → (s.lifetimes.counters k).pid ≠ pid := fun k hk hkpid =>
        h.slots k hk (hkpid ▸ hpid) (hkpid ▸ hbefore)
      rw [← hfirst] at hslot
      obtain ⟨k, hk, hcounter, hnumber⟩ := countClientSession_first hno hslot
      exact ⟨k, hk, hcounter, hnumber, rfl⟩
    | cons first' later' =>
      rw [hbefore, List.cons_append] at heq
      obtain ⟨rfl, -⟩ := List.cons.inj heq
      obtain ⟨⟨k, hk, hcounter⟩, hanswers⟩ := h.counted pid halive hlan first' later' hbefore hslot
      obtain ⟨hnext, hnumber⟩ := h.distinct.counts_on hk hpid hcounter
      rw [hbefore] at hnext hnumber hanswers
      exact ⟨k, hk, hnext, hnumber, hanswers⟩
  obtain ⟨k, hk, hcounter, hnumber, hanswers⟩ := hnext
  refine ⟨⟨k, hk, ?_⟩, ?_⟩
  · rw [hcounters, hlong]
    exact hcounter
  · rw [hlong, hlist, List.map_append, List.range_succ, List.map_append, hanswers]
    congr 1
    show [_] = [_]
    rw [haccepted, hnumber]

/-- An attempt of a LAN title is the step of the module, and one of another program changes
nothing there. -/
theorem attempt_lifetimes (programId : U64 → U64) (hids : ∀ title ∈ LanTitles, isApplicationId title.id = true)
    (hlaunched : pid ∈ s.lifetimes.launched) :
    (s.attempt isApplicationId programId pid).lifetimes = s.lifetimes ∨
      s.lifetimes.step (.shouldMitm pid) = some (s.attempt isApplicationId programId pid).lifetimes := by
  have hattempt : (s.attempt isApplicationId programId pid).lifetimes =
      { s.lifetimes with
        counters := (shouldMitm isApplicationId s.lifetimes.counters ⟨pid, programId pid⟩).1 } := rfl
  rw [hattempt]
  cases hlan : (findLanTitle (programId pid)).isSome with
  | false =>
    have hnone : findLanTitle (programId pid) = none := by simpa using hlan
    rw [shouldMitm_other isApplicationId s.lifetimes.counters ⟨pid, programId pid⟩ hnone]
    exact .inl rfl
  | true =>
    rw [shouldMitm_lan hids s.lifetimes.counters ⟨pid, programId pid⟩ hlan]
    exact .inr (if_pos hlaunched)

theorem Tallied.attempt (h : Tallied programId s) (hids : ∀ title ∈ LanTitles, isApplicationId title.id = true)
    (hlaunched : pid ∈ s.lifetimes.launched) : Tallied programId (s.attempt isApplicationId programId pid) := by
  have hstep := attempt_lifetimes programId hids hlaunched
  have hcounters : (s.attempt isApplicationId programId pid).lifetimes.counters = s.lifetimes.counters ∨
      (s.attempt isApplicationId programId pid).lifetimes.counters =
        (countClientSession s.lifetimes.counters pid).1 := by
    rcases hstep with hsame | hcounted
    · exact .inl (congrArg Lifetimes.counters hsame)
    · obtain ⟨-, heq⟩ := Option.ite_none_right_eq_some.mp hcounted
      exact .inr (congrArg Lifetimes.counters (Option.some.inj heq)).symm
  have hmade : ∀ q, s.attemptsOf q ≠ [] ∨ q = pid →
      (s.attempt isApplicationId programId pid).attemptsOf q ≠ [] := fun q hq => by
    by_cases hqp : q = pid
    · rw [hqp, attempt_self]
      exact List.append_ne_nil_of_right_ne_nil _ (List.cons_ne_nil _ _)
    · rw [attempt_other isApplicationId programId s (Ne.symm hqp)]
      exact hq.resolve_right hqp
  refine ⟨?_, fun a ha => ?_, ?_, fun k hk hne => hmade _ ?_, fun q hq hlan first later heq hslot => ?_⟩
  · rcases hstep with hsame | hcounted
    · rw [hsame]
      exact h.lifetimes
    · exact Lifetimes.inv_step h.lifetimes hcounted
  · rcases List.mem_append.mp ha with ha | ha
    · exact h.launched a ha
    · rw [List.mem_singleton.mp ha]
      exact hlaunched
  · rcases hcounters with hsame | hcounted
    · rw [hsame]
      exact h.distinct
    · rw [hcounted]
      exact h.distinct.counted pid
  · rcases hcounters with hsame | hcounted
    · rw [hsame] at hne ⊢
      exact .inl (h.slots k hk hne)
    · rw [hcounted] at hne ⊢
      rcases Lifetimes.countClientSession_pid s.lifetimes.counters pid k with hmine | hkept
      · exact .inr hmine
      · rw [hkept] at hne ⊢
        exact .inl (h.slots k hk hne)
  · by_cases hqp : q = pid
    · subst hqp
      exact h.attempt_counted hids hq hlan heq hslot
    · have hsame := attempt_other isApplicationId programId s (Ne.symm hqp)
      obtain ⟨⟨k, hk, hcounter⟩, hanswers⟩ := h.counted q hq hlan first later (hsame ▸ heq) hslot
      have hq0 : q ≠ 0 := h.lifetimes.nonzero q (h.lifetimes.alive q hq)
      refine ⟨⟨k, hk, ?_⟩, ?_⟩
      · rw [hsame, ← hcounter]
        rcases hcounters with hkept | hcounted
        · rw [hkept]
        · rw [hcounted]
          exact countClientSession_other (by rw [hcounter]; exact hq0) (by rw [hcounter]; exact hqp)
      · rw [hsame]
        exact hanswers

theorem tallied_step {e : Lifetimes.Event} (h : Tallied programId s)
    (hids : ∀ title ∈ LanTitles, isApplicationId title.id = true)
    (hstep : s.step isApplicationId programId e = some t) : Tallied programId t := by
  by_cases he : ∃ pid, e = .shouldMitm pid
  · obtain ⟨pid, rfl⟩ := he
    obtain ⟨hlaunched, heq⟩ := Option.ite_none_right_eq_some.mp hstep
    cases heq
    exact h.attempt hids (List.contains_iff_mem.mp hlaunched)
  · have hother : ∀ pid, e ≠ .shouldMitm pid := fun pid heq => he ⟨pid, heq⟩
    have hmap : (s.lifetimes.step e).map (fun lifetimes => { s with lifetimes := lifetimes }) = some t := by
      cases e with
      | shouldMitm pid => exact absurd rfl (hother pid)
      | _ => exact hstep
    obtain ⟨lifetimes, hlife, rfl⟩ := Option.map_eq_some_iff.mp hmap
    exact h.passes (Lifetimes.inv_step h.lifetimes hlife) (Lifetimes.step_passes h.lifetimes hlife hother)

theorem tallied_run {es : List Lifetimes.Event} (hids : ∀ title ∈ LanTitles, isApplicationId title.id = true)
    (hrun : (attempted isApplicationId programId).run started es = some t) : Tallied programId t := by
  have hkeeps : (attempted isApplicationId programId).Keeps (fun _ _ => true) (Tallied programId) :=
    fun _ _ _ h _ hstep => tallied_step h hids hstep
  exact hkeeps.run es (.started programId) (System.meets_true _ es) hrun

end Attempt

/-! ### The policy -/

/-- The session of that number, from the second on, is taken until the `int` runs over. -/
theorem takesSession_ofNat {n : Nat} (hn : 2 ≤ n) (hlt : n < 2 ^ 31) :
    takesSession (BitVec.ofNat 32 n).toInt = true := by
  have hint : (BitVec.ofNat 32 n).toInt = n := by
    have hnat : (BitVec.ofNat 32 n).toNat = n := by
      rw [BitVec.toNat_ofNat]
      exact Nat.mod_eq_of_lt (by omega)
    rw [BitVec.toInt_eq_toNat_of_lt (by omega), hnat]
  rw [takesSession, hint]
  simp
  omega

theorem takesSession_overflow : takesSession (BitVec.ofNat 32 (2 ^ 31)).toInt = false := by decide

/-- The first attempt is declined, and the others are accepted while they are few. -/
theorem Counted.declines_first {pid : U64} (h : Counted s pid) {first : Attempt} {later : List Attempt}
    (heq : s.attemptsOf pid = first :: later) :
    (first.accepted = false ∧ ∀ a ∈ later, a.accepted = true) ↔ later.length + 1 < 2 ^ 31 := by
  have hanswers := h.answers
  rw [heq, List.length_cons, List.range_succ_eq_map, List.map_cons, List.map_cons, List.map_map] at hanswers
  obtain ⟨hfirst, hlater⟩ := List.cons.inj hanswers
  constructor
  · intro ⟨_, htaken⟩
    by_contra hlong
    have hlt : 2 ^ 31 - 2 < later.length := by omega
    have hget := congrArg (fun l => l[2 ^ 31 - 2]?) hlater
    simp only [List.getElem?_map, List.getElem?_range hlt, List.getElem?_eq_getElem hlt, Option.map_some] at hget
    have hoverflow := (Option.some.inj hget).trans takesSession_overflow
    rw [htaken _ (List.getElem_mem hlt)] at hoverflow
    cases hoverflow
  · intro hfew
    refine ⟨hfirst.trans (by decide), fun a ha => ?_⟩
    have hmem : a.accepted ∈ later.map Attempt.accepted := List.mem_map_of_mem ha
    rw [hlater] at hmem
    obtain ⟨i, hi, hia⟩ := List.mem_map.mp hmem
    have hlt := List.mem_range.mp hi
    rw [← hia]
    exact takesSession_ofNat (n := i + 1 + 1) (by omega) (by omega)

/-- **The first session of a process is declined, and every later one is taken.** Whatever
connections the processes attempt and the sessions do, and whatever is reaped, no process
has two slots; and of a LAN title's process that is alive and found a slot at its first
attempt, that attempt was declined and every later one accepted, exactly if it has made
fewer than 2^31 attempts. -/
theorem dummy_session_declined {isApplicationId : U64 → Bool}
    (hids : ∀ title ∈ LanTitles, isApplicationId title.id = true) {es : List Lifetimes.Event}
    (hrun : (attempted isApplicationId programId).run started es = some t) :
    Distinct t.lifetimes.counters ∧
      ∀ pid ∈ t.lifetimes.alive, (findLanTitle (programId pid)).isSome = true →
        ∀ first later, t.attemptsOf pid = first :: later → first.hasSlot = true →
          ((first.accepted = false ∧ ∀ a ∈ later, a.accepted = true) ↔ later.length + 1 < 2 ^ 31) := by
  have h := tallied_run hids hrun
  refine ⟨h.distinct, fun pid halive hlan first later heq hslot => ?_⟩
  exact (h.counted pid halive hlan first later heq hslot).declines_first heq

/-- The ids of applications. -/
def applicationIds (id : U64) : Bool := decide (0x0100000000010000 ≤ id ∧ id ≤ 0x01FFFFFFFFFFFFFF)

/-- Process 6 exits between the sessions of process 5, and 7 is given its slot. -/
def reused : List Lifetimes.Event :=
  [.launch 5, .launch 6, .shouldMitm 5, .shouldMitm 6, .shouldMitm 5, .accept 5 Splatoon3ProgramId, .destroy 0,
    .exit 6] ++ List.replicate 11 (.reap ⟨true, 1, [5]⟩) ++ [.launch 7, .shouldMitm 7, .shouldMitm 5]

theorem dummy_session_declined_reused :
    ∃ t first later, (attempted applicationIds fun _ => Splatoon3ProgramId).run started reused = some t ∧
      (t.lifetimes.counters 1).pid = 7 ∧ t.attemptsOf 5 = first :: later ∧ later.length = 2 ∧
      first.accepted = false ∧ ∀ a ∈ later, a.accepted = true := by
  obtain ⟨t, hrun, hp⟩ := (Option.any_eq_true
    (fun t : Attempts => decide (5 ∈ t.lifetimes.alive) && decide ((t.lifetimes.counters 1).pid = 7) &&
      match t.attemptsOf 5 with
      | first :: later => first.hasSlot && decide (later.length = 2)
      | [] => false)
    ((attempted applicationIds fun _ => Splatoon3ProgramId).run started reused)).mp (by decide +kernel)
  simp only [Bool.and_eq_true, decide_eq_true_eq] at hp
  obtain ⟨⟨halive, hpid⟩, hattempts⟩ := hp
  split at hattempts
  · rename_i first later heq
    rw [Bool.and_eq_true, decide_eq_true_eq] at hattempts
    have h := (dummy_session_declined (by decide) hrun).2 5 halive (by decide) first later heq hattempts.1
    exact ⟨t, first, later, hrun, hpid, heq, hattempts.2, h.mpr (by rw [hattempts.2]; decide)⟩
  · cases hattempts

/-- A process may make any number of attempts. -/
theorem attempts_run (isApplicationId : U64 → Bool) (programId : U64 → U64) (pid : U64) (n : Nat) {s : Attempts}
    (hlaunched : pid ∈ s.lifetimes.launched) :
    ∃ t more, (attempted isApplicationId programId).run s (List.replicate n (.shouldMitm pid)) = some t ∧
      t.lifetimes.alive = s.lifetimes.alive ∧ t.attemptsOf pid = s.attemptsOf pid ++ more ∧ more.length = n := by
  induction n generalizing s with
  | zero => exact ⟨s, [], rfl, rfl, (List.append_nil _).symm, rfl⟩
  | succ n ih =>
    obtain ⟨t, more, hrun, halive, hmore, hlen⟩ := ih (s := s.attempt isApplicationId programId pid) hlaunched
    have hstep : (attempted isApplicationId programId).step s (.shouldMitm pid) =
        some (s.attempt isApplicationId programId pid) := if_pos (List.contains_iff_mem.mpr hlaunched)
    rw [attempt_self, List.append_assoc] at hmore
    refine ⟨t, _, ?_, halive, hmore, ?_⟩
    · rw [List.replicate_succ, System.run, hstep, Option.bind_some, hrun]
    · rw [List.singleton_append, List.length_cons, hlen]

/-- A process is launched, and makes as many attempts. -/
theorem launched_run (n : Nat) :
    ∃ t first later, (attempted applicationIds fun _ => Splatoon3ProgramId).run started
        (.launch 5 :: List.replicate (n + 1) (.shouldMitm 5)) = some t ∧
      5 ∈ t.lifetimes.alive ∧ t.attemptsOf 5 = first :: later ∧ first.hasSlot = true ∧ later.length = n := by
  let s : Attempts := ⟨{ Lifetimes.started with launched := [5], alive := [5] }, []⟩
  obtain ⟨t, later, hrun, halive, hmore, hlen⟩ := attempts_run applicationIds (fun _ => Splatoon3ProgramId) 5 n
    (s := s.attempt applicationIds (fun _ => Splatoon3ProgramId) 5) List.mem_cons_self
  rw [attempt_self] at hmore
  refine ⟨t, _, later, ?_, ?_, hmore, by decide, hlen⟩
  · rw [List.replicate_succ]
    exact hrun
  · rw [halive]
    exact List.mem_cons_self

/-- With its attempt number 2^31 the counter of a process is negative, and the attempt is
declined. -/
theorem dummy_session_overflows :
    ∃ t first later, (attempted applicationIds fun _ => Splatoon3ProgramId).run started
        (.launch 5 :: List.replicate 0x80000000 (.shouldMitm 5)) = some t ∧
      5 ∈ t.lifetimes.alive ∧ t.attemptsOf 5 = first :: later ∧ first.hasSlot = true ∧
      ¬(first.accepted = false ∧ ∀ a ∈ later, a.accepted = true) := by
  obtain ⟨t, first, later, hrun, halive, heq, hslot, hlen⟩ := launched_run 0x7fffffff
  have h := tallied_run (by decide) hrun
  refine ⟨t, first, later, hrun, halive, heq, hslot, fun hpolicy => ?_⟩
  have hfew := ((h.counted 5 halive (by decide) first later heq hslot).declines_first heq).mp hpolicy
  omega

end Attempts

end SysZerotier.Mitm
