import SysZerotier.Config.Selection
import SysZerotier.Port.Switch

/-! Which networks the node is on, over many polls of the selection (`source/zt_port.cpp`).

`m_nwid` is both the network the node is taken to be on and what `pollNetworkSelection`
compares a selection with. A poll that leaves a network and joins another may fail at
three places, and each answer is ZeroTier's. `selection_attempted` says what a poll is
sure to have tried.

`lost` is not in the source. It records that the last switch failed together with its
restore, and nothing reads it. -/
namespace SysZerotier.Port
open Net Library Config

/-- `ZT_ResultCode`. -/
def ZT_RESULT_OK : Int := 0

/-- The calls of a switch that matter here. -/
inductive NodeCall where
  | leave (nwid : U64)
  | join (nwid : U64)
  deriving DecidableEq

/-- What ZeroTier answers to the leave, the join and the join that restores. -/
structure Outcomes where
  leave : Int
  join : Int
  restore : Int

structure Membership where
  nwid : U64
  lastError : Int
  lastNetworkPollMs : Int
  /-- The networks ZeroTier is on. -/
  joined : Finset U64
  lost : Bool

namespace Membership

/-- `switchNetwork`: its value and the calls it makes. -/
def switchNetwork (s : Membership) (nwid : U64) (a : Outcomes) : Membership × Bool × List NodeCall :=
  if nwid = 0 ∨ nwid = s.nwid then (s, false, [])
  else if a.leave ≠ ZT_RESULT_OK then ({ s with lastError := a.leave }, false, [.leave s.nwid])
  else
    let left := { s with joined := s.joined.erase s.nwid }
    if a.join = ZT_RESULT_OK then
      ({ left with nwid := nwid, lastError := 0, joined := insert nwid left.joined, lost := false }, true,
        [.leave s.nwid, .join nwid])
    else if a.restore = ZT_RESULT_OK then
      ({ left with lastError := a.join, joined := insert s.nwid left.joined, lost := false }, false,
        [.leave s.nwid, .join nwid, .join s.nwid])
    else
      ({ left with lastError := a.restore, lost := true }, false, [.leave s.nwid, .join nwid, .join s.nwid])

/-- A poll, with what it reads of the two files. -/
def poll (s : Membership) (now : Int) (config saved : Option Text) (a : Outcomes) : Membership × List NodeCall :=
  let polled := pollNetworkSelection s.lastNetworkPollMs now s.nwid config saved
  let s := { s with lastNetworkPollMs := polled.1 }
  match polled.2 with
  | none => (s, [])
  | some requested => ((s.switchNetwork requested a).1, (s.switchNetwork requested a).2.2)

inductive Event where
  | poll (now : Int) (config saved : Option Text) (a : Outcomes)
  /-- ZeroTier calls back for a network it is on. -/
  | networkConfig (nwid : U64) (op : ConfigOperation)

/-- After `Initialize`, whose join has succeeded. -/
def initialized (nwid : U64) : Membership where
  nwid := nwid
  lastError := 0
  lastNetworkPollMs := 0
  joined := {nwid}
  lost := false

def step (s : Membership) : Event → Option Membership
  | .poll now config saved a => some (s.poll now config saved a).1
  | .networkConfig nwid op =>
    if nwid ∈ s.joined then
      if op = .destroy ∨ op = .down then some s else some { s with nwid := nwid }
    else none

def selecting : System Membership Event := ⟨step⟩

/-! ### Where the node is -/

/-- The node is on the network that `m_nwid` names, unless the last switch lost both, and
then it is on none. -/
structure Inv (s : Membership) : Prop where
  joined : s.joined = if s.lost then ∅ else {s.nwid}

theorem initialized_inv (nwid : U64) : Inv (initialized nwid) := ⟨rfl⟩

theorem Inv.left {s : Membership} (h : Inv s) : s.joined.erase s.nwid = ∅ := by
  rw [h.joined]
  cases s.lost <;> simp

theorem Inv.switched {s : Membership} (h : Inv s) (nwid : U64) (a : Outcomes) : Inv (s.switchNetwork nwid a).1 := by
  rw [switchNetwork]
  split
  · exact h
  · split
    · exact ⟨h.joined⟩
    · dsimp only
      rw [h.left]
      split
      · exact ⟨rfl⟩
      · split
        · exact ⟨rfl⟩
        · exact ⟨rfl⟩

theorem Inv.polled {s : Membership} (h : Inv s) (now : Int) (config saved : Option Text) (a : Outcomes) :
    Inv (s.poll now config saved a).1 := by
  have hpolled : Inv { s with
      lastNetworkPollMs := (pollNetworkSelection s.lastNetworkPollMs now s.nwid config saved).1 } := ⟨h.joined⟩
  rw [poll]
  split
  · exact hpolled
  · exact hpolled.switched _ a

theorem keeps_inv : selecting.Keeps (fun _ _ => true) Inv := by
  intro s e t hs _ hstep
  cases e with
  | poll now config saved a =>
    cases hstep
    exact hs.polled now config saved a
  | networkConfig nwid op =>
    change (if nwid ∈ s.joined then _ else _) = some t at hstep
    split at hstep
    · rename_i hmem
      split at hstep
      · cases hstep
        exact hs
      · cases hstep
        rw [hs.joined] at hmem
        cases hlost : s.lost with
        | true =>
          rw [hlost] at hmem
          simp at hmem
        | false =>
          rw [hlost] at hmem
          have hsame : nwid = s.nwid := by simpa using hmem
          refine ⟨?_⟩
          rw [hs.joined, hlost, hsame]
    · cases hstep

/-! ### The switch in one piece and in steps -/

/-- The two models agree on where the node is. -/
structure Agrees (s : Membership) (p : Port) : Prop where
  nwid : s.nwid = p.nwid
  joined : s.joined = p.joined.toFinset

/-- The steps a switch takes in `Port.step`, by what ZeroTier answers. -/
def switchEvents (nwid : U64) (conf : NetworkConfig) (a : Outcomes) : List Port.Event :=
  if a.leave ≠ ZT_RESULT_OK then [.switchNetwork nwid, .leaveFailed]
  else [.switchNetwork nwid, .destroy conf, .left] ++
    if a.join = ZT_RESULT_OK then [.joinOk]
    else [.joinFailed, if a.restore = ZT_RESULT_OK then .restoreOk else .restoreFailed]

/-- Another network is switched to in these steps, with the same outcome. -/
theorem switch_agrees {s : Membership} {p : Port} (hs : Inv s) (h : Agrees s p) (hpc : p.pc = .running)
    (hlock : p.sending = none) {nwid : U64} (hzero : nwid ≠ 0) (hother : nwid ≠ s.nwid) (conf : NetworkConfig)
    (a : Outcomes) :
    ∃ q, Port.switching.run p (switchEvents nwid conf a) = some q ∧ Agrees (s.switchNetwork nwid a).1 q := by
  obtain ⟨hnwid, hjoined⟩ := h
  have hguard : ¬(nwid = 0 ∨ nwid = s.nwid) := not_or.mpr ⟨hzero, hother⟩
  have hflush : Port.switching.step p (.switchNetwork nwid) =
      some { p with queue := p.queue.clear, pc := .flushed p.nwid nwid } := by
    show p.step (.switchNetwork nwid) = _
    rw [Port.step, hpc, if_neg (fun hne => hne rfl), ← hnwid, if_neg hguard]
  rw [switchNetwork, if_neg hguard, switchEvents]
  by_cases hleave : a.leave = ZT_RESULT_OK
  · have hdestroy : Port.switching.step { p with queue := p.queue.clear, pc := .flushed p.nwid nwid } (.destroy conf) =
        some { p with
          vnet := cbNetworkConfig p.vnet .destroy conf
          queue := p.queue.clear
          lan := none
          joined := none
          pc := .destroyed p.nwid nwid } := by
      show Option.map _ (Port.networkConfig _ p.nwid .destroy conf) = _
      unfold Port.networkConfig
      dsimp only
      rw [if_pos (.inl rfl), hlock]
      rfl
    rw [if_neg (not_not.mpr hleave), if_neg (not_not.mpr hleave)]
    dsimp only
    rw [hs.left, List.cons_append, System.run, hflush, Option.bind_some,
      List.cons_append, System.run, hdestroy,
      Option.bind_some, List.cons_append, List.nil_append]
    by_cases hjoin : a.join = ZT_RESULT_OK
    · rw [if_pos hjoin, if_pos hjoin]
      exact ⟨_, rfl, rfl, by simp⟩
    · rw [if_neg hjoin, if_neg hjoin]
      by_cases hrestore : a.restore = ZT_RESULT_OK
      · rw [if_pos hrestore, if_pos hrestore]
        exact ⟨_, rfl, hnwid, by simp [hnwid]⟩
      · rw [if_neg hrestore, if_neg hrestore]
        exact ⟨_, rfl, hnwid, by simp⟩
  · rw [if_pos hleave, if_pos hleave, System.run, hflush, Option.bind_some]
    exact ⟨_, rfl, hnwid, hjoined⟩

/-! ### What a poll tries -/

/-- The node is on the network, or this poll has tried to join it. -/
def Attempted (s : Membership) (now : Int) (config saved : Option Text) (a : Outcomes) (nwid : U64) : Prop :=
  nwid ∈ (s.poll now config saved a).1.joined ∨ NodeCall.join nwid ∈ (s.poll now config saved a).2

instance (s : Membership) (now : Int) (config saved : Option Text) (a : Outcomes) (nwid : U64) :
    Decidable (Attempted s now config saved a nwid) := inferInstanceAs (Decidable (_ ∨ _))

/-- A poll that is due switches to what it resolves, if that is another network. -/
theorem poll_due {s : Membership} {now : Int} {config saved : Option Text} {requested : U64}
    (hdue : ¬(s.lastNetworkPollMs ≠ 0 ∧ now - s.lastNetworkPollMs < 1000))
    (hresolved : resolveConfiguredNetworkId config saved = some requested) (a : Outcomes) :
    s.poll now config saved a =
      if requested = s.nwid then ({ s with lastNetworkPollMs := now }, [])
      else ((switchNetwork { s with lastNetworkPollMs := now } requested a).1,
        (switchNetwork { s with lastNetworkPollMs := now } requested a).2.2) := by
  rw [poll, pollNetworkSelection, if_neg hdue, hresolved]
  by_cases hsame : requested = s.nwid
  · rw [if_pos hsame, Option.filter_some_neg (by rw [hsame]; simp)]
  · rw [if_neg hsame, Option.filter_some_pos (by simpa using hsame)]

/-- **A selection leads to an attempt to be on it.** Whatever was resolved before and
however ZeroTier answered, a poll that is due leaves the node on the network it resolves or
has tried to join it, unless leaving the present network was refused, which changes
nothing. Nothing is said of the network that `m_nwid` names after a switch and its
restore have both failed. -/
theorem selection_attempted (nwid : U64) (es : List Event) {s : Membership}
    (hrun : selecting.run (initialized nwid) es = some s) (now : Int) (config saved : Option Text) (a : Outcomes)
    {requested : U64} (hdue : ¬(s.lastNetworkPollMs ≠ 0 ∧ now - s.lastNetworkPollMs < 1000))
    (hresolved : resolveConfiguredNetworkId config saved = some requested)
    (hkept : requested = s.nwid → s.lost = false) :
    Attempted s now config saved a requested ∨
      (a.leave ≠ ZT_RESULT_OK ∧ (s.poll now config saved a).2 = [.leave s.nwid] ∧
        (s.poll now config saved a).1.nwid = s.nwid ∧ (s.poll now config saved a).1.joined = s.joined) := by
  have hinv := keeps_inv.run es (initialized_inv nwid) (System.meets_true _ es) hrun
  rw [Attempted, poll_due hdue hresolved]
  by_cases hsame : requested = s.nwid
  · have hjoined := hinv.joined
    rw [hkept hsame] at hjoined
    rw [if_pos hsame]
    refine .inl (.inl ?_)
    show requested ∈ s.joined
    rw [hjoined, hsame]
    simp
  · rw [if_neg hsame, switchNetwork, if_neg (not_or.mpr ⟨resolveConfiguredNetworkId_ne_zero hresolved, hsame⟩)]
    by_cases hleave : a.leave = ZT_RESULT_OK
    · rw [if_neg (not_not.mpr hleave)]
      refine .inl (.inr ?_)
      dsimp only
      split
      · simp
      · split
        · simp
        · simp
    · rw [if_pos hleave]
      exact .inr ⟨hleave, rfl, rfl, rfl⟩

/-- Two networks of one controller, and a `config.ini` for each. -/
def home : U64 := 0x8056C2E21C000001

def away : U64 := 0x8056C2E21C000002

def homeConfig : Option Text := some (ascii "nwid = 8056c2e21c000001")

def awayConfig : Option Text := some (ascii "nwid = 8056c2e21c000002")

/-- Out of memory, the first time. -/
def refused : Int := 100

/-- Away is selected while on the home network, and leaving is refused. Or the join of the
other network and its restore have failed, and home is selected again. -/
theorem selection_unattempted :
    (resolveConfiguredNetworkId awayConfig none = some away ∧
      ¬Attempted (initialized home) 5000 awayConfig none ⟨refused, 0, 0⟩ away) ∧
    ∃ s, selecting.run (initialized home) [.poll 5000 awayConfig none ⟨0, refused, refused⟩] = some s ∧
      resolveConfiguredNetworkId homeConfig none = some home ∧
      ¬(s.lastNetworkPollMs ≠ 0 ∧ 7000 - s.lastNetworkPollMs < 1000) ∧
      ¬Attempted s 7000 homeConfig none ⟨0, 0, 0⟩ home := by
  refine ⟨by decide +kernel, _, rfl, by decide +kernel, by decide +kernel, by decide +kernel⟩

/-- After a switch and its restore have failed, another network is tried. -/
theorem selection_attempted_elsewhere :
    ∃ s, selecting.run (initialized home) [.poll 5000 awayConfig none ⟨0, refused, refused⟩] = some s ∧
      (Attempted s 7000 awayConfig none ⟨0, refused, 0⟩ away ∨
        ((0 : Int) ≠ ZT_RESULT_OK ∧ (s.poll 7000 awayConfig none ⟨0, refused, 0⟩).2 = [.leave s.nwid] ∧
          (s.poll 7000 awayConfig none ⟨0, refused, 0⟩).1.nwid = s.nwid ∧
          (s.poll 7000 awayConfig none ⟨0, refused, 0⟩).1.joined = s.joined)) :=
  ⟨_, rfl, selection_attempted home [.poll 5000 awayConfig none ⟨0, refused, refused⟩] rfl 7000 awayConfig none
    ⟨0, refused, 0⟩ (by decide +kernel) (by decide +kernel) (fun hsame => absurd hsame (by decide +kernel))⟩

end Membership

end SysZerotier.Port
