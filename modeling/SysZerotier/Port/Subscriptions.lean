import SysZerotier.Net.Neighbours
import SysZerotier.Port.Membership

/-! The multicast groups the node asks for (`source/zt_port.cpp`).

ZeroTier hands a member no broadcast it has not subscribed to, and carries a request
for a MAC in the group of the address asked for, so without two groups no neighbour
finds the console. The configuration callback must not subscribe, since it runs under
ZeroTier's own lock; it raises `m_needSubscribe` and the run loop subscribes.

All of this is the node thread's. `joined` and `groups` are ZeroTier's: the network it
is on and the groups of the broadcast MAC it has there, none when a network is joined
anew. What it answers to a subscription is its own affair, and a refusal is logged and
not repeated. A callback made from inside `ZT_Node_join` counts as made right after it. -/
namespace SysZerotier.Port
open Net Library

structure Subscriber where
  nwid : U64
  vnet : VNet
  needSubscribe : Bool
  subscribed : Bool
  joined : Option U64
  groups : List U32

namespace Subscriber

/-- `ZT_Node_multicastSubscribe` for the broadcast MAC, answered `rc`: ZeroTier has the
group then if it agreed. -/
def multicastSubscribe (s : Subscriber) (adi : U32) (rc : Int) : Subscriber :=
  if s.joined = some s.nwid ∧ rc = ZT_RESULT_OK then { s with groups := adi :: s.groups } else s

/-- `subscribeBroadcast`, with ZeroTier's answer for each group. -/
def subscribeBroadcast (s : Subscriber) (rc : U32 → Int) : Subscriber :=
  if s.nwid = 0 then s
  else
    let ip := s.vnet.ip
    let s := s.multicastSubscribe 0 (rc 0)
    let s := if ip = 0 then s else s.multicastSubscribe ip (rc ip)
    { s with subscribed := s.subscribed || ip != 0 }

/-- `cbNetworkConfig` for the network ZeroTier is on. -/
def networkConfig (s : Subscriber) (nwid : U64) (op : ConfigOperation) (conf : NetworkConfig) : Subscriber :=
  let v := cbNetworkConfig s.vnet op conf
  if op = .destroy ∨ op = .down then { s with vnet := v }
  else { s with vnet := v, nwid := nwid, needSubscribe := true }

/-- `switchNetwork`. The leave calls back with `DESTROY`. -/
def switchNetwork (s : Subscriber) (nwid : U64) (a : Outcomes) : Subscriber :=
  if nwid = 0 ∨ nwid = s.nwid then s
  else
    let s := { s with needSubscribe := false, subscribed := false }
    if a.leave ≠ ZT_RESULT_OK then s
    else
      let left := { s with vnet := s.vnet.reset.setEmit, joined := none, groups := [] }
      if a.join = ZT_RESULT_OK then { left with nwid := nwid, joined := some nwid }
      else if a.restore = ZT_RESULT_OK then { left with joined := some s.nwid }
      else left

inductive Happens where
  /-- ZeroTier calls back for the network it is on. -/
  | networkConfig (op : ConfigOperation) (conf : NetworkConfig)
  /-- The run loop gets to its check of `m_needSubscribe`. -/
  | loop (rc : U32 → Int)
  | switchNetwork (nwid : U64) (a : Outcomes)
  /-- The interface is used, by either side. -/
  | vnet (op : VNet.Op)

def step (s : Subscriber) : Happens → Option Subscriber
  | .networkConfig op conf => s.joined.map fun nwid => s.networkConfig nwid op conf
  | .loop rc => some (if s.needSubscribe then { s with needSubscribe := false }.subscribeBroadcast rc else s)
  | .switchNetwork nwid a => some (s.switchNetwork nwid a)
  | .vnet .reset => none
  | .vnet (.configure ..) => none
  | .vnet op => some { s with vnet := (s.vnet.exec op).1 }

def subscribing : System Subscriber Happens := ⟨step⟩

/-- After `Initialize`, whose join has succeeded. -/
def initialized (v : VNet) (nwid : U64) (rc : U32 → Int) : Subscriber :=
  { nwid := nwid, vnet := v.reset.setEmit, needSubscribe := false, subscribed := false, joined := some nwid,
    groups := [] : Subscriber }.subscribeBroadcast rc

/-- Broadcasts reach the console, and requests for the MAC of its address do. -/
def Found (s : Subscriber) : Prop := 0 ∈ s.groups ∧ s.vnet.ip ∈ 0 :: s.groups

/-- An interface with an address is found, or the run loop will see to it. -/
structure Inv (s : Subscriber) : Prop where
  named : s.nwid ≠ 0
  joined : s.joined ≠ none → s.joined = some s.nwid
  configured : s.vnet.configured = true → s.joined ≠ none ∧ (s.needSubscribe = true ∨ Found s)

/-- ZeroTier agrees to the subscriptions of a pass that are asked for with an address. -/
def agreed (s : Subscriber) (rc : U32 → Int) : Bool :=
  !s.needSubscribe || !s.vnet.configured || rc 0 == ZT_RESULT_OK && rc s.vnet.ip == ZT_RESULT_OK

/-- A leave that fails finds no subscription outstanding, and no subscription is refused. -/
def keepsRequests (s : Subscriber) : Happens → Bool
  | .switchNetwork nwid a => nwid == 0 || nwid == s.nwid || a.leave == ZT_RESULT_OK || !s.needSubscribe
  | .loop rc => s.agreed rc
  | _ => true

/-- Subscribing changes the groups only, and the mark that it was logged. -/
theorem subscribeBroadcast_frame (s : Subscriber) (rc : U32 → Int) :
    ∃ groups b, s.subscribeBroadcast rc = { s with groups := groups, subscribed := b } := by
  unfold subscribeBroadcast multicastSubscribe
  split
  · exact ⟨_, _, rfl⟩
  · dsimp only
    split_ifs <;> exact ⟨_, _, rfl⟩

theorem subscribeBroadcast_found {s : Subscriber} {rc : U32 → Int} (h : s.joined = some s.nwid) (hn : s.nwid ≠ 0)
    (hall : rc 0 = ZT_RESULT_OK) (harp : rc s.vnet.ip = ZT_RESULT_OK) : Found (s.subscribeBroadcast rc) := by
  unfold subscribeBroadcast multicastSubscribe
  rw [if_neg hn, if_pos ⟨h, hall⟩]
  dsimp only
  by_cases hip : s.vnet.ip = 0
  · rw [if_pos hip]
    exact ⟨List.mem_cons_self, by rw [hip]; exact List.mem_cons_self⟩
  · rw [if_neg hip, if_pos ⟨h, harp⟩]
    exact ⟨List.mem_cons_of_mem _ List.mem_cons_self, List.mem_cons_of_mem _ List.mem_cons_self⟩

theorem initialized_inv (v : VNet) {nwid : U64} (hn : nwid ≠ 0) (rc : U32 → Int) :
    Inv (initialized v nwid rc) := by
  unfold initialized
  obtain ⟨groups, b, heq⟩ := subscribeBroadcast_frame ⟨nwid, v.reset.setEmit, false, false, some nwid, []⟩ rc
  rw [heq]
  exact ⟨hn, fun _ => rfl, fun h => by cases h⟩

/-! ### One step -/

theorem Inv.networkConfig {s : Subscriber} (h : Inv s) {nwid : U64} (hj : s.joined = some nwid)
    (op : ConfigOperation) (conf : NetworkConfig) : Inv (s.networkConfig nwid op conf) := by
  have hsame := h.joined (by simp [hj])
  obtain rfl : nwid = s.nwid := Option.some.inj (hj.symm.trans hsame)
  unfold Subscriber.networkConfig
  dsimp only
  split
  · rename_i hdown
    refine ⟨h.named, h.joined, fun hc => ?_⟩
    rw [show cbNetworkConfig s.vnet op conf = s.vnet.reset.setEmit from if_pos hdown] at hc
    cases hc
  · exact ⟨h.named, fun _ => hsame, fun _ => ⟨by simp [hj], .inl rfl⟩⟩

theorem Inv.loop {s : Subscriber} (h : Inv s) {rc : U32 → Int} (hk : keepsRequests s (.loop rc) = true) :
    Inv (if s.needSubscribe then { s with needSubscribe := false }.subscribeBroadcast rc else s) := by
  split
  · rename_i hneed
    obtain ⟨groups, b, heq⟩ := subscribeBroadcast_frame { s with needSubscribe := false } rc
    refine ⟨by rw [heq]; exact h.named, by rw [heq]; exact h.joined, fun hc => ?_⟩
    rw [heq] at hc
    have hjoined := (h.configured hc).1
    have hconf : s.vnet.configured = true := hc
    obtain ⟨hall, harp⟩ : rc 0 = ZT_RESULT_OK ∧ rc s.vnet.ip = ZT_RESULT_OK := by
      simpa [keepsRequests, agreed, hneed, hconf] using hk
    refine ⟨by rw [heq]; exact hjoined, .inr ?_⟩
    exact subscribeBroadcast_found (s := { s with needSubscribe := false }) (h.joined hjoined) h.named hall harp
  · exact h

theorem Inv.switchNetwork {s : Subscriber} (h : Inv s) {nwid : U64} {a : Outcomes}
    (hk : keepsRequests s (.switchNetwork nwid a) = true) : Inv (s.switchNetwork nwid a) := by
  unfold Subscriber.switchNetwork
  split
  · exact h
  · rename_i hnew
    obtain ⟨hzero, hother⟩ := not_or.mp hnew
    dsimp only
    split
    · rename_i hfailed
      refine ⟨h.named, h.joined, fun hc => ?_⟩
      obtain ⟨hjoined, hfound⟩ := h.configured hc
      have hidle : s.needSubscribe = false := by
        rw [keepsRequests, beq_eq_false_iff_ne.mpr hzero, beq_eq_false_iff_ne.mpr hother,
          beq_eq_false_iff_ne.mpr hfailed] at hk
        simpa using hk
      exact ⟨hjoined, .inr (hfound.resolve_left (by simp [hidle]))⟩
    · split
      · exact ⟨hzero, fun _ => rfl, fun hc => by cases hc⟩
      · split
        · exact ⟨h.named, fun _ => rfl, fun hc => by cases hc⟩
        · exact ⟨h.named, fun hj => absurd rfl hj, fun hc => by cases hc⟩

/-- The interface keeps its address while it is used. -/
theorem vnet_same {s t : Subscriber} {op : VNet.Op} (h : step s (.vnet op) = some t) :
    ∃ v, t = { s with vnet := v } ∧ v.configured = s.vnet.configured ∧ v.ip = s.vnet.ip := by
  cases op with
  | reset => cases h
  | configure mac ip netmask mtu => cases h
  | onFrame srcMac dstMac etherType payload =>
    refine ⟨_, (Option.some.inj h).symm, ?_⟩
    show (s.vnet.onFrame srcMac dstMac etherType payload).1.configured = _ ∧
      (s.vnet.onFrame srcMac dstMac etherType payload).1.ip = _
    rcases VNet.onFrame_host s.vnet srcMac dstMac etherType payload with hsame | ⟨ip, mac, -, hsame⟩
    · exact ⟨hsame.configured, hsame.ip⟩
    · rw [hsame.configured, hsame.ip, (VNet.learnMac_hears s.vnet ip mac).eq]
      exact ⟨rfl, rfl⟩
  | _ =>
    refine ⟨_, (Option.some.inj h).symm, (VNet.exec_sameHost s.vnet ?_ ?_ ?_).configured,
      (VNet.exec_sameHost s.vnet ?_ ?_ ?_).ip⟩
    all_goals
      intros
      intro hop
      cases hop

theorem keeps_inv : subscribing.Keeps keepsRequests Inv := by
  intro s e t h hk hs
  cases e with
  | networkConfig op conf =>
    obtain ⟨nwid, hj, rfl⟩ := Option.map_eq_some_iff.mp hs
    exact h.networkConfig hj op conf
  | loop rc =>
    cases hs
    exact h.loop hk
  | switchNetwork nwid a =>
    cases hs
    exact h.switchNetwork hk
  | vnet op =>
    obtain ⟨v, rfl, hconf, hip⟩ := vnet_same hs
    refine ⟨h.named, h.joined, fun hc => ?_⟩
    obtain ⟨hjoined, hfound⟩ := h.configured (hconf.symm.trans hc)
    refine ⟨hjoined, hfound.imp_right fun hf => ⟨hf.1, ?_⟩⟩
    rw [hip]
    exact hf.2

/-- **A console with an address is found by its neighbours, or will be once the run
loop gets round: over every run in which no failing leave drops a request and ZeroTier
agrees to every subscription.** -/
theorem found_by_loop (v : VNet) (nwid : U64) (hn : nwid ≠ 0) (rc : U32 → Int) (es : List Happens) (t : Subscriber)
    (hm : subscribing.meets keepsRequests (initialized v nwid rc) es = true)
    (hr : subscribing.run (initialized v nwid rc) es = some t) :
    (t.vnet.configured = true → t.needSubscribe = true ∨ Found t) ∧
      ∀ answers u, t.agreed answers = true → subscribing.step t (.loop answers) = some u →
        u.vnet.configured = true → Found u ∧ u.needSubscribe = false := by
  have hinv := keeps_inv.run es (initialized_inv v hn rc) hm hr
  refine ⟨fun hc => (hinv.configured hc).2, fun answers u hagreed hu hc => ?_⟩
  have hloop := keeps_inv t (.loop answers) u hinv hagreed hu
  have hidle : u.needSubscribe = false := by
    rw [← Option.some.inj hu]
    split
    · obtain ⟨groups, b, heq⟩ := subscribeBroadcast_frame { t with needSubscribe := false } answers
      rw [heq]
    · rename_i h
      simpa using h
  exact ⟨(hloop.configured hc).2.resolve_left (by simp [hidle]), hidle⟩

/-- 10.147.17.243/24. -/
def granted : NetworkConfig := ⟨0x020000000001, 2800, [⟨true, 0x0A9311F3, 24⟩]⟩

/-- The address is granted, and the console moves to another network and is granted it
there too: the next pass subscribes. -/
theorem found_by_loop_moved :
    ∃ t u, subscribing.run (initialized .fresh 5 fun _ => 0)
        [.networkConfig .up granted, .loop fun _ => 0, .switchNetwork 6 ⟨0, 0, 0⟩, .networkConfig .up granted] =
          some t ∧ t.needSubscribe = true ∧ subscribing.step t (.loop fun _ => 0) = some u ∧ Found u :=
  ⟨_, _, rfl, rfl, rfl, ((found_by_loop .fresh 5 (by decide) (fun _ => 0)
    [.networkConfig .up granted, .loop fun _ => 0, .switchNetwork 6 ⟨0, 0, 0⟩, .networkConfig .up granted] _ rfl
    rfl).2 (fun _ => 0) _ rfl rfl rfl).1⟩

end Subscriber

end SysZerotier.Port
