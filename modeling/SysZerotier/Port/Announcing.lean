import SysZerotier.Library.Pacing
import SysZerotier.Net.Announcement

/-! First contact from the console's side (`Port::probePeer` in `source/zt_port.cpp`).

While the wire is up and the network has given an address, the port pings the broadcast
address every five seconds, and one more address if `config.ini` names one. `announcements`
follows this over a session; what becomes of a ping is `introduced`. -/
namespace SysZerotier.Port
open Net Library

/-- What a pass finds: the wire, the interface, the `probe` of `config.ini` and the time. -/
structure Look where
  wireFd : U32
  wireRecovering : Bool
  vnet : VNet
  config : U32
  now : Int

/-- Whether a pass could announce. -/
def Look.able (x : Look) : Bool := !(decide (x.wireFd.toInt < 0) || x.wireRecovering) && x.vnet.configured

/-- `m_probeRead`, `m_probeIp` and `m_lastProbeMs` -/
structure Prober where
  probeRead : Bool
  probeIp : U32
  lastProbeMs : Int

namespace Prober

def start : Prober := ⟨false, 0, 0⟩

/-- The first pass that is able reads `config.ini`, once. -/
def read (s : Prober) (x : Look) : Prober :=
  if s.probeRead then s else { s with probeRead := true, probeIp := x.config }

/-- The interface that a pass leaves, and the frames it sends. -/
def probePeer (s : Prober) (x : Look) : Prober × VNet × List Frame :=
  if x.wireFd.toInt < 0 ∨ x.wireRecovering = true then (s, x.vnet, [])
  else if !x.vnet.configured then (s, x.vnet, [])
  else
    let s := s.read x
    if s.lastProbeMs ≠ 0 ∧ x.now - s.lastProbeMs < 5000 then (s, x.vnet, [])
    else
      let s := { s with lastProbeMs := x.now }
      let sent := x.vnet.sendEchoRequest x.vnet.broadcastIp
      if s.probeIp ≠ 0 then
        let more := sent.1.sendEchoRequest s.probeIp
        (s, more.1, sent.2.1 ++ more.2.1)
      else (s, sent.1, sent.2.1)

/-- The frames of the passes of a session. -/
def frames (s : Prober) : List Look → List Frame
  | [] => []
  | x :: xs => (s.probePeer x).2.2 ++ frames (s.probePeer x).1 xs

/-! ### One pass -/

/-- The pings of a pass. -/
def announcement (target : U32) (x : Look) : List Frame :=
  let sent := x.vnet.sendEchoRequest x.vnet.broadcastIp
  sent.2.1 ++ if target ≠ 0 then (sent.1.sendEchoRequest target).2.1 else []

theorem probePeer_unable {x : Look} (h : x.able = false) (s : Prober) : s.probePeer x = (s, x.vnet, []) := by
  rw [probePeer]
  split
  · rfl
  · rename_i hup
    have hdown : (!x.vnet.configured) = true := by
      rw [not_or, Bool.not_eq_true] at hup
      rw [Look.able, decide_eq_false hup.1, hup.2] at h
      simpa using h
    rw [if_pos hdown]

theorem probePeer_able {x : Look} (h : x.able = true) (s : Prober) :
    (s.probePeer x).1 = (if s.lastProbeMs ≠ 0 ∧ x.now - s.lastProbeMs < 5000 then s.read x
        else { s.read x with lastProbeMs := x.now }) ∧
      (s.probePeer x).2.2 = if s.lastProbeMs ≠ 0 ∧ x.now - s.lastProbeMs < 5000 then []
        else announcement (s.read x).probeIp x := by
  rw [Look.able, Bool.and_eq_true, Bool.not_eq_true', Bool.or_eq_false_iff, decide_eq_false_iff_not] at h
  obtain ⟨⟨hfd, hrecovering⟩, hconf⟩ := h
  have hup : ¬(x.wireFd.toInt < 0 ∨ x.wireRecovering = true) := by
    rw [not_or, hrecovering]
    exact ⟨hfd, Bool.false_ne_true⟩
  have hready : ¬(!x.vnet.configured) = true := by
    rw [hconf]
    decide
  have hlast : (s.read x).lastProbeMs = s.lastProbeMs := by
    rw [read]
    split <;> rfl
  rw [probePeer, if_neg hup, if_neg hready]
  dsimp only
  rw [hlast]
  split
  · exact ⟨rfl, rfl⟩
  · split
    · rename_i htarget
      exact ⟨rfl, by rw [announcement, if_pos htarget]⟩
    · rename_i hnone
      exact ⟨rfl, by rw [announcement, if_neg hnone, List.append_nil]⟩

/-! ### Every session -/

/-- The address a session announces to besides, from the first pass that is able. -/
def target (xs : List Look) : U32 := ((xs.find? Look.able).map Look.config).getD 0

/-- The passes of a session that announce. -/
def announcing (last : Int) (xs : List Look) : List Look :=
  paced Look.now (fun _ => 5000) last (xs.filter Look.able)

theorem frames_read {s : Prober} (h : s.probeRead = true) (xs : List Look) :
    s.frames xs = (announcing s.lastProbeMs xs).flatMap (announcement s.probeIp) := by
  induction xs generalizing s with
  | nil => rfl
  | cons x xs ih =>
    rw [frames, announcing]
    cases hx : x.able with
    | false =>
      rw [probePeer_unable hx, List.filter_cons_of_neg (by simp [hx])]
      exact ih h
    | true =>
      obtain ⟨hnext, hframes⟩ := probePeer_able hx s
      have hread : s.read x = s := by rw [read, if_pos h]
      rw [hread] at hnext hframes
      rw [hnext, hframes, List.filter_cons_of_pos hx, paced]
      split
      · exact ih h
      · have hrest := @ih { s with lastProbeMs := x.now } h
        rw [List.flatMap_cons]
        exact congrArg (announcement s.probeIp x ++ ·) hrest

theorem frames_start (xs : List Look) :
    start.frames xs = (announcing 0 xs).flatMap (announcement (target xs)) := by
  induction xs with
  | nil => rfl
  | cons x xs ih =>
    cases hx : x.able with
    | false =>
      rw [frames, probePeer_unable hx, announcing, List.filter_cons_of_neg (by simp [hx]), target,
        List.find?_cons_of_neg (by simp [hx])]
      exact ih
    | true =>
      obtain ⟨hnext, hframes⟩ := probePeer_able hx start
      have hfirst : ¬((0 : Int) ≠ 0 ∧ x.now - 0 < 5000) := fun h => h.1 rfl
      have htarget : target (x :: xs) = x.config := by
        rw [target, List.find?_cons_of_pos hx]
        rfl
      rw [show start.lastProbeMs = 0 from rfl, if_neg hfirst] at hnext hframes
      have hrest := frames_read (s := { start.read x with lastProbeMs := x.now }) rfl xs
      rw [frames, hnext, hframes, htarget, announcing, List.filter_cons_of_pos hx, paced, if_neg hfirst,
        List.flatMap_cons]
      exact congrArg (announcement x.config x ++ ·) hrest

/-- **The console announces itself**, every five seconds for as long as it can: the frames
of a session are the pings of the passes that are due, to the broadcast address and to the
address that `config.ini` named at the first of them. Each reaches everybody; two are five
seconds apart, and no pass that is able leaves the last one older. At a clock of zero, which
stands for no ping yet, every pass that is able pings. -/
theorem announcements (xs : List Look) :
    start.frames xs = (announcing 0 xs).flatMap (announcement (target xs)) ∧
      ((announcing 0 xs).IsChain fun a b => a.now = 0 ∨ a.now + 5000 ≤ b.now) ∧
      (∀ x, x.able = true → ∃ y, (announcing 0 (xs ++ [x])).getLast? = some y ∧ x.now - y.now < 5000) ∧
      ∀ x ∈ announcing 0 xs, VNet.Station x.vnet → VNet.AcceptedMtu x.vnet.mtu →
        ∃ ping rest, announcement (target xs) x = ping :: rest ∧ ping.dstMac = MacBroadcast := by
  refine ⟨frames_start xs, paced_chain Look.now (fun _ => 5000) _, fun x hx => ?_, fun x hx hs hmtu => ?_⟩
  · have hable : (xs ++ [x]).filter Look.able = xs.filter Look.able ++ [x] := by
      rw [List.filter_append, List.filter_cons_of_pos hx, List.filter_nil]
    rw [announcing, hable]
    exact paced_fresh Look.now (fun _ => 5000) _ (by decide)
  · obtain ⟨id, pkt, hping, -⟩ := VNet.ping_frame hs hmtu
    rw [announcement, hping]
    exact ⟨_, _, rfl, rfl⟩

end Prober

end SysZerotier.Port
