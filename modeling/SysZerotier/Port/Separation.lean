import SysZerotier.Port.Switch
import SysZerotier.Net.Fragment

/-! Which network a frame is sent on.

`Inv` says what holds at each point of a switch: the interface is configured for
the current network or not at all, it emits nothing while it is not configured,
and the frames in the queue belong to the current network or, between storing the
new id and the return of the join, to the old one. A run in which the queue is
empty whenever a join succeeds keeps it (`separated`). Storing a frame between the
flush and the `DESTROY` callback is what breaks it (`old_frame_on_new_network`),
and without that the queue is empty (`quiet_joinsEmpty`). -/
namespace SysZerotier.Port
open Net Library

/-! ### The interface -/

theorem SendCall.exec_configured (v : VNet) (c : SendCall) : (c.exec v).1.configured = v.configured := by
  have hsend : ∀ vfd dstIp port data len,
      (mirrorTo v vfd dstIp port data len).1.configured = v.configured :=
    fun vfd dstIp port data len => (VNet.udpSendTo_still v vfd dstIp port data _).configured
  cases c with
  | mirrorLanDatagram vfd dstIp port data =>
    simp only [SendCall.exec, Port.mirrorLanDatagram]
    split
    · rfl
    · split
      · rfl
      · exact hsend ..
  | mirrorLanBroadcast vfd port data =>
    simp only [SendCall.exec, Port.mirrorLanBroadcast]
    split
    · rfl
    · exact hsend ..

theorem LanCall.exec_configured (v : VNet) (c : LanCall) : (c.exec v).1.configured = v.configured := by
  cases c with
  | openSocket =>
    show (openLanSocket v).1.configured = _
    unfold openLanSocket
    split
    · exact (VNet.udpOpen_still v).configured
    · rfl
  | bindSocket vfd port =>
    show (bindLanSocket v vfd port).1.configured = _
    unfold bindLanSocket
    split
    · rfl
    · exact (VNet.udpBind_still v vfd 0 port).configured
  | send c => exact SendCall.exec_configured v c
  | receive vfd max peek => exact (VNet.udpRecvFrom_still v vfd max peek).configured
  | closeSocket vfd => exact (VNet.udpClose_still v vfd).configured

/-- An interface without a configuration emits nothing. -/
theorem LanCall.exec_silent {v : VNet} (h : v.configured = false) (c : LanCall) : (c.exec v).2 = [] := by
  cases c with
  | send c =>
    refine SendCall.frames_of_refused v c ?_
    cases c with
    | mirrorLanDatagram vfd dstIp port data => simp [SendCall.exec, Port.mirrorLanDatagram, h]
    | mirrorLanBroadcast vfd port data => simp [SendCall.exec, Port.mirrorLanBroadcast, h]
  | _ => rfl

theorem onFrame_configured (v : VNet) (srcMac dstMac : U64) (etherType : U16) (payload : List U8) :
    (v.onFrame srcMac dstMac etherType payload).1.configured = v.configured := by
  obtain ⟨t, hears, still⟩ := VNet.onFrame_effect v srcMac dstMac etherType payload
  exact still.configured.trans hears.configured

theorem onFrame_silent {v : VNet} (h : v.configured = false) (srcMac dstMac : U64) (etherType : U16)
    (payload : List U8) : (v.onFrame srcMac dstMac etherType payload).2 = [] := by
  unfold VNet.onFrame
  dsimp only
  rw [if_pos (by show (!v.configured || payload.isEmpty) = true; rw [h]; rfl)]

theorem sendEchoRequest_silent {v : VNet} (h : v.configured = false) (dstIp : U32) :
    (v.sendEchoRequest dstIp).2.1 = [] := by
  unfold VNet.sendEchoRequest
  rw [h]
  rfl

/-! ### The invariant -/

/-- The network the frames in the queue belong to. -/
def home (s : Port) : U64 :=
  match s.pc with
  | .joining oldNwid _ => oldNwid
  | _ => s.nwid

/-- What each point of a switch knows. -/
def AtPc (s : Port) : Prop :=
  match s.pc with
  | .running => True
  | .draining _ => True
  | .flushed oldNwid _ => oldNwid = s.nwid
  | .destroyed oldNwid _ => oldNwid = s.nwid ∧ s.lan = none ∧ s.joined = none
  | .joining _ nwid => nwid = s.nwid ∧ s.lan = none ∧ s.joined = none
  | .restoring oldNwid => oldNwid = s.nwid ∧ s.lan = none ∧ s.joined = none

structure Inv (s : Port) : Prop where
  atPc : AtPc s
  queued : ∀ f ∈ s.queue.contents, f.lan = some s.home
  lan : ∀ n, s.lan = some n → n = s.nwid
  joined : ∀ n, s.joined = some n → n = s.nwid
  configured : s.vnet.configured = s.lan.isSome
  silent : s.lan = none → ∀ l, s.sending = some l → l = []
  passed : Separated s

theorem home_of_settled {s : Port} (h : s.pc.settled = true) : s.home = s.nwid := by
  unfold home
  split
  · rename_i hpc
    rw [hpc] at h
    cases h
  · rfl

/-- While the interface is configured, what it emits belongs to the queue's network. -/
theorem Inv.lan_home {s : Port} (h : Inv s) (hl : s.lan ≠ none) : s.lan = some s.home := by
  obtain ⟨n, hn⟩ := Option.ne_none_iff_exists'.mp hl
  have hnwid := h.lan n hn
  unfold home
  split
  · rename_i hpc
    have hat := h.atPc
    unfold AtPc at hat
    rw [hpc] at hat
    exact absurd hat.2.1 hl
  · rw [hn, hnwid]

theorem Inv.cbEmit {s : Port} (h : Inv s) (hl : s.lan ≠ none) (f : Frame) : Inv (s.cbEmit f) := by
  unfold Port.cbEmit
  split
  · exact h
  · refine ⟨h.atPc, fun g hg => ?_, h.lan, h.joined, h.configured, h.silent, h.passed⟩
    rw [Ring.contents_push] at hg
    split at hg
    · exact h.queued g hg
    · rcases List.mem_append.mp hg with hg | hg
      · exact h.queued g hg
      · rw [List.mem_singleton.mp hg]
        exact h.lan_home hl

theorem cbEmit_lan (s : Port) (f : Frame) : (s.cbEmit f).lan = s.lan := by
  unfold Port.cbEmit
  split <;> rfl

theorem Inv.emitAll {s : Port} (h : Inv s) (frames : List Frame) (hl : s.lan = none → frames = []) :
    Inv (frames.foldl Port.cbEmit s) := by
  induction frames generalizing s with
  | nil => exact h
  | cons f frames ih =>
    have hne : s.lan ≠ none := fun h0 => List.cons_ne_nil f frames (hl h0)
    exact ih (h.cbEmit hne f) fun h0 => absurd ((cbEmit_lan s f).symm.trans h0) hne

theorem Inv.nodeCall {s : Port} (h : Inv s) {r : VNet × List Frame}
    (hc : r.1.configured = s.vnet.configured) (hr : s.vnet.configured = false → r.2 = []) :
    Inv (s.nodeCall r) := by
  have hv : Inv { s with vnet := r.1 } :=
    ⟨h.atPc, h.queued, h.lan, h.joined, hc.trans h.configured, h.silent, h.passed⟩
  refine hv.emitAll r.2 fun h0 => hr ?_
  rw [h.configured]
  exact Option.isSome_eq_false_iff.mpr (Option.isNone_iff_eq_none.mpr h0)

/-- The callback for the joined network configures the interface for it or takes its
configuration away. -/
theorem Inv.networkConfig {s t : Port} (h : Inv s) (hpc : s.pc = .running) {nwid : U64} {op : ConfigOperation}
    {conf : NetworkConfig} (hj : s.joined = some nwid) (ht : s.networkConfig nwid op conf = some t) :
    Inv t := by
  have hn := h.joined nwid hj
  subst hn
  unfold Port.networkConfig at ht
  dsimp only at ht
  split at ht
  · rename_i hdown
    split at ht
    · cases ht
    · rename_i hfree
      cases ht
      refine ⟨?_, h.queued, by simp, h.joined, ?_, fun _ l hl => ?_, h.passed⟩
      · show AtPc _
        unfold AtPc
        simp only [hpc]
      · unfold cbNetworkConfig
        rw [if_pos hdown]
        rfl
      · rw [show s.sending = some l from hl] at hfree
        exact absurd rfl hfree
  · rename_i hdown
    split at ht
    · rename_i hinet
      split at ht
      · cases ht
      · cases ht
        have hsome : (cbNetworkConfig s.vnet op conf).configured = true := by
          obtain ⟨a, ha, hp⟩ := List.any_eq_true.mp hinet
          unfold cbNetworkConfig
          rw [if_neg hdown]
          cases hfind : conf.assignedAddresses.find? fun a => a.inet with
          | none => exact absurd hp (List.find?_eq_none.mp hfind a ha)
          | some b => rfl
        refine ⟨?_, h.queued, fun n hl => (Option.some.inj hl).symm, h.joined, hsome, by simp, h.passed⟩
        unfold AtPc
        simp only [hpc]
    · cases ht
      exact h

theorem Inv.switchStep {s t : Port} (h : Inv s) (hq : t.queue = s.queue) (hv : t.vnet = s.vnet)
    (hp : t.passed = s.passed) (hsend : t.sending = s.sending) (hl : t.lan = s.lan)
    (hat : AtPc t) (hhome : s.queue.contents = [] ∨ t.home = s.home)
    (hlan : ∀ n, s.lan = some n → n = t.nwid) (hj : ∀ n, t.joined = some n → n = t.nwid) : Inv t := by
  refine ⟨hat, fun f hf => ?_, fun n hn => hlan n (hl ▸ hn), hj, ?_, ?_, ?_⟩
  · rw [hq] at hf
    rcases hhome with hempty | hhome
    · rw [hempty] at hf
      cases hf
    · rw [hhome]
      exact h.queued f hf
  · rw [hv, hl]
    exact h.configured
  · rw [hl, hsend]
    exact h.silent
  · unfold Separated
    rw [hp]
    exact h.passed

/-- The node thread is back in its loop, on the network that the queue belongs to. -/
theorem Inv.settle {s : Port} (h : Inv s) (hhome : s.home = s.nwid) {pc : Pc} (hpc : pc.settled = true) :
    Inv { s with pc := pc } := by
  have hat : AtPc { s with pc := pc } := by
    unfold AtPc
    cases pc with
    | running => trivial
    | draining paused => trivial
    | _ => cases hpc
  have hback : home { s with pc := pc } = s.nwid := home_of_settled hpc
  exact h.switchStep rfl rfl rfl rfl rfl hat (.inr (hback.trans hhome.symm)) h.lan h.joined

/-- `ZT_Node_leave` calls back: the interface loses its configuration, with nobody inside it. -/
theorem Inv.destroy {s t : Port} (h : Inv s) {conf : NetworkConfig} (ht : s.step (.destroy conf) = some t) :
    Inv t := by
  simp only [Port.step] at ht
  split at ht
  · rename_i oldNwid nwid hpc
    have hat := h.atPc
    simp only [AtPc, hpc] at hat
    simp only [Port.networkConfig, true_or, if_true] at ht
    split at ht
    · cases ht
    · rename_i hfree
      cases ht
      have hhome : s.home = s.nwid := by simp only [home, hpc]
      refine ⟨⟨hat, rfl, rfl⟩, fun f hf => ?_, by simp, by simp, rfl, fun _ l hl => ?_, h.passed⟩
      · rw [h.queued f hf, hhome]
        rfl
      · rw [show s.sending = some l from hl] at hfree
        exact absurd rfl hfree
  · cases ht

/-- A frame of the queue is handed over, and the queue is the old one's rest. -/
theorem Inv.drainNext {s t : Port} (h : Inv s) (ht : s.step .drainNext = some t) : Inv t := by
  simp only [Port.step] at ht
  split at ht
  · rename_i paused hpc
    have hhome : s.home = s.nwid := home_of_settled (by rw [hpc]; rfl)
    split at ht
    · cases ht
      exact h.settle hhome rfl
    · rename_i f queue hpop
      have hcontents := Ring.pop_eq_some hpop
      cases ht
      refine ⟨h.atPc, fun g hg => h.queued g ?_, h.lan, h.joined, h.configured, h.silent, ?_⟩
      · rw [hcontents]
        exact List.mem_cons_of_mem f hg
      · have hf : f.lan = some s.nwid := by
          rw [← hhome]
          exact h.queued f (by rw [hcontents]; exact List.mem_cons_self ..)
        intro g hg
        dsimp only at hg
        split at hg
        · exact h.passed g hg
        · rcases List.mem_append.mp hg with hg | hg
          · exact h.passed g hg
          · rw [List.mem_singleton.mp hg]
            exact hf
  · cases ht

theorem step_inv : switching.Keeps joinsEmpty Inv := by
  intro s e t h hcond ht
  replace ht : s.step e = some t := ht
  cases e with
  | call c =>
    simp only [Port.step] at ht
    split at ht
    · cases ht
    · cases ht
      refine ⟨h.atPc, h.queued, h.lan, h.joined, (LanCall.exec_configured s.vnet c).trans h.configured,
        fun h0 l hl => ?_, h.passed⟩
      rw [← Option.some.inj hl]
      refine LanCall.exec_silent ?_ c
      rw [h.configured, show s.lan = none from h0]
      rfl
  | emit =>
    simp only [Port.step] at ht
    split at ht
    · rename_i f rest hsend
      cases ht
      have hne : s.lan ≠ none := fun h0 => List.cons_ne_nil f rest (h.silent h0 _ hsend)
      obtain ⟨hat, hq, hl, hj, hc, -, hp⟩ := h.cbEmit hne f
      exact ⟨hat, hq, hl, hj, hc, fun h0 => absurd ((cbEmit_lan s f).symm.trans h0) hne, hp⟩
    · cases ht
  | unlock =>
    simp only [Port.step] at ht
    split at ht
    · cases ht
      exact ⟨h.atPc, h.queued, h.lan, h.joined, h.configured, fun _ l hl => (by cases hl), h.passed⟩
    · cases ht
  | virtualFrame nwid srcMac dstMac etherType payload =>
    simp only [Port.step] at ht
    split at ht
    · cases ht
    · split at ht
      · cases ht
        exact h
      · split at ht
        · cases ht
        · cases ht
          exact h.nodeCall (onFrame_configured ..) fun h0 => onFrame_silent h0 ..
  | probe dstIp =>
    simp only [Port.step] at ht
    split at ht
    · cases ht
    · cases ht
      exact h.nodeCall (VNet.sendEchoRequest_still s.vnet dstIp).configured fun h0 =>
        sendEchoRequest_silent h0 dstIp
  | networkConfig nwid op conf =>
    simp only [Port.step] at ht
    split at ht
    · rename_i hguard
      exact h.networkConfig hguard.1 hguard.2.1 ht
    · cases ht
  | wire paused =>
    simp only [Port.step] at ht
    split at ht
    · cases ht
      exact ⟨h.atPc, h.queued, h.lan, h.joined, h.configured, h.silent, h.passed⟩
    · cases ht
  | switchNetwork nwid =>
    simp only [Port.step] at ht
    split at ht
    · cases ht
    · split at ht
      · cases ht
        exact h
      · cases ht
        refine ⟨rfl, fun f hf => ?_, h.lan, h.joined, h.configured, h.silent, h.passed⟩
        rw [show s.queue.clear.contents = [] from Ring.contents_clear _] at hf
        cases hf
  | destroy conf => exact h.destroy ht
  | leaveFailed =>
    simp only [Port.step] at ht
    split at ht
    · rename_i hpc
      cases ht
      exact h.settle (by simp only [home, hpc]) rfl
    · cases ht
  | left =>
    simp only [Port.step] at ht
    split at ht
    · rename_i hpc
      cases ht
      have hat := h.atPc
      simp only [AtPc, hpc] at hat
      refine h.switchStep rfl rfl rfl rfl rfl ⟨rfl, hat.2⟩ (.inr ?_) ?_ ?_
      · simp only [home, hpc]
        exact hat.1
      · simp [hat.2.1]
      · simp [hat.2.2]
    · cases ht
  | joinOk =>
    simp only [Port.step] at ht
    split at ht
    · rename_i hpc
      cases ht
      have hat := h.atPc
      simp only [AtPc, hpc] at hat
      refine h.switchStep rfl rfl rfl rfl rfl trivial (.inl ?_) ?_ ?_
      · refine Ring.contents_nil ?_
        simpa [joinsEmpty, hpc, Pc.settled] using hcond
      · simp [hat.2.1]
      · rintro n hn
        rw [← Option.some.inj hn]
        exact hat.1
    · cases ht
  | joinFailed =>
    simp only [Port.step] at ht
    split at ht
    · rename_i hpc
      cases ht
      have hat := h.atPc
      simp only [AtPc, hpc] at hat
      refine h.switchStep rfl rfl rfl rfl rfl ⟨rfl, hat.2⟩ (.inr ?_) ?_ ?_
      · simp only [home, hpc]
      · simp [hat.2.1]
      · simp [hat.2.2]
    · cases ht
  | restoreOk =>
    simp only [Port.step] at ht
    split at ht
    · rename_i hpc
      cases ht
      have hat := h.atPc
      simp only [AtPc, hpc] at hat
      refine h.switchStep rfl rfl rfl rfl rfl trivial (.inr ?_) h.lan ?_
      · simp only [home, hpc]
      · rintro n hn
        rw [← Option.some.inj hn]
        exact hat.1
    · cases ht
  | restoreFailed =>
    simp only [Port.step] at ht
    split at ht
    · rename_i hpc
      cases ht
      exact h.settle (by simp only [home, hpc]) rfl
    · cases ht
  | drain =>
    simp only [Port.step] at ht
    split at ht
    · rename_i hpc
      cases ht
      exact h.settle (by simp only [home, hpc]) rfl
    · cases ht
  | drainNext => exact h.drainNext ht

/-! ### Runs -/

theorem initialized_inv (v : VNet) (nwid : U64) : Inv (initialized v nwid) where
  atPc := trivial
  queued := fun f hf => by rw [Ring.contents_nil rfl] at hf; cases hf
  lan := by simp [initialized]
  joined := fun n hn => (Option.some.inj hn).symm
  configured := rfl
  silent := fun _ l hl => by cases hl
  passed := fun f hf => by cases hf

/-- **Frames stay on their network.** In a run in which the queue is empty whenever
the join of a new network succeeds, every frame handed to ZeroTier with a network id
was emitted while the interface was configured for that network. -/
theorem separated (v : VNet) (nwid : U64) (events : List Event) (t : Port)
    (hmeets : switching.meets joinsEmpty (initialized v nwid) events = true)
    (hrun : switching.run (initialized v nwid) events = some t) : Separated t :=
  (step_inv.run events (initialized_inv v nwid) hmeets hrun).passed

/-- A switch during which nothing is sent: one frame goes out before it, one after. -/
def switchBetweenSends : List Event :=
  let conf : NetworkConfig := ⟨0x020000000001, 1500, [⟨true, 0x0A000001, 24⟩]⟩
  [.networkConfig 1 .up conf, .call .openSocket, .unlock,
    .call (.send (.mirrorLanBroadcast 0 30000 [1, 2, 3])), .emit, .unlock, .drain, .drainNext, .drainNext,
    .switchNetwork 2, .destroy conf, .left, .joinOk, .networkConfig 2 .up conf,
    .call .openSocket, .unlock, .call (.send (.mirrorLanBroadcast 0 30000 [4, 5, 6])), .emit, .unlock,
    .drain, .drainNext, .drainNext]

theorem separated_between_sends :
    ∃ t, switching.run (initialized VNet.fresh 1) switchBetweenSends = some t ∧ Separated t := by
  have hsome : (switching.run (initialized VNet.fresh 1) switchBetweenSends).isSome = true := by
    decide +kernel
  obtain ⟨t, ht⟩ := Option.isSome_iff_exists.mp hsome
  exact ⟨t, ht, separated VNet.fresh 1 switchBetweenSends t (by decide +kernel) ht⟩

/-- A game sends after the flush, before `ZT_Node_leave` calls back. -/
def sendInTheGap : List Event :=
  let conf : NetworkConfig := ⟨0x020000000001, 1500, [⟨true, 0x0A000001, 24⟩]⟩
  [.networkConfig 1 .up conf, .call .openSocket, .unlock,
    .switchNetwork 2, .call (.send (.mirrorLanBroadcast 0 30000 [1, 2, 3])), .emit, .unlock,
    .destroy conf, .left, .joinOk, .drain, .drainNext]

/-- The frame of the old network goes out on the new one. -/
theorem old_frame_on_new_network :
    ¬∀ (v : VNet) (nwid : U64) (events : List Event) (t : Port),
      switching.run (initialized v nwid) events = some t → Separated t := by
  intro hall
  have hbad : (switching.run (initialized VNet.fresh 1) sendInTheGap).any
      (fun t => t.passed.any fun f => f.frame.lan != some f.nwid) = true := by
    decide +kernel
  obtain ⟨t, ht, hf⟩ := (Option.any_eq_true _ _).mp hbad
  obtain ⟨f, hmem, hne⟩ := List.any_eq_true.mp hf
  exact absurd (hall VNet.fresh 1 sendInTheGap t ht f hmem) (by simpa using hne)

/-! ### The gap -/

/-- Inside a switch the queue is empty. -/
def Flushed (s : Port) : Prop := s.pc.settled = false → s.queue.tail = s.queue.head

theorem cbEmit_pc (s : Port) (f : Frame) : (s.cbEmit f).pc = s.pc := by
  obtain ⟨queue, heq⟩ := s.cbEmit_stores f
  rw [heq]

theorem nodeCall_pc (s : Port) (r : VNet × List Frame) : (s.nodeCall r).pc = s.pc := by
  obtain ⟨queue, heq⟩ := s.nodeCall_stores r
  rw [heq]

theorem Flushed.of_settled {s : Port} (h : s.pc.settled = true) : Flushed s := by
  intro h0
  rw [h] at h0
  cases h0

theorem Flushed.joinsEmpty {s : Port} (h : Flushed s) (e : Event) : joinsEmpty s e = true := by
  cases e with
  | joinOk =>
    show (s.pc.settled || s.queue.tail == s.queue.head) = true
    cases hpc : s.pc.settled with
    | true => rfl
    | false => simpa using h hpc
  | _ => rfl

/-- Inside a switch only the gap before the callback lets a frame be stored. -/
theorem Inv.emit_settled {s : Port} (h : Inv s) (hq : quietSwitch s .emit = true) {f : Frame}
    {rest : List Frame} (hsend : s.sending = some (f :: rest)) : s.pc.settled = true := by
  have hne : s.lan ≠ none := fun h0 => List.cons_ne_nil f rest (h.silent h0 _ hsend)
  have hat := h.atPc
  unfold AtPc at hat
  cases hpc : s.pc with
  | running => rfl
  | draining paused => rfl
  | flushed oldNwid nwid => simp [quietSwitch, hpc] at hq
  | destroyed oldNwid nwid =>
    rw [hpc] at hat
    exact absurd hat.2.1 hne
  | joining oldNwid nwid =>
    rw [hpc] at hat
    exact absurd hat.2.1 hne
  | restoring oldNwid =>
    rw [hpc] at hat
    exact absurd hat.2.1 hne

theorem quiet_flushed : switching.Keeps quietSwitch fun s => Inv s ∧ Flushed s := by
  rintro s e t ⟨h, hempty⟩ hcond ht
  refine ⟨step_inv s e t h (hempty.joinsEmpty e) ht, ?_⟩
  replace ht : s.step e = some t := ht
  cases e with
  | emit =>
    simp only [Port.step] at ht
    split at ht
    · rename_i f rest hsend
      cases ht
      refine .of_settled ?_
      show (s.cbEmit f).pc.settled = true
      rw [cbEmit_pc]
      exact h.emit_settled hcond hsend
    · cases ht
  | virtualFrame nwid srcMac dstMac etherType payload =>
    simp only [Port.step] at ht
    split at ht
    · cases ht
    · rename_i hpc
      split at ht
      · cases ht
        exact hempty
      · split at ht
        · cases ht
        · cases ht
          refine .of_settled ?_
          rw [nodeCall_pc]
          simpa using hpc
  | probe dstIp =>
    simp only [Port.step] at ht
    split at ht
    · cases ht
    · rename_i hpc
      cases ht
      refine .of_settled ?_
      rw [nodeCall_pc, not_ne_iff.mp hpc]
      rfl
  | switchNetwork nwid =>
    simp only [Port.step] at ht
    split at ht
    · cases ht
    · split at ht
      · cases ht
        exact hempty
      · cases ht
        exact fun _ => rfl
  | networkConfig nwid op conf =>
    simp only [Port.step, Port.networkConfig] at ht
    split_ifs at ht <;> cases ht <;> exact hempty
  | destroy conf =>
    simp only [Port.step, Port.networkConfig, true_or, if_true] at ht
    split at ht
    · rename_i hpc
      have hq := hempty (by rw [hpc]; rfl)
      split at ht
      · cases ht
      · cases ht
        exact fun _ => hq
    · cases ht
  | left | joinFailed =>
    simp only [Port.step] at ht
    split at ht
    · rename_i hpc
      have hq := hempty (by rw [hpc]; rfl)
      cases ht
      exact fun _ => hq
    · cases ht
  | drainNext =>
    simp only [Port.step] at ht
    split at ht
    · rename_i hpc
      split at ht
      · cases ht
        exact .of_settled rfl
      · cases ht
        exact .of_settled (by rw [hpc]; rfl)
    · cases ht
  | leaveFailed | joinOk | restoreOk | restoreFailed =>
    simp only [Port.step] at ht
    split at ht
    · cases ht
      exact .of_settled rfl
    · cases ht
  | call | unlock | wire =>
    simp only [Port.step] at ht
    split at ht
    · cases ht <;> exact hempty
    · cases ht <;> exact hempty
  | drain =>
    simp only [Port.step] at ht
    split at ht
    · cases ht
      exact .of_settled rfl
    · cases ht

/-- Where nothing is stored between the flush and the callback, joins find the queue empty. -/
theorem quiet_joinsEmpty (v : VNet) (nwid : U64) (events : List Event)
    (h : switching.meets quietSwitch (initialized v nwid) events = true) :
    switching.meets joinsEmpty (initialized v nwid) events = true :=
  quiet_flushed.meets (fun _ e hs _ => hs.2.joinsEmpty e) events ⟨initialized_inv v nwid, fun _ => rfl⟩ h

end SysZerotier.Port
