import SysZerotier.Port.Switch

/-! The outbound frame queue as it lies in memory (`source/zt_port.cpp`).

Any thread may call `cbEmit`; `drainOutbound` runs on the node thread and gives the lock
back between two frames. A step is what happens under one acquisition of `g_frameLock`,
or between two. The slots, `g_head` and `g_tail` behave as a ring of frames
(`ring_cbEmit`, `ring_takeFrame`), so what is drained is what was accepted, in that order
(`drains_accepted`).

`accepted`, and a drain's record of what it took, are not in the source; nothing reads
them. -/
namespace SysZerotier.Port.Outbound
open Net Library

/-- A slot. Behind `len` bytes `data` holds what earlier frames left. -/
structure QueuedFrame where
  dstMac : U64
  etherType : U16
  len : Nat
  data : Mem

def QueuedFrame.frame (q : QueuedFrame) : Frame := ⟨q.dstMac, q.etherType, q.data.bytes q.len⟩

/-- `g_frames`, `g_head` and `g_tail`. -/
structure FrameQueue where
  frames : Nat → QueuedFrame
  head : Nat
  tail : Nat

/-- One call of `ZT_Node_processVirtualNetworkFrame`. -/
structure PassedFrame where
  nwid : U64
  srcMac : U64
  frame : Frame

/-- A run of `drainOutbound`: the value of `paused`, what was taken and what was passed on. -/
structure Drain where
  paused : Bool
  taken : List Frame
  passed : List PassedFrame

inductive Pc where
  | running
  | draining (d : Drain)
  /-- A frame is taken, the lock given back. -/
  | passing (d : Drain) (f : QueuedFrame)

structure State where
  queue : FrameQueue
  nwid : U64
  localMac : U64
  /-- `m_wireFd < 0 || m_wireRecovering`. -/
  paused : Bool
  pc : Pc
  accepted : List Frame
  drains : List Drain

namespace FrameQueue

/-- The frame in the slot at `g_head`. -/
def store (q : FrameQueue) (dstMac : U64) (etherType : U16) (payload : Mem) (len : Nat) : FrameQueue :=
  let slot : QueuedFrame := ⟨dstMac, etherType, len, memcpy (q.frames q.head).data 0 payload len⟩
  { q with frames := Function.update q.frames q.head slot, head := (q.head + 1) % FrameQueueDepth }

/-- `cbEmit`, and whether the frame was stored. -/
def cbEmit (q : FrameQueue) (dstMac : U64) (etherType : U16) (payload : Mem) (len : Nat) : FrameQueue × Bool :=
  if MaxFrame < len then (q, false)
  else if (q.head + 1) % FrameQueueDepth = q.tail then (q, false)
  else (q.store dstMac etherType payload len, true)

/-- The block of `drainOutbound` under the lock. -/
def takeFrame (q : FrameQueue) : Option (QueuedFrame × FrameQueue) :=
  if q.tail = q.head then none
  else some (q.frames q.tail, { q with tail := (q.tail + 1) % FrameQueueDepth })

end FrameQueue

inductive Event where
  /-- Some thread calls `cbEmit`. -/
  | cbEmit (dstMac : U64) (etherType : U16) (payload : Mem) (len : Nat)
  | wire (paused : Bool)
  | configured (localMac : U64)
  | drain
  | drainNext
  | pass

def initial (nwid localMac : U64) (paused : Bool) : State where
  queue := ⟨fun _ => ⟨0, 0, 0, Mem.zero⟩, 0, 0⟩
  nwid := nwid
  localMac := localMac
  paused := paused
  pc := .running
  accepted := []
  drains := []

def step (s : State) : Event → Option State
  | .cbEmit dstMac etherType payload len =>
    let stored := s.queue.cbEmit dstMac etherType payload len
    some { s with
      queue := stored.1
      accepted := if stored.2 then s.accepted ++ [⟨dstMac, etherType, payload.bytes len⟩] else s.accepted }
  | .wire paused => some { s with paused := paused }
  | .configured localMac => some { s with localMac := localMac }
  | .drain =>
    match s.pc with
    | .running => some { s with pc := .draining ⟨s.paused, [], []⟩ }
    | _ => none
  | .drainNext =>
    match s.pc with
    | .draining d =>
      match s.queue.takeFrame with
      | none => some { s with pc := .running, drains := s.drains ++ [d] }
      | some (f, queue) =>
        let d := { d with taken := d.taken ++ [f.frame] }
        some { s with queue := queue, pc := if d.paused then .draining d else .passing d f }
    | _ => none
  | .pass =>
    match s.pc with
    | .passing d f =>
      some { s with pc := .draining { d with passed := d.passed ++ [⟨s.nwid, s.localMac, f.frame⟩] } }
    | _ => none

def draining : System State Event := ⟨step⟩

/-! ### The slots as a ring -/

namespace FrameQueue

/-- The indices are in range. -/
structure Bounded (q : FrameQueue) : Prop where
  head : q.head < FrameQueueDepth
  tail : q.tail < FrameQueueDepth

def ring (q : FrameQueue) : Ring Frame FrameQueueDepth where
  slots i := (q.frames i).frame
  head := Fin.ofNat FrameQueueDepth q.head
  tail := Fin.ofNat FrameQueueDepth q.tail

/-- The frames that wait, oldest first. -/
def queued (q : FrameQueue) : List Frame := q.ring.contents

theorem ofNat_succ (i : Nat) :
    Fin.ofNat FrameQueueDepth ((i + 1) % FrameQueueDepth) = Fin.ofNat FrameQueueDepth i + 1 := by
  apply Fin.ext
  rw [Fin.val_add, Fin.val_one']
  simp [Nat.add_mod]

theorem ofNat_inj {i j : Nat} (hi : i < FrameQueueDepth) (hj : j < FrameQueueDepth) :
    Fin.ofNat FrameQueueDepth i = Fin.ofNat FrameQueueDepth j ↔ i = j := by
  rw [Fin.ext_iff]
  show i % FrameQueueDepth = j % FrameQueueDepth ↔ i = j
  rw [Nat.mod_eq_of_lt hi, Nat.mod_eq_of_lt hj]

theorem full_iff {q : FrameQueue} (h : q.Bounded) :
    (q.head + 1) % FrameQueueDepth = q.tail ↔ q.ring.head + 1 = q.ring.tail := by
  show _ ↔ Fin.ofNat FrameQueueDepth q.head + 1 = Fin.ofNat FrameQueueDepth q.tail
  rw [← ofNat_succ, ofNat_inj (Nat.mod_lt _ (by decide)) h.tail]

theorem ring_store {q : FrameQueue} (h : q.Bounded) (dstMac : U64) (etherType : U16) (payload : Mem) (len : Nat) :
    (q.store dstMac etherType payload len).ring =
      { q.ring with
        slots := Function.update q.ring.slots q.ring.head ⟨dstMac, etherType, payload.bytes len⟩
        head := q.ring.head + 1 } := by
  have hbytes : (memcpy (q.frames q.head).data 0 payload len).bytes len = payload.bytes len := by
    refine Mem.bytes_congr fun i hi => ?_
    have hat := memcpy_inside (q.frames q.head).data 0 payload len i hi
    rwa [Nat.zero_add] at hat
  have hslots : (fun i : Fin FrameQueueDepth => ((Function.update q.frames q.head
        ⟨dstMac, etherType, len, memcpy (q.frames q.head).data 0 payload len⟩) i).frame) =
      Function.update q.ring.slots q.ring.head ⟨dstMac, etherType, payload.bytes len⟩ := by
    funext i
    by_cases hi : i.val = q.head
    · have hhead : i = q.ring.head := Fin.ext (hi.trans (Nat.mod_eq_of_lt h.head).symm)
      rw [hi, hhead, Function.update_self, Function.update_self, QueuedFrame.frame, hbytes]
    · have hne : i ≠ q.ring.head := fun heq => hi (by rw [heq]; exact Nat.mod_eq_of_lt h.head)
      rw [Function.update_of_ne hi, Function.update_of_ne hne]
      rfl
  rw [ring, store, hslots, ofNat_succ]
  rfl

/-- `cbEmit` is an insertion into the ring. -/
theorem ring_cbEmit {q : FrameQueue} (h : q.Bounded) (dstMac : U64) (etherType : U16) (payload : Mem) {len : Nat}
    (hlen : len ≤ MaxFrame) :
    (q.cbEmit dstMac etherType payload len).1.ring = q.ring.push ⟨dstMac, etherType, payload.bytes len⟩ := by
  rw [cbEmit, if_neg (by omega), Ring.push]
  by_cases hfull : (q.head + 1) % FrameQueueDepth = q.tail
  · rw [if_pos hfull, if_pos ((full_iff h).mp hfull)]
  · rw [if_neg hfull, if_neg (fun hring => hfull ((full_iff h).mpr hring)), ring_store h]

/-- Taking a frame is taking it from the ring. -/
theorem ring_takeFrame {q : FrameQueue} (h : q.Bounded) :
    q.takeFrame.map (fun r => (r.1.frame, r.2.ring)) = q.ring.pop := by
  have hempty : q.tail = q.head ↔ q.ring.tail = q.ring.head := (ofNat_inj h.tail h.head).symm
  rw [takeFrame, Ring.pop]
  by_cases htail : q.tail = q.head
  · rw [if_pos htail, if_pos (hempty.mp htail)]
    rfl
  · have hslot : (q.frames q.tail).frame = q.ring.slots q.ring.tail := by
      show _ = (q.frames (q.tail % FrameQueueDepth)).frame
      rw [Nat.mod_eq_of_lt h.tail]
    have hnext : ring { q with tail := (q.tail + 1) % FrameQueueDepth } = { q.ring with tail := q.ring.tail + 1 } := by
      rw [ring, ofNat_succ]
      rfl
    rw [if_neg htail, if_neg (fun hring => htail (hempty.mpr hring)), Option.map_some, hslot, hnext]

/-- What `cbEmit` does to the frames that wait. -/
theorem cbEmit_queued {q : FrameQueue} (h : q.Bounded) (dstMac : U64) (etherType : U16) (payload : Mem) (len : Nat) :
    (q.cbEmit dstMac etherType payload len).1.Bounded ∧
      (q.cbEmit dstMac etherType payload len).1.queued =
        if (q.cbEmit dstMac etherType payload len).2 then q.queued ++ [⟨dstMac, etherType, payload.bytes len⟩]
        else q.queued := by
  by_cases hlen : MaxFrame < len
  · rw [cbEmit, if_pos hlen]
    exact ⟨h, rfl⟩
  · have hring := ring_cbEmit h dstMac etherType payload (Nat.le_of_not_lt hlen)
    have hpush := q.ring.contents_push ⟨dstMac, etherType, payload.bytes len⟩
    rw [← hring] at hpush
    rw [queued, hpush, cbEmit, if_neg hlen]
    by_cases hfull : (q.head + 1) % FrameQueueDepth = q.tail
    · rw [if_pos hfull, if_pos ((full_iff h).mp hfull)]
      exact ⟨h, rfl⟩
    · rw [if_neg hfull, if_neg (fun hring => hfull ((full_iff h).mpr hring))]
      exact ⟨⟨Nat.mod_lt _ (by decide), h.tail⟩, rfl⟩

/-- A frame of admissible length is refused when one slot is left. -/
theorem cbEmit_refused_iff {q : FrameQueue} (h : q.Bounded) (dstMac : U64) (etherType : U16) (payload : Mem)
    {len : Nat} (hlen : len ≤ MaxFrame) :
    (q.cbEmit dstMac etherType payload len).2 = false ↔ q.queued.length = 31 := by
  have hfull : q.ring.length + 1 = FrameQueueDepth ↔ q.queued.length = 31 := by
    rw [queued, Ring.contents_length]
    show q.ring.length + 1 = 32 ↔ q.ring.length = 31
    omega
  rw [← hfull, ← Ring.full_iff, ← full_iff h, cbEmit, if_neg (by omega)]
  by_cases hnext : (q.head + 1) % FrameQueueDepth = q.tail
  · simp [hnext]
  · simp [hnext]

theorem takeFrame_queued {q q' : FrameQueue} {f : QueuedFrame} (h : q.Bounded) (htake : q.takeFrame = some (f, q')) :
    q'.Bounded ∧ q.queued = f.frame :: q'.queued := by
  have hpop := ring_takeFrame h
  rw [htake] at hpop
  refine ⟨?_, Ring.pop_eq_some hpop.symm⟩
  rw [takeFrame] at htake
  split at htake
  · cases htake
  · cases htake
    exact ⟨h.head, Nat.mod_lt _ (by decide)⟩

/-- No frame is taken only when none waits. -/
theorem takeFrame_eq_none {q : FrameQueue} (h : q.Bounded) (htake : q.takeFrame = none) : q.queued = [] := by
  have hpop := ring_takeFrame h
  rw [htake, Option.map_none] at hpop
  exact Ring.contents_nil (Ring.pop_eq_none.mp hpop.symm)

end FrameQueue

/-! ### Runs -/

/-- What a drain that has ended passed on: everything it took, or nothing when it started paused. -/
def Drain.Complete (d : Drain) : Prop := d.passed.map PassedFrame.frame = if d.paused then [] else d.taken

/-- What the drain under way has taken. -/
def Pc.taken : Pc → List Frame
  | .running => []
  | .draining d => d.taken
  | .passing d _ => d.taken

/-- All frames taken, drain by drain. -/
def State.taken (s : State) : List Frame := s.drains.flatMap Drain.taken ++ s.pc.taken

/-- The drain under way has passed on what it took, but for the frame that is taken and
not yet passed. -/
def Pc.Faithful : Pc → Prop
  | .running => True
  | .draining d => d.Complete
  | .passing d f => d.paused = false ∧ d.passed.map PassedFrame.frame ++ [f.frame] = d.taken

structure Inv (s : State) : Prop where
  bounded : s.queue.Bounded
  accepted : s.accepted = s.taken ++ s.queue.queued
  drains : ∀ d ∈ s.drains, d.Complete
  pc : s.pc.Faithful

theorem initial_inv (nwid localMac : U64) (paused : Bool) : Inv (initial nwid localMac paused) :=
  ⟨⟨Nat.zero_lt_succ 31, Nat.zero_lt_succ 31⟩, (Ring.contents_nil rfl).symm,
    fun _ hd => absurd hd List.not_mem_nil, trivial⟩

/-! What the steps of a drain do. -/

theorem step_drain {s t : State} (h : step s .drain = some t) :
    s.pc = .running ∧ t = { s with pc := .draining ⟨s.paused, [], []⟩ } := by
  rw [step] at h
  split at h
  · rename_i hpc
    exact ⟨hpc, (Option.some.inj h).symm⟩
  · cases h

theorem step_drainNext {s t : State} (h : step s .drainNext = some t) :
    ∃ d, s.pc = .draining d ∧
      (s.queue.takeFrame = none ∧ t = { s with pc := .running, drains := s.drains ++ [d] } ∨
        ∃ f queue, s.queue.takeFrame = some (f, queue) ∧
          t = { s with
            queue := queue
            pc := if d.paused then .draining { d with taken := d.taken ++ [f.frame] }
              else .passing { d with taken := d.taken ++ [f.frame] } f }) := by
  rw [step] at h
  split at h
  · rename_i d hpc
    refine ⟨d, hpc, ?_⟩
    cases htake : s.queue.takeFrame with
    | none =>
      rw [htake] at h
      exact .inl ⟨rfl, (Option.some.inj h).symm⟩
    | some taken =>
      obtain ⟨f, queue⟩ := taken
      rw [htake] at h
      exact .inr ⟨f, queue, rfl, (Option.some.inj h).symm⟩
  · cases h

theorem step_pass {s t : State} (h : step s .pass = some t) :
    ∃ d f, s.pc = .passing d f ∧
      t = { s with pc := .draining { d with passed := d.passed ++ [⟨s.nwid, s.localMac, f.frame⟩] } } := by
  rw [step] at h
  split at h
  · rename_i d f hpc
    exact ⟨d, f, hpc, (Option.some.inj h).symm⟩
  · cases h

theorem keeps_inv : draining.Keeps (fun _ _ => true) Inv := by
  intro s e t hs _ hstep
  have haccepted := hs.accepted
  have hpc := hs.pc
  unfold State.taken at haccepted
  cases e with
  | cbEmit dstMac etherType payload len =>
    cases hstep
    obtain ⟨hbounded, hqueued⟩ := FrameQueue.cbEmit_queued hs.bounded dstMac etherType payload len
    refine ⟨hbounded, ?_, hs.drains, hs.pc⟩
    show (if (s.queue.cbEmit dstMac etherType payload len).2 then _ else _) = s.taken ++ FrameQueue.queued _
    rw [hqueued, hs.accepted]
    split
    · rw [List.append_assoc]
    · rfl
  | wire paused =>
    cases hstep
    exact ⟨hs.bounded, hs.accepted, hs.drains, hs.pc⟩
  | configured localMac =>
    cases hstep
    exact ⟨hs.bounded, hs.accepted, hs.drains, hs.pc⟩
  | drain =>
    obtain ⟨hrunning, rfl⟩ := step_drain hstep
    rw [hrunning] at haccepted
    refine ⟨hs.bounded, haccepted, hs.drains, ?_⟩
    show [] = if s.paused then [] else []
    rw [ite_self]
  | drainNext =>
    obtain ⟨d, hdraining, ⟨-, rfl⟩ | ⟨f, queue, htake, rfl⟩⟩ := step_drainNext hstep
    · rw [hdraining] at haccepted hpc
      refine ⟨hs.bounded, ?_, fun d' hd => ?_, trivial⟩
      · simpa [State.taken, Pc.taken] using haccepted
      · rcases List.mem_append.mp hd with hold | hnew
        · exact hs.drains d' hold
        · rw [List.mem_singleton.mp hnew]
          exact hpc
    · obtain ⟨hbounded, hqueued⟩ := FrameQueue.takeFrame_queued hs.bounded htake
      rw [hdraining] at haccepted hpc
      rw [hqueued] at haccepted
      have hcomplete : d.passed.map PassedFrame.frame = if d.paused then [] else d.taken := hpc
      cases hpaused : d.paused with
      | true =>
        refine ⟨hbounded, ?_, hs.drains, ?_⟩
        · simpa [State.taken, Pc.taken, hpaused] using haccepted
        · show d.passed.map PassedFrame.frame = []
          rw [hcomplete, hpaused]
          rfl
      | false =>
        refine ⟨hbounded, ?_, hs.drains, ?_⟩
        · simpa [State.taken, Pc.taken, hpaused] using haccepted
        · refine ⟨rfl, ?_⟩
          show d.passed.map PassedFrame.frame ++ [f.frame] = d.taken ++ [f.frame]
          rw [hcomplete, hpaused]
          rfl
  | pass =>
    obtain ⟨d, f, hpassing, rfl⟩ := step_pass hstep
    rw [hpassing] at haccepted hpc
    obtain ⟨hawake, hpassed⟩ := hpc
    refine ⟨hs.bounded, haccepted, hs.drains, ?_⟩
    show (d.passed ++ [_]).map PassedFrame.frame = if d.paused then [] else d.taken
    rw [hawake, List.map_append, List.map_singleton]
    exact hpassed

/-- A drain ends with a step that finds no frame. -/
theorem drain_ends {s t : State} {e : Event} (h : draining.step s e = some t) (hunder : s.pc ≠ .running)
    (hended : t.pc = .running) :
    ∃ d, s.pc = .draining d ∧ s.queue.takeFrame = none ∧
      t = { s with pc := .running, drains := s.drains ++ [d] } := by
  cases e with
  | cbEmit dstMac etherType payload len =>
    cases h
    exact absurd hended hunder
  | wire paused =>
    cases h
    exact absurd hended hunder
  | configured localMac =>
    cases h
    exact absurd hended hunder
  | drain => exact absurd (step_drain h).1 hunder
  | drainNext =>
    obtain ⟨d, hdraining, hempty | ⟨f, queue, -, rfl⟩⟩ := step_drainNext h
    · exact ⟨d, hdraining, hempty⟩
    · cases hpaused : d.paused with
      | true => simp [hpaused] at hended
      | false => simp [hpaused] at hended
  | pass =>
    obtain ⟨d, f, -, rfl⟩ := step_pass h
    cases hended

/-- At the end of a drain nothing waits. -/
theorem Inv.drained {s t : State} {e : Event} (hs : Inv s) (h : draining.step s e = some t)
    (hunder : s.pc ≠ .running) (hended : t.pc = .running) : t.accepted = t.taken := by
  obtain ⟨d, hdraining, hempty, rfl⟩ := drain_ends h hunder hended
  have haccepted := hs.accepted
  rw [FrameQueue.takeFrame_eq_none hs.bounded hempty, List.append_nil, State.taken, hdraining] at haccepted
  simpa [State.taken, Pc.taken] using haccepted

/-- **What the node thread takes is what was accepted, in that order.** Whatever threads
emit and however their calls fall between the steps of a drain, the frames taken and those
still waiting are the accepted ones; a drain ends only when every frame accepted by then is
taken; a frame of admissible length is refused exactly when 31 wait; and a drain passes on
all it takes, or nothing when it starts paused. -/
theorem drains_accepted (nwid localMac : U64) (paused : Bool) (es : List Event) {s : State}
    (hrun : draining.run (initial nwid localMac paused) es = some s) :
    s.accepted = s.taken ++ s.queue.queued ∧
      (∀ e t, draining.step s e = some t → s.pc ≠ .running → t.pc = .running → t.accepted = t.taken) ∧
      (∀ dstMac etherType payload len, len ≤ MaxFrame →
        ((s.queue.cbEmit dstMac etherType payload len).2 = false ↔ s.queue.queued.length = 31)) ∧
      (∀ d ∈ s.drains, d.passed.map PassedFrame.frame = if d.paused then [] else d.taken) ∧ s.pc.Faithful := by
  have hinv := keeps_inv.run es (initial_inv nwid localMac paused) (System.meets_true _ es) hrun
  refine ⟨hinv.accepted, fun _ _ hstep => hinv.drained hstep, ?_, hinv.drains, hinv.pc⟩
  intro dstMac etherType payload len hlen
  exact FrameQueue.cbEmit_refused_iff hinv.bounded dstMac etherType payload hlen

/-- A frame arrives while another is being passed on. -/
def overlapping : List Event :=
  [.cbEmit 0x020000000002 0x0800 (Mem.ofBytes [1, 2]) 2, .drain, .drainNext,
    .cbEmit 0x020000000003 0x0806 (Mem.ofBytes [3]) 1, .pass, .drainNext, .pass, .drainNext]

theorem drains_accepted_overlapping :
    ∃ s, draining.run (initial 1 0x020000000001 false) overlapping = some s ∧
      s.accepted = [⟨0x020000000002, 0x0800, [1, 2]⟩, ⟨0x020000000003, 0x0806, [3]⟩] ∧
      s.accepted = s.taken ++ s.queue.queued ∧
      ∀ d ∈ s.drains, d.passed.map PassedFrame.frame = if d.paused then [] else d.taken := by
  obtain ⟨s, hs⟩ : ∃ s, draining.run (initial 1 0x020000000001 false) overlapping = some s :=
    Option.isSome_iff_exists.mp (by decide +kernel)
  have haccepted : (draining.run (initial 1 0x020000000001 false) overlapping).map State.accepted =
      some [⟨0x020000000002, 0x0800, [1, 2]⟩, ⟨0x020000000003, 0x0806, [3]⟩] := by decide +kernel
  rw [hs, Option.map_some] at haccepted
  obtain ⟨hall, -, -, hdrains, -⟩ := drains_accepted 1 0x020000000001 false overlapping hs
  exact ⟨s, hs, Option.some.inj haccepted, hall, hdrains⟩

end SysZerotier.Port.Outbound
