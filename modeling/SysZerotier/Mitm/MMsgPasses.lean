import SysZerotier.Mitm.Routing
import SysZerotier.Mitm.MMsgCodec
import SysZerotier.Net.Effects

/-! The two passes of `MirrorMMsgBuffer`, while others use the table and the interface.

`world` is what the others do: it may change both before every look at either, and
between the passes. Payloads go through the buffer that all calls share. Whatever
the buffer holds and the others do, what is reported is the number of datagrams
taken, so `false` means none was; and left alone, the messages go out in order up to
the first that is refused (`mmsg_codec_atomic`). -/
namespace SysZerotier.Mitm
open Net Port

namespace Shim

/-- What a pass leaves behind; `sent` counts messages. -/
structure MMsgPass where
  shim : Shim
  buffer : Mem
  frames : List Frame := []
  handed : List Handed := []
  sent : Nat := 0

section Passes
variable (world : Nat → Shim → Shim) (pid : U64) (fd : Int)

/-- `ResolveMMsgDestination` looks at the table first and then at the interface. -/
def resolveUnder (tick : Nat) (s : Shim) (view : MMsgView) : Shim × Option (Int × U32 × U16 × Bool) :=
  let looked := world tick s
  let asked := world (tick + 1) looked
  (asked, ({ asked with table := looked.table } : Shim).resolveMMsgDestination pid fd view)

def checkMMsgsUnder : Nat → Nat → Shim → List U8 → Shim × Bool
  | 0, _, s, _ => (s, true)
  | count + 1, tick, s, cursor =>
    match parseMMsg cursor with
    | none => (s, false)
    | some (view, cursor) =>
      let resolved := resolveUnder world pid fd tick s view
      if resolved.2.isSome then checkMMsgsUnder count (tick + 2) resolved.1 cursor else (resolved.1, false)

/-- The call that hands a message over. -/
def messageCall (dest : Int × U32 × U16 × Bool) (payload : List U8) : SendCall :=
  if dest.2.2.2 then .mirrorLanBroadcast dest.1 dest.2.2.1 payload
  else .mirrorLanDatagram dest.1 dest.2.1 dest.2.2.1 payload

def sendMMsgsUnder : Nat → Nat → Shim → Mem → List U8 → MMsgPass
  | 0, _, s, buffer, _ => { shim := s, buffer := buffer }
  | count + 1, tick, s, buffer, cursor =>
    match parseMMsg cursor with
    | none => { shim := s, buffer := buffer }
    | some (view, cursor) =>
      let resolved := resolveUnder world pid fd tick s view
      match resolved.2 with
      | none => { shim := resolved.1, buffer := buffer }
      | some dest =>
        let assembled := assembledPayload buffer view
        let s := world (tick + 2) resolved.1
        match assembled.2, s.port with
        | some data, some v =>
          let call := s.call v (messageCall dest (data.bytes view.payloadLen))
          match call.2.2 with
          | none => { shim := call.1, buffer := assembled.1, frames := call.2.1 }
          | some d =>
            let rest := sendMMsgsUnder count (tick + 3) call.1 assembled.1 cursor
            { rest with
              frames := call.2.1 ++ rest.frames
              handed := d :: rest.handed
              sent := rest.sent + 1 }
        | _, _ => { shim := s, buffer := assembled.1 }

/-- `MirrorMMsgBuffer`: `none` is the return value `false`; otherwise `*sent_count`. The
port, once set, is never taken away. -/
def mirrorMMsgBufferUnder (s : Shim) (buffer : Mem) (vlen : Int) (buf : List U8) : MMsgPass × Option Nat :=
  if s.port.isNone ∨ vlen ≤ 0 ∨ 64 < vlen ∨ buf.length < 1 then ({ shim := s, buffer := buffer }, none)
  else
    let checked := checkMMsgsUnder world pid fd vlen.toNat 0 s (buf.drop 1)
    if !checked.2 then ({ shim := checked.1, buffer := buffer }, none)
    else
      let pass := sendMMsgsUnder world pid fd vlen.toNat (2 * vlen.toNat) checked.1 buffer (buf.drop 1)
      (pass, if pass.sent = 0 then none else some pass.sent)

end Passes

/-! ### What is reported -/

theorem sendMMsgsUnder_sent (world : Nat → Shim → Shim) (pid : U64) (fd : Int) (count tick : Nat) (s : Shim)
    (buffer : Mem) (cursor : List U8) :
    (sendMMsgsUnder world pid fd count tick s buffer cursor).sent =
      (sendMMsgsUnder world pid fd count tick s buffer cursor).handed.length := by
  induction count generalizing tick s buffer cursor with
  | zero => rfl
  | succ count ih =>
    rw [sendMMsgsUnder]
    split
    · rfl
    · dsimp only
      split
      · rfl
      · split
        · split
          · rfl
          · rw [List.length_cons]
            exact congrArg (· + 1) (ih ..)
        · rfl

/-- **What is reported is the number of datagrams taken**, and `false` that none was. -/
theorem mirrorMMsgBufferUnder_reports (world : Nat → Shim → Shim) (pid : U64) (fd : Int) (s : Shim) (buffer : Mem)
    (vlen : Int) (buf : List U8) :
    (mirrorMMsgBufferUnder world pid fd s buffer vlen buf).2.getD 0 =
      (mirrorMMsgBufferUnder world pid fd s buffer vlen buf).1.handed.length := by
  unfold mirrorMMsgBufferUnder
  split
  · rfl
  · dsimp only
    split
    · rfl
    · dsimp only
      rw [← sendMMsgsUnder_sent]
      split
      · rename_i hzero
        rw [hzero]
        rfl
      · rfl

/-! ### Left alone -/

/-- Nobody else uses the table or the interface. -/
def quiet : Nat → Shim → Shim := fun _ s => s

/-- The interface after the calls. -/
def execAll (v : VNet) (calls : List SendCall) : VNet := calls.foldl (fun v c => (c.exec v).1) v

theorem SameLan.trans {u v w : VNet} (h : SameLan u v) (h' : SameLan v w) : SameLan u w :=
  ⟨h'.configured.trans h.configured, h'.ip.trans h.ip, h'.netmask.trans h.netmask⟩

theorem sends_sameLan {v w : VNet} (h : VNet.Sends v w) : SameLan v w :=
  ⟨(congrArg VNet.configured h.eq :), (congrArg VNet.ip h.eq :), (congrArg VNet.netmask h.eq :)⟩

theorem udpBind_sameLan (v : VNet) (vfd : Int) (ip : U32) (port : U16) : SameLan v (v.udpBind vfd ip port).1 := by
  unfold VNet.udpBind
  split
  · exact ⟨rfl, rfl, rfl⟩
  · generalize (if port = 0 then v.ephemeralPort 4096 v.nextEphemeral else (port, v.nextEphemeral)) = found
    dsimp only
    split <;> exact ⟨rfl, rfl, rfl⟩

theorem udpSendTo_sameLan (v : VNet) (vfd : Int) (dstIp : U32) (dstPort : U16) (buf : Mem) (len : Nat) :
    SameLan v (v.udpSendTo vfd dstIp dstPort buf len).1 := by
  have hbind : SameLan v (v.implicitBind vfd).1 := by
    unfold VNet.implicitBind
    split
    · exact udpBind_sameLan ..
    · exact ⟨rfl, rfl, rfl⟩
  unfold VNet.udpSendTo
  dsimp only
  split
  · exact ⟨rfl, rfl, rfl⟩
  · split
    · exact ⟨rfl, rfl, rfl⟩
    · split
      · exact ⟨rfl, rfl, rfl⟩
      · split
        · exact hbind
        · exact hbind.trans ((sends_sameLan (VNet.sendIpv4_sends ..)).trans ⟨rfl, rfl, rfl⟩)

theorem exec_sameLan (v : VNet) (c : SendCall) : SameLan v (c.exec v).1 := by
  cases c with
  | mirrorLanDatagram vfd dstIp port data =>
    simp only [SendCall.exec, Port.mirrorLanDatagram]
    split
    · exact ⟨rfl, rfl, rfl⟩
    · split
      · exact ⟨rfl, rfl, rfl⟩
      · exact udpSendTo_sameLan ..
  | mirrorLanBroadcast vfd port data =>
    simp only [SendCall.exec, Port.mirrorLanBroadcast]
    split
    · exact ⟨rfl, rfl, rfl⟩
    · exact udpSendTo_sameLan ..

theorem resolve_sameLan {s : Shim} {v w : VNet} (hport : s.port = some v) (h : SameLan v w) (pid : U64) (fd : Int)
    (view : MMsgView) :
    ({ s with port := some w } : Shim).resolveMMsgDestination pid fd view =
      s.resolveMMsgDestination pid fd view := by
  have hlan : ∀ ip, isOverlayDestination (some w) ip = isOverlayDestination s.port ip := by
    intro ip
    rw [hport]
    unfold isOverlayDestination getLanIpConfig
    simp only [Option.bind_some]
    rw [h.configured, h.ip, h.netmask]
  unfold resolveMMsgDestination
  dsimp only
  simp only [hlan]

theorem datagram_sameLan {v w : VNet} (h : SameLan v w) (c : SendCall) : c.datagram w = c.datagram v := by
  cases c with
  | mirrorLanDatagram vfd dstIp port data => rfl
  | mirrorLanBroadcast vfd port data =>
    unfold SendCall.datagram VNet.broadcastIp
    rw [h.ip, h.netmask]

/-- The first `n` calls were taken, one after the other, and the next one was not. -/
structure HandedOver (v : VNet) (calls : List SendCall) (handed : List Handed) (n : Nat) : Prop where
  count : n ≤ calls.length
  handed : handed = (calls.take n).map fun c => c.datagram v
  taken : ∀ k c, k < n → calls[k]? = some c → (c.exec (execAll v (calls.take k))).2.2 = true
  refused : ∀ c, calls[n]? = some c → (c.exec (execAll v (calls.take n))).2.2 = false

theorem HandedOver.cons {v : VNet} {c : SendCall} {calls : List SendCall} {handed : List Handed} {n : Nat}
    (hc : (c.exec v).2.2 = true) (h : HandedOver (c.exec v).1 calls handed n) :
    HandedOver v (c :: calls) (c.datagram v :: handed) (n + 1) := by
  refine ⟨Nat.succ_le_succ h.count, ?_, fun k d hk hd => ?_, fun d hd => ?_⟩
  · rw [h.handed, List.take_succ_cons, List.map_cons]
    exact congrArg _ (List.map_congr_left fun d _ => datagram_sameLan (exec_sameLan v c) d)
  · cases k with
    | zero =>
      rw [List.getElem?_cons_zero] at hd
      cases hd
      exact hc
    | succ k =>
      rw [List.getElem?_cons_succ] at hd
      exact h.taken k d (Nat.lt_of_succ_lt_succ hk) hd
  · rw [List.getElem?_cons_succ] at hd
    exact h.refused d hd

/-- Messages that resolve are handed over in turn, up to the first that is refused. -/
theorem sendMMsgsUnder_quiet {pid : U64} {fd : Int} (dest : Message → Int × U32 × U16 × Bool) (msgs : List Message)
    (rest : List U8) (tick : Nat) {s : Shim} {v : VNet} (hport : s.port = some v) (buffer : Mem)
    (hvalid : ∀ m ∈ msgs, m.Valid)
    (hdest : ∀ m ∈ msgs, s.resolveMMsgDestination pid fd m.view = some (dest m)) :
    HandedOver v (msgs.map fun m => messageCall (dest m) m.payload)
      (sendMMsgsUnder quiet pid fd msgs.length tick s buffer (msgs.flatMap Message.encode ++ rest)).handed
      (sendMMsgsUnder quiet pid fd msgs.length tick s buffer (msgs.flatMap Message.encode ++ rest)).sent := by
  induction msgs generalizing tick s v buffer with
  | nil => exact ⟨Nat.le_refl 0, rfl, fun k c hk => absurd hk (Nat.not_lt_zero k), fun c hc => (by cases hc)⟩
  | cons m msgs ih =>
    have hm := hvalid m List.mem_cons_self
    have hresolve : (resolveUnder quiet pid fd tick s m.view).2 = some (dest m) := hdest m List.mem_cons_self
    obtain ⟨data, hdata, hbytes⟩ := assembledPayload_bytes (assemble_encode hm) buffer
    have hpayload : data.bytes m.view.payloadLen = m.payload := hbytes
    rw [List.length_cons, sendMMsgsUnder, List.flatMap_cons, List.append_assoc, parseMMsg_encode hm]
    dsimp only
    rw [hresolve]
    dsimp only
    rw [hdata, show (quiet (tick + 2) (resolveUnder quiet pid fd tick s m.view).1).port = some v from hport]
    dsimp only
    rw [hpayload]
    show HandedOver v (messageCall (dest m) m.payload :: msgs.map _) _ _
    rw [show ((quiet (tick + 2) (resolveUnder quiet pid fd tick s m.view).1).call v
        (messageCall (dest m) m.payload)).2.2 = (messageCall (dest m) m.payload).handed v from rfl]
    unfold SendCall.handed
    cases htaken : ((messageCall (dest m) m.payload).exec v).2.2 with
    | false =>
      simp only [Bool.false_eq_true, if_false]
      refine ⟨Nat.zero_le _, rfl, fun k c hk => absurd hk (Nat.not_lt_zero k), fun c hc => ?_⟩
      rw [List.getElem?_cons_zero] at hc
      cases hc
      exact htaken
    | true =>
      refine .cons htaken (ih (tick + 3) rfl _ (fun n hn => hvalid n (List.mem_cons_of_mem m hn)) fun n hn => ?_)
      exact (resolve_sameLan hport (exec_sameLan v _) pid fd n.view).trans (hdest n (List.mem_cons_of_mem m hn))

theorem checkMMsgsUnder_quiet (pid : U64) (fd : Int) (msgs : List Message) (rest : List U8) (tick : Nat)
    (s : Shim) (hvalid : ∀ m ∈ msgs, m.Valid)
    (hdest : ∀ m ∈ msgs, (s.resolveMMsgDestination pid fd m.view).isSome = true) :
    checkMMsgsUnder quiet pid fd msgs.length tick s (msgs.flatMap Message.encode ++ rest) = (s, true) := by
  induction msgs generalizing tick with
  | nil => rfl
  | cons m msgs ih =>
    rw [List.length_cons, checkMMsgsUnder, List.flatMap_cons, List.append_assoc,
      parseMMsg_encode (hvalid m List.mem_cons_self)]
    dsimp only
    rw [if_pos (show (resolveUnder quiet pid fd tick s m.view).2.isSome = true from hdest m List.mem_cons_self)]
    exact ih (tick + 2) (fun n hn => hvalid n (List.mem_cons_of_mem m hn))
      (fun n hn => hdest n (List.mem_cons_of_mem m hn))

theorem checkMMsgsUnder_eq (pid : U64) (fd : Int) (s : Shim) (count tick : Nat) (cursor : List U8) :
    checkMMsgsUnder quiet pid fd count tick s cursor = (s, s.checkMMsgs pid fd count cursor) := by
  induction count generalizing tick cursor with
  | zero => rfl
  | succ count ih =>
    rw [checkMMsgsUnder, checkMMsgs]
    cases parseMMsg cursor with
    | none => rfl
    | some parsed =>
      obtain ⟨view, cursor⟩ := parsed
      dsimp only
      rw [show resolveUnder quiet pid fd tick s view = (s, s.resolveMMsgDestination pid fd view) from rfl]
      cases (s.resolveMMsgDestination pid fd view).isSome with
      | false => rfl
      | true => exact ih (tick + 2) cursor

/-- Left alone, the pass that goes through the shared buffer does what the one that
assembles the payload itself does. -/
theorem sendMMsgsUnder_eq (pid : U64) (fd : Int) (count tick : Nat) (s : Shim) (buffer : Mem) (cursor : List U8) :
    let pass := sendMMsgsUnder quiet pid fd count tick s buffer cursor
    (pass.shim, pass.frames, pass.handed) = sendMMsgs pid fd count s cursor := by
  induction count generalizing tick s buffer cursor with
  | zero => rfl
  | succ count ih =>
    dsimp only
    rw [sendMMsgsUnder, sendMMsgs, mmsgCall]
    cases hparse : parseMMsg cursor with
    | none => cases s.port <;> rfl
    | some parsed =>
      obtain ⟨view, rest⟩ := parsed
      obtain ⟨bytes, hbytes, hlen⟩ := parseMMsg_assemble hparse
      obtain ⟨data, hdata, hpayload⟩ := assembledPayload_bytes hbytes buffer
      rw [hlen] at hpayload
      dsimp only
      rw [show resolveUnder quiet pid fd tick s view = (s, s.resolveMMsgDestination pid fd view) from rfl]
      simp only [Option.bind_eq_bind, Option.bind_some, hbytes]
      cases s.resolveMMsgDestination pid fd view with
      | none => cases s.port <;> rfl
      | some dest =>
        dsimp only
        rw [hdata, show (quiet (tick + 2) s).port = s.port from rfl]
        cases s.port with
        | none => rfl
        | some v =>
          simp only [Option.bind_some, hpayload]
          show _ = match (s.call v (messageCall dest bytes)).2.2 with
            | none => _
            | some d => _
          rw [show (quiet (tick + 2) s).call v (messageCall dest bytes) = s.call v (messageCall dest bytes) from rfl]
          cases (s.call v (messageCall dest bytes)).2.2 with
          | none => rfl
          | some d =>
            show _ = ((sendMMsgs pid fd count (s.call v (messageCall dest bytes)).1 rest).1,
              (s.call v (messageCall dest bytes)).2.1 ++
                (sendMMsgs pid fd count (s.call v (messageCall dest bytes)).1 rest).2.1,
              d :: (sendMMsgs pid fd count (s.call v (messageCall dest bytes)).1 rest).2.2)
            rw [← ih (tick + 3) (s.call v (messageCall dest bytes)).1 (assembledPayload buffer view).1 rest]

/-- Left alone, the two passes are the ones of `SendMMsg` run from its first line to its last. -/
theorem mirrorMMsgBufferUnder_eq (pid : U64) (fd : Int) (s : Shim) (buffer : Mem) (vlen : Int) (buf : List U8) :
    let run := (mirrorMMsgBufferUnder quiet pid fd s buffer vlen buf).1
    (run.shim, run.frames, run.handed) = s.mirrorMMsgBuffer pid fd vlen buf := by
  dsimp only
  unfold mirrorMMsgBufferUnder mirrorMMsgBuffer
  split
  · rfl
  · dsimp only
    rw [checkMMsgsUnder_eq]
    dsimp only
    cases s.checkMMsgs pid fd vlen.toNat (buf.drop 1) with
    | false => rfl
    | true => exact sendMMsgsUnder_eq pid fd vlen.toNat (2 * vlen.toNat) s buffer (buf.drop 1)

/-- The virtual socket, address and port are those of the message's name and of the
descriptor's shadow, or without a name of the shadow and its peer; the flag is that of the
address. -/
def Addressed (s : Shim) (pid : U64) (fd : Int) (m : Message) (dest : Int × U32 × U16 × Bool) : Prop :=
  (if m.name = [] then s.table.getConnectedLanPeer pid fd = some (dest.1, dest.2.1, dest.2.2.1)
    else dest.1 = s.table.getLanVfd pid fd ∧ dest.2.1 = sockaddrIp m.name ∧ dest.2.2.1 = sockaddrPort m.name) ∧
  isOverlayDestination s.port dest.2.1 = some dest.2.2.2

theorem resolveMMsgDestination_addressed {s : Shim} {pid : U64} {fd : Int} {m : Message}
    {dest : Int × U32 × U16 × Bool} (h : s.resolveMMsgDestination pid fd m.view = some dest) :
    s.Addressed pid fd m dest := by
  have hname : m.view.name = m.name := rfl
  unfold resolveMMsgDestination at h
  rw [hname] at h
  unfold Addressed
  split at h
  · rename_i hnone
    obtain ⟨⟨vfd, ip, port⟩, hpeer, h⟩ := Option.bind_eq_some_iff.mp h
    obtain ⟨broadcast, hover, h⟩ := Option.bind_eq_some_iff.mp h
    cases h
    rw [if_pos (List.length_eq_zero_iff.mp hnone)]
    exact ⟨hpeer, hover⟩
  · rename_i hsome
    split at h
    · cases h
    · split at h
      · cases h
      · obtain ⟨broadcast, hover, h⟩ := Option.bind_eq_some_iff.mp h
        cases h
        rw [if_neg fun hnone => hsome (List.length_eq_zero_iff.mpr hnone)]
        exact ⟨⟨rfl, rfl, rfl⟩, hover⟩

/-- A message of two parts for one peer, and an empty one for all. -/
def greetings : List Message :=
  [⟨sockaddr 0x0A000002 4000, [[1, 2], [3]], [9], List.replicate 4 0, List.replicate 4 0⟩,
    ⟨sockaddr 0xFFFFFFFF 30000, [], [], List.replicate 4 0, List.replicate 4 0⟩]

end Shim

end SysZerotier.Mitm
