import SysZerotier.Mitm.MMsgPasses
import SysZerotier.Library.Cursor

/-! `MirrorMMsgBuffer` read a second time, every access guarded.

Pointers into the client's buffer are positions in it, and the arithmetic on them and on
lengths reports what would wrap or point outside. `g_mmsgPayload` has its 2048 bytes.
No access is outside whatever the buffer holds; the run is the one of the two passes,
and the second goes over the ranges the first has validated (`mmsg_buffers_safe`). -/
namespace SysZerotier.Mitm.MMsgBuffers
open Net Port Library

/-- `name`, `iov` and `iovEnd` are positions. `parts` is what was taken between the last
two, for the results. -/
structure MMsgView where
  name : Nat
  nameLen : Nat
  iov : Nat
  iovEnd : Nat
  iovCount : Nat
  payloadLen : Nat
  parts : List Range

/-- `payload_len += len` in `size_t`. -/
def sizeAdd (a b : Nat) : Guarded Nat := Guarded.add a b (2 ^ 64)

section Parser
variable (bytes : Buffer U8)

def mmsgTake (cursor : Cursor) (size : Nat) : Guarded (Option (Nat × Cursor)) := cursor.take bytes.size size

/-- `MMsgReadU32` and `MMsgReadU64` are this for four bytes and for eight. -/
def mmsgReadWord (width : Nat) (cursor : Cursor) : Guarded (Option (Nat × Cursor)) := do
  match ← mmsgTake bytes cursor width with
  | none => return none
  | some (p, cursor) =>
    let word ← bytes.slice p width
    return some (littleEndian word, cursor)

def mmsgReadU32 (cursor : Cursor) : Guarded (Option (Nat × Cursor)) := mmsgReadWord bytes 4 cursor

def mmsgReadU64 (cursor : Cursor) : Guarded (Option (Nat × Cursor)) := mmsgReadWord bytes 8 cursor

/-- `len > MMsgPayloadMax || payload_len > MMsgPayloadMax - len`. -/
def partTooLong (len payloadLen : Nat) : Guarded Bool :=
  if MMsgPayloadMax < len then return true
  else do
    let room ← Guarded.sub MMsgPayloadMax len
    return decide (room < payloadLen)

/-- The loop over the I/O vector in `ParseMMsg`. -/
def parseIov : Nat → Cursor → Nat → Guarded (Option (Cursor × Nat))
  | 0, cursor, payloadLen => return some (cursor, payloadLen)
  | count + 1, cursor, payloadLen => do
    match ← mmsgReadU64 bytes cursor with
    | none => return none
    | some (len, cursor) =>
      match ← partTooLong len payloadLen with
      | true => return none
      | false =>
        match ← mmsgTake bytes cursor len with
        | none => return none
        | some (_, cursor) =>
          let payloadLen ← sizeAdd payloadLen len
          parseIov count cursor payloadLen

def parseMMsg (cursor : Cursor) : Guarded (Option (MMsgView × Cursor)) := do
  match ← mmsgReadU32 bytes cursor with
  | none => return none
  | some (nameLen, cursor) =>
    match ← mmsgTake bytes cursor nameLen with
    | none => return none
    | some (name, cursor) =>
      match ← mmsgReadU32 bytes cursor with
      | none => return none
      | some (iovCount, iov) =>
        if 64 < iovCount then return none
        else do
          match ← parseIov bytes iovCount iov 0 with
          | none => return none
          | some (iovEnd, payloadLen) =>
            match ← mmsgReadU32 bytes iovEnd with
            | none => return none
            | some (controlLen, cursor) =>
              match ← mmsgTake bytes cursor controlLen with
              | none => return none
              | some (_, cursor) =>
                match ← mmsgTake bytes cursor 4 with
                | none => return none
                | some (_, cursor) =>
                  match ← mmsgTake bytes cursor 4 with
                  | none => return none
                  | some (_, cursor) =>
                    return some (⟨name, nameLen, iov.pos, iovEnd.pos, iovCount, payloadLen, iov.since iovEnd⟩, cursor)

/-- A name is read when it is long enough for an address. -/
def resolveMMsgDestination (s : Shim) (pid : U64) (fd : Int) (view : MMsgView) :
    Guarded (Option (Int × U32 × U16 × Bool)) :=
  if view.nameLen = 0 then
    return do
      let (vfd, ip, port) ← s.table.getConnectedLanPeer pid fd
      let broadcast ← isOverlayDestination s.port ip
      return (vfd, ip, port, broadcast)
  else if view.nameLen < 8 then return none
  else do
    let family ← bytes.get (view.name + 1)
    if family ≠ 2 then return none
    else if s.table.getLanVfd pid fd = InvalidSocket then return none
    else do
      let port ← bytes.slice (view.name + 2) 2
      let ip ← bytes.slice (view.name + 4) 4
      return do
        let broadcast ← isOverlayDestination s.port (rd32 (Mem.ofBytes ip) 0)
        return (s.table.getLanVfd pid fd, rd32 (Mem.ofBytes ip) 0, rd16 (Mem.ofBytes port) 0, broadcast)

/-- A part goes to `g_mmsgPayload` unless it is the only one or empty. -/
def storePart (iovCount offset part len : Nat) (payload : Buffer U8) : Guarded (Buffer U8) :=
  if iovCount = 1 ∨ len = 0 then return payload
  else do
    let source ← bytes.shift part
    payload.copy offset source len

/-- The loop of `AssembleMMsgPayload`: `g_mmsgPayload` after it, and when it ends well the
cursor and `single`. -/
def assembleParts (iovCount : Nat) :
    Nat → Cursor → Nat → Option Nat → Buffer U8 → Guarded (Buffer U8 × Option (Cursor × Option Nat))
  | 0, cursor, _, single, payload => return (payload, some (cursor, single))
  | count + 1, cursor, offset, single, payload => do
    match ← mmsgReadU64 bytes cursor with
    | none => return (payload, none)
    | some (len, cursor) =>
      match ← mmsgTake bytes cursor len with
      | none => return (payload, none)
      | some (part, cursor) =>
        let payload ← storePart bytes iovCount offset part len payload
        let offset ← sizeAdd offset len
        assembleParts iovCount count cursor offset (if iovCount = 1 then some part else single) payload

def assembleMMsgPayload (view : MMsgView) (payload : Buffer U8) :
    Guarded (Buffer U8 × Option (Cursor × Option Nat)) :=
  assembleParts bytes view.iovCount view.iovCount ⟨view.iov, view.iovEnd, []⟩ 0 none payload

/-- The bytes behind `*data`, which the interface reads. -/
def payloadBytes (view : MMsgView) (single : Option Nat) (payload : Buffer U8) : Guarded (List U8) :=
  if view.iovCount = 1 then
    match single with
    | some part => bytes.slice part view.payloadLen
    | none => .error (.read 0 0)
  else payload.slice 0 view.payloadLen

end Parser

/-! ### The passes -/

/-- What a run leaves behind: of the second pass what `MMsgPass` says, and what it returns.
The rest is for the results: the messages either pass has parsed, and the ranges that were
assembled. -/
structure MMsgRun where
  pass : Shim.MMsgPass
  reply : Option Nat := none
  validated : List MMsgView := []
  consumed : List MMsgView := []
  assembled : List (List Range) := []

section Passes
variable (world : Nat → Shim → Shim) (pid : U64) (fd : Int) (bytes : Buffer U8)

/-- `ResolveMMsgDestination` looks at the table first and then at the interface. -/
def resolveUnder (tick : Nat) (s : Shim) (view : MMsgView) : Guarded (Shim × Option (Int × U32 × U16 × Bool)) := do
  let looked := world tick s
  let asked := world (tick + 1) looked
  let dest ← resolveMMsgDestination bytes { asked with table := looked.table } pid fd view
  return (asked, dest)

/-- The first pass: whether all is well, and what it has parsed. -/
def checkMMsgs : Nat → Nat → Shim → Cursor → Guarded ((Shim × Bool) × List MMsgView)
  | 0, _, s, _ => return ((s, true), [])
  | count + 1, tick, s, cursor => do
    match ← parseMMsg bytes cursor with
    | none => return ((s, false), [])
    | some (view, cursor) =>
      let resolved ← resolveUnder world pid fd bytes tick s view
      match resolved.2 with
      | none => return ((resolved.1, false), [view])
      | some _ =>
        let rest ← checkMMsgs count (tick + 2) resolved.1 cursor
        return (rest.1, view :: rest.2)

/-- The second pass. `g_mmsgPayload` is `payload`. -/
def sendMMsgs : Nat → Nat → Shim → Buffer U8 → Cursor → Guarded MMsgRun
  | 0, _, s, payload, _ => return { pass := { shim := s, buffer := payload.data } }
  | count + 1, tick, s, payload, cursor => do
    match ← parseMMsg bytes cursor with
    | none => return { pass := { shim := s, buffer := payload.data } }
    | some (view, cursor) =>
      let resolved ← resolveUnder world pid fd bytes tick s view
      match resolved.2 with
      | none => return { pass := { shim := resolved.1, buffer := payload.data }, consumed := [view] }
      | some dest =>
        let assembled ← assembleMMsgPayload bytes view payload
        let s := world (tick + 2) resolved.1
        match assembled.2, s.port with
        | some (parts, single), some v =>
          let data ← payloadBytes bytes view single assembled.1
          let call := s.call v (Shim.messageCall dest data)
          match call.2.2 with
          | none =>
            return {
              pass := { shim := call.1, buffer := assembled.1.data, frames := call.2.1 }
              consumed := [view]
              assembled := [parts.taken] }
          | some d =>
            let rest ← sendMMsgs count (tick + 3) call.1 assembled.1 cursor
            return {
              pass := { rest.pass with
                frames := call.2.1 ++ rest.pass.frames
                handed := d :: rest.pass.handed
                sent := rest.pass.sent + 1 }
              consumed := view :: rest.consumed
              assembled := parts.taken :: rest.assembled }
        | _, _ => return { pass := { shim := s, buffer := assembled.1.data }, consumed := [view] }

/-- `MirrorMMsgBuffer`: the reply `none` is the return value `false`. -/
def mirrorMMsgBuffer (s : Shim) (payload : Mem) (vlen : Int) : Guarded MMsgRun :=
  if s.port.isNone ∨ vlen ≤ 0 ∨ 64 < vlen ∨ bytes.size < 1 then
    return { pass := { shim := s, buffer := payload } }
  else do
    let checked ← checkMMsgs world pid fd bytes vlen.toNat 0 s ⟨1, bytes.size, []⟩
    if !checked.1.2 then
      return { pass := { shim := checked.1.1, buffer := payload }, validated := checked.2 }
    else do
      let run ← sendMMsgs world pid fd bytes vlen.toNat (2 * vlen.toNat) checked.1.1 ⟨payload, MMsgPayloadMax⟩
        ⟨1, bytes.size, []⟩
      return { run with
        reply := if run.pass.sent = 0 then none else some run.pass.sent
        validated := checked.2 }

end Passes

/-! ### Parsing -/

section Parsing
variable {bytes : Buffer U8}

/-- The number in `width` bytes from `pos` on. -/
def wordAt (bytes : Buffer U8) (pos width : Nat) : Nat := littleEndian ((Mem.advance bytes.data pos).bytes width)

theorem mmsgReadWord_ok {c : Cursor} (h : c.Within bytes.size) (width : Nat) :
    mmsgReadWord bytes width c =
      .ok (if c.stop - c.pos < width then none else some (wordAt bytes c.pos width, c.past width)) := by
  have hpos := h.pos
  have hstop := h.stop
  rw [mmsgReadWord, mmsgTake, h.take, ok_bind]
  by_cases hshort : c.stop - c.pos < width
  · rw [if_pos hshort, if_pos hshort]
    rfl
  · rw [if_neg hshort, if_neg hshort]
    dsimp only
    rw [Buffer.slice_ok (by omega)]
    rfl

/-- What the two readings find of the next `n` bytes, with what they make of them. -/
structure Next {α : Type} (bytes : Buffer U8) (c : Cursor) (n : Nat) (a : Nat) (b : α) (r : Nat × Cursor)
    (l : α × List U8) : Prop where
  checked : r = (a, c.past n)
  plain : l = (b, (c.past n).left bytes.data)
  within : (c.past n).Within bytes.size

theorem mmsgTake_left {c : Cursor} {n : Nat} (h : ¬c.stop - c.pos < n) :
    Mitm.mmsgTake (c.left bytes.data) n =
      some ((Mem.advance bytes.data c.pos).bytes n, (c.past n).left bytes.data) := by
  rw [Mitm.mmsgTake, Cursor.left_length, if_neg h, Cursor.take_left _ _ h, Cursor.drop_left]
  rfl

theorem mmsgReadU64_left {c : Cursor} (h : ¬c.stop - c.pos < 8) :
    Mitm.mmsgReadU64 (c.left bytes.data) = some (wordAt bytes c.pos 8, (c.past 8).left bytes.data) := by
  rw [Mitm.mmsgReadU64, mmsgTake_left h]
  rfl

theorem mmsgTake_agrees {c : Cursor} (hc : c.Within bytes.size) (n : Nat) :
    Guarded.Agrees (mmsgTake bytes c n) (Mitm.mmsgTake (c.left bytes.data) n)
      (Next bytes c n c.pos ((Mem.advance bytes.data c.pos).bytes n)) := by
  rw [mmsgTake, hc.take]
  by_cases hshort : c.stop - c.pos < n
  · rw [if_pos hshort, Mitm.mmsgTake, Cursor.left_length, if_pos hshort]
    exact .none
  · rw [if_neg hshort, mmsgTake_left hshort]
    exact .some ⟨rfl, rfl, hc.past hshort⟩

theorem mmsgReadWord_agrees {c : Cursor} (hc : c.Within bytes.size) (width : Nat) :
    Guarded.Agrees (mmsgReadWord bytes width c)
      ((Mitm.mmsgTake (c.left bytes.data) width).map fun r => (littleEndian r.1, r.2))
      (Next bytes c width (wordAt bytes c.pos width) (wordAt bytes c.pos width)) := by
  rw [mmsgReadWord_ok hc]
  by_cases hshort : c.stop - c.pos < width
  · rw [if_pos hshort, Mitm.mmsgTake, Cursor.left_length, if_pos hshort]
    exact .none
  · rw [if_neg hshort, mmsgTake_left hshort]
    exact .some ⟨rfl, rfl, hc.past hshort⟩

theorem mmsgReadU32_agrees {c : Cursor} (hc : c.Within bytes.size) :
    Guarded.Agrees (mmsgReadU32 bytes c) (Mitm.mmsgReadU32 (c.left bytes.data))
      (Next bytes c 4 (wordAt bytes c.pos 4) (wordAt bytes c.pos 4)) := mmsgReadWord_agrees hc 4

theorem mmsgReadU64_agrees {c : Cursor} (hc : c.Within bytes.size) :
    Guarded.Agrees (mmsgReadU64 bytes c) (Mitm.mmsgReadU64 (c.left bytes.data))
      (Next bytes c 8 (wordAt bytes c.pos 8) (wordAt bytes c.pos 8)) := mmsgReadWord_agrees hc 8

theorem partTooLong_eq (len payloadLen : Nat) :
    partTooLong len payloadLen = .ok (decide (MMsgPayloadMax < len ∨ MMsgPayloadMax - len < payloadLen)) := by
  rw [partTooLong]
  split
  · rename_i h
    rw [decide_eq_true (.inl h)]
    rfl
  · rename_i h
    rw [Guarded.sub_ok (by omega), ok_bind]
    simp [h]

theorem sizeAdd_ok {len payloadLen : Nat} (h : payloadLen + len ≤ MMsgPayloadMax) :
    sizeAdd payloadLen len = .ok (payloadLen + len) := by
  unfold MMsgPayloadMax at h
  exact Guarded.add_ok (by omega)

/-- What the loop over the I/O vector leaves behind when it ends well. -/
structure Walked (bytes : Buffer U8) (c : Cursor) (payloadLen : Nat) (r : Cursor × Nat) (l : List U8 × Nat) :
    Prop where
  plain : l = (r.1.left bytes.data, r.2)
  within : r.1.Within bytes.size
  follows : c.Follows r.1
  total : payloadLen ≤ MMsgPayloadMax → r.2 ≤ MMsgPayloadMax

theorem parseIov_agrees (count : Nat) {c : Cursor} (hc : c.Within bytes.size) (payloadLen : Nat) :
    Guarded.Agrees (parseIov bytes count c payloadLen) (Mitm.parseIov count (c.left bytes.data) payloadLen)
      (Walked bytes c payloadLen) := by
  induction count generalizing c payloadLen with
  | zero => exact .some ⟨rfl, hc, c.follows_refl, id⟩
  | succ count ih =>
    rw [parseIov, Mitm.parseIov]
    refine (mmsgReadU64_agrees hc).bind rfl ?_
    intro r l hword
    obtain ⟨rfl, rfl, hc'⟩ := hword
    dsimp only
    generalize wordAt bytes c.pos 8 = len
    rw [partTooLong_eq, ok_bind]
    by_cases hlong : MMsgPayloadMax < len ∨ MMsgPayloadMax - len < payloadLen
    · rw [decide_eq_true hlong, if_pos hlong]
      exact .none
    · rw [decide_eq_false hlong, if_neg hlong]
      refine (mmsgTake_agrees hc' len).bind rfl ?_
      intro r l hpart
      obtain ⟨rfl, rfl, hc''⟩ := hpart
      dsimp only
      have hfit : payloadLen + len ≤ MMsgPayloadMax := by omega
      rw [sizeAdd_ok hfit, ok_bind]
      refine (ih hc'' (payloadLen + len)).mono fun r l hrest => ?_
      exact ⟨hrest.plain, hrest.within, ((c.follows_past 8).trans ((c.past 8).follows_past len)).trans hrest.follows,
        fun _ => hrest.total hfit⟩

/-! ### Messages -/

/-- The message a view is of. -/
def MMsgView.message (bytes : Buffer U8) (view : MMsgView) : Mitm.MMsgView :=
  ⟨(Mem.advance bytes.data view.name).bytes view.nameLen,
    (Mem.advance bytes.data view.iov).bytes (view.iovEnd - view.iov), view.iovCount, view.payloadLen⟩

/-- A view as `ParseMMsg` leaves it. -/
structure Parsed (bytes : Buffer U8) (view : MMsgView) : Prop where
  name : view.name + view.nameLen ≤ bytes.size
  iov : ∃ start finish : Cursor, start.Within bytes.size ∧ start.Follows finish ∧
    parseIov bytes view.iovCount start 0 = .ok (some (finish, view.payloadLen)) ∧ view.iov = start.pos ∧
    view.iovEnd = finish.pos ∧ finish.pos ≤ bytes.size ∧ view.parts = start.since finish
  payload : view.payloadLen ≤ MMsgPayloadMax

/-- What the two readings make of a message. -/
structure Message (bytes : Buffer U8) (r : MMsgView × Cursor) (l : Mitm.MMsgView × List U8) : Prop where
  plain : l = (r.1.message bytes, r.2.left bytes.data)
  within : r.2.Within bytes.size
  parsed : Parsed bytes r.1

theorem parseMMsg_agrees {c : Cursor} (hc : c.Within bytes.size) :
    Guarded.Agrees (parseMMsg bytes c) (Mitm.parseMMsg (c.left bytes.data)) (Message bytes) := by
  rw [parseMMsg, Mitm.parseMMsg]
  refine (mmsgReadU32_agrees hc).bind rfl ?_
  intro r l hnameLen
  obtain ⟨rfl, rfl, hc₁⟩ := hnameLen
  dsimp only
  generalize wordAt bytes c.pos 4 = nameLen
  refine (mmsgTake_agrees hc₁ nameLen).bind rfl ?_
  intro r l hname
  obtain ⟨rfl, rfl, hc₂⟩ := hname
  dsimp only
  refine (mmsgReadU32_agrees hc₂).bind rfl ?_
  intro r l hcount
  obtain ⟨rfl, rfl, hc₃⟩ := hcount
  dsimp only
  generalize wordAt bytes ((c.past 4).past nameLen).pos 4 = iovCount
  by_cases hmany : 64 < iovCount
  · rw [if_pos hmany, if_pos hmany]
    exact .none
  · rw [if_neg hmany, if_neg hmany]
    rcases parseIov_agrees iovCount hc₃ 0 with ⟨hiov, hplain⟩ | ⟨⟨iovEnd, payloadLen⟩, l, hiov, hplain, hwalked⟩
    · rw [hiov, hplain]
      exact .none
    · obtain ⟨rfl, hc₄, hfollows, htotal⟩ := hwalked
      rw [hiov, hplain, ok_bind]
      dsimp only at hc₄ hfollows htotal ⊢
      refine (mmsgReadU32_agrees hc₄).bind rfl ?_
      intro r l hcontrol
      obtain ⟨rfl, rfl, hc₅⟩ := hcontrol
      dsimp only
      refine (mmsgTake_agrees hc₅ _).bind rfl ?_
      intro r l hskipped
      obtain ⟨rfl, rfl, hc₆⟩ := hskipped
      dsimp only
      refine (mmsgTake_agrees hc₆ 4).bind rfl ?_
      intro r l hflags
      obtain ⟨rfl, rfl, hc₇⟩ := hflags
      dsimp only
      refine (mmsgTake_agrees hc₇ 4).bind rfl ?_
      intro r l hlen
      obtain ⟨rfl, rfl, hc₈⟩ := hlen
      refine .some ⟨?_, hc₈, ⟨?_, ?_, htotal (Nat.zero_le _)⟩⟩
      · dsimp only
        rw [hfollows.elements hc₄.pos]
        rfl
      · exact hc₂.pos.trans hc₂.stop
      · exact ⟨_, iovEnd, hc₃, hfollows, hiov, rfl, rfl, hc₄.pos.trans hc₄.stop, rfl⟩

/-! ### Destinations -/

theorem resolveMMsgDestination_eq {view : MMsgView} (hview : Parsed bytes view) (s : Shim) (pid : U64) (fd : Int) :
    resolveMMsgDestination bytes s pid fd view = .ok (s.resolveMMsgDestination pid fd (view.message bytes)) := by
  have hname := hview.name
  have hlen : (view.message bytes).name.length = view.nameLen := Mem.bytes_length ..
  rw [resolveMMsgDestination, Shim.resolveMMsgDestination, hlen]
  by_cases hempty : view.nameLen = 0
  · rw [if_pos hempty, if_pos hempty]
    rfl
  · rw [if_neg hempty, if_neg hempty]
    by_cases hshort : view.nameLen < 8
    · rw [if_pos hshort, if_pos (.inl hshort)]
      rfl
    · have hbyte : ∀ i, i < 8 → Mem.ofBytes (view.message bytes).name i = bytes.data (view.name + i) :=
        fun i hi => Mem.ofBytes_bytes _ _ _ (by omega)
      have hfamily : sockaddrFamily (view.message bytes).name = bytes.data (view.name + 1) := hbyte 1 (by decide)
      have hport : rd16 (Mem.ofBytes ((List.range 2).map fun i => bytes.data (view.name + 2 + i))) 0 =
          sockaddrPort (view.message bytes).name := by
        rw [sockaddrPort, rd16, rd16, hbyte 2 (by decide), hbyte 3 (by decide)]
        rfl
      have hip : rd32 (Mem.ofBytes ((List.range 4).map fun i => bytes.data (view.name + 4 + i))) 0 =
          sockaddrIp (view.message bytes).name := by
        rw [sockaddrIp, rd32, rd32, rd16, rd16, rd16, rd16, hbyte 4 (by decide), hbyte 5 (by decide),
          hbyte 6 (by decide), hbyte 7 (by decide)]
        rfl
      rw [if_neg hshort, Buffer.get_ok (by omega), ok_bind, hfamily]
      by_cases hinet : bytes.data (view.name + 1) = 2
      · have hnamed : ¬(view.nameLen < 8 ∨ bytes.data (view.name + 1) ≠ 2) := by
          rw [not_or]
          exact ⟨hshort, not_not.mpr hinet⟩
        rw [if_neg (not_not.mpr hinet), if_neg hnamed]
        by_cases hmirror : s.table.getLanVfd pid fd = InvalidSocket
        · rw [if_pos hmirror, if_pos hmirror]
          rfl
        · rw [if_neg hmirror, if_neg hmirror, Buffer.slice_ok (by omega), ok_bind, Buffer.slice_ok (by omega), ok_bind,
            hport, hip]
          rfl
      · rw [if_pos hinet, if_pos (.inr hinet)]
        rfl

/-! ### Assembling -/

/-- `ParseMMsg` went on behind the part at `c`. -/
structure Fits (bytes : Buffer U8) (c : Cursor) (payloadLen : Nat) : Prop where
  word : ¬c.stop - c.pos < 8
  part : ¬(c.past 8).stop - (c.past 8).pos < wordAt bytes c.pos 8
  payload : payloadLen + wordAt bytes c.pos 8 ≤ MMsgPayloadMax

theorem parseIov_succ {count : Nat} {c : Cursor} {payloadLen : Nat} {r : Cursor × Nat} (hc : c.Within bytes.size)
    (h : parseIov bytes (count + 1) c payloadLen = .ok (some r)) :
    Fits bytes c payloadLen ∧
      parseIov bytes count ((c.past 8).past (wordAt bytes c.pos 8)) (payloadLen + wordAt bytes c.pos 8) =
        .ok (some r) := by
  rw [parseIov, mmsgReadU64, mmsgReadWord_ok hc] at h
  by_cases hword : c.stop - c.pos < 8
  · rw [if_pos hword] at h
    cases h
  · rw [if_neg hword, ok_bind] at h
    dsimp only at h
    rw [partTooLong_eq, ok_bind] at h
    by_cases hlong : MMsgPayloadMax < wordAt bytes c.pos 8 ∨ MMsgPayloadMax - wordAt bytes c.pos 8 < payloadLen
    · rw [decide_eq_true hlong] at h
      cases h
    · have hpayload : payloadLen + wordAt bytes c.pos 8 ≤ MMsgPayloadMax := by omega
      rw [decide_eq_false hlong] at h
      dsimp only at h
      rw [mmsgTake, (hc.past hword).take] at h
      by_cases hpart : (c.past 8).stop - (c.past 8).pos < wordAt bytes c.pos 8
      · rw [if_pos hpart] at h
        cases h
      · rw [if_neg hpart, ok_bind] at h
        dsimp only at h
        rw [sizeAdd_ok hpayload, ok_bind] at h
        exact ⟨⟨hword, hpart, hpayload⟩, h⟩

/-- Behind a part that fits the loop ends no earlier. -/
theorem Fits.behind {count : Nat} {c : Cursor} {payloadLen : Nat} {r : Cursor × Nat} (h : Fits bytes c payloadLen)
    (hc : c.Within bytes.size)
    (hrest : parseIov bytes count ((c.past 8).past (wordAt bytes c.pos 8)) (payloadLen + wordAt bytes c.pos 8) =
      .ok (some r)) : ((c.past 8).past (wordAt bytes c.pos 8)).Follows r.1 := by
  rcases parseIov_agrees count ((hc.past h.word).past h.part) (payloadLen + wordAt bytes c.pos 8) with
    ⟨hnone, -⟩ | ⟨r', l, hsome, -, hwalked⟩
  · rw [hnone] at hrest
    cases hrest
  · rw [hsome] at hrest
    cases hrest
    exact hwalked.follows

theorem storePart_many {iovCount offset part len : Nat} {payload : Buffer U8} (hmany : iovCount ≠ 1)
    (hpart : part + len ≤ bytes.size) (hroom : offset + len ≤ payload.size) :
    storePart bytes iovCount offset part len payload =
      .ok ⟨memcpy payload.data offset (Mem.ofBytes ((Mem.advance bytes.data part).bytes len)) len, payload.size⟩ := by
  have hcopy : memcpy payload.data offset (Mem.ofBytes ((Mem.advance bytes.data part).bytes len)) len =
      memcpy payload.data offset (Mem.advance bytes.data part) len := by
    funext i
    unfold memcpy
    split
    · rw [Mem.ofBytes_bytes _ _ _ (by omega)]
    · rfl
  rw [hcopy, storePart]
  by_cases hempty : len = 0
  · have hkeep : memcpy payload.data offset (Mem.advance bytes.data part) len = payload.data := by
      funext i
      unfold memcpy
      rw [if_neg (by omega)]
    rw [if_pos (.inr hempty), hkeep]
    rfl
  · rw [if_neg (by omega), Buffer.shift_ok (by omega), ok_bind, Buffer.copy_ok (by dsimp only; omega) hroom]
    rfl

/-- Several parts are copied one behind the other. -/
theorem assembleParts_many {iovCount : Nat} (hmany : iovCount ≠ 1) (count : Nat) {c c' : Cursor}
    {payloadLen total : Nat} (hc : c.Within bytes.size)
    (h : parseIov bytes count c payloadLen = .ok (some (c', total))) (hfollows : c.Follows c')
    (hend : c'.pos ≤ bytes.size) (taken : List Range) (single : Option Nat) (payload : Mem) :
    ∃ after, assembleParts bytes iovCount count ⟨c.pos, c'.pos, taken⟩ payloadLen single ⟨payload, MMsgPayloadMax⟩ =
        .ok (⟨after, MMsgPayloadMax⟩, some (⟨c'.pos, c'.pos, taken ++ c.since c'⟩, single)) ∧
      assembleInto count (Cursor.left bytes.data ⟨c.pos, c'.pos, taken⟩) payloadLen payload = (after, true) := by
  induction count generalizing c payloadLen taken payload with
  | zero =>
    cases h
    refine ⟨payload, ?_, rfl⟩
    rw [assembleParts, Cursor.since_refl, List.append_nil]
    rfl
  | succ count ih =>
    obtain ⟨hfits, hrest⟩ := parseIov_succ hc h
    have hbehind := hfits.behind hc hrest
    have hfrom : c.pos + 8 + wordAt bytes c.pos 8 ≤ c'.pos := hbehind.pos
    have hroom := hfits.payload
    have hd : (Cursor.mk c.pos c'.pos taken).Within bytes.size := ⟨hfollows.pos, hend⟩
    have hword : ¬(Cursor.mk c.pos c'.pos taken).stop - (Cursor.mk c.pos c'.pos taken).pos < 8 := by
      dsimp only
      omega
    have hpart : ¬((Cursor.mk c.pos c'.pos taken).past 8).stop - ((Cursor.mk c.pos c'.pos taken).past 8).pos <
        wordAt bytes c.pos 8 := by
      dsimp only [Cursor.past_pos, Cursor.past_stop]
      omega
    have hstore := @storePart_many bytes iovCount payloadLen (c.pos + 8) (wordAt bytes c.pos 8)
      ⟨payload, MMsgPayloadMax⟩ hmany (by omega) hroom
    obtain ⟨after, hafter, hplain⟩ := ih ((hc.past hfits.word).past hfits.part) hrest hbehind
      (taken ++ [⟨c.pos, 8⟩] ++ [⟨c.pos + 8, wordAt bytes c.pos 8⟩])
      (memcpy payload payloadLen (Mem.ofBytes ((Mem.advance bytes.data (c.pos + 8)).bytes (wordAt bytes c.pos 8)))
        (wordAt bytes c.pos 8))
    refine ⟨after, ?_, ?_⟩
    · rw [assembleParts, mmsgReadU64, mmsgReadWord_ok hd, if_neg hword, ok_bind]
      dsimp only
      rw [mmsgTake, (hd.past hword).take, if_neg hpart, ok_bind]
      dsimp only [Cursor.past_pos]
      rw [hstore, ok_bind, sizeAdd_ok hroom, ok_bind, if_neg hmany]
      refine hafter.trans ?_
      rw [Cursor.since_past ((Cursor.follows_past _ _).trans hbehind), Cursor.since_past hbehind]
      simp only [List.append_assoc, List.cons_append, List.nil_append, Cursor.past_pos]
    · rw [assembleInto, mmsgReadU64_left hword]
      dsimp only
      rw [mmsgTake_left hpart]
      exact hplain

/-- A single part stays where it is. -/
theorem assembleParts_one {c c' : Cursor} {total : Nat} (hc : c.Within bytes.size)
    (h : parseIov bytes 1 c 0 = .ok (some (c', total))) (payload : Buffer U8) :
    c.pos + 8 + total ≤ bytes.size ∧
      assembleParts bytes 1 1 ⟨c.pos, c'.pos, []⟩ 0 none payload =
        .ok (payload, some (⟨c'.pos, c'.pos, c.since c'⟩, some (c.pos + 8))) ∧
      Mitm.mmsgReadU64 (Cursor.left bytes.data ⟨c.pos, c'.pos, []⟩) =
        some (total, Cursor.left bytes.data ⟨c.pos + 8, c'.pos, [⟨c.pos, 8⟩]⟩) ∧
      Mitm.mmsgTake (Cursor.left bytes.data ⟨c.pos + 8, c'.pos, [⟨c.pos, 8⟩]⟩) total =
        some ((Mem.advance bytes.data (c.pos + 8)).bytes total, []) := by
  obtain ⟨hfits, hrest⟩ := parseIov_succ hc h
  have hwithin := (hc.past hfits.word).past hfits.part
  rw [parseIov, pure_eq_ok] at hrest
  obtain ⟨hfinish, htotal⟩ := Prod.mk.inj (Option.some.inj (Except.ok.inj hrest))
  rw [Nat.zero_add] at htotal
  have hend : c'.pos = c.pos + 8 + total := by
    rw [← hfinish, ← htotal]
    rfl
  have hbound : c.pos + 8 + total ≤ bytes.size := by
    rw [← htotal]
    exact hwithin.pos.trans hwithin.stop
  have hd : (Cursor.mk c.pos c'.pos []).Within bytes.size := ⟨by dsimp only; omega, by dsimp only; omega⟩
  have hword : ¬(Cursor.mk c.pos c'.pos []).stop - (Cursor.mk c.pos c'.pos []).pos < 8 := by
    dsimp only
    omega
  have hpart : ¬((Cursor.mk c.pos c'.pos []).past 8).stop - ((Cursor.mk c.pos c'.pos []).past 8).pos < total := by
    dsimp only [Cursor.past_pos, Cursor.past_stop]
    omega
  have hread := @mmsgReadU64_left bytes _ hword
  have htake := @mmsgTake_left bytes _ _ hpart
  have hnone : (((Cursor.mk c.pos c'.pos []).past 8).past total).left bytes.data = [] := by
    apply List.length_eq_zero_iff.mp
    rw [Cursor.left_length]
    dsimp only [Cursor.past_pos, Cursor.past_stop]
    omega
  dsimp only at hread
  rw [htotal] at hread
  rw [hnone] at htake
  refine ⟨hbound, ?_, hread, htake⟩
  have hroom : 0 + total ≤ MMsgPayloadMax := by
    have := hfits.payload
    omega
  rw [assembleParts, mmsgReadU64, mmsgReadWord_ok hd, if_neg hword, ok_bind]
  dsimp only
  rw [htotal, mmsgTake, (hd.past hword).take, if_neg hpart, ok_bind]
  dsimp only [Cursor.past_pos]
  rw [storePart, if_pos (.inl rfl), pure_eq_ok, ok_bind, sizeAdd_ok hroom, ok_bind, if_pos rfl, assembleParts,
    ← hfinish, Cursor.since_past (Cursor.follows_past _ _), Cursor.since_past (Cursor.follows_refl _),
    Cursor.since_refl, htotal]
  rfl

/-- **A message that was parsed is assembled from the ranges that were validated**: all of
them and no others, within `g_mmsgPayload`. -/
theorem assembleMMsgPayload_ok {view : MMsgView} (hview : Parsed bytes view) (payload : Mem) :
    ∃ after cursor single data,
      assembleMMsgPayload bytes view ⟨payload, MMsgPayloadMax⟩ =
        .ok (⟨after, MMsgPayloadMax⟩, some (cursor, single)) ∧
      cursor.taken = view.parts ∧
      assembledPayload payload (view.message bytes) = (after, some data) ∧
      payloadBytes bytes view single ⟨after, MMsgPayloadMax⟩ = .ok (data.bytes view.payloadLen) := by
  obtain ⟨c, c', hc, hfollows, hiov, hstart, hfinish, hend, hparts⟩ := hview.iov
  have hmessage : (view.message bytes).iov = Cursor.left bytes.data ⟨c.pos, c'.pos, []⟩ := by
    rw [MMsgView.message, hstart, hfinish]
    rfl
  have hcount : (view.message bytes).iovCount = view.iovCount := rfl
  rw [assembleMMsgPayload, assembledPayload, hmessage, hcount, hstart, hfinish, hparts]
  by_cases hone : view.iovCount = 1
  · rw [hone] at hiov ⊢
    obtain ⟨hbound, hparse, hread, htake⟩ := assembleParts_one hc hiov ⟨payload, MMsgPayloadMax⟩
    refine ⟨payload, _, some (c.pos + 8), Mem.ofBytes ((Mem.advance bytes.data (c.pos + 8)).bytes view.payloadLen),
      hparse, rfl, ?_, ?_⟩
    · rw [if_pos rfl, hread]
      simp only [Option.bind_eq_bind, Option.bind_some, htake]
      rfl
    · rw [payloadBytes, if_pos hone, Buffer.slice_ok hbound]
      refine congrArg Except.ok (Mem.bytes_congr fun i hi => ?_)
      exact (Mem.ofBytes_bytes (Mem.advance bytes.data (c.pos + 8)) _ _ hi).symm
  · obtain ⟨after, hafter, hplain⟩ := assembleParts_many hone view.iovCount hc hiov hfollows hend [] none payload
    refine ⟨after, _, none, after, hafter, rfl, ?_, ?_⟩
    · rw [if_neg hone]
      dsimp only
      rw [hplain]
      rfl
    · have hfit : 0 + view.payloadLen ≤ MMsgPayloadMax := by
        rw [Nat.zero_add]
        exact hview.payload
      rw [payloadBytes, if_neg hone, Buffer.slice_ok hfit]
      simp only [Nat.zero_add]
      rfl

end Parsing

/-! ### The whole -/

section Whole
variable {bytes : Buffer U8} (world : Nat → Shim → Shim) (pid : U64) (fd : Int)

theorem resolveUnder_eq {view : MMsgView} (hview : Parsed bytes view) (tick : Nat) (s : Shim) :
    resolveUnder world pid fd bytes tick s view =
      .ok (Shim.resolveUnder world pid fd tick s (view.message bytes)) := by
  rw [resolveUnder, resolveMMsgDestination_eq hview]
  rfl

theorem checkMMsgs_ok (count tick : Nat) (s : Shim) {c : Cursor} (hc : c.Within bytes.size) :
    ∃ checked, checkMMsgs world pid fd bytes count tick s c = .ok checked ∧
      checked.1 = Shim.checkMMsgsUnder world pid fd count tick s (c.left bytes.data) := by
  induction count generalizing tick s c with
  | zero => exact ⟨_, rfl, rfl⟩
  | succ count ih =>
    rw [checkMMsgs, Shim.checkMMsgsUnder]
    rcases parseMMsg_agrees hc with ⟨hparse, hplain⟩ | ⟨⟨view, cursor⟩, l, hparse, hplain, hmessage⟩
    · rw [hparse, hplain]
      exact ⟨_, rfl, rfl⟩
    · obtain ⟨rfl, hcursor, hview⟩ := hmessage
      rw [hparse, hplain, ok_bind]
      dsimp only at hcursor hview ⊢
      rw [resolveUnder_eq world pid fd hview, ok_bind]
      generalize Shim.resolveUnder world pid fd tick s (view.message bytes) = resolved
      obtain ⟨s', dest⟩ := resolved
      cases dest with
      | none => exact ⟨_, rfl, rfl⟩
      | some dest =>
        obtain ⟨rest, hrest, heq⟩ := ih (tick + 2) s' hcursor
        dsimp only
        rw [hrest]
        exact ⟨_, rfl, heq⟩

theorem sendMMsgs_ok (count tick : Nat) (s : Shim) (payload : Mem) {c : Cursor} (hc : c.Within bytes.size) :
    ∃ run, sendMMsgs world pid fd bytes count tick s ⟨payload, MMsgPayloadMax⟩ c = .ok run ∧
      run.pass = Shim.sendMMsgsUnder world pid fd count tick s payload (c.left bytes.data) ∧
      run.assembled <+: run.consumed.map MMsgView.parts ∧ run.pass.sent ≤ run.assembled.length := by
  induction count generalizing tick s payload c with
  | zero => exact ⟨_, rfl, rfl, List.prefix_refl _, Nat.le_refl _⟩
  | succ count ih =>
    rw [sendMMsgs, Shim.sendMMsgsUnder]
    rcases parseMMsg_agrees hc with ⟨hparse, hplain⟩ | ⟨⟨view, cursor⟩, l, hparse, hplain, hmessage⟩
    · rw [hparse, hplain]
      exact ⟨_, rfl, rfl, List.prefix_refl _, Nat.le_refl _⟩
    · obtain ⟨rfl, hcursor, hview⟩ := hmessage
      rw [hparse, hplain, ok_bind]
      dsimp only at hcursor hview ⊢
      rw [resolveUnder_eq world pid fd hview, ok_bind]
      generalize Shim.resolveUnder world pid fd tick s (view.message bytes) = resolved
      obtain ⟨s', dest⟩ := resolved
      cases dest with
      | none => exact ⟨_, rfl, rfl, List.nil_prefix, Nat.le_refl _⟩
      | some dest =>
        obtain ⟨after, parts, single, data, hassembled, hparts, hpayload, hbytes⟩ :=
          assembleMMsgPayload_ok hview payload
        have hlen : (view.message bytes).payloadLen = view.payloadLen := rfl
        dsimp only
        rw [hassembled, ok_bind, hpayload]
        dsimp only
        generalize world (tick + 2) s' = s
        cases s.port with
        | none => exact ⟨_, rfl, rfl, List.nil_prefix, Nat.le_refl _⟩
        | some v =>
          dsimp only
          rw [hbytes, ok_bind, hlen]
          generalize s.call v (Shim.messageCall dest (data.bytes view.payloadLen)) = call
          obtain ⟨s, frames, answer⟩ := call
          cases answer with
          | none =>
            exact ⟨_, rfl, rfl, by rw [hparts]; exact List.prefix_refl _, Nat.zero_le _⟩
          | some d =>
            obtain ⟨rest, hrest, hpass, hprefix, hsent⟩ := ih (tick + 3) s after hcursor
            dsimp only
            rw [hrest, ← hpass]
            refine ⟨_, rfl, rfl, ?_, Nat.succ_le_succ hsent⟩
            rw [hparts]
            exact List.cons_prefix_cons.mpr ⟨rfl, hprefix⟩

/-- A first pass that ends well has parsed every message. -/
theorem checkMMsgs_succ {count tick : Nat} {s : Shim} {c : Cursor} {checked : (Shim × Bool) × List MMsgView}
    (hcheck : checkMMsgs world pid fd bytes (count + 1) tick s c = .ok checked) (hgood : checked.1.2 = true) :
    ∃ view cursor s' rest, parseMMsg bytes c = .ok (some (view, cursor)) ∧
      checkMMsgs world pid fd bytes count (tick + 2) s' cursor = .ok rest ∧ rest.1.2 = true ∧
      checked.2 = view :: rest.2 := by
  rw [checkMMsgs] at hcheck
  cases hparse : parseMMsg bytes c with
  | error fault =>
    rw [hparse] at hcheck
    cases hcheck
  | ok parsed =>
    rw [hparse, ok_bind] at hcheck
    cases parsed with
    | none =>
      cases hcheck
      cases hgood
    | some parsed =>
      obtain ⟨view, cursor⟩ := parsed
      dsimp only at hcheck
      cases hresolve : resolveUnder world pid fd bytes tick s view with
      | error fault =>
        rw [hresolve] at hcheck
        cases hcheck
      | ok resolved =>
        rw [hresolve, ok_bind] at hcheck
        obtain ⟨s', dest⟩ := resolved
        cases dest with
        | none =>
          cases hcheck
          cases hgood
        | some dest =>
          dsimp only at hcheck
          cases hrest : checkMMsgs world pid fd bytes count (tick + 2) s' cursor with
          | error fault =>
            rw [hrest] at hcheck
            cases hcheck
          | ok rest =>
            rw [hrest] at hcheck
            cases hcheck
            exact ⟨view, cursor, s', rest, rfl, hrest, hgood, rfl⟩

theorem checkMMsgs_length (count : Nat) {tick : Nat} {s : Shim} {c : Cursor}
    {checked : (Shim × Bool) × List MMsgView}
    (hcheck : checkMMsgs world pid fd bytes count tick s c = .ok checked) (hgood : checked.1.2 = true) :
    checked.2.length = count := by
  induction count generalizing tick s c checked with
  | zero =>
    cases hcheck
    rfl
  | succ count ih =>
    obtain ⟨view, cursor, s', rest, -, hrest, hrestGood, heq⟩ := checkMMsgs_succ world pid fd hcheck hgood
    rw [heq, List.length_cons, ih hrest hrestGood]

/-- The second pass goes over what the first has validated, up to the message it stops at. -/
theorem sendMMsgs_consumes (count : Nat) {tick tick' : Nat} {s s' : Shim} {payload : Buffer U8} {c : Cursor}
    {checked : (Shim × Bool) × List MMsgView} {run : MMsgRun}
    (hcheck : checkMMsgs world pid fd bytes count tick s c = .ok checked) (hgood : checked.1.2 = true)
    (hsend : sendMMsgs world pid fd bytes count tick' s' payload c = .ok run) :
    run.consumed = checked.2.take (run.pass.sent + 1) := by
  induction count generalizing tick tick' s s' payload c checked run with
  | zero =>
    cases hcheck
    cases hsend
    rfl
  | succ count ih =>
    obtain ⟨view, cursor, s₁, rest, hparse, hrest, hrestGood, heq⟩ := checkMMsgs_succ world pid fd hcheck hgood
    rw [sendMMsgs, hparse, ok_bind] at hsend
    rw [heq, List.take_succ_cons]
    dsimp only at hsend
    cases hresolve : resolveUnder world pid fd bytes tick' s' view with
    | error fault =>
      rw [hresolve] at hsend
      cases hsend
    | ok resolved =>
      rw [hresolve, ok_bind] at hsend
      obtain ⟨s₂, dest⟩ := resolved
      cases dest with
      | none =>
        cases hsend
        rfl
      | some dest =>
        dsimp only at hsend
        cases hassemble : assembleMMsgPayload bytes view payload with
        | error fault =>
          rw [hassemble] at hsend
          cases hsend
        | ok assembled =>
          rw [hassemble, ok_bind] at hsend
          split at hsend
          · rename_i parts single v _ _
            cases hdata : payloadBytes bytes view single assembled.1 with
            | error fault =>
              rw [hdata] at hsend
              cases hsend
            | ok data =>
              rw [hdata, ok_bind] at hsend
              split at hsend
              · cases hsend
                rfl
              · rename_i d _
                cases hnext : sendMMsgs world pid fd bytes count (tick' + 3)
                    ((world (tick' + 2) s₂).call v (Shim.messageCall dest data)).1 assembled.1 cursor with
                | error fault =>
                  rw [hnext] at hsend
                  cases hsend
                | ok next =>
                  rw [hnext] at hsend
                  cases hsend
                  exact congrArg _ (ih hrest hrestGood hnext)
          · cases hsend
            rfl

/-- **The parser stays within its buffers.** Whatever the client's buffer holds, however
many messages it is said to hold and whatever the table and the interface do meanwhile,
no access is outside and no length wraps; the run is the one of the two passes. The
second pass goes over the ranges the first has validated, up to the message at which it
stops, and assembles each payload from exactly the ranges of its parts. -/
theorem mmsg_buffers_safe (s : Shim) (payload : Mem) (vlen : Int) (bytes : Buffer U8) :
    ∃ run, mirrorMMsgBuffer world pid fd bytes s payload vlen = .ok run ∧
      (run.pass, run.reply) =
        Shim.mirrorMMsgBufferUnder world pid fd s payload vlen (Mem.bytes bytes.data bytes.size) ∧
      (run.consumed = [] ∧ run.reply = none ∨
        run.validated.length = vlen.toNat ∧ run.consumed = run.validated.take (run.pass.sent + 1)) ∧
      run.assembled <+: run.consumed.map MMsgView.parts ∧ run.pass.sent ≤ run.assembled.length := by
  unfold mirrorMMsgBuffer Shim.mirrorMMsgBufferUnder
  rw [Mem.bytes_length]
  by_cases hguard : s.port.isNone ∨ vlen ≤ 0 ∨ 64 < vlen ∨ bytes.size < 1
  · rw [if_pos hguard, if_pos hguard]
    exact ⟨_, rfl, rfl, .inl ⟨rfl, rfl⟩, List.nil_prefix, Nat.le_refl _⟩
  · rw [if_neg hguard, if_neg hguard]
    have hstart : (Cursor.mk 1 bytes.size []).Within bytes.size := ⟨by dsimp only; omega, Nat.le_refl _⟩
    have hleft : (Mem.bytes bytes.data bytes.size).drop 1 = Cursor.left bytes.data ⟨1, bytes.size, []⟩ := by
      have hwhole : Mem.bytes bytes.data bytes.size = Cursor.left bytes.data ⟨0, bytes.size, []⟩ := by
        simp [Mem.bytes, Cursor.left]
      rw [hwhole, Cursor.drop_left]
      rfl
    obtain ⟨checked, hcheck, hplain⟩ := checkMMsgs_ok world pid fd vlen.toNat 0 s hstart
    rw [hcheck, ok_bind, hleft]
    dsimp only
    rw [← hplain]
    cases hgood : checked.1.2 with
    | false => exact ⟨_, rfl, rfl, .inl ⟨rfl, rfl⟩, List.nil_prefix, Nat.le_refl _⟩
    | true =>
      obtain ⟨run, hrun, hpass, hprefix, hsent⟩ :=
        sendMMsgs_ok world pid fd vlen.toNat (2 * vlen.toNat) checked.1.1 payload hstart
      have hconsumed := sendMMsgs_consumes world pid fd vlen.toNat hcheck hgood hrun
      rw [Bool.not_true, if_neg Bool.false_ne_true, if_neg Bool.false_ne_true, hrun, ← hpass]
      exact ⟨_, rfl, rfl, .inr ⟨checkMMsgs_length world pid fd vlen.toNat hcheck hgood, hconsumed⟩, hprefix, hsent⟩

end Whole

end SysZerotier.Mitm.MMsgBuffers
