import SysZerotier.Mitm.MMsg

/-! The messages a `SendMMsg` buffer can hold, and reading them back.

`Message.encode` writes a message in the layout `ParseMMsg` reads. Reading what was
written gives the message back and leaves the bytes behind it (`parseMMsg_encode`);
assembling its payload gives its parts one behind the other (`assemble_encode`),
also through the shared buffer that the source copies them into
(`assembledPayload_bytes`). -/
namespace SysZerotier.Mitm
open Net

/-! ### Numbers -/

/-- `n` in `k` bytes, low byte first. -/
def leBytes : Nat → Nat → List U8
  | 0, _ => []
  | k + 1, n => BitVec.ofNat 8 n :: leBytes k (n / 256)

theorem leBytes_length (k n : Nat) : (leBytes k n).length = k := by
  induction k generalizing n with
  | zero => rfl
  | succ k ih => rw [leBytes, List.length_cons, ih]

theorem littleEndian_leBytes {k n : Nat} (h : n < 256 ^ k) : littleEndian (leBytes k n) = n := by
  induction k generalizing n with
  | zero =>
    rw [pow_zero, Nat.lt_one_iff] at h
    rw [h]
    rfl
  | succ k ih =>
    have hdiv : n / 256 < 256 ^ k := by
      rw [Nat.div_lt_iff_lt_mul (by decide)]
      rwa [pow_succ] at h
    show (BitVec.ofNat 8 n).toNat + 256 * littleEndian (leBytes k (n / 256)) = n
    rw [ih hdiv, BitVec.toNat_ofNat]
    exact Nat.mod_add_div n 256

theorem mmsgTake_append (bytes rest : List U8) : mmsgTake (bytes ++ rest) bytes.length = some (bytes, rest) := by
  unfold mmsgTake
  rw [if_neg (by simp), List.take_left, List.drop_left]

theorem mmsgTake_append' {bytes : List U8} {n : Nat} (h : bytes.length = n) (rest : List U8) :
    mmsgTake (bytes ++ rest) n = some (bytes, rest) := by
  rw [← h, mmsgTake_append]

theorem mmsgReadU32_append {n : Nat} (h : n < 2 ^ 32) (rest : List U8) :
    mmsgReadU32 (leBytes 4 n ++ rest) = some (n, rest) := by
  unfold mmsgReadU32
  rw [mmsgTake_append' (leBytes_length 4 n), Option.map_some, littleEndian_leBytes (by omega)]

theorem mmsgReadU64_append {n : Nat} (h : n < 2 ^ 64) (rest : List U8) :
    mmsgReadU64 (leBytes 8 n ++ rest) = some (n, rest) := by
  unfold mmsgReadU64
  rw [mmsgTake_append' (leBytes_length 8 n), Option.map_some, littleEndian_leBytes (by omega)]

/-! ### Messages -/

structure Message where
  name : List U8
  iov : List (List U8)
  control : List U8
  /-- `msg_flags` and `msg_len`, which are skipped. -/
  flags : List U8
  len : List U8
  deriving DecidableEq

def encodeIov (parts : List (List U8)) : List U8 := parts.flatMap fun part => leBytes 8 part.length ++ part

def Message.encode (m : Message) : List U8 :=
  leBytes 4 m.name.length ++ (m.name ++ (leBytes 4 m.iov.length ++ (encodeIov m.iov ++
    (leBytes 4 m.control.length ++ (m.control ++ (m.flags ++ m.len))))))

def Message.payload (m : Message) : List U8 := m.iov.flatten

/-- A message that fits the layout and the limits of the shim. -/
structure Message.Valid (m : Message) : Prop where
  name : m.name.length < 2 ^ 32
  iov : m.iov.length ≤ 64
  payload : m.payload.length ≤ MMsgPayloadMax
  control : m.control.length < 2 ^ 32
  flags : m.flags.length = 4
  len : m.len.length = 4

/-- What `ParseMMsg` makes of the message. -/
def Message.view (m : Message) : MMsgView := ⟨m.name, encodeIov m.iov, m.iov.length, m.payload.length⟩

theorem encodeIov_cons (part : List U8) (parts : List (List U8)) :
    encodeIov (part :: parts) = leBytes 8 part.length ++ (part ++ encodeIov parts) := by
  rw [encodeIov, List.flatMap_cons, List.append_assoc]
  rfl

theorem parseIov_encode (parts : List (List U8)) (rest : List U8) {payloadLen : Nat}
    (h : payloadLen + parts.flatten.length ≤ MMsgPayloadMax) :
    parseIov parts.length (encodeIov parts ++ rest) payloadLen = some (rest, payloadLen + parts.flatten.length) := by
  induction parts generalizing payloadLen with
  | nil => rfl
  | cons part parts ih =>
    rw [List.flatten_cons, List.length_append] at h ⊢
    have hlen : part.length < 2 ^ 64 := by
      unfold MMsgPayloadMax at h
      omega
    rw [List.length_cons, parseIov, encodeIov_cons, List.append_assoc, mmsgReadU64_append hlen]
    simp only [Option.bind_eq_bind, Option.bind_some]
    rw [if_neg (by omega), List.append_assoc, mmsgTake_append]
    simp only [Option.bind_some]
    rw [ih (by omega), Nat.add_assoc]

theorem assembleIov_encode (parts : List (List U8)) (rest : List U8)
    (h : parts.flatten.length ≤ MMsgPayloadMax) :
    assembleIov parts.length (encodeIov parts ++ rest) = some parts.flatten := by
  induction parts with
  | nil => rfl
  | cons part parts ih =>
    rw [List.flatten_cons, List.length_append] at h
    have hlen : part.length < 2 ^ 64 := by
      unfold MMsgPayloadMax at h
      omega
    rw [List.length_cons, assembleIov, encodeIov_cons, List.append_assoc, mmsgReadU64_append hlen]
    simp only [Option.bind_eq_bind, Option.bind_some]
    rw [List.append_assoc, mmsgTake_append]
    simp only [Option.bind_some]
    rw [ih (by omega)]
    rfl

/-- **What was written is read back, and nothing behind it is touched.** -/
theorem parseMMsg_encode {m : Message} (h : m.Valid) (rest : List U8) :
    parseMMsg (m.encode ++ rest) = some (m.view, rest) := by
  obtain ⟨hname, hiov, hpayload, hcontrol, hflags, hlen⟩ := h
  unfold parseMMsg Message.encode
  simp only [List.append_assoc]
  rw [mmsgReadU32_append hname]
  simp only [Option.bind_eq_bind, Option.bind_some]
  rw [mmsgTake_append]
  simp only [Option.bind_some]
  rw [mmsgReadU32_append (by omega)]
  simp only [Option.bind_some]
  rw [if_neg (by omega), parseIov_encode _ _ (by rw [Nat.zero_add]; exact hpayload)]
  simp only [Option.bind_some]
  rw [mmsgReadU32_append hcontrol]
  simp only [Option.bind_some]
  rw [mmsgTake_append]
  simp only [Option.bind_some]
  rw [mmsgTake_append' hflags]
  simp only [Option.bind_some]
  rw [mmsgTake_append' hlen, List.length_append, Nat.add_sub_cancel, List.take_left, Nat.zero_add]
  rfl

theorem assemble_encode {m : Message} (h : m.Valid) : assembleMMsgPayload m.view = some m.payload := by
  have hall := assembleIov_encode m.iov [] h.payload
  rwa [List.append_nil] at hall

/-! ### The shared buffer -/

/-- The loop of `AssembleMMsgPayload`: `g_mmsgPayload` after it, and whether it ended well. -/
def assembleInto : Nat → List U8 → Nat → Mem → Mem × Bool
  | 0, _, _, buffer => (buffer, true)
  | count + 1, cursor, offset, buffer =>
    match mmsgReadU64 cursor with
    | none => (buffer, false)
    | some (len, cursor) =>
      match mmsgTake cursor len with
      | none => (buffer, false)
      | some (part, cursor) =>
        assembleInto count cursor (offset + len) (memcpy buffer offset (Mem.ofBytes part) len)

/-- `AssembleMMsgPayload`: `g_mmsgPayload` after it, and `*data`. A single part is not copied. -/
def assembledPayload (buffer : Mem) (view : MMsgView) : Mem × Option Mem :=
  if view.iovCount = 1 then
    (buffer, do
      let (len, cursor) ← mmsgReadU64 view.iov
      let (part, _) ← mmsgTake cursor len
      return Mem.ofBytes part)
  else
    let assembled := assembleInto view.iovCount view.iov 0 buffer
    (assembled.1, if assembled.2 then some assembled.1 else none)

theorem mmsgTake_some {cursor bytes rest : List U8} {n : Nat} (h : mmsgTake cursor n = some (bytes, rest)) :
    cursor = bytes ++ rest ∧ bytes.length = n := by
  unfold mmsgTake at h
  split at h
  · cases h
  · cases h
    exact ⟨(List.take_append_drop n cursor).symm, by rw [List.length_take]; omega⟩

theorem mmsgReadU64_some {cursor rest : List U8} {n : Nat} (h : mmsgReadU64 cursor = some (n, rest)) :
    ∃ word, cursor = word ++ rest ∧ ∀ more, mmsgReadU64 (word ++ more) = some (n, more) := by
  obtain ⟨⟨word, rest'⟩, htake, heq⟩ := Option.map_eq_some_iff.mp h
  cases heq
  obtain ⟨hcursor, hlen⟩ := mmsgTake_some htake
  refine ⟨word, hcursor, fun more => ?_⟩
  unfold mmsgReadU64
  rw [mmsgTake_append' hlen]
  rfl

/-- What `ParseMMsg` skips as parts can be assembled, whatever stands behind it. -/
theorem parseIov_assemble {count : Nat} {cursor rest : List U8} {payloadLen total : Nat}
    (h : parseIov count cursor payloadLen = some (rest, total)) :
    ∃ parts bytes, cursor = parts ++ rest ∧ (∀ more, assembleIov count (parts ++ more) = some bytes) ∧
      total = payloadLen + bytes.length := by
  induction count generalizing cursor payloadLen with
  | zero =>
    cases h
    exact ⟨[], [], rfl, fun _ => rfl, rfl⟩
  | succ count ih =>
    rw [parseIov] at h
    obtain ⟨⟨len, cursor'⟩, hread, h⟩ := Option.bind_eq_some_iff.mp h
    dsimp only at h
    split at h
    · cases h
    · obtain ⟨⟨part, cursor''⟩, htake, h⟩ := Option.bind_eq_some_iff.mp h
      obtain ⟨parts, bytes, hcursor, hbytes, htotal⟩ := ih h
      obtain ⟨word, hword, hmore⟩ := mmsgReadU64_some hread
      obtain ⟨hpart, hlen⟩ := mmsgTake_some htake
      refine ⟨word ++ (part ++ parts), part ++ bytes, ?_, fun more => ?_, ?_⟩
      · rw [hword, hpart, show cursor'' = parts ++ rest from hcursor, List.append_assoc, List.append_assoc]
      · rw [assembleIov, List.append_assoc, hmore]
        simp only [Option.bind_eq_bind, Option.bind_some]
        rw [List.append_assoc, mmsgTake_append' hlen]
        simp only [Option.bind_some]
        rw [hbytes]
        rfl
      · rw [htotal, List.length_append, hlen, Nat.add_assoc]

/-- A message that was parsed has a payload, of the length that was counted. -/
theorem parseMMsg_assemble {cursor rest : List U8} {view : MMsgView}
    (h : parseMMsg cursor = some (view, rest)) :
    ∃ bytes, assembleMMsgPayload view = some bytes ∧ bytes.length = view.payloadLen := by
  unfold parseMMsg at h
  obtain ⟨⟨nameLen, c1⟩, -, h⟩ := Option.bind_eq_some_iff.mp h
  obtain ⟨⟨name, c2⟩, -, h⟩ := Option.bind_eq_some_iff.mp h
  obtain ⟨⟨iovCount, iov⟩, -, h⟩ := Option.bind_eq_some_iff.mp h
  dsimp only at h
  split at h
  · cases h
  · obtain ⟨⟨c3, payloadLen⟩, hiov, h⟩ := Option.bind_eq_some_iff.mp h
    obtain ⟨⟨controlLen, c4⟩, -, h⟩ := Option.bind_eq_some_iff.mp h
    obtain ⟨⟨control, c5⟩, -, h⟩ := Option.bind_eq_some_iff.mp h
    obtain ⟨⟨flags, c6⟩, -, h⟩ := Option.bind_eq_some_iff.mp h
    obtain ⟨⟨len, c7⟩, -, h⟩ := Option.bind_eq_some_iff.mp h
    cases h
    obtain ⟨parts, bytes, hsplit, hbytes, htotal⟩ := parseIov_assemble hiov
    refine ⟨bytes, ?_, by rw [htotal, Nat.zero_add]⟩
    show assembleIov iovCount (iov.take (iov.length - c3.length)) = some bytes
    rw [hsplit, List.length_append, Nat.add_sub_cancel, List.take_left]
    simpa using hbytes []

theorem assembleInto_bytes {count : Nat} {cursor bytes : List U8} (h : assembleIov count cursor = some bytes)
    (offset : Nat) (buffer : Mem) :
    ∃ after, assembleInto count cursor offset buffer = (after, true) ∧
      (∀ i, i < bytes.length → after (offset + i) = Mem.ofBytes bytes i) ∧
      ∀ i, i < offset → after i = buffer i := by
  induction count generalizing cursor bytes offset buffer with
  | zero =>
    cases h
    exact ⟨buffer, rfl, fun i hi => absurd hi (Nat.not_lt_zero i), fun _ _ => rfl⟩
  | succ count ih =>
    rw [assembleIov] at h
    obtain ⟨⟨len, cursor'⟩, hread, h⟩ := Option.bind_eq_some_iff.mp h
    obtain ⟨⟨part, cursor''⟩, htake, h⟩ := Option.bind_eq_some_iff.mp h
    obtain ⟨rest, hrest, heq⟩ := Option.bind_eq_some_iff.mp h
    cases heq
    obtain ⟨-, hlen⟩ := mmsgTake_some htake
    obtain ⟨after, hafter, hnew, hold⟩ := ih hrest (offset + len) (memcpy buffer offset (Mem.ofBytes part) len)
    refine ⟨after, ?_, fun i hi => ?_, fun i hi => ?_⟩
    · rw [assembleInto, hread]
      dsimp only
      rw [htake]
      exact hafter
    · unfold Mem.ofBytes
      rw [List.length_append] at hi
      by_cases hpart : i < len
      · rw [hold _ (by omega), memcpy_inside _ _ _ _ _ hpart, List.getD_append _ _ _ _ (by omega)]
        rfl
      · have hat := hnew (i - len) (by omega)
        rw [show offset + len + (i - len) = offset + i by omega] at hat
        rw [hat, List.getD_append_right _ _ _ _ (by omega), hlen]
        rfl
    · rw [hold _ (by omega), memcpy_outside _ _ _ _ _ (.inl hi)]

/-- **What is handed over is the parts one behind the other**, whatever the buffer held before. -/
theorem assembledPayload_bytes {view : MMsgView} {bytes : List U8}
    (h : assembleMMsgPayload view = some bytes) (buffer : Mem) :
    ∃ data, (assembledPayload buffer view).2 = some data ∧ data.bytes bytes.length = bytes := by
  unfold assembledPayload
  unfold assembleMMsgPayload at h
  split
  · rename_i hone
    rw [hone, assembleIov] at h
    obtain ⟨⟨len, cursor⟩, hread, h⟩ := Option.bind_eq_some_iff.mp h
    obtain ⟨⟨part, rest⟩, htake, h⟩ := Option.bind_eq_some_iff.mp h
    cases h
    refine ⟨Mem.ofBytes part, ?_, ?_⟩
    · simp only [hread, Option.bind_eq_bind, Option.bind_some, htake]
      rfl
    · rw [List.append_nil, Mem.bytes_ofBytes]
  · obtain ⟨after, hafter, hnew, -⟩ := assembleInto_bytes h 0 buffer
    refine ⟨after, by rw [hafter]; rfl, ?_⟩
    rw [← Mem.bytes_ofBytes bytes]
    simp only [Mem.bytes_length]
    refine Mem.bytes_congr fun i hi => ?_
    have hat := hnew i hi
    rwa [Nat.zero_add] at hat

end SysZerotier.Mitm
