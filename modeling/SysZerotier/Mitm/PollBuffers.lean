import SysZerotier.Mitm.Readiness
import SysZerotier.Library.Guard

/-! `Poll` read a second time, every access to the client's two buffers guarded.

Both sizes are the client's choice. The number of entries is bounded by the output
buffer alone, and both loops go over as many: `poll_safe_iff` says for which sizes no
access leaves its buffer, and `poll_reads` that what is computed then is `Poll`. A
`PollFd` of the function's own is its eight bytes. -/
namespace SysZerotier.Mitm.PollBuffers
open Net Port Library

/-- `memcpy(&p, fds + i * sizeof(p), sizeof(p))`. -/
def readEntry (fds : Buffer U8) (i : Nat) : Guarded (List U8) := fds.slice (8 * i) 8

/-- `memcpy(fds + i * sizeof(p), &p, sizeof(p))`. -/
def writeEntry (fds : Buffer U8) (i : Nat) (p : List U8) : Guarded (Buffer U8) :=
  fds.copy (8 * i) ⟨Mem.ofBytes p, 8⟩ 8

/-- The input is copied to the output when it fits. -/
def prefill (inFds outFds : Buffer U8) : Guarded (Buffer U8) :=
  if inFds.size ≤ outFds.size then outFds.copy 0 inFds inFds.size else return outFds

/-- The first loop: `watches_vnet` and `vnet_ready_now`. -/
def watchLoop (s : Shim) (pid : U64) (inFds : Buffer U8) : List Nat → Bool → Bool → Guarded (Bool × Bool)
  | [], watching, ready => return (watching, ready)
  | i :: rest, watching, ready => do
    let p ← readEntry inFds i
    if (pollFd p 0).pollsIn && s.table.getLanVfd pid (pollFd p 0).fd != InvalidSocket then
      watchLoop s pid inFds rest true (ready || s.lanSocketReadable pid (pollFd p 0).fd)
    else watchLoop s pid inFds rest watching ready

/-- The merge loop. -/
def mergeLoop (later : Shim) (pid : U64) : List Nat → Int → Buffer U8 → Guarded (Int × Buffer U8)
  | [], merged, outFds => return (merged, outFds)
  | i :: rest, merged, outFds => do
    let p ← readEntry outFds i
    if (pollFd p 0).pollsIn && later.lanSocketReadable pid (pollFd p 0).fd then
      let outFds ← writeEntry outFds i (setPollIn p 0)
      mergeLoop later pid rest (if (pollFd p 0).revents = 0 then merged + 1 else merged) outFds
    else mergeLoop later pid rest merged outFds

/-- The real service reads the whole input buffer and writes to the front of the output buffer. -/
def poll (real : Request → Except U32 Answer) (s later : Shim) (pid : U64) (nfds timeout : Int)
    (inFds outFds : Buffer U8) : Guarded (Except U32 Answer) := do
  let count := if 0 < nfds then min nfds.toNat (outFds.size / 8) else 0
  let outFds ← prefill inFds outFds
  let found ← watchLoop s pid inFds (List.range count) false false
  let physicalTimeout :=
    if found.2 then 0 else if found.1 && (decide (timeout < 0) || decide (10 < timeout)) then 10 else timeout
  match real (.poll nfds physicalTimeout (Mem.bytes inFds.data inFds.size) outFds.size) with
  | .error rc => return .error rc
  | .ok a =>
    let outFds : Buffer U8 := ⟨overwrite (a.outs.headD []) outFds.data, outFds.size⟩
    if 0 ≤ a.ret ∧ found.1 then
      let merged ← mergeLoop later pid (List.range count) a.ret outFds
      return .ok { a with ret := merged.1, err := 0, outs := Mem.bytes merged.2.data merged.2.size :: a.outs.tail }
    else return .ok { a with outs := Mem.bytes outFds.data outFds.size :: a.outs.tail }

/-! ### One entry -/

theorem readEntry_ok {fds : Buffer U8} {i : Nat} (h : 8 * i + 8 ≤ fds.size) :
    readEntry fds i = .ok (((Mem.advance fds.data (8 * i))).bytes 8) := Buffer.slice_ok h

/-- An entry that does not end within the buffer cannot be read. -/
theorem readEntry_fault {fds : Buffer U8} {i : Nat} (h : ¬8 * i + 8 ≤ fds.size) :
    ∃ fault, readEntry fds i = .error fault := by
  rw [readEntry, Buffer.slice]
  by_cases hstart : 8 * i ≤ fds.size
  · rw [Buffer.shift_ok hstart, ok_bind, Buffer.take, if_neg (by dsimp only; omega)]
    exact ⟨_, rfl⟩
  · rw [Buffer.shift, if_neg hstart]
    exact ⟨_, rfl⟩

/-- The entry read is the one of the array. -/
theorem pollFd_entry {data : Mem} {i : Nat} : pollFd ((data.advance (8 * i)).bytes 8) 0 = pollAt data i := by
  refine Shim.pollAt_congr fun k hk => ?_
  rw [Nat.mul_zero, Nat.zero_add, Mem.ofBytes_bytes _ _ _ hk, Mem.advance_apply]

/-- Writing the marked entry back marks it in the array. -/
theorem writeEntry_marked (data : Mem) {size i : Nat} (h : 8 * i + 8 ≤ size) :
    ∃ marked : Mem,
      writeEntry ⟨data, size⟩ i (setPollIn ((data.advance (8 * i)).bytes 8) 0) = .ok ⟨marked, size⟩ ∧
        marked.bytes size = setPollIn (data.bytes size) i := by
  unfold writeEntry
  rw [Buffer.copy_ok (le_refl 8) h]
  refine ⟨_, rfl, ?_⟩
  have hlen : ((data.advance (8 * i)).bytes 8).length = 8 := Mem.bytes_length ..
  have hsize := (Shim.setPollIn_length (data.bytes size) i).trans (Mem.bytes_length data size)
  have hbytes := Mem.bytes_ofBytes (setPollIn (data.bytes size) i)
  rw [hsize] at hbytes
  rw [← hbytes]
  refine Mem.bytes_congr fun k hk => ?_
  by_cases hin : 8 * i ≤ k ∧ k < 8 * i + 8
  · obtain ⟨j, rfl⟩ := Nat.exists_eq_add_of_le hin.1
    rw [if_pos hin, Nat.add_sub_cancel_left]
    show Mem.ofBytes (setPollIn ((data.advance (8 * i)).bytes 8) 0) j = _
    by_cases hj : j = 6
    · subst hj
      have hown := Shim.setPollIn_same (show 8 * 0 + 6 < ((data.advance (8 * i)).bytes 8).length by
        rw [hlen]; decide)
      rw [Nat.mul_zero, Nat.zero_add, Mem.ofBytes_bytes _ _ _ (by decide), Mem.advance_apply] at hown
      rw [hown, Shim.setPollIn_same (by rw [Mem.bytes_length]; exact hk), Mem.ofBytes_bytes _ _ _ hk]
    · rw [Shim.setPollIn_other _ (by omega), Shim.setPollIn_other _ (by omega), Mem.ofBytes_bytes _ _ _ (by omega),
        Mem.ofBytes_bytes _ _ _ hk, Mem.advance_apply]
  · rw [if_neg hin, Shim.setPollIn_other _ (by omega), Mem.ofBytes_bytes _ _ _ hk]

/-! ### The loops -/

section Loops
variable (s later : Shim) (pid : U64)

theorem watchLoop_ok {data : Mem} {size : Nat} (entries : List Nat) (h : ∀ i ∈ entries, 8 * i + 8 ≤ size)
    (watching ready : Bool) :
    watchLoop s pid ⟨data, size⟩ entries watching ready =
      .ok (watching || entries.any fun i => (pollAt data i).pollsIn &&
          s.table.getLanVfd pid (pollAt data i).fd != InvalidSocket,
        ready || entries.any fun i => (pollAt data i).pollsIn && s.lanSocketReadable pid (pollAt data i).fd) := by
  induction entries generalizing watching ready with
  | nil => simp [watchLoop]
  | cons i entries ih =>
    have hi := h i (List.mem_cons_self ..)
    have hrest := ih fun j hj => h j (List.mem_cons_of_mem i hj)
    rw [watchLoop, readEntry_ok hi, ok_bind, pollFd_entry, List.any_cons, List.any_cons]
    generalize pollAt data i = p
    by_cases hwatch : (p.pollsIn && s.table.getLanVfd pid p.fd != InvalidSocket) = true
    · rw [if_pos hwatch, hrest, hwatch, (Bool.and_eq_true_iff.mp hwatch).1]
      simp [Bool.or_assoc]
    · have hdeaf : (p.pollsIn && s.lanSocketReadable pid p.fd) = false := by
        rw [← Bool.not_eq_true, Bool.and_eq_true]
        rintro ⟨hp, hr⟩
        exact hwatch (by rw [hp, Shim.lanSocketReadable_mirrored hr]; rfl)
      rw [Bool.not_eq_true] at hwatch
      rw [hwatch, if_neg Bool.false_ne_true, hrest, hdeaf, Bool.false_or, Bool.false_or]

theorem watchLoop_fault {inFds : Buffer U8} (entries : List Nat) (h : ∃ i ∈ entries, ¬8 * i + 8 ≤ inFds.size)
    (watching ready : Bool) : ∃ fault, watchLoop s pid inFds entries watching ready = .error fault := by
  induction entries generalizing watching ready with
  | nil => simp at h
  | cons i entries ih =>
    rw [watchLoop]
    by_cases hi : 8 * i + 8 ≤ inFds.size
    · have hrest : ∃ i ∈ entries, ¬8 * i + 8 ≤ inFds.size := by
        obtain ⟨j, hj, hout⟩ := h
        rcases List.mem_cons.mp hj with rfl | hj
        · exact absurd hi hout
        · exact ⟨j, hj, hout⟩
      rw [readEntry_ok hi, ok_bind]
      split
      · exact ih hrest _ _
      · exact ih hrest _ _
    · obtain ⟨fault, hfault⟩ := readEntry_fault hi
      rw [hfault]
      exact ⟨fault, rfl⟩

/-- The loop merges into the bytes of the buffer. -/
theorem mergeLoop_polled (data : Mem) {size : Nat} (entries : List Nat) (h : ∀ i ∈ entries, 8 * i + 8 ≤ size)
    (merged : Int) :
    ∃ after : Mem, mergeLoop later pid entries merged ⟨data, size⟩ =
        .ok ((later.mergePolled pid entries (merged, data.bytes size)).1, ⟨after, size⟩) ∧
      after.bytes size = (later.mergePolled pid entries (merged, data.bytes size)).2 := by
  induction entries generalizing merged data with
  | nil => exact ⟨data, rfl, rfl⟩
  | cons i entries ih =>
    have hi := h i (List.mem_cons_self ..)
    have hrest := fun j hj => h j (List.mem_cons_of_mem i hj)
    rw [mergeLoop, readEntry_ok hi, ok_bind, pollFd_entry, Shim.mergePolled, Shim.pollFd_bytes hi]
    split
    · obtain ⟨marked, hwrite, hmarked⟩ := writeEntry_marked data hi
      rw [hwrite, ok_bind, ← hmarked]
      exact ih marked hrest _
    · exact ih data hrest _

end Loops

/-! ### The command -/

section Command
variable (real : Request → Except U32 Answer) (s later : Shim) (pid : U64) (nfds timeout : Int)

/-- How many entries `Poll` goes over. -/
theorem count_eq (size : Nat) :
    (if 0 < nfds then min nfds.toNat (size / 8) else 0) = min nfds.toNat (size / 8) := by
  split
  · rfl
  · omega

theorem entries_fit {count size : Nat} (h : 8 * count ≤ size) :
    ∀ i ∈ List.range count, 8 * i + 8 ≤ size := by
  intro i hi
  have := List.mem_range.mp hi
  omega

/-- The output buffer has room for the entries gone over. -/
theorem count_fits (nfds size : Nat) : 8 * min nfds (size / 8) ≤ size := by omega

/-- The input is copied to the output buffer where `Poll` finds it. -/
theorem prefill_copied (inFds : Buffer U8) (outFds : Buffer U8) :
    prefill inFds outFds = .ok ⟨(Memory.mk inFds.data outFds.data).copied
      (Mem.bytes inFds.data inFds.size) outFds.size, outFds.size⟩ := by
  unfold prefill Memory.copied
  rw [Mem.bytes_length]
  split
  · rename_i h
    rw [Buffer.copy_ok (le_refl _) (by omega)]
    congr 2
    funext j
    by_cases hj : j < inFds.size
    · rw [if_pos ⟨Nat.zero_le j, by omega⟩, Shim.overwrite_below (by rw [Mem.bytes_length]; exact hj),
        Mem.ofBytes_bytes _ _ _ hj, Nat.sub_zero]
    · rw [if_neg (by omega), Shim.overwrite_beyond (by rw [Mem.bytes_length]; omega)]
  · rfl

/-- With room for the entries in the input buffer this is `Poll`, with the client's two
buffers where its memory is. -/
theorem poll_reads {inFds outFds : Buffer U8} (hfit : 8 * min nfds.toNat (outFds.size / 8) ≤ inFds.size) :
    poll real s later pid nfds timeout inFds outFds =
      .ok (Shim.pollAcross real s later ⟨inFds.data, outFds.data⟩ pid nfds timeout
        (Mem.bytes inFds.data inFds.size) outFds.size).reply := by
  have hin := entries_fit hfit
  have hout := entries_fit (count_fits nfds.toNat outFds.size)
  unfold poll Shim.pollAcross Shim.relayThen
  dsimp only
  rw [count_eq, prefill_copied, ok_bind, Shim.overwrite_own]
  dsimp only
  rw [watchLoop_ok s pid _ hin, ok_bind, Bool.false_or, Bool.false_or]
  dsimp only
  split
  · rename_i heq
    rw [heq]
    rfl
  · rename_i a heq
    rw [heq]
    dsimp only
    split
    · obtain ⟨after, hloop, hafter⟩ := mergeLoop_polled later pid (overwrite (a.outs.headD [])
        ((Memory.mk inFds.data outFds.data).copied (Mem.bytes inFds.data inFds.size) outFds.size)) _ hout a.ret
      rw [hloop, ok_bind]
      dsimp only
      rw [hafter]
      rfl
    · rfl

/-- With fewer the first entry beyond the input buffer is read all the same. -/
theorem poll_fault {inFds outFds : Buffer U8} (hshort : ¬8 * min nfds.toNat (outFds.size / 8) ≤ inFds.size) :
    ∃ fault, poll real s later pid nfds timeout inFds outFds = .error fault := by
  have hbeyond : ∃ i ∈ List.range (min nfds.toNat (outFds.size / 8)), ¬8 * i + 8 ≤ inFds.size :=
    ⟨inFds.size / 8, List.mem_range.mpr (by omega), by omega⟩
  obtain ⟨fault, hfault⟩ := watchLoop_fault s pid _ hbeyond false false
  refine ⟨fault, ?_⟩
  unfold poll
  dsimp only
  rw [count_eq, prefill_copied, ok_bind]
  dsimp only
  rw [hfault]
  rfl

/-- **`Poll` stays within the client's buffers exactly when the entries it goes over are
in the input buffer**: as many as `nfds` says, but no more than the output buffer has. -/
theorem poll_safe_iff (inFds outFds : Buffer U8) :
    (∃ r, poll real s later pid nfds timeout inFds outFds = .ok r) ↔
      8 * min nfds.toNat (outFds.size / 8) ≤ inFds.size := by
  constructor
  · rintro ⟨r, hr⟩
    by_contra hshort
    obtain ⟨fault, hfault⟩ := poll_fault real s later pid nfds timeout hshort
    rw [hfault] at hr
    cases hr
  · intro hfit
    have hin := entries_fit hfit
    have hout := entries_fit (count_fits nfds.toNat outFds.size)
    unfold poll
    dsimp only
    rw [count_eq, prefill_copied, ok_bind]
    dsimp only
    rw [watchLoop_ok s pid _ hin, ok_bind]
    split
    · exact ⟨_, rfl⟩
    · rename_i a _
      split
      · obtain ⟨after, hloop, -⟩ := mergeLoop_polled later pid _ _ hout a.ret
        rw [hloop]
        exact ⟨_, rfl⟩
      · exact ⟨_, rfl⟩

end Command

/-- Two entries asked for with room for two in the output buffer and one in the input:
the second is read beyond the input's end. -/
theorem poll_reads_past_input :
    ¬∀ (real : Request → Except U32 Answer) (s later : Shim) (pid : U64) (nfds timeout : Int)
      (inFds outFds : Buffer U8), ∃ r, poll real s later pid nfds timeout inFds outFds = .ok r := by
  intro h
  let idle : Shim := ⟨none, .empty, 0, 0⟩
  obtain ⟨r, hr⟩ := h (fun _ => .error 0) idle idle 7 2 0 ⟨fun _ => 0, 8⟩ ⟨fun _ => 0, 16⟩
  obtain ⟨fault, hfault⟩ := @poll_fault (fun _ => .error 0) idle idle 7 2 0 ⟨fun _ => 0, 8⟩ ⟨fun _ => 0, 16⟩
    (by decide)
  rw [hfault] at hr
  cases hr

end SysZerotier.Mitm.PollBuffers
