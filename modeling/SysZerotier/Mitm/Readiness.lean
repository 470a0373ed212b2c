import SysZerotier.Mitm.Commands
import SysZerotier.Net.Demux
import SysZerotier.Library.ByteSet

/-! What `Select` and `Poll` add to the real service's answer.

While a command waits at the real service datagrams arrive, so the shim looks at the
virtual sockets twice: `selectAcross` and `pollAcross` are the two commands with one
shim for either look. What the second look finds readable is added to the answer, and
the count with it (`readiness_merged`). -/
namespace SysZerotier.Mitm
open Net Port Library

theorem fdIsSet_eq (fd : Nat) (fds : List U8) : fdIsSet fd fds = ByteSet.has fd fds := rfl

theorem fdSet_eq (fd : Nat) (fds : List U8) : fdSet fd fds = ByteSet.insert fd fds := rfl

/-- How many of the first `count` entries have an event. -/
def polledCount (fds : List U8) (count : Nat) : Nat :=
  ((Finset.range count).filter fun i => (pollFd fds i).revents ≠ 0).card

/-- `p.revents |= PollIn`. -/
def PollFd.readable (p : PollFd) : PollFd := { p with revents := p.revents ||| 1 }

namespace Shim

section Across
variable (real : Request → Except U32 Answer)

/-- `Select`, with what it finds before the wait and after. -/
def selectAcross (s later : Shim) (pid : U64) (nfds : Int) (timeout : SelectTimeval) (rd wr ex : List U8)
    (ord owr oex : Nat) : Execution :=
  let watching := s.watches pid nfds.toNat rd
  let wait := boundedTimeval timeout watching (s.readyNow pid nfds.toNat rd)
  relayThen real later (.select nfds wait rd wr ex ord owr oex) fun a =>
    if 0 ≤ a.ret ∧ watching then
      let merged := mergeReadable later pid rd (List.range nfds.toNat) (a.ret, a.outs.headD [])
      (later, { a with ret := merged.1, err := 0, outs := merged.2 :: a.outs.tail })
    else (later, a)

/-- `Poll`, with what it finds before the wait and after. -/
def pollAcross (s later : Shim) (mem : Memory) (pid : U64) (nfds timeout : Int) (inFds : List U8)
    (outFds : Nat) : Execution :=
  let count := min nfds.toNat (outFds / 8)
  let polled := pollAt (overwrite inFds mem.behind)
  let watching := (List.range count).any fun i =>
    (polled i).pollsIn && s.table.getLanVfd pid (polled i).fd != InvalidSocket
  let ready := (List.range count).any fun i => (polled i).pollsIn && s.lanSocketReadable pid (polled i).fd
  let physicalTimeout :=
    if ready then 0 else if watching && (decide (timeout < 0) || decide (10 < timeout)) then 10 else timeout
  relayThen real later (.poll nfds physicalTimeout inFds outFds) fun a =>
    let out := (overwrite (a.outs.headD []) (mem.copied inFds outFds)).bytes outFds
    if 0 ≤ a.ret ∧ watching then
      let merged := mergePolled later pid (List.range count) (a.ret, out)
      (later, { a with ret := merged.1, err := 0, outs := merged.2 :: a.outs.tail })
    else (later, { a with outs := out :: a.outs.tail })

/-- With nothing arriving meanwhile these are the commands themselves. -/
theorem select_across (s : Shim) (pid : U64) (nfds : Int) (timeout : SelectTimeval) (rd wr ex : List U8)
    (ord owr oex : Nat) :
    select real s pid nfds timeout rd wr ex ord owr oex =
      selectAcross real s s pid nfds timeout rd wr ex ord owr oex := rfl

theorem poll_across (s : Shim) (mem : Memory) (pid : U64) (nfds timeout : Int) (inFds : List U8)
    (outFds : Nat) :
    poll real s mem pid nfds timeout inFds outFds = pollAcross real s s mem pid nfds timeout inFds outFds := rfl

end Across

/-! ### Descriptor sets -/

/-- The loop adds the readable descriptors to the set, and counts what it adds. -/
theorem mergeReadable_spec (s : Shim) (pid : U64) {rd : List U8} (fds : List Nat) (count : Int) {ord : List U8}
    (hsize : ord.length = rd.length) :
    (mergeReadable s pid rd fds (count, ord)).2.length = ord.length ∧
      (∀ fd, fdIsSet fd (mergeReadable s pid rd fds (count, ord)).2 =
        (fdIsSet fd ord || (fds.contains fd && (fdIsSet fd rd && s.lanSocketReadable pid fd)))) ∧
      (mergeReadable s pid rd fds (count, ord)).1 =
        count + ByteSet.card (mergeReadable s pid rd fds (count, ord)).2 - ByteSet.card ord := by
  induction fds generalizing count ord with
  | nil => exact ⟨rfl, fun fd => by simp [mergeReadable], by simp [mergeReadable]⟩
  | cons k fds ih =>
    rw [mergeReadable]
    by_cases hk : (fdIsSet k rd && s.lanSocketReadable pid k) = true
    · rw [if_pos hk]
      have hbyte : k / 8 < ord.length := by
        have := (Bool.and_eq_true_iff.mp hk).1
        rw [fdIsSet, Bool.and_eq_true, decide_eq_true_eq] at this
        rw [hsize]
        exact this.1
      have hlen : (fdSet k ord).length = ord.length := ByteSet.length_insert k ord
      obtain ⟨h1, h2, h3⟩ := ih (if fdIsSet k ord then count else count + 1) (hlen.trans hsize)
      refine ⟨h1.trans hlen, fun fd => ?_, ?_⟩
      · rw [h2, fdSet_eq, fdIsSet_eq fd (ByteSet.insert k ord), ByteSet.has_insert, ← fdIsSet_eq,
          List.contains_cons]
        by_cases hfd : fd = k
        · subst hfd
          simp only [hbyte, hk, decide_true, Bool.and_self, Bool.or_true, Bool.true_or, BEq.rfl]
        · simp only [hfd, decide_false, Bool.false_and, Bool.or_false, beq_eq_false_iff_ne.mpr hfd, Bool.false_or]
      · have hcard := ByteSet.card_insert hbyte
        rw [← fdSet_eq, ← fdIsSet_eq] at hcard
        rw [h3, hcard]
        split <;> push_cast <;> ring
    · rw [if_neg hk]
      obtain ⟨h1, h2, h3⟩ := ih count hsize
      refine ⟨h1, fun fd => ?_, h3⟩
      rw [h2, List.contains_cons]
      by_cases hfd : fd = k
      · subst hfd
        rw [Bool.not_eq_true] at hk
        rw [hk, Bool.and_false, Bool.and_false]
      · rw [beq_eq_false_iff_ne.mpr hfd, Bool.false_or]

/-- What is readable is mirrored. -/
theorem lanSocketReadable_mirrored {s : Shim} {pid : U64} {fd : Int} (h : s.lanSocketReadable pid fd = true) :
    (s.table.getLanVfd pid fd != InvalidSocket) = true := (Bool.and_eq_true_iff.mp h).1

/-! ### Arrays of entries -/

theorem overwrite_below {bytes : List U8} {under : Mem} {j : Nat} (h : j < bytes.length) :
    overwrite bytes under j = Mem.ofBytes bytes j := by
  simp [overwrite, Mem.ofBytes, h]

theorem overwrite_beyond {bytes : List U8} {under : Mem} {j : Nat} (h : bytes.length ≤ j) :
    overwrite bytes under j = under j := by simp [overwrite, h]

/-- Bytes written where they came from. -/
theorem overwrite_own (p : Mem) (n : Nat) : overwrite (p.bytes n) p = p := by
  funext j
  by_cases hj : j < n
  · rw [overwrite_below (by rw [Mem.bytes_length]; exact hj), Mem.ofBytes_bytes _ _ _ hj]
  · rw [overwrite_beyond (by rw [Mem.bytes_length]; omega)]

/-- A buffer that is written as a whole keeps nothing of what it held. -/
theorem overwrite_bytes (bytes : List U8) (under : Mem) : (overwrite bytes under).bytes bytes.length = bytes :=
  (Mem.bytes_congr fun _ hj => overwrite_below hj).trans (Mem.bytes_ofBytes bytes)

/-- An entry is its eight bytes. -/
theorem pollAt_congr {p q : Mem} {i j : Nat} (h : ∀ k < 8, p (8 * i + k) = q (8 * j + k)) :
    pollAt p i = pollAt q j := by
  simp only [pollAt, Mem.advance_apply, h 0 (by decide), h 1 (by decide), h 2 (by decide), h 3 (by decide),
    h 4 (by decide), h 5 (by decide), h 6 (by decide), h 7 (by decide)]

/-- An entry that the array has is read from there. -/
theorem pollAt_within {fds : List U8} {under : Mem} {i : Nat} (h : 8 * i + 8 ≤ fds.length) :
    pollAt (overwrite fds under) i = pollFd fds i := pollAt_congr fun _ hk => overwrite_below (by omega)

theorem pollFd_bytes {p : Mem} {n i : Nat} (h : 8 * i + 8 ≤ n) : pollFd (p.bytes n) i = pollAt p i :=
  pollAt_congr fun _ hk => Mem.ofBytes_bytes _ _ _ (by omega)

theorem setPollIn_length (fds : List U8) (i : Nat) : (setPollIn fds i).length = fds.length :=
  List.length_modify ..

theorem setPollIn_other (fds : List U8) {i j : Nat} (h : j ≠ 8 * i + 6) :
    Mem.ofBytes (setPollIn fds i) j = Mem.ofBytes fds j := by
  simp only [Mem.ofBytes, setPollIn, List.getD_eq_getElem?_getD, List.getElem?_modify, if_neg (Ne.symm h)]
  cases fds[j]? <;> rfl

theorem setPollIn_same {fds : List U8} {i : Nat} (h : 8 * i + 6 < fds.length) :
    Mem.ofBytes (setPollIn fds i) (8 * i + 6) = Mem.ofBytes fds (8 * i + 6) ||| 1 := by
  simp only [Mem.ofBytes, setPollIn, List.getD_eq_getElem?_getD, List.getElem?_modify, List.getElem?_eq_getElem h,
    if_true]
  rfl

theorem pollFd_setPollIn {fds : List U8} {i : Nat} (hi : 8 * i + 8 ≤ fds.length) (j : Nat) :
    pollFd (setPollIn fds i) j = if j = i then (pollFd fds i).readable else pollFd fds j := by
  by_cases hji : j = i
  · subst hji
    have hsame := setPollIn_same (show 8 * j + 6 < fds.length by omega)
    have hother : ∀ k, k < 8 → k ≠ 6 →
        Mem.ofBytes (setPollIn fds j) (8 * j + k) = Mem.ofBytes fds (8 * j + k) :=
      fun k _ hk => setPollIn_other fds (by omega)
    have hlow : ∀ hi lo : U8, (hi ++ (lo ||| 1) : U16) = (hi ++ lo) ||| 1 := by
      intro hi lo
      have hone : (1 : U16) = (0 : U8) ++ (1 : U8) := by decide
      rw [hone, BitVec.or_append, show hi ||| (0 : U8) = hi from BitVec.or_zero]
    rw [if_pos rfl]
    simp only [pollFd, pollAt, PollFd.readable, Mem.advance_apply, hsame, hother 0 (by decide) (by decide),
      hother 1 (by decide) (by decide), hother 2 (by decide) (by decide), hother 3 (by decide) (by decide),
      hother 4 (by decide) (by decide), hother 5 (by decide) (by decide), hother 7 (by decide) (by decide), hlow]
  · rw [if_neg hji]
    exact pollAt_congr fun k hk => setPollIn_other fds (by omega)

theorem revents_readable (p : PollFd) : p.readable.revents ≠ 0 := by
  intro h
  have hbit := congrArg (fun v : U16 => v.getLsbD 0) h
  simp [PollFd.readable] at hbit

theorem polledCount_setPollIn {fds : List U8} {i n : Nat} (hi : i < n) (hn : 8 * n ≤ fds.length) :
    polledCount (setPollIn fds i) n =
      if (pollFd fds i).revents = 0 then polledCount fds n + 1 else polledCount fds n := by
  have hset : (Finset.range n).filter (fun j => (pollFd (setPollIn fds i) j).revents ≠ 0) =
      Insert.insert i ((Finset.range n).filter fun j => (pollFd fds j).revents ≠ 0) := by
    ext j
    rw [Finset.mem_insert, Finset.mem_filter, Finset.mem_filter, pollFd_setPollIn (by omega), Finset.mem_range]
    by_cases hji : j = i
    · subst hji
      simp only [if_true, hi, true_and, true_or, iff_true]
      exact revents_readable _
    · simp only [hji, if_false, false_or]
  unfold polledCount
  rw [hset]
  split
  · rename_i h0
    exact Finset.card_insert_of_notMem fun hm => (Finset.mem_filter.mp hm).2 h0
  · rename_i h0
    rw [Finset.insert_eq_of_mem (Finset.mem_filter.mpr ⟨Finset.mem_range.mpr hi, h0⟩)]

/-- The loop marks the entries that ask for it and are readable, and counts those that
had no event before. -/
theorem mergePolled_spec (s : Shim) (pid : U64) {n : Nat} (entries : List Nat) (hlt : ∀ i ∈ entries, i < n)
    (count : Int) {out : List U8} (hn : 8 * n ≤ out.length) :
    (mergePolled s pid entries (count, out)).2.length = out.length ∧
      (∀ j, 8 * n ≤ j → (mergePolled s pid entries (count, out)).2[j]? = out[j]?) ∧
      (∀ i, pollFd (mergePolled s pid entries (count, out)).2 i =
        if i ∈ entries ∧ (pollFd out i).pollsIn = true ∧ s.lanSocketReadable pid (pollFd out i).fd = true
        then (pollFd out i).readable else pollFd out i) ∧
      (mergePolled s pid entries (count, out)).1 =
        count + polledCount (mergePolled s pid entries (count, out)).2 n - polledCount out n := by
  induction entries generalizing count out with
  | nil => exact ⟨rfl, fun _ _ => rfl, fun i => by simp [mergePolled], by simp [mergePolled]⟩
  | cons k entries ih =>
    have hk := hlt k (List.mem_cons_self ..)
    have hrest := fun i hi => hlt i (List.mem_cons_of_mem k hi)
    rw [mergePolled]
    by_cases hmark : ((pollFd out k).pollsIn && s.lanSocketReadable pid (pollFd out k).fd) = true
    · have hlen := setPollIn_length out k
      obtain ⟨h1, h2, h3, h4⟩ := ih hrest (if (pollFd out k).revents = 0 then count + 1 else count)
        (hn.trans hlen.ge)
      rw [if_pos hmark]
      refine ⟨h1.trans hlen, fun j hj => ?_, fun i => ?_, ?_⟩
      · have hne : ¬8 * k + 6 = j := by omega
        rw [h2 j hj, setPollIn, List.getElem?_modify]
        simp only [hne, if_false, Functor.map, Option.map_id']
      · rw [h3, pollFd_setPollIn (by omega)]
        by_cases hik : i = k
        · subst hik
          have hsame : (pollFd out i).readable.readable = (pollFd out i).readable := by
            simp only [PollFd.readable, BitVec.or_assoc, BitVec.or_self]
          have hboth := Bool.and_eq_true_iff.mp hmark
          simp only [if_true, List.mem_cons_self, hboth, and_self, hsame]
          exact ite_self _
        · simp only [hik, if_false, List.mem_cons, false_or]
      · rw [h4, polledCount_setPollIn hk hn]
        split <;> push_cast <;> ring
    · obtain ⟨h1, h2, h3, h4⟩ := ih hrest count hn
      rw [if_neg hmark]
      refine ⟨h1, h2, fun i => ?_, h4⟩
      rw [h3]
      by_cases hik : i = k
      · subst hik
        rw [Bool.and_eq_true] at hmark
        rw [if_neg fun h => hmark h.2, if_neg fun h => hmark h.2]
      · simp only [List.mem_cons, hik, false_or]

/-! ### The commands -/

section Merged
variable {real : Request → Except U32 Answer} {s later : Shim}

theorem relayThen_ok {r : Request} {a : Answer} (f : Answer → Shim × Answer) (h : real r = .ok a) :
    (relayThen real s r f).reply = .ok (f a).2 := by
  unfold relayThen
  rw [h]

theorem relayThen_forwarded (real : Request → Except U32 Answer) (s : Shim) (r : Request)
    (f : Answer → Shim × Answer) : (relayThen real s r f).forwarded = some r := by
  unfold relayThen
  cases real r <;> rfl

theorem select_merges (htable : later.table = s.table) {pid : U64} {nfds : Int} {timeout : SelectTimeval}
    {rd wr ex ord owr oex : List U8} {a : Answer}
    (hreal : ∀ r, (selectAcross real s later pid nfds timeout rd wr ex ord.length owr.length
      oex.length).forwarded = some r → real r = .ok a)
    (houts : a.outs = [ord, owr, oex]) (hsize : ord.length = rd.length) (hret : 0 ≤ a.ret)
    (hcount : a.ret = ByteSet.card ord + ByteSet.card owr + ByteSet.card oex) :
    ∃ b merged,
      (selectAcross real s later pid nfds timeout rd wr ex ord.length owr.length oex.length).reply = .ok b ∧
        b.outs = [merged, owr, oex] ∧ merged.length = ord.length ∧
        (∀ fd : Nat, fdIsSet fd merged = (fdIsSet fd ord ||
          (decide ((fd : Int) < nfds) && (fdIsSet fd rd && later.lanSocketReadable pid fd)))) ∧
        b.ret = ByteSet.card merged + ByteSet.card owr + ByteSet.card oex := by
  have hforwarded := relayThen_forwarded real later
  unfold selectAcross at hreal ⊢
  dsimp only at hreal ⊢
  rw [relayThen_ok _ (hreal _ (hforwarded _ _))]
  have hrange : ∀ fd : Nat, (List.range nfds.toNat).contains fd = decide ((fd : Int) < nfds) := by
    intro fd
    rw [Bool.eq_iff_iff, List.contains_iff_mem, List.mem_range, decide_eq_true_eq]
    omega
  by_cases hwatch : s.watches pid nfds.toNat rd = true
  · obtain ⟨h1, h2, h3⟩ := mergeReadable_spec later pid (List.range nfds.toNat) a.ret hsize
    rw [if_pos ⟨hret, hwatch⟩, houts, List.headD_cons]
    refine ⟨_, _, rfl, rfl, h1, fun fd => ?_, ?_⟩
    · rw [← hrange]
      exact h2 fd
    · show (mergeReadable later pid rd (List.range nfds.toNat) (a.ret, ord)).1 = _
      omega
  · rw [if_neg fun h => hwatch h.2]
    refine ⟨a, ord, rfl, houts, rfl, fun fd => ?_, hcount⟩
    have hnone : (decide ((fd : Int) < nfds) && (fdIsSet fd rd && later.lanSocketReadable pid fd)) = false := by
      rw [← Bool.not_eq_true]
      intro h
      obtain ⟨hlt, hboth⟩ := Bool.and_eq_true_iff.mp h
      obtain ⟨hset, hready⟩ := Bool.and_eq_true_iff.mp hboth
      have hmirrored := lanSocketReadable_mirrored hready
      rw [htable] at hmirrored
      rw [← hrange, List.contains_iff_mem] at hlt
      exact hwatch (List.any_eq_true.mpr ⟨fd, hlt, by rw [hset, hmirrored]; rfl⟩)
    rw [hnone, Bool.or_false]

theorem poll_merges (htable : later.table = s.table) {mem : Memory} {pid : U64} {nfds timeout : Int}
    {inFds out : List U8} {a : Answer}
    (hreal : ∀ r, (pollAcross real s later mem pid nfds timeout inFds out.length).forwarded = some r →
      real r = .ok a)
    (houts : a.outs = [out]) (hret : 0 ≤ a.ret)
    (hecho : ∀ i < min nfds.toNat (out.length / 8),
      (pollFd out i).fd = (pollAt (overwrite inFds mem.behind) i).fd ∧
        (pollFd out i).events = (pollAt (overwrite inFds mem.behind) i).events)
    (hcount : a.ret = polledCount out (min nfds.toNat (out.length / 8))) :
    ∃ b merged, (pollAcross real s later mem pid nfds timeout inFds out.length).reply = .ok b ∧
      b.outs = [merged] ∧ merged.length = out.length ∧
      (∀ j, 8 * min nfds.toNat (out.length / 8) ≤ j → merged[j]? = out[j]?) ∧
      (∀ i < min nfds.toNat (out.length / 8), pollFd merged i =
        if (pollAt (overwrite inFds mem.behind) i).pollsIn = true ∧
          later.lanSocketReadable pid (pollAt (overwrite inFds mem.behind) i).fd = true
        then (pollFd out i).readable else pollFd out i) ∧
      b.ret = polledCount merged (min nfds.toNat (out.length / 8)) := by
  have hforwarded := relayThen_forwarded real later
  unfold pollAcross at hreal ⊢
  dsimp only at hreal ⊢
  rw [relayThen_ok _ (hreal _ (hforwarded _ _))]
  have hfit : 8 * min nfds.toNat (out.length / 8) ≤ out.length := by omega
  generalize min nfds.toNat (out.length / 8) = n at hecho hcount hfit ⊢
  have hpolls : ∀ i < n, (pollFd out i).pollsIn = (pollAt (overwrite inFds mem.behind) i).pollsIn := by
    intro i hi
    rw [PollFd.pollsIn, PollFd.pollsIn, (hecho i hi).2]
  rw [houts, List.headD_cons, overwrite_bytes]
  split
  · obtain ⟨h1, h2, h3, h4⟩ := mergePolled_spec later pid (List.range n) (fun i hi => List.mem_range.mp hi) a.ret hfit
    refine ⟨_, _, rfl, rfl, h1, h2, fun i hi => ?_, ?_⟩
    · show pollFd (mergePolled later pid (List.range n) (a.ret, out)).2 i = _
      rw [h3, hpolls i hi, (hecho i hi).1]
      simp only [List.mem_range, hi, true_and]
    · show (mergePolled later pid (List.range n) (a.ret, out)).1 = _
      omega
  · rename_i hwatch
    refine ⟨_, out, rfl, rfl, rfl, fun _ _ => rfl, fun i hi => (if_neg ?_).symm, hcount⟩
    rintro ⟨hp, hready⟩
    have hmirrored := lanSocketReadable_mirrored hready
    rw [htable] at hmirrored
    refine hwatch ⟨hret, List.any_eq_true.mpr ⟨i, List.mem_range.mpr hi, ?_⟩⟩
    rw [hp, hmirrored]
    rfl

end Merged

/-- **Readiness is merged exactly.** Let the real service answer what `Select` or `Poll`
forwards with a count that is the number of bits set, or of entries with an event.
Then the read set returned is the service's with the requested descriptors whose
virtual sockets are readable, the entries returned are the service's with `PollIn` in
those that ask for it and are readable (`pollAt_within`: the client's, as far as its
input goes), nothing else differs, and the count returned is again that number. -/
theorem readiness_merged (real : Request → Except U32 Answer) (s later : Shim)
    (htable : later.table = s.table) (pid : U64) (nfds : Int) :
    (∀ (timeout : SelectTimeval) (rd wr ex ord owr oex : List U8) (a : Answer),
      (∀ r, (selectAcross real s later pid nfds timeout rd wr ex ord.length owr.length
        oex.length).forwarded = some r → real r = .ok a) →
      a.outs = [ord, owr, oex] → ord.length = rd.length → 0 ≤ a.ret →
      a.ret = ByteSet.card ord + ByteSet.card owr + ByteSet.card oex →
      ∃ b merged,
        (selectAcross real s later pid nfds timeout rd wr ex ord.length owr.length oex.length).reply = .ok b ∧
          b.outs = [merged, owr, oex] ∧ merged.length = ord.length ∧
          (∀ fd : Nat, fdIsSet fd merged = (fdIsSet fd ord ||
            (decide ((fd : Int) < nfds) && (fdIsSet fd rd && later.lanSocketReadable pid fd)))) ∧
          b.ret = ByteSet.card merged + ByteSet.card owr + ByteSet.card oex) ∧
    (∀ (mem : Memory) (timeout : Int) (inFds out : List U8) (a : Answer),
      (∀ r, (pollAcross real s later mem pid nfds timeout inFds out.length).forwarded = some r →
        real r = .ok a) →
      a.outs = [out] → 0 ≤ a.ret →
      (∀ i < min nfds.toNat (out.length / 8),
        (pollFd out i).fd = (pollAt (overwrite inFds mem.behind) i).fd ∧
          (pollFd out i).events = (pollAt (overwrite inFds mem.behind) i).events) →
      a.ret = polledCount out (min nfds.toNat (out.length / 8)) →
      ∃ b merged, (pollAcross real s later mem pid nfds timeout inFds out.length).reply = .ok b ∧
        b.outs = [merged] ∧ merged.length = out.length ∧
        (∀ j, 8 * min nfds.toNat (out.length / 8) ≤ j → merged[j]? = out[j]?) ∧
        (∀ i < min nfds.toNat (out.length / 8), pollFd merged i =
          if (pollAt (overwrite inFds mem.behind) i).pollsIn = true ∧
            later.lanSocketReadable pid (pollAt (overwrite inFds mem.behind) i).fd = true
          then (pollFd out i).readable else pollFd out i) ∧
        b.ret = polledCount merged (min nfds.toNat (out.length / 8))) :=
  ⟨fun _ _ _ _ _ _ _ _ => select_merges htable, fun _ _ _ _ _ => poll_merges htable⟩

/-- Process 7 has mirrored descriptor 3 to a socket on port 6000. -/
def waiting (port : VNet) : Shim where
  port := some port
  table := Table.empty.store 0
    { pid := 7, bsdFd := 3, vnetFd := 0, boundPort := 6000, udp := true, mirrored := true }
  physicalIp := 0
  physicalMask := 0

def listening : VNet :=
  (VNet.fresh.execAll [.reset, .configure 0x020000000001 0x0A000001 0xFFFFFF00 1500, .udpOpen,
    .udpBind 0 0 6000]).1

/-- Descriptor 5 is readable at the real service, and a datagram arrives for descriptor 3
while it waits. -/
theorem readiness_merged_arrival :
    let real := fun r : Request =>
      match r with
      | .select .. => .ok { ret := 1, err := 0, outs := [[0x20], [], []] }
      | _ => .ok { ret := 0, err := 0, outs := [[3, 0, 0, 0, 1, 0, 0, 0]] }
    let later := waiting (listening.onFrame 0x020000000002 MacBroadcast EtherType_IPv4 VNet.greetingFrame).1
    (∃ b merged, (selectAcross real (waiting listening) later 7 8 ⟨0, 0, true⟩ [0x28] [] [] 1 0 0).reply = .ok b ∧
      b.outs = [merged, [], []] ∧ fdIsSet 3 merged = true ∧ fdIsSet 5 merged = true) ∧
    ∃ b merged,
      (pollAcross real (waiting listening) later .unread 7 1 (-1) [3, 0, 0, 0, 1, 0, 0, 0] 8).reply = .ok b ∧
      b.outs = [merged] ∧ (pollFd merged 0).revents = 1 ∧ b.ret = polledCount merged 1 := by
  intro real later
  obtain ⟨hselect, -⟩ := readiness_merged real (waiting listening) later rfl 7 8
  have hready : later.lanSocketReadable 7 3 = true := by decide +kernel
  constructor
  · obtain ⟨b, merged, hreply, houts, -, hbits, -⟩ := hselect ⟨0, 0, true⟩ [0x28] [] [] [0x20] [] []
      { ret := 1, err := 0, outs := [[0x20], [], []] } (fun r hr => by
        unfold selectAcross at hr
        rw [relayThen_forwarded] at hr
        rw [← Option.some.inj hr]) rfl rfl (by decide) (by decide +kernel)
    refine ⟨b, merged, hreply, houts, (hbits 3).trans ?_, (hbits 5).trans ?_⟩
    · rw [show later.lanSocketReadable 7 ((3 : Nat) : Int) = true from hready]
      decide
    · decide +kernel
  · obtain ⟨b, merged, hreply, houts, -, -, hentry, hcount⟩ := (readiness_merged real (waiting listening) later rfl
      7 1).2 .unread (-1) [3, 0, 0, 0, 1, 0, 0, 0] [3, 0, 0, 0, 1, 0, 0, 0]
      { ret := 0, err := 0, outs := [[3, 0, 0, 0, 1, 0, 0, 0]] } (fun r hr => by
        unfold pollAcross at hr
        rw [relayThen_forwarded] at hr
        rw [← Option.some.inj hr]) rfl (by decide) (fun i _ => ⟨rfl, rfl⟩) (by decide +kernel)
    refine ⟨b, merged, hreply, houts, ?_, hcount⟩
    rw [hentry 0 (by decide), if_pos ⟨by decide, by decide +kernel⟩]
    decide +kernel

end Shim

end SysZerotier.Mitm
