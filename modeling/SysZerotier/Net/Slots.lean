import SysZerotier.Net.Fragment

/-! Reassembly slots.

`Holds r d got` is the invariant of one slot: it holds exactly the pieces `got` of
the datagram `d`, its byte count is theirs and its data agrees with `d` on them.
Storing a new piece keeps it, and since the pieces of a cut do not overlap, the
count reaches the total only when every piece is there. `reasmSlot_cases` says
which slot a fragment goes to and `accept_accepts` what becomes of it. -/
namespace SysZerotier.Net
open Library

def Reasm.key (r : Reasm) : Key := ⟨r.srcIp, r.dstIp, r.id, r.proto⟩

theorem Reasm.holds_iff (r : Reasm) (k : Key) :
    r.holds k.srcIp k.dstIp k.id k.proto = true ↔ r.used = true ∧ r.key = k := by
  obtain ⟨a, b, c, e⟩ := k
  simp only [Reasm.holds, Reasm.key, Bool.and_eq_true, beq_iff_eq, Key.mk.injEq]
  tauto

/-- The slot with a fragment stored. -/
def Reasm.store (r : Reasm) (off : Nat) (more : Bool) (payload : Mem) (len : Nat) : Reasm :=
  { r with
    data := memcpy r.data off payload len
    received := r.received + BitVec.ofNat 16 len
    total := if more then r.total else BitVec.ofNat 16 (off + len) }

/-- The slot taken over for a datagram. -/
def Reasm.start (r : Reasm) (k : Key) : Reasm :=
  { r with
    used := true, srcIp := k.srcIp, dstIp := k.dstIp, id := k.id, proto := k.proto,
    received := 0, total := 0 }

/-- The byte count has reached the total. -/
def Reasm.full (r : Reasm) : Prop := r.total ≠ 0 ∧ r.total ≤ r.received

/-- The slot holds the pieces `got` of `d` and nothing else. -/
structure Holds (r : Reasm) (d : Sent) (got : Finset Span) : Prop where
  used : r.used = true
  key : r.key = d.key
  pieces : ∀ a ∈ got, a ∈ d.spans
  fits : ∀ a ∈ got, a.off + a.len ≤ ReasmMax
  received : r.received.toNat = ∑ a ∈ got, a.len
  total : r.total.toNat = if ∃ a ∈ got, d.bytes.length ≤ a.off + a.len then d.bytes.length else 0
  data : ∀ a ∈ got, ∀ i, i < a.len → d.bytes[a.off + i]? = some (r.data (a.off + i))

section Slot
variable {r : Reasm} {d : Sent} {got : Finset Span} {a : Span}

theorem Holds.congr {r' : Reasm} (h : Holds r d got) (hu : r'.used = r.used) (hk : r'.key = r.key)
    (hr : r'.received = r.received) (ht : r'.total = r.total) (hd : r'.data = r.data) : Holds r' d got := by
  refine ⟨hu.trans h.used, hk.trans h.key, h.pieces, h.fits, ?_, ?_, ?_⟩
  · rw [hr]
    exact h.received
  · rw [ht]
    exact h.total
  · rw [hd]
    exact h.data

theorem Holds.start (r : Reasm) (d : Sent) : Holds (r.start d.key) d ∅ where
  used := rfl
  key := rfl
  pieces := fun _ h => absurd h (Finset.notMem_empty _)
  fits := fun _ h => absurd h (Finset.notMem_empty _)
  received := rfl
  total := by simp [Reasm.start]
  data := fun _ h => absurd h (Finset.notMem_empty _)

/-- The pieces held fit into the buffer together. -/
theorem sum_le_max (hp : ∀ b ∈ got, b ∈ d.spans) (hf : ∀ b ∈ got, b.off + b.len ≤ ReasmMax) :
    ∑ b ∈ got, b.len ≤ ReasmMax := by
  have hdis : ∀ b ∈ got, ∀ c ∈ got, b ≠ c →
      Disjoint (Finset.Ico b.off (b.off + b.len)) (Finset.Ico c.off (c.off + c.len)) := by
    intro b hb c hc hne
    rw [Finset.disjoint_left]
    intro i hi hi'
    have := Cut.apart (hp b hb) (hp c hc) hne
    rw [Finset.mem_Ico] at hi hi'
    omega
  have hsub : got.biUnion (fun b => Finset.Ico b.off (b.off + b.len)) ⊆ Finset.range ReasmMax := by
    intro i hi
    obtain ⟨b, hb, hib⟩ := Finset.mem_biUnion.mp hi
    have := hf b hb
    rw [Finset.mem_Ico] at hib
    rw [Finset.mem_range]
    omega
  have hcard := Finset.card_le_card hsub
  rw [Finset.card_biUnion hdis, Finset.card_range] at hcard
  simpa using hcard

/-- Storing a piece that is not there yet adds it. -/
theorem Holds.store (h : Holds r d got) (ha : a ∈ d.spans) (hnew : a ∉ got)
    (hfit : a.off + a.len ≤ ReasmMax) (payload : Mem)
    (hbytes : payload.bytes a.len = (d.fragment a).bytes) :
    Holds (r.store a.off (d.fragment a).more payload a.len) d (insert a got) := by
  have hmax : ReasmMax = 2176 := rfl
  have hpieces : ∀ b ∈ insert a got, b ∈ d.spans := by
    intro b hb
    rcases Finset.mem_insert.mp hb with rfl | hb
    · exact ha
    · exact h.pieces b hb
  have hfits : ∀ b ∈ insert a got, b.off + b.len ≤ ReasmMax := by
    intro b hb
    rcases Finset.mem_insert.mp hb with rfl | hb
    · exact hfit
    · exact h.fits b hb
  refine ⟨h.used, h.key, hpieces, hfits, ?_, ?_, ?_⟩
  · have hsum := sum_le_max hpieces hfits
    rw [Finset.sum_insert hnew] at hsum ⊢
    simp only [Reasm.store, BitVec.toNat_add, BitVec.toNat_ofNat, h.received]
    omega
  · have hstop := Sent.stop_le ha
    simp only [Reasm.store, Sent.fragment, decide_eq_true_eq, Finset.exists_mem_insert]
    by_cases hlast : a.off + a.len < d.bytes.length
    · rw [if_pos hlast, h.total]
      simp only [not_le.mpr hlast, false_or]
    · have heq : a.off + a.len = d.bytes.length := by omega
      rw [if_neg hlast, if_pos (.inl (by omega)), BitVec.toNat_ofNat, heq]
      exact Nat.mod_eq_of_lt (by omega)
  · intro b hb i hi
    rcases Finset.mem_insert.mp hb with rfl | hb
    · have hbyte := congrArg (fun l : List U8 => l[i]?) hbytes
      simp only [Mem.getElem?_bytes _ _ _ hi, Sent.fragment_byte d b hi] at hbyte
      simp only [Reasm.store]
      rw [memcpy_inside _ _ _ _ _ hi, hbyte]
    · have hne : a ≠ b := fun he => hnew (he ▸ hb)
      have := Cut.apart ha (h.pieces b hb) hne
      simp only [Reasm.store]
      rw [memcpy_outside _ _ _ _ _ (by omega)]
      exact h.data b hb i hi

/-- The datagram is complete when every piece is there. -/
theorem Holds.full_iff (h : Holds r d got) : r.full ↔ got = d.spans.toFinset := by
  have hsub : got ⊆ (spans 0 d.lens).toFinset := fun b hb => List.mem_toFinset.mpr (h.pieces b hb)
  have hlen : 0 < d.bytes.length := List.length_pos_iff.mpr d.nonempty
  constructor
  · rintro ⟨hne, hle⟩
    have hle' : r.total.toNat ≤ r.received.toNat := hle
    have htotal : r.total.toNat = d.bytes.length := by
      have ht := h.total
      split at ht
      · exact ht
      · exact absurd (BitVec.eq_of_toNat_eq ht) hne
    refine Cut.eq_of_sum hsub d.pos ?_
    rw [← h.received, d.sum]
    omega
  · rintro rfl
    obtain ⟨b, hb, hin⟩ := @Cut.cover 0 d.lens (d.bytes.length - 1) (Nat.zero_le _) (by rw [d.sum]; omega)
    have ht := h.total
    rw [if_pos ⟨b, List.mem_toFinset.mpr hb, by omega⟩] at ht
    have hr := h.received
    rw [Sent.spans, Cut.sum_len d.pos, d.sum] at hr
    refine ⟨fun h0 => ?_, ?_⟩
    · rw [h0] at ht
      simp only [BitVec.ofNat_eq_ofNat, BitVec.toNat_ofNat, Nat.zero_mod] at ht
      omega
    · show r.total.toNat ≤ r.received.toNat
      omega

/-- A complete slot's data is the datagram. -/
theorem Holds.bytes (h : Holds r d got) (hfull : r.full) :
    r.data.bytes r.total.toNat = d.bytes := by
  have hall := h.full_iff.mp hfull
  have htotal : r.total.toNat = d.bytes.length := by
    have ht := h.total
    split at ht
    · exact ht
    · exact absurd (BitVec.eq_of_toNat_eq ht) hfull.1
  rw [htotal]
  apply List.ext_getElem?
  intro i
  by_cases hi : i < d.bytes.length
  · obtain ⟨b, hb, hlo, hhi⟩ := @Cut.cover 0 d.lens i (Nat.zero_le _) (by rw [d.sum]; omega)
    have hdata := h.data b (by rw [hall]; exact List.mem_toFinset.mpr hb) (i - b.off) (by omega)
    rw [Nat.add_sub_cancel' hlo] at hdata
    rw [Mem.getElem?_bytes _ _ _ hi, hdata]
  · rw [List.getElem?_eq_none (by simpa using hi), List.getElem?_eq_none (by omega)]

end Slot

namespace VNet

/-! ### The slot a fragment goes to -/

theorem reasmScan_inl {reasm : Nat → Reasm} {k : Key} {l : List Nat} {v i : Nat}
    (h : reasmScan reasm k.srcIp k.dstIp k.id k.proto l v = .inl i) :
    i ∈ l ∧ (reasm i).used = true ∧ (reasm i).key = k := by
  induction l generalizing v with
  | nil => cases h
  | cons j l ih =>
    unfold reasmScan at h
    split at h
    · rename_i hj
      rw [← Sum.inl.inj h]
      exact ⟨List.mem_cons_self .., ((reasm j).holds_iff k).mp hj⟩
    · obtain ⟨hi, hk⟩ := ih h
      exact ⟨List.mem_cons_of_mem j hi, hk⟩

theorem reasmScan_inr {reasm : Nat → Reasm} {k : Key} {l : List Nat} {v w : Nat}
    (h : reasmScan reasm k.srcIp k.dstIp k.id k.proto l v = .inr w) :
    w ∈ v :: l ∧ ∀ i ∈ l, (reasm i).used = true → (reasm i).key ≠ k := by
  induction l generalizing v with
  | nil =>
    rw [← Sum.inr.inj h]
    exact ⟨List.mem_cons_self .., fun _ hi => by cases hi⟩
  | cons j l ih =>
    unfold reasmScan at h
    split at h
    · cases h
    · rename_i hj
      obtain ⟨hw, hl⟩ := ih h
      refine ⟨?_, fun i hi hu => ?_⟩
      · rcases List.mem_cons.mp hw with rfl | hw
        · split
          · simp
          · split <;> simp
        · simp [hw]
      · rcases List.mem_cons.mp hi with rfl | hi
        · exact fun hk => hj (((reasm i).holds_iff k).mpr ⟨hu, hk⟩)
        · exact hl i hi hu

/-- A slot is in use for the datagram. -/
def hasSlot (s : VNet) (k : Key) : Prop := ∃ i < ReasmSlots, (s.reasm i).used = true ∧ (s.reasm i).key = k

instance (s : VNet) (k : Key) : Decidable (s.hasSlot k) := by
  unfold hasSlot
  infer_instance

/-- A fragment goes to the slot in use for its datagram, or else takes one over. -/
theorem reasmSlot_cases (s : VNet) (k : Key) :
    (∃ i < ReasmSlots, (s.reasm i).used = true ∧ (s.reasm i).key = k ∧
      s.reasmSlot k.srcIp k.dstIp k.id k.proto = (i, s.reasm i)) ∨
    (¬s.hasSlot k ∧ ∃ i < ReasmSlots,
      reasmScan s.reasm k.srcIp k.dstIp k.id k.proto (List.range ReasmSlots) 0 = .inr i ∧
      s.reasmSlot k.srcIp k.dstIp k.id k.proto = (i, (s.reasm i).start k)) := by
  unfold reasmSlot
  split
  · rename_i i hscan
    obtain ⟨hi, hu, hk⟩ := reasmScan_inl hscan
    exact .inl ⟨i, List.mem_range.mp hi, hu, hk, rfl⟩
  · rename_i i hscan
    obtain ⟨hi, hnone⟩ := reasmScan_inr hscan
    refine .inr ⟨?_, i, ?_, hscan, rfl⟩
    · rintro ⟨j, hj, hu, hk⟩
      exact hnone j (List.mem_range.mpr hj) hu hk
    · rcases List.mem_cons.mp hi with rfl | hi
      · decide
      · exact List.mem_range.mp hi

theorem slot_key (s : VNet) (k : Key) : (s.reasmSlot k.srcIp k.dstIp k.id k.proto).2.key = k := by
  rcases reasmSlot_cases s k with ⟨i, -, -, hk, heq⟩ | ⟨-, i, -, -, heq⟩
  · rw [heq]
    exact hk
  · rw [heq]
    rfl

/-- What accepting a fragment does to the slots, given slot `i` and what it is with
the fragment stored: the slot is given up for a fragment that does not fit, handed
on when the fragment completes it, and kept otherwise. -/
structure Accepts (s : VNet) (f : Fragment) (i : Nat) (stored : Reasm) (t : VNet × Option Packet) :
    Prop where
  other : ∀ j, j ≠ i → t.1.reasm j = s.reasm j
  tooBig : ReasmMax < f.off + f.bytes.length → (t.1.reasm i).used = false ∧ t.2 = none
  full : f.off + f.bytes.length ≤ ReasmMax → stored.full →
    (t.1.reasm i).used = false ∧
      t.2 = some ⟨f.key.srcIp, f.key.dstIp, f.key.proto, stored.data, stored.total.toNat⟩
  part : f.off + f.bytes.length ≤ ReasmMax → ¬stored.full →
    t.1.reasm i = { stored with age := s.tick + 1 } ∧ t.2 = none

theorem accept_accepts (s : VNet) {f : Fragment} (hw : f.whole = false) (hoff : f.off < 65536)
    (payload : Mem) :
    Accepts s f (s.reasmSlot f.key.srcIp f.key.dstIp f.key.id f.key.proto).1
      ((s.reasmSlot f.key.srcIp f.key.dstIp f.key.id f.key.proto).2.store f.off f.more payload
        f.bytes.length) (s.accept f payload) := by
  have hoff' : (BitVec.ofNat 16 f.off).toNat = f.off := by
    rw [BitVec.toNat_ofNat]
    exact Nat.mod_eq_of_lt hoff
  unfold accept
  rw [if_neg (by rw [hw]; decide)]
  unfold reassemble
  generalize s.reasmSlot f.key.srcIp f.key.dstIp f.key.id f.key.proto = slot
  obtain ⟨i, r⟩ := slot
  dsimp only
  rw [hoff']
  split
  · rename_i hbig
    refine ⟨fun j hj => ?_, fun _ => ⟨?_, rfl⟩, fun h => absurd hbig (by omega), fun h => absurd hbig (by omega)⟩
    · exact Function.update_of_ne hj ..
    · simp only [setReasm, count, Function.update_self]
  · rename_i hbig
    unfold Reasm.store
    generalize (if f.more then r.total else BitVec.ofNat 16 (f.off + f.bytes.length)) = total
    split
    · rename_i hfull
      refine ⟨fun j hj => ?_, fun h => absurd h hbig, fun _ _ => ⟨?_, rfl⟩, fun _ h => absurd hfull h⟩
      · exact Function.update_of_ne hj ..
      · simp only [setReasm, Function.update_self]
    · rename_i hfull
      refine ⟨fun j hj => ?_, fun h => absurd h hbig, fun _ h => absurd h hfull, fun _ _ => ⟨?_, rfl⟩⟩
      · exact Function.update_of_ne hj ..
      · simp only [setReasm, Function.update_self]

theorem accept_whole (s : VNet) {f : Fragment} (hw : f.whole = true) (payload : Mem) :
    s.accept f payload = (s, some ⟨f.key.srcIp, f.key.dstIp, f.key.proto, payload, f.bytes.length⟩) :=
  if_pos hw

end VNet

end SysZerotier.Net
