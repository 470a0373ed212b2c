import SysZerotier.Net.Soundness

/-! Which datagrams reassembly completes.

`Tracks` follows one datagram: one slot holds exactly what has arrived of it. Its
own fragments keep that (`Tracks.own`); another datagram's keep it unless they take
over the slot (`Tracks.other`). The slot scan takes a free slot for its victim, but
goes on comparing ages with it, so a slot in use that is older than a slot freed
meanwhile is evicted although a slot is free (`live_slot_evicted`). While that does
not happen every datagram is handed on exactly once (`reassembles_all`). -/
namespace SysZerotier.Net
open Library

namespace VNet

/-! ### Following one datagram -/

/-- One slot holds the pieces `got` of `d`, and no other slot is in use for it. With
no piece held, no slot is. -/
def Tracks (s : VNet) (d : Sent) (got : Finset Span) : Prop :=
  (got = ∅ ∧ ¬s.hasSlot d.key) ∨
    got.Nonempty ∧ ∃ i < ReasmSlots, Holds (s.reasm i) d got ∧
      ∀ j < ReasmSlots, j ≠ i → (s.reasm j).used = true → (s.reasm j).key ≠ d.key

section Tracking
variable {s : VNet} {d : Sent} {got : Finset Span}

theorem Tracks.congr {t : VNet} (h : Tracks s d got) (ht : t.reasm = s.reasm) : Tracks t d got := by
  unfold Tracks hasSlot at h ⊢
  rw [ht]
  exact h

/-- The slot chosen for a piece holds exactly the pieces held so far, and no other
slot is in use for the datagram. -/
theorem Tracks.slot (h : Tracks s d got) :
    (s.reasmSlot d.key.srcIp d.key.dstIp d.key.id d.key.proto).1 < ReasmSlots ∧
      Holds (s.reasmSlot d.key.srcIp d.key.dstIp d.key.id d.key.proto).2 d got ∧
      ∀ j < ReasmSlots, j ≠ (s.reasmSlot d.key.srcIp d.key.dstIp d.key.id d.key.proto).1 →
        (s.reasm j).used = true → (s.reasm j).key ≠ d.key := by
  rcases h with ⟨rfl, hno⟩ | ⟨-, i, hi, hg, hother⟩
  · rcases reasmSlot_cases s d.key with ⟨i, hi, hu, hk, -⟩ | ⟨-, i, hi, -, heq⟩
    · exact absurd ⟨i, hi, hu, hk⟩ hno
    · rw [heq]
      exact ⟨hi, Holds.start _ d, fun j hj _ hu hk => hno ⟨j, hj, hu, hk⟩⟩
  · rcases reasmSlot_cases s d.key with ⟨j, hj, hu, hk, heq⟩ | ⟨hno, -⟩
    · have hji : j = i := by
        by_contra hne
        exact hother j hj hne hu hk
      subst hji
      rw [heq]
      exact ⟨hi, hg, hother⟩
    · exact absurd ⟨i, hi, hg.used, hg.key⟩ hno

/-- What is still held of a datagram once the pieces `got` are in: nothing, when
they are all of it. -/
def held (d : Sent) (got : Finset Span) : Finset Span := if got = d.spans.toFinset then ∅ else got

/-- Accepting a piece of the datagram adds it, and hands the datagram on when it was
the last one missing. -/
theorem Tracks.own (h : Tracks s d got) {a : Span} (ha : a ∈ d.spans) (hnot : a ∉ got)
    (hmax : d.bytes.length ≤ ReasmMax) (hoff : a.off < 65536)
    (hwhole : (d.fragment a).whole = true → got = ∅) {payload : Mem}
    (hp : payload.bytes (d.fragment a).bytes.length = (d.fragment a).bytes) :
    Tracks (s.accept (d.fragment a) payload).1 d (held d (insert a got)) ∧
      if insert a got = d.spans.toFinset then
        ∃ k, (s.accept (d.fragment a) payload).2 = some k ∧ Delivers k d
      else (s.accept (d.fragment a) payload).2 = none := by
  cases hw : (d.fragment a).whole with
  | true =>
    obtain rfl := hwhole hw
    have hall : insert a ∅ = d.spans.toFinset := by
      rw [insert_empty_eq]
      refine Cut.eq_of_sum ?_ d.pos ?_
      · rw [Finset.singleton_subset_iff, List.mem_toFinset]
        exact ha
      · have hb := Sent.fragment_length ha
        rw [Sent.bytes_of_whole ha hw] at hb
        rw [Finset.sum_singleton, d.sum, hb]
    rw [accept_whole s hw, held, if_pos hall, if_pos hall]
    refine ⟨.inl ⟨rfl, ?_⟩, _, rfl, delivers_whole ha hw hp⟩
    rcases h with ⟨-, hno⟩ | ⟨hne, -⟩
    · exact hno
    · exact absurd hne Finset.not_nonempty_empty
  | false =>
    have hacc := accept_accepts s hw hoff payload
    obtain ⟨hi, hg, hother⟩ := h.slot
    have hlen := Sent.fragment_length ha
    rw [hlen] at hp
    change Accepts s (d.fragment a) (s.reasmSlot d.key.srcIp d.key.dstIp d.key.id d.key.proto).1
      ((s.reasmSlot d.key.srcIp d.key.dstIp d.key.id d.key.proto).2.store a.off (d.fragment a).more
        payload (d.fragment a).bytes.length) _ at hacc
    generalize s.reasmSlot d.key.srcIp d.key.dstIp d.key.id d.key.proto = slot at hacc hi hg hother
    rw [hlen] at hacc
    have hfit : (d.fragment a).off + (d.fragment a).bytes.length ≤ ReasmMax := by
      rw [hlen]
      exact (Sent.stop_le ha).trans hmax
    have hst := hg.store ha hnot (by rw [hlen] at hfit; exact hfit) payload hp
    by_cases hall : insert a got = d.spans.toFinset
    · have hfull := hst.full_iff.mpr hall
      obtain ⟨hu, hsome⟩ := hacc.full hfit hfull
      rw [held, if_pos hall, if_pos hall]
      refine ⟨.inl ⟨rfl, ?_⟩, _, hsome, delivers_full hst hfull⟩
      rintro ⟨j, hj, huj, hkj⟩
      by_cases hji : j = slot.1
      · subst hji
        simp [hu] at huj
      · rw [hacc.other j hji] at huj hkj
        exact hother j hj hji huj hkj
    · obtain ⟨heq, hnone⟩ := hacc.part hfit fun hf => hall (hst.full_iff.mp hf)
      rw [held, if_neg hall, if_neg hall]
      refine ⟨.inr ⟨Finset.insert_nonempty a got, slot.1, hi, ?_, fun j hj hji huj => ?_⟩, hnone⟩
      · rw [heq]
        exact hst.congr rfl rfl rfl rfl rfl
      · rw [hacc.other j hji] at huj ⊢
        exact hother j hj hji huj

/-- No slot in use is taken over for the fragment. -/
def spares (s : VNet) (f : Fragment) : Prop :=
  f.whole = false → s.hasSlot f.key ∨
    (s.reasm (s.reasmSlot f.key.srcIp f.key.dstIp f.key.id f.key.proto).1).used = false

/-- Accepting a fragment puts no slot in use for a datagram but its own. -/
theorem accept_known {P : Key → Prop} {s : VNet}
    (h : ∀ i < ReasmSlots, (s.reasm i).used = true → P (s.reasm i).key) {f : Fragment} (hf : P f.key)
    (hoff : f.off < 65536) (payload : Mem) :
    ∀ i < ReasmSlots, ((s.accept f payload).1.reasm i).used = true →
      P ((s.accept f payload).1.reasm i).key := by
  cases hw : f.whole with
  | true =>
    rw [accept_whole s hw]
    exact h
  | false =>
    have hacc := accept_accepts s hw hoff payload
    have hslot := slot_key s f.key
    generalize s.reasmSlot f.key.srcIp f.key.dstIp f.key.id f.key.proto = slot at hacc hslot
    intro i hi hu
    by_cases hij : i = slot.1
    · subst hij
      by_cases hbig : ReasmMax < f.off + f.bytes.length
      · simp [(hacc.tooBig hbig).1] at hu
      · by_cases hfull : (slot.2.store f.off f.more payload f.bytes.length).full
        · simp [(hacc.full (not_lt.mp hbig) hfull).1] at hu
        · rw [(hacc.part (not_lt.mp hbig) hfull).1]
          have hk : ({ slot.2.store f.off f.more payload f.bytes.length with age := s.tick + 1 } : Reasm).key =
            f.key := hslot
          rw [hk]
          exact hf
    · rw [hacc.other i hij] at hu ⊢
      exact h i hi hu

/-- Accepting a fragment of another datagram leaves this one alone, unless its slot
is taken over. -/
theorem Tracks.other (h : Tracks s d got) {f : Fragment} (hk : f.key ≠ d.key) (hs : s.spares f)
    (hoff : f.off < 65536) (payload : Mem) : Tracks (s.accept f payload).1 d got := by
  cases hw : f.whole with
  | true =>
    rw [accept_whole s hw]
    exact h
  | false =>
    have hacc := accept_accepts s hw hoff payload
    -- the slot of `f` is not one in use for `d`, and is not afterwards
    have hbefore : (s.reasm (s.reasmSlot f.key.srcIp f.key.dstIp f.key.id f.key.proto).1).used = true →
        (s.reasm (s.reasmSlot f.key.srcIp f.key.dstIp f.key.id f.key.proto).1).key ≠ d.key := by
      intro hu
      rcases reasmSlot_cases s f.key with ⟨i, -, -, hki, heq⟩ | ⟨hno, -⟩
      · rw [heq, hki]
        exact hk
      · rcases hs hw with hhas | hfree
        · exact absurd hhas hno
        · simp [hfree] at hu
    have hslot := slot_key s f.key
    generalize s.reasmSlot f.key.srcIp f.key.dstIp f.key.id f.key.proto = slot at hacc hbefore hslot
    have hafter : ((s.accept f payload).1.reasm slot.1).used = true →
        ((s.accept f payload).1.reasm slot.1).key ≠ d.key := by
      intro hu
      by_cases hbig : ReasmMax < f.off + f.bytes.length
      · simp [(hacc.tooBig hbig).1] at hu
      · by_cases hfull : (slot.2.store f.off f.more payload f.bytes.length).full
        · simp [(hacc.full (not_lt.mp hbig) hfull).1] at hu
        · rw [(hacc.part (not_lt.mp hbig) hfull).1]
          intro he
          exact hk (hslot.symm.trans he)
    have hkeep : ∀ j, ((s.accept f payload).1.reasm j).used = true →
        ((s.accept f payload).1.reasm j).key = d.key → (s.accept f payload).1.reasm j = s.reasm j := by
      intro j hu hkj
      by_cases hj : j = slot.1
      · subst hj
        exact absurd hkj (hafter hu)
      · exact hacc.other j hj
    rcases h with ⟨rfl, hno⟩ | ⟨hne, i, hi, hg, huniq⟩
    · refine .inl ⟨rfl, ?_⟩
      rintro ⟨j, hj, hu, hkj⟩
      have := hkeep j hu hkj
      exact hno ⟨j, hj, by rw [← this]; exact hu, by rw [← this]; exact hkj⟩
    · have hi' : i ≠ slot.1 := by
        rintro rfl
        exact hbefore hg.used hg.key
      refine .inr ⟨hne, i, hi, by rw [hacc.other i hi']; exact hg, fun j hj hji hu hkj => ?_⟩
      have := hkeep j hu hkj
      rw [this] at hu hkj
      exact huniq j hj hji hu hkj

end Tracking

/-! ### The victim -/

/-- The slot is free and those behind it are in use. -/
def lastFree (s : VNet) (i : Nat) : Prop :=
  (s.reasm i).used = false ∧ ∀ j < ReasmSlots, i < j → (s.reasm j).used = true

/-- No slot in use behind the last free slot is older than that slot was when it was
last used. The scan then ends on a free slot. -/
def freeSlotWins (s : VNet) : Prop :=
  ∀ i < ReasmSlots, s.lastFree i → ∀ j < ReasmSlots, i < j → ¬(s.reasm j).age < (s.reasm i).age

instance (s : VNet) (i : Nat) : Decidable (s.lastFree i) := by
  unfold lastFree
  infer_instance

instance (s : VNet) : Decidable s.freeSlotWins := by
  unfold freeSlotWins
  infer_instance

theorem reasmScan_free {reasm : Nat → Reasm} {k : Key} {l : List Nat} {v w : Nat}
    (h : reasmScan reasm k.srcIp k.dstIp k.id k.proto l v = .inr w)
    (hex : (reasm v).used = false ∨ ∃ i ∈ l, (reasm i).used = false)
    (hwins : ∀ pre i post, v :: l = pre ++ i :: post → (reasm i).used = false →
      (∀ j ∈ post, (reasm j).used = true) → ∀ j ∈ post, ¬(reasm j).age < (reasm i).age) :
    (reasm w).used = false := by
  induction l generalizing v with
  | nil =>
    rw [← Sum.inr.inj h]
    rcases hex with hv | ⟨i, hi, -⟩
    · exact hv
    · cases hi
  | cons j l ih =>
    unfold reasmScan at h
    split at h
    · cases h
    · by_cases hj : (reasm j).used = true
      · rw [if_neg (by simp [hj])] at h
        by_cases hfree : ∃ i ∈ l, (reasm i).used = false
        · refine ih h (.inr hfree) fun pre i post heq hi hpost => ?_
          cases pre with
          | nil =>
            obtain ⟨m, hm, hmu⟩ := hfree
            have hl : l = post := (List.cons.inj heq).2
            simp [hpost m (hl ▸ hm)] at hmu
          | cons x pre =>
            have hl : l = pre ++ i :: post := (List.cons.inj heq).2
            exact hwins (v :: j :: pre) i post (by rw [hl]; rfl) hi hpost
        · -- the victim so far is the last free slot, and stays
          have hv : (reasm v).used = false := by
            rcases hex with hv | ⟨i, hi, hu⟩
            · exact hv
            · rcases List.mem_cons.mp hi with rfl | hi
              · simp [hj] at hu
              · exact absurd ⟨i, hi, hu⟩ hfree
          have hused : ∀ m ∈ l, (reasm m).used = true := fun m hm => by
            by_contra hne
            exact hfree ⟨m, hm, by simpa using hne⟩
          have hlast := hwins [] v (j :: l) rfl hv fun m hm => by
            rcases List.mem_cons.mp hm with rfl | hm
            · exact hj
            · exact hused m hm
          rw [if_neg (hlast j (List.mem_cons_self ..))] at h
          refine ih h (.inl hv) fun pre i post heq hi hpost => ?_
          cases pre with
          | nil =>
            obtain ⟨rfl, rfl⟩ := List.cons.inj heq
            exact fun m hm => hlast m (List.mem_cons_of_mem j hm)
          | cons x pre =>
            have hl : l = pre ++ i :: post := (List.cons.inj heq).2
            exact absurd ⟨i, by rw [hl]; simp, hi⟩ hfree
      · have hj' : (reasm j).used = false := by simpa using hj
        rw [if_pos (by simp [hj'])] at h
        exact ih h (.inl hj') fun pre i post heq => hwins (v :: pre) i post (by rw [heq]; rfl)

theorem mem_after_range {n i : Nat} {pre post : List Nat} (h : List.range n = pre ++ i :: post) (j : Nat) :
    j ∈ post ↔ i < j ∧ j < n := by
  have hsorted := List.pairwise_lt_range (n := n)
  rw [h, List.pairwise_append] at hsorted
  obtain ⟨-, hpost, hpre⟩ := hsorted
  constructor
  · intro hj
    refine ⟨(List.pairwise_cons.mp hpost).1 j hj, List.mem_range.mp ?_⟩
    rw [h]
    simp [hj]
  · rintro ⟨hij, hjn⟩
    have hj := List.mem_range.mpr hjn
    rw [h] at hj
    rcases List.mem_append.mp hj with hj | hj
    · have := hpre j hj i (List.mem_cons_self ..)
      omega
    · rcases List.mem_cons.mp hj with rfl | hj
      · omega
      · exact hj

/-- With a free slot, and the last one not older than a slot in use, a datagram that
has no slot takes over a free one. -/
theorem spares_of_free {s : VNet} {f : Fragment} (hex : ∃ i < ReasmSlots, (s.reasm i).used = false)
    (hwins : s.freeSlotWins) : s.spares f := by
  intro _
  rcases reasmSlot_cases s f.key with ⟨i, hi, hu, hk, -⟩ | ⟨-, w, -, hscan, heq⟩
  · exact .inl ⟨i, hi, hu, hk⟩
  · rw [heq]
    obtain ⟨i, hi, hu⟩ := hex
    refine .inr (reasmScan_free hscan (.inr ⟨i, List.mem_range.mpr hi, hu⟩) fun pre i post hsplit hiu hpost => ?_)
    cases pre with
    | nil =>
      obtain ⟨rfl, rfl⟩ := List.cons.inj hsplit
      simp [hpost 0 (by decide)] at hiu
    | cons x pre =>
      have hrange : List.range ReasmSlots = pre ++ i :: post := (List.cons.inj hsplit).2
      have hi : i < ReasmSlots := List.mem_range.mp (by rw [hrange]; simp)
      intro j hj
      obtain ⟨hij, hjn⟩ := (mem_after_range hrange j).mp hj
      exact hwins i hi ⟨hiu, fun m hm hm' => hpost m ((mem_after_range hrange m).mpr ⟨hm', hm⟩)⟩ j hjn hij

end VNet

namespace Sent

/-- The pieces of the datagram among the fragments that have arrived. -/
def got (d : Sent) (arrived : List Fragment) : Finset Span :=
  d.spans.toFinset.filter fun a => d.fragment a ∈ arrived

def complete (d : Sent) (arrived : List Fragment) : Bool := decide (d.got arrived = d.spans.toFinset)

/-- Some of the datagram has arrived, but not all. -/
def incomplete (arrived : List Fragment) (d : Sent) : Bool :=
  decide (d.got arrived ≠ ∅) && !d.complete arrived

section Progress
variable {d : Sent} {arrived : List Fragment} {a : Span}

theorem got_nil (d : Sent) : d.got [] = ∅ := by simp [got]

theorem spans_nonempty (d : Sent) : d.spans.toFinset ≠ ∅ := by
  intro h
  have hs := @Cut.sum_len 0 d.lens d.pos
  rw [show (Library.spans 0 d.lens).toFinset = ∅ from h, Finset.sum_empty, d.sum] at hs
  exact d.nonempty (List.length_eq_zero_iff.mp hs.symm)

theorem got_own (ha : a ∈ d.spans) : d.got (arrived ++ [d.fragment a]) = insert a (d.got arrived) := by
  ext b
  simp only [got, Finset.mem_filter, List.mem_toFinset, List.mem_append, List.mem_singleton,
    Finset.mem_insert]
  constructor
  · rintro ⟨hb, hm | he⟩
    · exact .inr ⟨hb, hm⟩
    · exact .inl (fragment_inj hb ha he)
  · rintro (rfl | ⟨hb, hm⟩)
    · exact ⟨ha, .inr rfl⟩
    · exact ⟨hb, .inl hm⟩

theorem got_other {f : Fragment} (hk : f.key ≠ d.key) : d.got (arrived ++ [f]) = d.got arrived := by
  ext b
  simp only [got, Finset.mem_filter, List.mem_append, List.mem_singleton]
  refine and_congr_right fun _ => or_iff_left ?_
  rintro rfl
  exact hk rfl

theorem not_mem_got (hnew : d.fragment a ∉ arrived) : a ∉ d.got arrived :=
  fun hm => hnew (Finset.mem_filter.mp hm).2

theorem complete_of_forall (h : ∀ f ∈ d.fragments, f ∈ arrived) : d.complete arrived = true := by
  simp only [complete, got, decide_eq_true_eq, Finset.filter_eq_self, List.mem_toFinset]
  exact fun b hb => h _ (mem_fragments.mpr ⟨b, hb, rfl⟩)

theorem complete_mono {later : List Fragment} (h : d.complete arrived = true) :
    d.complete (arrived ++ later) = true := by
  simp only [complete, got, decide_eq_true_eq, Finset.filter_eq_self] at h ⊢
  exact fun b hb => List.mem_append_left _ (h b hb)

/-- A piece of its own is the whole datagram only if it needs no reassembly. -/
theorem whole_of_singleton (ha : a ∈ d.spans) (h : ({a} : Finset Span) = d.spans.toFinset) :
    (d.fragment a).whole = true := by
  have hs := @Cut.sum_len 0 d.lens d.pos
  rw [show (Library.spans 0 d.lens).toFinset = {a} from h.symm, Finset.sum_singleton, d.sum] at hs
  have := stop_le ha
  simp only [Fragment.whole, fragment, Bool.and_eq_true, beq_iff_eq, Bool.not_eq_true',
    decide_eq_false_iff_not]
  omega

end Progress

end Sent

namespace VNet

theorem held_eq_empty {d : Sent} {got : Finset Span} : held d got = ∅ ↔ got = ∅ ∨ got = d.spans.toFinset := by
  unfold held
  split
  · simp [*]
  · simp [*]

theorem incomplete_iff {d : Sent} {arrived : List Fragment} :
    d.incomplete arrived = true ↔ held d (d.got arrived) ≠ ∅ := by
  rw [ne_eq, held_eq_empty]
  simp only [Sent.incomplete, Sent.complete, Bool.and_eq_true, decide_eq_true_eq, Bool.not_eq_true',
    decide_eq_false_iff_not, not_or, ne_eq]

/-- Every datagram is tracked, and no slot is in use for anything else. -/
structure Keeps (ds : List Sent) (arrived : List Fragment) (s : VNet) : Prop where
  tracks : ∀ d ∈ ds, Tracks s d (held d (d.got arrived))
  known : ∀ i < ReasmSlots, (s.reasm i).used = true → ∃ d ∈ ds, (s.reasm i).key = d.key

section Completeness
variable {ds : List Sent} {arrived : List Fragment} {s : VNet}

theorem Keeps.congr {t : VNet} (h : Keeps ds arrived s) (ht : t.reasm = s.reasm) : Keeps ds arrived t :=
  ⟨fun d hd => (h.tracks d hd).congr ht, by rw [ht]; exact h.known⟩

theorem Keeps.incomplete (h : Keeps ds arrived s) {i : Nat} (hi : i < ReasmSlots)
    (hu : (s.reasm i).used = true) :
    ∃ d ∈ ds, (s.reasm i).key = d.key ∧ d.incomplete arrived = true := by
  obtain ⟨d, hd, hk⟩ := h.known i hi hu
  refine ⟨d, hd, hk, incomplete_iff.mpr fun h0 => ?_⟩
  rcases h.tracks d hd with ⟨-, hno⟩ | ⟨hne, -⟩
  · exact hno ⟨i, hi, hu, hk⟩
  · exact hne.ne_empty h0

/-- Slots in use are in use for different datagrams. -/
theorem Keeps.inj (h : Keeps ds arrived s) {i j : Nat} (hi : i < ReasmSlots) (hj : j < ReasmSlots)
    (hui : (s.reasm i).used = true) (huj : (s.reasm j).used = true)
    (hk : (s.reasm i).key = (s.reasm j).key) : i = j := by
  obtain ⟨d, hd, hkd⟩ := h.known i hi hui
  rcases h.tracks d hd with ⟨-, hno⟩ | ⟨-, m, -, -, huniq⟩
  · exact absurd ⟨i, hi, hui, hkd⟩ hno
  · have him : i = m := by
      by_contra hne
      exact huniq i hi hne hui hkd
    have hjm : j = m := by
      by_contra hne
      exact huniq j hj hne huj (hk.symm.trans hkd)
    rw [him, hjm]

/-- While no more datagrams are incomplete than there are slots, a datagram that
starts finds one free. -/
theorem Keeps.free (h : Keeps ds arrived s) {d : Sent} (hd : d ∈ ds) {a : Span} (ha : a ∈ d.spans)
    (hnew : d.fragment a ∉ arrived) (hw : (d.fragment a).whole = false) (hno : ¬s.hasSlot d.key)
    (hfour : (ds.filter (Sent.incomplete (arrived ++ [d.fragment a]))).length ≤ ReasmSlots) :
    ∃ i < ReasmSlots, (s.reasm i).used = false := by
  by_contra hall
  have hused : ∀ i < ReasmSlots, (s.reasm i).used = true := fun i hi => by
    by_contra hne
    exact hall ⟨i, hi, by simpa using hne⟩
  -- the datagram has not started, and is incomplete now
  have hempty : d.got arrived = ∅ := by
    rcases h.tracks d hd with ⟨h0, -⟩ | ⟨-, i, hi, hg, -⟩
    · rcases held_eq_empty.mp h0 with h0 | h0
      · exact h0
      · refine absurd ?_ (Sent.not_mem_got hnew)
        rw [h0]
        exact List.mem_toFinset.mpr ha
    · exact absurd ⟨i, hi, hg.used, hg.key⟩ hno
  have hstarted : d.incomplete (arrived ++ [d.fragment a]) = true := by
    rw [incomplete_iff, ne_eq, held_eq_empty, Sent.got_own ha, hempty, insert_empty_eq, not_or]
    refine ⟨Finset.singleton_ne_empty a, fun he => ?_⟩
    rw [Sent.whole_of_singleton ha he] at hw
    cases hw
  have hnodup : (d.key :: (List.range ReasmSlots).map fun i => (s.reasm i).key).Nodup := by
    refine List.nodup_cons.mpr ⟨fun hm => ?_, ?_⟩
    · obtain ⟨i, hi, hk⟩ := List.mem_map.mp hm
      exact hno ⟨i, List.mem_range.mp hi, hused i (List.mem_range.mp hi), hk⟩
    · refine List.Nodup.map_on (fun i hi j hj hk => ?_) List.nodup_range
      exact h.inj (List.mem_range.mp hi) (List.mem_range.mp hj) (hused i (List.mem_range.mp hi))
        (hused j (List.mem_range.mp hj)) hk
  have hsub : ∀ k ∈ d.key :: (List.range ReasmSlots).map fun i => (s.reasm i).key,
      k ∈ (ds.filter (Sent.incomplete (arrived ++ [d.fragment a]))).map Sent.key := by
    intro k hk
    rcases List.mem_cons.mp hk with rfl | hk
    · exact List.mem_map.mpr ⟨d, List.mem_filter.mpr ⟨hd, hstarted⟩, rfl⟩
    · obtain ⟨i, hi, rfl⟩ := List.mem_map.mp hk
      obtain ⟨e, he, hke, hinc⟩ := h.incomplete (List.mem_range.mp hi) (hused i (List.mem_range.mp hi))
      refine List.mem_map.mpr ⟨e, List.mem_filter.mpr ⟨he, ?_⟩, hke.symm⟩
      have hne : (d.fragment a).key ≠ e.key := fun heq =>
        hno ⟨i, List.mem_range.mp hi, hused i (List.mem_range.mp hi), hke.trans heq.symm⟩
      rw [incomplete_iff, Sent.got_other hne]
      exact incomplete_iff.mp hinc
  have hlen := (List.subperm_of_subset hnodup hsub).length_le
  rw [List.length_cons, List.length_map, List.length_range, List.length_map] at hlen
  omega

/-- Accepting a piece that has not arrived before hands on the datagram it completes,
if any, and keeps track of all others. -/
theorem Keeps.accept (h : Keeps ds arrived s) (hkeys : (ds.map Sent.key).Nodup) {d : Sent} (hd : d ∈ ds)
    (hmax : d.bytes.length ≤ ReasmMax) {a : Span} (ha : a ∈ d.spans) (hnew : d.fragment a ∉ arrived)
    (hfour : (ds.filter (Sent.incomplete (arrived ++ [d.fragment a]))).length ≤ ReasmSlots)
    (hsafe : (d.fragment a).whole = false → ¬s.hasSlot d.key → s.freeSlotWins) (hoff : a.off < 65536)
    {payload : Mem} (hp : payload.bytes (d.fragment a).bytes.length = (d.fragment a).bytes) :
    Keeps ds (arrived ++ [d.fragment a]) (s.accept (d.fragment a) payload).1 ∧
      if d.complete (arrived ++ [d.fragment a]) then
        ∃ k, (s.accept (d.fragment a) payload).2 = some k ∧ Delivers k d
      else (s.accept (d.fragment a) payload).2 = none := by
  have hnot := Sent.not_mem_got hnew
  have hpart : d.got arrived ≠ d.spans.toFinset := by
    intro he
    rw [he] at hnot
    exact hnot (List.mem_toFinset.mpr ha)
  have hheld : held d (d.got arrived) = d.got arrived := if_neg hpart
  have hwhole : (d.fragment a).whole = true → d.got arrived = ∅ := by
    intro hw
    by_contra hne
    obtain ⟨b, hb⟩ := Finset.nonempty_iff_ne_empty.mpr hne
    obtain ⟨hbs, hbm⟩ := Finset.mem_filter.mp hb
    rw [Sent.eq_of_whole ha hw (List.mem_toFinset.mp hbs)] at hbm
    exact hnew hbm
  have htrack := h.tracks d hd
  rw [hheld] at htrack
  obtain ⟨hown, hout⟩ := htrack.own ha hnot hmax hoff hwhole hp
  have hspares : s.spares (d.fragment a) := by
    intro hw
    by_cases hhas : s.hasSlot d.key
    · exact .inl hhas
    · exact spares_of_free (h.free hd ha hnew hw hhas hfour) (hsafe hw hhas) hw
  have hother : ∀ e ∈ ds, e ≠ d → (d.fragment a).key ≠ e.key := by
    intro e he hne hk
    exact hne (List.inj_on_of_nodup_map hkeys he hd hk.symm)
  refine ⟨⟨fun e he => ?_, fun i hi hu => ?_⟩, ?_⟩
  · by_cases hed : e = d
    · subst hed
      rw [Sent.got_own ha]
      exact hown
    · rw [Sent.got_other (hother e he hed)]
      exact (h.tracks e he).other (hother e he hed) hspares hoff payload
  · exact accept_known (P := fun k => ∃ e ∈ ds, k = e.key) h.known ⟨d, hd, rfl⟩ hoff payload i hi hu
  · simp only [Sent.complete, Sent.got_own ha, decide_eq_true_eq]
    exact hout

end Completeness

/-- Every step of a run meets a condition on the state before it. -/
def Always (P : VNet → Op → Prop) (s : VNet) : List Op → Prop
  | [] => True
  | op :: rest => P s op ∧ Always P (s.exec op).1 rest

instance Always.decide (P : VNet → Op → Prop) [∀ s op, Decidable (P s op)] (s : VNet) (ops : List Op) :
    Decidable (s.Always P ops) :=
  match ops with
  | [] => isTrue trivial
  | op :: rest => @instDecidableAnd _ _ _ (Always.decide P (s.exec op).1 rest)

/-- A fragment that starts a reassembly finds the last free slot no older than the
slots in use behind it. -/
def startsSafely (s : VNet) (op : Op) : Prop :=
  ∀ f ∈ s.inbound op, f.whole = false → ¬s.hasSlot f.key → s.freeSlotWins

instance (s : VNet) (op : Op) : Decidable (s.startsSafely op) := by
  unfold startsSafely
  infer_instance

/-- Over a run the datagrams completed are handed on, each once. -/
theorem Keeps.run {ds : List Sent} (hkeys : (ds.map Sent.key).Nodup)
    (hmax : ∀ d ∈ ds, d.bytes.length ≤ ReasmMax) (ops : List Op) {arrived : List Fragment} {s : VNet}
    (h : Keeps ds arrived s) (hreset : Op.reset ∉ ops)
    (hsent : ∀ f ∈ s.inbounds ops, ∃ d ∈ ds, f ∈ d.fragments)
    (hnodup : (arrived ++ s.inbounds ops).Nodup)
    (hfour : ∀ n, (ds.filter (Sent.incomplete (arrived ++ (s.inbounds ops).take n))).length ≤ ReasmSlots)
    (hsafe : s.Always startsSafely ops) :
    ∃ order : List Sent, List.Forall₂ Delivers (s.handedAll ops) order ∧ order.Nodup ∧
      ∀ d, d ∈ order ↔ d ∈ ds ∧ d.complete (arrived ++ s.inbounds ops) ∧ ¬d.complete arrived := by
  induction ops generalizing s arrived with
  | nil =>
    refine ⟨[], .nil, List.nodup_nil, fun d => ?_⟩
    simp only [inbounds, List.append_nil, List.not_mem_nil, false_iff]
    tauto
  | cons op ops ih =>
    obtain ⟨hstart, hsafe⟩ := hsafe
    have hreset' : Op.reset ∉ ops := fun hm => hreset (List.mem_cons_of_mem op hm)
    simp only [inbounds, handedAll] at hsent hnodup hfour ⊢
    cases hin : s.inbound op with
    | none =>
      rw [hin] at hsent hnodup hfour
      obtain ⟨hreasm, hnone⟩ := exec_quiet hin fun he => hreset (he ▸ List.mem_cons_self ..)
      rw [hnone]
      exact ih (h.congr hreasm) hreset' hsent hnodup hfour hsafe
    | some f =>
      rw [hin] at hsent hnodup hfour
      simp only [Option.toList_some, List.singleton_append] at hsent hfour hnodup ⊢
      obtain ⟨t, payload, ht, hp, hoff, hexec, hhand⟩ := exec_inbound hin
      obtain ⟨d, hd, hf⟩ := hsent f (List.mem_cons_self ..)
      obtain ⟨a, ha, rfl⟩ := Sent.mem_fragments.mp hf
      have hnew : d.fragment a ∉ arrived := fun hm =>
        (List.nodup_append.mp hnodup).2.2 _ hm _ (List.mem_cons_self ..) rfl
      have hslots : t.hasSlot d.key ↔ s.hasSlot d.key := by simp only [hasSlot, ht]
      have hwins : t.freeSlotWins ↔ s.freeSlotWins := by simp only [freeSlotWins, lastFree, ht]
      obtain ⟨hkeep, hout⟩ := (h.congr ht).accept hkeys hd (hmax d hd) ha hnew (hfour 1)
        (fun hw hno => hwins.mpr (hstart _ hin hw fun hs => hno (hslots.mpr hs))) hoff hp
      have hassoc : ∀ l, arrived ++ d.fragment a :: l = (arrived ++ [d.fragment a]) ++ l := fun l => by simp
      obtain ⟨order, hdel, hon, hmem⟩ := ih (hkeep.congr hexec) hreset'
        (fun f hf => hsent f (List.mem_cons_of_mem _ hf)) (by rw [← hassoc]; exact hnodup)
        (fun n => by rw [← hassoc]; exact hfour (n + 1)) hsafe
      have hearlier : ∀ e ∈ ds, e ≠ d → e.complete (arrived ++ [d.fragment a]) = e.complete arrived := by
        intro e he hne
        have hk : (d.fragment a).key ≠ e.key := fun hk => hne (List.inj_on_of_nodup_map hkeys he hd hk.symm)
        rw [Sent.complete, Sent.got_other hk, Sent.complete]
      have hbefore : d.complete arrived = false := by
        rw [Sent.complete, decide_eq_false_iff_not]
        intro he
        have := Sent.not_mem_got hnew
        rw [he] at this
        exact this (List.mem_toFinset.mpr ha)
      rw [hhand, hassoc]
      by_cases hc : d.complete (arrived ++ [d.fragment a])
      · rw [if_pos hc] at hout
        obtain ⟨k, hk, hkd⟩ := hout
        rw [hk, Option.toList_some]
        refine ⟨d :: order, .cons hkd hdel, List.nodup_cons.mpr ⟨fun hm => ?_, hon⟩, fun e => ?_⟩
        · exact ((hmem d).mp hm).2.2 hc
        · rw [List.mem_cons, hmem e]
          by_cases hed : e = d
          · subst hed
            simp only [true_or, hd, hbefore, Bool.false_eq_true, not_false_eq_true, and_true, true_and, true_iff]
            exact Sent.complete_mono hc
          · by_cases he : e ∈ ds
            · simp only [hed, false_or, hearlier e he hed]
            · simp only [hed, he, false_and, or_self]
      · rw [if_neg hc] at hout
        rw [hout]
        refine ⟨order, hdel, hon, fun e => ?_⟩
        rw [hmem e]
        by_cases hed : e = d
        · subst hed
          simp only [hbefore, hc]
        · by_cases he : e ∈ ds
          · simp only [hearlier e he hed]
          · simp only [he, false_and]

theorem fragments_nodup (d : Sent) : d.fragments.Nodup :=
  List.Nodup.map_on (fun _ ha _ hb he => Sent.fragment_inj ha hb he) (Cut.nodup d.pos)

theorem flatMap_fragments_nodup {ds : List Sent} (hkeys : (ds.map Sent.key).Nodup) :
    (ds.flatMap Sent.fragments).Nodup := by
  rw [List.nodup_flatMap]
  refine ⟨fun d _ => fragments_nodup d, (List.pairwise_map.mp hkeys).imp ?_⟩
  intro d e hne f hfd hfe
  obtain ⟨a, -, rfl⟩ := Sent.mem_fragments.mp hfd
  obtain ⟨b, -, hb⟩ := Sent.mem_fragments.mp hfe
  exact hne (congrArg Fragment.key hb).symm

/-- **Nothing is missed while free slots win.** From a state with no reassembly in
progress, let the fragments of the datagrams come in, each once and in any order,
with never more than four datagrams incomplete. If a fragment that starts a
reassembly always finds the last free slot no older than the slots in use behind
it, every datagram is handed to `deliverIpv4` exactly once, byte for byte. -/
theorem reassembles_all (s : VNet) (ops : List Op) (ds : List Sent)
    (hidle : ∀ i < ReasmSlots, (s.reasm i).used = false) (hkeys : (ds.map Sent.key).Nodup)
    (hmax : ∀ d ∈ ds, d.bytes.length ≤ ReasmMax) (hreset : Op.reset ∉ ops)
    (hall : (s.inbounds ops).Perm (ds.flatMap Sent.fragments))
    (hfour : ∀ n, (ds.filter (Sent.incomplete ((s.inbounds ops).take n))).length ≤ ReasmSlots)
    (hsafe : s.Always startsSafely ops) :
    ∃ order : List Sent, order.Perm ds ∧ List.Forall₂ Delivers (s.handedAll ops) order := by
  have hkeep : Keeps ds [] s := by
    refine ⟨fun d _ => .inl ⟨?_, ?_⟩, fun i hi hu => ?_⟩
    · rw [Sent.got_nil]
      exact held_eq_empty.mpr (.inl rfl)
    · rintro ⟨i, hi, hu, -⟩
      simp [hidle i hi] at hu
    · simp [hidle i hi] at hu
  have hsent : ∀ f ∈ s.inbounds ops, ∃ d ∈ ds, f ∈ d.fragments := fun f hf =>
    List.mem_flatMap.mp (hall.mem_iff.mp hf)
  obtain ⟨order, hdel, hon, hmem⟩ := hkeep.run hkeys hmax ops hreset hsent
    (hall.nodup_iff.mpr (flatMap_fragments_nodup hkeys)) hfour hsafe
  refine ⟨order, (List.perm_ext_iff_of_nodup hon (List.Nodup.of_map _ hkeys)).mpr fun d => ?_, hdel⟩
  rw [hmem d]
  refine and_iff_left_of_imp fun hd => ⟨Sent.complete_of_forall fun f hf => ?_, ?_⟩
  · exact hall.mem_iff.mpr (List.mem_flatMap.mpr ⟨d, hd, hf⟩)
  · simp only [Sent.complete, Sent.got_nil, decide_eq_true_eq]
    exact (Sent.spans_nonempty d).symm

def host : VNet := (fresh.reset.exec addressed).1

/-- Two datagrams interleaved, each started in a free slot. -/
theorem two_reassembled :
    ∃ order : List Sent, order.Perm [sixteen 1 0xAA, sixteen 2 0xBB] ∧
      List.Forall₂ Delivers
        (host.handedAll [firstHalf (sixteen 1 0xAA), secondHalf (sixteen 2 0xBB),
          firstHalf (sixteen 2 0xBB), secondHalf (sixteen 1 0xAA)]) order := by
  have hin : host.inbounds [firstHalf (sixteen 1 0xAA), secondHalf (sixteen 2 0xBB),
      firstHalf (sixteen 2 0xBB), secondHalf (sixteen 1 0xAA)] =
      [(sixteen 1 0xAA).fragment ⟨0, 8⟩, (sixteen 2 0xBB).fragment ⟨8, 8⟩,
        (sixteen 2 0xBB).fragment ⟨0, 8⟩, (sixteen 1 0xAA).fragment ⟨8, 8⟩] := by decide +kernel
  refine reassembles_all host _ _ (by decide +kernel) (by decide) (by decide) ?_ ?_
    (fun n => (List.length_filter_le _ _).trans (by decide)) (by decide +kernel)
  · simp [firstHalf, secondHalf, wire]
  · rw [hin]
    decide

/-- The first halves of two datagrams, the rest of the second, a third one, the rest
of the first. -/
def thirdInBetween : List Op :=
  [firstHalf (sixteen 1 0xAA), firstHalf (sixteen 2 0xBB), secondHalf (sixteen 2 0xBB),
    firstHalf (sixteen 3 0xCC), secondHalf (sixteen 1 0xAA), secondHalf (sixteen 3 0xCC)]

/-- **A live datagram is evicted although slots are free.** When the third datagram
starts, three slots are free, but the one freed last is younger than the slot the
first datagram is in, which is taken over. The first datagram is never handed on. -/
theorem live_slot_evicted :
    ∃ (s : VNet) (ops : List Op) (ds : List Sent),
      (∀ i < ReasmSlots, (s.reasm i).used = false) ∧ (ds.map Sent.key).Nodup ∧
      (∀ d ∈ ds, d.bytes.length ≤ ReasmMax) ∧ Op.reset ∉ ops ∧
      (s.inbounds ops).Perm (ds.flatMap Sent.fragments) ∧
      (∀ n, (ds.filter (Sent.incomplete ((s.inbounds ops).take n))).length ≤ ReasmSlots) ∧
      ¬∃ order : List Sent, order.Perm ds ∧ List.Forall₂ Delivers (s.handedAll ops) order := by
  have hin : host.inbounds thirdInBetween =
      [(sixteen 1 0xAA).fragment ⟨0, 8⟩, (sixteen 2 0xBB).fragment ⟨0, 8⟩,
        (sixteen 2 0xBB).fragment ⟨8, 8⟩, (sixteen 3 0xCC).fragment ⟨0, 8⟩,
        (sixteen 1 0xAA).fragment ⟨8, 8⟩, (sixteen 3 0xCC).fragment ⟨8, 8⟩] := by decide +kernel
  have hout : (host.handedAll thirdInBetween).length = 2 := by decide +kernel
  refine ⟨host, thirdInBetween, [sixteen 1 0xAA, sixteen 2 0xBB, sixteen 3 0xCC], by decide +kernel,
    by decide, by decide, ?_, ?_, fun n => (List.length_filter_le _ _).trans (by decide), ?_⟩
  · simp [thirdInBetween, firstHalf, secondHalf, wire]
  · rw [hin]
    decide
  · rintro ⟨order, hperm, hdel⟩
    have h2 := hdel.length_eq
    rw [hout] at h2
    have h3 := hperm.length_eq
    simp only [List.length_cons, List.length_nil] at h3
    omega

end VNet

end SysZerotier.Net
