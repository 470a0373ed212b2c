import SysZerotier.Net.Slots

/-! What reassembly hands on is whole.

Fragments may be lost, partial datagrams may be evicted and slots are reused with
the old bytes still in them. As long as no fragment comes in twice, every slot in
use holds pieces of one datagram (`Sound`), so a slot that counts as complete is
(`reassembled_whole`). -/
namespace SysZerotier.Net.VNet
open Library

/-- The packet is the whole of the datagram. -/
structure Delivers (k : Packet) (d : Sent) : Prop where
  srcIp : k.srcIp = d.key.srcIp
  dstIp : k.dstIp = d.key.dstIp
  proto : k.proto = d.key.proto
  bytes : k.bytes = d.bytes

theorem delivers_whole {d : Sent} {a : Span} (ha : a ∈ d.spans) (hw : (d.fragment a).whole = true)
    {payload : Mem} (hp : payload.bytes (d.fragment a).bytes.length = (d.fragment a).bytes) :
    Delivers ⟨d.key.srcIp, d.key.dstIp, d.key.proto, payload, (d.fragment a).bytes.length⟩ d :=
  ⟨rfl, rfl, rfl, hp.trans (Sent.bytes_of_whole ha hw)⟩

theorem delivers_full {r : Reasm} {d : Sent} {got : Finset Span} (h : Holds r d got) (hf : r.full) :
    Delivers ⟨d.key.srcIp, d.key.dstIp, d.key.proto, r.data, r.total.toNat⟩ d :=
  ⟨rfl, rfl, rfl, h.bytes hf⟩

/-- Every slot in use holds pieces of one sent datagram that have arrived. -/
def Sound (sent : Set Sent) (arrived : List Fragment) (s : VNet) : Prop :=
  ∀ i < ReasmSlots, (s.reasm i).used = true →
    ∃ d ∈ sent, ∃ got, Holds (s.reasm i) d got ∧ ∀ a ∈ got, d.fragment a ∈ arrived

section Soundness
variable {sent : Set Sent} {arrived : List Fragment}

theorem Sound.congr {s t : VNet} (h : Sound sent arrived s) (ht : t.reasm = s.reasm) :
    Sound sent arrived t := by
  unfold Sound
  rw [ht]
  exact h

theorem Sound.mono {s : VNet} {later : List Fragment} (h : Sound sent arrived s)
    (hsub : ∀ f ∈ arrived, f ∈ later) : Sound sent later s := by
  intro i hi hu
  obtain ⟨d, hd, got, hg, harr⟩ := h i hi hu
  exact ⟨d, hd, got, hg, fun a ha => hsub _ (harr a ha)⟩

/-- The slot chosen for a piece holds arrived pieces of the same datagram. -/
theorem Sound.slot {s : VNet} (h : Sound sent arrived s)
    (hkeys : ∀ d ∈ sent, ∀ e ∈ sent, d.key = e.key → d = e) {d : Sent} (hd : d ∈ sent) :
    (s.reasmSlot d.key.srcIp d.key.dstIp d.key.id d.key.proto).1 < ReasmSlots ∧
      ∃ got, Holds (s.reasmSlot d.key.srcIp d.key.dstIp d.key.id d.key.proto).2 d got ∧
        ∀ a ∈ got, d.fragment a ∈ arrived := by
  rcases reasmSlot_cases s d.key with ⟨i, hi, hu, hk, heq⟩ | ⟨-, i, hi, -, heq⟩
  · rw [heq]
    obtain ⟨e, he, got, hg, harr⟩ := h i hi hu
    obtain rfl := hkeys e he d hd (hg.key.symm.trans hk)
    exact ⟨hi, got, hg, harr⟩
  · rw [heq]
    exact ⟨hi, ∅, Holds.start _ d, fun _ ha => absurd ha (Finset.notMem_empty _)⟩

/-- Accepting a piece that has not arrived before keeps the slots sound, and what is
handed on is the whole datagram. -/
theorem Sound.accept {s : VNet} (h : Sound sent arrived s)
    (hkeys : ∀ d ∈ sent, ∀ e ∈ sent, d.key = e.key → d = e) {d : Sent} (hd : d ∈ sent) {a : Span}
    (ha : a ∈ d.spans) (hnew : d.fragment a ∉ arrived) (hoff : a.off < 65536) {payload : Mem}
    (hp : payload.bytes (d.fragment a).bytes.length = (d.fragment a).bytes) :
    Sound sent (arrived ++ [d.fragment a]) (s.accept (d.fragment a) payload).1 ∧
      ∀ k, (s.accept (d.fragment a) payload).2 = some k → Delivers k d := by
  have hlater : Sound sent (arrived ++ [d.fragment a]) s := h.mono fun f hf => List.mem_append_left _ hf
  cases hw : (d.fragment a).whole with
  | true =>
    rw [accept_whole s hw]
    refine ⟨hlater, fun k hk => ?_⟩
    rw [← Option.some.inj hk]
    exact delivers_whole ha hw hp
  | false =>
    have hacc := accept_accepts s hw hoff payload
    obtain ⟨hi, got, hg, harr⟩ := h.slot hkeys hd
    have hlen := Sent.fragment_length ha
    change Accepts s (d.fragment a) (s.reasmSlot d.key.srcIp d.key.dstIp d.key.id d.key.proto).1
      ((s.reasmSlot d.key.srcIp d.key.dstIp d.key.id d.key.proto).2.store a.off (d.fragment a).more
        payload (d.fragment a).bytes.length) _ at hacc
    generalize s.reasmSlot d.key.srcIp d.key.dstIp d.key.id d.key.proto = slot at hacc hi hg
    have hrest : (((s.accept (d.fragment a) payload).1.reasm slot.1).used = true →
        ∃ e ∈ sent, ∃ got, Holds ((s.accept (d.fragment a) payload).1.reasm slot.1) e got ∧
          ∀ b ∈ got, e.fragment b ∈ arrived ++ [d.fragment a]) →
        Sound sent (arrived ++ [d.fragment a]) (s.accept (d.fragment a) payload).1 := by
      intro hslot j hj huj
      by_cases hji : j = slot.1
      · subst hji
        exact hslot huj
      · rw [hacc.other j hji] at huj ⊢
        exact hlater j hj huj
    by_cases hbig : ReasmMax < (d.fragment a).off + (d.fragment a).bytes.length
    · obtain ⟨hu, hnone⟩ := hacc.tooBig hbig
      exact ⟨hrest fun h => (by simp [hu] at h), fun k hk => by simp [hnone] at hk⟩
    · have hfit : a.off + a.len ≤ ReasmMax := by
        rw [hlen] at hbig
        exact not_lt.mp hbig
      have hnot : a ∉ got := fun hm => hnew (harr a hm)
      rw [hlen] at hacc hp
      have hst := hg.store ha hnot hfit payload hp
      by_cases hfull : (slot.2.store a.off (d.fragment a).more payload a.len).full
      · obtain ⟨hu, hsome⟩ := hacc.full (not_lt.mp hbig) hfull
        refine ⟨hrest fun h => (by simp [hu] at h), fun k hk => ?_⟩
        rw [hsome] at hk
        rw [← Option.some.inj hk]
        exact delivers_full hst hfull
      · obtain ⟨heq, hnone⟩ := hacc.part (not_lt.mp hbig) hfull
        refine ⟨hrest fun _ => ⟨d, hd, insert a got, ?_, fun b hb => ?_⟩, fun k hk => by simp [hnone] at hk⟩
        · rw [heq]
          exact hst.congr rfl rfl rfl rfl rfl
        · rcases Finset.mem_insert.mp hb with rfl | hb
          · exact List.mem_append_right _ (List.mem_singleton_self _)
          · exact List.mem_append_left _ (harr b hb)

end Soundness

theorem reset_sound (sent : Set Sent) (arrived : List Fragment) (s : VNet) :
    Sound sent arrived s.reset := fun _ _ hu => by cases hu

theorem Sound.run {sent : Set Sent} (hkeys : ∀ d ∈ sent, ∀ e ∈ sent, d.key = e.key → d = e)
    (ops : List Op) {arrived : List Fragment} {s : VNet} (h : Sound sent arrived s)
    (hsent : ∀ f ∈ s.inbounds ops, ∃ d ∈ sent, f ∈ d.fragments)
    (hnodup : (arrived ++ s.inbounds ops).Nodup) :
    ∀ k ∈ s.handedAll ops, ∃ d ∈ sent, Delivers k d := by
  induction ops generalizing s arrived with
  | nil =>
    intro k hk
    cases hk
  | cons op ops ih =>
    simp only [inbounds, handedAll] at hsent hnodup ⊢
    cases hin : s.inbound op with
    | none =>
      rw [hin] at hsent hnodup
      by_cases hr : op = .reset
      · subst hr
        intro k hk
        rcases List.mem_append.mp hk with hk | hk
        · cases hk
        · exact ih (reset_sound sent arrived s) hsent hnodup k hk
      · obtain ⟨hreasm, hnone⟩ := exec_quiet hin hr
        rw [hnone]
        exact ih (h.congr hreasm) hsent hnodup
    | some f =>
      rw [hin, Option.toList_some] at hsent hnodup
      obtain ⟨t, payload, ht, hp, hoff, hexec, hhand⟩ := exec_inbound hin
      obtain ⟨d, hd, hf⟩ := hsent f (List.mem_append_left _ (List.mem_singleton_self f))
      obtain ⟨a, ha, rfl⟩ := Sent.mem_fragments.mp hf
      have hnew : d.fragment a ∉ arrived := fun hm =>
        (List.nodup_append.mp hnodup).2.2 _ hm _ (List.mem_append_left _ (List.mem_singleton_self _)) rfl
      obtain ⟨hsound, hdel⟩ := (h.congr ht).accept hkeys hd ha hnew hoff hp
      intro k hk
      rcases List.mem_append.mp hk with hk | hk
      · rw [hhand] at hk
        exact ⟨d, hd, hdel k (Option.mem_toList.mp hk)⟩
      · refine ih (hsound.congr hexec) (fun f hf => hsent f (List.mem_append_right _ hf)) ?_ k hk
        rw [List.append_assoc]
        exact hnodup

/-- **What reassembly hands on is whole.** After a reset, whatever operations run
and whatever fragments of sent datagrams come in, none of them twice: every packet
handed to `deliverIpv4` is one of those datagrams, byte for byte. -/
theorem reassembled_whole (s : VNet) (ops : List Op) (sent : Set Sent)
    (hkeys : ∀ d ∈ sent, ∀ e ∈ sent, d.key = e.key → d = e)
    (hsent : ∀ f ∈ s.reset.inbounds ops, ∃ d ∈ sent, f ∈ d.fragments)
    (hnodup : (s.reset.inbounds ops).Nodup) :
    ∀ k ∈ s.reset.handedAll ops, ∃ d ∈ sent, Delivers k d :=
  (reset_sound sent [] s).run hkeys ops hsent hnodup

/-! ### A run of two datagrams -/

/-- The frame in which a host at the source address emits a fragment to everyone. -/
def wire (f : Fragment) : Op :=
  .onFrame 0x020000000002 MacBroadcast EtherType_IPv4
    (((fresh.setEmit.configure 0x020000000002 f.key.srcIp 0xFFFFFF00 1500).emitIpFragment MacBroadcast
      f.key.dstIp f.key.proto f.key.id (BitVec.ofNat 16 (f.off / 8)) f.more (Mem.ofBytes f.bytes)
      f.bytes.length).2.flatMap Frame.payload)

/-- Sixteen equal bytes in two fragments from 10.0.0.2 to 10.0.0.1. -/
def sixteen (id : U16) (byte : U8) : Sent where
  key := ⟨0x0A000002, 0x0A000001, id, IpProto_UDP⟩
  bytes := List.replicate 16 byte
  lens := [8, 8]
  sum := rfl
  pos := by decide
  nonempty := List.cons_ne_nil _ _

def firstHalf (d : Sent) : Op := wire (d.fragment ⟨0, 8⟩)
def secondHalf (d : Sent) : Op := wire (d.fragment ⟨8, 8⟩)

def addressed : Op := .configure 0x020000000001 0x0A000001 0xFFFFFF00 1500

/-- Two datagrams interleaved, the later one completed first. -/
theorem two_reassembled_whole :
    (fresh.reset.handedAll
        [addressed, firstHalf (sixteen 1 0xAA), secondHalf (sixteen 2 0xBB), firstHalf (sixteen 2 0xBB),
          secondHalf (sixteen 1 0xAA)]).length = 2 ∧
      ∀ k ∈ fresh.reset.handedAll
          [addressed, firstHalf (sixteen 1 0xAA), secondHalf (sixteen 2 0xBB), firstHalf (sixteen 2 0xBB),
            secondHalf (sixteen 1 0xAA)],
        ∃ d ∈ ({sixteen 1 0xAA, sixteen 2 0xBB} : Set Sent), Delivers k d := by
  have hin : fresh.reset.inbounds
      [addressed, firstHalf (sixteen 1 0xAA), secondHalf (sixteen 2 0xBB), firstHalf (sixteen 2 0xBB),
        secondHalf (sixteen 1 0xAA)] =
      [(sixteen 1 0xAA).fragment ⟨0, 8⟩, (sixteen 2 0xBB).fragment ⟨8, 8⟩,
        (sixteen 2 0xBB).fragment ⟨0, 8⟩, (sixteen 1 0xAA).fragment ⟨8, 8⟩] := by decide +kernel
  refine ⟨by decide +kernel, reassembled_whole fresh _ _ ?_ ?_ ?_⟩
  · rintro d (rfl | rfl) e (rfl | rfl) h
    · rfl
    · exact absurd h (by decide)
    · exact absurd h (by decide)
    · rfl
  · rw [hin]
    intro f hf
    simp only [List.mem_cons, List.not_mem_nil, or_false] at hf
    rcases hf with rfl | rfl | rfl | rfl
    · exact ⟨_, .inl rfl, by decide⟩
    · exact ⟨_, .inr rfl, by decide⟩
    · exact ⟨_, .inr rfl, by decide⟩
    · exact ⟨_, .inl rfl, by decide⟩
  · rw [hin]
    decide

end SysZerotier.Net.VNet
