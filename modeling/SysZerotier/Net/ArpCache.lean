import SysZerotier.Net.VNet
import SysZerotier.Library.Recency

/-! The ARP cache keeps the neighbours heard of last.

One scan of `learnMac` looks the address up, finds the first free entry or else the
one used longest ago. `Recent` orders the entries in use by their stamps: learning
moves an entry to the front, and what falls off at the end is what a store of 16
entries (`Library.Recency`) drops. -/
namespace SysZerotier.Net
open Library

/-- The calls of `learnMac` that are not ignored. -/
def learnable (call : U32 × U64) : Bool :=
  decide (call.1 ≠ 0 ∧ call.2 ≠ 0 ∧ call.2 ≠ MacBroadcast)

namespace VNet

def learnAll (s : VNet) (calls : List (U32 × U64)) : VNet :=
  calls.foldl (fun s call => s.learnMac call.1 call.2) s

/-- The addresses and MACs of the entries named by the indices. -/
def arpEntries (s : VNet) (order : List Nat) : List (U32 × U64) :=
  order.map fun i => ((s.arp i).ip, (s.arp i).mac)

/-- The entries in use, in table order. -/
def arpCache (s : VNet) : List (U32 × U64) :=
  s.arpEntries ((List.range ArpEntries).filter fun i => (s.arp i).mac ≠ 0)

/-- The entries in use are the first ones of the table, and these are they, the one
used last in front. -/
structure Recent (s : VNet) (order : List Nat) : Prop where
  slots : order.Perm (List.range order.length)
  le : order.length ≤ ArpEntries
  filled : ∀ i ∈ order, (s.arp i).mac ≠ 0
  free : ∀ i, order.length ≤ i → i < ArpEntries → (s.arp i).mac = 0
  aged : order.Pairwise fun i j => (s.arp j).lastUsed.toNat < (s.arp i).lastUsed.toNat
  stamped : ∀ i ∈ order, (s.arp i).lastUsed.toNat ≤ s.tick.toNat
  distinct : ((s.arpEntries order).map Prod.fst).Nodup

/-! ### The scan -/

/-- What the scan finds: the entry for the address; the first free entry, or an entry
no other is older than, when none is for it. -/
theorem learnScan_cases (arp : Nat → ArpEntry) (ip : U32) (l : List Nat) (oldest : Nat) :
    (∃ i ∈ l, learnScan arp ip l oldest = .inl i ∧ (arp i).mac ≠ 0 ∧ (arp i).ip = ip) ∨
    (∃ pre i post, l = pre ++ i :: post ∧ learnScan arp ip l oldest = .inr i ∧ (arp i).mac = 0 ∧
      ∀ j ∈ pre, (arp j).mac ≠ 0 ∧ (arp j).ip ≠ ip) ∨
    (∃ i ∈ oldest :: l, learnScan arp ip l oldest = .inr i ∧ (∀ j ∈ l, (arp j).mac ≠ 0 ∧ (arp j).ip ≠ ip) ∧
      ∀ j ∈ oldest :: l, (arp i).lastUsed.toNat ≤ (arp j).lastUsed.toNat) := by
  induction l generalizing oldest with
  | nil => exact .inr (.inr ⟨oldest, by simp, rfl, by simp, by simp⟩)
  | cons k l ih =>
    rw [learnScan]
    by_cases hk : (arp k).mac ≠ 0 ∧ (arp k).ip = ip
    · rw [if_pos hk]
      exact .inl ⟨k, by simp, rfl, hk⟩
    rw [if_neg hk]
    by_cases hfree : (arp k).mac = 0
    · rw [if_pos hfree]
      exact .inr (.inl ⟨[], k, l, rfl, rfl, hfree, by simp⟩)
    rw [if_neg hfree]
    have hother : (arp k).mac ≠ 0 ∧ (arp k).ip ≠ ip := ⟨hfree, fun h => hk ⟨hfree, h⟩⟩
    rcases ih (if (arp k).lastUsed < (arp oldest).lastUsed then k else oldest) with
      ⟨i, hi, heq, hhit⟩ | ⟨pre, i, post, rfl, heq, hmac, hpre⟩ | ⟨i, hi, heq, hall, hmin⟩
    · exact .inl ⟨i, List.mem_cons_of_mem k hi, heq, hhit⟩
    · refine .inr (.inl ⟨k :: pre, i, post, rfl, heq, hmac, fun j hj => ?_⟩)
      rcases List.mem_cons.mp hj with rfl | hj
      · exact hother
      · exact hpre j hj
    · refine .inr (.inr ⟨i, ?_, heq, fun j hj => ?_, ?_⟩)
      · rcases List.mem_cons.mp hi with rfl | hi
        · split <;> simp
        · simp [hi]
      · rcases List.mem_cons.mp hj with rfl | hj
        · exact hother
        · exact hall j hj
      · have hbest := hmin _ (List.mem_cons_self ..)
        intro j hj
        rcases List.mem_cons.mp hj with rfl | hj
        · split at hbest
          · rename_i hlt
            have := BitVec.lt_def.mp hlt
            omega
          · exact hbest
        · rcases List.mem_cons.mp hj with rfl | hj
          · split at hbest
            · exact hbest
            · rename_i hlt
              have : ¬(arp j).lastUsed.toNat < (arp oldest).lastUsed.toNat := fun h => hlt (BitVec.lt_def.mpr h)
              omega
          · exact hmin j (List.mem_cons_of_mem _ hj)

/-! ### Learning -/

theorem reset_recent (s : VNet) : Recent s.reset [] where
  slots := List.Perm.refl _
  le := Nat.zero_le _
  filled := by simp
  free := fun _ _ _ => rfl
  aged := List.Pairwise.nil
  stamped := by simp
  distinct := List.nodup_nil

theorem Recent.lt {s : VNet} {order : List Nat} (h : Recent s order) {i : Nat} :
    i ∈ order ↔ i < order.length := by
  rw [h.slots.mem_iff, List.mem_range]

theorem Recent.nodup {s : VNet} {order : List Nat} (h : Recent s order) : order.Nodup :=
  h.slots.nodup_iff.mpr List.nodup_range

/-- An entry in use within the table is one of the order. -/
theorem Recent.mem {s : VNet} {order : List Nat} (h : Recent s order) {i : Nat} (hi : i < ArpEntries)
    (hu : (s.arp i).mac ≠ 0) : i ∈ order := by
  rw [h.lt]
  by_contra hn
  exact hu (h.free i (not_lt.mp hn) hi)

/-- The entry `learnMac` writes: the address's own, the next free one, or the last of
the order. -/
theorem learnMac_slot {s : VNet} {order : List Nat} (h : Recent s order) {ip : U32} {mac : U64}
    (hlearn : learnable (ip, mac) = true) :
    ∃ i, s.learnMac ip mac =
        { s with arp := Function.update s.arp i ⟨ip, mac, s.tick + 1⟩, tick := s.tick + 1 } ∧
      (i ∈ order ∧ (s.arp i).ip = ip ∨
        (∀ j ∈ order, (s.arp j).ip ≠ ip) ∧ (i = order.length ∧ i < ArpEntries ∨
          order.length = ArpEntries ∧ ∃ front, order = front ++ [i])) := by
  simp only [learnable, decide_eq_true_eq] at hlearn
  unfold learnMac
  rw [if_neg (by tauto)]
  rcases learnScan_cases s.arp ip (List.range ArpEntries) 0 with
    ⟨i, hi, heq, hused, hip⟩ | ⟨pre, i, post, hsplit, heq, hfree, hpre⟩ | ⟨i, hi, heq, hall, hmin⟩
  · rw [heq]
    refine ⟨i, ?_, .inl ⟨h.mem (List.mem_range.mp hi) hused, hip⟩⟩
    rw [← hip]
  · rw [heq]
    -- the entries in front of a free one are the whole order
    have hlen : pre.length < ArpEntries := by
      have := congrArg List.length hsplit
      simp only [List.length_range, List.length_append, List.length_cons] at this
      omega
    have hat : i = pre.length := by
      have hget : (List.range ArpEntries)[pre.length]? = some i := by rw [hsplit]; simp
      rw [List.getElem?_range hlen] at hget
      exact (Option.some.inj hget).symm
    have hpref : ∀ j, j ∈ pre ↔ j < i := by
      intro j
      have htake : pre = List.range pre.length := by
        have := congrArg (List.take pre.length) hsplit
        rw [List.take_left, List.take_range, Nat.min_eq_left hlen.le] at this
        exact this.symm
      rw [htake, List.mem_range, hat]
    have hle : order.length ≤ i := by
      by_contra hlt
      exact h.filled i (h.lt.mpr (not_le.mp hlt)) hfree
    have hge : i ≤ order.length := by
      by_contra hlt
      have hfirst := h.free order.length le_rfl (by omega)
      exact (hpre order.length ((hpref _).mpr (not_le.mp hlt))).1 hfirst
    refine ⟨i, rfl, .inr ⟨fun j hj => (hpre j ((hpref j).mpr ?_)).2, .inl ⟨by omega, by omega⟩⟩⟩
    exact lt_of_lt_of_le (h.lt.mp hj) hle
  · rw [heq]
    have hfull : order.length = ArpEntries := by
      have hle := h.le
      by_contra hne
      have hfirst := h.free order.length le_rfl (by omega)
      exact (hall order.length (List.mem_range.mpr (by omega))).1 hfirst
    have hmem : ∀ j, j ∈ order ↔ j ∈ 0 :: List.range ArpEntries := by
      intro j
      rw [h.lt, hfull, List.mem_cons, List.mem_range]
      have : 0 < ArpEntries := by decide
      omega
    refine ⟨i, rfl, .inr ⟨fun j hj => ?_, .inr ⟨hfull, ?_⟩⟩⟩
    · have hj' := h.lt.mp hj
      rw [hfull] at hj'
      exact (hall j (List.mem_range.mpr hj')).2
    · -- no entry is older than `i`, and the last of the order is older than the others
      have hne : order ≠ [] := by
        rintro rfl
        simp [ArpEntries] at hfull
      obtain ⟨front, last, rfl⟩ := (List.eq_nil_or_concat order).resolve_left hne
      rw [List.concat_eq_append] at *
      have hlast := hmin last ((hmem last).mp (by simp))
      have hi' := (hmem i).mpr hi
      rcases List.mem_append.mp hi' with hf | hf
      · have := (List.pairwise_append.mp h.aged).2.2 i hf last (by simp)
        omega
      · obtain rfl := List.mem_singleton.mp hf
        exact ⟨front, rfl⟩

theorem arpEntries_write {s : VNet} {order : List Nat} {ip : U32} {mac : U64} {i : Nat}
    (hold : ∀ j ∈ order.erase i, j ∈ order ∧ Function.update s.arp i ⟨ip, mac, s.tick + 1⟩ j = s.arp j) :
    arpEntries { s with arp := Function.update s.arp i ⟨ip, mac, s.tick + 1⟩, tick := s.tick + 1 }
      (i :: order.erase i) = (ip, mac) :: s.arpEntries (order.erase i) := by
  simp only [arpEntries, List.map_cons, Function.update_self]
  congr 1
  exact List.map_congr_left fun j hj => by rw [(hold j hj).2]

/-- Writing an entry moves it to the front. -/
theorem Recent.write {s : VNet} {order : List Nat} (h : Recent s order) {ip : U32} {mac : U64} (hmac : mac ≠ 0)
    (htick : s.tick.toNat + 1 < 2 ^ 32) {i : Nat} (hi : i ∈ order ∨ i = order.length ∧ i < ArpEntries)
    (hother : ∀ j ∈ order, (s.arp j).ip = ip → j = i) :
    Recent { s with arp := Function.update s.arp i ⟨ip, mac, s.tick + 1⟩, tick := s.tick + 1 }
      (i :: order.erase i) := by
  have hnext : (s.tick + 1).toNat = s.tick.toNat + 1 := by
    rw [BitVec.toNat_add]
    exact Nat.mod_eq_of_lt htick
  have hnot : i ∉ order.erase i := fun hm => (h.nodup.mem_erase_iff.mp hm).1 rfl
  have hold : ∀ j ∈ order.erase i, j ∈ order ∧ Function.update s.arp i ⟨ip, mac, s.tick + 1⟩ j = s.arp j :=
    fun j hj => ⟨List.mem_of_mem_erase hj, Function.update_of_ne (by rintro rfl; exact hnot hj) ..⟩
  obtain ⟨hslots, hlen, hge⟩ : (i :: order.erase i).Perm (List.range (i :: order.erase i).length) ∧
      (i :: order.erase i).length ≤ ArpEntries ∧ order.length ≤ (i :: order.erase i).length := by
    rcases hi with hi | ⟨hi, hlt⟩
    · have hperm := (List.perm_cons_erase hi).symm
      rw [hperm.length_eq]
      exact ⟨hperm.trans h.slots, h.le, le_rfl⟩
    · have hmem : i ∉ order := fun hm => by have := h.lt.mp hm; omega
      rw [List.erase_of_not_mem hmem, List.length_cons, List.range_succ]
      refine ⟨?_, by omega, by omega⟩
      rw [hi]
      exact (h.slots.cons _).trans (List.perm_append_singleton _ _).symm
  have hall : ∀ {P : ArpEntry → Prop}, P ⟨ip, mac, s.tick + 1⟩ → (∀ j ∈ order.erase i, P (s.arp j)) →
      ∀ j ∈ i :: order.erase i, P (Function.update s.arp i ⟨ip, mac, s.tick + 1⟩ j) := by
    intro P hnew hrest j hj
    rcases List.mem_cons.mp hj with rfl | hj
    · rw [Function.update_self]
      exact hnew
    · rw [(hold j hj).2]
      exact hrest j hj
  refine ⟨hslots, hlen, ?_, fun j hj hlt => ?_, ?_, ?_, ?_⟩
  · exact hall (P := fun e => e.mac ≠ 0) hmac fun j hj => h.filled j (hold j hj).1
  · have hji : j ≠ i := by
      rintro rfl
      have := (List.mem_range.mp (hslots.mem_iff.mp (List.mem_cons_self ..)))
      omega
    show (Function.update s.arp i ⟨ip, mac, s.tick + 1⟩ j).mac = 0
    rw [Function.update_of_ne hji]
    exact h.free j (hge.trans hj) hlt
  · refine List.pairwise_cons.mpr ⟨fun j hj => ?_, ?_⟩
    · show (Function.update s.arp i ⟨ip, mac, s.tick + 1⟩ j).lastUsed.toNat <
        (Function.update s.arp i ⟨ip, mac, s.tick + 1⟩ i).lastUsed.toNat
      rw [(hold j hj).2, Function.update_self, hnext]
      exact Nat.lt_succ_of_le (h.stamped j (hold j hj).1)
    · refine (h.aged.sublist List.erase_sublist).imp_of_mem fun ha hb hab => ?_
      show (Function.update s.arp i ⟨ip, mac, s.tick + 1⟩ _).lastUsed.toNat <
        (Function.update s.arp i ⟨ip, mac, s.tick + 1⟩ _).lastUsed.toNat
      rw [(hold _ ha).2, (hold _ hb).2]
      exact hab
  · refine hall (P := fun e => e.lastUsed.toNat ≤ (s.tick + 1).toNat) le_rfl fun j hj => ?_
    rw [hnext]
    exact (h.stamped j (hold j hj).1).trans (Nat.le_succ _)
  · rw [arpEntries_write hold, List.map_cons, List.nodup_cons]
    refine ⟨fun hm => ?_, h.distinct.sublist ((List.erase_sublist.map _).map _)⟩
    obtain ⟨e, he, hip⟩ := List.mem_map.mp hm
    obtain ⟨j, hj, rfl⟩ := List.mem_map.mp he
    exact hnot (hother j (hold j hj).1 hip ▸ hj)

theorem Recent.unique {s : VNet} {order : List Nat} (h : Recent s order) {i j : Nat} (hi : i ∈ order)
    (hj : j ∈ order) (hip : (s.arp i).ip = (s.arp j).ip) : i = j := by
  have hd := h.distinct
  rw [arpEntries, List.map_map] at hd
  exact List.inj_on_of_nodup_map hd hi hj hip

/-- **Learning an address is what a store of 16 entries does with it.** -/
theorem Recent.learn {s : VNet} {order : List Nat} (h : Recent s order) {ip : U32} {mac : U64}
    (hlearn : learnable (ip, mac) = true) (htick : s.tick.toNat + 1 < 2 ^ 32) :
    ∃ order', Recent (s.learnMac ip mac) order' ∧ (s.learnMac ip mac).tick = s.tick + 1 ∧
      (s.learnMac ip mac).arpEntries order' = Recency.touch ArpEntries (s.arpEntries order) (ip, mac) := by
  have hmac : mac ≠ 0 := by
    simp only [learnable, decide_eq_true_eq] at hlearn
    exact hlearn.2.1
  obtain ⟨i, heq, hslot⟩ := learnMac_slot h hlearn
  rw [heq]
  have hin : i ∈ order ∨ i = order.length ∧ i < ArpEntries := by
    rcases hslot with ⟨hi, -⟩ | ⟨-, hi | ⟨-, front, hfront⟩⟩
    · exact .inl hi
    · exact .inr hi
    · exact .inl (by simp [hfront])
  have hother : ∀ j ∈ order, (s.arp j).ip = ip → j = i := by
    intro j hj hip
    rcases hslot with ⟨hi, hown⟩ | ⟨hnone, -⟩
    · exact h.unique hj hi (hip.trans hown.symm)
    · exact absurd hip (hnone j hj)
  refine ⟨i :: order.erase i, h.write hmac htick hin hother, rfl, ?_⟩
  have hold : ∀ j ∈ order.erase i, j ∈ order ∧ Function.update s.arp i ⟨ip, mac, s.tick + 1⟩ j = s.arp j := by
    intro j hj
    refine ⟨List.mem_of_mem_erase hj, Function.update_of_ne ?_ ..⟩
    rintro rfl
    exact (h.nodup.mem_erase_iff.mp hj).1 rfl
  rw [arpEntries_write hold, Recency.touch]
  rcases hslot with ⟨hi, hown⟩ | ⟨hnone, hi⟩
  · -- the address's own entry
    have hdrop : (s.arpEntries order).filter (fun o => o.1 ≠ ip) = s.arpEntries (order.erase i) := by
      rw [arpEntries, List.filter_map, arpEntries, h.nodup.erase_eq_filter]
      congr 1
      refine List.filter_congr fun j hj => ?_
      rw [Bool.eq_iff_iff]
      simp only [Function.comp_apply, bne_iff_ne, decide_eq_true_eq]
      exact not_congr ⟨hother j hj, fun he => by rw [he, hown]⟩
    have hlen := List.length_erase_of_mem hi
    have hpos := List.length_pos_of_mem hi
    have hle := h.le
    rw [hdrop, List.take_of_length_le]
    simp only [arpEntries, List.length_cons, List.length_map]
    omega
  have hkeep : (s.arpEntries order).filter (fun o => o.1 ≠ ip) = s.arpEntries order := by
    refine List.filter_eq_self.mpr fun o ho => ?_
    obtain ⟨j, hj, rfl⟩ := List.mem_map.mp ho
    exact decide_eq_true (hnone j hj)
  rw [hkeep]
  rcases hi with ⟨hi, hlt⟩ | ⟨hfull, front, rfl⟩
  · -- the next free entry
    have hmem : i ∉ order := fun hm => by have := h.lt.mp hm; omega
    rw [List.erase_of_not_mem hmem, List.take_of_length_le]
    simp only [arpEntries, List.length_cons, List.length_map]
    omega
  · -- the entry used longest ago
    have hmem : i ∉ front := fun hm => (List.nodup_append.mp h.nodup).2.2 i hm i (by simp) rfl
    have hlen : front.length = 15 := by
      simp only [List.length_append, List.length_singleton] at hfull
      exact Nat.succ.inj hfull
    have herase : (front ++ [i]).erase i = front := by
      rw [List.erase_append_right _ hmem]
      simp
    rw [herase, show ArpEntries = 15 + 1 from rfl, List.take_succ_cons, arpEntries, arpEntries, List.map_append,
      List.take_left' (by rw [List.length_map, hlen])]

theorem learnMac_ignored (s : VNet) {ip : U32} {mac : U64} (h : learnable (ip, mac) = false) :
    s.learnMac ip mac = s := by
  simp only [learnable, decide_eq_false_iff_not] at h
  exact if_pos (by tauto)

theorem Recent.learnAll (calls : List (U32 × U64)) {s : VNet} {order : List Nat} (h : Recent s order)
    (htick : s.tick.toNat + (calls.filter learnable).length < 2 ^ 32) :
    ∃ order', Recent (s.learnAll calls) order' ∧ (s.learnAll calls).arpEntries order' =
      (calls.filter learnable).foldl (Recency.touch ArpEntries) (s.arpEntries order) := by
  induction calls generalizing s order with
  | nil => exact ⟨order, h, rfl⟩
  | cons call calls ih =>
    obtain ⟨ip, mac⟩ := call
    cases hlearn : learnable (ip, mac) with
    | true =>
      rw [List.filter_cons_of_pos hlearn] at htick ⊢
      rw [List.length_cons] at htick
      obtain ⟨next, hnext, hstamp, hentries⟩ := h.learn hlearn (by omega)
      have hplus : (s.tick + 1).toNat = s.tick.toNat + 1 := by
        rw [BitVec.toNat_add]
        exact Nat.mod_eq_of_lt (by show s.tick.toNat + 1 < 2 ^ 32; omega)
      rw [List.foldl_cons, ← hentries]
      exact ih hnext (by rw [hstamp, hplus]; omega)
    | false =>
      rw [List.filter_cons_of_neg (by simp [hlearn])] at htick ⊢
      have hsame : s.learnAll ((ip, mac) :: calls) = s.learnAll calls := by
        show (s.learnMac ip mac).learnAll calls = _
        rw [learnMac_ignored s hlearn]
      rw [hsame]
      exact ih h htick

/-! ### Looking up -/

theorem Recent.cache {s : VNet} {order : List Nat} (h : Recent s order) :
    s.arpCache.Perm (s.arpEntries order) := by
  refine List.Perm.map _ ((List.perm_ext_iff_of_nodup (List.nodup_range.filter _) h.nodup).mpr fun i => ?_)
  simp only [List.mem_filter, List.mem_range, decide_eq_true_eq]
  exact ⟨fun hi => h.mem hi.1 hi.2, fun hi => ⟨lt_of_lt_of_le (h.lt.mp hi) h.le, h.filled i hi⟩⟩

theorem lookupMac_cache (s : VNet) {ip : U32} (h : s.isBroadcast ip = false) :
    s.lookupMac ip = (s.arpCache.lookup ip).getD 0 := by
  rw [lookupMac, h, if_neg Bool.false_ne_true, arpCache]
  induction List.range ArpEntries with
  | nil => rfl
  | cons i l ih =>
    rw [List.find?_cons, List.filter_cons]
    by_cases hmac : (s.arp i).mac = 0
    · have hskip : ((s.arp i).mac != 0 && (s.arp i).ip == ip) = false := by simp [hmac]
      rw [hskip, if_neg (by simp [hmac])]
      exact ih
    · rw [if_pos (decide_eq_true hmac), arpEntries, List.map_cons, List.lookup_cons]
      by_cases hip : (s.arp i).ip = ip
      · have hhit : ((s.arp i).mac != 0 && (s.arp i).ip == ip) = true := by
          rw [hip, BEq.rfl, Bool.and_true]
          exact bne_iff_ne.mpr hmac
        rw [hhit, hip, BEq.rfl]
        rfl
      · have hskip : ((s.arp i).mac != 0 && (s.arp i).ip == ip) = false := by simp [hip]
        have hne : (ip == (s.arp i).ip) = false := beq_eq_false_iff_ne.mpr (Ne.symm hip)
        rw [hskip, hne]
        exact ih

/-- **The cache holds the neighbours learned last.** After a reset, with the interface
configured since or not, and any calls of `learnMac` of which fewer than 2^32 count,
the entries in use are the 16 addresses learned last, each once and with the last MAC
learned for it, and that MAC is what a lookup of the address finds. -/
theorem arp_cache_recent (s₀ s : VNet)
    (hs : s = s₀.reset ∨ ∃ mac ip netmask mtu, s = s₀.reset.configure mac ip netmask mtu)
    (calls : List (U32 × U64)) (htick : (calls.filter learnable).length < 2 ^ 32) :
    let t := s.learnAll calls
    let recent := (Recency.latest (calls.filter learnable).reverse).take ArpEntries
    t.arpCache.Perm recent ∧ (t.arpCache.map Prod.fst).Nodup ∧
      ∀ ip, t.isBroadcast ip = false → t.lookupMac ip = (recent.lookup ip).getD 0 := by
  intro t recent
  obtain ⟨hstart, hzero⟩ : Recent s [] ∧ s.tick = 0 := by
    rcases hs with rfl | ⟨mac, ip, netmask, mtu, rfl⟩
    · exact ⟨reset_recent s₀, rfl⟩
    · obtain ⟨h1, h2, h3, h4, h5, h6, h7⟩ := reset_recent s₀
      exact ⟨⟨h1, h2, h3, h4, h5, h6, h7⟩, rfl⟩
  obtain ⟨order, horder, hentries⟩ := hstart.learnAll calls (by
    rw [hzero]
    show 0 + _ < _
    rw [Nat.zero_add]
    exact htick)
  have hrecent : t.arpEntries order = recent := hentries.trans (Recency.foldl_touch ..)
  have hperm : t.arpCache.Perm recent := hrecent ▸ horder.cache
  have hnodup : (recent.map Prod.fst).Nodup := hrecent ▸ horder.distinct
  refine ⟨hperm, (hperm.map _).nodup_iff.mpr hnodup, fun ip hip => ?_⟩
  rw [lookupMac_cache t hip, Recency.lookup_perm hperm hnodup]

/-- Seventeen neighbours, the first of which is heard of again before the last: the
second is forgotten. -/
theorem arp_cache_recent_evicts :
    let calls := (List.range 16).map (fun i => (BitVec.ofNat 32 (i + 1), BitVec.ofNat 64 (i + 1))) ++
      [((1 : U32), (0x77 : U64)), (0x20, 0x99)]
    let t := fresh.reset.learnAll calls
    t.lookupMac 1 = 0x77 ∧ t.lookupMac 2 = 0 ∧ t.lookupMac 0x20 = 0x99 := by
  intro calls t
  obtain ⟨-, -, hlookup⟩ := arp_cache_recent fresh _ (.inl rfl) calls (by decide)
  refine ⟨(hlookup 1 (by decide +kernel)).trans ?_, (hlookup 2 (by decide +kernel)).trans ?_,
    (hlookup 0x20 (by decide +kernel)).trans ?_⟩
  all_goals decide +kernel

end VNet

end SysZerotier.Net
