import Mathlib

/-! Lists threaded through an array of indices.

`Chain next head l` says that following `next` from `head` visits exactly the
indices `l` and then meets `-1`. Several chains can share one array; each
operation is a point update of `next`, and a chain that does not visit the
updated index keeps its list. -/
namespace SysZerotier.Library.Links

def Chain (next : Nat → Int) : Int → List Nat → Prop
  | head, [] => head = -1
  | head, i :: l => head = i ∧ Chain next (next i) l

/-- The index an append must patch: the last of the list, or `-1`. -/
def tail : List Nat → Int
  | [] => -1
  | [i] => i
  | _ :: j :: l => tail (j :: l)

theorem tail_append (l : List Nat) (i : Nat) : tail (l ++ [i]) = i := by
  induction l with
  | nil => rfl
  | cons a l ih =>
    cases l with
    | nil => rfl
    | cons b l => exact ih

theorem tail_cons {i : Nat} {l : List Nat} (h : l ≠ []) : tail (i :: l) = tail l := by
  cases l with
  | nil => exact absurd rfl h
  | cons b l => rfl

/-- A nonempty list ends in its tail. -/
theorem eq_append_tail {l : List Nat} (h : l ≠ []) :
    ∃ (front : List Nat) (t : Nat), l = front ++ [t] ∧ tail l = t := by
  obtain ⟨front, t, rfl⟩ := l.eq_nil_or_concat.resolve_left h
  exact ⟨front, t, by simp, by rw [List.concat_eq_append, tail_append]⟩

variable {next : Nat → Int}

theorem Chain.head_neg {head : Int} {l : List Nat} (h : Chain next head l) : head < 0 ↔ l = [] := by
  cases l with
  | nil => simp only [Chain] at h; simp [h]
  | cons i l => simp only [Chain] at h; simp [h.1]

theorem Chain.cons_of_nonneg {head : Int} {l : List Nat} (h : Chain next head l) (hn : ¬head < 0) :
    ∃ rest, l = head.toNat :: rest ∧ Chain next (next head.toNat) rest := by
  cases l with
  | nil => exact absurd (h.head_neg.mpr rfl) hn
  | cons i rest =>
    obtain ⟨rfl, hrest⟩ := h
    exact ⟨rest, rfl, hrest⟩

theorem Chain.congr {next' : Nat → Int} {head : Int} {l : List Nat} (h : Chain next head l)
    (heq : ∀ i ∈ l, next' i = next i) : Chain next' head l := by
  induction l generalizing head with
  | nil => exact h
  | cons i l ih =>
    obtain ⟨hi, hrest⟩ := h
    refine ⟨hi, ?_⟩
    rw [heq i (List.mem_cons_self ..)]
    exact ih hrest fun j hj => heq j (List.mem_cons_of_mem i hj)

/-- Linking an unvisited index in front. -/
theorem Chain.push {next' : Nat → Int} {head : Int} {l : List Nat} {i : Nat} (h : Chain next head l)
    (hi : next' i = head) (heq : ∀ j ∈ l, next' j = next j) : Chain next' i (i :: l) :=
  ⟨rfl, by rw [hi]; exact h.congr heq⟩

/-- The indices met from `head` on, at most `fuel` of them. -/
def walk (next : Nat → Int) : Nat → Int → List Nat
  | 0, _ => []
  | fuel + 1, head => if head < 0 then [] else head.toNat :: walk next fuel (next head.toNat)

theorem Chain.walk {head : Int} {l : List Nat} {fuel : Nat} (h : Chain next head l)
    (hfuel : l.length ≤ fuel) : walk next fuel head = l := by
  induction l generalizing head fuel with
  | nil =>
    cases fuel with
    | zero => rfl
    | succ fuel => exact if_pos (h.head_neg.mpr rfl)
  | cons i l ih =>
    obtain ⟨rfl, hrest⟩ := h
    obtain ⟨fuel, rfl⟩ : ∃ n, fuel = n + 1 := ⟨fuel - 1, by simp only [List.length_cons] at hfuel; omega⟩
    rw [Links.walk, if_neg (by omega), Int.toNat_natCast, ih hrest (by simpa using hfuel)]

/-- Linking an index behind the last. -/
theorem Chain.append {next' : Nat → Int} {head : Int} {front : List Nat} {t i : Nat}
    (h : Chain next head (front ++ [t])) (ht : next' t = i) (hi : next' i = -1)
    (hnot : t ∉ front) (heq : ∀ j ∈ front, next' j = next j) : Chain next' head (front ++ [t, i]) := by
  induction front generalizing head with
  | nil => exact ⟨h.1, ht, hi⟩
  | cons a front ih =>
    obtain ⟨ha, hrest⟩ := h
    refine ⟨ha, ?_⟩
    rw [heq a (List.mem_cons_self ..)]
    exact ih hrest (fun hm => hnot (List.mem_cons_of_mem a hm))
      fun j hj => heq j (List.mem_cons_of_mem a hj)

/-- The chain that visits every index from `k` up to `n`. -/
theorem chain_range (n k : Nat) (hk : k ≤ n)
    (hnext : ∀ i, k ≤ i → i < n → next i = if i + 1 < n then ((i + 1 : Nat) : Int) else -1) :
    Chain next (if k < n then (k : Int) else -1) (List.range' k (n - k)) := by
  induction hd : n - k generalizing k with
  | zero =>
    rw [if_neg (by omega)]
    rfl
  | succ d ih =>
    rw [if_pos (by omega), List.range'_succ]
    refine ⟨rfl, ?_⟩
    rw [hnext k (by omega) (by omega)]
    exact ih (k + 1) (by omega) (fun i h h' => hnext i (by omega) h') (by omega)

/-! ### Sharing the indices -/

section Sharing
variable {ι : Type} [Fintype ι] {n : Nat} {free : List Nat} {q : ι → List Nat}

/-- A free list and a family of queues share the indices below `n` among them:
each is in exactly one of the lists, and once. -/
def Shares (n : Nat) (free : List Nat) (q : ι → List Nat) : Prop :=
  (free : Multiset Nat) + ∑ k, (q k : Multiset Nat) = Multiset.range n

/-- With every queue empty the free list holds every index. -/
theorem shares_empty (n : Nat) : Shares n (List.range n) (fun _ : ι => []) := by
  simp [Shares, Multiset.range]

theorem Shares.count (h : Shares n free q) (i : Nat) :
    free.count i + ∑ k, (q k).count i = if i < n then 1 else 0 := by
  have := congrArg (Multiset.count i) h
  rw [Multiset.count_add, Multiset.count_sum', Multiset.count_eq_of_nodup (Multiset.nodup_range n)] at this
  simpa only [Multiset.coe_count, Multiset.mem_range] using this

theorem Shares.length (h : Shares n free q) : free.length + ∑ k, (q k).length = n := by
  have := congrArg Multiset.card h
  rw [Multiset.card_add, Multiset.card_sum, Multiset.card_range] at this
  simpa only [Multiset.coe_card] using this

theorem Shares.lt_of_free (h : Shares n free q) {i : Nat} (hi : i ∈ free) : i < n := by
  have hc := h.count i
  have := List.count_pos_iff.mpr hi
  by_contra hn
  rw [if_neg hn] at hc
  omega

theorem Shares.lt_of_queue (h : Shares n free q) {i : Nat} {k : ι} (hi : i ∈ q k) : i < n := by
  have hc := h.count i
  have hk := List.count_pos_iff.mpr hi
  have := Finset.single_le_sum (f := fun k => (q k).count i) (fun _ _ => Nat.zero_le _)
    (Finset.mem_univ k)
  by_contra hn
  rw [if_neg hn] at hc
  omega

theorem Shares.free_not_queue (h : Shares n free q) {i : Nat} (hi : i ∈ free) (k : ι) : i ∉ q k := by
  intro hk
  have hc := h.count i
  have h1 := List.count_pos_iff.mpr hi
  have h2 := List.count_pos_iff.mpr hk
  have := Finset.single_le_sum (f := fun k => (q k).count i) (fun _ _ => Nat.zero_le _)
    (Finset.mem_univ k)
  split at hc <;> omega

theorem Shares.free_nodup (h : Shares n free q) : free.Nodup := by
  rw [List.nodup_iff_count_le_one]
  intro i
  have := h.count i
  split at this <;> omega

theorem Shares.queue_nodup (h : Shares n free q) (k : ι) : (q k).Nodup := by
  rw [List.nodup_iff_count_le_one]
  intro i
  have hc := h.count i
  have := Finset.single_le_sum (f := fun k => (q k).count i) (fun _ _ => Nat.zero_le _)
    (Finset.mem_univ k)
  split at hc <;> omega

variable [DecidableEq ι]

theorem Shares.queue_not_other (h : Shares n free q) {i : Nat} {k k' : ι} (hi : i ∈ q k) (hne : k' ≠ k) :
    i ∉ q k' := by
  intro hk
  have hc := h.count i
  have h1 := List.count_pos_iff.mpr hi
  have h2 := List.count_pos_iff.mpr hk
  have hsplit := Finset.add_sum_erase Finset.univ (fun k => (q k).count i) (Finset.mem_univ k)
  have := Finset.single_le_sum (f := fun k => (q k).count i) (fun _ _ => Nat.zero_le _)
    (Finset.mem_erase.mpr ⟨hne, Finset.mem_univ k'⟩)
  split at hc <;> omega

private theorem sum_update (q : ι → List Nat) (k : ι) (l : List Nat) :
    (∑ j, (Function.update q k l j : Multiset Nat)) + (q k : Multiset Nat) =
      (∑ j, (q j : Multiset Nat)) + (l : Multiset Nat) := by
  have hnew := Finset.add_sum_erase Finset.univ
    (fun j => (Function.update q k l j : Multiset Nat)) (Finset.mem_univ k)
  have hold := Finset.add_sum_erase Finset.univ (fun j => (q j : Multiset Nat)) (Finset.mem_univ k)
  have hsame : ∑ j ∈ Finset.univ.erase k, (Function.update q k l j : Multiset Nat) =
      ∑ j ∈ Finset.univ.erase k, (q j : Multiset Nat) :=
    Finset.sum_congr rfl fun j hj => by rw [Function.update_of_ne (Finset.ne_of_mem_erase hj)]
  simp only [Function.update_self] at hnew
  rw [← hnew, ← hold, hsame]
  abel

/-- Indices moved between the free list and one queue are still shared. -/
theorem Shares.move (h : Shares n free q) {free' : List Nat} (k : ι) (l : List Nat)
    (hperm : (free' ++ l).Perm (free ++ q k)) : Shares n free' (Function.update q k l) := by
  have hp : (free' : Multiset Nat) + (l : Multiset Nat) = (free : Multiset Nat) + (q k : Multiset Nat) := by
    simpa only [Multiset.coe_add] using Multiset.coe_eq_coe.mpr hperm
  have hu := sum_update q k l
  unfold Shares at h ⊢
  apply add_right_cancel (b := (q k : Multiset Nat))
  rw [add_assoc, hu, ← h]
  calc (free' : Multiset Nat) + ((∑ j, (q j : Multiset Nat)) + (l : Multiset Nat))
      = ((free' : Multiset Nat) + (l : Multiset Nat)) + ∑ j, (q j : Multiset Nat) := by abel
    _ = ((free : Multiset Nat) + (q k : Multiset Nat)) + ∑ j, (q j : Multiset Nat) := by rw [hp]
    _ = ((free : Multiset Nat) + ∑ j, (q j : Multiset Nat)) + (q k : Multiset Nat) := by abel

end Sharing

end SysZerotier.Library.Links
