import Mathlib

/-! A bank of FIFO queues over one bounded store.

`n` queues, each closed or open, together hold at most `capacity` items: the
bound is a field, so an overfull bank cannot be built. Putting an item into a
full bank refuses it and counts the refusal. -/
namespace SysZerotier.Library

structure Bank (n capacity : Nat) (α : Type) where
  /-- `none` when the queue is closed. -/
  queue : Fin n → Option (List α)
  refused : Nat
  within : ∑ k, ((queue k).getD []).length ≤ capacity

namespace Bank
variable {n capacity : Nat} {α : Type}

@[ext] theorem ext {b c : Bank n capacity α} (hq : ∀ k, b.queue k = c.queue k)
    (hr : b.refused = c.refused) : b = c := by
  cases b
  cases c
  obtain rfl := funext hq
  obtain rfl := hr
  rfl

/-- How many items the queues hold together. -/
def held (b : Bank n capacity α) : Nat := ∑ k, ((b.queue k).getD []).length

def empty : Bank n capacity α := ⟨fun _ => none, 0, by simp⟩

/-- Replacing one queue changes the number held by the difference of lengths. -/
theorem held_update (b : Bank n capacity α) (k : Fin n) (l : Option (List α)) :
    ∑ j, ((Function.update b.queue k l j).getD []).length + ((b.queue k).getD []).length =
      b.held + (l.getD []).length := by
  have hnew := Finset.add_sum_erase Finset.univ
    (fun j => ((Function.update b.queue k l j).getD []).length) (Finset.mem_univ k)
  have hold := Finset.add_sum_erase Finset.univ (fun j => ((b.queue j).getD []).length)
    (Finset.mem_univ k)
  have hsame : ∑ j ∈ Finset.univ.erase k, ((Function.update b.queue k l j).getD []).length =
      ∑ j ∈ Finset.univ.erase k, ((b.queue j).getD []).length :=
    Finset.sum_congr rfl fun j hj => by rw [Function.update_of_ne (Finset.ne_of_mem_erase hj)]
  simp only [Function.update_self] at hnew
  unfold held
  omega

/-- A queue replaced by one that is no longer leaves the bank within its bound. -/
def shrink (b : Bank n capacity α) (k : Fin n) (l : Option (List α))
    (h : (l.getD []).length ≤ ((b.queue k).getD []).length) : Bank n capacity α where
  queue := Function.update b.queue k l
  refused := b.refused
  within := by
    have := b.held_update k l
    have := b.within
    unfold held at *
    omega

/-- Open a queue, empty. -/
def opened (b : Bank n capacity α) (k : Fin n) : Bank n capacity α :=
  b.shrink k (some []) (Nat.zero_le _)

/-- Close a queue and give its places back. -/
def closed (b : Bank n capacity α) (k : Fin n) : Bank n capacity α :=
  b.shrink k none (Nat.zero_le _)

/-- The first closed queue. -/
def firstClosed (b : Bank n capacity α) : Option (Fin n) :=
  (List.finRange n).find? fun k => (b.queue k).isNone

/-- Append to an open queue, unless every place is taken. -/
def put (b : Bank n capacity α) (k : Fin n) (x : α) : Bank n capacity α :=
  match hk : b.queue k with
  | none => b
  | some l =>
    if h : b.held < capacity then
      ⟨Function.update b.queue k (some (l ++ [x])), b.refused, by
        have := b.held_update k (some (l ++ [x]))
        rw [hk] at this
        simp only [Option.getD_some, List.length_append, List.length_singleton] at this
        omega⟩
    else { b with refused := b.refused + 1 }

def front (b : Bank n capacity α) (k : Fin n) : Option α := (b.queue k).bind List.head?

/-- Drop the first item of an open queue. -/
def drop (b : Bank n capacity α) (k : Fin n) : Bank n capacity α :=
  b.shrink k ((b.queue k).map List.tail) (by cases b.queue k <;> simp)

/-- Several items, each into its queue, in order. -/
def putAll (b : Bank n capacity α) (items : List (Fin n × α)) : Bank n capacity α :=
  items.foldl (fun b item => b.put item.1 item.2) b

theorem put_refused {b : Bank n capacity α} {k : Fin n} {x : α} (hopen : b.queue k ≠ none)
    (hfull : ¬b.held < capacity) : b.put k x = { b with refused := b.refused + 1 } := by
  unfold put
  split
  · rename_i h
    exact absurd h hopen
  · rw [dif_neg hfull]

theorem put_queue {b : Bank n capacity α} {k : Fin n} {l : List α} (x : α) (hk : b.queue k = some l)
    (hroom : b.held < capacity) :
    (b.put k x).queue = Function.update b.queue k (some (l ++ [x])) ∧
      (b.put k x).refused = b.refused := by
  unfold put
  split
  · rename_i h
    rw [hk] at h
    cases h
  · rename_i l' h
    rw [hk] at h
    cases h
    rw [dif_pos hroom]
    exact ⟨rfl, rfl⟩

theorem held_put {b : Bank n capacity α} {k : Fin n} {l : List α} (x : α) (hk : b.queue k = some l)
    (hroom : b.held < capacity) : (b.put k x).held = b.held + 1 := by
  have h := b.held_update k (some (l ++ [x]))
  rw [← (put_queue x hk hroom).1, hk] at h
  simp only [Option.getD_some, List.length_append, List.length_singleton] at h
  unfold held at h ⊢
  omega

theorem put_other (b : Bank n capacity α) {k m : Fin n} (x : α) (hm : m ≠ k) :
    (b.put k x).queue m = b.queue m := by
  unfold put
  split
  · rfl
  · split
    · exact Function.update_of_ne hm ..
    · rfl

theorem put_isSome (b : Bank n capacity α) (k m : Fin n) (x : α) (hm : (b.queue m).isSome = true) :
    ((b.put k x).queue m).isSome = true := by
  by_cases hmk : m = k
  · subst hmk
    unfold put
    split
    · exact hm
    · split
      · simp only [Function.update_self, Option.isSome_some]
      · exact hm
  · rw [b.put_other x hmk]
    exact hm

/-- Putting into other queues leaves a queue alone. -/
theorem putAll_other (b : Bank n capacity α) (x : α) {l : List (Fin n)} {k : Fin n} (hk : k ∉ l) :
    (b.putAll (l.map fun m => (m, x))).queue k = b.queue k := by
  induction l generalizing b with
  | nil => rfl
  | cons m l ih =>
    obtain ⟨hkm, hkl⟩ := not_or.mp fun h => hk (List.mem_cons.mpr h)
    exact (ih (b.put m x) hkl).trans (b.put_other x hkm)

/-- One item for several open queues reaches as many of them, from the first on, as
there are places left. -/
theorem putAll_queue (b : Bank n capacity α) (x : α) {l : List (Fin n)} (hnodup : l.Nodup)
    (hopen : ∀ m ∈ l, (b.queue m).isSome = true) (k : Fin n) :
    (b.putAll (l.map fun m => (m, x))).queue k =
      if k ∈ l.take (capacity - b.held) then (b.queue k).map (· ++ [x]) else b.queue k := by
  induction l generalizing b with
  | nil => simp [putAll]
  | cons m l ih =>
    obtain ⟨hm, hrest⟩ := List.nodup_cons.mp hnodup
    obtain ⟨q, hq⟩ := Option.isSome_iff_exists.mp (hopen m (List.mem_cons_self ..))
    have hstep := ih (b.put m x) hrest fun j hj => b.put_isSome m j x (hopen j (List.mem_cons_of_mem m hj))
    show ((b.put m x).putAll (l.map fun m => (m, x))).queue k = _
    by_cases hroom : b.held < capacity
    · obtain ⟨left, hleft⟩ : ∃ left, capacity - b.held = left + 1 := ⟨capacity - b.held - 1, by omega⟩
      rw [hstep, held_put x hq hroom, hleft, List.take_succ_cons, show capacity - (b.held + 1) = left by omega]
      by_cases hk : k = m
      · subst hk
        have hnot : k ∉ l.take left := fun h => hm (List.mem_of_mem_take h)
        rw [if_neg hnot, if_pos (List.mem_cons_self ..), (put_queue x hq hroom).1, Function.update_self, hq]
        rfl
      · simp only [List.mem_cons, hk, false_or, b.put_other x hk]
    · have hfull : capacity - b.held = 0 := by omega
      rw [put_refused (by rw [hq]; exact Option.some_ne_none q) hroom] at hstep ⊢
      rw [hstep, hfull]
      show (if k ∈ l.take (capacity - b.held) then _ else _) = _
      rw [hfull]
      simp only [List.take_zero, List.not_mem_nil, if_false]

/-- One item for several open queues reaches each for which the ones in front of it
leave a place. -/
theorem putAll_spread (b : Bank n capacity α) (x : α) {pre post : List (Fin n)} {k : Fin n} {q : List α}
    (hnodup : (pre ++ k :: post).Nodup) (hopen : ∀ m ∈ pre, (b.queue m).isSome = true)
    (hq : b.queue k = some q) (hroom : b.held + pre.length < capacity) :
    (b.putAll ((pre ++ k :: post).map fun m => (m, x))).queue k = some (q ++ [x]) := by
  induction pre generalizing b with
  | nil =>
    have hk : k ∉ post := (List.nodup_cons.mp hnodup).1
    have h := putAll_other (b.put k x) x hk
    rw [(put_queue x hq (by simpa using hroom)).1, Function.update_self] at h
    exact h
  | cons m pre ih =>
    obtain ⟨hm, hrest⟩ := List.nodup_cons.mp hnodup
    obtain ⟨l, hl⟩ := Option.isSome_iff_exists.mp (hopen m (List.mem_cons_self ..))
    have hkm : k ≠ m := by
      rintro rfl
      exact hm (by simp)
    rw [List.length_cons] at hroom
    refine ih (b.put m x) hrest (fun j hj => ?_) ?_ ?_
    · exact b.put_isSome m j x (hopen j (List.mem_cons_of_mem m hj))
    · rw [b.put_other x hkm]
      exact hq
    · rw [held_put x hl (by omega)]
      omega

/-! ### What the queues hold -/

/-- Every item held has a property. -/
def Among (Q : α → Prop) (b : Bank n capacity α) : Prop := ∀ k, ∀ x ∈ (b.queue k).getD [], Q x

theorem Among.shrink {Q : α → Prop} {b : Bank n capacity α} (h : b.Among Q) (k : Fin n) (l : Option (List α))
    (hle : (l.getD []).length ≤ ((b.queue k).getD []).length) (hl : ∀ x ∈ l.getD [], Q x) :
    (b.shrink k l hle).Among Q := by
  intro m x hx
  by_cases hm : m = k
  · simp only [hm, Bank.shrink, Function.update_self] at hx
    exact hl x hx
  · simp only [Bank.shrink, Function.update_of_ne hm] at hx
    exact h m x hx

theorem Among.put {Q : α → Prop} {b : Bank n capacity α} (h : b.Among Q) (k : Fin n) {x : α} (hx : Q x) :
    (b.put k x).Among Q := by
  unfold Bank.put
  split
  · exact h
  · rename_i l hk
    split
    · intro m y hy
      by_cases hm : m = k
      · simp only [hm, Function.update_self, Option.getD_some, List.mem_append, List.mem_singleton] at hy
        rcases hy with hy | rfl
        · exact h k y (by rw [hk]; exact hy)
        · exact hx
      · simp only [Function.update_of_ne hm] at hy
        exact h m y hy
    · exact h

theorem Among.putAll {Q : α → Prop} {b : Bank n capacity α} (h : b.Among Q) {items : List (Fin n × α)}
    (hitems : ∀ item ∈ items, Q item.2) : (b.putAll items).Among Q := by
  induction items generalizing b with
  | nil => exact h
  | cons item items ih =>
    exact ih (h.put item.1 (hitems item List.mem_cons_self)) fun i hi => hitems i (List.mem_cons_of_mem item hi)

theorem Among.drop {Q : α → Prop} {b : Bank n capacity α} (h : b.Among Q) (k : Fin n) : (b.drop k).Among Q := by
  refine h.shrink k _ _ fun x hx => h k x ?_
  cases hq : b.queue k with
  | none =>
    rw [hq] at hx
    cases hx
  | some l =>
    rw [hq] at hx
    exact List.mem_of_mem_tail hx

end Bank

end SysZerotier.Library
