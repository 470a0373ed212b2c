import Mathlib

/-! The most recent values of a history of keyed entries.

`latest` reads a history, newest entry first, and keeps of every key the newest
entry. A store that keeps at most `n` entries and on every new one drops that key's
old entry, or the oldest if it is full, holds at any time the first `n` of them
(`foldl_touch`). -/
namespace SysZerotier.Library.Recency
variable {κ β : Type} [DecidableEq κ]

/-- The newest entry for each key of a history, itself newest first. -/
def latest : List (κ × β) → List (κ × β)
  | [] => []
  | e :: older => e :: (latest older).filter fun o => o.1 ≠ e.1

/-- A new entry for a store of at most `n`. -/
def touch (n : Nat) (l : List (κ × β)) (e : κ × β) : List (κ × β) :=
  (e :: l.filter fun o => o.1 ≠ e.1).take n

theorem latest_nodup (h : List (κ × β)) : ((latest h).map Prod.fst).Nodup := by
  induction h with
  | nil => exact List.nodup_nil
  | cons e older ih =>
    rw [latest, List.map_cons, List.nodup_cons]
    refine ⟨fun hmem => ?_, ih.sublist (List.filter_sublist.map _)⟩
    obtain ⟨o, ho, heq⟩ := List.mem_map.mp hmem
    have := (List.mem_filter.mp ho).2
    simp only [decide_eq_true_eq] at this
    exact this heq

theorem lookup_eq_some {l : List (κ × β)} (h : (l.map Prod.fst).Nodup) {k : κ} {v : β} :
    l.lookup k = some v ↔ (k, v) ∈ l := by
  induction l with
  | nil => simp
  | cons o l ih =>
    obtain ⟨hnot, hrest⟩ := List.nodup_cons.mp h
    rw [List.lookup_cons, List.mem_cons]
    cases hk : k == o.1 with
    | true =>
      obtain rfl := eq_of_beq hk
      constructor
      · intro hv
        exact .inl (by rw [← Option.some.inj hv])
      · rintro (heq | hmem)
        · rw [← heq]
        · exact absurd (List.mem_map.mpr ⟨_, hmem, rfl⟩) hnot
    | false =>
      dsimp only
      rw [ih hrest]
      refine ⟨.inr, fun hmem => hmem.resolve_left ?_⟩
      rintro rfl
      simp at hk

/-- The order of entries with different keys does not matter to a lookup. -/
theorem lookup_perm {l l' : List (κ × β)} (hp : l.Perm l') (h : (l'.map Prod.fst).Nodup) (k : κ) :
    l.lookup k = l'.lookup k := by
  have hl : (l.map Prod.fst).Nodup := (hp.map _).nodup_iff.mpr h
  refine Option.ext fun v => ?_
  rw [lookup_eq_some hl, lookup_eq_some h, hp.mem_iff]

/-- Dropping one key from a list without repeated keys drops at most one entry. -/
theorem length_filter_ne (l : List (κ × β)) (h : (l.map Prod.fst).Nodup) (k : κ) :
    l.length ≤ (l.filter fun o => o.1 ≠ k).length + 1 := by
  induction l with
  | nil => simp
  | cons o l ih =>
    obtain ⟨hnot, hrest⟩ := List.nodup_cons.mp h
    rw [List.filter_cons]
    by_cases ho : o.1 = k
    · have hall : l.filter (fun o => o.1 ≠ k) = l := by
        refine List.filter_eq_self.mpr fun p hp => ?_
        simp only [decide_eq_true_eq]
        rintro rfl
        exact hnot (List.mem_map.mpr ⟨p, hp, ho.symm⟩)
      rw [if_neg (by simp [ho]), hall, List.length_cons]
    · have := ih hrest
      rw [if_pos (by simp [ho]), List.length_cons, List.length_cons]
      omega

/-- A store that has kept the first `n` of a list keeps the first `n`. -/
theorem touch_take (n : Nat) (l : List (κ × β)) (h : (l.map Prod.fst).Nodup) (e : κ × β) :
    touch n (l.take n) e = (e :: l.filter fun o => o.1 ≠ e.1).take n := by
  cases n with
  | zero => rfl
  | succ n =>
    rw [touch, List.take_succ_cons, List.take_succ_cons]
    congr 1
    by_cases hl : l.length ≤ n + 1
    · rw [List.take_of_length_le hl]
    · obtain ⟨rest, hrest⟩ := (List.take_prefix (n + 1) l).filter fun o => decide (o.1 ≠ e.1)
      have hlong := length_filter_ne (l.take (n + 1)) (h.sublist ((List.take_sublist _ _).map _)) e.1
      rw [List.length_take] at hlong
      rw [← hrest, List.take_append_of_le_length (by omega)]

/-- **A bounded store holds the most recent keys**, each with its newest value. -/
theorem foldl_touch (n : Nat) (h : List (κ × β)) :
    h.foldl (touch n) [] = (latest h.reverse).take n := by
  induction h using List.reverseRecOn with
  | nil => simp [latest]
  | append_singleton h e ih =>
    rw [List.foldl_append, ih, List.foldl_cons, List.foldl_nil, touch_take n _ (latest_nodup _),
      List.reverse_append]
    rfl

end SysZerotier.Library.Recency
