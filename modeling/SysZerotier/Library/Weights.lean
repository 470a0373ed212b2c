import Mathlib

/-! What the entries of a finite map weigh together.

Each value has a weight. Inserting an entry replaces the weight of the one of its key by
its own (`total_insert`), and erasing one takes its weight away (`total_erase`), so a
counter that is kept by additions and subtractions equals the total. -/
namespace SysZerotier.Library.Weights
variable {κ β : Type*} (weight : β → Nat)

def total (m : AList fun _ : κ => β) : Nat := (m.entries.map fun e => weight e.2).sum

variable [DecidableEq κ]

/-- Erasing an entry takes its weight away. -/
theorem total_erase {m : AList fun _ : κ => β} {k : κ} {b : β} (h : m.lookup k = some b) :
    total weight (m.erase k) + weight b = total weight m := by
  have hmem : k ∈ m.entries.keys := AList.mem_keys.mp (AList.lookup_isSome.mp (by rw [h]; rfl))
  obtain ⟨b', l₁, l₂, hk, hentries, herase⟩ := List.exists_of_kerase hmem
  have hb : b' = b := by
    have hlookup : List.dlookup k m.entries = some b := h
    have hfound : (⟨k, b'⟩ : Sigma fun _ : κ => β) ∈ m.entries := by
      rw [hentries]
      exact List.mem_append_right _ List.mem_cons_self
    rw [(List.mem_dlookup_iff m.nodupKeys).mpr hfound] at hlookup
    exact Option.some.inj hlookup
  have hsum : (m.erase k).entries = l₁ ++ l₂ := herase
  rw [total, total, hsum, hentries, ← hb]
  simp only [List.map_append, List.map_cons, List.sum_append, List.sum_cons]
  omega

theorem total_erase_of_notMem {m : AList fun _ : κ => β} {k : κ} (h : k ∉ m) :
    total weight (m.erase k) = total weight m := by
  rw [total, total]
  congr 2
  exact List.kerase_of_notMem_keys h

/-- Inserting an entry replaces the weight of the one of its key by its own. -/
theorem total_insert (m : AList fun _ : κ => β) (k : κ) (b : β) :
    total weight (m.insert k b) = total weight (m.erase k) + weight b := by
  rw [total, total, AList.entries_insert, List.map_cons, List.sum_cons, Nat.add_comm]
  rfl

theorem total_insert_of_notMem {m : AList fun _ : κ => β} {k : κ} (h : k ∉ m) (b : β) :
    total weight (m.insert k b) = total weight m + weight b := by
  rw [total_insert, total_erase_of_notMem weight h]

/-! ### What is found after a change -/

theorem lookup_insert_some {m : AList fun _ : κ => β} {k k' : κ} {b b' : β}
    (h : (m.insert k b).lookup k' = some b') :
    k' = k ∧ b' = b ∨ k' ≠ k ∧ m.lookup k' = some b' := by
  by_cases hk : k' = k
  · subst hk
    rw [AList.lookup_insert] at h
    exact .inl ⟨rfl, (Option.some.inj h).symm⟩
  · rw [AList.lookup_insert_ne hk] at h
    exact .inr ⟨hk, h⟩

theorem lookup_erase_some {m : AList fun _ : κ => β} {k k' : κ} {b : β} (h : (m.erase k).lookup k' = some b) :
    k' ≠ k ∧ m.lookup k' = some b := by
  by_cases hk : k' = k
  · rw [hk, AList.lookup_erase] at h
    cases h
  · rw [AList.lookup_erase_ne hk] at h
    exact ⟨hk, h⟩

end SysZerotier.Library.Weights
