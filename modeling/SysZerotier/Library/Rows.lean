import Mathlib.Data.List.Basic
import Mathlib.Data.List.Infix

/-! Rows of a text, written into a buffer and read back through another.

What is written is a page of rows, cut off where the first buffer ends. What is read are
pieces: a piece ends with a row or where the second buffer is full, so a long row comes
in several. A row that the first buffer holds is read whole when it fits the second with
what ends it, and so do those before it, and what is looked for is then found in it
(`findSome_page`) whatever became of the end of the page. -/
namespace SysZerotier.Library
variable {α β : Type*} [DecidableEq α] (sep : α)

/-- The pieces of a text; the one that is being read has `room` left, the others `size`. -/
def pieces (size : Nat) : Nat → List α → List (List α)
  | _, [] => []
  | room, c :: t =>
    if c = sep ∨ room ≤ 1 then [c] :: pieces size size t
    else
      match pieces size (room - 1) t with
      | [] => [[c]]
      | l :: ls => (c :: l) :: ls

/-- The rows, each with what ends it. -/
def page (rows : List (List α)) : List α := rows.flatMap fun row => row ++ [sep]

omit [DecidableEq α] in
theorem page_append (rows rows' : List (List α)) : page sep (rows ++ rows') = page sep rows ++ page sep rows' := by
  rw [page, List.flatMap_append]
  rfl

/-- A row that fits is read in one piece. -/
theorem pieces_row (size : Nat) {row : List α} (hrow : sep ∉ row) {room : Nat} (hroom : row.length < room)
    (t : List α) : pieces sep size room (row ++ sep :: t) = (row ++ [sep]) :: pieces sep size size t := by
  induction row generalizing room with
  | nil => rw [List.nil_append, pieces, if_pos (.inl rfl), List.nil_append]
  | cons c row ih =>
    rw [List.length_cons] at hroom
    have hc : c ≠ sep := fun h => hrow (h ▸ List.mem_cons_self)
    have hrest : sep ∉ row := fun h => hrow (List.mem_cons_of_mem _ h)
    have hnot : ¬(c = sep ∨ room ≤ 1) := fun h => h.elim hc (by omega)
    rw [List.cons_append, pieces, if_neg hnot, ih hrest (by omega)]
    rfl

theorem pieces_page {size : Nat} {rows : List (List α)} (hrows : ∀ row ∈ rows, sep ∉ row ∧ row.length < size)
    (t : List α) : pieces sep size size (page sep rows ++ t) = rows.map (· ++ [sep]) ++ pieces sep size size t := by
  induction rows with
  | nil => rfl
  | cons row rows ih =>
    obtain ⟨hrow, hlen⟩ := hrows row List.mem_cons_self
    have hrest := ih fun row h => hrows row (List.mem_cons_of_mem _ h)
    calc pieces sep size size (page sep (row :: rows) ++ t)
        = pieces sep size size (row ++ sep :: (page sep rows ++ t)) := by simp [page]
      _ = (row ++ [sep]) :: (rows.map (· ++ [sep]) ++ pieces sep size size t) := by
        rw [pieces_row sep size hrow hlen, hrest]

/-- **What the first buffer holds is found.** -/
theorem findSome_page {size n : Nat} {before after : List (List α)} {row : List α} {f : List α → Option β} {b : β}
    (hrows : ∀ r ∈ before ++ [row], sep ∉ r ∧ r.length < size) (hfit : (page sep (before ++ [row])).length ≤ n)
    (hbefore : ∀ r ∈ before, f (r ++ [sep]) = none) (hrow : f (row ++ [sep]) = some b) :
    (pieces sep size size ((page sep (before ++ row :: after)).take n)).findSome? f = some b := by
  have hsplit : before ++ row :: after = before ++ [row] ++ after := by simp
  rw [hsplit, page_append, List.take_append, List.take_of_length_le hfit, pieces_page sep hrows,
    List.findSome?_append]
  have hfirst : ((before ++ [row]).map (· ++ [sep])).findSome? f = some b := by
    rw [List.map_append, List.findSome?_append, List.findSome?_eq_none_iff.mpr]
    · simp [hrow]
    · intro l hl
      obtain ⟨r, hr, rfl⟩ := List.mem_map.mp hl
      exact hbefore r hr
  rw [hfirst]
  rfl

end SysZerotier.Library
