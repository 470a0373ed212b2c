import Mathlib.Data.List.Basic
import Mathlib.Data.List.Infix

/-! The lines of a text, and of its beginnings.

A line ends before a separator or with the text; there is no line after a final
separator. What is read of a text that is cut short consists of complete lines and of
the beginning of one more (`lines_truncates`), so a property of scanning that a last,
truncated line cannot break carries over from each beginning to the text, and every line
can be the one that is truncated (`lines_cut`). Putting an
element in front of every separator puts it at the end of the lines that have one
(`endedLines_precede`), and what follows a separator is lines of its own
(`lines_append`). -/
namespace SysZerotier.Library
variable {α : Type*}

def lines [DecidableEq α] (sep : α) : List α → List (List α)
  | [] => []
  | c :: cs =>
    if c = sep then [] :: lines sep cs
    else
      match lines sep cs with
      | [] => [[c]]
      | l :: ls => (c :: l) :: ls

/-- The lines of a text cut short, and its lines. -/
inductive Truncates : List (List α) → List (List α) → Prop where
  | nil (ls : List (List α)) : Truncates [] ls
  | last {l' l : List α} (ls : List (List α)) : l' <+: l → Truncates [l'] (l :: ls)
  | cons (l : List α) {ls' ls : List (List α)} : Truncates ls' ls → Truncates (l :: ls') (l :: ls)

theorem lines_truncates [DecidableEq α] (sep : α) {p t : List α} (h : p <+: t) :
    Truncates (lines sep p) (lines sep t) := by
  induction p generalizing t with
  | nil => exact .nil _
  | cons c p ih =>
    obtain ⟨rest, rfl⟩ := h
    have hrest := ih (List.prefix_append p rest)
    rw [List.cons_append, lines, lines]
    split
    · exact .cons [] hrest
    · -- the character goes to the front of the first line
      generalize lines sep p = ls' at hrest ⊢
      generalize lines sep (p ++ rest) = ls at hrest ⊢
      cases hrest with
      | nil ls =>
        cases ls with
        | nil => exact .last _ (List.prefix_refl _)
        | cons l ls => exact .last _ (List.prefix_append [c] l)
      | last ls hl => exact .last _ (List.cons_prefix_cons.mpr ⟨rfl, hl⟩)
      | cons l hls => exact .cons _ hls

theorem Truncates.append (ls rest : List (List α)) : Truncates ls (ls ++ rest) := by
  induction ls with
  | nil => exact .nil rest
  | cons l ls ih => exact .cons l ih

/-- The text is cut in the line after `before`. -/
theorem Truncates.append_last {l line : List α} (before after : List (List α)) (h : l <+: line) :
    Truncates (before ++ [l]) (before ++ line :: after) := by
  induction before with
  | nil => exact .last after h
  | cons l ls ih => exact .cons l ih

theorem Truncates.eq_append_last {ls' ls : List (List α)} (h : Truncates ls' ls) :
    ls' = [] ∨ ∃ before l line after, ls' = before ++ [l] ∧ l <+: line ∧ ls = before ++ line :: after := by
  induction h with
  | nil ls => exact .inl rfl
  | @last l' l ls hl => exact .inr ⟨[], l', l, ls, rfl, hl, rfl⟩
  | @cons l ls' ls h ih =>
    refine .inr ?_
    obtain rfl | ⟨before, l', line, after, rfl, hl, rfl⟩ := ih
    · exact ⟨[], l, l, ls, rfl, List.prefix_refl l, rfl⟩
    · exact ⟨l :: before, l', line, after, rfl, hl, rfl⟩

/-- A text can be cut before each of its lines, and in it. -/
theorem lines_cut [DecidableEq α] (sep : α) {t l line : List α} {before after : List (List α)}
    (h : lines sep t = before ++ line :: after) (hl : l <+: line) :
    ∃ p, p <+: t ∧ lines sep p = before ++ (if l = [] then [] else [l]) := by
  induction t generalizing before line l with
  | nil => exact absurd h.symm (List.append_ne_nil_of_right_ne_nil _ (List.cons_ne_nil _ _))
  | cons c t ih =>
    rw [lines] at h
    by_cases hc : c = sep
    · rw [if_pos hc] at h
      cases before with
      | nil =>
        obtain ⟨rfl, -⟩ := List.cons_eq_cons.mp h
        exact ⟨[], List.nil_prefix, by rw [List.prefix_nil.mp hl]; rfl⟩
      | cons b before =>
        obtain ⟨rfl, hrest⟩ := List.cons_eq_cons.mp h
        obtain ⟨p, hp, hlines⟩ := ih hrest hl
        exact ⟨c :: p, List.cons_prefix_cons.mpr ⟨rfl, hp⟩, by rw [lines, if_pos hc, hlines]; rfl⟩
    · rw [if_neg hc] at h
      cases before with
      | nil =>
        -- the character begins the line that is cut
        cases l with
        | nil => exact ⟨[], List.nil_prefix, rfl⟩
        | cons c' l =>
          cases hrest : lines sep t with
          | nil =>
            rw [hrest] at h
            cases h
            obtain ⟨rfl, hnil⟩ := List.cons_prefix_cons.mp hl
            rw [List.prefix_nil.mp hnil]
            exact ⟨[c'], List.cons_prefix_cons.mpr ⟨rfl, List.nil_prefix⟩, by simp [lines, hc]⟩
          | cons m ms =>
            rw [hrest] at h
            cases h
            obtain ⟨rfl, hm⟩ := List.cons_prefix_cons.mp hl
            obtain ⟨p, hp, hlines⟩ := @ih l m [] hrest hm
            refine ⟨c' :: p, List.cons_prefix_cons.mpr ⟨rfl, hp⟩, ?_⟩
            rw [lines, if_neg hc, hlines]
            cases l <;> rfl
      | cons b before =>
        cases hrest : lines sep t with
        | nil =>
          rw [hrest] at h
          exact absurd (List.cons_eq_cons.mp h).2.symm (List.append_ne_nil_of_right_ne_nil _ (List.cons_ne_nil _ _))
        | cons m ms =>
          rw [hrest] at h
          obtain ⟨rfl, hms⟩ := List.cons_eq_cons.mp h
          obtain ⟨p, hp, hlines⟩ := @ih l line (m :: before) (hrest.trans (congrArg _ hms)) hl
          exact ⟨c :: p, List.cons_prefix_cons.mpr ⟨rfl, hp⟩, by rw [lines, if_neg hc, hlines]; rfl⟩

/-- Skipping what stands in front keeps one text the beginning of the other. -/
theorem dropWhile_mono (f : α → Bool) {p t : List α} (h : p <+: t) : p.dropWhile f <+: t.dropWhile f := by
  induction p generalizing t with
  | nil => exact List.nil_prefix
  | cons c p ih =>
    obtain ⟨rest, rfl⟩ := h
    rw [List.cons_append, List.dropWhile_cons, List.dropWhile_cons]
    split
    · exact ih (List.prefix_append p rest)
    · exact List.prefix_append (c :: p) rest

theorem takeWhile_mono (f : α → Bool) {p t : List α} (h : p <+: t) : p.takeWhile f <+: t.takeWhile f := by
  induction p generalizing t with
  | nil => exact List.nil_prefix
  | cons c p ih =>
    obtain ⟨rest, rfl⟩ := h
    rw [List.cons_append, List.takeWhile_cons, List.takeWhile_cons]
    split
    · exact List.cons_prefix_cons.mpr ⟨rfl, ih (List.prefix_append p rest)⟩
    · exact List.nil_prefix

section Separated
variable [DecidableEq α] (sep : α)

/-- The lines, each with whether a separator ends it. -/
def endedLines : List α → List (List α × Bool)
  | [] => []
  | c :: cs =>
    if c = sep then ([], true) :: endedLines cs
    else
      match endedLines cs with
      | [] => [([c], false)]
      | (l, ended) :: ls => (c :: l, ended) :: ls

theorem endedLines_fst (t : List α) : (endedLines sep t).map Prod.fst = lines sep t := by
  induction t with
  | nil => rfl
  | cons c t ih =>
    rw [endedLines, lines]
    split
    · rw [List.map_cons, ih]
    · rw [← ih]
      cases endedLines sep t with
      | nil => rfl
      | cons l ls => rfl

/-- `c` in front of every separator. -/
def precede (c : α) (t : List α) : List α := t.flatMap fun x => if x = sep then [c, sep] else [x]

theorem precede_cons (c x : α) (t : List α) :
    precede sep c (x :: t) = (if x = sep then [c, sep] else [x]) ++ precede sep c t := rfl

theorem endedLines_precede {c : α} (hc : c ≠ sep) (t : List α) :
    endedLines sep (precede sep c t) =
      (endedLines sep t).map fun l => (if l.2 then l.1 ++ [c] else l.1, l.2) := by
  induction t with
  | nil => rfl
  | cons x t ih =>
    rw [precede_cons]
    by_cases hx : x = sep
    · rw [if_pos hx, List.cons_append, List.singleton_append, endedLines, if_neg hc, endedLines, if_pos rfl,
        endedLines, if_pos hx, ih]
      rfl
    · rw [if_neg hx, List.singleton_append, endedLines, if_neg hx, endedLines, if_neg hx, ih]
      cases endedLines sep t with
      | nil => rfl
      | cons l ls =>
        obtain ⟨l, ended⟩ := l
        cases ended <;> rfl

theorem lines_ne_nil {t : List α} (ht : t ≠ []) : lines sep t ≠ [] := by
  cases t with
  | nil => exact absurd rfl ht
  | cons c t =>
    rw [lines]
    split
    · exact List.cons_ne_nil _ _
    · split <;> exact List.cons_ne_nil _ _

/-- What follows a separator is lines of its own. -/
theorem lines_append {a : List α} (ha : a = [] ∨ a.getLast? = some sep) (b : List α) :
    lines sep (a ++ b) = lines sep a ++ lines sep b := by
  induction a with
  | nil => rfl
  | cons c a ih =>
    have hlast : (c :: a).getLast? = some sep := ha.resolve_left (List.cons_ne_nil c a)
    by_cases hnil : a = []
    · subst hnil
      have hc : c = sep := Option.some.inj hlast
      rw [List.singleton_append, lines, if_pos hc, lines, if_pos hc]
      rfl
    · have hrest : a.getLast? = some sep := by
        rwa [List.getLast?_cons_of_ne_nil hnil] at hlast
      rw [List.cons_append, lines, lines, ih (.inr hrest)]
      split
      · rfl
      · cases h : lines sep a with
        | nil => exact absurd h (lines_ne_nil sep hnil)
        | cons l ls => rfl

/-- A separator at the end of the last line begins no line. -/
theorem lines_concat {a : List α} (ha : a ≠ []) (hlast : a.getLast? ≠ some sep) :
    lines sep (a ++ [sep]) = lines sep a := by
  induction a with
  | nil => exact absurd rfl ha
  | cons c a ih =>
    by_cases hnil : a = []
    · subst hnil
      have hc : c ≠ sep := fun h => hlast (congrArg some h)
      simp [lines, hc]
    · rw [List.getLast?_cons_of_ne_nil hnil] at hlast
      rw [List.cons_append, lines, lines, ih hnil hlast]

end Separated

end SysZerotier.Library
