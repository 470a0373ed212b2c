import SysZerotier.Library.LowWater
import SysZerotier.Net.Bytes

/-! The two watches over memory (`Port::watchSystemMemory` and `TraceArenaWatermark` in
`source/zt_port.cpp`).

Both run in every pass of the loop and write a line where free memory has a new low, 256 KB
below the one written last. A session of whatever length writes few lines, and no low goes
unnoticed (`sysmem_lines`, `arena_lines`). -/
namespace SysZerotier.Port
open Net Library

/-! ### The memory of the system -/

/-- What a pass finds: the time, the handle of the resource limit (zero where neither
`GetInfo` gives one), the limit and what is used of it, unless a call fails. -/
structure Supply where
  now : Int
  handle : U32
  limit : Option Int
  current : Option Int

/-- The static variables of `watchSystemMemory`. -/
structure SystemWatch where
  rl : U32
  tried : Bool
  limit : Int
  reported : Int
  nextMs : Int

namespace SystemWatch

def start : SystemWatch := ⟨0, false, 0, 2 ^ 63 - 1, 0⟩

/-- What is left of the limit, in KB. -/
def freeKb (s : SystemWatch) (current : Int) : Int := (s.limit - current).tdiv 1024

/-- The first pass that is due asks for the handle and the limit, once. -/
def ask (s : SystemWatch) (x : Supply) : SystemWatch :=
  if s.tried then s
  else if x.handle = 0 then { s with tried := true }
  else { s with tried := true, rl := x.handle, limit := x.limit.getD 0 }

/-- The sample of a pass that takes one. -/
def sample (s : SystemWatch) (x : Supply) : Option Int :=
  if x.now < s.nextMs then none
  else if (s.ask x).rl = 0 ∨ (s.ask x).limit = 0 then none
  else x.current.map (s.ask x).freeKb

/-- The state a pass leaves, and the low it reports. -/
def watchSystemMemory (s : SystemWatch) (x : Supply) : SystemWatch × Option Int :=
  if x.now < s.nextMs then (s, none)
  else
    let s := { s.ask x with nextMs := x.now + 5000 }
    if s.rl = 0 ∨ s.limit = 0 then (s, none)
    else
      match x.current with
      | none => (s, none)
      | some current =>
        if s.reported < s.freeKb current + 256 then (s, none)
        else ({ s with reported := s.freeKb current }, some (s.freeKb current))

def run (s : SystemWatch) (xs : List Supply) : SystemWatch := xs.foldl (fun s x => (s.watchSystemMemory x).1) s

/-- The lows that are reported. -/
def reports (s : SystemWatch) : List Supply → List Int
  | [] => []
  | x :: xs => (s.watchSystemMemory x).2.toList ++ reports (s.watchSystemMemory x).1 xs

/-- The samples that are taken, with their times. -/
def samples (s : SystemWatch) : List Supply → List (Int × Int)
  | [] => []
  | x :: xs => ((s.sample x).map (x.now, ·)).toList ++ samples (s.watchSystemMemory x).1 xs

/-! ### One pass -/

theorem ask_tried (s : SystemWatch) (x : Supply) : (s.ask x).tried = true := by
  rw [ask]
  split
  · assumption
  · split <;> rfl

theorem ask_reported (s : SystemWatch) (x : Supply) : (s.ask x).reported = s.reported := by
  rw [ask]
  split
  · rfl
  · split <;> rfl

/-- The state that a pass that is due works on. -/
def due (s : SystemWatch) (x : Supply) : SystemWatch := { s.ask x with nextMs := x.now + 5000 }

theorem due_reported (s : SystemWatch) (x : Supply) : (s.due x).reported = s.reported := s.ask_reported x

theorem watch_idle {s : SystemWatch} {x : Supply} (h : s.sample x = none) :
    (s.watchSystemMemory x).2 = none ∧
      ((s.watchSystemMemory x).1 = s ∨ s.nextMs ≤ x.now ∧ (s.watchSystemMemory x).1 = s.due x) := by
  rw [sample] at h
  rw [watchSystemMemory]
  split at h
  · rename_i hearly
    rw [if_pos hearly]
    exact ⟨rfl, .inl rfl⟩
  · rename_i hdue
    rw [if_neg hdue]
    split at h
    · rename_i hnone
      exact ⟨congrArg Prod.snd (if_pos hnone), .inr ⟨not_lt.mp hdue, congrArg Prod.fst (if_pos hnone)⟩⟩
    · rename_i hsome
      have hfailed : x.current = none := Option.map_eq_none_iff.mp h
      dsimp only
      rw [if_neg hsome, hfailed]
      exact ⟨rfl, .inr ⟨not_lt.mp hdue, rfl⟩⟩

theorem watch_sampled {s : SystemWatch} {x : Supply} {k : Int} (h : s.sample x = some k) :
    s.nextMs ≤ x.now ∧ (∃ current, x.current = some current ∧ k = (s.due x).freeKb current) ∧
      s.watchSystemMemory x =
        if s.reported < k + 256 then (s.due x, none) else ({ s.due x with reported := k }, some k) := by
  rw [sample] at h
  rw [watchSystemMemory]
  split at h
  · cases h
  · rename_i hdue
    rw [if_neg hdue]
    split at h
    · cases h
    · rename_i hsome
      obtain ⟨current, hcurrent, rfl⟩ := Option.map_eq_some_iff.mp h
      refine ⟨not_lt.mp hdue, ⟨current, hcurrent, rfl⟩, ?_⟩
      dsimp only
      rw [if_neg hsome, hcurrent, ← s.due_reported x]
      rfl

/-! ### Every session -/

/-- The lines are the new lows of the samples. -/
theorem reports_lows (s : SystemWatch) (xs : List Supply) :
    s.reports xs = lows 256 s.reported ((s.samples xs).map Prod.snd) := by
  induction xs generalizing s with
  | nil => rfl
  | cons x xs ih =>
    rw [reports, samples, ih, List.map_append]
    cases h : s.sample x with
    | none =>
      obtain ⟨hquiet, hnext⟩ := watch_idle h
      have hkept : (s.watchSystemMemory x).1.reported = s.reported := by
        rcases hnext with heq | ⟨-, heq⟩
        · rw [heq]
        · rw [heq, due_reported]
      rw [hquiet, hkept]
      rfl
    | some k =>
      obtain ⟨-, -, hwatch⟩ := watch_sampled h
      rw [hwatch]
      split
      · rename_i hhigh
        rw [s.due_reported]
        exact (if_pos hhigh).symm
      · rename_i hlow
        exact (if_neg hlow).symm

/-- A pass does not bring the next sample forward. -/
theorem watch_nextMs (s : SystemWatch) (x : Supply) : s.nextMs ≤ (s.watchSystemMemory x).1.nextMs := by
  cases h : s.sample x with
  | none =>
    rcases (watch_idle h).2 with heq | ⟨hnow, heq⟩
    · rw [heq]
    · rw [heq, due]
      dsimp only
      omega
  | some k =>
    obtain ⟨hnow, -, hwatch⟩ := watch_sampled h
    rw [hwatch]
    split <;>
    · rw [due]
      dsimp only
      omega

theorem samples_chain (s : SystemWatch) (xs : List Supply) :
    (∀ p ∈ s.samples xs, s.nextMs ≤ p.1) ∧ (s.samples xs).Pairwise fun a b => a.1 + 5000 ≤ b.1 := by
  induction xs generalizing s with
  | nil => exact ⟨by simp [samples], .nil⟩
  | cons x xs ih =>
    have hmono := s.watch_nextMs x
    obtain ⟨hlate, hpair⟩ := ih (s.watchSystemMemory x).1
    rw [samples]
    cases h : s.sample x with
    | none => exact ⟨fun p hp => hmono.trans (hlate p hp), hpair⟩
    | some k =>
      obtain ⟨hnow, -, hwatch⟩ := watch_sampled h
      have hnext : (s.watchSystemMemory x).1.nextMs = x.now + 5000 := by
        rw [hwatch]
        split <;> rfl
      rw [hnext] at hlate
      refine ⟨fun p hp => ?_, .cons hlate hpair⟩
      rcases List.mem_cons.mp hp with rfl | hp
      · exact hnow
      · have := hlate p hp
        omega

/-- The limit is read once. -/
theorem watch_limit {s : SystemWatch} (h : s.tried = true) (x : Supply) :
    (s.watchSystemMemory x).1.tried = true ∧ (s.watchSystemMemory x).1.limit = s.limit := by
  have hdue : s.due x = { s with nextMs := x.now + 5000 } := by rw [due, ask, if_pos h]
  cases hs : s.sample x with
  | none =>
    rcases (watch_idle hs).2 with heq | ⟨-, heq⟩
    · rw [heq]
      exact ⟨h, rfl⟩
    · rw [heq, hdue]
      exact ⟨h, rfl⟩
  | some k =>
    rw [(watch_sampled hs).2.2, hdue]
    split <;> exact ⟨h, rfl⟩

theorem run_limit {s : SystemWatch} (h : s.tried = true) (xs : List Supply) : (s.run xs).limit = s.limit := by
  induction xs generalizing s with
  | nil => rfl
  | cons x xs ih =>
    obtain ⟨htried, hlimit⟩ := watch_limit h x
    exact (ih htried).trans hlimit

/-- What is sampled is what is left of the limit. -/
theorem samples_free {s : SystemWatch} {xs : List Supply} {p : Int × Int} (hp : p ∈ s.samples xs) :
    ∃ x ∈ xs, ∃ current, x.current = some current ∧ p.2 = (s.run xs).freeKb current := by
  induction xs generalizing s with
  | nil => cases hp
  | cons x xs ih =>
    rw [samples] at hp
    rcases List.mem_append.mp hp with hp | hp
    · obtain ⟨k, hk, rfl⟩ := Option.map_eq_some_iff.mp (Option.mem_toList.mp hp)
      obtain ⟨-, ⟨current, hcurrent, rfl⟩, hwatch⟩ := watch_sampled hk
      refine ⟨x, List.mem_cons_self, current, hcurrent, ?_⟩
      have hnext : (s.watchSystemMemory x).1.tried = true ∧
          (s.watchSystemMemory x).1.limit = (s.due x).limit := by
        rw [hwatch]
        split <;> exact ⟨s.ask_tried x, rfl⟩
      show _ = (((s.watchSystemMemory x).1.run xs).limit - current).tdiv 1024
      rw [run_limit hnext.1, hnext.2]
      rfl
    · obtain ⟨y, hy, current, hcurrent, hfree⟩ := ih hp
      exact ⟨y, List.mem_cons_of_mem x hy, current, hcurrent, hfree⟩

/-- **The lines of a session are few and miss nothing.** Samples are five seconds apart, each
line is 256 KB below the one before, and no sample is as much as 256 KB below the last
line; while the system keeps to its limit, the limit bounds the number of lines. -/
theorem sysmem_lines (xs : List Supply) :
    let taken := start.samples xs
    let lines := start.reports xs
    (taken.Pairwise fun a b => a.1 + 5000 ≤ b.1) ∧
    (lines.IsChain fun a b => b + 256 ≤ a) ∧
    (∀ p ∈ taken, lines.getLastD start.reported < p.2 + 256) ∧
    ((∀ x ∈ xs, ∀ current, x.current = some current → 0 ≤ current ∧ current ≤ (start.run xs).limit) →
      lines.length ≤ ((start.run xs).limit / 1024 / 256).toNat + 1) := by
  intro taken lines
  have hlines : lines = lows 256 start.reported (taken.map Prod.snd) := reports_lows start xs
  refine ⟨(samples_chain start xs).2, ?_, fun p hp => ?_, fun hkeeps => ?_⟩
  · rw [hlines]
    exact (lows_chain _).of_cons
  · rw [hlines]
    exact lows_tracks (by decide) (List.mem_map_of_mem hp)
  · cases htaken : taken with
    | nil =>
      rw [hlines, htaken]
      exact Nat.zero_le _
    | cons p rest =>
      have hfree : ∀ q ∈ taken, 0 ≤ q.2 ∧ q.2 ≤ (start.run xs).limit / 1024 := by
        intro q hq
        obtain ⟨x, hx, current, hcurrent, heq⟩ := samples_free hq
        obtain ⟨hlow, hhigh⟩ := hkeeps x hx current hcurrent
        rw [heq, freeKb, Int.tdiv_eq_ediv_of_nonneg (by omega)]
        omega
      have hp := hfree p (htaken ▸ List.mem_cons_self)
      have hlength := lows_length start.reported (show (0 : Int) ≤ 256 by decide) (hp.1.trans hp.2)
        (List.forall_mem_map.mpr hfree)
      rw [← hlines] at hlength
      omega

end SystemWatch

/-! ### The arena -/

/-- `MallocBufferSize` -/
def MallocBufferSize : Nat := 1152 * 1024

/-- `s_low`, of the type of a size. -/
structure ArenaWatch where
  low : Nat

namespace ArenaWatch

def start : ArenaWatch := ⟨2 ^ 64 - 1⟩

/-- What `GetTotalFreeSize` and `GetAllocatableSize` give; there is no allocator at first. -/
abbrev Sizes := Option (Nat × Nat)

def TraceArenaWatermark (s : ArenaWatch) (sizes : Sizes) : ArenaWatch × Option (Nat × Nat) :=
  match sizes with
  | none => (s, none)
  | some (freeNow, largestNow) =>
    if s.low < (freeNow + 256 * 1024) % 2 ^ 64 then (s, none) else (⟨freeNow⟩, some (freeNow, largestNow))

/-- What is written, line by line. -/
def lines (s : ArenaWatch) : List Sizes → List (Nat × Nat)
  | [] => []
  | sizes :: rest => (s.TraceArenaWatermark sizes).2.toList ++ lines (s.TraceArenaWatermark sizes).1 rest

/-- The arena is as large as it is. -/
def Fits (sizes : Sizes) : Prop := ∀ now, sizes = some now → now.1 ≤ MallocBufferSize

/-- The free sizes seen. -/
def frees (all : List Sizes) : List Int := all.filterMap fun sizes => sizes.map fun now => (now.1 : Int)

theorem frees_some (now : Nat × Nat) (rest : List Sizes) : frees (some now :: rest) = (now.1 : Int) :: frees rest := rfl

theorem lines_lows (s : ArenaWatch) {all : List Sizes} (hfits : ∀ sizes ∈ all, Fits sizes) :
    (s.lines all).map (fun now => (now.1 : Int)) =
      lows (256 * 1024) s.low (frees all) := by
  induction all generalizing s with
  | nil => rfl
  | cons sizes rest ih =>
    obtain ⟨hsizes, hrest⟩ := List.forall_mem_cons.mp hfits
    rw [lines, List.map_append, ih _ hrest]
    cases sizes with
    | none => rfl
    | some now =>
      have hnow : now.1 ≤ MallocBufferSize := hsizes now rfl
      have hmalloc : MallocBufferSize = 1179648 := rfl
      have hsum : (now.1 + 256 * 1024) % 2 ^ 64 = now.1 + 256 * 1024 := Nat.mod_eq_of_lt (by omega)
      rw [frees_some, lows, TraceArenaWatermark, hsum]
      by_cases hhigh : s.low < now.1 + 256 * 1024
      · rw [if_pos hhigh, if_pos (by omega)]
        rfl
      · rw [if_neg hhigh, if_neg (by omega)]
        rfl

/-- **The arena gets five lines at most**, in a session of whatever length, and never has as
much as 256 KB less to give than the last of them says. -/
theorem arena_lines (all : List Sizes) (hfits : ∀ sizes ∈ all, Fits sizes) :
    (start.lines all).length ≤ 5 ∧
      ∀ now, some now ∈ all →
        ((start.lines all).map fun now => (now.1 : Int)).getLastD start.low < now.1 + 256 * 1024 := by
  have hlines := lines_lows start hfits
  have hmalloc : MallocBufferSize = 1179648 := rfl
  have hbound : ∀ v ∈ frees all, 0 ≤ v ∧ v ≤ 1179648 := by
    intro v hv
    obtain ⟨sizes, hsizes, hv⟩ := List.mem_filterMap.mp hv
    obtain ⟨now, rfl, rfl⟩ := Option.map_eq_some_iff.mp hv
    have := hfits _ hsizes now rfl
    omega
  constructor
  · have hlength := lows_length start.low (show (0 : Int) ≤ 256 * 1024 by decide) (by decide) hbound
    rw [← hlines, List.length_map] at hlength
    omega
  · intro now hnow
    rw [hlines]
    exact lows_tracks (by decide) (List.mem_filterMap.mpr ⟨some now, hnow, rfl⟩)

/-- Less and less to give, by turns too little less for a line. -/
def falling : List Sizes := [none, some (1000000, 500000), some (900000, 500000), some (700000, 300000)]

theorem arena_lines_falling :
    start.lines falling = [(1000000, 500000), (700000, 300000)] ∧ (start.lines falling).length ≤ 5 := by
  refine ⟨by decide, (arena_lines falling ?_).1⟩
  intro sizes hsizes now hnow
  subst hnow
  simp only [falling, List.mem_cons, List.not_mem_nil, or_false, reduceCtorEq, false_or, Option.some.injEq] at hsizes
  rcases hsizes with rfl | rfl | rfl <;> decide

end ArenaWatch

end SysZerotier.Port
