import SysZerotier.Net.Bytes
import SysZerotier.Library.Guard
import SysZerotier.Library.Weights

/-! The allocator of the port mapper's libraries (`compat/nat/support.c`).

What a router sends decides how much the libraries ask for, so five entry points share one
budget. Each block that is given out has its size in a header in front of it, and a counter
has the sizes of all. The sums are over `size_t`, where they may wrap; here each one is
guarded. What the system's allocator answers comes with each call: a block that nobody else
has, with anything in it, or nothing.

Which blocks are live, the calls say (`Live`): a pointer that was returned is, until it is
given back. After any sequence of calls the counter is the sum of the sizes that were asked
for with the live blocks, and no call computes out of range, loses a block or changes one
that it should not (`allocator_accounts`). -/
namespace SysZerotier.Port.NatAllocator
open Net Library Weights

/-- `sizeof(Allocation)`. -/
def HeaderSize : Nat := 32

def Budget : Nat := 64 * 1024

def MaxAllocation : Nat := 32 * 1024

/-- Sizes are below this. -/
def SizeBound : Nat := 2 ^ 64

/-- A block: the size in its header, and what is in it. -/
structure Block where
  size : Nat
  bytes : List U8

/-- `allocated`, and the blocks by the pointers that were returned. -/
structure State where
  allocated : Nat := 0
  blocks : AList fun _ : Nat => Block := ∅

/-- A block of the system's allocator. -/
structure Answer where
  ptr : Nat
  bytes : List U8

namespace State

/-- The block that the pointer is to. -/
def block (s : State) (ptr : Nat) : Guarded Block :=
  match s.blocks.lookup ptr with
  | some b => .ok b
  | none => .error (.read ptr 0)

/-- `memcpy` and `memset` to the beginning of a block. -/
def fill (s : State) (ptr : Nat) (bytes : List U8) : Guarded State := do
  let b ← s.block ptr
  if b.bytes.length < bytes.length then .error (.write bytes.length b.bytes.length)
  else return { s with blocks := s.blocks.insert ptr { b with bytes := bytes ++ b.bytes.drop bytes.length } }

def malloc (s : State) (size : Nat) (answer : Option Answer) : Guarded (State × Option Nat) :=
  if MaxAllocation < size then .ok (s, none)
  else do
    let room ← Guarded.sub Budget s.allocated
    if room < size then return (s, none)
    else
      let _ ← Guarded.add HeaderSize size SizeBound
      match answer with
      | none => return (s, none)
      | some p =>
        let allocated ← Guarded.add s.allocated size SizeBound
        return ({ allocated := allocated, blocks := s.blocks.insert p.ptr ⟨size, p.bytes⟩ }, some p.ptr)

def free (s : State) : Option Nat → Guarded State
  | none => .ok s
  | some ptr => do
    let p ← s.block ptr
    let allocated ← Guarded.sub s.allocated p.size
    return { allocated := allocated, blocks := s.blocks.erase ptr }

/-- What a block that was asked for is filled with, if there is one. -/
def filled (bytes : List U8) : State × Option Nat → Guarded (State × Option Nat)
  | (s, none) => .ok (s, none)
  | (s, some p) => do
    let s ← s.fill p bytes
    return (s, some p)

/-- `str` is the string up to its zero byte. -/
def strdup (s : State) (str : List U8) (answer : Option Answer) : Guarded (State × Option Nat) := do
  let length ← Guarded.add str.length 1 SizeBound
  let p ← s.malloc length answer
  filled (str ++ [0]) p

def calloc (s : State) (count size : Nat) (answer : Option Answer) : Guarded (State × Option Nat) := do
  let refused ←
    if count = 0 then .ok false else (Guarded.div MaxAllocation count).map fun limit => decide (limit < size)
  if refused then return (s, none)
  else
    let length ← Guarded.mul count size SizeBound
    let p ← s.malloc length answer
    filled (List.replicate length 0) p

def realloc (s : State) (ptr : Option Nat) (size : Nat) (answer : Option Answer) : Guarded (State × Option Nat) :=
  match ptr with
  | none => s.malloc size answer
  | some ptr =>
    if size = 0 then do
      let s ← s.free (some ptr)
      return (s, none)
    else do
      let p ← s.block ptr
      if MaxAllocation < size then return (s, none)
      else
        let room ← Guarded.sub Budget s.allocated
        let room ← Guarded.add room p.size SizeBound
        if room < size then return (s, none)
        else
          let _ ← Guarded.add HeaderSize size SizeBound
          match answer with
          | none => return (s, none)
          | some q =>
            let others ← Guarded.sub s.allocated p.size
            let allocated ← Guarded.add others size SizeBound
            return ({ allocated := allocated, blocks := (s.blocks.erase ptr).insert q.ptr ⟨size, q.bytes⟩ },
              some q.ptr)

end State

/-! ### Calls -/

/-- A call, with what the system's allocator answers if it is asked; or the owner of a block writes
to it. -/
inductive Call where
  | malloc (size : Nat) (answer : Option Answer)
  | calloc (count size : Nat) (answer : Option Answer)
  | strdup (str : List U8) (answer : Option Answer)
  | realloc (ptr : Option Nat) (size : Nat) (answer : Option Answer)
  | free (ptr : Option Nat)
  | write (ptr : Nat) (bytes : List U8)

namespace Call

/-- The call, and the pointer it returns. -/
def perform (s : State) : Call → Guarded (State × Option Nat)
  | .malloc size answer => s.malloc size answer
  | .calloc count size answer => s.calloc count size answer
  | .strdup str answer => s.strdup str answer
  | .realloc ptr size answer => s.realloc ptr size answer
  | .free ptr => do
    let s ← s.free ptr
    return (s, none)
  | .write ptr bytes => do
    let s ← s.fill ptr bytes
    return (s, none)

/-- The size that is asked for. -/
def requested : Call → Nat
  | .malloc size _ => size
  | .calloc count size _ => count * size
  | .strdup str _ => str.length + 1
  | .realloc _ size _ => size
  | .free _ => 0
  | .write _ _ => 0

end Call

/-- The live blocks: for each pointer the size that was asked for. -/
abbrev Live := AList fun _ : Nat => Nat

namespace Call

/-- The pointer that is given back by a call that returns `r`. -/
def returned (r : Option Nat) : Call → Option Nat
  | .free ptr => ptr
  | .realloc ptr size _ => if size = 0 ∨ r ≠ none then ptr else none
  | _ => none

/-- The live blocks, but for the one that is given back. -/
def rest (live : Live) (r : Option Nat) (c : Call) : Live :=
  match c.returned r with
  | some p => live.erase p
  | none => live

/-- The live blocks after a call that returns `r`. -/
def after (live : Live) (r : Option Nat) (c : Call) : Live :=
  match r with
  | some p => (c.rest live r).insert p c.requested
  | none => c.rest live r

/-- `malloc` of the system: a block that is not in use, of the size. -/
def Gives (blocks : AList fun _ : Nat => Block) (size : Nat) (answer : Option Answer) : Prop :=
  ∀ a ∈ answer, a.ptr ∉ blocks ∧ a.bytes.length = size

/-- What the caller and the system's allocator keep to: `realloc` and `free` get null or a live block,
the owner of a block writes within it, a string fits into memory, and `realloc` of the system keeps what
is common to both blocks. -/
def Proper (live : Live) (s : State) : Call → Prop
  | .malloc size answer => Gives s.blocks size answer
  | .calloc count size answer => Gives s.blocks (count * size) answer
  | .strdup str answer => str.length + 1 < SizeBound ∧ Gives s.blocks (str.length + 1) answer
  | .realloc none size answer => Gives s.blocks size answer
  | .realloc (some ptr) size answer =>
    ptr ∈ live ∧ Gives (s.blocks.erase ptr) size answer ∧
      ∀ b, s.blocks.lookup ptr = some b → ∀ a ∈ answer,
        a.bytes.take (min b.bytes.length size) = b.bytes.take (min b.bytes.length size)
  | .free ptr => ∀ p ∈ ptr, p ∈ live
  | .write ptr bytes => ∃ n, live.lookup ptr = some n ∧ bytes.length ≤ n

end Call

/-- Calls have led from nothing allocated to the state, and leave these blocks live. -/
inductive Reachable : Live → State → Prop where
  | start : Reachable ∅ {}
  | call {live : Live} {s t : State} {r : Option Nat} {c : Call} :
    Reachable live s → c.Proper live s → c.perform s = .ok (t, r) → Reachable (c.after live r) t

/-! ### What every call keeps -/

/-- The blocks are the live ones, each of the size that was asked for. -/
structure Holds (live : Live) (blocks : AList fun _ : Nat => Block) : Prop where
  sizes : ∀ p, live.lookup p = (blocks.lookup p).map Block.size
  whole : ∀ p b, blocks.lookup p = some b → b.bytes.length = b.size
  small : ∀ p n, live.lookup p = some n → n ≤ MaxAllocation

namespace Holds
variable {live : Live} {blocks : AList fun _ : Nat => Block}

theorem block (h : Holds live blocks) {p n : Nat} (hp : live.lookup p = some n) :
    ∃ b, blocks.lookup p = some b ∧ b.size = n ∧ b.bytes.length = n := by
  obtain ⟨b, hb, hn⟩ := Option.map_eq_some_iff.mp ((h.sizes p).symm.trans hp)
  exact ⟨b, hb, hn, (h.whole p b hb).trans hn⟩

theorem mem_iff (h : Holds live blocks) {p : Nat} : p ∈ live ↔ p ∈ blocks := by
  rw [← AList.lookup_isSome, ← AList.lookup_isSome, h.sizes, Option.isSome_map]

theorem erase (h : Holds live blocks) (p : Nat) : Holds (live.erase p) (blocks.erase p) := by
  refine ⟨fun q => ?_, fun q b hb => h.whole q b (lookup_erase_some hb).2,
    fun q n hn => h.small q n (lookup_erase_some hn).2⟩
  by_cases hq : q = p
  · rw [hq, AList.lookup_erase, AList.lookup_erase]
    rfl
  · rw [AList.lookup_erase_ne hq, AList.lookup_erase_ne hq, h.sizes]

theorem insert (h : Holds live blocks) (p : Nat) {b : Block} (hsmall : b.size ≤ MaxAllocation)
    (hwhole : b.bytes.length = b.size) : Holds (live.insert p b.size) (blocks.insert p b) := by
  refine ⟨fun q => ?_, fun q b' hb => ?_, fun q n hn => ?_⟩
  · by_cases hq : q = p
    · rw [hq, AList.lookup_insert, AList.lookup_insert]
      rfl
    · rw [AList.lookup_insert_ne hq, AList.lookup_insert_ne hq, h.sizes]
  · rcases lookup_insert_some hb with ⟨-, rfl⟩ | ⟨-, hold⟩
    · exact hwhole
    · exact h.whole q b' hold
  · rcases lookup_insert_some hn with ⟨-, rfl⟩ | ⟨-, hold⟩
    · exact hsmall
    · exact h.small q n hold

/-- Other bytes in a block. -/
theorem filled (h : Holds live blocks) {p : Nat} {b : Block} (hb : blocks.lookup p = some b) {bytes : List U8}
    (hlen : bytes.length = b.bytes.length) : Holds live (blocks.insert p { b with bytes := bytes }) := by
  refine ⟨fun q => ?_, fun q b' hq => ?_, h.small⟩
  · by_cases hq : q = p
    · rw [hq, AList.lookup_insert, h.sizes, hb]
      rfl
    · rw [AList.lookup_insert_ne hq, h.sizes]
  · rcases lookup_insert_some hq with ⟨-, rfl⟩ | ⟨-, hold⟩
    · exact hlen.trans (h.whole p b hb)
    · exact h.whole q b' hold

end Holds

/-- The counter has the sizes of the live blocks. -/
structure Accounted (live : Live) (s : State) : Prop where
  counted : s.allocated = total id live
  budget : s.allocated ≤ Budget
  holds : Holds live s.blocks

theorem accounted_start : Accounted ∅ {} :=
  ⟨rfl, Nat.zero_le _, fun _ => rfl, fun _ _ h => (by cases h), fun _ _ h => (by cases h)⟩

namespace Accounted
variable {live : Live} {s : State}

theorem size_le (h : Accounted live s) {p n : Nat} (hp : live.lookup p = some n) : n ≤ s.allocated := by
  rw [h.counted, ← total_erase id hp]
  exact Nat.le_add_left _ _

/-- A block that is added. -/
theorem added (h : Accounted live s) {p : Nat} {b : Block} (hp : p ∉ s.blocks)
    (hroom : s.allocated + b.size ≤ Budget) (hsmall : b.size ≤ MaxAllocation) (hwhole : b.bytes.length = b.size) :
    Accounted (live.insert p b.size) ⟨s.allocated + b.size, s.blocks.insert p b⟩ := by
  refine ⟨?_, hroom, h.holds.insert p hsmall hwhole⟩
  rw [total_insert_of_notMem id (h.holds.mem_iff.not.mpr hp), ← h.counted]
  rfl

theorem freed (h : Accounted live s) {p n : Nat} (hp : live.lookup p = some n) :
    Accounted (live.erase p) ⟨s.allocated - n, s.blocks.erase p⟩ := by
  have hsum : total id (live.erase p) + n = total id live := total_erase id hp
  have hcounted := h.counted
  refine ⟨?_, Nat.le_trans (Nat.sub_le _ _) h.budget, h.holds.erase p⟩
  dsimp only
  omega

end Accounted

/-! ### What a call does -/

theorem block_ok {s : State} {p : Nat} {b : Block} (hb : s.blocks.lookup p = some b) : s.block p = .ok b := by
  rw [State.block, hb]

theorem fill_ok {s : State} {p : Nat} {b : Block} (hb : s.blocks.lookup p = some b) {bytes : List U8}
    (hlen : bytes.length ≤ b.bytes.length) :
    s.fill p bytes =
      .ok { s with blocks := s.blocks.insert p { b with bytes := bytes ++ b.bytes.drop bytes.length } } := by
  rw [State.fill, block_ok hb, ok_bind, if_neg (Nat.not_lt.mpr hlen)]
  rfl

/-- `malloc` gives nothing and changes nothing, or adds the block that it was given. -/
theorem malloc_cases {live : Live} {s : State} (h : Accounted live s) (size : Nat) (answer : Option Answer) :
    s.malloc size answer = .ok (s, none) ∨
      ∃ a ∈ answer, size ≤ MaxAllocation ∧ s.allocated + size ≤ Budget ∧
        s.malloc size answer =
          .ok (⟨s.allocated + size, s.blocks.insert a.ptr ⟨size, a.bytes⟩⟩, some a.ptr) := by
  have hbudget := h.budget
  have hbound : HeaderSize + (MaxAllocation + Budget) < SizeBound := by decide
  unfold State.malloc
  by_cases hsize : MaxAllocation < size
  · rw [if_pos hsize]
    exact .inl rfl
  · rw [if_neg hsize, Guarded.sub_ok hbudget, ok_bind]
    by_cases hroom : Budget - s.allocated < size
    · rw [if_pos hroom]
      exact .inl rfl
    · rw [if_neg hroom, Guarded.add_ok (by omega), ok_bind]
      cases answer with
      | none => exact .inl rfl
      | some a =>
        refine .inr ⟨a, rfl, by omega, by omega, ?_⟩
        dsimp only
        rw [Guarded.add_ok (by omega), ok_bind]
        rfl

/-- `realloc` of a live block gives nothing and changes nothing, or has the block replaced. -/
theorem realloc_cases {live : Live} {s : State} (h : Accounted live s) {ptr size : Nat} {b : Block}
    (hb : s.blocks.lookup ptr = some b) (hsize : size ≠ 0) (answer : Option Answer) :
    s.realloc (some ptr) size answer = .ok (s, none) ∨
      ∃ a ∈ answer, size ≤ MaxAllocation ∧ s.allocated - b.size + size ≤ Budget ∧
        s.realloc (some ptr) size answer =
          .ok (⟨s.allocated - b.size + size, (s.blocks.erase ptr).insert a.ptr ⟨size, a.bytes⟩⟩, some a.ptr) := by
  have hbudget := h.budget
  have hold : b.size ≤ s.allocated := h.size_le ((h.holds.sizes ptr).trans (congrArg _ hb))
  have hbound : HeaderSize + (MaxAllocation + Budget) < SizeBound := by decide
  unfold State.realloc
  dsimp only
  rw [if_neg hsize, block_ok hb, ok_bind]
  by_cases hmax : MaxAllocation < size
  · rw [if_pos hmax]
    exact .inl rfl
  · rw [if_neg hmax, Guarded.sub_ok hbudget, ok_bind, Guarded.add_ok (by omega), ok_bind]
    by_cases hroom : Budget - s.allocated + b.size < size
    · rw [if_pos hroom]
      exact .inl rfl
    · rw [if_neg hroom, Guarded.add_ok (by omega), ok_bind]
      cases answer with
      | none => exact .inl rfl
      | some a =>
        refine .inr ⟨a, rfl, by omega, by omega, ?_⟩
        dsimp only
        rw [Guarded.sub_ok hold, ok_bind, Guarded.add_ok (by omega), ok_bind]
        rfl

namespace Call

/-- A block is asked for; `realloc` to no size is `free`. -/
def allocates : Call → Bool
  | .realloc _ size _ => size != 0
  | .free _ => false
  | .write _ _ => false
  | _ => true

/-- The block that is passed. -/
def passed : Call → Option Nat
  | .realloc ptr _ _ => ptr
  | .free ptr => ptr
  | .write ptr _ => some ptr
  | _ => none

end Call

/-- What a call leaves, and returns. -/
structure Outcome (live : Live) (s : State) (c : Call) (t : State) (r : Option Nat) : Prop where
  accounted : Accounted (c.after live r) t
  /-- A call that returns null for a block changes nothing. -/
  null : r = none → c.allocates = true → t = s
  /-- What is returned is no other live block, and has the size. -/
  given : ∀ p ∈ r, p ∉ c.rest live r ∧
    ∃ b, t.blocks.lookup p = some b ∧ b.size = c.requested ∧ b.bytes.length = c.requested
  /-- A block that is given back is gone, and its size taken off the counter. -/
  freed : ∀ p n, c.returned r = some p → live.lookup p = some n → r = none →
    p ∉ t.blocks ∧ t.allocated + n = s.allocated
  /-- The other live blocks keep what is in them. -/
  others : ∀ p ∈ live, c.passed ≠ some p → t.blocks.lookup p = s.blocks.lookup p
  /-- `realloc` keeps what is common to the old block and the new one. -/
  common : ∀ ptr size answer, c = .realloc (some ptr) size answer → ∀ n b, live.lookup ptr = some n →
    s.blocks.lookup ptr = some b → ∀ q ∈ r, ∃ b', t.blocks.lookup q = some b' ∧
      b'.bytes.take (min n size) = b.bytes.take (min n size)

/-- A call that gives nothing, takes nothing back and changes nothing. -/
theorem Outcome.nothing {live : Live} {s : State} (h : Accounted live s) {c : Call} (hc : c.returned none = none) :
    Outcome live s c s none := by
  have hafter : c.after live none = live := by
    rw [Call.after, Call.rest, hc]
  refine ⟨by rw [hafter]; exact h, fun _ _ => rfl, fun _ hp => (by cases hp), fun p n hp => ?_, fun _ _ _ => rfl,
    fun _ _ _ _ _ _ _ _ _ hq => (by cases hq)⟩
  rw [hc] at hp
  cases hp

/-- A new block, with anything in it. -/
theorem Outcome.new {live : Live} {s : State} (h : Accounted live s) {c : Call} {size ptr : Nat} {bytes : List U8}
    (hptr : ptr ∉ s.blocks) (hlen : bytes.length = size) (hsize : size ≤ MaxAllocation)
    (hroom : s.allocated + size ≤ Budget) (hrequested : c.requested = size) (hpassed : c.passed = none)
    (hreturned : c.returned (some ptr) = none) :
    Outcome live s c ⟨s.allocated + size, s.blocks.insert ptr ⟨size, bytes⟩⟩ (some ptr) := by
  have hrest : c.rest live (some ptr) = live := by
    rw [Call.rest, hreturned]
  have hafter : c.after live (some ptr) = live.insert ptr size := by
    rw [Call.after, hrest, hrequested]
  refine ⟨hafter ▸ h.added (b := ⟨size, bytes⟩) hptr hroom hsize hlen, fun hr => (by cases hr), ?_,
    fun _ _ _ _ hr => (by cases hr), ?_, ?_⟩
  · intro p hp
    cases hp
    rw [hrest]
    exact ⟨h.holds.mem_iff.not.mpr hptr, _, AList.lookup_insert _, hrequested.symm, hlen.trans hrequested.symm⟩
  · intro p hp _
    exact AList.lookup_insert_ne fun heq => hptr (heq ▸ h.holds.mem_iff.mp hp)
  · intro p size' answer hc
    rw [hc] at hpassed
    cases hpassed

theorem malloc_outcome {live : Live} {s : State} (h : Accounted live s) {c : Call} {size : Nat}
    {answer : Option Answer} (hg : Call.Gives s.blocks size answer) (hrequested : c.requested = size)
    (hpassed : c.passed = none) (hreturned : ∀ r, c.returned r = none) :
    ∃ t r, s.malloc size answer = .ok (t, r) ∧ Outcome live s c t r := by
  rcases malloc_cases h size answer with hnone | ⟨a, ha, hsize, hroom, hsome⟩
  · exact ⟨s, none, hnone, .nothing h (hreturned none)⟩
  · obtain ⟨hptr, hlen⟩ := hg a ha
    exact ⟨_, _, hsome, .new h hptr hlen hsize hroom hrequested hpassed (hreturned _)⟩

/-- A block that is filled as soon as it is there. -/
theorem malloc_filled {live : Live} {s : State} (h : Accounted live s) (c : Call) {size : Nat}
    {answer : Option Answer} (bytes : List U8) (hg : Call.Gives s.blocks size answer) (hbytes : bytes.length = size)
    (hrequested : c.requested = size) (hpassed : c.passed = none) (hreturned : ∀ r, c.returned r = none) :
    ∃ t r, (s.malloc size answer >>= State.filled bytes) = .ok (t, r) ∧ Outcome live s c t r := by
  rcases malloc_cases h size answer with hnone | ⟨a, ha, hsize, hroom, hsome⟩
  · exact ⟨s, none, by rw [hnone]; rfl, .nothing h (hreturned none)⟩
  · obtain ⟨hptr, hlen⟩ := hg a ha
    have hfill := @fill_ok ⟨s.allocated + size, s.blocks.insert a.ptr ⟨size, a.bytes⟩⟩ _ _
      (AList.lookup_insert _) bytes (by rw [hbytes]; exact hlen.ge)
    refine ⟨_, some a.ptr, ?_,
      @Outcome.new _ _ h _ _ _ (bytes ++ a.bytes.drop bytes.length) hptr ?_ hsize hroom hrequested hpassed
        (hreturned _)⟩
    · rw [hsome, ok_bind, State.filled, hfill, ok_bind, AList.insert_insert]
      rfl
    · rw [List.length_append, List.length_drop]
      omega

theorem calloc_outcome {live : Live} {s : State} (h : Accounted live s) {count size : Nat} {answer : Option Answer}
    (hg : Call.Gives s.blocks (count * size) answer) :
    ∃ t r, s.calloc count size answer = .ok (t, r) ∧ Outcome live s (.calloc count size answer) t r := by
  have hfilled : count * size ≤ MaxAllocation → ∃ t r,
      (do let length ← Guarded.mul count size SizeBound
          let p ← s.malloc length answer
          State.filled (List.replicate length 0) p) = .ok (t, r) ∧
        Outcome live s (.calloc count size answer) t r := by
    intro hle
    have hbound : MaxAllocation < SizeBound := by decide
    rw [Guarded.mul_ok (by omega), ok_bind]
    exact malloc_filled h _ _ hg (List.length_replicate ..) rfl rfl fun _ => rfl
  rw [State.calloc]
  by_cases hcount : count = 0
  · rw [if_pos hcount]
    exact hfilled (by rw [hcount, Nat.zero_mul]; exact Nat.zero_le _)
  · rw [if_neg hcount, Guarded.div_ok hcount]
    show ∃ t r, (if decide (MaxAllocation / count < size) = true then _ else _) = _ ∧ _
    by_cases hquotient : MaxAllocation / count < size
    · rw [if_pos (decide_eq_true hquotient)]
      exact ⟨s, none, rfl, .nothing h rfl⟩
    · rw [if_neg (by rw [decide_eq_false hquotient]; exact Bool.false_ne_true)]
      refine hfilled ?_
      rw [Nat.mul_comm]
      exact (Nat.le_div_iff_mul_le (Nat.pos_of_ne_zero hcount)).mp (Nat.not_lt.mp hquotient)

theorem free_ok {live : Live} {s : State} (h : Accounted live s) {ptr n : Nat} (hn : live.lookup ptr = some n) :
    s.free (some ptr) = .ok ⟨s.allocated - n, s.blocks.erase ptr⟩ := by
  obtain ⟨b, hb, rfl, -⟩ := h.holds.block hn
  rw [State.free, block_ok hb, ok_bind, Guarded.sub_ok (h.size_le hn)]
  rfl

/-- A block that is given back. -/
theorem Outcome.gone {live : Live} {s : State} (h : Accounted live s) {c : Call} {ptr n : Nat}
    (hn : live.lookup ptr = some n) (hc : c.allocates = false) (hpassed : c.passed = some ptr)
    (hreturned : c.returned none = some ptr) :
    Outcome live s c ⟨s.allocated - n, s.blocks.erase ptr⟩ none := by
  have hafter : c.after live none = live.erase ptr := by
    rw [Call.after, Call.rest, hreturned]
  refine ⟨hafter ▸ h.freed hn, fun _ halloc => ?_, fun _ hp => (by cases hp), fun p m hp hm _ => ?_,
    fun p _ hne => ?_, fun _ _ _ _ _ _ _ _ _ hq => (by cases hq)⟩
  · rw [hc] at halloc
    cases halloc
  · rw [hreturned] at hp
    cases hp
    rw [hn] at hm
    cases hm
    have hle := h.size_le hn
    refine ⟨fun hmem => ?_, by dsimp only; omega⟩
    rw [AList.mem_erase] at hmem
    exact hmem.1 rfl
  · exact AList.lookup_erase_ne fun heq => hne (hpassed.trans (congrArg some heq.symm))

theorem realloc_outcome {live : Live} {s : State} (h : Accounted live s) {ptr size : Nat} {answer : Option Answer}
    (hc : (Call.realloc (some ptr) size answer).Proper live s) :
    ∃ t r, s.realloc (some ptr) size answer = .ok (t, r) ∧
      Outcome live s (.realloc (some ptr) size answer) t r := by
  obtain ⟨hmem, hg, hcommon⟩ := hc
  obtain ⟨n, hn⟩ := Option.isSome_iff_exists.mp (AList.lookup_isSome.mpr hmem)
  obtain ⟨b, hb, rfl, hlength⟩ := h.holds.block hn
  by_cases hsize : size = 0
  · subst hsize
    refine ⟨_, none, ?_, .gone h hn rfl rfl rfl⟩
    unfold State.realloc
    dsimp only
    rw [if_pos rfl, free_ok h hn]
    rfl
  · rcases realloc_cases h hb hsize answer with hnone | ⟨a, ha, hmax, hroom, hsome⟩
    · refine ⟨s, none, hnone, .nothing h ?_⟩
      exact if_neg (by simp [hsize])
    · obtain ⟨hptr, hlen⟩ := hg a ha
      have hrest : (Call.realloc (some ptr) size answer).rest live (some a.ptr) = live.erase ptr := by
        rw [Call.rest, Call.returned, if_pos (.inr (Option.some_ne_none _))]
      have hafter : (Call.realloc (some ptr) size answer).after live (some a.ptr) =
          (live.erase ptr).insert a.ptr size := by
        rw [Call.after, hrest]
        rfl
      refine ⟨_, _, hsome, ?_, fun hr => (by cases hr), ?_, fun _ _ _ _ hr => (by cases hr), ?_, ?_⟩
      · rw [hafter]
        exact (h.freed hn).added (b := ⟨size, a.bytes⟩) hptr hroom hmax hlen
      · intro p hp
        cases hp
        rw [hrest]
        exact ⟨(h.holds.erase ptr).mem_iff.not.mpr hptr, _, AList.lookup_insert _, rfl, hlen⟩
      · intro p hp hne
        have hpp : p ≠ ptr := fun heq => hne (congrArg some heq.symm)
        have hpa : p ≠ a.ptr := by
          rintro rfl
          exact hptr (AList.mem_erase.mpr ⟨hpp, h.holds.mem_iff.mp hp⟩)
        exact (AList.lookup_insert_ne hpa).trans (AList.lookup_erase_ne hpp)
      · intro p size' answer' heq m b' hm hb' q hq
        cases heq
        cases hq
        rw [hb] at hb'
        cases hb'
        rw [hn] at hm
        cases hm
        refine ⟨_, AList.lookup_insert _, ?_⟩
        rw [← hlength]
        exact hcommon b hb a ha

/-- Nothing computes out of range, and the call does what it should. -/
theorem perform_outcome {live : Live} {s : State} (h : Accounted live s) {c : Call} (hc : c.Proper live s) :
    ∃ t r, c.perform s = .ok (t, r) ∧ Outcome live s c t r := by
  cases c with
  | malloc size answer => exact malloc_outcome h hc rfl rfl fun _ => rfl
  | calloc count size answer => exact calloc_outcome h hc
  | strdup str answer =>
    obtain ⟨hlen, hg⟩ := hc
    obtain ⟨t, r, hok, hout⟩ := malloc_filled h (.strdup str answer) (str ++ [0]) hg
      (List.length_append ..) rfl rfl fun _ => rfl
    exact ⟨t, r, by rw [Call.perform, State.strdup, Guarded.add_ok hlen, ok_bind, hok], hout⟩
  | realloc ptr size answer =>
    cases ptr with
    | none => exact malloc_outcome h hc rfl rfl fun _ => ite_self none
    | some ptr => exact realloc_outcome h hc
  | free ptr =>
    cases ptr with
    | none => exact ⟨s, none, rfl, .nothing h rfl⟩
    | some ptr =>
      obtain ⟨n, hn⟩ := Option.isSome_iff_exists.mp (AList.lookup_isSome.mpr (hc ptr rfl))
      exact ⟨_, none, by rw [Call.perform, free_ok h hn]; rfl, .gone h hn rfl rfl rfl⟩
  | write ptr bytes =>
    obtain ⟨n, hn, hlen⟩ := hc
    obtain ⟨b, hb, -, hlength⟩ := h.holds.block hn
    have hfits : bytes.length ≤ b.bytes.length := hlength.symm ▸ hlen
    have hok : (Call.write ptr bytes).perform s = .ok
        ({ s with blocks := s.blocks.insert ptr { b with bytes := bytes ++ b.bytes.drop bytes.length } }, none) := by
      rw [Call.perform, fill_ok hb hfits]
      rfl
    refine ⟨_, none, hok, ⟨h.counted, h.budget, h.holds.filled hb ?_⟩, fun _ halloc => (by cases halloc),
      fun _ hp => (by cases hp), fun _ _ hp => (by cases hp), fun p _ hne => ?_, fun _ _ _ heq => (by cases heq)⟩
    · rw [List.length_append, List.length_drop]
      omega
    · exact AList.lookup_insert_ne fun heq => hne (congrArg some heq.symm)

/-- What a whole sequence of calls keeps. -/
theorem reachable_accounted {live : Live} {s : State} (h : Reachable live s) : Accounted live s := by
  induction h with
  | start => exact accounted_start
  | call hs hc hok ih =>
    obtain ⟨t, r, hok', hout⟩ := perform_outcome ih hc
    rw [hok'] at hok
    cases hok
    exact hout.accounted

/-- **The allocator accounts for every block**, after any sequence of calls and whatever the
system's allocator fails to give, and each further call does what it should. -/
theorem allocator_accounts {live : Live} {s : State} (h : Reachable live s) :
    Accounted live s ∧ ∀ c : Call, c.Proper live s → ∃ t r, c.perform s = .ok (t, r) ∧ Outcome live s c t r :=
  ⟨reachable_accounted h, fun _ hc => perform_outcome (reachable_accounted h) hc⟩

/-- `strdup`, then a `realloc` for which the system has nothing, and `free`. -/
theorem failed_realloc_keeps :
    ∃ (live : Live) (s : State), Reachable live s ∧ live.lookup 16 = some 3 ∧
      (s.blocks.lookup 16).map Block.bytes = some [122, 116, 0] ∧
      (∃ t r, (Call.realloc (some 16) 64 none).perform s = .ok (t, r) ∧ r = none ∧ t = s) ∧
      ∃ t r, (Call.free (some 16)).perform s = .ok (t, r) ∧ 16 ∉ t.blocks ∧ t.allocated + 3 = s.allocated := by
  let live : Live := AList.insert 16 3 ∅
  let s : State := ⟨3, AList.insert 16 ⟨3, [122, 116, 0]⟩ ∅⟩
  have hproper : (Call.strdup [122, 116] (some ⟨16, [0, 0, 0]⟩)).Proper ∅ {} :=
    ⟨by decide, fun a ha => by cases ha; exact ⟨AList.notMem_empty 16, rfl⟩⟩
  have hs : Reachable live s := .call (r := some 16) .start hproper rfl
  have hmem : 16 ∈ live := AList.lookup_isSome.mp rfl
  have hagain : (Call.realloc (some 16) 64 none).Proper live s :=
    ⟨hmem, fun a ha => (by cases ha), fun b _ a ha => (by cases ha)⟩
  obtain ⟨t, r, hok, hout⟩ := (allocator_accounts hs).2 _ hagain
  have hr : r = none := by cases hok; rfl
  have hfree : (Call.free (some 16)).Proper live s := fun p hp => by cases hp; exact hmem
  obtain ⟨u, q, hok', hout'⟩ := (allocator_accounts hs).2 _ hfree
  have hq : q = none := by cases hok'; rfl
  exact ⟨live, s, hs, rfl, rfl, ⟨t, r, hok, hr, hout.null hr rfl⟩, u, q, hok', hout'.freed 16 3 rfl rfl hq⟩

end SysZerotier.Port.NatAllocator
