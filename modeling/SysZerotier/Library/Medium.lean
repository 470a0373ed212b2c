import SysZerotier.Library.Runs

/-! Parties on an unreliable medium.

Parties act of their own accord and react to the messages they are handed, and either
may send messages. The medium keeps every delivery outstanding: it hands them over in
any order, loses some and hands some over twice.

Facts about each party alone and each delivery alone survive every run once acting and
reacting keep them (`Local.run`). Where each reaction sends less than it took, by some
weight, the medium falls silent (`Local.settles`). -/
namespace SysZerotier.Library

/-- What parties do, and to whom the medium carries a party's message. -/
structure Parties (ι σ α μ : Type) where
  act : ι → σ → α → σ × List μ
  react : ι → σ → μ → σ × List μ
  route : ι → μ → List ι

/-- The parties' states and the deliveries outstanding. -/
structure Medium (ι σ μ : Type) where
  state : ι → σ
  pending : List (ι × μ)

inductive Happening (ι α : Type) where
  | act (i : ι) (a : α)
  | deliver (k : Nat)
  | lose (k : Nat)
  | duplicate (k : Nat)

namespace Happening
variable {ι α : Type}

/-- The parties do nothing of their own accord and the medium adds nothing. -/
def quiet : Happening ι α → Bool
  | .deliver _ => true
  | .lose _ => true
  | _ => false

/-- Actions are among the allowed ones. -/
def Permitted (allowed : ι → α → Prop) : Happening ι α → Prop
  | .act i a => allowed i a
  | _ => True

end Happening

namespace Parties
variable {ι σ α μ : Type} (P : Parties ι σ α μ)

/-- The deliveries a party's messages give rise to. -/
def deliveries (i : ι) (ms : List μ) : List (ι × μ) :=
  ms.flatMap fun m => (P.route i m).map fun j => (j, m)

theorem mem_deliveries {i : ι} {ms : List μ} {d : ι × μ} (h : d ∈ P.deliveries i ms) :
    d.2 ∈ ms ∧ d.1 ∈ P.route i d.2 := by
  obtain ⟨m, hm, hd⟩ := List.mem_flatMap.mp h
  obtain ⟨j, hj, rfl⟩ := List.mem_map.mp hd
  exact ⟨hm, hj⟩

variable [DecidableEq ι]

/-- A party moves on and what it sends is added to the deliveries left. -/
def advance (n : Medium ι σ μ) (i : ι) (left : List (ι × μ)) (out : σ × List μ) : Medium ι σ μ :=
  ⟨Function.update n.state i out.1, left ++ P.deliveries i out.2⟩

@[simp] theorem advance_self (n : Medium ι σ μ) (i : ι) (left : List (ι × μ)) (out : σ × List μ) :
    (P.advance n i left out).state i = out.1 := by
  simp [advance]

theorem advance_other (n : Medium ι σ μ) {i j : ι} (h : j ≠ i) (left : List (ι × μ)) (out : σ × List μ) :
    (P.advance n i left out).state j = n.state j := by
  simp [advance, h]

def system : System (Medium ι σ μ) (Happening ι α) where
  step n
    | .act i a => some (P.advance n i n.pending (P.act i (n.state i) a))
    | .deliver k => n.pending[k]?.map fun d =>
      P.advance n d.1 (n.pending.eraseIdx k) (P.react d.1 (n.state d.1) d.2)
    | .lose k => n.pending[k]?.map fun _ => { n with pending := n.pending.eraseIdx k }
    | .duplicate k => n.pending[k]?.map fun d => { n with pending := n.pending ++ [d] }

/-- What a step can do. -/
theorem step_cases {n t : Medium ι σ μ} {e : Happening ι α} (h : P.system.step n e = some t) :
    (∃ i a, e = .act i a ∧ t = P.advance n i n.pending (P.act i (n.state i) a)) ∨
    (∃ k d, e = .deliver k ∧ n.pending[k]? = some d ∧
      t = P.advance n d.1 (n.pending.eraseIdx k) (P.react d.1 (n.state d.1) d.2)) ∨
    (∃ k d, e = .lose k ∧ n.pending[k]? = some d ∧ t = { n with pending := n.pending.eraseIdx k }) ∨
    ∃ k d, e = .duplicate k ∧ n.pending[k]? = some d ∧ t = { n with pending := n.pending ++ [d] } := by
  cases e with
  | act i a => exact .inl ⟨i, a, rfl, (Option.some.inj h).symm⟩
  | deliver k =>
    obtain ⟨d, hd, ht⟩ := Option.map_eq_some_iff.mp h
    exact .inr (.inl ⟨k, d, rfl, hd, ht.symm⟩)
  | lose k =>
    obtain ⟨d, hd, ht⟩ := Option.map_eq_some_iff.mp h
    exact .inr (.inr (.inl ⟨k, d, rfl, hd, ht.symm⟩))
  | duplicate k =>
    obtain ⟨d, hd, ht⟩ := Option.map_eq_some_iff.mp h
    exact .inr (.inr (.inr ⟨k, d, rfl, hd, ht.symm⟩))

/-! ### Facts about one party or one message -/

variable {P}

/-- Acting and reacting keep a fact about each party and give rise only to deliveries
that have another. -/
structure Local (P : Parties ι σ α μ) (allowed : ι → α → Prop) (I : ι → σ → Prop) (M : ι → μ → Prop) :
    Prop where
  act : ∀ i s a, I i s → allowed i a →
    I i (P.act i s a).1 ∧ ∀ m ∈ (P.act i s a).2, ∀ j ∈ P.route i m, M j m
  react : ∀ i s m, I i s → M i m →
    I i (P.react i s m).1 ∧ ∀ m' ∈ (P.react i s m).2, ∀ j ∈ P.route i m', M j m'

/-- Every party and every delivery outstanding has its fact. -/
structure Holds (I : ι → σ → Prop) (M : ι → μ → Prop) (n : Medium ι σ μ) : Prop where
  state : ∀ i, I i (n.state i)
  pending : ∀ d ∈ n.pending, M d.1 d.2

variable {allowed : ι → α → Prop} {I : ι → σ → Prop} {M : ι → μ → Prop}

theorem Holds.advance {n : Medium ι σ μ} (h : Holds I M n) {i : ι} {left : List (ι × μ)} {out : σ × List μ}
    (hleft : ∀ d ∈ left, d ∈ n.pending) (hout : I i out.1 ∧ ∀ m ∈ out.2, ∀ j ∈ P.route i m, M j m) :
    Holds I M (P.advance n i left out) where
  state j := by
    by_cases hj : j = i
    · rw [hj, P.advance_self]
      exact hout.1
    · rw [P.advance_other n hj]
      exact h.state j
  pending d hd := by
    rcases List.mem_append.mp hd with hd | hd
    · exact h.pending d (hleft d hd)
    · obtain ⟨hm, hj⟩ := P.mem_deliveries hd
      exact hout.2 d.2 hm d.1 hj

theorem Local.step (hl : Local P allowed I M) {n t : Medium ι σ μ} {e : Happening ι α} (h : Holds I M n)
    (ha : e.Permitted allowed) (hs : P.system.step n e = some t) : Holds I M t := by
  rcases P.step_cases hs with ⟨i, a, rfl, rfl⟩ | ⟨k, d, rfl, hd, rfl⟩ | ⟨k, d, rfl, hd, rfl⟩ |
    ⟨k, d, rfl, hd, rfl⟩
  · exact h.advance (fun _ hd => hd) (hl.act i _ a (h.state i) ha)
  · exact h.advance (fun _ => List.mem_of_mem_eraseIdx)
      (hl.react d.1 _ d.2 (h.state d.1) (h.pending d (List.mem_of_getElem? hd)))
  · exact ⟨h.state, fun d' hd' => h.pending d' (List.mem_of_mem_eraseIdx hd')⟩
  · refine ⟨h.state, fun d' hd' => ?_⟩
    rcases List.mem_append.mp hd' with hd' | hd'
    · exact h.pending d' hd'
    · rw [List.mem_singleton.mp hd']
      exact h.pending d (List.mem_of_getElem? hd)

/-- Whatever the medium does, every party and every delivery outstanding keeps its
fact. -/
theorem Local.run (hl : Local P allowed I M) (es : List (Happening ι α)) {n t : Medium ι σ μ}
    (h : Holds I M n) (ha : ∀ e ∈ es, e.Permitted allowed) (hr : P.system.run n es = some t) :
    Holds I M t := by
  induction es generalizing n with
  | nil =>
    cases hr
    exact h
  | cons e es ih =>
    obtain ⟨u, hu, hrest⟩ := Option.bind_eq_some_iff.mp hr
    exact ih (hl.step h (ha e List.mem_cons_self) hu) (fun e' he' => ha e' (List.mem_cons_of_mem e he')) hrest

/-! ### Silence -/

/-- The weight of the deliveries outstanding. -/
def load (w : μ → Nat) (l : List (ι × μ)) : Nat := (l.map fun d => w d.2).sum

omit [DecidableEq ι] in
theorem load_append (w : μ → Nat) (l l' : List (ι × μ)) : load w (l ++ l') = load w l + load w l' := by
  simp [load]

omit [DecidableEq ι] in
theorem load_eraseIdx (w : μ → Nat) {l : List (ι × μ)} {k : Nat} {d : ι × μ} (h : l[k]? = some d) :
    load w (l.eraseIdx k) + w d.2 = load w l := by
  induction l generalizing k with
  | nil => cases h
  | cons c l ih =>
    cases k with
    | zero =>
      obtain rfl := Option.some.inj h
      simp [load, Nat.add_comm]
    | succ k =>
      have hrest := ih (k := k) h
      simp only [load, List.eraseIdx_cons_succ, List.map_cons, List.sum_cons] at hrest ⊢
      omega

omit [DecidableEq ι] in
theorem load_deliveries (w : μ → Nat) (i : ι) {l : List μ} {c : Nat}
    (h : ∀ m ∈ l, (P.route i m).length * w m ≤ c) : load w (P.deliveries i l) ≤ l.length * c := by
  induction l with
  | nil => exact Nat.zero_le _
  | cons m l ih =>
    have hrest := ih fun m' hm' => h m' (List.mem_cons_of_mem m hm')
    have hfirst : load w ((P.route i m).map fun j => (j, m)) = (P.route i m).length * w m := by
      simp [load, Function.comp_def]
    rw [deliveries, List.flatMap_cons, load_append, hfirst, List.length_cons, Nat.succ_mul, Nat.add_comm]
    exact Nat.add_le_add hrest (h m List.mem_cons_self)

/-- What a reaction sends weighs less than what it took. -/
def Wanes (P : Parties ι σ α μ) (I : ι → σ → Prop) (M : ι → μ → Prop) (w : μ → Nat) : Prop :=
  ∀ i s m, I i s → M i m → load w (P.deliveries i (P.react i s m).2) < w m

/-- Left to itself, the medium hands over and loses no more deliveries than their
weight. -/
theorem Local.settles (hl : Local P allowed I M) {w : μ → Nat} (hw : Wanes P I M w)
    (es : List (Happening ι α)) {n t : Medium ι σ μ} (h : Holds I M n)
    (hq : ∀ e ∈ es, e.quiet = true) (hr : P.system.run n es = some t) :
    es.length + load w t.pending ≤ load w n.pending := by
  induction es generalizing n with
  | nil =>
    cases hr
    simp
  | cons e es ih =>
    obtain ⟨u, hu, hrest⟩ := Option.bind_eq_some_iff.mp hr
    have hquiet := hq e List.mem_cons_self
    have hperm : e.Permitted allowed := by
      cases e with
      | act i a => cases hquiet
      | _ => trivial
    have hdrop : load w u.pending < load w n.pending := by
      rcases P.step_cases hu with ⟨i, a, rfl, -⟩ | ⟨k, d, rfl, hd, rfl⟩ | ⟨k, d, rfl, hd, rfl⟩ |
        ⟨k, d, rfl, -, -⟩
      · cases hquiet
      · have herase := load_eraseIdx w hd
        have hless := hw d.1 _ d.2 (h.state d.1) (h.pending d (List.mem_of_getElem? hd))
        rw [Parties.advance, load_append]
        omega
      · have herase := load_eraseIdx w hd
        have hless := hw d.1 _ d.2 (h.state d.1) (h.pending d (List.mem_of_getElem? hd))
        show load w (n.pending.eraseIdx k) < load w n.pending
        omega
      · cases hquiet
    have hlater := ih (hl.step h hperm hu) (fun e' he' => hq e' (List.mem_cons_of_mem e he')) hrest
    rw [List.length_cons]
    omega

end Parties

end SysZerotier.Library
