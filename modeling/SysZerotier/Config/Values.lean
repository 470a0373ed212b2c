import SysZerotier.Config.Selection
import SysZerotier.Library.Guard

/-! Switches, numbers and addresses in `config.ini` (`ConfigFlag`, `ConfigValue` and
`ConfigIpv4` in `source/zt_port.cpp`).

Each scanner goes over the values that its key is assigned, in the text that the file was
read as. A number is accumulated in an `int`, digit by digit and with no limit on the
digits, and what is out of range is found out afterwards; here the accumulation is
guarded. It stays in range, and an address is the one that is written, exactly when no
number that is read exceeds `INT_MAX` (`values_bounded_iff`). -/
namespace SysZerotier.Config.Values
open Net Library

/-! ### Scanners that only look at assignments -/

theorem parseNwid_eq (text : Text) :
    parseNwid text false =
      (assignments (ascii "nwid") text).foldl (fun found q => (networkId q).or found) none := by
  rw [parseNwid, assignments]
  rw [List.foldl_filterMap]
  congr 1
  funext found line
  unfold valueOf nwidOf
  cases hc : commented (skipBlanks line) with
  | true => simp [hc]
  | false =>
    cases ha : assigned (ascii "nwid") (skipBlanks line) <;> simp [hc, ha]

/-! ### Switches -/

def readFlag (result : Bool) : Text → Bool
  | c :: _ => c != 48
  | [] => result

/-- The last assignment that is not empty decides. -/
def configFlag (file : Option Text) (key : Text) (dflt : Bool) : Bool :=
  match file with
  | none => dflt
  | some text => (assignments key text).foldl readFlag dflt

/-! ### Numbers -/

def IntMax : Nat := 2147483647

def isDigit (c : U8) : Bool := 48 ≤ c && c ≤ 57

/-- The locals of a digit loop. -/
structure Number where
  v : Nat := 0
  digits : Nat := 0

/-- The digit loop, and the text after the digits. -/
def readDigits (n : Number) : Text → Guarded (Number × Text)
  | [] => .ok (n, [])
  | c :: q =>
    if isDigit c then do
      let tens ← Guarded.mul n.v 10 (IntMax + 1)
      let v ← Guarded.add tens (c.toNat - 48) (IntMax + 1)
      readDigits ⟨v, n.digits + 1⟩ q
    else .ok (n, c :: q)

def readValue (result : Int) (q : Text) : Guarded Int := do
  let n ← readDigits {} q
  return if 0 < n.1.digits then (n.1.v : Int) else result

/-- The last assignment that begins with a digit decides. -/
def configValue (file : Option Text) (key : Text) (dflt : Int) : Guarded Int :=
  match file with
  | none => .ok dflt
  | some text => (assignments key text).foldlM readValue dflt

/-- The octet loop with `left` octets to go. -/
def readOctets : Nat → U32 → Text → Guarded (Option U32)
  | 0, ip, _ => .ok (some ip)
  | left + 1, ip, q => do
    let n ← readDigits {} q
    if n.1.digits = 0 ∨ 255 < n.1.v then return none
    else
      let ip := ip <<< 8 ||| BitVec.ofNat 32 n.1.v
      if left = 0 then return some ip
      else if n.2.head? ≠ some 46 then return none
      else readOctets left ip n.2.tail

/-- The last assignment decides, but one that is no address ends the search. -/
def lastIpv4 (result : U32) : List Text → Guarded U32
  | [] => .ok result
  | q :: rest => do
    match ← readOctets 4 0 q with
    | some ip => lastIpv4 ip rest
    | none => return 0

def configIpv4 (file : Option Text) (key : Text) : Guarded U32 :=
  match file with
  | none => .ok 0
  | some text => lastIpv4 0 (assignments key text)

/-! ### What digits denote -/

/-- Digits after the number `v`. -/
def decimalFrom (v : Nat) (ds : Text) : Nat := ds.foldl (fun v c => v * 10 + (c.toNat - 48)) v

def decimal (ds : Text) : Nat := decimalFrom 0 ds

/-- The number that the text begins with, if any. -/
def numberAt (q : Text) : Nat := decimal (q.takeWhile isDigit)

@[simp] theorem decimalFrom_cons (v : Nat) (c : U8) (ds : Text) :
    decimalFrom v (c :: ds) = decimalFrom (v * 10 + (c.toNat - 48)) ds := by
  simp only [decimalFrom, List.foldl_cons]

/-- No digit makes a number smaller. -/
theorem le_decimalFrom (v : Nat) (ds : Text) : v ≤ decimalFrom v ds := by
  induction ds generalizing v with
  | nil => exact Nat.le_refl v
  | cons c ds ih =>
    have hstep : v ≤ v * 10 + (c.toNat - 48) := by omega
    exact Nat.le_trans hstep (ih _)

/-- The loop goes through when the number it ends with is in range. -/
theorem readDigits_ok (n : Number) (q : Text) (h : decimalFrom n.v (q.takeWhile isDigit) ≤ IntMax) :
    readDigits n q =
      .ok (⟨decimalFrom n.v (q.takeWhile isDigit), n.digits + (q.takeWhile isDigit).length⟩,
        q.dropWhile isDigit) := by
  induction q generalizing n with
  | nil => rfl
  | cons c q ih =>
    rw [List.takeWhile_cons] at h ⊢
    rw [List.dropWhile_cons, readDigits]
    cases hc : isDigit c with
    | false => rfl
    | true =>
      simp only [hc, if_pos, decimalFrom_cons] at h ⊢
      have hv := le_decimalFrom (n.v * 10 + (c.toNat - 48)) (q.takeWhile isDigit)
      rw [Guarded.mul_ok (by omega), ok_bind, Guarded.add_ok (by omega), ok_bind, ih _ h,
        List.length_cons, Nat.add_assoc, Nat.add_comm 1]

/-- Otherwise some step overflows. -/
theorem readDigits_faults (n : Number) (q : Text) (hn : n.v ≤ IntMax)
    (h : IntMax < decimalFrom n.v (q.takeWhile isDigit)) : ∃ fault, readDigits n q = .error fault := by
  induction q generalizing n with
  | nil => exact absurd h (Nat.not_lt.mpr hn)
  | cons c q ih =>
    rw [List.takeWhile_cons] at h
    rw [readDigits]
    cases hc : isDigit c with
    | false =>
      simp only [hc, if_neg Bool.false_ne_true] at h
      exact absurd h (Nat.not_lt.mpr hn)
    | true =>
      simp only [hc, if_pos, decimalFrom_cons] at h ⊢
      by_cases hmul : n.v * 10 < IntMax + 1
      · rw [Guarded.mul_ok hmul, ok_bind]
        by_cases hadd : n.v * 10 + (c.toNat - 48) < IntMax + 1
        · rw [Guarded.add_ok hadd, ok_bind]
          exact ih _ (by dsimp only; omega) h
        · exact ⟨_, by rw [Guarded.add, if_neg hadd]; rfl⟩
      · exact ⟨_, by rw [Guarded.mul, if_neg hmul]; rfl⟩

theorem readDigits_number {q : Text} (h : numberAt q ≤ IntMax) :
    readDigits {} q =
      .ok (⟨numberAt q, (q.takeWhile isDigit).length⟩, q.dropWhile isDigit) := by
  rw [readDigits_ok {} q h, Nat.zero_add]
  rfl

theorem readDigits_number_faults {q : Text} (h : IntMax < numberAt q) : ∃ fault, readDigits {} q = .error fault :=
  readDigits_faults {} q (Nat.zero_le _) h

/-- Only a number that is out of range stops the scanner. -/
theorem foldlM_readValue_iff (qs : List Text) (result : Int) :
    (∃ v, qs.foldlM readValue result = .ok v) ↔ ∀ q ∈ qs, numberAt q ≤ IntMax := by
  induction qs generalizing result with
  | nil => exact ⟨fun _ q hq => absurd hq List.not_mem_nil, fun _ => ⟨result, rfl⟩⟩
  | cons q qs ih =>
    rw [List.foldlM_cons, List.forall_mem_cons, readValue]
    by_cases hq : numberAt q ≤ IntMax
    · rw [readDigits_number hq, ok_bind, pure_eq_ok, ok_bind, ih]
      exact ⟨fun h => ⟨hq, h⟩, fun h => h.2⟩
    · obtain ⟨fault, hfault⟩ := readDigits_number_faults (Nat.not_le.mp hq)
      rw [hfault]
      exact ⟨fun ⟨v, hv⟩ => (by cases hv), fun h => absurd h.1 hq⟩

/-! ### Addresses -/

/-- The first number is an octet, and a dot follows. -/
def DotAfter (q : Text) : Prop := numberAt q ≤ 255 ∧ (q.dropWhile isDigit).head? = some 46

instance (q : Text) : Decidable (DotAfter q) := inferInstanceAs (Decidable (_ ∧ _))

/-- The numbers that the octet loop comes to: one more after each octet with a dot. -/
def octetNumbers : Nat → Text → List Nat
  | 0, _ => []
  | left + 1, q =>
    if q.takeWhile isDigit = [] then []
    else if DotAfter q then numberAt q :: octetNumbers left (q.dropWhile isDigit).tail
    else [numberAt q]

/-- As many numbers as octets, none of them too large. -/
def Octets (left : Nat) (q : Text) : Prop :=
  (octetNumbers left q).length = left ∧ ∀ v ∈ octetNumbers left q, v ≤ 255

instance (left : Nat) (q : Text) : Decidable (Octets left q) := inferInstanceAs (Decidable (_ ∧ _))

/-- The numbers that are come to, up to the first assignment that is no address. -/
def ipv4Numbers : List Text → List Nat
  | [] => []
  | q :: rest => octetNumbers 4 q ++ if Octets 4 q then ipv4Numbers rest else []

/-- Octets after those of `ip`. -/
def packed (ip : U32) (vs : List Nat) : U32 := vs.foldl (fun ip v => ip <<< 8 ||| BitVec.ofNat 32 v) ip

section First
variable {left : Nat} {q : Text}

theorem octetNumbers_nil (hds : q.takeWhile isDigit = []) : octetNumbers (left + 1) q = [] := by
  rw [octetNumbers, if_pos hds]

theorem octetNumbers_dot (hds : q.takeWhile isDigit ≠ []) (hdot : DotAfter q) :
    octetNumbers (left + 1) q = numberAt q :: octetNumbers left (q.dropWhile isDigit).tail := by
  rw [octetNumbers, if_neg hds, if_pos hdot]

theorem octetNumbers_last (hds : q.takeWhile isDigit ≠ []) (hdot : ¬DotAfter q) :
    octetNumbers (left + 1) q = [numberAt q] := by
  rw [octetNumbers, if_neg hds, if_neg hdot]

theorem octets_dot (hds : q.takeWhile isDigit ≠ []) (hdot : DotAfter q) :
    Octets (left + 1) q ↔ Octets left (q.dropWhile isDigit).tail := by
  rw [Octets, octetNumbers_dot hds hdot, List.length_cons, List.forall_mem_cons, Nat.add_right_cancel_iff]
  exact ⟨fun h => ⟨h.1, h.2.2⟩, fun h => ⟨h.1, hdot.1, h.2⟩⟩

theorem octets_last (hds : q.takeWhile isDigit ≠ []) (hdot : ¬DotAfter q) :
    Octets (left + 1) q ↔ left = 0 ∧ numberAt q ≤ 255 := by
  rw [Octets, octetNumbers_last hds hdot, List.forall_mem_singleton, List.length_singleton]
  exact and_congr_left fun _ => by omega

theorem numberAt_mem (hds : q.takeWhile isDigit ≠ []) : numberAt q ∈ octetNumbers (left + 1) q := by
  by_cases hdot : DotAfter q
  · rw [octetNumbers_dot hds hdot]
    exact List.mem_cons_self
  · rw [octetNumbers_last hds hdot]
    exact List.mem_cons_self

/-- What the first number does. -/
theorem readOctets_succ (ip : U32) (h : numberAt q ≤ IntMax) :
    readOctets (left + 1) ip q =
      if q.takeWhile isDigit = [] ∨ 255 < numberAt q then .ok none
      else if left = 0 then .ok (some (ip <<< 8 ||| BitVec.ofNat 32 (numberAt q)))
      else if (q.dropWhile isDigit).head? = some 46 then
        readOctets left (ip <<< 8 ||| BitVec.ofNat 32 (numberAt q)) (q.dropWhile isDigit).tail
      else .ok none := by
  rw [readOctets, readDigits_number h, ok_bind]
  simp only [List.length_eq_zero_iff, pure_eq_ok, ne_eq, ite_not]

end First

/-- When all numbers are in range, the octets are found if they are there. -/
theorem readOctets_ok (left : Nat) (ip : U32) (q : Text) (h : ∀ v ∈ octetNumbers left q, v ≤ IntMax) :
    readOctets left ip q = .ok (if Octets left q then some (packed ip (octetNumbers left q)) else none) := by
  induction left generalizing ip q with
  | zero => rfl
  | succ left ih =>
    by_cases hds : q.takeWhile isDigit = []
    · have hzero : numberAt q ≤ IntMax := by rw [numberAt, hds]; exact Nat.zero_le _
      have hno : ¬Octets (left + 1) q := fun hall => by
        rw [Octets, octetNumbers_nil hds] at hall
        exact absurd hall.1 (Nat.succ_ne_zero left).symm
      rw [readOctets_succ ip hzero, if_pos (.inl hds), if_neg hno]
    · rw [readOctets_succ ip (h _ (numberAt_mem hds))]
      by_cases hdot : DotAfter q
      · rw [octetNumbers_dot hds hdot] at h ⊢
        simp only [octets_dot hds hdot]
        rw [if_neg (fun hor => hor.elim hds (Nat.not_lt.mpr hdot.1)), if_pos hdot.2]
        split
        · rename_i hleft
          subst hleft
          rfl
        · exact ih _ _ fun v hv => h v (List.mem_cons_of_mem _ hv)
      · rw [octetNumbers_last hds hdot]
        simp only [octets_last hds hdot]
        by_cases hlarge : 255 < numberAt q
        · rw [if_pos (.inr hlarge), if_neg (fun hall => Nat.not_le.mpr hlarge hall.2)]
        · have hsmall : numberAt q ≤ 255 := Nat.not_lt.mp hlarge
          have hchar : ¬(q.dropWhile isDigit).head? = some 46 := fun hhead => hdot ⟨hsmall, hhead⟩
          rw [if_neg (fun hor => hor.elim hds hlarge), if_neg hchar]
          by_cases hleft : left = 0
          · rw [if_pos hleft, if_pos ⟨hleft, hsmall⟩]
            rfl
          · rw [if_neg hleft, if_neg (fun hall => hleft hall.1)]

/-- A number that is come to and is out of range is an overflow. -/
theorem readOctets_faults (left : Nat) (ip : U32) (q : Text) (h : ∃ v ∈ octetNumbers left q, IntMax < v) :
    ∃ fault, readOctets left ip q = .error fault := by
  induction left generalizing ip q with
  | zero =>
    obtain ⟨v, hv, -⟩ := h
    exact absurd hv List.not_mem_nil
  | succ left ih =>
    obtain ⟨v, hv, hover⟩ := h
    have hds : q.takeWhile isDigit ≠ [] := fun hds => by
      rw [octetNumbers_nil hds] at hv
      exact absurd hv List.not_mem_nil
    by_cases hnumber : numberAt q ≤ IntMax
    · by_cases hdot : DotAfter q
      · rw [octetNumbers_dot hds hdot] at hv
        have hrest : v ∈ octetNumbers left (q.dropWhile isDigit).tail :=
          (List.mem_cons.mp hv).resolve_left fun heq => absurd hover (Nat.not_lt.mpr (heq ▸ hnumber))
        have hleft : left ≠ 0 := fun hleft => by
          subst hleft
          exact absurd hrest List.not_mem_nil
        rw [readOctets_succ ip hnumber, if_neg (fun hor => hor.elim hds (Nat.not_lt.mpr hdot.1)),
          if_neg hleft, if_pos hdot.2]
        exact ih _ _ ⟨v, hrest, hover⟩
      · rw [octetNumbers_last hds hdot, List.mem_singleton] at hv
        exact absurd hover (Nat.not_lt.mpr (hv ▸ hnumber))
    · obtain ⟨fault, hfault⟩ := readDigits_number_faults (Nat.not_le.mp hnumber)
      exact ⟨fault, by rw [readOctets, hfault]; rfl⟩

/-! ### Addresses as they are written -/

/-- The four bytes of an address. -/
def octetsOf (ip : U32) : List Nat :=
  [ip.toNat / 2 ^ 24, ip.toNat / 2 ^ 16 % 256, ip.toNat / 2 ^ 8 % 256, ip.toNat % 256]

/-- The text begins with decimal numbers with dots in between, which are the bytes of the address. -/
def Writes (q : Text) (ip : U32) : Prop :=
  ∃ (ns : List Text) (rest : Text), q = List.intercalate [46] ns ++ rest ∧
    (∀ c ∈ rest.head?, isDigit c = false) ∧
    (∀ n ∈ ns, n ≠ [] ∧ (∀ c ∈ n, isDigit c = true) ∧ decimal n ≤ 255) ∧ ns.map decimal = octetsOf ip

theorem takeWhile_digits (q : Text) : ∀ c ∈ q.takeWhile isDigit, isDigit c = true := fun _ hc =>
  List.mem_takeWhile_imp hc

theorem dropWhile_digits (q : Text) : ∀ c ∈ (q.dropWhile isDigit).head?, isDigit c = false := by
  intro c hc
  have hhead := List.head?_dropWhile_not isDigit q
  rw [Option.mem_def.mp hc] at hhead
  exact hhead

theorem Octets.digits {left : Nat} {q : Text} (h : Octets (left + 1) q) : q.takeWhile isDigit ≠ [] := fun hds => by
  rw [Octets, octetNumbers_nil hds] at h
  exact absurd h.1 (Nat.succ_ne_zero left).symm

theorem octets_written (left : Nat) (q : Text) (h : Octets (left + 1) q) :
    ∃ (n : Text) (ns : List Text) (rest : Text), q = List.intercalate [46] (n :: ns) ++ rest ∧
      (∀ c ∈ rest.head?, isDigit c = false) ∧
      (∀ m ∈ n :: ns, m ≠ [] ∧ (∀ c ∈ m, isDigit c = true) ∧ decimal m ≤ 255) ∧
      (n :: ns).map decimal = octetNumbers (left + 1) q := by
  induction left generalizing q with
  | zero =>
    have hnumbers : octetNumbers 1 q = [numberAt q] := by
      rw [octetNumbers, if_neg h.digits]
      exact ite_self _
    refine ⟨q.takeWhile isDigit, [], q.dropWhile isDigit, ?_, dropWhile_digits q, ?_, hnumbers.symm⟩
    · rw [List.intercalate_singleton, List.takeWhile_append_dropWhile]
    · rw [List.forall_mem_singleton]
      exact ⟨h.digits, takeWhile_digits q, h.2 _ (numberAt_mem h.digits)⟩
  | succ left ih =>
    by_cases hdot : DotAfter q
    · obtain ⟨n, ns, rest, htail, hrest, hns, hmap⟩ := ih _ ((octets_dot h.digits hdot).mp h)
      refine ⟨q.takeWhile isDigit, n :: ns, rest, ?_, hrest, ?_, ?_⟩
      · rw [List.intercalate_cons_cons, List.append_assoc, List.append_assoc, ← htail, List.singleton_append,
          ← List.eq_cons_of_mem_head? hdot.2, List.takeWhile_append_dropWhile]
      · rw [List.forall_mem_cons]
        exact ⟨⟨h.digits, takeWhile_digits q, hdot.1⟩, hns⟩
      · rw [octetNumbers_dot h.digits hdot, ← hmap]
        rfl
    · exact absurd ((octets_last h.digits hdot).mp h).1 (Nat.succ_ne_zero left)

theorem toNat_shift_or (ip : U32) {v : Nat} (hip : ip.toNat < 2 ^ 24) (hv : v ≤ 255) :
    (ip <<< 8 ||| BitVec.ofNat 32 v).toNat = ip.toNat * 256 + v := by
  have hshift : (ip <<< 8).toNat = ip.toNat <<< 8 := by
    rw [BitVec.toNat_shiftLeft, Nat.shiftLeft_eq]
    exact Nat.mod_eq_of_lt (by omega)
  rw [BitVec.toNat_or, hshift, BitVec.toNat_ofNat, Nat.mod_eq_of_lt (by omega),
    ← Nat.shiftLeft_add_eq_or_of_lt (by omega), Nat.shiftLeft_eq]

/-- Four octets are the bytes of what they are packed into. -/
theorem octetsOf_packed {q : Text} (h : Octets 4 q) : octetsOf (packed 0 (octetNumbers 4 q)) = octetNumbers 4 q := by
  obtain ⟨hlen, hall⟩ := h
  obtain ⟨a, b, c, d, hvs⟩ := List.length_eq_four.mp hlen
  rw [hvs] at hall ⊢
  simp only [List.forall_mem_cons] at hall
  obtain ⟨ha, hb, hc, hd, -⟩ := hall
  have h1 : (packed 0 [a]).toNat = a := by
    have := toNat_shift_or 0 (by decide) ha
    simpa [packed] using this
  have h2 : (packed 0 [a, b]).toNat = a * 256 + b := by
    have := toNat_shift_or (packed 0 [a]) (by omega) hb
    rwa [h1] at this
  have h3 : (packed 0 [a, b, c]).toNat = (a * 256 + b) * 256 + c := by
    have := toNat_shift_or (packed 0 [a, b]) (by omega) hc
    rwa [h2] at this
  have h4 : (packed 0 [a, b, c, d]).toNat = ((a * 256 + b) * 256 + c) * 256 + d := by
    have := toNat_shift_or (packed 0 [a, b, c]) (by omega) hd
    rwa [h3] at this
  rw [octetsOf, h4]
  simp only [List.cons.injEq]
  refine ⟨?_, ?_, ?_, ?_, trivial⟩ <;> omega

theorem writes_packed {q : Text} (h : Octets 4 q) : Writes q (packed 0 (octetNumbers 4 q)) := by
  obtain ⟨n, ns, rest, hq, hrest, hns, hmap⟩ := octets_written 3 q h
  exact ⟨n :: ns, rest, hq, hrest, hns, by rw [hmap, octetsOf_packed h]⟩

/-! ### The search for an address -/

theorem lastIpv4_ok (result : U32) (qs : List Text) (h : ∀ v ∈ ipv4Numbers qs, v ≤ IntMax) :
    ∃ ip, lastIpv4 result qs = .ok ip ∧ (ip = 0 ∨ ip = result ∨ ∃ q ∈ qs, Writes q ip) := by
  induction qs generalizing result with
  | nil => exact ⟨result, rfl, .inr (.inl rfl)⟩
  | cons q qs ih =>
    rw [ipv4Numbers, List.forall_mem_append] at h
    rw [lastIpv4, readOctets_ok 4 0 q h.1, ok_bind]
    by_cases hq : Octets 4 q
    · rw [if_pos hq] at h ⊢
      obtain ⟨ip, hip, hfrom⟩ := ih (packed 0 (octetNumbers 4 q)) h.2
      refine ⟨ip, hip, ?_⟩
      rcases hfrom with hzero | hthis | ⟨q', hmem, hwrites⟩
      · exact .inl hzero
      · exact .inr (.inr ⟨q, List.mem_cons_self, hthis ▸ writes_packed hq⟩)
      · exact .inr (.inr ⟨q', List.mem_cons_of_mem q hmem, hwrites⟩)
    · rw [if_neg hq]
      exact ⟨0, rfl, .inl rfl⟩

theorem lastIpv4_faults (result : U32) (qs : List Text) (h : ∃ v ∈ ipv4Numbers qs, IntMax < v) :
    ∃ fault, lastIpv4 result qs = .error fault := by
  induction qs generalizing result with
  | nil =>
    obtain ⟨v, hv, -⟩ := h
    exact absurd hv List.not_mem_nil
  | cons q qs ih =>
    obtain ⟨v, hv, hover⟩ := h
    by_cases hhere : ∃ w ∈ octetNumbers 4 q, IntMax < w
    · obtain ⟨fault, hfault⟩ := readOctets_faults 4 0 q hhere
      exact ⟨fault, by rw [lastIpv4, hfault]; rfl⟩
    · have hfine : ∀ w ∈ octetNumbers 4 q, w ≤ IntMax := fun w hw =>
        Nat.not_lt.mp fun hlarge => hhere ⟨w, hw, hlarge⟩
      rw [ipv4Numbers, List.mem_append] at hv
      have hlater := hv.resolve_left fun hmem => hhere ⟨v, hmem, hover⟩
      rw [lastIpv4, readOctets_ok 4 0 q hfine, ok_bind]
      by_cases hq : Octets 4 q
      · rw [if_pos hq] at hlater ⊢
        exact ih _ ⟨v, hlater, hover⟩
      · rw [if_neg hq] at hlater
        exact absurd hlater List.not_mem_nil

/-- **The accumulators stay in range, and an address is one that is written**, exactly when none
of the numbers that are come to exceeds `INT_MAX`. -/
theorem values_bounded_iff (text key : Text) (dflt : Int) :
    ((∃ v, configValue (some text) key dflt = .ok v) ∧
      ∃ ip, configIpv4 (some text) key = .ok ip ∧ (ip ≠ 0 → ∃ q ∈ assignments key text, Writes q ip)) ↔
      (∀ q ∈ assignments key text, numberAt q ≤ IntMax) ∧
        ∀ v ∈ ipv4Numbers (assignments key text), v ≤ IntMax := by
  refine and_congr (foldlM_readValue_iff (assignments key text) dflt) ⟨fun h v hv => ?_, fun h => ?_⟩
  · obtain ⟨ip, hip, -⟩ := h
    refine Nat.not_lt.mp fun hlarge => ?_
    obtain ⟨fault, hfault⟩ := lastIpv4_faults 0 (assignments key text) ⟨v, hv, hlarge⟩
    rw [configIpv4, hfault] at hip
    cases hip
  · obtain ⟨ip, hip, hfrom⟩ := lastIpv4_ok 0 (assignments key text) h
    exact ⟨ip, hip, fun hne => (hfrom.resolve_left hne).resolve_left hne⟩

/-- The number of the first octet is one that no `int` holds. -/
theorem long_octet_overflows :
    ¬∀ text key : Text, text.length < ConfigFileCapacity →
      (∃ v, configValue (some text) key 0 = .ok v) ∧
        ∃ ip, configIpv4 (some text) key = .ok ip ∧ (ip ≠ 0 → ∃ q ∈ assignments key text, Writes q ip) := by
  intro h
  obtain ⟨-, ip, hip, -⟩ := h (ascii "probe = 4294967297.0.0.1") (ascii "probe") (by decide)
  have hoverflow : configIpv4 (some (ascii "probe = 4294967297.0.0.1")) (ascii "probe") =
      .error (.index 4294967290 2147483648) := rfl
  rw [hoverflow] at hip
  cases hip

end SysZerotier.Config.Values
