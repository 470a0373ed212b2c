import SysZerotier.Port.StateObjects

/-! Numbers in the reports of the port (`source/zt_port.cpp`).

The reports are formatted into buffers on the stack, so of each conversion it matters how
long its text can get, and that it is of one line. `Prints` says both, and adds up along
a format. -/
namespace SysZerotier.Port
open Net Library Config

/-- `%u` and `%llu` -/
def dec (n : Nat) : Text := (Nat.toDigits 10 n).map fun c => BitVec.ofNat 8 c.toNat

/-- `%d` and `%lld` -/
def signed (v : Int) : Text := if v < 0 then 45 :: dec v.natAbs else dec v.toNat

/-- `%u.%u.%u.%u` -/
def dotted (ip : U32) : Text :=
  let dot : U8 := 46
  dec (ip >>> 24 &&& 0xFF).toNat ++ dot :: (dec (ip >>> 16 &&& 0xFF).toNat ++ dot ::
    (dec (ip >>> 8 &&& 0xFF).toNat ++ dot :: dec (ip &&& 0xFF).toNat))

/-- At most `n` characters, none of them for control. -/
def Prints (n : Nat) (t : Text) : Prop := t.length ≤ n ∧ ∀ c ∈ t, 32 ≤ c.toNat

instance (n : Nat) (t : Text) : Decidable (Prints n t) :=
  decidable_of_iff ((t.length.ble n && t.all fun c => Nat.ble 32 c.toNat) = true) (by simp [Prints])

theorem Prints.append {n m : Nat} {t u : Text} (h : Prints n t) (h' : Prints m u) : Prints (n + m) (t ++ u) := by
  refine ⟨?_, fun c hc => ?_⟩
  · rw [List.length_append]
    exact Nat.add_le_add h.1 h'.1
  · rcases List.mem_append.mp hc with hc | hc
    · exact h.2 c hc
    · exact h'.2 c hc

theorem Prints.cons {n : Nat} {c : U8} {t : Text} (hc : 32 ≤ c.toNat) (h : Prints n t) : Prints (n + 1) (c :: t) :=
  ⟨Nat.succ_le_succ h.1, List.forall_mem_cons.mpr ⟨hc, h.2⟩⟩

theorem Prints.mono {n m : Nat} {t : Text} (h : Prints n t) (hle : n ≤ m) : Prints m t := ⟨h.1.trans hle, h.2⟩

theorem Prints.ite {n : Nat} {b : Bool} {t u : Text} (h : Prints n t) (h' : Prints n u) :
    Prints n (if b then t else u) := by
  cases b
  · exact h'
  · exact h

theorem Prints.not_mem {n : Nat} {t : Text} (h : Prints n t) {c : U8} (hc : c.toNat < 32) : c ∉ t := fun hmem => by
  have := h.2 c hmem
  omega

/-- The characters of a number. -/
theorem dec_digit {n : Nat} {c : U8} (hc : c ∈ dec n) : 48 ≤ c.toNat ∧ c.toNat ≤ 57 := by
  obtain ⟨d, hd, rfl⟩ := List.mem_map.mp hc
  have hdigit := Nat.isDigit_of_mem_toDigits (by decide) (by decide) hd
  simp only [Char.isDigit, Bool.and_eq_true, decide_eq_true_eq] at hdigit
  have hlow : 48 ≤ d.toNat := hdigit.1
  have hhigh : d.toNat ≤ 57 := hdigit.2
  rw [BitVec.toNat_ofNat, Nat.mod_eq_of_lt (by omega)]
  exact ⟨hlow, hhigh⟩

theorem dec_ne_nil (n : Nat) : dec n ≠ [] := fun h => Nat.toDigits_ne_nil (List.map_eq_nil_iff.mp h)

theorem dec_prints {n k : Nat} (hk : 0 < k) (h : n < 10 ^ k) : Prints k (dec n) := by
  refine ⟨?_, fun c hc => ?_⟩
  · rw [dec, List.length_map]
    exact (Nat.length_toDigits_le_iff (by decide) hk).mpr h
  · have := dec_digit hc
    omega

theorem dec_prints16 (v : U16) : Prints 5 (dec v.toNat) := dec_prints (by decide) (by have := v.isLt; omega)

theorem dec_prints32 (v : U32) : Prints 10 (dec v.toNat) := dec_prints (by decide) (by have := v.isLt; omega)

theorem dec_prints64 (v : U64) : Prints 20 (dec v.toNat) := dec_prints (by decide) (by have := v.isLt; omega)

theorem signed_prints {v : Int} {k : Nat} (hk : 0 < k) (h : v.natAbs < 10 ^ k) : Prints (k + 1) (signed v) := by
  rw [signed]
  split
  · exact (dec_prints hk h).cons (by decide)
  · exact (dec_prints hk (by omega)).mono (Nat.le_succ k)

theorem signed_prints32 (v : U32) : Prints 11 (signed v.toInt) :=
  signed_prints (by decide) (by have := v.toInt_lt; have := v.le_toInt; omega)

theorem octet_lt (v : U32) : (v &&& 0xFF).toNat < 256 := by
  rw [BitVec.toNat_and]
  exact Nat.lt_of_le_of_lt Nat.and_le_right (by decide)

theorem octet_prints (v : U32) : Prints 3 (dec (v &&& 0xFF).toNat) :=
  dec_prints (by decide) (by have := octet_lt v; omega)

theorem dotted_prints (ip : U32) : Prints 15 (dotted ip) := by
  have hdot : 32 ≤ (46 : U8).toNat := by decide
  exact (octet_prints _).append (.cons hdot ((octet_prints _).append (.cons hdot ((octet_prints _).append
    (.cons hdot (octet_prints ip))))))

/-- The characters of a number in hexadecimal. -/
theorem hexText_digit {width : Nat} {v : U64} {c : U8} (hc : c ∈ hexText width v) : ∃ d < 16, c = hexDigit d := by
  obtain ⟨d, hd, rfl⟩ := List.mem_map.mp hc
  refine ⟨d, ?_, rfl⟩
  rcases List.mem_append.mp (List.mem_reverse.mp hd) with hd | hd
  · exact Nat.digits_lt_base (by decide) hd
  · rw [List.eq_of_mem_replicate hd]
    decide

theorem hexText_prints {width : Nat} (hw : width ≤ 16) (v : U64) : Prints 16 (hexText width v) := by
  refine ⟨hexText_length hw v, fun c hc => ?_⟩
  obtain ⟨d, hd, rfl⟩ := hexText_digit hc
  exact (by decide : ∀ d < 16, 32 ≤ (hexDigit d).toNat) d hd

end SysZerotier.Port
