import SysZerotier.Mitm.Lifetimes
import SysZerotier.Library.Guard

/-! The configuration for the proxy buffer (`BuildSplatoon2ProxyConfig` in
`source/mitm/bsd_shim.cpp`).

Real bsd works inside a transfer memory of fixed size, and needs a number of pages for the
buffers of a socket times an efficiency that the client chooses. The sizes are 32-bit
values of the client too, so the computation is read a second time with every operation
checked. It never leaves its types, and the result is the configuration with the largest
efficiency that fits (`proxy_config_fits`). -/
namespace SysZerotier.Mitm.ProxyConfig
open Net Library

/-- The four initial sizes together, in whole pages. -/
def rounded (requested : BsdServiceConfig) : Nat :=
  (requested.tcpTxBufSize.toNat + requested.tcpRxBufSize.toNat + requested.udpTxBufSize.toNat +
    requested.udpRxBufSize.toNat + 4095) / 4096 * 4096

/-- The cap on the efficiency, a 64-bit value. -/
def capChecked (maximumEfficiency asked : Nat) : Guarded Nat :=
  if maximumEfficiency < asked then Guarded.narrow maximumEfficiency (2 ^ 32) else .ok asked

/-- `buildSplatoon2ProxyConfig` with its operations checked. -/
def buildChecked (requested : BsdServiceConfig) : Guarded (Option (BsdServiceConfig × U64)) :=
  if requested.sbEfficiency = 0 then .ok none
  else do
    let sum ← Guarded.add requested.tcpTxBufSize.toNat requested.tcpRxBufSize.toNat (2 ^ 64)
    let sum ← Guarded.add sum requested.udpTxBufSize.toNat (2 ^ 64)
    let sum ← Guarded.add sum requested.udpRxBufSize.toNat (2 ^ 64)
    let raised ← Guarded.add sum (BsdWorkPage - 1).toNat (2 ^ 64)
    let aligned := (BitVec.ofNat 64 raised &&& ~~~(BsdWorkPage - 1)).toNat
    if aligned < BsdWorkPage.toNat ∨ Splatoon2ProxyTmemSize.toNat < aligned then return none
    else
      let maximumEfficiency ← Guarded.div Splatoon2ProxyTmemSize.toNat aligned
      let efficiency ← capChecked maximumEfficiency requested.sbEfficiency.toNat
      if efficiency = 0 then return none
      else
        let work ← Guarded.mul aligned efficiency (2 ^ 64)
        if Splatoon2ProxyTmemSize.toNat < work then return none
        else
          return some ({ requested with
            tcpTxBufMaxSize := requested.tcpTxBufSize
            tcpRxBufMaxSize := requested.tcpRxBufSize
            sbEfficiency := BitVec.ofNat 32 efficiency }, BitVec.ofNat 64 work)

/-! ### What is built -/

/-- Some efficiency is asked for, and a buffer of that many pages fits. -/
def InRange (requested : BsdServiceConfig) : Prop :=
  requested.sbEfficiency ≠ 0 ∧ 4096 ≤ rounded requested ∧ rounded requested ≤ 592 * 1024

instance (requested : BsdServiceConfig) : Decidable (InRange requested) := inferInstanceAs (Decidable (_ ∧ _))

/-- The efficiency that is asked for, as far as it fits. -/
def efficiency (requested : BsdServiceConfig) : Nat :=
  min requested.sbEfficiency.toNat (592 * 1024 / rounded requested)

/-- The configuration with that efficiency, and its work size. -/
def proxyOf (requested : BsdServiceConfig) : BsdServiceConfig × U64 :=
  ({ requested with
      tcpTxBufMaxSize := requested.tcpTxBufSize
      tcpRxBufMaxSize := requested.tcpRxBufSize
      sbEfficiency := BitVec.ofNat 32 (efficiency requested) },
    BitVec.ofNat 64 (rounded requested * efficiency requested))

theorem and_high (x : U64) (n : Nat) : x &&& (BitVec.allOnes 64 >>> n) <<< n = (x >>> n) <<< n := by
  ext i hi
  simp only [BitVec.getElem_and, BitVec.getElem_shiftLeft, BitVec.getElem_ushiftRight, BitVec.getLsbD_allOnes]
  by_cases h : i < n
  · simp [h]
  · have hback : n + (i - n) = i := by omega
    simp [h, hback, hi]

/-- Clearing the bits below a page rounds down to one. -/
theorem toNat_mask (x : U64) : (x &&& ~~~(BsdWorkPage - 1)).toNat = x.toNat / 4096 * 4096 := by
  have hshift : x &&& ~~~(BsdWorkPage - 1) = (x >>> 12) <<< 12 := and_high x 12
  rw [hshift, BitVec.toNat_shiftLeft, BitVec.toNat_ushiftRight, Nat.shiftLeft_eq, Nat.shiftRight_eq_div_pow]
  exact Nat.mod_eq_of_lt (by have := x.isLt; omega)

section Requested
variable (requested : BsdServiceConfig)

/-- What is below the page mask fits easily. -/
theorem sum_lt :
    requested.tcpTxBufSize.toNat + requested.tcpRxBufSize.toNat + requested.udpTxBufSize.toNat +
      requested.udpRxBufSize.toNat + 4095 < 2 ^ 35 := by
  have htx := requested.tcpTxBufSize.isLt
  have hrx := requested.tcpRxBufSize.isLt
  have hutx := requested.udpTxBufSize.isLt
  have hurx := requested.udpRxBufSize.isLt
  omega

theorem toNat_aligned :
    ((requested.tcpTxBufSize.setWidth 64 + requested.tcpRxBufSize.setWidth 64 + requested.udpTxBufSize.setWidth 64 +
      requested.udpRxBufSize.setWidth 64 + (BsdWorkPage - 1) : U64) &&& ~~~(BsdWorkPage - 1)).toNat =
      rounded requested := by
  have hsum := sum_lt requested
  have hpage : (BsdWorkPage - 1).toNat = 4095 := by decide
  rw [toNat_mask]
  simp only [BitVec.toNat_add, BitVec.toNat_setWidth, hpage]
  rw [rounded]
  omega

/-- An efficiency that fits is at least one, and no more than the work area has pages. -/
theorem efficiency_bounds (h : InRange requested) :
    0 < efficiency requested ∧ efficiency requested ≤ 148 ∧
      rounded requested * efficiency requested ≤ 592 * 1024 := by
  obtain ⟨hne, hpage, hsize⟩ := h
  have hpos : 0 < requested.sbEfficiency.toNat := Nat.pos_of_ne_zero fun h0 => hne (BitVec.eq_of_toNat_eq h0)
  have hquotient : 0 < 592 * 1024 / rounded requested := Nat.div_pos hsize (by omega)
  have hmax : 592 * 1024 / rounded requested ≤ 592 * 1024 / 4096 := Nat.div_le_div_left hpage (by decide)
  have hmul : rounded requested * (592 * 1024 / rounded requested) ≤ 592 * 1024 := Nat.mul_div_le _ _
  refine ⟨Nat.lt_min.mpr ⟨hpos, hquotient⟩, Nat.le_trans (Nat.min_le_right _ _) hmax, ?_⟩
  exact Nat.le_trans (Nat.mul_le_mul_left _ (Nat.min_le_right _ _)) hmul

theorem toNat_page : BsdWorkPage.toNat = 4096 := by decide

theorem toNat_tmem : Splatoon2ProxyTmemSize.toNat = 592 * 1024 := by decide

/-- The cap is applied in 32 bits. -/
theorem capped_efficiency (h : InRange requested) {aligned : U64} (ha : aligned.toNat = rounded requested) :
    (if Splatoon2ProxyTmemSize / aligned < requested.sbEfficiency.setWidth 64 then
        (Splatoon2ProxyTmemSize / aligned).setWidth 32
      else requested.sbEfficiency) = BitVec.ofNat 32 (efficiency requested) := by
  have hquotient : (Splatoon2ProxyTmemSize / aligned).toNat = 592 * 1024 / rounded requested := by
    rw [BitVec.toNat_udiv, toNat_tmem, ha]
  have hmax : 592 * 1024 / rounded requested ≤ 592 * 1024 / 4096 := Nat.div_le_div_left h.2.1 (by decide)
  have heff := requested.sbEfficiency.isLt
  refine BitVec.eq_of_toNat_eq ?_
  rw [BitVec.toNat_ofNat, efficiency]
  by_cases hcap : 592 * 1024 / rounded requested < requested.sbEfficiency.toNat
  · have hlt : Splatoon2ProxyTmemSize / aligned < requested.sbEfficiency.setWidth 64 := by
      rw [BitVec.lt_def, hquotient, BitVec.toNat_setWidth_of_le (by decide)]
      exact hcap
    rw [if_pos hlt, BitVec.toNat_setWidth, hquotient, Nat.min_eq_right hcap.le]
  · have hle : ¬Splatoon2ProxyTmemSize / aligned < requested.sbEfficiency.setWidth 64 := by
      rw [BitVec.lt_def, hquotient, BitVec.toNat_setWidth_of_le (by decide)]
      exact hcap
    rw [if_neg hle, Nat.min_eq_left (Nat.not_lt.mp hcap), Nat.mod_eq_of_lt heff]

/-- What is built, and when. -/
theorem build_eq :
    buildSplatoon2ProxyConfig requested = if InRange requested then some (proxyOf requested) else none := by
  have ha := toNat_aligned requested
  rw [buildSplatoon2ProxyConfig]
  dsimp only
  generalize (requested.tcpTxBufSize.setWidth 64 + requested.tcpRxBufSize.setWidth 64 +
    requested.udpTxBufSize.setWidth 64 + requested.udpRxBufSize.setWidth 64 + (BsdWorkPage - 1) : U64) &&&
      ~~~(BsdWorkPage - 1) = aligned at ha ⊢
  by_cases hzero : requested.sbEfficiency = 0
  · rw [if_pos hzero, if_neg (fun h => h.1 hzero)]
  · rw [if_neg hzero]
    by_cases hrange : 4096 ≤ rounded requested ∧ rounded requested ≤ 592 * 1024
    · have h : InRange requested := ⟨hzero, hrange⟩
      obtain ⟨hpos, hmax, hwork⟩ := efficiency_bounds requested h
      have htoNat : (BitVec.ofNat 32 (efficiency requested)).toNat = efficiency requested :=
        Nat.mod_eq_of_lt (by omega)
      have hproduct : aligned * (BitVec.ofNat 32 (efficiency requested)).setWidth 64 =
          BitVec.ofNat 64 (rounded requested * efficiency requested) := by
        refine BitVec.eq_of_toNat_eq ?_
        rw [BitVec.toNat_mul, ha, BitVec.toNat_setWidth_of_le (by decide), htoNat, BitVec.toNat_ofNat]
      have hfits : ¬(aligned < BsdWorkPage ∨ Splatoon2ProxyTmemSize < aligned) := by
        rw [BitVec.lt_def, BitVec.lt_def, toNat_page, toNat_tmem, ha]
        omega
      have hok : ¬(BitVec.ofNat 32 (efficiency requested) = 0 ∨
          Splatoon2ProxyTmemSize < BitVec.ofNat 64 (rounded requested * efficiency requested)) := by
        have hne : BitVec.ofNat 32 (efficiency requested) ≠ 0 := fun h0 => by
          rw [h0] at htoNat
          exact absurd htoNat hpos.ne
        rw [BitVec.lt_def, toNat_tmem, BitVec.toNat_ofNat, Nat.mod_eq_of_lt (by omega)]
        exact fun hor => hor.elim hne (Nat.not_lt.mpr hwork)
      rw [if_neg hfits, capped_efficiency requested h ha, hproduct, if_neg hok, if_pos h]
      rfl
    · have hno : aligned < BsdWorkPage ∨ Splatoon2ProxyTmemSize < aligned := by
        rw [BitVec.lt_def, BitVec.lt_def, toNat_page, toNat_tmem, ha]
        omega
      rw [if_pos hno, if_neg (fun h => hrange h.2)]

theorem capChecked_ok (h : InRange requested) :
    capChecked (592 * 1024 / rounded requested) requested.sbEfficiency.toNat = .ok (efficiency requested) := by
  have hmax : 592 * 1024 / rounded requested ≤ 592 * 1024 / 4096 := Nat.div_le_div_left h.2.1 (by decide)
  rw [capChecked, efficiency]
  split
  · rename_i hcap
    rw [Guarded.narrow_ok (by omega), Nat.min_eq_right hcap.le]
  · rename_i hcap
    rw [Nat.min_eq_left (Nat.not_lt.mp hcap)]

/-- No operation leaves its type. -/
theorem buildChecked_eq : buildChecked requested = .ok (buildSplatoon2ProxyConfig requested) := by
  rw [build_eq]
  have hsum := sum_lt requested
  have hpage : (BsdWorkPage - 1).toNat = 4095 := by decide
  have ha : (BitVec.ofNat 64 (requested.tcpTxBufSize.toNat + requested.tcpRxBufSize.toNat +
      requested.udpTxBufSize.toNat + requested.udpRxBufSize.toNat + 4095) &&& ~~~(BsdWorkPage - 1)).toNat =
      rounded requested := by
    rw [toNat_mask, BitVec.toNat_ofNat, Nat.mod_eq_of_lt (by omega)]
    rfl
  rw [buildChecked]
  by_cases hzero : requested.sbEfficiency = 0
  · rw [if_pos hzero, if_neg (fun h => h.1 hzero)]
  · rw [if_neg hzero, Guarded.add_ok (by omega), ok_bind, Guarded.add_ok (by omega), ok_bind,
      Guarded.add_ok (by omega), ok_bind, hpage, Guarded.add_ok (by omega), ok_bind]
    dsimp only
    rw [ha, toNat_page, toNat_tmem]
    by_cases hrange : 4096 ≤ rounded requested ∧ rounded requested ≤ 592 * 1024
    · have h : InRange requested := ⟨hzero, hrange⟩
      obtain ⟨hpos, -, hwork⟩ := efficiency_bounds requested h
      rw [if_neg (by omega), Guarded.div_ok (by omega), ok_bind, capChecked_ok requested h, ok_bind,
        if_neg hpos.ne', Guarded.mul_ok (by omega), ok_bind, if_neg (Nat.not_lt.mpr hwork), if_pos h]
      rfl
    · rw [if_pos (by omega), if_neg (fun h => hrange h.2)]
      rfl

/-- **The proxy work area always fits**: no operation overflows or divides by zero, a configuration
is built exactly for an efficiency and sizes in range, and it has the largest efficiency for which
its work size fits. -/
theorem proxy_config_fits :
    buildChecked requested = .ok (buildSplatoon2ProxyConfig requested) ∧
      ((buildSplatoon2ProxyConfig requested).isSome ↔
        requested.sbEfficiency ≠ 0 ∧ 4096 ≤ rounded requested ∧ rounded requested ≤ 592 * 1024) ∧
      ∀ proxy work, buildSplatoon2ProxyConfig requested = some (proxy, work) →
        work.toNat = proxy.sbEfficiency.toNat * rounded requested ∧ work.toNat ≤ 592 * 1024 ∧
        IsGreatest {e : Nat | e ≤ requested.sbEfficiency.toNat ∧ e * rounded requested ≤ 592 * 1024}
          proxy.sbEfficiency.toNat ∧
        proxy = { requested with
          tcpTxBufMaxSize := requested.tcpTxBufSize
          tcpRxBufMaxSize := requested.tcpRxBufSize
          sbEfficiency := proxy.sbEfficiency } := by
  refine ⟨buildChecked_eq requested, ?_, fun proxy work h => ?_⟩
  · rw [build_eq]
    split
    · rename_i h
      exact iff_of_true rfl h
    · rename_i h
      exact iff_of_false (by decide) h
  · rw [build_eq] at h
    split at h
    · rename_i hrange
      obtain ⟨hpos, hmax, hwork⟩ := efficiency_bounds requested hrange
      cases h
      have heff : (BitVec.ofNat 32 (efficiency requested)).toNat = efficiency requested :=
        Nat.mod_eq_of_lt (by omega)
      have hsize : (BitVec.ofNat 64 (rounded requested * efficiency requested)).toNat =
          rounded requested * efficiency requested := Nat.mod_eq_of_lt (by omega)
      dsimp only [proxyOf]
      rw [heff, hsize]
      refine ⟨Nat.mul_comm _ _, hwork, ⟨⟨Nat.min_le_left _ _, by rw [Nat.mul_comm]; exact hwork⟩, ?_⟩, rfl⟩
      intro e he
      exact Nat.le_min.mpr ⟨he.1, (Nat.le_div_iff_mul_le (by have := hrange.2.1; omega)).mpr he.2⟩
    · cases h

end Requested

end SysZerotier.Mitm.ProxyConfig
