import SysZerotier.Config.Values

/-! Network ids, as the sysmodule reads them and as the overlay checks them
(`source/zt_port.cpp` and `IsHexNetworkId` in `overlay/source/main.cpp`).

The three scanners of the sysmodule read sixteen digits and stop; the overlay looks at the
whole value. They agree on an entry of the catalog exactly when its value is not an id with
something after it (`entry_accepted_iff`). -/
namespace SysZerotier.Config.NetworkIds
open Net Library Values

def isHexDigit (c : U8) : Bool := 48 ≤ c && c ≤ 57 || 97 ≤ c && c ≤ 102 || 65 ≤ c && c ≤ 70

/-- What the overlay lists, and lets be entered. -/
def isHexNetworkId (value : Text) : Bool :=
  value.length == 16 && value.all isHexDigit && value.any fun c => c != 48

/-- The value of a hexadecimal digit. -/
def hexValue (c : U8) : Nat := if c ≤ 57 then c.toNat - 48 else if 97 ≤ c then c.toNat - 87 else c.toNat - 55

/-- The number that hexadecimal digits denote, after the number `n`. -/
def denotesFrom (n : Nat) (ds : Text) : Nat := ds.foldl (fun n c => n * 16 + hexValue c) n

def denotes (ds : Text) : Nat := denotesFrom 0 ds

theorem hexDigit_eq (c : U8) :
    hexDigit c = if isHexDigit c then some (BitVec.ofNat 64 (hexValue c)) else none := by
  revert c
  decide +kernel

theorem hexValue_lt {c : U8} (h : isHexDigit c = true) : hexValue c < 16 := by
  revert c
  decide +kernel

theorem hexValue_eq_zero {c : U8} (h : isHexDigit c = true) : hexValue c = 0 ↔ c = 48 := by
  revert c
  decide +kernel

/-! ### What sixteen digits denote -/

@[simp] theorem denotesFrom_nil (n : Nat) : denotesFrom n [] = n := rfl

@[simp] theorem denotesFrom_cons (n : Nat) (c : U8) (ds : Text) :
    denotesFrom n (c :: ds) = denotesFrom (n * 16 + hexValue c) ds := by
  simp only [denotesFrom, List.foldl_cons]

theorem denotesFrom_lt {k n : Nat} (hn : n < 16 ^ k) {ds : Text} (hds : ds.all isHexDigit = true) :
    denotesFrom n ds < 16 ^ (k + ds.length) := by
  induction ds generalizing k n with
  | nil => exact hn
  | cons c ds ih =>
    obtain ⟨hc, hds⟩ := Bool.and_eq_true_iff.mp hds
    have hlt := hexValue_lt hc
    have hnext : n * 16 + hexValue c < 16 ^ (k + 1) := by
      rw [pow_succ]
      omega
    rw [denotesFrom_cons, List.length_cons, Nat.add_comm ds.length, ← Nat.add_assoc]
    exact ih hnext hds

theorem denotesFrom_eq_zero {n : Nat} {ds : Text} (hds : ds.all isHexDigit = true) :
    denotesFrom n ds = 0 ↔ n = 0 ∧ ∀ c ∈ ds, c = 48 := by
  induction ds generalizing n with
  | nil => simp
  | cons c ds ih =>
    obtain ⟨hc, hds⟩ := Bool.and_eq_true_iff.mp hds
    rw [denotesFrom_cons, ih hds, List.forall_mem_cons, ← hexValue_eq_zero hc, ← and_assoc]
    exact and_congr_left fun _ => by omega

/-- Shifting digits in is computing the number, as long as it fits. -/
theorem foldl_shift {k : Nat} {v : U64} {ds : Text} (hv : v.toNat < 16 ^ k) (hk : k + ds.length ≤ 16)
    (hds : ds.all isHexDigit = true) :
    ((ds.map fun c => BitVec.ofNat 64 (hexValue c)).foldl (fun (v d : U64) => v <<< 4 ||| d) v).toNat =
      denotesFrom v.toNat ds := by
  induction ds generalizing k v with
  | nil => rfl
  | cons c ds ih =>
    obtain ⟨hc, hds⟩ := Bool.and_eq_true_iff.mp hds
    rw [List.length_cons] at hk
    have hlt := hexValue_lt hc
    have hpow : 16 ^ (k + 1) ≤ 16 ^ 16 := Nat.pow_le_pow_right (by decide) (by omega)
    have hnext : v.toNat * 16 + hexValue c < 16 ^ (k + 1) := by
      rw [pow_succ]
      omega
    have hstep : (v <<< 4 ||| BitVec.ofNat 64 (hexValue c)).toNat = v.toNat * 16 + hexValue c := by
      have hshift : (v <<< 4).toNat = v.toNat <<< 4 := by
        rw [BitVec.toNat_shiftLeft, Nat.shiftLeft_eq]
        exact Nat.mod_eq_of_lt (by omega)
      rw [BitVec.toNat_or, hshift, BitVec.toNat_ofNat, Nat.mod_eq_of_lt (by omega),
        ← Nat.shiftLeft_add_eq_or_of_lt (by omega), Nat.shiftLeft_eq]
    rw [List.map_cons, List.foldl_cons, denotesFrom_cons, ih (by rw [hstep]; exact hnext) (by omega) hds, hstep]

theorem hexDigits_eq (max : Nat) {q : Text} (h : (q.take max).all isHexDigit = true) :
    hexDigits max q = (q.take max).map fun c => BitVec.ofNat 64 (hexValue c) := by
  induction max generalizing q with
  | zero => rfl
  | succ max ih =>
    cases q with
    | nil => rfl
    | cons c q =>
      obtain ⟨hc, hq⟩ := Bool.and_eq_true_iff.mp h
      rw [hexDigits, hexDigit_eq, if_pos hc, List.take_succ_cons, List.map_cons, ← ih hq]

/-- Where a character is no digit, fewer are read. -/
theorem hexDigits_short (max : Nat) {q : Text} (h : (q.take max).all isHexDigit = false) :
    (hexDigits max q).length < max := by
  induction max generalizing q with
  | zero => cases h
  | succ max ih =>
    cases q with
    | nil => cases h
    | cons c q =>
      rw [hexDigits, hexDigit_eq]
      cases hc : isHexDigit c with
      | false => exact Nat.succ_pos max
      | true =>
        rw [List.take_succ_cons, List.all_cons, hc, Bool.true_and] at h
        exact Nat.succ_lt_succ (ih h)

/-- What the sysmodule reads is what the overlay checks, of the first sixteen characters. -/
theorem networkId_eq (q : Text) :
    networkId q =
      if isHexNetworkId (q.take 16) then some (BitVec.ofNat 64 (denotes (q.take 16))) else none := by
  unfold networkId isHexNetworkId
  cases hall : (q.take 16).all isHexDigit with
  | false =>
    have hshort := hexDigits_short 16 hall
    rw [if_neg (fun h => absurd h.1 hshort.ne), Bool.and_false, Bool.false_and]
    rfl
  | true =>
    have hlen : (q.take 16).length ≤ 16 := List.length_take_le 16 q
    have hfold := foldl_shift (k := 0) (v := 0) (by decide) (by omega) hall
    have hlt := denotesFrom_lt (k := 0) (n := 0) (by decide) hall
    have hpow : 16 ^ (0 + (q.take 16).length) ≤ 16 ^ 16 := Nat.pow_le_pow_right (by decide) (by omega)
    rw [hexDigits_eq 16 hall]
    dsimp only
    generalize ((q.take 16).map fun c => BitVec.ofNat 64 (hexValue c)).foldl
      (fun (v d : U64) => v <<< 4 ||| d) 0 = v at hfold ⊢
    have hv : v = BitVec.ofNat 64 (denotes (q.take 16)) := by
      refine BitVec.eq_of_toNat_eq ?_
      rw [BitVec.toNat_ofNat, hfold]
      exact (Nat.mod_eq_of_lt (Nat.lt_of_lt_of_le hlt hpow)).symm
    have hzero : v ≠ 0 ↔ (q.take 16).any (fun c => c != 48) = true := by
      have htoNat : v = 0 ↔ v.toNat = 0 := ⟨fun h => congrArg BitVec.toNat h, fun h => BitVec.eq_of_toNat_eq h⟩
      have hall48 : v.toNat = 0 ↔ ∀ c ∈ q.take 16, c = 48 := by
        rw [hfold, denotesFrom_eq_zero hall]
        exact and_iff_right rfl
      rw [ne_eq, htoNat, hall48, List.any_eq_true]
      simp only [bne_iff_ne, not_forall, exists_prop, ne_eq]
    rw [List.length_map, hv.symm, Bool.and_true]
    simp only [hzero, Bool.and_eq_true, beq_iff_eq]

/-! ### An entry of the catalog -/

/-- A saved network: the first section of its name, the first `nwid` assignment there, and its value
`v` with blanks around it. -/
structure Saved (text : Text) where
  name : Text
  v : Text
  blanks : Text
  before : List Text
  header : Text
  between : List Text
  line : Text
  after : List Text
  lines : linesOf text = before ++ header :: (between ++ line :: after)
  headed : isHeader (skipBlanks header) = true
  named : sectionName (skipBlanks header) = some name
  first : ∀ l ∈ before, isHeader (skipBlanks l) = true → sectionName (skipBlanks l) ≠ some name
  inSection : ∀ l ∈ between, isHeader (skipBlanks l) = false ∧ valueOf (ascii "nwid") l = none
  value : valueOf (ascii "nwid") line = some (v ++ blanks)
  blank : ∀ c ∈ blanks, isBlank c = true ∨ c = 13

/-- A saved network whose name is one of the catalog's, the only one with a valid id. -/
structure Entry (text : Text) extends Saved text where
  usable : 0 < name.length ∧ name.length < SelectedCapacity ∧ name ≠ ascii "sys-zerotier"
  only : ∀ l ∈ before ++ after, nwidOf (skipBlanks l) = none

/-- What the overlay makes of a value. -/
def overlayId (v : Text) : Option U64 :=
  if isHexNetworkId v then some (BitVec.ofNat 64 (denotes v)) else none

/-- A comment has no id. -/
theorem nwidOf_eq (line : Text) : nwidOf (skipBlanks line) = (valueOf (ascii "nwid") line).bind networkId := by
  cases hc : commented (skipBlanks line) with
  | false =>
    rw [valueOf_uncommented _ hc]
    rfl
  | true =>
    have hnone : nwidOf (skipBlanks line) = none := by
      cases hv : nwidOf (skipBlanks line) with
      | none => rfl
      | some v => exact absurd (hc.symm.trans (nwidOf_line hv).2) (by decide)
    rw [hnone, valueOf, if_pos hc]
    rfl

/-- The last valid id of all lines. -/
theorem parseNwid_lines (text : Text) :
    parseNwid text false = (linesOf text).foldl (fun found line => (nwidOf (skipBlanks line)).or found) none := by
  rw [parseNwid_eq, assignments, List.foldl_filterMap]
  congr 1
  funext found line
  rw [nwidOf_eq]
  cases valueOf (ascii "nwid") line <;> rfl

theorem foldl_nwidOf_none {ls : List Text} (h : ∀ l ∈ ls, nwidOf (skipBlanks l) = none) (found : Option U64) :
    ls.foldl (fun found line => (nwidOf (skipBlanks line)).or found) found = found := by
  induction ls with
  | nil => rfl
  | cons l ls ih =>
    obtain ⟨hl, hls⟩ := List.forall_mem_cons.mp h
    rw [List.foldl_cons, hl, Option.none_or, ih hls]

/-- Without a valid id a line changes the section at most. -/
theorem readLine_none (nameLen : Nat) (s : SavedNetworks) {line : Text} (h : nwidOf (skipBlanks line) = none) :
    ∃ current usable, s.readLine nameLen line = { s with current, usable } := by
  unfold SavedNetworks.readLine
  dsimp only
  rw [h]
  split
  · split
    · split
      · exact ⟨_, _, rfl⟩
      · exact ⟨s.current, false, rfl⟩
    · exact ⟨s.current, false, rfl⟩
  · exact ⟨s.current, s.usable, by split <;> rfl⟩

theorem foldl_readLine_none (nameLen : Nat) (ls : List Text) (h : ∀ l ∈ ls, nwidOf (skipBlanks l) = none)
    (s : SavedNetworks) :
    ∃ current usable, ls.foldl (SavedNetworks.readLine nameLen) s = { s with current, usable } := by
  induction ls generalizing s with
  | nil => exact ⟨s.current, s.usable, rfl⟩
  | cons l ls ih =>
    obtain ⟨hl, hls⟩ := List.forall_mem_cons.mp h
    obtain ⟨current, usable, hstep⟩ := readLine_none nameLen s hl
    obtain ⟨current', usable', hrest⟩ := ih hls { s with current, usable }
    exact ⟨current', usable', by rw [List.foldl_cons, hstep, hrest]⟩

namespace Saved
variable {text : Text} (e : Saved text)

/-- The blanks after the value do not matter. -/
theorem networkId_value : networkId (e.v ++ e.blanks) = networkId e.v := by
  refine networkId_append e.v fun c hc => ?_
  rcases e.blank c (List.mem_of_mem_head? hc) with hblank | hcr
  · rcases Bool.or_eq_true_iff.mp hblank with hspace | htab
    · rw [eq_of_beq hspace]
      rfl
    · rw [eq_of_beq htab]
      rfl
  · rw [hcr]
    rfl

/-- No earlier section is taken for the one of this name. -/
theorem savedNetworkIn_before (ls rest : List Text)
    (h : ∀ l ∈ ls, isHeader (skipBlanks l) = true → sectionName (skipBlanks l) ≠ some e.name) :
    savedNetworkIn e.name false (ls ++ rest) = savedNetworkIn e.name false rest := by
  induction ls with
  | nil => rfl
  | cons l ls ih =>
    obtain ⟨hl, hls⟩ := List.forall_mem_cons.mp h
    rw [List.cons_append, savedNetworkIn]
    split
    · rename_i hheader
      rw [beq_false_of_ne (hl hheader), ih hls]
    · rw [Bool.false_and, if_neg Bool.false_ne_true, ih hls]

/-- The section reaches to its first assignment. -/
theorem savedNetworkIn_between (ls rest : List Text)
    (h : ∀ l ∈ ls, isHeader (skipBlanks l) = false ∧ valueOf (ascii "nwid") l = none) :
    savedNetworkIn e.name true (ls ++ rest) = savedNetworkIn e.name true rest := by
  induction ls with
  | nil => rfl
  | cons l ls ih =>
    obtain ⟨⟨hheader, hnone⟩, hls⟩ := List.forall_mem_cons.mp h
    rw [List.cons_append, savedNetworkIn, hheader, if_neg Bool.false_ne_true]
    split
    · rename_i hin
      have hcomment : commented (skipBlanks l) = false := by simpa using hin
      rw [← valueOf_uncommented _ hcomment, hnone]
      exact ih hls
    · exact ih hls

theorem uncommented : commented (skipBlanks e.line) = false := by
  cases hc : commented (skipBlanks e.line) with
  | false => rfl
  | true =>
    have hvalue := e.value
    rw [valueOf, if_pos hc] at hvalue
    cases hvalue

/-- The selected section is this one. -/
theorem parseSavedNetwork_eq : parseSavedNetwork text e.name = networkId e.v := by
  have hassigned := e.value
  rw [valueOf_uncommented _ e.uncommented] at hassigned
  rw [parseSavedNetwork, e.lines, e.savedNetworkIn_before _ _ e.first, savedNetworkIn, e.headed, if_pos rfl,
    e.named, beq_self_eq_true, e.savedNetworkIn_between _ _ e.inSection, savedNetworkIn,
    (assigned_line hassigned).1, if_neg Bool.false_ne_true, e.uncommented, if_pos (by decide), hassigned]
  exact e.networkId_value

end Saved

namespace Entry
variable {text : Text} (e : Entry text)

theorem nwidOf_value : nwidOf (skipBlanks e.line) = networkId e.v := by
  rw [nwidOf_eq, e.value]
  exact e.networkId_value

theorem nwidOf_header : nwidOf (skipBlanks e.header) = none := by
  cases hv : nwidOf (skipBlanks e.header) with
  | none => rfl
  | some v => exact absurd (e.headed.symm.trans (nwidOf_line hv).1) (by decide)

theorem nwidOf_between (l : Text) (hl : l ∈ e.between) : nwidOf (skipBlanks l) = none := by
  rw [nwidOf_eq, (e.inSection l hl).2]
  rfl

theorem parseNwid_eq_value : parseNwid text false = networkId e.v := by
  have hbefore : ∀ l ∈ e.before, nwidOf (skipBlanks l) = none := fun l hl => e.only l (List.mem_append_left _ hl)
  have hafter : ∀ l ∈ e.after, nwidOf (skipBlanks l) = none := fun l hl => e.only l (List.mem_append_right _ hl)
  rw [parseNwid_lines, e.lines, List.foldl_append, foldl_nwidOf_none hbefore, List.foldl_cons, e.nwidOf_header,
    List.foldl_append, foldl_nwidOf_none e.nwidOf_between, List.foldl_cons, e.nwidOf_value,
    foldl_nwidOf_none hafter]
  exact Option.or_none

theorem readLine_header (s : SavedNetworks) :
    s.readLine SelectedCapacity e.header = { s with current := e.name, usable := true } := by
  obtain ⟨hpos, hlen, hname⟩ := e.usable
  unfold SavedNetworks.readLine
  dsimp only
  rw [e.headed, if_pos rfl, e.named]
  dsimp only
  rw [if_pos ⟨hpos, hlen⟩, bne_iff_ne.mpr hname]

theorem foldl_readLine_between (ls : List Text) (s : SavedNetworks)
    (h : ∀ l ∈ ls, isHeader (skipBlanks l) = false ∧ valueOf (ascii "nwid") l = none) :
    ls.foldl (SavedNetworks.readLine SelectedCapacity) s = s := by
  induction ls with
  | nil => rfl
  | cons l ls ih =>
    obtain ⟨⟨hheader, hnone⟩, hls⟩ := List.forall_mem_cons.mp h
    have hstep : s.readLine SelectedCapacity l = s := by
      unfold SavedNetworks.readLine
      dsimp only
      rw [hheader, if_neg Bool.false_ne_true, nwidOf_eq, hnone]
      exact ite_self s
    rw [List.foldl_cons, hstep, ih hls]

/-- The one valid entry is this one. -/
theorem parseFirstSavedNetwork_eq :
    parseFirstSavedNetwork text SelectedCapacity = (networkId e.v).map fun id => (e.name, id) := by
  obtain ⟨current, usable, hbefore⟩ := foldl_readLine_none SelectedCapacity e.before
    (fun l hl => e.only l (List.mem_append_left _ hl)) {}
  have hafter : ∀ l ∈ e.after, nwidOf (skipBlanks l) = none := fun l hl => e.only l (List.mem_append_right _ hl)
  rw [parseFirstSavedNetwork, SavedNetworks.read]
  rw [e.lines, List.foldl_append, hbefore, List.foldl_cons, e.readLine_header, List.foldl_append,
    foldl_readLine_between _ _ e.inSection, List.foldl_cons]
  cases hid : networkId e.v with
  | none =>
    obtain ⟨current', usable', hrest⟩ := foldl_readLine_none SelectedCapacity (e.line :: e.after)
      (List.forall_mem_cons.mpr ⟨e.nwidOf_value.trans hid, hafter⟩) { current := e.name, usable := true }
    rw [← List.foldl_cons, hrest]
    rfl
  | some id =>
    have hline : SavedNetworks.readLine SelectedCapacity { current := e.name, usable := true } e.line =
        { current := e.name, usable := true, candidate := e.name, candidateNwid := id, validCount := 1 } := by
      rw [SavedNetworks.readLine_nwid _ _ (e.nwidOf_value.trans hid), if_pos ⟨rfl, e.usable.2.1⟩]
      rfl
    obtain ⟨current', usable', hrest⟩ := foldl_readLine_none SelectedCapacity e.after hafter
      { current := e.name, usable := true, candidate := e.name, candidateNwid := id, validCount := 1 }
    rw [hline, hrest]
    rfl

end Entry

/-- Values that the overlay refuses and the sysmodule takes are an id with something after it. -/
theorem networkId_eq_overlayId_iff (v : Text) :
    networkId v = overlayId v ↔ ¬(16 < v.length ∧ isHexNetworkId (v.take 16) = true) := by
  rw [networkId_eq, overlayId]
  by_cases hlen : 16 < v.length
  · have hlong : isHexNetworkId v = false := by
      rw [isHexNetworkId, beq_false_of_ne hlen.ne', Bool.false_and, Bool.false_and]
    rw [hlong, if_neg Bool.false_ne_true]
    simp [hlen]
  · rw [List.take_of_length_le (Nat.not_lt.mp hlen)]
    simp [hlen]

/-- **Overlay and sysmodule accept the same ids**, and as the number they denote, exactly when no
digits or other text follow a valid id. -/
theorem entry_accepted_iff {text : Text} (e : Entry text) :
    (parseSavedNetwork text e.name = overlayId e.v ∧
      parseFirstSavedNetwork text SelectedCapacity = (overlayId e.v).map (fun id => (e.name, id)) ∧
      parseNwid text false = overlayId e.v) ↔
      ¬(16 < e.v.length ∧ isHexNetworkId (e.v.take 16) = true) := by
  rw [e.parseSavedNetwork_eq, e.parseFirstSavedNetwork_eq, e.parseNwid_eq_value, ← networkId_eq_overlayId_iff]
  exact ⟨fun h => h.1, fun h => ⟨h, by rw [h], h⟩⟩

/-- One digit too many. -/
def longEntry : Entry (ascii "[home]\nnwid = 8056c2e21c0000011") where
  name := ascii "home"
  v := ascii "8056c2e21c0000011"
  blanks := []
  before := []
  header := ascii "[home]"
  between := []
  line := ascii "nwid = 8056c2e21c0000011"
  after := []
  lines := by decide
  headed := by decide
  named := by decide
  usable := by decide
  first := by decide
  inSection := by decide
  value := by decide
  blank := by decide
  only := by decide

theorem seventeen_digits_accepted :
    ¬∀ (text : Text) (e : Entry text), parseSavedNetwork text e.name = overlayId e.v ∧
      parseFirstSavedNetwork text SelectedCapacity = (overlayId e.v).map (fun id => (e.name, id)) ∧
      parseNwid text false = overlayId e.v := by
  intro h
  exact absurd (h _ longEntry).1 (by decide)

end SysZerotier.Config.NetworkIds
