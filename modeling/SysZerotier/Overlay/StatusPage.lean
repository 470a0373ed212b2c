import SysZerotier.Config.NetworkIds
import SysZerotier.Port.Status

/-! The overlay's view of the status file (`source/main.cpp` of the overlay).

The overlay and the sysmodule share no memory: what the overlay shows of the connection it
reads off the file, through a line buffer of its own, by looking for the labels of four
lines. `shown_current` says that whatever has happened to the port, and wherever the two
buffers cut the text, a file that was written shows the connection as it is. -/
namespace SysZerotier.Overlay
open Net Library Config NetworkIds Port

/-! ### Reading a value -/

/-- `char line[512]`, less the zero at its end. -/
def lineRoom : Nat := 511

/-- What is trimmed off the end of a value. -/
def isSpace (c : U8) : Bool := c == 10 || c == 13 || isBlank c

def trimmed (q : Text) : Text := (skipBlanks q).rdropWhile isSpace

/-- What a line says, if it is the wanted one. -/
def valueIn (wanted line : Text) : Option Text :=
  let p := skipBlanks (line.takeWhile fun c => c != 0)
  if wanted.isPrefixOf p && (p.drop wanted.length).head?.any isBlank then some (trimmed (p.drop wanted.length))
  else none

def statusValue (file : File) (wanted : Text) : Text :=
  match file with
  | none => []
  | some text => ((pieces 10 lineRoom lineRoom text).findSome? (valueIn wanted)).getD []

/-! ### The page -/

def upperHex (value : Text) : Text := value.map fun c => if 97 ≤ c ∧ c ≤ 102 then c - 97 + 65 else c

/-- What the three lines of the page say. -/
structure Shown where
  status : Text
  address : Text
  active : Text
  deriving DecidableEq

def refreshStatus (file : File) : Shown :=
  let online := statusValue file (ascii "online")
  let netstatus := statusValue file (ascii "netstatus")
  let address := statusValue file (ascii "address")
  let network := statusValue file (ascii "network")
  { status := if online = ascii "yes" then if netstatus = [] then ascii "Online" else netstatus else ascii "Connecting"
    address := if address = [] ∨ (ascii "0.0.0.0").isPrefixOf address then ascii "Not assigned" else address
    active := if isHexNetworkId network then upperHex network else ascii "None" }

/-! ### Lines of the status file -/

theorem isBlank_false {c : U8} (h : 32 < c.toNat) : isBlank c = false := by
  rw [isBlank, Bool.or_eq_false_iff, beq_eq_false_iff_ne, beq_eq_false_iff_ne]
  exact ⟨fun heq => by rw [heq] at h; exact absurd h (by decide), fun heq => by rw [heq] at h; exact absurd h (by decide)⟩

/-- A label is told from the others by the blank that follows it. -/
theorem label_iff {label wanted : Text} (hlabel : IsLabel label) (hwanted : IsLabel wanted) (rest : Text) :
    (wanted.isPrefixOf (label ++ 32 :: rest) = true ∧
      ((label ++ 32 :: rest).drop wanted.length).head?.any isBlank = true) ↔ label = wanted := by
  constructor
  · intro ⟨hstart, hnext⟩
    obtain ⟨t, ht⟩ := List.isPrefixOf_iff_prefix.mp hstart
    rw [← ht, List.drop_left] at hnext
    rcases List.append_eq_append_iff.mp ht with ⟨m, hm, hrest⟩ | ⟨m, hm, hrest⟩
    · -- what is wanted begins the label, which has no blank
      cases m with
      | nil => rw [hm, List.append_nil]
      | cons c m =>
        have hc : 32 < c.toNat := hlabel.2.1 c (by rw [hm]; simp)
        rw [hrest, List.cons_append] at hnext
        simp [isBlank_false hc] at hnext
    · -- or it goes past the label, to the blank
      cases m with
      | nil => rw [hm, List.append_nil]
      | cons c m =>
        obtain ⟨hc, -⟩ := List.cons.inj hrest
        have hmem := hwanted.2.1 c (by rw [hm]; simp)
        rw [← hc] at hmem
        exact absurd hmem (by decide)
  · intro h
    subst h
    refine ⟨List.isPrefixOf_iff_prefix.mpr (List.prefix_append ..), ?_⟩
    rw [List.drop_left]
    rfl

theorem row_eq {field : Text × Text} (hlabel : IsLabel field.1) :
    row field = field.1 ++ 32 :: (List.replicate (9 - field.1.length) 32 ++ field.2) := by
  have hpad : 10 - field.1.length = (9 - field.1.length) + 1 := by
    have := hlabel.2.2
    omega
  rw [row, hpad, List.replicate_succ, List.append_assoc, List.cons_append]

theorem trimmed_blanks (k : Nat) (q : Text) : trimmed (List.replicate k 32 ++ q) = trimmed q := by
  rw [trimmed, trimmed, skipBlanks, List.dropWhile_append_of_pos]
  · rfl
  · intro c hc
    rw [List.eq_of_mem_replicate hc]
    rfl

theorem valueIn_row {field : Text × Text} {n : Nat} {wanted : Text} (hlabel : IsLabel field.1) (h : Prints n field.2)
    (hwanted : IsLabel wanted) :
    valueIn wanted (row field ++ [10]) = if field.1 = wanted then some (trimmed (field.2 ++ [10])) else none := by
  have hzero : (row field ++ [10]).takeWhile (fun c => c != 0) = row field ++ [10] := by
    rw [List.takeWhile_eq_self_iff]
    intro c hc
    rcases List.mem_append.mp hc with hc | hc
    · exact bne_iff_ne.mpr fun heq => (row_prints hlabel h).not_mem (by decide) (heq ▸ hc)
    · rw [List.mem_singleton.mp hc]
      rfl
  have hfirst : skipBlanks (row field ++ [10]) = row field ++ [10] := by
    obtain ⟨hne, hchars, -⟩ := hlabel
    cases hl : field.1 with
    | nil => exact absurd hl hne
    | cons c l =>
      have hc := isBlank_false (hchars c (by rw [hl]; exact List.mem_cons_self))
      rw [row, hl, List.cons_append, List.cons_append, List.cons_append, skipBlanks,
        List.dropWhile_cons_of_neg (by rw [hc]; exact Bool.false_ne_true)]
  have hsplit : row field ++ [10] = field.1 ++ 32 :: (List.replicate (9 - field.1.length) 32 ++ (field.2 ++ [10])) := by
    rw [row_eq hlabel]
    simp
  rw [valueIn, hzero, hfirst, hsplit]
  by_cases heq : field.1 = wanted
  · rw [if_pos (Bool.and_eq_true_iff.mpr ((label_iff hlabel hwanted _).mpr heq)), if_pos heq, ← heq, List.drop_left]
    exact congrArg some (trimmed_blanks (9 - field.1.length + 1) _)
  · rw [if_neg (fun hb => heq ((label_iff hlabel hwanted _).mp (Bool.and_eq_true_iff.mp hb))), if_neg heq]

/-- What the file says on one of the lines that fit into it. -/
theorem statusValue_split (p : Reported) (number : Errno → U32) (writeFails : U32) {before after : List (Text × Text)}
    {wanted value : Text} (hfields : (p.fields number writeFails).take 11 = before ++ (wanted, value) :: after)
    (hbefore : ∀ field ∈ before, field.1 ≠ wanted) :
    statusValue (some (p.text number writeFails)) wanted = trimmed (value ++ [10]) := by
  have hlabels := head_labels p number writeFails
  have hshort := head_short p number writeFails
  have hfits := head_fits p number writeFails
  have hwhole : p.fields number writeFails =
      before ++ (wanted, value) :: (after ++ (p.fields number writeFails).drop 11) := by
    calc p.fields number writeFails
        = (p.fields number writeFails).take 11 ++ (p.fields number writeFails).drop 11 :=
          (List.take_append_drop 11 _).symm
      _ = _ := by rw [hfields, List.append_assoc, List.cons_append]
  rw [hfields] at hlabels hshort hfits
  have hmem : (wanted, value) ∈ before ++ (wanted, value) :: after := by simp
  have hwanted : IsLabel wanted := hlabels _ hmem
  have hfind : (pieces 10 lineRoom lineRoom (p.text number writeFails)).findSome? (valueIn wanted) =
      some (trimmed (value ++ [10])) := by
    rw [Reported.text, hwhole, List.map_append, List.map_cons]
    apply findSome_page
    · rw [← List.map_singleton, ← List.map_append]
      intro r hr
      obtain ⟨field, hfield, rfl⟩ := List.mem_map.mp hr
      have hin : field ∈ before ++ (wanted, value) :: after := by
        rw [← List.singleton_append, ← List.append_assoc]
        exact List.mem_append_left after hfield
      have hprints := row_prints (hlabels field hin) (hshort field hin)
      exact ⟨hprints.not_mem (by decide), Nat.lt_of_le_of_lt hprints.1 (by decide)⟩
    · have hsplit : before ++ (wanted, value) :: after = before ++ [(wanted, value)] ++ after := by simp
      rw [hsplit, List.map_append, page_append, List.length_append, List.map_append, List.map_singleton] at hfits
      omega
    · intro r hr
      obtain ⟨field, hfield, rfl⟩ := List.mem_map.mp hr
      have hin := List.mem_append_left ((wanted, value) :: after) hfield
      rw [valueIn_row (hlabels field hin) (hshort field hin) hwanted, if_neg (hbefore field hfield)]
    · rw [valueIn_row hwanted (hshort _ hmem) hwanted, if_pos rfl]
  rw [statusValue, hfind]
  rfl

/-- The same, by the place of the line among them. -/
theorem statusValue_text (p : Reported) (number : Errno → U32) (writeFails : U32) {i : Nat} {wanted value : Text}
    (hfield : ((p.fields number writeFails).take 11)[i]? = some (wanted, value)) (hnew : wanted ∉ headLabels.take i) :
    statusValue (some (p.text number writeFails)) wanted = trimmed (value ++ [10]) := by
  obtain ⟨hi, hget⟩ := List.getElem?_eq_some_iff.mp hfield
  have hsplit := List.take_append_drop i ((p.fields number writeFails).take 11)
  rw [List.drop_eq_getElem_cons hi, hget] at hsplit
  refine statusValue_split p number writeFails hsplit.symm fun field hbefore heq => hnew ?_
  rw [← map_fst_head p number writeFails, ← List.map_take, ← heq]
  exact List.mem_map_of_mem hbefore

/-! ### What it says -/

theorem isSpace_false {c : U8} (h : 32 < c.toNat) : isSpace c = false := by
  have hne (b : U8) (hb : b.toNat ≤ 32) : c ≠ b := fun heq => by
    rw [heq] at h
    omega
  rw [isSpace, isBlank_false h, beq_false_of_ne (hne 10 (by decide)), beq_false_of_ne (hne 13 (by decide))]
  rfl

/-- A value without blanks is read as it is. -/
theorem trimmed_solid {value : Text} (hne : value ≠ []) (h : ∀ c ∈ value, 32 < c.toNat) :
    trimmed (value ++ [10]) = value := by
  have hfirst : skipBlanks (value ++ [10]) = value ++ [10] := by
    cases value with
    | nil => exact absurd rfl hne
    | cons c q =>
      rw [List.cons_append, skipBlanks, List.dropWhile_cons_of_neg]
      rw [isBlank_false (h c List.mem_cons_self)]
      exact Bool.false_ne_true
  rw [trimmed, hfirst, List.rdropWhile_concat_pos _ _ _ (by decide), List.rdropWhile_eq_self_iff]
  intro hl
  rw [isSpace_false (h _ (List.getLast_mem hl))]
  exact Bool.false_ne_true

theorem trimmed_netStatusName (st : U32) : trimmed (netStatusName st ++ [10]) = netStatusName st := by
  rw [netStatusName]
  repeat' split
  all_goals decide +kernel

theorem netStatusName_ne_nil (st : U32) : netStatusName st ≠ [] := by
  rw [netStatusName]
  repeat' split
  all_goals decide +kernel

theorem dec_solid (n : Nat) : ∀ c ∈ dec n, 32 < c.toNat := fun c hc => by
  have := dec_digit hc
  omega

theorem dotted_solid (ip : U32) : ∀ c ∈ dotted ip, 32 < c.toNat := by
  have hdot {t u : Text} (ht : ∀ c ∈ t, 32 < c.toNat) (hu : ∀ c ∈ u, 32 < c.toNat) :
      ∀ c ∈ t ++ 46 :: u, 32 < c.toNat := by
    intro c hc
    rcases List.mem_append.mp hc with hc | hc
    · exact ht c hc
    · rcases List.mem_cons.mp hc with rfl | hc
      · decide
      · exact hu c hc
  exact hdot (dec_solid _) (hdot (dec_solid _) (hdot (dec_solid _) (dec_solid _)))

/-! ### The address -/

theorem octet_toNat (v : U32) : (v &&& 0xFF).toNat = v.toNat % 256 := by
  rw [BitVec.toNat_and]
  exact Nat.and_two_pow_sub_one_eq_mod v.toNat 8

/-- No number but zero begins with a zero. -/
theorem dec_head : ∀ n < 256, (dec n).head? = some 48 → n = 0 := by decide +kernel

theorem octet_start {n : Nat} (hn : n < 256) {t rest : Text} :
    48 :: 46 :: t <+: dec n ++ 46 :: rest ↔ n = 0 ∧ t <+: rest := by
  have hzero : dec 0 = [48] := by decide +kernel
  constructor
  · intro h
    have hhead : (dec n).head? = some 48 := by
      cases hd : dec n with
      | nil => exact absurd hd (dec_ne_nil n)
      | cons c q =>
        rw [hd] at h
        exact congrArg some (List.cons_prefix_cons.mp h).1.symm
    have hn0 := dec_head n hn hhead
    rw [hn0, hzero] at h
    exact ⟨hn0, (List.cons_prefix_cons.mp (List.cons_prefix_cons.mp h).2).2⟩
  · intro ⟨hn0, h⟩
    rw [hn0, hzero]
    exact List.cons_prefix_cons.mpr ⟨rfl, List.cons_prefix_cons.mpr ⟨rfl, h⟩⟩

theorem octets_zero {ip : U32} (h : (ip >>> 24 &&& 0xFF).toNat = 0 ∧ (ip >>> 16 &&& 0xFF).toNat = 0 ∧
    (ip >>> 8 &&& 0xFF).toNat = 0 ∧ (ip &&& 0xFF).toNat = 0) : ip = 0 := by
  have hlt := ip.isLt
  simp only [octet_toNat, BitVec.toNat_ushiftRight, Nat.shiftRight_eq_div_pow] at h
  apply BitVec.eq_of_toNat_eq
  rw [show (0 : U32).toNat = 0 from rfl]
  omega

/-- The test for an address that is not assigned. -/
theorem unassigned_iff (ip : U32) (rest : Text) :
    (ascii "0.0.0.0").isPrefixOf (dotted ip ++ 47 :: rest) = true ↔ ip = 0 := by
  have hzero : dec 0 = [48] := by decide +kernel
  have hascii : ascii "0.0.0.0" = [48, 46, 48, 46, 48, 46, 48] := by decide +kernel
  rw [List.isPrefixOf_iff_prefix, hascii, dotted]
  simp only [List.append_assoc, List.cons_append]
  rw [octet_start (octet_lt _), octet_start (octet_lt _), octet_start (octet_lt _)]
  constructor
  · intro ⟨h₁, h₂, h₃, h⟩
    refine octets_zero ⟨h₁, h₂, h₃, dec_head _ (octet_lt ip) ?_⟩
    cases hd : dec (ip &&& 0xFF).toNat with
    | nil => exact absurd hd (dec_ne_nil _)
    | cons c q =>
      rw [hd] at h
      exact congrArg some (List.cons_prefix_cons.mp h).1.symm
  · intro h
    subst h
    refine ⟨rfl, rfl, rfl, ?_⟩
    rw [show ((0 : U32) &&& 0xFF).toNat = 0 from rfl, hzero]
    exact List.prefix_append ..

/-! ### The network -/

theorem hexText_length_eq (v : U64) : (hexText 16 v).length = 16 := by
  have hlen : (Nat.digits 16 v.toNat).length ≤ 16 := by
    have hlt : v.toNat < 16 ^ 16 := v.isLt
    exact (Nat.digits_length_le_iff (by decide) _).mpr hlt
  rw [hexText, List.length_map, List.length_reverse, List.length_append, List.length_replicate]
  omega

theorem denotes_concat (l : Text) (c : U8) : denotes (l ++ [c]) = denotes l * 16 + hexValue c := by
  rw [denotes, denotesFrom, List.foldl_append]
  rfl

theorem denotes_eq (l : Text) : denotes l = Nat.ofDigits 16 (l.map hexValue).reverse := by
  induction l using List.reverseRecOn with
  | nil => rfl
  | append_singleton l c ih =>
    rw [denotes_concat, ih, List.map_append, List.reverse_append, List.map_singleton, List.reverse_singleton,
      List.singleton_append, Nat.ofDigits_cons]
    omega

theorem hexText_denotes (v : U64) : denotes (hexText 16 v) = v.toNat := by
  have hdigits : (hexText 16 v).map hexValue = (hexText 16 v).map digitOf := by
    apply List.map_congr_left
    intro c hc
    obtain ⟨d, hd, rfl⟩ := hexText_digit hc
    exact (by decide : ∀ d < 16, hexValue (hexDigit d) = digitOf (hexDigit d)) d hd
  rw [denotes_eq, hdigits, hexText_read]

theorem hexText_isHexDigit (v : U64) : (hexText 16 v).all isHexDigit = true := by
  rw [List.all_eq_true]
  intro c hc
  obtain ⟨d, hd, rfl⟩ := hexText_digit hc
  exact (by decide : ∀ d < 16, isHexDigit (hexDigit d) = true) d hd

/-- The id the sysmodule prints is one, unless it is zero. -/
theorem isHexNetworkId_hexText (v : U64) : isHexNetworkId (hexText 16 v) = decide (v ≠ 0) := by
  have hall := hexText_isHexDigit v
  have hzero : v = 0 ↔ ∀ c ∈ hexText 16 v, c = 48 := by
    calc v = 0 ↔ v.toNat = 0 := ⟨fun h => congrArg BitVec.toNat h, fun h => BitVec.eq_of_toNat_eq h⟩
      _ ↔ denotesFrom 0 (hexText 16 v) = 0 := by rw [← hexText_denotes v]; rfl
      _ ↔ _ := (denotesFrom_eq_zero hall).trans (and_iff_right rfl)
  rw [isHexNetworkId, hexText_length_eq, hall]
  rw [show (16 == 16 && true) = true from rfl, Bool.true_and, Bool.eq_iff_iff, decide_eq_true_iff, ne_eq, hzero,
    List.any_eq_true]
  simp

/-! ### The page of a file -/

/-- What the page says of a port. -/
def shownOf (p : Reported) : Shown where
  status := if p.online then netStatusName p.netStatus else ascii "Connecting"
  address := if p.vnet.ip = 0 then ascii "Not assigned"
    else dotted p.vnet.ip ++ ascii "/" ++ dec (popcount p.vnet.netmask)
  active := if p.nwid = 0 then ascii "None" else upperHex (hexText 16 p.nwid)

theorem address_solid (p : Reported) :
    ∀ c ∈ dotted p.vnet.ip ++ ascii "/" ++ dec (popcount p.vnet.netmask), 32 < c.toNat := by
  intro c hc
  rcases List.mem_append.mp hc with hc | hc
  · rcases List.mem_append.mp hc with hc | hc
    · exact dotted_solid _ c hc
    · exact (by decide +kernel : ∀ c ∈ ascii "/", 32 < c.toNat) c hc
  · exact dec_solid _ c hc

theorem refreshStatus_text (p : Reported) (number : Errno → U32) (writeFails : U32) :
    refreshStatus (some (p.text number writeFails)) = shownOf p := by
  have hnetwork : statusValue (some (p.text number writeFails)) (ascii "network") = hexText 16 p.nwid := by
    refine (statusValue_text p number writeFails (i := 6) rfl (by decide +kernel)).trans (trimmed_solid ?_ ?_)
    · exact List.ne_nil_of_length_pos (by rw [hexText_length_eq]; decide)
    · intro c hc
      obtain ⟨d, hd, rfl⟩ := hexText_digit hc
      exact (by decide : ∀ d < 16, 32 < (Port.hexDigit d).toNat) d hd
  have honline : statusValue (some (p.text number writeFails)) (ascii "online") =
      if p.online then ascii "yes" else ascii "no" := by
    refine (statusValue_text p number writeFails (i := 7) rfl (by decide +kernel)).trans ?_
    cases p.online <;> decide +kernel
  have hnetstatus : statusValue (some (p.text number writeFails)) (ascii "netstatus") = netStatusName p.netStatus :=
    (statusValue_text p number writeFails (i := 8) rfl (by decide +kernel)).trans (trimmed_netStatusName _)
  have haddress : statusValue (some (p.text number writeFails)) (ascii "address") =
      dotted p.vnet.ip ++ ascii "/" ++ dec (popcount p.vnet.netmask) :=
    (statusValue_text p number writeFails (i := 10) rfl (by decide +kernel)).trans
      (trimmed_solid (by simp [dec_ne_nil]) (address_solid p))
  have hassigned : (dotted p.vnet.ip ++ ascii "/" ++ dec (popcount p.vnet.netmask) = [] ∨
      (ascii "0.0.0.0").isPrefixOf (dotted p.vnet.ip ++ ascii "/" ++ dec (popcount p.vnet.netmask)) = true) ↔
      p.vnet.ip = 0 := by
    rw [show ascii "/" = [47] by decide +kernel, List.append_assoc, List.singleton_append, unassigned_iff]
    simp
  have hyes : (if p.online then ascii "yes" else ascii "no") = ascii "yes" ↔ p.online = true := by
    cases p.online <;> decide +kernel
  rw [refreshStatus, honline, hnetstatus, haddress, hnetwork, shownOf, isHexNetworkId_hexText]
  simp only [hassigned, hyes, netStatusName_ne_nil, if_false, decide_eq_true_eq, ne_eq, ite_not]

/-- At this time, and if the status file was written when it was last due, the page shows
the connection as it is; the length of the netmask is from when the file was written, which
was less than ten seconds ago. -/
def Current (s : Reporter) (now : Int) : Prop :=
  now - s.lastStatusMs < 10000 ∧ ∀ p ∈ s.printed,
    refreshStatus s.file = shownOf { s.port with vnet := { s.port.vnet with netmask := p.vnet.netmask } }

theorem current_of_inv {number : Errno → U32} {s : Reporter} {force : Bool} (h : force = true ∨ s.Inv number) (now : Int)
    (faults : WriteFaults) : Current (s.writeStatus number force now faults) now := by
  obtain ⟨hinv, hport, honline, hip, hstatus, hlate⟩ := Reporter.writeStatus_inv h now faults
  refine ⟨hlate, fun p hp => ?_⟩
  obtain ⟨⟨writeFails, hfile⟩, hnwid, ho, hi, hst⟩ := hinv p hp
  rw [hfile, refreshStatus_text, hport]
  simp only [shownOf, hnwid, ho, hi, hst, hport, honline, hip, hstatus]

/-- **What the page shows is current** after each pass of the loop and after each switch of
networks, whatever happened before. -/
theorem shown_current (number : Errno → U32) (port : Reported) (file : File) (es : List Reporter.Event) (now : Int)
    (faults : WriteFaults) :
    Current ((Reporter.start port file).run number (es ++ [.pass now faults])) now ∧
      ∀ port', Current ((Reporter.start port file).run number (es ++ [.switched port' now faults])) now := by
  have hstart : (Reporter.start port file).Inv number := fun p hp => by cases hp
  have hrun := Reporter.run_inv hstart es
  constructor
  · rw [Reporter.run, List.foldl_append]
    exact current_of_inv (.inr hrun) now faults
  · intro port'
    rw [Reporter.run, List.foldl_append]
    exact current_of_inv (.inl rfl) now faults

end SysZerotier.Overlay
