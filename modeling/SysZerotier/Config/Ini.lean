import SysZerotier.Net.Bytes
import SysZerotier.Library.Lines

/-! The scanners of `config.ini` and `networks.ini` (`source/zt_port.cpp`).

A text is what the file holds up to its first zero byte. Each scanner goes over it
line by line with a position `p` at the first character that is not a blank; here `p`
is the rest of the line from there. The lengths of the buffers that names are copied to
are arguments. -/
namespace SysZerotier.Config
open Net Library

abbrev Text := List U8

/-- The bytes of an ASCII string. -/
def ascii (s : String) : Text := s.toList.map fun c => BitVec.ofNat 8 c.toNat

/-- The lines up to the zero byte. -/
def linesOf (text : Text) : List Text := lines 10 (text.takeWhile fun c => c != 0)

/-- A blank or a tab. -/
def isBlank (c : U8) : Bool := c == 32 || c == 9

def skipBlanks (q : Text) : Text := q.dropWhile isBlank

/-- `#` and `;` start a comment. -/
def isComment (c : U8) : Bool := c == 35 || c == 59

def commented (p : Text) : Bool := p.head?.any isComment

/-- What is assigned to the key, if the line is an assignment to it. -/
def assigned (key p : Text) : Option Text :=
  if key.isPrefixOf p then
    match skipBlanks (p.drop key.length) with
    | c :: q => if c = 61 then some (skipBlanks q) else none
    | [] => none
  else none

/-! ### Network ids -/

def hexDigit (c : U8) : Option U64 :=
  if 48 ≤ c ∧ c ≤ 57 then some ((c - 48).setWidth 64)
  else if 97 ≤ c ∧ c ≤ 102 then some ((c - 97 + 10).setWidth 64)
  else if 65 ≤ c ∧ c ≤ 70 then some ((c - 65 + 10).setWidth 64)
  else none

/-- The digits at the start of a text, `max` at most. -/
def hexDigits : Nat → Text → List U64
  | 0, _ => []
  | _, [] => []
  | max + 1, c :: q =>
    match hexDigit c with
    | some d => d :: hexDigits max q
    | none => []

/-- Sixteen digits, not all zero; what follows them does not matter. -/
def networkId (q : Text) : Option U64 :=
  let digits := hexDigits 16 q
  let v := digits.foldl (fun (v d : U64) => v <<< 4 ||| d) 0
  if digits.length = 16 ∧ v ≠ 0 then some v else none

/-- A valid `nwid` assignment. -/
def nwidOf (p : Text) : Option U64 := (assigned (ascii "nwid") p).bind networkId

/-! ### The scanners -/

/-- The last valid assignment wins. -/
def parseNwid (text : Text) (allowCommented : Bool) : Option U64 :=
  (linesOf text).foldl (fun found line =>
    let p := skipBlanks line
    let p := if allowCommented then p.dropWhile fun c => isComment c || isBlank c else p
    if allowCommented || !commented p then (nwidOf p).or found else found) none

/-- `'...'` and `"..."` without the quotes. -/
def unquote (q : Text) : Text :=
  if 2 ≤ q.length ∧ (q.head? = some 39 ∧ q.getLast? = some 39 ∨ q.head? = some 34 ∧ q.getLast? = some 34) then
    q.tail.dropLast
  else q

/-- An assigned value: its end trimmed, quotes removed, and no longer than the buffer. -/
def configValue (q : Text) (outLen : Nat) : Option Text :=
  let value := unquote (q.rdropWhile fun c => isBlank c || c == 13)
  if 0 < value.length ∧ value.length < outLen then some value else none

/-- The last assignment decides, valid or not. -/
def parseConfigString (text key : Text) (outLen : Nat) : Option Text :=
  if outLen = 0 then none
  else
    (linesOf text).foldl (fun found line =>
      let p := skipBlanks line
      if commented p then found
      else
        match assigned key p with
        | some q => configValue q outLen
        | none => found) none

/-- The line is a section header: it starts with `[`. -/
def isHeader (p : Text) : Bool := p.head? == some 91

/-- The header's name, if it is closed. -/
def sectionName (p : Text) : Option Text :=
  let name := p.tail.takeWhile fun c => c != 93
  if name.length < p.tail.length then some name else none

/-- The first `nwid` assignment of a section of this name decides. -/
def savedNetworkIn (wanted : Text) : Bool → List Text → Option U64
  | _, [] => none
  | inSection, line :: rest =>
    let p := skipBlanks line
    if isHeader p then savedNetworkIn wanted (sectionName p == some wanted) rest
    else if inSection && !commented p then
      match assigned (ascii "nwid") p with
      | some q => networkId q
      | none => savedNetworkIn wanted inSection rest
    else savedNetworkIn wanted inSection rest

def parseSavedNetwork (text wanted : Text) : Option U64 := savedNetworkIn wanted false (linesOf text)

/-- The locals of `ParseFirstSavedNetwork`. -/
structure SavedNetworks where
  current : Text := []
  usable : Bool := false
  candidate : Text := []
  candidateNwid : U64 := 0
  validCount : Nat := 0

namespace SavedNetworks

def readLine (nameLen : Nat) (s : SavedNetworks) (line : Text) : SavedNetworks :=
  let p := skipBlanks line
  if isHeader p then
    match sectionName p with
    | some name =>
      if 0 < name.length ∧ name.length < 96 then
        { s with current := name, usable := name != ascii "sys-zerotier" }
      else { s with usable := false }
    | none => { s with usable := false }
  else if s.usable && !commented p then
    match nwidOf p with
    | some v =>
      if s.current.length < nameLen then
        if s.validCount = 0 then { s with candidate := s.current, candidateNwid := v, validCount := 1 }
        else { s with validCount := s.validCount + 1 }
      else s
    | none => s
  else s

def read (nameLen : Nat) (text : Text) : SavedNetworks := (linesOf text).foldl (readLine nameLen) {}

/-- The first valid entry. -/
def first (s : SavedNetworks) : Option U64 := if s.validCount = 0 then none else some s.candidateNwid

end SavedNetworks

/-- The only valid entry, by name and id. -/
def parseFirstSavedNetwork (text : Text) (nameLen : Nat) : Option (Text × U64) :=
  let s := SavedNetworks.read nameLen text
  if s.validCount = 1 then some (s.candidate, s.candidateNwid) else none

/-! ### Assignments -/

/-- What the line assigns to the key. -/
def valueOf (key line : Text) : Option Text :=
  let p := skipBlanks line
  if commented p then none else assigned key p

def assignments (key text : Text) : List Text := (linesOf text).filterMap (valueOf key)

theorem valueOf_uncommented {line : Text} (key : Text) (h : commented (skipBlanks line) = false) :
    valueOf key line = assigned key (skipBlanks line) := by
  rw [valueOf, h]
  rfl

theorem parseConfigString_eq (text key : Text) {outLen : Nat} (h : outLen ≠ 0) :
    parseConfigString text key outLen =
      (assignments key text).foldl (fun _ q => configValue q outLen) none := by
  rw [parseConfigString, assignments]
  rw [if_neg h, List.foldl_filterMap]
  congr 1
  funext found line
  rw [valueOf]
  cases hc : commented (skipBlanks line) with
  | true => simp [hc]
  | false =>
    cases ha : assigned key (skipBlanks line) <;> simp [hc, ha]

/-- A line that selects a section is neither a header nor an entry. -/
theorem selected_line {line q : Text} (h : valueOf (ascii "selected") line = some q) :
    isHeader (skipBlanks line) = false ∧ assigned (ascii "nwid") (skipBlanks line) = none := by
  rw [valueOf] at h
  obtain ⟨-, h⟩ := Option.ite_none_left_eq_some.mp h
  rw [assigned] at h
  obtain ⟨hkey, -⟩ := Option.ite_none_right_eq_some.mp h
  obtain ⟨rest, hrest⟩ := List.isPrefixOf_iff_prefix.mp hkey
  rw [← hrest]
  exact ⟨rfl, rfl⟩

/-- A line that is neither adds nothing to what is found. -/
theorem savedNetworkIn_concat (wanted : Text) (inSection : Bool) (ls : List Text) {line : Text}
    (hheader : isHeader (skipBlanks line) = false) (hid : assigned (ascii "nwid") (skipBlanks line) = none) :
    savedNetworkIn wanted inSection (ls ++ [line]) = savedNetworkIn wanted inSection ls := by
  induction ls generalizing inSection with
  | nil =>
    simp only [List.nil_append, savedNetworkIn, hheader, hid]
    exact (if_neg Bool.false_ne_true).trans (ite_self _)
  | cons l ls ih => rw [List.cons_append, savedNetworkIn, savedNetworkIn, ih, ih]

/-! ### Texts that are cut short -/

theorem linesOf_truncates {p t : Text} (h : p <+: t) : Truncates (linesOf p) (linesOf t) :=
  lines_truncates 10 (takeWhile_mono _ h)

/-- An assignment that is seen is one of the whole line, and the value a beginning of its. -/
theorem assigned_mono {key p' p q' : Text} (h : p' <+: p) (ha : assigned key p' = some q') :
    ∃ q, assigned key p = some q ∧ q' <+: q := by
  unfold assigned at ha ⊢
  split at ha
  · rename_i hkey
    rw [if_pos (List.isPrefixOf_iff_prefix.mpr ((List.isPrefixOf_iff_prefix.mp hkey).trans h))]
    have hrest : skipBlanks (p'.drop key.length) <+: skipBlanks (p.drop key.length) :=
      dropWhile_mono _ (h.drop key.length)
    generalize skipBlanks (p'.drop key.length) = r' at ha hrest
    generalize skipBlanks (p.drop key.length) = r at hrest ⊢
    cases r' with
    | nil => cases ha
    | cons c r' =>
      obtain ⟨rest, rfl⟩ := hrest
      rw [List.cons_append]
      dsimp only at ha ⊢
      split at ha
      · rename_i hc
        rw [if_pos hc]
        cases ha
        exact ⟨_, rfl, dropWhile_mono _ (List.prefix_append r' rest)⟩
      · cases ha
  · cases ha

theorem valueOf_mono {key l' l q' : Text} (h : l' <+: l) (hv : valueOf key l' = some q') :
    ∃ q, valueOf key l = some q ∧ q' <+: q := by
  have hskip : skipBlanks l' <+: skipBlanks l := dropWhile_mono isBlank h
  rw [valueOf] at hv ⊢
  obtain ⟨hcomment, ha⟩ := Option.ite_none_left_eq_some.mp hv
  obtain ⟨q, hq, hprefix⟩ := assigned_mono hskip ha
  refine ⟨q, ?_, hprefix⟩
  have hsame : commented (skipBlanks l) = commented (skipBlanks l') := by
    cases hp : skipBlanks l' with
    | nil =>
      rw [hp, assigned] at ha
      simp [skipBlanks] at ha
    | cons c p =>
      obtain ⟨rest, hrest⟩ := hskip
      rw [← hrest, hp]
      rfl
  rw [hsame, if_neg hcomment, hq]

theorem head_skipBlanks (q : Text) : ∀ c ∈ (skipBlanks q).head?, isBlank c = false := by
  intro c hc
  have h := List.head?_dropWhile_not isBlank q
  rw [show (q.dropWhile isBlank).head? = some c from hc] at h
  exact h

theorem skipBlanks_append {b q : Text} (hb : ∀ c ∈ b, isBlank c = true) (hq : ∀ c ∈ q.head?, isBlank c = false) :
    skipBlanks (b ++ q) = q := by
  rw [skipBlanks, List.dropWhile_append_of_pos hb]
  cases q with
  | nil => rfl
  | cons c q => exact List.dropWhile_cons_of_neg (by rw [hq c rfl]; exact Bool.false_ne_true)

theorem eq_append_skipBlanks (q : Text) : ∃ b, (∀ c ∈ b, isBlank c = true) ∧ q = b ++ skipBlanks q :=
  ⟨q.takeWhile isBlank, fun _ => List.mem_takeWhile_imp, List.takeWhile_append_dropWhile.symm⟩

/-- An assignment is the key, the sign and the value, with blanks in between. -/
theorem valueOf_parts {key l q : Text} (hv : valueOf key l = some q) :
    ∃ b₁ b₂ b₃ : Text, (∀ c ∈ b₁ ++ b₂ ++ b₃, isBlank c = true) ∧
      l = b₁ ++ (key ++ (b₂ ++ 61 :: (b₃ ++ q))) ∧
      (∀ c ∈ (key ++ (b₂ ++ [61])).head?, isBlank c = false ∧ isComment c = false) ∧
      ∀ c ∈ q.head?, isBlank c = false := by
  rw [valueOf] at hv
  obtain ⟨hcomment, ha⟩ := Option.ite_none_left_eq_some.mp hv
  rw [assigned] at ha
  obtain ⟨hkey, ha⟩ := Option.ite_none_right_eq_some.mp ha
  obtain ⟨r, hr⟩ := List.isPrefixOf_iff_prefix.mp hkey
  rw [← hr, List.drop_left] at ha
  obtain ⟨b₁, hb₁, hl⟩ := eq_append_skipBlanks l
  obtain ⟨b₂, hb₂, hr₂⟩ := eq_append_skipBlanks r
  cases hrest : skipBlanks r with
  | nil =>
    rw [hrest] at ha
    cases ha
  | cons c r' =>
    rw [hrest] at ha hr₂
    obtain ⟨rfl, hq⟩ := Option.ite_none_right_eq_some.mp ha
    cases hq
    obtain ⟨b₃, hb₃, hr₃⟩ := eq_append_skipBlanks r'
    have hhead : (key ++ (b₂ ++ [61])).head? = (skipBlanks l).head? := by
      rw [← hr, hr₂]
      cases key <;> cases b₂ <;> rfl
    refine ⟨b₁, b₂, b₃, ?_, by rw [← hr₃, ← hr₂, hr, ← hl], fun c hc => ?_, head_skipBlanks r'⟩
    · simp only [List.mem_append]
      rintro c ((hc | hc) | hc)
      · exact hb₁ c hc
      · exact hb₂ c hc
      · exact hb₃ c hc
    · rw [hhead] at hc
      refine ⟨head_skipBlanks l c hc, ?_⟩
      rw [commented, show (skipBlanks l).head? = some c from hc] at hcomment
      simpa using hcomment

theorem valueOf_assignment {key b₁ b₂ b₃ q : Text} (hb : ∀ c ∈ b₁ ++ b₂ ++ b₃, isBlank c = true)
    (hkey : ∀ c ∈ (key ++ (b₂ ++ [61])).head?, isBlank c = false ∧ isComment c = false)
    (hq : ∀ c ∈ q.head?, isBlank c = false) :
    valueOf key (b₁ ++ (key ++ (b₂ ++ 61 :: (b₃ ++ q)))) = some q := by
  simp only [List.mem_append, or_imp, forall_and] at hb
  obtain ⟨⟨hb₁, hb₂⟩, hb₃⟩ := hb
  have hhead : (key ++ (b₂ ++ 61 :: (b₃ ++ q))).head? = (key ++ (b₂ ++ [61])).head? := by
    cases key <;> cases b₂ <;> rfl
  have hcomment : commented (key ++ (b₂ ++ 61 :: (b₃ ++ q))) = false := by
    rw [commented, hhead]
    cases hc : (key ++ (b₂ ++ [61])).head? with
    | none => rfl
    | some c => exact (hkey c hc).2
  rw [valueOf, skipBlanks_append hb₁ fun c hc => (hkey c (hhead ▸ hc)).1, hcomment,
    if_neg Bool.false_ne_true, assigned, if_pos (List.isPrefixOf_iff_prefix.mpr (List.prefix_append ..)),
    List.drop_left, skipBlanks_append hb₂ (by rintro c ⟨⟩; rfl)]
  dsimp only
  rw [if_pos rfl, skipBlanks_append hb₃ hq]

/-- A line can be cut in the value that it assigns. -/
theorem valueOf_cut {key l q q' : Text} (hv : valueOf key l = some q) (h : q' <+: q) :
    ∃ l', l' <+: l ∧ valueOf key l' = some q' := by
  obtain ⟨b₁, b₂, b₃, hb, rfl, hkey, hq⟩ := valueOf_parts hv
  refine ⟨_, ?_, valueOf_assignment hb hkey fun c hc => ?_⟩
  · refine (List.prefix_append_right_inj b₁).mpr ((List.prefix_append_right_inj key).mpr
      ((List.prefix_append_right_inj b₂).mpr (List.cons_prefix_cons.mpr ⟨rfl, ?_⟩)))
    exact (List.prefix_append_right_inj b₃).mpr h
  · obtain ⟨rest, rfl⟩ := h
    refine hq c ?_
    cases q' with
    | nil => cases hc
    | cons c' q' => exact hc

theorem hexDigits_mono (max : Nat) {q' q : Text} (h : q' <+: q) : hexDigits max q' <+: hexDigits max q := by
  induction max generalizing q' q with
  | zero => exact List.prefix_refl _
  | succ max ih =>
    cases q' with
    | nil => exact List.nil_prefix
    | cons c q' =>
      obtain ⟨rest, rfl⟩ := h
      rw [List.cons_append, hexDigits, hexDigits]
      cases hexDigit c with
      | none => exact List.prefix_refl _
      | some d => exact List.cons_prefix_cons.mpr ⟨rfl, ih (List.prefix_append q' rest)⟩

theorem hexDigits_length_le (max : Nat) (q : Text) : (hexDigits max q).length ≤ max := by
  induction max generalizing q with
  | zero => exact Nat.le_refl 0
  | succ max ih =>
    cases q with
    | nil => exact Nat.zero_le _
    | cons c q =>
      rw [hexDigits]
      cases hexDigit c with
      | none => exact Nat.zero_le _
      | some d => exact Nat.succ_le_succ (ih q)

/-- What begins with no digit adds none. -/
theorem hexDigits_append (max : Nat) (q : Text) {rest : Text} (h : ∀ c ∈ rest.head?, hexDigit c = none) :
    hexDigits max (q ++ rest) = hexDigits max q := by
  induction max generalizing q with
  | zero => rfl
  | succ max ih =>
    cases q with
    | nil =>
      cases rest with
      | nil => rfl
      | cons c rest =>
        rw [List.nil_append]
        simp only [hexDigits, h c rfl]
    | cons c q => rw [List.cons_append, hexDigits, hexDigits, ih]

theorem networkId_append (q : Text) {rest : Text} (h : ∀ c ∈ rest.head?, hexDigit c = none) :
    networkId (q ++ rest) = networkId q := by
  unfold networkId
  rw [hexDigits_append 16 q h]

/-- Of a network id that is cut short nothing is left. -/
theorem networkId_mono {q' q : Text} {v : U64} (h : q' <+: q) (hv : networkId q' = some v) :
    networkId q = some v := by
  unfold networkId at hv ⊢
  dsimp only at hv ⊢
  split at hv
  · rename_i hvalid
    have hsame : hexDigits 16 q' = hexDigits 16 q :=
      (hexDigits_mono 16 h).eq_of_length_le (by rw [hvalid.1]; exact hexDigits_length_le 16 q)
    rw [← hsame, if_pos hvalid, hv]
  · cases hv

theorem nwidOf_mono {p' p : Text} {v : U64} (h : p' <+: p) (hv : nwidOf p' = some v) : nwidOf p = some v := by
  obtain ⟨q', ha, hid⟩ := Option.bind_eq_some_iff.mp hv
  obtain ⟨q, hq, hprefix⟩ := assigned_mono h ha
  exact Option.bind_eq_some_iff.mpr ⟨q, hq, networkId_mono hprefix hid⟩

/-- An assignment of a network id is neither a header nor a comment. -/
theorem assigned_line {p q : Text} (h : assigned (ascii "nwid") p = some q) :
    isHeader p = false ∧ commented p = false := by
  unfold assigned at h
  split at h
  · rename_i hkey
    obtain ⟨rest, rfl⟩ := List.isPrefixOf_iff_prefix.mp hkey
    exact ⟨rfl, rfl⟩
  · cases h

theorem nwidOf_line {p : Text} {v : U64} (hv : nwidOf p = some v) : isHeader p = false ∧ commented p = false := by
  obtain ⟨q, ha, -⟩ := Option.bind_eq_some_iff.mp hv
  exact assigned_line ha

theorem savedNetworkIn_singleton {wanted l : Text} {inSection : Bool} {v : U64}
    (hv : savedNetworkIn wanted inSection [l] = some v) :
    inSection = true ∧ nwidOf (skipBlanks l) = some v := by
  rw [savedNetworkIn] at hv
  dsimp only [savedNetworkIn] at hv
  split_ifs at hv with hheader hin
  refine ⟨(Bool.and_eq_true_iff.mp hin).1, ?_⟩
  unfold nwidOf
  cases ha : assigned (ascii "nwid") (skipBlanks l) with
  | none =>
    rw [ha] at hv
    cases hv
  | some q =>
    rw [ha] at hv
    exact hv

/-- A network that is found stays the one that is found. -/
theorem savedNetworkIn_mono (wanted : Text) {ls' ls : List Text} (h : Truncates ls' ls) {inSection : Bool} {v : U64}
    (hv : savedNetworkIn wanted inSection ls' = some v) : savedNetworkIn wanted inSection ls = some v := by
  induction h generalizing inSection with
  | nil ls => cases hv
  | @last l' l ls hl =>
    obtain ⟨hin, hnwid⟩ := savedNetworkIn_singleton hv
    have hwhole : nwidOf (skipBlanks l) = some v := nwidOf_mono (dropWhile_mono isBlank hl) hnwid
    obtain ⟨hheader, hcomment⟩ := nwidOf_line hwhole
    obtain ⟨q, ha, hid⟩ := Option.bind_eq_some_iff.mp hwhole
    rw [savedNetworkIn, hheader, if_neg Bool.false_ne_true, hcomment, hin, if_pos (by decide), ha]
    exact hid
  | cons l h ih =>
    rw [savedNetworkIn] at hv ⊢
    split_ifs at hv ⊢
    · exact ih hv
    · cases ha : assigned (ascii "nwid") (skipBlanks l) with
      | none =>
        rw [ha] at hv
        exact ih hv
      | some q =>
        rw [ha] at hv
        exact hv
    · exact ih hv

/-- A network id is found in the section. -/
theorem savedNetworkIn_id (wanted : Text) (inSection : Bool) {l : Text} {v : U64}
    (hv : nwidOf (skipBlanks l) = some v) :
    savedNetworkIn wanted inSection [l] = if inSection then some v else none := by
  obtain ⟨hheader, hcomment⟩ := nwidOf_line hv
  obtain ⟨q, ha, hid⟩ := Option.bind_eq_some_iff.mp hv
  simp only [savedNetworkIn, hheader, hcomment, ha, hid]
  cases inSection <;> rfl

/-- What is found with one more line is found without it, or is the line's. -/
theorem savedNetworkIn_snoc {wanted : Text} {inSection : Bool} {ls : List Text} {line : Text} {v : U64}
    (h : savedNetworkIn wanted inSection (ls ++ [line]) = some v) :
    savedNetworkIn wanted inSection ls = some v ∨ nwidOf (skipBlanks line) = some v := by
  induction ls generalizing inSection with
  | nil => exact .inr (savedNetworkIn_singleton h).2
  | cons l ls ih =>
    rw [List.cons_append, savedNetworkIn] at h
    rw [savedNetworkIn]
    split_ifs at h ⊢
    · exact ih h
    · cases ha : assigned (ascii "nwid") (skipBlanks l) with
      | none =>
        rw [ha] at h
        exact ih h
      | some q =>
        rw [ha] at h
        exact .inl h
    · exact ih h

/-- Once its id has been read, the rest of the last line does not matter. -/
theorem savedNetworkIn_last (wanted : Text) (inSection : Bool) (ls : List Text) {l line : Text} {v : U64}
    (hl : l <+: line) (hv : nwidOf (skipBlanks l) = some v) :
    savedNetworkIn wanted inSection (ls ++ [l]) = savedNetworkIn wanted inSection (ls ++ [line]) := by
  induction ls generalizing inSection with
  | nil =>
    have hwhole : nwidOf (skipBlanks line) = some v := nwidOf_mono (dropWhile_mono isBlank hl) hv
    rw [List.nil_append, List.nil_append, savedNetworkIn_id wanted inSection hv,
      savedNetworkIn_id wanted inSection hwhole]
  | cons m ls ih => rw [List.cons_append, List.cons_append, savedNetworkIn, savedNetworkIn, ih, ih]

namespace SavedNetworks

/-- More has been read: entries are added, and the first stays the first. -/
structure Extends (s t : SavedNetworks) : Prop where
  count : s.validCount ≤ t.validCount
  candidate : s.validCount ≠ 0 → t.candidateNwid = s.candidateNwid

theorem Extends.refl (s : SavedNetworks) : Extends s s := ⟨Nat.le_refl _, fun _ => rfl⟩

theorem Extends.trans {s t u : SavedNetworks} (h : Extends s t) (h' : Extends t u) : Extends s u :=
  ⟨Nat.le_trans h.count h'.count, fun hs => by
    rw [h'.candidate (by have := h.count; omega), h.candidate hs]⟩

/-- What a network id does, wherever the line has it. -/
theorem readLine_nwid (nameLen : Nat) (s : SavedNetworks) {line : Text} {v : U64}
    (hv : nwidOf (skipBlanks line) = some v) :
    s.readLine nameLen line =
      if s.usable ∧ s.current.length < nameLen then
        if s.validCount = 0 then { s with candidate := s.current, candidateNwid := v, validCount := 1 }
        else { s with validCount := s.validCount + 1 }
      else s := by
  obtain ⟨hheader, hcomment⟩ := nwidOf_line hv
  unfold readLine
  dsimp only
  rw [hheader, hcomment, hv, if_neg Bool.false_ne_true]
  cases hu : s.usable <;> simp

/-- A line adds the entry it has, or nothing. -/
theorem readLine_cases (nameLen : Nat) (s : SavedNetworks) (line : Text) :
    ((s.readLine nameLen line).validCount = s.validCount ∧
        (s.readLine nameLen line).candidateNwid = s.candidateNwid) ∨
      ∃ v, nwidOf (skipBlanks line) = some v ∧ (s.readLine nameLen line).validCount = s.validCount + 1 ∧
        (s.readLine nameLen line).candidateNwid = (if s.validCount = 0 then v else s.candidateNwid) := by
  unfold readLine
  dsimp only
  split
  · split
    · split <;> exact .inl ⟨rfl, rfl⟩
    · exact .inl ⟨rfl, rfl⟩
  · split
    · cases hv : nwidOf (skipBlanks line) with
      | none => exact .inl ⟨rfl, rfl⟩
      | some v =>
        dsimp only
        split
        · split
          · rename_i hzero
            exact .inr ⟨v, rfl, by rw [hzero], rfl⟩
          · exact .inr ⟨v, rfl, rfl, rfl⟩
        · exact .inl ⟨rfl, rfl⟩
    · exact .inl ⟨rfl, rfl⟩

theorem readLine_extends (nameLen : Nat) (s : SavedNetworks) (line : Text) :
    Extends s (s.readLine nameLen line) := by
  rcases readLine_cases nameLen s line with ⟨hcount, hsame⟩ | ⟨v, -, hcount, hnwid⟩
  · exact ⟨hcount.ge, fun _ => hsame⟩
  · exact ⟨by omega, fun hs => by rw [hnwid, if_neg hs]⟩

theorem foldl_extends (nameLen : Nat) (ls : List Text) (s : SavedNetworks) :
    Extends s (ls.foldl (readLine nameLen) s) := by
  induction ls generalizing s with
  | nil => exact .refl s
  | cons l ls ih => exact (readLine_extends nameLen s l).trans (ih _)

/-- An entry in the beginning of a line is the line's. -/
theorem readLine_mono (nameLen : Nat) (s : SavedNetworks) {l' l : Text} (h : l' <+: l) :
    Extends (s.readLine nameLen l') (s.readLine nameLen l) := by
  rcases readLine_cases nameLen s l' with ⟨hcount, hsame⟩ | ⟨v, hv, hcount, -⟩
  · have hs := readLine_extends nameLen s l
    exact ⟨by rw [hcount]; exact hs.count, fun hne => by rw [hsame, hs.candidate (by omega)]⟩
  · rw [readLine_nwid nameLen s hv, readLine_nwid nameLen s (nwidOf_mono (dropWhile_mono isBlank h) hv)]
    exact .refl _

theorem foldl_truncates (nameLen : Nat) {ls' ls : List Text} (h : Truncates ls' ls) (s : SavedNetworks) :
    Extends (ls'.foldl (readLine nameLen) s) (ls.foldl (readLine nameLen) s) := by
  induction h generalizing s with
  | nil ls => exact foldl_extends nameLen ls s
  | last ls hl => exact (readLine_mono nameLen s hl).trans (foldl_extends nameLen ls _)
  | cons l h ih => exact ih _

theorem read_extends (nameLen : Nat) {p t : Text} (h : p <+: t) : Extends (read nameLen p) (read nameLen t) :=
  foldl_truncates nameLen (linesOf_truncates h) {}

end SavedNetworks

/-- The only entry of a beginning is the first of the text. -/
theorem parseFirstSavedNetwork_first {nameLen : Nat} {p t : Text} {found : Text × U64} (h : p <+: t)
    (hf : parseFirstSavedNetwork p nameLen = some found) :
    (SavedNetworks.read nameLen t).first = some found.2 := by
  have hext := SavedNetworks.read_extends nameLen h
  unfold parseFirstSavedNetwork at hf
  dsimp only at hf
  split at hf
  · rename_i hone
    have hcount := hext.count
    rw [SavedNetworks.first, if_neg (by omega), hext.candidate (by omega)]
    cases hf
    rfl
  · cases hf

end SysZerotier.Config
