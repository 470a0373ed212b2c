import SysZerotier.Config.Values

/-! What of a configuration does not matter: its comments, and how its lines end
(`source/zt_port.cpp`).

Comments and blank lines are not seen by any of the scanners (`comments_invisible`). A
carriage return in front of every newline changes nothing either, but for a switch that is
assigned nothing: `ConfigFlag` does not trim the end of a value as `ParseConfigString`
does, so the carriage return is the value there (`crlf_scans_iff`). -/
namespace SysZerotier.Config.Layout
open Net Library Values

/-- Each scanner finds the same in both texts. -/
structure SameScans (allowCommented : Bool) (key wanted : Text) (outLen nameLen : Nat) (flag : Bool) (value : Int)
    (text text' : Text) : Prop where
  parseNwid : parseNwid text' allowCommented = parseNwid text allowCommented
  parseConfigString : parseConfigString text' key outLen = parseConfigString text key outLen
  parseSavedNetwork : parseSavedNetwork text' wanted = parseSavedNetwork text wanted
  parseFirstSavedNetwork : parseFirstSavedNetwork text' nameLen = parseFirstSavedNetwork text nameLen
  configFlag : configFlag (some text') key flag = configFlag (some text) key flag
  configValue : Values.configValue (some text') key value = Values.configValue (some text) key value
  configIpv4 : configIpv4 (some text') key = configIpv4 (some text) key

/-! ### Comments -/

/-- A comment, or a blank line. -/
def invisible (line : Text) : Bool := commented (skipBlanks line) || line.all fun c => isBlank c || c == 13

def visibleLines (text : Text) : List Text := (linesOf text).filter fun line => !invisible line

/-- An assignment has the sign that makes it one. -/
theorem assigned_sign {key p q : Text} (h : assigned key p = some q) : (61 : U8) ∈ p := by
  rw [assigned] at h
  split at h
  · have hmem : ∀ c ∈ skipBlanks (p.drop key.length), c ∈ p := fun c hc =>
      List.mem_of_mem_drop ((List.dropWhile_sublist isBlank).subset hc)
    generalize skipBlanks (p.drop key.length) = rest at h hmem
    cases rest with
    | nil => cases h
    | cons c rest =>
      dsimp only at h
      split at h
      · rename_i hc
        exact hc ▸ hmem c List.mem_cons_self
      · cases h
  · cases h

/-- A blank line begins no section and assigns nothing. -/
theorem blank_line {line : Text} (h : line.all (fun c => isBlank c || c == 13) = true) :
    isHeader (skipBlanks line) = false ∧ ∀ key, assigned key (skipBlanks line) = none := by
  have hall : ∀ c ∈ skipBlanks line, isBlank c = true ∨ c = 13 := fun c hc => by
    have hc := List.all_eq_true.mp h c ((List.dropWhile_sublist isBlank).subset hc)
    rwa [Bool.or_eq_true, beq_iff_eq] at hc
  have hno : ∀ c : U8, isBlank c = false → c ≠ 13 → c ∉ skipBlanks line := fun c hblank hcr hmem =>
    (hall c hmem).elim (fun htrue => absurd (hblank.symm.trans htrue) Bool.false_ne_true) hcr
  constructor
  · cases hp : skipBlanks line with
    | nil => rfl
    | cons c p =>
      refine beq_false_of_ne fun hhead => hno 91 rfl (by decide) ?_
      rw [hp, ← Option.some.inj hhead]
      exact List.mem_cons_self
  · intro key
    cases ha : assigned key (skipBlanks line) with
    | none => rfl
    | some q => exact absurd (assigned_sign ha) (hno 61 rfl (by decide))

theorem comment_not_header {p : Text} (h : commented p = true) : isHeader p = false := by
  cases p with
  | nil => rfl
  | cons c p =>
    refine beq_false_of_ne fun hhead => ?_
    rw [Option.some.inj hhead] at h
    cases h

/-- What the scanners make of a line that is not to be seen. -/
theorem invisible_line {line : Text} (h : invisible line = true) :
    isHeader (skipBlanks line) = false ∧ ∀ key, valueOf key line = none := by
  rcases Bool.or_eq_true_iff.mp h with hcomment | hblank
  · exact ⟨comment_not_header hcomment, fun key => if_pos hcomment⟩
  · obtain ⟨hheader, hnone⟩ := blank_line hblank
    refine ⟨hheader, fun key => ?_⟩
    rw [valueOf]
    simp [hnone key]

theorem assignments_visible (key text : Text) :
    assignments key text = (visibleLines text).filterMap (valueOf key) := by
  rw [assignments, visibleLines]
  rw [List.filterMap_filter]
  refine List.filterMap_congr fun line _ => ?_
  cases h : invisible line with
  | true => exact (invisible_line h).2 key
  | false => rfl

theorem savedNetworkIn_visible (wanted : Text) (inSection : Bool) (ls : List Text) :
    savedNetworkIn wanted inSection ls =
      savedNetworkIn wanted inSection (ls.filter fun line => !invisible line) := by
  induction ls generalizing inSection with
  | nil => rfl
  | cons line ls ih =>
    cases h : invisible line with
    | true =>
      obtain ⟨hheader, hnone⟩ := invisible_line h
      have hskip : savedNetworkIn wanted inSection (line :: ls) = savedNetworkIn wanted inSection ls := by
        rw [savedNetworkIn, hheader, if_neg Bool.false_ne_true]
        split
        · rename_i hin
          have hcomment : commented (skipBlanks line) = false := by simpa using (Bool.and_eq_true_iff.mp hin).2
          rw [← valueOf_uncommented _ hcomment, hnone]
        · rfl
      rw [hskip, ih, List.filter_cons_of_neg (by rw [h]; decide)]
    | false =>
      rw [List.filter_cons_of_pos (by rw [h]; decide), savedNetworkIn, savedNetworkIn]
      simp only [← ih]

theorem readLine_invisible (nameLen : Nat) (s : SavedNetworks) {line : Text} (h : invisible line = true) :
    s.readLine nameLen line = s := by
  obtain ⟨hheader, hnone⟩ := invisible_line h
  unfold SavedNetworks.readLine nwidOf
  dsimp only
  rw [hheader, if_neg Bool.false_ne_true]
  split
  · rename_i hin
    have hcomment : commented (skipBlanks line) = false := by simpa using (Bool.and_eq_true_iff.mp hin).2
    rw [← valueOf_uncommented _ hcomment, hnone]
    rfl
  · rfl

theorem read_visible (nameLen : Nat) (text : Text) :
    SavedNetworks.read nameLen text = (visibleLines text).foldl (SavedNetworks.readLine nameLen) {} := by
  rw [SavedNetworks.read, visibleLines]
  rw [List.foldl_filter]
  congr 1
  funext s line
  cases h : invisible line with
  | true => exact readLine_invisible nameLen s h
  | false => rfl

/-- The scanners see no more than the visible lines. -/
theorem sameScans_of_visible {text text' : Text} (h : visibleLines text' = visibleLines text) (key wanted : Text)
    (outLen nameLen : Nat) (flag : Bool) (value : Int) :
    SameScans false key wanted outLen nameLen flag value text text' := by
  have hassignments : ∀ key, assignments key text' = assignments key text := fun key => by
    rw [assignments_visible, assignments_visible, h]
  refine ⟨?_, ?_, ?_, ?_, ?_, ?_, ?_⟩
  · rw [parseNwid_eq, parseNwid_eq, hassignments]
  · by_cases hlen : outLen = 0
    · rw [parseConfigString, parseConfigString, if_pos hlen, if_pos hlen]
    · rw [parseConfigString_eq _ _ hlen, parseConfigString_eq _ _ hlen, hassignments]
  · rw [parseSavedNetwork, parseSavedNetwork, savedNetworkIn_visible, savedNetworkIn_visible _ _ (linesOf text)]
    exact congrArg _ h
  · rw [parseFirstSavedNetwork, parseFirstSavedNetwork, read_visible, read_visible, h]
  · rw [configFlag, configFlag, hassignments]
  · rw [Values.configValue, Values.configValue, hassignments]
  · rw [configIpv4, configIpv4, hassignments]

/-- `c` is put between `a` and `b`, as lines of its own that are not to be seen. A last line need not
end with a newline. -/
structure Inserts (a c b : Text) : Prop where
  starts : a = [] ∨ a.getLast? = some 10 ∨ b = [] ∧ c.head? = some 10
  ends : b = [] ∨ c = [] ∨ c.getLast? = some 10
  unseen : ∀ line ∈ lines 10 c, invisible line = true
  noZero : (0 : U8) ∉ c

theorem Inserts.filter_lines {a c b : Text} (h : Inserts a c b) (b' : Text) (hb : b = [] → b' = []) :
    (lines 10 (a ++ (c ++ b'))).filter (fun line => !invisible line) =
      (lines 10 (a ++ b')).filter fun line => !invisible line := by
  have hunseen : ∀ ls : List Text, (∀ line ∈ ls, invisible line = true) →
      ls.filter (fun line => !invisible line) = [] := fun ls hls =>
    List.filter_eq_nil_iff.mpr fun line hline => by rw [hls line hline]; decide
  by_cases ha : a = [] ∨ a.getLast? = some 10
  · have hc : (lines 10 (c ++ b')).filter (fun line => !invisible line) =
        (lines 10 b').filter fun line => !invisible line := by
      rcases h.ends with hnil | hc
      · rw [hb hnil, List.append_nil, hunseen _ h.unseen]
        rfl
      · rw [lines_append 10 hc, List.filter_append, hunseen _ h.unseen, List.nil_append]
    rw [lines_append 10 ha, lines_append 10 ha, List.filter_append, List.filter_append, hc]
  · -- the newline that the text lacks is the first of `c`
    obtain ⟨hnil, hend⟩ := not_or.mp ha
    obtain ⟨hlast, hhead⟩ := (h.starts.resolve_left hnil).resolve_left hend
    obtain ⟨c', rfl⟩ := List.head?_eq_some_iff.mp hhead
    have hunseen' : ∀ line ∈ lines 10 c', invisible line = true := fun line hline =>
      h.unseen line (by rw [lines, if_pos rfl]; exact List.mem_cons_of_mem _ hline)
    rw [hb hlast, List.append_nil, List.append_nil, List.append_cons,
      lines_append 10 (.inr (List.getLast?_concat ..)), lines_concat 10 hnil hend, List.filter_append,
      hunseen _ hunseen', List.append_nil]

theorem Inserts.visible {a c b : Text} (h : Inserts a c b) : visibleLines (a ++ c ++ b) = visibleLines (a ++ b) := by
  unfold visibleLines linesOf
  have hb : b = [] → b.takeWhile (fun x => x != 0) = [] := fun hnil => by rw [hnil]; rfl
  rw [List.append_assoc]
  by_cases hzero : (0 : U8) ∈ a
  · -- nothing behind a zero byte is text
    have hcut : ∀ rest : Text, (a ++ rest).takeWhile (fun x => x != 0) = a.takeWhile fun x => x != 0 := by
      intro rest
      rw [List.takeWhile_append, if_neg]
      intro hlen
      have hall : a.takeWhile (fun x => x != 0) = a := (List.takeWhile_prefix _).eq_of_length hlen
      rw [← hall] at hzero
      exact absurd (List.mem_takeWhile_imp hzero) (by decide)
    rw [hcut, hcut]
  · have hkeep : ∀ t : Text, (0 : U8) ∉ t → ∀ x ∈ t, (x != 0) = true := fun t ht x hx =>
      bne_iff_ne.mpr (ne_of_mem_of_not_mem hx ht)
    rw [List.takeWhile_append_of_pos (hkeep a hzero), List.takeWhile_append_of_pos (hkeep c h.noZero),
      List.takeWhile_append_of_pos (hkeep a hzero), h.filter_lines _ hb]

/-- **Comments are invisible**: no scanner finds anything else when blank lines and comments are
put between the lines, whatever they say. -/
theorem comments_invisible {a c b : Text} (h : Inserts a c b) (key wanted : Text) (outLen nameLen : Nat)
    (flag : Bool) (value : Int) : SameScans false key wanted outLen nameLen flag value (a ++ b) (a ++ c ++ b) :=
  sameScans_of_visible h.visible key wanted outLen nameLen flag value

/-- A commented section and a commented network id. -/
theorem commented_network_invisible :
    SameScans false (ascii "selected") (ascii "home") 96 96 false 0
      (ascii "[home]\n" ++ ascii "nwid = 8056c2e21c000001\n")
      (ascii "[home]\n" ++ ascii "; [work]\n\n  # nwid = 8056c2e21c000002\n" ++ ascii "nwid = 8056c2e21c000001\n") :=
  comments_invisible ⟨.inr (.inl (by decide)), .inr (.inr (by decide)), by decide, by decide⟩ _ _ 96 96 false 0

/-! ### Line ends -/

/-- Every newline becomes a carriage return and a newline. -/
def crlf (text : Text) : Text := precede 10 13 text

/-- A carriage return after the text, if a newline follows it. -/
def withCr (l : Text × Bool) : Text := if l.2 then l.1 ++ [13] else l.1

/-- The lines up to the zero byte, each with whether a newline ends it. -/
def endedLinesOf (text : Text) : List (Text × Bool) := endedLines 10 (text.takeWhile fun c => c != 0)

theorem linesOf_eq (text : Text) : linesOf text = (endedLinesOf text).map Prod.fst :=
  (endedLines_fst 10 _).symm

theorem takeWhile_crlf (text : Text) :
    (crlf text).takeWhile (fun c => c != 0) = crlf (text.takeWhile fun c => c != 0) := by
  induction text with
  | nil => rfl
  | cons c text ih =>
    unfold crlf at ih ⊢
    rw [precede_cons]
    by_cases hc : c = 10
    · subst hc
      simpa [precede_cons] using ih
    · rw [if_neg hc, List.singleton_append, List.takeWhile_cons, List.takeWhile_cons, ih]
      split
      · rw [precede_cons, if_neg hc, List.singleton_append]
      · rfl

theorem linesOf_crlf (text : Text) : linesOf (crlf text) = (endedLinesOf text).map withCr := by
  rw [linesOf_eq, endedLinesOf, takeWhile_crlf, crlf, endedLines_precede 10 (by decide), List.map_map]
  rfl

theorem dropWhile_cr {f : U8 → Bool} (hf : f 13 = false) (p : Text) :
    (p ++ [13]).dropWhile f = p.dropWhile f ++ [13] := by
  induction p with
  | nil => exact List.dropWhile_cons_of_neg (by rw [hf]; exact Bool.false_ne_true)
  | cons c p ih =>
    rw [List.cons_append, List.dropWhile_cons, List.dropWhile_cons, ih]
    split <;> rfl

theorem skipBlanks_cr (p : Text) : skipBlanks (p ++ [13]) = skipBlanks p ++ [13] := dropWhile_cr rfl p

theorem commented_cr (p : Text) : commented (p ++ [13]) = commented p := by
  cases p <;> rfl

theorem isHeader_cr (p : Text) : isHeader (p ++ [13]) = isHeader p := by
  cases p <;> rfl

theorem sectionName_cr (p : Text) : sectionName (p ++ [13]) = sectionName p := by
  cases p with
  | nil => rfl
  | cons c p =>
    unfold sectionName
    have hle : (p.takeWhile fun c => c != 93).length ≤ p.length := (List.takeWhile_sublist _).length_le
    rw [List.cons_append, List.tail_cons, List.tail_cons, List.takeWhile_append, List.length_append]
    by_cases hlen : (p.takeWhile fun c => c != 93).length = p.length
    · have hopen : ¬(p ++ [13].takeWhile fun c => c != 93).length < p.length + [(13 : U8)].length := by
        rw [List.length_append]
        exact Nat.lt_irrefl _
      rw [if_pos hlen]
      dsimp only
      rw [if_neg hopen, if_neg (by omega)]
    · rw [if_neg hlen]
      dsimp only
      rw [if_pos (by omega), if_pos (by omega)]

theorem assigned_cr (key p : Text) : assigned key (p ++ [13]) = (assigned key p).map (· ++ [13]) := by
  unfold assigned
  by_cases hkey : key.isPrefixOf p = true
  · have hle : key.length ≤ p.length := (List.isPrefixOf_iff_prefix.mp hkey).length_le
    have hkey' : key.isPrefixOf (p ++ [13]) = true :=
      List.isPrefixOf_iff_prefix.mpr ((List.isPrefixOf_iff_prefix.mp hkey).trans (List.prefix_append p [13]))
    rw [if_pos hkey, if_pos hkey', List.drop_append_of_le_length hle, skipBlanks_cr]
    cases skipBlanks (p.drop key.length) with
    | nil => rfl
    | cons c q =>
      rw [List.cons_append]
      dsimp only
      split
      · rw [skipBlanks_cr]
        rfl
      · rfl
  · rw [if_neg hkey]
    split
    · -- the key ends with the carriage return, so no sign follows it
      rename_i hkey'
      have hwhole : key = p ++ [13] :=
        (List.prefix_concat_iff.mp (List.isPrefixOf_iff_prefix.mp hkey')).resolve_right fun h =>
          hkey (List.isPrefixOf_iff_prefix.mpr h)
      rw [hwhole, List.drop_length]
      rfl
    · rfl

theorem valueOf_cr (key line : Text) : valueOf key (line ++ [13]) = (valueOf key line).map (· ++ [13]) := by
  unfold valueOf
  dsimp only
  rw [skipBlanks_cr, commented_cr, assigned_cr]
  split <;> rfl

theorem networkId_cr (q : Text) : networkId (q ++ [13]) = networkId q := networkId_append q (by decide)

theorem nwidOf_cr (p : Text) : nwidOf (p ++ [13]) = nwidOf p := by
  unfold nwidOf
  rw [assigned_cr]
  cases assigned (ascii "nwid") p with
  | none => rfl
  | some q => exact networkId_cr q

theorem configValue_cr (q : Text) (outLen : Nat) : configValue (q ++ [13]) outLen = configValue q outLen := by
  unfold configValue
  rw [List.rdropWhile_concat_pos]
  rfl

theorem readDigits_cr (n : Number) (q : Text) :
    readDigits n (q ++ [13]) = (do let r ← readDigits n q; return (r.1, r.2 ++ [13])) := by
  induction q generalizing n with
  | nil => rfl
  | cons c q ih =>
    rw [List.cons_append, readDigits, readDigits]
    split
    · cases Guarded.mul n.v 10 (IntMax + 1) with
      | error fault => rfl
      | ok tens =>
        rw [ok_bind, ok_bind]
        cases Guarded.add tens (c.toNat - 48) (IntMax + 1) with
        | error fault => rfl
        | ok v => exact ih _
    · rfl

theorem readValue_cr (result : Int) (q : Text) : readValue result (q ++ [13]) = readValue result q := by
  unfold readValue
  rw [readDigits_cr]
  cases readDigits {} q <;> rfl

theorem readOctets_cr (left : Nat) (ip : U32) (q : Text) :
    readOctets left ip (q ++ [13]) = readOctets left ip q := by
  induction left generalizing ip q with
  | zero => rfl
  | succ left ih =>
    rw [readOctets, readOctets, readDigits_cr]
    cases readDigits {} q with
    | error fault => rfl
    | ok r =>
      rw [ok_bind, ok_bind, pure_eq_ok, ok_bind]
      obtain ⟨n, rest⟩ := r
      cases rest with
      | nil => rfl
      | cons c rest =>
        dsimp only [List.cons_append, List.head?_cons, List.tail_cons]
        rw [ih]
        rfl

/-! ### Carriage returns in a whole text -/

/-- What is assigned to the key, each value with whether a newline ends its line. -/
def endedAssignments (key text : Text) : List (Text × Bool) :=
  (endedLinesOf text).filterMap fun l => (valueOf key l.1).map (·, l.2)

theorem assignments_eq (key text : Text) : assignments key text = (endedAssignments key text).map Prod.fst := by
  rw [assignments, endedAssignments]
  rw [linesOf_eq, List.filterMap_map, List.map_filterMap]
  refine List.filterMap_congr fun l _ => ?_
  cases h : valueOf key l.1 <;> simp [h]

theorem assignments_crlf (key text : Text) :
    assignments key (crlf text) = (endedAssignments key text).map withCr := by
  rw [assignments, endedAssignments]
  rw [linesOf_crlf, List.filterMap_map, List.map_filterMap]
  refine List.filterMap_congr fun l _ => ?_
  obtain ⟨line, ended⟩ := l
  cases ended with
  | false => cases h : valueOf key line <;> simp [h, withCr]
  | true =>
    show valueOf key (line ++ [13]) = ((valueOf key line).map (·, true)).map withCr
    rw [valueOf_cr, Option.map_map]
    rfl

/-- What ignores a carriage return at the end ignores those of a text. -/
theorem foldl_withCr {β : Type} (f : β → Text → β) (hf : ∀ b q, f b (q ++ [13]) = f b q) (b : β)
    (ls : List (Text × Bool)) : (ls.map withCr).foldl f b = (ls.map Prod.fst).foldl f b := by
  induction ls generalizing b with
  | nil => rfl
  | cons l ls ih =>
    obtain ⟨line, ended⟩ := l
    rw [List.map_cons, List.map_cons, List.foldl_cons, List.foldl_cons, ih]
    cases ended with
    | false => rfl
    | true => exact congrArg (fun b => (ls.map Prod.fst).foldl f b) (hf b line)

theorem foldlM_readValue_withCr (value : Int) (ls : List (Text × Bool)) :
    (ls.map withCr).foldlM readValue value = (ls.map Prod.fst).foldlM readValue value := by
  induction ls generalizing value with
  | nil => rfl
  | cons l ls ih =>
    obtain ⟨line, ended⟩ := l
    rw [List.map_cons, List.map_cons, List.foldlM_cons, List.foldlM_cons]
    simp only [ih]
    cases ended with
    | false => rfl
    | true => exact congrArg (· >>= _) (readValue_cr value line)

theorem lastIpv4_withCr (result : U32) (ls : List (Text × Bool)) :
    lastIpv4 result (ls.map withCr) = lastIpv4 result (ls.map Prod.fst) := by
  induction ls generalizing result with
  | nil => rfl
  | cons l ls ih =>
    obtain ⟨line, ended⟩ := l
    rw [List.map_cons, List.map_cons, lastIpv4, lastIpv4]
    simp only [ih]
    cases ended with
    | false => rfl
    | true => exact congrArg (· >>= _) (readOctets_cr 4 0 line)

theorem parseNwid_crlf (text : Text) (allowCommented : Bool) :
    parseNwid (crlf text) allowCommented = parseNwid text allowCommented := by
  unfold parseNwid
  rw [linesOf_crlf, linesOf_eq]
  refine foldl_withCr _ (fun found line => ?_) none _
  cases allowCommented with
  | false => simp only [skipBlanks_cr, Bool.false_eq_true, if_false, commented_cr, nwidOf_cr]
  | true =>
    have hskip := dropWhile_cr (f := fun c => isComment c || isBlank c) (by decide) (skipBlanks line)
    simp only [skipBlanks_cr, if_true, hskip, nwidOf_cr, Bool.true_or]

theorem savedNetworkIn_withCr (wanted : Text) (inSection : Bool) (ls : List (Text × Bool)) :
    savedNetworkIn wanted inSection (ls.map withCr) = savedNetworkIn wanted inSection (ls.map Prod.fst) := by
  induction ls generalizing inSection with
  | nil => rfl
  | cons l ls ih =>
    obtain ⟨line, ended⟩ := l
    cases ended with
    | false => simp only [List.map_cons, withCr, savedNetworkIn, ih, Bool.false_eq_true, if_false]
    | true =>
      simp only [List.map_cons, withCr, if_true, savedNetworkIn, skipBlanks_cr, isHeader_cr, sectionName_cr,
        commented_cr, assigned_cr, ih]
      cases assigned (ascii "nwid") (skipBlanks line) with
      | none => rfl
      | some q => simp only [Option.map_some, networkId_cr]

theorem readLine_cr (nameLen : Nat) (s : SavedNetworks) (line : Text) :
    s.readLine nameLen (line ++ [13]) = s.readLine nameLen line := by
  unfold SavedNetworks.readLine
  simp only [skipBlanks_cr, isHeader_cr, sectionName_cr, commented_cr, nwidOf_cr]

/-! ### Switches that are assigned nothing -/

/-- What a switch is set to, if it is: by the last value that is not empty. -/
def lastSet (qs : List Text) : Option Text := (qs.filter fun q => !q.isEmpty).getLast?

/-- The switch is off. -/
def Off (flag : Bool) (qs : List Text) : Prop :=
  match lastSet qs with
  | some q => q.head? = some 48
  | none => flag = false

/-- A switch that is off is assigned nothing last, on a line that a newline ends. -/
def Emptied (flag : Bool) (as : List (Text × Bool)) : Prop :=
  (∃ a ∈ as.rtakeWhile fun a => a.1.isEmpty, a.2 = true) ∧ Off flag (as.map Prod.fst)

theorem off_concat_nil (flag : Bool) (qs : List Text) : Off flag (qs ++ [[]]) = Off flag qs := by
  have hlast : lastSet (qs ++ [[]]) = lastSet qs := by
    rw [lastSet]
    rw [List.filter_append]
    exact congrArg List.getLast? (List.append_nil _)
  rw [Off, Off, hlast]

theorem off_concat_cons (flag : Bool) (qs : List Text) (c : U8) (q : Text) :
    Off flag (qs ++ [c :: q]) ↔ c = 48 := by
  have hlast : lastSet (qs ++ [c :: q]) = some (c :: q) := by
    rw [lastSet]
    rw [List.filter_append]
    exact List.getLast?_concat ..
  rw [Off, hlast]
  exact Option.some_inj

theorem foldl_readFlag (flag : Bool) (qs : List Text) : qs.foldl readFlag flag = false ↔ Off flag qs := by
  induction qs using List.reverseRecOn with
  | nil => exact Iff.rfl
  | append_singleton qs q ih =>
    rw [List.foldl_append]
    cases q with
    | nil =>
      rw [off_concat_nil, ← ih]
      exact Iff.rfl
    | cons c q =>
      rw [off_concat_cons]
      exact bne_eq_false_iff_eq

theorem emptied_concat (flag : Bool) (as : List (Text × Bool)) (a : Text × Bool) :
    Emptied flag (as ++ [a]) ↔ a.1 = [] ∧ (a.2 = true ∧ Off flag (as.map Prod.fst) ∨ Emptied flag as) := by
  obtain ⟨q, ended⟩ := a
  rw [Emptied]
  rw [List.rtakeWhile_concat, List.map_append]
  cases q with
  | nil =>
    simp only [List.isEmpty_nil, if_true, List.map_cons, List.map_nil, off_concat_nil, List.mem_append,
      List.mem_singleton, true_and]
    constructor
    · intro ⟨⟨x, hx, htrue⟩, hoff⟩
      rcases hx with hx | hx
      · exact .inr ⟨⟨x, hx, htrue⟩, hoff⟩
      · rw [hx] at htrue
        exact .inl ⟨htrue, hoff⟩
    · intro h
      rcases h with ⟨htrue, hoff⟩ | ⟨⟨x, hx, htrue⟩, hoff⟩
      · exact ⟨⟨([], ended), .inr rfl, htrue⟩, hoff⟩
      · exact ⟨⟨x, .inl hx, htrue⟩, hoff⟩
  | cons c q =>
    simp

/-- Only an empty value becomes another one. -/
theorem foldl_readFlag_withCr_iff (flag : Bool) (as : List (Text × Bool)) :
    (as.map withCr).foldl readFlag flag = (as.map Prod.fst).foldl readFlag flag ↔ ¬Emptied flag as := by
  induction as using List.reverseRecOn with
  | nil => simp [Emptied]
  | append_singleton as a ih =>
    obtain ⟨q, ended⟩ := a
    rw [emptied_concat, List.map_append, List.map_append, List.foldl_append, List.foldl_append]
    cases q with
    | nil =>
      cases ended with
      | false =>
        simpa [withCr, readFlag] using ih
      | true =>
        have hoff : Off flag (as.map Prod.fst) ∨ Emptied flag as ↔ Off flag (as.map Prod.fst) :=
          or_iff_left_of_imp fun h => h.2
        show true = (as.map Prod.fst).foldl readFlag flag ↔ _
        simp only [true_and]
        rw [hoff, ← foldl_readFlag, Bool.not_eq_false, eq_comm]
    | cons c q =>
      cases ended <;> simp [withCr, readFlag]

/-- **The ends of the lines do not matter**, exactly when no switch that is off is assigned nothing
after that. -/
theorem crlf_scans_iff (text key wanted : Text) (allowCommented : Bool) (outLen nameLen : Nat) (flag : Bool)
    (value : Int) :
    SameScans allowCommented key wanted outLen nameLen flag value text (crlf text) ↔
      ¬Emptied flag (endedAssignments key text) := by
  have hflag : configFlag (some (crlf text)) key flag = configFlag (some text) key flag ↔
      ¬Emptied flag (endedAssignments key text) := by
    rw [configFlag, configFlag, assignments_crlf, assignments_eq]
    exact foldl_readFlag_withCr_iff flag _
  constructor
  · intro h
    exact hflag.mp h.configFlag
  · intro h
    refine ⟨parseNwid_crlf text allowCommented, ?_, ?_, ?_, hflag.mpr h, ?_, ?_⟩
    · by_cases hlen : outLen = 0
      · rw [parseConfigString, parseConfigString, if_pos hlen, if_pos hlen]
      · rw [parseConfigString_eq _ _ hlen, parseConfigString_eq _ _ hlen, assignments_crlf, assignments_eq]
        exact foldl_withCr _ (fun _ q => configValue_cr q outLen) none _
    · rw [parseSavedNetwork, parseSavedNetwork, linesOf_crlf, linesOf_eq]
      exact savedNetworkIn_withCr wanted false _
    · rw [parseFirstSavedNetwork, parseFirstSavedNetwork, SavedNetworks.read, SavedNetworks.read, linesOf_crlf,
        linesOf_eq text, foldl_withCr _ (readLine_cr nameLen)]
    · rw [Values.configValue, Values.configValue, assignments_crlf, assignments_eq]
      exact foldlM_readValue_withCr value _
    · rw [configIpv4, configIpv4, assignments_crlf, assignments_eq]
      exact lastIpv4_withCr 0 _

/-- `debug_logging =`, with nothing after it. -/
theorem empty_switch_set_by_cr :
    ¬∀ (text key wanted : Text) (allowCommented : Bool) (outLen nameLen : Nat) (flag : Bool) (value : Int),
      text.length < ConfigFileCapacity → (crlf text).length < ConfigFileCapacity →
      SameScans allowCommented key wanted outLen nameLen flag value text (crlf text) := by
  intro h
  have hsame := (h (ascii "debug_logging =\n") (ascii "debug_logging") [] false 96 96 false 0 (by decide)
    (by decide)).configFlag
  exact absurd hsame (by decide)

end SysZerotier.Config.Layout
