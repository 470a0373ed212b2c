import SysZerotier.Config.Ini

/-! Which network the configuration asks for, and a catalog that is read in part
(`source/zt_port.cpp`).

The overlay rewrites `networks.ini` while the node thread polls it, so a poll may find
the file missing, or only its beginning. What such a poll resolves is no other network
exactly when the catalog is `Steady`, which is said of its lines: of what they select, of
the sections that stand before, and of the first entry (`catalog_steady_iff`). -/
namespace SysZerotier.Config
open Net Library

def ConfigFileCapacity : Nat := 4096

/-- The size of the buffer for the selected network's name. -/
def SelectedCapacity : Nat := 96

/-- The selection in the catalog, or the one in `config.ini`. -/
def selection (config saved : Option Text) : Option Text :=
  (saved.bind fun t => parseConfigString t (ascii "selected") SelectedCapacity).or
    (config.bind fun t => parseConfigString t (ascii "network") SelectedCapacity)

/-- The network of the selected section. -/
def selectedNetwork (config saved : Option Text) : Option U64 :=
  match selection config saved, saved with
  | some wanted, some t => parseSavedNetwork t wanted
  | _, _ => none

/-- `ResolveConfiguredNetworkId`, on what the two files were read as. -/
def resolveConfiguredNetworkId (config saved : Option Text) : Option U64 :=
  match selectedNetwork config saved with
  | some v => some v
  | none =>
    match config.bind fun t => parseNwid t false with
    | some v => some v
    | none => (saved.bind fun t => parseFirstSavedNetwork t SelectedCapacity).map Prod.snd

/-- `pollNetworkSelection`: when it last polled, and the network to switch to. -/
def pollNetworkSelection (lastPollMs now : Int) (nwid : U64) (config saved : Option Text) : Int × Option U64 :=
  if lastPollMs ≠ 0 ∧ now - lastPollMs < 1000 then (lastPollMs, none)
  else (now, (resolveConfiguredNetworkId config saved).filter fun requested => requested != nwid)

/-! ### What is resolved -/

theorem networkId_ne_zero {q : Text} {v : U64} (h : networkId q = some v) : v ≠ 0 := by
  rw [networkId] at h
  split at h
  · rename_i hvalid
    rw [← Option.some.inj h]
    exact hvalid.2
  · cases h

theorem nwidOf_ne_zero {p : Text} {v : U64} (h : nwidOf p = some v) : v ≠ 0 := by
  obtain ⟨q, -, hq⟩ := Option.bind_eq_some_iff.mp h
  exact networkId_ne_zero hq

theorem parseNwid_ne_zero {text : Text} {v : U64} (h : parseNwid text false = some v) : v ≠ 0 := by
  have hall : ∀ (ls : List Text) (found : Option U64), (∀ u ∈ found, u ≠ 0) →
      ∀ u ∈ ls.foldl (fun found line =>
        if false || !commented (skipBlanks line) then (nwidOf (skipBlanks line)).or found else found) found,
        u ≠ 0 := by
    intro ls
    induction ls with
    | nil => exact fun _ hfound => hfound
    | cons line ls ih =>
      intro found hfound
      refine ih _ fun u hu => ?_
      dsimp only at hu
      split at hu
      · rcases Option.or_eq_some_iff.mp hu with hline | ⟨-, hold⟩
        · exact nwidOf_ne_zero hline
        · exact hfound u hold
      · exact hfound u hu
  exact hall (linesOf text) none (fun u hu => absurd hu (Option.not_mem_none u)) v h

theorem savedNetworkIn_ne_zero {wanted : Text} {inSection : Bool} {ls : List Text} {v : U64}
    (h : savedNetworkIn wanted inSection ls = some v) : v ≠ 0 := by
  induction ls generalizing inSection with
  | nil => cases h
  | cons line ls ih =>
    rw [savedNetworkIn] at h
    split at h
    · exact ih h
    · split at h
      · split at h
        · exact networkId_ne_zero h
        · exact ih h
      · exact ih h

theorem candidate_ne_zero {nameLen : Nat} {text : Text} (h : (SavedNetworks.read nameLen text).validCount ≠ 0) :
    (SavedNetworks.read nameLen text).candidateNwid ≠ 0 := by
  have hall : ∀ (ls : List Text) (s : SavedNetworks), (s.validCount ≠ 0 → s.candidateNwid ≠ 0) →
      (ls.foldl (SavedNetworks.readLine nameLen) s).validCount ≠ 0 →
      (ls.foldl (SavedNetworks.readLine nameLen) s).candidateNwid ≠ 0 := by
    intro ls
    induction ls with
    | nil => exact fun _ hs => hs
    | cons line ls ih =>
      intro s hs
      refine ih _ fun hcount => ?_
      rcases SavedNetworks.readLine_cases nameLen s line with ⟨hsame, hcandidate⟩ | ⟨v, hv, -, hcandidate⟩
      · rw [hcandidate]
        exact hs (by rwa [hsame] at hcount)
      · rw [hcandidate]
        split
        · exact nwidOf_ne_zero hv
        · rename_i hold
          exact hs hold
  exact hall (linesOf text) {} (fun hzero => absurd rfl hzero) h

/-- Zero is no network. -/
theorem resolveConfiguredNetworkId_ne_zero {config saved : Option Text} {v : U64}
    (h : resolveConfiguredNetworkId config saved = some v) : v ≠ 0 := by
  rw [resolveConfiguredNetworkId] at h
  split at h
  · rename_i hselected
    cases h
    unfold selectedNetwork at hselected
    split at hselected
    · exact savedNetworkIn_ne_zero hselected
    · cases hselected
  · split at h
    · rename_i hlegacy
      cases h
      obtain ⟨text, -, htext⟩ := Option.bind_eq_some_iff.mp hlegacy
      exact parseNwid_ne_zero htext
    · obtain ⟨found, hfound, rfl⟩ := Option.map_eq_some_iff.mp h
      obtain ⟨text, -, htext⟩ := Option.bind_eq_some_iff.mp hfound
      rw [parseFirstSavedNetwork] at htext
      split at htext
      · rename_i hone
        cases htext
        exact candidate_ne_zero (by rw [hone]; exact Nat.one_ne_zero)
      · cases htext

/-! ### A catalog that is read in part -/

/-- What a poll may read of the catalog while it is rewritten: nothing, or a beginning
that fits the buffer. -/
def Incomplete (saved : Text) (read : Option Text) : Prop :=
  read = none ∨ ∃ p, p <+: saved ∧ p.length < ConfigFileCapacity ∧ read = some p

/-- The lines of what of the catalog fits the buffer. -/
def readableLines (saved : Text) : List Text := linesOf (saved.take (ConfigFileCapacity - 1))

/-- The values of the `selected` lines. -/
def selectedValues (ls : List Text) : List Text := ls.filterMap (valueOf (ascii "selected"))

/-- The selection if these are the values in the catalog: the last one, or the one of
`config.ini`. -/
def chosen (config : Option Text) (values : List Text) : Option Text :=
  (values.getLast?.bind fun q => configValue q SelectedCapacity).or
    (config.bind fun t => parseConfigString t (ascii "network") SelectedCapacity)

/-- What is selected if the reading stops in `line`: what the lines before it select, or, if it
is a `selected` line itself, the beginning of its value. -/
def Seen (config : Option Text) (before : List Text) (line : Text) (wanted : Option Text) : Prop :=
  wanted = chosen config (selectedValues before) ∨
    ∃ q q', valueOf (ascii "selected") line = some q ∧ q' <+: q ∧
      wanted = chosen config (selectedValues before ++ [q'])

/-- The network that the selected section has in these lines. -/
def foundIn (wanted : Option Text) (ls : List Text) : Option U64 :=
  wanted.bind fun name => savedNetworkIn name false ls

/-- The valid entries in these lines. -/
def entries (ls : List Text) : Nat := (ls.foldl (SavedNetworks.readLine SelectedCapacity) {}).validCount

/-- Wherever the reading stops while there is one entry, the selected section has its id. -/
def Preempted (config : Option Text) (saved : Text) : Prop :=
  ∀ before line after, readableLines saved = before ++ line :: after → ∀ wanted, Seen config before line wanted →
    (entries before = 1 → (foundIn wanted before).isSome) ∧
      (entries before = 0 → entries (before ++ [line]) = 1 → (foundIn wanted (before ++ [line])).isSome)

/-- The catalog, in whichever line its reading stops, offers no network but `nwid`. -/
structure Steady (config : Option Text) (saved : Text) (nwid : U64) : Prop where
  /-- The key of `config.ini`, which a failed read falls back on, names no other. -/
  legacy : ∀ v, (config.bind fun t => parseNwid t false) = some v → v = nwid
  /-- A section that is selected by then, and has its id by then, has this one. -/
  selected : ∀ before line after, readableLines saved = before ++ line :: after →
    ∀ wanted, Seen config before line wanted → ∀ v, foundIn wanted (before ++ [line]) = some v → v = nwid
  /-- Without the key, the first entry has it, or is not looked for while it is the only one. -/
  first : (config.bind fun t => parseNwid t false) = none →
    ∀ v, (SavedNetworks.read SelectedCapacity (saved.take (ConfigFileCapacity - 1))).first = some v →
      v = nwid ∨ Preempted config saved

section Catalog
variable {config : Option Text} {saved : Text} {nwid : U64}

theorem foldl_last {α β : Type} (f : α → Option β) (l : List α) :
    l.foldl (fun _ q => f q) none = l.getLast?.bind f := by
  rcases List.eq_nil_or_concat l with rfl | ⟨l, q, rfl⟩
  · rfl
  · rw [List.concat_eq_append, List.foldl_append, List.getLast?_concat]
    rfl

theorem selection_eq (config : Option Text) (p : Text) :
    selection config (some p) = chosen config (selectedValues (linesOf p)) := by
  rw [selection, Option.bind_some, parseConfigString_eq p _ (by decide), foldl_last]
  rfl

theorem selectedNetwork_eq (config : Option Text) (p : Text) :
    selectedNetwork config (some p) = foundIn (selection config (some p)) (linesOf p) := by
  unfold selectedNetwork foundIn
  cases selection config (some p) <;> rfl

theorem resolve_selected {p : Text} {v : U64} (h : selectedNetwork config (some p) = some v) :
    resolveConfiguredNetworkId config (some p) = some v := by
  rw [resolveConfiguredNetworkId, h]

theorem resolve_failed (config : Option Text) :
    resolveConfiguredNetworkId config none = config.bind fun t => parseNwid t false := by
  have hnone : selectedNetwork config none = none := by
    unfold selectedNetwork
    split
    · rename_i hsome
      cases hsome
    · rfl
  rw [resolveConfiguredNetworkId, hnone]
  dsimp only
  cases config.bind fun t => parseNwid t false <;> rfl

/-- Without a selected section and the key, the only entry is resolved. -/
theorem resolve_first {p : Text} (hs : selectedNetwork config (some p) = none)
    (hl : (config.bind fun t => parseNwid t false) = none) :
    resolveConfiguredNetworkId config (some p) =
      (parseFirstSavedNetwork p SelectedCapacity).map Prod.snd := by
  rw [resolveConfiguredNetworkId, hs, hl]
  rfl

theorem parseFirstSavedNetwork_some {p : Text} (h : (SavedNetworks.read SelectedCapacity p).validCount = 1) :
    ∃ found, parseFirstSavedNetwork p SelectedCapacity = some found := by
  unfold parseFirstSavedNetwork
  dsimp only
  rw [if_pos h]
  exact ⟨_, rfl⟩

theorem parseFirstSavedNetwork_count {p : Text} {found : Text × U64}
    (h : parseFirstSavedNetwork p SelectedCapacity = some found) :
    (SavedNetworks.read SelectedCapacity p).validCount = 1 := by
  unfold parseFirstSavedNetwork at h
  dsimp only at h
  split at h
  · assumption
  · cases h

/-! ### Where the reading stops -/

section Position
variable {before after : List Text} {line : Text}

theorem prefix_readable {p : Text} (hp : p <+: saved) (hlen : p.length < ConfigFileCapacity) :
    p <+: saved.take (ConfigFileCapacity - 1) := List.prefix_take_iff.mpr ⟨hp, by omega⟩

theorem read_position {p : Text} (hp : p <+: saved) (hlen : p.length < ConfigFileCapacity) :
    linesOf p = [] ∨ ∃ before l line after, linesOf p = before ++ [l] ∧ l <+: line ∧
      readableLines saved = before ++ line :: after :=
  (linesOf_truncates (prefix_readable hp hlen)).eq_append_last

/-- The reading may stop anywhere in a line. -/
theorem cut_position (h : readableLines saved = before ++ line :: after) {l : Text} (hl : l <+: line) :
    ∃ p, p <+: saved ∧ p.length < ConfigFileCapacity ∧ linesOf p = before ++ (if l = [] then [] else [l]) := by
  obtain ⟨p, hp, hlines⟩ := lines_cut 10 h hl
  have htake := hp.trans (List.takeWhile_prefix _)
  have hwhole : (p.takeWhile fun c => c != 0) = p := List.takeWhile_eq_self_iff.mpr fun c hc =>
    List.mem_takeWhile_imp (p := fun c : U8 => c != 0) (hp.subset hc)
  obtain ⟨hsaved, hlen⟩ := List.prefix_take_iff.mp htake
  refine ⟨p, hsaved, ?_, by rw [linesOf, hwhole, hlines]⟩
  have hcapacity : 0 < ConfigFileCapacity := by decide
  omega

theorem selectedValues_concat (before : List Text) (l : Text) :
    selectedValues (before ++ [l]) = selectedValues before ++ (valueOf (ascii "selected") l).toList := by
  rw [selectedValues, List.filterMap_append]
  cases h : valueOf (ascii "selected") l <;> simp [selectedValues, h]

theorem seen_read {l : Text} (hl : l <+: line) :
    Seen config before line (chosen config (selectedValues (before ++ [l]))) := by
  rw [selectedValues_concat]
  cases h : valueOf (ascii "selected") l with
  | none =>
    left
    rw [Option.toList_none, List.append_nil]
  | some q' =>
    obtain ⟨q, hq, hprefix⟩ := valueOf_mono hl h
    exact .inr ⟨q, q', hq, hprefix, rfl⟩

theorem entries_concat (before : List Text) (l : Text) :
    entries (before ++ [l]) = entries before ∨
      (∃ v, nwidOf (skipBlanks l) = some v) ∧ entries (before ++ [l]) = entries before + 1 := by
  rw [entries, entries, List.foldl_append]
  rcases SavedNetworks.readLine_cases SelectedCapacity
    (before.foldl (SavedNetworks.readLine SelectedCapacity) {}) l with ⟨hcount, -⟩ | ⟨v, hv, hcount, -⟩
  · exact .inl hcount
  · exact .inr ⟨⟨v, hv⟩, hcount⟩

theorem entries_mono (before : List Text) {l : Text} (hl : l <+: line) :
    entries (before ++ [l]) ≤ entries (before ++ [line]) := by
  rw [entries, entries, List.foldl_append, List.foldl_append]
  exact (SavedNetworks.readLine_mono SelectedCapacity _ hl).count

/-- A `selected` line adds neither an entry nor an id. -/
theorem selected_adds_nothing {q : Text} (h : valueOf (ascii "selected") line = some q) (before : List Text) :
    (∀ wanted, foundIn wanted (before ++ [line]) = foundIn wanted before) ∧
      entries (before ++ [line]) = entries before := by
  obtain ⟨hheader, hid⟩ := selected_line h
  refine ⟨fun wanted => ?_, ?_⟩
  · unfold foundIn
    simp only [savedNetworkIn_concat _ false before hheader hid]
  · rcases entries_concat before line with hsame | ⟨⟨v, hv⟩, -⟩
    · exact hsame
    · rw [nwidOf, hid] at hv
      cases hv

/-- What is seen can be read, with what the lines before have. -/
theorem seen_cut (h : readableLines saved = before ++ line :: after) {wanted : Option Text}
    (hseen : Seen config before line wanted) :
    ∃ p, p <+: saved ∧ p.length < ConfigFileCapacity ∧ selection config (some p) = wanted ∧
      selectedNetwork config (some p) = foundIn wanted before ∧ entries (linesOf p) = entries before := by
  rcases hseen with rfl | ⟨q, q', hq, hprefix, rfl⟩
  · obtain ⟨p, hp, hlen, hlines⟩ := cut_position h List.nil_prefix
    rw [if_pos rfl, List.append_nil] at hlines
    refine ⟨p, hp, hlen, ?_, ?_, by rw [hlines]⟩
    · rw [selection_eq, hlines]
    · rw [selectedNetwork_eq, selection_eq, hlines]
  · obtain ⟨l, hl, hvalue⟩ := valueOf_cut hq hprefix
    obtain ⟨p, hp, hlen, hlines⟩ := cut_position h hl
    rw [if_neg (by rintro rfl; cases hvalue)] at hlines
    have hselection : selection config (some p) = chosen config (selectedValues before ++ [q']) := by
      rw [selection_eq, hlines, selectedValues_concat, hvalue]
      rfl
    obtain ⟨hfound, hentries⟩ := selected_adds_nothing hvalue before
    refine ⟨p, hp, hlen, hselection, ?_, by rw [hlines, hentries]⟩
    rw [selectedNetwork_eq, hselection, hlines, hfound]

/-- And so it can with the id that the line has. -/
theorem seen_whole (h : readableLines saved = before ++ line :: after) {v : U64}
    (hv : nwidOf (skipBlanks line) = some v) {wanted : Option Text} (hseen : Seen config before line wanted) :
    ∃ p, p <+: saved ∧ p.length < ConfigFileCapacity ∧
      selectedNetwork config (some p) = foundIn wanted (before ++ [line]) ∧ linesOf p = before ++ [line] := by
  have hno : valueOf (ascii "selected") line = none := by
    refine Option.eq_none_iff_forall_ne_some.mpr fun q hq => ?_
    rw [nwidOf, (selected_line hq).2] at hv
    cases hv
  obtain rfl | ⟨q, -, hq, -⟩ := hseen
  · obtain ⟨p, hp, hlen, hlines⟩ := cut_position h (List.prefix_refl line)
    rw [if_neg (by rintro rfl; cases hv)] at hlines
    refine ⟨p, hp, hlen, ?_, hlines⟩
    rw [selectedNetwork_eq, selection_eq, hlines, selectedValues_concat, hno, Option.toList_none, List.append_nil]
  · rw [hno] at hq
    cases hq

end Position

/-- The only entry of a beginning is not looked for. -/
theorem Preempted.selected (h : Preempted config saved) {p : Text} (hp : p <+: saved)
    (hlen : p.length < ConfigFileCapacity) (hone : entries (linesOf p) = 1) :
    (selectedNetwork config (some p)).isSome := by
  rw [selectedNetwork_eq, selection_eq]
  rcases read_position hp hlen with hnone | ⟨before, l, line, after, hlines, hl, hsaved⟩
  · rw [hnone] at hone
    cases hone
  · rw [hlines] at hone ⊢
    obtain ⟨hbefore, hwhole⟩ := h before line after hsaved _ (seen_read hl)
    rcases entries_concat before l with hsame | ⟨⟨v, hv⟩, hnew⟩
    · obtain ⟨u, hu⟩ := Option.isSome_iff_exists.mp (hbefore (hsame.symm.trans hone))
      obtain ⟨name, hwanted, hname⟩ := Option.bind_eq_some_iff.mp hu
      refine Option.isSome_iff_exists.mpr ⟨u, Option.bind_eq_some_iff.mpr ⟨name, hwanted, ?_⟩⟩
      exact savedNetworkIn_mono name (.append before [l]) hname
    · have hmono := entries_mono before hl
      have hentries : entries (before ++ [line]) = 1 := by
        rcases entries_concat before line with hline | ⟨-, hline⟩ <;> omega
      have hsome := hwhole (by omega) hentries
      unfold foundIn at hsome ⊢
      simpa only [savedNetworkIn_last _ false before hl hv] using hsome

/-- A beginning of a steady catalog resolves to no other network. -/
theorem Steady.resolves (h : Steady config saved nwid) {p : Text} (hp : p <+: saved)
    (hlen : p.length < ConfigFileCapacity) {v : U64} (hv : resolveConfiguredNetworkId config (some p) = some v) :
    v = nwid := by
  cases hs : selectedNetwork config (some p) with
  | some u =>
    rw [resolve_selected hs] at hv
    cases hv
    rw [selectedNetwork_eq, selection_eq] at hs
    rcases read_position hp hlen with hnone | ⟨before, l, line, after, hlines, hl, hsaved⟩
    · rw [hnone] at hs
      obtain ⟨name, -, hname⟩ := Option.bind_eq_some_iff.mp hs
      cases hname
    · rw [hlines] at hs
      obtain ⟨name, hwanted, hname⟩ := Option.bind_eq_some_iff.mp hs
      refine h.selected before line after hsaved _ (seen_read hl) v (Option.bind_eq_some_iff.mpr ⟨name, hwanted, ?_⟩)
      exact savedNetworkIn_mono name (.append_last before [] hl) hname
  | none =>
    cases hl : config.bind fun t => parseNwid t false with
    | some u =>
      rw [resolveConfiguredNetworkId, hs, hl] at hv
      cases hv
      exact h.legacy v hl
    | none =>
      rw [resolve_first hs hl] at hv
      obtain ⟨found, hfound, rfl⟩ := Option.map_eq_some_iff.mp hv
      have hfirst := parseFirstSavedNetwork_first (prefix_readable hp hlen) hfound
      rcases h.first hl _ hfirst with heq | hpreempted
      · exact heq
      · have hsome := hpreempted.selected hp hlen (parseFirstSavedNetwork_count hfound)
        rw [hs] at hsome
        cases hsome

/-- And a catalog of which every beginning does is steady. -/
theorem Steady.of_resolves
    (h : ∀ read, Incomplete saved read → ∀ v, resolveConfiguredNetworkId config read = some v → v = nwid) :
    Steady config saved nwid := by
  refine ⟨fun v hl => h none (.inl rfl) v (by rw [resolve_failed, hl]), ?_, ?_⟩
  · intro before line after hsaved wanted hseen v hv
    have hread : ∀ {p}, p <+: saved → p.length < ConfigFileCapacity → selectedNetwork config (some p) = some v →
        v = nwid := fun hp hlen hs => h _ (.inr ⟨_, hp, hlen, rfl⟩) v (resolve_selected hs)
    obtain ⟨name, rfl, hname⟩ := Option.bind_eq_some_iff.mp hv
    rcases savedNetworkIn_snoc hname with hbefore | hid
    · obtain ⟨p, hp, hlen, -, hfound, -⟩ := seen_cut hsaved hseen
      exact hread hp hlen (hfound.trans hbefore)
    · obtain ⟨p, hp, hlen, hfound, -⟩ := seen_whole hsaved hid hseen
      exact hread hp hlen (hfound.trans hv)
  · intro hl v hv
    refine or_iff_not_imp_left.mpr fun hne before line after hsaved wanted hseen => ?_
    -- a beginning with one entry and no selected section would resolve to `v`
    have hread : ∀ {p}, p <+: saved → p.length < ConfigFileCapacity → entries (linesOf p) = 1 →
        (selectedNetwork config (some p)).isSome := by
      intro p hp hlen hone
      by_contra hnone
      rw [Option.not_isSome_iff_eq_none] at hnone
      obtain ⟨found, hfound⟩ := parseFirstSavedNetwork_some hone
      have hfirst := parseFirstSavedNetwork_first (prefix_readable hp hlen) hfound
      have hsame : found.2 = v := Option.some.inj (hfirst.symm.trans hv)
      refine hne (h _ (.inr ⟨p, hp, hlen, rfl⟩) v ?_)
      rw [resolve_first hnone hl, hfound, ← hsame]
      rfl
    constructor
    · intro hone
      obtain ⟨p, hp, hlen, -, hfound, hentries⟩ := seen_cut hsaved hseen
      rw [← hfound]
      exact hread hp hlen (hentries.trans hone)
    · intro hzero hone
      rcases entries_concat before line with hsame | ⟨⟨u, hu⟩, -⟩
      · omega
      · obtain ⟨p, hp, hlen, hfound, hlines⟩ := seen_whole hsaved hu hseen
        rw [← hfound]
        exact hread hp hlen (by rw [hlines, hone])

end Catalog

/-- **However the catalog is cut short by a poll, nothing but `nwid` is resolved and a node
that is joined to it does not switch, exactly when the catalog is steady.** -/
theorem catalog_steady_iff (config : Option Text) (saved : Text) (nwid : U64) :
    (∀ read, Incomplete saved read →
      (∀ v, resolveConfiguredNetworkId config read = some v → v = nwid) ∧
        ∀ lastPollMs now, (pollNetworkSelection lastPollMs now nwid config read).2 = none) ↔
      Steady config saved nwid := by
  constructor
  · exact fun h => .of_resolves fun read hread => (h read hread).1
  · intro h read hread
    have hsame : ∀ v, resolveConfiguredNetworkId config read = some v → v = nwid := by
      intro v hv
      rcases hread with rfl | ⟨p, hp, hlen, rfl⟩
      · rw [resolve_failed] at hv
        exact h.legacy v hv
      · exact h.resolves hp hlen hv
    refine ⟨hsame, fun lastPollMs now => ?_⟩
    unfold pollNetworkSelection
    split
    · rfl
    · refine Option.filter_eq_none_iff.mpr fun v hv => ?_
      rw [hsame v hv]
      simp

/-- The selected network has replaced the one of `config.ini`; the catalog cannot be read. -/
theorem failed_read_switches :
    ¬∀ (config : Option Text) (saved : Text) (nwid : U64), saved.length < ConfigFileCapacity →
      resolveConfiguredNetworkId config (some saved) = some nwid → ∀ read, Incomplete saved read →
      (∀ v, resolveConfiguredNetworkId config read = some v → v = nwid) ∧
        ∀ lastPollMs now, (pollNetworkSelection lastPollMs now nwid config read).2 = none := by
  intro h
  have hno := (h (some (ascii "nwid = 8056c2e21c000001"))
    (ascii "[sys-zerotier]\nselected = home\n[home]\nnwid = 8056c2e21c000002") 0x8056C2E21C000002 (by decide)
    (by decide) none (.inl rfl)).2 0 5000
  exact absurd hno (by decide)

end SysZerotier.Config
