import SysZerotier.Config.Template
import SysZerotier.Config.NetworkIds

/-! Selecting a saved network (`ResolveConfiguredNetworkId` in `source/zt_port.cpp`, and
`SelectNetwork` in `overlay/source/main.cpp`).

The overlay writes the name of a section into the `selected` line, where it is read as a
value: trimmed, without quotes, and into a buffer. The names that come back as they were
written are the ones with `ReadsBack` (`configValue_eq_iff`), and such a name resolves to the
network of its section whatever else the catalog and `config.ini` say
(`selected_resolves`). -/
namespace SysZerotier.Config.Selected
open Net Library Values NetworkIds

/-- The line that selects the section of this name. -/
def selectedLine (name : Text) : Text := ascii "selected = " ++ name

/-- A name that is itself as a value: it fits, has no blanks around it and is not in quotes. -/
structure ReadsBack (name : Text) : Prop where
  nonempty : name ≠ []
  short : name.length < SelectedCapacity
  noBlankBefore : ∀ c ∈ name.head?, isBlank c = false
  noBlankAfter : ∀ c ∈ name.getLast?, isBlank c = false ∧ c ≠ 13
  unquoted : ∀ quote : U8, quote = 39 ∨ quote = 34 → 2 ≤ name.length → name.head? = some quote →
    name.getLast? ≠ some quote

theorem valueOf_selectedLine (name : Text) :
    valueOf (ascii "selected") (selectedLine name) = some (skipBlanks name) := rfl

/-! ### Names as values -/

/-- The end of a value, trimmed. -/
def trimEnd (q : Text) : Text := q.rdropWhile fun c => isBlank c || c == 13

theorem skipBlanks_eq_self_iff (q : Text) : skipBlanks q = q ↔ ∀ c ∈ q.head?, isBlank c = false := by
  cases q with
  | nil => simp [skipBlanks]
  | cons c q => simp [skipBlanks, List.dropWhile_eq_self_iff]

theorem trimEnd_eq_self_iff (q : Text) :
    trimEnd q = q ↔ ∀ c ∈ q.getLast?, isBlank c = false ∧ c ≠ 13 := by
  rw [trimEnd, List.rdropWhile_eq_self_iff]
  constructor
  · intro h c hc
    obtain ⟨q, rfl⟩ := List.getLast?_eq_some_iff.mp hc
    have hlast := h (List.append_ne_nil_of_right_ne_nil _ (List.cons_ne_nil c []))
    rwa [List.getLast_concat, Bool.not_eq_true, Bool.or_eq_false_iff, beq_eq_false_iff_ne] at hlast
  · intro h hne
    obtain ⟨hblank, hcr⟩ := h _ (List.getLast?_eq_some_getLast hne)
    rw [hblank, beq_false_of_ne hcr]
    exact Bool.false_ne_true

theorem unquote_length_le (q : Text) : (unquote q).length ≤ q.length := by
  rw [unquote]
  split
  · rw [List.length_dropLast, List.length_tail]
    omega
  · exact Nat.le_refl _

theorem unquote_eq_self_iff (q : Text) :
    unquote q = q ↔ ∀ quote : U8, quote = 39 ∨ quote = 34 → 2 ≤ q.length → q.head? = some quote →
      q.getLast? ≠ some quote := by
  rw [unquote]
  split
  · rename_i hquoted
    obtain ⟨hlen, hends⟩ := hquoted
    have hshorter : q.tail.dropLast ≠ q := fun heq => by
      have hlength := congrArg List.length heq
      rw [List.length_dropLast, List.length_tail] at hlength
      omega
    refine iff_of_false hshorter fun h => ?_
    rcases hends with ⟨hhead, hlast⟩ | ⟨hhead, hlast⟩
    · exact h 39 (.inl rfl) hlen hhead hlast
    · exact h 34 (.inr rfl) hlen hhead hlast
  · rename_i hplain
    refine iff_of_true rfl fun quote hquote hlen hhead hlast => hplain ⟨hlen, ?_⟩
    rcases hquote with rfl | rfl
    · exact .inl ⟨hhead, hlast⟩
    · exact .inr ⟨hhead, hlast⟩

/-- Of the steps that a value goes through none adds anything. -/
theorem value_eq_self_iff (name : Text) :
    unquote (trimEnd (skipBlanks name)) = name ↔
      skipBlanks name = name ∧ trimEnd name = name ∧ unquote name = name := by
  constructor
  · intro h
    have hskip : (skipBlanks name).length ≤ name.length := (List.dropWhile_sublist isBlank).length_le
    have htrim : (trimEnd (skipBlanks name)).length ≤ (skipBlanks name).length :=
      (List.rdropWhile_prefix _ _).length_le
    have hunquote := unquote_length_le (trimEnd (skipBlanks name))
    rw [h] at hunquote
    have hskip' : skipBlanks name = name := 
      (List.dropWhile_suffix isBlank).eq_of_length (show (skipBlanks name).length = name.length by omega)
    rw [hskip'] at h htrim hunquote
    have htrim' : trimEnd name = name := 
      (List.rdropWhile_prefix _ _).eq_of_length (show (trimEnd name).length = name.length by omega)
    rw [htrim'] at h
    exact ⟨hskip', htrim', h⟩
  · intro ⟨hskip, htrim, hunquote⟩
    rw [hskip, htrim, hunquote]

theorem configValue_eq (q : Text) (outLen : Nat) :
    Config.configValue q outLen =
      if 0 < (unquote (trimEnd q)).length ∧ (unquote (trimEnd q)).length < outLen then
        some (unquote (trimEnd q))
      else none := rfl

/-- The names that come back are the ones with `ReadsBack`. -/
theorem configValue_eq_iff (name : Text) :
    Config.configValue (skipBlanks name) SelectedCapacity = some name ↔ ReadsBack name := by
  have hvalue : Config.configValue (skipBlanks name) SelectedCapacity = some name ↔
      unquote (trimEnd (skipBlanks name)) = name ∧ 0 < name.length ∧ name.length < SelectedCapacity := by
    rw [configValue_eq]
    constructor
    · intro h
      split at h
      · rename_i hlen
        have heq := Option.some.inj h
        rw [heq] at hlen
        exact ⟨heq, hlen⟩
      · cases h
    · intro ⟨heq, hlen⟩
      simp only [heq, if_pos hlen]
  rw [hvalue, value_eq_self_iff, skipBlanks_eq_self_iff, trimEnd_eq_self_iff, unquote_eq_self_iff,
    List.length_pos_iff]
  constructor
  · intro ⟨⟨hbefore, hafter, hquotes⟩, hne, hshort⟩
    exact ⟨hne, hshort, hbefore, hafter, hquotes⟩
  · intro h
    exact ⟨⟨h.noBlankBefore, h.noBlankAfter, h.unquoted⟩, h.nonempty, h.short⟩

/-! ### The selected network -/

/-- The last assignment to `selected` is the line for this name. -/
def Selects (networks name : Text) : Prop :=
  ∃ before after, linesOf networks = before ++ selectedLine name :: after ∧
    ∀ l ∈ after, valueOf (ascii "selected") l = none

theorem Selects.parseConfigString_eq {networks name : Text} (h : Selects networks name) :
    parseConfigString networks (ascii "selected") SelectedCapacity =
      Config.configValue (skipBlanks name) SelectedCapacity := by
  obtain ⟨before, after, hlines, hafter⟩ := h
  have hlast : assignments (ascii "selected") networks =
      before.filterMap (valueOf (ascii "selected")) ++ [skipBlanks name] := by
    rw [assignments, hlines, List.filterMap_append, List.filterMap_cons, valueOf_selectedLine,
      List.filterMap_eq_nil_iff.mpr hafter]
  rw [Config.parseConfigString_eq networks _ (by decide), hlast, List.foldl_append]
  rfl

/-- Whatever the files say, a saved network of this name that is selected is resolved. -/
def SelectsItsNetwork (name : Text) : Prop :=
  ∀ (config : Option Text) (networks : Text), networks.length < ConfigFileCapacity →
    ∀ s : Saved networks, s.name = name → isHexNetworkId s.v = true → Selects networks name →
      resolveConfiguredNetworkId config (readWholeFile (some networks) ConfigFileCapacity {}) =
        some (BitVec.ofNat 64 (denotes s.v))

/-- **Selecting a saved network selects that network**, if its name reads back. -/
theorem selected_resolves {name : Text} (h : ReadsBack name) : SelectsItsNetwork name := by
  intro config networks hlen s hs hid hselected
  subst hs
  have hread : readWholeFile (some networks) ConfigFileCapacity {} = some networks := by
    simp [readWholeFile, Nat.not_le.mpr hlen]
  have hselection : selection config (some networks) = some s.name := by
    rw [selection, Option.bind_some, hselected.parseConfigString_eq, (configValue_eq_iff s.name).mpr h]
    rfl
  have hlong : ¬(16 < s.v.length ∧ isHexNetworkId (s.v.take 16) = true) := fun h => by
    rw [isHexNetworkId, beq_false_of_ne h.1.ne', Bool.false_and, Bool.false_and] at hid
    cases hid
  have hfound : parseSavedNetwork networks s.name = some (BitVec.ofNat 64 (denotes s.v)) := by
    rw [s.parseSavedNetwork_eq, (networkId_eq_overlayId_iff s.v).mpr hlong, overlayId, if_pos hid]
  have hnetwork : selectedNetwork config (some networks) = some (BitVec.ofNat 64 (denotes s.v)) := by
    unfold selectedNetwork
    rw [hselection]
    exact hfound
  rw [hread]
  exact resolve_selected hnetwork

/-- A catalog with another network beside the selected one. -/
def twoNetworks (name : Text) : Text :=
  selectedLine name ++ ascii "\n[" ++ name ++ ascii "]\nnwid = 8056c2e21c000001\n[work]\nnwid = 8056c2e21c000002\n"

theorem nothing_between : ∀ l ∈ ([] : List Text),
    isHeader (skipBlanks l) = false ∧ valueOf (ascii "nwid") l = none := List.forall_mem_nil _

theorem no_blanks : ∀ c ∈ ([] : Text), isBlank c = true ∨ c = 13 := List.forall_mem_nil _

/-- The first of the two. -/
def firstOfTwo (name : Text)
    (lines : linesOf (twoNetworks name) =
      [selectedLine name, ascii "[" ++ name ++ ascii "]", ascii "nwid = 8056c2e21c000001", ascii "[work]",
        ascii "nwid = 8056c2e21c000002"])
    (named : sectionName (ascii "[" ++ name ++ ascii "]") = some name) : Saved (twoNetworks name) where
  name := name
  v := ascii "8056c2e21c000001"
  blanks := []
  before := [selectedLine name]
  header := ascii "[" ++ name ++ ascii "]"
  between := []
  line := ascii "nwid = 8056c2e21c000001"
  after := [ascii "[work]", ascii "nwid = 8056c2e21c000002"]
  lines := lines
  headed := rfl
  named := named
  first := fun l hl hheader => by
    rw [List.mem_singleton.mp hl] at hheader
    cases hheader
  inSection := nothing_between
  value := rfl
  blank := no_blanks

theorem twoNetworks_selects {name : Text}
    (lines : linesOf (twoNetworks name) =
      [selectedLine name, ascii "[" ++ name ++ ascii "]", ascii "nwid = 8056c2e21c000001", ascii "[work]",
        ascii "nwid = 8056c2e21c000002"]) : Selects (twoNetworks name) name := by
  refine ⟨[], _, lines, fun l hl => ?_⟩
  simp only [List.mem_cons, List.not_mem_nil, or_false] at hl
  rcases hl with rfl | rfl | rfl | rfl <;> rfl

/-- The name `home`, with the other network there. -/
theorem home_selected :
    resolveConfiguredNetworkId none
        (readWholeFile (some (twoNetworks (ascii "home"))) ConfigFileCapacity {}) =
      some 0x8056C2E21C000001 := by
  have hname : ReadsBack (ascii "home") :=
    ⟨by decide, by decide, by decide, by decide, fun quote hquote _ hhead => by
      rcases hquote with rfl | rfl <;> exact absurd hhead (by decide)⟩
  exact selected_resolves hname none (twoNetworks (ascii "home")) (by decide)
    (firstOfTwo (ascii "home") (by decide) (by decide)) rfl (by decide) (twoNetworks_selects (by decide))

/-- A name in quotes is read without them, and one of 96 bytes is not read. -/
theorem names_not_selected :
    ¬SelectsItsNetwork (ascii "'home'") ∧ ¬SelectsItsNetwork (List.replicate 96 97) := by
  constructor
  · intro h
    have hresolves := h none (twoNetworks (ascii "'home'")) (by decide)
      (firstOfTwo (ascii "'home'") (by decide) (by decide)) rfl (by decide) (twoNetworks_selects (by decide))
    exact absurd hresolves (by decide)
  · intro h
    have hresolves := h none (twoNetworks (List.replicate 96 97)) (by decide +kernel)
      (firstOfTwo (List.replicate 96 97) (by decide +kernel) (by decide +kernel)) rfl (by decide)
      (twoNetworks_selects (by decide +kernel))
    exact absurd hresolves (by decide +kernel)

end SysZerotier.Config.Selected
