import SysZerotier.Config.Selected
import SysZerotier.Overlay.StatusPage

/-! The page on which a network id is typed (`NetworkEditorGui` in the overlay's
`source/main.cpp`).

An id comes from the buttons, digit by digit, and from a USB keyboard, of which the page
sees samples; both may be used at once. A framework calls `update` and `handleInput` as
it likes until the page goes back. `none` stands for an exception, which nothing catches.

`editor_runs` says what holds whatever is called: the page never throws, it shows the
value it has, what it says of the value is true, and what it saves is read by the
sysmodule as the id that is shown. -/
namespace SysZerotier.Overlay
open Net Library Config NetworkIds Selected Port

/-! ### The id to begin with -/

def lowerHex (value : Text) : Text := value.map fun c => if 65 ≤ c ∧ c ≤ 70 then c - 65 + 97 else c

/-- `selected` is the selected section, `nwid` looks up the id of a section, and `active` is
the network of the status file. -/
def initialNetworkId (selected : Text) (nwid : Text → Text) (active : Text) : Text :=
  if selected ≠ [] ∧ isHexNetworkId (nwid selected) = true then upperHex (nwid selected)
  else if isHexNetworkId active then upperHex active
  else ascii "0000000000000000"

/-! ### Saving -/

/-- `ult::setIniFileValue` on `networks.ini`. -/
structure IniWrite where
  section_ : Text
  key : Text
  value : Text
  deriving DecidableEq

def selectNetwork (name : Text) : List IniWrite := [⟨ascii "sys-zerotier", ascii "selected", name⟩]

def saveAndSelectNetwork (nwid : Text) : List IniWrite :=
  ⟨lowerHex nwid, ascii "nwid", lowerHex nwid⟩ :: selectNetwork (lowerHex nwid)

/-! ### The page -/

inductive HidKey where
  | hex (digit : Fin 16)
  | backspace
  | return_
  deriving DecidableEq

structure Keyboard where
  samplingNumber : U64
  down : HidKey → Bool

structure Buttons where
  left : Bool
  right : Bool
  up : Bool
  down : Bool
  a : Bool
  x : Bool
  y : Bool
  plus : Bool

structure Editor where
  value : Text
  key : Nat
  replaceOnType : Bool
  keyboardReady : Bool
  keyboardCommit : Bool
  keyboardPrevious : Keyboard
  /-- The texts of `m_id`, `m_key_rows` and `m_result`. -/
  id : Text
  keyRows : Text × Text
  result : Text
  /-- `tsl::goBack()` was called. -/
  closed : Bool

def Hex : Text := ascii "0123456789ABCDEF"

/-- Where to find the buttons. -/
def hint : Text := ascii "+: save   X: erase   Y: clear"

def maximumMessage : Text := ascii "16 digits maximum"

def allZeroMessage : Text := ascii "ID cannot be all zero"

def exactlyMessage : Text := ascii "Enter exactly 16 digits"

def insertBlank (pos : Nat) (display : Text) : Text := display.take pos ++ 32 :: display.drop pos

/-- A value of more than sixteen characters would be padded with about 2⁶⁴. -/
def displayValue (value : Text) : Option Text :=
  if 16 < value.length then none
  else
    let display := value ++ List.replicate (16 - value.length) 95
    some (insertBlank 4 (insertBlank 8 (insertBlank 12 display)))

def keypadRow (key row : Nat) : Text :=
  ((List.range 8).map (row * 8 + ·)).foldl
    (fun out i => (if out.isEmpty then out else out ++ [32, 32]) ++
      [if i = key then 91 else 32, Hex.getD i 0, if i = key then 93 else 32]) []

/-- What can be typed. -/
def isUpperDigit (c : U8) : Bool := 48 ≤ c && c ≤ 57 || 65 ≤ c && c ≤ 70

theorem isHexDigit_of_upper : ∀ c : U8, isUpperDigit c = true → isHexDigit c = true := by decide +kernel

namespace Editor

/-- The constructor and `createUI`. -/
def opened (initial : Text) : Option Editor := do
  let id ← displayValue initial
  return {
    value := initial
    key := 0
    replaceOnType := true
    keyboardReady := false
    keyboardCommit := false
    keyboardPrevious := ⟨0, fun _ => false⟩
    id := id
    keyRows := (keypadRow 0 0, keypadRow 0 1)
    result := hint
    closed := false }

def appendHex (e : Editor) (c : U8) : Editor :=
  let e := if e.replaceOnType then { e with value := [], replaceOnType := false } else e
  if 16 ≤ e.value.length then { e with result := maximumMessage } else { e with value := e.value ++ [c] }

def eraseHex (e : Editor) : Editor := { e with replaceOnType := false, value := e.value.dropLast }

def clearHex (e : Editor) : Editor := { e with value := [], replaceOnType := false }

def refreshEditor (e : Editor) : Option Editor := do
  let id ← displayValue e.value
  return { e with id := id, keyRows := (keypadRow e.key 0, keypadRow e.key 1), result := hint }

def commit (e : Editor) : Editor × List IniWrite :=
  if isHexNetworkId e.value then ({ e with closed := true }, saveAndSelectNetwork e.value)
  else ({ e with result := if e.value.length = 16 then allZeroMessage else exactlyMessage }, [])

/-- Its value is whether the buttons were used. -/
def handleInput (e : Editor) (keysDown : Buttons) : Option (Editor × Bool × List IniWrite) :=
  if e.keyboardCommit then
    let out := { e with keyboardCommit := false }.commit
    some (out.1, true, out.2)
  else if keysDown.left then { e with key := (e.key + 15) % 16 }.refreshEditor.map (·, true, [])
  else if keysDown.right then { e with key := (e.key + 1) % 16 }.refreshEditor.map (·, true, [])
  else if keysDown.up || keysDown.down then { e with key := e.key ^^^ 8 }.refreshEditor.map (·, true, [])
  else if keysDown.a then (e.appendHex (Hex.getD e.key 0)).refreshEditor.map (·, true, [])
  else if keysDown.x then e.eraseHex.refreshEditor.map (·, true, [])
  else if keysDown.y then e.clearHex.refreshEditor.map (·, true, [])
  else if keysDown.plus then
    let out := e.commit
    some (out.1, true, out.2)
  else some (e, false, [])

/-- Down now, and not in the last sample. -/
def pressed (e : Editor) (current : Keyboard) (key : HidKey) : Bool :=
  current.down key && (!e.keyboardReady || !e.keyboardPrevious.down key)

/-- `current` is the sample, if there is one. -/
def update (e : Editor) (current : Option Keyboard) : Option Editor := do
  let some current := current | return e
  let fresh := !e.keyboardReady || current.samplingNumber != e.keyboardPrevious.samplingNumber
  let digits := (List.finRange 16).filter fun digit => fresh && e.pressed current (.hex digit)
  let typed := digits.foldl (fun t digit => t.appendHex (Hex.getD digit 0)) e
  let erase := fresh && e.pressed current .backspace
  let erased := if erase then typed.eraseHex else typed
  let seen := { erased with
    keyboardCommit := e.keyboardCommit || fresh && e.pressed current .return_
    keyboardPrevious := current
    keyboardReady := true }
  if !digits.isEmpty || erase then seen.refreshEditor else return seen

/-- What the framework calls. -/
inductive Event where
  | handleInput (keysDown : Buttons)
  | update (current : Option Keyboard)

/-- Nothing is called once the page has gone back. -/
def step (e : Editor) (event : Event) : Option (Editor × List IniWrite) :=
  if e.closed then some (e, [])
  else
    match event with
    | .handleInput keysDown => (e.handleInput keysDown).map fun out => (out.1, out.2.2)
    | .update current => (e.update current).map (·, [])

def run (e : Editor) : List Event → Option (Editor × List IniWrite)
  | [] => some (e, [])
  | event :: es => do
    let first ← e.step event
    let rest ← first.1.run es
    return (rest.1, first.2 ++ rest.2)

/-! ### The value -/

/-- What may be typed, and where the keypad may be. -/
structure Editable (e : Editor) : Prop where
  digits : ∀ c ∈ e.value, isUpperDigit c = true
  short : e.value.length ≤ 16
  key : e.key < 16

/-- The page shows what it holds, and what it says is so. -/
structure Inv (e : Editor) : Prop extends Editable e where
  id : displayValue e.value = some e.id
  keyRows : e.keyRows = (keypadRow e.key 0, keypadRow e.key 1)
  result : e.result = hint ∨ e.result = exactlyMessage ∧ e.value.length < 16 ∨
    e.result = allZeroMessage ∧ e.value = List.replicate 16 48

theorem hex_digit : ∀ key < 16, isUpperDigit (Hex.getD key 0) = true := by decide +kernel

theorem Editable.appendHex {e : Editor} (h : e.Editable) {c : U8} (hc : isUpperDigit c = true) :
    (e.appendHex c).Editable := by
  have hcleared : (if e.replaceOnType then { e with value := [], replaceOnType := false } else e).Editable := by
    split
    · exact ⟨(fun _ hnone => absurd hnone List.not_mem_nil), Nat.zero_le 16, h.key⟩
    · exact h
  rw [Editor.appendHex]
  generalize (if e.replaceOnType then { e with value := [], replaceOnType := false } else e) = t at hcleared ⊢
  split
  · exact ⟨hcleared.digits, hcleared.short, hcleared.key⟩
  · refine ⟨fun d hd => ?_, ?_, hcleared.key⟩
    · rcases List.mem_append.mp hd with hd | hd
      · exact hcleared.digits d hd
      · rw [List.mem_singleton.mp hd]
        exact hc
    · rw [List.length_append, List.length_singleton]
      omega

theorem Editable.eraseHex {e : Editor} (h : e.Editable) : e.eraseHex.Editable where
  digits c hc := h.digits c (List.mem_of_mem_dropLast hc)
  short := by
    have := h.short
    rw [Editor.eraseHex, List.length_dropLast]
    omega
  key := h.key

theorem Editable.clearHex {e : Editor} (h : e.Editable) : e.clearHex.Editable where
  digits _ hnone := by cases hnone
  short := Nat.zero_le 16
  key := h.key

theorem Editable.typed {e : Editor} (h : e.Editable) (digits : List (Fin 16)) :
    (digits.foldl (fun t digit => t.appendHex (Hex.getD digit 0)) e).Editable := by
  induction digits generalizing e with
  | nil => exact h
  | cons digit digits ih => exact ih (h.appendHex (hex_digit digit digit.isLt))

theorem displayValue_short {value : Text} (h : value.length ≤ 16) : ∃ id, displayValue value = some id :=
  ⟨_, if_neg (Nat.not_lt.mpr h)⟩

/-- The page after it was refreshed with this text of the value. -/
def shows (e : Editor) (id : Text) : Editor :=
  { e with id := id, keyRows := (keypadRow e.key 0, keypadRow e.key 1), result := hint }

/-- Refreshing the page does not throw, and leaves nothing stale. -/
theorem Editable.refreshEditor {e : Editor} (h : e.Editable) :
    ∃ id, e.refreshEditor = some (e.shows id) ∧ (e.shows id).Inv := by
  obtain ⟨id, hid⟩ := displayValue_short h.short
  exact ⟨id, by rw [Editor.refreshEditor, hid]; rfl, ⟨h.digits, h.short, h.key⟩, hid, rfl, .inl rfl⟩

/-- A value that is refused, and why. -/
theorem refused {e : Editor} (h : e.Editable) (hrefused : isHexNetworkId e.value = false) :
    if e.value.length = 16 then e.value = List.replicate 16 48 else e.value.length < 16 := by
  have hall : e.value.all isHexDigit = true :=
    List.all_eq_true.mpr fun c hc => isHexDigit_of_upper c (h.digits c hc)
  split
  · next hlen =>
    rw [isHexNetworkId, hlen, hall] at hrefused
    rw [show (16 == 16 && true) = true from rfl, Bool.true_and, List.any_eq_false] at hrefused
    rw [← hlen]
    exact List.eq_replicate_of_mem fun c hc => by simpa using hrefused c hc
  · have := h.short
    omega

/-- Saving: nothing happens to a value that is refused. -/
theorem commit_cases {e : Editor} (h : e.Inv) :
    e.commit.1.Inv ∧ e.commit.1.value = e.value ∧
      (e.commit.2 = [] ∧ e.commit.1.closed = e.closed ∨
        isHexNetworkId e.value = true ∧ e.commit.2 = saveAndSelectNetwork e.value ∧ e.commit.1.closed = true) := by
  rw [commit]
  split
  · next hok => exact ⟨⟨⟨h.digits, h.short, h.key⟩, h.id, h.keyRows, h.result⟩, rfl, .inr ⟨hok, rfl, rfl⟩⟩
  · next hno =>
    have hwhy := refused h.toEditable (Bool.not_eq_true _ ▸ hno)
    refine ⟨⟨⟨h.digits, h.short, h.key⟩, h.id, h.keyRows, ?_⟩, rfl, .inl ⟨rfl, rfl⟩⟩
    split at hwhy
    · next hlen => exact .inr (.inr ⟨if_pos hlen, hwhy⟩)
    · next hlen => exact .inr (.inl ⟨if_neg hlen, hwhy⟩)

/-- What a call leaves behind: nothing is saved and the page stays, or its value is saved and it goes back. -/
def Leaves (e : Editor) (out : Editor × List IniWrite) : Prop :=
  out.1.Inv ∧ (out.2 = [] ∧ out.1.closed = e.closed ∨
    isHexNetworkId out.1.value = true ∧ out.2 = saveAndSelectNetwork out.1.value ∧ out.1.closed = true)

theorem commit_leaves {e : Editor} (h : e.Inv) : e.Leaves e.commit := by
  obtain ⟨hinv, hvalue, hcases⟩ := commit_cases h
  rw [← hvalue] at hcases
  exact ⟨hinv, hcases⟩

theorem refreshEditor_leaves {e t : Editor} (h : t.Editable) (hclosed : t.closed = e.closed) :
    ∃ out, t.refreshEditor = some out ∧ e.Leaves (out, []) := by
  obtain ⟨id, hid, hinv⟩ := h.refreshEditor
  exact ⟨t.shows id, hid, hinv, .inl ⟨rfl, hclosed⟩⟩

theorem handleInput_leaves {e : Editor} (h : e.Inv) (keysDown : Buttons) :
    ∃ out, (e.handleInput keysDown).map (fun out => (out.1, out.2.2)) = some out ∧ e.Leaves out := by
  have hrefresh {t : Editor} (ht : t.Editable) (hclosed : t.closed = e.closed) :
      ∃ out, (t.refreshEditor.map (·, true, [])).map (fun out => (out.1, out.2.2)) = some out ∧ e.Leaves out := by
    obtain ⟨out, hout, hleaves⟩ := refreshEditor_leaves ht hclosed
    exact ⟨(out, []), by rw [hout]; rfl, hleaves⟩
  have hmoved {key : Nat} (hkey : key < 16) : { e with key := key }.Editable := ⟨h.digits, h.short, hkey⟩
  rw [handleInput]
  split
  · have hlatched : { e with keyboardCommit := false }.Inv :=
      ⟨⟨h.digits, h.short, h.key⟩, h.id, h.keyRows, h.result⟩
    exact ⟨_, rfl, commit_leaves hlatched⟩
  split
  · exact hrefresh (hmoved (Nat.mod_lt _ (by decide))) rfl
  split
  · exact hrefresh (hmoved (Nat.mod_lt _ (by decide))) rfl
  split
  · exact hrefresh (hmoved (Nat.xor_lt_two_pow (n := 4) h.key (by decide))) rfl
  split
  · refine hrefresh (h.toEditable.appendHex (hex_digit _ h.key)) ?_
    rw [appendHex]
    split <;> split <;> rfl
  split
  · exact hrefresh h.toEditable.eraseHex rfl
  split
  · exact hrefresh h.toEditable.clearHex rfl
  split
  · exact ⟨_, rfl, commit_leaves h⟩
  · exact ⟨_, rfl, h, .inl ⟨rfl, rfl⟩⟩

theorem appendHex_closed (e : Editor) (c : U8) : (e.appendHex c).closed = e.closed := by
  rw [appendHex]
  split <;> split <;> rfl

theorem typed_closed (e : Editor) (digits : List (Fin 16)) :
    (digits.foldl (fun t digit => t.appendHex (Hex.getD digit 0)) e).closed = e.closed := by
  induction digits generalizing e with
  | nil => rfl
  | cons digit digits ih => exact (ih _).trans (appendHex_closed e _)

theorem update_leaves {e : Editor} (h : e.Inv) (current : Option Keyboard) :
    ∃ out, (e.update current).map (·, []) = some out ∧ e.Leaves out := by
  cases current with
  | none => exact ⟨_, rfl, h, .inl ⟨rfl, rfl⟩⟩
  | some current =>
    rw [update]
    generalize (!e.keyboardReady || current.samplingNumber != e.keyboardPrevious.samplingNumber) = fresh
    generalize (List.finRange 16).filter (fun digit => fresh && e.pressed current (.hex digit)) = digits
    generalize (fresh && e.pressed current .backspace) = erase
    have htyped := h.toEditable.typed digits
    have hclosed := typed_closed e digits
    split
    · generalize digits.foldl (fun t digit => t.appendHex (Hex.getD digit 0)) e = t at htyped hclosed ⊢
      have herased : (if erase then t.eraseHex else t).Editable ∧ (if erase then t.eraseHex else t).closed = e.closed := by
        cases erase
        · exact ⟨htyped, hclosed⟩
        · exact ⟨htyped.eraseHex, hclosed⟩
      generalize (if erase then t.eraseHex else t) = t at herased ⊢
      obtain ⟨⟨hdigits, hshort, hkey⟩, hclosed⟩ := herased
      obtain ⟨out, hout, hleaves⟩ := refreshEditor_leaves (e := e)
        (t := { t with
          keyboardCommit := e.keyboardCommit || fresh && e.pressed current .return_
          keyboardPrevious := current
          keyboardReady := true }) ⟨hdigits, hshort, hkey⟩ hclosed
      exact ⟨(out, []), by rw [hout]; rfl, hleaves⟩
    · next hnone =>
      -- no digit and no erasure: only the sample is kept
      simp only [Bool.or_eq_true, Bool.not_eq_true', not_or, Bool.not_eq_false, List.isEmpty_iff,
        Bool.not_eq_true] at hnone
      obtain ⟨rfl, rfl⟩ := hnone
      exact ⟨_, rfl, ⟨⟨h.digits, h.short, h.key⟩, h.id, h.keyRows, h.result⟩, .inl ⟨rfl, rfl⟩⟩

theorem run_closed {e : Editor} (h : e.closed = true) (es : List Event) : e.run es = some (e, []) := by
  induction es with
  | nil => rfl
  | cons event es ih =>
    have hstep : e.step event = some (e, []) := if_pos h
    rw [run, hstep]
    simp [ih]

theorem step_leaves {e : Editor} (h : e.Inv) (hopen : e.closed = false) (event : Event) :
    ∃ out, e.step event = some out ∧ e.Leaves out := by
  have hgone : ¬e.closed = true := by
    rw [hopen]
    exact Bool.false_ne_true
  cases event with
  | handleInput keysDown =>
    rw [step, if_neg hgone]
    exact handleInput_leaves h keysDown
  | update current =>
    rw [step, if_neg hgone]
    exact update_leaves h current

/-- What one call leaves behind, a run does. -/
theorem run_leaves (es : List Event) {e : Editor} (h : e.Inv) (hopen : e.closed = false) :
    ∃ out, e.run es = some out ∧ e.Leaves out := by
  induction es generalizing e with
  | nil => exact ⟨_, rfl, h, .inl ⟨rfl, rfl⟩⟩
  | cons event es ih =>
    obtain ⟨⟨t, writes⟩, hstep, hinv, hleaves⟩ := step_leaves h hopen event
    rcases hleaves with ⟨hnone, hsame⟩ | ⟨hok, hsaved, hclosed⟩
    · obtain ⟨⟨u, writes'⟩, hrun, hinv', hleaves'⟩ := ih hinv (hsame.trans hopen)
      refine ⟨(u, writes ++ writes'), by rw [run, hstep]; simp [hrun], hinv', ?_⟩
      dsimp only at hnone hsame hleaves' ⊢
      rw [hnone, List.nil_append, ← hsame]
      exact hleaves'
    · refine ⟨(t, writes), by rw [run, hstep]; simp [run_closed hclosed], hinv, .inr ⟨hok, hsaved, hclosed⟩⟩

theorem opened_inv {initial : Text} (hdigits : ∀ c ∈ initial, isUpperDigit c = true) (hshort : initial.length ≤ 16) :
    ∃ e, opened initial = some e ∧ e.Inv ∧ e.closed = false := by
  obtain ⟨id, hid⟩ := displayValue_short hshort
  have hinv : Inv ⟨initial, 0, true, false, false, ⟨0, fun _ => false⟩, id, (keypadRow 0 0, keypadRow 0 1), hint,
      false⟩ := ⟨⟨hdigits, hshort, Nat.zero_lt_succ 15⟩, hid, rfl, .inl rfl⟩
  exact ⟨_, by rw [opened, hid]; rfl, hinv, rfl⟩

end Editor

/-! ### Ids in either case -/

theorem upperHex_digits {value : Text} (h : isHexNetworkId value = true) :
    (∀ c ∈ upperHex value, isUpperDigit c = true) ∧ (upperHex value).length = 16 := by
  rw [isHexNetworkId, Bool.and_eq_true, Bool.and_eq_true, beq_iff_eq] at h
  refine ⟨fun c hc => ?_, by rw [upperHex, List.length_map]; exact h.1.1⟩
  obtain ⟨d, hd, rfl⟩ := List.mem_map.mp hc
  exact (by decide +kernel : ∀ d : U8, isHexDigit d = true →
    isUpperDigit (if 97 ≤ d ∧ d ≤ 102 then d - 97 + 65 else d) = true) d (List.all_eq_true.mp h.1.2 d hd)

theorem initialNetworkId_digits (selected : Text) (nwid : Text → Text) (active : Text) :
    (∀ c ∈ initialNetworkId selected nwid active, isUpperDigit c = true) ∧
      (initialNetworkId selected nwid active).length = 16 := by
  rw [initialNetworkId]
  split
  · next h => exact upperHex_digits h.2
  · split
    · next h => exact upperHex_digits h
    · decide +kernel

theorem lower_digit : ∀ c : U8, isUpperDigit c = true →
    isHexDigit (if 65 ≤ c ∧ c ≤ 70 then c - 65 + 97 else c) = true ∧
      hexValue (if 65 ≤ c ∧ c ≤ 70 then c - 65 + 97 else c) = hexValue c ∧
      ((if 65 ≤ c ∧ c ≤ 70 then c - 65 + 97 else c) = 48 ↔ c = 48) := by decide +kernel

theorem lowerHex_denotes {value : Text} (h : ∀ c ∈ value, isUpperDigit c = true) :
    denotes (lowerHex value) = denotes value := by
  rw [denotes_eq, denotes_eq, lowerHex, List.map_map]
  congr 2
  exact List.map_congr_left fun c hc => (lower_digit c (h c hc)).2.1

theorem lowerHex_isHexNetworkId {value : Text} (h : ∀ c ∈ value, isUpperDigit c = true)
    (hid : isHexNetworkId value = true) : isHexNetworkId (lowerHex value) = true := by
  rw [isHexNetworkId, Bool.and_eq_true, Bool.and_eq_true, beq_iff_eq, List.any_eq_true] at hid
  obtain ⟨⟨hlen, -⟩, c, hc, hnonzero⟩ := hid
  rw [isHexNetworkId, Bool.and_eq_true, Bool.and_eq_true, beq_iff_eq, List.any_eq_true, List.all_eq_true]
  refine ⟨⟨by rw [lowerHex, List.length_map, hlen], fun d hd => ?_⟩, _, List.mem_map_of_mem hc, ?_⟩
  · obtain ⟨c, hc, rfl⟩ := List.mem_map.mp hd
    exact (lower_digit c (h c hc)).1
  · exact bne_iff_ne.mpr fun heq => bne_iff_ne.mp hnonzero ((lower_digit c (h c hc)).2.2.mp heq)

/-- What is saved is read by the sysmodule, as the id and as the name of its section. -/
theorem saved_read {value : Text} (h : ∀ c ∈ value, isUpperDigit c = true) (hid : isHexNetworkId value = true) :
    (∃ id : U64, networkId (lowerHex value) = some id ∧ id.toNat = denotes value) ∧ ReadsBack (lowerHex value) := by
  have hlower := lowerHex_isHexNetworkId h hid
  obtain ⟨⟨hlen, hall⟩, -⟩ := (Bool.and_eq_true_iff.mp hlower).imp_left Bool.and_eq_true_iff.mp
  rw [beq_iff_eq] at hlen
  constructor
  · refine ⟨BitVec.ofNat 64 (denotes (lowerHex value)), ?_, ?_⟩
    · rw [networkId_eq, List.take_of_length_le hlen.le, if_pos hlower]
    · have hlt := denotesFrom_lt (k := 0) (n := 0) (by decide) hall
      rw [hlen] at hlt
      rw [BitVec.toNat_ofNat, lowerHex_denotes h]
      rw [show denotesFrom 0 (lowerHex value) = denotes (lowerHex value) from rfl, lowerHex_denotes h] at hlt
      exact Nat.mod_eq_of_lt hlt
  · have hchar {c : U8} (hc : c ∈ lowerHex value) : isBlank c = false ∧ c ≠ 13 ∧ c ≠ 39 ∧ c ≠ 34 :=
      (by decide +kernel : ∀ c : U8, isHexDigit c = true → isBlank c = false ∧ c ≠ 13 ∧ c ≠ 39 ∧ c ≠ 34) c
        (List.all_eq_true.mp hall c hc)
    refine ⟨List.ne_nil_of_length_pos (by omega), by rw [hlen]; decide, fun c hc => ?_, fun c hc => ?_, ?_⟩
    · exact (hchar (List.mem_of_mem_head? hc)).1
    · have hmem := hchar (List.mem_of_getLast? hc)
      exact ⟨hmem.1, hmem.2.1⟩
    · intro quote hquote _ hhead
      have hmem := hchar (List.mem_of_mem_head? hhead)
      exact absurd hquote (not_or.mpr hmem.2.2)

/-- **Whatever is called on the page, in whatever order**: it never throws, it shows the value
it holds and where the keypad is, and what it says of the value is true, though not that
there are sixteen digits already. It saves at most once, the value it shows, which the
sysmodule reads as the id with these digits and finds by its name. -/
theorem editor_runs (selected : Text) (nwid : Text → Text) (active : Text) (es : List Editor.Event) :
    ∃ e writes, (Editor.opened (initialNetworkId selected nwid active)).bind (·.run es) = some (e, writes) ∧ e.Inv ∧
      (writes = [] ∨
        writes = [⟨lowerHex e.value, ascii "nwid", lowerHex e.value⟩,
          ⟨ascii "sys-zerotier", ascii "selected", lowerHex e.value⟩] ∧
        (∃ id : U64, networkId (lowerHex e.value) = some id ∧ id.toNat = denotes e.value) ∧
        ReadsBack (lowerHex e.value)) := by
  obtain ⟨hdigits, hlen⟩ := initialNetworkId_digits selected nwid active
  obtain ⟨e, he, hinv, hopen⟩ := Editor.opened_inv hdigits hlen.le
  obtain ⟨⟨t, writes⟩, hrun, hinv', hleaves⟩ := Editor.run_leaves es hinv hopen
  refine ⟨t, writes, by rw [he]; exact hrun, hinv', ?_⟩
  rcases hleaves with ⟨hnone, -⟩ | ⟨hok, hsaved, -⟩
  · exact .inl hnone
  · exact .inr ⟨hsaved, saved_read hinv'.digits hok⟩

/-! ### The keyboard -/

/-- The keys the page looks at, in its order. -/
def keys : List HidKey := (List.finRange 16).map .hex ++ [.backspace, .return_]

/-- The keys that go down between two samples. -/
def pressesBetween (previous : Option Keyboard) (current : Keyboard) : List HidKey :=
  keys.filter fun key => current.down key && !previous.any (·.down key)

/-- The keys that go down in samples that follow one another. -/
def presses : Option Keyboard → List Keyboard → List HidKey
  | _, [] => []
  | previous, current :: ks => pressesBetween previous current ++ presses (some current) ks

/-- What a key does to a field, and to whether what is typed replaces it. -/
def stroke (field : Text × Bool) : HidKey → Text × Bool
  | .hex digit =>
    let value := if field.2 then [] else field.1
    (if 16 ≤ value.length then value else value ++ [Hex.getD digit 0], false)
  | .backspace => (field.1.dropLast, false)
  | .return_ => field

/-- A sampling number is that of one sample. -/
def Steady : Option Keyboard → List Keyboard → Prop
  | _, [] => True
  | previous, current :: ks =>
    (∀ k ∈ previous, k.samplingNumber = current.samplingNumber → k = current) ∧ Steady (some current) ks

namespace Editor

/-- The last sample, once there is one. -/
def seen (e : Editor) : Option Keyboard := if e.keyboardReady then some e.keyboardPrevious else none

def field (e : Editor) : Text × Bool := (e.value, e.replaceOnType)

theorem appendHex_field (e : Editor) (digit : Fin 16) :
    (e.appendHex (Hex.getD digit 0)).field = stroke e.field (.hex digit) := by
  obtain ⟨value, key, replace, ready, latch, previous, id, rows, result, closed⟩ := e
  cases replace
  · by_cases hlen : 16 ≤ value.length <;> simp [appendHex, field, stroke, hlen]
  · simp [appendHex, field, stroke]

theorem typed_field (e : Editor) (digits : List (Fin 16)) :
    (digits.foldl (fun t digit => t.appendHex (Hex.getD digit 0)) e).field =
      (digits.map HidKey.hex).foldl stroke e.field := by
  induction digits generalizing e with
  | nil => rfl
  | cons digit digits ih =>
    rw [List.foldl_cons, ih, appendHex_field]
    rfl

/-- What the page takes for pressed is what went down since the last sample. -/
theorem pressesBetween_seen {e : Editor} {current : Keyboard}
    (h : ∀ k ∈ e.seen, k.samplingNumber = current.samplingNumber → k = current) :
    let fresh := !e.keyboardReady || current.samplingNumber != e.keyboardPrevious.samplingNumber
    pressesBetween e.seen current = keys.filter fun key => fresh && e.pressed current key := by
  intro fresh
  apply List.filter_congr
  intro key _
  cases hready : e.keyboardReady with
  | false => simp [fresh, pressed, seen, hready]
  | true =>
    have hseen : e.seen = some e.keyboardPrevious := if_pos hready
    by_cases hnumber : e.keyboardPrevious.samplingNumber = current.samplingNumber
    · have hsame := h _ hseen hnumber
      simp [fresh, pressed, hseen, hready, hsame]
    · have hne : (current.samplingNumber != e.keyboardPrevious.samplingNumber) = true :=
        bne_iff_ne.mpr (Ne.symm hnumber)
      simp [fresh, pressed, hseen, hready, hne]

theorem keys_filter (f : HidKey → Bool) :
    keys.filter f = ((List.finRange 16).filter fun digit => f (.hex digit)).map .hex ++
      ((if f .backspace then [.backspace] else []) ++ if f .return_ then [.return_] else []) := by
  rw [keys, List.filter_append, List.filter_map]
  cases hb : f .backspace <;> cases hr : f .return_ <;> simp [hb, hr, Function.comp_def]

/-- One sample. -/
theorem update_field {e : Editor} (hinv : e.Inv) {current : Keyboard}
    (h : ∀ k ∈ e.seen, k.samplingNumber = current.samplingNumber → k = current) :
    ∃ t, e.update (some current) = some t ∧ t.Inv ∧ t.closed = e.closed ∧ t.seen = some current ∧
      t.field = (pressesBetween e.seen current).foldl stroke e.field ∧
      t.keyboardCommit = (e.keyboardCommit || (pressesBetween e.seen current).contains .return_) := by
  have hpresses := pressesBetween_seen h
  dsimp only at hpresses
  rw [keys_filter] at hpresses
  rw [hpresses, update]
  generalize (!e.keyboardReady || current.samplingNumber != e.keyboardPrevious.samplingNumber) = fresh
  generalize (List.finRange 16).filter (fun digit => fresh && e.pressed current (.hex digit)) = digits
  generalize (fresh && e.pressed current .backspace) = erase
  generalize (fresh && e.pressed current .return_) = ret
  have htyped := hinv.toEditable.typed digits
  have hclosed := typed_closed e digits
  have hfield := typed_field e digits
  have hlatch : (digits.map HidKey.hex ++ ((if erase then [HidKey.backspace] else []) ++
      if ret then [HidKey.return_] else [])).contains .return_ = ret := by
    cases erase <;> cases ret <;> simp
  have hret (f : Text × Bool) : (if ret then [HidKey.return_] else []).foldl stroke f = f := by
    cases ret <;> rfl
  rw [hlatch, List.foldl_append, List.foldl_append, hret, ← hfield]
  split
  · generalize digits.foldl (fun t digit => t.appendHex (Hex.getD digit 0)) e = t at htyped hclosed ⊢
    have herased : (if erase then t.eraseHex else t).Editable ∧ (if erase then t.eraseHex else t).closed = e.closed ∧
        (if erase then t.eraseHex else t).field = (if erase then [HidKey.backspace] else []).foldl stroke t.field := by
      cases erase
      · exact ⟨htyped, hclosed, rfl⟩
      · exact ⟨htyped.eraseHex, hclosed, rfl⟩
    generalize (if erase then t.eraseHex else t) = u at herased ⊢
    obtain ⟨⟨hdigits, hshort, hkey⟩, hclosed, hfield⟩ := herased
    have hseen : Editable { u with
        keyboardCommit := e.keyboardCommit || ret, keyboardPrevious := current, keyboardReady := true } :=
      ⟨hdigits, hshort, hkey⟩
    obtain ⟨id, hid, hinv⟩ := hseen.refreshEditor
    exact ⟨_, hid, hinv, hclosed, rfl, hfield, rfl⟩
  · next hnone =>
    simp only [Bool.or_eq_true, Bool.not_eq_true', not_or, Bool.not_eq_false, List.isEmpty_iff,
      Bool.not_eq_true] at hnone
    obtain ⟨rfl, rfl⟩ := hnone
    exact ⟨_, rfl, ⟨⟨hinv.digits, hinv.short, hinv.key⟩, hinv.id, hinv.keyRows, hinv.result⟩, rfl, rfl, rfl, rfl⟩

/-- Samples in a row. -/
theorem keyboard_run (ks : List Keyboard) {e : Editor} (hinv : e.Inv) (hopen : e.closed = false)
    (h : Steady e.seen ks) :
    ∃ t, e.run (ks.map fun k => .update (some k)) = some (t, []) ∧
      t.field = (presses e.seen ks).foldl stroke e.field ∧
      t.keyboardCommit = (e.keyboardCommit || (presses e.seen ks).contains .return_) := by
  induction ks generalizing e with
  | nil => exact ⟨e, rfl, rfl, (Bool.or_false _).symm⟩
  | cons current ks ih =>
    obtain ⟨t, hupdate, hinv', hclosed, hseen, hfield, hlatch⟩ := update_field hinv h.1
    have hopen' := hclosed.trans hopen
    obtain ⟨u, hrun, hfield', hlatch'⟩ := ih hinv' hopen' (by rw [hseen]; exact h.2)
    have hstep : e.step (.update (some current)) = some (t, []) := by
      rw [step, if_neg (by rw [hopen]; exact Bool.false_ne_true), hupdate]
      rfl
    refine ⟨u, by rw [List.map_cons, run, hstep]; simp [hrun], ?_, ?_⟩
    · rw [hfield', hfield, hseen, presses, List.foldl_append]
    · rw [hlatch', hlatch, hseen, presses, List.contains_append, Bool.or_assoc]

end Editor

/-- **What is typed on the keyboard does not depend on how often the page looks at a sample**, as
long as no two have one number: every key that goes down from one sample to the next that is
seen is entered, once, however long it is held and from the first sample on, and Enter is
remembered. -/
theorem typed_once (selected : Text) (nwid : Text → Text) (active : Text) (ks : List Keyboard)
    (h : Steady none ks) :
    ∃ e t, Editor.opened (initialNetworkId selected nwid active) = some e ∧
      e.run (ks.map fun k => .update (some k)) = some (t, []) ∧
      (t.value, t.replaceOnType) =
        (presses none ks).foldl stroke (initialNetworkId selected nwid active, true) ∧
      t.keyboardCommit = (presses none ks).contains .return_ := by
  obtain ⟨hdigits, hlen⟩ := initialNetworkId_digits selected nwid active
  obtain ⟨id, hid⟩ := Editor.displayValue_short hlen.le
  obtain ⟨e, he, hinv, hopen⟩ := Editor.opened_inv hdigits hlen.le
  have hfirst : e.seen = none ∧ e.field = (initialNetworkId selected nwid active, true) ∧ e.keyboardCommit = false := by
    rw [Editor.opened, hid] at he
    cases he
    exact ⟨rfl, rfl, rfl⟩
  obtain ⟨t, hrun, hfield, hlatch⟩ := Editor.keyboard_run ks hinv hopen (by rw [hfirst.1]; exact h)
  rw [hfirst.1, hfirst.2.1] at hfield
  rw [hfirst.1, hfirst.2.2, Bool.false_or] at hlatch
  exact ⟨e, t, he, hrun, hfield, hlatch⟩

/-- Held through two samples, and let go. -/
def heldA : List Keyboard :=
  [⟨1, fun key => key == .hex 10⟩, ⟨2, fun key => key == .hex 10⟩, ⟨3, fun _ => false⟩]

theorem typed_once_held :
    presses none heldA = [.hex 10] ∧ ∃ e t, Editor.opened (initialNetworkId [] id []) = some e ∧
      e.run (heldA.map fun k => .update (some k)) = some (t, []) ∧
      (t.value, t.replaceOnType) = (presses none heldA).foldl stroke (initialNetworkId [] id [], true) ∧
      t.keyboardCommit = (presses none heldA).contains .return_ := by
  refine ⟨by decide +kernel, typed_once [] id [] heldA ?_⟩
  refine ⟨(fun _ hnone => by cases hnone), fun k hk => ?_, fun k hk => ?_, trivial⟩
  · obtain rfl := Option.some.inj hk
    exact fun h => absurd h (by decide)
  · obtain rfl := Option.some.inj hk
    exact fun h => absurd h (by decide)

end SysZerotier.Overlay
