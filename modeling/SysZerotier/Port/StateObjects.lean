import SysZerotier.Config.Template

/-! ZeroTier's state objects on the SD card (`StatePath`, `Port::cbStateGet` and
`Port::cbStatePut` in `source/zt_port.cpp`).

An object is a file, and a put deletes the file, creates it anew, opens it and writes
it. Each of the four calls can fail. `keeps` is what a crash-safe put would do;
`objects_kept_iff` says which failures this one survives, and `object_survives` what
then holds over a whole history. -/
namespace SysZerotier.Port
open Net Library Config

/-- `ZT_StateObjectType`, as far as `StatePath` tells its values apart. -/
inductive StateObjectType where
  | identityPublic
  | identitySecret
  | planet
  | networkConfig
  | peer
  | other
  deriving DecidableEq

def StateRoot : Text := ascii "sdmc:/atmosphere/contents/4200000000005A54/zt"

/-! ### Paths -/

def hexDigit (d : Nat) : U8 := BitVec.ofNat 8 (if d < 10 then 48 + d else 87 + d)

/-- `%.<width>llx`. -/
def hexText (width : Nat) (v : U64) : Text :=
  let digits := Nat.digits 16 v.toNat
  (digits ++ List.replicate (width - digits.length) 0).reverse.map hexDigit

/-- `id` is the first of the two words of the object's id. -/
def statePath (type : StateObjectType) (id : U64) : Option Text :=
  match type with
  | .identityPublic => some (StateRoot ++ ascii "/identity.public")
  | .identitySecret => some (StateRoot ++ ascii "/identity.secret")
  | .planet => some (StateRoot ++ ascii "/planet")
  | .networkConfig => some (StateRoot ++ (ascii "/networks.d/" ++ (hexText 16 id ++ ascii ".conf")))
  | .peer => some (StateRoot ++ (ascii "/peers.d/" ++ (hexText 10 id ++ ascii ".peer")))
  | .other => none

/-- The digit a character stands for. -/
def digitOf (c : U8) : Nat := if c.toNat < 58 then c.toNat - 48 else c.toNat - 87

theorem digitOf_hexDigit : ∀ d < 16, digitOf (hexDigit d) = d := by decide

theorem hexText_read (width : Nat) (v : U64) :
    Nat.ofDigits 16 ((hexText width v).map digitOf).reverse = v.toNat := by
  have hback : ∀ l : List Nat, (∀ d ∈ l, d < 16) → (l.map hexDigit).map digitOf = l := by
    intro l hl
    rw [List.map_map]
    exact (List.map_congr_left fun d hd => digitOf_hexDigit d (hl d hd)).trans (List.map_id l)
  simp only [hexText]
  rw [hback, List.reverse_reverse, Nat.ofDigits_append_replicate_zero, Nat.ofDigits_digits]
  intro d hd
  rcases List.mem_append.mp (List.mem_reverse.mp hd) with hd | hd
  · exact Nat.digits_lt_base (by decide) hd
  · rw [List.eq_of_mem_replicate hd]
    decide

theorem hexText_inj {width : Nat} {v w : U64} (h : hexText width v = hexText width w) : v = w := by
  apply BitVec.eq_of_toNat_eq
  rw [← hexText_read width v, h, hexText_read]

/-- The object's path depends on its id. -/
def StateObjectType.numbered : StateObjectType → Bool
  | .networkConfig => true
  | .peer => true
  | _ => false

/-- Where the names of the objects part. -/
def StateObjectType.tag : StateObjectType → Text
  | .identityPublic => ascii "/identity.public"
  | .identitySecret => ascii "/identity.secret"
  | .planet => ascii "/planet"
  | .networkConfig => ascii "/networks.d/"
  | .peer => ascii "/peers.d/"
  | .other => []

theorem statePath_tag {type : StateObjectType} {id : U64} {path : Text} (h : statePath type id = some path) :
    path.take (StateRoot.length + type.tag.length) = StateRoot ++ type.tag := by
  cases type with
  | other => cases h
  | identityPublic | identitySecret | planet =>
    obtain rfl := Option.some.inj h
    rw [← List.length_append]
    exact List.take_length
  | networkConfig | peer =>
    obtain rfl := Option.some.inj h
    rw [← List.append_assoc, ← List.length_append]
    exact List.take_left

theorem tag_inj {type type' : StateObjectType} (hne : type ≠ .other) (hne' : type' ≠ .other)
    (h : (StateRoot ++ type.tag).take (StateRoot.length + min type.tag.length type'.tag.length) =
      (StateRoot ++ type'.tag).take (StateRoot.length + min type.tag.length type'.tag.length)) :
    type = type' := by
  revert h
  cases type <;> cases type' <;> first | exact absurd rfl hne | exact absurd rfl hne' | decide

/-- Different objects are different files. -/
theorem statePath_inj {type type' : StateObjectType} {id id' : U64} {path : Text}
    (h : statePath type id = some path) (h' : statePath type' id' = some path) :
    type = type' ∧ (type.numbered = true → id = id') := by
  have hne : ∀ {t : StateObjectType} {i : U64}, statePath t i = some path → t ≠ .other := by
    rintro t i hp rfl
    cases hp
  have htag := congrArg (List.take (StateRoot.length + min type.tag.length type'.tag.length)) (statePath_tag h)
  have htag' := congrArg (List.take (StateRoot.length + min type.tag.length type'.tag.length)) (statePath_tag h')
  rw [List.take_take, Nat.min_eq_left (by omega)] at htag htag'
  obtain rfl := tag_inj (hne h) (hne h') (htag.symm.trans htag')
  refine ⟨rfl, fun hn => ?_⟩
  have heq := h.trans h'.symm
  cases type with
  | networkConfig | peer =>
    have htext := List.append_cancel_left (List.append_cancel_left (Option.some.inj heq))
    exact hexText_inj (List.append_cancel_right htext)
  | _ => cases hn

theorem hexText_length {width : Nat} (hw : width ≤ 16) (v : U64) : (hexText width v).length ≤ 16 := by
  have hdigits : (Nat.digits 16 v.toNat).length ≤ 16 := (Nat.digits_length_le_iff (by decide) _).mpr v.isLt
  simp only [hexText, List.length_map, List.length_reverse, List.length_append, List.length_replicate]
  omega

/-- Every path fits the 256 bytes both callbacks format it into. -/
theorem statePath_fits {type : StateObjectType} {id : U64} {path : Text} (h : statePath type id = some path) :
    path.length < 256 := by
  have h16 := hexText_length (show 16 ≤ 16 by decide) id
  have h10 := hexText_length (show 10 ≤ 16 by decide) id
  cases type with
  | other => cases h
  | identityPublic | identitySecret | planet =>
    obtain rfl := Option.some.inj h
    decide
  | networkConfig =>
    obtain rfl := Option.some.inj h
    have hrest : StateRoot.length + ((ascii "/networks.d/").length + (16 + (ascii ".conf").length)) < 256 := by decide
    simp only [List.length_append]
    omega
  | peer =>
    obtain rfl := Option.some.inj h
    have hrest : StateRoot.length + ((ascii "/peers.d/").length + (16 + (ascii ".peer").length)) < 256 := by decide
    simp only [List.length_append]
    omega

/-! ### The callbacks -/

/-- The files on the card, by path. -/
abbrev Storage := Text → File

/-- `none` is the return value `-1`; otherwise the bytes are stored through `data` and
their number returned. -/
def cbStateGet (fs : Storage) (type : StateObjectType) (id : U64) (maxlen : Nat) (faults : ReadFaults) :
    Option (List U8) :=
  match statePath type id with
  | none => none
  | some path =>
    match fs path with
    | none => none
    | some bytes =>
      if faults.openFile then none
      else if faults.getFileSize || decide (maxlen < bytes.length) then none
      else if faults.readFile then none
      else some bytes

/-- No `data` stands for a negative length. The four calls are those of
`WriteWholeFile`. -/
def cbStatePut (fs : Storage) (type : StateObjectType) (id : U64) (data : Option (List U8))
    (faults : WriteFaults) : Storage :=
  match statePath type id with
  | none => fs
  | some path =>
    match data with
    | none => if faults.deleteFile then fs else Function.update fs path none
    | some bytes => Function.update fs path (writeWholeFile (fs path) bytes faults).1

/-- One call of `cbStatePut`. -/
structure Put where
  type : StateObjectType
  id : U64
  data : Option (List U8)
  faults : WriteFaults

def Put.path (e : Put) : Option Text := statePath e.type e.id

/-- A history of puts, each with its failures. -/
def puts : System Storage Put := ⟨fun fs e => some (cbStatePut fs e.type e.id e.data e.faults)⟩

/-- With a buffer that is large enough and no failure, what is stored is read. -/
theorem cbStateGet_stored {fs : Storage} {type : StateObjectType} {id : U64} {path : Text} {bytes : List U8}
    (hpath : statePath type id = some path) (hstored : fs path = some bytes) {maxlen : Nat}
    (hmax : bytes.length ≤ maxlen) : cbStateGet fs type id maxlen {} = some bytes := by
  simp [cbStateGet, hpath, hstored, hmax]

/-- A put touches its own file only. -/
theorem cbStatePut_other (fs : Storage) (e : Put) {path : Text} (h : e.path ≠ some path) :
    cbStatePut fs e.type e.id e.data e.faults path = fs path := by
  unfold cbStatePut
  cases hpath : statePath e.type e.id with
  | none => rfl
  | some own =>
    have hne : path ≠ own := by
      intro heq
      exact h (by rw [Put.path, hpath, heq])
    cases e.data with
    | none =>
      dsimp only
      split
      · rfl
      · exact Function.update_of_ne hne ..
    | some bytes => exact Function.update_of_ne hne ..

theorem cbStatePut_own (fs : Storage) (type : StateObjectType) (id : U64) (bytes : List U8)
    (faults : WriteFaults) {path : Text} (h : statePath type id = some path) :
    cbStatePut fs type id (some bytes) faults path = (writeWholeFile (fs path) bytes faults).1 := by
  simp only [cbStatePut, h, Function.update_self]

/-! ### Old or new -/

/-- What is read back after a put over a stored object, with a buffer for either value,
is the old value or the new one. -/
def keeps (fs : Storage) (e : Put) : Bool :=
  match e.path.bind fs, e.data with
  | some old, some new =>
    let read := cbStateGet (cbStatePut fs e.type e.id e.data e.faults) e.type e.id (max old.length new.length) {}
    read == some old || read == some new
  | _, _ => true

/-- The failures a put survives: the old file could not be deleted, or a new one was
created and written, unless the zeros it is created with are one of the values. -/
def survives (fs : Storage) (e : Put) : Bool :=
  match e.path.bind fs, e.data with
  | some old, some new =>
    e.faults.deleteFile ||
      (!e.faults.createFile &&
        ((!e.faults.openFile && !e.faults.writeFile) || new == List.replicate new.length 0 ||
          old == List.replicate new.length 0))
  | _, _ => true

/-- What the calls leave of a file that holds `old`. -/
theorem writeWholeFile_old (old new : List U8) (faults : WriteFaults) :
    (writeWholeFile (some old) new faults).1 =
      if faults.deleteFile then some old
      else if faults.createFile then none
      else if faults.openFile || faults.writeFile then some (List.replicate new.length 0)
      else some new := by
  obtain ⟨deleteFile, createFile, openFile, writeFile⟩ := faults
  cases deleteFile <;> cases createFile <;> cases openFile <;> cases writeFile <;> rfl

/-- A complete value is left exactly by the failures a put survives. -/
theorem writeWholeFile_complete (old new : List U8) (faults : WriteFaults) :
    ((writeWholeFile (some old) new faults).1 = some old ∨ (writeWholeFile (some old) new faults).1 = some new) ↔
      (faults.deleteFile ||
        (!faults.createFile &&
          ((!faults.openFile && !faults.writeFile) || new == List.replicate new.length 0 ||
            old == List.replicate new.length 0))) = true := by
  rw [writeWholeFile_old]
  cases faults.deleteFile with
  | true => simp
  | false =>
    cases faults.createFile with
    | true => simp
    | false =>
      cases hfault : faults.openFile || faults.writeFile with
      | false =>
        rw [Bool.or_eq_false_iff] at hfault
        simp [hfault.1, hfault.2]
      | true =>
        have hnot : (!faults.openFile && !faults.writeFile) = false := by
          rw [← Bool.not_or, hfault]
          rfl
        simp only [hnot, Bool.false_eq_true, if_false, if_true, Option.some.injEq, Bool.not_false, Bool.true_and,
          Bool.false_or, Bool.or_eq_true, beq_iff_eq]
        rw [or_comm, eq_comm, @eq_comm _ (List.replicate new.length 0) old]

theorem keeps_eq_survives : keeps = survives := by
  funext fs e
  unfold keeps survives
  cases hpath : e.path with
  | none => rfl
  | some path =>
    rw [Option.bind_some]
    cases hold : fs path with
    | none => rfl
    | some old =>
      cases hnew : e.data with
      | none => rfl
      | some new =>
        dsimp only
        have hown := cbStatePut_own fs e.type e.id new e.faults hpath
        rw [hold] at hown
        have hiff := writeWholeFile_complete old new e.faults
        have hfile := writeWholeFile_old old new e.faults
        rw [← hown] at hiff hfile
        generalize cbStatePut fs e.type e.id (some new) e.faults = fs' at hiff hfile
        -- what is left is never longer than both values, so the buffer holds it
        have hread : cbStateGet fs' e.type e.id (max old.length new.length) {} = fs' path := by
          cases hleft : fs' path with
          | none => simp [cbStateGet, show statePath e.type e.id = some path from hpath, hleft]
          | some bytes =>
            refine cbStateGet_stored hpath hleft ?_
            rw [hleft] at hfile
            split at hfile
            · rw [Option.some.inj hfile]
              exact le_max_left ..
            · split at hfile
              · cases hfile
              · split at hfile
                · rw [Option.some.inj hfile, List.length_replicate]
                  exact le_max_right ..
                · rw [Option.some.inj hfile]
                  exact le_max_right ..
        rw [hread, Bool.eq_iff_iff, ← hiff, Bool.or_eq_true, beq_iff_eq, beq_iff_eq]

/-- **A put leaves the old value or the new one just when its failures are ones it
survives**, along every history of puts, from whatever is on the card. -/
theorem objects_kept_iff (fs : Storage) (es : List Put) :
    puts.meets keeps fs es = true ↔ puts.meets survives fs es = true := by rw [keeps_eq_survives]

/-- The node identity, once `CreateFile` fails. -/
theorem identity_lost :
    ¬∀ (fs : Storage) (es : List Put), puts.meets keeps fs es = true := by
  intro h
  exact absurd
    (h (Function.update (fun _ => none) (StateRoot ++ ascii "/identity.secret") (some (ascii "secret")))
      [⟨.identitySecret, 0, some (ascii "secret"), { createFile := true }⟩])
    (by decide)

/-! ### Whole histories -/

/-- The put is for another object, or of one of the values. -/
def amongst (path : Text) (values : List (List U8)) (e : Put) : Bool :=
  e.path != some path || e.data.any values.contains

theorem puts_keeps (path : Text) (values : List (List U8)) :
    puts.Keeps (fun fs e => amongst path values e && survives fs e)
      (fun fs => ∃ v ∈ values, fs path = some v) := by
  intro fs e fs' ⟨old, hmem, hold⟩ hcond hstep
  obtain rfl := Option.some.inj hstep
  rw [Bool.and_eq_true, amongst, Bool.or_eq_true, bne_iff_ne] at hcond
  obtain ⟨hdata, hsurvives⟩ := hcond
  by_cases hpath : e.path = some path
  · have hany := hdata.resolve_left fun h => h hpath
    obtain ⟨new, hnew⟩ : ∃ new, e.data = some new := by
      cases hnew : e.data with
      | none =>
        rw [hnew] at hany
        cases hany
      | some new => exact ⟨new, rfl⟩
    rw [hnew, Option.any_some] at hany
    rw [survives, hpath, Option.bind_some, hold, hnew] at hsurvives
    have hown := cbStatePut_own fs e.type e.id new e.faults hpath
    rw [hold] at hown
    rw [hnew, hown]
    rcases (writeWholeFile_complete old new e.faults).mpr hsurvives with hkept | hwritten
    · exact ⟨old, hmem, hkept⟩
    · exact ⟨new, by simpa using hany, hwritten⟩
  · rw [cbStatePut_other fs e hpath]
    exact ⟨old, hmem, hold⟩

/-- **An object is never lost to failures its puts survive**: after a history whose puts
all do, it is read as its first value or as one that was put. -/
theorem object_survives {type : StateObjectType} {id : U64} {path : Text} (hpath : statePath type id = some path)
    {first : List U8} {later : List (List U8)} (es : List Put) {fs fs' : Storage} (hfirst : fs path = some first)
    (hes : ∀ e ∈ es, amongst path (first :: later) e = true) (hm : puts.meets survives fs es = true)
    (hrun : puts.run fs es = some fs') :
    ∃ v ∈ first :: later, ∀ maxlen, v.length ≤ maxlen → cbStateGet fs' type id maxlen {} = some v := by
  obtain ⟨v, hv, hstored⟩ := (puts_keeps path (first :: later)).run es ⟨first, List.mem_cons_self, hfirst⟩
    (System.meets_and es hes hm) hrun
  exact ⟨v, hv, fun _ hmax => cbStateGet_stored hpath hstored hmax⟩

end SysZerotier.Port
