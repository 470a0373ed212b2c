import SysZerotier.Config.Selection
import SysZerotier.Library.Runs

/-! Waiting for a network to be configured, and the template that is written meanwhile
(`WaitForConfiguredNetworkId` in `source/zt_port.cpp`).

Files are read and written whole, and any call into the filesystem may fail. A
`config.ini` that exists outlasts exactly the passes of the loop that can read it when
they come to look for it, do not come to it, or cannot delete it
(`config_spared_iff`). -/
namespace SysZerotier.Config
open Net Library

/-! ### Whole files -/

/-- A file's bytes, if there is one. -/
abbrev File := Option (List U8)

/-- The calls of `ReadWholeFile` that fail. -/
structure ReadFaults where
  openFile : Bool := false
  getFileSize : Bool := false
  readFile : Bool := false
  deriving DecidableEq

/-- The calls of `WriteWholeFile` that fail. -/
structure WriteFaults where
  deleteFile : Bool := false
  createFile : Bool := false
  openFile : Bool := false
  writeFile : Bool := false
  deriving DecidableEq

def readWholeFile (file : File) (bufLen : Nat) (faults : ReadFaults) : Option Text :=
  match file with
  | none => none
  | some bytes =>
    if faults.openFile then none
    else if faults.getFileSize then none
    else if bufLen ≤ bytes.length then none
    else if faults.readFile then none
    else some bytes

/-- A failing call has no effect, and a file that exists is not created; one that is has
only zeros. -/
def writeWholeFile (file : File) (text : Text) (faults : WriteFaults) : File × Bool :=
  let file := if faults.deleteFile then file else none
  if faults.createFile || file.isSome then (file, false)
  else
    let file : File := some (List.replicate text.length 0)
    if faults.openFile then (file, false) else if faults.writeFile then (file, false) else (some text, true)

/-- What can be read at all: a file that is smaller than the buffer, when no call fails. -/
theorem readWholeFile_isSome (file : File) (bufLen : Nat) (faults : ReadFaults) :
    (readWholeFile file bufLen faults).isSome =
      (file.any (fun bytes => decide (bytes.length < bufLen)) && decide (faults = {})) := by
  obtain ⟨openFile, getFileSize, readFile⟩ := faults
  cases file with
  | none => rfl
  | some bytes =>
    unfold readWholeFile
    by_cases hlen : bufLen ≤ bytes.length <;> cases openFile <;> cases getFileSize <;> cases readFile <;>
      simp [hlen]
    omega

/-! ### The loop -/

structure Waiting where
  config : File
  savedNetworks : File
  wroteTemplate : Bool
  warnedCommented : Bool
  returned : Option U64

namespace Waiting

/-- A pass of the loop, with the faults of its reads and of its write; or someone else
rewrites the files. -/
inductive Event where
  | pass (config saved again : ReadFaults) (write : WriteFaults)
  | rewrite (config savedNetworks : File)

/-- What `ResolveConfiguredNetworkId` finds in a pass. -/
def resolve (s : Waiting) (config saved : ReadFaults) : Option U64 :=
  resolveConfiguredNetworkId (readWholeFile s.config ConfigFileCapacity config)
    (readWholeFile s.savedNetworks ConfigFileCapacity saved)

variable (configTemplate : Text)

def step (s : Waiting) : Event → Option Waiting
  | .pass config saved again write =>
    if s.returned.isSome then none
    else
      match s.resolve config saved with
      | some nwid => some { s with returned := some nwid }
      | none =>
        match readWholeFile s.config ConfigFileCapacity again with
        | some text =>
          some { s with warnedCommented := s.warnedCommented || (parseNwid text true).isSome }
        | none =>
          if !s.wroteTemplate then
            some { s with config := (writeWholeFile s.config configTemplate write).1, wroteTemplate := true }
          else some s
  | .rewrite config savedNetworks => some { s with config := config, savedNetworks := savedNetworks }

def waiting : System Waiting Event := ⟨step configTemplate⟩

/-- The pass writes the template. -/
def writesTemplate (s : Waiting) : Event → Bool
  | .pass config saved again _ =>
    s.returned.isNone && (s.resolve config saved).isNone &&
      (readWholeFile s.config ConfigFileCapacity again).isNone && !s.wroteTemplate
  | .rewrite _ _ => false

/-- The pass deletes the file that is there. -/
def deletes (s : Waiting) : Event → Bool
  | .pass config saved again write =>
    s.config.isSome && s.writesTemplate (.pass config saved again write) && !write.deleteFile
  | .rewrite _ _ => false

/-- A file is not deleted, and stays as it is. -/
def keeps (s : Waiting) (e : Event) : Bool :=
  !s.deletes e &&
    match e with
    | .pass _ _ _ _ => (s.step configTemplate e).all fun t => s.config.isNone || t.config == s.config
    | .rewrite _ _ => true

/-- The writing of the template is tried only where there is no file, and a file stays as it
is. -/
def spares (s : Waiting) (e : Event) : Bool :=
  (!s.writesTemplate e || s.config.isNone) &&
    match e with
    | .pass _ _ _ _ => (s.step configTemplate e).all fun t => s.config.isNone || t.config == s.config
    | .rewrite _ _ => true

/-- There is no file, or it can be read again, or it is not looked for: a network is resolved
before, or the template was written earlier. -/
def readable (s : Waiting) : Event → Bool
  | .pass config saved again _ =>
    s.config.all (fun bytes => decide (bytes.length < ConfigFileCapacity) && decide (again = {})) ||
      (s.resolve config saved).isSome || s.wroteTemplate || s.returned.isSome
  | .rewrite _ _ => true

/-- It is `readable`, or cannot be deleted. -/
def lasting (s : Waiting) : Event → Bool
  | .pass config saved again write => s.readable (.pass config saved again write) || write.deleteFile
  | .rewrite _ _ => true

/-- A file that cannot be deleted is not written either. -/
theorem writeWholeFile_busy (bytes : List U8) (text : Text) {faults : WriteFaults}
    (h : faults.deleteFile = true) : writeWholeFile (some bytes) text faults = (some bytes, false) := by
  unfold writeWholeFile
  dsimp only
  rw [h, if_pos rfl, Option.isSome_some, Bool.or_true, if_pos rfl]

/-- A pass that does not write the template leaves the file alone. -/
theorem step_config {s t : Waiting} {config saved again : ReadFaults} {write : WriteFaults}
    (hw : s.writesTemplate (.pass config saved again write) = false)
    (ht : s.step configTemplate (.pass config saved again write) = some t) : t.config = s.config := by
  rw [step] at ht
  split at ht
  · cases ht
  · rename_i hreturned
    cases hresolve : s.resolve config saved with
    | some nwid =>
      rw [hresolve] at ht
      cases ht
      rfl
    | none =>
      rw [hresolve] at ht
      cases hread : readWholeFile s.config ConfigFileCapacity again with
      | some text =>
        rw [hread] at ht
        cases ht
        rfl
      | none =>
        rw [hread] at ht
        dsimp only at ht
        split at ht
        · rename_i hnew
          rw [writesTemplate, hresolve, hread, hnew, Option.not_isSome_iff_eq_none.mp hreturned] at hw
          cases hw
        · cases ht
          rfl

theorem writesTemplate_eq (s : Waiting) (config saved again : ReadFaults) (write : WriteFaults) {bytes : List U8}
    (hconfig : s.config = some bytes) :
    s.writesTemplate (.pass config saved again write) = !s.readable (.pass config saved again write) := by
  have hread : (readWholeFile s.config ConfigFileCapacity again).isNone =
      !(decide (bytes.length < ConfigFileCapacity) && decide (again = {})) := by
    rw [← Option.not_isSome, readWholeFile_isSome, hconfig, Option.any_some]
  rw [writesTemplate, readable, hread, hconfig, Option.all_some]
  cases s.returned <;> cases s.resolve config saved <;> cases s.wroteTemplate <;> simp

theorem spares_eq_readable (s : Waiting) (e : Event) : s.spares configTemplate e = s.readable e := by
  cases e with
  | rewrite config savedNetworks => rfl
  | pass config saved again write =>
    unfold spares
    dsimp only
    cases hconfig : s.config with
    | none =>
      rw [readable, hconfig, Option.isNone_none, Bool.or_true, Bool.true_and]
      exact (Option.all_eq_true ..).mpr fun t _ => rfl
    | some bytes =>
      have hwrites := writesTemplate_eq s config saved again write hconfig
      rw [← hconfig, hwrites]
      cases hreadable : s.readable (.pass config saved again write) with
      | false => rw [hconfig]; rfl
      | true =>
        rw [hreadable] at hwrites
        refine (Option.all_eq_true ..).mpr fun t ht => ?_
        rw [step_config configTemplate hwrites ht, beq_self_eq_true, Bool.or_true]

/-- A file that is not deleted is what it was. -/
theorem step_busy {s t : Waiting} {config saved again : ReadFaults} {write : WriteFaults} {bytes : List U8}
    (hconfig : s.config = some bytes) (hbusy : write.deleteFile = true)
    (ht : s.step configTemplate (.pass config saved again write) = some t) : t.config = s.config := by
  cases hw : s.writesTemplate (.pass config saved again write) with
  | false => exact step_config configTemplate hw ht
  | true =>
    rw [writesTemplate] at hw
    simp only [Bool.and_eq_true, Option.isNone_iff_eq_none] at hw
    obtain ⟨⟨⟨hreturned, hresolve⟩, hread⟩, hnew⟩ := hw
    rw [step, hreturned, hresolve, hread, hnew, hconfig, writeWholeFile_busy bytes _ hbusy] at ht
    cases ht
    exact hconfig.symm

theorem keeps_eq_lasting (s : Waiting) (e : Event) : s.keeps configTemplate e = s.lasting e := by
  cases e with
  | rewrite config savedNetworks => rfl
  | pass config saved again write =>
    unfold keeps
    dsimp only
    cases hconfig : s.config with
    | none =>
      rw [lasting, deletes, readable, hconfig, Option.isSome_none, Bool.false_and, Bool.false_and, Bool.not_false,
        Bool.true_and]
      exact (Option.all_eq_true ..).mpr fun t _ => rfl
    | some bytes =>
      have hwrites := writesTemplate_eq s config saved again write hconfig
      rw [lasting, deletes, hwrites, hconfig, Option.isSome_some, Bool.true_and, ← hconfig]
      cases hreadable : s.readable (.pass config saved again write) with
      | true =>
        rw [hreadable] at hwrites
        refine (Option.all_eq_true ..).mpr fun t ht => ?_
        rw [step_config configTemplate hwrites ht, beq_self_eq_true, Bool.or_true]
      | false =>
        cases hbusy : write.deleteFile with
        | false => rfl
        | true =>
          refine (Option.all_eq_true ..).mpr fun t ht => ?_
          rw [step_busy configTemplate hconfig hbusy ht, beq_self_eq_true, Bool.or_true]

/-- **From whatever state and with whatever faults, the loop keeps an existing `config.ini`
exactly when it is lasting, and tries to write the template only where there is none exactly
when it is readable.** -/
theorem config_spared_iff (s : Waiting) (es : List Event) :
    ((waiting configTemplate).meets (keeps configTemplate) s es = true ↔
      (waiting configTemplate).meets lasting s es = true) ∧
    ((waiting configTemplate).meets (spares configTemplate) s es = true ↔
      (waiting configTemplate).meets readable s es = true) := by
  rw [show keeps configTemplate = lasting from funext₂ (keeps_eq_lasting configTemplate),
    show spares configTemplate = readable from funext₂ (spares_eq_readable configTemplate)]
  exact ⟨Iff.rfl, Iff.rfl⟩

/-- The card is busy while the file is looked for, and it is replaced. -/
theorem busy_config_replaced :
    ¬∀ (configTemplate : Text) (s : Waiting) (es : List Event), s.config.isSome = true →
      (waiting configTemplate).meets (keeps configTemplate) s es = true := by
  intro h
  exact absurd
    (h (ascii "nwid =") ⟨some (ascii "nwid = 8056c2e21c000001"), none, false, false, none⟩
      [.pass { openFile := true } {} { openFile := true } {}] (by decide))
    (by decide)

end Waiting

end SysZerotier.Config
