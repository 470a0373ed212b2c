import SysZerotier.Mitm.Threads

/-! What a process has done with a descriptor, read off the history.

`since` is the descriptor's life so far: the command that gave it to the process and
what the process did afterwards. The real service gives a number again only after it
has been closed, or all sockets have (`freshDescriptor`). -/
namespace SysZerotier.Mitm
open Net Port

namespace Command

/-- The command gives the process the descriptor. -/
def gives (fd : Int) : Command → Bool
  | .socket _ _ _ ret => decide (0 ≤ ret) && ret == fd
  | .otherDescriptor ret => decide (0 ≤ ret) && ret == fd
  | _ => false

/-- The command takes the descriptor from the process. -/
def closes (fd : Int) : Command → Bool
  | .close f ret => ret == 0 && f == fd
  | .shutdownAllSockets ret => ret == 0
  | _ => false

/-- `domain == 2 && type == 2 && (protocol == 0 || protocol == 17)`. -/
def udp : Command → Bool
  | .socket domain type protocol _ => domain == 2 && type == 2 && (protocol == 0 || protocol == 17)
  | _ => false

end Command

/-- The command that gave the descriptor and the ones since, newest first; `none` if
it is not open. -/
def since (pid : U64) (fd : Int) : List (U64 × Command) → Option (Command × List Command)
  | [] => none
  | (p, c) :: rest =>
    if p ≠ pid then since pid fd rest
    else if c.gives fd then some (c, [])
    else if c.closes fd then none
    else (since pid fd rest).map fun life => (life.1, c :: life.2)

namespace Threads

/-- What the command gives to its process is not open. -/
def freshDescriptor (s : Threads) : Event → Bool
  | .command pid (.socket _ _ _ ret) => ret < 0 || (since pid ret s.history).isNone
  | .command pid (.otherDescriptor ret) => ret < 0 || (since pid ret s.history).isNone
  | _ => true

end Threads

theorem since_other {p pid : U64} (h : p ≠ pid) (fd : Int) (c : Command) (rest : List (U64 × Command)) :
    since pid fd ((p, c) :: rest) = since pid fd rest := by
  rw [since, if_pos h]

/-- A command that neither gives nor closes the descriptor lengthens its life. -/
theorem since_cons {pid : U64} {fd : Int} {c : Command} (hg : c.gives fd = false) (hc : c.closes fd = false)
    (rest : List (U64 × Command)) :
    since pid fd ((pid, c) :: rest) = (since pid fd rest).map fun life => (life.1, c :: life.2) := by
  rw [since, if_neg (not_not.mpr rfl), hg, hc, if_neg Bool.false_ne_true, if_neg Bool.false_ne_true]

theorem since_gives {pid : U64} {fd : Int} {c : Command} (hg : c.gives fd = true)
    (rest : List (U64 × Command)) : since pid fd ((pid, c) :: rest) = some (c, []) := by
  rw [since, if_neg (not_not.mpr rfl), if_pos hg]

theorem gives_valid {fd : Int} {c : Command} (h : c.gives fd = true) : 0 ≤ fd := by
  cases c with
  | socket domain type protocol ret =>
    simp only [Command.gives, Bool.and_eq_true, decide_eq_true_eq, beq_iff_eq] at h
    exact h.2 ▸ h.1
  | otherDescriptor ret =>
    simp only [Command.gives, Bool.and_eq_true, decide_eq_true_eq, beq_iff_eq] at h
    exact h.2 ▸ h.1
  | _ => cases h

theorem since_valid {pid : U64} {fd : Int} {history : List (U64 × Command)} {life : Command × List Command}
    (h : since pid fd history = some life) : 0 ≤ fd := by
  induction history generalizing life with
  | nil => cases h
  | cons record rest ih =>
    obtain ⟨p, c⟩ := record
    rw [since] at h
    split_ifs at h with hp hg hc
    · exact ih h
    · exact gives_valid hg
    · obtain ⟨older, holder, -⟩ := Option.map_eq_some_iff.mp h
      exact ih holder

end SysZerotier.Mitm
