import SysZerotier.Mitm.Policy

/-! What a handler diverts, it diverts for the command it serves.

The descriptor a handler works for (`Pc.serves`) is the one the last command of the history
was issued on, by the same process, and the virtual socket it calls with (`Pc.vfd`) is the
one the table had for that descriptor at some moment since the command came
(`attended_run`). Together with the policy: for a descriptor that is not virtual no result
is ever taken from the overlay, nor anything sent there (`only_virtual_diverted`). -/
namespace SysZerotier.Mitm
open Net Port Library

/-- The descriptor a command is issued on. -/
def Command.descriptor : Command → Option Int
  | .bind fd _ _ => some fd
  | .setSockOpt fd _ _ _ _ => some fd
  | .sendTo fd _ _ => some fd
  | .connect fd _ _ => some fd
  | .getSockName fd _ _ => some fd
  | .close fd _ => some fd
  | .query fd _ => some fd
  | .socket _ _ _ _ | .otherDescriptor _ | .shutdownAllSockets _ => none

def PortCall.vfd : PortCall → Int
  | .send c => c.vfd
  | .receive vfd _ _ => vfd
  | .readable vfd => vfd

/-- The process and the descriptor that the server thread works for. -/
def Pc.serves : Pc → Option (U64 × Int)
  | .ensuring m => some (m.pid, m.fd)
  | .opening m => some (m.pid, m.fd)
  | .binding m _ => some (m.pid, m.fd)
  | .installing m _ => some (m.pid, m.fd)
  | .discarding m _ _ => some (m.pid, m.fd)
  | .calling pid fd _ => some (pid, fd)
  | .resolving pid fd _ _ _ _ => some (pid, fd)
  | .connecting pid fd _ _ => some (pid, fd)
  | .peering pid fd _ _ _ => some (pid, fd)
  | .locating pid fd => some (pid, fd)
  | .naming pid fd => some (pid, fd)
  | .idle | .releasing _ => none

theorem Pc.diverts_serves {pc : Pc} {p : U64 × Int} (h : pc.diverts = some p) : pc.serves = some p := by
  cases pc with
  | idle | ensuring | discarding | releasing | locating => cases h
  | _ => exact h

/-- The virtual socket it has for a call. -/
def Pc.vfd : Pc → Option Int
  | .discarding _ _ selected => if selected = InvalidSocket then none else some selected
  | .calling _ _ c => some c.vfd
  | .resolving _ _ vfd _ _ _ => some vfd
  | _ => none

/-! ### What the table says -/

namespace Table
variable {t : Table} {pid : U64} {fd vfd : Int}

/-- The descriptor is mirrored by `vfd`. -/
def MirroredBy (t : Table) (pid : U64) (fd vfd : Int) : Prop :=
  ∃ i, t.findLanSocketLocked pid fd = some i ∧ (t i).mirrored = true ∧ (t i).vnetFd = vfd

theorem getLanVfd_mirroredBy (h : t.getLanVfd pid fd ≠ InvalidSocket) :
    t.MirroredBy pid fd (t.getLanVfd pid fd) := by
  obtain ⟨i, hfind, hm⟩ := getLanVfd_mirrors h
  exact ⟨i, hfind, hm, by simp [getLanVfd, hfind, hm]⟩

theorem lookupSend_mirroredBy (h : (t.lookupSend pid fd).2 ≠ InvalidSocket) :
    t.MirroredBy pid fd (t.lookupSend pid fd).2 := by
  obtain ⟨i, hfind, hm⟩ := lookupSend_mirrors h
  refine ⟨i, hfind, hm, ?_⟩
  simp only [lookupSend, hfind] at h ⊢
  split
  · rfl
  · rename_i hudp
    rw [if_neg hudp] at h
    exact absurd rfl h

theorem getConnectedLanPeer_mirroredBy {ip : U32} {port : U16}
    (h : t.getConnectedLanPeer pid fd = some (vfd, ip, port)) : t.MirroredBy pid fd vfd := by
  obtain ⟨i, hfind, hm⟩ := getConnectedLanPeer_mirrors h
  refine ⟨i, hfind, hm, ?_⟩
  simp only [getConnectedLanPeer, hfind] at h
  split at h
  · cases h
  · cases h
    rfl

theorem mirrorOf_mirroredBy (h : t.mirrorOf pid fd = some vfd) (hne : vfd ≠ InvalidSocket) :
    t.MirroredBy pid fd vfd := by
  obtain ⟨i, hfind, hm⟩ := mirrorOf_mirrors h hne
  refine ⟨i, hfind, hm, ?_⟩
  simp only [mirrorOf, hfind] at h
  split at h
  · exact absurd (Option.some.inj h).symm hne
  · exact Option.some.inj h

theorem install_mirroredBy {candidate : Int} (h : (t.install pid fd candidate).2.1 ≠ InvalidSocket) :
    (t.install pid fd candidate).1.MirroredBy pid fd (t.install pid fd candidate).2.1 := by
  unfold install at h ⊢
  cases hfind : t.findLanSocketLocked pid fd with
  | none =>
    rw [hfind] at h
    exact absurd rfl h
  | some i =>
    rw [hfind] at h
    dsimp only at h ⊢
    split_ifs at h ⊢ with hu hm
    · refine ⟨i, ?_, ?_, ?_⟩
      · rw [← hfind]
        apply find_store <;> rfl
      · dsimp only
        rw [store_self]
      · dsimp only
        rw [store_self]
    · exact ⟨i, hfind, by simpa using hm, rfl⟩
    · exact absurd rfl h

end Table

namespace Threads
open Table (MirroredBy)

/-- The virtual socket in hand is the one that mirrors the descriptor served. -/
def Named (t : Table) (pc : Pc) : Prop :=
  ∀ vfd, pc.vfd = some vfd → ∃ pid fd, pc.serves = some (pid, fd) ∧ t.MirroredBy pid fd vfd

theorem payloadCall_vfd (vfd : Int) (ip : U32) (port : U16) (broadcast : Bool) (data : List U8) :
    (Shim.payloadCall vfd ip port broadcast data).vfd = vfd := by
  unfold Shim.payloadCall
  split_ifs <;> rfl

theorem Named.of {t : Table} {pc : Pc} {pid : U64} {fd vfd : Int} (hs : pc.serves = some (pid, fd))
    (hv : pc.vfd = some vfd) (h : t.MirroredBy pid fd vfd) : Named t pc := fun vfd' hv' => by
  rw [hv] at hv'
  cases hv'
  exact ⟨pid, fd, hs, h⟩

theorem Named.none {t : Table} {pc : Pc} (h : pc.vfd = none) : Named t pc := fun vfd hv => by
  rw [h] at hv
  cases hv

theorem next_serves {m : Mirroring} {selected : Int} {p : U64 × Int} (h : (m.next selected).serves = some p) :
    some (m.pid, m.fd) = some p := by
  unfold Mirroring.next at h
  split at h
  · split at h <;> cases h
    rfl
  · cases h

theorem Named.next {t : Table} {m : Mirroring} {selected : Int}
    (h : selected ≠ InvalidSocket → t.MirroredBy m.pid m.fd selected) : Named t (m.next selected) := by
  unfold Mirroring.next
  split
  · split
    · exact .none rfl
    · rename_i hne
      exact .of rfl (congrArg some (payloadCall_vfd ..)) (h hne)
  · exact .none rfl

theorem query_serves (t : Table) (pid : U64) (fd : Int) (q : Query) :
    (query t pid fd q).serves = none ∨ (query t pid fd q).serves = some (pid, fd) := by
  cases q with
  | receive max peek =>
    rw [query]
    split_ifs
    · exact .inl rfl
    · exact .inr rfl
  | readable =>
    rw [query]
    split_ifs
    · exact .inl rfl
    · exact .inr rfl
  | send data =>
    rw [query]
    split
    · exact .inr rfl
    · exact .inl rfl
  | message name data =>
    rw [query]
    split
    · split
      · exact .inr rfl
      · exact .inl rfl
    · split_ifs
      · exact .inl rfl
      · exact .inl rfl
      · exact .inr rfl
  | peerName =>
    rw [query]
    split_ifs
    · exact .inr rfl
    · exact .inl rfl

theorem query_named (t : Table) (pid : U64) (fd : Int) (q : Query) : Named t (query t pid fd q) := by
  cases q with
  | receive max peek =>
    rw [query]
    split_ifs with h
    · exact .none rfl
    · exact .of rfl rfl (Table.getLanVfd_mirroredBy h)
  | readable =>
    rw [query]
    split_ifs with h
    · exact .none rfl
    · exact .of rfl rfl (Table.getLanVfd_mirroredBy h)
  | send data =>
    rw [query]
    split
    · rename_i h
      exact .of rfl rfl (Table.getConnectedLanPeer_mirroredBy h)
    · exact .none rfl
  | message name data =>
    rw [query]
    split
    · split
      · rename_i h
        exact .of rfl rfl (Table.getConnectedLanPeer_mirroredBy h)
      · exact .none rfl
    · split_ifs with _ h
      · exact .none rfl
      · exact .none rfl
      · exact .of rfl rfl (Table.getLanVfd_mirroredBy h)
  | peerName =>
    rw [query]
    split_ifs <;> exact .none rfl

/-- The handler of a command works for the descriptor the command is issued on. -/
theorem command_serves (t : Table) {pid : U64} (c : Command) {p : U64 × Int}
    (h : (command t pid c).2.serves = some p) : p.1 = pid ∧ c.descriptor = some p.2 := by
  have hserves : ∀ {fd : Int} {pc : Pc}, c.descriptor = some fd → pc.serves = none ∨ pc.serves = some (pid, fd) →
      pc.serves = some p → p.1 = pid ∧ c.descriptor = some p.2 := by
    intro fd pc hfd hpc hp
    rcases hpc with hnone | hsome
    · rw [hnone] at hp
      cases hp
    · rw [hsome] at hp
      cases hp
      exact ⟨rfl, hfd⟩
  cases c with
  | socket | otherDescriptor => cases h
  | bind fd addr ret =>
    refine hserves rfl ?_ h
    rw [command]
    dsimp only
    split_ifs
    · exact .inr rfl
    · exact .inl rfl
    · exact .inl rfl
  | setSockOpt fd level optname v ret =>
    refine hserves rfl ?_ h
    rw [command]
    dsimp only
    split_ifs
    · exact .inr rfl
    · exact .inl rfl
    · exact .inl rfl
  | sendTo fd buf addr =>
    refine hserves rfl ?_ h
    rw [command]
    split_ifs
    · exact .inl rfl
    · exact .inr rfl
    · exact .inl rfl
    · exact .inr rfl
  | connect fd addr ret =>
    refine hserves rfl ?_ h
    rw [command]
    split_ifs
    · exact .inr rfl
    · exact .inr rfl
    · exact .inl rfl
    · exact .inl rfl
  | getSockName fd name ret =>
    refine hserves rfl ?_ h
    rw [command]
    split_ifs
    · exact .inr rfl
    · exact .inl rfl
    · exact .inr rfl
    · exact .inl rfl
    · exact .inl rfl
  | close fd ret =>
    rw [command] at h
    split at h <;> cases h
  | shutdownAllSockets ret =>
    rw [command] at h
    split at h <;> cases h
  | query fd q => exact hserves rfl (query_serves t pid fd q) h

theorem command_named (t : Table) (pid : U64) (c : Command) : Named (command t pid c).1 (command t pid c).2 := by
  cases c with
  | socket | otherDescriptor => exact .none rfl
  | bind fd addr ret =>
    rw [command]
    dsimp only
    split_ifs <;> exact .none rfl
  | setSockOpt fd level optname v ret =>
    rw [command]
    dsimp only
    split_ifs <;> exact .none rfl
  | sendTo fd buf addr =>
    rw [command]
    split_ifs with hlen hfirst hnone
    · exact .none rfl
    · exact .none rfl
    · exact .none rfl
    · exact .of rfl (congrArg some (payloadCall_vfd ..)) (Table.lookupSend_mirroredBy hnone)
  | connect fd addr ret =>
    rw [command]
    split_ifs <;> exact .none rfl
  | getSockName fd name ret =>
    rw [command]
    split_ifs <;> exact .none rfl
  | close fd ret =>
    rw [command]
    split <;> exact .none rfl
  | shutdownAllSockets ret =>
    rw [command]
    split <;> exact .none rfl
  | query fd q => exact query_named t pid fd q

/-- The server thread goes on for the same descriptor. -/
theorem serve_serves {s s' : Threads} (h : s.serve = some s') {p : U64 × Int} (hp : s'.server.serves = some p) :
    s.server.serves = some p := by
  unfold serve at h
  split at h
  case h_1 => cases h
  case h_2 m hpc =>
    rw [hpc]
    split at h
    · cases h
      exact next_serves hp
    · split at h <;> cases h
      · exact next_serves hp
      · exact hp
  case h_3 m hpc =>
    rw [hpc]
    cases h
    dsimp only at hp
    split at hp
    · exact next_serves hp
    · exact hp
  case h_4 m candidate hpc =>
    rw [hpc]
    cases h
    dsimp only at hp
    split at hp <;> exact hp
  case h_5 m candidate hpc =>
    rw [hpc]
    cases h
    dsimp only at hp
    split at hp
    · exact next_serves hp
    · exact hp
  case h_6 m candidate selected hpc =>
    rw [hpc]
    cases h
    exact next_serves hp
  case h_10 pid fd vfd ip port data hpc =>
    rw [hpc]
    split at h <;> cases h
    · exact hp
    · cases hp
  case h_11 pid fd addr ret hpc =>
    rw [hpc]
    split at h <;> cases h
    · exact hp
    · cases hp
  case h_12 pid fd peer addr ret hpc =>
    split at h
    · split at h <;> cases h <;> cases hp
    · cases h
      cases hp
  case h_13 pid fd hpc =>
    rw [hpc]
    cases h
    dsimp only at hp
    split at hp
    · cases hp
    · exact hp
  all_goals
    cases h
    cases hp

/-- The virtual socket in hand is the one the table has then, or the one it had before. -/
theorem serve_named {s s' : Threads} (h : s.serve = some s') :
    Named s.table s'.server ∨ Named s'.table s'.server ∨ ∀ t, Named t s.server → Named t s'.server := by
  have hunselected : ∀ {t : Table} {m : Mirroring}, Named t (m.next InvalidSocket) :=
    .next fun hne => absurd rfl hne
  unfold serve at h
  split at h
  case h_1 => cases h
  case h_2 m hpc =>
    split at h
    · cases h
      exact .inl hunselected
    · split at h
      · rename_i vfd hmirror
        cases h
        exact .inl (.next (Table.mirrorOf_mirroredBy hmirror))
      · cases h
        exact .inl (.none rfl)
  case h_3 m hpc =>
    cases h
    left
    dsimp only
    split
    · exact hunselected
    · exact .none rfl
  case h_4 m candidate hpc =>
    cases h
    left
    dsimp only
    split
    · exact .none rfl
    · exact .none rfl
  case h_5 m candidate hpc =>
    cases h
    right
    left
    dsimp only
    split
    · exact .next Table.install_mirroredBy
    · intro vfd hv
      obtain ⟨hne, hv⟩ := Option.ite_none_left_eq_some.mp hv
      cases hv
      exact ⟨m.pid, m.fd, rfl, Table.install_mirroredBy hne⟩
  case h_6 m candidate selected hpc =>
    cases h
    right
    right
    intro t hn
    rw [hpc] at hn
    refine .next fun hne => ?_
    obtain ⟨pid, fd, hserves, hby⟩ := hn selected (if_neg hne)
    cases hserves
    exact hby
  case h_10 pid fd vfd ip port data hpc =>
    right
    right
    intro t hn
    rw [hpc] at hn
    split at h <;> cases h
    · obtain ⟨_, _, hserves, hby⟩ := hn vfd rfl
      cases hserves
      refine .of rfl (congrArg some ?_) hby
      split <;> rfl
    · exact .none rfl
  case h_11 pid fd addr ret hpc =>
    split at h <;> cases h <;> exact .inl (.none rfl)
  case h_12 pid fd peer addr ret hpc =>
    split at h
    · split at h <;> cases h <;> exact .inl (.none rfl)
    · cases h
      exact .inl (.none rfl)
  case h_13 pid fd hpc =>
    cases h
    left
    dsimp only
    split <;> exact .none rfl
  all_goals
    cases h
    exact .inl (.none rfl)

/-! ### Runs -/

/-- What the server thread does, it does for the last command, and with a virtual socket
that the table had for it since. -/
structure Attended (es : List Event) (s : Threads) : Prop where
  command : ∀ pid fd, s.server.serves = some (pid, fd) →
    ∃ c rest, s.history = (pid, c) :: rest ∧ c.descriptor = some fd
  named : ∃ es₁ es₂ u, es = es₁ ++ es₂ ∧ serving.run started es₁ = some u ∧ u.history = s.history ∧
    Named u.table s.server

/-- The node thread neither serves nor is a client. -/
theorem Attended.kept {es : List Event} {e : Event} {s t : Threads} (h : Attended es s) (hserver : t.server = s.server)
    (hhistory : t.history = s.history) : Attended (es ++ [e]) t := by
  obtain ⟨es₁, es₂, u, heq, hrun, hu, hn⟩ := h.named
  refine ⟨fun pid fd hs => ?_, es₁, es₂ ++ [e], u, by rw [heq, List.append_assoc], hrun, hu.trans hhistory.symm, ?_⟩
  · rw [hserver] at hs
    rw [hhistory]
    exact h.command pid fd hs
  · rw [hserver]
    exact hn

theorem Attended.serve {es : List Event} {s t : Threads} (h : Attended es s)
    (hrun : serving.run started es = some s) (hstep : s.serve = some t) : Attended (es ++ [.serve]) t := by
  have hhistory : t.history = s.history := (serve_table hstep).1
  have hrun' : serving.run started (es ++ [.serve]) = some t := System.run_snoc hrun hstep
  refine ⟨fun pid fd hs => hhistory ▸ h.command pid fd (serve_serves hstep hs), ?_⟩
  rcases serve_named hstep with hn | hn | hn
  · exact ⟨es, [.serve], s, rfl, hrun, hhistory.symm, hn⟩
  · exact ⟨es ++ [.serve], [], t, (List.append_nil _).symm, hrun', rfl, hn⟩
  · obtain ⟨es₁, es₂, u, heq, hu, huh, hnamed⟩ := h.named
    exact ⟨es₁, es₂ ++ [.serve], u, by rw [heq, List.append_assoc], hu, huh.trans hhistory.symm, hn _ hnamed⟩

theorem attended_run (es : List Event) {s : Threads} (hrun : serving.run started es = some s) : Attended es s := by
  refine System.run_induction (P := Attended) ?_ ?_ es hrun
  · exact ⟨fun _ _ hs => absurd hs nofun, [], [], started, rfl, rfl, rfl, .none rfl⟩
  · intro es e s t hrun ih hstep
    cases e with
    | command pid c =>
      have hrun' := System.run_snoc hrun hstep
      replace hstep : s.step (.command pid c) = some t := hstep
      rw [step] at hstep
      split at hstep <;> cases hstep
      refine ⟨fun p fd hs => ?_, _, [], _, (List.append_nil _).symm, hrun', rfl, command_named s.table pid c⟩
      obtain ⟨rfl, hfd⟩ := command_serves s.table c hs
      exact ⟨c, s.history, rfl, hfd⟩
    | serve => exact ih.serve hrun hstep
    | reap pid =>
      replace hstep : s.step (.reap pid) = some t := hstep
      rw [step] at hstep
      split at hstep <;> cases hstep
      exact ih.kept rfl rfl
    | reapNext =>
      replace hstep : s.step .reapNext = some t := hstep
      rw [step] at hstep
      split at hstep <;> cases hstep
      exact ih.kept rfl rfl
    | networkConfig op conf =>
      replace hstep : s.step (.networkConfig op conf) = some t := hstep
      rw [step] at hstep
      split at hstep <;> cases hstep
      exact ih.kept rfl rfl
    | virtualFrame srcMac dstMac etherType payload =>
      replace hstep : s.step (.virtualFrame srcMac dstMac etherType payload) = some t := hstep
      rw [step] at hstep
      split at hstep <;> cases hstep
      exact ih.kept rfl rfl
    | probe dstIp =>
      replace hstep : s.step (.probe dstIp) = some t := hstep
      rw [step] at hstep
      split at hstep <;> cases hstep
      exact ih.kept rfl rfl

/-- **Only virtual descriptors are mirrored and diverted**, if the real service gives no
descriptor that is open. What the server thread diverts, it diverts for the descriptor of
the last command, which is virtual, with a virtual socket by which the table has mirrored
that descriptor since the command came; and where it diverts nothing, it does no more to
the interface than close sockets. -/
theorem only_virtual_diverted {es : List Event} {s : Threads} (h : serving.run started es = some s)
    (hm : serving.meets freshDescriptor started es = true) :
    (∀ i, (s.table i).mirrored = true → Virtual s.history (s.table i).pid (s.table i).bsdFd) ∧
      (∀ pid fd, s.server.diverts = some (pid, fd) →
        Virtual s.history pid fd ∧
          (∃ c rest, s.history = (pid, c) :: rest ∧ c.descriptor = some fd) ∧
          ∀ vfd, s.server.vfd = some vfd → ∃ es₁ es₂ u, es = es₁ ++ es₂ ∧ serving.run started es₁ = some u ∧
            u.history = s.history ∧ u.table.MirroredBy pid fd vfd) ∧
      ∀ s', s.serve = some s' → s.server.diverts = none →
        s'.vnet = s.vnet ∨ ∃ vfd ∈ s.server.held, s'.vnet = closeLanSocket s.vnet vfd := by
  obtain ⟨hi, ht, hs⟩ := keeps_compliant.run es .started hm h
  obtain ⟨hcommand, es₁, es₂, u, heq, hu, hhistory, hnamed⟩ := attended_run es h
  refine ⟨fun i hmirrored => ?_, fun pid fd hd => ⟨hs.diverts pid fd hd, ?_, fun vfd hv => ?_⟩,
    fun s' => serve_undiverted⟩
  · obtain ⟨hlt, hp, -⟩ := hi.tidy.slot (if_pos hmirrored)
    exact (ht.entry i hlt hp).virtual hmirrored
  · exact hcommand pid fd (Pc.diverts_serves hd)
  · obtain ⟨pid', fd', hserves, hby⟩ := hnamed vfd hv
    rw [Pc.diverts_serves hd] at hserves
    cases hserves
    exact ⟨es₁, es₂, u, heq, hu, hhistory, hby⟩

theorem only_virtual_diverted_lan :
    ∃ s : Threads, serving.run started (.networkConfig .up lanConfig :: opensLan 7 3 30000) = some s ∧
      (s.table 0).mirrored = true ∧ Virtual s.history (s.table 0).pid (s.table 0).bsdFd := by
  obtain ⟨s, hs, hp⟩ := (Option.any_eq_true (fun s : Threads => (s.table 0).mirrored)
    (serving.run started (.networkConfig .up lanConfig :: opensLan 7 3 30000))).mp (by decide +kernel)
  exact ⟨s, hs, hp, (only_virtual_diverted hs (by decide +kernel)).1 0 hp⟩

end Threads

end SysZerotier.Mitm
