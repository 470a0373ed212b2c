import SysZerotier.Mitm.Readiness

/-! The shim as a relay.

On descriptors without a shadow every command goes to the real service with the
client's arguments, and the client receives the answer as it came (`relay_faithful_iff`).
There are two exceptions. `Sysctl` answers zeros whatever the service said. `Poll` goes
over as many entries as the output buffer has room for: what it reads behind a shorter
input may name a mirrored descriptor, and change the timeout or the answer; and what a
short answer leaves of the output buffer is the input, copied there before. `Keeps` says
when neither shows. -/
namespace SysZerotier.Mitm
open Net Port

/-- The descriptors a request is issued on, or watches. -/
def Request.descriptors : Request → List Int
  | .select nfds _ rd wr ex _ _ _ =>
    ((List.range nfds.toNat).filter fun fd => fdIsSet fd rd || fdIsSet fd wr || fdIsSet fd ex).map Int.ofNat
  | .poll nfds _ inFds _ => (List.range (min nfds.toNat (inFds.length / 8))).map fun i => (pollFd inFds i).fd
  | .recv fd _ _ | .recvFrom fd _ _ _ | .send fd _ _ | .sendTo fd _ _ _ | .accept fd _ | .bind fd _
  | .connect fd _ | .getPeerName fd _ | .getSockName fd _ | .getSockOpt fd _ _ _ | .listen fd _
  | .ioctl fd _ _ _ _ _ _ | .fcntl fd _ _ | .setSockOpt fd _ _ _ | .shutdown fd _ | .write fd _
  | .read fd _ | .close fd | .duplicateSocket fd _ | .recvMMsg fd _ _ _ _ | .sendMMsg fd _ _ _ => [fd]
  | _ => []

/-- None of them has a mirrored shadow. -/
def Table.Unshadowed (t : Table) (pid : U64) (r : Request) : Prop :=
  ∀ fd ∈ r.descriptors, ¬t.Mirrors pid fd

instance (t : Table) (pid : U64) (r : Request) : Decidable (t.Unshadowed pid r) :=
  inferInstanceAs (Decidable (∀ fd ∈ r.descriptors, ¬t.Mirrors pid fd))

/-- What a client has from an answer that the real service gives it: of `Poll` the whole
output buffer, of any other command what was written. -/
def Request.received (mem : Memory) : Request → Answer → Answer
  | .poll _ _ _ outFds, a => { a with outs := (overwrite (a.outs.headD []) mem.held).bytes outFds :: a.outs.tail }
  | _, a => a

namespace Shim

/-! ### Entries behind the input -/

section Strays
variable (s : Shim) (mem : Memory) (pid : U64) (nfds : Int) (inFds : List U8) (outFds : Nat)

/-- The entries `Poll` goes over that the client's input does not have. -/
def strays : List Nat :=
  (List.range (min nfds.toNat (outFds / 8))).filter fun i => decide (inFds.length < 8 * i + 8)

/-- One of them asks for a mirrored descriptor. -/
def strayWatched : Bool :=
  (strays nfds inFds outFds).any fun i => (pollAt (overwrite inFds mem.behind) i).pollsIn &&
    s.table.getLanVfd pid (pollAt (overwrite inFds mem.behind) i).fd != InvalidSocket

/-- One of them asks for a descriptor whose shadow has a datagram. -/
def strayReady : Bool :=
  (strays nfds inFds outFds).any fun i => (pollAt (overwrite inFds mem.behind) i).pollsIn &&
    s.lanSocketReadable pid (pollAt (overwrite inFds mem.behind) i).fd

/-- The merge loop marks this entry of the output buffer. -/
def marks (p : PollFd) : Bool := p.pollsIn && s.lanSocketReadable pid p.fd

/-- The answer reaches the client as the real service gave it: nothing is merged into it
that it did not have, and the buffer is otherwise as without the shim. -/
structure AnswerKept (a : Answer) : Prop where
  quiet : strayWatched s mem pid nfds inFds outFds = true → 0 ≤ a.ret → a.err = 0 ∧
    ∀ i < min nfds.toNat (outFds / 8),
      s.marks pid (pollAt (overwrite (a.outs.headD []) (mem.copied inFds outFds)) i) = true →
        (pollAt (overwrite (a.outs.headD []) (mem.copied inFds outFds)) i).revents ≠ 0
  bytes : ∀ j < outFds, overwrite (a.outs.headD []) mem.held j =
    if (0 ≤ a.ret ∧ strayWatched s mem pid nfds inFds outFds = true) ∧ j % 8 = 6 ∧
      j / 8 < min nfds.toNat (outFds / 8) ∧
      s.marks pid (pollAt (overwrite (a.outs.headD []) (mem.copied inFds outFds)) (j / 8)) = true
    then overwrite (a.outs.headD []) (mem.copied inFds outFds) j ||| 1
    else overwrite (a.outs.headD []) (mem.copied inFds outFds) j

/-- `Poll` is a relay: what it reads behind the input leaves the timeout as it is, and the
answer. -/
structure PollKept (real : Request → Except U32 Answer) (timeout : Int) : Prop where
  bounded : strayWatched s mem pid nfds inFds outFds = true → 0 ≤ timeout ∧ timeout ≤ 10
  instant : strayReady s mem pid nfds inFds outFds = true → timeout = 0
  answer : ∀ a, real (.poll nfds timeout inFds outFds) = .ok a → AnswerKept s mem pid nfds inFds outFds a

end Strays

/-- The answer tells nothing that `Sysctl` drops, and nothing shows of what `Poll` reads
and writes besides. -/
def Keeps (real : Request → Except U32 Answer) (s : Shim) (mem : Memory) (pid : U64) : Request → Prop
  | .sysctl name oldp newp =>
    ∀ a, real (.sysctl name oldp newp) = .ok a → a.ret = 0 ∧ a.err = 0 ∧ a.len = 0
  | .poll nfds timeout inFds outFds => PollKept s mem pid nfds inFds outFds real timeout
  | _ => True

section Relay
variable (real : Request → Except U32 Answer) (mem : Memory)

/-- The real service received the client's request and the client its answer. -/
structure Transparent (e : Execution) (r : Request) : Prop where
  forwarded : e.forwarded = some r
  reply : e.reply = (real r).map (r.received mem)
  handed : e.handed = []
  frames : e.frames = []

theorem relayThen_transparent (s : Shim) {r : Request} {f : Answer → Shim × Answer}
    (h : ∀ a, real r = .ok a → (f a).2 = r.received mem a) : Transparent real mem (relayThen real s r f) r := by
  unfold relayThen
  split
  · rename_i rc heq
    refine ⟨rfl, ?_, rfl, rfl⟩
    rw [heq]
    rfl
  · rename_i a heq
    refine ⟨rfl, ?_, rfl, rfl⟩
    rw [heq]
    exact congrArg _ (h a heq)

/-- Of most commands a client has what was answered. -/
theorem map_received {r : Request} (h : ∀ a, r.received mem a = a) : (real r).map (r.received mem) = real r := by
  cases real r with
  | error rc => rfl
  | ok a => exact congrArg _ (h a)

theorem relay_transparent (s : Shim) {r : Request} (h : ∀ a, r.received mem a = a) :
    Transparent real mem (relay real s r) r := ⟨rfl, (map_received real mem h).symm, rfl, rfl⟩

theorem request_received (c : BsdCall) (a : Answer) : c.request.received mem a = a := by
  cases c <;> rfl

theorem forward_transparent (bsd : BsdCall → Option BsdResult) (s : Shim) (c : BsdCall) :
    Transparent real mem (ofReply real (forward bsd s c)) c.request :=
  ⟨rfl, (map_received real mem (request_received mem c)).symm, rfl, rfl⟩

/-- A forwarded command that changes no more than the shim. -/
theorem ofReply_transparent {reply : Reply} {c : BsdCall} (hf : reply.forwarded = some c)
    (hh : reply.handed = []) (hr : reply.frames = []) :
    Transparent real mem (ofReply real reply) c.request := by
  refine ⟨?_, ?_, hh, hr⟩
  · show reply.forwarded.map BsdCall.request = _
    rw [hf]
    rfl
  · rw [map_received real mem (request_received mem c)]
    unfold ofReply
    dsimp only
    rw [hf]

variable {s : Shim} {pid : U64} {fd : Int}

theorem getLanVfd_unshadowed (h : ¬s.table.Mirrors pid fd) : s.table.getLanVfd pid fd = InvalidSocket :=
  by_contra fun hne => h (Table.getLanVfd_mirrors hne)

theorem getConnectedLanPeer_unshadowed (h : ¬s.table.Mirrors pid fd) :
    s.table.getConnectedLanPeer pid fd = none := by
  cases hp : s.table.getConnectedLanPeer pid fd with
  | none => rfl
  | some peer => exact absurd (Table.getConnectedLanPeer_mirrors hp) h

theorem lanSocketReadable_unshadowed (h : ¬s.table.Mirrors pid fd) : s.lanSocketReadable pid fd = false := by
  unfold lanSocketReadable
  rw [getLanVfd_unshadowed h]
  rfl

/-- Nothing is received through a shadow that is not there, and no error is suppressed. -/
theorem receiveOr_transparent (h : ¬s.table.Mirrors pid fd) (max : Nat) (peek : Bool) {r : Request}
    (hr : ∀ a, r.received mem a = a) (answer : Datagram → Answer) (suppressed : Answer → Answer) :
    Transparent real mem (receiveOr real s pid fd max peek r answer suppressed) r := by
  have hnone : s.receiveLanDatagram pid fd max peek = (s, none) := by
    unfold receiveLanDatagram
    cases s.port with
    | none => rfl
    | some v =>
      dsimp only
      rw [if_pos (getLanVfd_unshadowed h)]
  unfold receiveOr
  dsimp only
  rw [hnone]
  dsimp only
  refine relayThen_transparent real mem s fun a _ => ?_
  unfold suppresses
  rw [getLanVfd_unshadowed h, hr]
  simp

/-- `EnsureLanMirror` returns a virtual socket only for a descriptor that it leaves mirrored. -/
theorem ensureLanMirror_mirrors (s : Shim) (pid : U64) (fd : Int) (port : U16)
    (h : (s.ensureLanMirror pid fd port).2 ≠ InvalidSocket) :
    (s.ensureLanMirror pid fd port).1.table.Mirrors pid fd := by
  unfold ensureLanMirror at h ⊢
  cases hport : s.port with
  | none =>
    rw [hport] at h
    exact absurd rfl h
  | some v =>
    rw [hport] at h
    dsimp only at h ⊢
    split at h
    · exact absurd rfl h
    · rename_i hp
      rw [if_neg hp]
      cases hmirror : s.table.mirrorOf pid fd with
      | some vfd =>
        rw [hmirror] at h
        exact Table.mirrorOf_mirrors hmirror h
      | none =>
        rw [hmirror] at h
        dsimp only at h ⊢
        split at h
        · exact absurd rfl h
        · rename_i hopened
          rw [if_neg hopened]
          split at h
          · exact absurd rfl h
          · rename_i hbound
            rw [if_neg hbound]
            exact Table.install_mirrors h

/-! ### The commands that look at the table -/

theorem socket_transparent (s : Shim) (pid : U64) (domain type protocol : Int) :
    Transparent real mem (ofReply real (s.socket (bsdOf real) pid domain type protocol))
      (.socket domain type protocol) := by
  refine ofReply_transparent real mem (c := .socket domain type protocol) ?_ ?_ ?_ <;> unfold socket <;>
    dsimp only [forward] <;> split <;> [rfl; split <;> rfl; rfl; split <;> rfl; rfl; split <;> rfl]

theorem bind_transparent (s : Shim) (pid : U64) (fd : Int) (addr : List U8) :
    Transparent real mem (ofReply real (s.bind (bsdOf real) pid fd addr)) (.bind fd addr) := by
  have hall : (s.bind (bsdOf real) pid fd addr).forwarded = some (.bind fd addr) ∧
      (s.bind (bsdOf real) pid fd addr).handed = [] ∧ (s.bind (bsdOf real) pid fd addr).frames = [] := by
    unfold bind
    dsimp only [forward]
    split
    · exact ⟨rfl, rfl, rfl⟩
    · split
      · split <;> exact ⟨rfl, rfl, rfl⟩
      · exact ⟨rfl, rfl, rfl⟩
  exact ofReply_transparent real mem hall.1 hall.2.1 hall.2.2

theorem connect_transparent (h : ¬s.table.Mirrors pid fd) (addr : List U8) :
    Transparent real mem (ofReply real (s.connect (bsdOf real) pid fd addr)) (.connect fd addr) := by
  have hoverlay : s.connectOverlay pid fd addr = none := by
    unfold connectOverlay
    rw [if_neg fun hm => hm.2 (getLanVfd_unshadowed h)]
  have hall : (s.connect (bsdOf real) pid fd addr).forwarded = some (.connect fd addr) ∧
      (s.connect (bsdOf real) pid fd addr).handed = [] ∧
      (s.connect (bsdOf real) pid fd addr).frames = [] := by
    unfold connect
    rw [hoverlay]
    dsimp only [forward]
    split
    · exact ⟨rfl, rfl, rfl⟩
    · split <;> exact ⟨rfl, rfl, rfl⟩
  exact ofReply_transparent real mem hall.1 hall.2.1 hall.2.2

/-- Nothing is sent to a peer that a missing shadow would have. -/
theorem answerOr_transparent (h : ¬s.table.Mirrors pid fd) (buf : List U8) (c : BsdCall) :
    Transparent real mem (ofReply real (answerOr (bsdOf real) (s.mirrorConnectedLanDatagram pid fd buf) buf c))
      c.request := by
  have hnone : s.mirrorConnectedLanDatagram pid fd buf = (s, [], none) := by
    unfold mirrorConnectedLanDatagram
    rw [getConnectedLanPeer_unshadowed h]
    cases s.port <;> rfl
  rw [hnone]
  exact forward_transparent real mem (bsdOf real) s c

theorem answerOr_table (bsd : BsdCall → Option BsdResult) (sent : Shim × List Frame × Option Handed)
    (buf : List U8) (c : BsdCall) : (answerOr bsd sent buf c).shim = sent.1 := by
  unfold answerOr
  split <;> rfl

theorem mirrorLanPayload_table (s : Shim) (vfd : Int) (dstIp : U32) (dstPort : U16) (broadcast : Bool)
    (data : List U8) : (s.mirrorLanPayload vfd dstIp dstPort broadcast data).1.table = s.table := by
  unfold mirrorLanPayload
  split <;> rfl

/-- `SendTo` mirrors a socket for its first broadcast; if it could not, it forwards. -/
theorem sendTo_transparent {flags : U32} {buf addr : List U8}
    (ha : ¬(ofReply real (s.sendTo (bsdOf real) pid fd flags buf addr)).shim.table.Mirrors pid fd) :
    Transparent real mem (ofReply real (s.sendTo (bsdOf real) pid fd flags buf addr)) (.sendTo fd flags buf addr) := by
  have hall : (s.sendTo (bsdOf real) pid fd flags buf addr).forwarded = some (.sendTo fd flags buf addr) ∧
      (s.sendTo (bsdOf real) pid fd flags buf addr).handed = [] ∧
      (s.sendTo (bsdOf real) pid fd flags buf addr).frames = [] := by
    by_cases hout : addr.length < 8 ∨ s.port.isNone
    · unfold sendTo
      rw [if_pos hout]
      exact ⟨rfl, rfl, rfl⟩
    · have ha : ¬(s.sendTo (bsdOf real) pid fd flags buf addr).shim.table.Mirrors pid fd := ha
      unfold sendTo at ha ⊢
      rw [if_neg hout] at ha ⊢
      dsimp only at ha ⊢
      generalize hm : (if (s.table.lookupSend pid fd).2 = InvalidSocket ∧ directedBroadcast addr = true ∧
          (s.table.lookupSend pid fd).1 ≠ 0 then s.ensureLanMirror pid fd (s.table.lookupSend pid fd).1
        else (s, (s.table.lookupSend pid fd).2)) = mirror at ha ⊢
      by_cases hnone : mirror.2 = InvalidSocket
      · rw [if_pos hnone]
        exact ⟨rfl, rfl, rfl⟩
      · rw [if_neg hnone, answerOr_table, mirrorLanPayload_table] at ha
        refine absurd ?_ ha
        split_ifs at hm with hfirst <;> subst hm
        · exact ensureLanMirror_mirrors s pid fd _ hnone
        · exact Table.lookupSend_mirrors hnone
  exact ofReply_transparent real mem hall.1 hall.2.1 hall.2.2

theorem sendMMsg_transparent (h : ¬s.table.Mirrors pid fd) (vlen flags : Int) (buf : List U8) :
    Transparent real mem (ofReply real (s.sendMMsg (bsdOf real) pid fd vlen flags buf))
      (.sendMMsg fd vlen flags buf) := by
  have hresolve : ∀ view, s.resolveMMsgDestination pid fd view = none := by
    intro view
    unfold resolveMMsgDestination
    rw [getConnectedLanPeer_unshadowed h, if_pos (getLanVfd_unshadowed h)]
    split
    · rfl
    · split <;> rfl
  have hcheck : ∀ count cursor, s.checkMMsgs pid fd (count + 1) cursor = false := by
    intro count cursor
    rw [checkMMsgs]
    split
    · rfl
    · rw [hresolve]
      rfl
  have hnone : s.mirrorMMsgBuffer pid fd vlen buf = (s, [], []) := by
    unfold mirrorMMsgBuffer
    split
    · rfl
    · rename_i hguard
      obtain ⟨count, hcount⟩ : ∃ count, vlen.toNat = count + 1 := ⟨vlen.toNat - 1, by omega⟩
      rw [hcount, hcheck]
      rfl
  have hall : (s.sendMMsg (bsdOf real) pid fd vlen flags buf).forwarded = some (.sendMMsg fd vlen flags buf) ∧
      (s.sendMMsg (bsdOf real) pid fd vlen flags buf).handed = [] ∧
      (s.sendMMsg (bsdOf real) pid fd vlen flags buf).frames = [] := by
    unfold sendMMsg
    dsimp only
    rw [hnone, if_pos rfl]
    exact ⟨rfl, rfl, rfl⟩
  exact ofReply_transparent real mem hall.1 hall.2.1 hall.2.2

/-! ### The commands that act on the answer -/

theorem setSockOpt_transparent (s : Shim) (pid : U64) (fd level optname : Int) (optval : List U8) :
    Transparent real mem (setSockOpt real s pid fd level optname optval) (.setSockOpt fd level optname optval) := by
  refine relayThen_transparent real mem s fun a _ => ?_
  dsimp only
  split <;> rfl

theorem close_transparent (s : Shim) (pid : U64) (fd : Int) :
    Transparent real mem (close real s pid fd) (.close fd) := by
  refine relayThen_transparent real mem s fun a _ => ?_
  split <;> rfl

theorem shutdownAllSockets_transparent (s : Shim) (pid : U64) (how : Int) :
    Transparent real mem (shutdownAllSockets real s pid how) (.shutdownAllSockets how) := by
  refine relayThen_transparent real mem s fun a _ => ?_
  split <;> rfl

theorem getPeerName_transparent (h : ¬s.table.Mirrors pid fd) (addr : Nat) :
    Transparent real mem (getPeerName real s pid fd addr) (.getPeerName fd addr) := by
  unfold getPeerName
  rw [getConnectedLanPeer_unshadowed h]
  exact relay_transparent real mem s fun _ => rfl

/-- The port is noted for whoever mirrors the socket later; the name stays as it came. -/
theorem getSockName_transparent (h : ¬s.table.Mirrors pid fd) (addr : Nat) :
    Transparent real mem (getSockName real s pid fd addr) (.getSockName fd addr) := by
  refine relayThen_transparent real mem s fun a _ => ?_
  dsimp only
  rw [if_neg]
  · rfl
  rintro ⟨-, -, hne⟩
  refine hne ?_
  split
  · cases hfind : s.table.findLanSocketLocked pid fd with
    | none => exact getLanVfd_unshadowed h
    | some i =>
      dsimp only
      split
      · refine by_contra fun hvfd => h ?_
        refine (Table.mirrors_store ?_ ?_ ?_ pid fd).mp (Table.getLanVfd_mirrors hvfd) <;> rfl
      · exact getLanVfd_unshadowed h
  · exact getLanVfd_unshadowed h

/-- With no shadow among the descriptors there is nothing to wait for but the real service. -/
theorem select_transparent {nfds : Int} {timeout : SelectTimeval} {rd wr ex : List U8} {ord owr oex : Nat}
    (h : s.table.Unshadowed pid (.select nfds timeout rd wr ex ord owr oex)) :
    Transparent real mem (select real s pid nfds timeout rd wr ex ord owr oex)
      (.select nfds timeout rd wr ex ord owr oex) := by
  have hun : ∀ fd : Nat, fd ∈ List.range nfds.toNat → fdIsSet fd rd = true → ¬s.table.Mirrors pid fd := by
    intro fd hmem hset
    refine h fd (List.mem_map.mpr ⟨fd, List.mem_filter.mpr ⟨hmem, ?_⟩, rfl⟩)
    rw [hset]
    rfl
  have hwatches : s.watches pid nfds.toNat rd = false := by
    refine List.any_eq_false.mpr fun fd hmem => ?_
    intro hwatch
    obtain ⟨hset, hvfd⟩ := Bool.and_eq_true_iff.mp hwatch
    rw [getLanVfd_unshadowed (hun fd hmem hset)] at hvfd
    exact absurd hvfd (by decide)
  have hready : s.readyNow pid nfds.toNat rd = false := by
    refine List.any_eq_false.mpr fun fd hmem => ?_
    intro hwatch
    obtain ⟨hset, hreadable⟩ := Bool.and_eq_true_iff.mp hwatch
    rw [lanSocketReadable_unshadowed (hun fd hmem hset)] at hreadable
    cases hreadable
  have hwait : boundedTimeval timeout (s.watches pid nfds.toNat rd) (s.readyNow pid nfds.toNat rd) =
      timeout := by
    rw [hwatches, hready]
    rfl
  unfold select
  dsimp only
  rw [hwait, hwatches]
  refine relayThen_transparent real mem s fun a _ => ?_
  rw [if_neg fun hm => Bool.false_ne_true hm.2]
  rfl

/-! ### What `Poll` merges -/

theorem marks_readable (s : Shim) (pid : U64) (p : PollFd) : s.marks pid p.readable = s.marks pid p := rfl

/-- The loop marks the entries in place and leaves every other byte. -/
theorem mergePolled_byte (s : Shim) (pid : U64) (entries : List Nat) (count : Int) {out : List U8}
    (hfit : ∀ i ∈ entries, 8 * i + 8 ≤ out.length) (j : Nat) :
    Mem.ofBytes (mergePolled s pid entries (count, out)).2 j =
      if j % 8 = 6 ∧ j / 8 ∈ entries ∧ s.marks pid (pollFd out (j / 8)) = true then Mem.ofBytes out j ||| 1
      else Mem.ofBytes out j := by
  induction entries generalizing count out with
  | nil => simp [mergePolled]
  | cons k entries ih =>
    have hk := hfit k (List.mem_cons_self ..)
    have hrest := fun i hi => hfit i (List.mem_cons_of_mem k hi)
    rw [mergePolled]
    by_cases hmark : s.marks pid (pollFd out k) = true
    · have hsame : ∀ i, s.marks pid (pollFd (setPollIn out k) i) = s.marks pid (pollFd out i) := by
        intro i
        rw [pollFd_setPollIn hk]
        split
        · rename_i hik
          rw [hik, marks_readable]
        · rfl
      rw [show ((pollFd out k).pollsIn && s.lanSocketReadable pid (pollFd out k).fd) = true from hmark, if_pos rfl,
        ih _ (by rw [setPollIn_length]; exact hrest), hsame]
      by_cases hj : j = 8 * k + 6
      · subst hj
        have hdiv : (8 * k + 6) / 8 = k := by omega
        have hmod : (8 * k + 6) % 8 = 6 := by omega
        rw [setPollIn_same (by omega), hdiv, hmod, BitVec.or_assoc, BitVec.or_self, ite_self,
          if_pos ⟨rfl, List.mem_cons_self .., hmark⟩]
      · have hdiv : j % 8 = 6 → j / 8 ≠ k := fun h h' => hj (by omega)
        rw [setPollIn_other _ hj]
        refine if_congr (and_congr_right fun hmod => and_congr_left' ?_) rfl rfl
        rw [List.mem_cons, or_iff_right (hdiv hmod)]
    · rw [show ((pollFd out k).pollsIn && s.lanSocketReadable pid (pollFd out k).fd) = false from
        Bool.not_eq_true _ ▸ hmark, if_neg Bool.false_ne_true, ih _ hrest]
      refine if_congr (and_congr_right fun _ => ?_) rfl rfl
      rw [List.mem_cons]
      constructor
      · rintro ⟨hmem, hm⟩
        exact ⟨.inr hmem, hm⟩
      · rintro ⟨rfl | hmem, hm⟩
        · exact absurd hm hmark
        · exact ⟨hmem, hm⟩

/-- The count stays when every entry marked had an event already. -/
theorem mergePolled_count_iff (s : Shim) (pid : U64) {n : Nat} (count : Int) {out : List U8}
    (hn : 8 * n ≤ out.length) :
    (mergePolled s pid (List.range n) (count, out)).1 = count ↔
      ∀ i < n, s.marks pid (pollFd out i) = true → (pollFd out i).revents ≠ 0 := by
  obtain ⟨-, -, hentry, hcount⟩ := mergePolled_spec s pid (List.range n) (fun i hi => List.mem_range.mp hi) count hn
  have hmarked : ∀ i < n, pollFd (mergePolled s pid (List.range n) (count, out)).2 i =
      if s.marks pid (pollFd out i) = true then (pollFd out i).readable else pollFd out i := by
    intro i hi
    rw [hentry]
    refine if_congr ?_ rfl rfl
    rw [marks, Bool.and_eq_true, List.mem_range, and_iff_right hi]
  have hkept : ∀ i < n, (pollFd out i).revents ≠ 0 →
      (pollFd (mergePolled s pid (List.range n) (count, out)).2 i).revents ≠ 0 := by
    intro i hi h
    rw [hmarked i hi]
    split
    · exact revents_readable _
    · exact h
  have hsub : ((Finset.range n).filter fun i => (pollFd out i).revents ≠ 0) ⊆ (Finset.range n).filter fun i =>
      (pollFd (mergePolled s pid (List.range n) (count, out)).2 i).revents ≠ 0 := by
    intro i hi
    obtain ⟨hlt, hne⟩ := Finset.mem_filter.mp hi
    exact Finset.mem_filter.mpr ⟨hlt, hkept i (Finset.mem_range.mp hlt) hne⟩
  have hiff : (mergePolled s pid (List.range n) (count, out)).1 = count ↔
      polledCount (mergePolled s pid (List.range n) (count, out)).2 n = polledCount out n := by omega
  rw [hiff]
  constructor
  · intro hcard i hi hm
    have hall := Finset.eq_of_subset_of_card_le hsub (le_of_eq hcard)
    have hin : i ∈ (Finset.range n).filter fun i =>
        (pollFd (mergePolled s pid (List.range n) (count, out)).2 i).revents ≠ 0 := by
      refine Finset.mem_filter.mpr ⟨Finset.mem_range.mpr hi, ?_⟩
      rw [hmarked i hi, if_pos hm]
      exact revents_readable _
    rw [← hall] at hin
    exact (Finset.mem_filter.mp hin).2
  · intro h
    refine (congrArg Finset.card (Finset.Subset.antisymm hsub fun i hi => ?_)).symm
    obtain ⟨hlt, hne⟩ := Finset.mem_filter.mp hi
    refine Finset.mem_filter.mpr ⟨hlt, ?_⟩
    rw [hmarked i (Finset.mem_range.mp hlt)] at hne
    split at hne
    · rename_i hm
      exact h i (Finset.mem_range.mp hlt) hm
    · exact hne

/-- With no descriptor of the input mirrored the loops find what is behind it. -/
theorem stray_any {nfds : Int} {inFds : List U8} {outFds : Nat} {q : Nat → Bool}
    (h : ∀ i < min nfds.toNat (outFds / 8), 8 * i + 8 ≤ inFds.length → q i = false) :
    (List.range (min nfds.toNat (outFds / 8))).any q = (strays nfds inFds outFds).any q := by
  rw [strays, List.any_filter, Bool.eq_iff_iff, List.any_eq_true, List.any_eq_true]
  refine exists_congr fun i => and_congr_right fun hi => ?_
  by_cases hin : inFds.length < 8 * i + 8
  · rw [decide_eq_true hin, Bool.true_and]
  · rw [h i (List.mem_range.mp hi) (by omega), Bool.and_false]

theorem strayReady_watched (s : Shim) (pid : U64) (nfds : Int) (inFds : List U8) (outFds : Nat)
    (h : strayReady s mem pid nfds inFds outFds = true) : strayWatched s mem pid nfds inFds outFds = true := by
  obtain ⟨i, hi, hboth⟩ := List.any_eq_true.mp h
  obtain ⟨hpolls, hready⟩ := Bool.and_eq_true_iff.mp hboth
  exact List.any_eq_true.mpr ⟨i, hi, Bool.and_eq_true_iff.mpr ⟨hpolls, lanSocketReadable_mirrored hready⟩⟩

/-- The wait is the client's own. -/
theorem timeout_kept_iff {ready watching : Bool} (h : ready = true → watching = true) (timeout : Int) :
    (if ready then 0 else if watching && (decide (timeout < 0) || decide (10 < timeout)) then 10 else timeout) =
        timeout ↔ (watching = true → 0 ≤ timeout ∧ timeout ≤ 10) ∧ (ready = true → timeout = 0) := by
  cases ready with
  | true =>
    rw [if_pos rfl, h rfl]
    exact ⟨fun h0 => ⟨fun _ => by omega, fun _ => h0.symm⟩, fun h0 => (h0.2 rfl).symm⟩
  | false =>
    cases watching with
    | true =>
      rw [if_neg Bool.false_ne_true, Bool.true_and]
      split
      · rename_i hout
        rw [Bool.or_eq_true, decide_eq_true_eq, decide_eq_true_eq] at hout
        exact iff_of_false (by omega) fun hb => by have := hb.1 rfl; omega
      · rename_i hin
        rw [Bool.or_eq_true, decide_eq_true_eq, decide_eq_true_eq] at hin
        exact iff_of_true rfl ⟨fun _ => by omega, fun h0 => absurd h0 Bool.false_ne_true⟩
    | false => exact iff_of_true rfl ⟨fun h0 => absurd h0 Bool.false_ne_true, fun h0 => absurd h0 Bool.false_ne_true⟩

theorem eq_bytes_iff {out : List U8} {n : Nat} (hn : out.length = n) (p : Mem) :
    out = p.bytes n ↔ ∀ j < n, p j = Mem.ofBytes out j := by
  constructor
  · intro h j hj
    rw [h, Mem.ofBytes_bytes _ _ _ hj]
  · intro h
    rw [Mem.bytes_congr h, ← hn, Mem.bytes_ofBytes]

/-- The buffer, merged or not, is the one that the client would have without the shim. -/
theorem answer_kept_iff (s : Shim) (pid : U64) (nfds timeout : Int) (inFds : List U8) (outFds : Nat) (a : Answer) :
    (if 0 ≤ a.ret ∧ strayWatched s mem pid nfds inFds outFds = true then
        { a with
          ret := (mergePolled s pid (List.range (min nfds.toNat (outFds / 8)))
            (a.ret, (overwrite (a.outs.headD []) (mem.copied inFds outFds)).bytes outFds)).1
          err := 0
          outs := (mergePolled s pid (List.range (min nfds.toNat (outFds / 8)))
            (a.ret, (overwrite (a.outs.headD []) (mem.copied inFds outFds)).bytes outFds)).2 :: a.outs.tail }
      else { a with
        outs := (overwrite (a.outs.headD []) (mem.copied inFds outFds)).bytes outFds :: a.outs.tail }) =
      (Request.poll nfds timeout inFds outFds).received mem a ↔ AnswerKept s mem pid nfds inFds outFds a := by
  have hkept : AnswerKept s mem pid nfds inFds outFds a ↔ _ ∧ _ := ⟨fun h => ⟨h.quiet, h.bytes⟩, fun h => ⟨h.1, h.2⟩⟩
  rw [hkept, Request.received]
  have hn : 8 * min nfds.toNat (outFds / 8) ≤ outFds := by omega
  generalize min nfds.toNat (outFds / 8) = n at hn ⊢
  generalize overwrite (a.outs.headD []) (mem.copied inFds outFds) = found
  have hlen : (found.bytes outFds).length = outFds := Mem.bytes_length ..
  have hentry : ∀ i < n, pollFd (found.bytes outFds) i = pollAt found i := fun i hi => pollFd_bytes (by omega)
  by_cases hmerge : 0 ≤ a.ret ∧ strayWatched s mem pid nfds inFds outFds = true
  · have hmerged := (mergePolled_spec s pid (List.range n) (fun i hi => List.mem_range.mp hi) a.ret
      (hn.trans hlen.ge)).1
    have hquiet := mergePolled_count_iff s pid (n := n) a.ret (hn.trans hlen.ge)
    have hfit : ∀ i ∈ List.range n, 8 * i + 8 ≤ (found.bytes outFds).length := by
      intro i hi
      have := List.mem_range.mp hi
      omega
    have hbyte : ∀ j < outFds, Mem.ofBytes (mergePolled s pid (List.range n) (a.ret, found.bytes outFds)).2 j =
        if (0 ≤ a.ret ∧ strayWatched s mem pid nfds inFds outFds = true) ∧ j % 8 = 6 ∧ j / 8 < n ∧
          s.marks pid (pollAt found (j / 8)) = true then found j ||| 1 else found j := by
      intro j hj
      rw [mergePolled_byte s pid _ _ hfit, Mem.ofBytes_bytes _ _ _ hj]
      refine if_congr ?_ rfl rfl
      rw [and_iff_right hmerge, List.mem_range]
      refine and_congr_right fun _ => and_congr_right fun hi => ?_
      rw [hentry _ hi]
    rw [if_pos hmerge]
    simp only [Answer.mk.injEq, List.cons.injEq, true_and, and_true]
    rw [hquiet, eq_bytes_iff (hmerged.trans hlen)]
    constructor
    · rintro ⟨hrevents, herr, hbytes⟩
      refine ⟨fun _ _ => ⟨herr.symm, fun i hi hm => ?_⟩, fun j hj => (hbytes j hj).trans (hbyte j hj)⟩
      rw [← hentry i hi] at hm ⊢
      exact hrevents i hi hm
    · rintro ⟨hquiet, hbytes⟩
      obtain ⟨herr, hrevents⟩ := hquiet hmerge.2 hmerge.1
      refine ⟨fun i hi hm => ?_, herr.symm, fun j hj => (hbytes j hj).trans (hbyte j hj).symm⟩
      rw [hentry i hi] at hm ⊢
      exact hrevents i hi hm
  · rw [if_neg hmerge]
    simp only [Answer.mk.injEq, List.cons.injEq, true_and, and_true]
    rw [eq_bytes_iff hlen]
    constructor
    · intro hbytes
      refine ⟨fun hw hret => absurd ⟨hret, hw⟩ hmerge, fun j hj => ?_⟩
      rw [if_neg fun h => hmerge h.1, hbytes j hj, Mem.ofBytes_bytes _ _ _ hj]
    · rintro ⟨-, hbytes⟩ j hj
      rw [hbytes j hj, if_neg fun h => hmerge h.1, Mem.ofBytes_bytes _ _ _ hj]

theorem poll_transparent_iff {nfds timeout : Int} {inFds : List U8} {outFds : Nat}
    (h : s.table.Unshadowed pid (.poll nfds timeout inFds outFds)) :
    Transparent real mem (poll real s mem pid nfds timeout inFds outFds) (.poll nfds timeout inFds outFds) ↔
      PollKept s mem pid nfds inFds outFds real timeout := by
  have hun : ∀ i < min nfds.toNat (outFds / 8), 8 * i + 8 ≤ inFds.length →
      ¬s.table.Mirrors pid (pollAt (overwrite inFds mem.behind) i).fd := by
    intro i hi hin
    rw [pollAt_within hin]
    exact h _ (List.mem_map.mpr ⟨i, List.mem_range.mpr (by omega), rfl⟩)
  have hwatched : ((List.range (min nfds.toNat (outFds / 8))).any fun i =>
      (pollAt (overwrite inFds mem.behind) i).pollsIn &&
        s.table.getLanVfd pid (pollAt (overwrite inFds mem.behind) i).fd != InvalidSocket) =
      strayWatched s mem pid nfds inFds outFds := by
    refine stray_any fun i hi hin => ?_
    rw [getLanVfd_unshadowed (hun i hi hin)]
    exact Bool.and_false _
  have hready : ((List.range (min nfds.toNat (outFds / 8))).any fun i =>
      (pollAt (overwrite inFds mem.behind) i).pollsIn &&
        s.lanSocketReadable pid (pollAt (overwrite inFds mem.behind) i).fd) =
      strayReady s mem pid nfds inFds outFds := by
    refine stray_any fun i hi hin => ?_
    rw [lanSocketReadable_unshadowed (hun i hi hin)]
    exact Bool.and_false _
  have htimeout := timeout_kept_iff (strayReady_watched mem s pid nfds inFds outFds) timeout
  have hanswer := answer_kept_iff mem s pid nfds timeout inFds outFds
  unfold poll
  dsimp only
  rw [hwatched, hready]
  constructor
  · intro ht
    have hforwarded := ht.forwarded
    rw [relayThen_forwarded] at hforwarded
    have hsame := (Request.poll.inj (Option.some.inj hforwarded)).2.1
    obtain ⟨hbounded, hinstant⟩ := htimeout.mp hsame
    refine ⟨hbounded, hinstant, fun a ha => (hanswer a).mp ?_⟩
    have hreply := ht.reply
    rw [hsame, relayThen_ok _ ha, ha] at hreply
    rw [← Except.ok.inj hreply]
    split <;> rfl
  · rintro ⟨hbounded, hinstant, hkept⟩
    rw [htimeout.mpr ⟨hbounded, hinstant⟩]
    refine relayThen_transparent real mem s fun a ha => ?_
    rw [← (hanswer a).mpr (hkept a ha)]
    split <;> rfl

/-- A client whose input has the entries, and whose output buffer the real service fills,
sees nothing of what `Poll` reads and writes besides. -/
theorem poll_kept {s : Shim} {pid : U64} {nfds timeout : Int} {inFds : List U8} {outFds : Nat}
    (hin : 8 * min nfds.toNat (outFds / 8) ≤ inFds.length)
    (hout : ∀ a, real (.poll nfds timeout inFds outFds) = .ok a → outFds ≤ (a.outs.headD []).length) :
    PollKept s mem pid nfds inFds outFds real timeout := by
  have hnone : strays nfds inFds outFds = [] := by
    refine List.filter_eq_nil_iff.mpr fun i hi => ?_
    have := List.mem_range.mp hi
    rw [decide_eq_true_eq]
    omega
  have hwatched : ¬strayWatched s mem pid nfds inFds outFds = true := by
    rw [strayWatched, hnone]
    exact Bool.false_ne_true
  have hready : ¬strayReady s mem pid nfds inFds outFds = true := fun h => hwatched (strayReady_watched mem _ _ _ _ _ h)
  refine ⟨fun h => absurd h hwatched, fun h => absurd h hready, fun a ha => ?_⟩
  refine ⟨fun h => absurd h hwatched, fun j hj => ?_⟩
  have hwritten := hj.trans_le (hout a ha)
  rw [if_neg fun h => hwatched h.1.2, overwrite_below hwritten, overwrite_below hwritten]

/-- Behind an input of one entry a second is read that names a mirrored descriptor: a wait
without end becomes one of 10 ms. -/
example : (poll (fun _ => .error 0) (waiting VNet.fresh)
    ⟨fun j => if j = 8 then 3 else if j = 12 then 1 else 0, Mem.zero⟩ 7 2 (-1) (List.replicate 8 0) 16).forwarded =
      some (.poll 2 10 (List.replicate 8 0) 16) := by decide

theorem sysctl_transparent_iff (s : Shim) (pid : U64) (name oldp : List U8) (newp : Nat) :
    Transparent real mem (sysctl real s name oldp newp) (.sysctl name oldp newp) ↔
      Keeps real s mem pid (.sysctl name oldp newp) := by
  rw [Keeps]
  constructor
  · intro ht a ha
    have hreply := ht.reply
    unfold sysctl at hreply
    rw [relayThen_ok _ ha, ha] at hreply
    have hsame : ({ a with ret := 0, err := 0, len := 0 } : Answer) = a := Except.ok.inj hreply
    rw [← hsame]
    exact ⟨rfl, rfl, rfl⟩
  · intro hkeeps
    refine relayThen_transparent real mem s fun a ha => ?_
    obtain ⟨hret, herr, hlen⟩ := hkeeps a ha
    obtain ⟨ret, err, len, token, outs⟩ := a
    dsimp only at hret herr hlen ⊢
    rw [hret, herr, hlen]
    rfl

end Relay

variable (real : Request → Except U32 Answer)

end Shim

end SysZerotier.Mitm
