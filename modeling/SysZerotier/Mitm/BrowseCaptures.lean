import SysZerotier.Mitm.Routing

/-! The captures of PIA browse exchanges (`ObserveBrowseRequest`, `MirrorLanPayload` and the
two functions that forget a socket, in `source/mitm/bsd_shim.cpp`), with diagnostics enabled.

A request that a process receives leaves a note of who received it and from whom, and its
bytes in a buffer of `PiaPacketMax`; a reply to the noted address is recorded with the bytes of
the buffer. The note is also taken of a request that is too long for the buffer, which then
still holds an earlier one: the recorded request is the one that the reply answers exactly
when that one is not too long (`captures_paired_iff`). -/
namespace SysZerotier.Mitm.BrowseCaptures
open Net Port

def PiaPacketMax : Nat := 1364

/-- A process that the shim serves. -/
structure Client where
  pid : U64
  nonzero : pid ≠ 0

structure BrowseRequestObservation where
  pid : U64 := 0
  fd : Int := 0
  srcIp : U32 := 0
  counter : U64 := 0
  keyHash : U32 := 0
  count : U32 := 0

/-- The buffers of `EnsurePiaCaptureBuffersLocked`, but for the two flush copies. -/
structure Buffers where
  latestRequest : Mem
  firstRequest : Mem
  firstReply : Mem
  captureRequest : Mem
  captureReply : Mem

structure State where
  table : Table := Table.empty
  lastBrowseRequest : BrowseRequestObservation := {}
  buffers : Option Buffers := none
  latestRequestLen : Nat := 0
  firstRequestLen : Nat := 0
  firstReplyLen : Nat := 0
  captureRequestLen : Nat := 0
  captureReplyLen : Nat := 0
  capturePid : U64 := 0
  captureNetworkId : U32 := 0

/-- A reply that a process sends, as far as `MirrorLanPayload` captures it. -/
structure Reply where
  client : Client
  dstIp : U32
  dstPort : U16
  data : List U8

def readBe64 (p : Mem) (i : Nat) : U64 := rd32 p i ++ rd32 p (i + 4)

/-- FNV-1a. -/
def fingerprint32 (bytes : List U8) : U32 :=
  bytes.foldl (fun hash b => (hash ^^^ b.setWidth 32) * 16777619) 2166136261

def challengeOffset (data : List U8) : Nat := 5 + (rd32 (Mem.ofBytes data) 1).toNat

/-- What `ObserveBrowseRequest` takes for a request. -/
def browseRequest (data : List U8) (srcPort : U16) : Bool :=
  decide (5 ≤ data.length) && data.head? == some 0 && srcPort == 30000 &&
    decide (challengeOffset data ≤ data.length) && decide (42 ≤ data.length - challengeOffset data)

/-- The network id in a reply's session body. -/
def networkId (data : List U8) : U32 :=
  let packet := Mem.ofBytes data
  let bodySize := min (data.length - 5) (rd32 packet 1).toNat
  if 8 ≤ bodySize then rd32 packet 9 else 0

namespace State

/-- The buffers there are, or those that `malloc` gives; `none` is a failed allocation. -/
def ensurePiaCaptureBuffersLocked (s : State) (mallocs : Option Buffers) : Option Buffers :=
  s.buffers.or mallocs

def storeRequest (s : State) (b : Buffers) (data : List U8) : State :=
  { s with
    buffers := some { b with latestRequest := memcpy b.latestRequest 0 (Mem.ofBytes data) data.length }
    latestRequestLen := data.length }

def observe (s : State) (client : Client) (fd : Int) (data : List U8) (srcIp : U32) : State :=
  let challenge := (Mem.ofBytes data).advance (challengeOffset data)
  { s with
    lastBrowseRequest :=
      { pid := client.pid
        fd := fd
        srcIp := srcIp
        counter := readBe64 challenge 2
        keyHash := fingerprint32 ((challenge.advance 10).bytes 16)
        count := s.lastBrowseRequest.count + 1 } }

def observeBrowseRequest (s : State) (mallocs : Option Buffers) (client : Client) (fd : Int) (data : List U8)
    (srcIp : U32) (srcPort : U16) : State :=
  if browseRequest data srcPort then
    let s := s.observe client fd data srcIp
    if data.length ≤ PiaPacketMax then
      match s.ensurePiaCaptureBuffersLocked mallocs with
      | some b => s.storeRequest b data
      | none => s
    else s
  else s

/-- The latest pair, and the buffers that hold it. -/
def recordLatest (s : State) (b : Buffers) (data : List U8) : State :=
  { s with
    buffers := some { b with
      captureRequest := memcpy b.captureRequest 0 b.latestRequest s.latestRequestLen
      captureReply := memcpy b.captureReply 0 (Mem.ofBytes data) data.length }
    captureRequestLen := s.latestRequestLen
    captureReplyLen := data.length }

/-- The pair is the first of its process and network id. -/
def isFirst (s : State) (r : Reply) : Bool :=
  s.firstRequestLen == 0 || s.capturePid != r.client.pid || s.captureNetworkId != networkId r.data

def recordFirst (s : State) (r : Reply) : State :=
  { s with
    buffers := s.buffers.map fun b => { b with
      firstRequest := memcpy b.firstRequest 0 b.latestRequest s.latestRequestLen
      firstReply := memcpy b.firstReply 0 (Mem.ofBytes r.data) r.data.length }
    firstRequestLen := s.latestRequestLen
    firstReplyLen := r.data.length
    capturePid := r.client.pid
    captureNetworkId := networkId r.data }

/-- The reply goes to where the noted request came from, with a request's bytes there. -/
def answers (s : State) (r : Reply) : Bool :=
  Shim.browseReply r.dstPort r.data && decide (r.data.length ≤ PiaPacketMax) && s.latestRequestLen != 0 &&
    s.lastBrowseRequest.pid == r.client.pid && s.lastBrowseRequest.srcIp == r.dstIp

/-- The pair is recorded. -/
def records (s : State) (mallocs : Option Buffers) (r : Reply) : Bool :=
  s.answers r && (s.ensurePiaCaptureBuffersLocked mallocs).isSome

/-- What `MirrorLanPayload` captures on its way to the port. -/
def mirrorLanPayload (s : State) (mallocs : Option Buffers) (r : Reply) : State :=
  if s.answers r then
    match s.ensurePiaCaptureBuffersLocked mallocs with
    | some b =>
      let recorded := s.recordLatest b r.data
      if s.isFirst r then recorded.recordFirst r else recorded
    | none => s
  else s

def forgetLanSocket (s : State) (client : Client) (fd : Int) : State :=
  let boundPort := match s.table.findLanSocketLocked client.pid fd with
    | some i => (s.table i).boundPort
    | none => 0
  let s := { s with table := (s.table.forget client.pid fd).1 }
  if boundPort == 30000 && s.lastBrowseRequest.pid == client.pid && s.lastBrowseRequest.fd == fd then
    { s with lastBrowseRequest := {}, latestRequestLen := 0 }
  else s

def forgetLanSocketsForPid (s : State) (client : Client) : State :=
  let s := { s with table := (s.table.forgetForPid client.pid).1 }
  if s.lastBrowseRequest.pid == client.pid then { s with lastBrowseRequest := {} } else s

/-- The bytes in a buffer, none where it is not allocated. -/
def held (s : State) (buffer : Buffers → Mem) (len : Nat) : List U8 :=
  match s.buffers with
  | some b => (buffer b).bytes len
  | none => []

def latestRequest (s : State) : List U8 := s.held Buffers.latestRequest s.latestRequestLen

/-- The recorded requests. -/
def captureRequest (s : State) : List U8 := s.held Buffers.captureRequest s.captureRequestLen

def firstRequest (s : State) : List U8 := s.held Buffers.firstRequest s.firstRequestLen

end State

/-- What happens to the captures; a receive and a send come with what `malloc` would give. -/
inductive Event where
  | socket (client : Client) (fd : Int)
  | bind (client : Client) (fd : Int) (port : U16)
  | receive (client : Client) (fd : Int) (data : List U8) (srcIp : U32) (srcPort : U16)
      (mallocs : Option Buffers)
  | send (r : Reply) (mallocs : Option Buffers)
  | close (client : Client) (fd : Int)
  | reap (client : Client)

def step (s : State) : Event → State
  | .socket client fd => { s with table := s.table.track client.pid fd }
  | .bind client fd port => { s with table := (s.table.recordBind client.pid fd port).1 }
  | .receive client fd data srcIp srcPort mallocs => s.observeBrowseRequest mallocs client fd data srcIp srcPort
  | .send r mallocs => s.mirrorLanPayload mallocs r
  | .close client fd => s.forgetLanSocket client fd
  | .reap client => s.forgetLanSocketsForPid client

def run (es : List Event) : State := es.foldl step {}

/-! ### The most recent request -/

/-- A browse request that the process receives from the address. -/
def requestFrom (pid : U64) (ip : U32) : Event → Option (List U8)
  | .receive client _ data srcIp srcPort _ =>
    if client.pid = pid ∧ srcIp = ip ∧ browseRequest data srcPort = true then some data else none
  | _ => none

def mostRecentRequest (pid : U64) (ip : U32) (es : List Event) : Option (List U8) :=
  (es.filterMap (requestFrom pid ip)).getLast?

theorem mostRecentRequest_concat (pid : U64) (ip : U32) (es : List Event) (e : Event) :
    mostRecentRequest pid ip (es ++ [e]) = (requestFrom pid ip e).or (mostRecentRequest pid ip es) := by
  rw [mostRecentRequest, mostRecentRequest, List.filterMap_append, List.getLast?_append]
  cases h : requestFrom pid ip e <;> simp [h]

theorem run_concat (es : List Event) (e : Event) : run (es ++ [e]) = step (run es) e := by
  rw [run, run, List.foldl_append]
  rfl

/-! ### What the buffer holds -/

theorem bytes_memcpy (p src : Mem) (n : Nat) : (memcpy p 0 src n).bytes n = src.bytes n := by
  apply Mem.bytes_congr
  intro i hi
  have h := memcpy_inside p 0 src n i hi
  rwa [Nat.zero_add] at h

theorem storeRequest_latest (s : State) (b : Buffers) (data : List U8) :
    (s.storeRequest b data).latestRequest = data :=
  (bytes_memcpy b.latestRequest (Mem.ofBytes data) data.length).trans (Mem.bytes_ofBytes data)

theorem recordLatest_captured {s : State} {b : Buffers} (h : s.buffers = some b) (data : List U8) :
    (s.recordLatest b data).captureRequest = s.latestRequest := by
  rw [State.latestRequest, State.held, h]
  exact bytes_memcpy b.captureRequest b.latestRequest s.latestRequestLen

theorem recordFirst_captured (s : State) (r : Reply) : (s.recordFirst r).captureRequest = s.captureRequest := by
  simp only [State.captureRequest, State.held, State.recordFirst]
  cases s.buffers <;> rfl

theorem recordFirst_first (s : State) (r : Reply) : (s.recordFirst r).firstRequest = s.latestRequest := by
  simp only [State.firstRequest, State.latestRequest, State.held, State.recordFirst]
  cases s.buffers with
  | none => rfl
  | some b => exact bytes_memcpy b.firstRequest b.latestRequest s.latestRequestLen

/-- The note and the latest request of `s` are those of `t`. -/
structure SameRequest (s t : State) : Prop where
  note : t.lastBrowseRequest = s.lastBrowseRequest
  len : t.latestRequestLen = s.latestRequestLen
  allocated : s.buffers ≠ none → t.buffers ≠ none
  bytes : t.latestRequest = s.latestRequest

theorem SameRequest.trans {s t u : State} (h : SameRequest s t) (h' : SameRequest t u) : SameRequest s u :=
  ⟨h'.note.trans h.note, h'.len.trans h.len, fun hs => h'.allocated (h.allocated hs), h'.bytes.trans h.bytes⟩

theorem sameRequest_table (s : State) (t : Table) : SameRequest s { s with table := t } :=
  ⟨rfl, rfl, id, rfl⟩

theorem recordLatest_same {s : State} {b : Buffers} (h : s.buffers = some b) (data : List U8) :
    SameRequest s (s.recordLatest b data) := by
  refine ⟨rfl, rfl, fun _ => Option.some_ne_none _, ?_⟩
  rw [State.latestRequest, State.latestRequest, State.held, State.held, h]
  rfl

theorem recordFirst_same (s : State) (r : Reply) : SameRequest s (s.recordFirst r) := by
  refine ⟨rfl, rfl, fun hs => ?_, ?_⟩
  · rw [State.recordFirst, Ne, Option.map_eq_none_iff]
    exact hs
  · simp only [State.latestRequest, State.held, State.recordFirst]
    cases s.buffers <;> rfl

/-! ### The invariant -/

/-- A stored request is in a buffer, and fits there. -/
structure Stored (s : State) : Prop where
  allocated : s.latestRequestLen ≠ 0 → s.buffers ≠ none
  fits : s.latestRequestLen ≤ PiaPacketMax

/-- The note is of the most recent request from its address, and so are the stored bytes,
if that request was not too long to be stored. -/
structure Inv (es : List Event) (s : State) : Prop extends Stored s where
  noted : s.lastBrowseRequest.pid ≠ 0 → ∃ request,
    mostRecentRequest s.lastBrowseRequest.pid s.lastBrowseRequest.srcIp es = some request ∧
      (request.length ≤ PiaPacketMax → s.latestRequestLen ≠ 0 → s.latestRequest = request)

theorem Stored.same {s t : State} (h : Stored s) (hsame : SameRequest s t) : Stored t := by
  refine ⟨?_, ?_⟩
  · rw [hsame.len]
    exact fun hne => hsame.allocated (h.allocated hne)
  · rw [hsame.len]
    exact h.fits

/-- Without a note nothing is asked of the bytes. -/
theorem Stored.unnoted {s : State} (h : Stored s) (hnote : s.lastBrowseRequest.pid = 0) (es : List Event) :
    Inv es s :=
  ⟨h, fun hne => absurd hnote hne⟩

theorem Inv.same {es : List Event} {s t : State} (h : Inv es s) (hsame : SameRequest s t) {e : Event}
    (he : ∀ pid ip, requestFrom pid ip e = none) : Inv (es ++ [e]) t := by
  refine ⟨h.toStored.same hsame, ?_⟩
  rw [hsame.note, hsame.len, hsame.bytes, mostRecentRequest_concat, he, Option.none_or]
  exact h.noted

theorem Inv.received {es : List Event} {s : State} (h : Inv es s) (mallocs : Option Buffers) (client : Client)
    (fd : Int) (data : List U8) (srcIp : U32) (srcPort : U16) :
    Inv (es ++ [.receive client fd data srcIp srcPort mallocs])
      (s.observeBrowseRequest mallocs client fd data srcIp srcPort) := by
  rw [State.observeBrowseRequest]
  by_cases hrequest : browseRequest data srcPort = true
  · have hrecent : mostRecentRequest client.pid srcIp (es ++ [.receive client fd data srcIp srcPort mallocs]) =
        some data := by
      rw [mostRecentRequest_concat, requestFrom, if_pos ⟨rfl, rfl, hrequest⟩, Option.some_or]
    have hstored : Stored (s.observe client fd data srcIp) := ⟨h.allocated, h.fits⟩
    rw [if_pos hrequest]
    by_cases hlen : data.length ≤ PiaPacketMax
    · dsimp only
      rw [if_pos hlen]
      cases hbuffers : (s.observe client fd data srcIp).ensurePiaCaptureBuffersLocked mallocs with
      | some b =>
        have hfull : Stored ((s.observe client fd data srcIp).storeRequest b data) :=
          ⟨fun _ => Option.some_ne_none _, hlen⟩
        exact ⟨hfull, fun _ => ⟨data, hrecent, fun _ _ => storeRequest_latest _ b data⟩⟩
      | none =>
        -- no buffers were there before: nothing is stored
        have hnone := (Option.or_eq_none_iff.mp hbuffers).1
        exact ⟨hstored, fun _ => ⟨data, hrecent, fun _ hne => absurd hnone (hstored.allocated hne)⟩⟩
    · dsimp only
      rw [if_neg hlen]
      exact ⟨hstored, fun _ => ⟨data, hrecent, fun hfits => absurd hfits hlen⟩⟩
  · rw [if_neg hrequest]
    apply h.same ⟨rfl, rfl, id, rfl⟩
    intro pid ip
    rw [requestFrom, if_neg fun hall => hrequest hall.2.2]

theorem answers_stored {s : State} {r : Reply} (h : s.answers r = true) :
    s.latestRequestLen ≠ 0 ∧ s.lastBrowseRequest.pid = r.client.pid ∧ s.lastBrowseRequest.srcIp = r.dstIp := by
  rw [State.answers] at h
  simp only [Bool.and_eq_true, bne_iff_ne, beq_iff_eq] at h
  obtain ⟨⟨⟨-, hlen⟩, hpid⟩, hip⟩ := h
  exact ⟨hlen, hpid, hip⟩

/-- A reply that answers is recorded: the buffers are there. -/
theorem Stored.mirror {s : State} (h : Stored s) {r : Reply} (hanswers : s.answers r = true)
    (mallocs : Option Buffers) : ∃ b, s.buffers = some b ∧
      s.mirrorLanPayload mallocs r =
        if s.isFirst r then (s.recordLatest b r.data).recordFirst r else s.recordLatest b r.data := by
  obtain ⟨b, hb⟩ := Option.ne_none_iff_exists'.mp (h.allocated (answers_stored hanswers).1)
  refine ⟨b, hb, ?_⟩
  rw [State.mirrorLanPayload, if_pos hanswers, State.ensurePiaCaptureBuffersLocked, hb, Option.some_or]

theorem Stored.records_eq {s : State} (h : Stored s) (mallocs : Option Buffers) (r : Reply) :
    s.records mallocs r = s.answers r := by
  rw [State.records]
  cases hanswers : s.answers r with
  | false => rfl
  | true =>
    obtain ⟨b, hb, -⟩ := h.mirror hanswers mallocs
    rw [State.ensurePiaCaptureBuffersLocked, hb, Option.some_or, Option.isSome_some, Bool.true_and]

theorem Stored.mirror_same {s : State} (h : Stored s) (mallocs : Option Buffers) (r : Reply) :
    SameRequest s (s.mirrorLanPayload mallocs r) := by
  by_cases hanswers : s.answers r = true
  · obtain ⟨b, hb, hmirror⟩ := h.mirror hanswers mallocs
    have hlatest := recordLatest_same hb r.data
    rw [hmirror]
    split
    · exact hlatest.trans (recordFirst_same _ r)
    · exact hlatest
  · rw [State.mirrorLanPayload, if_neg hanswers]
    exact ⟨rfl, rfl, id, rfl⟩

theorem Inv.closed {es : List Event} {s : State} (h : Inv es s) (client : Client) (fd : Int) :
    Inv (es ++ [.close client fd]) (s.forgetLanSocket client fd) := by
  unfold State.forgetLanSocket
  extract_lets boundPort t
  split
  · exact Stored.unnoted ⟨fun hne => absurd rfl hne, Nat.zero_le _⟩ rfl _
  · exact h.same (sameRequest_table s _) fun _ _ => rfl

theorem Inv.reaped {es : List Event} {s : State} (h : Inv es s) (client : Client) :
    Inv (es ++ [.reap client]) (s.forgetLanSocketsForPid client) := by
  unfold State.forgetLanSocketsForPid
  extract_lets t
  split
  · apply Stored.unnoted
    · exact ⟨h.allocated, h.fits⟩
    · rfl
  · exact h.same (sameRequest_table s _) fun _ _ => rfl

theorem Inv.step {es : List Event} {s : State} (h : Inv es s) (e : Event) : Inv (es ++ [e]) (step s e) := by
  cases e with
  | socket client fd => exact h.same (sameRequest_table s _) fun _ _ => rfl
  | bind client fd port => exact h.same (sameRequest_table s _) fun _ _ => rfl
  | receive client fd data srcIp srcPort mallocs => exact h.received mallocs client fd data srcIp srcPort
  | send r mallocs => exact h.same (h.mirror_same mallocs r) fun _ _ => rfl
  | close client fd => exact h.closed client fd
  | reap client => exact h.reaped client

theorem run_inv (es : List Event) : Inv es (run es) := by
  induction es using List.reverseRecOn with
  | nil => exact ⟨⟨fun h => absurd rfl h, Nat.zero_le _⟩, fun h => absurd rfl h⟩
  | append_singleton es e ih =>
    rw [run_concat]
    exact ih.step e

/-! ### Pairs -/

/-- What the send records is the most recent request that its process received from its destination. -/
def Paired (es : List Event) (r : Reply) (mallocs : Option Buffers) : Prop :=
  let recorded := (run es).mirrorLanPayload mallocs r
  (run es).records mallocs r = true →
    mostRecentRequest r.client.pid r.dstIp es = some recorded.captureRequest ∧
      ((run es).isFirst r = true → mostRecentRequest r.client.pid r.dstIp es = some recorded.firstRequest)

/-- The request that the reply answers could be stored. -/
def AnswerFits (es : List Event) (r : Reply) : Prop :=
  (run es).answers r = true →
    ∀ request, mostRecentRequest r.client.pid r.dstIp es = some request → request.length ≤ PiaPacketMax

theorem Stored.latest_length {s : State} (h : Stored s) : s.latestRequest.length ≤ PiaPacketMax := by
  rw [State.latestRequest, State.held]
  cases s.buffers with
  | none => exact Nat.zero_le _
  | some b =>
    dsimp only
    rw [Mem.bytes_length]
    exact h.fits

/-- Both recorded requests are the stored one. -/
theorem Stored.recorded {s : State} (h : Stored s) {r : Reply} (hanswers : s.answers r = true)
    (mallocs : Option Buffers) :
    (s.mirrorLanPayload mallocs r).captureRequest = s.latestRequest ∧
      (s.isFirst r = true → (s.mirrorLanPayload mallocs r).firstRequest = s.latestRequest) := by
  obtain ⟨b, hb, hmirror⟩ := h.mirror hanswers mallocs
  have hlatest := recordLatest_captured hb r.data
  rw [hmirror]
  by_cases hfirst : s.isFirst r = true
  · rw [if_pos hfirst, recordFirst_captured, recordFirst_first]
    exact ⟨hlatest, fun _ => (recordLatest_same hb r.data).bytes⟩
  · rw [if_neg hfirst]
    exact ⟨hlatest, fun h => absurd h hfirst⟩

theorem paired_iff (es : List Event) (r : Reply) (mallocs : Option Buffers) :
    Paired es r mallocs ↔ AnswerFits es r := by
  have hinv := run_inv es
  rw [Paired, AnswerFits, hinv.records_eq mallocs r]
  refine forall_congr' fun hanswers => ?_
  obtain ⟨hlen, hpid, hip⟩ := answers_stored hanswers
  obtain ⟨hcapture, hfirst⟩ := hinv.recorded hanswers mallocs
  obtain ⟨request, hrecent, hbytes⟩ := hinv.noted (by rw [hpid]; exact r.client.nonzero)
  rw [hpid, hip] at hrecent
  rw [hrecent, hcapture]
  constructor
  · intro hpaired other hother
    obtain rfl := Option.some.inj hother
    rw [Option.some.inj hpaired.1]
    exact hinv.latest_length
  · intro hfits
    have hlatest := hbytes (hfits request rfl) hlen
    exact ⟨by rw [hlatest], fun h => by rw [hfirst h, hlatest]⟩

/-- **A recorded request is the one that the reply answers**, in every run, exactly when each
recorded reply answers a request that could be stored. -/
theorem captures_paired_iff (es : List Event) :
    (∀ before r mallocs, before ++ [.send r mallocs] <+: es → Paired before r mallocs) ↔
      ∀ before r mallocs, before ++ [.send r mallocs] <+: es → AnswerFits before r := by
  refine forall_congr' fun before => forall_congr' fun r => forall_congr' fun mallocs => ?_
  exact imp_congr_right fun _ => paired_iff before r mallocs

theorem browseRequest_zeros {n : Nat} (h : 47 ≤ n) : browseRequest (List.replicate n 0) 30000 = true := by
  have hmem : Mem.ofBytes (List.replicate n 0) = fun _ => 0 := by
    funext i
    simp only [Mem.ofBytes, List.getD_eq_getElem?_getD, List.getElem?_replicate]
    split <;> rfl
  have hoffset : challengeOffset (List.replicate n 0) = 5 := by
    rw [challengeOffset, hmem]
    rfl
  have hhead : (List.replicate n (0 : U8)).head? = some 0 := by
    rw [List.head?_replicate, if_neg (by omega)]
  simp only [browseRequest, hoffset, hhead, List.length_replicate, Bool.and_eq_true, decide_eq_true_eq,
    beq_self_eq_true, and_true]
  omega

/-- A request of 1365 bytes behind one of 47: the reply is recorded with the earlier one. -/
theorem long_request_mispaired : ¬∀ es before : List Event, ∀ r mallocs,
    before ++ [.send r mallocs] <+: es → Paired before r mallocs := by
  intro h
  let client : Client := ⟨1, by decide⟩
  let request := fun n => Event.receive client 3 (List.replicate n 0) 0x0A931401 30000
    (some ⟨Mem.zero, Mem.zero, Mem.zero, Mem.zero, Mem.zero⟩)
  let r : Reply := ⟨client, 0x0A931401, 30000, [1, 0, 0, 0, 0]⟩
  have hpaired := h _ ([request 47] ++ [request 1365]) r none (List.prefix_refl _)
  have hrecent : mostRecentRequest client.pid r.dstIp ([request 47] ++ [request 1365]) =
      some (List.replicate 1365 0) := by
    rw [mostRecentRequest_concat, requestFrom, if_pos ⟨rfl, rfl, browseRequest_zeros (by decide)⟩, Option.some_or]
  have hlen := (paired_iff _ r none).mp hpaired (by decide +kernel) _ hrecent
  rw [List.length_replicate] at hlen
  exact absurd hlen (by decide)

end SysZerotier.Mitm.BrowseCaptures
