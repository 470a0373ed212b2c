import SysZerotier.Port.Status

/-! The list of peers (`Port::writePeers` in `source/zt_port.cpp`).

The list is printed line by line into one buffer, and two loops stop when what is left of
it is small. Whether a line still fits is not checked: `peers_written` is that the lines
are short enough for what the loops leave, so that the file is the beginning of the report,
in whole lines, and nothing is written behind the buffer. -/
namespace SysZerotier.Port
open Net Library Config

/-! ### Printing into a buffer -/

/-- What a buffer holds, and how much was to be printed into it. -/
structure Buffer where
  text : Text
  off : Nat

/-- `off += snprintf(text + off, size - off, …)`. With `off` past the end there is no telling
what is written. -/
def Buffer.print (size : Nat) (b : Buffer) (piece : Text) : Option Buffer :=
  if size < b.off then none
  else some ⟨b.text ++ piece.take (size - b.off - 1), b.off + piece.length⟩

/-- `text[off] = '\0'`, and what the buffer holds then. -/
def Buffer.finish (size : Nat) (b : Buffer) : Option Text := if b.off < size then some b.text else none

/-! ### The list -/

/-- `ZT_PeerPhysicalPath`; the four bytes of the address are in host order. -/
structure Path where
  ip : U32
  port : U16
  expired : U32
  preferred : U32
  lastSend : U64
  lastReceive : U64

/-- `ZT_Peer`, with the paths it counts. -/
structure Peer where
  address : U64
  role : U32
  latency : U32
  versionMajor : U32
  versionMinor : U32
  versionRev : U32
  paths : List Path

/-- `char text[1536]` -/
def peersSize : Nat := 1536

def peersLine (count : Nat) (now startedMs : U64) : Text :=
  ascii "peers " ++ dec (BitVec.ofNat 32 count).toNat ++ ascii "   (uptime " ++ dec ((now - startedMs).toNat / 1000) ++
    ascii " s)"

def peerLine (p : Peer) : Text :=
  hexText 10 p.address ++ ascii " role " ++ signed p.role.toInt ++ ascii "  latency " ++ signed p.latency.toInt ++
    ascii "  paths " ++ dec (BitVec.ofNat 32 p.paths.length).toNat ++ ascii "  v" ++ signed p.versionMajor.toInt ++
    ascii "." ++ signed p.versionMinor.toInt ++ ascii "." ++ signed p.versionRev.toInt

/-- How long ago, in milliseconds. -/
def ago (now stamp : U64) : Int := if stamp = 0 then -1 else (now - stamp).toInt

def pathLine (now : U64) (q : Path) : Text :=
  ascii "    " ++ dotted q.ip ++ ascii ":" ++ dec q.port.toNat ++ ascii "  expired " ++ signed q.expired.toInt ++
    ascii " preferred " ++ signed q.preferred.toInt ++ ascii "  lastSend " ++ signed (ago now q.lastSend) ++
    ascii " ms  lastRecv " ++ signed (ago now q.lastReceive) ++ ascii " ms"

/-- A line, with its end. -/
def ended (line : Text) : Text := line ++ [10]

def printPaths (now : U64) (b : Buffer) : List Path → Option Buffer
  | [] => some b
  | q :: qs =>
    if b.off + 128 < peersSize then (b.print peersSize (ended (pathLine now q))).bind (printPaths now · qs) else some b

def printPeers (now : U64) (b : Buffer) : List Peer → Option Buffer
  | [] => some b
  | p :: ps =>
    if b.off + 256 < peersSize then do
      let b ← b.print peersSize (ended (peerLine p))
      let b ← printPaths now b p.paths
      printPeers now b ps
    else some b

/-- What the file gets; `none` is a write behind the buffer. -/
def peersText (now startedMs : U64) (peers : List Peer) : Option Text := do
  let b ← Buffer.print peersSize ⟨[], 0⟩ (ended (peersLine peers.length now startedMs))
  let b ← printPeers now b peers
  b.finish peersSize

/-! ### What is printed -/

/-- The whole report. -/
def peersReport (now startedMs : U64) (peers : List Peer) : List Text :=
  peersLine peers.length now startedMs ::
    peers.flatMap fun p => peerLine p :: p.paths.map (pathLine now)

theorem signed_prints64 (v : U64) : Prints 20 (signed v.toInt) :=
  signed_prints (by decide) (by have := v.toInt_lt; have := v.le_toInt; omega)

theorem ago_prints (now stamp : U64) : Prints 20 (signed (ago now stamp)) := by
  rw [ago]
  split
  · decide +kernel
  · exact signed_prints64 _

theorem peersLine_prints (count : Nat) (now startedMs : U64) : Prints 51 (peersLine count now startedMs) := by
  have hpeers : Prints 6 (ascii "peers ") := by decide +kernel
  have huptime : Prints 20 (dec ((now - startedMs).toNat / 1000)) :=
    dec_prints (by decide) (by have := (now - startedMs).isLt; omega)
  exact hpeers |>.append (dec_prints32 _) |>.append (m := 12) (by decide +kernel) |>.append huptime
    |>.append (m := 3) (by decide +kernel)

theorem peerLine_prints (p : Peer) : Prints 110 (peerLine p) :=
  hexText_prints (by decide) _ |>.append (m := 6) (by decide +kernel) |>.append (signed_prints32 _)
    |>.append (m := 10) (by decide +kernel) |>.append (signed_prints32 _) |>.append (m := 8) (by decide +kernel)
    |>.append (dec_prints32 _) |>.append (m := 3) (by decide +kernel) |>.append (signed_prints32 _)
    |>.append (m := 1) (by decide +kernel) |>.append (signed_prints32 _) |>.append (m := 1) (by decide +kernel)
    |>.append (signed_prints32 _)

/-- The two flags of a path. -/
def IsFlag (v : U32) : Prop := v = 0 ∨ v = 1

theorem flag_prints {v : U32} (h : IsFlag v) : Prints 1 (signed v.toInt) := by
  rcases h with rfl | rfl <;> decide +kernel

theorem pathLine_prints (now : U64) {q : Path} (hexpired : IsFlag q.expired) (hpreferred : IsFlag q.preferred) :
    Prints 116 (pathLine now q) := by
  have hblank : Prints 4 (ascii "    ") := by decide +kernel
  exact hblank |>.append (dotted_prints _) |>.append (m := 1) (by decide +kernel) |>.append (dec_prints16 _)
    |>.append (m := 10) (by decide +kernel) |>.append (flag_prints hexpired) |>.append (m := 11) (by decide +kernel)
    |>.append (flag_prints hpreferred) |>.append (m := 11) (by decide +kernel) |>.append (ago_prints now _)
    |>.append (m := 14) (by decide +kernel) |>.append (ago_prints now _) |>.append (m := 3) (by decide +kernel)

/-! ### What is written -/

/-- A buffer that holds all that was to be printed into it. -/
def Buffer.whole (text : Text) : Buffer := ⟨text, text.length⟩

/-- A line that is short enough for what is left. -/
theorem print_whole {n : Nat} {text line : Text} (hprints : Prints n line) (hroom : text.length + n + 1 < peersSize) :
    (Buffer.whole text).print peersSize (ended line) = some (.whole (text ++ ended line)) := by
  have hlen : (ended line).length ≤ n + 1 := by
    rw [ended, List.length_append, List.length_singleton]
    exact Nat.succ_le_succ hprints.1
  have hinside : ¬peersSize < text.length := by omega
  have hfits : (ended line).length ≤ peersSize - text.length - 1 := by omega
  rw [Buffer.print, Buffer.whole, if_neg hinside, List.take_of_length_le hfits, Buffer.whole, List.length_append]

/-- The lines that are printed before a loop stops: all of them, or as many as leave less than
`slack`. -/
structure Printed (slack : Nat) (text : Text) (lines : List Text) (b : Buffer) : Prop where
  count : ∃ k, b = .whole (text ++ page 10 (lines.take k)) ∧
    (k < lines.length → peersSize ≤ (text ++ page 10 (lines.take k)).length + slack)
  fits : b.off < peersSize

theorem page_cons (line : Text) (lines : List Text) : page 10 (line :: lines) = ended line ++ page 10 lines := rfl

theorem Printed.none {slack : Nat} {text : Text} {lines : List Text} (hfits : text.length < peersSize)
    (hstop : lines = [] ∨ peersSize ≤ text.length + slack) : Printed slack text lines (.whole text) where
  count := by
    refine ⟨0, by rw [List.take_zero, page, List.flatMap_nil, List.append_nil], fun hmore => ?_⟩
    rw [List.take_zero, page, List.flatMap_nil, List.append_nil]
    exact hstop.resolve_left (List.ne_nil_of_length_pos hmore)
  fits := hfits

theorem Printed.cons {slack : Nat} {text line : Text} {lines : List Text} {b : Buffer}
    (h : Printed slack (text ++ ended line) lines b) : Printed slack text (line :: lines) b where
  count := by
    obtain ⟨k, hb, hstop⟩ := h.count
    refine ⟨k + 1, ?_, fun hmore => ?_⟩
    · rw [List.take_succ_cons, page_cons, hb, List.append_assoc]
    · rw [List.take_succ_cons, page_cons, ← List.append_assoc]
      exact hstop (Nat.lt_of_succ_lt_succ hmore)
  fits := h.fits

theorem printPaths_printed (now : U64) {text : Text} (qs : List Path)
    (hflags : ∀ q ∈ qs, IsFlag q.expired ∧ IsFlag q.preferred) (hfits : text.length < peersSize) :
    ∃ b, printPaths now (.whole text) qs = some b ∧ Printed 128 text (qs.map (pathLine now)) b := by
  induction qs generalizing text with
  | nil => exact ⟨_, rfl, .none hfits (.inl rfl)⟩
  | cons q qs ih =>
    rw [printPaths]
    by_cases hroom : (Buffer.whole text).off + 128 < peersSize
    · have hroom' : text.length + 128 < peersSize := hroom
      obtain ⟨hq, hqs⟩ := List.forall_mem_cons.mp hflags
      have hprints := pathLine_prints now hq.1 hq.2
      have hfits' : (text ++ ended (pathLine now q)).length < peersSize := by
        have := hprints.1
        rw [ended, List.length_append, List.length_append, List.length_singleton]
        omega
      obtain ⟨b, hb, hprinted⟩ := ih hqs hfits'
      exact ⟨b, by rw [if_pos hroom, print_whole hprints (by omega)]; exact hb, hprinted.cons⟩
    · exact ⟨_, if_neg hroom, .none hfits (.inr (Nat.not_lt.mp hroom))⟩

theorem Printed.append {slack : Nat} {text : Text} (lines : List Text) {rest : List Text} {b : Buffer}
    (h : Printed slack (text ++ page 10 lines) rest b) : Printed slack text (lines ++ rest) b := by
  induction lines generalizing text with
  | nil => rwa [page, List.flatMap_nil, List.append_nil] at h
  | cons line lines ih =>
    rw [page_cons, ← List.append_assoc] at h
    exact (ih h).cons

/-- The loop over the peers stops where the loop over the paths of one did. -/
theorem Printed.stopped {text : Text} {lines rest : List Text} {b : Buffer} {k : Nat}
    (hb : b = .whole (text ++ page 10 (lines.take k))) (hk : k < lines.length)
    (hstop : peersSize ≤ (text ++ page 10 (lines.take k)).length + 128) (hfits : b.off < peersSize) :
    Printed 256 text (lines ++ rest) b where
  count := by
    have htake : (lines ++ rest).take k = lines.take k := List.take_append_of_le_length hk.le
    exact ⟨k, by rw [htake]; exact hb, fun _ => by rw [htake]; omega⟩
  fits := hfits

theorem printPeers_printed (now : U64) {text : Text} (ps : List Peer)
    (hflags : ∀ p ∈ ps, ∀ q ∈ p.paths, IsFlag q.expired ∧ IsFlag q.preferred) (hfits : text.length < peersSize) :
    ∃ b, printPeers now (.whole text) ps = some b ∧
      Printed 256 text (ps.flatMap fun p => peerLine p :: p.paths.map (pathLine now)) b := by
  induction ps generalizing text with
  | nil => exact ⟨_, rfl, .none hfits (.inl rfl)⟩
  | cons p ps ih =>
    rw [List.flatMap_cons, List.cons_append]
    by_cases hroom : (Buffer.whole text).off + 256 < peersSize
    · have hroom' : text.length + 256 < peersSize := hroom
      obtain ⟨hp, hps⟩ := List.forall_mem_cons.mp hflags
      have hprints := peerLine_prints p
      have hfits' : (text ++ ended (peerLine p)).length < peersSize := by
        have := hprints.1
        rw [ended, List.length_append, List.length_append, List.length_singleton]
        omega
      obtain ⟨b, hb, hprinted⟩ := printPaths_printed now p.paths hp hfits'
      have hfirst : printPeers now (.whole text) (p :: ps) = printPeers now b ps := by
        rw [printPeers, if_pos hroom, print_whole hprints (by omega)]
        exact congrArg (·.bind (printPeers now · ps)) hb
      obtain ⟨k, hk, hstop⟩ := hprinted.count
      rw [hfirst]
      by_cases hmore : k < (p.paths.map (pathLine now)).length
      · have hfull : ¬b.off + 256 < peersSize := by
          have hlittle := hstop hmore
          rw [hk]
          dsimp only [Buffer.whole]
          omega
        have hends : printPeers now b ps = some b := by
          cases ps with
          | nil => rfl
          | cons _ _ => exact if_neg hfull
        exact ⟨b, hends, (Printed.stopped hk hmore (hstop hmore) hprinted.fits).cons⟩
      · rw [List.take_of_length_le (Nat.not_lt.mp hmore)] at hk
        have hinside : (text ++ ended (peerLine p) ++ page 10 (p.paths.map (pathLine now))).length < peersSize := by
          have := hprinted.fits
          rwa [hk] at this
        obtain ⟨b', hb', hprinted'⟩ := ih hps hinside
        exact ⟨b', by rw [hk]; exact hb', (Printed.append _ hprinted').cons⟩
    · exact ⟨_, if_neg hroom, .none hfits (.inr (Nat.not_lt.mp hroom))⟩

/-- **The file is the beginning of the report, in whole lines.** It ends early only where at
most 256 bytes of the buffer are left, and nothing is ever written behind the buffer; the
flags of a path are 0 and 1. -/
theorem peers_written (now startedMs : U64) (peers : List Peer)
    (hflags : ∀ p ∈ peers, ∀ q ∈ p.paths, IsFlag q.expired ∧ IsFlag q.preferred) :
    ∃ k, peersText now startedMs peers = some (page 10 ((peersReport now startedMs peers).take k)) ∧
      (page 10 ((peersReport now startedMs peers).take k)).length < peersSize ∧
      (k < (peersReport now startedMs peers).length →
        peersSize ≤ (page 10 ((peersReport now startedMs peers).take k)).length + 256) := by
  have hprints := peersLine_prints peers.length now startedMs
  have hfits : (ended (peersLine peers.length now startedMs)).length < peersSize := by
    have := hprints.1
    rw [ended, List.length_append, List.length_singleton, peersSize]
    omega
  obtain ⟨b, hb, hprinted⟩ := printPeers_printed now peers hflags hfits
  have hall : Printed 256 [] (peersReport now startedMs peers) b := hprinted.cons
  obtain ⟨k, hk, hstop⟩ := hall.count
  rw [List.nil_append] at hk hstop
  have hinside := hall.fits
  refine ⟨k, ?_, ?_, hstop⟩
  · have hfirst : Buffer.print peersSize ⟨[], 0⟩ (ended (peersLine peers.length now startedMs)) =
        some (.whole (ended (peersLine peers.length now startedMs))) :=
      print_whole hprints (by decide)
    rw [peersText, hfirst]
    refine (congrArg (·.bind (·.finish peersSize)) hb).trans ?_
    refine (if_pos hinside).trans ?_
    rw [hk, Buffer.whole]
  · rwa [hk] at hinside

/-- A peer with one path, which was used once. -/
def lonePeer : Peer where
  address := 0x1122334455
  role := 0
  latency := 12
  versionMajor := 1
  versionMinor := 14
  versionRev := 0
  paths := [⟨0x0A000001, 9993, 0, 1, 1000, 0⟩]

theorem peers_written_lone :
    ∃ k, peersText 5000 1000 [lonePeer] = some (page 10 ((peersReport 5000 1000 [lonePeer]).take k)) ∧
      (page 10 ((peersReport 5000 1000 [lonePeer]).take k)).length < peersSize ∧
      (k < (peersReport 5000 1000 [lonePeer]).length →
        peersSize ≤ (page 10 ((peersReport 5000 1000 [lonePeer]).take k)).length + 256) := by
  apply peers_written
  simp [lonePeer, IsFlag]

end SysZerotier.Port
