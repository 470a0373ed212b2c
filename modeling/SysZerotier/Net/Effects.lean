import SysZerotier.Net.Receive

/-! What each operation of the interface may change.

A step is described once, by the fields it can touch; every invariant is then
read off the description instead of the operation's branches. The counters are
never constrained, except that only `pushToSocket` counts a missing buffer. -/
namespace SysZerotier.Net.VNet

/-- Transmitting: the IP id and the counters. -/
structure Sends (s t : VNet) : Prop where
  eq : t = { s with ipId := t.ipId, stats := t.stats }
  refused : t.stats.dropNoBuffer = s.stats.dropNoBuffer

/-- Taking in an IPv4 or ARP packet: the ARP cache, the clock, the reassembly
slots and the counters. -/
structure Hears (s t : VNet) : Prop where
  eq : t = { s with arp := t.arp, tick := t.tick, reasm := t.reasm, stats := t.stats }
  refused : t.stats.dropNoBuffer = s.stats.dropNoBuffer

theorem Sends.refl (s : VNet) : Sends s s := ⟨rfl, rfl⟩

theorem Sends.trans {s t u : VNet} (h : Sends s t) (h' : Sends t u) : Sends s u := by
  refine ⟨?_, h'.refused.trans h.refused⟩
  have h1 := h'.eq
  rw [h.eq] at h1
  exact h1

theorem Hears.refl (s : VNet) : Hears s s := ⟨rfl, rfl⟩

theorem Hears.trans {s t u : VNet} (h : Hears s t) (h' : Hears t u) : Hears s u := by
  refine ⟨?_, h'.refused.trans h.refused⟩
  have h1 := h'.eq
  rw [h.eq] at h1
  exact h1

theorem sends_count (s : VNet) (f : Stats → Stats) (h : (f s.stats).dropNoBuffer = s.stats.dropNoBuffer) :
    Sends s (s.count f) := ⟨rfl, h⟩

theorem hears_count (s : VNet) (f : Stats → Stats) (h : (f s.stats).dropNoBuffer = s.stats.dropNoBuffer) :
    Hears s (s.count f) := ⟨rfl, h⟩

/-! ### Transmit -/

theorem emitIpFragment_sends (s : VNet) (dstMac : U64) (dstIp : U32) (proto : U8) (id off : U16)
    (more : Bool) (payload : Mem) (len : Nat) :
    Sends s (s.emitIpFragment dstMac dstIp proto id off more payload len).1 := by
  unfold emitIpFragment
  split
  · exact .refl s
  · split
    · exact ⟨rfl, rfl⟩
    · exact ⟨rfl, rfl⟩

theorem sendFragments_sends (dstMac : U64) (dstIp : U32) (proto : U8) (id : U16) (payload : Mem)
    (len chunk fuel : Nat) (s : VNet) (off : Nat) :
    Sends s (sendFragments dstMac dstIp proto id payload len chunk fuel s off).1 := by
  induction fuel generalizing s off with
  | zero => exact .refl s
  | succ fuel ih =>
    unfold sendFragments
    split
    · exact (emitIpFragment_sends s ..).trans (ih _ _)
    · exact .refl s

theorem sendArpRequest_sends (s : VNet) (ip : U32) : Sends s (s.sendArpRequest ip).1 := by
  unfold sendArpRequest
  split
  · exact .refl s
  · exact ⟨rfl, rfl⟩

theorem sendIpv4_sends (s : VNet) (dstIp : U32) (proto : U8) (payload : Mem) (len : Nat) :
    Sends s (s.sendIpv4 dstIp proto payload len).1 := by
  have hid : Sends s { s with ipId := s.ipId + 1 } := ⟨rfl, rfl⟩
  unfold sendIpv4
  dsimp only
  split
  · exact sendArpRequest_sends s dstIp
  · split
    · exact hid.trans (emitIpFragment_sends ..)
    · exact hid.trans (sendFragments_sends ..)

theorem onIcmp_sends (s : VNet) (srcIp : U32) (p : Mem) (len : Nat) :
    Sends s (s.onIcmp srcIp p len).1 := by
  have h := sends_count s (fun t => { t with rxIcmp := t.rxIcmp + 1 }) rfl
  unfold onIcmp
  dsimp only
  split
  · exact h
  · split
    · exact h.trans ⟨rfl, rfl⟩
    · split
      · exact h.trans ⟨rfl, rfl⟩
      · exact (h.trans (sendIpv4_sends ..)).trans ⟨rfl, rfl⟩

/-! ### Receive -/

theorem learnMac_hears (s : VNet) (ip : U32) (mac : U64) : Hears s (s.learnMac ip mac) := by
  unfold learnMac
  split
  · exact .refl s
  · split <;> exact ⟨rfl, rfl⟩

theorem learnMac_reasm (s : VNet) (ip : U32) (mac : U64) : (s.learnMac ip mac).reasm = s.reasm := by
  unfold learnMac
  split
  · rfl
  · split <;> rfl

theorem learnMac_count (s : VNet) (f : Stats → Stats) (ip : U32) (mac : U64) :
    (s.count f).learnMac ip mac = (s.learnMac ip mac).count f := by
  have hscan : learnScan (s.count f).arp ip (List.range ArpEntries) 0 =
      learnScan s.arp ip (List.range ArpEntries) 0 := rfl
  unfold learnMac
  rw [hscan]
  split
  · rfl
  · split <;> rfl

theorem reassemble_hears (s : VNet) (srcIp dstIp : U32) (id : U16) (proto : U8) (off : U16)
    (more : Bool) (payload : Mem) (plen : Nat) :
    Hears s (s.reassemble srcIp dstIp id proto off more payload plen).1 := by
  unfold reassemble
  dsimp only
  split_ifs <;> exact ⟨rfl, rfl⟩

theorem ipv4Input_hears (s : VNet) (srcMac : U64) (p : Mem) (len : Nat) :
    Hears s (s.ipv4Input srcMac p len).1 := by
  have h := hears_count s (fun t => { t with rxIp := t.rxIp + 1 }) rfl
  have hm := h.trans (hears_count _ (fun t => { t with dropMalformed := t.dropMalformed + 1 }) rfl)
  unfold ipv4Input
  dsimp only
  split
  · exact hm
  · split
    · exact hm
    · split
      · exact h.trans ⟨rfl, rfl⟩
      · split
        · exact hm
        · split
          · exact h.trans ⟨rfl, rfl⟩
          · have hl := h.trans (learnMac_hears _ (rd32 p Ip4.Src) srcMac)
            split
            · exact hl
            · exact hl.trans (reassemble_hears ..)

/-- An ARP packet teaches a MAC and may be answered. -/
theorem onArp_effect (s : VNet) (srcMac : U64) (p : Mem) (len : Nat) :
    Hears s (s.onArp srcMac p len).1 := by
  have h := hears_count s (fun t => { t with rxArp := t.rxArp + 1 }) rfl
  unfold onArp
  dsimp only
  generalize (if macFromBytes (p.advance Arp4.SenderMac) ≠ 0 then macFromBytes (p.advance Arp4.SenderMac)
    else srcMac) = mac
  split
  · exact h.trans ⟨rfl, rfl⟩
  · split
    · exact h
    · split
      · exact h
      · have hl := h.trans (learnMac_hears _ (rd32 p Arp4.SenderIp) mac)
        split
        · exact hl
        · split
          · exact hl
          · exact hl.trans ⟨rfl, rfl⟩

theorem onArp_reasm (s : VNet) (srcMac : U64) (p : Mem) (len : Nat) :
    (s.onArp srcMac p len).1.reasm = s.reasm := by
  unfold onArp
  dsimp only
  generalize (if macFromBytes (p.advance Arp4.SenderMac) ≠ 0 then macFromBytes (p.advance Arp4.SenderMac)
    else srcMac) = mac
  split
  · rfl
  · split
    · rfl
    · split
      · rfl
      · split
        · exact learnMac_reasm ..
        · split
          · exact learnMac_reasm ..
          · exact learnMac_reasm ..

/-- A frame that does not reach `onIpv4` is heard at most. -/
theorem onFrame_other {s : VNet} {dstMac : U64} {etherType : U16} {payload : List U8}
    (h : ¬s.takesIpv4 dstMac etherType payload = true) (srcMac : U64) :
    Hears s (s.onFrame srcMac dstMac etherType payload).1 ∧
      (s.onFrame srcMac dstMac etherType payload).1.reasm = s.reasm := by
  have hrx := hears_count s (fun t => { t with rxFrames := t.rxFrames + 1 }) rfl
  unfold onFrame
  dsimp only
  split
  · exact ⟨hrx, rfl⟩
  · rename_i hidle
    split
    · exact ⟨hrx.trans ⟨rfl, rfl⟩, rfl⟩
    · rename_i hmac
      split
      · exact ⟨hrx.trans (onArp_effect ..), onArp_reasm ..⟩
      · split
        · rename_i hip
          refine absurd ?_ h
          have hidle' : ¬(!s.configured || payload.isEmpty) = true := hidle
          have hmac' : ¬(dstMac ≠ s.mac ∧ dstMac ≠ MacBroadcast) := hmac
          simp only [Bool.or_eq_true, Bool.not_eq_true', not_or, Bool.not_eq_false, Bool.not_eq_true] at hidle'
          rw [not_and_or, not_ne_iff, not_ne_iff] at hmac'
          simp only [takesIpv4, hidle'.1, hidle'.2, hip, Bool.and_eq_true, Bool.or_eq_true, beq_iff_eq,
            Bool.not_false, and_self, and_true, true_and]
          exact hmac'
        · exact ⟨hrx, rfl⟩

/-! ### The socket calls and reassembly -/

/-- The reassembly slots and the configuration stand still. -/
structure Still (s t : VNet) : Prop where
  reasm : t.reasm = s.reasm
  mtu : t.mtu = s.mtu
  configured : t.configured = s.configured

theorem Still.refl (s : VNet) : Still s s := ⟨rfl, rfl, rfl⟩

theorem Still.trans {s t u : VNet} (h : Still s t) (h' : Still t u) : Still s u :=
  ⟨h'.reasm.trans h.reasm, h'.mtu.trans h.mtu, h'.configured.trans h.configured⟩

theorem Sends.still {s t : VNet} (h : Sends s t) : Still s t := by
  rw [h.eq]
  exact ⟨rfl, rfl, rfl⟩

theorem Hears.mtu {s t : VNet} (h : Hears s t) : t.mtu = s.mtu := by rw [h.eq]

theorem Hears.configured {s t : VNet} (h : Hears s t) : t.configured = s.configured := by rw [h.eq]

theorem udpOpen_still (s : VNet) : Still s s.udpOpen.1 := by
  unfold udpOpen
  split <;> exact ⟨rfl, rfl, rfl⟩

theorem udpBind_still (s : VNet) (vfd : Int) (ip : U32) (port : U16) : Still s (s.udpBind vfd ip port).1 := by
  unfold udpBind
  dsimp only
  split_ifs <;> exact ⟨rfl, rfl, rfl⟩

theorem udpSetBroadcast_still (s : VNet) (vfd : Int) (on : Bool) : Still s (s.udpSetBroadcast vfd on) := by
  unfold udpSetBroadcast
  split <;> exact ⟨rfl, rfl, rfl⟩

theorem udpSendTo_still (s : VNet) (vfd : Int) (dstIp : U32) (dstPort : U16) (buf : Mem) (len : Nat) :
    Still s (s.udpSendTo vfd dstIp dstPort buf len).1 := by
  have hbind : Still s (s.implicitBind vfd).1 := by
    unfold implicitBind
    split
    · exact udpBind_still ..
    · exact .refl s
  unfold udpSendTo
  dsimp only
  split
  · exact .refl s
  · split
    · exact .refl s
    · split
      · exact ⟨rfl, rfl, rfl⟩
      · split
        · exact hbind
        · exact (hbind.trans (sendIpv4_sends ..).still).trans ⟨rfl, rfl, rfl⟩

theorem sendEchoRequest_still (s : VNet) (dstIp : U32) : Still s (s.sendEchoRequest dstIp).1 := by
  have hseq : Still s { s with echoSeq := s.echoSeq + 1 } := ⟨rfl, rfl, rfl⟩
  unfold sendEchoRequest
  dsimp only
  split
  · exact .refl s
  · exact (hseq.trans (sendIpv4_sends ..).still).trans ⟨rfl, rfl, rfl⟩

theorem freePkt_still (s : VNet) (idx : Int) : Still s (s.freePkt idx) := by
  unfold freePkt
  split <;> exact ⟨rfl, rfl, rfl⟩

theorem freeQueue_still (fuel : Nat) (s : VNet) (idx : Int) : Still s (s.freeQueue fuel idx) := by
  induction fuel generalizing s idx with
  | zero => exact .refl s
  | succ fuel ih =>
    unfold freeQueue
    split
    · exact .refl s
    · exact (freePkt_still s idx).trans (ih ..)

theorem udpClose_still (s : VNet) (vfd : Int) : Still s (s.udpClose vfd) := by
  unfold udpClose
  split
  · exact .refl s
  · exact (freeQueue_still PoolPackets s (s.socks vfd.toNat).qHead).trans ⟨rfl, rfl, rfl⟩

theorem udpRecvFrom_still (s : VNet) (vfd : Int) (max : Nat) (peek : Bool) :
    Still s (s.udpRecvFrom vfd max peek).1 := by
  unfold udpRecvFrom
  dsimp only
  split
  · exact .refl s
  · split
    · exact .refl s
    · split
      · exact .refl s
      · exact ⟨(freePkt_still ..).reasm, (freePkt_still ..).mtu, (freePkt_still ..).configured⟩

end SysZerotier.Net.VNet
