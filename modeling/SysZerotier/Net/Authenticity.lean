import SysZerotier.Net.Segment
import SysZerotier.Net.Demux

/-! Nothing is received that was not sent.

Datagrams that need not be cut reach a socket as they were sent: whatever the network
loses, delays or hands over twice, what a socket holds is what some console was told
to send, and bears that console's address (`received_sent`). Pieces of cut datagrams
are told apart by a 16-bit id only, so nothing of the kind holds of those. -/
namespace SysZerotier.Net
open Library VNet

variable {n : Nat} {r : Roster n}

/-- Every operation leaves room for `size` bytes in one packet and sends no more than
that, and only what `sent` has. -/
def Roster.Whole (size : Nat) (sent : Fin n → List U8 → Prop) (i : Fin n) : Op → Prop
  | .configure _ _ _ mtu => Ip4.MinHeader + (Udp4.Header + size) ≤ mtu.toNat
  | .udpSendTo _ _ _ buf => buf.length ≤ size ∧ sent i buf
  | _ => True

/-- A datagram some console sent. -/
def FromSender (r : Roster n) (sent : Fin n → List U8 → Prop) (d : Datagram) : Prop :=
  ∃ k, d.srcIp = r.ip k ∧ sent k d.bytes

/-- The socket queues hold what was sent. -/
structure Faithful (r : Roster n) (size : Nat) (sent : Fin n → List U8 → Prop) (i : Fin n) (s : VNet) :
    Prop where
  truthful : Truthful r i s
  room : Ip4.MinHeader + (Udp4.Header + size) ≤ s.mtu.toNat
  queued : ∃ b, Models s b ∧ b.Among (FromSender r sent)

/-- A frame that holds a whole datagram of its sender, if it holds UDP. -/
structure Carried (r : Roster n) (sent : Fin n → List U8 → Prop) (j : Fin n) (m : OnAir) : Prop where
  genuine : Genuine r j m
  datagram : m.frame.etherType = EtherType_IPv4 → Mem.ofBytes m.frame.payload Ip4.Proto = IpProto_UDP →
    ∃ k srcPort dstPort buf dstIp id, sent k buf ∧ buf.length ≤ MaxDatagram ∧
      Built (r.ip k) dstIp IpProto_UDP id 0 false
        (wr16 (udpDatagram srcPort dstPort (Mem.ofBytes buf) buf.length) Udp4.Csum (udpChecksum (r.ip k) dstIp
          (udpDatagram srcPort dstPort (Mem.ofBytes buf) buf.length) (Udp4.Header + buf.length)))
        (Udp4.Header + buf.length) m.frame.payload

variable {size : Nat} {sent : Fin n → List U8 → Prop}

theorem exec_carried {i : Fin n} {s : VNet} (h : Faithful r size sent i s) {op : Op} (ha : r.Allowed i op)
    (hw : Roster.Whole size sent i op) {f : Frame} (hf : f ∈ (s.exec op).2.frames)
    (hip : f.etherType = EtherType_IPv4) (hudp : Mem.ofBytes f.payload Ip4.Proto = IpProto_UDP) :
    ∃ srcPort dstPort buf dstIp id, sent i buf ∧ buf.length ≤ MaxDatagram ∧
      Built (r.ip i) dstIp IpProto_UDP id 0 false
        (wr16 (udpDatagram srcPort dstPort (Mem.ofBytes buf) buf.length) Udp4.Csum (udpChecksum (r.ip i) dstIp
          (udpDatagram srcPort dstPort (Mem.ofBytes buf) buf.length) (Udp4.Header + buf.length)))
        (Udp4.Header + buf.length) f.payload := by
  have hframe : ∀ srcMac dstMac etherType payload, op ≠ .onFrame srcMac dstMac etherType payload := by
    intro srcMac dstMac etherType payload hop
    rw [hop] at ha
    exact ha
  obtain ⟨hconf, ⟨ip, rfl⟩ | ⟨vfd, dstIp, dstPort, buf, rfl, hlen, srcPort, off, more, data, len, hp, hwhole⟩ |
    ⟨dstIp, data, hp⟩⟩ := exec_emits h.truthful.mtu hframe hf
  · exact absurd hip (show EtherType_ARP ≠ EtherType_IPv4 by decide)
  · obtain ⟨hsize, hsent⟩ := hw
    have hroom := h.room
    obtain ⟨rfl, rfl, rfl, rfl⟩ := hwhole (by omega)
    obtain ⟨id, hbuilt⟩ := hp.built
    rw [(h.truthful.own hconf).2] at hbuilt
    exact ⟨srcPort, dstPort, buf, dstIp, id, hsent, hlen, hbuilt⟩
  · obtain ⟨id, hbuilt⟩ := hp.built
    exact absurd (hbuilt.fields.proto.symm.trans hudp) (by decide)

/-- The datagram a frame brings is one its sender sent. -/
theorem arrival_sent {s : VNet} {m : OnAir} {j : Fin n} (hm : Carried r sent j m) {a : Arrival}
    (ha : s.arrival m.srcMac m.frame.dstMac m.frame.etherType m.frame.payload = some a) :
    FromSender r sent a.datagram := by
  unfold VNet.arrival at ha
  split at ha
  · rename_i htakes
    have hip : m.frame.etherType = EtherType_IPv4 := by
      simp only [takesIpv4, Bool.and_eq_true, beq_iff_eq] at htakes
      exact htakes.2
    obtain ⟨pkt, hpkt, harrival⟩ := Option.bind_eq_some_iff.mp ha
    have hudp : pkt.proto = IpProto_UDP := by
      by_contra hother
      rw [Packet.arrival, if_pos (.inl hother)] at harrival
      cases harrival
    have hproto : Mem.ofBytes m.frame.payload Ip4.Proto = IpProto_UDP := by
      rcases ipv4Input_host (s.count fun t => { t with rxFrames := t.rxFrames + 1 }) m.srcMac
        (Mem.ofBytes m.frame.payload) m.frame.payload.length with ⟨-, hnone⟩ | ⟨-, hsome⟩
      · rw [hnone] at hpkt
        cases hpkt
      · exact (hsome pkt hpkt).2.symm.trans hudp
    obtain ⟨k, srcPort, dstPort, buf, dstIp, id, hsent, hlen, hbuilt⟩ := hm.datagram hip hproto
    have hmax : MaxDatagram = 2048 := rfl
    have hhdr : Udp4.Header = 8 := rfl
    have hmin : Ip4.MinHeader = 20 := rfl
    obtain rfl := ipv4Input_whole hbuilt (by omega) hpkt
    obtain ⟨a', ha', -, -, hdatagram⟩ := arrival_of_bytes (show Udp4.Header + buf.length < 65536 by omega) hudp hbuilt.data
    obtain rfl := Option.some.inj (harrival.symm.trans ha')
    rw [hdatagram, Mem.bytes_ofBytes]
    exact ⟨k, rfl, hsent⟩
  · cases ha

/-! ### One console -/

theorem step_among {Q : Datagram → Prop} {b : Queues} (h : b.Among Q) {op : QueueOp}
    (hop : ∀ items, op = .arrive items → ∀ item ∈ items, Q item.2) : (b.step op).1.Among Q := by
  cases op with
  | reset =>
    intro k d hd
    cases hd
  | udpOpen =>
    dsimp only [Queues.step]
    split
    · exact h.shrink _ (some []) (Nat.zero_le _) (fun d hd => by cases hd)
    · exact h
  | udpClose vfd =>
    show ((socketOf vfd).elim b b.closed).Among Q
    cases socketOf vfd with
    | none => exact h
    | some k => exact h.shrink k none (Nat.zero_le _) (fun d hd => by cases hd)
  | udpRecvFrom vfd max peek =>
    show ((socketOf vfd).elim (b, ({ ret := -1 } : Seen)) fun k => Queues.recv b k max peek).1.Among Q
    cases socketOf vfd with
    | none => exact h
    | some k =>
      rw [Option.elim_some, Queues.recv]
      cases b.front k with
      | none => exact h
      | some d =>
        show (if peek then b else b.drop k).Among Q
        split
        · exact h
        · exact h.drop k
  | arrive items =>
    exact h.putAll fun item hitem => hop items rfl item (List.mem_of_mem_filter hitem)

/-- What the queues of an operation hold is what they held or what it brought. -/
theorem exec_among {s : VNet} {b : Queues} (h : Models s b) {Q : Datagram → Prop} (hb : b.Among Q) {op : Op}
    (hop : ∀ items, s.queueOp op = .arrive items → ∀ item ∈ items, Q item.2) :
    ∃ b', Models (s.exec op).1 b' ∧ b'.Among Q :=
  ⟨_, (exec_models h op).1, step_among hb hop⟩

theorem exec_faithful (hsize : Ip4.MinHeader + (Udp4.Header + size) ≤ 1500) {i : Fin n} {s : VNet}
    (h : Faithful r size sent i s) {op : Op} (ha : r.Allowed i op) (hw : Roster.Whole size sent i op) :
    Faithful r size sent i (s.exec op).1 where
  truthful := exec_truthful h.truthful ha
  room := by
    cases op with
    | onFrame srcMac dstMac etherType payload => exact ha.elim
    | reset => exact hsize
    | configure mac ip netmask mtu =>
      show _ ≤ (if 576 ≤ mtu.toNat ∧ mtu.toNat ≤ MaxFrame - 14 then mtu else 1500).toNat
      split
      · exact hw
      · exact hsize
    | _ =>
      refine le_of_le_of_eq h.room (congrArg BitVec.toNat (exec_sameHost s ?_ ?_ ?_).mtu.symm)
      · intro hop; cases hop
      · intro mac ip netmask mtu hop; cases hop
      · intro srcMac dstMac etherType payload hop; cases hop
  queued := by
    obtain ⟨b, hm, hb⟩ := h.queued
    refine exec_among hm hb fun items hitems => ?_
    cases op with
    | onFrame srcMac dstMac etherType payload => exact ha.elim
    | reset => cases hitems
    | udpOpen => cases hitems
    | udpClose vfd => cases hitems
    | udpRecvFrom vfd max peek => cases hitems
    | _ =>
      obtain rfl := QueueOp.arrive.inj hitems
      intro item hitem
      cases hitem

theorem onFrame_faithful {i : Fin n} {s : VNet} (h : Faithful r size sent i s) {m : OnAir}
    (hm : Carried r sent i m) :
    Faithful r size sent i (s.onFrame m.srcMac m.frame.dstMac m.frame.etherType m.frame.payload).1 where
  truthful := onFrame_truthful h.truthful hm.genuine
  room := by
    rw [onFrame_mtu]
    exact h.room
  queued := by
    obtain ⟨b, hmodels, hb⟩ := h.queued
    show ∃ b', Models (s.exec (.onFrame m.srcMac m.frame.dstMac m.frame.etherType m.frame.payload)).1 b' ∧ _
    refine exec_among hmodels hb fun items hitems item hitem => ?_
    obtain rfl := QueueOp.arrive.inj hitems
    unfold accepted at hitem
    split at hitem
    · cases hitem
    · rename_i a harrival
      obtain ⟨k, -, rfl⟩ := List.mem_map.mp hitem
      exact arrival_sent hm harrival

/-! ### The network -/

theorem consoles_faithful (hsize : Ip4.MinHeader + (Udp4.Header + size) ≤ 1500) :
    Parties.Local r.consoles (fun i op => r.Allowed i op ∧ Roster.Whole size sent i op)
      (Faithful r size sent) (Carried r sent) where
  act i s op h ha := by
    obtain ⟨-, hgenuine⟩ := consoles_local.act i s op h.truthful ha.1
    refine ⟨exec_faithful hsize h ha.1 ha.2, fun m hm j hj => ⟨hgenuine m hm j hj, ?_⟩⟩
    obtain ⟨f, hf, rfl⟩ := List.mem_map.mp hm
    exact fun hip hudp => ⟨i, exec_carried h ha.1 ha.2 hf hip hudp⟩
  react i s m h hm := by
    obtain ⟨-, hgenuine⟩ := consoles_local.react i s m h.truthful hm.genuine
    refine ⟨onFrame_faithful h hm, fun m' hm' j hj => ⟨hgenuine m' hm' j hj, fun hip hudp => ?_⟩⟩
    obtain ⟨f, hf, rfl⟩ := List.mem_map.mp hm'
    obtain ⟨-, -, -, hicmp, -⟩ := onFrame_genuine h.truthful hm.genuine hf
    exact absurd ((hicmp hip).symm.trans hudp) (by decide)

/-- Console `k` was told to send these bytes. -/
def sentIn (es : List (Happening (Fin n) Op)) (k : Fin n) (buf : List U8) : Prop :=
  ∃ vfd dstIp dstPort, .act k (.udpSendTo vfd dstIp dstPort buf) ∈ es

theorem start_faithful (hsize : Ip4.MinHeader + (Udp4.Header + size) ≤ 1500) (s : Fin n → VNet) :
    Parties.Holds (Faithful r size sent) (Carried r sent) (r.start s) where
  state i := ⟨reset_truthful i (s i), hsize, .empty, reset_models (s i), fun _ d hd => by cases hd⟩
  pending _ hd := by cases hd

/-- **Where every datagram fits one packet at every MTU set, what a socket holds was
sent, byte for byte, by the console whose address it bears, whatever the network does
to the frames.** -/
theorem received_sent (r : Roster n) (size : Nat) (hsize : Ip4.MinHeader + (Udp4.Header + size) ≤ 1500)
    (s : Fin n → VNet) (es : List (Happening (Fin n) Op))
    (ha : ∀ e ∈ es, e.Permitted fun i op => r.Allowed i op ∧ Roster.Whole size (fun _ _ => True) i op)
    (t : Medium (Fin n) VNet OnAir) (hr : r.consoles.system.run (r.start s) es = some t) (i : Fin n)
    (sock : Fin MaxSockets) :
    ∀ d ∈ (t.state i).queued sock, ∃ k, d.srcIp = r.ip k ∧ sentIn es k d.bytes := by
  have hlocal : Parties.Local r.consoles (fun i op => r.Allowed i op ∧ Roster.Whole size (sentIn es) i op)
      (Faithful r size (sentIn es)) (Carried r (sentIn es)) := consoles_faithful hsize
  have hpermitted : ∀ e ∈ es, e.Permitted fun i op => r.Allowed i op ∧ Roster.Whole size (sentIn es) i op := by
    intro e he
    have hp := ha e he
    cases e with
    | act i op =>
      obtain ⟨hallowed, hwhole⟩ := hp
      refine ⟨hallowed, ?_⟩
      cases op with
      | udpSendTo vfd dstIp dstPort buf => exact ⟨hwhole.1, vfd, dstIp, dstPort, he⟩
      | configure mac ip netmask mtu => exact hwhole
      | _ => trivial
    | _ => trivial
  obtain ⟨b, hm, hb⟩ := ((hlocal.run es (start_faithful hsize s) hpermitted hr).state i).queued
  intro d hd
  rw [← (hm.queued sock).1] at hd
  exact hb sock d hd

/-- The first console broadcasts two bytes, which the second one's socket takes. -/
def talking : List (Happening (Fin 2) Op) :=
  [.act here (.configure (pair.mac here) (pair.ip here) 0xFFFFFF00 1500), .act here .setEmit, .act here .udpOpen,
    .act there (.configure (pair.mac there) (pair.ip there) 0xFFFFFF00 1500), .act there .udpOpen,
    .act there (.udpBind 0 0 6000),
    .act here (.udpSendTo 0 0x0A0000FF 6000 [0x68, 0x69]), .deliver 0]

theorem received_sent_pair :
    ∃ t, pair.consoles.system.run (pair.start fun _ => .fresh) talking = some t ∧
      ∀ d ∈ (t.state 1).queued 0, ∃ k, d.srcIp = pair.ip k ∧ sentIn talking k d.bytes :=
  ⟨_, rfl, received_sent pair 1472 (by decide) (fun _ => .fresh) talking
    (by simp [talking, Happening.Permitted, Roster.Allowed, Roster.Whole, Ip4.MinHeader, Udp4.Header]) _ rfl 1
    ⟨0, by decide⟩⟩

end SysZerotier.Net
