import SysZerotier.Port.Lan
import SysZerotier.Library.Runs

/-! The address the interface presents against the ones the controller assigns
(`Port::cbNetworkConfig` in `source/zt_port.cpp`).

The callback configures the interface for the first IPv4 address of the list, and
resets it when the network goes down. `Tracks` is what a reader of `configured`
expects after each callback; `addresses_tracked_iff` says which callbacks leave it so:
not a list without an IPv4 address while the interface has one, and not a prefix of
more than 32 bits. -/
namespace SysZerotier.Port
open Net Library

/-- One call of `cbNetworkConfig`. -/
structure Callback where
  op : ConfigOperation
  conf : NetworkConfig

def Callback.apply (e : Callback) (v : VNet) : VNet := cbNetworkConfig v e.op e.conf

/-- The network is up with what the callback reports. -/
def Callback.live (e : Callback) : Bool := e.op == .up || e.op == .configUpdate

/-- The IPv4 address that is to be presented. -/
def NetworkConfig.address (conf : NetworkConfig) : Option AssignedAddress :=
  conf.assignedAddresses.find? fun a => a.inet

/-- The count of `0xFFFFFFFFu << (32 - bits)`, an `unsigned int`, where it is executed. -/
def shiftCount (bits : U16) : Option U32 := if bits = 0 then none else some (32 - bits.setWidth 32)

/-- The mask has the first `n` bits set. -/
def TopOnes (mask : U32) (n : Nat) : Prop := ∀ i < 32, mask.getMsbD i = decide (i < n)

instance (mask : U32) (n : Nat) : Decidable (TopOnes mask n) := by
  unfold TopOnes
  infer_instance

/-- After the callback the interface presents the assigned address, and nothing when
there is none. -/
structure Tracks (v : VNet) (e : Callback) : Prop where
  configured : (e.apply v).configured = (e.live && e.conf.address.isSome)
  address : ∀ a ∈ e.conf.address, e.live = true →
    (e.apply v).ip = a.ip ∧ TopOnes (e.apply v).netmask (min a.bits.toNat 32)
  shift : ∀ a ∈ e.conf.address, e.live = true → ∀ n ∈ shiftCount a.bits, n.toNat ≤ 31

/-- The callback takes the interface down, or the list starts with an address it can
mask, or there is nothing to withdraw. -/
def current (v : VNet) (e : Callback) : Bool :=
  !e.live ||
    match e.conf.address with
    | some a => decide (a.bits.toNat ≤ 32)
    | none => !v.configured

/-! ### One callback -/

/-- A shift by less than 32 makes the mask of its prefix. -/
theorem prefixMask_topOnes {bits : U16} (h : bits.toNat ≤ 32) : TopOnes (prefixMask bits) bits.toNat := by
  intro i hi
  unfold prefixMask
  by_cases h0 : bits = 0
  · rw [if_pos h0, h0]
    simp
  · rw [if_neg h0, BitVec.getMsbD_shiftLeft]
    have hones : ∀ k, (0xFFFFFFFF : U32).getMsbD k = decide (k < 32) := by
      intro k
      rw [show (0xFFFFFFFF : U32) = BitVec.allOnes 32 from rfl, BitVec.getMsbD_allOnes]
    rw [hones]
    congr 1
    rw [eq_iff_iff]
    omega

theorem shiftCount_le_iff (bits : U16) : (∀ n ∈ shiftCount bits, n.toNat ≤ 31) ↔ bits.toNat ≤ 32 := by
  have hlt := bits.isLt
  unfold shiftCount
  by_cases h0 : bits = 0
  · rw [if_pos h0, h0]
    simp
  · rw [if_neg h0]
    have hpos : 0 < bits.toNat := by
      rw [Nat.pos_iff_ne_zero]
      exact fun hz => h0 (BitVec.eq_of_toNat_eq hz)
    have hcount : (32 - bits.setWidth 32 : U32).toNat = (2 ^ 32 - bits.toNat + 32) % 2 ^ 32 := by
      rw [BitVec.toNat_sub, BitVec.toNat_setWidth, Nat.mod_eq_of_lt (show bits.toNat < 2 ^ 32 by omega)]
      rfl
    constructor
    · intro h
      have hle := h _ rfl
      rw [hcount] at hle
      omega
    · intro h n hn
      obtain rfl := Option.some.inj hn
      rw [hcount]
      omega

theorem apply_live {v : VNet} {e : Callback} (h : e.live = true) :
    e.apply v = match e.conf.address with
      | none => v
      | some a => v.configure e.conf.mac a.ip (prefixMask a.bits) (e.conf.mtu.setWidth 16) := by
  obtain ⟨op, conf⟩ := e
  cases op with
  | up | configUpdate => rfl
  | down | destroy => cases h

theorem apply_down {v : VNet} {e : Callback} (h : e.live = false) : e.apply v = v.reset.setEmit := by
  obtain ⟨op, conf⟩ := e
  cases op with
  | up | configUpdate => cases h
  | down | destroy => rfl

theorem tracks_iff (v : VNet) (e : Callback) : Tracks v e ↔ current v e = true := by
  cases hlive : e.live with
  | false =>
    have hcurrent : current v e = true := by simp [current, hlive]
    refine ⟨fun _ => hcurrent, fun _ => ⟨?_, ?_, ?_⟩⟩
    · rw [apply_down hlive, hlive]
      rfl
    · intro a _ h
      rw [hlive] at h
      cases h
    · intro a _ h
      rw [hlive] at h
      cases h
  | true =>
    have happly := apply_live (v := v) hlive
    cases haddr : e.conf.address with
    | none =>
      rw [haddr] at happly
      simp only [current, hlive, haddr, Bool.not_true, Bool.false_or, Bool.not_eq_true']
      constructor
      · rintro ⟨hconfigured, -, -⟩
        rw [happly, hlive, haddr] at hconfigured
        exact hconfigured
      · intro hidle
        refine ⟨?_, fun a ha => ?_, fun a ha => ?_⟩
        · rw [happly, hlive, haddr]
          exact hidle
        · rw [haddr] at ha
          cases ha
        · rw [haddr] at ha
          cases ha
    | some a =>
      rw [haddr] at happly
      simp only [current, hlive, haddr, Bool.not_true, Bool.false_or, decide_eq_true_eq]
      rw [← shiftCount_le_iff]
      constructor
      · intro h
        exact h.shift a haddr hlive
      · intro hshift
        refine ⟨?_, fun b hb _ => ?_, fun b hb _ => ?_⟩
        · rw [happly, hlive, haddr]
          rfl
        · obtain rfl := Option.some.inj (haddr.symm.trans hb)
          have hbits := (shiftCount_le_iff a.bits).mp hshift
          rw [happly, Nat.min_eq_left hbits]
          exact ⟨rfl, prefixMask_topOnes hbits⟩
        · obtain rfl := Option.some.inj (haddr.symm.trans hb)
          exact hshift

instance (v : VNet) (e : Callback) : Decidable (Tracks v e) := decidable_of_iff _ (tracks_iff v e).symm

/-! ### Sequences of callbacks -/

/-- What happens to the interface: a callback, or any use of it in between. -/
inductive Happening where
  | callback (e : Callback)
  | use (op : VNet.Op)

def interface : System VNet Happening where
  step v
    | .callback e => some (e.apply v)
    | .use op => some (v.exec op).1

def tracked (v : VNet) : Happening → Bool
  | .callback e => decide (Tracks v e)
  | .use _ => true

def steady (v : VNet) : Happening → Bool
  | .callback e => current v e
  | .use _ => true

/-- **The interface presents the assigned address after every callback exactly when no
callback leaves an old one standing or brings a prefix that cannot be shifted**, in
every sequence of callbacks and whatever is done with the interface in between. -/
theorem addresses_tracked_iff (v : VNet) (es : List Happening) :
    interface.meets tracked v es = true ↔ interface.meets steady v es = true := by
  have heq : tracked = steady := by
    funext v e
    cases e with
    | callback e =>
      show decide (Tracks v e) = current v e
      rw [Bool.eq_iff_iff, decide_eq_true_iff]
      exact tracks_iff v e
    | use op => rfl
  rw [heq]

/-- An update without the address leaves it in place. -/
theorem withdrawn_address_kept :
    ¬∀ (v : VNet) (es : List Happening), interface.meets tracked v es = true := by
  intro h
  exact absurd
    (h VNet.fresh.reset
      [.callback ⟨.up, ⟨0x020000000001, 1500, [⟨true, 0x0A000001, 24⟩]⟩⟩,
        .callback ⟨.configUpdate, ⟨0x020000000001, 1500, []⟩⟩])
    (by decide)

end SysZerotier.Port
