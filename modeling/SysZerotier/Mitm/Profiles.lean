import SysZerotier.Port.Lan

/-! Network profiles (`source/mitm/nifm_shim.cpp`).

A client that reads a profile sees the managed address in it, since a title takes its
address from there. What is written is forwarded as it is: nothing puts back what the
reading replaced. So a profile that is read and written back arrives with the managed
address where there was one, and otherwise as it was (`profile_written_back`). -/
namespace SysZerotier.Mitm.Profiles
open Net Port

structure NifmIpV4Address where
  addr0 : U8
  addr1 : U8
  addr2 : U8
  addr3 : U8
  deriving DecidableEq

structure NifmIpAddressSetting where
  automatic : U8
  current : NifmIpV4Address
  mask : NifmIpV4Address
  gateway : NifmIpV4Address
  deriving DecidableEq

structure NifmDnsSetting where
  automatic : U8
  primary : NifmIpV4Address
  secondary : NifmIpV4Address
  deriving DecidableEq

structure NifmIpConfigInfo where
  ip : NifmIpAddressSetting
  dns : NifmDnsSetting
  deriving DecidableEq

/-- The profile; `rest` is only relayed. -/
structure NifmSfNetworkProfileData where
  ipConfig : NifmIpConfigInfo
  rest : Vector U8 (0x17C - 22)
  deriving DecidableEq

abbrev NifmUuid := BitVec 128

def putIp (ip : U32) : NifmIpV4Address :=
  ⟨(ip >>> 24).setWidth 8, (ip >>> 16).setWidth 8, (ip >>> 8).setWidth 8, ip.setWidth 8⟩

/-- The address of the four bytes. -/
def ipOf (a : NifmIpV4Address) : U32 := be16 a.addr0 a.addr1 ++ be16 a.addr2 a.addr3

/-- `g_port`'s managed address and mask, if it has them. -/
def getIp (port : Option VNet) : Option (U32 × U32) := port.bind getLanIpConfig

/-- The configuration that a client sees, and the physical address and mask that were observed. -/
def rewriteIpConfig (port : Option VNet) (value : NifmIpConfigInfo) : NifmIpConfigInfo × Option (U32 × U32) :=
  match getIp port with
  | none => (value, none)
  | some (ip, mask) =>
    ({ value with ip := { automatic := 1, current := putIp ip, mask := putIp mask, gateway := putIp 0 } },
      some (ipOf value.ip.current, ipOf value.ip.mask))

/-! ### Commands -/

/-- What real nifm answers, or nothing where a command fails. -/
structure NifmService where
  currentNetworkProfile : Option NifmSfNetworkProfileData
  networkProfile : NifmUuid → Option NifmSfNetworkProfileData

def rewritten (port : Option VNet) (profile : NifmSfNetworkProfileData) : NifmSfNetworkProfileData :=
  { profile with ipConfig := (rewriteIpConfig port profile.ipConfig).1 }

def getCurrentNetworkProfile (port : Option VNet) (service : NifmService) : Option NifmSfNetworkProfileData :=
  service.currentNetworkProfile.map (rewritten port)

def getNetworkProfile (port : Option VNet) (service : NifmService) (profileId : NifmUuid) :
    Option NifmSfNetworkProfileData :=
  (service.networkProfile profileId).map (rewritten port)

/-- What real nifm receives. -/
def setNetworkProfile (profile : NifmSfNetworkProfileData) : NifmSfNetworkProfileData := profile

/-! ### Reading and writing back -/

/-- The commands that a client reads a profile with. -/
inductive Reading where
  | current
  | byId (profileId : NifmUuid)

def Reading.real (service : NifmService) : Reading → Option NifmSfNetworkProfileData
  | .current => service.currentNetworkProfile
  | .byId profileId => service.networkProfile profileId

def Reading.obtained (port : Option VNet) (service : NifmService) : Reading → Option NifmSfNetworkProfileData
  | .current => getCurrentNetworkProfile port service
  | .byId profileId => getNetworkProfile port service profileId

/-- What real nifm receives when the client writes back what it obtained. -/
def Reading.writtenBack (r : Reading) (port : Option VNet) (service : NifmService) :
    Option NifmSfNetworkProfileData := (r.obtained port service).map setNetworkProfile

theorem Reading.obtained_eq (r : Reading) (port : Option VNet) (service : NifmService) :
    r.obtained port service = (r.real service).map (rewritten port) := by
  cases r <;> rfl

/-- The address settings that stand for a managed address. -/
def managed (ip mask : U32) : NifmIpAddressSetting := ⟨1, putIp ip, putIp mask, putIp 0⟩

theorem rewritten_none {port : Option VNet} (h : getIp port = none) (profile : NifmSfNetworkProfileData) :
    rewritten port profile = profile := by
  rw [rewritten, rewriteIpConfig, h]

theorem rewritten_some {port : Option VNet} {ip mask : U32} (h : getIp port = some (ip, mask))
    (profile : NifmSfNetworkProfileData) :
    rewritten port profile = { profile with ipConfig := { profile.ipConfig with ip := managed ip mask } } := by
  rw [rewritten, rewriteIpConfig, h]
  rfl

/-- The address that is put there is the one that is read from it. -/
theorem ipOf_putIp (ip : U32) : ipOf (putIp ip) = ip := by
  have hip := ip.isLt
  apply BitVec.eq_of_toNat_eq
  rw [ipOf, BitVec.toNat_append, ← Nat.shiftLeft_add_eq_or_of_lt (BitVec.isLt _), Nat.shiftLeft_eq, be16_toNat,
    be16_toNat]
  simp only [putIp, BitVec.toNat_setWidth, BitVec.toNat_ushiftRight, Nat.shiftRight_eq_div_pow]
  omega

/-- **A profile that is read and written back** arrives with the managed address in it, and unchanged
exactly when there is no managed address or the profile has it already. -/
theorem profile_written_back (r : Reading) (port : Option VNet) {service : NifmService}
    {profile : NifmSfNetworkProfileData} (h : r.real service = some profile) :
    ∃ received, r.writtenBack port service = some received ∧
      received.rest = profile.rest ∧ received.ipConfig.dns = profile.ipConfig.dns ∧
      (∀ ip mask, getIp port = some (ip, mask) → received.ipConfig.ip = managed ip mask) ∧
      (received = profile ↔ ∀ ip mask, getIp port = some (ip, mask) → profile.ipConfig.ip = managed ip mask) := by
  refine ⟨rewritten port profile, ?_, ?_⟩
  · rw [Reading.writtenBack, r.obtained_eq, h]
    rfl
  · cases hip : getIp port with
    | none =>
      rw [rewritten_none hip]
      exact ⟨rfl, rfl, fun _ _ hsome => (by cases hsome), iff_of_true rfl fun _ _ hsome => (by cases hsome)⟩
    | some config =>
      obtain ⟨ip, mask⟩ := config
      rw [rewritten_some hip]
      refine ⟨rfl, rfl, fun ip' mask' hsome => ?_, ?_⟩
      · cases hsome
        rfl
      · constructor
        · intro hsame ip' mask' hsome
          cases hsome
          exact (congrArg (fun p => p.ipConfig.ip) hsame).symm
        · intro hmanaged
          rw [← hmanaged ip mask rfl]

/-! ### A profile of a home network -/

/-- An interface with a managed address. -/
def managedPort : VNet := VNet.fresh.configure 0x020000000001 0x0A930001 0xFFFF0000 1500

/-- A profile with an address of the router. -/
def homeProfile : NifmSfNetworkProfileData where
  ipConfig.ip := ⟨1, ⟨192, 168, 1, 5⟩, ⟨255, 255, 255, 0⟩, ⟨192, 168, 1, 1⟩⟩
  ipConfig.dns := ⟨1, ⟨192, 168, 1, 1⟩, ⟨0, 0, 0, 0⟩⟩
  rest := Vector.replicate _ 0

/-- Real nifm with that profile. -/
def homeService : NifmService := ⟨some homeProfile, fun _ => some homeProfile⟩

theorem home_profile_restored :
    Reading.current.writtenBack none homeService = some homeProfile := by
  obtain ⟨received, hreceived, -, -, -, hsame⟩ :=
    profile_written_back .current none (show Reading.current.real homeService = some homeProfile from rfl)
  rw [hreceived, hsame.mpr fun ip mask hip => by cases hip]

/-- The managed address is written to the console's settings. -/
theorem home_profile_overwritten :
    ¬∀ (r : Reading) (port : Option VNet) (service : NifmService) (profile : NifmSfNetworkProfileData),
      r.real service = some profile → r.writtenBack port service = some profile := by
  intro h
  have hsame := h .current (some managedPort) homeService homeProfile rfl
  exact absurd hsame (by decide)

end SysZerotier.Mitm.Profiles
